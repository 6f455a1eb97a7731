import SafariLaundry.Domain
import SafariLaundry.Library.History

/-!
# Collections workflow

An operator's request reads the collections account of a customer, checks the stage it
read, and writes the account by its id with one event of the trail.  The write asks
nothing of the stage again, so what it was checked against may be past.
-/

namespace SafariLaundry

open Library

inductive CollectionsStage
  | NEW | CONTACTED | FOLLOW_UP | PROMISE_TO_PAY | ESCALATED | LEGAL | WRITTEN_OFF | CLOSED
  deriving DecidableEq

namespace CollectionsStage

def name : CollectionsStage → String
  | NEW => "NEW"
  | CONTACTED => "CONTACTED"
  | FOLLOW_UP => "FOLLOW_UP"
  | PROMISE_TO_PAY => "PROMISE_TO_PAY"
  | ESCALATED => "ESCALATED"
  | LEGAL => "LEGAL"
  | WRITTEN_OFF => "WRITTEN_OFF"
  | CLOSED => "CLOSED"

def slaHours : CollectionsStage → ℕ
  | NEW => 24
  | CONTACTED => 48
  | FOLLOW_UP => 72
  | PROMISE_TO_PAY => 24
  | ESCALATED => 24
  | LEGAL => 168
  | WRITTEN_OFF => 0
  | CLOSED => 0

def rank : CollectionsStage → ℕ
  | NEW => 0
  | CONTACTED => 1
  | FOLLOW_UP => 2
  | PROMISE_TO_PAY => 3
  | ESCALATED => 4
  | LEGAL => 5
  | WRITTEN_OFF => 6
  | CLOSED => 6

def IsTerminal (stage : CollectionsStage) : Prop := stage = WRITTEN_OFF ∨ stage = CLOSED
  deriving Decidable

end CollectionsStage

structure CollectionsAccount where
  (id customerId : Uuid)
  currentStage : CollectionsStage
  stageUpdatedAt : Timestamp
  (stageUpdatedById assignedCollectorId : Option Uuid)
  escalationLevel : ℕ
  (closedAt lastContactAt nextActionDueAt : Option Timestamp)
  writeOffAmountKd : Option ℤ
  deriving DecidableEq

inductive StagePayload
  | opened (assignedCollectorId : Option Uuid)
  | transitioned (writeOffAmountKd : Option ℤ) (nextActionDueAt : Option Timestamp)
  | assigned (previousCollectorId newCollectorId : Option Uuid)
  | contact (notes : Option String)
  | reopened (reopenedFrom : CollectionsStage)

structure CollectionsStageEvent where
  accountId : Uuid
  fromStage : Option CollectionsStage
  toStage : CollectionsStage
  actorId : Option Uuid
  reason : Option String
  payload : StagePayload
  (escalationLevelBefore escalationLevelAfter : Option ℕ)

/-- What the tables hold of one customer, whose id is unique among the accounts; the
events are oldest first. -/
structure CollectionsFile where
  account : Option CollectionsAccount
  stageEvents : List CollectionsStageEvent

/-! ## Requests -/

def computeNextDue (now : Timestamp) (stage : CollectionsStage) : Option Timestamp :=
  if stage.slaHours = 0 then none else some (now + stage.slaHours * 60 * 60 * 1000)

structure StageWrite where
  data : CollectionsAccount → CollectionsAccount
  event : CollectionsStageEvent

structure TransitionInput where
  toStage : CollectionsStage
  actorId : Option Uuid
  reason : Option String
  nextActionDueAt : Option Timestamp
  writeOffAmountKd : Option ℤ

namespace TransitionInput

variable (input : TransitionInput) (now : Timestamp) (account : CollectionsAccount)

def escalationAfter : ℕ :=
  if input.toStage = .ESCALATED ∨ input.toStage = .LEGAL then account.escalationLevel + 1
  else account.escalationLevel

def writeOff : Option ℤ :=
  match input.writeOffAmountKd with
  | some amount => some amount
  | none => if input.toStage = .WRITTEN_OFF then account.writeOffAmountKd else none

def nextDue : Option Timestamp :=
  input.nextActionDueAt <|> computeNextDue now input.toStage

def write : StageWrite where
  data := fun current => { current with
    currentStage := input.toStage
    stageUpdatedAt := now
    stageUpdatedById := input.actorId
    escalationLevel := input.escalationAfter account
    closedAt := if input.toStage.IsTerminal then some now else none
    nextActionDueAt := if input.toStage.IsTerminal then none else input.nextDue now
    writeOffAmountKd := input.writeOff account }
  event := {
    accountId := account.id
    fromStage := some account.currentStage
    toStage := input.toStage
    actorId := input.actorId
    reason := input.reason
    payload := .transitioned (input.writeOff account) (input.nextDue now)
    escalationLevelBefore := some account.escalationLevel
    escalationLevelAfter := some (input.escalationAfter account) }

end TransitionInput

namespace CollectionsAccount

def transition (input : TransitionInput) (now : Timestamp) (account : CollectionsAccount) :
    Except ServiceError (Option StageWrite) :=
  if input.toStage.rank < account.currentStage.rank then
    .error (.badRequest ("Forward-only collections workflow: cannot regress " ++
      account.currentStage.name ++ " → " ++ input.toStage.name))
  else if input.toStage.rank = account.currentStage.rank ∧
      input.toStage = account.currentStage ∧ input.toStage ≠ .WRITTEN_OFF then
    .ok none
  else if input.toStage = .WRITTEN_OFF ∧ input.writeOff account = none then
    .error (.badRequest "WRITTEN_OFF requires writeOffAmountKd")
  else .ok (some (input.write now account))

def assign (collectorId actorId : Option Uuid) (account : CollectionsAccount) : StageWrite where
  data := fun current => { current with assignedCollectorId := collectorId }
  event := {
    accountId := account.id
    fromStage := some account.currentStage
    toStage := account.currentStage
    actorId := actorId
    reason := some "ASSIGNED"
    payload := .assigned account.assignedCollectorId collectorId
    escalationLevelBefore := none
    escalationLevelAfter := none }

def recordContact (actorId : Option Uuid) (notes : Option String) (now : Timestamp)
    (account : CollectionsAccount) : StageWrite :=
  if account.currentStage = .NEW then {
    data := fun current => { current with
      lastContactAt := some now
      currentStage := .CONTACTED
      stageUpdatedAt := now
      stageUpdatedById := actorId
      nextActionDueAt := computeNextDue now .CONTACTED }
    event := {
      accountId := account.id
      fromStage := some .NEW
      toStage := .CONTACTED
      actorId := actorId
      reason := some "AUTO_CONTACTED"
      payload := .contact notes
      escalationLevelBefore := none
      escalationLevelAfter := none } }
  else {
    data := fun current => { current with lastContactAt := some now }
    event := {
      accountId := account.id
      fromStage := some account.currentStage
      toStage := account.currentStage
      actorId := actorId
      reason := some "CONTACT_LOGGED"
      payload := .contact notes
      escalationLevelBefore := none
      escalationLevelAfter := none } }

def reopen (actorId : Option Uuid) (reason : Option String) (now : Timestamp)
    (account : CollectionsAccount) : Except ServiceError StageWrite :=
  if ¬ account.currentStage.IsTerminal then
    .error (.badRequest "Reopen only allowed on WRITTEN_OFF or CLOSED accounts")
  else .ok {
    data := fun current => { current with
      currentStage := .NEW
      stageUpdatedAt := now
      stageUpdatedById := actorId
      escalationLevel := 0
      closedAt := none
      nextActionDueAt := computeNextDue now .NEW
      writeOffAmountKd := none }
    event := {
      accountId := account.id
      fromStage := some account.currentStage
      toStage := .NEW
      actorId := actorId
      reason := some (reason.getD "REOPENED")
      payload := .reopened account.currentStage
      escalationLevelBefore := some account.escalationLevel
      escalationLevelAfter := some 0 } }

end CollectionsAccount

inductive CollectionsRequest
  | transition (input : TransitionInput)
  | assign (collectorId actorId : Option Uuid)
  | recordContact (actorId : Option Uuid) (notes : Option String)
  | reopen (actorId : Option Uuid) (reason : Option String)

def CollectionsRequest.run (request : CollectionsRequest) (now : Timestamp) :
    Option CollectionsAccount → Except ServiceError (Option StageWrite)
  | none =>
      match request with
      | .transition _ =>
          .error (.notFound "CollectionsAccount not found — call openOrGet() first")
      | _ => .error (.notFound "CollectionsAccount not found")
  | some account =>
      match request with
      | .transition input => account.transition input now
      | .assign collectorId actorId => .ok (some (account.assign collectorId actorId))
      | .recordContact actorId notes => .ok (some (account.recordContact actorId notes now))
      | .reopen actorId reason => (account.reopen actorId reason now).map some

structure CollectionsCall where
  read : CollectionsFile
  now : Timestamp
  request : CollectionsRequest

def CollectionsCall.write? (call : CollectionsCall) : Option StageWrite :=
  match call.request.run call.now call.read.account with
  | .ok write => write
  | .error _ => none

def StageWrite.apply (write : StageWrite) (file : CollectionsFile) : CollectionsFile :=
  match file.account with
  | some account =>
      { account := some (write.data account)
        stageEvents := file.stageEvents ++ [write.event] }
  -- the row to update is gone
  | none => file

def CollectionsCall.apply (call : CollectionsCall) (file : CollectionsFile) : CollectionsFile :=
  match call.write? with
  | some write => write.apply file
  | none => file

def collectionsCalls : Calls CollectionsFile CollectionsCall where
  step := CollectionsCall.apply
  seen := fun call => [call.read]

/-- Every event starts from the stage where the one before it ended, and the account is
where the last one ended. -/
structure TrailSound (file : CollectionsFile) : Prop where
  chain : file.stageEvents.IsChain fun event next => next.fromStage = some event.toStage
  current : ∀ account, file.account = some account →
    ∃ event, file.stageEvents.getLast? = some event ∧ event.toStage = account.currentStage

def CollectionsRequest.IsReopen : CollectionsRequest → Prop
  | .reopen .. => True
  | _ => False

def CollectionsFile.rank (file : CollectionsFile) : ℕ :=
  match file.account with
  | some account => account.currentStage.rank
  | none => 0

/-- The trail is sound all along, and only a reopening lowers the rank. -/
structure CollectionsSound (calls : List CollectionsCall) (trace : List CollectionsFile) :
    Prop where
  trail : ∀ file ∈ trace, TrailSound file
  rank : ∀ found ∈ Calls.occurrences calls trace, ¬ found.1.request.IsReopen →
    found.2.rank ≤ (found.1.apply found.2).rank

def CollectionsCall.ReadsStage (call : CollectionsCall) (file : CollectionsFile) : Prop :=
  ∀ read current, call.read.account = some read → file.account = some current →
    call.write? ≠ none → read.currentStage = current.currentStage

structure StageWritten (request : CollectionsRequest) (read : CollectionsAccount)
    (write : StageWrite) : Prop where
  fromRead : write.event.fromStage = some read.currentStage
  stage : (∀ current, (write.data current).currentStage = write.event.toStage) ∨
    (write.event.toStage = read.currentStage ∧
      ∀ current, (write.data current).currentStage = current.currentStage)
  forward : ¬ request.IsReopen → read.currentStage.rank ≤ write.event.toStage.rank

variable {request : CollectionsRequest} {read : CollectionsAccount} {write : StageWrite}
  {now : Timestamp}

theorem CollectionsAccount.written_transition {input : TransitionInput}
    (hwrite : read.transition input now = .ok (some write)) :
    StageWritten (.transition input) read write := by
  unfold transition at hwrite
  by_cases hregress : input.toStage.rank < read.currentStage.rank
  · rw [if_pos hregress] at hwrite
    cases hwrite
  · rw [if_neg hregress] at hwrite
    split at hwrite
    · cases hwrite
    · split at hwrite
      · cases hwrite
      · cases hwrite
        exact ⟨rfl, .inl fun _ => rfl, fun _ => Nat.le_of_not_lt hregress⟩

theorem CollectionsAccount.written_assign {collectorId actorId : Option Uuid} :
    StageWritten (.assign collectorId actorId) read (read.assign collectorId actorId) :=
  ⟨rfl, .inr ⟨rfl, fun _ => rfl⟩, fun _ => Nat.le_refl _⟩

theorem CollectionsAccount.written_recordContact {actorId : Option Uuid} {notes : Option String} :
    StageWritten (.recordContact actorId notes) read (read.recordContact actorId notes now) := by
  unfold recordContact
  by_cases hnew : read.currentStage = .NEW
  · rw [if_pos hnew]
    refine ⟨congrArg some hnew.symm, .inl fun _ => rfl, ?_⟩
    intro _
    rw [hnew]
    exact Nat.zero_le _
  · rw [if_neg hnew]
    exact ⟨rfl, .inr ⟨rfl, fun _ => rfl⟩, fun _ => Nat.le_refl _⟩

theorem CollectionsAccount.written_reopen {actorId : Option Uuid} {reason : Option String}
    (hwrite : (read.reopen actorId reason now).map some = .ok (some write)) :
    StageWritten (.reopen actorId reason) read write := by
  unfold reopen at hwrite
  by_cases hterminal : ¬ read.currentStage.IsTerminal
  · rw [if_pos hterminal] at hwrite
    cases hwrite
  · rw [if_neg hterminal] at hwrite
    cases hwrite
    exact ⟨rfl, .inl fun _ => rfl, fun hreopen => absurd trivial hreopen⟩

theorem CollectionsCall.written {call : CollectionsCall} (hwrite : call.write? = some write) :
    ∃ read, call.read.account = some read ∧ StageWritten call.request read write := by
  rcases call with ⟨⟨account, events⟩, now, request⟩
  unfold write? at hwrite
  cases account with
  | none => cases request <;> cases hwrite
  | some read =>
      refine ⟨read, rfl, ?_⟩
      have hrun : request.run now (some read) = .ok (some write) := by
        change (match request.run now (some read) with
          | .ok write => write
          | .error _ => none) = some write at hwrite
        cases hresult : request.run now (some read) with
        | error e => rw [hresult] at hwrite; cases hwrite
        | ok result =>
            rw [hresult] at hwrite
            exact congrArg Except.ok hwrite
      cases request with
      | transition input => exact CollectionsAccount.written_transition hrun
      | assign collectorId actorId =>
          cases hrun
          exact CollectionsAccount.written_assign
      | recordContact actorId notes =>
          cases hrun
          exact CollectionsAccount.written_recordContact
      | reopen actorId reason => exact CollectionsAccount.written_reopen hrun

/-! ## One call -/

variable {file start : CollectionsFile} {call : CollectionsCall}

theorem StageWritten.trailSound_iff {current : CollectionsAccount}
    (hwritten : StageWritten request read write) (hcurrent : file.account = some current)
    (hsound : TrailSound file) :
    TrailSound (write.apply file) ↔ read.currentStage = current.currentStage := by
  obtain ⟨event, hlast, hends⟩ := hsound.current current hcurrent
  have happly : write.apply file =
      ⟨some (write.data current), file.stageEvents ++ [write.event]⟩ := by
    unfold StageWrite.apply
    rw [hcurrent]
  rw [happly]
  constructor
  · intro hafter
    have hlink := (List.isChain_append.1 hafter.chain).2.2 event hlast write.event rfl
    rw [hwritten.fromRead, hends] at hlink
    exact Option.some.inj hlink
  · intro hread
    constructor
    · refine List.isChain_append.2 ⟨hsound.chain, List.isChain_singleton _, ?_⟩
      intro last hlast' next hnext
      cases hnext
      rw [hlast] at hlast'
      cases hlast'
      rw [hwritten.fromRead, hends, hread]
    · intro account haccount
      cases haccount
      refine ⟨write.event, List.getLast?_concat, ?_⟩
      rcases hwritten.stage with hmoved | ⟨hsame, hkept⟩
      · exact (hmoved current).symm
      · rw [hsame, hkept, hread]

theorem CollectionsCall.trailSound_iff (call : CollectionsCall) (hsound : TrailSound file) :
    TrailSound (call.apply file) ↔ call.ReadsStage file := by
  unfold apply
  cases hwrite : call.write? with
  | none =>
      simp only [ReadsStage]
      rw [hwrite]
      exact iff_of_true hsound fun _ _ _ _ hwrites => absurd rfl hwrites
  | some write =>
      obtain ⟨read, hread, hwritten⟩ := written hwrite
      simp only
      cases hcurrent : file.account with
      | none =>
          have hkept : write.apply file = file := by
            unfold StageWrite.apply
            rw [hcurrent]
          rw [hkept]
          refine iff_of_true hsound ?_
          intro _ _ _ hgone
          rw [hcurrent] at hgone
          cases hgone
      | some current =>
          rw [hwritten.trailSound_iff hcurrent hsound]
          constructor
          · intro hsame read' current' hread' hcurrent' _
            rw [hread] at hread'
            rw [hcurrent] at hcurrent'
            cases hread'
            cases hcurrent'
            exact hsame
          · intro hreads
            exact hreads read current hread hcurrent (by rw [hwrite]; exact Option.some_ne_none _)

theorem CollectionsCall.rank_le (hreads : call.ReadsStage file)
    (hreopen : ¬ call.request.IsReopen) :
    file.rank ≤ (call.apply file).rank := by
  unfold apply
  cases hwrite : call.write? with
  | none => exact Nat.le_refl _
  | some write =>
      obtain ⟨read, hread, hwritten⟩ := written hwrite
      unfold StageWrite.apply CollectionsFile.rank
      cases hcurrent : file.account with
      | none =>
          simp only
          rw [hcurrent]
      | some current =>
          have hsame : read.currentStage = current.currentStage :=
            hreads read current hread hcurrent (by rw [hwrite]; exact Option.some_ne_none _)
          simp only
          rcases hwritten.stage with hmoved | ⟨_, hkept⟩
          · rw [hmoved, ← hsame]
            exact hwritten.forward hreopen
          · rw [hkept]

/-- The trail is sound and the rank kept exactly if every call that writes has read the
stage that the account has by then. -/
theorem collections_sound_iff {calls : List CollectionsCall} {trace : List CollectionsFile}
    (hstart : TrailSound start)
    (hlog : collectionsCalls.Log (fun _ _ => True) start calls trace) :
    CollectionsSound calls trace ↔
      ∀ found ∈ Calls.occurrences calls trace, found.1.ReadsStage found.2 := by
  have htrail := hlog.invariant_iff (I := TrailSound) (Q := CollectionsCall.ReadsStage) hstart
    fun call _ hsound _ => call.trailSound_iff hsound
  constructor
  · intro hsound
    exact htrail.1 hsound.trail
  · intro hreads
    refine ⟨htrail.2 hreads, ?_⟩
    intro found hfound hreopen
    exact CollectionsCall.rank_le (hreads found hfound) hreopen

namespace Sample

def newAccount : CollectionsAccount where
  id := "account"
  customerId := "customer"
  currentStage := .NEW
  stageUpdatedAt := 0
  stageUpdatedById := none
  assignedCollectorId := none
  escalationLevel := 0
  closedAt := none
  lastContactAt := none
  nextActionDueAt := computeNextDue 0 .NEW
  writeOffAmountKd := none

def accountOpened : CollectionsStageEvent where
  accountId := "account"
  fromStage := none
  toStage := .NEW
  actorId := none
  reason := some "OPENED"
  payload := .opened none
  escalationLevelBefore := none
  escalationLevelAfter := some 0

def openedFile : CollectionsFile := ⟨some newAccount, [accountOpened]⟩

def toCourt : CollectionsCall := ⟨openedFile, 1, .transition ⟨.LEGAL, none, none, none, none⟩⟩

/-- Another calls the customer, having read the account before that. -/
def lateContact : CollectionsCall := ⟨openedFile, 2, .recordContact none none⟩

def courtFile : CollectionsFile := toCourt.apply openedFile

theorem openedFile_sound : TrailSound openedFile := by
  refine ⟨List.isChain_singleton _, ?_⟩
  intro account haccount
  cases haccount
  exact ⟨accountOpened, rfl, rfl⟩

theorem taken_court :
    collectionsCalls.Log (fun _ _ => True) openedFile [toCourt] [courtFile, openedFile] := by
  apply Calls.Log.call toCourt .start _ trivial
  intro file hfile
  exact hfile

theorem contacted_late :
    collectionsCalls.Log (fun _ _ => True) openedFile [lateContact, toCourt]
      [lateContact.apply courtFile, courtFile, openedFile] := by
  apply Calls.Log.call lateContact taken_court _ trivial
  intro file hfile
  exact .tail _ hfile

end Sample

theorem collections_sound_iff_sample :
    CollectionsSound [Sample.toCourt] [Sample.courtFile, Sample.openedFile] ↔
      ∀ found ∈ Calls.occurrences [Sample.toCourt] [Sample.courtFile, Sample.openedFile],
        found.1.ReadsStage found.2 :=
  collections_sound_iff Sample.openedFile_sound Sample.taken_court

theorem collections_sound_fails :
    ¬ ∀ (start : CollectionsFile) (calls : List CollectionsCall) (trace : List CollectionsFile),
      TrailSound start → collectionsCalls.Log (fun _ _ => True) start calls trace →
      CollectionsSound calls trace := by
  intro hall
  have hsound := hall _ _ _ Sample.openedFile_sound Sample.contacted_late
  have hrank := hsound.rank (Sample.lateContact, Sample.courtFile) (List.mem_cons_self ..) id
  exact absurd hrank (by decide)

end SafariLaundry
