import SafariLaundry.CollectionsWorkflow
import SafariLaundry.Library.Sessions
import SafariLaundry.Promises

/-!
# Opening once

A promise with an idempotency key and the collections account of a customer are to be
created by one of the calls that ask for them and returned by all.  Both services look
the row up, insert it in a transaction with its opening event, and on a unique violation
look it up again inside the transaction that has just failed.
-/

namespace SafariLaundry

open Library Library.Transaction Library.Session List

inductive CreateError
  | badRequest (message : String)
  /-- `P2002`. -/
  | uniqueViolation
  /-- `25P02`: the current transaction is aborted. -/
  | transactionAborted
  deriving DecidableEq

/-! ## Promises -/

structure PromiseRegister where
  promises : Table PromiseToPay.id
  events : List PromiseEvent

abbrev PromiseTx (α : Type) := Library.Transaction CreateError PromiseRegister α

abbrev PromiseSession (α : Type) := Library.Transaction CreateError (Session PromiseRegister) α

/-- The argument of `create`; the amount is in minor units. -/
structure PromiseInput where
  customerId : Uuid
  invoiceId : Option Uuid
  promisedAmount : ℤ
  promisedDate : Timestamp
  collectorId : Uuid
  (notes idempotencyKey : Option String)

structure PromiseResult where
  id : Uuid
  status : PromiseToPayStatus
  created : Bool
  deriving DecidableEq

def PromiseToPay.result (promise : PromiseToPay) (created : Bool) : PromiseResult where
  id := promise.id
  status := promise.status
  created := created

/-- `setUTCHours(0, 0, 0, 0)`. -/
def utcMidnight (now : Timestamp) : Timestamp := now - now % (24 * 60 * 60 * 1000)

def findPromise (key : String) (register : PromiseRegister) : Option PromiseToPay :=
  register.promises.rows.find? fun promise => promise.idempotencyKey = some key

namespace PromiseInput

def validate (input : PromiseInput) (now : Timestamp) : Except CreateError Unit :=
  if input.promisedAmount ≤ 0 then .error (.badRequest "promisedAmount must be > 0")
  else if input.promisedAmount > 100000 * 10000 then
    .error (.badRequest "promisedAmount above sanity bound")
  else if input.promisedDate < utcMidnight now then
    .error (.badRequest "promisedDate cannot be in the past")
  else .ok ()

def key? (input : PromiseInput) : Option String :=
  input.idempotencyKey.filter fun key => key ≠ ""

def row (input : PromiseInput) (id : Uuid) : PromiseToPay where
  id := id
  customerId := input.customerId
  invoiceId := input.invoiceId
  promisedAmount := input.promisedAmount
  promisedDate := input.promisedDate
  status := .ACTIVE
  collectorId := input.collectorId
  notes := input.notes
  idempotencyKey := input.idempotencyKey
  resolvedAt := none
  resolvedById := none
  resolutionNotes := none

def opening (input : PromiseInput) (promise : PromiseToPay) : PromiseEvent where
  promiseId := promise.id
  kind := .CREATED
  actorId := some input.collectorId
  payload := .created input.promisedAmount input.promisedDate input.invoiceId input.notes

end PromiseInput

def insertPromise (keys : FreshKeys Uuid) (input : PromiseInput) : PromiseTx PromiseToPay := do
  let taken ← reads fun register =>
    input.idempotencyKey.bind fun key => findPromise key register
  require (taken = none) .uniqueViolation
  let id ← reads fun register => keys.draw (register.promises.rows.map PromiseToPay.id)
  modify fun register => { register with
    promises := register.promises.insertNew keys input.row fun _ => rfl }
  return input.row id

def insertPromiseEvent (event : PromiseEvent) : PromiseTx PUnit :=
  modify fun register => { register with events := register.events ++ [event] }

def createPromiseBody (keys : FreshKeys Uuid) (input : PromiseInput) :
    PromiseSession PromiseResult :=
  tryCatch
    (do
      let promise ← statement .transactionAborted (insertPromise keys input)
      statement .transactionAborted (insertPromiseEvent (input.opening promise))
      return promise.result true)
    fun err =>
      match input.key? with
      | some key => do
          require (err = .uniqueViolation) err
          let existing ← statement .transactionAborted (reads (findPromise key))
          match existing with
          | some promise => return promise.result false
          | none => throw err
      | none => throw err

def createPromise (keys : FreshKeys Uuid) (now : Timestamp) (input : PromiseInput)
    (read : PromiseRegister) : PromiseTx PromiseResult := do
  ofExcept (input.validate now)
  match input.key?.bind fun key => findPromise key read with
  | some existing => return existing.result false
  | none => block (createPromiseBody keys input)

structure PromiseCreation where
  keys : FreshKeys Uuid
  now : Timestamp
  input : PromiseInput
  read : PromiseRegister

namespace PromiseCreation

def outcome (call : PromiseCreation) (register : PromiseRegister) :
    Except CreateError PromiseResult × PromiseRegister :=
  (createPromise call.keys call.now call.input call.read).outcome register

def Finds (call : PromiseCreation) : Prop :=
  (call.input.key?.bind fun key => findPromise key call.read) ≠ none

def Meets (call : PromiseCreation) (key : String) (register : PromiseRegister) : Prop :=
  call.input.validate call.now = .ok () ∧ (call.Finds ∨ findPromise key register = none)

def Returns (call : PromiseCreation) (register : PromiseRegister) (promise : PromiseToPay) :
    Prop :=
  ∃ created, (call.outcome register).1 = .ok (promise.result created)

end PromiseCreation

def promiseCreations : Calls PromiseRegister PromiseCreation where
  step := fun call register => (call.outcome register).2
  seen := fun call => [call.read]

structure PromiseOpenedOnce (key : String) (register : PromiseRegister)
    (promise : PromiseToPay) : Prop where
  row : (register.promises.rows.filter fun promise => promise.idempotencyKey = some key) = [promise]
  event : (register.events.filter fun event =>
    event.promiseId = promise.id ∧ event.kind = .CREATED).length = 1

structure PromiseOpenings (key : String) (register : PromiseRegister) : Prop where
  owned : ∀ event ∈ register.events, event.promiseId ∈ register.promises.rows.map PromiseToPay.id
  once : findPromise key register ≠ none → ∃ promise, PromiseOpenedOnce key register promise

abbrev AccountTx (α : Type) := Library.Transaction CreateError CollectionsFile α

abbrev AccountSession (α : Type) := Library.Transaction CreateError (Session CollectionsFile) α

structure OpenInput where
  (accountId customerId : Uuid)
  (actorId assignedCollectorId : Option Uuid)

namespace OpenInput

def account (input : OpenInput) (now : Timestamp) : CollectionsAccount where
  id := input.accountId
  customerId := input.customerId
  currentStage := .NEW
  stageUpdatedAt := now
  stageUpdatedById := input.actorId
  assignedCollectorId := input.assignedCollectorId
  escalationLevel := 0
  closedAt := none
  lastContactAt := none
  nextActionDueAt := computeNextDue now .NEW
  writeOffAmountKd := none

def opening (input : OpenInput) (account : CollectionsAccount) : CollectionsStageEvent where
  accountId := account.id
  fromStage := none
  toStage := .NEW
  actorId := input.actorId
  reason := some "OPENED"
  payload := .opened input.assignedCollectorId
  escalationLevelBefore := none
  escalationLevelAfter := some 0

end OpenInput

def insertAccount (now : Timestamp) (input : OpenInput) : AccountTx CollectionsAccount := do
  let taken ← reads CollectionsFile.account
  require (taken = none) .uniqueViolation
  modify fun file => { file with account := some (input.account now) }
  return input.account now

def insertStageEvent (event : CollectionsStageEvent) : AccountTx PUnit :=
  modify fun file => { file with stageEvents := file.stageEvents ++ [event] }

def openAccountBody (now : Timestamp) (input : OpenInput) :
    AccountSession CollectionsAccount :=
  tryCatch
    (do
      let created ← statement .transactionAborted (insertAccount now input)
      statement .transactionAborted (insertStageEvent (input.opening created))
      return created)
    fun err => do
      require (err = .uniqueViolation) err
      let existing ← statement .transactionAborted (reads CollectionsFile.account)
      match existing with
      | some account => return account
      | none => throw err

def openOrGet (now : Timestamp) (input : OpenInput) (read : CollectionsFile) :
    AccountTx CollectionsAccount :=
  match read.account with
  | some existing => return existing
  | none => block (openAccountBody now input)

structure AccountOpening where
  now : Timestamp
  input : OpenInput
  read : CollectionsFile

namespace AccountOpening

def outcome (call : AccountOpening) (file : CollectionsFile) :
    Except CreateError CollectionsAccount × CollectionsFile :=
  (openOrGet call.now call.input call.read).outcome file

def Meets (call : AccountOpening) (file : CollectionsFile) : Prop :=
  call.read.account ≠ none ∨ file.account = none

end AccountOpening

def accountOpenings : Calls CollectionsFile AccountOpening where
  step := fun call file => (call.outcome file).2
  seen := fun call => [call.read]

structure AccountOpenedOnce (file : CollectionsFile) (account : CollectionsAccount) : Prop where
  row : file.account = some account
  event : (file.stageEvents.filter fun event => event.fromStage = none).length = 1

def AccountOpenings (file : CollectionsFile) : Prop :=
  (file.account = none ∧ file.stageEvents = []) ∨ ∃ account, AccountOpenedOnce file account

/-! ## Creating a promise -/

section Promise

variable {keys : FreshKeys Uuid} {now : Timestamp} {input : PromiseInput} {key : String}
  {register : PromiseRegister} {call : PromiseCreation} {promise : PromiseToPay}

def PromiseRegister.newPromise (keys : FreshKeys Uuid) (input : PromiseInput)
    (register : PromiseRegister) : PromiseToPay :=
  input.row (keys.draw (register.promises.rows.map PromiseToPay.id))

def PromiseRegister.opened (keys : FreshKeys Uuid) (input : PromiseInput)
    (register : PromiseRegister) : PromiseRegister where
  promises := register.promises.insertNew keys input.row fun _ => rfl
  events := register.events ++ [input.opening (register.newPromise keys input)]

theorem insertPromise_commits (hkey : input.idempotencyKey = some key)
    (hfree : findPromise key register = none) :
    (insertPromise keys input).Commits register (register.newPromise keys input)
      { register with promises := register.promises.insertNew keys input.row fun _ => rfl } := by
  unfold insertPromise
  simp only [commits_bind, commits_reads, commits_require, commits_modify, commits_pure]
  exact ⟨none, register, ⟨by rw [hkey]; exact hfree, rfl⟩, (), register, ⟨rfl, rfl⟩, _, register,
    ⟨rfl, rfl⟩, ⟨⟩, _, rfl, rfl, rfl⟩

theorem insertPromise_throws (keys : FreshKeys Uuid) (hkey : input.idempotencyKey = some key)
    (htaken : findPromise key register ≠ none) :
    (insertPromise keys input).Throws register .uniqueViolation register := by
  unfold insertPromise
  refine throws_bind.2 (.inr ⟨_, register, commits_reads.2 ⟨rfl, rfl⟩, ?_⟩)
  refine throws_bind.2 (.inl (throws_require.2 ⟨?_, rfl, rfl⟩))
  rw [hkey]
  exact htaken

theorem createPromiseBody_commits (hkey : input.idempotencyKey = some key)
    (hfree : findPromise key register = none) :
    (createPromiseBody keys input).Commits ⟨register, false⟩
      ((register.newPromise keys input).result true) ⟨register.opened keys input, false⟩ := by
  unfold createPromiseBody
  refine commits_tryCatch.2 (.inl ?_)
  refine commits_bind.2 ⟨_, _, commits_statement (insertPromise_commits hkey hfree), ?_⟩
  exact commits_bind.2 ⟨⟨⟩, _, commits_statement (commits_modify.2 rfl), commits_pure.2 ⟨rfl, rfl⟩⟩

theorem createPromiseBody_throws (keys : FreshKeys Uuid) (hkey : input.idempotencyKey = some key)
    (htaken : findPromise key register ≠ none) :
    ∃ err, (createPromiseBody keys input).Throws ⟨register, false⟩ err ⟨register, true⟩ := by
  have hinsert := throws_statement .transactionAborted (insertPromise_throws keys hkey htaken)
  unfold createPromiseBody
  cases hrecover : input.key? with
  | none =>
      refine ⟨.uniqueViolation, throws_tryCatch.2 ⟨_, _, throws_bind.2 (.inl hinsert), ?_⟩⟩
      exact throws_throw.2 ⟨rfl, rfl⟩
  | some known =>
      refine ⟨.transactionAborted, throws_tryCatch.2 ⟨_, _, throws_bind.2 (.inl hinsert), ?_⟩⟩
      refine throws_bind.2 (.inr ⟨(), _, commits_require.2 ⟨rfl, rfl⟩, ?_⟩)
      exact throws_bind.2 (.inl throws_statement_of_aborted)

def keyHolder (key : String) (register : PromiseRegister) : Option (Uuid × PromiseToPayStatus) :=
  (findPromise key register).map fun promise => (promise.id, promise.status)

def PromiseCreation.answer (call : PromiseCreation) (register : PromiseRegister) :
    Option (Uuid × PromiseToPayStatus) :=
  match (call.outcome register).1 with
  | .ok result => some (result.id, result.status)
  | .error _ => none

theorem find?_opened (hkey : input.idempotencyKey = some key)
    (hfree : findPromise key register = none) :
    findPromise key (register.opened keys input) = some (register.newPromise keys input) := by
  change List.find? _ (_ ++ [_]) = _
  rw [List.find?_append]
  have hnone : register.promises.rows.find? (fun promise => promise.idempotencyKey = some key) =
      none := hfree
  rw [hnone, Option.none_or]
  exact List.find?_cons_of_pos (decide_eq_true hkey)

theorem PromiseCreation.outcome_of_missing (hvalid : call.input.validate call.now = .ok ())
    (hmissing : ¬ call.Finds) :
    call.outcome register = (block (createPromiseBody call.keys call.input)).outcome register := by
  have hnone := not_not.1 hmissing
  unfold outcome createPromise
  rw [hvalid, hnone]
  rfl

theorem PromiseCreation.outcome_of_free (hkey : call.input.idempotencyKey = some key)
    (hvalid : call.input.validate call.now = .ok ()) (hmissing : ¬ call.Finds)
    (hfree : findPromise key register = none) :
    call.outcome register = (.ok ((register.newPromise call.keys call.input).result true),
      register.opened call.keys call.input) := by
  rw [outcome_of_missing hvalid hmissing]
  exact commits_block (createPromiseBody_commits hkey hfree)

theorem PromiseCreation.outcome_of_not_created (hkey : call.input.idempotencyKey = some key)
    (hnot : ¬ (call.input.validate call.now = .ok () ∧ ¬ call.Finds ∧
      findPromise key register = none)) :
    (call.outcome register).2 = register := by
  by_cases hvalid : call.input.validate call.now = .ok ()
  · by_cases hfinds : call.Finds
    · obtain ⟨existing, hexisting⟩ := Option.ne_none_iff_exists'.1 hfinds
      unfold outcome createPromise
      rw [hvalid, hexisting]
      rfl
    · have htaken : findPromise key register ≠ none := fun hfree => hnot ⟨hvalid, hfinds, hfree⟩
      obtain ⟨err, hthrows⟩ := createPromiseBody_throws call.keys hkey htaken
      rw [outcome_of_missing hvalid hfinds]
      exact congrArg Prod.snd (throws_block hthrows)
  · unfold outcome createPromise
    cases hresult : call.input.validate call.now with
    | error err => rfl
    | ok done => exact absurd hresult hvalid

theorem PromiseCreation.getsOrCreates (hkey : call.input.idempotencyKey = some key)
    (hread : Calls.KeepsRow (keyHolder key) call.read register) :
    Calls.GetsOrCreates (keyHolder key) (call.Meets key register) (call.answer register)
      register (call.outcome register).2 := by
  by_cases hvalid : call.input.validate call.now = .ok ()
  · by_cases hfinds : call.Finds
    · obtain ⟨existing, hexisting⟩ := Option.ne_none_iff_exists'.1 hfinds
      have houtcome : call.outcome register = (.ok (existing.result false), register) := by
        unfold outcome createPromise
        rw [hvalid, hexisting]
        rfl
      have hholder : keyHolder key call.read = some (existing.id, existing.status) := by
        obtain ⟨known, hknown, hfound⟩ := Option.bind_eq_some_iff.1 hexisting
        have hsame : known = key := by
          have hfilter := (Option.filter_eq_some_iff.1 hknown).1
          rw [hkey] at hfilter
          exact (Option.some.inj hfilter).symm
        unfold keyHolder
        rw [← hsame, hfound]
        rfl
      refine .got ⟨hvalid, .inl hfinds⟩ (existing.id, existing.status) ?_ (hread _ hholder) ?_
      · unfold answer
        rw [houtcome]
        rfl
      · rw [houtcome]
    · by_cases hfree : findPromise key register = none
      · have houtcome := outcome_of_free hkey hvalid hfinds hfree
        refine .created ⟨hvalid, .inr hfree⟩
          ((register.newPromise call.keys call.input).id, .ACTIVE) ?_ ?_ ?_
        · unfold answer
          rw [houtcome]
          rfl
        · unfold keyHolder
          rw [hfree]
          rfl
        · unfold keyHolder
          rw [houtcome, find?_opened hkey hfree]
          rfl
      · refine .failed (fun hmeets => hmeets.2.elim hfinds hfree) ?_
          (outcome_of_not_created hkey fun hcreated => hfree hcreated.2.2)
        obtain ⟨err, hthrows⟩ := createPromiseBody_throws call.keys hkey hfree
        have houtcome := (outcome_of_missing hvalid hfinds).trans (throws_block hthrows)
        unfold answer
        rw [houtcome]
  · refine .failed (fun hmeets => hvalid hmeets.1) ?_
      (outcome_of_not_created hkey fun hcreated => hvalid hcreated.1)
    unfold answer outcome createPromise
    cases hresult : call.input.validate call.now with
    | error err => rfl
    | ok done => exact absurd hresult hvalid

theorem PromiseOpenings.opened (hkey : input.idempotencyKey = some key)
    (hfree : findPromise key register = none) (hopenings : PromiseOpenings key register) :
    PromiseOpenings key (register.opened keys input) := by
  have hid : (register.newPromise keys input).id ∉
      register.promises.rows.map PromiseToPay.id := keys.draw_fresh _
  constructor
  · intro event hevent
    change _ ∈ List.map PromiseToPay.id (register.promises.rows ++ [_])
    rw [map_append]
    rcases mem_append.1 hevent with hold | hnew
    · exact mem_append_left _ (hopenings.owned event hold)
    · rw [mem_singleton.1 hnew]
      exact mem_append_right _ (mem_singleton_self _)
  · intro _
    refine ⟨register.newPromise keys input, ?_, ?_⟩
    · change List.filter _ (register.promises.rows ++ [register.newPromise keys input]) = _
      have hnone : register.promises.rows.filter
          (fun promise => promise.idempotencyKey = some key) = [] :=
        filter_eq_nil_iff.2 (List.find?_eq_none.1 hfree)
      rw [filter_append, hnone, nil_append]
      exact filter_cons_of_pos (decide_eq_true hkey)
    · change (List.filter _ (register.events ++ [_])).length = 1
      have hnone : register.events.filter (fun event =>
          event.promiseId = (register.newPromise keys input).id ∧ event.kind = .CREATED) = [] := by
        apply filter_eq_nil_iff.2
        intro event hevent hits
        apply hid
        rw [← (of_decide_eq_true hits).1]
        exact hopenings.owned event hevent
      rw [filter_append, hnone, nil_append]
      simp [PromiseInput.opening]

theorem PromiseCreation.openings (hkey : call.input.idempotencyKey = some key)
    (hopenings : PromiseOpenings key register) :
    PromiseOpenings key (call.outcome register).2 := by
  by_cases hcreates : call.input.validate call.now = .ok () ∧ ¬ call.Finds ∧
      findPromise key register = none
  · rw [outcome_of_free hkey hcreates.1 hcreates.2.1 hcreates.2.2]
    exact hopenings.opened hkey hcreates.2.2
  · rw [outcome_of_not_created hkey hcreates]
    exact hopenings

theorem PromiseOpenedOnce.holder (honce : PromiseOpenedOnce key register promise) :
    keyHolder key register = some (promise.id, promise.status) := by
  have hfound : findPromise key register = some promise := by
    unfold findPromise
    rw [← List.head?_filter, honce.row]
    rfl
  unfold keyHolder
  rw [hfound]
  rfl

theorem PromiseCreation.returns_iff (register last : PromiseRegister) (call : PromiseCreation)
    (hopenings : PromiseOpenings key last) :
    (∃ promise, PromiseOpenedOnce key last promise ∧ call.Returns register promise) ↔
      ∃ row, keyHolder key last = some row ∧ call.answer register = some row := by
  constructor
  · rintro ⟨promise, honce, created, hreturned⟩
    refine ⟨_, honce.holder, ?_⟩
    unfold answer
    rw [hreturned]
    rfl
  · rintro ⟨row, hholder, hanswer⟩
    have hfound : findPromise key last ≠ none := by
      intro hnone
      unfold keyHolder at hholder
      rw [hnone] at hholder
      cases hholder
    obtain ⟨promise, honce⟩ := hopenings.once hfound
    have hrow : row = (promise.id, promise.status) :=
      Option.some.inj (hholder.symm.trans honce.holder)
    refine ⟨promise, honce, ?_⟩
    unfold answer at hanswer
    cases hresult : (call.outcome register).1 with
    | error err =>
        rw [hresult] at hanswer
        cases hanswer
    | ok result =>
        rw [hresult, hrow] at hanswer
        have hsame := Prod.mk.inj (Option.some.inj hanswer)
        refine ⟨result.created, ?_⟩
        rw [hresult]
        unfold PromiseToPay.result
        rw [← hsame.1, ← hsame.2]

theorem promises_opened {start last : PromiseRegister} {calls : List PromiseCreation}
    {past : List PromiseRegister} (hstart : PromiseOpenings key start)
    (hlog : promiseCreations.Log (fun call _ => call.input.idempotencyKey = some key) start calls
      (last :: past)) :
    (∀ found ∈ Calls.occurrences calls (last :: past),
        ∃ promise, PromiseOpenedOnce key last promise ∧ found.1.Returns found.2 promise) ↔
      ∀ found ∈ Calls.occurrences calls (last :: past), found.1.Meets key found.2 := by
  have hopenings : PromiseOpenings key last := by
    have hall := (hlog.invariant_iff (I := PromiseOpenings key) (Q := fun _ _ => True) hstart
      fun call register hbefore hkey =>
        iff_of_true (call.openings hkey hbefore) trivial).2 fun _ _ => trivial
    exact hall last (mem_cons_self ..)
  rw [← hlog.answered_iff (keyHolder key) PromiseCreation.answer
    (Q := fun call register => call.Meets key register)
    fun call register hkey hseen =>
      PromiseCreation.getsOrCreates hkey (hseen call.read (mem_singleton_self _))]
  exact forall₂_congr fun found _ => found.1.returns_iff found.2 last hopenings

end Promise

/-! ## Opening an account -/

section Account

variable {now : Timestamp} {input : OpenInput} {file : CollectionsFile} {call : AccountOpening}
  {account : CollectionsAccount}

def CollectionsFile.opened (now : Timestamp) (input : OpenInput) (file : CollectionsFile) :
    CollectionsFile where
  account := some (input.account now)
  stageEvents := file.stageEvents ++ [input.opening (input.account now)]

theorem insertAccount_commits (hfree : file.account = none) :
    (insertAccount now input).Commits file (input.account now)
      { file with account := some (input.account now) } := by
  unfold insertAccount
  simp only [commits_bind, commits_reads, commits_require, commits_modify, commits_pure]
  exact ⟨none, file, ⟨hfree, rfl⟩, (), file, ⟨rfl, rfl⟩, ⟨⟩, _, rfl, trivial, rfl⟩

theorem insertAccount_throws (now : Timestamp) (input : OpenInput) (htaken : file.account ≠ none) :
    (insertAccount now input).Throws file .uniqueViolation file := by
  unfold insertAccount
  refine throws_bind.2 (.inr ⟨_, file, commits_reads.2 ⟨rfl, rfl⟩, ?_⟩)
  exact throws_bind.2 (.inl (throws_require.2 ⟨htaken, rfl, rfl⟩))

theorem openAccountBody_commits (hfree : file.account = none) :
    (openAccountBody now input).Commits ⟨file, false⟩ (input.account now)
      ⟨file.opened now input, false⟩ := by
  unfold openAccountBody
  refine commits_tryCatch.2 (.inl ?_)
  refine commits_bind.2 ⟨_, _, commits_statement (insertAccount_commits hfree), ?_⟩
  exact commits_bind.2 ⟨⟨⟩, _, commits_statement (commits_modify.2 rfl), commits_pure.2 ⟨rfl, rfl⟩⟩

theorem openAccountBody_throws (htaken : file.account ≠ none) :
    (openAccountBody now input).Throws ⟨file, false⟩ .transactionAborted ⟨file, true⟩ := by
  have hinsert := throws_statement .transactionAborted (insertAccount_throws now input htaken)
  unfold openAccountBody
  refine throws_tryCatch.2 ⟨_, _, throws_bind.2 (.inl hinsert), ?_⟩
  refine throws_bind.2 (.inr ⟨(), _, commits_require.2 ⟨rfl, rfl⟩, ?_⟩)
  exact throws_bind.2 (.inl throws_statement_of_aborted)

def AccountOpening.answer (call : AccountOpening) (file : CollectionsFile) :
    Option CollectionsAccount :=
  match (call.outcome file).1 with
  | .ok account => some account
  | .error _ => none

theorem AccountOpening.outcome_of_found (file : CollectionsFile)
    (hread : call.read.account = some account) :
    call.outcome file = (.ok account, file) := by
  unfold outcome openOrGet
  rw [hread]
  rfl

theorem AccountOpening.outcome_of_free (hread : call.read.account = none)
    (hfree : file.account = none) :
    call.outcome file = (.ok (call.input.account call.now), file.opened call.now call.input) := by
  unfold outcome openOrGet
  rw [hread]
  exact commits_block (openAccountBody_commits hfree)

theorem AccountOpening.outcome_of_taken (hread : call.read.account = none)
    (htaken : file.account ≠ none) :
    call.outcome file = (.error .transactionAborted, file) := by
  unfold outcome openOrGet
  rw [hread]
  exact throws_block (openAccountBody_throws htaken)

theorem AccountOpening.getsOrCreates
    (hread : Calls.KeepsRow CollectionsFile.account call.read file) :
    Calls.GetsOrCreates CollectionsFile.account (call.Meets file) (call.answer file) file
      (call.outcome file).2 := by
  unfold answer
  cases hfound : call.read.account with
  | some existing =>
      have houtcome := outcome_of_found file hfound
      rw [houtcome]
      exact .got (.inl (hfound ▸ Option.some_ne_none _)) existing rfl (hread existing hfound) rfl
  | none =>
      by_cases hfree : file.account = none
      · rw [outcome_of_free hfound hfree]
        exact .created (.inr hfree) _ rfl hfree rfl
      · rw [outcome_of_taken hfound hfree]
        exact .failed (fun hmeets => hmeets.elim (absurd hfound) hfree) rfl rfl

theorem AccountOpening.openings (hopenings : AccountOpenings file) :
    AccountOpenings (call.outcome file).2 := by
  cases hfound : call.read.account with
  | some existing =>
      rw [outcome_of_found file hfound]
      exact hopenings
  | none =>
      by_cases hfree : file.account = none
      · rw [outcome_of_free hfound hfree]
        rcases hopenings with ⟨_, hnone⟩ | ⟨account, honce⟩
        · refine .inr ⟨_, rfl, ?_⟩
          change (List.filter _ (file.stageEvents ++ [_])).length = 1
          rw [hnone]
          rfl
        · rw [honce.row] at hfree
          cases hfree
      · rw [outcome_of_taken hfound hfree]
        exact hopenings

theorem AccountOpening.returns_iff (file last : CollectionsFile) (call : AccountOpening)
    (hopenings : AccountOpenings last) :
    (∃ account, AccountOpenedOnce last account ∧ (call.outcome file).1 = .ok account) ↔
      ∃ account, last.account = some account ∧ call.answer file = some account := by
  constructor
  · rintro ⟨account, honce, hreturned⟩
    refine ⟨account, honce.row, ?_⟩
    unfold answer
    rw [hreturned]
  · rintro ⟨account, hrow, hanswer⟩
    refine ⟨account, ⟨hrow, ?_⟩, ?_⟩
    · rcases hopenings with ⟨hnone, _⟩ | ⟨other, honce⟩
      · rw [hrow] at hnone
        cases hnone
      · exact honce.event
    · unfold answer at hanswer
      cases hresult : (call.outcome file).1 with
      | error err =>
          rw [hresult] at hanswer
          cases hanswer
      | ok result =>
          rw [hresult] at hanswer
          cases hanswer
          rfl

theorem accounts_opened {start last : CollectionsFile} {calls : List AccountOpening}
    {past : List CollectionsFile} (hstart : AccountOpenings start)
    (hlog : accountOpenings.Log (fun _ _ => True) start calls (last :: past)) :
    (∀ found ∈ Calls.occurrences calls (last :: past),
        ∃ account, AccountOpenedOnce last account ∧ (found.1.outcome found.2).1 = .ok account) ↔
      ∀ found ∈ Calls.occurrences calls (last :: past), found.1.Meets found.2 := by
  have hopenings : AccountOpenings last := by
    have hall := (hlog.invariant_iff (I := AccountOpenings) (Q := fun _ _ => True) hstart
      fun call file hbefore _ =>
        iff_of_true (call.openings hbefore) trivial).2 fun _ _ => trivial
    exact hall last (mem_cons_self ..)
  rw [← hlog.answered_iff CollectionsFile.account AccountOpening.answer (Q := AccountOpening.Meets)
    fun call file _ hseen =>
      AccountOpening.getsOrCreates (hseen call.read (mem_singleton_self _))]
  exact forall₂_congr fun found _ => found.1.returns_iff found.2 last hopenings

end Account

/-- All calls that ask for a row return the one row with its one opening event exactly if
each call is valid and finds the row, or inserts it where there is none. -/
theorem openings_once_iff {key : String} {register lastRegister : PromiseRegister}
    {creations : List PromiseCreation} {pastRegisters : List PromiseRegister}
    {file lastFile : CollectionsFile} {opens : List AccountOpening}
    {pastFiles : List CollectionsFile} (hregister : PromiseOpenings key register)
    (hcreations : promiseCreations.Log
      (fun call _ => call.input.idempotencyKey = some key) register creations
      (lastRegister :: pastRegisters))
    (hfile : AccountOpenings file)
    (hopens : accountOpenings.Log (fun _ _ => True) file opens (lastFile :: pastFiles)) :
    ((∀ found ∈ Calls.occurrences creations (lastRegister :: pastRegisters),
        ∃ promise, PromiseOpenedOnce key lastRegister promise ∧ found.1.Returns found.2 promise) ↔
      ∀ found ∈ Calls.occurrences creations (lastRegister :: pastRegisters),
        found.1.Meets key found.2) ∧
    ((∀ found ∈ Calls.occurrences opens (lastFile :: pastFiles),
        ∃ account, AccountOpenedOnce lastFile account ∧ (found.1.outcome found.2).1 = .ok account) ↔
      ∀ found ∈ Calls.occurrences opens (lastFile :: pastFiles), found.1.Meets found.2) :=
  ⟨promises_opened hregister hcreations, accounts_opened hfile hopens⟩

namespace Sample

def promiseInput : PromiseInput where
  customerId := "customer"
  invoiceId := none
  promisedAmount := 50000
  promisedDate := 0
  collectorId := "collector"
  notes := none
  idempotencyKey := some "key"

def emptyRegister : PromiseRegister := ⟨Table.empty, []⟩

def creation : PromiseCreation := ⟨.text, 0, promiseInput, emptyRegister⟩

def createdRegister : PromiseRegister := (creation.outcome emptyRegister).2

theorem emptyRegister_openings : PromiseOpenings "key" emptyRegister :=
  ⟨fun _ hevent => absurd hevent not_mem_nil, fun hfound => absurd rfl hfound⟩

theorem creation_key : creation.input.idempotencyKey = some "key" := rfl

theorem created_once :
    promiseCreations.Log (fun call _ => call.input.idempotencyKey = some "key") emptyRegister
      [creation] [createdRegister, emptyRegister] := by
  apply Calls.Log.call creation .start _ creation_key
  intro register hregister
  exact hregister

theorem created_twice :
    promiseCreations.Log (fun call _ => call.input.idempotencyKey = some "key") emptyRegister
      [creation, creation] [(creation.outcome createdRegister).2, createdRegister, emptyRegister] := by
  apply Calls.Log.call creation created_once _ creation_key
  intro register hregister
  exact .tail _ hregister

def emptyFile : CollectionsFile := ⟨none, []⟩

def accountOpening : AccountOpening := ⟨0, ⟨"account", "customer", none, none⟩, emptyFile⟩

def openFile : CollectionsFile := (accountOpening.outcome emptyFile).2

theorem opened_once :
    accountOpenings.Log (fun _ _ => True) emptyFile [accountOpening] [openFile, emptyFile] := by
  apply Calls.Log.call accountOpening .start _ trivial
  intro file hfile
  exact hfile

theorem opened_twice :
    accountOpenings.Log (fun _ _ => True) emptyFile [accountOpening, accountOpening]
      [(accountOpening.outcome openFile).2, openFile, emptyFile] := by
  apply Calls.Log.call accountOpening opened_once _ trivial
  intro file hfile
  exact .tail _ hfile

end Sample

theorem openings_once_iff_sample :
    ((∀ found ∈ Calls.occurrences [Sample.creation] [Sample.createdRegister, Sample.emptyRegister],
        ∃ promise, PromiseOpenedOnce "key" Sample.createdRegister promise ∧
          found.1.Returns found.2 promise) ↔
      ∀ found ∈ Calls.occurrences [Sample.creation]
          [Sample.createdRegister, Sample.emptyRegister], found.1.Meets "key" found.2) ∧
    ((∀ found ∈ Calls.occurrences [Sample.accountOpening] [Sample.openFile, Sample.emptyFile],
        ∃ account, AccountOpenedOnce Sample.openFile account ∧
          (found.1.outcome found.2).1 = .ok account) ↔
      ∀ found ∈ Calls.occurrences [Sample.accountOpening] [Sample.openFile, Sample.emptyFile],
        found.1.Meets found.2) :=
  openings_once_iff Sample.emptyRegister_openings Sample.created_once (.inl ⟨rfl, rfl⟩)
    Sample.opened_once

theorem openings_once_fails :
    (¬ ∀ (key : String) (start last : PromiseRegister) (calls : List PromiseCreation)
        (past : List PromiseRegister), PromiseOpenings key start →
      promiseCreations.Log (fun call _ => call.input.idempotencyKey = some key) start calls
        (last :: past) →
      ∀ found ∈ Calls.occurrences calls (last :: past),
        ∃ promise, PromiseOpenedOnce key last promise ∧ found.1.Returns found.2 promise) ∧
    ¬ ∀ (start last : CollectionsFile) (calls : List AccountOpening)
        (past : List CollectionsFile), AccountOpenings start →
      accountOpenings.Log (fun _ _ => True) start calls (last :: past) →
      ∀ found ∈ Calls.occurrences calls (last :: past), ∃ account, AccountOpenedOnce last account ∧
          (found.1.outcome found.2).1 = .ok account := by
  constructor
  · intro hall
    obtain ⟨promise, _, created, hreturned⟩ := hall _ _ _ _ _ Sample.emptyRegister_openings
      Sample.created_twice (Sample.creation, Sample.createdRegister) (mem_cons_self ..)
    have hfailed : (Sample.creation.outcome Sample.createdRegister).1 =
        .error .transactionAborted := by decide
    rw [hfailed] at hreturned
    cases hreturned
  · intro hall
    obtain ⟨account, _, hreturned⟩ := hall _ _ _ _ (.inl ⟨rfl, rfl⟩) Sample.opened_twice
      (Sample.accountOpening, Sample.openFile) (mem_cons_self ..)
    have hfailed : (Sample.accountOpening.outcome Sample.openFile).1 =
        .error .transactionAborted := by decide
    rw [hfailed] at hreturned
    cases hreturned

end SafariLaundry
