import SafariLaundry.Openings

/-!
# Write-offs over the life of an account

From its opening an account goes through transitions, assignments and contacts, one after
the other.  Its stage, its closing time and its escalations move together in every such run;
the amount of a write-off is lost where a written-off account is closed without one.
-/

namespace SafariLaundry

open Library List

/-- An account at the beginning of its life: opened, or reopened. -/
structure CollectionsAccount.Fresh (account : CollectionsAccount) : Prop where
  currentStage : account.currentStage = .NEW
  escalationLevel : account.escalationLevel = 0
  closedAt : account.closedAt = none

def StagePayload.IsTransition : StagePayload → Prop
  | .transitioned .. => True
  | _ => False

instance : DecidablePred StagePayload.IsTransition := fun payload =>
  match payload with
  | .transitioned .. => isTrue trivial
  | .opened _ => isFalse id
  | .assigned .. => isFalse id
  | .contact _ => isFalse id
  | .reopened _ => isFalse id

namespace CollectionsStageEvent

def Escalates (event : CollectionsStageEvent) : Prop :=
  event.payload.IsTransition ∧ (event.toStage = .ESCALATED ∨ event.toStage = .LEGAL)
  deriving Decidable

def WritesOff (event : CollectionsStageEvent) : Prop :=
  event.payload.IsTransition ∧ event.toStage = .WRITTEN_OFF
  deriving Decidable

end CollectionsStageEvent

namespace CollectionsFile

def eventsSince (start file : CollectionsFile) : List CollectionsStageEvent :=
  file.stageEvents.drop start.stageEvents.length

def WrittenOff (start file : CollectionsFile) : Prop :=
  ∃ event ∈ start.eventsSince file, event.WritesOff

end CollectionsFile

/-- In a state of a run: the account is closed exactly in a terminal stage, and its level
counts the escalations. -/
structure AccountSound (start file : CollectionsFile) : Prop where
  closed : ∀ account ∈ file.account, account.closedAt ≠ none ↔ account.currentStage.IsTerminal
  level : ∀ account ∈ file.account, account.escalationLevel =
    (start.eventsSince file).countP fun event => event.Escalates

namespace CollectionsCall

def supplied (call : CollectionsCall) : Option ℤ :=
  match call.request with
  | .transition input => if call.write?.isSome then input.writeOffAmountKd else none
  | _ => none

def KeepsAmount (start : CollectionsFile) (call : CollectionsCall) (file : CollectionsFile) :
    Prop :=
  start.WrittenOff file → ∀ account ∈ file.account, ∀ later ∈ (call.apply file).account,
    later.writeOffAmountKd ≠ none ∧
      later.writeOffAmountKd = call.supplied.or account.writeOffAmountKd

def ClosesWithoutAmount (call : CollectionsCall) (file : CollectionsFile) : Prop :=
  ∃ account ∈ file.account, account.currentStage = .WRITTEN_OFF ∧
    ∃ input, call.request = .transition input ∧ input.toStage = .CLOSED ∧
      input.writeOffAmountKd = none

def InTurn (call : CollectionsCall) (file : CollectionsFile) : Prop :=
  call.read = file ∧ ¬ call.request.IsReopen

end CollectionsCall

/-! ## One call -/

inductive AccountStep (call : CollectionsCall) (account : CollectionsAccount)
    (events : List CollectionsStageEvent) : CollectionsFile → Prop
  | kept (hsupplied : call.supplied = none)
      (hcloses : ∀ input, call.request = .transition input → input.toStage = .CLOSED →
        account.currentStage ≠ .WRITTEN_OFF) :
      AccountStep call account events ⟨some account, events⟩
  | moved (input : TransitionInput) (hrequest : call.request = .transition input)
      (hsupplied : call.supplied = input.writeOffAmountKd)
      (hforward : account.currentStage.rank ≤ input.toStage.rank)
      (hother : input.toStage = account.currentStage → input.toStage = .WRITTEN_OFF)
      (hamount : input.toStage = .WRITTEN_OFF → input.writeOff account ≠ none) :
      AccountStep call account events
        ⟨some ((input.write call.now account).data account),
          events ++ [(input.write call.now account).event]⟩
  | noted (later : CollectionsAccount) (event : CollectionsStageEvent)
      (hrequest : ∀ input, call.request ≠ .transition input) (hsupplied : call.supplied = none)
      (hstage : later.currentStage = account.currentStage ∨
        account.currentStage = .NEW ∧ later.currentStage = .CONTACTED)
      (hlevel : later.escalationLevel = account.escalationLevel)
      (hclosed : later.closedAt = account.closedAt)
      (hamount : later.writeOffAmountKd = account.writeOffAmountKd)
      (hevent : ¬ event.payload.IsTransition) :
      AccountStep call account events ⟨some later, events ++ [event]⟩

variable {call : CollectionsCall} {start file : CollectionsFile} {account : CollectionsAccount}

theorem AccountStep.of_none (haccount : file.account = some account) (hnone : call.write? = none)
    (hcloses : ∀ input, call.request = .transition input → input.toStage = .CLOSED →
      account.currentStage ≠ .WRITTEN_OFF) :
    AccountStep call account file.stageEvents (call.apply file) := by
  have hkept : call.apply file = ⟨some account, file.stageEvents⟩ := by
    unfold CollectionsCall.apply
    rw [hnone, ← haccount]
  rw [hkept]
  refine .kept ?_ hcloses
  unfold CollectionsCall.supplied
  rw [hnone]
  cases call.request <;> rfl

theorem CollectionsCall.accountStep_transition {input : TransitionInput} {now : Timestamp}
    (haccount : file.account = some account) :
    AccountStep ⟨file, now, .transition input⟩ account file.stageEvents
      (CollectionsCall.apply ⟨file, now, .transition input⟩ file) := by
  have hrun : (CollectionsRequest.transition input).run now file.account =
      account.transition input now := by
    rw [haccount]
    rfl
  have hwrite : ∀ write, account.transition input now = .ok write →
      CollectionsCall.write? ⟨file, now, .transition input⟩ = write := by
    intro write hresult
    unfold CollectionsCall.write?
    rw [hrun, hresult]
  have hrefused : ∀ error, account.transition input now = .error error →
      CollectionsCall.write? ⟨file, now, .transition input⟩ = none := by
    intro error hresult
    unfold CollectionsCall.write?
    rw [hrun, hresult]
  by_cases hregress : input.toStage.rank < account.currentStage.rank
  · have hresult : account.transition input now = .error _ := if_pos hregress
    refine .of_none haccount (hrefused _ hresult) fun other hother hclosed hwritten => ?_
    cases hother
    rw [hclosed, hwritten] at hregress
    exact absurd hregress (by decide)
  · by_cases hsame : input.toStage.rank = account.currentStage.rank ∧
        input.toStage = account.currentStage ∧ input.toStage ≠ .WRITTEN_OFF
    · have hresult : account.transition input now = .ok none :=
        (if_neg hregress).trans (if_pos hsame)
      refine .of_none haccount (hwrite _ hresult) fun other hother hclosed hwritten => ?_
      cases hother
      rw [hclosed, hwritten] at hsame
      exact absurd hsame.2.1 (by decide)
    · by_cases hnone : input.toStage = .WRITTEN_OFF ∧ input.writeOff account = none
      · have hresult : account.transition input now = .error _ :=
          (if_neg hregress).trans ((if_neg hsame).trans (if_pos hnone))
        refine .of_none haccount (hrefused _ hresult) fun other hother hclosed _ => ?_
        cases hother
        rw [hclosed] at hnone
        exact absurd hnone.1 (by decide)
      · have hresult : account.transition input now = .ok (some (input.write now account)) :=
          (if_neg hregress).trans ((if_neg hsame).trans (if_neg hnone))
        have hwritten := hwrite _ hresult
        have happly : CollectionsCall.apply ⟨file, now, .transition input⟩ file =
            ⟨some ((input.write now account).data account),
              file.stageEvents ++ [(input.write now account).event]⟩ := by
          unfold CollectionsCall.apply StageWrite.apply
          rw [hwritten, haccount]
        rw [happly]
        refine .moved input rfl ?_ (Nat.le_of_not_lt hregress) ?_ fun hto hamount =>
          hnone ⟨hto, hamount⟩
        · unfold CollectionsCall.supplied
          rw [hwritten]
          rfl
        · intro heq
          by_contra hto
          exact hsame ⟨congrArg CollectionsStage.rank heq, heq, hto⟩

theorem CollectionsCall.accountStep (hturn : call.InTurn file)
    (haccount : file.account = some account) :
    AccountStep call account file.stageEvents (call.apply file) := by
  obtain ⟨read, now, request⟩ := call
  obtain ⟨rfl, hreopen⟩ := hturn
  cases request with
  | transition input => exact accountStep_transition haccount
  | reopen => exact absurd trivial hreopen
  | assign collectorId actorId =>
      obtain ⟨found, events⟩ := read
      obtain rfl : found = some account := haccount
      exact .noted _ _ (fun _ => nofun) rfl (.inl rfl) rfl rfl rfl id
  | recordContact actorId notes =>
      obtain ⟨found, events⟩ := read
      obtain rfl : found = some account := haccount
      change AccountStep _ account events
        ((account.recordContact actorId notes now).apply ⟨some account, events⟩)
      unfold CollectionsAccount.recordContact
      by_cases hnew : account.currentStage = .NEW
      · rw [if_pos hnew]
        exact .noted _ _ (fun _ => nofun) rfl (.inr ⟨hnew, rfl⟩) rfl rfl rfl id
      · rw [if_neg hnew]
        exact .noted _ _ (fun _ => nofun) rfl (.inl rfl) rfl rfl rfl id

/-! ## Every run -/

/-- What every run keeps. -/
structure LifeInvariant (start file : CollectionsFile) (account : CollectionsAccount) : Prop where
  present : file.account = some account
  events : start.stageEvents <+: file.stageEvents
  closed : account.closedAt ≠ none ↔ account.currentStage.IsTerminal
  level : account.escalationLevel = (start.eventsSince file).countP fun event => event.Escalates
  amount : account.currentStage = .WRITTEN_OFF →
    account.writeOffAmountKd ≠ none ∧ start.WrittenOff file
  terminal : start.WrittenOff file → account.currentStage.IsTerminal

theorem CollectionsStage.isTerminal_iff (stage : CollectionsStage) :
    stage.IsTerminal ↔ 6 ≤ stage.rank := by
  cases stage <;> decide

variable {event : CollectionsStageEvent} {later : Option CollectionsAccount}

theorem CollectionsFile.eventsSince_append (hevents : start.stageEvents <+: file.stageEvents) :
    start.eventsSince ⟨later, file.stageEvents ++ [event]⟩ =
      start.eventsSince file ++ [event] :=
  drop_append_of_le_length hevents.length_le

theorem CollectionsFile.writtenOff_append (hevents : start.stageEvents <+: file.stageEvents) :
    start.WrittenOff ⟨later, file.stageEvents ++ [event]⟩ ↔
      start.WrittenOff file ∨ event.WritesOff := by
  unfold WrittenOff
  rw [eventsSince_append hevents]
  simp only [mem_append, mem_singleton, or_and_right, exists_or, exists_eq_left]

namespace LifeInvariant

variable {after : CollectionsFile}

theorem start_fresh (hstart : start.account = some account) (hfresh : account.Fresh) :
    LifeInvariant start start account := by
  have hnone : start.eventsSince start = [] := drop_length
  have hnever : ¬ start.WrittenOff start := by
    rintro ⟨event, hevent, _⟩
    rw [hnone] at hevent
    cases hevent
  constructor
  · exact hstart
  · exact prefix_rfl
  · rw [hfresh.closedAt, hfresh.currentStage]
    decide
  · rw [hfresh.escalationLevel, hnone]
    rfl
  · intro hstage
    rw [hfresh.currentStage] at hstage
    cases hstage
  · intro hwritten
    exact absurd hwritten hnever

theorem moved (hinv : LifeInvariant start file account) (input : TransitionInput)
    (now : Timestamp) (hforward : account.currentStage.rank ≤ input.toStage.rank)
    (hamount : input.toStage = .WRITTEN_OFF → input.writeOff account ≠ none) :
    LifeInvariant start ⟨some ((input.write now account).data account),
      file.stageEvents ++ [(input.write now account).event]⟩
      ((input.write now account).data account) := by
  have hwrites : (input.write now account).event.WritesOff ↔ input.toStage = .WRITTEN_OFF :=
    and_iff_right trivial
  constructor
  · rfl
  · exact hinv.events.trans (prefix_append _ _)
  · change (if input.toStage.IsTerminal then some now else none) ≠ none ↔ input.toStage.IsTerminal
    by_cases hterminal : input.toStage.IsTerminal
    · simp [hterminal]
    · simp [hterminal]
  · rw [CollectionsFile.eventsSince_append hinv.events, countP_append,
      ← hinv.level, countP_singleton]
    have hescalates : (input.write now account).event.Escalates ↔
        input.toStage = .ESCALATED ∨ input.toStage = .LEGAL := and_iff_right trivial
    change input.escalationAfter account = _
    unfold TransitionInput.escalationAfter
    by_cases hup : input.toStage = .ESCALATED ∨ input.toStage = .LEGAL
    · rw [if_pos hup, if_pos (decide_eq_true (hescalates.2 hup))]
    · rw [if_neg hup, if_neg (by simpa [hescalates] using hup)]
      rfl
  · intro hstage
    refine ⟨hamount hstage, ?_⟩
    rw [CollectionsFile.writtenOff_append hinv.events]
    exact .inr (hwrites.2 hstage)
  · rw [CollectionsFile.writtenOff_append hinv.events, hwrites]
    change _ → input.toStage.IsTerminal
    rintro (hbefore | hnow)
    · have hterminal := (CollectionsStage.isTerminal_iff _).1 (hinv.terminal hbefore)
      exact (CollectionsStage.isTerminal_iff _).2 (hterminal.trans hforward)
    · exact .inl hnow

theorem noted {later : CollectionsAccount} {event : CollectionsStageEvent}
    (hinv : LifeInvariant start file account)
    (hstage : later.currentStage = account.currentStage ∨
      account.currentStage = .NEW ∧ later.currentStage = .CONTACTED)
    (hlevel : later.escalationLevel = account.escalationLevel)
    (hclosed : later.closedAt = account.closedAt)
    (hamount : later.writeOffAmountKd = account.writeOffAmountKd)
    (hevent : ¬ event.payload.IsTransition) :
    LifeInvariant start ⟨some later, file.stageEvents ++ [event]⟩ later := by
  have hnever : ¬ event.WritesOff := fun hwrites => hevent hwrites.1
  have hquiet : ¬ event.Escalates := fun hescalates => hevent hescalates.1
  have hwritten : start.WrittenOff ⟨some later, file.stageEvents ++ [event]⟩ ↔
      start.WrittenOff file := by
    rw [CollectionsFile.writtenOff_append hinv.events, or_iff_left hnever]
  have hterminal : later.currentStage.IsTerminal ↔ account.currentStage.IsTerminal := by
    rcases hstage with hsame | ⟨hnew, hcontacted⟩
    · rw [hsame]
    · rw [hnew, hcontacted]
      decide
  constructor
  · rfl
  · exact hinv.events.trans (prefix_append _ _)
  · rw [hclosed, hterminal]
    exact hinv.closed
  · rw [CollectionsFile.eventsSince_append hinv.events, countP_append, hlevel,
      hinv.level, countP_singleton, if_neg (by simpa using hquiet), add_zero]
  · intro hoff
    rw [hwritten, hamount]
    rcases hstage with hsame | ⟨_, hcontacted⟩
    · exact hinv.amount (hsame ▸ hoff)
    · rw [hcontacted] at hoff
      cases hoff
  · rw [hwritten, hterminal]
    exact hinv.terminal

theorem step (hinv : LifeInvariant start file account)
    (hstep : AccountStep call account file.stageEvents after) :
    ∃ later, LifeInvariant start after later ∧
      (start.WrittenOff after → start.WrittenOff file ∨ later.currentStage = .WRITTEN_OFF) := by
  cases hstep with
  | kept _ _ =>
      have hsame : file = ⟨some account, file.stageEvents⟩ := by
        rw [← hinv.present]
      exact ⟨account, hsame ▸ hinv, fun hwritten => .inl (hsame ▸ hwritten)⟩
  | moved input _ _ hforward _ hamount =>
      refine ⟨_, hinv.moved input call.now hforward hamount, ?_⟩
      rw [CollectionsFile.writtenOff_append hinv.events]
      exact Or.imp_right And.right
  | noted later event _ _ hstage hlevel hclosed hamount hevent =>
      refine ⟨later, hinv.noted hstage hlevel hclosed hamount hevent, ?_⟩
      rw [CollectionsFile.writtenOff_append hinv.events]
      exact Or.imp_right fun hwrites => absurd hwrites.1 hevent

theorem sound (hinv : LifeInvariant start file account) : AccountSound start file := by
  have honly : ∀ found ∈ file.account, found = account := by
    intro found hfound
    exact Option.some.inj (hfound.symm.trans hinv.present)
  constructor
  · intro found hfound
    obtain rfl := honly found hfound
    exact hinv.closed
  · intro found hfound
    obtain rfl := honly found hfound
    exact hinv.level

end LifeInvariant

structure AmountInvariant (start file : CollectionsFile) (account : CollectionsAccount) : Prop
    extends LifeInvariant start file account where
  recorded : start.WrittenOff file → account.writeOffAmountKd ≠ none

namespace AmountInvariant

theorem keepsAmount_iff (hinv : AmountInvariant start file account)
    (hturn : call.InTurn file) :
    call.KeepsAmount start file ↔ ¬ call.ClosesWithoutAmount file := by
  have hstep := CollectionsCall.accountStep hturn hinv.present
  unfold CollectionsCall.KeepsAmount CollectionsCall.ClosesWithoutAmount
  rw [hinv.present]
  generalize call.apply file = after at hstep
  simp only [Option.mem_def, Option.some_inj, forall_eq', exists_eq_left']
  cases hstep with
  | kept hsupplied hcloses =>
      refine iff_of_true (fun hwritten later hlater => ?_) ?_
      · obtain rfl := Option.some.inj hlater
        rw [hsupplied, Option.none_or]
        exact ⟨hinv.recorded hwritten, rfl⟩
      · rintro ⟨hstage, input, hrequest, hclosed, _⟩
        exact hcloses input hrequest hclosed hstage
  | noted later event hrequest hsupplied _ _ _ hamount _ =>
      refine iff_of_true (fun hwritten other hother => ?_) ?_
      · obtain rfl := Option.some.inj hother
        rw [hsupplied, hamount, Option.none_or]
        exact ⟨hinv.recorded hwritten, rfl⟩
      · rintro ⟨_, input, hasked, _⟩
        exact hrequest input hasked
  | moved input hrequest hsupplied hforward hother hamount =>
      have hlater : ((input.write call.now account).data account).writeOffAmountKd =
        input.writeOff account := rfl
      simp only [Option.some_inj, forall_eq', hrequest, hsupplied, hlater,
        CollectionsRequest.transition.injEq, exists_eq_left']
      unfold TransitionInput.writeOff
      cases hnew : input.writeOffAmountKd with
      | some amount => simp
      | none =>
          simp only [Option.none_or, and_true]
          by_cases hoff : input.toStage = .WRITTEN_OFF
          · rw [if_pos hoff, hoff]
            refine iff_of_true (fun hwritten => ⟨hinv.recorded hwritten, rfl⟩) ?_
            rintro ⟨_, hclosed⟩
            cases hclosed
          · rw [if_neg hoff]
            constructor
            · rintro hkept ⟨hstage, _⟩
              exact (hkept (hinv.amount hstage).2).1 rfl
            · -- what comes after a write-off is a write-off again or the closing
              intro hnot hwritten
              have hterminal := hinv.terminal hwritten
              have hnext : input.toStage.IsTerminal := by
                rw [CollectionsStage.isTerminal_iff] at hterminal ⊢
                exact hterminal.trans hforward
              have hclosed := hnext.resolve_left hoff
              rcases hterminal with hbefore | hbefore
              · exact absurd ⟨hbefore, hclosed⟩ hnot
              · exact absurd (hother (hclosed.trans hbefore.symm)) hoff

theorem step (hinv : AmountInvariant start file account) (hturn : call.InTurn file)
    (hamount : ¬ call.ClosesWithoutAmount file) :
    ∃ later, AmountInvariant start (call.apply file) later := by
  have hstep := CollectionsCall.accountStep hturn hinv.present
  obtain ⟨later, hlater, hnow⟩ := hinv.toLifeInvariant.step hstep
  refine ⟨later, hlater, fun hwritten => ?_⟩
  rcases hnow hwritten with hbefore | hstage
  · exact ((hinv.keepsAmount_iff hturn).2 hamount hbefore account hinv.present later
      hlater.present).1
  · exact (hlater.amount hstage).1

end AmountInvariant

variable {calls : List CollectionsCall} {trace : List CollectionsFile}

theorem accountSound_of_run (haccount : start.account = some account) (hfresh : account.Fresh)
    (hlog : collectionsCalls.Log CollectionsCall.InTurn start calls trace) :
    ∀ file ∈ trace, AccountSound start file := by
  have hstart : ∃ account, LifeInvariant start start account :=
    ⟨account, .start_fresh haccount hfresh⟩
  have hall := (hlog.of_invariant (I := fun file => ∃ account, LifeInvariant start file account)
    hstart ?_).2
  · intro file hfile
    obtain ⟨found, hinv⟩ := hall file hfile
    exact hinv.sound
  · rintro call file ⟨found, hinv⟩ _ hturn
    obtain ⟨later, hlater, _⟩ :=
      hinv.step (CollectionsCall.accountStep hturn hinv.present)
    exact ⟨later, hlater⟩

def TrailGrows (earlier later : CollectionsFile) : Prop :=
  earlier.stageEvents <+: later.stageEvents

instance : Std.Refl TrailGrows := ⟨fun _ => prefix_rfl⟩

instance : IsTrans CollectionsFile TrailGrows := ⟨fun _ _ _ => List.IsPrefix.trans⟩

theorem CollectionsCall.trailGrows (call : CollectionsCall) (file : CollectionsFile) :
    TrailGrows file (call.apply file) := by
  unfold apply
  cases call.write? with
  | none => exact prefix_rfl
  | some write =>
      simp only
      unfold StageWrite.apply
      cases file.account with
      | none => exact prefix_rfl
      | some account => exact prefix_append _ _

/-- All along a run without a reopening closing time and level are right and the amount of a
write-off is kept, exactly if no call closes a written-off account without an amount. -/
theorem writeOffs_kept_iff (haccount : start.account = some account) (hfresh : account.Fresh)
    (hlog : collectionsCalls.Log CollectionsCall.InTurn start calls trace) :
    ((∀ file ∈ trace, AccountSound start file) ∧
      ∀ found ∈ Calls.occurrences calls trace, found.1.KeepsAmount start found.2) ↔
    ∀ found ∈ Calls.occurrences calls trace, ¬ found.1.ClosesWithoutAmount found.2 := by
  have hlife := LifeInvariant.start_fresh haccount hfresh
  have hstart : ∃ account, AmountInvariant start start account := by
    refine ⟨account, hlife, fun hwritten => ?_⟩
    have hterminal := hlife.terminal hwritten
    rw [hfresh.currentStage] at hterminal
    exact absurd hterminal (by decide)
  rw [and_iff_right (accountSound_of_run haccount hfresh hlog)]
  apply hlog.calls_iff (I := fun file => ∃ account, AmountInvariant start file account)
    (R := TrailGrows) (F := fun call file => call.KeepsAmount start file)
    (Q := fun call file => ¬ call.ClosesWithoutAmount file) hstart
  rintro call file ⟨found, hinv⟩ _ hturn
  exact ⟨hinv.keepsAmount_iff hturn,
    fun hamount => ⟨hinv.step hturn hamount, call.trailGrows file⟩⟩

namespace Sample

theorem newAccount_fresh : newAccount.Fresh := ⟨rfl, rfl, rfl⟩

def writingOff : CollectionsCall :=
  ⟨openedFile, 1, .transition ⟨.WRITTEN_OFF, none, none, none, some 50000⟩⟩

def writtenOffFile : CollectionsFile := writingOff.apply openedFile

def closing : CollectionsCall := ⟨writtenOffFile, 2, .transition ⟨.CLOSED, none, none, none, none⟩⟩

theorem written_off : collectionsCalls.Log CollectionsCall.InTurn openedFile [writingOff]
    [writtenOffFile, openedFile] :=
  .call writingOff .start (fun _ hread => hread) ⟨rfl, id⟩

theorem written_off_closed : collectionsCalls.Log CollectionsCall.InTurn openedFile
    [closing, writingOff] [closing.apply writtenOffFile, writtenOffFile, openedFile] :=
  .call closing written_off (fun _ hread => mem_cons.2 (.inl (mem_singleton.1 hread)))
    ⟨rfl, id⟩

def closingInFull : CollectionsCall :=
  ⟨writtenOffFile, 2, .transition ⟨.CLOSED, none, none, none, some 50000⟩⟩

theorem written_off_closedInFull : collectionsCalls.Log CollectionsCall.InTurn openedFile
    [closingInFull, writingOff] [closingInFull.apply writtenOffFile, writtenOffFile, openedFile] :=
  .call closingInFull written_off
    (fun _ hread => mem_cons.2 (.inl (mem_singleton.1 hread))) ⟨rfl, id⟩

end Sample

/-- Written off, and closed with the amount given again. -/
theorem writeOffs_kept_iff_sample :
    (Sample.closingInFull.apply Sample.writtenOffFile).account.map CollectionsAccount.currentStage =
        some .CLOSED ∧
      (∀ file ∈ [Sample.closingInFull.apply Sample.writtenOffFile, Sample.writtenOffFile,
        Sample.openedFile], AccountSound Sample.openedFile file) ∧
      Sample.closingInFull.KeepsAmount Sample.openedFile Sample.writtenOffFile := by
  have hkept := (writeOffs_kept_iff rfl Sample.newAccount_fresh Sample.written_off_closedInFull).2 (by
    intro found hfound
    -- the closing gives an amount, and the write-off does not close
    rcases mem_pair.1 hfound with rfl | rfl
    · rintro ⟨_, _, _, input, hinput, _, hamount⟩
      cases hinput
      cases hamount
    · rintro ⟨_, _, _, input, hinput, hclosed, _⟩
      cases hinput
      cases hclosed)
  exact ⟨by decide, hkept.1, hkept.2 _ (mem_cons_self ..)⟩

/-- The closing of a written-off account forgets the five dinars. -/
theorem writeOffs_kept_fails :
    ¬ ∀ (start : CollectionsFile) (account : CollectionsAccount) (calls : List CollectionsCall)
      (trace : List CollectionsFile), start.account = some account → account.Fresh →
      collectionsCalls.Log CollectionsCall.InTurn start calls trace →
      (∀ file ∈ trace, AccountSound start file) ∧
        ∀ found ∈ Calls.occurrences calls trace, found.1.KeepsAmount start found.2 := by
  intro hall
  have hkept := (hall _ _ _ _ rfl Sample.newAccount_fresh Sample.written_off_closed).2
    (Sample.closing, Sample.writtenOffFile) (mem_cons_self ..)
  have hwritten : Sample.openedFile.WrittenOff Sample.writtenOffFile := by
    refine ⟨_, mem_cons_self .., ?_⟩
    decide
  exact absurd (hkept hwritten _ rfl _ rfl).1 (by decide)

end SafariLaundry
