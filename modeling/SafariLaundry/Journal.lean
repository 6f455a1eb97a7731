import SafariLaundry.Domain

/-!
# The double-entry journal service

`appendBalanced` with its checks, the typed writers over it, the debt mirror and
the wrapper that keeps a failed journal write from aborting the caller.  Beside
each writer stands the list of entries it posts; a committed write is then
`Wrote` of that list, whichever of the checks and switches it went through.
-/

namespace SafariLaundry

open Library Library.Bookkeeping Library.Transaction

structure AppendJournalInput where
  source : String
  sourceRef : SourceRef
  actorUserId : Uuid
  (customerId orderId : Option Uuid)
  effectiveAt : Option Timestamp := none
  allowReversal : Bool := false
  lines : List JournalLine

def AppendJournalInput.entry (input : AppendJournalInput) : JournalEntry where
  source := input.source
  sourceRef := input.sourceRef
  actorUserId := input.actorUserId
  customerId := input.customerId
  orderId := input.orderId
  lines := input.lines

def debitLine (account : JournalAccount) (amount : ℤ) : JournalLine :=
  ⟨account, amount, 0⟩

def creditLine (account : JournalAccount) (amount : ℤ) : JournalLine :=
  ⟨account, 0, amount⟩

abbrev Recorded (journal : List JournalEntry) (ref : SourceRef) : Prop :=
  Posted JournalEntry.sourceRef journal ref

theorem recorded_append (first second : List JournalEntry) (ref : SourceRef) :
    Recorded (first ++ second) ref ↔ Recorded first ref ∨ Recorded second ref :=
  posted_append _ first second ref

def assertWriteAllowed (env : Env) (effectiveAt : Timestamp) (allowReversal : Bool) :
    Tx Unit :=
  match env.closedPeriod effectiveAt with
  | none => pure ()
  | some label => require (allowReversal = true) (.periodClosed label)

def checkJournalLine (line : JournalLine) : Tx Unit := do
  require (¬ (line.debit < 0 ∨ line.credit < 0)) (.error "NEGATIVE_JOURNAL_LINE")
  require (¬ (0 < line.debit ∧ 0 < line.credit)) (.error "AMBIGUOUS_JOURNAL_LINE")
  require (¬ (line.debit = 0 ∧ line.credit = 0)) (.error "EMPTY_JOURNAL_LINE")

def totalDebit (lines : List JournalLine) : ℤ := (lines.map Line.debit).sum

def totalCredit (lines : List JournalLine) : ℤ := (lines.map Line.credit).sum

def checkJournalAccount (env : Env) (line : JournalLine) : Tx Unit :=
  require (line.account ∈ env.chart.active)
    (.error ("JOURNAL_ACCOUNT_NOT_FOUND:" ++ line.account.code))

def createJournalEntry (env : Env) (input : AppendJournalInput) : Tx Unit :=
  match env.journalCreateFault input.sourceRef with
  | none => modify fun db => { db with journal := db.journal ++ [input.entry] }
  | some (.uniqueViolation committed) => throw (.uniqueViolation committed)
  | some (.failure message) => throw (.database message)

def appendBalanced (env : Env) (input : AppendJournalInput) : Tx Unit := do
  require (input.actorUserId ≠ "") (.error "JOURNAL_ACTOR_REQUIRED")
  require (input.sourceRef ≠ []) (.error "JOURNAL_SOURCE_REF_REQUIRED")
  require (2 ≤ input.lines.length) (.error "JOURNAL_MINIMUM_TWO_LINES")
  if Recorded (← get).journal input.sourceRef then pure () else do
    whenever (env.periodLockEnforce = true)
      (assertWriteAllowed env (input.effectiveAt.getD env.now) input.allowReversal)
    input.lines.forM checkJournalLine
    require (¬ 10 < |totalDebit input.lines - totalCredit input.lines|)
      (.error "UNBALANCED_JOURNAL")
    input.lines.forM (checkJournalAccount env)
    createJournalEntry env input

def criticalFailureWindowMs : ℕ := 5 * 60 * 1000

def criticalFailureThreshold : ℕ := 3

def lower (text : String) : String :=
  String.ofList (text.toList.map Char.toLower)

def IncludesText (text part : String) : Prop :=
  part.toList <:+: text.toList
  deriving Decidable

/-- `rethrowIfPeriodLock` recognises a conflict by the words of its message; the
period guard's own conflict contains them. -/
def IsPeriodLock : ServiceError → Prop
  | .periodClosed _ => True
  | .conflict message =>
      IncludesText (lower message) "closed" ∨ IncludesText (lower message) "period"
  | _ => False

instance (err : ServiceError) : Decidable (IsPeriodLock err) :=
  match err with
  | .periodClosed _ => .isTrue trivial
  | .conflict message => inferInstanceAs (Decidable (IncludesText (lower message) "closed" ∨
      IncludesText (lower message) "period"))
  | .notFound _ | .forbidden _ | .badRequest _ | .serviceUnavailable _ | .error _
  | .uniqueViolation _ | .database _ | .criticalJournalFailure _ _ _ => .isFalse not_false

/-- What a wrapper says about the write that failed. -/
structure JournalFailureInput where
  source : String
  sourceRef : SourceRef
  (customerId orderId : Option Uuid)
  amount : ℤ

def persistFailure (env : Env) (input : JournalFailureInput) (err : ServiceError) :
    Tx Unit :=
  modify fun db => { db with
    journalFailures := db.journalFailures ++ [{
      customerId := input.customerId
      orderId := input.orderId
      source := input.source
      sourceRef := input.sourceRef
      amount := input.amount
      errorMessage := err.message
      createdAt := env.now }] }

def recentFailures (env : Env) (customerId : Uuid) (failures : List JournalFailure) : ℕ :=
  failures.countP fun failure =>
    failure.customerId = some customerId ∧ env.now ≤ failure.createdAt + criticalFailureWindowMs

def tripBreakerIfNeeded (env : Env) : Option Uuid → Tx Unit
  | none => pure ()
  | some customerId => do
      let count := recentFailures env customerId (← get).journalFailures
      require (¬ criticalFailureThreshold < count)
        (.criticalJournalFailure customerId count criticalFailureWindowMs)

def handleCriticalSafeFailure (env : Env) (err : ServiceError)
    (input : JournalFailureInput) : Tx Unit := do
  require (¬ IsPeriodLock err) err
  if input.sourceRef ≠ [] ∧ err = .uniqueViolation true then pure () else do
    persistFailure env input err
    if env.journalFailClosedCritical = true then
      throw err
    else
      tripBreakerIfNeeded env input.customerId

def safely (env : Env) (input : JournalFailureInput) (write : Tx Unit) : Tx Unit :=
  tryCatch write fun err => handleCriticalSafeFailure env err input

/-! ## What a journal write leaves behind -/

/-- From `db` to `db'` exactly these entries were posted and nothing else but
the failure log moved. -/
def Wrote (entries : List JournalEntry) (db db' : Db) : Prop :=
  ∃ failures, db' = { db with
    journal := postAll JournalEntry.sourceRef db.journal entries
    journalFailures := failures }

theorem Wrote.refl (db : Db) : Wrote [] db db :=
  ⟨db.journalFailures, rfl⟩

variable {db db' : Db} {err : ServiceError} {env : Env} {input : AppendJournalInput}

theorem Wrote.trans {first second : List JournalEntry} {db'' : Db} (hfirst : Wrote first db db')
    (hsecond : Wrote second db' db'') :
    Wrote (first ++ second) db db'' := by
  obtain ⟨failures, rfl⟩ := hfirst
  obtain ⟨failures', rfl⟩ := hsecond
  refine ⟨failures', ?_⟩
  simp only [postAll_append]

structure AppendJournalInput.WellFormed (input : AppendJournalInput) : Prop where
  actor : input.actorUserId ≠ ""
  ref : input.sourceRef ≠ []
  two : 2 ≤ input.lines.length
  oneSided : ∀ line ∈ input.lines,
    (0 < line.debit ∧ line.credit = 0) ∨ (line.debit = 0 ∧ 0 < line.credit)
  balanced : totalDebit input.lines = totalCredit input.lines

theorem wellFormed_pair {source : String} {ref : SourceRef} {actorUserId : Uuid}
    {customerId orderId : Option Uuid} {effectiveAt : Option Timestamp}
    {allowReversal : Bool} {debited credited : JournalAccount} {amount : ℤ}
    (hactor : actorUserId ≠ "") (href : ref ≠ []) (hamount : 0 < amount) :
    AppendJournalInput.WellFormed {
      source := source
      sourceRef := ref
      actorUserId := actorUserId
      customerId := customerId
      orderId := orderId
      effectiveAt := effectiveAt
      allowReversal := allowReversal
      lines := [debitLine debited amount, creditLine credited amount] } where
  actor := hactor
  ref := href
  two := le_rfl
  oneSided := by
    intro line hline
    simp only [List.mem_cons, List.not_mem_nil, or_false] at hline
    rcases hline with rfl | rfl
    · exact .inl ⟨hamount, rfl⟩
    · exact .inr ⟨rfl, hamount⟩
  balanced := by
    simp [totalDebit, totalCredit, debitLine, creditLine]

theorem keepsAt_checkJournalLine (line : JournalLine) : KeepsAt Eq db (checkJournalLine line) := by
  unfold checkJournalLine
  refine .require_bind fun _ => ?_
  refine .require_bind fun _ => ?_
  exact keepsAt_require _ _

theorem not_throws_checkJournalLine {line : JournalLine}
    (hline : (0 < line.debit ∧ line.credit = 0) ∨ (line.debit = 0 ∧ 0 < line.credit)) :
    ¬ (checkJournalLine line).Throws db err db' := by
  intro hthrows
  unfold checkJournalLine at hthrows
  simp only [throws_bind, throws_require, commits_require] at hthrows
  omega

theorem not_throws_checkLines {check : JournalLine → Tx Unit} {lines : List JournalLine}
    (hcheck : ∀ line ∈ lines, ∀ db db', ¬ (check line).Throws db err db') :
    ¬ (lines.forM check).Throws db err db' := by
  induction lines generalizing db with
  | nil => exact throws_forM_nil
  | cons line rest ih =>
      intro hthrows
      rcases throws_forM_cons.1 hthrows with hfirst | ⟨mid, _, hrest⟩
      · exact hcheck line (by simp) db db' hfirst
      · exact ih (fun other hother => hcheck other (List.mem_cons_of_mem line hother)) hrest

theorem keepsAt_assertWriteAllowed (at_ : Timestamp) (reversal : Bool) :
    KeepsAt Eq db (assertWriteAllowed env at_ reversal) := by
  unfold assertWriteAllowed
  cases env.closedPeriod at_ with
  | none => exact keepsAt_pure ()
  | some label => exact keepsAt_require _ _

theorem throws_assertWriteAllowed {at_ : Timestamp} {reversal : Bool}
    (hthrows : (assertWriteAllowed env at_ reversal).Throws db err db') :
    IsPeriodLock err := by
  unfold assertWriteAllowed at hthrows
  cases hclosed : env.closedPeriod at_ with
  | none =>
      rw [hclosed] at hthrows
      exact absurd hthrows throws_pure
  | some label =>
      rw [hclosed] at hthrows
      obtain ⟨_, rfl, _⟩ := throws_require.1 hthrows
      trivial

theorem commits_createJournalEntry (hcommits : (createJournalEntry env input).Commits db () db') :
    db' = { db with journal := db.journal ++ [input.entry] } := by
  unfold createJournalEntry at hcommits
  split at hcommits
  · exact commits_modify.1 hcommits
  · exact absurd hcommits commits_throw.1
  · exact absurd hcommits commits_throw.1

theorem throws_createJournalEntry (hthrows : (createJournalEntry env input).Throws db err db') :
    db = db' := by
  unfold createJournalEntry at hthrows
  split at hthrows
  · exact absurd hthrows throws_modify
  · exact (throws_throw.1 hthrows).2
  · exact (throws_throw.1 hthrows).2

theorem commits_appendBalanced (hcommits : (appendBalanced env input).Commits db () db') :
    db' = { db with
      journal := postAll JournalEntry.sourceRef db.journal [input.entry] } := by
  unfold appendBalanced at hcommits
  simp only [commits_bind, commits_require, commits_get] at hcommits
  obtain ⟨_, _, ⟨_, rfl⟩, _, _, ⟨_, rfl⟩, _, _, ⟨_, rfl⟩, _, _, ⟨rfl, rfl⟩, hrest⟩ :=
    hcommits
  simp only [postAll_cons, postAll_nil, post]
  by_cases hrecorded : Recorded db.journal input.sourceRef
  · rw [if_pos hrecorded, commits_pure] at hrest
    rw [if_pos (show Posted _ db.journal input.entry.sourceRef from hrecorded)]
    exact hrest.2.symm
  · rw [if_neg hrecorded] at hrest
    rw [if_neg (show ¬ Posted _ db.journal input.entry.sourceRef from hrecorded)]
    simp only [commits_bind, commits_require] at hrest
    obtain ⟨_, db₁, hperiod, _, db₂, hlines, _, _, ⟨_, rfl⟩, _, db₃, haccounts, hcreate⟩ :=
      hrest
    obtain rfl := (KeepsAt.whenever (keepsAt_assertWriteAllowed ..)).of_commits hperiod
    obtain rfl := (KeepsAt.forM fun line _ _ => keepsAt_checkJournalLine line).of_commits hlines
    obtain rfl := (KeepsAt.forM (R := Eq) fun _ _ _ => keepsAt_require _ _).of_commits haccounts
    exact commits_createJournalEntry hcreate

theorem throws_appendBalanced_guard (henv : env.StoreHealthy) (hwf : input.WellFormed)
    (hthrows : (appendBalanced env input).Throws db err db') :
    env.periodLockEnforce = true ∧
      (assertWriteAllowed env (input.effectiveAt.getD env.now) input.allowReversal).Throws
        db err db' := by
  have hactor := hwf.actor
  have href := hwf.ref
  have htwo := hwf.two
  have hbalanced : ¬ 10 < |totalDebit input.lines - totalCredit input.lines| := by
    rw [hwf.balanced, sub_self, abs_zero]
    decide
  unfold appendBalanced at hthrows
  simp only [throws_bind, throws_require, hactor, href, htwo, ne_eq, not_false_eq_true,
    not_true_eq_false, false_and, commits_require, true_and, false_or, commits_get,
    throws_get] at hthrows
  obtain ⟨_, _, rfl, _, _, rfl, _, _, rfl, _, _, ⟨rfl, rfl⟩, hrest⟩ := hthrows
  by_cases hrecorded : Recorded db.journal input.sourceRef
  · rw [if_pos hrecorded] at hrest
    exact absurd hrest throws_pure
  · rw [if_neg hrecorded] at hrest
    simp only [throws_bind, throws_whenever, throws_require, hbalanced,
      not_false_eq_true, not_true_eq_false, false_and, false_or] at hrest
    rcases hrest with hperiod | ⟨_, _, _, hlines | ⟨_, _, _, _, _, _, hcreate⟩⟩
    · exact hperiod
    · refine absurd hlines (not_throws_checkLines fun line hline _ _ => ?_)
      exact not_throws_checkJournalLine (hwf.oneSided line hline)
    · rcases hcreate with haccounts | ⟨_, _, _, hcreate⟩
      · refine absurd haccounts (not_throws_checkLines fun line _ _ _ hmissing => ?_)
        exact (throws_require.1 hmissing).1 (env.chart.seeded line.account)
      · unfold createJournalEntry at hcreate
        rw [henv input.sourceRef] at hcreate
        exact absurd hcreate throws_modify

theorem throws_appendBalanced (henv : env.StoreHealthy) (hwf : input.WellFormed)
    (hthrows : (appendBalanced env input).Throws db err db') :
    IsPeriodLock err :=
  throws_assertWriteAllowed (throws_appendBalanced_guard henv hwf hthrows).2

def Env.PeriodOpen (env : Env) : Prop :=
  env.periodLockEnforce = true → env.closedPeriod env.now = none

theorem returnsAt_appendBalanced (henv : env.StoreHealthy) (hopen : env.PeriodOpen)
    (hwf : input.WellFormed) (hnow : input.effectiveAt = none) :
    ReturnsAt db (appendBalanced env input) := by
  intro err db' hthrows
  obtain ⟨henforced, hguard⟩ := throws_appendBalanced_guard henv hwf hthrows
  rw [hnow, Option.getD_none] at hguard
  unfold assertWriteAllowed at hguard
  rw [hopen henforced] at hguard
  exact throws_pure hguard

theorem commits_handleCriticalSafeFailure {input : JournalFailureInput}
    (hcommits : (handleCriticalSafeFailure env err input).Commits db () db') :
    ¬ IsPeriodLock err ∧ Wrote [] db db' := by
  unfold handleCriticalSafeFailure at hcommits
  simp only [commits_bind, commits_require] at hcommits
  obtain ⟨_, _, ⟨hlock, rfl⟩, hrest⟩ := hcommits
  refine ⟨hlock, ?_⟩
  by_cases hrecovered : input.sourceRef ≠ [] ∧ err = .uniqueViolation true
  · rw [if_pos hrecovered, commits_pure] at hrest
    rw [← hrest.2]
    exact Wrote.refl db
  · rw [if_neg hrecovered] at hrest
    simp only [commits_bind, persistFailure, commits_modify] at hrest
    obtain ⟨_, _, rfl, hbreaker⟩ := hrest
    by_cases hclosed : env.journalFailClosedCritical = true
    · rw [if_pos hclosed] at hbreaker
      exact absurd hbreaker commits_throw.1
    · rw [if_neg hclosed] at hbreaker
      cases hcustomer : input.customerId with
      | none =>
          rw [hcustomer, tripBreakerIfNeeded, commits_pure] at hbreaker
          rw [← hbreaker.2]
          exact ⟨_, rfl⟩
      | some customerId =>
          rw [hcustomer] at hbreaker
          simp only [tripBreakerIfNeeded, commits_bind, commits_get, commits_require] at hbreaker
          obtain ⟨_, _, ⟨rfl, rfl⟩, _, rfl⟩ := hbreaker
          exact ⟨_, rfl⟩

theorem commits_safely {input : JournalFailureInput} {write : Tx Unit} {entries : List JournalEntry}
    (hwrite : ∀ db', write.Commits db () db' → Wrote entries db db')
    (hfail : ∀ err db', write.Throws db err db' → IsPeriodLock err ∨ (entries = [] ∧ db' = db))
    (hcommits : (safely env input write).Commits db () db') :
    Wrote entries db db' := by
  unfold safely at hcommits
  rcases commits_tryCatch.1 hcommits with hdone | ⟨err, mid, hthrows, hhandled⟩
  · exact hwrite db' hdone
  · obtain ⟨hlock, hlogged⟩ := commits_handleCriticalSafeFailure hhandled
    rcases hfail err mid hthrows with hperiod | ⟨rfl, rfl⟩
    · exact absurd hperiod hlock
    · exact hlogged

theorem commits_safely_append {failure : JournalFailureInput} (henv : env.StoreHealthy)
    (hwf : input.WellFormed)
    (hcommits : (safely env failure (appendBalanced env input)).Commits db () db') :
    Wrote [input.entry] db db' := by
  apply commits_safely _ _ hcommits
  · intro mid hdone
    exact ⟨db.journalFailures, commits_appendBalanced hdone⟩
  · intro err mid hthrows
    exact .inl (throws_appendBalanced henv hwf hthrows)

end SafariLaundry
