import SafariLaundry.JournalWriters

/-!
# Attempts to mirror a debt

`Journal` takes the statements of the catch path as answered.  Here each of them may fail: the
look-up of the entry that won, the insert into the failure log and the count of the breaker.  The
log is written on a connection of its own, so a run of attempts shares it whatever the callers'
transactions come to.
-/

namespace SafariLaundry.MirrorSafety

open Library Library.Transaction

inductive Reply where
  | written
  | existing (entry : JournalEntry)
  | null

/-- A call of the wrapper and what the database is to it. -/
structure Attempt where
  env : Env
  db : Db
  input : MirrorDebtLedgerInput
  /-- The look-up of the reference after a conflict. -/
  findExisting : Except String (Option JournalEntry)
  findExisting_sourceRef : ∀ entry, findExisting = .ok (some entry) →
    entry.sourceRef = input.sourceRef
  (logWritable countAnswers : Bool)

abbrev LogTx (α : Type) := Transaction ServiceError (List JournalFailure) α

namespace Attempt

variable (a : Attempt)

/-- The `try` block. -/
def write : Except ServiceError Unit :=
  ((mirrorDebtLedgerEntry a.env a.input).outcome a.db).1

def failureInput : JournalFailureInput where
  source := match a.input.source with
    | .PAYMENT => "PAYMENT"
    | .INVOICE_SHORTFALL => "INVOICE_SHORTFALL"
    | .SUBSCRIPTION_OVERUSE => "SUBSCRIPTION_OVERUSE"
  sourceRef := a.input.sourceRef
  customerId := some a.input.customerId
  orderId := a.input.orderId
  amount := a.input.amount

def row (err : ServiceError) : JournalFailure where
  customerId := some a.input.customerId
  orderId := a.input.orderId
  source := a.failureInput.source
  sourceRef := a.input.sourceRef
  amount := a.input.amount
  errorMessage := err.message
  createdAt := a.env.now

end Attempt

/-- Code `P2002`. -/
def IsUniqueViolation : ServiceError → Prop
  | .uniqueViolation _ => True
  | _ => False

instance : DecidablePred IsUniqueViolation := fun err =>
  match err with
  | .uniqueViolation _ => .isTrue trivial
  | .notFound _ | .forbidden _ | .badRequest _ | .conflict _ | .serviceUnavailable _ | .error _
  | .periodClosed _ | .database _ | .criticalJournalFailure _ _ _ => .isFalse not_false

variable {err : ServiceError}

theorem IsUniqueViolation.not_periodLock (hunique : IsUniqueViolation err) :
    ¬ IsPeriodLock err := by
  cases err with
  | uniqueViolation committed => exact not_false
  | _ => exact hunique.elim

/-- The insert is tried; that it failed is only told to the logger. -/
def persistFailure (a : Attempt) (err : ServiceError) : LogTx Unit :=
  whenever (a.logWritable = true) (modify fun log => log ++ [a.row err])

def tripBreakerIfNeeded (a : Attempt) : LogTx Unit :=
  whenever (a.input.customerId ≠ "" ∧ a.countAnswers = true) do
    let count := recentFailures a.env a.input.customerId (← get)
    require (¬ criticalFailureThreshold < count)
      (.criticalJournalFailure a.input.customerId count criticalFailureWindowMs)

def recover (a : Attempt) (err : ServiceError) : LogTx (Option JournalEntry) :=
  if a.input.sourceRef ≠ [] ∧ IsUniqueViolation err then
    match a.findExisting with
    | .ok found => pure found
    | .error message => throw (.database message)
  else pure none

def handleCriticalSafeFailure (a : Attempt) (err : ServiceError) : LogTx Reply := do
  require (¬ IsPeriodLock err) err
  match ← recover a err with
  | some entry => pure (.existing entry)
  | none => do
      persistFailure a err
      if a.env.journalFailClosedCritical = true then throw err
      else do
        tripBreakerIfNeeded a
        pure .null

def mirrorDebtLedgerEntrySafe (a : Attempt) : LogTx Reply :=
  match a.write with
  | .ok () => pure .written
  | .error err => handleCriticalSafeFailure a err

def answer (a : Attempt) (log : List JournalFailure) : Except ServiceError Reply :=
  ((mirrorDebtLedgerEntrySafe a).outcome log).1

def logAfter (log : List JournalFailure) (a : Attempt) : List JournalFailure :=
  ((mirrorDebtLedgerEntrySafe a).outcome log).2

def run (log : List JournalFailure) (attempts : List Attempt) : List JournalFailure :=
  attempts.foldl logAfter log

/-! ## What the catch path does -/

def IsOther (a : Attempt) (err : ServiceError) : Prop :=
  ¬ IsPeriodLock err ∧ (IsUniqueViolation err → a.findExisting = .ok none)

instance (a : Attempt) (err : ServiceError) : Decidable (IsOther a err) :=
  have : Decidable (a.findExisting = .ok none) :=
    match hfound : a.findExisting with
    | .ok none => .isTrue rfl
    | .ok (some _) => .isFalse (by simp)
    | .error _ => .isFalse (by simp)
  inferInstanceAs (Decidable (_ ∧ _))

theorem ref_ne_nil_of_throws {env : Env} {input : MirrorDebtLedgerInput} {db mid : Db}
    (hthrows : (mirrorDebtLedgerEntry env input).Throws db err mid)
    (hunique : IsUniqueViolation err) : input.sourceRef ≠ [] := by
  unfold mirrorDebtLedgerEntry at hthrows
  rcases throws_bind.1 hthrows with hactor | ⟨_, _, _, hthrows⟩
  · obtain ⟨-, rfl, -⟩ := throws_require.1 hactor
    exact hunique.elim
  · by_cases hamount : input.amount ≤ 0
    · rw [if_pos hamount] at hthrows
      exact absurd hthrows throws_pure
    · rw [if_neg hamount] at hthrows
      rcases throws_bind.1 hthrows with href | ⟨_, _, href, _⟩
      · obtain ⟨-, rfl, -⟩ := throws_require.1 href
        exact hunique.elim
      · exact (commits_require.1 href).1

theorem ref_ne_nil_of_write {a : Attempt} (hwrite : a.write = .error err)
    (hunique : IsUniqueViolation err) : a.input.sourceRef ≠ [] :=
  ref_ne_nil_of_throws (Prod.ext hwrite rfl) hunique

def persisted (a : Attempt) (err : ServiceError) (log : List JournalFailure) :
    List JournalFailure :=
  if a.logWritable = true then log ++ [a.row err] else log

def Trips (a : Attempt) (failures : ℕ) : Prop :=
  a.input.customerId ≠ "" ∧ a.countAnswers = true ∧ criticalFailureThreshold < failures
  deriving Decidable

theorem outcome_of_write {a : Attempt} (hwrite : a.write = .ok ()) (log : List JournalFailure) :
    (mirrorDebtLedgerEntrySafe a).outcome log = (.ok .written, log) := by
  rw [mirrorDebtLedgerEntrySafe, hwrite]
  rfl

theorem outcome_of_lock {a : Attempt} (hwrite : a.write = .error err) (hlock : IsPeriodLock err)
    (log : List JournalFailure) :
    (mirrorDebtLedgerEntrySafe a).outcome log = (.error err, log) := by
  rw [mirrorDebtLedgerEntrySafe, hwrite]
  simp only [handleCriticalSafeFailure, require, hlock, not_true_eq_false, if_false]
  rfl

theorem outcome_of_conflict {a : Attempt} (hwrite : a.write = .error err)
    (hunique : IsUniqueViolation err) {entry : JournalEntry}
    (hfound : a.findExisting = .ok (some entry)) (log : List JournalFailure) :
    (mirrorDebtLedgerEntrySafe a).outcome log = (.ok (.existing entry), log) := by
  have hrecover := And.intro (ref_ne_nil_of_write hwrite hunique) hunique
  rw [mirrorDebtLedgerEntrySafe, hwrite]
  simp only [handleCriticalSafeFailure, require, hunique.not_periodLock, not_false_eq_true,
    if_true, recover, if_pos hrecover, hfound]
  rfl

theorem outcome_persistFailure (a : Attempt) (err : ServiceError) (log : List JournalFailure) :
    (persistFailure a err).outcome log = (.ok (), persisted a err log) := by
  unfold persistFailure persisted whenever
  split_ifs <;> rfl

theorem outcome_tripBreakerIfNeeded (a : Attempt) (log : List JournalFailure) :
    (tripBreakerIfNeeded a).outcome log =
      (if Trips a (recentFailures a.env a.input.customerId log) then
          .error (.criticalJournalFailure a.input.customerId
            (recentFailures a.env a.input.customerId log) criticalFailureWindowMs)
        else .ok (), log) := by
  unfold tripBreakerIfNeeded whenever
  by_cases hasked : a.input.customerId ≠ "" ∧ a.countAnswers = true
  · have hcount : Trips a (recentFailures a.env a.input.customerId log) ↔
        criticalFailureThreshold < recentFailures a.env a.input.customerId log :=
      ⟨fun htrips => htrips.2.2, fun hmany => ⟨hasked.1, hasked.2, hmany⟩⟩
    rw [if_pos hasked, outcome_bind]
    change (require (¬ criticalFailureThreshold < recentFailures a.env a.input.customerId log)
      _).outcome log = _
    unfold require
    by_cases hmany : criticalFailureThreshold < recentFailures a.env a.input.customerId log
    · rw [if_neg (not_not.2 hmany), if_pos (hcount.2 hmany)]
      rfl
    · rw [if_pos hmany, if_neg (mt hcount.1 hmany)]
      rfl
  · rw [if_neg hasked, if_neg fun htrips => hasked ⟨htrips.1, htrips.2.1⟩]
    rfl

theorem outcome_of_lookup_failure {a : Attempt} (hwrite : a.write = .error err)
    (hunique : IsUniqueViolation err) {message : String} (hfound : a.findExisting = .error message)
    (log : List JournalFailure) :
    (mirrorDebtLedgerEntrySafe a).outcome log = (.error (.database message), log) := by
  have hrecover := And.intro (ref_ne_nil_of_write hwrite hunique) hunique
  rw [mirrorDebtLedgerEntrySafe, hwrite]
  simp only [handleCriticalSafeFailure, require, hunique.not_periodLock, not_false_eq_true,
    if_true, recover, if_pos hrecover, hfound]
  rfl

theorem outcome_recover_of_other {a : Attempt} (hother : IsOther a err)
    (log : List JournalFailure) : (recover a err).outcome log = (.ok none, log) := by
  unfold recover
  split_ifs with hconflict
  · rw [hother.2 hconflict.2]
    rfl
  · rfl

theorem outcome_of_unrecovered {a : Attempt} (hlock : ¬ IsPeriodLock err)
    {log : List JournalFailure} (hrecover : (recover a err).outcome log = (.ok none, log)) :
    (handleCriticalSafeFailure a err).outcome log =
      (if a.env.journalFailClosedCritical = true then .error err
        else if Trips a (recentFailures a.env a.input.customerId (persisted a err log)) then
          .error (.criticalJournalFailure a.input.customerId
            (recentFailures a.env a.input.customerId (persisted a err log))
            criticalFailureWindowMs)
        else .ok .null,
        persisted a err log) := by
  unfold handleCriticalSafeFailure require
  rw [if_pos hlock, outcome_bind]
  change (recover a err >>= _).outcome log = _
  rw [outcome_bind, hrecover]
  simp only
  rw [outcome_bind, outcome_persistFailure]
  simp only
  split_ifs with hclosed htrips
  · rfl
  · rw [outcome_bind, outcome_tripBreakerIfNeeded, if_pos htrips]
  · rw [outcome_bind, outcome_tripBreakerIfNeeded, if_neg htrips]
    rfl

theorem outcome_of_other {a : Attempt} (hwrite : a.write = .error err) (hother : IsOther a err)
    (log : List JournalFailure) :
    (mirrorDebtLedgerEntrySafe a).outcome log =
      (if a.env.journalFailClosedCritical = true then .error err
        else if Trips a (recentFailures a.env a.input.customerId (persisted a err log)) then
          .error (.criticalJournalFailure a.input.customerId
            (recentFailures a.env a.input.customerId (persisted a err log))
            criticalFailureWindowMs)
        else .ok .null,
        persisted a err log) := by
  rw [← outcome_of_unrecovered hother.1 (outcome_recover_of_other hother log),
    mirrorDebtLedgerEntrySafe, hwrite]

/-- With statements that answer, the catch path is the one of `Journal`. -/
theorem outcome_handleCriticalSafeFailure {a : Attempt} (hlog : a.logWritable = true)
    (hcount : a.countAnswers = true) (hcustomer : a.input.customerId ≠ "")
    (hfound : ∀ committed, err = .uniqueViolation committed →
      ∃ found, a.findExisting = .ok found ∧ (found.isSome ↔ committed = true)) (db : Db) :
    let caught := (handleCriticalSafeFailure a err).outcome db.journalFailures
    (SafariLaundry.handleCriticalSafeFailure a.env err a.failureInput).outcome db =
      (caught.1.map fun _ => (), { db with journalFailures := caught.2 }) := by
  intro caught
  subst caught
  by_cases hlock : IsPeriodLock err
  · unfold SafariLaundry.handleCriticalSafeFailure handleCriticalSafeFailure require
    rw [if_neg (not_not.2 hlock), if_neg (not_not.2 hlock)]
    rfl
  by_cases hwon : a.input.sourceRef ≠ [] ∧ err = .uniqueViolation true
  · obtain ⟨found, hlookup, hsome⟩ := hfound true hwon.2
    obtain ⟨entry, rfl⟩ := Option.isSome_iff_exists.1 (hsome.2 rfl)
    have hrecover : (recover a err).outcome db.journalFailures =
        (.ok (some entry), db.journalFailures) := by
      rw [recover, if_pos ⟨hwon.1, by rw [hwon.2]; trivial⟩, hlookup]
      rfl
    unfold SafariLaundry.handleCriticalSafeFailure handleCriticalSafeFailure require
    rw [if_pos hlock, if_pos hlock, if_pos (show a.failureInput.sourceRef ≠ [] ∧ _ from hwon)]
    change ((Except.ok (), db) : Except ServiceError Unit × Db) =
      ((((recover a err >>= _).outcome db.journalFailures).1.map fun _ => ()),
        { db with journalFailures := ((recover a err >>= _).outcome db.journalFailures).2 })
    rw [outcome_bind, hrecover]
    rfl
  · have hrecover :
        (recover a err).outcome db.journalFailures = (.ok none, db.journalFailures) := by
      unfold recover
      split_ifs with hconflict
      · cases err with
        | uniqueViolation committed =>
            obtain ⟨found, hlookup, hsome⟩ := hfound committed rfl
            have hlost : ¬ found.isSome = true :=
              fun hsomething => hwon ⟨hconflict.1, by rw [hsome.1 hsomething]⟩
            rw [hlookup, Option.not_isSome_iff_eq_none.1 hlost]
            rfl
        | _ => exact hconflict.2.elim
      · rfl
    have hpersisted : persisted a err db.journalFailures = db.journalFailures ++ [a.row err] :=
      if_pos hlog
    have htrips : ∀ failures, Trips a failures ↔ criticalFailureThreshold < failures := fun _ =>
      ⟨fun htrips => htrips.2.2, fun hmany => ⟨hcustomer, hcount, hmany⟩⟩
    rw [outcome_of_unrecovered hlock hrecover, hpersisted]
    unfold SafariLaundry.handleCriticalSafeFailure
    rw [require, if_pos hlock, if_neg (show ¬ (a.failureInput.sourceRef ≠ [] ∧ _) from hwon)]
    rw [outcome_bind]
    change (ite (a.env.journalFailClosedCritical = true) (throw err)
      (SafariLaundry.tripBreakerIfNeeded a.env (some a.input.customerId)) : Tx Unit).outcome
        { db with journalFailures := db.journalFailures ++ [a.row err] } = _
    simp only [htrips]
    by_cases hclosed : a.env.journalFailClosedCritical = true
    · rw [if_pos hclosed, if_pos hclosed]
      rfl
    · rw [if_neg hclosed, if_neg hclosed]
      change (require (¬ criticalFailureThreshold < recentFailures a.env a.input.customerId
        (db.journalFailures ++ [a.row err])) _ : Tx Unit).outcome _ = _
      unfold require
      split_ifs <;> rfl

def recorded (a : Attempt) : Option JournalFailure :=
  match a.write with
  | .ok () => none
  | .error err => if IsOther a err ∧ a.logWritable = true then some (a.row err) else none

theorem logAfter_eq (log : List JournalFailure) (a : Attempt) :
    logAfter log a = log ++ (recorded a).toList := by
  unfold logAfter recorded
  cases hwrite : a.write with
  | ok _ =>
      rw [outcome_of_write hwrite]
      exact (List.append_nil log).symm
  | error err =>
      by_cases hother : IsOther a err
      · rw [outcome_of_other hwrite hother]
        simp only [persisted, hother, true_and]
        split_ifs <;> simp
      · simp only [hother, false_and, if_false, Option.toList_none, List.append_nil]
        by_cases hlock : IsPeriodLock err
        · rw [outcome_of_lock hwrite hlock]
        · obtain ⟨hunique, hfound⟩ : IsUniqueViolation err ∧ a.findExisting ≠ .ok none := by
            by_contra hnot
            exact hother ⟨hlock, fun hunique => not_not.1 fun hfound => hnot ⟨hunique, hfound⟩⟩
          cases hlookup : a.findExisting with
          | error message => rw [outcome_of_lookup_failure hwrite hunique hlookup]
          | ok found =>
              cases found with
              | none => exact absurd hlookup hfound
              | some entry => rw [outcome_of_conflict hwrite hunique hlookup]

theorem run_concat (log : List JournalFailure) (attempts : List Attempt) (a : Attempt) :
    run log (attempts ++ [a]) = logAfter (run log attempts) a := by
  simp [run]

theorem run_eq (log : List JournalFailure) (attempts : List Attempt) :
    run log attempts = log ++ attempts.filterMap recorded := by
  induction attempts using List.reverseRecOn with
  | nil => exact (List.append_nil log).symm
  | append_singleton attempts a ih =>
      rw [run_concat, ih, logAfter_eq, List.filterMap_append, List.append_assoc]
      cases hrecorded : recorded a with
      | none => simp [hrecorded]
      | some row => simp [hrecorded]

/-- What an attempt that fails with `err` after a run comes to.  The failures that count are those
in the log before the run and those that its attempts, this one included, have recorded. -/
structure Lawful (log : List JournalFailure) (before : List Attempt) (a : Attempt)
    (err : ServiceError) : Prop where
  locked : IsPeriodLock err → answer a (run log before) = .error err
  conflict : IsUniqueViolation err → ∀ entry, a.findExisting = .ok (some entry) →
    entry.sourceRef = a.input.sourceRef ∧ answer a (run log before) = .ok (.existing entry)
  failClosed : IsOther a err → a.env.journalFailClosedCritical = true →
    answer a (run log before) = .error err
  failOpen : IsOther a err → ¬ a.env.journalFailClosedCritical = true →
    let failures := recentFailures a.env a.input.customerId
      (log ++ (before ++ [a]).filterMap recorded)
    answer a (run log before) = if Trips a failures then
        .error (.criticalJournalFailure a.input.customerId failures criticalFailureWindowMs)
      else .ok .null

/-- The failures recorded are those of the attempts that neither meet a closed period nor a
conflict with an entry, as far as the log takes them. -/
def KeepsTheLaw : Prop :=
  (∀ log attempts, run log attempts = log ++ attempts.filterMap recorded) ∧
    ∀ log before a err, a.write = .error err → Lawful log before a err

theorem mirrorAttempts_keepTheLaw : KeepsTheLaw := by
  refine ⟨run_eq, fun log before a err hwrite => ⟨?_, ?_, ?_, ?_⟩⟩
  · intro hlock
    rw [answer, outcome_of_lock hwrite hlock]
  · intro hunique entry hfound
    refine ⟨a.findExisting_sourceRef entry hfound, ?_⟩
    rw [answer, outcome_of_conflict hwrite hunique hfound]
  · intro hother hclosed
    rw [answer, outcome_of_other hwrite hother, if_pos hclosed]
  · intro hother hopen
    have hlog : persisted a err (run log before) = log ++ (before ++ [a]).filterMap recorded := by
      rw [← run_eq, run_concat, logAfter, outcome_of_other hwrite hother]
    simp only [← hlog]
    rw [answer, outcome_of_other hwrite hother, if_neg hopen]

def KeepsTheStrictLaw : Prop :=
  ∀ log before a err, a.write = .error err →
    (IsPeriodLock err → answer a (run log before) = .error err) ∧
    (IsUniqueViolation err → ∃ entry, answer a (run log before) = .ok (.existing entry)) ∧
    (¬ IsPeriodLock err → ¬ IsUniqueViolation err → a.env.journalFailClosedCritical = true →
      answer a (run log before) = .error err) ∧
    (¬ IsPeriodLock err → ¬ IsUniqueViolation err → ¬ a.env.journalFailClosedCritical = true →
      run log (before ++ [a]) = run log before ++ [a.row err] ∧ if criticalFailureThreshold <
            recentFailures a.env a.input.customerId (run log (before ++ [a])) then
          ∃ thrown, answer a (run log before) = .error thrown
        else answer a (run log before) = .ok .null)

def unloggedAttempt : Attempt where
  env := Env.default
  db := Db.initial
  input :=
    { source := .INVOICE_SHORTFALL
      amount := 1000
      sourceRef := [.word "INVOICE"]
      actorUserId := ""
      customerId := "customer"
      orderId := none
      paymentMethod := none
      note := "" }
  findExisting := .ok none
  findExisting_sourceRef := nofun
  logWritable := false
  countAnswers := true

theorem mirrorAttempts_strictLaw_fails : ¬ KeepsTheStrictLaw := by
  intro hlaw
  have hwrite : unloggedAttempt.write = .error (.error "JOURNAL_ACTOR_REQUIRED") := rfl
  have hrecords := (hlaw [] [] unloggedAttempt _ hwrite).2.2.2 not_false not_false (by decide)
  exact absurd hrecords.1 (by decide)

end SafariLaundry.MirrorSafety
