import SafariLaundry.Library.History
import SafariLaundry.Library.Transaction

/-!
# Transactions that a failed statement aborts

Inside a transaction block every statement that fails aborts the block: from then on each
further statement fails as well, also those of a handler that has caught the first
failure, and the block leaves the database as it found it.
-/

namespace Library

/-- A database inside a transaction block. -/
structure Session (σ : Type) where
  db : σ
  aborted : Bool

namespace Session

open Transaction

variable {σ ε α : Type}

/-- One statement of a block; `lost` is what the statements of an aborted block fail with. -/
def statement (lost : ε) (x : Transaction ε σ α) : Transaction ε (Session σ) α :=
  ExceptT.mk fun session =>
    if session.aborted = true then (.error lost, session)
    else
      match x.outcome session.db with
      | (.ok a, db) => (.ok a, ⟨db, false⟩)
      | (.error e, _) => (.error e, ⟨session.db, true⟩)

def block (body : Transaction ε (Session σ) α) : Transaction ε σ α :=
  ExceptT.mk fun db =>
    match body.outcome ⟨db, false⟩ with
    | (.ok a, session) => (.ok a, if session.aborted = true then db else session.db)
    | (.error e, _) => (.error e, db)

variable {lost e e' : ε} {x : Transaction ε σ α} {body : Transaction ε (Session σ) α}
  {a : α} {db db' : σ} {session : Session σ}

theorem outcome_statement :
    (statement lost x).outcome ⟨db, false⟩ =
      match x.outcome db with
      | (.ok a, db) => (.ok a, ⟨db, false⟩)
      | (.error e, _) => (.error e, ⟨db, true⟩) := rfl

theorem outcome_block :
    (block body).outcome db =
      match body.outcome ⟨db, false⟩ with
      | (.ok a, session) => (.ok a, if session.aborted = true then db else session.db)
      | (.error e, _) => (.error e, db) := rfl

theorem commits_statement (hcommits : x.Commits db a db') :
    (statement lost x).Commits ⟨db, false⟩ a ⟨db', false⟩ := by
  unfold Commits
  rw [outcome_statement, hcommits]

theorem throws_statement (lost : ε) (hthrows : x.Throws db e db') :
    (statement lost x).Throws ⟨db, false⟩ e ⟨db, true⟩ := by
  unfold Throws
  rw [outcome_statement, hthrows]

theorem throws_statement_of_aborted : (statement lost x).Throws ⟨db, true⟩ lost ⟨db, true⟩ :=
  rfl

theorem commits_block (hcommits : body.Commits ⟨db, false⟩ a ⟨db', false⟩) :
    (block body).Commits db a db' := by
  unfold Commits
  rw [outcome_block, hcommits]
  rfl

theorem throws_block (hthrows : body.Throws ⟨db, false⟩ e session) :
    (block body).Throws db e db := by
  unfold Throws
  rw [outcome_block, hthrows]

end Session

namespace Calls

variable {σ κ ι : Type}

/-- A call fails and changes nothing, or returns the row that is there, or creates the row
and returns it; `Met` tells the last two from the first. -/
inductive GetsOrCreates (find : σ → Option ι) (Met : Prop) (answer : Option ι)
    (before after : σ) : Prop
  | failed (hunmet : ¬ Met) (hanswer : answer = none) (hafter : after = before)
  | got (hmet : Met) (row : ι) (hanswer : answer = some row) (hfind : find before = some row)
      (hafter : after = before)
  | created (hmet : Met) (row : ι) (hanswer : answer = some row) (hfind : find before = none)
      (hcreated : find after = some row)

variable {find : σ → Option ι} {Met : Prop} {answer : Option ι} {before after : σ}

def KeepsRow (find : σ → Option ι) (before after : σ) : Prop :=
  ∀ row, find before = some row → find after = some row

instance (find : σ → Option ι) : Std.Refl (KeepsRow find) := ⟨fun _ _ hfind => hfind⟩

instance (find : σ → Option ι) : IsTrans σ (KeepsRow find) :=
  ⟨fun _ _ _ hfirst hsecond row hfind => hsecond row (hfirst row hfind)⟩

theorem GetsOrCreates.keepsRow (hcall : GetsOrCreates find Met answer before after) :
    KeepsRow find before after := by
  intro row hrow
  cases hcall with
  | failed _ _ hafter => exact hafter ▸ hrow
  | got _ _ _ _ hafter => exact hafter ▸ hrow
  | created _ _ _ hfind _ =>
      rw [hrow] at hfind
      cases hfind

theorem GetsOrCreates.find_after {row : ι}
    (hcall : GetsOrCreates find Met answer before after) (hanswer : answer = some row) :
    find after = some row := by
  cases hcall with
  | failed _ hnone _ =>
      rw [hanswer] at hnone
      cases hnone
  | got _ _ hgot hfind hafter => rw [hafter, hfind, ← hgot, hanswer]
  | created _ _ hgot _ hcreated => rw [hcreated, ← hgot, hanswer]

theorem GetsOrCreates.met_iff (hcall : GetsOrCreates find Met answer before after) :
    Met ↔ answer ≠ none := by
  cases hcall with
  | failed hunmet hanswer _ => exact iff_of_false hunmet fun hsome => hsome hanswer
  | got hmet _ hanswer _ _ => exact iff_of_true hmet (hanswer ▸ Option.some_ne_none _)
  | created hmet _ hanswer _ _ => exact iff_of_true hmet (hanswer ▸ Option.some_ne_none _)

variable {sys : Calls σ κ} {P : κ → σ → Prop} {start last : σ} {past : List σ}
  {calls : List κ} {Q : κ → σ → Prop} {answerOf : κ → σ → Option ι}

theorem Log.find_of_answer
    (hcalls : ∀ c s, P c s → GetsOrCreates find (Q c s) (answerOf c s) s (sys.step c s))
    {trace : List σ} (hlog : sys.Log P start calls trace) :
    ∀ last ∈ trace.head?, ∀ found ∈ occurrences calls trace, ∀ row,
      answerOf found.1 found.2 = some row → find last = some row := by
  induction hlog with
  | start =>
      intro last _ found hfound
      cases hfound
  | @call s past calls c hbefore _ hadmitted ih =>
      intro last hlast found hfound row hanswer
      cases hlast
      have hcall := hcalls c s hadmitted
      have hhere : occurrences (c :: calls) (sys.step c s :: s :: past) =
          (c, s) :: occurrences calls (s :: past) := rfl
      rw [hhere] at hfound
      rcases List.mem_cons.1 hfound with rfl | hold
      · exact hcall.find_after hanswer
      · exact hcall.keepsRow row (ih s rfl found hold row hanswer)

theorem Log.answered_iff (find : σ → Option ι) (answerOf : κ → σ → Option ι)
    (hcalls : ∀ c s, P c s → (∀ t ∈ sys.seen c, KeepsRow find t s) →
      GetsOrCreates find (Q c s) (answerOf c s) s (sys.step c s))
    (hlog : sys.Log P start calls (last :: past)) :
    (∀ found ∈ occurrences calls (last :: past), ∃ row, find last = some row ∧
        answerOf found.1 found.2 = some row) ↔
      ∀ found ∈ occurrences calls (last :: past), Q found.1 found.2 := by
  have hgrown := (hlog.of_grows (R := KeepsRow find)
    fun c s hadmitted hseen => (hcalls c s hadmitted hseen).keepsRow).1
  have hstep : ∀ c s, (P c s ∧ ∀ t ∈ sys.seen c, KeepsRow find t s) →
      GetsOrCreates find (Q c s) (answerOf c s) s (sys.step c s) :=
    fun c s hadmitted => hcalls c s hadmitted.1 hadmitted.2
  have hfind := hgrown.find_of_answer hstep last rfl
  have hmet := hgrown.forall_occurrences
    (R := fun c s => Q c s ↔ answerOf c s ≠ none) fun c s hadmitted => (hstep c s hadmitted).met_iff
  constructor
  · intro hanswered found hfound
    obtain ⟨row, _, hanswer⟩ := hanswered found hfound
    exact (hmet found hfound).2 (hanswer ▸ Option.some_ne_none _)
  · intro hall found hfound
    obtain ⟨row, hanswer⟩ := Option.ne_none_iff_exists'.1 ((hmet found hfound).1 (hall found hfound))
    exact ⟨row, hfind found hfound row hanswer, hanswer⟩

end Calls

end Library
