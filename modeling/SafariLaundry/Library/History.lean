import Mathlib

/-!
# Runs of calls that read the past

Calls act on a shared state one after the other, in the order in which they take
its lock.  What a call read before it got the lock may be any state of the run so
far: a run is therefore the list of its states, newest first, and a call carries
the states it saw.
-/

namespace Library

open List

/-- Calls of type `κ` on states of type `σ`: what a call does to the state it finds
under the lock, and the states it read before. -/
structure Calls (σ κ : Type) where
  step : κ → σ → σ
  seen : κ → List σ

namespace Calls

variable {σ κ : Type} (sys : Calls σ κ)

/-- The runs from a start state in which every call is admitted by `P` at the state
it finds. -/
inductive Run (P : κ → σ → Prop) (start : σ) : List σ → Prop
  | start : Run P start [start]
  | call {s : σ} {past : List σ} (c : κ) (hrun : Run P start (s :: past))
      (hseen : ∀ t ∈ sys.seen c, t ∈ s :: past) (hadmitted : P c s) :
      Run P start (sys.step c s :: s :: past)

variable {sys} {P : κ → σ → Prop} {start : σ} {trace : List σ}

variable {Q F : κ → σ → Prop} {I : σ → Prop} {R : σ → σ → Prop}

theorem Run.mono (hPQ : ∀ c s, P c s → Q c s) (hrun : sys.Run P start trace) :
    sys.Run Q start trace := by
  induction hrun with
  | start => exact .start
  | call c _ hseen hadmitted ih => exact .call c ih hseen (hPQ c _ hadmitted)

theorem Run.invariant (hstart : I start)
    (hstep : ∀ c s, I s → (∀ t ∈ sys.seen c, I t) → P c s → I (sys.step c s))
    (hrun : sys.Run P start trace) :
    ∀ s ∈ trace, I s := by
  induction hrun with
  | start =>
      intro s hs
      rw [mem_singleton.1 hs]
      exact hstart
  | @call s past c _ hseen hadmitted ih =>
      intro t ht
      rcases mem_cons.1 ht with rfl | hold
      · apply hstep c s (ih s (mem_cons_self ..)) _ hadmitted
        intro u hu
        exact ih u (hseen u hu)
      · exact ih t hold

theorem Run.isChain (hstart : I start)
    (hstep : ∀ c s, I s → (∀ t ∈ sys.seen c, I t) → P c s → I (sys.step c s))
    (hdoes : ∀ c s, I s → (∀ t ∈ sys.seen c, I t) → P c s → R s (sys.step c s))
    (hrun : sys.Run P start trace) :
    trace.IsChain fun later earlier => R earlier later := by
  induction hrun with
  | start => exact isChain_singleton _
  | @call s past c hbefore hseen hadmitted ih =>
      have hinv := hbefore.invariant hstart hstep
      rw [isChain_cons_cons]
      refine ⟨hdoes c s (hinv s (mem_cons_self ..)) ?_ hadmitted, ih⟩
      intro t ht
      exact hinv t (hseen t ht)

/-! ## Runs that name their calls -/

variable (sys)

/-- A run together with its calls, newest first. -/
inductive Log (P : κ → σ → Prop) (start : σ) : List κ → List σ → Prop
  | start : Log P start [] [start]
  | call {s : σ} {past : List σ} {calls : List κ} (c : κ) (hlog : Log P start calls (s :: past))
      (hseen : ∀ t ∈ sys.seen c, t ∈ s :: past) (hadmitted : P c s) :
      Log P start (c :: calls) (sys.step c s :: s :: past)

variable {sys} {calls : List κ}

/-- If every admitted call does to the state it finds what `apply` does, whatever it saw
before, the states of the run are those of the calls applied one after the other. -/
theorem Log.eq_serial {apply : κ → σ → σ} (hstep : ∀ c s, P c s → sys.step c s = apply c s)
    (hlog : sys.Log P start calls trace) :
    trace = calls.tails.map fun done => done.foldr apply start := by
  induction hlog with
  | start => rfl
  | @call s past calls c _ _ hadmitted ih =>
      have hhead : s = calls.foldr apply start := by
        cases calls with
        | nil => exact (List.cons.inj ih).1
        | cons last done => exact (List.cons.inj ih).1
      rw [tails_cons, map_cons, ← ih, hstep c s hadmitted, hhead]
      rfl

theorem Log.of_grows [Std.Refl R] [IsTrans σ R]
    (hgrows : ∀ c s, P c s → (∀ t ∈ sys.seen c, R t s) → R s (sys.step c s))
    (hlog : sys.Log P start calls trace) :
    sys.Log (fun c s => P c s ∧ ∀ t ∈ sys.seen c, R t s) start calls trace ∧
      trace.Pairwise fun later earlier => R earlier later := by
  induction hlog with
  | start => exact ⟨.start, pairwise_singleton _ _⟩
  | @call s past calls c _ hseen hadmitted ih =>
      have hbelow : ∀ t ∈ s :: past, R t s := by
        intro t ht
        rcases mem_cons.1 ht with rfl | hold
        · exact Std.Refl.refl t
        · exact (pairwise_cons.1 ih.2).1 t hold
      have hread : ∀ t ∈ sys.seen c, R t s := fun t ht => hbelow t (hseen t ht)
      refine ⟨.call c ih.1 hseen ⟨hadmitted, hread⟩, pairwise_cons.2 ⟨?_, ih.2⟩⟩
      intro t ht
      exact IsTrans.trans t s _ (hbelow t ht) (hgrows c s hadmitted hread)

theorem Log.ne_nil (hlog : sys.Log P start calls trace) : trace ≠ [] := by
  cases hlog with
  | start => exact cons_ne_nil _ _
  | call => exact cons_ne_nil _ _

theorem Log.start_mem (hlog : sys.Log P start calls trace) : start ∈ trace := by
  induction hlog with
  | start => exact mem_singleton_self start
  | call c _ _ _ ih => exact mem_cons_of_mem _ ih

/-- The calls of a run with the states they found. -/
def occurrences (calls : List κ) (trace : List σ) : List (κ × σ) :=
  calls.zip trace.tail

theorem Log.forall_occurrences {R : κ → σ → Prop} (hadmits : ∀ c s, P c s → R c s)
    (hlog : sys.Log P start calls trace) :
    ∀ found ∈ occurrences calls trace, R found.1 found.2 := by
  induction hlog with
  | start =>
      intro found hfound
      cases hfound
  | call c _ _ hadmitted ih =>
      intro found hfound
      rcases mem_cons.1 hfound with rfl | hold
      · exact hadmits _ _ hadmitted
      · exact ih found hold

theorem Log.of_invariant (hstart : I start)
    (hstep : ∀ c s, I s → (∀ t ∈ sys.seen c, I t) → P c s → I (sys.step c s))
    (hlog : sys.Log P start calls trace) :
    sys.Log (fun c s => P c s ∧ I s ∧ ∀ t ∈ sys.seen c, I t) start calls trace ∧
      ∀ s ∈ trace, I s := by
  induction hlog with
  | start => exact ⟨.start, forall_mem_singleton.2 hstart⟩
  | @call s past calls c _ hseen hadmitted ih =>
      have hhere : I s := ih.2 s (mem_cons_self ..)
      have hread : ∀ t ∈ sys.seen c, I t := fun t ht => ih.2 t (hseen t ht)
      exact ⟨.call c ih.1 hseen ⟨hadmitted, hhere, hread⟩,
        forall_mem_cons.2 ⟨hstep c s hhere hread hadmitted, ih.2⟩⟩

theorem Log.forall_iff_steps (hstart : I start) (hlog : sys.Log P start calls trace) :
    (∀ s ∈ trace, I s) ↔ ∀ found ∈ occurrences calls trace, I (sys.step found.1 found.2) := by
  induction hlog with
  | start => simpa [occurrences] using hstart
  | @call s past calls c _ _ _ ih =>
      have hhere : occurrences (c :: calls) (sys.step c s :: s :: past) =
          (c, s) :: occurrences calls (s :: past) := rfl
      rw [hhere, forall_mem_cons, ih, forall_mem_cons]

theorem Log.invariant (hstart : I start) (hstep : ∀ c s, I s → P c s → Q c s → I (sys.step c s))
    (hlog : sys.Log P start calls trace)
    (hmet : ∀ found ∈ occurrences calls trace, Q found.1 found.2) :
    ∀ s ∈ trace, I s := by
  induction hlog with
  | start =>
      intro s hs
      rw [mem_singleton.1 hs]
      exact hstart
  | @call s past calls c _ _ hadmitted ih =>
      have hbefore := ih fun found hfound => hmet found (mem_cons_of_mem _ hfound)
      have hhere := hmet (c, s) (mem_cons_self ..)
      exact forall_mem_cons.2
        ⟨hstep c s (hbefore s (mem_cons_self ..)) hadmitted hhere, hbefore⟩

theorem Log.right_of_met (hstart : I start)
    (hstep : ∀ c s, I s → P c s → Q c s → F c s ∧ I (sys.step c s))
    (hlog : sys.Log P start calls trace)
    (hmet : ∀ found ∈ occurrences calls trace, Q found.1 found.2) :
    ∀ found ∈ occurrences calls trace, F found.1 found.2 := by
  induction hlog with
  | start =>
      intro found hfound
      cases hfound
  | @call s past calls c hlog _ hadmitted ih =>
      have hmetBefore : ∀ found ∈ occurrences calls (s :: past), Q found.1 found.2 :=
        fun found hfound => hmet found (mem_cons_of_mem _ hfound)
      have hinv := hlog.invariant hstart
        (fun c s hs hP hQ => (hstep c s hs hP hQ).2) hmetBefore s (mem_cons_self ..)
      have hhere := (hstep c s hinv hadmitted (hmet (c, s) (mem_cons_self ..))).1
      exact forall_mem_cons.2 ⟨hhere, ih hmetBefore⟩

theorem Log.meets_of_lasting {J L : σ → Prop} (hstart : J start)
    (hmeets : ∀ c s, J s → P c s → I (sys.step c s) → F c s → ¬ L (sys.step c s) → Q c s)
    (hlasts : ∀ c s, P c s → L s → L (sys.step c s))
    (hkeeps : ∀ c s, J s → P c s → Q c s → J (sys.step c s)) (hlog : sys.Log P start calls trace)
    (hend : ∀ last ∈ trace.head?, ¬ L last) (hgood : ∀ s ∈ trace, I s)
    (hright : ∀ found ∈ occurrences calls trace, F found.1 found.2) :
    ∀ found ∈ occurrences calls trace, Q found.1 found.2 := by
  induction hlog with
  | start =>
      intro found hfound
      cases hfound
  | @call s past calls c hlog _ hadmitted ih =>
      have hfault := hend _ rfl
      have hbefore : ∀ last ∈ (s :: past).head?, ¬ L last := by
        intro last hlast hlasting
        cases hlast
        exact hfault (hlasts c s hadmitted hlasting)
      have hmet := ih hbefore (fun t ht => hgood t (mem_cons_of_mem _ ht))
        fun found hfound => hright found (mem_cons_of_mem _ hfound)
      have hinv := hlog.invariant hstart hkeeps hmet s (mem_cons_self ..)
      have hhere := hmeets c s hinv hadmitted (hgood _ (mem_cons_self ..))
        (hright (c, s) (mem_cons_self ..)) hfault
      exact forall_mem_cons.2 ⟨hhere, hmet⟩

theorem Log.holds_iff {J : σ → Prop} (hstart : J start) (hholds : ∀ s, J s → I s)
    (hmeets : ∀ c s, J s → P c s → I (sys.step c s) → Q c s)
    (hkeeps : ∀ c s, J s → P c s → Q c s → J (sys.step c s)) (hlog : sys.Log P start calls trace) :
    (∀ s ∈ trace, I s) ↔ ∀ found ∈ occurrences calls trace, Q found.1 found.2 := by
  constructor
  · induction hlog with
    | start =>
        intro _ found hfound
        cases hfound
    | @call s past calls c hlog _ hadmitted ih =>
        intro hall
        have hmet := ih fun t ht => hall t (mem_cons_of_mem _ ht)
        have hinv := hlog.invariant hstart hkeeps hmet s (mem_cons_self ..)
        exact forall_mem_cons.2
          ⟨hmeets c s hinv hadmitted (hall _ (mem_cons_self ..)), hmet⟩
  · intro hmet s hs
    exact hholds s (hlog.invariant hstart hkeeps hmet s hs)

theorem Log.calls_iff [Std.Refl R] [IsTrans σ R] (hstart : I start)
    (hstep : ∀ c s, I s → (∀ t ∈ sys.seen c, I t ∧ R t s) → P c s →
      (F c s ↔ Q c s) ∧ (Q c s → I (sys.step c s) ∧ R s (sys.step c s)))
    (hlog : sys.Log P start calls trace) :
    (∀ found ∈ occurrences calls trace, F found.1 found.2) ↔
      ∀ found ∈ occurrences calls trace, Q found.1 found.2 := by
  have hall : ((∀ found ∈ occurrences calls trace, F found.1 found.2) ↔
        ∀ found ∈ occurrences calls trace, Q found.1 found.2) ∧
      ((∀ found ∈ occurrences calls trace, Q found.1 found.2) →
        ∀ last ∈ trace.head?, ∀ t ∈ trace, I t ∧ R t last) := by
    induction hlog with
    | start =>
        refine ⟨by simp [occurrences], ?_⟩
        intro _ last hlast t ht
        cases hlast
        cases mem_singleton.1 ht
        exact ⟨hstart, Std.Refl.refl _⟩
    | @call s past calls c _ hseen hadmitted ih =>
        have hhere : occurrences (c :: calls) (sys.step c s :: s :: past) =
            (c, s) :: occurrences calls (s :: past) := rfl
        rw [hhere, forall_mem_cons, forall_mem_cons]
        constructor
        · constructor
          · rintro ⟨hright, hrights⟩
            have hmet := ih.1.1 hrights
            have hbefore := ih.2 hmet s rfl
            exact ⟨(hstep c s (hbefore s (mem_cons_self ..)).1
              (fun t ht => hbefore t (hseen t ht)) hadmitted).1.1 hright, hmet⟩
          · rintro ⟨hmeets, hmet⟩
            have hbefore := ih.2 hmet s rfl
            exact ⟨(hstep c s (hbefore s (mem_cons_self ..)).1
              (fun t ht => hbefore t (hseen t ht)) hadmitted).1.2 hmeets, ih.1.2 hmet⟩
        · rintro ⟨hmeets, hmet⟩ last hlast t ht
          cases hlast
          have hbefore := ih.2 hmet s rfl
          have hgone := (hstep c s (hbefore s (mem_cons_self ..)).1
            (fun t ht => hbefore t (hseen t ht)) hadmitted).2 hmeets
          rcases mem_cons.1 ht with rfl | hold
          · exact ⟨hgone.1, Std.Refl.refl _⟩
          · exact ⟨(hbefore t hold).1, IsTrans.trans t s _ (hbefore t hold).2 hgone.2⟩
  exact hall.1

theorem Log.invariant_iff (hstart : I start)
    (hstep : ∀ c s, I s → P c s → (I (sys.step c s) ↔ Q c s)) (hlog : sys.Log P start calls trace) :
    (∀ s ∈ trace, I s) ↔ ∀ found ∈ occurrences calls trace, Q found.1 found.2 := by
  induction hlog with
  | start => simpa [occurrences] using hstart
  | @call s past calls c hrun _ hadmitted ih =>
      have hhere : occurrences (c :: calls) (sys.step c s :: s :: past) =
          (c, s) :: occurrences calls (s :: past) := rfl
      rw [hhere]
      constructor
      · intro hinv
        have hbefore : ∀ t ∈ s :: past, I t := fun t ht => hinv t (.tail _ ht)
        have hhold := hstep c s (hbefore s (mem_cons_self ..)) hadmitted
        exact forall_mem_cons.2 ⟨hhold.1 (hinv _ (.head _)), ih.1 hbefore⟩
      · intro hmet
        have hbefore := ih.2 (forall_mem_cons.1 hmet).2
        have hhold := hstep c s (hbefore s (mem_cons_self ..)) hadmitted
        exact forall_mem_cons.2 ⟨hhold.2 (forall_mem_cons.1 hmet).1, hbefore⟩

end Calls

end Library
