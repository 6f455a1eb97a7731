import Mathlib

/-!
# Transactions over one database

A service method reads and writes one database, may throw, and either commits
or rolls back.  `Transaction` is that computation, `Commits` is the judgement
"started here, it returned this and left that state", and every construct used
to write a method has one rule for it.  `KeepsAt` is the frame judgement: all
that a computation does to the state, also before a throw, stays inside a preorder.
-/

namespace Library

/-- A computation that reads and writes a state `σ` and may throw an `ε`.
The state survives a throw: a handler sees the writes made before it. -/
abbrev Transaction (ε σ α : Type) := ExceptT ε (StateM σ) α

namespace Transaction

variable {ε σ α β : Type}

/-- What the computation answers and leaves when started in `s`. -/
def outcome (x : Transaction ε σ α) (s : σ) : Except ε α × σ :=
  StateT.run (ExceptT.run x) s

/-- Started in `s`, the computation returns `a` and leaves `t`. -/
def Commits (x : Transaction ε σ α) (s : σ) (a : α) (t : σ) : Prop :=
  x.outcome s = (.ok a, t)

def Throws (x : Transaction ε σ α) (s : σ) (e : ε) (t : σ) : Prop :=
  x.outcome s = (.error e, t)

def require (c : Prop) [Decidable c] (e : ε) : Transaction ε σ Unit :=
  if c then pure () else throw e

/-- A conditional step. -/
def whenever (c : Prop) [Decidable c] (x : Transaction ε σ Unit) : Transaction ε σ Unit :=
  if c then x else pure ()

/-- Read a row, failing with `e` when there is none. -/
def fetch (f : σ → Option α) (e : ε) : Transaction ε σ α := do
  match f (← get) with
  | some a => pure a
  | none => throw e

/-- Read a value that is always there. -/
def reads (f : σ → α) : Transaction ε σ α := do
  return f (← get)

/-- An all-or-nothing block: when the body throws, `rollback before after`
says what of its writes survives. -/
def atomically (rollback : σ → σ → σ) (x : Transaction ε σ α) : Transaction ε σ α :=
  ExceptT.mk fun s =>
    match x.outcome s with
    | (.ok a, t) => (.ok a, t)
    | (.error e, t) => (.error e, rollback s t)

variable {x : Transaction ε σ α} {f : α → Transaction ε σ β} {handler : ε → Transaction ε σ α}
  {s t u : σ} {a : α} {b : β} {e : ε}

theorem commits_of_returns (hreturns : (x.outcome s).1.toOption = some a) :
    x.Commits s a (x.outcome s).2 := by
  unfold Commits
  rcases houtcome : x.outcome s with ⟨r, t⟩
  rw [houtcome] at hreturns
  cases r with
  | error e => cases hreturns
  | ok b =>
      cases hreturns
      rfl

theorem exists_commits_of_isOk (hok : (x.outcome s).1.isOk = true) :
    ∃ a, x.Commits s a (x.outcome s).2 := by
  cases hresult : (x.outcome s).1 with
  | error e =>
      rw [hresult] at hok
      cases hok
  | ok a => exact ⟨a, commits_of_returns (by rw [hresult]; rfl)⟩

theorem commits_of_isOk {x : Transaction ε σ Unit} (hok : (x.outcome s).1.isOk = true) :
    x.Commits s () (x.outcome s).2 := by
  obtain ⟨_, hcommits⟩ := exists_commits_of_isOk hok
  exact hcommits

@[simp] theorem commits_pure {a b : α} :
    (pure a : Transaction ε σ α).Commits s b t ↔ a = b ∧ s = t := by
  change ((Except.ok a, s) : Except ε α × σ) = (.ok b, t) ↔ _
  simp

@[simp] theorem commits_throw : (throw e : Transaction ε σ α).Commits s a t ↔ False := by
  change ((Except.error e, s) : Except ε α × σ) = (.ok a, t) ↔ _
  simp

theorem outcome_bind :
    (x >>= f).outcome s =
      match x.outcome s with
      | (.ok a, t) => (f a).outcome t
      | (.error e, t) => (.error e, t) := by
  change (match x.outcome s with
    | (r, t) => (ExceptT.bindCont f r : StateM σ (Except ε β)) t) = _
  rcases x.outcome s with ⟨r, t⟩
  cases r with
  | error e => rfl
  | ok a => rfl

@[simp] theorem commits_bind :
    (x >>= f).Commits s b u ↔
      ∃ a t, x.Commits s a t ∧ (f a).Commits t b u := by
  unfold Commits
  rw [outcome_bind]
  rcases hx : x.outcome s with ⟨r, t⟩
  cases r with
  | error e => simp
  | ok a =>
      constructor
      · intro hrest
        exact ⟨a, t, rfl, hrest⟩
      · rintro ⟨a', t', heq, hrest⟩
        simp only [Prod.mk.injEq, Except.ok.injEq] at heq
        rcases heq with ⟨rfl, rfl⟩
        exact hrest

theorem exists_commits_bind (hfirst : x.Commits s a t) (hrest : ∃ b u, (f a).Commits t b u) :
    ∃ b u, (x >>= f).Commits s b u := by
  obtain ⟨b, u, hcommits⟩ := hrest
  exact ⟨b, u, commits_bind.2 ⟨a, t, hfirst, hcommits⟩⟩

@[simp] theorem commits_map {f : α → β} :
    (f <$> x).Commits s b t ↔ ∃ a, x.Commits s a t ∧ f a = b := by
  rw [← bind_pure_comp]
  simp only [commits_bind, commits_pure]
  constructor
  · rintro ⟨a, u, hx, hb, rfl⟩
    exact ⟨a, hx, hb⟩
  · rintro ⟨a, hx, hb⟩
    exact ⟨a, t, hx, hb, rfl⟩

@[simp] theorem commits_get {a s t : σ} :
    (get : Transaction ε σ σ).Commits s a t ↔ s = a ∧ s = t := by
  change ((Except.ok s, s) : Except ε σ × σ) = (.ok a, t) ↔ _
  simp

@[simp] theorem commits_modify {f : σ → σ} {a : PUnit} :
    (modify f : Transaction ε σ PUnit).Commits s a t ↔ t = f s := by
  change ((Except.ok PUnit.unit, f s) : Except ε PUnit × σ) = (.ok a, t) ↔ _
  simp only [Prod.mk.injEq, true_and]
  exact eq_comm

variable {c : Prop} {rollback : σ → σ → σ}

@[simp] theorem commits_require [Decidable c] {a : Unit} :
    (require c e : Transaction ε σ Unit).Commits s a t ↔ c ∧ s = t := by
  unfold require
  by_cases hc : c
  · simp [hc]
  · simp [hc]

@[simp] theorem commits_fetch {f : σ → Option α} :
    (fetch f e : Transaction ε σ α).Commits s a t ↔ f s = some a ∧ s = t := by
  unfold fetch
  simp only [commits_bind, commits_get]
  constructor
  · rintro ⟨_, _, ⟨rfl, rfl⟩, hrest⟩
    cases hf : f s with
    | none => simp [hf] at hrest
    | some b =>
        simp only [hf, commits_pure] at hrest
        rcases hrest with ⟨rfl, rfl⟩
        exact ⟨rfl, rfl⟩
  · rintro ⟨hf, rfl⟩
    exact ⟨s, s, ⟨rfl, rfl⟩, by simp [hf]⟩

@[simp] theorem commits_ofExcept {x : Except ε α} :
    (ofExcept x : Transaction ε σ α).Commits s a t ↔ x = .ok a ∧ s = t := by
  cases x with
  | error e => simp [ofExcept]
  | ok b => simp [ofExcept]

@[simp] theorem commits_reads {f : σ → α} :
    (reads f : Transaction ε σ α).Commits s a t ↔ f s = a ∧ s = t := by
  unfold reads
  simp only [commits_bind, commits_get, commits_pure]
  constructor
  · rintro ⟨_, _, ⟨rfl, rfl⟩, ha, rfl⟩
    exact ⟨ha, rfl⟩
  · rintro ⟨ha, rfl⟩
    exact ⟨s, s, ⟨rfl, rfl⟩, ha, rfl⟩

theorem outcome_tryCatch :
    (tryCatch x handler).outcome s =
      match x.outcome s with
      | (.ok a, t) => (.ok a, t)
      | (.error e, t) => (handler e).outcome t := by
  change (match x.outcome s with
    | (r, t) => (match r with
        | Except.ok a => (pure (Except.ok a) : StateM σ (Except ε α))
        | Except.error e => handler e) t) = _
  rcases x.outcome s with ⟨r, t⟩
  cases r with
  | error e => rfl
  | ok a => rfl

theorem commits_tryCatch :
    (tryCatch x handler).Commits s a t ↔
      x.Commits s a t ∨ ∃ e u, x.Throws s e u ∧ (handler e).Commits u a t := by
  unfold Commits Throws
  rw [outcome_tryCatch]
  rcases x.outcome s with ⟨r, u⟩
  cases r with
  | error e => simp
  | ok b => simp

theorem outcome_atomically :
    (atomically rollback x).outcome s =
      match x.outcome s with
      | (.ok a, t) => (.ok a, t)
      | (.error e, t) => (.error e, rollback s t) := rfl

@[simp] theorem commits_atomically :
    (atomically rollback x).Commits s a t ↔ x.Commits s a t := by
  unfold Commits
  rw [outcome_atomically]
  rcases x.outcome s with ⟨r, u⟩
  cases r with
  | error e => simp
  | ok b => simp

/-! ### Computations that agree at one state -/

theorem outcome_bind_left {x y : Transaction ε σ α} (hsame : x.outcome s = y.outcome s) :
    (x >>= f).outcome s = (y >>= f).outcome s := by
  rw [outcome_bind, outcome_bind, hsame]

theorem outcome_bind_right {f g : α → Transaction ε σ β}
    (hsame : ∀ a t, x.Commits s a t → (f a).outcome t = (g a).outcome t) :
    (x >>= f).outcome s = (x >>= g).outcome s := by
  rw [outcome_bind, outcome_bind]
  rcases hx : x.outcome s with ⟨r, t⟩
  cases r with
  | error e => rfl
  | ok a => exact hsame a t hx

theorem outcome_atomically_congr {x y : Transaction ε σ α} (hsame : x.outcome s = y.outcome s) :
    (atomically rollback x).outcome s = (atomically rollback y).outcome s := by
  rw [outcome_atomically, outcome_atomically, hsame]

theorem require_congr {c' : Prop} [Decidable c] [Decidable c'] (hiff : c ↔ c') (e : ε) :
    (require c e : Transaction ε σ Unit) = require c' e := by
  unfold require
  by_cases hc : c
  · rw [if_pos hc, if_pos (hiff.1 hc)]
  · rw [if_neg hc, if_neg fun h => hc (hiff.2 h)]

theorem forM_map {γ : Type} (g : γ → β) (f : β → Transaction ε σ PUnit) (items : List γ) :
    (items.map g).forM f = items.forM fun item => f (g item) := by
  induction items with
  | nil => rfl
  | cons item rest ih =>
      change (f (g item) >>= fun _ => (rest.map g).forM f) = _
      rw [ih]
      rfl

@[simp] theorem commits_forM_nil {f : β → Transaction ε σ PUnit} {a : PUnit} :
    (([] : List β).forM f).Commits s a t ↔ s = t := by
  change (pure ⟨⟩ : Transaction ε σ PUnit).Commits s a t ↔ _
  simp

@[simp] theorem commits_forM_cons {f : β → Transaction ε σ PUnit} {rest : List β} {a : PUnit} :
    ((b :: rest).forM f).Commits s a u ↔
      ∃ t, (f b).Commits s ⟨⟩ t ∧ (rest.forM f).Commits t ⟨⟩ u := by
  change (f b >>= fun _ => rest.forM f).Commits s a u ↔ _
  simp only [commits_bind]
  constructor
  · rintro ⟨⟨⟩, t, hb, hrest⟩
    exact ⟨t, hb, hrest⟩
  · rintro ⟨t, hb, hrest⟩
    exact ⟨⟨⟩, t, hb, hrest⟩

section Throw

variable {e' : ε}

@[simp] theorem throws_pure :
    ¬ (pure a : Transaction ε σ α).Throws s e t := by
  intro hthrows
  change ((Except.ok a, s) : Except ε α × σ) = (.error e, t) at hthrows
  simp at hthrows

@[simp] theorem throws_throw : (throw e : Transaction ε σ α).Throws s e' t ↔ e = e' ∧ s = t := by
  change ((Except.error e, s) : Except ε α × σ) = (.error e', t) ↔ _
  simp

@[simp] theorem throws_get :
    ¬ (get : Transaction ε σ σ).Throws s e t := by
  intro hthrows
  change ((Except.ok s, s) : Except ε σ × σ) = (.error e, t) at hthrows
  simp at hthrows

@[simp] theorem throws_modify {f : σ → σ} :
    ¬ (modify f : Transaction ε σ PUnit).Throws s e t := by
  intro hthrows
  change ((Except.ok PUnit.unit, f s) : Except ε PUnit × σ) = (.error e, t) at hthrows
  simp at hthrows

@[simp] theorem throws_bind :
    (x >>= f).Throws s e u ↔
      x.Throws s e u ∨ ∃ a t, x.Commits s a t ∧ (f a).Throws t e u := by
  unfold Throws Commits
  rw [outcome_bind]
  rcases hx : x.outcome s with ⟨r, t⟩
  cases r with
  | error e'' => simp
  | ok a =>
      constructor
      · intro hrest
        exact .inr ⟨a, t, rfl, hrest⟩
      · rintro (hfirst | ⟨a', t', heq, hrest⟩)
        · simp at hfirst
        · simp only [Prod.mk.injEq, Except.ok.injEq] at heq
          rcases heq with ⟨rfl, rfl⟩
          exact hrest

@[simp] theorem throws_require {c : Prop} [Decidable c] :
    (require c e : Transaction ε σ Unit).Throws s e' t ↔ ¬ c ∧ e = e' ∧ s = t := by
  unfold require
  by_cases hc : c
  · simp [hc]
  · simp [hc]

@[simp] theorem throws_reads {f : σ → α} :
    ¬ (reads f : Transaction ε σ α).Throws s e t := by
  change ¬ (pure (f s) : Transaction ε σ α).Throws s e t
  exact throws_pure

@[simp] theorem throws_fetch {f : σ → Option α} :
    (fetch f e : Transaction ε σ α).Throws s e' t ↔ f s = none ∧ e = e' ∧ s = t := by
  change (match f s with
    | some a => (pure a : Transaction ε σ α)
    | none => throw e).Throws s e' t ↔ _
  cases f s with
  | none => simp
  | some a => simp

@[simp] theorem throws_forM_nil {f : β → Transaction ε σ PUnit} :
    ¬ (([] : List β).forM f).Throws s e t := by
  change ¬ (pure ⟨⟩ : Transaction ε σ PUnit).Throws s e t
  exact throws_pure

theorem throws_forM_cons {f : β → Transaction ε σ PUnit} {rest : List β} :
    ((b :: rest).forM f).Throws s e u ↔ (f b).Throws s e u ∨
        ∃ t, (f b).Commits s ⟨⟩ t ∧ (rest.forM f).Throws t e u := by
  change (f b >>= fun _ => rest.forM f).Throws s e u ↔ _
  simp only [throws_bind]
  constructor
  · rintro (hfirst | ⟨⟨⟩, t, hb, hrest⟩)
    · exact .inl hfirst
    · exact .inr ⟨t, hb, hrest⟩
  · rintro (hfirst | ⟨t, hb, hrest⟩)
    · exact .inl hfirst
    · exact .inr ⟨⟨⟩, t, hb, hrest⟩

end Throw

theorem throws_tryCatch :
    (tryCatch x handler).Throws s e t ↔
      ∃ e' u, x.Throws s e' u ∧ (handler e').Throws u e t := by
  unfold Throws
  rw [outcome_tryCatch]
  rcases x.outcome s with ⟨r, u⟩
  cases r with
  | error e' => simp
  | ok a => simp

theorem throws_atomically :
    (atomically rollback x).Throws s e t ↔ ∃ u, x.Throws s e u ∧ rollback s u = t := by
  unfold Throws
  rw [outcome_atomically]
  rcases x.outcome s with ⟨r, u⟩
  cases r with
  | error e' => simp
  | ok a => simp

@[simp] theorem commits_whenever [Decidable c] {x : Transaction ε σ Unit} {a : Unit} :
    (whenever c x).Commits s a t ↔ (c ∧ x.Commits s a t) ∨ (¬ c ∧ s = t) := by
  unfold whenever
  by_cases hc : c
  · simp [hc]
  · simp [hc]

@[simp] theorem throws_whenever [Decidable c] {x : Transaction ε σ Unit} :
    (whenever c x).Throws s e t ↔ c ∧ x.Throws s e t := by
  unfold whenever
  by_cases hc : c
  · simp [hc]
  · simp [hc]

section Returns

/-- Started in `s`, the computation does not throw. -/
def ReturnsAt (s : σ) (x : Transaction ε σ α) : Prop :=
  ∀ e t, ¬ x.Throws s e t

theorem ReturnsAt.exists_commits (hx : ReturnsAt s x) :
    ∃ a t, x.Commits s a t := by
  rcases houtcome : x.outcome s with ⟨r, t⟩
  cases r with
  | error e => exact absurd houtcome (hx e t)
  | ok a => exact ⟨a, t, houtcome⟩

theorem returnsAt_pure (a : α) : ReturnsAt s (pure a : Transaction ε σ α) :=
  fun _ _ => throws_pure

theorem returnsAt_modify (f : σ → σ) : ReturnsAt s (modify f : Transaction ε σ PUnit) :=
  fun _ _ => throws_modify

theorem returnsAt_reads (f : σ → α) : ReturnsAt s (reads f : Transaction ε σ α) :=
  fun _ _ => throws_reads

theorem returnsAt_require {c : Prop} [Decidable c] (e : ε) (hc : c) :
    ReturnsAt s (require c e : Transaction ε σ Unit) := by
  intro _ _ hthrows
  exact (throws_require.1 hthrows).1 hc

theorem returnsAt_fetch {f : σ → Option α} (e : ε) (hfound : f s ≠ none) :
    ReturnsAt s (fetch f e : Transaction ε σ α) := by
  intro _ _ hthrows
  exact hfound (throws_fetch.1 hthrows).1

theorem ReturnsAt.bind (hx : ReturnsAt s x) (hf : ∀ a t, x.Commits s a t → ReturnsAt t (f a)) :
    ReturnsAt s (x >>= f) := by
  intro e u hthrows
  rcases throws_bind.1 hthrows with hfirst | ⟨a, t, hfirst, hrest⟩
  · exact hx e u hfirst
  · exact hf a t hfirst e u hrest

theorem ReturnsAt.forM {f : β → Transaction ε σ PUnit} {items : List β}
    (hitem : ∀ b ∈ items, ∀ t, ReturnsAt t (f b)) : ReturnsAt s (items.forM f) := by
  induction items generalizing s with
  | nil => exact returnsAt_pure PUnit.unit
  | cons b rest ih =>
      apply ReturnsAt.bind (hitem b (List.mem_cons_self ..) s)
      intro _ t _
      exact ih fun other hother => hitem other (List.mem_cons_of_mem b hother)

theorem ReturnsAt.whenever {c : Prop} [Decidable c] {x : Transaction ε σ Unit}
    (hx : c → ReturnsAt s x) : ReturnsAt s (whenever c x) := by
  intro e t hthrows
  obtain ⟨hc, hthrows⟩ := throws_whenever.1 hthrows
  exact hx hc e t hthrows

theorem ReturnsAt.tryCatch (hx : ReturnsAt s x) : ReturnsAt s (tryCatch x handler) := by
  intro e t hthrows
  obtain ⟨e', u, hfirst, _⟩ := throws_tryCatch.1 hthrows
  exact hx e' u hfirst

end Returns

section First

variable {τ : Type}

/-- Run on the first component; the second is out of reach. -/
def onFirst (x : Transaction ε σ α) : Transaction ε (σ × τ) α :=
  ExceptT.mk fun s => ((x.outcome s.1).1, ((x.outcome s.1).2, s.2))

theorem outcome_onFirst {s : σ × τ} :
    (onFirst x).outcome s = ((x.outcome s.1).1, ((x.outcome s.1).2, s.2)) := rfl

@[simp] theorem commits_onFirst {s t : σ × τ} :
    (onFirst x).Commits s a t ↔ x.Commits s.1 a t.1 ∧ s.2 = t.2 := by
  unfold Commits
  rw [outcome_onFirst]
  rcases x.outcome s.1 with ⟨r, u⟩
  rcases t with ⟨t₁, t₂⟩
  simp only [Prod.mk.injEq, and_assoc]

end First

/-! ## Frames -/

section Frame

variable (R : σ → σ → Prop)

/-- Started in `s`, whatever the computation does before it returns or throws
stays inside `R`. -/
def KeepsAt (s : σ) (x : Transaction ε σ α) : Prop :=
  R s (x.outcome s).2

variable {R}

theorem KeepsAt.of_commits (hkeeps : KeepsAt R s x) (hcommits : x.Commits s a t) :
    R s t := by
  unfold KeepsAt at hkeeps
  rw [hcommits] at hkeeps
  exact hkeeps

theorem KeepsAt.of_throws (hkeeps : KeepsAt R s x) (hthrows : x.Throws s e t) :
    R s t := by
  unfold KeepsAt at hkeeps
  rw [hthrows] at hkeeps
  exact hkeeps

/-- A computation commits or throws, and stays in `R` when both do. -/
theorem keepsAt_of_cases (hcommits : ∀ a t, x.Commits s a t → R s t)
    (hthrows : ∀ e t, x.Throws s e t → R s t) :
    KeepsAt R s x := by
  unfold KeepsAt
  rcases houtcome : x.outcome s with ⟨r, t⟩
  cases r with
  | error e => exact hthrows e t houtcome
  | ok a => exact hcommits a t houtcome

theorem keepsAt_pure [Std.Refl R] (a : α) :
    KeepsAt R s (pure a : Transaction ε σ α) :=
  Std.Refl.refl s

theorem keepsAt_throw [Std.Refl R] (e : ε) :
    KeepsAt R s (throw e : Transaction ε σ α) :=
  Std.Refl.refl s

theorem keepsAt_modify {f : σ → σ} (hf : R s (f s)) :
    KeepsAt R s (modify f : Transaction ε σ PUnit) :=
  hf

theorem keepsAt_reads [Std.Refl R] (f : σ → α) :
    KeepsAt R s (reads f : Transaction ε σ α) :=
  Std.Refl.refl s

theorem keepsAt_require [Std.Refl R] (c : Prop) [Decidable c] (e : ε) :
    KeepsAt R s (require c e : Transaction ε σ Unit) := by
  unfold require
  by_cases hc : c
  · rw [if_pos hc]
    exact keepsAt_pure ()
  · rw [if_neg hc]
    exact keepsAt_throw e

theorem keepsAt_fetch [Std.Refl R] (f : σ → Option α) (e : ε) :
    KeepsAt R s (fetch f e : Transaction ε σ α) := by
  change R s ((match f s with
    | some a => (pure a : Transaction ε σ α)
    | none => throw e).outcome s).2
  cases f s with
  | none => exact Std.Refl.refl s
  | some a => exact Std.Refl.refl s

theorem KeepsAt.bind [IsTrans σ R]
    (hx : KeepsAt R s x) (hf : ∀ a t, x.Commits s a t → KeepsAt R t (f a)) :
    KeepsAt R s (x >>= f) := by
  apply keepsAt_of_cases
  · intro b u hcommits
    obtain ⟨a, t, hfirst, hrest⟩ := commits_bind.1 hcommits
    exact IsTrans.trans _ _ _ (hx.of_commits hfirst) ((hf a t hfirst).of_commits hrest)
  · intro e u hthrows
    rcases throws_bind.1 hthrows with hfirst | ⟨a, t, hfirst, hrest⟩
    · exact hx.of_throws hfirst
    · exact IsTrans.trans _ _ _ (hx.of_commits hfirst) ((hf a t hfirst).of_throws hrest)

section Checks

variable [Std.Refl R] [IsTrans σ R]

theorem KeepsAt.require_bind {c : Prop} [Decidable c] {g : Unit → Transaction ε σ β}
    (hg : c → KeepsAt R s (g ())) : KeepsAt R s (require c e >>= g) := by
  apply KeepsAt.bind (keepsAt_require c e)
  intro _ _ hcheck
  obtain ⟨hc, rfl⟩ := commits_require.1 hcheck
  exact hg hc

theorem KeepsAt.fetch_bind {read : σ → Option α}
    (hf : ∀ a, read s = some a → KeepsAt R s (f a)) : KeepsAt R s (fetch read e >>= f) := by
  apply KeepsAt.bind (keepsAt_fetch read e)
  intro a _ hread
  obtain ⟨hfound, rfl⟩ := commits_fetch.1 hread
  exact hf a hfound

theorem KeepsAt.reads_bind {read : σ → α} (hf : KeepsAt R s (f (read s))) :
    KeepsAt R s (reads read >>= f) := by
  apply KeepsAt.bind (keepsAt_reads read)
  intro _ _ hread
  obtain ⟨rfl, rfl⟩ := commits_reads.1 hread
  exact hf

end Checks

theorem KeepsAt.forM [Std.Refl R] [IsTrans σ R] {f : β → Transaction ε σ PUnit}
    {items : List β} (hitem : ∀ b ∈ items, ∀ t, KeepsAt R t (f b)) :
    KeepsAt R s (items.forM f) := by
  induction items generalizing s with
  | nil => exact keepsAt_pure PUnit.unit
  | cons b rest ih =>
      apply KeepsAt.bind (hitem b (List.mem_cons_self ..) s)
      intro _ t _
      exact ih fun other hother => hitem other (List.mem_cons_of_mem b hother)

theorem KeepsAt.whenever [Std.Refl R] {c : Prop} [Decidable c]
    {x : Transaction ε σ Unit} (hx : KeepsAt R s x) :
    KeepsAt R s (whenever c x) := by
  unfold Transaction.whenever
  by_cases hc : c
  · rw [if_pos hc]
    exact hx
  · rw [if_neg hc]
    exact keepsAt_pure ()

theorem KeepsAt.map (f : α → β) (hx : KeepsAt R s x) :
    KeepsAt R s (f <$> x) := by
  apply keepsAt_of_cases
  · intro b t hcommits
    obtain ⟨a, hdone, _⟩ := commits_map.1 hcommits
    exact hx.of_commits hdone
  · intro e t hthrows
    rw [← bind_pure_comp, throws_bind] at hthrows
    rcases hthrows with hfirst | ⟨a, u, _, hpure⟩
    · exact hx.of_throws hfirst
    · exact absurd hpure throws_pure

theorem KeepsAt.tryCatch [IsTrans σ R] (hx : KeepsAt R s x)
    (hhandler : ∀ e t, x.Throws s e t → KeepsAt R t (handler e)) :
    KeepsAt R s (tryCatch x handler) := by
  have houtcome : (MonadExcept.tryCatch x handler).outcome s =
      match x.outcome s with
      | (.ok a, t) => (.ok a, t)
      | (.error e, t) => (handler e).outcome t := outcome_tryCatch
  unfold KeepsAt
  rw [houtcome]
  rcases hresult : x.outcome s with ⟨r, t⟩
  cases r with
  | error e =>
      exact IsTrans.trans _ _ _ (hx.of_throws hresult) (hhandler e t hresult)
  | ok a => exact hx.of_commits hresult

theorem keepsAt_atomically {rollback : σ → σ → σ}
    (hcommits : ∀ a t, x.Commits s a t → R s t) (hrollback : ∀ t, R s (rollback s t)) :
    KeepsAt R s (atomically rollback x) := by
  have houtcome :
      (atomically rollback x).outcome s =
        match x.outcome s with
        | (.ok a, t) => (.ok a, t)
        | (.error e, t) => (.error e, rollback s t) := rfl
  unfold KeepsAt
  rw [houtcome]
  rcases hresult : x.outcome s with ⟨r, t⟩
  cases r with
  | error e => exact hrollback t
  | ok a => exact hcommits a t hresult

theorem KeepsAt.onFirst {τ : Type} {Q : σ × τ → σ × τ → Prop}
    {s : σ × τ} (hx : KeepsAt R s.1 x) (hQ : ∀ t, R s.1 t → Q s (t, s.2)) :
    KeepsAt Q s (onFirst x) :=
  hQ _ hx

end Frame

end Transaction

end Library
