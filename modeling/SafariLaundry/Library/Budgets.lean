import SafariLaundry.Library.Bookkeeping

/-!
# Budgets of several owners

One queue holds the items of many owners, and every owner has a budget.  The walk gives each
item what it owes or what is left of its owner's budget, and leaves it out once no more than
`least` is left.  To each owner the walk is a walk over the owner's own items.
-/

namespace Library

namespace Budgets

open Bookkeeping List

variable {ι κ : Type}

section Walk

variable (least : ℤ) (owed : ι → ℤ)

/-- The walk over the items of one owner. -/
def draw : List ι → ℤ → List (ι × ℤ)
  | [], _ => []
  | item :: rest, budget =>
      if budget ≤ least then []
      else (item, min (owed item) budget) :: draw rest (budget - min (owed item) budget)

/-- The walk over the items of all owners. -/
def share [DecidableEq κ] (owner : ι → κ) : List ι → (κ → ℤ) → List (ι × ℤ)
  | [], _ => []
  | item :: rest, budgets =>
      let budget := budgets (owner item)
      if budget ≤ least then share owner rest budgets
      else
        (item, min (owed item) budget) :: share owner rest
            (Function.update budgets (owner item) (budget - min (owed item) budget))

end Walk

variable {least budget : ℤ} {owed : ι → ℤ} {queue : List ι}

theorem draw_of_le (hspent : budget ≤ least) (queue : List ι) : draw least owed queue budget = [] := by
  cases queue with
  | nil => rfl
  | cons item rest => exact if_pos hspent

theorem draw_cons (hleft : ¬ budget ≤ least) (item : ι) (rest : List ι) :
    draw least owed (item :: rest) budget = (item, min (owed item) budget) ::
        draw least owed rest (budget - min (owed item) budget) :=
  if_neg hleft

theorem filter_share [DecidableEq κ] (owner : ι → κ) (queue : List ι) (budgets : κ → ℤ) (k : κ) :
    (share least owed owner queue budgets).filter (fun given => owner given.1 = k) =
      draw least owed (queue.filter fun item => owner item = k) (budgets k) := by
  induction queue generalizing budgets with
  | nil => rfl
  | cons item rest ih =>
      unfold share
      by_cases hspent : budgets (owner item) ≤ least
      · simp only [if_pos hspent]
        rw [ih]
        by_cases howner : owner item = k
        · rw [← howner, draw_of_le hspent, draw_of_le hspent]
        · rw [filter_cons_of_neg (by simpa using howner)]
      · simp only [if_neg hspent]
        by_cases howner : owner item = k
        · rw [filter_cons_of_pos (by simpa using howner),
            filter_cons_of_pos (by simpa using howner), ih, ← howner, Function.update_self,
            draw_cons hspent]
        · rw [filter_cons_of_neg (by simpa using howner),
            filter_cons_of_neg (by simpa using howner), ih,
            Function.update_of_ne (Ne.symm howner)]

theorem draw_items_first (queue : List ι) (budget : ℤ) :
    (draw least owed queue budget).map Prod.fst <+: queue := by
  induction queue generalizing budget with
  | nil => exact nil_prefix
  | cons item rest ih =>
      by_cases hspent : budget ≤ least
      · rw [draw_of_le hspent]
        exact nil_prefix
      · rw [draw_cons hspent]
        exact (prefix_cons_inj item).2 (ih _)

/-- An item gets more than `least`, and what it owes at most. -/
theorem within_of_mem_draw (howed : ∀ item ∈ queue, least < owed item) {given : ι × ℤ}
    (hgiven : given ∈ draw least owed queue budget) :
    given.1 ∈ queue ∧ least < given.2 ∧ given.2 ≤ owed given.1 := by
  induction queue generalizing budget with
  | nil => cases hgiven
  | cons item rest ih =>
      by_cases hspent : budget ≤ least
      · rw [draw_of_le hspent] at hgiven
        cases hgiven
      · rw [draw_cons hspent] at hgiven
        obtain ⟨hitem, hrest⟩ := forall_mem_cons.1 howed
        rcases mem_cons.1 hgiven with rfl | hlater
        · exact ⟨mem_cons_self .., lt_min hitem (not_le.1 hspent), min_le_left _ _⟩
        · obtain ⟨hmem, hbounds⟩ := ih hrest hlater
          exact ⟨mem_cons_of_mem _ hmem, hbounds⟩

theorem dvd_of_mem_draw {part : ℤ} (howed : ∀ item ∈ queue, part ∣ owed item)
    (hbudget : part ∣ budget) {given : ι × ℤ} (hgiven : given ∈ draw least owed queue budget) :
    part ∣ given.2 := by
  induction queue generalizing budget with
  | nil => cases hgiven
  | cons item rest ih =>
      by_cases hspent : budget ≤ least
      · rw [draw_of_le hspent] at hgiven
        cases hgiven
      · rw [draw_cons hspent] at hgiven
        obtain ⟨hitem, hrest⟩ := forall_mem_cons.1 howed
        have hamount : part ∣ min (owed item) budget := by
          rcases min_choice (owed item) budget with hall | hleft
          · rw [hall]
            exact hitem
          · rw [hleft]
            exact hbudget
        rcases mem_cons.1 hgiven with rfl | hlater
        · exact hamount
        · exact ih hrest (hbudget.sub hamount) hlater

/-- While more than `least` is left, every item got what it owes. -/
theorem draw_of_left (hleast : 0 ≤ least)
    (hleft : least < budget - tally Prod.snd (draw least owed queue budget)) :
    draw least owed queue budget = queue.map fun item => (item, owed item) := by
  induction queue generalizing budget with
  | nil => rfl
  | cons item rest ih =>
      by_cases hspent : budget ≤ least
      · rw [draw_of_le hspent, tally_nil] at hleft
        omega
      · rw [draw_cons hspent, tally_cons] at hleft
        have hless : owed item ≤ budget := by
          by_contra hmore
          rw [min_eq_right (by omega), sub_self, draw_of_le hleast, tally_nil] at hleft
          omega
        rw [draw_cons hspent, min_eq_left hless]
        rw [min_eq_left hless] at hleft
        rw [ih (by omega)]
        rfl

theorem draw_append (older younger : List ι) (budget : ℤ) :
    draw least owed (older ++ younger) budget = draw least owed older budget ++
        draw least owed younger (budget - tally Prod.snd (draw least owed older budget)) := by
  induction older generalizing budget with
  | nil =>
      change _ = draw least owed younger (budget - 0)
      rw [sub_zero]
      rfl
  | cons item rest ih =>
      rw [cons_append]
      by_cases hspent : budget ≤ least
      · rw [draw_of_le hspent, draw_of_le hspent, tally_nil, sub_zero, draw_of_le hspent]
        rfl
      · rw [draw_cons hspent, draw_cons hspent, ih, cons_append, tally_cons, sub_sub]

theorem older_drawn (hleast : 0 ≤ least) {older younger : List ι} {item : ι} {amount : ℤ}
    (hnew : item ∉ older)
    (hgiven : (item, amount) ∈ draw least owed (older ++ item :: younger) budget) :
    ∀ first ∈ older, (first, owed first) ∈ draw least owed (older ++ item :: younger) budget := by
  rw [draw_append] at hgiven ⊢
  have hlater : (item, amount) ∈ draw least owed (item :: younger)
      (budget - tally Prod.snd (draw least owed older budget)) := by
    rcases mem_append.1 hgiven with hold | hlater
    · exact absurd ((draw_items_first older budget).subset (mem_map_of_mem hold)) hnew
    · exact hlater
  have hleft : least < budget - tally Prod.snd (draw least owed older budget) := by
    by_contra hspent
    rw [draw_of_le (not_lt.1 hspent)] at hlater
    cases hlater
  intro first hfirst
  rw [draw_of_left hleast hleft]
  exact mem_append_left _ (mem_map_of_mem hfirst)

/-- All that is given is what the items owe together or what the budget allows, but for a
rest of no more than `least` that is kept back from the items left out. -/
theorem tally_draw (hleast : 0 ≤ least) (howed : ∀ item ∈ queue, least < owed item)
    (hbudget : 0 ≤ budget) :
    ∃ rest, 0 ≤ rest ∧ rest ≤ least ∧
      tally Prod.snd (draw least owed queue budget) + rest = min (tally owed queue) budget ∧
      (rest ≠ 0 → (draw least owed queue budget).length < queue.length) := by
  induction queue generalizing budget with
  | nil =>
      refine ⟨0, le_rfl, hleast, ?_, fun hrest => absurd rfl hrest⟩
      exact (min_eq_left hbudget).symm
  | cons item later ih =>
      obtain ⟨hitem, hlater⟩ := forall_mem_cons.1 howed
      have hothers : 0 ≤ tally owed later :=
        tally_nonneg_of_mem fun other hother => (hleast.trans_lt (hlater other hother)).le
      by_cases hspent : budget ≤ least
      · rw [draw_of_le hspent, tally_cons, min_eq_right (by omega)]
        exact ⟨budget, hbudget, hspent, zero_add _, fun _ => Nat.succ_pos _⟩
      · have hafter : 0 ≤ budget - min (owed item) budget := sub_nonneg.2 (min_le_right _ _)
        obtain ⟨rest, hnonneg, hle, htotal, hout⟩ := ih hlater hafter
        refine ⟨rest, hnonneg, hle, ?_, fun hrest => ?_⟩
        · rw [draw_cons hspent, tally_cons, tally_cons]
          omega
        · rw [draw_cons hspent]
          exact Nat.succ_lt_succ (hout hrest)

end Budgets

end Library
