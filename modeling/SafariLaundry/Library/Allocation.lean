import Mathlib

/-!
# First-in-first-out allocation

A budget is spread over a queue of items, each owing an amount: every item takes
what it owes or what is left of the budget, items owing no more than a tolerance
are passed over, and the walk stops when the budget is used up.
-/

namespace Library

namespace Allocation

open List

/-- What one item of the queue receives, and whether that clears it. -/
structure Slice (ι : Type) where
  item : ι
  amount : ℤ
  clears : Bool

variable {ι : Type}

/-- An item owing this much takes part in the allocation. -/
def Eligible (tolerance owed : ℤ) : Prop :=
  0 < owed ∧ tolerance < owed
  deriving Decidable

/-- Walk the queue oldest first. -/
def allocate (tolerance : ℤ) : List (ι × ℤ) → ℤ → List (Slice ι)
  | [], _ => []
  | (item, owed) :: rest, budget =>
      if budget ≤ 0 then []
      else if Eligible tolerance owed then
        { item := item
          amount := min owed budget
          clears := decide (owed ≤ min owed budget) } ::
          allocate tolerance rest (budget - min owed budget)
      else allocate tolerance rest budget

def eligibleTotal (tolerance : ℤ) (queue : List (ι × ℤ)) : ℤ :=
  (queue.map fun entry => if Eligible tolerance entry.2 then entry.2 else 0).sum

/-- What the slices add up to. -/
def allocated (slices : List (Slice ι)) : ℤ :=
  (slices.map Slice.amount).sum

@[simp] theorem allocated_nil : allocated ([] : List (Slice ι)) = 0 := rfl

@[simp] theorem allocated_cons (slice : Slice ι) (slices : List (Slice ι)) :
    allocated (slice :: slices) = slice.amount + allocated slices := rfl

@[simp] theorem eligibleTotal_nil (tolerance : ℤ) :
    eligibleTotal tolerance ([] : List (ι × ℤ)) = 0 := rfl

@[simp] theorem eligibleTotal_cons (tolerance : ℤ) (entry : ι × ℤ) (queue : List (ι × ℤ)) :
    eligibleTotal tolerance (entry :: queue) = (if Eligible tolerance entry.2 then entry.2 else 0) +
        eligibleTotal tolerance queue := rfl

theorem eligibleTotal_nonneg (tolerance : ℤ) (queue : List (ι × ℤ)) :
    0 ≤ eligibleTotal tolerance queue := by
  induction queue with
  | nil => simp
  | cons entry rest ih =>
      rw [eligibleTotal_cons]
      by_cases helig : Eligible tolerance entry.2
      · have hpos : 0 < entry.2 := helig.1
        rw [if_pos helig]
        omega
      · rw [if_neg helig]
        omega

variable {tolerance budget : ℤ}

theorem allocated_allocate (hbudget : 0 ≤ budget) (queue : List (ι × ℤ)) :
    allocated (allocate tolerance queue budget) =
      min budget (eligibleTotal tolerance queue) := by
  induction queue generalizing budget with
  | nil => simp [allocate, hbudget]
  | cons entry rest ih =>
      rcases entry with ⟨item, owed⟩
      have hrest := eligibleTotal_nonneg tolerance rest
      unfold allocate
      by_cases hnone : budget ≤ 0
      · have hzero : budget = 0 := by omega
        have htotal := eligibleTotal_nonneg tolerance ((item, owed) :: rest)
        rw [if_pos hnone, hzero, min_eq_left htotal]
        rfl
      · rw [if_neg hnone]
        by_cases helig : Eligible tolerance owed
        · have howed : 0 < owed := helig.1
          rw [if_pos helig, allocated_cons, ih (by omega), eligibleTotal_cons, if_pos helig]
          simp only
          omega
        · rw [if_neg helig, ih hbudget, eligibleTotal_cons, if_neg helig, zero_add]

theorem allocate_pos {queue : List (ι × ℤ)} {slice : Slice ι}
    (hmem : slice ∈ allocate tolerance queue budget) :
    0 < slice.amount := by
  induction queue generalizing budget with
  | nil => simp [allocate] at hmem
  | cons entry rest ih =>
      rcases entry with ⟨item, owed⟩
      unfold allocate at hmem
      by_cases hnone : budget ≤ 0
      · simp [hnone] at hmem
      · rw [if_neg hnone] at hmem
        by_cases helig : Eligible tolerance owed
        · have howed : 0 < owed := helig.1
          rw [if_pos helig] at hmem
          rcases mem_cons.1 hmem with rfl | hlater
          · simp only
            omega
          · exact ih hlater
        · rw [if_neg helig] at hmem
          exact ih hmem

theorem allocate_items_sublist (tolerance budget : ℤ) (queue : List (ι × ℤ)) :
    ((allocate tolerance queue budget).map Slice.item).Sublist (queue.map Prod.fst) := by
  induction queue generalizing budget with
  | nil => simp [allocate]
  | cons entry rest ih =>
      rcases entry with ⟨item, owed⟩
      unfold allocate
      by_cases hnone : budget ≤ 0
      · simp [hnone]
      · rw [if_neg hnone]
        by_cases helig : Eligible tolerance owed
        · rw [if_pos helig]
          exact (ih _).cons_cons item
        · rw [if_neg helig]
          exact (ih _).cons item

theorem allocate_of_nonpos (hnone : budget ≤ 0) (queue : List (ι × ℤ)) :
    allocate tolerance queue budget = [] := by
  cases queue with
  | nil => rfl
  | cons entry rest =>
      unfold allocate
      exact if_pos hnone

theorem allocate_cons_of_eligible {owed : ℤ} (item : ι) (rest : List (ι × ℤ)) (hsome : ¬ budget ≤ 0)
    (helig : Eligible tolerance owed) :
    allocate tolerance ((item, owed) :: rest) budget =
      ⟨item, min owed budget, decide (owed ≤ min owed budget)⟩ ::
        allocate tolerance rest (budget - min owed budget) := by
  rw [allocate, if_neg hsome, if_pos helig]

theorem allocate_cons_of_not_eligible {owed : ℤ} (item : ι) (rest : List (ι × ℤ))
    (hsome : ¬ budget ≤ 0) (helig : ¬ Eligible tolerance owed) :
    allocate tolerance ((item, owed) :: rest) budget = allocate tolerance rest budget := by
  rw [allocate, if_neg hsome, if_neg helig]

theorem allocate_append (tolerance budget : ℤ) (older younger : List (ι × ℤ)) :
    allocate tolerance (older ++ younger) budget = allocate tolerance older budget ++
        allocate tolerance younger (budget - allocated (allocate tolerance older budget)) := by
  induction older generalizing budget with
  | nil => simp [allocate]
  | cons entry rest ih =>
      rcases entry with ⟨item, owed⟩
      by_cases hnone : budget ≤ 0
      · rw [allocate_of_nonpos hnone, allocate_of_nonpos hnone, allocated_nil, sub_zero,
          allocate_of_nonpos hnone, append_nil]
      · rw [cons_append]
        by_cases helig : Eligible tolerance owed
        · rw [allocate_cons_of_eligible _ _ hnone helig,
            allocate_cons_of_eligible _ _ hnone helig, ih, cons_append, allocated_cons,
            sub_sub]
        · rw [allocate_cons_of_not_eligible _ _ hnone helig,
            allocate_cons_of_not_eligible _ _ hnone helig, ih]

theorem slice_of_allocate {queue : List (ι × ℤ)} {slice : Slice ι}
    (hmem : slice ∈ allocate tolerance queue budget) :
    ∃ owed, (slice.item, owed) ∈ queue ∧ Eligible tolerance owed ∧ slice.amount ≤ owed ∧
      (slice.clears = true ↔ slice.amount = owed) := by
  induction queue generalizing budget with
  | nil => cases hmem
  | cons entry rest ih =>
      rcases entry with ⟨item, owed⟩
      have hlater : ∀ left, slice ∈ allocate tolerance rest left →
          ∃ owed', (slice.item, owed') ∈ (item, owed) :: rest ∧ Eligible tolerance owed' ∧
            slice.amount ≤ owed' ∧ (slice.clears = true ↔ slice.amount = owed') := by
        intro left hrest
        obtain ⟨owed', hqueued, hslice⟩ := ih hrest
        exact ⟨owed', mem_cons_of_mem _ hqueued, hslice⟩
      by_cases hnone : budget ≤ 0
      · rw [allocate_of_nonpos hnone] at hmem
        cases hmem
      · by_cases helig : Eligible tolerance owed
        · rw [allocate_cons_of_eligible _ _ hnone helig] at hmem
          rcases mem_cons.1 hmem with rfl | hrest
          · refine ⟨owed, mem_cons_self .., helig, min_le_left _ _, ?_⟩
            rw [decide_eq_true_eq]
            exact ⟨fun hcovers => le_antisymm (min_le_left _ _) hcovers, fun hsame => hsame.ge⟩
          · exact hlater _ hrest
        · rw [allocate_cons_of_not_eligible _ _ hnone helig] at hmem
          exact hlater _ hmem

theorem clears_of_left {queue : List (ι × ℤ)}
    (hleft : allocated (allocate tolerance queue budget) < budget) :
    ∀ entry ∈ queue, Eligible tolerance entry.2 →
      ⟨entry.1, entry.2, true⟩ ∈ allocate tolerance queue budget := by
  induction queue generalizing budget with
  | nil => exact fun _ hentry => absurd hentry not_mem_nil
  | cons first rest ih =>
      rcases first with ⟨item, owed⟩
      by_cases hnone : budget ≤ 0
      · rw [allocate_of_nonpos hnone, allocated_nil] at hleft
        omega
      · by_cases helig : Eligible tolerance owed
        · rw [allocate_cons_of_eligible _ _ hnone helig] at hleft ⊢
          rw [allocated_cons] at hleft
          have hrest : 0 ≤ allocated (allocate tolerance rest (budget - min owed budget)) := by
            rw [allocated_allocate (by omega)]
            exact le_min (by omega) (eligibleTotal_nonneg tolerance rest)
          have hcovers : min owed budget = owed := by
            simp only at hleft
            omega
          rw [hcovers] at hleft ⊢
          intro entry hentry heligible
          rcases mem_cons.1 hentry with rfl | hlater
          · rw [decide_eq_true le_rfl]
            exact mem_cons_self ..
          · have hless : allocated (allocate tolerance rest (budget - owed)) < budget - owed := by
              simp only at hleft
              omega
            exact mem_cons_of_mem _ (ih hless entry hlater heligible)
        · rw [allocate_cons_of_not_eligible _ _ hnone helig] at hleft ⊢
          intro entry hentry heligible
          rcases mem_cons.1 hentry with rfl | hlater
          · exact absurd heligible helig
          · exact ih hleft entry hlater heligible

theorem clears_older {older younger : List (ι × ℤ)} {entry : ι × ℤ}
    (hdistinct : ((older ++ entry :: younger).map Prod.fst).Nodup)
    (hserved : entry.1 ∈ (allocate tolerance (older ++ entry :: younger) budget).map Slice.item) :
    ∀ first ∈ older, Eligible tolerance first.2 →
      ⟨first.1, first.2, true⟩ ∈ allocate tolerance (older ++ entry :: younger) budget := by
  rw [allocate_append, map_append, mem_append] at hserved
  rw [map_append, map_cons, nodup_append] at hdistinct
  have hlater : allocate tolerance (entry :: younger)
      (budget - allocated (allocate tolerance older budget)) ≠ [] := by
    intro hempty
    rw [hempty] at hserved
    rcases hserved with holder | hnone
    · have hqueued := (allocate_items_sublist tolerance budget older).subset holder
      exact hdistinct.2.2 _ hqueued _ (mem_cons_self ..) rfl
    · cases hnone
  have hleft : allocated (allocate tolerance older budget) < budget := by
    by_contra hspent
    exact hlater (allocate_of_nonpos (by omega) _)
  intro first hfirst heligible
  rw [allocate_append]
  exact mem_append_left _ (clears_of_left hleft first hfirst heligible)

end Allocation

end Library
