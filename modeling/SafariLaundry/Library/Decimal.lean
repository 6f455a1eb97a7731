import Mathlib

/-!
# Decimal columns

A column of type `numeric(p, s)` keeps a decimal number as an integer number of
its smallest units and rounds what it is given, halves away from zero.
-/

namespace Library

namespace Decimal

/-- The nearest integer, halves away from zero. -/
def roundHalfAway (x : ℚ) : ℤ :=
  if 0 ≤ x then ⌊x + 1 / 2⌋ else -⌊-x + 1 / 2⌋

@[simp] theorem roundHalfAway_zero : roundHalfAway 0 = 0 := by
  decide +kernel

theorem roundHalfAway_nonneg {x : ℚ} (hx : 0 ≤ x) : 0 ≤ roundHalfAway x := by
  unfold roundHalfAway
  rw [if_pos hx]
  apply Int.floor_nonneg.2
  linarith

/-- The nearest integer, halves to the even one. -/
def roundHalfEven (x : ℚ) : ℤ :=
  if x - ⌊x⌋ < 1 / 2 then ⌊x⌋
  else if 1 / 2 < x - ⌊x⌋ then ⌊x⌋ + 1
  else if ⌊x⌋ % 2 = 0 then ⌊x⌋
  else ⌊x⌋ + 1

theorem abs_roundHalfAway_sub_le (x : ℚ) : |(roundHalfAway x : ℚ) - x| ≤ 1 / 2 := by
  unfold roundHalfAway
  by_cases hx : 0 ≤ x
  · rw [if_pos hx, abs_le]
    have hlow := Int.floor_le (x + 1 / 2)
    have hhigh := Int.lt_floor_add_one (x + 1 / 2)
    constructor
    · linarith
    · linarith
  · rw [if_neg hx, abs_le]
    have hlow := Int.floor_le (-x + 1 / 2)
    have hhigh := Int.lt_floor_add_one (-x + 1 / 2)
    push_cast
    constructor
    · linarith
    · linarith

@[simp] theorem roundHalfAway_intCast (n : ℤ) : roundHalfAway (n : ℚ) = n := by
  have herror := abs_roundHalfAway_sub_le (n : ℚ)
  have hclose : |roundHalfAway (n : ℚ) - n| < 1 := by
    have hcast : ((|roundHalfAway (n : ℚ) - n| : ℤ) : ℚ) ≤ 1 / 2 := by
      push_cast
      exact herror
    have hlt : ((|roundHalfAway (n : ℚ) - n| : ℤ) : ℚ) < ((1 : ℤ) : ℚ) := by
      refine lt_of_le_of_lt hcast ?_
      norm_num
    exact Int.cast_lt.1 hlt
  have hzero := Int.abs_lt_one_iff.1 hclose
  omega

theorem roundHalfAway_eq_iff (x : ℚ) (k : ℤ) :
    roundHalfAway x = k ↔
      |x - k| < 1 / 2 ∨ (x - k = 1 / 2 ∧ k < 0) ∨ (x - k = -(1 / 2) ∧ 0 < k) := by
  unfold roundHalfAway
  by_cases hx : 0 ≤ x
  · rw [if_pos hx, Int.floor_eq_iff, abs_lt]
    constructor
    · rintro ⟨hlow, hhigh⟩
      rcases eq_or_lt_of_le hlow with heq | hlt
      · right; right
        refine ⟨by linarith, ?_⟩
        have hpos : (0 : ℚ) < k := by linarith
        exact_mod_cast hpos
      · left
        constructor <;> linarith
    · rintro (⟨hlow, hhigh⟩ | ⟨heq, hneg⟩ | ⟨heq, _⟩)
      · constructor <;> linarith
      · have hle : (k : ℚ) ≤ -1 := by exact_mod_cast Int.le_sub_one_of_lt hneg
        linarith
      · constructor <;> linarith
  · rw [if_neg hx, neg_eq_iff_eq_neg, Int.floor_eq_iff, abs_lt]
    rw [not_le] at hx
    push_cast
    constructor
    · rintro ⟨hlow, hhigh⟩
      rcases eq_or_lt_of_le hlow with heq | hlt
      · right; left
        refine ⟨by linarith, ?_⟩
        have hneg : (k : ℚ) < 0 := by linarith
        exact_mod_cast hneg
      · left
        constructor <;> linarith
    · rintro (⟨hlow, hhigh⟩ | ⟨heq, _⟩ | ⟨heq, hpos⟩)
      · constructor <;> linarith
      · constructor <;> linarith
      · have hge : (1 : ℚ) ≤ k := by exact_mod_cast hpos
        linarith

theorem mul_roundHalfAway_div_eq_iff {n : ℤ} (hn : 0 < n) (given total : ℤ) :
    n * roundHalfAway ((given : ℚ) / n) = total ↔
      n ∣ total ∧ (2 * |given - total| < n ∨ (2 * (given - total) = n ∧ total < 0) ∨
        (2 * (total - given) = n ∧ 0 < total)) := by
  have hnq : (0 : ℚ) < n := by exact_mod_cast hn
  have hshare : ∀ k : ℤ, roundHalfAway ((given : ℚ) / n) = k ↔
      2 * |given - n * k| < n ∨ (2 * (given - n * k) = n ∧ n * k < 0) ∨
        (2 * (n * k - given) = n ∧ 0 < n * k) := by
    intro k
    have hdiff : (given : ℚ) / n - k = ((given - n * k : ℤ) : ℚ) / n := by
      push_cast
      field_simp
    have hnear : |((given - n * k : ℤ) : ℚ) / n| < 1 / 2 ↔ 2 * |given - n * k| < n := by
      rw [abs_div, abs_of_pos hnq, div_lt_div_iff₀ hnq two_pos, one_mul, mul_comm]
      norm_cast
    have habove : ((given - n * k : ℤ) : ℚ) / n = 1 / 2 ↔ 2 * (given - n * k) = n := by
      rw [div_eq_div_iff hnq.ne' two_ne_zero, one_mul, mul_comm]
      norm_cast
    have hbelow : ((given - n * k : ℤ) : ℚ) / n = -(1 / 2) ↔ 2 * (n * k - given) = n := by
      rw [← neg_eq_iff_eq_neg, ← neg_div, div_eq_div_iff hnq.ne' two_ne_zero, one_mul, mul_comm,
        ← Int.cast_neg, neg_sub]
      norm_cast
    have hneg : n * k < 0 ↔ k < 0 := smul_neg_iff_of_pos_left hn
    rw [roundHalfAway_eq_iff, hdiff, hnear, habove, hbelow, hneg, mul_pos_iff_of_pos_left hn]
  constructor
  · intro heq
    refine ⟨⟨_, heq.symm⟩, ?_⟩
    rw [← heq]
    exact (hshare _).1 rfl
  · rintro ⟨⟨k, rfl⟩, hwithin⟩
    rw [(hshare k).2 hwithin]

end Decimal

end Library
