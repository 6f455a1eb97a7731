import SafariLaundry.GatewayText

/-!
# Amounts as texts with four decimals

The cash reports count in ten-thousandths of a dinar and print them by hand.  What was printed
reads back as the same number.
-/

namespace SafariLaundry

open List

def fractionDigits (frac : ℕ) : List Char := (Nat.toDigits 10 frac).leftpad 4 '0'

/-- Four decimals, the sign in front. -/
def minorToFixed4 (value : ℤ) : String :=
  let sign := if value < 0 then ['-'] else []
  String.ofList
    (sign ++ Nat.toDigits 10 (value.natAbs / 10000) ++ '.' :: fractionDigits (value.natAbs % 10000))

def bigIntOfDigits (text : List Char) : Option ℕ :=
  if text.all Char.isDigit then some (Nat.ofDigitChars 10 text 0) else none

/-- A missing part counts as zero, and digits after the fourth are cut. -/
def fixed4ToMinor (raw : String) : Option ℤ := do
  let trimmed := trimText raw.toList
  let negative := trimmed.head? = some '-'
  let clean := if negative then trimmed.tail else trimmed
  let whole := clean.takeWhile fun c => c ≠ '.'
  let frac := ((clean.dropWhile fun c => c ≠ '.').drop 1).takeWhile fun c => c ≠ '.'
  let frac4 := (frac ++ List.replicate 4 '0').take 4
  let wholeMinor ← bigIntOfDigits (if whole = [] then ['0'] else whole)
  let fracMinor ← bigIntOfDigits frac4
  return (if negative then -1 else 1) * (wholeMinor * 10000 + fracMinor)

/-! ## Reading back -/

theorem isDigit_of_mem_fractionDigits {frac : ℕ} {c : Char} (hc : c ∈ fractionDigits frac) :
    c.isDigit = true := by
  unfold fractionDigits List.leftpad at hc
  rcases mem_append.1 hc with hpad | hdigit
  · rw [eq_of_mem_replicate hpad]
    decide
  · exact Nat.isDigit_of_mem_toDigits (by decide) (by decide) hdigit

theorem length_fractionDigits {frac : ℕ} (hfrac : frac < 10000) :
    (fractionDigits frac).length = 4 := by
  have hle : (Nat.toDigits 10 frac).length ≤ 4 :=
    (Nat.length_toDigits_le_iff (by decide) (by decide)).2 hfrac
  unfold fractionDigits
  rw [length_leftpad]
  omega

theorem ofDigitChars_fractionDigits (frac : ℕ) :
    Nat.ofDigitChars 10 (fractionDigits frac) 0 = frac := by
  unfold fractionDigits List.leftpad
  rw [Nat.ofDigitChars_append, Nat.ofDigitChars_replicate_zero, mul_zero,
    Nat.ofDigitChars_ten_toDigits]

theorem bigIntOfDigits_of_digits {text : List Char} (hdigits : ∀ c ∈ text, c.isDigit = true) :
    bigIntOfDigits text = some (Nat.ofDigitChars 10 text 0) := by
  unfold bigIntOfDigits
  rw [if_pos (all_eq_true.2 hdigits)]

theorem trimText_eq_self {text : List Char} (hspace : ∀ c ∈ text, isSpace c = false) :
    trimText text = text := by
  have hfront : text.dropWhile isSpace = text := by
    cases text with
    | nil => rfl
    | cons c rest => simp [hspace c (mem_cons_self ..)]
  unfold trimText
  rw [hfront, rdropWhile_eq_self_iff]
  intro hne
  rw [hspace _ (getLast_mem hne)]
  decide

section Signed

variable {negative : Prop} [Decidable negative] {whole rest : List Char}
  (hwhole : ∀ c ∈ whole, c.isDigit = true)

include hwhole

theorem head?_signed (hne : whole ≠ []) :
    ((if negative then ['-'] else []) ++ whole ++ rest).head? = some '-' ↔ negative := by
  by_cases hneg : negative
  · simp [hneg]
  · cases whole with
    | nil => exact absurd rfl hne
    | cons first digits =>
        have hfirst : first ≠ '-' := by
          rintro rfl
          exact absurd (hwhole _ (mem_cons_self ..)) (by decide)
        simp [hneg, hfirst]

theorem ne_point_of_digits : ∀ c ∈ whole, decide (c ≠ '.') = true := by
  intro c hc
  apply decide_eq_true
  rintro rfl
  exact absurd (hwhole _ hc) (by decide)

theorem takeWhile_point : (whole ++ '.' :: rest).takeWhile (fun c => decide (c ≠ '.')) = whole := by
  rw [takeWhile_append_of_pos (ne_point_of_digits hwhole)]
  simp

theorem dropWhile_point :
    (whole ++ '.' :: rest).dropWhile (fun c => decide (c ≠ '.')) = '.' :: rest := by
  rw [dropWhile_append_of_pos (ne_point_of_digits hwhole)]
  simp

theorem isSpace_signed (hrest : ∀ c ∈ rest, isSpace c = false) :
    ∀ c ∈ (if negative then ['-'] else []) ++ whole ++ rest, isSpace c = false := by
  intro c hc
  simp only [mem_append] at hc
  rcases hc with (hsign | hdigit) | hlater
  · by_cases hneg : negative
    · rw [if_pos hneg, mem_singleton] at hsign
      rw [hsign]
      decide
    · rw [if_neg hneg] at hsign
      cases hsign
  · exact isSpace_of_isDigit (hwhole c hdigit)
  · exact hrest c hlater

end Signed

theorem unsigned_signed {negative : Prop} [Decidable negative] (text : List Char) :
    (if negative then ((if negative then ['-'] else []) ++ text).tail
      else (if negative then ['-'] else []) ++ text) = text := by
  by_cases hneg : negative
  · simp [hneg]
  · simp [hneg]

theorem isSpace_pointed {frac : List Char} (hfrac : ∀ c ∈ frac, c.isDigit = true) :
    ∀ c ∈ '.' :: frac, isSpace c = false := by
  intro c hc
  rcases mem_cons.1 hc with rfl | hdigit
  · decide
  · exact isSpace_of_isDigit (hfrac c hdigit)

theorem fixed4ToMinor_of_digits {negative : Prop} [Decidable negative] {whole frac : List Char}
    (hwhole : ∀ c ∈ whole, c.isDigit = true) (hne : whole ≠ [])
    (hfrac : ∀ c ∈ frac, c.isDigit = true) (hlength : frac.length = 4) :
    fixed4ToMinor (String.ofList ((if negative then ['-'] else []) ++ whole ++ '.' :: frac)) =
      some ((if negative then -1 else 1) *
        ((Nat.ofDigitChars 10 whole 0 : ℤ) * 10000 + Nat.ofDigitChars 10 frac 0)) := by
  have hclean : (if negative then ((if negative then ['-'] else []) ++ whole ++ '.' :: frac).tail
      else (if negative then ['-'] else []) ++ whole ++ '.' :: frac) = whole ++ '.' :: frac := by
    rw [append_assoc]
    exact unsigned_signed _
  have hfour : (frac.takeWhile (fun c => decide (c ≠ '.')) ++ List.replicate 4 '0').take 4 = frac := by
    rw [takeWhile_eq_self_iff.2 (ne_point_of_digits hfrac),
      take_append_of_le_length hlength.ge, take_of_length_le hlength.le]
  unfold fixed4ToMinor
  rw [String.toList_ofList, trimText_eq_self (isSpace_signed hwhole (isSpace_pointed hfrac))]
  simp only [head?_signed hwhole hne, hclean, takeWhile_point hwhole, dropWhile_point hwhole,
    if_neg hne, drop_succ_cons, drop_zero, hfour,
    bigIntOfDigits_of_digits hwhole, bigIntOfDigits_of_digits hfrac]
  rfl

/-- What was printed reads back as the same amount. -/
theorem fixed4ToMinor_minorToFixed4 (value : ℤ) :
    fixed4ToMinor (minorToFixed4 value) = some value := by
  have hwhole : ∀ c ∈ Nat.toDigits 10 (value.natAbs / 10000), c.isDigit = true := fun c hc =>
    Nat.isDigit_of_mem_toDigits (by decide) (by decide) hc
  have hfrac : ∀ c ∈ fractionDigits (value.natAbs % 10000), c.isDigit = true := fun c hc =>
    isDigit_of_mem_fractionDigits hc
  have hlength := length_fractionDigits (Nat.mod_lt value.natAbs (by decide : 0 < 10000))
  unfold minorToFixed4
  rw [fixed4ToMinor_of_digits hwhole Nat.toDigits_ne_nil hfrac hlength,
    Nat.ofDigitChars_ten_toDigits, ofDigitChars_fractionDigits]
  congr 1
  by_cases hneg : value < 0
  · rw [if_pos hneg]
    omega
  · rw [if_neg hneg]
    omega

def amountOf (text : String) : ℤ := (fixed4ToMinor text).getD 0

@[simp] theorem amountOf_minorToFixed4 (minor : ℤ) : amountOf (minorToFixed4 minor) = minor := by
  simp [amountOf, fixed4ToMinor_minorToFixed4]

end SafariLaundry
