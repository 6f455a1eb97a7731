import SafariLaundry.NumberText

/-!
# Money in minor units

Amounts are counted in ten-thousandths of a dinar; a text with up to four decimals is read into
such a count and a count is printed with all four.
-/

namespace SafariLaundry

namespace FinanceMoney

open List

def MULTIPLIER : ℕ := 10 ^ 4

def bigInt (text : List Char) : Option ℤ :=
  match trimText text with
  | [] => some 0
  | '0' :: 'x' :: digits | '0' :: 'X' :: digits => (radixLiteral 16 digits).map Rat.num
  | '0' :: 'o' :: digits | '0' :: 'O' :: digits => (radixLiteral 8 digits).map Rat.num
  | '0' :: 'b' :: digits | '0' :: 'B' :: digits => (radixLiteral 2 digits).map Rat.num
  | '-' :: digits => if digits = [] then none else (bigIntOfDigits digits).map fun n : ℕ => -(n : ℤ)
  | '+' :: digits => if digits = [] then none else (bigIntOfDigits digits).map fun n : ℕ => (n : ℤ)
  | digits => (bigIntOfDigits digits).map fun n : ℕ => (n : ℤ)

def parseFixed4ToMinor (s : String) : Option ℤ := do
  let t := trimText s.toList
  let neg := t.head? = some '-'
  let u := if neg then t.tail else t
  let wRaw := u.takeWhile fun c => c ≠ '.'
  let fRaw := ((u.dropWhile fun c => c ≠ '.').drop 1).takeWhile fun c => c ≠ '.'
  let w := if wRaw = [] then ['0'] else wRaw
  let frac := ((fRaw ++ List.replicate 4 '0').take 4).rightpad 4 '0'
  let whole ← bigInt w
  let rest ← bigInt frac
  let minor := whole * MULTIPLIER + rest
  return if neg then -minor else minor

/-- `totalPrice` of an order is any value that prints itself. -/
structure OrderRow where
  toFixed : ℕ → String

def toMinorFromFixed4 (totalPrice : OrderRow) : Option ℤ :=
  parseFixed4ToMinor (totalPrice.toFixed 4)

def sumOrderMinors (rows : List OrderRow) : Option ℤ :=
  rows.foldlM (fun a o => (toMinorFromFixed4 o).map (a + ·)) 0

/-- A sign, digits, and after a point up to four digits more, if there are any. -/
structure DecimalText where
  negative : Bool
  (whole frac : List Char)
  whole_digits : ∀ c ∈ whole, c.isDigit = true
  whole_ne_nil : whole ≠ []
  frac_digits : ∀ c ∈ frac, c.isDigit = true
  frac_length : frac.length ≤ 4

namespace DecimalText

def chars (text : DecimalText) : List Char :=
  (if text.negative then ['-'] else []) ++ text.whole ++
    if text.frac = [] then [] else '.' :: text.frac

def written (text : DecimalText) : String := String.ofList text.chars

def denotes (text : DecimalText) : ℚ :=
  (if text.negative then -1 else 1) * (Nat.ofDigitChars 10 text.whole 0 +
    Nat.ofDigitChars 10 text.frac 0 / 10 ^ text.frac.length)

end DecimalText

/-- Nothing is lost or gained on the way to minor units, back, or in a sum. -/
structure MinorUnitsExact : Prop where
  reads_back : ∀ m, parseFixed4ToMinor (minorToAmountString m) = some m
  keeps_number : ∀ s : DecimalText, ∃ m, parseFixed4ToMinor s.written = some m ∧
    ∃ printed : DecimalText, minorToAmountString m = printed.written ∧ printed.frac.length = 4 ∧
      printed.denotes = s.denotes
  nothing : sumOrderMinors [] = some 0
  single : ∀ row, sumOrderMinors [row] = toMinorFromFixed4 row
  append : ∀ first second, sumOrderMinors (first ++ second) =
    (sumOrderMinors first).bind fun a => (sumOrderMinors second).map (a + ·)
  perm : ∀ first second, first.Perm second → sumOrderMinors first = sumOrderMinors second

theorem toList_pushn_zeros (n : ℕ) : ("".pushn '0' n).toList = List.replicate n '0' := by
  rw [String.pushn_eq_repeat_push]
  induction n with
  | zero => rfl
  | succ n ih =>
      change (String.push _ '0').toList = _
      rw [String.toList_push, ih, ← replicate_succ']

theorem minorToAmountString_eq (m : ℤ) : minorToAmountString m = minorToFixed4 m := by
  apply String.toList_inj.1
  unfold minorToAmountString minorToFixed4 fractionDigits List.leftpad
  simp only [String.toList_append, toList_pushn_zeros, String.toList_ofList,
    Nat.toString_eq_ofList_toDigits, String.length_ofList]
  split_ifs <;> simp

def printed (m : ℤ) : DecimalText where
  negative := m < 0
  whole := Nat.toDigits 10 (m.natAbs / 10000)
  frac := fractionDigits (m.natAbs % 10000)
  whole_digits := fun _ hc => Nat.isDigit_of_mem_toDigits (by decide) (by decide) hc
  whole_ne_nil := Nat.toDigits_ne_nil
  frac_digits := fun _ hc => isDigit_of_mem_fractionDigits hc
  frac_length := (length_fractionDigits (Nat.mod_lt m.natAbs (by decide))).le

theorem length_printed_frac (m : ℤ) : (printed m).frac.length = 4 :=
  length_fractionDigits (Nat.mod_lt m.natAbs (by decide))

theorem written_printed (m : ℤ) : (printed m).written = minorToAmountString m := by
  have hfrac : (printed m).frac ≠ [] := by
    intro hnil
    have hlength := length_printed_frac m
    rw [hnil] at hlength
    cases hlength
  rw [minorToAmountString_eq]
  unfold DecimalText.written DecimalText.chars minorToFixed4
  rw [if_neg hfrac]
  simp [printed]

theorem denotes_printed (m : ℤ) : (printed m).denotes = m / 10000 := by
  have hsplit : ((m.natAbs / 10000 : ℕ) : ℚ) * 10000 + (m.natAbs % 10000 : ℕ) = m.natAbs := by
    exact_mod_cast Nat.div_add_mod' m.natAbs 10000
  have hsign : (if m < 0 then (-1 : ℚ) else 1) * m.natAbs = m := by
    rw [Nat.cast_natAbs]
    split_ifs with hneg
    · rw [abs_of_neg hneg]
      push_cast
      ring
    · rw [abs_of_nonneg (not_lt.1 hneg), one_mul]
  unfold DecimalText.denotes
  rw [length_printed_frac]
  simp only [printed, Nat.ofDigitChars_ten_toDigits, ofDigitChars_fractionDigits, decide_eq_true_eq]
  rw [← hsign, ← hsplit]
  ring

/-! ## Reading -/

theorem bigInt_of_digits {digits : List Char} (hdigits : ∀ c ∈ digits, c.isDigit = true)
    (hne : digits ≠ []) : bigInt digits = some (Nat.ofDigitChars 10 digits 0 : ℤ) := by
  have hletter : ∀ {c : Char} {rest : List Char}, digits = '0' :: c :: rest → c.isDigit = true := by
    rintro c rest rfl
    exact hdigits c (by simp)
  have hfirst : ∀ {c : Char} {rest : List Char}, digits = c :: rest → c.isDigit = true := by
    rintro c rest rfl
    exact hdigits c (by simp)
  unfold bigInt
  rw [trimText_eq_self fun c hc => isSpace_of_isDigit (hdigits c hc)]
  split
  next => exact absurd rfl hne
  next => exact absurd (hletter rfl) (by decide)
  next => exact absurd (hletter rfl) (by decide)
  next => exact absurd (hletter rfl) (by decide)
  next => exact absurd (hletter rfl) (by decide)
  next => exact absurd (hletter rfl) (by decide)
  next => exact absurd (hletter rfl) (by decide)
  next => exact absurd (hfirst rfl) (by decide)
  next => exact absurd (hfirst rfl) (by decide)
  next => rw [bigIntOfDigits_of_digits hdigits, Option.map_some]

theorem ofDigitChars_filled {frac : List Char} (hlength : frac.length ≤ 4) :
    Nat.ofDigitChars 10 (((frac ++ List.replicate 4 '0').take 4).rightpad 4 '0') 0 =
      10 ^ (4 - frac.length) * Nat.ofDigitChars 10 frac 0 := by
  have htake : (frac ++ List.replicate 4 '0').take 4 =
      frac ++ List.replicate (4 - frac.length) '0' := by
    rw [take_append, take_of_length_le hlength, take_replicate]
    congr 2
    omega
  have hfull : 4 - (frac ++ List.replicate (4 - frac.length) '0').length = 0 := by
    rw [length_append, length_replicate]
    omega
  rw [htake, List.rightpad, hfull, replicate_zero, append_nil, Nat.ofDigitChars_append,
    Nat.ofDigitChars_replicate_zero]

theorem parseFixed4ToMinor_written (s : DecimalText) :
    parseFixed4ToMinor s.written = some ((if s.negative then -1 else 1) *
      ((Nat.ofDigitChars 10 s.whole 0 : ℤ) * 10000 +
        10 ^ (4 - s.frac.length) * Nat.ofDigitChars 10 s.frac 0)) := by
  have hrest : ∀ c ∈ (if s.frac = [] then [] else '.' :: s.frac), isSpace c = false := by
    split_ifs
    · exact fun c hc => absurd hc not_mem_nil
    · exact isSpace_pointed s.frac_digits
  have hwhole : (s.whole ++ if s.frac = [] then [] else '.' :: s.frac).takeWhile
      (fun c => decide (c ≠ '.')) = s.whole := by
    split_ifs
    · rw [append_nil]
      exact takeWhile_eq_self_iff.2 (ne_point_of_digits s.whole_digits)
    · exact takeWhile_point s.whole_digits
  have hfrac : (((s.whole ++ if s.frac = [] then [] else '.' :: s.frac).dropWhile
      fun c => decide (c ≠ '.')).drop 1).takeWhile (fun c => decide (c ≠ '.')) = s.frac := by
    split_ifs with hnone
    · rw [append_nil, dropWhile_eq_nil_iff.2 (ne_point_of_digits s.whole_digits), hnone]
      rfl
    · rw [dropWhile_point s.whole_digits, drop_succ_cons, drop_zero]
      exact takeWhile_eq_self_iff.2 (ne_point_of_digits s.frac_digits)
  have hdigits : ∀ c ∈ ((s.frac ++ List.replicate 4 '0').take 4).rightpad 4 '0',
      c.isDigit = true := by
    intro c hc
    rcases mem_append.1 hc with htaken | hpad
    · rcases mem_append.1 (mem_of_mem_take htaken) with hdigit | hzero
      · exact s.frac_digits c hdigit
      · rw [eq_of_mem_replicate hzero]
        decide
    · rw [eq_of_mem_replicate hpad]
      decide
  have hfour : ((s.frac ++ List.replicate 4 '0').take 4).rightpad 4 '0' ≠ [] := by
    intro hnil
    have hlength := congrArg List.length hnil
    simp [List.rightpad] at hlength
  have hclean : (if s.negative = true then s.chars.tail else s.chars) =
      s.whole ++ if s.frac = [] then [] else '.' :: s.frac := by
    unfold DecimalText.chars
    rw [append_assoc]
    exact unsigned_signed _
  have hspace : ∀ c ∈ s.chars, isSpace c = false := isSpace_signed s.whole_digits hrest
  have hhead : s.chars.head? = some '-' ↔ s.negative = true :=
    head?_signed s.whole_digits s.whole_ne_nil
  unfold parseFixed4ToMinor DecimalText.written
  rw [String.toList_ofList, trimText_eq_self hspace]
  simp only [hhead, hclean, hwhole, hfrac, if_neg s.whole_ne_nil,
    bigInt_of_digits s.whole_digits s.whole_ne_nil, bigInt_of_digits hdigits hfour,
    ofDigitChars_filled s.frac_length]
  by_cases hneg : s.negative = true
  · simp [hneg, MULTIPLIER]
  · simp [hneg, MULTIPLIER]

theorem denotes_eq (s : DecimalText) {m : ℤ} (hread : parseFixed4ToMinor s.written = some m) :
    s.denotes = m / 10000 := by
  have hvalue : (if s.negative then -1 else 1) * ((Nat.ofDigitChars 10 s.whole 0 : ℤ) * 10000 +
      10 ^ (4 - s.frac.length) * Nat.ofDigitChars 10 s.frac 0) = m :=
    Option.some.inj ((parseFixed4ToMinor_written s).symm.trans hread)
  have hpow : (10 : ℚ) ^ (4 - s.frac.length) * 10 ^ s.frac.length = 10000 := by
    rw [← pow_add, Nat.sub_add_cancel s.frac_length]
    norm_num
  have hne : (10 : ℚ) ^ s.frac.length ≠ 0 := by positivity
  rw [← hvalue]
  unfold DecimalText.denotes
  push_cast
  split_ifs
  · field_simp
    rw [← hpow]
    ring
  · field_simp
    rw [← hpow]
    ring

theorem foldlM_minors (rows : List OrderRow) (start : ℤ) :
    rows.foldlM (fun a o => (toMinorFromFixed4 o).map (a + ·)) start =
      (sumOrderMinors rows).map (start + ·) := by
  induction rows generalizing start with
  | nil => simp [sumOrderMinors]
  | cons row rest ih =>
      unfold sumOrderMinors
      simp only [foldlM_cons]
      cases toMinorFromFixed4 row with
      | none => rfl
      | some amount =>
          simp only [Option.map_some, Option.bind_eq_bind, Option.bind_some, ih, Option.map_map]
          congr 1
          funext total
          simp [add_assoc]

theorem sumOrderMinors_cons (row : OrderRow) (rows : List OrderRow) :
    sumOrderMinors (row :: rows) =
      (toMinorFromFixed4 row).bind fun a => (sumOrderMinors rows).map (a + ·) := by
  change (row :: rows).foldlM (fun a o => (toMinorFromFixed4 o).map (a + ·)) 0 = _
  rw [foldlM_cons]
  cases toMinorFromFixed4 row with
  | none => rfl
  | some amount =>
      simp only [Option.map_some, zero_add, Option.bind_eq_bind, Option.bind_some, foldlM_minors]

theorem sumOrderMinors_append (first second : List OrderRow) :
    sumOrderMinors (first ++ second) =
      (sumOrderMinors first).bind fun a => (sumOrderMinors second).map (a + ·) := by
  induction first with
  | nil => simp [sumOrderMinors]
  | cons row rest ih =>
      rw [cons_append, sumOrderMinors_cons, sumOrderMinors_cons, ih]
      cases toMinorFromFixed4 row <;> cases sumOrderMinors rest <;> cases sumOrderMinors second <;>
        simp [add_assoc]

theorem sumOrderMinors_perm {first second : List OrderRow} (hperm : first.Perm second) :
    sumOrderMinors first = sumOrderMinors second := by
  induction hperm with
  | nil => rfl
  | cons row _ ih => rw [sumOrderMinors_cons, sumOrderMinors_cons, ih]
  | swap row row' rest =>
      simp only [sumOrderMinors_cons]
      cases toMinorFromFixed4 row <;> cases toMinorFromFixed4 row' <;> cases sumOrderMinors rest <;>
        simp [add_left_comm]
  | trans _ _ ih ih' => exact ih.trans ih'

theorem minorUnitsExact : MinorUnitsExact where
  reads_back := by
    intro m
    rw [← written_printed]
    have hread := parseFixed4ToMinor_written (printed m)
    have hvalue := denotes_eq _ hread
    rw [denotes_printed] at hvalue
    rw [hread]
    field_simp at hvalue
    exact congrArg some (by exact_mod_cast hvalue.symm)
  keeps_number := by
    intro s
    have hread := parseFixed4ToMinor_written s
    refine ⟨_, hread, printed _, (written_printed _).symm, length_printed_frac _, ?_⟩
    rw [denotes_printed, denotes_eq s hread]
  nothing := rfl
  single := by
    intro row
    rw [sumOrderMinors_cons]
    cases toMinorFromFixed4 row <;> simp [sumOrderMinors]
  append := sumOrderMinors_append
  perm := fun _ _ => sumOrderMinors_perm

end FinanceMoney

end SafariLaundry
