import SafariLaundry.GatewayText

/-!
# Kuwait mobile numbers

The parser that the payment gateway and the messages use, and the validator of the request
bodies.  The parser takes every text that begins with the country code and is long enough.
-/

namespace SafariLaundry

open List

/-- `[569]\d{7}`. -/
def localShape : List (Char → Bool) :=
  (fun c => c ∈ ['5', '6', '9']) :: List.replicate 7 Char.isDigit

def literally (text : String) : List (Char → Bool) :=
  text.toList.map fun expected c => c == expected

def matchesPhone (code : String) (text : List Char) : Bool :=
  matchesShape (literally code ++ localShape) text

def phoneDigits (phone : String) : List Char :=
  phone.toList.filter fun c => !(isSpace c || c == '-' || c == '+')

def compactPhone (value : String) : List Char :=
  value.toList.filter fun c => !(isSpace c || c == '-')

def parseKuwaitMobile965 (phone : String) : Option String :=
  let d := phoneDigits phone
  let length := textLength (String.ofList d)
  if length = 8 ∧ matchesPhone "" d = true then some ("965" ++ String.ofList d)
  else if length = 11 ∧ "965".toList <+: d ∧ matchesPhone "965" d = true then
    some (String.ofList d)
  -- the country code with its zeros and the number are thirteen characters
  else if length = 12 ∧ "00965".toList <+: d ∧ matchesPhone "00965" d = true then
    some (String.ofList (d.drop 2))
  else if 0 < length ∧ "965".toList <+: d ∧ 11 ≤ length then some (String.ofList d)
  else none

def isKuwaitCustomerPhone : Option String → Bool
  | none => false
  | some value => ["", "965", "+965"].any fun code => matchesPhone code (compactPhone value)

structure IsLocalNumber (text : List Char) : Prop where
  length : text.length = 8
  first : ∃ c ∈ ['5', '6', '9'], text.head? = some c
  digits : ∀ c ∈ text, c.isDigit = true

def IsWritten (codes : List String) (text : List Char) : Prop :=
  ∃ code ∈ codes, ∃ number, IsLocalNumber number ∧ text = code.toList ++ number

structure ParsesAsDocumented (phone : String) : Prop where
  accepts : (parseKuwaitMobile965 phone).isSome = true ↔
    IsWritten ["", "+965", "965", "00965"] (compactPhone phone)
  result : ∀ number, parseKuwaitMobile965 phone = some number →
    IsWritten ["965"] number.toList ∧ parseKuwaitMobile965 number = some number
  validator : isKuwaitCustomerPhone (some phone) = true ↔
    (parseKuwaitMobile965 phone).isSome = true ∧ ¬ "00965".toList <+: compactPhone phone

/-- The texts that no branch of the parser misreads. -/
structure IsPlainPhone (phone : String) : Prop where
  not_zeros : ¬ IsWritten ["00965"] (compactPhone phone)
  exact : "965".toList <+: phoneDigits phone → 11 ≤ textLength (String.ofList (phoneDigits phone)) →
    IsLocalNumber ((phoneDigits phone).drop 3)
  plus : IsWritten ["", "965"] (phoneDigits phone) → '+' ∈ compactPhone phone →
    IsWritten ["+965"] (compactPhone phone)

variable {text : List Char} {phone : String}

variable {code : String} {codes : List String}

theorem matchesShape_literally_append {shape : List (Char → Bool)} :
    matchesShape (literally code ++ shape) text = true ↔
      ∃ rest, text = code.toList ++ rest ∧ matchesShape shape rest = true := by
  unfold literally
  induction code.toList generalizing text with
  | nil => simp
  | cons expected code ih =>
      cases text with
      | nil => simp [matchesShape]
      | cons c text =>
          simp only [map_cons, cons_append, matchesShape, Bool.and_eq_true, ih,
            beq_iff_eq, List.cons.injEq]
          constructor
          · rintro ⟨rfl, rest, rfl, hrest⟩
            exact ⟨rest, ⟨rfl, rfl⟩, hrest⟩
          · rintro ⟨rest, ⟨rfl, rfl⟩, hrest⟩
            exact ⟨rfl, rest, rfl, hrest⟩

theorem matchesShape_replicate {test : Char → Bool} {count : ℕ} :
    matchesShape (List.replicate count test) text = true ↔
      text.length = count ∧ ∀ c ∈ text, test c = true := by
  induction count generalizing text with
  | zero => cases text <;> simp [matchesShape]
  | succ count ih =>
      cases text with
      | nil => simp [replicate_succ, matchesShape]
      | cons c text => simp [replicate_succ, matchesShape, ih, and_left_comm]

theorem matchesShape_localShape :
    matchesShape localShape text = true ↔ IsLocalNumber text := by
  unfold localShape
  cases text with
  | nil =>
      simp only [matchesShape, Bool.false_eq_true, false_iff]
      intro hnumber
      cases hnumber.length
  | cons c text =>
      simp only [matchesShape, matchesShape_replicate, Bool.and_eq_true, decide_eq_true_eq]
      constructor
      · rintro ⟨hfirst, hlength, hdigits⟩
        refine ⟨by simp [hlength], ⟨c, hfirst, rfl⟩, ?_⟩
        intro d hd
        rcases mem_cons.1 hd with rfl | hd
        · simp only [mem_cons, not_mem_nil, or_false] at hfirst
          rcases hfirst with rfl | rfl | rfl <;> decide
        · exact hdigits d hd
      · rintro ⟨hlength, ⟨first, hfirst, hhead⟩, hdigits⟩
        cases hhead
        exact ⟨hfirst, Nat.succ_injective hlength, fun d hd => hdigits d (mem_cons_of_mem _ hd)⟩

theorem matchesPhone_iff :
    matchesPhone code text = true ↔ IsWritten [code] text := by
  unfold matchesPhone
  rw [matchesShape_literally_append]
  simp only [matchesShape_localShape, IsWritten, mem_singleton, exists_eq_left]
  exact exists_congr fun _ => and_comm

theorem isWritten_cons {next : String} :
    IsWritten (code :: next :: codes) text ↔
      IsWritten [code] text ∨ IsWritten (next :: codes) text := by
  simp [IsWritten]

theorem digits_of_isWritten (hcodes : ∀ code ∈ codes, ∀ c ∈ code.toList, c.isDigit = true)
    (htext : IsWritten codes text) :
    ∀ c ∈ text, c.isDigit = true := by
  obtain ⟨code, hcode, number, hnumber, rfl⟩ := htext
  intro c hc
  rcases mem_append.1 hc with hc | hc
  · exact hcodes code hcode c hc
  · exact hnumber.digits c hc

theorem phoneDigits_eq_filter (phone : String) :
    phoneDigits phone = (compactPhone phone).filter fun c => !(c == '+') := by
  unfold phoneDigits compactPhone
  rw [filter_filter]
  apply filter_congr
  intro c _
  cases isSpace c <;> cases c == '-' <;> cases c == '+' <;> rfl

theorem phoneDigits_eq_of_plus_notMem (hplus : '+' ∉ compactPhone phone) :
    phoneDigits phone = compactPhone phone := by
  rw [phoneDigits_eq_filter, filter_eq_self]
  intro c hc
  simp only [Bool.not_eq_true', beq_eq_false_iff_ne]
  rintro rfl
  exact hplus hc

/-! ## What the parser takes -/

theorem parseKuwaitMobile965_eq_some {number : String} :
    parseKuwaitMobile965 phone = some number ↔
      IsWritten [""] (phoneDigits phone) ∧ number = "965" ++ String.ofList (phoneDigits phone) ∨
        "965".toList <+: phoneDigits phone ∧ 11 ≤ textLength (String.ofList (phoneDigits phone)) ∧
          number = String.ofList (phoneDigits phone) := by
  unfold parseKuwaitMobile965
  generalize phoneDigits phone = d
  have hlocal : IsWritten [""] d → textLength (String.ofList d) = 8 := by
    rintro ⟨code, hcode, number, hnumber, rfl⟩
    rw [mem_singleton.1 hcode]
    simpa [hnumber.length] using textLength_of_digits hnumber.digits
  have hzeros : IsWritten ["00965"] d → textLength (String.ofList d) = 13 := by
    intro hd
    rw [textLength_of_digits (digits_of_isWritten (by simp) hd)]
    obtain ⟨code, hcode, number, hnumber, rfl⟩ := hd
    rw [mem_singleton.1 hcode, length_append, hnumber.length]
    rfl
  by_cases hfirst : textLength (String.ofList d) = 8 ∧ matchesPhone "" d = true
  · have hshort : ¬ 11 ≤ textLength (String.ofList d) := by omega
    have hd : IsWritten [""] d := matchesPhone_iff.1 hfirst.2
    rw [if_pos hfirst]
    simp [hd, hshort, eq_comm]
  · have hnot : ¬ IsWritten [""] d := fun hd => hfirst ⟨hlocal hd, matchesPhone_iff.2 hd⟩
    have hthird : ¬ (textLength (String.ofList d) = 12 ∧ "00965".toList <+: d ∧
        matchesPhone "00965" d = true) := by
      rintro ⟨hlength, -, hd⟩
      rw [hzeros (matchesPhone_iff.1 hd)] at hlength
      cases hlength
    have hlong : "965".toList <+: d ∧ 11 ≤ textLength (String.ofList d) →
        (some (String.ofList d) = some number ↔
          IsWritten [""] d ∧ number = "965" ++ String.ofList d ∨
            "965".toList <+: d ∧ 11 ≤ textLength (String.ofList d) ∧
              number = String.ofList d) := by
      rintro ⟨hstart, hlength⟩
      constructor
      · intro hsame
        exact Or.inr ⟨hstart, hlength, (Option.some.inj hsame).symm⟩
      · rintro (⟨hd, -⟩ | ⟨-, -, rfl⟩)
        · exact absurd hd hnot
        · rfl
    rw [if_neg hfirst, if_neg hthird]
    split_ifs with hsecond hfourth
    · exact hlong ⟨hsecond.2.1, hsecond.1.ge⟩
    · exact hlong hfourth.2
    · simp only [false_iff]
      rintro (⟨hd, -⟩ | ⟨hstart, hlength, -⟩)
      · exact hnot hd
      · exact hfourth ⟨by omega, hstart, hlength⟩

theorem isSome_parseKuwaitMobile965 :
    (parseKuwaitMobile965 phone).isSome = true ↔
      IsWritten [""] (phoneDigits phone) ∨ "965".toList <+: phoneDigits phone ∧
        11 ≤ textLength (String.ofList (phoneDigits phone)) := by
  rw [Option.isSome_iff_exists]
  simp only [parseKuwaitMobile965_eq_some, exists_or, exists_and_left, exists_eq, and_true]

theorem isWritten_965_iff :
    IsWritten ["965"] text ↔ "965".toList <+: text ∧ IsLocalNumber (text.drop 3) := by
  constructor
  · rintro ⟨code, hcode, number, hnumber, rfl⟩
    rw [mem_singleton.1 hcode]
    exact ⟨prefix_append _ _, hnumber⟩
  · rintro ⟨⟨rest, rfl⟩, hnumber⟩
    exact ⟨"965", mem_singleton.2 rfl, rest, hnumber, rfl⟩

theorem long_of_isWritten_965 (htext : IsWritten ["965"] text) :
    "965".toList <+: text ∧ 11 ≤ textLength (String.ofList text) := by
  refine ⟨(isWritten_965_iff.1 htext).1, ?_⟩
  rw [textLength_of_digits (digits_of_isWritten (by simp) htext)]
  obtain ⟨code, hcode, number, hnumber, rfl⟩ := htext
  rw [mem_singleton.1 hcode, length_append, hnumber.length]
  decide

theorem not_zeros_of_isWritten (htext : IsWritten ["", "965", "+965"] text) :
    ¬ "00965".toList <+: text := by
  obtain ⟨code, hcode, number, hnumber, rfl⟩ := htext
  rintro ⟨rest, hrest⟩
  have hhead := congrArg List.head? hrest
  simp only [mem_cons, not_mem_nil, or_false] at hcode
  rcases hcode with rfl | rfl | rfl
  · obtain ⟨c, hc, hnumberHead⟩ := hnumber.first
    have hzero : some '0' = some c := by simpa [hnumberHead] using hhead
    cases hzero
    exact absurd hc (by decide)
  · simp at hhead
  · simp at hhead

theorem plus_notMem_of_digits (hdigits : ∀ c ∈ text, c.isDigit = true) :
    '+' ∉ text := fun hplus => absurd (hdigits _ hplus) (by decide)

theorem parse_of_isWritten_965 {number : String} (hnumber : IsWritten ["965"] number.toList) :
    parseKuwaitMobile965 number = some number := by
  have hdigits := digits_of_isWritten (by simp) hnumber
  have hsame : phoneDigits number = number.toList := by
    unfold phoneDigits
    rw [filter_eq_self]
    intro c hc
    have hdash : c ≠ '-' := by
      rintro rfl
      exact absurd (hdigits _ hc) (by decide)
    have hplus : c ≠ '+' := by
      rintro rfl
      exact absurd (hdigits _ hc) (by decide)
    simp [isSpace_of_isDigit (hdigits c hc), hdash, hplus]
  rw [parseKuwaitMobile965_eq_some, hsame]
  have hlong := long_of_isWritten_965 hnumber
  exact Or.inr ⟨hlong.1, hlong.2, (String.ofList_toList).symm⟩

theorem phoneDigits_of_isWritten (hcodes : ∀ code ∈ codes, ∀ c ∈ code.toList, c.isDigit = true)
    (hphone : IsWritten codes (compactPhone phone)) : phoneDigits phone = compactPhone phone :=
  phoneDigits_eq_of_plus_notMem (plus_notMem_of_digits (digits_of_isWritten hcodes hphone))

theorem phoneDigits_of_plus (hphone : IsWritten ["+965"] (compactPhone phone)) :
    IsWritten ["965"] (phoneDigits phone) := by
  obtain ⟨code, hcode, number, hnumber, hcompact⟩ := hphone
  refine ⟨"965", mem_singleton.2 rfl, number, hnumber, ?_⟩
  have hkeep : number.filter (fun c => !(c == '+')) = number := by
    rw [filter_eq_self]
    intro c hc
    simp only [Bool.not_eq_true', beq_eq_false_iff_ne]
    rintro rfl
    exact plus_notMem_of_digits hnumber.digits hc
  rw [phoneDigits_eq_filter, hcompact, mem_singleton.1 hcode, filter_append, hkeep]
  simp

theorem isSome_parse_of_isWritten (hphone : IsWritten ["", "+965", "965"] (compactPhone phone)) :
    (parseKuwaitMobile965 phone).isSome = true := by
  rw [isSome_parseKuwaitMobile965]
  simp only [isWritten_cons] at hphone
  rcases hphone with hlocal | hplus | hcode
  · rw [phoneDigits_of_isWritten (by simp) hlocal]
    exact Or.inl hlocal
  · exact Or.inr (long_of_isWritten_965 (phoneDigits_of_plus hplus))
  · rw [phoneDigits_of_isWritten (by simp) hcode]
    exact Or.inr (long_of_isWritten_965 hcode)

theorem parse_eq_none_of_zeros (hphone : IsWritten ["00965"] (compactPhone phone)) :
    (parseKuwaitMobile965 phone).isSome = false := by
  rw [Bool.eq_false_iff, ne_eq, isSome_parseKuwaitMobile965,
    phoneDigits_of_isWritten (by simp) hphone]
  obtain ⟨code, hcode, number, -, hcompact⟩ := hphone
  have hzeros : "00965".toList <+: compactPhone phone := by
    rw [hcompact, mem_singleton.1 hcode]
    exact prefix_append _ _
  rintro (hlocal | ⟨hstart, -⟩)
  · exact not_zeros_of_isWritten (isWritten_cons.2 (Or.inl hlocal)) hzeros
  · have hfirst := prefix_of_prefix_length_le hstart hzeros (by decide)
    exact absurd hfirst (by decide)

theorem isKuwaitCustomerPhone_some :
    isKuwaitCustomerPhone (some phone) = true ↔
      IsWritten ["", "965", "+965"] (compactPhone phone) := by
  unfold isKuwaitCustomerPhone
  simp only [any_eq_true, matchesPhone_iff]
  constructor
  · rintro ⟨code, hcode, hphone⟩
    obtain ⟨written, hwritten, hrest⟩ := hphone
    exact ⟨code, hcode, mem_singleton.1 hwritten ▸ hrest⟩
  · rintro ⟨code, hcode, hrest⟩
    exact ⟨code, hcode, code, mem_singleton.2 rfl, hrest⟩

theorem ParsesAsDocumented.isPlainPhone (hparses : ParsesAsDocumented phone) :
    IsPlainPhone phone := by
  refine ⟨?_, ?_, ?_⟩
  · intro hzeros
    have hsome := hparses.accepts.2 <| by
      simp only [isWritten_cons]
      exact Or.inr (Or.inr (Or.inr hzeros))
    rw [parse_eq_none_of_zeros hzeros] at hsome
    cases hsome
  · intro hstart hlength
    have hresult := (hparses.result _
      (parseKuwaitMobile965_eq_some.2 (Or.inr ⟨hstart, hlength, rfl⟩))).1
    rw [String.toList_ofList] at hresult
    exact (isWritten_965_iff.1 hresult).2
  · intro hdigits hplus
    have hsome : (parseKuwaitMobile965 phone).isSome = true := by
      rw [isSome_parseKuwaitMobile965]
      exact (isWritten_cons.1 hdigits).imp id long_of_isWritten_965
    have hphone := hparses.accepts.1 hsome
    simp only [isWritten_cons] at hphone
    rcases hphone with hlocal | hcode | hcode | hzeros
    · exact absurd hplus (plus_notMem_of_digits (digits_of_isWritten (by simp) hlocal))
    · exact hcode
    · exact absurd hplus (plus_notMem_of_digits (digits_of_isWritten (by simp) hcode))
    · exact absurd hplus (plus_notMem_of_digits (digits_of_isWritten (by simp) hzeros))

theorem IsPlainPhone.isWritten_digits (hplain : IsPlainPhone phone)
    (hsome : (parseKuwaitMobile965 phone).isSome = true) :
    IsWritten ["", "965"] (phoneDigits phone) := by
  rw [isWritten_cons]
  rcases isSome_parseKuwaitMobile965.1 hsome with hlocal | ⟨hstart, hlength⟩
  · exact Or.inl hlocal
  · exact Or.inr (isWritten_965_iff.2 ⟨hstart, hplain.exact hstart hlength⟩)

theorem IsPlainPhone.isSome_iff (hplain : IsPlainPhone phone) :
    (parseKuwaitMobile965 phone).isSome = true ↔
      IsWritten ["", "965", "+965"] (compactPhone phone) := by
  constructor
  · intro hsome
    have hdigits := hplain.isWritten_digits hsome
    by_cases hplus : '+' ∈ compactPhone phone
    · have hcode := hplain.plus hdigits hplus
      simp only [isWritten_cons]
      exact Or.inr (Or.inr hcode)
    · rw [phoneDigits_eq_of_plus_notMem hplus] at hdigits
      simp only [isWritten_cons] at hdigits ⊢
      exact hdigits.imp id Or.inl
  · intro hphone
    apply isSome_parse_of_isWritten
    simp only [isWritten_cons] at hphone ⊢
    exact hphone.imp id Or.symm

theorem IsPlainPhone.parsesAsDocumented (hplain : IsPlainPhone phone) :
    ParsesAsDocumented phone := by
  refine ⟨?_, ?_, ?_⟩
  · rw [hplain.isSome_iff]
    have hzeros := hplain.not_zeros
    simp only [isWritten_cons, hzeros, or_false]
    tauto
  · intro number hnumber
    have hwritten : IsWritten ["965"] number.toList := by
      rcases parseKuwaitMobile965_eq_some.1 hnumber with ⟨hlocal, rfl⟩ | ⟨hstart, hlength, rfl⟩
      · obtain ⟨code, hcode, number, hnumber, hdigits⟩ := hlocal
        refine ⟨"965", mem_singleton.2 rfl, number, hnumber, ?_⟩
        rw [hdigits, mem_singleton.1 hcode]
        simp
      · rw [String.toList_ofList]
        exact isWritten_965_iff.2 ⟨hstart, hplain.exact hstart hlength⟩
    exact ⟨hwritten, parse_of_isWritten_965 hwritten⟩
  · rw [isKuwaitCustomerPhone_some, hplain.isSome_iff]
    exact ⟨fun hphone => ⟨hphone, not_zeros_of_isWritten hphone⟩, And.left⟩

/-- The parser keeps its promises on the plain texts and on no other. -/
theorem parsesAsDocumented_iff (phone : String) :
    ParsesAsDocumented phone ↔ IsPlainPhone phone :=
  ⟨ParsesAsDocumented.isPlainPhone, IsPlainPhone.parsesAsDocumented⟩

/-- A number with the international prefix is refused. -/
theorem parsesAsDocumented_fails : ¬ ParsesAsDocumented "0096551234567" := by
  intro hparses
  apply hparses.isPlainPhone.not_zeros
  rw [← matchesPhone_iff]
  decide

end SafariLaundry
