import SafariLaundry.GatewayText
import SafariLaundry.Library.BitStream

/-!
# Base 32

The secrets of the one-time codes are written in base 32.  Either direction of
`totp.util.ts` keeps the bits between two steps in a word that is shifted and never masked.
-/

namespace SafariLaundry.Base32

open Library.BitStream List

def shiftLeft (value : BitVec 32) (count : ℕ) : BitVec 32 :=
  value <<< (count % 32)

/-- `>>>`. -/
def shiftRight (value : BitVec 32) (count : ℕ) : BitVec 32 :=
  value >>> (count % 32)

theorem masked (value : BitVec 32) (count width : ℕ) (hcount : count < 32) (hwidth : width < 32) :
    (shiftRight value count &&& BitVec.ofNat 32 (2 ^ width - 1)).toNat =
      value.toNat / 2 ^ count % 2 ^ width := by
  have hwide : 2 ^ width < 2 ^ 32 := Nat.pow_lt_pow_right (by decide) hwidth
  rw [shiftRight, Nat.mod_eq_of_lt hcount, BitVec.toNat_and, BitVec.toNat_ushiftRight,
    BitVec.toNat_ofNat, Nat.mod_eq_of_lt (by omega), Nat.and_two_pow_sub_one_eq_mod,
    Nat.shiftRight_eq_div_pow]

def base32Alphabet : List Char :=
  "ABCDEFGHIJKLMNOPQRSTUVWXYZ234567".toList

def base32Letter (index : ℕ) : Char :=
  base32Alphabet.getD index 'A'

structure Encoding where
  bits : ℕ
  value : BitVec 32
  output : List Char

def Encoding.drain (state : Encoding) : Encoding :=
  if 5 ≤ state.bits then
    Encoding.drain
      { bits := state.bits - 5
        value := state.value
        output := state.output ++
          [base32Letter (shiftRight state.value (state.bits - 5) &&& 31#32).toNat] }
  else state
termination_by state.bits

def encodeByte (state : Encoding) (byte : UInt8) : Encoding :=
  Encoding.drain
    { state with
      value := shiftLeft state.value 8 ||| BitVec.ofNat 32 byte.toNat
      bits := state.bits + 8 }

def base32Encode (buffer : List UInt8) : List Char :=
  let state := buffer.foldl encodeByte { bits := 0, value := 0, output := [] }
  if 0 < state.bits then
    state.output ++ [base32Letter (shiftLeft state.value (5 - state.bits) &&& 31#32).toNat]
  else state.output

structure Decoding where
  bits : ℕ
  value : BitVec 32
  out : List UInt8

def decodeChar (state : Decoding) (char : Char) : Except String Decoding :=
  match base32Alphabet.idxOf? char with
  | none => .error "Invalid base32 character"
  | some idx =>
      let value := shiftLeft state.value 5 ||| BitVec.ofNat 32 idx
      let bits := state.bits + 5
      if 8 ≤ bits then
        .ok
          { bits := bits - 8
            value := value
            out := state.out ++ [UInt8.ofNat (shiftRight value (bits - 8) &&& 0xff#32).toNat] }
      else .ok { bits := bits, value := value, out := state.out }

/-- `toUpperCase`; what it makes of a character outside ASCII is a parameter. -/
def upperCase (special : Char → List Char) (c : Char) : List Char :=
  if c.val < 0x80 then [c.toUpper] else special c

def clean (special : Char → List Char) (input : List Char) : List Char :=
  ((input.rdropWhile (· == '=')).filter fun c => !isSpace c).flatMap (upperCase special)

def base32Decode (special : Char → List Char) (input : List Char) : Except String (List UInt8) :=
  ((clean special input).foldlM decodeChar { bits := 0, value := 0, out := [] }).map Decoding.out

def stream (bytes : List UInt8) : List Bool :=
  (bytes.map UInt8.toNat).flatMap (bits 8)

def filling (bytes : List UInt8) : List Bool :=
  List.replicate ((5 - (stream bytes).length % 5) % 5) false

/-- The letters of the groups of five bits, without padding. -/
def rfc4648 (bytes : List UInt8) : List Char :=
  let filled := stream bytes ++ filling bytes
  (cut 5 (filled.length / 5) filled).map base32Letter

def Encoding.Carries (state : Encoding) (stream : List Bool) : Prop :=
  ∃ digits, Queued 5 stream digits state.value state.bits ∧ state.output = digits.map base32Letter

theorem carries_drain {state : Encoding} {stream : List Bool}
    (hcarries : state.Carries stream) (hbits : state.bits ≤ 32) :
    state.drain.Carries stream ∧ state.drain.bits < 5 := by
  induction state using Encoding.drain.induct with
  | case1 state hfull ih =>
      obtain ⟨digits, hqueued, houtput⟩ := hcarries
      have hletter : (shiftRight state.value (state.bits - 5) &&& 31#32).toNat =
          state.value.toNat / 2 ^ (state.bits - 5) % 2 ^ 5 :=
        masked state.value _ 5 (by omega) (by decide)
      rw [Encoding.drain, if_pos hfull]
      apply ih
      · exact ⟨_, hqueued.pop hfull, by
          rw [houtput, map_append, map_singleton, hletter]⟩
      · simp only
        omega
  | case2 state hempty =>
      rw [Encoding.drain, if_neg hempty]
      exact ⟨hcarries, by omega⟩

theorem carries_encodeByte {state : Encoding} {stream : List Bool}
    (hcarries : state.Carries stream) (hbits : state.bits < 5) (byte : UInt8) :
    (encodeByte state byte).Carries (stream ++ bits 8 byte.toNat) ∧
      (encodeByte state byte).bits < 5 := by
  obtain ⟨digits, hqueued, houtput⟩ := hcarries
  apply carries_drain
  · exact ⟨digits, hqueued.push byte.toNat_lt (by omega), houtput⟩
  · simp only
    omega

theorem stream_concat (bytes : List UInt8) (byte : UInt8) :
    stream (bytes ++ [byte]) = stream bytes ++ bits 8 byte.toNat := by
  simp [stream]

theorem foldl_encodeByte_carries (bytes : List UInt8) :
    (bytes.foldl encodeByte { bits := 0, value := 0, output := [] }).Carries (stream bytes) ∧
      (bytes.foldl encodeByte { bits := 0, value := 0, output := [] }).bits < 5 := by
  induction bytes using List.reverseRecOn with
  | nil => exact ⟨⟨[], Queued.start 5, rfl⟩, by decide⟩
  | append_singleton bytes byte ih =>
      rw [foldl_append, foldl_cons, foldl_nil, stream_concat]
      exact carries_encodeByte ih.1 ih.2 byte

theorem base32Encode_eq_letters (bytes : List UInt8) :
    ∃ digits value, Queued 5 (stream bytes ++ filling bytes) digits value 0 ∧
      base32Encode bytes = digits.map base32Letter := by
  obtain ⟨⟨digits, hqueued, houtput⟩, hbits⟩ := foldl_encodeByte_carries bytes
  rw [base32Encode]
  generalize bytes.foldl encodeByte { bits := 0, value := 0, output := [] } = state at *
  have hlength := hqueued.length_eq
  by_cases hrest : 0 < state.bits
  · have hfill : (5 - (stream bytes).length % 5) % 5 = 5 - state.bits := by omega
    have hcount : state.bits + (5 - state.bits) = 5 := by omega
    have hfilled : Queued 5 (stream bytes ++ bits (5 - state.bits) 0) digits
        (state.value <<< (5 - state.bits) ||| 0#32) (state.bits + (5 - state.bits)) :=
      hqueued.push (by positivity) (by omega)
    rw [hcount, bits_zero, BitVec.or_zero] at hfilled
    have hletter : (shiftLeft state.value (5 - state.bits) &&& 31#32).toNat =
        (state.value <<< (5 - state.bits)).toNat / 2 ^ (5 - 5) % 2 ^ 5 := by
      rw [shiftLeft, Nat.mod_eq_of_lt (by omega)]
      exact masked (state.value <<< (5 - state.bits)) 0 5 (by decide) (by decide)
    rw [filling, hfill]
    refine ⟨_, _, hfilled.pop (by decide), ?_⟩
    rw [if_pos hrest, houtput, hletter, map_append, map_singleton]
  · have hfill : (5 - (stream bytes).length % 5) % 5 = 0 := by omega
    have hempty : state.bits = 0 := by omega
    rw [filling, hfill, replicate_zero, append_nil]
    rw [hempty] at hqueued
    exact ⟨digits, state.value, hqueued, by rw [if_neg hrest, houtput]⟩

theorem base32Encode_eq_rfc4648 (bytes : List UInt8) : base32Encode bytes = rfc4648 bytes := by
  obtain ⟨digits, value, hqueued, hletters⟩ := base32Encode_eq_letters bytes
  rw [hletters, rfc4648, hqueued.digits_eq_cut (by decide)]

/-! ## Reading the letters back -/

inductive Spelt : List Char → List Char → Prop
  | nil : Spelt [] []
  | letter {letter c : Char} {letters text : List Char} (hcase : c = letter ∨ c = letter.toLower)
      (hrest : Spelt letters text) : Spelt (letter :: letters) (c :: text)
  | space {c : Char} {letters text : List Char} (hspace : isSpace c = true)
      (hrest : Spelt letters text) : Spelt letters (c :: text)

theorem idxOf_base32Letter {digit : ℕ} (hdigit : digit < 2 ^ 5) :
    base32Alphabet.idxOf? (base32Letter digit) = some digit := by
  have hall : ∀ digit < 2 ^ 5, base32Alphabet.idxOf? (base32Letter digit) = some digit := by
    decide +kernel
  exact hall digit hdigit

def Passes (c letter : Char) : Prop :=
  isSpace c = false ∧ c ≠ '=' ∧ c.val < 0x80 ∧ c.toUpper = letter
  deriving Decidable

theorem passes_of_case {digit : ℕ} (hdigit : digit < 2 ^ 5) {c : Char}
    (hcase : c = base32Letter digit ∨ c = (base32Letter digit).toLower) :
    Passes c (base32Letter digit) := by
  have hall : ∀ digit < 2 ^ 5, Passes (base32Letter digit) (base32Letter digit) ∧
      Passes (base32Letter digit).toLower (base32Letter digit) := by
    decide +kernel
  rcases hcase with rfl | rfl
  · exact (hall digit hdigit).1
  · exact (hall digit hdigit).2

theorem isSpace_equals : isSpace '=' = false := by decide

variable {text : List Char}

theorem ne_equals_of_spelt {digits : List ℕ} (hspelt : Spelt (digits.map base32Letter) text)
    (hdigits : ∀ digit ∈ digits, digit < 2 ^ 5) :
    ∀ c ∈ text, c ≠ '=' := by
  generalize hletters : digits.map base32Letter = letters at hspelt
  induction hspelt generalizing digits with
  | nil => simp
  | letter hcase hrest ih =>
      cases digits with
      | nil => simp at hletters
      | cons digit digits =>
          rw [map_cons, List.cons.injEq] at hletters
          obtain ⟨rfl, hletters⟩ := hletters
          rw [forall_mem_cons] at hdigits ⊢
          exact ⟨(passes_of_case hdigits.1 hcase).2.1, ih hdigits.2 hletters⟩
  | space hspace hrest ih =>
      rw [forall_mem_cons]
      refine ⟨?_, ih hdigits hletters⟩
      rintro rfl
      rw [isSpace_equals] at hspace
      cases hspace

theorem clean_of_spelt (special : Char → List Char) {digits : List ℕ}
    (hspelt : Spelt (digits.map base32Letter) text) (hdigits : ∀ digit ∈ digits, digit < 2 ^ 5) :
    (text.filter fun c => !isSpace c).flatMap (upperCase special) = digits.map base32Letter := by
  generalize hletters : digits.map base32Letter = letters at hspelt
  induction hspelt generalizing digits with
  | nil => rfl
  | letter hcase hrest ih =>
      cases digits with
      | nil => simp at hletters
      | cons digit digits =>
          rw [map_cons, List.cons.injEq] at hletters
          obtain ⟨rfl, hletters⟩ := hletters
          rw [forall_mem_cons] at hdigits
          obtain ⟨hspace, -, hascii, hupper⟩ := passes_of_case hdigits.1 hcase
          rw [filter_cons_of_pos (by simp [hspace]), flatMap_cons,
            ih hdigits.2 hletters, upperCase, if_pos hascii, hupper, singleton_append]
  | space hspace hrest ih =>
      rw [filter_cons_of_neg (by simp [hspace])]
      exact ih hdigits hletters

theorem rdropWhile_padding (htext : ∀ c ∈ text, c ≠ '=') (padding : ℕ) :
    (text ++ List.replicate padding '=').rdropWhile (· == '=') = text := by
  induction padding with
  | zero =>
      rw [replicate_zero, append_nil, rdropWhile_eq_self_iff]
      intro hne
      simpa using htext _ (getLast_mem hne)
  | succ padding ih =>
      rw [replicate_succ', ← append_assoc, rdropWhile_concat_pos _ _ _ (by simp), ih]

theorem clean_spelt (special : Char → List Char) {digits : List ℕ}
    (hspelt : Spelt (digits.map base32Letter) text) (hdigits : ∀ digit ∈ digits, digit < 2 ^ 5)
    (padding : ℕ) :
    clean special (text ++ List.replicate padding '=') = digits.map base32Letter := by
  rw [clean, rdropWhile_padding (ne_equals_of_spelt hspelt hdigits), clean_of_spelt special hspelt
    hdigits]

def Decoding.Carries (state : Decoding) (stream : List Bool) : Prop :=
  Queued 8 stream (state.out.map UInt8.toNat) state.value state.bits ∧ state.bits < 8

theorem carries_decodeChar {state : Decoding} {stream : List Bool}
    (hcarries : state.Carries stream) {digit : ℕ} (hdigit : digit < 2 ^ 5) :
    ∃ next, decodeChar state (base32Letter digit) = .ok next ∧
      next.Carries (stream ++ bits 5 digit) := by
  obtain ⟨hqueued, hbits⟩ := hcarries
  have hpushed := hqueued.push hdigit (by omega)
  simp only [decodeChar, idxOf_base32Letter hdigit]
  by_cases hfull : 8 ≤ state.bits + 5
  · rw [if_pos hfull]
    refine ⟨_, rfl, ?_, by simp only; omega⟩
    have hbyte : (shiftRight (shiftLeft state.value 5 ||| BitVec.ofNat 32 digit)
        (state.bits + 5 - 8) &&& 0xff#32).toNat =
        (shiftLeft state.value 5 ||| BitVec.ofNat 32 digit).toNat / 2 ^ (state.bits + 5 - 8) %
          2 ^ 8 :=
      masked _ _ 8 (by omega) (by decide)
    rw [hbyte, map_append, map_singleton, UInt8.toNat_ofNat', Nat.mod_mod]
    exact hpushed.pop hfull
  · rw [if_neg hfull]
    exact ⟨_, rfl, hpushed, by simp only; omega⟩

theorem carries_foldlM (digits : List ℕ) (hdigits : ∀ digit ∈ digits, digit < 2 ^ 5) :
    ∃ state, (digits.map base32Letter).foldlM decodeChar { bits := 0, value := 0, out := [] } =
      .ok state ∧ state.Carries (digits.flatMap (bits 5)) := by
  induction digits using List.reverseRecOn with
  | nil => exact ⟨_, rfl, Queued.start 8, by decide⟩
  | append_singleton digits digit ih =>
      rw [forall_mem_append, forall_mem_singleton] at hdigits
      obtain ⟨state, hstate, hcarries⟩ := ih hdigits.1
      obtain ⟨next, hnext, hcarried⟩ := carries_decodeChar hcarries hdigits.2
      refine ⟨next, ?_, ?_⟩
      · rw [map_append, foldlM_append, hstate]
        change decodeChar state (base32Letter digit) >>= pure = _
        rw [hnext]
        rfl
      · rw [flatMap_append, flatMap_singleton]
        exact hcarried

theorem base32Decode_spelt (special : Char → List Char) (bytes : List UInt8)
    (hspelt : Spelt (base32Encode bytes) text) (padding : ℕ) :
    base32Decode special (text ++ List.replicate padding '=') = .ok bytes := by
  obtain ⟨digits, value, hqueued, hletters⟩ := base32Encode_eq_letters bytes
  obtain ⟨pending, hstream, hempty, -⟩ := hqueued.split
  rw [hletters] at hspelt
  rw [eq_nil_of_length_eq_zero hempty, append_nil] at hstream
  obtain ⟨state, hstate, hcarried, hbits⟩ := carries_foldlM digits hqueued.small
  rw [hstream] at hcarried
  have hbytes : state.out.map UInt8.toNat = bytes.map UInt8.toNat := by
    refine hcarried.digits_eq hbits ?_ ?_
    · simp only [forall_mem_map]
      exact fun byte _ => byte.toNat_lt
    · rw [filling, length_replicate]
      omega
  rw [base32Decode, clean_spelt special hspelt hqueued.small, hstate]
  exact congrArg Except.ok (map_injective_iff.2 (fun _ _ => UInt8.toNat_inj.1) hbytes)

/-- The encoding is the one of RFC 4648 without padding, and decoding takes it back to the
bytes in either case, with white space in it and any padding behind it. -/
def EncodesAndDecodes : Prop :=
  ∀ (special : Char → List Char) (bytes : List UInt8), base32Encode bytes = rfc4648 bytes ∧
      ∀ text, Spelt (base32Encode bytes) text → ∀ padding,
        base32Decode special (text ++ List.replicate padding '=') = .ok bytes

theorem base32_encodesAndDecodes : EncodesAndDecodes := by
  intro special bytes
  exact ⟨base32Encode_eq_rfc4648 bytes, fun text hspelt padding =>
    base32Decode_spelt special bytes hspelt padding⟩

end SafariLaundry.Base32
