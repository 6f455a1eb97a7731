import SafariLaundry.Base32

/-!
# One-time codes

The codes of `totp.util.ts` beside those of RFC 6238; HMAC-SHA-1 is a parameter.  Codes are lists
of characters.
-/

namespace SafariLaundry.Totp

open Base32 List

/-! ## The codes of the source -/

/-- HMAC-SHA-1, and what `toUpperCase` makes of a character outside ASCII. -/
structure TotpEnv where
  hmacSha1 : List UInt8 → List UInt8 → List UInt8
  special : Char → List Char

def writeUInt32BE (value : ℕ) : List UInt8 :=
  [24, 16, 8, 0].map fun shift => UInt8.ofNat (value >>> shift)

def padStart (digits n : ℕ) : List Char := (Nat.toDigits 10 n).leftpad digits '0'

def binary (hmac : List UInt8) : ℕ :=
  let offset := (hmac.getLastD 0).toNat &&& 0x0f
  let byte := fun i => (hmac.getD (offset + i) 0).toNat
  (byte 0 &&& 0x7f) <<< 24 ||| byte 1 <<< 16 ||| byte 2 <<< 8 ||| byte 3

/-- `writeUInt32BE` throws where the high word is none. -/
def hotp (env : TotpEnv) (secret : List UInt8) (counter : ℤ) (digits : ℕ) :
    Except String (List Char) :=
  if 0 ≤ counter ∧ counter < 2 ^ 64 then
    let buf := writeUInt32BE (counter.toNat / 2 ^ 32) ++ writeUInt32BE (counter.toNat % 2 ^ 32)
    .ok (padStart digits (binary (env.hmacSha1 secret buf) % 10 ^ digits))
  else .error "ERR_OUT_OF_RANGE"

def counterAt (atMs : ℤ) (step : ℕ) : ℤ := atMs / 1000 / step

def generateTotp (env : TotpEnv) (secretBase32 : List Char) (atMs : ℤ) (step digits : ℕ) :
    Except String (List Char) := do
  hotp env (← base32Decode env.special secretBase32) (counterAt atMs step) digits

def verifyTotp (env : TotpEnv) (secretBase32 candidate : List Char) (atMs : ℤ)
    (step digits window : ℕ) : Except String Bool := do
  let normalized := candidate.filter fun c => !isSpace c
  if normalized = [] ∨ ¬ normalized.all Char.isDigit ∨ normalized.length ≠ digits then
    return false
  let secret ← base32Decode env.special secretBase32
  (List.range (2 * window + 1)).anyM fun (i : ℕ) => do
    let expected ← hotp env secret (counterAt atMs step + ((i : ℤ) - window)) digits
    return expected = normalized

/-! ## The codes of RFC 6238 -/

def bigEndian (width n : ℕ) : List UInt8 :=
  (List.range width).reverse.map fun i => UInt8.ofNat (n / 256 ^ i)

/-- The decimal digits of 31 bits of the digest of the counter, taken at the offset that its last
four bits name. -/
def rfc4226 (env : TotpEnv) (secret : List UInt8) (counter digits : ℕ) : List Char :=
  let hmac := env.hmacSha1 secret (bigEndian 8 counter)
  let offset := (hmac.getLastD 0).toNat % 16
  let byte := fun i => (hmac.getD (offset + i) 0).toNat
  let number := 256 * (256 * (256 * byte 0 + byte 1) + byte 2) + byte 3
  padStart digits (number % 2 ^ 31 % 10 ^ digits)

theorem words_eq_bigEndian (counter : ℕ) :
    writeUInt32BE (counter / 2 ^ 32) ++ writeUInt32BE (counter % 2 ^ 32) = bigEndian 8 counter := by
  have hbyte : ∀ {m n : ℕ}, m % 256 = n % 256 → UInt8.ofNat m = UInt8.ofNat n := by
    intro m n hsame
    apply UInt8.toNat_inj.1
    simpa using hsame
  simp only [writeUInt32BE, bigEndian, Nat.shiftRight_eq_div_pow, Nat.div_div_eq_div_mul,
    map_cons, map_nil, cons_append, nil_append, range_succ,
    range_zero, reverse_cons, reverse_nil]
  norm_num
  refine ⟨?_, ?_, ?_, ?_⟩ <;> apply hbyte <;> omega

theorem binary_eq (hmac : List UInt8) :
    let byte := fun i => (hmac.getD ((hmac.getLastD 0).toNat % 16 + i) 0).toNat
    binary hmac = (256 * (256 * (256 * byte 0 + byte 1) + byte 2) + byte 3) % 2 ^ 31 := by
  have hlow : ∀ a b c d : ℕ, b < 2 ^ 8 → c < 2 ^ 8 → d < 2 ^ 8 →
      (a % 2 ^ 7) <<< 24 ||| b <<< 16 ||| c <<< 8 ||| d =
        (256 * (256 * (256 * a + b) + c) + d) % 2 ^ 31 := by
    intro a b c d hb hc hd
    have hjoin : ∀ x y k : ℕ, y < 2 ^ 8 → x <<< (k + 8) ||| y <<< k = (x <<< 8 + y) <<< k := by
      intro x y k hy
      rw [Nat.shiftLeft_add_eq_or_of_lt hy, Nat.shiftLeft_or_distrib, ← Nat.shiftLeft_add,
        Nat.add_comm 8]
    rw [hjoin _ b 16 hb, hjoin _ c 8 hc, ← Nat.shiftLeft_add_eq_or_of_lt hd]
    simp only [Nat.shiftLeft_eq]
    omega
  have hmask : ∀ n : ℕ, n &&& 0x0f = n % 16 := fun n => Nat.and_two_pow_sub_one_eq_mod n 4
  have hsign : ∀ n : ℕ, n &&& 0x7f = n % 2 ^ 7 := fun n => Nat.and_two_pow_sub_one_eq_mod n 7
  unfold binary
  simp only [hmask, hsign]
  exact hlow _ _ _ _ (UInt8.toNat_lt _) (UInt8.toNat_lt _) (UInt8.toNat_lt _)

theorem hotp_eq (env : TotpEnv) (secret : List UInt8) {counter : ℕ} (hcounter : counter < 2 ^ 64)
    (digits : ℕ) : hotp env secret counter digits = .ok (rfc4226 env secret counter digits) := by
  have hrange : (0 : ℤ) ≤ counter ∧ (counter : ℤ) < 2 ^ 64 := by
    constructor <;> omega
  unfold hotp rfc4226
  rw [if_pos hrange, Int.toNat_natCast, words_eq_bigEndian]
  simp only [binary_eq]

/-! ## Which codes are accepted -/

theorem padStart_spec {digits n : ℕ} (hdigits : 0 < digits) (hn : n < 10 ^ digits) :
    (padStart digits n).length = digits ∧ (padStart digits n).all Char.isDigit = true := by
  have hshort := (Nat.length_toDigits_le_iff (b := 10) (by decide) hdigits).2 hn
  constructor
  · rw [padStart, length_leftpad]
    omega
  · simp only [padStart, List.leftpad, all_append, all_replicate, Bool.and_eq_true,
      all_eq_true]
    refine ⟨?_, fun c hc => Nat.isDigit_of_mem_toDigits (by decide) (by decide) hc⟩
    split_ifs <;> rfl

theorem anyM_ok {α : Type} {p : α → Except String Bool} {q : α → Bool} : ∀ {list : List α},
    (∀ a ∈ list, p a = .ok (q a)) → list.anyM p = .ok (list.any q)
  | [], _ => rfl
  | a :: rest, hall => by
      have hrest := anyM_ok fun b hb => hall b (mem_cons_of_mem _ hb)
      rw [List.anyM, hall a (mem_cons_self ..), any_cons]
      cases q a with
      | true => rfl
      | false => exact hrest

/-- For a secret in any of its spellings and a time whose window has counters, where doubles count
and divide exactly, the code is the one of the RFC, and a candidate is accepted exactly if without
its white space it is the code of one of the counters in the window. -/
def CodesRight (env : TotpEnv) : Prop :=
  ∀ (secret : List UInt8) (text : List Char) (padding step digits window : ℕ) (atMs : ℤ),
    Spelt (base32Encode secret) text → 0 < step → 0 < digits → atMs < 2 ^ 52 →
    window ≤ counterAt atMs step → counterAt atMs step + window < 2 ^ 53 →
    let secretBase32 := text ++ List.replicate padding '='
    generateTotp env secretBase32 atMs step digits =
        .ok (rfc4226 env secret (counterAt atMs step).toNat digits) ∧
      ∀ candidate, ∃ accepted,
        verifyTotp env secretBase32 candidate atMs step digits window = .ok accepted ∧
        (accepted = true ↔ ∃ counter : ℕ, |counter - counterAt atMs step| ≤ window ∧
          rfc4226 env secret counter digits = candidate.filter fun c => !isSpace c)

theorem totp_codesRight (env : TotpEnv) : CodesRight env := by
  intro secret text padding step digits window atMs hspelt _ hdigits _ hearly hlate secretBase32
  have hsecret : base32Decode env.special secretBase32 = pure secret :=
    base32Decode_spelt env.special secret hspelt padding
  obtain ⟨base, hbase⟩ : ∃ base : ℕ, counterAt atMs step = base :=
    Int.eq_ofNat_of_zero_le ((Int.natCast_nonneg window).trans hearly)
  rw [hbase] at hearly hlate
  simp only [generateTotp, verifyTotp, hsecret, pure_bind, hbase]
  rw [hotp_eq env secret (by omega)]
  refine ⟨rfl, fun candidate => ?_⟩
  generalize candidate.filter (fun c => !isSpace c) = normalized
  by_cases hrefused : normalized = [] ∨ ¬ normalized.all Char.isDigit ∨ normalized.length ≠ digits
  · refine ⟨false, if_pos hrefused, iff_of_false nofun ?_⟩
    rintro ⟨counter, -, rfl⟩
    obtain ⟨hlength, hall⟩ := padStart_spec hdigits (Nat.mod_lt _ (Nat.pow_pos (by decide)))
    rcases hrefused with hempty | hother | hother
    · exact hdigits.ne' (hlength.symm.trans (congrArg List.length hempty))
    · exact hother hall
    · exact hother hlength
  · refine ⟨_, (if_neg hrefused).trans (anyM_ok (q := fun i =>
      rfc4226 env secret (base + i - window) digits = normalized) ?_), ?_⟩
    · intro i hi
      have hcounter : (base : ℤ) + (i - window) = (base + i - window : ℕ) := by omega
      have hrange := mem_range.1 hi
      simp only [hcounter]
      rw [hotp_eq env secret (by omega)]
      rfl
    · rw [any_eq_true]
      constructor
      · rintro ⟨i, hi, hsame⟩
        have hrange := mem_range.1 hi
        exact ⟨base + i - window, by rw [abs_le]; omega, of_decide_eq_true hsame⟩
      · rintro ⟨counter, hnear, hsame⟩
        rw [abs_le] at hnear
        have hindex : base + (counter + window - base) - window = counter := by omega
        exact ⟨counter + window - base, mem_range.2 (by omega),
          decide_eq_true (hindex.symm ▸ hsame)⟩

end SafariLaundry.Totp
