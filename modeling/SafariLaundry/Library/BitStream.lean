import Mathlib

/-!
# Streams of bits

A digit of some width is a list of bits, the most significant first, and a list of digits is the
stream of theirs.  A queue holds the bits of a stream that make no whole digit yet in the low bits
of a word of 32; what stands above them is never masked.
-/

namespace Library.BitStream

open List

def bits : ℕ → ℕ → List Bool
  | 0, _ => []
  | width + 1, digit => bits width (digit / 2) ++ [decide (digit % 2 = 1)]

def number (stream : List Bool) : ℕ :=
  stream.foldl (fun n bit => 2 * n + bit.toNat) 0

/-- The digits of so many groups at the front of a stream. -/
def cut (width : ℕ) : ℕ → List Bool → List ℕ
  | 0, _ => []
  | count + 1, stream => number (stream.take width) :: cut width count (stream.drop width)

@[simp] theorem length_bits (width digit : ℕ) : (bits width digit).length = width := by
  induction width generalizing digit with
  | zero => rfl
  | succ width ih => simp [bits, ih]

@[simp] theorem number_nil : number [] = 0 := rfl

theorem number_concat (stream : List Bool) (bit : Bool) :
    number (stream ++ [bit]) = 2 * number stream + bit.toNat := by
  simp [number]

theorem number_append (first second : List Bool) :
    number (first ++ second) = number first * 2 ^ second.length + number second := by
  induction second using List.reverseRecOn with
  | nil => simp
  | append_singleton second bit ih =>
      rw [← append_assoc, number_concat, number_concat, ih, length_append,
        length_singleton]
      ring

theorem number_lt (stream : List Bool) : number stream < 2 ^ stream.length := by
  induction stream using List.reverseRecOn with
  | nil => simp
  | append_singleton stream bit ih =>
      have hbit := bit.toNat_le
      rw [number_concat, length_append, length_singleton, pow_succ]
      omega

variable {width : ℕ} {digits : List ℕ} {value : BitVec 32} {stream : List Bool}

theorem number_bits {digit : ℕ} (hdigit : digit < 2 ^ width) :
    number (bits width digit) = digit := by
  induction width generalizing digit with
  | zero =>
      rw [pow_zero] at hdigit
      exact (Nat.lt_one_iff.1 hdigit).symm
  | succ width ih =>
      rw [pow_succ] at hdigit
      rw [bits, number_concat, ih (by omega)]
      rcases Nat.mod_two_eq_zero_or_one digit with hbit | hbit
      · simp [hbit]
        omega
      · simp [hbit]
        omega

theorem bits_number (stream : List Bool) : bits stream.length (number stream) = stream := by
  induction stream using List.reverseRecOn with
  | nil => rfl
  | append_singleton stream bit ih =>
      rw [length_append, length_singleton, bits, number_concat]
      cases bit with
      | false =>
          simp only [Bool.toNat_false, add_zero]
          rw [Nat.mul_div_cancel_left _ (by decide), ih]
          simp
      | true =>
          simp only [Bool.toNat_true]
          rw [show (2 * number stream + 1) / 2 = number stream by omega, ih]
          simp

theorem length_flatMap_bits (width : ℕ) (digits : List ℕ) :
    (digits.flatMap (bits width)).length = width * digits.length := by
  induction digits with
  | nil => rfl
  | cons digit rest ih =>
      rw [flatMap_cons, length_append, length_bits, ih, length_cons]
      ring

theorem cut_flatMap_bits (hdigits : ∀ digit ∈ digits, digit < 2 ^ width) :
    cut width digits.length (digits.flatMap (bits width)) = digits := by
  induction digits with
  | nil => rfl
  | cons digit rest ih =>
      rw [length_cons, cut, flatMap_cons, take_left' (length_bits ..),
        drop_left' (length_bits ..), number_bits (hdigits digit (mem_cons_self ..)),
        ih fun other hother => hdigits other (mem_cons_of_mem digit hother)]

theorem digits_unique {digits' : List ℕ} {rest rest' : List Bool}
    (hdigits : ∀ digit ∈ digits, digit < 2 ^ width)
    (hdigits' : ∀ digit ∈ digits', digit < 2 ^ width) (hrest : rest.length < width)
    (hrest' : rest'.length < width)
    (hsame : digits.flatMap (bits width) ++ rest = digits'.flatMap (bits width) ++ rest') :
    digits = digits' := by
  have htotal := congrArg List.length hsame
  rw [length_append, length_append, length_flatMap_bits, length_flatMap_bits] at htotal
  have hlength : digits.length = digits'.length := by
    have hquotient : ∀ n r : ℕ, r < width → (width * n + r) / width = n := by
      intro n r hr
      rw [Nat.mul_add_div (by omega), Nat.div_eq_of_lt hr, add_zero]
    calc
      digits.length = (width * digits.length + rest.length) / width := (hquotient _ _ hrest).symm
      _ = digits'.length := by rw [htotal, hquotient _ _ hrest']
  have hfront : digits.flatMap (bits width) = digits'.flatMap (bits width) :=
    append_inj_left hsame (by rw [length_flatMap_bits, length_flatMap_bits, hlength])
  rw [← cut_flatMap_bits hdigits, ← cut_flatMap_bits hdigits', hfront, hlength]

/-- The low bits of the word are these. -/
def Holds (value : BitVec 32) (pending : List Bool) : Prop :=
  value.toNat % 2 ^ pending.length = number pending

theorem holds_nil (value : BitVec 32) : Holds value [] := by
  simp [Holds, Nat.mod_one]

theorem Holds.push {pending : List Bool} (hholds : Holds value pending) {digit : ℕ}
    (hdigit : digit < 2 ^ width) (hroom : pending.length + width ≤ 32) :
    Holds (value <<< width ||| BitVec.ofNat 32 digit) (pending ++ bits width digit) := by
  have hwide : 2 ^ width ≤ 2 ^ 32 := Nat.pow_le_pow_right (by decide) (by omega)
  have hmod : digit % 2 ^ 32 = digit := Nat.mod_eq_of_lt (hdigit.trans_le hwide)
  have hsplit : value.toNat <<< width % 2 ^ 32 = value.toNat % 2 ^ (32 - width) * 2 ^ width := by
    rw [Nat.shiftLeft_eq, ← Nat.mul_mod_mul_right, ← pow_add, Nat.sub_add_cancel (by omega)]
  have hsum : (value <<< width ||| BitVec.ofNat 32 digit).toNat =
      value.toNat % 2 ^ (32 - width) * 2 ^ width + digit := by
    rw [BitVec.toNat_or, BitVec.toNat_shiftLeft, BitVec.toNat_ofNat, hmod, hsplit,
      ← Nat.shiftLeft_eq, Nat.shiftLeft_add_eq_or_of_lt hdigit]
  have hdvd : 2 ^ pending.length ∣ 2 ^ (32 - width) := pow_dvd_pow 2 (by omega)
  have hlow : value.toNat % 2 ^ (32 - width) % 2 ^ pending.length = number pending := by
    rw [Nat.mod_mod_of_dvd _ hdvd]
    exact hholds
  unfold Holds
  rw [hsum, number_append, length_bits, number_bits hdigit, length_append, length_bits, ← hlow,
    Nat.add_comm pending.length, pow_add, Nat.mod_mul, Nat.mul_add_mod_of_lt hdigit,
    Nat.mul_comm _ (2 ^ width), Nat.mul_add_div (by positivity), Nat.div_eq_of_lt hdigit, add_zero]
  ring

theorem Holds.rest {front rest : List Bool} (hholds : Holds value (front ++ rest)) :
    Holds value rest := by
  have hdvd : 2 ^ rest.length ∣ 2 ^ (front ++ rest).length := pow_dvd_pow 2 (by simp)
  unfold Holds at *
  rw [← Nat.mod_mod_of_dvd _ hdvd, hholds, number_append, Nat.mul_add_mod_of_lt (number_lt rest)]

theorem Holds.front {front rest : List Bool} (hholds : Holds value (front ++ rest)) :
    value.toNat / 2 ^ rest.length % 2 ^ front.length = number front := by
  have hwhole : value.toNat % (2 ^ rest.length * 2 ^ front.length) =
      number front * 2 ^ rest.length + number rest := by
    rw [← pow_add, Nat.add_comm, ← length_append, ← number_append]
    exact hholds
  rw [← Nat.mod_mul_right_div_self, hwhole, Nat.mul_comm, Nat.mul_add_div (by positivity),
    Nat.div_eq_of_lt (number_lt rest), add_zero]

theorem bits_zero (width : ℕ) : bits width 0 = List.replicate width false := by
  induction width with
  | zero => rfl
  | succ width ih => simp [bits, ih, replicate_succ']

/-- The digits so far and the bits in the queue are the stream. -/
structure Queued (width : ℕ) (stream : List Bool) (digits : List ℕ) (value : BitVec 32)
    (count : ℕ) : Prop where
  small : ∀ digit ∈ digits, digit < 2 ^ width
  split : ∃ pending, digits.flatMap (bits width) ++ pending = stream ∧ pending.length = count ∧
    Holds value pending

theorem Queued.start (width : ℕ) : Queued width [] [] 0 0 where
  small := by simp
  split := ⟨[], rfl, rfl, holds_nil 0⟩

theorem Queued.length_eq {count : ℕ} (hqueued : Queued width stream digits value count) :
    stream.length = width * digits.length + count := by
  obtain ⟨pending, hstream, hcount, -⟩ := hqueued.split
  rw [← hstream, length_append, length_flatMap_bits, hcount]

theorem Queued.push {count : ℕ} (hqueued : Queued width stream digits value count) {next digit : ℕ}
    (hdigit : digit < 2 ^ next) (hroom : count + next ≤ 32) :
    Queued width (stream ++ bits next digit) digits (value <<< next ||| BitVec.ofNat 32 digit)
      (count + next) where
  small := hqueued.small
  split := by
    obtain ⟨pending, hstream, hcount, hholds⟩ := hqueued.split
    subst hcount
    exact ⟨pending ++ bits next digit, by rw [← append_assoc, hstream], by simp,
      hholds.push hdigit hroom⟩

theorem Queued.pop {count : ℕ} (hqueued : Queued width stream digits value count)
    (hcount : width ≤ count) :
    Queued width stream (digits ++ [value.toNat / 2 ^ (count - width) % 2 ^ width]) value
      (count - width) := by
  obtain ⟨pending, hstream, hpending, hholds⟩ := hqueued.split
  have hlong : width ≤ pending.length := by omega
  have hfront : (pending.take width).length = width := by simp [hlong]
  have hrest : (pending.drop width).length = count - width := by simp [hpending]
  rw [← take_append_drop width pending] at hholds
  have hdigit : value.toNat / 2 ^ (count - width) % 2 ^ width = number (pending.take width) := by
    have hshifted := hholds.front
    rwa [hfront, hrest] at hshifted
  have hbits : bits width (number (pending.take width)) = pending.take width := by
    have hwhole := bits_number (pending.take width)
    rwa [hfront] at hwhole
  refine ⟨?_, pending.drop width, ?_, hrest, hholds.rest⟩
  · intro digit hmem
    rcases mem_append.1 hmem with hold | hnew
    · exact hqueued.small digit hold
    · rw [mem_singleton.1 hnew]
      exact Nat.mod_lt _ (by positivity)
  · rw [hdigit, flatMap_append, flatMap_singleton, hbits, append_assoc,
      take_append_drop, hstream]

theorem Queued.digits_eq {digits' : List ℕ} {rest : List Bool} {count : ℕ}
    (hqueued : Queued width (digits'.flatMap (bits width) ++ rest) digits value count)
    (hcount : count < width) (hdigits' : ∀ digit ∈ digits', digit < 2 ^ width)
    (hrest : rest.length < width) : digits = digits' := by
  obtain ⟨pending, hstream, hpending, -⟩ := hqueued.split
  exact digits_unique hqueued.small hdigits' (by omega) hrest hstream

theorem Queued.digits_eq_cut (hwidth : 0 < width) (hqueued : Queued width stream digits value 0) :
    digits = cut width (stream.length / width) stream := by
  obtain ⟨pending, hstream, hpending, -⟩ := hqueued.split
  rw [eq_nil_of_length_eq_zero hpending, append_nil] at hstream
  subst hstream
  rw [length_flatMap_bits, Nat.mul_div_cancel_left _ hwidth, cut_flatMap_bits hqueued.small]

end Library.BitStream
