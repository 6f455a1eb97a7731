import SafariLaundry.Fixed4
import SafariLaundry.Library.Decimal

/-!
# Numbers and their texts

`Number`, `parseFloat` and `toFixed` of the language, with exact decimals for its numbers.
-/

namespace SafariLaundry

open Library

def hexValue (c : Char) : ℕ :=
  if c.isDigit then c.toNat - '0'.toNat
  else if 'a' ≤ c then c.toNat - 'a'.toNat + 10
  else c.toNat - 'A'.toNat + 10

def radixLiteral (base : ℕ) (digits : List Char) : Option ℚ :=
  if digits ≠ [] ∧ digits.all fun c => isHexDigit c && decide (hexValue c < base) then
    some (digits.foldl (fun n c => n * base + hexValue c) 0 : ℕ)
  else none

def exponentLiteral (text : List Char) : Option ℤ :=
  let negative := text.head? = some '-'
  let digits := if negative ∨ text.head? = some '+' then text.tail else text
  if digits = [] then none
  else (bigIntOfDigits digits).map fun n => if negative then -n else n

def decimalLiteral (text : List Char) : Option ℚ := do
  let mantissa := text.takeWhile fun c => c ≠ 'e' && c ≠ 'E'
  let whole := mantissa.takeWhile fun c => c ≠ '.'
  let frac := (mantissa.dropWhile fun c => c ≠ '.').drop 1
  let n ← if whole ++ frac = [] then none else bigIntOfDigits (whole ++ frac)
  let exponent ← match text.dropWhile fun c => c ≠ 'e' && c ≠ 'E' with
    | [] => some 0
    | _ :: rest => exponentLiteral rest
  return n * (10 : ℚ) ^ (exponent - frac.length)

def numberLimit : ℚ := 2 ^ 1024 - 2 ^ 970

def numberOf (text : String) : Option ℚ :=
  let value := match trimText text.toList with
    | [] => some 0
    | '0' :: 'x' :: digits | '0' :: 'X' :: digits => radixLiteral 16 digits
    | '0' :: 'o' :: digits | '0' :: 'O' :: digits => radixLiteral 8 digits
    | '0' :: 'b' :: digits | '0' :: 'B' :: digits => radixLiteral 2 digits
    | '-' :: rest => (decimalLiteral rest).map fun n => -n
    | '+' :: rest => decimalLiteral rest
    | rest => decimalLiteral rest
  value.filter fun n => |n| < numberLimit

def exponentPrefix (text : List Char) : ℤ :=
  if text.head? = some 'e' ∨ text.head? = some 'E' then
    let negative := text.tail.head? = some '-'
    let unsigned := if negative ∨ text.tail.head? = some '+' then text.tail.tail else text.tail
    let n : ℤ := Nat.ofDigitChars 10 (unsigned.takeWhile Char.isDigit) 0
    if negative then -n else n
  else 0

def decimalPrefix (text : List Char) : Option ℚ :=
  let whole := text.takeWhile Char.isDigit
  let afterWhole := text.dropWhile Char.isDigit
  let pointed := afterWhole.head? = some '.'
  let frac := if pointed then afterWhole.tail.takeWhile Char.isDigit else []
  let rest := if pointed then afterWhole.tail.dropWhile Char.isDigit else afterWhole
  if whole ++ frac = [] then none
  else
    some ((Nat.ofDigitChars 10 (whole ++ frac) 0 : ℕ) *
      (10 : ℚ) ^ (exponentPrefix rest - frac.length))

def parseFloatOf (text : String) : Option ℚ :=
  let value := match text.toList.dropWhile isSpace with
    | '-' :: rest => (decimalPrefix rest).map fun n => -n
    | '+' :: rest => decimalPrefix rest
    | rest => decimalPrefix rest
  value.filter fun n => |n| < numberLimit

/-- With one place at least; the sign is that of the number before it is rounded. -/
def toFixed (places : ℕ) (n : ℚ) : String :=
  let scaled := (Decimal.roundHalfAway (|n| * 10 ^ places)).natAbs
  String.ofList
    ((if n < 0 then ['-'] else []) ++ Nat.toDigits 10 (scaled / 10 ^ places) ++
      '.' :: (Nat.toDigits 10 (scaled % 10 ^ places)).leftpad places '0')

end SafariLaundry
