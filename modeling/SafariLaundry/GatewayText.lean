import SafariLaundry.Domain

/-!
# The texts of the payment gateway

Inquiry ids, order ids and result words arrive as free text.  Each test of the
source on such a text is a function here, on the characters of the text; a
regular expression becomes the recursion that looks for its leftmost match.
-/

namespace SafariLaundry

/-- What `trim` removes and `\s` matches. -/
def isSpace (c : Char) : Bool :=
  c.val ∈ [0x09, 0x0A, 0x0B, 0x0C, 0x0D, 0x20, 0xA0, 0x1680, 0x2000, 0x2001, 0x2002,
    0x2003, 0x2004, 0x2005, 0x2006, 0x2007, 0x2008, 0x2009, 0x200A, 0x2028, 0x2029,
    0x202F, 0x205F, 0x3000, 0xFEFF]

def isHexDigit (c : Char) : Bool :=
  c.isDigit || ('a' ≤ c && c ≤ 'f') || ('A' ≤ c && c ≤ 'F')

/-- `\w`. -/
def isWordChar (c : Char) : Bool :=
  c.isAlphanum || c == '_'

/-- The characters outside ASCII whose lower case has an ASCII letter in it are
the Kelvin sign and the dotted capital I. -/
def lowerChar (c : Char) : List Char :=
  if c.val = 0x212A then ['k']
  else if c.val = 0x130 then ['i', Char.ofNat 0x307]
  else [c.toLower]

def lowerText (text : List Char) : List Char :=
  text.flatMap lowerChar

def trimText (text : List Char) : List Char :=
  (text.dropWhile isSpace).rdropWhile isSpace

def trim (text : String) : String :=
  String.ofList (trimText text.toList)

def trimmed (text : Option String) : Option String :=
  (text.map trim).filter fun s => s ≠ ""

def textLength (text : String) : ℕ :=
  (text.toList.map fun c => if c.val < 0x10000 then 1 else 2).sum

def dropLowerPrefix : List Char → List Char → Option (List Char)
  | [], text => some text
  | _ :: _, [] => none
  | expected :: rest, c :: text =>
      if lowerChar c = [expected] then dropLowerPrefix rest text else none

theorem val_of_isDigit {c : Char} (hc : c.isDigit = true) :
    48 ≤ c.val.toNat ∧ c.val.toNat ≤ 57 := by
  simpa [Char.isDigit, UInt32.le_iff_toNat_le] using hc

theorem isSpace_of_isDigit {c : Char} (hc : c.isDigit = true) : isSpace c = false := by
  have hrange := val_of_isDigit hc
  unfold isSpace
  apply decide_eq_false
  intro hmem
  simp only [List.mem_cons, List.not_mem_nil, or_false] at hmem
  rcases hmem with h | h | h | h | h | h | h | h | h | h | h | h | h | h | h | h | h | h | h | h |
    h | h | h | h | h <;> simp [h] at hrange

theorem textLength_of_digits {text : List Char} (hdigits : ∀ c ∈ text, c.isDigit = true) :
    textLength (String.ofList text) = text.length := by
  unfold textLength
  rw [String.toList_ofList]
  induction text with
  | nil => rfl
  | cons c text ih =>
      have hsmall : c.val < 0x10000 := by
        have hc := val_of_isDigit (hdigits c (List.mem_cons_self ..))
        rw [UInt32.lt_iff_toNat_lt]
        exact lt_of_le_of_lt hc.2 (by decide)
      have htail := ih fun d hd => hdigits d (List.mem_cons_of_mem _ hd)
      simp only [List.map_cons, List.sum_cons, hsmall, if_true, htail, List.length_cons]
      omega

def isValidInquiryId (raw : String) : Bool :=
  let id := trim raw
  5 ≤ textLength id && textLength id ≤ 128 && !"http".toList.isPrefixOf id.toList &&
    !"//".toList.isPrefixOf id.toList &&
    !(id.toList.all Char.isDigit && 32 < textLength id)

def isSessionId (id : String) : Bool :=
  id.toList.all Char.isDigit && 18 ≤ id.toList.length

def endsV2 (id : String) : Bool :=
  ['2', 'v'].isPrefixOf (lowerText id.toList).reverse

def orderUuidShape : List (Char → Bool) :=
  let hex := fun count => List.replicate count isHexDigit
  let oneOf := fun (set : String) (c : Char) => set.toList.contains c
  hex 8 ++ [oneOf "-"] ++ hex 4 ++ [oneOf "-"] ++ [oneOf "12345"] ++ hex 3 ++
    [oneOf "-"] ++ [oneOf "89abAB"] ++ hex 3 ++ [oneOf "-"] ++ hex 12

def matchesShape : List (Char → Bool) → List Char → Bool
  | [], [] => true
  | test :: shape, c :: text => test c && matchesShape shape text
  | _, _ => false

def isOrderUuid (id : String) : Bool :=
  matchesShape orderUuidShape id.toList

def parseSafariOrderUuid (raw : Option String) : Option Uuid :=
  (trimmed raw).filter fun id => isOrderUuid id

def hexRun (text : List Char) : Option Uuid :=
  let run := text.take 36
  if run.length = 36 ∧ run.all (fun c => isHexDigit c || c == '-') = true then
    some (String.ofList run)
  else none

/-- The leftmost match of `orderId=([0-9a-fA-F-]{36})`, with or without its case. -/
def searchOrderId (ignoreCase : Bool) : List Char → Option Uuid
  | [] => none
  | c :: text =>
      let rest :=
        if ignoreCase = true then dropLowerPrefix "orderid=".toList (c :: text)
        else if "orderId=".toList.isPrefixOf (c :: text) then some ((c :: text).drop 8)
        else none
      (rest.bind hexRun).orElse fun _ => searchOrderId ignoreCase text

def extractOrderIdFromExtraData (raw : Option String) : Option Uuid :=
  (raw.bind fun text => searchOrderId true text.toList).filter fun id => isOrderUuid id

def extractOrderIdFromUpaymentsExtraData (raw : Option String) : Option Uuid :=
  raw.bind fun text => searchOrderId false text.toList

def tryOrderIdFromUpaymentsCompactRef (raw : Option String) : Option Uuid :=
  (trimmed raw).bind fun text =>
    let noHyphen := text.toList.filter fun c => c != '-'
    let hex :=
      match noHyphen with
      | [] => []
      | c :: digits =>
          if c.isAlpha ∧ digits.length = 32 ∧ digits.all isHexDigit = true then digits
          else c :: digits
    if hex.length = 32 ∧ hex.all isHexDigit = true then
      let part := fun start count => (hex.drop start).take count
      parseSafariOrderUuid (some (String.ofList
        (part 0 8 ++ ['-'] ++ part 8 4 ++ ['-'] ++ part 12 4 ++ ['-'] ++ part 16 4 ++
          ['-'] ++ part 20 12)))
    else none

def wordHere (word text : List Char) : Bool :=
  word.isPrefixOf text && !((text.drop word.length).head?.any isWordChar)

/-- `/\bcaptured\b/`; the flag says that the previous character is a word character. -/
def mentionsCaptured : Bool → List Char → Bool
  | _, [] => false
  | inWord, c :: text =>
      (!inWord && wordHere "captured".toList (c :: text)) ||
        mentionsCaptured (isWordChar c) text

def deniedCapturedHere (text : List Char) : Bool :=
  ["not", "un", "de", "pre"].any fun denial =>
    denial.toList.isPrefixOf text &&
      wordHere "captured".toList ((text.drop denial.length).dropWhile isSpace)

/-- `/\b(not|un|de|pre)\s*captured\b/`. -/
def deniesCaptured : Bool → List Char → Bool
  | _, [] => false
  | inWord, c :: text =>
      (!inWord && deniedCapturedHere (c :: text)) || deniesCaptured (isWordChar c) text

def successWords : List String :=
  ["success", "paid", "completed", "captured", "authorized", "capture"]

def isSuccessStatus (status : String) : Bool :=
  let s := lowerText (trimText status.toList)
  let firstSegment := trimText (s.takeWhile fun c => c ∉ [',', ';', '|'])
  let head := firstSegment.takeWhile fun c => !isSpace c
  (successWords.any fun word => head == word.toList) ||
    (mentionsCaptured false s && !deniesCaptured false s)

example : isSuccessStatus " Captured; ref 7" = true := by decide +kernel

example : isSuccessStatus "not captured" = false := by decide +kernel

@[simp] theorem trimText_trimText (text : List Char) :
    trimText (trimText text) = trimText text := by
  have hleft : (trimText text).dropWhile isSpace = trimText text := by
    rw [List.dropWhile_eq_self_iff]
    intro hlength hspace
    have hprefix : trimText text <+: text.dropWhile isSpace := List.rdropWhile_prefix _ _
    have hfirst := (List.dropWhile_eq_self_iff.1
      (@List.dropWhile_idempotent _ isSpace text)) (hlength.trans_le hprefix.length_le)
    rw [← hprefix.getElem hlength] at hfirst
    exact hfirst hspace
  change ((trimText text).dropWhile isSpace).rdropWhile isSpace = _
  rw [hleft]
  exact List.rdropWhile_idempotent _ _

@[simp] theorem trim_trim (text : String) : trim (trim text) = trim text := by
  unfold trim
  rw [String.toList_ofList, trimText_trimText]

end SafariLaundry
