import Mathlib

/-!
# JSON values and their text

A value is written without white space, the members of an object in the order in which
they stand.  A column of binary JSON gives back an equal value: the same members, in an
order of its own.
-/

namespace Library

open List

/-- A number stands for itself by its shortest text. -/
inductive Json
  | null
  | bool (value : Bool)
  | number (text : String)
  | string (value : String)
  | array (items : List Json)
  | object (members : List (String × Json))

namespace Json

def hexDigit (n : ℕ) : Char := Char.ofNat (if n < 10 then 48 + n else 87 + n)

/-- A character inside a string literal. -/
def escape (c : Char) : String :=
  match c.toNat with
  | 8 => "\\b"
  | 9 => "\\t"
  | 10 => "\\n"
  | 12 => "\\f"
  | 13 => "\\r"
  | 34 => "\\\""
  | 92 => "\\\\"
  | n =>
      if n < 32 then
        "\\u00" ++ String.ofList [hexDigit (n / 16), hexDigit (n % 16)]
      else c.toString

def quote (value : String) : String :=
  "\"" ++ String.join (value.toList.map escape) ++ "\""

mutual

def stringify : Json → String
  | null => "null"
  | bool value => if value then "true" else "false"
  | number text => text
  | string value => quote value
  | array items => "[" ++ String.intercalate "," (stringifyItems items) ++ "]"
  | object members => "\x7b" ++ String.intercalate "," (stringifyMembers members) ++ "\x7d"

def stringifyItems : List Json → List String
  | [] => []
  | item :: rest => stringify item :: stringifyItems rest

def stringifyMembers : List (String × Json) → List String
  | [] => []
  | (name, value) :: rest => (quote name ++ ":" ++ stringify value) :: stringifyMembers rest

end

theorem stringifyItems_eq (items : List Json) : stringifyItems items = items.map stringify := by
  induction items with
  | nil => rfl
  | cons item rest ih => rw [stringifyItems, ih, map_cons]

def memberText (member : String × Json) : String :=
  quote member.1 ++ ":" ++ stringify member.2

theorem stringifyMembers_eq (members : List (String × Json)) :
    stringifyMembers members = members.map memberText := by
  induction members with
  | nil => rfl
  | cons member rest ih =>
      rw [stringifyMembers, ih, map_cons]
      rfl

theorem length_intercalate (texts : List String) :
    (",".intercalate texts).length + min texts.length 1 =
      (texts.map fun text => text.length + 1).sum := by
  induction texts with
  | nil => simp
  | cons text rest ih =>
      cases rest with
      | nil => simp
      | cons next rest =>
          have hcomma : ("," : String).length = 1 := by decide
          rw [String.intercalate_cons_cons, map_cons, sum_cons, ← ih]
          simp only [String.length_append, hcomma, length_cons]
          omega

theorem length_memberText_pos (member : String × Json) : 0 < (memberText member).length := by
  have hcolon : (":" : String).length = 1 := by decide
  simp only [memberText, String.length_append, hcolon]
  omega

theorem length_stringify_array (items : List Json) :
    (stringify (.array items)).length + min items.length 1 =
      2 + (items.map fun item => (stringify item).length + 1).sum := by
  have hlength := length_intercalate (items.map stringify)
  have hopen : ("[" : String).length = 1 := by decide
  have hclose : ("]" : String).length = 1 := by decide
  rw [length_map, map_map] at hlength
  rw [stringify, stringifyItems_eq, String.length_append, String.length_append, hopen, hclose]
  change _ = (items.map fun item => (stringify item).length + 1).sum at hlength
  omega

theorem length_stringify_object (members : List (String × Json)) :
    (stringify (.object members)).length + min members.length 1 =
      2 + (members.map fun member => (memberText member).length + 1).sum := by
  have hlength := length_intercalate (members.map memberText)
  have hopen : ("\x7b" : String).length = 1 := by decide
  have hclose : ("\x7d" : String).length = 1 := by decide
  rw [length_map, map_map] at hlength
  rw [stringify, stringifyMembers_eq, String.length_append, String.length_append, hopen, hclose]
  change _ = (members.map fun member => (memberText member).length + 1).sum at hlength
  omega

/-- The same value up to the order of members. -/
inductive Same : Json → Json → Prop
  | refl (value : Json) : Same value value
  | array {items items' : List Json} (hitems : List.Forall₂ Same items items') :
      Same (.array items) (.array items')
  | object {members ordered members' : List (String × Json)}
      (hnames : ordered.map Prod.fst = members.map Prod.fst)
      (hvalues : List.Forall₂ Same (members.map Prod.snd) (ordered.map Prod.snd))
      (hperm : ordered.Perm members') :
      Same (.object members) (.object members')

/-- A column that keeps values, not texts. -/
structure Column where
  returned : Json → Json
  returned_same : ∀ value, Same value (returned value)

/-- A column that keeps the order of members too. -/
def Column.ordered : Column := ⟨id, Same.refl⟩

/-- Short names first, equally long ones by their bytes. -/
def nameKey (member : String × Json) : ℕ ×ₗ String := toLex (member.1.utf8ByteSize, member.1)

def NameFirst (first second : String × Json) : Prop := nameKey first ≤ nameKey second
  deriving Decidable

instance : Std.Total NameFirst := ⟨fun first second => le_total (nameKey first) (nameKey second)⟩

instance : IsTrans (String × Json) NameFirst := ⟨fun _ _ _ hfirst hsecond => hfirst.trans hsecond⟩

mutual

/-- What PostgreSQL keeps of a value in a column of type `jsonb`. -/
def binary : Json → Json
  | array items => array (binaryItems items)
  | object members => object ((binaryMembers members).insertionSort NameFirst)
  | value => value

def binaryItems : List Json → List Json
  | [] => []
  | item :: rest => binary item :: binaryItems rest

def binaryMembers : List (String × Json) → List (String × Json)
  | [] => []
  | (name, value) :: rest => (name, binary value) :: binaryMembers rest

end

theorem names_binaryMembers (members : List (String × Json)) :
    (binaryMembers members).map Prod.fst = members.map Prod.fst := by
  induction members with
  | nil => rfl
  | cons member rest ih => rw [binaryMembers, map_cons, map_cons, ih]

mutual

theorem same_binary : ∀ value : Json, Same value (binary value)
  | .null => .refl _
  | .bool _ => .refl _
  | .number _ => .refl _
  | .string _ => .refl _
  | .array items => by
      rw [binary]
      exact .array (same_binaryItems items)
  | .object members => by
      rw [binary]
      exact .object (names_binaryMembers members) (same_binaryMembers members)
        (perm_insertionSort _ _).symm

theorem same_binaryItems : ∀ items : List Json, List.Forall₂ Same items (binaryItems items)
  | [] => .nil
  | item :: rest => .cons (same_binary item) (same_binaryItems rest)

theorem same_binaryMembers : ∀ members : List (String × Json),
    List.Forall₂ Same (members.map Prod.snd) ((binaryMembers members).map Prod.snd)
  | [] => .nil
  | (_, value) :: rest => .cons (same_binary value) (same_binaryMembers rest)

end

def Column.jsonb : Column := ⟨binary, same_binary⟩

theorem toList_stringify_object (name : String) (value : Json) (rest : List (String × Json)) :
    ∃ tail, (stringify (.object ((name, value) :: rest))).toList =
      '{' :: (quote name).toList ++ tail := by
  have hfirst : ∃ tail, String.intercalate "," (stringifyMembers ((name, value) :: rest)) =
      quote name ++ tail := by
    rw [stringifyMembers]
    cases stringifyMembers rest with
    | nil =>
        refine ⟨":" ++ stringify value, ?_⟩
        rw [String.intercalate_singleton, String.append_assoc]
    | cons next texts =>
        refine ⟨":" ++ stringify value ++ "," ++ String.intercalate "," (next :: texts), ?_⟩
        rw [String.intercalate_cons_cons]
        simp only [String.append_assoc]
  obtain ⟨tail, hmembers⟩ := hfirst
  refine ⟨tail.toList ++ "\x7d".toList, ?_⟩
  rw [stringify, hmembers]
  simp only [String.toList_append, append_assoc]
  rfl

/-- The first member is one with a name as short as any. -/
theorem exists_binary_object {members : List (String × Json)} {member : String × Json}
    (hmember : member ∈ members) :
    ∃ name value rest, binary (.object members) = .object ((name, value) :: rest) ∧
      name ∈ members.map Prod.fst ∧ name.utf8ByteSize ≤ member.1.utf8ByteSize := by
  have hnamed : member.1 ∈ (binaryMembers members).map Prod.fst := by
    rw [names_binaryMembers]
    exact mem_map_of_mem hmember
  obtain ⟨kept, hkept, hname⟩ := mem_map.1 hnamed
  have hsorted := pairwise_insertionSort NameFirst (binaryMembers members)
  have hperm := perm_insertionSort NameFirst (binaryMembers members)
  rw [binary]
  cases hlisted : (binaryMembers members).insertionSort NameFirst with
  | nil =>
      rw [hlisted] at hperm
      rw [← hperm.mem_iff] at hkept
      cases hkept
  | cons head rest =>
      rw [hlisted] at hsorted hperm
      have hhead : head.1 ∈ members.map Prod.fst := by
        rw [← names_binaryMembers]
        exact mem_map_of_mem (hperm.mem_iff.1 (mem_cons_self ..))
      refine ⟨head.1, head.2, rest, rfl, hhead, ?_⟩
      rcases mem_cons.1 (hperm.mem_iff.2 hkept) with rfl | hlater
      · exact hname ▸ le_rfl
      · have hfirst : nameKey head ≤ nameKey kept := (pairwise_cons.1 hsorted).1 kept hlater
        rw [← hname]
        exact (Prod.Lex.le_iff.1 hfirst).elim le_of_lt fun hequal => hequal.1.le

example : stringify (.object [("a", .array [.number "1", .null]), ("b", .string "\n\"")]) =
    "\x7b\"a\":[1,null],\"b\":\"\\n\\\"\"\x7d" := by
  decide +kernel

end Json

end Library
