import SafariLaundry.CanonicalProjection
import SafariLaundry.Library.Json

/-!
# The canonical hash

A value is brought into a canonical form, its fields sorted by name, printed and hashed.  The
hash does not depend on the order of fields; a field that is left out changes the text even
where its value is `null`.
-/

namespace SafariLaundry

open Library List

inductive CanonicalValue
  | undefined
  | null
  | bool (value : Bool)
  | decimal (value : ℚ)
  | date (iso : String)
  | invalidDate
  | bigint (value : ℤ)
  | number (text : String)
  | nonFinite (text : String)
  | string (value : String)
  | array (items : List CanonicalValue)
  | object (members : List (String × CanonicalValue))

def utf16Units (c : Char) : List ℕ :=
  if c.toNat < 0x10000 then [c.toNat]
  else [0xD800 + (c.toNat - 0x10000) / 1024, 0xDC00 + (c.toNat - 0x10000) % 1024]

def unitsOf (text : String) : List ℕ := text.toList.flatMap utf16Units

/-- The order of `sort` on texts. -/
def NameBefore {α : Type} (first second : String × α) : Prop := unitsOf first.1 ≤ unitsOf second.1

instance {α : Type} : DecidableRel (@NameBefore α) := fun _ _ =>
  inferInstanceAs (Decidable (_ ≤ _))

def arrayIndex (name : String) : Option ℕ :=
  let index := Nat.ofDigitChars 10 name.toList 0
  if toString index = name ∧ index < 4294967295 then some index else none

def ownProperties (set : List (String × Json)) : List (String × Json) :=
  ((set.filter fun member => (arrayIndex member.1).isSome).insertionSort fun first second =>
      (arrayIndex first.1).getD 0 ≤ (arrayIndex second.1).getD 0) ++
    set.filter fun member => (arrayIndex member.1).isNone

/-- The object left by `out[key] = value` for each of the members: the key `__proto__` sets no
property. -/
def assigned (members : List (String × Json)) : Json :=
  .object (ownProperties (members.filter fun member => member.1 ≠ "__proto__"))

def collect {α : Type} : List (Except String α) → Except String (List α)
  | [] => .ok []
  | .error message :: _ => .error message
  | .ok value :: rest => (collect rest).map (value :: ·)

/-- The canonical values of the members in the order of their names. -/
def collectMembers (members : List (String × Except String Json)) :
    Except String (List (String × Json)) :=
  collect ((members.insertionSort NameBefore).map fun member => member.2.map (member.1, ·))

namespace CanonicalValue

mutual

def canonicalize : CanonicalValue → Except String Json
  | .undefined => .ok .null
  | .null => .ok .null
  | .decimal value => .ok (.string (toFixed4 value))
  | .date iso => .ok (.string iso)
  | .invalidDate => .error "Invalid time value"
  | .bigint value => .ok (.string (toString value))
  | .number text => .ok (.number text)
  | .nonFinite text =>
      .error ("canonicalJsonStringify: refusing to hash non-finite number " ++ text)
  | .array items => (collect (canonicalizeItems items)).map .array
  | .object members => (collectMembers (canonicalizeMembers members)).map assigned
  | .bool value => .ok (.bool value)
  | .string value => .ok (.string value)

def canonicalizeItems : List CanonicalValue → List (Except String Json)
  | [] => []
  | item :: rest => canonicalize item :: canonicalizeItems rest

def canonicalizeMembers :
    List (String × CanonicalValue) → List (String × Except String Json)
  | [] => []
  | (name, value) :: rest => (name, canonicalize value) :: canonicalizeMembers rest

end

end CanonicalValue

def canonicalJsonStringify (value : CanonicalValue) : Except String String :=
  value.canonicalize.map Json.stringify

/-- `sha256` is the digest of the text in UTF-8, in hexadecimal digits. -/
def canonicalHash (sha256 : String → String) (value : CanonicalValue) : Except String String :=
  (canonicalJsonStringify value).map sha256

namespace CanonicalValue

mutual

/-- The fields of a value, at every depth, but for those named `__proto__`. -/
def fieldCount : CanonicalValue → ℕ
  | .array items => itemsFieldCount items
  | .object members => membersFieldCount members
  | _ => 0

def itemsFieldCount : List CanonicalValue → ℕ
  | [] => 0
  | item :: rest => fieldCount item + itemsFieldCount rest

def membersFieldCount : List (String × CanonicalValue) → ℕ
  | [] => 0
  | (name, value) :: rest =>
      (if name = "__proto__" then 0 else 1 + fieldCount value) + membersFieldCount rest

end

def Absent (value : CanonicalValue) : Prop := value = .null ∨ value = .undefined

/-- One step between two values that stand for the same state: at some depth the fields of an
object are reordered, a field that is `null` or `undefined` is left out, or one of the two is
written for the other. -/
inductive Restates : CanonicalValue → CanonicalValue → Prop
  | absent {value value' : CanonicalValue} (habsent : value.Absent) (habsent' : value'.Absent) :
      Restates value value'
  | leaveOut {before after : List (String × CanonicalValue)} {name : String} {value : CanonicalValue}
      (hnames : ((before ++ (name, value) :: after).map Prod.fst).Nodup) (habsent : value.Absent) :
      Restates (.object (before ++ (name, value) :: after)) (.object (before ++ after))
  | reorder {members members' : List (String × CanonicalValue)}
      (hnames : (members.map Prod.fst).Nodup) (hperm : members.Perm members') :
      Restates (.object members) (.object members')
  | item {before after : List CanonicalValue} {value value' : CanonicalValue}
      (hstep : Restates value value') :
      Restates (.array (before ++ value :: after)) (.array (before ++ value' :: after))
  | member {before after : List (String × CanonicalValue)} {name : String}
      {value value' : CanonicalValue}
      (hnames : ((before ++ (name, value) :: after).map Prod.fst).Nodup)
      (hstep : Restates value value') :
      Restates (.object (before ++ (name, value) :: after))
        (.object (before ++ (name, value') :: after))

mutual

def refused : CanonicalValue → Bool
  | .invalidDate => true
  | .nonFinite _ => true
  | .array items => itemsRefused items
  | .object members => membersRefused members
  | _ => false

def itemsRefused : List CanonicalValue → Bool
  | [] => false
  | item :: rest => refused item || itemsRefused rest

def membersRefused : List (String × CanonicalValue) → Bool
  | [] => false
  | (_, value) :: rest => refused value || membersRefused rest

end

end CanonicalValue

theorem utf16Units_ne_nil (c : Char) : utf16Units c ≠ [] := by
  unfold utf16Units
  split <;> simp

theorem utf16Units_append_inj {c d : Char} {rest rest' : List ℕ}
    (hunits : utf16Units c ++ rest = utf16Units d ++ rest') : c = d ∧ rest = rest' := by
  have hc := c.valid
  have hd := d.valid
  have hvalue : c.toNat = d.toNat → c = d := fun h => Char.toNat_inj.1 h
  unfold utf16Units at hunits
  have hcNat : c.toNat < 0xD800 ∨ 0xDFFF < c.toNat ∧ c.toNat < 0x110000 := hc
  have hdNat : d.toNat < 0xD800 ∨ 0xDFFF < d.toNat ∧ d.toNat < 0x110000 := hd
  split_ifs at hunits with hcSmall hdSmall hdSmall
  · obtain ⟨hsame, hrest⟩ := List.cons.inj hunits
    exact ⟨hvalue hsame, hrest⟩
  · obtain ⟨hsame, _⟩ := List.cons.inj hunits
    omega
  · obtain ⟨hsame, _⟩ := List.cons.inj hunits
    omega
  · obtain ⟨hhigh, htail⟩ := List.cons.inj hunits
    obtain ⟨hlow, hrest⟩ := List.cons.inj htail
    exact ⟨hvalue (by omega), hrest⟩

theorem unitsOf_injective : Function.Injective unitsOf := by
  have hlists : ∀ first second : List Char, first.flatMap utf16Units = second.flatMap utf16Units →
      first = second := by
    intro first
    induction first with
    | nil =>
        intro second hunits
        cases second with
        | nil => rfl
        | cons c rest => exact absurd hunits.symm (by simp [utf16Units_ne_nil])
    | cons c rest ih =>
        intro second hunits
        cases second with
        | nil => exact absurd hunits (by simp [utf16Units_ne_nil])
        | cons d rest' =>
            obtain ⟨rfl, hrest⟩ := utf16Units_append_inj hunits
            rw [ih rest' hrest]
  intro first second hunits
  exact String.toList_injective (hlists _ _ hunits)

section Sorting

variable {α : Type}

instance : Std.Total (@NameBefore α) := ⟨fun first second => le_total (unitsOf first.1) (unitsOf second.1)⟩

instance : IsTrans (String × α) NameBefore := ⟨fun _ _ _ => le_trans⟩

theorem sorted_eq {members sorted : List (String × α)} (hnames : (members.map Prod.fst).Nodup)
    (hperm : sorted.Perm members) (hsorted : sorted.Pairwise NameBefore) :
    members.insertionSort NameBefore = sorted := by
  refine List.Perm.eq_of_pairwise ?_ (pairwise_insertionSort NameBefore members) hsorted
    ((perm_insertionSort _ _).trans hperm.symm)
  intro first second hfirst hsecond hbefore hafter
  have hname : first.1 = second.1 := unitsOf_injective (le_antisymm hbefore hafter)
  exact inj_on_of_nodup_map hnames ((mem_insertionSort _).1 hfirst)
    (hperm.subset hsecond) hname

theorem exists_place {before after : List (String × α)} {name : String} {value : α}
    (hnames : ((before ++ (name, value) :: after).map Prod.fst).Nodup) :
    ∃ low high, (before ++ (name, value) :: after).insertionSort NameBefore =
        low ++ (name, value) :: high ∧
      (before ++ after).insertionSort NameBefore = low ++ high ∧
      ∀ value', (before ++ (name, value') :: after).insertionSort NameBefore =
        low ++ (name, value') :: high := by
  obtain ⟨low, high, hplace⟩ := append_of_mem ((mem_insertionSort NameBefore).2
    (mem_append_right before (mem_cons_self (a := (name, value)) (l := after))))
  have hperm : (low ++ (name, value) :: high).Perm (before ++ (name, value) :: after) := by
    rw [← hplace]
    exact perm_insertionSort _ _
  have hpairs : (low ++ (name, value) :: high).Pairwise NameBefore := by
    rw [← hplace]
    exact pairwise_insertionSort _ _
  have hothers : (low ++ high).Perm (before ++ after) :=
    (perm_cons (name, value)).1 ((perm_middle.symm.trans hperm).trans perm_middle)
  refine ⟨low, high, hplace, sorted_eq ?_ hothers ?_, fun value' => sorted_eq ?_ ?_ ?_⟩
  · have hsub : (before ++ after).Sublist (before ++ (name, value) :: after) :=
      (List.Sublist.refl _).append (sublist_cons_self ..)
    exact hnames.sublist (hsub.map Prod.fst)
  · exact hpairs.sublist ((List.Sublist.refl _).append (sublist_cons_self ..))
  · simpa using hnames
  · exact (perm_middle.trans (hothers.cons _)).trans perm_middle.symm
  · rw [pairwise_append, pairwise_cons] at hpairs ⊢
    obtain ⟨hlow, ⟨hhead, hhigh⟩, hcross⟩ := hpairs
    refine ⟨hlow, ⟨hhead, hhigh⟩, fun first hfirst second hsecond => ?_⟩
    rcases mem_cons.1 hsecond with rfl | hsecond
    · exact hcross first hfirst (name, value) (mem_cons_self ..)
    · exact hcross first hfirst second (.tail _ hsecond)

end Sorting

/-! ## Canonical members -/

theorem collect_append {α : Type} (first second : List (Except String α)) :
    collect (first ++ second) =
      (collect first).bind fun values => (collect second).map (values ++ ·) := by
  induction first with
  | nil =>
      cases hsecond : collect second <;> simp [collect, hsecond, Except.bind, Except.map]
  | cons result rest ih =>
      cases result with
      | error message => rfl
      | ok value =>
          rw [cons_append, collect, ih, collect]
          cases hrest : collect rest with
          | error message => rfl
          | ok values =>
              cases hsecond : collect second <;> rfl

theorem ownProperties_perm (members : List (String × Json)) :
    (ownProperties members).Perm members := by
  unfold ownProperties
  refine ((perm_insertionSort _ _).append_right _).trans ?_
  simpa using filter_append_perm (fun member => (arrayIndex member.1).isSome) members

def width (json : Json) : ℕ := json.stringify.length

def memberWidth (member : String × Json) : ℕ := (Json.memberText member).length + 1

def Kept (member : String × Json) : Prop := member.1 ≠ "__proto__"
  deriving Decidable

theorem width_assigned (members : List (String × Json)) :
    width (assigned members) + min (members.filter Kept).length 1 =
      2 + ((members.filter Kept).map memberWidth).sum := by
  have hperm := ownProperties_perm (members.filter Kept)
  have hlength := Json.length_stringify_object (ownProperties (members.filter Kept))
  rw [hperm.length_eq] at hlength
  rw [← (hperm.map memberWidth).sum_eq]
  exact hlength

namespace CanonicalValue

theorem canonicalizeItems_eq (items : List CanonicalValue) :
    canonicalizeItems items = items.map canonicalize := by
  induction items with
  | nil => rfl
  | cons item rest ih => rw [canonicalizeItems, ih, map_cons]

theorem canonicalizeMembers_eq (members : List (String × CanonicalValue)) :
    canonicalizeMembers members = members.map fun member => (member.1, member.2.canonicalize) := by
  induction members with
  | nil => rfl
  | cons member rest ih => rw [canonicalizeMembers, ih, map_cons]

theorem itemsFieldCount_eq (items : List CanonicalValue) :
    itemsFieldCount items = (items.map fieldCount).sum := by
  induction items with
  | nil => rfl
  | cons item rest ih => rw [itemsFieldCount, ih, map_cons, sum_cons]

def weight (member : String × CanonicalValue) : ℕ :=
  if member.1 = "__proto__" then 0 else 1 + member.2.fieldCount

theorem membersFieldCount_eq (members : List (String × CanonicalValue)) :
    membersFieldCount members = (members.map weight).sum := by
  induction members with
  | nil => rfl
  | cons member rest ih =>
      rw [membersFieldCount, ih, map_cons, sum_cons]
      rfl

variable {value : CanonicalValue}

theorem Absent.canonicalize (habsent : value.Absent) :
    value.canonicalize = .ok .null := by
  rcases habsent with rfl | rfl <;> rfl

theorem Absent.fieldCount (habsent : value.Absent) :
    value.fieldCount = 0 := by
  rcases habsent with rfl | rfl <;> rfl

structure Narrows (first second : CanonicalValue) : Prop where
  count : second.fieldCount ≤ first.fieldCount
  failure : ∀ message, first.canonicalize = .error message ↔ second.canonicalize = .error message
  same : ∀ json json', first.canonicalize = .ok json → second.canonicalize = .ok json' →
    second.fieldCount = first.fieldCount → json = json'
  shorter : ∀ json json', first.canonicalize = .ok json → second.canonicalize = .ok json' →
    second.fieldCount < first.fieldCount → width json' < width json

theorem Narrows.of_error {first second : CanonicalValue} {failure : String}
    (hfirst : first.canonicalize = .error failure) (hsecond : second.canonicalize = .error failure)
    (hcount : second.fieldCount ≤ first.fieldCount) : Narrows first second := by
  refine ⟨hcount, fun message => by rw [hfirst, hsecond], fun json _ hjson => ?_,
    fun json _ hjson => ?_⟩
  · rw [hfirst] at hjson
    cases hjson
  · rw [hfirst] at hjson
    cases hjson

theorem Narrows.of_ok {first second : CanonicalValue} {json json' : Json}
    (hfirst : first.canonicalize = .ok json) (hsecond : second.canonicalize = .ok json')
    (hcount : second.fieldCount ≤ first.fieldCount)
    (hsame : second.fieldCount = first.fieldCount → json = json')
    (hshorter : second.fieldCount < first.fieldCount → width json' < width json) :
    Narrows first second := by
  refine ⟨hcount, fun message => ?_, fun other other' hother hother' => ?_,
    fun other other' hother hother' => ?_⟩
  · rw [hfirst, hsecond]
    constructor
    · intro hjson
      cases hjson
    · intro hjson
      cases hjson
  · obtain rfl := Except.ok.inj (hfirst.symm.trans hother)
    obtain rfl := Except.ok.inj (hsecond.symm.trans hother')
    exact hsame
  · obtain rfl := Except.ok.inj (hfirst.symm.trans hother)
    obtain rfl := Except.ok.inj (hsecond.symm.trans hother')
    exact hshorter

theorem Narrows.of_eq {first second : CanonicalValue}
    (hcanonical : first.canonicalize = second.canonicalize)
    (hcount : first.fieldCount = second.fieldCount) : Narrows first second := by
  cases hsecond : second.canonicalize with
  | error failure => exact .of_error (hcanonical.trans hsecond) hsecond hcount.ge
  | ok json =>
      exact .of_ok (hcanonical.trans hsecond) hsecond hcount.ge (fun _ => rfl)
        fun hless => absurd hless (by omega)

theorem Narrows.exists_second {first second : CanonicalValue} (hnarrows : Narrows first second)
    {json : Json} (hfirst : first.canonicalize = .ok json) :
    ∃ json', second.canonicalize = .ok json' := by
  cases hsecond : second.canonicalize with
  | ok json' => exact ⟨json', rfl⟩
  | error message =>
      rw [(hnarrows.failure message).2 hsecond] at hfirst
      cases hfirst

theorem Narrows.width_le {first second : CanonicalValue} (hnarrows : Narrows first second)
    {json json' : Json} (hfirst : first.canonicalize = .ok json)
    (hsecond : second.canonicalize = .ok json') : width json' ≤ width json := by
  rcases hnarrows.count.eq_or_lt with hcount | hcount
  · rw [hnarrows.same json json' hfirst hsecond hcount]
  · exact (hnarrows.shorter json json' hfirst hsecond hcount).le

theorem Narrows.trans {first second third : CanonicalValue} (hfirst : Narrows first second)
    (hsecond : Narrows second third) : Narrows first third := by
  refine ⟨hsecond.count.trans hfirst.count,
    fun message => (hfirst.failure message).trans (hsecond.failure message), ?_, ?_⟩
  · intro json json' hjson hjson' hcount
    obtain ⟨between, hbetween⟩ := hfirst.exists_second hjson
    have hless := hfirst.count
    have hless' := hsecond.count
    rw [hfirst.same json between hjson hbetween (by omega)]
    exact hsecond.same between json' hbetween hjson' (by omega)
  · intro json json' hjson hjson' hcount
    obtain ⟨between, hbetween⟩ := hfirst.exists_second hjson
    have hwidth := hfirst.width_le hjson hbetween
    have hwidth' := hsecond.width_le hbetween hjson'
    rcases hfirst.count.eq_or_lt with hsame | hfewer
    · have hshorter := hsecond.shorter between json' hbetween hjson' (by omega)
      omega
    · have hshorter := hfirst.shorter json between hjson hbetween hfewer
      omega

theorem Narrows.of_collect {α : Type} {first second : CanonicalValue} (build : List α → Json)
    {low part part' high : List (Except String α)}
    (hfirst : first.canonicalize = (collect (low ++ (part ++ high))).map build)
    (hsecond : second.canonicalize = (collect (low ++ (part' ++ high))).map build)
    (hcount : second.fieldCount ≤ first.fieldCount)
    (hfailure : ∀ message, collect part = .error message ↔ collect part' = .error message)
    (hvalues : ∀ values values' before after, collect part = .ok values →
      collect part' = .ok values' →
      (second.fieldCount = first.fieldCount →
        build (before ++ (values ++ after)) = build (before ++ (values' ++ after))) ∧
      (second.fieldCount < first.fieldCount →
        width (build (before ++ (values' ++ after))) < width (build (before ++ (values ++ after))))) :
    Narrows first second := by
  rw [collect_append, collect_append] at hfirst hsecond
  cases hlow : collect low with
  | error failure =>
      rw [hlow] at hfirst hsecond
      exact .of_error hfirst hsecond hcount
  | ok before =>
      rw [hlow] at hfirst hsecond
      cases hpart : collect part with
      | error failure =>
          rw [hpart] at hfirst
          rw [(hfailure failure).1 hpart] at hsecond
          exact .of_error hfirst hsecond hcount
      | ok values =>
          cases hpart' : collect part' with
          | error failure =>
              rw [(hfailure failure).2 hpart'] at hpart
              cases hpart
          | ok values' =>
              rw [hpart] at hfirst
              rw [hpart'] at hsecond
              cases hhigh : collect high with
              | error failure =>
                  rw [hhigh] at hfirst hsecond
                  exact .of_error hfirst hsecond hcount
              | ok after =>
                  rw [hhigh] at hfirst hsecond
                  obtain ⟨hsame, hshorter⟩ := hvalues values values' before after hpart hpart'
                  exact .of_ok hfirst hsecond hcount hsame hshorter

variable {value' : CanonicalValue} {before after : List (String × CanonicalValue)}

theorem Narrows.of_item {α : Type} {first second : CanonicalValue} (build : List α → Json)
    (tag : Json → α) {low high : List (Except String α)} (hnarrows : Narrows value value')
    (hfirst : first.canonicalize = (collect (low ++ value.canonicalize.map tag :: high)).map build)
    (hsecond : second.canonicalize =
      (collect (low ++ value'.canonicalize.map tag :: high)).map build)
    (hcount : second.fieldCount ≤ first.fieldCount)
    (hvalues : ∀ json json' before after, value.canonicalize = .ok json →
      value'.canonicalize = .ok json' →
      (second.fieldCount = first.fieldCount →
        build (before ++ tag json :: after) = build (before ++ tag json' :: after)) ∧
      (second.fieldCount < first.fieldCount →
        width (build (before ++ tag json' :: after)) < width (build (before ++ tag json :: after)))) :
    Narrows first second := by
  rw [← singleton_append] at hfirst hsecond
  cases hvalue : value.canonicalize with
  | error failure =>
      have hvalue' := (hnarrows.failure failure).1 hvalue
      rw [hvalue] at hfirst
      rw [hvalue'] at hsecond
      refine .of_collect build hfirst hsecond hcount (fun message => Iff.rfl) ?_
      intro values values' before after hcollected
      cases hcollected
  | ok json =>
      obtain ⟨json', hvalue'⟩ := hnarrows.exists_second hvalue
      rw [hvalue] at hfirst
      rw [hvalue'] at hsecond
      refine .of_collect build hfirst hsecond hcount (fun message => ?_) ?_
      · constructor
        · intro hcollected
          cases hcollected
        · intro hcollected
          cases hcollected
      · intro values values' before after hcollected hcollected'
        cases hcollected
        cases hcollected'
        exact hvalues json json' before after hvalue hvalue'

/-! ## What a step keeps -/

theorem width_array (items : List Json) :
    width (.array items) + min items.length 1 =
      2 + (items.map fun item => width item + 1).sum :=
  Json.length_stringify_array items

theorem narrows_item {before after : List CanonicalValue} (hnarrows : Narrows value value') :
    Narrows (.array (before ++ value :: after)) (.array (before ++ value' :: after)) := by
  have hcanonical : ∀ value : CanonicalValue, (array (before ++ value :: after)).canonicalize =
      (collect (before.map canonicalize ++
        value.canonicalize.map id :: after.map canonicalize)).map .array := by
    intro value
    have hid : value.canonicalize.map id = value.canonicalize := by
      cases value.canonicalize <;> rfl
    rw [canonicalize, canonicalizeItems_eq, map_append, map_cons, hid]
  have hfields : ∀ value : CanonicalValue, (array (before ++ value :: after)).fieldCount =
      (before.map fieldCount).sum + (value.fieldCount + (after.map fieldCount).sum) := by
    intro value
    rw [fieldCount, itemsFieldCount_eq, map_append, map_cons, sum_append,
      sum_cons]
  have hcount := hnarrows.count
  refine .of_item Json.array id hnarrows (hcanonical value) (hcanonical value') ?_ ?_
  · rw [hfields, hfields]
    omega
  · intro json json' low high hvalue hvalue'
    rw [hfields, hfields]
    constructor
    · intro hequal
      rw [hnarrows.same json json' hvalue hvalue' (by omega)]
    · intro hless
      have hshorter := hnarrows.shorter json json' hvalue hvalue' (by omega)
      have hwidth := width_array (low ++ json :: high)
      have hwidth' := width_array (low ++ json' :: high)
      simp only [map_append, map_cons, sum_append, sum_cons,
        length_append, length_cons] at hwidth hwidth'
      simp only [id]
      omega

theorem fieldCount_object (members : List (String × CanonicalValue)) :
    (object members).fieldCount = (members.map weight).sum := by
  rw [fieldCount, membersFieldCount_eq]

theorem canonicalize_object (members : List (String × CanonicalValue)) :
    (object members).canonicalize =
      (collect ((members.insertionSort NameBefore).map fun member =>
        member.2.canonicalize.map (member.1, ·))).map assigned := by
  have hsort : (members.map fun member => (member.1, member.2.canonicalize)).insertionSort
      NameBefore = (members.insertionSort NameBefore).map fun member =>
        (member.1, member.2.canonicalize) :=
    (map_insertionSort NameBefore NameBefore
      (fun member => (member.1, member.2.canonicalize)) members fun _ _ _ _ => Iff.rfl).symm
  rw [canonicalize, canonicalizeMembers_eq, collectMembers, hsort, map_map]
  rfl

theorem narrows_member {name : String}
    (hnames : ((before ++ (name, value) :: after).map Prod.fst).Nodup)
    (hnarrows : Narrows value value') :
    Narrows (.object (before ++ (name, value) :: after))
      (.object (before ++ (name, value') :: after)) := by
  obtain ⟨low, high, hplace, _, hother⟩ := exists_place hnames
  have hfirst := canonicalize_object (before ++ (name, value) :: after)
  have hsecond := canonicalize_object (before ++ (name, value') :: after)
  rw [hplace, map_append, map_cons] at hfirst
  rw [hother value', map_append, map_cons] at hsecond
  have hfields : ∀ value : CanonicalValue, (object (before ++ (name, value) :: after)).fieldCount =
      (before.map weight).sum + (weight (name, value) + (after.map weight).sum) := by
    intro value
    rw [fieldCount_object, map_append, map_cons, sum_append, sum_cons]
  have hcount := hnarrows.count
  by_cases hproto : name = "__proto__"
  · have hweight : ∀ value : CanonicalValue, weight (name, value) = 0 := fun _ => if_pos hproto
    refine .of_item assigned (name, ·) hnarrows hfirst hsecond ?_ ?_
    · rw [hfields, hfields, hweight, hweight]
    · intro json json' lower higher _ _
      rw [hfields, hfields, hweight, hweight]
      refine ⟨fun _ => ?_, fun hless => absurd hless (lt_irrefl _)⟩
      have hdropped : ∀ json : Json,
          (lower ++ (name, json) :: higher).filter (fun member => member.1 ≠ "__proto__") =
            (lower ++ higher).filter fun member => member.1 ≠ "__proto__" := by
        intro json
        simp [filter_append, hproto]
      rw [assigned, assigned, hdropped, hdropped]
  · have hweight : ∀ value : CanonicalValue, weight (name, value) = 1 + value.fieldCount :=
      fun _ => if_neg hproto
    refine .of_item assigned (name, ·) hnarrows hfirst hsecond ?_ ?_
    · rw [hfields, hfields, hweight, hweight]
      omega
    · intro json json' lower higher hvalue hvalue'
      rw [hfields, hfields, hweight, hweight]
      constructor
      · intro hequal
        rw [hnarrows.same json json' hvalue hvalue' (by omega)]
      · intro hless
        have hshorter := hnarrows.shorter json json' hvalue hvalue' (by omega)
        have hwidth := width_assigned (lower ++ (name, json) :: higher)
        have hwidth' := width_assigned (lower ++ (name, json') :: higher)
        have hkept : ∀ json : Json, Kept (name, json) := fun _ => hproto
        have hmember : memberWidth (name, json') < memberWidth (name, json) := by
          simp only [memberWidth, Json.memberText, String.length_append]
          unfold width at hshorter
          omega
        simp only [filter_append, filter_cons, hkept, decide_true, if_true,
          map_append, map_cons, sum_append, sum_cons, length_append,
          length_cons] at hwidth hwidth'
        omega

theorem narrows_leaveOut {name : String}
    (hnames : ((before ++ (name, value) :: after).map Prod.fst).Nodup) (habsent : value.Absent) :
    Narrows (.object (before ++ (name, value) :: after)) (.object (before ++ after)) := by
  obtain ⟨low, high, hplace, hwithout, _⟩ := exists_place hnames
  have hfirst := canonicalize_object (before ++ (name, value) :: after)
  have hsecond := canonicalize_object (before ++ after)
  rw [hplace, map_append, map_cons, habsent.canonicalize] at hfirst
  rw [hwithout, map_append] at hsecond
  let result : String × CanonicalValue → Except String (String × Json) :=
    fun member => member.2.canonicalize.map (member.1, ·)
  have hfirst : (object (before ++ (name, value) :: after)).canonicalize =
      (collect (low.map result ++ ([.ok (name, .null)] ++ high.map result))).map assigned := hfirst
  have hsecond : (object (before ++ after)).canonicalize =
      (collect (low.map result ++ ([] ++ high.map result))).map assigned := hsecond
  have hfields : (object (before ++ (name, value) :: after)).fieldCount =
      (object (before ++ after)).fieldCount + weight (name, value) := by
    rw [fieldCount_object, fieldCount_object, map_append, map_append, map_cons,
      sum_append, sum_append, sum_cons]
    omega
  refine .of_collect assigned hfirst hsecond (by omega) (fun message => ?_) ?_
  · constructor
    · intro hcollected
      cases hcollected
    · intro hcollected
      cases hcollected
  · intro values values' lower higher hcollected hcollected'
    cases hcollected
    cases hcollected'
    rw [hfields]
    by_cases hproto : name = "__proto__"
    · have hweight : weight (name, value) = 0 := if_pos hproto
      rw [hweight]
      refine ⟨fun _ => ?_, fun hless => absurd hless (lt_irrefl _)⟩
      simp [assigned, hproto]
    · have hweight : weight (name, value) = 1 := by
        rw [weight, if_neg hproto, habsent.fieldCount]
      rw [hweight]
      refine ⟨fun hequal => absurd hequal (by omega), fun _ => ?_⟩
      have hwidth := width_assigned (lower ++ (name, Json.null) :: higher)
      have hwidth' := width_assigned (lower ++ higher)
      have hkept : Kept (name, Json.null) := hproto
      have hmember := Json.length_memberText_pos (name, Json.null)
      have hmemberWidth : memberWidth (name, Json.null) =
        (Json.memberText (name, Json.null)).length + 1 := rfl
      simp only [filter_append, filter_cons, hkept, decide_true, if_true,
        map_append, map_cons, sum_append, sum_cons, length_append,
        length_cons] at hwidth hwidth'
      simp only [nil_append, singleton_append]
      omega

theorem Restates.narrows {first second : CanonicalValue} (hstep : Restates first second) :
    Narrows first second := by
  induction hstep with
  | absent habsent habsent' =>
      exact .of_eq (habsent.canonicalize.trans habsent'.canonicalize.symm)
        (habsent.fieldCount.trans habsent'.fieldCount.symm)
  | leaveOut hnames habsent => exact narrows_leaveOut hnames habsent
  | @reorder members members' hnames hperm =>
      refine .of_eq ?_ ?_
      · have hsorted : members.insertionSort NameBefore = members'.insertionSort NameBefore :=
          sorted_eq hnames ((perm_insertionSort _ _).trans hperm.symm)
            (pairwise_insertionSort _ _)
        rw [canonicalize_object, canonicalize_object, hsorted]
      · rw [fieldCount_object, fieldCount_object, (hperm.map weight).sum_eq]
  | item _ ih => exact narrows_item ih
  | member hnames _ ih => exact narrows_member hnames ih

theorem narrows_of_restates {first second : CanonicalValue}
    (hsteps : Relation.ReflTransGen Restates first second) : Narrows first second := by
  induction hsteps with
  | refl => exact .of_eq rfl rfl
  | tail _ hstep ih => exact ih.trans hstep.narrows

theorem collect_failed_iff {α : Type} (results : List (Except String α)) :
    (∃ message, collect results = .error message) ↔
      ∃ message, .error message ∈ results := by
  induction results with
  | nil => simp [collect]
  | cons result rest ih =>
      cases result with
      | error message => exact ⟨fun _ => ⟨message, mem_cons_self ..⟩, fun _ => ⟨message, rfl⟩⟩
      | ok value =>
          have hstep : (∃ message, collect (.ok value :: rest) = .error message) ↔
              ∃ message, collect rest = .error message := by
            rw [collect]
            cases collect rest <;> simp [Except.map]
          rw [hstep, ih]
          simp

theorem map_error_iff {α β : Type} {result : Except String α} {f : α → β} {message : String} :
    result.map f = .error message ↔ result = .error message := by
  cases result <;> simp [Except.map]

mutual

theorem refused_iff : ∀ value : CanonicalValue,
    value.refused = true ↔ ∃ message, value.canonicalize = .error message
  | .undefined | .null | .decimal _ | .date _ | .bigint _ | .number _ | .bool _ | .string _ => by
      simp [refused, canonicalize]
  | .invalidDate | .nonFinite _ => by simp [refused, canonicalize]
  | .array items => by
      have hitems := itemsRefused_iff items
      simp only [refused, canonicalize, map_error_iff]
      rw [hitems, collect_failed_iff]
  | .object members => by
      have hmembers := membersRefused_iff members
      simp only [refused, canonicalize, map_error_iff]
      rw [hmembers, collectMembers, collect_failed_iff]
      simp only [mem_map, mem_insertionSort, map_error_iff]
      constructor
      · rintro ⟨member, hmember, message, hfailed⟩
        exact ⟨message, member, hmember, hfailed⟩
      · rintro ⟨message, member, hmember, hfailed⟩
        exact ⟨member, hmember, message, hfailed⟩

theorem itemsRefused_iff : ∀ items : List CanonicalValue,
    itemsRefused items = true ↔ ∃ message, .error message ∈ canonicalizeItems items
  | [] => by simp [itemsRefused, canonicalizeItems]
  | item :: rest => by
      have hitem := refused_iff item
      have hrest := itemsRefused_iff rest
      simp only [itemsRefused, canonicalizeItems, Bool.or_eq_true, mem_cons, exists_or]
      rw [hitem, hrest]
      simp only [eq_comm]

theorem membersRefused_iff : ∀ members : List (String × CanonicalValue),
    membersRefused members = true ↔
      ∃ member ∈ canonicalizeMembers members, ∃ message, member.2 = .error message
  | [] => by simp [membersRefused, canonicalizeMembers]
  | (name, value) :: rest => by
      have hvalue := refused_iff value
      have hrest := membersRefused_iff rest
      simp only [membersRefused, canonicalizeMembers, Bool.or_eq_true, exists_mem_cons_iff]
      rw [hvalue, hrest]

end

variable {sha256 : String → String} {first second : CanonicalValue}

theorem canonicalHash_eq_iff (hsteps : Relation.ReflTransGen Restates first second)
    (hdigest : ∀ text text', canonicalJsonStringify first = .ok text →
      canonicalJsonStringify second = .ok text' → sha256 text = sha256 text' → text = text') :
    canonicalHash sha256 first = canonicalHash sha256 second ↔
      first.refused = true ∨ second.fieldCount = first.fieldCount := by
  have hnarrows := narrows_of_restates hsteps
  rw [refused_iff]
  unfold canonicalHash canonicalJsonStringify at *
  cases hfirst : first.canonicalize with
  | error message =>
      rw [(hnarrows.failure message).1 hfirst]
      exact ⟨fun _ => .inl ⟨message, rfl⟩, fun _ => rfl⟩
  | ok json =>
      obtain ⟨json', hsecond⟩ := hnarrows.exists_second hfirst
      rw [hfirst, hsecond] at hdigest
      rw [hsecond]
      constructor
      · intro hhash
        right
        have htexts := hdigest _ _ rfl rfl (Except.ok.inj hhash)
        by_contra hfewer
        have hshorter := hnarrows.shorter json json' hfirst hsecond
          (lt_of_le_of_ne hnarrows.count hfewer)
        unfold width at hshorter
        rw [htexts] at hshorter
        exact lt_irrefl _ hshorter
      · rintro (⟨message, hfailed⟩ | hequal)
        · cases hfailed
        · rw [hnarrows.same json json' hfirst hsecond hequal]

end CanonicalValue

end SafariLaundry
