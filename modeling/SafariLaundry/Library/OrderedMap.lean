import SafariLaundry.Library.Selection

/-!
# Maps that remember the order of their keys

A map whose keys stand in the order in which they were first set: setting a key again
changes its value and leaves it where it stands.
-/

namespace Library

open List

/-- Keys with their values, each key once, in the order of their first setting. -/
abbrev OrderedMap (κ α : Type) := Table (Prod.fst : κ × α → κ)

namespace OrderedMap

variable {κ α ε : Type}

def keys (map : OrderedMap κ α) : List κ := map.rows.map Prod.fst

theorem keys_nodup (map : OrderedMap κ α) : map.keys.Nodup := map.keysDistinct

theorem mem_keys_foldl {step : OrderedMap κ α → ε → OrderedMap κ α} {keyOf : ε → Option κ}
    (hstep : ∀ map element other, other ∈ (step map element).keys ↔
      keyOf element = some other ∨ other ∈ map.keys)
    (map : OrderedMap κ α) (elements : List ε) (other : κ) :
    other ∈ (elements.foldl step map).keys ↔
      (∃ element ∈ elements, keyOf element = some other) ∨ other ∈ map.keys := by
  induction elements generalizing map with
  | nil => simp
  | cons element rest ih =>
      rw [foldl_cons, ih, hstep, exists_mem_cons_iff, ← or_assoc,
        or_comm (a := ∃ element ∈ rest, keyOf element = some other)]

variable [DecidableEq κ]

def get? (map : OrderedMap κ α) (k : κ) : Option α := (map.find? k).map Prod.snd

theorem get?_isSome {map : OrderedMap κ α} {k : κ} : (map.get? k).isSome ↔ k ∈ map.keys := by
  unfold get? keys Table.find?
  rw [Option.isSome_map, List.find?_isSome, mem_map]
  simp only [decide_eq_true_eq]

theorem mem_rows {map : OrderedMap κ α} {entry : κ × α} :
    entry ∈ map.rows ↔ map.get? entry.1 = some entry.2 := by
  unfold get?
  constructor
  · intro hentry
    have hfound := Table.find?_of_mem hentry
    rw [hfound]
    rfl
  · intro hget
    obtain ⟨found, hfound, hvalue⟩ := Option.map_eq_some_iff.1 hget
    have hsame : found = entry := Prod.ext (Table.key_of_find? hfound) hvalue
    exact hsame ▸ Table.mem_of_find? hfound

/-- Give a key a value. -/
def set (map : OrderedMap κ α) (k : κ) (value : α) : OrderedMap κ α :=
  match map.insert (k, value) with
  | some added => added
  | none =>
      map.updateWhere (fun entry => entry.1 = k) (fun entry => (entry.1, value)) fun _ => rfl

theorem keys_set (map : OrderedMap κ α) (k : κ) (value : α) :
    (map.set k value).keys = if k ∈ map.keys then map.keys else map.keys ++ [k] := by
  unfold set
  by_cases hknown : k ∈ map.keys
  · have hrefused : map.insert (k, value) = none := dif_neg (not_not.2 hknown)
    rw [hrefused, if_pos hknown]
    unfold keys
    rw [Table.rows_updateWhere, map_map]
    apply map_congr_left
    intro entry _
    by_cases hsame : entry.1 = k
    · rw [Function.comp_apply, if_pos hsame]
    · rw [Function.comp_apply, if_neg hsame]
  · rw [if_neg hknown]
    cases hinsert : map.insert (k, value) with
    | none =>
        have hfree : (k, value).1 ∉ map.rows.map Prod.fst := hknown
        unfold Table.insert at hinsert
        rw [dif_pos hfree] at hinsert
        cases hinsert
    | some added =>
        unfold keys
        rw [Table.rows_insert hinsert, map_append]
        rfl

theorem mem_keys_set {map : OrderedMap κ α} {k other : κ} {value : α} :
    other ∈ (map.set k value).keys ↔ other = k ∨ other ∈ map.keys := by
  rw [keys_set]
  by_cases hknown : k ∈ map.keys
  · rw [if_pos hknown]
    constructor
    · exact Or.inr
    · rintro (rfl | hmem)
      · exact hknown
      · exact hmem
  · rw [if_neg hknown, mem_append, mem_singleton, or_comm]

theorem get?_set (map : OrderedMap κ α) (k : κ) (value : α) (other : κ) :
    (map.set k value).get? other = if other = k then some value else map.get? other := by
  unfold set get?
  cases hinsert : map.insert (k, value) with
  | some added =>
      change (added.find? other).map Prod.snd = _
      rw [Table.find?_insert hinsert]
      by_cases hsame : other = k
      · rw [if_pos hsame.symm, if_pos hsame]
        rfl
      · rw [if_neg (Ne.symm hsame), if_neg hsame]
  | none =>
      have hknown : (map.get? k).isSome := by
        rw [get?_isSome]
        by_contra hfree
        exact absurd (hinsert.symm.trans (dif_pos hfree)) nofun
      change ((map.updateWhere _ _ _).find? other).map Prod.snd = _
      rw [Table.find?_updateWhere]
      by_cases hsame : other = k
      · subst hsame
        rw [if_pos rfl]
        unfold get? at hknown
        cases hfound : map.find? other with
        | none =>
            rw [hfound] at hknown
            cases hknown
        | some entry =>
            have hkey : entry.1 = other := Table.key_of_find? hfound
            simp [hkey]
      · rw [if_neg hsame]
        cases hfound : map.find? other with
        | none => rfl
        | some entry =>
            have hkey : entry.1 ≠ k := by
              rw [Table.key_of_find? hfound]
              exact hsame
            simp [hkey]

theorem get?_foldl_set (make : κ → α) (keys : List κ) (map : OrderedMap κ α) (k : κ) :
    (keys.foldl (fun out key => out.set key (make key)) map).get? k =
      if k ∈ keys then some (make k) else map.get? k := by
  induction keys generalizing map with
  | nil => simp
  | cons key keys ih =>
      rw [foldl_cons, ih, get?_set]
      by_cases hkey : k = key
      · simp [hkey]
      · simp [hkey]

/-- Apply a function to the values whose keys satisfy `p`. -/
def mapWhere (map : OrderedMap κ α) (p : κ → Prop) [DecidablePred p] (f : α → α) :
    OrderedMap κ α :=
  map.updateWhere (fun entry => p entry.1) (fun entry => (entry.1, f entry.2)) fun _ => rfl

theorem get?_mapWhere (map : OrderedMap κ α) (p : κ → Prop) [DecidablePred p] (f : α → α)
    (k : κ) : (map.mapWhere p f).get? k = (map.get? k).map fun value =>
      if p k then f value else value := by
  unfold get? mapWhere
  rw [Table.find?_updateWhere]
  cases hfound : map.find? k with
  | none => rfl
  | some entry =>
      have hkey : entry.1 = k := Table.key_of_find? hfound
      by_cases hp : p k
      · simp [hkey, hp]
      · simp [hkey, hp]

/-- Drop the entries that do not satisfy `p`. -/
def keepWhere (map : OrderedMap κ α) (p : κ × α → Prop) [DecidablePred p] : OrderedMap κ α where
  rows := map.rows.filter p
  keysDistinct := map.keysDistinct.sublist (filter_sublist.map Prod.fst)

theorem get?_keepWhere (map : OrderedMap κ α) (p : κ × α → Prop) [DecidablePred p] (k : κ) :
    (map.keepWhere p).get? k = (map.get? k).filter fun value => p (k, value) := by
  apply Option.ext
  intro value
  have hkept : (k, value) ∈ (map.keepWhere p).rows ↔ (map.keepWhere p).get? k = some value :=
    mem_rows
  have hstored : (k, value) ∈ map.rows ↔ map.get? k = some value := mem_rows
  rw [← hkept, Option.filter_eq_some_iff, ← hstored]
  exact mem_filter

section Sums

open Bookkeeping

variable {M N : Type} [AddCommMonoid M] [AddCommMonoid N]

/-- Add to what stands under a key. -/
def add (map : OrderedMap κ M) (k : κ) (amount : M) : OrderedMap κ M :=
  map.set k ((map.get? k).getD 0 + amount)

def sumBy (keyOf : ε → κ) (weight : ε → M) (items : List ε) : OrderedMap κ M :=
  items.foldl (fun map item => map.add (keyOf item) (weight item)) Table.empty

theorem tally_rows_add {rows : List (κ × M)} (hnodup : (rows.map Prod.fst).Nodup) {k : κ}
    {old : M} (hmem : (k, old) ∈ rows) (part : κ → M →+ N) (amount : M) :
    tally (fun row => part row.1 row.2)
        (rows.map fun row => if row.1 = k then (row.1, old + amount) else row) =
      tally (fun row => part row.1 row.2) rows + part k amount := by
  induction rows with
  | nil => cases hmem
  | cons row rest ih =>
      rw [map_cons, nodup_cons] at hnodup
      rw [map_cons, tally_cons, tally_cons]
      rcases mem_cons.1 hmem with rfl | hlater
      · have hrest : rest.map (fun row => if row.1 = k then (row.1, old + amount) else row) =
            rest := by
          conv_rhs => rw [← map_id rest]
          apply map_congr_left
          intro other hother
          rw [if_neg, id]
          rintro rfl
          exact hnodup.1 (mem_map.2 ⟨other, hother, rfl⟩)
        rw [hrest, if_pos rfl, map_add]
        exact add_right_comm _ _ _
      · have hother : row.1 ≠ k := by
          rintro rfl
          exact hnodup.1 (mem_map.2 ⟨_, hlater, rfl⟩)
        rw [if_neg hother, ih hnodup.2 hlater, add_assoc]

theorem tally_add (part : κ → M →+ N) (map : OrderedMap κ M) (k : κ) (amount : M) :
    tally (fun row => part row.1 row.2) (map.add k amount).rows =
      tally (fun row => part row.1 row.2) map.rows + part k amount := by
  unfold add set
  cases hinsert : map.insert (k, (map.get? k).getD 0 + amount) with
  | some added =>
      have hnone : map.get? k = none := by
        unfold get?
        rw [Table.find?_of_insert hinsert]
        rfl
      rw [Table.rows_insert hinsert, tally_append, hnone]
      simp
  | none =>
      have hknown : k ∈ map.keys := by
        by_contra hfree
        have haccepted : map.insert (k, (map.get? k).getD 0 + amount) ≠ none := by
          unfold Table.insert
          rw [dif_pos (show (k, (map.get? k).getD 0 + amount).1 ∉ map.rows.map Prod.fst from hfree)]
          exact Option.some_ne_none _
        exact haccepted hinsert
      obtain ⟨⟨known, old⟩, hmem, hkey⟩ := mem_map.1 hknown
      obtain rfl : known = k := hkey
      have hold : map.get? known = some old := by
        unfold get?
        have hfound := Table.find?_of_mem hmem
        change map.find? known = _ at hfound
        rw [hfound]
        rfl
      rw [hold]
      exact tally_rows_add map.keysDistinct hmem part amount

theorem tally_sumBy (part : κ → M →+ N) (keyOf : ε → κ) (weight : ε → M) (items : List ε) :
    tally (fun row => part row.1 row.2) (sumBy keyOf weight items).rows =
      tally (fun item => part (keyOf item) (weight item)) items := by
  have hfold : ∀ map : OrderedMap κ M, tally (fun row => part row.1 row.2)
          (items.foldl (fun map item => map.add (keyOf item) (weight item)) map).rows =
        tally (fun row => part row.1 row.2) map.rows +
          tally (fun item => part (keyOf item) (weight item)) items := by
    induction items with
    | nil => exact fun map => (add_zero _).symm
    | cons item rest ih =>
        intro map
        rw [foldl_cons, ih, tally_add, tally_cons, add_assoc]
  exact (hfold Table.empty).trans (zero_add _)

theorem part_of_mem_sumBy (part : M →+ N) (keyOf : ε → κ) (weight : ε → M) {items : List ε}
    {row : κ × M} (hrow : row ∈ (sumBy keyOf weight items).rows) :
    part row.2 = tally (fun item => if keyOf item = row.1 then part (weight item) else 0) items := by
  have hsum := tally_sumBy (fun k => if k = row.1 then part else 0) keyOf weight items
  have hfound := Table.find?_of_mem hrow
  have honly : tally (fun other : κ × M => (if other.1 = row.1 then part else 0) other.2)
      (sumBy keyOf weight items).rows = part row.2 := by
    have hcases : (fun other : κ × M => (if other.1 = row.1 then part else 0) other.2) =
        fun other => if other.1 = row.1 then part other.2 else 0 := by
      funext other
      by_cases hsame : other.1 = row.1
      · rw [if_pos hsame, if_pos hsame]
      · rw [if_neg hsame, if_neg hsame]
        rfl
    rw [hcases, ← tally_filter (fun other : κ × M => part other.2) (fun other => other.1 = row.1),
      Table.filter_key hfound, tally_cons, tally_nil, add_zero]
  rw [← honly, hsum]
  apply tally_congr
  intro item _
  by_cases hsame : keyOf item = row.1
  · rw [if_pos hsame, if_pos hsame]
  · rw [if_neg hsame, if_neg hsame]
    rfl

end Sums

end OrderedMap

end Library
