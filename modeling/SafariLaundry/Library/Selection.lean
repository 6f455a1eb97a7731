import SafariLaundry.Library.Bookkeeping
import SafariLaundry.Library.Table

/-!
# Claiming rows that were selected before

A caller selects rows, and later updates those of them that still qualify.  Between the
two the table may have moved, but never in the part of its rows that a view shows.  If
as many rows were updated as had been selected, they are the same rows, and all that
the view shows of them is what was seen.  A query that asks for no order may return its
rows in any.
-/

namespace Library

open Bookkeeping List

/-- The order in which rows come back from a query that asks for none. -/
structure RowOrder (α : Type) where
  arrange : List α → List α
  perm : ∀ rows, (arrange rows).Perm rows

@[simp] theorem RowOrder.mem_arrange {α : Type} {order : RowOrder α} {rows : List α} {row : α} :
    row ∈ order.arrange rows ↔ row ∈ rows :=
  (order.perm rows).mem_iff

theorem RowOrder.filter_arrange_perm {α : Type} (order order' : RowOrder α) {rows : List α}
    {p q r : α → Prop} [DecidablePred p] [DecidablePred q] [DecidablePred r]
    (hkept : ∀ row, q row ∧ p row ↔ r row) :
    ((order.arrange (rows.filter fun row => p row)).filter fun row => q row).Perm
      (order'.arrange (rows.filter fun row => r row)) := by
  have hsame : (rows.filter fun row => p row).filter (fun row => q row) =
      rows.filter fun row => r row := by
    rw [filter_filter]
    apply filter_congr
    intro row _
    rw [← Bool.decide_and, decide_eq_decide]
    exact hkept row
  exact ((order.perm _).filter _).trans (hsame ▸ (order'.perm _).symm)

/-- The order in which one row comes first wherever it comes. -/
def RowOrder.leading {α : Type} [DecidableEq α] (row : α) : RowOrder α where
  arrange := fun rows => if row ∈ rows then row :: rows.erase row else rows
  perm := by
    intro rows
    by_cases hrow : row ∈ rows
    · rw [if_pos hrow]
      exact (perm_cons_erase hrow).symm
    · rw [if_neg hrow]

theorem RowOrder.leading_arrange {α : Type} [DecidableEq α] {row : α} {rows : List α}
    (hrow : row ∈ rows) : (RowOrder.leading row).arrange rows = row :: rows.erase row :=
  if_pos hrow

def RowOrder.reversed {α : Type} (order : RowOrder α) : RowOrder α where
  arrange := fun rows => (order.arrange rows).reverse
  perm := fun rows => (reverse_perm _).trans (order.perm rows)

def RowOrder.andThen {α : Type} (first second : RowOrder α) : RowOrder α where
  arrange := fun rows => second.arrange (first.arrange rows)
  perm := fun rows => (second.perm _).trans (first.perm rows)

/-- The keys that a database draws for new rows: never one that is in use. -/
structure FreshKeys (κ : Type) where
  draw : List κ → κ
  draw_fresh : ∀ used, draw used ∉ used

/-- A text that is longer than all those in use. -/
def FreshKeys.text : FreshKeys String where
  draw := fun used => String.ofList (List.replicate (1 + (used.map String.length).sum) 'k')
  draw_fresh := by
    intro used hmem
    have hle := single_le_sum (fun _ _ => Nat.zero_le _) _
      (mem_map_of_mem (f := String.length) hmem)
    rw [String.length_ofList, length_replicate] at hle
    omega

namespace Table

variable {κ ρ β : Type} {key : ρ → κ}

def insertNew (table : Table key) (keys : FreshKeys κ) (make : κ → ρ)
    (hmake : ∀ k, key (make k) = k) : Table key where
  rows := table.rows ++ [make (keys.draw (table.rows.map key))]
  keysDistinct := by
    rw [map_append, map_singleton, hmake]
    exact List.Nodup.append table.keysDistinct (nodup_singleton _)
      (disjoint_singleton.2 (keys.draw_fresh _))

variable {table before after : Table key} {row : ρ} {keyOf : β → κ}

theorem exists_insert [DecidableEq κ] (hfree : table.find? (key row) = none) :
    ∃ table', table.insert row = some table' := by
  have hkey : key row ∉ table.rows.map key := by
    intro hmem
    obtain ⟨other, hother, hsame⟩ := mem_map.1 hmem
    exact List.find?_eq_none.1 hfree other hother (decide_eq_true hsame)
  unfold insert
  exact ⟨_, dif_pos hkey⟩

theorem row_eq_of_key_eq {other : ρ} (hrow : row ∈ table.rows) (hother : other ∈ table.rows)
    (hkey : key row = key other) :
    row = other :=
  inj_on_of_nodup_map table.keysDistinct hrow hother hkey

theorem view_updateWhere (table : Table key) (view : ρ → β) {p : ρ → Prop} [DecidablePred p]
    {f : ρ → ρ} {hkey : ∀ row, key (f row) = key row} (hf : ∀ row, view (f row) = view row) :
    (table.updateWhere p f hkey).rows.map view = table.rows.map view := by
  rw [rows_updateWhere, map_map]
  apply map_congr_left
  intro row _
  by_cases hp : p row
  · simp only [Function.comp_apply, if_pos hp, hf]
  · simp only [Function.comp_apply, if_neg hp]

theorem view_filter_of_key (view : ρ → β) (hkey : ∀ row, keyOf (view row) = key row)
    (hview : after.rows.map view = before.rows.map view) (p : κ → Prop) [DecidablePred p] :
    (after.rows.filter fun row => p (key row)).map view =
      (before.rows.filter fun row => p (key row)).map view := by
  have hbykey : ∀ table : Table key, (table.rows.filter fun row => p (key row)).map view =
        (table.rows.map view).filter fun seen => p (keyOf seen) := by
    intro table
    rw [filter_map]
    congr 1
    apply filter_congr
    intro row _
    simp only [Function.comp_apply, hkey]
  rw [hbykey, hview, ← hbykey]

variable [DecidableEq κ]

def upsert (table : Table key) (row : ρ) : Table key :=
  match table.insert row with
  | some inserted => inserted
  | none => table.updateWhere (fun other => key other = key row)
      (fun other => if key other = key row then row else other) (by
        intro other
        by_cases hsame : key other = key row
        · rw [if_pos hsame, hsame]
        · rw [if_neg hsame])

theorem find?_upsert (table : Table key) (row : ρ) (k : κ) :
    (table.upsert row).find? k = if key row = k then some row else table.find? k := by
  unfold upsert
  cases hinsert : table.insert row with
  | some inserted => exact find?_insert hinsert k
  | none =>
      have hused : key row ∈ table.rows.map key := by
        by_contra hfree
        unfold insert at hinsert
        rw [dif_pos hfree] at hinsert
        cases hinsert
      change (table.updateWhere _ _ _).find? k = _
      rw [find?_updateWhere]
      by_cases hk : key row = k
      · obtain ⟨old, hold, hkey⟩ := mem_map.1 hused
        have hfound := find?_of_mem hold
        rw [hkey, hk] at hfound
        rw [if_pos hk, hfound]
        simp [hkey]
      · rw [if_neg hk]
        cases hfound : table.find? k with
        | none => rfl
        | some old =>
            have hother : key old ≠ key row := by
              rw [key_of_find? hfound]
              exact fun heq => hk heq.symm
            simp [hother]

theorem mem_iff_find? :
    row ∈ table.rows ↔ table.find? (key row) = some row :=
  ⟨find?_of_mem, mem_of_find?⟩

theorem mem_upsert {other : ρ} :
    other ∈ (table.upsert row).rows ↔ other = row ∨ other ∈ table.rows ∧ key other ≠ key row := by
  rw [mem_iff_find?, find?_upsert, mem_iff_find?]
  by_cases hsame : key row = key other
  · rw [if_pos hsame]
    constructor
    · intro hrow
      exact .inl (Option.some.inj hrow).symm
    · rintro (rfl | ⟨_, hother⟩)
      · rfl
      · exact absurd hsame.symm hother
  · rw [if_neg hsame]
    constructor
    · intro hfound
      exact .inr ⟨hfound, fun heq => hsame heq.symm⟩
    · rintro (rfl | ⟨hfound, _⟩)
      · exact absurd rfl hsame
      · exact hfound

theorem rows_upsert_of_fresh (hfresh : key row ∉ table.rows.map key) :
    (table.upsert row).rows = table.rows ++ [row] := by
  unfold upsert insert
  rw [dif_pos hfresh]

theorem view_upsert {old : ρ} (view : ρ → β) (hold : old ∈ table.rows) (hkey : key old = key row)
    (hview : view row = view old) :
    (table.upsert row).rows.map view = table.rows.map view := by
  have hused : ¬ key row ∉ table.rows.map key := not_not_intro (mem_map.2 ⟨old, hold, hkey⟩)
  unfold upsert insert
  rw [dif_neg hused]
  change (table.rows.map _).map view = _
  rw [map_map]
  apply map_congr_left
  intro other hother
  change view (if key other = key row then if key other = key row then row else other
    else other) = view other
  by_cases hsame : key other = key row
  · rw [if_pos hsame, if_pos hsame, hview]
    rw [row_eq_of_key_eq hold hother (hkey.trans hsame.symm)]
  · rw [if_neg hsame]

def delete (table : Table key) (k : κ) : Table key where
  rows := table.rows.filter fun row => key row ≠ k
  keysDistinct := (filter_sublist.map key).nodup table.keysDistinct

theorem find?_delete (table : Table key) (k k' : κ) :
    (table.delete k).find? k' = if k' = k then none else table.find? k' := by
  unfold find? delete
  rw [List.find?_filter]
  by_cases hsame : k' = k
  · rw [if_pos hsame, List.find?_eq_none]
    intro row _
    by_cases hrow : key row = k'
    · simp [hrow, hsame]
    · simp [hrow]
  · rw [if_neg hsame]
    congr 1
    funext row
    by_cases hrow : key row = k'
    · simp [hrow, hsame]
    · simp [hrow]

theorem rows_delete_of_cons {first : ρ} {rest : List ρ} (hrows : table.rows = first :: rest) :
    (table.delete (key first)).rows = rest := by
  have hdistinct := table.keysDistinct
  rw [hrows, map_cons, nodup_cons] at hdistinct
  change (table.rows.filter fun row => key row ≠ key first) = rest
  rw [hrows, filter_cons_of_neg (by simp), filter_eq_self]
  intro row hrow
  exact decide_eq_true fun hsame => hdistinct.1 (mem_map.2 ⟨row, hrow, hsame⟩)

theorem find?_of_length_filter {p : ρ → Prop} [DecidablePred p] {keys : List κ}
    (hkeys : ∀ row, p row → key row ∈ keys)
    (hcount : (table.rows.filter fun row => p row).length = keys.length) :
    ∀ k ∈ keys, ∃ row, table.find? k = some row ∧ p row := by
  have hfound : ((table.rows.filter fun row => p row).map key).Nodup :=
    (filter_sublist.map key).nodup table.keysDistinct
  have hsubset : (table.rows.filter fun row => p row).map key ⊆ keys := by
    intro k hk
    obtain ⟨row, hrow, rfl⟩ := mem_map.1 hk
    exact hkeys row (by simpa using (mem_filter.1 hrow).2)
  have hperm : ((table.rows.filter fun row => p row).map key).Perm keys :=
    (hfound.subperm hsubset).perm_of_length_le (by rw [length_map, hcount])
  intro k hk
  obtain ⟨row, hrow, rfl⟩ := mem_map.1 (hperm.mem_iff.2 hk)
  obtain ⟨hmem, hp⟩ := mem_filter.1 hrow
  exact ⟨row, find?_of_mem hmem, by simpa using hp⟩

theorem filter_key {k : κ} (hrow : table.find? k = some row) :
    (table.rows.filter fun other => key other = k) = [row] := by
  apply perm_singleton.1
  have hmem : row ∈ table.rows.filter fun other => key other = k :=
    mem_filter.2 ⟨mem_of_find? hrow, decide_eq_true (key_of_find? hrow)⟩
  have honly : ∀ other ∈ table.rows.filter fun other => key other = k, other = row := by
    intro other hother
    obtain ⟨hstored, hkeyed⟩ := mem_filter.1 hother
    apply row_eq_of_key_eq hstored (mem_of_find? hrow)
    rw [of_decide_eq_true hkeyed, key_of_find? hrow]
  have hnodup : (table.rows.filter fun other => key other = k).Nodup :=
    (List.Nodup.of_map key table.keysDistinct).filter _
  exact (perm_ext_iff_of_nodup hnodup (nodup_singleton row)).2 fun other =>
    ⟨fun hother => mem_singleton.2 (honly other hother),
      fun hother => mem_singleton.1 hother ▸ hmem⟩

theorem filter_key_eq_toList (table : Table key) (k : κ) :
    (table.rows.filter fun row => key row = k) = (table.find? k).toList := by
  cases hfound : table.find? k with
  | some row => exact filter_key hfound
  | none =>
      rw [Option.toList_none, filter_eq_nil_iff]
      intro row hrow hkey
      rw [← of_decide_eq_true hkey, find?_of_mem hrow] at hfound
      cases hfound

theorem filter_key_mem (table : Table key) (p : ρ → Prop) [DecidablePred p] :
    (table.rows.filter fun row => key row ∈ (table.rows.filter fun other => p other).map key) =
      table.rows.filter fun row => p row := by
  apply filter_congr
  intro row hrow
  apply decide_eq_decide.2
  constructor
  · intro hmem
    obtain ⟨other, hother, hkey⟩ := mem_map.1 hmem
    obtain ⟨hstored, hselected⟩ := mem_filter.1 hother
    obtain rfl := row_eq_of_key_eq hstored hrow hkey
    exact of_decide_eq_true hselected
  · intro hselected
    exact mem_map_of_mem (mem_filter.2 ⟨hrow, decide_eq_true hselected⟩)

theorem view_sublist_of_selected (view : ρ → β) (hkey : ∀ row, keyOf (view row) = key row)
    (hview : after.rows.map view = before.rows.map view) (p q : ρ → Prop) [DecidablePred p]
    [DecidablePred q] :
    ((after.rows.filter fun row =>
        key row ∈ (before.rows.filter fun other => p other).map key ∧ q row).map view).Sublist
      ((before.rows.filter fun row => p row).map view) := by
  let selected := (before.rows.filter fun other => p other).map key
  have hpart : (after.rows.filter fun row => key row ∈ selected ∧ q row).Sublist
      (after.rows.filter fun row => key row ∈ selected) := by
    apply monotone_filter_right
    intro row hboth
    exact decide_eq_true (of_decide_eq_true hboth).1
  have hwhole : (after.rows.filter fun row => key row ∈ selected).map view =
      (before.rows.filter fun row => p row).map view := by
    rw [view_filter_of_key view hkey hview fun k => k ∈ selected, filter_key_mem]
  exact hwhole ▸ hpart.map view

theorem view_eq_of_selected (view : ρ → β) (hkey : ∀ row, keyOf (view row) = key row)
    (hview : after.rows.map view = before.rows.map view) {p q : ρ → Prop} [DecidablePred p]
    [DecidablePred q]
    (hcount : (after.rows.filter fun row =>
        key row ∈ (before.rows.filter fun other => p other).map key ∧ q row).length =
      (before.rows.filter fun row => p row).length) :
    (after.rows.filter fun row =>
        key row ∈ (before.rows.filter fun other => p other).map key ∧ q row).map view =
      (before.rows.filter fun row => p row).map view := by
  apply (view_sublist_of_selected view hkey hview p q).eq_of_length
  rw [length_map, length_map, hcount]

end Table

theorem find?_of_view_prefix {ρ β : Type} {before after : List ρ} (view : ρ → β)
    (hstart : before.map view <+: after.map view) {p : ρ → Bool} {q : β → Bool}
    (hp : ∀ row, p row = q (view row)) {found : ρ} (hfound : before.find? p = some found) :
    ∃ row, after.find? p = some row ∧ view row = view found := by
  have hq : p = q ∘ view := funext hp
  have hshown : ∀ rows : List ρ, (rows.map view).find? q = (rows.find? p).map view := by
    intro rows
    rw [List.find?_map, hq]
  obtain ⟨added, hadded⟩ := hstart
  have hlater : (after.find? p).map view = some (view found) := by
    rw [← hshown, ← hadded, List.find?_append, hshown, hfound]
    rfl
  exact Option.map_eq_some_iff.1 hlater

theorem tally_updated {ρ : Type} {weight lost : ρ → ℤ} {p : ρ → Prop} [DecidablePred p]
    {f : ρ → ρ} {rows : List ρ}
    (hlost : ∀ row ∈ rows, p row → weight (f row) + lost row = weight row) :
    tally weight (rows.map fun row => if p row then f row else row) +
        tally lost (rows.filter fun row => p row) =
      tally weight rows := by
  induction rows with
  | nil => rfl
  | cons row rest ih =>
      have hrest := ih fun other hother => hlost other (mem_cons_of_mem row hother)
      rw [map_cons, tally_cons, tally_cons]
      by_cases hp : p row
      · have hrow := hlost row (mem_cons_self ..) hp
        rw [if_pos hp, filter_cons_of_pos (by simpa using hp), tally_cons]
        omega
      · rw [if_neg hp, filter_cons_of_neg (by simpa using hp)]
        omega

theorem tally_max_zero_eq_iff {ρ : Type} (weight : ρ → ℤ) (rows : List ρ) :
    tally (fun row => max 0 (weight row)) rows = tally weight rows ↔
      ∀ row ∈ rows, 0 ≤ weight row := by
  have hle : ∀ rest : List ρ,
      tally weight rest ≤ tally (fun row => max 0 (weight row)) rest := by
    intro rest
    induction rest with
    | nil => exact le_rfl
    | cons row rest ih =>
        rw [tally_cons, tally_cons]
        exact add_le_add (le_max_right 0 _) ih
  induction rows with
  | nil => simp
  | cons row rest ih =>
      have hrest := hle rest
      rw [tally_cons, tally_cons, forall_mem_cons]
      constructor
      · intro hsame
        exact ⟨by omega, ih.1 (by omega)⟩
      · rintro ⟨hfirst, hothers⟩
        have hsame := ih.2 hothers
        omega

theorem tally_update {κ ρ : Type} [DecidableEq κ] {key : ρ → κ} {table : Table key} {k : κ}
    {f : ρ → ρ} {row : ρ} (weight : ρ → ℤ) (hkey : ∀ row, key (f row) = key row)
    (hrow : table.find? k = some row) :
    tally weight (table.update k f hkey).rows + weight row =
      tally weight table.rows + weight (f row) := by
  have hupdated : tally weight
        (table.rows.map fun other => if key other = k then f other else other) +
      tally (fun other => weight other - weight (f other))
        (table.rows.filter fun other => key other = k) = tally weight table.rows :=
    tally_updated fun other _ _ => by omega
  rw [Table.filter_key hrow, tally_cons, tally_nil] at hupdated
  change tally weight (table.rows.map fun other => if key other = k then f other else other) +
    weight row = _
  omega

theorem tally_selected {κ ρ : Type} [DecidableEq κ] {key : ρ → κ} {table : Table key}
    {weight : ρ → ℤ} {selected : List ρ} (hdistinct : (selected.map key).Nodup)
    (hstored : ∀ row ∈ selected, ∃ stored, table.find? (key row) = some stored ∧
      weight stored = weight row) :
    tally (fun row => if key row ∈ selected.map key then weight row else 0) table.rows =
      tally weight selected := by
  induction selected with
  | nil => exact tally_eq_zero _ fun row _ => if_neg not_mem_nil
  | cons first rest ih =>
      rw [map_cons, nodup_cons] at hdistinct
      obtain ⟨stored, hfound, hweight⟩ := hstored first (mem_cons_self ..)
      have hrest := ih hdistinct.2 fun row hrow => hstored row (mem_cons_of_mem first hrow)
      have hsplit : ∀ row : ρ, (if key row ∈ (first :: rest).map key then weight row else 0) =
            (if key row = key first then weight row else 0) +
              if key row ∈ rest.map key then weight row else 0 := by
        intro row
        rw [map_cons]
        by_cases hsame : key row = key first
        · rw [hsame, if_pos (mem_cons_self ..), if_pos rfl, if_neg hdistinct.1, add_zero]
        · rw [if_neg hsame, zero_add]
          simp only [mem_cons, hsame, false_or]
      have hfirst : tally (fun row => if key row = key first then weight row else 0)
          table.rows = weight first := by
        rw [← tally_filter, Table.filter_key hfound, tally_cons, tally_nil, add_zero, hweight]
      rw [tally_cons, ← hrest, ← hfirst]
      unfold tally
      rw [← sum_map_add]
      simp only [hsplit]

section Sorted

variable {α : Type} {r : α → α → Prop} [DecidableRel r]

theorem orderedInsert_of_first {a : α} {l : List α} (hfirst : ∀ b ∈ l, r a b) :
    l.orderedInsert r a = a :: l := by
  cases l with
  | nil => rfl
  | cons b rest =>
      rw [orderedInsert_cons]
      exact if_pos (hfirst b (mem_cons_self ..))

theorem filter_orderedInsert [IsTrans α r] (p : α → Bool) (a : α) {l : List α}
    (hsorted : l.Pairwise r) :
    (l.orderedInsert r a).filter p =
      if p a = true then (l.filter p).orderedInsert r a else l.filter p := by
  induction l with
  | nil => rw [orderedInsert_nil, filter_cons, filter_nil, orderedInsert_nil]
  | cons b rest ih =>
      rw [pairwise_cons] at hsorted
      rw [orderedInsert_cons]
      by_cases hfirst : r a b
      · rw [if_pos hfirst, filter_cons]
        by_cases ha : p a = true
        · rw [if_pos ha, if_pos ha, orderedInsert_of_first]
          intro c hc
          rcases mem_cons.1 (mem_filter.1 hc).1 with rfl | hrest
          · exact hfirst
          · exact IsTrans.trans a b c hfirst (hsorted.1 c hrest)
        · rw [if_neg ha, if_neg ha]
      · rw [if_neg hfirst, filter_cons, ih hsorted.2, filter_cons]
        by_cases ha : p a = true
        · by_cases hb : p b = true
          · rw [if_pos ha, if_pos ha, if_pos hb, if_pos hb, orderedInsert_cons, if_neg hfirst]
          · rw [if_pos ha, if_pos ha, if_neg hb, if_neg hb]
        · rw [if_neg ha, if_neg ha]

theorem filter_insertionSort [IsTrans α r] [Std.Total r] (p : α → Bool) (l : List α) :
    (l.insertionSort r).filter p = (l.filter p).insertionSort r := by
  induction l with
  | nil => rfl
  | cons a rest ih =>
      rw [insertionSort_cons, filter_orderedInsert p a (pairwise_insertionSort r rest),
        ih, filter_cons]
      by_cases ha : p a = true
      · rw [if_pos ha, if_pos ha, insertionSort_cons]
      · rw [if_neg ha, if_neg ha]

end Sorted

end Library
