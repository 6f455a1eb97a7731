import Mathlib

/-!
# Keyed tables

A table is a list of rows in insertion order whose keys are pairwise distinct;
the distinctness is a field, so a table with two rows under one primary key
cannot be built.  Updates are written by predicate, the way a conditional
update statement is, and never move a key.
-/

namespace Library

open List

/-- Rows in insertion order under distinct primary keys. -/
structure Table {κ ρ : Type} (key : ρ → κ) where
  rows : List ρ
  keysDistinct : (rows.map key).Nodup

namespace Table

variable {κ ρ : Type} {key : ρ → κ}

def empty : Table key := ⟨[], nodup_nil⟩

def updateWhere (table : Table key) (p : ρ → Prop) [DecidablePred p] (f : ρ → ρ)
    (hkey : ∀ row, key (f row) = key row) : Table key where
  rows := table.rows.map fun row => if p row then f row else row
  keysDistinct := by
    have hsame :
        (table.rows.map fun row => if p row then f row else row).map key =
          table.rows.map key := by
      rw [map_map]
      apply map_congr_left
      intro row _
      by_cases hp : p row
      · simp [hp, hkey]
      · simp [hp]
    rw [hsame]
    exact table.keysDistinct

@[simp] theorem rows_updateWhere (table : Table key) (p : ρ → Prop) [DecidablePred p] (f : ρ → ρ)
    (hkey : ∀ row, key (f row) = key row) :
    (table.updateWhere p f hkey).rows =
      table.rows.map fun row => if p row then f row else row := rfl

variable {table table' : Table key} {f : ρ → ρ} {row : ρ}

theorem mem_updateWhere {p : ρ → Prop} [DecidablePred p] {hkey : ∀ row, key (f row) = key row} :
    row ∈ (table.updateWhere p f hkey).rows ↔
      ∃ old ∈ table.rows, (if p old then f old else old) = row :=
  mem_map

theorem updateWhere_eq_self {p : ρ → Prop} [DecidablePred p] {hkey : ∀ row, key (f row) = key row}
    (hnone : ∀ row ∈ table.rows, ¬ p row) :
    table.updateWhere p f hkey = table := by
  rcases table with ⟨rows, hnodup⟩
  have hsame : (rows.map fun row => if p row then f row else row) = rows.map id :=
    map_congr_left fun row hrow => if_neg (hnone row hrow)
  rw [map_id] at hsame
  simp only [updateWhere, hsame]

variable [DecidableEq κ]

def find? (table : Table key) (k : κ) : Option ρ :=
  table.rows.find? fun row => key row = k

def update (table : Table key) (k : κ) (f : ρ → ρ)
    (hkey : ∀ row, key (f row) = key row) : Table key :=
  table.updateWhere (fun row => key row = k) f hkey

theorem mem_of_mem_update {k : κ} (hkey : ∀ row, key (f row) = key row)
    (hmem : row ∈ (table.update k f hkey).rows) (hother : key row ≠ k) :
    row ∈ table.rows := by
  obtain ⟨old, hold, hrow⟩ := mem_map.1 hmem
  by_cases hsame : key old = k
  · rw [if_pos hsame] at hrow
    exact absurd (hrow ▸ (hkey old).trans hsame) hother
  · rw [if_neg hsame] at hrow
    exact hrow ▸ hold

def insert (table : Table key) (row : ρ) : Option (Table key) :=
  if hfree : key row ∉ table.rows.map key then
    some {
      rows := table.rows ++ [row]
      keysDistinct := by
        rw [map_append, nodup_append]
        refine ⟨table.keysDistinct, by simp, ?_⟩
        intro k hold k' hnew heq
        simp only [map_cons, map_nil, mem_singleton] at hnew
        exact hfree (by rw [← hnew, ← heq]; exact hold) }
  else
    none

theorem key_of_find? {k : κ} (hfind : table.find? k = some row) :
    key row = k := by
  have hholds := List.find?_some hfind
  simpa using hholds

theorem mem_of_find? {k : κ} (hfind : table.find? k = some row) :
    row ∈ table.rows :=
  mem_of_find?_eq_some hfind

theorem find?_of_mem (hmem : row ∈ table.rows) :
    table.find? (key row) = some row := by
  rcases table with ⟨rows, hnodup⟩
  change row ∈ rows at hmem
  change rows.find? (fun other => key other = key row) = some row
  induction rows with
  | nil => cases hmem
  | cons head rest ih =>
      rw [map_cons, nodup_cons] at hnodup
      rcases mem_cons.1 hmem with rfl | hrest
      · simp
      · have hne : key head ≠ key row := by
          intro heq
          exact hnodup.1 (heq ▸ mem_map_of_mem hrest)
        rw [List.find?_cons_of_neg (by simpa using hne)]
        exact ih hnodup.2 hrest

theorem find?_of_insert (hinsert : table.insert row = some table') :
    table.find? (key row) = none := by
  unfold insert at hinsert
  by_cases hfree : key row ∉ table.rows.map key
  · apply List.find?_eq_none.2
    intro other hother heq
    apply hfree
    rw [← of_decide_eq_true heq]
    exact mem_map_of_mem hother
  · rw [dif_neg hfree] at hinsert
    cases hinsert

theorem rows_insert (hinsert : table.insert row = some table') :
    table'.rows = table.rows ++ [row] := by
  unfold insert at hinsert
  by_cases hfree : key row ∉ table.rows.map key
  · rw [dif_pos hfree] at hinsert
    rw [← Option.some.inj hinsert]
  · rw [dif_neg hfree] at hinsert
    cases hinsert

theorem find?_insert (hinsert : table.insert row = some table') (k : κ) :
    table'.find? k = if key row = k then some row else table.find? k := by
  unfold find?
  rw [rows_insert hinsert, List.find?_append, List.find?_singleton]
  by_cases hsame : key row = k
  · subst hsame
    have hnone : table.rows.find? (fun other => key other = key row) = none :=
      find?_of_insert hinsert
    rw [hnone, Option.none_or, if_pos (by simp), if_pos rfl]
  · rw [if_neg (by simpa using hsame), Option.or_none, if_neg hsame]

theorem find?_updateWhere (table : Table key) (p : ρ → Prop) [DecidablePred p] (f : ρ → ρ)
    (hkey : ∀ row, key (f row) = key row) (k : κ) :
    (table.updateWhere p f hkey).find? k =
      (table.find? k).map fun row => if p row then f row else row := by
  unfold find?
  rw [rows_updateWhere, List.find?_map]
  have hcomp :
      ((fun row => decide (key row = k)) ∘ fun row => if p row then f row else row) =
        fun row => decide (key row = k) := by
    funext row
    by_cases hp : p row
    · simp [hp, hkey]
    · simp [hp]
  rw [hcomp]

@[simp] theorem find?_update_self
    (table : Table key) (k : κ) (f : ρ → ρ) (hkey : ∀ row, key (f row) = key row) :
    (table.update k f hkey).find? k = (table.find? k).map f := by
  unfold update
  rw [find?_updateWhere]
  cases hfind : table.find? k with
  | none => rfl
  | some row => simp [key_of_find? hfind]

theorem find?_update_of_ne
    (table : Table key) {k k' : κ} (f : ρ → ρ) (hkey : ∀ row, key (f row) = key row)
    (hne : k' ≠ k) :
    (table.update k f hkey).find? k' = table.find? k' := by
  unfold update
  rw [find?_updateWhere]
  cases hfind : table.find? k' with
  | none => rfl
  | some row =>
      have hother : key row ≠ k := by
        rw [key_of_find? hfind]
        exact hne
      simp [hother]

end Table

end Library
