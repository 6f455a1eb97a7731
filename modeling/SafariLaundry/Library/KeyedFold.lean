import SafariLaundry.Library.OrderedMap

/-!
# Loops that keep one accumulator for each key

A loop over rows looks up what it has made of the rows under the key of the next row, and puts
this row in.  Under each key then stands what a loop over the rows of this key alone makes, and
what is added up over the keys is what is added up over the rows.
-/

namespace Library.KeyedFold

open Bookkeeping List

variable {κ ρ α N : Type}

/-- What a first row makes, and what a further row makes of what there was. -/
structure Accumulation (ρ α : Type) where
  start : ρ → α
  grow : α → ρ → α

namespace Accumulation

def next (acc : Accumulation ρ α) (row : ρ) : Option α → α
  | none => acc.start row
  | some old => acc.grow old row

/-- What rows make, of which there is at least one. -/
def made (acc : Accumulation ρ α) : List ρ → Option α
  | [] => none
  | first :: rest => some (rest.foldl acc.grow (acc.start first))

@[simp] theorem made_nil (acc : Accumulation ρ α) : acc.made [] = none := rfl

@[simp] theorem made_concat (acc : Accumulation ρ α) (rows : List ρ) (row : ρ) :
    acc.made (rows ++ [row]) = some (acc.next row (acc.made rows)) := by
  cases rows with
  | nil => rfl
  | cons first rest => simp [made, next]

theorem made_eq_none {acc : Accumulation ρ α} {rows : List ρ} : acc.made rows = none ↔ rows = [] := by
  cases rows <;> simp [made]

theorem made_isSome {acc : Accumulation ρ α} {rows : List ρ} :
    (acc.made rows).isSome ↔ rows ≠ [] := by
  cases rows <;> simp [made]

theorem made_invariant {acc : Accumulation ρ α} {P : List ρ → α → Prop}
    (hstart : ∀ row, P [row] (acc.start row))
    (hgrow : ∀ rows old row, P rows old → P (rows ++ [row]) (acc.grow old row))
    {rows : List ρ} {result : α} (hmade : acc.made rows = some result) : P rows result := by
  induction rows using List.reverseRecOn generalizing result with
  | nil => cases hmade
  | append_singleton rows row ih =>
      rw [made_concat] at hmade
      obtain rfl := Option.some.inj hmade
      cases hbefore : acc.made rows with
      | none =>
          rw [made_eq_none.1 hbefore]
          exact hstart row
      | some old => exact hgrow rows old row (ih hbefore)

/-- A reading of the accumulator that grows with each row by a weight of the row. -/
structure Additive [AddCommMonoid N] (acc : Accumulation ρ α) (reading : α → N) (weight : ρ → N) :
    Prop where
  start : ∀ row, reading (acc.start row) = weight row
  grow : ∀ old row, reading (acc.grow old row) = reading old + weight row

theorem Additive.made [AddCommMonoid N] {acc : Accumulation ρ α} {reading : α → N} {weight : ρ → N}
    (hadditive : acc.Additive reading weight) {rows : List ρ} {result : α}
    (hmade : acc.made rows = some result) : reading result = tally weight rows := by
  apply made_invariant (P := fun rows result => reading result = tally weight rows) _ _ hmade
  · intro row
    rw [tally_cons, tally_nil, add_zero]
    exact hadditive.start row
  · intro rows old row hsum
    rw [tally_append, tally_cons, tally_nil, add_zero, ← hsum]
    exact hadditive.grow old row

theorem Additive.getD_made [AddCommMonoid N] {acc : Accumulation ρ α} {reading : α → N}
    {weight : ρ → N} (hadditive : acc.Additive reading weight) (rows : List ρ) :
    ((acc.made rows).map reading).getD 0 = tally weight rows := by
  cases hmade : acc.made rows with
  | none =>
      rw [made_eq_none.1 hmade]
      rfl
  | some result => exact hadditive.made hmade

def sum [AddCommMonoid N] (amount : ρ → N) : Accumulation ρ N where
  start := fun row => 0 + amount row
  grow := fun total row => total + amount row

theorem sum_additive [AddCommMonoid N] (amount : ρ → N) : (sum amount).Additive id amount :=
  ⟨fun _ => zero_add _, fun _ _ => rfl⟩

/-- The rows themselves, in the order in which they came. -/
def rows : Accumulation ρ (List ρ) where
  start := fun row => [row]
  grow := fun group row => group ++ [row]

theorem made_rows (list : List ρ) : rows.made list = if list = [] then none else some list := by
  cases list with
  | nil => rfl
  | cons first rest =>
      have hfold : ∀ (later group : List ρ), later.foldl rows.grow group = group ++ later := by
        intro later
        induction later with
        | nil => simp
        | cons row later ih =>
            intro group
            rw [foldl_cons, ih]
            simp [rows]
      rw [if_neg (cons_ne_nil first rest)]
      exact congrArg some (hfold rest [first])

@[simp] theorem getD_made_rows (list : List ρ) : (rows.made list).getD [] = list := by
  rw [made_rows]
  split_ifs with hnone
  · exact hnone.symm
  · rfl

/-- The row that came first. -/
def first : Accumulation ρ ρ where
  start := id
  grow := fun kept _ => kept

@[simp] theorem made_first (list : List ρ) : first.made list = list.head? := by
  cases list with
  | nil => rfl
  | cons row rest => exact congrArg some (foldl_fixed rest)

def last : Accumulation ρ ρ where
  start := id
  grow := fun _ row => row

@[simp] theorem made_last (list : List ρ) : last.made list = list.getLast? := by
  cases list with
  | nil => rfl
  | cons row rest =>
      have hlast : ∀ (later : List ρ) (kept : ρ),
          some (later.foldl last.grow kept) = (kept :: later).getLast? := by
        intro later
        induction later with
        | nil => simp
        | cons next later ih =>
            intro kept
            rw [foldl_cons, ih, List.getLast?_cons_cons]
            rfl
      exact hlast rest row

end Accumulation

section Collect

variable [DecidableEq κ]

/-- One turn of the loop. -/
def put (acc : Accumulation ρ α) (keyOf : ρ → κ) (map : OrderedMap κ α) (row : ρ) :
    OrderedMap κ α :=
  map.set (keyOf row) (acc.next row (map.get? (keyOf row)))

/-- The loop. -/
def collect (acc : Accumulation ρ α) (keyOf : ρ → κ) (list : List ρ) : OrderedMap κ α :=
  list.foldl (put acc keyOf) Table.empty

variable (acc : Accumulation ρ α) (keyOf : ρ → κ)

@[simp] theorem collect_concat (list : List ρ) (row : ρ) :
    collect acc keyOf (list ++ [row]) = put acc keyOf (collect acc keyOf list) row := by
  simp [collect]

theorem get?_collect (list : List ρ) (k : κ) :
    (collect acc keyOf list).get? k = acc.made (list.filter fun row => keyOf row = k) := by
  induction list using List.reverseRecOn with
  | nil => rfl
  | append_singleton list row ih =>
      rw [collect_concat, put, OrderedMap.get?_set, filter_append]
      by_cases hkey : keyOf row = k
      · subst hkey
        simp [ih]
      · simp [ih, hkey, Ne.symm hkey]

theorem mem_keys_collect {list : List ρ} {k : κ} :
    k ∈ (collect acc keyOf list).keys ↔ ∃ row ∈ list, keyOf row = k := by
  rw [← OrderedMap.get?_isSome, get?_collect, Accumulation.made_isSome, Ne, filter_eq_nil_iff]
  simp

theorem mem_collect {list : List ρ} {entry : κ × α} :
    entry ∈ (collect acc keyOf list).rows ↔
      acc.made (list.filter fun row => keyOf row = entry.1) = some entry.2 := by
  rw [← get?_collect, OrderedMap.mem_rows]

end Collect

theorem nodup_eraseDups [DecidableEq κ] : ∀ list : List κ, list.eraseDups.Nodup := by
  suffices hall : ∀ (bound : ℕ) (list : List κ), list.length ≤ bound → list.eraseDups.Nodup from
    fun list => hall list.length list le_rfl
  intro bound
  induction bound with
  | zero =>
      intro list hlength
      simp [length_eq_zero_iff.1 (Nat.le_zero.1 hlength)]
  | succ bound ih =>
      intro list hlength
      cases list with
      | nil => simp
      | cons head rest =>
          have hfewer := length_filter_le (fun other => !other == head) rest
          rw [length_cons] at hlength
          rw [eraseDups_cons, nodup_cons]
          exact ⟨by simp, ih _ (by omega)⟩

section Sums

variable [DecidableEq κ] [AddCommMonoid N]

theorem tally_partition (keyOf : ρ → κ) (weight : ρ → N) {keys : List κ} (hnodup : keys.Nodup)
    {list : List ρ} (hcover : ∀ row ∈ list, keyOf row ∈ keys) :
    tally (fun k => tally weight (list.filter fun row => keyOf row = k)) keys =
      tally weight list := by
  induction keys generalizing list with
  | nil =>
      cases list with
      | nil => rfl
      | cons row rest => exact absurd (hcover row (mem_cons_self ..)) not_mem_nil
  | cons k rest ih =>
      rw [nodup_cons] at hnodup
      have hothers : ∀ row ∈ list.filter (fun row => ¬ keyOf row = k), keyOf row ∈ rest := by
        intro row hrow
        obtain ⟨hmem, hne⟩ := mem_filter.1 hrow
        exact (mem_cons.1 (hcover row hmem)).resolve_left (of_decide_eq_true hne)
      have hrest : tally (fun other => tally weight (list.filter fun row => keyOf row = other)) rest =
          tally weight (list.filter fun row => ¬ keyOf row = k) := by
        rw [← ih hnodup.2 hothers]
        apply tally_congr
        intro other hother
        have hne : other ≠ k := fun hsame => hnodup.1 (hsame ▸ hother)
        rw [filter_filter]
        congr 1
        apply filter_congr
        intro row _
        by_cases hkey : keyOf row = other
        · simp [hkey, hne]
        · simp [hkey]
      rw [tally_cons, hrest]
      exact tally_filter_add_not weight (fun row => keyOf row = k) list

variable (acc : Accumulation ρ α) (keyOf : ρ → κ)

theorem tally_collect {reading : α → N} {weight : ρ → N} (hadditive : acc.Additive reading weight)
    (list : List ρ) :
    tally (fun entry => reading entry.2) (collect acc keyOf list).rows = tally weight list := by
  have hcover : ∀ row ∈ list, keyOf row ∈ (collect acc keyOf list).keys :=
    fun row hrow => (mem_keys_collect acc keyOf).2 ⟨row, hrow, rfl⟩
  rw [← tally_partition keyOf weight (OrderedMap.keys_nodup _) hcover, OrderedMap.keys, tally_map]
  apply tally_congr
  intro entry hentry
  exact hadditive.made ((mem_collect acc keyOf).1 hentry)

end Sums

section OrderedSums

variable [AddCommMonoid N] [PartialOrder N] [IsOrderedAddMonoid N]

theorem tally_le_of_keyed (keyOf : ρ → κ) {weight weight' : ρ → N} {part whole : List ρ}
    (hnodup : (part.map keyOf).Nodup)
    (hcovered : ∀ row ∈ part, ∃ other ∈ whole, keyOf other = keyOf row ∧ weight row ≤ weight' other)
    (hnonneg : ∀ row ∈ whole, 0 ≤ weight' row) : tally weight part ≤ tally weight' whole := by
  induction part generalizing whole with
  | nil => exact sum_nonneg (forall_mem_map.2 hnonneg)
  | cons row rest ih =>
      rw [map_cons, nodup_cons] at hnodup
      obtain ⟨other, hother, hkey, hle⟩ := hcovered row (mem_cons_self ..)
      obtain ⟨before, after, rfl⟩ := append_of_mem hother
      have hrest : tally weight rest ≤ tally weight' (before ++ after) := by
        apply ih hnodup.2
        · intro next hnext
          obtain ⟨found, hfound, hnextKey, hnextLe⟩ :=
            hcovered next (mem_cons_of_mem row hnext)
          have hne : found ≠ other := by
            rintro rfl
            exact hnodup.1 (hkey.symm.trans hnextKey ▸ mem_map_of_mem hnext)
          refine ⟨found, ?_, hnextKey, hnextLe⟩
          simpa [hne] using hfound
        · intro found hfound
          apply hnonneg
          simp only [mem_append, mem_cons] at hfound ⊢
          tauto
      calc tally weight (row :: rest) = weight row + tally weight rest := tally_cons ..
        _ ≤ weight' other + tally weight' (before ++ after) := add_le_add hle hrest
        _ = tally weight' (before ++ other :: after) := by
          rw [tally_append, tally_append, tally_cons]
          exact add_left_comm ..

end OrderedSums

section CollectSome

variable [DecidableEq κ]

/-- One turn of a loop that passes over the rows with no key. -/
def putSome (acc : Accumulation ρ α) (keyOf : ρ → Option κ) (map : OrderedMap κ α) (row : ρ) :
    OrderedMap κ α :=
  match keyOf row with
  | none => map
  | some k => map.set k (acc.next row (map.get? k))

def collectSome (acc : Accumulation ρ α) (keyOf : ρ → Option κ) (list : List ρ) : OrderedMap κ α :=
  list.foldl (putSome acc keyOf) Table.empty

variable (acc : Accumulation ρ α) (keyOf : ρ → Option κ)

@[simp] theorem collectSome_concat (list : List ρ) (row : ρ) :
    collectSome acc keyOf (list ++ [row]) = putSome acc keyOf (collectSome acc keyOf list) row := by
  simp [collectSome]

theorem get?_collectSome (list : List ρ) (k : κ) :
    (collectSome acc keyOf list).get? k = acc.made (list.filter fun row => keyOf row = some k) := by
  induction list using List.reverseRecOn with
  | nil => rfl
  | append_singleton list row ih =>
      rw [collectSome_concat, putSome, filter_append]
      cases hrow : keyOf row with
      | none => simp [hrow, ih]
      | some own =>
          by_cases hkey : own = k
          · subst hkey
            simp [hrow, OrderedMap.get?_set, ih]
          · simp [hrow, OrderedMap.get?_set, ih, hkey, Ne.symm hkey]

theorem mem_keys_collectSome {list : List ρ} {k : κ} :
    k ∈ (collectSome acc keyOf list).keys ↔ ∃ row ∈ list, keyOf row = some k := by
  rw [← OrderedMap.get?_isSome, get?_collectSome, Accumulation.made_isSome, Ne,
    filter_eq_nil_iff]
  simp

theorem mem_collectSome {list : List ρ} {entry : κ × α} :
    entry ∈ (collectSome acc keyOf list).rows ↔
      acc.made (list.filter fun row => keyOf row = some entry.1) = some entry.2 := by
  rw [← get?_collectSome, OrderedMap.mem_rows]

theorem getD_collectSome_sum [AddCommMonoid N] (amount : ρ → N) (list : List ρ) (k : κ) :
    ((collectSome (Accumulation.sum amount) keyOf list).get? k).getD 0 =
      tally amount (list.filter fun row => keyOf row = some k) := by
  rw [get?_collectSome, ← (Accumulation.sum_additive amount).getD_made]
  simp

theorem tally_partition_some [AddCommMonoid N] (weight : ρ → N) {keys : List κ}
    (hnodup : keys.Nodup) {list : List ρ}
    (hcover : ∀ row ∈ list, ∀ k ∈ keyOf row, k ∈ keys) :
    tally (fun k => tally weight (list.filter fun row => keyOf row = some k)) keys +
        tally weight (list.filter fun row => keyOf row = none) =
      tally weight list := by
  have hall : (none :: keys.map some).Nodup := by
    simp [hnodup.map (Option.some_injective κ)]
  have hrows : ∀ row ∈ list, keyOf row ∈ none :: keys.map some := by
    intro row hrow
    cases hkey : keyOf row with
    | none => simp
    | some k => simp [hcover row hrow k (by simp [hkey])]
  rw [← tally_partition keyOf weight hall hrows, tally_cons, tally_map, add_comm]

end CollectSome

end Library.KeyedFold
