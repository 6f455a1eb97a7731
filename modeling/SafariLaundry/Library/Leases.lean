import SafariLaundry.Library.OrderedMap

/-!
# Leases

Under each key stands a lease that lapses at an instant of its own.  A lease that is granted
takes the place of the one before, and is left standing until it is given up or a sweep finds
it lapsed.  Whenever the leases are read after a sweep, its work does not show: what has not
lapsed is what was granted last and was not given up since.
-/

namespace Library.Leases

open List

variable {κ κ' α : Type}

/-- What is done to the leases. -/
inductive Deed (κ α : Type)
  | grant (k : κ) (lease : α)
  | release (k : κ)
  | sweep (now : ℕ)

def Deed.rekey (f : κ → κ') : Deed κ α → Deed κ' α
  | .grant k lease => .grant (f k) lease
  | .release k => .release (f k)
  | .sweep now => .sweep now

/-- Whether the deed is about a lease under a key of this kind. -/
def Deed.Concerns (P : κ → Prop) : Deed κ α → Prop
  | .grant k _ => P k
  | .release k => P k
  | .sweep _ => False

/-- No sweep is later than the reading. -/
def SweptBefore (now : ℕ) (deeds : List (Deed κ α)) : Prop :=
  ∀ t, .sweep t ∈ deeds → t ≤ now

section Register

variable [DecidableEq κ] (expiresAt : α → ℕ)

def Deed.apply (map : OrderedMap κ α) : Deed κ α → OrderedMap κ α
  | .grant k lease => map.set k lease
  | .release k => map.keepWhere fun entry => entry.1 ≠ k
  | .sweep now => map.keepWhere fun entry => now < expiresAt entry.2

/-- The leases after these deeds, of which the first is the latest. -/
def register (deeds : List (Deed κ α)) : OrderedMap κ α :=
  deeds.foldr (fun deed map => deed.apply expiresAt map) Table.empty

/-- What the latest deed on a key made of it, whether it has lapsed or not. -/
def standing (k : κ) : List (Deed κ α) → Option α
  | [] => none
  | .grant other lease :: past => if k = other then some lease else standing k past
  | .release other :: past => if k = other then none else standing k past
  | .sweep _ :: past => standing k past

/-- What stands unlapsed. -/
def live (now : ℕ) (lease : Option α) : Option α :=
  lease.filter fun lease => now < expiresAt lease

variable {expiresAt} {now : ℕ} {deeds : List (Deed κ α)} {k : κ} {lease : α}

theorem live_eq_some {found : Option α} :
    live expiresAt now found = some lease ↔ found = some lease ∧ now < expiresAt lease := by
  rw [live, Option.filter_eq_some_iff, decide_eq_true_eq]

theorem grant_of_standing (hstanding : standing k deeds = some lease) :
    .grant k lease ∈ deeds := by
  induction deeds with
  | nil => cases hstanding
  | cons deed past ih =>
      cases deed with
      | grant other lease =>
          rw [standing] at hstanding
          split_ifs at hstanding with hkey
          · obtain rfl := Option.some.inj hstanding
            exact hkey ▸ mem_cons_self ..
          · exact mem_cons_of_mem _ (ih hstanding)
      | release other =>
          rw [standing] at hstanding
          split_ifs at hstanding
          exact mem_cons_of_mem _ (ih hstanding)
      | sweep t => exact mem_cons_of_mem _ (ih hstanding)

theorem live_sweep {t : ℕ} (hpast : t ≤ now) (map : OrderedMap κ α) (k : κ) :
    live expiresAt now ((Deed.apply expiresAt map (.sweep t)).get? k) =
      live expiresAt now (map.get? k) := by
  apply Option.ext
  intro lease
  rw [live_eq_some, live_eq_some, Deed.apply, OrderedMap.get?_keepWhere,
    Option.filter_eq_some_iff, decide_eq_true_eq]
  constructor
  · rintro ⟨⟨hfound, _⟩, hlive⟩
    exact ⟨hfound, hlive⟩
  · rintro ⟨hfound, hlive⟩
    exact ⟨⟨hfound, hpast.trans_lt hlive⟩, hlive⟩

theorem get?_release (map : OrderedMap κ α) (k other : κ) :
    (Deed.apply expiresAt map (.release other)).get? k =
      if k = other then none else map.get? k := by
  rw [Deed.apply, OrderedMap.get?_keepWhere]
  cases map.get? k with
  | none => simp
  | some lease => by_cases hsame : k = other <;> simp [hsame]

/-- Sweeps do not show. -/
theorem live_register (hswept : SweptBefore now deeds) (k : κ) :
    live expiresAt now ((register expiresAt deeds).get? k) =
      live expiresAt now (standing k deeds) := by
  induction deeds with
  | nil => rfl
  | cons deed past ih =>
      have hbefore := ih fun t ht => hswept t (mem_cons_of_mem _ ht)
      change live expiresAt now ((deed.apply expiresAt (register expiresAt past)).get? k) = _
      cases deed with
      | grant other lease =>
          rw [Deed.apply, OrderedMap.get?_set, standing]
          split_ifs
          · rfl
          · exact hbefore
      | release other =>
          rw [get?_release, standing]
          split_ifs
          · rfl
          · exact hbefore
      | sweep t => rw [live_sweep (hswept t (mem_cons_self ..)), hbefore, standing]

theorem mem_register (hswept : SweptBefore now deeds) {entry : κ × α}
    (hlive : now < expiresAt entry.2) :
    entry ∈ (register expiresAt deeds).rows ↔ standing entry.1 deeds = some entry.2 := by
  have hsame : live expiresAt now ((register expiresAt deeds).get? entry.1) = some entry.2 ↔
      live expiresAt now (standing entry.1 deeds) = some entry.2 := by
    rw [live_register hswept]
  rw [live_eq_some, live_eq_some, and_iff_left hlive, and_iff_left hlive] at hsame
  rw [OrderedMap.mem_rows, hsame]

theorem forall_mem_register {P : κ × α → Prop}
    (hgrant : ∀ k lease, .grant k lease ∈ deeds → P (k, lease)) :
    ∀ entry ∈ (register expiresAt deeds).rows, P entry := by
  induction deeds with
  | nil => simp [register, Table.empty]
  | cons deed past ih =>
      have hbefore := ih fun k lease hmem => hgrant k lease (mem_cons_of_mem _ hmem)
      intro entry hentry
      change entry ∈ (deed.apply expiresAt (register expiresAt past)).rows at hentry
      cases deed with
      | grant k lease =>
          rw [Deed.apply, OrderedMap.mem_rows, OrderedMap.get?_set] at hentry
          split_ifs at hentry with hkey
          · have hnew : entry = (k, lease) := Prod.ext hkey (Option.some.inj hentry).symm
            exact hnew ▸ hgrant k lease (mem_cons_self ..)
          · exact hbefore entry (OrderedMap.mem_rows.2 hentry)
      | release k => exact hbefore entry (mem_filter.1 hentry).1
      | sweep t => exact hbefore entry (mem_filter.1 hentry).1

end Register

/-- Under other keys the same leases stand, where none of them fall together. -/
theorem standing_rekey [DecidableEq κ] [DecidableEq κ'] {f : κ → κ'} {deeds : List (Deed κ α)}
    {k : κ} (hdistinct : ∀ deed ∈ deeds, ¬ deed.Concerns fun other => other ≠ k ∧ f other = f k) :
    standing (f k) (deeds.map (Deed.rekey f)) = standing k deeds := by
  induction deeds with
  | nil => rfl
  | cons deed past ih =>
      have hbefore := ih fun deed hdeed => hdistinct deed (mem_cons_of_mem _ hdeed)
      have hkey := hdistinct deed (mem_cons_self ..)
      have hiff : ∀ other, ¬ (other ≠ k ∧ f other = f k) → (f k = f other ↔ k = other) := by
        intro other hother
        constructor
        · intro hsame
          by_contra hne
          exact hother ⟨Ne.symm hne, hsame.symm⟩
        · exact congrArg f
      cases deed with
      | grant other lease =>
          simp only [map_cons, Deed.rekey, standing, hiff other hkey, hbefore]
      | release other =>
          simp only [map_cons, Deed.rekey, standing, hiff other hkey, hbefore]
      | sweep t => exact hbefore

end Library.Leases
