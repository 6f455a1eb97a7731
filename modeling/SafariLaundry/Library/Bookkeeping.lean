import Mathlib

/-!
# Double-entry journals

A journal is an append-only list of entries under unique keys: posting an entry
whose key is taken changes nothing.  A figure read off a journal is a tally, the
sum over its entries of a weight.  The lemmas say what posting a batch of
entries does to a tally and to the set of posted keys.
-/

namespace Library

namespace Bookkeeping

open List

section Lines

variable {α : Type}

/-- One line of an entry: an account and the amount on either side of it. -/
structure Line (α : Type) where
  account : α
  (debit credit : ℤ)
  deriving DecidableEq

def net [DecidableEq α] (account : α) (lines : List (Line α)) : ℤ :=
  (lines.map fun line =>
    if line.account = account then line.debit - line.credit else 0).sum

def debits (p : α → Prop) [DecidablePred p] (lines : List (Line α)) : ℤ :=
  (lines.map fun line => if p line.account then line.debit else 0).sum

def credits (p : α → Prop) [DecidablePred p] (lines : List (Line α)) : ℤ :=
  (lines.map fun line => if p line.account then line.credit else 0).sum

@[simp] theorem net_nil [DecidableEq α] (account : α) :
    net account ([] : List (Line α)) = 0 := rfl

@[simp] theorem net_cons [DecidableEq α] (account : α) (line : Line α) (lines : List (Line α)) :
    net account (line :: lines) = (if line.account = account then line.debit - line.credit else 0) +
        net account lines := rfl

@[simp] theorem debits_nil (p : α → Prop) [DecidablePred p] :
    debits p ([] : List (Line α)) = 0 := rfl

@[simp] theorem debits_cons (p : α → Prop) [DecidablePred p]
    (line : Line α) (lines : List (Line α)) :
    debits p (line :: lines) = (if p line.account then line.debit else 0) + debits p lines := rfl

@[simp] theorem credits_nil (p : α → Prop) [DecidablePred p] :
    credits p ([] : List (Line α)) = 0 := rfl

@[simp] theorem credits_cons (p : α → Prop) [DecidablePred p]
    (line : Line α) (lines : List (Line α)) :
    credits p (line :: lines) = (if p line.account then line.credit else 0) + credits p lines := rfl

end Lines

section Tally

variable {ε M : Type} [AddCommMonoid M]

def tally (weight : ε → M) (journal : List ε) : M :=
  (journal.map weight).sum

variable (weight : ε → M)

@[simp] theorem tally_nil : tally weight [] = 0 := rfl

@[simp] theorem tally_cons (entry : ε) (journal : List ε) :
    tally weight (entry :: journal) = weight entry + tally weight journal := rfl

@[simp] theorem tally_append (first second : List ε) :
    tally weight (first ++ second) = tally weight first + tally weight second := by
  simp [tally, sum_append]

theorem tally_eq_zero {journal : List ε} (hzero : ∀ entry ∈ journal, weight entry = 0) :
    tally weight journal = 0 := by
  induction journal with
  | nil => rfl
  | cons entry rest ih =>
      have hhead : weight entry = 0 := hzero entry (by simp)
      have htail : tally weight rest = 0 :=
        ih fun other hother => hzero other (mem_cons_of_mem entry hother)
      rw [tally_cons, hhead, htail, add_zero]

theorem tally_perm {first second : List ε} (hperm : first.Perm second) :
    tally weight first = tally weight second :=
  (hperm.map weight).sum_eq

theorem tally_filter (p : ε → Prop) [DecidablePred p] (journal : List ε) :
    tally weight (journal.filter fun entry => p entry) =
      tally (fun entry => if p entry then weight entry else 0) journal := by
  induction journal with
  | nil => rfl
  | cons entry rest ih =>
      by_cases hp : p entry
      · rw [filter_cons_of_pos (by simpa using hp), tally_cons, tally_cons, if_pos hp, ih]
      · rw [filter_cons_of_neg (by simpa using hp), tally_cons, if_neg hp, zero_add, ih]

theorem tally_filter_add_not (p : ε → Prop) [DecidablePred p] (journal : List ε) :
    tally weight (journal.filter fun entry => p entry) +
        tally weight (journal.filter fun entry => ¬ p entry) =
      tally weight journal := by
  induction journal with
  | nil => simp
  | cons entry rest ih =>
      by_cases hp : p entry
      · simp [hp, ← ih, add_assoc]
      · simp [hp, ← ih, add_left_comm]

theorem tally_map {κ : Type} (f : κ → ε) (items : List κ) :
    tally weight (items.map f) = tally (fun item => weight (f item)) items := by
  unfold tally
  rw [map_map]
  rfl

theorem tally_flatMap {κ : Type} (f : κ → List ε) (items : List κ) :
    tally weight (items.flatMap f) = tally (fun item => tally weight (f item)) items := by
  induction items with
  | nil => rfl
  | cons item rest ih => rw [flatMap_cons, tally_append, tally_cons, ih]

theorem tally_one (items : List ε) : tally (fun _ => 1) items = items.length := by
  induction items with
  | nil => rfl
  | cons item rest ih => simp [ih, add_comm]

theorem tally_congr {weight' : ε → M} {journal : List ε}
    (hsame : ∀ entry ∈ journal, weight entry = weight' entry) :
    tally weight journal = tally weight' journal :=
  congrArg List.sum (map_congr_left hsame)

theorem tally_diff {G : Type} [AddCommGroup G] (first second : ε → G) (items : List ε) :
    tally (fun item => first item - second item) items = tally first items - tally second items := by
  induction items with
  | nil => simp
  | cons item rest ih =>
      rw [tally_cons, tally_cons, tally_cons, ih]
      abel

end Tally

section Running

variable {ε ρ : Type}

/-- A statement over these entries: each row is made of its entry and of the balance after
it. -/
def running (weight : ε → ℤ) (row : ε → ℤ → ρ) : ℤ → List ε → List ρ
  | _, [] => []
  | balance, entry :: rest =>
      row entry (balance + weight entry) :: running weight row (balance + weight entry) rest

def closing (weight : ε → ℤ) (balance : ℤ) (entries : List ε) : ℤ :=
  entries.foldl (fun current entry => current + weight entry) balance

theorem closing_eq (weight : ε → ℤ) (balance : ℤ) (entries : List ε) :
    closing weight balance entries = balance + tally weight entries := by
  induction entries generalizing balance with
  | nil => exact (add_zero balance).symm
  | cons entry rest ih =>
      rw [tally_cons, ← add_assoc]
      exact ih (balance + weight entry)

theorem map_running {κ : Type} {weight : ε → ℤ} {row : ε → ℤ → ρ} {shown : ρ → κ} {of : ε → κ}
    (hshown : ∀ entry balance, shown (row entry balance) = of entry) (start : ℤ)
    (entries : List ε) : (running weight row start entries).map shown = entries.map of := by
  induction entries generalizing start with
  | nil => rfl
  | cons entry rest ih =>
      unfold running
      rw [map_cons, hshown, ih, map_cons]

theorem balance_of_running {weight : ε → ℤ} {row : ε → ℤ → ρ} {amount balanceOf : ρ → ℤ}
    (hamount : ∀ entry balance, amount (row entry balance) = weight entry)
    (hbalance : ∀ entry balance, balanceOf (row entry balance) = balance)
    {start : ℤ} {entries : List ε} {k : ℕ} {found : ρ}
    (hfound : (running weight row start entries)[k]? = some found) :
    balanceOf found = start + tally amount ((running weight row start entries).take (k + 1)) := by
  induction entries generalizing start k with
  | nil => cases hfound
  | cons entry rest ih =>
      unfold running at hfound ⊢
      cases k with
      | zero =>
          obtain rfl := Option.some.inj hfound
          rw [hbalance, take_succ_cons, take_zero, tally_cons, hamount, tally_nil,
            add_zero]
      | succ k =>
          have hrest := ih hfound
          rw [take_succ_cons, tally_cons, hamount, hrest, add_assoc]

end Running

section OrderedTally

variable {ε : Type} {weight : ε → ℤ}

variable {journal : List ε}

theorem tally_nonneg_of_mem {N : Type} [AddCommMonoid N] [PartialOrder N] [IsOrderedAddMonoid N]
    {amount : ε → N} (hamount : ∀ entry ∈ journal, 0 ≤ amount entry) :
    0 ≤ tally amount journal :=
  sum_nonneg (forall_mem_map.2 hamount)

theorem tally_nonneg (hweight : ∀ entry, 0 ≤ weight entry) (journal : List ε) :
    0 ≤ tally weight journal :=
  tally_nonneg_of_mem fun entry _ => hweight entry

theorem tally_le_of_sublist (hweight : ∀ entry, 0 ≤ weight entry) {part : List ε}
    (hpart : part.Sublist journal) :
    tally weight part ≤ tally weight journal := by
  induction hpart with
  | slnil => rfl
  | cons entry _ ih =>
      rw [tally_cons]
      have hentry := hweight entry
      omega
  | cons_cons entry _ ih =>
      rw [tally_cons, tally_cons]
      omega

theorem tally_eq_zero_iff (hweight : ∀ entry ∈ journal, 0 ≤ weight entry) :
    tally weight journal = 0 ↔ ∀ entry ∈ journal, weight entry = 0 := by
  induction journal with
  | nil => exact iff_of_true rfl fun _ hentry => absurd hentry not_mem_nil
  | cons entry rest ih =>
      obtain ⟨hfirst, hlater⟩ := forall_mem_cons.1 hweight
      have hrest := tally_nonneg_of_mem hlater
      rw [tally_cons, forall_mem_cons, ← ih hlater]
      omega

theorem tally_filter_eq_iff (hweight : ∀ entry ∈ journal, 0 < weight entry) (p : ε → Prop)
    [DecidablePred p] :
    tally weight (journal.filter fun entry => p entry) = tally weight journal ↔
      ∀ entry ∈ journal, p entry := by
  constructor
  · intro hsame entry hentry
    by_contra hnot
    have hsplit := tally_filter_add_not weight p journal
    obtain ⟨before, after, hlist⟩ := append_of_mem
      (mem_filter.2 ⟨hentry, decide_eq_true hnot⟩ :
        entry ∈ journal.filter fun entry => ¬ p entry)
    have hrest : ∀ other ∈ before ++ after, 0 ≤ weight other := by
      intro other hother
      have hmem : other ∈ journal.filter fun entry => ¬ p entry := by
        rw [hlist]
        rcases mem_append.1 hother with hbefore | hafter
        · exact mem_append_left _ hbefore
        · exact mem_append_right _ (mem_cons_of_mem entry hafter)
      exact (hweight other (mem_filter.1 hmem).1).le
    have hothers := tally_nonneg_of_mem hrest
    have hpos := hweight entry hentry
    rw [hlist, tally_append, tally_cons] at hsplit
    rw [tally_append] at hothers
    omega
  · intro hall
    rw [filter_eq_self.2 fun entry hentry => decide_eq_true (hall entry hentry)]

end OrderedTally

section Posting

variable {ε κ : Type} (key : ε → κ)

def Posted (journal : List ε) (k : κ) : Prop :=
  ∃ entry ∈ journal, key entry = k

@[simp] theorem not_posted_nil (k : κ) : ¬ Posted key [] k := by
  simp [Posted]

@[simp] theorem posted_append (first second : List ε) (k : κ) :
    Posted key (first ++ second) k ↔ Posted key first k ∨ Posted key second k := by
  constructor
  · rintro ⟨entry, hmem, hkey⟩
    rcases mem_append.1 hmem with hfirst | hsecond
    · exact .inl ⟨entry, hfirst, hkey⟩
    · exact .inr ⟨entry, hsecond, hkey⟩
  · rintro (⟨entry, hmem, hkey⟩ | ⟨entry, hmem, hkey⟩)
    · exact ⟨entry, mem_append.2 (.inl hmem), hkey⟩
    · exact ⟨entry, mem_append.2 (.inr hmem), hkey⟩

@[simp] theorem posted_singleton (entry : ε) (k : κ) :
    Posted key [entry] k ↔ key entry = k := by
  simp [Posted]

variable [DecidableEq κ]

instance (journal : List ε) (k : κ) : Decidable (Posted key journal k) :=
  inferInstanceAs (Decidable (∃ entry ∈ journal, key entry = k))

def post (journal : List ε) (entry : ε) : List ε :=
  if Posted key journal (key entry) then journal else journal ++ [entry]

/-- Post a batch in order. -/
def postAll (journal : List ε) (entries : List ε) : List ε :=
  entries.foldl (post key) journal

def unposted (journal : List ε) (entries : List ε) : List ε :=
  entries.filter fun entry => ¬ Posted key journal (key entry)

@[simp] theorem postAll_nil (journal : List ε) : postAll key journal [] = journal := rfl

@[simp] theorem postAll_cons (journal : List ε) (entry : ε) (entries : List ε) :
    postAll key journal (entry :: entries) = postAll key (post key journal entry) entries := rfl

theorem postAll_append (journal first second : List ε) :
    postAll key journal (first ++ second) =
      postAll key (postAll key journal first) second := by
  unfold postAll
  exact foldl_append

@[simp] theorem posted_post (journal : List ε) (entry : ε) (k : κ) :
    Posted key (post key journal entry) k ↔
      Posted key journal k ∨ key entry = k := by
  unfold post
  by_cases htaken : Posted key journal (key entry)
  · rw [if_pos htaken]
    constructor
    · exact .inl
    · rintro (hold | hkey)
      · exact hold
      · rwa [← hkey]
  · rw [if_neg htaken, posted_append, posted_singleton]

theorem posted_postAll (journal entries : List ε) (k : κ) :
    Posted key (postAll key journal entries) k ↔
      Posted key journal k ∨ Posted key entries k := by
  induction entries generalizing journal with
  | nil => simp
  | cons entry entries ih =>
      rw [postAll_cons, ih, posted_post]
      have hsplit :
          Posted key (entry :: entries) k ↔ key entry = k ∨ Posted key entries k := by
        simp [Posted]
      rw [hsplit, or_assoc]

variable {journal entries : List ε}

theorem mem_or_of_mem_postAll {entry : ε} (hmem : entry ∈ postAll key journal entries) :
    entry ∈ journal ∨ entry ∈ entries := by
  induction entries generalizing journal with
  | nil => exact .inl hmem
  | cons first rest ih =>
      rw [postAll_cons] at hmem
      rcases ih hmem with hposted | hlater
      · unfold post at hposted
        split_ifs at hposted with htaken
        · exact .inl hposted
        · rcases mem_append.1 hposted with hold | hnew
          · exact .inl hold
          · exact .inr (mem_singleton.1 hnew ▸ mem_cons_self ..)
      · exact .inr (mem_cons_of_mem first hlater)

theorem nodup_postAll (hnodup : (journal.map key).Nodup) (entries : List ε) :
    ((postAll key journal entries).map key).Nodup := by
  induction entries generalizing journal with
  | nil => exact hnodup
  | cons first rest ih =>
      rw [postAll_cons]
      apply ih
      unfold post
      split_ifs with htaken
      · exact hnodup
      · rw [map_append, map_singleton]
        refine hnodup.append (nodup_singleton _) ?_
        rw [disjoint_singleton, mem_map]
        exact htaken

@[simp] theorem unposted_nil (journal : List ε) : unposted key journal [] = [] := rfl

theorem unposted_cons (journal : List ε) (entry : ε) (entries : List ε) :
    unposted key journal (entry :: entries) =
      (if Posted key journal (key entry) then [] else [entry]) ++
        unposted key journal entries := by
  unfold unposted
  by_cases htaken : Posted key journal (key entry)
  · simp [htaken]
  · simp [htaken]

theorem unposted_append (journal first second : List ε) :
    unposted key journal (first ++ second) =
      unposted key journal first ++ unposted key journal second := by
  simp [unposted]

theorem unposted_eq_self (hfresh : ∀ entry ∈ entries, ¬ Posted key journal (key entry)) :
    unposted key journal entries = entries := by
  unfold unposted
  rw [filter_eq_self]
  intro entry hentry
  simpa using hfresh entry hentry

theorem unposted_post {entry : ε} (hdistinct : ∀ other ∈ entries, key other ≠ key entry) :
    unposted key (post key journal entry) entries = unposted key journal entries := by
  unfold unposted
  apply filter_congr
  intro other hother
  have hne : ¬ key entry = key other := fun heq => hdistinct other hother heq.symm
  simp [hne]

theorem postAll_eq_append (hdistinct : (entries.map key).Nodup) :
    postAll key journal entries = journal ++ unposted key journal entries := by
  induction entries generalizing journal with
  | nil => simp
  | cons entry entries ih =>
      rw [map_cons, nodup_cons] at hdistinct
      have hother : ∀ other ∈ entries, key other ≠ key entry := by
        intro other hmem heq
        exact hdistinct.1 (heq ▸ mem_map_of_mem hmem)
      rw [postAll_cons, ih hdistinct.2, unposted_post key hother, unposted_cons]
      unfold post
      by_cases htaken : Posted key journal (key entry)
      · simp [htaken]
      · simp [htaken]

theorem postAll_eq_append_of_fresh (hdistinct : (entries.map key).Nodup)
    (hfresh : ∀ entry ∈ entries, ¬ Posted key journal (key entry)) :
    postAll key journal entries = journal ++ entries := by
  rw [postAll_eq_append key hdistinct, unposted_eq_self key hfresh]

theorem tally_post {M : Type} [AddCommMonoid M] (weight : ε → M) (journal : List ε) (entry : ε) :
    tally weight (post key journal entry) = tally weight journal +
        if Posted key journal (key entry) then 0 else weight entry := by
  unfold post
  by_cases htaken : Posted key journal (key entry)
  · simp [htaken]
  · simp [htaken]

end Posting

end Bookkeeping

end Library
