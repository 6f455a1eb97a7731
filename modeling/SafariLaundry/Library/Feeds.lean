import Mathlib

/-!
# Merged feeds

A feed is a list of stored rows, each with the date that its query goes by and the events
made of it.  A call reads the latest rows of every feed that are older than a cursor, and
sorts their events, latest first, into one page.  The time of the last event of a full page is
the next cursor.
-/

namespace Library

open List

section Latest

variable {α β τ : Type} [LinearOrder τ]

def latestFirst (time : α → τ) (l : List α) : List α :=
  l.insertionSort fun x y => time y ≤ time x

variable {time : α → τ} {l m : List α}

theorem latestFirst_perm (time : α → τ) (l : List α) : (latestFirst time l).Perm l :=
  perm_insertionSort _ l

theorem latestFirst_sorted (time : α → τ) (l : List α) :
    (latestFirst time l).Pairwise fun x y => time y ≤ time x := by
  have htotal : Std.Total fun x y : α => time y ≤ time x :=
    ⟨fun x y => le_total (time y) (time x)⟩
  have htrans : IsTrans α fun x y => time y ≤ time x :=
    ⟨fun _ _ _ hyx hzy => le_trans hzy hyx⟩
  exact pairwise_insertionSort _ l

theorem map_latestFirst (time : β → τ) (f : α → β) (l : List α) :
    (latestFirst (fun x => time (f x)) l).map f = latestFirst time (l.map f) :=
  map_insertionSort _ _ f l fun _ _ _ _ => Iff.rfl

theorem times_eq_of_sorted (hperm : l.Perm m) (hsorted : l.Pairwise fun x y => time y ≤ time x) :
    l.map time = (latestFirst time m).map time := by
  have htimes : (l.map time).Pairwise fun s t => t ≤ s := pairwise_map.2 hsorted
  have htimes' : ((latestFirst time m).map time).Pairwise fun s t => t ≤ s :=
    pairwise_map.2 (latestFirst_sorted time m)
  have hsame := (hperm.trans (latestFirst_perm time m).symm).map time
  refine hsame.eq_of_pairwise ?_ htimes htimes'
  intro s t _ _ hts hst
  exact le_antisymm hst hts

theorem filter_latestFirst (time : α → τ) (l : List α) (t : τ) :
    (latestFirst time l).filter (fun x => time x = t) = l.filter fun x => time x = t := by
  have hequal : (l.filter fun x => time x = t).Pairwise fun x y => time y ≤ time x := by
    apply pairwise_of_forall_mem_list
    intro x hx y hy
    have hxt := of_decide_eq_true (mem_filter.1 hx).2
    have hyt := of_decide_eq_true (mem_filter.1 hy).2
    exact (hyt.trans hxt.symm).le
  have hkept : (l.filter fun x => time x = t).Sublist (latestFirst time l) :=
    sublist_insertionSort hequal filter_sublist
  have hpart := hkept.filter fun x => time x = t
  rw [filter_filter] at hpart
  simp only [Bool.and_self] at hpart
  exact (hpart.eq_of_length ((latestFirst_perm time l).filter _).length_eq.symm).symm

variable {p : α → Prop}

theorem latestFirst_separated (hlater : ∀ x ∈ l, ∀ y ∈ l, p x → ¬ p y → time y ≤ time x)
    (hties : l.Pairwise fun x y => time x = time y → p y → p x) :
    (latestFirst time l).Pairwise fun x y => p y → p x := by
  rw [pairwise_iff_forall_sublist]
  intro x y hpair hy
  by_contra hx
  have hmem : ∀ z ∈ [x, y], z ∈ l :=
    fun z hz => (latestFirst_perm time l).subset (hpair.subset hz)
  have hle : time x ≤ time y :=
    hlater y (hmem y (by simp)) x (hmem x (by simp)) hy hx
  have hge : time y ≤ time x :=
    pairwise_iff_forall_sublist.1 (latestFirst_sorted time l) hpair
  have hsame : time x = time y := le_antisymm hle hge
  have hkept := hpair.filter fun z => time z = time y
  rw [filter_latestFirst, filter_eq_self.2 (by simp [hsame])] at hkept
  have hfirst := pairwise_iff_forall_sublist.1 hties (hkept.trans filter_sublist)
  exact hx (hfirst hsame hy)

theorem filter_append_of_separated [DecidablePred p] (hfirst : l.Pairwise fun x y => p y → p x) :
    (l.filter fun x => p x) ++ (l.filter fun x => ¬ p x) = l := by
  induction l with
  | nil => rfl
  | cons x rest ih =>
      rw [pairwise_cons] at hfirst
      by_cases hx : p x
      · rw [filter_cons_of_pos (by simpa using hx),
          filter_cons_of_neg (by simpa using hx), cons_append, ih hfirst.2]
      · have hnone : ∀ y ∈ rest, ¬ p y := fun y hy hp => hx (hfirst.1 y hy hp)
        rw [filter_cons_of_neg (by simpa using hx),
          filter_cons_of_pos (by simpa using hx),
          filter_eq_nil_iff.2 (by simpa using hnone),
          filter_eq_self.2 (by simpa using hnone), nil_append]

theorem filter_take_of_separated [DecidablePred p] {limit : ℕ}
    (hfirst : l.Pairwise fun x y => p y → p x) (hroom : (l.filter fun x => p x).length ≤ limit) :
    ((l.take limit).filter fun x => p x) = l.filter fun x => p x := by
  have htake : l.take limit = (l.filter fun x => p x) ++
      (l.filter fun x => ¬ p x).take (limit - (l.filter fun x => p x).length) := by
    conv_lhs => rw [← filter_append_of_separated hfirst]
    rw [take_append, take_of_length_le hroom]
  have hnone : ((l.filter fun x => ¬ p x).take
      (limit - (l.filter fun x => p x).length)).filter (fun x => p x) = [] := by
    apply filter_eq_nil_iff.2
    intro x hx
    simpa using (mem_filter.1 (mem_of_mem_take hx)).2
  rw [htake, filter_append, hnone, append_nil, filter_filter]
  simp

theorem take_of_separated [DecidablePred p] {limit : ℕ} (hfirst : l.Pairwise fun x y => p y → p x)
    (hroom : (l.filter fun x => p x).length = limit) :
    l.take limit = l.filter fun x => p x := by
  conv_lhs => rw [← filter_append_of_separated hfirst]
  exact take_left' hroom

theorem perm_and_perm_of_append {l' m' : List α} (hperm : (l ++ m).Perm (l' ++ m'))
    (hnodup : (l' ++ m').Nodup) (hl : l ⊆ l') (hm : m ⊆ m') : l.Perm l' ∧ m.Perm m' := by
  obtain ⟨hl', hm', hdisjoint⟩ := nodup_append'.1 hnodup
  obtain ⟨hnodupl, hnodupm, _⟩ := nodup_append'.1 (hperm.nodup_iff.2 hnodup)
  constructor
  · refine (perm_ext_iff_of_nodup hnodupl hl').2 fun x => ⟨fun hx => hl hx, fun hx => ?_⟩
    rcases mem_append.1 (hperm.symm.subset (mem_append_left m' hx)) with hmem | hmem
    · exact hmem
    · exact absurd (hm hmem) (hdisjoint hx)
  · refine (perm_ext_iff_of_nodup hnodupm hm').2 fun x => ⟨fun hx => hm hx, fun hx => ?_⟩
    rcases mem_append.1 (hperm.symm.subset (mem_append_right l' hx)) with hmem | hmem
    · exact absurd hx (hdisjoint (hl hmem))
    · exact hmem

end Latest

/-! ## Feeds -/

/-- Older than a cursor, if there is one. -/
def Older {τ : Type} [LinearOrder τ] (before : Option τ) (date : τ) : Prop :=
  ∀ t ∈ before, date < t
  deriving Decidable

def recent {ρ τ : Type} [LinearOrder τ] (date : ρ → τ) (limit : ℕ) (before : Option τ)
    (rows : List ρ) : List ρ :=
  (latestFirst date (rows.filter fun row => Older before (date row))).take limit

/-- A page of the merged events, and the cursor for the next one: the time of the last event,
if the page is full. -/
def cutPage {ε τ : Type} [LinearOrder τ] (time : ε → τ) (limit : ℕ) (merged : List ε) :
    List ε × Option τ :=
  ((latestFirst time merged).take limit,
    if ((latestFirst time merged).take limit).length = limit then
      ((latestFirst time merged).take limit).getLast?.map time
    else none)

/-- A stored row as a feed reads it: the date that its query goes by, and its events. -/
structure Reading (τ ε : Type) where
  date : τ
  events : List ε

def Reading.entries {τ ε : Type} (row : Reading τ ε) : List (τ × ε) :=
  row.events.map fun event => (row.date, event)

theorem map_recent {ρ σ τ : Type} [LinearOrder τ] (date : σ → τ) (f : ρ → σ) (limit : ℕ)
    (before : Option τ) (rows : List ρ) :
    (recent (fun row => date (f row)) limit before rows).map f =
      recent date limit before (rows.map f) := by
  unfold recent
  rw [map_take, map_latestFirst, filter_map]
  rfl

theorem exists_recent_append {ρ τ : Type} [LinearOrder τ] (date : ρ → τ) (limit : ℕ)
    (before : Option τ) (rows : List ρ) :
    ∃ missed, (recent date limit before rows ++ missed).Perm
      (rows.filter fun row => Older before (date row)) := by
  refine ⟨(latestFirst date (rows.filter fun row => Older before (date row))).drop limit, ?_⟩
  unfold recent
  rw [take_append_drop]
  exact latestFirst_perm _ _

theorem filter_recent_perm {ρ τ : Type} [LinearOrder τ] {date : ρ → τ} {limit : ℕ}
    {before : Option τ} {rows : List ρ} {p : τ → Prop} [DecidablePred p]
    (hlate : ∀ s t, s ≤ t → p s → p t)
    (hroom : ((rows.filter fun row => Older before (date row)).filter
      fun row => p (date row)).length ≤ limit) :
    ((recent date limit before rows).filter fun row => p (date row)).Perm
      ((rows.filter fun row => Older before (date row)).filter fun row => p (date row)) := by
  let older := rows.filter fun row => Older before (date row)
  have hfirst : (latestFirst date older).Pairwise fun x y => p (date y) → p (date x) :=
    (latestFirst_sorted date older).imp fun hle => hlate _ _ hle
  have hperm := (latestFirst_perm date older).filter fun row => p (date row)
  unfold recent
  rw [filter_take_of_separated hfirst (hperm.length_eq.trans_le hroom)]
  exact hperm

/-- Feeds as one call after the other reads them: the same rows, each time in some order, and
each row with an event at its date. -/
structure Feeds {ε τ : Type} (time : ε → τ) where
  seen : ℕ → List (List (Reading τ ε))
  steady : ∀ n, List.Forall₂ List.Perm (seen n) (seen 0)
  dated : ∀ row ∈ (seen 0).flatten, ∃ event ∈ row.events, time event = row.date

namespace Feeds

section

variable {ε τ : Type} {time : ε → τ}

theorem rows_perm (feeds : Feeds time) (n : ℕ) :
    (feeds.seen n).flatten.Perm (feeds.seen 0).flatten :=
  List.Perm.flatten_congr (feeds.steady n)

theorem date_of_mem_entries {row : Reading τ ε} {entry : τ × ε} (hentry : entry ∈ row.entries) :
    entry.1 = row.date := by
  obtain ⟨event, _, rfl⟩ := mem_map.1 hentry
  rfl

theorem filter_entries (rows : List (Reading τ ε)) (p : τ → Prop) [DecidablePred p] :
    (rows.flatMap Reading.entries).filter (fun entry => p entry.1) =
      (rows.filter fun row => p row.date).flatMap Reading.entries := by
  induction rows with
  | nil => rfl
  | cons row rest ih =>
      rw [flatMap_cons, filter_append, ih]
      by_cases hp : p row.date
      · rw [filter_cons_of_pos (by simpa using hp), flatMap_cons]
        congr 1
        apply filter_eq_self.2
        intro entry hentry
        obtain ⟨event, _, rfl⟩ := mem_map.1 hentry
        exact decide_eq_true hp
      · rw [filter_cons_of_neg (by simpa using hp)]
        have hnone : row.entries.filter (fun entry => p entry.1) = [] := by
          apply filter_eq_nil_iff.2
          intro entry hentry
          obtain ⟨event, _, rfl⟩ := mem_map.1 hentry
          simpa using hp
        rw [hnone, nil_append]

theorem length_le_entries {rows : List (Reading τ ε)}
    (hdated : ∀ row ∈ rows, ∃ event ∈ row.events, time event = row.date) :
    rows.length ≤ (rows.flatMap Reading.entries).length := by
  induction rows with
  | nil => exact Nat.le_refl 0
  | cons row rest ih =>
      obtain ⟨event, hevent, _⟩ := hdated row (mem_cons_self ..)
      have hrow : 0 < row.entries.length :=
        length_pos_of_mem (mem_map_of_mem (f := fun event => (row.date, event)) hevent)
      have hrest := ih fun other hother => hdated other (mem_cons_of_mem row hother)
      rw [length_cons, flatMap_cons, length_append]
      omega

end

variable {ε τ : Type} [LinearOrder τ] {time : ε → τ} (feeds : Feeds time)

def older (before : Option τ) : List (τ × ε) :=
  ((feeds.seen 0).flatten.filter fun row => Older before row.date).flatMap Reading.entries

def read (limit n : ℕ) (before : Option τ) : List (τ × ε) :=
  (feeds.seen n).flatMap fun feed =>
    (recent Reading.date limit before feed).flatMap Reading.entries

def page (limit n : ℕ) (before : Option τ) : List (τ × ε) :=
  (latestFirst (fun entry => time entry.2) (feeds.read limit n before)).take limit

def fetch (limit n : ℕ) (before : Option τ) : List ε × Option τ :=
  cutPage time limit ((feeds.read limit n before).map Prod.snd)

variable {feeds} {limit n : ℕ} {before : Option τ} {t : τ}

theorem fetch_fst : (feeds.fetch limit n before).1 = (feeds.page limit n before).map Prod.snd := by
  unfold fetch cutPage page
  rw [map_take, map_latestFirst]

theorem fetch_snd : (feeds.fetch limit n before).2 =
    if (feeds.fetch limit n before).1.length = limit then
      (feeds.fetch limit n before).1.getLast?.map time
    else none := rfl

theorem older_perm (feeds : Feeds time) (n : ℕ) (before : Option τ) :
    (((feeds.seen n).flatten.filter fun row => Older before row.date).flatMap
      Reading.entries).Perm (feeds.older before) :=
  ((feeds.rows_perm n).filter _).flatMap_right _

theorem exists_read_append (feeds : Feeds time) (limit n : ℕ) (before : Option τ) :
    ∃ missed, (feeds.read limit n before ++ missed).Perm (feeds.older before) := by
  choose missed hmissed using fun feed : List (Reading τ ε) =>
    exists_recent_append Reading.date limit before feed
  refine ⟨(feeds.seen n).flatMap fun feed => (missed feed).flatMap Reading.entries, ?_⟩
  have hfeeds : ((feeds.seen n).flatMap fun feed =>
      (recent Reading.date limit before feed).flatMap Reading.entries ++
        (missed feed).flatMap Reading.entries).Perm
      ((feeds.seen n).flatMap fun feed =>
        (feed.filter fun row => Older before row.date).flatMap Reading.entries) := by
    apply List.Perm.flatMap_left
    intro feed _
    rw [← flatMap_append]
    exact (hmissed feed).flatMap_right _
  have hrows : ((feeds.seen n).flatMap fun feed =>
      (feed.filter fun row => Older before row.date).flatMap Reading.entries) =
      ((feeds.seen n).flatten.filter fun row => Older before row.date).flatMap
        Reading.entries := by
    rw [filter_flatten, ← flatMap_def, flatMap_assoc]
  exact (flatMap_append_perm _ _ _).trans (hfeeds.trans (hrows ▸ feeds.older_perm n before))

variable {entry : τ × ε} {p : τ → Prop} {feed : List (Reading τ ε)}

theorem exists_row_of_mem_read (hentry : entry ∈ feeds.read limit n before) :
    ∃ row ∈ (feeds.seen 0).flatten, entry ∈ row.entries ∧
      ∀ other ∈ row.entries, other ∈ feeds.read limit n before := by
  obtain ⟨feed, hfeed, hkept⟩ := mem_flatMap.1 hentry
  obtain ⟨row, hrow, hevent⟩ := mem_flatMap.1 hkept
  obtain ⟨missed, hperm⟩ := exists_recent_append Reading.date limit before feed
  have hstored := mem_of_mem_filter (hperm.subset (mem_append_left missed hrow))
  refine ⟨row, (feeds.rows_perm n).subset (mem_flatten.2 ⟨feed, hfeed, hstored⟩), hevent, ?_⟩
  intro other hother
  exact mem_flatMap.2 ⟨feed, hfeed, mem_flatMap.2 ⟨row, hrow, hother⟩⟩

theorem read_subset : feeds.read limit n before ⊆ feeds.older before := by
  obtain ⟨missed, hperm⟩ := feeds.exists_read_append limit n before
  exact fun entry hentry => hperm.subset (mem_append_left missed hentry)

theorem mem_older : entry ∈ feeds.older before ↔
    ∃ row ∈ (feeds.seen 0).flatten, Older before row.date ∧ entry ∈ row.entries := by
  unfold older
  rw [mem_flatMap]
  constructor
  · rintro ⟨row, hrow, hentry⟩
    obtain ⟨hstored, holder⟩ := mem_filter.1 hrow
    exact ⟨row, hstored, of_decide_eq_true holder, hentry⟩
  · rintro ⟨row, hstored, holder, hentry⟩
    exact ⟨row, mem_filter.2 ⟨hstored, decide_eq_true holder⟩, hentry⟩

def lateRows (p : τ → Prop) [DecidablePred p] (before : Option τ) (feed : List (Reading τ ε)) :
    List (Reading τ ε) :=
  (feed.filter fun row => Older before row.date).filter fun row => p row.date

theorem lateRows_perm (p : τ → Prop) [DecidablePred p] (n : ℕ) (before : Option τ) :
    ((feeds.seen n).flatMap fun feed => (lateRows p before feed).flatMap Reading.entries).Perm
      ((feeds.older before).filter fun entry => p entry.1) := by
  have hperm := (feeds.older_perm n before).filter fun entry => p entry.1
  rw [filter_entries, filter_flatten, filter_flatten, map_map,
    ← flatMap_def, flatMap_assoc] at hperm
  exact hperm

theorem length_lateRows_le [DecidablePred p]
    (hroom : ((feeds.older before).filter fun entry => p entry.1).length ≤ limit)
    (hfeed : feed ∈ feeds.seen n) :
    (lateRows p before feed).length ≤ limit := by
  have hdated : ∀ row ∈ lateRows p before feed, ∃ event ∈ row.events, time event = row.date := by
    intro row hrow
    have hstored := mem_of_mem_filter (mem_of_mem_filter hrow)
    exact feeds.dated row ((feeds.rows_perm n).subset (mem_flatten.2 ⟨feed, hfeed, hstored⟩))
  have hpart : ((lateRows p before feed).flatMap Reading.entries).Sublist
      ((feeds.seen n).flatMap fun feed => (lateRows p before feed).flatMap Reading.entries) :=
    sublist_flatten_of_mem (mem_map_of_mem hfeed)
  exact (length_le_entries hdated).trans
    (hpart.length_le.trans ((lateRows_perm p n before).length_eq.trans_le hroom))

theorem mem_recent [DecidablePred p] (hlate : ∀ s t, s ≤ t → p s → p t)
    (hroom : ((feeds.older before).filter fun entry => p entry.1).length ≤ limit)
    (hfeed : feed ∈ feeds.seen n) {row : Reading τ ε} (hrow : row ∈ feed)
    (holder : Older before row.date) (hp : p row.date) :
    row ∈ recent Reading.date limit before feed := by
  have hmem : row ∈ lateRows p before feed :=
    mem_filter.2 ⟨mem_filter.2 ⟨hrow, decide_eq_true holder⟩, decide_eq_true hp⟩
  have hperm : ((recent Reading.date limit before feed).filter fun row => p row.date).Perm
      (lateRows p before feed) :=
    filter_recent_perm hlate (length_lateRows_le hroom hfeed)
  exact mem_of_mem_filter (hperm.symm.subset hmem)

theorem filter_read_perm [DecidablePred p] (hlate : ∀ s t, s ≤ t → p s → p t)
    (hroom : ((feeds.older before).filter fun entry => p entry.1).length ≤ limit) :
    ((feeds.read limit n before).filter fun entry => p entry.1).Perm
      ((feeds.older before).filter fun entry => p entry.1) := by
  have hread : (feeds.read limit n before).filter (fun entry => p entry.1) =
      (feeds.seen n).flatMap fun feed =>
        ((recent Reading.date limit before feed).filter fun row => p row.date).flatMap
          Reading.entries := by
    unfold read
    rw [filter_flatMap]
    simp only [filter_entries]
  rw [hread]
  refine (List.Perm.flatMap_left _ ?_).trans (lateRows_perm p n before)
  intro feed hfeed
  exact (filter_recent_perm hlate (length_lateRows_le hroom hfeed)).flatMap_right _

def Plain (time : ε → τ) (feed : List (Reading τ ε)) : Prop :=
  ∀ row ∈ feed, ∀ event ∈ row.events, time event = row.date

theorem recent_sorted (limit : ℕ) (before : Option τ) (feed : List (Reading τ ε)) :
    ((recent Reading.date limit before feed).flatMap Reading.entries).Pairwise
      fun first second => second.1 ≤ first.1 := by
  rw [pairwise_flatMap]
  constructor
  · intro row _
    apply pairwise_of_forall_mem_list
    intro first hfirst second hsecond
    rw [date_of_mem_entries hfirst, date_of_mem_entries hsecond]
  · refine (latestFirst_sorted Reading.date _).take.imp ?_
    intro row other hle first hfirst second hsecond
    rw [date_of_mem_entries hfirst, date_of_mem_entries hsecond]
    exact hle

theorem Plain.time_eq (hplain : Plain time feed)
    (hentry : entry ∈ (recent Reading.date limit before feed).flatMap Reading.entries) :
    time entry.2 = entry.1 := by
  obtain ⟨row, hrow, hmade⟩ := mem_flatMap.1 hentry
  obtain ⟨missed, hperm⟩ := exists_recent_append Reading.date limit before feed
  have hstored := mem_of_mem_filter (hperm.subset (mem_append_left missed hrow))
  obtain ⟨event, hevent, rfl⟩ := mem_map.1 hmade
  exact hplain row hstored event hevent

end Feeds

end Library
