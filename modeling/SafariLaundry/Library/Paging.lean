import SafariLaundry.Library.Feeds

/-!
# Paging through merged feeds

A caller fetches page after page until there is no cursor.  The pages hold every event once,
and the latest first, exactly if every boundary between two of them is clean: what is dated
at the boundary or later fills the pages before it, no event falls on the other side of the
boundary than the date of its row, and none that is left for later is merged in front.
-/

namespace Library

open List

/-- The pages that are fetched one after the other, until there is no cursor. -/
inductive Pages {ε τ : Type} (fetch : ℕ → Option τ → List ε × Option τ) :
    ℕ → Option τ → List (List ε) → Prop
  | last {n : ℕ} {before : Option τ} (hend : (fetch n before).2 = none) :
      Pages fetch n before [(fetch n before).1]
  | more {n : ℕ} {before : Option τ} {t : τ} {later : List (List ε)}
      (hnext : (fetch n before).2 = some t) (hlater : Pages fetch (n + 1) (some t) later) :
      Pages fetch n before ((fetch n before).1 :: later)

namespace Feeds

variable {ε τ : Type} [LinearOrder τ] {time : ε → τ} {feeds : Feeds time} {limit n : ℕ}
  {before : Option τ} {t : τ}

/-! ## Clean boundaries -/

section

variable (feeds)

def times (before : Option τ) : List τ :=
  (latestFirst time ((feeds.older before).map Prod.snd)).map time

/-- What is dated at `t` or later fills the page; none of it is earlier than `t`, nothing else is
later, and what else is at `t` is merged behind it. -/
structure Clean (limit n : ℕ) (before : Option τ) (t : τ) : Prop where
  full : ((feeds.older before).filter fun entry => t ≤ entry.1).length = limit
  fresh : ∀ entry ∈ feeds.older before, t ≤ entry.1 → t ≤ time entry.2
  stale : ∀ entry ∈ feeds.older before, entry.1 < t → time entry.2 ≤ t
  ties : (feeds.read limit n before).Pairwise fun first second =>
    time first.2 = t → time second.2 = t → t ≤ second.1 → t ≤ first.1

/-- Paging from a cursor ends, and the pages hold what is older, every event once and the
latest first. -/
def RightFrom (limit n : ℕ) (before : Option τ) : Prop :=
  ∃ pages, Pages (feeds.fetch limit) n before pages ∧
    pages.flatten.Perm ((feeds.older before).map Prod.snd) ∧
    pages.flatten.Pairwise fun first second => time second ≤ time first

end

theorem ties_iff (limit : ℕ) (before : Option τ) (t : τ) {front behind : List (List (Reading τ ε))} {derived : List (Reading τ ε)}
    (hseen : feeds.seen n = front ++ derived :: behind) (hfront : ∀ feed ∈ front, Plain time feed)
    (hbehind : ∀ feed ∈ behind, Plain time feed) :
    ((feeds.read limit n before).Pairwise fun first second =>
        time first.2 = t → time second.2 = t → t ≤ second.1 → t ≤ first.1) ↔
      ∀ entry ∈ (recent Reading.date limit before derived).flatMap Reading.entries,
        entry.1 < t → time entry.2 = t →
        ∀ feed ∈ behind, ∀ row ∈ recent Reading.date limit before feed, row.date ≠ t := by
  let taken := fun feed : List (Reading τ ε) =>
    (recent Reading.date limit before feed).flatMap Reading.entries
  have hread : feeds.read limit n before =
      front.flatMap taken ++ (taken derived ++ behind.flatMap taken) := by
    unfold read
    rw [hseen, flatMap_append, flatMap_cons]
  have hplain : ∀ part : List (List (Reading τ ε)), (∀ feed ∈ part, Plain time feed) →
      ∀ first ∈ part.flatMap taken, ∀ second : τ × ε,
        time first.2 = t → time second.2 = t → t ≤ second.1 → t ≤ first.1 := by
    intro part hpart first hfirst _ hat _ _
    obtain ⟨feed, hfeed, hmem⟩ := mem_flatMap.1 hfirst
    rw [← (hpart feed hfeed).time_eq hmem]
    exact hat.ge
  rw [hread, pairwise_append, pairwise_append]
  constructor
  · rintro ⟨_, ⟨_, _, hcross⟩, _⟩ entry hentry hearly hat feed hfeed row hrow hdate
    obtain ⟨missed, hperm⟩ := exists_recent_append Reading.date limit before feed
    have hstored := mem_of_mem_filter (hperm.subset (mem_append_left missed hrow))
    have hfeed' : feed ∈ feeds.seen n := by
      rw [hseen]
      exact mem_append_right front (mem_cons_of_mem derived hfeed)
    obtain ⟨event, hevent, htime⟩ := feeds.dated row
      ((feeds.rows_perm n).subset (mem_flatten.2 ⟨feed, hfeed', hstored⟩))
    have hmem : (row.date, event) ∈ behind.flatMap taken :=
      mem_flatMap.2 ⟨feed, hfeed, mem_flatMap.2 ⟨row, hrow, mem_map_of_mem hevent⟩⟩
    exact absurd (hcross entry hentry _ hmem hat (htime.trans hdate) hdate.ge) (not_le.2 hearly)
  · intro hclear
    refine ⟨?_, ⟨?_, ?_, ?_⟩, ?_⟩
    · apply pairwise_of_forall_mem_list
      exact fun first hfirst second _ => hplain front hfront first hfirst second
    · exact (recent_sorted limit before derived).imp fun hle _ _ hlate => hlate.trans hle
    · apply pairwise_of_forall_mem_list
      exact fun first hfirst second _ => hplain behind hbehind first hfirst second
    · intro first hfirst second hsecond hat hat' _
      by_contra hearly
      obtain ⟨feed, hfeed, hmem⟩ := mem_flatMap.1 hsecond
      obtain ⟨row, hrow, hmade⟩ := mem_flatMap.1 hmem
      apply hclear first hfirst (not_le.1 hearly) hat feed hfeed row hrow
      rw [← date_of_mem_entries hmade, ← (hbehind feed hfeed).time_eq hmem]
      exact hat'
    · exact fun first hfirst second _ => hplain front hfront first hfirst second

theorem older_some {passed : τ × ε} (hpassed : passed ∈ feeds.older before) (ht : t ≤ passed.1) :
    feeds.older (some t) = (feeds.older before).filter fun entry => entry.1 < t := by
  obtain ⟨row, _, holder, hentry⟩ := mem_older.1 hpassed
  rw [date_of_mem_entries hentry] at ht
  unfold older
  rw [filter_entries _ fun date => date < t, filter_filter]
  congr 1
  apply filter_congr
  intro other _
  have hiff : Older (some t) other.date ↔ other.date < t ∧ Older before other.date := by
    constructor
    · intro hother
      have hlt := hother t rfl
      exact ⟨hlt, fun s hs => hlt.trans (ht.trans_lt (holder s hs))⟩
    · rintro ⟨hlt, _⟩ s hs
      obtain rfl := Option.some.inj hs
      exact hlt
  rw [← Bool.decide_and]
  exact decide_eq_decide.2 hiff

theorem fresh_append_stale (feeds : Feeds time) (before : Option τ) (t : τ) :
    (((feeds.older before).filter fun entry => t ≤ entry.1) ++
      ((feeds.older before).filter fun entry => entry.1 < t)).Perm (feeds.older before) := by
  have hsplit := filter_append_perm (fun entry : τ × ε => t ≤ entry.1) (feeds.older before)
  have hstale : ((feeds.older before).filter fun entry => !decide (t ≤ entry.1)) =
      (feeds.older before).filter fun entry => entry.1 < t := by
    apply filter_congr
    intro entry _
    rw [← decide_not]
    exact decide_eq_decide.2 not_le
  rw [hstale] at hsplit
  exact hsplit

theorem fetch_sorted :
    (feeds.fetch limit n before).1.Pairwise fun first second => time second ≤ time first :=
  (latestFirst_sorted time _).take

variable {tail : List ε}

theorem cursor_eq (hlimit : 0 < limit) (hlength : (feeds.fetch limit n before).1.length = limit)
    (hperm : ((feeds.fetch limit n before).1 ++ tail).Perm ((feeds.older before).map Prod.snd))
    (hsorted : ((feeds.fetch limit n before).1 ++ tail).Pairwise
      fun first second => time second ≤ time first) :
    (feeds.fetch limit n before).2 = (feeds.times before)[limit - 1]? := by
  have htimes : ((feeds.fetch limit n before).1 ++ tail).map time = feeds.times before :=
    times_eq_of_sorted hperm hsorted
  have hlast : limit - 1 < (feeds.fetch limit n before).1.length := by omega
  rw [← htimes, List.getElem?_map, List.getElem?_append_left hlast, fetch_snd, if_pos hlength,
    List.getLast?_eq_getElem?, hlength]

theorem rightFrom_of_few (hfew : (feeds.older before).length < limit) :
    feeds.RightFrom limit n before := by
  have hall : (feeds.read limit n before).Perm (feeds.older before) := by
    have hroom : ((feeds.older before).filter fun _ => decide True).length ≤ limit :=
      (length_filter_le _ _).trans hfew.le
    have hperm := filter_read_perm (n := n) (p := fun _ => True) (fun _ _ _ hp => hp) hroom
    simpa using hperm
  have hpage : (feeds.fetch limit n before).1.Perm ((feeds.older before).map Prod.snd) := by
    rw [fetch_fst]
    apply List.Perm.map
    unfold page
    rw [take_of_length_le]
    · exact (latestFirst_perm _ _).trans hall
    · rw [(latestFirst_perm _ _).length_eq, hall.length_eq]
      exact hfew.le
  have hend : (feeds.fetch limit n before).2 = none := by
    rw [fetch_snd, if_neg]
    rw [hpage.length_eq, length_map]
    exact hfew.ne
  refine ⟨_, .last hend, ?_, ?_⟩
  · rw [flatten_singleton]
    exact hpage
  · rw [flatten_singleton]
    exact fetch_sorted

theorem Clean.page_perm (hclean : feeds.Clean limit n before t) :
    (feeds.page limit n before).Perm ((feeds.older before).filter fun entry => t ≤ entry.1) := by
  have hread : ((feeds.read limit n before).filter fun entry => t ≤ entry.1).Perm
      ((feeds.older before).filter fun entry => t ≤ entry.1) :=
    filter_read_perm (fun _ _ hle ht => ht.trans hle) hclean.full.le
  have hlater : ∀ x ∈ feeds.read limit n before, ∀ y ∈ feeds.read limit n before,
      t ≤ x.1 → ¬ t ≤ y.1 → time y.2 ≤ time x.2 := by
    intro x hx y hy hfresh hstale
    exact (hclean.stale y (read_subset hy) (not_le.1 hstale)).trans
      (hclean.fresh x (read_subset hx) hfresh)
  have hties : (feeds.read limit n before).Pairwise fun x y =>
      time x.2 = time y.2 → t ≤ y.1 → t ≤ x.1 := by
    refine hclean.ties.imp_of_mem ?_
    intro x y hx hy htie hsame hfresh
    by_contra hstale
    have hle := hclean.stale x (read_subset hx) (not_le.1 hstale)
    have hge := hclean.fresh y (read_subset hy) hfresh
    exact hstale (htie (le_antisymm hle (hsame ▸ hge)) (le_antisymm (hsame ▸ hle) hge) hfresh)
  have hfirst : (latestFirst (fun entry : τ × ε => time entry.2)
      (feeds.read limit n before)).Pairwise fun x y => t ≤ y.1 → t ≤ x.1 :=
    latestFirst_separated hlater hties
  have hsort := (latestFirst_perm (fun entry : τ × ε => time entry.2)
    (feeds.read limit n before)).filter fun entry => t ≤ entry.1
  unfold page
  rw [take_of_separated hfirst ((hsort.trans hread).length_eq.trans hclean.full)]
  exact hsort.trans hread

theorem Clean.exists_passed (hclean : feeds.Clean limit n before t) (hlimit : 0 < limit) :
    ∃ passed ∈ feeds.older before, t ≤ passed.1 := by
  have hpos : 0 < ((feeds.older before).filter fun entry => t ≤ entry.1).length := by
    rw [hclean.full]
    exact hlimit
  obtain ⟨passed, hpassed⟩ := exists_mem_of_length_pos hpos
  obtain ⟨hmem, ht⟩ := mem_filter.1 hpassed
  exact ⟨passed, hmem, of_decide_eq_true ht⟩

theorem Clean.append_perm (hclean : feeds.Clean limit n before t) (hlimit : 0 < limit)
    (htail : tail.Perm ((feeds.older (some t)).map Prod.snd)) :
    ((feeds.fetch limit n before).1 ++ tail).Perm ((feeds.older before).map Prod.snd) := by
  obtain ⟨passed, hpassed, ht⟩ := hclean.exists_passed hlimit
  rw [older_some hpassed ht] at htail
  rw [fetch_fst]
  refine ((hclean.page_perm.map Prod.snd).append htail).trans ?_
  rw [← map_append]
  exact (feeds.fresh_append_stale before t).map Prod.snd

theorem Clean.append_sorted (hclean : feeds.Clean limit n before t) (hlimit : 0 < limit)
    (htail : tail.Perm ((feeds.older (some t)).map Prod.snd))
    (hsorted : tail.Pairwise fun first second => time second ≤ time first) :
    ((feeds.fetch limit n before).1 ++ tail).Pairwise
      fun first second => time second ≤ time first := by
  obtain ⟨passed, hpassed, ht⟩ := hclean.exists_passed hlimit
  rw [pairwise_append]
  refine ⟨fetch_sorted, hsorted, ?_⟩
  intro first hfirst second hsecond
  rw [fetch_fst] at hfirst
  obtain ⟨entry, hentry, rfl⟩ := mem_map.1 hfirst
  obtain ⟨hmem, hfresh⟩ := mem_filter.1 (hclean.page_perm.subset hentry)
  obtain ⟨other, hother, rfl⟩ := mem_map.1 (htail.subset hsecond)
  rw [older_some hpassed ht] at hother
  obtain ⟨hmem', hstale⟩ := mem_filter.1 hother
  exact (hclean.stale other hmem' (of_decide_eq_true hstale)).trans
    (hclean.fresh entry hmem (of_decide_eq_true hfresh))

theorem Clean.length_fetch (hclean : feeds.Clean limit n before t) :
    (feeds.fetch limit n before).1.length = limit := by
  rw [fetch_fst, length_map, hclean.page_perm.length_eq, hclean.full]

theorem Clean.times_eq (hclean : feeds.Clean limit n before t) (hlimit : 0 < limit) :
    feeds.times (some t) = (feeds.times before).drop limit := by
  have hperm := latestFirst_perm time ((feeds.older (some t)).map Prod.snd)
  have happend : ((feeds.fetch limit n before).1 ++
      latestFirst time ((feeds.older (some t)).map Prod.snd)).map time = feeds.times before :=
    times_eq_of_sorted (hclean.append_perm hlimit hperm)
      (hclean.append_sorted hlimit hperm (latestFirst_sorted _ _))
  rw [← happend, map_append, drop_left' (by rw [length_map, hclean.length_fetch])]
  rfl

theorem Clean.rightFrom (hclean : feeds.Clean limit n before t) (hlimit : 0 < limit)
    (ht : (feeds.times before)[limit - 1]? = some t)
    (hright : feeds.RightFrom limit (n + 1) (some t)) : feeds.RightFrom limit n before := by
  obtain ⟨later, hlater, hperm, hsorted⟩ := hright
  have hperm' := hclean.append_perm hlimit hperm
  have hsorted' := hclean.append_sorted hlimit hperm hsorted
  have hnext := (cursor_eq hlimit hclean.length_fetch hperm' hsorted').trans ht
  refine ⟨_, .more hnext hlater, ?_, ?_⟩
  · rw [flatten_cons]
    exact hperm'
  · rw [flatten_cons]
    exact hsorted'

/-! ## Pages that are right -/

theorem older_none :
    (feeds.older none).map Prod.snd = (feeds.seen 0).flatten.flatMap Reading.events := by
  have hall : ((feeds.seen 0).flatten.filter fun row => Older none row.date) =
      (feeds.seen 0).flatten := by
    apply filter_eq_self.2
    intro row _
    exact decide_eq_true fun t ht => nomatch ht
  unfold older
  rw [hall, map_flatMap]
  congr 1
  funext row
  unfold Reading.entries
  rw [map_map]
  exact map_id _

theorem nodup_older (hdistinct : ((feeds.older none).map Prod.snd).Nodup) (before : Option τ) :
    ((feeds.older before).map Prod.snd).Nodup := by
  have hpart : (feeds.older before).Sublist (feeds.older none) := by
    apply List.Sublist.flatMap
    apply monotone_filter_right
    intro row _
    exact decide_eq_true fun t ht => nomatch ht
  exact (hpart.map Prod.snd).nodup hdistinct

theorem row_eq_of_event (hdistinct : ((feeds.older none).map Prod.snd).Nodup)
    {row other : Reading τ ε} {event : ε} (hrow : row ∈ (feeds.seen 0).flatten)
    (hother : other ∈ (feeds.seen 0).flatten) (hevent : event ∈ row.events)
    (hsame : event ∈ other.events) : row = other := by
  rw [older_none, nodup_flatMap] at hdistinct
  have hsymm : Std.Symm (Function.onFun List.Disjoint (Reading.events : Reading τ ε → List ε)) :=
    ⟨fun _ _ hdisjoint => hdisjoint.symm⟩
  by_contra hne
  exact hdistinct.2.forall hrow hother hne hevent hsame

theorem mem_page_of_later {entry other : τ × ε} (hentry : entry ∈ feeds.page limit n before)
    (hother : other ∈ feeds.read limit n before) (hlater : time entry.2 < time other.2) :
    other ∈ feeds.page limit n before := by
  have hmem := (latestFirst_perm (fun entry : τ × ε => time entry.2) _).symm.subset hother
  have hsorted := latestFirst_sorted (fun entry : τ × ε => time entry.2) (feeds.read limit n before)
  rw [← take_append_drop limit (latestFirst _ _)] at hmem hsorted
  rcases mem_append.1 hmem with hpage | hdropped
  · exact hpage
  · exact absurd ((pairwise_append.1 hsorted).2.2 entry hentry other hdropped)
      (not_le.2 hlater)

theorem exists_call_of_mem_later {before : Option τ} {pages : List (List ε)}
    (hpages : Pages (feeds.fetch limit) n before pages)
    (hbefore : ∃ s ∈ before, s ≤ t) (htimes : ∀ event ∈ pages.flatten, time event ≤ t)
    {event : ε} (hevent : event ∈ pages.flatten) :
    ∃ k s, s ≤ t ∧ event ∈ (feeds.fetch limit k (some s)).1 ∧
      (feeds.fetch limit k (some s)).1 ⊆ pages.flatten := by
  induction hpages with
  | last hend =>
      obtain ⟨s, rfl, hs⟩ := hbefore
      rw [flatten_singleton] at hevent ⊢
      exact ⟨_, s, hs, hevent, fun _ hmem => hmem⟩
  | @more n before u later hnext hlater ih =>
      rw [flatten_cons] at hevent htimes ⊢
      rcases mem_append.1 hevent with hfirst | hrest
      · obtain ⟨s, rfl, hs⟩ := hbefore
        exact ⟨_, s, hs, hfirst, subset_append_left _ _⟩
      · rw [fetch_snd] at hnext
        by_cases hfull : (feeds.fetch limit n before).1.length = limit
        · rw [if_pos hfull] at hnext
          obtain ⟨oldest, holdest, hu⟩ := Option.map_eq_some_iff.1 hnext
          have hle : u ≤ t := by
            rw [← hu]
            exact htimes oldest (mem_append_left _ (mem_of_getLast? holdest))
          obtain ⟨k, s, hs, hcall, hpart⟩ := ih ⟨u, rfl, hle⟩
            (fun other hother => htimes other (mem_append_right _ hother)) hrest
          exact ⟨k, s, hs, hcall, fun _ hmem => mem_append_right _ (hpart hmem)⟩
        · rw [if_neg hfull] at hnext
          cases hnext

theorem older_subset {s : τ} (hs : s ≤ t) : feeds.older (some s) ⊆ feeds.older (some t) := by
  intro entry hentry
  obtain ⟨row, hrow, holder, hmem⟩ := mem_older.1 hentry
  refine mem_older.2 ⟨row, hrow, ?_, hmem⟩
  intro u hu
  obtain rfl := Option.some.inj hu
  exact (holder s rfl).trans_le hs

theorem mem_fetch {event : ε} (hevent : event ∈ (feeds.fetch limit n before).1) :
    ∃ entry ∈ feeds.page limit n before, entry.2 = event ∧ entry ∈ feeds.read limit n before := by
  rw [fetch_fst] at hevent
  obtain ⟨entry, hentry, rfl⟩ := mem_map.1 hevent
  exact ⟨entry, hentry, rfl, (latestFirst_perm _ _).subset (mem_of_mem_take hentry)⟩

theorem dated_of_mem_page (hdistinct : ((feeds.older none).map Prod.snd).Nodup)
    (hperm : ((feeds.fetch limit n before).1 ++ tail).Perm ((feeds.older before).map Prod.snd))
    (hhead : ∀ event ∈ (feeds.fetch limit n before).1, t ≤ time event)
    (hcalls : ∀ event ∈ tail, ∃ k s, s ≤ t ∧ event ∈ (feeds.fetch limit k (some s)).1 ∧
      (feeds.fetch limit k (some s)).1 ⊆ tail) {entry : τ × ε}
    (hentry : entry ∈ feeds.page limit n before) : t ≤ entry.1 := by
  by_contra hstale
  have hread : entry ∈ feeds.read limit n before :=
    (latestFirst_perm _ _).subset (mem_of_mem_take hentry)
  have hshown : entry.2 ∈ (feeds.fetch limit n before).1 := by
    rw [fetch_fst]
    exact mem_map_of_mem hentry
  obtain ⟨row, hrow, hmade, hwhole⟩ := exists_row_of_mem_read hread
  obtain ⟨event, hevent, hdate⟩ := feeds.dated row hrow
  have hearly : time event < t := by
    rw [hdate, ← date_of_mem_entries hmade]
    exact not_le.1 hstale
  -- the event at the row's date is not on this page, so it is on a later one
  have hleft : event ∈ (feeds.older before).map Prod.snd :=
    mem_map_of_mem (f := Prod.snd)
      (read_subset (hwhole (row.date, event) (mem_map_of_mem hevent)))
  rcases mem_append.1 (hperm.symm.subset hleft) with hhere | hlater
  · exact absurd (hhead event hhere) (not_le.2 hearly)
  obtain ⟨k, s, _, hcall, hpart⟩ := hcalls event hlater
  obtain ⟨sibling, hsibling, rfl, hreadAgain⟩ := mem_fetch hcall
  obtain ⟨row', hrow', hmade', hwhole'⟩ := exists_row_of_mem_read hreadAgain
  have hevent' : sibling.2 ∈ row'.events := by
    obtain ⟨_, hmem, rfl⟩ := mem_map.1 hmade'
    exact hmem
  obtain rfl := row_eq_of_event hdistinct hrow hrow' hevent hevent'
  -- and the page that shows it shows the whole row again
  have hagain : entry ∈ feeds.page limit k (some s) :=
    mem_page_of_later hsibling (hwhole' entry hmade) (hearly.trans_le (hhead entry.2 hshown))
  have htwice : entry.2 ∈ tail := by
    apply hpart
    rw [fetch_fst]
    exact mem_map_of_mem hagain
  have hnodup := hperm.nodup_iff.2 (nodup_older hdistinct before)
  exact (nodup_append'.1 hnodup).2.2 hshown htwice

theorem split_of_right (hdistinct : ((feeds.older none).map Prod.snd).Nodup) (hlimit : 0 < limit)
    (hfull : (feeds.fetch limit n before).1.length = limit)
    (hperm : ((feeds.fetch limit n before).1 ++ tail).Perm ((feeds.older before).map Prod.snd))
    (hhead : ∀ event ∈ (feeds.fetch limit n before).1, t ≤ time event)
    (hcalls : ∀ event ∈ tail, ∃ k s, s ≤ t ∧ event ∈ (feeds.fetch limit k (some s)).1 ∧
      (feeds.fetch limit k (some s)).1 ⊆ tail) :
    (feeds.fetch limit n before).1.Perm
        (((feeds.older before).filter fun entry => t ≤ entry.1).map Prod.snd) ∧
      tail.Perm ((feeds.older (some t)).map Prod.snd) := by
  have hdated : ∀ entry ∈ feeds.page limit n before, t ≤ entry.1 :=
    fun entry hentry => dated_of_mem_page hdistinct hperm hhead hcalls hentry
  have hfresh : (feeds.fetch limit n before).1 ⊆
      ((feeds.older before).filter fun entry => t ≤ entry.1).map Prod.snd := by
    intro event hevent
    obtain ⟨entry, hpage, rfl, hread⟩ := mem_fetch hevent
    exact mem_map_of_mem
      (mem_filter.2 ⟨read_subset hread, decide_eq_true (hdated entry hpage)⟩)
  obtain ⟨first, hfirst⟩ := exists_mem_of_length_pos (hfull ▸ hlimit)
  obtain ⟨passed, hpassed, _⟩ := mem_map.1 (hfresh hfirst)
  obtain ⟨hmem, hafter⟩ := mem_filter.1 hpassed
  have holder := older_some hmem (of_decide_eq_true hafter)
  have hstale : tail ⊆ ((feeds.older before).filter fun entry => entry.1 < t).map Prod.snd := by
    intro event hevent
    obtain ⟨k, s, hs, hcall, _⟩ := hcalls event hevent
    obtain ⟨entry, _, rfl, hread⟩ := mem_fetch hcall
    rw [← holder]
    exact mem_map_of_mem (older_subset hs (read_subset hread))
  have hwhole := (feeds.fresh_append_stale before t).map Prod.snd
  rw [map_append] at hwhole
  rw [holder]
  exact perm_and_perm_of_append (hperm.trans hwhole.symm)
    (hwhole.nodup_iff.2 (nodup_older hdistinct before)) hfresh hstale

theorem ties_of_right (hdistinct : ((feeds.older none).map Prod.snd).Nodup)
    (hpage : (feeds.fetch limit n before).1.Perm
      (((feeds.older before).filter fun entry => t ≤ entry.1).map Prod.snd)) :
    (feeds.read limit n before).Pairwise fun first second =>
      time first.2 = t → time second.2 = t → t ≤ second.1 → t ≤ first.1 := by
  have hinj := inj_on_of_nodup_map (nodup_older hdistinct before)
  have hdated : ∀ entry ∈ feeds.older before,
      (entry ∈ feeds.page limit n before ↔ t ≤ entry.1) := by
    intro entry hentry
    have hiff := hpage.mem_iff (a := entry.2)
    rw [fetch_fst, mem_map, mem_map] at hiff
    constructor
    · intro hmem
      obtain ⟨other, hother, hsame⟩ := hiff.1 ⟨entry, hmem, rfl⟩
      obtain ⟨hmem', hlate⟩ := mem_filter.1 hother
      rw [← hinj hmem' hentry hsame]
      exact of_decide_eq_true hlate
    · intro hlate
      obtain ⟨other, hother, hsame⟩ :=
        hiff.2 ⟨entry, mem_filter.2 ⟨hentry, decide_eq_true hlate⟩, rfl⟩
      have hread := (latestFirst_perm _ _).subset (mem_of_mem_take hother)
      rw [← hinj (read_subset hread) hentry hsame]
      exact hother
  obtain ⟨missed, hperm⟩ := feeds.exists_read_append limit n before
  have hnodup : (feeds.read limit n before).Nodup :=
    (nodup_append'.1 (hperm.nodup_iff.2 (nodup_older hdistinct before).of_map)).1
  rw [pairwise_iff_forall_sublist]
  intro first second hpair hfirst hsecond hlate
  have hmem : first ∈ feeds.older before := read_subset (hpair.subset (by simp))
  have hmem' : second ∈ feeds.older before := read_subset (hpair.subset (by simp))
  have hkept : [first, second].Sublist
      (latestFirst (fun entry : τ × ε => time entry.2) (feeds.read limit n before)) :=
    pair_sublist_insertionSort (hsecond.trans hfirst.symm).le hpair
  have hsorted := (latestFirst_perm (fun entry : τ × ε => time entry.2) _).nodup_iff.2 hnodup
  rw [← take_append_drop limit (latestFirst _ _)] at hkept hsorted
  have honPage : second ∈ feeds.page limit n before := (hdated second hmem').2 hlate
  obtain ⟨kept, dropped, heq, hkept, hdropped⟩ := sublist_append_iff.1 hkept
  cases kept with
  | nil =>
      rw [nil_append] at heq
      have hsecond : second ∈ dropped := by
        rw [← heq]
        exact mem_cons_of_mem first (mem_singleton_self second)
      exact absurd (hdropped.subset hsecond) ((nodup_append'.1 hsorted).2.2 honPage)
  | cons x rest =>
      obtain ⟨rfl, _⟩ := cons_eq_cons.1 heq
      exact (hdated _ hmem).1 (hkept.subset (mem_cons_self ..))

theorem clean_of_rightFrom (hdistinct : ((feeds.older none).map Prod.snd).Nodup)
    (hlimit : 0 < limit) (hright : feeds.RightFrom limit n before)
    (ht : (feeds.times before)[limit - 1]? = some t) :
    feeds.Clean limit n before t ∧ feeds.RightFrom limit (n + 1) (some t) := by
  obtain ⟨pages, hpages, hperm, hsorted⟩ := hright
  cases hpages with
  | last hend =>
      exfalso
      rw [flatten_singleton] at hperm hsorted
      have htimes : (feeds.fetch limit n before).1.map time = feeds.times before :=
        times_eq_of_sorted hperm hsorted
      rw [← htimes] at ht
      obtain ⟨hlast, _⟩ := List.getElem?_eq_some_iff.1 ht
      rw [length_map] at hlast
      have hle : (feeds.fetch limit n before).1.length ≤ limit := length_take_le _ _
      have hfull : (feeds.fetch limit n before).1.length = limit := by omega
      rw [fetch_snd, if_pos hfull, Option.map_eq_none_iff, List.getLast?_eq_none_iff] at hend
      rw [hend] at hfull
      exact hlimit.ne hfull
  | @more _ _ u later hnext hlater =>
      rw [flatten_cons] at hperm hsorted
      have hfull : (feeds.fetch limit n before).1.length = limit := by
        by_contra hshort
        rw [fetch_snd, if_neg hshort] at hnext
        cases hnext
      obtain rfl : u = t := by
        have hcursor := cursor_eq hlimit hfull hperm hsorted
        rw [hnext, ht] at hcursor
        exact Option.some.inj hcursor
      rw [fetch_snd, if_pos hfull] at hnext
      obtain ⟨last, hlast, hu⟩ := Option.map_eq_some_iff.1 hnext
      obtain ⟨init, hinit⟩ := List.getLast?_eq_some_iff.1 hlast
      obtain ⟨hhere, hsortedLater, hcross⟩ := pairwise_append.1 hsorted
      have hhead : ∀ event ∈ (feeds.fetch limit n before).1, u ≤ time event := by
        intro event hevent
        rw [hinit] at hevent hhere
        rcases mem_append.1 hevent with hmem | hmem
        · rw [← hu]
          exact (pairwise_append.1 hhere).2.2 event hmem last (mem_singleton_self last)
        · obtain rfl := mem_singleton.1 hmem
          exact hu.ge
      have htail : ∀ event ∈ later.flatten, time event ≤ u := by
        intro event hevent
        rw [← hu]
        exact hcross last (mem_of_getLast? hlast) event hevent
      obtain ⟨hpage, hrest⟩ := split_of_right hdistinct hlimit hfull hperm hhead
        fun event hevent => exists_call_of_mem_later hlater ⟨u, rfl, le_rfl⟩ htail hevent
      refine ⟨⟨?_, ?_, ?_, ties_of_right hdistinct hpage⟩, later, hlater, hrest, hsortedLater⟩
      · rw [← hfull, hpage.length_eq, length_map]
      · intro entry hentry hlate
        exact hhead entry.2 (hpage.symm.subset (mem_map_of_mem
          (mem_filter.2 ⟨hentry, decide_eq_true hlate⟩)))
      · intro entry hentry hearly
        obtain ⟨row, hrow, _, hmade⟩ := mem_older.1 hentry
        have hleft : entry ∈ feeds.older (some u) := by
          refine mem_older.2 ⟨row, hrow, ?_, hmade⟩
          intro s hs
          obtain rfl := Option.some.inj hs
          rw [← date_of_mem_entries hmade]
          exact hearly
        exact htail entry.2 (hrest.symm.subset (mem_map_of_mem hleft))

section

variable {τ : Type}

/-- The cursors that pages of the given times would hand on: the first one, then the time of
the last event of each full page. -/
def cursors (limit : ℕ) (first : Option τ) (times : List τ) : ℕ → Option τ
  | 0 => first
  | k + 1 => times[(k + 1) * limit - 1]?

theorem cursors_zero (limit : ℕ) (first : Option τ) (times : List τ) :
    cursors limit first times 0 = first := rfl

theorem cursors_succ (limit : ℕ) (first : Option τ) (times : List τ) (k : ℕ) :
    cursors limit first times (k + 1) = times[(k + 1) * limit - 1]? := rfl

theorem cursors_drop {limit : ℕ} (hlimit : 0 < limit) {times : List τ} {t : τ}
    (ht : times[limit - 1]? = some t) (first : Option τ) (k : ℕ) :
    cursors limit (some t) (times.drop limit) k = cursors limit first times (k + 1) := by
  cases k with
  | zero =>
      rw [cursors_succ, Nat.zero_add, Nat.one_mul, ht, cursors_zero]
  | succ k =>
      rw [cursors_succ, cursors_succ, List.getElem?_drop]
      congr 1
      have hone : 1 ≤ (k + 1) * limit := Nat.mul_pos (Nat.succ_pos k) hlimit
      rw [Nat.add_mul (k + 1) 1 limit, Nat.one_mul]
      omega

end

variable (feeds) in
/-- Every boundary between two pages is clean. -/
def CleanFrom (limit n : ℕ) (before : Option τ) : Prop :=
  ∀ k t, cursors limit before (feeds.times before) (k + 1) = some t →
    feeds.Clean limit (n + k) (cursors limit before (feeds.times before) k) t

theorem cleanFrom_of_few (hlimit : 0 < limit) (hfew : (feeds.times before)[limit - 1]? = none) :
    feeds.CleanFrom limit n before := by
  intro k t ht
  have hlast : limit ≤ (k + 1) * limit := Nat.le_mul_of_pos_left limit (Nat.succ_pos k)
  have hlength := List.getElem?_eq_none_iff.1 hfew
  have hnone : (feeds.times before)[(k + 1) * limit - 1]? = none :=
    List.getElem?_eq_none_iff.2 (by omega)
  rw [cursors_succ, hnone] at ht
  cases ht

theorem cleanFrom_iff (hlimit : 0 < limit) (ht : (feeds.times before)[limit - 1]? = some t) :
    feeds.CleanFrom limit n before ↔
      feeds.Clean limit n before t ∧ feeds.CleanFrom limit (n + 1) (some t) := by
  have hfirst : cursors limit before (feeds.times before) 1 = some t := by
    rw [cursors_succ, Nat.zero_add, Nat.one_mul, ht]
  have hcount (k : ℕ) : n + 1 + k = n + (k + 1) := by omega
  constructor
  · intro hclean
    have hthis : feeds.Clean limit n before t := hclean 0 t hfirst
    refine ⟨hthis, ?_⟩
    intro k u hu
    rw [hthis.times_eq hlimit, cursors_drop hlimit ht before (k + 1)] at hu
    rw [hthis.times_eq hlimit, cursors_drop hlimit ht before k, hcount]
    exact hclean (k + 1) u hu
  · rintro ⟨hthis, hlater⟩ k u hu
    cases k with
    | zero =>
        rw [hfirst] at hu
        obtain rfl := Option.some.inj hu
        exact hthis
    | succ k =>
        have hnext := hlater k u
        rw [hthis.times_eq hlimit, cursors_drop hlimit ht before (k + 1),
          cursors_drop hlimit ht before k, hcount] at hnext
        exact hnext hu

theorem length_times : (feeds.times before).length = (feeds.older before).length := by
  unfold times
  rw [length_map, (latestFirst_perm _ _).length_eq, length_map]

theorem rightFrom_iff (hdistinct : ((feeds.older none).map Prod.snd).Nodup) (hlimit : 0 < limit)
    (n : ℕ) (before : Option τ) :
    feeds.RightFrom limit n before ↔ feeds.CleanFrom limit n before := by
  -- by the number of the events that are left: a clean page takes some of them
  induction hleft : (feeds.older before).length using Nat.strong_induction_on generalizing
    n before with
  | _ left ih =>
      subst hleft
      cases ht : (feeds.times before)[limit - 1]? with
      | none =>
          have hfew := List.getElem?_eq_none_iff.1 ht
          rw [length_times] at hfew
          exact ⟨fun _ => cleanFrom_of_few hlimit ht, fun _ => rightFrom_of_few (by omega)⟩
      | some t =>
          have hlater (hclean : feeds.Clean limit n before t) :
              feeds.RightFrom limit (n + 1) (some t) ↔ feeds.CleanFrom limit (n + 1) (some t) := by
            apply ih _ _ (n + 1) (some t) rfl
            obtain ⟨hlast, _⟩ := List.getElem?_eq_some_iff.1 ht
            rw [length_times] at hlast
            rw [← length_times, ← length_times, hclean.times_eq hlimit, length_drop,
              length_times]
            omega
          rw [cleanFrom_iff hlimit ht]
          constructor
          · intro hright
            obtain ⟨hclean, hrest⟩ := clean_of_rightFrom hdistinct hlimit hright ht
            exact ⟨hclean, (hlater hclean).1 hrest⟩
          · rintro ⟨hclean, hrest⟩
            exact hclean.rightFrom hlimit ht ((hlater hclean).2 hrest)

end Feeds

end Library
