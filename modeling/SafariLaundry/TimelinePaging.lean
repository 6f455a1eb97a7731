import SafariLaundry.FinancialTimeline

/-!
# Paging through the financial timeline

The caller passes the cursor of one page to the call for the next.  A page loses what is at
its last time and does not fit on it, repeats an expiry until the subscription's activation
has been passed, and shows a journal entry of the ledger under one id twice.  Without these,
and only then, the pages hold every event once, and the latest first.
-/

namespace SafariLaundry

open Library List

/-- A history that is paged and does not change meanwhile: every call comes upon the rows in
some order, and no subscription expires between two calls. -/
structure TimelinePaging where
  db : TimelineDb
  customerId : Uuid
  limit : Option ℤ
  arrivals : ℕ → TimelineArrival
  clock : ℕ → Timestamp
  unchanged : ∀ n, ∀ s ∈ db.subscriptions.rows, s.customerId = customerId →
    (s.ExpiredBy (clock n) ↔ s.ExpiredBy (clock 0))

namespace TimelinePaging

section

variable (paging : TimelinePaging)

def fetch (n : ℕ) (before : Option Timestamp) :
    List FinancialTimelineEvent × Option Timestamp :=
  let response := getTimeline paging.db paging.customerId paging.limit before
    (paging.arrivals n) (paging.clock n)
  (response.events, response.nextBeforeCursor)

def subscriptions : List TimelineSubscription :=
  paging.db.subscriptions.rows.filter fun s => s.customerId = paging.customerId

/-- The events of the sources that are merged before the subscriptions, each with the date that
its row is read by. -/
def datedAhead : List (Timestamp × FinancialTimelineEvent) :=
  ((paging.db.orders.rows.filter fun o => o.customerId = paging.customerId).map
    fun o => (o.createdAt, orderEvent o)) ++
  (paging.db.journalEntries.rows.filter fun e => e.OfLedger paging.customerId).map
    fun e => (e.createdAt, ledgerEvent e)

def datedSubscriptions : List (Timestamp × FinancialTimelineEvent) :=
  paging.subscriptions.flatMap fun s =>
    (subscriptionEvents (paging.clock 0) s).map fun event => (s.activatedAt, event)

def datedBehind : List (Timestamp × FinancialTimelineEvent) :=
  ((paging.db.generalLedger.rows.filter fun r => r.Reverses paging.customerId).map
    fun r => (r.createdAt, generalLedgerEvent r)) ++
  ((paging.db.promiseEvents.rows.filter fun r => r.promise.customerId = paging.customerId).map
    fun r => (r.createdAt, promiseEvent r)) ++
  ((paging.db.stageEvents.rows.filter fun r => r.accountCustomerId = paging.customerId).map
    fun r => (r.createdAt, collectionsStageEvent r)) ++
  (paging.db.journalEntries.rows.filter fun r => r.entry.customerId = some paging.customerId).map
    fun r => (r.createdAt, journalEvent r)

def dated : List (Timestamp × FinancialTimelineEvent) :=
  paging.datedAhead ++ paging.datedSubscriptions ++ paging.datedBehind

def events : List FinancialTimelineEvent :=
  paging.dated.map Prod.snd

/-- Paging ends, and the pages hold every event once, under an id of its own, the latest
first. -/
def Right : Prop :=
  ∃ pages, Pages paging.fetch 0 none pages ∧ pages.flatten.Perm paging.events ∧
    (pages.flatten.map FinancialTimelineEvent.id).Nodup ∧
    pages.flatten.Pairwise fun first second => second.occurredAt ≤ first.occurredAt

/-- The time of the last event of every full page of the history, before them no time. -/
def boundary : ℕ → Option Timestamp :=
  Feeds.cursors (timelineLimit paging.limit) none
    ((latestFirst FinancialTimelineEvent.occurredAt paging.events).map
      FinancialTimelineEvent.occurredAt)

def readSubscriptions (n : ℕ) (before : Option Timestamp) : List TimelineSubscription :=
  findLatest (paging.arrivals n).subscriptions TimelineSubscription.activatedAt
    (fun s => s.customerId = paging.customerId) before (timelineLimit paging.limit)
    paging.db.subscriptions.rows

/-- A boundary at `t`, after the one at `before`: just a page of events is made of rows dated
between them; no subscription was activated on one side of `t` and expired on the other; and
none that is read with the page was activated earlier and expired at `t`, where a source merged
behind has an event. -/
structure CleanCut (n : ℕ) (before : Option Timestamp) (t : Timestamp) : Prop where
  full : ((paging.dated.filter fun entry => Older before entry.1).filter
    fun entry => t ≤ entry.1).length = timelineLimit paging.limit
  expiries : ∀ s ∈ paging.subscriptions, s.ExpiredBy (paging.clock 0) → Older before s.activatedAt →
      (t ≤ s.activatedAt → t ≤ s.expiresAt) ∧ (s.activatedAt < t → s.expiresAt ≤ t)
  behind : ∀ s ∈ paging.readSubscriptions n before, s.ExpiredBy (paging.clock 0) →
    s.activatedAt < t → s.expiresAt = t → ∀ entry ∈ paging.datedBehind, entry.1 ≠ t

end

/-! ## The sources as feeds -/

section

variable {ρ : Type} (order : RowOrder ρ) (p : ρ → Prop) [DecidablePred p]
  (reading : ρ → Reading Timestamp FinancialTimelineEvent) (rows : List ρ)

def customerFeed : List (Reading Timestamp FinancialTimelineEvent) :=
  ((order.arrange rows).filter fun row => p row).map reading

theorem customerFeed_perm (order' : RowOrder ρ) :
    (customerFeed order p reading rows).Perm (customerFeed order' p reading rows) :=
  (((order.perm rows).trans (order'.perm rows).symm).filter _).map _

theorem mem_customerFeed {order : RowOrder ρ} {p : ρ → Prop} [DecidablePred p]
    {reading : ρ → Reading Timestamp FinancialTimelineEvent} {rows : List ρ}
    {seen : Reading Timestamp FinancialTimelineEvent} :
    seen ∈ customerFeed order p reading rows ↔
      ∃ row ∈ rows.filter fun row => p row, reading row = seen := by
  unfold customerFeed
  rw [mem_map]
  constructor
  · rintro ⟨row, hrow, hseen⟩
    exact ⟨row, ((order.perm rows).filter _).subset hrow, hseen⟩
  · rintro ⟨row, hrow, hseen⟩
    exact ⟨row, ((order.perm rows).filter _).symm.subset hrow, hseen⟩

theorem customerFeed_entries :
    ((customerFeed order p reading rows).flatMap Reading.entries).Perm
      ((rows.filter fun row => p row).flatMap fun row => (reading row).entries) := by
  unfold customerFeed
  rw [flatMap_map]
  exact ((order.perm rows).filter _).flatMap_right _

theorem map_findLatest (before : Option Timestamp) (limit : ℕ) :
    (findLatest order (fun row => (reading row).date) p before limit rows).map reading =
      recent Reading.date limit before (customerFeed order p reading rows) :=
  map_recent Reading.date reading limit before _

theorem events_findLatest (before : Option Timestamp) (limit : ℕ) :
    ((recent Reading.date limit before (customerFeed order p reading rows)).flatMap
        Reading.entries).map Prod.snd =
      (findLatest order (fun row => (reading row).date) p before limit rows).flatMap
        fun row => (reading row).events := by
  rw [← map_findLatest, flatMap_map, map_flatMap]
  congr 1
  funext row
  unfold Reading.entries
  rw [map_map]
  exact map_id _

end

def plainReading {ρ : Type} (date : ρ → Timestamp) (event : ρ → FinancialTimelineEvent)
    (row : ρ) : Reading Timestamp FinancialTimelineEvent :=
  ⟨date row, [event row]⟩

theorem plain_customerFeed {ρ : Type} {order : RowOrder ρ} {p : ρ → Prop} [DecidablePred p]
    {date : ρ → Timestamp} {event : ρ → FinancialTimelineEvent} {rows : List ρ}
    (hdate : ∀ row, (event row).occurredAt = date row) :
    Feeds.Plain FinancialTimelineEvent.occurredAt
      (customerFeed order p (plainReading date event) rows) := by
  intro seen hseen shown hshown
  obtain ⟨row, _, rfl⟩ := mem_customerFeed.1 hseen
  obtain rfl := mem_singleton.1 hshown
  exact hdate row

theorem nonempty_customerFeed {ρ : Type} {order : RowOrder ρ} {p : ρ → Prop} [DecidablePred p]
    {date : ρ → Timestamp} {event : ρ → FinancialTimelineEvent} {rows : List ρ} :
    ∀ seen ∈ customerFeed order p (plainReading date event) rows, seen.events ≠ [] := by
  intro seen hseen
  obtain ⟨row, _, rfl⟩ := mem_customerFeed.1 hseen
  exact cons_ne_nil _ _

def subscriptionReading (now : Timestamp) (s : TimelineSubscription) :
    Reading Timestamp FinancialTimelineEvent :=
  ⟨s.activatedAt, subscriptionEvents now s⟩

section

variable (paging : TimelinePaging)

def feedsAhead (n : ℕ) : List (List (Reading Timestamp FinancialTimelineEvent)) :=
  [customerFeed (paging.arrivals n).orders (fun o => o.customerId = paging.customerId)
      (plainReading Order.createdAt orderEvent) paging.db.orders.rows,
    customerFeed (paging.arrivals n).ledger (fun e => e.OfLedger paging.customerId)
      (plainReading JournalEntryRow.createdAt ledgerEvent) paging.db.journalEntries.rows]

def subscriptionFeed (n : ℕ) : List (Reading Timestamp FinancialTimelineEvent) :=
  customerFeed (paging.arrivals n).subscriptions (fun s => s.customerId = paging.customerId)
    (subscriptionReading (paging.clock 0)) paging.db.subscriptions.rows

def feedsBehind (n : ℕ) : List (List (Reading Timestamp FinancialTimelineEvent)) :=
  [customerFeed (paging.arrivals n).generalLedger (fun r => r.Reverses paging.customerId)
      (plainReading TimelineGeneralLedgerEntry.createdAt generalLedgerEvent)
      paging.db.generalLedger.rows,
    customerFeed (paging.arrivals n).promiseEvents
      (fun r => r.promise.customerId = paging.customerId)
      (plainReading TimelinePromiseEvent.createdAt promiseEvent) paging.db.promiseEvents.rows,
    customerFeed (paging.arrivals n).stageEvents (fun r => r.accountCustomerId = paging.customerId)
      (plainReading TimelineStageEvent.createdAt collectionsStageEvent)
      paging.db.stageEvents.rows,
    customerFeed (paging.arrivals n).journal (fun r => r.entry.customerId = some paging.customerId)
      (plainReading JournalEntryRow.createdAt journalEvent) paging.db.journalEntries.rows]

theorem plain_feedsAhead (n : ℕ) :
    ∀ feed ∈ paging.feedsAhead n, Feeds.Plain FinancialTimelineEvent.occurredAt feed := by
  intro feed hfeed
  unfold feedsAhead at hfeed
  simp only [mem_cons, not_mem_nil, or_false] at hfeed
  rcases hfeed with rfl | rfl
  · exact plain_customerFeed fun _ => rfl
  · exact plain_customerFeed fun _ => rfl

theorem plain_feedsBehind (n : ℕ) :
    ∀ feed ∈ paging.feedsBehind n, Feeds.Plain FinancialTimelineEvent.occurredAt feed := by
  intro feed hfeed
  unfold feedsBehind at hfeed
  simp only [mem_cons, not_mem_nil, or_false] at hfeed
  rcases hfeed with rfl | rfl | rfl | rfl
  · exact plain_customerFeed fun _ => rfl
  · exact plain_customerFeed fun _ => rfl
  · exact plain_customerFeed fun _ => rfl
  · exact plain_customerFeed fun _ => rfl

theorem nonempty_feeds (n : ℕ) :
    ∀ feed ∈ paging.feedsAhead n ++ paging.feedsBehind n, ∀ row ∈ feed, row.events ≠ [] := by
  intro feed hfeed
  unfold feedsAhead feedsBehind at hfeed
  simp only [mem_append, mem_cons, not_mem_nil, or_false] at hfeed
  rcases hfeed with (rfl | rfl) | rfl | rfl | rfl | rfl
  · exact nonempty_customerFeed
  · exact nonempty_customerFeed
  · exact nonempty_customerFeed
  · exact nonempty_customerFeed
  · exact nonempty_customerFeed
  · exact nonempty_customerFeed

theorem mem_feeds {n : ℕ} {row : Reading Timestamp FinancialTimelineEvent}
    (hrow : row ∈ (paging.feedsAhead n ++ paging.subscriptionFeed n ::
      paging.feedsBehind n).flatten) :
    (∃ s ∈ paging.subscriptions, subscriptionReading (paging.clock 0) s = row) ∨
      row.events ≠ [] ∧ ∀ event ∈ row.events, event.occurredAt = row.date := by
  obtain ⟨feed, hfeed, hmem⟩ := mem_flatten.1 hrow
  rcases mem_append.1 hfeed with hahead | hrest
  · exact .inr ⟨paging.nonempty_feeds n feed (mem_append_left _ hahead) row hmem,
      paging.plain_feedsAhead n feed hahead row hmem⟩
  · rcases mem_cons.1 hrest with rfl | hbehind
    · exact .inl (mem_customerFeed.1 hmem)
    · exact .inr ⟨paging.nonempty_feeds n feed (mem_append_right _ hbehind) row hmem,
        paging.plain_feedsBehind n feed hbehind row hmem⟩

theorem feeds_steady (n : ℕ) :
    List.Forall₂ List.Perm
      (paging.feedsAhead n ++ paging.subscriptionFeed n :: paging.feedsBehind n)
      (paging.feedsAhead 0 ++ paging.subscriptionFeed 0 :: paging.feedsBehind 0) := by
  unfold feedsAhead subscriptionFeed feedsBehind
  simp only [cons_append, nil_append]
  refine .cons (customerFeed_perm ..) (.cons (customerFeed_perm ..) (.cons (customerFeed_perm ..)
    (.cons (customerFeed_perm ..) (.cons (customerFeed_perm ..) (.cons (customerFeed_perm ..)
      (.cons (customerFeed_perm ..) .nil))))))

theorem feeds_dated : ∀ row ∈ (paging.feedsAhead 0 ++ paging.subscriptionFeed 0 ::
    paging.feedsBehind 0).flatten, ∃ event ∈ row.events, event.occurredAt = row.date := by
  intro row hrow
  rcases paging.mem_feeds hrow with ⟨s, _, rfl⟩ | ⟨hne, hplain⟩
  · exact ⟨_, subscriptionActivated_mem (paging.clock 0) s, rfl⟩
  · obtain ⟨event, hevent⟩ := exists_mem_of_ne_nil _ hne
    exact ⟨event, hevent, hplain event hevent⟩

/-- The seven sources, as the calls come upon them. -/
def feeds : Feeds FinancialTimelineEvent.occurredAt where
  seen := fun n => paging.feedsAhead n ++ paging.subscriptionFeed n :: paging.feedsBehind n
  steady := paging.feeds_steady
  dated := paging.feeds_dated

theorem feeds_seen (n : ℕ) : paging.feeds.seen n =
    paging.feedsAhead n ++ paging.subscriptionFeed n :: paging.feedsBehind n := rfl

theorem map_events_findLatest {ρ : Type} (order : RowOrder ρ) (p : ρ → Prop) [DecidablePred p]
    (date : ρ → Timestamp) (event : ρ → FinancialTimelineEvent) (rows : List ρ)
    (before : Option Timestamp) (limit : ℕ) :
    ((recent Reading.date limit before
        (customerFeed order p (plainReading date event) rows)).flatMap
        Reading.entries).map Prod.snd =
      (findLatest order date p before limit rows).map event := by
  rw [events_findLatest, map_eq_flatMap]
  rfl

theorem fetchSubscriptionEvents_clock (n : ℕ) (before : Option Timestamp) (limit : ℕ) :
    fetchSubscriptionEvents paging.db paging.customerId (paging.arrivals n) before limit
        (paging.clock n) =
      fetchSubscriptionEvents paging.db paging.customerId (paging.arrivals n) before limit
        (paging.clock 0) := by
  unfold fetchSubscriptionEvents
  apply flatMap_congr
  intro s hs
  obtain ⟨hstored, howner⟩ := mem_of_mem_findLatest hs
  unfold subscriptionEvents
  rw [if_congr (paging.unchanged n s hstored howner) rfl rfl]

theorem read_events (n : ℕ) (before : Option Timestamp) (limit : ℕ) :
    (paging.feeds.read limit n before).map Prod.snd =
      fetchOrderEvents paging.db paging.customerId (paging.arrivals n) before limit ++
      fetchLedgerEvents paging.db paging.customerId (paging.arrivals n) before limit ++
      fetchSubscriptionEvents paging.db paging.customerId (paging.arrivals n) before limit
        (paging.clock 0) ++
      fetchGeneralLedgerEvents paging.db paging.customerId (paging.arrivals n) before limit ++
      fetchPromiseEvents paging.db paging.customerId (paging.arrivals n) before limit ++
      fetchCollectionsStageEvents paging.db paging.customerId (paging.arrivals n) before limit ++
      fetchJournalEvents paging.db paging.customerId (paging.arrivals n) before limit := by
  have hread : paging.feeds.read limit n before =
      (paging.feedsAhead n ++ paging.subscriptionFeed n :: paging.feedsBehind n).flatMap
        fun feed => (recent Reading.date limit before feed).flatMap Reading.entries := rfl
  have hsubscriptions : ((recent Reading.date limit before (paging.subscriptionFeed n)).flatMap
      Reading.entries).map Prod.snd =
      fetchSubscriptionEvents paging.db paging.customerId (paging.arrivals n) before limit
        (paging.clock 0) :=
    events_findLatest _ _ (subscriptionReading (paging.clock 0)) _ before limit
  rw [hread]
  unfold feedsAhead feedsBehind
  simp only [cons_append, nil_append, flatMap_cons, flatMap_nil,
    map_append, append_nil, append_assoc, map_events_findLatest, hsubscriptions]
  rfl

theorem fetch_eq (n : ℕ) (before : Option Timestamp) :
    paging.fetch n before = paging.feeds.fetch (timelineLimit paging.limit) n before := by
  unfold Feeds.fetch
  rw [read_events, ← fetchSubscriptionEvents_clock]
  rfl

theorem plainFeed_entries {ρ : Type} (order : RowOrder ρ) (p : ρ → Prop) [DecidablePred p]
    (date : ρ → Timestamp) (event : ρ → FinancialTimelineEvent) (rows : List ρ) :
    ((customerFeed order p (plainReading date event) rows).flatMap Reading.entries).Perm
      ((rows.filter fun row => p row).map fun row => (date row, event row)) := by
  rw [map_eq_flatMap]
  exact customerFeed_entries order p (plainReading date event) rows

theorem entries_ahead (n : ℕ) :
    ((paging.feedsAhead n).flatMap fun feed => feed.flatMap Reading.entries).Perm
      paging.datedAhead := by
  unfold feedsAhead datedAhead
  simp only [flatMap_cons, flatMap_nil, append_nil]
  exact (plainFeed_entries ..).append (plainFeed_entries ..)

theorem entries_subscriptions (n : ℕ) :
    ((paging.subscriptionFeed n).flatMap Reading.entries).Perm paging.datedSubscriptions :=
  customerFeed_entries ..

theorem entries_behind (n : ℕ) :
    ((paging.feedsBehind n).flatMap fun feed => feed.flatMap Reading.entries).Perm
      paging.datedBehind := by
  unfold feedsBehind datedBehind
  simp only [flatMap_cons, flatMap_nil, append_nil, append_assoc]
  exact (plainFeed_entries ..).append ((plainFeed_entries ..).append
    ((plainFeed_entries ..).append (plainFeed_entries ..)))

theorem entries_perm :
    ((paging.feedsAhead 0 ++ paging.subscriptionFeed 0 :: paging.feedsBehind 0).flatten.flatMap
      Reading.entries).Perm paging.dated := by
  unfold dated
  rw [flatten_append, flatten_cons, flatMap_append, flatMap_append,
    append_assoc]
  refine .append ?_ (.append (paging.entries_subscriptions 0) ?_)
  · rw [← flatMap_id, flatMap_assoc]
    exact paging.entries_ahead 0
  · rw [← flatMap_id, flatMap_assoc]
    exact paging.entries_behind 0

theorem older_perm (before : Option Timestamp) :
    (paging.feeds.older before).Perm (paging.dated.filter fun entry => Older before entry.1) := by
  unfold Feeds.older
  rw [← Feeds.filter_entries _ fun date => Older before date]
  exact paging.entries_perm.filter _

theorem events_perm : ((paging.feeds.older none).map Prod.snd).Perm paging.events := by
  have hall : (paging.dated.filter fun entry => Older none entry.1) = paging.dated := by
    apply filter_eq_self.2
    intro entry _
    exact decide_eq_true fun t ht => nomatch ht
  have hperm := paging.older_perm none
  rw [hall] at hperm
  exact hperm.map Prod.snd

theorem boundary_eq (k : ℕ) :
    paging.boundary k =
      Feeds.cursors (timelineLimit paging.limit) none (paging.feeds.times none) k := by
  unfold boundary Feeds.times
  rw [times_eq_of_sorted
    ((latestFirst_perm FinancialTimelineEvent.occurredAt _).trans paging.events_perm.symm)
    (latestFirst_sorted _ _)]

theorem right_iff : paging.Right ↔ (paging.events.map FinancialTimelineEvent.id).Nodup ∧
      paging.feeds.RightFrom (timelineLimit paging.limit) 0 none := by
  have hfetch : paging.fetch = paging.feeds.fetch (timelineLimit paging.limit) := by
    funext n before
    exact paging.fetch_eq n before
  unfold Right Feeds.RightFrom
  rw [hfetch]
  constructor
  · rintro ⟨pages, hpages, hperm, hids, hsorted⟩
    exact ⟨(hperm.map _).nodup_iff.1 hids, pages, hpages, hperm.trans paging.events_perm.symm,
      hsorted⟩
  · rintro ⟨hids, pages, hpages, hperm, hsorted⟩
    have hperm' := hperm.trans paging.events_perm
    exact ⟨pages, hpages, hperm', (hperm'.map _).nodup_iff.2 hids, hsorted⟩

/-! ## Boundaries -/

variable {before : Option Timestamp}

variable {entry : Timestamp × FinancialTimelineEvent} {t : Timestamp}

theorem mem_older (hentry : entry ∈ paging.feeds.older before) :
    entry.2.occurredAt = entry.1 ∨
      ∃ s ∈ paging.subscriptions, s.ExpiredBy (paging.clock 0) ∧ Older before s.activatedAt ∧
        entry = (s.activatedAt, subscriptionExpired s) := by
  obtain ⟨row, hrow, holder, hmade⟩ := Feeds.mem_older.1 hentry
  obtain ⟨event, hevent, rfl⟩ := mem_map.1 hmade
  rcases paging.mem_feeds hrow with ⟨s, hs, rfl⟩ | ⟨_, hplain⟩
  · rcases mem_subscriptionEvents hevent with rfl | ⟨hexpired, rfl⟩
    · exact .inl rfl
    · exact .inr ⟨s, hs, hexpired, holder, rfl⟩
  · exact .inl (hplain event hevent)

theorem expired_mem_older {s : TimelineSubscription} (hs : s ∈ paging.subscriptions)
    (hexpired : s.ExpiredBy (paging.clock 0)) (holder : Older before s.activatedAt) :
    (s.activatedAt, subscriptionExpired s) ∈ paging.feeds.older before := by
  have hrow : subscriptionReading (paging.clock 0) s ∈ paging.subscriptionFeed 0 :=
    mem_customerFeed.2 ⟨s, hs, rfl⟩
  refine Feeds.mem_older.2 ⟨_, mem_flatten.2 ⟨paging.subscriptionFeed 0, ?_, hrow⟩, holder, ?_⟩
  · exact mem_append_right _ (mem_cons_self ..)
  · exact mem_map_of_mem (subscriptionExpired_mem hexpired)

theorem expiries_iff :
    (∀ s ∈ paging.subscriptions, s.ExpiredBy (paging.clock 0) → Older before s.activatedAt →
        (t ≤ s.activatedAt → t ≤ s.expiresAt) ∧ (s.activatedAt < t → s.expiresAt ≤ t)) ↔
      (∀ entry ∈ paging.feeds.older before, t ≤ entry.1 → t ≤ entry.2.occurredAt) ∧
        ∀ entry ∈ paging.feeds.older before, entry.1 < t → entry.2.occurredAt ≤ t := by
  constructor
  · intro hexpiries
    constructor
    · intro entry hentry hlate
      rcases paging.mem_older hentry with hplain | ⟨s, hs, hexpired, holder, rfl⟩
      · rw [hplain]
        exact hlate
      · exact (hexpiries s hs hexpired holder).1 hlate
    · intro entry hentry hearly
      rcases paging.mem_older hentry with hplain | ⟨s, hs, hexpired, holder, rfl⟩
      · rw [hplain]
        exact hearly.le
      · exact (hexpiries s hs hexpired holder).2 hearly
  · rintro ⟨hfresh, hstale⟩ s hs hexpired holder
    have hmem := paging.expired_mem_older hs hexpired holder
    exact ⟨hfresh _ hmem, hstale _ hmem⟩

theorem mem_recent_subscriptionFeed {n : ℕ} :
    (entry ∈ (recent Reading.date (timelineLimit paging.limit) before
        (paging.subscriptionFeed n)).flatMap Reading.entries ∧
      entry.1 < t ∧ entry.2.occurredAt = t) ↔
      ∃ s ∈ paging.readSubscriptions n before, s.ExpiredBy (paging.clock 0) ∧
        s.activatedAt < t ∧ s.expiresAt = t ∧ entry = (s.activatedAt, subscriptionExpired s) := by
  unfold subscriptionFeed
  rw [← map_findLatest, mem_flatMap]
  constructor
  · rintro ⟨⟨row, hrow, hmade⟩, hearly, hat⟩
    obtain ⟨s, hs, rfl⟩ := mem_map.1 hrow
    obtain ⟨event, hevent, rfl⟩ := mem_map.1 hmade
    rcases mem_subscriptionEvents hevent with rfl | ⟨hexpired, rfl⟩
    · exact absurd hat hearly.ne
    · exact ⟨s, hs, hexpired, hearly, hat, rfl⟩
  · rintro ⟨s, hs, hexpired, hearly, hat, rfl⟩
    exact ⟨⟨_, mem_map_of_mem hs, mem_map_of_mem (subscriptionExpired_mem hexpired)⟩,
      hearly, hat⟩

theorem datedBehind_iff {n : ℕ}
    (hfull : ((paging.feeds.older before).filter fun entry => t ≤ entry.1).length =
      timelineLimit paging.limit) :
    (∀ feed ∈ paging.feedsBehind n,
        ∀ row ∈ recent Reading.date (timelineLimit paging.limit) before feed, row.date ≠ t) ↔
      ∀ entry ∈ paging.datedBehind, entry.1 ≠ t := by
  constructor
  · intro hfeeds entry hentry hat
    obtain ⟨feed, hfeed, hmem⟩ :=
      mem_flatMap.1 ((paging.entries_behind n).symm.subset hentry)
    obtain ⟨row, hrow, hmade⟩ := mem_flatMap.1 hmem
    rw [Feeds.date_of_mem_entries hmade] at hat
    -- a page's worth of events is dated from `t` on, so that one row is
    obtain ⟨passed, hpassed⟩ := exists_mem_of_length_pos
      (hfull.symm ▸ timelineLimit_pos paging.limit)
    obtain ⟨hpassed, hlate⟩ := mem_filter.1 hpassed
    obtain ⟨other, _, holder, hother⟩ := Feeds.mem_older.1 hpassed
    rw [Feeds.date_of_mem_entries hother] at hlate
    have hbefore : Older before row.date := by
      intro s hs
      rw [hat]
      exact (of_decide_eq_true hlate).trans_lt (holder s hs)
    have hseen : feed ∈ paging.feeds.seen n :=
      mem_append_right _ (mem_cons_of_mem _ hfeed)
    exact hfeeds feed hfeed row
      (Feeds.mem_recent (fun _ _ hle ht => ht.trans hle) hfull.le hseen hrow hbefore hat.ge) hat
  · intro hbehind feed hfeed row hrow
    obtain ⟨missed, hperm⟩ :=
      exists_recent_append Reading.date (timelineLimit paging.limit) before feed
    have hstored := mem_of_mem_filter (hperm.subset (mem_append_left missed hrow))
    obtain ⟨event, hevent⟩ := exists_mem_of_ne_nil _
      (paging.nonempty_feeds n feed (mem_append_right _ hfeed) row hstored)
    exact hbehind (row.date, event) ((paging.entries_behind n).subset (mem_flatMap.2
      ⟨feed, hfeed, mem_flatMap.2 ⟨row, hstored, mem_map_of_mem hevent⟩⟩))

theorem cleanCut_iff {n : ℕ} :
    paging.CleanCut n before t ↔ paging.feeds.Clean (timelineLimit paging.limit) n before t := by
  have hlength := ((paging.older_perm before).filter fun entry => t ≤ entry.1).length_eq
  have hties := Feeds.ties_iff (timelineLimit paging.limit) before t (paging.feeds_seen n)
    (paging.plain_feedsAhead n) (paging.plain_feedsBehind n)
  constructor
  · intro hcut
    have hfull := hlength.trans hcut.full
    obtain ⟨hfresh, hstale⟩ := paging.expiries_iff.1 hcut.expiries
    refine ⟨hfull, hfresh, hstale, hties.2 ?_⟩
    intro entry hentry hearly hat
    obtain ⟨s, hs, hexpired, hearly', hat', _⟩ :=
      paging.mem_recent_subscriptionFeed.1 ⟨hentry, hearly, hat⟩
    exact (paging.datedBehind_iff hfull).2 (hcut.behind s hs hexpired hearly' hat')
  · intro hclean
    refine ⟨hlength.symm.trans hclean.full, paging.expiries_iff.2 ⟨hclean.fresh, hclean.stale⟩, ?_⟩
    intro s hs hexpired hearly hat
    obtain ⟨hentry, hearly', hat'⟩ :=
      paging.mem_recent_subscriptionFeed.2 ⟨s, hs, hexpired, hearly, hat, rfl⟩
    exact (paging.datedBehind_iff hclean.full).1 (hties.1 hclean.ties _ hentry hearly' hat')

end

/-! ## Event ids -/

theorem nodup_flatten_of_labels {parts : List (List (String × Uuid))} {labels : List (List String)}
    (hparts : List.Forall₂ (fun part names => part.Nodup ∧ ∀ key ∈ part, key.1 ∈ names) parts
      labels) (hlabels : labels.flatten.Nodup) :
    parts.flatten.Nodup ∧ ∀ key ∈ parts.flatten, key.1 ∈ labels.flatten := by
  induction hparts with
  | nil => exact ⟨nodup_nil, fun _ hkey => absurd hkey not_mem_nil⟩
  | cons hpart _ ih =>
      rw [flatten_cons, nodup_append'] at hlabels
      obtain ⟨hnodup, hnamed⟩ := ih hlabels.2.1
      rw [flatten_cons, flatten_cons]
      constructor
      · refine nodup_append'.2 ⟨hpart.1, hnodup, ?_⟩
        intro key hkey hlater
        exact hlabels.2.2 (hpart.2 key hkey) (hnamed key hlater)
      · intro key hkey
        rcases mem_append.1 hkey with hhere | hlater
        · exact mem_append_left _ (hpart.2 key hhere)
        · exact mem_append_right _ (hnamed key hlater)

theorem keys_of_table {ρ : Type} {key : ρ → Uuid} (table : Table key) (p : ρ → Prop)
    [DecidablePred p] (label : String) :
    ((table.rows.filter fun row => p row).map fun row => (label, key row)).Nodup ∧
      ∀ named ∈ (table.rows.filter fun row => p row).map fun row => (label, key row),
        named.1 ∈ [label] := by
  have hkeys : ((table.rows.filter fun row => p row).map key).Nodup :=
    (filter_sublist.map key).nodup table.keysDistinct
  have hpairs := hkeys.map (Prod.mk_right_injective label)
  rw [map_map] at hpairs
  refine ⟨hpairs, ?_⟩
  intro named hnamed
  obtain ⟨row, _, rfl⟩ := mem_map.1 hnamed
  exact mem_singleton_self label

def subscriptionKeys (now : Timestamp) (s : TimelineSubscription) : List (String × Uuid) :=
  if s.ExpiredBy now then [("subscription_activate", s.id), ("subscription_expire", s.id)]
  else [("subscription_activate", s.id)]

theorem ids_subscriptionEvents (now : Timestamp) (s : TimelineSubscription) :
    (subscriptionEvents now s).map FinancialTimelineEvent.id =
      (subscriptionKeys now s).map fun key => timelineEventId key.1 key.2 := by
  unfold subscriptionEvents subscriptionKeys
  by_cases hexpired : s.ExpiredBy now
  · rw [if_pos hexpired, if_pos hexpired]
    rfl
  · rw [if_neg hexpired, if_neg hexpired]
    rfl

theorem mem_subscriptionKeys {now : Timestamp} {s : TimelineSubscription} {key : String × Uuid}
    (hkey : key ∈ subscriptionKeys now s) :
    key.1 ∈ ["subscription_activate", "subscription_expire"] ∧ key.2 = s.id := by
  unfold subscriptionKeys at hkey
  by_cases hexpired : s.ExpiredBy now
  · rw [if_pos hexpired] at hkey
    rcases mem_cons.1 hkey with rfl | hrest
    · exact ⟨mem_cons_self .., rfl⟩
    · obtain rfl := mem_singleton.1 hrest
      exact ⟨mem_cons_of_mem _ (mem_singleton_self _), rfl⟩
  · rw [if_neg hexpired] at hkey
    obtain rfl := mem_singleton.1 hkey
    exact ⟨mem_cons_self .., rfl⟩

theorem subscriptionKeys_nodup (now : Timestamp) {rows : List TimelineSubscription}
    (hids : (rows.map TimelineSubscription.id).Nodup) :
    (rows.flatMap (subscriptionKeys now)).Nodup := by
  rw [nodup_flatMap]
  constructor
  · intro s _
    unfold subscriptionKeys
    by_cases hexpired : s.ExpiredBy now
    · rw [if_pos hexpired]
      simp
    · rw [if_neg hexpired]
      exact nodup_singleton _
  · refine (pairwise_map.1 hids).imp ?_
    intro s other hne key hkey hother
    exact hne ((mem_subscriptionKeys hkey).2.symm.trans (mem_subscriptionKeys hother).2)

section

variable (paging : TimelinePaging)

def eventKeys : List (List (String × Uuid)) :=
  [(paging.db.orders.rows.filter fun o => o.customerId = paging.customerId).map
      fun o => ("order", o.id),
    paging.subscriptions.flatMap (subscriptionKeys (paging.clock 0)),
    (paging.db.generalLedger.rows.filter fun r => r.Reverses paging.customerId).map
      fun r => ("gl", r.id),
    (paging.db.promiseEvents.rows.filter fun r => r.promise.customerId = paging.customerId).map
      fun r => ("promise_event", r.id),
    (paging.db.stageEvents.rows.filter fun r => r.accountCustomerId = paging.customerId).map
      fun r => ("collections_stage", r.id),
    (paging.db.journalEntries.rows.filter fun r =>
      r.entry.customerId = some paging.customerId).map fun r => ("journal", r.id)]

def eventLabels : List (List String) :=
  [["order"], ["subscription_activate", "subscription_expire"], ["gl"], ["promise_event"],
    ["collections_stage"], ["journal"]]

theorem eventKeys_nodup : paging.eventKeys.flatten.Nodup ∧
    ∀ key ∈ paging.eventKeys.flatten, key.1 ∈ eventLabels.flatten := by
  have hsubscriptions : (paging.subscriptions.map TimelineSubscription.id).Nodup :=
    (filter_sublist.map _).nodup paging.db.subscriptions.keysDistinct
  apply nodup_flatten_of_labels
  · refine .cons (keys_of_table ..) (.cons ⟨subscriptionKeys_nodup _ hsubscriptions, ?_⟩
      (.cons (keys_of_table ..) (.cons (keys_of_table ..)
        (.cons (keys_of_table ..) (.cons (keys_of_table ..) .nil)))))
    intro key hkey
    obtain ⟨s, _, hmem⟩ := mem_flatMap.1 hkey
    exact (mem_subscriptionKeys hmem).1
  · decide

theorem ids_eq (hledger : ∀ e ∈ paging.db.journalEntries.rows, ¬ e.OfLedger paging.customerId) :
    paging.events.map FinancialTimelineEvent.id =
      paging.eventKeys.flatten.map fun key => timelineEventId key.1 key.2 := by
  have hnone : (paging.db.journalEntries.rows.filter
      fun e => e.OfLedger paging.customerId) = [] := by
    apply filter_eq_nil_iff.2
    intro e he
    simpa using hledger e he
  have hsubscriptions : (paging.datedSubscriptions.map Prod.snd).map FinancialTimelineEvent.id =
      (paging.subscriptions.flatMap (subscriptionKeys (paging.clock 0))).map
        fun key => timelineEventId key.1 key.2 := by
    unfold datedSubscriptions
    rw [map_flatMap, map_flatMap, map_flatMap]
    apply flatMap_congr
    intro s _
    rw [← ids_subscriptionEvents]
    congr 1
    rw [map_map]
    exact map_id _
  rw [map_map] at hsubscriptions
  unfold events dated datedAhead datedBehind eventKeys
  rw [hnone]
  simp only [map_append, map_map, map_nil, append_nil, flatten_cons,
    flatten_nil, append_assoc]
  rw [hsubscriptions]
  rfl

theorem ids_nodup_iff : (paging.events.map FinancialTimelineEvent.id).Nodup ↔
    ∀ e ∈ paging.db.journalEntries.rows, ¬ e.OfLedger paging.customerId := by
  constructor
  · intro hnodup e he hofLedger
    have hahead : (e.createdAt, ledgerEvent e) ∈ paging.datedAhead :=
      mem_append_right _ (mem_map_of_mem (f := fun e : JournalEntryRow =>
        (e.createdAt, ledgerEvent e)) (mem_filter.2 ⟨he, decide_eq_true hofLedger⟩))
    have hbehind : (e.createdAt, journalEvent e) ∈ paging.datedBehind :=
      mem_append_right _ (mem_map_of_mem (f := fun e : JournalEntryRow =>
        (e.createdAt, journalEvent e)) (mem_filter.2 ⟨he, decide_eq_true hofLedger.1⟩))
    unfold events dated at hnodup
    rw [map_map, map_append, nodup_append'] at hnodup
    have hid : timelineEventId "journal" e.id ∈ (paging.datedAhead ++ paging.datedSubscriptions).map
          (FinancialTimelineEvent.id ∘ Prod.snd) :=
      mem_map.2 ⟨_, mem_append_left _ hahead, rfl⟩
    exact hnodup.2.2 hid (mem_map.2 ⟨_, hbehind, rfl⟩)
  · intro hledger
    rw [paging.ids_eq hledger]
    obtain ⟨hnodup, hnamed⟩ := paging.eventKeys_nodup
    have hcolon : ∀ label ∈ eventLabels.flatten, ':' ∉ label.toList := by
      decide
    refine hnodup.map_on ?_
    intro key hkey other hother hsame
    obtain ⟨hlabel, hid⟩ := timelineEventId_inj (hcolon _ (hnamed key hkey))
      (hcolon _ (hnamed other hother)) hsame
    exact Prod.ext hlabel hid

end

end TimelinePaging

/-! ## Whole runs -/

/-- Paging shows every event once, with ids of their own and the latest first, exactly if no
journal entry is shown as an event of the ledger, too, and every boundary is cut clean. -/
theorem timelineRight_iff (paging : TimelinePaging) :
    paging.Right ↔ (∀ e ∈ paging.db.journalEntries.rows, ¬ e.OfLedger paging.customerId) ∧
        ∀ k t, paging.boundary (k + 1) = some t →
          paging.CleanCut k (paging.boundary k) t := by
  rw [paging.right_iff, ← paging.ids_nodup_iff]
  apply and_congr_right
  intro hids
  have hdistinct : ((paging.feeds.older none).map Prod.snd).Nodup :=
    paging.events_perm.nodup_iff.2 hids.of_map
  rw [Feeds.rightFrom_iff hdistinct (timelineLimit_pos paging.limit)]
  unfold Feeds.CleanFrom
  simp only [← TimelinePaging.boundary_eq, ← TimelinePaging.cleanCut_iff, Nat.zero_add]

namespace Sample

def rowsAsStored (ρ : Type) : RowOrder ρ := ⟨id, List.Perm.refl⟩

def storedArrival : TimelineArrival :=
  ⟨rowsAsStored _, rowsAsStored _, rowsAsStored _, rowsAsStored _, rowsAsStored _,
    rowsAsStored _, rowsAsStored _⟩

def timelineOrder (id : Uuid) (createdAt : Timestamp) : Order where
  id := id
  customerId := "c"
  totalPrice := 20000
  status := .COMPLETED
  cashStatus := .UNPAID
  posPaymentMethod := .CASH
  createdAt := createdAt
  completedAt := none
  walletSettledAt := none
  driverId := none
  subscriptionId := none
  posPaymentBundleId := none
  posHostedPaymentUrl := none
  posGatewayTrackId := none
  posGatewayChargeKd := none

def timelineDb (orders : List Order) (subscriptions : List TimelineSubscription)
    (horders : (orders.map Order.id).Nodup)
    (hsubscriptions : (subscriptions.map TimelineSubscription.id).Nodup) : TimelineDb :=
  ⟨⟨orders, horders⟩, ⟨[], nodup_nil⟩, ⟨subscriptions, hsubscriptions⟩,
    ⟨[], nodup_nil⟩, ⟨[], nodup_nil⟩, ⟨[], nodup_nil⟩⟩

def twoOrders : TimelinePaging where
  db := timelineDb [timelineOrder "o-1" 10, timelineOrder "o-2" 20] [] (by decide) nodup_nil
  customerId := "c"
  limit := some 1
  arrivals := fun _ => storedArrival
  clock := fun _ => 40
  unchanged := fun _ _ _ _ => Iff.rfl

def expiredSubscription : TimelinePaging where
  db := timelineDb [timelineOrder "o-1" 20] [⟨"s-1", "c", .EXPIRED, 10, 30, "Gold 30", 120000⟩]
    (nodup_singleton _) (nodup_singleton _)
  customerId := "c"
  limit := some 2
  arrivals := fun _ => storedArrival
  clock := fun _ => 40
  unchanged := fun _ _ _ _ => Iff.rfl

end Sample

/-- Two orders are paged right. -/
theorem timelineRight_sample : Sample.twoOrders.Right := by
  apply (timelineRight_iff Sample.twoOrders).2
  refine ⟨fun e he => absurd he not_mem_nil, ?_⟩
  have hfirst : Sample.twoOrders.boundary 1 = some 20 := by
    decide +kernel
  have hsecond : Sample.twoOrders.boundary 2 = some 10 := by
    decide +kernel
  intro k t ht
  match k with
  | 0 =>
      obtain rfl := Option.some.inj (hfirst.symm.trans ht)
      exact ⟨by decide +kernel, fun s hs => absurd hs not_mem_nil,
        fun s hs => absurd hs not_mem_nil⟩
  | 1 =>
      obtain rfl := Option.some.inj (hsecond.symm.trans ht)
      exact ⟨by decide +kernel, fun s hs => absurd hs not_mem_nil,
        fun s hs => absurd hs not_mem_nil⟩
  | k + 2 =>
      have hnone : Sample.twoOrders.boundary (k + 2 + 1) = none := by
        apply List.getElem?_eq_none
        change 2 ≤ (k + 2 + 1) * 1 - 1
        omega
      rw [hnone] at ht
      cases ht

/-- The expiry is shown on the first page, and again on the second. -/
theorem timelineRight_fails : ¬ ∀ paging : TimelinePaging, paging.Right := by
  intro hall
  obtain ⟨pages, hpages, hperm, _⟩ := hall Sample.expiredSubscription
  have hlength := hperm.length_eq
  have hfirst : (Sample.expiredSubscription.fetch 0 none).2 = some 20 := by
    decide +kernel
  have hsecond : (Sample.expiredSubscription.fetch 1 (some 20)).2 = some 10 := by
    decide +kernel
  have hthird : (Sample.expiredSubscription.fetch 2 (some 10)).2 = none := by
    decide +kernel
  cases hpages with
  | last hend =>
      rw [hfirst] at hend
      cases hend
  | @more _ _ t later hnext hlater =>
      rw [hfirst] at hnext
      obtain rfl := Option.some.inj hnext
      cases hlater with
      | last hend =>
          rw [hsecond] at hend
          cases hend
      | @more _ _ t later hnext hlater =>
          rw [hsecond] at hnext
          obtain rfl := Option.some.inj hnext
          cases hlater with
          | last hend =>
              revert hlength
              decide +kernel
          | more hnext _ =>
              rw [hthird] at hnext
              cases hnext

end SafariLaundry
