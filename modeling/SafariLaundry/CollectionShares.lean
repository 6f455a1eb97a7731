import SafariLaundry.CollectionsList

/-!
# The amounts of the collections list

However the open rows are found, each order is among them once.  What is shown of a customer is
what is open on the customer's rows, oldest first, capped at the visible debt and rounded to
fils; a rest within the tolerance is not shown.
-/

namespace SafariLaundry

open Library Library.Bookkeeping Library.Transaction List

/-! ## The rows that are found -/

structure OpenCollections.Sound (found : OpenCollections) : Prop where
  distinct : (found.rows.map Order.id).Nodup
  owing : ∀ r ∈ found.rows, invoiceRemainingTolerance < found.raw r

namespace OpenCollections

theorem sound_filterRows {passes : Order → Prop} [DecidablePred passes] {rows : List Order}
    (hdistinct : (rows.map Order.id).Nodup) (remainingByOrder : Uuid → Option ℤ) :
    (filterRows passes rows remainingByOrder).Sound where
  distinct := (filter_sublist.map Order.id).nodup hdistinct
  owing := fun _ hrow => not_le.1 (of_decide_eq_true (mem_filter.1 hrow).2).1

theorem Sound.push {found : OpenCollections} (hsound : found.Sound) (r : Order) :
    (found.push r).Sound := by
  unfold OpenCollections.push
  by_cases hskip : (∃ f ∈ found.rows, f.id = r.id) ∨ found.raw r ≤ invoiceRemainingTolerance
  · rw [if_pos hskip]
    exact hsound
  · rw [if_neg hskip]
    obtain ⟨hnew, howing⟩ := not_or.1 hskip
    constructor
    · rw [map_append, map_singleton, ← concat_eq_append]
      exact hsound.distinct.concat fun hlisted => hnew (mem_map.1 hlisted)
    · intro row hrow
      rcases mem_append.1 hrow with hold | hpushed
      · exact hsound.owing row hold
      · rw [mem_singleton.1 hpushed]
        exact not_le.1 howing

theorem Sound.foldl_push {found : OpenCollections} (hsound : found.Sound) (rows : List Order) :
    (rows.foldl OpenCollections.push found).Sound := by
  induction rows generalizing found with
  | nil => exact hsound
  | cons r rest ih => exact ih (hsound.push r)

theorem Sound.foldl_pullBack {found : OpenCollections} (hsound : found.Sound)
    (visible : Uuid → ℤ) (rows : List Order) (customerIds : List Uuid) :
    (customerIds.foldl (OpenCollections.pullBack visible rows) found).Sound := by
  induction customerIds generalizing found with
  | nil => exact hsound
  | cons customerId rest ih =>
      apply ih
      unfold OpenCollections.pullBack
      by_cases henough :
          visible customerId - found.rowSum customerId ≤ invoiceRemainingTolerance
      · rw [if_pos henough]
        exact hsound
      · rw [if_neg henough]
        exact hsound.foldl_push _

end OpenCollections

theorem VisibilityStore.commits_read {store : VisibilityStore} {α : Type} {kind : VisibilityRead}
    {value result : α} {snapshots after : SnapshotTable}
    (hcommits : (store.read kind value).Commits snapshots result after) : result = value := by
  unfold VisibilityStore.read at hcommits
  cases hfault : store.readFault kind with
  | none =>
      rw [hfault] at hcommits
      exact (commits_pure.1 hcommits).1.symm
  | some err =>
      rw [hfault] at hcommits
      exact absurd hcommits commits_throw.1

namespace CollectionsStore

variable {store : CollectionsStore} {args : CollectionsArgs} {snapshots after : SnapshotTable}

theorem newestFirst_perm (store : CollectionsStore) (rows : List Order) :
    (store.newestFirst rows).Perm rows :=
  (perm_insertionSort _ _).trans (store.arrival.perm rows)

theorem newestFirst_distinct (store : CollectionsStore) (orders : Table Order.id)
    (wanted : Order → Prop) [DecidablePred wanted] :
    ((store.newestFirst (orders.rows.filter fun order => wanted order)).map Order.id).Nodup := by
  rw [((newestFirst_perm store _).map Order.id).nodup_iff]
  exact (filter_sublist.map Order.id).nodup orders.keysDistinct

theorem listOrders_distinct (store : CollectionsStore) (args : CollectionsArgs) (db : Db) :
    ((store.listOrders args db).map Order.id).Nodup := by
  have hall := newestFirst_distinct store db.orders fun order =>
    order.status ≠ .CANCELED ∧ (∀ id ∈ args.customer, order.customerId = id) ∧
      InScope db args.branchWhere order
  unfold listOrders
  by_cases hglobal : args.customer = none
  · simp only [if_pos hglobal]
    exact ((take_sublist _ _).map Order.id).nodup hall
  · simp only [if_neg hglobal]
    exact hall

theorem merged_distinct {fetchedAt remainingAt : CollectionsRead} {customerIds : List Uuid}
    {known extra : List Order} (hknown : (known.map Order.id).Nodup)
    (hcommits : (store.mergeCustomerOpenCollectibleRows fetchedAt remainingAt customerIds
      (known.map Order.id)).Commits snapshots extra after) :
    ((known ++ extra).map Order.id).Nodup := by
  unfold mergeCustomerOpenCollectibleRows at hcommits
  by_cases hnone : customerIds = []
  · rw [if_pos hnone] at hcommits
    obtain ⟨rfl, _⟩ := commits_pure.1 hcommits
    rw [append_nil]
    exact hknown
  · rw [if_neg hnone] at hcommits
    simp only [commits_bind, commits_pure] at hcommits
    obtain ⟨fetched, _, hfetched, _, _, _, rfl, _⟩ := hcommits
    obtain rfl := VisibilityStore.commits_read hfetched
    rw [map_append]
    refine List.Nodup.append hknown ?_ ?_
    · exact (filter_sublist.map Order.id).nodup (newestFirst_distinct ..)
    · intro id hold hnew
      obtain ⟨row, hrow, rfl⟩ := mem_map.1 hnew
      have hfetched := (newestFirst_perm store _).subset (mem_of_mem_filter hrow)
      exact (of_decide_eq_true (mem_filter.1 hfetched).2).2.1 hold

theorem sound_pullBackRows {rows : List Order} {found result : OpenCollections}
    (hsound : found.Sound)
    (hcommits : (store.pullBackRows rows found).Commits snapshots result after) : result.Sound := by
  unfold pullBackRows at hcommits
  by_cases hnone : rows = []
  · rw [if_pos hnone] at hcommits
    obtain ⟨rfl, _⟩ := commits_pure.1 hcommits
    exact hsound
  · rw [if_neg hnone] at hcommits
    simp only [commits_bind, commits_pure] at hcommits
    obtain ⟨visible, _, _, rfl, _⟩ := hcommits
    exact hsound.foldl_pullBack visible rows _

theorem sound_closeGaps {rows : List Order} {found result : OpenCollections}
    (hrows : (rows.map Order.id).Nodup) (hsound : found.Sound)
    (hcommits : (store.closeGaps rows found).Commits snapshots result after) : result.Sound := by
  unfold closeGaps at hcommits
  by_cases hnone : found.rows = []
  · rw [if_pos hnone] at hcommits
    obtain ⟨rfl, _⟩ := commits_pure.1 hcommits
    exact hsound
  · rw [if_neg hnone] at hcommits
    simp only [commits_bind] at hcommits
    obtain ⟨visible, _, _, extraRows, _, hextra, hrest⟩ := hcommits
    by_cases hclosed : extraRows = []
    · rw [if_pos hclosed] at hrest
      obtain ⟨rfl, _⟩ := commits_pure.1 hrest
      exact hsound
    · rw [if_neg hclosed] at hrest
      simp only [commits_bind, commits_pure] at hrest
      obtain ⟨_, _, _, remainingByOrder, _, _, rfl, _⟩ := hrest
      exact OpenCollections.sound_filterRows (merged_distinct hrows hextra) remainingByOrder

theorem sound_openCollections {found : OpenCollections}
    (hcommits : (store.openCollections args).Commits snapshots found after) : found.Sound := by
  unfold openCollections at hcommits
  rw [commits_bind] at hcommits
  obtain ⟨listed, _, hlisted, hrest⟩ := hcommits
  obtain rfl := VisibilityStore.commits_read hlisted
  have hdistinct := listOrders_distinct store args (store.seen .listed).db
  cases hcustomer : args.customer with
  | some customerId =>
      rw [hcustomer] at hrest
      unfold customerRows at hrest
      simp only [commits_bind, commits_pure] at hrest
      obtain ⟨rows, _, ⟨merged, _, hmerged, rfl, _⟩, _, _, _, remainingByOrder, _, _, rfl, _⟩ := hrest
      exact OpenCollections.sound_filterRows (merged_distinct hdistinct hmerged) remainingByOrder
  | none =>
      rw [hcustomer] at hrest
      simp only [commits_bind] at hrest
      obtain ⟨_, _, _, remainingByOrder, _, _, pulled, _, hpulled, hclosed⟩ := hrest
      apply sound_closeGaps hdistinct _ hclosed
      exact sound_pullBackRows (OpenCollections.sound_filterRows hdistinct remainingByOrder) hpulled

theorem commits_enrich {rows result : List CollectionRow}
    (hcommits : (store.enrichCollectionRowsWithFullBalanceLinkInfo rows).Commits snapshots result
      after) :
    ∃ links, result = rows.map (CollectionRow.withLink links) := by
  unfold enrichCollectionRowsWithFullBalanceLinkInfo at hcommits
  by_cases hnone : rows = []
  · rw [if_pos hnone] at hcommits
    obtain ⟨rfl, _⟩ := commits_pure.1 hcommits
    exact ⟨fun _ => none, by rw [hnone]; rfl⟩
  · rw [if_neg hnone] at hcommits
    simp only [commits_bind, commits_pure] at hcommits
    obtain ⟨_, _, _, _, _, _, links, _, _, rfl, _⟩ := hcommits
    exact ⟨links, rfl⟩

end CollectionsStore

/-! ## The amounts -/

/-- What is open on the rows of a customer, oldest first, up to the visible debt; the last of
it is not given out if it is no more than `least`. -/
structure CappedOldestFirst (least : ℤ) (raw : Order → ℤ) (visible : ℤ) (rows : List Order)
    (shares : List (Order × ℤ)) : Prop where
  distinct : (shares.map Prod.fst).Nodup
  within : ∀ share ∈ shares, share.1 ∈ rows ∧ least < share.2 ∧ share.2 ≤ raw share.1
  oldestFirst : ∀ share ∈ shares, ∀ older ∈ rows, older.createdAt < share.1.createdAt →
    (older, raw older) ∈ shares
  total : ∃ rest, 0 ≤ rest ∧ rest ≤ least ∧
    tally Prod.snd shares + rest = min (tally raw rows) (max 0 visible) ∧
    (rest ≠ 0 → shares.length < rows.length)

theorem allocationOrder_perm (rows : List Order) : (allocationOrder rows).Perm rows :=
  perm_insertionSort _ _

theorem allocationOrder_sorted (rows : List Order) :
    (allocationOrder rows).Pairwise fun first second => first.createdAt ≤ second.createdAt := by
  have htotal : Std.Total fun first second : Order => first.createdAt ≤ second.createdAt :=
    ⟨fun first second => le_total first.createdAt second.createdAt⟩
  have htrans : IsTrans Order fun first second => first.createdAt ≤ second.createdAt :=
    ⟨fun _ _ _ => le_trans⟩
  exact pairwise_insertionSort _ _

theorem cappedOldestFirst_draw {least : ℤ} {raw : Order → ℤ} {visible : ℤ}
    {rows queue : List Order} (hleast : 0 ≤ least) (hqueue : queue.Perm rows)
    (hsorted : queue.Pairwise fun first second => first.createdAt ≤ second.createdAt)
    (hdistinct : rows.Nodup) (howing : ∀ r ∈ rows, least < raw r) :
    CappedOldestFirst least raw visible rows (Budgets.draw least raw queue visible) := by
  have howed : ∀ r ∈ queue, least < raw r := fun r hr => howing r (hqueue.subset hr)
  have hnodup : queue.Nodup := hqueue.nodup_iff.2 hdistinct
  constructor
  · exact (Budgets.draw_items_first queue visible).sublist.nodup hnodup
  · intro share hshare
    obtain ⟨hmem, hbounds⟩ := Budgets.within_of_mem_draw howed hshare
    exact ⟨hqueue.subset hmem, hbounds⟩
  · rintro ⟨r, amount⟩ hshare older holder hearlier
    have hmem : r ∈ queue := (Budgets.within_of_mem_draw howed hshare).1
    obtain ⟨before, behind, rfl⟩ := append_of_mem hmem
    have hfirst : older ∈ before := by
      rcases mem_append.1 (hqueue.symm.subset holder) with hbefore | hbehind
      · exact hbefore
      · rcases mem_cons.1 hbehind with rfl | hbehind
        · exact absurd hearlier (lt_irrefl _)
        · have hlater := (pairwise_cons.1 (pairwise_append.1 hsorted).2.1).1 older hbehind
          exact absurd hearlier (not_lt.2 hlater)
    have hnew : r ∉ before := fun hbefore =>
      (nodup_append.1 hnodup).2.2 r hbefore r (mem_cons_self ..) rfl
    exact Budgets.older_drawn hleast hnew hshare older hfirst
  · rw [← hqueue.length_eq, ← tally_perm raw hqueue]
    by_cases hnonneg : 0 ≤ visible
    · rw [max_eq_right hnonneg]
      exact Budgets.tally_draw hleast howed hnonneg
    · have hsum : 0 ≤ tally raw queue :=
        tally_nonneg_of_mem fun r hr => (hleast.trans_lt (howed r hr)).le
      rw [max_eq_left (not_le.1 hnonneg).le, min_eq_right hsum,
        Budgets.draw_of_le ((not_le.1 hnonneg).le.trans hleast)]
      exact ⟨0, le_rfl, hleast, rfl, fun hrest => absurd rfl hrest⟩

def rowsShown (customerId : Uuid) (rows : List CollectionRow) : List CollectionRow :=
  rows.filter fun row => row.customerId = customerId

structure SharesShown (found : OpenCollections) (visible : ℤ) (customerId : Uuid)
    (rows : List CollectionRow) (shares : List (Order × ℤ)) : Prop where
  capped : CappedOldestFirst invoiceRemainingTolerance found.raw visible
    (found.rows.filter fun r => r.customerId = customerId) shares
  shown : (rowsShown customerId rows).map (fun row => (row.orderId, row.amountKd)) =
    shares.map fun share => (share.1.id, toFixed3 (ofMinor share.2))
  rounded : ∀ share ∈ shares, |10 * toFixed3 (ofMinor share.2) - share.2| ≤ 5
  whole : 10 ∣ visible → (∀ r ∈ found.rows, r.customerId = customerId → 10 ∣ found.raw r) →
    ∀ share ∈ shares, 10 * toFixed3 (ofMinor share.2) = share.2

theorem rowsShown_projected (store : CollectionsStore) (now : Timestamp) (customerId : Uuid)
    (links : Uuid → Option FullBalanceLink) (shares : List (Order × ℤ)) :
    (rowsShown customerId ((shares.map fun share => store.projectRow now share.1 share.2).map
        (CollectionRow.withLink links))).map (fun row => (row.orderId, row.amountKd)) =
      (shares.filter fun share => share.1.customerId = customerId).map
        fun share => (share.1.id, toFixed3 (ofMinor share.2)) := by
  unfold rowsShown
  rw [map_map, filter_map, map_map]
  rfl

/-- In every list that is returned, what is shown of a customer is what is open on the rows of
the customer, oldest first, capped at the visible debt and rounded to three decimals; a rest of
no more than the tolerance is kept from the rows left out. -/
theorem listUnpaidCollectionOrders_right {store : CollectionsStore} {args : CollectionsArgs}
    {snapshots after : SnapshotTable} {rows : List CollectionRow}
    (hcommits : (store.listUnpaidCollectionOrders args).Commits snapshots rows after) :
    ∃ found mid visible mid', (store.openCollections args).Commits snapshots found mid ∧
      (store.visibleDebt .shownDebt (customersOf found.rows)).Commits mid visible mid' ∧
      found.Sound ∧
      ∀ customerId, ∃ shares, SharesShown found (visible customerId) customerId rows shares := by
  unfold CollectionsStore.listUnpaidCollectionOrders at hcommits
  simp only [commits_bind] at hcommits
  obtain ⟨found, mid, hfound, visible, mid', hvisible, henrich⟩ := hcommits
  have hsound := CollectionsStore.sound_openCollections hfound
  obtain ⟨links, rfl⟩ := CollectionsStore.commits_enrich henrich
  refine ⟨found, mid, visible, mid', hfound, hvisible, hsound, fun customerId => ?_⟩
  have hqueue := (allocationOrder_perm found.rows).filter fun r => r.customerId = customerId
  refine ⟨Budgets.draw invoiceRemainingTolerance found.raw
    ((allocationOrder found.rows).filter fun r => r.customerId = customerId)
    (visible customerId), ?_, ?_, ?_, ?_⟩
  · apply cappedOldestFirst_draw (by decide) hqueue
    · exact (allocationOrder_sorted found.rows).sublist filter_sublist
    · exact hsound.distinct.of_map.filter _
    · exact fun r hr => hsound.owing r (mem_of_mem_filter hr)
  · rw [rowsShown_projected, Budgets.filter_share]
  · exact fun share _ => abs_toFixed3_sub_le share.2
  · intro hvisibleWhole hraw share hshare
    refine toFixed3_of_dvd (Budgets.dvd_of_mem_draw ?_ hvisibleWhole hshare)
    intro r hr
    obtain ⟨hmem, howner⟩ := mem_filter.1 (hqueue.subset hr)
    exact hraw r hmem (of_decide_eq_true howner)

structure ExactlyCapped (found : OpenCollections) (visible : ℤ) (customerId : Uuid)
    (rows : List CollectionRow) : Prop where
  within : ∀ row ∈ rowsShown customerId rows, ∃ r ∈ found.rows, r.id = row.orderId ∧
    0 ≤ row.amountKd ∧ 10 * row.amountKd ≤ found.raw r
  total : 10 * tally CollectionRow.amountKd (rowsShown customerId rows) =
    min (found.rowSum customerId) visible
  oldestFirst : ∀ row ∈ rowsShown customerId rows, 0 < row.amountKd → ∀ older ∈ found.rows,
    older.customerId = customerId → older.createdAt < row.createdAtIso →
    ∃ first ∈ rowsShown customerId rows, first.orderId = older.id ∧
      10 * first.amountKd = found.raw older

namespace Sample

/-- An issued invoice of a dinar and half a fils, and a fils owed besides. -/
def cappedEntries : List JournalEntryRow :=
  [⟨"e1", 1, "INVOICE", [.word "INVOICE"], "owner", some "customer", some "old",
      [⟨.ACCOUNTS_RECEIVABLE, 10005, 0⟩, ⟨.REVENUE, 0, 10005⟩]⟩,
    ⟨"e2", 2, "ADJUSTMENT", [.word "ADJUSTMENT"], "owner", some "customer", none,
      [⟨.ACCOUNTS_RECEIVABLE, 10, 0⟩, ⟨.ADJUSTMENTS, 0, 10⟩]⟩]

def cappedVisibility : VisibilityStore :=
  { visibilityStore none with
    env := { Env.default with useJournalAsSource := true }
    db := { shop ⟨0, 10015⟩ ⟨[{ order "old" with totalPrice := 10005 },
        { order "young" with totalPrice := 50000, createdAt := 2 }], by decide⟩ with
      journal := cappedEntries.map JournalEntryRow.entry }
    journal := cappedEntries }

def cappedCollections : CollectionsStore where
  seen := fun _ => cappedVisibility
  arrival := asStored _
  details := fun _ => ⟨none, none, some "Customer", some "51234567", none, none, none, none, 0,
    none, false, []⟩
  linkOrders := []
  decimalOf := fun _ => none

def wholeList : CollectionsArgs := ⟨none, none, none, 3⟩

def cappedList : Except ServiceError (List CollectionRow) × SnapshotTable :=
  (cappedCollections.listUnpaidCollectionOrders wholeList).outcome .empty

def cappedSums : SnapshotTx (ℤ × ℤ) := do
  let found ← cappedCollections.openCollections wholeList
  let visible ← cappedCollections.visibleDebt .shownDebt (customersOf found.rows)
  pure (found.rowSum "customer", visible "customer")

theorem cappedSums_commits : ∃ after, cappedSums.Commits .empty (60005, 10015) after :=
  ⟨_, commits_of_returns (by decide +kernel)⟩

end Sample

theorem listUnpaidCollectionOrders_right_sample :
    ∃ rows after, (Sample.cappedCollections.listUnpaidCollectionOrders Sample.wholeList).Commits
        .empty rows after ∧
      ∃ found mid visible mid',
        (Sample.cappedCollections.openCollections Sample.wholeList).Commits .empty found mid ∧
        (Sample.cappedCollections.visibleDebt .shownDebt (customersOf found.rows)).Commits mid
          visible mid' ∧
        found.Sound ∧
        ∀ customerId, ∃ shares, SharesShown found (visible customerId) customerId rows shares := by
  obtain ⟨rows, hcommits⟩ :=
    exists_commits_of_isOk (by decide +kernel : Sample.cappedList.1.isOk = true)
  exact ⟨rows, _, hcommits, listUnpaidCollectionOrders_right hcommits⟩

theorem listUnpaidCollectionOrders_fails :
    ¬ ∀ (store : CollectionsStore) (args : CollectionsArgs) (snapshots after : SnapshotTable)
      (rows : List CollectionRow),
      (store.listUnpaidCollectionOrders args).Commits snapshots rows after →
      ∃ found mid visible mid', (store.openCollections args).Commits snapshots found mid ∧
        (store.visibleDebt .shownDebt (customersOf found.rows)).Commits mid visible mid' ∧
        ∀ customerId, ExactlyCapped found (visible customerId) customerId rows := by
  intro hall
  obtain ⟨rows, hcommits⟩ :=
    exists_commits_of_isOk (by decide +kernel : Sample.cappedList.1.isOk = true)
  obtain ⟨found, mid, visible, mid', hfound, hvisible, hexact⟩ := hall _ _ _ _ rows hcommits
  have hshown : 10 * tally CollectionRow.amountKd (rowsShown "customer" rows) = 10010 := by
    have heval : (Sample.cappedList.1.toOption.map fun rows =>
        10 * tally CollectionRow.amountKd (rowsShown "customer" rows)) = some 10010 := by
      decide +kernel
    have hlist : Sample.cappedList = (.ok rows, _) := hcommits
    rw [hlist] at heval
    exact Option.some.inj heval
  have hsums : Sample.cappedSums.Commits .empty (found.rowSum "customer", visible "customer") mid' :=
    commits_bind.2 ⟨found, mid, hfound, commits_bind.2 ⟨visible, mid', hvisible,
      commits_pure.2 ⟨rfl, rfl⟩⟩⟩
  obtain ⟨_, hknown⟩ := Sample.cappedSums_commits
  have hsame : (60005, 10015) = (found.rowSum "customer", visible "customer") := by
    have houtcomes := hknown.symm.trans hsums
    injection houtcomes with hresult
    exact Except.ok.inj hresult
  obtain ⟨hsum, hvisible⟩ := Prod.mk.inj hsame
  have htotal := (hexact "customer").total
  rw [hshown, ← hsum, ← hvisible] at htotal
  exact absurd htotal (by decide)

end SafariLaundry
