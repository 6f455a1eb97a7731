import SafariLaundry.Aging
import SafariLaundry.DebtVisibility

/-!
# The aging columns of a projection row

A row joins the rollups of a customer's invoices with the aging summary of the same customer.
The overdue amount is everything that the summary counts as soon as its worst bucket is past
`CURRENT`, the invoices of that bucket included.
-/

namespace SafariLaundry.SnapshotColumns

open Library Library.Bookkeeping Library.Transaction List

structure SnapshotStore extends VisibilityStore where
  (invoiceNumber displayName : Uuid → Option String)
  agingRows : RowOrder Order
  /-- The clock of the aging service. -/
  asOf : ℤ

structure FinancialSnapshotInput extends FinancialSnapshotRow where
  agingBucket : AgingBucket
  (oldestOverdueDays overdueAmountKd : ℤ)

section Projection

variable (store : SnapshotStore) (customerId : Uuid)

def aging : AgingStore := ⟨store.env, store.db, store.invoiceNumber, store.displayName⟩

def agingSummary : Option CustomerAgingSummary :=
  match store.readFault .orders with
  | none => (aging store).getCustomerAging store.agingRows customerId store.asOf
  | some _ => none

def overdueAmount (agingSummary : Option CustomerAgingSummary) : ℤ :=
  match agingSummary with
  | none => 0
  | some summary =>
      if summary.agingBucket = .LATE ∨ summary.agingBucket = .CRITICAL ∨
          summary.agingBucket = .LEGAL then
        summary.totalReceivableKd
      else 0

def withAging (row : FinancialSnapshotRow) (agingSummary : Option CustomerAgingSummary) :
    FinancialSnapshotInput :=
  { row with
    agingBucket := (agingSummary.map CustomerAgingSummary.agingBucket).getD .CURRENT
    oldestOverdueDays := (agingSummary.map CustomerAgingSummary.oldestOverdueDays).getD 0
    overdueAmountKd := overdueAmount agingSummary }

def computeSnapshotInput : SnapshotTx FinancialSnapshotInput := do
  let row ← store.toVisibilityStore.computeSnapshotInput customerId
  pure (withAging row (agingSummary store customerId))

def invoices : List Order :=
  store.db.orders.rows.filter fun order =>
    order.customerId = customerId ∧ order.status ≠ .CANCELED ∧ order.cashStatus = .UNPAID

def remaining (order : Order) : ℤ := computeOrderRemainingBalance store.env store.db order.id

def openInvoices : List Order :=
  (invoices store customerId).filter fun order => invoiceRemainingTolerance < remaining store order

def bucketOf (order : Order) : AgingBucket :=
  bucketForOverdueDays (overdueDaysBetween order.createdAt store.asOf)

structure Consistent (input : FinancialSnapshotInput) : Prop where
  overdue : input.overdueAmountKd = tally (remaining store)
    ((openInvoices store customerId).filter fun order => bucketOf store order ≠ .CURRENT)
  active : ∀ (rows : RowOrder Order) (asOf : ℤ), input.activeInvoicesCount =
    (((aging store).getCustomerAging rows customerId asOf).map
      CustomerAgingSummary.openInvoiceCount).getD 0
  parts : input.activeInvoicesCount = input.unpaidInvoicesCount + input.partiallyPaidInvoicesCount
  paid : input.paidTotalKd + tally (remaining store) (invoices store customerId) =
    input.totalInvoicesKd

/-- The row that is built over a projection is consistent. -/
def SnapshotSound (snapshots : SnapshotTable) : Prop :=
  ∃ input, (computeSnapshotInput store customerId).Commits snapshots input snapshots ∧
    Consistent store customerId input

def OneSide : Prop :=
  (∀ order ∈ openInvoices store customerId, bucketOf store order = .CURRENT) ∨
    ∀ order ∈ openInvoices store customerId, bucketOf store order ≠ .CURRENT

end Projection

variable {store : SnapshotStore} {customerId : Uuid} {customer : CustomerKey}

structure Rollup (store : SnapshotStore) (done : List Order) (aggregates : InvoiceAggregates) :
    Prop where
  paid : aggregates.paidTotalKd + tally (remaining store) done = aggregates.totalInvoicesKd
  active : aggregates.activeInvoicesCount =
    (done.filter fun order => invoiceRemainingTolerance < remaining store order).length
  parts : aggregates.activeInvoicesCount =
    aggregates.unpaidInvoicesCount + aggregates.partiallyPaidInvoicesCount

theorem Rollup.addInvoice {done : List Order} {aggregates : InvoiceAggregates}
    {remainingByOrder : Uuid → Option ℤ} {order : Order} (hdone : Rollup store done aggregates)
    (hentry : remainingByOrder order.id = some (remaining store order)) :
    Rollup store (done ++ [order])
      (store.toVisibilityStore.addInvoice remainingByOrder aggregates order) := by
  obtain ⟨hpaid, hactive, hparts⟩ := hdone
  unfold VisibilityStore.addInvoice
  rw [hentry]
  refine ⟨?_, ?_, ?_⟩
  · rw [tally_append, tally_cons, tally_nil]
    dsimp only [Option.getD_some]
    omega
  · rw [filter_append, length_append, ← hactive]
    by_cases hopen : invoiceRemainingTolerance < remaining store order <;> simp [hopen]
  · dsimp only [Option.getD_some]
    split_ifs <;> omega

theorem Rollup.foldl {rows : List Order} {remainingByOrder : Uuid → Option ℤ}
    (hentries : ∀ order ∈ rows, remainingByOrder order.id = some (remaining store order)) :
    Rollup store rows (rows.foldl (store.toVisibilityStore.addInvoice remainingByOrder)
      ⟨0, 0, 0, 0, 0, 0, none⟩) := by
  induction rows using List.reverseRecOn with
  | nil => exact ⟨rfl, rfl, rfl⟩
  | append_singleton done order ih =>
      rw [foldl_concat]
      have hdone := ih fun other hother => hentries other (mem_append_left _ hother)
      exact hdone.addInvoice (hentries order (by simp))

section Independent

variable (hindependent : ∀ order ∈ invoices store customerId,
  BatchIndependent store.env store.db order.id)

include hindependent

theorem batch_entry {orderIds : List Uuid} {order : Order}
    (horder : order ∈ invoices store customerId) (hbatch : order.id ∈ orderIds) :
    computeOrderRemainingBalancesBatch store.env store.db orderIds order.id =
      some (remaining store order) := by
  obtain ⟨before, after, hrows⟩ := append_of_mem (mem_filter.1 horder).1
  have hentry : computeOrderRemainingBalancesBatch store.env store.db orderIds order.id = some _ :=
    remainingBatch_eq hrows hbatch
  have hsame := (hindependent order horder).2 store.db ⟨List.Perm.refl _, List.Perm.refl _⟩
    orderIds hbatch
  rw [hentry, Option.getD_some] at hsame
  rw [hentry, hsame]
  rfl

theorem rollup_computeInvoiceAggregates :
    Rollup store (invoices store customerId)
      (store.toVisibilityStore.computeInvoiceAggregates customerId) :=
  Rollup.foldl fun _ horder => batch_entry hindependent horder (mem_map_of_mem horder)

end Independent

/-! ## The summary -/

theorem overdueAmount_some (summary : CustomerAgingSummary) :
    overdueAmount (some summary) =
      if summary.agingBucket = .CURRENT then 0 else summary.totalReceivableKd := by
  unfold overdueAmount
  cases hbucket : summary.agingBucket <;> simp [hbucket]

theorem eq_current_of_rank_le {bucket : AgingBucket}
    (hrank : bucket.severityRank ≤ AgingBucket.severityRank .CURRENT) : bucket = .CURRENT := by
  cases bucket
  · rfl
  all_goals exact absurd hrank (by decide)

section Summary

variable (hindependent : ∀ order ∈ invoices store customer.id,
  BatchIndependent store.env store.db order.id)

theorem unpaidOrders_eq : (aging store).unpaidOrders (some customer.id) =
    invoices store customer.id := by
  apply filter_congr
  intro order _
  rw [decide_eq_decide, Option.filter_some, decide_eq_true customer.ne_empty, if_pos rfl]
  simp only [Option.mem_some_iff, forall_eq']
  exact ⟨fun ⟨hstatus, hcash, hid⟩ => ⟨hid, hstatus, hcash⟩,
    fun ⟨hid, hstatus, hcash⟩ => ⟨hstatus, hcash, hid⟩⟩

include hindependent

theorem listInvoiceAging_perm (rows : RowOrder Order) (asOf : ℤ) :
    ((aging store).listInvoiceAging rows asOf (some customer.id)).Perm
      ((openInvoices store customer.id).map fun order =>
        (aging store).agingRow asOf (remaining store order) order) := by
  have hremaining : ∀ order ∈ invoices store customer.id,
      (aging store).remaining order = remaining store order := by
    intro order horder
    have hunpaid : order ∈ (aging store).unpaidOrders (some customer.id) :=
      unpaidOrders_eq ▸ horder
    have hall := (AgingStore.mem_unpaidOrders.1 hunpaid).1
    have hentry := batch_entry hindependent horder (mem_map_of_mem hall)
    exact congrArg (fun entry => entry.getD 0) hentry
  rw [AgingStore.listInvoiceAging_eq, unpaidOrders_eq]
  refine (perm_insertionSort ..).trans ((((rows.perm _).filter _).map _).trans
    (List.Perm.of_eq ?_))
  have hopen : (invoices store customer.id).filter (fun order =>
      invoiceRemainingTolerance < (aging store).remaining order) =
      openInvoices store customer.id := by
    apply filter_congr
    intro order horder
    rw [hremaining order horder]
  rw [hopen]
  apply map_congr_left
  intro order horder
  rw [hremaining order (mem_filter.1 horder).1]

theorem openInvoiceCount_eq (rows : RowOrder Order) (asOf : ℤ) :
    (((aging store).getCustomerAging rows customer.id asOf).map
      CustomerAgingSummary.openInvoiceCount).getD 0 = (openInvoices store customer.id).length := by
  have hlength := (listInvoiceAging_perm hindependent rows asOf).length_eq
  rw [length_map] at hlength
  rw [← hlength]
  unfold AgingStore.getCustomerAging
  dsimp only
  split_ifs with hnone
  · rw [hnone]
    rfl
  · rfl

theorem overdueAmount_eq (rows : RowOrder Order) :
    overdueAmount ((aging store).getCustomerAging rows customer.id store.asOf) =
      if ∀ order ∈ openInvoices store customer.id, bucketOf store order = .CURRENT then 0
      else tally (remaining store) (openInvoices store customer.id) := by
  have hperm := listInvoiceAging_perm hindependent rows store.asOf
  cases hlist : (aging store).listInvoiceAging rows store.asOf (some customer.id) with
  | nil =>
      rw [hlist] at hperm
      have hnone := map_eq_nil_iff.1 hperm.symm.eq_nil
      have hsummary : (aging store).getCustomerAging rows customer.id store.asOf = none := by
        unfold AgingStore.getCustomerAging
        dsimp only
        rw [hlist, if_pos rfl]
      rw [hsummary, hnone, if_pos (forall_mem_nil _)]
      rfl
  | cons first rest =>
      obtain ⟨hfirst, -, hrest⟩ := AgingStore.follows_of_query hlist
      have hsummary : ∃ summary,
          (aging store).getCustomerAging rows customer.id store.asOf = some summary ∧
            summary.agingBucket = first.agingBucket ∧
            summary.totalReceivableKd = tally InvoiceAgingRow.remainingKd (first :: rest) := by
        unfold AgingStore.getCustomerAging
        dsimp only
        rw [hlist, if_neg (cons_ne_nil _ _), AgingStore.loop_of_follows hfirst hrest]
        exact ⟨_, rfl, rfl, rfl⟩
      obtain ⟨summary, hsummary, hbucket, htotal⟩ := hsummary
      rw [hlist] at hperm
      rw [tally_perm _ hperm, tally_map] at htotal
      have hcurrent : first.agingBucket = .CURRENT ↔
          ∀ order ∈ openInvoices store customer.id, bucketOf store order = .CURRENT := by
        constructor
        · intro hcurrent order horder
          rcases mem_cons.1 (hperm.mem_iff.2 (mem_map_of_mem horder)) with hrow | hlater
          · rwa [← hrow] at hcurrent
          · obtain ⟨hinv, -, hdays⟩ := hrest _ hlater
            have hrank := hinv.rank_le hfirst hdays
            rw [hcurrent] at hrank
            exact eq_current_of_rank_le hrank
        · intro hall
          obtain ⟨order, horder, hrow⟩ := mem_map.1 (hperm.mem_iff.1 (mem_cons_self ..))
          rw [← hrow]
          exact hall order horder
      rw [hsummary, overdueAmount_some, hbucket, htotal, if_congr hcurrent rfl rfl]
      rfl

end Summary

theorem commits_computeSnapshotInput (hreads : store.Readable) {snapshots after : SnapshotTable}
    {input : FinancialSnapshotInput} :
    (computeSnapshotInput store customerId).Commits snapshots input after ↔
      input = withAging (store.toVisibilityStore.projectedRow customerId)
        (agingSummary store customerId) ∧
        after = snapshots := by
  unfold computeSnapshotInput
  simp only [commits_bind, commits_pure, VisibilityStore.commits_computeSnapshotInput hreads]
  constructor
  · rintro ⟨_, _, ⟨rfl, rfl⟩, rfl, rfl⟩
    exact ⟨rfl, rfl⟩
  · rintro ⟨rfl, rfl⟩
    exact ⟨_, _, ⟨rfl, rfl⟩, rfl, rfl⟩

/-- Where no read fails, the row is consistent exactly if the customer's open invoices are all
current or all overdue. -/
theorem snapshotSound_iff {store : SnapshotStore} {customer : CustomerKey}
    (hreads : store.Readable) (hindependent : ∀ order ∈ invoices store customer.id,
      BatchIndependent store.env store.db order.id) (snapshots : SnapshotTable) :
    SnapshotSound store customer.id snapshots ↔ OneSide store customer.id := by
  have hrollup := rollup_computeInvoiceAggregates hindependent
  have hsummary : agingSummary store customer.id =
      (aging store).getCustomerAging store.agingRows customer.id store.asOf := by
    unfold agingSummary
    rw [hreads .orders]
  have hpos : ∀ order ∈ openInvoices store customer.id, 0 < remaining store order := by
    intro order horder
    have hopen := of_decide_eq_true (mem_filter.1 horder).2
    exact lt_trans (by decide) hopen
  have hoverdue : overdueAmount (agingSummary store customer.id) = tally (remaining store)
      ((openInvoices store customer.id).filter fun order => bucketOf store order ≠ .CURRENT) ↔
        OneSide store customer.id := by
    rw [hsummary, overdueAmount_eq hindependent]
    unfold OneSide
    split_ifs with hcurrent
    · refine iff_of_true ?_ (Or.inl hcurrent)
      rw [filter_eq_nil_iff.2]
      · rfl
      · intro order horder
        simp [hcurrent order horder]
    · rw [eq_comm, tally_filter_eq_iff hpos, or_iff_right hcurrent]
  rw [← hoverdue]
  constructor
  · rintro ⟨input, hcommits, hconsistent⟩
    obtain ⟨rfl, -⟩ := (commits_computeSnapshotInput hreads).1 hcommits
    exact hconsistent.overdue
  · intro hamount
    refine ⟨_, (commits_computeSnapshotInput hreads).2 ⟨rfl, rfl⟩, hamount, ?_, hrollup.parts,
      hrollup.paid⟩
    intro rows asOf
    rw [openInvoiceCount_eq hindependent]
    exact hrollup.active

def journalShop : SnapshotStore where
  toVisibilityStore :=
    { Sample.visibilityStore none with
      env := { Env.default with useJournalAsSource := true, now := 31 * 86400000 }
      db :=
        { Sample.shop ⟨0, 40000⟩
            ⟨[Sample.order "first", { Sample.order "second" with createdAt := 31 * 86400000 }],
              by decide⟩ with
          journal := [(paymentLinkReceivableEntry "first" "customer" 20000).input.entry,
            (paymentLinkReceivableEntry "second" "customer" 20000).input.entry] } }
  invoiceNumber := fun _ => none
  displayName := fun _ => none
  agingRows := Sample.asStored _
  asOf := 31 * 86400000 + 1

theorem journalShop_independent : ∀ order ∈ invoices journalShop "customer",
    BatchIndependent journalShop.env journalShop.db order.id := by
  intro order horder
  have hmem := (mem_filter.1 horder).1
  refine (batchIndependent_iff _ _ _ hmem).2 fun _ => Or.inr (Or.inl ?_)
  have hcustomer := (of_decide_eq_true (mem_filter.1 horder).2).1
  rw [hcustomer]
  decide

theorem snapshotSound_iff_journalShop :
    SnapshotSound journalShop "customer" .empty ↔ OneSide journalShop "customer" :=
  @snapshotSound_iff journalShop Sample.customerKey (fun _ => rfl) journalShop_independent .empty

/-- Both invoices are counted as overdue, and the second is current. -/
theorem not_snapshotSound_journalShop : ¬ SnapshotSound journalShop "customer" .empty := by
  rintro ⟨input, hcommits, hconsistent⟩
  obtain ⟨rfl, -⟩ := (commits_computeSnapshotInput fun _ => rfl).1 hcommits
  have hoverdue := hconsistent.overdue
  revert hoverdue
  decide +kernel

end SafariLaundry.SnapshotColumns
