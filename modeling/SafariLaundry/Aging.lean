import SafariLaundry.CanonicalDebt
import SafariLaundry.Library.KeyedFold
import SafariLaundry.Library.StableSort

/-!
# How old the open invoices are

Open invoices are listed with the days since they were issued and put in buckets.  The list of
customers, the summary of one customer and the report each run over the same rows.  The list
starts from the first row of a customer, the summary from zero days and no date.
-/

namespace SafariLaundry

open Library Library.Bookkeeping Library.KeyedFold List

inductive AgingBucket
  | CURRENT | LATE | CRITICAL | LEGAL
  deriving DecidableEq

inductive AgingRiskLevel
  | NONE | LOW | MEDIUM | HIGH | CRITICAL

namespace AgingBucket

def lowerBound : AgingBucket → ℤ
  | CURRENT => 0
  | LATE => 31
  | CRITICAL => 61
  | LEGAL => 91

def severityRank : AgingBucket → ℕ
  | CURRENT => 0
  | LATE => 1
  | CRITICAL => 2
  | LEGAL => 3

def risk : AgingBucket → AgingRiskLevel
  | CURRENT => .LOW
  | LATE => .MEDIUM
  | CRITICAL => .HIGH
  | LEGAL => .CRITICAL

end AgingBucket

def bucketForOverdueDays (days : ℤ) : AgingBucket :=
  if days < 0 then .CURRENT
  else if AgingBucket.lowerBound .LEGAL ≤ days then .LEGAL
  else if AgingBucket.lowerBound .CRITICAL ≤ days then .CRITICAL
  else if AgingBucket.lowerBound .LATE ≤ days then .LATE
  else .CURRENT

def overdueDaysBetween (invoiceDate : Timestamp) (asOf : ℤ) : ℤ :=
  let ms := asOf - (invoiceDate : ℤ)
  if ms ≤ 0 then 0 else ms / (24 * 60 * 60 * 1000)

theorem overdueDaysBetween_nonneg (invoiceDate : Timestamp) (asOf : ℤ) :
    0 ≤ overdueDaysBetween invoiceDate asOf := by
  unfold overdueDaysBetween
  dsimp only
  split_ifs <;> omega

theorem severityRank_mono {days days' : ℤ} (hle : days ≤ days') :
    (bucketForOverdueDays days).severityRank ≤ (bucketForOverdueDays days').severityRank := by
  unfold bucketForOverdueDays
  split_ifs <;> simp_all [AgingBucket.lowerBound, AgingBucket.severityRank] <;> omega

/-- Amounts are texts with four decimals in the source, instants are ISO texts. -/
structure InvoiceAgingRow where
  invoiceId : Uuid
  invoiceNumber : Option String
  customerId : Uuid
  customerName : Option String
  invoiceDateIso : Timestamp
  (remainingKd overdueDays : ℤ)
  agingBucket : AgingBucket
  riskLevel : AgingRiskLevel

structure CustomerAgingSummary where
  customerId : Uuid
  customerName : Option String
  totalReceivableKd : ℤ
  oldestInvoiceDateIso : Option Timestamp
  oldestOverdueDays : ℤ
  agingBucket : AgingBucket
  riskLevel : AgingRiskLevel
  openInvoiceCount : ℕ

structure AgingBucketTotal where
  bucket : AgingBucket
  (customersCount invoicesCount : ℕ)
  totalReceivableKd : ℤ

structure AgingReport where
  (asOfIso totalReceivableKd criticalReceivableKd : ℤ)
  (customersCount invoicesCount : ℕ)
  bucketTotals : List AgingBucketTotal

def OldestFirst (a b : InvoiceAgingRow) : Prop := b.overdueDays ≤ a.overdueDays
  deriving Decidable

instance : Std.Total OldestFirst := ⟨fun a b => le_total b.overdueDays a.overdueDays⟩

instance : IsTrans InvoiceAgingRow OldestFirst := ⟨fun _ _ _ hab hbc => le_trans hbc hab⟩

/-- The database, and what is selected of invoices and customers besides. -/
structure AgingStore where
  env : Env
  db : Db
  (invoiceNumber displayName : Uuid → Option String)

/-! ## The loops -/

def customerSummaries : Accumulation InvoiceAgingRow CustomerAgingSummary where
  start := fun inv =>
    { customerId := inv.customerId
      customerName := inv.customerName
      totalReceivableKd := inv.remainingKd
      oldestInvoiceDateIso := some inv.invoiceDateIso
      oldestOverdueDays := inv.overdueDays
      agingBucket := inv.agingBucket
      riskLevel := inv.riskLevel
      openInvoiceCount := 1 }
  grow := fun existing inv =>
    let worseBucket :=
      if existing.agingBucket.severityRank < inv.agingBucket.severityRank then inv.agingBucket
      else existing.agingBucket
    { customerId := inv.customerId
      customerName := existing.customerName.or inv.customerName
      totalReceivableKd := existing.totalReceivableKd + inv.remainingKd
      oldestInvoiceDateIso :=
        if existing.oldestOverdueDays < inv.overdueDays then some inv.invoiceDateIso
        else existing.oldestInvoiceDateIso
      oldestOverdueDays :=
        if existing.oldestOverdueDays < inv.overdueDays then inv.overdueDays
        else existing.oldestOverdueDays
      agingBucket := worseBucket
      riskLevel := worseBucket.risk
      openInvoiceCount := existing.openInvoiceCount + 1 }

structure CustomerAgingLoop where
  total : ℤ
  worstBucket : AgingBucket
  oldestDays : ℤ
  oldestDateIso : Option Timestamp
  displayName : Option String

namespace CustomerAgingLoop

def start : CustomerAgingLoop := ⟨0, .CURRENT, 0, none, none⟩

def next (loop : CustomerAgingLoop) (inv : InvoiceAgingRow) : CustomerAgingLoop where
  total := loop.total + inv.remainingKd
  worstBucket :=
    if loop.worstBucket.severityRank < inv.agingBucket.severityRank then inv.agingBucket
    else loop.worstBucket
  oldestDays := if loop.oldestDays < inv.overdueDays then inv.overdueDays else loop.oldestDays
  oldestDateIso :=
    if loop.oldestDays < inv.overdueDays then some inv.invoiceDateIso else loop.oldestDateIso
  displayName := loop.displayName.or inv.customerName

end CustomerAgingLoop

structure AgingSlot where
  invoicesCount : ℕ
  customers : List Uuid
  total : ℤ

def agingSlots : Accumulation InvoiceAgingRow AgingSlot where
  start := fun inv => ⟨1, [inv.customerId], inv.remainingKd⟩
  grow := fun slot inv =>
    ⟨slot.invoicesCount + 1, slot.customers.insert inv.customerId, slot.total + inv.remainingKd⟩

namespace AgingStore

variable (store : AgingStore)

def agingRow (asOf : ℤ) (remaining : ℤ) (o : Order) : InvoiceAgingRow :=
  let overdueDays := overdueDaysBetween o.createdAt asOf
  let bucket := bucketForOverdueDays overdueDays
  { invoiceId := o.id
    invoiceNumber := store.invoiceNumber o.id
    customerId := o.customerId
    customerName := store.displayName o.customerId
    invoiceDateIso := o.createdAt
    remainingKd := remaining
    overdueDays
    agingBucket := bucket
    riskLevel := bucket.risk }

def unpaidOrders (customerId : Option Uuid) : List Order :=
  store.db.orders.rows.filter fun o =>
    o.status ≠ .CANCELED ∧ o.cashStatus = .UNPAID ∧
      ∀ id ∈ customerId.filter fun id => id ≠ "", o.customerId = id

def listInvoiceAging (order : RowOrder Order) (asOf : ℤ) (customerId : Option Uuid) :
    List InvoiceAgingRow :=
  let orders := order.arrange (store.unpaidOrders customerId)
  let remainingById := computeOrderRemainingBalancesBatch store.env store.db (orders.map Order.id)
  let rows := (orders.filter fun o =>
      ¬ (remainingById o.id).getD 0 ≤ invoiceRemainingTolerance).map fun o =>
    store.agingRow asOf ((remainingById o.id).getD 0) o
  rows.insertionSort OldestFirst

def listCustomerAging (order : RowOrder Order) (asOf : ℤ) : List CustomerAgingSummary :=
  let invoices := store.listInvoiceAging order asOf none
  let byCustomer := KeyedFold.collect customerSummaries (fun inv => inv.customerId) invoices
  (byCustomer.rows.map Prod.snd).insertionSort fun a b => b.oldestOverdueDays ≤ a.oldestOverdueDays

def getCustomerAging (order : RowOrder Order) (customerId : Uuid) (asOf : ℤ) :
    Option CustomerAgingSummary :=
  let invoices := store.listInvoiceAging order asOf (some customerId)
  if invoices = [] then none
  else
    let loop := invoices.foldl CustomerAgingLoop.next .start
    some
      { customerId
        customerName := loop.displayName
        totalReceivableKd := loop.total
        oldestInvoiceDateIso := loop.oldestDateIso
        oldestOverdueDays := loop.oldestDays
        agingBucket := loop.worstBucket
        riskLevel := loop.worstBucket.risk
        openInvoiceCount := invoices.length }

def orderedBuckets : List AgingBucket := [.CURRENT, .LATE, .CRITICAL, .LEGAL]

def getReport (order : RowOrder Order) (asOf : ℤ) : AgingReport :=
  let invoices := store.listInvoiceAging order asOf none
  let buckets := KeyedFold.collect agingSlots (fun inv => inv.agingBucket) invoices
  { asOfIso := asOf
    totalReceivableKd := tally InvoiceAgingRow.remainingKd invoices
    criticalReceivableKd := tally InvoiceAgingRow.remainingKd
      (invoices.filter fun inv => inv.agingBucket = .CRITICAL ∨ inv.agingBucket = .LEGAL)
    customersCount := (invoices.map InvoiceAgingRow.customerId).eraseDups.length
    invoicesCount := invoices.length
    bucketTotals := orderedBuckets.map fun b =>
      let slot := buckets.get? b
      { bucket := b
        customersCount := (slot.map fun s => s.customers.length).getD 0
        invoicesCount := (slot.map AgingSlot.invoicesCount).getD 0
        totalReceivableKd := (slot.map AgingSlot.total).getD 0 } }

end AgingStore

structure AgingQueries where
  (invoices customers customer report : RowOrder Order)

structure AgingAgrees (store : AgingStore) (asOf : ℤ) (queries : AgingQueries) : Prop where
  customer : ∀ key : CustomerKey,
    (store.listCustomerAging queries.customers asOf).find? (fun s => s.customerId = key.id) =
      store.getCustomerAging queries.customer key.id asOf
  customers : tally CustomerAgingSummary.totalReceivableKd
      (store.listCustomerAging queries.customers asOf) =
    tally InvoiceAgingRow.remainingKd (store.listInvoiceAging queries.invoices asOf none)
  buckets : tally AgingBucketTotal.totalReceivableKd (store.getReport queries.report asOf).bucketTotals =
    tally InvoiceAgingRow.remainingKd (store.listInvoiceAging queries.invoices asOf none)
  report : (store.getReport queries.report asOf).totalReceivableKd =
    tally InvoiceAgingRow.remainingKd (store.listInvoiceAging queries.invoices asOf none)
  worst : ∀ summary ∈ store.listCustomerAging queries.customers asOf,
    (∃ inv ∈ store.listInvoiceAging queries.invoices asOf none,
      inv.customerId = summary.customerId ∧ inv.agingBucket = summary.agingBucket) ∧
    ∀ inv ∈ store.listInvoiceAging queries.invoices asOf none, inv.customerId = summary.customerId →
        inv.agingBucket.severityRank ≤ summary.agingBucket.severityRank

def AgingStore.remaining (store : AgingStore) (o : Order) : ℤ :=
  (computeOrderRemainingBalancesBatch store.env store.db ((store.unpaidOrders none).map Order.id)
    o.id).getD 0

def AgingStore.openInvoices (store : AgingStore) : List Order :=
  (store.unpaidOrders none).filter fun o => invoiceRemainingTolerance < store.remaining o

def DatesAreClear (store : AgingStore) (asOf : ℤ) : Prop :=
  ∀ key : CustomerKey, ∀ oldest ∈ store.openInvoices, oldest.customerId = key.id →
    (∀ other ∈ store.openInvoices, other.customerId = key.id →
      overdueDaysBetween other.createdAt asOf ≤ overdueDaysBetween oldest.createdAt asOf) →
    0 < overdueDaysBetween oldest.createdAt asOf ∧
      ∀ other ∈ store.openInvoices, other.customerId = key.id →
        overdueDaysBetween other.createdAt asOf = overdueDaysBetween oldest.createdAt asOf →
        other.createdAt = oldest.createdAt

namespace AgingStore

variable {store : AgingStore}

variable {customerId : Option Uuid} {order : RowOrder Order} {asOf : ℤ} {first : InvoiceAgingRow}
  {rest : List InvoiceAgingRow} {key : CustomerKey} {summary : CustomerAgingSummary}

theorem mem_unpaidOrders {o : Order} :
    o ∈ store.unpaidOrders customerId ↔
      o ∈ store.unpaidOrders none ∧ ∀ id ∈ customerId.filter fun id => id ≠ "", o.customerId = id := by
  simp [unpaidOrders, and_assoc]

theorem remaining_eq (order : RowOrder Order) {o : Order} (ho : o ∈ store.unpaidOrders customerId) :
    (computeOrderRemainingBalancesBatch store.env store.db
      ((order.arrange (store.unpaidOrders customerId)).map Order.id) o.id).getD 0 =
      store.remaining o := by
  have hmem : ∀ {customerId : Option Uuid}, ∀ other ∈ store.unpaidOrders customerId,
      other ∈ store.db.orders.rows := fun other hother => (mem_filter.1 hother).1
  have hids : ∀ (customerId : Option Uuid), ∀ other ∈ store.db.orders.rows,
      (other.id ∈ (store.unpaidOrders customerId).map Order.id ↔
        other ∈ store.unpaidOrders customerId) := by
    intro customerId other hother
    constructor
    · intro hid
      obtain ⟨same, hsame, hid⟩ := mem_map.1 hid
      exact Table.row_eq_of_key_eq (hmem same hsame) hother hid ▸ hsame
    · exact fun hother => mem_map_of_mem hother
  have harranged : ∀ id, id ∈ (order.arrange (store.unpaidOrders customerId)).map Order.id ↔
      id ∈ (store.unpaidOrders customerId).map Order.id := by simp
  unfold remaining
  rw [remainingBatch_congr (hmem o ho) ((harranged _).2 (mem_map_of_mem ho))
    (mem_map_of_mem (mem_unpaidOrders.1 ho).1)]
  intro other hother hcustomer
  rw [harranged, hids customerId other hother, hids none other hother, mem_unpaidOrders]
  constructor
  · exact And.left
  · refine fun hunpaid => ⟨hunpaid, fun id hid => ?_⟩
    rw [hcustomer]
    exact (mem_unpaidOrders.1 ho).2 id hid

theorem listInvoiceAging_eq (order : RowOrder Order) (asOf : ℤ) (customerId : Option Uuid) :
    store.listInvoiceAging order asOf customerId =
      (((order.arrange (store.unpaidOrders customerId)).filter fun o =>
        invoiceRemainingTolerance < store.remaining o).map fun o =>
          store.agingRow asOf (store.remaining o) o).insertionSort OldestFirst := by
  have hremaining : ∀ o ∈ order.arrange (store.unpaidOrders customerId),
      (computeOrderRemainingBalancesBatch store.env store.db
        ((order.arrange (store.unpaidOrders customerId)).map Order.id) o.id).getD 0 =
        store.remaining o := fun o ho => remaining_eq order (RowOrder.mem_arrange.1 ho)
  have hfilter : (order.arrange (store.unpaidOrders customerId)).filter (fun o =>
      ¬ (computeOrderRemainingBalancesBatch store.env store.db
        ((order.arrange (store.unpaidOrders customerId)).map Order.id) o.id).getD 0 ≤
          invoiceRemainingTolerance) =
      (order.arrange (store.unpaidOrders customerId)).filter fun o =>
        invoiceRemainingTolerance < store.remaining o := by
    apply filter_congr
    intro o ho
    rw [hremaining o ho, decide_eq_decide, not_le]
  unfold listInvoiceAging
  dsimp only
  rw [hfilter]
  congr 1
  apply map_congr_left
  intro o ho
  rw [hremaining o (mem_filter.1 ho).1]

variable {inv : InvoiceAgingRow} {c : Uuid} {order' : RowOrder Order}

theorem mem_listInvoiceAging :
    inv ∈ store.listInvoiceAging order asOf customerId ↔
      ∃ o ∈ store.openInvoices, (∀ id ∈ customerId.filter fun id => id ≠ "", o.customerId = id) ∧
        store.agingRow asOf (store.remaining o) o = inv := by
  rw [listInvoiceAging_eq, mem_insertionSort, mem_map]
  simp only [mem_filter, RowOrder.mem_arrange, decide_eq_true_eq, openInvoices]
  constructor
  · rintro ⟨o, ⟨ho, hopen⟩, rfl⟩
    exact ⟨o, ⟨(mem_unpaidOrders.1 ho).1, hopen⟩, (mem_unpaidOrders.1 ho).2, rfl⟩
  · rintro ⟨o, ⟨ho, hopen⟩, hcustomer, rfl⟩
    exact ⟨o, ⟨mem_unpaidOrders.2 ⟨ho, hcustomer⟩, hopen⟩, rfl⟩

theorem pairwise_listInvoiceAging (order : RowOrder Order) (asOf : ℤ) (customerId : Option Uuid) :
    (store.listInvoiceAging order asOf customerId).Pairwise OldestFirst := by
  rw [listInvoiceAging_eq]
  exact pairwise_insertionSort ..

variable (store) in
theorem listInvoiceAging_perm (order order' : RowOrder Order) (asOf : ℤ)
    (customerId : Option Uuid) :
    (store.listInvoiceAging order asOf customerId).Perm
      (store.listInvoiceAging order' asOf customerId) := by
  rw [listInvoiceAging_eq, listInvoiceAging_eq]
  refine (perm_insertionSort ..).trans (List.Perm.trans ?_ (perm_insertionSort ..).symm)
  exact (((order.perm _).trans (order'.perm _).symm).filter _).map _

variable (store) in
theorem rowsOfCustomer_perm (order order' : RowOrder Order) (asOf : ℤ) (key : CustomerKey) :
    ((store.listInvoiceAging order asOf none).filter fun inv => inv.customerId = key.id).Perm
      (store.listInvoiceAging order' asOf (some key.id)) := by
  rw [listInvoiceAging_eq, listInvoiceAging_eq]
  refine ((perm_insertionSort ..).filter _).trans
    (List.Perm.trans ?_ (perm_insertionSort ..).symm)
  rw [filter_map]
  apply List.Perm.map
  refine (((order.perm _).filter _).filter _).trans
    (List.Perm.trans ?_ ((order'.perm _).filter _).symm)
  rw [unpaidOrders, unpaidOrders, filter_filter, filter_filter, filter_filter]
  apply List.Perm.of_eq
  apply filter_congr
  intro o _
  have hkey : (some key.id).filter (fun id => id ≠ "") = some key.id := by
    simp [key.ne_empty]
  rw [hkey, Bool.eq_iff_iff]
  simp [agingRow]
  tauto

structure IsRow (store : AgingStore) (inv : InvoiceAgingRow) : Prop where
  name : inv.customerName = store.displayName inv.customerId
  nonneg : 0 ≤ inv.overdueDays
  bucket : inv.agingBucket = bucketForOverdueDays inv.overdueDays
  risk : inv.riskLevel = inv.agingBucket.risk

theorem isRow_of_mem (hinv : inv ∈ store.listInvoiceAging order asOf customerId) :
    store.IsRow inv := by
  obtain ⟨o, -, -, rfl⟩ := mem_listInvoiceAging.1 hinv
  exact ⟨rfl, overdueDaysBetween_nonneg o.createdAt asOf, rfl, rfl⟩

theorem IsRow.rank_le (hinv : store.IsRow inv) (hfirst : store.IsRow first)
    (hle : inv.overdueDays ≤ first.overdueDays) :
    inv.agingBucket.severityRank ≤ first.agingBucket.severityRank := by
  rw [hinv.bucket, hfirst.bucket]
  exact severityRank_mono hle

def summaryOf (store : AgingStore) (first : InvoiceAgingRow) (rest : List InvoiceAgingRow) :
    CustomerAgingSummary where
  customerId := first.customerId
  customerName := store.displayName first.customerId
  totalReceivableKd := tally InvoiceAgingRow.remainingKd (first :: rest)
  oldestInvoiceDateIso := some first.invoiceDateIso
  oldestOverdueDays := first.overdueDays
  agingBucket := first.agingBucket
  riskLevel := first.agingBucket.risk
  openInvoiceCount := (first :: rest).length

def Follows (store : AgingStore) (first : InvoiceAgingRow) (rest : List InvoiceAgingRow) : Prop :=
  ∀ inv ∈ rest, store.IsRow inv ∧ inv.customerId = first.customerId ∧
    inv.overdueDays ≤ first.overdueDays

theorem made_of_follows (hfirst : store.IsRow first) (hrest : store.Follows first rest) :
    customerSummaries.made (first :: rest) = some (store.summaryOf first rest) := by
  induction rest using List.reverseRecOn with
  | nil =>
      unfold Accumulation.made summaryOf
      simp [customerSummaries, hfirst.name, hfirst.risk]
  | append_singleton rest inv ih =>
      have hearlier := ih fun other hother => hrest other (mem_append_left _ hother)
      obtain ⟨hinv, hcustomer, hle⟩ := hrest inv (by simp)
      have hrank : ¬ first.agingBucket.severityRank < inv.agingBucket.severityRank :=
        not_lt.2 (hinv.rank_le hfirst hle)
      have hdays : ¬ first.overdueDays < inv.overdueDays := not_lt.2 hle
      rw [← cons_append, Accumulation.made_concat, hearlier]
      simp [Accumulation.next, customerSummaries, summaryOf, hrank, hdays, hcustomer, hinv.name,
        Option.or_self, add_assoc]

theorem loop_of_follows (hfirst : store.IsRow first) (hrest : store.Follows first rest) :
    (first :: rest).foldl CustomerAgingLoop.next .start =
      { total := tally InvoiceAgingRow.remainingKd (first :: rest)
        worstBucket := first.agingBucket
        oldestDays := first.overdueDays
        oldestDateIso := if 0 < first.overdueDays then some first.invoiceDateIso else none
        displayName := store.displayName first.customerId } := by
  induction rest using List.reverseRecOn with
  | nil =>
      have hbucket : (if AgingBucket.severityRank .CURRENT < first.agingBucket.severityRank then
          first.agingBucket else .CURRENT) = first.agingBucket := by
        cases first.agingBucket <;> rfl
      have hdays : (if 0 < first.overdueDays then first.overdueDays else 0) = first.overdueDays := by
        have hnonneg := hfirst.nonneg
        split_ifs with hpos
        · rfl
        · omega
      simp [CustomerAgingLoop.start, CustomerAgingLoop.next, hbucket, hdays, hfirst.name]
  | append_singleton rest inv ih =>
      have hearlier := ih fun other hother => hrest other (mem_append_left _ hother)
      obtain ⟨hinv, hcustomer, hle⟩ := hrest inv (by simp)
      have hrank : ¬ first.agingBucket.severityRank < inv.agingBucket.severityRank :=
        not_lt.2 (hinv.rank_le hfirst hle)
      have hdays : ¬ first.overdueDays < inv.overdueDays := not_lt.2 hle
      rw [← cons_append, foldl_concat, hearlier]
      simp [CustomerAgingLoop.next, hrank, hdays, hcustomer, hinv.name, Option.or_self, add_assoc]

theorem follows_of_sorted (hrows : ∀ inv ∈ first :: rest, store.IsRow inv ∧ inv.customerId = c)
    (hsorted : (first :: rest).Pairwise OldestFirst) :
    store.IsRow first ∧ first.customerId = c ∧ store.Follows first rest := by
  have hfirst := hrows first (mem_cons_self ..)
  refine ⟨hfirst.1, hfirst.2, fun inv hinv => ?_⟩
  have hlater := hrows inv (mem_cons_of_mem _ hinv)
  exact ⟨hlater.1, hlater.2.trans hfirst.2.symm, (pairwise_cons.1 hsorted).1 inv hinv⟩

theorem follows_of_filter
    (hrows : ((store.listInvoiceAging order asOf none).filter fun inv => inv.customerId = c) =
      first :: rest) :
    store.IsRow first ∧ first.customerId = c ∧ store.Follows first rest := by
  apply follows_of_sorted
  · intro inv hinv
    rw [← hrows, mem_filter, decide_eq_true_eq] at hinv
    exact ⟨isRow_of_mem hinv.1, hinv.2⟩
  · rw [← hrows]
    exact (pairwise_listInvoiceAging order asOf none).filter _

theorem follows_of_query (hrows : store.listInvoiceAging order asOf (some key.id) = first :: rest) :
    store.IsRow first ∧ first.customerId = key.id ∧ store.Follows first rest := by
  apply follows_of_sorted
  · intro inv hinv
    rw [← hrows] at hinv
    refine ⟨isRow_of_mem hinv, ?_⟩
    obtain ⟨o, -, hcustomer, rfl⟩ := mem_listInvoiceAging.1 hinv
    exact hcustomer key.id (by simp [key.ne_empty])
  · rw [← hrows]
    exact pairwise_listInvoiceAging order asOf (some key.id)

theorem customerId_of_made {rows : List InvoiceAgingRow} (hrows : ∀ inv ∈ rows, inv.customerId = c)
    (hmade : customerSummaries.made rows = some summary) :
    summary.customerId = c := by
  induction rows using List.reverseRecOn with
  | nil => cases hmade
  | append_singleton rows inv =>
      rw [Accumulation.made_concat, Option.some.injEq] at hmade
      rw [← hmade, ← hrows inv (by simp)]
      cases customerSummaries.made rows <;> rfl

theorem mem_listCustomerAging :
    summary ∈ store.listCustomerAging order asOf ↔
      customerSummaries.made ((store.listInvoiceAging order asOf none).filter fun inv =>
        inv.customerId = summary.customerId) = some summary := by
  unfold listCustomerAging
  rw [mem_insertionSort, mem_map]
  constructor
  · rintro ⟨⟨c, same⟩, hentry, rfl⟩
    have hmade := (mem_collect ..).1 hentry
    have hcustomer : same.customerId = c := customerId_of_made (by simp) hmade
    rw [hcustomer]
    exact hmade
  · intro hmade
    exact ⟨(summary.customerId, summary), (mem_collect ..).2 hmade, rfl⟩

theorem find?_listCustomerAging (order : RowOrder Order) (asOf : ℤ) (c : Uuid) :
    (store.listCustomerAging order asOf).find? (fun s => s.customerId = c) =
      customerSummaries.made ((store.listInvoiceAging order asOf none).filter fun inv =>
        inv.customerId = c) := by
  cases hfound : (store.listCustomerAging order asOf).find? fun s => s.customerId = c with
  | some summary =>
      have hcustomer : summary.customerId = c := of_decide_eq_true (List.find?_some hfound :)
      rw [← hcustomer]
      exact (mem_listCustomerAging.1 (mem_of_find?_eq_some hfound)).symm
  | none =>
      cases hmade : customerSummaries.made
          ((store.listInvoiceAging order asOf none).filter fun inv => inv.customerId = c) with
      | none => rfl
      | some summary =>
          have hcustomer : summary.customerId = c := customerId_of_made (by simp) hmade
          have hmem : summary ∈ store.listCustomerAging order asOf := by
            rw [mem_listCustomerAging, hcustomer]
            exact hmade
          exact absurd (decide_eq_true hcustomer) (List.find?_eq_none.1 hfound summary hmem)

theorem summaries_additive :
    customerSummaries.Additive CustomerAgingSummary.totalReceivableKd InvoiceAgingRow.remainingKd :=
  ⟨fun _ => rfl, fun _ _ => rfl⟩

theorem slots_additive : agingSlots.Additive AgingSlot.total InvoiceAgingRow.remainingKd :=
  ⟨fun _ => rfl, fun _ _ => rfl⟩

theorem tally_listCustomerAging (order : RowOrder Order) (asOf : ℤ) :
    tally CustomerAgingSummary.totalReceivableKd (store.listCustomerAging order asOf) =
      tally InvoiceAgingRow.remainingKd (store.listInvoiceAging order asOf none) := by
  unfold listCustomerAging
  rw [tally_perm _ (perm_insertionSort ..), tally_map]
  exact tally_collect _ _ summaries_additive _

theorem tally_bucketTotals (order : RowOrder Order) (asOf : ℤ) :
    tally AgingBucketTotal.totalReceivableKd (store.getReport order asOf).bucketTotals =
      tally InvoiceAgingRow.remainingKd (store.listInvoiceAging order asOf none) := by
  have hcover : ∀ inv ∈ store.listInvoiceAging order asOf none,
      inv.agingBucket ∈ orderedBuckets := by
    intro inv _
    cases inv.agingBucket <;> decide
  unfold getReport
  rw [← tally_partition InvoiceAgingRow.agingBucket _ (by decide) hcover, tally_map]
  apply tally_congr
  intro bucket _
  dsimp only
  rw [get?_collect]
  exact slots_additive.getD_made _

theorem worst_of_mem (hsummary : summary ∈ store.listCustomerAging order asOf) :
    (∃ inv ∈ store.listInvoiceAging order asOf none,
      inv.customerId = summary.customerId ∧ inv.agingBucket = summary.agingBucket) ∧
    ∀ inv ∈ store.listInvoiceAging order asOf none, inv.customerId = summary.customerId →
      inv.agingBucket.severityRank ≤ summary.agingBucket.severityRank := by
  have hmade := mem_listCustomerAging.1 hsummary
  cases hrows : (store.listInvoiceAging order asOf none).filter fun inv =>
      inv.customerId = summary.customerId with
  | nil =>
      rw [hrows] at hmade
      cases hmade
  | cons first rest =>
      obtain ⟨hfirst, hcustomer, hrest⟩ := follows_of_filter hrows
      rw [hrows, made_of_follows hfirst hrest, Option.some.injEq] at hmade
      have hbucket : summary.agingBucket = first.agingBucket := by
        rw [← hmade]
        rfl
      have hmem : ∀ inv, inv ∈ first :: rest ↔ inv ∈ store.listInvoiceAging order asOf none ∧
          inv.customerId = summary.customerId := by
        intro inv
        rw [← hrows]
        simp
      rw [hbucket]
      refine ⟨⟨first, ((hmem first).1 (mem_cons_self ..)).1, hcustomer, rfl⟩, ?_⟩
      intro inv hinv howner
      rcases mem_cons.1 ((hmem inv).2 ⟨hinv, howner⟩) with rfl | hlater
      · exact le_rfl
      · exact (hrest inv hlater).1.rank_le hfirst (hrest inv hlater).2.2

theorem getCustomerAging_eq (hrows : store.listInvoiceAging order asOf (some c) = first :: rest)
    (hfirst : store.IsRow first) (hcustomer : first.customerId = c)
    (hrest : store.Follows first rest) :
    store.getCustomerAging order c asOf =
      some { store.summaryOf first rest with
        oldestInvoiceDateIso := if 0 < first.overdueDays then some first.invoiceDateIso else none } := by
  unfold getCustomerAging
  rw [hrows, if_neg (cons_ne_nil first rest), loop_of_follows hfirst hrest]
  simp [summaryOf, hcustomer]

theorem overdueDays_of_heads {first' : InvoiceAgingRow} {rest' : List InvoiceAgingRow}
    (hrows : ((store.listInvoiceAging order asOf none).filter fun inv => inv.customerId = key.id) =
      first :: rest) (hrows' : store.listInvoiceAging order' asOf (some key.id) = first' :: rest') :
    first.overdueDays = first'.overdueDays := by
  have hperm := rowsOfCustomer_perm store order order' asOf key
  rw [hrows, hrows'] at hperm
  apply le_antisymm
  · rcases mem_cons.1 (hperm.subset (mem_cons_self ..)) with hsame | hlater
    · rw [hsame]
    · exact ((follows_of_query hrows').2.2 first hlater).2.2
  · rcases mem_cons.1 (hperm.symm.subset (mem_cons_self ..)) with hsame | hlater
    · rw [hsame]
    · exact ((follows_of_filter hrows).2.2 first' hlater).2.2

theorem entry_eq_iff {first' : InvoiceAgingRow} {rest' : List InvoiceAgingRow}
    (hrows : ((store.listInvoiceAging order asOf none).filter fun inv => inv.customerId = key.id) =
      first :: rest) (hrows' : store.listInvoiceAging order' asOf (some key.id) = first' :: rest') :
    (store.listCustomerAging order asOf).find? (fun s => s.customerId = key.id) =
        store.getCustomerAging order' key.id asOf ↔
      0 < first'.overdueDays ∧ first.invoiceDateIso = first'.invoiceDateIso := by
  obtain ⟨hfirst, hcustomer, hrest⟩ := follows_of_filter hrows
  obtain ⟨hfirst', hcustomer', hrest'⟩ := follows_of_query hrows'
  have hperm := rowsOfCustomer_perm store order order' asOf key
  rw [hrows, hrows'] at hperm
  have hdays := overdueDays_of_heads hrows hrows'
  have hbucket : first.agingBucket = first'.agingBucket := by
    rw [hfirst.bucket, hfirst'.bucket, hdays]
  have htotal := tally_perm InvoiceAgingRow.remainingKd hperm
  have hcount := hperm.length_eq
  rw [find?_listCustomerAging, hrows, made_of_follows hfirst hrest,
    getCustomerAging_eq hrows' hfirst' hcustomer' hrest']
  unfold summaryOf
  rw [hcustomer, hcustomer', htotal, hcount, hbucket, hdays]
  by_cases hpos : 0 < first'.overdueDays
  · simp [hpos]
  · simp [hpos]

theorem entry_eq_of_none (hrows' : store.listInvoiceAging order' asOf (some key.id) = []) :
    (store.listCustomerAging order asOf).find? (fun s => s.customerId = key.id) =
      store.getCustomerAging order' key.id asOf := by
  have hperm := rowsOfCustomer_perm store order order' asOf key
  rw [hrows', perm_nil] at hperm
  unfold getCustomerAging
  rw [find?_listCustomerAging, hperm, hrows']
  simp

theorem oldest_of_query (hrows : store.listInvoiceAging order asOf (some key.id) = first :: rest) :
    ∃ o ∈ store.openInvoices, o.customerId = key.id ∧
      store.agingRow asOf (store.remaining o) o = first ∧
      ∀ other ∈ store.openInvoices, other.customerId = key.id →
        overdueDaysBetween other.createdAt asOf ≤ overdueDaysBetween o.createdAt asOf := by
  have hmem : ∀ inv, inv ∈ first :: rest ↔ ∃ o ∈ store.openInvoices, o.customerId = key.id ∧
      store.agingRow asOf (store.remaining o) o = inv := by
    intro inv
    rw [← hrows, mem_listInvoiceAging]
    simp [key.ne_empty]
  obtain ⟨o, ho, hcustomer, hrow⟩ := (hmem first).1 (mem_cons_self ..)
  refine ⟨o, ho, hcustomer, hrow, fun other hother howner => ?_⟩
  have hdays : first.overdueDays = overdueDaysBetween o.createdAt asOf := by
    rw [← hrow]
    rfl
  rw [← hdays]
  rcases mem_cons.1 ((hmem _).2 ⟨other, hother, howner, rfl⟩) with hsame | hlater
  · exact (congrArg InvoiceAgingRow.overdueDays hsame).le
  · exact ((follows_of_query hrows).2.2 _ hlater).2.2

theorem head?_of_leading {o : Order} (ho : o ∈ store.openInvoices) (hcustomer : o.customerId = c)
    (hunpaid : o ∈ store.unpaidOrders customerId)
    (holdest : ∀ other ∈ store.openInvoices, other.customerId = c →
      overdueDaysBetween other.createdAt asOf ≤ overdueDaysBetween o.createdAt asOf) :
    ((store.listInvoiceAging (RowOrder.leading o) asOf customerId).filter fun inv =>
      inv.customerId = c).head? = some (store.agingRow asOf (store.remaining o) o) := by
  have hopen : invoiceRemainingTolerance < store.remaining o :=
    of_decide_eq_true (mem_filter.1 ho).2
  rw [listInvoiceAging_eq, RowOrder.leading_arrange hunpaid, filter_cons,
    if_pos (decide_eq_true hopen), map_cons]
  apply StableSort.head?_filter_insertionSort_cons (p := fun inv : InvoiceAgingRow =>
    inv.customerId = c) hcustomer
  intro inv hinv howner
  obtain ⟨other, hother, rfl⟩ := mem_map.1 hinv
  rw [mem_filter] at hother
  have hunpaid := mem_unpaidOrders.1 (mem_of_mem_erase hother.1)
  exact holdest other (mem_filter.2 ⟨hunpaid.1, hother.2⟩) howner

end AgingStore

theorem DatesAreClear.agingAgrees {store : AgingStore} {asOf : ℤ} (hclear : DatesAreClear store asOf)
    (queries : AgingQueries) : AgingAgrees store asOf queries := by
  have hperm := fun order => store.listInvoiceAging_perm order queries.invoices asOf none
  refine ⟨?_, ?_, ?_, ?_, ?_⟩
  · intro key
    cases hrows' : store.listInvoiceAging queries.customer asOf (some key.id) with
    | nil => exact AgingStore.entry_eq_of_none hrows'
    | cons first' rest' =>
        cases hrows : (store.listInvoiceAging queries.customers asOf none).filter fun inv =>
            inv.customerId = key.id with
        | nil =>
            have hnone := store.rowsOfCustomer_perm queries.customers queries.customer asOf key
            rw [hrows, hrows'] at hnone
            exact absurd (nil_perm.1 hnone) (cons_ne_nil _ _)
        | cons first rest =>
            rw [AgingStore.entry_eq_iff hrows hrows']
            obtain ⟨o, ho, hcustomer, rfl, holdest⟩ := AgingStore.oldest_of_query hrows'
            obtain ⟨hpos, hsame⟩ := hclear key o ho hcustomer holdest
            have hfirst : first ∈ (store.listInvoiceAging queries.customers asOf none).filter
                fun inv => inv.customerId = key.id := by
              rw [hrows]
              exact mem_cons_self ..
            rw [mem_filter, decide_eq_true_eq, AgingStore.mem_listInvoiceAging] at hfirst
            obtain ⟨⟨other, hother, -, rfl⟩, howner⟩ := hfirst
            have hdays := AgingStore.overdueDays_of_heads hrows hrows'
            exact ⟨hpos, hsame other hother howner hdays⟩
  · rw [AgingStore.tally_listCustomerAging, tally_perm _ (hperm _)]
  · rw [AgingStore.tally_bucketTotals, tally_perm _ (hperm _)]
  · exact tally_perm _ (hperm _)
  · intro summary hsummary
    have hworst := AgingStore.worst_of_mem hsummary
    have hmem : ∀ inv, inv ∈ store.listInvoiceAging queries.customers asOf none ↔
        inv ∈ store.listInvoiceAging queries.invoices asOf none := fun inv => (hperm _).mem_iff
    simpa only [hmem] using hworst

theorem datesAreClear_of_agingAgrees {store : AgingStore} {asOf : ℤ}
    (hagree : ∀ queries, AgingAgrees store asOf queries) : DatesAreClear store asOf := by
  intro key oldest holdest hcustomer hmax
  have hunpaid : ∀ o ∈ store.openInvoices, o ∈ store.unpaidOrders none := fun o ho =>
    (mem_filter.1 ho).1
  have halone : oldest ∈ store.unpaidOrders (some key.id) :=
    AgingStore.mem_unpaidOrders.2 ⟨hunpaid oldest holdest, by simp [hcustomer]⟩
  have hfilter : (store.listInvoiceAging (RowOrder.leading oldest) asOf (some key.id)).filter
      (fun inv => inv.customerId = key.id) =
      store.listInvoiceAging (RowOrder.leading oldest) asOf (some key.id) := by
    rw [filter_eq_self]
    intro inv hinv
    obtain ⟨o, -, howner, rfl⟩ := AgingStore.mem_listInvoiceAging.1 hinv
    exact decide_eq_true (howner key.id (by simp [key.ne_empty]))
  have hhead' := AgingStore.head?_of_leading holdest hcustomer halone hmax
  rw [hfilter] at hhead'
  obtain ⟨rest', hrows'⟩ := List.head?_eq_some_iff.1 hhead'
  -- one call lists any of the oldest first, the other this one
  have hdate : ∀ other ∈ store.openInvoices, other.customerId = key.id →
      overdueDaysBetween other.createdAt asOf = overdueDaysBetween oldest.createdAt asOf →
      0 < overdueDaysBetween oldest.createdAt asOf ∧ other.createdAt = oldest.createdAt := by
    intro other hother howner hdays
    have hhead := AgingStore.head?_of_leading hother howner (hunpaid other hother)
      (fun third hthird hthirdOwner => hdays ▸ hmax third hthird hthirdOwner)
    obtain ⟨rest, hrows⟩ := List.head?_eq_some_iff.1 hhead
    have hentry := (hagree ⟨.leading other, .leading other, .leading oldest, .leading other⟩).customer key
    exact (AgingStore.entry_eq_iff hrows hrows').1 hentry
  exact ⟨(hdate oldest holdest hcustomer rfl).1,
    fun other hother howner hdays => (hdate other hother howner hdays).2⟩

/-- However the rows come back, the three runs agree exactly where the dates are clear. -/
theorem agingAgrees_iff (store : AgingStore) (asOf : ℤ) :
    (∀ queries, AgingAgrees store asOf queries) ↔ DatesAreClear store asOf :=
  ⟨datesAreClear_of_agingAgrees, DatesAreClear.agingAgrees⟩

def Sample.freshInvoice : AgingStore where
  env := { Env.default with useJournalAsSource := true }
  db := { Sample.indebtedShop with
    journal := [(paymentLinkReceivableEntry "order" "customer" 20000).input.entry] }
  invoiceNumber := fun _ => none
  displayName := fun _ => none

theorem agingAgrees_fails : ¬ ∀ queries, AgingAgrees Sample.freshInvoice 1 queries := by
  intro hagree
  have hclear := datesAreClear_of_agingAgrees hagree
  have hopen : Sample.order "order" ∈ Sample.freshInvoice.openInvoices := by decide
  have holdest := hclear Sample.customerKey (Sample.order "order") hopen rfl (by decide)
  exact absurd holdest.1 (by decide)

end SafariLaundry
