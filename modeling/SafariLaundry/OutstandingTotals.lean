import SafariLaundry.CollectionShares
import SafariLaundry.Outstanding

/-!
# Totals of outstanding customers

Where orders are found, every figure of the response is made of its rows.  Further filters find
fewer orders, in a smaller batch less is open on each of them, and a customer's row is made of
fewer orders; so a report grows by no filter, except by a branch, whose clause takes the place of
the receivable one.  That is so for runs whose queries return the orders they share in one order:
the credits of a customer fall on whichever come first.  Where no order is found the figures are
the company's.
-/

namespace SafariLaundry

namespace Outstanding

open Library Library.Bookkeeping Library.KeyedFold Library.Transaction List

/-- The queries behind the remaining amounts of the list return in both runs the orders that
they share in one order. -/
structure SameQueues (arrival' arrival : Arrival) : Prop where
  remaining : arrival'.remaining = arrival.remaining
  debts : arrival'.debts = arrival.debts
  report : arrival'.report = arrival.report

namespace Store

variable {store : Store}

variable {order : Order} {customerId : Uuid} {arrival : RowOrder Order}

theorem mem_arrival (arrival : RowOrder Order) (hmem : order ∈ store.visibility.db.orders.rows) :
    order ∈ (store.visibility.db.ordersAs arrival).orders.rows :=
  RowOrder.mem_arrange.2 hmem

theorem openOf_mono {orderIds orderIds' : List Uuid}
    (hmem : order ∈ store.visibility.db.orders.rows) (hsub : orderIds' ⊆ orderIds)
    (hbatch : order.id ∈ orderIds') :
    store.openOf arrival orderIds' order ≤ store.openOf arrival orderIds order := by
  obtain ⟨few, many, hfew, hmany, hle⟩ :=
    remainingBatch_mono store.visibility.env (mem_arrival arrival hmem) hsub hbatch
  simpa [openOf, remaining, hfew, hmany] using hle

theorem mem_stillOpen {arrival : Arrival} {rows : List Order} :
    order ∈ store.stillOpen arrival rows ↔ order ∈ rows ∧
      invoiceRemainingTolerance < store.openOf arrival.remaining (rows.map Order.id) order ∧
      CountsOpen (store.resolveOpenDebtOrderIds arrival.debts rows) order := by
  simp [stillOpen]

theorem mem_resolveOpenDebtOrderIds_mono {rows rows' : List Order} (hsub : rows' ⊆ rows)
    (hmem : order ∈ store.visibility.db.orders.rows)
    (hopen : order.id ∈ store.resolveOpenDebtOrderIds arrival rows') :
    order.id ∈ store.resolveOpenDebtOrderIds arrival rows := by
  have hcandidates := map_subset Order.id (filter_subset
    (fun r : Order => r.posPaymentMethod = .DEBT_ON_ACCOUNT) hsub)
  obtain ⟨hcandidate, hleft⟩ := mem_filter.1 hopen
  obtain ⟨few, many, hfew, hmany, hle⟩ :=
    remainingBatch_mono store.visibility.env (mem_arrival arrival hmem) hcandidates hcandidate
  refine mem_filter.2 ⟨hcandidates hcandidate, ?_⟩
  simp only [remaining, hfew, hmany, Option.getD_some, decide_eq_true_eq] at hleft ⊢
  omega

theorem stillOpen_mono {rows rows' : List Order} {arrival arrival' : Arrival}
    (hqueues : SameQueues arrival' arrival) (hstored : rows ⊆ store.visibility.db.orders.rows)
    (hsub : rows' ⊆ rows) : store.stillOpen arrival' rows' ⊆ store.stillOpen arrival rows := by
  intro order horder
  obtain ⟨hrow, hopen, hcounts⟩ := mem_stillOpen.1 horder
  rw [hqueues.remaining] at hopen
  rw [hqueues.debts] at hcounts
  have hmem := hstored (hsub hrow)
  refine mem_stillOpen.2 ⟨hsub hrow, ?_, ?_⟩
  · exact hopen.trans_le
      (openOf_mono hmem (map_subset Order.id hsub) (mem_map_of_mem hrow))
  · exact hcounts.imp_right fun hother => hother.imp_right fun hlink => hlink.imp_right
      fun hdebt => ⟨hdebt.1, mem_resolveOpenDebtOrderIds_mono hsub hmem hdebt.2⟩

/-! ## Rows of fewer orders -/

def owed (store : Store) (arrival : RowOrder Order) (orderIds : List Uuid) (order : Order) : ℤ :=
  if invoiceRemainingTolerance < store.openOf arrival orderIds order then store.openOf arrival orderIds order else 0

theorem owed_nonneg (orderIds : List Uuid) (order : Order) : 0 ≤ store.owed arrival orderIds order := by
  unfold owed invoiceRemainingTolerance
  split_ifs <;> omega

theorem owed_mono {orderIds orderIds' : List Uuid}
    (hle : store.openOf arrival orderIds' order ≤ store.openOf arrival orderIds order) :
    store.owed arrival orderIds' order ≤ store.owed arrival orderIds order := by
  unfold owed invoiceRemainingTolerance
  split_ifs <;> omega

theorem remainingDue_foldl (orderIds : List Uuid) (orders : List Order) (loop : CustomerLoop) :
    (orders.foldl (store.addOrder arrival orderIds) loop).remainingDue =
      loop.remainingDue + tally (store.owed arrival orderIds) orders := by
  induction orders generalizing loop with
  | nil => simp
  | cons order rest ih =>
      have hstep : (store.addOrder arrival orderIds loop order).remainingDue =
          loop.remainingDue + store.owed arrival orderIds order := by
        unfold owed
        by_cases hopen : invoiceRemainingTolerance < store.openOf arrival orderIds order
        · rw [if_pos hopen]
          exact if_pos hopen
        · rw [if_neg hopen, add_zero]
          exact if_neg hopen
      rw [foldl_cons, ih, hstep, tally_cons, add_assoc]

def ordersOf (rows : List Order) (customerId : Uuid) : List Order :=
  rows.filter fun order => order.customerId = customerId

theorem mem_ordersOf {rows : List Order} :
    order ∈ ordersOf rows customerId ↔ order ∈ rows ∧ order.customerId = customerId := by
  simp [ordersOf]

theorem mem_groupByCustomer {rows : List Order} {entry : Uuid × List Order} :
    entry ∈ (groupByCustomer rows).rows ↔
      ordersOf rows entry.1 ≠ [] ∧ entry.2 = ordersOf rows entry.1 := by
  unfold groupByCustomer
  rw [mem_collect, Accumulation.made_rows]
  change (if ordersOf rows entry.1 = [] then none else some (ordersOf rows entry.1)) = _ ↔ _
  by_cases hnone : ordersOf rows entry.1 = []
  · rw [if_pos hnone]
    exact iff_of_false nofun fun hboth => hboth.1 hnone
  · rw [if_neg hnone, Option.some_inj]
    exact ⟨fun hsame => ⟨hnone, hsame.symm⟩, fun hboth => hboth.2.symm⟩

theorem mem_allRows {rows : List Order} {row : OutstandingRow} :
    row ∈ store.allRows arrival rows ↔ ∃ customerId, ordersOf rows customerId ≠ [] ∧
      store.rowOf arrival rows customerId (ordersOf rows customerId) = some row := by
  unfold allRows
  rw [mem_filterMap]
  constructor
  · rintro ⟨⟨customerId, orders⟩, hentry, hrow⟩
    obtain ⟨hsome, horders⟩ := mem_groupByCustomer.1 hentry
    exact ⟨customerId, hsome, horders ▸ hrow⟩
  · rintro ⟨customerId, hsome, hrow⟩
    exact ⟨(customerId, ordersOf rows customerId), mem_groupByCustomer.2 ⟨hsome, rfl⟩, hrow⟩

theorem customerId_of_rowOf {rows : List Order} {orders : List Order} {row : OutstandingRow}
    (hrow : store.rowOf arrival rows customerId orders = some row) :
    row.customerId = customerId := by
  obtain ⟨customer, _, rfl⟩ := Option.map_eq_some_iff.1 hrow
  rfl

theorem nodup_allRows (rows : List Order) :
    ((store.allRows arrival rows).map OutstandingRow.customerId).Nodup := by
  have hkeys := (groupByCustomer rows).keysDistinct
  unfold allRows
  rw [List.Nodup, pairwise_map] at hkeys ⊢
  rw [pairwise_filterMap]
  refine hkeys.imp fun {first second} hne row hrow row' hrow' hsame => hne ?_
  rw [← customerId_of_rowOf hrow, ← customerId_of_rowOf hrow', hsame]

structure Shrinks (row' row : OutstandingRow) : Prop where
  customerId : row.customerId = row'.customerId
  name : row.name = row'.name
  phone : row.phone = row'.phone
  phone2 : row.phone2 = row'.phone2
  status : row.status = row'.status
  blocked : row.blocked = row'.blocked
  totalDueKd : row'.totalDueKd ≤ row.totalDueKd
  remainingDueKd : row'.remainingDueKd ≤ row.remainingDueKd
  invoicesCount : row'.invoicesCount ≤ row.invoicesCount

theorem rowOf_shrinks {rows rows' orders orders' : List Order} {row' : OutstandingRow}
    (hrow : store.rowOf arrival rows' customerId orders' = some row')
    (howed : tally (store.owed arrival (rows'.map Order.id)) orders' ≤
      tally (store.owed arrival (rows.map Order.id)) orders) (hlength : orders'.length ≤ orders.length) :
    ∃ row, store.rowOf arrival rows customerId orders = some row ∧ Shrinks row' row := by
  obtain ⟨customer, hcustomer, rfl⟩ := Option.map_eq_some_iff.1 hrow
  have hdue :
      (orders'.foldl (store.addOrder arrival (rows'.map Order.id)) ⟨0, 0, none, none⟩).remainingDue ≤
      (orders.foldl (store.addOrder arrival (rows.map Order.id)) ⟨0, 0, none, none⟩).remainingDue := by
    rw [remainingDue_foldl, remainingDue_foldl]
    exact add_le_add_right howed 0
  refine ⟨_, congrArg _ hcustomer, ?_⟩
  exact
    { customerId := rfl
      name := rfl
      phone := rfl
      phone2 := rfl
      status := rfl
      blocked := rfl
      totalDueKd := hdue
      remainingDueKd := hdue
      invoicesCount := hlength }

theorem allRows_shrink {rows rows' : List Order}
    (hstored : rows ⊆ store.visibility.db.orders.rows) (hsub : rows' ⊆ rows)
    (hnodup : (rows'.map Order.id).Nodup) {row' : OutstandingRow}
    (hrow : row' ∈ store.allRows arrival rows') : ∃ row ∈ store.allRows arrival rows, Shrinks row' row := by
  obtain ⟨customerId, hsome, hmade⟩ := mem_allRows.1 hrow
  have hids := map_subset Order.id hsub
  have horders : ∀ order ∈ ordersOf rows' customerId, order ∈ ordersOf rows customerId := by
    intro order horder
    obtain ⟨hmem, howner⟩ := mem_ordersOf.1 horder
    exact mem_ordersOf.2 ⟨hsub hmem, howner⟩
  have hdistinct : ((ordersOf rows' customerId).map Order.id).Nodup :=
    hnodup.sublist (filter_sublist.map _)
  have howed : tally (store.owed arrival (rows'.map Order.id)) (ordersOf rows' customerId) ≤
      tally (store.owed arrival (rows.map Order.id)) (ordersOf rows customerId) := by
    apply tally_le_of_keyed Order.id hdistinct
    · intro order horder
      have hmem := (mem_ordersOf.1 horder).1
      refine ⟨order, horders order horder, rfl, owed_mono ?_⟩
      exact openOf_mono (hstored (hsub hmem)) hids (mem_map_of_mem hmem)
    · exact fun order _ => owed_nonneg _ order
  have hlength : (ordersOf rows' customerId).length ≤ (ordersOf rows customerId).length :=
    (hdistinct.of_map.subperm horders).length_le
  obtain ⟨row, hfound, hshrinks⟩ := rowOf_shrinks hmade howed hlength
  refine ⟨row, mem_allRows.2 ⟨customerId, ?_, hfound⟩, hshrinks⟩
  exact fun hnone => hsome (eq_nil_of_length_eq_zero (by simpa [hnone] using hlength))

end Store

/-! ## Further filters -/

structure AddsFilters (query query' : OutstandingQuery) : Prop where
  fromDate : query.fromDate = none ∨ query'.fromDate = query.fromDate
  toDate : query.toDate = none ∨ query'.toDate = query.toDate
  branchId : trimmed query.branchId = none ∨ query'.branchId = query.branchId
  driverId : query.driver = none ∨ query'.driver = query.driver
  customerId : query.customer = none ∨ query'.customer = query.customer
  status : query.status = none ∨ query'.status = query.status
  blocked : query.blocked = none ∨ query'.blocked = query.blocked
  search : trim (query.search.getD "") = "" ∨ query'.search = query.search

/-- No branch is added, a driver who asks does not go on to name a driver, and where a first day
had stood alone a last day that is added does not reach past now or meets no order there. -/
structure Narrows (store : Store) (actor : Option JwtUser) (query query' : OutstandingQuery) : Prop
    extends AddsFilters query query' where
  sameBranch : query'.branchId = query.branchId
  sameDriver : (∃ user ∈ actor, user.role = .DRIVER) → query'.driver = query.driver
  untilNow : query.fromDate ≠ none → query.toDate = none →
    (∀ stop, query'.toDate = some (some stop) → stop ≤ store.visibility.env.now) ∨
      ∀ order ∈ store.visibility.db.orders.rows, order.createdAt ≤ store.visibility.env.now

structure AddsRowFilters (query query' : OutstandingQuery) : Prop
    extends AddsFilters query query' where
  sameFrom : query'.fromDate = query.fromDate
  sameTo : query'.toDate = query.toDate
  sameBranch : query'.branchId = query.branchId
  sameDriver : query'.driverId = query.driverId
  sameCustomer : query'.customerId = query.customerId

theorem resolveReportingBounds_ok {now : Timestamp} {fromDate toDate : Option (Option Timestamp)}
    {bounds : ReportingBounds} (hbounds : resolveReportingBounds now fromDate toDate = .ok bounds) :
    fromDate = none ∧ toDate = none ∧ bounds.createdAt = none ∨
      ¬ (fromDate = none ∧ toDate = none) ∧ ∃ start stop, fromDate.getD (some 0) = some start ∧
        toDate.getD (some now) = some stop ∧ bounds.createdAt = some (start, stop) := by
  unfold resolveReportingBounds at hbounds
  by_cases hnone : fromDate = none ∧ toDate = none
  · rw [if_pos hnone] at hbounds
    obtain rfl := Except.ok.inj hbounds
    exact .inl ⟨hnone.1, hnone.2, rfl⟩
  · rw [if_neg hnone] at hbounds
    refine .inr ⟨hnone, ?_⟩
    split at hbounds
    next start stop hstart hstop =>
      split_ifs at hbounds
      obtain rfl := Except.ok.inj hbounds
      exact ⟨start, stop, hstart, hstop, rfl⟩
    next => cases hbounds

def Within (bounds : ReportingBounds) (instant : Timestamp) : Prop :=
  ∀ window ∈ bounds.createdAt, window.1 ≤ instant ∧ instant ≤ window.2

namespace Narrows

variable {store : Store} {actor : Option JwtUser} {query query' : OutstandingQuery}
  {bounds bounds' : ReportingBounds}

theorem start_le (hnarrows : Narrows store actor query query') {start start' : Timestamp}
    (hstart : query.fromDate.getD (some 0) = some start)
    (hstart' : query'.fromDate.getD (some 0) = some start') : start ≤ start' := by
  rcases hnarrows.fromDate with hunset | hsame
  · rw [hunset] at hstart
    obtain rfl : 0 = start := Option.some.inj hstart
    exact Nat.zero_le _
  · rw [hsame, hstart] at hstart'
    exact (Option.some.inj hstart').le

theorem stop_le (hnarrows : Narrows store actor query query')
    (hasked : ¬ (query.fromDate = none ∧ query.toDate = none)) {stop stop' : Timestamp}
    (hstop : query.toDate.getD (some store.visibility.env.now) = some stop)
    (hstop' : query'.toDate.getD (some store.visibility.env.now) = some stop') :
    stop' ≤ stop ∨ ∀ order ∈ store.visibility.db.orders.rows, order.createdAt ≤ stop := by
  rcases hnarrows.toDate with hunset | hsame
  · have hfrom : query.fromDate ≠ none := fun hfrom => hasked ⟨hfrom, hunset⟩
    rw [hunset] at hstop
    obtain rfl : store.visibility.env.now = stop := Option.some.inj hstop
    refine (hnarrows.untilNow hfrom hunset).imp_left fun hearly => ?_
    cases hto : query'.toDate with
    | none =>
        rw [hto] at hstop'
        exact (Option.some.inj hstop').ge
    | some day =>
        rw [hto] at hstop'
        obtain rfl : day = some stop' := hstop'
        exact hearly stop' hto
  · rw [hsame, hstop] at hstop'
    exact .inl (Option.some.inj hstop').ge

theorem asked (hnarrows : Narrows store actor query query')
    (hasked : ¬ (query.fromDate = none ∧ query.toDate = none)) :
    ¬ (query'.fromDate = none ∧ query'.toDate = none) := by
  rintro ⟨hfrom, hto⟩
  have hunset := hnarrows.fromDate
  have hunset' := hnarrows.toDate
  rw [hfrom] at hunset
  rw [hto] at hunset'
  exact hasked ⟨hunset.elim id Eq.symm, hunset'.elim id Eq.symm⟩

theorem within (hnarrows : Narrows store actor query query')
    (hbounds : resolveReportingBounds store.visibility.env.now query.fromDate query.toDate =
      .ok bounds)
    (hbounds' : resolveReportingBounds store.visibility.env.now query'.fromDate query'.toDate =
      .ok bounds')
    {order : Order} (hmem : order ∈ store.visibility.db.orders.rows)
    (hwithin : Within bounds' order.createdAt) : Within bounds order.createdAt := by
  rcases resolveReportingBounds_ok hbounds with
    ⟨_, _, hall⟩ | ⟨hasked, start, stop, hstart, hstop, hwindow⟩
  · simp [Within, hall]
  rcases resolveReportingBounds_ok hbounds' with
    ⟨hfrom, hto, _⟩ | ⟨_, start', stop', hstart', hstop', hwindow'⟩
  · exact absurd ⟨hfrom, hto⟩ (hnarrows.asked hasked)
  obtain ⟨hafter, hbefore⟩ := hwithin _ hwindow'
  simp only [Within, hwindow, Option.mem_some_iff, forall_eq']
  constructor
  · exact (hnarrows.start_le hstart hstart').trans hafter
  · rcases hnarrows.stop_le hasked hstop hstop' with hearlier | hnone
    · exact hbefore.trans hearlier
    · exact hnone order hmem

theorem branchWhere_eq (hnarrows : Narrows store actor query query') :
    query'.branchWhere actor = query.branchWhere actor := by
  unfold OutstandingQuery.branchWhere OutstandingQuery.effectiveBranchId
  rw [hnarrows.sameBranch]

theorem wantedDriver_subset (hnarrows : Narrows store actor query query') {id : Uuid}
    (hid : id ∈ wantedDriver (query.branchWhere actor) query.driver) :
    id ∈ wantedDriver (query.branchWhere actor) query'.driver := by
  by_cases hdriver : ∃ user ∈ actor, user.role = .DRIVER
  · rwa [hnarrows.sameDriver hdriver]
  · rcases hnarrows.driverId with hunset | hsame
    · have hnobody : actor.filter (fun user => user.role = .DRIVER) = none := by
        rw [Option.filter_eq_none_iff]
        intro user huser hrole
        exact hdriver ⟨user, huser, of_decide_eq_true hrole⟩
      unfold wantedDriver OutstandingQuery.branchWhere at hid
      rw [hunset, hnobody] at hid
      cases hbranch : query.effectiveBranchId actor <;> simp [hbranch] at hid
    · rwa [hsame]

theorem selected (hnarrows : Narrows store actor query query')
    (hbounds : resolveReportingBounds store.visibility.env.now query.fromDate query.toDate =
      .ok bounds)
    (hbounds' : resolveReportingBounds store.visibility.env.now query'.fromDate query'.toDate =
      .ok bounds')
    {order : Order} (hmem : order ∈ store.visibility.db.orders.rows)
    (hselected : store.Selected (query'.branchWhere actor) bounds'.createdAt query'.driver
      query'.customer order) :
    store.Selected (query.branchWhere actor) bounds.createdAt query.driver query.customer
      order := by
  obtain ⟨hstatus, hscope, hcreated, hdriver, hcustomer⟩ := hselected
  rw [hnarrows.branchWhere_eq] at hscope hdriver
  refine ⟨hstatus, hscope, hnarrows.within hbounds hbounds' hmem hcreated, ?_, ?_⟩
  · exact fun id hid => hdriver id (hnarrows.wantedDriver_subset hid)
  · intro id hid
    rcases hnarrows.customerId with hunset | hsame
    · simp [hunset] at hid
    · exact hcustomer id (hsame ▸ hid)

end Narrows

structure Summarizes (own : List OutstandingRow) (summary : OutstandingDriverSummary) : Prop where
  driverId : ∃ row ∈ own, row.driverId = summary.driverId
  customers : summary.customers = own.length
  invoices : summary.invoices = tally OutstandingRow.invoicesCount own
  totalRemainingKd : summary.totalRemainingKd = tally OutstandingRow.totalDueKd own
  maxDaysLate : IsGreatest {days | ∃ row ∈ own, row.daysLate = days} summary.maxDaysLate

def ofDriver (rows : List OutstandingRow) (key : String) : List OutstandingRow :=
  rows.filter fun row => driverKey row.driverId = key

structure SummarizesDrivers (rows : List OutstandingRow)
    (summaries : List OutstandingDriverSummary) : Prop where
  nodup : (summaries.map fun summary => driverKey summary.driverId).Nodup
  covers : ∀ row ∈ rows, ∃ summary ∈ summaries, driverKey summary.driverId = driverKey row.driverId
  sums : ∀ summary ∈ summaries, Summarizes (ofDriver rows (driverKey summary.driverId)) summary

structure SumsOverRows (response : OutstandingResponse) : Prop where
  totalCustomers : response.totalCustomers = response.rows.length
  totalInvoices : response.totalInvoices = tally OutstandingRow.invoicesCount response.rows
  totalDueKd : response.totalDueKd = tally OutstandingRow.totalDueKd response.rows
  remainingDueKd : response.remainingDueKd = tally OutstandingRow.remainingDueKd response.rows
  blockedCount : response.blockedCount = (response.rows.filter fun row => row.blocked = true).length
  lateCount : response.lateCount = (response.rows.filter fun row => row.status = .LATE).length
  riskCount : response.riskCount = (response.rows.filter fun row => row.status = .RISK).length
  driverSummaries : ∀ summaries ∈ response.driverSummaries,
    SummarizesDrivers response.rows summaries

structure CountsNoLarger (response' response : OutstandingResponse) : Prop where
  totalCustomers : response'.totalCustomers ≤ response.totalCustomers
  totalInvoices : response'.totalInvoices ≤ response.totalInvoices
  blockedCount : response'.blockedCount ≤ response.blockedCount
  lateCount : response'.lateCount ≤ response.lateCount
  riskCount : response'.riskCount ≤ response.riskCount

structure AmountsNoLarger (response' response : OutstandingResponse) : Prop where
  totalDueKd : response'.totalDueKd ≤ response.totalDueKd
  remainingDueKd : response'.remainingDueKd ≤ response.remainingDueKd

structure SummaryNoLarger (summary' summary : OutstandingDriverSummary) : Prop where
  driver : driverKey summary.driverId = driverKey summary'.driverId
  customers : summary'.customers ≤ summary.customers
  invoices : summary'.invoices ≤ summary.invoices
  totalRemainingKd : summary'.totalRemainingKd ≤ summary.totalRemainingKd
  maxDaysLate : summary'.maxDaysLate ≤ summary.maxDaysLate

def DriversNoLarger (response' response : OutstandingResponse) : Prop :=
  ∀ summaries' ∈ response'.driverSummaries, ∀ summary' ∈ summaries',
    ∃ summaries ∈ response.driverSummaries, ∃ summary ∈ summaries, SummaryNoLarger summary' summary

namespace Store

variable {store : Store}

/-! ## Fewer rows -/

variable {arrival : RowOrder Order}

theorem mem_listCollectionsReceivableAggOrders_read
    {p : Order → Prop} [DecidablePred p] {order : Order} :
    order ∈ (arrival.arrange (store.visibility.db.orders.rows.filter p)).insertionSort
        (fun first second => second.createdAt ≤ first.createdAt) ↔
      order ∈ store.visibility.db.orders.rows ∧ p order := by
  rw [(perm_insertionSort _ _).mem_iff, RowOrder.mem_arrange, mem_filter,
    decide_eq_true_eq]

theorem aggOrders_stored {arrival : Arrival} {query : OutstandingQuery}
    {actor : Option JwtUser} {bounds : ReportingBounds} :
    store.aggOrders arrival query actor bounds ⊆ store.visibility.db.orders.rows := by
  intro order horder
  exact (mem_listCollectionsReceivableAggOrders_read.1 (mem_stillOpen.1 horder).1).1

theorem nodup_aggOrders (arrival : Arrival) (query : OutstandingQuery)
    (actor : Option JwtUser) (bounds : ReportingBounds) :
    ((store.aggOrders arrival query actor bounds).map Order.id).Nodup := by
  have hread := (perm_insertionSort
      (fun first second : Order => second.createdAt ≤ first.createdAt) _).trans
    (arrival.listed.perm (store.visibility.db.orders.rows.filter (store.Selected (query.branchWhere actor)
      bounds.createdAt query.driver query.customer)))
  have hdistinct :
      ((store.visibility.db.orders.rows.filter (store.Selected (query.branchWhere actor)
        bounds.createdAt query.driver query.customer)).map Order.id).Nodup :=
    store.visibility.db.orders.keysDistinct.sublist (filter_sublist.map _)
  exact ((hread.map Order.id).nodup_iff.2 hdistinct).sublist (filter_sublist.map _)

variable {row : OutstandingRow} {summary : OutstandingDriverSummary}

theorem mem_filteredRows {query : OutstandingQuery} {rows : List Order} :
    row ∈ store.filteredRows arrival query rows ↔
      row ∈ store.allRows arrival rows ∧ store.PassesFilters query row := by
  unfold filteredRows
  rw [(perm_insertionSort _ _).mem_iff, mem_filter, decide_eq_true_eq]

theorem nodup_filteredRows (query : OutstandingQuery) (rows : List Order) :
    ((store.filteredRows arrival query rows).map OutstandingRow.customerId).Nodup := by
  unfold filteredRows
  rw [((perm_insertionSort _ _).map _).nodup_iff]
  exact (nodup_allRows rows).sublist (filter_sublist.map _)

theorem passesFilters_of_added {query query' : OutstandingQuery} (hadds : AddsFilters query query')
    {row' : OutstandingRow} (hshrinks : Shrinks row' row)
    (hpasses : store.PassesFilters query' row') : store.PassesFilters query row := by
  obtain ⟨hstatus, hblocked, hsearch⟩ := hpasses
  refine ⟨?_, ?_, ?_⟩
  · rcases hadds.status with hunset | hsame
    · simp [hunset]
    · rwa [hshrinks.status, ← hsame]
  · rcases hadds.blocked with hunset | hsame
    · simp [hunset]
    · rwa [hshrinks.blocked, ← hsame]
  · rcases hadds.search with hunset | hsame
    · exact fun hsome => absurd ((congrArg store.lower hunset).trans store.lower_empty) hsome
    · rwa [hshrinks.name, hshrinks.phone, hshrinks.phone2, ← hsame]

theorem aggOrders_subset {actor : Option JwtUser} {query query' : OutstandingQuery}
    (hnarrows : Narrows store actor query query') {bounds bounds' : ReportingBounds}
    (hbounds : resolveReportingBounds store.visibility.env.now query.fromDate query.toDate =
      .ok bounds)
    (hbounds' : resolveReportingBounds store.visibility.env.now query'.fromDate query'.toDate =
      .ok bounds')
    {arrival arrival' : Arrival} (hqueues : SameQueues arrival' arrival) :
    store.aggOrders arrival' query' actor bounds' ⊆ store.aggOrders arrival query actor bounds := by
  apply stillOpen_mono hqueues
  · exact fun order horder => (mem_listCollectionsReceivableAggOrders_read.1 horder).1
  · intro order horder
    obtain ⟨hmem, hselected⟩ := mem_listCollectionsReceivableAggOrders_read.1 horder
    exact mem_listCollectionsReceivableAggOrders_read.2
      ⟨hmem, hnarrows.selected hbounds hbounds' hmem hselected⟩

theorem filteredRows_shrink {query query' : OutstandingQuery} (hadds : AddsFilters query query')
    {rows rows' : List Order} (hstored : rows ⊆ store.visibility.db.orders.rows)
    (hsub : rows' ⊆ rows) (hnodup : (rows'.map Order.id).Nodup) {row' : OutstandingRow}
    (hrow : row' ∈ store.filteredRows arrival query' rows') :
    ∃ row ∈ store.filteredRows arrival query rows, Shrinks row' row := by
  obtain ⟨hall, hpasses⟩ := mem_filteredRows.1 hrow
  obtain ⟨row, hmade, hshrinks⟩ := allRows_shrink hstored hsub hnodup hall
  exact ⟨row, mem_filteredRows.2 ⟨hmade, passesFilters_of_added hadds hshrinks hpasses⟩, hshrinks⟩

section Totals

variable {rows rows' : List OutstandingRow} (hnodup : (rows'.map OutstandingRow.customerId).Nodup)
  (hshrink : ∀ row' ∈ rows', ∃ row ∈ rows, Shrinks row' row)

include hnodup hshrink

theorem tally_le_of_shrink {N : Type} [AddCommMonoid N] [PartialOrder N] [IsOrderedAddMonoid N]
    {weight : OutstandingRow → N} (hnonneg : ∀ row ∈ rows, 0 ≤ weight row)
    (hle : ∀ row' row, Shrinks row' row → weight row' ≤ weight row) :
    tally weight rows' ≤ tally weight rows := by
  apply tally_le_of_keyed OutstandingRow.customerId hnodup
  · intro row' hrow'
    obtain ⟨row, hrow, hshrinks⟩ := hshrink row' hrow'
    exact ⟨row, hrow, hshrinks.customerId, hle row' row hshrinks⟩
  · exact hnonneg

theorem length_filter_le_of_shrink {p : OutstandingRow → Prop} [DecidablePred p]
    (hsame : ∀ row' row, Shrinks row' row → p row' → p row) :
    (rows'.filter fun row => p row).length ≤ (rows.filter fun row => p row).length := by
  rw [← tally_one, ← tally_one, tally_filter, tally_filter]
  apply tally_le_of_shrink hnodup hshrink
  · intro row _
    split_ifs <;> simp
  · intro row' row hshrinks
    split_ifs with hrow' hrow
    · exact le_rfl
    · exact absurd (hsame row' row hshrinks hrow') hrow
    · exact Nat.zero_le 1
    · exact le_rfl

end Totals

theorem summarizes_of_made {own : List OutstandingRow}
    (hmade : driverSlots.made own = some summary) : Summarizes own summary := by
  apply Accumulation.made_invariant _ _ hmade
  · intro row
    exact
      { driverId := ⟨row, mem_singleton_self row, rfl⟩
        customers := rfl
        invoices := by simp [driverSlots]
        totalRemainingKd := by simp [driverSlots]
        maxDaysLate := by simp [driverSlots] }
  · intro rows old row hold
    obtain ⟨first, hfirst, hdriver⟩ := hold.driverId
    obtain ⟨⟨latest, hlatest, hdays⟩, hbound⟩ := hold.maxDaysLate
    exact
      { driverId := ⟨first, mem_append_left _ hfirst, hdriver⟩
        customers := by simp [driverSlots, hold.customers]
        invoices := by simp [driverSlots, hold.invoices]
        totalRemainingKd := by simp [driverSlots, hold.totalRemainingKd]
        maxDaysLate := by
          constructor
          · rcases le_total row.daysLate old.maxDaysLate with hle | hle
            · exact ⟨latest, mem_append_left _ hlatest, hdays.trans (max_eq_left hle).symm⟩
            · exact ⟨row, by simp, (max_eq_right hle).symm⟩
          · rintro _ ⟨other, hother, rfl⟩
            rcases mem_append.1 hother with hbefore | hlast
            · exact (hbound ⟨other, hbefore, rfl⟩).trans (le_max_left ..)
            · rw [mem_singleton.1 hlast]
              exact le_max_right .. }

theorem summarizes_of_mem {rows : List OutstandingRow} {entry : String × OutstandingDriverSummary}
    (hentry : entry ∈
      (KeyedFold.collect driverSlots (fun row => driverKey row.driverId) rows).rows) :
    Summarizes (ofDriver rows entry.1) entry.2 ∧ driverKey entry.2.driverId = entry.1 := by
  have hsums := summarizes_of_made ((mem_collect ..).1 hentry)
  obtain ⟨row, hrow, hdriver⟩ := hsums.driverId
  exact ⟨hsums, hdriver ▸ of_decide_eq_true (mem_filter.1 hrow).2⟩

theorem computeCanonicalOutstandingDriverSummaries_sums (rows : List OutstandingRow) :
    SummarizesDrivers rows (store.computeCanonicalOutstandingDriverSummaries rows) := by
  have hmem : ∀ summary, summary ∈ store.computeCanonicalOutstandingDriverSummaries rows ↔
      ∃ entry ∈ (KeyedFold.collect driverSlots (fun row => driverKey row.driverId) rows).rows,
        entry.2 = summary := by
    intro summary
    unfold computeCanonicalOutstandingDriverSummaries
    rw [(perm_insertionSort _ _).mem_iff, mem_map]
  refine ⟨?_, ?_, ?_⟩
  · unfold computeCanonicalOutstandingDriverSummaries
    rw [((perm_insertionSort _ _).map _).nodup_iff, map_map]
    have hkeys : (KeyedFold.collect driverSlots (fun row => driverKey row.driverId) rows).rows.map
          ((fun summary => driverKey summary.driverId) ∘ Prod.snd) =
        (KeyedFold.collect driverSlots (fun row => driverKey row.driverId) rows).keys :=
      map_congr_left fun entry hentry => (summarizes_of_mem hentry).2
    rw [hkeys]
    exact OrderedMap.keys_nodup _
  · intro row hrow
    have hkey := (mem_keys_collect driverSlots fun row => driverKey row.driverId).2 ⟨row, hrow, rfl⟩
    obtain ⟨entry, hentry, hsame⟩ := mem_map.1 hkey
    exact ⟨entry.2, (hmem _).2 ⟨entry, hentry, rfl⟩, (summarizes_of_mem hentry).2.trans hsame⟩
  · intro summary hsummary
    obtain ⟨entry, hentry, rfl⟩ := (hmem summary).1 hsummary
    obtain ⟨hsums, hkey⟩ := summarizes_of_mem hentry
    rwa [hkey]

theorem report_sums (query : OutstandingQuery) (bounds : ReportingBounds) (rows : List Order) :
    SumsOverRows (store.report arrival query bounds rows) where
  totalCustomers := rfl
  totalInvoices := rfl
  totalDueKd := rfl
  remainingDueKd := rfl
  blockedCount := rfl
  lateCount := rfl
  riskCount := rfl
  driverSummaries := by
    intro summaries hsummaries
    obtain rfl := Option.some.inj hsummaries
    exact computeCanonicalOutstandingDriverSummaries_sums _

theorem due_of_mem_allRows {rows : List Order} (hrow : row ∈ store.allRows arrival rows) :
    row.totalDueKd = row.remainingDueKd ∧ 0 ≤ row.remainingDueKd := by
  obtain ⟨customerId, _, hmade⟩ := mem_allRows.1 hrow
  obtain ⟨customer, _, rfl⟩ := Option.map_eq_some_iff.1 hmade
  have hnonneg : 0 ≤ ((ordersOf rows customerId).foldl (store.addOrder arrival (rows.map Order.id))
      ⟨0, 0, none, none⟩).remainingDue := by
    rw [remainingDue_foldl, zero_add]
    exact tally_nonneg (owed_nonneg _) _
  exact ⟨rfl, hnonneg⟩

theorem due_nonneg {query : OutstandingQuery} {rows : List Order} :
    ∀ row ∈ store.filteredRows arrival query rows, 0 ≤ row.totalDueKd ∧ 0 ≤ row.remainingDueKd := by
  intro row hrow
  obtain ⟨hsame, hnonneg⟩ := due_of_mem_allRows (mem_filteredRows.1 hrow).1
  exact ⟨hsame ▸ hnonneg, hnonneg⟩

section Narrowed

variable {query query' : OutstandingQuery} {rows rows' : List Order}
  (hshrink : ∀ row' ∈ store.filteredRows arrival query' rows', ∃ row ∈ store.filteredRows arrival query rows,
    Shrinks row' row)

include hshrink

theorem report_countsNoLarger (bounds bounds' : ReportingBounds) :
    CountsNoLarger (store.report arrival query' bounds' rows') (store.report arrival query bounds rows) where
  totalCustomers := by
    have hcustomers : ((store.filteredRows arrival query' rows').map OutstandingRow.customerId) ⊆
        (store.filteredRows arrival query rows).map OutstandingRow.customerId := by
      intro customerId hcustomer
      obtain ⟨row', hrow', rfl⟩ := mem_map.1 hcustomer
      obtain ⟨row, hrow, hshrinks⟩ := hshrink row' hrow'
      exact hshrinks.customerId ▸ mem_map_of_mem hrow
    have hlength := ((nodup_filteredRows query' rows').subperm hcustomers).length_le
    rwa [length_map, length_map] at hlength
  totalInvoices := tally_le_of_shrink (nodup_filteredRows query' rows') hshrink
    (fun _ _ => Nat.zero_le _) fun _ _ hshrinks => hshrinks.invoicesCount
  blockedCount := length_filter_le_of_shrink (nodup_filteredRows query' rows') hshrink
    fun _ _ hshrinks hblocked => hshrinks.blocked.trans hblocked
  lateCount := length_filter_le_of_shrink (nodup_filteredRows query' rows') hshrink
    fun _ _ hshrinks hlate => hshrinks.status.trans hlate
  riskCount := length_filter_le_of_shrink (nodup_filteredRows query' rows') hshrink
    fun _ _ hshrinks hrisk => hshrinks.status.trans hrisk

theorem report_amountsNoLarger (bounds bounds' : ReportingBounds) :
    AmountsNoLarger (store.report arrival query' bounds' rows') (store.report arrival query bounds rows) where
  totalDueKd := tally_le_of_shrink (nodup_filteredRows query' rows') hshrink
    (fun row hrow => (due_nonneg row hrow).1) fun _ _ hshrinks => hshrinks.totalDueKd
  remainingDueKd := tally_le_of_shrink (nodup_filteredRows query' rows') hshrink
    (fun row hrow => (due_nonneg row hrow).2) fun _ _ hshrinks => hshrinks.remainingDueKd

end Narrowed

theorem Shrinks.refl (row : OutstandingRow) : Shrinks row row :=
  ⟨rfl, rfl, rfl, rfl, rfl, rfl, le_rfl, le_rfl, le_rfl⟩

theorem summaryNoLarger_of_subset {own own' : List OutstandingRow}
    {summary' : OutstandingDriverSummary} (hsummary : Summarizes own summary)
    (hsummary' : Summarizes own' summary') (hnodup : (own'.map OutstandingRow.customerId).Nodup)
    (hsub : own' ⊆ own) (hnonneg : ∀ row ∈ own, 0 ≤ row.totalDueKd)
    (hdriver : driverKey summary.driverId = driverKey summary'.driverId) :
    SummaryNoLarger summary' summary where
  driver := hdriver
  customers := by
    rw [hsummary.customers, hsummary'.customers]
    exact (hnodup.of_map.subperm hsub).length_le
  invoices := by
    rw [hsummary.invoices, hsummary'.invoices]
    exact tally_le_of_keyed OutstandingRow.customerId hnodup
      (fun row hrow => ⟨row, hsub hrow, rfl, le_rfl⟩) fun _ _ => Nat.zero_le _
  totalRemainingKd := by
    rw [hsummary.totalRemainingKd, hsummary'.totalRemainingKd]
    exact tally_le_of_keyed OutstandingRow.customerId hnodup
      (fun row hrow => ⟨row, hsub hrow, rfl, le_rfl⟩) hnonneg
  maxDaysLate := by
    obtain ⟨row, hrow, hdays⟩ := hsummary'.maxDaysLate.1
    exact hsummary.maxDaysLate.2 ⟨row, hsub hrow, hdays⟩

theorem report_driversNoLarger {query query' : OutstandingQuery} (hadds : AddsFilters query query')
    (rows : List Order) (bounds bounds' : ReportingBounds) :
    DriversNoLarger (store.report arrival query' bounds' rows) (store.report arrival query bounds rows) := by
  have hsub : store.filteredRows arrival query' rows ⊆ store.filteredRows arrival query rows := by
    intro row hrow
    obtain ⟨hall, hpasses⟩ := mem_filteredRows.1 hrow
    exact mem_filteredRows.2 ⟨hall, passesFilters_of_added hadds (Shrinks.refl row) hpasses⟩
  intro summaries' hsummaries' summary' hsummary'
  obtain rfl := Option.some.inj hsummaries'
  have hsums : SummarizesDrivers _ (store.computeCanonicalOutstandingDriverSummaries
      (store.filteredRows arrival query rows)) := computeCanonicalOutstandingDriverSummaries_sums _
  have hsummarizes' := (computeCanonicalOutstandingDriverSummaries_sums _).sums summary' hsummary'
  obtain ⟨row, hrow, hdriver⟩ := hsummarizes'.driverId
  obtain ⟨summary, hsummary, hkey⟩ := hsums.covers row (hsub (mem_filter.1 hrow).1)
  rw [hdriver] at hkey
  have hsummarizes := hsums.sums summary hsummary
  rw [hkey] at hsummarizes
  refine ⟨_, rfl, summary, hsummary, ?_⟩
  apply summaryNoLarger_of_subset hsummarizes hsummarizes' _ _ _ hkey
  · exact (nodup_filteredRows query' rows).sublist (filter_sublist.map _)
  · exact filter_subset _ hsub
  · exact fun row hrow => (due_nonneg row (mem_filter.1 hrow).1).1

/-! ## What the service answers -/

def matchingOrders (store : Store) (arrival : Arrival) (query : OutstandingQuery)
    (actor : Option JwtUser) : List Order :=
  match resolveReportingBounds store.visibility.env.now query.fromDate query.toDate with
  | .ok bounds => store.aggOrders arrival query actor bounds
  | .error _ => []

def Answers (store : Store) (arrival : Arrival) (query : OutstandingQuery)
    (actor : Option JwtUser) (response : OutstandingResponse) : Prop :=
  ∃ snapshots after, (store.listOutstanding arrival query actor).Commits snapshots response after

variable {arrival arrival' : Arrival} {query query' : OutstandingQuery}
  {actor : Option JwtUser} {response response' : OutstandingResponse}
  {snapshots after : SnapshotTable}

theorem commits_listOutstanding
    (hcommits : (store.listOutstanding arrival query actor).Commits snapshots response after) :
    ∃ bounds, resolveReportingBounds store.visibility.env.now query.fromDate query.toDate =
        .ok bounds ∧
      store.matchingOrders arrival query actor = store.aggOrders arrival query actor bounds ∧
      (store.matchingOrders arrival query actor = [] ∧ (∃ snapshot between,
            (store.getCollectionsSnapshot arrival).Commits snapshots snapshot between ∧
            response = store.emptyResponse bounds snapshot.totalRemainingDebtKd
              snapshot.totalRemainingDebtKd) ∨
        store.matchingOrders arrival query actor ≠ [] ∧
          response = store.report arrival.report query bounds (store.matchingOrders arrival query actor)) := by
  unfold listOutstanding at hcommits
  unfold matchingOrders
  cases hbounds : resolveReportingBounds store.visibility.env.now query.fromDate query.toDate with
  | error err =>
      rw [hbounds] at hcommits
      exact absurd hcommits commits_throw.1
  | ok bounds =>
      rw [hbounds] at hcommits
      obtain ⟨snapshot, between, hsnapshot, hread⟩ := commits_bind.1 hcommits
      obtain ⟨found, later, hfound, hrest⟩ := commits_bind.1 hread
      obtain rfl := VisibilityStore.commits_read hfound
      refine ⟨bounds, rfl, rfl, ?_⟩
      by_cases hnone : store.aggOrders arrival query actor bounds = []
      · rw [if_pos hnone] at hrest
        exact .inl ⟨hnone, snapshot, between, hsnapshot, (commits_pure.1 hrest).1.symm⟩
      · rw [if_neg hnone] at hrest
        obtain ⟨_, _, _, hreport⟩ := commits_bind.1 hrest
        exact .inr ⟨hnone, (commits_pure.1 hreport).1.symm⟩

theorem sums_of_answers (hanswers : store.Answers arrival query actor response)
    (hsome : store.matchingOrders arrival query actor ≠ []) : SumsOverRows response := by
  obtain ⟨snapshots, after, hcommits⟩ := hanswers
  obtain ⟨bounds, _, _, ⟨hnone, _⟩ | ⟨_, rfl⟩⟩ := commits_listOutstanding hcommits
  · exact absurd hnone hsome
  · exact report_sums ..

theorem reports_of_answers (hqueues : SameQueues arrival' arrival)
    (hnarrows : Narrows store actor query query')
    (hanswers : store.Answers arrival query actor response)
    (hanswers' : store.Answers arrival' query' actor response')
    (hsome : store.matchingOrders arrival' query' actor ≠ []) :
    ∃ order bounds bounds' rows rows', response = store.report order query bounds rows ∧
      response' = store.report order query' bounds' rows' ∧
      ∀ row' ∈ store.filteredRows order query' rows', ∃ row ∈ store.filteredRows order query rows,
        Shrinks row' row := by
  obtain ⟨_, _, hcommits⟩ := hanswers
  obtain ⟨_, _, hcommits'⟩ := hanswers'
  obtain ⟨bounds, hbounds, hfound, hcase⟩ := commits_listOutstanding hcommits
  obtain ⟨bounds', hbounds', hfound', hcase'⟩ := commits_listOutstanding hcommits'
  have hsub := aggOrders_subset hnarrows hbounds hbounds' hqueues
  rcases hcase with ⟨hnone, _⟩ | ⟨_, rfl⟩
  · rw [hfound] at hnone
    rw [hfound'] at hsome
    exact absurd (subset_nil.1 (hnone ▸ hsub)) hsome
  rcases hcase' with ⟨hnone, _⟩ | ⟨_, rfl⟩
  · exact absurd hnone hsome
  rw [hqueues.report]
  refine ⟨arrival.report, bounds, bounds', _, _, rfl, rfl, fun row' hrow' => ?_⟩
  rw [hfound] at *
  rw [hfound'] at *
  exact filteredRows_shrink hnarrows.toAddsFilters aggOrders_stored hsub (nodup_aggOrders ..) hrow'

theorem empty_of_answers (hanswers : store.Answers arrival query actor response)
    (hnone : store.matchingOrders arrival query actor = []) :
    ∃ bounds amount, response = store.emptyResponse bounds amount amount := by
  obtain ⟨_, _, hcommits⟩ := hanswers
  obtain ⟨bounds, _, _, ⟨_, snapshot, _, _, rfl⟩ | ⟨hsome, _⟩⟩ := commits_listOutstanding hcommits
  · exact ⟨bounds, snapshot.totalRemainingDebtKd, rfl⟩
  · exact absurd hnone hsome

theorem counts_of_answers (hqueues : SameQueues arrival' arrival)
    (hnarrows : Narrows store actor query query')
    (hanswers : store.Answers arrival query actor response)
    (hanswers' : store.Answers arrival' query' actor response') :
    CountsNoLarger response' response := by
  by_cases hsome : store.matchingOrders arrival' query' actor = []
  · obtain ⟨_, _, rfl⟩ := empty_of_answers hanswers' hsome
    exact ⟨Nat.zero_le _, Nat.zero_le _, Nat.zero_le _, Nat.zero_le _, Nat.zero_le _⟩
  · obtain ⟨_, bounds, bounds', _, _, rfl, rfl, hshrink⟩ :=
      reports_of_answers hqueues hnarrows hanswers hanswers' hsome
    exact report_countsNoLarger hshrink bounds bounds'

theorem amounts_of_answers (hqueues : SameQueues arrival' arrival)
    (hnarrows : Narrows store actor query query')
    (hanswers : store.Answers arrival query actor response)
    (hanswers' : store.Answers arrival' query' actor response')
    (hsome : store.matchingOrders arrival' query' actor ≠ []) :
    AmountsNoLarger response' response := by
  obtain ⟨_, bounds, bounds', _, _, rfl, rfl, hshrink⟩ :=
    reports_of_answers hqueues hnarrows hanswers hanswers' hsome
  exact report_amountsNoLarger hshrink bounds bounds'

theorem drivers_of_answers (hadds : AddsRowFilters query query')
    (hanswers : store.Answers arrival query actor response)
    (hanswers' : store.Answers arrival query' actor response') :
    DriversNoLarger response' response := by
  obtain ⟨_, _, hcommits⟩ := hanswers
  obtain ⟨_, _, hcommits'⟩ := hanswers'
  have hsame : store.matchingOrders arrival query' actor =
      store.matchingOrders arrival query actor := by
    unfold matchingOrders aggOrders OutstandingQuery.branchWhere OutstandingQuery.effectiveBranchId
      OutstandingQuery.driver OutstandingQuery.customer
    rw [hadds.sameFrom, hadds.sameTo, hadds.sameBranch, hadds.sameDriver, hadds.sameCustomer]
  obtain ⟨bounds, _, _, hcase⟩ := commits_listOutstanding hcommits
  obtain ⟨bounds', _, _, hcase'⟩ := commits_listOutstanding hcommits'
  rw [hsame] at hcase'
  rcases hcase' with ⟨_, _, _, _, rfl⟩ | ⟨hsome, rfl⟩
  · exact fun summaries hsummaries => nomatch hsummaries
  rcases hcase with ⟨hnone, _⟩ | ⟨_, rfl⟩
  · exact absurd hnone hsome
  · exact report_driversNoLarger hadds.toAddsFilters _ bounds bounds'

end Store

/-! ## What a caller may rely on -/

def RowsAddUp (store : Store) : Prop :=
  ∀ arrival query actor response, store.Answers arrival query actor response → SumsOverRows response

/-- Over every two runs further filters leave no more. -/
def FiltersNarrow (store : Store)
    (NoLarger : OutstandingResponse → OutstandingResponse → Prop) : Prop :=
  ∀ arrival query query' actor response response', AddsFilters query query' →
    store.Answers arrival query actor response → store.Answers arrival query' actor response' →
    NoLarger response' response

def Raises (store : Store) (actor : Option JwtUser) (query query' : OutstandingQuery) : Prop :=
  AddsFilters query query' ∧ ∃ arrival response response',
    store.Answers arrival query actor response ∧ store.Answers arrival query' actor response' ∧
      store.matchingOrders arrival query' actor ≠ [] ∧ response.totalDueKd < response'.totalDueKd

/-- Sums over the rows, and no more for further filters between runs that see the orders they
share in one order, as long as orders are found; where none is, no rows, counters of zero and the
debt of the company. -/
structure ReportsOpenOrders (store : Store) : Prop where
  sums : ∀ arrival query actor response, store.Answers arrival query actor response →
    store.matchingOrders arrival query actor ≠ [] → SumsOverRows response
  companyDebt : ∀ arrival query actor snapshots response after,
    (store.listOutstanding arrival query actor).Commits snapshots response after →
    store.matchingOrders arrival query actor = [] →
    ∃ bounds snapshot between,
      (store.getCollectionsSnapshot arrival).Commits snapshots snapshot between ∧
      response = store.emptyResponse bounds snapshot.totalRemainingDebtKd
        snapshot.totalRemainingDebtKd
  counts : ∀ arrival arrival' query query' actor response response', SameQueues arrival' arrival →
    Narrows store actor query query' → store.Answers arrival query actor response →
    store.Answers arrival' query' actor response' → CountsNoLarger response' response
  amounts : ∀ arrival arrival' query query' actor response response', SameQueues arrival' arrival →
    Narrows store actor query query' → store.Answers arrival query actor response →
    store.Answers arrival' query' actor response' →
    store.matchingOrders arrival' query' actor ≠ [] → AmountsNoLarger response' response
  drivers : ∀ arrival query query' actor response response', AddsRowFilters query query' →
    store.Answers arrival query actor response → store.Answers arrival query' actor response' →
    DriversNoLarger response' response

theorem listOutstanding_reportsOpenOrders (store : Store) : ReportsOpenOrders store where
  sums := fun _ _ _ _ hanswers hsome => Store.sums_of_answers hanswers hsome
  companyDebt := by
    intro arrival query actor snapshots response after hcommits hnone
    obtain ⟨bounds, _, _, ⟨_, snapshot, between, hsnapshot, hresponse⟩ | ⟨hsome, _⟩⟩ :=
      Store.commits_listOutstanding hcommits
    · exact ⟨bounds, snapshot, between, hsnapshot, hresponse⟩
    · exact absurd hnone hsome
  counts := fun _ _ _ _ _ _ _ hqueues hnarrows hanswers hanswers' =>
    Store.counts_of_answers hqueues hnarrows hanswers hanswers'
  amounts := fun _ _ _ _ _ _ _ hqueues hnarrows hanswers hanswers' hsome =>
    Store.amounts_of_answers hqueues hnarrows hanswers hanswers' hsome
  drivers := fun _ _ _ _ _ _ hadds hanswers hanswers' =>
    Store.drivers_of_answers hadds hanswers hanswers'

theorem Store.exists_answers (store : Store) (arrival : Arrival) (query : OutstandingQuery)
    (actor : Option JwtUser) (p : OutstandingResponse → Prop) [DecidablePred p]
    (snapshots : SnapshotTable)
    (hruns : ((store.listOutstanding arrival query actor).outcome snapshots).1.toOption.any
      fun response => p response) :
    ∃ response, store.Answers arrival query actor response ∧ p response := by
  obtain ⟨response, hresult, hp⟩ := (Option.any_eq_true ..).1 hruns
  exact ⟨response, ⟨snapshots, _, commits_of_returns hresult⟩, of_decide_eq_true hp⟩

theorem raises_of_runs {store : Store} {actor : Option JwtUser} {query query' : OutstandingQuery}
    (arrival : Arrival) (snapshots : SnapshotTable) (hadds : AddsFilters query query')
    (amount amount' : ℤ)
    (hruns : ((store.listOutstanding arrival query actor).outcome snapshots).1.toOption.any
      fun response => response.totalDueKd = amount)
    (hruns' : ((store.listOutstanding arrival query' actor).outcome snapshots).1.toOption.any
      fun response => response.totalDueKd = amount')
    (hlt : amount < amount') (hsome : store.matchingOrders arrival query' actor ≠ []) :
    Raises store actor query query' := by
  obtain ⟨response, hanswers, hamount⟩ := store.exists_answers arrival query actor _ snapshots hruns
  obtain ⟨response', hanswers', hamount'⟩ :=
    store.exists_answers arrival query' actor _ snapshots hruns'
  refine ⟨hadds, arrival, response, response', hanswers, hanswers', hsome, ?_⟩
  rwa [hamount, hamount']

namespace Sample

def storeOf (orders : Table Order.id) (entries : List JournalEntry) : Store where
  visibility :=
    { SafariLaundry.Sample.visibilityStore none with
      env := { Env.default with useJournalAsSource := true, now := 1 }
      db :=
        { SafariLaundry.Sample.shop ⟨0, 0⟩ orders with
          users := [⟨"ali", .DRIVER, some "branch", by decide⟩,
            ⟨"omar", .DRIVER, some "branch", by decide⟩]
          journal := entries }
      journal := entries.mapIdx fun n entry => ⟨toString n, n, entry⟩ }
  customers := ⟨[⟨"customer", none, "51234567", none, false⟩], by decide⟩
  drivers := ⟨[⟨"ali", "Ali"⟩, ⟨"omar", "Omar"⟩], by decide⟩
  statuses := .empty
  subscriptions := .empty
  subscriptionOrder := ⟨id, fun _ => .refl _⟩
  lower := id
  lower_empty := rfl
  collate := fun a b => a ≤ b

def twoDrivers : Store :=
  storeOf
    ⟨[{ SafariLaundry.Sample.order "first" with driverId := some "ali" },
      { SafariLaundry.Sample.order "second" with driverId := some "omar", createdAt := 2 }],
      by decide⟩
    [(paymentLinkReceivableEntry "first" "customer" 20000).input.entry,
      (paymentLinkReceivableEntry "second" "customer" 30000).input.entry]

def cashCredit : Store :=
  storeOf
    ⟨[{ SafariLaundry.Sample.order "paid" with
        driverId := some "ali", cashStatus := .PAID_TO_DRIVER, posPaymentMethod := .CASH },
      { SafariLaundry.Sample.order "small" with driverId := some "ali" },
      { SafariLaundry.Sample.order "large" with driverId := some "ali" }], by decide⟩
    [(paymentLinkReceivableEntry "paid" "customer" 20000).input.entry,
      (paymentLinkReceivableEntry "small" "customer" 20000).input.entry,
      (paymentLinkReceivableEntry "large" "customer" 30000).input.entry,
      ⟨"PAYMENT", [.word "PAYMENT"], "owner", some "customer", none,
        [⟨.CASH, 20000, 0⟩, ⟨.ACCOUNTS_RECEIVABLE, 0, 20000⟩]⟩]

def arrival : Arrival :=
  let stored : RowOrder Order := ⟨id, fun _ => .refl _⟩
  ⟨stored, stored, stored, stored, stored, stored⟩

def everyone : OutstandingQuery := ⟨none, none, none, none, none, none, none, none⟩

def ofAli : OutstandingQuery := { everyone with driverId := some "ali" }

def ofOmar : OutstandingQuery := { everyone with driverId := some "omar" }

def ofStranger : OutstandingQuery := { ofAli with customerId := some "stranger" }

def ofBranch : OutstandingQuery := { everyone with branchId := some "branch" }

def sinceEver : OutstandingQuery := { everyone with fromDate := some (some 0) }

def untilLater : OutstandingQuery := { sinceEver with toDate := some (some 9) }

end Sample

theorem totalsOfRows_fails :
    ¬ RowsAddUp Sample.twoDrivers ∧ ¬ FiltersNarrow Sample.twoDrivers AmountsNoLarger ∧
      ¬ FiltersNarrow Sample.twoDrivers DriversNoLarger ∧
      Raises Sample.cashCredit none Sample.everyone Sample.ofBranch ∧
      Raises Sample.twoDrivers (some ⟨"ali", .DRIVER, none⟩) Sample.everyone Sample.ofOmar ∧
      Raises Sample.twoDrivers none Sample.sinceEver Sample.untilLater := by
  obtain ⟨all, hall, homar⟩ := Sample.twoDrivers.exists_answers Sample.arrival Sample.everyone none
    (fun response => ∀ summaries ∈ response.driverSummaries, ∀ summary ∈ summaries,
      summary.driverId = some "omar") .empty (by decide +kernel)
  obtain ⟨ali, hali, hamount, summaries, hsummaries, summary, hsummary, hdriver⟩ :=
    Sample.twoDrivers.exists_answers Sample.arrival Sample.ofAli none
      (fun response => response.totalDueKd = 20000 ∧ ∃ summaries ∈ response.driverSummaries,
        ∃ summary ∈ summaries, summary.driverId = some "ali") .empty (by decide +kernel)
  obtain ⟨stranger, hstranger, hcompany, hrows⟩ :=
    Sample.twoDrivers.exists_answers Sample.arrival Sample.ofStranger none
      (fun response => response.totalDueKd = 50000 ∧ response.rows = []) .empty (by decide +kernel)
  refine ⟨fun hsums => ?_, fun hnarrow => ?_, fun hnarrow => ?_, ?_, ?_, ?_⟩
  · have hdue := (hsums _ _ _ _ hstranger).totalDueKd
    rw [hcompany, hrows] at hdue
    exact absurd hdue (by decide)
  · have hadds : AddsFilters Sample.ofAli Sample.ofStranger :=
      ⟨.inl rfl, .inl rfl, .inl rfl, .inr rfl, .inl rfl, .inl rfl, .inl rfl, .inr rfl⟩
    have hdue := (hnarrow _ _ _ _ _ _ hadds hali hstranger).totalDueKd
    rw [hcompany, hamount] at hdue
    exact absurd hdue (by decide)
  · have hadds : AddsFilters Sample.everyone Sample.ofAli :=
      ⟨.inl rfl, .inl rfl, .inl rfl, .inl rfl, .inl rfl, .inl rfl, .inl rfl, .inr rfl⟩
    obtain ⟨_, hwider, other, hother, hno⟩ :=
      hnarrow _ _ _ _ _ _ hadds hall hali summaries hsummaries summary hsummary
    have hsame := hno.driver
    rw [homar _ hwider other hother, hdriver] at hsame
    exact absurd hsame (by decide)
  · exact raises_of_runs Sample.arrival .empty
      ⟨.inl rfl, .inl rfl, .inl rfl, .inl rfl, .inl rfl, .inl rfl, .inl rfl, .inr rfl⟩ 10000 30000
      (by decide +kernel) (by decide +kernel) (by decide) (by decide +kernel)
  · exact raises_of_runs Sample.arrival .empty
      ⟨.inl rfl, .inl rfl, .inl rfl, .inl rfl, .inl rfl, .inl rfl, .inl rfl, .inr rfl⟩ 20000 30000
      (by decide +kernel) (by decide +kernel) (by decide) (by decide +kernel)
  · exact raises_of_runs Sample.arrival .empty
      ⟨.inr rfl, .inl rfl, .inl rfl, .inl rfl, .inl rfl, .inl rfl, .inl rfl, .inr rfl⟩ 20000 50000
      (by decide +kernel) (by decide +kernel) (by decide) (by decide +kernel)

end Outstanding

end SafariLaundry
