import SafariLaundry.PartialPayment
import SafariLaundry.Subscription

/-!
# Debt paid off oldest invoice first

Selling a plan and collecting at the call center walk the open invoices with the same
allocation.  An invoice that owes no more than the tolerance is passed over, so one that
is younger may be served before it.
-/

namespace SafariLaundry

open Library Library.Bookkeeping Library.Transaction Library.Allocation List

/-- The invoice got all that was open on it. -/
def FullyCovered (queue : List (Uuid × ℤ)) (slices : List (Slice Uuid)) (id : Uuid) : Prop :=
  ∃ slice ∈ slices, slice.item = id ∧ (id, slice.amount) ∈ queue

/-- Invoices that owe more than `least` are served oldest first, each for no more than it
owes, and those that are fully covered are closed. -/
structure FifoSettled (least : ℤ) (queue : List (Uuid × ℤ)) (slices : List (Slice Uuid))
    (paid : ℤ) (orders orders' : Table Order.id) : Prop where
  within : ∀ slice ∈ slices, ∃ owed, (slice.item, owed) ∈ queue ∧ 0 < slice.amount ∧
    slice.amount ≤ owed
  oldestFirst : ∀ older entry younger, queue = older ++ entry :: younger →
    entry.1 ∈ slices.map Slice.item → ∀ first ∈ older, least < first.2 →
    FullyCovered queue slices first.1
  waiting : ∀ entry ∈ queue, (orders.find? entry.1).map Order.cashStatus = some .UNPAID
  closed : ∀ id, FullyCovered queue slices id →
    (orders'.find? id).map Order.cashStatus = some .PAID_TO_DRIVER
  others : ∀ id, ¬ FullyCovered queue slices id → orders'.find? id = orders.find? id
  spent : allocated slices ≤ paid

theorem fullyCovered_iff {tolerance budget : ℤ} {queue : List (Uuid × ℤ)}
    (hdistinct : (queue.map Prod.fst).Nodup) (id : Uuid) :
    FullyCovered queue (allocate tolerance queue budget) id ↔
      id ∈ Activation.closedInvoiceIds (allocate tolerance queue budget) := by
  unfold FullyCovered Activation.closedInvoiceIds
  rw [mem_map]
  constructor
  · rintro ⟨slice, hslice, rfl, hqueued⟩
    obtain ⟨owed, howed, _, _, hclears⟩ := slice_of_allocate hslice
    have hsame := inj_on_of_nodup_map hdistinct hqueued howed rfl
    have hamount : slice.amount = owed := congrArg Prod.snd hsame
    exact ⟨slice, mem_filter.2 ⟨hslice, decide_eq_true (hclears.2 hamount)⟩, rfl⟩
  · rintro ⟨slice, hcleared, rfl⟩
    obtain ⟨hslice, hclears⟩ := mem_filter.1 hcleared
    obtain ⟨owed, howed, _, _, hfull⟩ := slice_of_allocate hslice
    have hamount := hfull.1 (of_decide_eq_true hclears)
    exact ⟨slice, hslice, rfl, by rwa [hamount]⟩

theorem fifoSettled_of_allocate {queue : List (Uuid × ℤ)} {paid : ℤ}
    {orders orders' : Table Order.id} (hpaid : 0 ≤ paid)
    (hdistinct : (queue.map Prod.fst).Nodup)
    (hwaiting : ∀ entry ∈ queue, (orders.find? entry.1).map Order.cashStatus = some .UNPAID)
    (hclosed : ∀ id, FullyCovered queue (allocate invoiceRemainingTolerance queue paid) id →
      (orders'.find? id).map Order.cashStatus = some .PAID_TO_DRIVER)
    (hothers : ∀ id, ¬ FullyCovered queue (allocate invoiceRemainingTolerance queue paid) id →
      orders'.find? id = orders.find? id) :
    FifoSettled invoiceRemainingTolerance queue
      (allocate invoiceRemainingTolerance queue paid) paid orders orders' := by
  constructor
  · intro slice hslice
    obtain ⟨owed, howed, _, hle, _⟩ := slice_of_allocate hslice
    exact ⟨owed, howed, allocate_pos hslice, hle⟩
  · rintro older entry younger rfl hserved first hfirst howes
    have heligible : Eligible invoiceRemainingTolerance first.2 :=
      ⟨lt_trans (by decide : (0 : ℤ) < invoiceRemainingTolerance) howes, howes⟩
    exact ⟨_, clears_older hdistinct hserved first hfirst heligible, rfl,
      mem_append_left _ hfirst⟩
  · exact hwaiting
  · exact hclosed
  · exact hothers
  · rw [allocated_allocate hpaid]
    exact min_le_left _ _

theorem DebtCollection.tally_rows (collection : DebtCollection) (slices : List (Slice Uuid))
    (residual : ℤ) :
    tally MirrorDebtLedgerInput.amount (collection.rows slices residual) =
      allocated slices + max 0 residual := by
  unfold DebtCollection.rows
  rw [tally_append, tally_map]
  have hslices : tally (fun slice => (collection.sliceRow slice).amount) slices =
      allocated slices := rfl
  rw [hslices]
  by_cases hpos : 0 < residual
  · rw [if_pos hpos, tally_cons, tally_nil, add_zero, max_eq_right hpos.le]
    rfl
  · rw [if_neg hpos, tally_nil, max_eq_left (not_lt.1 hpos)]

theorem openInvoices_unpaid {customerId : Uuid} {db : Db} {order : Order}
    (hopen : order ∈ openInvoices customerId db) :
    order ∈ db.orders.rows ∧ order.customerId = customerId ∧ order.cashStatus = .UNPAID := by
  unfold openInvoices at hopen
  rw [mem_insertionSort] at hopen
  obtain ⟨hstored, hmatches⟩ := mem_filter.1 hopen
  obtain ⟨hcustomer, hunpaid, _⟩ := of_decide_eq_true hmatches
  exact ⟨hstored, hcustomer, hunpaid⟩

/-! ## Selling a plan -/

namespace Activation

variable {env : Env} {activation : Activation} {read : Db}

theorem queue_ids (env : Env) (activation : Activation) (read : Db) :
    (activation.queue env read).map Prod.fst =
      (openInvoices activation.params.customerId read).map Order.id := by
  simp [queue]

theorem queue_distinct (env : Env) (activation : Activation) (read : Db) :
    ((activation.queue env read).map Prod.fst).Nodup := by
  rw [queue_ids]
  exact openInvoices_ids_nodup activation.params.customerId read

theorem stored_of_queued {id : Uuid} (hqueued : id ∈ (activation.queue env read).map Prod.fst) :
    ∃ order, read.orders.find? id = some order ∧
      order.customerId = activation.params.customerId ∧ order.cashStatus = .UNPAID := by
  rw [queue_ids] at hqueued
  obtain ⟨order, hopen, rfl⟩ := mem_map.1 hqueued
  obtain ⟨hstored, hcustomer, hunpaid⟩ := openInvoices_unpaid hopen
  exact ⟨order, Table.find?_of_mem hstored, hcustomer, hunpaid⟩

theorem fifoSettled_of_none (hpaid : 0 ≤ activation.debtPaid) {orders : Table Order.id}
    (horders : read.orders = orders) :
    FifoSettled invoiceRemainingTolerance (activation.queue env read) [] activation.debtPaid
      orders orders := by
  constructor
  · exact forall_mem_nil _
  · exact fun _ _ _ _ hserved => absurd hserved not_mem_nil
  · intro entry hentry
    obtain ⟨order, hfound, _, hunpaid⟩ := stored_of_queued (mem_map_of_mem hentry)
    rw [← horders, hfound, Option.map_some, hunpaid]
  · rintro id ⟨slice, hslice, _⟩
    cases hslice
  · exact fun _ _ => rfl
  · exact hpaid

theorem find?_closed (orders : Table Order.id) (customerId : Uuid) (slices : List (Slice Uuid))
    (id : Uuid) :
    (orders.updateWhere
        (fun order => order.customerId = customerId ∧ order.id ∈ closedInvoiceIds slices)
        paidToDriver paidToDriver_id).find? id =
      (orders.find? id).map fun order =>
        if order.customerId = customerId ∧ order.id ∈ closedInvoiceIds slices then
          paidToDriver order
        else order :=
  Table.find?_updateWhere _ _ _ _ _

theorem fifoSettled (hpaid : 0 ≤ activation.debtPaid) {orders : Table Order.id}
    (horders : read.orders = orders) :
    FifoSettled invoiceRemainingTolerance (activation.queue env read)
      (activation.slices env read) activation.debtPaid orders
      (orders.updateWhere
        (fun order => order.customerId = activation.params.customerId ∧
          order.id ∈ closedInvoiceIds (activation.slices env read))
        paidToDriver paidToDriver_id) := by
  subst horders
  by_cases hwalk : activation.params.autoCloseInvoices = true ∧ 0 < activation.debtPaid
  · have hslices : activation.slices env read =
      allocate invoiceRemainingTolerance (activation.queue env read) activation.debtPaid :=
      if_pos hwalk
    have hdistinct := queue_distinct env activation read
    rw [hslices]
    apply fifoSettled_of_allocate hpaid hdistinct
    · intro entry hentry
      obtain ⟨order, hfound, _, hunpaid⟩ := stored_of_queued (mem_map_of_mem hentry)
      rw [hfound, Option.map_some, hunpaid]
    · intro id hcovered
      have hid := (fullyCovered_iff hdistinct id).1 hcovered
      obtain ⟨slice, _, _, hqueued⟩ := hcovered
      obtain ⟨order, hfound, hcustomer, _⟩ := stored_of_queued (mem_map_of_mem hqueued)
      have hkey := Table.key_of_find? hfound
      rw [find?_closed, hfound, Option.map_some, Option.map_some, if_pos ⟨hcustomer, hkey ▸ hid⟩]
      rfl
    · intro id hopen
      have hid := mt (fullyCovered_iff hdistinct id).2 hopen
      rw [find?_closed]
      cases hfound : read.orders.find? id with
      | none => rfl
      | some order =>
          rw [Option.map_some, if_neg fun hboth => hid (Table.key_of_find? hfound ▸ hboth.2)]
  · have hslices : activation.slices env read = [] := if_neg hwalk
    rw [hslices, Table.updateWhere_eq_self fun order _ hclosed => absurd hclosed.2
      not_mem_nil]
    exact fifoSettled_of_none hpaid rfl

end Activation

/-- What a committed sale read of the open invoices, and how it paid them before the
prepaid balance is reconciled. -/
structure SaleAllocated (env : Env) (params : ActivateSubscriptionParams)
    (result : SubscriptionActivationSettlement) (activation : Activation) (db read mid : Db) :
    Prop where
  params_eq : activation.params = params
  readOrders : read.orders = db.orders
  readJournal :
    read.journal = postAll JournalEntry.sourceRef db.journal activation.fundingEntries
  debtSettled : result.debtSettled = activation.debtPaid
  closedInvoiceIds :
    result.closedInvoiceIds = Activation.closedInvoiceIds (activation.slices env read)
  settled : FifoSettled invoiceRemainingTolerance (activation.queue env read)
    (activation.slices env read) activation.debtPaid db.orders mid.orders
  conserved : tally MirrorDebtLedgerInput.amount
      (activation.repayment.rows (activation.slices env read)
        (activation.debtPaid - allocated (activation.slices env read))) =
    activation.debtPaid

theorem saleAllocated {env : Env} {params : ActivateSubscriptionParams}
    {result : SubscriptionActivationSettlement} {db db' : Db} (henv : env.StoreHealthy)
    (hcommits : (activateSubscriptionPlan env params).Commits db result db') :
    ∃ activation read mid, SaleAllocated env params result activation db read mid ∧
      (db' = mid ∨ ∃ paid, (autoReconcileUnpaidInvoicesFromPrepaidBalanceTx env
        params.customerId (some params.performedByUserId)).Commits mid paid db') := by
  obtain ⟨activation, mid, hactivated, hreconcile⟩ :=
    commits_activateSubscriptionPlan henv hcommits
  obtain ⟨branched, hprepared⟩ := hactivated.prepared
  obtain ⟨opened, slices, hwritten, hclosed, hopenedOrders, hopenedJournal, -⟩ :=
    hactivated.written
  obtain ⟨read, horders, hjournal, rfl⟩ := hwritten.reads
  have hpaid : 0 ≤ activation.debtPaid := by
    apply Activation.debtPaid_nonneg _ hprepared.credit_nonneg
    rw [hprepared.activation_eq]
    exact operationalDebt_nonneg params.customerId db
  have hsettled := @Activation.fifoSettled env activation read hpaid _ (horders.trans hopenedOrders)
  rw [← hopenedOrders, ← hwritten.orders, hopenedOrders] at hsettled
  refine ⟨activation, read, mid, ⟨?_, horders.trans hopenedOrders, hopenedJournal ▸ hjournal,
    hactivated.debtSettled, hclosed, hsettled, ?_⟩, hreconcile⟩
  · rw [hprepared.activation_eq]
  · have hspent := hsettled.spent
    rw [DebtCollection.tally_rows, max_eq_right (by omega)]
    omega

/-! ## Collecting at the call center -/

namespace PartialDebtPaymentParams

variable {env : Env} {params : PartialDebtPaymentParams} {db : Db}

theorem queue_ids (env : Env) (params : PartialDebtPaymentParams) (db : Db) :
    (params.queue env db).map Prod.fst = (openInvoices params.customerId db).map Order.id := by
  simp [queue]

theorem queue_distinct (env : Env) (params : PartialDebtPaymentParams) (db : Db) :
    ((params.queue env db).map Prod.fst).Nodup := by
  rw [queue_ids]
  exact openInvoices_ids_nodup params.customerId db

theorem stored_of_queued {id : Uuid} (hqueued : id ∈ (params.queue env db).map Prod.fst) :
    ∃ order, db.orders.find? id = some order ∧ order.cashStatus = .UNPAID := by
  rw [queue_ids] at hqueued
  obtain ⟨order, hopen, rfl⟩ := mem_map.1 hqueued
  obtain ⟨hstored, _, hunpaid⟩ := openInvoices_unpaid hopen
  exact ⟨order, Table.find?_of_mem hstored, hunpaid⟩

end PartialDebtPaymentParams

def Order.closedBy (method : PosPaymentMethod) (order : Order) : Order :=
  { order with cashStatus := .PAID_TO_DRIVER, posPaymentMethod := method }

theorem commits_closeInvoice {method : PosPaymentMethod} {slice : Slice Uuid} {db db' : Db}
    (hcommits : (closeInvoice method slice).Commits db () db') (id : Uuid) :
    db'.orders.find? id = (db.orders.find? id).map fun order =>
      if slice.clears = true ∧ slice.item = id then order.closedBy method else order := by
  simp only [closeInvoice, commits_whenever, updateOrder, commits_bind, commits_fetch,
    commits_modify] at hcommits
  rcases hcommits with ⟨hclears, _, _, ⟨_, rfl⟩, rfl⟩ | ⟨hkept, rfl⟩
  · by_cases hid : slice.item = id
    · subst hid
      simp only [hclears, and_self, if_true]
      exact Table.find?_update_self _ _ _ _
    · simp only [hid, and_false, if_false, Option.map_id']
      exact Table.find?_update_of_ne _ _ _ (Ne.symm hid)
  · cases db.orders.find? id with
    | none => rfl
    | some order => rw [Option.map_some, if_neg fun hboth => hkept hboth.1]

theorem find?_closeInvoices {method : PosPaymentMethod} {slices : List (Slice Uuid)}
    {db db' : Db} {a : Unit} (hcommits : (slices.forM (closeInvoice method)).Commits db a db')
    (id : Uuid) :
    db'.orders.find? id = (db.orders.find? id).map fun order =>
      if id ∈ Activation.closedInvoiceIds slices then order.closedBy method else order := by
  induction slices generalizing db with
  | nil =>
      rw [commits_forM_nil] at hcommits
      subst hcommits
      cases db.orders.find? id with
      | none => rfl
      | some order => rfl
  | cons slice rest ih =>
      obtain ⟨mid, hfirst, hrest⟩ := commits_forM_cons.1 hcommits
      have hmem : id ∈ Activation.closedInvoiceIds (slice :: rest) ↔
          (slice.clears = true ∧ slice.item = id) ∨ id ∈ Activation.closedInvoiceIds rest := by
        unfold Activation.closedInvoiceIds
        by_cases hclears : slice.clears = true
        · rw [filter_cons_of_pos (by simpa using hclears), map_cons, mem_cons]
          simp only [hclears, true_and, eq_comm]
        · rw [filter_cons_of_neg (by simpa using hclears)]
          exact (or_iff_right fun hboth => hclears hboth.1).symm
      rw [ih hrest, commits_closeInvoice hfirst id]
      cases db.orders.find? id with
      | none => rfl
      | some order =>
          simp only [Option.map_some, hmem]
          by_cases hhere : slice.clears = true ∧ slice.item = id
          · by_cases hlater : id ∈ Activation.closedInvoiceIds rest
            · rw [if_pos hhere, if_pos hlater, if_pos (.inl hhere)]
              rfl
            · rw [if_pos hhere, if_neg hlater, if_pos (.inl hhere)]
          · rw [if_neg hhere]
            simp only [hhere, false_or]

theorem commits_partialPayment_orders {env : Env} {params : PartialDebtPaymentParams}
    {result : PartialDebtPaymentResult} {db db' : Db} (henv : env.StoreHealthy)
    (hcommits : (recordPartialDebtPayment env params).Commits db result db') (id : Uuid) :
    db'.orders.find? id = (db.orders.find? id).map fun order =>
      if id ∈ Activation.closedInvoiceIds (params.slices env db) then
        order.closedBy params.paymentMethod
      else order := by
  obtain ⟨start, final, hstart, hfinal, hclose⟩ :=
    (commits_recordPartialDebtPayment henv hcommits).closed
  rw [hfinal, ← hstart]
  exact find?_closeInvoices hclose id

theorem partialPayment_fifoSettled {env : Env} {params : PartialDebtPaymentParams}
    {result : PartialDebtPaymentResult} {db db' : Db} (henv : env.StoreHealthy)
    (hcommits : (recordPartialDebtPayment env params).Commits db result db') :
    FifoSettled invoiceRemainingTolerance (params.queue env db) (params.slices env db)
      params.total db.orders db'.orders := by
  have hpaid := commits_recordPartialDebtPayment henv hcommits
  have horders := commits_partialPayment_orders henv hcommits
  have hdistinct := params.queue_distinct env db
  have htotal : 0 ≤ params.total := add_nonneg hpaid.amount_nonneg hpaid.discount_nonneg
  apply fifoSettled_of_allocate htotal hdistinct
  · intro entry hentry
    obtain ⟨order, hfound, hunpaid⟩ :=
      PartialDebtPaymentParams.stored_of_queued (mem_map_of_mem hentry)
    rw [hfound, Option.map_some, hunpaid]
  · intro id hcovered
    have hid := (fullyCovered_iff hdistinct id).1 hcovered
    obtain ⟨slice, _, _, hqueued⟩ := hcovered
    obtain ⟨order, hfound, _⟩ :=
      PartialDebtPaymentParams.stored_of_queued (mem_map_of_mem hqueued)
    rw [horders id, hfound, Option.map_some, Option.map_some]
    exact congrArg some (congrArg Order.cashStatus (if_pos hid))
  · intro id hopen
    have hid := mt (fullyCovered_iff hdistinct id).2 hopen
    rw [horders id]
    cases db.orders.find? id with
    | none => rfl
    | some order => exact congrArg some (if_neg hid)

/-- Sales and collections pay open invoices off oldest first, passing over those that owe
no more than the tolerance, and close exactly those they cover.  The payment rows of a sale,
and those of a collection without a discount, add up to the debt that was paid. -/
theorem invoices_paid_oldest_first {env : Env} (henv : env.StoreHealthy) :
    (∀ params result db db', (activateSubscriptionPlan env params).Commits db result db' →
      ∃ activation read mid, SaleAllocated env params result activation db read mid ∧
        (db' = mid ∨ ∃ paid, (autoReconcileUnpaidInvoicesFromPrepaidBalanceTx env
          params.customerId (some params.performedByUserId)).Commits mid paid db')) ∧
    ∀ params result db db', (recordPartialDebtPayment env params).Commits db result db' →
      FifoSettled invoiceRemainingTolerance (params.queue env db) (params.slices env db)
        params.total db.orders db'.orders ∧
      (params.discountKd = 0 → tally MirrorDebtLedgerInput.amount
            ((params.collection result.transactionHistoryId).rows (params.slices env db)
              (params.amountKd - allocated (params.slices env db))) =
          params.amountKd) := by
  constructor
  · exact fun params result db db' hcommits => saleAllocated henv hcommits
  · intro params result db db' hcommits
    have hsettled := partialPayment_fifoSettled henv hcommits
    refine ⟨hsettled, fun hnone => ?_⟩
    have hspent := hsettled.spent
    have htotal : params.total = params.amountKd + params.discountKd := rfl
    rw [DebtCollection.tally_rows, max_eq_right (by omega)]
    omega

namespace Sample

def tinyInvoiceShop : Db :=
  { shop ⟨0, 50000⟩ ⟨[{ order "old" with totalPrice := 5, createdAt := 1 },
      { order "young" with createdAt := 2 }], by decide⟩ with
    journal := [(paymentLinkReceivableEntry "old" "customer" 5).input.entry,
      (paymentLinkReceivableEntry "young" "customer" 20000).input.entry] }

def youngPaid : Except ServiceError PartialDebtPaymentResult × Db :=
  (recordPartialDebtPayment journalEnv (counterPayment 20000 0)).outcome tinyInvoiceShop

end Sample

theorem invoices_paid_oldest_first_sample :
    FifoSettled invoiceRemainingTolerance
        ((Sample.counterPayment 20000 0).queue Sample.journalEnv Sample.tinyInvoiceShop)
        ((Sample.counterPayment 20000 0).slices Sample.journalEnv Sample.tinyInvoiceShop) 20000
        Sample.tinyInvoiceShop.orders Sample.youngPaid.2.orders ∧
      ∃ activation read mid, SaleAllocated Env.default Sample.planSale
          ⟨200000, 0, 250000, 0, 0, 230000, 0, 250000, 50000, "subscription-0", none, 0, [],
            ["order"]⟩ activation (Sample.planShop ⟨0, 0⟩) read mid ∧
        (Sample.debtFreeSale.2 = mid ∨
          ∃ paid, (autoReconcileUnpaidInvoicesFromPrepaidBalanceTx Env.default "customer"
            (some "owner")).Commits mid paid Sample.debtFreeSale.2) :=
  ⟨((@invoices_paid_oldest_first Sample.journalEnv fun _ => rfl).2
      (Sample.counterPayment 20000 0) ⟨20000, 0, 20000, 50000, 30000, 0, .KNET, "history-0"⟩
      Sample.tinyInvoiceShop Sample.youngPaid.2 (commits_of_returns (by decide +kernel))).1,
    (@invoices_paid_oldest_first Env.default fun _ => rfl).1 Sample.planSale _
      (Sample.planShop ⟨0, 0⟩) Sample.debtFreeSale.2 (commits_of_returns (by decide +kernel))⟩

/-- The older invoice is passed over and the younger one paid. -/
theorem invoices_paid_oldest_first_fails :
    ¬ ∀ (env : Env) (params : PartialDebtPaymentParams) (result : PartialDebtPaymentResult)
      (db db' : Db), env.StoreHealthy → params.discountKd = 0 →
      (recordPartialDebtPayment env params).Commits db result db' →
      FifoSettled 0 (params.queue env db) (params.slices env db) params.total db.orders
        db'.orders := by
  intro hall
  have hsettled := hall Sample.journalEnv (Sample.counterPayment 20000 0)
    ⟨20000, 0, 20000, 50000, 30000, 0, .KNET, "history-0"⟩ Sample.tinyInvoiceShop
    Sample.youngPaid.2 (fun _ => rfl) rfl (commits_of_returns (by decide +kernel))
  obtain ⟨slice, hslice, hitem, _⟩ := hsettled.oldestFirst [("old", 5)] ("young", 20000) []
    (by decide +kernel) (by decide +kernel) ("old", 5) (mem_singleton_self _) (by decide)
  have hnone : ∀ slice ∈ (Sample.counterPayment 20000 0).slices Sample.journalEnv
      Sample.tinyInvoiceShop, slice.item ≠ "old" := by decide +kernel
  exact hnone slice hslice hitem

end SafariLaundry
