import SafariLaundry.Library.Selection
import SafariLaundry.PrepaidReconcile

/-!
# Which orders the prepaid balance settles

Every pass asks for the oldest order again.  What it settled has left the queue by then,
and nothing else in the queue has moved: the passes walk down the queue that was there at
the start, for as long as the orders have a price and the balance covers it.
-/

namespace SafariLaundry

open Library Library.Bookkeeping Library.Transaction List

/-! ## The queue -/

def Order.Reconcilable (env : Env) (customerId : Uuid) (order : Order) : Prop :=
  order.customerId = customerId ∧ order.cashStatus = .UNPAID ∧ order.status ≠ .CANCELED ∧
    order.walletSettledAt = none ∧ order.posPaymentBundleId = none ∧
    env.orderLockedElsewhere order.id = false
  deriving Decidable

def Order.NoYounger (first second : Order) : Prop :=
  first.createdAt ≤ second.createdAt
  deriving Decidable

instance : IsTrans Order Order.NoYounger := ⟨fun _ _ _ hfirst hsecond => le_trans hfirst hsecond⟩

instance : Std.Total Order.NoYounger := ⟨fun first second => le_total first.createdAt second.createdAt⟩

def prepaidQueue (env : Env) (customerId : Uuid) (db : Db) : List Order :=
  (db.orders.rows.filter fun order => order.Reconcilable env customerId).insertionSort
    Order.NoYounger

theorem nextPrepaidInvoice_eq (env : Env) (customerId : Uuid) (db : Db) :
    nextPrepaidInvoice env customerId db = (prepaidQueue env customerId db).head? := rfl

section Queue

variable {env : Env} {customerId performerId : Uuid} {db db' : Db} {order : Order}

theorem mem_prepaidQueue : order ∈ prepaidQueue env customerId db ↔
    order ∈ db.orders.rows ∧ order.Reconcilable env customerId := by
  unfold prepaidQueue
  rw [mem_insertionSort, mem_filter, decide_eq_true_eq]

theorem prepaidQueue_distinct (env : Env) (customerId : Uuid) (db : Db) :
    ((prepaidQueue env customerId db).map Order.id).Nodup := by
  have hfiltered := db.orders.keysDistinct.sublist
    ((filter_sublist (p := fun order => order.Reconcilable env customerId)).map Order.id)
  exact ((perm_insertionSort Order.NoYounger _).map Order.id).nodup_iff.2 hfiltered

def Order.reconciled (env : Env) (subscription : Option CustomerSubscription) (order : Order) :
    Order :=
  settledRow env subscription (closedFromPrepaid order)

theorem taggedOrders_rows (orderId : Uuid) (orders : Table Order.id)
    (subscription : Option CustomerSubscription) :
    (taggedOrders orderId orders subscription).rows = orders.rows.map fun row =>
      if row.id = orderId then
        { row with
          subscriptionId :=
            (subscription.map CustomerSubscription.id).orElse fun _ => row.subscriptionId }
      else row := by
  cases subscription with
  | none =>
      have hsame : ∀ row : Order, (if row.id = orderId then row else row) = row :=
        fun row => ite_self row
      exact (map_id'' hsame orders.rows).symm
  | some subscription => rfl

theorem settledOrders_rows (env : Env) (call : SettlementCall) (db : Db) :
    (settledOrders env call db).rows = db.orders.rows.map fun row =>
      if row.id = call.orderId then
        settledRow env (activeSubscription call.order.customerId db) row
      else row := by
  unfold settledOrders
  rw [Table.rows_updateWhere, taggedOrders_rows, map_map]
  apply map_congr_left
  intro row _
  rw [Function.comp_apply]
  by_cases hid : row.id = call.orderId
  · rw [if_pos hid, if_pos hid]
    by_cases hopen : row.walletSettledAt = none
    · unfold settledRow
      rw [hopen, Option.getD_none]
      exact if_pos ⟨hid, rfl⟩
    · obtain ⟨instant, hsettled⟩ := Option.ne_none_iff_exists'.1 hopen
      have hkept : row.walletSettledAt = some (row.walletSettledAt.getD env.now) := by
        rw [hsettled, Option.getD_some]
      exact (if_neg fun hboth => hopen hboth.2).trans
        (congrArg (fun settledAt => { row with
          subscriptionId := ((activeSubscription call.order.customerId db).map
            CustomerSubscription.id).orElse fun _ => row.subscriptionId
          walletSettledAt := settledAt }) hkept)
  · rw [if_neg hid, if_neg hid, if_neg fun hboth => hid hboth.1]

theorem settledRow_map_update (env : Env) (orders : Table Order.id) (orderId : Uuid)
    (subscription : Option CustomerSubscription) :
    ((orders.update orderId closedFromPrepaid closedFromPrepaid_id).rows.map fun row =>
        if row.id = orderId then settledRow env subscription row else row) =
      orders.rows.map fun row =>
        if row.id = orderId then row.reconciled env subscription else row := by
  refine (map_map).trans (map_congr_left fun row _ => ?_)
  rw [Function.comp_apply]
  by_cases hid : row.id = orderId
  · rw [if_pos hid, if_pos hid]
    exact if_pos hid
  · rw [if_neg hid, if_neg hid, if_neg hid]

theorem PrepaidPass.orders (hpass : PrepaidPass env customerId performerId order db db') :
    ∃ subscription, db'.orders.rows = db.orders.rows.map fun row =>
      if row.id = order.id then row.reconciled env subscription else row := by
  obtain ⟨mid, hsettled, hsale⟩ := hpass.completes
  have hsame : db'.orders = mid.orders := by
    cases hroute : (prepaidCompletion order performerId).sale with
    | none =>
        rw [hroute] at hsale
        rw [hsale]
    | some route =>
        rw [hroute] at hsale
        obtain ⟨_, _, rfl⟩ := hsale
        rfl
  rw [hsame, hsettled.orders, settledOrders_rows]
  exact ⟨_, settledRow_map_update env db.orders order.id _⟩

theorem Order.Reconcilable.of_not_reconciled {subscription : Option CustomerSubscription}
    {row : Order} : (if row.id = order.id then row.reconciled env subscription else row).Reconcilable
      env customerId ↔ row.id ≠ order.id ∧ row.Reconcilable env customerId := by
  by_cases hid : row.id = order.id
  · rw [if_pos hid]
    constructor
    · rintro ⟨_, _, _, hunsettled, _⟩
      cases hunsettled
    · rintro ⟨hother, _⟩
      exact absurd hid hother
  · rw [if_neg hid]
    exact ⟨fun hopen => ⟨hid, hopen⟩, fun hboth => hboth.2⟩

theorem PrepaidPass.queue (hpass : PrepaidPass env customerId performerId order db db')
    {rest : List Order} (hqueue : prepaidQueue env customerId db = order :: rest) :
    prepaidQueue env customerId db' = rest := by
  obtain ⟨subscription, hrows⟩ := hpass.orders
  have hfilter : (db'.orders.rows.filter fun row => row.Reconcilable env customerId) =
      (db.orders.rows.filter fun row => row.Reconcilable env customerId).filter
        fun row => row.id ≠ order.id := by
    rw [hrows, filter_map, filter_filter]
    have hcongr : ∀ row ∈ db.orders.rows,
        ((fun row : Order => decide (row.Reconcilable env customerId)) ∘ fun row =>
          if row.id = order.id then row.reconciled env subscription else row) row =
        (decide (row.id ≠ order.id) && decide (row.Reconcilable env customerId)) := by
      intro row _
      rw [← Bool.decide_and]
      exact decide_eq_decide.2 Order.Reconcilable.of_not_reconciled
    rw [filter_congr hcongr]
    refine (map_congr_left fun row hrow => ?_).trans (map_id _)
    have hother := (Bool.and_eq_true _ _ ▸ (mem_filter.1 hrow).2).1
    exact if_neg (of_decide_eq_true hother)
  have hdistinct := prepaidQueue_distinct env customerId db
  rw [hqueue, map_cons, nodup_cons] at hdistinct
  calc prepaidQueue env customerId db'
      = (prepaidQueue env customerId db).filter fun row => row.id ≠ order.id := by
        unfold prepaidQueue
        rw [hfilter, filter_insertionSort]
    _ = rest.filter fun row => row.id ≠ order.id := by
        rw [hqueue]
        exact filter_cons_of_neg (by simp)
    _ = rest := by
        refine filter_eq_self.2 fun row hrow => decide_eq_true ?_
        rintro hsame
        exact hdistinct.1 (hsame ▸ mem_map_of_mem hrow)

theorem stops_of_reconcilePass
    (hcommits : (reconcilePass env customerId performerId).Commits db none db') :
    ∀ next ∈ (prepaidQueue env customerId db).head?,
      ¬ (0 < next.totalPrice ∧ next.totalPrice ≤ (db.wallets customerId).balance) := by
  intro next hnext
  rw [← nextPrepaidInvoice_eq] at hnext
  unfold reconcilePass at hcommits
  simp only [commits_bind, commits_reads] at hcommits
  obtain ⟨_, _, ⟨rfl, rfl⟩, _, _, ⟨rfl, rfl⟩, hrest⟩ := hcommits
  rw [Option.mem_def.1 hnext] at hrest
  rintro ⟨hpositive, haffordable⟩
  simp only at hrest
  rw [if_neg (by omega)] at hrest
  simp only [commits_bind, commits_pure] at hrest
  obtain ⟨_, _, _, _, _, _, hpaid, _⟩ := hrest
  cases hpaid

theorem PrepaidPass.wallets (hpass : PrepaidPass env customerId performerId order db db') :
    db'.wallets = Function.update db.wallets customerId
      ⟨(db.wallets customerId).balance - order.totalPrice, (db.wallets customerId).debt⟩ := by
  obtain ⟨_, hcustomer, _⟩ := mem_of_nextPrepaidInvoice hpass.picked
  subst hcustomer
  have hfull : ((prepaidCompletion order performerId).call env db.wallets).PaidInFull :=
    SettlementCall.paidInFull rfl rfl hpass.positive hpass.affordable
  have hwallets := hpass.completes.wallets_journal.1
  have hbalance := hfull.newBalance
  have hdebt := hfull.newDebt
  refine hwallets.trans ?_
  change Function.update db.wallets order.customerId
    ⟨((prepaidCompletion order performerId).call env db.wallets).newBalance,
      ((prepaidCompletion order performerId).call env db.wallets).newDebt⟩ = _
  rw [hbalance, hdebt]
  rfl

theorem PrepaidPass.users (hpass : PrepaidPass env customerId performerId order db db') :
    db'.users = db.users := by
  obtain ⟨mid, hsettled, hsale⟩ := hpass.completes
  cases hroute : (prepaidCompletion order performerId).sale with
  | none =>
      rw [hroute] at hsale
      rw [hsale, hsettled.users]
  | some route =>
      rw [hroute] at hsale
      obtain ⟨_, _, rfl⟩ := hsale
      exact hsettled.users

end Queue

structure PaysFor (payable : Order → Prop) (queue : List Order) (balance : ℤ) (limit : ℕ)
    (settled : List Order) : Prop where
  oldest : settled <+: queue
  payable : ∀ order ∈ settled, payable order
  fits : tally Order.totalPrice settled ≤ max balance 0
  within : settled.length ≤ limit

/-- The longest such part. -/
structure PaysForMost (payable : Order → Prop) (queue : List Order) (balance : ℤ) (limit : ℕ)
    (settled : List Order) : Prop where
  pays : PaysFor payable queue balance limit settled
  most : ∀ other, PaysFor payable queue balance limit other → other.length ≤ settled.length

def Order.Priced (order : Order) : Prop := 0 < order.totalPrice
  deriving Decidable

section Longest

variable {queue settled : List Order} {order : Order} {balance : ℤ} {limit : ℕ}

theorem paysFor_nil (payable : Order → Prop) (queue : List Order) (balance : ℤ) (limit : ℕ) :
    PaysFor payable queue balance limit [] where
  oldest := nil_prefix
  payable := fun _ hmem => nomatch hmem
  fits := le_max_right _ _
  within := Nat.zero_le _

theorem paysForMost_zero (queue : List Order) (balance : ℤ) :
    PaysForMost Order.Priced queue balance 0 [] :=
  ⟨paysFor_nil _ _ _ _, fun _ hother => hother.within⟩

theorem tally_priced_nonneg (hpriced : ∀ row ∈ settled, row.Priced) :
    0 ≤ tally Order.totalPrice settled :=
  tally_nonneg_of_mem fun row hrow => le_of_lt (hpriced row hrow)

theorem PaysFor.head (hpays : PaysFor Order.Priced queue balance limit (order :: settled)) :
    order ∈ queue.head? ∧ order.Priced ∧ order.totalPrice ≤ balance := by
  have hpriced := hpays.payable order (mem_cons_self ..)
  have hrest := tally_priced_nonneg fun row hrow =>
    hpays.payable row (mem_cons_of_mem order hrow)
  have hfits := hpays.fits
  rw [tally_cons] at hfits
  unfold Order.Priced at hpriced
  obtain ⟨later, hqueue⟩ := hpays.oldest
  rw [← hqueue]
  exact ⟨rfl, hpriced, by omega⟩

theorem paysForMost_nil (hstops : ∀ next ∈ queue.head?, ¬ (next.Priced ∧ next.totalPrice ≤ balance)) :
    PaysForMost Order.Priced queue balance limit [] := by
  refine ⟨paysFor_nil _ _ _ _, fun other hother => ?_⟩
  cases other with
  | nil => exact le_rfl
  | cons first rest => exact absurd hother.head.2 (hstops first hother.head.1)

theorem PaysForMost.cons (hpriced : order.Priced) (haffordable : order.totalPrice ≤ balance)
    (hmost : PaysForMost Order.Priced queue (balance - order.totalPrice) limit settled) :
    PaysForMost Order.Priced (order :: queue) balance (limit + 1) (order :: settled) := by
  have hpositive : 0 < order.totalPrice := hpriced
  have hfits := hmost.pays.fits
  have hwithin := hmost.pays.within
  refine ⟨⟨?_, ?_, ?_, ?_⟩, fun other hother => ?_⟩
  · exact cons_prefix_cons.2 ⟨rfl, hmost.pays.oldest⟩
  · exact forall_mem_cons.2 ⟨hpriced, hmost.pays.payable⟩
  · rw [tally_cons]
    omega
  · exact Nat.succ_le_succ hwithin
  · cases other with
    | nil => exact Nat.zero_le _
    | cons first rest =>
        obtain ⟨hhead, _, _⟩ := hother.head
        obtain rfl : order = first := Option.some.inj hhead
        have hotherFits := hother.fits
        rw [tally_cons] at hotherFits
        have hrest : PaysFor Order.Priced queue (balance - order.totalPrice) limit rest :=
          { oldest := (cons_prefix_cons.1 hother.oldest).2
            payable := fun row hrow => hother.payable row (mem_cons_of_mem order hrow)
            fits := by omega
            within := Nat.le_of_succ_le_succ hother.within }
        exact Nat.succ_le_succ (hmost.most rest hrest)

end Longest

/-- What reconciliation did: it settled the longest part of the queue that the balance pays
for, took its price from the balance, and left the debt and every other order alone. -/
structure PrepaidSettled (payable : Order → Prop) (env : Env) (customerId : Uuid) (limit : ℕ)
    (paid : List Uuid) (db db' : Db) (settled : List Order) : Prop where
  most : PaysForMost payable (prepaidQueue env customerId db) (db.wallets customerId).balance
    limit settled
  paid : paid = settled.map Order.id
  wallets : db'.wallets = Function.update db.wallets customerId
    ⟨(db.wallets customerId).balance - tally Order.totalPrice settled, (db.wallets customerId).debt⟩
  closed : ∀ order ∈ settled, ∃ subscription, order.reconciled env subscription ∈ db'.orders.rows
  others : ∀ order ∈ db.orders.rows, order ∉ settled → order ∈ db'.orders.rows

section Passes

variable {env : Env} {customerId performerId : Uuid} {limit : ℕ} {db mid db' : Db}
  {order : Order} {settled : List Order} {paid : List Uuid}

theorem prepaidSettled_nil
    (hmost : PaysForMost Order.Priced (prepaidQueue env customerId db)
      (db.wallets customerId).balance limit []) :
    PrepaidSettled Order.Priced env customerId limit [] db db [] where
  most := hmost
  paid := rfl
  wallets := by
    rw [tally_nil, sub_zero]
    exact (Function.update_eq_self customerId db.wallets).symm
  closed := fun _ hmem => nomatch hmem
  others := fun _ hmem _ => hmem

theorem PrepaidPass.trans (hpass : PrepaidPass env customerId performerId order db mid)
    (hrest : PrepaidSettled Order.Priced env customerId limit paid mid db' settled) :
    PrepaidSettled Order.Priced env customerId (limit + 1) (order.id :: paid) db db'
      (order :: settled) := by
  obtain ⟨later, hqueue⟩ : ∃ later, prepaidQueue env customerId db = order :: later := by
    have hpicked := hpass.picked
    rw [nextPrepaidInvoice_eq] at hpicked
    exact ⟨_, (cons_head?_tail hpicked).symm⟩
  obtain ⟨subscription, hrows⟩ := hpass.orders
  have hstored := (mem_prepaidQueue.1 (hqueue ▸ mem_cons_self ..)).1
  have hwallet : mid.wallets customerId =
      ⟨(db.wallets customerId).balance - order.totalPrice, (db.wallets customerId).debt⟩ := by
    rw [hpass.wallets, Function.update_self]
  have hmost := hrest.most
  rw [hpass.queue hqueue, hwallet] at hmost
  have hopen : ∀ row ∈ settled, row.walletSettledAt = none := fun row hrow => by
    have hmem := hrest.most.pays.oldest.subset hrow
    exact (mem_prepaidQueue.1 hmem).2.2.2.2.1
  refine ⟨?_, ?_, ?_, ?_, ?_⟩
  · rw [hqueue]
    exact hmost.cons hpass.positive hpass.affordable
  · rw [hrest.paid, map_cons]
  · rw [hrest.wallets, hwallet, hpass.wallets, Function.update_idem, tally_cons, sub_sub]
  · refine forall_mem_cons.2 ⟨⟨subscription, hrest.others _ ?_ ?_⟩, hrest.closed⟩
    · rw [hrows]
      exact mem_map.2 ⟨order, hstored, if_pos rfl⟩
    · intro hsettled
      cases hopen _ hsettled
  · intro row hrow hnot
    rw [mem_cons, not_or] at hnot
    refine hrest.others row ?_ hnot.2
    rw [hrows]
    refine mem_map.2 ⟨row, hrow, if_neg fun hsame => hnot.1 ?_⟩
    exact Table.row_eq_of_key_eq hrow hstored hsame

theorem commits_reconcilePasses_settled (henv : env.StoreHealthy)
    (hcommits : (reconcilePasses env customerId performerId limit).Commits db paid db') :
    ∃ settled, PrepaidSettled Order.Priced env customerId limit paid db db' settled := by
  induction limit generalizing db paid with
  | zero =>
      rw [reconcilePasses, commits_pure] at hcommits
      obtain ⟨rfl, rfl⟩ := hcommits
      exact ⟨[], prepaidSettled_nil (paysForMost_zero _ _)⟩
  | succ limit ih =>
      rw [reconcilePasses, commits_bind] at hcommits
      obtain ⟨result, mid, hpass, hrest⟩ := hcommits
      rcases commits_reconcilePass henv hpass with ⟨rfl, rfl⟩ | ⟨order, rfl, hdone⟩
      · rw [commits_pure] at hrest
        obtain ⟨rfl, rfl⟩ := hrest
        exact ⟨[], prepaidSettled_nil (paysForMost_nil (stops_of_reconcilePass hpass))⟩
      · simp only [commits_bind, commits_pure] at hrest
        obtain ⟨rest, _, hrest, rfl, rfl⟩ := hrest
        obtain ⟨settled, hsettled⟩ := ih hrest
        exact ⟨order :: settled, hdone.trans hsettled⟩

end Passes

/-! ## Reconciliation returns -/

def MaySettle (performerId : Uuid) (db : Db) : Prop :=
  ∃ actor ∈ findUser performerId db, actor.safariRole ∈ settlementRoles

structure SettlementCall.Prepaid (call : SettlementCall) : Prop where
  method : call.order.posPaymentMethod = some .SUBSCRIPTION_WALLET
  extra : call.extra = .none
  positive : 0 < call.order.totalPrice
  affordable : call.order.totalPrice ≤ call.wallet.balance

namespace SettlementCall.Prepaid

variable {env : Env} {call : SettlementCall} {db : Db}

theorem trusted (hprepaid : call.Prepaid) : call.extra.Trusted := by
  rw [hprepaid.extra]
  exact fun _ hdeclared => nomatch hdeclared

theorem debtPaydown (hprepaid : call.Prepaid) : call.debtPaydown = 0 := by
  unfold SettlementCall.debtPaydown
  rw [hprepaid.extra]
  rfl

theorem externalPayment (hprepaid : call.Prepaid) : call.externalPayment = 0 := by
  have hinternal : ¬ call.ExternalCoversShortfall := by
    unfold ExternalCoversShortfall
    simp [hprepaid.method]
  unfold SettlementCall.externalPayment
  rw [if_neg fun hboth => hinternal hboth.2.1]
  exact hprepaid.debtPaydown

theorem recordedShortfall (hprepaid : call.Prepaid) (hlegacy : call.trueAccounting = false) :
    call.recordedShortfall = 0 := by
  have hfull := paidInFull hprepaid.method hprepaid.extra hprepaid.positive hprepaid.affordable
  have hcovered : ¬ 0 < call.shortfall := by
    rw [hfull.shortfall]
    exact lt_irrefl 0
  unfold SettlementCall.recordedShortfall addedInvoiceDebt
  rw [hlegacy, if_neg Bool.false_ne_true, if_neg fun hboth => hcovered hboth.2]

theorem addedSubscriptionDebt (hprepaid : call.Prepaid) : call.addedSubscriptionDebt = 0 := by
  have hfull := paidInFull hprepaid.method hprepaid.extra hprepaid.positive hprepaid.affordable
  have hleft : ¬ call.newBalance < 0 := by
    have haffordable := hprepaid.affordable
    rw [hfull.newBalance]
    omega
  unfold SettlementCall.addedSubscriptionDebt
  refine if_neg ?_
  rintro ⟨_, hdeeper⟩
  rw [if_neg hleft] at hdeeper
  split_ifs at hdeeper <;> omega

theorem returnsAt_recordIssuance (henv : env.StoreHealthy) (hopen : env.PeriodOpen)
    (hactor : call.actorId ≠ "") : ReturnsAt db (recordIssuance env call) := by
  refine ReturnsAt.bind (returnsAt_reads _) fun _ _ _ => ReturnsAt.whenever fun _ => ?_
  exact PairPosting.returnsAt_appendSafe henv hopen hactor
    (by simp [issuance, invoiceIssuanceEntry, invoiceIssuedRef])

theorem returnsAt_recordShortfall (hprepaid : call.Prepaid) :
    ReturnsAt db (recordShortfall env call) := by
  refine ReturnsAt.whenever fun hrecorded => ReturnsAt.bind ?_ fun _ _ _ => returnsAt_modify _
  refine ReturnsAt.whenever fun hlegacy => ?_
  rw [hprepaid.recordedShortfall hlegacy] at hrecorded
  exact absurd hrecorded (lt_irrefl 0)

theorem returnsAt_recordSubscriptionOveruse (hprepaid : call.Prepaid) :
    ReturnsAt db (recordSubscriptionOveruse env call) := by
  refine ReturnsAt.whenever fun hadded => ?_
  rw [hprepaid.addedSubscriptionDebt] at hadded
  exact absurd hadded (lt_irrefl 0)

theorem returnsAt_assertDebtLedgerPaymentWrite (hactor : call.actorId ≠ "") :
    ReturnsAt db (assertDebtLedgerPaymentWrite call.actorId
      [.word "PAYMENT", .word "WALLET", .id call.orderId, .word "APPLIED"]) := by
  refine ReturnsAt.bind (returnsAt_require _ (cons_ne_nil _ _)) fun _ _ _ => ?_
  refine ReturnsAt.bind (returnsAt_require _ hactor) fun _ _ _ => returnsAt_require _ ?_
  exact ⟨["PAYMENT", "WALLET"], by decide, rfl, (by decide : 2 < 4)⟩

theorem returnsAt_recordWalletAbsorption (henv : env.StoreHealthy) (hopen : env.PeriodOpen)
    (hactor : call.actorId ≠ "") : ReturnsAt db (recordWalletAbsorption env call) := by
  refine ReturnsAt.whenever fun _ => ReturnsAt.bind
    (returnsAt_assertDebtLedgerPaymentWrite hactor) fun _ _ _ => ?_
  apply PairPosting.returnsAt_appendSafe henv hopen
  · unfold absorption
    by_cases htrue : call.trueAccounting = true
    · rw [if_pos htrue]
      exact hactor
    · rw [if_neg htrue]
      exact hactor
  · unfold absorption
    by_cases htrue : call.trueAccounting = true
    · simp [htrue, walletAbsorptionEntryV3, walletAbsorptionV3Ref]
    · simp [htrue, walletAbsorptionEntry, walletAbsorptionRef]

theorem returnsAt_recordExternalPayment (hprepaid : call.Prepaid) :
    ReturnsAt db (recordExternalPayment env call) := by
  unfold recordExternalPayment
  rw [hprepaid.method]
  refine ReturnsAt.whenever fun hpaid => ?_
  rw [hprepaid.externalPayment] at hpaid
  exact absurd hpaid (lt_irrefl 0)

theorem returnsAt_recordDebtPaydown (hprepaid : call.Prepaid) :
    ReturnsAt db (recordDebtPaydown env call) := by
  refine ReturnsAt.whenever fun hpaid => ?_
  rw [hprepaid.debtPaydown] at hpaid
  exact absurd hpaid (lt_irrefl 0)

theorem returnsAt_tagOrderSubscription {orderId : Uuid} {subscription : Option CustomerSubscription}
    (hfound : db.orders.find? orderId ≠ none) :
    ReturnsAt db (tagOrderSubscription orderId subscription) := by
  cases subscription with
  | none => exact returnsAt_pure ()
  | some subscription =>
      exact ReturnsAt.bind (returnsAt_fetch _ hfound) fun _ _ _ => returnsAt_modify _

theorem returnsAt_settleLockedWallet (henv : env.StoreHealthy) (hopen : env.PeriodOpen)
    (hprepaid : call.Prepaid) (hactor : call.actorId ≠ "")
    (hfound : db.orders.find? call.orderId ≠ none) :
    ReturnsAt db (settleLockedWallet env call) := by
  unfold settleLockedWallet
  refine ReturnsAt.bind (returnsAt_require _ hprepaid.trusted) fun _ db₁ hrequired => ?_
  obtain ⟨_, rfl⟩ := commits_require.1 hrequired
  refine ReturnsAt.bind (returnsAt_modify _) fun _ db₂ hwallet => ?_
  obtain rfl := commits_modify.1 hwallet
  refine ReturnsAt.bind (returnsAt_reads _) fun subscription db₃ hread => ?_
  obtain ⟨_, rfl⟩ := commits_reads.1 hread
  refine ReturnsAt.bind (returnsAt_tagOrderSubscription hfound) fun _ _ _ => ?_
  refine ReturnsAt.bind (returnsAt_modify _) fun _ _ _ => ?_
  refine ReturnsAt.bind (returnsAt_recordIssuance henv hopen hactor) fun _ _ _ => ?_
  refine ReturnsAt.bind (returnsAt_recordShortfall hprepaid) fun _ _ _ => ?_
  refine ReturnsAt.bind (returnsAt_recordSubscriptionOveruse hprepaid) fun _ _ _ => ?_
  refine ReturnsAt.bind (returnsAt_recordWalletAbsorption henv hopen hactor) fun _ _ _ => ?_
  refine ReturnsAt.bind (returnsAt_modify _) fun _ _ _ => ?_
  refine ReturnsAt.bind (returnsAt_recordExternalPayment hprepaid) fun _ _ _ => ?_
  exact returnsAt_recordDebtPaydown hprepaid

end SettlementCall.Prepaid

theorem returnsAt_completeSale {route : SaleRoute} {order : Order} {performerId : Uuid} {db : Db} :
    ReturnsAt db (completeSale route order performerId) := by
  refine ReturnsAt.bind (returnsAt_modify _) fun _ _ _ => ?_
  refine ReturnsAt.bind (returnsAt_reads _) fun branchId _ _ => ?_
  unfold applyOrderStockDecrement
  cases (saleStockArgs route order performerId branchId).branchId with
  | none => exact returnsAt_pure ()
  | some branch =>
      refine ReturnsAt.bind (returnsAt_reads _) fun lines _ _ => ?_
      refine ReturnsAt.bind (returnsAt_reads _) fun _ _ _ => ReturnsAt.whenever fun _ => ?_
      refine ReturnsAt.forM fun line _ _ => ?_
      unfold decrementStockLine
      cases line.stockItemId with
      | none => exact returnsAt_pure ()
      | some item =>
          refine ReturnsAt.bind (returnsAt_reads _) fun _ _ _ => ReturnsAt.whenever fun _ => ?_
          exact returnsAt_modify _

section Returns

variable {env : Env} {customerId performerId : Uuid} {db : Db} {order : Order}

theorem returnsAt_walletSettlement (henv : env.StoreHealthy) (hopen : env.PeriodOpen)
    (hperformer : MaySettle performerId db) (hfound : db.orders.find? order.id ≠ none)
    (hpositive : 0 < order.totalPrice)
    (haffordable : order.totalPrice ≤ (db.wallets order.customerId).balance) :
    ReturnsAt db (applyOrderWalletSettlementForCompletedOrder env order.id performerId
      (some (prepaidCompletion order performerId).prefetch) .none) := by
  obtain ⟨actor, hactor, hrole⟩ := hperformer
  have hfetched : findUser performerId db ≠ none := by
    rw [Option.mem_def.1 hactor]
    exact Option.some_ne_none actor
  unfold applyOrderWalletSettlementForCompletedOrder
  refine ReturnsAt.bind (returnsAt_pure _) fun prefetch db₁ hprefetch => ?_
  obtain ⟨rfl, rfl⟩ := commits_pure.1 hprefetch
  rw [if_neg (by exact not_not.2 rfl)]
  refine ReturnsAt.bind (returnsAt_fetch _ hfetched) fun performer db₂ hfetch => ?_
  obtain ⟨hperformer, rfl⟩ := commits_fetch.1 hfetch
  obtain rfl : actor = performer := Option.some.inj (hactor.symm.trans hperformer)
  refine ReturnsAt.bind (returnsAt_require _ hrole) fun _ db₃ hrequired => ?_
  obtain ⟨_, rfl⟩ := commits_require.1 hrequired
  refine ReturnsAt.bind (returnsAt_modify _) fun _ db₄ hbranched => ?_
  obtain rfl := commits_modify.1 hbranched
  refine ReturnsAt.bind (returnsAt_require _ hpositive.le) fun _ db₅ hrequired => ?_
  obtain ⟨_, rfl⟩ := commits_require.1 hrequired
  refine ReturnsAt.bind (returnsAt_reads _) fun fresh db₆ hread => ?_
  obtain ⟨_, rfl⟩ := commits_reads.1 hread
  by_cases hsettled : fresh.bind Order.walletSettledAt ≠ none
  · rw [if_pos hsettled]
    exact returnsAt_pure ()
  · rw [if_neg hsettled]
    refine ReturnsAt.bind (returnsAt_reads _) fun wallet db₇ hread => ?_
    obtain ⟨rfl, rfl⟩ := commits_reads.1 hread
    have hkept : (originBranched order.customerId actor.branchId db).orders = db.orders ∧
        (originBranched order.customerId actor.branchId db).wallets = db.wallets := by
      cases actor.branchId <;> exact ⟨rfl, rfl⟩
    apply SettlementCall.Prepaid.returnsAt_settleLockedWallet henv hopen
    · refine ⟨rfl, rfl, hpositive, ?_⟩
      change order.totalPrice ≤
        ((originBranched order.customerId actor.branchId db).wallets order.customerId).balance
      rw [hkept.2]
      exact haffordable
    · exact actor.id_nonempty
    · change (originBranched order.customerId actor.branchId db).orders.find? order.id ≠ none
      rw [hkept.1]
      exact hfound

theorem returnsAt_settleCompleted (henv : env.StoreHealthy) (hopen : env.PeriodOpen)
    (hperformer : MaySettle performerId db) (hfound : db.orders.find? order.id ≠ none)
    (hpositive : 0 < order.totalPrice)
    (haffordable : order.totalPrice ≤ (db.wallets order.customerId).balance) :
    ReturnsAt db (settleCompleted env (prepaidCompletion order performerId)) := by
  have hsettles := returnsAt_walletSettlement henv hopen hperformer hfound hpositive haffordable
  refine ReturnsAt.bind hsettles fun _ _ _ => ?_
  cases (prepaidCompletion order performerId).sale with
  | none => exact returnsAt_pure ()
  | some route => exact returnsAt_completeSale

theorem returnsAt_reconcilePass (henv : env.StoreHealthy) (hopen : env.PeriodOpen)
    (hperformer : MaySettle performerId db) :
    ReturnsAt db (reconcilePass env customerId performerId) := by
  refine ReturnsAt.bind (returnsAt_reads _) fun wallet _ hread => ?_
  obtain ⟨rfl, rfl⟩ := commits_reads.1 hread
  refine ReturnsAt.bind (returnsAt_reads _) fun next _ hread => ?_
  obtain ⟨hnext, rfl⟩ := commits_reads.1 hread
  cases next with
  | none => exact returnsAt_pure none
  | some order =>
      obtain ⟨hstored, rfl, _⟩ := mem_of_nextPrepaidInvoice hnext
      have hfound := Table.find?_of_mem hstored
      have hupdated : (db.orders.update order.id closedFromPrepaid closedFromPrepaid_id).find?
          order.id ≠ none := by
        rw [Table.find?_update_self, hfound]
        exact Option.some_ne_none _
      by_cases hstops : (db.wallets order.customerId).balance ≤ 0 ∨ order.totalPrice ≤ 0 ∨
          (db.wallets order.customerId).balance < order.totalPrice
      · simp only [if_pos hstops]
        exact returnsAt_pure none
      · simp only [if_neg hstops]
        have hfetched : db.orders.find? order.id ≠ none := by
          rw [hfound]
          exact Option.some_ne_none order
        refine ReturnsAt.bind (ReturnsAt.bind (returnsAt_fetch _ hfetched)
          fun _ _ _ => returnsAt_modify _) fun _ mid hupdate => ?_
        simp only [updateOrder, commits_bind, commits_fetch, commits_modify] at hupdate
        obtain ⟨_, _, ⟨_, rfl⟩, rfl⟩ := hupdate
        have haffordable : order.totalPrice ≤ (db.wallets order.customerId).balance := by omega
        refine ReturnsAt.bind ?_ fun _ _ _ => returnsAt_pure _
        exact returnsAt_settleCompleted henv hopen hperformer hupdated (by omega) haffordable

theorem returnsAt_reconcilePasses (henv : env.StoreHealthy) (hopen : env.PeriodOpen) (limit : ℕ)
    (hperformer : MaySettle performerId db) :
    ReturnsAt db (reconcilePasses env customerId performerId limit) := by
  induction limit generalizing db with
  | zero => exact returnsAt_pure []
  | succ limit ih =>
      refine ReturnsAt.bind (returnsAt_reconcilePass henv hopen hperformer) fun paid mid hpass => ?_
      rcases commits_reconcilePass henv hpass with ⟨rfl, _⟩ | ⟨order, rfl, hdone⟩
      · exact returnsAt_pure []
      · have hkept : MaySettle performerId mid := by
          unfold MaySettle findUser
          rw [hdone.users]
          exact hperformer
        exact ReturnsAt.bind (ih hkept) fun _ _ _ => returnsAt_pure _

end Returns

/-- Reconciliation settles the longest part of the queue, oldest first and at most fifty orders,
whose orders have a price and fit into the balance.  It returns when the performer may settle
and no closed period stands in the way. -/
theorem prepaid_settles_oldest_first {env : Env} {customerId performerId : Uuid}
    {performedByUserId : Option Uuid} {db : Db} (henv : env.StoreHealthy)
    (hperformer : (performedByUserId.orElse fun _ => fallbackOwner db) = some performerId) :
    (∀ paid db', (autoReconcileUnpaidInvoicesFromPrepaidBalanceTx env customerId
        performedByUserId).Commits db paid db' →
      ∃ settled, PrepaidSettled Order.Priced env customerId prepaidReconcilePasses paid db db'
        settled) ∧
    (env.PeriodOpen → MaySettle performerId db →
      ∃ paid db', (autoReconcileUnpaidInvoicesFromPrepaidBalanceTx env customerId
        performedByUserId).Commits db paid db') := by
  constructor
  · intro paid db' hcommits
    unfold autoReconcileUnpaidInvoicesFromPrepaidBalanceTx at hcommits
    simp only [commits_bind, commits_reads] at hcommits
    obtain ⟨_, _, ⟨rfl, rfl⟩, hrest⟩ := hcommits
    rw [hperformer] at hrest
    exact commits_reconcilePasses_settled henv hrest
  · intro hopen hsettles
    apply ReturnsAt.exists_commits
    refine ReturnsAt.bind (returnsAt_reads _) fun owner _ hread => ?_
    obtain ⟨rfl, rfl⟩ := commits_reads.1 hread
    simp only [hperformer]
    exact returnsAt_reconcilePasses henv hopen _ hsettles

namespace Sample

def freePickup : Db :=
  shop ⟨30000, 0⟩ ⟨[{ order "pickup" with totalPrice := 0, createdAt := 1 },
    { order "order" with createdAt := 2 }], by decide⟩

/-- Orders of two, one and two dinars, and a balance of four. -/
def threeOrders : Db :=
  shop ⟨40000, 0⟩ ⟨[{ order "third" with createdAt := 3 },
    { order "second" with totalPrice := 10000, createdAt := 2 },
    { order "first" with createdAt := 1 }], by decide⟩

end Sample

theorem prepaid_settles_oldest_first_sample :
    (∀ paid db', (autoReconcileUnpaidInvoicesFromPrepaidBalanceTx Env.default "customer"
        none).Commits Sample.threeOrders paid db' →
      ∃ settled, PrepaidSettled Order.Priced Env.default "customer" prepaidReconcilePasses paid
        Sample.threeOrders db' settled) ∧
    ∃ paid db', (autoReconcileUnpaidInvoicesFromPrepaidBalanceTx Env.default "customer"
      none).Commits Sample.threeOrders paid db' :=
  have hresult := @prepaid_settles_oldest_first Env.default "customer" "owner" none
    Sample.threeOrders (fun _ => rfl) rfl
  ⟨hresult.1, hresult.2 (fun _ => rfl) ⟨Sample.owner, rfl, by decide⟩⟩

theorem prepaid_settles_oldest_first_fails :
    ∃ paid db', (autoReconcileUnpaidInvoicesFromPrepaidBalanceTx Env.default "customer"
        (some "owner")).Commits Sample.freePickup paid db' ∧
      ¬ ∃ settled, PrepaidSettled (fun _ => True) Env.default "customer" prepaidReconcilePasses
        paid Sample.freePickup db' settled := by
  refine ⟨[], _, commits_of_returns (by decide +kernel), ?_⟩
  rintro ⟨settled, hsettled⟩
  have hnone : settled = [] := map_eq_nil_iff.1 hsettled.paid.symm
  have hboth : PaysFor (fun _ => True) (prepaidQueue Env.default "customer" Sample.freePickup)
      (Sample.freePickup.wallets "customer").balance prepaidReconcilePasses
      (prepaidQueue Env.default "customer" Sample.freePickup) :=
    ⟨prefix_rfl, fun _ _ => trivial, by decide +kernel, by decide +kernel⟩
  have hlength := hsettled.most.most _ hboth
  rw [hnone] at hlength
  exact absurd hlength (by decide +kernel)

end SafariLaundry
