import SafariLaundry.ManualPayment

/-!
# Gateway and call center on one order

Finalizations and manual marks of one order, run against each other.  A request
reads the order in some state of the past and finishes later: the gateway's by a
conditional update that looks at the row again, the call center's by one that does
not.  What is counted is what settled the order, sold it and took its goods from
stock.
-/

namespace SafariLaundry

open Library Library.Bookkeeping Library.Transaction List

inductive PaymentRequest
  | finalize (env : Env) (orderId : Uuid) (metadata : Option FinalizeMetadata) (seen : Db)
  | manual (env : Env) (args : ManualMarkArgs) (seen : Db) (reads : CollectionReads)

namespace PaymentRequest

def env : PaymentRequest → Env
  | .finalize env _ _ _ | .manual env _ _ _ => env

def orderId : PaymentRequest → Uuid
  | .finalize _ orderId _ _ => orderId
  | .manual _ args _ _ => args.orderId

def seen : PaymentRequest → List Db
  | .finalize _ _ _ seen => [seen]
  | .manual _ _ seen reads => [seen, reads.order, reads.remaining, reads.journal]

def run : PaymentRequest → Tx Unit
  | .finalize env orderId metadata seen => transaction do
      let order ← fetch (fun _ => seen.orders.find? orderId) (.badRequest "Order not found")
      let _ ← finalizeAfterRead env order metadata
  | .manual env args seen reads => transaction do
      let order ← fetch (fun _ => seen.orders.find? args.orderId) (.badRequest "Order not found")
      let _ ← markAfterRead env args order (collectInvoiceSeeing env args.collection reads)

def Timely (db : Db) : PaymentRequest → Prop
  | .finalize _ _ _ _ => True
  | .manual _ args seen _ =>
      ∀ order, seen.orders.find? args.orderId = some order → order.Markable →
        (db.orders.find? args.orderId).bind Order.walletSettledAt = none

end PaymentRequest

def payments : Calls Db PaymentRequest where
  step := fun request db => (request.run.outcome db).2
  seen := PaymentRequest.seen

def settlementsOf (orderId : Uuid) (db : Db) : List TransactionHistory :=
  db.transactionHistory.filter fun row =>
    row.type = .ORDER_WALLET_SETTLEMENT ∧ row.physicalCollection = false ∧
      row.orderId = some orderId

def salesOf (orderId : Uuid) (db : Db) : List GeneralLedgerEntry :=
  db.generalLedger.filter fun row =>
    row.entryType = .POS_SALE_COMPLETED ∧ row.orderId = some orderId

def movementsOf (orderId : Uuid) (db : Db) : List StockMovement :=
  db.stockMovements.filter fun movement => movement.reference.orderId = orderId

def IsDecrement (orderId : Uuid) (movements : List StockMovement) : Prop :=
  ∃ (args : StockDecrementArgs) (db : Db), args.orderId = orderId ∧
    args.reference.orderId = orderId ∧ movements = orderMovements args db

structure NoEffect (orderId : Uuid) (db db' : Db) : Prop where
  settlements : settlementsOf orderId db' = settlementsOf orderId db
  sales : salesOf orderId db' = salesOf orderId db
  movements : movementsOf orderId db' = movementsOf orderId db

/-- From `db` to `db'` the order was settled once, sold once, and its goods left the
stock once. -/
structure OneEffect (orderId : Uuid) (db db' : Db) : Prop where
  settlements : ∃ row, settlementsOf orderId db' = settlementsOf orderId db ++ [row]
  sales : ∃ row, salesOf orderId db' = salesOf orderId db ++ [row]
  movements : ∃ moved, IsDecrement orderId moved ∧
    movementsOf orderId db' = movementsOf orderId db ++ moved

def AtMostOnce (orderId : Uuid) (db db' : Db) : Prop :=
  NoEffect orderId db db' ∨ OneEffect orderId db db'

theorem NoEffect.refl (orderId : Uuid) (db : Db) : NoEffect orderId db db :=
  ⟨rfl, rfl, rfl⟩

variable {orderId : Uuid} {db db' : Db} {env : Env}

theorem NoEffect.trans {db'' : Db} (hfirst : NoEffect orderId db db')
    (hsecond : NoEffect orderId db' db'') :
    NoEffect orderId db db'' :=
  ⟨hsecond.settlements.trans hfirst.settlements, hsecond.sales.trans hfirst.sales,
    hsecond.movements.trans hfirst.movements⟩

theorem NoEffect.then_one {db'' : Db} (hfirst : NoEffect orderId db db')
    (hsecond : OneEffect orderId db' db'') :
    OneEffect orderId db db'' := by
  obtain ⟨hsettlements, hsales, hmovements⟩ := hsecond
  rw [hfirst.settlements] at hsettlements
  rw [hfirst.sales] at hsales
  rw [hfirst.movements] at hmovements
  exact ⟨hsettlements, hsales, hmovements⟩

theorem OneEffect.then_none {db'' : Db} (hfirst : OneEffect orderId db db')
    (hsecond : NoEffect orderId db' db'') :
    OneEffect orderId db db'' := by
  obtain ⟨hsettlements, hsales, hmovements⟩ := hfirst
  rw [← hsecond.settlements] at hsettlements
  rw [← hsecond.sales] at hsales
  rw [← hsecond.movements] at hmovements
  exact ⟨hsettlements, hsales, hmovements⟩

def OrderSettled (orderId : Uuid) (db : Db) : Prop :=
  ∀ row, db.orders.find? orderId = some row → row.walletSettledAt ≠ none

/-! ## What one request does -/

theorem SettlementCall.rows_not_sales (call : SettlementCall) {row : GeneralLedgerEntry}
    (hmem : row ∈ call.shortfallRows ++ call.overuseRows ++ call.paydownRows) :
    row.entryType = .DEBT_ADJUSTMENT := by
  simp only [mem_append, shortfallRows, overuseRows, paydownRows, mem_ite_nil_right,
    mem_singleton] at hmem
  rcases hmem with (⟨_, rfl⟩ | ⟨_, rfl⟩) | ⟨_, rfl⟩
  · rfl
  · rfl
  · rfl

theorem Settled.orderSettled {call : SettlementCall} (hsettled : Settled env call db db') :
    OrderSettled call.orderId db' := by
  intro row hrow hunsettled
  have hmem := Table.mem_of_find? hrow
  rw [hsettled.orders] at hmem
  exact (mem_settledOrders hmem hunsettled).1 (Table.key_of_find? hrow)

theorem Completes.oneEffect {completion : SaleCompletion} {route : SaleRoute}
    (hroute : completion.sale = some route) (hcompletes : Completes env completion db db') :
    OneEffect completion.order.id db db' ∧ OrderSettled completion.order.id db' := by
  obtain ⟨mid, hsettled, hsale⟩ := hcompletes
  rw [hroute] at hsale
  obtain ⟨failures, levels, rfl⟩ := hsale
  have hcall : (completion.call env db.wallets).orderId = completion.order.id := rfl
  refine ⟨⟨?_, ?_, ?_⟩, hcall ▸ hsettled.orderSettled⟩
  · refine ⟨(completion.call env db.wallets).historyRow
      (env.newHistoryId db.transactionHistory.length)
      ((activeSubscription completion.order.customerId db).map CustomerSubscription.id), ?_⟩
    unfold settlementsOf
    change mid.transactionHistory.filter _ = _
    rw [hsettled.transactionHistory, filter_append, filter_cons_of_pos
      (by simp [SettlementCall.historyRow, hcall]), filter_nil]
    rfl
  · refine ⟨saleRow route completion.order completion.performerId, ?_⟩
    unfold salesOf
    change (mid.generalLedger ++ [_]).filter _ = _
    have hnone : ((completion.call env db.wallets).shortfallRows ++
        (completion.call env db.wallets).overuseRows ++
        (completion.call env db.wallets).paydownRows).filter
          (fun row => row.entryType = .POS_SALE_COMPLETED ∧
            row.orderId = some completion.order.id) = [] := by
      rw [filter_eq_nil_iff]
      intro row hrow hsold
      have htype := SettlementCall.rows_not_sales _ hrow
      simp [htype] at hsold
    rw [hsettled.generalLedger, filter_append, filter_append, hnone,
      append_nil, filter_cons_of_pos (by simp [saleRow]), filter_nil]
  · refine ⟨saleMovements route completion.order completion.performerId mid, ?_, ?_⟩
    · exact ⟨_, mid, rfl, rfl, rfl⟩
    · unfold movementsOf
      change (mid.stockMovements ++ _).filter _ = _
      have hall : (saleMovements route completion.order completion.performerId mid).filter
          (fun movement => movement.reference.orderId = completion.order.id) =
            saleMovements route completion.order completion.performerId mid := by
        rw [filter_eq_self]
        intro movement hmovement
        have hreference := reference_of_mem_orderMovements hmovement
        rw [hreference]
        simp [saleStockArgs]
      rw [filter_append, hall, hsettled.stockMovements]

theorem noEffect_orders (orderId : Uuid) (db : Db) (orders : Table Order.id) :
    NoEffect orderId db { db with orders := orders } :=
  ⟨rfl, rfl, rfl⟩

inductive PaymentEffect (orderId : Uuid) (db db' : Db) : Prop
  | nothing (hsame : NoEffect orderId db db')
      (hkept : OrderSettled orderId db → OrderSettled orderId db')
  | everything (hopen : ¬ OrderSettled orderId db) (hdone : OneEffect orderId db db')
      (hsettled : OrderSettled orderId db')

theorem PaymentEffect.failures {failures : List JournalFailure} :
    PaymentEffect orderId db { db with journalFailures := failures } :=
  .nothing ⟨rfl, rfl, rfl⟩ id

theorem OrdersCollected.orderSettled {params : DebtInvoiceCollection}
    {orders orders' : Table Order.id} (hcollected : OrdersCollected params orders orders')
    (hsettled : ∀ row, orders.find? params.orderId = some row → row.walletSettledAt ≠ none) :
    ∀ row, orders'.find? params.orderId = some row → row.walletSettledAt ≠ none := by
  rcases hcollected with rfl | rfl
  · exact hsettled
  · intro row hrow
    rw [Table.find?_update_self] at hrow
    cases hfind : orders.find? params.orderId with
    | none =>
        rw [hfind] at hrow
        cases hrow
    | some old =>
        rw [hfind] at hrow
        obtain rfl := Option.some.inj hrow
        exact hsettled old hfind

theorem collection_effect {call : CollectionCall} {db db' : Db}
    (hresult : CollectionResult call db db') :
    PaymentEffect call.params.orderId db db' := by
  cases hresult with
  | refused hsame =>
      obtain ⟨failures, rfl⟩ := hsame
      exact .failures
  | cleared hclosed =>
      obtain ⟨orders, horders, rfl⟩ := hclosed
      exact .nothing (noEffect_orders _ db orders) horders.orderSettled
  | collected customerId remaining _ hdone =>
      refine .nothing ⟨?_, ?_, ?_⟩ hdone.orders.orderSettled
      · unfold settlementsOf
        rw [hdone.transactionHistory, filter_append, filter_cons_of_neg
          (by simp [DebtInvoiceCollection.historyRow]), filter_nil, append_nil]
      · unfold salesOf
        rw [hdone.generalLedger, filter_append, filter_cons_of_neg
          (by simp [DebtInvoiceCollection.ledgerRow]), filter_nil, append_nil]
      · unfold movementsOf
        rw [hdone.stockMovements]

theorem finalize_effect {order : Order} {metadata : Option FinalizeMetadata} {did : Bool}
    (hresult : FinalizeResult env order metadata db did db') :
    PaymentEffect order.id db db' := by
  cases hresult with
  | duplicate _ => exact .nothing (.refl _ db) id
  | rejected _ _ => exact .nothing (.refl _ db) id
  | claimLost _ _ => exact .nothing (.refl _ db) id
  | finalized _ _ _ hfinalized =>
      obtain ⟨row, hrow, hclaimable⟩ := hfinalized.row
      obtain ⟨hdone, hsettled⟩ := hfinalized.completes.oneEffect rfl
      refine .everything ?_ ((noEffect_orders _ db _).then_one hdone) hsettled
      intro hall
      exact hall row hrow hclaimable.1

theorem manual_effect {args : ManualMarkArgs} {order : Order} {collect : Tx CollectionKind}
    (htimely : order.Markable → (db.orders.find? order.id).bind Order.walletSettledAt = none)
    (hcollect : ∀ kind db', collect.Commits db kind db' → PaymentEffect order.id db db')
    (hresult : ManualResult env args order collect db db') :
    PaymentEffect order.id db db' := by
  cases hresult with
  | alreadySettled hsame =>
      rw [hsame]
      exact .nothing (.refl _ db) id
  | collected kind hdone => exact hcollect kind db' hdone
  | completed hmarkable hcompleted =>
      obtain ⟨row, hrow⟩ := hcompleted.row
      obtain ⟨hdone, hsettled⟩ := hcompleted.completes.oneEffect rfl
      refine .everything ?_ ((noEffect_orders _ db _).then_one hdone) hsettled
      intro hall
      have hunsettled := htimely hmarkable
      rw [hrow] at hunsettled
      exact hall row hrow hunsettled

def AdmittedPayment (orderId : Uuid) (request : PaymentRequest) (db : Db) : Prop :=
  request.env.StoreHealthy ∧ request.orderId = orderId ∧ request.Timely db

theorem payments_step {request : PaymentRequest} (hadmitted : AdmittedPayment orderId request db) :
    PaymentEffect orderId db (payments.step request db) := by
  obtain ⟨henv, hid, htimely⟩ := hadmitted
  have hkeeps : KeepsAt (PaymentEffect orderId) db request.run := by
    cases request with
    | finalize env id metadata seen =>
        subst hid
        apply keepsAt_atomically
        · intro _ db' hcommits
          simp only [commits_bind, commits_fetch, commits_pure] at hcommits
          obtain ⟨order, _, ⟨hrow, rfl⟩, did, _, hfinalize, _, rfl⟩ := hcommits
          have heffect := finalize_effect (commits_finalizeAfterRead henv hfinalize)
          rwa [Table.key_of_find? hrow] at heffect
        · intro after
          exact .failures
    | manual env args seen reads =>
        subst hid
        apply keepsAt_atomically
        · intro _ db' hcommits
          simp only [commits_bind, commits_fetch, commits_pure] at hcommits
          obtain ⟨order, _, ⟨hrow, rfl⟩, _, _, hmark, _, rfl⟩ := hcommits
          have hkey : order.id = args.orderId := Table.key_of_find? hrow
          let call : CollectionCall := ⟨env, args.collection, reads⟩
          have hcollects : ∀ kind db', (collectInvoiceSeeing env args.collection
              reads).Commits db kind db' → PaymentEffect order.id db db' := by
            intro kind db' hcollect
            rw [hkey]
            exact @collection_effect call db db'
              (@commits_collectInvoiceSeeing call kind db db' henv hcollect)
          have htimely' : order.Markable →
              (db.orders.find? order.id).bind Order.walletSettledAt = none := by
            rw [hkey]
            exact htimely order hrow
          have heffect := manual_effect htimely' hcollects (commits_markAfterRead henv hmark)
          rwa [hkey] at heffect
        · intro after
          exact .failures
  exact hkeeps

def OnceSince (orderId : Uuid) (start db : Db) : Prop :=
  NoEffect orderId start db ∧ (OrderSettled orderId start → OrderSettled orderId db) ∨
    ¬ OrderSettled orderId start ∧ OneEffect orderId start db ∧ OrderSettled orderId db

theorem OnceSince.step {start : Db} (honce : OnceSince orderId start db)
    (heffect : PaymentEffect orderId db db') :
    OnceSince orderId start db' := by
  cases heffect with
  | nothing hsame hkept =>
      rcases honce with ⟨hnone, hsettled⟩ | ⟨hopen, hone, hsettled⟩
      · exact .inl ⟨hnone.trans hsame, fun h => hkept (hsettled h)⟩
      · exact .inr ⟨hopen, hone.then_none hsame, hkept hsettled⟩
  | everything hunsettled hdone hafter =>
      rcases honce with ⟨hnone, hsettled⟩ | ⟨_, _, hsettled⟩
      · exact .inr ⟨fun h => hunsettled (hsettled h), hnone.then_one hdone, hafter⟩
      · exact absurd hsettled hunsettled

/-- In every interleaving of finalizations and manual marks of an order in which no
mark overtakes a settlement it has not seen, the order is settled, sold and taken from
stock at most once, and not at all if it was settled before. -/
theorem payments_atMostOnce {orderId : Uuid} {start : Db} {trace : List Db}
    (hrun : payments.Run (AdmittedPayment orderId) start trace) :
    ∀ db ∈ trace, AtMostOnce orderId start db ∧
      (OrderSettled orderId start → NoEffect orderId start db) := by
  have honce : ∀ db ∈ trace, OnceSince orderId start db := by
    have hstart : OnceSince orderId start start := .inl ⟨.refl orderId start, id⟩
    have hstep : ∀ request db, OnceSince orderId start db →
        (∀ t ∈ payments.seen request, OnceSince orderId start t) →
        AdmittedPayment orderId request db →
        OnceSince orderId start (payments.step request db) := by
      intro request db hstate _ hadmitted
      exact hstate.step (payments_step hadmitted)
    exact hrun.invariant hstart hstep
  intro db hdb
  rcases honce db hdb with ⟨hnone, _⟩ | ⟨hopen, hone, _⟩
  · exact ⟨.inl hnone, fun _ => hnone⟩
  · exact ⟨.inr hone, fun hsettled => absurd hsettled hopen⟩

def Sample.handMark (seen : Db) : PaymentRequest :=
  .manual Env.default ⟨"order", .CASH, "owner", by decide⟩ seen ⟨seen, seen, seen⟩

theorem Sample.handMark_run :
    payments.Run (AdmittedPayment "order") Sample.indebtedShop
      [payments.step (Sample.handMark Sample.indebtedShop) Sample.indebtedShop,
        Sample.indebtedShop] := by
  apply Calls.Run.call (Sample.handMark Sample.indebtedShop) .start
  · intro seen hseen
    simpa [payments, Sample.handMark, PaymentRequest.seen] using hseen
  · refine ⟨fun _ => rfl, rfl, ?_⟩
    intro order _ _
    decide +kernel

theorem payments_atMostOnce_sample :
    AtMostOnce "order" Sample.indebtedShop
      (payments.step (Sample.handMark Sample.indebtedShop) Sample.indebtedShop) :=
  (payments_atMostOnce Sample.handMark_run _ (mem_cons_self ..)).1

/-- Two marks that read the order unsettled settle and sell it twice. -/
theorem payments_twice :
    ¬ ∀ (orderId : Uuid) (start : Db) (trace : List Db),
      payments.Run (fun request _ => request.env.StoreHealthy ∧ request.orderId = orderId)
        start trace →
      ∀ db ∈ trace, AtMostOnce orderId start db := by
  intro hall
  have hseen : ∀ t ∈ payments.seen (Sample.handMark Sample.indebtedShop),
      t = Sample.indebtedShop := by
    intro t ht
    simpa [payments, Sample.handMark, PaymentRequest.seen] using ht
  have hrun : payments.Run (fun request _ => request.env.StoreHealthy ∧ request.orderId = "order")
      Sample.indebtedShop
      [payments.step (Sample.handMark Sample.indebtedShop)
        (payments.step (Sample.handMark Sample.indebtedShop) Sample.indebtedShop),
        payments.step (Sample.handMark Sample.indebtedShop) Sample.indebtedShop,
        Sample.indebtedShop] := by
    apply Calls.Run.call (Sample.handMark Sample.indebtedShop)
    · apply Calls.Run.call (Sample.handMark Sample.indebtedShop) .start
      · intro t ht
        simp [hseen t ht]
      · exact ⟨fun _ => rfl, rfl⟩
    · intro t ht
      simp [hseen t ht]
    · exact ⟨fun _ => rfl, rfl⟩
  have hsold : ∀ db, AtMostOnce "order" Sample.indebtedShop db →
      (salesOf "order" db).length ≤ 1 := by
    intro db honce
    have hstart : salesOf "order" Sample.indebtedShop = [] := rfl
    rcases honce with hnone | hone
    · rw [hnone.sales, hstart]
      decide
    · obtain ⟨row, hsales⟩ := hone.sales
      rw [hsales, hstart]
      exact le_rfl
  have htwice := hsold _ (hall "order" Sample.indebtedShop _ hrun _ (mem_cons_self ..))
  revert htwice
  decide +kernel

end SafariLaundry
