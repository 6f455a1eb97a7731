import SafariLaundry.SettlementAccounting

/-!
# Completing a sale after the fact

The gateway finalizer, the manual mark-paid and the prepaid reconciliation end in
the same two writes: one sale row on the general ledger, and a stock decrement
for every tracked line of the order.  Neither looks for an earlier one.
-/

namespace SafariLaundry

open Library Library.Bookkeeping Library.Transaction List

/-! ## Stock -/

structure StockDecrementArgs where
  (orderId actorUserId : Uuid)
  branchId : Option Uuid
  reference : StockReference

def stockLines (orderId : Uuid) (db : Db) : List OrderLineItem :=
  db.orderLineItems.filter fun line => line.orderId = orderId ∧ line.stockItemId ≠ none

def stockOut (args : StockDecrementArgs) (branchId item : Uuid) (line : OrderLineItem) :
    StockMovement where
  stockItemId := item
  branchId := branchId
  quantity := -line.quantity
  recordedById := args.actorUserId
  reference := args.reference

def decrementStockLine (args : StockDecrementArgs) (branchId : Uuid)
    (line : OrderLineItem) : Tx Unit :=
  match line.stockItemId with
  | none => pure ()
  | some item => do
      let known ← reads fun db => decide (item ∈ db.stockItems)
      whenever (known = true) do
        modify fun db => { db with
          stockLevels := Function.update db.stockLevels branchId
            (Function.update (db.stockLevels branchId) item
              (db.stockLevels branchId item - line.quantity))
          stockMovements := db.stockMovements ++ [stockOut args branchId item line] }

def applyOrderStockDecrement (args : StockDecrementArgs) : Tx Unit :=
  match args.branchId with
  | none => pure ()
  | some branchId => do
      let lines ← reads (stockLines args.orderId)
      let known ← reads fun db => decide (branchId ∈ db.branches)
      whenever (lines ≠ [] ∧ known = true) (lines.forM (decrementStockLine args branchId))

def lineMovements (args : StockDecrementArgs) (branchId : Uuid) (stockItems : List Uuid)
    (lines : List OrderLineItem) : List StockMovement :=
  lines.filterMap fun line => line.stockItemId.bind fun item =>
    if item ∈ stockItems then some (stockOut args branchId item line) else none

def orderMovements (args : StockDecrementArgs) (db : Db) : List StockMovement :=
  match args.branchId with
  | none => []
  | some branchId =>
      if branchId ∈ db.branches then
        lineMovements args branchId db.stockItems (stockLines args.orderId db)
      else []

variable {args : StockDecrementArgs} {db db' : Db} {completion : SaleCompletion}

theorem reference_of_mem_orderMovements {movement : StockMovement}
    (hmem : movement ∈ orderMovements args db) :
    movement.reference = args.reference := by
  unfold orderMovements at hmem
  cases hbranch : args.branchId with
  | none => simp [hbranch] at hmem
  | some branchId =>
      simp only [hbranch] at hmem
      by_cases hknown : branchId ∈ db.branches
      · rw [if_pos hknown] at hmem
        obtain ⟨line, _, hline⟩ := mem_filterMap.1 hmem
        obtain ⟨item, _, hitem⟩ := Option.bind_eq_some_iff.1 hline
        by_cases hexists : item ∈ db.stockItems
        · rw [if_pos hexists] at hitem
          obtain rfl := Option.some.inj hitem
          rfl
        · rw [if_neg hexists] at hitem
          cases hitem
      · rw [if_neg hknown] at hmem
        cases hmem

def Moved (movements : List StockMovement) (db db' : Db) : Prop :=
  ∃ levels, db' = { db with
    stockLevels := levels
    stockMovements := db.stockMovements ++ movements }

theorem Moved.refl (db : Db) : Moved [] db db :=
  ⟨db.stockLevels, by simp⟩

theorem Moved.trans {first second : List StockMovement} {db'' : Db} (hfirst : Moved first db db')
    (hsecond : Moved second db' db'') :
    Moved (first ++ second) db db'' := by
  obtain ⟨levels, rfl⟩ := hfirst
  obtain ⟨levels', rfl⟩ := hsecond
  exact ⟨levels', by simp⟩

theorem commits_decrementStockLine {branchId : Uuid} {line : OrderLineItem}
    (hcommits : (decrementStockLine args branchId line).Commits db () db') :
    Moved (lineMovements args branchId db.stockItems [line]) db db' := by
  unfold decrementStockLine at hcommits
  unfold lineMovements
  cases hitem : line.stockItemId with
  | none =>
      simp only [hitem, commits_pure] at hcommits
      rw [← hcommits.2]
      simp only [filterMap_cons, hitem, Option.bind_none, filterMap_nil]
      exact Moved.refl db
  | some item =>
      simp only [hitem, commits_bind, commits_reads, commits_whenever, commits_modify] at hcommits
      obtain ⟨known, _, ⟨rfl, rfl⟩, hline⟩ := hcommits
      simp only [decide_eq_true_eq] at hline
      simp only [filterMap_cons, hitem, Option.bind_some, filterMap_nil]
      rcases hline with ⟨hknown, rfl⟩ | ⟨hunknown, rfl⟩
      · rw [if_pos hknown]
        exact ⟨_, rfl⟩
      · rw [if_neg hunknown]
        exact Moved.refl db

theorem commits_decrementStockLines {branchId : Uuid} {lines : List OrderLineItem} {a : Unit}
    (hcommits : (lines.forM (decrementStockLine args branchId)).Commits db a db') :
    Moved (lineMovements args branchId db.stockItems lines) db db' := by
  induction lines generalizing db with
  | nil =>
      rw [commits_forM_nil] at hcommits
      subst hcommits
      exact Moved.refl db
  | cons line rest ih =>
      obtain ⟨mid, hfirst, hrest⟩ := commits_forM_cons.1 hcommits
      have hhead := commits_decrementStockLine hfirst
      have htail := ih hrest
      have hitems : mid.stockItems = db.stockItems := by
        obtain ⟨_, rfl⟩ := hhead
        rfl
      rw [hitems] at htail
      have hmoved := hhead.trans htail
      unfold lineMovements at hmoved ⊢
      rwa [← filterMap_append] at hmoved

theorem commits_applyOrderStockDecrement
    (hcommits : (applyOrderStockDecrement args).Commits db () db') :
    Moved (orderMovements args db) db db' := by
  unfold applyOrderStockDecrement at hcommits
  unfold orderMovements
  cases hbranch : args.branchId with
  | none =>
      simp only [hbranch, commits_pure] at hcommits
      rw [← hcommits.2]
      exact Moved.refl db
  | some branchId =>
      simp only [hbranch, commits_bind, commits_reads, commits_whenever] at hcommits
      obtain ⟨lines, _, ⟨rfl, rfl⟩, known, _, ⟨rfl, rfl⟩, hlines⟩ := hcommits
      simp only [decide_eq_true_eq] at hlines ⊢
      by_cases hknown : branchId ∈ db.branches
      · rw [if_pos hknown]
        rcases hlines with ⟨_, hdecrement⟩ | ⟨hnone, rfl⟩
        · exact commits_decrementStockLines hdecrement
        · have hempty : stockLines args.orderId db = [] := by
            by_contra hne
            exact hnone ⟨hne, hknown⟩
          rw [hempty]
          exact Moved.refl db
      · rw [if_neg hknown]
        rcases hlines with ⟨hboth, _⟩ | ⟨_, rfl⟩
        · exact absurd hboth.2 hknown
        · exact Moved.refl db

structure SaleRoute where
  (memo stockPrefix : String)

def saleRow (route : SaleRoute) (order : Order) (performerId : Uuid) :
    GeneralLedgerEntry where
  entryType := .POS_SALE_COMPLETED
  amount := order.totalPrice
  memo := route.memo
  customerId := some order.customerId
  orderId := some order.id
  actorUserId := some performerId

def saleBranch (order : Order) (performerId : Uuid) (db : Db) : Option Uuid :=
  ((order.driverId.bind fun id => findUser id db).bind User.branchId).orElse fun _ =>
    (findUser performerId db).bind User.branchId

def saleStockArgs (route : SaleRoute) (order : Order) (performerId : Uuid)
    (branchId : Option Uuid) : StockDecrementArgs where
  orderId := order.id
  actorUserId := performerId
  branchId := branchId
  reference := ⟨route.stockPrefix, order.id⟩

def completeSale (route : SaleRoute) (order : Order) (performerId : Uuid) : Tx Unit := do
  generalLedgerAppend (saleRow route order performerId)
  let branchId ← reads (saleBranch order performerId)
  applyOrderStockDecrement (saleStockArgs route order performerId branchId)

def saleMovements (route : SaleRoute) (order : Order) (performerId : Uuid) (db : Db) :
    List StockMovement :=
  orderMovements (saleStockArgs route order performerId (saleBranch order performerId db)) db

def SaleRecorded (route : SaleRoute) (order : Order) (performerId : Uuid) (db db' : Db) : Prop :=
  ∃ failures levels, db' = { db with
    generalLedger := db.generalLedger ++ [saleRow route order performerId]
    journalFailures := failures
    stockLevels := levels
    stockMovements := db.stockMovements ++ saleMovements route order performerId db }

theorem commits_completeSale {route : SaleRoute} {order : Order} {performerId : Uuid}
    (hcommits : (completeSale route order performerId).Commits db () db') :
    SaleRecorded route order performerId db db' := by
  unfold completeSale at hcommits
  simp only [commits_bind, commits_reads] at hcommits
  obtain ⟨_, mid, hledger, branchId, _, ⟨rfl, rfl⟩, hstock⟩ := hcommits
  obtain ⟨failures, rfl⟩ := commits_generalLedgerAppend hledger
  obtain ⟨levels, rfl⟩ := commits_applyOrderStockDecrement hstock
  exact ⟨failures, levels, rfl⟩

def fallbackOwner (db : Db) : Option Uuid :=
  (db.users.find? fun user => user.safariRole = .OWNER).map User.id

structure SaleCompletion where
  order : Order
  method : PosPaymentMethod
  performerId : Uuid
  extra : SettlementMetadata
  sale : Option SaleRoute

namespace SaleCompletion

def prefetch (completion : SaleCompletion) : OrderWalletSettlementPrefetch where
  customerId := completion.order.customerId
  totalPrice := completion.order.totalPrice
  posPaymentMethod := some completion.method
  walletSettledAt := none

def call (env : Env) (completion : SaleCompletion) (wallets : Uuid → CustomerWallet) :
    SettlementCall :=
  settlementCall env completion.order.id completion.prefetch completion.performerId
    completion.extra (wallets completion.order.customerId)

end SaleCompletion

def settleCompleted (env : Env) (completion : SaleCompletion) : Tx Unit := do
  applyOrderWalletSettlementForCompletedOrder env completion.order.id
    completion.performerId (some completion.prefetch) completion.extra
  match completion.sale with
  | none => pure ()
  | some route => completeSale route completion.order completion.performerId

def Completes (env : Env) (completion : SaleCompletion) (db db' : Db) : Prop :=
  ∃ mid, Settled env (completion.call env db.wallets) db mid ∧
    match completion.sale with
    | none => db' = mid
    | some route => SaleRecorded route completion.order completion.performerId mid db'

variable {env : Env} {orderId : Uuid} {call : SettlementCall}

theorem commits_settleCompleted (henv : env.StoreHealthy)
    (hunsettled : (db.orders.find? completion.order.id).bind Order.walletSettledAt = none)
    (hcommits : (settleCompleted env completion).Commits db () db') :
    Completes env completion db db' := by
  unfold settleCompleted at hcommits
  rw [commits_bind] at hcommits
  obtain ⟨⟨⟩, mid, hsettle, hsale⟩ := hcommits
  obtain ⟨o, ho, hresult⟩ := commits_applyOrderWalletSettlement henv hsettle
  obtain rfl := Option.some.inj ho
  refine ⟨mid, (hresult.of_unsettled rfl hunsettled).2, ?_⟩
  cases hroute : completion.sale with
  | none =>
      rw [hroute, commits_pure] at hsale
      exact hsale.2.symm
  | some route =>
      rw [hroute] at hsale
      exact commits_completeSale hsale

/-! ## Unsettled orders have no settlement entries -/

def SettlementRef (orderId : Uuid) (ref : SourceRef) : Prop :=
  ∃ call : SettlementCall, call.orderId = orderId ∧ ref ∈ call.stageRefs

theorem SettlementRef.id_mem_iff {ref : SourceRef} (href : SettlementRef orderId ref) (key : Uuid) :
    RefSegment.id key ∈ ref ↔ key = orderId := by
  obtain ⟨call, rfl, hmem⟩ := href
  unfold SettlementCall.stageRefs at hmem
  simp only [mem_append, mem_singleton] at hmem
  rcases hmem with (((rfl | rfl) | rfl) | rfl) | rfl
  · simp [invoiceIssuedRef]
  · simp [SettlementCall.shortfallRef]
  · rcases @SettlementCall.absorption_ref_cases call with habsorption | habsorption
    · simp [habsorption, walletAbsorptionV3Ref]
    · simp [habsorption, walletAbsorptionRef]
  · simp [SettlementCall.externalRef, externalPaymentRef]
  · simp [SettlementCall.paydownRef]

theorem SettlementRef.unique {first second : Uuid} {ref : SourceRef}
    (hfirst : SettlementRef first ref) (hsecond : SettlementRef second ref) :
    first = second :=
  (hsecond.id_mem_iff first).1 ((hfirst.id_mem_iff first).2 rfl)

/-- The second word of a reference that starts with `PAYMENT` is a method or a
trigger. -/
theorem SettlementRef.payment {key : Uuid} {route : String} {tail : RefSegment}
    (href : SettlementRef orderId [.word "PAYMENT", .word route, .id key, tail]) :
    ∃ call : SettlementCall, route = call.origin := by
  obtain ⟨call, rfl, hmem⟩ := href
  unfold SettlementCall.stageRefs at hmem
  simp only [mem_append, mem_singleton] at hmem
  rcases hmem with (((heq | heq) | heq) | heq) | heq
  · simp [invoiceIssuedRef] at heq
  · simp [SettlementCall.shortfallRef] at heq
  · rcases @SettlementCall.absorption_ref_cases call with habsorption | habsorption
    · simp [habsorption, walletAbsorptionV3Ref] at heq
    · simp [habsorption, walletAbsorptionRef] at heq
  · simp [SettlementCall.externalRef, externalPaymentRef] at heq
  · simp only [SettlementCall.paydownRef, List.cons.injEq, RefSegment.word.injEq] at heq
    exact ⟨call, heq.2.1⟩

theorem SettlementCall.origin_cases (call : SettlementCall) :
    (∃ method : PosPaymentMethod, call.origin = method.name) ∨
      call.origin = "CALL_CENTER_MANUAL" ∨ call.origin = "PAYMENT_LINK_CALLBACK" ∨
      call.origin = "WALLET_SETTLEMENT" := by
  unfold SettlementCall.origin
  by_cases hexternal : call.ExternalCoversShortfall
  · rw [if_pos hexternal]
    rcases hexternal with hmethod | hmethod | hmethod | hmethod
    · exact .inl ⟨.CASH, by rw [hmethod]; rfl⟩
    · exact .inl ⟨.KNET, by rw [hmethod]; rfl⟩
    · exact .inl ⟨.ONLINE, by rw [hmethod]; rfl⟩
    · exact .inl ⟨.PAYMENT_LINK, by rw [hmethod]; rfl⟩
  · rw [if_neg hexternal]
    exact .inr (SettlementCall.trigger_cases call.extra)

def FreshExcept (excepted : Uuid → Prop) (db : Db) : Prop :=
  ∀ order ∈ db.orders.rows, ¬ excepted order.id → order.walletSettledAt = none →
    order.status ≠ .CANCELED → ∀ ref, SettlementRef order.id ref → ¬ Recorded db.journal ref

/-- An order that is neither settled nor canceled was never settled: the journal
has no settlement entry for it. -/
def SettlementConsistent (db : Db) : Prop :=
  FreshExcept (fun _ => False) db

theorem settlementConsistent_of_no_journal (hjournal : db.journal = []) :
    SettlementConsistent db := by
  intro order _ _ _ _ ref _
  rw [hjournal]
  exact not_posted_nil _ ref

theorem SettlementConsistent.except (hconsistent : SettlementConsistent db)
    (excepted : Uuid → Prop) :
    FreshExcept excepted db :=
  fun order hmem _ => hconsistent order hmem not_false

theorem SettlementCall.ref_mem_stageRefs {journal : List JournalEntry} {entry : JournalEntry}
    (hmem : entry ∈ call.newEntries journal) :
    entry.sourceRef ∈ call.stageRefs := by
  rw [← SettlementCall.unposted_entries] at hmem
  have hentry : entry ∈ call.entries journal := mem_of_mem_filter hmem
  exact (SettlementCall.entries_refs_sublist journal).subset (mem_map_of_mem hentry)

theorem mem_settledOrders {order : Order} (hmem : order ∈ (settledOrders env call db).rows)
    (hunsettled : order.walletSettledAt = none) :
    order.id ≠ call.orderId ∧ order ∈ db.orders.rows := by
  have htag : ∀ row ∈ (taggedOrders call.orderId db.orders
      (activeSubscription call.order.customerId db)).rows,
      row.id ≠ call.orderId → row ∈ db.orders.rows := by
    intro row hrow hother
    cases hsub : activeSubscription call.order.customerId db with
    | none =>
        rw [hsub] at hrow
        exact hrow
    | some subscription =>
        rw [hsub] at hrow
        exact Table.mem_of_mem_update _ hrow hother
  unfold settledOrders at hmem
  obtain ⟨old, hold, hrow⟩ := Table.mem_updateWhere.1 hmem
  by_cases hsettles : old.id = call.orderId ∧ old.walletSettledAt = none
  · rw [if_pos hsettles] at hrow
    rw [← hrow] at hunsettled
    cases hunsettled
  · rw [if_neg hsettles] at hrow
    subst hrow
    have hother : old.id ≠ call.orderId := fun hsame => hsettles ⟨hsame, hunsettled⟩
    exact ⟨hother, htag old hold hother⟩

def settledRow (env : Env) (subscription : Option CustomerSubscription) (order : Order) :
    Order :=
  { order with
    subscriptionId := (subscription.map CustomerSubscription.id).orElse fun _ =>
      order.subscriptionId
    walletSettledAt := some (order.walletSettledAt.getD env.now) }

theorem find?_settledOrders {row : Order} (hrow : db.orders.find? call.orderId = some row) :
    (settledOrders env call db).find? call.orderId =
      some (settledRow env (activeSubscription call.order.customerId db) row) := by
  have hkey := Table.key_of_find? hrow
  have htagged : (taggedOrders call.orderId db.orders
      (activeSubscription call.order.customerId db)).find? call.orderId =
        some { row with subscriptionId :=
          ((activeSubscription call.order.customerId db).map
            CustomerSubscription.id).orElse fun _ => row.subscriptionId } := by
    cases activeSubscription call.order.customerId db with
    | none => exact hrow
    | some subscription =>
        rw [taggedOrders, Table.find?_update_self, hrow]
        rfl
  unfold settledOrders settledRow
  rw [Table.find?_updateWhere, htagged, Option.map_some]
  cases hsettled : row.walletSettledAt with
  | none => rw [if_pos ⟨hkey, rfl⟩, Option.getD_none]
  | some at_ =>
      rw [if_neg (by simp), Option.getD_some]

theorem Settled.find? {row : Order} (hsettled : Settled env call db db')
    (hrow : db.orders.find? call.orderId = some row) :
    db'.orders.find? call.orderId =
      some (settledRow env (activeSubscription call.order.customerId db) row) := by
  rw [hsettled.orders]
  exact find?_settledOrders hrow

theorem Completes.find? {row : Order} (hcompletes : Completes env completion db db')
    (hrow : db.orders.find? completion.order.id = some row) :
    db'.orders.find? completion.order.id =
      some (settledRow env (activeSubscription completion.order.customerId db) row) := by
  obtain ⟨mid, hsettled, hsale⟩ := hcompletes
  have hmid := hsettled.find? hrow
  cases hroute : completion.sale with
  | none =>
      rw [hroute] at hsale
      subst hsale
      exact hmid
  | some route =>
      rw [hroute] at hsale
      obtain ⟨_, _, rfl⟩ := hsale
      exact hmid

theorem Settled.fresh (hsettled : Settled env call db db')
    (hfresh : FreshExcept (fun id => id = call.orderId) db) :
    SettlementConsistent db' := by
  intro order hmem _ hunsettled hopen ref href
  rw [hsettled.orders] at hmem
  obtain ⟨hother, hold⟩ := mem_settledOrders hmem hunsettled
  rw [hsettled.journal_append, recorded_append]
  rintro (hbefore | ⟨entry, hentry, hkey⟩)
  · exact hfresh order hold hother hunsettled hopen ref href hbefore
  · have hstage : SettlementRef call.orderId ref :=
      ⟨call, rfl, hkey ▸ SettlementCall.ref_mem_stageRefs hentry⟩
    exact hother (href.unique hstage)

theorem FreshExcept.updateOrder {f : Order → Order} {hkey : ∀ order, (f order).id = order.id}
    (hfresh : FreshExcept (fun id => id = orderId) db) :
    FreshExcept (fun id => id = orderId) { db with orders := db.orders.update orderId f hkey } := by
  intro order hmem hother
  exact hfresh order (Table.mem_of_mem_update hkey hmem hother) hother

theorem Completes.consistent (hcompletes : Completes env completion db db')
    (hfresh : FreshExcept (fun id => id = completion.order.id) db) :
    SettlementConsistent db' := by
  obtain ⟨mid, hsettled, hsale⟩ := hcompletes
  have hmid : SettlementConsistent mid := hsettled.fresh hfresh
  cases hroute : completion.sale with
  | none =>
      rw [hroute] at hsale
      subst hsale
      exact hmid
  | some route =>
      rw [hroute] at hsale
      obtain ⟨_, _, rfl⟩ := hsale
      exact hmid

end SafariLaundry
