import SafariLaundry.InvoiceAudit

/-!
# Updating an order's status

The order status machine, and `updateOrder`, which asks it about the row read before
the transaction and then writes the row whatever it has become.  A completion settles
the order and records its sale; a cancellation writes the row and nothing else.
-/

namespace SafariLaundry

open Library Library.Bookkeeping Library.Transaction

def OrderStatus.name : OrderStatus → String
  | .PENDING => "PENDING"
  | .PICKED_UP => "PICKED_UP"
  | .IN_PROGRESS => "IN_PROGRESS"
  | .OUT_FOR_DELIVERY => "OUT_FOR_DELIVERY"
  | .COMPLETED => "COMPLETED"
  | .CANCELED => "CANCELED"

def terminal : List OrderStatus :=
  [.COMPLETED, .CANCELED]

def forwardEdges : OrderStatus → List OrderStatus
  | .PENDING => [.PICKED_UP, .CANCELED]
  | .PICKED_UP => [.IN_PROGRESS, .CANCELED]
  | .IN_PROGRESS => [.OUT_FOR_DELIVERY, .CANCELED]
  | .OUT_FOR_DELIVERY => [.COMPLETED, .CANCELED]
  | .COMPLETED => []
  | .CANCELED => []

def allowedText (current : OrderStatus) : String :=
  if forwardEdges current = [] then "none"
  else ", ".intercalate ((forwardEdges current).map OrderStatus.name)

def assertOrderStatusTransition (current next : OrderStatus) (hasDriver : Bool) :
    Tx Unit :=
  if current = next then pure () else do
    require (current ∉ terminal) (.badRequest
      ("Order status cannot change once it is " ++ current.name))
    require (¬ (next = .PICKED_UP ∧ hasDriver = false)) (.badRequest
      "Status PICKED_UP requires an assigned driver before this transition")
    require (¬ (next = .COMPLETED ∧ current ≠ .OUT_FOR_DELIVERY)) (.badRequest
      "Status COMPLETED is only allowed after OUT_FOR_DELIVERY")
    require (next ∈ forwardEdges current) (.badRequest
      ("Invalid status transition: " ++ current.name ++ " → " ++ next.name ++
        ". Allowed from " ++ current.name ++ ": " ++ allowedText current))

/-- Beyond the graph, `PICKED_UP` asks for an assigned driver. -/
def StatusEdge (current next : OrderStatus) (hasDriver : Bool) : Prop :=
  next ∈ forwardEdges current ∧ (next = .PICKED_UP → hasDriver = true)
  deriving Decidable

theorem commits_assertOrderStatusTransition {current next : OrderStatus}
    {hasDriver : Bool} {a : Unit} {db db' : Db} :
    (assertOrderStatusTransition current next hasDriver).Commits db a db' ↔
      (current = next ∨ StatusEdge current next hasDriver) ∧ db = db' := by
  unfold assertOrderStatusTransition StatusEdge
  by_cases hsame : current = next
  · rw [if_pos hsame, commits_pure]
    simp [hsame]
  · rw [if_neg hsame]
    simp only [commits_bind, commits_require]
    constructor
    · rintro ⟨_, _, ⟨_, rfl⟩, _, _, ⟨hdriver, rfl⟩, _, _, ⟨_, rfl⟩, hedge, rfl⟩
      refine ⟨.inr ⟨hedge, fun hpicked => ?_⟩, rfl⟩
      by_contra hnone
      exact hdriver ⟨hpicked, Bool.eq_false_iff.2 hnone⟩
    · rintro ⟨hstays | ⟨hedge, hdriver⟩, rfl⟩
      · exact absurd hstays hsame
      · refine ⟨(), db, ⟨?_, rfl⟩, (), db, ⟨?_, rfl⟩, (), db, ⟨?_, rfl⟩, hedge, rfl⟩
        · cases current <;> simp_all [terminal, forwardEdges]
        · rintro ⟨hpicked, hnone⟩
          rw [hdriver hpicked] at hnone
          cases hnone
        · rintro ⟨rfl, hother⟩
          cases current <;> simp_all [forwardEdges]

structure UpdateOrderDto where
  status : Option OrderStatus
  notes : Option String

structure UpdateOrderArgs where
  orderId : Uuid
  dto : UpdateOrderDto
  userId : Uuid
  role : SafariRole

def canStaffUpdateOrders (role : SafariRole) : Prop :=
  role = .MANAGER ∨ role = .SUPERVISOR
  deriving Decidable

def checkUpdater (args : UpdateOrderArgs) (order : Order) : Tx Unit :=
  if args.role = .DRIVER then
    require (order.driverId = some args.userId)
      (.forbidden "You may only update orders assigned to you")
  else
    require (canStaffUpdateOrders args.role) (.forbidden "Your role cannot update orders")

def PosPaymentMethod.GatewayBacked (method : PosPaymentMethod) : Prop :=
  method = .ONLINE ∨ method = .PAYMENT_LINK
  deriving Decidable

namespace UpdateOrderArgs

def Completing (args : UpdateOrderArgs) (order : Order) : Prop :=
  args.dto.status = some .COMPLETED ∧ order.status ≠ .COMPLETED
  deriving Decidable

def WillBeCompleted (args : UpdateOrderArgs) (order : Order) : Prop :=
  args.dto.status.getD order.status = .COMPLETED
  deriving Decidable

def updatedRow (env : Env) (args : UpdateOrderArgs) (order row : Order) : Order :=
  { row with
    status := args.dto.status.getD row.status
    cashStatus :=
      if args.Completing order ∧ order.cashStatus = .UNPAID ∧
          ¬ order.posPaymentMethod.GatewayBacked then
        cashStatusForPaymentMethod order.posPaymentMethod
      else row.cashStatus
    completedAt := if args.Completing order then some env.now else row.completedAt }

theorem updatedRow_id (env : Env) (args : UpdateOrderArgs) (order row : Order) :
    (updatedRow env args order row).id = row.id := rfl

def saleRow (args : UpdateOrderArgs) (order : Order) : GeneralLedgerEntry where
  entryType := .POS_SALE_COMPLETED
  amount := order.totalPrice
  memo := "POS checkout (driver/manager completion)"
  customerId := some order.customerId
  orderId := some args.orderId
  actorUserId := some args.userId

end UpdateOrderArgs

def applyOrderUpdate (env : Env) (args : UpdateOrderArgs) (order : Order) : Tx Order :=
  transaction do
    updateOrder args.orderId (args.updatedRow env order) (args.updatedRow_id env order)
    whenever (order.walletSettledAt = none ∧ args.WillBeCompleted order)
      (applyOrderWalletSettlementForCompletedOrder env args.orderId args.userId none .none)
    whenever (args.Completing order ∧ ¬ order.posPaymentMethod.GatewayBacked)
      (generalLedgerAppend (args.saleRow order))
    fetch (fun db => db.orders.find? args.orderId) (.database "No Order found")

def updateAfterRead (env : Env) (args : UpdateOrderArgs) (order : Order) : Tx Order := do
  checkUpdater args order
  assertOrderStatusTransition order.status (args.dto.status.getD order.status)
    order.driverId.isSome
  applyOrderUpdate env args order

/-- What `updateOrder` does with an order read outside its transaction. -/
def updateOrderSeeing (env : Env) (args : UpdateOrderArgs) (seen : Db) : Tx Order := do
  require (args.dto.status ≠ none ∨ args.dto.notes ≠ none)
    (.badRequest "Send at least one of: status, notes")
  let order ← fetch (fun _ => seen.orders.find? args.orderId) (.notFound "Order not found")
  updateAfterRead env args order

def OrdersService.updateOrder (env : Env) (args : UpdateOrderArgs) : Tx Order := do
  let db ← get
  updateOrderSeeing env args db

namespace UpdateOrderArgs

def updatedDb (env : Env) (args : UpdateOrderArgs) (order : Order) (db : Db) : Db :=
  { db with
    orders := db.orders.update args.orderId (args.updatedRow env order)
      (args.updatedRow_id env order) }

def saleRows (args : UpdateOrderArgs) (order : Order) : List GeneralLedgerEntry :=
  if args.Completing order ∧ ¬ order.posPaymentMethod.GatewayBacked then
    [args.saleRow order]
  else []

end UpdateOrderArgs

inductive UpdateSettlement (env : Env) (args : UpdateOrderArgs) (order : Order) (db db' : Db) : Prop
  | none (hnone : ¬ (order.walletSettledAt = none ∧ args.WillBeCompleted order)) (hsame : db' = db)
  | some (hunsettled : order.walletSettledAt = none) (hcompleted : args.WillBeCompleted order)
      {row : Order} (hrow : db.orders.find? args.orderId = some row)
      (hresult : SettlementResult env args.orderId args.userId row.settlementPrefetch .none
        db db')

/-- An update that commits: the row is there, the edge is allowed, and a completion settles the
wallet and books the sale once. -/
structure OrderUpdated (env : Env) (args : UpdateOrderArgs) (order : Order)
    (db db' : Db) : Prop where
  row : ∃ row, db.orders.find? args.orderId = some row
  allowed : order.status = args.dto.status.getD order.status ∨
    StatusEdge order.status (args.dto.status.getD order.status) order.driverId.isSome
  effects : ∃ mid, UpdateSettlement env args order (args.updatedDb env order db) mid ∧
    Booked [] (args.saleRows order) mid db'

theorem commits_checkUpdater {args : UpdateOrderArgs} {order : Order} {a : Unit}
    {db db' : Db} (hcommits : (checkUpdater args order).Commits db a db') :
    db = db' := by
  unfold checkUpdater at hcommits
  by_cases hdriver : args.role = .DRIVER
  · rw [if_pos hdriver, commits_require] at hcommits
    exact hcommits.2
  · rw [if_neg hdriver, commits_require] at hcommits
    exact hcommits.2

theorem commits_updateAfterRead {env : Env} {args : UpdateOrderArgs} {order result : Order}
    {db db' : Db} (henv : env.StoreHealthy)
    (hcommits : (updateAfterRead env args order).Commits db result db') :
    OrderUpdated env args order db db' := by
  unfold updateAfterRead applyOrderUpdate transaction at hcommits
  simp only [commits_bind, commits_assertOrderStatusTransition, commits_atomically,
    updateOrder, commits_fetch, commits_modify] at hcommits
  obtain ⟨_, _, hchecked, _, _, ⟨hallowed, rfl⟩, hrest⟩ := hcommits
  obtain rfl := commits_checkUpdater hchecked
  obtain ⟨_, updated, ⟨row, _, ⟨hrow, rfl⟩, hupdated⟩, ⟨⟩, mid, hsettle, ⟨⟩, last, hsale,
    _, hlast⟩ := hrest
  subst hlast
  refine ⟨⟨row, hrow⟩, hallowed, mid, ?_, ?_⟩
  · have hdb : updated = args.updatedDb env order db := hupdated
    rw [← hdb]
    rcases commits_whenever.1 hsettle with ⟨⟨hunsettled, hcompleted⟩, hsettled⟩ | ⟨hnone, hsame⟩
    · obtain ⟨o, ho, hresult⟩ := commits_applyOrderWalletSettlement henv hsettled
      obtain ⟨found, hfound, rfl⟩ := Option.map_eq_some_iff.1 ho
      exact .some hunsettled hcompleted hfound hresult
    · exact .none hnone hsame.symm
  · unfold UpdateOrderArgs.saleRows
    rcases commits_whenever.1 hsale with ⟨hsold, hledger⟩ | ⟨hnone, hsame⟩
    · rw [if_pos hsold]
      exact commits_generalLedgerAppend hledger
    · rw [if_neg hnone, hsame]
      exact Booked.refl _

/-- Every update that commits is of the order it read and does what `OrderUpdated` says. -/
theorem commits_updateOrder {env : Env} {args : UpdateOrderArgs} {result : Order}
    {db db' : Db} (henv : env.StoreHealthy)
    (hcommits : (OrdersService.updateOrder env args).Commits db result db') :
    ∃ order, db.orders.find? args.orderId = some order ∧
      OrderUpdated env args order db db' := by
  unfold OrdersService.updateOrder updateOrderSeeing at hcommits
  simp only [commits_bind, commits_get, commits_require, commits_fetch] at hcommits
  obtain ⟨_, _, ⟨rfl, rfl⟩, _, _, ⟨_, rfl⟩, order, _, ⟨hrow, rfl⟩, hupdate⟩ := hcommits
  exact ⟨order, hrow, commits_updateAfterRead henv hupdate⟩

namespace Sample

theorem driverId_ne_empty : "driver" ≠ "" := by decide

def driver : User := ⟨"driver", .DRIVER, none, driverId_ne_empty⟩

def onTheRoad (method : PosPaymentMethod) : Order :=
  { order "order" with
    status := .OUT_FOR_DELIVERY
    posPaymentMethod := method
    driverId := some "driver" }

def deliveryShop (method : PosPaymentMethod) (wallet : CustomerWallet) : Db :=
  { shop wallet ⟨[onTheRoad method], List.nodup_singleton _⟩ with
    users := [owner, driver] }

def delivery : UpdateOrderArgs where
  orderId := "order"
  dto := ⟨some .COMPLETED, none⟩
  userId := "driver"
  role := .DRIVER

end Sample

end SafariLaundry
