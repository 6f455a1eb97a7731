import SafariLaundry.Domain
import SafariLaundry.Library.History
import SafariLaundry.Library.Selection

/-!
# Debt transfers between drivers

An accountant opens a transfer over a leaving driver's cash orders, both drivers sign,
and the accountant finalizes it in one transaction that moves the orders and posts a
balancing pair, or cancels it.  Opening, signing and cancelling check first and write
later.
-/

namespace SafariLaundry.DebtTransfers

open Library Library.Transaction

structure Driver extends User where
  isActive : Bool

structure DriverOrder extends Order where
  transferredFromDriverId : Option Uuid
  deriving DecidableEq

def DriverOrder.key (order : DriverOrder) : Uuid := order.id

inductive DebtTransferStatus
  | DRAFT | AWAITING_SIGNATURES | COMPLETED | CANCELLED
  deriving DecidableEq

def DebtTransferStatus.name : DebtTransferStatus → String
  | .DRAFT => "DRAFT"
  | .AWAITING_SIGNATURES => "AWAITING_SIGNATURES"
  | .COMPLETED => "COMPLETED"
  | .CANCELLED => "CANCELLED"

structure DebtTransferOrder where
  orderId : Uuid
  amountSnapshot : ℤ
  deriving DecidableEq

structure DebtTransfer where
  (id sourceDriverId targetDriverId : Uuid)
  totalAmount : ℤ
  orderCount : ℕ
  (reason notes : Option String)
  status : DebtTransferStatus
  executedById : Uuid
  executedByRole : SafariRole
  (sourceSignedAt targetSignedAt finalizedAt cancelledAt : Option Timestamp)
  cancelledReason : Option String
  cancelledById : Option Uuid
  systemSignature : Option String
  orders : List DebtTransferOrder
  deriving DecidableEq

def DebtTransfer.orderIds (transfer : DebtTransfer) : List Uuid :=
  transfer.orders.map DebtTransferOrder.orderId

inductive TransferDirection
  | OUT | IN
  deriving DecidableEq

/-- A `DEBT_ADJUSTMENT` row of the general ledger, its metadata among its columns. -/
structure DebtAdjustment where
  transferId : Uuid
  direction : TransferDirection
  (sourceDriverId targetDriverId : Uuid)
  orderCount : ℕ
  amount : ℤ
  memo : String
  actorUserId : Uuid
  deriving DecidableEq

structure DebtTransferDb where
  users : Table (fun driver : Driver => driver.id)
  orders : Table DriverOrder.key
  transfers : Table DebtTransfer.id
  generalLedger : List DebtAdjustment

abbrev DebtTransferTx (α : Type) := Library.Transaction ServiceError DebtTransferDb α

/-! ## Create -/

structure CreateDebtTransferDto where
  (sourceDriverId targetDriverId : Uuid)
  orderIds : List Uuid
  (reason notes : Option String)

structure CreateReads where
  (users orders locks : DebtTransferDb)

structure TransferEnv where
  now : Timestamp
  newTransferId : Uuid
  systemSignature : String

/-- Everything but cancelled: the statuses that lock an order. -/
def DebtTransfer.Active (transfer : DebtTransfer) : Prop :=
  transfer.status = .DRAFT ∨ transfer.status = .AWAITING_SIGNATURES ∨ transfer.status = .COMPLETED
  deriving Decidable

def alreadyLocked (orderIds : List Uuid) (db : DebtTransferDb) : List Uuid :=
  (db.transfers.rows.filter fun transfer => transfer.Active).flatMap fun transfer =>
    transfer.orderIds.filter fun orderId => orderId ∈ orderIds

def DriverOrder.HeldBy (order : DriverOrder) (driverId : Uuid) : Prop :=
  order.driverId = some driverId ∧ order.status = .COMPLETED ∧ order.cashStatus = .PAID_TO_DRIVER
  deriving Decidable

def ordersOf (orderIds : List Uuid) (db : DebtTransferDb) : List DriverOrder :=
  db.orders.rows.filter fun order => order.id ∈ orderIds

def newTransfer (env : TransferEnv) (executorId : Uuid) (executorRole : SafariRole)
    (dto : CreateDebtTransferDto) (orders : List DriverOrder) : DebtTransfer where
  id := env.newTransferId
  sourceDriverId := dto.sourceDriverId
  targetDriverId := dto.targetDriverId
  totalAmount := (orders.map fun order => order.totalPrice).sum
  orderCount := orders.length
  reason := dto.reason
  notes := dto.notes
  status := .AWAITING_SIGNATURES
  executedById := executorId
  executedByRole := executorRole
  sourceSignedAt := none
  targetSignedAt := none
  finalizedAt := none
  cancelledAt := none
  cancelledReason := none
  cancelledById := none
  systemSignature := none
  orders := orders.map fun order => ⟨order.id, order.totalPrice⟩

def createSeeing (env : TransferEnv) (executorId : Uuid) (executorRole : SafariRole)
    (dto : CreateDebtTransferDto) (seen : CreateReads) : DebtTransferTx DebtTransfer := do
  require (executorRole = .ACCOUNTANT) (.forbidden "Only ACCOUNTANT may initiate a debt transfer.")
  require (dto.sourceDriverId ≠ dto.targetDriverId)
    (.badRequest "Source and target drivers must be different.")
  require (dto.orderIds ≠ []) (.badRequest "At least one order must be included in the transfer.")
  let source ← fetch (fun _ => seen.users.users.find? dto.sourceDriverId)
    (.notFound "Source driver not found.")
  let target ← fetch (fun _ => seen.users.users.find? dto.targetDriverId)
    (.notFound "Target driver not found.")
  require (source.safariRole = .DRIVER) (.badRequest "Source must be a DRIVER.")
  require (target.safariRole = .DRIVER) (.badRequest "Target must be a DRIVER.")
  require (target.isActive = true) (.badRequest "Target driver is deactivated.")
  let orderIds := dto.orderIds.eraseDups
  let orders := ordersOf orderIds seen.orders
  require (orders.length = orderIds.length) (.badRequest "One or more orders not found.")
  let invalid := orders.filter fun order => ¬ order.HeldBy dto.sourceDriverId
  require (invalid = []) (.badRequest
    ("Orders must belong to source driver and be COMPLETED + PAID_TO_DRIVER. Invalid count: "
      ++ toString invalid.length))
  let locked := alreadyLocked orderIds seen.locks
  require (locked = [])
    (.badRequest ("Orders already attached to another transfer: " ++
      String.intercalate ", " locked))
  let transfer := newTransfer env executorId executorRole dto orders
  let transfers ← fetch (fun db => db.transfers.insert transfer)
    (.database "Unique constraint failed on the fields: (id)")
  modify fun db => { db with transfers := transfers }
  return transfer

def updateTransfer (transferId : Uuid) (f : DebtTransfer → DebtTransfer)
    (hf : ∀ transfer, (f transfer).id = transfer.id) : DebtTransferTx DebtTransfer := do
  let transfer ← fetch (fun db => db.transfers.find? transferId)
    (.database "Record to update not found.")
  modify fun db => { db with transfers := db.transfers.update transferId f hf }
  return f transfer

structure SigningParty where
  driverId : DebtTransfer → Uuid
  signedAt : DebtTransfer → Option Timestamp
  sign : Timestamp → DebtTransfer → DebtTransfer
  sign_id : ∀ now transfer, (sign now transfer).id = transfer.id
  (notTheDriver signedAlready : String)

def sourceParty : SigningParty where
  driverId := DebtTransfer.sourceDriverId
  signedAt := DebtTransfer.sourceSignedAt
  sign := fun now transfer => { transfer with sourceSignedAt := some now }
  sign_id := fun _ _ => rfl
  notTheDriver := "Only the source driver may sign as source."
  signedAlready := "Source has already signed."

def targetParty : SigningParty where
  driverId := DebtTransfer.targetDriverId
  signedAt := DebtTransfer.targetSignedAt
  sign := fun now transfer => { transfer with targetSignedAt := some now }
  sign_id := fun _ _ => rfl
  notTheDriver := "Only the target driver may sign as target."
  signedAlready := "Target has already signed."

def requireAwaiting (transfer : DebtTransfer) : DebtTransferTx Unit :=
  require (transfer.status = .AWAITING_SIGNATURES)
    (.badRequest ("Transfer is not awaiting signatures (current: " ++ transfer.status.name ++ ")."))

def signSeeing (party : SigningParty) (now : Timestamp) (transferId signerId : Uuid)
    (seen : DebtTransferDb) : DebtTransferTx DebtTransfer := do
  let transfer ← fetch (fun _ => seen.transfers.find? transferId)
    (.notFound "Debt transfer not found.")
  requireAwaiting transfer
  require (party.driverId transfer = signerId) (.forbidden party.notTheDriver)
  require (party.signedAt transfer = none) (.badRequest party.signedAlready)
  updateTransfer transferId (party.sign now) (party.sign_id now)

def signAsSourceSeeing (now : Timestamp) (transferId signerId : Uuid)
    (seen : DebtTransferDb) : DebtTransferTx DebtTransfer :=
  signSeeing sourceParty now transferId signerId seen

def signAsTargetSeeing (now : Timestamp) (transferId signerId : Uuid)
    (seen : DebtTransferDb) : DebtTransferTx DebtTransfer :=
  signSeeing targetParty now transferId signerId seen

def DriverOrder.reassigned (transfer : DebtTransfer) (read stored : DriverOrder) :
    DriverOrder :=
  { stored with
    driverId := some transfer.targetDriverId
    transferredFromDriverId :=
      read.transferredFromDriverId.orElse fun _ => some transfer.sourceDriverId }

theorem DriverOrder.reassigned_key (transfer : DebtTransfer) (read stored : DriverOrder) :
    (DriverOrder.reassigned transfer read stored).key = stored.key := rfl

def reassignOrder (transfer : DebtTransfer) (order : DriverOrder) : DebtTransferTx Unit :=
  modify fun db => { db with
    orders := db.orders.update order.id (DriverOrder.reassigned transfer order)
      (DriverOrder.reassigned_key transfer order) }

namespace DebtTransfer

def outEntry (transfer : DebtTransfer) : DebtAdjustment where
  transferId := transfer.id
  direction := .OUT
  sourceDriverId := transfer.sourceDriverId
  targetDriverId := transfer.targetDriverId
  orderCount := transfer.orderCount
  amount := -transfer.totalAmount
  memo := "Debt transfer out (driver leaving) — " ++ transfer.id
  actorUserId := transfer.sourceDriverId

def inEntry (transfer : DebtTransfer) : DebtAdjustment where
  transferId := transfer.id
  direction := .IN
  sourceDriverId := transfer.sourceDriverId
  targetDriverId := transfer.targetDriverId
  orderCount := transfer.orderCount
  amount := transfer.totalAmount
  memo := "Debt transfer in (driver accepting) — " ++ transfer.id
  actorUserId := transfer.targetDriverId

def finalizedBy (env : TransferEnv) (transfer : DebtTransfer) : DebtTransfer :=
  { transfer with
    status := .COMPLETED
    finalizedAt := some env.now
    systemSignature := some env.systemSignature }

def cancelledBy (now : Timestamp) (cancellerId : Uuid) (reason : Option String)
    (transfer : DebtTransfer) : DebtTransfer :=
  { transfer with
    status := .CANCELLED
    cancelledAt := some now
    cancelledById := some cancellerId
    cancelledReason := reason }

theorem finalizedBy_id (env : TransferEnv) (transfer : DebtTransfer) :
    (transfer.finalizedBy env).id = transfer.id := rfl

theorem cancelledBy_id (now : Timestamp) (cancellerId : Uuid) (reason : Option String)
    (transfer : DebtTransfer) :
    (transfer.cancelledBy now cancellerId reason).id = transfer.id := rfl

end DebtTransfer

def appendEntry (entry : DebtAdjustment) : DebtTransferTx Unit :=
  modify fun db => { db with generalLedger := db.generalLedger ++ [entry] }

def finalize (env : TransferEnv) (transferId : Uuid) (executorRole : SafariRole) :
    DebtTransferTx DebtTransfer := do
  require (executorRole = .ACCOUNTANT) (.forbidden "Only ACCOUNTANT may finalize a debt transfer.")
  atomically (fun before _ => before) do
    let transfer ← fetch (fun db => db.transfers.find? transferId)
      (.notFound "Debt transfer not found.")
    requireAwaiting transfer
    require (transfer.sourceSignedAt ≠ none ∧ transfer.targetSignedAt ≠ none)
      (.badRequest "Both source and target drivers must sign before finalization.")
    let currentOrders ← reads (ordersOf transfer.orderIds)
    require (currentOrders.length = transfer.orderIds.length)
      (.badRequest "One or more orders no longer exist for finalization.")
    let stale := currentOrders.filter fun order => ¬ order.HeldBy transfer.sourceDriverId
    require (stale = []) (.badRequest
      ("Some orders have shifted state since signing (count: " ++ toString stale.length ++
        "). Cancel and recreate the transfer."))
    currentOrders.forM (reassignOrder transfer)
    appendEntry transfer.outEntry
    appendEntry transfer.inEntry
    updateTransfer transferId (DebtTransfer.finalizedBy env) (DebtTransfer.finalizedBy_id env)

def cancelSeeing (now : Timestamp) (transferId cancellerId : Uuid)
    (cancellerRole : SafariRole) (reason : Option String) (seen : DebtTransferDb) :
    DebtTransferTx DebtTransfer := do
  require (cancellerRole = .ACCOUNTANT) (.forbidden "Only ACCOUNTANT may cancel a debt transfer.")
  let transfer ← fetch (fun _ => seen.transfers.find? transferId)
    (.notFound "Debt transfer not found.")
  require (transfer.status = .DRAFT ∨ transfer.status = .AWAITING_SIGNATURES)
    (.badRequest "Only DRAFT or AWAITING_SIGNATURES transfers can be cancelled.")
  updateTransfer transferId (DebtTransfer.cancelledBy now cancellerId reason)
    (DebtTransfer.cancelledBy_id now cancellerId reason)

inductive TransferCall
  | create (env : TransferEnv) (executorId : Uuid) (executorRole : SafariRole)
      (dto : CreateDebtTransferDto) (seen : CreateReads)
  | signAsSource (now : Timestamp) (transferId signerId : Uuid) (seen : DebtTransferDb)
  | signAsTarget (now : Timestamp) (transferId signerId : Uuid) (seen : DebtTransferDb)
  | finalize (env : TransferEnv) (transferId : Uuid) (executorRole : SafariRole)
  | cancel (now : Timestamp) (transferId cancellerId : Uuid) (cancellerRole : SafariRole)
      (reason : Option String) (seen : DebtTransferDb)

namespace TransferCall

def run : TransferCall → DebtTransferTx DebtTransfer
  | .create env executorId executorRole dto seen =>
      createSeeing env executorId executorRole dto seen
  | .signAsSource now transferId signerId seen =>
      signAsSourceSeeing now transferId signerId seen
  | .signAsTarget now transferId signerId seen =>
      signAsTargetSeeing now transferId signerId seen
  | .finalize env transferId executorRole =>
      DebtTransfers.finalize env transferId executorRole
  | .cancel now transferId cancellerId cancellerRole reason seen =>
      cancelSeeing now transferId cancellerId cancellerRole reason seen

def seen : TransferCall → List DebtTransferDb
  | .create _ _ _ _ seen => [seen.users, seen.orders, seen.locks]
  | .signAsSource _ _ _ seen | .signAsTarget _ _ _ seen | .cancel _ _ _ _ _ seen => [seen]
  | .finalize _ _ _ => []

end TransferCall

def transferCalls : Calls DebtTransferDb TransferCall where
  step := fun call db => (call.run.outcome db).2
  seen := TransferCall.seen

end SafariLaundry.DebtTransfers
