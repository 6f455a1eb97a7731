import SafariLaundry.GatewayText
import SafariLaundry.Library.Decimal
import SafariLaundry.Library.History
import SafariLaundry.Library.Selection

/-!
# Stock levels, average costs and movements

Six operations change a level, its average cost and the list of movements, each in
writes of its own.  A level is missing until something is first moved at its branch,
may go negative through sales, and may be without an average cost.
-/

namespace SafariLaundry.Inventory

open Library Library.Bookkeeping Library.Transaction

structure StockItem where
  id : Uuid
  isActive : Bool
  lastUnitCost : Option ℤ

structure BranchStockLevel where
  (branchId stockItemId : Uuid)
  quantityOnHand : ℤ
  avgUnitCost : Option ℤ

abbrev LevelKey := Uuid × Uuid

def BranchStockLevel.key (level : BranchStockLevel) : LevelKey :=
  (level.branchId, level.stockItemId)

inductive StockMovementType
  | STOCK_IN | STOCK_OUT | ADJUSTMENT | TRANSFER_OUT | TRANSFER_IN

structure Movement where
  (stockItemId branchId : Uuid)
  type : StockMovementType
  quantity : ℤ
  (unitCost totalCost : Option ℤ)
  supplierId : Option Uuid
  recordedById : Uuid
  (reference note receiptUrl : Option String)

def Movement.key (movement : Movement) : LevelKey := (movement.branchId, movement.stockItemId)

structure SoldLine where
  orderId : Uuid
  stockItemId : Option Uuid
  quantity : ℤ
  label : Option String

structure InventoryDb where
  items : Table StockItem.id
  branches : List Uuid
  levels : Table BranchStockLevel.key
  movements : List Movement
  orderLines : List SoldLine

structure InventoryEnv where
  (transferReference countReference : String)
  newSupplierId : Uuid

abbrev InventoryTx (α : Type) := Library.Transaction ServiceError InventoryDb α

def inventoryTransaction {α : Type} (body : InventoryTx α) : InventoryTx α :=
  atomically (fun before _ => before) body

def totalCost (quantity : ℤ) (unitCost : Option ℤ) : Option ℤ :=
  unitCost.map fun cost => Decimal.roundHalfAway ((quantity * cost : ℤ) / 10000)

def weightedAverage (prevAvg prevQty unitCost quantity : ℤ) : ℤ :=
  Decimal.roundHalfAway
    ((prevAvg * prevQty + unitCost * quantity : ℤ) / ((prevQty + quantity : ℤ) : ℚ))

namespace BranchStockLevel

def withQuantity (quantity : ℤ) (level : BranchStockLevel) : BranchStockLevel :=
  { level with quantityOnHand := quantity }

def withCost (quantity : ℤ) (avgUnitCost : Option ℤ) (level : BranchStockLevel) :
    BranchStockLevel :=
  { level with quantityOnHand := quantity, avgUnitCost := avgUnitCost }

theorem withQuantity_key (quantity : ℤ) (level : BranchStockLevel) :
    (level.withQuantity quantity).key = level.key := rfl

theorem withCost_key (quantity : ℤ) (avgUnitCost : Option ℤ) (level : BranchStockLevel) :
    (level.withCost quantity avgUnitCost).key = level.key := rfl

end BranchStockLevel

def updateQuantity (key : LevelKey) (quantity : ℤ) : InventoryTx Unit :=
  modify fun db => { db with
    levels := db.levels.update key (BranchStockLevel.withQuantity quantity)
      (BranchStockLevel.withQuantity_key quantity) }

def updateCost (key : LevelKey) (quantity : ℤ) (avgUnitCost : Option ℤ) : InventoryTx Unit :=
  modify fun db => { db with
    levels := db.levels.update key (BranchStockLevel.withCost quantity avgUnitCost)
      (BranchStockLevel.withCost_key quantity avgUnitCost) }

def createLevel (level : BranchStockLevel) : InventoryTx Unit := do
  let levels ← fetch (fun db => db.levels.insert level)
    (.database "Unique constraint failed on the fields: (branchId,stockItemId)")
  modify fun db => { db with levels := levels }

def recordMovement (movement : Movement) : InventoryTx Unit :=
  modify fun db => { db with movements := db.movements ++ [movement] }

def findOrCreateLevel (branchId stockItemId : Uuid) : InventoryTx BranchStockLevel := do
  let found ← reads fun db => db.levels.find? (branchId, stockItemId)
  match found with
  | some level => pure level
  | none => do
      createLevel ⟨branchId, stockItemId, 0, none⟩
      return ⟨branchId, stockItemId, 0, none⟩

def requireBranch (branchId : Uuid) (message : String) : InventoryTx Unit := do
  let known ← reads fun db => decide (branchId ∈ db.branches)
  require (known = true) (.notFound message)

def fetchActiveItem (stockItemId : Uuid) (message : String) : InventoryTx StockItem := do
  let item ← fetch (fun db => db.items.find? stockItemId) (.notFound message)
  require (item.isActive = true) (.notFound message)
  return item

def ensureItemAndLevel (stockItemId branchId : Uuid) :
    InventoryTx (StockItem × BranchStockLevel) := do
  let item ← fetchActiveItem stockItemId "Stock item not found or inactive."
  requireBranch branchId "Branch not found."
  let level ← findOrCreateLevel branchId stockItemId
  return (item, level)

def unitCostOf (level : BranchStockLevel) (item : StockItem) : Option ℤ :=
  level.avgUnitCost.orElse fun _ => item.lastUnitCost

structure MovementResult where
  movement : Movement
  newQuantityOnHand : ℤ

/-- Quantities of the requests are positive: the validation pipe refuses others. -/
structure StockInDto where
  (stockItemId branchId : Uuid)
  (quantity unitCost : ℤ)
  supplierId : Option Uuid
  (supplierName reference note receiptUrl : Option String)
  quantity_pos : 0 < quantity

structure StockInResult where
  movement : Movement
  (newQuantityOnHand newAvgUnitCost : ℤ)

def StockInDto.movement (dto : StockInDto) (env : InventoryEnv) (userId : Uuid) :
    Movement where
  stockItemId := dto.stockItemId
  branchId := dto.branchId
  type := .STOCK_IN
  quantity := dto.quantity
  unitCost := some dto.unitCost
  totalCost := totalCost dto.quantity (some dto.unitCost)
  supplierId := dto.supplierId.orElse fun _ => dto.supplierName.map fun _ => env.newSupplierId
  recordedById := userId
  reference := trimmed dto.reference
  note := trimmed dto.note
  receiptUrl := dto.receiptUrl

def withLastCost (unitCost : ℤ) (item : StockItem) : StockItem :=
  { item with lastUnitCost := some unitCost }

def averageIn (level : BranchStockLevel) (quantity unitCost : ℤ) : ℤ :=
  if level.quantityOnHand + quantity = 0 then unitCost
  else weightedAverage (level.avgUnitCost.getD 0) level.quantityOnHand unitCost quantity

def stockIn (env : InventoryEnv) (dto : StockInDto) (userId : Uuid) :
    InventoryTx StockInResult := do
  let _ ← fetchActiveItem dto.stockItemId "Stock item not found or inactive"
  requireBranch dto.branchId "Branch not found"
  require (dto.supplierId ≠ none ∨ trimmed dto.supplierName ≠ none)
    (.badRequest "Supplier required: supply either supplierId or supplierName.")
  inventoryTransaction do
    let existing ← reads fun db => db.levels.find? (dto.branchId, dto.stockItemId)
    let result := match existing with
      | some level => (level.quantityOnHand + dto.quantity,
          averageIn level dto.quantity dto.unitCost)
      | none => (dto.quantity, dto.unitCost)
    match existing with
    | some level => updateCost level.key result.1 (some result.2)
    | none => createLevel ⟨dto.branchId, dto.stockItemId, result.1, some result.2⟩
    modify fun db => { db with
      items := db.items.update dto.stockItemId (withLastCost dto.unitCost) fun _ => rfl }
    recordMovement (dto.movement env userId)
    return ⟨dto.movement env userId, result.1, result.2⟩

structure StockOutDto where
  (stockItemId branchId : Uuid)
  quantity : ℤ
  (reference note : Option String)
  quantity_pos : 0 < quantity

def stockOutMovement (dto : StockOutDto) (unitCost : Option ℤ) (userId : Uuid) :
    Movement where
  stockItemId := dto.stockItemId
  branchId := dto.branchId
  type := .STOCK_OUT
  quantity := -dto.quantity
  unitCost := unitCost
  totalCost := (totalCost dto.quantity unitCost).map fun cost => -cost
  supplierId := none
  recordedById := userId
  reference := trimmed dto.reference
  note := trimmed dto.note
  receiptUrl := none

def stockOut (dto : StockOutDto) (userId : Uuid) : InventoryTx MovementResult :=
  inventoryTransaction do
    let (item, level) ← ensureItemAndLevel dto.stockItemId dto.branchId
    require (dto.quantity ≤ level.quantityOnHand)
      (.badRequest ("Insufficient stock at branch. Available: " ++
        minorToAmountString level.quantityOnHand ++ ", requested: " ++
        minorToAmountString dto.quantity ++ "."))
    let newQty := level.quantityOnHand - dto.quantity
    let movement := stockOutMovement dto (unitCostOf level item) userId
    updateQuantity (dto.branchId, dto.stockItemId) newQty
    recordMovement movement
    return ⟨movement, newQty⟩

structure StockAdjustmentDto where
  (stockItemId branchId : Uuid)
  delta : ℤ
  reason : String
  reference : Option String

def adjustmentMovement (stockItemId branchId : Uuid) (delta : ℤ) (unitCost : Option ℤ)
    (userId : Uuid) (reference note : Option String) : Movement where
  stockItemId := stockItemId
  branchId := branchId
  type := .ADJUSTMENT
  quantity := delta
  unitCost := unitCost
  totalCost := totalCost delta unitCost
  supplierId := none
  recordedById := userId
  reference := reference
  note := note
  receiptUrl := none

def adjust (dto : StockAdjustmentDto) (userId : Uuid) : InventoryTx MovementResult := do
  require (dto.delta ≠ 0) (.badRequest "delta must not be zero.")
  inventoryTransaction do
    let (item, level) ← ensureItemAndLevel dto.stockItemId dto.branchId
    let newQty := level.quantityOnHand + dto.delta
    require (0 ≤ newQty)
      (.badRequest ("Adjustment would take stock below zero (current: " ++
        minorToAmountString level.quantityOnHand ++ ")."))
    let movement := adjustmentMovement dto.stockItemId dto.branchId dto.delta
      (unitCostOf level item) userId (trimmed dto.reference) (some (trim dto.reason))
    updateQuantity (dto.branchId, dto.stockItemId) newQty
    recordMovement movement
    return ⟨movement, newQty⟩

structure StockTransferDto where
  (stockItemId fromBranchId toBranchId : Uuid)
  quantity : ℤ
  (reference note : Option String)
  quantity_pos : 0 < quantity

structure TransferResult where
  reference : String
  (out into : MovementResult)

def transferMovement (dto : StockTransferDto) (type : StockMovementType) (branchId : Uuid)
    (quantity : ℤ) (unitCost total : Option ℤ) (userId : Uuid) (reference : String) :
    Movement where
  stockItemId := dto.stockItemId
  branchId := branchId
  type := type
  quantity := quantity
  unitCost := unitCost
  totalCost := total
  supplierId := none
  recordedById := userId
  reference := some reference
  note := trimmed dto.note
  receiptUrl := none

def averageAfterTransfer (level : BranchStockLevel) (quantity : ℤ) : Option ℤ → Option ℤ
  | some unitCost =>
      if 0 < level.quantityOnHand + quantity then
        some (weightedAverage (level.avgUnitCost.getD 0) level.quantityOnHand unitCost quantity)
      else some unitCost
  | none => level.avgUnitCost

def receiveTransfer (dto : StockTransferDto) (unitCost : Option ℤ) : InventoryTx ℤ := do
  let existing ← reads fun db => db.levels.find? (dto.toBranchId, dto.stockItemId)
  match existing with
  | some level => do
      updateCost level.key (level.quantityOnHand + dto.quantity)
        (averageAfterTransfer level dto.quantity unitCost)
      return level.quantityOnHand + dto.quantity
  | none => do
      createLevel ⟨dto.toBranchId, dto.stockItemId, dto.quantity, unitCost⟩
      return dto.quantity

def transfer (env : InventoryEnv) (dto : StockTransferDto) (userId : Uuid) :
    InventoryTx TransferResult := do
  require (dto.fromBranchId ≠ dto.toBranchId)
    (.badRequest "fromBranchId and toBranchId must differ.")
  inventoryTransaction do
    let (item, fromLevel) ← ensureItemAndLevel dto.stockItemId dto.fromBranchId
    require (dto.quantity ≤ fromLevel.quantityOnHand)
      (.badRequest ("Insufficient stock at source branch. Available: " ++
        minorToAmountString fromLevel.quantityOnHand ++ "."))
    requireBranch dto.toBranchId "Destination branch not found."
    let unitCost := unitCostOf fromLevel item
    let total := totalCost dto.quantity unitCost
    let reference := (trimmed dto.reference).getD env.transferReference
    let newFromQty := fromLevel.quantityOnHand - dto.quantity
    let outMovement := transferMovement dto .TRANSFER_OUT dto.fromBranchId (-dto.quantity)
      unitCost (total.map fun cost => -cost) userId reference
    let inMovement := transferMovement dto .TRANSFER_IN dto.toBranchId dto.quantity
      unitCost total userId reference
    updateQuantity (dto.fromBranchId, dto.stockItemId) newFromQty
    recordMovement outMovement
    let newToQty ← receiveTransfer dto unitCost
    recordMovement inMovement
    return ⟨reference, ⟨outMovement, newFromQty⟩, ⟨inMovement, newToQty⟩⟩

structure StocktakeLineDto where
  stockItemId : Uuid
  countedQuantity : ℤ
  note : Option String

structure StocktakeDto where
  branchId : Uuid
  (reference note : Option String)
  lines : List StocktakeLineDto

def countLine (dto : StocktakeDto) (reference : String) (userId : Uuid)
    (line : StocktakeLineDto) : InventoryTx Unit := do
  let (item, level) ← ensureItemAndLevel line.stockItemId dto.branchId
  let delta := line.countedQuantity - level.quantityOnHand
  whenever (delta ≠ 0) do
    updateQuantity (dto.branchId, line.stockItemId) line.countedQuantity
    recordMovement (adjustmentMovement line.stockItemId dto.branchId delta
      (unitCostOf level item) userId (some reference)
      (some (((trimmed line.note).orElse fun _ => trimmed dto.note).getD
        "Physical stocktake adjustment")))

def stocktake (env : InventoryEnv) (dto : StocktakeDto) (userId : Uuid) : InventoryTx Unit :=
  inventoryTransaction do
    requireBranch dto.branchId "Branch not found."
    dto.lines.forM (countLine dto ((trimmed dto.reference).getD env.countReference) userId)

structure DecrementArgs where
  (orderId actorUserId : Uuid)
  branchId : Option Uuid
  reference : Option String

def DecrementArgs.movement (args : DecrementArgs) (branchId stockItemId : Uuid)
    (line : SoldLine) (unitCost : Option ℤ) : Movement where
  stockItemId := stockItemId
  branchId := branchId
  type := .STOCK_OUT
  quantity := -line.quantity
  unitCost := unitCost
  totalCost := (totalCost line.quantity unitCost).map fun cost => -cost
  supplierId := none
  recordedById := args.actorUserId
  reference := some ((trimmed args.reference).getD ("ORDER-" ++ (args.orderId.take 8).toString))
  note := some (line.label.getD "POS sale")
  receiptUrl := none

def sellLine (args : DecrementArgs) (branchId : Uuid) (line : SoldLine) : InventoryTx Unit :=
  match line.stockItemId with
  | none => pure ()
  | some stockItemId => do
      let known ← reads fun db => db.items.find? stockItemId
      match known with
      | none => pure ()
      | some item => do
          let level ← findOrCreateLevel branchId stockItemId
          updateQuantity (branchId, stockItemId) (level.quantityOnHand - line.quantity)
          recordMovement (args.movement branchId stockItemId line (unitCostOf level item))

def applyOrderStockDecrement (args : DecrementArgs) : InventoryTx Unit :=
  match args.branchId with
  | none => pure ()
  | some branchId => do
      let lines ← reads fun db => db.orderLines.filter fun line =>
        line.orderId = args.orderId ∧ line.stockItemId ≠ none
      let known ← reads fun db => decide (branchId ∈ db.branches)
      whenever (lines ≠ [] ∧ known = true) (lines.forM (sellLine args branchId))

inductive StockOperation
  | stockIn (env : InventoryEnv) (dto : StockInDto) (userId : Uuid)
  | stockOut (dto : StockOutDto) (userId : Uuid)
  | adjust (dto : StockAdjustmentDto) (userId : Uuid)
  | transfer (env : InventoryEnv) (dto : StockTransferDto) (userId : Uuid)
  | stocktake (env : InventoryEnv) (dto : StocktakeDto) (userId : Uuid)
  | decrement (args : DecrementArgs)

def StockOperation.step : StockOperation → InventoryDb → InventoryDb
  | .stockIn env dto userId, db => ((Inventory.stockIn env dto userId).outcome db).2
  | .stockOut dto userId, db => ((Inventory.stockOut dto userId).outcome db).2
  | .adjust dto userId, db => ((Inventory.adjust dto userId).outcome db).2
  | .transfer env dto userId, db => ((Inventory.transfer env dto userId).outcome db).2
  | .stocktake env dto userId, db => ((Inventory.stocktake env dto userId).outcome db).2
  | .decrement args, db => ((applyOrderStockDecrement args).outcome db).2

def operations : Calls InventoryDb StockOperation where
  step := StockOperation.step
  seen := fun _ => []

end SafariLaundry.Inventory
