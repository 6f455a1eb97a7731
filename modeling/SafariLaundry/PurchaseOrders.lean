import SafariLaundry.Inventory
import SafariLaundry.Library.Threads

/-!
# Purchase orders

A delivery is checked against the lines as they were read, written in one transaction with
the quantities that follow from that reading, moved into the stock line by line, and ends
with the status that follows from the lines by then.  Receipts and cancellations of one
order interleave between these steps.
-/

namespace SafariLaundry

open Library Library.Transaction List

inductive PurchaseOrderStatus
  | DRAFT | SENT | PARTIALLY_RECEIVED | RECEIVED | CANCELLED
  deriving DecidableEq

structure PurchaseOrder where
  id : Uuid
  poNumber : String
  (supplierId branchId : Uuid)
  status : PurchaseOrderStatus
  cancelledReason : Option String

structure PurchaseOrderLine where
  (id stockItemId : Uuid)
  (quantityOrdered quantityReceived unitCost : ℤ)

structure PurchaseOrderReceiptLine where
  (purchaseOrderLineId stockItemId : Uuid)
  (quantityReceived unitCost : ℤ)

structure PurchaseFile where
  order : PurchaseOrder
  lines : Table PurchaseOrderLine.id
  receiptLines : List PurchaseOrderReceiptLine
  inventory : Inventory.InventoryDb
  /-- Not a table: the movements with the lines that they were made for, newest first. -/
  stockedIn : List (Uuid × Inventory.Movement)

/-- Quantities are positive: the validation pipe refuses others. -/
structure ReceivePurchaseOrderLineDto where
  purchaseOrderLineId : Uuid
  quantityReceived : ℤ
  unitCost : Option ℤ
  quantity_pos : 0 < quantityReceived

structure ReceivePurchaseOrderDto where
  lines : List ReceivePurchaseOrderLineDto
  note : Option String

/-- `toFixed(3)`. -/
def quantityText (quantity : ℤ) : String :=
  let fils := Decimal.roundHalfAway (quantity / 10)
  let fraction := toString (fils.natAbs % 1000)
  (if fils < 0 then "-" else "") ++ toString (fils.natAbs / 1000) ++ "." ++
    "".pushn '0' (3 - fraction.length) ++ fraction

def receiveLineError (lines : Table PurchaseOrderLine.id) (d : ReceivePurchaseOrderLineDto) :
    Option ServiceError :=
  match lines.find? d.purchaseOrderLineId with
  | none => some (.badRequest ("PO line " ++ d.purchaseOrderLineId ++
      " does not belong to this PO"))
  | some poLine =>
      if poLine.quantityOrdered < poLine.quantityReceived + d.quantityReceived then
        some (.badRequest ("Line over-receive: " ++
          quantityText (poLine.quantityReceived + d.quantityReceived) ++ " > ordered " ++
          quantityText poLine.quantityOrdered))
      else none

structure CheckedReceipt where
  order : PurchaseOrder
  lines : Table PurchaseOrderLine.id
  dto : ReceivePurchaseOrderDto
  userId : Uuid
  checked : ∀ d ∈ dto.lines, receiveLineError lines d = none

def PurchaseOrderStatus.text : PurchaseOrderStatus → String
  | .DRAFT => "DRAFT"
  | .SENT => "SENT"
  | .PARTIALLY_RECEIVED => "PARTIALLY_RECEIVED"
  | .RECEIVED => "RECEIVED"
  | .CANCELLED => "CANCELLED"

def checkReceipt (file : PurchaseFile) (dto : ReceivePurchaseOrderDto) (userId : Uuid) :
    Except ServiceError CheckedReceipt :=
  if file.order.status ≠ .SENT ∧ file.order.status ≠ .PARTIALLY_RECEIVED then
    .error (.badRequest ("PO " ++ file.order.poNumber ++ " is " ++ file.order.status.text ++
      "; only SENT / PARTIALLY_RECEIVED POs can receive stock"))
  else
    match hchecked : dto.lines.findSome? (receiveLineError file.lines) with
    | some err => .error err
    | none => .ok ⟨file.order, file.lines, dto, userId, List.findSome?_eq_none_iff.1 hchecked⟩

def PurchaseOrderLine.withReceived (quantityReceived : ℤ) (line : PurchaseOrderLine) :
    PurchaseOrderLine :=
  { line with quantityReceived := quantityReceived }

theorem PurchaseOrderLine.withReceived_id (quantityReceived : ℤ) (line : PurchaseOrderLine) :
    (line.withReceived quantityReceived).id = line.id := rfl

def PurchaseFile.receiveLine (read : Table PurchaseOrderLine.id)
    (d : ReceivePurchaseOrderLineDto) (file : PurchaseFile) : PurchaseFile :=
  match read.find? d.purchaseOrderLineId with
  | none => file
  | some poLine =>
      { file with
        receiptLines := file.receiptLines ++ [{
          purchaseOrderLineId := poLine.id
          stockItemId := poLine.stockItemId
          quantityReceived := d.quantityReceived
          unitCost := d.unitCost.getD poLine.unitCost }]
        lines := file.lines.update poLine.id
          (PurchaseOrderLine.withReceived (poLine.quantityReceived + d.quantityReceived))
          (PurchaseOrderLine.withReceived_id _) }

def PurchaseFile.receiveLines (read : Table PurchaseOrderLine.id)
    (lines : List ReceivePurchaseOrderLineDto) (file : PurchaseFile) : PurchaseFile :=
  lines.foldl (fun file d => file.receiveLine read d) file

def CheckedReceipt.stockInDto (receipt : CheckedReceipt) (poLine : PurchaseOrderLine)
    (d : ReceivePurchaseOrderLineDto) : Inventory.StockInDto where
  stockItemId := poLine.stockItemId
  branchId := receipt.order.branchId
  quantity := d.quantityReceived
  unitCost := d.unitCost.getD poLine.unitCost
  supplierId := some receipt.order.supplierId
  supplierName := none
  reference := some receipt.order.poNumber
  note := some (receipt.dto.note.getD ("Receipt against " ++ receipt.order.poNumber))
  receiptUrl := none
  quantity_pos := d.quantity_pos

/-- What a turn depends on: the environment of the stock, and whether the database rolls the
stock transaction back because another one came first. -/
structure StockChoice where
  env : Inventory.InventoryEnv
  conflicts : Bool

def PurchaseFile.movedIn (inventory : Inventory.InventoryDb) (lineId : Uuid)
    (movement : Inventory.Movement) (file : PurchaseFile) : PurchaseFile :=
  { file with
    inventory := inventory
    stockedIn := (lineId, movement) :: file.stockedIn }

def PurchaseFile.stockIn (choice : StockChoice) (receipt : CheckedReceipt)
    (d : ReceivePurchaseOrderLineDto) (file : PurchaseFile) : PurchaseFile × Bool :=
  match receipt.lines.find? d.purchaseOrderLineId with
  | none => (file, false)
  | some poLine =>
      if choice.conflicts = true then (file, false)
      else
        match (Inventory.stockIn choice.env (receipt.stockInDto poLine d)
            receipt.userId).outcome file.inventory with
        | (.ok result, inventory) =>
            (file.movedIn inventory poLine.id result.movement, true)
        | (.error _, inventory) => ({ file with inventory := inventory }, false)

/-- `fresh.every(...)`. -/
def PurchaseFile.AllDone (file : PurchaseFile) : Prop :=
  ∀ line ∈ file.lines.rows, line.quantityOrdered ≤ line.quantityReceived
  deriving Decidable

def PurchaseFile.withStatus (status : PurchaseOrderStatus) (file : PurchaseFile) :
    PurchaseFile :=
  { file with order := { file.order with status := status } }

def PurchaseOrderStatus.IsTerminal (status : PurchaseOrderStatus) : Prop :=
  status = .RECEIVED ∨ status = .CANCELLED
  deriving Decidable

inductive PurchaseThread
  | receive (dto : ReceivePurchaseOrderDto) (userId : Uuid)
  | receiveLines (receipt : CheckedReceipt)
  | stockIns (receipt : CheckedReceipt) (remaining : List ReceivePurchaseOrderLineDto)
  | receiveStatus (allDone : Bool)
  | cancel (reason : Option String)
  | cancelLines (reason : Option String)
  | cancelStatus (reason : Option String)
  | otherStock (inventory : Inventory.InventoryDb)

def PurchaseThread.Starts : PurchaseThread → Prop
  | .receive _ _ | .cancel _ | .otherStock _ => True
  | _ => False

def PurchaseThread.turn (choice : StockChoice) (thread : PurchaseThread) (file : PurchaseFile) :
    PurchaseFile × List PurchaseThread :=
  match thread with
  | .receive dto userId =>
      match checkReceipt file dto userId with
      | .ok receipt => (file, [.receiveLines receipt])
      | .error _ => (file, [])
  | .receiveLines receipt =>
      (file.receiveLines receipt.lines receipt.dto.lines, [.stockIns receipt receipt.dto.lines])
  | .stockIns _ [] => (file, [.receiveStatus (decide file.AllDone)])
  | .stockIns receipt (d :: rest) =>
      let (after, succeeded) := file.stockIn choice receipt d
      (after, if succeeded = true then [.stockIns receipt rest] else [])
  | .receiveStatus allDone =>
      (file.withStatus (if allDone = true then .RECEIVED else .PARTIALLY_RECEIVED), [])
  | .cancel reason =>
      (file, if file.order.status.IsTerminal then [] else [.cancelLines reason])
  | .cancelLines reason =>
      (file, if ∃ line ∈ file.lines.rows, 0 < line.quantityReceived then []
        else [.cancelStatus reason])
  | .cancelStatus reason =>
      ({ file with order := { file.order with
          status := .CANCELLED
          cancelledReason := reason } }, [])
  | .otherStock inventory => ({ file with inventory := inventory }, [])

def purchaseThreads : Threads PurchaseFile PurchaseThread StockChoice where
  starts := fun thread _ => thread.Starts
  admits := fun _ _ _ _ => True
  turn := PurchaseThread.turn

abbrev PurchaseQueue := Threads.Queue PurchaseFile PurchaseThread

abbrev PurchaseTurn := Threads.Turn PurchaseThread StockChoice

def PurchaseFile.receiptsOf (file : PurchaseFile) (lineId : Uuid) : ℤ :=
  ((file.receiptLines.filter fun line => line.purchaseOrderLineId = lineId).map
    PurchaseOrderReceiptLine.quantityReceived).sum

def PurchaseFile.stockedFor (file : PurchaseFile) (lineId : Uuid) : ℤ :=
  ((file.stockedIn.filter fun entry => entry.1 = lineId).map fun entry =>
    entry.2.quantity).sum

structure PurchaseFile.WithinOrder (file : PurchaseFile) : Prop where
  receipts : ∀ line ∈ file.lines.rows, line.quantityReceived = file.receiptsOf line.id
  limit : ∀ line ∈ file.lines.rows, line.quantityReceived ≤ line.quantityOrdered
  complete : file.order.status = .RECEIVED → file.AllDone

/-- Once no call is under way, the stock agrees too, and the order is received if its lines
are complete. -/
structure PurchaseFile.AtRest (file : PurchaseFile) : Prop where
  stocked : ∀ line ∈ file.lines.rows, line.quantityReceived = file.stockedFor line.id
  received : file.AllDone → file.order.status = .RECEIVED

structure PurchaseSound (turns : List PurchaseTurn) (trace : List PurchaseQueue) : Prop where
  within : ∀ queue ∈ trace, queue.shared.WithinOrder
  atRest : ∀ queue ∈ trace, queue.pending = [] → queue.shared.AtRest
  terminal : ∀ found ∈ Calls.occurrences turns trace, found.2.shared.order.status.IsTerminal →
      (purchaseThreads.scheduled.step found.1 found.2).shared.order.status =
        found.2.shared.order.status

def namedLines (lineId : Uuid) (lines : List ReceivePurchaseOrderLineDto) :
    List ReceivePurchaseOrderLineDto :=
  lines.filter fun d => d.purchaseOrderLineId = lineId

def CheckedReceipt.NamesOnce (receipt : CheckedReceipt) (file : PurchaseFile) : Prop :=
  ∀ line ∈ file.lines.rows, (namedLines line.id receipt.dto.lines).length ≤ 1 ∧
      (namedLines line.id receipt.dto.lines ≠ [] → ∀ read, receipt.lines.find? line.id = some read →
          read.quantityReceived = line.quantityReceived)

def CheckedReceipt.FindsStock (choice : StockChoice) (receipt : CheckedReceipt)
    (d : ReceivePurchaseOrderLineDto) (file : PurchaseFile) : Prop :=
  choice.conflicts = false ∧ receipt.order.branchId ∈ file.inventory.branches ∧
    ∃ read, receipt.lines.find? d.purchaseOrderLineId = some read ∧
      ∃ item, file.inventory.items.find? read.stockItemId = some item ∧ item.isActive = true

/-- The turn does no harm: a delivery is written with the lines as they are, its stock is
found, and a status is written only where the order has not come to an end. -/
def PurchaseThread.Careful (choice : StockChoice) (thread : PurchaseThread)
    (file : PurchaseFile) : Prop :=
  match thread with
  | .receiveLines receipt => receipt.NamesOnce file
  | .stockIns receipt (d :: _) => receipt.FindsStock choice d file
  | .receiveStatus allDone =>
      file.order.status.IsTerminal → allDone = true ∧ file.order.status = .RECEIVED
  | .cancelStatus _ => file.order.status ≠ .RECEIVED
  | _ => True

def CarefulTurn (turn : PurchaseTurn) (queue : PurchaseQueue) : Prop :=
  match turn with
  | .start _ => True
  | .next position choice =>
      ∀ thread, queue.pending[position]? = some thread → thread.Careful choice queue.shared

variable {file : PurchaseFile} {read : Table PurchaseOrderLine.id} {lineId : Uuid}
  {receipt : CheckedReceipt} {choice : StockChoice}
  {lines : List ReceivePurchaseOrderLineDto}

/-! ## The transaction of a receipt -/

def lastReceived (old now : ℤ) (named : List ReceivePurchaseOrderLineDto) : ℤ :=
  named.foldl (fun _ d => old + d.quantityReceived) now

def quantityOf (lines : List ReceivePurchaseOrderLineDto) : ℤ :=
  (lines.map ReceivePurchaseOrderLineDto.quantityReceived).sum

theorem quantityOf_nonneg (lines : List ReceivePurchaseOrderLineDto) : 0 ≤ quantityOf lines := by
  apply sum_nonneg
  intro quantity hquantity
  obtain ⟨d, _, rfl⟩ := mem_map.1 hquantity
  exact le_of_lt d.quantity_pos

theorem lastReceived_le (old now : ℤ) {named : List ReceivePurchaseOrderLineDto}
    (hnamed : named ≠ []) : lastReceived old now named ≤ old + quantityOf named := by
  induction named generalizing now with
  | nil => exact absurd rfl hnamed
  | cons d rest ih =>
      have hsum : quantityOf (d :: rest) = d.quantityReceived + quantityOf rest := sum_cons
      have hpositive := d.quantity_pos
      rw [hsum]
      by_cases hrest : rest = []
      · subst hrest
        exact le_of_eq (by simp [lastReceived, quantityOf])
      · have hlater := ih (old + d.quantityReceived) hrest
        change lastReceived old (old + d.quantityReceived) rest ≤ _
        omega

theorem lastReceived_eq_iff {old now : ℤ} (hle : old ≤ now)
    (named : List ReceivePurchaseOrderLineDto) :
    lastReceived old now named = now + quantityOf named ↔
      named.length ≤ 1 ∧ (named ≠ [] → old = now) := by
  match named with
  | [] => simp [lastReceived, quantityOf]
  | [d] => simp [lastReceived, quantityOf]
  | d :: d' :: rest =>
      have hlast := lastReceived_le old (old + d.quantityReceived) (cons_ne_nil d' rest)
      have hsum : quantityOf (d :: d' :: rest) = d.quantityReceived + quantityOf (d' :: rest) :=
        sum_cons
      have hsame : lastReceived old now (d :: d' :: rest) =
          lastReceived old (old + d.quantityReceived) (d' :: rest) := rfl
      have hpositive := d.quantity_pos
      constructor
      · intro heq
        omega
      · rintro ⟨hlength, _⟩
        simp only [length_cons] at hlength
        omega

variable {d : ReceivePurchaseOrderLineDto}

theorem lineError_none (hchecked : receiveLineError read d = none) :
    ∃ poLine, read.find? d.purchaseOrderLineId = some poLine ∧
      poLine.quantityReceived + d.quantityReceived ≤ poLine.quantityOrdered := by
  unfold receiveLineError at hchecked
  cases hfound : read.find? d.purchaseOrderLineId with
  | none => simp [hfound] at hchecked
  | some poLine =>
      rw [hfound] at hchecked
      simp only at hchecked
      by_cases hover : poLine.quantityOrdered < poLine.quantityReceived + d.quantityReceived
      · rw [if_pos hover] at hchecked
        cases hchecked
      · exact ⟨poLine, rfl, not_lt.1 hover⟩

theorem namedLines_cons_of_eq (d : ReceivePurchaseOrderLineDto)
    (lines : List ReceivePurchaseOrderLineDto) (hname : d.purchaseOrderLineId = lineId) :
    namedLines lineId (d :: lines) = d :: namedLines lineId lines :=
  filter_cons_of_pos (by simpa using hname)

theorem namedLines_cons_of_ne (d : ReceivePurchaseOrderLineDto)
    (lines : List ReceivePurchaseOrderLineDto) (hname : d.purchaseOrderLineId ≠ lineId) :
    namedLines lineId (d :: lines) = namedLines lineId lines :=
  filter_cons_of_neg (by simpa using hname)

/-- Every line of a delivery was found when it was checked. -/
def AllKnown (read : Table PurchaseOrderLine.id) (lines : List ReceivePurchaseOrderLineDto) :
    Prop :=
  ∀ d ∈ lines, ∃ poLine, read.find? d.purchaseOrderLineId = some poLine

theorem CheckedReceipt.allKnown (receipt : CheckedReceipt) :
    AllKnown receipt.lines receipt.dto.lines := by
  intro d hd
  obtain ⟨poLine, hfound, _⟩ := lineError_none (receipt.checked d hd)
  exact ⟨poLine, hfound⟩

theorem receiptsOf_receiveLines (file : PurchaseFile) (lineId : Uuid)
    (hknown : AllKnown read lines) :
    (file.receiveLines read lines).receiptsOf lineId =
      file.receiptsOf lineId + quantityOf (namedLines lineId lines) := by
  induction lines generalizing file with
  | nil => simp [PurchaseFile.receiveLines, namedLines, quantityOf]
  | cons d rest ih =>
      obtain ⟨poLine, hfound⟩ := hknown d (mem_cons_self ..)
      have hid := Table.key_of_find? hfound
      have hrest : AllKnown read rest := fun other hother => hknown other (.tail _ hother)
      have hstep : (file.receiveLine read d).receiptsOf lineId =
          file.receiptsOf lineId + quantityOf (namedLines lineId [d]) := by
        unfold PurchaseFile.receiveLine PurchaseFile.receiptsOf
        rw [hfound]
        simp only [filter_append, map_append, sum_append]
        by_cases hname : d.purchaseOrderLineId = lineId
        · rw [namedLines_cons_of_eq d [] hname, filter_cons_of_pos (by simp [hid, hname])]
          rfl
        · rw [namedLines_cons_of_ne d [] hname, filter_cons_of_neg (by simp [hid, hname])]
          rfl
      have hsplit : namedLines lineId (d :: rest) = namedLines lineId [d] ++
          namedLines lineId rest := by
        unfold namedLines
        rw [← filter_append]
        rfl
      change (PurchaseFile.receiveLines read rest (file.receiveLine read d)).receiptsOf lineId = _
      rw [ih _ hrest, hstep, hsplit]
      unfold quantityOf
      rw [map_append, sum_append, add_assoc]

theorem find?_receiveLines (hknown : AllKnown read lines) {old line : PurchaseOrderLine}
    (hread : read.find? lineId = some old) (hline : file.lines.find? lineId = some line) :
    (file.receiveLines read lines).lines.find? lineId = some (line.withReceived
      (lastReceived old.quantityReceived line.quantityReceived (namedLines lineId lines))) := by
  induction lines generalizing file line with
  | nil => exact hline
  | cons d rest ih =>
      obtain ⟨poLine, hfound⟩ := hknown d (mem_cons_self ..)
      have hid := Table.key_of_find? hfound
      have hrest : AllKnown read rest := fun other hother => hknown other (.tail _ hother)
      change (PurchaseFile.receiveLines read rest (file.receiveLine read d)).lines.find? lineId = _
      by_cases hname : d.purchaseOrderLineId = lineId
      · have hsame : poLine = old := by
          rw [hname, hread] at hfound
          exact (Option.some.inj hfound).symm
        have hstep : (file.receiveLine read d).lines.find? lineId =
            some (line.withReceived (old.quantityReceived + d.quantityReceived)) := by
          unfold PurchaseFile.receiveLine
          rw [hfound]
          simp only
          rw [hid, hname, Table.find?_update_self, hline, hsame]
          rfl
        rw [ih hrest hstep, namedLines_cons_of_eq d rest hname]
        rfl
      · have hstep : (file.receiveLine read d).lines.find? lineId = some line := by
          unfold PurchaseFile.receiveLine
          rw [hfound]
          simp only
          rw [Table.find?_update_of_ne _ _ _ (by rw [hid]; exact fun heq => hname heq.symm)]
          exact hline
        rw [ih hrest hstep, namedLines_cons_of_ne d rest hname]

theorem find?_receiveLines_none (hnone : file.lines.find? lineId = none) :
    (file.receiveLines read lines).lines.find? lineId = none := by
  induction lines generalizing file with
  | nil => exact hnone
  | cons d rest ih =>
      have hstep : (file.receiveLine read d).lines.find? lineId = none := by
        unfold PurchaseFile.receiveLine
        cases hfound : read.find? d.purchaseOrderLineId with
        | none => exact hnone
        | some poLine =>
            simp only
            by_cases hsame : lineId = poLine.id
            · rw [hsame, Table.find?_update_self, ← hsame, hnone]
              rfl
            · rw [Table.find?_update_of_ne _ _ _ hsame]
              exact hnone
      exact ih hstep

def LinesGrown (read now : Table PurchaseOrderLine.id) : Prop :=
  ∀ line ∈ now.rows, ∃ old, read.find? line.id = some old ∧
    old.quantityOrdered = line.quantityOrdered ∧ old.quantityReceived ≤ line.quantityReceived

theorem mem_receiveLines_iff (hgrown : LinesGrown read file.lines)
    (hknown : AllKnown read lines) {after : PurchaseOrderLine} :
    after ∈ (file.receiveLines read lines).lines.rows ↔
      ∃ line ∈ file.lines.rows, ∃ old, read.find? line.id = some old ∧
        after = line.withReceived (lastReceived old.quantityReceived line.quantityReceived
          (namedLines line.id lines)) := by
  constructor
  · intro hafter
    have hfindAfter := Table.find?_of_mem hafter
    cases hfind : file.lines.find? after.id with
    | none =>
        rw [find?_receiveLines_none hfind] at hfindAfter
        cases hfindAfter
    | some line =>
        have hmem := Table.mem_of_find? hfind
        have hid := Table.key_of_find? hfind
        obtain ⟨old, hread, _⟩ := hgrown line hmem
        refine ⟨line, hmem, old, hread, ?_⟩
        rw [hid] at hread ⊢
        rw [find?_receiveLines hknown hread hfind] at hfindAfter
        exact (Option.some.inj hfindAfter).symm
  · rintro ⟨line, hmem, old, hread, rfl⟩
    exact Table.mem_of_find? (find?_receiveLines hknown hread (Table.find?_of_mem hmem))

section StockIn

open Inventory

variable {env : InventoryEnv} {dto : StockInDto} {userId : Uuid} {db : InventoryDb}

def StockFound (dto : StockInDto) (db : InventoryDb) : Prop :=
  dto.branchId ∈ db.branches ∧
    ∃ item, db.items.find? dto.stockItemId = some item ∧ item.isActive = true

theorem stockIn_needs {result : StockInResult} {after : InventoryDb}
    (hcommits : (Inventory.stockIn env dto userId).Commits db result after) :
    StockFound dto db ∧ result.movement = dto.movement env userId := by
  unfold Inventory.stockIn fetchActiveItem requireBranch inventoryTransaction at hcommits
  simp only [commits_bind, commits_fetch, commits_require, commits_reads, commits_pure,
    commits_atomically] at hcommits
  obtain ⟨item, _, ⟨_, _, ⟨hitem, rfl⟩, _, _, ⟨hactive, rfl⟩, rfl, rfl⟩, _, _,
    ⟨_, _, ⟨rfl, rfl⟩, hbranch, rfl⟩, _, _, ⟨_, rfl⟩, hrest⟩ := hcommits
  refine ⟨⟨of_decide_eq_true hbranch, _, hitem, hactive⟩, ?_⟩
  obtain ⟨existing, _, ⟨_, rfl⟩, hwrites⟩ := hrest
  cases existing with
  | some level =>
      simp only [commits_bind, commits_pure] at hwrites
      obtain ⟨_, _, _, _, _, _, _, _, _, rfl, _⟩ := hwrites
      rfl
  | none =>
      simp only [commits_bind, commits_pure] at hwrites
      obtain ⟨_, _, _, _, _, _, _, _, _, rfl, _⟩ := hwrites
      rfl

theorem stockIn_commits (env : InventoryEnv) (dto : StockInDto) (userId : Uuid)
    (hfound : StockFound dto db)
    (hsupplier : dto.supplierId ≠ none) :
    ∃ result after, (Inventory.stockIn env dto userId).Commits db result after := by
  obtain ⟨hbranch, item, hitem, hactive⟩ := hfound
  have hfetch : (fetchActiveItem dto.stockItemId "Stock item not found or inactive").Commits db
      item db := by
    exact commits_bind.2 ⟨item, db, commits_fetch.2 ⟨hitem, rfl⟩,
      commits_bind.2 ⟨(), db, commits_require.2 ⟨hactive, rfl⟩, commits_pure.2 ⟨rfl, rfl⟩⟩⟩
  have hrequire : (requireBranch dto.branchId "Branch not found").Commits db () db :=
    commits_bind.2 ⟨_, db, commits_reads.2 ⟨rfl, rfl⟩,
      commits_require.2 ⟨decide_eq_true hbranch, rfl⟩⟩
  have hread : (reads fun db : InventoryDb => db.levels.find? (dto.branchId, dto.stockItemId) :
      InventoryTx _).Commits db (db.levels.find? (dto.branchId, dto.stockItemId)) db :=
    commits_reads.2 ⟨rfl, rfl⟩
  refine exists_commits_bind hfetch (exists_commits_bind hrequire ?_)
  refine exists_commits_bind (a := ()) (commits_require.2 ⟨.inl hsupplier, rfl⟩) ?_
  unfold inventoryTransaction
  simp only [commits_atomically]
  refine exists_commits_bind hread ?_
  cases hlevel : db.levels.find? (dto.branchId, dto.stockItemId) with
  | some level =>
      refine exists_commits_bind (a := ()) (commits_modify.2 rfl) ?_
      refine exists_commits_bind (a := ()) (commits_modify.2 rfl) ?_
      exact exists_commits_bind (a := ()) (commits_modify.2 rfl) ⟨_, _, commits_pure.2 ⟨rfl, rfl⟩⟩
  | none =>
      have hfree : db.levels.find? (BranchStockLevel.key ⟨dto.branchId, dto.stockItemId,
          dto.quantity, some dto.unitCost⟩) = none := hlevel
      obtain ⟨levels, hinsert⟩ := Table.exists_insert hfree
      refine exists_commits_bind (a := ()) (commits_bind.2 ⟨levels, db,
        commits_fetch.2 ⟨hinsert, rfl⟩, commits_modify.2 rfl⟩) ?_
      refine exists_commits_bind (a := ()) (commits_modify.2 rfl) ?_
      exact exists_commits_bind (a := ()) (commits_modify.2 rfl) ⟨_, _, commits_pure.2 ⟨rfl, rfl⟩⟩

end StockIn

theorem quantityOf_namedLines_cons (lineId : Uuid) (d : ReceivePurchaseOrderLineDto)
    (rest : List ReceivePurchaseOrderLineDto) :
    quantityOf (namedLines lineId (d :: rest)) =
      (if d.purchaseOrderLineId = lineId then d.quantityReceived else 0) +
        quantityOf (namedLines lineId rest) := by
  by_cases hname : d.purchaseOrderLineId = lineId
  · rw [namedLines_cons_of_eq d rest hname, if_pos hname]
    exact sum_cons
  · rw [namedLines_cons_of_ne d rest hname, if_neg hname, zero_add]

theorem PurchaseFile.stockedFor_movedIn (inventory : Inventory.InventoryDb) (id : Uuid)
    (movement : Inventory.Movement) (file : PurchaseFile) (lineId : Uuid) :
    (file.movedIn inventory id movement).stockedFor lineId =
      (if id = lineId then movement.quantity else 0) + file.stockedFor lineId := by
  unfold stockedFor movedIn
  by_cases hname : id = lineId
  · rw [filter_cons_of_pos (by simpa using hname), if_pos hname]
    exact sum_cons
  · rw [filter_cons_of_neg (by simpa using hname), if_neg hname, zero_add]

theorem PurchaseFile.stockIn_of_found (hfound : receipt.FindsStock choice d file) :
    ∃ inventory movement, file.stockIn choice receipt d =
        (file.movedIn inventory d.purchaseOrderLineId movement, true) ∧
      movement.quantity = d.quantityReceived := by
  obtain ⟨hconflicts, hbranch, read, hread, hitem⟩ := hfound
  obtain ⟨result, inventory, hcommits⟩ := stockIn_commits choice.env
    (receipt.stockInDto read d) receipt.userId ⟨hbranch, hitem⟩ (Option.some_ne_none _)
  have hmovement := (stockIn_needs hcommits).2
  refine ⟨inventory, result.movement, ?_, by rw [hmovement]; rfl⟩
  unfold PurchaseFile.stockIn
  rw [hread]
  simp only
  rw [if_neg (by rw [hconflicts]; decide), hcommits, Table.key_of_find? hread]

theorem PurchaseFile.stockIn_of_not_found (hnot : ¬ receipt.FindsStock choice d file) :
    ∃ inventory, file.stockIn choice receipt d = ({ file with inventory := inventory }, false) := by
  unfold PurchaseFile.stockIn
  cases hread : receipt.lines.find? d.purchaseOrderLineId with
  | none => exact ⟨file.inventory, rfl⟩
  | some read =>
      simp only
      by_cases hconflicts : choice.conflicts = true
      · exact ⟨file.inventory, if_pos hconflicts⟩
      · rw [if_neg hconflicts]
        rcases hresult : (Inventory.stockIn choice.env (receipt.stockInDto read d)
          receipt.userId).outcome file.inventory with ⟨result, inventory⟩
        cases result with
        | error err => exact ⟨inventory, rfl⟩
        | ok result =>
            obtain ⟨hbranch, hitem⟩ := (stockIn_needs hresult).1
            exact absurd ⟨Bool.eq_false_of_not_eq_true hconflicts, hbranch, read, hread, hitem⟩ hnot

end SafariLaundry
