import SafariLaundry.Expenses

/-!
# The unified ledger stream

The stream of a branch is made of five kinds of rows, and each kind is filtered in its own place:
sales and expenses by what their look-up finds, deposits by their query, adjustments by the order
that the look-up found, settlements nowhere.
-/

namespace SafariLaundry.LedgerStream

open Library List

structure StreamUser where
  id : Uuid
  fullName : String
  branchId : Option Uuid

structure StreamOrder where
  id : Uuid
  posPaymentMethod : Option PosPaymentMethod
  driver : Option StreamUser

structure StreamExpense where
  id : Uuid
  title : String
  category : ExpenseCategory
  receiptUrl : Option String
  recordedBy : StreamUser
  branchId : Option Uuid

structure CustodyBag where
  id : Uuid
  branchId : Option Uuid
  depositSlipUrl : Option String

structure StreamDeposit where
  id : Uuid
  driver : StreamUser
  amount : ℤ
  createdAt : Timestamp
  receiptImage : String

/-- The texts of a metadata object; `posPaymentMethod` stands for any value that is not nullish. -/
structure StreamMetadata where
  (posPaymentMethod receiptImageUrl event : Option String)
  (custodyId depositId : Option Uuid)

structure StreamEntry where
  id : Uuid
  entryType : GeneralLedgerEntryType
  amount : ℤ
  memo : Option String
  metadata : StreamMetadata
  (orderId expenseId actorUserId : Option Uuid)
  createdAt : Timestamp

structure StreamDb where
  ledger : Table StreamEntry.id
  orders : Table StreamOrder.id
  expenses : Table StreamExpense.id
  bags : Table CustodyBag.id
  deposits : Table StreamDeposit.id

structure StreamReads where
  ledger : RowOrder StreamEntry
  deposits : RowOrder StreamDeposit

inductive RefKind where
  | ORDER
  | EXPENSE
  | DEPOSIT
  | GL
  deriving DecidableEq

/-- A row of the stream; `at'` stands for the text of the instant. -/
structure StreamRow where
  id : String
  at' : Timestamp
  streamType : String
  amountKd : ℤ
  memo : Option String
  driverId : Option Uuid
  (driverName attachmentUrl : Option String)
  refKind : RefKind
  refId : Uuid

/-! ## The stream -/

structure StreamQuery where
  (start stop : Timestamp)
  (driverId branchId : Option Uuid)

def InBranch (asked branchId : Option Uuid) : Prop :=
  asked = none ∨ branchId = asked
  deriving Decidable

def saleType (m : Option String) : String :=
  if m = none then "OTHER_SALE"
  else if m = some "CASH" then "CASH_SALE"
  else if m = some "KNET" then "KNET_SALE"
  else if m = some "PAYMENT_LINK" ∨ m = some "ONLINE" then "ONLINE_SALE"
  else if m = some "DEBT_ON_ACCOUNT" then "DEBT_SALE"
  else if m = some "SUBSCRIPTION_WALLET" then "WALLET_SALE"
  else "OTHER_SALE"

def StreamOrder.branchId (order : StreamOrder) : Option Uuid :=
  order.driver.bind StreamUser.branchId

section Stream

variable (db : StreamDb) (query : StreamQuery)

/-- `glWhere`. -/
def Wanted (row : StreamEntry) : Prop :=
  (query.start ≤ row.createdAt ∧ row.createdAt ≤ query.stop) ∧
    ∀ driverId ∈ query.driverId, row.actorUserId = some driverId ∨
      (∃ order ∈ db.orders.rows, order.driver.map StreamUser.id = some driverId ∧
        row.orderId = some order.id) ∨
      ∃ expense ∈ db.expenses.rows, expense.recordedBy.id = driverId ∧
        row.expenseId = some expense.id
  deriving Decidable

def orderMap (orderId : Uuid) : Option StreamOrder :=
  (db.orders.find? orderId).filter fun order => InBranch query.branchId order.branchId

def expenseMap (expenseId : Uuid) : Option StreamExpense :=
  (db.expenses.find? expenseId).filter fun expense => InBranch query.branchId expense.branchId

def custodySlip (custodyId : Uuid) : Option String :=
  (db.bags.find? custodyId).bind fun bag => trimmed bag.depositSlipUrl

def saleRow (row : StreamEntry) (ord : StreamOrder) : StreamRow where
  id := row.id
  at' := row.createdAt
  streamType := saleType (row.metadata.posPaymentMethod.or
    (ord.posPaymentMethod.map PosPaymentMethod.name))
  amountKd := row.amount
  memo := row.memo
  driverId := ord.driver.map StreamUser.id
  driverName := ord.driver.map StreamUser.fullName
  attachmentUrl := none
  refKind := .ORDER
  refId := ord.id

def expenseRow (row : StreamEntry) (exp : StreamExpense) : StreamRow where
  id := row.id
  at' := row.createdAt
  streamType := if exp.category = .FUEL then "FUEL_EXPENSE" else "OTHER_EXPENSE"
  amountKd := row.amount
  memo := exp.title
  driverId := exp.recordedBy.id
  driverName := exp.recordedBy.fullName
  attachmentUrl := trimmed exp.receiptUrl
  refKind := .EXPENSE
  refId := exp.id

def settlementRow (row : StreamEntry) : StreamRow where
  id := row.id
  at' := row.createdAt
  streamType := "CUSTODY_VERIFIED"
  amountKd := row.amount
  memo := row.memo
  driverId := none
  driverName := none
  attachmentUrl := (trimmed row.metadata.receiptImageUrl).or
    (if row.metadata.event = some "CUSTODY_VERIFIED" then
      row.metadata.custodyId.bind (custodySlip db)
    else none)
  refKind := .GL
  refId := row.id

def adjustmentRow (row : StreamEntry) (ordRef : Option StreamOrder) : StreamRow where
  id := row.id
  at' := row.createdAt
  streamType := "DEBT_ADJUSTMENT"
  amountKd := row.amount
  memo := row.memo
  driverId := ordRef.bind fun ord => ord.driver.map StreamUser.id
  driverName := ordRef.bind fun ord => ord.driver.map StreamUser.fullName
  attachmentUrl := none
  refKind := if ordRef.isSome then .ORDER else .GL
  refId := (ordRef.map StreamOrder.id).getD row.id

def ledgerRow (row : StreamEntry) : Option StreamRow :=
  match row.entryType with
  | .POS_SALE_COMPLETED =>
      ((row.orderId.bind (orderMap db query)).filter fun ord =>
        InBranch query.branchId ord.branchId).map (saleRow row)
  | .EXPENSE_RECORDED => (row.expenseId.bind (expenseMap db query)).map (expenseRow row)
  | .WALLET_SETTLEMENT => some (settlementRow db row)
  | .DEBT_ADJUSTMENT =>
      let ordRef := row.orderId.bind (orderMap db query)
      if ∀ ord ∈ ordRef, InBranch query.branchId ord.branchId then
        some (adjustmentRow row ordRef)
      else none

def depositRow (d : StreamDeposit) : StreamRow where
  id := "dep-" ++ d.id
  at' := d.createdAt
  streamType := "DEPOSIT"
  amountKd := d.amount
  memo := "Driver deposit"
  driverId := d.driver.id
  driverName := d.driver.fullName
  attachmentUrl := d.receiptImage
  refKind := .DEPOSIT
  refId := d.id

def DepositWanted (d : StreamDeposit) : Prop :=
  (query.start ≤ d.createdAt ∧ d.createdAt ≤ query.stop) ∧
    (∀ driverId ∈ query.driverId, d.driver.id = driverId) ∧
    InBranch query.branchId d.driver.branchId
  deriving Decidable

def LaterFirst (a b : StreamRow) : Prop := b.at' ≤ a.at'
  deriving Decidable

def glRows (reads : StreamReads) : List StreamEntry :=
  (reads.ledger.arrange (db.ledger.rows.filter fun row => Wanted db query row)).take 800

def depositRows (reads : StreamReads) : List StreamDeposit :=
  (reads.deposits.arrange (db.deposits.rows.filter fun d => DepositWanted query d)).take 400

def unifiedLedgerStream (reads : StreamReads) : List StreamRow :=
  ((glRows db query reads).filterMap (ledgerRow db query) ++
    (depositRows db query reads).map depositRow).insertionSort LaterFirst

end Stream

/-! ## What belongs to a branch -/

variable (db : StreamDb) (branch : Uuid)

def StreamEntry.SettlesFor (row : StreamEntry) : Prop :=
  row.entryType = .WALLET_SETTLEMENT ∧
    ((∃ bag ∈ row.metadata.custodyId.bind db.bags.find?, bag.branchId = some branch) ∨
      ∃ d ∈ row.metadata.depositId.bind db.deposits.find?, d.driver.branchId = some branch)
  deriving Decidable

def StreamRow.BelongsTo (row : StreamRow) : Prop :=
  (row.refKind = .ORDER ∧ ∃ order ∈ db.orders.find? row.refId, order.branchId = some branch) ∨
  (row.refKind = .EXPENSE ∧ ∃ exp ∈ db.expenses.find? row.refId, exp.branchId = some branch) ∨
  (row.refKind = .DEPOSIT ∧ ∃ d ∈ db.deposits.find? row.refId, d.driver.branchId = some branch) ∨
  (row.refKind = .GL ∧ ∃ entry ∈ db.ledger.find? row.refId, entry.SettlesFor db branch)
  deriving Decidable

/-- The rows of a branch are those of all rows that belong to it, and both come in the order of
their instants, the latest first. -/
structure FilteredRight (filtered all : List StreamRow) : Prop where
  exact : filtered.Perm (all.filter fun row => row.BelongsTo db branch)
  inOrder : filtered.Pairwise LaterFirst ∧ all.Pairwise LaterFirst

def OfBranchAlone (query : StreamQuery) : Prop :=
  ∀ row ∈ db.ledger.rows, Wanted db query row →
    (row.entryType = .WALLET_SETTLEMENT → row.SettlesFor db branch) ∧
    (row.entryType = .DEBT_ADJUSTMENT →
      ∃ order ∈ row.orderId.bind db.orders.find?, order.branchId = some branch)

variable {db branch} {query : StreamQuery} {reads reads' : StreamReads}

theorem pairwise_stream : (unifiedLedgerStream db query reads).Pairwise LaterFirst := by
  have htotal : Std.Total LaterFirst := ⟨fun a b => le_total b.at' a.at'⟩
  have htrans : IsTrans StreamRow LaterFirst := ⟨fun a b c hab hbc => le_trans hbc hab⟩
  exact pairwise_insertionSort ..

/-- Of the whole company. -/
def StreamQuery.all (query : StreamQuery) : StreamQuery := { query with branchId := none }

def StreamQuery.of (query : StreamQuery) (branch : Uuid) : StreamQuery :=
  { query with branchId := some branch }

@[simp] theorem inBranch_none (branchId : Option Uuid) : InBranch none branchId :=
  .inl rfl

@[simp] theorem inBranch_some (branch : Uuid) (branchId : Option Uuid) :
    InBranch (some branch) branchId ↔ branchId = some branch := by
  simp [InBranch]

@[simp] theorem orderMap_all (orderId : Uuid) :
    orderMap db query.all orderId = db.orders.find? orderId := by
  cases hfind : db.orders.find? orderId <;>
    simp [orderMap, StreamQuery.all, hfind, Option.filter_some]

@[simp] theorem expenseMap_all (expenseId : Uuid) :
    expenseMap db query.all expenseId = db.expenses.find? expenseId := by
  cases hfind : db.expenses.find? expenseId <;>
    simp [expenseMap, StreamQuery.all, hfind, Option.filter_some]

variable {row : StreamEntry}

theorem belongsTo_saleRow {ord : StreamOrder} (hmem : ord ∈ db.orders.rows) :
    (saleRow row ord).BelongsTo db branch ↔ ord.branchId = some branch := by
  simp [StreamRow.BelongsTo, saleRow, Table.find?_of_mem hmem]

theorem belongsTo_expenseRow {exp : StreamExpense} (hmem : exp ∈ db.expenses.rows) :
    (expenseRow row exp).BelongsTo db branch ↔ exp.branchId = some branch := by
  simp [StreamRow.BelongsTo, expenseRow, Table.find?_of_mem hmem]

theorem belongsTo_depositRow {d : StreamDeposit} (hmem : d ∈ db.deposits.rows) :
    (depositRow d).BelongsTo db branch ↔ d.driver.branchId = some branch := by
  simp [StreamRow.BelongsTo, depositRow, Table.find?_of_mem hmem]

theorem belongsTo_settlementRow (hmem : row ∈ db.ledger.rows) :
    (settlementRow db row).BelongsTo db branch ↔ row.SettlesFor db branch := by
  simp [StreamRow.BelongsTo, settlementRow, Table.find?_of_mem hmem]

theorem belongsTo_adjustmentRow {ord : StreamOrder} (hmem : ord ∈ db.orders.rows) :
    (adjustmentRow row (some ord)).BelongsTo db branch ↔ ord.branchId = some branch := by
  simp [StreamRow.BelongsTo, adjustmentRow, Table.find?_of_mem hmem]

theorem not_belongsTo_adjustmentRow (hmem : row ∈ db.ledger.rows)
    (htype : row.entryType = .DEBT_ADJUSTMENT) :
    ¬ (adjustmentRow row none).BelongsTo db branch := by
  simp [StreamRow.BelongsTo, adjustmentRow, Table.find?_of_mem hmem, StreamEntry.SettlesFor, htype]

theorem bind_orderMap_of (orderId : Option Uuid) :
    orderId.bind (orderMap db (query.of branch)) =
      (orderId.bind db.orders.find?).filter fun ord => ord.branchId = some branch := by
  cases orderId <;> simp [orderMap, StreamQuery.of]

theorem bind_expenseMap_of (expenseId : Option Uuid) :
    expenseId.bind (expenseMap db (query.of branch)) =
      (expenseId.bind db.expenses.find?).filter fun exp => exp.branchId = some branch := by
  cases expenseId <;> simp [expenseMap, StreamQuery.of]

theorem bind_orderMap_all (orderId : Option Uuid) :
    orderId.bind (orderMap db query.all) = orderId.bind db.orders.find? := by
  cases orderId <;> simp

theorem bind_expenseMap_all (expenseId : Option Uuid) :
    expenseId.bind (expenseMap db query.all) = expenseId.bind db.expenses.find? := by
  cases expenseId <;> simp

theorem mem_of_bind_find? {ρ : Type} {key : ρ → Uuid} {table : Table key} {id : Option Uuid}
    {row : ρ} (hfind : id.bind table.find? = some row) : row ∈ table.rows := by
  obtain ⟨k, _, hrow⟩ := Option.bind_eq_some_iff.1 hfind
  exact Table.mem_of_find? hrow

theorem ledgerRow_of (hmem : row ∈ db.ledger.rows)
    (hsettles : row.entryType = .WALLET_SETTLEMENT → row.SettlesFor db branch)
    (hadjusts : row.entryType = .DEBT_ADJUSTMENT →
      ∃ order ∈ row.orderId.bind db.orders.find?, order.branchId = some branch) :
    ledgerRow db (query.of branch) row =
      (ledgerRow db query.all row).filter fun row => row.BelongsTo db branch := by
  unfold ledgerRow
  rw [bind_orderMap_of, bind_orderMap_all, bind_expenseMap_of, bind_expenseMap_all]
  cases htype : row.entryType with
  | POS_SALE_COMPLETED =>
      cases horder : row.orderId.bind db.orders.find? with
      | none => rfl
      | some ord =>
          have hbelongs : (saleRow row ord).BelongsTo db branch ↔ _ :=
            belongsTo_saleRow (mem_of_bind_find? horder)
          by_cases hbranch : ord.branchId = some branch
          · simp [StreamQuery.of, StreamQuery.all, Option.filter_some, hbranch, hbelongs]
          · simp [StreamQuery.of, StreamQuery.all, Option.filter_some, hbranch, hbelongs]
  | EXPENSE_RECORDED =>
      cases hexpense : row.expenseId.bind db.expenses.find? with
      | none => rfl
      | some exp =>
          have hbelongs : (expenseRow row exp).BelongsTo db branch ↔ _ :=
            belongsTo_expenseRow (mem_of_bind_find? hexpense)
          by_cases hbranch : exp.branchId = some branch
          · simp [Option.filter_some, hbranch, hbelongs]
          · simp [Option.filter_some, hbranch, hbelongs]
  | WALLET_SETTLEMENT =>
      simp [Option.filter_some, belongsTo_settlementRow hmem, hsettles htype]
  | DEBT_ADJUSTMENT =>
      obtain ⟨ord, horder, hbranch⟩ := hadjusts htype
      rw [Option.mem_def] at horder
      have hbelongs : (adjustmentRow row (some ord)).BelongsTo db branch ↔ _ :=
        belongsTo_adjustmentRow (mem_of_bind_find? horder)
      simp [horder, StreamQuery.of, StreamQuery.all, Option.filter_some, hbranch, hbelongs]

theorem depositWanted_of (d : StreamDeposit) :
    DepositWanted (query.of branch) d ↔
      DepositWanted query.all d ∧ d.driver.branchId = some branch := by
  simp [DepositWanted, StreamQuery.of, StreamQuery.all, and_assoc]

/-! ## The stream of a branch -/

theorem stream_perm (hledger : (db.ledger.rows.filter fun row => Wanted db query row).length ≤ 800)
    (hdeposits : (db.deposits.rows.filter fun d => DepositWanted query d).length ≤ 400) :
    (unifiedLedgerStream db query reads).Perm
      ((db.ledger.rows.filter fun row => Wanted db query row).filterMap (ledgerRow db query) ++
        (db.deposits.rows.filter fun d => DepositWanted query d).map depositRow) := by
  refine (perm_insertionSort _ _).trans (List.Perm.append ?_ ?_)
  · rw [glRows, take_of_length_le ((reads.ledger.perm _).length_eq.trans_le hledger)]
    exact (reads.ledger.perm _).filterMap _
  · rw [depositRows, take_of_length_le ((reads.deposits.perm _).length_eq.trans_le hdeposits)]
    exact (reads.deposits.perm _).map _

theorem mem_stream_of_ledgerRow
    (hledger : (db.ledger.rows.filter fun row => Wanted db query row).length ≤ 800)
    {row : StreamEntry} (hmem : row ∈ db.ledger.rows) (hwanted : Wanted db query row)
    {shown : StreamRow} (hshown : ledgerRow db query row = some shown) :
    shown ∈ unifiedLedgerStream db query reads := by
  rw [unifiedLedgerStream, mem_insertionSort, mem_append]
  refine .inl (mem_filterMap.2 ⟨row, ?_, hshown⟩)
  rw [glRows, take_of_length_le ((reads.ledger.perm _).length_eq.trans_le hledger),
    RowOrder.mem_arrange]
  exact mem_filter.2 ⟨hmem, decide_eq_true hwanted⟩

section Limits

variable (hledger : (db.ledger.rows.filter fun row => Wanted db query row).length ≤ 800)
  (hdeposits : (db.deposits.rows.filter fun d => DepositWanted query.all d).length ≤ 400)

include hledger

theorem ofBranchAlone_of_right
    (hright : FilteredRight db branch (unifiedLedgerStream db (query.of branch) reads)
      (unifiedLedgerStream db query.all reads')) :
    OfBranchAlone db branch query := by
  have hbelongs : ∀ row ∈ db.ledger.rows, Wanted db query row → ∀ shown,
      ledgerRow db (query.of branch) row = some shown → shown.BelongsTo db branch := by
    intro row hmem hwanted shown hshown
    have hstream : shown ∈ unifiedLedgerStream db (query.of branch) reads :=
      @mem_stream_of_ledgerRow db (query.of branch) reads hledger row hmem hwanted shown hshown
    exact of_decide_eq_true (mem_filter.1 (hright.exact.mem_iff.1 hstream)).2
  intro row hmem hwanted
  constructor
  · intro htype
    refine (belongsTo_settlementRow hmem).1 (hbelongs row hmem hwanted _ ?_)
    rw [ledgerRow, htype]
  · intro htype
    -- without an order of the branch the row is shown as one of the ledger
    by_contra hnone
    refine not_belongsTo_adjustmentRow hmem htype (hbelongs row hmem hwanted _ ?_)
    have hlookup : row.orderId.bind (orderMap db (query.of branch)) = none := by
      rw [bind_orderMap_of, Option.filter_eq_none_iff]
      intro ord hord hbranch
      exact hnone ⟨ord, hord, of_decide_eq_true hbranch⟩
    rw [ledgerRow, htype]
    simp [hlookup]

include hdeposits

theorem right_of_ofBranchAlone (hbranch : OfBranchAlone db branch query) :
    FilteredRight db branch (unifiedLedgerStream db (query.of branch) reads)
      (unifiedLedgerStream db query.all reads') := by
  refine ⟨?_, pairwise_stream, pairwise_stream⟩
  have hfewer : (db.deposits.rows.filter fun d => DepositWanted (query.of branch) d).length ≤
      400 := by
    refine le_trans (List.Sublist.length_le ?_) hdeposits
    apply monotone_filter_right
    intro d hd
    exact decide_eq_true ((depositWanted_of d).1 (of_decide_eq_true hd)).1
  have hof : (unifiedLedgerStream db (query.of branch) reads).Perm _ :=
    stream_perm hledger hfewer
  have hall : (unifiedLedgerStream db query.all reads').Perm _ := stream_perm hledger hdeposits
  refine hof.trans (List.Perm.trans (List.Perm.of_eq ?_) (hall.filter _).symm)
  rw [filter_append, filter_filterMap, filter_map]
  congr 1
  · apply filterMap_congr
    intro row hrow
    obtain ⟨hmem, hwanted⟩ := mem_filter.1 hrow
    obtain ⟨hsettles, hadjusts⟩ := hbranch row hmem (of_decide_eq_true hwanted)
    exact ledgerRow_of hmem hsettles hadjusts
  · rw [filter_filter]
    congr 1
    apply filter_congr
    intro d hmem
    rw [Bool.and_comm, Function.comp_apply, ← Bool.decide_and]
    exact decide_eq_decide.2 ((depositWanted_of d).trans
      (and_congr_right fun _ => (belongsTo_depositRow hmem).symm))

end Limits

/-- Within the limits, the stream of a branch is the part of the whole stream that belongs to it
exactly where every settlement and every adjustment asked for is the branch's. -/
theorem filteredRight_iff {db : StreamDb} {branch : Uuid} {query : StreamQuery}
    {reads reads' : StreamReads}
    (hledger : (db.ledger.rows.filter fun row => Wanted db query row).length ≤ 800)
    (hdeposits : (db.deposits.rows.filter fun d => DepositWanted query.all d).length ≤ 400) :
    FilteredRight db branch (unifiedLedgerStream db (query.of branch) reads)
        (unifiedLedgerStream db query.all reads') ↔
      OfBranchAlone db branch query :=
  ⟨ofBranchAlone_of_right hledger, right_of_ofBranchAlone hledger hdeposits⟩

def entry (entryType : GeneralLedgerEntryType) : StreamEntry where
  id := "entry"
  entryType := entryType
  amount := 20000
  memo := none
  metadata := ⟨none, none, none, none, none⟩
  orderId := some "order"
  expenseId := none
  actorUserId := none
  createdAt := 1

def oneOrder (entryType : GeneralLedgerEntryType) : StreamDb where
  ledger := ⟨[entry entryType], by simp⟩
  orders := ⟨[⟨"order", some .CASH, some ⟨"driver", "Driver", some "second"⟩⟩], by simp⟩
  expenses := Table.empty
  bags := Table.empty
  deposits := Table.empty

def asTheyAre : StreamReads := ⟨⟨id, fun _ => List.Perm.refl _⟩, ⟨id, fun _ => List.Perm.refl _⟩⟩

def firstMinute : StreamQuery := ⟨0, 60000, none, none⟩

theorem filteredRight_iff_sale :
    FilteredRight (oneOrder .POS_SALE_COMPLETED) "first"
        (unifiedLedgerStream (oneOrder .POS_SALE_COMPLETED) (firstMinute.of "first") asTheyAre)
        (unifiedLedgerStream (oneOrder .POS_SALE_COMPLETED) firstMinute.all asTheyAre) ↔
      OfBranchAlone (oneOrder .POS_SALE_COMPLETED) "first" firstMinute :=
  filteredRight_iff (by decide) (by decide)

/-- The adjustment of the second branch is a row of the first. -/
theorem not_filteredRight_adjustment :
    ¬ FilteredRight (oneOrder .DEBT_ADJUSTMENT) "first"
      (unifiedLedgerStream (oneOrder .DEBT_ADJUSTMENT) (firstMinute.of "first") asTheyAre)
      (unifiedLedgerStream (oneOrder .DEBT_ADJUSTMENT) firstMinute.all asTheyAre) := by
  intro hright
  have halone : OfBranchAlone (oneOrder .DEBT_ADJUSTMENT) "first" firstMinute :=
    ofBranchAlone_of_right (by decide) hright
  obtain ⟨order, horder, hbranch⟩ := (halone _ (mem_singleton_self _) (by decide)).2 rfl
  cases horder
  exact absurd hbranch (by decide)

end SafariLaundry.LedgerStream
