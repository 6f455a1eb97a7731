import SafariLaundry.Library.Decimal
import SafariLaundry.DriverDeposits

/-!
# Branch expenses and their accruals

An expense is booked when it becomes approved and taken back when it stops being
approved; every other change of status books nothing.  Which of the three it is gets
decided from the status read before the row is written.
-/

namespace SafariLaundry

open Library Library.Bookkeeping Library.Transaction

inductive ExpenseCategory
  | SOAP | FUEL | MISC
  deriving DecidableEq

inductive ExpenseMethod
  | CASH | PREPAID_CARD
  deriving DecidableEq

inductive ExpenseStatus
  | PENDING_ACCOUNTANT | APPROVED | REJECTED | AUDIT
  deriving DecidableEq

def ExpenseCategory.name : ExpenseCategory → String
  | .SOAP => "SOAP"
  | .FUEL => "FUEL"
  | .MISC => "MISC"

def ExpenseStatus.lowerName : ExpenseStatus → String
  | .PENDING_ACCOUNTANT => "pending_accountant"
  | .APPROVED => "approved"
  | .REJECTED => "rejected"
  | .AUDIT => "audit"

structure BranchExpense where
  id : Uuid
  title : String
  amount : ℤ
  category : ExpenseCategory
  expenseMethod : ExpenseMethod
  status : ExpenseStatus
  (note receiptUrl : Option String)
  recordedById : Uuid
  branchId : Option Uuid

inductive ExpenseEvent
  | ACCRUAL | REVERSAL | STATUS_CHANGE

inductive ExpenseMetadata
  | created (status : ExpenseStatus) (amountKd : ℤ) (category : ExpenseCategory)
      (expenseMethod : ExpenseMethod) (safariRole : SafariRole)
      (driverWalletDelta ownerProfitRadarDelta : ℤ)
  | changed (event : ExpenseEvent) (status previousStatus : ExpenseStatus) (amountKd : ℤ)
      (category : ExpenseCategory) (expenseMethod : ExpenseMethod) (branchId : Option Uuid)

structure ExpenseRecorded where
  amount : ℤ
  memo : String
  (expenseId actorUserId : Uuid)
  metadata : ExpenseMetadata

structure ExpensesDb where
  users : List User
  orders : Table Order.id
  deposits : Table Deposit.id
  expenses : Table BranchExpense.id
  entries : List ExpenseRecorded

abbrev ExpensesTx (α : Type) := Library.Transaction ServiceError ExpensesDb α

/-! ## Recording an expense -/

structure CreateExpenseDto where
  title : String
  amount : ℚ
  category : ExpenseCategory
  expenseMethod : Option ExpenseMethod
  (note receiptUrl : Option String)

structure CreateExpenseArgs where
  userId : Uuid
  safariRole : SafariRole
  dto : CreateExpenseDto

inductive ExpenseOwnerType
  | DRIVER | BRANCH | COMPANY
  deriving DecidableEq

def deriveOwnerType (recordedByRole : SafariRole) (branchId : Option Uuid) : ExpenseOwnerType :=
  match recordedByRole with
  | .DRIVER => .DRIVER
  | .MANAGER => .BRANCH
  | .OWNER | .GENERAL_MANAGER | .ACCOUNTANT => .COMPANY
  | _ => if branchId.isSome then .BRANCH else .COMPANY

def driverOnlyCategories : List ExpenseCategory := [.FUEL]

def expenseReceiptMaxDataUrlLength : ℕ := 500000

def isBase64Char (c : Char) : Bool :=
  c.isAlphanum || c == '+' || c == '/'

/-- `[A-Za-z0-9+/]+={0,2}$`. -/
def isBase64Tail (text : List Char) : Bool :=
  text.takeWhile isBase64Char != [] &&
    (text.dropWhile isBase64Char == [] || text.dropWhile isBase64Char == ['='] ||
      text.dropWhile isBase64Char == ['=', '='])

def isExpenseReceiptDataUrl (receipt : String) : Bool :=
  ["data:image/jpeg;base64,", "data:image/jpg;base64,", "data:image/png;base64,"].any
    fun head => (receipt.toList.take head.length == head.toList) &&
      isBase64Tail (receipt.toList.drop head.length)

def normalizeReceiptForCreate (role : SafariRole) (receiptUrl : Option String) :
    ExpensesTx (Option String) :=
  match trimmed receiptUrl with
  | none => do
      require (role ≠ .DRIVER) (.badRequest "Driver field expense requires a receipt photo.")
      return none
  | some receipt => do
      require (textLength receipt ≤ expenseReceiptMaxDataUrlLength)
        (.badRequest "Receipt photo is too large.")
      require (isExpenseReceiptDataUrl receipt = true)
        (.badRequest "Receipt must be a JPEG or PNG image data URL.")
      return some receipt

def driverSpendableCash (driverId : Uuid) (db : ExpensesDb) : ℤ :=
  tally Order.totalPrice (db.orders.rows.filter fun order => order.driverId = some driverId ∧
      order.status = .COMPLETED ∧ order.cashStatus = .PAID_TO_DRIVER ∧
      order.posPaymentMethod = .CASH) -
    tally BranchExpense.amount (db.expenses.rows.filter fun expense =>
      expense.recordedById = driverId ∧ (expense.status = .APPROVED ∨ expense.status = .AUDIT)) -
    tally Deposit.amount (db.deposits.rows.filter fun deposit =>
      deposit.driverId = driverId ∧ deposit.status = .PENDING)

namespace CreateExpenseArgs

def method (args : CreateExpenseArgs) : ExpenseMethod := args.dto.expenseMethod.getD .CASH

def amountDec (args : CreateExpenseArgs) : ℤ := Decimal.roundHalfAway (args.dto.amount * 10000)

def row (args : CreateExpenseArgs) (receiptUrl : Option String) (branchId : Option Uuid)
    (id : Uuid) : BranchExpense where
  id := id
  title := trim args.dto.title
  amount := args.amountDec
  category := args.dto.category
  expenseMethod := args.method
  status := .PENDING_ACCOUNTANT
  note := trimmed args.dto.note
  receiptUrl := receiptUrl
  recordedById := args.userId
  branchId := branchId

def marker (args : CreateExpenseArgs) (id : Uuid) : ExpenseRecorded where
  amount := 0
  memo := "expense:created:" ++ trim args.dto.title
  expenseId := id
  actorUserId := args.userId
  metadata := .created .PENDING_ACCOUNTANT args.amountDec args.dto.category args.method
    args.safariRole
    (if args.safariRole = .DRIVER ∧ args.method = .CASH then -args.amountDec else 0)
    (-args.amountDec)

end CreateExpenseArgs

def createExpenseSeeing (keys : FreshKeys Uuid) (args : CreateExpenseArgs) (seen : ExpensesDb) :
    ExpensesTx (BranchExpense × ExpenseOwnerType) := do
  require (args.safariRole = .MANAGER ∨ args.safariRole = .DRIVER)
    (.forbidden "Only MANAGER or DRIVER can record expenses")
  require (¬ (args.safariRole = .MANAGER ∧ args.dto.category ∈ driverOnlyCategories))
    (.badRequest ("INVALID EXPENSE TYPE — category " ++ args.dto.category.name ++
      " is driver-only; branch managers cannot record it."))
  let receiptUrl ← normalizeReceiptForCreate args.safariRole args.dto.receiptUrl
  atomically (fun before _ => before) do
    require (¬ (args.safariRole = .DRIVER ∧ args.method = .CASH ∧
        driverSpendableCash args.userId seen < args.amountDec))
      (.badRequest
        "Insufficient driver field cash for a CASH expense (includes pending deposits).")
    let branchId ← reads fun db =>
      (db.users.find? fun user => user.id = args.userId).bind User.branchId
    require (¬ (args.safariRole = .MANAGER ∧ branchId = none))
      (.badRequest "EXPENSE MUST HAVE OWNER — branch manager has no branch attribution.")
    let id ← reads fun db => keys.draw (db.expenses.rows.map BranchExpense.id)
    modify fun db => { db with
      expenses := db.expenses.insertNew keys (args.row receiptUrl branchId) fun _ => rfl }
    modify fun db => { db with entries := db.entries ++ [args.marker id] }
    return ({ args.row receiptUrl branchId id with receiptUrl := none },
      deriveOwnerType args.safariRole branchId)

structure UpdateExpenseArgs where
  id : Uuid
  safariRole : SafariRole
  status : ExpenseStatus
  actorUserId : Uuid

def expenseBooking (previousStatus status : ExpenseStatus) (amount : ℤ) : ℤ × ExpenseEvent :=
  if previousStatus ≠ .APPROVED ∧ status = .APPROVED then (amount, .ACCRUAL)
  else if previousStatus = .APPROVED ∧ status ≠ .APPROVED then (-amount, .REVERSAL)
  else (0, .STATUS_CHANGE)

def UpdateExpenseArgs.entry (args : UpdateExpenseArgs) (previousStatus : ExpenseStatus)
    (updated : BranchExpense) : ExpenseRecorded where
  amount := (expenseBooking previousStatus args.status updated.amount).1
  memo := "expense:" ++ args.status.lowerName
  expenseId := updated.id
  actorUserId := args.actorUserId
  metadata := .changed (expenseBooking previousStatus args.status updated.amount).2 args.status
    previousStatus updated.amount updated.category updated.expenseMethod updated.branchId

def BranchExpense.withStatus (status : ExpenseStatus) (expense : BranchExpense) : BranchExpense :=
  { expense with status := status }

theorem BranchExpense.withStatus_id (status : ExpenseStatus) (expense : BranchExpense) :
    (expense.withStatus status).id = expense.id := rfl

def updateExpenseStatusSeeing (args : UpdateExpenseArgs) (seen : ExpensesDb) :
    ExpensesTx BranchExpense := do
  require (args.safariRole ≠ .GENERAL_MANAGER) (.forbidden "Read-only role")
  require (args.safariRole = .ACCOUNTANT ∨ args.safariRole = .OWNER) (.forbidden "Forbidden")
  atomically (fun before _ => before) do
    let previous ← fetch (fun _ => seen.expenses.find? args.id) (.badRequest "Expense not found")
    let current ← fetch (fun db => db.expenses.find? args.id)
      (.database "Record to update not found.")
    let updated := current.withStatus args.status
    modify fun db => { db with
      expenses := db.expenses.update args.id (BranchExpense.withStatus args.status)
        (BranchExpense.withStatus_id args.status) }
    modify fun db => { db with entries := db.entries ++ [args.entry previous.status updated] }
    return updated

inductive ExpenseCall
  | create (keys : FreshKeys Uuid) (args : CreateExpenseArgs) (seen : ExpensesDb)
  | updateStatus (args : UpdateExpenseArgs) (seen : ExpensesDb)

def expenseCalls : Calls ExpensesDb ExpenseCall where
  step := fun call db =>
    match call with
    | .create keys args seen => ((createExpenseSeeing keys args seen).outcome db).2
    | .updateStatus args seen => ((updateExpenseStatusSeeing args seen).outcome db).2
  seen := fun call =>
    match call with
    | .create _ _ seen => [seen]
    | .updateStatus _ seen => [seen]

/-! ## What is booked -/

def entriesOf (expenseId : Uuid) (db : ExpensesDb) : List ExpenseRecorded :=
  db.entries.filter fun entry => entry.expenseId = expenseId

def bookedAmount (expenseId : Uuid) (db : ExpensesDb) : ℤ :=
  tally ExpenseRecorded.amount (entriesOf expenseId db)

def BranchExpense.recognised (expense : BranchExpense) : ℤ :=
  if expense.status = .APPROVED then expense.amount else 0

def recognisedAmount (expenseId : Uuid) (db : ExpensesDb) : ℤ :=
  ((db.expenses.find? expenseId).map BranchExpense.recognised).getD 0

def BookedRight (expenseId : Uuid) (db : ExpensesDb) : Prop :=
  bookedAmount expenseId db = recognisedAmount expenseId db
  deriving Decidable

/-- A review of the expense takes it for approved exactly if it is. -/
def ExpenseCall.ReadHolds (expenseId : Uuid) (db : ExpensesDb) : ExpenseCall → Prop
  | .create _ _ _ => True
  | .updateStatus args seen =>
      args.id = expenseId → args.safariRole = .ACCOUNTANT ∨ args.safariRole = .OWNER →
        ∀ previous, seen.expenses.find? expenseId = some previous →
          ∀ current, db.expenses.find? expenseId = some current →
            current.amount = 0 ∨ (previous.status = .APPROVED ↔ current.status = .APPROVED)

variable {expenseId : Uuid} {seen db db' : ExpensesDb}

theorem bookedAmount_append (expenseId : Uuid) {entry : ExpenseRecorded}
    (hentries : db'.entries = db.entries ++ [entry]) :
    bookedAmount expenseId db' = bookedAmount expenseId db +
      if entry.expenseId = expenseId then entry.amount else 0 := by
  unfold bookedAmount entriesOf
  rw [hentries, List.filter_append, tally_append]
  by_cases hid : entry.expenseId = expenseId
  · simp [hid]
  · simp [hid]

theorem expenseBooking_eq (previousStatus status : ExpenseStatus) (amount : ℤ) :
    (expenseBooking previousStatus status amount).1 = (if status = .APPROVED then amount else 0) -
        if previousStatus = .APPROVED then amount else 0 := by
  unfold expenseBooking
  by_cases hwas : previousStatus = .APPROVED
  · by_cases hbecomes : status = .APPROVED
    · simp [hwas, hbecomes]
    · simp [hwas, hbecomes]
  · by_cases hbecomes : status = .APPROVED
    · simp [hwas, hbecomes]
    · simp [hwas, hbecomes]

structure ExpenseCreated (db db' : ExpensesDb) (row : BranchExpense) (marker : ExpenseRecorded) :
    Prop where
  fresh : db.expenses.find? row.id = none
  expenses : db'.expenses.rows = db.expenses.rows ++ [row]
  pending : row.status = .PENDING_ACCOUNTANT
  entries : db'.entries = db.entries ++ [marker]
  markerAmount : marker.amount = 0

theorem commits_normalizeReceipt {role : SafariRole} {given result : Option String}
    (hcommits : (normalizeReceiptForCreate role given).Commits db result db') :
    db' = db := by
  unfold normalizeReceiptForCreate at hcommits
  cases hgiven : trimmed given with
  | none =>
      simp only [hgiven, commits_bind, commits_require, commits_pure] at hcommits
      obtain ⟨_, _, ⟨_, rfl⟩, _, rfl⟩ := hcommits
      rfl
  | some receipt =>
      simp only [hgiven, commits_bind, commits_require, commits_pure] at hcommits
      obtain ⟨_, _, ⟨_, rfl⟩, _, _, ⟨_, rfl⟩, _, rfl⟩ := hcommits
      rfl

theorem commits_createExpense {keys : FreshKeys Uuid} {args : CreateExpenseArgs}
    {result : BranchExpense × ExpenseOwnerType}
    (hcommits : (createExpenseSeeing keys args seen).Commits db result db') :
    ∃ row marker, ExpenseCreated db db' row marker := by
  unfold createExpenseSeeing at hcommits
  rw [commits_bind] at hcommits
  obtain ⟨_, _, hrole, hcommits⟩ := hcommits
  obtain ⟨_, rfl⟩ := commits_require.1 hrole
  rw [commits_bind] at hcommits
  obtain ⟨_, _, hcategory, hcommits⟩ := hcommits
  obtain ⟨_, rfl⟩ := commits_require.1 hcategory
  rw [commits_bind] at hcommits
  obtain ⟨receiptUrl, _, hreceipt, hcommits⟩ := hcommits
  obtain rfl := commits_normalizeReceipt hreceipt
  simp only [commits_atomically, commits_bind, commits_require, commits_reads, commits_modify,
    commits_pure] at hcommits
  obtain ⟨_, _, ⟨_, rfl⟩, branchId, _, ⟨_, rfl⟩, _, _, ⟨_, rfl⟩, hwrite⟩ := hcommits
  obtain ⟨id, _, ⟨hid, rfl⟩, _, _, rfl, _, _, rfl, _, rfl⟩ := hwrite
  refine ⟨args.row receiptUrl branchId id, args.marker id, ?_⟩
  subst hid
  constructor
  · apply List.find?_eq_none.2
    intro other hother hkey
    apply keys.draw_fresh
    exact List.mem_map.2 ⟨other, hother, of_decide_eq_true hkey⟩
  · rfl
  · rfl
  · rfl
  · rfl

theorem ExpenseCreated.bookedRight {row : BranchExpense} {marker : ExpenseRecorded}
    (hcreated : ExpenseCreated db db' row marker) (hright : BookedRight expenseId db) :
    BookedRight expenseId db' := by
  have hfind : db'.expenses.find? expenseId = (db.expenses.find? expenseId).or
      (if row.id = expenseId then some row else none) := by
    unfold Table.find?
    rw [hcreated.expenses, List.find?_append, List.find?_singleton]
    by_cases hid : row.id = expenseId
    · simp [hid]
    · simp [hid]
  have hnone : row.recognised = 0 := by
    unfold BranchExpense.recognised
    rw [hcreated.pending]
    rfl
  have hsame : recognisedAmount expenseId db' = recognisedAmount expenseId db := by
    unfold recognisedAmount
    rw [hfind]
    cases hold : db.expenses.find? expenseId with
    | some old => rfl
    | none =>
        by_cases hid : row.id = expenseId
        · simp [hid, hnone]
        · simp [hid]
  have hzero : (if marker.expenseId = expenseId then marker.amount else 0) = 0 := by
    rw [hcreated.markerAmount, ite_self]
  unfold BookedRight
  rw [hsame, bookedAmount_append _ hcreated.entries, hzero, add_zero]
  exact hright

structure ExpenseReviewed (args : UpdateExpenseArgs) (seen db db' : ExpensesDb)
    (previous current : BranchExpense) : Prop where
  role : args.safariRole = .ACCOUNTANT ∨ args.safariRole = .OWNER
  read : seen.expenses.find? args.id = some previous
  found : db.expenses.find? args.id = some current
  expenses : db'.expenses = db.expenses.update args.id (BranchExpense.withStatus args.status)
      (BranchExpense.withStatus_id args.status)
  entries : db'.entries =
    db.entries ++ [args.entry previous.status (current.withStatus args.status)]

variable {args : UpdateExpenseArgs}

theorem commits_updateExpenseStatus {result : BranchExpense}
    (hcommits : (updateExpenseStatusSeeing args seen).Commits db result db') :
    ∃ previous current, ExpenseReviewed args seen db db' previous current := by
  unfold updateExpenseStatusSeeing at hcommits
  simp only [commits_bind, commits_atomically, commits_require, commits_fetch, commits_modify,
    commits_pure] at hcommits
  obtain ⟨_, _, ⟨_, rfl⟩, _, _, ⟨hrole, rfl⟩, previous, _, ⟨hread, rfl⟩, hwrite⟩ := hcommits
  obtain ⟨current, _, ⟨hfound, rfl⟩, _, _, rfl, _, _, rfl, _, rfl⟩ := hwrite
  exact ⟨previous, current, hrole, hread, hfound, rfl, rfl⟩

variable {previous current : BranchExpense}

theorem exists_commits_updateExpenseStatus
    (hrole : args.safariRole = .ACCOUNTANT ∨ args.safariRole = .OWNER)
    (hread : seen.expenses.find? args.id = some previous)
    (hfound : db.expenses.find? args.id = some current) :
    ∃ result db', (updateExpenseStatusSeeing args seen).Commits db result db' := by
  have hnotReadOnly : args.safariRole ≠ .GENERAL_MANAGER := by
    rcases hrole with hrole | hrole
    · simp [hrole]
    · simp [hrole]
  unfold updateExpenseStatusSeeing
  simp only [commits_bind, commits_atomically, commits_require, commits_fetch, commits_modify,
    commits_pure]
  exact ⟨_, _, (), db, ⟨hnotReadOnly, rfl⟩, (), db, ⟨hrole, rfl⟩, previous, db, ⟨hread, rfl⟩,
    current, db, ⟨hfound, rfl⟩, (), _, rfl, (), _, rfl, rfl, rfl⟩

theorem ExpenseReviewed.bookedRight_iff
    (hreviewed : ExpenseReviewed args seen db db' previous current)
    (hright : BookedRight args.id db) :
    BookedRight args.id db' ↔
      current.amount = 0 ∨ (previous.status = .APPROVED ↔ current.status = .APPROVED) := by
  have hid : current.id = args.id := Table.key_of_find? hreviewed.found
  have hbooked := bookedAmount_append args.id hreviewed.entries
  have hentry : (args.entry previous.status (current.withStatus args.status)).expenseId =
      args.id := hid
  have hamount : (args.entry previous.status (current.withStatus args.status)).amount =
      (if args.status = .APPROVED then current.amount else 0) -
        if previous.status = .APPROVED then current.amount else 0 :=
    expenseBooking_eq previous.status args.status current.amount
  have hbefore : recognisedAmount args.id db =
      if current.status = .APPROVED then current.amount else 0 := by
    unfold recognisedAmount
    rw [hreviewed.found]
    rfl
  have hafter : recognisedAmount args.id db' =
      if args.status = .APPROVED then current.amount else 0 := by
    unfold recognisedAmount
    rw [hreviewed.expenses, Table.find?_update_self, hreviewed.found]
    rfl
  rw [if_pos hentry, hamount] at hbooked
  unfold BookedRight at hright ⊢
  rw [hbooked, hafter, hright, hbefore]
  by_cases hread : previous.status = .APPROVED
  · by_cases hnow : current.status = .APPROVED
    · simp [hread, hnow]
    · simp only [hread, hnow, if_true, if_false, iff_false, not_true, or_false]
      omega
  · by_cases hnow : current.status = .APPROVED
    · simp only [hread, hnow, if_true, if_false, iff_true, or_false]
      omega
    · simp [hread, hnow]

theorem ExpenseReviewed.bookedRight_other
    (hreviewed : ExpenseReviewed args seen db db' previous current) (hne : args.id ≠ expenseId)
    (hright : BookedRight expenseId db) :
    BookedRight expenseId db' := by
  have hentry : (args.entry previous.status (current.withStatus args.status)).expenseId =
      args.id := by
    have hid : current.id = args.id := Table.key_of_find? hreviewed.found
    exact hid
  have hbooked := bookedAmount_append expenseId hreviewed.entries
  rw [hentry, if_neg hne, add_zero] at hbooked
  unfold BookedRight recognisedAmount at hright ⊢
  rw [hbooked, hreviewed.expenses, Table.find?_update_of_ne _ _ _ hne.symm]
  exact hright

theorem throws_createExpense {keys : FreshKeys Uuid} {args : CreateExpenseArgs} {e : ServiceError}
    (hthrows : (createExpenseSeeing keys args seen).Throws db e db') :
    db' = db := by
  unfold createExpenseSeeing at hthrows
  simp only [throws_bind, throws_require, commits_require] at hthrows
  rcases hthrows with ⟨_, _, rfl⟩ | ⟨_, _, ⟨_, rfl⟩, hthrows⟩
  · rfl
  rcases hthrows with ⟨_, _, rfl⟩ | ⟨_, _, ⟨_, rfl⟩, hthrows⟩
  · rfl
  rcases hthrows with hreceipt | ⟨_, _, hreceipt, hthrows⟩
  · unfold normalizeReceiptForCreate at hreceipt
    cases hgiven : trimmed args.dto.receiptUrl with
    | none =>
        simp only [hgiven, throws_bind, throws_require, throws_pure] at hreceipt
        rcases hreceipt with ⟨_, _, rfl⟩ | ⟨_, _, _, hpure⟩
        · rfl
        · exact hpure.elim
    | some receipt =>
        simp only [hgiven, throws_bind, throws_require, commits_require, throws_pure] at hreceipt
        rcases hreceipt with ⟨_, _, rfl⟩ | ⟨_, _, ⟨_, rfl⟩, ⟨_, _, rfl⟩ | ⟨_, _, _, hpure⟩⟩
        · rfl
        · rfl
        · exact hpure.elim
  · obtain rfl := commits_normalizeReceipt hreceipt
    obtain ⟨_, _, hrollback⟩ := throws_atomically.1 hthrows
    exact hrollback.symm

theorem throws_updateExpenseStatus {e : ServiceError}
    (hthrows : (updateExpenseStatusSeeing args seen).Throws db e db') :
    db' = db := by
  unfold updateExpenseStatusSeeing at hthrows
  simp only [throws_bind, throws_require, commits_require, throws_atomically] at hthrows
  rcases hthrows with ⟨_, _, rfl⟩ | ⟨_, _, ⟨_, rfl⟩, hthrows⟩
  · rfl
  rcases hthrows with ⟨_, _, rfl⟩ | ⟨_, _, ⟨_, rfl⟩, _, _, rfl⟩
  · rfl
  · rfl

theorem ExpenseCall.bookedRight_step_iff {call : ExpenseCall} (hright : BookedRight expenseId db) :
    BookedRight expenseId (expenseCalls.step call db) ↔ call.ReadHolds expenseId db := by
  cases call with
  | create keys args seen =>
      refine iff_of_true ?_ trivial
      have hkeeps : KeepsAt (fun before after => BookedRight expenseId before →
          BookedRight expenseId after) db (createExpenseSeeing keys args seen) := by
        apply keepsAt_of_cases
        · intro result db' hcommits
          obtain ⟨row, marker, hcreated⟩ := commits_createExpense hcommits
          exact hcreated.bookedRight
        · intro e db' hthrows
          rw [throws_createExpense hthrows]
          exact id
      exact hkeeps hright
  | updateStatus args seen =>
      change BookedRight expenseId ((updateExpenseStatusSeeing args seen).outcome db).2 ↔ _
      cases hresult : (updateExpenseStatusSeeing args seen).outcome db with
      | mk result db' =>
          cases result with
          | error e =>
              have hsame : db' = db := throws_updateExpenseStatus hresult
              rw [hsame]
              refine iff_of_true hright ?_
              intro hid hrole previous hread current hfound
              subst hid
              obtain ⟨_, _, hcommits⟩ :=
                exists_commits_updateExpenseStatus hrole hread hfound
              cases hcommits.symm.trans hresult
          | ok updated =>
              obtain ⟨previous, current, hreviewed⟩ := commits_updateExpenseStatus hresult
              by_cases hid : args.id = expenseId
              · subst hid
                rw [hreviewed.bookedRight_iff hright]
                constructor
                · intro hholds _ _ previous' hread current' hfound
                  obtain rfl := Option.some.inj (hread.symm.trans hreviewed.read)
                  obtain rfl := Option.some.inj (hfound.symm.trans hreviewed.found)
                  exact hholds
                · intro hholds
                  exact hholds rfl hreviewed.role previous hreviewed.read current hreviewed.found
              · exact iff_of_true (hreviewed.bookedRight_other hid hright)
                  fun hsame => absurd hsame hid

/-- In every run of creations and reviews, whatever each of them read, the ledger rows of an
expense sum to its amount while it is approved and to zero otherwise, exactly if every
review of it takes it for approved when it is and only then. -/
theorem expense_bookedRight_iff {start : ExpensesDb} {calls : List ExpenseCall}
    {trace : List ExpensesDb} (hstart : BookedRight expenseId start)
    (hlog : expenseCalls.Log (fun _ _ => True) start calls trace) :
    (∀ db ∈ trace, BookedRight expenseId db) ↔
      ∀ found ∈ Calls.occurrences calls trace, found.1.ReadHolds expenseId found.2 :=
  hlog.invariant_iff hstart fun _ _ hright _ => ExpenseCall.bookedRight_step_iff hright

namespace Sample

def expenseDesk : ExpensesDb where
  users := [owner]
  orders := oneOrder "order"
  deposits := .empty
  expenses := ⟨[⟨"expense", "soap", 30000, .SOAP, .CASH, .PENDING_ACCOUNTANT, none, none,
    "manager", some "branch"⟩], List.nodup_singleton _⟩
  entries := []

def expenseApproval (seen : ExpensesDb) : ExpenseCall :=
  .updateStatus ⟨"expense", .ACCOUNTANT, .APPROVED, "accountant"⟩ seen

def approvedExpenseDesk : ExpensesDb :=
  expenseCalls.step (expenseApproval expenseDesk) expenseDesk

theorem expenseDesk_bookedRight : BookedRight "expense" expenseDesk := by
  decide +kernel

theorem expenseApproval_log :
    expenseCalls.Log (fun _ _ => True) expenseDesk [expenseApproval expenseDesk]
      [approvedExpenseDesk, expenseDesk] := by
  apply Calls.Log.call (expenseApproval expenseDesk) .start
  · intro seen hseen
    exact hseen
  · trivial

end Sample

theorem expense_bookedRight_iff_sample :
    BookedRight "expense" Sample.approvedExpenseDesk ∧
      BookedRight "expense" Sample.expenseDesk := by
  have hall := (expense_bookedRight_iff Sample.expenseDesk_bookedRight
    Sample.expenseApproval_log).2 fun found hfound => by
      obtain rfl := List.mem_singleton.1 hfound
      intro _ _ previous hread current hfound
      obtain rfl := Option.some.inj (hread.symm.trans hfound)
      exact .inr Iff.rfl
  exact ⟨hall _ (List.mem_cons_self ..), Sample.expenseDesk_bookedRight⟩

theorem expense_bookedRight_fails :
    ¬ ∀ (expenseId : Uuid) (start : ExpensesDb) (calls : List ExpenseCall)
        (trace : List ExpensesDb), BookedRight expenseId start →
      expenseCalls.Log (fun _ _ => True) start calls trace →
      ∀ db ∈ trace, BookedRight expenseId db := by
  intro hall
  have hlog : expenseCalls.Log (fun _ _ => True) Sample.expenseDesk
      [Sample.expenseApproval Sample.expenseDesk, Sample.expenseApproval Sample.expenseDesk]
      [expenseCalls.step (Sample.expenseApproval Sample.expenseDesk) Sample.approvedExpenseDesk,
        Sample.approvedExpenseDesk, Sample.expenseDesk] := by
    apply Calls.Log.call (Sample.expenseApproval Sample.expenseDesk) Sample.expenseApproval_log
    · intro seen hseen
      rw [List.mem_singleton.1 hseen]
      exact List.mem_cons_of_mem _ (List.mem_singleton_self _)
    · trivial
  have hright := hall _ _ _ _ Sample.expenseDesk_bookedRight hlog _ (List.mem_cons_self ..)
  revert hright
  decide +kernel

end SafariLaundry
