import SafariLaundry.CashCustody
import SafariLaundry.Expenses
import SafariLaundry.OrderUpdate

/-!
# Field cash of the drivers

A driver holds the cash of completed orders until a handover takes all of it, and spends of
it what expenses say.  Submissions are held against the spendable cash, which counts
approved expenses and pending deposits but no expense that still waits.
-/

namespace SafariLaundry

open Library Library.Bookkeeping Library.Transaction

/-- The orders with the bags, and the expenses of the same users. -/
structure FieldDb where
  custody : CustodyDb
  deposits : Table Deposit.id
  expenses : Table BranchExpense.id
  entries : List ExpenseRecorded

namespace FieldDb

def toExpenses (db : FieldDb) : ExpensesDb where
  users := db.custody.users
  orders := ⟨db.custody.orders.rows.map CashOrder.toOrder, by
    rw [List.map_map]
    exact db.custody.orders.keysDistinct⟩
  deposits := db.deposits
  expenses := db.expenses
  entries := db.entries

def withExpenses (after : ExpensesDb) (db : FieldDb) : FieldDb :=
  { db with
    expenses := after.expenses
    entries := after.entries }

end FieldDb

namespace UpdateOrderArgs

def MayUpdate (args : UpdateOrderArgs) (order : Order) : Prop :=
  (if args.role = .DRIVER then order.driverId = some args.userId
    else canStaffUpdateOrders args.role) ∧
  (order.status = args.dto.status.getD order.status ∨
    StatusEdge order.status (args.dto.status.getD order.status) order.driverId.isSome)
  deriving Decidable

def updatedCashOrder (env : Env) (args : UpdateOrderArgs) (order row : CashOrder) : CashOrder :=
  { row with toOrder := args.updatedRow env order.toOrder row.toOrder }

theorem updatedCashOrder_key (env : Env) (args : UpdateOrderArgs) (order row : CashOrder) :
    (args.updatedCashOrder env order row).key = row.key := rfl

end UpdateOrderArgs

def FieldDb.collect (env : Env) (args : UpdateOrderArgs) (db : FieldDb) : FieldDb :=
  match db.custody.orders.find? args.orderId with
  | none => db
  | some order =>
      if args.MayUpdate order.toOrder then
        { db with custody := { db.custody with
            orders := db.custody.orders.update args.orderId (args.updatedCashOrder env order)
              (args.updatedCashOrder_key env order) } }
      else db

inductive FieldCall
  | collect (env : Env) (args : UpdateOrderArgs)
  | handover (env : CustodyEnv) (args : HandoverArgs)
  | submit (keys : FreshKeys Uuid) (args : CreateExpenseArgs)
  | review (args : UpdateExpenseArgs)

def fieldCalls : Calls FieldDb FieldCall where
  step := fun call db =>
    match call with
    | .collect env args => db.collect env args
    | .handover env args =>
        { db with custody := ((confirmHandoverSeeing env args db.custody).outcome db.custody).2 }
    | .submit keys args =>
        db.withExpenses ((createExpenseSeeing keys args db.toExpenses).outcome db.toExpenses).2
    | .review args =>
        db.withExpenses ((updateExpenseStatusSeeing args db.toExpenses).outcome db.toExpenses).2
  seen := fun _ => []

def CashOrder.cashOf (driverId : Uuid) (order : CashOrder) : ℤ :=
  if order.PendingWith driverId then order.totalPrice else 0

def fieldCash (driverId : Uuid) (db : FieldDb) : ℤ :=
  tally (CashOrder.cashOf driverId) db.custody.orders.rows

namespace BranchExpense

def acceptedIn (driverId : Uuid) (expense : BranchExpense) (status : ExpenseStatus) : ℤ :=
  if expense.recordedById = driverId ∧ expense.expenseMethod = .CASH ∧ status ≠ .REJECTED then
    expense.amount
  else 0

def spentIn (driverId : Uuid) (expense : BranchExpense) (status : ExpenseStatus) : ℤ :=
  if expense.recordedById = driverId ∧ (status = .APPROVED ∨ status = .AUDIT) then
    expense.amount
  else 0

end BranchExpense

def acceptedCash (driverId : Uuid) (db : FieldDb) : ℤ :=
  tally (fun expense => BranchExpense.acceptedIn driverId expense expense.status) db.expenses.rows

def spentTotal (driverId : Uuid) (db : FieldDb) : ℤ :=
  tally (fun expense => BranchExpense.spentIn driverId expense expense.status) db.expenses.rows

def pendingDeposits (driverId : Uuid) (db : FieldDb) : ℤ :=
  tally Deposit.amount (db.deposits.rows.filter fun deposit =>
    deposit.driverId = driverId ∧ deposit.status = .PENDING)

structure WithinFieldCash (driverId : Uuid) (db : FieldDb) : Prop where
  accepted : acceptedCash driverId db ≤ fieldCash driverId db
  spendable : 0 ≤ driverSpendableCash driverId db.toExpenses

def ReceiptAccepted (role : SafariRole) (receiptUrl : Option String) : Prop :=
  match trimmed receiptUrl with
  | none => role ≠ .DRIVER
  | some receipt =>
      textLength receipt ≤ expenseReceiptMaxDataUrlLength ∧ isExpenseReceiptDataUrl receipt = true

structure CreateExpenseArgs.Recorded (args : CreateExpenseArgs) (db : ExpensesDb) : Prop where
  role : args.safariRole = .MANAGER ∨ args.safariRole = .DRIVER
  category : ¬ (args.safariRole = .MANAGER ∧ args.dto.category ∈ driverOnlyCategories)
  receipt : ReceiptAccepted args.safariRole args.dto.receiptUrl
  cash : ¬ (args.safariRole = .DRIVER ∧ args.method = .CASH ∧
    driverSpendableCash args.userId db < args.amountDec)
  branch : ¬ (args.safariRole = .MANAGER ∧
    (db.users.find? fun user => user.id = args.userId).bind User.branchId = none)

/-- The call leaves the driver with enough: a recorded cash expense fits into the field cash
with all those accepted, a review into what is left of the field cash and the spendable cash,
and all cash is handed over only when nothing of it is spent or on its way to the bank. -/
def FieldCall.Covered (driverId : Uuid) (call : FieldCall) (db : FieldDb) : Prop :=
  match call with
  | .collect _ _ => True
  | .handover env args =>
      args.HandsOver env db.custody db.custody → args.dto.driverId = driverId →
        acceptedCash driverId db ≤ 0 ∧ spentTotal driverId db + pendingDeposits driverId db ≤ 0
  | .submit _ args =>
      args.Recorded db.toExpenses → args.userId = driverId → args.method = .CASH →
        acceptedCash driverId db + args.amountDec ≤ fieldCash driverId db
  | .review args =>
      args.safariRole = .ACCOUNTANT ∨ args.safariRole = .OWNER →
        ∀ expense, db.expenses.find? args.id = some expense →
          acceptedCash driverId db + expense.acceptedIn driverId args.status ≤
              fieldCash driverId db + expense.acceptedIn driverId expense.status ∧
            expense.spentIn driverId args.status ≤ driverSpendableCash driverId db.toExpenses +
                expense.spentIn driverId expense.status

variable {driverId : Uuid} {db : FieldDb}

theorem driverSpendableCash_eq (driverId : Uuid) (db : FieldDb) :
    driverSpendableCash driverId db.toExpenses =
      fieldCash driverId db - spentTotal driverId db - pendingDeposits driverId db := by
  have hcash : tally Order.totalPrice (db.toExpenses.orders.rows.filter fun order =>
      order.driverId = some driverId ∧ order.status = .COMPLETED ∧
        order.cashStatus = .PAID_TO_DRIVER ∧ order.posPaymentMethod = .CASH) =
      fieldCash driverId db := by
    rw [tally_filter]
    exact tally_map _ CashOrder.toOrder db.custody.orders.rows
  have hspent : tally BranchExpense.amount (db.expenses.rows.filter fun expense =>
      expense.recordedById = driverId ∧ (expense.status = .APPROVED ∨ expense.status = .AUDIT)) =
      spentTotal driverId db := tally_filter _ _ _
  unfold driverSpendableCash
  rw [hcash]
  change _ - tally BranchExpense.amount (db.expenses.rows.filter _) - _ = _
  rw [hspent]
  rfl

structure FieldMoved (driverId : Uuid) (cash accepted spent : ℤ) (db db' : FieldDb) : Prop where
  cash : fieldCash driverId db' = fieldCash driverId db + cash
  accepted : acceptedCash driverId db' = acceptedCash driverId db + accepted
  spent : spentTotal driverId db' = spentTotal driverId db + spent
  deposits : db'.deposits = db.deposits

variable {db' : FieldDb} {cash accepted spent : ℤ}

theorem FieldMoved.refl (driverId : Uuid) (db : FieldDb) : FieldMoved driverId 0 0 0 db db :=
  ⟨(add_zero _).symm, (add_zero _).symm, (add_zero _).symm, rfl⟩

theorem FieldMoved.spendable (hmoved : FieldMoved driverId cash accepted spent db db') :
    driverSpendableCash driverId db'.toExpenses =
      driverSpendableCash driverId db.toExpenses + cash - spent := by
  have hdeposits : pendingDeposits driverId db' = pendingDeposits driverId db := by
    unfold pendingDeposits
    rw [hmoved.deposits]
  rw [driverSpendableCash_eq, driverSpendableCash_eq, hmoved.cash, hmoved.spent, hdeposits]
  omega

theorem FieldMoved.within_iff (hmoved : FieldMoved driverId cash accepted spent db db') :
    WithinFieldCash driverId db' ↔
      acceptedCash driverId db + accepted ≤ fieldCash driverId db + cash ∧
        spent ≤ driverSpendableCash driverId db.toExpenses + cash := by
  have hspendable := hmoved.spendable
  constructor
  · rintro ⟨haccepted, hleft⟩
    rw [hmoved.accepted, hmoved.cash] at haccepted
    exact ⟨haccepted, by omega⟩
  · rintro ⟨haccepted, hleft⟩
    refine ⟨?_, by omega⟩
    rw [hmoved.accepted, hmoved.cash]
    exact haccepted

def PricesNonneg (db : FieldDb) : Prop :=
  ∀ order ∈ db.custody.orders.rows, 0 ≤ order.totalPrice

theorem no_edge_of_completed {next : OrderStatus} {hasDriver : Bool} :
    ¬ StatusEdge .COMPLETED next hasDriver := fun hedge => by cases hedge.1

theorem UpdateOrderArgs.cashOf_le (env : Env) (driverId : Uuid) {args : UpdateOrderArgs}
    {order : CashOrder} (hmay : args.MayUpdate order.toOrder) (hprice : 0 ≤ order.totalPrice) :
    order.cashOf driverId ≤ (args.updatedCashOrder env order order).cashOf driverId := by
  have hsame : (args.updatedCashOrder env order order).totalPrice = order.totalPrice := rfl
  unfold CashOrder.cashOf
  by_cases hpending : order.PendingWith driverId
  · obtain ⟨hdriver, hcompleted, hcash, hmethod⟩ := hpending
    have hstays : args.dto.status.getD order.status = .COMPLETED := by
      rcases hmay.2 with hstatus | hedge
      · rw [← hstatus]
        exact hcompleted
      · rw [hcompleted] at hedge
        exact absurd hedge no_edge_of_completed
    have hnot : ¬ args.Completing order.toOrder := fun hcompleting => hcompleting.2 hcompleted
    have hstill : (args.updatedCashOrder env order order).PendingWith driverId := by
      refine ⟨hdriver, hstays, ?_, hmethod⟩
      change (if args.Completing order.toOrder ∧ _ ∧ _ then _ else order.cashStatus) = _
      rw [if_neg fun hall => hnot hall.1]
      exact hcash
    rw [if_pos ⟨hdriver, hcompleted, hcash, hmethod⟩, if_pos hstill, hsame]
  · rw [if_neg hpending]
    split
    · rw [hsame]
      exact hprice
    · exact le_refl 0

theorem FieldDb.collect_moves (env : Env) (args : UpdateOrderArgs) (driverId : Uuid)
    (hprices : PricesNonneg db) :
    ∃ cash, 0 ≤ cash ∧ FieldMoved driverId cash 0 0 db (db.collect env args) := by
  unfold collect
  cases hfound : db.custody.orders.find? args.orderId with
  | none => exact ⟨0, le_refl 0, .refl driverId db⟩
  | some order =>
      simp only
      by_cases hmay : args.MayUpdate order.toOrder
      · rw [if_pos hmay]
        have htally := tally_update (CashOrder.cashOf driverId)
          (args.updatedCashOrder_key env order) hfound
        have hle := UpdateOrderArgs.cashOf_le env driverId hmay
          (hprices order (Table.mem_of_find? hfound))
        refine ⟨(args.updatedCashOrder env order order).cashOf driverId - order.cashOf driverId,
          by omega, ?_, (add_zero _).symm, (add_zero _).symm, rfl⟩
        unfold fieldCash
        simp only
        omega
      · rw [if_neg hmay]
        exact ⟨0, le_refl 0, .refl driverId db⟩

theorem FieldDb.collect_prices (env : Env) (args : UpdateOrderArgs) (hprices : PricesNonneg db) :
    PricesNonneg (db.collect env args) := by
  unfold collect
  cases hfound : db.custody.orders.find? args.orderId with
  | none => exact hprices
  | some order =>
      simp only
      by_cases hmay : args.MayUpdate order.toOrder
      · rw [if_pos hmay]
        intro later hlater
        obtain ⟨row, hrow, rfl⟩ := List.mem_map.1 hlater
        split
        · exact hprices row hrow
        · exact hprices row hrow
      · rw [if_neg hmay]
        exact hprices

variable {env : CustodyEnv} {args : HandoverArgs} {custody custody' : CustodyDb}

theorem mem_pendingKeys_iff {order : CashOrder} (horder : order ∈ custody.orders.rows) :
    order.key ∈ (pendingHandover driverId custody).map CashOrder.key ↔
      order.PendingWith driverId := by
  unfold pendingHandover
  rw [List.mem_map]
  constructor
  · rintro ⟨other, hother, hkey⟩
    obtain ⟨hstored, hpending⟩ := List.mem_filter.1 hother
    rw [← Table.row_eq_of_key_eq hstored horder hkey]
    exact of_decide_eq_true hpending
  · intro hpending
    exact ⟨order, List.mem_filter.2 ⟨horder, decide_eq_true hpending⟩, rfl⟩

theorem handover_cases (env : CustodyEnv) (args : HandoverArgs) (custody : CustodyDb) :
    (¬ args.HandsOver env custody custody ∧
        ((confirmHandoverSeeing env args custody).outcome custody).2 = custody) ∨
      (args.HandsOver env custody custody ∧ ∃ shiftId bag, HandoverDone args custody custody
        ((confirmHandoverSeeing env args custody).outcome custody).2 shiftId bag) := by
  cases hresult : (confirmHandoverSeeing env args custody).outcome custody with
  | mk result custody' =>
      cases result with
      | error err =>
          left
          constructor
          · intro hhands
            obtain ⟨_, _, hcommits⟩ := hhands.commits
            cases hcommits.symm.trans hresult
          · have hthrows : (confirmHandoverSeeing env args custody).Throws custody err custody' :=
              hresult
            unfold confirmHandoverSeeing at hthrows
            obtain ⟨_, _, hrollback⟩ := throws_atomically.1 hthrows
            exact hrollback.symm
      | ok result =>
          rcases commits_confirmHandover hresult with ⟨hnone, hsame⟩ | ⟨hhands, hdone⟩
          · exact .inl ⟨fun hhands => hhands.pending hnone, hsame⟩
          · exact .inr ⟨hhands, hdone⟩

theorem HandoverDone.cash_left {shiftId : Option Uuid} {bag : ManagerCashCustody}
    (hdone : HandoverDone args custody custody custody' shiftId bag) (driverId : Uuid) :
    tally (CashOrder.cashOf driverId) custody'.orders.rows = if args.dto.driverId = driverId then 0
      else tally (CashOrder.cashOf driverId) custody.orders.rows := by
  have hgone : ∀ order : CashOrder, (order.handedOver shiftId).cashOf driverId = 0 := by
    intro order
    apply if_neg
    rintro ⟨_, _, hcash, _⟩
    cases hcash
  rw [hdone.orders, Table.rows_updateWhere, tally_map]
  by_cases hdriver : args.dto.driverId = driverId
  · rw [if_pos hdriver]
    apply tally_eq_zero
    intro order horder
    by_cases hpending : order.PendingWith driverId
    · rw [if_pos ⟨(mem_pendingKeys_iff horder).2 (hdriver ▸ hpending), hpending.2.2⟩]
      exact hgone order
    · rw [if_neg fun hclaimed => hpending (hdriver ▸ (mem_pendingKeys_iff horder).1 hclaimed.1)]
      exact if_neg hpending
  · rw [if_neg hdriver]
    apply tally_congr
    intro order horder
    split
    · rename_i hclaimed
      have hother := (mem_pendingKeys_iff horder).1 hclaimed.1
      rw [hgone]
      symm
      apply if_neg
      rintro ⟨hdriverId, _⟩
      rw [hother.1] at hdriverId
      exact hdriver (Option.some.inj hdriverId)
    · rfl

theorem handover_moves (env : CustodyEnv) (args : HandoverArgs) (driverId : Uuid) (db : FieldDb) :
    (¬ (args.HandsOver env db.custody db.custody ∧ args.dto.driverId = driverId) ∧
        FieldMoved driverId 0 0 0 db (fieldCalls.step (.handover env args) db)) ∨
      (args.HandsOver env db.custody db.custody ∧ args.dto.driverId = driverId ∧
        FieldMoved driverId (-fieldCash driverId db) 0 0 db
          (fieldCalls.step (.handover env args) db)) := by
  have hmoved : ∀ cash, tally (CashOrder.cashOf driverId)
      ((confirmHandoverSeeing env args db.custody).outcome db.custody).2.orders.rows =
        fieldCash driverId db + cash →
      FieldMoved driverId cash 0 0 db (fieldCalls.step (.handover env args) db) :=
    fun cash hcash => ⟨hcash, (add_zero _).symm, (add_zero _).symm, rfl⟩
  rcases handover_cases env args db.custody with ⟨hnot, hsame⟩ | ⟨hhands, shiftId, bag, hdone⟩
  · refine .inl ⟨fun hall => hnot hall.1, hmoved 0 ?_⟩
    rw [hsame, add_zero]
    rfl
  · have hleft := hdone.cash_left driverId
    by_cases hdriver : args.dto.driverId = driverId
    · rw [if_pos hdriver] at hleft
      exact .inr ⟨hhands, hdriver, hmoved _ (by omega)⟩
    · rw [if_neg hdriver] at hleft
      exact .inl ⟨fun hall => hdriver hall.2, hmoved 0 (hleft.trans (add_zero _).symm)⟩

theorem handover_prices (env : CustodyEnv) (args : HandoverArgs) (hprices : PricesNonneg db) :
    PricesNonneg (fieldCalls.step (.handover env args) db) := by
  change ∀ order ∈ ((confirmHandoverSeeing env args db.custody).outcome db.custody).2.orders.rows,
    0 ≤ order.totalPrice
  rcases handover_cases env args db.custody with ⟨_, hsame⟩ | ⟨_, shiftId, bag, hdone⟩
  · rw [hsame]
    exact hprices
  · rw [hdone.orders]
    intro later hlater
    obtain ⟨row, hrow, rfl⟩ := Table.mem_updateWhere.1 hlater
    split
    · exact hprices row hrow
    · exact hprices row hrow

/-! ## Submissions -/

theorem commits_normalizeReceipt_iff {role : SafariRole} {given result : Option String}
    {seen seen' : ExpensesDb} :
    (normalizeReceiptForCreate role given).Commits seen result seen' ↔
      ReceiptAccepted role given ∧ result = trimmed given ∧ seen = seen' := by
  unfold normalizeReceiptForCreate ReceiptAccepted
  cases hgiven : trimmed given with
  | none =>
      simp only [commits_bind, commits_require, commits_pure]
      constructor
      · rintro ⟨_, _, ⟨hrole, rfl⟩, rfl, rfl⟩
        exact ⟨hrole, rfl, rfl⟩
      · rintro ⟨hrole, rfl, rfl⟩
        exact ⟨(), seen, ⟨hrole, rfl⟩, rfl, rfl⟩
  | some receipt =>
      simp only [commits_bind, commits_require, commits_pure]
      constructor
      · rintro ⟨_, _, ⟨hlength, rfl⟩, _, _, ⟨hformat, rfl⟩, rfl, rfl⟩
        exact ⟨⟨hlength, hformat⟩, rfl, rfl⟩
      · rintro ⟨⟨hlength, hformat⟩, rfl, rfl⟩
        exact ⟨(), seen, ⟨hlength, rfl⟩, (), seen, ⟨hformat, rfl⟩, rfl, rfl⟩

variable {keys : FreshKeys Uuid} {args : CreateExpenseArgs} {seen after : ExpensesDb}

theorem commits_createExpense_recorded {result : BranchExpense × ExpenseOwnerType}
    (hcommits : (createExpenseSeeing keys args seen).Commits seen result after) :
    args.Recorded seen ∧ ∃ branchId id, after.expenses.rows = seen.expenses.rows ++
        [args.row (trimmed args.dto.receiptUrl) branchId id] := by
  unfold createExpenseSeeing at hcommits
  rw [commits_bind] at hcommits
  obtain ⟨_, _, hrequired, hcommits⟩ := hcommits
  obtain ⟨hrole, rfl⟩ := commits_require.1 hrequired
  rw [commits_bind] at hcommits
  obtain ⟨_, _, hallowed, hcommits⟩ := hcommits
  obtain ⟨hcategory, rfl⟩ := commits_require.1 hallowed
  rw [commits_bind] at hcommits
  obtain ⟨receiptUrl, _, hnormalized, hcommits⟩ := hcommits
  obtain ⟨hreceipt, rfl, rfl⟩ := commits_normalizeReceipt_iff.1 hnormalized
  simp only [commits_atomically, commits_bind, commits_require, commits_reads, commits_modify,
    commits_pure] at hcommits
  obtain ⟨_, _, ⟨hcash, rfl⟩, branchId, _, ⟨hbranch, rfl⟩, _, _, ⟨howner, rfl⟩, hwrite⟩ :=
    hcommits
  obtain ⟨id, _, ⟨_, rfl⟩, _, _, rfl, _, _, rfl, _, rfl⟩ := hwrite
  subst hbranch
  exact ⟨⟨hrole, hcategory, hreceipt, hcash, howner⟩, _, _, rfl⟩

theorem CreateExpenseArgs.Recorded.commits (keys : FreshKeys Uuid)
    (hrecorded : args.Recorded seen) :
    ∃ result after, (createExpenseSeeing keys args seen).Commits seen result after := by
  have hreceipt : (normalizeReceiptForCreate args.safariRole args.dto.receiptUrl).Commits seen
      (trimmed args.dto.receiptUrl) seen :=
    commits_normalizeReceipt_iff.2 ⟨hrecorded.receipt, rfl, rfl⟩
  unfold createExpenseSeeing
  simp only [commits_bind, commits_atomically, commits_require, commits_reads, commits_modify,
    commits_pure]
  exact ⟨_, _, (), seen, ⟨hrecorded.role, rfl⟩, (), seen, ⟨hrecorded.category, rfl⟩,
    _, seen, hreceipt, (), seen, ⟨hrecorded.cash, rfl⟩, _, seen, ⟨rfl, rfl⟩,
    (), seen, ⟨hrecorded.branch, rfl⟩, _, seen, ⟨rfl, rfl⟩, (), _, rfl, (), _, rfl, rfl, rfl⟩

def CreateExpenseArgs.takenOf (driverId : Uuid) (args : CreateExpenseArgs) : ℤ :=
  if args.userId = driverId ∧ args.method = .CASH then args.amountDec else 0

theorem submit_moves (keys : FreshKeys Uuid) (args : CreateExpenseArgs) (driverId : Uuid)
    (db : FieldDb) :
    (¬ args.Recorded db.toExpenses ∧
        FieldMoved driverId 0 0 0 db (fieldCalls.step (.submit keys args) db)) ∨
      (args.Recorded db.toExpenses ∧ FieldMoved driverId 0 (args.takenOf driverId) 0 db
          (fieldCalls.step (.submit keys args) db)) := by
  cases hresult : (createExpenseSeeing keys args db.toExpenses).outcome db.toExpenses with
  | mk result after =>
      have hstep : fieldCalls.step (.submit keys args) db = db.withExpenses after := by
        change db.withExpenses
          ((createExpenseSeeing keys args db.toExpenses).outcome db.toExpenses).2 = _
        rw [hresult]
      rw [hstep]
      cases result with
      | error err =>
          have hsame : after = db.toExpenses := throws_createExpense hresult
          refine .inl ⟨fun hrecorded => ?_, ?_⟩
          · obtain ⟨_, _, hcommits⟩ := hrecorded.commits keys
            cases hcommits.symm.trans hresult
          · rw [hsame]
            exact .refl driverId db
      | ok result =>
          obtain ⟨hrecorded, branchId, id, hrows⟩ := commits_createExpense_recorded hresult
          refine .inr ⟨hrecorded, (add_zero _).symm, ?_, ?_, rfl⟩
          · have htaken : (args.row (trimmed args.dto.receiptUrl) branchId id).acceptedIn driverId
                .PENDING_ACCOUNTANT = args.takenOf driverId := by
              unfold BranchExpense.acceptedIn CreateExpenseArgs.takenOf
              simp [CreateExpenseArgs.row]
            change tally _ after.expenses.rows = _
            rw [hrows, tally_append, tally_cons, tally_nil, add_zero]
            exact congrArg (acceptedCash driverId db + ·) htaken
          · change tally _ after.expenses.rows = _
            rw [hrows, tally_append, tally_cons, tally_nil, add_zero]
            have hnone : (args.row (trimmed args.dto.receiptUrl) branchId id).spentIn driverId
                .PENDING_ACCOUNTANT = 0 := by
              unfold BranchExpense.spentIn
              simp
            exact congrArg (spentTotal driverId db + ·) hnone

variable {args : UpdateExpenseArgs}

theorem review_moves (args : UpdateExpenseArgs) (driverId : Uuid) (db : FieldDb) :
    (¬ ((args.safariRole = .ACCOUNTANT ∨ args.safariRole = .OWNER) ∧
          ∃ expense, db.expenses.find? args.id = some expense) ∧
        FieldMoved driverId 0 0 0 db (fieldCalls.step (.review args) db)) ∨
      ((args.safariRole = .ACCOUNTANT ∨ args.safariRole = .OWNER) ∧
        ∃ expense, db.expenses.find? args.id = some expense ∧ FieldMoved driverId 0
            (expense.acceptedIn driverId args.status - expense.acceptedIn driverId expense.status)
            (expense.spentIn driverId args.status - expense.spentIn driverId expense.status) db
            (fieldCalls.step (.review args) db)) := by
  cases hresult : (updateExpenseStatusSeeing args db.toExpenses).outcome db.toExpenses with
  | mk result after =>
      have hstep : fieldCalls.step (.review args) db = db.withExpenses after := by
        change db.withExpenses
          ((updateExpenseStatusSeeing args db.toExpenses).outcome db.toExpenses).2 = _
        rw [hresult]
      rw [hstep]
      cases result with
      | error err =>
          have hsame : after = db.toExpenses := throws_updateExpenseStatus hresult
          refine .inl ⟨?_, ?_⟩
          · rintro ⟨hrole, expense, hfound⟩
            have hexists : ∃ result after, (updateExpenseStatusSeeing args
                db.toExpenses).Commits db.toExpenses result after :=
              exists_commits_updateExpenseStatus hrole hfound hfound
            obtain ⟨_, _, hcommits⟩ := hexists
            cases hcommits.symm.trans hresult
          · rw [hsame]
            exact .refl driverId db
      | ok updated =>
          obtain ⟨_, expense, hreviewed⟩ := commits_updateExpenseStatus hresult
          have hfound : db.expenses.find? args.id = some expense := hreviewed.found
          have haccepted := tally_update
            (fun row => BranchExpense.acceptedIn driverId row row.status)
            (BranchExpense.withStatus_id args.status) hfound
          have hspent := tally_update (fun row => BranchExpense.spentIn driverId row row.status)
            (BranchExpense.withStatus_id args.status) hfound
          refine .inr ⟨hreviewed.role, expense, hfound, (add_zero _).symm, ?_, ?_, rfl⟩
          · change tally _ after.expenses.rows = _
            rw [hreviewed.expenses]
            change _ = acceptedCash driverId db + expense.acceptedIn driverId args.status at haccepted
            change tally _ (db.expenses.update _ _ _).rows = _
            omega
          · change tally _ after.expenses.rows = _
            rw [hreviewed.expenses]
            change _ = spentTotal driverId db + expense.spentIn driverId args.status at hspent
            change tally _ (db.expenses.update _ _ _).rows = _
            omega

/-! ## Runs -/

theorem FieldCall.step_prices (call : FieldCall) (hprices : PricesNonneg db) :
    PricesNonneg (fieldCalls.step call db) := by
  cases call with
  | collect env args => exact FieldDb.collect_prices env args hprices
  | handover env args => exact handover_prices env args hprices
  | submit keys args => exact hprices
  | review args => exact hprices

theorem FieldCall.within_step_iff (call : FieldCall) (hprices : PricesNonneg db)
    (hwithin : WithinFieldCash driverId db) :
    WithinFieldCash driverId (fieldCalls.step call db) ↔ call.Covered driverId db := by
  obtain ⟨haccepted, hspendable⟩ := hwithin
  cases call with
  | collect env args =>
      obtain ⟨cash, hcash, hmoved⟩ := FieldDb.collect_moves env args driverId hprices
      refine iff_of_true (hmoved.within_iff.2 ⟨by omega, by omega⟩) trivial
  | handover env args =>
      rcases handover_moves env args driverId db with ⟨hnot, hmoved⟩ | ⟨hhands, hdriver, hmoved⟩
      · refine iff_of_true (hmoved.within_iff.2 ⟨by omega, by omega⟩) ?_
        intro hhands hdriver
        exact absurd ⟨hhands, hdriver⟩ hnot
      · have hleft := driverSpendableCash_eq driverId db
        rw [hmoved.within_iff]
        constructor
        · rintro ⟨hnone, hrest⟩ _ _
          exact ⟨by omega, by omega⟩
        · intro hcovered
          obtain ⟨hnone, hrest⟩ := hcovered hhands hdriver
          exact ⟨by omega, by omega⟩
  | submit keys args =>
      rcases submit_moves keys args driverId db with ⟨hnot, hmoved⟩ | ⟨hrecorded, hmoved⟩
      · exact iff_of_true (hmoved.within_iff.2 ⟨by omega, by omega⟩)
          fun hrecorded => absurd hrecorded hnot
      · rw [hmoved.within_iff]
        by_cases hcash : args.userId = driverId ∧ args.method = .CASH
        · have htaken : args.takenOf driverId = args.amountDec := if_pos hcash
          constructor
          · rintro ⟨hfits, _⟩ _ _ _
            omega
          · intro hcovered
            have hfits := hcovered hrecorded hcash.1 hcash.2
            exact ⟨by omega, by omega⟩
        · have htaken : args.takenOf driverId = 0 := if_neg hcash
          refine iff_of_true ⟨by omega, by omega⟩ ?_
          intro _ huser hmethod
          exact absurd ⟨huser, hmethod⟩ hcash
  | review args =>
      rcases review_moves args driverId db with ⟨hnot, hmoved⟩ | ⟨hrole, expense, hfound, hmoved⟩
      · refine iff_of_true (hmoved.within_iff.2 ⟨by omega, by omega⟩) ?_
        intro hrole expense hfound
        exact absurd ⟨hrole, expense, hfound⟩ hnot
      · rw [hmoved.within_iff]
        constructor
        · rintro ⟨hfits, hspent⟩ _ other hother
          obtain rfl := Option.some.inj (hfound.symm.trans hother)
          exact ⟨by omega, by omega⟩
        · intro hcovered
          obtain ⟨hfits, hspent⟩ := hcovered hrole expense hfound
          exact ⟨by omega, by omega⟩

/-- In every run of collections, handovers, submissions and reviews from a state that is
within the field cash, it stays so exactly if every call covers what it takes. -/
theorem fieldCash_suffices_iff {start : FieldDb} {calls : List FieldCall} {trace : List FieldDb}
    (hprices : PricesNonneg start) (hstart : WithinFieldCash driverId start)
    (hlog : fieldCalls.Log (fun _ _ => True) start calls trace) :
    (∀ db ∈ trace, WithinFieldCash driverId db) ↔
      ∀ found ∈ Calls.occurrences calls trace, found.1.Covered driverId found.2 := by
  apply hlog.holds_iff (J := fun db => WithinFieldCash driverId db ∧ PricesNonneg db)
    ⟨hstart, hprices⟩
  · exact fun db hgood => hgood.1
  · rintro call db ⟨hwithin, hprices⟩ _ hstep
    exact (call.within_step_iff hprices hwithin).1 hstep
  · rintro call db ⟨hwithin, hprices⟩ _ hcovered
    exact ⟨(call.within_step_iff hprices hwithin).2 hcovered, call.step_prices hprices⟩

namespace Sample

/-- A driver with the cash of two orders, four dinars. -/
def fieldFloor : FieldDb where
  custody := cashFloor
  deposits := .empty
  expenses := .empty
  entries := []

def fieldExpense (amount : ℚ) : FieldCall :=
  .submit .text ⟨"driver", .DRIVER,
    ⟨"fuel", amount, .FUEL, none, none, some "data:image/png;base64,AAAA"⟩⟩

theorem fieldFloor_prices : PricesNonneg fieldFloor := by
  unfold PricesNonneg
  decide +kernel

theorem fieldFloor_within : WithinFieldCash "driver" fieldFloor :=
  ⟨by decide +kernel, by decide +kernel⟩

theorem fieldExpense_log (amount : ℚ) :
    fieldCalls.Log (fun _ _ => True) fieldFloor [fieldExpense amount]
      [fieldCalls.step (fieldExpense amount) fieldFloor, fieldFloor] := by
  apply Calls.Log.call (fieldExpense amount) .start
  · rintro _ ⟨⟩
  · trivial

end Sample

theorem fieldCash_suffices_iff_sample :
    WithinFieldCash "driver" (fieldCalls.step (Sample.fieldExpense 4) Sample.fieldFloor) := by
  refine (fieldCash_suffices_iff Sample.fieldFloor_prices Sample.fieldFloor_within
    (Sample.fieldExpense_log 4)).2 ?_ _ (List.mem_cons_self ..)
  intro found hfound
  obtain rfl := List.mem_singleton.1 hfound
  intro _ _ _
  decide +kernel

theorem fieldCash_suffices_fails :
    ¬ ∀ (driverId : Uuid) (start : FieldDb) (calls : List FieldCall) (trace : List FieldDb),
      PricesNonneg start → WithinFieldCash driverId start →
      fieldCalls.Log (fun _ _ => True) start calls trace →
      ∀ db ∈ trace, WithinFieldCash driverId db := by
  intro hall
  have hlog : fieldCalls.Log (fun _ _ => True) Sample.fieldFloor
      [Sample.fieldExpense 4, Sample.fieldExpense 4]
      [fieldCalls.step (Sample.fieldExpense 4)
          (fieldCalls.step (Sample.fieldExpense 4) Sample.fieldFloor),
        fieldCalls.step (Sample.fieldExpense 4) Sample.fieldFloor, Sample.fieldFloor] := by
    apply Calls.Log.call (Sample.fieldExpense 4) (Sample.fieldExpense_log 4)
    · rintro _ ⟨⟩
    · trivial
  have hwithin := hall _ _ _ _ Sample.fieldFloor_prices Sample.fieldFloor_within hlog _
    (List.mem_cons_self ..)
  have haccepted := hwithin.accepted
  revert haccepted
  decide +kernel

end SafariLaundry
