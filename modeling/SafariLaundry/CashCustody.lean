import SafariLaundry.Library.Decimal
import SafariLaundry.Library.History
import SafariLaundry.Library.Selection
import SafariLaundry.Domain

/-!
# Cash from the drivers to the managers

A handover selects a driver's cash orders, claims them by a conditional update and
opens a custody bag with what the selection came to.  The selection may be older than
the update; the count of the update must be that of the selection.
-/

namespace SafariLaundry

open Library Library.Bookkeeping Library.Transaction List

inductive ShiftStatus
  | OPEN | CLOSED
  deriving DecidableEq

structure Shift where
  (id driverId : Uuid)
  status : ShiftStatus
  startedAt : Timestamp
  bankDepositReceiptUrl : Option String

structure CashOrder extends Order where
  handoverShiftId : Option Uuid

def CashOrder.key (order : CashOrder) : Uuid := order.id

inductive ManagerCashCustodyStatus
  | PENDING_DEPOSIT | AWAITING_VERIFICATION | VERIFIED | REJECTED
  deriving DecidableEq

structure ManagerCashCustody where
  (id managerId driverId : Uuid)
  (branchId shiftId : Option Uuid)
  amountKd : ℤ
  settledOrderCount : ℕ
  status : ManagerCashCustodyStatus
  receivedFromDriverAt : Timestamp
  slipUploadedAt : Option Timestamp
  depositSlipUrl : Option String
  verifiedByAccountantId : Option Uuid
  verifiedAt : Option Timestamp
  rejectedByAccountantId : Option Uuid
  rejectedAt : Option Timestamp
  (rejectionReason note : Option String)
  deriving DecidableEq

inductive BankDepositStatus
  | PENDING | VERIFIED
  deriving DecidableEq

structure BankDepositLog where
  id : Uuid
  status : BankDepositStatus
  amountKd : ℤ
  receiptImageUrl : String
  (shiftId managerCashCustodyId : Option Uuid)
  uploadedById : Uuid
  verifiedByAccountantId : Option Uuid
  verifiedAt : Option Timestamp
  createdAt : Timestamp
  deriving DecidableEq

/-- A `WALLET_SETTLEMENT` row of the general ledger with the bag in its metadata. -/
structure CustodySettlement where
  custodyId : Uuid
  amount : ℤ
  actorUserId : Uuid

structure CustodyDb where
  users : List User
  shifts : Table Shift.id
  orders : Table CashOrder.key
  bags : Table ManagerCashCustody.id
  deposits : Table BankDepositLog.id
  settlements : List CustodySettlement
  /-- Not a table: which order's cash went into which bag. -/
  claims : List (Uuid × Uuid)

structure CustodyEnv where
  now : Timestamp
  (newCustodyId newDepositId : ℕ → Uuid)

abbrev CustodyTx (α : Type) := Library.Transaction ServiceError CustodyDb α

def handoverToleranceMinor : ℤ := 1

def declaredToMinor (declared : ℚ) : ℤ := Decimal.roundHalfAway (declared * 10000)

def assertDeclaredMatchesLedgerMinor (ledgerMinor : ℤ) : Option ℚ → CustodyTx Unit
  | none => pure ()
  | some declared => do
      require (0 < declared) (.badRequest "declaredHandoverTotal must be a finite positive number")
      require (|ledgerMinor - declaredToMinor declared| ≤ handoverToleranceMinor)
        (.badRequest
          ("Declared total " ++ minorToAmountString (declaredToMinor declared) ++
            " does not match ledger " ++ minorToAmountString ledgerMinor ++
            " (tolerance ±" ++ minorToAmountString handoverToleranceMinor ++ " KWD)"))

/-! ## Handover -/

structure ConfirmHandoverDto where
  driverId : Uuid
  depositReceiptUrl : Option String
  declaredHandoverTotal : Option ℚ

structure HandoverArgs where
  managerId : Uuid
  actorRole : SafariRole
  dto : ConfirmHandoverDto

structure HandoverResult where
  settledOrderCount : ℕ
  systemHandoverTotal : ℤ
  shiftId : Option Uuid
  bankDepositReceiptUrl : Option String

namespace CashOrder

def WithDriver (order : CashOrder) : Prop :=
  order.status = .COMPLETED ∧ order.cashStatus = .PAID_TO_DRIVER ∧ order.posPaymentMethod = .CASH
  deriving Decidable

def PendingWith (driverId : Uuid) (order : CashOrder) : Prop :=
  order.driverId = some driverId ∧ order.WithDriver
  deriving Decidable

/-- What the conditional update asks of an order, besides its id. -/
def Claimable (order : CashOrder) : Prop :=
  order.cashStatus = .PAID_TO_DRIVER ∧ order.posPaymentMethod = .CASH
  deriving Decidable

def handedOver (shiftId : Option Uuid) (order : CashOrder) : CashOrder :=
  { order with cashStatus := .HANDED_OVER_TO_OFFICE, handoverShiftId := shiftId }

theorem handedOver_key (shiftId : Option Uuid) (order : CashOrder) :
    (order.handedOver shiftId).key = order.key := rfl

end CashOrder

def findCustodyUser (id : Uuid) (db : CustodyDb) : Option User :=
  db.users.find? fun user => user.id = id

def pendingHandover (driverId : Uuid) (db : CustodyDb) : List CashOrder :=
  db.orders.rows.filter fun order => order.PendingWith driverId

def openShift (driverId : Uuid) (db : CustodyDb) : Option Shift :=
  ((db.shifts.rows.filter fun shift =>
      shift.driverId = driverId ∧ shift.status = .OPEN).insertionSort
    fun first second => second.startedAt ≤ first.startedAt).head?

def claimedRows (orderIds : List Uuid) (db : CustodyDb) : List CashOrder :=
  db.orders.rows.filter fun order => order.key ∈ orderIds ∧ order.Claimable

def claimOrders (orderIds : List Uuid) (shiftId : Option Uuid) (custodyId : Uuid) :
    CustodyTx ℕ := do
  let count ← reads fun db => (claimedRows orderIds db).length
  modify fun db => { db with
    orders := db.orders.updateWhere (fun order => order.key ∈ orderIds ∧ order.Claimable)
      (CashOrder.handedOver shiftId) (CashOrder.handedOver_key shiftId)
    claims := db.claims ++ (claimedRows orderIds db).map fun order => (order.key, custodyId) }
  return count

def HandoverArgs.bag (args : HandoverArgs) (env : CustodyEnv) (custodyId : Uuid)
    (branchId shiftId : Option Uuid) (pending : List CashOrder) : ManagerCashCustody where
  id := custodyId
  managerId := args.managerId
  driverId := args.dto.driverId
  branchId := branchId
  shiftId := shiftId
  amountKd := tally (fun order => order.totalPrice) pending
  settledOrderCount := pending.length
  status :=
    if args.dto.depositReceiptUrl.getD "" ≠ "" then .AWAITING_VERIFICATION
    else .PENDING_DEPOSIT
  receivedFromDriverAt := env.now
  slipUploadedAt := if args.dto.depositReceiptUrl.getD "" ≠ "" then some env.now else none
  depositSlipUrl := args.dto.depositReceiptUrl
  verifiedByAccountantId := none
  verifiedAt := none
  rejectedByAccountantId := none
  rejectedAt := none
  rejectionReason := none
  note := none

def createBag (bag : ManagerCashCustody) : CustodyTx Unit := do
  let bags ← fetch (fun db => db.bags.insert bag)
    (.database "Unique constraint failed on the fields: (id)")
  modify fun db => { db with bags := bags }

def confirmHandoverSeeing (env : CustodyEnv) (args : HandoverArgs) (seen : CustodyDb) :
    CustodyTx HandoverResult :=
  atomically (fun before _ => before) do
    require (args.actorRole ≠ .GENERAL_MANAGER) (.forbidden "Read-only role")
    let driver ← fetch (findCustodyUser args.dto.driverId) (.notFound "Driver not found")
    require (driver.safariRole = .DRIVER) (.notFound "Driver not found")
    let pending := pendingHandover args.dto.driverId seen
    assertDeclaredMatchesLedgerMinor (tally (fun order => order.totalPrice) pending)
      args.dto.declaredHandoverTotal
    let shift ← reads (openShift args.dto.driverId)
    let shiftId := shift.map Shift.id
    if pending = [] then
      return ⟨0, 0, shiftId, args.dto.depositReceiptUrl⟩
    else do
      let custodyId ← reads fun db => env.newCustodyId db.bags.rows.length
      let count ← claimOrders (pending.map CashOrder.key) shiftId custodyId
      require (count = pending.length) (.conflict
        "Concurrent handover detected; not all orders could be settled. Retry.")
      let manager ← fetch (findCustodyUser args.managerId)
        (.database "Foreign key constraint violated: managerId")
      createBag (args.bag env custodyId (manager.branchId.orElse fun _ => driver.branchId)
        shiftId pending)
      return ⟨pending.length, tally (fun order => order.totalPrice) pending, shiftId,
        args.dto.depositReceiptUrl⟩

structure HandoverCall where
  env : CustodyEnv
  args : HandoverArgs
  seen : CustodyDb

def handovers : Calls CustodyDb HandoverCall where
  step := fun call db => ((confirmHandoverSeeing call.env call.args call.seen).outcome db).2
  seen := fun call => [call.seen]

def CashOrder.fixed (order : CashOrder) : CashOrder :=
  { order with cashStatus := .UNPAID, handoverShiftId := none }

theorem CashOrder.fixed_key (order : CashOrder) : order.fixed.key = order.key := rfl

theorem CashOrder.fixed_handedOver (shiftId : Option Uuid) (order : CashOrder) :
    (order.handedOver shiftId).fixed = order.fixed := rfl

/-- The orders of both states differ by handovers only. -/
def SameOrders (before after : CustodyDb) : Prop :=
  after.orders.rows.map CashOrder.fixed = before.orders.rows.map CashOrder.fixed

def priceOf (order : CashOrder) : ℤ := order.totalPrice

theorem tally_price_of_fixed {first second : List CashOrder}
    (hfixed : first.map CashOrder.fixed = second.map CashOrder.fixed) :
    tally priceOf first = tally priceOf second := by
  have hprice : ∀ rows : List CashOrder,
      tally priceOf rows = tally priceOf (rows.map CashOrder.fixed) := by
    intro rows
    rw [tally_map]
    rfl
  rw [hprice, hfixed, ← hprice]

def cashWithDrivers (db : CustodyDb) : ℤ :=
  tally priceOf (db.orders.rows.filter fun order => order.WithDriver)

def bagsTotal (db : CustodyDb) : ℤ :=
  tally ManagerCashCustody.amountKd db.bags.rows

def claimedTotal (custodyId : Uuid) (db : CustodyDb) : ℤ :=
  tally priceOf (db.orders.rows.filter fun order => (order.key, custodyId) ∈ db.claims)

structure CustodyAccounts (start db : CustodyDb) : Prop where
  orders : SameOrders start db
  claimsOnce : (db.claims.map Prod.fst).Nodup
  claimsHanded : ∀ claim ∈ db.claims, ∃ order ∈ db.orders.rows, order.key = claim.1 ∧
    order.cashStatus = .HANDED_OVER_TO_OFFICE
  claimsBagged : ∀ claim ∈ db.claims, ∃ bag ∈ db.bags.rows, bag.id = claim.2
  bags : ∀ bag ∈ db.bags.rows, bag ∈ start.bags.rows ∨ bag.amountKd = claimedTotal bag.id db
  cash : cashWithDrivers db + bagsTotal db = cashWithDrivers start + bagsTotal start

/-! ## One handover -/

structure HandoverArgs.HandsOver (env : CustodyEnv) (args : HandoverArgs) (seen db : CustodyDb) :
    Prop where
  role : args.actorRole ≠ .GENERAL_MANAGER
  driver : ∃ driver, findCustodyUser args.dto.driverId db = some driver ∧
    driver.safariRole = .DRIVER
  declared : ∀ declared, args.dto.declaredHandoverTotal = some declared → 0 < declared ∧
    |tally (fun order => order.totalPrice) (pendingHandover args.dto.driverId seen) -
      declaredToMinor declared| ≤ handoverToleranceMinor
  pending : pendingHandover args.dto.driverId seen ≠ []
  count : (claimedRows ((pendingHandover args.dto.driverId seen).map CashOrder.key) db).length =
    (pendingHandover args.dto.driverId seen).length
  manager : ∃ manager, findCustodyUser args.managerId db = some manager
  bagId : db.bags.find? (env.newCustodyId db.bags.rows.length) = none

structure HandoverDone (args : HandoverArgs) (seen db db' : CustodyDb) (shiftId : Option Uuid)
    (bag : ManagerCashCustody) : Prop where
  count : (claimedRows ((pendingHandover args.dto.driverId seen).map CashOrder.key) db).length =
    (pendingHandover args.dto.driverId seen).length
  amount : bag.amountKd = tally priceOf (pendingHandover args.dto.driverId seen)
  bags : db.bags.insert bag = some db'.bags
  orders : db'.orders = db.orders.updateWhere
    (fun order => order.key ∈ (pendingHandover args.dto.driverId seen).map CashOrder.key ∧
      order.Claimable)
    (CashOrder.handedOver shiftId) (CashOrder.handedOver_key shiftId)
  claims : db'.claims = db.claims ++
    (claimedRows ((pendingHandover args.dto.driverId seen).map CashOrder.key) db).map
      fun order => (order.key, bag.id)

theorem commits_assertDeclared {minor : ℤ} {declared : Option ℚ} {db db' : CustodyDb} :
    (assertDeclaredMatchesLedgerMinor minor declared).Commits db () db' ↔
      (∀ given, declared = some given →
        0 < given ∧ |minor - declaredToMinor given| ≤ handoverToleranceMinor) ∧ db = db' := by
  cases declared with
  | none =>
      constructor
      · intro hcommits
        refine ⟨?_, (commits_pure.1 hcommits).2⟩
        intro given hgiven
        cases hgiven
      · rintro ⟨_, rfl⟩
        exact commits_pure.2 ⟨rfl, rfl⟩
  | some given =>
      simp only [assertDeclaredMatchesLedgerMinor, commits_bind, commits_require]
      constructor
      · rintro ⟨_, _, ⟨hpositive, rfl⟩, hclose, rfl⟩
        refine ⟨fun other hother => ?_, rfl⟩
        cases hother
        exact ⟨hpositive, hclose⟩
      · rintro ⟨hdeclared, rfl⟩
        exact ⟨(), db, ⟨(hdeclared given rfl).1, rfl⟩, (hdeclared given rfl).2, rfl⟩

theorem commits_confirmHandover {env : CustodyEnv} {args : HandoverArgs}
    {seen db db' : CustodyDb} {result : HandoverResult}
    (hcommits : (confirmHandoverSeeing env args seen).Commits db result db') :
    (pendingHandover args.dto.driverId seen = [] ∧ db' = db) ∨
      args.HandsOver env seen db ∧ ∃ shiftId bag, HandoverDone args seen db db' shiftId bag := by
  unfold confirmHandoverSeeing at hcommits
  rw [commits_atomically, commits_bind] at hcommits
  obtain ⟨_, _, hrole, hcommits⟩ := hcommits
  obtain ⟨hpermitted, rfl⟩ := commits_require.1 hrole
  rw [commits_bind] at hcommits
  obtain ⟨driver, _, hdriver, hcommits⟩ := hcommits
  obtain ⟨hfound, rfl⟩ := commits_fetch.1 hdriver
  rw [commits_bind] at hcommits
  obtain ⟨_, _, hisDriver, hcommits⟩ := hcommits
  obtain ⟨hdrives, rfl⟩ := commits_require.1 hisDriver
  rw [commits_bind] at hcommits
  obtain ⟨⟨⟩, _, hdeclared, hcommits⟩ := hcommits
  obtain ⟨hclose, rfl⟩ := commits_assertDeclared.1 hdeclared
  rw [commits_bind] at hcommits
  obtain ⟨shift, _, hshift, hcommits⟩ := hcommits
  obtain ⟨_, rfl⟩ := commits_reads.1 hshift
  dsimp only at hcommits
  by_cases hnone : pendingHandover args.dto.driverId seen = []
  · rw [if_pos hnone, commits_pure] at hcommits
    exact .inl ⟨hnone, hcommits.2.symm⟩
  · rw [if_neg hnone] at hcommits
    simp only [commits_bind, commits_reads, claimOrders, commits_modify, commits_pure,
      commits_require, commits_fetch, createBag] at hcommits
    obtain ⟨custodyId, _, ⟨hcustodyId, rfl⟩, count, _, hclaim, _, _, ⟨hcount, rfl⟩, hrest⟩ :=
      hcommits
    obtain ⟨_, _, ⟨rfl, rfl⟩, _, _, rfl, rfl, rfl⟩ := hclaim
    obtain ⟨manager, _, ⟨hmanager, rfl⟩, _, _, ⟨bags, _, ⟨hinsert, rfl⟩, rfl⟩, _, rfl⟩ := hrest
    have hfree := Table.find?_of_insert hinsert
    refine .inr ⟨⟨hpermitted, ⟨driver, hfound, hdrives⟩, hclose, hnone, hcount,
      ⟨manager, hmanager⟩, ?_⟩, shift.map Shift.id, _, hcount, rfl, hinsert, rfl, rfl⟩
    rw [hcustodyId]
    exact hfree

theorem HandoverArgs.HandsOver.commits {env : CustodyEnv} {args : HandoverArgs}
    {seen db : CustodyDb} (hhands : args.HandsOver env seen db) :
    ∃ result db', (confirmHandoverSeeing env args seen).Commits db result db' := by
  obtain ⟨driver, hdriver, hisDriver⟩ := hhands.driver
  obtain ⟨manager, hmanager⟩ := hhands.manager
  have hfree : db.bags.find? (args.bag env (env.newCustodyId db.bags.rows.length)
      (manager.branchId.orElse fun _ => driver.branchId)
      ((openShift args.dto.driverId db).map Shift.id)
      (pendingHandover args.dto.driverId seen)).id = none := hhands.bagId
  obtain ⟨bags, hinsert⟩ := Table.exists_insert hfree
  unfold confirmHandoverSeeing
  simp only [commits_atomically]
  refine exists_commits_bind (a := ()) (commits_require.2 ⟨hhands.role, rfl⟩) ?_
  refine exists_commits_bind (commits_fetch.2 ⟨hdriver, rfl⟩) ?_
  refine exists_commits_bind (a := ()) (commits_require.2 ⟨hisDriver, rfl⟩) ?_
  refine exists_commits_bind (commits_assertDeclared.2 ⟨hhands.declared, rfl⟩) ?_
  refine exists_commits_bind (commits_reads.2 ⟨rfl, rfl⟩) ?_
  rw [if_neg hhands.pending]
  refine exists_commits_bind (commits_reads.2 ⟨rfl, rfl⟩) ?_
  unfold claimOrders
  refine exists_commits_bind (commits_bind.2 ⟨_, db, commits_reads.2 ⟨rfl, rfl⟩,
    commits_bind.2 ⟨⟨⟩, _, commits_modify.2 rfl, commits_pure.2 ⟨rfl, rfl⟩⟩⟩) ?_
  refine exists_commits_bind (a := ()) (commits_require.2 ⟨hhands.count, rfl⟩) ?_
  refine exists_commits_bind (commits_fetch.2 ⟨hmanager, rfl⟩) ?_
  unfold createBag
  refine exists_commits_bind (a := ()) (commits_bind.2 ⟨bags, _,
    commits_fetch.2 ⟨hinsert, rfl⟩, commits_modify.2 rfl⟩) ?_
  exact ⟨_, _, commits_pure.2 ⟨rfl, rfl⟩⟩

theorem mem_claimedRows {orderIds : List Uuid} {db : CustodyDb} {order : CashOrder} :
    order ∈ claimedRows orderIds db ↔
      order ∈ db.orders.rows ∧ order.key ∈ orderIds ∧ order.Claimable := by
  unfold claimedRows
  rw [mem_filter, decide_eq_true_iff]

theorem claimedTotal_of_sameOrders {custodyId : Uuid} {db db' : CustodyDb}
    (horders : SameOrders db db')
    (hclaims : ∀ orderId, (orderId, custodyId) ∈ db'.claims ↔ (orderId, custodyId) ∈ db.claims) :
    claimedTotal custodyId db' = claimedTotal custodyId db := by
  apply tally_price_of_fixed
  rw [Table.view_filter_of_key CashOrder.fixed CashOrder.fixed_key horders
    fun orderId => (orderId, custodyId) ∈ db'.claims]
  congr 1
  apply filter_congr
  intro order _
  exact decide_eq_decide.2 (hclaims order.key)

namespace HandoverDone

variable {args : HandoverArgs} {seen db db' : CustodyDb} {shiftId : Option Uuid}
  {bag : ManagerCashCustody}

theorem sameOrders (hdone : HandoverDone args seen db db' shiftId bag) : SameOrders db db' := by
  unfold SameOrders
  rw [hdone.orders]
  exact Table.view_updateWhere _ _ (CashOrder.fixed_handedOver shiftId)

theorem claimed_fixed (hdone : HandoverDone args seen db db' shiftId bag)
    (hseen : SameOrders seen db) :
    (claimedRows ((pendingHandover args.dto.driverId seen).map CashOrder.key) db).map
        CashOrder.fixed =
      (pendingHandover args.dto.driverId seen).map CashOrder.fixed :=
  Table.view_eq_of_selected CashOrder.fixed CashOrder.fixed_key hseen hdone.count

theorem amount_eq (hdone : HandoverDone args seen db db' shiftId bag) (hseen : SameOrders seen db) :
    bag.amountKd =
      tally priceOf (claimedRows ((pendingHandover args.dto.driverId seen).map CashOrder.key)
        db) := by
  rw [hdone.amount]
  exact (tally_price_of_fixed (hdone.claimed_fixed hseen)).symm

theorem completed_of_claimed (hdone : HandoverDone args seen db db' shiftId bag)
    (hseen : SameOrders seen db) {order : CashOrder}
    (hmem : order ∈ claimedRows ((pendingHandover args.dto.driverId seen).map CashOrder.key)
      db) :
    order.WithDriver := by
  have hfixed := mem_map_of_mem (f := CashOrder.fixed) hmem
  rw [hdone.claimed_fixed hseen] at hfixed
  obtain ⟨selected, hselected, hsame⟩ := mem_map.1 hfixed
  have hpending := of_decide_eq_true (mem_filter.1 hselected).2
  have hstatus : order.fixed.status = selected.fixed.status :=
    congrArg (fun row : CashOrder => row.status) hsame.symm
  have hcompleted : order.status = .COMPLETED := hstatus.trans hpending.2.1
  refine ⟨hcompleted, ?_⟩
  exact (mem_claimedRows.1 hmem).2.2

theorem cash_eq (hdone : HandoverDone args seen db db' shiftId bag) (hseen : SameOrders seen db) :
    cashWithDrivers db' + bagsTotal db' = cashWithDrivers db + bagsTotal db := by
  have hbags : bagsTotal db' = bagsTotal db + bag.amountKd := by
    unfold bagsTotal
    rw [Table.rows_insert hdone.bags, tally_append, tally_cons, tally_nil, add_zero]
  have hlost : cashWithDrivers db' + tally priceOf
      (claimedRows ((pendingHandover args.dto.driverId seen).map CashOrder.key) db) =
        cashWithDrivers db := by
    unfold cashWithDrivers
    rw [tally_filter, tally_filter, hdone.orders, Table.rows_updateWhere]
    apply tally_updated
    intro order hmem hclaimed
    have hheld := hdone.completed_of_claimed hseen (mem_claimedRows.2 ⟨hmem, hclaimed⟩)
    have hgone : ¬ (order.handedOver shiftId).WithDriver := fun hwith => by cases hwith.2.1
    rw [if_neg hgone, if_pos hheld, zero_add]
  have hamount := hdone.amount_eq hseen
  omega

theorem claimedTotal_new (hdone : HandoverDone args seen db db' shiftId bag)
    (hnoClaim : ∀ orderId, (orderId, bag.id) ∉ db.claims) :
    claimedTotal bag.id db' =
      tally priceOf (claimedRows ((pendingHandover args.dto.driverId seen).map CashOrder.key)
        db) := by
  apply tally_price_of_fixed
  rw [Table.view_filter_of_key CashOrder.fixed CashOrder.fixed_key hdone.sameOrders
    fun orderId => (orderId, bag.id) ∈ db'.claims]
  congr 1
  apply Eq.trans _ (Table.filter_key_mem db.orders fun order =>
    order.key ∈ (pendingHandover args.dto.driverId seen).map CashOrder.key ∧ order.Claimable)
  apply filter_congr
  intro order _
  apply decide_eq_decide.2
  rw [hdone.claims, mem_append]
  constructor
  · rintro (hold | hnew)
    · exact absurd hold (hnoClaim order.key)
    · obtain ⟨claimed, hclaimed, hpair⟩ := mem_map.1 hnew
      rw [← (Prod.mk.inj hpair).1]
      exact mem_map_of_mem hclaimed
  · intro hclaimed
    obtain ⟨claimed, hmem, hkey⟩ := mem_map.1 hclaimed
    right
    rw [← hkey]
    exact mem_map.2 ⟨claimed, hmem, rfl⟩

end HandoverDone

section Accounts

variable {args : HandoverArgs} {start seen db db' : CustodyDb} {shiftId : Option Uuid}
  {bag : ManagerCashCustody} (hdone : HandoverDone args seen db db' shiftId bag)
  (haccounts : CustodyAccounts start db)

include hdone

theorem HandoverDone.bag_new : ∀ other ∈ db.bags.rows, other.id ≠ bag.id := by
  intro other hother hsame
  have hfound := Table.find?_of_mem hother
  rw [hsame, Table.find?_of_insert hdone.bags] at hfound
  cases hfound

include haccounts

theorem HandoverDone.claimsOnce : (db'.claims.map Prod.fst).Nodup := by
  rw [hdone.claims, map_append, nodup_append]
  refine ⟨haccounts.claimsOnce, ?_, ?_⟩
  · rw [map_map]
    exact (filter_sublist.map CashOrder.key).nodup db.orders.keysDistinct
  · rintro orderId hold _ hnew rfl
    obtain ⟨claim, hclaim, rfl⟩ := mem_map.1 hold
    rw [map_map] at hnew
    obtain ⟨order, horder, hkey⟩ := mem_map.1 hnew
    obtain ⟨hstored, _, hclaimable⟩ := mem_claimedRows.1 horder
    obtain ⟨handed, hhanded, hkey', hstatus⟩ := haccounts.claimsHanded claim hclaim
    obtain rfl := Table.row_eq_of_key_eq hstored hhanded (hkey.trans hkey'.symm)
    have hpaid := hclaimable.1
    rw [hstatus] at hpaid
    cases hpaid

theorem HandoverDone.claimsHanded : ∀ claim ∈ db'.claims, ∃ order ∈ db'.orders.rows,
    order.key = claim.1 ∧ order.cashStatus = .HANDED_OVER_TO_OFFICE := by
  intro claim hclaim
  rw [hdone.orders]
  rw [hdone.claims, mem_append] at hclaim
  rcases hclaim with hold | hnew
  · obtain ⟨order, hmem, hkey, hstatus⟩ := haccounts.claimsHanded claim hold
    refine ⟨order, Table.mem_updateWhere.2 ⟨order, hmem, if_neg ?_⟩, hkey, hstatus⟩
    rintro ⟨_, hpaid, _⟩
    rw [hstatus] at hpaid
    cases hpaid
  · obtain ⟨order, hmem, rfl⟩ := mem_map.1 hnew
    obtain ⟨hstored, hclaimed⟩ := mem_claimedRows.1 hmem
    exact ⟨order.handedOver shiftId, Table.mem_updateWhere.2 ⟨order, hstored, if_pos hclaimed⟩,
      rfl, rfl⟩

theorem HandoverDone.claimsBagged :
    ∀ claim ∈ db'.claims, ∃ other ∈ db'.bags.rows, other.id = claim.2 := by
  intro claim hclaim
  rw [Table.rows_insert hdone.bags]
  rw [hdone.claims, mem_append] at hclaim
  rcases hclaim with hold | hnew
  · obtain ⟨other, hother, hid⟩ := haccounts.claimsBagged claim hold
    exact ⟨other, mem_append_left _ hother, hid⟩
  · obtain ⟨order, _, rfl⟩ := mem_map.1 hnew
    exact ⟨bag, mem_append_right _ (mem_singleton_self bag), rfl⟩

theorem HandoverDone.accounts (hseen : CustodyAccounts start seen) : CustodyAccounts start db' := by
  have hsame := hdone.sameOrders
  have hread : SameOrders seen db := haccounts.orders.trans hseen.orders.symm
  have hnoClaim : ∀ orderId, (orderId, bag.id) ∉ db.claims := by
    intro orderId hclaim
    obtain ⟨other, hother, hid⟩ := haccounts.claimsBagged _ hclaim
    exact hdone.bag_new other hother hid
  constructor
  · exact hsame.trans haccounts.orders
  · exact hdone.claimsOnce haccounts
  · exact hdone.claimsHanded haccounts
  · exact hdone.claimsBagged haccounts
  · intro other hother
    rw [Table.rows_insert hdone.bags, mem_append, mem_singleton] at hother
    rcases hother with hold | rfl
    · rw [claimedTotal_of_sameOrders hsame]
      · exact haccounts.bags other hold
      · intro orderId
        rw [hdone.claims, mem_append]
        constructor
        · rintro (hclaim | hclaim)
          · exact hclaim
          · obtain ⟨order, _, hpair⟩ := mem_map.1 hclaim
            exact absurd (Prod.mk.inj hpair).2.symm (hdone.bag_new other hold)
        · exact .inl
    · right
      rw [hdone.amount_eq hread, hdone.claimedTotal_new hnoClaim]
  · exact (hdone.cash_eq hread).trans haccounts.cash

end Accounts

theorem handovers_step {start db : CustodyDb} {call : HandoverCall}
    (haccounts : CustodyAccounts start db) (hseen : CustodyAccounts start call.seen) :
    CustodyAccounts start (handovers.step call db) := by
  have hkeeps : KeepsAt (fun before after => CustodyAccounts start before →
      CustodyAccounts start after) db (confirmHandoverSeeing call.env call.args call.seen) := by
    apply keepsAt_atomically
    · intro result db' hcommits hbefore
      rcases commits_confirmHandover (commits_atomically.2 hcommits) with ⟨_, rfl⟩ | ⟨_, hdone⟩
      · exact hbefore
      · obtain ⟨shiftId, bag, hdone⟩ := hdone
        exact hdone.accounts hbefore hseen
    · intro _ hbefore
      exact hbefore
  exact hkeeps haccounts

/-- In every interleaving of handovers, however old the selection of each was, no order's
cash is in two bags, every new bag holds what the orders claimed into it come to, and
what is with the drivers and in the bags stays the same together. -/
theorem handovers_conserve {start : CustodyDb} {trace : List CustodyDb}
    (hnone : start.claims = []) (hrun : handovers.Run (fun _ _ => True) start trace) :
    ∀ db ∈ trace, (db.claims.map Prod.fst).Nodup ∧
      (∀ bag ∈ db.bags.rows, bag ∈ start.bags.rows ∨ bag.amountKd = claimedTotal bag.id db) ∧
      cashWithDrivers db + bagsTotal db = cashWithDrivers start + bagsTotal start := by
  have hstart : CustodyAccounts start start := by
    refine ⟨rfl, ?_, ?_, ?_, fun bag hbag => .inl hbag, rfl⟩
    · rw [hnone]
      exact nodup_nil
    · rw [hnone]
      exact fun claim hclaim => absurd hclaim not_mem_nil
    · rw [hnone]
      exact fun claim hclaim => absurd hclaim not_mem_nil
  have hstep : ∀ call db, CustodyAccounts start db →
      (∀ t ∈ handovers.seen call, CustodyAccounts start t) → True →
      CustodyAccounts start (handovers.step call db) := by
    intro call db haccounts hseen _
    exact handovers_step haccounts (hseen call.seen (mem_singleton_self _))
  intro db hdb
  have haccounts := hrun.invariant hstart hstep db hdb
  exact ⟨haccounts.claimsOnce, haccounts.bags, haccounts.cash⟩

namespace Sample

theorem cashDriver_nonempty : "driver" ≠ "" := by decide

def cashDriver : User := ⟨"driver", .DRIVER, none, cashDriver_nonempty⟩

def cashManager : User := ⟨"manager", .MANAGER, none, by decide⟩

def cashOrder (id : Uuid) : CashOrder :=
  { order id with
    status := .COMPLETED
    cashStatus := .PAID_TO_DRIVER
    posPaymentMethod := .CASH
    driverId := some "driver"
    handoverShiftId := none }

def cashFloor : CustodyDb where
  users := [cashDriver, cashManager]
  shifts := .empty
  orders := ⟨[cashOrder "a", cashOrder "b"], by decide⟩
  bags := .empty
  deposits := .empty
  settlements := []
  claims := []

def custodyEnv : CustodyEnv where
  now := 1
  newCustodyId := fun n => String.ofList ('c' :: List.replicate n 'x')
  newDepositId := fun n => String.ofList ('d' :: List.replicate n 'x')

def handover (seen : CustodyDb) : HandoverCall :=
  ⟨custodyEnv, ⟨"manager", .MANAGER, ⟨"driver", none, none⟩⟩, seen⟩

end Sample

/-- Two handovers that selected the same orders: the second is refused. -/
theorem handovers_conserve_sample :
    let once := handovers.step (Sample.handover Sample.cashFloor) Sample.cashFloor
    let twice := handovers.step (Sample.handover Sample.cashFloor) once
    cashWithDrivers twice + bagsTotal twice = 40000 ∧ bagsTotal twice = 40000 := by
  intro once twice
  have hrun : handovers.Run (fun _ _ => True) Sample.cashFloor [twice, once, Sample.cashFloor] := by
    apply Calls.Run.call (Sample.handover Sample.cashFloor)
    · apply Calls.Run.call (Sample.handover Sample.cashFloor) .start
      · intro t ht
        rw [mem_singleton.1 ht]
        exact mem_cons_self ..
      · trivial
    · intro t ht
      rw [mem_singleton.1 ht]
      exact mem_cons_of_mem _ (mem_cons_self ..)
    · trivial
  refine ⟨(handovers_conserve rfl hrun _ (mem_cons_self ..)).2.2, ?_⟩
  decide +kernel

end SafariLaundry
