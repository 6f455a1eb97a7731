import SafariLaundry.Library.History
import SafariLaundry.Library.Selection
import SafariLaundry.GatewayText

/-!
# Deposits of the drivers

A reviewer reads the deposit, and only then opens the transaction that sets its status,
hands over the driver's cash orders, adds the amount to the branch wallet and posts the
settlement.  The status is not asked again, and the wallet is written as the balance
that was read plus the amount.
-/

namespace SafariLaundry

open Library Library.Bookkeeping Library.Transaction List

inductive DepositType
  | CASH | KNET

inductive DepositStatus
  | PENDING | APPROVED | REJECTED
  deriving DecidableEq

structure Deposit where
  (id driverId : Uuid)
  amount : ℤ
  type : DepositType
  receiptImage : String
  status : DepositStatus
  auditComment : Option String
  auditedById : Option Uuid

structure Wallet where
  (id branchId : Uuid)
  balance : ℤ
  currency : String

/-- A `WALLET_SETTLEMENT` row of the general ledger with its metadata. -/
structure DepositSettlement where
  amount : ℤ
  memo : String
  (actorUserId depositId driverId : Uuid)
  branchId : Option Uuid
  depositType : DepositType
  amountKd : ℤ
  receiptImageUrl : String

structure DepositsDb where
  users : List User
  deposits : Table Deposit.id
  orders : Table Order.id
  wallets : Table Wallet.id
  settlements : List DepositSettlement

abbrev DepositsTx (α : Type) := Library.Transaction ServiceError DepositsDb α

def branchOf (driverId : Uuid) (db : DepositsDb) : Option Uuid :=
  (db.users.find? fun user => user.id = driverId).bind User.branchId

/-- `orderBy: { completedAt: 'asc' }`, where a missing time comes last. -/
def Order.CompletedNoLater (first second : Order) : Prop :=
  match first.completedAt, second.completedAt with
  | some early, some late => early ≤ late
  | some _, none => True
  | none, some _ => False
  | none, none => True

instance : DecidableRel Order.CompletedNoLater := fun first second => by
  unfold Order.CompletedNoLater
  cases first.completedAt with
  | none => cases second.completedAt <;> infer_instance
  | some early => cases second.completedAt <;> infer_instance

def pendingCash (driverId : Uuid) (db : DepositsDb) : List Order :=
  ((db.orders.rows.filter fun order => order.driverId = some driverId ∧
      order.status = .COMPLETED ∧ order.cashStatus = .PAID_TO_DRIVER ∧
      order.posPaymentMethod = .CASH).insertionSort Order.CompletedNoLater).take 5000

/-- The loop over the pending orders; `TOL` is one minor unit. -/
def settlePass : ℤ → List Order → List Order
  | _, [] => []
  | remaining, order :: rest =>
      if order.totalPrice ≤ 0 then settlePass remaining rest
      else if order.totalPrice ≤ remaining + 1 then
        if remaining - order.totalPrice ≤ 0 then [order]
        else order :: settlePass (remaining - order.totalPrice) rest
      else if remaining ≤ 0 then []
      else settlePass remaining rest

structure SettlementSummary where
  settledAmount : ℤ
  settledOrderCount : ℕ
  deriving DecidableEq

def Order.handedOver (order : Order) : Order :=
  { order with cashStatus := .HANDED_OVER_TO_OFFICE }

def applyDriverDepositSettlement (driverId : Uuid) (approvedAmountKd : ℤ) (seen : DepositsDb) :
    DepositsTx SettlementSummary :=
  if approvedAmountKd ≤ 0 then pure ⟨0, 0⟩
  else do
    let settled := settlePass approvedAmountKd (pendingCash driverId seen)
    whenever (settled ≠ []) do
      modify fun db => { db with
        orders := db.orders.updateWhere
          (fun order => order.id ∈ settled.map Order.id ∧ order.cashStatus = .PAID_TO_DRIVER)
          Order.handedOver (fun _ => rfl) }
    return ⟨tally Order.totalPrice settled, settled.length⟩

def branchWallet (branchId : Uuid) (db : DepositsDb) : Option Wallet :=
  db.wallets.rows.find? fun wallet => wallet.branchId = branchId ∧ wallet.currency = "KWD"

/-- The balance that was read plus the amount, or a new wallet; `seen` is the state in
which the wallet was read. -/
def creditBranchWallet (keys : FreshKeys Uuid) (branchId : Uuid) (amount : ℤ)
    (seen : DepositsDb) : DepositsTx Unit :=
  match branchWallet branchId seen with
  | some existing => do
      let _ ← fetch (fun db => db.wallets.find? existing.id)
        (.database "Record to update not found.")
      modify fun db => { db with
        wallets := db.wallets.update existing.id
          (fun wallet => { wallet with balance := existing.balance + amount }) fun _ => rfl }
  | none =>
      modify fun db => { db with
        wallets := db.wallets.insertNew keys (fun id => ⟨id, branchId, amount, "KWD"⟩)
          fun _ => rfl }

def creditCustody (keys : FreshKeys Uuid) (branchId : Option Uuid) (amount : ℤ)
    (seen : DepositsDb) : DepositsTx Unit :=
  match branchId with
  | some branchId => creditBranchWallet keys branchId amount seen
  | none => pure ()

structure UpdateDepositStatusDto where
  status : DepositStatus
  auditComment : Option String

structure UpdateDepositArgs where
  auditorId : Uuid
  auditorRole : SafariRole
  id : Uuid
  dto : UpdateDepositStatusDto

structure UpdateDepositResult where
  id : Uuid
  status : DepositStatus
  auditComment : Option String

def UpdateDepositArgs.audited (args : UpdateDepositArgs) (deposit : Deposit) : Deposit :=
  { deposit with
    status := args.dto.status
    auditComment := trimmed args.dto.auditComment
    auditedById := some args.auditorId }

def DepositType.lowerName : DepositType → String
  | .CASH => "cash"
  | .KNET => "knet"

def UpdateDepositArgs.posting (args : UpdateDepositArgs) (driverId : Uuid)
    (branchId : Option Uuid) (updated : Deposit) : DepositSettlement where
  amount := updated.amount
  memo := "driver-deposit:" ++ updated.type.lowerName ++ ":approved"
  actorUserId := args.auditorId
  depositId := updated.id
  driverId := driverId
  branchId := branchId
  depositType := updated.type
  amountKd := updated.amount
  receiptImageUrl := updated.receiptImage

structure DepositReads where
  (row orders wallet : DepositsDb)

def approveDeposit (keys : FreshKeys Uuid) (args : UpdateDepositArgs) (seen : DepositReads)
    (driverId : Uuid) (updated : Deposit) : DepositsTx Unit := do
  let branchId := branchOf driverId seen.row
  let _ ← applyDriverDepositSettlement driverId updated.amount seen.orders
  creditCustody keys branchId updated.amount seen.wallet
  modify fun db => { db with
    settlements := db.settlements ++ [args.posting driverId branchId updated] }

def updateDepositStatusSeeing (keys : FreshKeys Uuid) (args : UpdateDepositArgs)
    (seen : DepositReads) : DepositsTx UpdateDepositResult := do
  require (args.auditorRole ≠ .GENERAL_MANAGER) (.forbidden "Read-only role")
  let row ← fetch (fun _ => seen.row.deposits.find? args.id) (.notFound "Deposit not found")
  require (row.status = .PENDING) (.badRequest "Only pending deposits can be updated")
  atomically (fun before _ => before) do
    let current ← fetch (fun db => db.deposits.find? args.id)
      (.database "Record to update not found.")
    modify fun db => { db with
      deposits := db.deposits.update args.id args.audited fun _ => rfl }
    whenever (args.dto.status = .APPROVED)
      (approveDeposit keys args seen row.driverId (args.audited current))
    return ⟨current.id, args.dto.status, trimmed args.dto.auditComment⟩

structure DepositCall where
  keys : FreshKeys Uuid
  args : UpdateDepositArgs
  reads : DepositReads

def depositUpdates : Calls DepositsDb DepositCall where
  step := fun call db =>
    ((updateDepositStatusSeeing call.keys call.args call.reads).outcome db).2
  seen := fun call => [call.reads.row, call.reads.orders, call.reads.wallet]

/-! ## What a review does -/

def DepositCall.Accepted (call : DepositCall) (db : DepositsDb) : Prop :=
  call.args.auditorRole ≠ .GENERAL_MANAGER ∧
    (∃ row, call.reads.row.deposits.find? call.args.id = some row ∧ row.status = .PENDING) ∧
    (db.deposits.find? call.args.id).isSome
  deriving Decidable

def creditedWallets (keys : FreshKeys Uuid) (branchId : Uuid) (amount : ℤ)
    (seen db : DepositsDb) : Table Wallet.id :=
  match branchWallet branchId seen with
  | some existing => db.wallets.update existing.id
      (fun wallet => { wallet with balance := existing.balance + amount }) fun _ => rfl
  | none => db.wallets.insertNew keys (fun id => ⟨id, branchId, amount, "KWD"⟩) fun _ => rfl

def custodyWallets (keys : FreshKeys Uuid) (branchId : Option Uuid) (amount : ℤ)
    (seen db : DepositsDb) : Table Wallet.id :=
  match branchId with
  | some branchId => creditedWallets keys branchId amount seen db
  | none => db.wallets

structure DepositReviewed (call : DepositCall) (row current : Deposit) (db db' : DepositsDb) :
    Prop where
  users : db'.users = db.users
  deposits : db'.deposits = db.deposits.update call.args.id call.args.audited fun _ => rfl
  wallets : db'.wallets = if call.args.dto.status = .APPROVED then
      custodyWallets call.keys (branchOf row.driverId call.reads.row) current.amount
        call.reads.wallet db
    else db.wallets
  settlements : db'.settlements = db.settlements ++ if call.args.dto.status = .APPROVED then
      [call.args.posting row.driverId (branchOf row.driverId call.reads.row)
        (call.args.audited current)]
    else []

def DepositCall.WalletStored (call : DepositCall) (db : DepositsDb) : Prop :=
  ∀ branchId existing, branchWallet branchId call.reads.wallet = some existing →
    (db.wallets.find? existing.id).isSome

theorem commits_applySettlement (driverId : Uuid) (amount : ℤ) (seen db : DepositsDb) :
    ∃ summary orders, (applyDriverDepositSettlement driverId amount seen).Commits db summary
      { db with orders := orders } := by
  unfold applyDriverDepositSettlement
  by_cases hnone : amount ≤ 0
  · rw [if_pos hnone]
    exact ⟨_, db.orders, commits_pure.2 ⟨rfl, rfl⟩⟩
  · rw [if_neg hnone]
    simp only [commits_bind, commits_whenever, commits_modify, commits_pure]
    by_cases hempty : settlePass amount (pendingCash driverId seen) = []
    · exact ⟨_, db.orders, (), db, .inr ⟨not_not.2 hempty, rfl⟩, rfl, rfl⟩
    · exact ⟨_, _, (), _, .inl ⟨hempty, rfl⟩, rfl, rfl⟩

theorem commits_creditBranchWallet {keys : FreshKeys Uuid} {branchId : Uuid} {amount : ℤ}
    {seen db : DepositsDb}
    (hstored : ∀ existing, branchWallet branchId seen = some existing →
      (db.wallets.find? existing.id).isSome) :
    (creditBranchWallet keys branchId amount seen).Commits db ()
      { db with wallets := creditedWallets keys branchId amount seen db } := by
  unfold creditBranchWallet creditedWallets
  cases hread : branchWallet branchId seen with
  | none => exact commits_modify.2 rfl
  | some existing =>
      obtain ⟨wallet, hwallet⟩ := Option.isSome_iff_exists.1 (hstored existing hread)
      exact commits_bind.2 ⟨wallet, db, commits_fetch.2 ⟨hwallet, rfl⟩, commits_modify.2 rfl⟩

theorem commits_creditCustody (keys : FreshKeys Uuid) (branchId : Option Uuid) (amount : ℤ)
    {seen : DepositsDb} (db : DepositsDb)
    (hstored : ∀ branchId existing, branchWallet branchId seen = some existing →
      (db.wallets.find? existing.id).isSome) :
    (creditCustody keys branchId amount seen).Commits db ()
      { db with wallets := custodyWallets keys branchId amount seen db } := by
  cases branchId with
  | none => exact commits_pure.2 ⟨rfl, rfl⟩
  | some branchId => exact commits_creditBranchWallet fun existing => hstored branchId existing

theorem commits_approveDeposit {call : DepositCall} (driverId : Uuid) (updated : Deposit)
    (db : DepositsDb) (hstored : call.WalletStored db) :
    ∃ orders, (approveDeposit call.keys call.args call.reads driverId updated).Commits db ()
      { db with
        orders := orders
        wallets := custodyWallets call.keys (branchOf driverId call.reads.row) updated.amount
          call.reads.wallet db
        settlements := db.settlements ++
          [call.args.posting driverId (branchOf driverId call.reads.row) updated] } := by
  obtain ⟨summary, orders, hsettled⟩ :=
    commits_applySettlement driverId updated.amount call.reads.orders db
  refine ⟨orders, ?_⟩
  have hcredited := commits_creditCustody call.keys (branchOf driverId call.reads.row)
    updated.amount { db with orders := orders } hstored
  unfold approveDeposit
  exact commits_bind.2 ⟨summary, _, hsettled,
    commits_bind.2 ⟨(), _, hcredited, commits_modify.2 rfl⟩⟩

theorem DepositCall.commits_of_accepted {call : DepositCall} {row current : Deposit}
    {db : DepositsDb} (hrole : call.args.auditorRole ≠ .GENERAL_MANAGER)
    (hrow : call.reads.row.deposits.find? call.args.id = some row)
    (hpending : row.status = .PENDING)
    (hcurrent : db.deposits.find? call.args.id = some current) (hstored : call.WalletStored db) :
    DepositReviewed call row current db (depositUpdates.step call db) := by
  have hwrite : ∃ result db',
      (updateDepositStatusSeeing call.keys call.args call.reads).Commits db result db' ∧
        DepositReviewed call row current db db' := by
    unfold updateDepositStatusSeeing
    simp only [commits_bind, commits_atomically, commits_require, commits_fetch, commits_modify,
      commits_whenever, commits_pure]
    by_cases happroved : call.args.dto.status = .APPROVED
    · obtain ⟨orders, happroval⟩ := commits_approveDeposit row.driverId (call.args.audited current)
        { db with
          deposits := db.deposits.update call.args.id call.args.audited fun _ => rfl } hstored
      refine ⟨_, _, ⟨(), db, ⟨hrole, rfl⟩, row, db, ⟨hrow, rfl⟩, (), db, ⟨hpending, rfl⟩,
        current, db, ⟨hcurrent, rfl⟩, (), _, rfl, (), _, .inl ⟨happroved, happroval⟩, rfl, rfl⟩, ?_⟩
      constructor
      · rfl
      · rfl
      · rw [if_pos happroved]
        rfl
      · rw [if_pos happroved]
    · refine ⟨_, _, ⟨(), db, ⟨hrole, rfl⟩, row, db, ⟨hrow, rfl⟩, (), db, ⟨hpending, rfl⟩,
        current, db, ⟨hcurrent, rfl⟩, (), _, rfl, (), _, .inr ⟨happroved, rfl⟩, rfl, rfl⟩, ?_⟩
      constructor
      · rfl
      · rfl
      · rw [if_neg happroved]
      · rw [if_neg happroved, append_nil]
  obtain ⟨result, db', hcommits, hreviewed⟩ := hwrite
  have hstep : depositUpdates.step call db = db' := congrArg Prod.snd hcommits
  rw [hstep]
  exact hreviewed

theorem DepositCall.step_of_not_accepted {call : DepositCall} {db : DepositsDb}
    (hrefused : ¬ call.Accepted db) :
    depositUpdates.step call db = db := by
  have hkeeps : KeepsAt (fun before after => after = before) db
      (updateDepositStatusSeeing call.keys call.args call.reads) := by
    apply keepsAt_of_cases
    · intro result db' hcommits
      unfold updateDepositStatusSeeing at hcommits
      simp only [commits_bind, commits_atomically, commits_require, commits_fetch] at hcommits
      obtain ⟨_, _, ⟨hrole, rfl⟩, row, _, ⟨hrow, rfl⟩, _, _, ⟨hpending, rfl⟩, hrest⟩ := hcommits
      obtain ⟨current, _, ⟨hcurrent, rfl⟩, _⟩ := hrest
      exact absurd ⟨hrole, ⟨row, hrow, hpending⟩, hcurrent ▸ rfl⟩ hrefused
    · intro e db' hthrows
      unfold updateDepositStatusSeeing at hthrows
      simp only [throws_bind, commits_require, commits_fetch, throws_require, throws_fetch,
        throws_atomically] at hthrows
      rcases hthrows with ⟨_, _, rfl⟩ | ⟨_, _, ⟨_, rfl⟩, hthrows⟩
      · rfl
      rcases hthrows with ⟨_, _, rfl⟩ | ⟨_, _, ⟨_, rfl⟩, hthrows⟩
      · rfl
      rcases hthrows with ⟨_, _, rfl⟩ | ⟨_, _, ⟨_, rfl⟩, _, _, rfl⟩
      · rfl
      · rfl
  exact hkeeps

def Deposit.fixed (deposit : Deposit) : Deposit :=
  { deposit with status := .PENDING, auditComment := none, auditedById := none }

def Wallet.fixed (wallet : Wallet) : Wallet := { wallet with balance := 0 }

structure DepositsGrown (before after : DepositsDb) : Prop where
  users : after.users = before.users
  deposits : after.deposits.rows.map Deposit.fixed = before.deposits.rows.map Deposit.fixed
  wallets : before.wallets.rows.map Wallet.fixed <+: after.wallets.rows.map Wallet.fixed
  settlements : before.settlements <+: after.settlements

instance : Std.Refl DepositsGrown :=
  ⟨fun _ => ⟨rfl, rfl, prefix_refl _, prefix_refl _⟩⟩

instance : IsTrans DepositsDb DepositsGrown :=
  ⟨fun _ _ _ hfirst hsecond =>
    ⟨hsecond.users.trans hfirst.users, hsecond.deposits.trans hfirst.deposits,
      hfirst.wallets.trans hsecond.wallets, hfirst.settlements.trans hsecond.settlements⟩⟩

variable {start seen db db' : DepositsDb} {call : DepositCall} {row current : Deposit}

theorem branchId_of_branchWallet {branchId : Uuid} {wallet : Wallet}
    (hwallet : branchWallet branchId db = some wallet) :
    wallet.branchId = branchId := by
  have hfound := List.find?_some hwallet
  exact (of_decide_eq_true hfound).1

theorem DepositsGrown.branchWallet (hgrown : DepositsGrown seen db) {branchId : Uuid}
    {existing : Wallet} (hread : branchWallet branchId seen = some existing) :
    ∃ wallet, SafariLaundry.branchWallet branchId db = some wallet ∧ wallet.id = existing.id := by
  obtain ⟨wallet, hwallet, hsame⟩ := find?_of_view_prefix Wallet.fixed hgrown.wallets
    (q := fun wallet => wallet.branchId = branchId ∧ wallet.currency = "KWD")
    (fun _ => rfl) hread
  have hid : wallet.fixed.id = existing.fixed.id := congrArg Wallet.id hsame
  exact ⟨wallet, hwallet, hid⟩

theorem DepositsGrown.walletStored (hgrown : DepositsGrown call.reads.wallet db) :
    call.WalletStored db := by
  intro branchId existing hread
  obtain ⟨wallet, hwallet, hid⟩ := hgrown.branchWallet hread
  have hstored := Table.find?_of_mem (mem_of_find?_eq_some hwallet)
  rw [hid] at hstored
  exact hstored ▸ rfl

theorem DepositsGrown.find_deposit (hgrown : DepositsGrown seen db) {id : Uuid}
    (hread : seen.deposits.find? id = some row) :
    ∃ current, db.deposits.find? id = some current ∧ current.fixed = row.fixed := by
  have hview : seen.deposits.rows.map Deposit.fixed <+: db.deposits.rows.map Deposit.fixed := by
    rw [hgrown.deposits]
  exact find?_of_view_prefix Deposit.fixed hview (q := fun deposit => deposit.id = id)
    (fun _ => rfl) hread

theorem wallets_creditedWallets {keys : FreshKeys Uuid} {branchId : Uuid} {amount : ℤ} :
    db.wallets.rows.map Wallet.fixed <+:
      (creditedWallets keys branchId amount seen db).rows.map Wallet.fixed := by
  unfold creditedWallets
  cases branchWallet branchId seen with
  | none =>
      change _ <+: List.map Wallet.fixed (_ ++ [_])
      rw [map_append]
      exact prefix_append _ _
  | some existing =>
      change _ <+: List.map Wallet.fixed (Table.updateWhere ..).rows
      rw [Table.view_updateWhere db.wallets Wallet.fixed]
      intro _
      rfl

theorem DepositReviewed.grown (hreviewed : DepositReviewed call row current db db') :
    DepositsGrown db db' := by
  constructor
  · exact hreviewed.users
  · rw [hreviewed.deposits]
    exact Table.view_updateWhere db.deposits Deposit.fixed fun _ => rfl
  · rw [hreviewed.wallets]
    by_cases happroved : call.args.dto.status = .APPROVED
    · rw [if_pos happroved]
      cases branchOf row.driverId call.reads.row with
      | none => exact prefix_refl _
      | some branchId => exact wallets_creditedWallets
    · rw [if_neg happroved]
  · rw [hreviewed.settlements]
    exact prefix_append _ _

theorem DepositCall.step_cases (hgrown : DepositsGrown call.reads.wallet db) :
    (¬ call.Accepted db ∧ depositUpdates.step call db = db) ∨
      ∃ row current, call.args.auditorRole ≠ .GENERAL_MANAGER ∧
        call.reads.row.deposits.find? call.args.id = some row ∧ row.status = .PENDING ∧
        db.deposits.find? call.args.id = some current ∧
        DepositReviewed call row current db (depositUpdates.step call db) := by
  by_cases haccepted : call.Accepted db
  · obtain ⟨hrole, ⟨row, hrow, hpending⟩, hsome⟩ := haccepted
    obtain ⟨current, hcurrent⟩ := Option.isSome_iff_exists.1 hsome
    exact .inr ⟨row, current, hrole, hrow, hpending, hcurrent,
      call.commits_of_accepted hrole hrow hpending hcurrent hgrown.walletStored⟩
  · exact .inl ⟨haccepted, call.step_of_not_accepted haccepted⟩

theorem DepositCall.grown_step (hgrown : DepositsGrown call.reads.wallet db) :
    DepositsGrown db (depositUpdates.step call db) := by
  rcases call.step_cases hgrown with ⟨_, hsame⟩ | ⟨row, current, _, _, _, _, hreviewed⟩
  · rw [hsame]
    exact Std.Refl.refl db
  · exact hreviewed.grown

/-! ## The accounts -/

def postingsOf (depositId : Uuid) (db : DepositsDb) : List DepositSettlement :=
  db.settlements.filter fun posting => posting.depositId = depositId

def PostedOnce (db : DepositsDb) : Prop :=
  ∀ row ∈ db.deposits.rows, (postingsOf row.id db).map DepositSettlement.amount =
    if row.status = .APPROVED then [row.amount] else []
  deriving Decidable

def branchBalance (branchId : Uuid) (db : DepositsDb) : ℤ :=
  ((branchWallet branchId db).map Wallet.balance).getD 0

def Deposit.approvedFor (branchId : Uuid) (db : DepositsDb) (row : Deposit) : ℤ :=
  if row.status = .APPROVED ∧ branchOf row.driverId db = some branchId then row.amount else 0

def approvedFor (branchId : Uuid) (db : DepositsDb) : ℤ :=
  tally (Deposit.approvedFor branchId db) db.deposits.rows

/-- The accounts of a state that reviews led to from `start`. -/
structure DepositsSound (start db : DepositsDb) : Prop where
  posted : PostedOnce db
  wallets : ∀ branchId, branchBalance branchId db + approvedFor branchId start =
    branchBalance branchId start + approvedFor branchId db

def DepositCall.WalletReadHolds (call : DepositCall) (branchId : Uuid) (amount : ℤ)
    (db : DepositsDb) : Prop :=
  match branchWallet branchId call.reads.wallet with
  | some existing => existing.balance = branchBalance branchId db
  | none => branchWallet branchId db = none ∨ amount = 0

/-- What the review goes by is still so where it writes: the deposit that was pending has
not been approved, and an approval knows the balance it adds to. -/
def DepositCall.ReadsHold (call : DepositCall) (db : DepositsDb) : Prop :=
  call.args.auditorRole ≠ .GENERAL_MANAGER →
    ∀ row, call.reads.row.deposits.find? call.args.id = some row → row.status = .PENDING →
      ∀ current, db.deposits.find? call.args.id = some current → current.status ≠ .APPROVED ∧
          (call.args.dto.status = .APPROVED →
            ∀ branchId, branchOf row.driverId call.reads.row = some branchId →
              call.WalletReadHolds branchId current.amount db)

def creditedBalance (branchId : Uuid) (amount : ℤ) (seen db : DepositsDb) : ℤ :=
  match branchWallet branchId seen with
  | some existing => existing.balance + amount
  | none => ((branchWallet branchId db).map Wallet.balance).getD amount

theorem creditedBalance_iff {branchId : Uuid} {amount : ℤ} :
    creditedBalance branchId amount call.reads.wallet db = branchBalance branchId db + amount ↔
      call.WalletReadHolds branchId amount db := by
  unfold creditedBalance DepositCall.WalletReadHolds branchBalance
  cases branchWallet branchId call.reads.wallet with
  | some existing => exact add_left_inj amount
  | none =>
      cases branchWallet branchId db with
      | none => simp
      | some wallet =>
          simp only [Option.map_some, Option.getD_some, reduceCtorEq, false_or]
          omega

theorem DepositCall.readsHold_of_current (hrow : call.reads.row = db)
    (hwallet : call.reads.wallet = db) :
    call.ReadsHold db := by
  intro _ row hread hpending current hcurrent
  rw [hrow] at hread
  obtain rfl := Option.some.inj (hread.symm.trans hcurrent)
  refine ⟨by simp [hpending], ?_⟩
  intro _ branchId _
  unfold DepositCall.WalletReadHolds
  rw [hwallet]
  unfold branchBalance
  cases branchWallet branchId db with
  | none => exact .inl rfl
  | some existing => rfl

theorem branchBalance_of_wallets (hwallets : db'.wallets = db.wallets) (branchId : Uuid) :
    branchBalance branchId db' = branchBalance branchId db := by
  unfold branchBalance branchWallet
  rw [hwallets]

section Crediting

variable {keys : FreshKeys Uuid} {branchId : Uuid} {amount : ℤ}
  (hwallets : db'.wallets = creditedWallets keys branchId amount seen db)

include hwallets

theorem branchWallet_created (hread : branchWallet branchId seen = none) (other : Uuid) :
    branchWallet other db' = (branchWallet other db).or
      (if branchId = other then some ⟨keys.draw (db.wallets.rows.map Wallet.id), branchId,
        amount, "KWD"⟩ else none) := by
  unfold creditedWallets at hwallets
  rw [hread] at hwallets
  unfold branchWallet
  rw [hwallets]
  change List.find? _ (_ ++ [_]) = _
  rw [List.find?_append, List.find?_singleton]
  by_cases hsame : branchId = other
  · simp [hsame]
  · simp [hsame]

theorem branchWallet_credited {existing : Wallet}
    (hread : branchWallet branchId seen = some existing) (other : Uuid) :
    branchWallet other db' = (branchWallet other db).map fun wallet =>
      if wallet.id = existing.id then { wallet with balance := existing.balance + amount }
      else wallet := by
  unfold creditedWallets at hwallets
  rw [hread] at hwallets
  unfold branchWallet
  rw [hwallets]
  change List.find? _ (List.map _ _) = _
  rw [List.find?_map]
  congr 2
  funext wallet
  by_cases hid : wallet.id = existing.id
  · simp [hid]
  · simp [hid]

theorem branchBalance_credited (hgrown : DepositsGrown seen db) (other : Uuid) :
    branchBalance other db' = if branchId = other then creditedBalance branchId amount seen db
      else branchBalance other db := by
  unfold branchBalance creditedBalance
  cases hread : branchWallet branchId seen with
  | none =>
      rw [branchWallet_created hwallets hread]
      by_cases hsame : branchId = other
      · subst hsame
        cases branchWallet branchId db with
        | none => simp
        | some wallet => simp
      · simp [hsame]
  | some existing =>
      obtain ⟨now, hnow, hid⟩ := hgrown.branchWallet hread
      rw [branchWallet_credited hwallets hread]
      by_cases hsame : branchId = other
      · subst hsame
        rw [if_pos rfl, hnow]
        simp [hid]
      · rw [if_neg hsame]
        cases hother : branchWallet other db with
        | none => rfl
        | some wallet =>
            have hne : wallet.id ≠ existing.id := by
              intro heq
              have hrow := Table.row_eq_of_key_eq (mem_of_find?_eq_some hother)
                (mem_of_find?_eq_some hnow) (heq.trans hid.symm)
              exact hsame ((branchId_of_branchWallet hnow).symm.trans
                (hrow ▸ branchId_of_branchWallet hother))
            simp [hne]

end Crediting

namespace DepositReviewed

variable (hreviewed : DepositReviewed call row current db db')

include hreviewed

theorem postingsOf_self (hcurrent : db.deposits.find? call.args.id = some current) :
    (postingsOf call.args.id db').map DepositSettlement.amount =
      (postingsOf call.args.id db).map DepositSettlement.amount ++
        if call.args.dto.status = .APPROVED then [current.amount] else [] := by
  have hid : current.id = call.args.id := Table.key_of_find? hcurrent
  unfold postingsOf
  rw [hreviewed.settlements, filter_append, map_append]
  congr 1
  by_cases happroved : call.args.dto.status = .APPROVED
  · simp [happroved, UpdateDepositArgs.posting, UpdateDepositArgs.audited, hid]
  · simp [happroved]

theorem postingsOf_other (hcurrent : db.deposits.find? call.args.id = some current)
    {id : Uuid} (hne : id ≠ call.args.id) :
    postingsOf id db' = postingsOf id db := by
  have hid : current.id = call.args.id := Table.key_of_find? hcurrent
  unfold postingsOf
  rw [hreviewed.settlements, filter_append]
  by_cases happroved : call.args.dto.status = .APPROVED
  · simp [happroved, UpdateDepositArgs.posting, UpdateDepositArgs.audited, hid, hne.symm]
  · simp [happroved]

theorem postedOnce_iff (hcurrent : db.deposits.find? call.args.id = some current)
    (hposted : PostedOnce db) :
    PostedOnce db' ↔ current.status ≠ .APPROVED := by
  have hid : current.id = call.args.id := Table.key_of_find? hcurrent
  have hstored : current ∈ db.deposits.rows := Table.mem_of_find? hcurrent
  have hbefore := hposted current hstored
  rw [hid] at hbefore
  have hafter := hreviewed.postingsOf_self hcurrent
  constructor
  · intro hstill happroved
    have hrow : call.args.audited current ∈ db'.deposits.rows := by
      rw [hreviewed.deposits]
      exact Table.mem_updateWhere.2 ⟨current, hstored, if_pos hid⟩
    have hnow := hstill _ hrow
    change (postingsOf current.id db').map DepositSettlement.amount =
      (if call.args.dto.status = .APPROVED then [current.amount] else []) at hnow
    rw [hid, hafter, hbefore, if_pos happroved] at hnow
    have hlength := congrArg List.length hnow
    rw [length_append, length_singleton] at hlength
    omega
  · intro hfree other hother
    rw [hreviewed.deposits] at hother
    obtain ⟨old, hold, rfl⟩ := Table.mem_updateWhere.1 hother
    by_cases hkey : old.id = call.args.id
    · obtain rfl := Table.row_eq_of_key_eq hold hstored (hkey.trans hid.symm)
      rw [if_pos hkey]
      change (postingsOf old.id db').map DepositSettlement.amount =
        if call.args.dto.status = .APPROVED then [old.amount] else []
      rw [hkey, hafter, hbefore, if_neg hfree, nil_append]
    · rw [if_neg hkey, hreviewed.postingsOf_other hcurrent hkey]
      exact hposted old hold

theorem approvedFor_eq (hcurrent : db.deposits.find? call.args.id = some current)
    (hfree : current.status ≠ .APPROVED) (branchId : Uuid) :
    approvedFor branchId db' = approvedFor branchId db +
      if call.args.dto.status = .APPROVED ∧ branchOf current.driverId db = some branchId then
        current.amount
      else 0 := by
  have hweight : Deposit.approvedFor branchId db' = Deposit.approvedFor branchId db := by
    funext other
    unfold Deposit.approvedFor branchOf
    rw [hreviewed.users]
  have htally := tally_update (f := call.args.audited) (Deposit.approvedFor branchId db)
    (fun _ => rfl) hcurrent
  have hold : Deposit.approvedFor branchId db current = 0 := if_neg fun hboth => hfree hboth.1
  have hnew : Deposit.approvedFor branchId db (call.args.audited current) =
      if call.args.dto.status = .APPROVED ∧ branchOf current.driverId db = some branchId then
        current.amount
      else 0 := rfl
  unfold approvedFor
  rw [hweight, hreviewed.deposits, ← hnew]
  omega

theorem wallets_iff (hcurrent : db.deposits.find? call.args.id = some current)
    (hfree : current.status ≠ .APPROVED) (hgrown : DepositsGrown call.reads.wallet db)
    (hbranch : branchOf row.driverId call.reads.row = branchOf current.driverId db)
    (hwallets : ∀ branchId, branchBalance branchId db + approvedFor branchId start =
      branchBalance branchId start + approvedFor branchId db) :
    (∀ branchId, branchBalance branchId db' + approvedFor branchId start =
        branchBalance branchId start + approvedFor branchId db') ↔
      (call.args.dto.status = .APPROVED →
        ∀ branchId, branchOf row.driverId call.reads.row = some branchId →
          call.WalletReadHolds branchId current.amount db) := by
  have hcredited := hreviewed.wallets
  have happrovedFor := hreviewed.approvedFor_eq hcurrent hfree
  by_cases happroved : call.args.dto.status = .APPROVED
  · rw [if_pos happroved] at hcredited
    cases hown : branchOf row.driverId call.reads.row with
    | none =>
        refine iff_of_true ?_ fun _ _ hsome => by cases hsome
        intro branchId
        have hsame : db'.wallets = db.wallets := by
          rw [hcredited, hown]
          rfl
        rw [branchBalance_of_wallets hsame, happrovedFor, ← hbranch, hown]
        simpa using hwallets branchId
    | some own =>
        rw [hown] at hcredited
        have hbalance := branchBalance_credited hcredited hgrown
        constructor
        · intro hall _ branchId hsome
          obtain rfl := Option.some.inj hsome
          have hthis := hall own
          have hold := hwallets own
          rw [hbalance, if_pos rfl, happrovedFor, ← hbranch, hown, if_pos ⟨happroved, rfl⟩] at hthis
          exact creditedBalance_iff.1 (by omega)
        · intro hholds branchId
          have hold := hwallets branchId
          rw [hbalance, happrovedFor, ← hbranch, hown]
          by_cases hsame : own = branchId
          · subst hsame
            have hcredit := creditedBalance_iff.2 (hholds happroved own rfl)
            rw [if_pos rfl, if_pos ⟨happroved, rfl⟩]
            omega
          · rw [if_neg hsame, if_neg fun hboth => hsame (Option.some.inj hboth.2)]
            omega
  · rw [if_neg happroved] at hcredited
    refine iff_of_true ?_ fun hyes => absurd hyes happroved
    intro branchId
    rw [branchBalance_of_wallets hcredited, happrovedFor, if_neg fun hboth => happroved hboth.1, add_zero]
    exact hwallets branchId

end DepositReviewed

theorem DepositCall.sound_step_iff (hsound : DepositsSound start db)
    (hgrown : ∀ read ∈ depositUpdates.seen call, DepositsGrown read db) :
    DepositsSound start (depositUpdates.step call db) ↔ call.ReadsHold db := by
  have hwallet := hgrown call.reads.wallet (by simp [depositUpdates])
  rcases call.step_cases hwallet with
    ⟨hrefused, hsame⟩ | ⟨row, current, hrole, hrow, hpending, hcurrent, hreviewed⟩
  · rw [hsame]
    refine iff_of_true hsound ?_
    intro hrole row hrow hpending current hcurrent
    exact absurd ⟨hrole, ⟨row, hrow, hpending⟩, hcurrent ▸ rfl⟩ hrefused
  · have hbranch : branchOf row.driverId call.reads.row = branchOf current.driverId db := by
      have hread := hgrown call.reads.row (by simp [depositUpdates])
      obtain ⟨now, hnow, hsame⟩ := hread.find_deposit hrow
      obtain rfl := Option.some.inj (hnow.symm.trans hcurrent)
      have hdriver : now.fixed.driverId = row.fixed.driverId := congrArg Deposit.driverId hsame
      change now.driverId = row.driverId at hdriver
      unfold branchOf
      rw [hdriver, hread.users]
    have hmeets : call.ReadsHold db ↔ current.status ≠ .APPROVED ∧
        (call.args.dto.status = .APPROVED →
          ∀ branchId, branchOf row.driverId call.reads.row = some branchId →
            call.WalletReadHolds branchId current.amount db) := by
      constructor
      · intro hholds
        exact hholds hrole row hrow hpending current hcurrent
      · intro hholds _ row' hrow' _ current' hcurrent'
        obtain rfl := Option.some.inj (hrow'.symm.trans hrow)
        obtain rfl := Option.some.inj (hcurrent'.symm.trans hcurrent)
        exact hholds
    have hwallets := fun hfree : current.status ≠ .APPROVED =>
      hreviewed.wallets_iff hcurrent hfree hwallet hbranch hsound.wallets
    rw [hmeets]
    constructor
    · rintro ⟨hposted, hall⟩
      have hfree := (hreviewed.postedOnce_iff hcurrent hsound.posted).1 hposted
      exact ⟨hfree, (hwallets hfree).1 hall⟩
    · rintro ⟨hfree, hholds⟩
      exact ⟨(hreviewed.postedOnce_iff hcurrent hsound.posted).2 hfree, (hwallets hfree).2 hholds⟩

/-! ## Every interleaving -/

def DepositCall.Approves (id : Uuid) (call : DepositCall) (db : DepositsDb) : Prop :=
  call.args.id = id ∧ call.args.dto.status = .APPROVED ∧ call.Accepted db
  deriving Decidable

variable {calls : List DepositCall} {trace : List DepositsDb}

def approvals (id : Uuid) (calls : List DepositCall) (trace : List DepositsDb) : ℕ :=
  ((Calls.occurrences calls trace).filter fun found => found.1.Approves id found.2).length

def ApprovedIn (id : Uuid) (db : DepositsDb) : Prop :=
  ∃ row, db.deposits.find? id = some row ∧ row.status = .APPROVED

/-- What is asked of a run of reviews. -/
structure DepositsSettled (start : DepositsDb) (calls : List DepositCall)
    (trace : List DepositsDb) : Prop where
  approvedOnce : ∀ row ∈ start.deposits.rows, approvals row.id calls trace ≤ 1
  approvalFinal : trace.Pairwise fun later earlier =>
    ∀ id, ApprovedIn id earlier → ApprovedIn id later
  wallets : ∀ db ∈ trace, ∀ branchId, branchBalance branchId db + approvedFor branchId start =
    branchBalance branchId start + approvedFor branchId db
  posted : ∀ db ∈ trace, PostedOnce db

theorem length_postingsOf_step (id : Uuid) (hgrown : DepositsGrown call.reads.wallet db) :
    (postingsOf id (depositUpdates.step call db)).length =
      (postingsOf id db).length + if call.Approves id db then 1 else 0 := by
  rcases call.step_cases hgrown with
    ⟨hrefused, hsame⟩ | ⟨row, current, hrole, hrow, hpending, hcurrent, hreviewed⟩
  · rw [hsame, if_neg fun happroves => hrefused happroves.2.2, add_zero]
  · have haccepted : call.Accepted db := ⟨hrole, ⟨row, hrow, hpending⟩, hcurrent ▸ rfl⟩
    by_cases hid : call.args.id = id
    · subst hid
      have hlength := congrArg List.length (hreviewed.postingsOf_self hcurrent)
      rw [length_append, length_map, length_map] at hlength
      rw [hlength]
      by_cases happroved : call.args.dto.status = .APPROVED
      · rw [if_pos happroved, if_pos ⟨rfl, happroved, haccepted⟩]
        rfl
      · rw [if_neg happroved, if_neg fun happroves => happroved happroves.2.1]
        rfl
    · rw [hreviewed.postingsOf_other hcurrent (Ne.symm hid),
        if_neg fun happroves => hid happroves.1, add_zero]

theorem length_postingsOf_run (id : Uuid)
    (hlog : depositUpdates.Log
      (fun call db => True ∧ ∀ read ∈ depositUpdates.seen call, DepositsGrown read db)
      start calls trace) :
    ∀ last ∈ trace.head?, (postingsOf id last).length =
      (postingsOf id start).length + approvals id calls trace := by
  induction hlog with
  | start =>
      intro last hlast
      obtain rfl := Option.some.inj hlast
      rfl
  | @call db past calls call _ _ hadmitted ih =>
      intro last hlast
      obtain rfl := Option.some.inj hlast
      have hstep := length_postingsOf_step id
        (hadmitted.2 call.reads.wallet (by simp [depositUpdates]))
      have hbefore := ih db rfl
      have happrovals : approvals id (call :: calls) (depositUpdates.step call db :: db :: past) =
          (if call.Approves id db then 1 else 0) + approvals id calls (db :: past) := by
        change List.length (List.filter _ ((call, db) :: Calls.occurrences calls (db :: past))) = _
        by_cases happroves : call.Approves id db
        · rw [filter_cons_of_pos (by simpa using happroves), if_pos happroves,
            length_cons, Nat.add_comm]
          rfl
        · rw [filter_cons_of_neg (by simpa using happroves), if_neg happroves, Nat.zero_add]
          rfl
      omega

theorem approvedIn_of_grown (hgrown : DepositsGrown seen db) (hseen : PostedOnce seen)
    (hdb : PostedOnce db) {id : Uuid} (happroved : ApprovedIn id seen) :
    ApprovedIn id db := by
  obtain ⟨row, hrow, hstatus⟩ := happroved
  obtain ⟨current, hcurrent, _⟩ := hgrown.find_deposit hrow
  refine ⟨current, hcurrent, ?_⟩
  by_contra hnot
  have hposted := hseen row (Table.mem_of_find? hrow)
  have hnone := hdb current (Table.mem_of_find? hcurrent)
  rw [Table.key_of_find? hrow, if_pos hstatus] at hposted
  rw [Table.key_of_find? hcurrent, if_neg hnot] at hnone
  have hsublist : (postingsOf id seen).Sublist (postingsOf id db) :=
    hgrown.settlements.sublist.filter _
  have hlength := hsublist.length_le
  have hposted := congrArg List.length hposted
  have hnone := congrArg List.length hnone
  rw [length_map] at hposted hnone
  rw [hposted, hnone, length_singleton, length_nil] at hlength
  omega

/-- In every run of reviews, whatever states each of them read, each deposit is approved at
most once and for good, the branch wallets are what they were plus the approved deposits,
and each approved deposit has one posting, exactly if every review finds what it read. -/
theorem deposits_settled_iff (hposted : PostedOnce start)
    (hlog : depositUpdates.Log (fun _ _ => True) start calls trace) :
    DepositsSettled start calls trace ↔
      ∀ found ∈ Calls.occurrences calls trace, found.1.ReadsHold found.2 := by
  obtain ⟨hread, hordered⟩ := hlog.of_grows (R := DepositsGrown)
    fun call db _ hgrown => call.grown_step (hgrown call.reads.wallet (by simp [depositUpdates]))
  have hstart : DepositsSound start start := ⟨hposted, fun _ => rfl⟩
  rw [← hread.invariant_iff hstart fun call db hsound hadmitted =>
    call.sound_step_iff hsound hadmitted.2]
  constructor
  · intro hsettled db hdb
    exact ⟨hsettled.posted db hdb, hsettled.wallets db hdb⟩
  · intro hsound
    constructor
    · intro row hrow
      obtain ⟨last, past, rfl⟩ := exists_cons_of_ne_nil hlog.ne_nil
      have hgrown : DepositsGrown start last := by
        rcases mem_cons.1 hlog.start_mem with rfl | hpast
        · exact Std.Refl.refl start
        · exact (pairwise_cons.1 hordered).1 start hpast
      obtain ⟨current, hcurrent, _⟩ := hgrown.find_deposit (Table.find?_of_mem hrow)
      have hcount := length_postingsOf_run row.id hread last rfl
      have hright := congrArg List.length
        ((hsound last (mem_cons_self ..)).posted current (Table.mem_of_find? hcurrent))
      rw [Table.key_of_find? hcurrent, length_map] at hright
      have hone : (if current.status = .APPROVED then [current.amount] else []).length ≤ 1 := by
        by_cases hstatus : current.status = .APPROVED
        · rw [if_pos hstatus, length_singleton]
        · rw [if_neg hstatus]
          exact Nat.zero_le 1
      omega
    · apply hordered.imp_of_mem
      intro later earlier hlater hearlier hgrown id happroved
      exact approvedIn_of_grown hgrown (hsound earlier hearlier).posted
        (hsound later hlater).posted happroved
    · exact fun db hdb => (hsound db hdb).wallets
    · exact fun db hdb => (hsound db hdb).posted

namespace Sample

theorem depositDriver_nonempty : "driver" ≠ "" := by decide

def depositDesk : DepositsDb where
  users := [⟨"driver", .DRIVER, some "branch", depositDriver_nonempty⟩]
  deposits := ⟨[⟨"deposit", "driver", 50000, .CASH, "receipt", .PENDING, none, none⟩], by decide⟩
  orders := oneOrder "order"
  wallets := ⟨[⟨"wallet", "branch", 10000, "KWD"⟩], by decide⟩
  settlements := []

def approval (reads : DepositsDb) : DepositCall where
  keys := .text
  args := ⟨"accountant", .ACCOUNTANT, "deposit", ⟨.APPROVED, none⟩⟩
  reads := ⟨reads, reads, reads⟩

def approvedDesk : DepositsDb :=
  depositUpdates.step (approval depositDesk) depositDesk

theorem depositDesk_posted : PostedOnce depositDesk := by
  decide +kernel

end Sample

theorem deposits_settled_iff_sample :
    DepositsSettled Sample.depositDesk [Sample.approval Sample.depositDesk]
      [Sample.approvedDesk, Sample.depositDesk] := by
  have hlog : depositUpdates.Log (fun _ _ => True) Sample.depositDesk
      [Sample.approval Sample.depositDesk] [Sample.approvedDesk, Sample.depositDesk] := by
    apply Calls.Log.call (Sample.approval Sample.depositDesk) .start
    · intro read hread
      simpa [depositUpdates, Sample.approval] using hread
    · trivial
  apply (deposits_settled_iff Sample.depositDesk_posted hlog).2
  intro found hfound
  obtain rfl := mem_singleton.1 hfound
  exact DepositCall.readsHold_of_current rfl rfl

/-- Two reviewers both read the deposit as pending and approve it. -/
theorem deposits_settled_fails :
    ¬ ∀ (start : DepositsDb) (calls : List DepositCall) (trace : List DepositsDb),
      PostedOnce start → depositUpdates.Log (fun _ _ => True) start calls trace →
      DepositsSettled start calls trace := by
  intro hall
  have hlog : depositUpdates.Log (fun _ _ => True) Sample.depositDesk
      [Sample.approval Sample.depositDesk, Sample.approval Sample.depositDesk]
      [depositUpdates.step (Sample.approval Sample.depositDesk) Sample.approvedDesk,
        Sample.approvedDesk, Sample.depositDesk] := by
    apply Calls.Log.call (Sample.approval Sample.depositDesk)
    · apply Calls.Log.call (Sample.approval Sample.depositDesk) .start
      · intro read hread
        simpa [depositUpdates, Sample.approval] using hread
      · trivial
    · intro read hread
      have hsame : read = Sample.depositDesk := by
        simpa [depositUpdates, Sample.approval] using hread
      rw [hsame]
      exact mem_cons_of_mem _ (mem_singleton_self _)
    · trivial
  have hposted := (hall _ _ _ Sample.depositDesk_posted hlog).posted _ (mem_cons_self ..)
  revert hposted
  decide +kernel

end SafariLaundry
