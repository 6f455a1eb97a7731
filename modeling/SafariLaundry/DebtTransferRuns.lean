import SafariLaundry.DebtTransfers

/-!
# Interleaved debt transfers

A transfer that is opened over orders that are still free, and cancelled only while it
is not finalized, leaves every order in one transfer at most and its cash with the
driver that the transfers say.
-/

namespace SafariLaundry.DebtTransfers

open Library Library.Transaction List

def entriesOf (transferId : Uuid) (db : DebtTransferDb) : List DebtAdjustment :=
  db.generalLedger.filter fun entry => entry.transferId = transferId

def DebtTransfer.balancingPair (transfer : DebtTransfer) : List DebtAdjustment :=
  if transfer.status = .COMPLETED then [transfer.outEntry, transfer.inEntry] else []

def Finalized (transferId : Uuid) (db : DebtTransferDb) : Prop :=
  ∃ transfer ∈ db.transfers.rows, transfer.id = transferId ∧ transfer.status = .COMPLETED

def Moved (orderId : Uuid) (db : DebtTransferDb) : Prop :=
  ∃ transfer ∈ db.transfers.rows, transfer.status = .COMPLETED ∧ orderId ∈ transfer.orderIds

/-- `origin` is the driver of each order before any transfer. -/
structure TransfersSound (origin : Uuid → Option Uuid) (db : DebtTransferDb) : Prop where
  exclusive : ∀ first ∈ db.transfers.rows, ∀ second ∈ db.transfers.rows,
    first.status ≠ .CANCELLED → second.status ≠ .CANCELLED →
    ∀ orderId ∈ first.orderIds, orderId ∈ second.orderIds → first = second
  parties : ∀ transfer ∈ db.transfers.rows, transfer.sourceDriverId ≠ transfer.targetDriverId
  posted : ∀ transfer ∈ db.transfers.rows, entriesOf transfer.id db = transfer.balancingPair
  known : ∀ entry ∈ db.generalLedger, ∃ transfer ∈ db.transfers.rows, transfer.id = entry.transferId
  received : ∀ transfer ∈ db.transfers.rows, transfer.status = .COMPLETED →
    ∀ order ∈ db.orders.rows, order.id ∈ transfer.orderIds →
      order.driverId = some transfer.targetDriverId ∧ origin order.id = some transfer.sourceDriverId
  kept : ∀ order ∈ db.orders.rows, ¬ Moved order.id db → order.driverId = origin order.id

variable {origin : Uuid → Option Uuid}

theorem TransfersSound.driver_ne_iff {db : DebtTransferDb} (hsound : TransfersSound origin db)
    {order : DriverOrder} (horder : order ∈ db.orders.rows) :
    order.driverId ≠ origin order.id ↔ Moved order.id db := by
  constructor
  · intro hchanged
    by_contra hnot
    exact hchanged (hsound.kept order horder hnot)
  · rintro ⟨transfer, htransfer, hcompleted, hmem⟩ hsame
    obtain ⟨hdriver, horigin⟩ := hsound.received transfer htransfer hcompleted order horder hmem
    rw [hdriver, horigin] at hsame
    exact hsound.parties transfer htransfer (Option.some.inj hsame).symm

theorem transfersSound_of_none {db : DebtTransferDb} (htransfers : db.transfers.rows = [])
    (hledger : db.generalLedger = []) :
    TransfersSound (fun orderId => (db.orders.find? orderId).bind fun order => order.driverId)
      db := by
  constructor
  · rw [htransfers]
    simp
  · rw [htransfers]
    simp
  · rw [htransfers]
    simp
  · rw [hledger]
    simp
  · rw [htransfers]
    simp
  · intro order horder _
    have hfind : db.orders.find? order.id = some order := Table.find?_of_mem horder
    rw [hfind]
    rfl

/-- What no signature and no status changes. -/
structure SameDocument (before after : DebtTransfer) : Prop where
  id : after.id = before.id
  sourceDriverId : after.sourceDriverId = before.sourceDriverId
  targetDriverId : after.targetDriverId = before.targetDriverId
  totalAmount : after.totalAmount = before.totalAmount
  orderCount : after.orderCount = before.orderCount
  orders : after.orders = before.orders

theorem SameDocument.refl (transfer : DebtTransfer) : SameDocument transfer transfer :=
  ⟨rfl, rfl, rfl, rfl, rfl, rfl⟩

theorem SameDocument.orderIds {before after : DebtTransfer} (hsame : SameDocument before after) :
    after.orderIds = before.orderIds :=
  congrArg (List.map DebtTransferOrder.orderId) hsame.orders

theorem SameDocument.pair {before after : DebtTransfer} (hsame : SameDocument before after) :
    [after.outEntry, after.inEntry] = [before.outEntry, before.inEntry] := by
  obtain ⟨hid, hsource, htarget, htotal, hcount, _⟩ := hsame
  unfold DebtTransfer.outEntry DebtTransfer.inEntry
  rw [hid, hsource, htarget, htotal, hcount]

theorem exclusive_of_map {before after : Table DebtTransfer.id} {g : DebtTransfer → DebtTransfer}
    (hrows : after.rows = before.rows.map g) (hsame : ∀ transfer, SameDocument transfer (g transfer))
    (hactive : ∀ transfer ∈ before.rows, (g transfer).status ≠ .CANCELLED →
      transfer.status ≠ .CANCELLED)
    (hexclusive : ∀ first ∈ before.rows, ∀ second ∈ before.rows,
      first.status ≠ .CANCELLED → second.status ≠ .CANCELLED →
      ∀ orderId ∈ first.orderIds, orderId ∈ second.orderIds → first = second) :
    ∀ first ∈ after.rows, ∀ second ∈ after.rows,
      first.status ≠ .CANCELLED → second.status ≠ .CANCELLED →
      ∀ orderId ∈ first.orderIds, orderId ∈ second.orderIds → first = second := by
  rw [hrows]
  intro first hfirst second hsecond hopen hopen' orderId hmem hmem'
  obtain ⟨old, hold, rfl⟩ := mem_map.1 hfirst
  obtain ⟨old', hold', rfl⟩ := mem_map.1 hsecond
  rw [(hsame old).orderIds] at hmem
  rw [(hsame old').orderIds] at hmem'
  rw [hexclusive old hold old' hold' (hactive old hold hopen) (hactive old' hold' hopen')
    orderId hmem hmem']

variable {transfers : Table DebtTransfer.id} {transferId : Uuid} {seen : DebtTransferDb}
  {env : TransferEnv} {executorRole : SafariRole}

theorem TransfersSound.of_map {db : DebtTransferDb} {g : DebtTransfer → DebtTransfer}
    (hsound : TransfersSound origin db) (hrows : transfers.rows = db.transfers.rows.map g)
    (hsame : ∀ transfer, SameDocument transfer (g transfer))
    (hstatus : ∀ transfer ∈ db.transfers.rows, (g transfer).status = transfer.status ∨
      ((g transfer).status = .CANCELLED ∧ transfer.status ≠ .COMPLETED)) :
    TransfersSound origin { db with transfers := transfers } := by
  have hcompleted : ∀ transfer ∈ db.transfers.rows,
      (g transfer).status = .COMPLETED ↔ transfer.status = .COMPLETED := by
    intro transfer htransfer
    rcases hstatus transfer htransfer with hkept | ⟨hcancelled, hnot⟩
    · rw [hkept]
    · rw [hcancelled]
      constructor
      · intro hdone
        cases hdone
      · intro hdone
        exact absurd hdone hnot
  have hmoved : ∀ orderId, Moved orderId db → Moved orderId { db with transfers := transfers } := by
    rintro orderId ⟨transfer, htransfer, hdone, hmem⟩
    refine ⟨g transfer, ?_, (hcompleted transfer htransfer).2 hdone, ?_⟩
    · rw [hrows]
      exact mem_map_of_mem htransfer
    · rw [(hsame transfer).orderIds]
      exact hmem
  constructor
  · apply exclusive_of_map hrows hsame _ hsound.exclusive
    intro transfer htransfer hopen hcancelled
    rcases hstatus transfer htransfer with hkept | ⟨hnow, _⟩
    · exact hopen (hkept.trans hcancelled)
    · exact hopen hnow
  · intro after hafter
    obtain ⟨transfer, htransfer, rfl⟩ := mem_map.1 (hrows ▸ hafter)
    rw [(hsame transfer).sourceDriverId, (hsame transfer).targetDriverId]
    exact hsound.parties transfer htransfer
  · intro after hafter
    obtain ⟨transfer, htransfer, rfl⟩ := mem_map.1 (hrows ▸ hafter)
    have hposted := hsound.posted transfer htransfer
    unfold DebtTransfer.balancingPair at hposted ⊢
    rw [(hsame transfer).id, (hsame transfer).pair, if_congr (hcompleted transfer htransfer) rfl rfl]
    exact hposted
  · intro entry hentry
    obtain ⟨transfer, htransfer, hid⟩ := hsound.known entry hentry
    refine ⟨g transfer, ?_, (hsame transfer).id.trans hid⟩
    rw [hrows]
    exact mem_map_of_mem htransfer
  · intro after hafter hdone order horder hmem
    obtain ⟨transfer, htransfer, rfl⟩ := mem_map.1 (hrows ▸ hafter)
    rw [(hsame transfer).orderIds] at hmem
    rw [(hsame transfer).sourceDriverId, (hsame transfer).targetDriverId]
    exact hsound.received transfer htransfer ((hcompleted transfer htransfer).1 hdone) order
      horder hmem
  · intro order horder hnot
    exact hsound.kept order horder fun hold => hnot (hmoved order.id hold)

theorem active_iff (transfer : DebtTransfer) :
    transfer.Active ↔ transfer.status ≠ .CANCELLED := by
  unfold DebtTransfer.Active
  cases transfer.status with
  | DRAFT | AWAITING_SIGNATURES | COMPLETED | CANCELLED => simp

theorem alreadyLocked_eq_nil {orderIds : List Uuid} {db : DebtTransferDb}
    (hfree : alreadyLocked orderIds db = []) :
    ∀ transfer ∈ db.transfers.rows, transfer.status ≠ .CANCELLED →
      ∀ orderId ∈ transfer.orderIds, orderId ∉ orderIds := by
  intro transfer htransfer hopen orderId hmem horder
  have hnone := flatMap_eq_nil_iff.1 hfree transfer
    (mem_filter.2 ⟨htransfer, decide_eq_true ((active_iff transfer).2 hopen)⟩)
  have hlocked := filter_eq_nil_iff.1 hnone orderId hmem
  exact hlocked (decide_eq_true horder)

theorem TransfersSound.insert {db : DebtTransferDb} {transfer : DebtTransfer}
    (hsound : TransfersSound origin db) (hinsert : db.transfers.insert transfer = some transfers)
    (hstatus : transfer.status = .AWAITING_SIGNATURES)
    (hparties : transfer.sourceDriverId ≠ transfer.targetDriverId)
    (hfree : ∀ other ∈ db.transfers.rows, other.status ≠ .CANCELLED →
      ∀ orderId ∈ other.orderIds, orderId ∉ transfer.orderIds) :
    TransfersSound origin { db with transfers := transfers } := by
  have hrows : transfers.rows = db.transfers.rows ++ [transfer] := Table.rows_insert hinsert
  have hcases : ∀ row, row ∈ transfers.rows → row ∈ db.transfers.rows ∨ row = transfer := by
    intro row hrow
    rw [hrows, mem_append, mem_singleton] at hrow
    exact hrow
  have hold : ∀ row ∈ db.transfers.rows, row ∈ transfers.rows := by
    intro row hrow
    rw [hrows]
    exact mem_append_left _ hrow
  constructor
  · intro first hfirst second hsecond hopen hopen' orderId hmem hmem'
    rcases hcases first hfirst with hfirst | rfl
    · rcases hcases second hsecond with hsecond | rfl
      · exact hsound.exclusive first hfirst second hsecond hopen hopen' orderId hmem hmem'
      · exact absurd hmem' (hfree first hfirst hopen orderId hmem)
    · rcases hcases second hsecond with hsecond | rfl
      · exact absurd hmem (hfree second hsecond hopen' orderId hmem')
      · rfl
  · intro row hrow
    rcases hcases row hrow with hrow | rfl
    · exact hsound.parties row hrow
    · exact hparties
  · intro row hrow
    rcases hcases row hrow with hrow | rfl
    · exact hsound.posted row hrow
    · -- an entry of the new transfer would belong to a row that has its key
      have hnone : entriesOf row.id db = [] := by
        apply filter_eq_nil_iff.2
        intro entry hentry hid
        obtain ⟨other, hother, hkey⟩ := hsound.known entry hentry
        have hfound : db.transfers.find? row.id = some other := by
          rw [← of_decide_eq_true hid, ← hkey]
          exact Table.find?_of_mem hother
        have htaken : db.transfers.find? row.id = none := Table.find?_of_insert hinsert
        rw [htaken] at hfound
        cases hfound
      unfold DebtTransfer.balancingPair
      rw [hstatus]
      exact hnone
  · intro entry hentry
    obtain ⟨row, hrow, hid⟩ := hsound.known entry hentry
    exact ⟨row, hold row hrow, hid⟩
  · intro row hrow hdone order horder hmem
    rcases hcases row hrow with hrow | rfl
    · exact hsound.received row hrow hdone order horder hmem
    · rw [hstatus] at hdone
      cases hdone
  · intro order horder hnot
    apply hsound.kept order horder
    rintro ⟨row, hrow, hdone, hmem⟩
    exact hnot ⟨row, hold row hrow, hdone, hmem⟩

/-! ## A finalized transfer -/

structure OrdersMoved (transfer : DebtTransfer) (before after : DebtTransferDb) : Prop where
  held : ∀ order ∈ before.orders.rows, order.id ∈ transfer.orderIds →
    order.driverId = some transfer.sourceDriverId
  moved : ∀ order ∈ after.orders.rows, ∃ old ∈ before.orders.rows, order.id = old.id ∧
    order.driverId =
      if old.id ∈ transfer.orderIds then some transfer.targetDriverId else old.driverId

structure TransferFinalized (transfer : DebtTransfer) (g : DebtTransfer → DebtTransfer)
    (before after : DebtTransferDb) : Prop where
  found : transfer ∈ before.transfers.rows
  waiting : transfer.status = .AWAITING_SIGNATURES
  orders : OrdersMoved transfer before after
  ledger : after.generalLedger = before.generalLedger ++ [transfer.outEntry, transfer.inEntry]
  rows : after.transfers.rows = before.transfers.rows.map g
  sameDocument : ∀ row, SameDocument row (g row)
  completed : (g transfer).status = .COMPLETED
  others : ∀ row ∈ before.transfers.rows, row ≠ transfer → g row = row

theorem TransfersSound.not_moved {db : DebtTransferDb} {transfer : DebtTransfer}
    (hsound : TransfersSound origin db) (htransfer : transfer ∈ db.transfers.rows)
    (hstatus : transfer.status = .AWAITING_SIGNATURES) :
    ∀ orderId ∈ transfer.orderIds, ¬ Moved orderId db := by
  rintro orderId hin ⟨row, hrow, hcompleted, hin'⟩
  have hsame : transfer = row := by
    apply hsound.exclusive transfer htransfer row hrow _ _ orderId hin hin'
    · rw [hstatus]
      exact fun h => by cases h
    · rw [hcompleted]
      exact fun h => by cases h
  rw [← hsame, hstatus] at hcompleted
  cases hcompleted

namespace TransferFinalized

variable {db db' : DebtTransferDb} {transfer : DebtTransfer} {g : DebtTransfer → DebtTransfer}

theorem mem (hfinal : TransferFinalized transfer g db db') {row : DebtTransfer}
    (hrow : row ∈ db.transfers.rows) : g row ∈ db'.transfers.rows := by
  rw [hfinal.rows]
  exact mem_map_of_mem hrow

theorem row_cases (hfinal : TransferFinalized transfer g db db') {after : DebtTransfer}
    (hafter : after ∈ db'.transfers.rows) :
    after = g transfer ∨ (after ∈ db.transfers.rows ∧ after ≠ transfer) := by
  obtain ⟨row, hrow, rfl⟩ := mem_map.1 (hfinal.rows ▸ hafter)
  by_cases heq : row = transfer
  · rw [heq]
    exact .inl rfl
  · rw [hfinal.others row hrow heq]
    exact .inr ⟨hrow, heq⟩

theorem moved_of_mem (hfinal : TransferFinalized transfer g db db') {orderId : Uuid}
    (hin : orderId ∈ transfer.orderIds) : Moved orderId db' :=
  ⟨g transfer, hfinal.mem hfinal.found, hfinal.completed,
    (hfinal.sameDocument transfer).orderIds ▸ hin⟩

theorem moved (hfinal : TransferFinalized transfer g db db') {orderId : Uuid}
    (hmoved : Moved orderId db) : Moved orderId db' := by
  obtain ⟨row, hrow, hcompleted, hin⟩ := hmoved
  have hne : row ≠ transfer := by
    rintro rfl
    rw [hfinal.waiting] at hcompleted
    cases hcompleted
  refine ⟨row, ?_, hcompleted, hin⟩
  rw [← hfinal.others row hrow hne]
  exact hfinal.mem hrow

theorem posted (hfinal : TransferFinalized transfer g db db') (hsound : TransfersSound origin db)
    {after : DebtTransfer} (hafter : after ∈ db'.transfers.rows) :
    entriesOf after.id db' = after.balancingPair := by
  have happended : entriesOf after.id db' = entriesOf after.id db ++
      [transfer.outEntry, transfer.inEntry].filter fun entry =>
        entry.transferId = after.id := by
    unfold entriesOf
    rw [hfinal.ledger, filter_append]
  rcases hfinal.row_cases hafter with rfl | ⟨hrow, hne⟩
  · have hsame := hfinal.sameDocument transfer
    have hnone : entriesOf transfer.id db = [] := by
      rw [hsound.posted transfer hfinal.found]
      unfold DebtTransfer.balancingPair
      rw [hfinal.waiting]
      rfl
    unfold DebtTransfer.balancingPair
    rw [happended, hsame.id, hnone, if_pos hfinal.completed, hsame.pair, nil_append]
    simp [DebtTransfer.outEntry, DebtTransfer.inEntry]
  · have hid : transfer.id ≠ after.id := by
      intro hid
      exact hne (Table.row_eq_of_key_eq hrow hfinal.found hid.symm)
    rw [happended, hsound.posted after hrow]
    simp [DebtTransfer.outEntry, DebtTransfer.inEntry, hid]

theorem known (hfinal : TransferFinalized transfer g db db') (hsound : TransfersSound origin db) :
    ∀ entry ∈ db'.generalLedger, ∃ row ∈ db'.transfers.rows, row.id = entry.transferId := by
  intro entry hentry
  rw [hfinal.ledger, mem_append] at hentry
  rcases hentry with hold | hnew
  · obtain ⟨row, hrow, hid⟩ := hsound.known entry hold
    exact ⟨g row, hfinal.mem hrow, (hfinal.sameDocument row).id.trans hid⟩
  · refine ⟨g transfer, hfinal.mem hfinal.found, ?_⟩
    rw [(hfinal.sameDocument transfer).id]
    simp only [mem_cons, not_mem_nil, or_false] at hnew
    rcases hnew with rfl | rfl
    · rfl
    · rfl

theorem received (hfinal : TransferFinalized transfer g db db')
    (hsound : TransfersSound origin db) :
    ∀ after ∈ db'.transfers.rows, after.status = .COMPLETED →
      ∀ order ∈ db'.orders.rows, order.id ∈ after.orderIds →
        order.driverId = some after.targetDriverId ∧
          origin order.id = some after.sourceDriverId := by
  have hfresh := hsound.not_moved hfinal.found hfinal.waiting
  intro after hafter hcompleted order horder hin
  obtain ⟨old, hold, hid, hdriver⟩ := hfinal.orders.moved order horder
  rw [hid] at hin ⊢
  rcases hfinal.row_cases hafter with rfl | ⟨hrow, hne⟩
  · have hsame := hfinal.sameDocument transfer
    rw [hsame.orderIds] at hin
    rw [hsame.sourceDriverId, hsame.targetDriverId, hdriver, if_pos hin]
    refine ⟨rfl, ?_⟩
    rw [← hsound.kept old hold (hfresh old.id hin)]
    exact hfinal.orders.held old hold hin
  · have hout : old.id ∉ transfer.orderIds := by
      intro hin'
      exact hfresh old.id hin' ⟨after, hrow, hcompleted, hin⟩
    rw [hdriver, if_neg hout]
    exact hsound.received after hrow hcompleted old hold hin

theorem kept (hfinal : TransferFinalized transfer g db db') (hsound : TransfersSound origin db) :
    ∀ order ∈ db'.orders.rows, ¬ Moved order.id db' → order.driverId = origin order.id := by
  intro order horder hnot
  obtain ⟨old, hold, hid, hdriver⟩ := hfinal.orders.moved order horder
  rw [hid] at hnot ⊢
  rw [hdriver, if_neg fun hin => hnot (hfinal.moved_of_mem hin)]
  exact hsound.kept old hold fun hbefore => hnot (hfinal.moved hbefore)

end TransferFinalized

theorem TransfersSound.complete {db db' : DebtTransferDb} {transfer : DebtTransfer}
    {g : DebtTransfer → DebtTransfer} (hsound : TransfersSound origin db)
    (hfinal : TransferFinalized transfer g db db') : TransfersSound origin db' := by
  constructor
  · apply exclusive_of_map hfinal.rows hfinal.sameDocument _ hsound.exclusive
    intro row hrow hactive
    by_cases heq : row = transfer
    · rw [heq, hfinal.waiting]
      exact fun h => by cases h
    · rw [← hfinal.others row hrow heq]
      exact hactive
  · intro after hafter
    rcases hfinal.row_cases hafter with rfl | ⟨hrow, _⟩
    · have hsame := hfinal.sameDocument transfer
      rw [hsame.sourceDriverId, hsame.targetDriverId]
      exact hsound.parties transfer hfinal.found
    · exact hsound.parties after hrow
  · exact fun after hafter => hfinal.posted hsound hafter
  · exact hfinal.known hsound
  · exact hfinal.received hsound
  · exact hfinal.kept hsound

/-! ## Each call -/

/-- A call keeps what holds between calls, and no completed transfer is lost. -/
def TransfersKept (origin : Uuid → Option Uuid) (db db' : DebtTransferDb) : Prop :=
  (TransfersSound origin db → TransfersSound origin db') ∧
    ∀ transferId, Finalized transferId db → Finalized transferId db'

instance : Std.Refl (TransfersKept origin) := ⟨fun _ => ⟨id, fun _ h => h⟩⟩

instance : IsTrans DebtTransferDb (TransfersKept origin) :=
  ⟨fun _ _ _ hfirst hsecond =>
    ⟨fun hsound => hsecond.1 (hfirst.1 hsound), fun id h => hsecond.2 id (hfirst.2 id h)⟩⟩

theorem keepsAt_updateTransfer {f : DebtTransfer → DebtTransfer}
    {hf : ∀ transfer, (f transfer).id = transfer.id} {db : DebtTransferDb}
    (hsame : ∀ transfer, SameDocument transfer (f transfer))
    (hstatus : ∀ transfer ∈ db.transfers.rows, transfer.id = transferId →
      (f transfer).status = transfer.status ∨
        ((f transfer).status = .CANCELLED ∧ transfer.status ≠ .COMPLETED)) :
    KeepsAt (TransfersKept origin) db (updateTransfer transferId f hf) := by
  refine .fetch_bind fun found _ => ?_
  let g : DebtTransfer → DebtTransfer := fun row => if row.id = transferId then f row else row
  have hgsame : ∀ row, SameDocument row (g row) := by
    intro row
    by_cases hid : row.id = transferId
    · simp only [g, if_pos hid]
      exact hsame row
    · simp only [g, if_neg hid]
      exact SameDocument.refl row
  have hgstatus : ∀ row ∈ db.transfers.rows, (g row).status = row.status ∨
      ((g row).status = .CANCELLED ∧ row.status ≠ .COMPLETED) := by
    intro row hrow
    by_cases hid : row.id = transferId
    · simp only [g, if_pos hid]
      exact hstatus row hrow hid
    · simp only [g, if_neg hid]
      exact .inl trivial
  change TransfersKept origin db { db with transfers := db.transfers.update transferId f hf }
  refine ⟨fun hsound => hsound.of_map rfl hgsame hgstatus, ?_⟩
  rintro id ⟨row, hrow, hid, hcompleted⟩
  refine ⟨g row, mem_map_of_mem hrow, (hgsame row).id.trans hid, ?_⟩
  rcases hgstatus row hrow with hkept | ⟨_, hnot⟩
  · exact hkept.trans hcompleted
  · exact absurd hcompleted hnot

theorem keepsAt_signSeeing {party : SigningParty} {now : Timestamp} {signerId : Uuid}
    {db : DebtTransferDb} (hsame : ∀ transfer, SameDocument transfer (party.sign now transfer))
    (hstatus : ∀ transfer, (party.sign now transfer).status = transfer.status) :
    KeepsAt (TransfersKept origin) db (signSeeing party now transferId signerId seen) := by
  refine .fetch_bind fun transfer _ => ?_
  refine .require_bind fun _ => ?_
  refine .require_bind fun _ => ?_
  apply KeepsAt.bind (keepsAt_require _ _)
  intro _ mid _
  apply keepsAt_updateTransfer hsame
  intro row _ _
  exact .inl (hstatus row)

theorem keepsAt_cancelSeeing {now : Timestamp} {cancellerId : Uuid} {cancellerRole : SafariRole}
    {reason : Option String} {db : DebtTransferDb}
    (htimely : ∀ read, seen.transfers.find? transferId = some read →
      read.status = .DRAFT ∨ read.status = .AWAITING_SIGNATURES → ¬ Finalized transferId db) :
    KeepsAt (TransfersKept origin) db
      (cancelSeeing now transferId cancellerId cancellerRole reason seen) := by
  refine .require_bind fun _ => ?_
  refine .fetch_bind fun read hfound => ?_
  refine .require_bind fun hallowed => ?_
  apply keepsAt_updateTransfer
  · intro transfer
    exact ⟨rfl, rfl, rfl, rfl, rfl, rfl⟩
  · intro row hrow hid
    refine .inr ⟨rfl, fun hcompleted => ?_⟩
    exact htimely read hfound hallowed ⟨row, hrow, hid, hcompleted⟩

theorem mem_orderIds_newTransfer {executorId : Uuid} {dto : CreateDebtTransferDto}
    {orderIds : List Uuid} {orderId : Uuid}
    (hmem : orderId ∈ (newTransfer env executorId executorRole dto
      (ordersOf orderIds seen)).orderIds) :
    orderId ∈ orderIds := by
  unfold DebtTransfer.orderIds newTransfer ordersOf at hmem
  rw [map_map] at hmem
  obtain ⟨order, horder, rfl⟩ := mem_map.1 hmem
  exact of_decide_eq_true (mem_filter.1 horder).2

theorem keepsAt_createSeeing {executorId : Uuid} {dto : CreateDebtTransferDto} {seen : CreateReads}
    {db : DebtTransferDb}
    (hfree : alreadyLocked dto.orderIds.eraseDups seen.locks = [] →
      alreadyLocked dto.orderIds.eraseDups db = []) :
    KeepsAt (TransfersKept origin) db (createSeeing env executorId executorRole dto seen) := by
  refine .require_bind fun _ => ?_
  refine .require_bind fun hparties => ?_
  refine .require_bind fun _ => ?_
  refine .fetch_bind fun source _ => ?_
  refine .fetch_bind fun target _ => ?_
  refine .require_bind fun _ => ?_
  refine .require_bind fun _ => ?_
  refine .require_bind fun _ => ?_
  refine .require_bind fun _ => ?_
  refine .require_bind fun _ => ?_
  refine .require_bind fun hunlocked => ?_
  refine .fetch_bind fun transfers hinserted => ?_
  change TransfersKept origin db { db with transfers := transfers }
  constructor
  · intro hsound
    apply hsound.insert hinserted rfl hparties
    intro other hother hopen orderId hmem hnew
    exact alreadyLocked_eq_nil (hfree hunlocked) other hother hopen orderId hmem
      (mem_orderIds_newTransfer hnew)
  · rintro transferId ⟨row, hrow, hid, hcompleted⟩
    refine ⟨row, ?_, hid, hcompleted⟩
    change row ∈ transfers.rows
    rw [Table.rows_insert hinserted]
    exact mem_append_left _ hrow

theorem commits_reassignOrders {transfer : DebtTransfer} {orders : List DriverOrder}
    {db db' : DebtTransferDb} {a : Unit}
    (hcommits : (orders.forM (reassignOrder transfer)).Commits db a db') :
    ∃ moved, db' = { db with orders := moved } ∧
      ∀ order ∈ moved.rows, ∃ old ∈ db.orders.rows, order.id = old.id ∧
        order.driverId = if old.id ∈ orders.map (fun o => o.id) then
          some transfer.targetDriverId else old.driverId := by
  induction orders generalizing db with
  | nil =>
      obtain rfl := commits_forM_nil.1 hcommits
      exact ⟨db.orders, rfl, fun order horder => ⟨order, horder, rfl, by simp⟩⟩
  | cons first rest ih =>
      obtain ⟨mid, hfirst, hrest⟩ := commits_forM_cons.1 hcommits
      obtain rfl := commits_modify.1 hfirst
      obtain ⟨moved, rfl, hmoved⟩ := ih hrest
      refine ⟨moved, rfl, ?_⟩
      intro order horder
      obtain ⟨middle, hmiddle, hid, hdriver⟩ := hmoved order horder
      obtain ⟨old, hold, hrow⟩ := mem_map.1 hmiddle
      refine ⟨old, hold, ?_, ?_⟩
      · rw [hid, ← hrow]
        by_cases hsame : old.key = first.id
        · rw [if_pos hsame]
          rfl
        · rw [if_neg hsame]
      · rw [hdriver, ← hrow]
        by_cases hsame : old.key = first.id
        · have hfirst : old.id = first.id := hsame
          rw [if_pos hsame]
          simp [DriverOrder.reassigned, hfirst]
        · have hother : old.id ≠ first.id := hsame
          rw [if_neg hsame]
          simp [hother]

theorem ordersMoved_of_commits {transfer : DebtTransfer} {db db' : DebtTransferDb} {a : Unit}
    (hheld : (ordersOf transfer.orderIds db).filter
      (fun order => ¬ order.HeldBy transfer.sourceDriverId) = [])
    (hcommits : ((ordersOf transfer.orderIds db).forM (reassignOrder transfer)).Commits db a db') :
    OrdersMoved transfer db db' := by
  obtain ⟨moved, rfl, hdrivers⟩ := commits_reassignOrders hcommits
  have hread : ∀ order ∈ db.orders.rows,
      order ∈ ordersOf transfer.orderIds db ↔ order.id ∈ transfer.orderIds := by
    intro order horder
    simp [ordersOf, horder]
  constructor
  · intro order horder hmem
    have hkept := filter_eq_nil_iff.1 hheld order ((hread order horder).2 hmem)
    by_contra hother
    exact hkept (decide_eq_true fun hheldBy => hother hheldBy.1)
  · intro order horder
    obtain ⟨old, hold, hsame, hdriver⟩ := hdrivers order horder
    have hids : old.id ∈ (ordersOf transfer.orderIds db).map (fun o => o.id) ↔
        old.id ∈ transfer.orderIds := by
      constructor
      · intro hmem
        obtain ⟨other, hother, hkey⟩ := mem_map.1 hmem
        rw [← hkey]
        exact of_decide_eq_true (mem_filter.1 hother).2
      · intro hmem
        exact mem_map_of_mem ((hread old hold).2 hmem)
    refine ⟨old, hold, hsame, hdriver.trans ?_⟩
    exact if_congr hids rfl rfl

theorem keepsAt_finalize {db : DebtTransferDb} :
    KeepsAt (TransfersKept origin) db (finalize env transferId executorRole) := by
  refine .require_bind fun _ => ?_
  apply keepsAt_atomically
  · intro result db' hcommits
    simp only [requireAwaiting, appendEntry, updateTransfer, commits_bind, commits_fetch,
      commits_require, commits_reads, commits_modify, commits_pure] at hcommits
    obtain ⟨transfer, _, ⟨hfound, rfl⟩, _, _, ⟨hstatus, rfl⟩, _, _, ⟨_, rfl⟩, hrest⟩ := hcommits
    obtain ⟨currentOrders, _, ⟨hcurrent, rfl⟩, _, _, ⟨_, rfl⟩, _, _, ⟨hheld, rfl⟩, hrest⟩ := hrest
    obtain ⟨_, mid, hmoved, _, _, rfl, _, _, rfl, _, _, ⟨_, rfl⟩, _, _, rfl, _, rfl⟩ := hrest
    rw [← hcurrent] at hheld hmoved
    have horders := ordersMoved_of_commits hheld hmoved
    obtain ⟨moved, rfl, -⟩ := commits_reassignOrders hmoved
    have htransfer : transfer ∈ db.transfers.rows := Table.mem_of_find? hfound
    have hid : transfer.id = transferId := Table.key_of_find? hfound
    let g : DebtTransfer → DebtTransfer := fun row =>
      if row.id = transferId then row.finalizedBy env else row
    have hsame : ∀ row, SameDocument row (g row) := by
      intro row
      by_cases hrow : row.id = transferId
      · simp only [g, if_pos hrow]
        exact ⟨rfl, rfl, rfl, rfl, rfl, rfl⟩
      · simp only [g, if_neg hrow]
        exact SameDocument.refl row
    have hdone : (g transfer).status = .COMPLETED := by
      simp only [g, if_pos hid]
      rfl
    constructor
    · intro hsound
      refine hsound.complete (g := g) ⟨htransfer, hstatus, ?_, ?_, ?_, hsame, hdone, ?_⟩
      · exact ⟨horders.held, horders.moved⟩
      · exact append_assoc _ _ _
      · rfl
      · intro row hrow hne
        apply if_neg
        intro hrowId
        exact hne (Table.row_eq_of_key_eq hrow htransfer (hrowId.trans hid.symm))
    · rintro otherId ⟨row, hrow, hrowId, hcompleted⟩
      refine ⟨g row, mem_map_of_mem hrow, (hsame row).id.trans hrowId, ?_⟩
      by_cases hchanged : row.id = transferId
      · simp only [g, if_pos hchanged]
        rfl
      · simp only [g, if_neg hchanged]
        exact hcompleted
  · intro _
    exact Std.Refl.refl db

/-! ## Every interleaving -/

namespace TransferCall

/-- An order that was read as free is free when the transfer is written, and a transfer
that was read as open is not completed when it is cancelled. -/
def Timely : TransferCall → DebtTransferDb → Prop
  | .create _ _ _ dto seen, db => alreadyLocked dto.orderIds.eraseDups seen.locks = [] →
      alreadyLocked dto.orderIds.eraseDups db = []
  | .signAsSource _ _ _ _, _ | .signAsTarget _ _ _ _, _ | .finalize _ _ _, _ => True
  | .cancel _ transferId _ _ _ seen, db => ∀ read, seen.transfers.find? transferId = some read →
      read.status = .DRAFT ∨ read.status = .AWAITING_SIGNATURES → ¬ Finalized transferId db

theorem keepsAt_run {call : TransferCall} {db : DebtTransferDb} (htimely : call.Timely db) :
    KeepsAt (TransfersKept origin) db call.run := by
  cases call with
  | create env executorId executorRole dto seen => exact keepsAt_createSeeing htimely
  | signAsSource now transferId signerId seen =>
      exact keepsAt_signSeeing (fun _ => ⟨rfl, rfl, rfl, rfl, rfl, rfl⟩) fun _ => rfl
  | signAsTarget now transferId signerId seen =>
      exact keepsAt_signSeeing (fun _ => ⟨rfl, rfl, rfl, rfl, rfl, rfl⟩) fun _ => rfl
  | finalize env transferId executorRole => exact keepsAt_finalize
  | cancel now transferId cancellerId cancellerRole reason seen =>
      exact keepsAt_cancelSeeing htimely

end TransferCall

/-- In every interleaving in which no creation and no cancellation overtakes what it has not
seen, each order is in one transfer at most that is not cancelled, a completed transfer
stays so and has posted its pair and the others nothing, and the drivers that have changed
are those of completed transfers. -/
theorem transferRun_sound {start : DebtTransferDb} {trace : List DebtTransferDb}
    (hstart : TransfersSound origin start)
    (hrun : transferCalls.Run TransferCall.Timely start trace) :
    (∀ db ∈ trace, (∀ first ∈ db.transfers.rows, ∀ second ∈ db.transfers.rows,
        first.status ≠ .CANCELLED → second.status ≠ .CANCELLED →
        ∀ orderId ∈ first.orderIds, orderId ∈ second.orderIds → first = second) ∧
      (∀ transfer ∈ db.transfers.rows, entriesOf transfer.id db = transfer.balancingPair) ∧
      ∀ order ∈ db.orders.rows, order.driverId ≠ origin order.id ↔ Moved order.id db) ∧
    ∀ transferId, trace.IsChain fun later earlier =>
      Finalized transferId earlier → Finalized transferId later := by
  have hkept : ∀ call db, call.Timely db →
      TransfersKept origin db (transferCalls.step call db) := by
    intro call db htimely
    exact call.keepsAt_run htimely
  have hstep : ∀ call db, TransfersSound origin db →
      (∀ t ∈ transferCalls.seen call, TransfersSound origin t) → call.Timely db →
      TransfersSound origin (transferCalls.step call db) := by
    intro call db hsound _ htimely
    exact (hkept call db htimely).1 hsound
  constructor
  · intro db hdb
    have hsound := hrun.invariant hstart hstep db hdb
    exact ⟨hsound.exclusive, hsound.posted, fun order horder => hsound.driver_ne_iff horder⟩
  · intro transferId
    have hdoes : ∀ call db, TransfersSound origin db →
        (∀ t ∈ transferCalls.seen call, TransfersSound origin t) → call.Timely db →
        (Finalized transferId db → Finalized transferId (transferCalls.step call db)) := by
      intro call db _ _ htimely
      exact (hkept call db htimely).2 transferId
    exact hrun.isChain hstart hstep hdoes

namespace Sample

def leaving : Driver := ⟨⟨"leaving", .DRIVER, none, by decide⟩, true⟩

def replacement : Driver := ⟨⟨"replacement", .DRIVER, none, by decide⟩, true⟩

def heldOrder : DriverOrder :=
  { SafariLaundry.Sample.order "order" with
    status := .COMPLETED
    cashStatus := .PAID_TO_DRIVER
    driverId := some "leaving"
    transferredFromDriverId := none }

def roster : DebtTransferDb where
  users := ⟨[leaving, replacement], by decide⟩
  orders := ⟨[heldOrder], nodup_singleton _⟩
  transfers := Table.empty
  generalLedger := []

def rosterOrigin (orderId : Uuid) : Option Uuid :=
  (roster.orders.find? orderId).bind fun order => order.driverId

def transferDto : CreateDebtTransferDto := ⟨"leaving", "replacement", ["order"], none, none⟩

def transferEnv : TransferEnv := ⟨1, "transfer", "5af4"⟩

def opened : DebtTransferDb :=
  transferCalls.step (.create transferEnv "accountant" .ACCOUNTANT transferDto
    ⟨roster, roster, roster⟩) roster

def sourceSigned : DebtTransferDb :=
  transferCalls.step (.signAsSource 2 "transfer" "leaving" opened) opened

def bothSigned : DebtTransferDb :=
  transferCalls.step (.signAsTarget 3 "transfer" "replacement" sourceSigned) sourceSigned

def completed : DebtTransferDb :=
  transferCalls.step (.finalize ⟨4, "unused", "5af4"⟩ "transfer" .ACCOUNTANT) bothSigned

def movedOrder : DriverOrder :=
  { heldOrder with
    driverId := some "replacement"
    transferredFromDriverId := some "leaving" }

def lateCancel : TransferCall := .cancel 5 "transfer" "accountant" .ACCOUNTANT none bothSigned

end Sample

theorem transfersSound_roster : TransfersSound Sample.rosterOrigin Sample.roster :=
  transfersSound_of_none rfl rfl

theorem run_completed {P : TransferCall → DebtTransferDb → Prop}
    (hadmitted : ∀ call db, call.Timely db → P call db) :
    transferCalls.Run P Sample.roster
      [Sample.completed, Sample.bothSigned, Sample.sourceSigned, Sample.opened,
        Sample.roster] := by
  apply Calls.Run.call
  · apply Calls.Run.call
    · apply Calls.Run.call
      · apply Calls.Run.call _ .start
        · simp [transferCalls, TransferCall.seen]
        · exact hadmitted _ _ fun hfree => hfree
      · simp [transferCalls, TransferCall.seen]
      · exact hadmitted _ _ trivial
    · simp [transferCalls, TransferCall.seen]
    · exact hadmitted _ _ trivial
  · simp [transferCalls, TransferCall.seen]
  · exact hadmitted _ _ trivial

theorem transferRun_sound_sample :
    Sample.movedOrder.driverId ≠ Sample.rosterOrigin Sample.movedOrder.id ↔
      Moved Sample.movedOrder.id Sample.completed :=
  ((transferRun_sound transfersSound_roster (run_completed fun _ _ htimely => htimely)).1
    Sample.completed (mem_cons_self ..)).2.2 Sample.movedOrder (by decide +kernel)

theorem transferRun_fails :
    ¬ ∀ (origin : Uuid → Option Uuid) (start : DebtTransferDb) (trace : List DebtTransferDb),
      TransfersSound origin start → transferCalls.Run (fun _ _ => True) start trace →
      ∀ db ∈ trace, ∀ transfer ∈ db.transfers.rows,
        entriesOf transfer.id db = transfer.balancingPair := by
  intro hall
  have hrun : transferCalls.Run (fun _ _ => True) Sample.roster
      [transferCalls.step Sample.lateCancel Sample.completed, Sample.completed,
        Sample.bothSigned, Sample.sourceSigned, Sample.opened, Sample.roster] := by
    apply Calls.Run.call Sample.lateCancel (run_completed fun _ _ _ => trivial)
    · simp [transferCalls, TransferCall.seen, Sample.lateCancel]
    · trivial
  have hposted := hall _ _ _ transfersSound_roster hrun _ (mem_cons_self ..)
  revert hposted
  decide +kernel

end SafariLaundry.DebtTransfers
