import SafariLaundry.DriverDeposits

/-!
# The orders that a deposit hands over

The orders are picked from what was read, and the bulk update then skips those that were
settled meanwhile.  What is reported is what was picked; the update's own count is not
asked.
-/

namespace SafariLaundry

open Library Library.Bookkeeping Library.Transaction List

/-! ## What is picked -/

/-- How the pass treats the first of the orders: it passes over it, stops, or picks it, and
then stops or goes on with what is left. -/
theorem settlePass_cases (remaining : ℤ) (order : Order) (rest : List Order) :
    settlePass remaining (order :: rest) = settlePass remaining rest ∨
      settlePass remaining (order :: rest) = [] ∨
      0 < order.totalPrice ∧ order.totalPrice ≤ remaining + 1 ∧
        (settlePass remaining (order :: rest) = [order] ∨ 0 < remaining - order.totalPrice ∧
          settlePass remaining (order :: rest) =
            order :: settlePass (remaining - order.totalPrice) rest) := by
  rw [settlePass]
  by_cases hfree : order.totalPrice ≤ 0
  · rw [if_pos hfree]
    exact .inl rfl
  · rw [if_neg hfree]
    by_cases hfits : order.totalPrice ≤ remaining + 1
    · rw [if_pos hfits]
      by_cases hspent : remaining - order.totalPrice ≤ 0
      · rw [if_pos hspent]
        exact .inr (.inr ⟨not_le.1 hfree, hfits, .inl rfl⟩)
      · rw [if_neg hspent]
        exact .inr (.inr ⟨not_le.1 hfree, hfits, .inr ⟨not_le.1 hspent, rfl⟩⟩)
    · rw [if_neg hfits]
      by_cases hspent : remaining ≤ 0
      · rw [if_pos hspent]
        exact .inr (.inl rfl)
      · rw [if_neg hspent]
        exact .inl rfl

theorem settlePass_sublist (remaining : ℤ) (orders : List Order) :
    (settlePass remaining orders).Sublist orders := by
  induction orders generalizing remaining with
  | nil => exact List.Sublist.slnil
  | cons order rest ih =>
      rcases settlePass_cases remaining order rest with
        hpassed | hstopped | ⟨_, _, hlast | ⟨_, hpicked⟩⟩
      · rw [hpassed]
        exact (ih remaining).cons order
      · rw [hstopped]
        exact nil_sublist _
      · rw [hlast]
        exact (nil_sublist rest).cons_cons order
      · rw [hpicked]
        exact (ih _).cons_cons order

theorem settlePass_pos {remaining : ℤ} {orders : List Order} :
    ∀ order ∈ settlePass remaining orders, 0 < order.totalPrice := by
  induction orders generalizing remaining with
  | nil => exact forall_mem_nil _
  | cons order rest ih =>
      rcases settlePass_cases remaining order rest with
        hpassed | hstopped | ⟨hpos, _, hlast | ⟨_, hpicked⟩⟩
      · rw [hpassed]
        exact ih
      · rw [hstopped]
        exact forall_mem_nil _
      · rw [hlast]
        exact forall_mem_singleton.2 hpos
      · rw [hpicked]
        exact forall_mem_cons.2 ⟨hpos, ih⟩

theorem tally_settlePass_le {remaining : ℤ} (hremaining : -1 ≤ remaining) (orders : List Order) :
    tally Order.totalPrice (settlePass remaining orders) ≤ remaining + 1 := by
  induction orders generalizing remaining with
  | nil =>
      change (0 : ℤ) ≤ remaining + 1
      omega
  | cons order rest ih =>
      rcases settlePass_cases remaining order rest with
        hpassed | hstopped | ⟨_, hfits, hlast | ⟨hleft, hpicked⟩⟩
      · rw [hpassed]
        exact ih hremaining
      · rw [hstopped, tally_nil]
        omega
      · rw [hlast, tally_cons, tally_nil, add_zero]
        exact hfits
      · rw [hpicked, tally_cons]
        have hrest : tally Order.totalPrice (settlePass (remaining - order.totalPrice) rest) ≤
            remaining - order.totalPrice + 1 := ih (by omega)
        omega

theorem pendingCash_stored {driverId : Uuid} {seen : DepositsDb} {order : Order}
    (hpending : order ∈ pendingCash driverId seen) : order ∈ seen.orders.rows := by
  have hsorted := mem_of_mem_take hpending
  rw [mem_insertionSort] at hsorted
  exact (mem_filter.1 hsorted).1

theorem pendingCash_distinct (driverId : Uuid) (seen : DepositsDb) :
    ((pendingCash driverId seen).map Order.id).Nodup := by
  have hfiltered : ((seen.orders.rows.filter fun order => order.driverId = some driverId ∧
      order.status = .COMPLETED ∧ order.cashStatus = .PAID_TO_DRIVER ∧
      order.posPaymentMethod = .CASH).map Order.id).Nodup :=
    seen.orders.keysDistinct.sublist (filter_sublist.map Order.id)
  have hsorted := ((perm_insertionSort Order.CompletedNoLater _).map Order.id).nodup_iff.2
    hfiltered
  exact hsorted.sublist ((take_sublist 5000 _).map Order.id)

def pickedOrders (driverId : Uuid) (amount : ℤ) (seen : DepositsDb) : List Order :=
  if amount ≤ 0 then [] else settlePass amount (pendingCash driverId seen)

section Picked

variable {driverId : Uuid} {amount : ℤ} {seen db db' : DepositsDb}

theorem pickedOrders_sublist :
    (pickedOrders driverId amount seen).Sublist (pendingCash driverId seen) := by
  unfold pickedOrders
  by_cases hnone : amount ≤ 0
  · rw [if_pos hnone]
    exact nil_sublist _
  · rw [if_neg hnone]
    exact settlePass_sublist amount _

theorem pickedOrders_pos {order : Order} (hpicked : order ∈ pickedOrders driverId amount seen) :
    0 < order.totalPrice := by
  unfold pickedOrders at hpicked
  by_cases hnone : amount ≤ 0
  · rw [if_pos hnone] at hpicked
    cases hpicked
  · rw [if_neg hnone] at hpicked
    exact settlePass_pos order hpicked

theorem tally_pickedOrders_le :
    tally Order.totalPrice (pickedOrders driverId amount seen) ≤ max amount 0 + 1 := by
  unfold pickedOrders
  by_cases hnone : amount ≤ 0
  · rw [if_pos hnone, tally_nil]
    have hmax := le_max_right amount 0
    omega
  · rw [if_neg hnone]
    have hamount : -1 ≤ amount := by omega
    have hpass := tally_settlePass_le hamount (pendingCash driverId seen)
    have hmax := le_max_left amount 0
    omega

theorem pickedOrders_distinct (driverId : Uuid) (amount : ℤ) (seen : DepositsDb) :
    ((pickedOrders driverId amount seen).map Order.id).Nodup :=
  (pendingCash_distinct driverId seen).sublist (pickedOrders_sublist.map Order.id)

theorem pickedOrders_stored {order : Order} (hpicked : order ∈ pickedOrders driverId amount seen) :
    order ∈ seen.orders.rows :=
  pendingCash_stored (pickedOrders_sublist.subset hpicked)

/-! ## What is handed over -/

def Order.HandsOver (driverId : Uuid) (amount : ℤ) (seen : DepositsDb) (order : Order) : Prop :=
  order.id ∈ (pickedOrders driverId amount seen).map Order.id ∧ order.cashStatus = .PAID_TO_DRIVER
  deriving Decidable

theorem Order.handedOver_id (order : Order) : order.handedOver.id = order.id := rfl

def ordersAfter (driverId : Uuid) (amount : ℤ) (seen db : DepositsDb) : Table Order.id :=
  db.orders.updateWhere (Order.HandsOver driverId amount seen) Order.handedOver Order.handedOver_id

theorem find?_ordersAfter (id : Uuid) :
    (ordersAfter driverId amount seen db).find? id = (db.orders.find? id).map fun order =>
      if order.HandsOver driverId amount seen then order.handedOver else order :=
  Table.find?_updateWhere _ _ _ _ _

theorem ordersAfter_of_none (hnone : pickedOrders driverId amount seen = []) :
    ordersAfter driverId amount seen db = db.orders := by
  apply Table.updateWhere_eq_self
  intro order _ hpicked
  have hid := hpicked.1
  rw [hnone] at hid
  cases hid

theorem commits_applyDriverDepositSettlement {summary : SettlementSummary} :
    (applyDriverDepositSettlement driverId amount seen).Commits db summary db' ↔
      summary = ⟨tally Order.totalPrice (pickedOrders driverId amount seen),
        (pickedOrders driverId amount seen).length⟩ ∧
      db' = { db with orders := ordersAfter driverId amount seen db } := by
  by_cases hnone : amount ≤ 0
  · have hpicked : pickedOrders driverId amount seen = [] := if_pos hnone
    unfold applyDriverDepositSettlement
    rw [if_pos hnone, commits_pure, ordersAfter_of_none hpicked, hpicked, eq_comm (a := db)]
    exact and_congr_left' eq_comm
  · have hpicked : pickedOrders driverId amount seen =
      settlePass amount (pendingCash driverId seen) := if_neg hnone
    unfold applyDriverDepositSettlement
    rw [if_neg hnone, ← hpicked]
    simp only [commits_bind, commits_whenever, commits_modify, commits_pure]
    constructor
    · rintro ⟨_, written, ⟨_, hwritten⟩ | ⟨hempty, hsame⟩, rfl, rfl⟩
      · exact ⟨rfl, hwritten⟩
      · rw [ordersAfter_of_none (not_not.1 hempty)]
        exact ⟨rfl, hsame.symm⟩
    · rintro ⟨rfl, rfl⟩
      by_cases hempty : pickedOrders driverId amount seen = []
      · rw [ordersAfter_of_none hempty]
        exact ⟨(), db, .inr ⟨not_not.2 hempty, rfl⟩, rfl, rfl⟩
      · exact ⟨(), _, .inl ⟨hempty, rfl⟩, rfl, rfl⟩

def flippedOrders (db db' : DepositsDb) : List Order :=
  db.orders.rows.filter fun order =>
    (db'.orders.find? order.id).map Order.cashStatus ≠ some order.cashStatus

structure HandoverSound (driverId : Uuid) (amount : ℤ) (seen db db' : DepositsDb)
    (summary : SettlementSummary) : Prop where
  frame : db' = { db with orders := db'.orders }
  listed : ∀ order ∈ flippedOrders db db',
    order.id ∈ (pendingCash driverId seen).map Order.id ∧ order.cashStatus = .PAID_TO_DRIVER
  changed : db'.orders.rows = db.orders.rows.map fun order =>
    if order ∈ flippedOrders db db' then order.handedOver else order
  within : tally Order.totalPrice (flippedOrders db db') ≤ max amount 0 + 1
  reported : summary.settledAmount = tally Order.totalPrice (flippedOrders db db')

/-- The orders that were read are still there, with the totals they had. -/
def TotalsKept (seen db : DepositsDb) : Prop :=
  ∀ order ∈ seen.orders.rows,
    (db.orders.find? order.id).map Order.totalPrice = some order.totalPrice

def StillWithDriver (db : DepositsDb) (id : Uuid) : Prop :=
  (db.orders.find? id).map Order.cashStatus = some .PAID_TO_DRIVER
  deriving Decidable

theorem stillWithDriver_iff {order : Order} (hstored : order ∈ db.orders.rows) :
    StillWithDriver db order.id ↔ order.cashStatus = .PAID_TO_DRIVER := by
  unfold StillWithDriver
  rw [Table.find?_of_mem hstored, Option.map_some, Option.some.injEq]

theorem cashStatus_after {order : Order} (hstored : order ∈ db.orders.rows) :
    ((ordersAfter driverId amount seen db).find? order.id).map Order.cashStatus ≠
        some order.cashStatus ↔
      order.HandsOver driverId amount seen := by
  rw [find?_ordersAfter, Table.find?_of_mem hstored, Option.map_some, Option.map_some]
  by_cases hhands : order.HandsOver driverId amount seen
  · rw [if_pos hhands, hhands.2]
    exact iff_of_true (by simp [Order.handedOver]) hhands
  · rw [if_neg hhands]
    exact iff_of_false (not_not.2 rfl) hhands

theorem flippedOrders_after :
    flippedOrders db { db with orders := ordersAfter driverId amount seen db } =
      db.orders.rows.filter fun order => order.HandsOver driverId amount seen := by
  apply filter_congr
  intro order hstored
  exact decide_eq_decide.2 (cashStatus_after hstored)

theorem tally_handsOver (hkept : TotalsKept seen db) :
    tally Order.totalPrice
        (db.orders.rows.filter fun order => order.HandsOver driverId amount seen) =
      tally Order.totalPrice
        ((pickedOrders driverId amount seen).filter fun order => StillWithDriver db order.id) := by
  let weight := fun order : Order => if StillWithDriver db order.id then order.totalPrice else 0
  have hstored : ∀ order ∈ pickedOrders driverId amount seen,
      ∃ stored, db.orders.find? order.id = some stored ∧ weight stored = weight order := by
    intro order hpicked
    obtain ⟨stored, hfound, htotal⟩ :=
      Option.map_eq_some_iff.1 (hkept order (pickedOrders_stored hpicked))
    refine ⟨stored, hfound, ?_⟩
    simp only [weight, Table.key_of_find? hfound, htotal]
  calc tally Order.totalPrice
        (db.orders.rows.filter fun order => order.HandsOver driverId amount seen)
      = tally (fun order => if order.HandsOver driverId amount seen then order.totalPrice else 0)
          db.orders.rows := tally_filter _ _ _
    _ = tally (fun order => if order.id ∈ (pickedOrders driverId amount seen).map Order.id then
          weight order else 0) db.orders.rows := by
        apply tally_congr
        intro order hrow
        by_cases hpicked : order.id ∈ (pickedOrders driverId amount seen).map Order.id
        · rw [if_pos hpicked]
          exact if_congr ((and_iff_right hpicked).trans (stillWithDriver_iff hrow).symm) rfl rfl
        · rw [if_neg hpicked, if_neg fun hhands => hpicked hhands.1]
    _ = tally weight (pickedOrders driverId amount seen) :=
        tally_selected (pickedOrders_distinct driverId amount seen) hstored
    _ = _ := (tally_filter _ _ _).symm

end Picked

theorem TotalsKept.refl (db : DepositsDb) : TotalsKept db db := by
  intro order hrow
  rw [Table.find?_of_mem hrow, Option.map_some]

/-- A settlement whose orders were read in an earlier state is sound exactly if every order
that it picks is still with the driver. -/
theorem handoverSound_iff {driverId : Uuid} {amount : ℤ} {seen db db' : DepositsDb}
    {summary : SettlementSummary} (hkept : TotalsKept seen db)
    (hcommits : (applyDriverDepositSettlement driverId amount seen).Commits db summary db') :
    HandoverSound driverId amount seen db db' summary ↔
      ∀ order ∈ pickedOrders driverId amount seen, StillWithDriver db order.id := by
  obtain ⟨rfl, rfl⟩ := commits_applyDriverDepositSettlement.1 hcommits
  have hpos : ∀ order ∈ pickedOrders driverId amount seen, 0 < order.totalPrice :=
    fun order hpicked => pickedOrders_pos hpicked
  rw [← tally_filter_eq_iff hpos, ← tally_handsOver hkept]
  constructor
  · intro hsound
    have hreported := hsound.reported
    rw [flippedOrders_after] at hreported
    exact hreported.symm
  · intro hall
    constructor
    · rfl
    · intro order hflipped
      rw [flippedOrders_after] at hflipped
      obtain ⟨hpicked, hdriver⟩ := of_decide_eq_true (mem_filter.1 hflipped).2
      exact ⟨(pickedOrders_sublist.map Order.id).subset hpicked, hdriver⟩
    · rw [flippedOrders_after]
      apply map_congr_left
      intro order hrow
      exact if_congr ⟨fun hhands => mem_filter.2 ⟨hrow, decide_eq_true hhands⟩,
        fun hflipped => of_decide_eq_true (mem_filter.1 hflipped).2⟩ rfl rfl
    · rw [flippedOrders_after, hall]
      exact tally_pickedOrders_le
    · rw [flippedOrders_after]
      exact hall.symm

namespace Sample

def cashDesk : DepositsDb :=
  { depositDesk with
    orders := ⟨[{ order "order" with
      driverId := some "driver"
      status := .COMPLETED
      cashStatus := .PAID_TO_DRIVER
      posPaymentMethod := .CASH }], nodup_singleton _⟩ }

/-- A deposit of five dinars whose orders were read at the start. -/
def deposited (db : DepositsDb) : Except ServiceError SettlementSummary × DepositsDb :=
  (applyDriverDepositSettlement "driver" 50000 cashDesk).outcome db

def settledDesk : DepositsDb := (deposited cashDesk).2

end Sample

theorem handoverSound_iff_sample :
    HandoverSound "driver" 50000 Sample.cashDesk Sample.cashDesk Sample.settledDesk ⟨20000, 1⟩ ↔
      ∀ order ∈ pickedOrders "driver" 50000 Sample.cashDesk,
        StillWithDriver Sample.cashDesk order.id :=
  handoverSound_iff (TotalsKept.refl _) (commits_of_returns (by decide +kernel))

theorem handoverSound_fails :
    ¬ ∀ (driverId : Uuid) (amount : ℤ) (seen between after : DepositsDb)
      (first second : SettlementSummary),
      (applyDriverDepositSettlement driverId amount seen).Commits seen first between →
      (applyDriverDepositSettlement driverId amount seen).Commits between second after →
      HandoverSound driverId amount seen between after second := by
  intro hall
  have hreported := (hall "driver" 50000 Sample.cashDesk Sample.settledDesk
    (Sample.deposited Sample.settledDesk).2 ⟨20000, 1⟩ ⟨20000, 1⟩
    (commits_of_returns (by decide +kernel)) (commits_of_returns (by decide +kernel))).reported
  revert hreported
  decide +kernel

end SafariLaundry
