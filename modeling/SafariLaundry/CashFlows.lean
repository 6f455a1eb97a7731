import SafariLaundry.CashCustody
import SafariLaundry.Fixed4

/-!
# Bags, their orders and their deposits

Each custody bag of a day is put beside the orders of its shift and beside a deposit: its own,
or else the first of its shift.  Nothing marks a deposit as taken.
-/

namespace SafariLaundry

open Library Library.Bookkeeping List

inductive FlowDepositStatus
  | MISSING | PENDING | VERIFIED | AMOUNT_MISMATCH
  deriving DecidableEq

inductive FlowAnomaly
  | MISSING_SHIFT_LINK | CUSTODY_ORDER_AMOUNT_MISMATCH | DEPOSIT_NOT_REGISTERED
  | DEPOSIT_AMOUNT_MISMATCH | DEPOSIT_PENDING_VERIFICATION

inductive OverallDepositStatus
  | MISSING | PENDING | VERIFIED | MIXED

structure CashFlowControlDto where
  custodyId : Uuid
  shiftId : Option Uuid
  (custodyAmount linkedOrdersTotal : String)
  depositId : Option Uuid
  depositStatus : FlowDepositStatus
  auditComplete : Bool
  anomalyFlags : List FlowAnomaly

structure DepositBook where
  deposits : Table BankDepositLog.id
  linksDistinct : (deposits.rows.filterMap BankDepositLog.managerCashCustodyId).Nodup

def DepositBook.bankDepositLog (book : DepositBook) (bag : ManagerCashCustody) :
    Option BankDepositLog :=
  book.deposits.rows.find? fun row => row.managerCashCustodyId = some bag.id

structure DayLists (book : DepositBook) where
  custodies : List ManagerCashCustody
  orders : List CashOrder
  deposits : List BankDepositLog
  custodiesDistinct : (custodies.map ManagerCashCustody.id).Nodup
  ordersDistinct : (orders.map CashOrder.key).Nodup
  logged : ∀ deposit ∈ deposits, deposit ∈ book.deposits.rows

def flowDepositStatus (custodyMinor : ℤ) : Option BankDepositLog → FlowDepositStatus
  | none => .MISSING
  | some deposit =>
      if deposit.amountKd ≠ custodyMinor then .AMOUNT_MISMATCH
      else
        match deposit.status with
        | .PENDING => .PENDING
        | .VERIFIED => .VERIFIED

def anomalyFlags (bag : ManagerCashCustody) (linkedOrdersTotalMinor : ℤ)
    (deposit : Option BankDepositLog) : List FlowAnomaly :=
  (if bag.shiftId = none ∨ bag.shiftId = some "" then [.MISSING_SHIFT_LINK] else []) ++
  (if linkedOrdersTotalMinor ≠ bag.amountKd then [.CUSTODY_ORDER_AMOUNT_MISMATCH] else []) ++
  (if bag.status = .VERIFIED ∧ (∃ url ∈ bag.depositSlipUrl, url ≠ "") ∧ deposit = none then
    [.DEPOSIT_NOT_REGISTERED] else []) ++
  (if ∃ row ∈ deposit, row.amountKd ≠ bag.amountKd then [.DEPOSIT_AMOUNT_MISMATCH] else []) ++
  (if ∃ row ∈ deposit, row.status = .PENDING then [.DEPOSIT_PENDING_VERIFICATION] else [])

namespace DayLists

variable {book : DepositBook} (day : DayLists book)

def linkedOrders (bag : ManagerCashCustody) : List CashOrder :=
  day.orders.filter fun order => order.handoverShiftId ≠ none ∧ order.handoverShiftId = bag.shiftId

def shiftDeposit (bag : ManagerCashCustody) : Option BankDepositLog :=
  day.deposits.find? fun row => row.shiftId ≠ none ∧ row.shiftId = bag.shiftId

def depositFor (bag : ManagerCashCustody) : Option BankDepositLog :=
  ((book.bankDepositLog bag).or
    (day.deposits.find? fun row => row.managerCashCustodyId = some bag.id)).or (day.shiftDeposit bag)

def buildFlow (bag : ManagerCashCustody) : CashFlowControlDto :=
  let linkedOrdersTotalMinor := tally (fun order => order.totalPrice) (day.linkedOrders bag)
  let deposit := day.depositFor bag
  let flags := anomalyFlags bag linkedOrdersTotalMinor deposit
  { custodyId := bag.id
    shiftId := bag.shiftId
    custodyAmount := minorToFixed4 bag.amountKd
    linkedOrdersTotal := minorToFixed4 linkedOrdersTotalMinor
    depositId := deposit.map BankDepositLog.id
    depositStatus := flowDepositStatus bag.amountKd deposit
    auditComplete := flags = [] ∧ ∀ row ∈ deposit, row.status ≠ .VERIFIED ∨ row.verifiedAt ≠ none
    anomalyFlags := flags }

def buildFlows : List CashFlowControlDto := day.custodies.map day.buildFlow

end DayLists

def overallDepositStatus (flows : List CashFlowControlDto) : OverallDepositStatus :=
  match (flows.map CashFlowControlDto.depositStatus).eraseDups with
  | [] => .MISSING
  | [.MISSING] => .MISSING
  | [.PENDING] => .PENDING
  | [.VERIFIED] => .VERIFIED
  | _ => .MIXED

structure FlowsMatchOnce {book : DepositBook} (day : DayLists book) : Prop where
  deposits : (day.buildFlows.filterMap CashFlowControlDto.depositId).Nodup
  orders : (day.custodies.flatMap fun bag => (day.linkedOrders bag).map CashOrder.key).Nodup
  own : ∀ flow ∈ day.buildFlows, ∀ deposit ∈ book.deposits.rows, flow.depositId = some deposit.id →
      ∀ custodyId ∈ deposit.managerCashCustodyId, custodyId = flow.custodyId
  covers : (∀ flow ∈ day.buildFlows, flow.auditComplete = true) →
    ∀ flow ∈ day.buildFlows, ∃ deposit ∈ book.deposits.rows,
      flow.depositId = some deposit.id ∧ flow.custodyAmount = minorToFixed4 deposit.amountKd

def HasAnomaly {book : DepositBook} (day : DayLists book) (bag : ManagerCashCustody) : Prop :=
  bag.shiftId = none ∨ bag.shiftId = some "" ∨
    tally (fun order => order.totalPrice) (day.linkedOrders bag) ≠ bag.amountKd ∨
    match (book.bankDepositLog bag).or (day.shiftDeposit bag) with
    | none => bag.status = .VERIFIED ∧ ∃ url ∈ bag.depositSlipUrl, url ≠ ""
    | some row => row.amountKd ≠ bag.amountKd ∨ row.status = .PENDING ∨ row.verifiedAt = none

structure MatchesClearly {book : DepositBook} (day : DayLists book) : Prop where
  /-- What a bag without a deposit of its own finds by its shift is nobody's, and no other
  such bag finds it. -/
  fallback : ∀ bag ∈ day.custodies, book.bankDepositLog bag = none →
    ∀ row ∈ day.shiftDeposit bag, row.managerCashCustodyId = none ∧
      ∀ other ∈ day.custodies, book.bankDepositLog other = none → other.shiftId = bag.shiftId →
        other = bag
  shifts : ∀ order ∈ day.orders, order.handoverShiftId ≠ none →
    ∀ bag ∈ day.custodies, order.handoverShiftId = bag.shiftId →
      ∀ other ∈ day.custodies, order.handoverShiftId = other.shiftId → other = bag
  covered : ∀ bag ∈ day.custodies, book.bankDepositLog bag = none → day.shiftDeposit bag = none →
    ∃ other ∈ day.custodies, HasAnomaly day other

theorem nodup_filterMap_iff {α β : Type} {xs : List α} (hnodup : xs.Nodup) {f : α → Option β} :
    (xs.filterMap f).Nodup ↔
      ∀ a ∈ xs, ∀ b ∈ xs, ∀ v, f a = some v → f b = some v → a = b := by
  constructor
  · intro hmapped a ha b hb v hfa hfb
    by_contra hne
    have hpairs := pairwise_filterMap.1 hmapped
    have hsymm : Std.Symm fun a b => ∀ v, f a = some v → ∀ w, f b = some w → v ≠ w :=
      ⟨fun a b hab v hb w ha => (hab w ha v hb).symm⟩
    exact hpairs.forall ha hb hne v hfa v hfb rfl
  · intro hinj
    refine pairwise_filterMap.2 (hnodup.pairwise_of_forall_ne ?_)
    rintro a ha b hb hne v hfa w hfb rfl
    exact hne (hinj a ha b hb v hfa hfb)

namespace DepositBook

variable {book : DepositBook} {bag : ManagerCashCustody} {row : BankDepositLog}

theorem mem_of_bankDepositLog (hrow : book.bankDepositLog bag = some row) :
    row ∈ book.deposits.rows ∧ row.managerCashCustodyId = some bag.id :=
  ⟨mem_of_find?_eq_some hrow, of_decide_eq_true (List.find?_some hrow :)⟩

theorem bankDepositLog_eq_some_iff :
    book.bankDepositLog bag = some row ↔
      row ∈ book.deposits.rows ∧ row.managerCashCustodyId = some bag.id := by
  refine ⟨mem_of_bankDepositLog, ?_⟩
  rintro ⟨hrow, hlink⟩
  cases hlog : book.bankDepositLog bag with
  | none => exact absurd (decide_eq_true hlink) (List.find?_eq_none.1 hlog row hrow)
  | some other =>
      obtain ⟨hother, hotherLink⟩ := mem_of_bankDepositLog hlog
      have hinj := (nodup_filterMap_iff (List.Nodup.of_map _ book.deposits.keysDistinct)).1
        book.linksDistinct
      rw [hinj other hother row hrow bag.id hotherLink hlink]

end DepositBook

namespace DayLists

variable {book : DepositBook} {day : DayLists book} {bag other : ManagerCashCustody}
  {row : BankDepositLog}

theorem custodies_nodup (day : DayLists book) : day.custodies.Nodup :=
  List.Nodup.of_map _ day.custodiesDistinct

theorem bag_eq_of_id_eq (hbag : bag ∈ day.custodies) (hother : other ∈ day.custodies)
    (hid : bag.id = other.id) : bag = other :=
  inj_on_of_nodup_map day.custodiesDistinct hbag hother hid

theorem depositFor_eq (day : DayLists book) (bag : ManagerCashCustody) :
    day.depositFor bag = (book.bankDepositLog bag).or (day.shiftDeposit bag) := by
  unfold depositFor
  cases hlog : book.bankDepositLog bag with
  | some row => rfl
  | none =>
      have hnone : day.deposits.find? (fun row => row.managerCashCustodyId = some bag.id) = none := by
        rw [List.find?_eq_none]
        intro row hrow hlink
        have hown := DepositBook.bankDepositLog_eq_some_iff.2
          ⟨day.logged row hrow, of_decide_eq_true hlink⟩
        rw [hlog] at hown
        cases hown
      rw [hnone]
      rfl

theorem mem_of_shiftDeposit (hrow : day.shiftDeposit bag = some row) :
    row ∈ book.deposits.rows ∧ row.shiftId ≠ none ∧ row.shiftId = bag.shiftId :=
  ⟨day.logged row (mem_of_find?_eq_some hrow), of_decide_eq_true (List.find?_some hrow :)⟩

theorem mem_of_depositFor (hrow : day.depositFor bag = some row) : row ∈ book.deposits.rows := by
  rw [depositFor_eq, Option.or_eq_some_iff] at hrow
  rcases hrow with hown | ⟨-, hshift⟩
  · exact (DepositBook.mem_of_bankDepositLog hown).1
  · exact (mem_of_shiftDeposit hshift).1

theorem shiftDeposit_congr (hshift : other.shiftId = bag.shiftId) :
    day.shiftDeposit other = day.shiftDeposit bag := by
  unfold shiftDeposit
  rw [hshift]

theorem filterMap_depositId (day : DayLists book) :
    day.buildFlows.filterMap CashFlowControlDto.depositId =
      day.custodies.filterMap fun bag => (day.depositFor bag).map BankDepositLog.id := by
  unfold buildFlows
  rw [filterMap_map]
  rfl

theorem depositFor_of_id (hrow : row ∈ book.deposits.rows)
    (hid : (day.depositFor bag).map BankDepositLog.id = some row.id) : day.depositFor bag = some row := by
  obtain ⟨found, hfound, hsame⟩ := Option.map_eq_some_iff.1 hid
  rw [hfound, Table.row_eq_of_key_eq (mem_of_depositFor hfound) hrow hsame]

theorem anomalyFlags_eq_nil {total : ℤ} {deposit : Option BankDepositLog} :
    anomalyFlags bag total deposit = [] ↔
      ¬ (bag.shiftId = none ∨ bag.shiftId = some "") ∧ total = bag.amountKd ∧
        ¬ (bag.status = .VERIFIED ∧ (∃ url ∈ bag.depositSlipUrl, url ≠ "") ∧ deposit = none) ∧
        ∀ row ∈ deposit, row.amountKd = bag.amountKd ∧ row.status ≠ .PENDING := by
  have hnil : ∀ {p : Prop} [Decidable p] {flag : FlowAnomaly},
      (if p then [flag] else []) = [] ↔ ¬ p := by
    intro p _ flag
    by_cases hp : p <;> simp [hp]
  unfold anomalyFlags
  simp only [append_eq_nil_iff, hnil, ne_eq, not_not, and_assoc]
  refine and_congr_right fun _ => and_congr_right fun _ => and_congr_right fun _ => ?_
  cases deposit <;> simp

theorem auditComplete_iff : (day.buildFlow bag).auditComplete = true ↔ ¬ HasAnomaly day bag := by
  unfold buildFlow HasAnomaly
  simp only [decide_eq_true_eq, anomalyFlags_eq_nil, ← depositFor_eq]
  cases hdeposit : day.depositFor bag with
  | none => simp; tauto
  | some row =>
      cases hstatus : row.status with
      | PENDING => simp [hstatus]
      | VERIFIED => simp [hstatus]; tauto

theorem mem_linkedOrders {order : CashOrder} :
    order ∈ day.linkedOrders bag ↔ order ∈ day.orders ∧ order.handoverShiftId ≠ none ∧
      order.handoverShiftId = bag.shiftId := by
  simp [linkedOrders]

theorem nodup_linkedOrders_iff :
    (day.custodies.flatMap fun bag => (day.linkedOrders bag).map CashOrder.key).Nodup ↔
      ∀ order ∈ day.orders, order.handoverShiftId ≠ none →
        ∀ bag ∈ day.custodies, order.handoverShiftId = bag.shiftId →
          ∀ other ∈ day.custodies, order.handoverShiftId = other.shiftId → other = bag := by
  rw [nodup_flatMap]
  constructor
  · rintro ⟨-, hpairs⟩ order horder hshift bag hbag hbagShift other hother hotherShift
    by_contra hne
    have hsymm : Std.Symm (Function.onFun List.Disjoint fun bag =>
        (day.linkedOrders bag).map CashOrder.key) := ⟨fun _ _ hdisjoint => hdisjoint.symm⟩
    have hdisjoint := hpairs.forall hother hbag hne
    have hkey : ∀ bag : ManagerCashCustody, order.handoverShiftId = bag.shiftId →
        order.key ∈ (day.linkedOrders bag).map CashOrder.key := fun bag hbag =>
      mem_map_of_mem (mem_linkedOrders.2 ⟨horder, hshift, hbag⟩)
    exact hdisjoint (hkey other hotherShift) (hkey bag hbagShift)
  · intro hshifts
    refine ⟨fun bag _ => day.ordersDistinct.sublist (filter_sublist.map _), ?_⟩
    refine day.custodies_nodup.pairwise_of_forall_ne fun bag hbag other hother hne => ?_
    intro key hkey hkey'
    obtain ⟨order, horder, rfl⟩ := mem_map.1 hkey
    obtain ⟨order', horder', hsame⟩ := mem_map.1 hkey'
    obtain ⟨hmem, hshift, hbagShift⟩ := mem_linkedOrders.1 horder
    obtain ⟨hmem', -, hotherShift⟩ := mem_linkedOrders.1 horder'
    obtain rfl := inj_on_of_nodup_map day.ordersDistinct hmem' hmem hsame
    exact hne (hshifts order' hmem' hshift other hother hotherShift bag hbag hbagShift)

/-! ## When the flows match once -/

end DayLists

open DayLists

theorem MatchesClearly.flowsMatchOnce {book : DepositBook} {day : DayLists book}
    (hclear : MatchesClearly day) : FlowsMatchOnce day := by
  refine ⟨?_, nodup_linkedOrders_iff.2 hclear.shifts, ?_, ?_⟩
  · rw [filterMap_depositId, nodup_filterMap_iff day.custodies_nodup]
    intro bag hbag other hother id hid hid'
    obtain ⟨row, hrow, rfl⟩ := Option.map_eq_some_iff.1 hid
    have hrow' := depositFor_of_id (mem_of_depositFor hrow) hid'
    rw [depositFor_eq, Option.or_eq_some_iff] at hrow hrow'
    rcases hrow with hown | ⟨hnone, hshift⟩
    · have hlink := (DepositBook.mem_of_bankDepositLog hown).2
      rcases hrow' with hown' | ⟨hnone', hshift'⟩
      · rw [(DepositBook.mem_of_bankDepositLog hown').2, Option.some.injEq] at hlink
        exact (bag_eq_of_id_eq hother hbag hlink).symm
      · rw [(hclear.fallback other hother hnone' row hshift').1] at hlink
        cases hlink
    · obtain ⟨hlink, honly⟩ := hclear.fallback bag hbag hnone row hshift
      rcases hrow' with hown' | ⟨hnone', hshift'⟩
      · rw [(DepositBook.mem_of_bankDepositLog hown').2] at hlink
        cases hlink
      · have hsame := (mem_of_shiftDeposit hshift').2.2.symm.trans (mem_of_shiftDeposit hshift).2.2
        exact (honly other hother hnone' hsame).symm
  · intro flow hflow row hrow hid custodyId hlink
    obtain ⟨bag, hbag, rfl⟩ := mem_map.1 hflow
    have hfound := depositFor_of_id hrow hid
    rw [depositFor_eq, Option.or_eq_some_iff] at hfound
    rcases hfound with hown | ⟨hnone, hshift⟩
    · rw [(DepositBook.mem_of_bankDepositLog hown).2, Option.mem_some_iff] at hlink
      exact hlink.symm
    · rw [(hclear.fallback bag hbag hnone row hshift).1] at hlink
      cases hlink
  · intro hcomplete flow hflow
    obtain ⟨bag, hbag, rfl⟩ := mem_map.1 hflow
    cases hdeposit : day.depositFor bag with
    | none =>
        have hnone := hdeposit
        rw [depositFor_eq, Option.or_eq_none_iff] at hnone
        obtain ⟨other, hother, hanomaly⟩ := hclear.covered bag hbag hnone.1 hnone.2
        exact absurd hanomaly (auditComplete_iff.1 (hcomplete _ (mem_map_of_mem hother)))
    | some row =>
        refine ⟨row, mem_of_depositFor hdeposit, congrArg (Option.map BankDepositLog.id) hdeposit, ?_⟩
        have hclean := auditComplete_iff.1 (hcomplete _ hflow)
        unfold HasAnomaly at hclean
        rw [← depositFor_eq, hdeposit] at hclean
        push Not at hclean
        exact congrArg minorToFixed4 hclean.2.2.2.1.symm

theorem FlowsMatchOnce.matchesClearly {book : DepositBook} {day : DayLists book}
    (hmatch : FlowsMatchOnce day) : MatchesClearly day := by
  have hinj := hmatch.deposits
  rw [filterMap_depositId, nodup_filterMap_iff day.custodies_nodup] at hinj
  have hfalls : ∀ bag row, book.bankDepositLog bag = none → day.shiftDeposit bag = some row →
      day.depositFor bag = some row := by
    intro bag row hnone hshift
    rw [depositFor_eq, hnone, hshift]
    rfl
  refine ⟨?_, nodup_linkedOrders_iff.1 hmatch.orders, ?_⟩
  · intro bag hbag hnone row hrow
    have hfound := hfalls bag row hnone hrow
    refine ⟨?_, ?_⟩
    · by_contra hlinked
      obtain ⟨custodyId, hlink⟩ := Option.ne_none_iff_exists'.1 hlinked
      have hown := hmatch.own _ (mem_map_of_mem hbag) row (mem_of_depositFor hfound)
        (congrArg (Option.map BankDepositLog.id) hfound) custodyId hlink
      have hlog := DepositBook.bankDepositLog_eq_some_iff.2
        ⟨mem_of_depositFor hfound, hlink.trans (congrArg some hown)⟩
      exact absurd (hnone.symm.trans hlog) (by simp)
    · intro other hother hotherNone hshift
      have hotherFound := hfalls other row hotherNone ((shiftDeposit_congr hshift).trans hrow)
      exact hinj other hother bag hbag row.id (by rw [hotherFound]; rfl) (by rw [hfound]; rfl)
  · intro bag hbag hnone hshift
    by_contra hclean
    push Not at hclean
    have hcomplete : ∀ flow ∈ day.buildFlows, flow.auditComplete = true := by
      intro flow hflow
      obtain ⟨other, hother, rfl⟩ := mem_map.1 hflow
      exact auditComplete_iff.2 (hclean other hother)
    obtain ⟨row, -, hid, -⟩ := hmatch.covers hcomplete _ (mem_map_of_mem hbag)
    have hmissing : day.depositFor bag = none := by
      rw [depositFor_eq, hnone, hshift]
      rfl
    rw [show (day.buildFlow bag).depositId = (day.depositFor bag).map BankDepositLog.id from rfl,
      hmissing] at hid
    cases hid

theorem flowsMatchOnce_iff {book : DepositBook} (day : DayLists book) :
    FlowsMatchOnce day ↔ MatchesClearly day :=
  ⟨FlowsMatchOnce.matchesClearly, MatchesClearly.flowsMatchOnce⟩

namespace Sample

def shiftBag (id : Uuid) : ManagerCashCustody :=
  { id, managerId := "manager", driverId := "driver", branchId := some "branch"
    shiftId := some "shift", amountKd := 100000, settledOrderCount := 1, status := .VERIFIED
    receivedFromDriverAt := 1, slipUploadedAt := some 2, depositSlipUrl := some "slip.jpg"
    verifiedByAccountantId := some "accountant", verifiedAt := some 3
    rejectedByAccountantId := none, rejectedAt := none, rejectionReason := none, note := none }

def firstDeposit : BankDepositLog :=
  { id := "deposit", status := .VERIFIED, amountKd := 100000, receiptImageUrl := "slip.jpg"
    shiftId := some "shift", managerCashCustodyId := some "first", uploadedById := "manager"
    verifiedByAccountantId := some "accountant", verifiedAt := some 3, createdAt := 2 }

def oneDeposit : DepositBook := ⟨⟨[firstDeposit], by decide⟩, by decide⟩

def shiftOrder : CashOrder :=
  { order "order" with totalPrice := 100000, handoverShiftId := some "shift" }

def sharedShift : DayLists oneDeposit where
  custodies := [shiftBag "first", shiftBag "second"]
  orders := [shiftOrder]
  deposits := [firstDeposit]
  custodiesDistinct := by decide
  ordersDistinct := by decide
  logged := by decide

end Sample

/-- The deposit of the first bag makes the second look deposited, and both are complete. -/
example : Sample.sharedShift.buildFlows.map (fun flow => (flow.depositStatus, flow.auditComplete)) =
    [(.VERIFIED, true), (.VERIFIED, true)] := by decide

theorem flowsMatchOnce_fails : ¬ FlowsMatchOnce Sample.sharedShift := by
  intro hmatch
  exact absurd hmatch.deposits (by decide)

end SafariLaundry
