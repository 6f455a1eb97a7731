import SafariLaundry.EmployeeLoans
import SafariLaundry.GatewayText

/-!
# Holds on salaries for customer debt

A payroll first frees what the open debt of its employee no longer covers, then holds
that debt again, and takes along the manual holds that no payroll has yet.  A manual hold
on a saved payroll adds to the amount that was read from it.
-/

namespace SafariLaundry

open Library Library.Bookkeeping List

inductive DebtHoldStatus
  | HELD | RELEASED
  deriving DecidableEq

inductive DebtHoldMode
  | FULL | FIXED

structure DebtHold where
  (id employeeUserId : Uuid)
  payrollId : Option Uuid
  (debtAmount holdAmount releasedAmount : ℤ)
  status : DebtHoldStatus
  releaseDate : Option Timestamp
  note : String
  deriving DecidableEq

/-- The policy; its setter refuses a negative ceiling. -/
structure DebtHoldPolicy where
  isActive : Bool
  holdMode : DebtHoldMode
  fixedAmount : Option ℤ
  fixed_nonneg : ∀ amount ∈ fixedAmount, 0 ≤ amount

structure HoldPayroll where
  (id userId : Uuid)
  debtHoldAmount : ℤ
  deriving DecidableEq

structure HoldDb where
  holds : Table DebtHold.id
  payrolls : Table HoldPayroll.id
  /-- Not a table: the payroll ids that were written to holds, newest first. -/
  stamps : List (Uuid × Uuid)

def computeOpenDebtForEmployee (journalAsSource : Bool) (remaining : List ℤ) : ℤ :=
  if journalAsSource = true then tally id (remaining.filter fun rem => 0 < rem) else 0

structure HoldSnapshot where
  (debtAmount holdAmount : ℤ)
  holdMode : DebtHoldMode

def buildHoldSnapshotForPayroll (policy : DebtHoldPolicy) (debt : ℤ) : Option HoldSnapshot :=
  if policy.isActive = false then none
  else if debt ≤ 0 then none
  else
    some {
      debtAmount := debt
      holdAmount :=
        match policy.holdMode, policy.fixedAmount with
        | .FIXED, some ceiling => min debt ceiling
        | _, _ => debt
      holdMode := policy.holdMode }

structure HoldRelease where
  slip : DebtHold
  freeable : ℤ

namespace HoldRelease

def newReleased (release : HoldRelease) : ℤ := release.slip.releasedAmount + release.freeable

def written (now : Timestamp) (release : HoldRelease) (stored : DebtHold) : DebtHold :=
  { stored with
    releasedAmount := release.newReleased
    status := if release.slip.holdAmount ≤ release.newReleased then .RELEASED else .HELD
    releaseDate := if release.slip.holdAmount ≤ release.newReleased then some now else none }

theorem written_id (now : Timestamp) (release : HoldRelease) (stored : DebtHold) :
    (release.written now stored).id = stored.id := rfl

end HoldRelease

def settledSlips : ℤ → List DebtHold → List HoldRelease
  | _, [] => []
  | leftToCover, slip :: rest =>
      let remaining := slip.holdAmount - slip.releasedAmount
      if remaining ≤ 0 then settledSlips leftToCover rest
      else if remaining ≤ leftToCover then settledSlips (leftToCover - remaining) rest
      else ⟨slip, remaining - leftToCover⟩ :: settledSlips 0 rest

def DebtHold.tied (payrollId : Uuid) (slip : DebtHold) : DebtHold :=
  { slip with payrollId := some payrollId }

theorem DebtHold.tied_id (payrollId : Uuid) (slip : DebtHold) :
    (slip.tied payrollId).id = slip.id := rfl

namespace HoldDb

def heldSlips (userId : Uuid) (db : HoldDb) : List DebtHold :=
  db.holds.rows.filter fun slip => slip.employeeUserId = userId ∧ slip.status = .HELD

def untiedHolds (userId : Uuid) (db : HoldDb) : List DebtHold :=
  db.holds.rows.filter fun slip =>
    slip.employeeUserId = userId ∧ slip.status = .HELD ∧ slip.payrollId = none

def release (now : Timestamp) (releases : List HoldRelease) (db : HoldDb) : HoldDb :=
  { db with
    holds := releases.foldl (fun holds release =>
      holds.update release.slip.id (release.written now) (release.written_id now)) db.holds }

def createHold (keys : FreshKeys Uuid) (employeeUserId : Uuid) (payrollId : Option Uuid)
    (debtAmount holdAmount : ℤ) (note : String) (db : HoldDb) : HoldDb :=
  { db with
    holds := db.holds.insertNew keys
      (fun id => ⟨id, employeeUserId, payrollId, debtAmount, holdAmount, 0, .HELD, none, note⟩)
      fun _ => rfl
    stamps := (payrollId.map fun payroll =>
      (keys.draw (db.holds.rows.map DebtHold.id), payroll)).toList ++ db.stamps }

def stamp (ids : List Uuid) (payrollId : Uuid) (db : HoldDb) : HoldDb :=
  { db with
    holds := db.holds.updateWhere (fun slip => slip.id ∈ ids)
      (DebtHold.tied payrollId) (DebtHold.tied_id payrollId)
    stamps := ((db.holds.rows.filter fun slip => slip.id ∈ ids).map fun slip =>
      (slip.id, payrollId)) ++ db.stamps }

end HoldDb

/-! ## The operations -/

/-- A request to create a payroll, and what its transaction reads outside of these tables;
`collate` is `localeCompare`. -/
structure PayrollCut where
  keys : FreshKeys Uuid
  collate : Uuid → Uuid → Bool
  now : Timestamp
  actorRole : SafariRole
  userId : Uuid
  policy : DebtHoldPolicy
  journalAsSource : Bool
  (remainingAtRelease remainingAtSnapshot : List ℤ)

namespace PayrollCut

def releaseDebt (cut : PayrollCut) : ℤ :=
  computeOpenDebtForEmployee cut.journalAsSource cut.remainingAtRelease

def debt (cut : PayrollCut) : ℤ :=
  computeOpenDebtForEmployee cut.journalAsSource cut.remainingAtSnapshot

def releases (cut : PayrollCut) (seen : HoldDb) : List HoldRelease :=
  settledSlips cut.releaseDebt
    ((seen.heldSlips cut.userId).mergeSort fun first second => cut.collate first.id second.id)

def snapshot (cut : PayrollCut) : Option HoldSnapshot :=
  buildHoldSnapshotForPayroll cut.policy cut.debt

def autoHold (cut : PayrollCut) : ℤ :=
  match cut.snapshot with
  | some snapshot => snapshot.holdAmount
  | none => 0

def untied (cut : PayrollCut) (heldSeen untiedSeen : HoldDb) : List DebtHold :=
  (untiedSeen.release cut.now (cut.releases heldSeen)).untiedHolds cut.userId

def autoNote : DebtHoldMode → String
  | .FULL => "Auto-hold at payroll cut (FULL)"
  | .FIXED => "Auto-hold at payroll cut (FIXED)"

def persistHold (cut : PayrollCut) (payrollId : Uuid) (db : HoldDb) : HoldDb :=
  match cut.snapshot with
  | some snapshot =>
      db.createHold cut.keys cut.userId (some payrollId) snapshot.debtAmount
        snapshot.holdAmount (autoNote snapshot.holdMode)
  | none => db

def payroll (cut : PayrollCut) (untied : List DebtHold) (id : Uuid) : HoldPayroll :=
  ⟨id, cut.userId, cut.autoHold + tally DebtHold.holdAmount untied⟩

def payrollId (cut : PayrollCut) (db : HoldDb) : Uuid :=
  cut.keys.draw (db.payrolls.rows.map HoldPayroll.id)

def saved (cut : PayrollCut) (heldSeen untiedSeen db : HoldDb) : HoldDb :=
  { db.release cut.now (cut.releases heldSeen) with
    payrolls := db.payrolls.insertNew cut.keys
      (cut.payroll (cut.untied heldSeen untiedSeen)) fun _ => rfl }

def create (cut : PayrollCut) (heldSeen untiedSeen db : HoldDb) : Except ServiceError HoldDb :=
  if ¬ MayRunPayroll cut.actorRole then .error (.forbidden "Forbidden")
  else
    .ok ((cut.persistHold (cut.payrollId db) (cut.saved heldSeen untiedSeen db)).stamp
      ((cut.untied heldSeen untiedSeen).map DebtHold.id) (cut.payrollId db))

end PayrollCut

structure ManualHoldDto where
  employeeUserId : Uuid
  holdAmount : ℚ
  note : Option String
  payrollId : Option Uuid

namespace ManualHoldDto

/-- `new Prisma.Decimal(dto.holdAmount.toFixed(4))`, in minor units. -/
def amount (dto : ManualHoldDto) : ℤ := Decimal.roundHalfAway (dto.holdAmount * 10000)

def holdNote (dto : ManualHoldDto) : String :=
  (trimmed dto.note).getD "Manual hold (admin-initiated)"

end ManualHoldDto

def HoldPayroll.withHold (debtHoldAmount : ℤ) (payroll : HoldPayroll) : HoldPayroll :=
  { payroll with debtHoldAmount := debtHoldAmount }

theorem HoldPayroll.withHold_id (debtHoldAmount : ℤ) (payroll : HoldPayroll) :
    (payroll.withHold debtHoldAmount).id = payroll.id := rfl

def linkedHold (keys : FreshKeys Uuid) (dto : ManualHoldDto) (read : HoldPayroll)
    (db : HoldDb) : HoldDb :=
  { db.createHold keys dto.employeeUserId (some read.id) dto.amount dto.amount dto.holdNote with
    payrolls := db.payrolls.update read.id
      (HoldPayroll.withHold (read.debtHoldAmount + dto.amount)) (HoldPayroll.withHold_id _) }

def createManualHold (keys : FreshKeys Uuid) (actorRole : SafariRole) (dto : ManualHoldDto)
    (seen db : HoldDb) : Except ServiceError HoldDb :=
  if actorRole ≠ .OWNER then .error (.forbidden "Only OWNER may create manual holds")
  else if dto.holdAmount ≤ 0 then .error (.forbidden "holdAmount must be > 0")
  else
    match dto.payrollId with
    | none =>
        .ok (db.createHold keys dto.employeeUserId none dto.amount dto.amount dto.holdNote)
    | some payrollId =>
        match seen.payrolls.find? payrollId with
        | none => .error (.forbidden "Payroll not found")
        | some payroll =>
            if payroll.userId ≠ dto.employeeUserId then
              .error (.forbidden "Payroll does not belong to this employee")
            else
              .ok (linkedHold keys dto payroll db)

def DebtHold.freed (now : Timestamp) (holdAmount : ℤ) (slip : DebtHold) : DebtHold :=
  { slip with status := .RELEASED, releasedAmount := holdAmount, releaseDate := some now }

theorem DebtHold.freed_id (now : Timestamp) (holdAmount : ℤ) (slip : DebtHold) :
    (slip.freed now holdAmount).id = slip.id := rfl

def releaseManualHold (now : Timestamp) (actorRole : SafariRole) (id : Uuid)
    (seen db : HoldDb) : Except ServiceError HoldDb :=
  if actorRole ≠ .OWNER then .error (.forbidden "Only OWNER may release holds")
  else
    match seen.holds.find? id with
    | none => .error (.forbidden "Hold not found")
    | some row =>
        if row.status = .RELEASED then .ok db
        else
          .ok { db with
            holds := db.holds.update id (DebtHold.freed now row.holdAmount)
              (DebtHold.freed_id now _) }

variable {db : HoldDb} {userId : Uuid} {now : Timestamp} {releases : List HoldRelease}

def DebtHold.remaining (slip : DebtHold) : ℤ := slip.holdAmount - slip.releasedAmount

def withheld (userId : Uuid) (db : HoldDb) : ℤ :=
  tally (fun slip => if slip.employeeUserId = userId ∧ slip.status = .HELD then slip.remaining
    else 0) db.holds.rows

/-- No slip has given back more than it held. -/
def SlipsSound (db : HoldDb) : Prop :=
  ∀ slip ∈ db.holds.rows, 0 ≤ slip.releasedAmount ∧ slip.releasedAmount ≤ slip.holdAmount

def payrollCuts : Calls HoldDb PayrollCut where
  step := fun cut db =>
    match cut.create db db db with
    | .ok db' => db'
    | .error _ => db
  seen := fun _ => []

/-- A cut that goes through, with one open debt for what it frees and what it holds. -/
def PayrollCut.Made (cut : PayrollCut) : Prop :=
  MayRunPayroll cut.actorRole ∧ cut.remainingAtRelease = cut.remainingAtSnapshot

def PayrollCut.LeavesRoom (cut : PayrollCut) (db : HoldDb) : Prop :=
  cut.autoHold = 0 ∨ withheld cut.userId db + cut.autoHold ≤ cut.debt

theorem computeOpenDebtForEmployee_nonneg (journalAsSource : Bool) (remaining : List ℤ) :
    0 ≤ computeOpenDebtForEmployee journalAsSource remaining := by
  unfold computeOpenDebtForEmployee
  by_cases hsource : journalAsSource = true
  · rw [if_pos hsource]
    apply sum_nonneg
    intro rem hrem
    obtain ⟨open_, hopen, rfl⟩ := mem_map.1 hrem
    exact (of_decide_eq_true (mem_filter.1 hopen).2).le
  · rw [if_neg hsource]

theorem autoHold_bounds (cut : PayrollCut) : 0 ≤ cut.autoHold ∧ cut.autoHold ≤ cut.debt := by
  have hdebt : 0 ≤ cut.debt := computeOpenDebtForEmployee_nonneg _ _
  unfold PayrollCut.autoHold PayrollCut.snapshot buildHoldSnapshotForPayroll
  by_cases hactive : cut.policy.isActive = false
  · rw [if_pos hactive]
    exact ⟨le_rfl, hdebt⟩
  · rw [if_neg hactive]
    by_cases hnone : cut.debt ≤ 0
    · rw [if_pos hnone]
      exact ⟨le_rfl, hdebt⟩
    · rw [if_neg hnone]
      cases hmode : cut.policy.holdMode with
      | FULL => exact ⟨hdebt, le_rfl⟩
      | FIXED =>
          cases hfixed : cut.policy.fixedAmount with
          | none => exact ⟨hdebt, le_rfl⟩
          | some ceiling =>
              exact ⟨le_min hdebt (cut.policy.fixed_nonneg ceiling hfixed), min_le_left _ _⟩

/-! ## What a cut frees -/

theorem settledSlips_sublist (leftToCover : ℤ) (slips : List DebtHold) :
    ((settledSlips leftToCover slips).map HoldRelease.slip).Sublist slips := by
  induction slips generalizing leftToCover with
  | nil => exact List.Sublist.slnil
  | cons slip rest ih =>
      unfold settledSlips
      by_cases hnone : slip.holdAmount - slip.releasedAmount ≤ 0
      · simp only [if_pos hnone]
        exact (ih leftToCover).cons slip
      · by_cases hcovered : slip.holdAmount - slip.releasedAmount ≤ leftToCover
        · simp only [if_neg hnone, if_pos hcovered]
          exact (ih _).cons slip
        · simp only [if_neg hnone, if_neg hcovered]
          exact (ih 0).cons_cons slip

variable {leftToCover : ℤ}

theorem settledSlips_freeable {slips : List DebtHold} (hleft : 0 ≤ leftToCover)
    {release : HoldRelease} (hrelease : release ∈ settledSlips leftToCover slips) :
    0 ≤ release.freeable ∧ release.freeable ≤ release.slip.remaining := by
  induction slips generalizing leftToCover with
  | nil => cases hrelease
  | cons slip rest ih =>
      unfold settledSlips at hrelease
      by_cases hnone : slip.holdAmount - slip.releasedAmount ≤ 0
      · simp only [if_pos hnone] at hrelease
        exact ih hleft hrelease
      · by_cases hcovered : slip.holdAmount - slip.releasedAmount ≤ leftToCover
        · simp only [if_neg hnone, if_pos hcovered] at hrelease
          exact ih (by omega) hrelease
        · simp only [if_neg hnone, if_neg hcovered] at hrelease
          rcases mem_cons.1 hrelease with rfl | hrest
          · unfold DebtHold.remaining
            exact ⟨by dsimp only; omega, by dsimp only; omega⟩
          · exact ih le_rfl hrest

theorem tally_settledSlips {slips : List DebtHold} (hleft : 0 ≤ leftToCover)
    (hslips : ∀ slip ∈ slips, slip.releasedAmount ≤ slip.holdAmount) :
    tally HoldRelease.freeable (settledSlips leftToCover slips) =
      tally DebtHold.remaining slips - min (tally DebtHold.remaining slips) leftToCover := by
  have hnonneg : ∀ rest : List DebtHold, (∀ slip ∈ rest, slip.releasedAmount ≤ slip.holdAmount) →
      0 ≤ tally DebtHold.remaining rest := by
    intro rest hrest
    apply sum_nonneg
    intro amount hamount
    obtain ⟨slip, hslip, rfl⟩ := mem_map.1 hamount
    exact sub_nonneg.2 (hrest slip hslip)
  induction slips generalizing leftToCover with
  | nil =>
      change (0 : ℤ) = 0 - min 0 leftToCover
      omega
  | cons slip rest ih =>
      have hlater : ∀ other ∈ rest, other.releasedAmount ≤ other.holdAmount :=
        fun other hother => hslips other (mem_cons_of_mem slip hother)
      have hslip := hslips slip (mem_cons_self ..)
      have hrest := hnonneg rest hlater
      rw [tally_cons]
      unfold settledSlips
      by_cases hnone : slip.holdAmount - slip.releasedAmount ≤ 0
      · simp only [if_pos hnone]
        rw [ih hleft hlater]
        unfold DebtHold.remaining at hrest ⊢
        omega
      · by_cases hcovered : slip.holdAmount - slip.releasedAmount ≤ leftToCover
        · simp only [if_neg hnone, if_pos hcovered]
          rw [ih (by omega) hlater]
          unfold DebtHold.remaining at hrest ⊢
          omega
        · simp only [if_neg hnone, if_neg hcovered]
          rw [tally_cons, ih le_rfl hlater]
          unfold DebtHold.remaining at hrest ⊢
          dsimp only
          omega

theorem tally_freed (hleft : 0 ≤ leftToCover) (ahead : DebtHold → DebtHold → Bool)
    (hslips : ∀ slip ∈ db.heldSlips userId, slip.releasedAmount ≤ slip.holdAmount) :
    tally HoldRelease.freeable (settledSlips leftToCover ((db.heldSlips userId).mergeSort ahead)) =
      withheld userId db - min (withheld userId db) leftToCover := by
  have hsorted := mergeSort_perm (db.heldSlips userId) ahead
  have hheld : withheld userId db =
      tally DebtHold.remaining ((db.heldSlips userId).mergeSort ahead) := by
    rw [tally_perm _ hsorted]
    exact (tally_filter _ _ _).symm
  rw [hheld]
  apply tally_settledSlips hleft
  intro slip hslip
  exact hslips slip (hsorted.mem_iff.1 hslip)

structure Frees (userId : Uuid) (releases : List HoldRelease) (db : HoldDb) : Prop where
  distinct : (releases.map fun release => release.slip.id).Nodup
  stored : ∀ release ∈ releases, db.holds.find? release.slip.id = some release.slip
  held : ∀ release ∈ releases, release.slip.employeeUserId = userId ∧ release.slip.status = .HELD
  bounds : ∀ release ∈ releases, 0 ≤ release.freeable ∧ release.freeable ≤ release.slip.remaining

theorem Frees.tail {first : HoldRelease} (hfrees : Frees userId (first :: releases) db) :
    Frees userId releases (db.release now [first]) := by
  have hdistinct := hfrees.distinct
  rw [map_cons, nodup_cons] at hdistinct
  refine ⟨hdistinct.2, ?_, fun release hrelease => hfrees.held release (.tail _ hrelease),
    fun release hrelease => hfrees.bounds release (.tail _ hrelease)⟩
  intro release hrelease
  have hother : release.slip.id ≠ first.slip.id := by
    intro hsame
    exact hdistinct.1 (hsame ▸ mem_map_of_mem hrelease)
  change (db.holds.update first.slip.id (first.written now) (first.written_id now)).find? _ = _
  rw [Table.find?_update_of_ne db.holds _ _ hother]
  exact hfrees.stored release (.tail _ hrelease)

theorem withheld_release (hfrees : Frees userId releases db) :
    withheld userId (db.release now releases) =
      withheld userId db - tally HoldRelease.freeable releases := by
  induction releases generalizing db with
  | nil => exact (sub_zero _).symm
  | cons first rest ih =>
      have hstored := hfrees.stored first (mem_cons_self ..)
      have hheld := hfrees.held first (mem_cons_self ..)
      have hbounds := hfrees.bounds first (mem_cons_self ..)
      have hone := tally_update
        (fun slip => if slip.employeeUserId = userId ∧ slip.status = .HELD then slip.remaining
          else 0) (first.written_id now) hstored
      have hleft : (if (first.written now first.slip).employeeUserId = userId ∧
            (first.written now first.slip).status = .HELD then
          (first.written now first.slip).remaining else 0) =
          first.slip.remaining - first.freeable := by
        unfold HoldRelease.written HoldRelease.newReleased DebtHold.remaining at *
        by_cases hall : first.slip.holdAmount ≤ first.slip.releasedAmount + first.freeable
        · simp only [if_pos hall, reduceCtorEq, and_false, if_false]
          omega
        · simp only [if_neg hall, hheld.1, and_self, if_true]
          omega
      rw [if_pos hheld, hleft] at hone
      have hrest : withheld userId (db.release now (first :: rest)) =
          withheld userId (db.release now [first]) - tally HoldRelease.freeable rest :=
        ih hfrees.tail
      have hfirst : withheld userId (db.release now [first]) + first.slip.remaining =
          withheld userId db + (first.slip.remaining - first.freeable) := hone
      rw [hrest, tally_cons]
      omega

theorem SlipsSound.release (hsound : SlipsSound db) (hfrees : Frees userId releases db) :
    SlipsSound (db.release now releases) := by
  induction releases generalizing db with
  | nil => exact hsound
  | cons first rest ih =>
      have hnext : SlipsSound (db.release now [first]) := by
        intro slip hslip
        obtain ⟨old, hold, hwritten⟩ := mem_map.1 hslip
        by_cases hsame : old.id = first.slip.id
        · have hstored := hfrees.stored first (mem_cons_self ..)
          have hbounds := hfrees.bounds first (mem_cons_self ..)
          obtain rfl : old = first.slip :=
            Table.row_eq_of_key_eq hold (Table.mem_of_find? hstored) hsame
          have hbefore := hsound _ hold
          rw [if_pos hsame] at hwritten
          subst hwritten
          unfold HoldRelease.written HoldRelease.newReleased
          unfold DebtHold.remaining at hbounds
          exact ⟨by dsimp only; omega, by dsimp only; omega⟩
        · rw [if_neg hsame] at hwritten
          subst hwritten
          exact hsound _ hold
      exact ih hnext hfrees.tail

theorem frees_settledSlips (hleft : 0 ≤ leftToCover) (ahead : DebtHold → DebtHold → Bool) :
    Frees userId (settledSlips leftToCover ((db.heldSlips userId).mergeSort ahead)) db := by
  have hsorted : ((db.heldSlips userId).mergeSort ahead).Perm (db.heldSlips userId) :=
    mergeSort_perm _ _
  have hpart := settledSlips_sublist leftToCover ((db.heldSlips userId).mergeSort ahead)
  have hmem : ∀ release ∈ settledSlips leftToCover ((db.heldSlips userId).mergeSort ahead),
      release.slip ∈ db.heldSlips userId :=
    fun release hrelease => hsorted.mem_iff.1 (hpart.subset (mem_map_of_mem hrelease))
  refine ⟨?_, ?_, ?_, ?_⟩
  · have hheld : ((db.heldSlips userId).map DebtHold.id).Nodup :=
      db.holds.keysDistinct.sublist (filter_sublist.map _)
    have hids := (hsorted.map DebtHold.id).nodup_iff.2 hheld
    have hreleased := hids.sublist (hpart.map DebtHold.id)
    rwa [map_map] at hreleased
  · intro release hrelease
    exact Table.find?_of_mem (mem_filter.1 (hmem release hrelease)).1
  · intro release hrelease
    exact of_decide_eq_true (mem_filter.1 (hmem release hrelease)).2
  · intro release hrelease
    exact settledSlips_freeable hleft hrelease

theorem frees_releases {cut : PayrollCut} : Frees cut.userId (cut.releases db) db :=
  frees_settledSlips (computeOpenDebtForEmployee_nonneg _ _) _

/-! ## What a cut holds -/

theorem withheld_persistHold (cut : PayrollCut) (payrollId : Uuid) :
    withheld cut.userId (cut.persistHold payrollId db) =
      withheld cut.userId db + cut.autoHold := by
  unfold PayrollCut.persistHold PayrollCut.autoHold
  cases cut.snapshot with
  | none => exact (add_zero _).symm
  | some snapshot =>
      unfold withheld HoldDb.createHold Table.insertNew
      rw [tally_append, tally_cons, tally_nil, if_pos ⟨rfl, rfl⟩]
      change _ + (snapshot.holdAmount - 0 + 0) = _ + snapshot.holdAmount
      rw [sub_zero, add_zero]

theorem withheld_stamp (ids : List Uuid) (payrollId : Uuid) :
    withheld userId (db.stamp ids payrollId) = withheld userId db := by
  unfold withheld HoldDb.stamp
  rw [Table.rows_updateWhere, tally_map]
  apply tally_congr
  intro slip _
  by_cases hmem : slip.id ∈ ids
  · rw [if_pos hmem]
    rfl
  · rw [if_neg hmem]

theorem SlipsSound.persistHold {cut : PayrollCut} {payrollId : Uuid} (hsound : SlipsSound db) :
    SlipsSound (cut.persistHold payrollId db) := by
  have hbounds := autoHold_bounds cut
  unfold PayrollCut.persistHold
  unfold PayrollCut.autoHold at hbounds
  cases hsnapshot : cut.snapshot with
  | none => exact hsound
  | some snapshot =>
      rw [hsnapshot] at hbounds
      intro slip hslip
      rcases mem_append.1 hslip with hold | hnew
      · exact hsound slip hold
      · obtain rfl := mem_singleton.1 hnew
        exact ⟨le_rfl, hbounds.1⟩

theorem SlipsSound.stamp {ids : List Uuid} {payrollId : Uuid} (hsound : SlipsSound db) :
    SlipsSound (db.stamp ids payrollId) := by
  intro slip hslip
  obtain ⟨old, hold, hstamped⟩ := mem_map.1 hslip
  by_cases hmem : old.id ∈ ids
  · rw [if_pos hmem] at hstamped
    subst hstamped
    exact hsound old hold
  · rw [if_neg hmem] at hstamped
    subst hstamped
    exact hsound old hold

theorem PayrollCut.Made.spec {cut : PayrollCut} (hmade : cut.Made) (hsound : SlipsSound db) :
    SlipsSound (payrollCuts.step cut db) ∧ withheld cut.userId (payrollCuts.step cut db) =
        min (withheld cut.userId db) cut.debt + cut.autoHold := by
  have hfrees : Frees cut.userId (cut.releases db) db := frees_releases
  have hstep : payrollCuts.step cut db = (cut.persistHold (cut.payrollId db)
      (cut.saved db db db)).stamp ((cut.untied db db).map DebtHold.id) (cut.payrollId db) := by
    unfold payrollCuts PayrollCut.create
    simp only [if_neg (not_not.2 hmade.1)]
  have hdebt : cut.releaseDebt = cut.debt := by
    unfold PayrollCut.releaseDebt PayrollCut.debt
    rw [hmade.2]
  have hsaved : SlipsSound (cut.saved db db db) := hsound.release hfrees
  have hfreed : withheld cut.userId (cut.saved db db db) =
      withheld cut.userId db - tally HoldRelease.freeable (cut.releases db) :=
    withheld_release hfrees
  have hkept : tally HoldRelease.freeable (cut.releases db) =
      withheld cut.userId db - min (withheld cut.userId db) cut.releaseDebt := by
    apply tally_freed (computeOpenDebtForEmployee_nonneg _ _)
    intro slip hslip
    exact (hsound slip (mem_filter.1 hslip).1).2
  rw [hstep]
  refine ⟨hsaved.persistHold.stamp, ?_⟩
  rw [withheld_stamp, withheld_persistHold, hfreed, hkept, hdebt]
  omega

/-- Over every sequence of cuts, each leaves withheld from its employee no more than the open
debt exactly if each leaves room for its new slip. -/
theorem withheld_le_debt_iff {start : HoldDb} {cuts : List PayrollCut} {trace : List HoldDb}
    (hsound : SlipsSound start)
    (hlog : payrollCuts.Log (fun cut _ => cut.Made) start cuts trace) (userId : Uuid) :
    (∀ found ∈ Calls.occurrences cuts trace, found.1.userId = userId →
        withheld userId (payrollCuts.step found.1 found.2) ≤ found.1.debt) ↔
      ∀ found ∈ Calls.occurrences cuts trace, found.1.userId = userId →
        found.1.LeavesRoom found.2 := by
  have hkept := (hlog.of_invariant hsound fun cut db hbefore _ hmade =>
    (hmade.spec hbefore).1).1
  have hone : ∀ cut db, cut.Made ∧ SlipsSound db ∧ (∀ seen ∈ payrollCuts.seen cut,
      SlipsSound seen) → (withheld cut.userId (payrollCuts.step cut db) ≤ cut.debt ↔
        cut.LeavesRoom db) := by
    rintro cut db ⟨hmade, hbefore, _⟩
    have hbounds := autoHold_bounds cut
    rw [(hmade.spec hbefore).2]
    unfold PayrollCut.LeavesRoom
    omega
  have hall := hkept.forall_occurrences hone
  constructor
  · intro hright found hfound howner
    apply (hall found hfound).1
    rw [howner]
    exact hright found hfound howner
  · intro hroom found hfound howner
    rw [← howner]
    exact (hall found hfound).2 (hroom found hfound howner)

namespace Sample

def fullPolicy : DebtHoldPolicy := ⟨true, .FULL, none, fun _ hnone => nomatch hnone⟩

def driverCut : PayrollCut where
  keys := .text
  collate := fun first second => first ≤ second
  now := 0
  actorRole := .OWNER
  userId := "driver"
  policy := fullPolicy
  journalAsSource := true
  remainingAtRelease := [100000]
  remainingAtSnapshot := [100000]

def noHolds : HoldDb := ⟨.empty, .empty, []⟩

theorem driverCut_made : driverCut.Made := ⟨.inl rfl, rfl⟩

theorem driverCut_log : payrollCuts.Log (fun cut _ => cut.Made) noHolds [driverCut]
    [payrollCuts.step driverCut noHolds, noHolds] :=
  .call driverCut .start (fun _ hseen => absurd hseen not_mem_nil) driverCut_made

end Sample

theorem withheld_le_debt_iff_sample :
    withheld "driver" (payrollCuts.step Sample.driverCut Sample.noHolds) ≤ 100000 := by
  apply (withheld_le_debt_iff (fun _ hslip => absurd hslip not_mem_nil)
    Sample.driverCut_log "driver").2 _ (Sample.driverCut, Sample.noHolds)
    (mem_cons_self ..) rfl
  intro found hfound _
  obtain rfl := mem_singleton.1 hfound
  exact .inr (by decide)

/-- The debt stands still over two cuts, and the second holds it again. -/
theorem withheld_le_debt_fails :
    ¬ ∀ (start : HoldDb) (cuts : List PayrollCut) (trace : List HoldDb) (userId : Uuid),
      SlipsSound start → payrollCuts.Log (fun cut _ => cut.Made) start cuts trace →
      ∀ found ∈ Calls.occurrences cuts trace, found.1.userId = userId →
        withheld userId (payrollCuts.step found.1 found.2) ≤ found.1.debt := by
  intro hall
  have htwice : withheld "driver" (payrollCuts.step Sample.driverCut
      (payrollCuts.step Sample.driverCut Sample.noHolds)) ≤ 100000 :=
    hall _ _ _ "driver" (fun _ hslip => absurd hslip not_mem_nil)
      (.call Sample.driverCut Sample.driverCut_log
        (fun _ hseen => absurd hseen not_mem_nil) Sample.driverCut_made)
      (Sample.driverCut, payrollCuts.step Sample.driverCut Sample.noHolds)
      (mem_cons_self ..) rfl
  revert htwice
  decide +kernel

end SafariLaundry
