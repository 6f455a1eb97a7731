import SafariLaundry.DebtHolds

/-!
# Payrolls and the holds stamped with them

A payroll sums the holds that it found untied and stamps them by their ids later; a manual
hold adds to the amount of the payroll that it read.  Two cuts can stamp one hold, and two
manual holds can write one amount.
-/

namespace SafariLaundry

open Library Library.Bookkeeping List

variable {db : HoldDb} {userId : Uuid} {now : Timestamp} {releases : List HoldRelease}

inductive HoldCall
  | create (cut : PayrollCut) (heldSeen untiedSeen : HoldDb)
  | createManual (keys : FreshKeys Uuid) (actorRole : SafariRole) (dto : ManualHoldDto)
      (seen : HoldDb)
  | releaseManual (now : Timestamp) (actorRole : SafariRole) (id : Uuid) (seen : HoldDb)

namespace HoldCall

def result : HoldCall → HoldDb → Except ServiceError HoldDb
  | .create cut heldSeen untiedSeen => cut.create heldSeen untiedSeen
  | .createManual keys actorRole dto seen => createManualHold keys actorRole dto seen
  | .releaseManual now actorRole id seen => releaseManualHold now actorRole id seen

def reads : HoldCall → List HoldDb
  | .create _ heldSeen untiedSeen => [heldSeen, untiedSeen]
  | .createManual _ _ _ seen => [seen]
  | .releaseManual _ _ _ seen => [seen]

end HoldCall

def holdCalls : Calls HoldDb HoldCall where
  step := fun call db =>
    match call.result db with
    | .ok db' => db'
    | .error _ => db
  seen := HoldCall.reads

def stampedTotal (payrollId : Uuid) (db : HoldDb) : ℤ :=
  tally (fun slip => if slip.payrollId = some payrollId then slip.holdAmount else 0)
    db.holds.rows

def StampedOnce (db : HoldDb) : Prop :=
  ∀ stamp ∈ db.stamps, ∀ other ∈ db.stamps, other.1 = stamp.1 → other.2 = stamp.2

structure HoldsAgree (db : HoldDb) : Prop where
  amounts : ∀ payroll ∈ db.payrolls.rows, payroll.debtHoldAmount = stampedTotal payroll.id db
  once : StampedOnce db

structure StampsLinked (db : HoldDb) : Prop where
  stamped : ∀ slip ∈ db.holds.rows, ∀ payrollId, slip.payrollId = some payrollId →
    (slip.id, payrollId) ∈ db.stamps ∧ payrollId ∈ db.payrolls.rows.map HoldPayroll.id
  kept : ∀ stamp ∈ db.stamps, ∃ slip ∈ db.holds.rows,
    slip.id = stamp.1 ∧ slip.payrollId = some stamp.2

def HoldCall.ReadsTheLatest (db : HoldDb) : HoldCall → Prop
  | .create cut heldSeen untiedSeen => MayRunPayroll cut.actorRole →
      ∀ slip ∈ db.holds.rows, slip.id ∈ (cut.untied heldSeen untiedSeen).map DebtHold.id →
        slip.payrollId = none
  | .createManual _ actorRole dto seen => actorRole = .OWNER → 0 < dto.holdAmount →
      ∀ payrollId, dto.payrollId = some payrollId →
        ∀ read, seen.payrolls.find? payrollId = some read → read.userId = dto.employeeUserId →
          ∀ stored, db.payrolls.find? payrollId = some stored →
            stored.debtHoldAmount = read.debtHoldAmount
  | .releaseManual _ _ _ _ => True

def DebtHold.bond (slip : DebtHold) : Uuid × Option Uuid × ℤ :=
  (slip.id, slip.payrollId, slip.holdAmount)

/-- Only what is given back has changed. -/
structure SameBonds (before after : HoldDb) : Prop where
  bonds : after.holds.rows.map DebtHold.bond = before.holds.rows.map DebtHold.bond
  payrolls : after.payrolls = before.payrolls
  stamps : after.stamps = before.stamps

theorem SameBonds.release (now : Timestamp) (releases : List HoldRelease) (db : HoldDb) :
    SameBonds db (db.release now releases) := by
  induction releases generalizing db with
  | nil => exact ⟨rfl, rfl, rfl⟩
  | cons first rest ih =>
      have hrest := ih (db.release now [first])
      have hfirst : (db.release now [first]).holds.rows.map DebtHold.bond =
          db.holds.rows.map DebtHold.bond :=
        @Table.view_updateWhere _ _ _ DebtHold.id db.holds DebtHold.bond
          (fun slip => slip.id = first.slip.id) _ (first.written now) (first.written_id now)
          fun _ => rfl
      exact ⟨hrest.bonds.trans hfirst, hrest.payrolls, hrest.stamps⟩

namespace SameBonds

variable {after : HoldDb}

theorem symm (hsame : SameBonds db after) : SameBonds after db :=
  ⟨hsame.bonds.symm, hsame.payrolls.symm, hsame.stamps.symm⟩

theorem exists_mem (hsame : SameBonds db after) {slip : DebtHold}
    (hslip : slip ∈ after.holds.rows) : ∃ old ∈ db.holds.rows, old.bond = slip.bond := by
  apply mem_map.1
  rw [← hsame.bonds]
  exact mem_map_of_mem hslip

theorem stampedTotal (hsame : SameBonds db after) (payrollId : Uuid) :
    stampedTotal payrollId after = stampedTotal payrollId db := by
  have hbond : ∀ rows : List DebtHold,
      tally (fun slip => if slip.payrollId = some payrollId then slip.holdAmount else 0) rows =
        tally (fun bond : Uuid × Option Uuid × ℤ =>
          if bond.2.1 = some payrollId then bond.2.2 else 0) (rows.map DebtHold.bond) := by
    intro rows
    rw [tally_map]
    rfl
  unfold SafariLaundry.stampedTotal
  rw [hbond, hbond, hsame.bonds]

theorem agree (hsame : SameBonds db after) (hagree : HoldsAgree db) : HoldsAgree after := by
  constructor
  · intro payroll hpayroll
    rw [hsame.stampedTotal]
    exact hagree.amounts payroll (hsame.payrolls ▸ hpayroll)
  · unfold StampedOnce
    rw [hsame.stamps]
    exact hagree.once

theorem linked (hsame : SameBonds db after) (hlinked : StampsLinked db) : StampsLinked after := by
  constructor
  · intro slip hslip payrollId hstamped
    obtain ⟨old, hold, hbond⟩ := hsame.exists_mem hslip
    have hid : old.id = slip.id := congrArg Prod.fst hbond
    have hpayroll : old.payrollId = slip.payrollId := congrArg (fun bond => bond.2.1) hbond
    rw [hsame.stamps, hsame.payrolls, ← hid]
    exact hlinked.stamped old hold payrollId (hpayroll.trans hstamped)
  · intro stamp hstamp
    rw [hsame.stamps] at hstamp
    obtain ⟨old, hold, hid, hpayroll⟩ := hlinked.kept stamp hstamp
    obtain ⟨slip, hslip, hbond⟩ := hsame.symm.exists_mem hold
    exact ⟨slip, hslip, (congrArg Prod.fst hbond).trans hid,
      (congrArg (fun bond => bond.2.1) hbond).trans hpayroll⟩

end SameBonds

structure HoldsPersist (before after : HoldDb) : Prop where
  holds : ∀ slip ∈ before.holds.rows, ∃ later ∈ after.holds.rows,
    later.id = slip.id ∧ later.holdAmount = slip.holdAmount
  payrolls : ∀ payroll ∈ before.payrolls.rows, payroll.id ∈ after.payrolls.rows.map HoldPayroll.id

instance : Std.Refl HoldsPersist where
  refl _ := ⟨fun slip hslip => ⟨slip, hslip, rfl, rfl⟩,
    fun _ hpayroll => mem_map_of_mem hpayroll⟩

instance : IsTrans HoldDb HoldsPersist where
  trans _ _ _ hfirst hsecond := by
    constructor
    · intro slip hslip
      obtain ⟨later, hlater, hid, hamount⟩ := hfirst.holds slip hslip
      obtain ⟨last, hlast, hid', hamount'⟩ := hsecond.holds later hlater
      exact ⟨last, hlast, hid'.trans hid, hamount'.trans hamount⟩
    · intro payroll hpayroll
      obtain ⟨later, hlater, hid⟩ := mem_map.1 (hfirst.payrolls payroll hpayroll)
      rw [← hid]
      exact hsecond.payrolls later hlater

theorem SameBonds.persist {after : HoldDb} (hsame : SameBonds db after) :
    HoldsPersist db after := by
  constructor
  · intro slip hslip
    obtain ⟨later, hlater, hbond⟩ := hsame.symm.exists_mem hslip
    exact ⟨later, hlater, congrArg Prod.fst hbond, congrArg (fun bond => bond.2.2) hbond⟩
  · intro payroll hpayroll
    rw [hsame.payrolls]
    exact mem_map_of_mem hpayroll

/-! ## New holds and stamps -/

section Writes

variable {keys : FreshKeys Uuid} {payroll : Option Uuid} {debtAmount holdAmount : ℤ}
  {note : String} {ids : List Uuid} {payrollId : Uuid}

theorem stampedTotal_createHold (payrollId : Uuid) :
    stampedTotal payrollId (db.createHold keys userId payroll debtAmount holdAmount note) =
      stampedTotal payrollId db + if payroll = some payrollId then holdAmount else 0 := by
  unfold stampedTotal HoldDb.createHold Table.insertNew
  rw [tally_append, tally_cons, tally_nil, add_zero]

theorem HoldsPersist.createHold :
    HoldsPersist db (db.createHold keys userId payroll debtAmount holdAmount note) :=
  ⟨fun slip hslip => ⟨slip, mem_append_left _ hslip, rfl, rfl⟩,
    fun _ hpayroll => mem_map_of_mem hpayroll⟩

theorem StampsLinked.createHold (hlinked : StampsLinked db)
    (hpayroll : ∀ payrollId, payroll = some payrollId →
      payrollId ∈ db.payrolls.rows.map HoldPayroll.id) :
    StampsLinked (db.createHold keys userId payroll debtAmount holdAmount note) := by
  constructor
  · intro slip hslip payrollId hstamped
    rcases mem_append.1 hslip with hold | hnew
    · have hbefore := hlinked.stamped slip hold payrollId hstamped
      exact ⟨mem_append_right _ hbefore.1, hbefore.2⟩
    · obtain rfl := mem_singleton.1 hnew
      change payroll = some payrollId at hstamped
      subst hstamped
      exact ⟨mem_cons_self .., hpayroll payrollId rfl⟩
  · intro stamp hstamp
    rcases mem_append.1 hstamp with hnew | hold
    · cases payroll with
      | none => cases hnew
      | some payrollId =>
          obtain rfl := mem_singleton.1 hnew
          exact ⟨_, mem_append_right _ (mem_singleton_self _), rfl, rfl⟩
    · obtain ⟨slip, hslip, hbefore⟩ := hlinked.kept stamp hold
      exact ⟨slip, mem_append_left _ hslip, hbefore⟩

theorem StampedOnce.createHold (hlinked : StampsLinked db) (honce : StampedOnce db) :
    StampedOnce (db.createHold keys userId payroll debtAmount holdAmount note) := by
  have hfresh : ∀ stamp ∈ db.stamps, stamp.1 ≠ keys.draw (db.holds.rows.map DebtHold.id) := by
    intro stamp hstamp hsame
    obtain ⟨slip, hslip, hid, _⟩ := hlinked.kept stamp hstamp
    apply keys.draw_fresh (db.holds.rows.map DebtHold.id)
    rw [← hsame, ← hid]
    exact mem_map_of_mem hslip
  cases payroll with
  | none => exact honce
  | some payrollId =>
      intro stamp hstamp other hother hsame
      rcases mem_cons.1 hstamp with rfl | hold
      · rcases mem_cons.1 hother with rfl | hold'
        · rfl
        · exact absurd hsame (hfresh other hold')
      · rcases mem_cons.1 hother with rfl | hold'
        · exact absurd hsame.symm (hfresh stamp hold)
        · exact honce stamp hold other hold' hsame

theorem HoldsPersist.stamp : HoldsPersist db (db.stamp ids payrollId) := by
  constructor
  · intro slip hslip
    refine ⟨_, mem_map_of_mem hslip, ?_⟩
    by_cases hmem : slip.id ∈ ids
    · rw [if_pos hmem]
      exact ⟨rfl, rfl⟩
    · rw [if_neg hmem]
      exact ⟨rfl, rfl⟩
  · intro payroll hpayroll
    exact mem_map_of_mem hpayroll

theorem stampedTotal_stamp
    (hfree : ∀ slip ∈ db.holds.rows, slip.id ∈ ids → slip.payrollId = none) (other : Uuid) :
    stampedTotal other (db.stamp ids payrollId) = stampedTotal other db + if payrollId = other then
        tally (fun slip => if slip.id ∈ ids then slip.holdAmount else 0) db.holds.rows
      else 0 := by
  have hrow : ∀ slip ∈ db.holds.rows,
      (if (if slip.id ∈ ids then slip.tied payrollId else slip).payrollId = some other then
        (if slip.id ∈ ids then slip.tied payrollId else slip).holdAmount else 0) =
        (if slip.payrollId = some other then slip.holdAmount else 0) +
          if payrollId = other ∧ slip.id ∈ ids then slip.holdAmount else 0 := by
    intro slip hslip
    by_cases hmem : slip.id ∈ ids
    · have hnone := hfree slip hslip hmem
      rw [if_pos hmem, hnone]
      simp only [DebtHold.tied, reduceCtorEq, if_false, zero_add, Option.some.injEq, hmem, and_true]
    · simp only [hmem, and_false, if_false, add_zero]
  unfold stampedTotal HoldDb.stamp
  rw [Table.rows_updateWhere, tally_map, tally_congr _ hrow]
  by_cases hsame : payrollId = other
  · simp only [hsame, true_and, if_true]
    unfold tally
    rw [← sum_map_add]
  · simp only [hsame, false_and, if_false, add_zero]

theorem StampsLinked.stamp (hlinked : StampsLinked db)
    (hfree : ∀ slip ∈ db.holds.rows, slip.id ∈ ids → slip.payrollId = none)
    (hpayroll : payrollId ∈ db.payrolls.rows.map HoldPayroll.id) :
    StampsLinked (db.stamp ids payrollId) := by
  constructor
  · intro slip hslip other hstamped
    obtain ⟨old, hold, hwritten⟩ := mem_map.1 hslip
    by_cases hmem : old.id ∈ ids
    · rw [if_pos hmem] at hwritten
      subst hwritten
      obtain rfl := Option.some.inj hstamped
      refine ⟨mem_append_left _ (mem_map.2 ⟨old, ?_, rfl⟩), hpayroll⟩
      exact mem_filter.2 ⟨hold, decide_eq_true hmem⟩
    · rw [if_neg hmem] at hwritten
      subst hwritten
      have hbefore := hlinked.stamped old hold other hstamped
      exact ⟨mem_append_right _ hbefore.1, hbefore.2⟩
  · intro stamp hstamp
    rcases mem_append.1 hstamp with hnew | hold
    · obtain ⟨slip, hslip, rfl⟩ := mem_map.1 hnew
      obtain ⟨hstored, hmem⟩ := mem_filter.1 hslip
      refine ⟨_, mem_map_of_mem hstored, ?_⟩
      rw [if_pos (of_decide_eq_true hmem)]
      exact ⟨rfl, rfl⟩
    · obtain ⟨slip, hslip, hid, hstamped⟩ := hlinked.kept stamp hold
      have hout : slip.id ∉ ids := by
        intro hmem
        rw [hfree slip hslip hmem] at hstamped
        cases hstamped
      refine ⟨_, mem_map_of_mem hslip, ?_⟩
      rw [if_neg hout]
      exact ⟨hid, hstamped⟩

theorem StampedOnce.stamp (hlinked : StampsLinked db) (honce : StampedOnce db)
    (hfree : ∀ slip ∈ db.holds.rows, slip.id ∈ ids → slip.payrollId = none) :
    StampedOnce (db.stamp ids payrollId) := by
  have hapart : ∀ slip ∈ db.holds.rows.filter fun slip => slip.id ∈ ids,
      ∀ stamp ∈ db.stamps, stamp.1 ≠ slip.id := by
    intro slip hslip stamp hstamp hsame
    obtain ⟨hstored, hmem⟩ := mem_filter.1 hslip
    obtain ⟨old, hold, hid, hstamped⟩ := hlinked.kept stamp hstamp
    obtain rfl := Table.row_eq_of_key_eq hold hstored (hid.trans hsame)
    rw [hfree old hold (of_decide_eq_true hmem)] at hstamped
    cases hstamped
  intro stamp hstamp other hother hsame
  rcases mem_append.1 hstamp with hnew | hold
  · obtain ⟨slip, hslip, rfl⟩ := mem_map.1 hnew
    rcases mem_append.1 hother with hnew' | hold'
    · obtain ⟨slip', _, rfl⟩ := mem_map.1 hnew'
      rfl
    · exact absurd hsame (hapart slip hslip other hold')
  · rcases mem_append.1 hother with hnew' | hold'
    · obtain ⟨slip', hslip', rfl⟩ := mem_map.1 hnew'
      exact absurd hsame.symm (hapart slip' hslip' stamp hold)
    · exact honce stamp hold other hold' hsame

end Writes

/-! ## Payroll cuts -/

section Cuts

variable {cut : PayrollCut} {heldSeen untiedSeen : HoldDb}

theorem stampedTotal_persistHold (payrollId other : Uuid) :
    stampedTotal other (cut.persistHold payrollId db) =
      stampedTotal other db + if payrollId = other then cut.autoHold else 0 := by
  unfold PayrollCut.persistHold PayrollCut.autoHold
  cases cut.snapshot with
  | none =>
      simp only [ite_self, add_zero]
  | some snapshot =>
      simp only [stampedTotal_createHold, Option.some.injEq]

theorem HoldsPersist.persistHold (payrollId : Uuid) :
    HoldsPersist db (cut.persistHold payrollId db) := by
  unfold PayrollCut.persistHold
  cases cut.snapshot with
  | none => exact Std.Refl.refl db
  | some snapshot => exact .createHold

theorem persistHold_linked {payrollId : Uuid} (hlinked : StampsLinked db)
    (honce : StampedOnce db) (hpayroll : payrollId ∈ db.payrolls.rows.map HoldPayroll.id) :
    StampsLinked (cut.persistHold payrollId db) ∧ StampedOnce (cut.persistHold payrollId db) ∧
      (cut.persistHold payrollId db).payrolls = db.payrolls := by
  unfold PayrollCut.persistHold
  cases cut.snapshot with
  | none => exact ⟨hlinked, honce, rfl⟩
  | some snapshot =>
      refine ⟨hlinked.createHold ?_, honce.createHold hlinked, rfl⟩
      intro other hother
      rwa [← Option.some.inj hother]

theorem mem_persistHold {payrollId : Uuid} {slip : DebtHold}
    (hslip : slip ∈ (cut.persistHold payrollId db).holds.rows) :
    slip ∈ db.holds.rows ∨ slip.id ∉ db.holds.rows.map DebtHold.id := by
  unfold PayrollCut.persistHold at hslip
  cases hsnapshot : cut.snapshot with
  | none =>
      rw [hsnapshot] at hslip
      exact .inl hslip
  | some snapshot =>
      rw [hsnapshot] at hslip
      rcases mem_append.1 hslip with hold | hnew
      · exact .inl hold
      · obtain rfl := mem_singleton.1 hnew
        exact .inr (cut.keys.draw_fresh _)

theorem payrollId_fresh : cut.payrollId db ∉ db.payrolls.rows.map HoldPayroll.id :=
  cut.keys.draw_fresh _

theorem mem_saved_payrolls {payroll : HoldPayroll} :
    payroll ∈ (cut.saved heldSeen untiedSeen db).payrolls.rows ↔ payroll ∈ db.payrolls.rows ∨
        payroll = cut.payroll (cut.untied heldSeen untiedSeen) (cut.payrollId db) := by
  change payroll ∈ _ ++ [_] ↔ _
  rw [mem_append, mem_singleton]
  rfl

theorem StampsLinked.saved (hlinked : StampsLinked db) :
    StampsLinked (cut.saved heldSeen untiedSeen db) := by
  have hreleased := (SameBonds.release cut.now (cut.releases heldSeen) db).linked hlinked
  constructor
  · intro slip hslip payrollId hstamped
    have hbefore := hreleased.stamped slip hslip payrollId hstamped
    refine ⟨hbefore.1, ?_⟩
    obtain ⟨payroll, hpayroll, rfl⟩ := mem_map.1 hbefore.2
    exact mem_map_of_mem (mem_saved_payrolls.2 (.inl hpayroll))
  · exact hreleased.kept

theorem HoldsPersist.saved : HoldsPersist db (cut.saved heldSeen untiedSeen db) := by
  have hreleased := (SameBonds.release cut.now (cut.releases heldSeen) db).persist
  exact ⟨hreleased.holds,
    fun payroll hpayroll => mem_map_of_mem (mem_saved_payrolls.2 (.inl hpayroll))⟩

theorem HoldsPersist.create :
    HoldsPersist db ((cut.persistHold (cut.payrollId db) (cut.saved heldSeen untiedSeen db)).stamp
      ((cut.untied heldSeen untiedSeen).map DebtHold.id) (cut.payrollId db)) := by
  have hsaved : HoldsPersist db (cut.saved heldSeen untiedSeen db) := .saved
  exact IsTrans.trans _ _ _ (IsTrans.trans _ _ _ hsaved (.persistHold _)) .stamp

theorem untied_stored (hpersist : HoldsPersist untiedSeen db) {slip : DebtHold}
    (hslip : slip ∈ cut.untied heldSeen untiedSeen) :
    ∃ stored ∈ db.holds.rows, stored.id = slip.id ∧ stored.holdAmount = slip.holdAmount := by
  obtain ⟨old, hold, hbond⟩ := (SameBonds.release cut.now (cut.releases heldSeen)
    untiedSeen).exists_mem (mem_filter.1 hslip).1
  obtain ⟨stored, hstored, hid, hamount⟩ := hpersist.holds old hold
  exact ⟨stored, hstored, hid.trans (congrArg Prod.fst hbond),
    hamount.trans (congrArg (fun bond => bond.2.2) hbond)⟩

theorem untied_unbound (hpersist : HoldsPersist untiedSeen db)
    (hfree : ∀ slip ∈ db.holds.rows, slip.id ∈ (cut.untied heldSeen untiedSeen).map DebtHold.id →
      slip.payrollId = none) :
    ∀ slip ∈ (cut.persistHold (cut.payrollId db) (cut.saved heldSeen untiedSeen db)).holds.rows,
      slip.id ∈ (cut.untied heldSeen untiedSeen).map DebtHold.id → slip.payrollId = none := by
  have hreleased := SameBonds.release cut.now (cut.releases heldSeen) db
  intro slip hslip hmem
  rcases mem_persistHold hslip with hstored | hnew
  · obtain ⟨old, hold, hbond⟩ := hreleased.exists_mem hstored
    have hid : old.id = slip.id := congrArg Prod.fst hbond
    have hpayroll : old.payrollId = slip.payrollId := congrArg (fun bond => bond.2.1) hbond
    rw [← hpayroll]
    exact hfree old hold (hid ▸ hmem)
  · obtain ⟨seen, hseen, hid⟩ := mem_map.1 hmem
    obtain ⟨stored, hstored, hsame, _⟩ := untied_stored hpersist hseen
    have hgrown : HoldsPersist db (cut.saved heldSeen untiedSeen db) := .saved
    obtain ⟨later, hlater, hlast, _⟩ := hgrown.holds stored hstored
    exact absurd (mem_map.2 ⟨later, hlater, hlast.trans (hsame.trans hid)⟩) hnew

theorem tally_untied (hpersist : HoldsPersist untiedSeen db) :
    tally (fun slip => if slip.id ∈ (cut.untied heldSeen untiedSeen).map DebtHold.id then
        slip.holdAmount else 0)
      (cut.persistHold (cut.payrollId db) (cut.saved heldSeen untiedSeen db)).holds.rows =
      tally DebtHold.holdAmount (cut.untied heldSeen untiedSeen) := by
  apply tally_selected
  · exact (untiedSeen.release cut.now (cut.releases heldSeen)).holds.keysDistinct.sublist
      (filter_sublist.map _)
  · intro slip hslip
    obtain ⟨stored, hstored, hsame, hamount⟩ := untied_stored hpersist hslip
    have hgrown : HoldsPersist db
        (cut.persistHold (cut.payrollId db) (cut.saved heldSeen untiedSeen db)) :=
      IsTrans.trans _ (cut.saved heldSeen untiedSeen db) _ .saved (.persistHold _)
    obtain ⟨later, hlater, hlast, hamount'⟩ := hgrown.holds stored hstored
    refine ⟨later, ?_, hamount'.trans hamount⟩
    rw [← hsame, ← hlast]
    exact Table.find?_of_mem hlater

theorem PayrollCut.keeps (hagree : HoldsAgree db) (hlinked : StampsLinked db)
    (hpersist : HoldsPersist untiedSeen db)
    (hfree : ∀ slip ∈ db.holds.rows, slip.id ∈ (cut.untied heldSeen untiedSeen).map DebtHold.id →
      slip.payrollId = none) :
    let after := (cut.persistHold (cut.payrollId db) (cut.saved heldSeen untiedSeen db)).stamp
      ((cut.untied heldSeen untiedSeen).map DebtHold.id) (cut.payrollId db)
    HoldsAgree after ∧ StampsLinked after := by
  let saved := cut.saved heldSeen untiedSeen db
  let held := cut.persistHold (cut.payrollId db) saved
  have hreleased := SameBonds.release cut.now (cut.releases heldSeen) db
  have hsaved : StampsLinked saved := hlinked.saved
  have hrow : cut.payrollId db ∈ saved.payrolls.rows.map HoldPayroll.id :=
    mem_map_of_mem (mem_saved_payrolls.2 (.inr rfl))
  have honce : StampedOnce saved := (hreleased.agree hagree).once
  obtain ⟨hheld, honce, hpayrolls⟩ : StampsLinked held ∧ StampedOnce held ∧
      held.payrolls = saved.payrolls := persistHold_linked hsaved honce hrow
  have hunbound := untied_unbound hpersist hfree
  have htotal : ∀ other, stampedTotal other saved = stampedTotal other db :=
    hreleased.stampedTotal
  refine ⟨⟨?_, honce.stamp hheld hunbound⟩, hheld.stamp hunbound (hpayrolls ▸ hrow)⟩
  intro payroll hpayroll
  change payroll ∈ held.payrolls.rows at hpayroll
  rw [hpayrolls] at hpayroll
  rw [stampedTotal_stamp hunbound, tally_untied hpersist, stampedTotal_persistHold, htotal]
  rcases mem_saved_payrolls.1 hpayroll with hold | rfl
  · have hother : cut.payrollId db ≠ payroll.id := by
      intro hsame
      apply @payrollId_fresh db cut
      rw [hsame]
      exact mem_map_of_mem hold
    rw [if_neg hother, if_neg hother, add_zero, add_zero]
    exact hagree.amounts payroll hold
  · have hnone : stampedTotal (cut.payrollId db) db = 0 := by
      apply tally_eq_zero
      intro slip hslip
      rw [if_neg]
      intro hstamped
      exact payrollId_fresh (hlinked.stamped slip hslip _ hstamped).2
    change cut.autoHold + tally DebtHold.holdAmount (cut.untied heldSeen untiedSeen) =
      stampedTotal (cut.payrollId db) db +
        (if cut.payrollId db = cut.payrollId db then cut.autoHold else 0) +
        if cut.payrollId db = cut.payrollId db then _ else 0
    rw [hnone, if_pos rfl, if_pos rfl, zero_add]

theorem PayrollCut.meets (hlinked : StampsLinked db)
    (honce : StampedOnce ((cut.persistHold (cut.payrollId db)
      (cut.saved heldSeen untiedSeen db)).stamp
        ((cut.untied heldSeen untiedSeen).map DebtHold.id) (cut.payrollId db)))
    {slip : DebtHold} (hslip : slip ∈ db.holds.rows)
    (hmem : slip.id ∈ (cut.untied heldSeen untiedSeen).map DebtHold.id) :
    slip.payrollId = none := by
  by_contra hsome
  obtain ⟨payrollId, hstamped⟩ := Option.ne_none_iff_exists'.1 hsome
  obtain ⟨hbefore, hpayroll⟩ := hlinked.stamped slip hslip payrollId hstamped
  let saved := cut.saved heldSeen untiedSeen db
  let held := cut.persistHold (cut.payrollId db) saved
  have hgrown : HoldsPersist db held := IsTrans.trans _ saved _ .saved (.persistHold _)
  obtain ⟨later, hlater, hid, _⟩ := hgrown.holds slip hslip
  have hold : (slip.id, payrollId) ∈ held.stamps := by
    change _ ∈ (cut.persistHold (cut.payrollId db) saved).stamps
    unfold PayrollCut.persistHold
    cases cut.snapshot with
    | none => exact hbefore
    | some snapshot => exact mem_append_right _ hbefore
  have hnew : (slip.id, cut.payrollId db) ∈ (held.holds.rows.filter fun other =>
      other.id ∈ (cut.untied heldSeen untiedSeen).map DebtHold.id).map fun other =>
        (other.id, cut.payrollId db) := by
    rw [← hid] at hmem ⊢
    exact mem_map.2 ⟨later, mem_filter.2 ⟨hlater, decide_eq_true hmem⟩, rfl⟩
  have hsame : payrollId = cut.payrollId db :=
    honce _ (mem_append_left _ hnew) _ (mem_append_right _ hold) rfl
  exact payrollId_fresh (hsame ▸ hpayroll)

end Cuts

/-! ## Manual holds -/

section Manual

variable {keys : FreshKeys Uuid} {dto : ManualHoldDto} {read : HoldPayroll}

theorem createManualHold_cases {actorRole : SafariRole} {seen db' : HoldDb}
    (hok : createManualHold keys actorRole dto seen db = .ok db') :
    actorRole = .OWNER ∧ 0 < dto.holdAmount ∧ ((dto.payrollId = none ∧
          db' = db.createHold keys dto.employeeUserId none dto.amount dto.amount dto.holdNote) ∨
        ∃ payrollId read, dto.payrollId = some payrollId ∧
          seen.payrolls.find? payrollId = some read ∧ read.userId = dto.employeeUserId ∧
          db' = linkedHold keys dto read db) := by
  unfold createManualHold at hok
  by_cases hrole : actorRole ≠ .OWNER
  · rw [if_pos hrole] at hok
    cases hok
  · rw [if_neg hrole] at hok
    by_cases hamount : dto.holdAmount ≤ 0
    · rw [if_pos hamount] at hok
      cases hok
    · rw [if_neg hamount] at hok
      refine ⟨not_not.1 hrole, not_le.1 hamount, ?_⟩
      cases hpayroll : dto.payrollId with
      | none =>
          rw [hpayroll] at hok
          cases hok
          exact .inl ⟨rfl, rfl⟩
      | some payrollId =>
          simp only [hpayroll] at hok
          cases hread : seen.payrolls.find? payrollId with
          | none =>
              simp only [hread, reduceCtorEq] at hok
          | some read =>
              simp only [hread] at hok
              by_cases howner : read.userId ≠ dto.employeeUserId
              · rw [if_pos howner] at hok
                cases hok
              · rw [if_neg howner] at hok
                cases hok
                exact .inr ⟨payrollId, read, rfl, hread, not_not.1 howner, rfl⟩

theorem createManualHold_linked {actorRole : SafariRole} {seen : HoldDb} {payrollId : Uuid}
    (hrole : actorRole = .OWNER) (hamount : 0 < dto.holdAmount)
    (hpayroll : dto.payrollId = some payrollId)
    (hread : seen.payrolls.find? payrollId = some read)
    (howner : read.userId = dto.employeeUserId) :
    createManualHold keys actorRole dto seen db = .ok (linkedHold keys dto read db) := by
  unfold createManualHold
  rw [if_neg (not_not.2 hrole), if_neg (not_le.2 hamount)]
  simp only [hpayroll, hread]
  rw [if_neg (not_not.2 howner)]

theorem stampedTotal_linkedHold (payrollId : Uuid) :
    stampedTotal payrollId (linkedHold keys dto read db) =
      stampedTotal payrollId db + if read.id = payrollId then dto.amount else 0 := by
  have hcreated : stampedTotal payrollId (linkedHold keys dto read db) = stampedTotal payrollId db +
      if some read.id = some payrollId then dto.amount else 0 :=
    stampedTotal_createHold payrollId
  simpa only [Option.some.injEq] using hcreated

theorem ids_linkedHold : (linkedHold keys dto read db).payrolls.rows.map HoldPayroll.id =
    db.payrolls.rows.map HoldPayroll.id :=
  @Table.view_updateWhere _ _ _ HoldPayroll.id db.payrolls HoldPayroll.id
    (fun payroll => payroll.id = read.id) _
    (HoldPayroll.withHold (read.debtHoldAmount + dto.amount)) (HoldPayroll.withHold_id _)
    (HoldPayroll.withHold_id _)

theorem HoldsPersist.linkedHold : HoldsPersist db (linkedHold keys dto read db) := by
  constructor
  · intro slip hslip
    exact ⟨slip, mem_append_left _ hslip, rfl, rfl⟩
  · intro payroll hpayroll
    rw [ids_linkedHold]
    exact mem_map_of_mem hpayroll

theorem StampsLinked.linkedHold (hlinked : StampsLinked db)
    (hread : read.id ∈ db.payrolls.rows.map HoldPayroll.id) :
    StampsLinked (linkedHold keys dto read db) := by
  have hcreated : StampsLinked (db.createHold keys dto.employeeUserId (some read.id) dto.amount
      dto.amount dto.holdNote) := by
    apply hlinked.createHold
    intro payrollId hsame
    rwa [← Option.some.inj hsame]
  constructor
  · intro slip hslip payrollId hstamped
    rw [ids_linkedHold]
    exact hcreated.stamped slip hslip payrollId hstamped
  · exact hcreated.kept

theorem linkedHold_amounts_iff (hagree : HoldsAgree db) {stored : HoldPayroll}
    (hstored : db.payrolls.find? read.id = some stored) :
    (∀ payroll ∈ (linkedHold keys dto read db).payrolls.rows,
        payroll.debtHoldAmount = stampedTotal payroll.id (linkedHold keys dto read db)) ↔
      stored.debtHoldAmount = read.debtHoldAmount := by
  have hbefore := hagree.amounts stored (Table.mem_of_find? hstored)
  have hid := Table.key_of_find? hstored
  constructor
  · intro hamounts
    have hwritten := hamounts (stored.withHold (read.debtHoldAmount + dto.amount)) (by
      apply mem_map.2
      exact ⟨stored, Table.mem_of_find? hstored, if_pos hid⟩)
    rw [stampedTotal_linkedHold, HoldPayroll.withHold_id, if_pos hid.symm, ← hbefore] at hwritten
    change read.debtHoldAmount + dto.amount = _ at hwritten
    omega
  · intro hlatest payroll hpayroll
    obtain ⟨old, hold, hwritten⟩ := mem_map.1 hpayroll
    rw [stampedTotal_linkedHold]
    by_cases hsame : old.id = read.id
    · obtain rfl : old = stored :=
        Table.row_eq_of_key_eq hold (Table.mem_of_find? hstored) (hsame.trans hid.symm)
      rw [if_pos hsame] at hwritten
      subst hwritten
      rw [HoldPayroll.withHold_id, if_pos hsame.symm, ← hbefore, hlatest]
      rfl
    · rw [if_neg hsame] at hwritten
      subst hwritten
      rw [if_neg (Ne.symm hsame), add_zero]
      exact hagree.amounts old hold

end Manual

theorem SameBonds.releaseManualHold {actorRole : SafariRole} {id : Uuid} {seen db' : HoldDb}
    (hok : releaseManualHold now actorRole id seen db = .ok db') : SameBonds db db' := by
  unfold SafariLaundry.releaseManualHold at hok
  by_cases hrole : actorRole ≠ .OWNER
  · rw [if_pos hrole] at hok
    cases hok
  · rw [if_neg hrole] at hok
    cases hread : seen.holds.find? id with
    | none =>
        simp only [hread, reduceCtorEq] at hok
    | some row =>
        simp only [hread] at hok
        by_cases hreleased : row.status = .RELEASED
        · rw [if_pos hreleased] at hok
          cases hok
          exact ⟨rfl, rfl, rfl⟩
        · rw [if_neg hreleased] at hok
          cases hok
          refine ⟨?_, rfl, rfl⟩
          exact @Table.view_updateWhere _ _ _ DebtHold.id db.holds DebtHold.bond
            (fun slip => slip.id = id) _ (DebtHold.freed now row.holdAmount)
            (DebtHold.freed_id now _) fun _ => rfl

/-! ## Runs -/

/-- What is kept as long as every call reads the latest. -/
structure HoldsInStep (db : HoldDb) : Prop where
  agree : HoldsAgree db
  linked : StampsLinked db

variable {call : HoldCall}

theorem holdCalls_cases (call : HoldCall) (db : HoldDb) :
    (SameBonds db (holdCalls.step call db) ∧ call.ReadsTheLatest db) ∨
    (∃ cut heldSeen untiedSeen, call = .create cut heldSeen untiedSeen ∧
      MayRunPayroll cut.actorRole ∧ holdCalls.step call db =
        (cut.persistHold (cut.payrollId db) (cut.saved heldSeen untiedSeen db)).stamp
          ((cut.untied heldSeen untiedSeen).map DebtHold.id) (cut.payrollId db)) ∨
    ∃ keys actorRole dto seen, call = .createManual keys actorRole dto seen ∧
      actorRole = .OWNER ∧ 0 < dto.holdAmount ∧
      ((dto.payrollId = none ∧ holdCalls.step call db =
          db.createHold keys dto.employeeUserId none dto.amount dto.amount dto.holdNote) ∨
        ∃ payrollId read, dto.payrollId = some payrollId ∧
          seen.payrolls.find? payrollId = some read ∧ read.userId = dto.employeeUserId ∧
          holdCalls.step call db = linkedHold keys dto read db) := by
  have hstep : ∀ result, call.result db = result → holdCalls.step call db =
      match result with
      | .ok db' => db'
      | .error _ => db := fun _ hresult => hresult ▸ rfl
  cases hresult : call.result db with
  | error _ =>
      rw [hstep _ hresult]
      refine .inl ⟨⟨rfl, rfl, rfl⟩, ?_⟩
      cases call with
      | create cut heldSeen untiedSeen =>
          intro hrole
          change cut.create heldSeen untiedSeen db = _ at hresult
          unfold PayrollCut.create at hresult
          rw [if_neg (not_not.2 hrole)] at hresult
          cases hresult
      | createManual keys actorRole dto seen =>
          intro hrole hamount payrollId hpayroll read hread howner
          change createManualHold keys actorRole dto seen db = _ at hresult
          rw [createManualHold_linked hrole hamount hpayroll hread howner] at hresult
          cases hresult
      | releaseManual _ _ _ _ => trivial
  | ok db' =>
      rw [hstep _ hresult]
      cases call with
      | create cut heldSeen untiedSeen =>
          change cut.create heldSeen untiedSeen db = .ok db' at hresult
          unfold PayrollCut.create at hresult
          by_cases hrole : MayRunPayroll cut.actorRole
          · rw [if_neg (not_not.2 hrole)] at hresult
            cases hresult
            exact .inr (.inl ⟨cut, heldSeen, untiedSeen, rfl, hrole, rfl⟩)
          · rw [if_pos hrole] at hresult
            cases hresult
      | createManual keys actorRole dto seen =>
          obtain ⟨hrole, hamount, hcreated⟩ := createManualHold_cases hresult
          exact .inr (.inr ⟨keys, actorRole, dto, seen, rfl, hrole, hamount, hcreated⟩)
      | releaseManual now actorRole id seen =>
          exact .inl ⟨.releaseManualHold hresult, trivial⟩

theorem HoldsPersist.step (call : HoldCall) (db : HoldDb) :
    HoldsPersist db (holdCalls.step call db) := by
  rcases holdCalls_cases call db with ⟨hsame, _⟩ | ⟨cut, heldSeen, untiedSeen, rfl, _, hstep⟩ |
    ⟨keys, actorRole, dto, seen, rfl, _, _, hmanual⟩
  · exact hsame.persist
  · rw [hstep]
    exact .create
  · rcases hmanual with ⟨_, hstep⟩ | ⟨payrollId, read, _, _, _, hstep⟩
    · rw [hstep]
      exact .createHold
    · rw [hstep]
      exact .linkedHold

theorem holdsAgree_step_iff (hinStep : HoldsInStep db)
    (hseen : ∀ seen ∈ call.reads, HoldsPersist seen db) :
    (HoldsAgree (holdCalls.step call db) → call.ReadsTheLatest db) ∧
      (call.ReadsTheLatest db → HoldsInStep (holdCalls.step call db)) := by
  rcases holdCalls_cases call db with ⟨hsame, hlatest⟩ |
    ⟨cut, heldSeen, untiedSeen, rfl, hrole, hstep⟩ |
    ⟨keys, actorRole, dto, seen, rfl, hrole, hamount, hmanual⟩
  · exact ⟨fun _ => hlatest, fun _ => ⟨hsame.agree hinStep.agree, hsame.linked hinStep.linked⟩⟩
  · have huntied : HoldsPersist untiedSeen db := hseen untiedSeen (.tail _ (.head _))
    rw [hstep]
    constructor
    · intro hafter _ slip hslip hmem
      exact PayrollCut.meets hinStep.linked hafter.once hslip hmem
    · intro hlatest
      have hkept := PayrollCut.keeps hinStep.agree hinStep.linked huntied (hlatest hrole)
      exact ⟨hkept.1, hkept.2⟩
  · rcases hmanual with ⟨hnone, hstep⟩ | ⟨payrollId, read, hpayroll, hread, howner, hstep⟩
    · rw [hstep]
      constructor
      · intro _ _ _ payrollId hpayroll
        rw [hnone] at hpayroll
        cases hpayroll
      · intro _
        refine ⟨⟨?_, hinStep.agree.once.createHold hinStep.linked⟩,
          hinStep.linked.createHold fun _ hpayroll => nomatch hpayroll⟩
        intro payroll hpayroll
        simp only [stampedTotal_createHold, reduceCtorEq, if_false, add_zero]
        exact hinStep.agree.amounts payroll hpayroll
    · have hid := Table.key_of_find? hread
      have hmem : read.id ∈ db.payrolls.rows.map HoldPayroll.id :=
        (hseen seen (.head _)).payrolls read (Table.mem_of_find? hread)
      obtain ⟨stored, hstored, hsame⟩ := mem_map.1 hmem
      have hfound : db.payrolls.find? read.id = some stored := hsame ▸ Table.find?_of_mem hstored
      rw [hstep]
      constructor
      · intro hafter _ _ other hother read' hread' _ stored' hstored'
        obtain rfl := Option.some.inj (hpayroll.symm.trans hother)
        obtain rfl := Option.some.inj (hread.symm.trans hread')
        rw [← hid, hfound] at hstored'
        obtain rfl := Option.some.inj hstored'
        exact (linkedHold_amounts_iff hinStep.agree hfound).1 hafter.amounts
      · intro hlatest
        have hamounts := hlatest hrole hamount payrollId hpayroll read hread howner stored
          (hid ▸ hfound)
        have honce : StampedOnce (db.createHold keys dto.employeeUserId (some read.id)
            dto.amount dto.amount dto.holdNote) :=
          hinStep.agree.once.createHold hinStep.linked
        exact ⟨⟨(linkedHold_amounts_iff hinStep.agree hfound).2 hamounts, honce⟩,
          hinStep.linked.linkedHold hmem⟩

/-- Over every interleaving, all payrolls agree with the holds stamped with them and no hold
is stamped with two, exactly if every call read the latest. -/
theorem holdsAgree_iff {start : HoldDb} {calls : List HoldCall} {trace : List HoldDb}
    (hstart : HoldsInStep start)
    (hlog : holdCalls.Log (fun _ _ => True) start calls trace) :
    (∀ db ∈ trace, HoldsAgree db) ↔
      ∀ found ∈ Calls.occurrences calls trace, found.1.ReadsTheLatest found.2 := by
  have hread := (hlog.of_grows (R := HoldsPersist) fun call db _ _ => .step call db).1
  apply hread.holds_iff (Q := fun call db => call.ReadsTheLatest db) hstart
  · intro db hinStep
    exact hinStep.agree
  · intro call db hinStep hseen hafter
    exact (holdsAgree_step_iff hinStep hseen.2).1 hafter
  · intro call db hinStep hseen hlatest
    exact (holdsAgree_step_iff hinStep hseen.2).2 hlatest

namespace Sample

def onePayroll : HoldDb :=
  ⟨.empty, ⟨[⟨"payroll", "driver", 0⟩], nodup_singleton _⟩, []⟩

theorem onePayroll_inStep : HoldsInStep onePayroll := by
  refine ⟨⟨?_, fun _ hstamp => absurd hstamp not_mem_nil⟩,
    ⟨fun _ hslip => absurd hslip not_mem_nil, fun _ hstamp => absurd hstamp not_mem_nil⟩⟩
  intro payroll hpayroll
  obtain rfl := mem_singleton.1 hpayroll
  rfl

def holdFive : HoldCall :=
  .createManual .text .OWNER ⟨"driver", 5, none, some "payroll"⟩ onePayroll

theorem holdFive_log : holdCalls.Log (fun _ _ => True) onePayroll [holdFive]
    [holdCalls.step holdFive onePayroll, onePayroll] :=
  .call holdFive .start (fun _ hseen => hseen) trivial

end Sample

theorem holdsAgree_iff_sample : HoldsAgree (holdCalls.step Sample.holdFive Sample.onePayroll) := by
  apply (holdsAgree_iff Sample.onePayroll_inStep Sample.holdFive_log).2 _ _ (mem_cons_self ..)
  intro found hfound
  obtain rfl := mem_singleton.1 hfound
  intro _ _ payrollId _ read hread _ stored hstored
  exact congrArg HoldPayroll.debtHoldAmount (Option.some.inj (hstored.symm.trans hread))

/-- Two manual holds on one payroll that both read it without either. -/
theorem holdsAgree_fails :
    ¬ ∀ (start : HoldDb) (calls : List HoldCall) (trace : List HoldDb), HoldsInStep start →
      holdCalls.Log (fun _ _ => True) start calls trace → ∀ db ∈ trace, HoldsAgree db := by
  intro hall
  have hagree := hall _ _ _ Sample.onePayroll_inStep
    (.call Sample.holdFive Sample.holdFive_log (fun _ hseen => .tail _ hseen) trivial) _
    (mem_cons_self ..)
  have hamount := hagree.amounts ⟨"payroll", "driver", 50000⟩ (by decide +kernel)
  revert hamount
  decide +kernel

end SafariLaundry
