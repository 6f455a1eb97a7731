import SafariLaundry.DebtHolds

/-!
# Releases of held slips

A call goes over the held slips of an employee by their ids.  The open debt covers the
first of them; what it does not reach is freed.
-/

namespace SafariLaundry

open Library Library.Bookkeeping List

/-- A call of `releaseSettledHolds` and the balances that it reads; `collate` is
`localeCompare`. -/
structure ReleaseCall where
  collate : Uuid → Uuid → Bool
  now : Timestamp
  employeeUserId : Uuid
  journalAsSource : Bool
  remaining : List ℤ

structure SettledHolds where
  releaseKd : ℤ
  releasedIds : List Uuid

namespace ReleaseCall

variable (call : ReleaseCall) (db : HoldDb)

def debt : ℤ := computeOpenDebtForEmployee call.journalAsSource call.remaining

def helds : List DebtHold :=
  (db.heldSlips call.employeeUserId).mergeSort fun first second =>
    call.collate first.id second.id

def releases : List HoldRelease := settledSlips call.debt (call.helds db)

def releaseSettledHolds : SettledHolds × HoldDb :=
  if db.heldSlips call.employeeUserId = [] then (⟨0, []⟩, db)
  else
    (⟨tally HoldRelease.freeable (call.releases db),
      (call.releases db).map fun release => release.slip.id⟩,
    db.release call.now (call.releases db))

end ReleaseCall

def DebtHold.unreleased (slip : DebtHold) : ℤ := max 0 slip.remaining

def withThrough (start : ℤ) (slips : List DebtHold) : List (DebtHold × ℤ) :=
  running DebtHold.unreleased Prod.mk start slips

def freedSlip (debt : ℤ) (entry : DebtHold × ℤ) : Option HoldRelease :=
  if 0 < entry.1.remaining ∧ debt < entry.2 then
    some ⟨entry.1, min entry.1.remaining (entry.2 - debt)⟩
  else none

theorem freedSlip_eq_some {debt : ℤ} {entry : DebtHold × ℤ} {release : HoldRelease} :
    freedSlip debt entry = some release ↔ (0 < entry.1.remaining ∧ debt < entry.2) ∧
      release = ⟨entry.1, min entry.1.remaining (entry.2 - debt)⟩ := by
  unfold freedSlip
  by_cases hfreed : 0 < entry.1.remaining ∧ debt < entry.2
  · rw [if_pos hfreed, Option.some_inj, eq_comm, and_iff_right hfreed]
  · simp [hfreed]

section Loop

variable {start : ℤ} {slips : List DebtHold}

theorem map_withThrough (start : ℤ) (slips : List DebtHold) :
    (withThrough start slips).map Prod.fst = slips := by
  induction slips generalizing start with
  | nil => rfl
  | cons slip rest ih => exact congrArg (slip :: ·) (ih (start + slip.unreleased))

theorem settledSlips_eq (debt start : ℤ) (slips : List DebtHold) :
    settledSlips (max 0 (debt - start)) slips =
      (withThrough start slips).filterMap (freedSlip debt) := by
  induction slips generalizing start with
  | nil => rfl
  | cons slip rest ih =>
      have hthrough : withThrough start (slip :: rest) =
        (slip, start + slip.unreleased) :: withThrough (start + slip.unreleased) rest := rfl
      have hrest := ih (start + slip.unreleased)
      have hremaining : slip.holdAmount - slip.releasedAmount = slip.remaining := rfl
      rw [hthrough, filterMap_cons, ← hrest, settledSlips, hremaining]
      by_cases hnone : slip.remaining ≤ 0
      · have hfreed : freedSlip debt (slip, start) = none :=
          if_neg fun hsome => absurd hnone (not_le.2 hsome.1)
        have hunreleased : slip.unreleased = 0 := max_eq_left hnone
        simp only [if_pos hnone, hfreed, hunreleased, add_zero]
      · have hpositive : 0 < slip.remaining := not_le.1 hnone
        have hunreleased : slip.unreleased = slip.remaining := max_eq_right hpositive.le
        rw [hunreleased]
        by_cases hcovered : slip.remaining ≤ max 0 (debt - start)
        · have hfreed : freedSlip debt (slip, start + slip.remaining) = none :=
            if_neg fun hsome => absurd hsome.2 (by dsimp only; omega)
          have hleft : max 0 (debt - start) - slip.remaining =
              max 0 (debt - (start + slip.remaining)) := by omega
          simp only [if_neg hnone, if_pos hcovered, hfreed, hleft]
        · have hfreed : freedSlip debt (slip, start + slip.remaining) =
              some ⟨slip, slip.remaining - max 0 (debt - start)⟩ := by
            unfold freedSlip
            rw [if_pos ⟨hpositive, by dsimp only; omega⟩]
            exact congrArg some (congrArg (HoldRelease.mk slip) (by dsimp only; omega))
          have hleft : max 0 (debt - (start + slip.remaining)) = 0 := by omega
          simp only [if_neg hnone, if_neg hcovered, hfreed, hleft]

end Loop

/-! ## What a call leaves -/

section Release

variable {db : HoldDb} {userId : Uuid} {now : Timestamp} {releases : List HoldRelease}

theorem HoldDb.release_cons (first : HoldRelease) (rest : List HoldRelease) :
    db.release now (first :: rest) = (db.release now [first]).release now rest := rfl

theorem HoldDb.find?_release_of_ne {id : Uuid}
    (hother : ∀ release ∈ releases, release.slip.id ≠ id) :
    (db.release now releases).holds.find? id = db.holds.find? id := by
  induction releases generalizing db with
  | nil => rfl
  | cons first rest ih =>
      rw [release_cons, ih fun release hrelease => hother release (.tail _ hrelease)]
      exact Table.find?_update_of_ne db.holds (first.written now) (first.written_id now)
        (hother first (mem_cons_self ..)).symm

theorem Frees.find?_release {release : HoldRelease} (hfrees : Frees userId releases db)
    (hrelease : release ∈ releases) :
    (db.release now releases).holds.find? release.slip.id =
      some (release.written now release.slip) := by
  induction releases generalizing db with
  | nil => cases hrelease
  | cons first rest ih =>
      rcases mem_cons.1 hrelease with rfl | hrest
      · have hdistinct := hfrees.distinct
        rw [map_cons, nodup_cons] at hdistinct
        rw [HoldDb.release_cons, HoldDb.find?_release_of_ne]
        · change (db.holds.update release.slip.id (release.written now)
            (release.written_id now)).find? _ = _
          rw [Table.find?_update_self, hfrees.stored release (mem_cons_self ..)]
          rfl
        · intro other hother hsame
          exact hdistinct.1 (hsame ▸ mem_map_of_mem hother)
      · exact ih hfrees.tail hrest

theorem Frees.tally_released (hfrees : Frees userId releases db) :
    tally DebtHold.releasedAmount (db.release now releases).holds.rows =
      tally DebtHold.releasedAmount db.holds.rows + tally HoldRelease.freeable releases := by
  induction releases generalizing db with
  | nil => exact (add_zero _).symm
  | cons first rest ih =>
      have hone : tally DebtHold.releasedAmount (db.release now [first]).holds.rows +
          first.slip.releasedAmount = tally DebtHold.releasedAmount db.holds.rows +
            (first.slip.releasedAmount + first.freeable) :=
        tally_update DebtHold.releasedAmount (first.written_id now)
          (hfrees.stored first (mem_cons_self ..))
      rw [HoldDb.release_cons, ih hfrees.tail, tally_cons]
      omega

end Release

namespace ReleaseCall

variable (call : ReleaseCall) (db : HoldDb)

theorem debt_nonneg : 0 ≤ call.debt := computeOpenDebtForEmployee_nonneg _ _

theorem releaseSettledHolds_eq :
    call.releaseSettledHolds db = (⟨tally HoldRelease.freeable (call.releases db),
        (call.releases db).map fun release => release.slip.id⟩,
      db.release call.now (call.releases db)) := by
  unfold releaseSettledHolds
  by_cases hnone : db.heldSlips call.employeeUserId = []
  · have hreleases : call.releases db = [] := by
      unfold releases helds
      rw [hnone, mergeSort_nil]
      rfl
    rw [if_pos hnone, hreleases]
    rfl
  · rw [if_neg hnone]

theorem frees : Frees call.employeeUserId (call.releases db) db :=
  frees_settledSlips call.debt_nonneg _

/-- The held slips, each with what it and those before it withhold. -/
def reached : List (DebtHold × ℤ) := withThrough 0 (call.helds db)

theorem releases_eq : call.releases db = (call.reached db).filterMap (freedSlip call.debt) := by
  have hloop := settledSlips_eq call.debt 0 (call.helds db)
  rw [sub_zero, max_eq_right call.debt_nonneg] at hloop
  exact hloop

theorem helds_perm : (call.helds db).Perm (db.heldSlips call.employeeUserId) :=
  mergeSort_perm _ _

variable {call db}

theorem exists_reached {slip : DebtHold} (hslip : slip ∈ db.heldSlips call.employeeUserId) :
    ∃ through, (slip, through) ∈ call.reached db := by
  have hmem : slip ∈ (call.reached db).map Prod.fst := by
    unfold reached
    rw [map_withThrough]
    exact (call.helds_perm db).mem_iff.2 hslip
  obtain ⟨⟨found, through⟩, hentry, rfl⟩ := mem_map.1 hmem
  exact ⟨through, hentry⟩

theorem held_of_reached {entry : DebtHold × ℤ} (hentry : entry ∈ call.reached db) :
    entry.1 ∈ db.heldSlips call.employeeUserId := by
  have hmem := mem_map_of_mem (f := Prod.fst) hentry
  unfold reached at hmem
  rw [map_withThrough] at hmem
  exact (call.helds_perm db).mem_iff.1 hmem

theorem reached_inj {entry other : DebtHold × ℤ} (hentry : entry ∈ call.reached db)
    (hother : other ∈ call.reached db) (hid : entry.1.id = other.1.id) : entry = other := by
  have hdistinct : ((call.reached db).map fun found => found.1.id).Nodup := by
    have hids : ((db.heldSlips call.employeeUserId).map DebtHold.id).Nodup :=
      db.holds.keysDistinct.sublist (filter_sublist.map _)
    have hsame : ((call.reached db).map fun found => found.1.id) =
        (call.helds db).map DebtHold.id := by
      unfold reached
      rw [← map_withThrough 0 (call.helds db), map_map, map_withThrough]
      rfl
    rw [hsame]
    exact ((call.helds_perm db).map DebtHold.id).nodup_iff.2 hids
  exact inj_on_of_nodup_map hdistinct hentry hother hid

theorem find?_after {entry : DebtHold × ℤ} (hentry : entry ∈ call.reached db) :
    (call.releaseSettledHolds db).2.holds.find? entry.1.id =
      some (match freedSlip call.debt entry with
        | some release => release.written call.now entry.1
        | none => entry.1) := by
  have hreleases := call.releases_eq db
  rw [releaseSettledHolds_eq]
  cases hfreed : freedSlip call.debt entry with
  | some release =>
      have hslip : release.slip = entry.1 := by
        rw [(freedSlip_eq_some.1 hfreed).2]
      have hmem : release ∈ call.releases db := by
        rw [hreleases]
        exact mem_filterMap.2 ⟨entry, hentry, hfreed⟩
      rw [← hslip]
      exact (call.frees db).find?_release hmem
  | none =>
      have hheld := held_of_reached hentry
      rw [HoldDb.find?_release_of_ne, Table.find?_of_mem (mem_filter.1 hheld).1]
      intro release hrelease hid
      rw [hreleases] at hrelease
      obtain ⟨other, hother, hsome⟩ := mem_filterMap.1 hrelease
      have hslip : release.slip = other.1 := by
        rw [(freedSlip_eq_some.1 hsome).2]
      rw [hslip] at hid
      rw [reached_inj hother hentry hid, hfreed] at hsome
      cases hsome

theorem find?_after_of_not_held {id : Uuid}
    (hother : ∀ slip ∈ db.heldSlips call.employeeUserId, slip.id ≠ id) :
    (call.releaseSettledHolds db).2.holds.find? id = db.holds.find? id := by
  rw [releaseSettledHolds_eq]
  apply HoldDb.find?_release_of_ne
  intro release hrelease
  have hstored := (call.frees db).stored release hrelease
  have hheld := (call.frees db).held release hrelease
  exact hother release.slip (mem_filter.2 ⟨Table.mem_of_find? hstored, decide_eq_true hheld⟩)

end ReleaseCall

/-! ## Conservation -/

structure DebtHold.ReleasedTo (slip later : DebtHold) : Prop where
  holdAmount : later.holdAmount = slip.holdAmount
  grows : slip.releasedAmount ≤ later.releasedAmount
  bounds : 0 ≤ slip.releasedAmount ∧ slip.releasedAmount ≤ slip.holdAmount →
    0 ≤ later.releasedAmount ∧ later.releasedAmount ≤ later.holdAmount
  status : (slip.status = .RELEASED ↔ slip.releasedAmount = slip.holdAmount) →
    (later.status = .RELEASED ↔ later.releasedAmount = later.holdAmount)

/-- What a call leaves withheld, what it does to the slips and what it reports. -/
structure ReleasesRight (call : ReleaseCall) (db : HoldDb) : Prop where
  left : withheld call.employeeUserId (call.releaseSettledHolds db).2 =
    min call.debt (withheld call.employeeUserId db)
  slips : ∀ slip ∈ db.holds.rows, ∃ later,
    (call.releaseSettledHolds db).2.holds.find? slip.id = some later ∧ slip.ReleasedTo later
  others : ∀ id, (∀ slip ∈ db.heldSlips call.employeeUserId, slip.id ≠ id) →
    (call.releaseSettledHolds db).2.holds.find? id = db.holds.find? id
  reported : tally DebtHold.releasedAmount (call.releaseSettledHolds db).2.holds.rows =
    tally DebtHold.releasedAmount db.holds.rows + (call.releaseSettledHolds db).1.releaseKd
  again : ∀ next : ReleaseCall, next.employeeUserId = call.employeeUserId →
    next.debt = call.debt → next.releaseSettledHolds (call.releaseSettledHolds db).2 =
      (⟨0, []⟩, (call.releaseSettledHolds db).2)

theorem DebtHold.ReleasedTo.refl (slip : DebtHold) : slip.ReleasedTo slip :=
  ⟨rfl, le_rfl, fun hbefore => hbefore, fun hbefore => hbefore⟩

theorem HoldRelease.written_releasedTo (release : HoldRelease) (now : Timestamp)
    (hfreeable : 0 < release.freeable ∧ release.freeable ≤ release.slip.remaining) :
    release.slip.ReleasedTo (release.written now release.slip) := by
  have hremaining : release.slip.remaining =
    release.slip.holdAmount - release.slip.releasedAmount := rfl
  have hreleased : (release.written now release.slip).releasedAmount =
    release.slip.releasedAmount + release.freeable := rfl
  refine ⟨rfl, ?_, fun hbefore => ?_, fun _ => ?_⟩
  · rw [hreleased]
    omega
  · rw [hreleased]
    change _ ∧ _ ≤ release.slip.holdAmount
    omega
  · change (if release.slip.holdAmount ≤ release.newReleased then DebtHoldStatus.RELEASED
      else .HELD) = .RELEASED ↔ release.newReleased = release.slip.holdAmount
    unfold newReleased
    by_cases hall : release.slip.holdAmount ≤ release.slip.releasedAmount + release.freeable
    · rw [if_pos hall]
      exact iff_of_true rfl (by omega)
    · rw [if_neg hall]
      exact iff_of_false nofun (by omega)

namespace ReleaseCall

variable {call : ReleaseCall} {db : HoldDb}

theorem freeable_pos {release : HoldRelease} (hrelease : release ∈ call.releases db) :
    0 < release.freeable := by
  rw [releases_eq] at hrelease
  obtain ⟨entry, _, hfreed⟩ := mem_filterMap.1 hrelease
  obtain ⟨⟨hpositive, hover⟩, rfl⟩ := freedSlip_eq_some.1 hfreed
  exact lt_min hpositive (sub_pos.2 hover)

theorem releasedTo {slip : DebtHold} (hslip : slip ∈ db.holds.rows) :
    ∃ later, (call.releaseSettledHolds db).2.holds.find? slip.id = some later ∧
      slip.ReleasedTo later := by
  by_cases hfreed : ∃ release ∈ call.releases db, release.slip.id = slip.id
  · obtain ⟨release, hrelease, hid⟩ := hfreed
    have hfrees := call.frees db
    have hstored := hfrees.stored release hrelease
    obtain rfl := Table.row_eq_of_key_eq (Table.mem_of_find? hstored) hslip hid
    refine ⟨release.written call.now release.slip, ?_, ?_⟩
    · rw [releaseSettledHolds_eq]
      exact hfrees.find?_release hrelease
    · exact release.written_releasedTo call.now
        ⟨freeable_pos hrelease, (hfrees.bounds release hrelease).2⟩
  · refine ⟨slip, ?_, DebtHold.ReleasedTo.refl slip⟩
    rw [releaseSettledHolds_eq, HoldDb.find?_release_of_ne]
    · exact Table.find?_of_mem hslip
    · intro release hrelease hid
      exact hfreed ⟨release, hrelease, hid⟩

theorem withheld_after (hsound : ∀ slip ∈ db.heldSlips call.employeeUserId,
    slip.releasedAmount ≤ slip.holdAmount) :
    withheld call.employeeUserId (call.releaseSettledHolds db).2 =
      min call.debt (withheld call.employeeUserId db) := by
  have hfreed : tally HoldRelease.freeable (call.releases db) =
      withheld call.employeeUserId db - min (withheld call.employeeUserId db) call.debt :=
    tally_freed call.debt_nonneg _ hsound
  rw [releaseSettledHolds_eq, withheld_release (call.frees db), hfreed, min_comm]
  exact sub_sub_cancel _ _

theorem bounds_after (hsound : ∀ slip ∈ db.heldSlips call.employeeUserId,
    0 ≤ slip.releasedAmount ∧ slip.releasedAmount ≤ slip.holdAmount) :
    ∀ slip ∈ (call.releaseSettledHolds db).2.heldSlips call.employeeUserId,
      slip.releasedAmount ≤ slip.holdAmount := by
  intro slip hslip
  obtain ⟨hstored, hheld⟩ := mem_filter.1 hslip
  have hfound := Table.find?_of_mem hstored
  by_cases hbefore : ∃ old ∈ db.heldSlips call.employeeUserId, old.id = slip.id
  · obtain ⟨old, hold, hid⟩ := hbefore
    obtain ⟨later, hlater, hreleased⟩ := @releasedTo call db old (mem_filter.1 hold).1
    rw [hid, hfound] at hlater
    obtain rfl := Option.some.inj hlater
    exact (hreleased.bounds (hsound old hold)).2
  · rw [find?_after_of_not_held fun old hold hid => hbefore ⟨old, hold, hid⟩] at hfound
    exact (hsound slip (mem_filter.2 ⟨Table.mem_of_find? hfound, hheld⟩)).2

theorem releases_eq_nil (hsound : ∀ slip ∈ db.heldSlips call.employeeUserId,
    slip.releasedAmount ≤ slip.holdAmount)
    (hcovered : withheld call.employeeUserId db ≤ call.debt) : call.releases db = [] := by
  have hfreed : tally HoldRelease.freeable (call.releases db) =
      withheld call.employeeUserId db - min (withheld call.employeeUserId db) call.debt :=
    tally_freed call.debt_nonneg _ hsound
  rw [min_eq_left hcovered, sub_self] at hfreed
  have hpositive : ∀ release ∈ call.releases db, 0 < release.freeable :=
    fun _ hrelease => freeable_pos hrelease
  cases hreleases : call.releases db with
  | nil => rfl
  | cons first rest =>
      rw [hreleases] at hpositive
      have hfirst : 0 < first.freeable := hpositive first (mem_cons_self ..)
      have hrest : 0 ≤ tally HoldRelease.freeable rest :=
        tally_nonneg_of_mem fun release hrelease => (hpositive release (.tail _ hrelease)).le
      rw [hreleases, tally_cons] at hfreed
      omega

end ReleaseCall

/-- A call leaves withheld what the debt covers, keeps the slips within their bounds, reports
what it freed, and frees nothing more when it is repeated. -/
theorem releaseSettledHolds_right {call : ReleaseCall} {db : HoldDb}
    (hsound : ∀ slip ∈ db.heldSlips call.employeeUserId,
      0 ≤ slip.releasedAmount ∧ slip.releasedAmount ≤ slip.holdAmount) :
    ReleasesRight call db := by
  have hbounds : ∀ slip ∈ db.heldSlips call.employeeUserId,
      slip.releasedAmount ≤ slip.holdAmount := fun slip hslip => (hsound slip hslip).2
  have hleft := ReleaseCall.withheld_after hbounds
  refine ⟨hleft, fun slip hslip => ReleaseCall.releasedTo hslip,
    fun id hother => ReleaseCall.find?_after_of_not_held hother, ?_, ?_⟩
  · rw [ReleaseCall.releaseSettledHolds_eq]
    exact (call.frees db).tally_released
  · intro next hemployee hdebt
    have hlater := ReleaseCall.bounds_after hsound
    rw [← hemployee] at hlater
    have hnone : next.releases (call.releaseSettledHolds db).2 = [] := by
      apply ReleaseCall.releases_eq_nil hlater
      rw [hemployee, hdebt, hleft]
      exact min_le_left _ _
    rw [ReleaseCall.releaseSettledHolds_eq, hnone]
    rfl

namespace Sample

def heldSlip (id : Uuid) (note : String) : DebtHold :=
  ⟨id, "driver", none, 50000, 50000, 0, .HELD, none, note⟩

def threeSlips : HoldDb where
  holds := ⟨[heldSlip "slip-1" "Auto-hold at payroll cut (FULL)",
    heldSlip "slip-2" "Auto-hold at payroll cut (FULL)",
    heldSlip "slip-3" "Manual hold (admin-initiated)"], by decide⟩
  payrolls := .empty
  stamps := []

def settlingCall : ReleaseCall := ⟨fun first second => first ≤ second, 0, "driver", true, [70000]⟩

theorem threeSlips_bounds : ∀ slip ∈ threeSlips.heldSlips settlingCall.employeeUserId,
    0 ≤ slip.releasedAmount ∧ slip.releasedAmount ≤ slip.holdAmount := by
  decide

end Sample

theorem releaseSettledHolds_right_sample : ReleasesRight Sample.settlingCall Sample.threeSlips :=
  releaseSettledHolds_right Sample.threeSlips_bounds

/-! ## First in, first out -/

/-- What is known of the slips besides their columns here: when they were created, and which
of them `createManualHold` made. -/
structure SlipOrigins where
  createdAt : Uuid → Timestamp
  manual : Uuid → Prop

def FirstInFirstOut (origins : SlipOrigins) (call : ReleaseCall) (db : HoldDb) : Prop :=
  ∀ slip ∈ db.heldSlips call.employeeUserId,
    (∃ later ∈ (call.releaseSettledHolds db).2.holds.find? slip.id,
      slip.releasedAmount < later.releasedAmount) →
    ∀ older ∈ db.heldSlips call.employeeUserId, ¬ origins.manual older.id →
      origins.createdAt older.id < origins.createdAt slip.id →
      ∃ later ∈ (call.releaseSettledHolds db).2.holds.find? older.id,
        later.holdAmount ≤ later.releasedAmount

def ManualHeld (origins : SlipOrigins) (call : ReleaseCall) (db : HoldDb) : Prop :=
  ∀ slip ∈ db.heldSlips call.employeeUserId, origins.manual slip.id →
    (call.releaseSettledHolds db).2.holds.find? slip.id = some slip

/-- Every slip that the debt does not reach to its end is automatic, and the automatic ones
created before it withhold nothing or begin where the debt is used up. -/
def ReachedInOrder (origins : SlipOrigins) (call : ReleaseCall) (db : HoldDb) : Prop :=
  ∀ entry ∈ call.reached db, 0 < entry.1.remaining → call.debt < entry.2 →
    ¬ origins.manual entry.1.id ∧ ∀ older ∈ call.reached db, ¬ origins.manual older.1.id →
        origins.createdAt older.1.id < origins.createdAt entry.1.id →
        older.1.remaining ≤ 0 ∨ call.debt ≤ older.2 - older.1.remaining

namespace ReleaseCall

variable {call : ReleaseCall} {db : HoldDb} {entry : DebtHold × ℤ}

theorem receives_iff (hentry : entry ∈ call.reached db) :
    (∃ later ∈ (call.releaseSettledHolds db).2.holds.find? entry.1.id,
      entry.1.releasedAmount < later.releasedAmount) ↔
    0 < entry.1.remaining ∧ call.debt < entry.2 := by
  rw [find?_after hentry]
  cases hfreed : freedSlip call.debt entry with
  | none =>
      have hnone : ¬ (0 < entry.1.remaining ∧ call.debt < entry.2) := by
        intro hsome
        rw [freedSlip, if_pos hsome] at hfreed
        cases hfreed
      simp [hnone]
  | some release =>
      obtain ⟨⟨hpositive, hover⟩, rfl⟩ := freedSlip_eq_some.1 hfreed
      refine iff_of_true ⟨_, rfl, ?_⟩ ⟨hpositive, hover⟩
      change entry.1.releasedAmount <
        entry.1.releasedAmount + min entry.1.remaining (entry.2 - call.debt)
      omega

theorem free_iff (hentry : entry ∈ call.reached db) :
    (∃ later ∈ (call.releaseSettledHolds db).2.holds.find? entry.1.id,
      later.holdAmount ≤ later.releasedAmount) ↔
    entry.1.remaining ≤ 0 ∨ call.debt ≤ entry.2 - entry.1.remaining := by
  have hremaining : entry.1.remaining = entry.1.holdAmount - entry.1.releasedAmount := rfl
  rw [find?_after hentry]
  cases hfreed : freedSlip call.debt entry with
  | none =>
      have hnone : ¬ (0 < entry.1.remaining ∧ call.debt < entry.2) := by
        intro hsome
        rw [freedSlip, if_pos hsome] at hfreed
        cases hfreed
      simp only [Option.mem_def, Option.some_inj, exists_eq_left']
      omega
  | some release =>
      obtain ⟨⟨hpositive, hover⟩, rfl⟩ := freedSlip_eq_some.1 hfreed
      simp only [Option.mem_def, Option.some_inj, exists_eq_left']
      change entry.1.holdAmount ≤
        entry.1.releasedAmount + min entry.1.remaining (entry.2 - call.debt) ↔ _
      omega

theorem untouched_iff (hentry : entry ∈ call.reached db) :
    (call.releaseSettledHolds db).2.holds.find? entry.1.id = some entry.1 ↔
      ¬ (0 < entry.1.remaining ∧ call.debt < entry.2) := by
  constructor
  · intro hsame hfreed
    obtain ⟨later, hlater, hmore⟩ := (receives_iff hentry).2 hfreed
    rw [hsame] at hlater
    obtain rfl := Option.some.inj hlater
    exact lt_irrefl _ hmore
  · intro hnone
    rw [find?_after hentry, freedSlip, if_neg hnone]

end ReleaseCall

/-- Slips are released first in, first out, and no manual one, exactly if the debt reaches
them so. -/
theorem releases_fifo_iff (origins : SlipOrigins) (call : ReleaseCall) (db : HoldDb) :
    (FirstInFirstOut origins call db ∧ ManualHeld origins call db) ↔
      ReachedInOrder origins call db := by
  constructor
  · rintro ⟨horder, hmanual⟩ entry hentry hpositive hover
    have hheld := ReleaseCall.held_of_reached hentry
    constructor
    · intro hadded
      exact (ReleaseCall.untouched_iff hentry).1 (hmanual entry.1 hheld hadded) ⟨hpositive, hover⟩
    · intro older holder hauto hbefore
      exact (ReleaseCall.free_iff holder).1 (horder entry.1 hheld
        ((ReleaseCall.receives_iff hentry).2 ⟨hpositive, hover⟩) older.1
        (ReleaseCall.held_of_reached holder) hauto hbefore)
  · intro hreached
    constructor
    · intro slip hslip hreceives older holder hauto hbefore
      obtain ⟨through, hentry⟩ := ReleaseCall.exists_reached hslip
      obtain ⟨olderThrough, holderEntry⟩ := ReleaseCall.exists_reached holder
      obtain ⟨hpositive, hover⟩ := (ReleaseCall.receives_iff hentry).1 hreceives
      exact (ReleaseCall.free_iff holderEntry).2
        ((hreached _ hentry hpositive hover).2 _ holderEntry hauto hbefore)
    · intro slip hslip hadded
      obtain ⟨through, hentry⟩ := ReleaseCall.exists_reached hslip
      apply (ReleaseCall.untouched_iff hentry).2
      rintro ⟨hpositive, hover⟩
      exact (hreached _ hentry hpositive hover).1 hadded

namespace Sample

def slipOrigins : SlipOrigins where
  createdAt := fun id =>
    if id = "slip-1" then 0 else if id = "slip-2" then 86400000 else 172800000
  manual := fun id => id = "slip-3"

theorem settlingCall_helds : settlingCall.helds threeSlips = threeSlips.holds.rows := by
  have hheld : threeSlips.heldSlips settlingCall.employeeUserId = threeSlips.holds.rows := by
    decide
  unfold ReleaseCall.helds
  rw [hheld]
  exact mergeSort_of_pairwise (by decide)

theorem settlingCall_after :
    (settlingCall.releaseSettledHolds threeSlips).2.holds.rows =
      [heldSlip "slip-1" "Auto-hold at payroll cut (FULL)",
        { heldSlip "slip-2" "Auto-hold at payroll cut (FULL)" with releasedAmount := 30000 },
        { heldSlip "slip-3" "Manual hold (admin-initiated)" with
          releasedAmount := 50000, status := .RELEASED, releaseDate := some 0 }] := by
  rw [ReleaseCall.releaseSettledHolds_eq, ReleaseCall.releases, settlingCall_helds]
  decide +kernel

end Sample

theorem releases_fifo_fails :
    ¬ FirstInFirstOut Sample.slipOrigins Sample.settlingCall Sample.threeSlips ∧
      ¬ ManualHeld Sample.slipOrigins Sample.settlingCall Sample.threeSlips := by
  constructor
  · intro hfifo
    have holder := hfifo (Sample.heldSlip "slip-2" "Auto-hold at payroll cut (FULL)") (by decide)
      (by rw [Table.find?, Sample.settlingCall_after]; decide)
      (Sample.heldSlip "slip-1" "Auto-hold at payroll cut (FULL)") (by decide)
      (by change ¬ "slip-1" = "slip-3"; decide) (by decide)
    rw [Table.find?, Sample.settlingCall_after] at holder
    revert holder
    decide
  · intro hheld
    have hkept := hheld (Sample.heldSlip "slip-3" "Manual hold (admin-initiated)") (by decide) rfl
    rw [Table.find?, Sample.settlingCall_after] at hkept
    revert hkept
    decide

end SafariLaundry
