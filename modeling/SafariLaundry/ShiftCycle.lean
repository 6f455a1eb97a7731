import SafariLaundry.CashCustody

/-!
# The daily shift cycle

At Kuwait midnight, and whenever the owner asks, a transaction closes the open shifts of earlier
days and opens one for every active driver that it sees none of.  Its statements read what is
committed when they begin; what it writes is seen when it commits.  Instants are milliseconds.
-/

namespace SafariLaundry

open Library List

structure CycleShift where
  (id driverId : Uuid)
  status : ShiftStatus
  startedAt : ℤ
  endedAt : Option ℤ

structure CycleUser where
  id : Uuid
  safariRole : SafariRole
  isActive : Bool

abbrev ShiftTable := Table CycleShift.id

structure CycleDb where
  users : Table CycleUser.id
  shifts : ShiftTable

def kuwaitOffset : ℤ := 180 * 60000

def kuwaitMidnightUtc (nowUtc : ℤ) : ℤ :=
  (nowUtc + kuwaitOffset) / (24 * 60 * 60 * 1000) * (24 * 60 * 60 * 1000) - kuwaitOffset

def CycleShift.Stale (boundary : ℤ) (shift : CycleShift) : Prop :=
  shift.status = .OPEN ∧ shift.startedAt < boundary
  deriving Decidable

def CycleShift.OpenSince (boundary : ℤ) (shift : CycleShift) : Prop :=
  shift.status = .OPEN ∧ boundary ≤ shift.startedAt
  deriving Decidable

/-- A run: its clock, and what was committed when its statements began. -/
structure CycleRun where
  now : ℤ
  keys : FreshKeys Uuid
  (staleRead userRead openRead : CycleDb)

structure CycleResult where
  (closed opened : ℕ)
  cycleStartAt : ℤ

namespace CycleRun

variable (run : CycleRun)

def boundary : ℤ := kuwaitMidnightUtc run.now

/-- `updateMany` locks the rows that it saw to be stale and writes those that still are. -/
def Closes (shift : CycleShift) : Prop :=
  shift.Stale run.boundary ∧ ∃ seen ∈ run.staleRead.shifts.find? shift.id, seen.Stale run.boundary
  deriving Decidable

def close (shift : CycleShift) : CycleShift :=
  { shift with status := .CLOSED, endedAt := some (run.boundary - 1) }

def closeStale (shifts : ShiftTable) : ShiftTable :=
  shifts.updateWhere run.Closes run.close fun _ => rfl

def driverIds : List Uuid :=
  (run.userRead.users.rows.filter fun user =>
    user.safariRole = .DRIVER ∧ user.isActive = true).map CycleUser.id

def openDriverSet : List Uuid :=
  (run.openRead.shifts.rows.filter fun shift =>
    shift.driverId ∈ run.driverIds ∧ shift.OpenSince run.boundary).map CycleShift.driverId

def toOpen : List Uuid := run.driverIds.filter fun id => id ∉ run.openDriverSet

def openShift (shifts : ShiftTable) (driverId : Uuid) : ShiftTable :=
  shifts.insertNew run.keys (fun id => ⟨id, driverId, .OPEN, run.boundary, none⟩) fun _ => rfl

def createMany (driverIds : List Uuid) (shifts : ShiftTable) : ShiftTable :=
  driverIds.foldl run.openShift shifts

def runDailyCycle (db : CycleDb) : CycleResult × CycleDb :=
  let closed := (db.shifts.rows.filter run.Closes).length
  let shifts := run.closeStale db.shifts
  if run.driverIds = [] then (⟨closed, 0, run.boundary⟩, { db with shifts := shifts })
  else (⟨closed, run.toOpen.length, run.boundary⟩,
    { db with shifts := run.createMany run.toOpen shifts })

end CycleRun

/-- Between the runs drivers come, go, and are activated or deactivated. -/
inductive CycleCall
  | cycle (run : CycleRun)
  | roster (users : Table CycleUser.id)

namespace CycleCall

def step : CycleCall → CycleDb → CycleDb
  | .cycle run, db => (run.runDailyCycle db).2
  | .roster users, db => { db with users := users }

def seen : CycleCall → List CycleDb
  | .cycle run => [run.staleRead, run.userRead, run.openRead]
  | .roster _ => []

end CycleCall

def cycleCalls : Calls CycleDb CycleCall := ⟨CycleCall.step, CycleCall.seen⟩

def CycleDb.openSince (db : CycleDb) (boundary : ℤ) (driverId : Uuid) : ℕ :=
  db.shifts.rows.countP fun shift => shift.driverId = driverId ∧ shift.OpenSince boundary

structure CycleRun.Covered (run : CycleRun) (db : CycleDb) : Prop where
  oneOpen : ∀ driverId ∈ run.driverIds, db.openSince run.boundary driverId = 1
  noneStale : ∀ shift ∈ db.shifts.rows, ¬ shift.Stale run.boundary

structure CycleRun.ReadsCurrent (run : CycleRun) (db : CycleDb) : Prop where
  openShifts : ∀ driverId ∈ run.driverIds, driverId ∈ run.openDriverSet ↔
    ∃ shift ∈ db.shifts.rows, shift.driverId = driverId ∧ shift.OpenSince run.boundary
  staleShifts : ∀ shift ∈ db.shifts.rows, shift.Stale run.boundary → run.Closes shift

def CycleRun.FindsSingle (run : CycleRun) (db : CycleDb) : Prop :=
  ∀ driverId ∈ run.driverIds, db.openSince run.boundary driverId ≤ 1

def CycleCall.Covers : CycleCall → CycleDb → Prop
  | .cycle run, db => run.Covered (run.runDailyCycle db).2
  | .roster _, _ => True

def CycleCall.Current : CycleCall → CycleDb → Prop
  | .cycle run, db => run.ReadsCurrent db
  | .roster _, _ => True

def CycleCall.FindsSingle : CycleCall → CycleDb → Prop
  | .cycle run, db => run.FindsSingle db
  | .roster _, _ => True

def KeepsClosed (earlier later : CycleDb) : Prop :=
  ∀ shift ∈ earlier.shifts.rows, shift.status = .CLOSED → shift ∈ later.shifts.rows

def CycleDb.SingleOpen (db : CycleDb) : Prop :=
  ∀ driverId, (db.shifts.rows.countP fun shift =>
    shift.driverId = driverId ∧ shift.status = .OPEN) ≤ 1

/-! ## What a run does -/

section Run

variable (run : CycleRun)

theorem CycleRun.driverIds_nodup : run.driverIds.Nodup :=
  List.Nodup.sublist (List.Sublist.map _ filter_sublist) run.userRead.users.keysDistinct

theorem CycleRun.rows_createMany (driverIds : List Uuid) (shifts : ShiftTable) :
    ∃ opened, (run.createMany driverIds shifts).rows = shifts.rows ++ opened ∧
      opened.map CycleShift.driverId = driverIds ∧
      ∀ shift ∈ opened, shift.status = .OPEN ∧ shift.startedAt = run.boundary := by
  induction driverIds generalizing shifts with
  | nil => exact ⟨[], (append_nil _).symm, rfl, forall_mem_nil _⟩
  | cons driverId rest ih =>
      obtain ⟨opened, hrows, hdrivers, hopen⟩ := ih (run.openShift shifts driverId)
      let first : CycleShift :=
        ⟨run.keys.draw (shifts.rows.map CycleShift.id), driverId, .OPEN, run.boundary, none⟩
      have hfirst : (run.openShift shifts driverId).rows = shifts.rows ++ [first] := rfl
      refine ⟨first :: opened, ?_, ?_, ?_⟩
      · change (run.createMany rest (run.openShift shifts driverId)).rows = _
        rw [hrows, hfirst, append_assoc, singleton_append]
      · rw [map_cons, hdrivers]
      · exact forall_mem_cons.2 ⟨⟨rfl, rfl⟩, hopen⟩

theorem CycleRun.rows_runDailyCycle (db : CycleDb) :
    ∃ opened, (run.runDailyCycle db).2.shifts.rows = (run.closeStale db.shifts).rows ++ opened ∧
      opened.map CycleShift.driverId = run.toOpen ∧
      ∀ shift ∈ opened, shift.status = .OPEN ∧ shift.startedAt = run.boundary := by
  unfold runDailyCycle
  by_cases hnone : run.driverIds = []
  · rw [if_pos hnone]
    refine ⟨[], (append_nil _).symm, ?_, forall_mem_nil _⟩
    unfold toOpen
    rw [hnone]
    rfl
  · rw [if_neg hnone]
    exact run.rows_createMany run.toOpen (run.closeStale db.shifts)

theorem CycleRun.countP_closeStale (shifts : ShiftTable) (driverId : Uuid) :
    (run.closeStale shifts).rows.countP (fun shift =>
        shift.driverId = driverId ∧ shift.OpenSince run.boundary) =
      shifts.rows.countP fun shift =>
        shift.driverId = driverId ∧ shift.OpenSince run.boundary := by
  change (shifts.rows.map _).countP _ = _
  rw [countP_map]
  apply countP_congr
  intro shift _
  by_cases hcloses : run.Closes shift
  · have hold : ¬ shift.OpenSince run.boundary := fun hsince => hsince.2.not_gt hcloses.1.2
    have hshut : ¬ (run.close shift).OpenSince run.boundary := fun hsince => nomatch hsince.1
    simp [hcloses, hold, hshut]
  · simp [hcloses]

theorem CycleRun.openSince_runDailyCycle (db : CycleDb) (driverId : Uuid) :
    (run.runDailyCycle db).2.openSince run.boundary driverId =
      db.openSince run.boundary driverId + if driverId ∈ run.toOpen then 1 else 0 := by
  obtain ⟨opened, hrows, hdrivers, hopen⟩ := run.rows_runDailyCycle db
  have hnew : opened.countP (fun shift =>
      shift.driverId = driverId ∧ shift.OpenSince run.boundary) = run.toOpen.count driverId := by
    rw [← hdrivers, List.count, countP_map]
    apply countP_congr
    intro shift hshift
    obtain ⟨hstatus, hstarted⟩ := hopen shift hshift
    simp [CycleShift.OpenSince, hstatus, hstarted]
  have honce : run.toOpen.Nodup := run.driverIds_nodup.filter _
  unfold CycleDb.openSince
  rw [hrows, countP_append, run.countP_closeStale, hnew, honce.count]

theorem CycleRun.noneStale_iff (db : CycleDb) :
    (∀ shift ∈ (run.runDailyCycle db).2.shifts.rows, ¬ shift.Stale run.boundary) ↔
      ∀ shift ∈ db.shifts.rows, shift.Stale run.boundary → run.Closes shift := by
  obtain ⟨opened, hrows, _, hopen⟩ := run.rows_runDailyCycle db
  rw [hrows, forall_mem_append]
  constructor
  · rintro ⟨hnone, _⟩ shift hshift hstale
    by_contra hleft
    apply hnone shift _ hstale
    exact Table.mem_updateWhere.2 ⟨shift, hshift, if_neg hleft⟩
  · intro hcloses
    constructor
    · intro shift hshift hstale
      obtain ⟨old, hold, rfl⟩ := Table.mem_updateWhere.1 hshift
      by_cases hclosed : run.Closes old
      · rw [if_pos hclosed] at hstale
        exact absurd hstale.1 (by simp [CycleRun.close])
      · rw [if_neg hclosed] at hstale
        exact hclosed (hcloses old hold hstale)
    · intro shift hshift hstale
      exact absurd hstale.2 (hopen shift hshift).2.not_lt

theorem CycleRun.keepsClosed (db : CycleDb) : KeepsClosed db (run.runDailyCycle db).2 := by
  intro shift hshift hclosed
  obtain ⟨opened, hrows, _⟩ := run.rows_runDailyCycle db
  have hleft : ¬ run.Closes shift := by
    intro hcloses
    exact absurd (hcloses.1.1.symm.trans hclosed) (by decide)
  rw [hrows]
  exact mem_append_left _ (Table.mem_updateWhere.2 ⟨shift, hshift, if_neg hleft⟩)

variable {db : CycleDb}

theorem CycleDb.openSince_le (hsingle : db.SingleOpen) (boundary : ℤ) (driverId : Uuid) :
    db.openSince boundary driverId ≤ 1 := by
  refine le_trans ?_ (hsingle driverId)
  apply countP_mono_left
  intro shift _ hmatch
  have hopen := of_decide_eq_true hmatch
  exact decide_eq_true ⟨hopen.1, hopen.2.1⟩

theorem CycleDb.openSince_pos {boundary : ℤ} {driverId : Uuid} :
    0 < db.openSince boundary driverId ↔
      ∃ shift ∈ db.shifts.rows, shift.driverId = driverId ∧ shift.OpenSince boundary := by
  unfold CycleDb.openSince
  rw [countP_pos_iff]
  simp only [decide_eq_true_eq]

theorem CycleRun.covered_iff (db : CycleDb) :
    run.Covered (run.runDailyCycle db).2 ↔ run.ReadsCurrent db ∧ run.FindsSingle db := by
  have hcount : (∀ driverId ∈ run.driverIds,
        (run.runDailyCycle db).2.openSince run.boundary driverId = 1) ↔
      ∀ driverId ∈ run.driverIds, (driverId ∈ run.openDriverSet ↔
        ∃ shift ∈ db.shifts.rows, shift.driverId = driverId ∧ shift.OpenSince run.boundary) ∧
        db.openSince run.boundary driverId ≤ 1 := by
    refine forall₂_congr fun driverId hdriver => ?_
    rw [run.openSince_runDailyCycle, ← CycleDb.openSince_pos]
    by_cases hread : driverId ∈ run.openDriverSet
    · have hleft : driverId ∉ run.toOpen := fun hopens =>
        of_decide_eq_true (mem_filter.1 hopens).2 hread
      rw [if_neg hleft, iff_true_left hread]
      omega
    · have hopens : driverId ∈ run.toOpen := mem_filter.2 ⟨hdriver, decide_eq_true hread⟩
      rw [if_pos hopens, iff_false_left hread]
      omega
  constructor
  · intro hcovered
    have hdrivers := hcount.1 hcovered.oneOpen
    refine ⟨⟨?_, (run.noneStale_iff db).1 hcovered.noneStale⟩, ?_⟩
    · exact fun driverId hdriver => (hdrivers driverId hdriver).1
    · exact fun driverId hdriver => (hdrivers driverId hdriver).2
  · rintro ⟨hcurrent, hsingle⟩
    refine ⟨hcount.2 fun driverId hdriver => ?_, (run.noneStale_iff db).2 hcurrent.staleShifts⟩
    exact ⟨hcurrent.openShifts driverId hdriver, hsingle driverId hdriver⟩

theorem CycleRun.covered_iff_current (hsingle : db.SingleOpen) :
    run.Covered (run.runDailyCycle db).2 ↔ run.ReadsCurrent db := by
  rw [run.covered_iff]
  exact and_iff_left fun driverId _ => db.openSince_le hsingle run.boundary driverId

theorem CycleRun.singleOpen (hsingle : db.SingleOpen)
    (hcovered : run.Covered (run.runDailyCycle db).2) :
    (run.runDailyCycle db).2.SingleOpen := by
  intro driverId
  have hsame : ((run.runDailyCycle db).2.shifts.rows.countP fun shift =>
      shift.driverId = driverId ∧ shift.status = .OPEN) =
      (run.runDailyCycle db).2.openSince run.boundary driverId := by
    apply countP_congr
    intro shift hshift
    rw [decide_eq_true_iff, decide_eq_true_iff]
    constructor
    · rintro ⟨hdriver, hopen⟩
      have hrecent : ¬ shift.startedAt < run.boundary := fun hold =>
        hcovered.noneStale shift hshift ⟨hopen, hold⟩
      exact ⟨hdriver, hopen, not_lt.1 hrecent⟩
    · rintro ⟨hdriver, hopen, _⟩
      exact ⟨hdriver, hopen⟩
  rw [hsame]
  by_cases hactive : driverId ∈ run.driverIds
  · exact (hcovered.oneOpen driverId hactive).le
  · have hleft : driverId ∉ run.toOpen := fun hopen => hactive (mem_of_mem_filter hopen)
    rw [run.openSince_runDailyCycle, if_neg hleft]
    exact db.openSince_le hsingle _ _

end Run

instance : Std.Refl KeepsClosed := ⟨fun _ _ hshift _ => hshift⟩

instance : IsTrans CycleDb KeepsClosed :=
  ⟨fun _ _ _ hfirst hsecond shift hshift hclosed =>
    hsecond shift (hfirst shift hshift hclosed) hclosed⟩

/-- Every run of a history leaves each of its active drivers one open shift and no older one,
and closed shifts are never touched, exactly if every run read of the open shifts what it finds
when it commits, and finds no second one.  It finds none in a history that starts without. -/
theorem dailyCycle_covers_iff {start : CycleDb} {calls : List CycleCall} {trace : List CycleDb}
    (hlog : cycleCalls.Log (fun _ _ => True) start calls trace) :
    (((∀ found ∈ Calls.occurrences calls trace, found.1.Covers found.2) ∧
        trace.Pairwise fun later earlier => KeepsClosed earlier later) ↔
      ∀ found ∈ Calls.occurrences calls trace,
        found.1.Current found.2 ∧ found.1.FindsSingle found.2) ∧
    (start.SingleOpen → (((∀ found ∈ Calls.occurrences calls trace, found.1.Covers found.2) ∧
          trace.Pairwise fun later earlier => KeepsClosed earlier later) ↔
        ∀ found ∈ Calls.occurrences calls trace, found.1.Current found.2)) := by
  have hclosed : trace.Pairwise fun later earlier => KeepsClosed earlier later := by
    refine (hlog.of_grows fun call db _ _ => ?_).2
    cases call with
    | cycle run => exact run.keepsClosed db
    | roster users => exact fun _ hshift _ => hshift
  simp only [and_iff_left hclosed]
  constructor
  · refine forall₂_congr fun found _ => ?_
    obtain ⟨call, db⟩ := found
    cases call with
    | cycle run => exact run.covered_iff db
    | roster users => exact (and_self_iff (a := True)).symm
  · intro hstart
    refine hlog.calls_iff (R := KeepsClosed) hstart fun call db hsingle _ _ => ?_
    cases call with
    | cycle run =>
        refine ⟨run.covered_iff_current hsingle, fun hcurrent => ⟨?_, run.keepsClosed db⟩⟩
        exact run.singleOpen hsingle ((run.covered_iff_current hsingle).2 hcurrent)
    | roster users => exact ⟨Iff.rfl, fun _ => ⟨hsingle, fun _ hshift _ => hshift⟩⟩

namespace Sample

def cycleDriver : CycleUser := ⟨"driver", .DRIVER, true⟩

def firstDay : CycleDb := ⟨⟨[cycleDriver], nodup_singleton _⟩, .empty⟩

def earlyRun : CycleRun := ⟨1777000000000, .text, firstDay, firstDay, firstDay⟩

def afterCron : CycleDb := (earlyRun.runDailyCycle firstDay).2

theorem earlyRun_saw : ∀ db ∈ CycleCall.seen (.cycle earlyRun), db = firstDay := by
  simp [CycleCall.seen, earlyRun]

theorem cron_log :
    cycleCalls.Log (fun _ _ => True) firstDay [.cycle earlyRun] [afterCron, firstDay] :=
  .call _ .start (fun db hseen => mem_singleton.2 (earlyRun_saw db hseen)) trivial

theorem overlap_log :
    cycleCalls.Log (fun _ _ => True) firstDay [.cycle earlyRun, .cycle earlyRun]
      [(earlyRun.runDailyCycle afterCron).2, afterCron, firstDay] :=
  .call _ cron_log (fun db hseen =>
    mem_cons_of_mem _ (mem_singleton.2 (earlyRun_saw db hseen))) trivial

end Sample

theorem dailyCycle_covers_iff_sample :
    (((∀ found ∈ Calls.occurrences [.cycle Sample.earlyRun] [Sample.afterCron, Sample.firstDay],
          CycleCall.Covers found.1 found.2) ∧
        [Sample.afterCron, Sample.firstDay].Pairwise fun later earlier =>
          KeepsClosed earlier later) ↔
      ∀ found ∈ Calls.occurrences [.cycle Sample.earlyRun] [Sample.afterCron, Sample.firstDay],
        CycleCall.Current found.1 found.2 ∧ CycleCall.FindsSingle found.1 found.2) ∧
    (((∀ found ∈ Calls.occurrences [.cycle Sample.earlyRun] [Sample.afterCron, Sample.firstDay],
          CycleCall.Covers found.1 found.2) ∧
        [Sample.afterCron, Sample.firstDay].Pairwise fun later earlier =>
          KeepsClosed earlier later) ↔
      ∀ found ∈ Calls.occurrences [.cycle Sample.earlyRun] [Sample.afterCron, Sample.firstDay],
        CycleCall.Current found.1 found.2) :=
  ⟨(dailyCycle_covers_iff Sample.cron_log).1,
    (dailyCycle_covers_iff Sample.cron_log).2 fun _ => Nat.zero_le _⟩

theorem dailyCycle_covers_fails :
    ¬ ∀ (start : CycleDb) (calls : List CycleCall) (trace : List CycleDb), start.SingleOpen →
      cycleCalls.Log (fun _ _ => True) start calls trace →
        (∀ found ∈ Calls.occurrences calls trace, found.1.Covers found.2) ∧
          trace.Pairwise fun later earlier => KeepsClosed earlier later := by
  intro hall
  have hcovers := (hall _ _ _ (fun _ => Nat.zero_le _) Sample.overlap_log).1
    (.cycle Sample.earlyRun, Sample.afterCron) (mem_cons_self ..)
  have htwo : (Sample.earlyRun.runDailyCycle Sample.afterCron).2.openSince
      Sample.earlyRun.boundary "driver" = 2 := by decide +kernel
  have hone : (Sample.earlyRun.runDailyCycle Sample.afterCron).2.openSince
      Sample.earlyRun.boundary "driver" = 1 :=
    hcovers.oneOpen "driver" (by decide +kernel)
  omega

end SafariLaundry
