import SafariLaundry.ExpensesSummary
import SafariLaundry.KuwaitTime

/-!
# Attendance

Shifts, managers and devices write the row of a user and a day.  The column of the day is of type
`DATE` and is given the midnight in Kuwait, an instant that has the date of the day before in UTC.
-/

namespace SafariLaundry.Attendance

open Library Library.Calendar List

inductive AttendanceSource where
  | SHIFT_AUTO
  | BIOMETRIC
  | MANUAL

structure User where
  id : Uuid
  (fullName username : String)
  (employeeId civilId : Option String)
  branchId : Option Uuid
  deriving DecidableEq

structure Shift where
  id : Uuid
  driver : User
  startedAt : JsDate
  endedAt : Option JsDate
  status : ShiftStatus
  deriving DecidableEq

structure AttendanceLog where
  branchId : Option Uuid
  (checkInAt checkOutAt : Option JsDate)
  source : AttendanceSource
  (externalRef note : Option String)

/-- The rows under their unique key `userId_date`; the day is a number of days. -/
abbrev AttendanceTable := Uuid × ℤ → Option AttendanceLog

def noRows : AttendanceTable := fun _ => none

def upserted (table : AttendanceTable) (key : Uuid × ℤ) (create : AttendanceLog)
    (update : AttendanceLog → AttendanceLog) : AttendanceLog :=
  match table key with
  | none => create
  | some row => update row

def upsert (table : AttendanceTable) (key : Uuid × ℤ) (create : AttendanceLog)
    (update : AttendanceLog → AttendanceLog) : AttendanceTable :=
  Function.update table key (some (upserted table key create update))

def attendanceDate (at' : JsDate) : Option ℤ :=
  at'.kuwaitMidnightUtc.map JsDate.day

/-- The first ten characters that `toISOString` prints of a day. -/
def isoDay (day : ℤ) : String :=
  let year := yearOf day
  let digits :=
    if 0 ≤ year ∧ year ≤ 9999 then padDigits 4 year
    else (if year < 0 then '-' else '+') :: padDigits 6 |year|
  String.ofList ((digits ++ '-' :: padDigits 2 (monthOf day % 12 + 1) ++
    '-' :: padDigits 2 (dateOf day)).take 10)

/-- A row of the answer; the two instants stand for what `toISOString` prints of them. -/
structure AttendanceRowDto where
  userId : Uuid
  (userName username : String)
  employeeId : Option String
  branchId : Option Uuid
  branchName : Option String
  date : String
  (checkInAtIso checkOutAtIso : Option JsDate)
  durationMinutes : Option ℤ
  source : AttendanceSource
  (externalRef note : Option String)

structure Staff where
  users : List User
  order : RowOrder User
  branchName : Uuid → Option String

def serialize (staff : Staff) (user : User) (date : ℤ) (r : AttendanceLog) :
    AttendanceRowDto where
  userId := user.id
  userName := user.fullName
  username := user.username
  employeeId := user.employeeId
  branchId := r.branchId
  branchName := r.branchId.bind staff.branchName
  date := isoDay date
  checkInAtIso := r.checkInAt
  checkOutAtIso := r.checkOutAt
  durationMinutes := do
    let checkInAt ← r.checkInAt
    let checkOutAt ← r.checkOutAt
    return max 0 ((checkOutAt.time - checkInAt.time + 30000) / 60000)
  source := r.source
  externalRef := r.externalRef
  note := r.note

def Shift.endedAtIfClosed (s : Shift) : Option JsDate :=
  if s.status = .CLOSED then s.endedAt else none

def Shift.create (s : Shift) : AttendanceLog where
  branchId := s.driver.branchId
  checkInAt := s.startedAt
  checkOutAt := s.endedAtIfClosed
  source := .SHIFT_AUTO
  externalRef := s.id
  note := none

def Shift.update (s : Shift) (row : AttendanceLog) : AttendanceLog :=
  { row with
    checkInAt := s.startedAt
    checkOutAt := s.endedAtIfClosed
    branchId := s.driver.branchId
    externalRef := s.id }

def syncShifts : List Shift → AttendanceTable → AttendanceTable × Except ServiceError ℕ
  | [], table => (table, .ok 0)
  | s :: shifts, table =>
      match attendanceDate s.startedAt with
      | none => (table, .error (.error "Invalid Date"))
      | some date =>
          let rest := syncShifts shifts (upsert table (s.driver.id, date) s.create s.update)
          (rest.1, rest.2.map (· + 1))

structure SyncCall where
  shifts : List Shift
  order : RowOrder Shift
  (start stop : JsDate)

def SyncCall.inRange (call : SyncCall) : List Shift :=
  call.shifts.filter fun s =>
    call.start.time ≤ s.startedAt.time ∧ s.startedAt.time < call.stop.time

def syncAttendanceFromShiftsInRange (call : SyncCall) (table : AttendanceTable) :
    AttendanceTable × Except ServiceError ℕ :=
  syncShifts (call.order.arrange call.inRange) table

def parseInt (text : List Char) : Option ℤ :=
  let trimmed := text.dropWhile Char.isWhitespace
  let unsigned := if trimmed.head? = some '+' then trimmed.tail else trimmed
  let digits := unsigned.takeWhile Char.isDigit
  if digits = [] then none else some (Nat.ofDigitChars 10 digits 0)

def toLogicalDate (ymd : String) : Except ServiceError (Option JsDate) :=
  let parts := ((ymd.toList.takeWhile (· ≠ 'T')).splitOn '-').map parseInt
  match parts with
  | [some year, some month, some date] =>
      .ok ((dateUtc year (month - 1) date).bind fun utc => newDate (utc.time - 180 * 60000))
  | _ => .error (.badRequest "date must be YYYY-MM-DD")

/-- The body of an entry by hand; an instant that is given is what `new Date` makes of its text,
which may be no date. -/
structure ManualAttendanceDto where
  userId : Uuid
  date : String
  (checkInAt checkOutAt : Option (Option JsDate))
  note : Option String

def MayEdit (actorRole : SafariRole) : Prop :=
  actorRole = .OWNER ∨ actorRole = .MANAGER ∨ actorRole = .ACCOUNTANT
  deriving Decidable

def ManualAttendanceDto.create (dto : ManualAttendanceDto) (user : User) : AttendanceLog where
  branchId := user.branchId
  checkInAt := dto.checkInAt.join
  checkOutAt := dto.checkOutAt.join
  source := .MANUAL
  externalRef := none
  note := dto.note

def ManualAttendanceDto.update (dto : ManualAttendanceDto) (row : AttendanceLog) :
    AttendanceLog :=
  { row with
    checkInAt := dto.checkInAt.getD row.checkInAt
    checkOutAt := dto.checkOutAt.getD row.checkOutAt
    source := .MANUAL
    note := dto.note }

def ManualAttendanceDto.accepted (dto : ManualAttendanceDto) (staff : Staff)
    (actorRole : SafariRole) : Except ServiceError (User × ℤ) :=
  if ¬ MayEdit actorRole then .error (.badRequest "Role cannot edit attendance")
  else
    match staff.users.find? fun user => user.id = dto.userId with
    | none => .error (.notFound "User not found")
    | some user =>
        match toLogicalDate dto.date with
        | .error err => .error err
        | .ok none => .error (.error "Invalid Date")
        | .ok (some date) =>
            -- a date that is none is refused by the upsert
            if dto.checkInAt = some none ∨ dto.checkOutAt = some none then
              .error (.error "Invalid Date")
            else .ok (user, date.day)

def upsertManual (staff : Staff) (actorRole : SafariRole) (dto : ManualAttendanceDto)
    (table : AttendanceTable) : Except ServiceError (AttendanceTable × AttendanceRowDto) :=
  (dto.accepted staff actorRole).map fun (user, date) =>
    let row := upserted table (user.id, date) (dto.create user) dto.update
    (upsert table (user.id, date) (dto.create user) dto.update, serialize staff user date row)

inductive BiometricAction where
  | CHECK_IN
  | CHECK_OUT
  deriving DecidableEq

/-- The body of an event; the instant is what `new Date` makes of `atIso`. -/
structure BiometricEventDto where
  (civilId externalUserRef : Option String)
  action : BiometricAction
  at' : Option JsDate
  deviceId : String
  metaText : Option String

def given (text : Option String) : Option String := text.filter (· ≠ "")

def BiometricEventDto.create (dto : BiometricEventDto) (user : User) : AttendanceLog where
  branchId := user.branchId
  checkInAt := if dto.action = .CHECK_IN then dto.at' else none
  checkOutAt := if dto.action = .CHECK_OUT then dto.at' else none
  source := .BIOMETRIC
  externalRef := dto.deviceId
  note := dto.metaText

/-- `next`. -/
def BiometricEventDto.update (dto : BiometricEventDto) (row : AttendanceLog) : AttendanceLog :=
  { row with
    checkInAt := if dto.action = .CHECK_IN then dto.at' else row.checkInAt
    checkOutAt := if dto.action = .CHECK_IN then row.checkOutAt else dto.at'
    source := .BIOMETRIC
    externalRef := dto.deviceId
    note := dto.metaText.or row.note }

def Staff.matching (staff : Staff) (dto : BiometricEventDto) : Option User :=
  (staff.order.arrange (staff.users.filter fun user =>
    (given dto.civilId ≠ none ∧ user.civilId = dto.civilId) ∨
      (given dto.externalUserRef ≠ none ∧ user.employeeId = dto.externalUserRef))).head?

def BiometricEventDto.accepted (dto : BiometricEventDto) (staff : Staff) :
    Except ServiceError (User × ℤ) :=
  if given dto.civilId = none ∧ given dto.externalUserRef = none then
    .error (.badRequest "civilId or externalUserRef is required")
  else
    match staff.matching dto with
    | none => .error (.notFound "No Safari Omni user matches the device payload")
    | some user =>
        match dto.at'.bind attendanceDate with
        | none => .error (.error "Invalid Date")
        | some date => .ok (user, date)

def recordBiometricEvent (staff : Staff) (dto : BiometricEventDto) (table : AttendanceTable) :
    Except ServiceError (AttendanceTable × AttendanceRowDto) :=
  (dto.accepted staff).map fun (user, date) =>
    let row := upserted table (user.id, date) (dto.create user) dto.update
    (upsert table (user.id, date) (dto.create user) dto.update, serialize staff user date row)

inductive AttendanceStep where
  | sync (call : SyncCall)
  | manual (staff : Staff) (actorRole : SafariRole) (dto : ManualAttendanceDto)
  | biometric (staff : Staff) (dto : BiometricEventDto)

def AttendanceStep.apply (table : AttendanceTable) : AttendanceStep → AttendanceTable
  | .sync call => (syncAttendanceFromShiftsInRange call table).1
  | .manual staff actorRole dto =>
      match upsertManual staff actorRole dto table with
      | .ok (table', _) => table'
      | .error _ => table
  | .biometric staff dto =>
      match recordBiometricEvent staff dto table with
      | .ok (table', _) => table'
      | .error _ => table

def SyncCall.ofDay (call : SyncCall) (driverId : Uuid) (date : ℤ) : List Shift :=
  call.inRange.filter fun s => s.driver.id = driverId ∧ attendanceDate s.startedAt = some date

structure SyncCall.Laws (call : SyncCall) (table : AttendanceTable) : Prop where
  anyOrder : ∀ order : RowOrder Shift,
    (syncAttendanceFromShiftsInRange { call with order := order } table).1 =
      (syncAttendanceFromShiftsInRange call table).1
  idempotent : ∀ order : RowOrder Shift,
    (syncAttendanceFromShiftsInRange { call with order := order }
      (syncAttendanceFromShiftsInRange call table).1).1 =
      (syncAttendanceFromShiftsInRange call table).1
  keepsOthers : ∀ key row, table key = some row → row.source ≠ .SHIFT_AUTO →
    (syncAttendanceFromShiftsInRange call table).1 key = some row
  spans : ∀ driverId date, 2 ≤ (call.ofDay driverId date).length →
    ∃ row checkIn, (syncAttendanceFromShiftsInRange call table).1 (driverId, date) = some row ∧
      row.checkInAt = some checkIn ∧
      (∀ s ∈ call.ofDay driverId date, checkIn.time ≤ s.startedAt.time) ∧
      (∃ s ∈ call.ofDay driverId date, s.startedAt = checkIn) ∧
      ∀ s ∈ call.ofDay driverId date, ∀ out ∈ s.endedAtIfClosed,
        ∃ checkOut ∈ row.checkOutAt, out.time ≤ checkOut.time

def AttendanceStep.Laws (table : AttendanceTable) : AttendanceStep → Prop
  | .sync call => call.Laws table
  | _ => True

def DatesRight (table : AttendanceTable) : Prop :=
  ∀ userId date row checkIn, table (userId, date) = some row → row.checkInAt = some checkIn →
    isoDay date = isoDay checkIn.localDay

/-- What holds along a run. -/
def Lawful (table : AttendanceTable) : List AttendanceStep → Prop
  | [] => DatesRight table
  | step :: run => DatesRight table ∧ step.Laws table ∧ Lawful (step.apply table) run

/-- No shift for a sync, no check-in for a device, and by hand only a check-in on the day in Kuwait
before the date of the entry. -/
def AttendanceStep.Meets : AttendanceStep → Prop
  | .sync call => call.inRange = []
  | .manual staff actorRole dto =>
      ∀ user date checkIn, dto.accepted staff actorRole = .ok (user, date) →
        dto.checkInAt = some (some checkIn) → checkIn.localDay = date
  | .biometric staff dto =>
      dto.action = .CHECK_IN → ∀ user date, dto.accepted staff ≠ .ok (user, date)

def UsualDay (day : ℤ) : Prop :=
  1000 ≤ yearOf day ∧ yearOf day ≤ 9999

def AttendanceStep.Usual : AttendanceStep → Prop
  | .sync call => ∀ s ∈ call.shifts, UsualDay s.startedAt.localDay ∧
      UsualDay (s.startedAt.localDay - 1)
  | .manual staff actorRole dto => ∀ user date, dto.accepted staff actorRole = .ok (user, date) →
      UsualDay date ∧ ∀ checkIn, dto.checkInAt = some (some checkIn) → UsualDay checkIn.localDay
  | .biometric _ dto => ∀ at' ∈ dto.at', UsualDay at'.localDay ∧ UsualDay (at'.localDay - 1)

/-! ## Steps -/

@[simp] theorem upsert_self (table : AttendanceTable) (key : Uuid × ℤ) (create : AttendanceLog)
    (update : AttendanceLog → AttendanceLog) :
    upsert table key create update key = some (upserted table key create update) :=
  Function.update_self ..

variable {key : Uuid × ℤ} {table : AttendanceTable} {update : AttendanceLog → AttendanceLog}

theorem upsert_of_ne (table : AttendanceTable) {other : Uuid × ℤ} (create : AttendanceLog)
    (update : AttendanceLog → AttendanceLog) (hne : other ≠ key) :
    upsert table key create update other = table other :=
  Function.update_of_ne hne ..

variable {create : AttendanceLog} {call : SyncCall} {run : List AttendanceStep}

theorem DatesRight.upsert (hright : DatesRight table)
    (hcreate : ∀ checkIn ∈ create.checkInAt, isoDay key.2 = isoDay checkIn.localDay)
    (hupdate : ∀ row, ∀ checkIn ∈ (update row).checkInAt,
      row.checkInAt = some checkIn ∨ isoDay key.2 = isoDay checkIn.localDay) :
    DatesRight (upsert table key create update) := by
  intro userId date row checkIn hrow hcheckIn
  by_cases hkey : (userId, date) = key
  · subst hkey
    rw [upsert_self, Option.some_inj] at hrow
    subst hrow
    unfold upserted at hcheckIn
    cases hold : table (userId, date) with
    | none =>
        rw [hold] at hcheckIn
        exact hcreate checkIn hcheckIn
    | some old =>
        rw [hold] at hcheckIn
        rcases hupdate old checkIn hcheckIn with hkept | hnew
        · exact hright userId date old checkIn hold hkept
        · exact hnew
  · rw [upsert_of_ne _ _ _ hkey] at hrow
    exact hright userId date row checkIn hrow hcheckIn

theorem apply_manual (table : AttendanceTable) (staff : Staff) (actorRole : SafariRole)
    (dto : ManualAttendanceDto) :
    (AttendanceStep.manual staff actorRole dto).apply table =
      match dto.accepted staff actorRole with
      | .ok (user, date) => upsert table (user.id, date) (dto.create user) dto.update
      | .error _ => table := by
  simp only [AttendanceStep.apply, upsertManual]
  cases dto.accepted staff actorRole <;> rfl

theorem apply_biometric (table : AttendanceTable) (staff : Staff) (dto : BiometricEventDto) :
    (AttendanceStep.biometric staff dto).apply table =
      match dto.accepted staff with
      | .ok (user, date) => upsert table (user.id, date) (dto.create user) dto.update
      | .error _ => table := by
  simp only [AttendanceStep.apply, recordBiometricEvent]
  cases dto.accepted staff <;> rfl

theorem sync_eq_self (hnone : call.inRange = []) (table : AttendanceTable) :
    (syncAttendanceFromShiftsInRange call table).1 = table := by
  unfold syncAttendanceFromShiftsInRange
  rw [hnone, (call.order.perm []).eq_nil]
  rfl

theorem SyncCall.laws_of_none (hnone : call.inRange = []) (table : AttendanceTable) :
    call.Laws table := by
  have hself : ∀ (order : RowOrder Shift) (table : AttendanceTable),
      (syncAttendanceFromShiftsInRange { call with order := order } table).1 = table :=
    fun order table => @sync_eq_self { call with order := order } hnone table
  have hcall : (syncAttendanceFromShiftsInRange call table).1 = table := sync_eq_self hnone table
  constructor
  · intro order
    rw [hself, hcall]
  · intro order
    rw [hself]
  · intro key row hrow _
    rw [hcall, hrow]
  · intro driverId date hlength
    simp [SyncCall.ofDay, hnone] at hlength

theorem AttendanceStep.Meets.keeps {step : AttendanceStep} (hmeets : step.Meets)
    (hright : DatesRight table) :
    step.Laws table ∧ DatesRight (step.apply table) := by
  cases step with
  | sync call =>
      refine ⟨SyncCall.laws_of_none hmeets table, ?_⟩
      unfold AttendanceStep.apply
      dsimp only
      rwa [sync_eq_self hmeets]
  | manual staff actorRole dto =>
      refine ⟨trivial, ?_⟩
      rw [apply_manual]
      cases haccepted : dto.accepted staff actorRole with
      | error err => exact hright
      | ok target =>
          obtain ⟨user, date⟩ := target
          have hgiven : ∀ checkIn, dto.checkInAt = some (some checkIn) →
              isoDay date = isoDay checkIn.localDay := by
            intro checkIn hcheckIn
            rw [hmeets user date checkIn haccepted hcheckIn]
          apply hright.upsert
          · intro checkIn hcheckIn
            exact hgiven checkIn (Option.join_eq_some_iff.1 hcheckIn)
          · intro row checkIn hcheckIn
            cases hdto : dto.checkInAt with
            | none =>
                rw [ManualAttendanceDto.update, hdto] at hcheckIn
                exact .inl hcheckIn
            | some checkInAt =>
                rw [ManualAttendanceDto.update, hdto] at hcheckIn
                change checkInAt = some checkIn at hcheckIn
                exact .inr (hgiven checkIn (by rw [hdto, hcheckIn]))
  | biometric staff dto =>
      refine ⟨trivial, ?_⟩
      rw [apply_biometric]
      cases haccepted : dto.accepted staff with
      | error err => exact hright
      | ok target =>
          obtain ⟨user, date⟩ := target
          have haction : dto.action ≠ .CHECK_IN := fun h => hmeets h user date haccepted
          apply hright.upsert
          · intro checkIn hcheckIn
            simp [BiometricEventDto.create, haction] at hcheckIn
          · intro row checkIn hcheckIn
            rw [BiometricEventDto.update, if_neg haction] at hcheckIn
            exact .inl hcheckIn

theorem lawful_of_meets (hmeets : ∀ step ∈ run, step.Meets) (hright : DatesRight table) :
    Lawful table run := by
  induction run generalizing table with
  | nil => exact hright
  | cons step run ih =>
      rw [forall_mem_cons] at hmeets
      obtain ⟨hlaws, hnext⟩ := hmeets.1.keeps hright
      exact ⟨hright, hlaws, ih hmeets.2 hnext⟩

theorem attendanceDate_eq {at' : JsDate} (husual : UsualDay at'.localDay) :
    attendanceDate at' = some (at'.localDay - 1) := by
  obtain ⟨k, utc, start, next, hsteps⟩ := JsDate.FourDigitYear.exists_steps husual
  have hday : start.day = at'.localDay - 1 := by
    have hstart := hsteps.start
    have hoffset : kuwaitOffset = 10800000 := rfl
    unfold JsDate.day
    unfold msPerDay at hstart ⊢
    omega
  rw [attendanceDate, hsteps.kuwaitMidnightUtc, Option.map_some, hday]

theorem isoDay_eq_dayText {day : ℤ} (husual : UsualDay day) :
    isoDay day = dayText (yearOf day) (monthOf day % 12 + 1) (dateOf day) := by
  have hone := one_le_dateOf day
  have hlast := dateOf_le day
  obtain ⟨hlow, hhigh⟩ := husual
  have hwhole : (dayText (yearOf day) (monthOf day % 12 + 1) (dateOf day)).toList.take 10 = _ :=
    (dayParts_dayText hlow hhigh (by omega) (by omega) (by omega) (by omega)).1
  have hlength : 4 ≤ (toString (yearOf day)).toList.length := by
    rw [toList_toString (by omega)]
    by_contra hlength
    have hshort : (Nat.toDigits 10 (yearOf day).toNat).length ≤ 3 := by omega
    exact absurd ((Nat.length_toDigits_le_iff (by decide) (by decide)).1 hshort) (by omega)
  have hdigits : padDigits 4 (yearOf day) = (toString (yearOf day)).toList := by
    unfold padDigits
    rw [List.leftpad, Nat.sub_eq_zero_of_le hlength]
    rfl
  have hsame : padDigits 4 (yearOf day) ++ '-' :: padDigits 2 (monthOf day % 12 + 1) ++
      '-' :: padDigits 2 (dateOf day) =
        (dayText (yearOf day) (monthOf day % 12 + 1) (dateOf day)).toList := by
    rw [hdigits]
    simp [dayText, padTwo, padDigits]
  unfold isoDay
  dsimp only
  rw [if_pos ⟨by omega, hhigh⟩, hsame, hwhole, String.ofList_toList]

theorem isoDay_inj {day day' : ℤ} (husual : UsualDay day) (husual' : UsualDay day')
    (hsame : isoDay day = isoDay day') : day = day' := by
  have hone := one_le_dateOf day
  have hlast := dateOf_le day
  have hone' := one_le_dateOf day'
  have hlast' := dateOf_le day'
  rw [isoDay_eq_dayText husual, isoDay_eq_dayText husual'] at hsame
  have hparts := (dayParts_dayText husual.1 husual.2 (by omega) (by omega) (by omega)
    (by omega)).2.symm.trans ((congrArg (fun text => dayParts text.toList) hsame).trans
      (dayParts_dayText husual'.1 husual'.2 (by omega) (by omega) (by omega) (by omega)).2)
  simp only [Option.some.injEq, Prod.mk.injEq] at hparts
  obtain ⟨hyear, hmonth, hdate⟩ := hparts
  have hlow := husual.1
  have hlow' := husual'.1
  have hmonths : monthOf day = monthOf day' := by
    have hdiv := monthOf_div day
    have hdiv' := monthOf_div day'
    omega
  have hbegin := monthBegin_add_dateOf day
  have hbegin' := monthBegin_add_dateOf day'
  rw [hmonths] at hbegin
  omega

/-! ## Runs that break the laws -/

theorem syncShifts_append {shifts : List Shift} (more : List Shift)
    (hdates : ∀ s ∈ shifts, attendanceDate s.startedAt ≠ none) (table : AttendanceTable) :
    (syncShifts (shifts ++ more) table).1 = (syncShifts more (syncShifts shifts table).1).1 := by
  induction shifts generalizing table with
  | nil => rfl
  | cons s shifts ih =>
      rw [forall_mem_cons] at hdates
      obtain ⟨date, hdate⟩ := Option.ne_none_iff_exists'.1 hdates.1
      simp only [cons_append, syncShifts, hdate]
      exact ih hdates.2 _

theorem syncShifts_singleton {s : Shift} {date : ℤ} (hdate : attendanceDate s.startedAt = some date)
    (table : AttendanceTable) :
    (syncShifts [s] table).1 = upsert table (s.driver.id, date) s.create s.update := by
  simp only [syncShifts, hdate]

def Shift.written (s : Shift) : JsDate × Option JsDate × Option Uuid × Uuid :=
  (s.startedAt, s.endedAtIfClosed, s.driver.branchId, s.id)

theorem Shift.upserted_eq_iff {s s' : Shift} :
    upserted table key s.create s.update = upserted table key s'.create s'.update ↔
      s.written = s'.written := by
  unfold upserted
  cases table key with
  | none =>
      simp only [Shift.create, Shift.written, AttendanceLog.mk.injEq, Prod.mk.injEq,
        Option.some.injEq]
      tauto
  | some row =>
      simp only [Shift.update, Shift.written, AttendanceLog.mk.injEq, Prod.mk.injEq,
        Option.some.injEq]
      tauto

/-- A shift that comes after another one writes as if it came alone. -/
theorem Shift.upserted_again {table' : AttendanceTable} {s s' : Shift}
    (hwritten : table' key = some (upserted table key s'.create s'.update)) :
    upserted table' key s.create s.update = upserted table key s.create s.update := by
  rw [upserted, hwritten]
  unfold upserted
  cases table key <;> rfl

def shiftsOf (userId : Uuid) (date : ℤ) (shifts : List Shift) : List Shift :=
  shifts.filter fun s => s.driver.id = userId ∧ attendanceDate s.startedAt = some date

theorem syncShifts_apply {shifts : List Shift}
    (hdates : ∀ s ∈ shifts, attendanceDate s.startedAt ≠ none) (table : AttendanceTable)
    (userId : Uuid) (date : ℤ) :
    (syncShifts shifts table).1 (userId, date) =
      ((shiftsOf userId date shifts).getLast?.map fun s =>
        upserted table (userId, date) s.create s.update).or (table (userId, date)) := by
  induction shifts using List.reverseRecOn with
  | nil => rfl
  | append_singleton shifts s ih =>
      have hbefore : ∀ s ∈ shifts, attendanceDate s.startedAt ≠ none := fun s hs =>
        hdates s (mem_append_left _ hs)
      have hrow := ih hbefore
      obtain ⟨day, hday⟩ := Option.ne_none_iff_exists'.1 (hdates s (by simp))
      rw [syncShifts_append _ hbefore, syncShifts_singleton hday]
      unfold shiftsOf at hrow ⊢
      rw [filter_append]
      by_cases hkey : s.driver.id = userId ∧ day = date
      · obtain ⟨rfl, rfl⟩ := hkey
        rw [upsert_self, filter_cons_of_pos (by simp [hday]), filter_nil,
          List.getLast?_concat, Option.map_some, Option.some_or, Option.some_inj]
        cases hlast : (shifts.filter fun s' => s'.driver.id = s.driver.id ∧
            attendanceDate s'.startedAt = some day).getLast? with
        | none =>
            rw [hlast, Option.map_none, Option.none_or] at hrow
            unfold upserted
            rw [hrow]
        | some other =>
            rw [hlast, Option.map_some, Option.some_or] at hrow
            exact Shift.upserted_again hrow
      · rw [upsert_of_ne _ _ _ (by simpa [Prod.ext_iff, eq_comm] using hkey),
          filter_cons_of_neg (by simpa [hday] using hkey), filter_nil, append_nil,
          hrow]

def lastOrder (s : Shift) : RowOrder Shift where
  arrange rows := if s ∈ rows then rows.erase s ++ [s] else rows
  perm rows := by
    split_ifs with hmem
    · exact (perm_append_singleton s _).trans (perm_cons_erase hmem).symm
    · exact List.Perm.refl rows

theorem sync_anyOrder_iff (hdates : ∀ s ∈ call.inRange, attendanceDate s.startedAt ≠ none)
    (table : AttendanceTable) :
    (∀ order order' : RowOrder Shift,
      (syncAttendanceFromShiftsInRange { call with order := order } table).1 =
        (syncAttendanceFromShiftsInRange { call with order := order' } table).1) ↔
      ∀ s ∈ call.inRange, ∀ s' ∈ call.inRange, s.driver.id = s'.driver.id →
        attendanceDate s.startedAt = attendanceDate s'.startedAt → s.written = s'.written := by
  have hsync : ∀ (order : RowOrder Shift) (userId : Uuid) (date : ℤ),
      (syncAttendanceFromShiftsInRange { call with order := order } table).1 (userId, date) =
        ((shiftsOf userId date (order.arrange call.inRange)).getLast?.map fun s =>
          upserted table (userId, date) s.create s.update).or (table (userId, date)) :=
    fun order userId date =>
      syncShifts_apply (fun s hs => hdates s (RowOrder.mem_arrange.1 hs)) table userId date
  constructor
  · intro hany s hs s' hs' hdriver hdate
    obtain ⟨date, hday⟩ := Option.ne_none_iff_exists'.1 (hdates s hs)
    have hlast : ∀ last ∈ call.inRange, last.driver.id = s.driver.id →
        attendanceDate last.startedAt = some date →
        (shiftsOf s.driver.id date ((lastOrder last).arrange call.inRange)).getLast? =
          some last := by
      intro last hmem hdriver hday
      unfold shiftsOf lastOrder
      dsimp only
      rw [if_pos hmem, filter_append, filter_cons_of_pos (by simp [hdriver, hday]),
        filter_nil, List.getLast?_concat]
    have hsame := congrFun (hany (lastOrder s) (lastOrder s')) (s.driver.id, date)
    rw [hsync, hsync, hlast s hs rfl hday, hlast s' hs' hdriver.symm (hdate ▸ hday)] at hsame
    exact Shift.upserted_eq_iff.1 (Option.some_inj.1 hsame)
  · intro hwritten order order'
    funext ⟨userId, date⟩
    rw [hsync, hsync]
    have hperm : (shiftsOf userId date (order.arrange call.inRange)).Perm
        (shiftsOf userId date (order'.arrange call.inRange)) :=
      ((order.perm _).trans (order'.perm _).symm).filter _
    have hmem : ∀ (order : RowOrder Shift), ∀ s ∈ shiftsOf userId date (order.arrange call.inRange),
        s ∈ call.inRange ∧ s.driver.id = userId ∧ attendanceDate s.startedAt = some date := by
      intro order s hs
      obtain ⟨hrow, hkey⟩ := mem_filter.1 hs
      exact ⟨RowOrder.mem_arrange.1 hrow, of_decide_eq_true hkey⟩
    cases hfirst : (shiftsOf userId date (order.arrange call.inRange)).getLast? with
    | none =>
        rw [List.getLast?_eq_none_iff] at hfirst
        rw [hfirst] at hperm
        rw [hperm.symm.eq_nil, List.getLast?_nil]
    | some s =>
        cases hsecond : (shiftsOf userId date (order'.arrange call.inRange)).getLast? with
        | none =>
            rw [List.getLast?_eq_none_iff] at hsecond
            rw [hsecond] at hperm
            rw [hperm.eq_nil] at hfirst
            cases hfirst
        | some s' =>
            obtain ⟨hs, hdriver, hday⟩ := hmem order s (mem_of_getLast? hfirst)
            obtain ⟨hs', hdriver', hday'⟩ := hmem order' s' (mem_of_getLast? hsecond)
            have hsame := hwritten s hs s' hs' (hdriver.trans hdriver'.symm) (hday.trans hday'.symm)
            rw [Option.map_some, Option.map_some, Shift.upserted_eq_iff.2 hsame]

theorem DatesRight.of_upsert {userId : Uuid} {date : ℤ} {checkIn : JsDate}
    (hright : DatesRight (Attendance.upsert table (userId, date) create update))
    (hcreate : create.checkInAt = some checkIn)
    (hupdate : ∀ row, (update row).checkInAt = some checkIn) :
    isoDay date = isoDay checkIn.localDay := by
  refine hright userId date _ checkIn (upsert_self ..) ?_
  unfold upserted
  cases table (userId, date) with
  | none => exact hcreate
  | some row => exact hupdate row

theorem not_datesRight_upsert {userId : Uuid} {checkIn : JsDate}
    (husual : UsualDay checkIn.localDay) (hbefore : UsualDay (checkIn.localDay - 1))
    (hcreate : create.checkInAt = some checkIn)
    (hupdate : ∀ row, (update row).checkInAt = some checkIn) :
    ¬ DatesRight (Attendance.upsert table (userId, checkIn.localDay - 1) create update) := by
  intro hright
  have hsame := isoDay_inj hbefore husual (hright.of_upsert hcreate hupdate)
  omega

theorem meets_of_datesRight {step : AttendanceStep} (husual : step.Usual)
    (hright : DatesRight (step.apply table)) : step.Meets := by
  cases step with
  | sync call =>
      unfold AttendanceStep.Meets
      by_contra hsome
      have hmem : ∀ s ∈ call.order.arrange call.inRange, UsualDay s.startedAt.localDay ∧
          UsualDay (s.startedAt.localDay - 1) := fun s hs =>
        husual s (mem_filter.1 (RowOrder.mem_arrange.1 hs)).1
      unfold AttendanceStep.apply syncAttendanceFromShiftsInRange at hright
      dsimp only at hright
      -- the last shift that is written stays
      rcases eq_nil_or_concat' (call.order.arrange call.inRange) with hnil | ⟨shifts, s, hlast⟩
      · exact hsome ((call.order.perm _).symm.trans (List.Perm.of_eq hnil)).eq_nil
      · rw [hlast] at hright hmem
        obtain ⟨hday, hbefore⟩ := hmem s (by simp)
        rw [syncShifts_append _ fun s' hs' => by
          rw [attendanceDate_eq (hmem s' (mem_append_left _ hs')).1]
          exact Option.some_ne_none _,
          syncShifts_singleton (attendanceDate_eq hday)] at hright
        exact not_datesRight_upsert hday hbefore rfl (fun _ => rfl) hright
  | manual staff actorRole dto =>
      intro user date checkIn haccepted hcheckIn
      obtain ⟨hdate, hday⟩ := husual user date haccepted
      rw [apply_manual, haccepted] at hright
      refine (isoDay_inj hdate (hday checkIn hcheckIn) (hright.of_upsert ?_ fun row => ?_)).symm
      · simp [ManualAttendanceDto.create, hcheckIn]
      · simp [ManualAttendanceDto.update, hcheckIn]
  | biometric staff dto =>
      intro haction user date haccepted
      rw [apply_biometric, haccepted] at hright
      unfold BiometricEventDto.accepted at haccepted
      split at haccepted
      · cases haccepted
      cases hstaff : staff.matching dto with
      | none =>
          rw [hstaff] at haccepted
          cases haccepted
      | some found =>
          cases hat : dto.at' with
          | none =>
              rw [hstaff, hat] at haccepted
              cases haccepted
          | some checkIn =>
              obtain ⟨hday, hbefore⟩ := husual checkIn hat
              rw [hstaff, hat, Option.bind_some, attendanceDate_eq hday] at haccepted
              cases haccepted
              refine not_datesRight_upsert hday hbefore ?_ (fun row => ?_) hright
              · simp [BiometricEventDto.create, haction, hat]
              · simp [BiometricEventDto.update, haction, hat]

theorem Lawful.datesRight (hlawful : Lawful table run) :
    DatesRight table := by
  cases run with
  | nil => exact hlawful
  | cons step run => exact hlawful.1

theorem meets_of_lawful (husual : ∀ step ∈ run, step.Usual) (hlawful : Lawful table run) :
    ∀ step ∈ run, step.Meets := by
  induction run generalizing table with
  | nil => exact forall_mem_nil _
  | cons step run ih =>
      rw [forall_mem_cons] at husual ⊢
      obtain ⟨_, _, hrest⟩ := hlawful
      exact ⟨meets_of_datesRight husual.1 hrest.datesRight, ih husual.2 hrest⟩

theorem datesRight_noRows : DatesRight noRows := by
  intro userId date row checkIn hrow
  cases hrow

/-- Runs that meet the condition keep the laws in every state; in the years of four digits no
other runs do. -/
theorem lawful_run (run : List AttendanceStep) :
    ((∀ step ∈ run, step.Meets) → Lawful noRows run) ∧
      ((∀ step ∈ run, step.Usual) → Lawful noRows run → ∀ step ∈ run, step.Meets) :=
  ⟨fun hmeets => lawful_of_meets hmeets datesRight_noRows,
    fun husual hlawful => meets_of_lawful husual hlawful⟩

def driver : User where
  id := "driver"
  fullName := "Driver"
  username := "driver"
  employeeId := none
  civilId := none
  branchId := none

def tenInTheMorning : JsDate := ⟨1767596400000, by decide⟩

def dayAfter : AttendanceStep :=
  .manual ⟨[driver], ⟨id, fun _ => List.Perm.refl _⟩, fun _ => none⟩ .OWNER
    { userId := "driver"
      date := "2026-01-06"
      checkInAt := some (some tenInTheMorning)
      checkOutAt := none
      note := none }

theorem lawful_run_dayAfter : Lawful noRows [dayAfter] := by
  apply (lawful_run [dayAfter]).1
  rw [forall_mem_singleton]
  intro user date checkIn haccepted hcheckIn
  cases hcheckIn
  have haccepts : ManualAttendanceDto.accepted ⟨"driver", "2026-01-06",
      some (some tenInTheMorning), none, none⟩ ⟨[driver], ⟨id, fun _ => List.Perm.refl _⟩,
        fun _ => none⟩ .OWNER = .ok (driver, 20458) := by rfl
  cases haccepts.symm.trans haccepted
  decide

def oneShift : SyncCall where
  shifts := [⟨"shift", driver, tenInTheMorning, some ⟨1767625200000, by decide⟩, .CLOSED⟩]
  order := ⟨id, fun _ => List.Perm.refl _⟩
  start := ⟨1767560400000, by decide⟩
  stop := ⟨1767646800000, by decide⟩

def withSecond (startedAt : JsDate) : SyncCall where
  shifts := [⟨"morning", driver, tenInTheMorning, some ⟨1767610800000, by decide⟩, .CLOSED⟩,
    ⟨"second", driver, startedAt, none, .OPEN⟩]
  order := ⟨id, fun _ => List.Perm.refl _⟩
  start := ⟨1767560400000, by decide⟩
  stop := ⟨1767733200000, by decide⟩

def fourInTheAfternoon : JsDate := ⟨1767618000000, by decide⟩

def nextMorning : JsDate := ⟨1767682800000, by decide⟩

/-- Two shifts of a driver: the order matters where they are on one day. -/
theorem sync_anyOrder_twoShifts :
    (¬ ∀ order order' : RowOrder Shift, (syncAttendanceFromShiftsInRange
          { withSecond fourInTheAfternoon with order := order } noRows).1 =
        (syncAttendanceFromShiftsInRange
          { withSecond fourInTheAfternoon with order := order' } noRows).1) ∧
      ∀ order order' : RowOrder Shift,
        (syncAttendanceFromShiftsInRange { withSecond nextMorning with order := order } noRows).1 =
          (syncAttendanceFromShiftsInRange
            { withSecond nextMorning with order := order' } noRows).1 := by
  constructor
  · rw [sync_anyOrder_iff (by decide) noRows]
    decide
  · rw [sync_anyOrder_iff (by decide) noRows]
    decide

/-- The row is printed with the fourth of January. -/
theorem not_lawful_oneShift : ¬ Lawful noRows [.sync oneShift] := by
  intro hlawful
  have husual : ∀ step ∈ [AttendanceStep.sync oneShift], step.Usual := by
    simp only [forall_mem_singleton, AttendanceStep.Usual, oneShift, UsualDay]
    decide +kernel
  have hmeets := meets_of_lawful husual hlawful _ (mem_singleton_self _)
  exact absurd hmeets (by simp [AttendanceStep.Meets, SyncCall.inRange, oneShift, tenInTheMorning])

end SafariLaundry.Attendance
