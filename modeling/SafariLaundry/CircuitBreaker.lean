import SafariLaundry.Library.History

/-!
# The circuit breaker of the integrations

`integration-circuit-breaker.service.ts` keeps one record for each integration in Redis, which
forgets it a day after the last write.  A call reads the record and writes it without a lock, so
that another call may have written in between.
-/

namespace SafariLaundry.CircuitBreaker

open Library

inductive CircuitState
  | CLOSED
  | OPEN
  | HALF_OPEN
  deriving DecidableEq

structure CircuitRecord where
  state : CircuitState
  (failures total windowStartedAt openedUntil openedAt : ℕ)

def failureThreshold : ℕ := 5

def windowMs : ℕ := 60000

def dayMs : ℕ := 24 * 60 * 60 * 1000

def closedRecord (now : ℕ) : CircuitRecord where
  state := .CLOSED
  failures := 0
  total := 0
  windowStartedAt := now
  openedUntil := 0
  openedAt := 0

structure RedisCell where
  record : CircuitRecord
  expiresAt : ℕ

def read (cell : Option RedisCell) (now : ℕ) : CircuitRecord :=
  match cell with
  | some stored => if now < stored.expiresAt then stored.record else closedRecord now
  | none => closedRecord now

/-- `set` with `PX`. -/
def write (record : CircuitRecord) (now : ℕ) : Option RedisCell := some ⟨record, now + dayMs⟩

/-- The answer, and the record that is written, if one is. -/
def beforeRequest (record : CircuitRecord) (now : ℕ) : CircuitState × Option CircuitRecord :=
  if record.state = .OPEN ∧ now < record.openedUntil then (.OPEN, none)
  else if record.state = .OPEN then (.HALF_OPEN, some { record with state := .HALF_OPEN })
  else (record.state, none)

def recordSuccess (record : CircuitRecord) : CircuitRecord where
  state := .CLOSED
  failures := 0
  total := record.total + 1
  windowStartedAt := record.windowStartedAt
  openedUntil := 0
  openedAt := 0

def CircuitRecord.inWindow (record : CircuitRecord) (now : ℕ) : CircuitRecord :=
  if windowMs < now - record.windowStartedAt then
    { record with
      failures := 0
      total := 0
      windowStartedAt := now }
  else record

/-- The test of `recordFailure`, of the record in its window. -/
def Opens (record : CircuitRecord) : Prop :=
  record.state = .HALF_OPEN ∨ failureThreshold ≤ record.failures + 1 ∨
    10 ≤ record.total + 1 ∧ record.total + 1 ≤ 2 * (record.failures + 1)
  deriving Decidable

def recordFailure (openMs : ℕ) (read : CircuitRecord) (now : ℕ) : CircuitState × CircuitRecord :=
  let record := read.inWindow now
  let counted := { record with
    failures := record.failures + 1
    total := record.total + 1 }
  if Opens record then
    (.OPEN, { counted with
      state := .OPEN
      openedUntil := now + openMs
      openedAt := now })
  else (record.state, counted)

inductive Verdict
  | success
  | trip (now : ℕ)

structure Breaker where
  cell : Option RedisCell
  /-- When the last call wrote. -/
  clock : ℕ
  /-- Not in Redis: the successes and the failures that opened the circuit, newest first. -/
  log : List Verdict

def Breaker.initial : Breaker := ⟨none, 0, []⟩

inductive BreakerKind
  | beforeRequest
  | recordSuccess
  | recordFailure

/-- It read the cell of `seen` at `readAt` and went on at `now`. -/
structure BreakerCall where
  kind : BreakerKind
  seen : Breaker
  (readAt now : ℕ)

namespace BreakerCall

variable (openMs : ℕ) (call : BreakerCall)

def record : CircuitRecord := read call.seen.cell call.readAt

def apply (s : Breaker) : Breaker :=
  match call.kind with
  | .beforeRequest =>
      { s with
        cell := match (beforeRequest call.record call.now).2 with
          | some record => write record call.now
          | none => s.cell
        clock := call.now }
  | .recordSuccess =>
      { cell := write (recordSuccess call.record) call.now
        clock := call.now
        log := .success :: s.log }
  | .recordFailure =>
      { cell := write (recordFailure openMs call.record call.now).2 call.now
        clock := call.now
        log := if Opens (call.record.inWindow call.now) then .trip call.now :: s.log else s.log }

def Timely (s : Breaker) : Prop := call.readAt ≤ call.now ∧ s.clock ≤ call.now

/-- Nobody wrote since the call read. -/
def FindsTheSame (s : Breaker) : Prop := call.seen.cell = s.cell

end BreakerCall

def breaker (openMs : ℕ) : Calls Breaker BreakerCall where
  step := BreakerCall.apply openMs
  seen := fun call => [call.seen]

/-- A request is turned away. -/
def Breaker.Refuses (s : Breaker) (now : ℕ) : Prop := (beforeRequest (read s.cell now) now).1 = .OPEN

/-- A rate of one half takes five failures: the third test never decides. -/
theorem opens_iff {record : CircuitRecord} :
    Opens record ↔ record.state = .HALF_OPEN ∨ failureThreshold ≤ record.failures + 1 := by
  unfold Opens failureThreshold
  constructor
  · rintro (hhalf | hfive | hrate)
    · exact .inl hhalf
    · exact .inr hfive
    · right
      omega
  · rintro (hhalf | hfive)
    · exact .inl hhalf
    · exact .inr (.inl hfive)

theorem inWindow_keeps (record : CircuitRecord) (now : ℕ) :
    (record.inWindow now).state = record.state ∧
      (record.inWindow now).openedUntil = record.openedUntil ∧
      (record.inWindow now).openedAt = record.openedAt := by
  unfold CircuitRecord.inWindow
  split_ifs
  · exact ⟨rfl, rfl, rfl⟩
  · exact ⟨rfl, rfl, rfl⟩

inductive BreakerCall.Does (openMs : ℕ) (call : BreakerCall) (s : Breaker) : Breaker → Prop
  | reads : Does openMs call s { s with clock := call.now }
  | halfOpens (hopen : call.record.state = .OPEN) (hover : call.record.openedUntil ≤ call.now) :
      Does openMs call s ⟨write { call.record with state := .HALF_OPEN } call.now, call.now, s.log⟩
  | succeeds : Does openMs call s
      ⟨write (recordSuccess call.record) call.now, call.now, .success :: s.log⟩
  | trips (next : CircuitRecord) (hstate : next.state = .OPEN) (hat : next.openedAt = call.now)
      (huntil : next.openedUntil = call.now + openMs) :
      Does openMs call s ⟨write next call.now, call.now, .trip call.now :: s.log⟩
  | counts (next : CircuitRecord) (hfew : next.failures < failureThreshold)
      (hstate : next.state = call.record.state) (hat : next.openedAt = call.record.openedAt)
      (huntil : next.openedUntil = call.record.openedUntil) :
      Does openMs call s ⟨write next call.now, call.now, s.log⟩

theorem BreakerCall.does_apply (openMs : ℕ) (call : BreakerCall) (s : Breaker) :
    call.Does openMs s (call.apply openMs s) := by
  unfold BreakerCall.apply
  cases call.kind with
  | beforeRequest =>
      unfold beforeRequest
      by_cases hrefused : call.record.state = .OPEN ∧ call.now < call.record.openedUntil
      · simp only [if_pos hrefused]
        exact .reads
      · by_cases hopen : call.record.state = .OPEN
        · simp only [if_neg hrefused, if_pos hopen]
          exact .halfOpens hopen (not_lt.1 fun hearly => hrefused ⟨hopen, hearly⟩)
        · simp only [if_neg hrefused, if_neg hopen]
          exact .reads
  | recordSuccess => exact .succeeds
  | recordFailure =>
      unfold recordFailure
      obtain ⟨hstate, huntil, hat⟩ := inWindow_keeps call.record call.now
      by_cases hopens : Opens (call.record.inWindow call.now)
      · simp only [if_pos hopens]
        exact .trips _ rfl rfl rfl
      · have hfew := not_le.1 (not_or.1 fun h => hopens (opens_iff.2 h)).2
        simp only [if_neg hopens]
        exact .counts _ hfew hstate hat huntil

theorem read_cases (cell : Option RedisCell) (now : ℕ) :
    (∃ stored ∈ cell, now < stored.expiresAt ∧ read cell now = stored.record) ∨
      (∀ stored ∈ cell, stored.expiresAt ≤ now) ∧ read cell now = closedRecord now := by
  cases cell with
  | none => exact .inr ⟨nofun, rfl⟩
  | some stored =>
      by_cases hlive : now < stored.expiresAt
      · exact .inl ⟨stored, rfl, hlive, if_pos hlive⟩
      · refine .inr ⟨?_, if_neg hlive⟩
        rintro _ ⟨⟩
        exact not_lt.1 hlive

theorem refuses_iff {s : Breaker} {now : ℕ} : s.Refuses now ↔
    ∃ stored ∈ s.cell, now < stored.expiresAt ∧ stored.record.state = .OPEN ∧
      now < stored.record.openedUntil := by
  have hanswer : s.Refuses now ↔
      (read s.cell now).state = .OPEN ∧ now < (read s.cell now).openedUntil := by
    unfold Breaker.Refuses beforeRequest
    split_ifs with hopen hlate
    · exact iff_of_true rfl hopen
    · exact iff_of_false nofun hopen
    · exact iff_of_false hlate hopen
  rw [hanswer]
  rcases read_cases s.cell now with ⟨stored, hstored, hlive, hread⟩ | ⟨hlapsed, hread⟩
  · rw [hread]
    constructor
    · exact fun hopen => ⟨stored, hstored, hlive, hopen⟩
    · rintro ⟨other, hother, -, hopen⟩
      exact Option.mem_unique hother hstored ▸ hopen
  · rw [hread]
    refine iff_of_false (fun hopen => nomatch hopen.1) ?_
    rintro ⟨stored, hstored, hlive, -⟩
    exact absurd hlive (hlapsed stored hstored).not_gt

/-- A record that is not closed is of some failure of the run that opened the circuit. -/
structure RecordSound (openMs : ℕ) (log : List Verdict) (record : CircuitRecord) : Prop where
  closed : record.state = .CLOSED → record.failures < failureThreshold
  opened : record.state ≠ .CLOSED →
    .trip record.openedAt ∈ log ∧ record.openedUntil = record.openedAt + openMs

def Breaker.Sound (openMs : ℕ) (s : Breaker) : Prop :=
  ∀ stored ∈ s.cell, RecordSound openMs s.log stored.record

section Interleaved

variable {openMs : ℕ} {s s' : Breaker} {call : BreakerCall}

theorem sound_of_closed {log : List Verdict} {record : CircuitRecord}
    (hclosed : record.state = .CLOSED) (hnone : record.failures = 0) :
    RecordSound openMs log record :=
  ⟨fun _ => hnone ▸ Nat.zero_lt_succ 4, fun hopen => absurd hclosed hopen⟩

theorem sound_read (hsound : s.Sound openMs) (now : ℕ) :
    RecordSound openMs s.log (read s.cell now) := by
  rcases read_cases s.cell now with ⟨stored, hstored, -, hread⟩ | ⟨-, hread⟩
  · exact hread ▸ hsound stored hstored
  · exact hread ▸ sound_of_closed rfl rfl

theorem BreakerCall.Does.sound (hdoes : call.Does openMs s s') (hseen : call.seen.Sound openMs)
    (hlog : call.seen.log <:+ s.log) (hsound : s.Sound openMs) : s'.Sound openMs := by
  have hopened : call.record.state ≠ .CLOSED → .trip call.record.openedAt ∈ s.log ∧
      call.record.openedUntil = call.record.openedAt + openMs := by
    intro hopen
    have hread := (sound_read hseen call.readAt).opened hopen
    exact ⟨hlog.subset hread.1, hread.2⟩
  cases hdoes with
  | reads => exact hsound
  | halfOpens hopen =>
      rintro _ ⟨⟩
      exact ⟨nofun, fun _ => hopened (hopen ▸ nofun)⟩
  | succeeds =>
      rintro _ ⟨⟩
      exact sound_of_closed rfl rfl
  | trips next hstate hat huntil =>
      rintro _ ⟨⟩
      refine ⟨fun hclosed => ?_, fun _ => ?_⟩
      · rw [hstate] at hclosed
        cases hclosed
      · rw [hat, huntil]
        exact ⟨List.mem_cons_self .., rfl⟩
  | counts next hfew hstate hat huntil =>
      rintro _ ⟨⟩
      refine ⟨fun _ => hfew, fun hopen => ?_⟩
      rw [hat, huntil]
      exact hopened (hstate ▸ hopen)

theorem BreakerCall.Does.log_suffix (hdoes : call.Does openMs s s') : s.log <:+ s'.log := by
  cases hdoes with
  | reads | halfOpens | counts => exact List.suffix_rfl
  | succeeds | trips => exact List.suffix_cons _ _

/-- In whatever order the calls read and write, the circuit is closed with fewer than five
failures, and a request is turned away only for so long after a failure that opened it. -/
theorem refused_only_after_trip {P : BreakerCall → Breaker → Prop} {calls : List BreakerCall}
    {trace : List Breaker} (hlog : (breaker openMs).Log P .initial calls trace) :
    ∀ s ∈ trace, s.Sound openMs ∧
      ∀ now, s.Refuses now → ∃ trip, .trip trip ∈ s.log ∧ now < trip + openMs := by
  let LogGrows : Breaker → Breaker → Prop := fun earlier later => earlier.log <:+ later.log
  have : Std.Refl LogGrows := ⟨fun _ => List.suffix_rfl⟩
  have : IsTrans Breaker LogGrows := ⟨fun _ _ _ hfirst hsecond => hfirst.trans hsecond⟩
  have hgrows := (hlog.of_grows (R := LogGrows) fun call s _ _ =>
    (call.does_apply openMs s).log_suffix).1
  have hstart : Breaker.initial.Sound openMs := by
    rintro _ ⟨⟩
  have hsound := (hgrows.of_invariant hstart fun call s hs hseen hadmitted =>
    (call.does_apply openMs s).sound (hseen _ (List.mem_cons_self ..))
      (hadmitted.2 _ (List.mem_cons_self ..)) hs).2
  intro s hs
  refine ⟨hsound s hs, ?_⟩
  intro now hrefused
  obtain ⟨stored, hstored, -, hopen, hearly⟩ := refuses_iff.1 hrefused
  obtain ⟨htrip, huntil⟩ := (hsound s hs stored hstored).opened (hopen ▸ nofun)
  exact ⟨_, htrip, huntil ▸ hearly⟩

end Interleaved

/-! ## One call at a time -/

def Breaker.LastTrip (s : Breaker) (trip : ℕ) : Prop := s.log.head? = some (.trip trip)

/-- What the record says of the last trip, or that its time is over. -/
def Tells (openMs trip now : ℕ) (record : CircuitRecord) : Prop :=
  if record.state = .OPEN then record.openedUntil = trip + openMs else trip + openMs ≤ now

structure FollowsLog (openMs : ℕ) (s : Breaker) : Prop where
  tripped : ∀ trip, s.LastTrip trip → trip ≤ s.clock ∧ ∃ stored ∈ s.cell,
    trip + dayMs ≤ stored.expiresAt ∧ Tells openMs trip s.clock stored.record
  closed : (¬ ∃ trip, s.LastTrip trip) → ∀ stored ∈ s.cell, stored.record.state = .CLOSED

section Serial

variable {openMs now : ℕ} {s s' : Breaker} {call : BreakerCall}

theorem Tells.later {trip now' : ℕ} {record : CircuitRecord} (htells : Tells openMs trip now record)
    (hnow : now ≤ now') : Tells openMs trip now' record := by
  unfold Tells at htells ⊢
  split_ifs at htells ⊢
  · exact htells
  · exact htells.trans hnow

theorem FollowsLog.refuses_iff (hfollows : FollowsLog openMs s) (hday : openMs ≤ dayMs)
    (hnow : s.clock ≤ now) : s.Refuses now ↔ ∃ trip, s.LastTrip trip ∧ now < trip + openMs := by
  rw [CircuitBreaker.refuses_iff]
  constructor
  · rintro ⟨stored, hstored, -, hopen, hearly⟩
    by_cases hhead : ∃ trip, s.LastTrip trip
    · obtain ⟨trip, hhead⟩ := hhead
      obtain ⟨-, other, hother, -, htells⟩ := hfollows.tripped trip hhead
      obtain rfl := Option.mem_unique hother hstored
      rw [Tells, if_pos hopen] at htells
      exact ⟨trip, hhead, htells ▸ hearly⟩
    · rw [hfollows.closed hhead stored hstored] at hopen
      cases hopen
  · rintro ⟨trip, hhead, hearly⟩
    obtain ⟨-, stored, hstored, hlasts, htells⟩ := hfollows.tripped trip hhead
    unfold Tells at htells
    split_ifs at htells with hopen
    · exact ⟨stored, hstored, by omega, hopen, htells ▸ hearly⟩
    · omega

theorem FollowsLog.read (hfollows : FollowsLog openMs s) (hday : openMs ≤ dayMs)
    (hclock : s.clock ≤ now) {readAt : ℕ} (hread : readAt ≤ now) :
    (∀ trip, s.LastTrip trip → Tells openMs trip now (read s.cell readAt)) ∧
      ((¬ ∃ trip, s.LastTrip trip) → (read s.cell readAt).state = .CLOSED) := by
  rcases read_cases s.cell readAt with ⟨stored, hstored, -, hvalue⟩ | ⟨hlapsed, hvalue⟩
  · rw [hvalue]
    refine ⟨fun trip hhead => ?_, fun hhead => hfollows.closed hhead stored hstored⟩
    obtain ⟨-, other, hother, -, htells⟩ := hfollows.tripped trip hhead
    exact Option.mem_unique hother hstored ▸ htells.later hclock
  · rw [hvalue]
    refine ⟨fun trip hhead => ?_, fun _ => rfl⟩
    -- The trip was written a day before the record lapsed.
    obtain ⟨-, stored, hstored, hlasts, -⟩ := hfollows.tripped trip hhead
    have hover := hlapsed stored hstored
    rw [Tells, if_neg nofun]
    omega

theorem followsLog_write {next : CircuitRecord} (hfollows : FollowsLog openMs s)
    (hclock : s.clock ≤ now)
    (htells : ∀ trip, s.LastTrip trip → Tells openMs trip now next)
    (hclosed : (¬ ∃ trip, s.LastTrip trip) → next.state = .CLOSED) :
    FollowsLog openMs ⟨write next now, now, s.log⟩ where
  tripped := by
    intro trip hhead
    have hpast := (hfollows.tripped trip hhead).1.trans hclock
    exact ⟨hpast, _, rfl, Nat.add_le_add_right hpast dayMs, htells trip hhead⟩
  closed := by
    rintro hhead _ ⟨⟩
    exact hclosed hhead

theorem BreakerCall.Does.followsLog (hdoes : call.Does openMs s s') (hday : openMs ≤ dayMs)
    (hfollows : FollowsLog openMs s) (htimely : call.Timely s) (hsame : call.FindsTheSame s) :
    FollowsLog openMs s' := by
  obtain ⟨hread, hclock⟩ := htimely
  obtain ⟨htells, hclosed⟩ := hfollows.read hday hclock hread
  have hrecord : read s.cell call.readAt = call.record := congrArg (read · call.readAt) hsame.symm
  rw [hrecord] at htells hclosed
  cases hdoes with
  | reads =>
      refine ⟨fun trip hhead => ?_, hfollows.closed⟩
      obtain ⟨hpast, stored, hstored, hlasts, hold⟩ := hfollows.tripped trip hhead
      exact ⟨hpast.trans hclock, stored, hstored, hlasts, hold.later hclock⟩
  | halfOpens hopen hover =>
      refine followsLog_write hfollows hclock (fun trip hhead => ?_) fun hhead => ?_
      · have htold := htells trip hhead
        rw [Tells, if_pos hopen] at htold
        rw [Tells, if_neg nofun]
        exact htold ▸ hover
      · rw [hclosed hhead] at hopen
        cases hopen
  | succeeds =>
      refine ⟨nofun, ?_⟩
      rintro - _ ⟨⟩
      rfl
  | trips next hstate hat huntil =>
      refine ⟨?_, fun hhead => absurd ⟨call.now, rfl⟩ hhead⟩
      rintro trip ⟨⟩
      refine ⟨le_rfl, _, rfl, le_rfl, ?_⟩
      rw [Tells, if_pos hstate]
      exact huntil
  | counts next hfew hstate hat huntil =>
      refine followsLog_write hfollows hclock (fun trip hhead => ?_) fun hhead => ?_
      · have htold := htells trip hhead
        unfold Tells at htold ⊢
        rw [hstate, huntil]
        exact htold
      · rw [hstate]
        exact hclosed hhead

/-- Where no call writes between another's read and its write, a request is turned away exactly
for so long after the last failure that opened the circuit, and never after a success. -/
theorem refused_iff_tripped (hday : openMs ≤ dayMs) {calls : List BreakerCall}
    {trace : List Breaker}
    (hlog : (breaker openMs).Log (fun call s => call.Timely s ∧ call.FindsTheSame s) .initial
      calls trace) :
    ∀ s ∈ trace, ∀ now, s.clock ≤ now →
      (s.Refuses now ↔ ∃ trip, s.LastTrip trip ∧ now < trip + openMs) := by
  have hstart : FollowsLog openMs .initial := by
    refine ⟨nofun, ?_⟩
    rintro - _ ⟨⟩
  have hfollows := (hlog.of_invariant hstart fun call s hs _ hadmitted =>
    (call.does_apply openMs s).followsLog hday hs hadmitted.1 hadmitted.2).2
  intro s hs now hnow
  exact (hfollows s hs).refuses_iff hday hnow

end Serial

namespace Sample

def failure (s : Breaker) : BreakerCall := ⟨.recordFailure, s, s.clock, s.clock + 1⟩

/-- The states of an integration that fails again and again, and the calls. -/
def outage : ℕ → List BreakerCall × Breaker × List Breaker
  | 0 => ([], .initial, [])
  | n + 1 =>
      let (calls, s, past) := outage n
      (failure s :: calls, (failure s).apply 30000 s, s :: past)

theorem log_outage (n : ℕ) :
    (breaker 30000).Log (fun call s => call.Timely s ∧ call.FindsTheSame s) .initial
      (outage n).1 ((outage n).2.1 :: (outage n).2.2) := by
  induction n with
  | zero => exact .start
  | succ n ih =>
      refine .call (failure (outage n).2.1) ih ?_ ⟨⟨Nat.le_succ _, Nat.le_succ _⟩, rfl⟩
      exact List.forall_mem_singleton.2 (List.mem_cons_self ..)

end Sample

theorem refused_only_after_trip_outage : (Sample.outage 5).2.1.Sound 30000 ∧
    ∀ now, (Sample.outage 5).2.1.Refuses now →
      ∃ trip, .trip trip ∈ (Sample.outage 5).2.1.log ∧ now < trip + 30000 :=
  refused_only_after_trip (Sample.log_outage 5) _ (List.mem_cons_self ..)

theorem refused_iff_tripped_outage : (Sample.outage 5).2.1.Refuses 30004 :=
  (refused_iff_tripped (by decide) (Sample.log_outage 5) _ (List.mem_cons_self ..) 30004
    (by decide)).2 ⟨5, rfl, by decide⟩

end SafariLaundry.CircuitBreaker
