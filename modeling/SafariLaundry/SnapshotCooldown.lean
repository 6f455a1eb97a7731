import SafariLaundry.SnapshotRefresher

/-!
# The cooldown between two refreshes of a customer

The guard of the cooldown asks whether a refresh runs, so it is not asked of a request that
comes after a refresh has ended: such a request waits for the debounce only.
-/

namespace SafariLaundry

open Library

/-- The clock does not go back, and a timer does not fire before it is due. -/
def OnTime (options : RefresherOptions) (choice : RefreshChoice) (thread : RefreshThread)
    (state : SnapshotRefresher) (_rest : Multiset RefreshThread) : Prop :=
  state.clock ≤ choice.now ∧ ∀ customerId, thread = .timer customerId →
    ∀ entry ∈ state.pending customerId, entry.scheduledAt + options.debounceMs ≤ choice.now

def timedRefresher (options : RefresherOptions) :
    Threads SnapshotRefresher RefreshThread RefreshChoice :=
  (refresher options).restrict (OnTime options)

def SpacedOut (minIntervalMs : ℕ) (customerId : Uuid) (log : List RefreshEvent) : Prop :=
  Threads.Throughout (fun event past => ∀ startedAt completedAt refreshed,
    event = .started customerId startedAt →
      RefreshEvent.completed customerId completedAt refreshed ∈ past →
      completedAt + minIntervalMs ≤ startedAt) log

def DebounceCovers (options : RefresherOptions) (customerId : Uuid) (now : Timestamp)
    (state : SnapshotRefresher) : Prop :=
  ¬ state.InCooldown options now customerId → state.pending customerId = none →
    ∀ last ∈ state.lastCompletedAt customerId,
      last + options.minIntervalMs ≤ now + options.debounceMs

/-- When a refresh of the customer ends, no execution waits for a slot, no timer is due
within the interval, and a catch-up finds a timer or a debounce that covers it. -/
def NothingFollows (options : RefresherOptions) (customerId : Uuid) (now : Timestamp)
    (state : SnapshotRefresher) (rest : Multiset RefreshThread) : Prop :=
  (refreshWork rest).waiting customerId = 0 ∧
  (∀ entry ∈ state.pending customerId,
    now + options.minIntervalMs ≤ entry.scheduledAt + options.debounceMs) ∧
  (customerId ∈ state.cooldownQueued → state.pending customerId = none →
    options.minIntervalMs ≤ options.debounceMs)

def KeepsDistance (options : RefresherOptions) (customerId : Uuid) (choice : RefreshChoice)
    (thread : RefreshThread) (state : SnapshotRefresher) (rest : Multiset RefreshThread) :
    Prop :=
  match thread with
  | .request other _ _ =>
      other = customerId → DebounceCovers options customerId choice.now state
  | .refreshing other _ _ =>
      other = customerId → NothingFollows options customerId choice.now state rest
  | _ => True

/-! ## The invariant -/

structure CooldownInvariant (options : RefresherOptions) (customerId : Uuid)
    (state : SnapshotRefresher) (work : RefreshWork) : Prop where
  spaced : SpacedOut options.minIntervalMs customerId state.log
  known : ∀ completedAt refreshed,
    RefreshEvent.completed customerId completedAt refreshed ∈ state.log →
      ∃ last ∈ state.lastCompletedAt customerId, completedAt ≤ last
  past : ∀ last ∈ state.lastCompletedAt customerId, last ≤ state.clock
  timers : ∀ entry ∈ state.pending customerId, ∀ last ∈ state.lastCompletedAt customerId,
    last + options.minIntervalMs ≤ entry.scheduledAt + options.debounceMs
  waiting : 1 ≤ work.waiting customerId → ∀ last ∈ state.lastCompletedAt customerId,
    last + options.minIntervalMs ≤ state.clock

variable {options : RefresherOptions} {customerId other : Uuid}
  {source : SnapshotRefreshSource} {correlationId : Option String} {now : Timestamp}
  {state : SnapshotRefresher} {rest : Multiset RefreshThread}

theorem SpacedOut.cons {minIntervalMs : ℕ} {log : List RefreshEvent} {event : RefreshEvent}
    (hevent : ∀ at_, event ≠ .started customerId at_)
    (hspaced : SpacedOut minIntervalMs customerId log) :
    SpacedOut minIntervalMs customerId (event :: log) :=
  ⟨fun at_ _ _ heq => absurd heq (hevent at_), hspaced⟩

theorem CooldownInvariant.tick (hnow : state.clock ≤ now)
    (hinv : CooldownInvariant options customerId state (refreshWork rest)) :
    CooldownInvariant options customerId { state with clock := now } (refreshWork rest) := by
  refine ⟨hinv.spaced, hinv.known, ?_, hinv.timers, ?_⟩
  · intro last hlast
    exact (hinv.past last hlast).trans hnow
  · intro hwaiting last hlast
    exact (hinv.waiting hwaiting last hlast).trans hnow

theorem CooldownInvariant.setPending {entry : Option PendingState} {work : RefreshWork}
    (hlate : other = customerId → ∀ set ∈ entry, ∀ last ∈ state.lastCompletedAt customerId,
        last + options.minIntervalMs ≤ set.scheduledAt + options.debounceMs)
    (hinv : CooldownInvariant options customerId state work) :
    CooldownInvariant options customerId (state.setPending other entry) work := by
  refine ⟨hinv.spaced, hinv.known, hinv.past, ?_, hinv.waiting⟩
  intro set hset last hlast
  by_cases hother : other = customerId
  · rw [hother, SnapshotRefresher.pending_setPending_self] at hset
    exact hlate hother set hset last hlast
  · rw [SnapshotRefresher.pending_setPending_of_ne (Ne.symm hother)] at hset
    exact hinv.timers set hset last hlast

theorem CooldownInvariant.note {work : RefreshWork}
    (hinv : CooldownInvariant options customerId state work) :
    CooldownInvariant options customerId (state.note now other) work := by
  refine ⟨hinv.spaced.cons (by simp), ?_, hinv.past, hinv.timers,
    hinv.waiting⟩
  intro completedAt refreshed hmem
  exact hinv.known completedAt refreshed (List.mem_of_ne_of_mem (by simp) hmem)

theorem CooldownInvariant.request
    (hcovers : other = customerId → DebounceCovers options customerId now state)
    (hinv : CooldownInvariant options customerId state (refreshWork rest)) :
    CooldownInvariant options customerId (state.request options now other source correlationId).1
      (refreshWork ((state.request options now other source correlationId).2 + rest)) := by
  unfold SnapshotRefresher.request
  by_cases hblank : other = ""
  · rw [if_pos hblank, refreshWork_nil]
    exact hinv
  · rw [if_neg hblank]
    by_cases hcooldown : state.InCooldown options now other
    · rw [if_pos hcooldown, refreshWork_nil]
      exact ⟨hinv.spaced, hinv.known, hinv.past, hinv.timers, hinv.waiting⟩
    · rw [if_neg hcooldown]
      unfold SnapshotRefresher.debounce
      cases hpending : state.pending other with
      | some existing =>
          simp only [refreshWork_nil]
          apply hinv.setPending
          intro hother set hset last hlast
          subst hother
          obtain rfl := Option.some.inj hset
          exact hinv.timers existing hpending last hlast
      | none =>
          simp only [coe_singleton_add, refreshWork_timer]
          apply CooldownInvariant.setPending
          · intro hother set hset last hlast
            subst hother
            obtain rfl := Option.some.inj hset
            exact hcovers rfl hcooldown hpending last hlast
          · exact ⟨hinv.spaced, hinv.known, hinv.past, hinv.timers, hinv.waiting⟩

theorem CooldownInvariant.execute
    (hover : other = customerId → ∀ last ∈ state.lastCompletedAt customerId,
      last + options.minIntervalMs ≤ now) (hclock : state.clock = now)
    (hinv : CooldownInvariant options customerId state (refreshWork rest)) :
    CooldownInvariant options customerId (state.execute options now other source correlationId).1
      (refreshWork ((state.execute options now other source correlationId).2 + rest)) := by
  unfold SnapshotRefresher.execute
  by_cases hfull : (options.maxConcurrency : ℤ) ≤ state.inflightCount
  · rw [if_pos hfull]
    simp only [coe_singleton_add, refreshWork_execute]
    refine ⟨hinv.spaced, hinv.known, hinv.past, hinv.timers, ?_⟩
    intro hwaiting last hlast
    by_cases hother : other = customerId
    · rw [hclock]
      exact hover hother last hlast
    · simp only [if_neg hother, zero_add] at hwaiting
      exact hinv.waiting hwaiting last hlast
  · rw [if_neg hfull]
    by_cases hinflight : other ∈ state.inflight
    · rw [if_pos hinflight]
      simp only [refreshWork_nil]
      exact ⟨hinv.spaced, hinv.known, hinv.past, hinv.timers,
        hinv.waiting⟩
    · rw [if_neg hinflight]
      simp only [coe_singleton_add, refreshWork_refreshing]
      refine ⟨⟨?_, hinv.spaced⟩, ?_, hinv.past, hinv.timers, hinv.waiting⟩
      · intro startedAt completedAt refreshed hstarted hmem
        obtain ⟨last, hlast, hle⟩ := hinv.known completedAt refreshed hmem
        cases hstarted
        exact (Nat.add_le_add_right hle _).trans (hover rfl last hlast)
      · intro completedAt refreshed hmem
        exact hinv.known completedAt refreshed (List.mem_of_ne_of_mem (by simp) hmem)

theorem CooldownInvariant.flush (hclock : state.clock = now)
    (hdue : ∀ entry ∈ state.pending other, entry.scheduledAt + options.debounceMs ≤ now)
    (hinv : CooldownInvariant options customerId state (refreshWork rest)) :
    CooldownInvariant options customerId (state.flush options now other).1
      (refreshWork ((state.flush options now other).2 + rest)) := by
  unfold SnapshotRefresher.flush
  cases hpending : state.pending other with
  | none =>
      simp only [refreshWork_nil]
      exact hinv
  | some entry =>
      have hover : other = customerId → ∀ last ∈ state.lastCompletedAt customerId,
          last + options.minIntervalMs ≤ now := by
        intro hother last hlast
        subst hother
        exact (hinv.timers entry hpending last hlast).trans (hdue entry hpending)
      have hcleared : CooldownInvariant options customerId (state.setPending other none)
          (refreshWork rest) := hinv.setPending fun _ _ hnone => by cases hnone
      exact hcleared.execute hover hclock

theorem CooldownInvariant.complete_self {refreshed : Bool} {queued : Finset Uuid}
    (hclock : state.clock = now) (hnone : (refreshWork rest).waiting customerId = 0)
    (hlate : ∀ entry ∈ state.pending customerId,
      now + options.minIntervalMs ≤ entry.scheduledAt + options.debounceMs)
    (hinv : CooldownInvariant options customerId state (refreshWork rest)) :
    CooldownInvariant options customerId
      { state.complete now customerId refreshed with cooldownQueued := queued }
      (refreshWork rest) := by
  have hself : Function.update state.lastCompletedAt customerId (some now) customerId =
      some now := by simp
  refine ⟨hinv.spaced.cons (by simp), ?_, ?_, ?_, ?_⟩
  · intro completedAt refreshed' hmem
    refine ⟨now, hself, ?_⟩
    rcases List.mem_cons.1 hmem with heq | hold
    · cases heq
      exact le_rfl
    · obtain ⟨last, hlast, hle⟩ := hinv.known completedAt refreshed' hold
      exact hle.trans ((hinv.past last hlast).trans hclock.le)
  · intro last hlast
    obtain rfl := Option.some.inj (hself.symm.trans hlast)
    exact hclock.ge
  · intro entry hentry last hlast
    obtain rfl := Option.some.inj (hself.symm.trans hlast)
    exact hlate entry hentry
  · intro hwaiting
    omega

theorem CooldownInvariant.complete_other {refreshed : Bool} {queued : Finset Uuid}
    (hother : other ≠ customerId)
    (hinv : CooldownInvariant options customerId state (refreshWork rest)) :
    CooldownInvariant options customerId
      { state.complete now other refreshed with cooldownQueued := queued }
      (refreshWork rest) := by
  have hsame : Function.update state.lastCompletedAt other (some now) customerId =
      state.lastCompletedAt customerId :=
    Function.update_of_ne (Ne.symm hother) _ _
  have hlasts : ∀ last, last ∈ (state.complete now other refreshed).lastCompletedAt customerId →
        last ∈ state.lastCompletedAt customerId := by
    intro last hlast
    exact hsame ▸ hlast
  refine ⟨hinv.spaced.cons (by simp), ?_, ?_, ?_, ?_⟩
  · intro completedAt refreshed' hmem
    rcases List.mem_cons.1 hmem with heq | hold
    · cases heq
      exact absurd rfl hother
    · obtain ⟨last, hlast, hle⟩ := hinv.known completedAt refreshed' hold
      exact ⟨last, hsame.trans hlast, hle⟩
  · intro last hlast
    exact hinv.past last (hlasts last hlast)
  · intro entry hentry last hlast
    exact hinv.timers entry hentry last (hlasts last hlast)
  · intro hwaiting last hlast
    exact hinv.waiting hwaiting last (hlasts last hlast)

theorem CooldownInvariant.finish {refreshed : Bool} (hclock : state.clock = now)
    (hfollows : other = customerId → NothingFollows options customerId now state rest)
    (hinv : CooldownInvariant options customerId state (refreshWork rest)) :
    CooldownInvariant options customerId
      (state.finish options now other source correlationId refreshed).1
      (refreshWork ((state.finish options now other source correlationId refreshed).2 + rest)) := by
  have hcomplete : ∀ queued, CooldownInvariant options customerId
      { state.complete now other refreshed with cooldownQueued := queued }
      (refreshWork rest) := by
    intro queued
    by_cases hother : other = customerId
    · subst hother
      obtain ⟨hnone, hlate, _⟩ := hfollows rfl
      exact hinv.complete_self hclock hnone hlate
    · exact hinv.complete_other hother
  unfold SnapshotRefresher.finish
  by_cases hqueued : other ∈ state.cooldownQueued
  · rw [if_pos hqueued]
    apply CooldownInvariant.request _ (hcomplete _)
    intro hother _ hpending last hlast
    subst hother
    have hlast' : Function.update state.lastCompletedAt other (some now) other = some last :=
      hlast
    rw [Function.update_self] at hlast'
    obtain rfl := Option.some.inj hlast'
    exact Nat.add_le_add_left ((hfollows rfl).2.2 hqueued hpending) _
  · rw [if_neg hqueued]
    simp only [refreshWork_nil]
    exact hcomplete state.cooldownQueued

/-! ## Every run -/

theorem cooldownInvariant_turn (choice : RefreshChoice) (thread : RefreshThread)
    (htime : OnTime options choice thread state rest)
    (hkeeps : KeepsDistance options customerId choice thread state rest)
    (hinv : CooldownInvariant options customerId state (refreshWork (thread ::ₘ rest))) :
    CooldownInvariant options customerId ((refresher options).turn choice thread state).1
      (refreshWork (((refresher options).turn choice thread state).2 + rest)) := by
  have hclock := hinv.tick htime.1
  cases thread with
  | request other source correlationId =>
      rw [refreshWork_request] at hclock
      exact hclock.note.request hkeeps
  | timer other =>
      rw [refreshWork_timer] at hclock
      have hothers : CooldownInvariant options customerId { state with clock := choice.now }
          (refreshWork rest) :=
        ⟨hclock.spaced, hclock.known, hclock.past, hclock.timers, hclock.waiting⟩
      exact hothers.flush rfl (htime.2 other rfl)
  | execute other source correlationId =>
      rw [refreshWork_execute] at hclock hinv
      have hothers : CooldownInvariant options customerId { state with clock := choice.now }
          (refreshWork rest) :=
        ⟨hclock.spaced, hclock.known, hclock.past, hclock.timers, fun hwaiting =>
          hclock.waiting (hwaiting.trans (Nat.le_add_left _ _))⟩
      apply hothers.execute _ rfl
      intro hother last hlast
      exact hclock.waiting (by simp [hother]) last hlast
  | refreshing other source correlationId =>
      rw [refreshWork_refreshing] at hclock
      have hothers : CooldownInvariant options customerId { state with clock := choice.now }
          (refreshWork rest) :=
        ⟨hclock.spaced, hclock.known, hclock.past, hclock.timers, hclock.waiting⟩
      exact hothers.finish rfl hkeeps

/-- Where every request that sets a timer comes late enough after the last refresh and
nothing follows a refresh that ends, all refreshes of the customer are spaced out. -/
theorem refreshes_spacedOut {world : Threads.World SnapshotRefresher RefreshThread}
    (hreach : ((timedRefresher options).restrict (KeepsDistance options customerId)).Reaches
      idleRefresher world) :
    SpacedOut options.minIntervalMs customerId world.shared.log := by
  have hinv : CooldownInvariant options customerId world.shared
      (refreshWork world.pending) := by
    apply hreach.invariant (I := fun world =>
      CooldownInvariant options customerId world.shared (refreshWork world.pending))
    · refine ⟨trivial, ?_, ?_, ?_, ?_⟩
      · intro _ _ hmem
        cases hmem
      · intro _ hlast
        cases hlast
      · intro _ hentry
        cases hentry
      · intro _ _ hlast
        cases hlast
    · rintro world thread hinv ⟨other, source, correlationId, rfl⟩
      rw [refreshWork_request]
      exact hinv
    · intro state rest choice thread hinv hadmits
      exact cooldownInvariant_turn choice thread hadmits.1.2 hadmits.2 hinv
  exact hinv.spaced

namespace Sample

def refreshTimer : RefreshThread := .timer "customer"

def refreshRunning : RefreshThread := .refreshing "customer" .PAYMENT_CAPTURED none

def startedRefresher : SnapshotRefresher :=
  (refreshTurn 10500 refreshTimer debouncedRefresher).1

def endedRefresher : SnapshotRefresher := (refreshTurn 10600 refreshRunning startedRefresher).1

def renewedRefresher : SnapshotRefresher := (refreshTurn 10600 refreshRequest endedRefresher).1

def restartedRefresher : SnapshotRefresher :=
  (refreshTurn 11100 refreshTimer renewedRefresher).1

def laterRefresher : SnapshotRefresher := (refreshTurn 11100 refreshRequest endedRefresher).1

def refreshedAgain : SnapshotRefresher := (refreshTurn 11600 refreshTimer laterRefresher).1

theorem refresher_ended :
    ((timedRefresher .default).restrict (KeepsDistance .default "customer")).Reaches
      idleRefresher ⟨endedRefresher, 0⟩ := by
  have hrequested : ((timedRefresher .default).restrict
      (KeepsDistance .default "customer")).Reaches idleRefresher ⟨.initial, refreshRequest ::ₘ 0⟩ :=
    Threads.Reaches.start_thread .refl refreshRequest ⟨"customer", .PAYMENT_CAPTURED, none, rfl⟩
  have hdebounced : ((timedRefresher .default).restrict
      (KeepsDistance .default "customer")).Reaches idleRefresher
        ⟨debouncedRefresher, refreshTimer ::ₘ 0⟩ := by
    apply hrequested.take_turn ⟨10000, true⟩
    refine ⟨⟨trivial, by decide, ?_⟩, ?_⟩
    · intro _ hthread
      cases hthread
    · intro _ _ _ _ hlast
      cases hlast
  have hstarted : ((timedRefresher .default).restrict
      (KeepsDistance .default "customer")).Reaches idleRefresher
        ⟨startedRefresher, refreshRunning ::ₘ 0⟩ := by
    apply hdebounced.take_turn ⟨10500, true⟩
    refine ⟨⟨trivial, by decide +kernel, ?_⟩, trivial⟩
    intro _ hthread
    cases hthread
    decide +kernel
  apply hstarted.take_turn ⟨10600, true⟩
  refine ⟨⟨trivial, by decide +kernel, ?_⟩, ?_⟩
  · intro _ hthread
    cases hthread
  · intro _
    refine ⟨rfl, ?_, ?_⟩
    · decide +kernel
    · decide +kernel

theorem refresher_startedAgain :
    ((timedRefresher .default).restrict (KeepsDistance .default "customer")).Reaches
      idleRefresher ⟨refreshedAgain, refreshRunning ::ₘ 0⟩ := by
  have hrequested := refresher_ended.start_thread refreshRequest
    ⟨"customer", .PAYMENT_CAPTURED, none, rfl⟩
  have hdebounced : ((timedRefresher .default).restrict
      (KeepsDistance .default "customer")).Reaches idleRefresher
        ⟨laterRefresher, refreshTimer ::ₘ 0⟩ := by
    apply hrequested.take_turn ⟨11100, true⟩
    refine ⟨⟨trivial, by decide +kernel, ?_⟩, ?_⟩
    · intro _ hthread
      cases hthread
    · intro _ _ _
      decide +kernel
  apply hdebounced.take_turn ⟨11600, true⟩
  refine ⟨⟨trivial, by decide +kernel, ?_⟩, trivial⟩
  intro _ hthread
  cases hthread
  decide +kernel

end Sample

theorem refreshes_spacedOut_sample :
    Sample.refreshedAgain.log =
        [.started "customer" 11600, .requested "customer" 11100, .completed "customer" 10600 true,
          .started "customer" 10500, .requested "customer" 10000] ∧
      SpacedOut 1000 "customer" Sample.refreshedAgain.log :=
  ⟨by decide +kernel, refreshes_spacedOut Sample.refresher_startedAgain⟩

theorem refreshes_spacedOut_fails :
    ¬ ∀ (options : RefresherOptions) (customerId : Uuid)
        (world : Threads.World SnapshotRefresher RefreshThread),
      (timedRefresher options).Reaches idleRefresher world →
      SpacedOut options.minIntervalMs customerId world.shared.log := by
  intro hall
  have hended : (timedRefresher .default).Reaches idleRefresher ⟨Sample.endedRefresher, 0⟩ :=
    Sample.refresher_ended.of_restrict
  have hrequested : (timedRefresher .default).Reaches idleRefresher
      ⟨Sample.endedRefresher, Sample.refreshRequest ::ₘ 0⟩ :=
    hended.start_thread Sample.refreshRequest ⟨"customer", .PAYMENT_CAPTURED, none, rfl⟩
  have hrenewed : (timedRefresher .default).Reaches idleRefresher
      ⟨Sample.renewedRefresher, Sample.refreshTimer ::ₘ 0⟩ := by
    apply hrequested.take_turn ⟨10600, true⟩
    refine ⟨trivial, by decide +kernel, ?_⟩
    intro _ hthread
    cases hthread
  have hrestarted : (timedRefresher .default).Reaches idleRefresher
      ⟨Sample.restartedRefresher, Sample.refreshRunning ::ₘ 0⟩ := by
    apply hrenewed.take_turn ⟨11100, true⟩
    refine ⟨trivial, by decide +kernel, ?_⟩
    intro _ hthread
    cases hthread
    decide +kernel
  have hspaced := hall .default "customer" _ hrestarted
  have hlog : Sample.restartedRefresher.log =
      [.started "customer" 11100, .requested "customer" 10600, .completed "customer" 10600 true,
        .started "customer" 10500, .requested "customer" 10000] := by
    decide +kernel
  rw [hlog] at hspaced
  have hgap := hspaced.1 11100 10600 true rfl (by decide)
  revert hgap
  decide

end SafariLaundry
