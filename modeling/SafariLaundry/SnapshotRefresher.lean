import SafariLaundry.Library.Threads
import SafariLaundry.Domain

/-!
# The realtime refresher of customer snapshots

A request waits in a debounce timer, then for a slot, then its refresh runs.  The timers,
the customers in flight, the customers to refresh once more and the count of running
refreshes are kept apart, and every callback touches several of them.
-/

namespace SafariLaundry

open Library

/-! ## The refresher -/

inductive SnapshotRefreshSource
  | PAYMENT_CAPTURED | PARTIAL_PAYMENT_RECORDED | WALLET_ABSORBED | INVOICE_ISSUED
  | COLLECTION_ESCALATED | SUBSCRIPTION_ACTIVATED | CRON_RECONCILE | MANUAL_REBUILD | BACKFILL

structure RefresherOptions where
  (debounceMs minIntervalMs maxConcurrency : ℕ)

def RefresherOptions.default : RefresherOptions := ⟨500, 1000, 10⟩

structure PendingState where
  source : SnapshotRefreshSource
  correlationId : Option String
  scheduledAt : Timestamp

/-- What happened, for reference; the service keeps no such list. -/
inductive RefreshEvent
  | requested (customerId : Uuid) (at_ : Timestamp)
  | started (customerId : Uuid) (at_ : Timestamp)
  | completed (customerId : Uuid) (at_ : Timestamp) (refreshed : Bool)
  deriving DecidableEq

structure SnapshotRefresher where
  pending : Uuid → Option PendingState
  inflight : Finset Uuid
  inflightCount : ℤ
  lastCompletedAt : Uuid → Option Timestamp
  cooldownQueued : Finset Uuid
  clock : Timestamp
  log : List RefreshEvent

def SnapshotRefresher.initial : SnapshotRefresher where
  pending := fun _ => none
  inflight := ∅
  inflightCount := 0
  lastCompletedAt := fun _ => none
  cooldownQueued := ∅
  clock := 0
  log := []

/-- A call of `request`, a debounce timer, an execution that waits for a slot and a
refresh that runs. -/
inductive RefreshThread
  | request (customerId : Uuid) (source : SnapshotRefreshSource) (correlationId : Option String)
  | timer (customerId : Uuid)
  | execute (customerId : Uuid) (source : SnapshotRefreshSource) (correlationId : Option String)
  | refreshing (customerId : Uuid) (source : SnapshotRefreshSource) (correlationId : Option String)

structure RefreshChoice where
  now : Timestamp
  refreshed : Bool

namespace SnapshotRefresher

variable (options : RefresherOptions) (now : Timestamp) (customerId : Uuid)
  (source : SnapshotRefreshSource) (correlationId : Option String)

/-- The guard of the cooldown asks for both: completed a short while ago, and running. -/
def InCooldown (state : SnapshotRefresher) : Prop :=
  now < (state.lastCompletedAt customerId).getD 0 + options.minIntervalMs ∧
    customerId ∈ state.inflight
  deriving Decidable

def queue (state : SnapshotRefresher) : SnapshotRefresher :=
  { state with cooldownQueued := insert customerId state.cooldownQueued }

def setPending (entry : Option PendingState) (state : SnapshotRefresher) : SnapshotRefresher :=
  { state with pending := Function.update state.pending customerId entry }

/-- The request waits in the timer that is there, or in a new one. -/
def debounce (state : SnapshotRefresher) : SnapshotRefresher × List RefreshThread :=
  match state.pending customerId with
  | some existing =>
      (state.setPending customerId (some { existing with
        source := source, correlationId := correlationId.or existing.correlationId }), [])
  | none =>
      (state.setPending customerId (some ⟨source, correlationId, now⟩), [.timer customerId])

def request (state : SnapshotRefresher) : SnapshotRefresher × List RefreshThread :=
  if customerId = "" then (state, [])
  else if state.InCooldown options now customerId then (state.queue customerId, [])
  else state.debounce now customerId source correlationId

def execute (state : SnapshotRefresher) : SnapshotRefresher × List RefreshThread :=
  if options.maxConcurrency ≤ state.inflightCount then
    (state, [.execute customerId source correlationId])
  else if customerId ∈ state.inflight then (state.queue customerId, [])
  else
    ({ state with
        inflight := insert customerId state.inflight
        inflightCount := state.inflightCount + 1
        log := .started customerId now :: state.log },
      [.refreshing customerId source correlationId])

def flush (state : SnapshotRefresher) : SnapshotRefresher × List RefreshThread :=
  match state.pending customerId with
  | some entry =>
      (state.setPending customerId none).execute options now customerId entry.source
        entry.correlationId
  | none => (state, [])

def complete (refreshed : Bool) (state : SnapshotRefresher) : SnapshotRefresher :=
  { state with
    inflight := state.inflight.erase customerId
    inflightCount := state.inflightCount - 1
    lastCompletedAt := Function.update state.lastCompletedAt customerId (some now)
    log := .completed customerId now refreshed :: state.log }

/-- The `finally` of an execution: a request that came meanwhile is made again. -/
def finish (refreshed : Bool) (state : SnapshotRefresher) :
    SnapshotRefresher × List RefreshThread :=
  let completed := state.complete now customerId refreshed
  if customerId ∈ state.cooldownQueued then
    request options now customerId source correlationId
      { completed with cooldownQueued := completed.cooldownQueued.erase customerId }
  else (completed, [])

end SnapshotRefresher

/-- A call of `request`, recorded before anything is made of it. -/
def SnapshotRefresher.note (now : Timestamp) (customerId : Uuid) (state : SnapshotRefresher) :
    SnapshotRefresher :=
  { state with log := .requested customerId now :: state.log }

def RefreshThread.turn (options : RefresherOptions) (choice : RefreshChoice)
    (thread : RefreshThread) (state : SnapshotRefresher) :
    SnapshotRefresher × List RefreshThread :=
  let state := { state with clock := choice.now }
  match thread with
  | .request customerId source correlationId =>
      (state.note choice.now customerId).request options choice.now customerId source
        correlationId
  | .timer customerId => state.flush options choice.now customerId
  | .execute customerId source correlationId =>
      state.execute options choice.now customerId source correlationId
  | .refreshing customerId source correlationId =>
      state.finish options choice.now customerId source correlationId choice.refreshed

/-- Requests come at any time, and any timer, slot check or running refresh may be next. -/
def refresher (options : RefresherOptions) :
    Threads SnapshotRefresher RefreshThread RefreshChoice where
  starts := fun thread _ => ∃ customerId source correlationId,
    thread = .request customerId source correlationId
  admits := fun _ _ _ _ => True
  turn := RefreshThread.turn options

def idleRefresher : Threads.World SnapshotRefresher RefreshThread where
  shared := .initial
  pending := 0

def Served (customerId : Uuid) : List RefreshEvent → Prop
  | [] => True
  | .requested other _ :: past => other ≠ customerId ∧ Served customerId past
  | .started other _ :: past => other = customerId ∨ Served customerId past
  | .completed _ _ _ :: past => Served customerId past

def RefreshThread.isTimer (customerId : Uuid) : RefreshThread → ℕ
  | .timer other => if other = customerId then 1 else 0
  | _ => 0

def RefreshThread.isWaiting (customerId : Uuid) : RefreshThread → ℕ
  | .execute other _ _ => if other = customerId then 1 else 0
  | _ => 0

def RefreshThread.isRefreshing (customerId : Uuid) : RefreshThread → ℕ
  | .refreshing other _ _ => if other = customerId then 1 else 0
  | _ => 0

def RefreshThread.isRunning : RefreshThread → ℕ
  | .refreshing _ _ _ => 1
  | _ => 0

/-- At most one refresh of a customer runs, at most as many as there are slots, and when
only calls of `request` are outstanding, everyone with an id is served. -/
structure RefresherSound (options : RefresherOptions)
    (world : Threads.World SnapshotRefresher RefreshThread) : Prop where
  exclusive : ∀ customerId, Threads.held (RefreshThread.isRefreshing customerId) world.pending ≤ 1
  capped : Threads.held RefreshThread.isRunning world.pending ≤ options.maxConcurrency
  served : (∀ thread ∈ world.pending, ∃ customerId source correlationId,
      thread = .request customerId source correlationId) →
    ∀ customerId, customerId ≠ "" → Served customerId world.shared.log

structure RefreshWork where
  (timers waiting refreshing : Uuid → ℕ)
  running : ℕ

def refreshWork (pending : Multiset RefreshThread) : RefreshWork where
  timers := fun customerId => Threads.held (RefreshThread.isTimer customerId) pending
  waiting := fun customerId => Threads.held (RefreshThread.isWaiting customerId) pending
  refreshing := fun customerId => Threads.held (RefreshThread.isRefreshing customerId) pending
  running := Threads.held RefreshThread.isRunning pending

structure RefresherAccounts (options : RefresherOptions) (state : SnapshotRefresher)
    (work : RefreshWork) : Prop where
  refreshing : ∀ customerId,
    work.refreshing customerId = if customerId ∈ state.inflight then 1 else 0
  running : (work.running : ℤ) = state.inflightCount
  capped : state.inflightCount ≤ options.maxConcurrency
  queued : state.cooldownQueued ⊆ state.inflight

/-- The customer's refresh is still to start: it is debounced, waits for a slot or follows
the running one. -/
def Owed (customerId : Uuid) (state : SnapshotRefresher) (work : RefreshWork) : Prop :=
  state.pending customerId ≠ none ∨ 1 ≤ work.waiting customerId ∨ customerId ∈ state.cooldownQueued

structure RefresherInvariant (options : RefresherOptions) (exempt : Option Uuid)
    (state : SnapshotRefresher) (work : RefreshWork) : Prop where
  accounts : RefresherAccounts options state work
  timers : ∀ customerId, state.pending customerId ≠ none → 1 ≤ work.timers customerId
  covered : ∀ customerId, customerId ≠ "" → exempt ≠ some customerId →
    Served customerId state.log ∨ Owed customerId state work

variable {options : RefresherOptions} {now : Timestamp} {customerId : Uuid}
  {source : SnapshotRefreshSource} {correlationId : Option String}
  {state : SnapshotRefresher} {rest : Multiset RefreshThread} {exempt : Option Uuid}

theorem refreshWork_request :
    refreshWork (.request customerId source correlationId ::ₘ rest) = refreshWork rest := by
  simp [refreshWork, RefreshThread.isTimer, RefreshThread.isWaiting,
    RefreshThread.isRefreshing, RefreshThread.isRunning]

theorem refreshWork_nil : refreshWork (([] : List RefreshThread) + rest) = refreshWork rest := by
  rw [Multiset.coe_nil, zero_add]

theorem refreshWork_timer :
    refreshWork (.timer customerId ::ₘ rest) =
      { refreshWork rest with
        timers := fun other =>
          (if customerId = other then 1 else 0) + (refreshWork rest).timers other } := by
  simp [refreshWork, RefreshThread.isTimer, RefreshThread.isWaiting,
    RefreshThread.isRefreshing, RefreshThread.isRunning]

theorem refreshWork_execute :
    refreshWork (.execute customerId source correlationId ::ₘ rest) =
      { refreshWork rest with
        waiting := fun other =>
          (if customerId = other then 1 else 0) + (refreshWork rest).waiting other } := by
  simp [refreshWork, RefreshThread.isTimer, RefreshThread.isWaiting,
    RefreshThread.isRefreshing, RefreshThread.isRunning]

theorem refreshWork_refreshing :
    refreshWork (.refreshing customerId source correlationId ::ₘ rest) =
      { refreshWork rest with
        refreshing := fun other =>
          (if customerId = other then 1 else 0) + (refreshWork rest).refreshing other
        running := 1 + (refreshWork rest).running } := by
  simp [refreshWork, RefreshThread.isTimer, RefreshThread.isWaiting,
    RefreshThread.isRefreshing, RefreshThread.isRunning]

theorem coe_singleton_add (thread : RefreshThread) :
    (([thread] : List RefreshThread) : Multiset RefreshThread) + rest = thread ::ₘ rest := by
  rw [Multiset.coe_singleton, Multiset.singleton_add]

theorem SnapshotRefresher.pending_setPending_self (entry : Option PendingState) :
    (state.setPending customerId entry).pending customerId = entry := by
  simp [setPending]

theorem SnapshotRefresher.pending_setPending_of_ne {other : Uuid} (hother : other ≠ customerId)
    (entry : Option PendingState) :
    (state.setPending customerId entry).pending other = state.pending other := by
  simp [setPending, hother]

theorem RefresherInvariant.covered_of_ne {other : Uuid} {work : RefreshWork}
    (hinv : RefresherInvariant options (some customerId) state work)
    (hnamed : other ≠ "") (hother : other ≠ customerId) :
    Served other state.log ∨ Owed other state work := by
  apply hinv.covered other hnamed
  intro heq
  exact hother (Option.some.inj heq).symm

/-! ## One callback -/

theorem RefresherInvariant.setPending {work : RefreshWork} (entry : PendingState)
    (htimer : 1 ≤ work.timers customerId)
    (hinv : RefresherInvariant options (some customerId) state work) :
    RefresherInvariant options none (state.setPending customerId (some entry)) work := by
  refine ⟨⟨hinv.accounts.refreshing, hinv.accounts.running,
    hinv.accounts.capped, hinv.accounts.queued⟩, ?_, ?_⟩
  · intro other hset
    by_cases hother : other = customerId
    · rw [hother]
      exact htimer
    · rw [SnapshotRefresher.pending_setPending_of_ne hother] at hset
      exact hinv.timers other hset
  · intro other hnamed _
    by_cases hother : other = customerId
    · subst hother
      exact .inr (.inl (by simp [SnapshotRefresher.pending_setPending_self]))
    · unfold Owed
      rw [SnapshotRefresher.pending_setPending_of_ne hother]
      exact hinv.covered_of_ne hnamed hother

theorem RefresherInvariant.debounce
    (hinv : RefresherInvariant options (some customerId) state (refreshWork rest)) :
    RefresherInvariant options none (state.debounce now customerId source correlationId).1
      (refreshWork ((state.debounce now customerId source correlationId).2 + rest)) := by
  unfold SnapshotRefresher.debounce
  cases hpending : state.pending customerId with
  | some existing =>
      simp only [refreshWork_nil]
      apply hinv.setPending
      exact hinv.timers customerId (by simp [hpending])
  | none =>
      simp only [coe_singleton_add, refreshWork_timer]
      apply RefresherInvariant.setPending
      · simp
      · exact ⟨⟨hinv.accounts.refreshing, hinv.accounts.running,
          hinv.accounts.capped, hinv.accounts.queued⟩,
          fun other hset => (hinv.timers other hset).trans (Nat.le_add_left _ _),
          hinv.covered⟩

theorem RefresherInvariant.note (now : Timestamp)
    (hinv : RefresherInvariant options none state (refreshWork rest)) :
    RefresherInvariant options (some customerId) (state.note now customerId)
      (refreshWork rest) := by
  refine ⟨⟨hinv.accounts.refreshing, hinv.accounts.running,
    hinv.accounts.capped, hinv.accounts.queued⟩, hinv.timers, ?_⟩
  intro other hnamed hother
  rcases hinv.covered other hnamed (by simp) with hserved | howed
  · exact .inl ⟨fun heq => hother (congrArg some heq), hserved⟩
  · exact .inr howed

theorem RefresherInvariant.queue (hinflight : customerId ∈ state.inflight)
    (hinv : RefresherInvariant options (some customerId) state (refreshWork rest)) :
    RefresherInvariant options none (state.queue customerId) (refreshWork rest) := by
  refine ⟨⟨hinv.accounts.refreshing, hinv.accounts.running,
    hinv.accounts.capped, ?_⟩, hinv.timers, ?_⟩
  · exact Finset.insert_subset hinflight hinv.accounts.queued
  · intro other hnamed _
    by_cases hother : other = customerId
    · rw [hother]
      exact .inr (.inr (.inr (Finset.mem_insert_self customerId state.cooldownQueued)))
    · rcases hinv.covered_of_ne hnamed hother with hserved | howed
      · exact .inl hserved
      · rcases howed with hpending | hwaiting | hqueued
        · exact .inr (.inl hpending)
        · exact .inr (.inr (.inl hwaiting))
        · exact .inr (.inr (.inr (Finset.mem_insert_of_mem hqueued)))

theorem RefresherInvariant.request
    (hinv : RefresherInvariant options (some customerId) state (refreshWork rest)) :
    RefresherInvariant options none (state.request options now customerId source correlationId).1
      (refreshWork ((state.request options now customerId source correlationId).2 + rest)) := by
  unfold SnapshotRefresher.request
  by_cases hblank : customerId = ""
  · rw [if_pos hblank]
    simp only [refreshWork_nil]
    refine ⟨hinv.accounts, hinv.timers, ?_⟩
    intro other hnamed _
    exact hinv.covered_of_ne hnamed fun heq => hnamed (heq.trans hblank)
  · rw [if_neg hblank]
    by_cases hcooldown : state.InCooldown options now customerId
    · rw [if_pos hcooldown]
      simp only [refreshWork_nil]
      exact hinv.queue hcooldown.2
    · rw [if_neg hcooldown]
      exact hinv.debounce

theorem RefresherInvariant.execute
    (hinv : RefresherInvariant options (some customerId) state (refreshWork rest)) :
    RefresherInvariant options none (state.execute options now customerId source correlationId).1
      (refreshWork ((state.execute options now customerId source correlationId).2 + rest)) := by
  unfold SnapshotRefresher.execute
  by_cases hfull : (options.maxConcurrency : ℤ) ≤ state.inflightCount
  · rw [if_pos hfull]
    simp only [coe_singleton_add, refreshWork_execute]
    refine ⟨⟨hinv.accounts.refreshing, hinv.accounts.running,
      hinv.accounts.capped, hinv.accounts.queued⟩, hinv.timers, ?_⟩
    intro other hnamed _
    by_cases hother : other = customerId
    · exact .inr (.inr (.inl (by simp [hother])))
    · rcases hinv.covered_of_ne hnamed hother with hserved | howed
      · exact .inl hserved
      · rcases howed with hpending | hwaiting | hqueued
        · exact .inr (.inl hpending)
        · exact .inr (.inr (.inl (hwaiting.trans (Nat.le_add_left _ _))))
        · exact .inr (.inr (.inr hqueued))
  · rw [if_neg hfull]
    by_cases hinflight : customerId ∈ state.inflight
    · rw [if_pos hinflight]
      simp only [refreshWork_nil]
      exact hinv.queue hinflight
    · rw [if_neg hinflight]
      simp only [coe_singleton_add, refreshWork_refreshing]
      refine ⟨⟨?_, ?_, ?_, ?_⟩, hinv.timers, ?_⟩
      · intro other
        change (if customerId = other then 1 else 0) + (refreshWork rest).refreshing other =
          if other ∈ insert customerId state.inflight then 1 else 0
        rw [hinv.accounts.refreshing other]
        by_cases hother : customerId = other
        · subst hother
          simp [hinflight]
        · simp [hother, Ne.symm hother]
      · push_cast
        rw [hinv.accounts.running, add_comm]
      · change state.inflightCount + 1 ≤ _
        omega
      · exact hinv.accounts.queued.trans (Finset.subset_insert customerId _)
      · intro other hnamed _
        by_cases hother : other = customerId
        · exact .inl (.inl hother.symm)
        · rcases hinv.covered_of_ne hnamed hother with hserved | howed
          · exact .inl (.inr hserved)
          · exact .inr howed

theorem RefresherInvariant.flush
    (hinv : RefresherInvariant options none state
      (refreshWork (.timer customerId ::ₘ rest))) :
    RefresherInvariant options none (state.flush options now customerId).1
      (refreshWork ((state.flush options now customerId).2 + rest)) := by
  rw [refreshWork_timer] at hinv
  have htimers : ∀ other, other ≠ customerId → state.pending other ≠ none →
      1 ≤ (refreshWork rest).timers other := by
    intro other hother hset
    simpa [Ne.symm hother] using hinv.timers other hset
  unfold SnapshotRefresher.flush
  cases hpending : state.pending customerId with
  | none =>
      simp only [refreshWork_nil]
      refine ⟨⟨hinv.accounts.refreshing, hinv.accounts.running,
        hinv.accounts.capped, hinv.accounts.queued⟩, ?_, hinv.covered⟩
      intro other hset
      apply htimers other _ hset
      intro hother
      rw [hother, hpending] at hset
      exact hset rfl
  | some entry =>
      apply RefresherInvariant.execute
      refine ⟨⟨hinv.accounts.refreshing, hinv.accounts.running,
        hinv.accounts.capped, hinv.accounts.queued⟩, ?_, ?_⟩
      · intro other hset
        by_cases hother : other = customerId
        · rw [hother, SnapshotRefresher.pending_setPending_self] at hset
          exact absurd rfl hset
        · rw [SnapshotRefresher.pending_setPending_of_ne hother] at hset
          exact htimers other hother hset
      · intro other hnamed hother
        have hne : other ≠ customerId := fun heq => hother (congrArg some heq.symm)
        unfold Owed
        rw [SnapshotRefresher.pending_setPending_of_ne hne]
        exact hinv.covered other hnamed (by simp)

theorem RefresherAccounts.complete (now : Timestamp) (refreshed : Bool)
    (haccounts : RefresherAccounts options state
      (refreshWork (.refreshing customerId source correlationId ::ₘ rest))) :
    RefresherAccounts options
      { state.complete now customerId refreshed with
        cooldownQueued := state.cooldownQueued.erase customerId } (refreshWork rest) := by
  rw [refreshWork_refreshing] at haccounts
  refine ⟨?_, ?_, ?_, ?_⟩
  · intro other
    have hrunning := haccounts.refreshing other
    change (if customerId = other then 1 else 0) + (refreshWork rest).refreshing other =
      _ at hrunning
    change _ = if other ∈ state.inflight.erase customerId then 1 else 0
    by_cases hother : customerId = other
    · subst hother
      rw [if_pos rfl] at hrunning
      rw [if_neg (Finset.notMem_erase customerId _)]
      split at hrunning <;> omega
    · rw [if_neg hother, zero_add] at hrunning
      rw [hrunning]
      simp [Ne.symm hother]
  · have hcount := haccounts.running
    push_cast at hcount
    change ((refreshWork rest).running : ℤ) = state.inflightCount - 1
    omega
  · have hcapped := haccounts.capped
    change state.inflightCount - 1 ≤ _
    omega
  · exact Finset.erase_subset_erase customerId haccounts.queued

theorem RefresherInvariant.finish {refreshed : Bool}
    (hinv : RefresherInvariant options none state
      (refreshWork (.refreshing customerId source correlationId ::ₘ rest))) :
    RefresherInvariant options none
      (state.finish options now customerId source correlationId refreshed).1
      (refreshWork
        ((state.finish options now customerId source correlationId refreshed).2 + rest)) := by
  have haccounts := hinv.accounts.complete now refreshed
  rw [refreshWork_refreshing] at hinv
  unfold SnapshotRefresher.finish
  by_cases hqueued : customerId ∈ state.cooldownQueued
  · rw [if_pos hqueued]
    apply RefresherInvariant.request
    refine ⟨haccounts, hinv.timers, ?_⟩
    intro other hnamed hother
    rcases hinv.covered other hnamed (by simp) with hserved | howed
    · exact .inl hserved
    · rcases howed with hpending | hwaiting | hqueued'
      · exact .inr (.inl hpending)
      · exact .inr (.inr (.inl hwaiting))
      · have hne : other ≠ customerId := fun heq => hother (congrArg some heq.symm)
        exact .inr (.inr (.inr (Finset.mem_erase.2 ⟨hne, hqueued'⟩)))
  · rw [if_neg hqueued]
    rw [Finset.erase_eq_of_notMem hqueued] at haccounts
    simp only [refreshWork_nil]
    exact ⟨haccounts, hinv.timers, hinv.covered⟩

theorem refresherInvariant_turn (choice : RefreshChoice) (thread : RefreshThread)
    (hinv : RefresherInvariant options none state (refreshWork (thread ::ₘ rest))) :
    RefresherInvariant options none ((refresher options).turn choice thread state).1
      (refreshWork (((refresher options).turn choice thread state).2 + rest)) := by
  have hclock : RefresherInvariant options none { state with clock := choice.now }
      (refreshWork (thread ::ₘ rest)) := by
    refine ⟨⟨hinv.accounts.refreshing, hinv.accounts.running,
      hinv.accounts.capped, hinv.accounts.queued⟩, hinv.timers,
      hinv.covered⟩
  cases thread with
  | request customerId source correlationId =>
      rw [refreshWork_request] at hclock
      exact (hclock.note choice.now).request
  | timer customerId => exact hclock.flush
  | execute customerId source correlationId =>
      apply RefresherInvariant.execute
      rw [refreshWork_execute] at hclock
      refine ⟨⟨hclock.accounts.refreshing, hclock.accounts.running,
        hclock.accounts.capped, hclock.accounts.queued⟩, hclock.timers, ?_⟩
      intro other hnamed hother
      have hne : customerId ≠ other := fun heq => hother (congrArg some heq)
      simpa [Owed, hne] using hclock.covered other hnamed (by simp)
  | refreshing customerId source correlationId => exact hclock.finish

theorem refresherInvariant_of_reaches {world : Threads.World SnapshotRefresher RefreshThread}
    (hreach : (refresher options).Reaches idleRefresher world) :
    RefresherInvariant options none world.shared (refreshWork world.pending) := by
  apply hreach.invariant (I := fun world =>
    RefresherInvariant options none world.shared (refreshWork world.pending))
  · refine ⟨⟨fun _ => rfl, rfl, ?_, Finset.empty_subset _⟩, ?_, fun _ _ _ => .inl trivial⟩
    · exact Int.natCast_nonneg _
    · intro _ hset
      exact absurd rfl hset
  · rintro world thread hinv ⟨customerId, source, correlationId, rfl⟩
    rw [refreshWork_request]
    exact hinv
  · intro shared rest choice thread hinv _
    exact refresherInvariant_turn choice thread hinv

/-- Whatever the order of requests, timers, slots and endings. -/
theorem refresher_sound {world : Threads.World SnapshotRefresher RefreshThread}
    (hreach : (refresher options).Reaches idleRefresher world) :
    RefresherSound options world := by
  have hinv := refresherInvariant_of_reaches hreach
  refine ⟨?_, ?_, ?_⟩
  · intro customerId
    have hcount := hinv.accounts.refreshing customerId
    change Threads.held (RefreshThread.isRefreshing customerId) world.pending = _ at hcount
    rw [hcount]
    split <;> omega
  · have hcount := hinv.accounts.running
    change (Threads.held RefreshThread.isRunning world.pending : ℤ) = _ at hcount
    have hcapped := hinv.accounts.capped
    omega
  · intro hidle customerId hnamed
    have hnone : ∀ weight : RefreshThread → ℕ, (∀ customerId source correlationId,
          weight (.request customerId source correlationId) = 0) →
        Threads.held weight world.pending = 0 := by
      intro weight hweight
      apply Multiset.sum_eq_zero
      intro n hn
      obtain ⟨thread, hthread, rfl⟩ := Multiset.mem_map.1 hn
      obtain ⟨customerId, source, correlationId, rfl⟩ := hidle thread hthread
      exact hweight customerId source correlationId
    rcases hinv.covered customerId hnamed (by simp) with hserved | hpending | hwaiting | hqueued
    · exact hserved
    · have htimer := hinv.timers customerId hpending
      change 1 ≤ Threads.held (RefreshThread.isTimer customerId) world.pending at htimer
      rw [hnone _ fun _ _ _ => rfl] at htimer
      omega
    · change 1 ≤ Threads.held (RefreshThread.isWaiting customerId) world.pending at hwaiting
      rw [hnone _ fun _ _ _ => rfl] at hwaiting
      omega
    · have hcount := hinv.accounts.refreshing customerId
      change Threads.held (RefreshThread.isRefreshing customerId) world.pending = _ at hcount
      rw [hnone _ fun _ _ _ => rfl, if_pos (hinv.accounts.queued hqueued)] at hcount
      omega

namespace Sample

def refreshRequest : RefreshThread := .request "customer" .PAYMENT_CAPTURED none

def refreshTurn (now : Timestamp) (thread : RefreshThread) (state : SnapshotRefresher) :
    SnapshotRefresher × List RefreshThread :=
  (refresher .default).turn ⟨now, true⟩ thread state

def debouncedRefresher : SnapshotRefresher := (refreshTurn 10000 refreshRequest .initial).1

/-- Two customers ask; the first asks again while both are refreshed. -/
def twoCustomers : List (Threads.Turn RefreshThread RefreshChoice) :=
  [.start refreshRequest, .next 0 ⟨10000, true⟩,
   .start (.request "neighbour" .INVOICE_ISSUED none), .next 0 ⟨10000, true⟩,
   .next 0 ⟨10500, true⟩, .next 1 ⟨10500, true⟩,
   .start refreshRequest, .next 0 ⟨10550, true⟩]

/-- The timer fires while the first refresh runs, which makes the request again as it ends. -/
def catchUp : List (Threads.Turn RefreshThread RefreshChoice) :=
  [.next 0 ⟨11050, true⟩, .next 0 ⟨11060, false⟩, .next 0 ⟨11100, true⟩,
   .next 0 ⟨11600, true⟩, .next 0 ⟨11700, true⟩]

def bothRefreshing : Threads.Queue SnapshotRefresher RefreshThread :=
  (refresher .default).replay twoCustomers ⟨.initial, []⟩

def allRefreshed : Threads.Queue SnapshotRefresher RefreshThread :=
  (refresher .default).replay catchUp bothRefreshing

theorem bothRefreshing_reached :
    (refresher .default).Reaches idleRefresher bothRefreshing.toWorld := by
  have hidle : (refresher .default).Reaches idleRefresher
      (⟨.initial, []⟩ : Threads.Queue SnapshotRefresher RefreshThread).toWorld := .refl
  apply hidle.replay
  refine ⟨⟨_, _, _, rfl⟩, ?_, ⟨_, _, _, rfl⟩, ?_, ?_, ?_, ⟨_, _, _, rfl⟩, ?_, trivial⟩
  all_goals exact fun _ _ => trivial

theorem allRefreshed_reached : (refresher .default).Reaches idleRefresher allRefreshed.toWorld := by
  apply bothRefreshing_reached.replay
  refine ⟨?_, ?_, ?_, ?_, ?_, trivial⟩
  all_goals exact fun _ _ => trivial

end Sample

theorem refresher_sound_sample :
    Threads.held RefreshThread.isRunning Sample.bothRefreshing.toWorld.pending = 2 ∧
      RefresherSound .default Sample.bothRefreshing.toWorld ∧
      Sample.allRefreshed.pending = [] ∧ Served "customer" Sample.allRefreshed.shared.log := by
  have hsound := refresher_sound Sample.allRefreshed_reached
  have hidle : Sample.allRefreshed.pending = [] := by decide +kernel
  refine ⟨by decide +kernel, refresher_sound Sample.bothRefreshing_reached, hidle,
    hsound.served ?_ "customer" (by decide)⟩
  intro thread hthread
  change thread ∈ (Sample.allRefreshed.pending : Multiset RefreshThread) at hthread
  rw [hidle] at hthread
  cases hthread

end SafariLaundry
