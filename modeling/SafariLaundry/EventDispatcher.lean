import SafariLaundry.Library.Threads
import SafariLaundry.Library.Selection
import SafariLaundry.FinancialEventBus

/-!
# The dispatcher of the outbox

A tick pulls the oldest undelivered rows and ships them with up to eight workers that take
rows from one queue.  A row that fails stays for a later tick until it has failed too often;
nothing holds the younger rows of its customer back meanwhile.
-/

namespace SafariLaundry

open Library List

/-! ## The dispatcher -/

def maxConcurrent : ℕ := 8

def maxAttempts : ℕ := 16

/-- What happened to rows of the outbox, for reference; the service keeps no such list. -/
inductive OutboxEvent
  | shipped (eventId : String)
  | delivered (eventId : String)
  deriving DecidableEq

structure EventDispatcher where
  outbox : Table FinancialEventOutbox.eventId
  working : Bool
  queue : List FinancialEventOutbox
  claims : ℕ
  log : List OutboxEvent

inductive DispatcherThread
  | tick (batchSize : Option ℤ)
  | healthCheck (batchSize : Option ℤ)
  | fetch (batchSize : Option ℤ)
  | claim
  | publish (row : FinancialEventOutbox)
  | markDelivered (row : FinancialEventOutbox)
  | markFailed (row : FinancialEventOutbox) (message : String)

/-- The clock, the answer of the health check, what becomes of the statement, and the
message if it throws. -/
structure DispatcherChoice where
  now : Timestamp
  healthy : Bool
  outcome : Threads.Outcome
  message : String

def clampedBatchSize (batchSize : Option ℤ) : ℕ :=
  (min (max (batchSize.getD 64) 1) 500).toNat

def publishedBefore (row other : FinancialEventOutbox) : Prop :=
  row.publishedAt ≤ other.publishedAt
  deriving Decidable

instance : Std.Total publishedBefore := ⟨fun row other => le_total row.publishedAt other.publishedAt⟩

instance : IsTrans FinancialEventOutbox publishedBefore := ⟨fun _ _ _ => le_trans⟩

/-- The query of a tick: undelivered, not failed too often, oldest first. -/
def pulledRows (batchSize : Option ℤ) (outbox : Table FinancialEventOutbox.eventId) :
    List FinancialEventOutbox :=
  ((outbox.rows.filter fun row => row.deliveredAt = none ∧ row.attempts < maxAttempts)
    |>.insertionSort publishedBefore).take (clampedBatchSize batchSize)

def IsUndelivered (eventId : String) (row : FinancialEventOutbox) : Prop :=
  row.eventId = eventId ∧ row.deliveredAt = none
  deriving Decidable

namespace EventDispatcher

def deliver (now : Timestamp) (eventId : String) (state : EventDispatcher) :
    EventDispatcher :=
  { state with
    outbox := state.outbox.updateWhere (IsUndelivered eventId)
      (fun row => { row with deliveredAt := some now }) fun _ => rfl
    log :=
      if ∃ row ∈ state.outbox.find? eventId, row.deliveredAt = none then
        .delivered eventId :: state.log
      else state.log }

def fail (row : FinancialEventOutbox) (message : String) (state : EventDispatcher) :
    EventDispatcher :=
  { state with
    outbox := state.outbox.updateWhere (IsUndelivered row.eventId)
      (fun current => { current with
        attempts := row.attempts + 1
        lastError := some (String.ofList (message.toList.take 1024)) }) fun _ => rfl }

def release (state : EventDispatcher) : EventDispatcher := { state with working := false }

def fanOut (rows : List FinancialEventOutbox) (state : EventDispatcher) :
    EventDispatcher × List DispatcherThread :=
  let workers := min maxConcurrent rows.length
  ({ state with working := 0 < workers, queue := rows, claims := workers },
    List.replicate workers .claim)

def claim (state : EventDispatcher) : EventDispatcher × List DispatcherThread :=
  match state.queue with
  | [] => ({ state with working := 1 < state.claims, claims := state.claims - 1 }, [])
  | row :: rows =>
      ({ state with queue := rows }, if row.deliveredAt = none then [.publish row] else [.claim])

end EventDispatcher

def DispatcherThread.turn (choice : DispatcherChoice) (thread : DispatcherThread)
    (state : EventDispatcher) : EventDispatcher × List DispatcherThread :=
  match thread with
  | .tick batchSize =>
      if state.working = true then (state, [])
      else ({ state with working := true }, [.healthCheck batchSize])
  | .healthCheck batchSize =>
      if choice.healthy = true then (state, [.fetch batchSize]) else (state.release, [])
  | .fetch batchSize =>
      match choice.outcome with
      | .answered => state.fanOut (pulledRows batchSize state.outbox)
      | .refused | .lost => (state.release, [])
  | .claim => state.claim
  | .publish row =>
      match choice.outcome with
      | .answered =>
          ({ state with log := .shipped row.eventId :: state.log }, [.markDelivered row])
      | .refused => (state, [.markFailed row choice.message])
      | .lost =>
          ({ state with log := .shipped row.eventId :: state.log },
            [.markFailed row choice.message])
  | .markDelivered row =>
      match choice.outcome with
      | .refused => (state, [.claim])
      | .answered | .lost => (state.deliver choice.now row.eventId, [.claim])
  | .markFailed row message =>
      match choice.outcome with
      | .refused => (state, [.claim])
      | .answered | .lost => (state.fail row message, [.claim])

def dispatcher : Threads EventDispatcher DispatcherThread DispatcherChoice where
  starts := fun thread _ => ∃ batchSize, thread = .tick batchSize
  admits := fun _ _ _ _ => True
  turn := DispatcherThread.turn

def idleDispatcher (outbox : Table FinancialEventOutbox.eventId) :
    Threads.World EventDispatcher DispatcherThread where
  shared := ⟨outbox, false, [], 0, []⟩
  pending := 0

def Undelivered (start : Table FinancialEventOutbox.eventId) (past : List OutboxEvent)
    (eventId : String) : Prop :=
  (∃ row ∈ start.find? eventId, row.deliveredAt = none) ∧ .delivered eventId ∉ past

def SameCustomer (row other : FinancialEventOutbox) : Prop :=
  row.customerId ≠ none ∧ row.customerId = other.customerId

def IsOldest (start : Table FinancialEventOutbox.eventId) (past : List OutboxEvent)
    (eventId : String) : Prop :=
  ∀ row ∈ start.find? eventId, ∀ older ∈ start.rows, SameCustomer older row →
    older.publishedAt < row.publishedAt → ¬ Undelivered start past older.eventId

/-- Only undelivered events are shipped, each customer's oldest first, and only shipped
ones are marked. -/
structure DispatchedInOrder (start : Table FinancialEventOutbox.eventId)
    (log : List OutboxEvent) : Prop where
  once : Threads.Throughout (fun event past => ∀ eventId, event = .shipped eventId →
    Undelivered start past eventId) log
  ordered : Threads.Throughout (fun event past => ∀ eventId, event = .shipped eventId →
    IsOldest start past eventId) log
  acknowledged : Threads.Throughout (fun event past => ∀ eventId, event = .delivered eventId →
    .shipped eventId ∈ past) log

def IsDeadLetter (row : FinancialEventOutbox) : Prop :=
  row.deliveredAt = none ∧ maxAttempts ≤ row.attempts
  deriving Decidable

/-- A tick pulls no two events of one customer with different times, and none of a customer
with an older dead letter. -/
def PullsApart (_choice : DispatcherChoice) (thread : DispatcherThread)
    (state : EventDispatcher) (_rest : Multiset DispatcherThread) : Prop :=
  ∀ batchSize, thread = .fetch batchSize → ∀ row ∈ pulledRows batchSize state.outbox,
    (∀ other ∈ pulledRows batchSize state.outbox, SameCustomer other row →
      other.publishedAt = row.publishedAt) ∧
    ∀ dead ∈ state.outbox.rows, IsDeadLetter dead → SameCustomer dead row →
      row.publishedAt ≤ dead.publishedAt

/-! ## One tick at a time -/

def DispatcherThread.isDriver : DispatcherThread → ℕ
  | .healthCheck _ | .fetch _ => 1
  | _ => 0

def DispatcherThread.isWorker : DispatcherThread → ℕ
  | .claim | .publish _ | .markDelivered _ | .markFailed _ _ => 1
  | _ => 0

structure TickAlone (state : EventDispatcher) (pending : Multiset DispatcherThread) : Prop where
  alone : Threads.held DispatcherThread.isDriver pending + (if 0 < state.claims then 1 else 0) =
    if state.working = true then 1 else 0
  claimed : Threads.held DispatcherThread.isWorker pending = state.claims
  drained : state.claims = 0 → state.queue = []

variable {start : Table FinancialEventOutbox.eventId} {state : EventDispatcher}
  {rest : Multiset DispatcherThread} {choice : DispatcherChoice}

variable {thread : DispatcherThread} {batchSize : Option ℤ} {row : FinancialEventOutbox}
  {eventId : String} {past : List OutboxEvent}

theorem TickAlone.worker {next : DispatcherThread} {state' : EventDispatcher}
    (halone : TickAlone state (thread ::ₘ rest)) (hwas : thread.isWorker = 1 ∧ thread.isDriver = 0)
    (his : next.isWorker = 1 ∧ next.isDriver = 0)
    (hsame : state'.claims = state.claims ∧ state'.working = state.working)
    (hdrained : state.queue = [] → state'.queue = []) :
    TickAlone state' (([next] : List DispatcherThread) + rest) := by
  obtain ⟨hclaims, hworking⟩ := hsame
  have hbooks := halone.alone
  have hclaimed := halone.claimed
  rw [Threads.held_cons, hwas.2] at hbooks
  rw [Threads.held_cons, hwas.1] at hclaimed
  refine ⟨?_, ?_, ?_⟩
  · rw [Threads.held_add, hclaims, hworking, ← hbooks]
    simp [his.2]
  · rw [Threads.held_add, hclaims, ← hclaimed]
    simp [his.1]
  · intro hnone
    exact hdrained (halone.drained (hclaims ▸ hnone))

theorem TickAlone.of_fetch (halone : TickAlone state (.fetch batchSize ::ₘ rest)) :
    Threads.held DispatcherThread.isDriver rest = 0 ∧ state.claims = 0 ∧
      Threads.held DispatcherThread.isWorker rest = 0 := by
  have hbooks := halone.alone
  have hclaimed := halone.claimed
  rw [Threads.held_cons] at hbooks hclaimed
  simp only [DispatcherThread.isDriver, DispatcherThread.isWorker] at hbooks hclaimed
  have hle : (if state.working = true then 1 else 0) ≤ 1 := by split <;> omega
  by_cases hclaims : 0 < state.claims
  · rw [if_pos hclaims] at hbooks
    omega
  · rw [if_neg hclaims] at hbooks
    omega

theorem tickAlone_fanOut (rows : List FinancialEventOutbox)
    (halone : TickAlone state (.fetch batchSize ::ₘ rest)) :
    TickAlone (state.fanOut rows).1 ((state.fanOut rows).2 + rest) := by
  obtain ⟨hdrivers, _, hworkers⟩ := halone.of_fetch
  refine ⟨?_, ?_, ?_⟩
  · simp [EventDispatcher.fanOut, hdrivers, DispatcherThread.isDriver]
  · simp [EventDispatcher.fanOut, hworkers, DispatcherThread.isWorker]
  · intro hnone
    have hlength : rows.length = 0 := by
      change min maxConcurrent rows.length = 0 at hnone
      unfold maxConcurrent at hnone
      omega
    exact length_eq_zero_iff.1 hlength

theorem tickAlone_claim (halone : TickAlone state (.claim ::ₘ rest)) :
    TickAlone state.claim.1 (state.claim.2 + rest) := by
  have hworker : DispatcherThread.claim.isWorker = 1 ∧ DispatcherThread.claim.isDriver = 0 :=
    ⟨rfl, rfl⟩
  cases hqueue : state.queue with
  | cons row rows =>
      have hdrained : state.queue = [] → rows = [] := by
        intro hnone
        rw [hqueue] at hnone
        cases hnone
      simp only [EventDispatcher.claim, hqueue]
      by_cases hopen : row.deliveredAt = none
      · rw [if_pos hopen]
        exact halone.worker hworker ⟨rfl, rfl⟩ ⟨rfl, rfl⟩ hdrained
      · rw [if_neg hopen]
        exact halone.worker hworker hworker ⟨rfl, rfl⟩ hdrained
  | nil =>
      have hbooks := halone.alone
      have hclaimed := halone.claimed
      rw [Threads.held_cons] at hbooks hclaimed
      simp only [DispatcherThread.isDriver, DispatcherThread.isWorker] at hbooks hclaimed
      have hle : (if state.working = true then 1 else 0) ≤ 1 := by split <;> omega
      have hpositive : 0 < state.claims := by omega
      rw [if_pos hpositive] at hbooks
      simp only [EventDispatcher.claim, hqueue]
      refine ⟨?_, ?_, fun _ => rfl⟩
      · simp only [Threads.held_add, map_nil, sum_nil, decide_eq_true_eq]
        by_cases hlast : 1 < state.claims
        · rw [if_pos hlast, if_pos (by omega)]
          omega
        · rw [if_neg hlast, if_neg (by omega)]
          omega
      · simp only [Threads.held_add, map_nil, sum_nil]
        omega

theorem tickAlone_release (hdriver : thread.isDriver = 1 ∧ thread.isWorker = 0)
    (halone : TickAlone state (thread ::ₘ rest)) :
    TickAlone state.release (([] : List DispatcherThread) + rest) := by
  have hbooks := halone.alone
  have hclaimed := halone.claimed
  rw [Threads.held_cons, hdriver.1] at hbooks
  rw [Threads.held_cons, hdriver.2] at hclaimed
  have hle : (if state.working = true then 1 else 0) ≤ 1 := by split <;> omega
  refine ⟨?_, ?_, halone.drained⟩
  · have hnone : ¬ 0 < state.claims := by
      intro hclaims
      rw [if_pos hclaims] at hbooks
      omega
    rw [if_neg hnone] at hbooks
    change Threads.held DispatcherThread.isDriver (([] : List DispatcherThread) + rest) +
      (if 0 < state.claims then 1 else 0) = 0
    rw [if_neg hnone]
    simp only [Threads.held_add, map_nil, sum_nil]
    omega
  · change Threads.held DispatcherThread.isWorker (([] : List DispatcherThread) + rest) =
      state.claims
    simp only [Threads.held_add, map_nil, sum_nil]
    omega

def DispatcherThread.row? : DispatcherThread → Option FinancialEventOutbox
  | .publish row | .markDelivered row | .markFailed row _ => some row
  | _ => none

theorem DispatcherThread.turn_statement (choice : DispatcherChoice) (state : EventDispatcher)
    (hrow : thread.row? = some row) :
    ∃ next, (thread.turn choice state).2 = [next] ∧ (next.isWorker = 1 ∧ next.isDriver = 0) ∧
      ((thread.turn choice state).1.claims = state.claims ∧
        (thread.turn choice state).1.working = state.working) ∧
      (thread.turn choice state).1.queue = state.queue := by
  cases thread with
  | publish row =>
      simp only [turn]
      cases choice.outcome <;> exact ⟨_, rfl, ⟨rfl, rfl⟩, ⟨rfl, rfl⟩, rfl⟩
  | markDelivered row =>
      simp only [turn]
      cases choice.outcome <;> exact ⟨_, rfl, ⟨rfl, rfl⟩, ⟨rfl, rfl⟩, rfl⟩
  | markFailed row message =>
      simp only [turn]
      cases choice.outcome <;> exact ⟨_, rfl, ⟨rfl, rfl⟩, ⟨rfl, rfl⟩, rfl⟩
  | _ => cases hrow

theorem tickAlone_statement (hworker : thread.isWorker = 1 ∧ thread.isDriver = 0)
    (hrow : thread.row? = some row) (halone : TickAlone state (thread ::ₘ rest)) :
    TickAlone (thread.turn choice state).1 ((thread.turn choice state).2 + rest) := by
  obtain ⟨next, hnext, hnextWorker, hsame, hqueue⟩ := thread.turn_statement choice state hrow
  rw [hnext]
  exact halone.worker hworker hnextWorker hsame fun hnone => hqueue.trans hnone

theorem tickAlone_turn (thread : DispatcherThread) (halone : TickAlone state (thread ::ₘ rest)) :
    TickAlone (thread.turn choice state).1 ((thread.turn choice state).2 + rest) := by
  cases thread with
  | tick batchSize =>
      have hbooks := halone.alone
      have hclaimed := halone.claimed
      rw [Threads.held_cons] at hbooks hclaimed
      simp only [DispatcherThread.isDriver, DispatcherThread.isWorker] at hbooks hclaimed
      simp only [DispatcherThread.turn]
      by_cases hworking : state.working = true
      · rw [if_pos hworking]
        refine ⟨?_, ?_, halone.drained⟩
        · simpa using hbooks
        · simpa using hclaimed
      · rw [if_neg hworking]
        rw [if_neg hworking] at hbooks
        refine ⟨?_, ?_, halone.drained⟩
        · simp only [Threads.held_add, map_cons, map_nil, sum_cons, sum_nil,
            DispatcherThread.isDriver, if_true]
          omega
        · simpa [DispatcherThread.isWorker] using hclaimed
  | healthCheck batchSize =>
      simp only [DispatcherThread.turn]
      by_cases hhealthy : choice.healthy = true
      · rw [if_pos hhealthy]
        refine ⟨?_, ?_, halone.drained⟩
        · simpa [DispatcherThread.isDriver] using halone.alone
        · simpa [DispatcherThread.isWorker] using halone.claimed
      · rw [if_neg hhealthy]
        exact tickAlone_release ⟨rfl, rfl⟩ halone
  | fetch batchSize =>
      simp only [DispatcherThread.turn]
      cases choice.outcome with
      | answered => exact tickAlone_fanOut _ halone
      | refused => exact tickAlone_release ⟨rfl, rfl⟩ halone
      | lost => exact tickAlone_release ⟨rfl, rfl⟩ halone
  | claim => exact tickAlone_claim halone
  | publish row => exact tickAlone_statement ⟨rfl, rfl⟩ rfl halone
  | markDelivered row => exact tickAlone_statement ⟨rfl, rfl⟩ rfl halone
  | markFailed row message => exact tickAlone_statement ⟨rfl, rfl⟩ rfl halone

/-! ## The rows of a tick -/

def DispatcherThread.carries (thread : DispatcherThread) : List String :=
  (thread.row?.map FinancialEventOutbox.eventId).toList

def carriedIds (pending : Multiset DispatcherThread) : Multiset String :=
  pending.bind fun thread => (thread.carries : Multiset String)

def ToShip (eventId : String) (state : EventDispatcher) (pending : Multiset DispatcherThread) :
    Prop :=
  (∃ row ∈ state.queue, row.eventId = eventId) ∨
    ∃ row, .publish row ∈ pending ∧ row.eventId = eventId

theorem carriedIds_cons (thread : DispatcherThread) :
    carriedIds (thread ::ₘ rest) = (thread.carries : Multiset String) + carriedIds rest :=
  Multiset.cons_bind thread rest _

theorem carriedIds_add (threads : List DispatcherThread) :
    carriedIds (threads + rest) =
      (threads.flatMap DispatcherThread.carries : Multiset String) + carriedIds rest := by
  unfold carriedIds
  rw [Multiset.add_bind, Multiset.coe_bind]

theorem carriedIds_eq_zero (hnone : Threads.held DispatcherThread.isWorker rest = 0) :
    carriedIds rest = 0 := by
  apply Multiset.eq_zero_of_forall_notMem
  intro eventId hmem
  obtain ⟨thread, hthread, hcarried⟩ := Multiset.mem_bind.1 hmem
  have hle := Multiset.single_le_sum (fun _ _ => Nat.zero_le _) _
    (Multiset.mem_map_of_mem DispatcherThread.isWorker hthread)
  change DispatcherThread.isWorker thread ≤ Threads.held DispatcherThread.isWorker rest at hle
  rw [hnone] at hle
  cases thread with
  | tick batchSize => cases hcarried
  | healthCheck batchSize => cases hcarried
  | fetch batchSize => cases hcarried
  | claim => cases hcarried
  | publish row => exact absurd hle (by simp [DispatcherThread.isWorker])
  | markDelivered row => exact absurd hle (by simp [DispatcherThread.isWorker])
  | markFailed row message => exact absurd hle (by simp [DispatcherThread.isWorker])

theorem mem_pulledRows {outbox : Table FinancialEventOutbox.eventId}
    (hrow : row ∈ pulledRows batchSize outbox) :
    row ∈ outbox.rows ∧ row.deliveredAt = none := by
  have hsorted := mem_of_mem_take hrow
  rw [mem_insertionSort, mem_filter] at hsorted
  exact ⟨hsorted.1, (of_decide_eq_true hsorted.2).1⟩

/-- A batch leaves out nothing older than what it holds, dead letters apart. -/
theorem older_pulled {outbox : Table FinancialEventOutbox.eventId}
    {older : FinancialEventOutbox} (hrow : row ∈ pulledRows batchSize outbox)
    (holder : older ∈ outbox.rows) (hwaits : older.deliveredAt = none)
    (halive : older.attempts < maxAttempts) (hbefore : older.publishedAt < row.publishedAt) :
    older ∈ pulledRows batchSize outbox := by
  let due := outbox.rows.filter fun row => row.deliveredAt = none ∧ row.attempts < maxAttempts
  have hsorted : (due.insertionSort publishedBefore).Pairwise publishedBefore :=
    pairwise_insertionSort ..
  have hmem : older ∈ due.insertionSort publishedBefore := by
    rw [mem_insertionSort, mem_filter]
    exact ⟨holder, decide_eq_true ⟨hwaits, halive⟩⟩
  rw [← take_append_drop (clampedBatchSize batchSize) (due.insertionSort _)]
    at hsorted hmem
  rcases mem_append.1 hmem with htaken | hleft
  · exact htaken
  · exact absurd ((pairwise_append.1 hsorted).2.2 row hrow older hleft) (not_le.2 hbefore)

theorem pulledRows_nodup (batchSize : Option ℤ) (outbox : Table FinancialEventOutbox.eventId) :
    ((pulledRows batchSize outbox).map FinancialEventOutbox.eventId).Nodup := by
  unfold pulledRows
  have hfiltered := outbox.keysDistinct.sublist
    ((filter_sublist (p := fun row : FinancialEventOutbox =>
      decide (row.deliveredAt = none ∧ row.attempts < maxAttempts))).map
        FinancialEventOutbox.eventId)
  have hsorted := ((perm_insertionSort publishedBefore _).map
    FinancialEventOutbox.eventId).nodup_iff.2 hfiltered
  exact hsorted.sublist ((take_sublist _ _).map _)

theorem DispatcherThread.log_turn (choice : DispatcherChoice) (thread : DispatcherThread)
    (state : EventDispatcher) :
    (thread.turn choice state).1.log = state.log ∨ (∃ row, thread = .publish row ∧
        (thread.turn choice state).1.log = .shipped row.eventId :: state.log) ∨
      ∃ row, thread = .markDelivered row ∧
        (thread.turn choice state).1.log = .delivered row.eventId :: state.log := by
  cases thread with
  | tick batchSize =>
      left
      simp only [turn]
      split <;> rfl
  | healthCheck batchSize =>
      left
      simp only [turn]
      split <;> rfl
  | fetch batchSize =>
      left
      simp only [turn]
      cases choice.outcome <;> rfl
  | claim =>
      left
      simp only [turn, EventDispatcher.claim]
      split <;> rfl
  | publish row =>
      simp only [turn]
      cases choice.outcome with
      | answered => exact .inr (.inl ⟨row, rfl, rfl⟩)
      | refused => exact .inl rfl
      | lost => exact .inr (.inl ⟨row, rfl, rfl⟩)
  | markDelivered row =>
      have hdeliver : (state.deliver choice.now row.eventId).log = state.log ∨
          (state.deliver choice.now row.eventId).log = .delivered row.eventId :: state.log := by
        by_cases hopen : ∃ current ∈ state.outbox.find? row.eventId, current.deliveredAt = none
        · exact .inr (if_pos hopen)
        · exact .inl (if_neg hopen)
      simp only [turn]
      cases choice.outcome with
      | refused => exact .inl rfl
      | answered => exact hdeliver.imp_right fun hlog => .inr ⟨row, rfl, hlog⟩
      | lost => exact hdeliver.imp_right fun hlog => .inr ⟨row, rfl, hlog⟩
  | markFailed row message =>
      left
      simp only [turn]
      cases choice.outcome <;> rfl

theorem DispatcherThread.queue_turn (choice : DispatcherChoice) (thread : DispatcherThread)
    (state : EventDispatcher) :
    ((thread.turn choice state).1.queue = state.queue ∧
      (∀ row, .publish row ∉ (thread.turn choice state).2) ∧
      ((thread.turn choice state).2.flatMap carries : Multiset String) ≤ thread.carries) ∨
    (∃ batchSize n, thread = .fetch batchSize ∧
      (thread.turn choice state).1.queue = pulledRows batchSize state.outbox ∧
      (thread.turn choice state).2 = List.replicate n .claim) ∨
    ∃ row rows, thread = .claim ∧ state.queue = row :: rows ∧
      (thread.turn choice state).1.queue = rows ∧
      (thread.turn choice state).2 =
        if row.deliveredAt = none then [.publish row] else [.claim] := by
  cases thread with
  | tick batchSize =>
      left
      simp only [turn]
      split
      · exact ⟨rfl, by simp, Multiset.zero_le _⟩
      · exact ⟨rfl, by simp, Multiset.zero_le _⟩
  | healthCheck batchSize =>
      left
      simp only [turn]
      split
      · exact ⟨rfl, by simp, Multiset.zero_le _⟩
      · exact ⟨rfl, by simp, Multiset.zero_le _⟩
  | fetch batchSize =>
      simp only [turn]
      cases choice.outcome with
      | answered => exact .inr (.inl ⟨batchSize, _, rfl, rfl, rfl⟩)
      | refused => exact .inl ⟨rfl, by simp, Multiset.zero_le _⟩
      | lost => exact .inl ⟨rfl, by simp, Multiset.zero_le _⟩
  | claim =>
      simp only [turn]
      cases hqueue : state.queue with
      | nil =>
          simp only [EventDispatcher.claim, hqueue]
          exact .inl ⟨trivial, by simp, Multiset.zero_le _⟩
      | cons row rows =>
          simp only [EventDispatcher.claim, hqueue]
          exact .inr (.inr ⟨row, rows, trivial, rfl, rfl, rfl⟩)
  | publish row =>
      left
      simp only [turn]
      cases choice.outcome with
      | answered => exact ⟨rfl, by simp, le_rfl⟩
      | refused => exact ⟨rfl, by simp, le_rfl⟩
      | lost => exact ⟨rfl, by simp, le_rfl⟩
  | markDelivered row =>
      left
      simp only [turn]
      cases choice.outcome with
      | answered => exact ⟨rfl, by simp, Multiset.zero_le _⟩
      | refused => exact ⟨rfl, by simp, Multiset.zero_le _⟩
      | lost => exact ⟨rfl, by simp, Multiset.zero_le _⟩
  | markFailed row message =>
      left
      simp only [turn]
      cases choice.outcome with
      | answered => exact ⟨rfl, by simp, Multiset.zero_le _⟩
      | refused => exact ⟨rfl, by simp, Multiset.zero_le _⟩
      | lost => exact ⟨rfl, by simp, Multiset.zero_le _⟩

theorem toShip_turn
    (htoShip : ToShip eventId (thread.turn choice state).1 ((thread.turn choice state).2 + rest)) :
    ToShip eventId state (thread ::ₘ rest) ∨ ∃ batchSize, thread = .fetch batchSize ∧
        ∃ row ∈ pulledRows batchSize state.outbox, row.eventId = eventId := by
  have hrest : ∀ {row : FinancialEventOutbox},
      .publish row ∈ rest → row.eventId = eventId → ToShip eventId state (thread ::ₘ rest) :=
    fun hrow hid => .inr ⟨_, Multiset.mem_cons_of_mem hrow, hid⟩
  obtain ⟨hqueue, hconts, _⟩ | ⟨batchSize, n, hthread, hqueue, hconts⟩ |
    ⟨row, rows, _, hqueue, hrows, hconts⟩ := thread.queue_turn choice state
  · left
    rcases htoShip with ⟨row, hrow, hid⟩ | ⟨row, hrow, hid⟩
    · exact .inl ⟨row, hqueue ▸ hrow, hid⟩
    · rcases Multiset.mem_add.1 hrow with hcont | hothers
      · exact absurd hcont (hconts row)
      · exact hrest hothers hid
  · rcases htoShip with ⟨row, hrow, hid⟩ | ⟨row, hrow, hid⟩
    · exact .inr ⟨batchSize, hthread, row, hqueue ▸ hrow, hid⟩
    · rcases Multiset.mem_add.1 hrow with hcont | hothers
      · rw [hconts] at hcont
        cases eq_of_mem_replicate hcont
      · exact .inl (hrest hothers hid)
  · left
    rcases htoShip with ⟨other, hother, hid⟩ | ⟨other, hother, hid⟩
    · rw [hrows] at hother
      exact .inl ⟨other, hqueue ▸ mem_cons_of_mem row hother, hid⟩
    · rcases Multiset.mem_add.1 hother with hcont | hothers
      · have hrow : other = row := by
          rw [hconts] at hcont
          split at hcont
          · simpa using hcont
          · simp at hcont
        exact .inl ⟨other, hrow ▸ hqueue ▸ mem_cons_self .., hid⟩
      · exact hrest hothers hid

def takenIds (state : EventDispatcher) (pending : Multiset DispatcherThread) :
    Multiset String :=
  (state.queue.map FinancialEventOutbox.eventId : Multiset String) + carriedIds pending

theorem takenIds_nodup_turn (thread : DispatcherThread) (halone : TickAlone state (thread ::ₘ rest))
    (hnodup : (takenIds state (thread ::ₘ rest)).Nodup) :
    (takenIds (thread.turn choice state).1 ((thread.turn choice state).2 + rest)).Nodup := by
  unfold takenIds at hnodup ⊢
  rw [carriedIds_cons] at hnodup
  rw [carriedIds_add]
  obtain ⟨hqueue, _, hcarries⟩ | ⟨batchSize, n, rfl, hqueue, hconts⟩ |
    ⟨row, rows, rfl, hqueue, hrows, hconts⟩ := thread.queue_turn choice state
  · rw [hqueue]
    apply Multiset.nodup_of_le _ hnodup
    gcongr
  · have hplain : (List.replicate n DispatcherThread.claim).flatMap
        DispatcherThread.carries = [] := by
      rw [flatMap_eq_nil_iff]
      intro thread hthread
      rw [eq_of_mem_replicate hthread]
      rfl
    -- while the pull is under way there is no worker, so only the pulled rows are taken
    rw [hqueue, hconts, carriedIds_eq_zero halone.of_fetch.2.2, hplain, Multiset.coe_nil,
      add_zero, add_zero, Multiset.coe_nodup]
    exact pulledRows_nodup batchSize state.outbox
  · have htaken : ((if row.deliveredAt = none then [DispatcherThread.publish row]
        else [DispatcherThread.claim]).flatMap DispatcherThread.carries :
          Multiset String) ≤ {row.eventId} := by
      split
      · exact le_refl ({row.eventId} : Multiset String)
      · exact Multiset.zero_le ({row.eventId} : Multiset String)
    have hclaim : (DispatcherThread.claim.carries : Multiset String) = 0 := rfl
    rw [hclaim, hqueue, zero_add, map_cons, ← Multiset.cons_coe, Multiset.cons_add,
      ← Multiset.add_cons, ← Multiset.singleton_add] at hnodup
    rw [hrows, hconts]
    exact Multiset.nodup_of_le (by gcongr) hnodup

theorem ne_of_toShip (hnodup : (takenIds state (.markDelivered row ::ₘ rest)).Nodup)
    (htoShip : ToShip eventId state (.markDelivered row ::ₘ rest)) :
    eventId ≠ row.eventId := by
  have hcarries : (DispatcherThread.markDelivered row).carries = [row.eventId] := rfl
  unfold takenIds at hnodup
  rw [carriedIds_cons, hcarries, Multiset.coe_singleton, Multiset.singleton_add,
    Multiset.add_cons, Multiset.nodup_cons] at hnodup
  intro heq
  apply hnodup.1
  rw [← heq]
  rcases htoShip with ⟨other, hother, hid⟩ | ⟨other, hother, hid⟩
  · apply Multiset.mem_add.2
    exact .inl (hid ▸ mem_map_of_mem hother)
  · apply Multiset.mem_add.2
    right
    rcases Multiset.mem_cons.1 hother with hsame | hrest
    · cases hsame
    · exact Multiset.mem_bind.2 ⟨_, hrest, mem_singleton.2 hid.symm⟩

/-! ## The outbox and the log -/

def FinancialEventOutbox.identity (row : FinancialEventOutbox) :
    String × Option Uuid × Timestamp :=
  (row.eventId, row.customerId, row.publishedAt)

structure OutboxRecorded (start : Table FinancialEventOutbox.eventId)
    (state : EventDispatcher) : Prop where
  events : state.outbox.rows.map FinancialEventOutbox.identity =
    start.rows.map FinancialEventOutbox.identity
  marked : ∀ eventId, (∃ row ∈ state.outbox.find? eventId, row.deliveredAt = none) ↔
    Undelivered start state.log eventId

theorem undelivered_shipped {shippedId : String} :
    Undelivered start (.shipped shippedId :: past) eventId ↔ Undelivered start past eventId := by
  simp [Undelivered]

theorem undelivered_delivered {deliveredId : String} :
    Undelivered start (.delivered deliveredId :: past) eventId ↔
      eventId ≠ deliveredId ∧ Undelivered start past eventId := by
  simp only [Undelivered, mem_cons, OutboxEvent.delivered.injEq, not_or]
  tauto

theorem OutboxRecorded.deliver {now : Timestamp} {deliveredId : String}
    (hrecorded : OutboxRecorded start state) :
    OutboxRecorded start (state.deliver now deliveredId) := by
  constructor
  · rw [← hrecorded.events]
    apply Table.view_updateWhere
    · intro _
      rfl
    · intro _
      rfl
  · intro eventId
    have hfind : (state.deliver now deliveredId).outbox.find? eventId =
        (state.outbox.find? eventId).map fun row =>
          if IsUndelivered deliveredId row then { row with deliveredAt := some now } else row := by
      apply Table.find?_updateWhere
      intro _
      rfl
    have hlog : (state.deliver now deliveredId).log =
        if ∃ row ∈ state.outbox.find? deliveredId, row.deliveredAt = none then
          .delivered deliveredId :: state.log
        else state.log := rfl
    have hmarked := hrecorded.marked eventId
    rw [hfind, hlog]
    by_cases hid : eventId = deliveredId
    · subst hid
      by_cases hopen : ∃ row ∈ state.outbox.find? eventId, row.deliveredAt = none
      · rw [if_pos hopen, undelivered_delivered]
        constructor
        · rintro ⟨row, hrow, hnone⟩
          obtain ⟨old, hold, rfl⟩ := Option.map_eq_some_iff.1 hrow
          by_cases hhit : IsUndelivered eventId old
          · rw [if_pos hhit] at hnone
            cases hnone
          · rw [if_neg hhit] at hnone
            exact absurd ⟨Table.key_of_find? hold, hnone⟩ hhit
        · exact fun hboth => absurd rfl hboth.1
      · rw [if_neg hopen, ← hmarked]
        constructor
        · rintro ⟨row, hrow, hnone⟩
          obtain ⟨old, hold, rfl⟩ := Option.map_eq_some_iff.1 hrow
          have hmiss : ¬ IsUndelivered eventId old := fun hhit => hopen ⟨old, hold, hhit.2⟩
          rw [if_neg hmiss] at hnone
          exact ⟨old, hold, hnone⟩
        · exact fun hbefore => absurd hbefore hopen
    · have hothers : ∀ row ∈ state.outbox.find? eventId, ¬ IsUndelivered deliveredId row := by
        intro row hrow hhit
        exact hid ((Table.key_of_find? hrow).symm.trans hhit.1)
      have hsame : ((state.outbox.find? eventId).map fun row =>
          if IsUndelivered deliveredId row then { row with deliveredAt := some now }
          else row) = state.outbox.find? eventId := by
        cases hrow : state.outbox.find? eventId with
        | none => rfl
        | some row => rw [Option.map_some, if_neg (hothers row hrow)]
      rw [hsame, hmarked]
      split
      · rw [undelivered_delivered]
        exact ⟨fun hundelivered => ⟨hid, hundelivered⟩, And.right⟩
      · exact Iff.rfl

theorem OutboxRecorded.fail {message : String} (hrecorded : OutboxRecorded start state) :
    OutboxRecorded start (state.fail row message) := by
  constructor
  · rw [← hrecorded.events]
    apply Table.view_updateWhere
    · intro _
      rfl
    · intro _
      rfl
  · intro eventId
    have hfind : (state.fail row message).outbox.find? eventId =
        (state.outbox.find? eventId).map fun current =>
          if IsUndelivered row.eventId current then
            { current with
              attempts := row.attempts + 1
              lastError := some (String.ofList (message.toList.take 1024)) }
          else current := by
      apply Table.find?_updateWhere
      intro _
      rfl
    have hkept : ∀ current : FinancialEventOutbox, (if IsUndelivered row.eventId current then
          { current with
            attempts := row.attempts + 1
            lastError := some (String.ofList (message.toList.take 1024)) }
        else current).deliveredAt = current.deliveredAt := by
      intro current
      split <;> rfl
    have hlog : (state.fail row message).log = state.log := rfl
    rw [hfind, hlog, ← hrecorded.marked eventId]
    cases hcurrent : state.outbox.find? eventId with
    | none => simp
    | some current => simp [hkept]

theorem OutboxRecorded.turn (thread : DispatcherThread) (hrecorded : OutboxRecorded start state) :
    OutboxRecorded start (thread.turn choice state).1 := by
  have hsame : ∀ {state' : EventDispatcher}, state'.outbox = state.outbox →
      state'.log = state.log → OutboxRecorded start state' := by
    intro state' houtbox hlog
    refine ⟨?_, fun eventId => ?_⟩
    · rw [houtbox]
      exact hrecorded.events
    · rw [houtbox, hlog]
      exact hrecorded.marked eventId
  cases thread with
  | tick batchSize =>
      simp only [DispatcherThread.turn]
      split <;> exact hsame rfl rfl
  | healthCheck batchSize =>
      simp only [DispatcherThread.turn]
      split <;> exact hsame rfl rfl
  | fetch batchSize =>
      simp only [DispatcherThread.turn]
      cases choice.outcome <;> exact hsame rfl rfl
  | claim =>
      simp only [DispatcherThread.turn, EventDispatcher.claim]
      split <;> exact hsame rfl rfl
  | publish row =>
      have hshipped : OutboxRecorded start
          { state with log := .shipped row.eventId :: state.log } :=
        ⟨hrecorded.events, fun eventId =>
          (hrecorded.marked eventId).trans undelivered_shipped.symm⟩
      simp only [DispatcherThread.turn]
      cases choice.outcome with
      | answered => exact hshipped
      | refused => exact hrecorded
      | lost => exact hshipped
  | markDelivered row =>
      simp only [DispatcherThread.turn]
      cases choice.outcome with
      | answered => exact hrecorded.deliver
      | refused => exact hrecorded
      | lost => exact hrecorded.deliver
  | markFailed row message =>
      simp only [DispatcherThread.turn]
      cases choice.outcome with
      | answered => exact hrecorded.fail
      | refused => exact hrecorded
      | lost => exact hrecorded.fail

/-! ## Every run -/

theorem Undelivered.of_cons {event : OutboxEvent}
    (hundelivered : Undelivered start (event :: past) eventId) :
    Undelivered start past eventId :=
  ⟨hundelivered.1, fun hmem => hundelivered.2 (mem_cons_of_mem _ hmem)⟩

/-- What holds whatever is pulled. -/
structure DispatcherInvariant (start : Table FinancialEventOutbox.eventId)
    (state : EventDispatcher) (pending : Multiset DispatcherThread) : Prop where
  books : TickAlone state pending
  distinct : (takenIds state pending).Nodup
  recorded : OutboxRecorded start state
  undelivered : ∀ eventId, ToShip eventId state pending → Undelivered start state.log eventId
  marking : ∀ row, .markDelivered row ∈ pending → .shipped row.eventId ∈ state.log
  once : Threads.Throughout (fun event past => ∀ eventId, event = .shipped eventId →
    Undelivered start past eventId) state.log
  acknowledged : Threads.Throughout (fun event past => ∀ eventId, event = .delivered eventId →
    .shipped eventId ∈ past) state.log

theorem shipped_of_markDelivered (hmem : .markDelivered row ∈ (thread.turn choice state).2) :
    .shipped row.eventId ∈ (thread.turn choice state).1.log := by
  cases thread with
  | tick batchSize =>
      simp only [DispatcherThread.turn] at hmem
      split at hmem <;> simp at hmem
  | healthCheck batchSize =>
      simp only [DispatcherThread.turn] at hmem
      split at hmem <;> simp at hmem
  | fetch batchSize =>
      simp only [DispatcherThread.turn] at hmem
      cases houtcome : choice.outcome <;> rw [houtcome] at hmem <;>
        simp [EventDispatcher.fanOut] at hmem
  | claim =>
      simp only [DispatcherThread.turn, EventDispatcher.claim] at hmem
      split at hmem
      · simp at hmem
      · split at hmem <;> simp at hmem
  | publish shipped =>
      simp only [DispatcherThread.turn] at hmem ⊢
      cases houtcome : choice.outcome with
      | answered =>
          rw [houtcome] at hmem
          have hrow : row = shipped := by simpa using hmem
          rw [hrow]
          exact mem_cons_self ..
      | refused =>
          rw [houtcome] at hmem
          simp at hmem
      | lost =>
          rw [houtcome] at hmem
          simp at hmem
  | markDelivered shipped =>
      simp only [DispatcherThread.turn] at hmem
      cases houtcome : choice.outcome <;> rw [houtcome] at hmem <;> simp at hmem
  | markFailed shipped message =>
      simp only [DispatcherThread.turn] at hmem
      cases houtcome : choice.outcome <;> rw [houtcome] at hmem <;> simp at hmem

theorem DispatcherInvariant.undelivered_turn (choice : DispatcherChoice) (thread : DispatcherThread)
    (hinv : DispatcherInvariant start state (thread ::ₘ rest))
    (htoShip : ToShip eventId (thread.turn choice state).1 ((thread.turn choice state).2 + rest)) :
    Undelivered start (thread.turn choice state).1.log eventId := by
  have hlog := thread.log_turn choice state
  rcases toShip_turn htoShip with hbefore | ⟨batchSize, hfetch, row, hrow, hid⟩
  · have hundelivered := hinv.undelivered eventId hbefore
    rcases hlog with hsame | ⟨row, _, hshipped⟩ | ⟨row, hmark, hdelivered⟩
    · rw [hsame]
      exact hundelivered
    · rw [hshipped]
      exact undelivered_shipped.2 hundelivered
    · rw [hdelivered]
      subst hmark
      exact undelivered_delivered.2 ⟨ne_of_toShip hinv.distinct hbefore, hundelivered⟩
  · have hlogged : (thread.turn choice state).1.log = state.log := by
      rcases hlog with hsame | ⟨_, hother, _⟩ | ⟨_, hother, _⟩
      · exact hsame
      · rw [hfetch] at hother
        cases hother
      · rw [hfetch] at hother
        cases hother
    obtain ⟨hmem, hnone⟩ := mem_pulledRows hrow
    rw [hlogged, ← hinv.recorded.marked, ← hid]
    exact ⟨row, Table.find?_of_mem hmem, hnone⟩

theorem DispatcherInvariant.marking_turn (choice : DispatcherChoice) (thread : DispatcherThread)
    (hinv : DispatcherInvariant start state (thread ::ₘ rest))
    (hmem : .markDelivered row ∈ ((thread.turn choice state).2 : Multiset DispatcherThread) +
      rest) :
    .shipped row.eventId ∈ (thread.turn choice state).1.log := by
  rcases Multiset.mem_add.1 hmem with hcont | hothers
  · exact shipped_of_markDelivered hcont
  · have hshipped := hinv.marking row (Multiset.mem_cons_of_mem hothers)
    rcases thread.log_turn choice state with hsame | ⟨_, _, hgrown⟩ | ⟨_, _, hgrown⟩
    · rw [hsame]
      exact hshipped
    · rw [hgrown]
      exact mem_cons_of_mem _ hshipped
    · rw [hgrown]
      exact mem_cons_of_mem _ hshipped

theorem DispatcherInvariant.turn (choice : DispatcherChoice) (thread : DispatcherThread)
    (hinv : DispatcherInvariant start state (thread ::ₘ rest)) :
    DispatcherInvariant start (thread.turn choice state).1
      ((thread.turn choice state).2 + rest) := by
  have hlog := thread.log_turn choice state
  refine ⟨tickAlone_turn thread hinv.books,
    takenIds_nodup_turn thread hinv.books hinv.distinct,
    hinv.recorded.turn thread, fun _ => hinv.undelivered_turn choice thread,
    fun _ => hinv.marking_turn choice thread, ?_, ?_⟩
  · rcases hlog with hsame | ⟨row, hpublish, hshipped⟩ | ⟨row, _, hdelivered⟩
    · rw [hsame]
      exact hinv.once
    · rw [hshipped]
      refine ⟨?_, hinv.once⟩
      intro eventId heq
      obtain rfl := OutboxEvent.shipped.inj heq
      exact hinv.undelivered row.eventId
        (.inr ⟨row, hpublish ▸ Multiset.mem_cons_self _ _, rfl⟩)
    · rw [hdelivered]
      refine ⟨?_, hinv.once⟩
      intro eventId heq
      cases heq
  · rcases hlog with hsame | ⟨row, _, hshipped⟩ | ⟨row, hmark, hdelivered⟩
    · rw [hsame]
      exact hinv.acknowledged
    · rw [hshipped]
      refine ⟨?_, hinv.acknowledged⟩
      intro eventId heq
      cases heq
    · rw [hdelivered]
      refine ⟨?_, hinv.acknowledged⟩
      intro eventId heq
      obtain rfl := OutboxEvent.delivered.inj heq
      exact hinv.marking row (hmark ▸ Multiset.mem_cons_self _ _)

theorem dispatcherInvariant_idle :
    DispatcherInvariant start (idleDispatcher start).shared (idleDispatcher start).pending := by
  refine ⟨⟨rfl, rfl, fun _ => rfl⟩, Multiset.nodup_zero, ⟨rfl, ?_⟩, ?_, ?_, trivial, trivial⟩
  · intro eventId
    exact ⟨fun hopen => ⟨hopen, not_mem_nil⟩, And.left⟩
  · rintro eventId (⟨row, hrow, _⟩ | ⟨row, hrow, _⟩)
    · cases hrow
    · exact absurd hrow (Multiset.notMem_zero _)
  · intro row hrow
    exact absurd hrow (Multiset.notMem_zero _)

theorem ToShip.of_tick (htoShip : ToShip eventId state (.tick batchSize ::ₘ rest)) :
    ToShip eventId state rest := by
  rcases htoShip with hqueued | ⟨row, hrow, hid⟩
  · exact .inl hqueued
  · rcases Multiset.mem_cons.1 hrow with htick | hothers
    · cases htick
    · exact .inr ⟨row, hothers, hid⟩

theorem DispatcherInvariant.tick (batchSize : Option ℤ)
    (hinv : DispatcherInvariant start state rest) :
    DispatcherInvariant start state (.tick batchSize ::ₘ rest) := by
  refine ⟨⟨?_, ?_, hinv.books.drained⟩, ?_, hinv.recorded, ?_, ?_,
    hinv.once, hinv.acknowledged⟩
  · rw [Threads.held_cons, ← hinv.books.alone]
    simp [DispatcherThread.isDriver]
  · rw [Threads.held_cons, ← hinv.books.claimed]
    simp [DispatcherThread.isWorker]
  · have hcarries : ((DispatcherThread.tick batchSize).carries : Multiset String) = 0 := rfl
    unfold takenIds
    rw [carriedIds_cons, hcarries, zero_add]
    exact hinv.distinct
  · intro eventId htoShip
    exact hinv.undelivered eventId htoShip.of_tick
  · intro row hrow
    rcases Multiset.mem_cons.1 hrow with htick | hothers
    · cases htick
    · exact hinv.marking row hothers

/-! ## Where only the oldest are pulled -/

structure OldestInvariant (start : Table FinancialEventOutbox.eventId) (state : EventDispatcher)
    (pending : Multiset DispatcherThread) : Prop where
  oldest : ∀ eventId, ToShip eventId state pending → IsOldest start state.log eventId
  ordered : Threads.Throughout (fun event past => ∀ eventId, event = .shipped eventId →
    IsOldest start past eventId) state.log

theorem IsOldest.cons {event : OutboxEvent} (holdest : IsOldest start past eventId) :
    IsOldest start (event :: past) eventId :=
  fun row hrow older holder hcustomer hbefore hundelivered =>
    holdest row hrow older holder hcustomer hbefore hundelivered.of_cons

theorem OutboxRecorded.exists_row (hrecorded : OutboxRecorded start state)
    (hrow : row ∈ start.rows) :
    ∃ current ∈ state.outbox.rows, current.identity = row.identity := by
  have hmem : row.identity ∈ state.outbox.rows.map FinancialEventOutbox.identity := by
    rw [hrecorded.events]
    exact mem_map_of_mem hrow
  exact mem_map.1 hmem

theorem isOldest_of_pulled {pulled : FinancialEventOutbox} (hrecorded : OutboxRecorded start state)
    (hpulls : PullsApart choice (.fetch batchSize) state rest)
    (hpulled : pulled ∈ pulledRows batchSize state.outbox) :
    IsOldest start state.log pulled.eventId := by
  intro row hrow older holder hcustomer hbefore hundelivered
  obtain ⟨current, hcurrent, hidentity⟩ := hrecorded.exists_row (Table.mem_of_find? hrow)
  obtain ⟨stale, hstale, hstaleIdentity⟩ := hrecorded.exists_row holder
  simp only [FinancialEventOutbox.identity, Prod.mk.injEq] at hidentity hstaleIdentity
  have hsame : current = pulled := by
    apply Table.row_eq_of_key_eq hcurrent (mem_pulledRows hpulled).1
    exact hidentity.1.trans (Table.key_of_find? hrow)
  subst hsame
  obtain ⟨waiting, hwaiting, hnone⟩ := (hrecorded.marked older.eventId).2 hundelivered
  have hwaitingSame : waiting = stale := by
    apply Table.row_eq_of_key_eq (Table.mem_of_find? hwaiting) hstale
    exact (Table.key_of_find? hwaiting).trans hstaleIdentity.1.symm
  subst hwaitingSame
  have hcustomer' : SameCustomer waiting current := by
    unfold SameCustomer at hcustomer ⊢
    rw [hstaleIdentity.2.1, hidentity.2.1]
    exact hcustomer
  have hbefore' : waiting.publishedAt < current.publishedAt := by
    rw [hstaleIdentity.2.2, hidentity.2.2]
    exact hbefore
  obtain ⟨hapart, hdead⟩ := hpulls batchSize rfl current hpulled
  by_cases halive : waiting.attempts < maxAttempts
  · have hsame := hapart waiting (older_pulled hpulled hstale hnone halive hbefore') hcustomer'
    exact hbefore'.ne hsame
  · exact hbefore'.not_ge (hdead waiting hstale ⟨hnone, not_lt.1 halive⟩ hcustomer')

theorem OldestInvariant.turn (hpulls : PullsApart choice thread state rest)
    (hrecorded : OutboxRecorded start state)
    (hinv : OldestInvariant start state (thread ::ₘ rest)) :
    OldestInvariant start (thread.turn choice state).1 ((thread.turn choice state).2 + rest) := by
  have hlog := thread.log_turn choice state
  have hgrown : ∀ eventId, IsOldest start state.log eventId →
      IsOldest start (thread.turn choice state).1.log eventId := by
    intro eventId holdest
    rcases hlog with hsame | ⟨_, _, hshipped⟩ | ⟨_, _, hdelivered⟩
    · rw [hsame]
      exact holdest
    · rw [hshipped]
      exact holdest.cons
    · rw [hdelivered]
      exact holdest.cons
  constructor
  · intro eventId htoShip
    apply hgrown
    rcases toShip_turn htoShip with hbefore | ⟨batchSize, rfl, row, hrow, rfl⟩
    · exact hinv.oldest eventId hbefore
    · exact isOldest_of_pulled hrecorded hpulls hrow
  · rcases hlog with hsame | ⟨row, hpublish, hshipped⟩ | ⟨row, _, hdelivered⟩
    · rw [hsame]
      exact hinv.ordered
    · rw [hshipped]
      refine ⟨?_, hinv.ordered⟩
      intro eventId heq
      obtain rfl := OutboxEvent.shipped.inj heq
      exact hinv.oldest row.eventId (.inr ⟨row, hpublish ▸ Multiset.mem_cons_self _ _, rfl⟩)
    · rw [hdelivered]
      refine ⟨?_, hinv.ordered⟩
      intro eventId heq
      cases heq

/-- Where no tick pulls two events of one customer or passes over a dead letter of it, the
events of a customer go out in order. -/
theorem events_dispatchedInOrder {world : Threads.World EventDispatcher DispatcherThread}
    (hreach : (dispatcher.restrict PullsApart).Reaches (idleDispatcher start) world) :
    DispatchedInOrder start world.shared.log := by
  have hboth : DispatcherInvariant start world.shared world.pending ∧
      OldestInvariant start world.shared world.pending := by
    apply hreach.invariant (I := fun world =>
      DispatcherInvariant start world.shared world.pending ∧
        OldestInvariant start world.shared world.pending)
    · refine ⟨dispatcherInvariant_idle, ?_, trivial⟩
      rintro eventId (⟨row, hrow, _⟩ | ⟨row, hrow, _⟩)
      · cases hrow
      · exact absurd hrow (Multiset.notMem_zero _)
    · rintro world thread ⟨hinv, holdest⟩ ⟨batchSize, rfl⟩
      refine ⟨hinv.tick batchSize, ?_, holdest.ordered⟩
      intro eventId htoShip
      exact holdest.oldest eventId htoShip.of_tick
    · rintro state rest choice thread ⟨hinv, holdest⟩ ⟨_, hpulls⟩
      exact ⟨hinv.turn choice thread, holdest.turn hpulls hinv.recorded⟩
  exact ⟨hboth.1.once, hboth.2.ordered, hboth.1.acknowledged⟩

namespace Sample

def paymentEventPayload : FinancialDomainEvent where
  customerId := "customer"
  orderId := none
  correlationId := none
  occurredAt := 1000
  details := .paymentCaptured "1.0000" "CASH"

def outboxRow (eventId : String) (publishedAt : Timestamp) : FinancialEventOutbox where
  eventId := eventId
  eventName := paymentEventPayload.details.name
  customerId := some "customer"
  correlationId := none
  occurredAt := 1000
  publishedAt := publishedAt
  deliveredAt := none
  attempts := 0
  lastError := none
  payload := paymentEventPayload

def twoEvents : Table FinancialEventOutbox.eventId :=
  ⟨[outboxRow "older" 1, outboxRow "newer" 2], by decide⟩

def answering : DispatcherChoice := ⟨3, true, .answered, ""⟩

def brokerDown : DispatcherChoice := ⟨3, true, .refused, "timeout"⟩

def twoTicks : List (Threads.Turn DispatcherThread DispatcherChoice) :=
  .start (.tick (some 1)) :: List.replicate 7 (.next 0 answering) ++
    .start (.tick (some 1)) :: List.replicate 5 (.next 0 answering)

def refusedOlder : List (Threads.Turn DispatcherThread DispatcherChoice) :=
  .start (.tick none) :: List.replicate 4 (.next 0 answering) ++ .next 0 brokerDown ::
    List.replicate 3 (.next 0 answering)

def idleQueue : Threads.Queue EventDispatcher DispatcherThread :=
  ⟨⟨twoEvents, false, [], 0, []⟩, []⟩

def dispatched (schedule : List (Threads.Turn DispatcherThread DispatcherChoice)) :
    Threads.Queue EventDispatcher DispatcherThread :=
  dispatcher.replay schedule idleQueue

theorem twoTicks_reached : (dispatcher.restrict PullsApart).Reaches (idleDispatcher twoEvents)
    (dispatched twoTicks).toWorld := by
  have hidle : (dispatcher.restrict PullsApart).Reaches (idleDispatcher twoEvents)
      idleQueue.toWorld := .refl
  apply hidle.replay
  refine ⟨⟨some 1, rfl⟩, ?_, ?_, ?_, ?_, ?_, ?_, ?_, ⟨some 1, rfl⟩, ?_, ?_, ?_, ?_, ?_, trivial⟩
  all_goals
    intro _ hthread
    refine ⟨trivial, ?_⟩
    intro _ hfetch
    cases hthread
    cases hfetch
  all_goals
    unfold SameCustomer
    decide +kernel

theorem refusedOlder_reached :
    dispatcher.Reaches (idleDispatcher twoEvents) (dispatched refusedOlder).toWorld := by
  have hidle : dispatcher.Reaches (idleDispatcher twoEvents) idleQueue.toWorld := .refl
  apply hidle.replay
  refine ⟨⟨none, rfl⟩, ?_, ?_, ?_, ?_, ?_, ?_, ?_, ?_, trivial⟩
  all_goals exact fun _ _ => trivial

end Sample

theorem events_dispatchedInOrder_sample :
    (Sample.dispatched Sample.twoTicks).shared.log =
        [.shipped "newer", .delivered "older", .shipped "older"] ∧
      DispatchedInOrder Sample.twoEvents (Sample.dispatched Sample.twoTicks).shared.log :=
  ⟨by decide +kernel, events_dispatchedInOrder Sample.twoTicks_reached⟩

theorem events_dispatchedInOrder_fails :
    ¬ ∀ (start : Table FinancialEventOutbox.eventId)
        (world : Threads.World EventDispatcher DispatcherThread),
      dispatcher.Reaches (idleDispatcher start) world →
      DispatchedInOrder start world.shared.log := by
  intro hall
  have hordered := (hall Sample.twoEvents _ Sample.refusedOlder_reached).ordered
  have hlog : (Sample.dispatched Sample.refusedOlder).shared.log = [.shipped "newer"] := by
    decide +kernel
  change Threads.Throughout _ (Sample.dispatched Sample.refusedOlder).shared.log at hordered
  rw [hlog] at hordered
  have hnewer := hordered.1 "newer" rfl (Sample.outboxRow "newer" 2) (by decide +kernel)
    (Sample.outboxRow "older" 1) (by decide +kernel) ⟨by decide, rfl⟩ (by decide)
  apply hnewer
  exact ⟨⟨Sample.outboxRow "older" 1, by decide +kernel, rfl⟩, not_mem_nil⟩

end SafariLaundry
