import SafariLaundry.Library.Threads
import SafariLaundry.CustomerBlocking
import SafariLaundry.InvoiceAudit

/-!
# Dispatch instructions

A dispatch is acknowledged by its driver and closed by an order, through the event of the
order or through the reconciliation job that looks for lost events.  Each handler reads,
updates and records in separate statements, and any other handler may run in between.
-/

namespace SafariLaundry

open Library

inductive DispatchStatus
  | ASSIGNED | IN_PROGRESS | COMPLETED | CANCELLED
  deriving DecidableEq

structure Dispatch where
  (id customerId driverId : Uuid)
  status : DispatchStatus
  instructionNote : Option String
  createdByUserId : Option Uuid
  createdAt : Timestamp
  (acknowledgedAt startedAt firstAlertAt escalatedAt breachedAt : Option Timestamp)
  (ackMinutes totalMinutes : Option ℕ)
  completedAt : Option Timestamp
  completedByOrderId : Option Uuid

structure DispatchUser where
  id : Uuid
  isActive : Bool
  safariRole : SafariRole

structure DispatchOrder where
  id : Uuid
  dispatchId : Option Uuid
  createdAt : Timestamp

structure DriverMetrics where
  driverId : Uuid
  (date assignedCount acknowledgedCount completedCount lateCount breachedCount : ℕ)

def DriverMetrics.key (metrics : DriverMetrics) : Uuid × ℕ :=
  (metrics.driverId, metrics.date)

structure DispatchDb where
  customers : Table CustomerBlockSnapshot.id
  users : Table DispatchUser.id
  orders : Table DispatchOrder.id
  dispatches : Table Dispatch.id
  metrics : Table DriverMetrics.key

structure CreateDispatchInput where
  (customerId driverId : Uuid)
  instructionNote : Option String
  actorUserId : Option Uuid
  actorRole : Option SafariRole

structure AcknowledgeInput where
  (dispatchId driverId : Uuid)

/-- `occurredAt` is absent where the text of the payload is no date. -/
structure OrderCreatedEventPayload where
  orderId : Uuid
  dispatchId : Option Uuid
  occurredAt : Option Timestamp

structure Acknowledgement where
  (dispatchId driverId : Uuid)
  now : Timestamp
  ackMinutes : ℕ

structure Closing where
  (dispatchId orderId driverId : Uuid)
  closedAt : Timestamp
  totalMinutes : ℕ

structure ReconciliationCandidate where
  (id orderId : Uuid)

/-- The stamps that one pass of the monitor adds. -/
structure SlaPatch where
  (firstAlertAt escalatedAt breachedAt : Option Timestamp)
  deriving DecidableEq

def computeElapsedMinutes (start upTo : Timestamp) : ℕ := (upTo - start) / 60000

def Acknowledgement.Hits (ack : Acknowledgement) (row : Dispatch) : Prop :=
  row.id = ack.dispatchId ∧ row.driverId = ack.driverId ∧ row.status = .ASSIGNED
  deriving Decidable

def Acknowledgement.data (ack : Acknowledgement) (row : Dispatch) : Dispatch :=
  { row with
    status := .IN_PROGRESS
    acknowledgedAt := some ack.now
    startedAt := some ack.now
    ackMinutes := some ack.ackMinutes }

def Closing.Hits (closing : Closing) (row : Dispatch) : Prop :=
  row.id = closing.dispatchId ∧ row.status ∈ [DispatchStatus.ASSIGNED, .IN_PROGRESS]
  deriving Decidable

def Closing.data (closing : Closing) (row : Dispatch) : Dispatch :=
  { row with
    status := .COMPLETED
    completedAt := some closing.closedAt
    completedByOrderId := some closing.orderId
    totalMinutes := some closing.totalMinutes }

/-- The update would give the order a second dispatch, against the unique column. -/
def Closing.Clashes (closing : Closing) (db : DispatchDb) : Prop :=
  (∃ row ∈ db.dispatches.find? closing.dispatchId, closing.Hits row) ∧ ∃ row ∈ db.dispatches.rows,
      row.id ≠ closing.dispatchId ∧ row.completedByOrderId = some closing.orderId
  deriving Decidable

def SlaPatch.data (patch : SlaPatch) (row : Dispatch) : Dispatch :=
  { row with
    firstAlertAt := patch.firstAlertAt.or row.firstAlertAt
    escalatedAt := patch.escalatedAt.or row.escalatedAt
    breachedAt := patch.breachedAt.or row.breachedAt }

def countMetrics (driverId : Uuid) (at_ : Timestamp) (count : DriverMetrics → DriverMetrics)
    (db : DispatchDb) : DispatchDb :=
  { db with
    metrics := db.metrics.upsert (count
      ((db.metrics.find? (driverId, kuwaitDay at_)).getD
        ⟨driverId, kuwaitDay at_, 0, 0, 0, 0, 0⟩)) }

def incrementAssigned (metrics : DriverMetrics) : DriverMetrics :=
  { metrics with assignedCount := metrics.assignedCount + 1 }

def recordAcknowledged (metrics : DriverMetrics) : DriverMetrics :=
  { metrics with acknowledgedCount := metrics.acknowledgedCount + 1 }

def recordCompletion (totalMinutes : ℕ) (metrics : DriverMetrics) : DriverMetrics :=
  { metrics with
    completedCount := metrics.completedCount + 1
    lateCount := metrics.lateCount + if 2 < totalMinutes ∧ totalMinutes ≤ 5 then 1 else 0
    breachedCount := metrics.breachedCount + if 5 < totalMinutes then 1 else 0 }

inductive DispatchWrite
  | placeOrder (order : DispatchOrder)
  | insert (row : Dispatch)
  | acknowledge (ack : Acknowledgement)
  | close (closing : Closing)
  | stamp (dispatchId : Uuid) (patch : SlaPatch)
  | incrementAssigned (driverId : Uuid) (at_ : Timestamp)
  | recordAcknowledged (ack : Acknowledgement)
  | recordCompletion (closing : Closing)

inductive DispatchMark
  | closed (closing : Closing)
  | acknowledgementRecorded (ack : Acknowledgement)
  | completionRecorded (closing : Closing)

structure DispatchDesk where
  db : DispatchDb
  marks : List DispatchMark

def DispatchDb.updateDispatches (db : DispatchDb) (p : Dispatch → Prop) [DecidablePred p]
    (f : Dispatch → Dispatch) (hid : ∀ row, (f row).id = row.id) : DispatchDb :=
  { db with dispatches := db.dispatches.updateWhere p f hid }

theorem Acknowledgement.data_id (ack : Acknowledgement) (row : Dispatch) :
    (ack.data row).id = row.id := rfl

theorem Closing.data_id (closing : Closing) (row : Dispatch) : (closing.data row).id = row.id := rfl

theorem SlaPatch.data_id (patch : SlaPatch) (row : Dispatch) : (patch.data row).id = row.id := rfl

def Acknowledgement.Applies (ack : Acknowledgement) (db : DispatchDb) : Prop :=
  ∃ row ∈ db.dispatches.find? ack.dispatchId, ack.Hits row
  deriving Decidable

def Closing.Applies (closing : Closing) (db : DispatchDb) : Prop :=
  ∃ row ∈ db.dispatches.find? closing.dispatchId, closing.Hits row
  deriving Decidable

def DispatchWrite.apply (write : DispatchWrite) (desk : DispatchDesk) : DispatchDesk :=
  match write with
  | .placeOrder order =>
      { desk with db.orders := (desk.db.orders.insert order).getD desk.db.orders }
  | .insert row =>
      { desk with db.dispatches := (desk.db.dispatches.insert row).getD desk.db.dispatches }
  | .acknowledge ack =>
      { desk with db := desk.db.updateDispatches ack.Hits ack.data ack.data_id }
  | .close closing =>
      { db := desk.db.updateDispatches closing.Hits closing.data closing.data_id
        marks :=
          if closing.Applies desk.db then .closed closing :: desk.marks else desk.marks }
  | .stamp dispatchId patch =>
      { desk with
        db := desk.db.updateDispatches (fun row => row.id = dispatchId) patch.data
          patch.data_id }
  | .incrementAssigned driverId at_ =>
      { desk with db := countMetrics driverId at_ SafariLaundry.incrementAssigned desk.db }
  | .recordAcknowledged ack =>
      { db := countMetrics ack.driverId ack.now SafariLaundry.recordAcknowledged desk.db
        marks := .acknowledgementRecorded ack :: desk.marks }
  | .recordCompletion closing =>
      { db := countMetrics closing.driverId closing.closedAt
          (SafariLaundry.recordCompletion closing.totalMinutes) desk.db
        marks := .completionRecorded closing :: desk.marks }

/-! ## Handlers -/

/-- What is left of a handler.  The first constructor of each group is the request. -/
inductive DispatchThread
  | placeOrder (order : DispatchOrder)
  | create (input : CreateDispatchInput)
  | createUnlessDuplicate (input : CreateDispatchInput)
  | createRow (input : CreateDispatchInput)
  | incrementAssigned (driverId : Uuid) (at_ : Timestamp)
  | acknowledge (input : AcknowledgeInput)
  | acknowledgeUpdate (ack : Acknowledgement)
  | acknowledgeReread (ack : Acknowledgement) (updated : Bool)
  | recordAcknowledged (ack : Acknowledgement)
  | handleOrderCreated (payload : OrderCreatedEventPayload)
  | close (closing : Closing) (candidates : List ReconciliationCandidate)
  | recordCompletion (closing : Closing) (candidates : List ReconciliationCandidate)
  | runSlaMonitorOnce (limit : ℕ)
  | slaRows (now : Timestamp) (rows : List Dispatch)
  | slaUpdate (now : Timestamp) (dispatchId : Uuid) (patch : SlaPatch) (rows : List Dispatch)
  | runReconciliationOnce (limit : ℕ)
  | reconcileRows (candidates : List ReconciliationCandidate)

structure DispatchChoice where
  now : Timestamp
  newId : Uuid
  outcome : Threads.Outcome

/-- What goes on after a statement that threw: the monitor goes to its next row and a
failed metric is only logged, everything else is left. -/
def DispatchThread.abandoned : DispatchThread → List DispatchThread
  | .recordCompletion _ candidates => [.reconcileRows candidates]
  | .slaRows now rows => [.slaRows now rows.tail]
  | .slaUpdate now _ _ rows => [.slaRows now rows]
  | _ => []

def CcTracked (now : Timestamp) (db : DispatchDb) (row : Dispatch) : Prop :=
  row.status = .ASSIGNED ∧ now ≤ row.createdAt + 4 * 60 * 60 * 1000 ∧
    kuwaitDay row.createdAt = kuwaitDay now ∧
    ∃ creator ∈ row.createdByUserId.bind db.users.find?,
      creator.safariRole ∈ [SafariRole.CALL_CENTER, .CALL_CENTER_SUPERVISOR]
  deriving Decidable

def createdBefore (row other : Dispatch) : Prop := row.createdAt ≤ other.createdAt
  deriving Decidable

def slaMonitorRows (now : Timestamp) (limit : ℕ) (db : DispatchDb) : List Dispatch :=
  (((db.dispatches.rows.filter fun row => CcTracked now db row).insertionSort
    createdBefore).take limit).filter fun row =>
      trim row.driverId ≠ "" ∧ trim row.customerId ≠ ""

def dueStamps (now : Timestamp) (ageMin : ℕ) (row : Dispatch) : SlaPatch where
  firstAlertAt := if 2 ≤ ageMin ∧ row.firstAlertAt = none then some now else none
  escalatedAt := if 5 ≤ ageMin ∧ row.escalatedAt = none then some now else none
  breachedAt := if 10 ≤ ageMin ∧ row.breachedAt = none then some now else none

def noStamps : SlaPatch := ⟨none, none, none⟩

def firstOrderOf (dispatchId : Uuid) (db : DispatchDb) : Option DispatchOrder :=
  ((db.orders.rows.filter fun order => order.dispatchId = some dispatchId).insertionSort
    fun order other => order.createdAt ≤ other.createdAt).head?

def findReconciliationCandidates (limit : ℕ) (db : DispatchDb) :
    List ReconciliationCandidate :=
  (((db.dispatches.rows.filter fun row =>
    row.status ∈ [DispatchStatus.ASSIGNED, .IN_PROGRESS] ∧
      firstOrderOf row.id db ≠ none).insertionSort createdBefore).take limit).filterMap
    fun row => ((firstOrderOf row.id db).filter fun order => order.id ≠ "").map fun order =>
      ⟨row.id, order.id⟩

def CreateDispatchInput.Assignable (input : CreateDispatchInput) (db : DispatchDb) : Prop :=
  (∃ customer ∈ db.customers.find? input.customerId, customer.isBlocked = false) ∧
    ∃ driver ∈ db.users.find? input.driverId,
      driver.isActive = true ∧ driver.safariRole = .DRIVER ∧ trim driver.id ≠ ""
  deriving Decidable

def CreateDispatchInput.row (input : CreateDispatchInput) (id : Uuid) (now : Timestamp) :
    Dispatch where
  id := id
  customerId := input.customerId
  driverId := input.driverId
  status := .ASSIGNED
  instructionNote := trimmed input.instructionNote
  createdByUserId :=
    if input.actorRole ∈ [some SafariRole.CALL_CENTER, some .CALL_CENTER_SUPERVISOR] then
      input.actorUserId.filter fun id => id ≠ ""
    else none
  createdAt := now
  acknowledgedAt := none
  startedAt := none
  firstAlertAt := none
  escalatedAt := none
  breachedAt := none
  ackMinutes := none
  totalMinutes := none
  completedAt := none
  completedByOrderId := none

/-- The next statement of a handler: the write it makes, if it makes one, and what goes
on from there.  A write that violates a unique column is not made. -/
def DispatchThread.next (choice : DispatchChoice) (db : DispatchDb) :
    DispatchThread → Option DispatchWrite × List DispatchThread
  | .placeOrder order => (some (.placeOrder order), [])
  | .create input =>
      (none, if input.Assignable db then [.createUnlessDuplicate input] else [])
  | .createUnlessDuplicate input =>
      (none, if ∃ row ∈ db.dispatches.rows, row.customerId = input.customerId ∧
            row.driverId = input.driverId ∧ row.status = .ASSIGNED then []
        else [.createRow input])
  | .createRow input =>
      (some (.insert (input.row choice.newId choice.now)),
        if db.dispatches.find? choice.newId = none then
          [.incrementAssigned input.driverId choice.now]
        else [])
  | .incrementAssigned driverId at_ => (some (.incrementAssigned driverId at_), [])
  | .acknowledge input =>
      (none,
        match db.dispatches.find? input.dispatchId with
        | some existing =>
            if existing.driverId = input.driverId ∧ existing.status = .ASSIGNED then
              [.acknowledgeUpdate ⟨input.dispatchId, input.driverId, choice.now,
                computeElapsedMinutes existing.createdAt choice.now⟩]
            else []
        | none => [])
  | .acknowledgeUpdate ack =>
      (some (.acknowledge ack), [.acknowledgeReread ack (ack.Applies db)])
  | .acknowledgeReread ack updated =>
      (none,
        match db.dispatches.find? ack.dispatchId with
        | some latest =>
            if updated = true then
              [.recordAcknowledged { ack with driverId := latest.driverId }]
            else []
        | none => [])
  | .recordAcknowledged ack => (some (.recordAcknowledged ack), [])
  | .handleOrderCreated payload =>
      (none,
        match (payload.dispatchId.filter fun id => id ≠ "").bind db.dispatches.find? with
        | some before =>
            [.close ⟨before.id, payload.orderId, before.driverId,
              payload.occurredAt.getD choice.now, computeElapsedMinutes before.createdAt
                (payload.occurredAt.getD choice.now)⟩ []]
        | none => [])
  | .close closing candidates =>
      if closing.Clashes db then (none, [])
      else
        (some (.close closing), if closing.Applies db then [.recordCompletion closing candidates]
          else [.reconcileRows candidates])
  | .recordCompletion closing candidates =>
      (some (.recordCompletion closing), [.reconcileRows candidates])
  | .runSlaMonitorOnce limit =>
      (none, [.slaRows choice.now (slaMonitorRows choice.now limit db)])
  | .slaRows _ [] => (none, [])
  | .slaRows now (row :: rows) =>
      let ageMin := computeElapsedMinutes row.createdAt now
      (none,
        match db.dispatches.find? row.id with
        | some current =>
            if dueStamps now ageMin row ≠ noStamps ∧ current.status = .ASSIGNED ∧
                dueStamps now ageMin current ≠ noStamps then
              [.slaUpdate now row.id (dueStamps now ageMin current) rows]
            else [.slaRows now rows]
        | none => [.slaRows now rows])
  | .slaUpdate now dispatchId patch rows =>
      (some (.stamp dispatchId patch), [.slaRows now rows])
  | .runReconciliationOnce limit =>
      (none, [.reconcileRows (findReconciliationCandidates limit db)])
  | .reconcileRows [] => (none, [])
  | .reconcileRows (candidate :: candidates) =>
      (none,
        match db.dispatches.find? candidate.id with
        | some snapshot =>
            [.close ⟨candidate.id, candidate.orderId, snapshot.driverId, choice.now,
              computeElapsedMinutes snapshot.createdAt choice.now⟩ candidates]
        | none => [.reconcileRows candidates])

def DispatchThread.turn (choice : DispatchChoice) (thread : DispatchThread)
    (desk : DispatchDesk) : DispatchDesk × List DispatchThread :=
  let next := thread.next choice desk.db
  let after := next.1.elim desk fun write => write.apply desk
  match choice.outcome with
  | .answered => (after, next.2)
  | .refused => (desk, thread.abandoned)
  | .lost => (after, thread.abandoned)

/-- The requests: orders, calls of the two roles, events as often as they are delivered,
and the ticks of the two jobs. -/
def DispatchThread.IsRequest : DispatchThread → Prop
  | .placeOrder _ | .create _ | .acknowledge _ | .handleOrderCreated _
  | .runSlaMonitorOnce _ | .runReconciliationOnce _ => True
  | _ => False

def dispatching : Threads DispatchDesk DispatchThread DispatchChoice where
  starts := fun thread _ => thread.IsRequest
  admits := fun _ _ _ _ => True
  turn := DispatchThread.turn

def idleDesk (db : DispatchDb) : Threads.World DispatchDesk DispatchThread where
  shared := ⟨db, []⟩
  pending := 0

/-! ## What holds over a run -/

def DispatchStatus.Forward (old new : DispatchStatus) : Prop :=
  old = new ∨ (old = .ASSIGNED ∧ (new = .IN_PROGRESS ∨ new = .COMPLETED)) ∨
    (old = .IN_PROGRESS ∧ new = .COMPLETED)

theorem DispatchStatus.Forward.trans {old mid new : DispatchStatus} (hfirst : old.Forward mid)
    (hsecond : mid.Forward new) : old.Forward new := by
  unfold Forward at *
  grind

def Dispatch.completion (row : Dispatch) : Option Timestamp × Option Uuid × Option ℕ :=
  (row.completedAt, row.completedByOrderId, row.totalMinutes)

structure Dispatch.Advances (old new : Dispatch) : Prop where
  forward : old.status.Forward new.status
  completion : new.completion = old.completion ∨ (old.status ≠ .COMPLETED ∧ new.status = .COMPLETED)

theorem Dispatch.Advances.refl (row : Dispatch) : row.Advances row :=
  ⟨.inl rfl, .inl rfl⟩

theorem Dispatch.Advances.trans {old mid new : Dispatch} (hfirst : old.Advances mid)
    (hsecond : mid.Advances new) : old.Advances new := by
  refine ⟨hfirst.forward.trans hsecond.forward, ?_⟩
  have hforward := hfirst.forward
  have hforward' := hsecond.forward
  unfold DispatchStatus.Forward at hforward hforward'
  rcases hsecond.completion with hkept' | ⟨hopen', hclosed'⟩
  · rcases hfirst.completion with hkept | ⟨hopen, hclosed⟩
    · exact .inl (hkept'.trans hkept)
    · right
      refine ⟨hopen, ?_⟩
      rcases hforward' with heq | ⟨hassigned, _⟩ | ⟨hstarted, _⟩
      · exact heq.symm.trans hclosed
      · rw [hclosed] at hassigned
        cases hassigned
      · rw [hclosed] at hstarted
        cases hstarted
  · right
    refine ⟨fun hclosed => hopen' ?_, hclosed'⟩
    rcases hforward with heq | ⟨hassigned, _⟩ | ⟨hstarted, _⟩
    · exact heq.symm.trans hclosed
    · rw [hclosed] at hassigned
      cases hassigned
    · rw [hclosed] at hstarted
      cases hstarted

def DispatchesAdvance (earlier later : DispatchDesk) : Prop :=
  ∀ id row, earlier.db.dispatches.find? id = some row →
    ∃ current, later.db.dispatches.find? id = some current ∧ row.Advances current

instance : Std.Refl DispatchesAdvance where
  refl _ _ row hrow := ⟨row, hrow, .refl row⟩

instance : IsTrans DispatchDesk DispatchesAdvance where
  trans _ _ _ hfirst hsecond id row hrow := by
    obtain ⟨mid, hmid, hadvance⟩ := hfirst id row hrow
    obtain ⟨current, hcurrent, hadvance'⟩ := hsecond id mid hmid
    exact ⟨current, hcurrent, hadvance.trans hadvance'⟩

variable {row : Dispatch} {closing : Closing} {db : DispatchDb} {count : DriverMetrics → ℕ}
  {change : DriverMetrics → DriverMetrics}

theorem Acknowledgement.Hits.advances {ack : Acknowledgement} (hhits : ack.Hits row) :
    row.Advances (ack.data row) :=
  ⟨.inr (.inl ⟨hhits.2.2, .inl rfl⟩), .inl rfl⟩

theorem Closing.Hits.status_ne (hhits : closing.Hits row) :
    row.status ≠ .COMPLETED := by
  intro hclosed
  have hopen := hhits.2
  rw [hclosed] at hopen
  revert hopen
  decide

theorem Closing.Hits.advances (hhits : closing.Hits row) :
    row.Advances (closing.data row) := by
  refine ⟨?_, .inr ⟨hhits.status_ne, rfl⟩⟩
  rcases List.mem_cons.1 hhits.2 with hassigned | hstarted
  · exact .inr (.inl ⟨hassigned, .inr rfl⟩)
  · exact .inr (.inr ⟨List.mem_singleton.1 hstarted, rfl⟩)

theorem SlaPatch.advances (patch : SlaPatch) (row : Dispatch) : row.Advances (patch.data row) :=
  ⟨.inl rfl, .inl rfl⟩

theorem advance_updateDispatches (desk : DispatchDesk) (marks : List DispatchMark)
    {p : Dispatch → Prop} [DecidablePred p] {f : Dispatch → Dispatch}
    (hid : ∀ row, (f row).id = row.id) (hadvances : ∀ row, p row → row.Advances (f row)) :
    DispatchesAdvance desk ⟨desk.db.updateDispatches p f hid, marks⟩ := by
  intro id row hrow
  refine ⟨if p row then f row else row, ?_, ?_⟩
  · change (desk.db.dispatches.updateWhere p f hid).find? id = _
    rw [Table.find?_updateWhere, hrow]
    rfl
  · by_cases hp : p row
    · rw [if_pos hp]
      exact hadvances row hp
    · rw [if_neg hp]
      exact .refl row

theorem DispatchWrite.advance_apply (write : DispatchWrite) (desk : DispatchDesk) :
    DispatchesAdvance desk (write.apply desk) := by
  have hsame : ∀ desk', desk'.db.dispatches = desk.db.dispatches →
      DispatchesAdvance desk desk' := by
    intro desk' hdispatches id row hrow
    exact ⟨row, hdispatches ▸ hrow, .refl row⟩
  cases write with
  | placeOrder order => exact hsame _ rfl
  | insert new =>
      intro id row hrow
      refine ⟨row, ?_, .refl row⟩
      change ((desk.db.dispatches.insert new).getD desk.db.dispatches).find? id = some row
      cases hinsert : desk.db.dispatches.insert new with
      | none => exact hrow
      | some inserted =>
          rw [Option.getD_some, Table.find?_insert hinsert, if_neg]
          · exact hrow
          · intro hid
            rw [← hid, Table.find?_of_insert hinsert] at hrow
            cases hrow
  | acknowledge ack =>
      exact advance_updateDispatches desk _ ack.data_id fun _ hhits => hhits.advances
  | close closing =>
      exact advance_updateDispatches desk _ closing.data_id fun _ hhits => hhits.advances
  | stamp dispatchId patch =>
      exact advance_updateDispatches desk _ patch.data_id fun row _ => patch.advances row
  | incrementAssigned driverId at_ => exact hsame _ rfl
  | recordAcknowledged ack => exact hsame _ rfl
  | recordCompletion closing => exact hsame _ rfl

theorem DispatchThread.turn_cases (choice : DispatchChoice) (thread : DispatchThread)
    (desk : DispatchDesk) :
    thread.turn choice desk = (desk, thread.abandoned) ∨ ((thread.turn choice desk).1 =
          (thread.next choice desk.db).1.elim desk (fun write => write.apply desk) ∧
        ((thread.turn choice desk).2 = (thread.next choice desk.db).2 ∨
          (thread.turn choice desk).2 = thread.abandoned)) := by
  unfold turn
  cases choice.outcome with
  | answered => exact .inr ⟨rfl, .inl rfl⟩
  | refused => exact .inl rfl
  | lost => exact .inr ⟨rfl, .inr rfl⟩

variable {desk : DispatchDesk} {world : Threads.World DispatchDesk DispatchThread}

theorem DispatchThread.turn_keeps {P : DispatchDesk → Prop} (choice : DispatchChoice)
    (thread : DispatchThread) (hdesk : P desk)
    (hwrite : ∀ write : DispatchWrite, P (write.apply desk)) :
    P (thread.turn choice desk).1 := by
  rcases thread.turn_cases choice desk with hleft | ⟨hmade, _⟩
  · rw [hleft]
    exact hdesk
  · rw [hmade]
    cases (thread.next choice desk.db).1 with
    | none => exact hdesk
    | some write => exact hwrite write

theorem dispatching_turn (choice : DispatchChoice) (thread : DispatchThread) (desk : DispatchDesk) :
    dispatching.turn choice thread desk = thread.turn choice desk := rfl

theorem advance_turn (choice : DispatchChoice) (thread : DispatchThread) (desk : DispatchDesk) :
    DispatchesAdvance desk (dispatching.turn choice thread desk).1 := by
  rw [dispatching_turn]
  exact thread.turn_keeps choice (Std.Refl.refl desk) fun write => write.advance_apply desk

/-! ## Permits to record -/

inductive DispatchFact
  | closed | acknowledged | completed
  deriving DecidableEq

def DispatchMark.isOf (fact : DispatchFact) (id : Uuid) : DispatchMark → Bool
  | .closed closing => fact = .closed ∧ closing.dispatchId = id
  | .acknowledgementRecorded ack => fact = .acknowledged ∧ ack.dispatchId = id
  | .completionRecorded closing => fact = .completed ∧ closing.dispatchId = id

def DispatchDesk.times (fact : DispatchFact) (id : Uuid) (desk : DispatchDesk) : ℕ :=
  desk.marks.countP (DispatchMark.isOf fact id)

def DispatchFact.settles : DispatchFact → DispatchStatus → Prop
  | .acknowledged, status => status ≠ .ASSIGNED
  | _, status => status = .COMPLETED

instance (fact : DispatchFact) (status : DispatchStatus) : Decidable (fact.settles status) := by
  cases fact <;> unfold DispatchFact.settles <;> infer_instance

def DispatchFact.Settled (fact : DispatchFact) (id : Uuid) (db : DispatchDb) : Prop :=
  ∃ row ∈ db.dispatches.find? id, fact.settles row.status
  deriving Decidable

def DispatchFact.allowance (fact : DispatchFact) (id : Uuid) (db : DispatchDb) : ℕ :=
  if fact.Settled id db then 1 else 0

def DispatchThread.permit (fact : DispatchFact) (id : Uuid) : DispatchThread → ℕ
  | .acknowledgeReread ack updated =>
      if fact = .acknowledged ∧ ack.dispatchId = id ∧ updated = true then 1 else 0
  | .recordAcknowledged ack => if fact = .acknowledged ∧ ack.dispatchId = id then 1 else 0
  | .recordCompletion closing _ =>
      if fact = .completed ∧ closing.dispatchId = id then 1 else 0
  | _ => 0

def DispatchWrite.Grants (fact : DispatchFact) (id : Uuid) (db : DispatchDb) :
    DispatchWrite → Prop
  | .acknowledge ack => fact = .acknowledged ∧ ack.dispatchId = id ∧ ack.Applies db
  | .close closing => fact ≠ .acknowledged ∧ closing.dispatchId = id ∧ closing.Applies db
  | _ => False

def DispatchWrite.Uses (fact : DispatchFact) (id : Uuid) (db : DispatchDb) :
    DispatchWrite → Prop
  | .close closing => fact = .closed ∧ closing.dispatchId = id ∧ closing.Applies db
  | .recordAcknowledged ack => fact = .acknowledged ∧ ack.dispatchId = id
  | .recordCompletion closing => fact = .completed ∧ closing.dispatchId = id
  | _ => False

instance (fact : DispatchFact) (id : Uuid) (db : DispatchDb) (write : DispatchWrite) :
    Decidable (write.Grants fact id db) := by
  cases write <;> unfold DispatchWrite.Grants <;> infer_instance

instance (fact : DispatchFact) (id : Uuid) (db : DispatchDb) (write : DispatchWrite) :
    Decidable (write.Uses fact id db) := by
  cases write <;> unfold DispatchWrite.Uses <;> infer_instance

variable {fact : DispatchFact} {id : Uuid}

theorem DispatchFact.settles_of_forward {old new : DispatchStatus} (hforward : old.Forward new)
    (hsettles : fact.settles old) :
    fact.settles new := by
  unfold DispatchStatus.Forward at hforward
  cases fact <;> unfold DispatchFact.settles at * <;> grind

theorem DispatchFact.Settled.advance {earlier later : DispatchDesk}
    (hadvance : DispatchesAdvance earlier later) (hsettled : fact.Settled id earlier.db) :
    fact.Settled id later.db := by
  obtain ⟨row, hrow, hsettles⟩ := hsettled
  obtain ⟨current, hcurrent, hrowAdvance⟩ := hadvance id row hrow
  exact ⟨current, hcurrent, settles_of_forward hrowAdvance.forward hsettles⟩

theorem Acknowledgement.Applies.settles {ack : Acknowledgement} (happlies : ack.Applies desk.db) :
    ¬ DispatchFact.acknowledged.Settled ack.dispatchId desk.db ∧
      DispatchFact.acknowledged.Settled ack.dispatchId
        ((DispatchWrite.acknowledge ack).apply desk).db := by
  obtain ⟨row, hrow, hhits⟩ := happlies
  constructor
  · rintro ⟨other, hother, hsettles⟩
    obtain rfl := Option.some.inj (hrow.symm.trans hother)
    exact hsettles hhits.2.2
  · refine ⟨ack.data row, ?_, ?_⟩
    · change (desk.db.dispatches.updateWhere ack.Hits ack.data ack.data_id).find? _ = _
      rw [Table.find?_updateWhere, hrow, Option.map_some, if_pos hhits]
    · intro hassigned
      cases hassigned

theorem Closing.Applies.settles (hfact : fact ≠ .acknowledged)
    (happlies : closing.Applies desk.db) :
    ¬ fact.Settled closing.dispatchId desk.db ∧
      fact.Settled closing.dispatchId ((DispatchWrite.close closing).apply desk).db := by
  obtain ⟨row, hrow, hhits⟩ := happlies
  have hsettles : ∀ status, fact.settles status ↔ status = .COMPLETED := by
    intro status
    cases fact with
    | closed => exact Iff.rfl
    | acknowledged => exact absurd rfl hfact
    | completed => exact Iff.rfl
  constructor
  · rintro ⟨other, hother, hclosed⟩
    obtain rfl := Option.some.inj (hrow.symm.trans hother)
    exact hhits.status_ne ((hsettles _).1 hclosed)
  · refine ⟨closing.data row, ?_, (hsettles _).2 rfl⟩
    change (desk.db.dispatches.updateWhere closing.Hits closing.data closing.data_id).find? _ = _
    rw [Table.find?_updateWhere, hrow, Option.map_some, if_pos hhits]

theorem DispatchWrite.Grants.settles {write : DispatchWrite}
    (hgrants : write.Grants fact id desk.db) :
    ¬ fact.Settled id desk.db ∧ fact.Settled id (write.apply desk).db := by
  cases write with
  | acknowledge ack =>
      obtain ⟨rfl, rfl, happlies⟩ := hgrants
      exact happlies.settles
  | close closing =>
      obtain ⟨hfact, rfl, happlies⟩ := hgrants
      exact happlies.settles hfact
  | _ => exact hgrants.elim

theorem DispatchWrite.allowance_apply (fact : DispatchFact) (id : Uuid)
    (write : DispatchWrite) (desk : DispatchDesk) :
    fact.allowance id desk.db + (if write.Grants fact id desk.db then 1 else 0) ≤
      fact.allowance id (write.apply desk).db := by
  unfold DispatchFact.allowance
  by_cases hgrants : write.Grants fact id desk.db
  · rw [if_neg hgrants.settles.1, if_pos hgrants, if_pos hgrants.settles.2]
  · rw [if_neg hgrants]
    by_cases hsettled : fact.Settled id desk.db
    · rw [if_pos hsettled, if_pos (hsettled.advance (write.advance_apply desk))]
    · rw [if_neg hsettled]
      exact Nat.zero_le _

theorem DispatchWrite.times_apply (write : DispatchWrite) (desk : DispatchDesk) :
    (write.apply desk).times fact id =
      desk.times fact id + if write.Uses fact id desk.db then 1 else 0 := by
  cases write with
  | close closing =>
      by_cases happlies : closing.Applies desk.db
      · simp [DispatchDesk.times, apply, Uses, happlies, List.countP_cons, DispatchMark.isOf]
      · simp [DispatchDesk.times, apply, Uses, happlies]
  | recordAcknowledged ack =>
      simp [DispatchDesk.times, apply, Uses, List.countP_cons, DispatchMark.isOf]
  | recordCompletion closing =>
      simp [DispatchDesk.times, apply, Uses, List.countP_cons, DispatchMark.isOf]
  | _ => simp [DispatchDesk.times, apply, Uses]

theorem DispatchThread.permit_abandoned (fact : DispatchFact) (id : Uuid)
    (thread : DispatchThread) :
    (thread.abandoned.map (permit fact id)).sum = 0 := by
  cases thread <;> rfl

theorem DispatchThread.permit_next (fact : DispatchFact) (id : Uuid)
    (choice : DispatchChoice) (thread : DispatchThread) (db : DispatchDb) :
    ((thread.next choice db).1.elim 0 fun write => if write.Uses fact id db then 1 else 0) +
        ((thread.next choice db).2.map (permit fact id)).sum ≤
      thread.permit fact id +
        (thread.next choice db).1.elim 0 fun write => if write.Grants fact id db then 1 else 0 := by
  cases thread with
  | acknowledgeUpdate ack =>
      simp [next, permit, DispatchWrite.Uses, DispatchWrite.Grants]
  | acknowledgeReread ack updated =>
      cases hfind : db.dispatches.find? ack.dispatchId with
      | none => simp [next, hfind]
      | some latest =>
          cases updated with
          | false => simp [next, hfind]
          | true => simp [next, hfind, permit]
  | close closing candidates =>
      by_cases hclashes : closing.Clashes db
      · simp [next, hclashes]
      · by_cases happlies : closing.Applies db
        · cases fact <;>
            simp [next, hclashes, happlies, permit, DispatchWrite.Uses, DispatchWrite.Grants]
        · simp [next, hclashes, happlies, permit, DispatchWrite.Uses]
  | recordAcknowledged ack => simp [next, permit, DispatchWrite.Uses]
  | recordCompletion closing candidates => simp [next, permit, DispatchWrite.Uses]
  | placeOrder order => simp [next, DispatchWrite.Uses]
  | create input =>
      simp only [next]
      split <;> simp [permit]
  | createUnlessDuplicate input =>
      simp only [next]
      split <;> simp [permit]
  | createRow input =>
      simp only [next]
      split <;> simp [permit, DispatchWrite.Uses]
  | incrementAssigned driverId at_ => simp [next, DispatchWrite.Uses]
  | acknowledge input =>
      simp only [next]
      split
      · split <;> simp [permit]
      · simp
  | handleOrderCreated payload =>
      simp only [next]
      split <;> simp [permit]
  | runSlaMonitorOnce limit => simp [next, permit]
  | slaRows now rows =>
      cases rows with
      | nil => simp [next]
      | cons row rows =>
          simp only [next]
          split
          · split <;> simp [permit]
          · simp [permit]
  | slaUpdate now dispatchId patch rows => simp [next, permit, DispatchWrite.Uses]
  | runReconciliationOnce limit => simp [next, permit]
  | reconcileRows candidates =>
      cases candidates with
      | nil => simp [next]
      | cons candidate candidates =>
          simp only [next]
          split <;> simp [permit]

theorem DispatchThread.within_budget (fact : DispatchFact) (id : Uuid)
    (choice : DispatchChoice) (thread : DispatchThread) (desk : DispatchDesk) :
    (thread.turn choice desk).1.times fact id +
        ((thread.turn choice desk).2.map (permit fact id)).sum + fact.allowance id desk.db ≤
      desk.times fact id + thread.permit fact id +
        fact.allowance id (thread.turn choice desk).1.db := by
  have hnext := permit_next fact id choice thread desk.db
  have hpermit := permit_abandoned fact id thread
  rcases thread.turn_cases choice desk with hleft | ⟨hmade, hgoes⟩
  · simp only [hleft, hpermit]
    omega
  · have hkept : ((thread.turn choice desk).2.map (permit fact id)).sum ≤
        ((thread.next choice desk.db).2.map (permit fact id)).sum := by
      rcases hgoes with hgoes | hgoes
      · rw [hgoes]
      · rw [hgoes, hpermit]
        exact Nat.zero_le _
    rw [hmade]
    cases hwrite : (thread.next choice desk.db).1 with
    | none =>
        simp only [hwrite, Option.elim_none] at hnext ⊢
        omega
    | some write =>
        have hallowed := write.allowance_apply fact id desk
        simp only [hwrite, Option.elim_some, write.times_apply] at hnext ⊢
        omega

theorem times_add_held_le (fact : DispatchFact) (id : Uuid)
    (hreach : dispatching.Reaches (idleDesk db) world) :
    world.shared.times fact id + Threads.held (DispatchThread.permit fact id) world.pending ≤
      fact.allowance id world.shared.db := by
  apply hreach.within_budget _ (DispatchDesk.times fact id)
    fun desk => fact.allowance id desk.db
  · exact Nat.zero_le _
  · intro thread desk hrequest
    cases thread <;> first | rfl | exact hrequest.elim
  · intro choice thread desk _ _
    exact DispatchThread.within_budget fact id choice thread desk

theorem times_le_one (hreach : dispatching.Reaches (idleDesk db) world) :
    world.shared.times fact id ≤ 1 := by
  have hbudget := times_add_held_le fact id hreach
  have hallowed : fact.allowance id world.shared.db ≤ 1 := by
    unfold DispatchFact.allowance
    split <;> omega
  omega

/-! ## Counters -/

def metricCount (count : DriverMetrics → ℕ) (key : Uuid × ℕ) (db : DispatchDb) : ℕ :=
  ((db.metrics.find? key).map count).getD 0

def DispatchMark.acknowledgedAt (key : Uuid × ℕ) : DispatchMark → Bool
  | .acknowledgementRecorded ack => (ack.driverId, kuwaitDay ack.now) = key
  | _ => false

def DispatchMark.completedAt (key : Uuid × ℕ) : DispatchMark → Bool
  | .completionRecorded closing => (closing.driverId, kuwaitDay closing.closedAt) = key
  | _ => false

theorem metricCount_countMetrics (added : ℕ) (driverId : Uuid) (at_ : Timestamp) (db : DispatchDb)
    (key : Uuid × ℕ) (hkey : ∀ metrics, (change metrics).key = metrics.key)
    (hchange : ∀ metrics, count (change metrics) = count metrics + added)
    (hfresh : count ⟨driverId, kuwaitDay at_, 0, 0, 0, 0, 0⟩ = 0) :
    metricCount count key (countMetrics driverId at_ change db) =
      metricCount count key db + if (driverId, kuwaitDay at_) = key then added else 0 := by
  unfold metricCount countMetrics
  rw [Table.find?_upsert, hkey]
  cases hfind : db.metrics.find? (driverId, kuwaitDay at_) with
  | none =>
      have hexisting : (⟨driverId, kuwaitDay at_, 0, 0, 0, 0, 0⟩ : DriverMetrics).key =
          (driverId, kuwaitDay at_) := rfl
      rw [Option.getD_none, hexisting]
      by_cases hsame : (driverId, kuwaitDay at_) = key
      · rw [if_pos hsame, if_pos hsame, ← hsame, hfind]
        simp [hchange, hfresh]
      · rw [if_neg hsame, if_neg hsame, add_zero]
  | some existing =>
      rw [Option.getD_some, Table.key_of_find? hfind]
      by_cases hsame : (driverId, kuwaitDay at_) = key
      · rw [if_pos hsame, if_pos hsame, ← hsame, hfind]
        simp [hchange]
      · rw [if_neg hsame, if_neg hsame, add_zero]

theorem metricCount_countMetrics_same {driverId : Uuid} {at_ : Timestamp} {key : Uuid × ℕ}
    (hkey : ∀ metrics, (change metrics).key = metrics.key)
    (hchange : ∀ metrics, count (change metrics) = count metrics)
    (hfresh : count ⟨driverId, kuwaitDay at_, 0, 0, 0, 0, 0⟩ = 0) :
    metricCount count key (countMetrics driverId at_ change db) = metricCount count key db := by
  rw [metricCount_countMetrics 0 driverId at_ db key hkey hchange hfresh, ite_self, add_zero]

structure MetricsCounted (start : DispatchDb) (desk : DispatchDesk) : Prop where
  acknowledgements : ∀ key, metricCount DriverMetrics.acknowledgedCount key desk.db =
      metricCount DriverMetrics.acknowledgedCount key start +
        desk.marks.countP (DispatchMark.acknowledgedAt key)
  completions : ∀ key, metricCount DriverMetrics.completedCount key desk.db =
      metricCount DriverMetrics.completedCount key start +
        desk.marks.countP (DispatchMark.completedAt key)

theorem metricCount_incrementAssigned (driverId : Uuid) (at_ : Timestamp) (db : DispatchDb)
    (key : Uuid × ℕ) :
    metricCount DriverMetrics.acknowledgedCount key
          (countMetrics driverId at_ incrementAssigned db) =
        metricCount DriverMetrics.acknowledgedCount key db ∧
      metricCount DriverMetrics.completedCount key
          (countMetrics driverId at_ incrementAssigned db) =
        metricCount DriverMetrics.completedCount key db := by
  constructor
  · exact metricCount_countMetrics_same (fun _ => rfl) (fun _ => rfl) rfl
  · exact metricCount_countMetrics_same (fun _ => rfl) (fun _ => rfl) rfl

theorem metricCount_recordAcknowledged (driverId : Uuid) (at_ : Timestamp) (db : DispatchDb)
    (key : Uuid × ℕ) :
    metricCount DriverMetrics.acknowledgedCount key
          (countMetrics driverId at_ recordAcknowledged db) =
        metricCount DriverMetrics.acknowledgedCount key db +
          (if (driverId, kuwaitDay at_) = key then 1 else 0) ∧
      metricCount DriverMetrics.completedCount key
          (countMetrics driverId at_ recordAcknowledged db) =
        metricCount DriverMetrics.completedCount key db := by
  constructor
  · exact metricCount_countMetrics 1 driverId at_ db key (fun _ => rfl) (fun _ => rfl) rfl
  · exact metricCount_countMetrics_same (fun _ => rfl) (fun _ => rfl) rfl

theorem metricCount_recordCompletion (totalMinutes : ℕ) (driverId : Uuid) (at_ : Timestamp)
    (db : DispatchDb) (key : Uuid × ℕ) :
    metricCount DriverMetrics.acknowledgedCount key
          (countMetrics driverId at_ (recordCompletion totalMinutes) db) =
        metricCount DriverMetrics.acknowledgedCount key db ∧
      metricCount DriverMetrics.completedCount key
          (countMetrics driverId at_ (recordCompletion totalMinutes) db) =
        metricCount DriverMetrics.completedCount key db +
          (if (driverId, kuwaitDay at_) = key then 1 else 0) := by
  constructor
  · exact metricCount_countMetrics_same (fun _ => rfl) (fun _ => rfl) rfl
  · exact metricCount_countMetrics 1 driverId at_ db key (fun _ => rfl) (fun _ => rfl) rfl

theorem MetricsCounted.apply {start : DispatchDb} (hcounted : MetricsCounted start desk)
    (write : DispatchWrite) :
    MetricsCounted start (write.apply desk) := by
  have hsame : ∀ desk', desk'.db.metrics = desk.db.metrics →
      (∀ key, desk'.marks.countP (DispatchMark.acknowledgedAt key) =
        desk.marks.countP (DispatchMark.acknowledgedAt key)) →
      (∀ key, desk'.marks.countP (DispatchMark.completedAt key) =
        desk.marks.countP (DispatchMark.completedAt key)) → MetricsCounted start desk' := by
    intro desk' hmetrics hacks hcompletions
    have hcount : ∀ count key,
        metricCount count key desk'.db = metricCount count key desk.db := by
      intro count key
      unfold metricCount
      rw [hmetrics]
    refine ⟨fun key => ?_, fun key => ?_⟩
    · rw [hcount, hacks]
      exact hcounted.acknowledgements key
    · rw [hcount, hcompletions]
      exact hcounted.completions key
  cases write with
  | placeOrder order => exact hsame _ rfl (fun _ => rfl) fun _ => rfl
  | insert row => exact hsame _ rfl (fun _ => rfl) fun _ => rfl
  | acknowledge ack => exact hsame _ rfl (fun _ => rfl) fun _ => rfl
  | close closing =>
      by_cases happlies : closing.Applies desk.db
      · apply hsame ((DispatchWrite.close closing).apply desk) rfl
        · simp [DispatchWrite.apply, happlies, DispatchMark.acknowledgedAt]
        · simp [DispatchWrite.apply, happlies, DispatchMark.completedAt]
      · apply hsame ((DispatchWrite.close closing).apply desk) rfl
        · simp [DispatchWrite.apply, happlies]
        · simp [DispatchWrite.apply, happlies]
  | stamp dispatchId patch => exact hsame _ rfl (fun _ => rfl) fun _ => rfl
  | incrementAssigned driverId at_ =>
      refine ⟨fun key => ?_, fun key => ?_⟩
      · exact (metricCount_incrementAssigned driverId at_ desk.db key).1.trans
          (hcounted.acknowledgements key)
      · exact (metricCount_incrementAssigned driverId at_ desk.db key).2.trans
          (hcounted.completions key)
  | recordAcknowledged ack =>
      refine ⟨fun key => ?_, fun key => ?_⟩
      · refine (metricCount_recordAcknowledged ack.driverId ack.now desk.db key).1.trans ?_
        rw [hcounted.acknowledgements key, add_assoc]
        simp [DispatchWrite.apply, List.countP_cons, DispatchMark.acknowledgedAt]
      · refine (metricCount_recordAcknowledged ack.driverId ack.now desk.db key).2.trans ?_
        rw [hcounted.completions key]
        simp [DispatchWrite.apply, DispatchMark.completedAt]
  | recordCompletion closing =>
      refine ⟨fun key => ?_, fun key => ?_⟩
      · refine (metricCount_recordCompletion _ closing.driverId closing.closedAt desk.db
          key).1.trans ?_
        rw [hcounted.acknowledgements key]
        simp [DispatchWrite.apply, DispatchMark.acknowledgedAt]
      · refine (metricCount_recordCompletion _ closing.driverId closing.closedAt desk.db
          key).2.trans ?_
        rw [hcounted.completions key, add_assoc]
        simp [DispatchWrite.apply, List.countP_cons, DispatchMark.completedAt]

theorem metricsCounted_of_reaches (hreach : dispatching.Reaches (idleDesk db) world) :
    MetricsCounted db world.shared := by
  apply hreach.invariant (I := fun world => MetricsCounted db world.shared)
  · exact ⟨fun _ => rfl, fun _ => rfl⟩
  · intro _ _ hcounted _
    exact hcounted
  · intro desk _ choice thread hcounted _
    rw [dispatching_turn]
    exact thread.turn_keeps choice hcounted hcounted.apply

/-- Between two moments of a run every dispatch advances; no dispatch was completed,
counted as acknowledged or counted as completed twice; and the counters count records. -/
structure DispatchesSound (start : DispatchDb) (earlier later : DispatchDesk) : Prop where
  forward : DispatchesAdvance earlier later
  once : ∀ fact id, later.times fact id ≤ 1
  counted : MetricsCounted start later

/-- The conditional updates let each dispatch go forward once, whoever gets there first. -/
theorem dispatches_sound {db : DispatchDb}
    {earlier later : Threads.World DispatchDesk DispatchThread}
    (hearlier : dispatching.Reaches (idleDesk db) earlier)
    (hlater : dispatching.Reaches earlier later) :
    DispatchesSound db earlier.shared later.shared := by
  have hreach : dispatching.Reaches (idleDesk db) later := hearlier.trans hlater
  constructor
  · apply hlater.grows (R := DispatchesAdvance)
    intro choice thread desk _ _
    exact advance_turn choice thread desk
  · intro fact id
    exact times_le_one hreach
  · exact metricsCounted_of_reaches hreach

namespace Sample

def dispatchDb : DispatchDb where
  customers := .empty
  users := .empty
  orders := .empty
  dispatches := ⟨[(⟨"customer", "driver", none, none, none⟩ : CreateDispatchInput).row
    "dispatch" 0], List.nodup_singleton _⟩
  metrics := .empty

def dispatchChoice : DispatchChoice := ⟨60000, "new", .answered⟩

def dispatchAck : DispatchThread := .acknowledgeUpdate ⟨"dispatch", "driver", 60000, 1⟩

theorem dispatch_acknowledged : dispatching.Reaches (SafariLaundry.idleDesk dispatchDb)
    ⟨(dispatching.turn dispatchChoice dispatchAck ⟨dispatchDb, []⟩).1,
      (dispatching.turn dispatchChoice dispatchAck ⟨dispatchDb, []⟩).2 + 0⟩ := by
  have hrequested : dispatching.Reaches (SafariLaundry.idleDesk dispatchDb)
      ⟨⟨dispatchDb, []⟩, .acknowledge ⟨"dispatch", "driver"⟩ ::ₘ 0⟩ :=
    Threads.Reaches.start_thread .refl (DispatchThread.acknowledge ⟨"dispatch", "driver"⟩) trivial
  have hread : dispatching.Reaches (SafariLaundry.idleDesk dispatchDb)
      ⟨⟨dispatchDb, []⟩, dispatchAck ::ₘ 0⟩ :=
    hrequested.take_turn dispatchChoice trivial
  exact hread.take_turn dispatchChoice trivial

end Sample

theorem dispatches_sound_sample :
    DispatchesSound Sample.dispatchDb ⟨Sample.dispatchDb, []⟩
      (dispatching.turn Sample.dispatchChoice Sample.dispatchAck ⟨Sample.dispatchDb, []⟩).1 :=
  dispatches_sound .refl Sample.dispatch_acknowledged

end SafariLaundry
