import SafariLaundry.GatewayText
import SafariLaundry.Library.History
import SafariLaundry.Library.Selection

/-!
# Deliveries

Drivers start, complete and return deliveries.  The order is read before the transaction; the
transition is checked against what was read and then written over whatever is stored.
-/

namespace SafariLaundry

open Library List

inductive DeliveryStatus
  | READY | OUT_FOR_DELIVERY | DELIVERED | RETURNED_TO_BRANCH
  deriving DecidableEq

def DeliveryStatus.name : DeliveryStatus → String
  | .READY => "READY"
  | .OUT_FOR_DELIVERY => "OUT_FOR_DELIVERY"
  | .DELIVERED => "DELIVERED"
  | .RETURNED_TO_BRANCH => "RETURNED_TO_BRANCH"

inductive DeliveryReturnReason
  | NO_ANSWER | WRONG_ADDRESS | REFUSED | OTHER

structure DeliveryOrder where
  id : Uuid
  status : OrderStatus
  deliveryStatus : DeliveryStatus
  (driverId deliveryDriverId : Option Uuid)
  (deliveryStartedAt deliveredAt returnedAt : Option Timestamp)
  deliveryReturnReason : Option DeliveryReturnReason

structure OrderDeliveryEvent where
  (orderId actorUserId : Uuid)
  (fromStatus toStatus : DeliveryStatus)
  returnReason : Option DeliveryReturnReason
  notes : Option String

structure DeliveryDb where
  orders : Table DeliveryOrder.id
  /-- Newest first. -/
  events : List OrderDeliveryEvent
  /-- Not a table: for which order `deliveredAt` was set to what, newest first. -/
  stamps : List (Uuid × Timestamp)
  /-- Not a table: whom a start recorded as the driver of which order, newest first. -/
  assigned : List (Uuid × Uuid)

def DeliveryStatus.forwardEdges : DeliveryStatus → List DeliveryStatus
  | .READY => [.OUT_FOR_DELIVERY]
  | .OUT_FOR_DELIVERY => [.DELIVERED, .RETURNED_TO_BRANCH]
  | .RETURNED_TO_BRANCH => [.OUT_FOR_DELIVERY]
  | .DELIVERED => []

def allowedDeliveryText (allowed : List DeliveryStatus) : String :=
  if allowed = [] then "none" else ", ".intercalate (allowed.map DeliveryStatus.name)

def assertDeliveryStatusTransition (current next : DeliveryStatus) : Except ServiceError Unit :=
  if current = next then .ok ()
  else if current = .DELIVERED then
    .error (.badRequest s!"Delivery status cannot change once it is {current.name}")
  else if next ∉ current.forwardEdges then
    .error (.badRequest (s!"Invalid delivery transition: {current.name} → {next.name}. Allowed: "
      ++ allowedDeliveryText current.forwardEdges))
  else .ok ()

structure DeliveryPatch where
  (deliveryStartedAt deliveredAt returnedAt : Option Timestamp)
  deliveryReturnReason : Option DeliveryReturnReason
  deliveryDriverId : Option Uuid

structure TransitionOptions where
  next : DeliveryStatus
  returnReason : Option DeliveryReturnReason
  notes : Option String
  assignDriverIfUnset : Bool
  patch : DeliveryPatch

structure ReturnToBranchDto where
  reason : DeliveryReturnReason
  notes : Option String

inductive DeliveryAction
  | startDelivery
  | completeDelivery
  | returnToBranch (dto : ReturnToBranchDto)

def DeliveryAction.options (actorUserId : Uuid) (now : Timestamp) :
    DeliveryAction → TransitionOptions
  | .startDelivery => ⟨.OUT_FOR_DELIVERY, none, none, true, some now, none, none, none,
      some actorUserId⟩
  | .completeDelivery => ⟨.DELIVERED, none, none, false, none, some now, none, none, none⟩
  | .returnToBranch dto => ⟨.RETURNED_TO_BRANCH, some dto.reason, trimmed dto.notes, false, none,
      none, some now, some dto.reason, none⟩

def assertActorCanManageDelivery (order : DeliveryOrder) (actorUserId : Uuid)
    (role : SafariRole) : Except ServiceError Unit :=
  if role = .MANAGER ∨ role = .SUPERVISOR then .ok ()
  else if role ≠ .DRIVER then
    .error (.forbidden "Only drivers and managers can update delivery status")
  else if ¬ (order.driverId = some actorUserId ∨ order.deliveryDriverId = some actorUserId ∨
      order.driverId = none) then
    .error (.forbidden "You may only update delivery for orders assigned to you")
  else .ok ()

structure DeliveryCall where
  action : DeliveryAction
  (orderId actorUserId : Uuid)
  role : SafariRole
  now : Timestamp
  seen : DeliveryDb

namespace DeliveryCall

def options (call : DeliveryCall) : TransitionOptions :=
  call.action.options call.actorUserId call.now

def Assigns (call : DeliveryCall) (read : DeliveryOrder) : Prop :=
  call.options.assignDriverIfUnset = true ∧ read.driverId = none
  deriving Decidable

def patched (call : DeliveryCall) (read order : DeliveryOrder) : DeliveryOrder :=
  let patch := call.options.patch
  { order with
    deliveryStatus := call.options.next
    deliveryStartedAt := patch.deliveryStartedAt.orElse fun _ => order.deliveryStartedAt
    deliveredAt := patch.deliveredAt.orElse fun _ => order.deliveredAt
    returnedAt := patch.returnedAt.orElse fun _ => order.returnedAt
    deliveryReturnReason := patch.deliveryReturnReason.orElse fun _ => order.deliveryReturnReason
    deliveryDriverId := patch.deliveryDriverId.orElse fun _ => order.deliveryDriverId
    driverId := if call.Assigns read then some call.actorUserId else order.driverId }

theorem patched_id (call : DeliveryCall) (read order : DeliveryOrder) :
    (call.patched read order).id = order.id := rfl

def event (call : DeliveryCall) (read : DeliveryOrder) : OrderDeliveryEvent where
  orderId := call.orderId
  actorUserId := call.actorUserId
  fromStatus := read.deliveryStatus
  toStatus := call.options.next
  returnReason := call.options.returnReason
  notes := call.options.notes

def apply (call : DeliveryCall) (read : DeliveryOrder) (db : DeliveryDb) : DeliveryDb where
  orders := db.orders.update call.orderId (call.patched read) (call.patched_id read)
  events := call.event read :: db.events
  stamps := (call.options.patch.deliveredAt.map fun time => (call.orderId, time)).toList ++
    db.stamps
  assigned := if call.Assigns read then (call.orderId, call.actorUserId) :: db.assigned
    else db.assigned

def check (call : DeliveryCall) : Except ServiceError DeliveryOrder :=
  match call.seen.orders.find? call.orderId with
  | none => .error (.notFound "Order not found")
  | some read => do
      if read.status = .CANCELED then
        throw (.forbidden "Canceled orders cannot enter delivery flow")
      assertActorCanManageDelivery read call.actorUserId call.role
      assertDeliveryStatusTransition read.deliveryStatus call.options.next
      return read

def transition (call : DeliveryCall) (db : DeliveryDb) : Except ServiceError DeliveryDb := do
  let read ← call.check
  if (db.orders.find? call.orderId).isNone then
    throw (.database "Record to update not found.")
  return call.apply read db

end DeliveryCall

def deliveryCalls : Calls DeliveryDb DeliveryCall where
  step := fun call db =>
    match call.transition db with
    | .ok db' => db'
    | .error _ => db
  seen := fun call => [call.seen]

/-! ## What is asked of them -/

def DeliveryDb.trail (orderId : Uuid) (db : DeliveryDb) : List OrderDeliveryEvent :=
  db.events.filter fun event => event.orderId = orderId

/-- Every trail is a chain along the edges of the machine that ends where the order stands,
`deliveredAt` was set once, and at most one start of an order without a driver went through,
which is its driver's. -/
structure DeliveriesSound (db : DeliveryDb) : Prop where
  chain : ∀ orderId, (db.trail orderId).IsChain
    fun later earlier => later.fromStatus = earlier.toStatus
  edges : ∀ event ∈ db.events, event.toStatus ∈ event.fromStatus.forwardEdges
  last : ∀ order ∈ db.orders.rows, ∀ event ∈ (db.trail order.id).head?,
    order.deliveryStatus = event.toStatus
  stampedOnce : (db.stamps.map Prod.fst).Nodup
  deliveredAt : ∀ order ∈ db.orders.rows, ∀ time,
    order.deliveredAt = some time ↔ (order.id, time) ∈ db.stamps
  oneDriver : (db.assigned.map Prod.fst).Nodup
  driver : ∀ order ∈ db.orders.rows, ∀ driverId, (order.id, driverId) ∈ db.assigned →
    order.driverId = some driverId

def DeliveryCall.FindsRead (call : DeliveryCall) (db : DeliveryDb) : Prop :=
  ∀ read stored, call.check = .ok read → db.orders.find? call.orderId = some stored →
    read.deliveryStatus ≠ call.options.next ∧ stored.deliveryStatus = read.deliveryStatus ∧
      (call.Assigns read → stored.driverId = none)

variable {db : DeliveryDb} {call : DeliveryCall} {read stored : DeliveryOrder} {orderId : Uuid}

theorem assertDeliveryStatusTransition_ok (current next : DeliveryStatus) :
    assertDeliveryStatusTransition current next = .ok () ↔
      current = next ∨ next ∈ current.forwardEdges := by
  unfold assertDeliveryStatusTransition
  by_cases hsame : current = next
  · rw [if_pos hsame]
    exact iff_of_true rfl (.inl hsame)
  · rw [if_neg hsame]
    by_cases hdelivered : current = .DELIVERED
    · rw [if_pos hdelivered, hdelivered]
      refine iff_of_false (fun hok => nomatch hok) ?_
      simpa [DeliveryStatus.forwardEdges, hdelivered] using hsame
    · rw [if_neg hdelivered]
      by_cases hedge : next ∈ current.forwardEdges
      · rw [if_neg (not_not_intro hedge)]
        exact iff_of_true rfl (.inr hedge)
      · rw [if_pos hedge]
        exact iff_of_false (fun hok => nomatch hok) (not_or.2 ⟨hsame, hedge⟩)

theorem DeliveryStatus.ne_of_mem_edges {current next : DeliveryStatus}
    (hedge : next ∈ current.forwardEdges) : current ≠ next := by
  rintro rfl
  cases current with
  | READY => exact absurd hedge (by decide)
  | OUT_FOR_DELIVERY => exact absurd hedge (by decide)
  | DELIVERED => exact absurd hedge (by decide)
  | RETURNED_TO_BRANCH => exact absurd hedge (by decide)

theorem check_ok (hcheck : call.check = .ok read) :
    call.seen.orders.find? call.orderId = some read ∧ (read.deliveryStatus = call.options.next ∨
        call.options.next ∈ read.deliveryStatus.forwardEdges) := by
  unfold DeliveryCall.check at hcheck
  cases hread : call.seen.orders.find? call.orderId with
  | none =>
      rw [hread] at hcheck
      cases hcheck
  | some found =>
      rw [hread] at hcheck
      by_cases hcanceled : found.status = .CANCELED
      · simp only [if_pos hcanceled] at hcheck
        cases hcheck
      · simp only [if_neg hcanceled] at hcheck
        cases hmay : assertActorCanManageDelivery found call.actorUserId call.role with
        | error _ =>
            rw [hmay] at hcheck
            cases hcheck
        | ok _ =>
            rw [hmay] at hcheck
            cases hmove : assertDeliveryStatusTransition found.deliveryStatus
                call.options.next with
            | error _ =>
                rw [hmove] at hcheck
                cases hcheck
            | ok _ =>
                rw [hmove] at hcheck
                cases hcheck
                exact ⟨rfl, (assertDeliveryStatusTransition_ok _ _).1 hmove⟩

theorem DeliveryCall.next_of_deliveredAt (call : DeliveryCall) {time : Timestamp}
    (hpatch : call.options.patch.deliveredAt = some time) :
    call.options.next = .DELIVERED := by
  unfold DeliveryCall.options at hpatch ⊢
  cases haction : call.action with
  | startDelivery =>
      rw [haction] at hpatch
      cases hpatch
  | completeDelivery => rfl
  | returnToBranch dto =>
      rw [haction] at hpatch
      cases hpatch

theorem transition_cases (call : DeliveryCall) (db : DeliveryDb) :
    (∃ read stored, call.check = .ok read ∧ db.orders.find? call.orderId = some stored ∧
        deliveryCalls.step call db = call.apply read db) ∨
      (deliveryCalls.step call db = db ∧
        ∀ read stored, call.check = .ok read → db.orders.find? call.orderId ≠ some stored) := by
  have hstep : deliveryCalls.step call db = match call.transition db with
      | .ok db' => db'
      | .error _ => db := rfl
  rw [hstep]
  unfold DeliveryCall.transition
  cases hcheck : call.check with
  | error _ =>
      right
      exact ⟨rfl, fun _ _ hok => nomatch hok⟩
  | ok read =>
      cases hfound : db.orders.find? call.orderId with
      | none =>
          right
          exact ⟨rfl, fun _ _ _ hsome => nomatch hsome⟩
      | some stored =>
          left
          exact ⟨read, stored, rfl, rfl, rfl⟩

/-! ## What is kept -/

structure DeliveriesKept (db : DeliveryDb) : Prop where
  sound : DeliveriesSound db
  delivered : ∀ order ∈ db.orders.rows, order.id ∈ db.stamps.map Prod.fst →
    order.deliveryStatus = .DELIVERED

structure DeliveriesPersist (before after : DeliveryDb) : Prop where
  events : before.events <:+ after.events
  assigned : before.assigned <:+ after.assigned
  orders : ∀ order ∈ before.orders.rows, ∃ later, after.orders.find? order.id = some later ∧
    (later.deliveryStatus = order.deliveryStatus ∨
      ∃ event ∈ after.events, event.orderId = order.id) ∧
    (later.driverId = order.driverId ∨ order.id ∈ after.assigned.map Prod.fst)

instance : Std.Refl DeliveriesPersist where
  refl _ := ⟨suffix_rfl, suffix_rfl,
    fun order horder => ⟨order, Table.find?_of_mem horder, .inl rfl, .inl rfl⟩⟩

instance : IsTrans DeliveryDb DeliveriesPersist where
  trans _ _ _ hfirst hsecond := by
    refine ⟨hfirst.events.trans hsecond.events, hfirst.assigned.trans hsecond.assigned, ?_⟩
    intro order horder
    obtain ⟨later, hlater, hstatus, hdriver⟩ := hfirst.orders order horder
    obtain ⟨last, hlast, hstatus', hdriver'⟩ := hsecond.orders later (Table.mem_of_find? hlater)
    rw [Table.key_of_find? hlater] at hlast hstatus' hdriver'
    refine ⟨last, hlast, ?_, ?_⟩
    · rcases hstatus' with hsame' | hmoved'
      · rcases hstatus with hsame | ⟨event, hevent, hof⟩
        · exact .inl (hsame'.trans hsame)
        · exact .inr ⟨event, hsecond.events.subset hevent, hof⟩
      · exact .inr hmoved'
    · rcases hdriver' with hsame' | hassigned'
      · rcases hdriver with hsame | hassigned
        · exact .inl (hsame'.trans hsame)
        · exact .inr ((hsecond.assigned.map Prod.fst).subset hassigned)
      · exact .inr hassigned'

theorem find?_apply_self :
    (call.apply read db).orders.find? call.orderId =
      (db.orders.find? call.orderId).map (call.patched read) :=
  Table.find?_update_self db.orders call.orderId (call.patched read) (call.patched_id read)

theorem find?_apply_of_ne (hother : orderId ≠ call.orderId) :
    (call.apply read db).orders.find? orderId = db.orders.find? orderId :=
  Table.find?_update_of_ne db.orders (call.patched read) (call.patched_id read) hother

theorem mem_apply (hstored : db.orders.find? call.orderId = some stored) {order : DeliveryOrder}
    (horder : order ∈ (call.apply read db).orders.rows) :
    order = call.patched read stored ∨
      order.id ≠ call.orderId ∧ order ∈ db.orders.rows := by
  have hfound := Table.find?_of_mem horder
  by_cases hid : order.id = call.orderId
  · rw [hid, find?_apply_self, hstored] at hfound
    exact .inl (Option.some.inj hfound).symm
  · rw [find?_apply_of_ne hid] at hfound
    exact .inr ⟨hid, Table.mem_of_find? hfound⟩

theorem trail_apply (hother : orderId ≠ call.orderId) :
    (call.apply read db).trail orderId = db.trail orderId := by
  have hevent : (call.event read).orderId ≠ orderId := fun hsame => hother hsame.symm
  exact filter_cons_of_neg (by simpa using hevent)

theorem trail_apply_self :
    (call.apply read db).trail call.orderId = call.event read :: db.trail call.orderId :=
  filter_cons_of_pos (decide_eq_true rfl)

theorem DeliveriesPersist.apply (hstored : db.orders.find? call.orderId = some stored) :
    DeliveriesPersist db (call.apply read db) := by
  refine ⟨suffix_cons _ _, ?_, ?_⟩
  · change db.assigned <:+ if call.Assigns read then _ else _
    by_cases hassigns : call.Assigns read
    · rw [if_pos hassigns]
      exact suffix_cons _ _
    · rw [if_neg hassigns]
  · intro order horder
    by_cases hid : order.id = call.orderId
    · have hsame : order = stored := by
        have hfound := Table.find?_of_mem horder
        rw [hid] at hfound
        exact Option.some.inj (hfound.symm.trans hstored)
      refine ⟨call.patched read stored, ?_, .inr ⟨call.event read, ?_, hid.symm⟩, ?_⟩
      · rw [hid, find?_apply_self, hstored, Option.map_some]
      · exact mem_cons_self ..
      · by_cases hassigns : call.Assigns read
        · right
          change order.id ∈ (if call.Assigns read then _ else _ : List (Uuid × Uuid)).map Prod.fst
          rw [if_pos hassigns, hid]
          exact mem_cons_self ..
        · left
          change (if call.Assigns read then _ else stored.driverId) = _
          rw [if_neg hassigns, hsame]
    · refine ⟨order, ?_, .inl rfl, .inl rfl⟩
      rw [find?_apply_of_ne hid]
      exact Table.find?_of_mem horder

theorem findsRead_of_sound (hkept : DeliveriesKept db) (hpersist : DeliveriesPersist call.seen db)
    (hcheck : call.check = .ok read) (hstored : db.orders.find? call.orderId = some stored)
    (hsound : DeliveriesSound (call.apply read db)) :
    read.deliveryStatus ≠ call.options.next ∧ stored.deliveryStatus = read.deliveryStatus ∧
      (call.Assigns read → stored.driverId = none) := by
  have hread := (check_ok hcheck).1
  have hid : stored.id = call.orderId := Table.key_of_find? hstored
  have hid' : read.id = call.orderId := Table.key_of_find? hread
  obtain ⟨later, hlater, hstatus, hdriver⟩ := hpersist.orders read (Table.mem_of_find? hread)
  rw [hid'] at hlater hstatus hdriver
  obtain rfl := Option.some.inj (hstored.symm.trans hlater)
  refine ⟨DeliveryStatus.ne_of_mem_edges (hsound.edges _ (mem_cons_self ..)), ?_, ?_⟩
  · have hchain := hsound.chain call.orderId
    rw [trail_apply_self] at hchain
    cases htrail : db.trail call.orderId with
    | nil =>
        rcases hstatus with hsame | ⟨event, hevent, hof⟩
        · exact hsame
        · have hmem : event ∈ db.trail call.orderId :=
            mem_filter.2 ⟨hevent, decide_eq_true hof⟩
          rw [htrail] at hmem
          cases hmem
    | cons event rest =>
        rw [htrail, isChain_cons_cons] at hchain
        have hlast := hkept.sound.last stored (Table.mem_of_find? hstored) event
          (by rw [hid, htrail]; rfl)
        exact hlast.trans hchain.1.symm
  · intro hassigns
    rcases hdriver with hsame | hassigned
    · rw [hsame]
      exact hassigns.2
    · have hone := hsound.oneDriver
      change ((if call.Assigns read then _ else _ : List (Uuid × Uuid)).map Prod.fst).Nodup at hone
      rw [if_pos hassigns] at hone
      exact absurd hassigned (nodup_cons.1 hone).1

theorem mem_stamps_apply {time : Timestamp} : (orderId, time) ∈ (call.apply read db).stamps ↔
    (orderId = call.orderId ∧ call.options.patch.deliveredAt = some time) ∨
      (orderId, time) ∈ db.stamps := by
  change (orderId, time) ∈
    (call.options.patch.deliveredAt.map fun time => (call.orderId, time)).toList ++ db.stamps ↔ _
  cases call.options.patch.deliveredAt with
  | none => simp
  | some stamp =>
      rw [Option.map_some, Option.toList_some, singleton_append, mem_cons,
        Prod.mk.injEq, Option.some.injEq, eq_comm (a := time)]

theorem mem_assigned_apply {driverId : Uuid} :
    (orderId, driverId) ∈ (call.apply read db).assigned ↔
      (call.Assigns read ∧ orderId = call.orderId ∧ driverId = call.actorUserId) ∨
        (orderId, driverId) ∈ db.assigned := by
  change (orderId, driverId) ∈ (if call.Assigns read then _ else _ : List (Uuid × Uuid)) ↔ _
  by_cases hassigns : call.Assigns read
  · rw [if_pos hassigns, mem_cons, Prod.mk.injEq]
    simp only [hassigns, true_and]
  · rw [if_neg hassigns]
    simp only [hassigns, false_and, false_or]

/-! ## A call that finds what it read -/

section

variable (hkept : DeliveriesKept db) (hstored : db.orders.find? call.orderId = some stored)

include hkept hstored

theorem not_stamped (hsame : stored.deliveryStatus = read.deliveryStatus)
    (hedge : call.options.next ∈ read.deliveryStatus.forwardEdges) :
    call.orderId ∉ db.stamps.map Prod.fst := by
  intro hstamped
  rw [← Table.key_of_find? hstored] at hstamped
  have hdelivered := hkept.delivered stored (Table.mem_of_find? hstored) hstamped
  rw [← hsame, hdelivered] at hedge
  cases hedge

theorem not_assigned (hfree : stored.driverId = none) :
    call.orderId ∉ db.assigned.map Prod.fst := by
  intro hassigned
  obtain ⟨⟨_, driverId⟩, hpair, hid⟩ := mem_map.1 hassigned
  rw [← Table.key_of_find? hstored] at hid
  obtain rfl := hid
  have hdriver := hkept.sound.driver stored (Table.mem_of_find? hstored) driverId hpair
  rw [hfree] at hdriver
  cases hdriver

theorem chain_apply (hsame : stored.deliveryStatus = read.deliveryStatus) (orderId : Uuid) :
    ((call.apply read db).trail orderId).IsChain
      fun later earlier => later.fromStatus = earlier.toStatus := by
  by_cases hthis : orderId = call.orderId
  · subst hthis
    rw [trail_apply_self]
    cases htrail : db.trail call.orderId with
    | nil => exact isChain_singleton _
    | cons event rest =>
        have hlast := hkept.sound.last stored (Table.mem_of_find? hstored) event
          (by rw [Table.key_of_find? hstored, htrail]; rfl)
        refine isChain_cons_cons.2 ⟨hsame.symm.trans hlast, ?_⟩
        rw [← htrail]
        exact hkept.sound.chain call.orderId
  · rw [trail_apply hthis]
    exact hkept.sound.chain orderId

theorem last_apply : ∀ order ∈ (call.apply read db).orders.rows,
    ∀ event ∈ ((call.apply read db).trail order.id).head?,
      order.deliveryStatus = event.toStatus := by
  intro order horder event hevent
  rcases mem_apply hstored horder with rfl | ⟨hother, hold⟩
  · rw [DeliveryCall.patched_id, Table.key_of_find? hstored, trail_apply_self] at hevent
    cases hevent
    rfl
  · rw [trail_apply hother] at hevent
    exact hkept.sound.last order hold event hevent

theorem deliveredAt_apply (hunstamped : call.orderId ∉ db.stamps.map Prod.fst) :
    ∀ order ∈ (call.apply read db).orders.rows, ∀ time,
      order.deliveredAt = some time ↔ (order.id, time) ∈ (call.apply read db).stamps := by
  intro order horder time
  rw [mem_stamps_apply]
  rcases mem_apply hstored horder with rfl | ⟨hother, hold⟩
  · have hbefore := hkept.sound.deliveredAt stored (Table.mem_of_find? hstored) time
    rw [Table.key_of_find? hstored] at hbefore
    rw [DeliveryCall.patched_id, Table.key_of_find? hstored]
    change (call.options.patch.deliveredAt.orElse fun _ => stored.deliveredAt) = some time ↔ _
    cases call.options.patch.deliveredAt with
    | none => simpa using hbefore
    | some stamp =>
        have hnone : (call.orderId, time) ∉ db.stamps :=
          fun hstamped => hunstamped (mem_map_of_mem (f := Prod.fst) hstamped)
        simp [hnone]
  · rw [hkept.sound.deliveredAt order hold time]
    simp only [hother, false_and, false_or]

theorem driver_apply (hfree : call.Assigns read → stored.driverId = none) :
    ∀ order ∈ (call.apply read db).orders.rows, ∀ driverId,
      (order.id, driverId) ∈ (call.apply read db).assigned → order.driverId = some driverId := by
  intro order horder driverId hpair
  rcases mem_apply hstored horder with rfl | ⟨hother, hold⟩
  · change (if call.Assigns read then _ else stored.driverId) = _
    rw [DeliveryCall.patched_id] at hpair
    rcases mem_assigned_apply.1 hpair with ⟨hassigns, _, rfl⟩ | hearlier
    · rw [if_pos hassigns]
    · have hdriver := hkept.sound.driver stored (Table.mem_of_find? hstored) driverId hearlier
      by_cases hassigns : call.Assigns read
      · rw [hfree hassigns] at hdriver
        cases hdriver
      · rw [if_neg hassigns]
        exact hdriver
  · rcases mem_assigned_apply.1 hpair with ⟨_, hthis, _⟩ | hearlier
    · exact absurd hthis hother
    · exact hkept.sound.driver order hold driverId hearlier

theorem delivered_apply (hunstamped : call.orderId ∉ db.stamps.map Prod.fst) :
    ∀ order ∈ (call.apply read db).orders.rows,
      order.id ∈ (call.apply read db).stamps.map Prod.fst → order.deliveryStatus = .DELIVERED := by
  intro order horder hstamped
  obtain ⟨⟨_, time⟩, hpair, rfl⟩ := mem_map.1 hstamped
  rcases mem_stamps_apply.1 hpair with ⟨hthis, hpatch⟩ | hearlier
  · rcases mem_apply hstored horder with rfl | ⟨hother, _⟩
    · exact call.next_of_deliveredAt hpatch
    · exact absurd hthis hother
  · have hold := mem_map_of_mem (f := Prod.fst) hearlier
    rcases mem_apply hstored horder with rfl | ⟨_, hmem⟩
    · rw [DeliveryCall.patched_id, Table.key_of_find? hstored] at hold
      exact absurd hold hunstamped
    · exact hkept.delivered order hmem hold

end

theorem kept_apply (hkept : DeliveriesKept db) (hcheck : call.check = .ok read)
    (hstored : db.orders.find? call.orderId = some stored)
    (hmoves : read.deliveryStatus ≠ call.options.next)
    (hsame : stored.deliveryStatus = read.deliveryStatus)
    (hfree : call.Assigns read → stored.driverId = none) :
    DeliveriesKept (call.apply read db) := by
  have hedge : call.options.next ∈ read.deliveryStatus.forwardEdges :=
    (check_ok hcheck).2.resolve_left hmoves
  have hunstamped := not_stamped hkept hstored hsame hedge
  have hstampedOnce : ((call.apply read db).stamps.map Prod.fst).Nodup := by
    change ((_ ++ db.stamps).map Prod.fst).Nodup
    cases call.options.patch.deliveredAt with
    | none => exact hkept.sound.stampedOnce
    | some time => exact nodup_cons.2 ⟨hunstamped, hkept.sound.stampedOnce⟩
  have honeDriver : ((call.apply read db).assigned.map Prod.fst).Nodup := by
    change ((if call.Assigns read then _ else _ : List (Uuid × Uuid)).map Prod.fst).Nodup
    by_cases hassigns : call.Assigns read
    · rw [if_pos hassigns]
      exact nodup_cons.2 ⟨not_assigned hkept hstored (hfree hassigns), hkept.sound.oneDriver⟩
    · rw [if_neg hassigns]
      exact hkept.sound.oneDriver
  exact ⟨⟨chain_apply hkept hstored hsame,
      forall_mem_cons.2 ⟨hedge, hkept.sound.edges⟩, last_apply hkept hstored, hstampedOnce,
      deliveredAt_apply hkept hstored hunstamped, honeDriver,
      driver_apply hkept hstored hfree⟩,
    delivered_apply hkept hstored hunstamped⟩

theorem deliveries_step (hkept : DeliveriesKept db) (hpersist : DeliveriesPersist call.seen db) :
    (DeliveriesSound (deliveryCalls.step call db) → call.FindsRead db) ∧
      (call.FindsRead db → DeliveriesKept (deliveryCalls.step call db)) := by
  rcases transition_cases call db with ⟨read, stored, hcheck, hstored, hstep⟩ | ⟨hstep, hnone⟩
  · rw [hstep]
    constructor
    · intro hsound other stored' hcheck' hstored'
      obtain rfl := Except.ok.inj (hcheck.symm.trans hcheck')
      exact findsRead_of_sound hkept hpersist hcheck hstored' hsound
    · intro hfinds
      obtain ⟨hmoves, hsame, hfree⟩ := hfinds read stored hcheck hstored
      exact kept_apply hkept hcheck hstored hmoves hsame hfree
  · rw [hstep]
    exact ⟨fun _ read stored hcheck hstored => absurd hstored (hnone read stored hcheck),
      fun _ => hkept⟩

theorem DeliveriesPersist.step (call : DeliveryCall) (db : DeliveryDb) :
    DeliveriesPersist db (deliveryCalls.step call db) := by
  rcases transition_cases call db with ⟨read, stored, _, hstored, hstep⟩ | ⟨hstep, _⟩
  · rw [hstep]
    exact .apply hstored
  · rw [hstep]
    exact Std.Refl.refl db

/-- Over every interleaving of starts, completions and returns, of any orders by anyone, the
deliveries are sound exactly if every call that goes past its checks moves its order along an
edge and finds it as it read it. -/
theorem deliveriesSound_iff {start : DeliveryDb} {calls : List DeliveryCall}
    {trace : List DeliveryDb} (hstart : DeliveriesKept start)
    (hlog : deliveryCalls.Log (fun _ _ => True) start calls trace) :
    (∀ db ∈ trace, DeliveriesSound db) ↔
      ∀ found ∈ Calls.occurrences calls trace, found.1.FindsRead found.2 := by
  have hread := (hlog.of_grows (R := DeliveriesPersist) fun call db _ _ => .step call db).1
  apply hread.holds_iff (Q := fun call db => call.FindsRead db) hstart
  · intro db hkept
    exact hkept.sound
  · intro call db hkept hseen hsound
    exact (deliveries_step hkept (hseen.2 call.seen (mem_singleton_self _))).1 hsound
  · intro call db hkept hseen hfinds
    exact (deliveries_step hkept (hseen.2 call.seen (mem_singleton_self _))).2 hfinds

namespace Sample

def readyOrder : DeliveryDb :=
  ⟨⟨[⟨"order", .COMPLETED, .READY, none, none, none, none, none, none⟩],
    nodup_singleton _⟩, [], [], []⟩

theorem readyOrder_kept : DeliveriesKept readyOrder := by
  refine ⟨⟨fun _ => List.IsChain.nil, fun _ hmem => absurd hmem not_mem_nil, ?_,
    nodup_nil, ?_, nodup_nil, fun _ _ _ hmem => absurd hmem not_mem_nil⟩,
    fun _ _ hmem => absurd hmem not_mem_nil⟩
  · intro _ _ event hevent
    cases hevent
  · intro order horder time
    rw [mem_singleton.1 horder]
    exact iff_of_false (fun hsome => nomatch hsome) not_mem_nil

def startBy (driverId : Uuid) : DeliveryCall :=
  ⟨.startDelivery, "order", driverId, .DRIVER, 7, readyOrder⟩

theorem started_log : deliveryCalls.Log (fun _ _ => True) readyOrder [startBy "first"]
    [deliveryCalls.step (startBy "first") readyOrder, readyOrder] :=
  .call (startBy "first") .start (fun _ hseen => hseen) trivial

end Sample

theorem deliveriesSound_iff_sample :
    DeliveriesSound (deliveryCalls.step (Sample.startBy "first") Sample.readyOrder) := by
  apply (deliveriesSound_iff Sample.readyOrder_kept Sample.started_log).2 _ _
    (mem_cons_self ..)
  intro found hfound
  obtain rfl := mem_singleton.1 hfound
  intro read stored hcheck hstored
  have hread := (check_ok hcheck).1
  obtain rfl := Option.some.inj (hread.symm.trans hstored)
  obtain rfl := mem_singleton.1 (Table.mem_of_find? hstored)
  exact ⟨by decide, rfl, fun _ => rfl⟩

theorem deliveriesSound_fails :
    ¬ ∀ (start : DeliveryDb) (calls : List DeliveryCall) (trace : List DeliveryDb),
      DeliveriesKept start → deliveryCalls.Log (fun _ _ => True) start calls trace →
      ∀ db ∈ trace, DeliveriesSound db := by
  intro hall
  have hsound := hall _ _ _ Sample.readyOrder_kept
    (.call (Sample.startBy "second") Sample.started_log (fun _ hseen => .tail _ hseen) trivial) _
    (mem_cons_self ..)
  have hone := hsound.oneDriver
  revert hone
  decide +kernel

end SafariLaundry
