import SafariLaundry.Domain
import SafariLaundry.Library.History
import SafariLaundry.Library.Selection

/-!
# The collections cockpit

Callbacks, promises and escalations are kept in memory.  Reads prune what was resolved long ago,
and a create under pressure drops the oldest resolved items.  Times are the instants that the
stored texts stand for.
-/

namespace SafariLaundry

open Library List

inductive WorkflowKind
  | CALLBACK | PROMISE | ESCALATION
  deriving DecidableEq

inductive WorkflowStatus
  | OPEN | IN_PROGRESS | COMPLETED | BROKEN | CANCELLED
  deriving DecidableEq

inductive WorkflowPriority
  | LOW | NORMAL | HIGH | URGENT

inductive WorkflowAction
  | CREATED | UPDATED | OWNED | RELEASED | COMPLETED | BROKEN | CANCELLED

def WorkflowStatus.name : WorkflowStatus → String
  | .OPEN => "OPEN"
  | .IN_PROGRESS => "IN_PROGRESS"
  | .COMPLETED => "COMPLETED"
  | .BROKEN => "BROKEN"
  | .CANCELLED => "CANCELLED"

def WorkflowStatus.Resolved (status : WorkflowStatus) : Prop :=
  status = .COMPLETED ∨ status = .BROKEN ∨ status = .CANCELLED
  deriving Decidable

structure WorkflowEvent where
  instant : Timestamp
  actorId : Uuid
  actorName : String
  action : WorkflowAction
  notes : Option String

structure WorkflowItem where
  id : Uuid
  kind : WorkflowKind
  status : WorkflowStatus
  priority : WorkflowPriority
  customerId : Uuid
  customerNameSnapshot : Option String
  orderId : Option Uuid
  (scheduledAt amountKdSnapshot notes : Option String)
  branchId : Option Uuid
  (createdAt updatedAt : Timestamp)
  createdById : Uuid
  createdByName : String
  ownedById : Option Uuid
  ownedByName : Option String
  resolvedAt : Option Timestamp
  resolvedById : Option Uuid
  resolvedByName : Option String
  history : List WorkflowEvent

structure Registry where
  items : Table WorkflowItem.id
  /-- Not in the service: the ids that were given out. -/
  issued : List Uuid

def Registry.empty : Registry := ⟨Table.empty, []⟩

def resolvedRetentionMs : ℕ := 7 * 24 * 60 * 60 * 1000

def maxLiveItems : ℕ := 5000

def WorkflowItem.Expired (now : Timestamp) (item : WorkflowItem) : Prop :=
  ∃ resolvedAt ∈ item.resolvedAt, resolvedRetentionMs < now - resolvedAt
  deriving Decidable

def evictOldResolved (now : Timestamp) (items : Table WorkflowItem.id) : Table WorkflowItem.id where
  rows := items.rows.filter fun item => ¬ item.Expired now
  keysDistinct := (filter_sublist.map WorkflowItem.id).nodup items.keysDistinct

def sortedResolved (items : Table WorkflowItem.id) : List WorkflowItem :=
  (items.rows.filter fun item => item.resolvedAt ≠ none).insertionSort
    fun first second => first.resolvedAt.getD 0 ≤ second.resolvedAt.getD 0

def dropWhileFull : List WorkflowItem → Table WorkflowItem.id → Table WorkflowItem.id
  | [], items => items
  | item :: rest, items =>
      if items.rows.length < maxLiveItems then items
      else dropWhileFull rest (items.delete item.id)

def enforceMemoryBound (items : Table WorkflowItem.id) : Table WorkflowItem.id :=
  if items.rows.length < maxLiveItems then items
  else dropWhileFull (sortedResolved items) items

/-! ## Calls -/

/-- `/^\d+(\.\d{1,4})?$/`. -/
def LooksLikeKwd (text : String) : Prop :=
  let whole := text.toList.takeWhile Char.isDigit
  let rest := text.toList.dropWhile Char.isDigit
  whole ≠ [] ∧ (rest = [] ∨ rest.head? = some '.' ∧ rest.tail.all Char.isDigit = true ∧
    1 ≤ rest.tail.length ∧ rest.tail.length ≤ 4)
  deriving Decidable

structure WorkflowCreate where
  kind : WorkflowKind
  customerId : Uuid
  customerNameSnapshot : Option String
  orderId : Option Uuid
  (scheduledAt amountKdSnapshot : Option String)
  priority : Option WorkflowPriority
  notes : Option String
  branchId : Option Uuid
  actorId : Uuid
  actorName : String
  now : Timestamp
  id : Uuid

def WorkflowCreate.item (input : WorkflowCreate) : WorkflowItem where
  id := input.id
  kind := input.kind
  status := .OPEN
  priority := input.priority.getD .NORMAL
  customerId := input.customerId
  customerNameSnapshot := input.customerNameSnapshot
  orderId := input.orderId
  scheduledAt := input.scheduledAt
  amountKdSnapshot := input.amountKdSnapshot
  notes := input.notes
  branchId := input.branchId
  createdAt := input.now
  updatedAt := input.now
  createdById := input.actorId
  createdByName := input.actorName
  ownedById := none
  ownedByName := none
  resolvedAt := none
  resolvedById := none
  resolvedByName := none
  history := [⟨input.now, input.actorId, input.actorName, .CREATED, input.notes⟩]

def WorkflowCreate.check (isDate : String → Bool) (input : WorkflowCreate) :
    Except ServiceError Unit :=
  if input.customerId = "" then .error (.badRequest "customerId is required")
  else if ∃ amount ∈ input.amountKdSnapshot, ¬ LooksLikeKwd amount then
    .error (.badRequest
      "amountKdSnapshot must look like a canonical KWD string (e.g. \"12.500\")")
  else if ∃ text ∈ input.scheduledAt, isDate text = false then
    .error (.badRequest "scheduledAt must be a valid ISO timestamp")
  else if input.kind = .CALLBACK ∧ input.amountKdSnapshot ≠ none then
    .error (.badRequest "callbacks must not carry an amount snapshot")
  else .ok ()

namespace Registry

def create (isDate : String → Bool) (input : WorkflowCreate) (registry : Registry) :
    Except ServiceError (WorkflowItem × Registry) := do
  input.check isDate
  .ok (input.item, ⟨(enforceMemoryBound registry.items).upsert input.item,
    input.id :: registry.issued⟩)

end Registry

structure WorkflowTransition where
  id : Uuid
  nextStatus : WorkflowStatus
  actorId : Uuid
  actorName : String
  notes : Option String
  now : Timestamp

def WorkflowStatus.allowedNext (status : WorkflowStatus) : List WorkflowStatus :=
  if status = .OPEN then [.IN_PROGRESS, .COMPLETED, .BROKEN, .CANCELLED]
  else [.OPEN, .COMPLETED, .BROKEN, .CANCELLED]

def WorkflowStatus.action : WorkflowStatus → WorkflowAction
  | .COMPLETED => .COMPLETED
  | .BROKEN => .BROKEN
  | .CANCELLED => .CANCELLED
  | .OPEN | .IN_PROGRESS => .UPDATED

def WorkflowTransition.apply (input : WorkflowTransition) (item : WorkflowItem) : WorkflowItem :=
  { item with
    status := input.nextStatus
    updatedAt := input.now
    resolvedAt := if input.nextStatus.Resolved then some input.now else item.resolvedAt
    resolvedById := if input.nextStatus.Resolved then some input.actorId else item.resolvedById
    resolvedByName :=
      if input.nextStatus.Resolved then some input.actorName else item.resolvedByName
    history := item.history ++
      [⟨input.now, input.actorId, input.actorName, input.nextStatus.action, input.notes⟩] }

def WorkflowTransition.check (input : WorkflowTransition) (item : WorkflowItem) :
    Except ServiceError Unit :=
  if item.status.Resolved then
    .error (.badRequest s!"workflow item {input.id} is already terminal ({item.status.name})")
  else if input.nextStatus ∉ item.status.allowedNext then
    .error (.badRequest
      s!"transition {item.status.name} → {input.nextStatus.name} not allowed")
  else if input.nextStatus = .BROKEN ∧ item.kind ≠ .PROMISE then
    .error (.badRequest "only promises can be marked BROKEN")
  else .ok ()

structure WorkflowClaim where
  (id actorId : Uuid)
  actorName : String
  release : Bool
  now : Timestamp

def WorkflowClaim.apply (input : WorkflowClaim) (item : WorkflowItem) : WorkflowItem :=
  { item with
    ownedById := if input.release = true then none else some input.actorId
    ownedByName := if input.release = true then none else some input.actorName
    updatedAt := input.now
    history := item.history ++ [⟨input.now, input.actorId, input.actorName,
      if input.release = true then .RELEASED else .OWNED, none⟩] }

def WorkflowClaim.check (_ : WorkflowClaim) (item : WorkflowItem) : Except ServiceError Unit :=
  if item.status.Resolved then .error (.badRequest "cannot claim a terminal item") else .ok ()

structure WorkflowQuery where
  (customerId branchId : Option Uuid)
  kind : Option WorkflowKind
  status : Option WorkflowStatus
  (scheduledBeforeIso scheduledAfterIso : Option String)

/-- An empty id does not filter; an empty `scheduledAt` is none. -/
def WorkflowQuery.Matches (query : WorkflowQuery) (item : WorkflowItem) : Prop :=
  (∀ customerId ∈ query.customerId, customerId ≠ "" → item.customerId = customerId) ∧
    (∀ branchId ∈ query.branchId, branchId ≠ "" → item.branchId = some branchId) ∧
    (∀ kind ∈ query.kind, item.kind = kind) ∧
    (∀ status ∈ query.status, item.status = status) ∧
    (∀ before ∈ query.scheduledBeforeIso,
      ∃ scheduledAt ∈ item.scheduledAt, scheduledAt ≠ "" ∧ ¬ before < scheduledAt) ∧
    ∀ after ∈ query.scheduledAfterIso,
      ∃ scheduledAt ∈ item.scheduledAt, scheduledAt ≠ "" ∧ ¬ scheduledAt < after
  deriving Decidable

/-- The triple-laned view. -/
structure WorkflowQueueSnapshot where
  (callbacks promises escalations : List WorkflowItem)
  computedAt : Timestamp

namespace Registry

def changeItem (id : Uuid) (check : WorkflowItem → Except ServiceError Unit)
    (apply : WorkflowItem → WorkflowItem) (registry : Registry) :
    Except ServiceError (WorkflowItem × Registry) :=
  match registry.items.find? id with
  | none => .error (.notFound s!"workflow item {id} not found")
  | some item => do
      check item
      .ok (apply item, { registry with items := registry.items.upsert (apply item) })

def transition (input : WorkflowTransition) (registry : Registry) :
    Except ServiceError (WorkflowItem × Registry) :=
  registry.changeItem input.id input.check input.apply

def claim (input : WorkflowClaim) (registry : Registry) :
    Except ServiceError (WorkflowItem × Registry) :=
  registry.changeItem input.id input.check input.apply

def evicted (now : Timestamp) (registry : Registry) : Registry :=
  { registry with items := evictOldResolved now registry.items }

def list (query : WorkflowQuery) (now : Timestamp) (registry : Registry) :
    List WorkflowItem × Registry :=
  (((registry.evicted now).items.rows.filter fun item => query.Matches item).reverse.insertionSort
    fun first second => second.createdAt ≤ first.createdAt, registry.evicted now)

def queueSnapshot (branchId : Option Uuid) (now computedAt : Timestamp) (registry : Registry) :
    WorkflowQueueSnapshot × Registry :=
  let result := registry.list ⟨none, branchId, none, none, none, none⟩ now
  let openItems := result.1.filter fun item => item.status = .OPEN ∨ item.status = .IN_PROGRESS
  (⟨openItems.filter fun item => item.kind = .CALLBACK,
    openItems.filter fun item => item.kind = .PROMISE,
    openItems.filter fun item => item.kind = .ESCALATION, computedAt⟩, result.2)

end Registry

inductive CockpitCall
  | create (input : WorkflowCreate)
  | transition (input : WorkflowTransition)
  | claim (input : WorkflowClaim)
  | list (query : WorkflowQuery) (now : Timestamp)
  | queueSnapshot (branchId : Option Uuid) (now computedAt : Timestamp)

namespace CockpitCall

def run (isDate : String → Bool) (registry : Registry) : CockpitCall → Except ServiceError Registry
  | .create input => (registry.create isDate input).map Prod.snd
  | .transition input => (registry.transition input).map Prod.snd
  | .claim input => (registry.claim input).map Prod.snd
  | .list query now => .ok (registry.list query now).2
  | .queueSnapshot branchId now computedAt => .ok (registry.queueSnapshot branchId now computedAt).2

def step (isDate : String → Bool) (call : CockpitCall) (registry : Registry) : Registry :=
  match call.run isDate registry with
  | .ok after => after
  | .error _ => registry

/-- `randomUUID` never returns an id again. -/
def DrawsNew : CockpitCall → Registry → Prop
  | .create input, registry => input.id ∉ registry.issued
  | .transition _, _ | .claim _, _ | .list _ _, _ | .queueSnapshot _ _ _, _ => True

def target : CockpitCall → Option Uuid
  | .transition input => some input.id
  | .claim input => some input.id
  | .create _ | .list _ _ | .queueSnapshot _ _ _ => none

end CockpitCall

def cockpitCalls (isDate : String → Bool) : Calls Registry CockpitCall where
  step := CockpitCall.step isDate
  seen := fun _ => []

structure Pruned (before after : Table WorkflowItem.id) : Prop where
  kept : after.rows.Sublist before.rows
  live : ∀ item ∈ before.rows, item.resolvedAt = none → item ∈ after.rows

theorem Pruned.refl (items : Table WorkflowItem.id) : Pruned items items :=
  ⟨List.Sublist.refl _, fun _ hmem _ => hmem⟩

theorem pruned_evictOldResolved (now : Timestamp) (items : Table WorkflowItem.id) :
    Pruned items (evictOldResolved now items) := by
  constructor
  · exact filter_sublist
  · intro item hmem hopen
    refine mem_filter.2 ⟨hmem, decide_eq_true ?_⟩
    rintro ⟨resolvedAt, hresolved, _⟩
    rw [hopen] at hresolved
    cases hresolved

theorem dropWhileFull_sublist (resolved : List WorkflowItem) (items : Table WorkflowItem.id) :
    (dropWhileFull resolved items).rows.Sublist items.rows := by
  induction resolved generalizing items with
  | nil => exact List.Sublist.refl _
  | cons item rest ih =>
      rw [dropWhileFull]
      by_cases hroom : items.rows.length < maxLiveItems
      · rw [if_pos hroom]
      · rw [if_neg hroom]
        exact (ih (items.delete item.id)).trans filter_sublist

theorem dropWhileFull_live {resolved : List WorkflowItem} {items : Table WorkflowItem.id}
    {open_ : WorkflowItem} (hmem : open_ ∈ items.rows)
    (hother : ∀ item ∈ resolved, item.id ≠ open_.id) :
    open_ ∈ (dropWhileFull resolved items).rows := by
  induction resolved generalizing items with
  | nil => exact hmem
  | cons item rest ih =>
      rw [dropWhileFull]
      by_cases hroom : items.rows.length < maxLiveItems
      · rw [if_pos hroom]
        exact hmem
      · rw [if_neg hroom]
        have hkept : open_ ∈ (items.delete item.id).rows :=
          mem_filter.2 ⟨hmem, decide_eq_true fun hsame =>
            hother item (mem_cons_self ..) hsame.symm⟩
        exact ih hkept fun other hrest => hother other (mem_cons_of_mem item hrest)

theorem dropWhileFull_room (resolved : List WorkflowItem) (items : Table WorkflowItem.id) :
    (dropWhileFull resolved items).rows.length < maxLiveItems ∨
      ∀ item ∈ (dropWhileFull resolved items).rows, item ∉ resolved := by
  induction resolved generalizing items with
  | nil => exact .inr fun _ _ => not_mem_nil
  | cons item rest ih =>
      rw [dropWhileFull]
      by_cases hroom : items.rows.length < maxLiveItems
      · rw [if_pos hroom]
        exact .inl hroom
      · rw [if_neg hroom]
        rcases ih (items.delete item.id) with hleft | hgone
        · exact .inl hleft
        · refine .inr fun other hother hmem => ?_
          rcases mem_cons.1 hmem with rfl | hrest
          · have hstored := (dropWhileFull_sublist rest _).subset hother
            exact of_decide_eq_true (mem_filter.1 hstored).2 rfl
          · exact hgone other hother hrest

theorem mem_sortedResolved {items : Table WorkflowItem.id} {item : WorkflowItem} :
    item ∈ sortedResolved items ↔ item ∈ items.rows ∧ item.resolvedAt ≠ none := by
  unfold sortedResolved
  rw [mem_insertionSort, mem_filter, decide_eq_true_eq]

theorem pruned_enforceMemoryBound (items : Table WorkflowItem.id) :
    Pruned items (enforceMemoryBound items) := by
  unfold enforceMemoryBound
  by_cases hroom : items.rows.length < maxLiveItems
  · rw [if_pos hroom]
    exact Pruned.refl items
  · rw [if_neg hroom]
    refine ⟨dropWhileFull_sublist _ items, fun item hmem hopen => dropWhileFull_live hmem ?_⟩
    intro other hother hsame
    obtain ⟨hstored, hresolved⟩ := mem_sortedResolved.1 hother
    obtain rfl := Table.row_eq_of_key_eq hstored hmem hsame
    exact hresolved hopen

theorem enforceMemoryBound_room (items : Table WorkflowItem.id) :
    (enforceMemoryBound items).rows.length < maxLiveItems ∨
      ∀ item ∈ (enforceMemoryBound items).rows, item.resolvedAt = none := by
  unfold enforceMemoryBound
  by_cases hroom : items.rows.length < maxLiveItems
  · rw [if_pos hroom]
    exact .inl hroom
  · rw [if_neg hroom]
    rcases dropWhileFull_room (sortedResolved items) items with hleft | hgone
    · exact .inl hleft
    · refine .inr fun item hmem => ?_
      have hstored := (dropWhileFull_sublist _ items).subset hmem
      by_contra hresolved
      exact hgone item hmem (mem_sortedResolved.2 ⟨hstored, hresolved⟩)

structure WorkflowItem.MovesTo (item later : WorkflowItem) : Prop where
  id_eq : later.id = item.id
  history : ∃ event, later.history = item.history ++ [event]
  resolvedAt : item.resolvedAt = none → ¬ item.status.Resolved →
    (later.resolvedAt ≠ none ↔ later.status.Resolved)

inductive CockpitDone (call : CockpitCall) (before after : Registry) : Prop
  | created (input : WorkflowCreate) (hcall : call = .create input)
      (hitems : after.items = (enforceMemoryBound before.items).upsert input.item)
      (hissued : after.issued = input.id :: before.issued)
  | changed (item later : WorkflowItem) (hcall : call.target = some item.id)
      (hstored : item ∈ before.items.rows) (hopen : ¬ item.status.Resolved)
      (hmoves : item.MovesTo later) (hitems : after.items = before.items.upsert later)
      (hissued : after.issued = before.issued)
  | evicted (now : Timestamp) (hcall : call.target = none) (hcreates : ∀ input, call ≠ .create input)
      (hafter : after = before.evicted now)

section Done

variable {isDate : String → Bool} {call : CockpitCall} {before after : Registry}

theorem changeItem_ok {id : Uuid} {check : WorkflowItem → Except ServiceError Unit}
    {apply : WorkflowItem → WorkflowItem}
    (hok : (before.changeItem id check apply).map Prod.snd = .ok after) :
    ∃ item ∈ before.items.rows, item.id = id ∧ check item = .ok () ∧
      after = { before with items := before.items.upsert (apply item) } := by
  unfold Registry.changeItem at hok
  cases hfind : before.items.find? id with
  | none =>
      rw [hfind] at hok
      cases hok
  | some item =>
      rw [hfind] at hok
      cases hcheck : check item with
      | error err =>
          simp only [hcheck] at hok
          cases hok
      | ok =>
          simp only [hcheck] at hok
          exact ⟨item, Table.mem_of_find? hfind, Table.key_of_find? hfind, hcheck,
            (Except.ok.inj hok).symm⟩

theorem WorkflowTransition.open_of_check {input : WorkflowTransition} {item : WorkflowItem}
    (hcheck : input.check item = .ok ()) : ¬ item.status.Resolved := by
  intro hresolved
  unfold WorkflowTransition.check at hcheck
  rw [if_pos hresolved] at hcheck
  cases hcheck

theorem WorkflowTransition.movesTo (input : WorkflowTransition) (item : WorkflowItem) :
    item.MovesTo (input.apply item) := by
  refine ⟨rfl, ⟨_, rfl⟩, fun hunresolved _ => ?_⟩
  change (if input.nextStatus.Resolved then some input.now else item.resolvedAt) ≠ none ↔
    input.nextStatus.Resolved
  by_cases hresolved : input.nextStatus.Resolved
  · simp [hresolved]
  · simp [hresolved, hunresolved]

theorem WorkflowClaim.open_of_check {input : WorkflowClaim} {item : WorkflowItem}
    (hcheck : input.check item = .ok ()) : ¬ item.status.Resolved := by
  intro hresolved
  unfold WorkflowClaim.check at hcheck
  rw [if_pos hresolved] at hcheck
  cases hcheck

theorem WorkflowClaim.movesTo (input : WorkflowClaim) (item : WorkflowItem) :
    item.MovesTo (input.apply item) := by
  refine ⟨rfl, ⟨_, rfl⟩, fun hunresolved hopen => ?_⟩
  change item.resolvedAt ≠ none ↔ item.status.Resolved
  simp [hunresolved, hopen]

theorem CockpitCall.done (hrun : call.run isDate before = .ok after) :
    CockpitDone call before after := by
  cases call with
  | create input =>
      change ((before.create isDate input).map Prod.snd) = .ok after at hrun
      unfold Registry.create at hrun
      cases hcheck : input.check isDate with
      | error err =>
          rw [hcheck] at hrun
          cases hrun
      | ok =>
          rw [hcheck] at hrun
          obtain rfl := Except.ok.inj hrun
          exact .created input rfl rfl rfl
  | transition input =>
      obtain ⟨item, hstored, hid, hcheck, rfl⟩ := changeItem_ok hrun
      exact .changed item _ (congrArg some hid.symm) hstored
        (WorkflowTransition.open_of_check hcheck) (input.movesTo item) rfl rfl
  | claim input =>
      obtain ⟨item, hstored, hid, hcheck, rfl⟩ := changeItem_ok hrun
      exact .changed item _ (congrArg some hid.symm) hstored
        (WorkflowClaim.open_of_check hcheck) (input.movesTo item) rfl rfl
  | list query now =>
      obtain rfl := Except.ok.inj hrun
      exact .evicted now rfl (fun _ => nofun) rfl
  | queueSnapshot branchId now computedAt =>
      obtain rfl := Except.ok.inj hrun
      exact .evicted now rfl (fun _ => nofun) rfl

end Done

/-! ## Runs -/

namespace Registry

def unresolved (registry : Registry) : ℕ :=
  registry.items.rows.countP fun item => ¬ item.status.Resolved

end Registry

structure CockpitInvariant (registry : Registry) : Prop where
  resolvedAt : ∀ item ∈ registry.items.rows, item.resolvedAt ≠ none ↔ item.status.Resolved
  issued : ∀ item ∈ registry.items.rows, item.id ∈ registry.issued

theorem CockpitInvariant.resolvedAt_eq_none {registry : Registry} {item : WorkflowItem}
    (hinv : CockpitInvariant registry) (hitem : item ∈ registry.items.rows)
    (hopen : ¬ item.status.Resolved) : item.resolvedAt = none := by
  by_contra hset
  exact hopen ((hinv.resolvedAt item hitem).1 hset)

structure KeptSince (earlier later : Registry) : Prop where
  issued : earlier.issued ⊆ later.issued
  items : ∀ item' ∈ later.items.rows, item'.id ∈ earlier.issued →
    ∃ item ∈ earlier.items.rows, item.id = item'.id ∧ item.history <+: item'.history ∧
      (item.status.Resolved → item' = item)

instance : Std.Refl KeptSince where
  refl _ := ⟨List.Subset.refl _, fun item hitem _ => ⟨item, hitem, rfl, prefix_rfl, fun _ => rfl⟩⟩

instance : IsTrans Registry KeptSince where
  trans first second third hfirst hsecond := by
    refine ⟨fun _ hid => hsecond.issued (hfirst.issued hid), fun item'' hitem'' hissued => ?_⟩
    obtain ⟨item', hitem', hid', hextends', hsame'⟩ :=
      hsecond.items item'' hitem'' (hfirst.issued hissued)
    obtain ⟨item, hitem, hid, hextends, hsame⟩ := hfirst.items item' hitem' (hid' ▸ hissued)
    refine ⟨item, hitem, hid.trans hid', hextends.trans hextends', fun hresolved => ?_⟩
    obtain rfl := hsame hresolved
    exact hsame' hresolved

structure CockpitStep (isDate : String → Bool) (call : CockpitCall) (before after : Registry) :
    Prop where
  live : ∀ item ∈ before.items.rows, ¬ item.status.Resolved →
    ∃ later ∈ after.items.rows, later.id = item.id
  appended : ∀ item ∈ before.items.rows, ∀ later ∈ after.items.rows, later.id = item.id →
    call.target = some item.id → (∃ done, call.run isDate before = .ok done) →
    ∃ event, later.history = item.history ++ [event]
  others : ∀ item ∈ before.items.rows, ∀ later ∈ after.items.rows, later.id = item.id →
    call.target ≠ some item.id ∨ (∃ err, call.run isDate before = .error err) → later = item
  size : ∀ input, call = .create input → (∃ done, call.run isDate before = .ok done) →
    after.items.rows.length ≤ max maxLiveItems (before.unresolved + 1)
  stored : ∀ input, call = .create input → (∃ done, call.run isDate before = .ok done) →
    ∃ item ∈ after.items.rows, item.id = input.id ∧ item.customerId = input.customerId ∧
      item.kind = input.kind ∧ ¬ item.status.Resolved ∧
      item.history = [⟨input.now, input.actorId, input.actorName, .CREATED, input.notes⟩]

section Steps

variable {isDate : String → Bool} {call : CockpitCall} {before after : Registry}

theorem CockpitCall.step_of_ok (hrun : call.run isDate before = .ok after) :
    call.step isDate before = after := by
  unfold CockpitCall.step
  rw [hrun]

theorem CockpitCall.step_of_error {err : ServiceError} (hrun : call.run isDate before = .error err) :
    call.step isDate before = before := by
  unfold CockpitCall.step
  rw [hrun]

theorem CockpitCall.step_cases (isDate : String → Bool) (call : CockpitCall) (before : Registry) :
    (∃ err, call.run isDate before = .error err ∧ call.step isDate before = before) ∨
      call.run isDate before = .ok (call.step isDate before) := by
  cases hrun : call.run isDate before with
  | error err => exact .inl ⟨err, rfl, step_of_error hrun⟩
  | ok after => exact .inr (congrArg _ (step_of_ok hrun).symm)

theorem mem_created {input : WorkflowCreate} {item : WorkflowItem}
    (hitems : after.items = (enforceMemoryBound before.items).upsert input.item)
    (hmem : item ∈ after.items.rows) :
    item = input.item ∨ item ∈ before.items.rows ∧ item.id ≠ input.id := by
  rw [hitems, Table.mem_upsert] at hmem
  rcases hmem with rfl | ⟨hkept, hother⟩
  · exact .inl rfl
  · exact .inr ⟨(pruned_enforceMemoryBound before.items).kept.subset hkept, hother⟩

theorem CockpitDone.invariant (hdone : CockpitDone call before after)
    (hinv : CockpitInvariant before) : CockpitInvariant after := by
  cases hdone with
  | created input _ hitems hissued =>
      constructor
      · intro item hitem
        rcases mem_created hitems hitem with rfl | ⟨hold, _⟩
        · exact ⟨fun hset => absurd rfl hset, by rintro (hopen | hopen | hopen) <;> cases hopen⟩
        · exact hinv.resolvedAt item hold
      · intro item hitem
        rw [hissued]
        rcases mem_created hitems hitem with rfl | ⟨hold, _⟩
        · exact mem_cons_self ..
        · exact mem_cons_of_mem _ (hinv.issued item hold)
  | changed item later _ hstored hopen hmoves hitems hissued =>
      constructor
      · intro other hother
        rw [hitems, Table.mem_upsert] at hother
        rcases hother with rfl | ⟨hold, _⟩
        · exact hmoves.resolvedAt (hinv.resolvedAt_eq_none hstored hopen) hopen
        · exact hinv.resolvedAt other hold
      · intro other hother
        rw [hissued]
        rw [hitems, Table.mem_upsert] at hother
        rcases hother with rfl | ⟨hold, _⟩
        · rw [hmoves.id_eq]
          exact hinv.issued item hstored
        · exact hinv.issued other hold
  | evicted now _ _ hafter =>
      subst hafter
      have hkept := (pruned_evictOldResolved now before.items).kept.subset
      exact ⟨fun item hitem => hinv.resolvedAt item (hkept hitem),
        fun item hitem => hinv.issued item (hkept hitem)⟩

theorem CockpitDone.keptSince (hdone : CockpitDone call before after)
    (hnew : call.DrawsNew before) : KeptSince before after := by
  cases hdone with
  | created input hcall hitems hissued =>
      subst hcall
      refine ⟨hissued ▸ subset_cons_self _ _, fun item hitem hknown => ?_⟩
      rcases mem_created hitems hitem with rfl | ⟨hold, _⟩
      · exact absurd hknown hnew
      · exact ⟨item, hold, rfl, prefix_rfl, fun _ => rfl⟩
  | changed item later _ hstored hopen hmoves hitems hissued =>
      refine ⟨hissued ▸ List.Subset.refl _, fun other hother _ => ?_⟩
      rw [hitems, Table.mem_upsert] at hother
      rcases hother with rfl | ⟨hold, _⟩
      · obtain ⟨event, hhistory⟩ := hmoves.history
        exact ⟨item, hstored, hmoves.id_eq.symm, ⟨[event], hhistory.symm⟩,
          fun hresolved => absurd hresolved hopen⟩
      · exact ⟨other, hold, rfl, prefix_rfl, fun _ => rfl⟩
  | evicted now _ _ hafter =>
      subst hafter
      have hkept := (pruned_evictOldResolved now before.items).kept.subset
      exact ⟨List.Subset.refl _,
        fun item hitem _ => ⟨item, hkept hitem, rfl, prefix_rfl, fun _ => rfl⟩⟩

theorem enforceMemoryBound_length (hinv : CockpitInvariant before) :
    (enforceMemoryBound before.items).rows.length + 1 ≤ max maxLiveItems (before.unresolved + 1) := by
  rcases enforceMemoryBound_room before.items with hroom | hopen
  · exact le_trans hroom (le_max_left _ _)
  · refine le_trans (Nat.succ_le_succ ?_) (le_max_right _ _)
    have hkept := (pruned_enforceMemoryBound before.items).kept
    have hall : ∀ item ∈ (enforceMemoryBound before.items).rows, ¬ item.status.Resolved := by
      intro item hitem hresolved
      exact (hinv.resolvedAt item (hkept.subset hitem)).2 hresolved (hopen item hitem)
    calc (enforceMemoryBound before.items).rows.length
        = (enforceMemoryBound before.items).rows.countP fun item => ¬ item.status.Resolved := by
          exact (countP_eq_length.2 fun item hitem => decide_eq_true (hall item hitem)).symm
      _ ≤ before.unresolved := hkept.countP_le

theorem CockpitCall.DrawsNew.fresh {input : WorkflowCreate} (hinv : CockpitInvariant before)
    (hnew : CockpitCall.DrawsNew (.create input) before) :
    ∀ item ∈ before.items.rows, item.id ≠ input.id := by
  intro item hitem hid
  exact hnew (hid ▸ hinv.issued item hitem)

theorem CockpitDone.live (hdone : CockpitDone call before after)
    (hinv : CockpitInvariant before) (hnew : call.DrawsNew before) :
    ∀ item ∈ before.items.rows, ¬ item.status.Resolved →
      ∃ later ∈ after.items.rows, later.id = item.id := by
  intro item hitem hopen
  have hunresolved := hinv.resolvedAt_eq_none hitem hopen
  cases hdone with
  | created input hcall hitems _ =>
      subst hcall
      refine ⟨item, ?_, rfl⟩
      rw [hitems, Table.mem_upsert]
      exact .inr ⟨(pruned_enforceMemoryBound before.items).live item hitem hunresolved,
        CockpitCall.DrawsNew.fresh hinv hnew item hitem⟩
  | changed stored later _ _ _ _ hitems _ =>
      by_cases hid : item.id = later.id
      · exact ⟨later, hitems ▸ Table.mem_upsert.2 (.inl rfl), hid.symm⟩
      · exact ⟨item, hitems ▸ Table.mem_upsert.2 (.inr ⟨hitem, hid⟩), rfl⟩
  | evicted now _ _ hafter =>
      rw [hafter]
      exact ⟨item, (pruned_evictOldResolved now before.items).live item hitem hunresolved, rfl⟩

theorem CockpitDone.appended (hdone : CockpitDone call before after) :
    ∀ item ∈ before.items.rows, ∀ later ∈ after.items.rows, later.id = item.id →
      call.target = some item.id → ∃ event, later.history = item.history ++ [event] := by
  intro item hitem later hlater hid htarget
  cases hdone with
  | created input hcall _ _ =>
      rw [hcall] at htarget
      cases htarget
  | changed stored moved hcall hstored _ hmoves hitems _ =>
      have hsame : stored.id = item.id := Option.some.inj (hcall.symm.trans htarget)
      obtain rfl := Table.row_eq_of_key_eq hstored hitem hsame
      rw [hitems, Table.mem_upsert] at hlater
      rcases hlater with rfl | ⟨_, hother⟩
      · exact hmoves.history
      · exact absurd (hid.trans hmoves.id_eq.symm) hother
  | evicted now hcall _ _ =>
      rw [hcall] at htarget
      cases htarget

theorem CockpitDone.others (hdone : CockpitDone call before after)
    (hinv : CockpitInvariant before) (hnew : call.DrawsNew before) :
    ∀ item ∈ before.items.rows, ∀ later ∈ after.items.rows, later.id = item.id →
      call.target ≠ some item.id → later = item := by
  intro item hitem later hlater hid hother
  cases hdone with
  | created input hcall hitems _ =>
      subst hcall
      rcases mem_created hitems hlater with rfl | ⟨hkept, _⟩
      · exact absurd hid.symm (CockpitCall.DrawsNew.fresh hinv hnew item hitem)
      · exact Table.row_eq_of_key_eq hkept hitem hid
  | changed stored moved hcall _ _ hmoves hitems _ =>
      rw [hitems, Table.mem_upsert] at hlater
      rcases hlater with rfl | ⟨hkept, _⟩
      · exact absurd (hcall.trans (congrArg some (hmoves.id_eq.symm.trans hid))) hother
      · exact Table.row_eq_of_key_eq hkept hitem hid
  | evicted now _ _ hafter =>
      subst hafter
      have hkept := (pruned_evictOldResolved now before.items).kept.subset
      exact Table.row_eq_of_key_eq (hkept hlater) hitem hid

theorem CockpitDone.size (hdone : CockpitDone call before after)
    (hinv : CockpitInvariant before) (hnew : call.DrawsNew before) :
    ∀ input, call = .create input →
      after.items.rows.length ≤ max maxLiveItems (before.unresolved + 1) := by
  intro created hcreate
  cases hdone with
  | created input hcall hitems _ =>
      subst hcall
      have hfree : input.item.id ∉ (enforceMemoryBound before.items).rows.map WorkflowItem.id := by
        intro hused
        obtain ⟨item, hmem, hid⟩ := mem_map.1 hused
        have hitem := (pruned_enforceMemoryBound before.items).kept.subset hmem
        exact CockpitCall.DrawsNew.fresh hinv hnew item hitem hid
      rw [hitems, Table.rows_upsert_of_fresh hfree, length_append, length_singleton]
      exact enforceMemoryBound_length hinv
  | changed stored moved hcall _ _ _ _ _ =>
      rw [hcreate] at hcall
      cases hcall
  | evicted now _ hcreates _ => exact absurd hcreate (hcreates created)

theorem CockpitDone.stored (hdone : CockpitDone call before after) :
    ∀ input, call = .create input → input.item ∈ after.items.rows := by
  intro created hcreate
  cases hdone with
  | created input hcall hitems _ =>
      obtain rfl := CockpitCall.create.inj (hcreate.symm.trans hcall)
      rw [hitems, Table.mem_upsert]
      exact .inl rfl
  | changed stored moved hcall _ _ _ _ _ =>
      rw [hcreate] at hcall
      cases hcall
  | evicted now _ hcreates _ => exact absurd hcreate (hcreates created)

theorem cockpit_step (hinv : CockpitInvariant before) (hnew : call.DrawsNew before) :
    CockpitStep isDate call before (call.step isDate before) := by
  rcases CockpitCall.step_cases isDate call before with ⟨err, hrun, hstep⟩ | hrun
  · have hrefused : ¬ ∃ done, call.run isDate before = .ok done := by
      rintro ⟨done, hok⟩
      rw [hrun] at hok
      cases hok
    rw [hstep]
    exact ⟨fun item hitem _ => ⟨item, hitem, rfl⟩, fun _ _ _ _ _ _ hok => absurd hok hrefused,
      fun item hitem later hlater hid _ => Table.row_eq_of_key_eq hlater hitem hid,
      fun _ _ hok => absurd hok hrefused, fun _ _ hok => absurd hok hrefused⟩
  · have haccepted : ¬ ∃ err, call.run isDate before = .error err := by
      rintro ⟨err, herror⟩
      rw [hrun] at herror
      cases herror
    have hdone := CockpitCall.done hrun
    constructor
    · exact hdone.live hinv hnew
    · intro item hitem later hlater hid htarget _
      exact hdone.appended item hitem later hlater hid htarget
    · intro item hitem later hlater hid hwhy
      exact hdone.others hinv hnew item hitem later hlater hid (hwhy.resolve_right haccepted)
    · intro input hcreate _
      exact hdone.size hinv hnew input hcreate
    · intro input hcreate _
      refine ⟨input.item, hdone.stored input hcreate, rfl, rfl, rfl, ?_, rfl⟩
      rintro (hopen | hopen | hopen) <;> cases hopen

end Steps

/-- Of two states of a run: an item still there has its earlier history and more, and is
unchanged if it was resolved. -/
def ItemsKept (earlier later : Registry) : Prop :=
  ∀ item ∈ earlier.items.rows, ∀ item' ∈ later.items.rows, item'.id = item.id →
    item.history <+: item'.history ∧ (item.status.Resolved → item' = item)

theorem KeptSince.itemsKept {earlier later : Registry} (hkept : KeptSince earlier later)
    (hinv : CockpitInvariant earlier) : ItemsKept earlier later := by
  intro item hitem item' hitem' hid
  obtain ⟨origin, horigin, horiginId, hextends, hsame⟩ :=
    hkept.items item' hitem' (hid ▸ hinv.issued item hitem)
  obtain rfl := Table.row_eq_of_key_eq horigin hitem (horiginId.trans hid)
  exact ⟨hextends, hsame⟩

theorem cockpitInvariant_empty : CockpitInvariant .empty :=
  ⟨forall_mem_nil _, forall_mem_nil _⟩

/-- In every run of the cockpit: an item carries its resolution time exactly while it is
resolved, every call keeps the items that are not resolved, adds one event to the item it
changes and keeps the registry within its bound, and a resolved item stays as it is. -/
theorem cockpit_sound {isDate : String → Bool} {calls : List CockpitCall} {trace : List Registry}
    (hlog : (cockpitCalls isDate).Log CockpitCall.DrawsNew .empty calls trace) :
    (∀ registry ∈ trace, ∀ item ∈ registry.items.rows,
      item.resolvedAt ≠ none ↔ item.status.Resolved) ∧
    (∀ found ∈ Calls.occurrences calls trace,
      CockpitStep isDate found.1 found.2 (found.1.step isDate found.2)) ∧
    trace.Pairwise fun later earlier => ItemsKept earlier later := by
  have hstep : ∀ call before, CockpitInvariant before →
      CockpitInvariant (CockpitCall.step isDate call before) := by
    intro call before hinv
    rcases CockpitCall.step_cases isDate call before with ⟨_, _, hsame⟩ | hrun
    · rw [hsame]
      exact hinv
    · exact (CockpitCall.done hrun).invariant hinv
  have hgrows : ∀ call before, call.DrawsNew before →
      KeptSince before (CockpitCall.step isDate call before) := by
    intro call before hnew
    rcases CockpitCall.step_cases isDate call before with ⟨_, _, hsame⟩ | hrun
    · rw [hsame]
      exact Std.Refl.refl before
    · exact (CockpitCall.done hrun).keptSince hnew
  obtain ⟨hfound, hinv⟩ := hlog.of_invariant cockpitInvariant_empty
    fun call before hbefore _ _ => hstep call before hbefore
  have hpairs := (hlog.of_grows (R := KeptSince) fun call before hnew _ => hgrows call before hnew).2
  refine ⟨fun registry hmem => (hinv registry hmem).resolvedAt, ?_, ?_⟩
  · exact hfound.forall_occurrences fun call before ⟨hnew, hbefore, _⟩ =>
      cockpit_step hbefore hnew
  · exact hpairs.imp_of_mem fun {_ earlier} _ hmem hkept =>
      hkept.itemsKept (hinv earlier hmem)

namespace Sample

def anyDate : String → Bool := fun _ => true

def promise : WorkflowCreate where
  kind := .PROMISE
  customerId := "customer"
  customerNameSnapshot := none
  orderId := none
  scheduledAt := some "2026-01-10T00:00:00.000Z"
  amountKdSnapshot := some "12.500"
  priority := none
  notes := none
  branchId := none
  actorId := "owner"
  actorName := "Owner"
  now := 0
  id := "promise"

def makePromise : CockpitCall := .create promise

def promised : Registry := (cockpitCalls anyDate).step makePromise .empty

def breakPromise : CockpitCall := .transition ⟨"promise", .BROKEN, "owner", "Owner", none, 1⟩

def broken : Registry := (cockpitCalls anyDate).step breakPromise promised

theorem promised_log : (cockpitCalls anyDate).Log CockpitCall.DrawsNew .empty [makePromise]
    [promised, .empty] :=
  .call makePromise .start (fun _ hseen => absurd hseen not_mem_nil) not_mem_nil

theorem broken_log : (cockpitCalls anyDate).Log CockpitCall.DrawsNew .empty
    [breakPromise, makePromise] [broken, promised, .empty] :=
  .call breakPromise promised_log (fun _ hseen => absurd hseen not_mem_nil) trivial

end Sample

theorem cockpit_sound_sample :
    (∀ registry ∈ [Sample.broken, Sample.promised, .empty], ∀ item ∈ registry.items.rows,
      item.resolvedAt ≠ none ↔ item.status.Resolved) ∧
    (∀ found ∈ Calls.occurrences [Sample.breakPromise, Sample.makePromise]
        [Sample.broken, Sample.promised, .empty],
      CockpitStep Sample.anyDate found.1 found.2 (found.1.step Sample.anyDate found.2)) ∧
    [Sample.broken, Sample.promised, .empty].Pairwise fun later earlier =>
      ItemsKept earlier later :=
  cockpit_sound Sample.broken_log

end SafariLaundry
