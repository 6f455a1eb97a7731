import SafariLaundry.GatewayText
import SafariLaundry.Library.Selection
import SafariLaundry.Library.Threads

/-!
# Promises to pay

A promise is resolved once: kept, broken or cancelled.  Every resolution reads the row,
updates it on condition that it is active, and records an event in the same transaction.
Collectors and the hourly job may be anywhere between the two statements.
-/

namespace SafariLaundry

open Library

inductive PromiseToPayStatus
  | ACTIVE | KEPT | BROKEN | CANCELLED
  deriving DecidableEq

inductive PromiseEventKind
  | CREATED | KEPT | CANCELLED | BROKEN
  deriving DecidableEq

def PromiseEventKind.resolves : PromiseEventKind → Option PromiseToPayStatus
  | .CREATED => none
  | .KEPT => some .KEPT
  | .CANCELLED => some .CANCELLED
  | .BROKEN => some .BROKEN

structure PromiseToPay where
  (id customerId : Uuid)
  invoiceId : Option Uuid
  promisedAmount : ℤ
  promisedDate : Timestamp
  status : PromiseToPayStatus
  collectorId : Uuid
  (notes idempotencyKey : Option String)
  resolvedAt : Option Timestamp
  resolvedById : Option Uuid
  resolutionNotes : Option String

inductive PromisePayload
  | created (promisedAmountKd : ℤ) (promisedDate : Timestamp) (invoiceId : Option Uuid)
      (notes : Option String)
  | transitioned (transitionedTo : PromiseToPayStatus) (notes : Option String)

structure PromiseEvent where
  promiseId : Uuid
  kind : PromiseEventKind
  actorId : Option Uuid
  payload : PromisePayload

structure PromiseAnswer where
  caller : ℕ
  promiseId : Uuid
  ok : Bool

structure PromiseDesk where
  promises : Table PromiseToPay.id
  events : List PromiseEvent
  /-- Not a table: which caller resolved which promise. -/
  writers : List (Uuid × ℕ)
  answers : List PromiseAnswer

structure PromiseTransition where
  promiseId : Uuid
  actorId : Option Uuid
  toStatus : PromiseToPayStatus
  kind : PromiseEventKind
  notes : Option String
  kind_resolves : kind.resolves = some toStatus

def markKept (promiseId actorId : Uuid) (notes : Option String) : PromiseTransition :=
  ⟨promiseId, some actorId, .KEPT, .KEPT, notes, rfl⟩

def markCancelled (promiseId actorId : Uuid) (notes : Option String) : PromiseTransition :=
  ⟨promiseId, some actorId, .CANCELLED, .CANCELLED, notes, rfl⟩

def markBroken (promiseId : Uuid) (actorId : Option Uuid) (notes : Option String) :
    PromiseTransition :=
  ⟨promiseId, actorId, .BROKEN, .BROKEN, notes, rfl⟩

namespace PromiseTransition

def event (input : PromiseTransition) : PromiseEvent where
  promiseId := input.promiseId
  kind := input.kind
  actorId := input.actorId
  payload := .transitioned input.toStatus input.notes

def data (input : PromiseTransition) (now : Timestamp) (promise : PromiseToPay) :
    PromiseToPay :=
  { promise with
    status := input.toStatus
    resolvedAt := some now
    resolvedById := input.actorId
    resolutionNotes := input.notes }

theorem data_id (input : PromiseTransition) (now : Timestamp) (promise : PromiseToPay) :
    (input.data now promise).id = promise.id := rfl

def Hits (input : PromiseTransition) (promise : PromiseToPay) : Prop :=
  promise.id = input.promiseId ∧ promise.status = .ACTIVE
  deriving Decidable

end PromiseTransition

def isPromisesCronEnabled (value : Option String) : Bool :=
  String.ofList ((trim (value.getD "")).toList.map Char.toLower) ∈ ["true", "1", "on", "yes"]

def brokenGraceMs : ℕ := 12 * 60 * 60 * 1000

def breakable (now : Timestamp) (order : RowOrder PromiseToPay) (desk : PromiseDesk) :
    List PromiseToPay :=
  (order.arrange (desk.promises.rows.filter fun promise =>
    promise.status = .ACTIVE ∧ promise.promisedDate + brokenGraceMs < now)).take 500

def autoBrokenNotes : String := "Auto-broken: promised date elapsed without resolution"

/-- Where a caller is: before the first or the second statement of a resolution, or in the
job.  A resolution that the job makes has the rows that are left as its last argument. -/
inductive PromiseThread
  | transition (caller : ℕ) (input : PromiseTransition) (job : Option (List PromiseToPay))
  | update (caller : ℕ) (input : PromiseTransition) (job : Option (List PromiseToPay))
  | autoFlipBrokenPromises (caller : ℕ)
  | flipRows (caller : ℕ) (rows : List PromiseToPay)

/-- The clock, the row order, the job's switch, and whether the database fails. -/
structure PromiseChoice where
  now : Timestamp
  order : RowOrder PromiseToPay
  cronEnabled : Option String
  refused : Bool

namespace PromiseDesk

def tell (answer : PromiseAnswer) (desk : PromiseDesk) : PromiseDesk :=
  { desk with answers := answer :: desk.answers }

def resolve (now : Timestamp) (caller : ℕ) (input : PromiseTransition) (desk : PromiseDesk) :
    PromiseDesk :=
  { promises := desk.promises.updateWhere input.Hits (input.data now) (input.data_id now)
    events := desk.events ++ [input.event]
    writers := (input.promiseId, caller) :: desk.writers
    answers := ⟨caller, input.promiseId, true⟩ :: desk.answers }

end PromiseDesk

def PromiseThread.goOn (caller : ℕ) : Option (List PromiseToPay) → List PromiseThread
  | none => []
  | some rows => [.flipRows caller rows]

def PromiseThread.turn (choice : PromiseChoice) (thread : PromiseThread) (desk : PromiseDesk) :
    PromiseDesk × List PromiseThread :=
  if choice.refused = true then (desk, [])
  else
    match thread with
    | .transition caller input job =>
        match desk.promises.find? input.promiseId with
        -- "Promise not found", which also ends a job
        | none => (desk, [])
        | some existing =>
            if existing.status ≠ .ACTIVE then
              (desk.tell ⟨caller, input.promiseId, false⟩, goOn caller job)
            else (desk, [.update caller input job])
    | .update caller input job =>
        if ∃ promise ∈ desk.promises.rows, input.Hits promise then
          (desk.resolve choice.now caller input, goOn caller job)
        else (desk.tell ⟨caller, input.promiseId, false⟩, goOn caller job)
    | .autoFlipBrokenPromises caller =>
        if isPromisesCronEnabled choice.cronEnabled = true then
          (desk, [.flipRows caller (breakable choice.now choice.order desk)])
        else (desk, [])
    | .flipRows _ [] => (desk, [])
    | .flipRows caller (row :: rows) =>
        (desk, [.transition caller (markBroken row.id none (some autoBrokenNotes)) (some rows)])

/-- Collectors resolve promises and the job runs, any number of each at any time. -/
def promiseCallers : Threads PromiseDesk PromiseThread PromiseChoice where
  starts := fun thread _ => ∃ caller promiseId actorId notes,
    thread = .transition caller (markKept promiseId actorId notes) none ∨
      thread = .transition caller (markCancelled promiseId actorId notes) none ∨
      (∃ actorId, thread = .transition caller (markBroken promiseId actorId notes) none) ∨
      thread = .autoFlipBrokenPromises caller
  admits := fun _ _ _ _ => True
  turn := PromiseThread.turn

def idlePromises (promises : Table PromiseToPay.id) (events : List PromiseEvent) :
    Threads.World PromiseDesk PromiseThread where
  shared := ⟨promises, events, [], []⟩
  pending := 0

def resolutions (promiseId : Uuid) (events : List PromiseEvent) : List PromiseToPayStatus :=
  (events.filter fun event => event.promiseId = promiseId).filterMap fun event =>
    event.kind.resolves

def PromiseToPay.resolutions (promise : PromiseToPay) : List PromiseToPayStatus :=
  if promise.status = .ACTIVE then [] else [promise.status]

def writersOf (promiseId : Uuid) (desk : PromiseDesk) : List ℕ :=
  (desk.writers.filter fun entry => entry.1 = promiseId).map Prod.snd

def winnersOf (promiseId : Uuid) (desk : PromiseDesk) : List ℕ :=
  (desk.answers.filter fun answer => answer.promiseId = promiseId ∧ answer.ok = true).map
    PromiseAnswer.caller

def TrailRight (promises : Table PromiseToPay.id) (events : List PromiseEvent) : Prop :=
  ∀ promise ∈ promises.rows, SafariLaundry.resolutions promise.id events = promise.resolutions
  deriving Decidable

def PromisesFinal (earlier later : PromiseDesk) : Prop :=
  ∀ id promise, earlier.promises.find? id = some promise →
    ∃ promise', later.promises.find? id = some promise' ∧
      (promise.status ≠ .ACTIVE → promise' = promise)

/-- Between two moments of a run no resolved promise changes; every trail holds the one
terminal event that the status names; and a promise that left `ACTIVE` has one writer, who
alone was told `ok`. -/
structure PromisesSound (start : Table PromiseToPay.id) (earlier later : PromiseDesk) :
    Prop where
  final : PromisesFinal earlier later
  trail : TrailRight later.promises later.events
  winner : ∀ id before after, start.find? id = some before → later.promises.find? id = some after →
      winnersOf id later = writersOf id later ∧
        (writersOf id later).length = if before.status = after.status then 0 else 1

variable {start : Table PromiseToPay.id} {desk : PromiseDesk} {choice : PromiseChoice}

theorem PromiseThread.turn_cases (choice : PromiseChoice) (thread : PromiseThread)
    (desk : PromiseDesk) :
    (thread.turn choice desk).1 = desk ∨ (∃ caller promiseId,
        (thread.turn choice desk).1 = desk.tell ⟨caller, promiseId, false⟩) ∨
      ∃ caller input, (∃ promise ∈ desk.promises.rows, input.Hits promise) ∧
        (thread.turn choice desk).1 = desk.resolve choice.now caller input := by
  unfold turn
  by_cases hrefused : choice.refused = true
  · rw [if_pos hrefused]
    exact .inl rfl
  · rw [if_neg hrefused]
    cases thread with
    | transition caller input job =>
        simp only
        cases desk.promises.find? input.promiseId with
        | none => exact .inl rfl
        | some existing =>
            simp only
            by_cases hresolved : existing.status ≠ .ACTIVE
            · rw [if_pos hresolved]
              exact .inr (.inl ⟨caller, input.promiseId, rfl⟩)
            · rw [if_neg hresolved]
              exact .inl rfl
    | update caller input job =>
        simp only
        by_cases hhits : ∃ promise ∈ desk.promises.rows, input.Hits promise
        · rw [if_pos hhits]
          exact .inr (.inr ⟨caller, input, hhits, rfl⟩)
        · rw [if_neg hhits]
          exact .inr (.inl ⟨caller, input.promiseId, rfl⟩)
    | autoFlipBrokenPromises caller =>
        simp only
        by_cases henabled : isPromisesCronEnabled choice.cronEnabled = true
        · rw [if_pos henabled]
          exact .inl rfl
        · rw [if_neg henabled]
          exact .inl rfl
    | flipRows caller rows =>
        cases rows with
        | nil => exact .inl rfl
        | cons row rows => exact .inl rfl

theorem PromiseEventKind.resolves_ne_active {kind : PromiseEventKind}
    {status : PromiseToPayStatus} (hresolves : kind.resolves = some status) :
    status ≠ .ACTIVE := by
  cases kind <;> cases hresolves <;> decide

theorem PromisesFinal.refl (desk : PromiseDesk) : PromisesFinal desk desk :=
  fun _ promise hpromise => ⟨promise, hpromise, fun _ => rfl⟩

theorem PromisesFinal.trans {earlier mid later : PromiseDesk}
    (hfirst : PromisesFinal earlier mid) (hsecond : PromisesFinal mid later) :
    PromisesFinal earlier later := by
  intro id promise hpromise
  obtain ⟨promise', hpromise', hfinal⟩ := hfirst id promise hpromise
  obtain ⟨promise'', hpromise'', hfinal'⟩ := hsecond id promise' hpromise'
  refine ⟨promise'', hpromise'', ?_⟩
  intro hresolved
  have hsame := hfinal hresolved
  rw [hsame] at hfinal'
  exact hfinal' hresolved

instance : Std.Refl PromisesFinal := ⟨PromisesFinal.refl⟩

instance : IsTrans PromiseDesk PromisesFinal := ⟨fun _ _ _ => PromisesFinal.trans⟩

namespace PromiseDesk

variable {now : Timestamp} {caller : ℕ} {input : PromiseTransition} {id : Uuid}

theorem find?_resolve :
    (desk.resolve now caller input).promises.find? id =
      (desk.promises.find? id).map fun promise =>
        if input.Hits promise then input.data now promise else promise :=
  Table.find?_updateWhere desk.promises input.Hits (input.data now) (input.data_id now) id

theorem final_resolve : PromisesFinal desk (desk.resolve now caller input) := by
  intro id promise hpromise
  rw [find?_resolve, hpromise]
  refine ⟨_, rfl, ?_⟩
  intro hresolved
  exact if_neg fun hhits => hresolved hhits.2

theorem final_turn (choice : PromiseChoice) (thread : PromiseThread) (desk : PromiseDesk) :
    PromisesFinal desk (thread.turn choice desk).1 := by
  rcases thread.turn_cases choice desk with hsame | ⟨_, _, htold⟩ | ⟨_, _, _, hresolve⟩
  · rw [hsame]
    exact .refl desk
  · rw [htold]
    exact .refl desk
  · rw [hresolve]
    exact final_resolve

theorem resolutions_resolve :
    resolutions id (desk.resolve now caller input).events =
      resolutions id desk.events ++ if input.promiseId = id then [input.toStatus] else [] := by
  unfold resolutions resolve
  rw [List.filter_append, List.filterMap_append]
  by_cases hid : input.promiseId = id
  · simp [hid, PromiseTransition.event, input.kind_resolves]
  · simp [hid, PromiseTransition.event]

theorem map_filter_cons {α : Type} (picks : α → Prop) [DecidablePred picks] (toCaller : α → ℕ)
    (entry : α) (past : List α) :
    ((entry :: past).filter picks).map toCaller =
      (if picks entry then [toCaller entry] else []) ++ (past.filter picks).map toCaller := by
  by_cases hpicked : picks entry
  · simp [hpicked]
  · simp [hpicked]

theorem writersOf_resolve :
    writersOf id (desk.resolve now caller input) =
      (if input.promiseId = id then [caller] else []) ++ writersOf id desk :=
  map_filter_cons (fun entry : Uuid × ℕ => entry.1 = id) Prod.snd (input.promiseId, caller)
    desk.writers

theorem winnersOf_resolve :
    winnersOf id (desk.resolve now caller input) =
      (if input.promiseId = id ∧ true = true then [caller] else []) ++ winnersOf id desk :=
  map_filter_cons (fun answer : PromiseAnswer => answer.promiseId = id ∧ answer.ok = true)
    PromiseAnswer.caller ⟨caller, input.promiseId, true⟩ desk.answers

theorem winnersOf_tell {promiseId : Uuid} :
    winnersOf id (desk.tell ⟨caller, promiseId, false⟩) = winnersOf id desk := by
  simp [winnersOf, tell]

end PromiseDesk

/-! ## Every run -/

structure PromisesInvariant (start : Table PromiseToPay.id) (desk : PromiseDesk) : Prop where
  trail : TrailRight desk.promises desk.events
  winners : ∀ id, winnersOf id desk = writersOf id desk
  counted : ∀ id before after, start.find? id = some before → desk.promises.find? id = some after →
      (writersOf id desk).length = if before.status = after.status then 0 else 1
  moved : ∀ id before after, start.find? id = some before →
    desk.promises.find? id = some after → before.status ≠ after.status →
      before.status = .ACTIVE ∧ after.status ≠ .ACTIVE

theorem PromisesInvariant.resolve {now : Timestamp} {caller : ℕ} {input : PromiseTransition}
    (hhits : ∃ promise ∈ desk.promises.rows, input.Hits promise)
    (hinv : PromisesInvariant start desk) :
    PromisesInvariant start (desk.resolve now caller input) := by
  obtain ⟨hit, hhit, hid, hactive⟩ := hhits
  have hleft := input.kind.resolves_ne_active input.kind_resolves
  have hfind := Table.find?_of_mem hhit
  rw [hid] at hfind
  refine ⟨?_, ?_, ?_, ?_⟩
  · intro promise hpromise
    obtain ⟨old, hold, hsame⟩ := List.mem_map.1 hpromise
    rw [PromiseDesk.resolutions_resolve]
    by_cases hits : input.Hits old
    · rw [if_pos hits] at hsame
      subst hsame
      rw [input.data_id, if_pos hits.1.symm, hinv.trail old hold]
      simp [PromiseToPay.resolutions, hits.2, PromiseTransition.data, hleft]
    · rw [if_neg hits] at hsame
      subst hsame
      have hother : input.promiseId ≠ old.id := by
        intro heq
        have hrow := Table.row_eq_of_key_eq hold hhit (heq.symm.trans hid.symm)
        exact hits (hrow ▸ ⟨hid, hactive⟩)
      rw [if_neg hother, List.append_nil]
      exact hinv.trail old hold
  · intro id
    simp only [PromiseDesk.winnersOf_resolve, PromiseDesk.writersOf_resolve,
      hinv.winners id, and_true]
  · intro id before after hbefore hafter
    obtain ⟨old, hold, hsame⟩ := Option.map_eq_some_iff.1 (PromiseDesk.find?_resolve ▸ hafter)
    have hcounted := hinv.counted id before old hbefore hold
    rw [PromiseDesk.writersOf_resolve, List.length_append, hcounted]
    by_cases hits : input.Hits old
    · rw [if_pos hits] at hsame
      have hstill : before.status = old.status := by
        by_contra hne
        exact (hinv.moved id before old hbefore hold hne).2 hits.2
      have hnew : before.status ≠ after.status := by
        rw [hstill, hits.2, ← hsame]
        exact hleft.symm
      rw [if_pos (hits.1.symm.trans (Table.key_of_find? hold)), if_pos hstill, if_neg hnew]
      rfl
    · rw [if_neg hits] at hsame
      subst hsame
      have hother : input.promiseId ≠ id := by
        rintro rfl
        rw [hfind, Option.some.injEq] at hold
        exact hits (hold ▸ ⟨hid, hactive⟩)
      rw [if_neg hother, List.length_nil, zero_add]
  · intro id before after hbefore hafter hne
    obtain ⟨old, hold, hsame⟩ := Option.map_eq_some_iff.1 (PromiseDesk.find?_resolve ▸ hafter)
    by_cases hits : input.Hits old
    · rw [if_pos hits] at hsame
      have hstill : before.status = old.status := by
        by_contra hmoved
        exact (hinv.moved id before old hbefore hold hmoved).2 hits.2
      refine ⟨hstill.trans hits.2, ?_⟩
      rw [← hsame]
      exact hleft
    · rw [if_neg hits] at hsame
      exact hsame ▸ hinv.moved id before old hbefore hold (hsame ▸ hne)

theorem PromisesInvariant.turn (thread : PromiseThread)
    (hinv : PromisesInvariant start desk) :
    PromisesInvariant start (thread.turn choice desk).1 := by
  rcases thread.turn_cases choice desk with hsame | ⟨_, _, htold⟩ | ⟨_, _, hhits, hresolve⟩
  · rw [hsame]
    exact hinv
  · rw [htold]
    refine ⟨hinv.trail, ?_, hinv.counted, hinv.moved⟩
    intro id
    rw [PromiseDesk.winnersOf_tell]
    exact hinv.winners id
  · rw [hresolve]
    exact hinv.resolve hhits

theorem PromisesInvariant.idle {promises : Table PromiseToPay.id} {events : List PromiseEvent}
    (htrail : TrailRight promises events) :
    PromisesInvariant promises (idlePromises promises events).shared := by
  refine ⟨htrail, fun _ => rfl, ?_, ?_⟩
  · intro id before after hbefore hafter
    have hsame : before = after := Option.some.inj (hbefore.symm.trans hafter)
    rw [hsame, if_pos rfl]
    rfl
  · intro id before after hbefore hafter hne
    have hsame : before = after := Option.some.inj (hbefore.symm.trans hafter)
    exact absurd (hsame ▸ rfl) hne

/-- Whoever races on them, promises are resolved once and by one caller. -/
theorem promises_sound {promises : Table PromiseToPay.id} {events : List PromiseEvent}
    {earlier later : Threads.World PromiseDesk PromiseThread}
    (htrail : TrailRight promises events)
    (hearlier : promiseCallers.Reaches (idlePromises promises events) earlier)
    (hlater : promiseCallers.Reaches earlier later) :
    PromisesSound promises earlier.shared later.shared := by
  have hinv : PromisesInvariant promises later.shared := by
    apply Threads.Reaches.invariant (I := fun world => PromisesInvariant promises world.shared)
      (PromisesInvariant.idle htrail) _ _ (hearlier.trans hlater)
    · intro world thread hbefore _
      exact hbefore
    · intro shared rest choice thread hbefore _
      exact hbefore.turn thread
  refine ⟨?_, hinv.trail, ?_⟩
  · apply hlater.grows (R := PromisesFinal)
    intro choice thread shared rest _
    exact PromiseDesk.final_turn choice thread shared
  · intro id before after hbefore hafter
    exact ⟨hinv.winners id, hinv.counted id before after hbefore hafter⟩

namespace Sample

def activePromise : PromiseToPay where
  id := "promise"
  customerId := "customer"
  invoiceId := none
  promisedAmount := 50000
  promisedDate := 0
  status := .ACTIVE
  collectorId := "collector"
  notes := none
  idempotencyKey := none
  resolvedAt := none
  resolvedById := none
  resolutionNotes := none

def onePromise : Table PromiseToPay.id := ⟨[activePromise], List.nodup_singleton _⟩

def promiseCreated : PromiseEvent where
  promiseId := "promise"
  kind := .CREATED
  actorId := some "collector"
  payload := .created 50000 0 none none

def promiseChoice : PromiseChoice := ⟨1, ⟨id, List.Perm.refl⟩, none, false⟩

def keepPromise : PromiseTransition := markKept "promise" "first" none

def cancelPromise : PromiseTransition := markCancelled "promise" "second" none

def idleDesk : PromiseDesk := (idlePromises onePromise [promiseCreated]).shared

def keptDesk : PromiseDesk := idleDesk.resolve 1 1 keepPromise

theorem promise_raced :
    promiseCallers.Reaches (idlePromises onePromise [promiseCreated])
      ⟨keptDesk.tell ⟨2, "promise", false⟩, 0⟩ := by
  have hkeeping : promiseCallers.Reaches (idlePromises onePromise [promiseCreated])
      ⟨idleDesk, .transition 1 keepPromise none ::ₘ 0⟩ :=
    Threads.Reaches.start_thread .refl (PromiseThread.transition 1 keepPromise none)
      ⟨1, "promise", "first", none, .inl rfl⟩
  have hkept : promiseCallers.Reaches (idlePromises onePromise [promiseCreated])
      ⟨idleDesk, .update 1 keepPromise none ::ₘ 0⟩ :=
    hkeeping.take_turn promiseChoice trivial
  have hcalled : promiseCallers.Reaches (idlePromises onePromise [promiseCreated])
      ⟨idleDesk, .transition 2 cancelPromise none ::ₘ .update 1 keepPromise none ::ₘ 0⟩ :=
    hkept.start_thread (PromiseThread.transition 2 cancelPromise none)
      ⟨2, "promise", "second", none, .inr (.inl rfl)⟩
  have hread : promiseCallers.Reaches (idlePromises onePromise [promiseCreated])
      ⟨idleDesk, .update 1 keepPromise none ::ₘ .update 2 cancelPromise none ::ₘ 0⟩ := by
    rw [Multiset.cons_swap]
    exact hcalled.take_turn promiseChoice trivial
  have hwritten : promiseCallers.Reaches (idlePromises onePromise [promiseCreated])
      ⟨keptDesk, .update 2 cancelPromise none ::ₘ 0⟩ :=
    hread.take_turn promiseChoice trivial
  exact hwritten.take_turn promiseChoice trivial

end Sample

theorem promises_sound_sample :
    PromisesSound Sample.onePromise Sample.idleDesk (Sample.keptDesk.tell ⟨2, "promise", false⟩) ∧
      winnersOf "promise" (Sample.keptDesk.tell ⟨2, "promise", false⟩) = [1] :=
  ⟨promises_sound (by decide) .refl Sample.promise_raced, by decide⟩

end SafariLaundry
