import SafariLaundry.Domain

/-!
# The financial event bus

Publishing an event writes an outbox row under an id made of a part of the event and,
if that id was free, emits the event to the listeners.  An id in use means that the event
was published before.
-/

namespace SafariLaundry

open Library List

inductive RefundType
  | CASH | WALLET | GIFT_REMOVAL
  deriving DecidableEq

inductive EscalationSeverity
  | reminder | warning | block | legal
  deriving DecidableEq

inductive AlertLevel
  | LOW | MEDIUM | HIGH | CRITICAL
  deriving DecidableEq

inductive ReconciliationSeverity
  | WARN | ERROR | CRITICAL
  deriving DecidableEq

/-- The fields of a payload besides those of `CustomerScopedPayload`, under the name of
the event they belong to. -/
inductive FinancialEventDetails
  | invoiceIssued (invoiceTotalKd : String) (posPaymentMethod : Option String)
  | invoiceReversed (reversedAmountKd : String) (reason : Option String)
  | paymentCaptured (amountKd paymentMethod : String)
  | paymentPartial (amountKd paymentMethod : String)
  | walletAbsorbed (amountKd : String)
  | walletAdjusted (deltaKd : String) (reason : Option String)
  | refundCreated (amountKd : String) (refundType : RefundType)
  | subscriptionActivated (planId expiresAt : String)
  | subscriptionExpired (expiredAt : String)
  | collectionEscalated (severity : EscalationSeverity)
  | invoiceOverdue (daysOverdue : ℤ)
  | promiseCreated (promiseId promisedAmountKd promisedDate : String)
  | promiseBroken (promiseId promisedAmountKd : String)
  | promiseKept (promiseId : String)
  | fraudAlertCreated (alertId type : String) (severity : AlertLevel)
  | snapshotRefreshed (refreshSource : String)
  | riskRecalculated (score : ℤ) (level : AlertLevel)
  | collectionStageChanged (fromStage toStage : String) (reason : Option String)
  | reconciliationFailed (reconciliationId expectedKd observedKd : String)
      (severity : ReconciliationSeverity)
  deriving DecidableEq

def FinancialEventDetails.name : FinancialEventDetails → String
  | .invoiceIssued .. => "finance.invoice.issued"
  | .invoiceReversed .. => "finance.invoice.reversed"
  | .paymentCaptured .. => "finance.payment.captured"
  | .paymentPartial .. => "finance.payment.partial"
  | .walletAbsorbed .. => "finance.wallet.absorbed"
  | .walletAdjusted .. => "finance.wallet.adjusted"
  | .refundCreated .. => "finance.refund.created"
  | .subscriptionActivated .. => "finance.subscription.activated"
  | .subscriptionExpired .. => "finance.subscription.expired"
  | .collectionEscalated .. => "finance.collection.escalated"
  | .invoiceOverdue .. => "finance.invoice.overdue"
  | .promiseCreated .. => "finance.promise.created"
  | .promiseBroken .. => "finance.promise.broken"
  | .promiseKept .. => "finance.promise.kept"
  | .fraudAlertCreated .. => "finance.fraud.alert.created"
  | .snapshotRefreshed .. => "finance.snapshot.refreshed"
  | .riskRecalculated .. => "finance.risk.recalculated"
  | .collectionStageChanged .. => "finance.collection.stage.changed"
  | .reconciliationFailed .. => "finance.reconciliation.failed"

structure FinancialDomainEvent where
  customerId : Uuid
  orderId : Option Uuid
  correlationId : Option String
  occurredAt : Timestamp
  details : FinancialEventDetails
  deriving DecidableEq

structure FinancialEventOutbox where
  (eventId eventName : String)
  customerId : Option Uuid
  correlationId : Option String
  (occurredAt publishedAt : Timestamp)
  deliveredAt : Option Timestamp
  attempts : ℕ
  lastError : Option String
  payload : FinancialDomainEvent
  deriving DecidableEq

def FinancialDomainEvent.tuple (event : FinancialDomainEvent) : String :=
  String.intercalate "|" [event.details.name, event.customerId, event.correlationId.getD "",
    toString (event.occurredAt / 1000)]

section Publish

variable (sha256 : String → String)

def deterministicEventId (event : FinancialDomainEvent) : String :=
  "evt_" ++ String.ofList ((sha256 event.tuple).toList.take 32)

structure EventBusState where
  outbox : Table FinancialEventOutbox.eventId
  emitted : List FinancialDomainEvent

/-- A call of `publish` at a time, and the error of the insert other than a unique
violation, if there is one. -/
structure PublishCall where
  event : FinancialDomainEvent
  now : Timestamp
  persistError : Option String

structure PublishResult where
  eventId : String
  alreadyPublished : Bool

def PublishCall.row (call : PublishCall) : FinancialEventOutbox where
  eventId := deterministicEventId sha256 call.event
  eventName := call.event.details.name
  customerId := some call.event.customerId
  correlationId := call.event.correlationId
  occurredAt := call.event.occurredAt
  publishedAt := call.now
  deliveredAt := none
  attempts := 0
  lastError := none
  payload := call.event

def publish (call : PublishCall) (state : EventBusState) : PublishResult × EventBusState :=
  let eventId := deterministicEventId sha256 call.event
  match call.persistError with
  | some _ => (⟨eventId, false⟩, { state with emitted := state.emitted ++ [call.event] })
  | none =>
      match state.outbox.insert (call.row sha256) with
      | none => (⟨eventId, true⟩, state)
      | some outbox => (⟨eventId, false⟩, ⟨outbox, state.emitted ++ [call.event]⟩)

def publishAll (calls : List PublishCall) : EventBusState :=
  calls.foldl (fun state call => (publish sha256 call state).2) ⟨.empty, []⟩

/-! ## What is asked of a sequence of calls -/

structure EventsKept (calls : List PublishCall) : Prop where
  stored : ∀ call ∈ calls, ∃ row ∈ (publishAll sha256 calls).outbox.rows,
    row.eventId = deterministicEventId sha256 call.event ∧ row.payload = call.event
  emitted : ∀ call ∈ calls, (publishAll sha256 calls).emitted.count call.event = 1
  distinct : ∀ first ∈ calls, ∀ second ∈ calls,
    deterministicEventId sha256 first.event = deterministicEventId sha256 second.event →
      first.event = second.event

/-- The digest takes no two texts of these calls for one. -/
def CollisionFree (calls : List PublishCall) : Prop :=
  ∀ first ∈ calls, ∀ second ∈ calls,
    deterministicEventId sha256 first.event = deterministicEventId sha256 second.event →
      first.event.tuple = second.event.tuple

/-- No two different events of the calls have name, customer, correlation and second in
common. -/
def TuplesTellApart (calls : List PublishCall) : Prop :=
  ∀ first ∈ calls, ∀ second ∈ calls,
    first.event.tuple = second.event.tuple → first.event = second.event

structure BusInvariant (calls : List PublishCall) (state : EventBusState) : Prop where
  known : ∀ row ∈ state.outbox.rows, ∃ call ∈ calls,
    row.eventId = deterministicEventId sha256 call.event ∧ row.payload = call.event
  covered : ∀ call ∈ calls, ∃ row ∈ state.outbox.rows,
    row.eventId = deterministicEventId sha256 call.event
  emitted : state.emitted = state.outbox.rows.map FinancialEventOutbox.payload

variable {sha256} {calls : List PublishCall} {state : EventBusState}

theorem BusInvariant.publish {call : PublishCall} (hinv : BusInvariant sha256 calls state)
    (hpersists : call.persistError = none) :
    BusInvariant sha256 (calls ++ [call]) (SafariLaundry.publish sha256 call state).2 := by
  unfold SafariLaundry.publish
  rw [hpersists]
  cases hinsert : state.outbox.insert (call.row sha256) with
  | none =>
      have hused : ∃ row ∈ state.outbox.rows,
          row.eventId = deterministicEventId sha256 call.event := by
        by_contra hfree
        have haccepted : state.outbox.insert (call.row sha256) ≠ none := by
          unfold Table.insert
          rw [dif_pos]
          · exact Option.some_ne_none _
          · intro hmem
            obtain ⟨row, hrow, hid⟩ := mem_map.1 hmem
            exact hfree ⟨row, hrow, hid⟩
        exact haccepted hinsert
      constructor
      · intro row hrow
        obtain ⟨other, hother, hsame⟩ := hinv.known row hrow
        exact ⟨other, mem_append_left _ hother, hsame⟩
      · intro other hother
        rcases mem_append.1 hother with hold | hnew
        · exact hinv.covered other hold
        · rw [mem_singleton.1 hnew]
          exact hused
      · exact hinv.emitted
  | some outbox =>
      have hrows := Table.rows_insert hinsert
      constructor
      · intro row hrow
        change row ∈ outbox.rows at hrow
        rw [hrows] at hrow
        rcases mem_append.1 hrow with hold | hnew
        · obtain ⟨other, hother, hsame⟩ := hinv.known row hold
          exact ⟨other, mem_append_left _ hother, hsame⟩
        · rw [mem_singleton.1 hnew]
          exact ⟨call, mem_append_right _ (mem_singleton_self _), rfl, rfl⟩
      · intro other hother
        change ∃ row ∈ outbox.rows, _
        rw [hrows]
        rcases mem_append.1 hother with hold | hnew
        · obtain ⟨row, hrow, hid⟩ := hinv.covered other hold
          exact ⟨row, mem_append_left _ hrow, hid⟩
        · rw [mem_singleton.1 hnew]
          exact ⟨call.row sha256, mem_append_right _ (mem_singleton_self _), rfl⟩
      · change state.emitted ++ [call.event] = outbox.rows.map FinancialEventOutbox.payload
        rw [hrows, map_append, hinv.emitted]
        rfl

theorem busInvariant_publishAll (sha256 : String → String)
    (hpersists : ∀ call ∈ calls, call.persistError = none) :
    BusInvariant sha256 calls (publishAll sha256 calls) := by
  induction calls using List.reverseRecOn with
  | nil =>
      refine ⟨?_, ?_, rfl⟩
      · exact fun row hrow => absurd hrow not_mem_nil
      · exact fun call hcall => absurd hcall not_mem_nil
  | append_singleton done last ih =>
      have hdone := ih fun call hcall => hpersists call (mem_append_left _ hcall)
      have hlast := hdone.publish
        (hpersists last (mem_append_right _ (mem_singleton_self _)))
      unfold publishAll at hlast ⊢
      rw [foldl_append]
      exact hlast

theorem BusInvariant.emitted_nodup (hinv : BusInvariant sha256 calls state) :
    state.emitted.Nodup := by
  have hids : state.outbox.rows.map FinancialEventOutbox.eventId =
      state.emitted.map (deterministicEventId sha256) := by
    rw [hinv.emitted, map_map]
    apply map_congr_left
    intro row hrow
    obtain ⟨call, _, hid, hpayload⟩ := hinv.known row hrow
    rw [Function.comp_apply, hpayload, hid]
  have hnodup := state.outbox.keysDistinct
  rw [hids] at hnodup
  exact List.Nodup.of_map _ hnodup

/-- Nothing is lost and nothing emitted twice in a sequence of calls exactly if their
tuples tell their events apart. -/
theorem publish_kept_iff (sha256 : String → String) (calls : List PublishCall)
    (hpersists : ∀ call ∈ calls, call.persistError = none)
    (hhash : CollisionFree sha256 calls) :
    EventsKept sha256 calls ↔ TuplesTellApart calls := by
  have hinv := busInvariant_publishAll sha256 hpersists
  constructor
  · intro hkept first hfirst second hsecond htuple
    apply hkept.distinct first hfirst second hsecond
    unfold deterministicEventId
    rw [htuple]
  · intro happart
    have hstored : ∀ call ∈ calls, ∃ row ∈ (publishAll sha256 calls).outbox.rows,
        row.eventId = deterministicEventId sha256 call.event ∧ row.payload = call.event := by
      intro call hcall
      obtain ⟨row, hrow, hid⟩ := hinv.covered call hcall
      obtain ⟨other, hother, hid', hpayload⟩ := hinv.known row hrow
      have htuple := hhash other hother call hcall (hid'.symm.trans hid)
      exact ⟨row, hrow, hid, hpayload.trans (happart other hother call hcall htuple)⟩
    constructor
    · exact hstored
    · intro call hcall
      obtain ⟨row, hrow, _, hpayload⟩ := hstored call hcall
      apply count_eq_one_of_mem hinv.emitted_nodup
      rw [hinv.emitted, ← hpayload]
      exact mem_map_of_mem hrow
    · intro first hfirst second hsecond hid
      exact happart first hfirst second hsecond (hhash first hfirst second hsecond hid)

end Publish

namespace Sample

def paymentEvent (correlationId : Option String) (amountKd : String) : PublishCall where
  event := ⟨"customer", none, correlationId, 1700000000000, .paymentCaptured amountKd "KNET"⟩
  now := 1700000000000
  persistError := none

def paymentDigest (text : String) : String :=
  if text = "finance.payment.captured|customer||1700000000" then
    "fbf872d13f338e19f60ce215cb7aac7fb0801554f15b8cd19046da73095aa116"
  else "102f92ee48009a7c472f2569c426b0310d2498e472ac843736e3366cf40a3589"

end Sample

theorem publish_kept_iff_sample :
    EventsKept Sample.paymentDigest
        [Sample.paymentEvent none "1.0000", Sample.paymentEvent (some "first") "2.0000"] ↔
      TuplesTellApart
        [Sample.paymentEvent none "1.0000", Sample.paymentEvent (some "first") "2.0000"] := by
  apply publish_kept_iff
  · decide
  · unfold CollisionFree
    decide +kernel

theorem publish_kept_fails :
    ¬ ∀ (sha256 : String → String) (calls : List PublishCall),
      (∀ call ∈ calls, call.persistError = none) → CollisionFree sha256 calls →
      EventsKept sha256 calls := by
  intro hall
  have hkept := hall Sample.paymentDigest
    [Sample.paymentEvent none "1.0000", Sample.paymentEvent none "2.0000"] (by decide)
    (by
      unfold CollisionFree
      decide +kernel)
  have hsame := hkept.distinct _ (mem_cons_self ..) _
    (mem_cons_of_mem _ (mem_singleton_self _)) rfl
  revert hsame
  decide

end SafariLaundry
