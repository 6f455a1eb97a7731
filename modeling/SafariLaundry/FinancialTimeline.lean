import SafariLaundry.CollectionsWorkflow
import SafariLaundry.ReceivableReaders
import SafariLaundry.Library.Paging

/-!
# The financial timeline of a customer

`getTimeline` merges events of seven sources into pages, the latest first.  Every source is
read by the dates of its own rows, strictly before the cursor, and the cursor of the next page
is the time of the last event of this one.  A subscription is read by its activation, but also
gives the event of its expiry.
-/

namespace SafariLaundry

open Library List

structure TimelineSubscription where
  (id customerId : Uuid)
  status : CustomerSubscriptionStatus
  (activatedAt expiresAt : Timestamp)
  planNameSnapshot : String
  planSalePriceSnapshot : ℤ

structure TimelineGeneralLedgerEntry where
  id : Uuid
  entryType : GeneralLedgerEntryType
  amount : ℤ
  memo : Option String
  (customerId orderId : Option Uuid)
  createdAt : Timestamp

structure TimelinePromise where
  (id customerId : Uuid)
  invoiceId : Option Uuid
  promisedAmount : ℤ
  promisedDate : Timestamp

structure TimelinePromiseEvent where
  id : Uuid
  kind : String
  actorId : Option Uuid
  createdAt : Timestamp
  promise : TimelinePromise

structure TimelineStageEvent where
  (id accountCustomerId : Uuid)
  fromStage : Option CollectionsStage
  toStage : CollectionsStage
  actorId : Option Uuid
  reason : Option String
  createdAt : Timestamp

structure TimelineDb where
  orders : Table Order.id
  journalEntries : Table JournalEntryRow.id
  subscriptions : Table TimelineSubscription.id
  generalLedger : Table TimelineGeneralLedgerEntry.id
  promiseEvents : Table TimelinePromiseEvent.id
  stageEvents : Table TimelineStageEvent.id

/-! ## Events -/

inductive FinancialTimelineEventKind
  | INVOICE_ISSUED | PAYMENT_RECORDED | PARTIAL_PAYMENT | WALLET_ABSORBED | DEBT_ACCRUED
  | SUBSCRIPTION_ACTIVATED | SUBSCRIPTION_EXPIRED | COLLECTION_REMINDER
  | COLLECTION_ESCALATED | DEBT_WRITE_OFF | REVERSAL | PROMISE_CREATED | PROMISE_KEPT
  | PROMISE_BROKEN | PROMISE_CANCELLED | COLLECTIONS_STAGE_CHANGED | JOURNAL_ENTRY

inductive TimelineMetadata
  | order (posPaymentMethod : PosPaymentMethod) (cashStatus : CashStatus)
  | ledger (journalSource : String) (sourceRef : SourceRef) (actorUserId : Uuid)
  | subscription (status : CustomerSubscriptionStatus)
  | generalLedger (entryType : GeneralLedgerEntryType)
  | promise (promiseId : Uuid) (actorId : Option Uuid) (promisedDateIso : Timestamp)
  | stage (fromStage : Option CollectionsStage) (toStage : CollectionsStage) (actorId : Option Uuid)
  | journal (journalSource : String) (sourceRef : SourceRef)

/-- `occurredAt` is an instant, which the response writes as ISO text. -/
structure FinancialTimelineEvent where
  kind : FinancialTimelineEventKind
  id : String
  occurredAt : Timestamp
  (amountKd note : Option String)
  orderId : Option Uuid
  source : String
  metadata : TimelineMetadata

structure FinancialTimelineResponse where
  customerId : Uuid
  generatedAt : Timestamp
  nextBeforeCursor : Option Timestamp
  events : List FinancialTimelineEvent

def timelineEventId (label : String) (id : Uuid) : String :=
  label ++ ":" ++ id

theorem timelineEventId_inj {label label' : String} {id id' : Uuid}
    (hlabel : ':' ∉ label.toList) (hlabel' : ':' ∉ label'.toList)
    (hsame : timelineEventId label id = timelineEventId label' id') :
    label = label' ∧ id = id' := by
  have hstart : ∀ (l : String) (k : Uuid), ':' ∉ l.toList →
      (timelineEventId l k).toList.takeWhile (· ≠ ':') = l.toList := by
    intro l k hl
    unfold timelineEventId
    rw [String.toList_append, String.toList_append, append_assoc, takeWhile_append_of_pos]
    · simp
    · intro c hc
      exact decide_eq_true fun hcolon => hl (hcolon ▸ hc)
  have htext := congrArg String.toList hsame
  have hlabels : label = label' := by
    apply String.toList_inj.1
    rw [← hstart label id hlabel, ← hstart label' id' hlabel', htext]
  subst hlabels
  unfold timelineEventId at htext
  simp only [String.toList_append] at htext
  exact ⟨rfl, String.toList_inj.1 (append_cancel_left htext)⟩

def orderEvent (o : Order) : FinancialTimelineEvent where
  kind := .INVOICE_ISSUED
  id := timelineEventId "order" o.id
  occurredAt := o.createdAt
  amountKd := some (minorToAmountString o.totalPrice)
  note := none
  orderId := some o.id
  source := "Order"
  metadata := .order o.posPaymentMethod o.cashStatus

def JournalEntryRow.receivableLines (e : JournalEntryRow) : List JournalLine :=
  e.entry.lines.filter fun line => line.account = .ACCOUNTS_RECEIVABLE

def JournalEntryRow.timelineKind (e : JournalEntryRow) : FinancialTimelineEventKind :=
  if e.entry.source = "PAYMENT" then
    if e.entry.sourceRef.StartsWith ["PAYMENT", "WALLET"] then .WALLET_ABSORBED
    else .PAYMENT_RECORDED
  else if e.entry.source = "DEBT_DISCOUNT" then .PARTIAL_PAYMENT
  else .DEBT_ACCRUED

def ledgerEvent (e : JournalEntryRow) : FinancialTimelineEvent where
  kind := e.timelineKind
  id := timelineEventId "journal" e.id
  occurredAt := e.createdAt
  amountKd := some (minorToAmountString
    (if e.entry.source = "PAYMENT" then (e.receivableLines.map (·.credit)).sum
    else (e.receivableLines.map (·.debit)).sum))
  note := none
  orderId := e.entry.orderId
  source := "JournalEntry"
  metadata := .ledger e.entry.source e.entry.sourceRef e.entry.actorUserId

def subscriptionActivated (s : TimelineSubscription) : FinancialTimelineEvent where
  kind := .SUBSCRIPTION_ACTIVATED
  id := timelineEventId "subscription_activate" s.id
  occurredAt := s.activatedAt
  amountKd := some (minorToAmountString s.planSalePriceSnapshot)
  note := some s.planNameSnapshot
  orderId := none
  source := "CustomerSubscription"
  metadata := .subscription s.status

def subscriptionExpired (s : TimelineSubscription) : FinancialTimelineEvent where
  kind := .SUBSCRIPTION_EXPIRED
  id := timelineEventId "subscription_expire" s.id
  occurredAt := s.expiresAt
  amountKd := none
  note := some s.planNameSnapshot
  orderId := none
  source := "CustomerSubscription"
  metadata := .subscription s.status

def TimelineSubscription.ExpiredBy (now : Timestamp) (s : TimelineSubscription) : Prop :=
  s.expiresAt < now ∧ s.status ≠ .ACTIVE
  deriving Decidable

def subscriptionEvents (now : Timestamp) (s : TimelineSubscription) :
    List FinancialTimelineEvent :=
  if s.ExpiredBy now then [subscriptionActivated s, subscriptionExpired s]
  else [subscriptionActivated s]

theorem subscriptionActivated_mem (now : Timestamp) (s : TimelineSubscription) :
    subscriptionActivated s ∈ subscriptionEvents now s := by
  unfold subscriptionEvents
  by_cases hexpired : s.ExpiredBy now
  · rw [if_pos hexpired]
    exact mem_cons_self ..
  · rw [if_neg hexpired]
    exact mem_cons_self ..

theorem mem_subscriptionEvents {now : Timestamp} {s : TimelineSubscription}
    {event : FinancialTimelineEvent} (hevent : event ∈ subscriptionEvents now s) :
    event = subscriptionActivated s ∨ s.ExpiredBy now ∧ event = subscriptionExpired s := by
  unfold subscriptionEvents at hevent
  by_cases hexpired : s.ExpiredBy now
  · rw [if_pos hexpired] at hevent
    rcases mem_cons.1 hevent with hactivated | hrest
    · exact .inl hactivated
    · exact .inr ⟨hexpired, mem_singleton.1 hrest⟩
  · rw [if_neg hexpired] at hevent
    exact .inl (mem_singleton.1 hevent)

theorem subscriptionExpired_mem {now : Timestamp} {s : TimelineSubscription}
    (hexpired : s.ExpiredBy now) : subscriptionExpired s ∈ subscriptionEvents now s := by
  unfold subscriptionEvents
  rw [if_pos hexpired]
  exact mem_cons_of_mem _ (mem_singleton_self _)

def generalLedgerEvent (r : TimelineGeneralLedgerEntry) : FinancialTimelineEvent where
  kind := .REVERSAL
  id := timelineEventId "gl" r.id
  occurredAt := r.createdAt
  amountKd := some (minorToAmountString r.amount)
  note := r.memo
  orderId := r.orderId
  source := "GeneralLedgerEntry"
  metadata := .generalLedger r.entryType

def promiseEvent (r : TimelinePromiseEvent) : FinancialTimelineEvent where
  kind :=
    if r.kind = "KEPT" then .PROMISE_KEPT
    else if r.kind = "BROKEN" then .PROMISE_BROKEN
    else if r.kind = "CANCELLED" then .PROMISE_CANCELLED
    else .PROMISE_CREATED
  id := timelineEventId "promise_event" r.id
  occurredAt := r.createdAt
  amountKd := some (minorToAmountString r.promise.promisedAmount)
  note := none
  orderId := r.promise.invoiceId
  source := "PromiseEvent"
  metadata := .promise r.promise.id r.actorId r.promise.promisedDate

def collectionsStageEvent (r : TimelineStageEvent) : FinancialTimelineEvent where
  kind := .COLLECTIONS_STAGE_CHANGED
  id := timelineEventId "collections_stage" r.id
  occurredAt := r.createdAt
  amountKd := none
  note := r.reason
  orderId := none
  source := "CollectionsStageEvent"
  metadata := .stage r.fromStage r.toStage r.actorId

def journalEvent (r : JournalEntryRow) : FinancialTimelineEvent where
  kind := .JOURNAL_ENTRY
  id := timelineEventId "journal" r.id
  occurredAt := r.createdAt
  amountKd := none
  note := none
  orderId := r.entry.orderId
  source := "JournalEntry"
  metadata := .journal r.entry.source r.entry.sourceRef

structure TimelineArrival where
  orders : RowOrder Order
  ledger : RowOrder JournalEntryRow
  subscriptions : RowOrder TimelineSubscription
  generalLedger : RowOrder TimelineGeneralLedgerEntry
  promiseEvents : RowOrder TimelinePromiseEvent
  stageEvents : RowOrder TimelineStageEvent
  journal : RowOrder JournalEntryRow

def findLatest {ρ : Type} (order : RowOrder ρ) (date : ρ → Timestamp) (p : ρ → Prop)
    [DecidablePred p] (before : Option Timestamp) (limit : ℕ) (rows : List ρ) : List ρ :=
  recent date limit before ((order.arrange rows).filter fun row => p row)

theorem mem_of_mem_findLatest {ρ : Type} {order : RowOrder ρ} {date : ρ → Timestamp} {p : ρ → Prop}
    [DecidablePred p] {rows : List ρ} {before : Option Timestamp} {limit : ℕ} {row : ρ}
    (hrow : row ∈ findLatest order date p before limit rows) : row ∈ rows ∧ p row := by
  obtain ⟨missed, hperm⟩ := exists_recent_append date limit before
    ((order.arrange rows).filter fun row => p row)
  obtain ⟨hmem, hp⟩ := mem_filter.1
    (mem_of_mem_filter (hperm.subset (mem_append_left missed hrow)))
  exact ⟨(order.perm rows).subset hmem, of_decide_eq_true hp⟩

def JournalEntryRow.OfLedger (customerId : Uuid) (e : JournalEntryRow) : Prop :=
  e.entry.customerId = some customerId ∧
    e.entry.source ∈ ["PAYMENT", "INVOICE", "ORDER_INVOICE", "DEBT_DISCOUNT", "ADJUSTMENT"]
  deriving Decidable

def TimelineGeneralLedgerEntry.Reverses (customerId : Uuid) (r : TimelineGeneralLedgerEntry) :
    Prop :=
  r.customerId = some customerId ∧ r.entryType ∈ [.DEBT_ADJUSTMENT, .WALLET_SETTLEMENT]
  deriving Decidable

section

variable (db : TimelineDb) (customerId : Uuid) (arrival : TimelineArrival)
  (before : Option Timestamp) (limit : ℕ)

def fetchOrderEvents : List FinancialTimelineEvent :=
  (findLatest arrival.orders Order.createdAt (fun o => o.customerId = customerId) before limit
    db.orders.rows).map orderEvent

def fetchLedgerEvents : List FinancialTimelineEvent :=
  (findLatest arrival.ledger JournalEntryRow.createdAt (fun e => e.OfLedger customerId) before
    limit db.journalEntries.rows).map ledgerEvent

def fetchSubscriptionEvents (now : Timestamp) : List FinancialTimelineEvent :=
  (findLatest arrival.subscriptions TimelineSubscription.activatedAt
    (fun s => s.customerId = customerId) before limit db.subscriptions.rows).flatMap
    (subscriptionEvents now)

def fetchGeneralLedgerEvents : List FinancialTimelineEvent :=
  (findLatest arrival.generalLedger TimelineGeneralLedgerEntry.createdAt
    (fun r => r.Reverses customerId) before limit db.generalLedger.rows).map generalLedgerEvent

def fetchPromiseEvents : List FinancialTimelineEvent :=
  (findLatest arrival.promiseEvents TimelinePromiseEvent.createdAt
    (fun r => r.promise.customerId = customerId) before limit db.promiseEvents.rows).map
    promiseEvent

def fetchCollectionsStageEvents : List FinancialTimelineEvent :=
  (findLatest arrival.stageEvents TimelineStageEvent.createdAt
    (fun r => r.accountCustomerId = customerId) before limit db.stageEvents.rows).map
    collectionsStageEvent

def fetchJournalEvents : List FinancialTimelineEvent :=
  (findLatest arrival.journal JournalEntryRow.createdAt
    (fun r => r.entry.customerId = some customerId) before limit db.journalEntries.rows).map
    journalEvent

end

def timelineLimit (limit : Option ℤ) : ℕ :=
  (max 1 (min (limit.getD 100) 500)).toNat

theorem timelineLimit_pos (limit : Option ℤ) : 0 < timelineLimit limit := by
  unfold timelineLimit
  omega

def getTimeline (db : TimelineDb) (customerId : Uuid) (limit : Option ℤ)
    (before : Option Timestamp) (arrival : TimelineArrival) (now : Timestamp) :
    FinancialTimelineResponse :=
  let limit := timelineLimit limit
  let merged :=
    fetchOrderEvents db customerId arrival before limit ++
    fetchLedgerEvents db customerId arrival before limit ++
    fetchSubscriptionEvents db customerId arrival before limit now ++
    fetchGeneralLedgerEvents db customerId arrival before limit ++
    fetchPromiseEvents db customerId arrival before limit ++
    fetchCollectionsStageEvents db customerId arrival before limit ++
    fetchJournalEvents db customerId arrival before limit
  let sliced := (latestFirst FinancialTimelineEvent.occurredAt merged).take limit
  { customerId := customerId
    generatedAt := now
    nextBeforeCursor :=
      if sliced.length = limit then sliced.getLast?.map FinancialTimelineEvent.occurredAt
      else none
    events := sliced }

end SafariLaundry
