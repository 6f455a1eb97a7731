import SafariLaundry.CanonicalHash
import SafariLaundry.Library.StableSort

/-!
# Replayed statements

Raw invoices and events are sorted, brought to four decimals and projected.  What comes out
depends on the order of the rows where two of them tie and on that of the closed invoices of an
event, and replaying it changes what the digits behind the fourth decimal decided.
-/

namespace SafariLaundry

open Library Library.Bookkeeping List

structure StableDecimal where
  negative : Bool
  minor : ℕ
  deriving DecidableEq

namespace StableDecimal

def text (amount : StableDecimal) : String :=
  (if amount.negative then "-" else "") ++ minorToAmountString amount.minor

def value (amount : StableDecimal) : ℚ :=
  ofMinor (if amount.negative then -amount.minor else amount.minor)

end StableDecimal

def stableDecimal (value : ℚ) : StableDecimal := ⟨value < 0, (toMinor value).natAbs⟩

/-! ## Rows -/

structure ReplayInvoiceInput where
  id : String
  totalKd : ℚ
  status : String
  openDebt : Bool

structure ClosedInvoiceInput where
  id : String
  totalKd : ℚ
  deriving DecidableEq

structure ReplayEventInput where
  (id atIso kind : String)
  (amountKd balanceAfterKd debtAfterKd debtSettledKd debtDiscountKd : ℚ)
  closedInvoices : Option (List ClosedInvoiceInput)
  deriving DecidableEq

structure CanonicalStatementEventProjection where
  isCredit : Bool
  effectiveDebtAfterKd : StableDecimal
  (hasDebtDiscount hasDebtSettled : Bool)
  closedInvoicesTotalKd : StableDecimal
  deriving DecidableEq

structure ReplayedInvoice where
  id : String
  totalKd : StableDecimal
  status : String
  openDebt : Bool
  projectionGroup : CanonicalStatementInvoiceGroup
  deriving DecidableEq

structure ReplayedClosedInvoice where
  id : String
  totalKd : StableDecimal
  deriving DecidableEq

structure ReplayedEvent where
  (id atIso kind : String)
  (amountKd balanceAfterKd debtAfterKd debtSettledKd debtDiscountKd : StableDecimal)
  closedInvoices : List ReplayedClosedInvoice
  projection : CanonicalStatementEventProjection
  deriving DecidableEq

structure ReplayedStatementProjection where
  invoices : List ReplayedInvoice
  events : List ReplayedEvent
  totals : CanonicalStatementTotals
  deriving DecidableEq

def ReplayEventInput.closed (event : ReplayEventInput) : List ClosedInvoiceInput :=
  event.closedInvoices.getD []

def negativeBalanceDebt (balanceAfter : ℚ) : ℚ :=
  if balanceAfter < 0 then |balanceAfter| else 0

def closedInvoicesTotal (event : ReplayEventInput) : ℚ :=
  event.closed.foldl (fun acc invoice => acc + invoice.totalKd) 0

def computeCanonicalStatementEventProjection (event : ReplayEventInput) :
    CanonicalStatementEventProjection where
  isCredit := event.kind = "SUBSCRIPTION_ACTIVATION" ∨ event.amountKd < 0
  effectiveDebtAfterKd :=
    stableDecimal (event.debtAfterKd + negativeBalanceDebt event.balanceAfterKd)
  hasDebtDiscount := 0 < event.debtDiscountKd
  hasDebtSettled := 0 < event.debtSettledKd
  closedInvoicesTotalKd := stableDecimal (closedInvoicesTotal event)

def replayInvoice (inv : ReplayInvoiceInput) : ReplayedInvoice where
  id := inv.id
  totalKd := stableDecimal inv.totalKd
  status := inv.status
  openDebt := inv.openDebt
  projectionGroup := canonicalStatementInvoiceGroup ⟨inv.totalKd, inv.status, inv.openDebt⟩

def replayClosedInvoice (ci : ClosedInvoiceInput) : ReplayedClosedInvoice :=
  ⟨ci.id, stableDecimal ci.totalKd⟩

def replayEvent (evt : ReplayEventInput) : ReplayedEvent where
  id := evt.id
  atIso := evt.atIso
  kind := evt.kind
  amountKd := stableDecimal evt.amountKd
  balanceAfterKd := stableDecimal evt.balanceAfterKd
  debtAfterKd := stableDecimal evt.debtAfterKd
  debtSettledKd := stableDecimal evt.debtSettledKd
  debtDiscountKd := stableDecimal evt.debtDiscountKd
  closedInvoices := evt.closed.map replayClosedInvoice
  projection := computeCanonicalStatementEventProjection evt

section Replay

-- `localeCompare` compares the collation keys of two texts.
variable {Key : Type} [LinearOrder Key] (collate : String → Key)

def InvoiceBefore (a b : ReplayInvoiceInput) : Prop := collate a.id ≤ collate b.id
  deriving Decidable

def EventBefore (a b : ReplayEventInput) : Prop :=
  if collate a.atIso ≠ collate b.atIso then collate a.atIso < collate b.atIso
  else collate a.id ≤ collate b.id
  deriving Decidable

def replayedTotals (invoices : List ReplayedInvoice) : CanonicalStatementTotals :=
  computeCanonicalStatementTotals
    (invoices.map fun inv => ⟨inv.totalKd.value, inv.status, inv.openDebt⟩)

def replayStatementProjection (invoices : List ReplayInvoiceInput)
    (events : List ReplayEventInput) : ReplayedStatementProjection :=
  let orderedInvoices := invoices.insertionSort (InvoiceBefore collate)
  let orderedEvents := events.insertionSort (EventBefore collate)
  let replayedInvoices := orderedInvoices.map replayInvoice
  ⟨replayedInvoices, orderedEvents.map replayEvent, replayedTotals replayedInvoices⟩

end Replay

def CanonicalStatementInvoiceGroup.name : CanonicalStatementInvoiceGroup → String
  | .UNPAID => "UNPAID"
  | .PAID => "PAID"
  | .CANCELED => "CANCELED"

def ReplayedInvoice.toValue (invoice : ReplayedInvoice) : CanonicalValue :=
  .object [("id", .string invoice.id), ("totalKd", .string invoice.totalKd.text),
    ("status", .string invoice.status), ("openDebt", .bool invoice.openDebt),
    ("projectionGroup", .string invoice.projectionGroup.name)]

def CanonicalStatementEventProjection.toValue (projection : CanonicalStatementEventProjection) :
    CanonicalValue :=
  .object [("isCredit", .bool projection.isCredit),
    ("effectiveDebtAfterKd", .string projection.effectiveDebtAfterKd.text),
    ("hasDebtDiscount", .bool projection.hasDebtDiscount),
    ("hasDebtSettled", .bool projection.hasDebtSettled),
    ("closedInvoicesTotalKd", .string projection.closedInvoicesTotalKd.text)]

def ReplayedClosedInvoice.toValue (invoice : ReplayedClosedInvoice) : CanonicalValue :=
  .object [("id", .string invoice.id), ("totalKd", .string invoice.totalKd.text)]

def ReplayedEvent.toValue (event : ReplayedEvent) : CanonicalValue :=
  .object [("id", .string event.id), ("atIso", .string event.atIso), ("kind", .string event.kind),
    ("amountKd", .string event.amountKd.text),
    ("balanceAfterKd", .string event.balanceAfterKd.text),
    ("debtAfterKd", .string event.debtAfterKd.text),
    ("debtSettledKd", .string event.debtSettledKd.text),
    ("debtDiscountKd", .string event.debtDiscountKd.text),
    ("closedInvoices", .array (event.closedInvoices.map ReplayedClosedInvoice.toValue)),
    ("projection", event.projection.toValue)]

def CanonicalStatementTotals.toValue (totals : CanonicalStatementTotals) : CanonicalValue :=
  .object [("totalInvoicedKd", .string totals.totalInvoicedKd),
    ("totalPaidInvoicesKd", .string totals.totalPaidInvoicesKd),
    ("totalOpenInvoicesKd", .string totals.totalOpenInvoicesKd),
    ("unpaidInvoiceCount", .number (toString totals.unpaidInvoiceCount)),
    ("paidInvoiceCount", .number (toString totals.paidInvoiceCount)),
    ("canceledInvoiceCount", .number (toString totals.canceledInvoiceCount))]

def ReplayedStatementProjection.toValue (projection : ReplayedStatementProjection) :
    CanonicalValue :=
  .object [("invoices", .array (projection.invoices.map ReplayedInvoice.toValue)),
    ("events", .array (projection.events.map ReplayedEvent.toValue)),
    ("totals", projection.totals.toValue)]

structure CanonicalSnapshotEnvelope where
  (snapshotVersion generatedAtIso canonicalHash : String)
  (sourceEventIds sourceInvoiceIds : List String)
  payload : CanonicalValue

structure BuildCanonicalSnapshotInput where
  payload : CanonicalValue
  (sourceEventIds sourceInvoiceIds : List String)
  (generatedAtIso snapshotVersion : Option String)

def sortedSourceIds (ids : List String) : List String :=
  (ids.filter fun id => id ≠ "").insertionSort fun first second => unitsOf first ≤ unitsOf second

def buildCanonicalSnapshot (sha256 : String → String) (nowIso : String)
    (input : BuildCanonicalSnapshotInput) : Except String CanonicalSnapshotEnvelope :=
  (canonicalHash sha256 input.payload).map fun hash =>
    { snapshotVersion := input.snapshotVersion.getD "v21.3.0"
      generatedAtIso := input.generatedAtIso.getD nowIso
      canonicalHash := hash
      sourceEventIds := sortedSourceIds input.sourceEventIds
      sourceInvoiceIds := sortedSourceIds input.sourceInvoiceIds
      payload := input.payload }

def verifyCanonicalSnapshot (sha256 : String → String) (envelope : CanonicalSnapshotEnvelope) :
    Except String Bool :=
  (canonicalHash sha256 envelope.payload).map fun hash => hash = envelope.canonicalHash

theorem verify_of_build {sha256 : String → String} {nowIso : String}
    {input : BuildCanonicalSnapshotInput} {envelope : CanonicalSnapshotEnvelope}
    (hbuilt : buildCanonicalSnapshot sha256 nowIso input = .ok envelope) :
    verifyCanonicalSnapshot sha256 envelope = .ok true := by
  unfold buildCanonicalSnapshot at hbuilt
  unfold verifyCanonicalSnapshot
  cases hhash : canonicalHash sha256 input.payload with
  | error message =>
      rw [hhash] at hbuilt
      cases hbuilt
  | ok hash =>
      rw [hhash] at hbuilt
      obtain rfl := Except.ok.inj hbuilt
      simp [hhash, Except.map]

/-! ## What the order of the rows decides -/

section Order

variable {Key : Type} [LinearOrder Key] {collate : String → Key}

theorem eventBefore_iff (a b : ReplayEventInput) : EventBefore collate a b ↔
    toLex (collate a.atIso, collate a.id) ≤ toLex (collate b.atIso, collate b.id) := by
  unfold EventBefore
  rw [Prod.Lex.toLex_le_toLex]
  grind

instance : Std.Total (InvoiceBefore collate) := ⟨fun a b => le_total (collate a.id) (collate b.id)⟩

instance : IsTrans ReplayInvoiceInput (InvoiceBefore collate) := ⟨fun _ _ _ => le_trans⟩

instance : Std.Total (EventBefore collate) := ⟨fun a b => by
  rw [eventBefore_iff, eventBefore_iff]
  exact le_total _ _⟩

instance : IsTrans ReplayEventInput (EventBefore collate) := ⟨fun a b c => by
  rw [eventBefore_iff, eventBefore_iff, eventBefore_iff]
  exact le_trans⟩

theorem invoices_tie_iff (a b : ReplayInvoiceInput) :
    StableSort.Ties (InvoiceBefore collate) a b ↔ collate a.id = collate b.id :=
  le_antisymm_iff.symm

theorem events_tie_iff (a b : ReplayEventInput) : StableSort.Ties (EventBefore collate) a b ↔
    collate a.atIso = collate b.atIso ∧ collate a.id = collate b.id := by
  unfold StableSort.Ties
  rw [eventBefore_iff, eventBefore_iff, ← le_antisymm_iff]
  simp

def Rearranged (event event' : ReplayEventInput) : Prop :=
  ∃ closed, closed.Perm event.closed ∧
    event' = { event with closedInvoices := event.closedInvoices.map fun _ => closed }

/-- The same events in another order, and so the closed invoices of each. -/
def Shuffled (events events' : List ReplayEventInput) : Prop :=
  ∃ rearranged, List.Forall₂ Rearranged events rearranged ∧ events'.Perm rearranged

def OrderFree (collate : String → Key) (sha256 : String → String)
    (invoices : List ReplayInvoiceInput) (events : List ReplayEventInput) : Prop :=
  ∀ invoices' events', invoices'.Perm invoices → Shuffled events events' →
    replayStatementProjection collate invoices' events' =
        replayStatementProjection collate invoices events ∧
      canonicalHash sha256 (replayStatementProjection collate invoices' events').toValue =
        canonicalHash sha256 (replayStatementProjection collate invoices events).toValue

structure OrderDetermined (collate : String → Key) (invoices : List ReplayInvoiceInput)
    (events : List ReplayEventInput) : Prop where
  invoiceTies : ∀ a ∈ invoices, ∀ b ∈ invoices, collate a.id = collate b.id →
    replayInvoice a = replayInvoice b
  eventTies : ∀ a ∈ events, ∀ b ∈ events,
    collate a.atIso = collate b.atIso ∧ collate a.id = collate b.id → replayEvent a = replayEvent b
  closedAlike : ∀ event ∈ events, ∀ a ∈ event.closed, ∀ b ∈ event.closed,
    replayClosedInvoice a = replayClosedInvoice b

theorem closedInvoicesTotal_eq (event : ReplayEventInput) :
    closedInvoicesTotal event = tally ClosedInvoiceInput.totalKd event.closed := by
  have hfold : ∀ (invoices : List ClosedInvoiceInput) (acc : ℚ),
      invoices.foldl (fun acc invoice => acc + invoice.totalKd) acc =
        acc + tally ClosedInvoiceInput.totalKd invoices := by
    intro invoices
    induction invoices with
    | nil => simp
    | cons invoice rest ih =>
        intro acc
        rw [foldl_cons, ih, tally_cons, add_assoc]
  rw [closedInvoicesTotal, hfold, zero_add]

variable {event event' : ReplayEventInput}

theorem Rearranged.replayEvent_eq_iff (hrearranged : Rearranged event event') :
    replayEvent event' = replayEvent event ↔
      event'.closed.map replayClosedInvoice = event.closed.map replayClosedInvoice := by
  obtain ⟨closed, hperm, rfl⟩ := hrearranged
  have htotal : closedInvoicesTotal { event with
      closedInvoices := event.closedInvoices.map fun _ => closed } = closedInvoicesTotal event := by
    rw [closedInvoicesTotal_eq, closedInvoicesTotal_eq]
    apply tally_perm
    cases hclosed : event.closedInvoices with
    | none => simp [ReplayEventInput.closed, hclosed]
    | some _ => simpa [ReplayEventInput.closed, hclosed] using hperm
  constructor
  · intro hsame
    exact congrArg ReplayedEvent.closedInvoices hsame
  · intro hclosed
    simp only [replayEvent, computeCanonicalStatementEventProjection, htotal, hclosed]

theorem Rearranged.keys (hrearranged : Rearranged event event') :
    event'.atIso = event.atIso ∧ event'.id = event.id := by
  obtain ⟨closed, _, rfl⟩ := hrearranged
  exact ⟨rfl, rfl⟩

theorem rearranged_refl (event : ReplayEventInput) : Rearranged event event := by
  refine ⟨event.closed, .refl _, ?_⟩
  rcases event with ⟨id, atIso, kind, amount, balance, debt, settled, discount, closed⟩
  cases closed <;> rfl

variable {events : List ReplayEventInput} {invoices : List ReplayInvoiceInput}

theorem shuffled_of_perm {events' : List ReplayEventInput} (hperm : events'.Perm events) :
    Shuffled events events' :=
  ⟨events, forall₂_same.2 fun event _ => rearranged_refl event, hperm⟩

def ReplayedBefore (collate : String → Key) (a b : ReplayedEvent) : Prop :=
  toLex (collate a.atIso, collate a.id) ≤ toLex (collate b.atIso, collate b.id)
  deriving Decidable

theorem map_sorted_events (events : List ReplayEventInput) :
    (events.insertionSort (EventBefore collate)).map replayEvent =
      (events.map replayEvent).insertionSort (ReplayedBefore collate) :=
  map_insertionSort _ _ _ _ fun a _ b _ => eventBefore_iff a b

theorem sorted_of_invoices {invoices' : List ReplayInvoiceInput}
    (hties : ∀ a ∈ invoices, ∀ b ∈ invoices, collate a.id = collate b.id →
      replayInvoice a = replayInvoice b) (hperm : invoices'.Perm invoices) :
    (invoices'.insertionSort (InvoiceBefore collate)).map replayInvoice =
      (invoices.insertionSort (InvoiceBefore collate)).map replayInvoice := by
  refine (StableSort.map_insertionSort_perm_iff ?_ invoices).2 ?_ invoices' hperm
  · intro a b hsame
    rw [invoices_tie_iff]
    exact congrArg collate (congrArg ReplayedInvoice.id hsame)
  · intro a ha b hb htie
    exact hties a ha b hb ((invoices_tie_iff a b).1 htie)

theorem events_tie_of_replayed {a b : ReplayEventInput} (hsame : replayEvent a = replayEvent b) :
    StableSort.Ties (EventBefore collate) a b := by
  rw [events_tie_iff]
  exact ⟨congrArg collate (congrArg ReplayedEvent.atIso hsame),
    congrArg collate (congrArg ReplayedEvent.id hsame)⟩

theorem Rearranged.replayEvent_eq (hrearranged : Rearranged event event')
    (hclosed : ∀ a ∈ event.closed, ∀ b ∈ event.closed,
      replayClosedInvoice a = replayClosedInvoice b) : replayEvent event' = replayEvent event := by
  rw [hrearranged.replayEvent_eq_iff]
  obtain ⟨closed, hperm, rfl⟩ := hrearranged
  cases hsome : event.closedInvoices with
  | none => simp [ReplayEventInput.closed, hsome]
  | some _ =>
      have hevery := (StableSort.map_perm_iff replayClosedInvoice event.closed).2 hclosed closed hperm
      simpa [ReplayEventInput.closed, hsome] using hevery

theorem OrderDetermined.orderFree {sha256 : String → String}
    (hdetermined : OrderDetermined collate invoices events) :
    OrderFree collate sha256 invoices events := by
  rintro invoices' events' hinvoices ⟨rearranged, hforall, hperm⟩
  have hprinted : rearranged.map replayEvent = events.map replayEvent := by
    have hpairs := hforall
    rw [forall₂_iff_get] at hpairs
    apply ext_get
    · simpa using hpairs.1.symm
    · intro place hplace hplace'
      simp only [get_eq_getElem, getElem_map]
      simp only [length_map] at hplace hplace'
      exact (hpairs.2 place hplace' hplace).replayEvent_eq
        (hdetermined.closedAlike _ (getElem_mem hplace'))
  have hevents : (events'.insertionSort (EventBefore collate)).map replayEvent =
      (events.insertionSort (EventBefore collate)).map replayEvent := by
    -- both are sorts of what is printed, by an order that decides up to equal prints
    have hsorted : (rearranged.insertionSort (EventBefore collate)).map replayEvent =
        (events.insertionSort (EventBefore collate)).map replayEvent := by
      rw [map_sorted_events, map_sorted_events, hprinted]
    rw [← hsorted]
    refine (StableSort.map_insertionSort_perm_iff (fun _ _ => events_tie_of_replayed) rearranged).2
      ?_ events' hperm
    intro a ha b hb htie
    have hsource : ∀ c ∈ rearranged, ∃ event ∈ events, replayEvent c = replayEvent event := by
      intro c hc
      have hmem : replayEvent c ∈ events.map replayEvent := hprinted ▸ mem_map_of_mem hc
      obtain ⟨event, hevent, heq⟩ := mem_map.1 hmem
      exact ⟨event, hevent, heq.symm⟩
    obtain ⟨first, hfirst, hfirstEq⟩ := hsource a ha
    obtain ⟨second, hsecond, hsecondEq⟩ := hsource b hb
    have htieSource : StableSort.Ties (EventBefore collate) first second :=
      ((events_tie_of_replayed hfirstEq).symm.trans htie).trans (events_tie_of_replayed hsecondEq)
    rw [hfirstEq, hsecondEq]
    exact hdetermined.eventTies first hfirst second hsecond ((events_tie_iff first second).1 htieSource)
  have hprojection : replayStatementProjection collate invoices' events' =
      replayStatementProjection collate invoices events := by
    simp only [replayStatementProjection, hevents, sorted_of_invoices hdetermined.invoiceTies hinvoices]
  exact ⟨hprojection, by rw [hprojection]⟩

theorem OrderFree.orderDetermined {sha256 : String → String}
    (hfree : OrderFree collate sha256 invoices events) :
    OrderDetermined collate invoices events := by
  classical
  refine ⟨?_, ?_, ?_⟩
  · intro a ha b hb hties
    refine (StableSort.map_insertionSort_perm_iff ?_ invoices).1 (fun invoices' hperm => ?_) a ha b hb
      ((invoices_tie_iff a b).2 hties)
    · intro a b hsame
      rw [invoices_tie_iff]
      exact congrArg collate (congrArg ReplayedInvoice.id hsame)
    · exact congrArg ReplayedStatementProjection.invoices
        (hfree invoices' events hperm (shuffled_of_perm (.refl _))).1
  · intro a ha b hb hties
    refine (StableSort.map_insertionSort_perm_iff (fun _ _ => events_tie_of_replayed) events).1
      (fun events' hperm => ?_) a ha b hb ((events_tie_iff a b).2 hties)
    exact congrArg ReplayedStatementProjection.events
      (hfree invoices events' (.refl _) (shuffled_of_perm hperm)).1
  · intro event hevent
    refine (StableSort.map_perm_iff replayClosedInvoice event.closed).1 fun closed hperm => ?_
    -- only this event is rearranged
    let event' : ReplayEventInput :=
      { event with closedInvoices := event.closedInvoices.map fun _ => closed }
    have hrearranged : Rearranged event event' := ⟨closed, hperm, rfl⟩
    let change : ReplayEventInput → ReplayEventInput :=
      fun other => if other = event then event' else other
    have hchange : ∀ other, Rearranged other (change other) := by
      intro other
      by_cases hother : other = event
      · simp only [change, hother]
        exact hrearranged
      · simp only [change, if_neg hother]
        exact rearranged_refl other
    have hsame := congrArg ReplayedStatementProjection.events
      (hfree invoices (events.map change) (.refl _)
        ⟨events.map change, forall₂_map_right_iff.2 (forall₂_same.2 fun other _ =>
          hchange other), .refl _⟩).1
    have hsort : (events.map change).insertionSort (EventBefore collate) =
        (events.insertionSort (EventBefore collate)).map change := by
      refine (map_insertionSort _ _ _ _ fun a _ b _ => ?_).symm
      rw [eventBefore_iff, eventBefore_iff, (hchange a).keys.1, (hchange a).keys.2,
        (hchange b).keys.1, (hchange b).keys.2]
    simp only [replayStatementProjection, hsort, map_map] at hsame
    have hprint := map_inj_left.1 hsame event ((mem_insertionSort _).2 hevent)
    have hself : change event = event' := if_pos rfl
    rw [Function.comp, hself, hrearranged.replayEvent_eq_iff] at hprint
    cases hsome : event.closedInvoices with
    | none =>
        have hnil : event.closed = [] := by simp [ReplayEventInput.closed, hsome]
        rw [hnil] at hperm ⊢
        rw [perm_nil.1 hperm]
    | some _ => simpa [event', ReplayEventInput.closed, hsome] using hprint

/-! ## Replaying what was replayed -/

def ReplayedInvoice.toInput (invoice : ReplayedInvoice) : ReplayInvoiceInput :=
  ⟨invoice.id, invoice.totalKd.value, invoice.status, invoice.openDebt⟩

def ReplayedClosedInvoice.toInput (invoice : ReplayedClosedInvoice) : ClosedInvoiceInput :=
  ⟨invoice.id, invoice.totalKd.value⟩

def ReplayedEvent.toInput (event : ReplayedEvent) : ReplayEventInput where
  id := event.id
  atIso := event.atIso
  kind := event.kind
  amountKd := event.amountKd.value
  balanceAfterKd := event.balanceAfterKd.value
  debtAfterKd := event.debtAfterKd.value
  debtSettledKd := event.debtSettledKd.value
  debtDiscountKd := event.debtDiscountKd.value
  closedInvoices := some (event.closedInvoices.map ReplayedClosedInvoice.toInput)

def FixedPoint (collate : String → Key) (invoices : List ReplayInvoiceInput)
    (events : List ReplayEventInput) : Prop :=
  let projection := replayStatementProjection collate invoices events
  replayStatementProjection collate (projection.invoices.map ReplayedInvoice.toInput)
    (projection.events.map ReplayedEvent.toInput) = projection

def rounded (amount : ℚ) : ℚ := ofMinor (toMinor amount)

def Vanishes (amount : ℚ) : Prop := amount < 0 ∧ toMinor amount = 0

theorem toMinor_nonneg {amount : ℚ} (hamount : 0 ≤ amount) : 0 ≤ toMinor amount :=
  Decimal.roundHalfAway_nonneg (by linarith)

theorem toMinor_nonpos {amount : ℚ} (hamount : amount < 0) : toMinor amount ≤ 0 := by
  unfold toMinor Decimal.roundHalfAway
  rw [if_neg (by linarith)]
  have hfloor : 0 ≤ ⌊-(amount * 10000) + 1 / 2⌋ := Int.floor_nonneg.2 (by linarith)
  omega

theorem value_stableDecimal (amount : ℚ) : (stableDecimal amount).value = rounded amount := by
  unfold StableDecimal.value stableDecimal rounded
  by_cases hamount : amount < 0
  · have hminor := toMinor_nonpos hamount
    rw [decide_eq_true hamount, if_pos rfl]
    congr 1
    change -((toMinor amount).natAbs : ℤ) = toMinor amount
    omega
  · have hminor := toMinor_nonneg (not_lt.1 hamount)
    rw [decide_eq_false hamount, if_neg Bool.false_ne_true]
    congr 1
    change ((toMinor amount).natAbs : ℤ) = toMinor amount
    omega

theorem rounded_neg_iff (amount : ℚ) : rounded amount < 0 ↔ toMinor amount < 0 := by
  unfold rounded ofMinor
  rw [div_neg_iff]
  norm_num

theorem rounded_pos_iff (amount : ℚ) : 0 < rounded amount ↔ 0 < toMinor amount := by
  unfold rounded ofMinor
  rw [div_pos_iff]
  norm_num

theorem stableDecimal_rounded_iff (amount : ℚ) :
    stableDecimal (rounded amount) = stableDecimal amount ↔ ¬ Vanishes amount := by
  have hminor : toMinor (rounded amount) = toMinor amount := toMinor_ofMinor _
  unfold stableDecimal Vanishes
  rw [hminor, StableDecimal.mk.injEq, and_iff_left rfl, decide_eq_decide, rounded_neg_iff]
  constructor
  · rintro hsign ⟨hamount, hzero⟩
    exact absurd (hsign.2 hamount) (by omega)
  · intro hkept
    constructor
    · intro hneg
      by_contra hamount
      have hnonneg := toMinor_nonneg (not_lt.1 hamount)
      omega
    · intro hamount
      have hnonpos := toMinor_nonpos hamount
      have hnonzero : toMinor amount ≠ 0 := fun hzero => hkept ⟨hamount, hzero⟩
      omega

theorem neg_rounded_iff {amount : ℚ} (hkept : ¬ Vanishes amount) :
    rounded amount < 0 ↔ amount < 0 := by
  have hstable := congrArg StableDecimal.negative ((stableDecimal_rounded_iff amount).2 hkept)
  exact decide_eq_decide.1 hstable

def Shrinks (amount : ℚ) : Prop := 0 < amount ∧ toMinor amount = 0

theorem pos_rounded_iff (amount : ℚ) : (0 < rounded amount ↔ 0 < amount) ↔ ¬ Shrinks amount := by
  rw [rounded_pos_iff]
  constructor
  · rintro hsign ⟨hamount, hzero⟩
    exact absurd (hsign.2 hamount) (by omega)
  · intro hkept
    constructor
    · intro hpos
      by_contra hamount
      rcases (not_lt.1 hamount).lt_or_eq with hneg | hzero
      · have hnonpos := toMinor_nonpos hneg
        omega
      · rw [hzero] at hpos
        exact absurd hpos (by decide +kernel)
    · intro hamount
      have hnonneg := toMinor_nonneg hamount.le
      have hnonzero : toMinor amount ≠ 0 := fun hzero => hkept ⟨hamount, hzero⟩
      omega

def ReplayEventInput.amounts (event : ReplayEventInput) : List ℚ :=
  [event.amountKd, event.balanceAfterKd, event.debtAfterKd, event.debtSettledKd,
    event.debtDiscountKd] ++ event.closed.map ClosedInvoiceInput.totalKd

/-- The digits behind the fourth decimal decide nothing about an event. -/
structure RoundingSettled (event : ReplayEventInput) : Prop where
  signs : ∀ amount ∈ event.amounts, ¬ Vanishes amount
  settled : ¬ Shrinks event.debtSettledKd
  discount : ¬ Shrinks event.debtDiscountKd
  debt : stableDecimal (rounded event.debtAfterKd +
      negativeBalanceDebt (rounded event.balanceAfterKd)) =
    stableDecimal (event.debtAfterKd + negativeBalanceDebt event.balanceAfterKd)
  closedTotal : stableDecimal (tally (fun invoice => rounded invoice.totalKd) event.closed) =
    stableDecimal (tally ClosedInvoiceInput.totalKd event.closed)

theorem replayInvoice_toInput_iff (invoice : ReplayInvoiceInput) :
    replayInvoice (replayInvoice invoice).toInput = replayInvoice invoice ↔
      ¬ Vanishes invoice.totalKd := by
  rw [← stableDecimal_rounded_iff, ← value_stableDecimal]
  constructor
  · intro hsame
    exact congrArg ReplayedInvoice.totalKd hsame
  · intro hsame
    simp only [replayInvoice, ReplayedInvoice.toInput, hsame, canonicalStatementInvoiceGroup]

theorem toInput_replayEvent (event : ReplayEventInput) : (replayEvent event).toInput =
    { event with
      amountKd := rounded event.amountKd
      balanceAfterKd := rounded event.balanceAfterKd
      debtAfterKd := rounded event.debtAfterKd
      debtSettledKd := rounded event.debtSettledKd
      debtDiscountKd := rounded event.debtDiscountKd
      closedInvoices := some (event.closed.map fun invoice =>
        ⟨invoice.id, rounded invoice.totalKd⟩) } := by
  simp only [ReplayedEvent.toInput, replayEvent, value_stableDecimal, map_map]
  congr 2
  apply map_congr_left
  intro invoice _
  simp [ReplayedClosedInvoice.toInput, replayClosedInvoice, value_stableDecimal]

theorem replayEvent_toInput_iff (event : ReplayEventInput) :
    replayEvent (replayEvent event).toInput = replayEvent event ↔ RoundingSettled event := by
  have hclosedTotal : ∀ closed : List ClosedInvoiceInput, tally ClosedInvoiceInput.totalKd
      (closed.map fun invoice => ⟨invoice.id, rounded invoice.totalKd⟩) =
        tally (fun invoice => rounded invoice.totalKd) closed := fun closed =>
    tally_map ClosedInvoiceInput.totalKd (fun invoice : ClosedInvoiceInput =>
      (⟨invoice.id, rounded invoice.totalKd⟩ : ClosedInvoiceInput)) closed
  have hclosedList : (event.closed.map fun invoice : ClosedInvoiceInput =>
      (⟨invoice.id, rounded invoice.totalKd⟩ : ClosedInvoiceInput)).map replayClosedInvoice =
        event.closed.map replayClosedInvoice ↔
      ∀ invoice ∈ event.closed, ¬ Vanishes invoice.totalKd := by
    rw [map_map, map_inj_left]
    apply forall₂_congr
    intro invoice _
    rw [← stableDecimal_rounded_iff]
    simp [replayClosedInvoice]
  rw [toInput_replayEvent]
  simp only [replayEvent, computeCanonicalStatementEventProjection, closedInvoicesTotal_eq,
    ReplayEventInput.closed, Option.getD_some, ReplayedEvent.mk.injEq, true_and,
    CanonicalStatementEventProjection.mk.injEq, decide_eq_decide] at hclosedList ⊢
  rw [hclosedList, hclosedTotal, stableDecimal_rounded_iff, stableDecimal_rounded_iff,
    stableDecimal_rounded_iff, stableDecimal_rounded_iff, stableDecimal_rounded_iff,
    pos_rounded_iff, pos_rounded_iff]
  constructor
  · rintro ⟨hamount, hbalance, hdebt, hsettled, hdiscount, hclosed, _, heffective, hdiscountSign,
      hsettledSign, htotal⟩
    refine ⟨?_, hsettledSign, hdiscountSign, heffective, htotal⟩
    intro amount hmem
    simp only [ReplayEventInput.amounts, mem_append, mem_cons, mem_map,
      not_mem_nil, or_false] at hmem
    rcases hmem with (rfl | rfl | rfl | rfl | rfl) | ⟨invoice, hinvoice, rfl⟩
    · exact hamount
    · exact hbalance
    · exact hdebt
    · exact hsettled
    · exact hdiscount
    · exact hclosed invoice hinvoice
  · intro hsettled
    have hsigns := hsettled.signs
    simp only [ReplayEventInput.amounts, mem_append, mem_cons, mem_map,
      not_mem_nil, or_false] at hsigns
    have hamount : ¬ Vanishes event.amountKd := hsigns _ (.inl (.inl rfl))
    refine ⟨hamount, hsigns _ (.inl (.inr (.inl rfl))), hsigns _ (.inl (.inr (.inr (.inl rfl)))),
      hsigns _ (.inl (.inr (.inr (.inr (.inl rfl))))),
      hsigns _ (.inl (.inr (.inr (.inr (.inr rfl))))),
      fun invoice hinvoice => hsigns _ (.inr ⟨invoice, hinvoice, rfl⟩), ?_, hsettled.debt,
      hsettled.discount, hsettled.settled, hsettled.closedTotal⟩
    rw [neg_rounded_iff hamount]

theorem insertionSort_map_sorted {α : Type} {before : α → α → Prop} [DecidableRel before]
    [Std.Total before] [IsTrans α before] (again : α → α)
    (hagain : ∀ a b, before a b → before (again a) (again b)) (rows : List α) :
    ((rows.insertionSort before).map again).insertionSort before =
      (rows.insertionSort before).map again := by
  apply List.Pairwise.insertionSort_eq
  rw [pairwise_map]
  exact (pairwise_insertionSort before rows).imp fun {a b} => hagain a b

theorem fixedPoint_iff (invoices : List ReplayInvoiceInput) (events : List ReplayEventInput) :
    FixedPoint collate invoices events ↔
      (∀ invoice ∈ invoices, ¬ Vanishes invoice.totalKd) ∧ ∀ event ∈ events, RoundingSettled event := by
  have hinvoices : ((invoices.insertionSort (InvoiceBefore collate)).map
      (ReplayedInvoice.toInput ∘ replayInvoice)).insertionSort (InvoiceBefore collate) =
        (invoices.insertionSort (InvoiceBefore collate)).map
          (ReplayedInvoice.toInput ∘ replayInvoice) :=
    insertionSort_map_sorted (ReplayedInvoice.toInput ∘ replayInvoice)
      (fun _ _ hbefore => hbefore) invoices
  have hevents : ((events.insertionSort (EventBefore collate)).map
      (ReplayedEvent.toInput ∘ replayEvent)).insertionSort (EventBefore collate) =
        (events.insertionSort (EventBefore collate)).map (ReplayedEvent.toInput ∘ replayEvent) :=
    insertionSort_map_sorted (ReplayedEvent.toInput ∘ replayEvent)
      (fun _ _ hbefore => hbefore) events
  simp only [FixedPoint, replayStatementProjection, map_map, hinvoices, hevents,
    ReplayedStatementProjection.mk.injEq]
  have hinvoiceList : (invoices.insertionSort (InvoiceBefore collate)).map
      (replayInvoice ∘ ReplayedInvoice.toInput ∘ replayInvoice) =
        (invoices.insertionSort (InvoiceBefore collate)).map replayInvoice ↔
      ∀ invoice ∈ invoices, ¬ Vanishes invoice.totalKd := by
    rw [map_inj_left]
    simp only [mem_insertionSort, Function.comp, replayInvoice_toInput_iff]
  have heventList : (events.insertionSort (EventBefore collate)).map
      (replayEvent ∘ ReplayedEvent.toInput ∘ replayEvent) =
        (events.insertionSort (EventBefore collate)).map replayEvent ↔
      ∀ event ∈ events, RoundingSettled event := by
    rw [map_inj_left]
    simp only [mem_insertionSort, Function.comp, replayEvent_toInput_iff]
  rw [heventList]
  constructor
  · rintro ⟨hsame, hsettled, _⟩
    exact ⟨hinvoiceList.1 hsame, hsettled⟩
  · rintro ⟨hkept, hsettled⟩
    have hsame := hinvoiceList.2 hkept
    exact ⟨hsame, hsettled, by rw [hsame]⟩

/-- Projection and hash do not depend on the order of the rows exactly if tying rows and the
closed invoices of an event print the same; the projection is a fixed point exactly if the
digits behind the fourth decimal decide nothing; and the hashes of two values that stand for
the same state are the same exactly if no field was left out. -/
theorem canonicalReplay_iff (collate : String → Key) {sha256 : String → String}
    (invoices : List ReplayInvoiceInput) (events : List ReplayEventInput)
    {first second : CanonicalValue}
    (hsteps : Relation.ReflTransGen CanonicalValue.Restates first second)
    (hdigest : ∀ text text', canonicalJsonStringify first = .ok text →
      canonicalJsonStringify second = .ok text' → sha256 text = sha256 text' → text = text') :
    (OrderFree collate sha256 invoices events ↔ OrderDetermined collate invoices events) ∧
    (FixedPoint collate invoices events ↔
      (∀ invoice ∈ invoices, ¬ Vanishes invoice.totalKd) ∧ ∀ event ∈ events, RoundingSettled event) ∧
    (canonicalHash sha256 first = canonicalHash sha256 second ↔
      first.refused = true ∨ second.fieldCount = first.fieldCount) :=
  ⟨⟨OrderFree.orderDetermined, OrderDetermined.orderFree⟩, fixedPoint_iff invoices events,
    CanonicalValue.canonicalHash_eq_iff hsteps hdigest⟩

end Order

namespace Sample

def closingEvent (first second : ClosedInvoiceInput) : ReplayEventInput :=
  ⟨"e-1", "2026-05-01T00:00:00.000Z", "SUBSCRIPTION_ACTIVATION", 3, 0, 0, 3, 0, some [first, second]⟩

def fineSettlement : ReplayEventInput :=
  ⟨"e-1", "2026-05-01T00:00:00.000Z", "DEBT_SETTLEMENT", 1, 0, 0, 1 / 25000, 0, none⟩

theorem note_dropped : Relation.ReflTransGen CanonicalValue.Restates
    (.object [("totalKd", .string "3.2500"), ("note", .null)])
    (.object [("totalKd", .string "3.2500")]) :=
  .single (@CanonicalValue.Restates.leaveOut [("totalKd", .string "3.2500")] [] "note" .null
    (by decide) (.inl rfl))

def openInvoice : ReplayInvoiceInput := ⟨"inv-1", 3, "OPEN", true⟩

def laterSettlement : ReplayEventInput :=
  ⟨"e-2", "2026-05-02T00:00:00.000Z", "DEBT_SETTLEMENT", 2, 0, 0, 2, 0, none⟩

def replayDigest (text : String) : String :=
  if text = "\x7b\"note\":null,\"totalKd\":\"3.2500\"\x7d" then
    "ebb867ac73cb02a942db55ffa0a0d13a3271d91b0e63f56cba859245ce4874e5"
  else if text = "\x7b\"totalKd\":\"3.2500\"\x7d" then
    "2bb56d09c1bd1fada0fc91b48e7a593cdc42042b3ac35e0e77519110514c8e2a"
  else "e3b0c44298fc1c149afbf4c8996fb92427ae41e4649b934ca495991b7852b855"

end Sample

theorem canonicalReplay_iff_sample :
    OrderFree id Sample.replayDigest [Sample.openInvoice]
        [Sample.fineSettlement, Sample.laterSettlement] ∧
      (FixedPoint id [Sample.openInvoice] [Sample.fineSettlement, Sample.laterSettlement] ↔
        (∀ invoice ∈ [Sample.openInvoice], ¬ Vanishes invoice.totalKd) ∧
          ∀ event ∈ [Sample.fineSettlement, Sample.laterSettlement], RoundingSettled event) ∧
      canonicalHash Sample.replayDigest (.object [("totalKd", .string "3.2500"), ("note", .null)]) ≠
        canonicalHash Sample.replayDigest (.object [("totalKd", .string "3.2500")]) := by
  have hdigest : ∀ text text',
      canonicalJsonStringify (.object [("totalKd", .string "3.2500"), ("note", .null)]) = .ok text →
      canonicalJsonStringify (.object [("totalKd", .string "3.2500")]) = .ok text' →
      Sample.replayDigest text = Sample.replayDigest text' → text = text' := by
    intro text text' htext htext'
    cases htext
    cases htext'
    decide +kernel
  obtain ⟨horder, hfixed, hhash⟩ := canonicalReplay_iff id [Sample.openInvoice]
    [Sample.fineSettlement, Sample.laterSettlement] Sample.note_dropped hdigest
  refine ⟨horder.2 ⟨by decide +kernel, by decide +kernel, by decide +kernel⟩, hfixed, ?_⟩
  rw [Ne, hhash]
  decide +kernel

theorem canonicalReplay_fails :
    replayStatementProjection id [] [Sample.closingEvent ⟨"inv-1", 1⟩ ⟨"inv-2", 2⟩] ≠
        replayStatementProjection id [] [Sample.closingEvent ⟨"inv-2", 2⟩ ⟨"inv-1", 1⟩] ∧
      ¬ FixedPoint id [] [Sample.fineSettlement] ∧
      canonicalHash Sample.replayDigest (.object [("totalKd", .string "3.2500"), ("note", .null)]) ≠
        canonicalHash Sample.replayDigest (.object [("totalKd", .string "3.2500")]) := by
  refine ⟨?_, ?_, ?_⟩
  · decide +kernel
  · unfold FixedPoint
    decide +kernel
  · decide +kernel

end SafariLaundry
