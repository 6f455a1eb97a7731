import SafariLaundry.GatewayFrame

/-!
# The public payment endpoints

The webhook, the status poll and the recheck need no login.  Each picks an
inquiry id out of its request, asks the gateway and finalizes; the status poll
also finalizes on the result word of the request itself.  What the regular
expressions find in the raw url, the referer and the hosted payment url is taken
as found.
-/

namespace SafariLaundry

open Library Library.Transaction

structure PaymentSite where
  gateway : Gateway
  hostedUrlInquiryId : String → Option String

def firstText (texts : List (Option String)) : Option String :=
  texts.findSome? trimmed

def withGatewayTrackId (trackId : String) (order : Order) : Order :=
  { order with posGatewayTrackId := some trackId }

theorem withGatewayTrackId_id (trackId : String) (order : Order) :
    (withGatewayTrackId trackId order).id = order.id := rfl

def KeepsStoredId (orderId : Uuid) (trackId : String) (db : Db) : Prop :=
  ∃ stored ∈ (trimmed ((db.orders.find? orderId).bind Order.posGatewayTrackId)).toList,
    stored = trackId ∨ isSessionId stored = false
  deriving Decidable

def attachGatewayTrackIdToOrder (orderId : Option Uuid) (trackId : Option String) :
    Tx Unit :=
  match parseSafariOrderUuid orderId, validInquiryId trackId with
  | some cleanOrderId, some cleanTrackId => do
      let keeps ← reads fun db => decide (KeepsStoredId cleanOrderId cleanTrackId db)
      whenever (keeps = false)
        (updateOrder cleanOrderId (withGatewayTrackId cleanTrackId)
          (withGatewayTrackId_id cleanTrackId))
  | _, _ => pure ()

def attached (orderId : Option Uuid) (trackId : Option String) (db : Db) : Db :=
  match parseSafariOrderUuid orderId, validInquiryId trackId with
  | some cleanOrderId, some cleanTrackId =>
      if KeepsStoredId cleanOrderId cleanTrackId db then db
      else { db with
        orders := db.orders.update cleanOrderId (withGatewayTrackId cleanTrackId)
          (withGatewayTrackId_id cleanTrackId) }
  | _, _ => db

theorem commits_attachGatewayTrackIdToOrder {orderId : Option Uuid}
    {trackId : Option String} {db db' : Db}
    (hcommits : (attachGatewayTrackIdToOrder orderId trackId).Commits db () db') :
    db' = attached orderId trackId db := by
  unfold attachGatewayTrackIdToOrder at hcommits
  unfold attached
  cases hid : parseSafariOrderUuid orderId with
  | none =>
      simp only [hid, commits_pure] at hcommits
      exact hcommits.2.symm
  | some cleanOrderId =>
      cases htrack : validInquiryId trackId with
      | none =>
          simp only [hid, htrack, commits_pure] at hcommits
          exact hcommits.2.symm
      | some cleanTrackId =>
          simp only [hid, htrack, commits_bind, commits_reads, commits_whenever,
            updateOrder, commits_fetch, commits_modify] at hcommits ⊢
          obtain ⟨_, _, ⟨rfl, rfl⟩, hupdate⟩ := hcommits
          by_cases hkeeps : KeepsStoredId cleanOrderId cleanTrackId db
          · rw [if_pos hkeeps]
            simpa [hkeeps, eq_comm] using hupdate
          · rw [if_neg hkeeps]
            simp only [hkeeps, decide_false, true_and, not_true_eq_false, false_and,
              or_false] at hupdate
            obtain ⟨_, _, ⟨_, rfl⟩, hmodified⟩ := hupdate
            exact hmodified

/-! ## The webhook -/

structure PaymentCallbackDto where
  (track_id trackId TrackID trans_id transId tran_id tranId orderId : Option String)
  (requested_order_id order_id invoice_id receipt_id ref reference : Option String)
  (customerExtraData trn_udf paymentId payment_id result : Option String)

def PaymentCallbackDto.namedOrder (body : PaymentCallbackDto) : Option Uuid :=
  ([body.orderId, body.requested_order_id, body.order_id, body.invoice_id,
      body.receipt_id].findSome? parseSafariOrderUuid).orElse fun _ =>
    ([body.ref, body.reference].findSome? tryOrderIdFromUpaymentsCompactRef).orElse fun _ =>
      [body.customerExtraData, body.trn_udf].findSome? extractOrderIdFromExtraData

def PaymentCallbackDto.callbackTrackId (body : PaymentCallbackDto) : Option String :=
  firstText [body.track_id, body.trackId, body.TrackID]

def PaymentCallbackDto.gatewayInquiryId (body : PaymentCallbackDto) (db : Db) :
    Option String :=
  ((firstText [body.track_id, body.trackId, body.TrackID, body.trans_id, body.transId,
      body.tran_id, body.tranId]).filter isValidInquiryId).orElse fun _ =>
    body.namedOrder.bind fun orderId =>
      validInquiryId ((db.orders.find? orderId).bind Order.posGatewayTrackId)

theorem validInquiryId_valid {raw : Option String} {id : String}
    (hvalid : validInquiryId raw = some id) :
    isValidInquiryId id = true := by
  unfold validInquiryId at hvalid
  exact (Option.filter_eq_some_iff.1 hvalid).2

theorem gatewayInquiryId_valid {body : PaymentCallbackDto} {db : Db} {id : String}
    (hid : body.gatewayInquiryId db = some id) :
    isValidInquiryId id = true := by
  unfold PaymentCallbackDto.gatewayInquiryId at hid
  cases hbody : (firstText [body.track_id, body.trackId, body.TrackID, body.trans_id,
      body.transId, body.tran_id, body.tranId]).filter isValidInquiryId with
  | some named =>
      rw [hbody] at hid
      obtain rfl := Option.some.inj hid
      exact (Option.filter_eq_some_iff.1 hbody).2
  | none =>
      rw [hbody] at hid
      obtain ⟨orderId, _, hvalid⟩ := Option.bind_eq_some_iff.1 hid
      exact validInquiryId_valid hvalid

def callbackReference (data : InquiryData) : Option Uuid :=
  (parseSafariOrderUuid data.orderId).orElse fun _ =>
    (extractOrderIdFromExtraData data.customerExtraData).orElse fun _ =>
      (tryOrderIdFromUpaymentsCompactRef data.orderReference).orElse fun _ =>
        tryOrderIdFromUpaymentsCompactRef data.reference

structure CallbackResponse where
  orderId : Option Uuid
  success : Bool
  reason : Option String

def resolveCallbackOrder (id : String) (body : PaymentCallbackDto) (data : InquiryData)
    (db : Db) : Except CallbackResponse Order :=
  let linked := findOrderByTrackId id db
  let resolved := (callbackReference data).orElse fun _ =>
    linked.orElse fun _ => body.namedOrder
  match resolved with
  | none => .error ⟨none, false, some "order-not-found"⟩
  | some orderId =>
      match db.orders.find? orderId with
      | none => .error ⟨some orderId, false, some "order-not-found"⟩
      | some order =>
          if (callbackReference data).any (fun other => other ≠ order.id) = true then
            .error ⟨some order.id, false, some "order-mismatch"⟩
          else if linked.any (fun other => other ≠ order.id) = true then
            .error ⟨some order.id, false, some "track-order-mismatch"⟩
          else .ok order

def callbackMetadata (id : String) (body : PaymentCallbackDto) (data : InquiryData)
    (order : Order) : FinalizeMetadata where
  provider := "upayments"
  devMock := false
  trackId := some id
  paymentId := data.paymentId.orElse fun _ => body.paymentId.orElse fun _ => body.payment_id
  tranId := data.transactionId.orElse fun _ => body.tranId.orElse fun _ => body.tran_id
  result := data.result.orElse fun _ => body.result
  amount := .fils (toFils order.totalPrice)
  currency := none

def blockedReason (answer : InquiryAnswer) (order : Order) : Option String :=
  if answer.Captured ∧ answer.ok = true then
    match parseKwdMinor answer.data.amount with
    | none => some "amount-missing"
    | some amount =>
        if amount = toFils order.totalPrice then none else some "amount-mismatch"
  else none

def callbackResponse (answer : InquiryAnswer) (order : Order) : CallbackResponse where
  orderId := some order.id
  success := decide (answer.Captured ∨ order.Paid)
  reason := blockedReason answer order

/-- What the webhook does with an answer: neither `ok` nor the amount is asked. -/
def settleCallback (env : Env) (id : String) (body : PaymentCallbackDto)
    (answer : InquiryAnswer) : Tx CallbackResponse := do
  let resolution ← reads (resolveCallbackOrder id body answer.data)
  match resolution with
  | .error response => pure response
  | .ok order =>
      if answer.Captured ∧ order.status ≠ .COMPLETED then do
        let _ ← finalizePaidOrderFromGateway env order.id
          (some (callbackMetadata id body answer.data order))
        pure (callbackResponse answer order)
      else pure (callbackResponse answer order)

/-- The inquiry path of `callback`.  Without an inquiry id it is left to the signed
webhook of other gateways, which is not modelled. -/
def callback (env : Env) (site : PaymentSite) (body : PaymentCallbackDto) :
    Online CallbackResponse := do
  onFirst (attachGatewayTrackIdToOrder body.namedOrder body.callbackTrackId)
  let inquiryId ← reads fun world => body.gatewayInquiryId world.1
  match inquiryId with
  | none => throw (.error
      ("Callback missing payment-status inquiry id (trans_id / tran_id / track_id) and " ++
        "orderId — cannot verify payment"))
  | some id => do
      let answer ← fetchGatewayStatus site.gateway id
      onFirst (settleCallback env id body answer)

/-! ## The status poll and the recheck -/

/-- Where a request may carry an inquiry id and a result word.  The keys of one
object stand in the order they are tried. -/
structure ReturnHints where
  (plainBodyTrackIds bodyTrackIds queryTrackIds : List (Option String))
  headerTrackId : Option String
  rawUrlTrackId : String
  queryObjectTrackIds : List (Option String)
  refererTrackId : String
  (plainBodyResult bodyResult queryResult : Option String)
  (rawUrlResult refererResult : String)

namespace ReturnHints

def firstNonempty (texts : List String) : String :=
  (texts.find? fun text => text ≠ "").getD ""

def pickReturnTrackId (hints : ReturnHints) : String :=
  firstNonempty [(firstText hints.plainBodyTrackIds).getD "",
    (firstText hints.bodyTrackIds).getD "", (firstText hints.queryTrackIds).getD "",
    (trimmed hints.headerTrackId).getD "", hints.rawUrlTrackId,
    (firstText hints.queryObjectTrackIds).getD "", hints.refererTrackId]

def returnTrack (hints : ReturnHints) : Option String :=
  if isValidInquiryId hints.pickReturnTrackId = true then some hints.pickReturnTrackId
  else none

def gatewayResult (hints : ReturnHints) : String :=
  firstNonempty [(trimmed hints.plainBodyResult).getD "",
    (trimmed hints.bodyResult).getD "", (trimmed hints.queryResult).getD "",
    hints.rawUrlResult, hints.refererResult]

end ReturnHints

def upaymentTrackInquirySortKey (id : String) : ℕ :=
  if endsV2 id = true then 0 else if isSessionId id = true then 2 else 1

def buildUpaymentsInquiryTrackCandidates (returnTrack stored : Option String) :
    List String :=
  let unique := ([returnTrack, stored].filterMap validInquiryId).dedup
  let filtered :=
    if returnTrack.any (fun id => endsV2 (trim id)) = true then
      unique.filter fun id => !isSessionId id
    else unique
  (if filtered ≠ [] then filtered else unique).insertionSort
    fun first second => upaymentTrackInquirySortKey first ≤ upaymentTrackInquirySortKey second

def storedInquiryId (site : PaymentSite) (order : Order) : Option String :=
  order.posGatewayTrackId.orElse fun _ => order.posHostedPaymentUrl.bind site.hostedUrlInquiryId

def attempt (x : Online Bool) : Online Bool :=
  tryCatch x fun _ => pure false

def firstFinalized (ask : String → Online Bool) : List String → Online Bool
  | [] => pure false
  | id :: rest => do
      let finalized ← ask id
      if finalized = true then pure true else firstFinalized ask rest

def inquireForOrder (env : Env) (site : PaymentSite) (orderId : Uuid) (id : String) :
    Online Bool := do
  let result ← tryFinalizeOrderIfUpaymentsCaptured env site.gateway orderId id
  pure result.finalized

def hintMetadata (order : Order) (returnTrack result : String) : FinalizeMetadata where
  provider := "upayments"
  devMock := false
  trackId := some returnTrack
  paymentId := none
  tranId := none
  result := some result
  amount := .fils (toFils order.totalPrice)
  currency := none

def ReturnHints.ClaimSuccess (hints : ReturnHints) : Prop :=
  isSuccessStatus hints.gatewayResult = true ∧ hints.returnTrack ≠ none
  deriving Decidable

def forceFinalizeFromHint (env : Env) (order : Order) (hints : ReturnHints) :
    Online Bool :=
  match hints.returnTrack with
  | none => pure false
  | some returnTrack =>
      if isSuccessStatus hints.gatewayResult = true then
        attempt (onFirst (finalizePaidOrderFromGateway env order.id
          (some (hintMetadata order returnTrack hints.gatewayResult))))
      else pure false

def finalizeFromReturnUrl (env : Env) (site : PaymentSite) (order : Order)
    (hints : ReturnHints) : Online Bool :=
  match hints.returnTrack with
  | none => pure false
  | some returnTrack =>
      if hints.gatewayResult ≠ "" then
        attempt (tryFinalizeOrderFromTrustedUpaymentsReturn env site.gateway order.id
          returnTrack)
      else pure false

def pollCandidates (site : PaymentSite) (order : Order) (hints : ReturnHints) :
    List String :=
  buildUpaymentsInquiryTrackCandidates hints.returnTrack (storedInquiryId site order)

def pollUnpaidOrder (env : Env) (site : PaymentSite) (order : Order) (hints : ReturnHints) :
    Online Bool := do
  let forced ← forceFinalizeFromHint env order hints
  if forced = true then pure true else do
    let trusted ← finalizeFromReturnUrl env site order hints
    if trusted = true then pure true else
      firstFinalized (fun id => attempt (inquireForOrder env site order.id id))
        (pollCandidates site order hints)

structure PublicOrderStatus where
  orderId : Uuid
  status : OrderStatus
  isPaid : Bool
  amountKd : ℤ

def publicOrderStatus (order : Order) (settledNow : Bool) : PublicOrderStatus where
  orderId := order.id
  status := if settledNow = true then .COMPLETED else order.status
  isPaid := decide order.Paid || settledNow
  amountKd := order.totalPrice

def readPolledOrder (orderId : Uuid) : Online Order := do
  require (32 ≤ textLength orderId) (.badRequest "orderId is required (UUID)")
  fetch (fun world => world.1.orders.find? orderId) (.badRequest "Order not found")

def pollOrder (env : Env) (site : PaymentSite) (order : Order) (hints : ReturnHints) :
    Online Bool :=
  if order.Paid then pure false else pollUnpaidOrder env site order hints

def runPublicOrderStatusPoll (env : Env) (site : PaymentSite) (orderId : Uuid)
    (hints : ReturnHints) : Online PublicOrderStatus := do
  let order ← readPolledOrder orderId
  onFirst (attachGatewayTrackIdToOrder (some order.id) hints.returnTrack)
  let settledNow ← pollOrder env site order hints
  pure (publicOrderStatus order settledNow)

def recheckUnpaidOrder (env : Env) (site : PaymentSite) (order : Order)
    (hints : ReturnHints) : Online Bool := do
  let trusted ← finalizeFromReturnUrl env site order hints
  if trusted = true then pure true else
    attempt (firstFinalized (inquireForOrder env site order.id) (pollCandidates site order hints))

def recheckOrder (env : Env) (site : PaymentSite) (order : Order) (hints : ReturnHints) :
    Online Bool :=
  if order.Paid then pure false else recheckUnpaidOrder env site order hints

def runRecheckPayment (env : Env) (site : PaymentSite) (orderId : Uuid)
    (hints : ReturnHints) : Online PublicOrderStatus := do
  let order ← readPolledOrder orderId
  let settledNow ← recheckOrder env site order hints
  pure (publicOrderStatus order settledNow)

inductive PublicRequest
  | callback (body : PaymentCallbackDto)
  | status (orderId : Uuid) (hints : ReturnHints)
  | recheck (orderId : Uuid) (hints : ReturnHints)

def serve (env : Env) (site : PaymentSite) : PublicRequest → Online Bool
  | .callback body => CallbackResponse.success <$> callback env site body
  | .status orderId hints =>
      PublicOrderStatus.isPaid <$> runPublicOrderStatusPoll env site orderId hints
  | .recheck orderId hints =>
      PublicOrderStatus.isPaid <$> runRecheckPayment env site orderId hints

/-- Requests one after the other, each in its own environment; one that throws is
answered with an error and the next one is served. -/
def serveAll (site : PaymentSite) :
    List (Env × PublicRequest) → Db × List Report → Db × List Report
  | [], world => world
  | (env, request) :: rest, world =>
      serveAll site rest ((serve env site request).outcome world).2

end SafariLaundry
