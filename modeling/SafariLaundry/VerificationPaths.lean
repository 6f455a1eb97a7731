import SafariLaundry.PublicPayments

/-!
# The webhook and the check

The webhook and `checkPaymentStatus` verify a payment by the same inquiry and by code of
their own.  They read different references in an answer, only the check looks at bundles,
at `ok`, at the amount and at the stored id, and only the webhook asks whether another
order holds the id.  Where both hand the same reference to the finalizer, they leave the
same database behind.
-/

namespace SafariLaundry

open Library Library.Transaction

structure SameToFinalizer (first second : Option FinalizeMetadata) : Prop where
  incoming : extractTrackIdFromFinalizeGatewayMetadata first =
    extractTrackIdFromFinalizeGatewayMetadata second
  rejected : ∀ order db, FinalizeRejected order first db ↔ FinalizeRejected order second db

variable {first second : Option FinalizeMetadata} {id : String} {answer : InquiryAnswer} {db : Db}
  {env : Env} {world : Db × List Report}

theorem SameToFinalizer.finalizeAfterRead (hsame : SameToFinalizer first second) (env : Env)
    (order : Order) :
    finalizeAfterRead env order first = finalizeAfterRead env order second := by
  have hrejected : (fun db => decide (FinalizeRejected order first db)) =
      fun db => decide (FinalizeRejected order second db) := by
    funext db
    exact decide_eq_decide.2 (hsame.rejected order db)
  unfold SafariLaundry.finalizeAfterRead
  rw [hsame.incoming, hrejected]

theorem SameToFinalizer.finalizeSingle (hsame : SameToFinalizer first second) (env : Env)
    (orderId : Uuid) :
    finalizeSinglePaidOrderFromGateway env orderId first =
      finalizeSinglePaidOrderFromGateway env orderId second := by
  unfold finalizeSinglePaidOrderFromGateway
  simp only [hsame.finalizeAfterRead env]

theorem SameToFinalizer.finalizeEach (hsame : SameToFinalizer first second) (env : Env)
    (orderIds : List Uuid) :
    finalizeEach env first orderIds = finalizeEach env second orderIds := by
  induction orderIds with
  | nil => rfl
  | cons orderId rest ih =>
      rw [SafariLaundry.finalizeEach, SafariLaundry.finalizeEach, hsame.finalizeSingle env, ih]

theorem SameToFinalizer.finalizePaid (hsame : SameToFinalizer first second) (env : Env)
    (referenceId : Uuid) :
    finalizePaidOrderFromGateway env referenceId first =
      finalizePaidOrderFromGateway env referenceId second := by
  unfold finalizePaidOrderFromGateway
  simp only [hsame.finalizeEach env, hsame.finalizeSingle env]

/-! ## What each path hands to the finalizer -/

/-- A webhook that carries an inquiry id and nothing else. -/
def trackBody (id : String) : PaymentCallbackDto where
  track_id := some id
  trackId := none
  TrackID := none
  trans_id := none
  transId := none
  tran_id := none
  tranId := none
  orderId := none
  requested_order_id := none
  order_id := none
  invoice_id := none
  receipt_id := none
  ref := none
  reference := none
  customerExtraData := none
  trn_udf := none
  paymentId := none
  payment_id := none
  result := none

def Order.OpenFor (order : Order) (db : Db) : Prop :=
  order.status ≠ .COMPLETED ∧ (order.walletSettledAt = none ∨ pendingBundleOrders order.id db ≠ [])
  deriving Decidable

def webhookTarget (id : String) (answer : InquiryAnswer) (db : Db) : Option Uuid :=
  match resolveCallbackOrder id (trackBody id) answer.data db with
  | .error _ => none
  | .ok order => if answer.Captured ∧ order.OpenFor db then some order.id else none

def checkTarget (id : String) (answer : InquiryAnswer) (db : Db) : Option Uuid :=
  match checkVerdict id none answer db with
  | .finalize referenceId => some referenceId
  | .refused | .alreadyPaid => none

def WebhookMayPay (id : String) (answer : InquiryAnswer) (db : Db) (order : Order) : Prop :=
  ((callbackReference answer.data).orElse fun _ => findOrderByTrackId id db) = some order.id ∧
    db.orders.find? order.id = some order ∧
    (∀ linked ∈ findOrderByTrackId id db, linked = order.id) ∧ order.OpenFor db

/-- The check would settle this reference on a captured answer: the answer is `ok`, the
check reads the reference or finds the inquiry id stored under it, it is an unpaid order
or bundle, and the stored id, the amount and the currency match. -/
def CheckMayPay (id : String) (answer : InquiryAnswer) (db : Db) (referenceId : Uuid) :
    Prop :=
  answer.ok = true ∧ ((inquiryReference answer.data).orElse fun _ => findOrderByTrackId id db) =
      some referenceId ∧
    ∃ reference, getGatewayReferenceForFinalize referenceId db = some reference ∧
      reference.isPaid = false ∧ MatchesReference id answer.data reference

/-- Nothing was captured, or both paths may settle one order, or neither may settle
anything. -/
def SameOpenPayment (id : String) (answer : InquiryAnswer) (db : Db) : Prop :=
  ¬ answer.Captured ∨
    (∃ order, WebhookMayPay id answer db order ∧ CheckMayPay id answer db order.id) ∨
    ((∀ order, ¬ WebhookMayPay id answer db order) ∧
      ∀ referenceId, ¬ CheckMayPay id answer db referenceId)

theorem resolve_eq_ok_iff {order : Order} :
    resolveCallbackOrder id (trackBody id) answer.data db = .ok order ↔
      ((callbackReference answer.data).orElse fun _ => findOrderByTrackId id db) = some order.id ∧
        db.orders.find? order.id = some order ∧
        ∀ linked ∈ findOrderByTrackId id db, linked = order.id := by
  have hnamed : (trackBody id).namedOrder = none := by
    simp [PaymentCallbackDto.namedOrder, trackBody, parseSafariOrderUuid, trimmed,
      tryOrderIdFromUpaymentsCompactRef, extractOrderIdFromExtraData]
  have hreference : ((callbackReference answer.data).orElse fun _ =>
      (findOrderByTrackId id db).orElse fun _ => (trackBody id).namedOrder) =
        (callbackReference answer.data).orElse fun _ => findOrderByTrackId id db := by
    rw [hnamed]
    cases callbackReference answer.data <;> cases findOrderByTrackId id db <;> rfl
  unfold resolveCallbackOrder
  simp only [hreference]
  cases href : (callbackReference answer.data).orElse fun _ => findOrderByTrackId id db with
  | none => simp
  | some found =>
      simp only [Option.some.injEq]
      cases hrow : db.orders.find? found with
      | none =>
          simp only [reduceCtorEq, false_iff]
          rintro ⟨rfl, hfound, _⟩
          rw [hrow] at hfound
          cases hfound
      | some row =>
          have hkey : row.id = found := Table.key_of_find? hrow
          have hread : ¬ (callbackReference answer.data).any (fun other => other ≠ row.id) =
              true := by
            cases hcallback : callbackReference answer.data with
            | none => simp
            | some other =>
                rw [hcallback] at href
                have hother : other = found := Option.some.inj href
                simp [hother, hkey]
          simp only
          rw [if_neg hread]
          by_cases hlinked : (findOrderByTrackId id db).any (fun other => other ≠ row.id) = true
          · rw [if_pos hlinked]
            simp only [reduceCtorEq, false_iff]
            rintro ⟨rfl, hfound, hall⟩
            rw [hrow] at hfound
            obtain rfl := Option.some.inj hfound
            obtain ⟨other, hmem, hdiffers⟩ := (Option.any_eq_true _ _).1 hlinked
            have hsame := hall other hmem
            simp [hsame] at hdiffers
          · rw [if_neg hlinked]
            constructor
            · intro hok
              obtain rfl := Except.ok.inj hok
              refine ⟨hkey.symm, hkey ▸ hrow, ?_⟩
              intro other hmem
              rw [Option.mem_def.1 hmem] at hlinked
              simpa using hlinked
            · rintro ⟨rfl, hfound, _⟩
              rw [hrow] at hfound
              rw [Option.some.inj hfound]

theorem webhookTarget_eq_some_iff {referenceId : Uuid} :
    webhookTarget id answer db = some referenceId ↔
      answer.Captured ∧ ∃ order, WebhookMayPay id answer db order ∧ order.id = referenceId := by
  unfold webhookTarget
  constructor
  · intro htarget
    cases hresolve : resolveCallbackOrder id (trackBody id) answer.data db with
    | error response =>
        rw [hresolve] at htarget
        cases htarget
    | ok order =>
        rw [hresolve] at htarget
        simp only [Option.ite_none_right_eq_some, Option.some.injEq] at htarget
        obtain ⟨⟨hcaptured, hopen⟩, rfl⟩ := htarget
        obtain ⟨href, hrow, hlinked⟩ := resolve_eq_ok_iff.1 hresolve
        exact ⟨hcaptured, order, ⟨href, hrow, hlinked, hopen⟩, rfl⟩
  · rintro ⟨hcaptured, order, ⟨href, hrow, hlinked, hopen⟩, rfl⟩
    rw [resolve_eq_ok_iff.2 ⟨href, hrow, hlinked⟩]
    simp only
    rw [if_pos ⟨hcaptured, hopen⟩]

theorem checkTarget_eq_some_iff {referenceId : Uuid} :
    checkTarget id answer db = some referenceId ↔
      answer.Captured ∧ CheckMayPay id answer db referenceId := by
  have href : checkReference id none answer.data db =
      (inquiryReference answer.data).orElse fun _ => findOrderByTrackId id db := rfl
  constructor
  · intro htarget
    unfold checkTarget at htarget
    cases hverdict : checkVerdict id none answer db with
    | refused =>
        rw [hverdict] at htarget
        cases htarget
    | alreadyPaid =>
        rw [hverdict] at htarget
        cases htarget
    | finalize found =>
        rw [hverdict] at htarget
        obtain rfl := Option.some.inj htarget
        obtain ⟨hok, hcaptured, hread, _, hreference⟩ := checkVerdict_eq_finalize hverdict
        exact ⟨hcaptured, hok, href ▸ hread, hreference⟩
  · rintro ⟨hcaptured, hok, hread, reference, hlookup, hunpaid, hmatches⟩
    have hverdict : checkVerdict id none answer db = .finalize reference.id := by
      unfold checkVerdict
      rw [if_neg (by simp [hok, hcaptured]), href, hread]
      simp only [Option.any_none, Bool.false_eq_true, if_false, hlookup]
      rw [if_neg (by simp [hunpaid]), if_pos hmatches]
    unfold checkTarget
    rw [hverdict, gatewayReference_id hlookup]

theorem targets_eq_iff :
    webhookTarget id answer db = checkTarget id answer db ↔ SameOpenPayment id answer db := by
  rw [Option.ext_iff]
  simp only [webhookTarget_eq_some_iff, checkTarget_eq_some_iff]
  unfold SameOpenPayment
  constructor
  · intro hsame
    by_cases hcaptured : answer.Captured
    · by_cases hsome : ∃ order, WebhookMayPay id answer db order
      · obtain ⟨order, hmay⟩ := hsome
        have hcheck := (hsame order.id).1 ⟨hcaptured, order, hmay, rfl⟩
        exact .inr (.inl ⟨order, hmay, hcheck.2⟩)
      · push Not at hsome
        refine .inr (.inr ⟨hsome, fun referenceId hmay => ?_⟩)
        obtain ⟨_, order, hopen, _⟩ := (hsame referenceId).2 ⟨hcaptured, hmay⟩
        exact hsome order hopen
    · exact .inl hcaptured
  · rintro (hnone | ⟨order, hwebhook, hcheck⟩ | ⟨hwebhook, hcheck⟩) referenceId
    · simp only [hnone, false_and]
    · constructor
      · rintro ⟨hcaptured, other, hmay, rfl⟩
        have hid := Option.some.inj (hwebhook.1.symm.trans hmay.1)
        exact ⟨hcaptured, hid ▸ hcheck⟩
      · rintro ⟨hcaptured, hmay⟩
        exact ⟨hcaptured, order, hwebhook, Option.some.inj (hcheck.2.1.symm.trans hmay.2.1)⟩
    · constructor
      · rintro ⟨_, order, hmay, _⟩
        exact absurd hmay (hwebhook order)
      · rintro ⟨_, hmay⟩
        exact absurd hmay (hcheck referenceId)

/-! ## What each path leaves behind -/

theorem settleCallback_target {order : Order} (hcaptured : answer.Captured)
    (hmay : WebhookMayPay id answer db order) :
    ((settleCallback env id (trackBody id) answer).outcome db).2 =
      ((finalizePaidOrderFromGateway env order.id
        (some (callbackMetadata id (trackBody id) answer.data order))).outcome db).2 := by
  obtain ⟨href, hrow, hlinked, hopen⟩ := hmay
  have hread : (reads (resolveCallbackOrder id (trackBody id) answer.data) :
      Tx (Except CallbackResponse Order)).outcome db = (.ok (.ok order), db) := by
    change (Except.ok _, db) = _
    rw [resolve_eq_ok_iff.2 ⟨href, hrow, hlinked⟩]
  rw [settleCallback, outcome_bind, hread]
  simp only
  rw [if_pos ⟨hcaptured, hopen.1⟩, outcome_bind]
  rcases (finalizePaidOrderFromGateway env order.id
    (some (callbackMetadata id (trackBody id) answer.data order))).outcome db with ⟨r, t⟩
  cases r with
  | error err => rfl
  | ok did => rfl

theorem finalizePaid_of_settled {env : Env} {order : Order}
    {metadata : Option FinalizeMetadata} {db : Db}
    (hrow : db.orders.find? order.id = some order) (hsettled : order.walletSettledAt ≠ none)
    (hnone : pendingBundleOrders order.id db = []) :
    ((finalizePaidOrderFromGateway env order.id metadata).outcome db).2 = db := by
  have hcommits : (finalizePaidOrderFromGateway env order.id metadata).Commits db false db := by
    unfold finalizePaidOrderFromGateway
    rw [commits_bind]
    refine ⟨[], db, commits_reads.2 ⟨hnone, rfl⟩, ?_⟩
    rw [if_neg (by simp)]
    unfold finalizeSinglePaidOrderFromGateway transaction
    rw [commits_atomically, commits_bind]
    refine ⟨order, db, commits_fetch.2 ⟨hrow, rfl⟩, ?_⟩
    unfold finalizeAfterRead
    rw [if_pos (.inl hsettled)]
    exact commits_pure.2 ⟨rfl, rfl⟩
  unfold Commits at hcommits
  rw [hcommits]

theorem settleCallback_none (hnone : webhookTarget id answer db = none) :
    ((settleCallback env id (trackBody id) answer).outcome db).2 = db := by
  unfold webhookTarget at hnone
  rw [settleCallback, outcome_bind]
  change ((match resolveCallbackOrder id (trackBody id) answer.data db with
    | .error response => (pure response : Tx CallbackResponse)
    | .ok order => _).outcome db).2 = db
  cases hresolve : resolveCallbackOrder id (trackBody id) answer.data db with
  | error response => rfl
  | ok order =>
      rw [hresolve] at hnone
      simp only [ite_eq_right_iff, reduceCtorEq, imp_false] at hnone
      obtain ⟨href, hrow, hlinked⟩ := resolve_eq_ok_iff.1 hresolve
      simp only
      by_cases hacts : answer.Captured ∧ order.status ≠ .COMPLETED
      · have hclosed : order.walletSettledAt ≠ none ∧ pendingBundleOrders order.id db = [] := by
          constructor
          · intro hunsettled
            exact hnone ⟨hacts.1, hacts.2, .inl hunsettled⟩
          · by_contra hpending
            exact hnone ⟨hacts.1, hacts.2, .inr hpending⟩
        rw [if_pos hacts, outcome_bind]
        have hsame := @finalizePaid_of_settled env order
          (some (callbackMetadata id (trackBody id) answer.data order)) db hrow hclosed.1
          hclosed.2
        rcases hresult : (finalizePaidOrderFromGateway env order.id (some
          (callbackMetadata id (trackBody id) answer.data order))).outcome db with ⟨r, t⟩
        rw [hresult] at hsame
        cases r with
        | error err => exact hsame
        | ok did => exact hsame
      · rw [if_neg hacts]
        rfl

theorem finalizeVerdict_target :
    ((finalizeVerdict env id answer.data (checkVerdict id none answer db)).outcome world).2 =
      match checkTarget id answer db with
      | none => world
      | some referenceId => (((finalizePaidOrderFromGateway env referenceId
          (some (checkMetadata id answer.data))).outcome world.1).2, world.2) := by
  unfold checkTarget
  cases checkVerdict id none answer db with
  | refused => rfl
  | alreadyPaid => rfl
  | finalize referenceId =>
      simp only [finalizeVerdict]
      rw [outcome_bind, outcome_onFirst]
      rcases (finalizePaidOrderFromGateway env referenceId
        (some (checkMetadata id answer.data))).outcome world.1 with ⟨r, t⟩
      cases r with
      | error err => rfl
      | ok did => rfl

theorem upperText_KWD : upperText "KWD" = "KWD" := by
  decide +kernel

theorem trimmed_KWD : trimmed (some "KWD") = some "KWD" := by
  decide +kernel

theorem sameToFinalizer_of_matches {order : Order}
    (hmatches : MatchesReference id answer.data order.gatewayReference) :
    SameToFinalizer (some (callbackMetadata id (trackBody id) answer.data order))
      (some (checkMetadata id answer.data)) := by
  have hresult : (callbackMetadata id (trackBody id) answer.data order).result =
      (checkMetadata id answer.data).result := by
    change (answer.data.result.orElse fun _ => none) = answer.data.result
    cases answer.data.result <;> rfl
  have hincoming : extractTrackIdFromFinalizeGatewayMetadata
      (some (callbackMetadata id (trackBody id) answer.data order)) =
        extractTrackIdFromFinalizeGatewayMetadata (some (checkMetadata id answer.data)) := by
    change ((validInquiryId (answer.data.transactionId.orElse fun _ => none)).orElse fun _ =>
      (validInquiryId (some id)).orElse fun _ =>
        validInquiryId (answer.data.paymentId.orElse fun _ => none)) =
      ((validInquiryId answer.data.transactionId).orElse fun _ =>
        (validInquiryId (some id)).orElse fun _ => validInquiryId answer.data.paymentId)
    cases answer.data.transactionId <;> cases answer.data.paymentId <;> rfl
  have hcaptured : IsCapturedFinalizeMetadata
      (some (callbackMetadata id (trackBody id) answer.data order)) ↔
        IsCapturedFinalizeMetadata (some (checkMetadata id answer.data)) := by
    unfold IsCapturedFinalizeMetadata
    simp only [Option.mem_def, Option.some.injEq, exists_eq_left', hresult]
  refine ⟨hincoming, fun row db => ?_⟩
  unfold FinalizeRejected
  rw [hcaptured, hincoming]
  rcases hmatches with hforced | ⟨_, hamount, hcurrency⟩
  · have hforces : IsCapturedFinalizeMetadata (some (checkMetadata id answer.data)) :=
      ⟨_, rfl, "CAPTURED", hforced, by decide +kernel⟩
    simp only [hforces, not_true_eq_false, and_false]
  · have hread : answer.data.amount = .fils (toFils order.totalPrice) := by
      cases hfound : answer.data.amount with
      | missing =>
          rw [hfound] at hamount
          cases hamount
      | unreadable =>
          rw [hfound] at hamount
          cases hamount
      | fils amount =>
          rw [hfound] at hamount
          exact congrArg GatewayAmount.fils (Option.some.inj hamount)
    have hkwd : (trimmed ((trimmed answer.data.currency).map upperText)).any
        (fun c => upperText c ≠ "KWD") = false := by
      cases hfound : trimmed answer.data.currency with
      | none => rfl
      | some currency =>
          rw [hfound] at hcurrency
          have hupper : upperText currency = "KWD" := by
            simpa using hcurrency
          simp [hupper, trimmed_KWD, upperText_KWD]
    have hvalidate : ∀ incoming, validateFinalizeGatewayMetadata
        (some (callbackMetadata id (trackBody id) answer.data order))
          (amountDueAtFinalize row db) row.posGatewayTrackId incoming =
        validateFinalizeGatewayMetadata (some (checkMetadata id answer.data))
          (amountDueAtFinalize row db) row.posGatewayTrackId incoming := by
      intro incoming
      simp only [validateFinalizeGatewayMetadata, callbackMetadata, checkMetadata, hread,
        GatewayAmount.asText, hkwd]
      rfl
    rw [hvalidate]

/-! ## Agreement -/

/-- The webhook that carries the id and the check of the id settle the same or nothing,
and leave the same behind. -/
def PathsAgree (env : Env) (site : PaymentSite) (id : String) (world : Db × List Report) :
    Prop :=
  let answer := site.gateway world.2.length (trim id)
  webhookTarget (trim id) answer world.1 = checkTarget (trim id) answer world.1 ∧
    ((callback env site (trackBody id)).outcome world).2 =
      ((checkPaymentStatus env site.gateway id none).outcome world).2

theorem isValidInquiryId_trim :
    isValidInquiryId (trim id) = isValidInquiryId id := by
  unfold isValidInquiryId
  rw [trim_trim]

theorem trimmed_of_valid (hvalid : isValidInquiryId id = true) :
    trimmed (some id) = some (trim id) := by
  have hnonempty : trim id ≠ "" := by
    intro hempty
    unfold isValidInquiryId at hvalid
    rw [hempty] at hvalid
    revert hvalid
    decide +kernel
  unfold trimmed
  rw [Option.map_some, Option.filter_some, if_pos (by simpa using hnonempty)]

theorem namedOrder_trackBody (id : String) : (trackBody id).namedOrder = none := by
  simp [PaymentCallbackDto.namedOrder, trackBody, parseSafariOrderUuid, trimmed,
    tryOrderIdFromUpaymentsCompactRef, extractOrderIdFromExtraData]

theorem gatewayInquiryId_trackBody (hvalid : isValidInquiryId id = true) :
    (trackBody id).gatewayInquiryId db = some (trim id) := by
  have hfirst : firstText [some id, none, none, none, none, none, none] = some (trim id) := by
    unfold firstText
    rw [List.findSome?_cons, trimmed_of_valid hvalid]
  have hclean : isValidInquiryId (trim id) = true := isValidInquiryId_trim.trans hvalid
  change ((firstText [some id, none, none, none, none, none, none]).filter
    isValidInquiryId).orElse _ = _
  rw [hfirst, Option.filter_some, if_pos hclean]
  rfl

theorem outcome_fetchGatewayStatus {gateway : Gateway} {id : String}
    {world : Db × List Report} (hvalid : isValidInquiryId id = true) :
    (fetchGatewayStatus gateway id).outcome world = (.ok (gateway world.2.length (trim id)),
        (world.1, world.2 ++ [⟨trim id, gateway world.2.length (trim id)⟩])) := by
  unfold fetchGatewayStatus
  rw [if_pos hvalid]
  rfl

theorem outcome_callback_trackBody {site : PaymentSite} (hvalid : isValidInquiryId id = true) :
    ((callback env site (trackBody id)).outcome world).2 =
      (((settleCallback env (trim id) (trackBody (trim id))
        (site.gateway world.2.length (trim id))).outcome world.1).2,
        world.2 ++ [⟨trim id, site.gateway world.2.length (trim id)⟩]) := by
  have hattach : (onFirst (attachGatewayTrackIdToOrder (trackBody id).namedOrder
      (trackBody id).callbackTrackId) : Online Unit).outcome world = (.ok (), world) := by
    rw [namedOrder_trackBody]
    rfl
  have hread : (reads fun world : Db × List Report =>
      (trackBody id).gatewayInquiryId world.1 : Online (Option String)).outcome world =
        (.ok (some (trim id)), world) := by
    change (Except.ok ((trackBody id).gatewayInquiryId world.1), world) = _
    rw [gatewayInquiryId_trackBody hvalid]
  have hfetch := @outcome_fetchGatewayStatus site.gateway (trim id) world
    (isValidInquiryId_trim.trans hvalid)
  rw [trim_trim] at hfetch
  rw [callback, outcome_bind, hattach]
  simp only
  rw [outcome_bind, hread]
  simp only
  rw [outcome_bind, hfetch]
  rfl

theorem outcome_checkPaymentStatus {gateway : Gateway} (hvalid : isValidInquiryId id = true) :
    ((checkPaymentStatus env gateway id none).outcome world).2 =
      let answer := gateway world.2.length (trim id)
      ((finalizeVerdict env (trim id) answer.data
        (checkVerdict (trim id) none answer world.1)).outcome
          (world.1, world.2 ++ [⟨trim id, answer⟩])).2 := by
  have hclean : isValidInquiryId (trim id) = true := isValidInquiryId_trim.trans hvalid
  have hfetch := @outcome_fetchGatewayStatus gateway (trim id) world hclean
  rw [trim_trim] at hfetch
  unfold checkPaymentStatus
  rw [if_neg (by simp [hclean])]
  have hshortcut : (reads fun world : Db × List Report =>
      (none : Option Uuid).any fun id => isGatewayReferencePaid id world.1 :
        Online Bool).outcome world = (.ok false, world) := rfl
  rw [outcome_bind, hshortcut]
  simp only
  rw [if_neg (by decide), inquireAndFinalize, outcome_bind, hfetch]
  simp only
  rw [outcome_bind]
  rfl

/-- The webhook and the check of a payment id agree exactly if they may settle the
same. -/
theorem paths_agree_iff {env : Env} {site : PaymentSite} {id : String}
    {world : Db × List Report} (hvalid : isValidInquiryId id = true) :
    PathsAgree env site id world ↔
      SameOpenPayment (trim id) (site.gateway world.2.length (trim id)) world.1 := by
  unfold PathsAgree
  simp only
  generalize hanswer : site.gateway world.2.length (trim id) = answer
  rw [← targets_eq_iff]
  constructor
  · intro hagree
    exact hagree.1
  · intro htargets
    refine ⟨htargets, ?_⟩
    rw [outcome_callback_trackBody hvalid, outcome_checkPaymentStatus hvalid, hanswer,
      finalizeVerdict_target]
    cases hcheck : checkTarget (trim id) answer world.1 with
    | none =>
        rw [hcheck] at htargets
        rw [settleCallback_none htargets]
    | some referenceId =>
        rw [hcheck] at htargets
        obtain ⟨hcaptured, order, hmay, rfl⟩ := webhookTarget_eq_some_iff.1 htargets
        obtain ⟨_, _, _, reference, hlookup, _, hmatches⟩ := checkTarget_eq_some_iff.1 hcheck
        have hreference : reference = order.gatewayReference := by
          unfold getGatewayReferenceForFinalize at hlookup
          rw [hmay.2.1] at hlookup
          exact (Option.some.inj hlookup).symm
        subst hreference
        rw [settleCallback_target hcaptured hmay,
          (sameToFinalizer_of_matches hmatches).finalizePaid env]

namespace Sample

def bundleId : Uuid := "22222222-2222-4222-8222-222222222222"

def bundledOrder (id : Uuid) : Order :=
  { order id with posPaymentBundleId := some bundleId }

/-- Two orders of two dinars, sold at the counter under one link. -/
def bundleShop : Db :=
  { shop ⟨0, 0⟩ ⟨[bundledOrder "first", bundledOrder "second"], by decide⟩ with
    bundles := ⟨[⟨bundleId, "owner", 40000⟩], List.nodup_singleton _⟩ }

end Sample

theorem paths_agree_iff_sample :
    PathsAgree Env.default (Sample.constantSite
      (Sample.capturedPayment Sample.linkOrderId "CAPTURED")) "track-0001"
      (Sample.linkShop, []) := by
  have hwebhook : WebhookMayPay (trim "track-0001")
      (Sample.capturedPayment Sample.linkOrderId "CAPTURED") Sample.linkShop
      (Sample.order Sample.linkOrderId) := by
    refine ⟨by decide +kernel, rfl, ?_, by decide, .inl rfl⟩
    intro linked hlinked
    cases hlinked
  have hcheck : CheckMayPay (trim "track-0001")
      (Sample.capturedPayment Sample.linkOrderId "CAPTURED") Sample.linkShop
      Sample.linkOrderId :=
    ⟨rfl, by decide +kernel, (Sample.order Sample.linkOrderId).gatewayReference, rfl, rfl, .inl rfl⟩
  exact (@paths_agree_iff Env.default (Sample.constantSite
    (Sample.capturedPayment Sample.linkOrderId "CAPTURED")) "track-0001"
    (Sample.linkShop, []) (by decide +kernel)).2 (.inr (.inl ⟨_, hwebhook, hcheck⟩))

theorem paths_agree_fails :
    ¬ ∀ (env : Env) (site : PaymentSite) (id : String) (world : Db × List Report),
      env.StoreHealthy → isValidInquiryId id = true → PathsAgree env site id world := by
  intro hall
  have hagree := (hall Env.default (Sample.constantSite
    (Sample.capturedPayment Sample.bundleId "CAPTURED")) "track-0001"
    (Sample.bundleShop, []) (fun _ => rfl) (by decide +kernel)).2
  have hstatus := congrArg (fun world : Db × List Report =>
    (world.1.orders.find? "first").map Order.status) hagree
  revert hstatus
  decide +kernel

end SafariLaundry
