import SafariLaundry.PartialPayment
import SafariLaundry.PaymentLinks
import SafariLaundry.PublicPayments
import SafariLaundry.SettlementLockstep

/-!
# What a captured link payment is recorded as

A payment link charges what is open on its order.  The finalizer that a capture reaches
settles the order for its total, whatever the link charged.  Under true accounting the
total is what is recorded; in the legacy model it is the part of the total that the
wallet owes, once by the external payment and once more by its mirror.
-/

namespace SafariLaundry

open Library Library.Bookkeeping Library.Transaction

def receivableCredits (journal : List JournalEntry) : ℤ :=
  tally (fun entry =>
    credits (fun account => account = JournalAccount.ACCOUNTS_RECEIVABLE) entry.lines) journal

@[simp] theorem receivableCredits_nil : receivableCredits [] = 0 := rfl

@[simp] theorem receivableCredits_append (first second : List JournalEntry) :
    receivableCredits (first ++ second) = receivableCredits first + receivableCredits second :=
  tally_append _ first second

theorem receivableCredits_if (posting : PairPosting) (P : Prop) [Decidable P] :
    receivableCredits (if P then [posting.input.entry] else []) =
      if P then (if posting.credited = .ACCOUNTS_RECEIVABLE then posting.amount else 0)
      else 0 := by
  by_cases hP : P
  · rw [if_pos hP, if_pos hP]
    simp [receivableCredits, tally, PairPosting.input, AppendJournalInput.entry, debitLine,
      creditLine]
  · rw [if_neg hP, if_neg hP, receivableCredits_nil]

namespace SettlementCall

variable {call : SettlementCall}

theorem receivableCredits_newEntries (hexternal : call.ExternalCoversShortfall)
    (journal : List JournalEntry) :
    receivableCredits (call.newEntries journal) = call.receivedAmount journal := by
  have hissuance : ¬ call.issuance.credited = .ACCOUNTS_RECEIVABLE := nofun
  have hshortfall : ¬ (mirrorInvoiceEntry call.shortfallMirror).credited =
      .ACCOUNTS_RECEIVABLE := nofun
  have habsorbs : ¬ call.AbsorbsAnew journal := by
    rintro ⟨htake, _⟩
    rw [safeTake_of_external hexternal] at htake
    exact lt_irrefl 0 htake
  obtain ⟨account, hasset, _⟩ := exists_asset_of_external hexternal
  unfold newEntries receivedAmount externalNewEntries paydownNewEntries
  simp only [receivableCredits_append, receivableCredits_if, if_neg hissuance,
    if_neg hshortfall, if_neg habsorbs, ite_self, zero_add, receivableCredits_nil, hasset,
    if_pos hexternal]
  have hreceiver : (call.externalPosting account).credited = .ACCOUNTS_RECEIVABLE := rfl
  have hmirrored : (mirrorPaymentEntry call.paydownMirror account).credited =
      .ACCOUNTS_RECEIVABLE := rfl
  rw [if_pos hreceiver, if_pos hmirrored]
  rfl

end SettlementCall

def capturePaymentRef (orderId : Uuid) : SourceRef :=
  externalPaymentRef [.id orderId, .word "ONLINE", .word "PAYMENT_LINK_CALLBACK"]

def captureMirrorRef (orderId : Uuid) : SourceRef :=
  [.word "PAYMENT", .word "ONLINE", .id orderId, .word "PAYMENT_LINK_CALLBACK"]

section Capture

variable {env : Env} {order : Order} {performerId : Uuid} {wallets : Uuid → CustomerWallet}
  {journal : List JournalEntry}

theorem gatewayCall_external :
    ((gatewayCompletion order performerId).call env wallets).ExternalCoversShortfall :=
  .inr (.inr (.inl rfl))

theorem gatewayCall_paydownRef :
    ((gatewayCompletion order performerId).call env wallets).paydownRef =
      captureMirrorRef order.id := by
  have hmethod : ((gatewayCompletion order performerId).call env
      wallets).order.posPaymentMethod = some .ONLINE := rfl
  have hexternal : PosPaymentMethod.External .ONLINE := by decide
  unfold SettlementCall.paydownRef
  rw [SettlementCall.origin_of_external hmethod hexternal]
  rfl

theorem gatewayCall_received_of_true (htrue : isV20_3TrueAccountingEnabled env = true) :
    ((gatewayCompletion order performerId).call env wallets).receivedAmount journal =
      if Recorded journal (capturePaymentRef order.id) then 0 else max order.totalPrice 0 := by
  have hexternal := @gatewayCall_external env order performerId wallets
  by_cases htotal : 0 < order.totalPrice
  · rw [SettlementCall.receivedAmount_of_true htrue htotal hexternal, max_eq_left (le_of_lt htotal)]
    rfl
  · have hnone : ((gatewayCompletion order performerId).call env wallets).debtPaydown = 0 :=
      SettlementCall.debtPaydown_of_undeclared (not_lt.1 htotal)
    have hpayment :
        ((gatewayCompletion order performerId).call env wallets).externalPayment = 0 := by
      unfold SettlementCall.externalPayment
      rw [SettlementCall.shortfall_of_external hexternal, if_neg, hnone]
      rintro ⟨_, _, hpos⟩
      exact htotal hpos
    unfold SettlementCall.receivedAmount
    rw [if_pos hexternal, hpayment, hnone, max_eq_right (not_lt.1 htotal)]
    simp only [ite_self, add_zero]

theorem gatewayCall_received_of_legacy (hlegacy : isV20_3TrueAccountingEnabled env = false) :
    ((gatewayCompletion order performerId).call env wallets).receivedAmount journal =
      (if Recorded journal (capturePaymentRef order.id) then 0
        else max (min order.totalPrice (wallets order.customerId).debt) 0) +
      (if Recorded journal (captureMirrorRef order.id) then 0
        else max (min order.totalPrice (wallets order.customerId).debt) 0) := by
  have hexternal := @gatewayCall_external env order performerId wallets
  have hdebt := SettlementCall.debtWithInvoice_of_external hexternal
  have hpaydown : ((gatewayCompletion order performerId).call env wallets).debtPaydown =
      max (min order.totalPrice (wallets order.customerId).debt) 0 := by
    have hdeclared : ((gatewayCompletion order performerId).call env wallets).declared =
        order.totalPrice := rfl
    by_cases htotal : order.totalPrice ≤ 0
    · rw [SettlementCall.debtPaydown_of_undeclared (hdeclared ▸ htotal),
        max_eq_right ((min_le_left _ _).trans htotal)]
    · rw [SettlementCall.debtPaydown_of_legacy (hdeclared ▸ htotal) hlegacy, hdebt]
      change (if 0 < (wallets order.customerId).debt then
        min order.totalPrice (wallets order.customerId).debt else 0) = _
      by_cases howed : 0 < (wallets order.customerId).debt
      · rw [if_pos howed, max_eq_left (le_min (by omega) (le_of_lt howed))]
      · rw [if_neg howed, max_eq_right ((min_le_right _ _).trans (not_lt.1 howed))]
  rw [SettlementCall.receivedAmount_of_legacy hlegacy hexternal
    (hpaydown ▸ le_max_right _ _), hpaydown, gatewayCall_paydownRef]
  rfl

end Capture

/-! ## The two paths to the finalizer -/

inductive CaptureRequest
  | webhook (body : PaymentCallbackDto)
  | poll (transId : String)

def CaptureRequest.run (env : Env) (site : PaymentSite) (orderId : Uuid) :
    CaptureRequest → Online (Option Uuid)
  | .webhook body => do
      let response ← callback env site body
      pure response.orderId
  | .poll transId => do
      let _ ← checkPaymentStatus env site.gateway transId (some orderId)
      pure (some orderId)

/-- A database where nothing but the inquiry ids of orders was replaced. -/
structure TrackedAs (orderId : Uuid) (db db' : Db) : Prop where
  journal : db'.journal = db.journal
  wallets : db'.wallets = db.wallets
  bundles : db'.bundles = db.bundles
  row : ∀ row, db.orders.find? orderId = some row →
    ∃ trackId, db'.orders.find? orderId = some { row with posGatewayTrackId := trackId }

theorem TrackedAs.refl (orderId : Uuid) (db : Db) : TrackedAs orderId db db :=
  ⟨rfl, rfl, rfl, fun row hrow => ⟨row.posGatewayTrackId, hrow⟩⟩

theorem trackedAs_attached (orderId : Uuid) (named : Option Uuid) (trackId : Option String)
    (db : Db) : TrackedAs orderId db (attached named trackId db) := by
  unfold attached
  cases parseSafariOrderUuid named with
  | none => exact TrackedAs.refl orderId db
  | some cleanOrderId =>
      cases validInquiryId trackId with
      | none => exact TrackedAs.refl orderId db
      | some cleanTrackId =>
          simp only
          by_cases hkeeps : KeepsStoredId cleanOrderId cleanTrackId db
          · rw [if_pos hkeeps]
            exact TrackedAs.refl orderId db
          · rw [if_neg hkeeps]
            refine ⟨rfl, rfl, rfl, fun row hrow => ?_⟩
            by_cases hsame : orderId = cleanOrderId
            · subst hsame
              exact ⟨some cleanTrackId, by rw [Table.find?_update_self, hrow]; rfl⟩
            · exact ⟨row.posGatewayTrackId, by rwa [Table.find?_update_of_ne _ _ _ hsame]⟩

section Requests

variable {env : Env} {site : PaymentSite} {orderId : Uuid} {world world' : Db × List Report}

theorem commits_settleCallback {id : String} {body : PaymentCallbackDto}
    {answer : InquiryAnswer} {response : CallbackResponse} {db db' : Db}
    (hcommits : (settleCallback env id body answer).Commits db response db') :
    db' = db ∨ ∃ actedOn metadata did, response.orderId = some actedOn ∧
      (finalizePaidOrderFromGateway env actedOn metadata).Commits db did db' := by
  unfold settleCallback at hcommits
  simp only [commits_bind, commits_reads] at hcommits
  obtain ⟨resolution, _, ⟨_, rfl⟩, hsettle⟩ := hcommits
  cases resolution with
  | error other =>
      simp only [commits_pure] at hsettle
      exact .inl hsettle.2.symm
  | ok order =>
      simp only at hsettle
      by_cases hacts : answer.Captured ∧ order.status ≠ .COMPLETED
      · rw [if_pos hacts] at hsettle
        simp only [commits_bind, commits_pure] at hsettle
        obtain ⟨did, _, hfinalize, rfl, rfl⟩ := hsettle
        exact .inr ⟨order.id, _, did, rfl, hfinalize⟩
      · rw [if_neg hacts, commits_pure] at hsettle
        exact .inl hsettle.2.symm

theorem commits_callback {body : PaymentCallbackDto} {response : CallbackResponse}
    (hcommits : (callback env site body).Commits world response world') :
    ∃ db, TrackedAs orderId world.1 db ∧ (world'.1 = db ∨
      ∃ actedOn metadata did, response.orderId = some actedOn ∧
        (finalizePaidOrderFromGateway env actedOn metadata).Commits db did world'.1) := by
  unfold callback at hcommits
  simp only [commits_bind, commits_onFirst, commits_reads] at hcommits
  obtain ⟨_, mid, ⟨hattach, _⟩, inquiryId, _, ⟨hid, rfl⟩, hsettle⟩ := hcommits
  have htracked : TrackedAs orderId world.1 mid.1 := by
    rw [commits_attachGatewayTrackIdToOrder hattach]
    exact trackedAs_attached orderId _ _ _
  refine ⟨mid.1, htracked, ?_⟩
  cases inquiryId with
  | none => simp at hsettle
  | some id =>
      simp only [commits_bind, commits_onFirst] at hsettle
      obtain ⟨answer, asked, hfetch, hsettle, _⟩ := hsettle
      obtain ⟨_, rfl⟩ := commits_fetchGatewayStatus (gatewayInquiryId_valid hid) hfetch
      exact commits_settleCallback hsettle

theorem commits_checkPaymentStatus {transId : String} {result : CheckResult}
    (hcommits : (checkPaymentStatus env site.gateway transId (some orderId)).Commits
      world result world') :
    world'.1 = world.1 ∨ ∃ metadata did,
      (finalizePaidOrderFromGateway env orderId metadata).Commits world.1 did world'.1 := by
  unfold checkPaymentStatus at hcommits
  simp only at hcommits
  by_cases hvalid : isValidInquiryId (trim transId) = false
  · rw [if_pos hvalid, commits_pure] at hcommits
    exact .inl (by rw [hcommits.2])
  · rw [if_neg hvalid] at hcommits
    simp only [commits_bind, commits_reads] at hcommits
    obtain ⟨paid, _, ⟨_, rfl⟩, hrest⟩ := hcommits
    by_cases hpaid : paid = true
    · rw [if_pos hpaid, commits_pure] at hrest
      exact .inl (by rw [hrest.2])
    · rw [if_neg hpaid] at hrest
      unfold inquireAndFinalize at hrest
      simp only [commits_bind, commits_reads] at hrest
      obtain ⟨answer, asked, hfetch, verdict, _, ⟨hverdict, rfl⟩, hfinalize⟩ := hrest
      obtain ⟨_, rfl⟩ := commits_fetchGatewayStatus (by simpa using hvalid) hfetch
      cases verdict with
      | refused =>
          simp only [finalizeVerdict, commits_pure] at hfinalize
          exact .inl (by rw [← hfinalize.2])
      | alreadyPaid =>
          simp only [finalizeVerdict, commits_pure] at hfinalize
          exact .inl (by rw [← hfinalize.2])
      | finalize referenceId =>
          obtain ⟨_, _, _, hexpected, _⟩ := checkVerdict_eq_finalize hverdict
          obtain rfl := hexpected orderId rfl
          simp only [finalizeVerdict, commits_bind, commits_onFirst, commits_pure] at hfinalize
          obtain ⟨did, _, ⟨hfinalize, _⟩, _, rfl⟩ := hfinalize
          exact .inr ⟨_, did, hfinalize⟩

theorem commits_finalizePaid_single {metadata : Option FinalizeMetadata} {did : Bool}
    {db db' : Db} (hnone : db.bundles.find? orderId = none)
    (hcommits : (finalizePaidOrderFromGateway env orderId metadata).Commits db did db') :
    (finalizeSinglePaidOrderFromGateway env orderId metadata).Commits db did db' := by
  unfold finalizePaidOrderFromGateway at hcommits
  simp only [commits_bind, commits_reads] at hcommits
  obtain ⟨pending, _, ⟨hpending, rfl⟩, hrest⟩ := hcommits
  have hempty : pending = [] := by
    rw [← hpending]
    unfold pendingBundleOrders
    rw [hnone]
  rwa [if_neg (by simp [hempty])] at hrest

theorem commits_captureRequest {request : CaptureRequest}
    (hnone : world.1.bundles.find? orderId = none)
    (hcommits : (request.run env site orderId).Commits world (some orderId) world') :
    ∃ db, TrackedAs orderId world.1 db ∧ (world'.1 = db ∨ ∃ metadata did,
      (finalizeSinglePaidOrderFromGateway env orderId metadata).Commits db did world'.1) := by
  cases request with
  | webhook body =>
      simp only [CaptureRequest.run, commits_bind, commits_pure] at hcommits
      obtain ⟨response, _, hcallback, hresponse, rfl⟩ := hcommits
      obtain ⟨db, htracked, hdone⟩ := @commits_callback env site orderId _ _ _ _ hcallback
      refine ⟨db, htracked, ?_⟩
      rcases hdone with hsame | ⟨actedOn, metadata, did, hactedOn, hfinalize⟩
      · exact .inl hsame
      · rw [hresponse] at hactedOn
        obtain rfl := Option.some.inj hactedOn
        have hnone' : db.bundles.find? orderId = none := by rwa [htracked.bundles]
        exact .inr ⟨metadata, did, commits_finalizePaid_single hnone' hfinalize⟩
  | poll transId =>
      simp only [CaptureRequest.run, commits_bind, commits_pure] at hcommits
      obtain ⟨result, _, hcheck, _, rfl⟩ := hcommits
      refine ⟨world.1, TrackedAs.refl orderId world.1, ?_⟩
      rcases commits_checkPaymentStatus hcheck with hsame | ⟨metadata, did, hfinalize⟩
      · exact .inl hsame
      · exact .inr ⟨metadata, did, commits_finalizePaid_single hnone hfinalize⟩

end Requests

/-! ## What the link charged and what is recorded -/

/-- The link on the row: its address, and the amount kept with it. -/
def Order.heldLink (order : Order) : Option String × Option ℤ :=
  (order.posHostedPaymentUrl, order.posGatewayChargeKd)

def Order.linkAmount (order : Order) : Option ℤ :=
  order.posGatewayChargeKd.map fun charge => 10 * toFils charge

def RecordsLinkAmount (order : Order) (before after : List JournalEntry) : Prop :=
  ∃ amount ∈ order.linkAmount, assetDebits after - assetDebits before = amount ∧
    receivableCredits after - receivableCredits before = amount
  deriving Decidable

/-- The captures that come to this amount.  Under true accounting it is the total, if the
payment is new.  In the legacy model it is the part of the total that the wallet owes,
twice over if both references are free. -/
def CapturedAs (env : Env) (order : Order) (amount : ℤ) (db : Db) : Prop :=
  if isV20_3TrueAccountingEnabled env = true then
    order.totalPrice = amount ∧ ¬ Recorded db.journal (capturePaymentRef order.id)
  else
    (2 * min order.totalPrice (db.wallets order.customerId).debt = amount ∧
      ¬ Recorded db.journal (capturePaymentRef order.id) ∧
      ¬ Recorded db.journal (captureMirrorRef order.id)) ∨
    (min order.totalPrice (db.wallets order.customerId).debt = amount ∧
      (Recorded db.journal (capturePaymentRef order.id) ↔
        ¬ Recorded db.journal (captureMirrorRef order.id)))

theorem commits_ensurePaymentLink {env : Env} {provider : LinkProvider} {orderId : Uuid}
    {asked : Option ℤ} {link : PaymentLink} {row : Order} {db db' : Db}
    (hrow : db.orders.find? orderId = some row)
    (hnew : row.storedLink (linkCharge env row asked db) = none)
    (hcommits : (ensurePaymentLinkForUnpaidOrder env provider orderId asked).Commits
      db link db') :
    invoiceRemainingTolerance < linkCharge env row asked db ∧ db'.orders.find? orderId =
        some (linkedRow link (some (linkCharge env row asked db)) row) := by
  unfold ensurePaymentLinkForUnpaidOrder at hcommits
  simp only [commits_bind, commits_fetch, commits_require, commits_reads] at hcommits
  obtain ⟨order, _, ⟨hfind, rfl⟩, _, _, ⟨_, rfl⟩, charge, _, ⟨rfl, rfl⟩, hrest⟩ := hcommits
  rw [hrow] at hfind
  obtain rfl := Option.some.inj hfind
  obtain ⟨_, _, ⟨hcharge, rfl⟩, hmake⟩ := hrest
  rw [hnew] at hmake
  simp only [commits_bind, commits_reads, commits_require, commits_pure, updateOrder,
    commits_fetch, commits_modify] at hmake
  obtain ⟨_, _, hcreate, _, _, ⟨_, _, ⟨_, rfl⟩, rfl⟩, hpersisted⟩ := hmake
  obtain ⟨rfl, _⟩ := commits_createPaymentLink hcreate
  obtain ⟨_, _, ⟨_, rfl⟩, _, _, ⟨_, rfl⟩, rfl, rfl⟩ := hpersisted
  obtain rfl : row.id = orderId := Table.key_of_find? hrow
  refine ⟨hcharge, (Table.find?_update_self _ _ _ (linkedRow_id _ _)).trans ?_⟩
  rw [hrow]
  rfl

theorem GatewayFinalized.journal_append {env : Env} {order : Order}
    {incoming : Option String} {performerId : Uuid} {db db' : Db}
    (hfinalized : GatewayFinalized env order incoming performerId db db') :
    db'.journal = db.journal ++
      ((gatewayCompletion order performerId).call env db.wallets).newEntries db.journal := by
  obtain ⟨mid, hsettled, _, _, rfl⟩ := hfinalized.completes
  exact hsettled.journal_append

theorem captureRequest_journal {env : Env} {site : PaymentSite} {orderId : Uuid}
    {request : CaptureRequest} {row : Order} {world world' : Db × List Report}
    (henv : env.StoreHealthy) (hnone : world.1.bundles.find? orderId = none)
    (hrow : world.1.orders.find? orderId = some row) (hopen : row.status ≠ .COMPLETED)
    (hcommits : (request.run env site orderId).Commits world (some orderId) world')
    (hcompleted : (world'.1.orders.find? orderId).map Order.status = some .COMPLETED) :
    ∃ trackId performerId, world'.1.journal = world.1.journal ++
      ((gatewayCompletion { row with posGatewayTrackId := trackId } performerId).call env
        world.1.wallets).newEntries world.1.journal := by
  obtain ⟨db, htracked, hdone⟩ := commits_captureRequest hnone hcommits
  obtain ⟨trackId, hrow'⟩ := htracked.row row hrow
  have hstill : world'.1 ≠ db := by
    intro hsame
    rw [hsame, hrow'] at hcompleted
    exact hopen (Option.some.inj hcompleted)
  rcases hdone with hsame | ⟨metadata, did, hfinalize⟩
  · exact absurd hsame hstill
  · obtain ⟨order, hfind, hresult⟩ := commits_finalizeSingle henv hfinalize
    rw [hrow'] at hfind
    obtain rfl := Option.some.inj hfind
    generalize hafter : world'.1 = after at hresult hstill
    cases hresult with
    | duplicate => exact absurd rfl hstill
    | rejected => exact absurd rfl hstill
    | claimLost => exact absurd rfl hstill
    | @finalized _ performerId _ _ _ hfinalized =>
        refine ⟨trackId, performerId, ?_⟩
        rw [hfinalized.journal_append, htracked.journal, htracked.wallets]

theorem received_eq_iff {env : Env} {order : Order} {performerId : Uuid} {db : Db}
    {amount : ℤ} (hpos : 0 < amount) :
    ((gatewayCompletion order performerId).call env db.wallets).receivedAmount db.journal =
        amount ↔ CapturedAs env order amount db := by
  unfold CapturedAs
  by_cases htrue : isV20_3TrueAccountingEnabled env = true
  · rw [gatewayCall_received_of_true htrue, if_pos htrue]
    by_cases hrecorded : Recorded db.journal (capturePaymentRef order.id)
    · rw [if_pos hrecorded]
      simp only [hrecorded, not_true_eq_false, and_false, iff_false]
      omega
    · rw [if_neg hrecorded]
      simp only [hrecorded, not_false_eq_true, and_true]
      omega
  · rw [gatewayCall_received_of_legacy (by simpa using htrue), if_neg htrue]
    generalize min order.totalPrice (db.wallets order.customerId).debt = owed
    by_cases hrecorded : Recorded db.journal (capturePaymentRef order.id)
    · by_cases hmirrored : Recorded db.journal (captureMirrorRef order.id)
      · simp only [hrecorded, hmirrored, if_true, not_true_eq_false, and_false, iff_false, or_self]
        omega
      · simp only [hrecorded, hmirrored, if_true, if_false, not_true_eq_false,
          not_false_eq_true, and_false, and_true, false_or, iff_self]
        omega
    · by_cases hmirrored : Recorded db.journal (captureMirrorRef order.id)
      · simp only [hrecorded, hmirrored, if_true, if_false, not_true_eq_false,
          not_false_eq_true, and_false, and_true, false_or, iff_self]
        omega
      · simp only [hrecorded, hmirrored, if_false, not_false_eq_true, and_true, iff_true,
          and_false, or_false]
        omega

/-- A capture of the link that an order got is recorded as an external payment of what the
link charged if and only if the settlement comes to that amount. -/
theorem linkCapture_recorded_iff {making env : Env} {provider : LinkProvider}
    {site : PaymentSite} {orderId : Uuid} {asked : Option ℤ} {link : PaymentLink}
    {unlinked row : Order} {created linked : Db} {request : CaptureRequest}
    {world world' : Db × List Report} (henv : env.StoreHealthy)
    (hunlinked : created.orders.find? orderId = some unlinked)
    (hnew : unlinked.storedLink (linkCharge making unlinked asked created) = none)
    (hlink : (ensurePaymentLinkForUnpaidOrder making provider orderId asked).Commits
      created link linked)
    (hnone : world.1.bundles.find? orderId = none)
    (hrow : world.1.orders.find? orderId = some row)
    (hheld : (linked.orders.find? orderId).map Order.heldLink = some row.heldLink)
    (hopen : row.status ≠ .COMPLETED)
    (hcapture : (request.run env site orderId).Commits world (some orderId) world')
    (hcompleted : (world'.1.orders.find? orderId).map Order.status = some .COMPLETED) :
    RecordsLinkAmount row world.1.journal world'.1.journal ↔
      ∃ amount ∈ row.linkAmount, CapturedAs env row amount world.1 := by
  obtain ⟨hcharge, hstored⟩ := commits_ensurePaymentLink hunlinked hnew hlink
  obtain ⟨trackId, performerId, hjournal⟩ :=
    captureRequest_journal henv hnone hrow hopen hcapture hcompleted
  rw [hstored] at hheld
  have hamount : row.linkAmount =
      some (10 * toFils (linkCharge making unlinked asked created)) := by
    have hkept : some (linkCharge making unlinked asked created) = row.posGatewayChargeKd :=
      congrArg Prod.snd (Option.some.inj hheld)
    unfold Order.linkAmount
    rw [← hkept]
    rfl
  have hpos : 0 < 10 * toFils (linkCharge making unlinked asked created) := by
    unfold toFils
    unfold invoiceRemainingTolerance at hcharge
    omega
  have hreceived := @received_eq_iff env { row with posGatewayTrackId := trackId } performerId
    world.1 _ hpos
  unfold RecordsLinkAmount
  rw [hamount, hjournal, assetDebits_append, receivableCredits_append, add_sub_cancel_left,
    add_sub_cancel_left, SettlementCall.assetDebits_newEntries,
    SettlementCall.receivableCredits_newEntries gatewayCall_external]
  simp only [Option.mem_def, Option.some.injEq, exists_eq_left', and_self]
  exact hreceived

namespace Sample

def finalLedgerEnv : Env :=
  { Env.default with v20_4FinalLedger := true }

def linkProvider : LinkProvider :=
  ⟨none, "key", fun _ _ => .ok ⟨"pay/track-0001", some "track-0001"⟩⟩

/-- An order of five dinars whose sale was recognised when it was placed, and of which two
dinars were then paid over the counter. -/
def partlyPaidShop : Db :=
  ((recordPartialDebtPayment finalLedgerEnv (counterPayment 20000 0)).outcome
    { shop ⟨0, 50000⟩ ⟨[{ order linkOrderId with totalPrice := 50000 }],
        List.nodup_singleton _⟩ with
      journal :=
        [(paymentLinkReceivableEntry linkOrderId "customer" 50000).input.entry] }).2

def makeLink : Tx PaymentLink :=
  ensurePaymentLinkForUnpaidOrder finalLedgerEnv linkProvider linkOrderId none

def capturedPoll : Online (Option Uuid) :=
  (CaptureRequest.poll "track-0001").run finalLedgerEnv
    (constantSite (capturedPayment linkOrderId "CAPTURED")) linkOrderId

end Sample

theorem linkCapture_recorded_iff_sample :
    RecordsLinkAmount
        (linkedRow ⟨"pay/track-0001", some "track-0001"⟩ (some 20000)
          (Sample.order Sample.linkOrderId)) []
        (Sample.capturedPoll.outcome
          ((Sample.makeLink.outcome Sample.linkShop).2, [])).2.1.journal ↔
      ∃ amount ∈ (linkedRow ⟨"pay/track-0001", some "track-0001"⟩ (some 20000)
          (Sample.order Sample.linkOrderId)).linkAmount,
        CapturedAs Sample.finalLedgerEnv
          (linkedRow ⟨"pay/track-0001", some "track-0001"⟩ (some 20000)
            (Sample.order Sample.linkOrderId)) amount
          (Sample.makeLink.outcome Sample.linkShop).2 := by
  obtain ⟨link, hlink⟩ := @exists_commits_of_isOk _ _ _ Sample.makeLink Sample.linkShop
    (by decide +kernel)
  exact @linkCapture_recorded_iff Sample.finalLedgerEnv Sample.finalLedgerEnv
    Sample.linkProvider (Sample.constantSite
      (Sample.capturedPayment Sample.linkOrderId "CAPTURED")) Sample.linkOrderId none link
    (Sample.order Sample.linkOrderId) _ Sample.linkShop _ (.poll "track-0001")
    ((Sample.makeLink.outcome Sample.linkShop).2, []) _ (fun _ => rfl) rfl rfl hlink rfl
    (by decide +kernel) (by decide +kernel) (by decide) (commits_of_returns (by decide +kernel))
    (by decide +kernel)

theorem linkCapture_records_total :
    ¬ ∀ (making env : Env) (provider : LinkProvider) (site : PaymentSite) (orderId : Uuid)
        (asked : Option ℤ) (link : PaymentLink) (unlinked row : Order) (created linked : Db)
        (request : CaptureRequest) (world world' : Db × List Report),
      env.StoreHealthy → created.orders.find? orderId = some unlinked →
      unlinked.storedLink (linkCharge making unlinked asked created) = none →
      (ensurePaymentLinkForUnpaidOrder making provider orderId asked).Commits
        created link linked →
      world.1.bundles.find? orderId = none → world.1.orders.find? orderId = some row →
      (linked.orders.find? orderId).map Order.heldLink = some row.heldLink →
      row.status ≠ .COMPLETED →
      (request.run env site orderId).Commits world (some orderId) world' →
      (world'.1.orders.find? orderId).map Order.status = some .COMPLETED →
      RecordsLinkAmount row world.1.journal world'.1.journal := by
  intro hrecords
  obtain ⟨link, hlink⟩ := @exists_commits_of_isOk _ _ _ Sample.makeLink Sample.partlyPaidShop
    (by decide +kernel)
  have hsample := hrecords Sample.finalLedgerEnv Sample.finalLedgerEnv Sample.linkProvider
    (Sample.constantSite (Sample.capturedPayment Sample.linkOrderId "CAPTURED"))
    Sample.linkOrderId none link
    { Sample.order Sample.linkOrderId with totalPrice := 50000 }
    (linkedRow ⟨"pay/track-0001", some "track-0001"⟩ (some 30000)
      { Sample.order Sample.linkOrderId with totalPrice := 50000 })
    Sample.partlyPaidShop _ (.poll "track-0001")
    ((Sample.makeLink.outcome Sample.partlyPaidShop).2, [])
    (Sample.capturedPoll.outcome ((Sample.makeLink.outcome Sample.partlyPaidShop).2, [])).2
    (fun _ => rfl) (by decide +kernel) (by decide +kernel) hlink (by decide +kernel)
    (by decide +kernel) (by decide +kernel) (by decide)
    (commits_of_returns (by decide +kernel)) (by decide +kernel)
  revert hsample
  decide +kernel

end SafariLaundry
