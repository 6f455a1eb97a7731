import SafariLaundry.PublicEndpoints

/-!
# Who can make an order paid

Along any run of public requests an order becomes paid online only on a report of
the gateway that vouches for it, provided no request takes one of the ways around
the gateway.  The status poll is such a way: the request's own result word is
enough.
-/

namespace SafariLaundry

open Library Library.Transaction List

/-- The gateway attributes the payment to this order or bundle, by either of the
two readings that the code has of an answer. -/
def InquiryData.AttributedTo (data : InquiryData) (referenceId : Uuid) : Prop :=
  inquiryReference data = some referenceId ∨ callbackReference data = some referenceId
  deriving Decidable

def PaysDue (db : Db) (referenceId : Uuid) (data : InquiryData) : Prop :=
  ∃ due ∈ (getGatewayReferenceForFinalize referenceId db).map GatewayReference.amount,
    parseKwdMinor data.amount = some (toFils due)

instance (db : Db) (referenceId : Uuid) (data : InquiryData) :
    Decidable (PaysDue db referenceId data) :=
  match hdue : (getGatewayReferenceForFinalize referenceId db).map GatewayReference.amount with
  | none => .isFalse (by
      rintro ⟨due, hmem, _⟩
      rw [hdue] at hmem
      cases hmem)
  | some due => decidable_of_iff (parseKwdMinor data.amount = some (toFils due)) (by
      constructor
      · intro hamount
        exact ⟨due, hdue, hamount⟩
      · rintro ⟨due', hmem, hamount⟩
        rw [hdue] at hmem
        cases hmem
        exact hamount)

def Vouches (db : Db) (referenceId : Uuid) (answer : InquiryAnswer) : Prop :=
  answer.ok = true ∧ answer.Captured ∧ answer.data.AttributedTo referenceId ∧
    PaysDue db referenceId answer.data
  deriving Decidable

def PaidFor (world : Db × List Report) (order : Order) : Prop :=
  ∃ report ∈ world.2, Vouches world.1 order.id report.answer ∨
    ∃ bundleId ∈ order.posPaymentBundleId.toList, Vouches world.1 bundleId report.answer
  deriving Decidable

def PaidOnlyByGateway (before : Db) (world : Db × List Report) : Prop :=
  ∀ order ∈ world.1.orders.rows, order.status = .COMPLETED → order.posPaymentMethod = .ONLINE →
    (∃ old ∈ before.orders.rows, old.id = order.id ∧ old.Paid) ∨ PaidFor world order
  deriving Decidable

structure HonestStep (world world' : Db × List Report) : Prop where
  reports : ∃ new, world'.2 = world.2 ++ new
  orders : OrdersStep (fun referenceId => ∃ report ∈ world'.2,
    Vouches world.1 referenceId report.answer) world.1 world'.1

variable {references : Uuid → Prop} {referenceId : Uuid} {answer : InquiryAnswer} {id : String}

theorem OrdersStep.paysDue {db db' : Db} (hstep : OrdersStep references db db')
    {data : InquiryData} :
    PaysDue db' referenceId data ↔ PaysDue db referenceId data := by
  unfold PaysDue
  rw [hstep.reference_amount referenceId]

theorem OrdersStep.vouches {db db' : Db} (hstep : OrdersStep references db db') :
    Vouches db' referenceId answer ↔ Vouches db referenceId answer := by
  unfold Vouches
  rw [hstep.paysDue]

instance : Std.Refl HonestStep :=
  ⟨fun _ => ⟨⟨[], by simp⟩, Std.Refl.refl _⟩⟩

variable {world' : Db × List Report} {orderId : Uuid} {order : Order} {hints : ReturnHints}

theorem HonestStep.trans {world world'' : Db × List Report} (hfirst : HonestStep world world')
    (hsecond : HonestStep world' world'') :
    HonestStep world world'' := by
  obtain ⟨new, hnew⟩ := hfirst.reports
  obtain ⟨new', hnew'⟩ := hsecond.reports
  refine ⟨⟨new ++ new', by rw [hnew', hnew, append_assoc]⟩, ?_⟩
  have hbefore : OrdersStep (fun referenceId => ∃ report ∈ world''.2,
      Vouches world.1 referenceId report.answer) world.1 world'.1 := by
    apply hfirst.orders.mono
    rintro referenceId ⟨report, hmem, hvouches⟩
    exact ⟨report, by rw [hnew']; exact mem_append_left _ hmem, hvouches⟩
  refine hbefore.trans (hsecond.orders.mono ?_)
  rintro referenceId ⟨report, hmem, hvouches⟩
  exact ⟨report, hmem, hfirst.orders.vouches.1 hvouches⟩

instance : IsTrans (Db × List Report) HonestStep :=
  ⟨fun _ _ _ => HonestStep.trans⟩

variable {env : Env} {site : PaymentSite} {world : Db × List Report}

theorem keepsAt_onFirst_of_ordersStep {α : Type} {x : Tx α}
    (hkeeps : KeepsAt (OrdersStep references) world.1 x)
    (hvouched : ∀ referenceId, references referenceId →
      ∃ report ∈ world.2, Vouches world.1 referenceId report.answer) :
    KeepsAt HonestStep world (onFirst x) :=
  hkeeps.onFirst fun _ hstep => ⟨⟨[], by simp⟩, hstep.mono hvouched⟩

theorem keepsAt_attachGatewayTrackId {orderId : Option Uuid} {trackId : Option String} :
    KeepsAt HonestStep world (onFirst (attachGatewayTrackIdToOrder orderId trackId)) := by
  have hnone : ∀ referenceId, (fun _ : Uuid => False) referenceId →
      ∃ report ∈ world.2, Vouches world.1 referenceId report.answer :=
    fun _ hfalse => hfalse.elim
  refine keepsAt_onFirst_of_ordersStep ?_ hnone
  unfold attachGatewayTrackIdToOrder
  cases parseSafariOrderUuid orderId with
  | none => exact keepsAt_pure ()
  | some cleanOrderId =>
      cases validInquiryId trackId with
      | none => exact keepsAt_pure ()
      | some cleanTrackId =>
          refine (keepsAt_reads _).bind fun keeps mid _ => ?_
          unfold whenever
          by_cases hreplaced : keeps = false
          · rw [if_pos hreplaced]
            refine (keepsAt_fetch _ _).bind fun _ mid' _ => keepsAt_modify ?_
            exact ordersStep_updateWhere _ (withGatewayTrackId_id cleanTrackId) rfl rfl
              fun _ _ _ => ⟨rfl, rfl, rfl, .inl rfl⟩
          · rw [if_neg hreplaced]
            exact keepsAt_pure ()

theorem keepsAt_fetchGatewayStatus {gateway : Gateway} {trackId : String} :
    KeepsAt HonestStep world (fetchGatewayStatus gateway trackId) := by
  unfold fetchGatewayStatus
  by_cases hvalid : isValidInquiryId trackId = true
  · rw [if_pos hvalid]
    refine (keepsAt_reads _).bind fun answer mid _ => ?_
    refine KeepsAt.bind (keepsAt_modify ?_) fun _ _ _ => keepsAt_pure _
    exact ⟨⟨_, rfl⟩, ordersStep_of_orders_eq rfl rfl⟩
  · rw [if_neg hvalid]
    exact keepsAt_pure _

def MayFinalize (db : Db) (orderId : Uuid) (answer : InquiryAnswer) : Prop :=
  answer.ok = true ∧ answer.Captured ∧
    (inquiryReference answer.data = none ∨ inquiryReference answer.data = some orderId) ∧
    (ForcesFinalize answer.data ∨ PaysDue db orderId answer.data)

/-- What a captured answer has to be for a poll of the order: it names another order, or this
one, and then carries the amount due where its result word forces the order through. -/
def AnswersPoll (db : Db) (orderId : Uuid) (data : InquiryData) : Prop :=
  (∃ other ∈ inquiryReference data, other ≠ orderId) ∨
    data.AttributedTo orderId ∧ (ForcesFinalize data → PaysDue db orderId data)
  deriving Decidable

def HonestInquiry (site : PaymentSite) (world : Db × List Report) (orderId : Uuid)
    (id : String) : Prop :=
  ∀ n, world.2.length ≤ n → (site.gateway n (trim id)).ok = true →
    (site.gateway n (trim id)).Captured →
      AnswersPoll world.1 orderId (site.gateway n (trim id)).data

theorem HonestInquiry.after (hhonest : HonestInquiry site world orderId id)
    (hstep : HonestStep world world') :
    HonestInquiry site world' orderId id := by
  intro n hn hok hcaptured
  obtain ⟨new, hnew⟩ := hstep.reports
  rw [hnew, length_append] at hn
  have hanswers := hhonest n (by omega) hok hcaptured
  unfold AnswersPoll at hanswers ⊢
  rwa [hstep.orders.paysDue]

theorem HonestInquiry.vouches (hhonest : HonestInquiry site world orderId id) {n : ℕ}
    (hn : world.2.length ≤ n) (hmay : MayFinalize world.1 orderId (site.gateway n (trim id))) :
    Vouches world.1 orderId (site.gateway n (trim id)) := by
  obtain ⟨hok, hcaptured, href, hpays⟩ := hmay
  rcases hhonest n hn hok hcaptured with ⟨other, hother, hne⟩ | ⟨hattributed, hforced⟩
  · rw [hother] at href
    rcases href with hnone | hsame
    · cases hnone
    · exact absurd (Option.some.inj hsame) hne
  · exact ⟨hok, hcaptured, hattributed, hpays.elim hforced fun hdue => hdue⟩

theorem mayFinalize_of_checkVerdict {clean : String} {db : Db}
    (hverdict : checkVerdict clean (some orderId) answer db = .finalize referenceId) :
    referenceId = orderId ∧ MayFinalize db orderId answer := by
  obtain ⟨hok, hcaptured, href, hexpected, reference, hlookup, _, hmatches⟩ :=
    checkVerdict_eq_finalize hverdict
  have hsame : orderId = referenceId := hexpected orderId rfl
  subst hsame
  refine ⟨rfl, hok, hcaptured, ?_, ?_⟩
  · unfold checkReference at href
    cases hread : inquiryReference answer.data with
    | none => exact .inl rfl
    | some read =>
        rw [hread] at href
        exact .inr href
  · rcases hmatches with hforced | ⟨_, hamount, _⟩
    · exact .inl hforced
    · exact .inr ⟨reference.amount, by rw [hlookup]; rfl, hamount⟩

theorem keepsAt_checkPaymentStatus (henv : env.StoreHealthy)
    (hhonest : HonestInquiry site world orderId id) :
    KeepsAt HonestStep world (checkPaymentStatus env site.gateway id (some orderId)) := by
  unfold checkPaymentStatus
  by_cases hinvalid : isValidInquiryId (trim id) = false
  · rw [if_pos hinvalid]
    exact keepsAt_pure _
  · rw [if_neg hinvalid]
    apply KeepsAt.reads_bind
    by_cases hpaid : ((some orderId).any fun id => isGatewayReferencePaid id world.1) = true
    · rw [if_pos hpaid]
      exact keepsAt_pure _
    · rw [if_neg hpaid]
      unfold inquireAndFinalize
      refine keepsAt_fetchGatewayStatus.bind fun answer mid hfetch => ?_
      obtain ⟨hanswer, rfl⟩ :=
        commits_fetchGatewayStatus (by simpa using hinvalid) hfetch
      apply KeepsAt.reads_bind
      cases hverdict : checkVerdict (trim id) (some orderId) answer world.1 with
      | refused => exact keepsAt_pure _
      | alreadyPaid => exact keepsAt_pure _
      | finalize referenceId =>
          obtain ⟨rfl, hmay⟩ := mayFinalize_of_checkVerdict hverdict
          have hvouches : Vouches world.1 referenceId answer := by
            rw [hanswer] at hmay ⊢
            rw [trim_trim] at hmay ⊢
            exact hhonest.vouches le_rfl hmay
          refine KeepsAt.bind (keepsAt_onFirst_of_ordersStep
            (keepsAt_finalizePaid henv) ?_) fun _ _ _ => keepsAt_pure _
          rintro _ rfl
          exact ⟨_, mem_append_right _ (mem_singleton_self _), hvouches⟩

theorem keepsAt_attempt {x : Online Bool} (hx : KeepsAt HonestStep world x) :
    KeepsAt HonestStep world (attempt x) :=
  hx.tryCatch fun _ _ _ => keepsAt_pure false

theorem keepsAt_inquireForOrder (henv : env.StoreHealthy)
    (hhonest : HonestInquiry site world orderId id) :
    KeepsAt HonestStep world (inquireForOrder env site orderId id) := by
  unfold inquireForOrder tryFinalizeOrderIfUpaymentsCaptured
  refine KeepsAt.bind ?_ fun _ _ _ => keepsAt_pure _
  by_cases hempty : trim id = ""
  · rw [if_pos hempty]
    exact keepsAt_pure _
  · rw [if_neg hempty]
    apply keepsAt_checkPaymentStatus henv
    unfold HonestInquiry
    rw [trim_trim]
    exact hhonest

theorem keepsAt_firstFinalized {ask : String → Online Bool} {ids : List String}
    (hask : ∀ id ∈ ids, ∀ world', HonestStep world world' → KeepsAt HonestStep world' (ask id)) :
    KeepsAt HonestStep world (firstFinalized ask ids) := by
  induction ids generalizing world with
  | nil => exact keepsAt_pure false
  | cons id rest ih =>
      have hfirst := hask id (by simp) world (Std.Refl.refl world)
      refine hfirst.bind fun finalized mid hdone => ?_
      by_cases hfinalized : finalized = true
      · rw [if_pos hfinalized]
        exact keepsAt_pure true
      · rw [if_neg hfinalized]
        refine ih fun other hother world' hstep => ?_
        exact hask other (mem_cons_of_mem id hother) world'
          ((hfirst.of_commits hdone).trans hstep)

/-! ## Honest requests -/

def pollInquiryIds (site : PaymentSite) (order : Order) (hints : ReturnHints) :
    List String :=
  hints.returnTrack.toList ++ pollCandidates site order hints

def HonestPoll (site : PaymentSite) (world : Db × List Report) (order : Order)
    (hints : ReturnHints) : Prop :=
  ∀ id ∈ pollInquiryIds site order hints, HonestInquiry site world order.id id

theorem HonestPoll.after (hhonest : HonestPoll site world order hints)
    (hstep : HonestStep world world') :
    HonestPoll site world' order hints :=
  fun id hmem => (hhonest id hmem).after hstep

def OpenOrder (db : Db) (orderId : Uuid) : Prop :=
  ∃ order ∈ db.orders.find? orderId, order.status ≠ .COMPLETED
  deriving Decidable

/-- What a captured answer has to be for a webhook: if it names an open order it is `ok` and
carries the amount due, unless the stored link names another one; if it names none, neither the
stored link nor the request does. -/
def AnswersCallback (db : Db) (id : String) (body : PaymentCallbackDto)
    (answer : InquiryAnswer) : Prop :=
  match callbackReference answer.data with
  | some orderId => (∃ linked ∈ findOrderByTrackId id db, linked ≠ orderId) ∨
      (OpenOrder db orderId → answer.ok = true ∧ PaysDue db orderId answer.data)
  | none => ∀ orderId, findOrderByTrackId id db = some orderId ∨
      body.namedOrder = some orderId → ¬ OpenOrder db orderId

def HonestCallback (site : PaymentSite) (world : Db × List Report)
    (body : PaymentCallbackDto) : Prop :=
  let db := attached body.namedOrder body.callbackTrackId world.1
  ∀ id ∈ body.gatewayInquiryId db, ∀ n, world.2.length ≤ n →
    (site.gateway n (trim id)).Captured → AnswersCallback db id body (site.gateway n (trim id))

/-- A webhook settles no order but the one that such an answer is about. -/
theorem AnswersCallback.vouches {db : Db} {body : PaymentCallbackDto}
    (hanswers : AnswersCallback db id body answer)
    (hresolved : resolveCallbackOrder id body answer.data db = .ok order)
    (hcaptured : answer.Captured) (hstatus : order.status ≠ .COMPLETED) :
    Vouches db order.id answer := by
  unfold AnswersCallback at hanswers
  unfold resolveCallbackOrder at hresolved
  cases hnamed : callbackReference answer.data with
  | some orderId =>
      simp only [hnamed, Option.orElse_some] at hresolved hanswers
      cases hfind : db.orders.find? orderId with
      | none => simp [hfind] at hresolved
      | some found =>
          have hkey : found.id = orderId := Table.key_of_find? hfind
          simp only [hfind, hkey] at hresolved
          split_ifs at hresolved with hmismatch hlinked
          obtain rfl := Except.ok.inj hresolved
          rcases hanswers with ⟨linked, hlink, hne⟩ | hpays
          · exact absurd (by rw [Option.any_eq_true]; exact ⟨linked, hlink, by simpa using hne⟩)
              hlinked
          · obtain ⟨hok, hdue⟩ := hpays ⟨found, hfind, hstatus⟩
            exact ⟨hok, hcaptured, .inr (hkey ▸ hnamed), hkey ▸ hdue⟩
  | none =>
      simp only [hnamed, Option.orElse_eq_or, Option.none_or] at hresolved hanswers
      cases hresolve : (findOrderByTrackId id db).or body.namedOrder with
      | none => simp [hresolve] at hresolved
      | some orderId =>
          have hsource : findOrderByTrackId id db = some orderId ∨
              body.namedOrder = some orderId :=
            (Option.or_eq_some_iff.1 hresolve).imp_right And.right
          cases hfind : db.orders.find? orderId with
          | none => simp [hresolve, hfind] at hresolved
          | some found =>
              simp only [hresolve, hfind] at hresolved
              split_ifs at hresolved
              obtain rfl := Except.ok.inj hresolved
              exact absurd ⟨found, hfind, hstatus⟩ (hanswers orderId hsource)

/-- The request takes no way around the gateway: the status poll does not itself claim
the success of an unpaid order, and every captured answer that the request would
meet is of the kind that the endpoint asks for without checking it. -/
def HonestRequest (site : PaymentSite) (world : Db × List Report) : PublicRequest → Prop
  | .callback body => HonestCallback site world body
  | .status orderId hints => ∀ order, world.1.orders.find? orderId = some order →
      ¬ order.Paid → ¬ hints.ClaimSuccess ∧ HonestPoll site world order hints
  | .recheck orderId hints => ∀ order, world.1.orders.find? orderId = some order →
      ¬ order.Paid → HonestPoll site world order hints

theorem keepsAt_settleCallback {body : PaymentCallbackDto} (henv : env.StoreHealthy)
    (hlogged : ∃ report ∈ world.2, report.answer = answer)
    (hhonest : answer.Captured → AnswersCallback world.1 id body answer) :
    KeepsAt HonestStep world (onFirst (settleCallback env id body answer)) := by
  have hvouched : ∀ referenceId, Vouches world.1 referenceId answer →
      ∃ report ∈ world.2, Vouches world.1 referenceId report.answer := by
    obtain ⟨report, hmem, rfl⟩ := hlogged
    intro referenceId hvouches
    exact ⟨report, hmem, hvouches⟩
  refine keepsAt_onFirst_of_ordersStep ?_ hvouched
  unfold settleCallback
  apply KeepsAt.reads_bind
  cases hresolve : resolveCallbackOrder id body answer.data world.1 with
  | error response => exact keepsAt_pure response
  | ok order =>
      simp only
      by_cases hacts : answer.Captured ∧ order.status ≠ .COMPLETED
      · rw [if_pos hacts]
        refine KeepsAt.bind ?_ fun _ _ _ => keepsAt_pure _
        have hfinalize := @keepsAt_finalizePaid env order.id
          (some (callbackMetadata id body answer.data order)) world.1 henv
        unfold KeepsAt at hfinalize ⊢
        apply hfinalize.mono
        rintro _ rfl
        exact (hhonest hacts.1).vouches hresolve hacts.1 hacts.2
      · rw [if_neg hacts]
        exact keepsAt_pure _

theorem keepsAt_callback {body : PaymentCallbackDto} (henv : env.StoreHealthy)
    (hhonest : HonestCallback site world body) :
    KeepsAt HonestStep world (callback env site body) := by
  unfold callback
  refine keepsAt_attachGatewayTrackId.bind fun _ mid hattach => ?_
  obtain ⟨hattached, hlog⟩ := commits_onFirst.1 hattach
  have hdb := commits_attachGatewayTrackIdToOrder hattached
  refine (keepsAt_reads _).bind fun inquiryId mid' hread => ?_
  obtain ⟨rfl, rfl⟩ := commits_reads.1 hread
  cases hid : body.gatewayInquiryId mid.1 with
  | none => exact keepsAt_throw _
  | some id =>
      simp only
      refine keepsAt_fetchGatewayStatus.bind fun answer mid' hfetch => ?_
      have hvalid : isValidInquiryId id = true := gatewayInquiryId_valid hid
      obtain ⟨hanswer, rfl⟩ := commits_fetchGatewayStatus hvalid hfetch
      refine keepsAt_settleCallback henv
        ⟨_, mem_append_right _ (mem_singleton_self _), rfl⟩ ?_
      unfold HonestCallback at hhonest
      rw [← hdb] at hhonest
      have hanswered := hhonest id hid mid.2.length (by rw [hlog])
      rw [← hanswer] at hanswered
      exact hanswered

theorem keepsAt_finalizeFromReturnUrl (henv : env.StoreHealthy)
    (hhonest : HonestPoll site world order hints) :
    KeepsAt HonestStep world (finalizeFromReturnUrl env site order hints) := by
  unfold finalizeFromReturnUrl
  cases hreturn : hints.returnTrack with
  | none => exact keepsAt_pure false
  | some returnTrack =>
      simp only
      by_cases hresult : hints.gatewayResult ≠ ""
      · rw [if_pos hresult]
        apply keepsAt_attempt
        unfold tryFinalizeOrderFromTrustedUpaymentsReturn
        by_cases hempty : trim returnTrack = ""
        · rw [if_pos hempty]
          exact keepsAt_pure false
        · rw [if_neg hempty]
          refine KeepsAt.bind (keepsAt_checkPaymentStatus henv ?_)
            fun _ _ _ => keepsAt_pure _
          have hid := hhonest returnTrack (by simp [pollInquiryIds, hreturn])
          unfold HonestInquiry at hid ⊢
          rwa [trim_trim]
      · rw [if_neg hresult]
        exact keepsAt_pure false

theorem keepsAt_pollCandidates {ask : String → Online Bool}
    (hhonest : HonestPoll site world order hints)
    (hask : ∀ id world', HonestInquiry site world' order.id id →
      KeepsAt HonestStep world' (ask id)) :
    KeepsAt HonestStep world (firstFinalized ask (pollCandidates site order hints)) := by
  apply keepsAt_firstFinalized
  intro id hmem world' hstep
  apply hask
  exact (hhonest id (mem_append_right _ hmem)).after hstep

theorem keepsAt_pollUnpaidOrder (henv : env.StoreHealthy) (hclaims : ¬ hints.ClaimSuccess)
    (hhonest : HonestPoll site world order hints) :
    KeepsAt HonestStep world (pollUnpaidOrder env site order hints) := by
  have hforced : forceFinalizeFromHint env order hints = pure false := by
    unfold forceFinalizeFromHint
    cases hreturn : hints.returnTrack with
    | none => rfl
    | some returnTrack =>
        simp only
        rw [if_neg]
        intro hsuccess
        exact hclaims ⟨hsuccess, by rw [hreturn]; simp⟩
  unfold pollUnpaidOrder
  rw [hforced]
  refine (keepsAt_pure false).bind fun forced mid hpure => ?_
  obtain ⟨rfl, rfl⟩ := commits_pure.1 hpure
  rw [if_neg (by decide)]
  have htrusted := keepsAt_finalizeFromReturnUrl henv hhonest
  refine htrusted.bind fun trusted mid hdone => ?_
  by_cases hfinalized : trusted = true
  · rw [if_pos hfinalized]
    exact keepsAt_pure true
  · rw [if_neg hfinalized]
    refine keepsAt_pollCandidates (hhonest.after (htrusted.of_commits hdone)) ?_
    intro id world' hid
    exact keepsAt_attempt (keepsAt_inquireForOrder henv hid)

theorem keepsAt_recheckUnpaidOrder (henv : env.StoreHealthy)
    (hhonest : HonestPoll site world order hints) :
    KeepsAt HonestStep world (recheckUnpaidOrder env site order hints) := by
  unfold recheckUnpaidOrder
  have htrusted := keepsAt_finalizeFromReturnUrl henv hhonest
  refine htrusted.bind fun trusted mid hdone => ?_
  by_cases hfinalized : trusted = true
  · rw [if_pos hfinalized]
    exact keepsAt_pure true
  · rw [if_neg hfinalized]
    apply keepsAt_attempt
    refine keepsAt_pollCandidates (hhonest.after (htrusted.of_commits hdone)) ?_
    intro id world' hid
    exact keepsAt_inquireForOrder henv hid

theorem keepsAt_readPolledOrder :
    KeepsAt HonestStep world (readPolledOrder orderId) :=
  (keepsAt_require _ _).bind fun _ _ _ => keepsAt_fetch _ _

theorem commits_readPolledOrder (hcommits : (readPolledOrder orderId).Commits world order world') :
    world.1.orders.find? orderId = some order ∧ world' = world := by
  unfold readPolledOrder at hcommits
  simp only [commits_bind, commits_require, commits_fetch] at hcommits
  obtain ⟨_, _, ⟨_, rfl⟩, hfind, rfl⟩ := hcommits
  exact ⟨hfind, rfl⟩

theorem keepsAt_serve {request : PublicRequest} (henv : env.StoreHealthy)
    (hhonest : HonestRequest site world request) :
    KeepsAt HonestStep world (serve env site request) := by
  cases request with
  | callback body =>
      exact (keepsAt_callback henv hhonest).map _
  | status orderId hints =>
      refine KeepsAt.map _ ?_
      unfold runPublicOrderStatusPoll pollOrder
      refine keepsAt_readPolledOrder.bind fun order mid hread => ?_
      obtain ⟨hfind, rfl⟩ := commits_readPolledOrder hread
      refine keepsAt_attachGatewayTrackId.bind fun _ mid hattach => ?_
      refine KeepsAt.bind ?_ fun _ _ _ => keepsAt_pure _
      by_cases hpaid : order.Paid
      · rw [if_pos hpaid]
        exact keepsAt_pure false
      · rw [if_neg hpaid]
        obtain ⟨hclaims, hpoll⟩ := hhonest order hfind hpaid
        exact keepsAt_pollUnpaidOrder henv hclaims
          (hpoll.after (keepsAt_attachGatewayTrackId.of_commits hattach))
  | recheck orderId hints =>
      refine KeepsAt.map _ ?_
      unfold runRecheckPayment recheckOrder
      refine keepsAt_readPolledOrder.bind fun order mid hread => ?_
      obtain ⟨hfind, rfl⟩ := commits_readPolledOrder hread
      refine KeepsAt.bind ?_ fun _ _ _ => keepsAt_pure _
      by_cases hpaid : order.Paid
      · rw [if_pos hpaid]
        exact keepsAt_pure false
      · rw [if_neg hpaid]
        exact keepsAt_recheckUnpaidOrder henv (hhonest order hfind hpaid)

/-! ## Runs -/

/-- Every request of the run is honest in the state it is served in. -/
def EveryHonest (site : PaymentSite) :
    List (Env × PublicRequest) → Db × List Report → Prop
  | [], _ => True
  | (env, request) :: rest, world =>
      HonestRequest site world request ∧
        EveryHonest site rest ((serve env site request).outcome world).2

theorem honestStep_serveAll {steps : List (Env × PublicRequest)}
    (henv : ∀ step ∈ steps, step.1.StoreHealthy) (hhonest : EveryHonest site steps world) :
    HonestStep world (serveAll site steps world) := by
  induction steps generalizing world with
  | nil => exact Std.Refl.refl world
  | cons step rest ih =>
      rcases step with ⟨env, request⟩
      obtain ⟨hrequest, hrest⟩ := hhonest
      have hfirst : HonestStep world ((serve env site request).outcome world).2 :=
        keepsAt_serve (henv (env, request) (by simp)) hrequest
      exact hfirst.trans (ih (fun other hother => henv other (mem_cons_of_mem _ hother))
        hrest)

theorem HonestStep.paidOnlyByGateway (hstep : HonestStep world world') :
    PaidOnlyByGateway world.1 world' := by
  intro order hmem hcompleted _
  obtain ⟨i, hi, rfl⟩ := mem_iff_getElem.1 hmem
  have hlength := hstep.orders.orders.length_eq
  have hrow := hstep.orders.orders.get (hlength ▸ hi) hi
  have hold : world.1.orders.rows[i] ∈ world.1.orders.rows := getElem_mem _
  rcases hrow.status with hsame | ⟨referenceId, ⟨report, hreport, hvouches⟩, hconcerns⟩
  · exact .inl ⟨_, hold, hrow.id.symm, .inl (hsame ▸ hcompleted)⟩
  · refine .inr ⟨report, hreport, ?_⟩
    have hafter := hstep.orders.vouches.2 hvouches
    rcases (hrow.concernedBy referenceId).2 hconcerns with hid | hbundle
    · exact .inl (hid ▸ hafter)
    · exact .inr ⟨referenceId, by simpa using hbundle, hafter⟩

/-- No run of honest public requests makes an order paid without the gateway. -/
theorem publicRequests_paidOnlyByGateway (site : PaymentSite)
    (steps : List (Env × PublicRequest)) (world : Db × List Report)
    (henv : ∀ step ∈ steps, step.1.StoreHealthy) (hhonest : EveryHonest site steps world) :
    PaidOnlyByGateway world.1 (serveAll site steps world) :=
  (honestStep_serveAll henv hhonest).paidOnlyByGateway

namespace Sample

def linkOrderId : Uuid := "11111111-1111-4111-8111-111111111111"

/-- A shop with one open order of two dinars, under a key the gateway would use. -/
def linkShop : Db :=
  shop ⟨0, 0⟩ (oneOrder linkOrderId)

def unknownPayment : InquiryAnswer := ⟨false, InquiryData.empty⟩

def capturedPayment (referenceId : Uuid) (result : String) : InquiryAnswer where
  ok := true
  data := { InquiryData.empty with
    result := some result
    amount := .fils 2000
    orderId := some referenceId }

def constantSite (answer : InquiryAnswer) : PaymentSite where
  gateway := fun _ _ => answer
  hostedUrlInquiryId := fun _ => none

def emptyBody : PaymentCallbackDto where
  track_id := none
  trackId := none
  TrackID := none
  trans_id := none
  transId := none
  tran_id := none
  tranId := none
  orderId := none
  requested_order_id := none
  order_id := none
  invoice_id := none
  receipt_id := none
  ref := none
  reference := none
  customerExtraData := none
  trn_udf := none
  paymentId := none
  payment_id := none
  result := none

/-- A webhook that carries an inquiry id and nothing else. -/
def trackBody (id : String) : PaymentCallbackDto :=
  { emptyBody with track_id := some id }

def queryHints (id result : String) : ReturnHints where
  plainBodyTrackIds := []
  bodyTrackIds := []
  queryTrackIds := [some id]
  headerTrackId := none
  rawUrlTrackId := ""
  queryObjectTrackIds := []
  refererTrackId := ""
  plainBodyResult := none
  bodyResult := none
  queryResult := some result
  rawUrlResult := ""
  refererResult := ""

end Sample

theorem publicRequests_paidOnlyByGateway_sample :
    PaidOnlyByGateway Sample.linkShop
      (serveAll (Sample.constantSite (Sample.capturedPayment Sample.linkOrderId "CAPTURED"))
        [(Env.default, .callback (Sample.trackBody "pay-1-v2")),
          (Env.default, .recheck Sample.linkOrderId (Sample.queryHints "pay-1-v2" ""))]
        (Sample.linkShop, [])) := by
  refine publicRequests_paidOnlyByGateway _ _ (Sample.linkShop, []) ?_ ⟨?_, ?_, trivial⟩
  · intro step hstep
    simp only [mem_cons, not_mem_nil, or_false] at hstep
    rcases hstep with rfl | rfl
    · exact fun _ => rfl
    · exact fun _ => rfl
  · intro id _ n _ _
    change (∃ linked ∈ findOrderByTrackId id Sample.linkShop, linked ≠ Sample.linkOrderId) ∨
      (OpenOrder Sample.linkShop Sample.linkOrderId → _)
    refine .inr fun _ => ⟨rfl, ?_⟩
    change PaysDue Sample.linkShop Sample.linkOrderId
      (Sample.capturedPayment Sample.linkOrderId "CAPTURED").data
    decide +kernel
  · intro order hfind hunpaid
    have hpaid : ∀ order ∈ ((serve Env.default (Sample.constantSite (Sample.capturedPayment
        Sample.linkOrderId "CAPTURED")) (.callback (Sample.trackBody "pay-1-v2"))).outcome
          (Sample.linkShop, [])).2.1.orders.rows, order.Paid := by decide +kernel
    exact absurd (hpaid order (Table.mem_of_find? hfind)) hunpaid

theorem publicRequests_fail :
    (∀ n id, ¬ ((Sample.constantSite Sample.unknownPayment).gateway n id).Captured) ∧
      ¬ PaidOnlyByGateway Sample.linkShop
        (serveAll (Sample.constantSite Sample.unknownPayment)
          [(Env.default, .status Sample.linkOrderId (Sample.queryHints "made-up-id" "CAPTURED"))]
          (Sample.linkShop, [])) := by
  constructor
  · intro _ _
    change ¬ Sample.unknownPayment.Captured
    decide +kernel
  · decide +kernel

end SafariLaundry
