import SafariLaundry.Settlement

/-!
# What a settlement adds to the journal

The six stages of a settlement write under six different references, so posting
them adds exactly those whose reference was free.  `newEntries` lists them with
all gates written out; every figure of a settled journal is then a sum of at
most five terms.
-/

namespace SafariLaundry

open Library Library.Bookkeeping Library.Transaction List

namespace SettlementCall

variable {call : SettlementCall}

theorem safeTake_nonneg (htotal : 0 ≤ call.order.totalPrice) : 0 ≤ call.safeTake := by
  unfold safeTake
  by_cases huse : call.ShouldUseWallet ∧ 0 < call.wallet.balance
  · rw [if_pos huse]
    exact le_min huse.2.le htotal
  · rw [if_neg huse]

theorem safeTake_le_total (htotal : 0 ≤ call.order.totalPrice) :
    call.safeTake ≤ call.order.totalPrice := by
  unfold safeTake
  by_cases huse : call.ShouldUseWallet ∧ 0 < call.wallet.balance
  · rw [if_pos huse]
    exact min_le_right _ _
  · rw [if_neg huse]
    exact htotal

theorem shortfall_nonneg (htotal : 0 ≤ call.order.totalPrice) : 0 ≤ call.shortfall := by
  have htake := safeTake_le_total htotal
  unfold shortfall
  omega

theorem addInvoiceDebt_iff :
    call.AddInvoiceDebt ↔ ¬ call.ExternalCoversShortfall := by
  unfold AddInvoiceDebt ExternalCoversShortfall
  cases call.order.posPaymentMethod with
  | none => simp
  | some method => cases method <;> simp

theorem not_shouldUseWallet_of_external (hexternal : call.ExternalCoversShortfall) :
    ¬ call.ShouldUseWallet := by
  unfold ExternalCoversShortfall at hexternal
  unfold ShouldUseWallet
  rcases hexternal with h | h | h | h <;> simp [h]

theorem safeTake_of_external (hexternal : call.ExternalCoversShortfall) :
    call.safeTake = 0 := by
  unfold safeTake
  rw [if_neg fun huse => not_shouldUseWallet_of_external hexternal huse.1]

theorem shortfall_of_external (hexternal : call.ExternalCoversShortfall) :
    call.shortfall = call.order.totalPrice := by
  unfold shortfall
  rw [safeTake_of_external hexternal, sub_zero]

theorem debtWithInvoice_of_external (hexternal : call.ExternalCoversShortfall) :
    call.debtWithInvoice = call.wallet.debt := by
  unfold debtWithInvoice
  rw [if_neg fun hadd => addInvoiceDebt_iff.1 hadd.1 hexternal]

theorem debtWithInvoice_of_not_external (htotal : 0 ≤ call.order.totalPrice)
    (hexternal : ¬ call.ExternalCoversShortfall) :
    call.debtWithInvoice = call.wallet.debt + call.shortfall := by
  have hshort := shortfall_nonneg htotal
  unfold debtWithInvoice
  by_cases hpos : 0 < call.shortfall
  · rw [if_pos ⟨addInvoiceDebt_iff.2 hexternal, hpos⟩]
  · rw [if_neg fun hadd => hpos hadd.2]
    omega

theorem addedInvoiceDebt_of_external (hexternal : call.ExternalCoversShortfall) :
    call.addedInvoiceDebt = 0 := by
  unfold addedInvoiceDebt
  rw [if_neg fun hadd => addInvoiceDebt_iff.1 hadd.1 hexternal]

theorem addedInvoiceDebt_of_not_external (htotal : 0 ≤ call.order.totalPrice)
    (hexternal : ¬ call.ExternalCoversShortfall) :
    call.addedInvoiceDebt = call.shortfall := by
  have hshort := shortfall_nonneg htotal
  unfold addedInvoiceDebt
  by_cases hpos : 0 < call.shortfall
  · rw [if_pos ⟨addInvoiceDebt_iff.2 hexternal, hpos⟩]
  · rw [if_neg fun hadd => hpos hadd.2]
    omega

theorem addedSubscriptionDebt_eq_zero : call.addedSubscriptionDebt = 0 := by
  have hbalance : call.newBalance < 0 → call.newBalance = call.wallet.balance := by
    unfold newBalance safeTake
    by_cases huse : call.ShouldUseWallet ∧ 0 < call.wallet.balance
    · rw [if_pos huse]
      have hmin := min_le_left call.wallet.balance call.order.totalPrice
      omega
    · rw [if_neg huse]
      omega
  unfold addedSubscriptionDebt
  simp only
  rw [if_neg]
  rintro ⟨_, hlt⟩
  by_cases hneg : call.newBalance < 0
  · rw [if_pos hneg, hbalance hneg] at hlt
    rw [hbalance hneg] at hneg
    rw [if_pos hneg] at hlt
    omega
  · rw [if_neg hneg] at hlt
    by_cases hbefore : call.wallet.balance < 0
    · rw [if_pos hbefore] at hlt
      omega
    · rw [if_neg hbefore] at hlt
      omega

def asset (call : SettlementCall) : Option JournalAccount :=
  call.order.posPaymentMethod.bind externalPaymentAssetAccount

theorem asset_isSome_iff :
    call.asset.isSome = true ↔ call.ExternalCoversShortfall := by
  unfold asset ExternalCoversShortfall
  cases call.order.posPaymentMethod with
  | none => simp
  | some method => cases method <;> simp [externalPaymentAssetAccount]

theorem asset_of_not_external (hexternal : ¬ call.ExternalCoversShortfall) :
    call.asset = none := by
  cases hasset : call.asset with
  | none => rfl
  | some account => exact absurd (asset_isSome_iff.1 (by simp [hasset])) hexternal

theorem exists_asset_of_external (hexternal : call.ExternalCoversShortfall) :
    ∃ account, call.asset = some account ∧ account.Asset := by
  obtain ⟨account, haccount⟩ := Option.isSome_iff_exists.1 (asset_isSome_iff.2 hexternal)
  refine ⟨account, haccount, ?_⟩
  unfold asset at haccount
  obtain ⟨method, _, hmethod⟩ := Option.bind_eq_some_iff.1 haccount
  exact externalPaymentAssetAccount_asset hmethod

def methodName (call : SettlementCall) : String :=
  (call.order.posPaymentMethod.map PosPaymentMethod.name).getD ""

def externalRef (call : SettlementCall) : SourceRef :=
  externalPaymentRef [.id call.orderId, .word call.methodName, .word call.extra.trigger]

def externalPosting (call : SettlementCall) (account : JournalAccount) : PairPosting where
  source := "EXTERNAL_PAYMENT"
  sourceRef := call.externalRef
  actorUserId := call.actorId
  customerId := call.order.customerId
  orderId := some call.orderId
  debited := account
  credited := .ACCOUNTS_RECEIVABLE
  amount := call.externalPayment

theorem trigger_cases (extra : SettlementMetadata) :
    extra.trigger = "CALL_CENTER_MANUAL" ∨ extra.trigger = "PAYMENT_LINK_CALLBACK" ∨
      extra.trigger = "WALLET_SETTLEMENT" := by
  unfold SettlementMetadata.trigger
  by_cases hmanual : extra.debtSettlementViaCallCenter = true
  · simp [hmanual]
  · by_cases hlink : extra.debtSettlementViaLink = true
    · simp [hmanual, hlink]
    · simp [hmanual, hlink]

theorem origin_of_external {method : PosPaymentMethod}
    (hmethod : call.order.posPaymentMethod = some method) (hexternal : method.External) :
    call.origin = method.name := by
  have hcovers : call.ExternalCoversShortfall := by
    unfold ExternalCoversShortfall
    unfold PosPaymentMethod.External at hexternal
    simpa [hmethod] using hexternal
  unfold origin
  rw [if_pos hcovers, hmethod]
  rfl

theorem origin_of_not_external (hexternal : ¬ call.ExternalCoversShortfall) :
    call.origin = call.extra.trigger := by
  unfold origin
  rw [if_neg hexternal]

theorem paymentAssetAccount_paydownMirror :
    paymentAssetAccount call.paydownMirror = call.asset := by
  have hvoid : ¬ IncludesText (lower "Invoice debt settled (wallet settlement)") "void" := by
    decide
  have hedit : ¬ IncludesText (lower "Invoice debt settled (wallet settlement)") "edit" := by
    decide
  by_cases hexternal : call.ExternalCoversShortfall
  · unfold asset
    rcases hexternal with hmethod | hmethod | hmethod | hmethod <;>
      simp [paymentAssetAccount, paydownMirror, paydownRef, hmethod,
        origin_of_external hmethod (by decide), SourceRef.Includes, PosPaymentMethod.name,
        externalPaymentAssetAccount]
  · rw [asset_of_not_external hexternal]
    have horigin := origin_of_not_external hexternal
    have hothers := hexternal
    unfold ExternalCoversShortfall at hothers
    push Not at hothers
    rcases trigger_cases call.extra with htrigger | htrigger | htrigger <;>
      simp [paymentAssetAccount, paydownMirror, paydownRef, horigin, htrigger, hothers,
        SourceRef.Includes, SourceRef.StartsWith, hvoid, hedit]

theorem not_startsWith_wallet_paydownRef :
    ¬ call.paydownRef.StartsWith ["PAYMENT", "WALLET"] := by
  by_cases hexternal : call.ExternalCoversShortfall
  · rcases hexternal with hmethod | hmethod | hmethod | hmethod <;>
      simp [paydownRef, SourceRef.StartsWith, PosPaymentMethod.name,
        origin_of_external hmethod (by decide)]
  · have horigin := origin_of_not_external hexternal
    rcases trigger_cases call.extra with htrigger | htrigger | htrigger <;>
      simp [paydownRef, SourceRef.StartsWith, horigin, htrigger]

/-! ## The new entries -/

def IssuesAnew (call : SettlementCall) (journal : List JournalEntry) : Prop :=
  call.Issues journal ∧ ¬ Recorded journal (invoiceIssuedRef call.orderId)
  deriving Decidable

def MirrorsShortfallAnew (call : SettlementCall) (journal : List JournalEntry) : Prop :=
  call.trueAccounting = false ∧ 0 < call.addedInvoiceDebt ∧ ¬ Recorded journal call.shortfallRef
  deriving Decidable

def AbsorbsAnew (call : SettlementCall) (journal : List JournalEntry) : Prop :=
  0 < call.safeTake ∧ ¬ Recorded journal call.absorption.sourceRef
  deriving Decidable

def ReceivesAnew (call : SettlementCall) (journal : List JournalEntry) : Prop :=
  0 < call.externalPayment ∧ ¬ Recorded journal call.externalRef
  deriving Decidable

def MirrorsPaymentAnew (call : SettlementCall) (journal : List JournalEntry) : Prop :=
  call.trueAccounting = false ∧ 0 < call.debtPaydown ∧ ¬ Recorded journal call.paydownRef
  deriving Decidable

def externalNewEntries (call : SettlementCall) (journal : List JournalEntry) :
    List JournalEntry :=
  match call.asset with
  | some account =>
      if call.ReceivesAnew journal then [(call.externalPosting account).input.entry] else []
  | none => []

def paydownNewEntries (call : SettlementCall) (journal : List JournalEntry) :
    List JournalEntry :=
  match call.asset with
  | some account =>
      if call.MirrorsPaymentAnew journal then
        [(mirrorPaymentEntry call.paydownMirror account).input.entry]
      else []
  | none => []

def newEntries (call : SettlementCall) (journal : List JournalEntry) :
    List JournalEntry :=
  (if call.IssuesAnew journal then [call.issuance.input.entry] else []) ++
    (if call.MirrorsShortfallAnew journal then
      [(mirrorInvoiceEntry call.shortfallMirror).input.entry] else []) ++
    (if call.AbsorbsAnew journal then [call.absorption.input.entry] else []) ++
    call.externalNewEntries journal ++ call.paydownNewEntries journal

/-- A posting adds its entry under exactly the condition `P`. -/
theorem unposted_pair (posting : PairPosting) (journal : List JournalEntry) {P : Prop} [Decidable P]
    (hnew : P ↔ 0 < posting.amount ∧ ¬ Recorded journal posting.sourceRef) :
    unposted JournalEntry.sourceRef journal posting.entries =
      if P then [posting.input.entry] else [] := by
  by_cases hamount : 0 < posting.amount
  · rw [PairPosting.entries_of_pos hamount, unposted_cons, unposted_nil, append_nil]
    have hkey : posting.input.entry.sourceRef = posting.sourceRef := rfl
    rw [hkey]
    by_cases hrecorded : Recorded journal posting.sourceRef
    · rw [if_pos hrecorded, if_neg fun hP => (hnew.1 hP).2 hrecorded]
    · rw [if_neg hrecorded, if_pos (hnew.2 ⟨hamount, hrecorded⟩)]
  · rw [PairPosting.entries_of_nonpos (by omega), unposted_nil,
      if_neg fun hP => hamount (hnew.1 hP).1]

theorem unposted_issuanceEntries (journal : List JournalEntry) :
    unposted JournalEntry.sourceRef journal (call.issuanceEntries journal) =
      if call.IssuesAnew journal then [call.issuance.input.entry] else [] := by
  unfold issuanceEntries
  by_cases hissues : call.Issues journal
  · rw [if_pos hissues]
    apply unposted_pair
    constructor
    · intro hnew
      exact ⟨hissues.2.1, hnew.2⟩
    · intro hfree
      exact ⟨hissues, hfree.2⟩
  · have hnot : ¬ call.IssuesAnew journal := fun hnew => hissues hnew.1
    rw [if_neg hissues, unposted_nil, if_neg hnot]

theorem recordedShortfall_of_legacy (hlegacy : call.trueAccounting = false) :
    call.recordedShortfall = call.addedInvoiceDebt := by
  simp [recordedShortfall, hlegacy]

theorem unposted_shortfallEntries (journal : List JournalEntry) :
    unposted JournalEntry.sourceRef journal call.shortfallEntries =
      if call.MirrorsShortfallAnew journal then
        [(mirrorInvoiceEntry call.shortfallMirror).input.entry] else [] := by
  unfold shortfallEntries
  by_cases hposts : 0 < call.recordedShortfall ∧ call.trueAccounting = false
  · have hamount := recordedShortfall_of_legacy hposts.2
    rw [if_pos hposts]
    apply unposted_pair
    constructor
    · intro hnew
      exact ⟨hposts.1, hnew.2.2⟩
    · intro hfree
      exact ⟨hposts.2, hamount ▸ hposts.1, hfree.2⟩
  · have hnot : ¬ call.MirrorsShortfallAnew journal := by
      rintro ⟨hlegacy, hpos, _⟩
      exact hposts ⟨(recordedShortfall_of_legacy hlegacy) ▸ hpos, hlegacy⟩
    rw [if_neg hposts, unposted_nil, if_neg hnot]

theorem overuseEntries_eq_nil : call.overuseEntries = [] := by
  unfold overuseEntries
  rw [addedSubscriptionDebt_eq_zero]
  rfl

theorem absorption_amount : call.absorption.amount = call.safeTake := by
  unfold absorption
  by_cases htrue : call.trueAccounting = true
  · rw [if_pos htrue]
    rfl
  · rw [if_neg htrue]
    rfl

theorem unposted_absorptionEntries (journal : List JournalEntry) :
    unposted JournalEntry.sourceRef journal call.absorptionEntries =
      if call.AbsorbsAnew journal then [call.absorption.input.entry] else [] := by
  unfold absorptionEntries
  by_cases htake : 0 < call.safeTake
  · rw [if_pos htake]
    apply unposted_pair
    rw [absorption_amount]
    exact Iff.rfl
  · have hnot : ¬ call.AbsorbsAnew journal := fun hnew => htake hnew.1
    rw [if_neg htake, unposted_nil, if_neg hnot]

theorem externalPaymentEntry_eq {method : PosPaymentMethod}
    (hmethod : call.order.posPaymentMethod = some method) (account : JournalAccount) :
    externalPaymentEntry (call.externalArgs method) account =
      call.externalPosting account := by
  simp [externalPaymentEntry, externalArgs, externalPosting, externalRef, methodName, hmethod]

theorem unposted_externalEntries (journal : List JournalEntry) :
    unposted JournalEntry.sourceRef journal call.externalEntries =
      call.externalNewEntries journal := by
  unfold externalEntries externalNewEntries asset
  cases hmethod : call.order.posPaymentMethod with
  | none => rfl
  | some method =>
      simp only [Option.bind_some]
      by_cases hpos : 0 < call.externalPayment
      · rw [if_pos hpos]
        unfold externalPaymentEntries
        have hargs : (call.externalArgs method).paymentMethod = method := rfl
        rw [hargs]
        cases externalPaymentAssetAccount method with
        | none => rfl
        | some account =>
            simp only
            rw [externalPaymentEntry_eq hmethod]
            exact unposted_pair _ _ Iff.rfl
      · have hnot : ¬ call.ReceivesAnew journal := fun hnew => hpos hnew.1
        rw [if_neg hpos, unposted_nil]
        cases externalPaymentAssetAccount method with
        | none => rfl
        | some account => simp only [if_neg hnot]

theorem unposted_paydownEntries (journal : List JournalEntry) :
    unposted JournalEntry.sourceRef journal call.paydownEntries =
      call.paydownNewEntries journal := by
  unfold paydownEntries paydownNewEntries
  by_cases hpaid : 0 < call.debtPaydown ∧ call.trueAccounting = false
  · rw [if_pos hpaid]
    unfold mirrorEntries
    have hsource : call.paydownMirror.source = .PAYMENT := rfl
    have href : call.paydownMirror.sourceRef = call.paydownRef := rfl
    simp only [hsource, href, if_neg not_startsWith_wallet_paydownRef]
    rw [paymentAssetAccount_paydownMirror]
    cases call.asset with
    | none => rfl
    | some account =>
        apply unposted_pair
        constructor
        · intro hnew
          exact ⟨hpaid.1, hnew.2.2⟩
        · intro hfree
          exact ⟨hpaid.2, hpaid.1, hfree.2⟩
  · have hnot : ¬ call.MirrorsPaymentAnew journal :=
      fun hnew => hpaid ⟨hnew.2.1, hnew.1⟩
    rw [if_neg hpaid, unposted_nil]
    cases call.asset with
    | none => rfl
    | some account => simp only [if_neg hnot]

theorem unposted_entries (journal : List JournalEntry) :
    unposted JournalEntry.sourceRef journal (call.entries journal) =
      call.newEntries journal := by
  unfold entries newEntries
  rw [overuseEntries_eq_nil]
  simp only [unposted_append, unposted_issuanceEntries, unposted_shortfallEntries,
    unposted_absorptionEntries, unposted_externalEntries,
    unposted_paydownEntries, append_nil]

theorem pair_refs_sublist (posting : PairPosting) :
    (posting.entries.map JournalEntry.sourceRef).Sublist [posting.sourceRef] := by
  unfold PairPosting.entries
  by_cases hamount : posting.amount ≤ 0
  · rw [if_pos hamount]
    exact nil_sublist _
  · rw [if_neg hamount]
    exact List.Sublist.refl _

/-- The references of the five stages that can post, in order. -/
def stageRefs (call : SettlementCall) : List SourceRef :=
  [invoiceIssuedRef call.orderId] ++ [call.shortfallRef] ++ [call.absorption.sourceRef] ++
    [call.externalRef] ++ [call.paydownRef]

theorem externalEntries_refs_sublist :
    (call.externalEntries.map JournalEntry.sourceRef).Sublist [call.externalRef] := by
  unfold externalEntries externalPaymentEntries
  cases hmethod : call.order.posPaymentMethod with
  | none => exact nil_sublist _
  | some method =>
      have hargs : (call.externalArgs method).paymentMethod = method := rfl
      simp only [hargs]
      by_cases hpos : 0 < call.externalPayment
      · rw [if_pos hpos]
        cases externalPaymentAssetAccount method with
        | none => exact nil_sublist _
        | some account =>
            simp only
            rw [externalPaymentEntry_eq hmethod]
            exact pair_refs_sublist (call.externalPosting account)
      · rw [if_neg hpos]
        exact nil_sublist _

theorem paydownEntries_refs_sublist :
    (call.paydownEntries.map JournalEntry.sourceRef).Sublist [call.paydownRef] := by
  unfold paydownEntries
  by_cases hpaid : 0 < call.debtPaydown ∧ call.trueAccounting = false
  · rw [if_pos hpaid]
    unfold mirrorEntries
    have hsource : call.paydownMirror.source = .PAYMENT := rfl
    have href : call.paydownMirror.sourceRef = call.paydownRef := rfl
    simp only [hsource, href, if_neg not_startsWith_wallet_paydownRef]
    cases paymentAssetAccount call.paydownMirror with
    | none => exact nil_sublist _
    | some account =>
        exact pair_refs_sublist (mirrorPaymentEntry call.paydownMirror account)
  · rw [if_neg hpaid]
    exact nil_sublist _

theorem entries_refs_sublist (journal : List JournalEntry) :
    ((call.entries journal).map JournalEntry.sourceRef).Sublist call.stageRefs := by
  have hissuance :
      ((call.issuanceEntries journal).map JournalEntry.sourceRef).Sublist
        [invoiceIssuedRef call.orderId] := by
    unfold issuanceEntries
    split_ifs
    · exact pair_refs_sublist call.issuance
    · exact nil_sublist _
  have hshortfall :
      (call.shortfallEntries.map JournalEntry.sourceRef).Sublist [call.shortfallRef] := by
    unfold shortfallEntries
    split_ifs
    · exact pair_refs_sublist (mirrorInvoiceEntry call.shortfallMirror)
    · exact nil_sublist _
  have habsorption :
      (call.absorptionEntries.map JournalEntry.sourceRef).Sublist [call.absorption.sourceRef] := by
    unfold absorptionEntries
    split_ifs
    · exact pair_refs_sublist call.absorption
    · exact nil_sublist _
  unfold entries stageRefs
  rw [overuseEntries_eq_nil, append_nil]
  simp only [map_append]
  exact (((hissuance.append hshortfall).append habsorption).append
    externalEntries_refs_sublist).append paydownEntries_refs_sublist

theorem absorption_ref_cases :
    call.absorption.sourceRef = walletAbsorptionV3Ref call.orderId ∨
      call.absorption.sourceRef = walletAbsorptionRef call.orderId := by
  unfold absorption
  by_cases htrue : call.trueAccounting = true
  · rw [if_pos htrue]
    exact .inl rfl
  · rw [if_neg htrue]
    exact .inr rfl

theorem stageRefs_nodup : call.stageRefs.Nodup := by
  rcases @absorption_ref_cases call with habsorption | habsorption <;>
    simp [stageRefs, habsorption, invoiceIssuedRef, shortfallRef, walletAbsorptionV3Ref,
      walletAbsorptionRef, externalRef, externalPaymentRef, paydownRef]

theorem entries_refs_nodup (journal : List JournalEntry) :
    ((call.entries journal).map JournalEntry.sourceRef).Nodup :=
  stageRefs_nodup.sublist (entries_refs_sublist journal)

end SettlementCall

theorem Settled.journal_append {env : Env} {call : SettlementCall} {db db' : Db}
    (hsettled : Settled env call db db') :
    db'.journal = db.journal ++ call.newEntries db.journal := by
  rw [hsettled.journal, postAll_eq_append _ (SettlementCall.entries_refs_nodup _),
    SettlementCall.unposted_entries]

/-! ## The figures -/

namespace SettlementCall

variable {call : SettlementCall}

theorem customerNet_if (account : JournalAccount) {customerId : Uuid}
    (posting : PairPosting) (hcustomer : posting.customerId = customerId)
    (P : Prop) [Decidable P] :
    customerNet account customerId (if P then [posting.input.entry] else []) = if P then
        (if posting.debited = account then posting.amount else 0) -
          (if posting.credited = account then posting.amount else 0)
      else 0 := by
  subst hcustomer
  by_cases hP : P
  · rw [if_pos hP, if_pos hP, customerNet_pair]
  · rw [if_neg hP, if_neg hP, customerNet_nil]

theorem assetDebits_if (posting : PairPosting) (P : Prop) [Decidable P] :
    assetDebits (if P then [posting.input.entry] else []) =
      if P then (if posting.debited.Asset then posting.amount else 0) else 0 := by
  by_cases hP : P
  · rw [if_pos hP, if_pos hP, assetDebits_pair]
  · rw [if_neg hP, if_neg hP, assetDebits_nil]

def receivedAmount (call : SettlementCall) (journal : List JournalEntry) : ℤ :=
  if call.ExternalCoversShortfall then
    (if call.ReceivesAnew journal then call.externalPayment else 0) +
      (if call.MirrorsPaymentAnew journal then call.debtPaydown else 0)
  else 0

def recognisedAmount (call : SettlementCall) (journal : List JournalEntry) : ℤ :=
  (if call.IssuesAnew journal then call.order.totalPrice else 0) +
    (if call.MirrorsShortfallAnew journal then call.addedInvoiceDebt else 0)

/-- The wallet credit taken off the receivable: in the legacy model absorption
goes to revenue instead. -/
def absorbedAmount (call : SettlementCall) (journal : List JournalEntry) : ℤ :=
  if call.trueAccounting = true ∧ call.AbsorbsAnew journal then call.safeTake else 0

theorem receivable_external (journal : List JournalEntry) :
    customerNet .ACCOUNTS_RECEIVABLE call.order.customerId
        (call.externalNewEntries journal ++ call.paydownNewEntries journal) =
      -call.receivedAmount journal := by
  unfold externalNewEntries paydownNewEntries receivedAmount
  rw [customerNet_append]
  by_cases hexternal : call.ExternalCoversShortfall
  · obtain ⟨account, hasset, hcash⟩ := exists_asset_of_external hexternal
    have hother : account ≠ .ACCOUNTS_RECEIVABLE := by
      rintro rfl
      revert hcash
      decide
    rw [hasset, if_pos hexternal]
    simp only
    have hreceiver : (call.externalPosting account).customerId = call.order.customerId := rfl
    have hmirrored : (mirrorPaymentEntry call.paydownMirror account).customerId =
        call.order.customerId := rfl
    rw [customerNet_if _ _ hreceiver, customerNet_if _ _ hmirrored]
    simp only [externalPosting, mirrorPaymentEntry, paydownMirror, hother, if_false, if_true]
    by_cases hreceives : call.ReceivesAnew journal
    · by_cases hmirrors : call.MirrorsPaymentAnew journal
      · simp only [if_pos hreceives, if_pos hmirrors]
        omega
      · simp only [if_pos hreceives, if_neg hmirrors]
        omega
    · by_cases hmirrors : call.MirrorsPaymentAnew journal
      · simp only [if_neg hreceives, if_pos hmirrors]
        omega
      · simp only [if_neg hreceives, if_neg hmirrors]
        omega
  · rw [asset_of_not_external hexternal, if_neg hexternal]
    simp

theorem receivable_newEntries (journal : List JournalEntry) :
    receivable call.order.customerId (call.newEntries journal) =
      call.recognisedAmount journal - call.absorbedAmount journal -
        call.receivedAmount journal := by
  have hissuance : call.issuance.customerId = call.order.customerId := rfl
  have hshortfall : (mirrorInvoiceEntry call.shortfallMirror).customerId =
      call.order.customerId := rfl
  have habsorption : call.absorption.customerId = call.order.customerId := by
    unfold absorption
    by_cases htrue : call.trueAccounting = true
    · rw [if_pos htrue]
      rfl
    · rw [if_neg htrue]
      rfl
  unfold newEntries receivable
  rw [append_assoc, customerNet_append, receivable_external]
  simp only [customerNet_append]
  rw [customerNet_if _ _ hissuance, customerNet_if _ _ hshortfall, customerNet_if _ _ habsorption]
  unfold recognisedAmount absorbedAmount
  have hrecorded : call.MirrorsShortfallAnew journal →
      call.recordedShortfall = call.addedInvoiceDebt :=
    fun hnew => recordedShortfall_of_legacy hnew.1
  by_cases htrue : call.trueAccounting = true
  · have hnone : ¬ call.MirrorsShortfallAnew journal := by
      rintro ⟨hlegacy, _⟩
      rw [htrue] at hlegacy
      cases hlegacy
    simp only [issuance, invoiceIssuanceEntry, args, absorption, walletAbsorptionEntryV3,
      htrue, if_true, true_and, if_neg hnone]
    by_cases habsorbs : call.AbsorbsAnew journal
    · simp [habsorbs]
      ring
    · simp [habsorbs]
      ring
  · simp only [issuance, invoiceIssuanceEntry, args, absorption, walletAbsorptionEntry,
      mirrorInvoiceEntry, shortfallMirror, htrue]
    by_cases hnew : call.MirrorsShortfallAnew journal
    · simp [hnew, hrecorded hnew]
      ring
    · simp [hnew]
      ring

theorem liability_external (journal : List JournalEntry) :
    customerNet .WALLET_LIABILITY call.order.customerId
        (call.externalNewEntries journal ++ call.paydownNewEntries journal) = 0 := by
  unfold externalNewEntries paydownNewEntries
  rw [customerNet_append]
  by_cases hexternal : call.ExternalCoversShortfall
  · obtain ⟨account, hasset, hcash⟩ := exists_asset_of_external hexternal
    have hother : account ≠ .WALLET_LIABILITY := by
      rintro rfl
      revert hcash
      decide
    have hreceiver : (call.externalPosting account).customerId = call.order.customerId := rfl
    have hmirrored : (mirrorPaymentEntry call.paydownMirror account).customerId =
        call.order.customerId := rfl
    rw [hasset]
    simp only
    rw [customerNet_if _ _ hreceiver, customerNet_if _ _ hmirrored]
    simp [externalPosting, mirrorPaymentEntry, hother]
  · rw [asset_of_not_external hexternal]
    simp

theorem liability_newEntries (journal : List JournalEntry) :
    customerNet .WALLET_LIABILITY call.order.customerId (call.newEntries journal) =
      if call.AbsorbsAnew journal then call.safeTake else 0 := by
  have hissuance : call.issuance.customerId = call.order.customerId := rfl
  have hshortfall : (mirrorInvoiceEntry call.shortfallMirror).customerId =
      call.order.customerId := rfl
  have hreceivable : JournalAccount.ACCOUNTS_RECEIVABLE ≠ .WALLET_LIABILITY := by decide
  have hrevenue : JournalAccount.REVENUE ≠ .WALLET_LIABILITY := by decide
  have habsorption : call.absorption.customerId = call.order.customerId ∧
      call.absorption.debited = .WALLET_LIABILITY ∧
      call.absorption.credited ≠ .WALLET_LIABILITY := by
    unfold absorption
    by_cases htrue : call.trueAccounting = true
    · rw [if_pos htrue]
      exact ⟨rfl, rfl, hreceivable⟩
    · rw [if_neg htrue]
      exact ⟨rfl, rfl, hrevenue⟩
  unfold newEntries
  rw [append_assoc, customerNet_append, liability_external, add_zero]
  simp only [customerNet_append]
  rw [customerNet_if _ _ hissuance, customerNet_if _ _ hshortfall,
    customerNet_if _ _ habsorption.1, habsorption.2.1, absorption_amount]
  simp [issuance, invoiceIssuanceEntry, mirrorInvoiceEntry, habsorption.2.2]

theorem assetDebits_newEntries (journal : List JournalEntry) :
    assetDebits (call.newEntries journal) = call.receivedAmount journal := by
  have hreceivable : ¬ JournalAccount.Asset .ACCOUNTS_RECEIVABLE := by decide
  have hliability : ¬ JournalAccount.Asset .WALLET_LIABILITY := by decide
  have hissuance : ¬ call.issuance.debited.Asset := hreceivable
  have hshortfall : ¬ (mirrorInvoiceEntry call.shortfallMirror).debited.Asset := hreceivable
  have habsorption : ¬ call.absorption.debited.Asset := by
    unfold absorption
    by_cases htrue : call.trueAccounting = true
    · rw [if_pos htrue]
      exact hliability
    · rw [if_neg htrue]
      exact hliability
  unfold newEntries receivedAmount externalNewEntries paydownNewEntries
  simp only [assetDebits_append, assetDebits_if, if_neg hissuance, if_neg hshortfall,
    if_neg habsorption, ite_self, zero_add]
  by_cases hexternal : call.ExternalCoversShortfall
  · obtain ⟨account, hasset, hcash⟩ := exists_asset_of_external hexternal
    rw [hasset, if_pos hexternal]
    simp only [assetDebits_if]
    have hreceiver : (call.externalPosting account).debited = account := rfl
    have hmirrored : (mirrorPaymentEntry call.paydownMirror account).debited = account := rfl
    rw [hreceiver, hmirrored, if_pos hcash, if_pos hcash]
    rfl
  · rw [asset_of_not_external hexternal, if_neg hexternal]
    simp

end SettlementCall

end SafariLaundry
