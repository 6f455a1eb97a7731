import SafariLaundry.Journal

/-!
# The typed journal writers

Every typed writer moves one amount from one account to another under a
reference built from the event, and posts nothing for an amount that is not
positive.  A writer is therefore a `PairPosting`; each keeps its own definition
with the accounts and the reference template of the source.  The debt mirror has
a body of its own, because it chooses its accounts from the reference, the
method and the note.
-/

namespace SafariLaundry

open Library Library.Bookkeeping Library.Transaction

/-- The arguments of a two-line writer after its template has been filled in. -/
structure PairPosting where
  source : String
  sourceRef : SourceRef
  (actorUserId customerId : Uuid)
  orderId : Option Uuid
  (debited credited : JournalAccount)
  amount : ℤ
  allowReversal : Bool := false

namespace PairPosting

def input (posting : PairPosting) : AppendJournalInput where
  source := posting.source
  sourceRef := posting.sourceRef
  actorUserId := posting.actorUserId
  customerId := some posting.customerId
  orderId := posting.orderId
  allowReversal := posting.allowReversal
  lines := [debitLine posting.debited posting.amount, creditLine posting.credited posting.amount]

def append (env : Env) (posting : PairPosting) : Tx Unit :=
  if posting.amount ≤ 0 then pure () else appendBalanced env posting.input

def failureInput (posting : PairPosting) : JournalFailureInput where
  source := posting.source
  sourceRef := posting.sourceRef
  customerId := some posting.customerId
  orderId := posting.orderId
  amount := posting.amount

def appendSafe (env : Env) (posting : PairPosting) : Tx Unit :=
  safely env posting.failureInput (posting.append env)

def entries (posting : PairPosting) : List JournalEntry :=
  if posting.amount ≤ 0 then [] else [posting.input.entry]

variable {posting : PairPosting}

theorem entries_of_pos (hamount : 0 < posting.amount) :
    posting.entries = [posting.input.entry] := by
  unfold entries
  rw [if_neg (by omega)]

theorem entries_of_nonpos (hamount : posting.amount ≤ 0) :
    posting.entries = [] := by
  unfold entries
  rw [if_pos hamount]

theorem ref_of_mem_entries {entry : JournalEntry} (hmem : entry ∈ posting.entries) :
    entry.sourceRef = posting.sourceRef := by
  unfold entries at hmem
  by_cases hamount : posting.amount ≤ 0
  · rw [if_pos hamount] at hmem
    cases hmem
  · rw [if_neg hamount, List.mem_singleton] at hmem
    rw [hmem]
    rfl

theorem entries_refs_nodup (posting : PairPosting) :
    (posting.entries.map JournalEntry.sourceRef).Nodup := by
  unfold entries
  by_cases hamount : posting.amount ≤ 0
  · simp [hamount]
  · simp [hamount]

theorem wellFormed (hactor : posting.actorUserId ≠ "") (href : posting.sourceRef ≠ [])
    (hamount : 0 < posting.amount) :
    posting.input.WellFormed :=
  wellFormed_pair hactor href hamount

theorem commits_append {env : Env} {db db' : Db}
    (hcommits : (posting.append env).Commits db () db') :
    Wrote posting.entries db db' := by
  unfold append at hcommits
  by_cases hamount : posting.amount ≤ 0
  · rw [if_pos hamount, commits_pure] at hcommits
    rw [entries_of_nonpos hamount, ← hcommits.2]
    exact Wrote.refl db
  · rw [if_neg hamount] at hcommits
    rw [entries_of_pos (by omega)]
    exact ⟨db.journalFailures, commits_appendBalanced hcommits⟩

theorem commits_appendSafe {env : Env} {db db' : Db} (henv : env.StoreHealthy)
    (hactor : posting.actorUserId ≠ "") (href : posting.sourceRef ≠ [])
    (hcommits : (posting.appendSafe env).Commits db () db') :
    Wrote posting.entries db db' := by
  apply commits_safely _ _ hcommits
  · intro mid hdone
    exact commits_append hdone
  · intro err mid hthrows
    unfold append at hthrows
    by_cases hamount : posting.amount ≤ 0
    · rw [if_pos hamount] at hthrows
      exact absurd hthrows throws_pure
    · rw [if_neg hamount] at hthrows
      have hwf := wellFormed hactor href (by omega : 0 < posting.amount)
      exact .inl (throws_appendBalanced henv hwf hthrows)

theorem returnsAt_appendSafe {env : Env} {db : Db} (henv : env.StoreHealthy)
    (hopen : env.PeriodOpen) (hactor : posting.actorUserId ≠ "") (href : posting.sourceRef ≠ []) :
    ReturnsAt db (posting.appendSafe env) := by
  apply ReturnsAt.tryCatch
  unfold append
  by_cases hamount : posting.amount ≤ 0
  · rw [if_pos hamount]
    exact returnsAt_pure ()
  · rw [if_neg hamount]
    exact returnsAt_appendBalanced henv hopen (wellFormed hactor href (by omega)) rfl

end PairPosting

/-! ## Invoice and payment writers -/

structure OrderEntryArgs where
  (customerId orderId actorUserId : Uuid)
  amount : ℤ

def invoiceIssuedRef (orderId : Uuid) : SourceRef :=
  [.word "JOURNAL", .word "INVOICE_ISSUED", .id orderId]

def invoiceIssuanceEntry (args : OrderEntryArgs) : PairPosting where
  source := "INVOICE_ISSUED"
  sourceRef := invoiceIssuedRef args.orderId
  actorUserId := args.actorUserId
  customerId := args.customerId
  orderId := some args.orderId
  debited := .ACCOUNTS_RECEIVABLE
  credited := .REVENUE
  amount := args.amount

def walletAbsorptionV3Ref (orderId : Uuid) : SourceRef :=
  [.word "JOURNAL", .word "WALLET_ABSORPTION_V3", .id orderId, .word "APPLIED"]

def walletAbsorptionEntryV3 (args : OrderEntryArgs) : PairPosting where
  source := "WALLET_ABSORPTION_V3"
  sourceRef := walletAbsorptionV3Ref args.orderId
  actorUserId := args.actorUserId
  customerId := args.customerId
  orderId := some args.orderId
  debited := .WALLET_LIABILITY
  credited := .ACCOUNTS_RECEIVABLE
  amount := args.amount

def walletAbsorptionRef (orderId : Uuid) : SourceRef :=
  [.word "JOURNAL", .word "WALLET_ABSORPTION", .id orderId, .word "APPLIED"]

def walletAbsorptionEntry (args : OrderEntryArgs) : PairPosting where
  source := "WALLET_ABSORPTION"
  sourceRef := walletAbsorptionRef args.orderId
  actorUserId := args.actorUserId
  customerId := args.customerId
  orderId := some args.orderId
  debited := .WALLET_LIABILITY
  credited := .REVENUE
  amount := args.amount

def externalPaymentAssetAccount : PosPaymentMethod → Option JournalAccount
  | .KNET => some .BANK_KNET
  | .ONLINE | .PAYMENT_LINK => some .BANK_ONLINE
  | .CASH => some .CASH
  | .SUBSCRIPTION_WALLET | .DEBT_ON_ACCOUNT => none

theorem externalPaymentAssetAccount_isSome {method : PosPaymentMethod} :
    (externalPaymentAssetAccount method).isSome = true ↔ method.External := by
  cases method <;> decide

theorem externalPaymentAssetAccount_asset {method : PosPaymentMethod} {account : JournalAccount}
    (haccount : externalPaymentAssetAccount method = some account) :
    account.Asset := by
  cases method <;> simp [externalPaymentAssetAccount] at haccount <;>
    subst haccount <;> decide

def externalPaymentRef (paymentRef : SourceRef) : SourceRef :=
  [.word "JOURNAL", .word "EXTERNAL_PAYMENT"] ++ paymentRef

structure ExternalPaymentArgs where
  customerId : Uuid
  orderId : Option Uuid
  actorUserId : Uuid
  amount : ℤ
  paymentMethod : PosPaymentMethod
  paymentRef : SourceRef

def externalPaymentEntry (args : ExternalPaymentArgs) (asset : JournalAccount) :
    PairPosting where
  source := "EXTERNAL_PAYMENT"
  sourceRef := externalPaymentRef args.paymentRef
  actorUserId := args.actorUserId
  customerId := args.customerId
  orderId := args.orderId
  debited := asset
  credited := .ACCOUNTS_RECEIVABLE
  amount := args.amount

def appendExternalPaymentEntry (env : Env) (args : ExternalPaymentArgs) : Tx Unit :=
  if args.amount ≤ 0 then pure () else do
    require (args.paymentRef ≠ []) (.error "JOURNAL_EXTERNAL_PAYMENT_REF_REQUIRED")
    match externalPaymentAssetAccount args.paymentMethod with
    | some asset => (externalPaymentEntry args asset).append env
    | none =>
        throw (.error ("UNKNOWN_PAYMENT_ASSET_ACCOUNT:" ++ args.paymentMethod.name))

def appendExternalPaymentEntrySafe (env : Env) (args : ExternalPaymentArgs) : Tx Unit :=
  safely env
    { source := "EXTERNAL_PAYMENT"
      sourceRef := externalPaymentRef args.paymentRef
      customerId := some args.customerId
      orderId := args.orderId
      amount := args.amount }
    (appendExternalPaymentEntry env args)

/-- What an external payment posts: nothing for a method that has no asset
account, since the writer's throw is swallowed by its wrapper. -/
def externalPaymentEntries (args : ExternalPaymentArgs) : List JournalEntry :=
  match externalPaymentAssetAccount args.paymentMethod with
  | some asset => (externalPaymentEntry args asset).entries
  | none => []

variable {env : Env}

theorem commits_appendExternalPaymentEntrySafe {args : ExternalPaymentArgs} {db db' : Db}
    (henv : env.StoreHealthy) (hactor : args.actorUserId ≠ "") (href : args.paymentRef ≠ [])
    (hcommits : (appendExternalPaymentEntrySafe env args).Commits db () db') :
    Wrote (externalPaymentEntries args) db db' := by
  apply commits_safely _ _ hcommits
  · intro mid hdone
    unfold appendExternalPaymentEntry at hdone
    unfold externalPaymentEntries
    by_cases hamount : args.amount ≤ 0
    · rw [if_pos hamount, commits_pure] at hdone
      rw [← hdone.2]
      cases externalPaymentAssetAccount args.paymentMethod with
      | none => exact Wrote.refl db
      | some asset =>
          simp only
          rw [PairPosting.entries_of_nonpos hamount]
          exact Wrote.refl db
    · rw [if_neg hamount] at hdone
      simp only [commits_bind, commits_require] at hdone
      obtain ⟨_, _, ⟨_, rfl⟩, hwrite⟩ := hdone
      cases hasset : externalPaymentAssetAccount args.paymentMethod with
      | none =>
          rw [hasset] at hwrite
          exact absurd hwrite commits_throw.1
      | some asset =>
          rw [hasset] at hwrite
          exact PairPosting.commits_append hwrite
  · intro err mid hthrows
    unfold appendExternalPaymentEntry at hthrows
    unfold externalPaymentEntries
    by_cases hamount : args.amount ≤ 0
    · rw [if_pos hamount] at hthrows
      exact absurd hthrows throws_pure
    · rw [if_neg hamount] at hthrows
      simp only [throws_bind, throws_require, commits_require, href, ne_eq,
        not_false_eq_true, not_true_eq_false, false_and, false_or, true_and] at hthrows
      obtain ⟨_, _, rfl, hwrite⟩ := hthrows
      cases hasset : externalPaymentAssetAccount args.paymentMethod with
      | none =>
          rw [hasset, throws_throw] at hwrite
          exact .inr ⟨rfl, hwrite.2.symm⟩
      | some asset =>
          rw [hasset] at hwrite
          have hwf : (externalPaymentEntry args asset).input.WellFormed :=
            PairPosting.wellFormed hactor
              (by simp [externalPaymentEntry, externalPaymentRef]) (not_le.1 hamount)
          change Throws (if args.amount ≤ 0 then pure () else
            appendBalanced env (externalPaymentEntry args asset).input) _ _ _ at hwrite
          rw [if_neg hamount] at hwrite
          exact .inl (throws_appendBalanced henv hwf hwrite)

structure DebtDiscountArgs where
  customerId : Uuid
  orderId : Option Uuid
  actorUserId : Uuid
  amount : ℤ
  discountRef : SourceRef

def debtDiscountEntry (args : DebtDiscountArgs) : PairPosting where
  source := "DEBT_DISCOUNT"
  sourceRef := [.word "JOURNAL", .word "DEBT_DISCOUNT"] ++ args.discountRef
  actorUserId := args.actorUserId
  customerId := args.customerId
  orderId := args.orderId
  debited := .DEBT_DISCOUNTS
  credited := .ACCOUNTS_RECEIVABLE
  amount := args.amount

def invoiceCancellationEntry (args : OrderEntryArgs) : PairPosting where
  source := "INVOICE_CANCELED"
  sourceRef := [.word "JOURNAL", .word "INVOICE_CANCELED", .id args.orderId]
  actorUserId := args.actorUserId
  customerId := args.customerId
  orderId := some args.orderId
  debited := .REVENUE_RETURNS
  credited := .ACCOUNTS_RECEIVABLE
  amount := args.amount
  allowReversal := true

/-! ## The debt mirror -/

structure MirrorDebtLedgerInput where
  source : DebtSource
  amount : ℤ
  sourceRef : SourceRef
  (actorUserId customerId : Uuid)
  orderId : Option Uuid
  paymentMethod : Option PosPaymentMethod
  note : String

def paymentAssetAccount (input : MirrorDebtLedgerInput) : Option JournalAccount :=
  let note := lower input.note
  if input.sourceRef.Includes "KNET" ∨ input.paymentMethod = some .KNET then
    some .BANK_KNET
  else if input.sourceRef.Includes "ONLINE" ∨ input.sourceRef.Includes "PAYMENT_LINK" ∨
      input.paymentMethod = some .ONLINE ∨ input.paymentMethod = some .PAYMENT_LINK then
    some .BANK_ONLINE
  else if input.sourceRef.Includes "CASH" ∨ input.paymentMethod = some .CASH then
    some .CASH
  else if input.sourceRef.StartsWith ["ADJUSTMENT"] ∨ IncludesText note "void" ∨
      IncludesText note "edit" then
    some .ADJUSTMENTS
  else
    none

def mirrorPaymentEntry (input : MirrorDebtLedgerInput) (asset : JournalAccount) :
    PairPosting where
  source := if asset = .ADJUSTMENTS then "ADJUSTMENT" else "PAYMENT"
  sourceRef := input.sourceRef
  actorUserId := input.actorUserId
  customerId := input.customerId
  orderId := input.orderId
  debited := asset
  credited := .ACCOUNTS_RECEIVABLE
  amount := input.amount

def mirrorInvoiceEntry (input : MirrorDebtLedgerInput) : PairPosting where
  source := "INVOICE"
  sourceRef := input.sourceRef
  actorUserId := input.actorUserId
  customerId := input.customerId
  orderId := input.orderId
  debited := .ACCOUNTS_RECEIVABLE
  credited := .REVENUE
  amount := input.amount

def mirrorDebtLedgerEntry (env : Env) (input : MirrorDebtLedgerInput) : Tx Unit := do
  require (input.actorUserId ≠ "") (.error "JOURNAL_ACTOR_REQUIRED")
  if input.amount ≤ 0 then pure () else do
    require (input.sourceRef ≠ []) (.error "JOURNAL_SOURCE_REF_REQUIRED")
    match input.source with
    | .PAYMENT =>
        -- wallet absorption has its own writer and must not reach an asset account
        if input.sourceRef.StartsWith ["PAYMENT", "WALLET"] then pure () else
          match paymentAssetAccount input with
          | some asset => appendBalanced env (mirrorPaymentEntry input asset).input
          | none =>
              throw (.error ("UNKNOWN_PAYMENT_ASSET_ACCOUNT:" ++
                (input.paymentMethod.map PosPaymentMethod.name).getD "NONE"))
    | .INVOICE_SHORTFALL | .SUBSCRIPTION_OVERUSE =>
        appendBalanced env (mirrorInvoiceEntry input).input

def mirrorDebtLedgerEntrySafe (env : Env) (input : MirrorDebtLedgerInput) : Tx Unit :=
  safely env
    { source := match input.source with
        | .PAYMENT => "PAYMENT"
        | .INVOICE_SHORTFALL => "INVOICE_SHORTFALL"
        | .SUBSCRIPTION_OVERUSE => "SUBSCRIPTION_OVERUSE"
      sourceRef := input.sourceRef
      customerId := some input.customerId
      orderId := input.orderId
      amount := input.amount }
    (mirrorDebtLedgerEntry env input)

def mirrorEntries (input : MirrorDebtLedgerInput) : List JournalEntry :=
  match input.source with
  | .PAYMENT =>
      if input.sourceRef.StartsWith ["PAYMENT", "WALLET"] then [] else
        match paymentAssetAccount input with
        | some asset => (mirrorPaymentEntry input asset).entries
        | none => []
  | .INVOICE_SHORTFALL | .SUBSCRIPTION_OVERUSE => (mirrorInvoiceEntry input).entries

variable {input : MirrorDebtLedgerInput}

theorem mirrorEntries_of_nonpos (hamount : input.amount ≤ 0) :
    mirrorEntries input = [] := by
  have hpayment : ∀ asset, (mirrorPaymentEntry input asset).entries = [] :=
    fun _ => PairPosting.entries_of_nonpos hamount
  have hinvoice : (mirrorInvoiceEntry input).entries = [] :=
    PairPosting.entries_of_nonpos hamount
  unfold mirrorEntries
  cases input.source with
  | PAYMENT =>
      simp only
      by_cases hwallet : input.sourceRef.StartsWith ["PAYMENT", "WALLET"]
      · rw [if_pos hwallet]
      · rw [if_neg hwallet]
        cases paymentAssetAccount input with
        | none => rfl
        | some asset => exact hpayment asset
  | INVOICE_SHORTFALL => exact hinvoice
  | SUBSCRIPTION_OVERUSE => exact hinvoice

private theorem wrote_append {env : Env} {posting : PairPosting} {db db' : Db}
    (hamount : 0 < posting.amount)
    (hcommits : (appendBalanced env posting.input).Commits db () db') :
    Wrote posting.entries db db' := by
  rw [PairPosting.entries_of_pos hamount]
  exact ⟨db.journalFailures, commits_appendBalanced hcommits⟩

theorem commits_mirrorDebtLedgerEntry {db db' : Db}
    (hcommits : (mirrorDebtLedgerEntry env input).Commits db () db') :
    Wrote (mirrorEntries input) db db' := by
  unfold mirrorDebtLedgerEntry at hcommits
  simp only [commits_bind, commits_require] at hcommits
  obtain ⟨_, _, ⟨_, rfl⟩, hdone⟩ := hcommits
  by_cases hamount : input.amount ≤ 0
  · rw [if_pos hamount, commits_pure] at hdone
    rw [mirrorEntries_of_nonpos hamount, ← hdone.2]
    exact Wrote.refl db
  · rw [if_neg hamount] at hdone
    simp only [commits_bind, commits_require] at hdone
    obtain ⟨_, _, ⟨_, rfl⟩, hwrite⟩ := hdone
    have hpos : 0 < input.amount := by omega
    unfold mirrorEntries
    cases hsource : input.source with
    | PAYMENT =>
        simp only [hsource] at hwrite ⊢
        by_cases hwallet : input.sourceRef.StartsWith ["PAYMENT", "WALLET"]
        · rw [if_pos hwallet, commits_pure] at hwrite
          rw [if_pos hwallet, ← hwrite.2]
          exact Wrote.refl db
        · rw [if_neg hwallet] at hwrite ⊢
          cases hasset : paymentAssetAccount input with
          | none =>
              simp only [hasset, commits_throw] at hwrite
          | some asset =>
              simp only [hasset] at hwrite ⊢
              exact @wrote_append env (mirrorPaymentEntry input asset) _ _ hpos hwrite
    | INVOICE_SHORTFALL =>
        simp only [hsource] at hwrite ⊢
        exact @wrote_append env (mirrorInvoiceEntry input) _ _ hpos hwrite
    | SUBSCRIPTION_OVERUSE =>
        simp only [hsource] at hwrite ⊢
        exact @wrote_append env (mirrorInvoiceEntry input) _ _ hpos hwrite

theorem throws_mirrorDebtLedgerEntry {err : ServiceError} {db mid : Db} (henv : env.StoreHealthy)
    (hactor : input.actorUserId ≠ "") (href : input.sourceRef ≠ [])
    (hthrows : (mirrorDebtLedgerEntry env input).Throws db err mid) :
    IsPeriodLock err ∨ (mirrorEntries input = [] ∧ mid = db) := by
  unfold mirrorDebtLedgerEntry at hthrows
  simp only [throws_bind, throws_require, commits_require, hactor, ne_eq,
    not_false_eq_true, not_true_eq_false, false_and, false_or, true_and] at hthrows
  obtain ⟨_, _, rfl, hthrows⟩ := hthrows
  by_cases hamount : input.amount ≤ 0
  · rw [if_pos hamount] at hthrows
    exact absurd hthrows throws_pure
  · rw [if_neg hamount] at hthrows
    simp only [throws_bind, throws_require, commits_require, href,
      not_false_eq_true, not_true_eq_false, false_and, false_or, true_and] at hthrows
    obtain ⟨_, _, rfl, hwrite⟩ := hthrows
    have hpos : 0 < input.amount := by omega
    have hinvoice : (mirrorInvoiceEntry input).input.WellFormed :=
      PairPosting.wellFormed hactor href hpos
    cases hsource : input.source with
    | PAYMENT =>
        simp only [hsource] at hwrite
        by_cases hwallet : input.sourceRef.StartsWith ["PAYMENT", "WALLET"]
        · rw [if_pos hwallet] at hwrite
          exact absurd hwrite throws_pure
        · rw [if_neg hwallet] at hwrite
          cases hasset : paymentAssetAccount input with
          | none =>
              simp only [hasset, throws_throw] at hwrite
              refine .inr ⟨?_, hwrite.2.symm⟩
              simp only [mirrorEntries, hsource, hasset, if_neg hwallet]
          | some asset =>
              simp only [hasset] at hwrite
              have hpayment : (mirrorPaymentEntry input asset).input.WellFormed :=
                PairPosting.wellFormed hactor href hpos
              exact .inl (throws_appendBalanced henv hpayment hwrite)
    | INVOICE_SHORTFALL =>
        simp only [hsource] at hwrite
        exact .inl (throws_appendBalanced henv hinvoice hwrite)
    | SUBSCRIPTION_OVERUSE =>
        simp only [hsource] at hwrite
        exact .inl (throws_appendBalanced henv hinvoice hwrite)

theorem commits_mirrorDebtLedgerEntrySafe {db db' : Db} (henv : env.StoreHealthy)
    (hactor : input.actorUserId ≠ "") (href : input.sourceRef ≠ [])
    (hcommits : (mirrorDebtLedgerEntrySafe env input).Commits db () db') :
    Wrote (mirrorEntries input) db db' := by
  apply commits_safely _ _ hcommits
  · exact fun _ hdone => commits_mirrorDebtLedgerEntry hdone
  · exact fun _ _ hthrows => throws_mirrorDebtLedgerEntry henv hactor href hthrows

def customerNet (account : JournalAccount) (customerId : Uuid) (journal : List JournalEntry) : ℤ :=
  tally (fun entry =>
    if entry.customerId = some customerId then net account entry.lines else 0) journal

abbrev receivable (customerId : Uuid) (journal : List JournalEntry) : ℤ :=
  customerNet .ACCOUNTS_RECEIVABLE customerId journal

def walletLiability (customerId : Uuid) (journal : List JournalEntry) : ℤ :=
  -customerNet .WALLET_LIABILITY customerId journal

def assetDebits (journal : List JournalEntry) : ℤ :=
  tally (fun entry => debits JournalAccount.Asset entry.lines) journal

@[simp] theorem customerNet_nil (account : JournalAccount) (customerId : Uuid) :
    customerNet account customerId [] = 0 := rfl

@[simp] theorem customerNet_append (account : JournalAccount) (customerId : Uuid)
    (first second : List JournalEntry) :
    customerNet account customerId (first ++ second) =
      customerNet account customerId first + customerNet account customerId second :=
  tally_append _ first second

@[simp] theorem assetDebits_nil : assetDebits [] = 0 := rfl

@[simp] theorem assetDebits_append (first second : List JournalEntry) :
    assetDebits (first ++ second) = assetDebits first + assetDebits second :=
  tally_append _ first second

theorem customerNet_pair (account : JournalAccount) (posting : PairPosting) :
    customerNet account posting.customerId [posting.input.entry] =
      (if posting.debited = account then posting.amount else 0) -
        (if posting.credited = account then posting.amount else 0) := by
  simp only [customerNet, tally, List.map_cons, List.map_nil, List.sum_cons,
    List.sum_nil, PairPosting.input, AppendJournalInput.entry, net_cons, net_nil,
    debitLine, creditLine, if_true]
  by_cases hdebit : posting.debited = account
  · by_cases hcredit : posting.credited = account
    · simp [hdebit, hcredit]
    · simp [hdebit, hcredit]
  · by_cases hcredit : posting.credited = account
    · simp [hdebit, hcredit]
    · simp [hdebit, hcredit]

theorem assetDebits_pair (posting : PairPosting) :
    assetDebits [posting.input.entry] =
      if posting.debited.Asset then posting.amount else 0 := by
  simp [assetDebits, tally, PairPosting.input, AppendJournalInput.entry, debitLine, creditLine]

theorem customerNet_entries (account : JournalAccount) (posting : PairPosting) :
    customerNet account posting.customerId posting.entries =
      (if posting.debited = account then max 0 posting.amount else 0) -
        (if posting.credited = account then max 0 posting.amount else 0) := by
  by_cases hamount : posting.amount ≤ 0
  · rw [PairPosting.entries_of_nonpos hamount, max_eq_left hamount]
    simp
  · have hpos : 0 < posting.amount := by omega
    rw [PairPosting.entries_of_pos hpos, max_eq_right hpos.le]
    exact customerNet_pair account posting

theorem assetDebits_entries (posting : PairPosting) :
    assetDebits posting.entries =
      if posting.debited.Asset then max 0 posting.amount else 0 := by
  by_cases hamount : posting.amount ≤ 0
  · rw [PairPosting.entries_of_nonpos hamount, max_eq_left hamount]
    simp
  · have hpos : 0 < posting.amount := by omega
    rw [PairPosting.entries_of_pos hpos, max_eq_right hpos.le]
    exact assetDebits_pair posting

end SafariLaundry
