import SafariLaundry.GatewayText
import SafariLaundry.Library.Decimal
import SafariLaundry.Subscription

/-!
# The whole ledger

`appendBalanced` as concurrent callers run it: the look-up under the source
reference may see an earlier state of the journal, and the unique key decides at
the insert.  Amounts are the decimals of the arguments; the columns round them.
A run is any sequence of writer calls and of `processTransaction`, whose lines
the caller supplies.
-/

namespace SafariLaundry

open Library Library.Bookkeeping Library.Transaction Library.Decimal List

structure DecimalLine where
  account : JournalAccount
  (debit credit : ℚ)

structure DecimalJournalInput where
  source : String
  sourceRef : SourceRef
  actorUserId : Uuid
  (customerId orderId : Option Uuid)
  effectiveAt : Option Timestamp
  allowReversal : Bool
  lines : List DecimalLine

def DecimalLine.stored (line : DecimalLine) : JournalLine :=
  ⟨line.account, roundHalfAway (line.debit * 10000), roundHalfAway (line.credit * 10000)⟩

def DecimalJournalInput.stored (input : DecimalJournalInput) : AppendJournalInput where
  source := input.source
  sourceRef := input.sourceRef
  actorUserId := input.actorUserId
  customerId := input.customerId
  orderId := input.orderId
  effectiveAt := input.effectiveAt
  allowReversal := input.allowReversal
  lines := input.lines.map DecimalLine.stored

def fromMinor (amount : ℤ) : ℚ := amount / 10000

def decimalLine (line : JournalLine) : DecimalLine :=
  ⟨line.account, fromMinor line.debit, fromMinor line.credit⟩

/-- The arguments of a writer whose amounts come from money columns. -/
def AppendJournalInput.decimal (input : AppendJournalInput) : DecimalJournalInput where
  source := input.source
  sourceRef := input.sourceRef
  actorUserId := input.actorUserId
  customerId := input.customerId
  orderId := input.orderId
  effectiveAt := input.effectiveAt
  allowReversal := input.allowReversal
  lines := input.lines.map decimalLine

def decimalDebit (lines : List DecimalLine) : ℚ := (lines.map DecimalLine.debit).sum

def decimalCredit (lines : List DecimalLine) : ℚ := (lines.map DecimalLine.credit).sum

/-- `0.001`, by which the sides of an entry may differ. -/
def journalTolerance : ℚ := 1 / 1000

def checkDecimalLine (line : DecimalLine) : Tx Unit := do
  require (¬ (line.debit < 0 ∨ line.credit < 0)) (.error "NEGATIVE_JOURNAL_LINE")
  require (¬ (0 < line.debit ∧ 0 < line.credit)) (.error "AMBIGUOUS_JOURNAL_LINE")
  require (¬ (line.debit = 0 ∧ line.credit = 0)) (.error "EMPTY_JOURNAL_LINE")

def checkDecimalAccount (env : Env) (line : DecimalLine) : Tx Unit :=
  require (line.account ∈ env.chart.active)
    (.error ("JOURNAL_ACCOUNT_NOT_FOUND:" ++ line.account.code))

def insertJournalEntry (env : Env) (input : AppendJournalInput) : Tx Unit := do
  require (¬ Recorded (← get).journal input.sourceRef) (.uniqueViolation true)
  createJournalEntry env input

def checkJournalInput (env : Env) (input : DecimalJournalInput) : Tx Unit := do
  whenever (env.periodLockEnforce = true)
    (assertWriteAllowed env (input.effectiveAt.getD env.now) input.allowReversal)
  input.lines.forM checkDecimalLine
  require (¬ journalTolerance < |decimalDebit input.lines - decimalCredit input.lines|)
    (.error "UNBALANCED_JOURNAL")
  input.lines.forM (checkDecimalAccount env)

def appendBalancedSeeing (env : Env) (seen : List JournalEntry)
    (input : DecimalJournalInput) : Tx Unit := do
  require (input.actorUserId ≠ "") (.error "JOURNAL_ACTOR_REQUIRED")
  require (input.sourceRef ≠ []) (.error "JOURNAL_SOURCE_REF_REQUIRED")
  require (2 ≤ input.lines.length) (.error "JOURNAL_MINIMUM_TWO_LINES")
  if Recorded seen input.sourceRef then pure () else do
    checkJournalInput env input
    insertJournalEntry env input.stored

/-! ## The transaction processor -/

inductive FinancialTransactionType
  | PAYMENT | SUBSIDY | DISCOUNT | RENEWAL | REFUND
  deriving DecidableEq

def FinancialTransactionType.name : FinancialTransactionType → String
  | .PAYMENT => "PAYMENT"
  | .SUBSIDY => "SUBSIDY"
  | .DISCOUNT => "DISCOUNT"
  | .RENEWAL => "RENEWAL"
  | .REFUND => "REFUND"

inductive FinancialReferenceType
  | INVOICE | SUBSCRIPTION | CUSTOMER

def FinancialReferenceType.name : FinancialReferenceType → String
  | .INVOICE => "INVOICE"
  | .SUBSCRIPTION => "SUBSCRIPTION"
  | .CUSTOMER => "CUSTOMER"

inductive StrictFinancialPaymentMethod
  | CASH | KNET | ONLINE | DEBT

def StrictFinancialPaymentMethod.paymentAccount :
    StrictFinancialPaymentMethod → JournalAccount
  | .CASH => .CASH
  | .KNET => .BANK_KNET
  | .ONLINE => .BANK_ONLINE
  | .DEBT => .ACCOUNTS_RECEIVABLE

inductive FundingSource
  | PAYMENT (paymentMethod : StrictFinancialPaymentMethod) (amountKd : ℚ)
  | SUBSIDY (amountKd : ℚ)
  | DISCOUNT (amountKd : ℚ)

def FundingSource.amountKd : FundingSource → ℚ
  | .PAYMENT _ amountKd | .SUBSIDY amountKd | .DISCOUNT amountKd => amountKd

def FundingSource.account : FundingSource → JournalAccount
  | .PAYMENT paymentMethod _ => paymentMethod.paymentAccount
  | .SUBSIDY _ => .PROMOTIONAL_EXPENSE
  | .DISCOUNT _ => .DEBT_DISCOUNTS

def FundingSource.line (source : FundingSource) : DecimalLine :=
  ⟨source.account, source.amountKd, 0⟩

structure ProcessTransactionInput where
  transactionType : FinancialTransactionType
  referenceType : FinancialReferenceType
  referenceId : String
  actorUserId : Uuid
  (customerId orderId : Option Uuid)
  sourceRef : Option SourceRef
  effectiveAt : Option Timestamp
  allowReversal : Option Bool
  customerLedgerCreditKd : ℚ
  fundingSources : List FundingSource

namespace ProcessTransactionInput

def customerLedgerLine (input : ProcessTransactionInput) : DecimalLine :=
  if 0 < input.customerLedgerCreditKd then
    ⟨.ACCOUNTS_RECEIVABLE, 0, input.customerLedgerCreditKd⟩
  else ⟨.ACCOUNTS_RECEIVABLE, |input.customerLedgerCreditKd|, 0⟩

def lines (input : ProcessTransactionInput) : List DecimalLine :=
  input.fundingSources.map FundingSource.line ++ [input.customerLedgerLine]

def journalInput (input : ProcessTransactionInput) : DecimalJournalInput where
  source := "PROCESS_TRANSACTION"
  sourceRef := input.sourceRef.getD
    [.word "PROCESS_TRANSACTION", .word input.transactionType.name,
      .word input.referenceType.name, .id input.referenceId]
  actorUserId := input.actorUserId
  customerId := input.customerId
  orderId := input.orderId
  effectiveAt := input.effectiveAt
  allowReversal := input.allowReversal.getD (input.transactionType = .REFUND)
  lines := input.lines

end ProcessTransactionInput

structure ProcessTransactionTotals where
  (totalDebitKd totalCreditKd : ℤ)

def processTransaction (env : Env) (seen : List JournalEntry)
    (input : ProcessTransactionInput) : Tx ProcessTransactionTotals := do
  require (input.actorUserId ≠ "") (.error "PROCESS_TRANSACTION_ACTOR_REQUIRED")
  require (trim input.referenceId ≠ "") (.error "PROCESS_TRANSACTION_REFERENCE_REQUIRED")
  require (input.fundingSources ≠ []) (.error "PROCESS_TRANSACTION_FUNDING_REQUIRED")
  require (input.customerLedgerCreditKd ≠ 0) (.error "PROCESS_TRANSACTION_LEDGER_AMOUNT_REQUIRED")
  require (∀ source ∈ input.fundingSources, 0 < source.amountKd)
    (.error "PROCESS_TRANSACTION_AMOUNT_MUST_BE_POSITIVE")
  require (¬ journalTolerance < |decimalDebit input.lines - decimalCredit input.lines|)
    (.error "PROCESS_TRANSACTION_UNBALANCED")
  appendBalancedSeeing env seen input.journalInput
  return ⟨roundHalfAway (decimalDebit input.lines * 10000),
    roundHalfAway (decimalCredit input.lines * 10000)⟩

structure SubscriptionRefundArgs where
  (customerId subscriptionId actorUserId : Uuid)
  (giftRemovalAmount cashRefundAmount : ℤ)

def refundLeg (amount : ℤ) (credited : JournalAccount) : List JournalLine :=
  if 0 < amount then [debitLine .WALLET_LIABILITY amount, creditLine credited amount] else []

def SubscriptionRefundArgs.input (args : SubscriptionRefundArgs) : AppendJournalInput where
  source := "SUBSCRIPTION_REFUND"
  sourceRef := [.word "JOURNAL", .word "SUBSCRIPTION_REFUND", .id args.subscriptionId]
  actorUserId := args.actorUserId
  customerId := some args.customerId
  orderId := none
  allowReversal := true
  lines := refundLeg args.giftRemovalAmount .PROMOTIONAL_EXPENSE ++
    refundLeg args.cashRefundAmount .CASH

/-- A call that reaches `appendBalanced`: a writer of one amount, the funding of a
subscription, its refund, or a transaction whose lines the caller supplies. -/
inductive JournalCall
  | pair (posting : PairPosting)
  | walletFunding (activation : Activation)
  | subscriptionRefund (args : SubscriptionRefundArgs)
  | transaction (input : ProcessTransactionInput)

def JournalCall.run (env : Env) (seen : List JournalEntry) : JournalCall → Tx Unit
  | .pair posting =>
      if posting.amount ≤ 0 then pure () else
        appendBalancedSeeing env seen posting.input.decimal
  | .walletFunding activation => do
      require (¬ 10 < |activation.totalFunding -
          (activation.plan.salePrice + activation.companySupport)|)
        (.error "WALLET_FUNDING_UNBALANCED")
      require (0 < activation.totalFunding) (.error "WALLET_FUNDING_AMOUNT_MUST_BE_POSITIVE")
      require (¬ 10 < |totalDebit activation.fundingLines - totalCredit activation.fundingLines|)
        (.error "PROCESS_TRANSACTION_UNBALANCED")
      appendBalancedSeeing env seen activation.fundingInput.decimal
  | .subscriptionRefund args =>
      if args.giftRemovalAmount ≤ 0 ∧ args.cashRefundAmount ≤ 0 then pure () else
        appendBalancedSeeing env seen args.input.decimal
  | .transaction input => do
      let _ ← processTransaction env seen input

/-- The databases that calls can lead to: each call saw some earlier state of the
journal, and one that throws is over. -/
inductive JournalRun : List JournalCall → Db → Prop
  | empty (db : Db) (hempty : db.journal = []) : JournalRun [] db
  | committed {calls : List JournalCall} {db db' : Db} (env : Env)
      (seen : List JournalEntry) (call : JournalCall) (hrun : JournalRun calls db)
      (hseen : seen <+: db.journal) (hcommits : (call.run env seen).Commits db () db') :
      JournalRun (calls ++ [call]) db'
  | refused {calls : List JournalCall} {db db' : Db} (env : Env)
      (seen : List JournalEntry) (call : JournalCall) (err : ServiceError)
      (hrun : JournalRun calls db) (hseen : seen <+: db.journal)
      (hthrows : (call.run env seen).Throws db err db') :
      JournalRun (calls ++ [call]) db'

/-! ## What one append leaves behind -/

/-- What the checks of `appendBalanced` establish. -/
structure DecimalJournalInput.Accepted (input : DecimalJournalInput) : Prop where
  two : 2 ≤ input.lines.length
  nonneg : ∀ line ∈ input.lines, 0 ≤ line.debit ∧ 0 ≤ line.credit
  oneSided : ∀ line ∈ input.lines, line.debit = 0 ∨ line.credit = 0
  filled : ∀ line ∈ input.lines, line.debit ≠ 0 ∨ line.credit ≠ 0
  near : |decimalDebit input.lines - decimalCredit input.lines| ≤ journalTolerance

variable {db db' : Db} {env : Env} {input : AppendJournalInput} {seen journal : List JournalEntry}
  {err : ServiceError} {call : JournalCall}

theorem commits_checkDecimalLine {line : DecimalLine} {a : Unit}
    (hcommits : (checkDecimalLine line).Commits db a db') :
    (0 ≤ line.debit ∧ 0 ≤ line.credit) ∧ (line.debit = 0 ∨ line.credit = 0) ∧
      (line.debit ≠ 0 ∨ line.credit ≠ 0) := by
  unfold checkDecimalLine at hcommits
  simp only [commits_bind, commits_require] at hcommits
  obtain ⟨_, _, ⟨hsign, rfl⟩, _, _, ⟨hsides, rfl⟩, hempty, rfl⟩ := hcommits
  rw [not_or, not_lt, not_lt] at hsign
  rw [not_and, not_lt] at hsides
  rw [not_and_or] at hempty
  refine ⟨hsign, ?_, hempty⟩
  rcases hsign.1.eq_or_lt with hzero | hpos
  · exact .inl hzero.symm
  · exact .inr (le_antisymm (hsides hpos) hsign.2)

theorem commits_forM_check {check : DecimalLine → Tx Unit} {P : DecimalLine → Prop}
    {lines : List DecimalLine} {a : Unit}
    (hcheck : ∀ {line db db'}, (check line).Commits db () db' → P line)
    (hcommits : (lines.forM check).Commits db a db') :
    ∀ line ∈ lines, P line := by
  induction lines generalizing db with
  | nil => simp
  | cons line rest ih =>
      obtain ⟨mid, hfirst, hrest⟩ := commits_forM_cons.1 hcommits
      intro other hother
      rcases mem_cons.1 hother with rfl | hlater
      · exact hcheck hfirst
      · exact ih hrest other hlater

theorem commits_insertJournalEntry (hcommits : (insertJournalEntry env input).Commits db () db') :
    ¬ Recorded db.journal input.sourceRef ∧
      db'.journal = db.journal ++ [input.entry] := by
  unfold insertJournalEntry at hcommits
  simp only [commits_bind, commits_get, commits_require] at hcommits
  obtain ⟨_, _, ⟨rfl, rfl⟩, _, _, ⟨hfresh, rfl⟩, hcreate⟩ := hcommits
  exact ⟨hfresh, by rw [commits_createJournalEntry hcreate]⟩

theorem commits_checkJournalInput {input : DecimalJournalInput} (htwo : 2 ≤ input.lines.length)
    (hcommits : (checkJournalInput env input).Commits db () db') :
    input.Accepted := by
  unfold checkJournalInput at hcommits
  simp only [commits_bind, commits_require] at hcommits
  obtain ⟨_, db₁, _, _, db₂, hlines, _, _, ⟨hnear, rfl⟩, _⟩ := hcommits
  have hchecked := commits_forM_check commits_checkDecimalLine hlines
  exact {
    two := htwo
    nonneg := fun line hline => (hchecked line hline).1
    oneSided := fun line hline => (hchecked line hline).2.1
    filled := fun line hline => (hchecked line hline).2.2
    near := not_lt.1 hnear }

theorem keepsAt_checkJournalInput {input : DecimalJournalInput} :
    KeepsAt Eq db (checkJournalInput env input) := by
  unfold checkJournalInput
  apply KeepsAt.bind
  · exact KeepsAt.whenever (keepsAt_assertWriteAllowed ..)
  · intro _ _ _
    apply KeepsAt.bind
    · apply KeepsAt.forM
      intro line _ _
      unfold checkDecimalLine
      refine .require_bind fun _ => ?_
      refine .require_bind fun _ => ?_
      exact keepsAt_require _ _
    · intro _ _ _
      refine .require_bind fun _ => ?_
      apply KeepsAt.forM
      intro line _ _
      exact keepsAt_require _ _

theorem commits_appendBalancedSeeing {input : DecimalJournalInput}
    (hcommits : (appendBalancedSeeing env seen input).Commits db () db') :
    db'.journal = db.journal ∨ (input.Accepted ∧ ¬ Recorded db.journal input.sourceRef ∧
        db'.journal = db.journal ++ [input.stored.entry]) := by
  unfold appendBalancedSeeing at hcommits
  simp only [commits_bind, commits_require] at hcommits
  obtain ⟨_, _, ⟨_, rfl⟩, _, _, ⟨_, rfl⟩, _, _, ⟨htwo, rfl⟩, hrest⟩ := hcommits
  by_cases hseen : Recorded seen input.sourceRef
  · rw [if_pos hseen, commits_pure] at hrest
    exact .inl (by rw [hrest.2])
  · rw [if_neg hseen] at hrest
    obtain ⟨_, mid, hchecks, hinsert⟩ := commits_bind.1 hrest
    have haccepted := commits_checkJournalInput htwo hchecks
    have hmid : db = mid := keepsAt_checkJournalInput.of_commits hchecks
    subst hmid
    obtain ⟨hfresh, hjournal⟩ := commits_insertJournalEntry hinsert
    exact .inr ⟨haccepted, hfresh, hjournal⟩

theorem throws_insertJournalEntry (hthrows : (insertJournalEntry env input).Throws db err db') :
    db = db' := by
  unfold insertJournalEntry at hthrows
  simp only [throws_bind, throws_get, commits_get, throws_require, commits_require,
    false_or] at hthrows
  obtain ⟨_, _, ⟨rfl, rfl⟩, ⟨_, _, rfl⟩ | ⟨_, _, ⟨_, rfl⟩, hcreate⟩⟩ := hthrows
  · rfl
  · exact throws_createJournalEntry hcreate

theorem throws_appendBalancedSeeing {input : DecimalJournalInput}
    (hthrows : (appendBalancedSeeing env seen input).Throws db err db') :
    db = db' := by
  unfold appendBalancedSeeing at hthrows
  simp only [throws_bind, throws_require, commits_require] at hthrows
  rcases hthrows with ⟨_, _, rfl⟩ | ⟨_, _, ⟨_, rfl⟩, ⟨_, _, rfl⟩ |
    ⟨_, _, ⟨_, rfl⟩, ⟨_, _, rfl⟩ | ⟨_, _, ⟨_, rfl⟩, hrest⟩⟩⟩
  · rfl
  · rfl
  · rfl
  · by_cases hseen : Recorded seen input.sourceRef
    · rw [if_pos hseen] at hrest
      exact absurd hrest throws_pure
    · rw [if_neg hseen] at hrest
      rcases throws_bind.1 hrest with hchecks | ⟨_, mid, hchecks, hinsert⟩
      · exact keepsAt_checkJournalInput.of_throws hchecks
      · have hmid : db = mid := keepsAt_checkJournalInput.of_commits hchecks
        subst hmid
        exact throws_insertJournalEntry hinsert

/-! ## Sound entries -/

/-- Two or more lines, none negative and none on both sides, whose sides agree up
to the tolerance and half a minor unit a line. -/
structure EntrySound (entry : JournalEntry) : Prop where
  two : 2 ≤ entry.lines.length
  nonneg : ∀ line ∈ entry.lines, 0 ≤ line.debit ∧ 0 ≤ line.credit
  oneSided : ∀ line ∈ entry.lines, line.debit = 0 ∨ line.credit = 0
  near : 2 * |totalDebit entry.lines - totalCredit entry.lines| ≤ 20 + (entry.lines.length : ℤ)

/-- No empty line, and the sides agree. -/
structure EntryExact (entry : JournalEntry) : Prop where
  filled : ∀ line ∈ entry.lines, line.debit ≠ 0 ∨ line.credit ≠ 0
  balanced : totalDebit entry.lines = totalCredit entry.lines

@[simp] theorem totalDebit_nil : totalDebit [] = 0 := rfl

@[simp] theorem totalCredit_nil : totalCredit [] = 0 := rfl

@[simp] theorem totalDebit_cons (line : JournalLine) (lines : List JournalLine) :
    totalDebit (line :: lines) = line.debit + totalDebit lines := rfl

@[simp] theorem totalCredit_cons (line : JournalLine) (lines : List JournalLine) :
    totalCredit (line :: lines) = line.credit + totalCredit lines := rfl

@[simp] theorem totalDebit_append (first second : List JournalLine) :
    totalDebit (first ++ second) = totalDebit first + totalDebit second := by
  simp [totalDebit, sum_append]

@[simp] theorem totalCredit_append (first second : List JournalLine) :
    totalCredit (first ++ second) = totalCredit first + totalCredit second := by
  simp [totalCredit, sum_append]

theorem fromMinor_mul (amount : ℤ) : fromMinor amount * 10000 = amount := by
  unfold fromMinor
  ring

@[simp] theorem stored_decimalLine (line : JournalLine) : (decimalLine line).stored = line := by
  unfold DecimalLine.stored decimalLine
  simp only [fromMinor_mul, roundHalfAway_intCast]

@[simp] theorem stored_decimal (input : AppendJournalInput) :
    input.decimal.stored = input := by
  have hlines : input.decimal.lines.map DecimalLine.stored = input.lines := by
    change (input.lines.map decimalLine).map DecimalLine.stored = input.lines
    rw [map_map]
    have hid : DecimalLine.stored ∘ decimalLine = id := funext stored_decimalLine
    rw [hid, map_id]
  unfold DecimalJournalInput.stored
  rw [hlines]
  rfl

theorem stored_line_near {line : DecimalLine} (hside : line.debit = 0 ∨ line.credit = 0) :
    |((line.stored.debit : ℚ) - line.stored.credit) -
      (line.debit - line.credit) * 10000| ≤ 1 / 2 := by
  unfold DecimalLine.stored
  rcases hside with hdebit | hcredit
  · have herror := abs_roundHalfAway_sub_le (line.credit * 10000)
    rw [hdebit, zero_mul, roundHalfAway_zero, Int.cast_zero]
    rw [abs_le] at herror ⊢
    constructor
    · linarith [herror.2]
    · linarith [herror.1]
  · have herror := abs_roundHalfAway_sub_le (line.debit * 10000)
    rw [hcredit, zero_mul, roundHalfAway_zero, Int.cast_zero]
    rw [abs_le] at herror ⊢
    constructor
    · linarith [herror.1]
    · linarith [herror.2]

theorem stored_lines_near {lines : List DecimalLine}
    (hsides : ∀ line ∈ lines, line.debit = 0 ∨ line.credit = 0) :
    |((totalDebit (lines.map DecimalLine.stored) : ℚ) -
        totalCredit (lines.map DecimalLine.stored)) -
      (decimalDebit lines - decimalCredit lines) * 10000| ≤ lines.length / 2 := by
  induction lines with
  | nil => simp [decimalDebit, decimalCredit]
  | cons line rest ih =>
      have hline := stored_line_near (hsides line (mem_cons_self ..))
      have hrest := ih fun other hother => hsides other (mem_cons_of_mem line hother)
      have hdebit : decimalDebit (line :: rest) = line.debit + decimalDebit rest := rfl
      have hcredit : decimalCredit (line :: rest) = line.credit + decimalCredit rest := rfl
      rw [map_cons, totalDebit_cons, totalCredit_cons, hdebit, hcredit, length_cons]
      push_cast
      rw [abs_le] at hline hrest ⊢
      constructor
      · linarith [hline.1, hrest.1]
      · linarith [hline.2, hrest.2]

theorem DecimalJournalInput.Accepted.sound {input : DecimalJournalInput}
    (haccepted : input.Accepted) : EntrySound input.stored.entry where
  two := by
    change 2 ≤ (input.lines.map DecimalLine.stored).length
    rw [length_map]
    exact haccepted.two
  nonneg := by
    intro line hline
    obtain ⟨given, hgiven, rfl⟩ := mem_map.1 hline
    have hsign := haccepted.nonneg given hgiven
    constructor
    · exact roundHalfAway_nonneg (by linarith [hsign.1])
    · exact roundHalfAway_nonneg (by linarith [hsign.2])
  oneSided := by
    intro line hline
    obtain ⟨given, hgiven, rfl⟩ := mem_map.1 hline
    rcases haccepted.oneSided given hgiven with hdebit | hcredit
    · left
      simp only [DecimalLine.stored, hdebit, zero_mul, roundHalfAway_zero]
    · right
      simp only [DecimalLine.stored, hcredit, zero_mul, roundHalfAway_zero]
  near := by
    have hrounded := stored_lines_near haccepted.oneSided
    have hnear := haccepted.near
    unfold journalTolerance at hnear
    have hcast : ((2 * |totalDebit (input.lines.map DecimalLine.stored) -
        totalCredit (input.lines.map DecimalLine.stored)| : ℤ) : ℚ) ≤
          ((20 + (input.lines.length : ℤ) : ℤ) : ℚ) := by
      push_cast
      rw [abs_le] at hrounded hnear
      have habs : |(totalDebit (input.lines.map DecimalLine.stored) : ℚ) -
          totalCredit (input.lines.map DecimalLine.stored)| ≤
            10 + input.lines.length / 2 := by
        rw [abs_le]
        constructor
        · linarith [hrounded.1, hnear.1]
        · linarith [hrounded.2, hnear.2]
      linarith
    have hint := Int.cast_le.1 hcast
    change 2 * |totalDebit (input.lines.map DecimalLine.stored) -
        totalCredit (input.lines.map DecimalLine.stored)| ≤
      20 + ((input.lines.map DecimalLine.stored).length : ℤ)
    rw [length_map]
    exact hint

theorem DecimalJournalInput.Accepted.exact_of_balanced (haccepted : input.decimal.Accepted)
    (hbalanced : totalDebit input.lines = totalCredit input.lines) :
    EntryExact input.entry where
  filled := by
    intro line hline
    have hgiven : decimalLine line ∈ input.decimal.lines := mem_map_of_mem hline
    have hfilled := haccepted.filled (decimalLine line) hgiven
    unfold decimalLine fromMinor at hfilled
    rcases hfilled with hdebit | hcredit
    · left
      intro hzero
      rw [hzero] at hdebit
      exact hdebit (by norm_num)
    · right
      intro hzero
      rw [hzero] at hcredit
      exact hcredit (by norm_num)
  balanced := hbalanced

/-! ## Each call -/

theorem balanced_pair (posting : PairPosting) :
    totalDebit posting.input.lines = totalCredit posting.input.lines := by
  simp [PairPosting.input, debitLine, creditLine]

theorem balanced_refundLeg (amount : ℤ) (credited : JournalAccount) :
    totalDebit (refundLeg amount credited) = totalCredit (refundLeg amount credited) := by
  unfold refundLeg
  by_cases hamount : 0 < amount
  · simp [hamount, debitLine, creditLine]
  · simp [hamount]

theorem balanced_refund (args : SubscriptionRefundArgs) :
    totalDebit args.input.lines = totalCredit args.input.lines := by
  unfold SubscriptionRefundArgs.input
  rw [totalDebit_append, totalCredit_append, balanced_refundLeg, balanced_refundLeg]

/-- The call's own amounts agree to the minor unit. -/
def JournalCall.Exact : JournalCall → Prop
  | .pair _ | .subscriptionRefund _ => True
  | .walletFunding activation =>
      totalDebit activation.fundingLines = totalCredit activation.fundingLines
  | .transaction input =>
      (∃ lines : List JournalLine, input.lines = lines.map decimalLine) ∧
        decimalDebit input.lines = decimalCredit input.lines

/-- From `journal` to `journal'` nothing happened, or a sound entry was appended
under a free reference. -/
def AppendsSound (call : JournalCall) (journal journal' : List JournalEntry) : Prop :=
  journal' = journal ∨ ∃ entry, ¬ Recorded journal entry.sourceRef ∧ journal' = journal ++ [entry] ∧
      EntrySound entry ∧ (call.Exact → EntryExact entry) ∧
      (entry.source ≠ "PROCESS_TRANSACTION" → EntryExact entry)

theorem decimal_totals (lines : List JournalLine) :
    decimalDebit (lines.map decimalLine) = fromMinor (totalDebit lines) ∧
      decimalCredit (lines.map decimalLine) = fromMinor (totalCredit lines) := by
  induction lines with
  | nil => simp [decimalDebit, decimalCredit, fromMinor]
  | cons line rest ih =>
      have hdebit : decimalDebit ((line :: rest).map decimalLine) =
          fromMinor line.debit + decimalDebit (rest.map decimalLine) := rfl
      have hcredit : decimalCredit ((line :: rest).map decimalLine) =
          fromMinor line.credit + decimalCredit (rest.map decimalLine) := rfl
      rw [hdebit, hcredit, ih.1, ih.2, totalDebit_cons, totalCredit_cons]
      unfold fromMinor
      push_cast
      constructor
      · ring
      · ring

theorem fromMinor_injective {first second : ℤ} (heq : fromMinor first = fromMinor second) :
    first = second := by
  have hscaled := congrArg (· * 10000) heq
  simp only [fromMinor_mul] at hscaled
  exact Int.cast_injective hscaled

theorem appendsSound_of_decimal
    (hexact : call.Exact → totalDebit input.lines = totalCredit input.lines)
    (htyped : input.source ≠ "PROCESS_TRANSACTION" →
      totalDebit input.lines = totalCredit input.lines)
    (hcommits : (appendBalancedSeeing env seen input.decimal).Commits db () db') :
    AppendsSound call db.journal db'.journal := by
  rcases commits_appendBalancedSeeing hcommits with hsame | ⟨haccepted, hfresh, hjournal⟩
  · exact .inl hsame
  · rw [stored_decimal] at hjournal
    have hsound := haccepted.sound
    rw [stored_decimal] at hsound
    refine .inr ⟨input.entry, hfresh, hjournal, hsound, ?_, ?_⟩
    · intro hcall
      exact haccepted.exact_of_balanced (hexact hcall)
    · intro hsource
      exact haccepted.exact_of_balanced (htyped hsource)

theorem commits_processTransaction {input : ProcessTransactionInput}
    {totals : ProcessTransactionTotals}
    (hcommits : (processTransaction env seen input).Commits db totals db') :
    (appendBalancedSeeing env seen input.journalInput).Commits db () db' := by
  unfold processTransaction at hcommits
  simp only [commits_bind, commits_require, commits_pure] at hcommits
  obtain ⟨_, _, ⟨_, rfl⟩, _, _, ⟨_, rfl⟩, _, _, ⟨_, rfl⟩, _, _, ⟨_, rfl⟩, hrest⟩ := hcommits
  obtain ⟨_, _, ⟨_, rfl⟩, _, _, ⟨_, rfl⟩, _, _, happend, _, rfl⟩ := hrest
  exact happend

theorem commits_journalCall (hcommits : (call.run env seen).Commits db () db') :
    AppendsSound call db.journal db'.journal := by
  cases call with
  | pair posting =>
      rw [JournalCall.run] at hcommits
      by_cases hamount : posting.amount ≤ 0
      · rw [if_pos hamount, commits_pure] at hcommits
        exact .inl (by rw [hcommits.2])
      · rw [if_neg hamount] at hcommits
        exact appendsSound_of_decimal (fun _ => balanced_pair posting)
          (fun _ => balanced_pair posting) hcommits
  | walletFunding activation =>
      rw [JournalCall.run] at hcommits
      simp only [commits_bind, commits_require] at hcommits
      obtain ⟨_, _, ⟨_, rfl⟩, _, _, ⟨_, rfl⟩, _, _, ⟨_, rfl⟩, happend⟩ := hcommits
      refine appendsSound_of_decimal ?_ ?_ happend
      · intro hexact
        exact hexact
      · intro hsource
        exact absurd rfl hsource
  | subscriptionRefund args =>
      rw [JournalCall.run] at hcommits
      by_cases hnothing : args.giftRemovalAmount ≤ 0 ∧ args.cashRefundAmount ≤ 0
      · rw [if_pos hnothing, commits_pure] at hcommits
        exact .inl (by rw [hcommits.2])
      · rw [if_neg hnothing] at hcommits
        exact appendsSound_of_decimal (fun _ => balanced_refund args)
          (fun _ => balanced_refund args) hcommits
  | transaction input =>
      rw [JournalCall.run] at hcommits
      simp only [commits_bind, commits_pure] at hcommits
      obtain ⟨_, _, hprocess, _, rfl⟩ := hcommits
      rcases commits_appendBalancedSeeing (commits_processTransaction hprocess) with
        hsame | ⟨haccepted, hfresh, hjournal⟩
      · exact .inl hsame
      · refine .inr ⟨_, hfresh, hjournal, haccepted.sound, ?_, fun h => absurd rfl h⟩
        rintro ⟨⟨lines, hlines⟩, hbalanced⟩
        have htotals := decimal_totals lines
        have hcolumns : totalDebit lines = totalCredit lines := by
          apply fromMinor_injective
          rw [← htotals.1, ← htotals.2, ← hlines]
          exact hbalanced
        let columns : AppendJournalInput := { input.journalInput.stored with lines := lines }
        have hinput : input.journalInput = columns.decimal := by
          unfold AppendJournalInput.decimal
          rw [← hlines]
          rfl
        rw [hinput] at haccepted ⊢
        rw [stored_decimal]
        exact haccepted.exact_of_balanced hcolumns

theorem throws_processTransaction {input : ProcessTransactionInput}
    (hthrows : (processTransaction env seen input).Throws db err db') :
    db = db' := by
  unfold processTransaction at hthrows
  simp only [throws_bind, throws_require, commits_require, throws_pure, and_false,
    exists_false, or_false] at hthrows
  rcases hthrows with ⟨_, _, rfl⟩ | ⟨_, _, ⟨_, rfl⟩, ⟨_, _, rfl⟩ |
    ⟨_, _, ⟨_, rfl⟩, ⟨_, _, rfl⟩ | ⟨_, _, ⟨_, rfl⟩, hrest⟩⟩⟩
  · rfl
  · rfl
  · rfl
  · rcases hrest with ⟨_, _, rfl⟩ | ⟨_, _, ⟨_, rfl⟩, ⟨_, _, rfl⟩ |
      ⟨_, _, ⟨_, rfl⟩, ⟨_, _, rfl⟩ | ⟨_, _, ⟨_, rfl⟩, happend⟩⟩⟩
    · rfl
    · rfl
    · rfl
    · exact throws_appendBalancedSeeing happend

theorem throws_journalCall (hthrows : (call.run env seen).Throws db err db') :
    db = db' := by
  cases call with
  | pair posting =>
      rw [JournalCall.run] at hthrows
      by_cases hamount : posting.amount ≤ 0
      · rw [if_pos hamount] at hthrows
        exact absurd hthrows throws_pure
      · rw [if_neg hamount] at hthrows
        exact throws_appendBalancedSeeing hthrows
  | walletFunding activation =>
      rw [JournalCall.run] at hthrows
      simp only [throws_bind, throws_require, commits_require] at hthrows
      rcases hthrows with ⟨_, _, rfl⟩ | ⟨_, _, ⟨_, rfl⟩, ⟨_, _, rfl⟩ |
        ⟨_, _, ⟨_, rfl⟩, ⟨_, _, rfl⟩ | ⟨_, _, ⟨_, rfl⟩, happend⟩⟩⟩
      · rfl
      · rfl
      · rfl
      · exact throws_appendBalancedSeeing happend
  | subscriptionRefund args =>
      rw [JournalCall.run] at hthrows
      by_cases hnothing : args.giftRemovalAmount ≤ 0 ∧ args.cashRefundAmount ≤ 0
      · rw [if_pos hnothing] at hthrows
        exact absurd hthrows throws_pure
      · rw [if_neg hnothing] at hthrows
        exact throws_appendBalancedSeeing hthrows
  | transaction input =>
      rw [JournalCall.run] at hthrows
      rcases throws_bind.1 hthrows with hprocess | ⟨_, _, _, hpure⟩
      · exact throws_processTransaction hprocess
      · exact absurd hpure throws_pure

theorem fromMinor_neg {amount : ℤ} : fromMinor amount < 0 ↔ amount < 0 := by
  unfold fromMinor
  rw [div_neg_iff]
  norm_num

theorem fromMinor_pos {amount : ℤ} : 0 < fromMinor amount ↔ 0 < amount := by
  unfold fromMinor
  rw [div_pos_iff]
  norm_num

theorem fromMinor_eq_zero {amount : ℤ} : fromMinor amount = 0 ↔ amount = 0 := by
  unfold fromMinor
  norm_num

theorem checkDecimalLine_decimalLine (line : JournalLine) :
    checkDecimalLine (decimalLine line) = checkJournalLine line := by
  unfold checkDecimalLine checkJournalLine
  change (do
    require (¬ (fromMinor line.debit < 0 ∨ fromMinor line.credit < 0)) _
    require (¬ (0 < fromMinor line.debit ∧ 0 < fromMinor line.credit)) _
    require (¬ (fromMinor line.debit = 0 ∧ fromMinor line.credit = 0)) _ : Tx Unit) = _
  rw [require_congr (not_congr (or_congr fromMinor_neg fromMinor_neg)),
    require_congr (not_congr (and_congr fromMinor_pos fromMinor_pos)),
    require_congr (not_congr (and_congr fromMinor_eq_zero fromMinor_eq_zero))]

theorem journalTolerance_lt {lines : List JournalLine} :
    journalTolerance < |decimalDebit (lines.map decimalLine) -
        decimalCredit (lines.map decimalLine)| ↔
      10 < |totalDebit lines - totalCredit lines| := by
  have htotals := decimal_totals lines
  have hscale : |fromMinor (totalDebit lines) - fromMinor (totalCredit lines)| =
      ((|totalDebit lines - totalCredit lines| : ℤ) : ℚ) / 10000 := by
    unfold fromMinor
    rw [← sub_div, abs_div]
    push_cast
    norm_num
  rw [htotals.1, htotals.2, hscale]
  unfold journalTolerance
  rw [lt_div_iff₀ (by norm_num)]
  norm_num
  norm_cast

theorem appendBalancedSeeing_current (hcommits : (appendBalanced env input).Commits db () db') :
    (appendBalancedSeeing env db.journal input.decimal).Commits db () db' := by
  unfold appendBalanced at hcommits
  simp only [commits_bind, commits_require, commits_get] at hcommits
  obtain ⟨_, _, ⟨hactor, rfl⟩, _, _, ⟨href, rfl⟩, _, _, ⟨htwo, rfl⟩, _, _, ⟨rfl, rfl⟩,
    hrest⟩ := hcommits
  have hlength : 2 ≤ input.decimal.lines.length := by
    change 2 ≤ (input.lines.map decimalLine).length
    rw [length_map]
    exact htwo
  unfold appendBalancedSeeing
  simp only [commits_bind, commits_require]
  refine ⟨(), db, ⟨hactor, rfl⟩, (), db, ⟨href, rfl⟩, (), db, ⟨hlength, rfl⟩, ?_⟩
  by_cases hrecorded : Recorded db.journal input.sourceRef
  · rw [if_pos hrecorded] at hrest
    rw [if_pos (show Recorded db.journal input.decimal.sourceRef from hrecorded)]
    exact hrest
  · rw [if_neg hrecorded] at hrest
    rw [if_neg (show ¬ Recorded db.journal input.decimal.sourceRef from hrecorded)]
    simp only [commits_bind, commits_require] at hrest
    obtain ⟨_, db₁, hperiod, _, db₂, hlines, _, _, ⟨hnear, rfl⟩, _, db₃, haccounts,
      hcreate⟩ := hrest
    obtain rfl := (KeepsAt.whenever (keepsAt_assertWriteAllowed ..)).of_commits hperiod
    obtain rfl := (KeepsAt.forM fun line _ _ => keepsAt_checkJournalLine line).of_commits hlines
    obtain rfl := (KeepsAt.forM (R := Eq) fun _ _ _ => keepsAt_require _ _).of_commits haccounts
    have hchecked : (checkJournalInput env input.decimal).Commits db () db := by
      unfold checkJournalInput
      simp only [commits_bind, commits_require]
      refine ⟨(), db, hperiod, (), db, ?_, (), db, ⟨?_, rfl⟩, ?_⟩
      · change ((input.lines.map decimalLine).forM checkDecimalLine).Commits db () db
        rw [forM_map]
        simp only [checkDecimalLine_decimalLine]
        exact hlines
      · intro hfar
        exact hnear (journalTolerance_lt.1 hfar)
      · change ((input.lines.map decimalLine).forM (checkDecimalAccount env)).Commits db () db
        rw [forM_map]
        exact haccounts
    refine commits_bind.2 ⟨(), db, hchecked, ?_⟩
    rw [stored_decimal]
    unfold insertJournalEntry
    simp only [commits_bind, commits_get, commits_require]
    exact ⟨_, _, ⟨rfl, rfl⟩, (), db, ⟨hrecorded, rfl⟩, hcreate⟩

/-! ## The invariant of the ledger -/

def ledgerDebits (journal : List JournalEntry) : ℤ :=
  tally (fun entry => totalDebit entry.lines) journal

def ledgerCredits (journal : List JournalEntry) : ℤ :=
  tally (fun entry => totalCredit entry.lines) journal

/-- Twice what the entry's sides may differ by, in minor units: nothing unless the
transaction processor wrote it. -/
def entrySlack (entry : JournalEntry) : ℤ :=
  if entry.source = "PROCESS_TRANSACTION" then 20 + entry.lines.length else 0

structure LedgerSound (calls : List JournalCall) (journal : List JournalEntry) : Prop where
  refs : (journal.map JournalEntry.sourceRef).Nodup
  sound : ∀ entry ∈ journal, EntrySound entry
  typed : ∀ entry ∈ journal, entry.source ≠ "PROCESS_TRANSACTION" → EntryExact entry
  exact_ : (∀ call ∈ calls, call.Exact) → ∀ entry ∈ journal, EntryExact entry

theorem ledgerSound_append {calls : List JournalCall} {journal' : List JournalEntry}
    (hsound : LedgerSound calls journal) (hstep : AppendsSound call journal journal') :
    LedgerSound (calls ++ [call]) journal' := by
  rcases hstep with rfl | ⟨entry, hfresh, rfl, hentry, hexact, htyped⟩
  · refine ⟨hsound.refs, hsound.sound, hsound.typed, ?_⟩
    intro hcalls
    exact hsound.exact_ fun other hother => hcalls other (mem_append_left _ hother)
  · constructor
    · rw [map_append, nodup_append]
      refine ⟨hsound.refs, nodup_singleton _, ?_⟩
      intro ref href ref' href' heq
      obtain ⟨old, hold, rfl⟩ := mem_map.1 href
      rw [map_singleton, mem_singleton] at href'
      exact hfresh ⟨old, hold, heq.trans href'⟩
    · intro other hother
      rcases mem_append.1 hother with hold | hnew
      · exact hsound.sound other hold
      · rw [mem_singleton.1 hnew]
        exact hentry
    · intro other hother hsource
      rcases mem_append.1 hother with hold | hnew
      · exact hsound.typed other hold hsource
      · rw [mem_singleton.1 hnew] at hsource ⊢
        exact htyped hsource
    · intro hcalls other hother
      rcases mem_append.1 hother with hold | hnew
      · exact hsound.exact_
          (fun earlier hearlier => hcalls earlier (mem_append_left _ hearlier)) other hold
      · rw [mem_singleton.1 hnew]
        exact hexact (hcalls call (mem_append_right _ (mem_singleton_self _)))

theorem ledgerSound_of_run {calls : List JournalCall} (hrun : JournalRun calls db) :
    LedgerSound calls db.journal := by
  induction hrun with
  | empty db hempty =>
      rw [hempty]
      exact ⟨nodup_nil, by simp, by simp, by simp⟩
  | committed env seen call _ _ hcommits ih =>
      exact ledgerSound_append ih (commits_journalCall hcommits)
  | refused env seen call err _ _ hthrows ih =>
      have hsame := throws_journalCall hthrows
      rw [← hsame]
      exact ledgerSound_append ih (.inl rfl)

theorem ledger_near (hsound : ∀ entry ∈ journal, EntrySound entry)
    (htyped : ∀ entry ∈ journal, entry.source ≠ "PROCESS_TRANSACTION" → EntryExact entry) :
    2 * |ledgerDebits journal - ledgerCredits journal| ≤ tally entrySlack journal := by
  induction journal with
  | nil => simp [ledgerDebits, ledgerCredits]
  | cons entry rest ih =>
      have hrest := ih (fun other hother => hsound other (mem_cons_of_mem entry hother))
        fun other hother => htyped other (mem_cons_of_mem entry hother)
      have hentry : 2 * |totalDebit entry.lines - totalCredit entry.lines| ≤
          entrySlack entry := by
        unfold entrySlack
        by_cases hsource : entry.source = "PROCESS_TRANSACTION"
        · rw [if_pos hsource]
          exact (hsound entry (mem_cons_self ..)).near
        · rw [if_neg hsource, (htyped entry (mem_cons_self ..) hsource).balanced,
            sub_self, abs_zero, mul_zero]
      have hsum := abs_add_le (totalDebit entry.lines - totalCredit entry.lines)
        (ledgerDebits rest - ledgerCredits rest)
      have hdebits : ledgerDebits (entry :: rest) =
          totalDebit entry.lines + ledgerDebits rest := tally_cons _ _ _
      have hcredits : ledgerCredits (entry :: rest) =
          totalCredit entry.lines + ledgerCredits rest := tally_cons _ _ _
      have hsplit : ledgerDebits (entry :: rest) - ledgerCredits (entry :: rest) =
          (totalDebit entry.lines - totalCredit entry.lines) +
            (ledgerDebits rest - ledgerCredits rest) := by
        omega
      rw [hsplit, tally_cons]
      omega

theorem ledger_balanced (hexact : ∀ entry ∈ journal, EntryExact entry) :
    ledgerDebits journal = ledgerCredits journal := by
  unfold ledgerDebits ledgerCredits tally
  congr 1
  apply map_congr_left
  intro entry hentry
  exact (hexact entry hentry).balanced

/-- Over every run: source references are distinct, every entry has two or more lines,
no line is negative or on both sides, each entry's sides agree up to the tolerance
and the rounding of its lines, and the ledger's sides up to that of the entries the
transaction processor wrote; they agree exactly while its callers' amounts do. -/
theorem journalRun_sound {calls : List JournalCall} {db : Db} (hrun : JournalRun calls db) :
    (db.journal.map JournalEntry.sourceRef).Nodup ∧ (∀ entry ∈ db.journal, EntrySound entry) ∧
      (∀ entry ∈ db.journal, entry.source ≠ "PROCESS_TRANSACTION" → EntryExact entry) ∧
      2 * |ledgerDebits db.journal - ledgerCredits db.journal| ≤ tally entrySlack db.journal ∧
      ((∀ call ∈ calls, call.Exact) → ledgerDebits db.journal = ledgerCredits db.journal ∧
          ∀ entry ∈ db.journal, EntryExact entry) := by
  have hsound := ledgerSound_of_run hrun
  refine ⟨hsound.refs, hsound.sound, hsound.typed, ?_, ?_⟩
  · exact ledger_near hsound.sound hsound.typed
  · intro hcalls
    have hexact := hsound.exact_ hcalls
    exact ⟨ledger_balanced hexact, hexact⟩

/-- A payment of one dinar and a tenth of a fils more than the customer is credited,
and a subsidy too small for the column. -/
def Sample.unevenTransaction : ProcessTransactionInput where
  transactionType := .PAYMENT
  referenceType := .INVOICE
  referenceId := "order"
  actorUserId := "owner"
  customerId := some "customer"
  orderId := some "order"
  sourceRef := none
  effectiveAt := none
  allowReversal := none
  customerLedgerCreditKd := 1
  fundingSources := [.PAYMENT .CASH (1 + 1 / 10000), .SUBSIDY (1 / 100000)]

def Sample.unevenBooks : Db :=
  (((JournalCall.transaction Sample.unevenTransaction).run Env.default []).outcome
    Db.initial).2

theorem Sample.unevenBooks_run :
    JournalRun [.transaction Sample.unevenTransaction] Sample.unevenBooks := by
  apply @JournalRun.committed [] Db.initial Sample.unevenBooks Env.default [] _
  · exact .empty Db.initial rfl
  · exact prefix_rfl
  · exact commits_of_isOk (by decide +kernel)

theorem journalRun_sound_sample :
    (Sample.unevenBooks.journal.map JournalEntry.sourceRef).Nodup ∧
      (∀ entry ∈ Sample.unevenBooks.journal, EntrySound entry) ∧
      (∀ entry ∈ Sample.unevenBooks.journal,
        entry.source ≠ "PROCESS_TRANSACTION" → EntryExact entry) ∧
      2 * |ledgerDebits Sample.unevenBooks.journal - ledgerCredits Sample.unevenBooks.journal| ≤
        tally entrySlack Sample.unevenBooks.journal ∧
      ((∀ call ∈ [JournalCall.transaction Sample.unevenTransaction], call.Exact) →
        ledgerDebits Sample.unevenBooks.journal = ledgerCredits Sample.unevenBooks.journal ∧
          ∀ entry ∈ Sample.unevenBooks.journal, EntryExact entry) :=
  journalRun_sound Sample.unevenBooks_run

theorem journalRun_uneven :
    ¬ ∀ (calls : List JournalCall) (db : Db), JournalRun calls db →
      ledgerDebits db.journal = ledgerCredits db.journal ∧
        (db.journal.map JournalEntry.sourceRef).Nodup ∧
        (∀ entry ∈ db.journal, 2 ≤ entry.lines.length) ∧
        ∀ entry ∈ db.journal, ∀ line ∈ entry.lines,
          (0 < line.debit ∧ line.credit = 0) ∨ (line.debit = 0 ∧ 0 < line.credit) := by
  intro hall
  have hbalanced := (hall _ _ Sample.unevenBooks_run).1
  revert hbalanced
  decide +kernel

end SafariLaundry
