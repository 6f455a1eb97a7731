import SafariLaundry.InvoiceReversal

/-!
# Editing an invoice on account again and again

Every edit takes the old total off wallet debt and receivable and puts the new one on.
The wallet follows each time.  The journal follows once: both entries of an edit stand
under references that name the order only, and a taken reference counts as done.
-/

namespace SafariLaundry

open Library Library.Bookkeeping Library.Transaction

def reappliedReceivable (order : Order) (journal : List JournalEntry) : ℤ :=
  if order.walletSettledAt ≠ none ∧ order.posPaymentMethod = .DEBT_ON_ACCOUNT ∧
      0 < order.totalPrice ∧ ¬ Recorded journal (shortfallReapplyRef order.id) then
    order.totalPrice
  else 0

variable {args : InvoiceEditArgs} {db : Db} {journal : List JournalEntry} {orderId : Uuid}

theorem InvoiceEdited.orderReceivable_eq {order : Order} {wallet : CustomerWallet} {db' : Db}
    (hedited : InvoiceEdited args order wallet db db')
    (hmethod : args.dto.newMethod order = .DEBT_ON_ACCOUNT)
    (hsettled : order.walletSettledAt ≠ none) :
    orderReceivable order.id db'.journal =
      orderReceivable order.id db.journal - reversedReceivable order db.journal +
        reappliedReceivable (args.editedOrder order) db.journal := by
  obtain ⟨_, _, rfl⟩ := hedited
  have hnew : (args.editedOrder order).posPaymentMethod = .DEBT_ON_ACCOUNT := hmethod
  have hstill : (args.editedOrder order).walletSettledAt ≠ none := hsettled
  have hreapply : ∀ wallet', reapplyEntries (args.editedOrder order) args.actorId wallet' =
      (mirrorInvoiceEntry (reapplyMirror (args.editedOrder order) args.actorId)).entries := by
    intro wallet'
    unfold reapplyEntries
    rw [if_neg hstill, hnew]
    rfl
  have hfree := @recorded_reversal order args.actorId db.journal
    (shortfallReapplyRef order.id) (by simp [shortfallReapplyRef, invoiceAuditVoidRef])
    (by simp [shortfallReapplyRef, walletAbsorptionVoidRef])
  change SafariLaundry.orderReceivable order.id (postAll JournalEntry.sourceRef db.journal
    (reversalEntries order args.actorId ++ reapplyEntries _ args.actorId _)) = _
  have hamount : (mirrorInvoiceEntry (reapplyMirror (args.editedOrder order)
      args.actorId)).amount = (args.editedOrder order).totalPrice := rfl
  have href : (mirrorInvoiceEntry (reapplyMirror (args.editedOrder order)
      args.actorId)).sourceRef = shortfallReapplyRef order.id := rfl
  rw [hreapply, postAll_append, orderReceivable_postAll rfl, orderReceivable_reversal,
    hamount, href]
  have hposts : (0 < (args.editedOrder order).totalPrice ∧ ¬ Recorded (postAll
        JournalEntry.sourceRef db.journal (reversalEntries order args.actorId))
        (shortfallReapplyRef order.id)) ↔
      ((args.editedOrder order).walletSettledAt ≠ none ∧
        (args.editedOrder order).posPaymentMethod = .DEBT_ON_ACCOUNT ∧
        0 < (args.editedOrder order).totalPrice ∧
        ¬ Recorded db.journal (shortfallReapplyRef order.id)) := by
    rw [hfree]
    constructor
    · intro hboth
      exact ⟨hstill, hnew, hboth⟩
    · intro hall
      exact hall.2.2
  have hmoved : ((if (mirrorInvoiceEntry (reapplyMirror (args.editedOrder order)
          args.actorId)).debited = .ACCOUNTS_RECEIVABLE then
        (args.editedOrder order).totalPrice else 0) -
      (if (mirrorInvoiceEntry (reapplyMirror (args.editedOrder order)
          args.actorId)).credited = .ACCOUNTS_RECEIVABLE then
        (args.editedOrder order).totalPrice else 0)) =
      (args.editedOrder order).totalPrice := by
    simp [mirrorInvoiceEntry]
  rw [if_congr hposts rfl rfl, hmoved]
  rfl

theorem InvoiceEdited.debt {order : Order} {db' : Db} {others : ℤ}
    (hedited : InvoiceEdited args order (db.wallets order.customerId) db db')
    (hmethod : order.posPaymentMethod = .DEBT_ON_ACCOUNT)
    (hkept : args.dto.newMethod order = .DEBT_ON_ACCOUNT) (hsettled : order.walletSettledAt ≠ none)
    (hothers : 0 ≤ others)
    (hdebt : (db.wallets order.customerId).debt = others + order.totalPrice) :
    (db'.wallets order.customerId).debt = others + args.dto.newTotal order := by
  obtain ⟨_, _, rfl⟩ := hedited
  have hreversed : reversedWallet order (db.wallets order.customerId)
      (db.wallets order.customerId) = { db.wallets order.customerId with debt := others } := by
    unfold reversedWallet
    rw [if_neg hsettled, hmethod]
    simp only [hdebt, add_sub_cancel_right, max_eq_right hothers]
  have hnew : (args.editedOrder order).posPaymentMethod = .DEBT_ON_ACCOUNT := hkept
  have hstill : (args.editedOrder order).walletSettledAt ≠ none := hsettled
  change (Function.update db.wallets order.customerId _ order.customerId).debt = _
  rw [Function.update_self, hreversed]
  unfold reappliedWallet
  rw [if_neg hstill, hnew]
  rfl

/-! ## Agreement of the three figures -/

structure AccountsAgree (others : ℤ) (orderId : Uuid) (db : Db) : Prop where
  row : ∃ row, db.orders.find? orderId = some row ∧
    row.posPaymentMethod = .DEBT_ON_ACCOUNT ∧ row.walletSettledAt ≠ none ∧
    0 ≤ row.totalPrice ∧
    (db.wallets row.customerId).debt - others = row.totalPrice ∧
    orderReceivable orderId db.journal = row.totalPrice

structure EditCall where
  env : Env
  args : InvoiceEditArgs

namespace EditCall

/-- The edit leaves the order on account, and its journal entries move the receivable
from the old total to the new: either both are written, a total of nought needing none,
or neither is and the total stays. -/
def BooksTheChange (call : EditCall) (db : Db) : Prop :=
  ∀ order, db.orders.find? call.args.orderId = some order →
    call.args.dto.newMethod order = .DEBT_ON_ACCOUNT ∧
    (((order.totalPrice = 0 ∨ ¬ Recorded db.journal (invoiceAuditVoidRef order.id)) ∧
        (call.args.dto.newTotal order = 0 ∨ ¬ Recorded db.journal (shortfallReapplyRef order.id))) ∨
      (call.args.dto.newTotal order = order.totalPrice ∧
        Recorded db.journal (invoiceAuditVoidRef order.id) ∧
        Recorded db.journal (shortfallReapplyRef order.id)))

end EditCall

def edits : Calls Db EditCall where
  step := fun call db => ((editInvoice call.env call.args).outcome db).2
  seen := fun _ => []

theorem outcome_editInvoice (env : Env) (args : InvoiceEditArgs) (db : Db) :
    (editInvoice env args).outcome db = (editInvoiceSeeing env args ⟨db, db⟩).outcome db := by
  have hread : (get : Tx Db).outcome db = (.ok db, db) := rfl
  rw [editInvoice, outcome_bind, hread]

theorem reversedReceivable_of_account {order : Order} (hsettled : order.walletSettledAt ≠ none)
    (hmethod : order.posPaymentMethod = .DEBT_ON_ACCOUNT) :
    reversedReceivable order journal =
      if 0 < order.totalPrice ∧ ¬ Recorded journal (invoiceAuditVoidRef order.id) then
        order.totalPrice
      else 0 := by
  unfold reversedReceivable ReversesDebt
  simp only [hsettled, hmethod, ne_eq, not_false_eq_true, true_and]

theorem booked_iff {old new : ℤ} {voidTaken reapplyTaken : Prop} [Decidable voidTaken]
    [Decidable reapplyTaken] (hold : 0 ≤ old) (hnew : 0 ≤ new) :
    old - (if 0 < old ∧ ¬ voidTaken then old else 0) +
        (if 0 < new ∧ ¬ reapplyTaken then new else 0) = new ↔
      ((old = 0 ∨ ¬ voidTaken) ∧ (new = 0 ∨ ¬ reapplyTaken)) ∨
        (new = old ∧ voidTaken ∧ reapplyTaken) := by
  have hwhole : ∀ amount : ℤ, 0 ≤ amount → (if 0 < amount then amount else 0) = amount := by
    intro amount hamount
    split <;> omega
  by_cases hvoid : voidTaken
  · by_cases hreapply : reapplyTaken
    · simp only [hvoid, hreapply, not_true_eq_false, and_false, if_false, or_false, and_true]
      constructor <;> intro h <;> omega
    · simp only [hvoid, hreapply, not_true_eq_false, and_false, if_false, or_false,
        not_false_eq_true, and_true, or_true, hwhole new hnew]
      constructor <;> intro h <;> omega
  · by_cases hreapply : reapplyTaken
    · simp only [hvoid, hreapply, not_true_eq_false, and_false, if_false, or_false,
        not_false_eq_true, and_true, or_true, true_and, hwhole old hold]
      constructor <;> intro h <;> omega
    · simp only [hvoid, hreapply, not_false_eq_true, and_true, or_true, true_or,
        hwhole old hold, hwhole new hnew]
      constructor
      · intro _
        trivial
      · intro _
        omega

theorem InvoiceEdited.agree_iff {order : Order} {db' : Db}
    (hedited : InvoiceEdited args order (db.wallets order.customerId) db db')
    (hsettled : order.walletSettledAt ≠ none) (hmethod : order.posPaymentMethod = .DEBT_ON_ACCOUNT)
    (hkept : args.dto.newMethod order = .DEBT_ON_ACCOUNT) (hold : 0 ≤ order.totalPrice)
    (hnew : 0 ≤ args.dto.newTotal order)
    (hagree : orderReceivable order.id db.journal = order.totalPrice) :
    orderReceivable order.id db'.journal = args.dto.newTotal order ↔
      ((order.totalPrice = 0 ∨ ¬ Recorded db.journal (invoiceAuditVoidRef order.id)) ∧
          (args.dto.newTotal order = 0 ∨ ¬ Recorded db.journal (shortfallReapplyRef order.id))) ∨
        (args.dto.newTotal order = order.totalPrice ∧
          Recorded db.journal (invoiceAuditVoidRef order.id) ∧
          Recorded db.journal (shortfallReapplyRef order.id)) := by
  have hreapplied : reappliedReceivable (args.editedOrder order) db.journal =
      if 0 < args.dto.newTotal order ∧ ¬ Recorded db.journal (shortfallReapplyRef order.id) then
        args.dto.newTotal order else 0 := by
    have hstill : (args.editedOrder order).walletSettledAt ≠ none := hsettled
    have hnewMethod : (args.editedOrder order).posPaymentMethod = .DEBT_ON_ACCOUNT := hkept
    unfold reappliedReceivable
    simp only [hstill, hnewMethod, ne_eq, not_false_eq_true, true_and]
    rfl
  rw [hedited.orderReceivable_eq hkept hsettled, hagree,
    reversedReceivable_of_account hsettled hmethod, hreapplied]
  exact booked_iff hold hnew

theorem edit_agrees {call : EditCall} {others : ℤ} (henv : call.env.StoreHealthy)
    (hothers : 0 ≤ others) (hagree : AccountsAgree others call.args.orderId db)
    (hbooks : call.BooksTheChange db) :
    AccountsAgree others call.args.orderId (edits.step call db) := by
  have hkeeps : KeepsAt (fun _ after => AccountsAgree others call.args.orderId after) db
      (editInvoiceSeeing call.env call.args ⟨db, db⟩) := by
    apply keepsAt_atomically
    · intro result db' hcommits
      simp only [commits_bind, commits_require, commits_fetch] at hcommits
      obtain ⟨_, _, ⟨_, rfl⟩, _, _, ⟨_, rfl⟩, order, _, ⟨hrow, rfl⟩, hedit⟩ := hcommits
      obtain ⟨_, hnew, _, heditedTo⟩ := commits_editAfterReads henv hedit
      have hedited := heditedTo.edited
      obtain ⟨found, hfound, hmethod, hsettled, hold, hdebt, hreceivable⟩ := hagree.row
      obtain rfl := Option.some.inj (hrow.symm.trans hfound)
      obtain ⟨hkept, hbooked⟩ := hbooks order hrow
      have hkey : order.id = call.args.orderId := Table.key_of_find? hrow
      rw [← hkey] at hreceivable ⊢
      refine ⟨call.args.repriced order order, ?_, hkept, hsettled, hnew, ?_, ?_⟩
      · obtain ⟨_, _, rfl⟩ := hedited
        change (db.orders.update order.id (call.args.repriced order)
          (call.args.repriced_id order)).find? order.id = _
        rw [Table.find?_update_self, hkey, hrow]
        rfl
      · have hfollows := hedited.debt hmethod hkept hsettled hothers (by omega)
        change (db'.wallets order.customerId).debt - others = call.args.dto.newTotal order
        omega
      · exact (hedited.agree_iff hsettled hmethod hkept hold hnew hreceivable).2 hbooked
    · intro after
      obtain ⟨row, hrow, hall⟩ := hagree.row
      exact ⟨row, hrow, hall⟩
  unfold KeepsAt at hkeeps
  rw [← outcome_editInvoice] at hkeeps
  exact hkeeps

/-! ## From the settlement on -/

def JournalUntouched (orderId : Uuid) (journal : List JournalEntry) : Prop :=
  ∀ entry ∈ journal, entry.orderId ≠ some orderId ∧ RefSegment.id orderId ∉ entry.sourceRef

theorem JournalUntouched.orderReceivable_eq (huntouched : JournalUntouched orderId journal) :
    orderReceivable orderId journal = 0 := by
  apply tally_eq_zero
  intro entry hentry
  exact if_neg (huntouched entry hentry).1

theorem JournalUntouched.not_recorded {ref : SourceRef}
    (huntouched : JournalUntouched orderId journal) (href : RefSegment.id orderId ∈ ref) :
    ¬ Recorded journal ref := by
  rintro ⟨entry, hentry, rfl⟩
  exact (huntouched entry hentry).2 href

theorem SettlementCall.names_of_mem_newEntries {call : SettlementCall} {entry : JournalEntry}
    (hmem : entry ∈ call.newEntries journal) :
    entry.orderId = some call.orderId ∧ entry.customerId = some call.order.customerId := by
  have habsorption : call.absorption.orderId = some call.orderId ∧
      call.absorption.customerId = call.order.customerId := by
    unfold absorption
    by_cases htrue : call.trueAccounting = true
    · rw [if_pos htrue]
      exact ⟨rfl, rfl⟩
    · rw [if_neg htrue]
      exact ⟨rfl, rfl⟩
  unfold newEntries at hmem
  simp only [List.mem_append, List.mem_ite_nil_right, List.mem_singleton] at hmem
  rcases hmem with (((⟨_, rfl⟩ | ⟨_, rfl⟩) | ⟨_, rfl⟩) | hexternal) | hpaydown
  · exact ⟨rfl, rfl⟩
  · exact ⟨rfl, rfl⟩
  · exact ⟨habsorption.1, congrArg some habsorption.2⟩
  · unfold externalNewEntries at hexternal
    cases hasset : call.asset with
    | none =>
        rw [hasset] at hexternal
        cases hexternal
    | some account =>
        rw [hasset] at hexternal
        simp only [List.mem_ite_nil_right, List.mem_singleton] at hexternal
        obtain ⟨_, rfl⟩ := hexternal
        exact ⟨rfl, rfl⟩
  · unfold paydownNewEntries at hpaydown
    cases hasset : call.asset with
    | none =>
        rw [hasset] at hpaydown
        cases hpaydown
    | some account =>
        rw [hasset] at hpaydown
        simp only [List.mem_ite_nil_right, List.mem_singleton] at hpaydown
        obtain ⟨_, rfl⟩ := hpaydown
        exact ⟨rfl, rfl⟩

theorem SettlementCall.orderReceivable_newEntries (call : SettlementCall)
    (journal : List JournalEntry) :
    orderReceivable call.orderId (call.newEntries journal) =
      receivable call.order.customerId (call.newEntries journal) := by
  unfold orderReceivable receivable customerNet tally
  congr 1
  apply List.map_congr_left
  intro entry hentry
  obtain ⟨horder, hcustomer⟩ := names_of_mem_newEntries hentry
  rw [if_pos horder, if_pos hcustomer]

theorem SettlementCall.receivable_newEntries_of_account {call : SettlementCall}
    (hmethod : call.order.posPaymentMethod = some .DEBT_ON_ACCOUNT)
    (htotal : 0 ≤ call.order.totalPrice) (htaken : call.safeTake = 0)
    (hissued : ¬ Recorded journal (invoiceIssuedRef call.orderId))
    (hshortfall : ¬ Recorded journal call.shortfallRef) :
    receivable call.order.customerId (call.newEntries journal) = call.order.totalPrice := by
  have hexternal : ¬ call.ExternalCoversShortfall := by
    unfold ExternalCoversShortfall
    simp [hmethod]
  have himmediate : ¬ call.HasImmediateReceivable journal := by
    unfold HasImmediateReceivable
    simp [hmethod]
  have habsorbed : call.absorbedAmount journal = 0 := by
    unfold absorbedAmount
    rw [htaken, ite_self]
  rw [receivable_newEntries, receivedAmount_of_not_external hexternal, habsorbed, sub_zero,
    sub_zero]
  by_cases htrue : call.trueAccounting = true
  · rw [recognisedAmount_of_true htrue]
    by_cases hpositive : 0 < call.order.totalPrice
    · exact if_pos ⟨⟨htrue, hpositive, himmediate⟩, hissued⟩
    · rw [if_neg fun hissues => hpositive hissues.1.2.1]
      omega
  · have hlegacy : call.trueAccounting = false := Bool.eq_false_iff.2 htrue
    rw [recognisedAmount_of_legacy hlegacy htotal, if_neg (not_or.2 ⟨hexternal, hshortfall⟩)]
    unfold shortfall
    rw [htaken, sub_zero]

theorem settled_agrees {env : Env} {performedByUserId : Uuid}
    {prefetch : Option OrderWalletSettlementPrefetch} {extra : SettlementMetadata} {order : Order}
    {start : Db} (henv : env.StoreHealthy) (hrow : db.orders.find? orderId = some order)
    (hunsettled : order.walletSettledAt = none)
    (hmethod : order.posPaymentMethod = .DEBT_ON_ACCOUNT)
    (hprefetch : settlementOrder orderId prefetch db = some order.settlementPrefetch)
    (hdeclared : extra.debtSettled.getD 0 ≤ 0) (huntouched : JournalUntouched orderId db.journal)
    (hcredit : (db.wallets order.customerId).balance ≤ 0 ∨ order.totalPrice = 0)
    (hsettle : (applyOrderWalletSettlementForCompletedOrder env orderId performedByUserId
      prefetch extra).Commits db () start) :
    AccountsAgree (db.wallets order.customerId).debt orderId start := by
  have hkey : order.id = orderId := Table.key_of_find? hrow
  obtain ⟨o, ho, hresult⟩ := commits_applyOrderWalletSettlement henv hsettle
  obtain rfl := Option.some.inj (hprefetch.symm.trans ho)
  have hfresh : (db.orders.find? orderId).bind Order.walletSettledAt = none := by
    rw [hrow]
    exact hunsettled
  obtain ⟨htotal, hsettled⟩ := hresult.of_unsettled hunsettled hfresh
  subst hkey
  obtain ⟨taken, owed, htaken, howed, hnewBalance, hnewDebt⟩ := @settlementCall_wallet env
    order performedByUserId extra (db.wallets order.customerId) (.inr hmethod) htotal
  have hnonneg : 0 ≤ order.totalPrice := htotal
  have hnothing : taken = 0 := by omega
  rw [if_pos hdeclared, howed, hnothing, sub_zero] at hnewDebt
  rw [hnothing] at hnewBalance
  change Settled env (settlementCall env order.id order.settlementPrefetch performedByUserId extra
    (db.wallets order.customerId)) db start at hsettled
  have hdebt : (start.wallets order.customerId).debt =
      (db.wallets order.customerId).debt + order.totalPrice := by
    rw [hsettled.wallets, ← hnewDebt]
    change (Function.update db.wallets order.customerId _ order.customerId).debt = _
    rw [Function.update_self]
  have hreceivable : orderReceivable order.id start.journal = order.totalPrice := by
    rw [hsettled.journal_append, orderReceivable_append, huntouched.orderReceivable_eq, zero_add]
    generalize hcall : settlementCall env order.id order.settlementPrefetch performedByUserId extra
      (db.wallets order.customerId) = call at hnewBalance
    have horder : call.orderId = order.id := by rw [← hcall]; rfl
    have hdata : call.order = order.settlementPrefetch := by rw [← hcall]; rfl
    have hwallet : call.wallet = db.wallets order.customerId := by rw [← hcall]; rfl
    have hsafeTake : call.safeTake = 0 := by
      unfold SettlementCall.newBalance at hnewBalance
      rw [hwallet] at hnewBalance
      omega
    rw [← horder, call.orderReceivable_newEntries]
    have htotals : call.order.totalPrice = order.totalPrice := by rw [hdata]; rfl
    rw [← htotals]
    apply SettlementCall.receivable_newEntries_of_account
    · rw [hdata]
      exact congrArg some hmethod
    · omega
    · exact hsafeTake
    · apply huntouched.not_recorded
      simp [invoiceIssuedRef, horder]
    · apply huntouched.not_recorded
      simp [SettlementCall.shortfallRef, horder]
  have hsame : (start.wallets (settledRow env
      (activeSubscription order.customerId db) order).customerId).debt -
        (db.wallets order.customerId).debt = order.totalPrice := by
    change (start.wallets order.customerId).debt - _ = _
    omega
  exact ⟨_, hsettled.find? hrow, hmethod, Option.some_ne_none _, hnonneg, hsame, hreceivable⟩

/-- From a settlement on account that took no credit on, the debt, the receivable and
the total of the order agree in every state of a run of edits that book what they
change. -/
theorem editRun_agrees {env : Env} {orderId performedByUserId : Uuid}
    {prefetch : Option OrderWalletSettlementPrefetch} {extra : SettlementMetadata}
    {order : Order} {db start : Db} {trace : List Db} (henv : env.StoreHealthy)
    (hrow : db.orders.find? orderId = some order) (hunsettled : order.walletSettledAt = none)
    (hmethod : order.posPaymentMethod = .DEBT_ON_ACCOUNT)
    (hprefetch : settlementOrder orderId prefetch db = some order.settlementPrefetch)
    (hdeclared : extra.debtSettled.getD 0 ≤ 0)
    (huntouched : JournalUntouched orderId db.journal)
    (hcredit : (db.wallets order.customerId).balance ≤ 0 ∨ order.totalPrice = 0)
    (hothers : 0 ≤ (db.wallets order.customerId).debt)
    (hsettle : (applyOrderWalletSettlementForCompletedOrder env orderId performedByUserId
      prefetch extra).Commits db () start)
    (hrun : edits.Run (fun call found => call.env.StoreHealthy ∧
      call.args.orderId = orderId ∧ call.BooksTheChange found) start trace) :
    ∀ after ∈ trace, AccountsAgree (db.wallets order.customerId).debt orderId after := by
  have hstart := settled_agrees henv hrow hunsettled hmethod hprefetch hdeclared huntouched
    hcredit hsettle
  have hstep : ∀ (call : EditCall) (found : Db),
      AccountsAgree (db.wallets order.customerId).debt orderId found →
      (∀ read ∈ edits.seen call, AccountsAgree (db.wallets order.customerId).debt orderId read) →
      call.env.StoreHealthy ∧ call.args.orderId = orderId ∧ call.BooksTheChange found →
      AccountsAgree (db.wallets order.customerId).debt orderId (edits.step call found) := by
    rintro call found hagree _ ⟨hcall, rfl, hbooks⟩
    exact edit_agrees hcall hothers hagree hbooks
  exact hrun.invariant hstart hstep

namespace Sample

def accountOrder : Order :=
  { order "order" with posPaymentMethod := .DEBT_ON_ACCOUNT }

def accountShop : Db :=
  shop ⟨0, 50000⟩ ⟨[accountOrder], List.nodup_singleton _⟩

def accountSettled : Db :=
  ((applyOrderWalletSettlementForCompletedOrder Env.default "order" "owner" none .none).outcome
    accountShop).2

def ownersEdit (total : ℤ) : EditCall where
  env := Env.default
  args :=
    { orderId := "order"
      actorId := "owner"
      actorRole := .OWNER
      dto := ⟨some total, none, none, none⟩ }

theorem accountSettled_commits :
    (applyOrderWalletSettlementForCompletedOrder Env.default "order" "owner" none
      .none).Commits accountShop () accountSettled :=
  commits_of_isOk (by decide +kernel)

end Sample

theorem editRun_agrees_sample :
    AccountsAgree 50000 "order" (edits.step (Sample.ownersEdit 30000) Sample.accountSettled) := by
  have hbooks : (Sample.ownersEdit 30000).BooksTheChange Sample.accountSettled := by
    intro order hrow
    have hall : ∀ found, Sample.accountSettled.orders.find? "order" = some found →
        (Sample.ownersEdit 30000).args.dto.newMethod found = .DEBT_ON_ACCOUNT ∧
        ¬ Recorded Sample.accountSettled.journal (invoiceAuditVoidRef found.id) ∧
        ¬ Recorded Sample.accountSettled.journal (shortfallReapplyRef found.id) := by
      have hfound : (Sample.accountSettled.orders.find? "order").all fun found =>
          decide ((Sample.ownersEdit 30000).args.dto.newMethod found = .DEBT_ON_ACCOUNT ∧
          ¬ Recorded Sample.accountSettled.journal (invoiceAuditVoidRef found.id) ∧
          ¬ Recorded Sample.accountSettled.journal (shortfallReapplyRef found.id)) := by
        decide +kernel
      intro found hsome
      rw [hsome] at hfound
      exact of_decide_eq_true hfound
    obtain ⟨hkept, hvoid, hreapply⟩ := hall order hrow
    exact ⟨hkept, .inl ⟨.inr hvoid, .inr hreapply⟩⟩
  apply @editRun_agrees Env.default "order" "owner" none .none Sample.accountOrder
    Sample.accountShop Sample.accountSettled
    [edits.step (Sample.ownersEdit 30000) Sample.accountSettled, Sample.accountSettled]
    (fun _ => rfl) rfl rfl rfl rfl (by decide) _ (.inl (by decide)) (by decide)
    Sample.accountSettled_commits
  · apply Library.Calls.Run.call (Sample.ownersEdit 30000) .start
    · intro read hread
      cases hread
    · exact ⟨fun _ => rfl, rfl, hbooks⟩
  · exact List.mem_cons_self ..
  · intro entry hentry
    cases hentry

def EditCall.ChangesTotal (call : EditCall) (db : Db) : Prop :=
  ∀ order, db.orders.find? call.args.orderId = some order →
    call.args.dto.newTotal order ≠ order.totalPrice

theorem editRun_agrees_fails :
    ¬ ∀ (env : Env) (orderId performedByUserId : Uuid) (order : Order) (db start : Db)
      (trace : List Db), env.StoreHealthy → db.orders.find? orderId = some order →
      order.walletSettledAt = none → order.posPaymentMethod = .DEBT_ON_ACCOUNT →
      JournalUntouched orderId db.journal → (db.wallets order.customerId).balance ≤ 0 →
      0 ≤ (db.wallets order.customerId).debt →
      (applyOrderWalletSettlementForCompletedOrder env orderId performedByUserId none
        .none).Commits db () start →
      edits.Run (fun call found => call.env.StoreHealthy ∧ call.args.orderId = orderId ∧
        call.ChangesTotal found) start trace →
      ∀ after ∈ trace, AccountsAgree (db.wallets order.customerId).debt orderId after := by
  intro hall
  let once := edits.step (Sample.ownersEdit 30000) Sample.accountSettled
  let twice := edits.step (Sample.ownersEdit 40000) once
  have hchanges : ∀ (found : Db) (total : ℤ),
      (found.orders.find? "order").all (fun row => decide (total ≠ row.totalPrice)) = true →
      (Sample.ownersEdit total).ChangesTotal found := by
    intro found total hdiffers row hrow
    change found.orders.find? "order" = some row at hrow
    rw [hrow] at hdiffers
    exact of_decide_eq_true hdiffers
  have hrun : edits.Run (fun call found => call.env.StoreHealthy ∧
      call.args.orderId = "order" ∧ call.ChangesTotal found) Sample.accountSettled
      [twice, once, Sample.accountSettled] := by
    apply Library.Calls.Run.call (Sample.ownersEdit 40000)
    · apply Library.Calls.Run.call (Sample.ownersEdit 30000) .start
      · intro read hread
        cases hread
      · exact ⟨fun _ => rfl, rfl, hchanges _ _ (by decide +kernel)⟩
    · intro read hread
      cases hread
    · exact ⟨fun _ => rfl, rfl, hchanges _ _ (by decide +kernel)⟩
  have hagree := hall Env.default "order" "owner" Sample.accountOrder Sample.accountShop
    Sample.accountSettled _ (fun _ => rfl) rfl rfl rfl
    (by intro entry hentry; cases hentry) (by decide) (by decide)
    Sample.accountSettled_commits hrun twice (List.mem_cons_self ..)
  obtain ⟨row, hrow, _, _, _, _, hreceivable⟩ := hagree.row
  have hwrong : (twice.orders.find? "order").all (fun row =>
      decide (orderReceivable "order" twice.journal ≠ row.totalPrice)) = true := by
    decide +kernel
  rw [hrow, Option.all_some] at hwrong
  exact of_decide_eq_true hwrong hreceivable

end SafariLaundry
