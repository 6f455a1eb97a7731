import SafariLaundry.InvoiceEdits

/-!
# Wallet balances and the wallet liability

Settlements, edits and voids move a wallet by arithmetic of their own and the liability by
the entries they remember to post, each under a reference built from the order alone.  The
second reversal and the second re-application of one order find their references taken: the
wallet moves and the journal does not.
-/

namespace SafariLaundry

open Library Library.Bookkeeping Library.Transaction List

def walletLiabilityTolerance : ℤ := 10

structure WalletLiabilityRow where
  (expectedKd actualKd deltaKd : ℤ)
  ok : Bool
  detail : Option String

/-- Credits minus debits on the liability, whoever they concern. -/
def journalLiability (journal : List JournalEntry) : ℤ :=
  -tally (fun entry => net JournalAccount.WALLET_LIABILITY entry.lines) journal

def checkWalletLiabilityMatch (holders : Finset Uuid) (db : Db) : WalletLiabilityRow :=
  let delta := journalLiability db.journal - ∑ id ∈ holders, (db.wallets id).balance
  { expectedKd := journalLiability db.journal
    actualKd := ∑ id ∈ holders, (db.wallets id).balance
    deltaKd := delta
    ok := |delta| ≤ walletLiabilityTolerance
    detail := if |delta| ≤ walletLiabilityTolerance then none
      else some "WALLET_LIABILITY_DRIFT" }

inductive WalletMove
  | settle (env : Env) (orderId performedByUserId : Uuid)
      (prefetch : Option OrderWalletSettlementPrefetch) (extra : SettlementMetadata)
  | edit (env : Env) (args : InvoiceEditArgs)
  | void (env : Env) (args : InvoiceVoidArgs)

namespace WalletMove

def env : WalletMove → Env
  | .settle env _ _ _ _ | .edit env _ | .void env _ => env

def run : WalletMove → Tx Unit
  | .settle env orderId performedByUserId prefetch extra =>
      transaction (applyOrderWalletSettlementForCompletedOrder env orderId performedByUserId
        prefetch extra)
  | .edit env args => do
      let _ ← editInvoice env args
  | .void env args => do
      let _ ← voidInvoice env args

def Committed (move : WalletMove) (db : Db) : Prop :=
  move.env.StoreHealthy ∧ ∃ db', move.run.Commits db () db'

def customer (move : WalletMove) (db : Db) : Option Uuid :=
  match move with
  | .settle _ orderId _ prefetch _ =>
      (settlementOrder orderId prefetch db).map OrderWalletSettlementPrefetch.customerId
  | .edit _ args => (db.orders.find? args.orderId).map Order.customerId
  | .void _ args => (db.orders.find? args.orderId).map Order.customerId

end WalletMove

def walletMoves : Calls Db WalletMove where
  step := fun move db => (move.run.outcome db).2
  seen := fun _ => []

def WalletInStep (customerId : Uuid) (start db : Db) : Prop :=
  (db.wallets customerId).balance - (start.wallets customerId).balance =
    walletLiability customerId db.journal - walletLiability customerId start.journal

def absorptionRef (env : Env) (orderId : Uuid) : SourceRef :=
  if isV20_3TrueAccountingEnabled env = true then walletAbsorptionV3Ref orderId
  else walletAbsorptionRef orderId

def OrderWalletSettlementPrefetch.TakesCredit (o : OrderWalletSettlementPrefetch)
    (wallet : CustomerWallet) : Prop :=
  (o.posPaymentMethod = some .SUBSCRIPTION_WALLET ∨ o.posPaymentMethod = some .DEBT_ON_ACCOUNT) ∧
    0 < wallet.balance ∧ 0 < o.totalPrice

/-- The credit that a reversal gives back under a reference that is taken. -/
def unbookedReversal (order : Order) (journal : List JournalEntry) : ℤ :=
  if order.posPaymentMethod = .SUBSCRIPTION_WALLET ∧
      Recorded journal (walletAbsorptionVoidRef order.id) then
    order.totalPrice
  else 0

def creditOnceReversed (order : Order) (wallet : CustomerWallet) : ℤ :=
  if order.posPaymentMethod = .SUBSCRIPTION_WALLET then wallet.balance + order.totalPrice
  else wallet.balance

/-- The credit that a re-application takes and does not post: all of it under a reference
that is taken, what is below zero otherwise. -/
def InvoiceEditArgs.unbookedReapply (args : InvoiceEditArgs) (order : Order)
    (wallet : CustomerWallet) (journal : List JournalEntry) : ℤ :=
  if args.dto.newMethod order = .SUBSCRIPTION_WALLET then
    if Recorded journal (walletReapplyRef order.id) then
      min (args.dto.newTotal order) (creditOnceReversed order wallet)
    else min 0 (creditOnceReversed order wallet)
  else 0

/-- The references under which the move posts are free where it moves the customer's
wallet; an edit may also give back without an entry what it takes without one. -/
def WalletMove.BooksTheCredit (customerId : Uuid) (move : WalletMove) (db : Db) : Prop :=
  match move with
  | .settle env orderId _ prefetch _ =>
      ∀ o, settlementOrder orderId prefetch db = some o → o.customerId = customerId →
        o.walletSettledAt = none → (db.orders.find? orderId).bind Order.walletSettledAt = none →
        o.TakesCredit (db.wallets customerId) →
        ¬ Recorded db.journal (absorptionRef env orderId)
  | .edit _ args =>
      ∀ order, db.orders.find? args.orderId = some order → order.customerId = customerId →
        order.walletSettledAt ≠ none →
        unbookedReversal order db.journal =
          args.unbookedReapply order (db.wallets customerId) db.journal
  | .void _ args =>
      ∀ order, db.orders.find? args.orderId = some order → order.customerId = customerId →
        order.walletSettledAt ≠ none → unbookedReversal order db.journal = 0

/-! ## One customer's liability -/

variable {customerId : Uuid} {db db' : Db}

def walletGap (customerId : Uuid) (db : Db) : ℤ :=
  (db.wallets customerId).balance - walletLiability customerId db.journal

theorem walletInStep_iff {start : Db} :
    WalletInStep customerId start db ↔ walletGap customerId db = walletGap customerId start := by
  unfold WalletInStep walletGap
  constructor
  · intro hstep
    omega
  · intro hgap
    omega

def EntriesFor (customerId : Uuid) (entries : List JournalEntry) : Prop :=
  ∀ entry ∈ entries, entry.customerId = some customerId

theorem EntriesFor.append {first second : List JournalEntry}
    (hfirst : EntriesFor customerId first) (hsecond : EntriesFor customerId second) :
    EntriesFor customerId (first ++ second) := by
  intro entry hentry
  rcases mem_append.1 hentry with hmem | hmem
  · exact hfirst entry hmem
  · exact hsecond entry hmem

theorem EntriesFor.nil (customerId : Uuid) : EntriesFor customerId [] :=
  fun _ hentry => absurd hentry not_mem_nil

theorem PairPosting.entriesFor (posting : PairPosting) :
    EntriesFor posting.customerId posting.entries := by
  intro entry hentry
  unfold entries at hentry
  split at hentry
  · cases hentry
  · obtain rfl := mem_singleton.1 hentry
    rfl

theorem mirrorEntries_for (input : MirrorDebtLedgerInput) :
    EntriesFor input.customerId (mirrorEntries input) := by
  unfold mirrorEntries
  cases input.source with
  | PAYMENT =>
      simp only
      split
      · exact .nil _
      · cases paymentAssetAccount input with
        | none => exact .nil _
        | some asset => exact (mirrorPaymentEntry input asset).entriesFor
  | INVOICE_SHORTFALL => exact (mirrorInvoiceEntry input).entriesFor
  | SUBSCRIPTION_OVERUSE => exact (mirrorInvoiceEntry input).entriesFor

theorem reversalEntries_for (order : Order) (actorId : Uuid) :
    EntriesFor order.customerId (reversalEntries order actorId) := by
  unfold reversalEntries
  split
  · exact .nil _
  · cases order.posPaymentMethod with
    | DEBT_ON_ACCOUNT => exact mirrorEntries_for (reversalMirror order actorId)
    | SUBSCRIPTION_WALLET =>
        intro entry hentry
        obtain rfl := mem_singleton.1 hentry
        rfl
    | CASH | KNET | ONLINE | PAYMENT_LINK => exact .nil _

theorem reapplyEntries_for (order : Order) (actorId : Uuid) (wallet : CustomerWallet) :
    EntriesFor order.customerId (reapplyEntries order actorId wallet) := by
  unfold reapplyEntries
  split
  · exact .nil _
  · cases order.posPaymentMethod with
    | DEBT_ON_ACCOUNT => exact mirrorEntries_for (reapplyMirror order actorId)
    | SUBSCRIPTION_WALLET => exact (walletReapplyEntry order actorId _).entriesFor
    | CASH | KNET | ONLINE | PAYMENT_LINK => exact .nil _

theorem exists_postAll_eq_append (journal entries : List JournalEntry) :
    ∃ added, postAll JournalEntry.sourceRef journal entries = journal ++ added ∧
      ∀ entry ∈ added, entry ∈ entries := by
  induction entries generalizing journal with
  | nil => exact ⟨[], (append_nil _).symm, fun _ hentry => hentry⟩
  | cons entry entries ih =>
      obtain ⟨added, hadded, hmem⟩ := ih (post JournalEntry.sourceRef journal entry)
      rw [postAll_cons, hadded]
      unfold post
      split
      · exact ⟨added, rfl, fun other hother => mem_cons_of_mem _ (hmem other hother)⟩
      · refine ⟨entry :: added, by rw [append_assoc, singleton_append], ?_⟩
        intro other hother
        rcases mem_cons.1 hother with rfl | hother
        · exact mem_cons_self ..
        · exact mem_cons_of_mem _ (hmem other hother)

theorem customerNet_of_other {entries : List JournalEntry} {other : Uuid}
    (account : JournalAccount) (hentries : EntriesFor other entries) (hne : other ≠ customerId) :
    customerNet account customerId entries = 0 := by
  apply tally_eq_zero
  intro entry hentry
  rw [if_neg]
  rw [hentries entry hentry]
  exact fun hsame => hne (Option.some.inj hsame)

def PairPosting.owed (posting : PairPosting) : ℤ :=
  (if posting.credited = .WALLET_LIABILITY then posting.amount else 0) -
    (if posting.debited = .WALLET_LIABILITY then posting.amount else 0)

theorem walletLiability_post (posting : PairPosting) (journal : List JournalEntry) :
    walletLiability posting.customerId (post JournalEntry.sourceRef journal posting.input.entry) =
      walletLiability posting.customerId journal +
        if Recorded journal posting.sourceRef then 0 else posting.owed := by
  have hpair := customerNet_pair .WALLET_LIABILITY posting
  unfold customerNet at hpair
  rw [tally_cons, tally_nil, add_zero] at hpair
  unfold walletLiability customerNet
  rw [tally_post, hpair]
  have hkey : posting.input.entry.sourceRef = posting.sourceRef := rfl
  rw [hkey]
  unfold PairPosting.owed
  split
  · omega
  · omega

theorem walletLiability_postAll_pair (posting : PairPosting) (journal : List JournalEntry) :
    walletLiability posting.customerId (postAll JournalEntry.sourceRef journal posting.entries) =
      walletLiability posting.customerId journal +
        if 0 < posting.amount ∧ ¬ Recorded journal posting.sourceRef then posting.owed else 0 := by
  by_cases hamount : 0 < posting.amount
  · rw [PairPosting.entries_of_pos hamount, postAll_cons, postAll_nil, walletLiability_post]
    by_cases hrecorded : Recorded journal posting.sourceRef
    · rw [if_pos hrecorded, if_neg fun hboth => hboth.2 hrecorded]
    · rw [if_neg hrecorded, if_pos ⟨hamount, hrecorded⟩]
  · rw [PairPosting.entries_of_nonpos (not_lt.1 hamount), postAll_nil,
      if_neg fun hboth => hamount hboth.1, add_zero]

theorem walletLiability_postAll_other {posting : PairPosting} (journal : List JournalEntry)
    (howed : posting.owed = 0) :
    walletLiability posting.customerId (postAll JournalEntry.sourceRef journal posting.entries) =
      walletLiability posting.customerId journal := by
  rw [walletLiability_postAll_pair, howed, ite_self, add_zero]

/-! ## Taking back and applying again -/

theorem walletLiability_reversal (order : Order) (actorId : Uuid) (journal : List JournalEntry) :
    walletLiability order.customerId
        (postAll JournalEntry.sourceRef journal (reversalEntries order actorId)) =
      walletLiability order.customerId journal +
        if order.walletSettledAt ≠ none ∧ order.posPaymentMethod = .SUBSCRIPTION_WALLET ∧
            ¬ Recorded journal (walletAbsorptionVoidRef order.id) then
          order.totalPrice
        else 0 := by
  unfold reversalEntries
  by_cases hunsettled : order.walletSettledAt = none
  · rw [if_pos hunsettled, if_neg fun hall => hall.1 hunsettled, postAll_nil, add_zero]
  · rw [if_neg hunsettled]
    cases hmethod : order.posPaymentMethod with
    | DEBT_ON_ACCOUNT =>
        have hother : (reversalPosting order actorId).owed = 0 := rfl
        simp only [reduceCtorEq, false_and, and_false, if_false, add_zero]
        rw [mirrorEntries_reversal]
        exact @walletLiability_postAll_other (reversalPosting order actorId) journal hother
    | SUBSCRIPTION_WALLET =>
        have howed : (walletAbsorptionVoidEntry order actorId).owed = order.totalPrice := by
          simp [PairPosting.owed, walletAbsorptionVoidEntry]
        simp only
        rw [postAll_cons, postAll_nil]
        have hposted := walletLiability_post (walletAbsorptionVoidEntry order actorId) journal
        rw [howed] at hposted
        refine hposted.trans ?_
        have href : (walletAbsorptionVoidEntry order actorId).sourceRef =
            walletAbsorptionVoidRef order.id := rfl
        rw [href]
        by_cases hrecorded : Recorded journal (walletAbsorptionVoidRef order.id)
        · rw [if_pos hrecorded, if_neg fun hall => hall.2.2 hrecorded]
          rfl
        · rw [if_neg hrecorded, if_pos ⟨hunsettled, trivial, hrecorded⟩]
          rfl
    | CASH | KNET | ONLINE | PAYMENT_LINK =>
        simp only [reduceCtorEq, false_and, and_false, if_false, add_zero, postAll_nil]

theorem reversedWallet_balance (order : Order) (wallet : CustomerWallet) :
    (reversedWallet order wallet wallet).balance =
      if order.walletSettledAt = none then wallet.balance else creditOnceReversed order wallet := by
  unfold reversedWallet creditOnceReversed
  by_cases hunsettled : order.walletSettledAt = none
  · rw [if_pos hunsettled, if_pos hunsettled]
  · rw [if_neg hunsettled, if_neg hunsettled]
    cases order.posPaymentMethod with
    | DEBT_ON_ACCOUNT | SUBSCRIPTION_WALLET | CASH | KNET | ONLINE | PAYMENT_LINK => rfl

theorem walletGap_reversed (order : Order) (actorId : Uuid) (wallet : CustomerWallet)
    (journal : List JournalEntry) (hsettled : order.walletSettledAt ≠ none) :
    (reversedWallet order wallet wallet).balance - walletLiability order.customerId
          (postAll JournalEntry.sourceRef journal (reversalEntries order actorId)) =
      wallet.balance - walletLiability order.customerId journal +
        unbookedReversal order journal := by
  rw [reversedWallet_balance, if_neg hsettled, walletLiability_reversal]
  unfold creditOnceReversed unbookedReversal
  by_cases hmethod : order.posPaymentMethod = .SUBSCRIPTION_WALLET
  · by_cases hrecorded : Recorded journal (walletAbsorptionVoidRef order.id)
    · rw [if_pos hmethod, if_neg fun hall => hall.2.2 hrecorded, if_pos ⟨hmethod, hrecorded⟩]
      omega
    · rw [if_pos hmethod, if_pos ⟨hsettled, hmethod, hrecorded⟩,
        if_neg fun hboth => hrecorded hboth.2]
      omega
  · rw [if_neg hmethod, if_neg fun hall => hmethod hall.2.1, if_neg fun hboth => hmethod hboth.1]
    omega

theorem actualDeducted_eq_min (total : ℤ) (wallet : CustomerWallet) :
    actualDeducted total wallet = min total wallet.balance := by
  unfold actualDeducted
  split
  · exact (min_eq_left ‹_›).symm
  · exact (min_eq_right (le_of_not_ge ‹_›)).symm

variable {order : Order} {orderId : Uuid} {o : OrderWalletSettlementPrefetch} {move : WalletMove}

theorem walletGap_reapplied (actorId : Uuid) (wallet : CustomerWallet) (journal : List JournalEntry)
    (hsettled : order.walletSettledAt ≠ none) (htotal : 0 ≤ order.totalPrice) :
    (reappliedWallet order wallet).balance -
        walletLiability order.customerId (postAll JournalEntry.sourceRef journal
          (reapplyEntries order actorId wallet)) =
      wallet.balance - walletLiability order.customerId journal -
        if order.posPaymentMethod = .SUBSCRIPTION_WALLET then
          if Recorded journal (walletReapplyRef order.id) then
            min order.totalPrice wallet.balance
          else min 0 wallet.balance
        else 0 := by
  unfold reappliedWallet reapplyEntries
  rw [if_neg hsettled, if_neg hsettled]
  cases hmethod : order.posPaymentMethod with
  | DEBT_ON_ACCOUNT =>
      have hother : (mirrorInvoiceEntry (reapplyMirror order actorId)).owed = 0 := rfl
      simp only [reduceCtorEq, if_false, sub_zero]
      exact congrArg (wallet.balance - ·) (@walletLiability_postAll_other
        (mirrorInvoiceEntry (reapplyMirror order actorId)) journal hother)
  | SUBSCRIPTION_WALLET =>
      have hposted := walletLiability_postAll_pair
        (walletReapplyEntry order actorId (actualDeducted order.totalPrice wallet)) journal
      have howed : (walletReapplyEntry order actorId
          (actualDeducted order.totalPrice wallet)).owed =
          -actualDeducted order.totalPrice wallet := by
        simp [PairPosting.owed, walletReapplyEntry]
      have href : (walletReapplyEntry order actorId
          (actualDeducted order.totalPrice wallet)).sourceRef = walletReapplyRef order.id := rfl
      have hamount : (walletReapplyEntry order actorId
          (actualDeducted order.totalPrice wallet)).amount =
          actualDeducted order.totalPrice wallet := rfl
      have hcustomer : (walletReapplyEntry order actorId
          (actualDeducted order.totalPrice wallet)).customerId = order.customerId := rfl
      rw [howed, href, hamount, hcustomer, actualDeducted_eq_min] at hposted
      simp only
      rw [if_pos trivial, actualDeducted_eq_min, hposted]
      by_cases hrecorded : Recorded journal (walletReapplyRef order.id)
      · rw [if_pos hrecorded, if_neg fun hboth => hboth.2 hrecorded]
        omega
      · rw [if_neg hrecorded]
        by_cases hpos : 0 < min order.totalPrice wallet.balance
        · rw [if_pos ⟨hpos, hrecorded⟩]
          omega
        · rw [if_neg fun hboth => hpos hboth.1]
          omega
  | CASH | KNET | ONLINE | PAYMENT_LINK =>
      simp only [reduceCtorEq, if_false, sub_zero, postAll_nil]

/-! ## What a move does -/

/-- By how much a committed move takes the wallet of its customer away from the
liability. -/
structure WalletMoved (customerId : Uuid) (unbooked : ℤ) (db db' : Db) : Prop where
  others : ∀ other, other ≠ customerId → db'.wallets other = db.wallets other
  journal : ∃ added, db'.journal = db.journal ++ added ∧ EntriesFor customerId added
  gap : walletGap customerId db' = walletGap customerId db + unbooked

theorem WalletMoved.gap_other {unbooked : ℤ} {other : Uuid}
    (hmoved : WalletMoved customerId unbooked db db') (hne : customerId ≠ other) :
    walletGap other db' = walletGap other db := by
  obtain ⟨added, hadded, hentries⟩ := hmoved.journal
  unfold walletGap walletLiability
  rw [hmoved.others other hne.symm, hadded, customerNet_append,
    customerNet_of_other _ hentries hne, add_zero]

theorem InvoiceVoided.walletMoved {args : InvoiceVoidArgs} {orderAr : ℤ}
    (hvoided : InvoiceVoided args order (db.wallets order.customerId) orderAr db db') :
    WalletMoved order.customerId
      (if order.walletSettledAt = none then 0 else unbookedReversal order db.journal) db db' := by
  obtain ⟨memo, failures, rfl⟩ := hvoided
  have hcancellation : (args.cancellation order orderAr).owed = 0 := rfl
  refine ⟨fun other hne => Function.update_of_ne hne _ _, ?_, ?_⟩
  · obtain ⟨added, hadded, hmem⟩ :=
      exists_postAll_eq_append db.journal (args.entries order orderAr)
    refine ⟨added, hadded, fun entry hentry => ?_⟩
    exact (reversalEntries_for order args.actorId).append
      (args.cancellation order orderAr).entriesFor entry (hmem entry hentry)
  · unfold walletGap InvoiceVoidArgs.entries
    simp only [Function.update_self, postAll_append]
    have hliability := walletLiability_postAll_other
      (postAll JournalEntry.sourceRef db.journal (reversalEntries order args.actorId))
      hcancellation
    have hcustomer : (args.cancellation order orderAr).customerId = order.customerId := rfl
    rw [hcustomer] at hliability
    rw [hliability]
    by_cases hunsettled : order.walletSettledAt = none
    · rw [if_pos hunsettled, add_zero, reversedWallet_balance, if_pos hunsettled]
      unfold reversalEntries
      rw [if_pos hunsettled, postAll_nil]
    · rw [if_neg hunsettled]
      exact walletGap_reversed order args.actorId _ db.journal hunsettled

theorem InvoiceEdited.walletMoved {args : InvoiceEditArgs}
    (hedited : InvoiceEdited args order (db.wallets order.customerId) db db')
    (htotal : 0 ≤ args.dto.newTotal order) :
    WalletMoved order.customerId
      (if order.walletSettledAt = none then 0
        else unbookedReversal order db.journal -
          args.unbookedReapply order (db.wallets order.customerId) db.journal) db db' := by
  obtain ⟨lines, failures, rfl⟩ := hedited
  refine ⟨fun other hne => Function.update_of_ne hne _ _, ?_, ?_⟩
  · obtain ⟨added, hadded, hmem⟩ := exists_postAll_eq_append db.journal
      (reversalEntries order args.actorId ++ reapplyEntries (args.editedOrder order) args.actorId
        (reversedWallet order (db.wallets order.customerId) (db.wallets order.customerId)))
    refine ⟨added, hadded, fun entry hentry => ?_⟩
    exact (reversalEntries_for order args.actorId).append
      (reapplyEntries_for (args.editedOrder order) args.actorId _) entry (hmem entry hentry)
  · unfold walletGap
    simp only [Function.update_self, postAll_append]
    by_cases hunsettled : order.walletSettledAt = none
    · have hstill : (args.editedOrder order).walletSettledAt = none := hunsettled
      have hreapplied : ∀ wallet, reappliedWallet (args.editedOrder order) wallet = wallet :=
        fun wallet => if_pos hstill
      have hnone : ∀ wallet, reapplyEntries (args.editedOrder order) args.actorId wallet = [] :=
        fun wallet => if_pos hstill
      rw [if_pos hunsettled, hreapplied, hnone, postAll_nil, reversedWallet_balance,
        if_pos hunsettled, add_zero]
      unfold reversalEntries
      rw [if_pos hunsettled, postAll_nil]
    · have hreversed := walletGap_reversed order args.actorId (db.wallets order.customerId)
        db.journal hunsettled
      have hreapplied := walletGap_reapplied args.actorId
        (reversedWallet order (db.wallets order.customerId) (db.wallets order.customerId))
        (postAll JournalEntry.sourceRef db.journal (reversalEntries order args.actorId))
        (show (args.editedOrder order).walletSettledAt ≠ none from hunsettled) htotal
      have hreference : Recorded (postAll JournalEntry.sourceRef db.journal
          (reversalEntries order args.actorId)) (walletReapplyRef order.id) ↔
          Recorded db.journal (walletReapplyRef order.id) :=
        recorded_reversal (by simp [walletReapplyRef, invoiceAuditVoidRef])
          (by simp [walletReapplyRef, walletAbsorptionVoidRef])
      have hbalance := reversedWallet_balance order (db.wallets order.customerId)
      rw [if_neg hunsettled] at hbalance
      rw [if_neg hunsettled]
      refine hreapplied.trans ?_
      change _ - (if args.dto.newMethod order = .SUBSCRIPTION_WALLET then
        if Recorded _ (walletReapplyRef order.id) then min (args.dto.newTotal order) _
        else _ else 0) = _
      unfold InvoiceEditArgs.unbookedReapply
      simp only [hreference, hbalance]
      change _ - walletLiability order.customerId _ - _ = _
      rw [hbalance] at hreversed
      omega

theorem WalletMoved.refl (customerId : Uuid) (db : Db) : WalletMoved customerId 0 db db :=
  ⟨fun _ _ => rfl, ⟨[], (append_nil _).symm, .nil _⟩, (add_zero _).symm⟩

theorem takesCredit_iff (call : SettlementCall) :
    call.order.TakesCredit call.wallet ↔ 0 < call.safeTake := by
  unfold OrderWalletSettlementPrefetch.TakesCredit SettlementCall.safeTake
  constructor
  · rintro ⟨hmethod, hbalance, htotal⟩
    rw [if_pos ⟨hmethod, hbalance⟩]
    exact lt_min hbalance htotal
  · intro htake
    by_cases huse : call.ShouldUseWallet ∧ 0 < call.wallet.balance
    · rw [if_pos huse] at htake
      exact ⟨huse.1, huse.2, lt_of_lt_of_le htake (min_le_right _ _)⟩
    · rw [if_neg huse] at htake
      exact absurd htake (lt_irrefl 0)

theorem absorption_sourceRef (env : Env) (orderId actorId : Uuid)
    (o : OrderWalletSettlementPrefetch) (extra : SettlementMetadata) (wallet : CustomerWallet) :
    (settlementCall env orderId o actorId extra wallet).absorption.sourceRef =
      absorptionRef env orderId := by
  unfold SettlementCall.absorption absorptionRef settlementCall
  split
  · rfl
  · rfl

theorem Settled.walletMoved {env : Env} {actorId : Uuid} {extra : SettlementMetadata}
    (hsettled : Settled env
      (settlementCall env orderId o actorId extra (db.wallets o.customerId)) db db')
    (htotal : 0 ≤ o.totalPrice) :
    ∃ unbooked, WalletMoved o.customerId unbooked db db' ∧
      (unbooked = 0 ↔ (o.TakesCredit (db.wallets o.customerId) →
        ¬ Recorded db.journal (absorptionRef env orderId))) := by
  let call := settlementCall env orderId o actorId extra (db.wallets o.customerId)
  have htake : 0 ≤ call.safeTake := SettlementCall.safeTake_nonneg htotal
  have hliability : customerNet .WALLET_LIABILITY o.customerId (call.newEntries db.journal) =
      if call.AbsorbsAnew db.journal then call.safeTake else 0 :=
    @SettlementCall.liability_newEntries call db.journal
  have htakes : o.TakesCredit (db.wallets o.customerId) ↔ 0 < call.safeTake :=
    takesCredit_iff call
  have hanew : call.AbsorbsAnew db.journal ↔
      0 < call.safeTake ∧ ¬ Recorded db.journal (absorptionRef env orderId) := by
    rw [← absorption_sourceRef env orderId actorId o extra (db.wallets o.customerId)]
    exact Iff.rfl
  refine ⟨(if call.AbsorbsAnew db.journal then call.safeTake else 0) - call.safeTake,
    ⟨?_, ?_, ?_⟩, ?_⟩
  · intro other hne
    rw [hsettled.wallets]
    exact Function.update_of_ne hne _ _
  · exact ⟨_, hsettled.journal_append,
      fun entry hentry => (SettlementCall.names_of_mem_newEntries hentry).2⟩
  · unfold walletGap walletLiability
    rw [hsettled.wallets, hsettled.journal_append, customerNet_append]
    change (Function.update db.wallets o.customerId _ o.customerId).balance -
      -(_ + customerNet _ _ (call.newEntries db.journal)) = _
    rw [Function.update_self, hliability]
    change (db.wallets o.customerId).balance - call.safeTake - _ = _
    omega
  · rw [htakes]
    by_cases habsorbs : call.AbsorbsAnew db.journal
    · rw [if_pos habsorbs]
      exact iff_of_true (sub_self _) fun _ => (hanew.1 habsorbs).2
    · rw [if_neg habsorbs]
      constructor
      · intro hnone hpos
        omega
      · intro hfree
        by_contra hsome
        have hpos : 0 < call.safeTake := by omega
        exact habsorbs (hanew.2 ⟨hpos, hfree hpos⟩)

theorem SettlementResult.walletMoved {env : Env} {performedByUserId : Uuid}
    {prefetch : Option OrderWalletSettlementPrefetch} {extra : SettlementMetadata}
    (horder : settlementOrder orderId prefetch db = some o)
    (hresult : SettlementResult env orderId performedByUserId o extra db db') :
    ∃ unbooked, WalletMoved o.customerId unbooked db db' ∧
      (unbooked = 0 ↔ (WalletMove.settle env orderId performedByUserId prefetch
        extra).BooksTheCredit o.customerId db) := by
  cases hresult with
  | skipped hsettled hsame =>
      obtain ⟨branchId, rfl⟩ := hsame
      have hsame : WalletMoved o.customerId 0 db (originBranched o.customerId branchId db) := by
        cases branchId with
        | none => exact .refl _ db
        | some branch => exact ⟨fun _ _ => rfl, ⟨[], (append_nil _).symm, .nil _⟩,
            (add_zero _).symm⟩
      refine ⟨0, hsame, iff_of_true rfl ?_⟩
      intro other hother _ hprefetch hfresh
      obtain rfl := Option.some.inj (horder.symm.trans hother)
      rcases hsettled with hsettled | hsettled
      · exact absurd hprefetch hsettled
      · exact absurd hfresh hsettled
  | settled actor hprefetch hfresh hactor hrole htotal hsettled =>
      obtain ⟨unbooked, hmoved, hunbooked⟩ := hsettled.walletMoved htotal
      refine ⟨unbooked, hmoved, hunbooked.trans ?_⟩
      constructor
      · intro hbooks other hother _ _ _
        obtain rfl := Option.some.inj (horder.symm.trans hother)
        exact hbooks
      · intro hbooks
        exact hbooks o horder rfl hprefetch hfresh

theorem ifSettled_eq_zero_iff {unbooked : ℤ} (booked : Order → Prop)
    (hrow : db.orders.find? orderId = some order) (hbooked : unbooked = 0 ↔ booked order) :
    (if order.walletSettledAt = none then 0 else unbooked) = 0 ↔
      ∀ other, db.orders.find? orderId = some other → other.customerId = order.customerId →
        other.walletSettledAt ≠ none → booked other := by
  constructor
  · intro hnone other hother _ hsettled
    obtain rfl := Option.some.inj (hrow.symm.trans hother)
    rw [if_neg hsettled] at hnone
    exact hbooked.1 hnone
  · intro hbooks
    by_cases hunsettled : order.walletSettledAt = none
    · rw [if_pos hunsettled]
    · rw [if_neg hunsettled]
      exact hbooked.2 (hbooks order hrow rfl hunsettled)

theorem WalletMove.Committed.moved (hcommitted : move.Committed db) :
    ∃ customerId unbooked, move.customer db = some customerId ∧
      WalletMoved customerId unbooked db (walletMoves.step move db) ∧
      (unbooked = 0 ↔ move.BooksTheCredit customerId db) := by
  obtain ⟨henv, db', hcommits⟩ := hcommitted
  have hstep : walletMoves.step move db = db' := congrArg Prod.snd hcommits
  rw [hstep]
  cases move with
  | settle env orderId performedByUserId prefetch extra =>
      obtain ⟨o, horder, hresult⟩ :=
        commits_applyOrderWalletSettlement henv (commits_atomically.1 hcommits)
      have hcustomer : (settlementOrder orderId prefetch db).map
          OrderWalletSettlementPrefetch.customerId = some o.customerId := by
        rw [horder]
        rfl
      obtain ⟨unbooked, hmoved, hbooks⟩ := hresult.walletMoved horder
      exact ⟨o.customerId, unbooked, hcustomer, hmoved, hbooks⟩
  | edit env args =>
      simp only [WalletMove.run, commits_bind, commits_pure] at hcommits
      obtain ⟨result, _, hedit, _, rfl⟩ := hcommits
      obtain ⟨order, hrow, _, htotal, heditedTo⟩ := commits_editInvoice henv hedit
      have hedited := heditedTo.edited
      refine ⟨order.customerId, _, congrArg (Option.map Order.customerId) hrow,
        hedited.walletMoved htotal, ?_⟩
      exact ifSettled_eq_zero_iff (fun other => unbookedReversal other db.journal =
        args.unbookedReapply other (db.wallets order.customerId) db.journal) hrow sub_eq_zero
  | void env args =>
      simp only [WalletMove.run, commits_bind, commits_pure] at hcommits
      obtain ⟨result, _, hvoid, _, rfl⟩ := hcommits
      obtain ⟨order, hrow, _, hvoided⟩ := commits_voidInvoice henv hvoid
      refine ⟨order.customerId, _, congrArg (Option.map Order.customerId) hrow,
        hvoided.walletMoved, ?_⟩
      exact ifSettled_eq_zero_iff (fun other => unbookedReversal other db.journal = 0) hrow Iff.rfl

theorem WalletMove.booksTheCredit_of_other {other : Uuid}
    (hcustomer : move.customer db = some other) (hne : other ≠ customerId) :
    move.BooksTheCredit customerId db := by
  cases move with
  | settle env orderId performedByUserId prefetch extra =>
      intro o horder howner
      have hsame : some o.customerId = some other :=
        (congrArg (Option.map OrderWalletSettlementPrefetch.customerId) horder).symm.trans hcustomer
      exact absurd ((Option.some.inj hsame).symm.trans howner) hne
  | edit env args =>
      intro order hrow howner
      have hsame : some order.customerId = some other :=
        (congrArg (Option.map Order.customerId) hrow).symm.trans hcustomer
      exact absurd ((Option.some.inj hsame).symm.trans howner) hne
  | void env args =>
      intro order hrow howner
      have hsame : some order.customerId = some other :=
        (congrArg (Option.map Order.customerId) hrow).symm.trans hcustomer
      exact absurd ((Option.some.inj hsame).symm.trans howner) hne

theorem WalletMove.Committed.gap_iff (customerId : Uuid) (hcommitted : move.Committed db) :
    walletGap customerId (walletMoves.step move db) = walletGap customerId db ↔
      move.BooksTheCredit customerId db := by
  obtain ⟨other, unbooked, hcustomer, hmoved, hbooks⟩ := hcommitted.moved
  by_cases hsame : other = customerId
  · subst hsame
    rw [← hbooks, hmoved.gap]
    omega
  · exact iff_of_true (hmoved.gap_other hsame) (booksTheCredit_of_other hcustomer hsame)

/-! ## Runs -/

theorem journalLiability_eq_sum {holders : Finset Uuid} {entries : List JournalEntry}
    (hentries : ∀ entry ∈ entries, ∃ id ∈ holders, entry.customerId = some id) :
    journalLiability entries = ∑ id ∈ holders, walletLiability id entries := by
  unfold journalLiability walletLiability customerNet
  rw [Finset.sum_neg_distrib]
  apply congrArg
  induction entries with
  | nil => exact (Finset.sum_const_zero).symm
  | cons entry entries ih =>
      obtain ⟨id, hid, hentry⟩ := hentries entry (mem_cons_self ..)
      have hone : ∑ other ∈ holders, (if entry.customerId = some other then
          net JournalAccount.WALLET_LIABILITY entry.lines else 0) =
          net JournalAccount.WALLET_LIABILITY entry.lines := by
        rw [hentry]
        simp only [Option.some.injEq, Finset.sum_ite_eq, hid, if_true]
      simp only [tally_cons, Finset.sum_add_distrib]
      rw [hone, ih fun other hother => hentries other (mem_cons_of_mem _ hother)]

theorem journalLiability_append (first second : List JournalEntry) :
    journalLiability (first ++ second) = journalLiability first + journalLiability second := by
  unfold journalLiability
  rw [tally_append, neg_add]

theorem checkDelta_of_inStep {holders : Finset Uuid} {start : Db} {added : List JournalEntry}
    (hjournal : db.journal = start.journal ++ added)
    (hadded : ∀ entry ∈ added, ∃ id ∈ holders, entry.customerId = some id)
    (hstep : ∀ id ∈ holders, WalletInStep id start db) :
    (checkWalletLiabilityMatch holders db).deltaKd =
      (checkWalletLiabilityMatch holders start).deltaKd := by
  have hmoved : ∑ id ∈ holders, ((db.wallets id).balance - (start.wallets id).balance) =
      journalLiability added := by
    rw [journalLiability_eq_sum hadded]
    apply Finset.sum_congr rfl
    intro id hid
    rw [hstep id hid, hjournal]
    unfold walletLiability
    rw [customerNet_append]
    omega
  rw [Finset.sum_sub_distrib] at hmoved
  change journalLiability db.journal - _ = journalLiability start.journal - _
  rw [hjournal, journalLiability_append]
  omega

/-- In every sequence of committed settlements, edits and voids the balance of a customer
moves by what the liability moves exactly if every one of them books the credit; and where
it does for all holders of wallets, the reconciliation check reports what it did at the
start. -/
theorem wallets_inStep_iff {start : Db} {moves : List WalletMove} {trace : List Db}
    (hlog : walletMoves.Log WalletMove.Committed start moves trace) :
    (∀ customerId, (∀ db ∈ trace, WalletInStep customerId start db) ↔
        ∀ found ∈ Calls.occurrences moves trace, found.1.BooksTheCredit customerId found.2) ∧
      ∀ holders : Finset Uuid, (∀ found ∈ Calls.occurrences moves trace, ∀ customerId,
          found.1.customer found.2 = some customerId → customerId ∈ holders) →
        (∀ db ∈ trace, ∀ customerId ∈ holders, WalletInStep customerId start db) →
        ∀ db ∈ trace, (checkWalletLiabilityMatch holders db).deltaKd =
          (checkWalletLiabilityMatch holders start).deltaKd := by
  constructor
  · intro customerId
    simp only [walletInStep_iff]
    apply hlog.invariant_iff (I := fun db => walletGap customerId db = walletGap customerId start)
      rfl
    intro move db hgap hcommitted
    rw [← hcommitted.gap_iff customerId, hgap]
  · intro holders hholders hstep db hdb
    have hgrown : ∀ after ∈ trace, ∃ added, after.journal = start.journal ++ added ∧
        ∀ entry ∈ added, ∃ id ∈ holders, entry.customerId = some id := by
      apply hlog.invariant (I := fun after => ∃ added, after.journal = start.journal ++ added ∧
        ∀ entry ∈ added, ∃ id ∈ holders, entry.customerId = some id)
        (Q := fun move found => ∀ customerId, move.customer found = some customerId →
          customerId ∈ holders)
      · exact ⟨[], (append_nil _).symm, fun entry hentry => absurd hentry not_mem_nil⟩
      · rintro move found ⟨added, hjournal, hadded⟩ hcommitted hcustomers
        obtain ⟨customerId, unbooked, hcustomer, hmoved, _⟩ := hcommitted.moved
        obtain ⟨further, hfurther, hfor⟩ := hmoved.journal
        refine ⟨added ++ further, by rw [hfurther, hjournal, append_assoc], ?_⟩
        intro entry hentry
        rcases mem_append.1 hentry with hmem | hmem
        · exact hadded entry hmem
        · exact ⟨customerId, hcustomers customerId hcustomer, hfor entry hmem⟩
      · exact hholders
    obtain ⟨added, hjournal, hadded⟩ := hgrown db hdb
    exact checkDelta_of_inStep hjournal hadded (hstep db hdb)

namespace Sample

def settleFromWallet : WalletMove :=
  .settle Env.default "order" "owner" none .none

def editTotal (total : ℤ) : WalletMove :=
  .edit Env.default (ownersEdit total).args

def settledCredit : Db :=
  walletMoves.step settleFromWallet (walletShop ⟨50000, 0⟩)

def editedCredit : Db :=
  walletMoves.step (editTotal 30000) settledCredit

theorem settledCredit_log :
    walletMoves.Log WalletMove.Committed (walletShop ⟨50000, 0⟩) [settleFromWallet]
      [settledCredit, walletShop ⟨50000, 0⟩] := by
  apply Calls.Log.call settleFromWallet .start
  · rintro _ ⟨⟩
  · exact ⟨fun _ => rfl, settledCredit,
      commits_of_isOk (x := settleFromWallet.run) (by decide +kernel)⟩

theorem editTotal_commits (total : ℤ) (db : Db)
    (hok : ((editTotal total).run.outcome db).1.isOk = true) :
    (editTotal total).Committed db :=
  ⟨fun _ => rfl, _, commits_of_isOk (x := (editTotal total).run) hok⟩

end Sample

theorem wallets_inStep_iff_sample :
    WalletInStep "customer" (Sample.walletShop ⟨50000, 0⟩) Sample.settledCredit := by
  refine ((wallets_inStep_iff Sample.settledCredit_log).1 "customer").2 ?_ _ (mem_cons_self ..)
  intro found hfound
  obtain rfl := mem_singleton.1 hfound
  intro _ _ _ _ _ _
  decide +kernel

theorem wallets_inStep_fails :
    ¬ ∀ (customerId : Uuid) (start : Db) (moves : List WalletMove) (trace : List Db),
      walletMoves.Log WalletMove.Committed start moves trace →
      ∀ db ∈ trace, WalletInStep customerId start db := by
  intro hall
  have hlog : walletMoves.Log WalletMove.Committed (Sample.walletShop ⟨50000, 0⟩)
      [Sample.editTotal 10000, Sample.editTotal 30000, Sample.settleFromWallet]
      [walletMoves.step (Sample.editTotal 10000) Sample.editedCredit, Sample.editedCredit,
        Sample.settledCredit, Sample.walletShop ⟨50000, 0⟩] := by
    apply Calls.Log.call (Sample.editTotal 10000)
    · apply Calls.Log.call (Sample.editTotal 30000) Sample.settledCredit_log
      · rintro _ ⟨⟩
      · exact Sample.editTotal_commits 30000 _ (by decide +kernel)
    · rintro _ ⟨⟩
    · exact Sample.editTotal_commits 10000 _ (by decide +kernel)
  have hstep := hall "customer" _ _ _ hlog _ (mem_cons_self ..)
  unfold WalletInStep at hstep
  revert hstep
  decide +kernel

end SafariLaundry
