import SafariLaundry.CanonicalDebt

/-!
# The debt that is shown

One customer's debt comes from the projection row overlaid with the journal, from a rebuilt row,
or from the canonical helper; a batch decides the same for each of its customers.  Reads and
writes of the store may fail.  Amounts are minor units; `toFixed(4)` prints all of them.
-/

namespace SafariLaundry

open Library Library.Transaction List

/-! ## The projection -/

/-- What the projection keeps of a customer, as far as it is shown. -/
structure FinancialSnapshotRow where
  customerId : Uuid
  (journalArBalanceKd remainingDebtKd paidTotalKd totalInvoicesKd : ℤ)
  (unpaidInvoicesCount partiallyPaidInvoicesCount activeInvoicesCount overdueInvoicesCount : ℕ)
  (walletBalanceKd walletLiabilityKd : ℤ)
  (lastPaymentAt lastInvoiceAt : Option Timestamp)
  /-- A text column. -/
  canonicalSource : String
  refreshedAt : Timestamp

structure CustomerVisibleDebt where
  customerId : Uuid
  (remainingDebtKd paidTotalKd totalInvoicesKd journalArBalanceKd walletLiabilityKd : ℤ)
  walletBalanceKd : ℤ
  (unpaidInvoicesCount partiallyPaidInvoicesCount activeInvoicesCount overdueInvoicesCount : ℕ)
  hasDebt : Bool
  (lastPaymentAt lastInvoiceAt : Option Timestamp)
  canonicalSource : String
  fromSnapshot : Bool
  snapshotRefreshedAt : Option Timestamp

def uiDebtConsistencyTolerance : ℤ := 10

def CanonicalDebtSource.name : CanonicalDebtSource → String
  | .JOURNAL_AR => "JOURNAL_AR"
  | .PARTIAL_PAYMENT_REMAINING => "PARTIAL_PAYMENT_REMAINING"
  | .JOURNAL_AR_FALLBACK => "JOURNAL_AR_FALLBACK"

inductive VisibilityRead
  | snapshots | orders | wallets | journal

/-- The contents that the projection is made from, and what fails. -/
structure VisibilityStore where
  env : Env
  orders : DebtReadOrders
  db : Db
  journal : List JournalEntryRow
  dueDate : Uuid → Option Timestamp
  readFault : VisibilityRead → Option ServiceError
  upsertFault : FinancialSnapshotRow → Option ServiceError

abbrev SnapshotTable := Table FinancialSnapshotRow.customerId

abbrev SnapshotTx := Transaction ServiceError SnapshotTable

structure InvoiceAggregates where
  (paidTotalKd totalInvoicesKd : ℤ)
  (unpaidInvoicesCount partiallyPaidInvoicesCount activeInvoicesCount overdueInvoicesCount : ℕ)
  lastInvoiceAt : Option Timestamp

namespace VisibilityStore

variable (store : VisibilityStore)

def read {α : Type} (kind : VisibilityRead) (value : α) : SnapshotTx α :=
  match store.readFault kind with
  | none => pure value
  | some err => throw err

def readSnapshots {α : Type} (f : SnapshotTable → α) : SnapshotTx α := do
  let value ← reads f
  store.read .snapshots value

def getCustomerDebtFromJournalAR : JournalReader := fun customerId =>
  match store.readFault .journal with
  | none => .ok (SafariLaundry.getCustomerDebtFromJournalAR store.orders.reader customerId
      store.journal)
  | some err => .error err

def canonicalDebt (customerId : Uuid) : SnapshotTx CanonicalDebtSnapshot :=
  store.read .orders (computeCanonicalCustomerDebt store.env store.orders.single store.db
    (some store.getCustomerDebtFromJournalAR) customerId)

def addInvoice (remainingByOrder : Uuid → Option ℤ) (aggregates : InvoiceAggregates)
    (order : Order) : InvoiceAggregates :=
  let remaining := (remainingByOrder order.id).getD order.totalPrice
  let paid := order.totalPrice - remaining
  { paidTotalKd := aggregates.paidTotalKd + paid
    totalInvoicesKd := aggregates.totalInvoicesKd + order.totalPrice
    unpaidInvoicesCount := aggregates.unpaidInvoicesCount +
      if invoiceRemainingTolerance < remaining ∧ ¬ invoiceRemainingTolerance < paid then 1 else 0
    partiallyPaidInvoicesCount := aggregates.partiallyPaidInvoicesCount +
      if invoiceRemainingTolerance < remaining ∧ invoiceRemainingTolerance < paid then 1 else 0
    activeInvoicesCount := aggregates.activeInvoicesCount +
      if invoiceRemainingTolerance < remaining then 1 else 0
    overdueInvoicesCount := aggregates.overdueInvoicesCount +
      if invoiceRemainingTolerance < remaining ∧
        ∃ due ∈ store.dueDate order.id, due < store.env.now then 1 else 0
    lastInvoiceAt := some (max (aggregates.lastInvoiceAt.getD order.createdAt) order.createdAt) }

def computeInvoiceAggregates (customerId : Uuid) : InvoiceAggregates :=
  let rows := store.db.orders.rows.filter fun order =>
    order.customerId = customerId ∧ order.status ≠ .CANCELED ∧ order.cashStatus = .UNPAID
  rows.foldl (store.addInvoice
    (computeOrderRemainingBalancesBatch store.env store.db (rows.map Order.id)))
    ⟨0, 0, 0, 0, 0, 0, none⟩

def findLastRealPaymentAt (customerId : Uuid) : Option Timestamp :=
  ((store.journal.filter fun row => row.entry.customerId = some customerId ∧
    row.entry.source = "PAYMENT" ∧ row.entry.orderId ≠ none ∧
    ¬ row.entry.sourceRef.StartsWith ["PAYMENT", "WALLET"]).map JournalEntryRow.createdAt).max?

def computeWalletLiability (customerId : Uuid) : ℤ :=
  match store.readFault .journal with
  | none => (getCustomerArSnapshot store.orders.reader customerId store.journal).walletLiabilityKd
  | some _ => 0

def snapshotRow (customerId : Uuid) (canonical : CanonicalDebtSnapshot) (walletBalance : ℤ)
    (aggregates : InvoiceAggregates) (lastPaymentAt : Option Timestamp) : FinancialSnapshotRow where
  customerId := customerId
  journalArBalanceKd := match store.getCustomerDebtFromJournalAR customerId with
    | .ok balance => balance
    | .error _ => 0
  remainingDebtKd := canonical.canonicalDebtKd
  paidTotalKd := aggregates.paidTotalKd
  totalInvoicesKd := aggregates.totalInvoicesKd
  unpaidInvoicesCount := aggregates.unpaidInvoicesCount
  partiallyPaidInvoicesCount := aggregates.partiallyPaidInvoicesCount
  activeInvoicesCount := aggregates.activeInvoicesCount
  overdueInvoicesCount := aggregates.overdueInvoicesCount
  walletBalanceKd := walletBalance
  walletLiabilityKd := store.computeWalletLiability customerId
  lastPaymentAt := lastPaymentAt
  lastInvoiceAt := aggregates.lastInvoiceAt
  canonicalSource := canonical.source.name
  refreshedAt := store.env.now

def computeSnapshotInput (customerId : Uuid) : SnapshotTx FinancialSnapshotRow := do
  let canonical ← store.canonicalDebt customerId
  let balance ← store.read .wallets (store.db.wallets customerId).balance
  let aggregates ← store.read .orders (store.computeInvoiceAggregates customerId)
  let lastPaymentAt ← store.read .journal (store.findLastRealPaymentAt customerId)
  pure (store.snapshotRow customerId canonical balance aggregates lastPaymentAt)

def upsert (row : FinancialSnapshotRow) : SnapshotTx FinancialSnapshotRow :=
  match store.upsertFault row with
  | some err => throw err
  | none => do
      modify fun snapshots => snapshots.upsert row
      pure row

/-- It logs what it caught and throws it again. -/
def refreshOne (customerId : Uuid) : SnapshotTx FinancialSnapshotRow := do
  let input ← store.computeSnapshotInput customerId
  store.upsert input

def getOrBuildForCustomer (customerId : Uuid) : SnapshotTx FinancialSnapshotRow := do
  let existing ← store.readSnapshots fun snapshots => snapshots.find? customerId
  match existing with
  | some row => pure row
  | none => store.refreshOne customerId

def mapSnapshotToVisibleDebt (snapshot : FinancialSnapshotRow) : CustomerVisibleDebt :=
  let remaining := if snapshot.canonicalSource = "JOURNAL_AR" then snapshot.journalArBalanceKd
    else snapshot.remainingDebtKd
  { customerId := snapshot.customerId
    remainingDebtKd := remaining
    paidTotalKd := snapshot.paidTotalKd
    totalInvoicesKd := snapshot.totalInvoicesKd
    journalArBalanceKd := snapshot.journalArBalanceKd
    walletLiabilityKd := snapshot.walletLiabilityKd
    walletBalanceKd := snapshot.walletBalanceKd
    unpaidInvoicesCount := snapshot.unpaidInvoicesCount
    partiallyPaidInvoicesCount := snapshot.partiallyPaidInvoicesCount
    activeInvoicesCount := snapshot.activeInvoicesCount
    overdueInvoicesCount := snapshot.overdueInvoicesCount
    hasDebt := decide (uiDebtConsistencyTolerance < remaining)
    lastPaymentAt := snapshot.lastPaymentAt
    lastInvoiceAt := snapshot.lastInvoiceAt
    canonicalSource := snapshot.canonicalSource
    fromSnapshot := true
    snapshotRefreshedAt := some snapshot.refreshedAt }

def overlaid (debt : CustomerVisibleDebt) (journalAr : ℤ) : CustomerVisibleDebt :=
  { debt with
    remainingDebtKd := journalAr
    journalArBalanceKd := journalAr
    hasDebt := decide (uiDebtConsistencyTolerance < journalAr)
    canonicalSource := "JOURNAL_AR" }

def overlayLiveJournalDebt (debt : CustomerVisibleDebt) : CustomerVisibleDebt :=
  match store.getCustomerDebtFromJournalAR debt.customerId with
  | .ok journalAr => overlaid debt journalAr
  | .error _ => { debt with canonicalSource := "SNAPSHOT_FALLBACK" }

def overlayLiveJournalDebtBatch (debts : List CustomerVisibleDebt) : List CustomerVisibleDebt :=
  match store.readFault .journal with
  | none =>
      let balances := getCustomerDebtFromJournalARBatch store.orders.balances
        (debts.map CustomerVisibleDebt.customerId) store.journal
      debts.map fun debt => overlaid debt ((balances debt.customerId).getD 0)
  | some _ => debts.map fun debt => { debt with canonicalSource := "SNAPSHOT_FALLBACK" }

def computeVisibleDebtLive (customerId : Uuid) : SnapshotTx CustomerVisibleDebt := do
  let canonical ← store.canonicalDebt customerId
  pure {
    customerId := customerId
    remainingDebtKd := canonical.canonicalDebtKd
    paidTotalKd := 0
    totalInvoicesKd := 0
    journalArBalanceKd := canonical.journalArKd.getD 0
    walletLiabilityKd := 0
    walletBalanceKd := 0
    unpaidInvoicesCount := 0
    partiallyPaidInvoicesCount := 0
    activeInvoicesCount := 0
    overdueInvoicesCount := 0
    hasDebt := decide (uiDebtConsistencyTolerance < canonical.canonicalDebtKd)
    lastPaymentAt := none
    lastInvoiceAt := none
    canonicalSource := canonical.source.name
    fromSnapshot := false
    snapshotRefreshedAt := none }

def rebuildJournalSnapshotOrLive (customerId : Uuid) : SnapshotTx CustomerVisibleDebt := do
  let refreshed ← store.refreshOne customerId
  if refreshed.canonicalSource = "JOURNAL_AR" then
    pure (store.overlayLiveJournalDebt (mapSnapshotToVisibleDebt refreshed))
  else store.computeVisibleDebtLive customerId

/-- The rebuild is returned from the `try` block without being awaited: what it throws is not
caught there. -/
def getCustomerVisibleDebt (customerId : Uuid) : SnapshotTx CustomerVisibleDebt := do
  let snapshot ← tryCatch (do
    let row ← store.getOrBuildForCustomer customerId
    pure (some row)) fun _ => pure none
  match snapshot with
  | none => store.computeVisibleDebtLive customerId
  | some row =>
      if row.canonicalSource ≠ "JOURNAL_AR" then store.rebuildJournalSnapshotOrLive customerId
      else pure (store.overlayLiveJournalDebt (mapSnapshotToVisibleDebt row))

def rebuildOrNothing (customerId : Uuid) : SnapshotTx (Option CustomerVisibleDebt) :=
  tryCatch (do
    let debt ← store.rebuildJournalSnapshotOrLive customerId
    pure (some debt)) fun _ => tryCatch (do
      let debt ← store.computeVisibleDebtLive customerId
      pure (some debt)) fun _ => pure none

def rebuildMissing : List Uuid → SnapshotTx (List (Uuid × Option CustomerVisibleDebt))
  | [] => pure []
  | id :: rest => do
      let row ← store.rebuildOrNothing id
      let later ← rebuildMissing rest
      pure ((id, row) :: later)

abbrev DebtMap := Uuid → Option CustomerVisibleDebt

def setRow (out : DebtMap) : Uuid × Option CustomerVisibleDebt → DebtMap
  | (_, none) => out
  | (id, some debt) => Function.update out id (some debt)

def setRows (out : DebtMap) (rows : List (Uuid × Option CustomerVisibleDebt)) : DebtMap :=
  rows.foldl setRow out

def snapshotHits (customerIds : List Uuid) (snapshots : SnapshotTable) :
    List CustomerVisibleDebt :=
  customerIds.filterMap fun id => (snapshots.find? id).bind fun row =>
    if row.canonicalSource = "JOURNAL_AR" then some (mapSnapshotToVisibleDebt row) else none

def missingIds (customerIds : List Uuid) (snapshots : SnapshotTable) : List Uuid :=
  customerIds.filter fun id =>
    ¬ ∃ row ∈ snapshots.find? id, row.canonicalSource = "JOURNAL_AR"

def getCustomerVisibleDebtBatch (customerIds : List Uuid) : SnapshotTx DebtMap :=
  if customerIds = [] then pure fun _ => none
  else do
    let snapshots ← store.readSnapshots id
    let debts := store.overlayLiveJournalDebtBatch (snapshotHits customerIds snapshots)
    let live ← store.rebuildMissing (missingIds customerIds snapshots)
    pure (setRows (setRows (fun _ => none) (debts.map fun debt => (debt.customerId, some debt)))
      live)

end VisibilityStore

/-! ## With no read failing -/

def VisibilityStore.journalDebt (store : VisibilityStore) (customerId : Uuid) : ℤ :=
  SafariLaundry.getCustomerDebtFromJournalAR store.orders.reader customerId store.journal

def CustomerVisibleDebt.Shows (debt : CustomerVisibleDebt) (amount : ℤ) : Prop :=
  debt.remainingDebtKd = amount ∧ debt.hasDebt = decide (uiDebtConsistencyTolerance < amount)

namespace VisibilityStore

def projectedRow (store : VisibilityStore) (customerId : Uuid) : FinancialSnapshotRow :=
  store.snapshotRow customerId
    (computeCanonicalCustomerDebt store.env store.orders.single store.db
      (some store.getCustomerDebtFromJournalAR) customerId)
    (store.db.wallets customerId).balance (store.computeInvoiceAggregates customerId)
    (store.findLastRealPaymentAt customerId)

def Readable (store : VisibilityStore) : Prop := ∀ kind, store.readFault kind = none

section Readable

variable {store : VisibilityStore} {customerId : Uuid} {snapshots after : SnapshotTable}

theorem journalDebt_eq (store : VisibilityStore) (customerId : Uuid) :
    store.journalDebt customerId =
      max 0 (receivable customerId (store.journal.map JournalEntryRow.entry)) := by
  unfold journalDebt SafariLaundry.getCustomerDebtFromJournalAR getCustomerOutstandingFromJournal
  rw [getCustomerArSnapshot_ar, max_zero_eq_ite]

theorem overlaid_shows (debt : CustomerVisibleDebt) (amount : ℤ) : (overlaid debt amount).Shows amount :=
  ⟨rfl, rfl⟩

variable (hreads : store.Readable)

include hreads

theorem read_eq {α : Type} (kind : VisibilityRead) (value : α) : store.read kind value = pure value := by
  unfold read
  rw [hreads kind]

theorem reader_eq (customerId : Uuid) :
    store.getCustomerDebtFromJournalAR customerId = .ok (store.journalDebt customerId) := by
  unfold getCustomerDebtFromJournalAR
  rw [hreads .journal]
  rfl

theorem canonical_source (customerId : Uuid) :
    (computeCanonicalCustomerDebt store.env store.orders.single store.db
      (some store.getCustomerDebtFromJournalAR) customerId).source = .JOURNAL_AR := by
  unfold computeCanonicalCustomerDebt
  simp only [reader_eq hreads]

theorem canonical_amount (customerId : Uuid) :
    (computeCanonicalCustomerDebt store.env store.orders.single store.db
      (some store.getCustomerDebtFromJournalAR) customerId).canonicalDebtKd =
      store.journalDebt customerId := by
  unfold computeCanonicalCustomerDebt
  simp only [reader_eq hreads, Option.getD_some]
  rw [journalDebt_eq]
  omega

variable {row : FinancialSnapshotRow} {err : ServiceError}

theorem commits_computeSnapshotInput :
    (store.computeSnapshotInput customerId).Commits snapshots row after ↔
      row = store.projectedRow customerId ∧ after = snapshots := by
  unfold computeSnapshotInput canonicalDebt
  simp only [read_eq hreads, commits_bind, commits_pure]
  constructor
  · rintro ⟨_, _, ⟨rfl, rfl⟩, _, _, ⟨rfl, rfl⟩, _, _, ⟨rfl, rfl⟩, _, _, ⟨rfl, rfl⟩, rfl, rfl⟩
    exact ⟨rfl, rfl⟩
  · rintro ⟨rfl, rfl⟩
    exact ⟨_, _, ⟨rfl, rfl⟩, _, _, ⟨rfl, rfl⟩, _, _, ⟨rfl, rfl⟩, _, _, ⟨rfl, rfl⟩, rfl, rfl⟩

theorem returns_computeSnapshotInput : ReturnsAt snapshots (store.computeSnapshotInput customerId) := by
  unfold computeSnapshotInput canonicalDebt
  simp only [read_eq hreads]
  refine ReturnsAt.bind (returnsAt_pure _) fun _ _ _ => ?_
  refine ReturnsAt.bind (returnsAt_pure _) fun _ _ _ => ?_
  refine ReturnsAt.bind (returnsAt_pure _) fun _ _ _ => ?_
  exact ReturnsAt.bind (returnsAt_pure _) fun _ _ _ => returnsAt_pure _

theorem commits_refreshOne :
    (store.refreshOne customerId).Commits snapshots row after ↔
      store.upsertFault (store.projectedRow customerId) = none ∧
        row = store.projectedRow customerId ∧ after = snapshots.upsert row := by
  unfold refreshOne
  simp only [commits_bind, commits_computeSnapshotInput hreads]
  constructor
  · rintro ⟨_, _, ⟨rfl, rfl⟩, hupsert⟩
    unfold upsert at hupsert
    cases hfault : store.upsertFault (store.projectedRow customerId) with
    | some err =>
        rw [hfault] at hupsert
        exact absurd hupsert commits_throw.1
    | none =>
        rw [hfault] at hupsert
        simp only [commits_bind, commits_modify, commits_pure] at hupsert
        obtain ⟨_, _, rfl, rfl, rfl⟩ := hupsert
        exact ⟨rfl, rfl, rfl⟩
  · rintro ⟨hfault, rfl, rfl⟩
    refine ⟨_, _, ⟨rfl, rfl⟩, ?_⟩
    unfold upsert
    rw [hfault]
    exact commits_bind.2 ⟨PUnit.unit, _, commits_modify.2 rfl, commits_pure.2 ⟨rfl, rfl⟩⟩

theorem throws_refreshOne :
    (store.refreshOne customerId).Throws snapshots err after ↔
      store.upsertFault (store.projectedRow customerId) = some err ∧ after = snapshots := by
  unfold refreshOne
  simp only [throws_bind, commits_computeSnapshotInput hreads]
  have hinput := @returns_computeSnapshotInput store customerId snapshots hreads err after
  constructor
  · rintro (hthrows | ⟨_, _, ⟨rfl, rfl⟩, hupsert⟩)
    · exact absurd hthrows hinput
    · unfold upsert at hupsert
      cases hfault : store.upsertFault (store.projectedRow customerId) with
      | some err' =>
          rw [hfault] at hupsert
          obtain ⟨rfl, rfl⟩ := throws_throw.1 hupsert
          exact ⟨rfl, rfl⟩
      | none =>
          rw [hfault] at hupsert
          rcases throws_bind.1 hupsert with hmodify | ⟨_, _, _, hpure⟩
          · exact absurd hmodify throws_modify
          · exact absurd hpure throws_pure
  · rintro ⟨hfault, rfl⟩
    refine .inr ⟨_, _, ⟨rfl, rfl⟩, ?_⟩
    unfold upsert
    rw [hfault]
    exact throws_throw.2 ⟨rfl, rfl⟩

theorem projectedRow_source : (store.projectedRow customerId).canonicalSource = "JOURNAL_AR" := by
  change (computeCanonicalCustomerDebt store.env store.orders.single store.db
    (some store.getCustomerDebtFromJournalAR) customerId).source.name = _
  rw [canonical_source hreads]
  rfl

theorem overlayLiveJournalDebt_shows (debt : CustomerVisibleDebt) :
    (store.overlayLiveJournalDebt debt).Shows (store.journalDebt debt.customerId) := by
  unfold overlayLiveJournalDebt
  rw [reader_eq hreads]
  exact overlaid_shows _ _

theorem commits_computeVisibleDebtLive :
    ∃ debt, (store.computeVisibleDebtLive customerId).Commits snapshots debt snapshots ∧
      debt.Shows (store.journalDebt customerId) := by
  unfold computeVisibleDebtLive canonicalDebt
  simp only [read_eq hreads, commits_bind, commits_pure]
  refine ⟨_, ⟨_, _, ⟨rfl, rfl⟩, rfl, rfl⟩, ?_⟩
  exact ⟨canonical_amount hreads customerId, by rw [canonical_amount hreads customerId]⟩

theorem commits_rebuild (hwrites : store.upsertFault (store.projectedRow customerId) = none) :
    ∃ debt after, (store.rebuildJournalSnapshotOrLive customerId).Commits snapshots debt after ∧
      debt.Shows (store.journalDebt customerId) := by
  refine ⟨store.overlayLiveJournalDebt (mapSnapshotToVisibleDebt (store.projectedRow customerId)),
    snapshots.upsert (store.projectedRow customerId), commits_bind.2 ⟨_, _,
      (commits_refreshOne hreads).2 ⟨hwrites, rfl, rfl⟩, ?_⟩, overlayLiveJournalDebt_shows hreads _⟩
  rw [if_pos (projectedRow_source hreads)]
  exact commits_pure.2 ⟨rfl, rfl⟩

theorem throws_rebuild (hfails : store.upsertFault (store.projectedRow customerId) = some err) :
    (store.rebuildJournalSnapshotOrLive customerId).Throws snapshots err snapshots := by
  unfold rebuildJournalSnapshotOrLive
  exact throws_bind.2 (.inl ((throws_refreshOne hreads).2 ⟨hfails, rfl⟩))

theorem commits_readSnapshots {α : Type} (f : SnapshotTable → α) :
    (store.readSnapshots f).Commits snapshots (f snapshots) snapshots := by
  unfold readSnapshots
  rw [commits_bind]
  refine ⟨_, _, commits_reads.2 ⟨rfl, rfl⟩, ?_⟩
  rw [read_eq hreads]
  exact commits_pure.2 ⟨rfl, rfl⟩

theorem commits_getOrBuild
    (hbuilds : snapshots.find? customerId = some row ∧ after = snapshots ∨
      snapshots.find? customerId = none ∧
        (store.refreshOne customerId).Commits snapshots row after) :
    (store.getOrBuildForCustomer customerId).Commits snapshots row after := by
  unfold getOrBuildForCustomer
  refine commits_bind.2 ⟨_, _, commits_readSnapshots hreads _, ?_⟩
  rcases hbuilds with ⟨hfound, rfl⟩ | ⟨hnone, hrefresh⟩
  · simp only [hfound]
    exact commits_pure.2 ⟨rfl, rfl⟩
  · simp only [hnone]
    exact hrefresh

theorem throws_getOrBuild (hnone : snapshots.find? customerId = none)
    (hfails : store.upsertFault (store.projectedRow customerId) = some err) :
    (store.getOrBuildForCustomer customerId).Throws snapshots err snapshots := by
  unfold getOrBuildForCustomer
  refine throws_bind.2 (.inr ⟨_, _, commits_readSnapshots hreads _, ?_⟩)
  simp only [hnone]
  exact (throws_refreshOne hreads).2 ⟨hfails, rfl⟩

theorem visibleDebt_of_built
    (hbuilt : (store.getOrBuildForCustomer customerId).Commits snapshots row after)
    (hid : row.customerId = customerId) (hsource : row.canonicalSource = "JOURNAL_AR") :
    ∃ debt, (store.getCustomerVisibleDebt customerId).Commits snapshots debt after ∧
      debt.Shows (store.journalDebt customerId) := by
  refine ⟨store.overlayLiveJournalDebt (mapSnapshotToVisibleDebt row), ?_, ?_⟩
  · unfold getCustomerVisibleDebt
    refine commits_bind.2 ⟨some row, after, commits_tryCatch.2 (.inl ?_), ?_⟩
    · exact commits_bind.2 ⟨row, after, hbuilt, commits_pure.2 ⟨rfl, rfl⟩⟩
    · simp only [hsource, ne_eq, not_true_eq_false, if_false]
      exact commits_pure.2 ⟨rfl, rfl⟩
  · rw [← hid]
    exact overlayLiveJournalDebt_shows hreads (mapSnapshotToVisibleDebt row)

theorem visibleDebt_of_unbuilt
    (hfails : (store.getOrBuildForCustomer customerId).Throws snapshots err snapshots) :
    ∃ debt, (store.getCustomerVisibleDebt customerId).Commits snapshots debt snapshots ∧
      debt.Shows (store.journalDebt customerId) := by
  obtain ⟨debt, hlive, hshows⟩ :=
    @commits_computeVisibleDebtLive store customerId snapshots hreads
  refine ⟨debt, ?_, hshows⟩
  unfold getCustomerVisibleDebt
  refine commits_bind.2 ⟨none, snapshots, commits_tryCatch.2 (.inr ⟨err, snapshots, ?_, ?_⟩), hlive⟩
  · exact throws_bind.2 (.inl hfails)
  · exact commits_pure.2 ⟨rfl, rfl⟩

theorem visibleDebt_of_stale (hfound : snapshots.find? customerId = some row)
    (hsource : row.canonicalSource ≠ "JOURNAL_AR")
    (result : Except ServiceError CustomerVisibleDebt)
    (houtcome : (store.rebuildJournalSnapshotOrLive customerId).outcome snapshots = (result, after)) :
    (store.getCustomerVisibleDebt customerId).outcome snapshots = (result, after) := by
  have hguarded : (tryCatch (do
      let row ← store.getOrBuildForCustomer customerId
      pure (some row)) fun _ => pure none : SnapshotTx (Option FinancialSnapshotRow)).Commits
        snapshots (some row) snapshots := by
    refine commits_tryCatch.2 (.inl (commits_bind.2 ⟨row, snapshots, ?_, commits_pure.2 ⟨rfl, rfl⟩⟩))
    exact commits_getOrBuild hreads (.inl ⟨hfound, rfl⟩)
  unfold getCustomerVisibleDebt
  rw [outcome_bind, hguarded]
  simp only [ne_eq, hsource, not_false_eq_true, if_true]
  exact houtcome

theorem getCustomerVisibleDebt_shows
    (hgood : store.upsertFault (store.projectedRow customerId) = none ∨
      ∀ row ∈ snapshots.find? customerId, row.canonicalSource = "JOURNAL_AR") :
    ∃ debt after, (store.getCustomerVisibleDebt customerId).Commits snapshots debt after ∧
      debt.Shows (store.journalDebt customerId) := by
  cases hfound : snapshots.find? customerId with
  | none =>
      cases hfault : store.upsertFault (store.projectedRow customerId) with
      | none =>
          have hrefresh := (commits_refreshOne hreads).2 ⟨hfault, rfl, Eq.refl (snapshots.upsert _)⟩
          obtain ⟨debt, hshown⟩ := visibleDebt_of_built hreads
            (commits_getOrBuild hreads (.inr ⟨hfound, hrefresh⟩)) rfl (projectedRow_source hreads)
          exact ⟨debt, _, hshown⟩
      | some err =>
          obtain ⟨debt, hshown⟩ :=
            visibleDebt_of_unbuilt hreads (throws_getOrBuild hreads hfound hfault)
          exact ⟨debt, _, hshown⟩
  | some row =>
      by_cases hsource : row.canonicalSource = "JOURNAL_AR"
      · obtain ⟨debt, hshown⟩ := visibleDebt_of_built hreads
          (commits_getOrBuild hreads (.inl ⟨hfound, rfl⟩)) (Table.key_of_find? hfound) hsource
        exact ⟨debt, _, hshown⟩
      · have hwrites := hgood.resolve_right fun hall => hsource (hall row hfound)
        obtain ⟨debt, rebuilt, hcommits, hshows⟩ := commits_rebuild hreads hwrites
        exact ⟨debt, rebuilt, visibleDebt_of_stale hreads hfound hsource _ hcommits, hshows⟩

theorem commits_rebuildOrNothing : ∃ debt after,
    (store.rebuildOrNothing customerId).Commits snapshots (some debt) after ∧
      debt.Shows (store.journalDebt customerId) := by
  unfold rebuildOrNothing
  cases hfault : store.upsertFault (store.projectedRow customerId) with
  | none =>
      obtain ⟨debt, rebuilt, hcommits, hshows⟩ := commits_rebuild hreads hfault
      refine ⟨debt, rebuilt, commits_tryCatch.2 (.inl ?_), hshows⟩
      exact commits_bind.2 ⟨debt, rebuilt, hcommits, commits_pure.2 ⟨rfl, rfl⟩⟩
  | some err =>
      obtain ⟨debt, hlive, hshows⟩ :=
        @commits_computeVisibleDebtLive store customerId snapshots hreads
      refine ⟨debt, snapshots, commits_tryCatch.2 (.inr ⟨err, snapshots, ?_, ?_⟩), hshows⟩
      · exact throws_bind.2 (.inl (throws_rebuild hreads hfault))
      · refine commits_tryCatch.2 (.inl (commits_bind.2 ⟨debt, snapshots, hlive, ?_⟩))
        exact commits_pure.2 ⟨rfl, rfl⟩

theorem commits_rebuildMissing (ids : List Uuid) : ∃ rows after,
    (store.rebuildMissing ids).Commits snapshots rows after ∧ rows.map Prod.fst = ids ∧
      ∀ row ∈ rows, ∃ debt, row.2 = some debt ∧ debt.Shows (store.journalDebt row.1) := by
  induction ids generalizing snapshots with
  | nil => exact ⟨[], snapshots, commits_pure.2 ⟨rfl, rfl⟩, rfl, forall_mem_nil _⟩
  | cons id rest ih =>
      obtain ⟨debt, mid, hfirst, hshows⟩ :=
        @commits_rebuildOrNothing store id snapshots hreads
      obtain ⟨rows, after, hrest, hids, hall⟩ := @ih mid
      refine ⟨(id, some debt) :: rows, after, ?_, ?_, ?_⟩
      · refine commits_bind.2 ⟨some debt, mid, hfirst, commits_bind.2 ⟨rows, after, hrest, ?_⟩⟩
        exact commits_pure.2 ⟨rfl, rfl⟩
      · rw [map_cons, hids]
      · exact forall_mem_cons.2 ⟨⟨debt, rfl, hshows⟩, hall⟩

omit hreads

theorem setRows_shows {out : DebtMap} {rows : List (Uuid × Option CustomerVisibleDebt)} {amount : ℤ}
    (hrows : ∀ row ∈ rows, row.1 = customerId → ∃ debt, row.2 = some debt ∧ debt.Shows amount)
    (hthere : (∃ debt, out customerId = some debt ∧ debt.Shows amount) ∨
      customerId ∈ rows.map Prod.fst) :
    ∃ debt, setRows out rows customerId = some debt ∧ debt.Shows amount := by
  induction rows generalizing out with
  | nil => exact hthere.resolve_right not_mem_nil
  | cons row rest ih =>
      obtain ⟨hrow, hrest⟩ := forall_mem_cons.1 hrows
      refine @ih (setRow out row) hrest ?_
      obtain ⟨id, value⟩ := row
      by_cases hid : id = customerId
      · obtain ⟨debt, hsome, hshows⟩ := hrow hid
        obtain rfl : value = some debt := hsome
        subst hid
        exact .inl ⟨debt, Function.update_self _ _ _, hshows⟩
      · rcases hthere with hout | hmem
        · cases value with
          | none => exact .inl hout
          | some other =>
              obtain ⟨debt, hdebt, hshows⟩ := hout
              exact .inl ⟨debt, (Function.update_of_ne (Ne.symm hid) _ _).trans hdebt, hshows⟩
        · exact .inr ((mem_cons.1 hmem).resolve_left fun heq => hid heq.symm)

theorem mem_snapshotHits_ids {customerIds : List Uuid} (hmem : customerId ∈ customerIds)
    (hcovered : ∃ row ∈ snapshots.find? customerId, row.canonicalSource = "JOURNAL_AR") :
    customerId ∈ (snapshotHits customerIds snapshots).map CustomerVisibleDebt.customerId := by
  obtain ⟨row, hfound, hsource⟩ := hcovered
  have hkey : row.customerId = customerId := Table.key_of_find? hfound
  refine mem_map.2 ⟨mapSnapshotToVisibleDebt row, mem_filterMap.2 ⟨customerId, hmem, ?_⟩,
    hkey⟩
  rw [Option.mem_def.1 hfound, Option.bind_some, if_pos hsource]

theorem getCustomerVisibleDebtBatch_shows (hreads : store.Readable) (customer : CustomerKey)
    {customerIds : List Uuid} (hmem : customer.id ∈ customerIds) :
    ∃ debts after, (store.getCustomerVisibleDebtBatch customerIds).Commits snapshots debts after ∧
      ∃ debt, debts customer.id = some debt ∧ debt.Shows (store.journalDebt customer.id) := by
  obtain ⟨rows, after, hrows, hids, hall⟩ := @commits_rebuildMissing store snapshots hreads
    (missingIds customerIds snapshots)
  refine ⟨setRows (setRows (fun _ => none) ((store.overlayLiveJournalDebtBatch
    (snapshotHits customerIds snapshots)).map fun debt => (debt.customerId, some debt))) rows,
    after, ?_, ?_⟩
  · unfold getCustomerVisibleDebtBatch
    rw [if_neg (ne_nil_of_mem hmem)]
    refine commits_bind.2 ⟨_, _, commits_readSnapshots hreads _, commits_bind.2 ⟨rows, after, ?_, ?_⟩⟩
    · exact hrows
    · exact commits_pure.2 ⟨rfl, rfl⟩
  · apply setRows_shows
    · intro row hrow hid
      obtain ⟨debt, hsome, hshows⟩ := hall row hrow
      exact ⟨debt, hsome, hid ▸ hshows⟩
    · by_cases hcovered : ∃ row ∈ snapshots.find? customer.id, row.canonicalSource = "JOURNAL_AR"
      · refine .inl (setRows_shows ?_ (.inr ?_))
        · intro row hrow hid
          obtain ⟨debt, hdebt, rfl⟩ := mem_map.1 hrow
          refine ⟨debt, rfl, ?_⟩
          unfold overlayLiveJournalDebtBatch at hdebt
          rw [hreads .journal] at hdebt
          obtain ⟨hit, hhit, rfl⟩ := mem_map.1 hdebt
          have hcustomer : hit.customerId = customer.id := hid
          have hlisted := mem_map_of_mem (f := CustomerVisibleDebt.customerId) hhit
          rw [hcustomer] at hlisted
          rw [hcustomer, getCustomerDebtFromJournalARBatch_apply _ hlisted, Option.getD_some,
            ← journalDebt_eq]
          exact overlaid_shows _ _
        · unfold overlayLiveJournalDebtBatch
          rw [hreads .journal, map_map, map_map]
          exact mem_snapshotHits_ids hmem hcovered
      · refine .inr ?_
        rw [hids]
        exact mem_filter.2 ⟨hmem, decide_eq_true hcovered⟩

end Readable

end VisibilityStore

structure ShownEverywhere (store : VisibilityStore) (customer : CustomerKey) (amount : ℤ)
    (hasDebt : Bool) (snapshots : SnapshotTable) : Prop where
  single : ∃ debt after, (store.getCustomerVisibleDebt customer.id).Commits snapshots debt after ∧
    debt.remainingDebtKd = amount ∧ debt.hasDebt = hasDebt
  batch : ∀ customerIds, customer.id ∈ customerIds → ∃ debts after debt,
    (store.getCustomerVisibleDebtBatch customerIds).Commits snapshots debts after ∧
      debts customer.id = some debt ∧ debt.remainingDebtKd = amount ∧ debt.hasDebt = hasDebt

/-- With no read failing, the debt shown is the same over two projections exactly if the
refreshed row can be written, or neither has a row that is not from the journal. -/
theorem shownDebt_independent_iff {store : VisibilityStore} (hreads : store.Readable)
    (customer : CustomerKey) (snapshots snapshots' : SnapshotTable) :
    (∃ amount hasDebt, ShownEverywhere store customer amount hasDebt snapshots ∧
      ShownEverywhere store customer amount hasDebt snapshots') ↔
    store.upsertFault (store.projectedRow customer.id) = none ∨
      ∀ table ∈ [snapshots, snapshots'], ∀ row ∈ table.find? customer.id,
        row.canonicalSource = "JOURNAL_AR" := by
  constructor
  · rintro ⟨amount, hasDebt, hfirst, hsecond⟩
    cases hfault : store.upsertFault (store.projectedRow customer.id) with
    | none => exact .inl rfl
    | some err =>
        refine .inr fun table htable row hfound => ?_
        by_contra hsource
        have hshown : ShownEverywhere store customer amount hasDebt table := by
          rcases mem_pair.1 htable with rfl | rfl
          · exact hfirst
          · exact hsecond
        obtain ⟨debt, after, hcommits, _⟩ := hshown.single
        have hthrows := VisibilityStore.visibleDebt_of_stale hreads hfound hsource _
          (VisibilityStore.throws_rebuild hreads hfault)
        unfold Commits at hcommits
        rw [hthrows] at hcommits
        cases hcommits
  · intro hgood
    have hshown : ∀ table ∈ [snapshots, snapshots'],
        ShownEverywhere store customer (store.journalDebt customer.id)
          (decide (uiDebtConsistencyTolerance < store.journalDebt customer.id)) table := by
      intro table htable
      refine ⟨VisibilityStore.getCustomerVisibleDebt_shows hreads
        (hgood.imp_right fun hall => hall table htable), fun customerIds hmem => ?_⟩
      obtain ⟨debts, after, hcommits, debt, hentry, hshows⟩ :=
        @VisibilityStore.getCustomerVisibleDebtBatch_shows store table hreads customer _ hmem
      exact ⟨debts, after, debt, hcommits, hentry, hshows⟩
    exact ⟨_, _, hshown snapshots (mem_cons_self ..),
      hshown snapshots' (mem_cons_of_mem _ (mem_singleton_self _))⟩

namespace Sample

def visibilityStore (fault : Option ServiceError) : VisibilityStore where
  env := Env.default
  orders := debtReadOrders
  db := indebtedShop
  journal := twoEntries
  dueDate := fun _ => none
  readFault := fun _ => none
  upsertFault := fun _ => fault

def fallbackRow : FinancialSnapshotRow where
  customerId := "customer"
  journalArBalanceKd := 0
  remainingDebtKd := 20000
  paidTotalKd := 0
  totalInvoicesKd := 20000
  unpaidInvoicesCount := 1
  partiallyPaidInvoicesCount := 0
  activeInvoicesCount := 1
  overdueInvoicesCount := 0
  walletBalanceKd := 0
  walletLiabilityKd := 0
  lastPaymentAt := none
  lastInvoiceAt := none
  canonicalSource := "JOURNAL_AR_FALLBACK"
  refreshedAt := 0

def staleProjection : SnapshotTable := ⟨[fallbackRow], nodup_singleton _⟩

end Sample

theorem shownDebt_independent_iff_sample :
    (∃ amount hasDebt,
      ShownEverywhere (Sample.visibilityStore none) Sample.customerKey amount hasDebt .empty ∧
      ShownEverywhere (Sample.visibilityStore none) Sample.customerKey amount hasDebt
        Sample.staleProjection) ↔
    (Sample.visibilityStore none).upsertFault
        ((Sample.visibilityStore none).projectedRow "customer") = none ∨
      ∀ table ∈ [.empty, Sample.staleProjection], ∀ row ∈ table.find? "customer",
        row.canonicalSource = "JOURNAL_AR" :=
  shownDebt_independent_iff (fun _ => rfl) Sample.customerKey .empty Sample.staleProjection

theorem shownDebt_independent_fails :
    ¬ ∀ (store : VisibilityStore) (customer : CustomerKey) (snapshots snapshots' : SnapshotTable),
      store.Readable → ∃ amount hasDebt, ShownEverywhere store customer amount hasDebt snapshots ∧
        ShownEverywhere store customer amount hasDebt snapshots' := by
  intro hall
  obtain ⟨_, _, _, hstale⟩ := hall (Sample.visibilityStore (some (.database "timeout")))
    Sample.customerKey .empty Sample.staleProjection fun _ => rfl
  obtain ⟨_, _, hcommits, _⟩ := hstale.single
  have hthrows := VisibilityStore.visibleDebt_of_stale (fun _ => rfl)
    (rfl : Sample.staleProjection.find? "customer" = some Sample.fallbackRow) (by decide) _
    (@VisibilityStore.throws_rebuild (Sample.visibilityStore (some (.database "timeout")))
      "customer" Sample.staleProjection (fun _ => rfl) _ rfl)
  exact nomatch hthrows.symm.trans hcommits

end SafariLaundry
