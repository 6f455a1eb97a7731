import SafariLaundry.UnpaidInvoices

/-!
# Whether the report lists what was asked for

An open invoice is one that the journal issued and on which something is open, or an
unpaid order that it has not issued yet.  The report should list those that pass every
filter.  Each pass lets some of the filters go; what that comes to, order by order, is
said here, and the report is exact just where it comes to nothing.
-/

namespace SafariLaundry.UnpaidInvoices

open Library Library.Bookkeeping List

/-- Whether `marketKpiBranchId` filters the rows as well or, as its description has it,
the market indicators alone. -/
inductive MarketReading
  | rows | indicators

def QueryDate.time? : QueryDate → Option Timestamp
  | .invalid => none
  | .instant time => some time

def queryWindow (query : UnpaidInvoicesQuery) : DateWindow where
  since := query.fromDate.bind QueryDate.time?
  upTo := query.toDate.bind QueryDate.time?

def DatesValid (query : UnpaidInvoicesQuery) : Prop :=
  query.fromDate ≠ some .invalid ∧ query.toDate ≠ some .invalid

/-- An entry that issues an invoice: in full under true accounting, by its shortfall or
the overuse of a subscription before that. -/
def IssuesInvoice (entry : JournalEntry) : Prop :=
  entry.source = "INVOICE_ISSUED" ∨ entry.source = "ORDER_INVOICE" ∨ entry.source = "INVOICE"
  deriving Decidable

def IssuedBy (order : Order) (row : JournalEntryRow) : Prop :=
  IssuesInvoice row.entry ∧ row.entry.orderId = some order.id
  deriving Decidable

def Issued (books : Books) (order : Order) : Prop :=
  ∃ row ∈ books.entries, IssuedBy order row
  deriving Decidable

def issuedRemaining (books : Books) : Uuid → Option ℤ :=
  computeOrderRemainingBalancesBatch { Env.default with useJournalAsSource := true } books.db
    ((books.db.orders.rows.filter fun order => Issued books order).map Order.id)

def Unsettled (order : Order) : Prop :=
  order.walletSettledAt = none ∨ order.posPaymentMethod = .DEBT_ON_ACCOUNT

def OpenUnpaid (order : Order) : Prop :=
  order.cashStatus = .UNPAID ∧ order.status ≠ .CANCELED ∧ Unsettled order ∧ 0 < order.totalPrice

def OpenInvoice (books : Books) (order : Order) : Prop :=
  (Issued books order → OpenIn (issuedRemaining books) order.id) ∧
    (¬ Issued books order → OpenUnpaid order)

section Filters

variable (query : UnpaidInvoicesQuery) (books : Books) (order : Order)

def BranchAsked : Prop := ∀ b ∈ trimmed query.branchId, OfBranch books.db b order

def MarketAsked (reading : MarketReading) : Prop :=
  reading = .rows → ∀ b ∈ trimmed query.marketKpiBranchId, OfBranch books.db b order

def OrderDated : Prop :=
  (queryWindow query).Contains (order.completedAt.getD order.createdAt)

def DrivenAsAsked : Prop := ∀ actor ∈ actorFilter query, order.driverId = some actor

def IssuedAsAsked : Prop :=
  (Issued books order → ∃ row ∈ books.entries, IssuedBy order row ∧
    (queryWindow query).Contains row.createdAt ∧
    ∀ actor ∈ actorFilter query, row.entry.actorUserId = actor) ∧
  (¬ Issued books order → OrderDated query order ∧ DrivenAsAsked query order)

structure Wanted (reading : MarketReading) : Prop where
  isOpen : OpenInvoice books order
  branch : BranchAsked query books order
  market : MarketAsked query books order reading
  phone : PhoneAsked query books.db order
  issue : IssuedAsAsked query books order

end Filters

/-- The report lists the wanted orders, each once; it is refused only over a date that is
none. -/
def ReportExact (reading : MarketReading) (env : Env) (arrival : Arrival) (books : Books)
    (query : UnpaidInvoicesQuery) : Prop :=
  match getUnpaidInvoicesFromJournal env arrival books query with
  | .error _ => ¬ DatesValid query
  | .ok response =>
      (response.rows.map UnpaidInvoiceRow.orderId).Nodup ∧
        ∀ orderId, orderId ∈ response.rows.map UnpaidInvoiceRow.orderId ↔
          ∃ order ∈ books.db.orders.rows, order.id = orderId ∧ Wanted query books order reading

section Astray

variable (env : Env) (arrival : Arrival) (books : Books) (query : UnpaidInvoicesQuery)
  (order : Order)

/-- The first 50000 orders of a branch, in the order in which they arrive. -/
def branchIds (b : String) : List Uuid :=
  ((arrival.orders.arrange (books.db.orders.rows.filter fun order =>
    OfBranch books.db b order)).take 50000).map Order.id

/-- An entry under one of the two sources that the first pass knows, with a date, an actor, a
customer and an order that were asked for. -/
def KnownEntry (row : JournalEntryRow) : Prop :=
  (row.entry.source = "ORDER_INVOICE" ∨ row.entry.source = "INVOICE") ∧
  (queryWindow query).Contains row.createdAt ∧
  (∀ actor ∈ actorFilter query, row.entry.actorUserId = actor) ∧
  (phoneDigits query ≠ "" → ∃ customer ∈ books.db.customers.rows,
    PhoneContains (phoneDigits query) customer ∧ row.entry.customerId = some customer.id) ∧
  ∃ orderId ∈ row.entry.orderId, ∀ b ∈ trimmed query.branchId, orderId ∈ branchIds arrival books b
  deriving Decidable

/-- One of the 20000 newest of these entries is of the order. -/
def Discovered : Prop :=
  ∃ row ∈ newest JournalEntryRow.createdAt arrival.entries 20000
    (books.entries.filter (KnownEntry arrival books query)), row.entry.orderId = some order.id
  deriving Decidable

/-- Something is open on the order, as the environment reads the journal, among the orders
that were discovered. -/
def FoundOpen : Prop :=
  Discovered arrival books query order ∧ OpenIn (computeOrderRemainingBalancesBatch env books.db
    ((books.db.orders.rows.filter (Discovered arrival books query)).map Order.id)) order.id
  deriving Decidable

def AskedUnpaid : Prop :=
  order.cashStatus = .UNPAID ∧ order.status ≠ .CANCELED ∧
    (lastClause query (queryWindow query)).Holds books.db order ∧
    PhoneAsked query books.db order ∧ DriverAsked query books.db order
  deriving Decidable

/-- An order that only the second pass can list is among the 5000 newest of these. -/
def OrderReached : Prop :=
  AskedUnpaid books query order → ¬ FoundOpen env arrival books query order →
    order ∈ newest Order.createdAt arrival.orders 5000 (books.db.orders.rows.filter fun order =>
      AskedUnpaid books query order ∧ ¬ FoundOpen env arrival books query order)

def StillUnpaid : Prop :=
  AskedUnpaid books query order ∧ 0 < order.totalPrice ∧ OrderReached env arrival books query order

end Astray

/-- Order by order, none of the filters that a pass lets go makes a difference. -/
structure PassesAgree (reading : MarketReading) (env : Env) (arrival : Arrival)
    (books : Books) (query : UnpaidInvoicesQuery) : Prop where
  /-- A wanted invoice has an entry under a source that the first pass knows, or its order
  is still unpaid. -/
  issued_found : ∀ order ∈ books.db.orders.rows, Issued books order →
    Wanted query books order reading →
      FoundOpen env arrival books query order ∨ StillUnpaid env arrival books query order
  /-- The phone is looked up for the customer of the entry, and what is open is computed
  among the orders found. -/
  first_open : ∀ order ∈ books.db.orders.rows, FoundOpen env arrival books query order →
    OpenInvoice books order ∧ MarketAsked query books order reading ∧
      PhoneAsked query books.db order
  /-- The second pass asks neither for what is open on an invoice nor for its issuing. -/
  second_issued : ∀ order ∈ books.db.orders.rows, Issued books order →
    StillUnpaid env arrival books query order →
      OpenInvoice books order ∧ BranchAsked query books order ∧
        MarketAsked query books order reading ∧ IssuedAsAsked query books order
  /-- Without a branch the second pass takes the market's, and it stops at its cap. -/
  unissued_found : ∀ order ∈ books.db.orders.rows, ¬ Issued books order →
    Wanted query books order reading →
      (¬ (queryWindow query).Given → trimmed query.branchId = none →
        ∀ b ∈ trimmed query.marketKpiBranchId, OfBranch books.db b order) ∧
      OrderReached env arrival books query order
  /-- The dates replace the branch, both replace the test for a settlement, and the actor
  counts only as a driver. -/
  second_unissued : ∀ order ∈ books.db.orders.rows, ¬ Issued books order →
    StillUnpaid env arrival books query order → Unsettled order ∧ BranchAsked query books order ∧
        MarketAsked query books order reading ∧ DrivenAsAsked query order

/-! ## What each pass keeps of the filters -/

section Passes

variable {reading : MarketReading} {env : Env} {arrival : Arrival} {books : Books}
  {query : UnpaidInvoicesQuery} {order : Order}

theorem branchOrderIdArray_eq :
    branchOrderIdArray arrival query books.db =
      (trimmed query.branchId).map (branchIds arrival books) := by
  unfold branchOrderIdArray orderBranchWhereForMarketDebt
  cases trimmed query.branchId with
  | none => rfl
  | some b =>
      rw [if_neg (Option.some_ne_none b)]
      simp only [Option.map_some, Option.getD_some, OrderWhereInput.Matches, Option.mem_def,
        reduceCtorEq, Option.some.injEq, forall_eq', false_imp_iff, implies_true, true_and,
        and_true]
      rfl

theorem of_mem_branchIds {b : String} (horder : order ∈ books.db.orders.rows)
    (hmem : order.id ∈ branchIds arrival books b) : OfBranch books.db b order := by
  obtain ⟨other, hother, hid⟩ := mem_map.1 hmem
  have hfetched := (arrival.orders.perm _).subset (mem_of_mem_take hother)
  obtain ⟨hstored, hbranch⟩ := mem_filter.1 hfetched
  obtain rfl := Table.row_eq_of_key_eq hstored horder hid
  exact of_decide_eq_true hbranch

theorem exists_mem_customerIdFilter {customerId : Option Uuid} :
    (∀ ids ∈ customerIdFilter (phoneDigits query) books.db, ∃ id ∈ ids, customerId = some id) ↔
      (phoneDigits query ≠ "" → ∃ customer ∈ books.db.customers.rows,
        PhoneContains (phoneDigits query) customer ∧ customerId = some customer.id) := by
  unfold customerIdFilter
  by_cases hblank : phoneDigits query = ""
  · rw [if_pos hblank]
    simp [hblank]
  · rw [if_neg hblank]
    simp only [Option.mem_def, Option.some.injEq, forall_eq', ne_eq, hblank,
      not_false_eq_true, forall_const, mem_map, mem_filter, decide_eq_true_eq]
    constructor
    · rintro ⟨_, ⟨customer, ⟨hstored, hphone⟩, rfl⟩, hid⟩
      exact ⟨customer, hstored, hphone, hid⟩
    · rintro ⟨customer, hstored, hphone, hid⟩
      exact ⟨_, ⟨customer, ⟨hstored, hphone⟩, rfl⟩, hid⟩

theorem matches_journalWhere_iff {row : JournalEntryRow} :
    (journalWhere arrival query (queryWindow query) books.db).Matches row ↔
      KnownEntry arrival books query row := by
  unfold JournalEntryWhereInput.Matches KnownEntry journalWhere
  dsimp only
  rw [exists_mem_customerIdFilter, branchOrderIdArray_eq]
  simp only [Option.mem_def, Option.map_eq_some_iff, forall_exists_index, and_imp,
    forall_apply_eq_imp_iff₂]
  cases row.entry.orderId with
  | none => simp
  | some orderId => simp

theorem rawEntries_eq :
    rawEntries arrival query (queryWindow query) books =
      newest JournalEntryRow.createdAt arrival.entries 20000
        (books.entries.filter (KnownEntry arrival books query)) := by
  unfold rawEntries
  congr 1
  apply filter_congr
  intro row _
  exact decide_eq_decide.2 matches_journalWhere_iff

theorem mem_discoveredIds :
    order.id ∈ discoveredIds arrival query (queryWindow query) books ↔
      Discovered arrival books query order := by
  unfold discoveredIds Discovered
  rw [mem_keys_orderIdToEntry, rawEntries_eq]

theorem Discovered.known (hdiscovered : Discovered arrival books query order) :
    ∃ row ∈ books.entries, KnownEntry arrival books query row ∧
      row.entry.orderId = some order.id := by
  obtain ⟨row, hrow, hnames⟩ := hdiscovered
  obtain ⟨hstored, hknown⟩ := mem_filter.1 (newest_subset hrow)
  exact ⟨row, hstored, of_decide_eq_true hknown, hnames⟩

theorem Discovered.issued (hdiscovered : Discovered arrival books query order) :
    Issued books order := by
  obtain ⟨row, hstored, hknown, hnames⟩ := hdiscovered.known
  exact ⟨row, hstored, .inr hknown.1, hnames⟩

theorem Discovered.branchAsked (horder : order ∈ books.db.orders.rows)
    (hdiscovered : Discovered arrival books query order) :
    BranchAsked query books order := by
  intro b hasked
  obtain ⟨row, _, ⟨_, _, _, _, orderId, hnamed, hreached⟩, hnames⟩ := hdiscovered.known
  obtain rfl := Option.some.inj (hnamed.symm.trans hnames)
  exact of_mem_branchIds horder (hreached b hasked)

theorem Discovered.issuedAsAsked (hdiscovered : Discovered arrival books query order) :
    IssuedAsAsked query books order := by
  refine ⟨fun _ => ?_, fun hnot => absurd hdiscovered.issued hnot⟩
  obtain ⟨row, hstored, ⟨hsource, hdated, hactor, _⟩, hnames⟩ := hdiscovered.known
  exact ⟨row, hstored, ⟨.inr hsource, hnames⟩, hdated, hactor⟩

theorem firstPass_iff (horder : order ∈ books.db.orders.rows) :
    FirstPass env arrival books query (queryWindow query) order ↔
      FoundOpen env arrival books query order := by
  have hsame : ∀ other ∈ books.db.orders.rows,
      (other.id ∈ discoveredIds arrival query (queryWindow query) books ↔
        other.id ∈ (books.db.orders.rows.filter (Discovered arrival books query)).map
          Order.id) := by
    intro other hother
    rw [mem_discoveredIds, mem_map]
    constructor
    · intro hdiscovered
      exact ⟨other, mem_filter.2 ⟨hother, decide_eq_true hdiscovered⟩, rfl⟩
    · rintro ⟨row, hrow, hid⟩
      obtain ⟨hstored, hdiscovered⟩ := mem_filter.1 hrow
      obtain rfl := Table.row_eq_of_key_eq hstored hother hid
      exact of_decide_eq_true hdiscovered
  unfold FirstPass FoundOpen
  rw [← mem_keys_orderIdToEntry]
  change order.id ∈ discoveredIds arrival query (queryWindow query) books ∧ _ ↔ _
  rw [mem_discoveredIds]
  apply and_congr_right
  intro hdiscovered
  have hfound := mem_discoveredIds.2 hdiscovered
  unfold OpenIn
  rw [remainingBatch_congr horder hfound ((hsame order horder).1 hfound) fun other hother _ =>
    hsame other hother]

theorem unlinkedUnpaid_eq :
    unlinkedUnpaid arrival query (queryWindow query)
        (coveredIds env arrival books query (queryWindow query)) books.db =
      newest Order.createdAt arrival.orders 5000 (books.db.orders.rows.filter fun order =>
        AskedUnpaid books query order ∧ ¬ FoundOpen env arrival books query order) := by
  unfold unlinkedUnpaid
  congr 1
  apply filter_congr
  intro order horder
  apply decide_eq_decide.2
  rw [matches_baseOrderUnpaid, mem_coveredIds, firstPass_iff horder]
  unfold AskedUnpaid
  tauto

theorem SecondPass.stillUnpaid
    (hsecond : SecondPass env arrival books query (queryWindow query) order) :
    StillUnpaid env arrival books query order := by
  obtain ⟨hlisted, hcosts⟩ := hsecond
  rw [unlinkedUnpaid_eq] at hlisted
  have hasked := of_decide_eq_true (mem_filter.1 (newest_subset hlisted)).2
  exact ⟨hasked.1, hcosts, fun _ _ => hlisted⟩

theorem StillUnpaid.listed (horder : order ∈ books.db.orders.rows)
    (hunpaid : StillUnpaid env arrival books query order) :
    FirstPass env arrival books query (queryWindow query) order ∨
      SecondPass env arrival books query (queryWindow query) order := by
  obtain ⟨hasked, hcosts, hreached⟩ := hunpaid
  by_cases hfound : FoundOpen env arrival books query order
  · exact .inl ((firstPass_iff horder).2 hfound)
  · refine .inr ⟨?_, hcosts⟩
    rw [unlinkedUnpaid_eq]
    exact hreached hasked hfound

theorem holds_dated_iff {window : DateWindow} :
    (OrClause.dated window).Holds books.db order ↔
      window.Contains (order.completedAt.getD order.createdAt) := by
  unfold OrClause.Holds
  cases order.completedAt with
  | none => simp
  | some time => simp

theorem AskedUnpaid.dated (hasked : AskedUnpaid books query order) : OrderDated query order := by
  obtain ⟨_, _, hclause, _⟩ := hasked
  by_cases hgiven : (queryWindow query).Given
  · unfold lastClause at hclause
    rw [if_pos hgiven] at hclause
    exact holds_dated_iff.1 hclause
  · exact DateWindow.contains_of_not_given hgiven _

theorem lastClause_of_not_given (hopen : ¬ (queryWindow query).Given) :
    lastClause query (queryWindow query) =
      ((listScope query).map OrClause.branch).getD .unsettled :=
  if_neg hopen

theorem Wanted.holds_lastClause (hwanted : Wanted query books order reading)
    (hunissued : ¬ Issued books order)
    (hscope : ¬ (queryWindow query).Given → trimmed query.branchId = none →
      ∀ b ∈ trimmed query.marketKpiBranchId, OfBranch books.db b order) :
    (lastClause query (queryWindow query)).Holds books.db order := by
  by_cases hgiven : (queryWindow query).Given
  · unfold lastClause
    rw [if_pos hgiven]
    exact holds_dated_iff.2 (hwanted.issue.2 hunissued).1
  · rw [lastClause_of_not_given hgiven]
    unfold listScope
    cases hbranch : trimmed query.branchId with
    | some b =>
        exact hwanted.branch b hbranch
    | none =>
        cases hmarket : trimmed query.marketKpiBranchId with
        | some b =>
            exact hscope hgiven hbranch b hmarket
        | none => exact (hwanted.isOpen.2 hunissued).2.2.1

theorem Wanted.stillUnpaid (hwanted : Wanted query books order reading)
    (hunissued : ¬ Issued books order)
    (hscope : ¬ (queryWindow query).Given → trimmed query.branchId = none →
      ∀ b ∈ trimmed query.marketKpiBranchId, OfBranch books.db b order)
    (hreached : OrderReached env arrival books query order) :
    StillUnpaid env arrival books query order := by
  obtain ⟨hunpaid, hstatus, _, hcosts⟩ := hwanted.isOpen.2 hunissued
  refine ⟨⟨hunpaid, hstatus, hwanted.holds_lastClause hunissued hscope, hwanted.phone, ?_⟩,
    hcosts, hreached⟩
  intro actor hactor _
  exact (hwanted.issue.2 hunissued).2 actor hactor

theorem PassesAgree.wanted_of_listed (hagree : PassesAgree reading env arrival books query)
    (horder : order ∈ books.db.orders.rows)
    (hlisted : FirstPass env arrival books query (queryWindow query) order ∨
      SecondPass env arrival books query (queryWindow query) order) :
    Wanted query books order reading := by
  rcases hlisted with hfirst | hsecond
  · have hfound := (firstPass_iff horder).1 hfirst
    obtain ⟨hopen, hmarket, hphone⟩ := hagree.first_open order horder hfound
    exact ⟨hopen, hfound.1.branchAsked horder, hmarket, hphone, hfound.1.issuedAsAsked⟩
  · have hunpaid := hsecond.stillUnpaid
    obtain ⟨hcash, hstatus, _, hphone, _⟩ := hunpaid.1
    by_cases hissued : Issued books order
    · obtain ⟨hopen, hbranch, hmarket, hissue⟩ :=
        hagree.second_issued order horder hissued hunpaid
      exact ⟨hopen, hbranch, hmarket, hphone, hissue⟩
    · obtain ⟨hunsettled, hbranch, hmarket, hdriven⟩ :=
        hagree.second_unissued order horder hissued hunpaid
      refine ⟨⟨fun h => absurd h hissued, fun _ => ?_⟩, hbranch, hmarket, hphone,
        fun h => absurd h hissued, fun _ => ?_⟩
      · exact ⟨hcash, hstatus, hunsettled, hunpaid.2.1⟩
      · exact ⟨hunpaid.1.dated, hdriven⟩

theorem PassesAgree.listed_of_wanted (hagree : PassesAgree reading env arrival books query)
    (horder : order ∈ books.db.orders.rows)
    (hwanted : Wanted query books order reading) :
    FirstPass env arrival books query (queryWindow query) order ∨
      SecondPass env arrival books query (queryWindow query) order := by
  by_cases hissued : Issued books order
  · rcases hagree.issued_found order horder hissued hwanted with hfound | hunpaid
    · exact .inl ((firstPass_iff horder).2 hfound)
    · exact hunpaid.listed horder
  · obtain ⟨hscope, hreached⟩ := hagree.unissued_found order horder hissued hwanted
    exact (hwanted.stillUnpaid hissued hscope hreached).listed horder

theorem passesAgree_of_listed_iff
    (hlisted : ∀ order ∈ books.db.orders.rows,
      (FirstPass env arrival books query (queryWindow query) order ∨
        SecondPass env arrival books query (queryWindow query) order) ↔
          Wanted query books order reading) :
    PassesAgree reading env arrival books query where
  issued_found := by
    intro order horder _ hwanted
    rcases (hlisted order horder).2 hwanted with hfirst | hsecond
    · exact .inl ((firstPass_iff horder).1 hfirst)
    · exact .inr hsecond.stillUnpaid
  first_open := by
    intro order horder hfound
    have hwanted := (hlisted order horder).1 (.inl ((firstPass_iff horder).2 hfound))
    exact ⟨hwanted.isOpen, hwanted.market, hwanted.phone⟩
  second_issued := by
    intro order horder _ hunpaid
    have hwanted := (hlisted order horder).1 (hunpaid.listed horder)
    exact ⟨hwanted.isOpen, hwanted.branch, hwanted.market, hwanted.issue⟩
  unissued_found := by
    intro order horder hunissued hwanted
    rcases (hlisted order horder).2 hwanted with hfirst | hsecond
    · exact absurd ((firstPass_iff horder).1 hfirst).1.issued hunissued
    · obtain ⟨⟨_, _, hclause, _⟩, _, hreached⟩ := hsecond.stillUnpaid
      refine ⟨?_, hreached⟩
      intro hopen hbranch b hmarket
      rw [lastClause_of_not_given hopen] at hclause
      unfold listScope at hclause
      rw [hbranch, Option.none_or, Option.mem_def.1 hmarket] at hclause
      exact hclause
  second_unissued := by
    intro order horder hunissued hunpaid
    have hwanted := (hlisted order horder).1 (hunpaid.listed horder)
    exact ⟨(hwanted.isOpen.2 hunissued).2.2.1, hwanted.branch, hwanted.market,
      (hwanted.issue.2 hunissued).2⟩

end Passes

theorem parseDate_invalid (message : String) :
    parseDate message (some .invalid) = .error (.badRequest message) := rfl

theorem parseDate_of_ne {message : String} {date : Option QueryDate}
    (hvalid : date ≠ some .invalid) :
    parseDate message date = .ok (date.bind QueryDate.time?) := by
  cases date with
  | none => rfl
  | some date =>
      cases date with
      | invalid => exact absurd rfl hvalid
      | instant time => rfl

theorem getUnpaidInvoicesFromJournal_of_valid {query : UnpaidInvoicesQuery} (env : Env)
    (arrival : Arrival) (books : Books) (hvalid : DatesValid query) :
    getUnpaidInvoicesFromJournal env arrival books query =
      .ok (unpaidInvoicesReport env arrival books query (queryWindow query)) := by
  unfold getUnpaidInvoicesFromJournal
  rw [parseDate_of_ne hvalid.1, parseDate_of_ne hvalid.2]
  rfl

theorem getUnpaidInvoicesFromJournal_of_invalid {query : UnpaidInvoicesQuery} (env : Env)
    (arrival : Arrival) (books : Books) (hinvalid : ¬ DatesValid query) :
    ∃ failure, getUnpaidInvoicesFromJournal env arrival books query = .error failure := by
  unfold getUnpaidInvoicesFromJournal
  by_cases hfrom : query.fromDate = some .invalid
  · rw [hfrom, parseDate_invalid]
    exact ⟨_, rfl⟩
  · have hto : query.toDate = some .invalid :=
      not_not.1 fun hvalid => hinvalid ⟨hfrom, hvalid⟩
    rw [parseDate_of_ne hfrom, hto, parseDate_invalid]
    exact ⟨_, rfl⟩

/-- The report is exact if and only if no filter that a pass lets go makes a difference
to an order. -/
theorem unpaidInvoices_exact_iff (reading : MarketReading) (env : Env) (arrival : Arrival)
    (books : Books) (query : UnpaidInvoicesQuery) :
    ReportExact reading env arrival books query ↔
      (DatesValid query → PassesAgree reading env arrival books query) := by
  unfold ReportExact
  by_cases hvalid : DatesValid query
  · rw [getUnpaidInvoicesFromJournal_of_valid env arrival books hvalid]
    dsimp only
    simp only [mem_report_ids, hvalid, forall_const]
    constructor
    · rintro ⟨_, hexact⟩
      apply passesAgree_of_listed_iff
      intro order horder
      constructor
      · intro hlisted
        obtain ⟨other, hother, hid, hwanted⟩ :=
          (hexact order.id).1 ⟨order, horder, rfl, hlisted⟩
        obtain rfl := Table.row_eq_of_key_eq hother horder hid
        exact hwanted
      · intro hwanted
        obtain ⟨other, hother, hid, hlisted⟩ :=
          (hexact order.id).2 ⟨order, horder, rfl, hwanted⟩
        obtain rfl := Table.row_eq_of_key_eq hother horder hid
        exact hlisted
    · intro hagree
      refine ⟨report_ids_nodup env arrival books query (queryWindow query), ?_⟩
      intro orderId
      constructor
      · rintro ⟨order, horder, hid, hlisted⟩
        exact ⟨order, horder, hid, hagree.wanted_of_listed horder hlisted⟩
      · rintro ⟨order, horder, hid, hwanted⟩
        exact ⟨order, horder, hid, hagree.listed_of_wanted horder hwanted⟩
  · obtain ⟨failure, herror⟩ :=
      getUnpaidInvoicesFromJournal_of_invalid env arrival books hvalid
    rw [herror]
    exact ⟨fun _ h => absurd h hvalid, fun _ => hvalid⟩

namespace Sample

def onAccountOrder : Order :=
  { SafariLaundry.Sample.order "order" with
    status := .COMPLETED
    cashStatus := cashStatusForPaymentMethod .DEBT_ON_ACCOUNT
    posPaymentMethod := .DEBT_ON_ACCOUNT
    completedAt := some 2
    walletSettledAt := some 2 }

def issuance : JournalEntry :=
  (invoiceIssuanceEntry ⟨"customer", "order", "owner", 20000⟩).input.entry

def onAccountBooks : Books where
  db :=
    { SafariLaundry.Sample.shop ⟨0, 20000⟩ ⟨[onAccountOrder], nodup_singleton _⟩ with
      journal := [issuance] }
  entries := [⟨"entry", 2, issuance⟩]
  entries_journal := rfl

def asStored : Arrival where
  orders := ⟨id, fun rows => List.Perm.refl rows⟩
  entries := ⟨id, fun rows => List.Perm.refl rows⟩
  lines := ⟨id, fun rows => List.Perm.refl rows⟩

def finalLedger : Env := { Env.default with v20_4FinalLedger := true }

def everything : UnpaidInvoicesQuery := ⟨none, none, none, none, none, none⟩

end Sample

theorem wanted_onAccountOrder (reading : MarketReading) :
    Wanted Sample.everything Sample.onAccountBooks Sample.onAccountOrder reading where
  isOpen := by
    refine ⟨fun _ => ?_, fun hunissued => absurd ?_ hunissued⟩
    · unfold OpenIn issuedRemaining
      decide +kernel
    · decide +kernel
  branch := by
    intro b hasked
    cases hasked
  market := by
    intro _ b hasked
    cases hasked
  phone := fun hasked => absurd (by decide +kernel) hasked
  issue := by
    refine ⟨fun _ => ?_, fun hunissued => absurd ?_ hunissued⟩
    · refine ⟨_, mem_singleton_self _, by decide +kernel, ?_, ?_⟩
      · exact DateWindow.contains_of_not_given (by decide +kernel) _
      · intro actor hactor
        cases hactor
    · decide +kernel

theorem unpaidInvoices_exact_fails :
    ¬ ∃ reading : MarketReading, ∀ (env : Env) (arrival : Arrival) (books : Books)
      (query : UnpaidInvoicesQuery), ReportExact reading env arrival books query := by
  rintro ⟨reading, hall⟩
  have hexact := hall Sample.finalLedger Sample.asStored Sample.onAccountBooks
    Sample.everything
  have hvalid : DatesValid Sample.everything := ⟨nofun, nofun⟩
  unfold ReportExact at hexact
  rw [getUnpaidInvoicesFromJournal_of_valid _ _ _ hvalid] at hexact
  have hlisted := (hexact.2 "order").2
    ⟨Sample.onAccountOrder, mem_singleton_self _, rfl, wanted_onAccountOrder _⟩
  revert hlisted
  decide +kernel

end SafariLaundry.UnpaidInvoices
