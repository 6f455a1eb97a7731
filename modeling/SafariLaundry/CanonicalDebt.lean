import SafariLaundry.ReceivableReaders
import SafariLaundry.RemainingBalances

/-!
# The canonical debt of a customer, alone and in a batch

Both versions take the orders in collection, what remains on each, and the journal
balance where a reader is at hand.  The batch asks for all customers at once and
groups; credits are spread per customer, so that nobody else's orders matter.  They
are spread over the orders as these come back, though, and no query names an order.
-/

namespace SafariLaundry

open Library Library.Bookkeeping List

inductive CanonicalDebtSource
  | JOURNAL_AR | PARTIAL_PAYMENT_REMAINING | JOURNAL_AR_FALLBACK

structure CanonicalDebtSnapshot where
  customerId : Uuid
  (canonicalDebtKd remainingFromInvoicesKd : ℤ)
  journalArKd : Option ℤ
  source : CanonicalDebtSource
  inScopeOrderIds : Finset Uuid

/-- `getCustomerDebtFromJournalAR`, which may throw. -/
abbrev JournalReader := Uuid → Except ServiceError ℤ

def Order.InCollection (order : Order) : Prop :=
  order.status ≠ .CANCELED ∧
    (order.cashStatus = .UNPAID ∨ order.posPaymentMethod = .DEBT_ON_ACCOUNT)
  deriving Decidable

/-- The running sum and the orders still counted. -/
structure CollectionScope where
  remaining : ℤ
  orderIds : Finset Uuid

namespace CollectionScope

/-- One order of the single version: out of the set if nothing is open on it. -/
def drop (remainingByOrder : Uuid → Option ℤ) (scope : CollectionScope) (orderId : Uuid) :
    CollectionScope :=
  match remainingByOrder orderId with
  | none => scope
  | some rem =>
      if rem ≤ invoiceRemainingTolerance then
        { scope with orderIds := scope.orderIds.erase orderId }
      else { scope with remaining := scope.remaining + rem }

/-- One order of the batch version: into the set if something is open on it. -/
def keep (remainingByOrder : Uuid → Option ℤ) (scope : CollectionScope) (orderId : Uuid) :
    CollectionScope :=
  match remainingByOrder orderId with
  | none => scope
  | some rem =>
      if rem ≤ invoiceRemainingTolerance then scope
      else ⟨scope.remaining + rem, insert orderId scope.orderIds⟩

end CollectionScope

/-- The orders in which the two queries of one read return their rows: the one that lists
the orders in collection, and the one that asks for them again for what remains on them. -/
structure ScopeOrders where
  (listed remaining : RowOrder Order)

def inScopeRows (order : RowOrder Order) (wanted : Uuid → Prop) [DecidablePred wanted]
    (db : Db) : List Order :=
  order.arrange (db.orders.rows.filter fun row => wanted row.customerId ∧ row.InCollection)

def customerScope (env : Env) (orders : ScopeOrders) (customerId : Uuid) (db : Db) :
    CollectionScope :=
  let orderIds := (inScopeRows orders.listed (fun id => id = customerId) db).map Order.id
  let remainingByOrder :=
    computeOrderRemainingBalancesBatch env (db.ordersAs orders.remaining) orderIds
  orderIds.foldl (CollectionScope.drop remainingByOrder) ⟨0, orderIds.toFinset⟩

def computeCanonicalCustomerDebt (env : Env) (orders : ScopeOrders) (db : Db)
    (journal : Option JournalReader) (customerId : Uuid) : CanonicalDebtSnapshot :=
  let scope := customerScope env orders customerId db
  let snapshot (source : CanonicalDebtSource) (journalArKd : Option ℤ) :
      CanonicalDebtSnapshot :=
    { customerId := customerId
      canonicalDebtKd := max 0 (journalArKd.getD scope.remaining)
      remainingFromInvoicesKd := scope.remaining
      journalArKd := journalArKd
      source := source
      inScopeOrderIds := scope.orderIds }
  match journal with
  | none => snapshot .PARTIAL_PAYMENT_REMAINING none
  | some read =>
      match read customerId with
      | .ok balance => snapshot .JOURNAL_AR (some balance)
      | .error _ => snapshot .JOURNAL_AR_FALLBACK none

def rowsByCustomer (rows : List Order) : Uuid → List Order :=
  rows.foldl (fun buckets row =>
    if row.customerId = "" then buckets
    else Function.update buckets row.customerId (buckets row.customerId ++ [row])) fun _ => []

def batchScope (env : Env) (orders : ScopeOrders) (customerIds : List Uuid)
    (customerId : Uuid) (db : Db) : CollectionScope :=
  let rows := inScopeRows orders.listed (fun id => id ∈ requestedIds customerIds) db
  let remainingByOrder := computeOrderRemainingBalancesBatch env
    (db.ordersAs orders.remaining) (rows.map Order.id)
  ((rowsByCustomer rows customerId).map Order.id).foldl
    (CollectionScope.keep remainingByOrder) ⟨0, ∅⟩

def computeCanonicalCustomerDebtBatch (env : Env) (orders : ScopeOrders) (db : Db)
    (customerIds : List Uuid) (journalArByCustomer : Option BalanceMap) (customerId : Uuid) :
    Option CanonicalDebtSnapshot :=
  let scope := batchScope env orders customerIds customerId db
  let snapshot (source : CanonicalDebtSource) (journalArKd : Option ℤ) :
      CanonicalDebtSnapshot :=
    { customerId := customerId
      canonicalDebtKd := max 0 (journalArKd.getD scope.remaining)
      remainingFromInvoicesKd := scope.remaining
      journalArKd := journalArKd
      source := source
      inScopeOrderIds := scope.orderIds }
  if customerId ∈ requestedIds customerIds then
    match journalArByCustomer with
    | none => some (snapshot .PARTIAL_PAYMENT_REMAINING none)
    | some balances => some (snapshot .JOURNAL_AR (some ((balances customerId).getD 0)))
  else none

def OpenIn (remainingByOrder : Uuid → Option ℤ) (orderId : Uuid) : Prop :=
  invoiceRemainingTolerance < (remainingByOrder orderId).getD 0
  deriving Decidable

def amountInScope (remainingByOrder : Uuid → Option ℤ) (orderId : Uuid) : ℤ :=
  if OpenIn remainingByOrder orderId then (remainingByOrder orderId).getD 0 else 0

variable {remainingByOrder : Uuid → Option ℤ} {orderId : Uuid}

theorem openIn_iff {rem : ℤ} (hrem : remainingByOrder orderId = some rem) :
    OpenIn remainingByOrder orderId ↔ ¬ rem ≤ invoiceRemainingTolerance := by
  unfold OpenIn
  rw [hrem, Option.getD_some, not_le]

theorem not_openIn_of_none (hrem : remainingByOrder orderId = none) :
    ¬ OpenIn remainingByOrder orderId := by
  unfold OpenIn
  rw [hrem]
  decide

theorem amountInScope_congr {first second : Uuid → Option ℤ}
    (hsame : first orderId = second orderId) :
    amountInScope first orderId = amountInScope second orderId := by
  have hopen : OpenIn first orderId ↔ OpenIn second orderId := by
    unfold OpenIn
    rw [hsame]
  exact if_congr hopen (by rw [hsame]) rfl

theorem foldl_keep (remainingByOrder : Uuid → Option ℤ) (scope : CollectionScope)
    (orderIds : List Uuid) :
    orderIds.foldl (CollectionScope.keep remainingByOrder) scope =
      ⟨scope.remaining + tally (amountInScope remainingByOrder) orderIds,
        scope.orderIds ∪ orderIds.toFinset.filter (OpenIn remainingByOrder)⟩ := by
  induction orderIds generalizing scope with
  | nil => simp
  | cons orderId rest ih =>
      have hstep : CollectionScope.keep remainingByOrder scope orderId =
          ⟨scope.remaining + amountInScope remainingByOrder orderId,
            if OpenIn remainingByOrder orderId then insert orderId scope.orderIds
            else scope.orderIds⟩ := by
        unfold CollectionScope.keep amountInScope
        cases hrem : remainingByOrder orderId with
        | none =>
            have hclosed := not_openIn_of_none hrem
            rw [if_neg hclosed, if_neg hclosed, add_zero]
        | some rem =>
            by_cases hopen : OpenIn remainingByOrder orderId
            · rw [if_pos hopen, if_pos hopen, Option.getD_some]
              exact if_neg ((openIn_iff hrem).1 hopen)
            · rw [if_neg hopen, if_neg hopen, add_zero]
              exact if_pos (not_not.1 fun hne => hopen ((openIn_iff hrem).2 hne))
      rw [foldl_cons, hstep, ih, tally_cons, add_assoc, toFinset_cons,
        Finset.filter_insert]
      by_cases hopen : OpenIn remainingByOrder orderId
      · rw [if_pos hopen, if_pos hopen, Finset.insert_union, Finset.union_insert]
      · rw [if_neg hopen, if_neg hopen]

theorem foldl_drop (remainingByOrder : Uuid → Option ℤ) (scope : CollectionScope)
    (orderIds : List Uuid) (hknown : ∀ id ∈ orderIds, (remainingByOrder id).isSome) :
    orderIds.foldl (CollectionScope.drop remainingByOrder) scope =
      ⟨scope.remaining + tally (amountInScope remainingByOrder) orderIds,
        scope.orderIds.filter fun id => id ∈ orderIds → OpenIn remainingByOrder id⟩ := by
  induction orderIds generalizing scope with
  | nil => simp
  | cons orderId rest ih =>
      have hstep : CollectionScope.drop remainingByOrder scope orderId =
          ⟨scope.remaining + amountInScope remainingByOrder orderId,
            if OpenIn remainingByOrder orderId then scope.orderIds
            else scope.orderIds.erase orderId⟩ := by
        obtain ⟨rem, hrem⟩ := Option.isSome_iff_exists.1 (hknown orderId (mem_cons_self ..))
        unfold CollectionScope.drop amountInScope
        by_cases hopen : OpenIn remainingByOrder orderId
        · rw [if_pos hopen, if_pos hopen]
          simp only [hrem, Option.getD_some]
          exact if_neg ((openIn_iff hrem).1 hopen)
        · rw [if_neg hopen, if_neg hopen, add_zero]
          simp only [hrem]
          exact if_pos (not_not.1 fun hne => hopen ((openIn_iff hrem).2 hne))
      rw [foldl_cons, hstep, ih _ fun id hid => hknown id (mem_cons_of_mem _ hid),
        tally_cons, add_assoc]
      congr 1
      ext id
      by_cases hopen : OpenIn remainingByOrder orderId
      · rw [if_pos hopen]
        by_cases hsame : id = orderId
        · subst hsame
          simp [hopen]
        · simp [hsame]
      · rw [if_neg hopen]
        by_cases hsame : id = orderId
        · subst hsame
          simp [hopen]
        · simp [hsame]

/-! ## The same rows, the same amounts -/

theorem remainingBatch_congr {env : Env} {db : Db} {order : Order} {orderIds orderIds' : List Uuid}
    (hmem : order ∈ db.orders.rows) (hbatch : order.id ∈ orderIds)
    (hbatch' : order.id ∈ orderIds')
    (hsame : ∀ other ∈ db.orders.rows, other.customerId = order.customerId →
      (other.id ∈ orderIds ↔ other.id ∈ orderIds')) :
    computeOrderRemainingBalancesBatch env db orderIds order.id =
      computeOrderRemainingBalancesBatch env db orderIds' order.id := by
  obtain ⟨before, after, hrows⟩ := append_of_mem hmem
  rw [remainingBatch_eq hrows hbatch, remainingBatch_eq hrows hbatch']
  have hnets : netsOf order.customerId db.journal (before.filter fun other => other.id ∈ orderIds) =
      netsOf order.customerId db.journal (before.filter fun other => other.id ∈ orderIds') := by
    unfold netsOf
    rw [filter_filter, filter_filter]
    congr 1
    apply filter_congr
    intro other hother
    have hrow : other ∈ db.orders.rows := by
      rw [hrows]
      exact mem_append_left _ hother
    by_cases htracked : Tracked order.customerId db.journal other
    · have hiff := hsame other hrow htracked.2.1
      simp only [htracked, decide_true, Bool.true_and, hiff]
    · simp only [htracked, decide_false, Bool.false_and]
  rw [hnets]

theorem rowsByCustomer_apply {customerId : Uuid} (hid : customerId ≠ "") (rows : List Order) :
    rowsByCustomer rows customerId = rows.filter fun row => row.customerId = customerId := by
  have hfold : ∀ (rest : List Order) (buckets : Uuid → List Order),
      rest.foldl (fun buckets row =>
        if row.customerId = "" then buckets
        else Function.update buckets row.customerId (buckets row.customerId ++ [row]))
          buckets customerId =
        buckets customerId ++ rest.filter fun row => row.customerId = customerId := by
    intro rest
    induction rest with
    | nil =>
        intro buckets
        exact (append_nil _).symm
    | cons row rest ih =>
        intro buckets
        rw [foldl_cons, ih]
        by_cases howned : row.customerId = customerId
        · rw [if_neg (howned ▸ hid), filter_cons_of_pos (by simpa using howned), ← howned,
            Function.update_self, append_assoc]
          rfl
        · rw [filter_cons_of_neg (by simpa using howned)]
          by_cases hblank : row.customerId = ""
          · rw [if_pos hblank]
          · rw [if_neg hblank, Function.update_of_ne (Ne.symm howned)]
  exact hfold rows fun _ => []

theorem mem_inScopeRows {order : RowOrder Order} {wanted : Uuid → Prop}
    [DecidablePred wanted] {db : Db} {row : Order} :
    row ∈ inScopeRows order wanted db ↔
      row ∈ db.orders.rows ∧ wanted row.customerId ∧ row.InCollection := by
  unfold inScopeRows
  rw [(order.perm _).mem_iff, mem_filter, decide_eq_true_iff]

theorem id_mem_inScopeRows {order : RowOrder Order} {wanted : Uuid → Prop}
    [DecidablePred wanted] {db : Db} {row : Order} (hrow : row ∈ db.orders.rows) :
    row.id ∈ (inScopeRows order wanted db).map Order.id ↔
      wanted row.customerId ∧ row.InCollection := by
  constructor
  · intro hlisted
    obtain ⟨found, hfound, hkey⟩ := mem_map.1 hlisted
    obtain ⟨hstored, hkept⟩ := mem_inScopeRows.1 hfound
    have hsame : found = row := inj_on_of_nodup_map db.orders.keysDistinct hstored hrow hkey
    exact hsame ▸ hkept
  · intro hkept
    exact mem_map_of_mem (mem_inScopeRows.2 ⟨hrow, hkept⟩)

def collectedIds (customerId : Uuid) (db : Db) : List Uuid :=
  (db.orders.rows.filter fun row => row.customerId = customerId ∧ row.InCollection).map Order.id

/-- What remains on the orders in collection when the second query returns them like this. -/
def collectedLeft (env : Env) (remaining : RowOrder Order) (customerId : Uuid) (db : Db) :
    Uuid → Option ℤ :=
  computeOrderRemainingBalancesBatch env (db.ordersAs remaining) (collectedIds customerId db)

/-- What a read adds up from it. -/
def scopeFor (env : Env) (remaining : RowOrder Order) (customerId : Uuid) (db : Db) :
    CollectionScope :=
  let orderIds := collectedIds customerId db
  let remainingByOrder := collectedLeft env remaining customerId db
  ⟨tally (amountInScope remainingByOrder) orderIds,
    orderIds.toFinset.filter (OpenIn remainingByOrder)⟩

theorem scopeFor_eq {env : Env} {remaining : RowOrder Order} {customerId : Uuid} {db : Db}
    {remainingByOrder : Uuid → Option ℤ} {orderIds : List Uuid}
    (hids : orderIds.Perm (collectedIds customerId db))
    (hamounts : ∀ id ∈ collectedIds customerId db, remainingByOrder id =
      collectedLeft env remaining customerId db id) :
    scopeFor env remaining customerId db = ⟨tally (amountInScope remainingByOrder) orderIds,
        orderIds.toFinset.filter (OpenIn remainingByOrder)⟩ := by
  unfold scopeFor
  dsimp only
  congr 1
  · rw [tally_perm _ hids]
    apply tally_congr
    intro id hid
    exact amountInScope_congr (hamounts id hid).symm
  · ext id
    rw [Finset.mem_filter, Finset.mem_filter, mem_toFinset, mem_toFinset, hids.mem_iff]
    unfold OpenIn
    constructor
    · rintro ⟨hid, hopen⟩
      exact ⟨hid, hamounts id hid ▸ hopen⟩
    · rintro ⟨hid, hopen⟩
      exact ⟨hid, hamounts id hid ▸ hopen⟩

section SameCustomer

variable {env : Env} {db : Db} {customer : CustomerKey} {customerIds : List Uuid}
  {customerId : Uuid}

theorem mem_collectedIds {row : Order} (hrow : row ∈ db.orders.rows) :
    row.id ∈ collectedIds customerId db ↔ row.customerId = customerId ∧ row.InCollection :=
  @id_mem_inScopeRows ⟨id, fun _ => List.Perm.refl _⟩ (fun id => id = customerId) _ db row hrow

theorem inScope_amounts (order : RowOrder Order) {remaining : RowOrder Order}
    (wanted : Uuid → Prop) [DecidablePred wanted] (hwanted : wanted customerId) :
    ∀ id ∈ collectedIds customerId db,
      computeOrderRemainingBalancesBatch env (db.ordersAs remaining)
          ((inScopeRows order wanted db).map Order.id) id =
        collectedLeft env remaining customerId db id := by
  intro id hid
  obtain ⟨row, hrow, rfl⟩ := mem_map.1 hid
  obtain ⟨hstored, hkept⟩ := mem_filter.1 hrow
  obtain ⟨rfl, hcollected⟩ := of_decide_eq_true hkept
  apply remainingBatch_congr (RowOrder.mem_arrange.2 hstored) _ hid
  · intro other hother hsame
    have hother := RowOrder.mem_arrange.1 hother
    rw [id_mem_inScopeRows hother, mem_collectedIds hother, hsame]
    simp only [hwanted, true_and]
  · exact (id_mem_inScopeRows hstored).2 ⟨hwanted, hcollected⟩

theorem batchScope_eq (hmem : customer.id ∈ customerIds) (orders : ScopeOrders) :
    batchScope env orders customerIds customer.id db =
      scopeFor env orders.remaining customer.id db := by
  have hbucket : (rowsByCustomer (inScopeRows orders.listed
      (fun id => id ∈ requestedIds customerIds) db) customer.id).Perm
      (db.orders.rows.filter fun row => row.customerId = customer.id ∧ row.InCollection) := by
    rw [rowsByCustomer_apply customer.ne_empty]
    apply (RowOrder.filter_arrange_perm orders.listed orders.listed fun row => ?_).trans
      (orders.listed.perm _)
    constructor
    · rintro ⟨howned, -, hcollected⟩
      exact ⟨howned, hcollected⟩
    · rintro ⟨howned, hcollected⟩
      exact ⟨howned, howned ▸ mem_requestedIds hmem, hcollected⟩
  unfold batchScope
  rw [foldl_keep, scopeFor_eq (hbucket.map Order.id) (inScope_amounts orders.listed
    (fun id => id ∈ requestedIds customerIds) (mem_requestedIds hmem))]
  simp only [zero_add, Finset.empty_union]

theorem customerScope_eq (orders : ScopeOrders) :
    customerScope env orders customerId db = scopeFor env orders.remaining customerId db := by
  have hids : ((inScopeRows orders.listed (fun id => id = customerId) db).map Order.id).Perm
      (collectedIds customerId db) :=
    (orders.listed.perm _).map Order.id
  have hsome : ∀ id ∈ (inScopeRows orders.listed (fun id => id = customerId) db).map Order.id,
      (computeOrderRemainingBalancesBatch env (db.ordersAs orders.remaining)
        ((inScopeRows orders.listed (fun id => id = customerId) db).map Order.id) id).isSome := by
    intro id hid
    obtain ⟨row, hrow, rfl⟩ := mem_map.1 hid
    have hstored : row ∈ (db.ordersAs orders.remaining).orders.rows :=
      RowOrder.mem_arrange.2 (mem_inScopeRows.1 hrow).1
    obtain ⟨before, after, hrows⟩ := append_of_mem hstored
    rw [remainingBatch_eq hrows hid]
    rfl
  unfold customerScope
  rw [foldl_drop _ _ _ hsome, scopeFor_eq hids
    (inScope_amounts orders.listed (fun id => id = customerId) rfl)]
  simp only [zero_add]
  congr 1
  ext id
  simp only [Finset.mem_filter, mem_toFinset]
  exact ⟨fun hid => ⟨hid.1, hid.2 hid.1⟩, fun hid => ⟨hid.1, fun _ => hid.2⟩⟩

end SameCustomer

/-! ## Where the credits fall -/

def collectedNets (customerId : Uuid) (db : Db) (rows : List Order) : List (Uuid × ℤ) :=
  netsOf customerId db.journal (rows.filter fun row => row.InCollection)

/-- What a row keeps behind these rows of the queue. -/
def leftBehind (env : Env) (db : Db) (before : List Order) (row : Order) : ℤ :=
  if JournalDecides env db.journal row then
    leftOpen (orderReceivable row.id db.journal) (unlinkedCredits row.customerId db.journal)
      (owedTogether (collectedNets row.customerId db before))
  else 0

/-- The unlinked credits fall the same way whatever order the customer's orders come in: there
are none of them, they pay all orders together or none is worth counting, or no order is small
enough to be paid by them. -/
def CreditsSettled (env : Env) (db : Db) (customerId : Uuid) : Prop :=
  let credits := unlinkedCredits customerId db.journal
  let nets := collectedNets customerId db db.orders.rows
  isJournalAsSourceEnabled env = false ∨ credits = 0 ∨
    owedTogether nets ≤ credits + invoiceRemainingTolerance ∨
    (∀ entry ∈ nets, entry.2 ≤ invoiceRemainingTolerance) ∨
    ∀ entry ∈ nets, entry.2 ≤ 0 ∨ credits + invoiceRemainingTolerance < entry.2
  deriving Decidable

section Queue

variable {env : Env} {db : Db} {customerId : Uuid} {remaining : RowOrder Order}
  {before after : List Order} {row : Order}

theorem collectedNets_append (customerId : Uuid) (db : Db) (first second : List Order) :
    collectedNets customerId db (first ++ second) =
      collectedNets customerId db first ++ collectedNets customerId db second := by
  unfold collectedNets
  rw [filter_append, netsOf_append]

theorem mem_collectedNets {rows : List Order} (hrow : row ∈ rows) (hcollected : row.InCollection)
    (hjournal : HasReceivableLine row.id db.journal) :
    (row.id, orderReceivable row.id db.journal) ∈ collectedNets row.customerId db rows := by
  have hkept : row ∈ rows.filter fun row => row.InCollection :=
    mem_filter.2 ⟨hrow, decide_eq_true hcollected⟩
  have htracked : Tracked row.customerId db.journal row := ⟨hcollected.1, rfl, hjournal⟩
  exact mem_map.2 ⟨row, mem_filter.2 ⟨hkept, decide_eq_true htracked⟩, rfl⟩

theorem exists_of_mem_collectedNets {rows : List Order} {entry : Uuid × ℤ}
    (hentry : entry ∈ collectedNets customerId db rows) :
    ∃ row ∈ rows, row.customerId = customerId ∧ row.InCollection ∧
      HasReceivableLine row.id db.journal ∧ entry.2 = orderReceivable row.id db.journal := by
  obtain ⟨row, hrow, rfl⟩ := mem_map.1 hentry
  obtain ⟨hkept, htracked⟩ := mem_filter.1 hrow
  obtain ⟨hmem, hcollected⟩ := mem_filter.1 hkept
  obtain ⟨-, howned, hjournal⟩ := of_decide_eq_true htracked
  exact ⟨row, hmem, howned, of_decide_eq_true hcollected, hjournal, rfl⟩

theorem le_owedTogether {entry : Uuid × ℤ} {nets : List (Uuid × ℤ)} (hentry : entry ∈ nets) :
    entry.2 ≤ owedTogether nets := by
  obtain ⟨first, second, rfl⟩ := append_of_mem hentry
  have hfirst := owedTogether_nonneg first
  have hsecond := owedTogether_nonneg second
  have htotal : owedTogether (first ++ entry :: second) =
      owedTogether first + (max 0 entry.2 + owedTogether second) :=
    tally_append _ first _
  omega

theorem remaining_behind (env : Env) (hrows : remaining.arrange db.orders.rows = before ++ row :: after)
    (hcollected : row.InCollection) :
    collectedLeft env remaining row.customerId db row.id = some (leftBehind env db before row) := by
  have hstored : ∀ other ∈ before ++ row :: after, other ∈ db.orders.rows := fun other hother =>
    RowOrder.mem_arrange.1 (hrows ▸ hother)
  have hbatch : row.id ∈ collectedIds row.customerId db :=
    (mem_collectedIds (hstored row (by simp))).2 ⟨rfl, hcollected⟩
  have hnets : netsOf row.customerId db.journal
      (before.filter fun other => other.id ∈ collectedIds row.customerId db) =
        collectedNets row.customerId db before := by
    unfold collectedNets netsOf
    rw [filter_filter, filter_filter]
    congr 1
    apply filter_congr
    intro other hother
    have hlisted := @mem_collectedIds db row.customerId other
      (hstored other (mem_append_left _ hother))
    by_cases htracked : Tracked row.customerId db.journal other
    · simp only [htracked, hlisted, htracked.2.1, true_and]
    · simp only [htracked, decide_false, Bool.false_and]
  exact (remainingBatch_eq hrows hbatch).trans (congrArg some (by unfold leftBehind; rw [← hnets]; rfl))

theorem leftBehind_nonneg (env : Env) (db : Db) (before : List Order) (row : Order) :
    0 ≤ leftBehind env db before row := by
  unfold leftBehind leftOpen
  split_ifs <;> omega

theorem owedTogether_singleton (db : Db) (hcollected : row.InCollection) :
    owedTogether (collectedNets row.customerId db [row]) =
      if HasReceivableLine row.id db.journal then max 0 (orderReceivable row.id db.journal)
      else 0 := by
  have hkept : [row].filter (fun row => row.InCollection) = [row] := by simp [hcollected]
  unfold collectedNets netsOf
  rw [hkept]
  by_cases hjournal : HasReceivableLine row.id db.journal
  · have htracked : Tracked row.customerId db.journal row := ⟨hcollected.1, rfl, hjournal⟩
    simp [htracked, hjournal]
  · have hout : ¬ Tracked row.customerId db.journal row := fun h => hjournal h.2.2
    simp [hout, hjournal]

/-- The queue as a whole leaves what the credits do not pay, whatever its order. -/
theorem tally_leftBehind (hsource : isJournalAsSourceEnabled env = true) (rows : List Order) :
    ∀ after, remaining.arrange db.orders.rows = rows ++ after →
      tally (fun row => if row.customerId = customerId ∧ row.InCollection then
        (collectedLeft env remaining customerId db row.id).getD 0 else 0) rows =
      max 0 (owedTogether (collectedNets customerId db rows) -
        unlinkedCredits customerId db.journal) := by
  have hcredits := unlinkedCredits_nonneg customerId db.journal
  induction rows using List.reverseRecOn with
  | nil =>
      intro after _
      change (0 : ℤ) = max 0 (0 - _)
      omega
  | append_singleton rows row ih =>
      intro after hrows
      have hsplit : remaining.arrange db.orders.rows = rows ++ row :: after := by
        rw [hrows, append_assoc]
        rfl
      have howed : owedTogether (collectedNets customerId db (rows ++ [row])) =
          owedTogether (collectedNets customerId db rows) +
            owedTogether (collectedNets customerId db [row]) := by
        rw [collectedNets_append]
        exact tally_append _ _ _
      have hbefore := owedTogether_nonneg (collectedNets customerId db rows)
      rw [tally_append, ih _ hsplit, tally_cons, tally_nil, howed]
      by_cases hkept : row.customerId = customerId ∧ row.InCollection
      · obtain ⟨rfl, hcollected⟩ := hkept
        rw [if_pos ⟨rfl, hcollected⟩, remaining_behind env hsplit hcollected, Option.getD_some,
          owedTogether_singleton db hcollected]
        unfold leftBehind leftOpen
        by_cases hjournal : HasReceivableLine row.id db.journal
        · have hdecides : JournalDecides env db.journal row := ⟨hcollected.1, hsource, hjournal⟩
          rw [if_pos hdecides, if_pos hjournal]
          omega
        · have hout : ¬ JournalDecides env db.journal row := fun h => hjournal h.2.2
          rw [if_neg hout, if_neg hjournal]
          omega
      · have hnone : collectedNets customerId db [row] = [] := by
          unfold collectedNets netsOf
          by_cases hcollected : row.InCollection
          · have hout : ¬ Tracked customerId db.journal row := fun h => hkept ⟨h.2.1, hcollected⟩
            simp [hcollected, hout]
          · simp [hcollected]
        rw [if_neg hkept, hnone, owedTogether_nil, add_zero, add_zero, add_zero]

variable {before : List Order} {row : Order}

theorem exists_split {id : Uuid} (hid : id ∈ collectedIds customerId db)
    (remaining : RowOrder Order) :
    ∃ before row after, remaining.arrange db.orders.rows = before ++ row :: after ∧
      row.id = id ∧ row.customerId = customerId ∧ row.InCollection := by
  obtain ⟨row, hrow, rfl⟩ := mem_map.1 hid
  obtain ⟨hstored, hkept⟩ := mem_filter.1 hrow
  obtain ⟨before, after, hrows⟩ := append_of_mem
    (RowOrder.mem_arrange.2 hstored : row ∈ remaining.arrange db.orders.rows)
  exact ⟨before, row, after, hrows, rfl, of_decide_eq_true hkept⟩

theorem openIn_behind (env : Env) {after : List Order}
    (hrows : remaining.arrange db.orders.rows = before ++ row :: after)
    (hcollected : row.InCollection) :
    OpenIn (collectedLeft env remaining row.customerId db) row.id ↔
        invoiceRemainingTolerance < leftBehind env db before row := by
  unfold OpenIn
  rw [remaining_behind env hrows hcollected, Option.getD_some]

theorem scopeFor_of_closed
    (hclosed : ∀ before row after, remaining.arrange db.orders.rows = before ++ row :: after →
      row.customerId = customerId → row.InCollection →
        leftBehind env db before row ≤ invoiceRemainingTolerance) :
    scopeFor env remaining customerId db = ⟨0, ∅⟩ := by
  have hnone : ∀ id ∈ collectedIds customerId db,
      ¬ OpenIn (collectedLeft env remaining customerId db) id := by
    intro id hid hopen
    obtain ⟨before, row, after, hrows, rfl, rfl, hcollected⟩ := exists_split hid remaining
    exact absurd ((openIn_behind env hrows hcollected).1 hopen)
      (not_lt.2 (hclosed before row after hrows rfl hcollected))
  unfold scopeFor
  dsimp only
  congr 1
  · exact tally_eq_zero _ fun id hid => if_neg (hnone id hid)
  · exact Finset.filter_eq_empty_iff.2 fun id hid => hnone id (mem_toFinset.1 hid)

theorem owedTogether_collected (db : Db) (customerId : Uuid) (remaining : RowOrder Order) :
    owedTogether (collectedNets customerId db (remaining.arrange db.orders.rows)) =
      owedTogether (collectedNets customerId db db.orders.rows) :=
  tally_perm _ ((((remaining.perm _).filter _).filter _).map _)

/-- Where every order that stands open at all stays open, all that the credits leave is open. -/
theorem remaining_of_large (hsource : isJournalAsSourceEnabled env = true)
    (hlarge : ∀ id ∈ collectedIds customerId db,
      ¬ OpenIn (collectedLeft env remaining customerId db) id →
      collectedLeft env remaining customerId db id = some 0) :
    (scopeFor env remaining customerId db).remaining =
      max 0 (owedTogether (collectedNets customerId db db.orders.rows) -
        unlinkedCredits customerId db.journal) := by
  have hamount : ∀ id ∈ collectedIds customerId db,
      amountInScope (collectedLeft env remaining customerId db) id =
      (collectedLeft env remaining customerId db id).getD 0 := by
    intro id hid
    unfold amountInScope
    split_ifs with hopen
    · rfl
    · rw [hlarge id hid hopen]
      rfl
  have htotal := @tally_leftBehind env db customerId remaining hsource
    (remaining.arrange db.orders.rows) [] (append_nil _).symm
  rw [owedTogether_collected, tally_perm _ (remaining.perm _), ← tally_filter] at htotal
  rw [← htotal]
  change tally _ (collectedIds customerId db) = _
  rw [tally_congr _ hamount]
  exact tally_map _ _ _

theorem mem_rows_of_split {after : List Order}
    (hrows : remaining.arrange db.orders.rows = before ++ row :: after) : row ∈ db.orders.rows :=
  RowOrder.mem_arrange.1 (hrows ▸ mem_append_right _ (mem_cons_self ..))

theorem scopeFor_of_no_credits (hnone : unlinkedCredits customerId db.journal = 0)
    (first second : RowOrder Order) :
    scopeFor env first customerId db = scopeFor env second customerId db := by
  have hsame : ∀ before before' row, unlinkedCredits row.customerId db.journal = 0 →
      leftBehind env db before row = leftBehind env db before' row := by
    intro before before' row hnone
    have hbefore := owedTogether_nonneg (collectedNets row.customerId db before)
    have hbefore' := owedTogether_nonneg (collectedNets row.customerId db before')
    unfold leftBehind leftOpen
    rw [hnone]
    congr 1
    omega
  unfold scopeFor
  apply scopeFor_eq (List.Perm.refl _)
  intro id hid
  obtain ⟨before, row, after, hrows, rfl, rfl, hcollected⟩ := exists_split hid first
  obtain ⟨before', row', after', hrows', hid', -, hcollected'⟩ := exists_split hid second
  have hrow : row' = row :=
    Table.row_eq_of_key_eq (mem_rows_of_split hrows') (mem_rows_of_split hrows) hid'
  subst hrow
  rw [remaining_behind env hrows hcollected, remaining_behind env hrows' hcollected,
    hsame before before' row' hnone]

theorem leftBehind_le_unpaid {after : List Order} (hcollected : row.InCollection) :
    leftBehind env db before row ≤
      max 0 (owedTogether (collectedNets row.customerId db (before ++ row :: after)) -
        unlinkedCredits row.customerId db.journal) := by
  have hsplit : owedTogether (collectedNets row.customerId db (before ++ row :: after)) =
      owedTogether (collectedNets row.customerId db before) +
        owedTogether (collectedNets row.customerId db (row :: after)) := by
    rw [collectedNets_append]
    exact tally_append _ _ _
  unfold leftBehind leftOpen
  split_ifs with hdecides
  · have hlast := le_owedTogether (mem_collectedNets (mem_cons_self : row ∈ row :: after)
      hcollected hdecides.2.2)
    dsimp only at hlast
    omega
  · omega

theorem leftBehind_le_net (hstored : row ∈ db.orders.rows) (hcollected : row.InCollection)
    {most : ℤ} (hpos : 0 ≤ most)
    (hmost : ∀ entry ∈ collectedNets row.customerId db db.orders.rows, entry.2 ≤ most) :
    leftBehind env db before row ≤ most := by
  unfold leftBehind leftOpen
  split_ifs with hdecides
  · have hp := hmost _ (mem_collectedNets hstored hcollected hdecides.2.2)
    dsimp only at hp
    omega
  · exact hpos

/-- No order is small enough to be paid by the credits: what is open at all stays open. -/
theorem openIn_of_large (hsource : isJournalAsSourceEnabled env = true)
    (hlarge : ∀ entry ∈ collectedNets customerId db db.orders.rows, entry.2 ≤ 0 ∨
      unlinkedCredits customerId db.journal + invoiceRemainingTolerance < entry.2)
    (remaining : RowOrder Order) {id : Uuid} (hid : id ∈ collectedIds customerId db) :
    (OpenIn (collectedLeft env remaining customerId db) id ↔
        HasReceivableLine id db.journal ∧ 0 < orderReceivable id db.journal) ∧
    (¬ OpenIn (collectedLeft env remaining customerId db) id →
        collectedLeft env remaining customerId db id = some 0) := by
  have htol : (0 : ℤ) < invoiceRemainingTolerance := by decide
  have hcredits := unlinkedCredits_nonneg customerId db.journal
  obtain ⟨before, row, after, hrows, rfl, rfl, hcollected⟩ := exists_split hid remaining
  have hbefore := owedTogether_nonneg (collectedNets row.customerId db before)
  rw [openIn_behind env hrows hcollected, remaining_behind env hrows hcollected, Option.some.injEq]
  unfold leftBehind leftOpen
  by_cases hjournal : HasReceivableLine row.id db.journal
  · have hp := hlarge _ (mem_collectedNets (mem_rows_of_split hrows) hcollected hjournal)
    have hdecides : JournalDecides env db.journal row := ⟨hcollected.1, hsource, hjournal⟩
    dsimp only at hp
    rw [if_pos hdecides]
    simp only [hjournal, true_and]
    omega
  · have hout : ¬ JournalDecides env db.journal row := fun h => hjournal h.2.2
    rw [if_neg hout]
    exact ⟨iff_of_false (not_lt.2 htol.le) fun h => hjournal h.1, fun _ => rfl⟩

theorem scopeFor_of_settled (hsettled : CreditsSettled env db customerId)
    (first second : RowOrder Order) :
    scopeFor env first customerId db = scopeFor env second customerId db := by
  have htol : (0 : ℤ) < invoiceRemainingTolerance := by decide
  have hclosed : (∀ (arrival : RowOrder Order) before row after,
      arrival.arrange db.orders.rows = before ++ row :: after → row.customerId = customerId →
        row.InCollection → leftBehind env db before row ≤ invoiceRemainingTolerance) →
      scopeFor env first customerId db = scopeFor env second customerId db := fun hleft =>
    (scopeFor_of_closed (hleft first)).trans (scopeFor_of_closed (hleft second)).symm
  by_cases hsource : isJournalAsSourceEnabled env = true
  · rcases hsettled with hoff | hnone | htotal | hsmall | hlarge
    · exact absurd hsource (by rw [hoff]; decide)
    · exact scopeFor_of_no_credits hnone first second
    · apply hclosed
      rintro arrival before row after hrows rfl hcollected
      have hunpaid := @leftBehind_le_unpaid env db before row after hcollected
      rw [← hrows, owedTogether_collected] at hunpaid
      omega
    · apply hclosed
      rintro arrival before row after hrows rfl hcollected
      exact leftBehind_le_net (mem_rows_of_split hrows) hcollected htol.le hsmall
    · have hopen := fun remaining id => @openIn_of_large env db customerId hsource hlarge remaining id
      apply congrArg₂ CollectionScope.mk
      · exact (remaining_of_large hsource fun id hid => (hopen first id hid).2).trans
          (remaining_of_large hsource fun id hid => (hopen second id hid).2).symm
      · apply Finset.filter_congr
        intro id hid
        have hid := mem_toFinset.1 hid
        exact (hopen first id hid).1.trans (hopen second id hid).1.symm
  · apply hclosed
    intro arrival before row after _ _ _
    unfold leftBehind
    rw [if_neg fun h => hsource h.2.1]
    exact htol.le

/-! ## Two orders that tell them apart -/

theorem amountInScope_behind {after : List Order}
    (hrows : remaining.arrange db.orders.rows = before ++ row :: after)
    (hcollected : row.InCollection) :
    amountInScope (collectedLeft env remaining row.customerId db) row.id =
        if invoiceRemainingTolerance < leftBehind env db before row then
          leftBehind env db before row else 0 := by
  unfold amountInScope
  rw [remaining_behind env hrows hcollected, Option.getD_some]
  exact if_congr (openIn_behind env hrows hcollected) rfl rfl

/-- An order that the credits pay when it comes first stays open when it comes last. -/
theorem exists_scopeFor_ne_of_middle (hstored : row ∈ db.orders.rows)
    (hcollected : row.InCollection) (hdecides : JournalDecides env db.journal row)
    (hlow : invoiceRemainingTolerance < orderReceivable row.id db.journal)
    (hhigh : orderReceivable row.id db.journal ≤
      unlinkedCredits row.customerId db.journal + invoiceRemainingTolerance)
    (htotal : unlinkedCredits row.customerId db.journal + invoiceRemainingTolerance <
      owedTogether (collectedNets row.customerId db db.orders.rows)) :
    ∃ first second : RowOrder Order,
      scopeFor env first row.customerId db ≠ scopeFor env second row.customerId db := by
  have hcredits := unlinkedCredits_nonneg row.customerId db.journal
  have htol : (0 : ℤ) < invoiceRemainingTolerance := by decide
  have hlisted : row.id ∈ (collectedIds row.customerId db).toFinset :=
    mem_toFinset.2 ((mem_collectedIds hstored).2 ⟨rfl, hcollected⟩)
  have hfirst : (RowOrder.leading row).arrange db.orders.rows = [] ++ row :: db.orders.rows.erase row :=
    RowOrder.leading_arrange hstored
  have hlast : (RowOrder.leading row).reversed.arrange db.orders.rows =
      (db.orders.rows.erase row).reverse ++ row :: [] := by
    change ((RowOrder.leading row).arrange db.orders.rows).reverse = _
    rw [hfirst, nil_append, reverse_cons]
  refine ⟨.leading row, (RowOrder.leading row).reversed, fun hsame => ?_⟩
  have hids := congrArg (fun scope : CollectionScope => row.id ∈ scope.orderIds) hsame
  have hopen : leftBehind env db [] row ≤ invoiceRemainingTolerance := by
    unfold leftBehind leftOpen
    rw [if_pos hdecides]
    change max 0 (_ - max 0 (min (_ - 0) _)) ≤ _
    omega
  have hbehind : invoiceRemainingTolerance <
      leftBehind env db (db.orders.rows.erase row).reverse row := by
    have hsplit : owedTogether (collectedNets row.customerId db db.orders.rows) =
        owedTogether (collectedNets row.customerId db (db.orders.rows.erase row).reverse) +
          max 0 (orderReceivable row.id db.journal) := by
      rw [← owedTogether_collected db row.customerId (RowOrder.leading row).reversed, hlast,
        collectedNets_append]
      refine (tally_append _ _ _).trans (congrArg _ ?_)
      exact (owedTogether_singleton db hcollected).trans (if_pos hdecides.2.2)
    have hbefore := owedTogether_nonneg
      (collectedNets row.customerId db (db.orders.rows.erase row).reverse)
    unfold leftBehind leftOpen
    rw [if_pos hdecides]
    omega
  unfold scopeFor at hids
  simp only [Finset.mem_filter, hlisted, true_and, eq_iff_iff,
    openIn_behind env hfirst hcollected, openIn_behind env hlast hcollected] at hids
  exact absurd (hids.2 hbehind) (not_lt.2 hopen)

/-- Behind an order that takes all the credits every other one keeps what it owes. -/
theorem leftBehind_of_served {served : Order} (hserved : served ∈ before)
    (howned : row.customerId = served.customerId) (hcollected : served.InCollection)
    (hjournal : HasReceivableLine served.id db.journal)
    (hlarge : unlinkedCredits served.customerId db.journal ≤ orderReceivable served.id db.journal) :
    leftBehind env db before row =
      if JournalDecides env db.journal row then max 0 (orderReceivable row.id db.journal) else 0 := by
  have hbefore := le_owedTogether (mem_collectedNets hserved hcollected hjournal)
  dsimp only at hbefore
  unfold leftBehind leftOpen
  rw [howned]
  split_ifs
  · omega
  · rfl

/-- Credits that are worth nothing to a small order close part of a large one if they reach it
first. -/
theorem exists_scopeFor_ne_of_small {large small : Order} (hlarge : large ∈ db.orders.rows)
    (hsmall : small ∈ db.orders.rows) (howned : small.customerId = large.customerId)
    (hlargeIn : large.InCollection) (hsmallIn : small.InCollection)
    (hdecides : JournalDecides env db.journal large)
    (hjournal : HasReceivableLine small.id db.journal)
    (hcredits : unlinkedCredits large.customerId db.journal ≠ 0)
    (hpos : 0 < orderReceivable small.id db.journal)
    (hlow : orderReceivable small.id db.journal ≤ invoiceRemainingTolerance)
    (hhigh : unlinkedCredits large.customerId db.journal + invoiceRemainingTolerance <
      orderReceivable large.id db.journal) :
    ∃ first second : RowOrder Order,
      scopeFor env first large.customerId db ≠ scopeFor env second large.customerId db := by
  have hnonneg := unlinkedCredits_nonneg large.customerId db.journal
  have htol : (0 : ℤ) < invoiceRemainingTolerance := by decide
  have hne : large ≠ small := by
    rintro rfl
    omega
  let second := (RowOrder.leading large).andThen (.leading small)
  have hfirst : (RowOrder.leading large).arrange db.orders.rows =
      [] ++ large :: db.orders.rows.erase large :=
    RowOrder.leading_arrange hlarge
  have hsecond : second.arrange db.orders.rows =
      [small] ++ large :: (db.orders.rows.erase large).erase small := by
    change (RowOrder.leading small).arrange ((RowOrder.leading large).arrange _) = _
    rw [hfirst, nil_append, RowOrder.leading_arrange (mem_cons_of_mem _
      ((mem_erase_of_ne hne.symm).2 hsmall)), erase_cons_tail (by simpa using hne)]
    rfl
  have hstrict : amountInScope (collectedLeft env (.leading large) large.customerId db) large.id <
      amountInScope (collectedLeft env second large.customerId db) large.id := by
    have hone : owedTogether (collectedNets large.customerId db [small]) =
        max 0 (orderReceivable small.id db.journal) := by
      rw [← howned, owedTogether_singleton db hsmallIn, if_pos hjournal]
    rw [amountInScope_behind hfirst hlargeIn, amountInScope_behind hsecond hlargeIn]
    unfold leftBehind leftOpen
    rw [if_pos hdecides, if_pos hdecides, hone]
    change (if _ < max 0 (_ - max 0 (min (_ - 0) _)) then max 0 (_ - max 0 (min (_ - 0) _))
      else 0) < _
    split_ifs <;> omega
  refine ⟨.leading large, second, fun hsame => ?_⟩
  apply absurd (congrArg CollectionScope.remaining hsame) (ne_of_lt _)
  apply sum_lt_sum
  · intro id hid
    obtain ⟨before, row, after, hrows, rfl, hrow, hcollected⟩ := exists_split hid (.leading large)
    obtain ⟨before', row', after', hrows', hid', -, -⟩ := exists_split hid second
    have hsamerow : row' = row :=
      Table.row_eq_of_key_eq (mem_rows_of_split hrows') (mem_rows_of_split hrows) hid'
    subst hsamerow
    by_cases hself : row' = large
    · exact hself ▸ hstrict.le
    · rw [← hrow, amountInScope_behind hrows hcollected, amountInScope_behind hrows' hcollected]
      by_cases hkept : orderReceivable row'.id db.journal ≤ invoiceRemainingTolerance
      · have hclosed : ¬ invoiceRemainingTolerance < leftBehind env db before row' := by
          have hbefore := owedTogether_nonneg (collectedNets row'.customerId db before)
          unfold leftBehind leftOpen
          split_ifs <;> omega
        have hnext := leftBehind_nonneg env db before' row'
        rw [if_neg hclosed]
        split_ifs <;> omega
      · -- the large one stands before it in both orders
        have hbefore : large ∈ before := by
          rw [hfirst] at hrows
          cases before with
          | nil => exact absurd (List.cons.inj hrows).1.symm hself
          | cons head rest => exact (List.cons.inj hrows).1 ▸ mem_cons_self ..
        have hbefore' : large ∈ before' := by
          rw [hsecond] at hrows'
          match before', hrows' with
          | [], hrows' =>
              have hhead : small = row' := (List.cons.inj hrows').1
              exact absurd hlow (hhead ▸ hkept)
          | [_], hrows' => exact absurd (List.cons.inj (List.cons.inj hrows').2).1.symm hself
          | _ :: _ :: _, hrows' =>
              rw [(List.cons.inj (List.cons.inj hrows').2).1]
              exact mem_cons_of_mem _ (mem_cons_self ..)
        rw [leftBehind_of_served hbefore hrow hlargeIn hdecides.2.2 (by omega),
          leftBehind_of_served hbefore' hrow hlargeIn hdecides.2.2 (by omega)]
  · exact ⟨large.id, (mem_collectedIds hlarge).2 ⟨rfl, hlargeIn⟩, hstrict⟩

theorem exists_scopeFor_ne (hunsettled : ¬ CreditsSettled env db customerId) :
    ∃ first second : RowOrder Order,
      scopeFor env first customerId db ≠ scopeFor env second customerId db := by
  unfold CreditsSettled at hunsettled
  simp only [not_or, not_forall, not_le, not_lt, Bool.not_eq_false] at hunsettled
  obtain ⟨hsource, hcredits, htotal, ⟨first, hfirst, hfirstLow⟩, second, hsecond, hsecondPos,
    hsecondHigh⟩ := hunsettled
  obtain ⟨row, hstored, howned, hcollected, hjournal, hamount⟩ := exists_of_mem_collectedNets hfirst
  obtain ⟨other, hotherStored, hotherOwned, hotherIn, hotherJournal, hotherAmount⟩ :=
    exists_of_mem_collectedNets hsecond
  subst howned
  rw [hamount] at hfirstLow
  rw [hotherAmount] at hsecondPos hsecondHigh
  have hdecides : JournalDecides env db.journal row := ⟨hcollected.1, hsource, hjournal⟩
  have hotherDecides : JournalDecides env db.journal other :=
    ⟨hotherIn.1, hsource, hotherJournal⟩
  by_cases hmiddle : invoiceRemainingTolerance < orderReceivable other.id db.journal
  · rw [← hotherOwned] at hsecondHigh htotal ⊢
    exact exists_scopeFor_ne_of_middle hotherStored hotherIn hotherDecides hmiddle hsecondHigh
      htotal
  · by_cases hhigh : orderReceivable row.id db.journal ≤
        unlinkedCredits row.customerId db.journal + invoiceRemainingTolerance
    · exact exists_scopeFor_ne_of_middle hstored hcollected hdecides hfirstLow hhigh htotal
    · exact exists_scopeFor_ne_of_small hstored hotherStored hotherOwned hcollected hotherIn
        hdecides hotherJournal hcredits hsecondPos (not_lt.1 hmiddle) (not_le.1 hhigh)

theorem scopeFor_settled_iff :
    (∀ first second : RowOrder Order,
      scopeFor env first customerId db = scopeFor env second customerId db) ↔
        CreditsSettled env db customerId := by
  constructor
  · intro hsame
    by_contra hunsettled
    obtain ⟨first, second, hne⟩ := exists_scopeFor_ne hunsettled
    exact hne (hsame first second)
  · exact scopeFor_of_settled

end Queue

/-! ## The two versions -/

def liveReader (order : RowOrder FetchedLine) (journal : List JournalEntryRow) :
    JournalReader :=
  fun customerId => .ok (getCustomerDebtFromJournalAR order customerId journal)

structure DebtReadOrders where
  (single batch : ScopeOrders)
  (reader balances : RowOrder FetchedLine)

/-- With no journal at hand, and with the live journal for one and its batch for the other, the
entry of a customer in a batch is what the single version computes, in whatever orders the
queries of either return their rows. -/
def BatchAgrees (env : Env) (db : Db) (journal : List JournalEntryRow) (customerId : Uuid)
    (customerIds arIds : List Uuid) : Prop :=
  ∀ orders : DebtReadOrders,
    computeCanonicalCustomerDebtBatch env orders.batch db customerIds none customerId =
        some (computeCanonicalCustomerDebt env orders.single db none customerId) ∧
      computeCanonicalCustomerDebtBatch env orders.batch db customerIds
          (some (getCustomerDebtFromJournalARBatch orders.balances arIds journal)) customerId =
        some (computeCanonicalCustomerDebt env orders.single db
          (some (liveReader orders.reader journal)) customerId)

theorem canonicalBatch_of_scope {env : Env} {db : Db} {customer : CustomerKey}
    {customerIds : List Uuid} (hmem : customer.id ∈ customerIds) {single batch : ScopeOrders}
    (hscope : scopeFor env batch.remaining customer.id db =
      scopeFor env single.remaining customer.id db) :
    computeCanonicalCustomerDebtBatch env batch db customerIds none customer.id =
        some (computeCanonicalCustomerDebt env single db none customer.id) ∧
      ∀ (balances : BalanceMap) (read : JournalReader),
        read customer.id = .ok ((balances customer.id).getD 0) →
          computeCanonicalCustomerDebtBatch env batch db customerIds (some balances) customer.id =
            some (computeCanonicalCustomerDebt env single db (some read) customer.id) := by
  unfold computeCanonicalCustomerDebtBatch computeCanonicalCustomerDebt
  simp only [if_pos (mem_requestedIds hmem), batchScope_eq hmem, customerScope_eq, hscope]
  refine ⟨trivial, fun balances read hread => ?_⟩
  rw [hread]

/-- The entry of a customer in any batch is what the single version computes, whatever the
queries return first, exactly when the customer's credits fall the same way in every order. -/
theorem canonicalDebtBatch_eq_single_iff (env : Env) (db : Db) (journal : List JournalEntryRow)
    (customer : CustomerKey) {customerIds arIds : List Uuid} (hmem : customer.id ∈ customerIds)
    (hread : customer.id ∈ arIds) :
    BatchAgrees env db journal customer.id customerIds arIds ↔
      CreditsSettled env db customer.id := by
  constructor
  · intro hagrees
    apply scopeFor_settled_iff.1
    intro first second
    have hpair := (hagrees ⟨⟨second, second⟩, ⟨first, first⟩,
      ⟨id, fun _ => List.Perm.refl _⟩, ⟨id, fun _ => List.Perm.refl _⟩⟩).1
    unfold computeCanonicalCustomerDebtBatch computeCanonicalCustomerDebt at hpair
    simp only [if_pos (mem_requestedIds hmem), batchScope_eq hmem, customerScope_eq,
      Option.some.injEq] at hpair
    exact congrArg₂ CollectionScope.mk
      (congrArg CanonicalDebtSnapshot.remainingFromInvoicesKd hpair)
      (congrArg CanonicalDebtSnapshot.inScopeOrderIds hpair)
  · intro hsettled orders
    have hpair := @canonicalBatch_of_scope env db customer customerIds hmem orders.single
      orders.batch (scopeFor_of_settled hsettled _ _)
    have hbatch := getCustomerDebtFromJournalARBatch_apply orders.balances hread journal
    refine ⟨hpair.1, hpair.2 _ _ ?_⟩
    unfold liveReader getCustomerDebtFromJournalAR getCustomerOutstandingFromJournal
    rw [getCustomerArSnapshot_ar, max_zero_eq_ite, hbatch, Option.getD_some]

namespace Sample

def debtReadOrders : DebtReadOrders :=
  ⟨⟨asStored _, asStored _⟩, ⟨asStored _, asStored _⟩, asStored _, asStored _⟩

def unevenOrders : List Order :=
  [{ order "first" with totalPrice := 10005 }, { order "second" with totalPrice := 50000 }]

theorem unevenOrders_nodup : (unevenOrders.map Order.id).Nodup := by decide

/-- Orders of 1.0005 and 5.0000 and a payment of 1.0000 on account. -/
def unevenShop : Db :=
  { shop ⟨0, 50005⟩ ⟨unevenOrders, unevenOrders_nodup⟩ with
    journal := [ (paymentLinkReceivableEntry "first" "customer" 10005).input.entry,
      (paymentLinkReceivableEntry "second" "customer" 50000).input.entry,
      { source := "PAYMENT"
        sourceRef := [.word "PAYMENT", .word "CC_PARTIAL_DEBT_PAYMENT", .id "history-0",
          .word "RESIDUAL"]
        actorUserId := "owner"
        customerId := some "customer"
        orderId := none
        lines := [debitLine .BANK_KNET 10000, creditLine .ACCOUNTS_RECEIVABLE 10000] }] }

end Sample

theorem canonicalDebtBatch_eq_single_iff_sample :
    BatchAgrees Env.default Sample.unevenShop Sample.twoEntries "customer" ["other", "customer"]
        ["customer"] ∧
      ¬ BatchAgrees { Env.default with useJournalAsSource := true } Sample.unevenShop
        Sample.twoEntries "customer" ["other", "customer"] ["customer"] := by
  have hiff := fun env => canonicalDebtBatch_eq_single_iff env Sample.unevenShop Sample.twoEntries
    Sample.customerKey (show _ ∈ ["other", "customer"] by decide) (show _ ∈ ["customer"] by decide)
  exact ⟨(hiff _).2 (by decide +kernel), fun hagrees =>
    absurd ((hiff _).1 hagrees) (by decide +kernel)⟩

theorem canonicalDebtBatch_eq_single_fails :
    ¬ BatchAgrees { Env.default with useJournalAsSource := true } Sample.unevenShop
      Sample.twoEntries "customer" ["other", "customer"] ["customer"] := by
  intro hagrees
  have hpair := (hagrees { Sample.debtReadOrders with
    batch := ⟨Sample.asStored _, (Sample.asStored _).reversed⟩ }).1
  have hdebt := congrArg (Option.map CanonicalDebtSnapshot.canonicalDebtKd) hpair
  revert hdebt
  decide +kernel

end SafariLaundry
