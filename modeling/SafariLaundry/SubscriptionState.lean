import SafariLaundry.Domain
import SafariLaundry.Library.KeyedFold
import SafariLaundry.Library.StableSort

/-!
# Who subscribes now

Two readers ask the table whether a customer has an open subscription; two read all of its
rows and choose one.  Without an open subscription they choose the row that expires last, not
the one that was created last.
-/

namespace SafariLaundry

open Library List
open Library.Bookkeeping

structure SubscriptionRecord extends CustomerSubscription where
  createdAt : Timestamp
  planNameSnapshot : String
  deriving DecidableEq

abbrev SubscriptionTable := Table fun row : SubscriptionRecord => row.id

def SubscriptionRecord.InWindow (now : Timestamp) (row : SubscriptionRecord) : Prop :=
  row.status = .ACTIVE ∧ now < row.expiresAt
  deriving Decidable

def LaterExpiryFirst (first second : SubscriptionRecord) : Prop :=
  second.expiresAt < first.expiresAt ∨
    first.expiresAt = second.expiresAt ∧ second.createdAt ≤ first.createdAt
  deriving Decidable

/-- Instants stand for their texts. -/
structure SubscriptionStateSnapshot where
  customerId : Uuid
  isActiveSubscriber : Bool
  subscriptionStatus : Option CustomerSubscriptionStatus
  (subscriptionExpiresAtIso subscriptionActivatedAtIso : Option Timestamp)
  planNameSnapshot : Option String

def isCustomerActiveSubscriber (order : RowOrder SubscriptionRecord) (table : SubscriptionTable)
    (customerId : Uuid) (now : Timestamp) : Bool :=
  (order.arrange
    (table.rows.filter fun row => row.customerId = customerId ∧ row.InWindow now)).head?.isSome

def getActiveCustomerSubscriberIds (order : RowOrder SubscriptionRecord)
    (table : SubscriptionTable) (customerIds : List Uuid) (now : Timestamp) : List Uuid :=
  if customerIds = [] then []
  else
    let rows := order.arrange
      (table.rows.filter fun row => row.customerId ∈ customerIds ∧ row.InWindow now)
    rows.foldl (fun out row => out.insert row.customerId) []

def activeRow (now : Timestamp) (rows : List SubscriptionRecord) : Option SubscriptionRecord :=
  (rows.find? fun row => row.InWindow now).or rows.head?

def snapshotOf (customerId : Uuid) (now : Timestamp) (rows : List SubscriptionRecord) :
    SubscriptionStateSnapshot :=
  match activeRow now rows with
  | none =>
      { customerId
        isActiveSubscriber := false
        subscriptionStatus := none
        subscriptionExpiresAtIso := none
        subscriptionActivatedAtIso := none
        planNameSnapshot := none }
  | some row =>
      { customerId
        isActiveSubscriber := row.InWindow now
        subscriptionStatus := some row.status
        subscriptionExpiresAtIso := some row.expiresAt
        subscriptionActivatedAtIso := some row.activatedAt
        planNameSnapshot := some row.planNameSnapshot }

def subscriptionRows (order : RowOrder SubscriptionRecord) (table : SubscriptionTable)
    (customerIds : List Uuid) : List SubscriptionRecord :=
  (order.arrange (table.rows.filter fun row => row.customerId ∈ customerIds)).insertionSort
    LaterExpiryFirst

def getCustomerSubscriptionState (order : RowOrder SubscriptionRecord) (table : SubscriptionTable)
    (customerId : Uuid) (now : Timestamp) : SubscriptionStateSnapshot :=
  snapshotOf customerId now (subscriptionRows order table [customerId])

def rowsOfCustomer (rows : List SubscriptionRecord) (customerId : Uuid) :
    List SubscriptionRecord :=
  ((KeyedFold.collect KeyedFold.Accumulation.rows
    (fun row : SubscriptionRecord => row.customerId) rows).get? customerId).getD []

def getCustomerSubscriptionStateBatch (order : RowOrder SubscriptionRecord)
    (table : SubscriptionTable) (customerIds : List Uuid) (now : Timestamp) :
    OrderedMap Uuid SubscriptionStateSnapshot :=
  if customerIds = [] then Table.empty
  else
    let rows := subscriptionRows order table customerIds
    customerIds.foldl
      (fun out customerId => out.set customerId (snapshotOf customerId now (rowsOfCustomer rows customerId)))
      Table.empty

structure SubscriptionQueries where
  (one many state batch : RowOrder SubscriptionRecord)

def ChosenAsDocumented (table : SubscriptionTable) (now : Timestamp) (customerId : Uuid)
    (chosen : Option SubscriptionRecord) : Prop :=
  let rows := table.rows.filter fun row => row.customerId = customerId
  match chosen with
  | none => rows = []
  | some row => row ∈ rows ∧ if ∃ other ∈ rows, other.InWindow now then
        row.InWindow now ∧ ∀ other ∈ rows, other.InWindow now → other.expiresAt ≤ row.expiresAt
      else ∀ other ∈ rows, other.createdAt ≤ row.createdAt

structure ReadersAgree (queries : SubscriptionQueries) (table : SubscriptionTable)
    (customerIds : List Uuid) (now : Timestamp) : Prop where
  active : ∀ c ∈ customerIds, isCustomerActiveSubscriber queries.one table c now = true ↔
    c ∈ getActiveCustomerSubscriberIds queries.many table customerIds now
  state : ∀ c ∈ customerIds, isCustomerActiveSubscriber queries.one table c now = true ↔
    (getCustomerSubscriptionState queries.state table c now).isActiveSubscriber = true
  batch : ∀ c ∈ customerIds,
    (getCustomerSubscriptionStateBatch queries.batch table customerIds now).get? c =
      some (getCustomerSubscriptionState queries.state table c now)
  choice : ∀ c ∈ customerIds, ChosenAsDocumented table now c
    (activeRow now (subscriptionRows queries.state table [c]))
  batchChoice : ∀ c ∈ customerIds, ChosenAsDocumented table now c
    (activeRow now (rowsOfCustomer (subscriptionRows queries.batch table customerIds) c))

def Offers (table : SubscriptionTable) (now : Timestamp) (customerId : Uuid)
    (row : SubscriptionRecord) : Prop :=
  row.customerId = customerId ∧
    (row.InWindow now ∨ ∀ other ∈ table.rows, other.customerId = customerId → ¬ other.InWindow now)
  deriving Decidable

/-- One of those that nothing goes before. -/
structure Leads (table : SubscriptionTable) (now : Timestamp) (customerId : Uuid)
    (row : SubscriptionRecord) : Prop where
  mem : row ∈ table.rows
  offers : Offers table now customerId row
  first : ∀ other ∈ table.rows, Offers table now customerId other → LaterExpiryFirst row other

/-- Nothing that is shown hangs on which of the leading rows comes first, and without an open
subscription they were created last. -/
structure ChoosesClearly (table : SubscriptionTable) (now : Timestamp) (customerId : Uuid) :
    Prop where
  same : ∀ row other, Leads table now customerId row → Leads table now customerId other →
    row.status = other.status ∧ row.activatedAt = other.activatedAt ∧
      row.planNameSnapshot = other.planNameSnapshot
  newest : (∀ row ∈ table.rows, row.customerId = customerId → ¬ row.InWindow now) →
    ∀ row, Leads table now customerId row →
      ∀ other ∈ table.rows, other.customerId = customerId → other.createdAt ≤ row.createdAt

variable {order : RowOrder SubscriptionRecord} {table : SubscriptionTable} {now : Timestamp}
  {c : Uuid} {customerIds : List Uuid} {row : SubscriptionRecord}

theorem isCustomerActiveSubscriber_iff {customerId : Uuid} :
    isCustomerActiveSubscriber order table customerId now = true ↔
      ∃ row ∈ table.rows, row.customerId = customerId ∧ row.InWindow now := by
  unfold isCustomerActiveSubscriber
  rw [isSome_head?, ← isEmpty_eq_false_iff, isEmpty_eq_false_iff_exists_mem]
  simp

theorem mem_foldl_insert {rows : List SubscriptionRecord} (out : List Uuid) :
    c ∈ rows.foldl (fun out row => out.insert row.customerId) out ↔
      c ∈ out ∨ ∃ row ∈ rows, row.customerId = c := by
  induction rows generalizing out with
  | nil => simp
  | cons row rows ih => simp [ih, or_assoc, or_left_comm, eq_comm]

theorem mem_getActiveCustomerSubscriberIds :
    c ∈ getActiveCustomerSubscriberIds order table customerIds now ↔
      c ∈ customerIds ∧ ∃ row ∈ table.rows, row.customerId = c ∧ row.InWindow now := by
  unfold getActiveCustomerSubscriberIds
  by_cases hnone : customerIds = []
  · simp [hnone]
  · rw [if_neg hnone, mem_foldl_insert]
    constructor
    · rintro (hnil | ⟨row, hrow, rfl⟩)
      · cases hnil
      · rw [RowOrder.mem_arrange, mem_filter, decide_eq_true_eq] at hrow
        exact ⟨hrow.2.1, row, hrow.1, rfl, hrow.2.2⟩
    · rintro ⟨hc, row, hrow, rfl, hwindow⟩
      refine Or.inr ⟨row, ?_, rfl⟩
      rw [RowOrder.mem_arrange, mem_filter, decide_eq_true_eq]
      exact ⟨hrow, hc, hwindow⟩

/-! ## The choice -/

instance : Std.Total LaterExpiryFirst where
  total := by
    intro first second
    rcases lt_trichotomy first.expiresAt second.expiresAt with hlt | heq | hgt
    · exact Or.inr (Or.inl hlt)
    · rcases le_total first.createdAt second.createdAt with hle | hle
      · exact Or.inr (Or.inr ⟨heq.symm, hle⟩)
      · exact Or.inl (Or.inr ⟨heq, hle⟩)
    · exact Or.inl (Or.inl hgt)

instance : IsTrans SubscriptionRecord LaterExpiryFirst where
  trans := by
    rintro first second third (hlt | ⟨heq, hle⟩) (hlt' | ⟨heq', hle'⟩)
    · exact Or.inl (hlt'.trans hlt)
    · exact Or.inl (heq' ▸ hlt)
    · exact Or.inl (heq ▸ hlt')
    · exact Or.inr ⟨heq.trans heq', hle'.trans hle⟩

theorem expiresAt_le_of_laterExpiryFirst {first second : SubscriptionRecord}
    (hfirst : LaterExpiryFirst first second) : second.expiresAt ≤ first.expiresAt :=
  hfirst.elim le_of_lt fun htie => htie.1.ge

theorem rowsOfCustomer_eq (rows : List SubscriptionRecord) (customerId : Uuid) :
    rowsOfCustomer rows customerId = rows.filter fun row => row.customerId = customerId := by
  unfold rowsOfCustomer
  rw [KeyedFold.get?_collect, KeyedFold.Accumulation.getD_made_rows]

theorem mem_subscriptionRows :
    row ∈ subscriptionRows order table customerIds ↔
      row ∈ table.rows ∧ row.customerId ∈ customerIds := by
  unfold subscriptionRows
  rw [mem_insertionSort]
  simp

theorem rowsOfCustomer_subscriptionRows_self (order : RowOrder SubscriptionRecord)
    (table : SubscriptionTable) (c : Uuid) :
    rowsOfCustomer (subscriptionRows order table [c]) c = subscriptionRows order table [c] := by
  rw [rowsOfCustomer_eq, filter_eq_self]
  intro row hrow
  simpa using (mem_subscriptionRows.1 hrow).2

theorem activeRow_eq (order : RowOrder SubscriptionRecord) (table : SubscriptionTable)
    (hc : c ∈ customerIds) (now : Timestamp) :
    activeRow now (rowsOfCustomer (subscriptionRows order table customerIds) c) =
      ((subscriptionRows order table customerIds).filter (Offers table now c)).head? := by
  rw [rowsOfCustomer_eq]
  unfold activeRow
  rw [← List.head?_filter, filter_filter]
  by_cases hopen : ∃ row ∈ table.rows, row.customerId = c ∧ row.InWindow now
  · obtain ⟨other, hother, hcustomer, hwindow⟩ := hopen
    have hsame : ∀ row, decide (Offers table now c row) =
        (decide (row.InWindow now) && decide (row.customerId = c)) := by
      intro row
      rw [← Bool.decide_and, decide_eq_decide]
      constructor
      · rintro ⟨hrow, hrowWindow | hnone⟩
        · exact ⟨hrowWindow, hrow⟩
        · exact absurd hwindow (hnone other hother hcustomer)
      · rintro ⟨hrowWindow, hrow⟩
        exact ⟨hrow, Or.inl hrowWindow⟩
    have hmem : other ∈ (subscriptionRows order table customerIds).filter
        fun row => decide (row.InWindow now) && decide (row.customerId = c) := by
      rw [mem_filter, mem_subscriptionRows]
      exact ⟨⟨hother, hcustomer ▸ hc⟩, by simp [hwindow, hcustomer]⟩
    simp only [hsame]
    exact Option.or_of_isSome (isSome_head?.2 (ne_nil_of_mem hmem))
  · have hnone : ∀ row ∈ table.rows, row.customerId = c → ¬ row.InWindow now :=
      fun row hrow hcustomer hwindow => hopen ⟨row, hrow, hcustomer, hwindow⟩
    have hsame : ∀ row, decide (Offers table now c row) = decide (row.customerId = c) := by
      intro row
      rw [decide_eq_decide]
      exact ⟨And.left, fun hrow => ⟨hrow, Or.inr hnone⟩⟩
    have hempty : ((subscriptionRows order table customerIds).filter
        fun row => decide (row.InWindow now) && decide (row.customerId = c)) = [] := by
      rw [filter_eq_nil_iff]
      intro row hrow
      have hrow := (mem_subscriptionRows.1 hrow).1
      simpa using fun hwindow hcustomer => hnone row hrow hcustomer hwindow
    simp only [hsame, hempty, List.head?_nil, Option.none_or]

theorem leads_of_activeRow (hc : c ∈ customerIds)
    (hrow : activeRow now (rowsOfCustomer (subscriptionRows order table customerIds) c) = some row) :
    Leads table now c row := by
  rw [activeRow_eq order table hc] at hrow
  have hmem := mem_of_mem_head? (Option.mem_def.2 hrow)
  rw [mem_filter, decide_eq_true_eq, mem_subscriptionRows] at hmem
  refine ⟨hmem.1.1, hmem.2, fun other hother hoffers => ?_⟩
  apply StableSort.before_of_head?_filter (pairwise_insertionSort ..) hrow other _ hoffers
  exact mem_subscriptionRows.2 ⟨hother, hoffers.1 ▸ hc⟩

theorem activeRow_of_leads (hc : c ∈ customerIds) (hleads : Leads table now c row) :
    activeRow now (rowsOfCustomer (subscriptionRows (RowOrder.leading row) table customerIds) c) =
      some row := by
  have hmem : row ∈ table.rows.filter fun row => row.customerId ∈ customerIds :=
    mem_filter.2 ⟨hleads.mem, decide_eq_true (hleads.offers.1 ▸ hc)⟩
  rw [activeRow_eq _ table hc]
  unfold subscriptionRows
  rw [RowOrder.leading_arrange hmem]
  apply StableSort.head?_filter_insertionSort_cons hleads.offers
  intro other hother
  exact hleads.first other (mem_filter.1 (mem_of_mem_erase hother)).1

theorem activeRow_eq_none (hc : c ∈ customerIds) :
    activeRow now (rowsOfCustomer (subscriptionRows order table customerIds) c) = none ↔
      (table.rows.filter fun row => row.customerId = c) = [] := by
  rw [rowsOfCustomer_eq]
  unfold activeRow
  simp only [Option.or_eq_none_iff, List.head?_eq_none_iff, filter_eq_nil_iff,
    mem_subscriptionRows, List.find?_eq_none, mem_filter, decide_eq_true_eq]
  constructor
  · rintro ⟨-, hnone⟩ row hrow hcustomer
    exact hnone row ⟨hrow, hcustomer ▸ hc⟩ hcustomer
  · intro hnone
    exact ⟨fun row hrow => absurd hrow.2 (hnone row hrow.1.1), fun row hrow => hnone row hrow.1⟩

theorem get?_batch (hc : c ∈ customerIds) (now : Timestamp) :
    (getCustomerSubscriptionStateBatch order table customerIds now).get? c =
      some (snapshotOf c now (rowsOfCustomer (subscriptionRows order table customerIds) c)) := by
  unfold getCustomerSubscriptionStateBatch
  rw [if_neg (ne_nil_of_mem hc)]
  exact (OrderedMap.get?_foldl_set _ _ _ _).trans (if_pos hc)

theorem Leads.inWindow_iff (hleads : Leads table now c row) :
    row.InWindow now ↔ ∃ other ∈ table.rows, other.customerId = c ∧ other.InWindow now := by
  constructor
  · exact fun hwindow => ⟨row, hleads.mem, hleads.offers.1, hwindow⟩
  · rintro ⟨other, hother, hcustomer, hwindow⟩
    exact hleads.offers.2.resolve_right fun hnone => hnone other hother hcustomer hwindow

theorem chosenAsDocumented_of_leads (hclear : ChoosesClearly table now c)
    (hleads : Leads table now c row) : ChosenAsDocumented table now c (some row) := by
  have howned : ∀ other, other ∈ table.rows.filter (fun row => row.customerId = c) ↔
      other ∈ table.rows ∧ other.customerId = c := by simp
  refine ⟨(howned row).2 ⟨hleads.mem, hleads.offers.1⟩, ?_⟩
  split_ifs with hopen
  · obtain ⟨other, hother, hwindow⟩ := hopen
    rw [howned] at hother
    refine ⟨hleads.inWindow_iff.2 ⟨other, hother.1, hother.2, hwindow⟩, ?_⟩
    intro other hother hwindow
    rw [howned] at hother
    exact expiresAt_le_of_laterExpiryFirst (hleads.first other hother.1 ⟨hother.2, Or.inl hwindow⟩)
  · intro other hother
    rw [howned] at hother
    refine hclear.newest ?_ row hleads other hother.1 hother.2
    exact fun held hmem howner hwindow => hopen ⟨held, (howned held).2 ⟨hmem, howner⟩, hwindow⟩

theorem snapshotOf_congr {rows rows' : List SubscriptionRecord}
    (hnone : activeRow now rows = none ↔ activeRow now rows' = none)
    (hsome : ∀ row row', activeRow now rows = some row → activeRow now rows' = some row' →
      row.status = row'.status ∧ row.expiresAt = row'.expiresAt ∧
        row.activatedAt = row'.activatedAt ∧ row.planNameSnapshot = row'.planNameSnapshot) :
    snapshotOf c now rows = snapshotOf c now rows' := by
  unfold snapshotOf
  cases hrow : activeRow now rows with
  | none => rw [hnone.1 hrow]
  | some row =>
      cases hrow' : activeRow now rows' with
      | none =>
          rw [hnone.2 hrow'] at hrow
          cases hrow
      | some row' =>
          obtain ⟨hstatus, hexpires, hactivated, hplan⟩ := hsome row row' hrow hrow'
          have hwindow : row.InWindow now ↔ row'.InWindow now := by
            unfold SubscriptionRecord.InWindow
            rw [hstatus, hexpires]
          simp only [hstatus, hexpires, hactivated, hplan, decide_eq_decide.2 hwindow]

theorem ChoosesClearly.readersAgree (hclear : ∀ c ∈ customerIds, ChoosesClearly table now c)
    (queries : SubscriptionQueries) : ReadersAgree queries table customerIds now := by
  have hchoice : ∀ (order : RowOrder SubscriptionRecord) (ids : List Uuid), ∀ c ∈ customerIds,
      c ∈ ids → ChosenAsDocumented table now c
        (activeRow now (rowsOfCustomer (subscriptionRows order table ids) c)) := by
    intro order ids c hc hmem
    cases hrow : activeRow now (rowsOfCustomer (subscriptionRows order table ids) c) with
    | none => exact (activeRow_eq_none hmem).1 hrow
    | some row => exact chosenAsDocumented_of_leads (hclear c hc) (leads_of_activeRow hmem hrow)
  refine ⟨?_, ?_, ?_, ?_, ?_⟩
  · intro c hc
    rw [isCustomerActiveSubscriber_iff, mem_getActiveCustomerSubscriberIds]
    exact (and_iff_right hc).symm
  · intro c hc
    rw [isCustomerActiveSubscriber_iff]
    unfold getCustomerSubscriptionState snapshotOf
    rw [← rowsOfCustomer_subscriptionRows_self]
    cases hrow : activeRow now (rowsOfCustomer (subscriptionRows queries.state table [c]) c) with
    | none =>
        have hempty := (activeRow_eq_none (mem_singleton.2 rfl)).1 hrow
        rw [filter_eq_nil_iff] at hempty
        simp only [Bool.false_eq_true, iff_false]
        rintro ⟨row, hmem, hcustomer, -⟩
        exact hempty row hmem (decide_eq_true hcustomer)
    | some row =>
        simp only [decide_eq_true_eq]
        exact (leads_of_activeRow (mem_singleton.2 rfl) hrow).inWindow_iff.symm
  · intro c hc
    rw [get?_batch hc]
    unfold getCustomerSubscriptionState
    rw [← rowsOfCustomer_subscriptionRows_self]
    congr 1
    have hself : c ∈ [c] := mem_singleton.2 rfl
    apply snapshotOf_congr
    · rw [activeRow_eq_none hc, activeRow_eq_none hself]
    · intro row row' hrow hrow'
      have hleads := leads_of_activeRow hc hrow
      have hleads' := leads_of_activeRow hself hrow'
      obtain ⟨hstatus, hactivated, hplan⟩ := (hclear c hc).same row row' hleads hleads'
      have hexpires := le_antisymm
        (expiresAt_le_of_laterExpiryFirst (hleads'.first row hleads.mem hleads.offers))
        (expiresAt_le_of_laterExpiryFirst (hleads.first row' hleads'.mem hleads'.offers))
      exact ⟨hstatus, hexpires, hactivated, hplan⟩
  · intro c hc
    rw [← rowsOfCustomer_subscriptionRows_self]
    exact hchoice queries.state [c] c hc (mem_singleton.2 rfl)
  · exact fun c hc => hchoice queries.batch customerIds c hc hc

theorem choosesClearly_of_readersAgree
    (hagree : ∀ queries, ReadersAgree queries table customerIds now) (hc : c ∈ customerIds) :
    ChoosesClearly table now c := by
  have hself : c ∈ [c] := mem_singleton.2 rfl
  refine ⟨?_, ?_⟩
  · intro row other hrow hother
    have hsame := (hagree ⟨.leading row, .leading row, .leading row, .leading other⟩).batch c hc
    rw [get?_batch hc] at hsame
    unfold getCustomerSubscriptionState snapshotOf at hsame
    rw [← rowsOfCustomer_subscriptionRows_self, activeRow_of_leads hself hrow,
      activeRow_of_leads hc hother] at hsame
    simp only [Option.some.injEq, SubscriptionStateSnapshot.mk.injEq] at hsame
    obtain ⟨-, -, hstatus, -, hactivated, hplan⟩ := hsame
    exact ⟨hstatus.symm, hactivated.symm, hplan.symm⟩
  · intro hnone row hrow other hother hcustomer
    have hchoice := (hagree ⟨.leading row, .leading row, .leading row, .leading row⟩).choice c hc
    rw [← rowsOfCustomer_subscriptionRows_self, activeRow_of_leads hself hrow] at hchoice
    have hclosed : ¬ ∃ other ∈ table.rows.filter (fun row => row.customerId = c),
        other.InWindow now := by
      rintro ⟨held, hmem, hwindow⟩
      rw [mem_filter, decide_eq_true_eq] at hmem
      exact hnone held hmem.1 hmem.2 hwindow
    unfold ChosenAsDocumented at hchoice
    simp only [if_neg hclosed] at hchoice
    exact hchoice.2 other (mem_filter.2 ⟨hother, decide_eq_true hcustomer⟩)

/-- However the rows come back, the readers agree exactly where every customer's choice is
clear. -/
theorem readersAgree_iff (table : SubscriptionTable) (customerIds : List Uuid) (now : Timestamp) :
    (∀ queries, ReadersAgree queries table customerIds now) ↔
      ∀ c ∈ customerIds, ChoosesClearly table now c :=
  ⟨fun hagree _ hc => choosesClearly_of_readersAgree hagree hc, ChoosesClearly.readersAgree⟩

/-- A year that a shorter subscription interrupted is shown after both have ended. -/
def lapsedRow (id : Uuid) (createdAt expiresAt : Timestamp) : SubscriptionRecord :=
  { id, customerId := "customer", planId := id, status := .EXPIRED, planSalePriceSnapshot := 0
    planActualBalanceSnapshot := 0, carriedBalanceKd := 0, parentSubscriptionId := none
    activatedAt := createdAt, expiresAt, closedAt := none, closedReason := none, createdAt
    planNameSnapshot := id }

def lapsedTable : SubscriptionTable where
  rows := [lapsedRow "year" 0 365, lapsedRow "month" 100 130]
  keysDistinct := by decide

theorem readersAgree_fails : ¬ ∀ queries, ReadersAgree queries lapsedTable ["customer"] 500 := by
  intro hagree
  have hclear := choosesClearly_of_readersAgree hagree (mem_singleton.2 rfl)
  have hleads : Leads lapsedTable 500 "customer" (lapsedRow "year" 0 365) :=
    ⟨by decide, by decide, by decide⟩
  have hle := hclear.newest (by decide) _ hleads (lapsedRow "month" 100 130) (by decide) rfl
  exact absurd hle (by decide)

end SafariLaundry
