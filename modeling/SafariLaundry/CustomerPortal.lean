import SafariLaundry.InvoicePaymentStatus

/-!
# What a customer can pay in the portal

The orders come from the invoices in the journal, and from the order table only where the journal
has none or none of them is open.  What is open is read for the whole batch; the total is read
for each order alone.
-/

namespace SafariLaundry.CustomerPortal

open Library List

structure PortalReads where
  journal : RowOrder Uuid
  (legacy candidates all : RowOrder Order)

/-- A row of the answer; the two instants stand for their texts. -/
structure CustomerPortalPayableOrder where
  id : Uuid
  status : OrderStatus
  cashStatus : CashStatus
  posPaymentMethod : PosPaymentMethod
  (totalAmountKd paidAmountKd remainingAmountKd : ℤ)
  paymentStatus : InvoicePaymentStatus
  createdAtIso : Timestamp
  completedAtIso : Option Timestamp

abbrev RemainingMap := Uuid → Option ℤ

section Portal

variable (env : Env) (db : Db) (customerId : Uuid) (reads : PortalReads)

def liveOrders : List Order :=
  db.orders.rows.filter fun order => order.customerId = customerId ∧ order.status ≠ .CANCELED

def invoicedIds : List Uuid :=
  ((db.journal.filter fun row => row.customerId = some customerId ∧
    row.source ∈ ["ORDER_INVOICE", "INVOICE"]).filterMap JournalEntry.orderId).dedup

def discoverOrderIds : List Uuid :=
  let fromJournal := (reads.journal.arrange (invoicedIds db customerId)).take 150
  if fromJournal ≠ [] then fromJournal
  else ((reads.legacy.arrange (liveOrders db customerId)).take 150).map Order.id

def remainingOf (orders : List Order) : RemainingMap :=
  computeOrderRemainingBalancesBatch env db (orders.map Order.id)

def filterOpen (orders : List Order) (remainingByOrder : RemainingMap) : List Order :=
  orders.filter fun order =>
    invoiceRemainingTolerance < (remainingByOrder order.id).getD 0 ∨
      (order.status = .PENDING ∧ order.cashStatus = .UNPAID ∧ remainingByOrder order.id = none)

def candidateOrders : List Order :=
  reads.candidates.arrange ((liveOrders db customerId).filter fun order =>
    order.id ∈ discoverOrderIds db customerId reads)

def allOrders : List Order :=
  (reads.all.arrange (liveOrders db customerId)).take 200

def listedBatch : List Order :=
  if filterOpen (candidateOrders db customerId reads)
      (remainingOf env db (candidateOrders db customerId reads)) ≠ [] then
    candidateOrders db customerId reads
  else allOrders db customerId reads

def payableRow (remainingByOrder : RemainingMap) (order : Order) :
    CustomerPortalPayableOrder :=
  let payment := derivePaymentStatus env db order.id
  let batchRemaining := (remainingByOrder order.id).getD payment.remainingAmountKd
  let paidKd := payment.totalAmountKd - batchRemaining
  { id := order.id
    status := order.status
    cashStatus := order.cashStatus
    posPaymentMethod := order.posPaymentMethod
    totalAmountKd := payment.totalAmountKd
    paidAmountKd := if 0 < paidKd then paidKd else payment.paidAmountKd
    remainingAmountKd := batchRemaining
    paymentStatus := statusFromRemaining payment.totalAmountKd (if 0 < paidKd then paidKd else 0)
      batchRemaining
    createdAtIso := order.createdAt
    completedAtIso := order.completedAt }

def LaterFirst (a b : CustomerPortalPayableOrder) : Prop := b.createdAtIso ≤ a.createdAtIso
  deriving Decidable

def EarlierFirst (a b : CustomerPortalPayableOrder) : Prop := a.createdAtIso ≤ b.createdAtIso
  deriving Decidable

def listPayableOrdersForCustomer : List CustomerPortalPayableOrder :=
  if discoverOrderIds db customerId reads = [] then []
  else
    let orders := listedBatch env db customerId reads
    let remainingByOrder := remainingOf env db orders
    ((filterOpen orders remainingByOrder).map
      (payableRow env db remainingByOrder)).insertionSort LaterFirst

def pickPrimaryPayableOrderId : Option Uuid :=
  let rows := listPayableOrdersForCustomer env db customerId reads
  (rows.insertionSort EarlierFirst).head?.map CustomerPortalPayableOrder.id

/-! ## What is asked of the list -/

def OpenOrder (order : Order) : Prop :=
  invoiceRemainingTolerance < computeOrderRemainingBalance env db order.id
  deriving Decidable

def openOrders : List Order := (liveOrders db customerId).filter fun order => OpenOrder env db order

structure PayableRight : Prop where
  listed : ((listPayableOrdersForCustomer env db customerId reads).map
    CustomerPortalPayableOrder.id).Perm ((openOrders env db customerId).map Order.id)
  addsUp : ∀ row ∈ listPayableOrdersForCustomer env db customerId reads, ¬ Overpaid db row.id →
    row.paidAmountKd + row.remainingAmountKd = row.totalAmountKd
  none_iff : pickPrimaryPayableOrderId env db customerId reads = none ↔
    openOrders env db customerId = []
  oldest : ∀ id ∈ pickPrimaryPayableOrderId env db customerId reads,
    ∃ order ∈ openOrders env db customerId, order.id = id ∧
      ∀ other ∈ openOrders env db customerId, order.createdAt ≤ other.createdAt

def HeldIn (orders : List Order) (order : Order) : Prop :=
  invoiceRemainingTolerance < (remainingOf env db orders order.id).getD 0
  deriving Decidable

def heldOrders : List Order :=
  (listedBatch env db customerId reads).filter fun order =>
    HeldIn env db (listedBatch env db customerId reads) order

/-- Where a candidate is open every open order is a candidate, no order is over the tolerance in
the batch alone, and none of those over it owes more than its total. -/
structure PayableMeets : Prop where
  discovered : (∃ order ∈ candidateOrders db customerId reads,
      HeldIn env db (candidateOrders db customerId reads) order) →
    ∀ order ∈ openOrders env db customerId, order.id ∈ discoverOrderIds db customerId reads
  shares : ∀ order ∈ listedBatch env db customerId reads,
    HeldIn env db (listedBatch env db customerId reads) order → OpenOrder env db order
  covered : ∀ order ∈ listedBatch env db customerId reads,
    HeldIn env db (listedBatch env db customerId reads) order →
      (remainingOf env db (listedBatch env db customerId reads) order.id).getD 0 ≤ order.totalPrice

end Portal

variable {env : Env} {db : Db} {customerId : Uuid} {reads : PortalReads}

variable {order : Order} {orders : List Order}

theorem mem_liveOrders :
    order ∈ liveOrders db customerId ↔
      order ∈ db.orders.rows ∧ order.customerId = customerId ∧ order.status ≠ .CANCELED := by
  simp [liveOrders]

theorem mem_candidateOrders :
    order ∈ candidateOrders db customerId reads ↔
      order ∈ liveOrders db customerId ∧ order.id ∈ discoverOrderIds db customerId reads := by
  simp [candidateOrders]

theorem mem_openOrders :
    order ∈ openOrders env db customerId ↔
      order ∈ liveOrders db customerId ∧ OpenOrder env db order := by
  simp [openOrders]

theorem mem_heldOrders :
    order ∈ heldOrders env db customerId reads ↔ order ∈ listedBatch env db customerId reads ∧
        HeldIn env db (listedBatch env db customerId reads) order := by
  simp [heldOrders]

theorem filterOpen_remainingOf (hrows : orders ⊆ db.orders.rows) :
    filterOpen orders (remainingOf env db orders) =
      orders.filter fun order => HeldIn env db orders order := by
  apply filter_congr
  intro order horder
  obtain ⟨before, after, hsplit⟩ := append_of_mem (hrows horder)
  have hentry : remainingOf env db orders order.id = some _ :=
    remainingBatch_eq hsplit (mem_map_of_mem horder)
  have hsome : remainingOf env db orders order.id ≠ none := by
    rw [hentry]
    exact Option.some_ne_none _
  refine decide_eq_decide.2 ⟨fun hopen => ?_, Or.inl⟩
  rcases hopen with hheld | ⟨_, _, hnone⟩
  · exact hheld
  · exact absurd hnone hsome

theorem nodup_listedBatch : (listedBatch env db customerId reads).Nodup := by
  have hlive : (liveOrders db customerId).Nodup :=
    (List.Nodup.of_map _ db.orders.keysDistinct).filter _
  unfold listedBatch
  split_ifs
  · exact (reads.candidates.perm _).nodup_iff.2 (hlive.filter _)
  · exact ((reads.all.perm _).nodup_iff.2 hlive).take

theorem OpenOrder.heldIn (hopen : OpenOrder env db order) (hmem : order ∈ db.orders.rows)
    (hbatch : order ∈ orders) :
    HeldIn env db orders order := by
  obtain ⟨few, many, hfew, hmany, hle⟩ := remainingBatch_mono env hmem
    (cons_subset.2 ⟨mem_map_of_mem hbatch, nil_subset _⟩)
    (mem_singleton_self order.id)
  unfold OpenOrder computeOrderRemainingBalance at hopen
  rw [hfew] at hopen
  rw [HeldIn, remainingOf, hmany]
  exact hopen.trans_le hle

theorem listedBatch_eq :
    listedBatch env db customerId reads = if ∃ order ∈ candidateOrders db customerId reads,
          HeldIn env db (candidateOrders db customerId reads) order then
        candidateOrders db customerId reads
      else allOrders db customerId reads := by
  have hrows : candidateOrders db customerId reads ⊆ db.orders.rows := fun order horder =>
    (mem_liveOrders.1 (mem_candidateOrders.1 horder).1).1
  unfold listedBatch
  rw [filterOpen_remainingOf hrows]
  apply if_congr _ rfl rfl
  rw [ne_eq, filter_eq_nil_iff]
  simp

theorem payableRow_adds_iff (hmem : order ∈ db.orders.rows) (hbatch : order ∈ orders) :
    (payableRow env db (remainingOf env db orders) order).paidAmountKd +
        (payableRow env db (remainingOf env db orders) order).remainingAmountKd =
      (payableRow env db (remainingOf env db orders) order).totalAmountKd ↔
        (remainingOf env db orders order.id).getD 0 ≤ order.totalPrice := by
  obtain ⟨htotal, hpaid, -⟩ := derivePaymentStatus_parts env (Table.find?_of_mem hmem)
  obtain ⟨before, after, hsplit⟩ := append_of_mem hmem
  have hentry : remainingOf env db orders order.id = some _ :=
    remainingBatch_eq hsplit (mem_map_of_mem hbatch)
  unfold payableRow
  dsimp only
  rw [htotal, hpaid, hentry, Option.getD_some, Option.getD_some]
  split_ifs <;> omega

theorem HeldIn.not_overpaid (hheld : HeldIn env db orders order) (hmem : order ∈ db.orders.rows)
    (hbatch : order ∈ orders) : ¬ Overpaid db order.id := by
  obtain ⟨before, after, hsplit⟩ := append_of_mem hmem
  have hentry : remainingOf env db orders order.id = some _ :=
    remainingBatch_eq hsplit (mem_map_of_mem hbatch)
  rw [HeldIn, hentry, Option.getD_some] at hheld
  unfold Overpaid
  unfold invoiceRemainingTolerance leftOpen at hheld
  split_ifs at hheld <;> omega

section Small

variable (hsmall : (db.orders.rows.filter fun order => order.customerId = customerId).length ≤ 150)

include hsmall

theorem liveOrders_length : (liveOrders db customerId).length ≤ 150 := by
  refine le_trans (List.Sublist.length_le ?_) hsmall
  apply monotone_filter_right
  intro order horder
  exact decide_eq_true (of_decide_eq_true horder).1

theorem mem_allOrders {order : Order} :
    order ∈ allOrders db customerId reads ↔ order ∈ liveOrders db customerId := by
  have hlength : (reads.all.arrange (liveOrders db customerId)).length ≤ 200 := by
    rw [(reads.all.perm _).length_eq]
    exact (liveOrders_length hsmall).trans (by decide)
  rw [allOrders, take_of_length_le hlength, RowOrder.mem_arrange]

theorem listedBatch_subset_live :
    listedBatch env db customerId reads ⊆ liveOrders db customerId := by
  intro order horder
  unfold listedBatch at horder
  split_ifs at horder
  · exact (mem_candidateOrders.1 horder).1
  · exact (mem_allOrders hsmall).1 horder

theorem filterOpen_listedBatch :
    filterOpen (listedBatch env db customerId reads)
        (remainingOf env db (listedBatch env db customerId reads)) =
      heldOrders env db customerId reads :=
  filterOpen_remainingOf fun _ horder =>
    (mem_liveOrders.1 (listedBatch_subset_live hsmall horder)).1

theorem list_perm :
    (listPayableOrdersForCustomer env db customerId reads).Perm
      ((heldOrders env db customerId reads).map
        (payableRow env db (remainingOf env db (listedBatch env db customerId reads)))) := by
  unfold listPayableOrdersForCustomer
  split_ifs with hnone
  · have hlive : liveOrders db customerId = [] := by
      unfold discoverOrderIds at hnone
      dsimp only at hnone
      split_ifs at hnone with hjournal
      · exact absurd hnone hjournal
      · rw [map_eq_nil_iff, take_eq_nil_iff, or_iff_right (by decide)] at hnone
        exact ((reads.legacy.perm _).symm.trans (List.Perm.of_eq hnone)).eq_nil
    have hbatch : listedBatch env db customerId reads = [] :=
      subset_nil.1 (hlive ▸ listedBatch_subset_live hsmall)
    rw [heldOrders, hbatch]
    exact List.Perm.refl _
  · rw [← filterOpen_listedBatch hsmall]
    exact perm_insertionSort ..

theorem ids_perm :
    ((listPayableOrdersForCustomer env db customerId reads).map
      CustomerPortalPayableOrder.id).Perm ((heldOrders env db customerId reads).map Order.id) := by
  refine ((list_perm hsmall).map _).trans (List.Perm.of_eq ?_)
  rw [map_map]
  rfl

theorem held_iff_open_iff :
    (∀ order, order ∈ heldOrders env db customerId reads ↔ order ∈ openOrders env db customerId) ↔
    ((∃ order ∈ candidateOrders db customerId reads,
        HeldIn env db (candidateOrders db customerId reads) order) →
      ∀ order ∈ openOrders env db customerId, order.id ∈ discoverOrderIds db customerId reads) ∧
    ∀ order ∈ listedBatch env db customerId reads,
      HeldIn env db (listedBatch env db customerId reads) order → OpenOrder env db order := by
  simp only [mem_heldOrders]
  constructor
  · intro hsame
    constructor
    · intro hcandidate order horder
      have hbatch := ((hsame order).2 horder).1
      rw [listedBatch_eq, if_pos hcandidate] at hbatch
      exact (mem_candidateOrders.1 hbatch).2
    · intro order hbatch hheld
      exact (mem_openOrders.1 ((hsame order).1 ⟨hbatch, hheld⟩)).2
  · rintro ⟨hdiscovered, hshares⟩ order
    constructor
    · rintro ⟨hbatch, hheld⟩
      exact mem_openOrders.2 ⟨listedBatch_subset_live hsmall hbatch, hshares order hbatch hheld⟩
    · intro horder
      obtain ⟨hlive, hopen⟩ := mem_openOrders.1 horder
      have hbatch : order ∈ listedBatch env db customerId reads := by
        rw [listedBatch_eq]
        split_ifs with hcandidate
        · exact mem_candidateOrders.2 ⟨hlive, hdiscovered hcandidate order horder⟩
        · exact (mem_allOrders hsmall).2 hlive
      exact ⟨hbatch, hopen.heldIn (mem_liveOrders.1 hlive).1 hbatch⟩

theorem map_id_perm_iff :
    ((listPayableOrdersForCustomer env db customerId reads).map
        CustomerPortalPayableOrder.id).Perm ((openOrders env db customerId).map Order.id) ↔
      ∀ order, order ∈ heldOrders env db customerId reads ↔
        order ∈ openOrders env db customerId := by
  have hlive : ∀ order ∈ listedBatch env db customerId reads, order ∈ db.orders.rows :=
    fun order horder => (mem_liveOrders.1 (listedBatch_subset_live hsmall horder)).1
  have hopen : ∀ order ∈ openOrders env db customerId, order ∈ db.orders.rows :=
    fun order horder => (mem_liveOrders.1 (mem_openOrders.1 horder).1).1
  constructor
  · intro hperm order
    have hids := (ids_perm hsmall).symm.trans hperm
    constructor
    · intro horder
      obtain ⟨other, hother, hid⟩ := mem_map.1 (hids.mem_iff.1 (mem_map_of_mem horder))
      rwa [← inj_on_of_nodup_map db.orders.keysDistinct (hopen other hother)
        (hlive order (mem_heldOrders.1 horder).1) hid]
    · intro horder
      obtain ⟨other, hother, hid⟩ := mem_map.1 (hids.mem_iff.2 (mem_map_of_mem horder))
      rwa [← inj_on_of_nodup_map db.orders.keysDistinct
        (hlive other (mem_heldOrders.1 hother).1) (hopen order horder) hid]
  · intro hsame
    have hnodup : (openOrders env db customerId).Nodup :=
      ((List.Nodup.of_map _ db.orders.keysDistinct).filter _).filter _
    exact (ids_perm hsmall).trans
      (((perm_ext_iff_of_nodup (nodup_listedBatch.filter _) hnodup).2 hsame).map _)

theorem addsUp_iff :
    (∀ row ∈ listPayableOrdersForCustomer env db customerId reads, ¬ Overpaid db row.id →
        row.paidAmountKd + row.remainingAmountKd = row.totalAmountKd) ↔
      ∀ order ∈ listedBatch env db customerId reads,
        HeldIn env db (listedBatch env db customerId reads) order →
          (remainingOf env db (listedBatch env db customerId reads) order.id).getD 0 ≤
            order.totalPrice := by
  have hlive : ∀ order ∈ listedBatch env db customerId reads, order ∈ db.orders.rows :=
    fun order horder => (mem_liveOrders.1 (listedBatch_subset_live hsmall horder)).1
  constructor
  · intro hadds order hbatch hheld
    have hrow := (list_perm hsmall).mem_iff.2
      (mem_map_of_mem (mem_heldOrders.2 ⟨hbatch, hheld⟩))
    exact (payableRow_adds_iff (hlive order hbatch) hbatch).1
      (hadds _ hrow (hheld.not_overpaid (hlive order hbatch) hbatch))
  · intro hcovered row hrow _
    obtain ⟨order, horder, rfl⟩ := mem_map.1 ((list_perm hsmall).mem_iff.1 hrow)
    obtain ⟨hbatch, hheld⟩ := mem_heldOrders.1 horder
    exact (payableRow_adds_iff (hlive order hbatch) hbatch).2 (hcovered order hbatch hheld)

theorem pick_spec :
    (pickPrimaryPayableOrderId env db customerId reads = none ↔
      heldOrders env db customerId reads = []) ∧
    ∀ id ∈ pickPrimaryPayableOrderId env db customerId reads,
      ∃ order ∈ heldOrders env db customerId reads, order.id = id ∧
        ∀ other ∈ heldOrders env db customerId reads,
          order.createdAt ≤ other.createdAt := by
  have htotal : Std.Total EarlierFirst := ⟨fun a b => le_total a.createdAtIso b.createdAtIso⟩
  have htrans : IsTrans CustomerPortalPayableOrder EarlierFirst :=
    ⟨fun a b c hab hbc => le_trans hab hbc⟩
  have hsorted := pairwise_insertionSort EarlierFirst
    (listPayableOrdersForCustomer env db customerId reads)
  have hlist : (listPayableOrdersForCustomer env db customerId reads).Perm _ := list_perm hsmall
  have hperm := (perm_insertionSort EarlierFirst _).trans hlist
  unfold pickPrimaryPayableOrderId
  dsimp only
  cases hrows : (listPayableOrdersForCustomer env db customerId reads).insertionSort
      EarlierFirst with
  | nil =>
      rw [hrows] at hperm
      refine ⟨iff_of_true rfl (map_eq_nil_iff.1 hperm.symm.eq_nil), fun id hid => ?_⟩
      cases hid
  | cons first rest =>
      rw [hrows] at hperm hsorted
      obtain ⟨order, horder, hfirst⟩ := mem_map.1 (hperm.mem_iff.1 (mem_cons_self ..))
      refine ⟨iff_of_false nofun (ne_nil_of_mem horder), fun id hid => ?_⟩
      obtain rfl : first.id = id := Option.some_inj.1 hid
      refine ⟨order, horder, congrArg CustomerPortalPayableOrder.id hfirst, fun other hother => ?_⟩
      have hmem := hperm.mem_iff.2 (mem_map_of_mem hother)
      rcases mem_cons.1 hmem with hsame | hlater
      · exact le_of_eq (congrArg CustomerPortalPayableOrder.createdAtIso (hfirst.trans hsame.symm))
      · have hle : first.createdAtIso ≤ _ := (pairwise_cons.1 hsorted).1 _ hlater
        rwa [← hfirst] at hle

end Small

/-- A customer with 150 orders at most is shown what is open, and its oldest, exactly where every
open order is a candidate if one is, the batch holds no order that is not open, and nothing that is
listed owes more than its total. -/
theorem payableRight_iff {env : Env} {db : Db} {customerId : Uuid} {reads : PortalReads}
    (hsmall : (db.orders.rows.filter fun order => order.customerId = customerId).length ≤ 150) :
    PayableRight env db customerId reads ↔ PayableMeets env db customerId reads := by
  constructor
  · rintro ⟨hlisted, hadds, -, -⟩
    obtain ⟨hdiscovered, hshares⟩ :=
      (held_iff_open_iff hsmall).1 ((map_id_perm_iff hsmall).1 hlisted)
    exact ⟨hdiscovered, hshares, (addsUp_iff hsmall).1 hadds⟩
  · rintro ⟨hdiscovered, hshares, hcovered⟩
    have hsame := (held_iff_open_iff hsmall).2 ⟨hdiscovered, hshares⟩
    have hpick : (pickPrimaryPayableOrderId env db customerId reads = none ↔ _) ∧ _ :=
      pick_spec hsmall
    refine ⟨(map_id_perm_iff hsmall).2 hsame, (addsUp_iff hsmall).2 hcovered, ?_, ?_⟩
    · simp only [hpick.1, eq_nil_iff_forall_not_mem, hsame]
    · simpa only [hsame] using hpick.2

def storedReads : PortalReads :=
  ⟨⟨id, List.Perm.refl⟩, ⟨id, List.Perm.refl⟩, ⟨id, List.Perm.refl⟩, ⟨id, List.Perm.refl⟩⟩

def journalEnv : Env := { Env.default with useJournalAsSource := true }

def invoiceEntry (orderId : Uuid) (amount : ℤ) : JournalEntry where
  source := "INVOICE"
  sourceRef := [.word "INVOICE", .id orderId]
  actorUserId := "owner"
  customerId := some "customer"
  orderId := some orderId
  lines := [debitLine .ACCOUNTS_RECEIVABLE amount, creditLine .REVENUE amount]

def partlyInvoiced : Db :=
  { Sample.shop ⟨0, 40000⟩
      ⟨[Sample.order "first", Sample.order "second"], Sample.twoOrders_nodup⟩ with
    journal := [invoiceEntry "first" 20000,
      (paymentLinkReceivableEntry "second" "customer" 20000).input.entry] }

theorem payableRight_iff_partlyInvoiced :
    PayableRight journalEnv partlyInvoiced "customer" storedReads ↔
      PayableMeets journalEnv partlyInvoiced "customer" storedReads :=
  payableRight_iff (by decide)

/-- Only the invoiced order is listed. -/
theorem not_payableRight_partlyInvoiced :
    ¬ PayableRight journalEnv partlyInvoiced "customer" storedReads := by
  intro hright
  have hlisted := hright.listed.length_eq
  revert hlisted
  decide +kernel

end SafariLaundry.CustomerPortal
