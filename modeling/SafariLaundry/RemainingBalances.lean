import SafariLaundry.Library.Selection
import SafariLaundry.Receivables

/-!
# The open amount of an order does not depend on its batch, except when it does

`computeOrderRemainingBalancesBatch` spreads a customer's unlinked credits over
the orders of the batch, first come first served.  What an order keeps of its own
debt is therefore a function of what stands before it in the batch; this file
computes that function and says for which orders it is constant.
-/

namespace SafariLaundry

open Library Library.Bookkeeping List

/-- What the items of a queue owe together, credits of overpaid items apart. -/
def owedTogether (nets : List (Uuid × ℤ)) : ℤ :=
  tally (fun entry => max 0 entry.2) nets

@[simp] theorem owedTogether_nil : owedTogether [] = 0 := rfl

@[simp] theorem owedTogether_cons (entry : Uuid × ℤ) (nets : List (Uuid × ℤ)) :
    owedTogether (entry :: nets) = max 0 entry.2 + owedTogether nets := rfl

theorem owedTogether_nonneg (nets : List (Uuid × ℤ)) : 0 ≤ owedTogether nets := by
  apply tally_nonneg
  intro entry
  exact le_max_left 0 entry.2

theorem owedTogether_le_of_sublist {part nets : List (Uuid × ℤ)} (hpart : part.Sublist nets) :
    owedTogether part ≤ owedTogether nets := by
  unfold owedTogether
  exact tally_le_of_sublist (fun entry => le_max_left 0 entry.2) hpart

def leftOpen (owed budget before : ℤ) : ℤ :=
  max 0 (owed - max 0 (min (budget - before) owed))

variable {budget : ℤ} {order : Order}

theorem applyCredits_of_nonpos (hbudget : budget ≤ 0) (nets : List (Uuid × ℤ)) :
    applyCredits nets budget = nets := by
  cases nets with
  | nil => rfl
  | cons entry rest =>
      rcases entry with ⟨orderId, owed⟩
      unfold applyCredits
      rw [if_pos hbudget]

/-- The item behind `before` is served from what its predecessors left over. -/
theorem find?_applyCredits (before after : List (Uuid × ℤ)) (orderId : Uuid) (owed : ℤ)
    (budget : ℤ) (hfresh : orderId ∉ before.map Prod.fst) :
    (applyCredits (before ++ (orderId, owed) :: after) budget).find?
        (fun entry => entry.1 = orderId) =
      some (orderId, owed - max 0 (min (budget - owedTogether before) owed)) := by
  induction before generalizing budget with
  | nil =>
      rw [nil_append, owedTogether_nil, sub_zero]
      unfold applyCredits
      by_cases hbudget : budget ≤ 0
      · rw [if_pos hbudget, List.find?_cons_of_pos (by simp)]
        have hnothing : max 0 (min budget owed) = 0 := by omega
        rw [hnothing, sub_zero]
      · rw [if_neg hbudget]
        by_cases howed : owed ≤ 0
        · rw [if_pos howed, List.find?_cons_of_pos (by simp)]
          have hnothing : max 0 (min budget owed) = 0 := by omega
          rw [hnothing, sub_zero]
        · rw [if_neg howed, List.find?_cons_of_pos (by simp)]
          have htaken : max 0 (min budget owed) = min budget owed := by omega
          rw [htaken]
  | cons entry rest ih =>
      rcases entry with ⟨other, otherOwed⟩
      rw [map_cons, mem_cons, not_or] at hfresh
      have hother : ¬ other = orderId := fun heq => hfresh.1 heq.symm
      have hrest := owedTogether_nonneg rest
      rw [cons_append, owedTogether_cons]
      unfold applyCredits
      by_cases hbudget : budget ≤ 0
      · rw [if_pos hbudget, List.find?_cons_of_neg (by simpa using hother)]
        have hlater := ih 0 hfresh.2
        rw [applyCredits_of_nonpos le_rfl] at hlater
        rw [hlater]
        have hfirst : max 0 (min (0 - owedTogether rest) owed) = 0 := by omega
        have hsecond :
            max 0 (min (budget - (max 0 otherOwed + owedTogether rest)) owed) = 0 := by
          omega
        rw [hfirst, hsecond]
      · rw [if_neg hbudget]
        by_cases howed : otherOwed ≤ 0
        · rw [if_pos howed, List.find?_cons_of_neg (by simpa using hother), ih budget hfresh.2]
          have hnone : max 0 otherOwed = 0 := by omega
          simp only [hnone, zero_add]
        · rw [if_neg howed, List.find?_cons_of_neg (by simpa using hother),
            ih (budget - min budget otherOwed) hfresh.2]
          have hsame :
              max 0 (min (budget - min budget otherOwed - owedTogether rest) owed) =
                max 0 (min (budget - (max 0 otherOwed + owedTogether rest)) owed) := by
            omega
          rw [hsame]

/-! ## The batch entry of an order -/

def Tracked (customerId : Uuid) (journal : List JournalEntry) (order : Order) : Prop :=
  order.status ≠ .CANCELED ∧ order.customerId = customerId ∧ HasReceivableLine order.id journal
  deriving Decidable

def netsOf (customerId : Uuid) (journal : List JournalEntry) (rows : List Order) :
    List (Uuid × ℤ) :=
  (rows.filter fun order => Tracked customerId journal order).map
    fun order => (order.id, orderReceivable order.id journal)

theorem netsOf_append (customerId : Uuid) (journal : List JournalEntry)
    (first second : List Order) :
    netsOf customerId journal (first ++ second) =
      netsOf customerId journal first ++ netsOf customerId journal second := by
  unfold netsOf
  rw [filter_append, map_append]

theorem trackedNets_eq (db : Db) (orderIds : List Uuid) (customerId : Uuid) :
    trackedNets db orderIds customerId = netsOf customerId db.journal
        (db.orders.rows.filter fun order => order.id ∈ orderIds) := by
  unfold trackedNets netsOf
  rw [filter_filter]
  congr 2
  funext order
  by_cases hbatch : order.id ∈ orderIds
  · have hsplit : Tracked customerId db.journal order ↔ ¬ order.status = .CANCELED ∧
        order.customerId = customerId ∧ HasReceivableLine order.id db.journal := Iff.rfl
    simp only [hbatch, hsplit, true_and, ne_eq, decide_true, Bool.and_true]
  · simp [hbatch]

def JournalDecides (env : Env) (journal : List JournalEntry) (order : Order) : Prop :=
  order.status ≠ .CANCELED ∧ isJournalAsSourceEnabled env = true ∧
    HasReceivableLine order.id journal
  deriving Decidable

theorem remainingBatch_eq {env : Env} {db : Db} {before after : List Order} {orderIds : List Uuid}
    (hrows : db.orders.rows = before ++ order :: after) (hbatch : order.id ∈ orderIds) :
    computeOrderRemainingBalancesBatch env db orderIds order.id =
      some (if JournalDecides env db.journal order then
        leftOpen (orderReceivable order.id db.journal) (unlinkedCredits order.customerId db.journal)
          (owedTogether (netsOf order.customerId db.journal
            (before.filter fun other => other.id ∈ orderIds)))
      else 0) := by
  have hnodup := db.orders.keysDistinct
  rw [hrows, map_append, map_cons] at hnodup
  have hfresh : order.id ∉ before.map Order.id := by
    intro hmem
    exact (nodup_append.1 hnodup).2.2 _ hmem _ (mem_cons_self ..) rfl
  have hfind :
      (db.orders.rows.filter fun other => other.id ∈ orderIds).find?
        (fun other => other.id = order.id) = some order := by
    rw [hrows, filter_append, filter_cons_of_pos (by simpa using hbatch),
      List.find?_append]
    have hnone :
        (before.filter fun other => other.id ∈ orderIds).find?
          (fun other => other.id = order.id) = none := by
      rw [List.find?_eq_none]
      intro other hother heq
      have hmem := mem_map_of_mem (f := Order.id) (mem_of_mem_filter hother)
      rw [of_decide_eq_true heq] at hmem
      exact hfresh hmem
    rw [hnone, Option.none_or, List.find?_cons_of_pos (by simp)]
  unfold computeOrderRemainingBalancesBatch
  rw [hfind]
  simp only
  by_cases hcanceled : order.status = .CANCELED
  · have hout : ¬ JournalDecides env db.journal order := fun h => h.1 hcanceled
    rw [if_pos hcanceled, if_neg hout]
  · rw [if_neg hcanceled]
    by_cases hjournal :
        isJournalAsSourceEnabled env = true ∧ HasReceivableLine order.id db.journal
    · have hin : JournalDecides env db.journal order := ⟨hcanceled, hjournal⟩
      have htracked : Tracked order.customerId db.journal order :=
        ⟨hcanceled, rfl, hjournal.2⟩
      have hnets :
          trackedNets db orderIds order.customerId = netsOf order.customerId db.journal
                (before.filter fun other => other.id ∈ orderIds) ++
              (order.id, orderReceivable order.id db.journal) :: netsOf order.customerId db.journal
                  (after.filter fun other => other.id ∈ orderIds) := by
        rw [trackedNets_eq, hrows, filter_append,
          filter_cons_of_pos (by simpa using hbatch), netsOf_append]
        congr 1
        unfold netsOf
        rw [filter_cons_of_pos (by simpa using htracked), map_cons]
      have hfreshNets :
          order.id ∉ (netsOf order.customerId db.journal
            (before.filter fun other => other.id ∈ orderIds)).map Prod.fst := by
        intro hmem
        unfold netsOf at hmem
        rw [map_map, mem_map] at hmem
        obtain ⟨other, hother, heq⟩ := hmem
        have hkept := mem_of_mem_filter (mem_of_mem_filter hother)
        exact hfresh (heq ▸ mem_map_of_mem hkept)
      rw [if_pos hjournal, if_pos hin, hnets, find?_applyCredits _ _ _ _ _ hfreshNets]
      rfl
    · have hout : ¬ JournalDecides env db.journal order := fun h => hjournal h.2
      rw [if_neg hjournal, if_neg hout]

theorem leftOpen_mono {owed before before' : ℤ} (hbefore : before ≤ before') :
    leftOpen owed budget before ≤ leftOpen owed budget before' := by
  unfold leftOpen
  omega

theorem leftOpen_first {owed : ℤ} (hbudget : 0 ≤ budget) :
    leftOpen owed budget 0 = max 0 (owed - budget) := by
  unfold leftOpen
  omega

def openAlone (order : Order) (journal : List JournalEntry) : ℤ :=
  max 0 (orderReceivable order.id journal - unlinkedCredits order.customerId journal)

theorem openAlone_nonneg (order : Order) (journal : List JournalEntry) :
    0 ≤ openAlone order journal :=
  le_max_left 0 _

theorem unlinkedCredits_nonneg (customerId : Uuid) (journal : List JournalEntry) :
    0 ≤ unlinkedCredits customerId journal := by
  apply tally_nonneg
  intro entry
  by_cases hunlinked : entry.customerId = some customerId ∧ entry.orderId = none
  · rw [if_pos hunlinked]
    apply sum_nonneg
    intro credit hcredit
    obtain ⟨line, _, rfl⟩ := mem_map.1 hcredit
    by_cases hcounted : line.account = .ACCOUNTS_RECEIVABLE ∧ 0 < line.credit
    · rw [if_pos hcounted]
      exact hcounted.2.le
    · rw [if_neg hcounted]
  · rw [if_neg hunlinked]

theorem remainingBatch_alone (env : Env) {db : Db} (hmem : order ∈ db.orders.rows) :
    computeOrderRemainingBalancesBatch env db [order.id] order.id =
      some (if JournalDecides env db.journal order then
        leftOpen (orderReceivable order.id db.journal)
          (unlinkedCredits order.customerId db.journal) 0
      else 0) := by
  obtain ⟨before, after, hrows⟩ := append_of_mem hmem
  have hnodup := db.orders.keysDistinct
  rw [hrows, map_append, map_cons, nodup_append] at hnodup
  have halone : (before.filter fun other => other.id ∈ [order.id]) = [] := by
    rw [filter_eq_nil_iff]
    intro other hother hheld
    have hid : other.id = order.id := by simpa using hheld
    exact hnodup.2.2 _ (mem_map_of_mem hother) _ (mem_cons_self ..) hid
  rw [remainingBatch_eq hrows (mem_singleton_self _), halone]
  rfl

theorem computeOrderRemainingBalance_eq {env : Env} {db : Db}
    (hfind : db.orders.find? order.id = some order) :
    computeOrderRemainingBalance env db order.id =
      if JournalDecides env db.journal order then openAlone order db.journal else 0 := by
  unfold computeOrderRemainingBalance
  rw [remainingBatch_alone env (Table.mem_of_find? hfind), Option.getD_some]
  by_cases hdecides : JournalDecides env db.journal order
  · rw [if_pos hdecides, if_pos hdecides]
    exact leftOpen_first (unlinkedCredits_nonneg _ _)
  · rw [if_neg hdecides, if_neg hdecides]

/-! ## Independence of the batch -/

def othersOwed (db : Db) (order : Order) : ℤ :=
  owedTogether (netsOf order.customerId db.journal
    (db.orders.rows.filter fun other => other.id ≠ order.id))

theorem netsOf_sublist {customerId : Uuid} {journal : List JournalEntry}
    {part rows : List Order} (hpart : part.Sublist rows) :
    (netsOf customerId journal part).Sublist (netsOf customerId journal rows) :=
  (hpart.filter _).map _

theorem owedBefore_le_othersOwed {db : Db} {before after : List Order}
    (hrows : db.orders.rows = before ++ order :: after) (p : Order → Bool) :
    owedTogether (netsOf order.customerId db.journal (before.filter p)) ≤
      othersOwed db order := by
  have hnodup := db.orders.keysDistinct
  rw [hrows, map_append, map_cons] at hnodup
  have hbefore : ∀ other ∈ before, other.id ≠ order.id := by
    intro other hother heq
    exact (nodup_append.1 hnodup).2.2 _ (mem_map_of_mem hother) _
      (mem_cons_self ..) heq
  have hkept : (before.filter p).Sublist
      (db.orders.rows.filter fun other => other.id ≠ order.id) := by
    rw [hrows, filter_append]
    have hall : (before.filter fun other => other.id ≠ order.id) = before := by
      rw [filter_eq_self]
      intro other hother
      simpa using hbefore other hother
    rw [hall]
    exact filter_sublist.trans (sublist_append_left _ _)
  exact owedTogether_le_of_sublist (netsOf_sublist hkept)

theorem remainingBatch_mono (env : Env) {db : Db} {orderIds orderIds' : List Uuid}
    (hmem : order ∈ db.orders.rows) (hsub : orderIds' ⊆ orderIds) (hbatch : order.id ∈ orderIds') :
    ∃ few many, computeOrderRemainingBalancesBatch env db orderIds' order.id = some few ∧
      computeOrderRemainingBalancesBatch env db orderIds order.id = some many ∧ few ≤ many := by
  obtain ⟨before, after, hrows⟩ := append_of_mem hmem
  refine ⟨_, _, remainingBatch_eq hrows hbatch, remainingBatch_eq hrows (hsub hbatch), ?_⟩
  have hqueue : owedTogether (netsOf order.customerId db.journal
        (before.filter fun other => other.id ∈ orderIds')) ≤
      owedTogether (netsOf order.customerId db.journal
        (before.filter fun other => other.id ∈ orderIds)) := by
    apply owedTogether_le_of_sublist
    apply netsOf_sublist
    apply monotone_filter_right
    intro other hother
    exact decide_eq_true (hsub (of_decide_eq_true hother))
  split_ifs
  · exact leftOpen_mono hqueue
  · exact le_rfl

/-- The customer's unlinked credits reach this order wherever it stands in the
queue, or nowhere. -/
def ShareSettled (db : Db) (order : Order) : Prop :=
  orderReceivable order.id db.journal ≤ 0 ∨ unlinkedCredits order.customerId db.journal = 0 ∨
    othersOwed db order = 0 ∨
    othersOwed db order + orderReceivable order.id db.journal ≤
      unlinkedCredits order.customerId db.journal
  deriving Decidable

theorem leftOpen_eq_first_iff {owed before : ℤ} (hbefore : 0 ≤ before) (hbudget : 0 ≤ budget) :
    leftOpen owed budget before = leftOpen owed budget 0 ↔
      owed ≤ 0 ∨ budget = 0 ∨ before = 0 ∨ before + owed ≤ budget := by
  unfold leftOpen
  omega

theorem leftOpen_eq_first {owed before total : ℤ} (hbefore : 0 ≤ before) (hle : before ≤ total)
    (hbudget : 0 ≤ budget) (hsettled : owed ≤ 0 ∨ budget = 0 ∨ total = 0 ∨ total + owed ≤ budget) :
    leftOpen owed budget before = leftOpen owed budget 0 := by
  apply (leftOpen_eq_first_iff hbefore hbudget).2
  omega

structure SameRows (db db' : Db) : Prop where
  orders : db'.orders.rows.Perm db.orders.rows
  journal : db'.journal.Perm db.journal

namespace SameRows

variable {db db' : Db}

theorem hasReceivableLine (hsame : SameRows db db') (orderId : Uuid) :
    HasReceivableLine orderId db'.journal ↔ HasReceivableLine orderId db.journal := by
  unfold HasReceivableLine
  constructor
  · rintro ⟨entry, hentry, hline⟩
    exact ⟨entry, hsame.journal.mem_iff.1 hentry, hline⟩
  · rintro ⟨entry, hentry, hline⟩
    exact ⟨entry, hsame.journal.mem_iff.2 hentry, hline⟩

theorem orderReceivable (hsame : SameRows db db') (orderId : Uuid) :
    orderReceivable orderId db'.journal = orderReceivable orderId db.journal :=
  tally_perm _ hsame.journal

theorem unlinkedCredits (hsame : SameRows db db') (customerId : Uuid) :
    unlinkedCredits customerId db'.journal = unlinkedCredits customerId db.journal :=
  tally_perm _ hsame.journal

theorem netsOf (hsame : SameRows db db') (customerId : Uuid) (rows : List Order) :
    netsOf customerId db'.journal rows = netsOf customerId db.journal rows := by
  have htracked : ∀ order,
      Tracked customerId db'.journal order ↔ Tracked customerId db.journal order := by
    intro order
    unfold Tracked
    rw [hsame.hasReceivableLine]
  unfold SafariLaundry.netsOf
  simp only [htracked, hsame.orderReceivable]

theorem othersOwed (hsame : SameRows db db') (order : Order) :
    othersOwed db' order = othersOwed db order := by
  unfold SafariLaundry.othersOwed
  rw [hsame.netsOf]
  exact tally_perm _ (((hsame.orders.filter _).filter _).map _)

theorem journalDecides (hsame : SameRows db db') (env : Env) (order : Order) :
    JournalDecides env db'.journal order ↔ JournalDecides env db.journal order := by
  unfold JournalDecides
  rw [hsame.hasReceivableLine]

end SameRows

/-- The database as a query sees it that asks for orders and names no order of theirs. -/
def Db.ordersAs (db : Db) (arrival : RowOrder Order) : Db :=
  { db with
    orders :=
      { rows := arrival.arrange db.orders.rows
        keysDistinct := ((arrival.perm _).map Order.id).nodup_iff.2 db.orders.keysDistinct } }

theorem remainingBatch_of_settled {env : Env} {db db' : Db} {orderIds : List Uuid}
    (hsame : SameRows db db') (hmem : order ∈ db.orders.rows) (hbatch : order.id ∈ orderIds)
    (hsettled : JournalDecides env db.journal order → ShareSettled db order) :
    computeOrderRemainingBalancesBatch env db' orderIds order.id =
      some (if JournalDecides env db.journal order then
        leftOpen (orderReceivable order.id db.journal)
          (unlinkedCredits order.customerId db.journal) 0
      else 0) := by
  obtain ⟨before, after, hrows⟩ := append_of_mem (hsame.orders.mem_iff.2 hmem)
  rw [remainingBatch_eq hrows hbatch, hsame.orderReceivable, hsame.unlinkedCredits]
  congr 1
  by_cases hdecides : JournalDecides env db.journal order
  · rw [if_pos hdecides, if_pos ((hsame.journalDecides env order).2 hdecides)]
    have hle := owedBefore_le_othersOwed hrows fun other => other.id ∈ orderIds
    rw [hsame.othersOwed] at hle
    exact leftOpen_eq_first (owedTogether_nonneg _) hle (unlinkedCredits_nonneg _ _)
      (hsettled hdecides)
  · rw [if_neg hdecides, if_neg fun h => hdecides ((hsame.journalDecides env order).1 h)]

/-- The entry of an order is the same in every batch that holds it, in whatever
order the rows come back; it is then what `computeOrderRemainingBalance` says. -/
def BatchIndependent (env : Env) (db : Db) (orderId : Uuid) : Prop :=
  (∀ first second : Db, SameRows db first → SameRows db second →
    ∀ batch batch' : List Uuid, orderId ∈ batch → orderId ∈ batch' →
      computeOrderRemainingBalancesBatch env first batch orderId =
        computeOrderRemainingBalancesBatch env second batch' orderId) ∧
  ∀ db', SameRows db db' → ∀ batch : List Uuid, orderId ∈ batch →
    (computeOrderRemainingBalancesBatch env db' batch orderId).getD 0 =
      computeOrderRemainingBalance env db orderId

def rowsLast (before after : List Order) (order : Order)
    (hnodup : ((before ++ order :: after).map Order.id).Nodup) : Table Order.id where
  rows := before ++ after ++ [order]
  keysDistinct := by
    have hperm : (before ++ after ++ [order]).Perm (before ++ order :: after) := by
      rw [append_assoc]
      exact (perm_append_singleton order after).append_left before
    exact (hperm.map Order.id).nodup_iff.2 hnodup

theorem exists_remainingBatch_last (env : Env) {db : Db} (hmem : order ∈ db.orders.rows) :
    ∃ last batch, SameRows db last ∧ order.id ∈ batch ∧
      computeOrderRemainingBalancesBatch env last batch order.id =
        some (if JournalDecides env db.journal order then
          leftOpen (orderReceivable order.id db.journal)
            (unlinkedCredits order.customerId db.journal) (othersOwed db order)
        else 0) := by
  obtain ⟨before, after, hrows⟩ := append_of_mem hmem
  have hnodup := db.orders.keysDistinct
  rw [hrows] at hnodup
  let last : Db := { db with orders := rowsLast before after order hnodup }
  have hlast : SameRows db last := by
    refine ⟨?_, List.Perm.refl _⟩
    rw [hrows]
    change (before ++ after ++ [order]).Perm _
    rw [append_assoc]
    exact (perm_append_singleton order after).append_left before
  have hbatch : order.id ∈ last.orders.rows.map Order.id :=
    mem_map_of_mem (hlast.orders.mem_iff.2 hmem)
  have hlastRows : last.orders.rows = (before ++ after) ++ order :: [] := rfl
  have hall : ((before ++ after).filter fun other =>
      other.id ∈ last.orders.rows.map Order.id) = before ++ after := by
    rw [filter_eq_self]
    intro other hother
    exact decide_eq_true (mem_map_of_mem (mem_append_left _ hother))
  have hothers : owedTogether (netsOf order.customerId db.journal (before ++ after)) =
      othersOwed last order := by
    unfold othersOwed
    rw [hlastRows, filter_append, filter_cons_of_neg (by simp)]
    have hkept : ((before ++ after).filter fun other => other.id ≠ order.id) =
        before ++ after := by
      rw [filter_eq_self]
      intro other hother
      have hlastNodup := last.orders.keysDistinct
      rw [hlastRows, map_append, map_cons, nodup_append] at hlastNodup
      exact decide_eq_true (hlastNodup.2.2 _ (mem_map_of_mem hother) _ (mem_cons_self ..))
    rw [hkept, filter_nil, append_nil]
  refine ⟨last, _, hlast, hbatch, ?_⟩
  rw [remainingBatch_eq hlastRows hbatch, hall, ← hlast.othersOwed, ← hothers]

/-- The entry of an order of the computation does not depend on the rest of its
batch exactly when its share of the customer's unlinked credits is settled. -/
theorem batchIndependent_iff (env : Env) (db : Db) (order : Order) (hmem : order ∈ db.orders.rows) :
    BatchIndependent env db order.id ↔
      (JournalDecides env db.journal order → ShareSettled db order) := by
  constructor
  · intro hindependent hdecides
    obtain ⟨last, batch, hlast, hbatch, hbehind⟩ :=
      exists_remainingBatch_last env hmem
    have heq := hindependent.1 last db hlast ⟨List.Perm.refl _, List.Perm.refl _⟩ batch
      [order.id] hbatch (mem_singleton_self _)
    rw [hbehind, remainingBatch_alone env hmem, if_pos hdecides, if_pos hdecides] at heq
    exact (leftOpen_eq_first_iff (owedTogether_nonneg _)
      (unlinkedCredits_nonneg _ _)).1 (Option.some.inj heq)
  · intro hsettled
    constructor
    · intro first second hfirst hsecond batch batch' hbatch hbatch'
      rw [remainingBatch_of_settled hfirst hmem hbatch hsettled,
        remainingBatch_of_settled hsecond hmem hbatch' hsettled]
    · intro db' hsame batch hbatch
      unfold computeOrderRemainingBalance
      rw [remainingBatch_of_settled hsame hmem hbatch hsettled,
        remainingBatch_of_settled ⟨List.Perm.refl _, List.Perm.refl _⟩ hmem
          (mem_singleton_self _) hsettled]

theorem Sample.twoOrders_nodup :
    ([Sample.order "first", Sample.order "second"].map Order.id).Nodup := by
  decide

def Sample.sharedCreditShop (amount : ℤ) : Db :=
  { Sample.shop ⟨0, 40000 - amount⟩
      ⟨[Sample.order "first", Sample.order "second"], Sample.twoOrders_nodup⟩ with
    journal := [ (paymentLinkReceivableEntry "first" "customer" 20000).input.entry,
      (paymentLinkReceivableEntry "second" "customer" 20000).input.entry,
      { source := "PAYMENT"
        sourceRef := [.word "PAYMENT", .word "CC_PARTIAL_DEBT_PAYMENT", .id "history-0",
          .word "RESIDUAL"]
        actorUserId := "owner"
        customerId := some "customer"
        orderId := none
        lines := [debitLine .BANK_KNET amount, creditLine .ACCOUNTS_RECEIVABLE amount] }] }

theorem batchIndependent_iff_sample :
    BatchIndependent { Env.default with useJournalAsSource := true }
        (Sample.sharedCreditShop 40000) "second" ↔
      (JournalDecides { Env.default with useJournalAsSource := true }
        (Sample.sharedCreditShop 40000).journal (Sample.order "second") →
      ShareSettled (Sample.sharedCreditShop 40000) (Sample.order "second")) :=
  batchIndependent_iff _ (Sample.sharedCreditShop 40000) (Sample.order "second")
    (mem_cons_of_mem _ (mem_singleton_self _))

theorem batchIndependent_fails :
    ¬ BatchIndependent { Env.default with useJournalAsSource := true }
      (Sample.sharedCreditShop 20000) "second" := by
  intro hindependent
  have hpair := hindependent.2 (Sample.sharedCreditShop 20000)
    ⟨List.Perm.refl _, List.Perm.refl _⟩ ["first", "second"] (by decide)
  revert hpair
  decide +kernel

end SafariLaundry
