import SafariLaundry.InvoiceEdits
import SafariLaundry.PaymentRaces

/-!
# The sale rows of an invoice that is edited and voided

An edit takes the old total off the general ledger and puts the new one on; a void takes
the total off.  Both reckon from the row of the order and not from what was posted, so
the distance between the sale rows and the total never changes.
-/

namespace SafariLaundry

open Library Library.Transaction

def soldTotal (orderId : Uuid) (db : Db) : ℤ :=
  ((salesOf orderId db).map GeneralLedgerEntry.amount).sum

/-- What they ought to come to: nothing once the invoice is void. -/
def Order.saleDue (order : Order) : ℤ :=
  if order.status = .CANCELED then 0 else order.totalPrice

def SalesMatch (orderId : Uuid) (db : Db) : Prop :=
  ∀ row, db.orders.find? orderId = some row → soldTotal orderId db = row.saleDue

def salesGap (orderId : Uuid) (db : Db) : Option ℤ :=
  (db.orders.find? orderId).map fun row => soldTotal orderId db - row.saleDue

variable {db : Db}

theorem salesMatch_iff_gap {orderId : Uuid} :
    SalesMatch orderId db ↔ ∀ gap ∈ salesGap orderId db, gap = 0 := by
  simp only [SalesMatch, salesGap, Option.mem_def, Option.map_eq_some_iff]
  constructor
  · rintro hmatch _ ⟨row, hrow, rfl⟩
    exact sub_eq_zero.2 (hmatch row hrow)
  · intro hgap row hrow
    exact sub_eq_zero.1 (hgap _ ⟨row, hrow, rfl⟩)

inductive SaleCorrection
  | edit (env : Env) (args : InvoiceEditArgs)
  | void (env : Env) (args : InvoiceVoidArgs)

namespace SaleCorrection

def env : SaleCorrection → Env
  | .edit env _ | .void env _ => env

def step : SaleCorrection → Db → Db
  | .edit env args, db => ((editInvoice env args).outcome db).2
  | .void env args, db => ((voidInvoice env args).outcome db).2

end SaleCorrection

def saleCorrections : Calls Db SaleCorrection where
  step := SaleCorrection.step
  seen := fun _ => []

/-! ## One correction -/

theorem soldTotal_append {orderId : Uuid} {db' : Db} {rows : List GeneralLedgerEntry}
    (hrows : db'.generalLedger = db.generalLedger ++ rows) :
    soldTotal orderId db' = soldTotal orderId db +
      ((rows.filter fun row => row.entryType = .POS_SALE_COMPLETED ∧
        row.orderId = some orderId).map GeneralLedgerEntry.amount).sum := by
  unfold soldTotal salesOf
  rw [hrows, List.filter_append, List.map_append, List.sum_append]

/-- Rows of the order under a key that changed as `f` changes it, beside new sale rows that
make up the difference. -/
theorem salesGap_update {order : Order} {db db' : Db} {f : Order → Order}
    {hf : ∀ row, (f row).id = row.id} {rows : List GeneralLedgerEntry} (orderId : Uuid)
    (hrow : db.orders.find? order.id = some order)
    (horders : db'.orders = db.orders.update order.id f hf)
    (hledger : db'.generalLedger = db.generalLedger ++ rows)
    (howned : ∀ row ∈ rows, row.entryType = .POS_SALE_COMPLETED ∧ row.orderId = some order.id)
    (hdue : (rows.map GeneralLedgerEntry.amount).sum = (f order).saleDue - order.saleDue) :
    salesGap orderId db' = salesGap orderId db := by
  unfold salesGap
  rw [horders, soldTotal_append hledger]
  by_cases hid : orderId = order.id
  · have hall : rows.filter (fun row => row.entryType = .POS_SALE_COMPLETED ∧
        row.orderId = some orderId) = rows := by
      apply List.filter_eq_self.2
      intro row hmem
      rw [hid]
      exact decide_eq_true (howned row hmem)
    rw [hall, hid, Table.find?_update_self, hrow, hdue]
    change some (soldTotal order.id db + ((f order).saleDue - order.saleDue) -
      (f order).saleDue) = some (soldTotal order.id db - order.saleDue)
    congr 1
    omega
  · have hnone : rows.filter (fun row => row.entryType = .POS_SALE_COMPLETED ∧
        row.orderId = some orderId) = [] := by
      apply List.filter_eq_nil_iff.2
      intro row hmem hhit
      have hother := (of_decide_eq_true hhit).2
      rw [(howned row hmem).2] at hother
      exact hid (Option.some.inj hother).symm
    rw [hnone, Table.find?_update_of_ne _ _ _ hid]
    simp

theorem InvoiceEdited.salesGap_eq {args : InvoiceEditArgs} {order : Order} {wallet : CustomerWallet}
    {db' : Db} (orderId : Uuid) (hrow : db.orders.find? order.id = some order)
    (hopen : order.status ≠ .CANCELED) (hedited : InvoiceEdited args order wallet db db') :
    salesGap orderId db' = salesGap orderId db := by
  obtain ⟨lines, failures, rfl⟩ := hedited
  apply @salesGap_update order db _ (args.repriced order) (args.repriced_id order) _ orderId
    hrow rfl rfl
  · intro row hmem
    unfold InvoiceEditArgs.saleRows at hmem
    rw [List.mem_ite_nil_right, List.mem_pair] at hmem
    rcases hmem.2 with rfl | rfl
    · exact ⟨rfl, rfl⟩
    · exact ⟨rfl, rfl⟩
  · have hold : order.saleDue = order.totalPrice := if_neg hopen
    have hnew : (args.repriced order order).saleDue = args.dto.newTotal order := if_neg hopen
    rw [hold, hnew]
    unfold InvoiceEditArgs.saleRows
    by_cases hchanged : args.dto.newTotal order ≠ order.totalPrice ∨
        args.dto.newMethod order ≠ order.posPaymentMethod
    · rw [if_pos hchanged]
      change -order.totalPrice + (args.dto.newTotal order + 0) = _
      omega
    · rw [if_neg hchanged]
      have hsame : args.dto.newTotal order = order.totalPrice :=
        not_not.1 fun hne => hchanged (.inl hne)
      rw [hsame, sub_self]
      rfl

theorem InvoiceVoided.salesGap_eq {args : InvoiceVoidArgs} {order : Order} {wallet : CustomerWallet}
    {orderAr : ℤ} {db' : Db} (orderId : Uuid) (hrow : db.orders.find? order.id = some order)
    (hopen : order.status ≠ .CANCELED) (hvoided : InvoiceVoided args order wallet orderAr db db') :
    salesGap orderId db' = salesGap orderId db := by
  obtain ⟨memo, failures, rfl⟩ := hvoided
  apply @salesGap_update order db _ voidedOrder voidedOrder_id _ orderId hrow rfl rfl
  · intro row hmem
    obtain rfl := List.mem_singleton.1 hmem
    exact ⟨rfl, rfl⟩
  · have hold : order.saleDue = order.totalPrice := if_neg hopen
    have hnew : (voidedOrder order).saleDue = 0 := if_pos rfl
    rw [hold, hnew]
    change -order.totalPrice + 0 = _
    omega

theorem outcome_voidInvoice (env : Env) (args : InvoiceVoidArgs) (db : Db) :
    (voidInvoice env args).outcome db = (voidInvoiceSeeing env args ⟨db, db, db⟩).outcome db := by
  have hread : (get : Tx Db).outcome db = (.ok db, db) := rfl
  rw [voidInvoice, outcome_bind, hread]

/-- A correction that goes through moves sale rows and total alike; one that is refused
moves neither. -/
theorem SaleCorrection.salesGap_step {correction : SaleCorrection} (orderId : Uuid)
    (henv : correction.env.StoreHealthy) :
    salesGap orderId (correction.step db) = salesGap orderId db := by
  let R : Db → Db → Prop := fun before after => salesGap orderId after = salesGap orderId before
  have hrefused : ∀ after : Db,
      R db { db with journalFailures := after.journalFailures } := fun _ => rfl
  cases correction with
  | edit env args =>
      have hkeeps : KeepsAt R db (editInvoiceSeeing env args ⟨db, db⟩) := by
        apply keepsAt_atomically _ hrefused
        intro result db' hcommits
        have hdone : (editInvoice env args).Commits db result db' := by
          unfold Commits
          rw [outcome_editInvoice]
          exact commits_atomically.2 hcommits
        obtain ⟨order, hrow, hopen, _, heditedTo⟩ := commits_editInvoice henv hdone
        have hedited := heditedTo.edited
        rw [← Table.key_of_find? hrow] at hrow
        exact hedited.salesGap_eq orderId hrow hopen
      unfold KeepsAt at hkeeps
      rw [← outcome_editInvoice] at hkeeps
      exact hkeeps
  | void env args =>
      have hkeeps : KeepsAt R db (voidInvoiceSeeing env args ⟨db, db, db⟩) := by
        apply keepsAt_atomically _ hrefused
        intro result db' hcommits
        have hdone : (voidInvoice env args).Commits db result db' := by
          unfold Commits
          rw [outcome_voidInvoice]
          exact commits_atomically.2 hcommits
        obtain ⟨order, hrow, hopen, hvoided⟩ := commits_voidInvoice henv hdone
        rw [← Table.key_of_find? hrow] at hrow
        exact hvoided.salesGap_eq orderId hrow hopen
      unfold KeepsAt at hkeeps
      rw [← outcome_voidInvoice] at hkeeps
      exact hkeeps

/-- In any sequence of edits and voids the sale rows of an order come to its total after
a step exactly if they did at the start. -/
theorem saleCorrections_match_iff {orderId : Uuid} {start : Db} {trace : List Db}
    (hrun : saleCorrections.Run (fun correction _ => correction.env.StoreHealthy) start trace) :
    ∀ db ∈ trace, SalesMatch orderId db ↔ SalesMatch orderId start := by
  have hstep : ∀ correction db, salesGap orderId db = salesGap orderId start →
      (∀ t ∈ saleCorrections.seen correction, salesGap orderId t = salesGap orderId start) →
      correction.env.StoreHealthy →
      salesGap orderId (saleCorrections.step correction db) = salesGap orderId start := by
    intro correction db hgap _ henv
    exact (correction.salesGap_step orderId henv).trans hgap
  have hgap : ∀ db ∈ trace, salesGap orderId db = salesGap orderId start :=
    hrun.invariant rfl hstep
  intro db hdb
  rw [salesMatch_iff_gap, salesMatch_iff_gap, hgap db hdb]

namespace Sample

def accountSold : Db :=
  { accountShop with
    generalLedger := [saleCorrectionRow accountOrder "owner" 20000 "POS checkout"] }

def ownersCorrection (total : ℤ) : SaleCorrection :=
  .edit Env.default (ownersEdit total).args

theorem ownersCorrection_run (start : Db) :
    saleCorrections.Run (fun correction _ => correction.env.StoreHealthy) start
      [saleCorrections.step (ownersCorrection 30000) start, start] := by
  apply Calls.Run.call (ownersCorrection 30000) .start
  · intro t ht
    cases ht
  · intro _
    rfl

end Sample

theorem saleCorrections_match_iff_sample :
    SalesMatch "order"
      (saleCorrections.step (Sample.ownersCorrection 30000) Sample.accountSold) := by
  apply (saleCorrections_match_iff (Sample.ownersCorrection_run Sample.accountSold) _
    (List.mem_cons_self ..)).2
  intro row hrow
  have hfound : Sample.accountSold.orders.find? "order" = some Sample.accountOrder := by
    decide +kernel
  obtain rfl := Option.some.inj (hfound.symm.trans hrow)
  decide +kernel

theorem saleCorrections_match_fails :
    ¬ ∀ (orderId : Uuid) (start : Db) (trace : List Db), salesOf orderId start = [] →
      saleCorrections.Run (fun correction _ => correction.env.StoreHealthy) start trace →
      ∀ db ∈ trace.dropLast, SalesMatch orderId db := by
  intro hall
  have hmatch := hall "order" Sample.accountShop _ rfl
    (Sample.ownersCorrection_run Sample.accountShop) _ (List.mem_cons_self ..)
  have hgap : salesGap "order" (saleCorrections.step (Sample.ownersCorrection 30000)
      Sample.accountShop) = some (-20000) := by
    decide +kernel
  exact absurd (salesMatch_iff_gap.1 hmatch _ hgap) (by decide)

end SafariLaundry
