import SafariLaundry.GatewayFrame
import SafariLaundry.InvoiceCollection

/-!
# Marking an order paid by hand

`manuallyMarkOrderPaidByMethod` reads the order, and then completes it by an
unconditional update, settles it and records the sale; or, for an invoice on
account, hands over to the collection.  The part after the read takes the row as an
argument, as the gateway finalizer's does, so that requests whose reads are stale can
be run against each other.
-/

namespace SafariLaundry

open Library Library.Bookkeeping Library.Transaction

structure ManualMarkArgs where
  orderId : Uuid
  method : PosPaymentMethod
  performedByUserId : Uuid
  external : method.External

namespace ManualMarkArgs

def collection (args : ManualMarkArgs) : DebtInvoiceCollection where
  orderId := args.orderId
  confirmedMethod := args.method
  performedByUserId := args.performedByUserId
  external := args.external

def route : SaleRoute :=
  ⟨"POS checkout (call-center manual)", "MANUAL"⟩

def completion (args : ManualMarkArgs) (order : Order) : SaleCompletion where
  order := order
  method := args.method
  performerId := args.performedByUserId
  extra := ⟨some order.totalPrice, none, true, false⟩
  sale := some route

end ManualMarkArgs

/-- The result of the method; the amount is in fils, as `toFixed(3)` gives it. -/
structure ManualMarkResult where
  orderId : Uuid
  alreadySettled : Bool
  amountKd : ℤ
  posPaymentMethod : PosPaymentMethod

def markedPaid (env : Env) (method : PosPaymentMethod) (order : Order) : Order :=
  { order with
    status := .COMPLETED
    cashStatus := cashStatusForPaymentMethod method
    completedAt := some env.now
    posPaymentMethod := method
    walletSettledAt := none }

theorem markedPaid_id (env : Env) (method : PosPaymentMethod) (order : Order) :
    (markedPaid env method order).id = order.id := rfl

/-- The row read is neither canceled nor settled, so the request goes on to the
update. -/
def Order.Markable (order : Order) : Prop :=
  order.status ≠ .CANCELED ∧ order.walletSettledAt = none
  deriving Decidable

def completeByHand (env : Env) (args : ManualMarkArgs) (order : Order) :
    Tx ManualMarkResult := do
  updateOrder order.id (markedPaid env args.method) (markedPaid_id env args.method)
  settleCompleted env (args.completion order)
  return ⟨order.id, false, toFils order.totalPrice, args.method⟩

def markAfterRead (env : Env) (args : ManualMarkArgs) (order : Order)
    (collect : Tx CollectionKind) : Tx ManualMarkResult := do
  require (order.status ≠ .CANCELED) (.badRequest "Order is canceled — cannot mark it as paid")
  if order.walletSettledAt = none then completeByHand env args order
  else if order.posPaymentMethod = .DEBT_ON_ACCOUNT then do
    let _ ← collect
    return ⟨order.id, false, toFils order.totalPrice, args.method⟩
  else return ⟨order.id, true, toFils order.totalPrice, order.posPaymentMethod⟩

def manuallyMarkOrderPaidByMethod (env : Env) (args : ManualMarkArgs) :
    Tx ManualMarkResult :=
  transaction do
    let order ← fetch (fun db => db.orders.find? args.orderId) (.badRequest "Order not found")
    markAfterRead env args order (recordDebtInvoiceCollectedAtCallCenter env args.collection)

structure ManuallyCompleted (env : Env) (args : ManualMarkArgs) (order : Order)
    (db db' : Db) : Prop where
  row : ∃ row, db.orders.find? order.id = some row
  completes : Completes env (args.completion order)
    { db with
      orders := db.orders.update order.id (markedPaid env args.method)
        (markedPaid_id env args.method) } db'

theorem commits_completeByHand {env : Env} {args : ManualMarkArgs} {order : Order}
    {result : ManualMarkResult} {db db' : Db} (henv : env.StoreHealthy)
    (hcommits : (completeByHand env args order).Commits db result db') :
    ManuallyCompleted env args order db db' := by
  unfold completeByHand at hcommits
  simp only [updateOrder, commits_bind, commits_fetch, commits_modify, commits_pure]
    at hcommits
  obtain ⟨_, _, ⟨row, _, ⟨hrow, rfl⟩, rfl⟩, _, _, hsettle, _, rfl⟩ := hcommits
  refine ⟨⟨row, hrow⟩, commits_settleCompleted henv ?_ hsettle⟩
  change ((db.orders.update order.id (markedPaid env args.method)
    (markedPaid_id env args.method)).find? order.id).bind Order.walletSettledAt = none
  rw [Table.find?_update_self, hrow]
  rfl

inductive ManualResult (env : Env) (args : ManualMarkArgs) (order : Order)
    (collect : Tx CollectionKind) (db db' : Db) : Prop
  | alreadySettled (hsame : db' = db)
  | collected (kind : CollectionKind) (hcollect : collect.Commits db kind db')
  | completed (hmarkable : order.Markable) (hcompleted : ManuallyCompleted env args order db db')

theorem commits_markAfterRead {env : Env} {args : ManualMarkArgs} {order : Order}
    {collect : Tx CollectionKind} {result : ManualMarkResult} {db db' : Db}
    (henv : env.StoreHealthy)
    (hcommits : (markAfterRead env args order collect).Commits db result db') :
    ManualResult env args order collect db db' := by
  unfold markAfterRead at hcommits
  simp only [commits_bind, commits_require] at hcommits
  obtain ⟨_, _, ⟨hopen, rfl⟩, hrest⟩ := hcommits
  by_cases hsettled : order.walletSettledAt = none
  · rw [if_pos hsettled] at hrest
    exact .completed ⟨hopen, hsettled⟩ (commits_completeByHand henv hrest)
  · rw [if_neg hsettled] at hrest
    by_cases hmethod : order.posPaymentMethod = .DEBT_ON_ACCOUNT
    · rw [if_pos hmethod] at hrest
      simp only [commits_bind, commits_pure] at hrest
      obtain ⟨kind, _, hcollect, _, rfl⟩ := hrest
      exact .collected kind hcollect
    · rw [if_neg hmethod, commits_pure] at hrest
      exact .alreadySettled hrest.2.symm

end SafariLaundry
