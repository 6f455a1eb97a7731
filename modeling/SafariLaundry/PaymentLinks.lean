import SafariLaundry.GatewayFinalize
import SafariLaundry.Receivables

/-!
# Payment links

A payment link is a charge at the gateway.  `createPaymentLink` asks for one, and
`ensurePaymentLinkForUnpaidOrder` keeps the link and the amount it charges on the row
of the order, and hands the link out again while the amount stays the same.
-/

namespace SafariLaundry

open Library Library.Transaction

structure PaymentLink where
  url : String
  trackId : Option String
  deriving DecidableEq

/-- How payments are configured, and what comes of a charge request for an order and an
amount in fils: a link, or what the method throws. -/
structure LinkProvider where
  /-- The base of the mock links, where mock checkout is available. -/
  mockCheckout : Option String
  apiKey : String
  charge : Uuid → ℤ → Except ServiceError PaymentLink

def mockLink (base : String) (orderId : Uuid) : PaymentLink where
  url := base ++ "/api/payments/mock-checkout?orderId=" ++ orderId
  trackId := some ("mock-" ++ orderId)

def createPaymentLink (provider : LinkProvider) (orderId : Uuid) (amount : ℤ) :
    Tx PaymentLink :=
  match provider.mockCheckout with
  | some base => pure (mockLink base orderId)
  | none => do
      require (provider.apiKey ≠ "") (.serviceUnavailable
        "Payment link is not configured (PAYMENTS_API_KEY missing)")
      require (0 < toFils amount) (.badRequest "Invalid order amount for payment link")
      ofExcept (provider.charge orderId (toFils amount))

theorem commits_createPaymentLink {provider : LinkProvider} {orderId : Uuid} {amount : ℤ}
    {link : PaymentLink} {db db' : Db}
    (hcommits : (createPaymentLink provider orderId amount).Commits db link db') :
    db' = db ∧ (link ∈ provider.mockCheckout.map (mockLink · orderId) ∨
      provider.mockCheckout = none ∧
        provider.charge orderId (toFils amount) = .ok link) := by
  unfold createPaymentLink at hcommits
  cases hmock : provider.mockCheckout with
  | some base =>
      simp only [hmock, commits_pure] at hcommits
      exact ⟨hcommits.2.symm, .inl (by simp [hcommits.1])⟩
  | none =>
      simp only [hmock, commits_bind, commits_require, commits_ofExcept] at hcommits
      obtain ⟨_, _, ⟨_, rfl⟩, _, _, ⟨_, rfl⟩, hcharge, rfl⟩ := hcommits
      exact ⟨rfl, .inr ⟨rfl, hcharge⟩⟩

def linkedRow (link : PaymentLink) (charge : Option ℤ) (order : Order) : Order :=
  { order with
    posHostedPaymentUrl := some link.url
    posGatewayTrackId := link.trackId
    posGatewayChargeKd := charge }

theorem linkedRow_id (link : PaymentLink) (charge : Option ℤ) (order : Order) :
    (linkedRow link charge order).id = order.id := rfl

def PaymentLinkChargeMatches (stored current : ℤ) : Prop :=
  |stored - current| ≤ invoiceRemainingTolerance
  deriving Decidable

def Order.storedLink (order : Order) (charge : ℤ) : Option PaymentLink :=
  match order.posHostedPaymentUrl, order.posGatewayTrackId, order.posGatewayChargeKd with
  | some url, some trackId, some stored =>
      if url ≠ "" ∧ trackId ≠ "" ∧ PaymentLinkChargeMatches stored charge then
        some ⟨url, some trackId⟩
      else none
  | _, _, _ => none

def linkCharge (env : Env) (order : Order) (asked : Option ℤ) (db : Db) : ℤ :=
  match asked with
  | some amount => amount
  | none =>
      let remaining := (computeOrderRemainingBalancesBatch env db [order.id] order.id).getD 0
      if remaining ≤ invoiceRemainingTolerance ∧ order.status = .PENDING ∧
          order.cashStatus = .UNPAID ∧ order.walletSettledAt = none then order.totalPrice
      else remaining

def ensurePaymentLinkForUnpaidOrder (env : Env) (provider : LinkProvider) (orderId : Uuid)
    (asked : Option ℤ) : Tx PaymentLink := do
  let order ← fetch (fun db => db.orders.find? orderId) (.badRequest "Order not found")
  require (order.status ≠ .CANCELED) (.badRequest "Order is canceled")
  let charge ← reads (linkCharge env order asked)
  require (invoiceRemainingTolerance < charge) (.badRequest "Order is already paid")
  match order.storedLink charge with
  | some link => pure link
  | none => do
      let link ← createPaymentLink provider order.id charge
      updateOrder order.id (linkedRow link (some charge)) (linkedRow_id link (some charge))
      let persisted ← reads fun db => (db.orders.find? order.id).bind Order.posGatewayTrackId
      require (persisted.any (fun id => id ≠ "") = true) (.error
        ("Failed to persist gateway track id. Check database and " ++
          "Order.posGatewayTrackId column."))
      pure link

end SafariLaundry
