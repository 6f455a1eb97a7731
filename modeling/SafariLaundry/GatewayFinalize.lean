import SafariLaundry.GatewayText
import SafariLaundry.OrderCompletion

/-!
# Finalizing a gateway payment

`finalizePaidOrderFromGateway` completes one order, or the pending orders of a
bundle one transaction after the other.  Each order is read first, checked
against the metadata, claimed by a conditional update, and then settled and
recorded as a sale.  The part after the read takes the row as an argument, so
that it can also be run on a row that was read earlier.
-/

namespace SafariLaundry

open Library Library.Bookkeeping Library.Transaction

/-- An amount of the gateway's: absent, not a number, or a number, which is read
to the nearest fils. -/
inductive GatewayAmount
  | missing
  | unreadable
  | fils (amount : ℤ)

def parseKwdMinor : GatewayAmount → Option ℤ
  | .missing | .unreadable => none
  | .fils amount => some amount

def GatewayAmount.asText : GatewayAmount → GatewayAmount
  | .missing => .fils 0
  | amount => amount

def toFils (minor : ℤ) : ℤ :=
  (minor + 5) / 10

structure FinalizeMetadata where
  provider : String
  devMock : Bool
  (trackId paymentId tranId result : Option String)
  amount : GatewayAmount
  currency : Option String

def validInquiryId (raw : Option String) : Option String :=
  (trimmed raw).filter isValidInquiryId

def extractTrackIdFromFinalizeGatewayMetadata (metadata : Option FinalizeMetadata) :
    Option String :=
  metadata.bind fun m =>
    (validInquiryId m.tranId).orElse fun _ =>
      (validInquiryId m.trackId).orElse fun _ => validInquiryId m.paymentId

def upperText (text : String) : String :=
  String.ofList (text.toList.map Char.toUpper)

def validateFinalizeGatewayMetadata (metadata : Option FinalizeMetadata) (orderTotal : ℤ)
    (storedTrackId incomingTrackId : Option String) : Option String :=
  match metadata with
  | none => none
  | some m =>
      if m.devMock = true ∨ m.provider = "legacy-hmac" ∨ m.provider ≠ "upayments" then none
      else
        match trimmed incomingTrackId with
        | none => some "missing_trans_id"
        | some incoming =>
            if (trimmed storedTrackId).any (fun stored => stored ≠ incoming) = true then
              some "trans_mismatch"
            else if parseKwdMinor m.amount ≠ some (toFils orderTotal) then
              some "amount_mismatch"
            else if (trimmed m.currency).any (fun c => upperText c ≠ "KWD") = true then
              some "currency_mismatch"
            else none

def IsCapturedFinalizeMetadata (metadata : Option FinalizeMetadata) : Prop :=
  ∃ m ∈ metadata, ∃ result ∈ m.result, upperText (trim result) = "CAPTURED"

instance (metadata : Option FinalizeMetadata) :
    Decidable (IsCapturedFinalizeMetadata metadata) :=
  match metadata with
  | none => .isFalse (by rintro ⟨m, hm, _⟩; cases hm)
  | some m =>
      match hresult : m.result with
      | none => .isFalse (by
          rintro ⟨m', hm, result, hmem, _⟩
          cases hm
          rw [hresult] at hmem
          cases hmem)
      | some result => decidable_of_iff (upperText (trim result) = "CAPTURED") (by
          constructor
          · intro hcaptured
            exact ⟨m, rfl, result, hresult, hcaptured⟩
          · rintro ⟨m', hm, result', hmem, hcaptured⟩
            cases hm
            rw [hresult] at hmem
            cases hmem
            exact hcaptured)

def amountDueAtFinalize (order : Order) (db : Db) : ℤ :=
  match order.posPaymentBundleId.bind db.bundles.find? with
  | some bundle => bundle.totalAmountKd
  | none => order.totalPrice

/-- The checks fail and the result does not force the finalization. -/
def FinalizeRejected (order : Order) (metadata : Option FinalizeMetadata) (db : Db) : Prop :=
  validateFinalizeGatewayMetadata metadata (amountDueAtFinalize order db)
      order.posGatewayTrackId (extractTrackIdFromFinalizeGatewayMetadata metadata) ≠ none ∧
    ¬ IsCapturedFinalizeMetadata metadata
  deriving Decidable

def Order.Claimable (order : Order) : Prop :=
  order.walletSettledAt = none ∧ order.status ≠ .COMPLETED
  deriving Decidable

def claimedByGateway (env : Env) (incoming : Option String) (order : Order) : Order :=
  { order with
    status := .COMPLETED
    cashStatus := cashStatusForPaymentMethod .ONLINE
    completedAt := some env.now
    posPaymentMethod := .ONLINE
    walletSettledAt := none
    posGatewayTrackId := incoming.orElse fun _ => order.posGatewayTrackId }

theorem claimedByGateway_id (env : Env) (incoming : Option String) (order : Order) :
    (claimedByGateway env incoming order).id = order.id := rfl

def claimedOrders (env : Env) (orderId : Uuid) (incoming : Option String)
    (orders : Table Order.id) : Table Order.id :=
  orders.updateWhere (fun row => row.id = orderId ∧ row.Claimable)
    (claimedByGateway env incoming) (claimedByGateway_id env incoming)

def claimOrder (env : Env) (orderId : Uuid) (incoming : Option String) : Tx Bool := do
  let hit ← reads fun db =>
    (db.orders.find? orderId).any fun row => decide row.Claimable
  modify fun db => { db with orders := claimedOrders env orderId incoming db.orders }
  pure hit

def hostedLinkRoute : SaleRoute :=
  ⟨"POS checkout (hosted link)", "GATEWAY"⟩

def gatewayCompletion (order : Order) (performerId : Uuid) : SaleCompletion where
  order := order
  method := .ONLINE
  performerId := performerId
  extra := ⟨some order.totalPrice, some order.totalPrice, false, true⟩
  sale := some hostedLinkRoute

def gatewayPerformer (order : Order) (db : Db) : Option Uuid :=
  order.driverId.orElse fun _ => fallbackOwner db

def finalizeClaimed (env : Env) (order : Order) (incoming : Option String) : Tx Bool := do
  let claimed ← claimOrder env order.id incoming
  if claimed = true then do
    let performerId ← fetch (gatewayPerformer order)
      (.badRequest "No performer available to attribute the link payment to")
    settleCompleted env (gatewayCompletion order performerId)
    pure true
  else pure false

def finalizeAfterRead (env : Env) (order : Order) (metadata : Option FinalizeMetadata) :
    Tx Bool := do
  if order.walletSettledAt ≠ none ∨ order.status = .COMPLETED then pure false else do
    require (order.status ≠ .CANCELED)
      (.badRequest "Order is canceled — cannot finalize a link payment for it")
    let rejected ← reads fun db => decide (FinalizeRejected order metadata db)
    if rejected = true then pure false
    else finalizeClaimed env order (extractTrackIdFromFinalizeGatewayMetadata metadata)

def finalizeSinglePaidOrderFromGateway (env : Env) (orderId : Uuid)
    (metadata : Option FinalizeMetadata) : Tx Bool :=
  transaction do
    let order ← fetch (fun db => db.orders.find? orderId) (.badRequest "Order not found")
    finalizeAfterRead env order metadata

def pendingBundleOrders (referenceId : Uuid) (db : Db) : List Uuid :=
  match db.bundles.find? referenceId with
  | none => []
  | some bundle =>
      ((db.orders.rows.filter fun order =>
          order.posPaymentBundleId = some bundle.id ∧ order.status = .PENDING).insertionSort
        fun first second => first.createdAt ≤ second.createdAt).map Order.id

def finalizeEach (env : Env) (metadata : Option FinalizeMetadata) : List Uuid → Tx Bool
  | [] => pure false
  | orderId :: rest => do
      let did ← finalizeSinglePaidOrderFromGateway env orderId metadata
      let others ← finalizeEach env metadata rest
      pure (did || others)

def finalizePaidOrderFromGateway (env : Env) (referenceId : Uuid)
    (metadata : Option FinalizeMetadata) : Tx Bool := do
  let pending ← reads (pendingBundleOrders referenceId)
  if pending ≠ [] then finalizeEach env metadata pending
  else finalizeSinglePaidOrderFromGateway env referenceId metadata

structure GatewayFinalized (env : Env) (order : Order) (incoming : Option String)
    (performerId : Uuid) (db db' : Db) : Prop where
  row : ∃ row, db.orders.find? order.id = some row ∧ row.Claimable
  performer : gatewayPerformer order db = some performerId
  completes : Completes env (gatewayCompletion order performerId)
    { db with orders := claimedOrders env order.id incoming db.orders } db'

variable {env : Env} {orderId : Uuid} {incoming : Option String}
  {metadata : Option FinalizeMetadata}

theorem claimedOrders_of_not_claimable {orders : Table Order.id}
    (hnone : ∀ row, orders.find? orderId = some row → ¬ row.Claimable) :
    claimedOrders env orderId incoming orders = orders := by
  apply Table.updateWhere_eq_self
  rintro row hmem ⟨rfl, hclaimable⟩
  exact hnone row (Table.find?_of_mem hmem) hclaimable

theorem find?_claimedOrders {orders : Table Order.id} {row : Order}
    (hfind : orders.find? orderId = some row) (hclaimable : row.Claimable) :
    (claimedOrders env orderId incoming orders).find? orderId =
      some (claimedByGateway env incoming row) := by
  unfold claimedOrders
  rw [Table.find?_updateWhere, hfind, Option.map_some,
    if_pos ⟨Table.key_of_find? hfind, hclaimable⟩]

theorem commits_finalizeClaimed {order : Order} {did : Bool} {db db' : Db} (henv : env.StoreHealthy)
    (hcommits : (finalizeClaimed env order incoming).Commits db did db') :
    (did = false ∧ db' = db ∧ ∀ row, db.orders.find? order.id = some row → ¬ row.Claimable) ∨
      (did = true ∧ ∃ performerId, GatewayFinalized env order incoming performerId db db') := by
  unfold finalizeClaimed claimOrder at hcommits
  simp only [commits_bind, commits_reads, commits_modify, commits_pure] at hcommits
  obtain ⟨claimed, _, ⟨hit, _, ⟨hhit, rfl⟩, _, _, rfl, rfl, rfl⟩, hrest⟩ := hcommits
  by_cases hclaimed : hit = true
  · rw [if_pos hclaimed] at hrest
    rw [hclaimed] at hhit
    obtain ⟨row, hrow, hclaimable⟩ := (Option.any_eq_true _ _).1 hhit
    simp only [decide_eq_true_eq] at hclaimable
    simp only [commits_bind, commits_fetch, commits_pure] at hrest
    obtain ⟨performerId, _, ⟨hperformer, rfl⟩, _, mid, hsettle, rfl, rfl⟩ := hrest
    have hunsettled : ((claimedOrders env order.id incoming db.orders).find? order.id).bind
        Order.walletSettledAt = none := by
      rw [find?_claimedOrders hrow hclaimable]
      rfl
    exact .inr ⟨rfl, performerId, ⟨row, hrow, hclaimable⟩, hperformer,
      commits_settleCompleted henv hunsettled hsettle⟩
  · rw [if_neg hclaimed, commits_pure] at hrest
    have hnone : ∀ row, db.orders.find? order.id = some row → ¬ row.Claimable := by
      intro row hrow hclaimable
      apply hclaimed
      rw [← hhit, hrow]
      simpa using hclaimable
    refine .inl ⟨hrest.1.symm, ?_, hnone⟩
    rw [← hrest.2, claimedOrders_of_not_claimable hnone]

/-- What became of one order: nothing, for one of three reasons, or everything. -/
inductive FinalizeResult (env : Env) (order : Order) (metadata : Option FinalizeMetadata)
    (db : Db) : Bool → Db → Prop
  | duplicate (hdone : order.walletSettledAt ≠ none ∨ order.status = .COMPLETED) :
      FinalizeResult env order metadata db false db
  | rejected (hclaimable : order.Claimable) (hrejected : FinalizeRejected order metadata db) :
      FinalizeResult env order metadata db false db
  | claimLost (hclaimable : order.Claimable)
      (hlost : ∀ row, db.orders.find? order.id = some row → ¬ row.Claimable) :
      FinalizeResult env order metadata db false db
  | finalized {db' : Db} {performerId : Uuid} (hclaimable : order.Claimable)
      (hopen : order.status ≠ .CANCELED) (haccepted : ¬ FinalizeRejected order metadata db)
      (hfinalized : GatewayFinalized env order
        (extractTrackIdFromFinalizeGatewayMetadata metadata) performerId db db') :
      FinalizeResult env order metadata db true db'

theorem commits_finalizeAfterRead {order : Order} {did : Bool} {db db' : Db}
    (henv : env.StoreHealthy)
    (hcommits : (finalizeAfterRead env order metadata).Commits db did db') :
    FinalizeResult env order metadata db did db' := by
  unfold finalizeAfterRead at hcommits
  by_cases hdone : order.walletSettledAt ≠ none ∨ order.status = .COMPLETED
  · rw [if_pos hdone, commits_pure] at hcommits
    obtain ⟨rfl, rfl⟩ := hcommits
    exact .duplicate hdone
  · have hclaimable : order.Claimable := by
      unfold Order.Claimable
      push Not at hdone
      exact hdone
    rw [if_neg hdone] at hcommits
    simp only [commits_bind, commits_require, commits_reads] at hcommits
    obtain ⟨_, _, ⟨hopen, rfl⟩, rejected, _, ⟨hrejected, rfl⟩, hrest⟩ := hcommits
    by_cases hreject : FinalizeRejected order metadata db
    · rw [decide_eq_true hreject] at hrejected
      rw [if_pos hrejected.symm, commits_pure] at hrest
      obtain ⟨rfl, rfl⟩ := hrest
      exact .rejected hclaimable hreject
    · rw [decide_eq_false hreject] at hrejected
      rw [if_neg (by rw [← hrejected]; decide)] at hrest
      rcases commits_finalizeClaimed henv hrest with
        ⟨rfl, rfl, hlost⟩ | ⟨rfl, performerId, hfinalized⟩
      · exact .claimLost hclaimable hlost
      · exact .finalized hclaimable hopen hreject hfinalized

theorem commits_finalizeSingle {did : Bool} {db db' : Db} (henv : env.StoreHealthy)
    (hcommits : (finalizeSinglePaidOrderFromGateway env orderId metadata).Commits db did db') :
    ∃ order, db.orders.find? orderId = some order ∧
      FinalizeResult env order metadata db did db' := by
  unfold finalizeSinglePaidOrderFromGateway transaction at hcommits
  simp only [commits_atomically, commits_bind, commits_fetch] at hcommits
  obtain ⟨order, _, ⟨hrow, rfl⟩, hrest⟩ := hcommits
  exact ⟨order, hrow, commits_finalizeAfterRead henv hrest⟩

end SafariLaundry
