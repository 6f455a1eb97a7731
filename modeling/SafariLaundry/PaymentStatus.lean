import SafariLaundry.GatewayFinalize

/-!
# Asking the gateway

`checkPaymentStatus` asks the gateway about a payment and finalizes the order or
bundle that the answer, the caller or the stored inquiry id points to.  Between
the answer and the finalization nothing is written, so that part is one pure
verdict.  Every answer the gateway gave is kept in a log beside the database.
-/

namespace SafariLaundry

open Library Library.Transaction

structure InquiryData where
  (result transactionId paymentId reference : Option String)
  amount : GatewayAmount
  (currency customerExtraData orderId orderReference : Option String)

/-- The answer of an inquiry: `ok` unless the call failed or said `status: false`. -/
structure InquiryAnswer where
  ok : Bool
  data : InquiryData

def InquiryData.empty : InquiryData where
  result := none
  transactionId := none
  paymentId := none
  reference := none
  amount := .missing
  currency := none
  customerExtraData := none
  orderId := none
  orderReference := none

structure Report where
  inquiryId : String
  answer : InquiryAnswer

/-- What get-payment-status answers to its `n`-th inquiry. -/
abbrev Gateway := ℕ → String → InquiryAnswer

/-- A service method that also talks to the gateway. -/
abbrev Online (α : Type) := Library.Transaction ServiceError (Db × List Report) α

def fetchGatewayStatus (gateway : Gateway) (trackId : String) : Online InquiryAnswer := do
  if isValidInquiryId trackId = true then do
    let answer ← reads fun world => gateway world.2.length (trim trackId)
    modify fun world => (world.1, world.2 ++ [⟨trim trackId, answer⟩])
    pure answer
  else pure ⟨false, InquiryData.empty⟩

def InquiryAnswer.Captured (answer : InquiryAnswer) : Prop :=
  isSuccessStatus (answer.data.result.getD "") = true
  deriving Decidable

def Order.Paid (order : Order) : Prop :=
  order.status = .COMPLETED ∨ order.walletSettledAt ≠ none
  deriving Decidable

def bundleOrders (bundleId : Uuid) (db : Db) : List Order :=
  db.orders.rows.filter fun order => order.posPaymentBundleId = some bundleId

structure GatewayReference where
  id : Uuid
  amount : ℤ
  trackId : Option String
  isPaid : Bool

def Order.gatewayReference (order : Order) : GatewayReference where
  id := order.id
  amount := order.totalPrice
  trackId := order.posGatewayTrackId
  isPaid := decide order.Paid

def bundleReference (bundle : PosPaymentBundle) (orders : List Order) :
    GatewayReference where
  id := bundle.id
  amount := bundle.totalAmountKd
  trackId := orders.findSome? fun order => order.posGatewayTrackId.filter fun t => t ≠ ""
  isPaid := orders ≠ [] && orders.all fun order => decide order.Paid

def getGatewayReferenceForFinalize (referenceId : Uuid) (db : Db) :
    Option GatewayReference :=
  match db.orders.find? referenceId with
  | some order => some order.gatewayReference
  | none => (db.bundles.find? referenceId).map fun bundle =>
      bundleReference bundle (bundleOrders bundle.id db)

theorem gatewayReference_id {referenceId : Uuid} {db : Db} {reference : GatewayReference}
    (hlookup : getGatewayReferenceForFinalize referenceId db = some reference) :
    reference.id = referenceId := by
  unfold getGatewayReferenceForFinalize at hlookup
  cases horder : db.orders.find? referenceId with
  | some order =>
      rw [horder] at hlookup
      obtain rfl := Option.some.inj hlookup
      have hkey := Table.key_of_find? horder
      exact hkey
  | none =>
      rw [horder] at hlookup
      obtain ⟨bundle, hbundle, rfl⟩ := Option.map_eq_some_iff.1 hlookup
      have hkey := Table.key_of_find? hbundle
      exact hkey

def isGatewayReferencePaid (referenceId : Uuid) (db : Db) : Bool :=
  match db.orders.find? referenceId with
  | some order => decide order.Paid
  | none => (db.bundles.find? referenceId).any fun bundle =>
      (bundleReference bundle (bundleOrders bundle.id db)).isPaid

def findOrderByTrackId (trackId : String) (db : Db) : Option Uuid :=
  (db.orders.rows.find? fun order => order.posGatewayTrackId = some trackId).map Order.id

/-! ## The verdict -/

/-- The reference that `checkPaymentStatus` reads in an answer. -/
def inquiryReference (data : InquiryData) : Option Uuid :=
  (trimmed data.orderId).orElse fun _ =>
    extractOrderIdFromUpaymentsExtraData data.customerExtraData

def ForcesFinalize (data : InquiryData) : Prop :=
  data.result = some "CAPTURED"
  deriving Decidable

inductive CheckVerdict
  | refused
  | alreadyPaid
  | finalize (referenceId : Uuid)

/-- The checks of one reference: the stored id, the amount and the currency, all
left out for a result of exactly `CAPTURED`. -/
def MatchesReference (clean : String) (data : InquiryData) (reference : GatewayReference) :
    Prop :=
  ForcesFinalize data ∨ ((trimmed reference.trackId).all (fun stored => stored = clean) = true ∧
      parseKwdMinor data.amount = some (toFils reference.amount) ∧
      (trimmed data.currency).all (fun c => upperText c = "KWD") = true)
  deriving Decidable

def checkReference (clean : String) (expected : Option Uuid) (data : InquiryData) (db : Db) :
    Option Uuid :=
  (inquiryReference data).orElse fun _ => expected.orElse fun _ => findOrderByTrackId clean db

def checkVerdict (clean : String) (expected : Option Uuid) (answer : InquiryAnswer)
    (db : Db) : CheckVerdict :=
  if answer.ok = false ∨ ¬ answer.Captured then .refused
  else
    match checkReference clean expected answer.data db with
    | none => .refused
    | some referenceId =>
        if expected.any (fun id => id ≠ referenceId) = true then .refused
        else
          match getGatewayReferenceForFinalize referenceId db with
          | none => .refused
          | some reference =>
              if reference.isPaid = true then .alreadyPaid
              else if MatchesReference clean answer.data reference then .finalize reference.id
              else .refused

def checkMetadata (clean : String) (data : InquiryData) : FinalizeMetadata where
  provider := "upayments"
  devMock := false
  trackId := some clean
  paymentId := data.paymentId
  tranId := data.transactionId
  result := data.result
  amount := data.amount.asText
  currency := (trimmed data.currency).map upperText

structure CheckResult where
  finalized : Bool
  gatewayResult : Option String

def finalizeVerdict (env : Env) (clean : String) (data : InquiryData) :
    CheckVerdict → Online CheckResult
  | .refused => pure ⟨false, data.result⟩
  | .alreadyPaid => pure ⟨true, data.result⟩
  | .finalize referenceId => do
      let finalized ← onFirst
        (finalizePaidOrderFromGateway env referenceId (some (checkMetadata clean data)))
      pure ⟨finalized, data.result⟩

def inquireAndFinalize (env : Env) (gateway : Gateway) (clean : String)
    (expected : Option Uuid) : Online CheckResult := do
  let answer ← fetchGatewayStatus gateway clean
  let verdict ← reads fun world => checkVerdict clean expected answer world.1
  finalizeVerdict env clean answer.data verdict

def checkPaymentStatus (env : Env) (gateway : Gateway) (transId : String)
    (expected : Option Uuid) : Online CheckResult := do
  let clean := trim transId
  if isValidInquiryId clean = false then pure ⟨false, none⟩ else do
    let paid ← reads fun world => expected.any fun id => isGatewayReferencePaid id world.1
    if paid = true then pure ⟨true, none⟩
    else inquireAndFinalize env gateway clean expected

def tryFinalizeOrderIfUpaymentsCaptured (env : Env) (gateway : Gateway) (orderId : Uuid)
    (inquiryTrackId : String) : Online CheckResult :=
  if trim inquiryTrackId = "" then pure ⟨false, none⟩
  else checkPaymentStatus env gateway (trim inquiryTrackId) (some orderId)

def tryFinalizeOrderFromTrustedUpaymentsReturn (env : Env) (gateway : Gateway)
    (orderId : Uuid) (trackId : String) : Online Bool :=
  if trim trackId = "" then pure false
  else do
    let result ← checkPaymentStatus env gateway (trim trackId) (some orderId)
    pure result.finalized

theorem commits_fetchGatewayStatus {gateway : Gateway} {trackId : String}
    {answer : InquiryAnswer} {world world' : Db × List Report}
    (hvalid : isValidInquiryId trackId = true)
    (hcommits : (fetchGatewayStatus gateway trackId).Commits world answer world') :
    answer = gateway world.2.length (trim trackId) ∧
      world' = (world.1, world.2 ++ [⟨trim trackId, answer⟩]) := by
  unfold fetchGatewayStatus at hcommits
  rw [if_pos hvalid] at hcommits
  simp only [commits_bind, commits_reads, commits_modify, commits_pure] at hcommits
  obtain ⟨_, _, ⟨rfl, rfl⟩, _, _, rfl, rfl, rfl⟩ := hcommits
  exact ⟨rfl, rfl⟩

/-- A verdict to finalize is reached on an `ok`, captured answer whose reference
exists and is unpaid. -/
theorem checkVerdict_eq_finalize {clean : String} {expected : Option Uuid}
    {answer : InquiryAnswer} {db : Db} {referenceId : Uuid}
    (hverdict : checkVerdict clean expected answer db = .finalize referenceId) :
    answer.ok = true ∧ answer.Captured ∧
      checkReference clean expected answer.data db = some referenceId ∧
      (∀ id ∈ expected, id = referenceId) ∧
      ∃ reference, getGatewayReferenceForFinalize referenceId db = some reference ∧
        reference.isPaid = false ∧ MatchesReference clean answer.data reference := by
  unfold checkVerdict at hverdict
  by_cases hrefused : answer.ok = false ∨ ¬ answer.Captured
  · rw [if_pos hrefused] at hverdict
    cases hverdict
  · rw [if_neg hrefused] at hverdict
    push Not at hrefused
    cases href : checkReference clean expected answer.data db with
    | none =>
        rw [href] at hverdict
        cases hverdict
    | some found =>
        rw [href] at hverdict
        simp only at hverdict
        by_cases hother : expected.any (fun id => id ≠ found) = true
        · rw [if_pos hother] at hverdict
          cases hverdict
        · rw [if_neg hother] at hverdict
          cases hlookup : getGatewayReferenceForFinalize found db with
          | none =>
              rw [hlookup] at hverdict
              cases hverdict
          | some reference =>
              rw [hlookup] at hverdict
              simp only at hverdict
              by_cases hpaid : reference.isPaid = true
              · rw [if_pos hpaid] at hverdict
                cases hverdict
              · rw [if_neg hpaid] at hverdict
                by_cases hmatches : MatchesReference clean answer.data reference
                · rw [if_pos hmatches] at hverdict
                  have hid : reference.id = found := gatewayReference_id hlookup
                  have hsame : reference.id = referenceId := by
                    simpa using hverdict
                  have hfound : found = referenceId := hid.symm.trans hsame
                  subst hfound
                  refine ⟨by simpa using hrefused.1, hrefused.2, rfl, ?_,
                    reference, hlookup, by simpa using hpaid, hmatches⟩
                  intro id hid
                  rw [Option.mem_def.1 hid] at hother
                  simpa using hother
                · rw [if_neg hmatches] at hverdict
                  cases hverdict

end SafariLaundry
