import SafariLaundry.OrderUpdate
import SafariLaundry.PaymentRaces

/-!
# Completing a gateway order before its link is paid

An order to be paid through the gateway can be delivered first.  The update leaves its
cash status unpaid for the gateway to confirm, and the sale row to the gateway's
callback; but it settles the order like any other, and a settled order is one the
finalizer no longer looks at.
-/

namespace SafariLaundry

open Library Library.Bookkeeping Library.Transaction

def UnsettledWhileUnpaid (orderId : Uuid) (db : Db) : Prop :=
  ∀ row, db.orders.find? orderId = some row → row.cashStatus = .UNPAID → row.walletSettledAt = none

/-- A capture that arrives now settles the order, sells it and takes its goods from
stock, once. -/
def CaptureCounts (orderId : Uuid) (db : Db) : Prop :=
  ∀ (env : Env) (metadata : Option FinalizeMetadata) (did : Bool) (db' : Db),
    env.StoreHealthy → IsCapturedFinalizeMetadata metadata →
    (finalizeSinglePaidOrderFromGateway env orderId metadata).Commits db did db' →
    OneEffect orderId db db'

def completionPaymentRef (order : Order) : SourceRef :=
  externalPaymentRef
    [.id order.id, .word order.posPaymentMethod.name, .word SettlementMetadata.none.trigger]

def bareCapture : FinalizeMetadata where
  provider := "upayments"
  devMock := false
  trackId := none
  paymentId := none
  tranId := none
  result := some "CAPTURED"
  amount := .missing
  currency := none

theorem not_captureCounts {orderId : Uuid} {row : Order} {db : Db}
    (hrow : db.orders.find? orderId = some row) (hsettled : row.walletSettledAt ≠ none) :
    ¬ CaptureCounts orderId db := by
  intro hcounts
  have hcommits : (finalizeSinglePaidOrderFromGateway Env.default orderId
      (some bareCapture)).Commits db false db := by
    unfold finalizeSinglePaidOrderFromGateway transaction
    simp only [commits_atomically, commits_bind, commits_fetch]
    refine ⟨row, db, ⟨hrow, rfl⟩, ?_⟩
    unfold finalizeAfterRead
    rw [if_pos (.inl hsettled), commits_pure]
    exact ⟨rfl, rfl⟩
  have hone := hcounts Env.default (some bareCapture) false db (fun _ => rfl)
    (by decide +kernel) hcommits
  obtain ⟨settlement, hsame⟩ := hone.settlements
  have hlength := congrArg List.length hsame
  simp at hlength

theorem Settled.recorded_external {env : Env} {call : SettlementCall} {db db' : Db}
    (hsettled : Settled env call db db') (hexternal : call.ExternalCoversShortfall)
    (hpositive : 0 < call.externalPayment) :
    Recorded db'.journal call.externalRef := by
  obtain ⟨account, hasset, _⟩ := SettlementCall.exists_asset_of_external hexternal
  rw [hsettled.journal_append, recorded_append]
  by_cases hrecorded : Recorded db.journal call.externalRef
  · exact .inl hrecorded
  · refine .inr ⟨(call.externalPosting account).input.entry, ?_, rfl⟩
    have hnew : call.externalNewEntries db.journal =
        [(call.externalPosting account).input.entry] := by
      unfold SettlementCall.externalNewEntries
      rw [hasset]
      exact if_pos ⟨hpositive, hrecorded⟩
    unfold SettlementCall.newEntries
    simp [hnew]

theorem OrderUpdated.settled_unpaid {env : Env} {args : UpdateOrderArgs} {order : Order}
    {db db' : Db} (hdone : OrderUpdated env args order db db')
    (hrow : db.orders.find? args.orderId = some order)
    (hgateway : order.posPaymentMethod.GatewayBacked) (hunpaid : order.cashStatus = .UNPAID)
    (hcompleting : args.Completing order) :
    (∃ row, db'.orders.find? args.orderId = some row ∧ row.cashStatus = .UNPAID ∧
      row.walletSettledAt ≠ none) ∧
    (order.walletSettledAt = none → isV20_3TrueAccountingEnabled env = true →
      0 < order.totalPrice → Recorded db'.journal (completionPaymentRef order)) := by
  obtain ⟨mid, hsettlement, failures, rfl⟩ := hdone.effects
  have hcompleted : args.WillBeCompleted order := by
    unfold UpdateOrderArgs.WillBeCompleted
    rw [hcompleting.1, Option.getD_some]
  have hcash : (args.updatedRow env order order).cashStatus = .UNPAID := by
    unfold UpdateOrderArgs.updatedRow
    rw [if_neg fun hmarked => hmarked.2.2 hgateway]
    exact hunpaid
  have hupdated : (args.updatedDb env order db).orders.find? args.orderId =
      some (args.updatedRow env order order) := by
    unfold UpdateOrderArgs.updatedDb
    rw [Table.find?_update_self, hrow]
    rfl
  cases hsettlement with
  | none hnone hsame =>
      subst hsame
      have hsettled : order.walletSettledAt ≠ none := fun hopen => hnone ⟨hopen, hcompleted⟩
      exact ⟨⟨_, hupdated, hcash, hsettled⟩, fun hopen => absurd hopen hsettled⟩
  | @some hopen _ row hfound hresult =>
      obtain rfl := Option.some.inj (hupdated.symm.trans hfound)
      have hfresh : ((args.updatedDb env order db).orders.find? args.orderId).bind
          Order.walletSettledAt = none := by
        rw [hupdated]
        exact hopen
      obtain ⟨htotal, hsettled⟩ := hresult.of_unsettled hopen hfresh
      refine ⟨⟨_, hsettled.find? hupdated, hcash, Option.some_ne_none _⟩,
        fun _ htrue hpositive => ?_⟩
      have hexternal : (settlementCall env args.orderId
          (args.updatedRow env order order).settlementPrefetch args.userId .none
          ((args.updatedDb env order db).wallets
            (args.updatedRow env order order).settlementPrefetch.customerId)
          ).ExternalCoversShortfall := by
        rcases hgateway with honline | hlink
        · exact .inr (.inr (.inl (congrArg some honline)))
        · exact .inr (.inr (.inr (congrArg some hlink)))
      have hkey : order.id = args.orderId := Table.key_of_find? hrow
      have href := hsettled.recorded_external hexternal ?_
      · unfold completionPaymentRef
        rw [hkey]
        exact href
      · unfold SettlementCall.externalPayment
        rw [SettlementCall.shortfall_of_external hexternal,
          if_pos ⟨htrue, hexternal, hpositive⟩]
        exact hpositive

/-- However an unpaid gateway order is completed by an update, it is left settled while
unpaid, with the external payment recorded already under true accounting, and no
capture that arrives later counts. -/
theorem operationalCompletion_closes_capture {env : Env} {args : UpdateOrderArgs}
    {order result : Order} {db db' : Db} (henv : env.StoreHealthy)
    (hrow : db.orders.find? args.orderId = some order)
    (hgateway : order.posPaymentMethod.GatewayBacked) (hunpaid : order.cashStatus = .UNPAID)
    (hcompleting : args.Completing order)
    (hcommits : (OrdersService.updateOrder env args).Commits db result db') :
    ¬ UnsettledWhileUnpaid args.orderId db' ∧ ¬ CaptureCounts args.orderId db' ∧
      (order.walletSettledAt = none → isV20_3TrueAccountingEnabled env = true →
        0 < order.totalPrice → Recorded db'.journal (completionPaymentRef order)) := by
  obtain ⟨found, hfound, hdone⟩ := commits_updateOrder henv hcommits
  obtain rfl := Option.some.inj (hrow.symm.trans hfound)
  obtain ⟨⟨row, hrow', hstill, hsettled⟩, hreceived⟩ :=
    hdone.settled_unpaid hrow hgateway hunpaid hcompleting
  refine ⟨?_, not_captureCounts hrow' hsettled, hreceived⟩
  intro hunsettled
  exact hsettled (hunsettled row hrow' hstill)

theorem operationalCompletion_closes_capture_sample :
    ¬ UnsettledWhileUnpaid "order"
      ((OrdersService.updateOrder Env.default Sample.delivery).outcome
        (Sample.deliveryShop .ONLINE ⟨0, 0⟩)).2 := by
  obtain ⟨result, hcommits⟩ := exists_commits_of_isOk
    (x := OrdersService.updateOrder Env.default Sample.delivery)
    (s := Sample.deliveryShop .ONLINE ⟨0, 0⟩) (by decide +kernel)
  exact (operationalCompletion_closes_capture (fun _ => rfl) rfl (.inl rfl) rfl
    ⟨rfl, by decide⟩ hcommits).1

theorem operationalCompletion_fails :
    ¬ ∀ (env : Env) (args : UpdateOrderArgs) (order result : Order) (db db' : Db),
      env.StoreHealthy → db.orders.find? args.orderId = some order →
      order.posPaymentMethod.GatewayBacked → order.cashStatus = .UNPAID →
      args.Completing order → (OrdersService.updateOrder env args).Commits db result db' →
      UnsettledWhileUnpaid args.orderId db' ∧ CaptureCounts args.orderId db' ∧
        ∀ entry ∈ db'.journal, entry.orderId = some args.orderId →
          entry.source ≠ "EXTERNAL_PAYMENT" := by
  intro hall
  obtain ⟨result, hcommits⟩ := exists_commits_of_isOk
    (x := OrdersService.updateOrder { Env.default with v20_3TrueAccounting := true }
      Sample.delivery)
    (s := Sample.deliveryShop .ONLINE ⟨0, 0⟩) (by decide +kernel)
  have hclaim := hall _ _ (Sample.onTheRoad .ONLINE) result _ _ (fun _ => rfl) rfl
    (.inl rfl) rfl ⟨rfl, by decide⟩ hcommits
  have hreceipt := hclaim.2.2
  revert hreceipt
  decide +kernel

end SafariLaundry
