import SafariLaundry.OrderUpdate
import SafariLaundry.PaymentRaces

/-!
# Status changes against each other

Updates, gateway finalizations, manual marks and voids of one order in any
interleaving.  Only the update asks the status machine; a payment completes an order
from wherever it stands, and a void cancels it from wherever it stands.  As long as no
status that a request has read is overtaken before it writes, a canceled order stays
canceled, and nothing ever moves an order back to its beginning.
-/

namespace SafariLaundry

open Library Library.Bookkeeping Library.Transaction

inductive StatusRequest
  | update (env : Env) (args : UpdateOrderArgs) (seen : Db)
  | payment (request : PaymentRequest)
  | void (env : Env) (args : InvoiceVoidArgs) (seen : VoidReads)

namespace StatusRequest

def env : StatusRequest → Env
  | .update env _ _ | .void env _ _ => env
  | .payment request => request.env

def orderId : StatusRequest → Uuid
  | .update _ args _ => args.orderId
  | .payment request => request.orderId
  | .void _ args _ => args.orderId

def seen : StatusRequest → List Db
  | .update _ _ seen => [seen]
  | .payment request => request.seen
  | .void _ _ seen => [seen.order, seen.wallet, seen.receivable]

def run : StatusRequest → Tx Unit
  | .update env args seen => transaction do
      let _ ← updateOrderSeeing env args seen
  | .payment request => request.run
  | .void env args seen => do
      let _ ← voidInvoiceSeeing env args seen

end StatusRequest

def statusRequests : Calls Db StatusRequest where
  step := fun request db => (request.run.outcome db).2
  seen := StatusRequest.seen

def PaymentRequest.readAt : PaymentRequest → Db
  | .finalize _ _ _ seen | .manual _ _ seen _ => seen

def StatusRequest.Unovertaken (db : Db) : StatusRequest → Prop
  | .update _ args seen => ∀ read row, seen.orders.find? args.orderId = some read →
      db.orders.find? args.orderId = some row → row.status = read.status
  | .payment request => ∀ read row, request.readAt.orders.find? request.orderId = some read →
      db.orders.find? request.orderId = some row → row.status = .CANCELED → read.status = .CANCELED
  | .void _ _ _ => True

/-! ## Moves -/

inductive StatusMove (row row' : Order) : Prop
  | stays (hsame : row'.status = row.status)
  | edge (hedge : StatusEdge row.status row'.status row.driverId.isSome)
  | paid (hopen : row.status ≠ .CANCELED) (hdone : row'.status = .COMPLETED)
  | voided (hcanceled : row'.status = .CANCELED)

def OrderMoves (orderId : Uuid) (db db' : Db) : Prop :=
  ∀ row, db.orders.find? orderId = some row → ∃ row', db'.orders.find? orderId = some row' ∧
    row'.driverId = row.driverId ∧ StatusMove row row'

variable {orderId : Uuid} {db db' : Db} {order : Order}

theorem orderMoves_of_find? (hsame : db'.orders.find? orderId = db.orders.find? orderId) :
    OrderMoves orderId db db' := by
  intro row hrow
  exact ⟨row, hsame.trans hrow, rfl, .stays rfl⟩

theorem update_moves {env : Env} {args : UpdateOrderArgs}
    (hdone : OrderUpdated env args order db db')
    (hcurrent : ∀ row, db.orders.find? args.orderId = some row →
      row.status = order.status ∧ row.driverId = order.driverId) :
    OrderMoves args.orderId db db' := by
  intro row hrow
  obtain ⟨hstatus, hdriver⟩ := hcurrent row hrow
  obtain ⟨mid, hsettlement, failures, rfl⟩ := hdone.effects
  have hupdated : (args.updatedDb env order db).orders.find? args.orderId =
      some (args.updatedRow env order row) := by
    unfold UpdateOrderArgs.updatedDb
    rw [Table.find?_update_self, hrow]
    rfl
  have hmoves : ∀ row', row'.status = (args.updatedRow env order row).status →
      StatusMove row row' := by
    intro row' hrow'
    have hnext : (args.updatedRow env order row).status = args.dto.status.getD row.status := rfl
    rw [hnext] at hrow'
    rcases hdone.allowed with hstays | hedge
    · apply StatusMove.stays
      rw [hrow', hstatus, ← hstays]
    · apply StatusMove.edge
      rw [hrow', hstatus, hdriver]
      exact hedge
  cases hsettlement with
  | none _ hsame =>
      subst hsame
      exact ⟨_, hupdated, rfl, hmoves _ rfl⟩
  | some _ _ _ hresult =>
      cases hresult with
      | skipped _ hsame =>
          obtain ⟨branchId, rfl⟩ := hsame
          refine ⟨args.updatedRow env order row, ?_, rfl, hmoves _ rfl⟩
          cases branchId with
          | none => exact hupdated
          | some branch => exact hupdated
      | settled _ _ _ _ _ _ hsettled =>
          refine ⟨_, hsettled.find? hupdated, rfl, hmoves _ rfl⟩

theorem completes_moves {env : Env} {completion : SaleCompletion}
    {orders : Table Order.id} {row updated : Order} {db db' : Db}
    (hrow : db.orders.find? completion.order.id = some row)
    (hupdated : orders.find? completion.order.id = some updated)
    (hdriver : updated.driverId = row.driverId) (hcompleted : updated.status = .COMPLETED)
    (hopen : row.status ≠ .CANCELED)
    (hcompletes : Completes env completion { db with orders := orders } db') :
    OrderMoves completion.order.id db db' := by
  intro found hfound
  obtain rfl := Option.some.inj (hrow.symm.trans hfound)
  exact ⟨_, hcompletes.find? hupdated, hdriver, .paid hopen hcompleted⟩

theorem finalize_moves {env : Env} {metadata : Option FinalizeMetadata} {did : Bool}
    (hresult : FinalizeResult env order metadata db did db')
    (hcurrent : order.status ≠ .CANCELED →
      ∀ row, db.orders.find? order.id = some row → row.status ≠ .CANCELED) :
    OrderMoves order.id db db' := by
  cases hresult with
  | duplicate _ => exact orderMoves_of_find? rfl
  | rejected _ _ => exact orderMoves_of_find? rfl
  | claimLost _ _ => exact orderMoves_of_find? rfl
  | @finalized _ performerId _ hopen _ hfinalized =>
      obtain ⟨row, hrow, hclaimable⟩ := hfinalized.row
      exact @completes_moves env (gatewayCompletion order performerId) _ row _ _ _ hrow
        (find?_claimedOrders hrow hclaimable) rfl rfl (hcurrent hopen row hrow)
        hfinalized.completes

theorem collection_moves {call : CollectionCall} {db db' : Db}
    (hresult : CollectionResult call db db') :
    OrderMoves call.params.orderId db db' := by
  have hcollected : ∀ orders', OrdersCollected call.params db.orders orders' →
      db'.orders = orders' → OrderMoves call.params.orderId db db' := by
    rintro orders' hdone horders row hrow
    rcases hdone with rfl | rfl
    · exact ⟨row, horders ▸ hrow, rfl, .stays rfl⟩
    · refine ⟨collectedByMethod call.params.confirmedMethod row, ?_, rfl, .stays rfl⟩
      rw [horders, Table.find?_update_self, hrow]
      rfl
  cases hresult with
  | refused hsame =>
      obtain ⟨_, rfl⟩ := hsame
      exact orderMoves_of_find? rfl
  | cleared hclosed =>
      obtain ⟨orders, hdone, rfl⟩ := hclosed
      exact hcollected orders hdone rfl
  | collected _ _ _ hdone => exact hcollected db'.orders hdone.orders rfl

theorem manual_moves {env : Env} {args : ManualMarkArgs} {collect : Tx CollectionKind}
    (hcurrent : order.status ≠ .CANCELED →
      ∀ row, db.orders.find? order.id = some row → row.status ≠ .CANCELED)
    (hcollect : ∀ kind db', collect.Commits db kind db' → OrderMoves order.id db db')
    (hresult : ManualResult env args order collect db db') :
    OrderMoves order.id db db' := by
  cases hresult with
  | alreadySettled hsame =>
      subst hsame
      exact orderMoves_of_find? rfl
  | collected kind hdone => exact hcollect kind db' hdone
  | completed hmarkable hcompleted =>
      obtain ⟨row, hrow⟩ := hcompleted.row
      have hmarked : (db.orders.update order.id (markedPaid env args.method)
          (markedPaid_id env args.method)).find? order.id =
            some (markedPaid env args.method row) := by
        rw [Table.find?_update_self, hrow]
        rfl
      exact @completes_moves env (args.completion order) _ row _ _ _ hrow hmarked rfl rfl
        (hcurrent hmarkable.1 row hrow) hcompleted.completes

theorem void_moves {args : InvoiceVoidArgs} {wallet : CustomerWallet} {orderAr : ℤ}
    (hvoided : InvoiceVoided args order wallet orderAr db db') :
    OrderMoves order.id db db' := by
  obtain ⟨_, _, rfl⟩ := hvoided
  intro row hrow
  refine ⟨voidedOrder row, ?_, rfl, .voided rfl⟩
  change (db.orders.update order.id voidedOrder voidedOrder_id).find? order.id = _
  rw [Table.find?_update_self, hrow]
  rfl

def AdmittedStatus (orderId : Uuid) (request : StatusRequest) (db : Db) : Prop :=
  request.env.StoreHealthy ∧ request.orderId = orderId ∧ request.Unovertaken db

def DrivenBy (orderId : Uuid) (driverId : Option Uuid) (db : Db) : Prop :=
  ∀ row, db.orders.find? orderId = some row → row.driverId = driverId

theorem payment_moves {request : PaymentRequest} (henv : request.env.StoreHealthy)
    (hcurrent : ∀ read row, request.readAt.orders.find? request.orderId = some read →
      db.orders.find? request.orderId = some row → row.status = .CANCELED →
        read.status = .CANCELED) :
    KeepsAt (OrderMoves request.orderId) db request.run := by
  have hopen : ∀ order, request.readAt.orders.find? request.orderId = some order →
      order.status ≠ .CANCELED →
        ∀ row, db.orders.find? request.orderId = some row → row.status ≠ .CANCELED := by
    intro order horder hstatus row hrow hcanceled
    exact hstatus (hcurrent order row horder hrow hcanceled)
  cases request with
  | finalize env id metadata seen =>
      apply keepsAt_atomically
      · intro _ db' hcommits
        simp only [commits_bind, commits_fetch, commits_pure] at hcommits
        obtain ⟨order, _, ⟨hrow, rfl⟩, did, _, hfinalize, _, rfl⟩ := hcommits
        obtain rfl : order.id = id := Table.key_of_find? hrow
        exact finalize_moves (commits_finalizeAfterRead henv hfinalize) (hopen order hrow)
      · intro after
        exact orderMoves_of_find? rfl
  | manual env args seen reads =>
      apply keepsAt_atomically
      · intro _ db' hcommits
        simp only [commits_bind, commits_fetch, commits_pure] at hcommits
        obtain ⟨order, _, ⟨hrow, rfl⟩, _, _, hmark, _, rfl⟩ := hcommits
        have hkey : order.id = args.orderId := Table.key_of_find? hrow
        let call : CollectionCall := ⟨env, args.collection, reads⟩
        have hcollects : ∀ kind db', (collectInvoiceSeeing env args.collection
            reads).Commits db kind db' → OrderMoves order.id db db' := by
          intro kind db' hcollect
          rw [hkey]
          exact @collection_moves call db db'
            (@commits_collectInvoiceSeeing call kind db db' henv hcollect)
        have hmoves := manual_moves (hkey ▸ hopen order hrow) hcollects
          (commits_markAfterRead henv hmark)
        rwa [hkey] at hmoves
      · intro after
        exact orderMoves_of_find? rfl

theorem statusRequests_step {driverId : Option Uuid} {request : StatusRequest}
    (hadmitted : AdmittedStatus orderId request db) (hdriver : DrivenBy orderId driverId db)
    (hseen : ∀ t ∈ statusRequests.seen request, DrivenBy orderId driverId t) :
    OrderMoves orderId db (statusRequests.step request db) := by
  obtain ⟨henv, rfl, hcurrent⟩ := hadmitted
  have hkeeps : KeepsAt (OrderMoves request.orderId) db request.run := by
    cases request with
    | update env args seen =>
        apply keepsAt_atomically
        · intro _ db' hcommits
          simp only [updateOrderSeeing, commits_bind, commits_require, commits_fetch,
            commits_pure] at hcommits
          obtain ⟨_, _, ⟨_, _, ⟨_, rfl⟩, order, _, ⟨horder, rfl⟩, hupdate⟩, _, rfl⟩ := hcommits
          apply update_moves (commits_updateAfterRead henv hupdate)
          intro row hrow
          refine ⟨hcurrent order row horder hrow, ?_⟩
          rw [hdriver row hrow, hseen seen (List.mem_singleton_self seen) order horder]
        · intro after
          exact orderMoves_of_find? rfl
    | payment request => exact payment_moves henv hcurrent
    | void env args seen =>
        unfold StatusRequest.run voidInvoiceSeeing
        apply KeepsAt.map
        apply keepsAt_atomically
        · intro _ db' hcommits
          simp only [commits_bind, commits_require, commits_fetch] at hcommits
          obtain ⟨_, _, ⟨_, rfl⟩, order, _, ⟨horder, rfl⟩, hvoid⟩ := hcommits
          obtain ⟨_, _, hvoided⟩ := commits_voidAfterReads henv hvoid
          have hmoves := void_moves hvoided
          rwa [Table.key_of_find? horder] at hmoves
        · intro after
          exact orderMoves_of_find? rfl
  exact hkeeps

/-! ## Every run -/

def NeverBack (orderId : Uuid) (db db' : Db) : Prop :=
  ∀ row, db.orders.find? orderId = some row → ∃ row', db'.orders.find? orderId = some row' ∧
    (row.status = .CANCELED → row'.status = .CANCELED) ∧
    (row'.status = .PENDING → row.status = .PENDING)

theorem NeverBack.trans {db'' : Db} (hfirst : NeverBack orderId db db')
    (hsecond : NeverBack orderId db' db'') :
    NeverBack orderId db db'' := by
  intro row hrow
  obtain ⟨row', hrow', hcanceled, hpending⟩ := hfirst row hrow
  obtain ⟨row'', hrow'', hcanceled', hpending'⟩ := hsecond row' hrow'
  exact ⟨row'', hrow'', fun h => hcanceled' (hcanceled h), fun h => hpending (hpending' h)⟩

theorem StatusMove.neverBack {row row' : Order} (hmove : StatusMove row row') :
    (row.status = .CANCELED → row'.status = .CANCELED) ∧
      (row'.status = .PENDING → row.status = .PENDING) := by
  cases hmove with
  | stays hsame => rw [hsame]; exact ⟨id, id⟩
  | edge hedge =>
      have hnext := hedge.1
      constructor
      · intro hcanceled
        rw [hcanceled] at hnext
        cases hnext
      · intro hpending
        rw [hpending] at hnext
        revert hnext
        cases row.status <;> decide
  | paid hopen hdone =>
      rw [hdone]
      exact ⟨fun hcanceled => absurd hcanceled hopen, fun hpending => by cases hpending⟩
  | voided hcanceled =>
      rw [hcanceled]
      exact ⟨fun _ => rfl, fun hpending => by cases hpending⟩

theorem OrderMoves.neverBack (hmoves : OrderMoves orderId db db') :
    NeverBack orderId db db' := by
  intro row hrow
  obtain ⟨row', hrow', _, hmove⟩ := hmoves row hrow
  exact ⟨row', hrow', hmove.neverBack⟩

theorem OrderMoves.drivenBy {driverId : Option Uuid} (hmoves : OrderMoves orderId db db')
    {row : Order} (hrow : db.orders.find? orderId = some row)
    (hdriver : DrivenBy orderId driverId db) :
    DrivenBy orderId driverId db' := by
  intro found hfound
  obtain ⟨row', hrow', hsame, _⟩ := hmoves row hrow
  obtain rfl := Option.some.inj (hrow'.symm.trans hfound)
  rw [hsame]
  exact hdriver row hrow

/-- In every interleaving in which no status that was read is overtaken, each step moves
the order along an edge of the machine, or completes an open order, or cancels it; a
canceled order stays canceled, and none returns to `PENDING`. -/
theorem statusRuns_allowed {orderId : Uuid} {order : Order} {start : Db} {trace : List Db}
    (hrow : start.orders.find? orderId = some order)
    (hrun : statusRequests.Run (AdmittedStatus orderId) start trace) :
    (trace.IsChain fun later earlier => OrderMoves orderId earlier later) ∧
      trace.Pairwise fun later earlier => NeverBack orderId earlier later := by
  let invariant : Db → Prop := fun db =>
    (∃ row, db.orders.find? orderId = some row) ∧ DrivenBy orderId order.driverId db
  have hstart : invariant start := by
    refine ⟨⟨order, hrow⟩, fun row hfound => ?_⟩
    rw [Option.some.inj (hfound.symm.trans hrow)]
  have hdoes : ∀ request db, invariant db →
      (∀ t ∈ statusRequests.seen request, invariant t) → AdmittedStatus orderId request db →
      OrderMoves orderId db (statusRequests.step request db) := by
    intro request db hstate hseen hadmitted
    exact statusRequests_step hadmitted hstate.2 fun t ht => (hseen t ht).2
  have hstep : ∀ request db, invariant db →
      (∀ t ∈ statusRequests.seen request, invariant t) → AdmittedStatus orderId request db →
      invariant (statusRequests.step request db) := by
    intro request db hstate hseen hadmitted
    have hmoves := hdoes request db hstate hseen hadmitted
    obtain ⟨⟨row, hfound⟩, hdriver⟩ := hstate
    obtain ⟨row', hfound', _⟩ := hmoves row hfound
    exact ⟨⟨row', hfound'⟩, hmoves.drivenBy hfound hdriver⟩
  have hchain := hrun.isChain hstart hstep hdoes
  refine ⟨hchain, ?_⟩
  have : IsTrans Db fun later earlier => NeverBack orderId earlier later :=
    ⟨fun _ _ _ hfirst hsecond => hsecond.trans hfirst⟩
  exact (hchain.imp fun _ _ hmoves => hmoves.neverBack).pairwise

namespace Sample

def gatewayPayment (seen : Db) : StatusRequest :=
  .payment (.finalize Env.default "order" (some {
    provider := "upayments"
    devMock := false
    trackId := some "track-1"
    paymentId := none
    tranId := none
    result := some "CAPTURED"
    amount := .fils 2000
    currency := none }) seen)

theorem gatewayPayment_run :
    statusRequests.Run (AdmittedStatus "order") indebtedShop
      [statusRequests.step (gatewayPayment indebtedShop) indebtedShop, indebtedShop] := by
  apply Calls.Run.call (gatewayPayment indebtedShop) .start
  · intro seen hseen
    simpa [statusRequests, gatewayPayment, StatusRequest.seen, PaymentRequest.seen] using hseen
  · refine ⟨fun _ => rfl, rfl, ?_⟩
    intro read row hread hrow hcanceled
    obtain rfl := Option.some.inj (hread.symm.trans hrow)
    exact hcanceled

end Sample

theorem statusRuns_allowed_sample :
    NeverBack "order" Sample.indebtedShop
      (statusRequests.step (Sample.gatewayPayment Sample.indebtedShop) Sample.indebtedShop) :=
  List.rel_of_pairwise_cons (statusRuns_allowed rfl Sample.gatewayPayment_run).2
    (List.mem_singleton_self _)

theorem statusRuns_skip_the_machine :
    ¬ ∀ (orderId : Uuid) (start : Db) (trace : List Db),
      statusRequests.Run (fun request _ => request.env.StoreHealthy ∧
        request.orderId = orderId) start trace →
      trace.IsChain fun later earlier => ∀ row row',
        earlier.orders.find? orderId = some row → later.orders.find? orderId = some row' →
          row'.status = row.status ∨
            StatusEdge row.status row'.status row.driverId.isSome := by
  intro hall
  have hrun := Sample.gatewayPayment_run.mono
    (Q := fun request _ => request.env.StoreHealthy ∧ request.orderId = "order")
    fun _ _ hadmitted => ⟨hadmitted.1, hadmitted.2.1⟩
  have hchain := hall "order" Sample.indebtedShop _ hrun
  rw [List.isChain_cons_cons] at hchain
  have hpaid : ((statusRequests.step (Sample.gatewayPayment Sample.indebtedShop)
      Sample.indebtedShop).orders.find? "order").map Order.status = some .COMPLETED := by
    decide +kernel
  obtain ⟨row', hrow', hcompleted⟩ := Option.map_eq_some_iff.1 hpaid
  have hmove := hchain.1 (Sample.order "order") row' rfl hrow'
  rw [hcompleted] at hmove
  revert hmove
  decide

end SafariLaundry
