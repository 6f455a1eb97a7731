import SafariLaundry.PaymentStatus

/-!
# Which orders a finalization can touch

A finalization of a reference changes the status of the order under that id and
of the orders in the bundle under that id, and of no other; no order appears,
disappears or changes its total.  This holds whether the finalization returns or
throws part of the way through a bundle.
-/

namespace SafariLaundry

open Library Library.Transaction

def Order.ConcernedBy (order : Order) (referenceId : Uuid) : Prop :=
  referenceId = order.id ∨ order.posPaymentBundleId = some referenceId
  deriving Decidable

/-- No gateway call changes what an order is or costs, and only one concerned by a reference
changes its status. -/
structure OrderStep (references : Uuid → Prop) (order order' : Order) : Prop where
  id : order'.id = order.id
  totalPrice : order'.totalPrice = order.totalPrice
  bundle : order'.posPaymentBundleId = order.posPaymentBundleId
  status : order'.status = order.status ∨
    ∃ referenceId, references referenceId ∧ order.ConcernedBy referenceId

theorem OrderStep.refl (references : Uuid → Prop) (order : Order) :
    OrderStep references order order :=
  ⟨rfl, rfl, rfl, .inl rfl⟩

variable {references : Uuid → Prop} {order order' : Order} {db db' : Db}
  {metadata : Option FinalizeMetadata}

theorem OrderStep.concernedBy (hstep : OrderStep references order order') (referenceId : Uuid) :
    order'.ConcernedBy referenceId ↔ order.ConcernedBy referenceId := by
  unfold Order.ConcernedBy
  rw [hstep.id, hstep.bundle]

theorem OrderStep.trans {order'' : Order} (hfirst : OrderStep references order order')
    (hsecond : OrderStep references order' order'') :
    OrderStep references order order'' := by
  refine ⟨hsecond.id.trans hfirst.id, hsecond.totalPrice.trans hfirst.totalPrice,
    hsecond.bundle.trans hfirst.bundle, ?_⟩
  rcases hsecond.status with hsame | ⟨referenceId, href, hconcerns⟩
  · rw [hsame]
    exact hfirst.status
  · exact .inr ⟨referenceId, href, (hfirst.concernedBy referenceId).1 hconcerns⟩

theorem OrderStep.mono {references' : Uuid → Prop}
    (hmono : ∀ referenceId, references referenceId → references' referenceId)
    (hstep : OrderStep references order order') :
    OrderStep references' order order' := by
  refine ⟨hstep.id, hstep.totalPrice, hstep.bundle, ?_⟩
  rcases hstep.status with hsame | ⟨referenceId, href, hconcerns⟩
  · exact .inl hsame
  · exact .inr ⟨referenceId, hmono referenceId href, hconcerns⟩

/-- `OrderStep` of every order, in place. -/
structure OrdersStep (references : Uuid → Prop) (db db' : Db) : Prop where
  bundles : db'.bundles = db.bundles
  orders : List.Forall₂ (OrderStep references) db.orders.rows db'.orders.rows

theorem ordersStep_of_orders_eq (hbundles : db'.bundles = db.bundles)
    (horders : db'.orders = db.orders) :
    OrdersStep references db db' := by
  refine ⟨hbundles, ?_⟩
  rw [horders]
  exact List.forall₂_same.2 fun order _ => OrderStep.refl references order

instance (references : Uuid → Prop) : Std.Refl (OrdersStep references) :=
  ⟨fun _ => ordersStep_of_orders_eq rfl rfl⟩

theorem OrdersStep.trans {db'' : Db} (hfirst : OrdersStep references db db')
    (hsecond : OrdersStep references db' db'') :
    OrdersStep references db db'' := by
  refine ⟨hsecond.bundles.trans hfirst.bundles, ?_⟩
  have htrans : ∀ {l l' l'' : List Order}, List.Forall₂ (OrderStep references) l l' →
      List.Forall₂ (OrderStep references) l' l'' →
      List.Forall₂ (OrderStep references) l l'' := by
    intro l l' l'' h
    induction h generalizing l'' with
    | nil =>
        intro h'
        exact h'
    | cons hhead _ ih =>
        intro h'
        cases h' with
        | cons hhead' htail' => exact .cons (hhead.trans hhead') (ih htail')
  exact htrans hfirst.orders hsecond.orders

instance (references : Uuid → Prop) : IsTrans Db (OrdersStep references) :=
  ⟨fun _ _ _ => OrdersStep.trans⟩

theorem OrdersStep.mono {references' : Uuid → Prop}
    (hmono : ∀ referenceId, references referenceId → references' referenceId)
    (hstep : OrdersStep references db db') :
    OrdersStep references' db db' :=
  ⟨hstep.bundles, hstep.orders.imp fun _ _ => OrderStep.mono hmono⟩

theorem OrdersStep.find? (hstep : OrdersStep references db db') (orderId : Uuid) :
    Option.Rel (OrderStep references) (db.orders.find? orderId) (db'.orders.find? orderId) := by
  have hrows : ∀ {l l' : List Order}, List.Forall₂ (OrderStep references) l l' →
      Option.Rel (OrderStep references) (l.find? fun order => order.id = orderId)
        (l'.find? fun order => order.id = orderId) := by
    intro l l' h
    induction h with
    | nil => exact .none
    | @cons order order' rest rest' hhead _ ih =>
        by_cases hkey : order.id = orderId
        · rw [List.find?_cons_of_pos (by simpa using hkey),
            List.find?_cons_of_pos (by simpa [hhead.id] using hkey)]
          exact .some hhead
        · rw [List.find?_cons_of_neg (by simpa using hkey),
            List.find?_cons_of_neg (by simpa [hhead.id] using hkey)]
          exact ih
  exact hrows hstep.orders

theorem OrdersStep.reference_amount (hstep : OrdersStep references db db') (referenceId : Uuid) :
    (getGatewayReferenceForFinalize referenceId db').map GatewayReference.amount =
      (getGatewayReferenceForFinalize referenceId db).map GatewayReference.amount := by
  unfold getGatewayReferenceForFinalize
  rw [hstep.bundles]
  have hfind := hstep.find? referenceId
  cases hbefore : db.orders.find? referenceId with
  | none =>
      rw [hbefore] at hfind
      cases hafter : db'.orders.find? referenceId with
      | none =>
          simp only [Option.map_map]
          rfl
      | some order' =>
          rw [hafter] at hfind
          cases hfind
  | some order =>
      rw [hbefore] at hfind
      cases hafter : db'.orders.find? referenceId with
      | none =>
          rw [hafter] at hfind
          cases hfind
      | some order' =>
          rw [hafter] at hfind
          cases hfind with
          | some hrow =>
              simp only [Option.map_some, Order.gatewayReference, hrow.totalPrice]

theorem ordersStep_updateWhere {p : Order → Prop} [DecidablePred p] (f : Order → Order)
    (hkey : ∀ order, (f order).id = order.id) (hbundles : db'.bundles = db.bundles)
    (horders : db'.orders = db.orders.updateWhere p f hkey)
    (hrow : ∀ order ∈ db.orders.rows, p order → OrderStep references order (f order)) :
    OrdersStep references db db' := by
  refine ⟨hbundles, ?_⟩
  rw [horders, Table.rows_updateWhere, List.forall₂_map_right_iff]
  refine List.forall₂_same.2 fun order hmem => ?_
  by_cases hp : p order
  · rw [if_pos hp]
    exact hrow order hmem hp
  · rw [if_neg hp]
    exact OrderStep.refl references order

theorem ordersStep_taggedOrders {orderId : Uuid} {subscription : Option CustomerSubscription}
    (hbundles : db'.bundles = db.bundles)
    (horders : db'.orders = taggedOrders orderId db.orders subscription) :
    OrdersStep references db db' := by
  cases subscription with
  | none => exact ordersStep_of_orders_eq hbundles horders
  | some subscription =>
      exact ordersStep_updateWhere
        (fun order => { order with subscriptionId := some subscription.id }) (fun _ => rfl)
        hbundles horders fun _ _ _ => ⟨rfl, rfl, rfl, .inl rfl⟩

theorem Settled.ordersStep {env : Env} {call : SettlementCall}
    (hsettled : Settled env call db db') :
    OrdersStep references db db' := by
  have htagged : OrdersStep references db { db with
      orders := taggedOrders call.orderId db.orders
        (activeSubscription call.order.customerId db) } :=
    ordersStep_taggedOrders rfl rfl
  refine htagged.trans ?_
  exact ordersStep_updateWhere (fun order => { order with walletSettledAt := some env.now })
    (fun _ => rfl) hsettled.bundles hsettled.orders fun _ _ _ => ⟨rfl, rfl, rfl, .inl rfl⟩

theorem Completes.ordersStep {env : Env} {completion : SaleCompletion}
    (hcompletes : Completes env completion db db') :
    OrdersStep references db db' := by
  obtain ⟨mid, hsettled, hsale⟩ := hcompletes
  have hmid : OrdersStep references db mid := hsettled.ordersStep
  cases hroute : completion.sale with
  | none =>
      rw [hroute] at hsale
      rw [hsale]
      exact hmid
  | some route =>
      rw [hroute] at hsale
      obtain ⟨_, _, rfl⟩ := hsale
      exact hmid.trans (ordersStep_of_orders_eq rfl rfl)

variable {env : Env}

theorem FinalizeResult.ordersStep {did : Bool}
    (href : ∀ row, db.orders.find? order.id = some row →
      ∃ referenceId, references referenceId ∧ row.ConcernedBy referenceId)
    (hresult : FinalizeResult env order metadata db did db') :
    OrdersStep references db db' := by
  cases hresult with
  | duplicate _ | rejected _ _ | claimLost _ _ => exact ordersStep_of_orders_eq rfl rfl
  | finalized _ _ _ hfinalized =>
      have hclaimed : OrdersStep references db { db with
          orders := claimedOrders env order.id
            (extractTrackIdFromFinalizeGatewayMetadata metadata) db.orders } := by
        refine ordersStep_updateWhere _ (claimedByGateway_id env _) rfl rfl fun row hmem hhit => ?_
        have hfind := Table.find?_of_mem hmem
        rw [hhit.1] at hfind
        exact ⟨rfl, rfl, rfl, .inr (href row hfind)⟩
      exact hclaimed.trans hfinalized.completes.ordersStep

theorem keepsAt_finalizeSingle {references : Uuid → Prop} {orderId : Uuid}
    {metadata : Option FinalizeMetadata} {db : Db} (henv : env.StoreHealthy)
    (href : ∀ row, db.orders.find? orderId = some row →
      ∃ referenceId, references referenceId ∧ row.ConcernedBy referenceId) :
    KeepsAt (OrdersStep references) db
      (finalizeSinglePaidOrderFromGateway env orderId metadata) := by
  apply keepsAt_atomically
  · intro did db' hcommits
    have hsingle : (finalizeSinglePaidOrderFromGateway env orderId metadata).Commits
        db did db' := commits_atomically.2 hcommits
    obtain ⟨order, hfind, hresult⟩ := commits_finalizeSingle henv hsingle
    have hid : order.id = orderId := Table.key_of_find? hfind
    refine hresult.ordersStep ?_
    rw [hid]
    exact href
  · intro _
    exact ordersStep_of_orders_eq rfl rfl

theorem keepsAt_finalizeEach {orderIds : List Uuid} (henv : env.StoreHealthy)
    (href : ∀ orderId ∈ orderIds, ∀ row, db.orders.find? orderId = some row →
      ∃ referenceId, references referenceId ∧ row.ConcernedBy referenceId) :
    KeepsAt (OrdersStep references) db (finalizeEach env metadata orderIds) := by
  induction orderIds generalizing db with
  | nil => exact keepsAt_pure false
  | cons orderId rest ih =>
      have hfirst := @keepsAt_finalizeSingle env references orderId metadata db henv
        (href orderId (by simp))
      refine hfirst.bind fun did mid hdone => KeepsAt.bind (ih ?_) fun _ _ _ => keepsAt_pure _
      intro other hother row' hrow'
      have hrel := (hfirst.of_commits hdone).find? other
      rw [hrow'] at hrel
      cases hbefore : db.orders.find? other with
      | none =>
          rw [hbefore] at hrel
          cases hrel
      | some row =>
          rw [hbefore] at hrel
          cases hrel with
          | some hstep =>
              obtain ⟨referenceId, hmem, hconcerns⟩ :=
                href other (List.mem_cons_of_mem _ hother) row hbefore
              exact ⟨referenceId, hmem, (hstep.concernedBy referenceId).2 hconcerns⟩

theorem concernedBy_of_mem_pendingBundleOrders {referenceId orderId : Uuid}
    (hmem : orderId ∈ pendingBundleOrders referenceId db) {row : Order}
    (hrow : db.orders.find? orderId = some row) :
    row.ConcernedBy referenceId := by
  unfold pendingBundleOrders at hmem
  cases hbundle : db.bundles.find? referenceId with
  | none =>
      rw [hbundle] at hmem
      cases hmem
  | some bundle =>
      rw [hbundle] at hmem
      obtain ⟨order, horder, rfl⟩ := List.mem_map.1 hmem
      rw [List.mem_insertionSort, List.mem_filter] at horder
      obtain ⟨hmember, hpending⟩ := horder
      rw [Table.find?_of_mem hmember] at hrow
      obtain rfl := Option.some.inj hrow
      simp only [decide_eq_true_eq] at hpending
      have hid : bundle.id = referenceId := Table.key_of_find? hbundle
      exact .inr (hid ▸ hpending.1)

/-- Finalizing a paid reference touches its own order, or those of its bundle. -/
theorem keepsAt_finalizePaid {referenceId : Uuid} {metadata : Option FinalizeMetadata}
    {db : Db} (henv : env.StoreHealthy) :
    KeepsAt (OrdersStep fun id => id = referenceId) db
      (finalizePaidOrderFromGateway env referenceId metadata) := by
  unfold finalizePaidOrderFromGateway
  apply KeepsAt.reads_bind
  by_cases hpending : pendingBundleOrders referenceId db ≠ []
  · rw [if_pos hpending]
    apply keepsAt_finalizeEach henv
    intro orderId hmem row hrow
    exact ⟨referenceId, rfl, concernedBy_of_mem_pendingBundleOrders hmem hrow⟩
  · rw [if_neg hpending]
    apply keepsAt_finalizeSingle henv
    intro row hrow
    exact ⟨referenceId, rfl, .inl (Table.key_of_find? hrow).symm⟩

end SafariLaundry
