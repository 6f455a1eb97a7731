import SafariLaundry.Library.Selection
import SafariLaundry.Library.Threads
import SafariLaundry.PaymentLinks

/-!
# Settlement links

One payment link for several invoices.  A call claims the invoices for a new bundle, asks the
gateway for the link, and writes the link on the invoices or hands them back; each of these is
a transaction of its own.  A cleanup reads the bundles that look dead and releases them.  Calls
and cleanups interleave at these steps, and any of them may be the last one of its call.
-/

namespace SafariLaundry

open Library Library.Transaction

structure BundleLinkMetadata where
  link : PaymentLink
  createdAt : Timestamp
  (bundleId customerId : Uuid)
  invoiceIds : List Uuid
  totalAmountKd : ℤ
  deriving DecidableEq

structure OrderMarks where
  ccCollectionPaymentWaLocked : Bool
  posGatewayMetadata : Option BundleLinkMetadata
  deriving DecidableEq

structure SettlementStore where
  orders : Table Order.id
  bundles : Table PosPaymentBundle.id
  marks : Uuid → OrderMarks
  bundleCreatedAt : Uuid → Timestamp

abbrev SettlementTx (α : Type) := Transaction ServiceError SettlementStore α

def settlementTransaction {α : Type} (body : SettlementTx α) : SettlementTx α :=
  atomically (fun before _ => before) body

namespace SettlementStore

def row? (store : SettlementStore) (id : Uuid) : Option (Order × OrderMarks) :=
  (store.orders.find? id).map fun order => (order, store.marks id)

def bundleOf (store : SettlementStore) (id : Uuid) : Option Uuid :=
  (store.orders.find? id).bind Order.posPaymentBundleId

def Live (store : SettlementStore) (bundleId : Uuid) : Prop :=
  store.bundles.find? bundleId ≠ none
  deriving Decidable

def updateOrders (store : SettlementStore) (p : Order → Prop) [DecidablePred p]
    (f : Order → Order) (hkey : ∀ order, (f order).id = order.id) (mark : OrderMarks → OrderMarks) :
    SettlementStore :=
  { store with
    orders := store.orders.updateWhere p f hkey
    marks := fun id =>
      match store.orders.find? id with
      | some order => if p order then mark (store.marks id) else store.marks id
      | none => store.marks id }

end SettlementStore

def withBundle (bundleId : Option Uuid) (order : Order) : Order :=
  { order with posPaymentBundleId := bundleId }

theorem withBundle_id (bundleId : Option Uuid) (order : Order) :
    (withBundle bundleId order).id = order.id := rfl

def deleteBundle (bundleId : Uuid) : SettlementTx Unit := do
  let known ← reads fun store => decide (store.Live bundleId)
  require (known = true) (.database "Record to delete does not exist.")
  modify fun store =>
    { store.updateOrders (fun order => order.posPaymentBundleId = some bundleId)
        (withBundle none) (withBundle_id none) id with
      bundles := store.bundles.delete bundleId }

/-! ## A call -/

structure SettlementLinkParams where
  customerId : String
  invoiceIds : List String
  actorUserId : Uuid
  deriving DecidableEq

/-- What a call has checked before it claims anything. -/
structure SettlementRequest where
  customerId : Uuid
  invoiceIds : List Uuid
  actorUserId : Uuid
  totalAmount : ℤ
  deriving DecidableEq

structure SettlementClaim where
  bundleId : Uuid
  request : SettlementRequest
  deriving DecidableEq

structure SettlementReads where
  (customer orders balances : Db)

/-- `new Set` of the trimmed ids: the first of equal ones stays. -/
def settlementInvoiceIds (ids : List String) : List Uuid :=
  ((ids.filterMap fun id => trimmed (some id)).reverse.dedup).reverse

def checkSettlementOrder (customerId : Uuid) (remaining : Uuid → Option ℤ) (order : Order) :
    Except ServiceError Unit :=
  if order.customerId ≠ customerId then
    .error (.badRequest "All selected invoiceIds must belong to the provided customerId")
  else if order.status = .CANCELED then
    .error (.badRequest ("Invoice " ++ order.id ++ " is canceled and cannot be settled"))
  else if trimmed order.posHostedPaymentUrl ≠ none then
    .error (.badRequest ("Invoice " ++ order.id ++ " already has an active payment link"))
  else if order.posPaymentBundleId ≠ none then
    .error (.badRequest ("Invoice " ++ order.id ++
      " is already linked to another settlement bundle"))
  else if (remaining order.id).getD 0 ≤ invoiceRemainingTolerance then
    .error (.badRequest ("Invoice " ++ order.id ++ " has no remaining balance"))
  else .ok ()

def checkSettlement (env : Env) (seen : SettlementReads) (params : SettlementLinkParams) :
    Except ServiceError SettlementRequest :=
  let customerId := trim params.customerId
  let invoiceIds := settlementInvoiceIds params.invoiceIds
  if customerId = "" then .error (.badRequest "customerId is required")
  else if invoiceIds = [] then
    .error (.badRequest "invoiceIds must contain at least one id")
  else
    match seen.customer.customers.find? customerId with
    | none => .error (.badRequest "Customer not found")
    | some customer =>
        let selectedOrders := seen.orders.orders.rows.filter fun order => order.id ∈ invoiceIds
        if selectedOrders.length ≠ invoiceIds.length then
          .error (.badRequest "Some invoiceIds do not exist")
        else do
          let remaining := computeOrderRemainingBalancesBatch env seen.balances
            (selectedOrders.map Order.id)
          selectedOrders.forM (checkSettlementOrder customerId remaining)
          let totalAmount := (selectedOrders.map fun order => (remaining order.id).getD 0).sum
          if totalAmount ≤ 0 then
            .error (.badRequest "Selected invoice total must be greater than zero")
          else if trimmed (some customer.phone) = none ∧ trimmed customer.phone2 = none then
            .error (.badRequest "No customer phone available to send the settlement link")
          else .ok ⟨customerId, invoiceIds, params.actorUserId, totalAmount⟩

def SettlementRequest.Claimable (request : SettlementRequest) (order : Order) : Prop :=
  order.id ∈ request.invoiceIds ∧ order.customerId = request.customerId ∧
    order.status ≠ .CANCELED ∧ order.posHostedPaymentUrl = none ∧ order.posPaymentBundleId = none
  deriving Decidable

def claimSettlement (request : SettlementRequest) (bundleId : Uuid) (now : Timestamp) :
    SettlementTx SettlementClaim :=
  settlementTransaction do
    let lockedOrders ← reads fun store =>
      store.orders.rows.filter fun order => order.id ∈ request.invoiceIds
    require (lockedOrders.length = request.invoiceIds.length)
      (.badRequest "Some invoiceIds not found — cannot create settlement bundle")
    require (∀ order ∈ lockedOrders, order.customerId = request.customerId)
      (.badRequest "All selected invoiceIds must belong to the provided customerId")
    let bundles ← fetch
      (fun store => store.bundles.insert ⟨bundleId, request.actorUserId, request.totalAmount⟩)
      (.database "Unique constraint failed on the fields: (id)")
    let count ← reads fun store =>
      (store.orders.rows.filter fun order => request.Claimable order).length
    modify fun store =>
      { store.updateOrders request.Claimable (withBundle (some bundleId))
          (withBundle_id (some bundleId)) id with
        bundles := bundles
        bundleCreatedAt := Function.update store.bundleCreatedAt bundleId now }
    require (count = request.invoiceIds.length) (.badRequest
      "Some invoices changed state during settlement generation; refresh and retry")
    return ⟨bundleId, request⟩

def SettlementClaim.Holds (claim : SettlementClaim) (order : Order) : Prop :=
  order.id ∈ claim.request.invoiceIds ∧ order.posPaymentBundleId = some claim.bundleId
  deriving Decidable

def rollBackSettlement (claim : SettlementClaim) : SettlementTx Unit :=
  settlementTransaction do
    modify fun store =>
      store.updateOrders claim.Holds (withBundle none) (withBundle_id none) id
    deleteBundle claim.bundleId

def stampSettlement (claim : SettlementClaim) (link : PaymentLink) (now : Timestamp)
    (store : SettlementStore) : SettlementStore :=
  store.updateOrders claim.Holds (linkedRow link none) (linkedRow_id link none) fun _ =>
    ⟨true, some ⟨link, now, claim.bundleId, claim.request.customerId, claim.request.invoiceIds,
      claim.request.totalAmount⟩⟩

def SettlementStore.ordersOf (store : SettlementStore) (bundleId : Uuid) : List Order :=
  store.orders.rows.filter fun order => order.posPaymentBundleId = some bundleId

def blank (text : Option String) : Bool :=
  text = none ∨ text = some ""

def deadBundles (olderThanMinutes : ℤ) (now : Timestamp) (store : SettlementStore) : List Uuid :=
  ((store.bundles.rows.map PosPaymentBundle.id).filter fun bundleId =>
    (store.bundleCreatedAt bundleId : ℤ) < now - max 1 olderThanMinutes * 60000 ∧
      (∃ order ∈ store.ordersOf bundleId,
        order.posHostedPaymentUrl = none ∧ order.posGatewayTrackId = none) ∧
      ∀ order ∈ store.ordersOf bundleId,
        blank order.posHostedPaymentUrl ∧ blank order.posGatewayTrackId)

def unlock (marks : OrderMarks) : OrderMarks :=
  { marks with ccCollectionPaymentWaLocked := false }

def releaseBundle (bundleId : Uuid) : SettlementTx Unit := do
  modify fun store =>
    store.updateOrders (fun order => order.posPaymentBundleId = some bundleId) (withBundle none)
      (withBundle_id none) unlock
  deleteBundle bundleId

/-- The writes of a cleanup, for the bundles that its read found. -/
def releaseBundles (bundleIds : List Uuid) : SettlementTx Unit :=
  settlementTransaction (bundleIds.forM releaseBundle)

inductive SettlementThread
  | call (params : SettlementLinkParams)
  | claiming (request : SettlementRequest)
  | linking (claim : SettlementClaim)
  | rollingBack (claim : SettlementClaim) (thrown : ServiceError)
  | stamping (claim : SettlementClaim) (link : PaymentLink)
  | returned (claim : SettlementClaim) (link : PaymentLink)
  | thrown (claim : Option SettlementClaim) (error : ServiceError)
  | cleanup (olderThanMinutes : ℤ)
  | releasing (bundleIds : List Uuid)
  | cleaned
  deriving DecidableEq

def SettlementThread.claim? : SettlementThread → Option SettlementClaim
  | .linking claim | .rollingBack claim _ | .stamping claim _ | .returned claim _ => some claim
  | .thrown claim _ => claim
  | .call _ | .claiming _ | .cleanup _ | .releasing _ | .cleaned => none

def SettlementThread.bundleId? (thread : SettlementThread) : Option Uuid :=
  thread.claim?.map SettlementClaim.bundleId

/-- What a step meets: the reads of a call, the clock, a new key, the answer of the gateway,
and whether the process dies or the database fails in it. -/
structure SettlementChoice where
  env : Env
  seen : SettlementReads
  now : Timestamp
  newBundleId : Uuid
  gateway : Except ServiceError PaymentLink
  fault : Option ServiceError

def settlementTurn (choice : SettlementChoice) (thread : SettlementThread)
    (store : SettlementStore) : SettlementStore × List SettlementThread :=
  match choice.fault with
  | some error => (store, [.thrown thread.claim? error])
  | none =>
      match thread with
      | .call params =>
          match checkSettlement choice.env choice.seen params with
          | .ok request => (store, [.claiming request])
          | .error error => (store, [.thrown none error])
      | .claiming request =>
          match (claimSettlement request choice.newBundleId choice.now).outcome store with
          | (.ok claim, after) => (after, [.linking claim])
          | (.error error, after) => (after, [.thrown none error])
      | .linking claim =>
          match choice.gateway with
          | .ok link => (store, [.stamping claim link])
          | .error error => (store, [.rollingBack claim error])
      | .rollingBack claim thrown =>
          match (rollBackSettlement claim).outcome store with
          | (.ok _, after) => (after, [.thrown (some claim) thrown])
          | (.error error, after) => (after, [.thrown (some claim) error])
      | .stamping claim link =>
          (stampSettlement claim link choice.now store, [.returned claim link])
      | .cleanup olderThanMinutes =>
          (store, [.releasing (deadBundles olderThanMinutes choice.now store)])
      | .releasing bundleIds =>
          match (releaseBundles bundleIds).outcome store with
          | (.ok _, after) => (after, [.cleaned])
          | (.error error, after) => (after, [.thrown none error])
      | ended => (store, [ended])

def SettlementThread.Ended : SettlementThread → Prop
  | .returned _ _ | .thrown _ _ | .cleaned => True
  | _ => False

def SettlementThread.Starts : SettlementThread → Prop
  | .call _ | .cleanup _ => True
  | _ => False

def settlements : Threads SettlementStore SettlementThread SettlementChoice where
  starts := fun thread _ => thread.Starts
  admits := fun choice thread store rest =>
    ¬ thread.Ended ∧ ¬ store.Live choice.newBundleId ∧
      ∀ other ∈ thread ::ₘ rest, other.bundleId? ≠ some choice.newBundleId
  turn := settlementTurn

/-! ## What the writes do to a row -/

namespace SettlementStore

variable {store after : SettlementStore}

theorem bundleOf_eq (store : SettlementStore) (id : Uuid) :
    store.bundleOf id = (store.row? id).bind fun row => row.1.posPaymentBundleId := by
  unfold bundleOf row?
  cases store.orders.find? id <;> rfl

theorem row?_updateOrders (store : SettlementStore) (p : Order → Prop) [DecidablePred p]
    (f : Order → Order) (hkey : ∀ order, (f order).id = order.id) (mark : OrderMarks → OrderMarks)
    (id : Uuid) :
    (store.updateOrders p f hkey mark).row? id =
      (store.row? id).map fun row => if p row.1 then (f row.1, mark row.2) else row := by
  unfold row? updateOrders
  simp only [Table.find?_updateWhere]
  cases hfind : store.orders.find? id with
  | none => rfl
  | some order =>
      by_cases hp : p order
      · simp [hp]
      · simp [hp]

structure Changed (store after : SettlementStore) (g : Order × OrderMarks → Order × OrderMarks)
    (live : Uuid → Prop) : Prop where
  rows : ∀ id, after.row? id = (store.row? id).map g
  live : ∀ bundleId, after.Live bundleId ↔ live bundleId

def dropRow (gone : Uuid → Prop) [DecidablePred gone] (mark : OrderMarks → OrderMarks)
    (row : Order × OrderMarks) : Order × OrderMarks :=
  match row.1.posPaymentBundleId with
  | some bundleId => if gone bundleId then (withBundle none row.1, mark row.2) else row
  | none => row

variable {mark : OrderMarks → OrderMarks} {bundleId : Uuid} {a : Unit}

theorem dropRow_of_bundle {gone : Uuid → Prop} [DecidablePred gone] {row : Order × OrderMarks}
    (hbundle : row.1.posPaymentBundleId = some bundleId) :
    dropRow gone mark row = if gone bundleId then (withBundle none row.1, mark row.2) else row := by
  rw [dropRow, hbundle]

theorem dropRow_of_none {gone : Uuid → Prop} [DecidablePred gone] {row : Order × OrderMarks}
    (hbundle : row.1.posPaymentBundleId = none) : dropRow gone mark row = row := by
  rw [dropRow, hbundle]

theorem commits_deleteBundle (hcommits : (deleteBundle bundleId).Commits store a after) :
    store.Live bundleId ∧ store.Changed after (dropRow (· = bundleId) id)
      fun other => other ≠ bundleId ∧ store.Live other := by
  unfold deleteBundle at hcommits
  simp only [commits_bind, commits_reads, commits_require, commits_modify] at hcommits
  obtain ⟨_, _, ⟨rfl, rfl⟩, _, _, ⟨hlive, rfl⟩, rfl⟩ := hcommits
  refine ⟨by simpa using hlive, ?_, ?_⟩
  · intro id
    change (store.updateOrders _ _ (withBundle_id none) _).row? id = _
    rw [row?_updateOrders]
    congr 1
    funext row
    unfold dropRow
    cases row.1.posPaymentBundleId with
    | none => simp
    | some other => simp
  · intro other
    unfold Live
    change (store.bundles.delete bundleId).find? other ≠ none ↔ _
    rw [Table.find?_delete]
    by_cases hsame : other = bundleId
    · simp [hsame]
    · simp [hsame]

theorem commits_rollBackSettlement {claim : SettlementClaim}
    (hcommits : (rollBackSettlement claim).Commits store a after) :
    store.Live claim.bundleId ∧ store.Changed after (dropRow (· = claim.bundleId) id)
      fun other => other ≠ claim.bundleId ∧ store.Live other := by
  unfold rollBackSettlement settlementTransaction at hcommits
  rw [commits_atomically, commits_bind] at hcommits
  obtain ⟨_, mid, hmodified, hdeleted⟩ := hcommits
  obtain rfl := commits_modify.1 hmodified
  obtain ⟨hlive, hchanged⟩ := commits_deleteBundle hdeleted
  refine ⟨hlive, ?_, hchanged.live⟩
  intro id
  rw [hchanged.rows, row?_updateOrders, Option.map_map]
  congr 1
  funext row
  rw [Function.comp_apply]
  by_cases hheld : claim.Holds row.1
  · rw [if_pos hheld, dropRow_of_none rfl, dropRow_of_bundle hheld.2, if_pos rfl]
  · rw [if_neg hheld]

theorem commits_releaseBundle (hcommits : (releaseBundle bundleId).Commits store a after) :
    store.Changed after (dropRow (· = bundleId) unlock)
      fun other => other ≠ bundleId ∧ store.Live other := by
  unfold releaseBundle at hcommits
  rw [commits_bind] at hcommits
  obtain ⟨_, mid, hmodified, hdeleted⟩ := hcommits
  obtain rfl := commits_modify.1 hmodified
  obtain ⟨_, hchanged⟩ := commits_deleteBundle hdeleted
  refine ⟨?_, hchanged.live⟩
  intro id
  rw [hchanged.rows, row?_updateOrders, Option.map_map]
  congr 1
  funext row
  rw [Function.comp_apply]
  by_cases hin : row.1.posPaymentBundleId = some bundleId
  · rw [if_pos hin, dropRow_of_none rfl, dropRow_of_bundle hin, if_pos rfl]
  · rw [if_neg hin]
    unfold dropRow
    cases hbundle : row.1.posPaymentBundleId with
    | none => rfl
    | some other =>
        have hother : other ≠ bundleId := fun hsame => hin (by rw [hbundle, hsame])
        simp [hother]

theorem commits_releaseBundles {bundleIds : List Uuid}
    (hcommits : (bundleIds.forM releaseBundle).Commits store a after) :
    store.Changed after (dropRow (· ∈ bundleIds) unlock)
      fun other => other ∉ bundleIds ∧ store.Live other := by
  induction bundleIds generalizing store with
  | nil =>
      rw [commits_forM_nil] at hcommits
      rw [← hcommits]
      refine ⟨?_, by simp⟩
      intro id
      have hsame : dropRow (· ∈ ([] : List Uuid)) unlock = fun row => row := by
        funext row
        unfold dropRow
        cases row.1.posPaymentBundleId <;> simp
      rw [hsame, Option.map_id']
  | cons bundleId rest ih =>
      obtain ⟨mid, hfirst, hrest⟩ := commits_forM_cons.1 hcommits
      have hone := commits_releaseBundle hfirst
      have hothers := ih hrest
      refine ⟨?_, ?_⟩
      · intro id
        rw [hothers.rows, hone.rows, Option.map_map]
        congr 1
        funext row
        rw [Function.comp_apply]
        cases hbundle : row.1.posPaymentBundleId with
        | none => rw [dropRow_of_none hbundle, dropRow_of_none hbundle, dropRow_of_none hbundle]
        | some other =>
            rw [dropRow_of_bundle hbundle, dropRow_of_bundle hbundle]
            by_cases hsame : other = bundleId
            · rw [if_pos hsame, dropRow_of_none rfl, if_pos (by simp [hsame])]
            · rw [if_neg hsame, dropRow_of_bundle hbundle]
              simp [hsame]
      · intro other
        rw [hothers.live, hone.live, List.mem_cons]
        tauto

def claimRow (request : SettlementRequest) (bundleId : Uuid) (row : Order × OrderMarks) :
    Order × OrderMarks :=
  if request.Claimable row.1 then (withBundle (some bundleId) row.1, row.2) else row

theorem commits_claimSettlement {request : SettlementRequest} {now : Timestamp}
    {claim : SettlementClaim}
    (hcommits : (claimSettlement request bundleId now).Commits store claim after) :
    claim = ⟨bundleId, request⟩ ∧
      (∀ id ∈ request.invoiceIds, ∃ order, store.orders.find? id = some order ∧
        request.Claimable order) ∧
      store.Changed after (claimRow request bundleId)
        fun other => other = bundleId ∨ store.Live other := by
  unfold claimSettlement settlementTransaction at hcommits
  simp only [commits_atomically, commits_bind, commits_reads, commits_require, commits_fetch,
    commits_modify, commits_pure] at hcommits
  obtain ⟨_, _, ⟨rfl, rfl⟩, _, _, ⟨_, rfl⟩, _, _, ⟨_, rfl⟩, bundles, _, ⟨hinsert, rfl⟩, _, _,
    ⟨rfl, rfl⟩, _, _, rfl, _, _, ⟨hcount, rfl⟩, rfl, rfl⟩ := hcommits
  refine ⟨rfl, Table.find?_of_length_filter (fun _ hclaimable => hclaimable.1) hcount, ?_, ?_⟩
  · intro id
    change (store.updateOrders request.Claimable _ (withBundle_id (some bundleId)) _).row? id = _
    rw [row?_updateOrders]
    rfl
  · intro other
    unfold Live
    change bundles.find? other ≠ none ↔ _
    rw [Table.find?_insert hinsert]
    by_cases hsame : bundleId = other
    · simp [hsame]
    · simp [hsame, Ne.symm hsame]

def stampRow (claim : SettlementClaim) (link : PaymentLink) (now : Timestamp)
    (row : Order × OrderMarks) : Order × OrderMarks :=
  if claim.Holds row.1 then
    (linkedRow link none row.1, ⟨true, some ⟨link, now, claim.bundleId, claim.request.customerId,
      claim.request.invoiceIds, claim.request.totalAmount⟩⟩)
  else row

theorem changed_stampSettlement (store : SettlementStore) (claim : SettlementClaim)
    (link : PaymentLink) (now : Timestamp) :
    store.Changed (stampSettlement claim link now store) (stampRow claim link now) store.Live := by
  refine ⟨?_, fun _ => Iff.rfl⟩
  intro id
  rw [stampSettlement, row?_updateOrders]
  rfl

end SettlementStore

/-- A call whose link is not made yet, or could not be made. -/
def SettlementThread.Waits (thread : SettlementThread) (claim : SettlementClaim) : Prop :=
  thread = .linking claim ∨ ∃ error, thread = .rollingBack claim error

inductive SettlementStep (choice : SettlementChoice) (store : SettlementStore) :
    SettlementThread → SettlementStore → SettlementThread → Prop
  | aside {thread next : SettlementThread} (hclaim : next.claim? = thread.claim?)
      (hwaits : ∀ claim, next.Waits claim → thread.Waits claim) :
      SettlementStep choice store thread store next
  | claims {request : SettlementRequest} {after : SettlementStore}
      (hfree : ∀ id ∈ request.invoiceIds, ∃ order, store.orders.find? id = some order ∧
        request.Claimable order)
      (hchanged : store.Changed after (SettlementStore.claimRow request choice.newBundleId)
        fun other => other = choice.newBundleId ∨ store.Live other) :
      SettlementStep choice store (.claiming request) after (.linking ⟨choice.newBundleId, request⟩)
  | drops {thread next : SettlementThread} {after : SettlementStore} (gone : Uuid → Prop)
      [DecidablePred gone] (mark : OrderMarks → OrderMarks)
      (hclaim : next.claim? = thread.claim?) (hwaits : ∀ claim, ¬ next.Waits claim)
      (hmark : ∀ marks, (mark marks).posGatewayMetadata = marks.posGatewayMetadata)
      (hchanged : store.Changed after (SettlementStore.dropRow gone mark)
        fun other => ¬ gone other ∧ store.Live other) :
      SettlementStep choice store thread after next
  | stamps {claim : SettlementClaim} {link : PaymentLink} {after : SettlementStore}
      (hchanged : store.Changed after (SettlementStore.stampRow claim link choice.now)
        store.Live) :
      SettlementStep choice store (.stamping claim link) after (.returned claim link)

theorem settlementTransaction_throws {α : Type} {body : SettlementTx α}
    {store after : SettlementStore} {error : ServiceError}
    (hthrows : (settlementTransaction body).outcome store = (.error error, after)) :
    after = store := by
  rw [settlementTransaction, outcome_atomically] at hthrows
  rcases hbody : body.outcome store with ⟨_ | _, mid⟩
  · rw [hbody] at hthrows
    cases hthrows
    rfl
  · rw [hbody] at hthrows
    cases hthrows

theorem settlementTurn_step (choice : SettlementChoice) (store : SettlementStore)
    {thread : SettlementThread} (hended : ¬ thread.Ended) :
    ∃ next, (settlementTurn choice thread store).2 = [next] ∧
      SettlementStep choice store thread (settlementTurn choice thread store).1 next := by
  unfold settlementTurn
  cases choice.fault with
  | some error => exact ⟨_, rfl, .aside rfl (by simp [SettlementThread.Waits])⟩
  | none =>
      cases thread with
      | call params =>
          cases hcheck : checkSettlement choice.env choice.seen params with
          | ok request =>
              simp only [hcheck]
              exact ⟨_, rfl, .aside rfl (by simp [SettlementThread.Waits])⟩
          | error error =>
              simp only [hcheck]
              exact ⟨_, rfl, .aside rfl (by simp [SettlementThread.Waits])⟩
      | claiming request =>
          rcases houtcome : (claimSettlement request choice.newBundleId choice.now).outcome store
            with ⟨_ | claim, after⟩
          · simp only [houtcome]
            obtain rfl := settlementTransaction_throws houtcome
            exact ⟨_, rfl, .aside rfl (by simp [SettlementThread.Waits])⟩
          · simp only [houtcome]
            obtain ⟨rfl, hfree, hchanged⟩ := SettlementStore.commits_claimSettlement houtcome
            exact ⟨_, rfl, .claims hfree hchanged⟩
      | linking claim =>
          cases hgateway : choice.gateway with
          | ok link =>
              simp only
              exact ⟨_, rfl, .aside rfl (by simp [SettlementThread.Waits])⟩
          | error error =>
              simp only
              refine ⟨_, rfl, .aside rfl ?_⟩
              rintro other (hother | ⟨_, hother⟩)
              · cases hother
              · cases hother
                exact .inl rfl
      | rollingBack claim thrown =>
          rcases houtcome : (rollBackSettlement claim).outcome store with ⟨error | _, after⟩
          · simp only [houtcome]
            obtain rfl := settlementTransaction_throws houtcome
            exact ⟨_, rfl, .aside rfl (by simp [SettlementThread.Waits])⟩
          · simp only [houtcome]
            obtain ⟨_, hchanged⟩ := SettlementStore.commits_rollBackSettlement houtcome
            exact ⟨_, rfl, .drops (· = claim.bundleId) id rfl (by simp [SettlementThread.Waits])
              (fun _ => rfl) hchanged⟩
      | stamping claim link =>
          exact ⟨_, rfl, .stamps (SettlementStore.changed_stampSettlement store claim link _)⟩
      | cleanup olderThanMinutes =>
          exact ⟨_, rfl, .aside rfl (by simp [SettlementThread.Waits])⟩
      | releasing bundleIds =>
          rcases houtcome : (releaseBundles bundleIds).outcome store with ⟨error | _, after⟩
          · simp only [houtcome]
            obtain rfl := settlementTransaction_throws houtcome
            exact ⟨_, rfl, .aside rfl (by simp [SettlementThread.Waits])⟩
          · simp only [houtcome]
            have hcommits : (bundleIds.forM releaseBundle).Commits store () after :=
              commits_atomically.1 houtcome
            exact ⟨_, rfl, .drops (· ∈ bundleIds) unlock rfl (by simp [SettlementThread.Waits])
              (fun _ => rfl) (SettlementStore.commits_releaseBundles hcommits)⟩
      | returned claim link => exact absurd trivial hended
      | thrown claim error => exact absurd trivial hended
      | cleaned => exact absurd trivial hended

end SafariLaundry
