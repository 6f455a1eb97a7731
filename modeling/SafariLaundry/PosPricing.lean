import SafariLaundry.GatewayText
import SafariLaundry.Library.Decimal

/-!
# Pricing a checkout

A checkout at the till is a cart of catalogue items, which the server prices from the list and
the overrides of a branch, or a receipt that brings its own prices.  Quantities are in
ten-thousandths, as their column keeps them; the amount of a line is the exact product of
quantity and price, in hundred-millionths of a dinar.
-/

namespace SafariLaundry

open Library Library.Bookkeeping Library.Transaction List

def POS_DELIVERY_FEE_KD : ℤ := 2500

inductive PosServiceKey
  | NORMAL | URGENT | PRESS_ONLY | URGENT_PRESS

structure OrderLineItemDto where
  label : Option String
  laundryPriceListItemId : Option Uuid
  posServiceKey : Option PosServiceKey
  quantity : ℤ
  starchOption : Option StarchOption
  unitPrice : ℤ
  stockItemId : Option Uuid

structure PosCheckoutDto where
  totalPrice : ℤ
  lineItems : Option (List OrderLineItemDto)

/-- A line to store; the numbers are what the texts of `toFixed(4)` say. -/
structure PosPricedLineCreate where
  label : Option String
  starchOption : StarchOption
  (quantity unitPrice : ℤ)
  stockItemId : Option Uuid

structure PosPricing where
  lineCreates : List PosPricedLineCreate
  totalPriceDecimal : ℤ

def PosPricing.linesTotal (pricing : PosPricing) : ℤ :=
  tally (fun line : PosPricedLineCreate => line.quantity * line.unitPrice) pricing.lineCreates

def LaundryPriceListItem.price (item : LaundryPriceListItem) : PosServiceKey → Option ℤ
  | .NORMAL => some item.priceNormal
  | .URGENT => some item.priceUrgent
  | .PRESS_ONLY => item.pricePressOnly
  | .URGENT_PRESS => item.priceUrgentPress

def LaundryBranchItemPrice.price (override : LaundryBranchItemPrice) : PosServiceKey → Option ℤ
  | .NORMAL => override.priceNormal
  | .URGENT => override.priceUrgent
  | .PRESS_ONLY => override.pricePressOnly
  | .URGENT_PRESS => override.priceUrgentPress

def resolveLaundryTierPrice (item : LaundryPriceListItem) (serviceKey : PosServiceKey) :
    Except ServiceError ℤ :=
  match (item.branchOverrides.head?.bind fun override => override.price serviceKey).or
      (item.price serviceKey) with
  | none => .error (.badRequest "Selected service is not priced for this item.")
  | some price =>
      if price < 0 then .error (.badRequest "Selected service is not priced for this item.")
      else .ok price

def LaundryPriceListItem.readFor (branchId : Option Uuid) (item : LaundryPriceListItem) :
    LaundryPriceListItem :=
  { item with
    branchOverrides := match branchId with
      | some id => item.branchOverrides.filter fun override => override.branchId = id
      | none => item.branchOverrides }

def PosServiceKey.labelSuffix : PosServiceKey → String
  | .NORMAL => "غسيل عادي"
  | .URGENT => "خدمة سريعة"
  | .PRESS_ONLY => "كي فقط"
  | .URGENT_PRESS => "دراي كلين سريع"

def catalogItems (branchId : Option Uuid) (itemIds : List Uuid) (db : Db) :
    List LaundryPriceListItem :=
  (db.laundryPriceListItems.filter fun item => item.id ∈ itemIds ∧ item.isActive = true).map
    (LaundryPriceListItem.readFor branchId)

def pricePosLine (items : List LaundryPriceListItem) (line : OrderLineItemDto) :
    Except ServiceError PosPricedLineCreate := do
  match line.posServiceKey with
  | none => .error (.badRequest "POS checkout lines must include service tier.")
  | some serviceKey =>
      if ¬ 0 < line.quantity then
        .error (.badRequest "Each line item must have a positive quantity.")
      else
        match items.find? fun item => line.laundryPriceListItemId = some item.id with
        | none => .error (.badRequest "Selected catalog item is inactive or missing.")
        | some item =>
            if item.manualEntry = true then
              .error (.badRequest
                "Manual-price catalog items are not allowed in mobile POS checkout.")
            else do
              let unitPrice ← resolveLaundryTierPrice item serviceKey
              if unitPrice ≤ 0 then
                .error (.badRequest "Selected service has no positive catalog price.")
              else
                .ok ⟨some (item.nameAr ++ " — " ++ serviceKey.labelSuffix), .NONE, line.quantity,
                  unitPrice, line.stockItemId⟩

/-- One round of the loop over the cart: the total and the lines so far. -/
def addPosLine (items : List LaundryPriceListItem) (sofar : ℤ × List PosPricedLineCreate)
    (line : OrderLineItemDto) : Except ServiceError (ℤ × List PosPricedLineCreate) := do
  let priced ← pricePosLine items line
  return (sofar.1 + priced.quantity * priced.unitPrice, sofar.2 ++ [priced])

def deliveryLine : PosPricedLineCreate where
  label := some "توصيل داخل المنطقة"
  starchOption := .NONE
  quantity := 10000
  unitPrice := POS_DELIVERY_FEE_KD
  stockItemId := none

def OrderLineItemDto.catalogId (line : OrderLineItemDto) : Option Uuid :=
  line.laundryPriceListItemId.filter fun id => id ≠ ""

/-- `new Set` keeps one id of each, and the number left is compared with the cart. -/
def itemIdsOf (input : List OrderLineItemDto) : List Uuid :=
  (input.filterMap OrderLineItemDto.catalogId).dedup

def actorBranch (actorUserId : Uuid) (db : Db) : Option Uuid :=
  (db.users.find? fun user => user.id = actorUserId).bind User.branchId

def pricePosCheckoutLinesTx (actorUserId : Uuid) (lineItems : Option (List OrderLineItemDto)) :
    Tx PosPricing := do
  let input := lineItems.getD []
  require (input ≠ []) (.badRequest "POS checkout requires line items.")
  let branchId ← reads (actorBranch actorUserId)
  require ((itemIdsOf input).length = input.length)
    (.badRequest "POS checkout lines must reference catalog item ids.")
  let items ← reads (catalogItems branchId (itemIdsOf input))
  let (total, lineCreates) ← ofExcept (input.foldlM (addPosLine items) (0, []))
  return ⟨lineCreates ++ [deliveryLine],
    Decimal.roundHalfAway ((total + 10000 * POS_DELIVERY_FEE_KD : ℤ) / 10000)⟩

def MONEY_EPS : ℤ := 500000

def numberText (minor : ℤ) : String :=
  if minor % 10000 = 0 then toString (minor / 10000)
  else ((minorToAmountString minor).dropEndWhile '0').copy

def assertLineItemsMatchTotal (totalPrice : ℤ) (lineItems : List OrderLineItemDto) :
    Except ServiceError Unit :=
  let computed := tally (fun line : OrderLineItemDto => line.quantity * line.unitPrice) lineItems
  if lineItems ≠ [] ∧ MONEY_EPS < |computed - 10000 * totalPrice| then
    .error (.badRequest ("Line items total (" ++
      minorToAmountString (Decimal.roundHalfAway ((computed : ℚ) / 10000)) ++
      ") does not match totalPrice (" ++ numberText totalPrice ++
      "). Recheck quantities and unit prices."))
  else .ok ()

def mapPosCheckoutLineItem (line : OrderLineItemDto) : PosPricedLineCreate where
  label := trimmed line.label
  starchOption := .NONE
  quantity := line.quantity
  unitPrice := line.unitPrice
  stockItemId := line.stockItemId

def OrderLineItemDto.IsCatalog (line : OrderLineItemDto) : Prop :=
  line.catalogId ≠ none ∧ line.posServiceKey ≠ none
  deriving Decidable

def resolvePosCheckoutPricingTx (actorUserId : Uuid) (dto : PosCheckoutDto) : Tx PosPricing := do
  let items := dto.lineItems.getD []
  require (items ≠ []) (.badRequest "POS checkout requires line items.")
  if ∀ line ∈ items, line.IsCatalog then
    pricePosCheckoutLinesTx actorUserId dto.lineItems
  else do
    ofExcept (assertLineItemsMatchTotal dto.totalPrice items)
    let mapped := items.map mapPosCheckoutLineItem
    require (∀ line ∈ mapped, 0 < line.quantity ∧ 0 ≤ line.unitPrice)
      (.badRequest "Each line item must have a positive quantity and a non-negative unit price")
    return ⟨mapped, dto.totalPrice⟩

/-! ## A cart of active items -/

def activeItem (db : Db) (id : Uuid) : Option LaundryPriceListItem :=
  db.laundryPriceListItems.find? fun item => item.isActive = true ∧ item.id = id

structure CatalogLine (db : Db) where
  item : LaundryPriceListItem
  posServiceKey : PosServiceKey
  quantity : ℤ
  label : Option String
  starchOption : Option StarchOption
  unitPrice : ℤ
  stockItemId : Option Uuid
  item_active : activeItem db item.id = some item
  id_nonempty : item.id ≠ ""
  quantity_pos : 0 < quantity

def CatalogLine.dto {db : Db} (line : CatalogLine db) : OrderLineItemDto where
  label := line.label
  laundryPriceListItemId := some line.item.id
  posServiceKey := some line.posServiceKey
  quantity := line.quantity
  starchOption := line.starchOption
  unitPrice := line.unitPrice
  stockItemId := line.stockItemId

def LaundryPriceListItem.priceAt (item : LaundryPriceListItem) (branchId : Option Uuid)
    (serviceKey : PosServiceKey) : Option ℤ :=
  ((item.branchOverrides.find? fun override => branchId = some override.branchId).bind
    fun override => override.price serviceKey).or (item.price serviceKey)

def CatalogLine.branchPrice {db : Db} (branchId : Option Uuid) (line : CatalogLine db) : ℤ :=
  (line.item.priceAt branchId line.posServiceKey).getD 0

def CatalogLine.Priced {db : Db} (branchId : Option Uuid) (line : CatalogLine db) : Prop :=
  line.item.manualEntry = false ∧ 0 < line.branchPrice branchId
  deriving Decidable

def cartTotal {db : Db} (branchId : Option Uuid) (cart : List (CatalogLine db)) : ℤ :=
  tally (fun line => line.quantity * line.branchPrice branchId) cart + 10000 * POS_DELIVERY_FEE_KD

def CatalogLine.create {db : Db} (branchId : Option Uuid) (line : CatalogLine db) :
    PosPricedLineCreate where
  label := some (line.item.nameAr ++ " — " ++ line.posServiceKey.labelSuffix)
  starchOption := .NONE
  quantity := line.quantity
  unitPrice := line.branchPrice branchId
  stockItemId := line.stockItemId

def CatalogLine.OverridesOf {db : Db} (branchId : Option Uuid) (line : CatalogLine db) : Prop :=
  branchId ≠ none ∨ line.item.branchOverrides = []

section Cart

variable {db : Db} {branchId : Option Uuid}

theorem resolveLaundryTierPrice_ok_iff {line : CatalogLine db} {price : ℤ}
    (hoverrides : line.OverridesOf branchId) :
    resolveLaundryTierPrice (line.item.readFor branchId) line.posServiceKey = .ok price ↔
      line.item.priceAt branchId line.posServiceKey = some price ∧ 0 ≤ price := by
  have hfirst : (line.item.readFor branchId).branchOverrides.head? =
      line.item.branchOverrides.find? fun override => branchId = some override.branchId := by
    rcases hoverrides with hbranch | hnone
    · obtain ⟨id, rfl⟩ := Option.ne_none_iff_exists'.1 hbranch
      rw [LaundryPriceListItem.readFor, List.head?_filter]
      simp only [Option.some.injEq, eq_comm]
    · cases branchId with
      | none => rw [LaundryPriceListItem.readFor, hnone]; rfl
      | some id => rw [LaundryPriceListItem.readFor, hnone]; rfl
  have hlist : (line.item.readFor branchId).price line.posServiceKey =
      line.item.price line.posServiceKey := by
    cases line.posServiceKey <;> rfl
  unfold resolveLaundryTierPrice
  rw [hfirst, hlist, ← LaundryPriceListItem.priceAt]
  cases line.item.priceAt branchId line.posServiceKey with
  | none => simp
  | some found =>
      simp only [Option.some.injEq]
      split
      · simp only [reduceCtorEq, false_iff]
        omega
      · simp only [Except.ok.injEq]
        omega

theorem find?_catalogItems {itemIds : List Uuid} (line : CatalogLine db)
    (hmem : line.item.id ∈ itemIds) :
    (catalogItems branchId itemIds db).find?
        (fun item => line.dto.laundryPriceListItemId = some item.id) =
      some (line.item.readFor branchId) := by
  have hactive : (db.laundryPriceListItems.filter fun item =>
      item.id ∈ itemIds ∧ item.isActive = true).find?
        (fun item => line.dto.laundryPriceListItemId = some item.id) = some line.item := by
    rw [List.find?_filter, ← line.item_active, activeItem]
    congr 1
    funext item
    by_cases hid : item.id = line.item.id
    · simp [CatalogLine.dto, hid, hmem]
    · simp [CatalogLine.dto, hid, Ne.symm hid]
  unfold catalogItems
  rw [List.find?_map]
  change Option.map _ ((db.laundryPriceListItems.filter fun item =>
      item.id ∈ itemIds ∧ item.isActive = true).find?
        (fun item => line.dto.laundryPriceListItemId = some item.id)) = _
  rw [hactive]
  rfl

theorem pricePosLine_ok_iff {itemIds : List Uuid} {line : CatalogLine db}
    {stored : PosPricedLineCreate} (hoverrides : line.OverridesOf branchId)
    (hmem : line.item.id ∈ itemIds) :
    pricePosLine (catalogItems branchId itemIds db) line.dto = .ok stored ↔
      line.Priced branchId ∧ stored = line.create branchId := by
  have hresolve := fun price => @resolveLaundryTierPrice_ok_iff db branchId line price hoverrides
  have hname : (line.item.readFor branchId).nameAr = line.item.nameAr := rfl
  have hentry : (line.item.readFor branchId).manualEntry = line.item.manualEntry := rfl
  unfold pricePosLine
  rw [find?_catalogItems line hmem]
  simp only [CatalogLine.dto, line.quantity_pos, not_true_eq_false, if_false, hname, hentry]
  cases hmanual : line.item.manualEntry with
  | true => simp [CatalogLine.Priced, hmanual]
  | false =>
      simp only [Bool.false_eq_true, if_false, CatalogLine.Priced, hmanual, true_and]
      cases hfound : resolveLaundryTierPrice (line.item.readFor branchId) line.posServiceKey with
      | error e =>
          have hunpriced : ¬ 0 < line.branchPrice branchId := by
            intro hpos
            unfold CatalogLine.branchPrice at hpos
            cases hprice : line.item.priceAt branchId line.posServiceKey with
            | none => simp [hprice] at hpos
            | some price =>
                rw [hprice, Option.getD_some] at hpos
                have hok := (hresolve price).2 ⟨hprice, hpos.le⟩
                rw [hfound] at hok
                cases hok
          simp [bind, Except.bind, hunpriced]
      | ok price =>
          have hprice : line.branchPrice branchId = price := by
            rw [CatalogLine.branchPrice, ((hresolve price).1 hfound).1, Option.getD_some]
          by_cases hpos : 0 < price
          · simp [bind, Except.bind, not_le.2 hpos, hprice, hpos, CatalogLine.create, eq_comm]
          · simp [bind, Except.bind, not_lt.1 hpos, hprice, hpos]

theorem foldlM_addPosLine_ok_iff {itemIds : List Uuid} {cart : List (CatalogLine db)}
    {start last : ℤ × List PosPricedLineCreate}
    (hoverrides : ∀ line ∈ cart, line.OverridesOf branchId)
    (hmem : ∀ line ∈ cart, line.item.id ∈ itemIds) :
    (cart.map CatalogLine.dto).foldlM (addPosLine (catalogItems branchId itemIds db)) start =
        .ok last ↔
      (∀ line ∈ cart, line.Priced branchId) ∧
        last = (start.1 + tally (fun line => line.quantity * line.branchPrice branchId) cart,
          start.2 ++ cart.map (CatalogLine.create branchId)) := by
  induction cart generalizing start with
  | nil =>
      simp [pure, Except.pure, eq_comm]
  | cons line rest ih =>
      have hline := fun stored => @pricePosLine_ok_iff db branchId itemIds line stored
        (hoverrides line (mem_cons_self ..)) (hmem line (mem_cons_self ..))
      have hrest := fun start' => @ih start' (fun other hother => hoverrides other (.tail _ hother))
        (fun other hother => hmem other (.tail _ hother))
      rw [map_cons, foldlM_cons, forall_mem_cons, addPosLine]
      cases hpriced : pricePosLine (catalogItems branchId itemIds db) line.dto with
      | error e =>
          have hunpriced : ¬ line.Priced branchId := by
            intro hok
            have hstored := (hline _).2 ⟨hok, rfl⟩
            rw [hpriced] at hstored
            cases hstored
          simp [bind, Except.bind, hunpriced]
      | ok stored =>
          obtain ⟨hok, rfl⟩ := (hline stored).1 hpriced
          change List.foldlM _ _ _ = _ ↔ _
          rw [hrest]
          simp [hok, CatalogLine.create, add_assoc]

theorem catalogIds_cart (cart : List (CatalogLine db)) :
    (cart.map CatalogLine.dto).filterMap OrderLineItemDto.catalogId =
      cart.map fun line => line.item.id := by
  rw [filterMap_map, ← filterMap_eq_map]
  congr 1
  funext line
  simp [OrderLineItemDto.catalogId, CatalogLine.dto, Option.filter, line.id_nonempty]

theorem length_itemIdsOf_iff (cart : List (CatalogLine db)) :
    (itemIdsOf (cart.map CatalogLine.dto)).length = (cart.map CatalogLine.dto).length ↔
      (cart.map fun line => line.item.id).Nodup := by
  rw [itemIdsOf, catalogIds_cart, ← dedup_eq_self]
  constructor
  · intro hlength
    apply (dedup_sublist _).eq_of_length
    rw [hlength, length_map, length_map]
  · intro hself
    rw [hself, length_map, length_map]

theorem isCatalog_dto (line : CatalogLine db) : line.dto.IsCatalog := by
  refine ⟨?_, by simp [CatalogLine.dto]⟩
  simp [OrderLineItemDto.catalogId, CatalogLine.dto, Option.filter, line.id_nonempty]

theorem commits_pricePosCheckoutLinesTx {actorUserId : Uuid} {cart : List (CatalogLine db)}
    {pricing : PosPricing} {db' : Db} (hne : cart ≠ [])
    (hoverrides : ∀ line ∈ cart, line.OverridesOf (actorBranch actorUserId db)) :
    (pricePosCheckoutLinesTx actorUserId (some (cart.map CatalogLine.dto))).Commits db pricing db' ↔
      (cart.map fun line => line.item.id).Nodup ∧
        (∀ line ∈ cart, line.Priced (actorBranch actorUserId db)) ∧
        pricing = ⟨cart.map (CatalogLine.create (actorBranch actorUserId db)) ++ [deliveryLine],
          Decimal.roundHalfAway (cartTotal (actorBranch actorUserId db) cart / 10000)⟩ ∧
        db' = db := by
  have hids : ∀ line ∈ cart, line.item.id ∈ itemIdsOf (cart.map CatalogLine.dto) := by
    intro line hline
    rw [itemIdsOf, catalogIds_cart, mem_dedup]
    exact mem_map_of_mem hline
  have hloop := fun last => @foldlM_addPosLine_ok_iff db (actorBranch actorUserId db) _ cart
    (0, []) last hoverrides hids
  unfold pricePosCheckoutLinesTx
  simp only [commits_bind, commits_require, commits_reads, commits_ofExcept, commits_pure,
    Option.getD_some, length_itemIdsOf_iff]
  constructor
  · rintro ⟨_, _, ⟨-, rfl⟩, _, _, ⟨rfl, rfl⟩, _, _, ⟨hdistinct, rfl⟩, _, _, ⟨rfl, rfl⟩, last, _,
      ⟨hdone, rfl⟩, hpricing, rfl⟩
    obtain ⟨hpriced, rfl⟩ := (hloop last).1 hdone
    refine ⟨hdistinct, hpriced, ?_, rfl⟩
    rw [← hpricing, cartTotal]
    simp
  · rintro ⟨hdistinct, hpriced, rfl, rfl⟩
    refine ⟨(), _, ⟨?_, rfl⟩, _, _, ⟨rfl, rfl⟩, (), _, ⟨hdistinct, rfl⟩, _, _, ⟨rfl, rfl⟩, _, _,
      ⟨(hloop _).2 ⟨hpriced, rfl⟩, rfl⟩, ?_, rfl⟩
    · simpa using hne
    · simp [cartTotal]

theorem linesTotal_cart (cart : List (CatalogLine db)) (total : ℤ) :
    PosPricing.linesTotal ⟨cart.map (CatalogLine.create branchId) ++ [deliveryLine], total⟩ =
      cartTotal branchId cart := by
  rw [PosPricing.linesTotal, tally_append, tally_map, cartTotal, tally_cons, tally_nil, add_zero]
  rfl

end Cart

def PosCheckoutDto.withCart {db : Db} (dto : PosCheckoutDto) (cart : List (CatalogLine db)) :
    PosCheckoutDto :=
  { dto with lineItems := some (cart.map CatalogLine.dto) }

def ExactlyPriced {db : Db} (actorUserId : Uuid) (dto : PosCheckoutDto)
    (cart : List (CatalogLine db)) : Prop :=
  ∃ pricing db', (resolvePosCheckoutPricingTx actorUserId (dto.withCart cart)).Commits db pricing db' ∧
    10000 * pricing.totalPriceDecimal = cartTotal (actorBranch actorUserId db) cart ∧
    pricing.linesTotal = 10000 * pricing.totalPriceDecimal

theorem resolvePosCheckoutPricingTx_cart {db : Db} (actorUserId : Uuid) (dto : PosCheckoutDto)
    {cart : List (CatalogLine db)} (hne : cart ≠ []) :
    resolvePosCheckoutPricingTx actorUserId (dto.withCart cart) =
      pricePosCheckoutLinesTx actorUserId (some (cart.map CatalogLine.dto)) := by
  have hcatalog : ∀ line ∈ cart.map CatalogLine.dto, line.IsCatalog := by
    intro line hline
    obtain ⟨catalogLine, -, rfl⟩ := mem_map.1 hline
    exact isCatalog_dto catalogLine
  have hinput : cart.map CatalogLine.dto ≠ [] := by simpa using hne
  unfold resolvePosCheckoutPricingTx PosCheckoutDto.withCart
  dsimp only [Option.getD_some]
  rw [if_pos hcatalog, require, if_pos hinput]
  rfl

/-- A cart of different active items, priced for a branch: it is accepted when the server has
a price for every line.  The order's total is then the sum of quantity times branch price and
the delivery, rounded to four decimals, and the stored lines are that sum itself. -/
theorem resolvePosCheckoutPricing_right {db : Db} (actorUserId : Uuid) (dto : PosCheckoutDto)
    (cart : List (CatalogLine db)) (hne : cart ≠ [])
    (hdistinct : (cart.map fun line => line.item.id).Nodup)
    (hoverrides : ∀ line ∈ cart, line.OverridesOf (actorBranch actorUserId db)) :
    ((∃ pricing db',
        (resolvePosCheckoutPricingTx actorUserId (dto.withCart cart)).Commits db pricing db') ↔
      ∀ line ∈ cart, line.Priced (actorBranch actorUserId db)) ∧
    ∀ pricing db',
      (resolvePosCheckoutPricingTx actorUserId (dto.withCart cart)).Commits db pricing db' →
        pricing.totalPriceDecimal =
          Decimal.roundHalfAway (cartTotal (actorBranch actorUserId db) cart / 10000) ∧
        pricing.linesTotal = cartTotal (actorBranch actorUserId db) cart ∧
        pricing.lineCreates =
          cart.map (CatalogLine.create (actorBranch actorUserId db)) ++ [deliveryLine] ∧
        db' = db := by
  rw [resolvePosCheckoutPricingTx_cart actorUserId dto hne]
  constructor
  · constructor
    · rintro ⟨pricing, db', hcommits⟩
      exact ((commits_pricePosCheckoutLinesTx hne hoverrides).1 hcommits).2.1
    · intro hpriced
      exact ⟨_, db, (commits_pricePosCheckoutLinesTx hne hoverrides).2
        ⟨hdistinct, hpriced, rfl, rfl⟩⟩
  · intro pricing db' hcommits
    obtain ⟨-, -, rfl, rfl⟩ := (commits_pricePosCheckoutLinesTx hne hoverrides).1 hcommits
    exact ⟨rfl, linesTotal_cart cart _, rfl, rfl⟩

namespace Sample

def listedItem (id : Uuid) (price : ℤ) (overrides : List LaundryBranchItemPrice) :
    LaundryPriceListItem where
  id := id
  nameAr := "دشداشة"
  manualEntry := false
  isActive := true
  priceNormal := price
  priceUrgent := 2 * price
  pricePressOnly := none
  priceUrgentPress := none
  branchOverrides := overrides

def counter : Db :=
  { Db.initial with
    users := [⟨"driver", .DRIVER, some "branch", by decide⟩]
    laundryPriceListItems := [
      listedItem "thobe" 3000 [⟨"elsewhere", some 9000, none, none, none⟩,
        ⟨"branch", some 2501, none, none, none⟩],
      listedItem "shirt" 1250 [],
      { listedItem "carpet" 0 [] with manualEntry := true }] }

def thobes (posServiceKey : PosServiceKey) (quantity : ℤ) (hpos : 0 < quantity) :
    CatalogLine counter where
  item := listedItem "thobe" 3000 [⟨"elsewhere", some 9000, none, none, none⟩,
    ⟨"branch", some 2501, none, none, none⟩]
  posServiceKey := posServiceKey
  quantity := quantity
  label := none
  starchOption := none
  unitPrice := 0
  stockItemId := none
  item_active := by decide
  id_nonempty := by decide
  quantity_pos := hpos

def urgentShirts : CatalogLine counter where
  item := listedItem "shirt" 1250 []
  posServiceKey := .URGENT
  quantity := 30000
  label := none
  starchOption := none
  unitPrice := 0
  stockItemId := none
  item_active := by decide
  id_nonempty := by decide
  quantity_pos := by decide

def laundryBag : List (CatalogLine counter) := [thobes .NORMAL 20000 (by decide), urgentShirts]

def carpet : CatalogLine counter where
  item := { listedItem "carpet" 0 [] with manualEntry := true }
  posServiceKey := .NORMAL
  quantity := 10000
  label := none
  starchOption := none
  unitPrice := 0
  stockItemId := none
  item_active := by decide
  id_nonempty := by decide
  quantity_pos := by decide

def till : PosCheckoutDto := ⟨7502, none⟩

end Sample

/-- Two thobes at the branch's price and three shirts at the list's. -/
theorem resolvePosCheckoutPricing_sample :
    ∃ pricing db',
      (resolvePosCheckoutPricingTx "driver" (Sample.till.withCart Sample.laundryBag)).Commits
        Sample.counter pricing db' ∧
      pricing.totalPriceDecimal = 15002 ∧ pricing.linesTotal = 150020000 := by
  have hright := resolvePosCheckoutPricing_right "driver" Sample.till Sample.laundryBag
    (by decide) (by decide) (by intro line _; left; decide)
  obtain ⟨pricing, db', hcommits⟩ := hright.1.2 (by
    intro line hline
    rcases mem_pair.1 hline with rfl | rfl <;> decide)
  have hpricing := hright.2 pricing db' hcommits
  refine ⟨pricing, db', hcommits, ?_, ?_⟩
  · rw [hpricing.1]
    decide +kernel
  · rw [hpricing.2.1]
    decide +kernel

theorem exactlyPriced_fails :
    ¬ ExactlyPriced "driver" Sample.till [Sample.carpet] ∧
      ¬ ExactlyPriced "driver" Sample.till [Sample.thobes .NORMAL 5000 (by decide)] := by
  constructor
  · rintro ⟨pricing, db', hcommits, -, -⟩
    rw [resolvePosCheckoutPricingTx_cart "driver" Sample.till (by decide),
      commits_pricePosCheckoutLinesTx (by decide) (by intro line _; left; decide)] at hcommits
    exact absurd (hcommits.2.1 Sample.carpet (by simp)) (by decide)
  · rintro ⟨pricing, db', -, htotal, -⟩
    have hodd : cartTotal (actorBranch "driver" Sample.counter)
        [Sample.thobes .NORMAL 5000 (by decide)] = 37505000 := by decide
    omega

end SafariLaundry
