import SafariLaundry.NumberText

/-!
# The cart of the cashier

A session at the till is a list of sub-orders, each of which becomes an invoice.  The screen shows
one total for the session; the checkout sends the invoices, each with its service rows.  Whether
the delivery is waived is decided twice, once for the session and once for its first invoice.
-/

namespace SafariLaundry.PosSession

open Library Library.Bookkeeping

/-! ## The engine -/

def deliveryFeeKd : ℚ := 1 / 4

def vipSurchargeKd : ℚ := 1

def deliveryLineLabelAr : String := "توصيل داخل المنطقة"

def vipLineLabelAr : String := "خدمة كبار الشخصيات"

inductive NeshaLevel where
  | full
  | half
  | quarter
  | none

structure FinanceCartLine where
  label : String
  (quantity unitPrice : ℚ)
  neshaLevel : NeshaLevel
  (foldingStyle itemNote : String)

structure FinanceSubOrder where
  lines : List FinanceCartLine
  vipEnabled : Bool

structure FinanceBillingSnapshot where
  remainingBalance : String

structure ReceiptLine extends FinanceCartLine where
  lineTotal : ℚ

structure LineItem where
  label : String
  (quantity unitPrice : ℚ)

structure FinancePart where
  (lineSum vipSurcharge deliveryForOrder netTotal : ℚ)
  needsExt : Bool
  receiptLines : List ReceiptLine
  lineItemsPayload : List LineItem

def sumLinesKd (lines : List FinanceCartLine) : ℚ :=
  tally (fun line => line.quantity * line.unitPrice) lines

def balanceOf (billing : Option FinanceBillingSnapshot) : Option ℚ :=
  billing.bind fun snapshot => parseFloatOf snapshot.remainingBalance

def tolerance : ℚ := 1 / 10 ^ 9

def Covers (billing : Option FinanceBillingSnapshot) (amount : ℚ) : Prop :=
  ∃ balance ∈ balanceOf billing, amount ≤ balance + tolerance

instance (billing : Option FinanceBillingSnapshot) (amount : ℚ) :
    Decidable (Covers billing amount) :=
  decidable_of_iff ((balanceOf billing).any fun balance => decide (amount ≤ balance + tolerance))
    (by simp [Covers, Option.any_eq_true])

structure SessionTotals where
  combinedLineSubtotal : ℚ
  firstFilledSubOrderIndex : ℤ
  (walletCoversNet isSubscriptionOrder : Bool)
  (sessionDeliveryCharge combinedVipSurcharge grandTotal : ℚ)

def computeSessionTotals (subOrders : List FinanceSubOrder)
    (billing : Option FinanceBillingSnapshot) : SessionTotals :=
  let combinedLineSubtotal := tally (fun order => sumLinesKd order.lines) subOrders
  let firstFilledSubOrderIndex : ℤ :=
    ((subOrders.findIdx? fun order => decide (0 < sumLinesKd order.lines)).map Int.ofNat).getD (-1)
  let walletCoversNet := decide (Covers billing combinedLineSubtotal)
  let isSubscriptionOrder := decide (0 < combinedLineSubtotal) && walletCoversNet
  let sessionDeliveryCharge :=
    if combinedLineSubtotal ≤ 0 ∨ firstFilledSubOrderIndex < 0 ∨ isSubscriptionOrder then 0
    else deliveryFeeKd
  let combinedVipSurcharge :=
    tally (fun order =>
      if !order.vipEnabled then 0
      else if sumLinesKd order.lines ≤ 0 then 0
      else vipSurchargeKd) subOrders
  { combinedLineSubtotal := combinedLineSubtotal
    firstFilledSubOrderIndex := firstFilledSubOrderIndex
    walletCoversNet := walletCoversNet
    isSubscriptionOrder := isSubscriptionOrder
    sessionDeliveryCharge := sessionDeliveryCharge
    combinedVipSurcharge := combinedVipSurcharge
    grandTotal := max 0 (combinedLineSubtotal + sessionDeliveryCharge + combinedVipSurcharge) }

def partOf (isFirst : Bool) (billing : Option FinanceBillingSnapshot) (o : FinanceSubOrder) :
    FinancePart :=
  let lineSum := sumLinesKd o.lines
  let walletCoversLinesOnly := decide (Covers billing lineSum)
  let baseDel := if isFirst then deliveryFeeKd else 0
  let deliveryForOrder := if walletCoversLinesOnly ∧ 0 < lineSum then 0 else baseDel
  let vipSurcharge := if o.vipEnabled ∧ 0 < lineSum then vipSurchargeKd else 0
  let netTotal := lineSum + deliveryForOrder + vipSurcharge
  let needsExt := decide (0 < netTotal ∧ ¬ Covers billing netTotal)
  let garmentLines := o.lines.map fun c =>
    { label := c.label, quantity := c.quantity, unitPrice := c.unitPrice : LineItem }
  let serviceRows :=
    (if 0 < vipSurcharge then
      [{ label := vipLineLabelAr, quantity := 1, unitPrice := vipSurchargeKd : LineItem }]
    else []) ++
      [{ label := deliveryLineLabelAr, quantity := 1, unitPrice := deliveryForOrder : LineItem }]
  { lineSum := lineSum
    vipSurcharge := vipSurcharge
    deliveryForOrder := deliveryForOrder
    netTotal := netTotal
    needsExt := needsExt
    receiptLines := o.lines.map fun c => { c with lineTotal := c.quantity * c.unitPrice }
    lineItemsPayload := garmentLines ++ serviceRows }

/-- What is left in the wallet for the next invoice. -/
def drawDown (billing : Option FinanceBillingSnapshot) (part : FinancePart) :
    Option FinanceBillingSnapshot :=
  if part.needsExt ∨ part.netTotal ≤ 0 then billing
  else
    billing.map fun snapshot =>
      { snapshot with
        remainingBalance := match parseFloatOf snapshot.remainingBalance with
          | some prev => toFixed 4 (prev - part.netTotal)
          | none => "NaN" }

def partsFrom : Bool → Option FinanceBillingSnapshot → List FinanceSubOrder → List FinancePart
  | _, _, [] => []
  | isFirst, billing, o :: rest =>
      let part := partOf isFirst billing o
      part :: partsFrom false (drawDown billing part) rest

structure OrderPayload where
  totalPrice : ℚ
  lineItems : List LineItem

structure MultiInvoice where
  parts : List FinancePart
  ordersPayload : List OrderPayload
  allNeedExternal : Bool

def computeMultiInvoiceParts (nonEmptyOrdered : List FinanceSubOrder)
    (billing : Option FinanceBillingSnapshot) : MultiInvoice :=
  let parts := partsFrom true billing nonEmptyOrdered
  { parts := parts
    ordersPayload := parts.map fun part =>
      { totalPrice := part.netTotal, lineItems := part.lineItemsPayload }
    allNeedExternal := decide (0 < parts.length) && parts.all FinancePart.needsExt }

def nonEmptyOrdered (subOrders : List FinanceSubOrder) : List FinanceSubOrder :=
  subOrders.filter fun o => decide (0 < o.lines.length)

def Priced (subOrders : List FinanceSubOrder) : Prop :=
  ∀ o ∈ subOrders, ∀ line ∈ o.lines, 0 < line.quantity ∧ 0 < line.unitPrice
  deriving Decidable

variable {subOrders : List FinanceSubOrder}

theorem Priced.sumLinesKd_nonneg (hpriced : Priced subOrders) {o : FinanceSubOrder}
    (hmem : o ∈ subOrders) : 0 ≤ sumLinesKd o.lines := by
  apply tally_nonneg_of_mem
  intro line hline
  have hline := hpriced o hmem line hline
  exact (mul_pos hline.1 hline.2).le

theorem Priced.sumLinesKd_pos_iff (hpriced : Priced subOrders) {o : FinanceSubOrder}
    (hmem : o ∈ subOrders) : 0 < sumLinesKd o.lines ↔ 0 < o.lines.length := by
  have hlines := hpriced o hmem
  cases hcase : o.lines with
  | nil => simp [sumLinesKd]
  | cons line rest =>
      rw [hcase, List.forall_mem_cons] at hlines
      have hrest : 0 ≤ sumLinesKd rest := by
        apply tally_nonneg_of_mem
        intro other hother
        have hother := hlines.2 other hother
        exact (mul_pos hother.1 hother.2).le
      have hline := mul_pos hlines.1.1 hlines.1.2
      simp only [sumLinesKd, tally_cons, List.length_cons, Nat.zero_lt_succ, iff_true] at *
      linarith

theorem deliveryForOrder_attached (billing : Option FinanceBillingSnapshot) (o : FinanceSubOrder) :
    (partOf false billing o).deliveryForOrder = 0 := by
  simp [partOf]

/-- What the invoice asks is the sum over its rows. -/
def Itemized (part : FinancePart) : Prop :=
  part.netTotal = tally (fun item => item.quantity * item.unitPrice) part.lineItemsPayload

theorem itemized_partOf (isFirst : Bool) (billing : Option FinanceBillingSnapshot)
    (o : FinanceSubOrder) : Itemized (partOf isFirst billing o) := by
  have hgarments : tally (fun item => item.quantity * item.unitPrice)
      (o.lines.map fun c =>
        { label := c.label, quantity := c.quantity, unitPrice := c.unitPrice : LineItem }) =
        sumLinesKd o.lines :=
    tally_map ..
  simp only [Itemized, partOf, tally_append, hgarments]
  generalize (if decide (Covers billing (sumLinesKd o.lines)) = true ∧ 0 < sumLinesKd o.lines then 0
    else if isFirst = true then deliveryFeeKd else 0) = delivery
  by_cases hvip : o.vipEnabled ∧ 0 < sumLinesKd o.lines
  · simp only [if_pos hvip, vipSurchargeKd, zero_lt_one, if_true, tally_cons, tally_nil]
    ring
  · simp only [if_neg hvip, lt_irrefl, if_false, tally_cons, tally_nil]
    ring

def CarriesDelivery (part : FinancePart) : Prop :=
  ∃ row ∈ part.lineItemsPayload.getLast?, row.label = deliveryLineLabelAr ∧ row.unitPrice ≠ 0

instance : DecidablePred CarriesDelivery := fun part =>
  decidable_of_iff (part.lineItemsPayload.getLast?.any fun row =>
    decide (row.label = deliveryLineLabelAr ∧ row.unitPrice ≠ 0)) (by
      simp [CarriesDelivery, Option.any_eq_true])

theorem carriesDelivery_partOf (isFirst : Bool) (billing : Option FinanceBillingSnapshot)
    (o : FinanceSubOrder) :
    CarriesDelivery (partOf isFirst billing o) ↔
      (partOf isFirst billing o).deliveryForOrder ≠ 0 := by
  simp [CarriesDelivery, partOf]

/-! ## The session against its invoices -/

/-- What an invoice adds to the screen's total besides its delivery. -/
def garmentsAndVip (o : FinanceSubOrder) : ℚ :=
  sumLinesKd o.lines + if o.vipEnabled ∧ 0 < sumLinesKd o.lines then vipSurchargeKd else 0

theorem netTotal_partOf (isFirst : Bool) (billing : Option FinanceBillingSnapshot)
    (o : FinanceSubOrder) :
    (partOf isFirst billing o).netTotal =
      garmentsAndVip o + (partOf isFirst billing o).deliveryForOrder := by
  simp only [partOf, garmentsAndVip]
  ring

theorem netTotal_attached (billing : Option FinanceBillingSnapshot)
    (orders : List FinanceSubOrder) :
    tally FinancePart.netTotal (partsFrom false billing orders) = tally garmentsAndVip orders := by
  induction orders generalizing billing with
  | nil => rfl
  | cons o rest ih =>
      rw [partsFrom, tally_cons, tally_cons, ih, netTotal_partOf, deliveryForOrder_attached,
        add_zero]

def firstDelivery (billing : Option FinanceBillingSnapshot) : List FinanceSubOrder → ℚ
  | [] => 0
  | o :: _ => (partOf true billing o).deliveryForOrder

theorem netTotal_parts (billing : Option FinanceBillingSnapshot) (orders : List FinanceSubOrder) :
    tally FinancePart.netTotal (computeMultiInvoiceParts orders billing).parts =
      tally garmentsAndVip orders + firstDelivery billing orders := by
  cases orders with
  | nil => simp [computeMultiInvoiceParts, partsFrom, firstDelivery]
  | cons o rest =>
      rw [computeMultiInvoiceParts, partsFrom, tally_cons, tally_cons, netTotal_attached,
        netTotal_partOf, firstDelivery]
      ring

theorem tally_nonEmptyOrdered {weight : FinanceSubOrder → ℚ}
    (hempty : ∀ o, o.lines = [] → weight o = 0) (subOrders : List FinanceSubOrder) :
    tally weight (nonEmptyOrdered subOrders) = tally weight subOrders := by
  rw [nonEmptyOrdered, tally_filter]
  apply tally_congr
  intro o _
  split_ifs with hlines
  · rfl
  · exact (hempty o (by simpa using hlines)).symm

/-- The total of the garments, which the session compares with the wallet. -/
def combined (subOrders : List FinanceSubOrder) : ℚ :=
  tally (fun o => sumLinesKd o.lines) subOrders

theorem grandTotal_eq (subOrders : List FinanceSubOrder) (billing : Option FinanceBillingSnapshot) :
    (computeSessionTotals subOrders billing).grandTotal = max 0 (tally garmentsAndVip subOrders +
        (computeSessionTotals subOrders billing).sessionDeliveryCharge) := by
  have hvip : tally garmentsAndVip subOrders =
      combined subOrders + (computeSessionTotals subOrders billing).combinedVipSurcharge := by
    unfold combined computeSessionTotals tally
    rw [← List.sum_map_add]
    congr 2
    funext o
    rw [garmentsAndVip]
    cases o.vipEnabled with
    | false => simp
    | true => simp [← not_lt]
  rw [hvip]
  simp only [computeSessionTotals, combined]
  congr 1
  ring

theorem Covers.mono {billing : Option FinanceBillingSnapshot} {less more : ℚ}
    (hcovers : Covers billing more) (hle : less ≤ more) : Covers billing less := by
  obtain ⟨balance, hbalance, hcovered⟩ := hcovers
  exact ⟨balance, hbalance, hle.trans hcovered⟩

theorem Priced.first (hpriced : Priced subOrders) {first : FinanceSubOrder}
    {rest : List FinanceSubOrder} (hfirst : nonEmptyOrdered subOrders = first :: rest) :
    first ∈ subOrders ∧ 0 < sumLinesKd first.lines ∧
      sumLinesKd first.lines ≤ combined subOrders := by
  have hmem : first ∈ nonEmptyOrdered subOrders := hfirst ▸ List.mem_cons_self ..
  obtain ⟨hmem, hlines⟩ := List.mem_filter.1 hmem
  have hrest : 0 ≤ tally (fun o : FinanceSubOrder => sumLinesKd o.lines) rest := by
    apply tally_nonneg_of_mem
    intro o ho
    have ho : o ∈ nonEmptyOrdered subOrders := hfirst ▸ List.mem_cons_of_mem first ho
    exact hpriced.sumLinesKd_nonneg (List.mem_filter.1 ho).1
  refine ⟨hmem, (hpriced.sumLinesKd_pos_iff hmem).2 (of_decide_eq_true hlines), ?_⟩
  rw [combined, ← tally_nonEmptyOrdered (by intro o hnil; simp [sumLinesKd, hnil]), hfirst,
    tally_cons]
  linarith

theorem sessionDeliveryCharge_eq (hpriced : Priced subOrders)
    (billing : Option FinanceBillingSnapshot) :
    (computeSessionTotals subOrders billing).sessionDeliveryCharge =
      if nonEmptyOrdered subOrders = [] ∨ Covers billing (combined subOrders) then 0
      else deliveryFeeKd := by
  cases hfirst : nonEmptyOrdered subOrders with
  | nil =>
      have hnothing : tally (fun o => sumLinesKd o.lines) subOrders = 0 := by
        rw [← tally_nonEmptyOrdered (by intro o hnil; simp [sumLinesKd, hnil]), hfirst, tally_nil]
      simp [computeSessionTotals, hnothing]
  | cons first rest =>
      obtain ⟨hmem, hpos, hle⟩ := hpriced.first hfirst
      have hindex :
          (subOrders.findIdx? fun order => decide (0 < sumLinesKd order.lines)) ≠ none := by
        rw [ne_eq, List.findIdx?_eq_none_iff]
        intro hnone
        simpa [hpos] using hnone first hmem
      obtain ⟨index, hindex⟩ := Option.ne_none_iff_exists'.1 hindex
      have htotal : 0 < combined subOrders := hpos.trans_le hle
      have hfound : ¬ (index : ℤ) < 0 := by omega
      simp only [computeSessionTotals, hindex, Option.map_some, Option.getD_some,
        Int.ofNat_eq_natCast, hfound, false_or, reduceCtorEq]
      rw [← combined]
      simp [htotal, not_le.2 htotal]

theorem firstDelivery_eq (hpriced : Priced subOrders) (billing : Option FinanceBillingSnapshot) :
    firstDelivery billing (nonEmptyOrdered subOrders) =
      if ∀ first ∈ (nonEmptyOrdered subOrders).head?, Covers billing (sumLinesKd first.lines) then 0
      else deliveryFeeKd := by
  cases hfirst : nonEmptyOrdered subOrders with
  | nil => simp [firstDelivery]
  | cons first rest => simp [firstDelivery, partOf, (hpriced.first hfirst).2.1]

theorem length_carriesDelivery (billing : Option FinanceBillingSnapshot)
    (orders : List FinanceSubOrder) :
    ((computeMultiInvoiceParts orders billing).parts.filter fun part =>
      CarriesDelivery part).length ≤ 1 := by
  have hattached :
      ∀ billing rest, ∀ part ∈ partsFrom false billing rest, ¬ CarriesDelivery part := by
    intro billing rest
    induction rest generalizing billing with
    | nil => simp [partsFrom]
    | cons o rest ih =>
        rw [partsFrom, List.forall_mem_cons]
        refine ⟨?_, ih _⟩
        simp [carriesDelivery_partOf, deliveryForOrder_attached]
  cases orders with
  | nil => simp [computeMultiInvoiceParts, partsFrom]
  | cons o rest =>
      have hrest : (partsFrom false (drawDown billing (partOf true billing o)) rest).filter
          (fun part => decide (CarriesDelivery part)) = [] := by
        rw [List.filter_eq_nil_iff]
        intro part hpart
        simpa using hattached _ rest part hpart
      rw [computeMultiInvoiceParts, partsFrom, List.filter_cons, hrest]
      split_ifs <;> simp

theorem itemized_parts (isFirst : Bool) (billing : Option FinanceBillingSnapshot)
    (orders : List FinanceSubOrder) :
    ∀ part ∈ partsFrom isFirst billing orders, Itemized part := by
  induction orders generalizing isFirst billing with
  | nil => simp [partsFrom]
  | cons o rest ih =>
      rw [partsFrom, List.forall_mem_cons]
      exact ⟨itemized_partOf isFirst billing o, ih _ _⟩

/-- The screen shows what the invoices ask together, each asks the sum of its rows, and one at
most charges the delivery. -/
def ShowsWhatItCharges (subOrders : List FinanceSubOrder)
    (billing : Option FinanceBillingSnapshot) : Prop :=
  let invoices := computeMultiInvoiceParts (nonEmptyOrdered subOrders) billing
  (computeSessionTotals subOrders billing).grandTotal = tally FinancePart.netTotal invoices.parts ∧
    (∀ part ∈ invoices.parts, Itemized part) ∧
    (invoices.parts.filter fun part => CarriesDelivery part).length ≤ 1

instance (subOrders : List FinanceSubOrder) (billing : Option FinanceBillingSnapshot) :
    Decidable (ShowsWhatItCharges subOrders billing) :=
  have : DecidablePred Itemized := fun _ => inferInstanceAs (Decidable (_ = _))
  inferInstanceAs (Decidable (_ ∧ _ ∧ _))

/-- The wallet covers the lines of the first invoice and not those of the session. -/
def CoversFirstOnly (subOrders : List FinanceSubOrder)
    (billing : Option FinanceBillingSnapshot) : Prop :=
  (∃ first ∈ (nonEmptyOrdered subOrders).head?, Covers billing (sumLinesKd first.lines)) ∧
    ¬ Covers billing (combined subOrders)

theorem showsWhatItCharges_iff {subOrders : List FinanceSubOrder} (hpriced : Priced subOrders)
    (billing : Option FinanceBillingSnapshot) :
    ShowsWhatItCharges subOrders billing ↔ ¬ CoversFirstOnly subOrders billing := by
  have hothers : (∀ part ∈ (computeMultiInvoiceParts (nonEmptyOrdered subOrders) billing).parts,
      Itemized part) ∧
      ((computeMultiInvoiceParts (nonEmptyOrdered subOrders) billing).parts.filter fun part =>
        CarriesDelivery part).length ≤ 1 :=
    ⟨itemized_parts true billing _, length_carriesDelivery billing _⟩
  have hnonneg : 0 ≤ tally garmentsAndVip subOrders := by
    apply tally_nonneg_of_mem
    intro o ho
    have hlines := hpriced.sumLinesKd_nonneg ho
    unfold garmentsAndVip
    split_ifs <;> simp [vipSurchargeKd] <;> linarith
  have hfee : 0 < deliveryFeeKd := by norm_num [deliveryFeeKd]
  have hcharge : 0 ≤ (computeSessionTotals subOrders billing).sessionDeliveryCharge := by
    rw [sessionDeliveryCharge_eq hpriced]
    split_ifs
    · rfl
    · exact hfee.le
  rw [ShowsWhatItCharges, and_iff_left hothers, grandTotal_eq, max_eq_right (by linarith),
    netTotal_parts,
    tally_nonEmptyOrdered (by intro o hnil; simp [garmentsAndVip, sumLinesKd, hnil]), add_right_inj,
    sessionDeliveryCharge_eq hpriced, firstDelivery_eq hpriced, CoversFirstOnly]
  cases hfirst : nonEmptyOrdered subOrders with
  | nil => simp
  | cons first rest =>
      by_cases hall : Covers billing (combined subOrders)
      · simp [hall, hall.mono (hpriced.first hfirst).2.2]
      · by_cases hsome : Covers billing (sumLinesKd first.lines)
        · simp [hall, hsome, hfee.ne']
        · simp [hall, hsome]

def washed (price : ℚ) : FinanceSubOrder where
  lines :=
    [{ label := "Dishdasha", quantity := 1, unitPrice := price, neshaLevel := .none
       foldingStyle := "", itemNote := "" }]
  vipEnabled := false

theorem showsWhatItCharges_fails :
    Priced [washed 3, washed 4] ∧ ¬ ShowsWhatItCharges [washed 3, washed 4] (some ⟨"5.0000"⟩) := by
  decide +kernel

theorem showsWhatItCharges_covered : ShowsWhatItCharges [washed 3, washed 4] (some ⟨"7.0000"⟩) := by
  refine (showsWhatItCharges_iff (by decide +kernel) _).2 fun hfirst => hfirst.2 ?_
  decide +kernel

end SafariLaundry.PosSession
