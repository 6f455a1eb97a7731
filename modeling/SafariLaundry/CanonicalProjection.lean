import SafariLaundry.Domain
import SafariLaundry.Library.Decimal

/-!
# Canonical statement rows

Every row of a statement gets what its customer owed after it, and the invoices of a statement
are summed up by their groups.  Amounts are decimal numbers of any length; texts have four
decimals.
-/

namespace SafariLaundry

open Library Library.Bookkeeping List

def toMinor (amount : ℚ) : ℤ := Decimal.roundHalfAway (amount * 10000)

/-- `toFixed(4)`: the sign is that of the number before it is rounded. -/
def toFixed4 (amount : ℚ) : String :=
  (if amount < 0 then "-" else "") ++ minorToAmountString (toMinor amount).natAbs

def ofMinor (minor : ℤ) : ℚ := minor / 10000

theorem toMinor_ofMinor (minor : ℤ) : toMinor (ofMinor minor) = minor := by
  have hscale : ofMinor minor * 10000 = minor := by
    unfold ofMinor
    ring
  rw [toMinor, hscale, Decimal.roundHalfAway_intCast]

theorem ofMinor_add (first second : ℤ) : ofMinor (first + second) = ofMinor first + ofMinor second := by
  unfold ofMinor
  push_cast
  ring

theorem toFixed4_ofMinor (minor : ℤ) : toFixed4 (ofMinor minor) = minorToAmountString minor := by
  have hneg : ofMinor minor < 0 ↔ minor < 0 := by
    unfold ofMinor
    rw [div_neg_iff]
    norm_num
  have habs : ¬ (minor.natAbs : ℤ) < 0 := by omega
  unfold toFixed4 minorToAmountString
  rw [toMinor_ofMinor, Int.natAbs_natCast, if_neg habs]
  by_cases hsign : minor < 0
  · simp [hneg.2 hsign, hsign, String.append_assoc]
  · simp [mt hneg.1 hsign, hsign, String.append_assoc]

/-- A row of a statement: `rest` are the fields that the running balance does not depend on.
Keys are ordered as `localeCompare` orders them. -/
structure StatementRow (Key Rest : Type) where
  (customerId orderId : Key)
  issuedAt : ℤ
  debtSource : Option String
  remainingKd : ℚ
  rest : Rest

structure RunningRow (Key Rest : Type) where
  row : StatementRow Key Rest
  customerRunningRemainingKd : String

def debtSourceSortRank (source : Option String) : ℕ :=
  if source = some "INVOICE_SHORTFALL" then 0
  else if source = some "SUBSCRIPTION_OVERUSE" then 1
  else 2

section Running

variable {Key Rest : Type} [LinearOrder Key]

def StatementRow.Earlier (first second : StatementRow Key Rest) : Prop :=
  if first.issuedAt ≠ second.issuedAt then first.issuedAt < second.issuedAt
  else if first.orderId ≠ second.orderId then first.orderId < second.orderId
  else debtSourceSortRank first.debtSource ≤ debtSourceSortRank second.debtSource
  deriving Decidable

/-- Each row of a list with the sum up to it: the loop over `chronological`. -/
def accumulate {Entry : Type} (amount : Entry → ℚ) : ℚ → List Entry → List (Entry × ℚ)
  | _, [] => []
  | balance, entry :: rest =>
      (entry, balance + amount entry) :: accumulate amount (balance + amount entry) rest

theorem StatementRow.earlier_iff (first second : StatementRow Key Rest) : first.Earlier second ↔
    toLex (first.issuedAt, toLex (first.orderId, debtSourceSortRank first.debtSource)) ≤
      toLex (second.issuedAt, toLex (second.orderId, debtSourceSortRank second.debtSource)) := by
  unfold StatementRow.Earlier
  rw [Prod.Lex.toLex_le_toLex, Prod.Lex.toLex_le_toLex]
  grind

instance : Std.Total (@StatementRow.Earlier Key Rest _) := ⟨fun first second => by
  rw [StatementRow.earlier_iff, StatementRow.earlier_iff]
  exact le_total _ _⟩

instance : IsTrans (StatementRow Key Rest) StatementRow.Earlier := ⟨fun first second third => by
  rw [StatementRow.earlier_iff, StatementRow.earlier_iff, StatementRow.earlier_iff]
  exact le_trans⟩

theorem accumulate_entries {Entry : Type} (amount : Entry → ℚ) (balance : ℚ) (entries : List Entry) :
    (accumulate amount balance entries).map Prod.fst = entries := by
  induction entries generalizing balance with
  | nil => rfl
  | cons entry rest ih => simp [accumulate, ih]

theorem accumulate_append_cons {Entry : Type} (amount : Entry → ℚ) (balance : ℚ)
    (before after : List Entry) (entry : Entry) :
    (entry, balance + tally amount before + amount entry) ∈
      accumulate amount balance (before ++ entry :: after) := by
  induction before generalizing balance with
  | nil => simp [accumulate]
  | cons first rest ih =>
      rw [cons_append, accumulate, tally_cons, ← add_assoc]
      exact .tail _ (ih (balance + amount first))

def bucket (rows : List (StatementRow Key Rest)) (customerId : Key) :
    List (StatementRow Key Rest × ℕ) :=
  rows.zipIdx.filter fun entry => entry.1.customerId = customerId

def chronological (rows : List (StatementRow Key Rest)) (customerId : Key) :
    List (StatementRow Key Rest × ℕ) :=
  (bucket rows customerId).insertionSort fun first second => first.1.Earlier second.1

theorem chronological_perm (rows : List (StatementRow Key Rest)) (customerId : Key) :
    (chronological rows customerId).Perm (bucket rows customerId) :=
  perm_insertionSort _ _

def balances (rows : List (StatementRow Key Rest)) (customerId : Key) :
    Table fun balance : (StatementRow Key Rest × ℕ) × ℚ => balance.1.2 where
  rows := accumulate (fun entry => entry.1.remainingKd) 0 (chronological rows customerId)
  keysDistinct := by
    have hplaces : ((bucket rows customerId).map Prod.snd).Nodup :=
      (filter_sublist.map Prod.snd).nodup (nodup_zipIdx_map_snd rows)
    have hentries := accumulate_entries (fun entry : StatementRow Key Rest × ℕ =>
      entry.1.remainingKd) 0 (chronological rows customerId)
    have hsorted := ((chronological_perm rows customerId).map Prod.snd).nodup_iff.2 hplaces
    rw [← hentries, map_map] at hsorted
    exact hsorted

def runningText (rows : List (StatementRow Key Rest)) (entry : StatementRow Key Rest × ℕ) : String :=
  (((balances rows entry.1.customerId).find? entry.2).map fun balance => toFixed4 balance.2).getD
    "0.0000"

def attachCanonicalRunningRemaining (rows : List (StatementRow Key Rest)) :
    List (RunningRow Key Rest) :=
  rows.zipIdx.map fun entry => ⟨entry.1, runningText rows entry⟩

/-! ### What the loop leaves -/

theorem chronological_sorted (rows : List (StatementRow Key Rest)) (customerId : Key) :
    (chronological rows customerId).Pairwise fun first second => first.1.Earlier second.1 := by
  have : Std.Total fun first second : StatementRow Key Rest × ℕ => first.1.Earlier second.1 :=
    ⟨fun first second => total_of StatementRow.Earlier first.1 second.1⟩
  have : IsTrans (StatementRow Key Rest × ℕ) fun first second => first.1.Earlier second.1 :=
    ⟨fun first second third => trans_of StatementRow.Earlier⟩
  exact pairwise_insertionSort _ _

variable {rows rows' : List (StatementRow Key Rest)}
  {before after : List (StatementRow Key Rest × ℕ)} {entry : StatementRow Key Rest × ℕ}

theorem runningText_eq
    (hsorted : chronological rows entry.1.customerId = before ++ entry :: after) :
    runningText rows entry =
      toFixed4 (tally (fun entry => entry.1.remainingKd) (before ++ [entry])) := by
  have hmem := accumulate_append_cons (fun entry : StatementRow Key Rest × ℕ =>
    entry.1.remainingKd) 0 before after entry
  rw [← hsorted] at hmem
  have hfind := Table.find?_of_mem (show _ ∈ (balances rows entry.1.customerId).rows from hmem)
  unfold runningText
  rw [hfind, Option.map_some, Option.getD_some, tally_append, tally_cons, tally_nil, add_zero,
    zero_add]

def owedOf (rows : List (StatementRow Key Rest)) (customerId : Key)
    (p : StatementRow Key Rest → Prop) [DecidablePred p] : ℚ :=
  tally StatementRow.remainingKd (rows.filter fun row => row.customerId = customerId ∧ p row)

theorem tally_chronological (rows : List (StatementRow Key Rest)) (customerId : Key)
    (p : StatementRow Key Rest → Prop) [DecidablePred p] :
    tally (fun entry => entry.1.remainingKd)
        ((chronological rows customerId).filter fun entry => p entry.1) =
      owedOf rows customerId p := by
  have hrows : ((bucket rows customerId).filter fun entry => p entry.1).map Prod.fst =
      rows.filter fun row => row.customerId = customerId ∧ p row := by
    conv_rhs => rw [← zipIdx_map_fst 0 rows]
    rw [bucket, filter_filter, filter_map]
    congr 1
    apply filter_congr
    intro entry _
    simp [and_comm]
  rw [tally_perm _ ((chronological_perm rows customerId).filter _), owedOf, ← hrows, tally_map]
def StatementRow.Ties (first second : StatementRow Key Rest) : Prop :=
  first.customerId = second.customerId ∧ first.Earlier second ∧ second.Earlier first
  deriving Decidable

def Untied (rows : List (StatementRow Key Rest)) (row : StatementRow Key Rest) : Prop :=
  rows.countP (fun other => row.Ties other) ≤ 1

instance (rows : List (StatementRow Key Rest)) : DecidablePred (Untied rows) := fun _ =>
  Nat.decLe _ _

theorem StatementRow.earlier_refl (row : StatementRow Key Rest) : row.Earlier row :=
  (total_of StatementRow.Earlier row row).elim id id

theorem countP_chronological (rows : List (StatementRow Key Rest)) (row : StatementRow Key Rest) :
    (chronological rows row.customerId).countP (fun entry => row.Ties entry.1) =
      rows.countP fun other => row.Ties other := by
  rw [(chronological_perm rows row.customerId).countP_eq, bucket, countP_filter]
  conv_rhs => rw [← zipIdx_map_fst 0 rows, countP_map]
  apply countP_congr
  intro entry _
  simp only [Function.comp, Bool.and_eq_true, decide_eq_true_eq, and_iff_left_iff_imp]
  exact fun hties => hties.1.symm

theorem filter_earlier (hsorted : chronological rows entry.1.customerId = before ++ entry :: after)
    (huntied : Untied rows entry.1) :
    (chronological rows entry.1.customerId).filter (fun other => other.1.Earlier entry.1) =
      before ++ [entry] := by
  have hpairs := chronological_sorted rows entry.1.customerId
  rw [hsorted, pairwise_append, pairwise_cons] at hpairs
  obtain ⟨_, ⟨hafter, _⟩, hcross⟩ := hpairs
  have hcustomer : ∀ other ∈ after, other.1.customerId = entry.1.customerId := by
    intro other hother
    have hmem : other ∈ bucket rows entry.1.customerId := by
      rw [← (chronological_perm rows entry.1.customerId).mem_iff, hsorted]
      exact mem_append_right _ (.tail _ hother)
    simpa using (mem_filter.1 hmem).2
  have hlater : ∀ other ∈ after, ¬ other.1.Earlier entry.1 := by
    intro other hother hearlier
    have hties : entry.1.Ties other.1 := ⟨(hcustomer other hother).symm, hafter other hother, hearlier⟩
    have hself : entry.1.Ties entry.1 :=
      ⟨rfl, entry.1.earlier_refl, entry.1.earlier_refl⟩
    have hpositive : 0 < after.countP fun other => entry.1.Ties other.1 :=
      countP_pos_iff.2 ⟨other, hother, by simpa using hties⟩
    have hcount := countP_chronological rows entry.1
    rw [hsorted, countP_append, countP_cons, if_pos (by simpa using hself)] at hcount
    unfold Untied at huntied
    omega
  rw [hsorted, filter_append, filter_cons, if_pos (by simpa using entry.1.earlier_refl),
    filter_eq_self.2 fun other hother => by
      simpa using hcross other hother entry (mem_cons_self ..),
    filter_eq_nil_iff.2 fun other hother => by simpa using hlater other hother]

theorem exists_sorted (hentry : entry ∈ rows.zipIdx) :
    ∃ before after, chronological rows entry.1.customerId = before ++ entry :: after := by
  apply append_of_mem
  rw [(chronological_perm rows entry.1.customerId).mem_iff]
  exact mem_filter.2 ⟨hentry, by simp⟩

def owedAfter (rows : List (StatementRow Key Rest)) (row : StatementRow Key Rest) : ℚ :=
  owedOf rows row.customerId fun other => other.Earlier row

theorem runningText_untied (hentry : entry ∈ rows.zipIdx) (huntied : Untied rows entry.1) :
    runningText rows entry = toFixed4 (owedAfter rows entry.1) := by
  obtain ⟨before, after, hsorted⟩ := exists_sorted hentry
  rw [runningText_eq hsorted, ← filter_earlier hsorted huntied,
    tally_chronological rows entry.1.customerId fun other => other.Earlier entry.1]
  rfl

theorem owedAfter_perm (hperm : rows'.Perm rows) (row : StatementRow Key Rest) :
    owedAfter rows' row = owedAfter rows row :=
  tally_perm _ (hperm.filter _)

theorem untied_perm (hperm : rows'.Perm rows) (row : StatementRow Key Rest) :
    Untied rows' row ↔ Untied rows row := by
  unfold Untied
  rw [hperm.countP_eq]

theorem filter_untied (rows : List (StatementRow Key Rest)) :
    (attachCanonicalRunningRemaining rows).filter (fun out => Untied rows out.row) =
      (rows.filter fun row => Untied rows row).map fun row => ⟨row, toFixed4 (owedAfter rows row)⟩ := by
  conv_rhs => rw [← zipIdx_map_fst 0 rows]
  rw [attachCanonicalRunningRemaining, filter_map, filter_map, map_map,
    zipIdx_map_fst]
  apply map_congr_left
  intro entry hentry
  obtain ⟨hmem, huntied⟩ := mem_filter.1 hentry
  rw [runningText_untied hmem (by simpa using huntied)]
  rfl

structure RunningRight (rows rows' : List (StatementRow Key Rest)) : Prop where
  /-- The rows come back as they came. -/
  kept : (attachCanonicalRunningRemaining rows).map RunningRow.row = rows
  owed : ∀ out ∈ attachCanonicalRunningRemaining rows, Untied rows out.row →
    out.customerRunningRemainingKd = toFixed4 (owedAfter rows out.row)
  /-- Up to their order, the rows that tie with no other come out the same. -/
  permuted : ((attachCanonicalRunningRemaining rows').filter fun out => Untied rows' out.row).Perm
    ((attachCanonicalRunningRemaining rows).filter fun out => Untied rows out.row)
  /-- A row of each customer that is last in time has the sum of all of the customer's rows. -/
  last : ∀ row ∈ rows, ∃ out ∈ attachCanonicalRunningRemaining rows,
    out.row.customerId = row.customerId ∧
    (∀ other ∈ rows, other.customerId = row.customerId → other.Earlier out.row) ∧
    out.customerRunningRemainingKd = toFixed4 (owedOf rows row.customerId fun _ => True)

theorem exists_last {row : StatementRow Key Rest} (hrow : row ∈ rows) :
    ∃ out ∈ attachCanonicalRunningRemaining rows,
    out.row.customerId = row.customerId ∧
    (∀ other ∈ rows, other.customerId = row.customerId → other.Earlier out.row) ∧
    out.customerRunningRemainingKd = toFixed4 (owedOf rows row.customerId fun _ => True) := by
  have hplaced : ∀ other ∈ rows, other.customerId = row.customerId →
      ∃ place, (other, place) ∈ chronological rows row.customerId := by
    intro other hother hcustomer
    obtain ⟨place, hplace⟩ := List.getElem?_of_mem hother
    refine ⟨place, (chronological_perm rows row.customerId).mem_iff.2 (mem_filter.2 ⟨?_, ?_⟩)⟩
    · exact mem_zipIdx_iff_getElem?.2 hplace
    · simpa using hcustomer
  obtain ⟨place, hplace⟩ := hplaced row hrow rfl
  -- the list of the customer's rows in time ends with some entry
  obtain ⟨before, entry, hsorted⟩ : ∃ before entry,
      chronological rows row.customerId = before ++ [entry] := by
    refine ⟨_, _, (dropLast_append_getLast (ne_nil_of_mem hplace)).symm⟩
  have hentry : entry ∈ bucket rows row.customerId := by
    rw [← (chronological_perm rows row.customerId).mem_iff, hsorted]
    simp
  obtain ⟨hmem, hcustomer⟩ := mem_filter.1 hentry
  have hcustomer : entry.1.customerId = row.customerId := by simpa using hcustomer
  refine ⟨⟨entry.1, runningText rows entry⟩, mem_map.2 ⟨entry, hmem, rfl⟩, hcustomer, ?_, ?_⟩
  · intro other hother hsame
    obtain ⟨otherPlace, hother⟩ := hplaced other hother hsame
    have hpairs := chronological_sorted rows row.customerId
    rw [hsorted, pairwise_append] at hpairs
    rw [hsorted] at hother
    rcases mem_append.1 hother with hbefore | hself
    · exact hpairs.2.2 _ hbefore entry (mem_cons_self ..)
    · rw [← mem_singleton.1 hself]
      exact other.earlier_refl
  · have htotal := tally_chronological rows row.customerId fun _ => True
    rw [filter_eq_self.2 (by simp), hsorted] at htotal
    rw [← hcustomer] at hsorted
    rw [runningText_eq hsorted, htotal]

theorem runningRight (hperm : rows'.Perm rows) :
    RunningRight rows rows' := by
  refine ⟨?_, ?_, ?_, fun row hrow => exists_last hrow⟩
  · rw [attachCanonicalRunningRemaining, map_map]
    exact zipIdx_map_fst 0 rows
  · intro out hout huntied
    obtain ⟨entry, hentry, rfl⟩ := mem_map.1 hout
    exact runningText_untied hentry huntied
  · have hrows : (rows'.filter fun row => Untied rows' row).Perm
        (rows.filter fun row => Untied rows row) := by
      simp only [untied_perm hperm]
      exact hperm.filter _
    rw [filter_untied, filter_untied]
    simp only [owedAfter_perm hperm]
    exact hrows.map _

end Running

/-! ## Totals -/

inductive CanonicalStatementInvoiceGroup
  | UNPAID | PAID | CANCELED
  deriving DecidableEq

structure CanonicalStatementInvoiceInput where
  totalKd : ℚ
  status : String
  openDebt : Bool

def canonicalStatementInvoiceGroup (invoice : CanonicalStatementInvoiceInput) :
    CanonicalStatementInvoiceGroup :=
  if invoice.status = "CANCELED" then .CANCELED
  else if invoice.openDebt then .UNPAID else .PAID

/-- What `reduce` accumulates. -/
structure StatementSums where
  (totalInvoiced totalPaid totalOpen : ℚ)
  (unpaidInvoiceCount paidInvoiceCount canceledInvoiceCount : ℕ)

namespace StatementSums

def zero : StatementSums := ⟨0, 0, 0, 0, 0, 0⟩

def add (acc : StatementSums) (inv : CanonicalStatementInvoiceInput) : StatementSums :=
  if inv.status = "CANCELED" then
    { acc with canceledInvoiceCount := acc.canceledInvoiceCount + 1 }
  else if inv.openDebt then
    { acc with
      totalInvoiced := acc.totalInvoiced + inv.totalKd
      totalOpen := acc.totalOpen + inv.totalKd
      unpaidInvoiceCount := acc.unpaidInvoiceCount + 1 }
  else
    { acc with
      totalInvoiced := acc.totalInvoiced + inv.totalKd
      totalPaid := acc.totalPaid + inv.totalKd
      paidInvoiceCount := acc.paidInvoiceCount + 1 }

end StatementSums

structure CanonicalStatementTotals where
  (totalInvoicedKd totalPaidInvoicesKd totalOpenInvoicesKd : String)
  (unpaidInvoiceCount paidInvoiceCount canceledInvoiceCount : ℕ)
  deriving DecidableEq

def computeCanonicalStatementTotals (invoices : List CanonicalStatementInvoiceInput) :
    CanonicalStatementTotals :=
  let totals := invoices.foldl StatementSums.add .zero
  { totalInvoicedKd := toFixed4 totals.totalInvoiced
    totalPaidInvoicesKd := toFixed4 totals.totalPaid
    totalOpenInvoicesKd := toFixed4 totals.totalOpen
    unpaidInvoiceCount := totals.unpaidInvoiceCount
    paidInvoiceCount := totals.paidInvoiceCount
    canceledInvoiceCount := totals.canceledInvoiceCount }

def ofGroup (group : CanonicalStatementInvoiceGroup)
    (invoices : List CanonicalStatementInvoiceInput) : List CanonicalStatementInvoiceInput :=
  invoices.filter fun invoice => canonicalStatementInvoiceGroup invoice = group

def groupTotal (group : CanonicalStatementInvoiceGroup)
    (invoices : List CanonicalStatementInvoiceInput) : ℚ :=
  tally CanonicalStatementInvoiceInput.totalKd (ofGroup group invoices)

def invoicedTotal (invoices : List CanonicalStatementInvoiceInput) : ℚ :=
  tally CanonicalStatementInvoiceInput.totalKd
    (invoices.filter fun invoice => canonicalStatementInvoiceGroup invoice ≠ .CANCELED)

theorem foldl_add (acc : StatementSums) (invoices : List CanonicalStatementInvoiceInput) :
    invoices.foldl StatementSums.add acc =
      ⟨acc.totalInvoiced + invoicedTotal invoices, acc.totalPaid + groupTotal .PAID invoices,
        acc.totalOpen + groupTotal .UNPAID invoices,
        acc.unpaidInvoiceCount + (ofGroup .UNPAID invoices).length,
        acc.paidInvoiceCount + (ofGroup .PAID invoices).length,
        acc.canceledInvoiceCount + (ofGroup .CANCELED invoices).length⟩ := by
  induction invoices generalizing acc with
  | nil => simp [invoicedTotal, groupTotal, ofGroup]
  | cons inv rest ih =>
      rw [foldl_cons, ih]
      unfold StatementSums.add
      by_cases hcanceled : inv.status = "CANCELED"
      · have hgroup : canonicalStatementInvoiceGroup inv = .CANCELED := if_pos hcanceled
        simp [hcanceled, invoicedTotal, groupTotal, ofGroup, hgroup]
        omega
      · by_cases hopen : inv.openDebt = true
        · have hgroup : canonicalStatementInvoiceGroup inv = .UNPAID := by
            simp [canonicalStatementInvoiceGroup, hcanceled, hopen]
          simp [hcanceled, hopen, invoicedTotal, groupTotal, ofGroup, hgroup, add_assoc]
          omega
        · have hgroup : canonicalStatementInvoiceGroup inv = .PAID := by
            simp [canonicalStatementInvoiceGroup, hcanceled, hopen]
          simp [hcanceled, hopen, invoicedTotal, groupTotal, ofGroup, hgroup, add_assoc]
          omega

theorem computeCanonicalStatementTotals_eq (invoices : List CanonicalStatementInvoiceInput) :
    computeCanonicalStatementTotals invoices =
      ⟨toFixed4 (invoicedTotal invoices), toFixed4 (groupTotal .PAID invoices),
        toFixed4 (groupTotal .UNPAID invoices), (ofGroup .UNPAID invoices).length,
        (ofGroup .PAID invoices).length, (ofGroup .CANCELED invoices).length⟩ := by
  unfold computeCanonicalStatementTotals
  rw [foldl_add]
  simp [StatementSums.zero]

theorem invoicedTotal_eq (invoices : List CanonicalStatementInvoiceInput) :
    invoicedTotal invoices = groupTotal .PAID invoices + groupTotal .UNPAID invoices := by
  unfold invoicedTotal groupTotal ofGroup
  induction invoices with
  | nil => simp
  | cons inv rest ih =>
      cases hgroup : canonicalStatementInvoiceGroup inv with
      | CANCELED => simpa [hgroup] using ih
      | UNPAID => simpa [hgroup, add_left_comm] using ih
      | PAID => simpa [hgroup, add_assoc] using ih

theorem length_eq_groups (invoices : List CanonicalStatementInvoiceInput) :
    (ofGroup .UNPAID invoices).length + (ofGroup .PAID invoices).length +
      (ofGroup .CANCELED invoices).length = invoices.length := by
  unfold ofGroup
  induction invoices with
  | nil => rfl
  | cons inv rest ih =>
      cases hgroup : canonicalStatementInvoiceGroup inv <;> simp [hgroup] <;> omega

def FourDecimals (invoices : List CanonicalStatementInvoiceInput) : Prop :=
  ∀ invoice ∈ invoices, canonicalStatementInvoiceGroup invoice ≠ .CANCELED →
    ∃ minor, invoice.totalKd = ofMinor minor

theorem FourDecimals.groupTotal {invoices : List CanonicalStatementInvoiceInput}
    (hfour : FourDecimals invoices) {group : CanonicalStatementInvoiceGroup}
    (hgroup : group ≠ .CANCELED) : ∃ minor, groupTotal group invoices = ofMinor minor := by
  unfold SafariLaundry.groupTotal ofGroup
  induction invoices with
  | nil => exact ⟨0, by simp [ofMinor]⟩
  | cons inv rest ih =>
      obtain ⟨minor, hrest⟩ := ih fun invoice hmem => hfour invoice (.tail _ hmem)
      by_cases hsame : canonicalStatementInvoiceGroup inv = group
      · obtain ⟨first, hfirst⟩ := hfour inv (mem_cons_self ..) (hsame ▸ hgroup)
        exact ⟨first + minor, by simp [hsame, hrest, hfirst, ofMinor_add]⟩
      · exact ⟨minor, by simp [hsame, hrest]⟩

structure TotalsRight (invoices : List CanonicalStatementInvoiceInput) : Prop where
  /-- Each group is counted and added up, and a row is in one of the groups. -/
  groups : computeCanonicalStatementTotals invoices =
    ⟨toFixed4 (invoicedTotal invoices), toFixed4 (groupTotal .PAID invoices),
      toFixed4 (groupTotal .UNPAID invoices), (ofGroup .UNPAID invoices).length,
      (ofGroup .PAID invoices).length, (ofGroup .CANCELED invoices).length⟩
  counts : (ofGroup .UNPAID invoices).length + (ofGroup .PAID invoices).length +
    (ofGroup .CANCELED invoices).length = invoices.length
  adds : invoicedTotal invoices = groupTotal .PAID invoices + groupTotal .UNPAID invoices
  /-- The printed totals add up where the amounts have four decimals. -/
  printed : FourDecimals invoices → ∃ paid unpaid : ℤ,
    (computeCanonicalStatementTotals invoices).totalPaidInvoicesKd = minorToAmountString paid ∧
    (computeCanonicalStatementTotals invoices).totalOpenInvoicesKd = minorToAmountString unpaid ∧
    (computeCanonicalStatementTotals invoices).totalInvoicedKd = minorToAmountString (paid + unpaid)

theorem totalsRight (invoices : List CanonicalStatementInvoiceInput) : TotalsRight invoices := by
  refine ⟨computeCanonicalStatementTotals_eq invoices, length_eq_groups invoices,
    invoicedTotal_eq invoices, fun hfour => ?_⟩
  obtain ⟨paid, hpaid⟩ := hfour.groupTotal (show CanonicalStatementInvoiceGroup.PAID ≠ .CANCELED by decide)
  obtain ⟨unpaid, hunpaid⟩ := hfour.groupTotal (show CanonicalStatementInvoiceGroup.UNPAID ≠ .CANCELED by decide)
  refine ⟨paid, unpaid, ?_⟩
  rw [computeCanonicalStatementTotals_eq, invoicedTotal_eq, hpaid, hunpaid, ← ofMinor_add,
    toFixed4_ofMinor, toFixed4_ofMinor, toFixed4_ofMinor]
  exact ⟨rfl, rfl, rfl⟩

/-- Every row of a statement comes back in its place with what its customer owed after it, in
whatever order the rows come, and the totals are those of the groups. -/
theorem canonicalStatement_right {Key Rest : Type} [LinearOrder Key]
    {rows rows' : List (StatementRow Key Rest)} (hperm : rows'.Perm rows)
    (invoices : List CanonicalStatementInvoiceInput) :
    RunningRight rows rows' ∧ TotalsRight invoices :=
  ⟨runningRight hperm, totalsRight invoices⟩

namespace Sample

def statementRow (customerId orderId issuedAt : ℕ) (remainingKd : ℚ) : StatementRow ℕ Unit :=
  ⟨customerId, orderId, issuedAt, none, remainingKd, ()⟩

def runningTexts (rows : List (StatementRow ℕ Unit)) : List (ℕ × String) :=
  (attachCanonicalRunningRemaining rows).map fun out =>
    (out.row.orderId, out.customerRunningRemainingKd)

/-- Five units of the fifth decimal are paid and as many are open. -/
def halfUnits : List CanonicalStatementInvoiceInput :=
  [⟨1 / 20000, "COMPLETED", false⟩, ⟨1 / 20000, "COMPLETED", true⟩]

end Sample

theorem canonicalStatement_right_sample :
    RunningRight [Sample.statementRow 1 2 2 2, Sample.statementRow 1 1 1 3]
      [Sample.statementRow 1 1 1 3, Sample.statementRow 1 2 2 2] ∧ TotalsRight Sample.halfUnits :=
  canonicalStatement_right (.swap _ _ _) Sample.halfUnits

theorem canonicalStatement_fails :
    (Sample.runningTexts [Sample.statementRow 1 2 2 2, Sample.statementRow 1 1 1 3] =
        [(2, "5.0000"), (1, "3.0000")] ∧
      Sample.runningTexts [Sample.statementRow 1 1 1 3, Sample.statementRow 1 2 2 2] =
        [(1, "3.0000"), (2, "5.0000")]) ∧
    Sample.runningTexts [Sample.statementRow 1 1 1 3, Sample.statementRow 2 2 2 2] =
      [(1, "3.0000"), (2, "2.0000")] ∧
    (Sample.runningTexts [Sample.statementRow 1 1 1 3, Sample.statementRow 1 1 1 2] =
        [(1, "3.0000"), (1, "5.0000")] ∧
      Sample.runningTexts [Sample.statementRow 1 1 1 2, Sample.statementRow 1 1 1 3] =
        [(1, "2.0000"), (1, "5.0000")]) ∧
    computeCanonicalStatementTotals Sample.halfUnits = ⟨"0.0001", "0.0001", "0.0001", 1, 1, 0⟩ := by
  decide +kernel

end SafariLaundry
