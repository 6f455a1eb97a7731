import SafariLaundry.EmployeeLoans

/-!
# Commissions

Orders and payments earn payouts by rules; a unique key with the earner in it absorbs
replays.  Payouts are released or cancelled by bulk updates, and a payroll sums the released
ones before its transaction and stamps, by their ids, those that still are.
-/

namespace SafariLaundry

open Library Library.Bookkeeping List

inductive CommissionMode
  | SALE | COLLECTION
  deriving DecidableEq

inductive CommissionCalculationBase
  | ORDER_TOTAL | INVOICE_TOTAL | NET_AFTER_KNET | EXCLUDE_SUBSCRIPTIONS

inductive CommissionPayoutTiming
  | IMMEDIATE | AFTER_COLLECTION | END_OF_MONTH
  deriving DecidableEq

inductive CommissionPayoutStatus
  | PENDING | RELEASED | PAID | CANCELLED
  deriving DecidableEq

/-- A rule; `percentage` is a plain number, 5 for five in a hundred. -/
structure CommissionRule where
  id : Uuid
  isActive : Bool
  role : Option SafariRole
  mode : CommissionMode
  calculationBase : CommissionCalculationBase
  percentage : ℚ
  minInvoiceAmount : ℤ
  payoutTiming : CommissionPayoutTiming
  updatedAt : Timestamp

structure CommissionPayout where
  (id ruleId earnerUserId : Uuid)
  mode : CommissionMode
  basisAmount : ℤ
  percentage : ℚ
  amount : ℤ
  status : CommissionPayoutStatus
  (sourceOrderId sourceJournalEntryId payrollId : Option Uuid)
  earnedAt : Timestamp
  (releasedAt paidAt cancelledAt : Option Timestamp)
  cancelReason : Option String

structure CommissionPayroll where
  (id userId : Uuid)
  commissionAmount : ℤ

structure CommissionDb where
  payouts : Table CommissionPayout.id
  payrolls : Table CommissionPayroll.id
  /-- Not a table: the payouts as they became PAID, newest first. -/
  paid : List CommissionPayout

/-! ## Earning -/

inductive KnetCommissionRule
  | HIGHER_OF_FLAT_AND_PERCENT | FLAT_ONLY | PERCENT_ONLY

structure PaymentFeeConfig where
  (knetFlatKd knetPercentOfGross : ℚ)
  knetRule : KnetCommissionRule
  cardPercentOfGross : ℚ

/-- Amounts are in minor units, `knetFlatKd` too. -/
def computeOrderBankFeeKd (gross : ℚ) (method : Option PosPaymentMethod)
    (config : PaymentFeeConfig) : ℚ :=
  match method with
  | some .KNET =>
      match config.knetRule with
      | .FLAT_ONLY => config.knetFlatKd
      | .PERCENT_ONLY => gross * config.knetPercentOfGross
      | .HIGHER_OF_FLAT_AND_PERCENT =>
          if gross * config.knetPercentOfGross < config.knetFlatKd then config.knetFlatKd
          else gross * config.knetPercentOfGross
  | some .PAYMENT_LINK | some .ONLINE => gross * config.cardPercentOfGross
  | some .CASH | some .SUBSCRIPTION_WALLET | some .DEBT_ON_ACCOUNT | none => 0

structure CommissionOrder where
  id : Uuid
  totalPrice : ℤ
  posPaymentMethod : Option PosPaymentMethod
  (subscriptionId driverId transferredFromDriverId : Option Uuid)

def CommissionOrder.earner (order : CommissionOrder) : Option Uuid :=
  order.transferredFromDriverId.orElse fun _ => order.driverId

def computeBasisForSale (order : CommissionOrder) (base : CommissionCalculationBase)
    (fees : PaymentFeeConfig) : ℚ :=
  match base with
  | .ORDER_TOTAL | .INVOICE_TOTAL => order.totalPrice
  | .NET_AFTER_KNET =>
      order.totalPrice - computeOrderBankFeeKd order.totalPrice order.posPaymentMethod fees
  | .EXCLUDE_SUBSCRIPTIONS => if order.subscriptionId.isSome then 0 else order.totalPrice

def pickActiveRules (rules : List CommissionRule) (mode : CommissionMode) (role : SafariRole) :
    List CommissionRule :=
  let active := (rules.filter fun rule => rule.mode = mode ∧ rule.isActive = true).insertionSort
    fun first second => second.updatedAt ≤ first.updatedAt
  let specific := active.filter fun rule => rule.role = some role
  if specific ≠ [] then specific else active.filter fun rule => rule.role = none

/-- What an earning call reads besides its order or entry; `earnerRole` is that of the earner,
if there is such a user. -/
structure EarningReads where
  enabled : Bool
  earnerRole : Option SafariRole
  rules : List CommissionRule
  fees : PaymentFeeConfig

inductive PayoutSource
  | order (id : Uuid)
  | journalEntry (id : Uuid)

namespace PayoutSource

def mode : PayoutSource → CommissionMode
  | .order _ => .SALE
  | .journalEntry _ => .COLLECTION

def orderId : PayoutSource → Option Uuid
  | .order id => some id
  | .journalEntry _ => none

def entryId : PayoutSource → Option Uuid
  | .order _ => none
  | .journalEntry id => some id

def Of (payout : CommissionPayout) : PayoutSource → Prop
  | .order id => payout.sourceOrderId = some id
  | .journalEntry id => payout.sourceJournalEntryId = some id

instance (payout : CommissionPayout) : DecidablePred (Of payout) := fun source => by
  unfold Of
  cases source with
  | order _ => infer_instance
  | journalEntry _ => infer_instance

end PayoutSource

structure PayoutDraft where
  rule : CommissionRule
  earnerUserId : Uuid
  basis : ℚ
  source : PayoutSource

def PayoutDraft.payout (draft : PayoutDraft) (now : Timestamp) (id : Uuid) :
    CommissionPayout where
  id := id
  ruleId := draft.rule.id
  earnerUserId := draft.earnerUserId
  mode := draft.source.mode
  basisAmount := Decimal.roundHalfAway draft.basis
  percentage := draft.rule.percentage
  amount := Decimal.roundHalfAway (draft.basis * draft.rule.percentage / 100)
  status := if draft.rule.payoutTiming = .IMMEDIATE then .RELEASED else .PENDING
  sourceOrderId := draft.source.orderId
  sourceJournalEntryId := draft.source.entryId
  payrollId := none
  earnedAt := now
  releasedAt := if draft.rule.payoutTiming = .IMMEDIATE then some now else none
  paidAt := none
  cancelledAt := none
  cancelReason := none

def earnForOrder (reads : EarningReads) (order : Option CommissionOrder) : List PayoutDraft :=
  match reads.enabled, order, order.bind CommissionOrder.earner, reads.earnerRole with
  | true, some order, some earnerUserId, some role =>
      (pickActiveRules reads.rules .SALE role).filterMap fun rule =>
        let basis := computeBasisForSale order rule.calculationBase reads.fees
        if basis ≤ 0 then none
        else if basis < rule.minInvoiceAmount then none
        else some ⟨rule, earnerUserId, basis, .order order.id⟩
  | _, _, _, _ => []

structure ReceivableLine where
  credit : ℤ
  (origin event : Option String)

structure CommissionEntry where
  id : Uuid
  source : String
  orderId : Option Uuid
  lines : List ReceivableLine

def CommissionEntry.basis (entry : CommissionEntry) : ℤ :=
  tally ReceivableLine.credit (entry.lines.filter fun line =>
    line.origin ≠ some "WALLET_ABSORPTION" ∧ line.event ≠ some "WALLET_ABSORPTION" ∧
      line.event ≠ some "WALLET_ABSORPTION_V3")

def earnForJournalPayment (reads : EarningReads) (entry : Option CommissionEntry)
    (order : Option CommissionOrder) : List PayoutDraft :=
  match reads.enabled, entry, order.bind CommissionOrder.earner, reads.earnerRole with
  | true, some entry, some earnerUserId, some role =>
      if entry.source ≠ "PAYMENT" ∨ entry.orderId = none ∨ entry.basis ≤ 0 then []
      else
        (pickActiveRules reads.rules .COLLECTION role).filterMap fun rule =>
          if entry.basis < rule.minInvoiceAmount then none
          else some ⟨rule, earnerUserId, entry.basis, .journalEntry entry.id⟩
  | _, _, _, _ => []

def PayoutDraft.Clashes (draft : PayoutDraft) (payout : CommissionPayout) : Prop :=
  draft.source.Of payout ∧ payout.ruleId = draft.rule.id ∧ payout.earnerUserId = draft.earnerUserId
  deriving Decidable

def CommissionDb.earn (keys : FreshKeys Uuid) (now : Timestamp) (draft : PayoutDraft)
    (db : CommissionDb) : CommissionDb :=
  if ∃ payout ∈ db.payouts.rows, draft.Clashes payout then db
  else { db with payouts := db.payouts.insertNew keys (draft.payout now) fun _ => rfl }

namespace CommissionPayout

def released (now : Timestamp) (payout : CommissionPayout) : CommissionPayout :=
  { payout with status := .RELEASED, releasedAt := some now }

def cancelled (now : Timestamp) (reason : String) (payout : CommissionPayout) :
    CommissionPayout :=
  { payout with status := .CANCELLED, cancelledAt := some now, cancelReason := some reason }

def paidBy (now : Timestamp) (payrollId : Uuid) (payout : CommissionPayout) : CommissionPayout :=
  { payout with status := .PAID, paidAt := some now, payrollId := some payrollId }

theorem released_id (now : Timestamp) (payout : CommissionPayout) :
    (payout.released now).id = payout.id := rfl

theorem cancelled_id (now : Timestamp) (reason : String) (payout : CommissionPayout) :
    (payout.cancelled now reason).id = payout.id := rfl

theorem paidBy_id (now : Timestamp) (payrollId : Uuid) (payout : CommissionPayout) :
    (payout.paidBy now payrollId).id = payout.id := rfl

end CommissionPayout

def releaseAfterCollectionForOrder (orderId : Uuid) (posPaymentMethod : Option PosPaymentMethod)
    (timing : Uuid → CommissionPayoutTiming) (now : Timestamp) (db : CommissionDb) :
    CommissionDb :=
  if posPaymentMethod = some .SUBSCRIPTION_WALLET then db
  else
    { db with
      payouts := db.payouts.updateWhere
        (fun payout => payout.sourceOrderId = some orderId ∧ payout.status = .PENDING ∧
          timing payout.ruleId = .AFTER_COLLECTION)
        (CommissionPayout.released now) (CommissionPayout.released_id now) }

def releaseEndOfMonth (asOf : Timestamp) (timing : Uuid → CommissionPayoutTiming)
    (now : Timestamp) (db : CommissionDb) : CommissionDb :=
  { db with
    payouts := db.payouts.updateWhere
      (fun payout => payout.status = .PENDING ∧ payout.earnedAt ≤ asOf ∧
        timing payout.ruleId = .END_OF_MONTH)
      (CommissionPayout.released now) (CommissionPayout.released_id now) }

def cancelForOrder (orderId : Uuid) (reason : String) (now : Timestamp) (db : CommissionDb) :
    CommissionDb :=
  { db with
    payouts := db.payouts.updateWhere
      (fun payout => payout.sourceOrderId = some orderId ∧ payout.status ≠ .PAID)
      (CommissionPayout.cancelled now reason) (CommissionPayout.cancelled_id now reason) }

def CommissionDb.releasedFor (earnerUserId : Uuid) (asOf : Timestamp) (db : CommissionDb) :
    List CommissionPayout :=
  db.payouts.rows.filter fun payout =>
    payout.earnerUserId = earnerUserId ∧ payout.status = .RELEASED ∧
      ∃ releasedAt ∈ payout.releasedAt, releasedAt ≤ asOf

def CommissionDb.markPaid (payoutIds : List Uuid) (payrollId : Uuid) (now : Timestamp)
    (db : CommissionDb) : CommissionDb :=
  { db with
    payouts := db.payouts.updateWhere
      (fun payout => payout.id ∈ payoutIds ∧ payout.status = .RELEASED)
      (CommissionPayout.paidBy now payrollId) (CommissionPayout.paidBy_id now payrollId)
    paid := ((db.payouts.rows.filter fun payout =>
      payout.id ∈ payoutIds ∧ payout.status = .RELEASED).map
        (CommissionPayout.paidBy now payrollId)) ++ db.paid }

structure CommissionPayrollDto where
  userId : Uuid
  paymentDate : Timestamp

def CommissionPayrollDto.payroll (dto : CommissionPayrollDto) (commission : ℤ) (id : Uuid) :
    CommissionPayroll := ⟨id, dto.userId, commission⟩

/-- `create`, without the loans and the debt holds; the released payouts are summed outside
of its transaction. -/
def createCommissionPayroll (keys : FreshKeys Uuid) (actorRole : SafariRole)
    (dto : CommissionPayrollDto) (now : Timestamp) (seen db : CommissionDb) :
    Except ServiceError CommissionDb :=
  if ¬ MayRunPayroll actorRole then .error (.forbidden "Forbidden")
  else
    let released := seen.releasedFor dto.userId dto.paymentDate
    let payrollId := keys.draw (db.payrolls.rows.map CommissionPayroll.id)
    let created : CommissionDb := { db with
      payrolls := db.payrolls.insertNew keys
        (dto.payroll (tally CommissionPayout.amount released)) fun _ => rfl }
    .ok (created.markPaid (released.map CommissionPayout.id) payrollId now)

inductive CommissionCall
  | earnForOrder (keys : FreshKeys Uuid) (now : Timestamp) (reads : EarningReads)
      (order : Option CommissionOrder) (position : ℕ)
  | earnForJournalPayment (keys : FreshKeys Uuid) (now : Timestamp) (reads : EarningReads)
      (entry : Option CommissionEntry) (order : Option CommissionOrder) (position : ℕ)
  | releaseAfterCollectionForOrder (orderId : Uuid) (posPaymentMethod : Option PosPaymentMethod)
      (timing : Uuid → CommissionPayoutTiming) (now : Timestamp)
  | releaseEndOfMonth (asOf : Timestamp) (timing : Uuid → CommissionPayoutTiming) (now : Timestamp)
  | cancelForOrder (orderId : Uuid) (reason : String) (now : Timestamp)
  | createPayroll (keys : FreshKeys Uuid) (actorRole : SafariRole) (dto : CommissionPayrollDto)
      (now : Timestamp) (seen : CommissionDb)

namespace CommissionCall

def earnNext (keys : FreshKeys Uuid) (now : Timestamp) (drafts : List PayoutDraft)
    (position : ℕ) (db : CommissionDb) : CommissionDb :=
  match drafts[position]? with
  | some draft => db.earn keys now draft
  | none => db

def step (db : CommissionDb) : CommissionCall → CommissionDb
  | .earnForOrder keys now reads order position =>
      earnNext keys now (SafariLaundry.earnForOrder reads order) position db
  | .earnForJournalPayment keys now reads entry order position =>
      earnNext keys now (SafariLaundry.earnForJournalPayment reads entry order) position db
  | .releaseAfterCollectionForOrder orderId posPaymentMethod timing now =>
      SafariLaundry.releaseAfterCollectionForOrder orderId posPaymentMethod timing now db
  | .releaseEndOfMonth asOf timing now => SafariLaundry.releaseEndOfMonth asOf timing now db
  | .cancelForOrder orderId reason now => SafariLaundry.cancelForOrder orderId reason now db
  | .createPayroll keys actorRole dto now seen =>
      match createCommissionPayroll keys actorRole dto now seen db with
      | .ok db' => db'
      | .error _ => db

end CommissionCall

def commissionCalls : Calls CommissionDb CommissionCall where
  step := fun call db => call.step db
  seen := fun call =>
    match call with
    | .createPayroll _ _ _ _ seen => [seen]
    | _ => []

def paidTotal (payrollId : Uuid) (db : CommissionDb) : ℤ :=
  tally (fun payout => if payout.status = .PAID ∧ payout.payrollId = some payrollId then
    payout.amount else 0) db.payouts.rows

/-- Paid payouts stay as they are, no order and no payment earns a rule twice, and a payroll
pays the payouts that are stamped with it. -/
structure CommissionsSound (db : CommissionDb) : Prop where
  unchanged : ∀ payout ∈ db.paid, db.payouts.find? payout.id = some payout
  oneEarning : ∀ source : PayoutSource, ∀ payout ∈ db.payouts.rows,
    ∀ other ∈ db.payouts.rows, source.Of payout → source.Of other →
      payout.ruleId = other.ruleId → payout = other
  amounts : ∀ payroll ∈ db.payrolls.rows, payroll.commissionAmount = paidTotal payroll.id db

def PayoutDraft.SameEarner (draft : PayoutDraft) (db : CommissionDb) : Prop :=
  ∀ payout ∈ db.payouts.rows, draft.source.Of payout → payout.ruleId = draft.rule.id →
    payout.earnerUserId = draft.earnerUserId

def StillReleased (payoutId : Uuid) (db : CommissionDb) : Prop :=
  ∃ payout ∈ db.payouts.find? payoutId, payout.status = .RELEASED

instance (db : CommissionDb) : DecidablePred fun payoutId => StillReleased payoutId db := fun _ =>
  inferInstanceAs (Decidable (∃ payout ∈ _, _))

/-- An earning finds no payout of its source and rule with another earner; the payouts that a
payroll has summed and that are no longer released amount to nothing. -/
def CommissionCall.FindsTheSame (db : CommissionDb) : CommissionCall → Prop
  | .earnForOrder _ _ reads order position =>
      ∀ draft, (SafariLaundry.earnForOrder reads order)[position]? = some draft →
        draft.SameEarner db
  | .earnForJournalPayment _ _ reads entry order position =>
      ∀ draft, (SafariLaundry.earnForJournalPayment reads entry order)[position]? = some draft →
        draft.SameEarner db
  | .createPayroll _ actorRole dto _ seen => MayRunPayroll actorRole →
      tally CommissionPayout.amount ((seen.releasedFor dto.userId dto.paymentDate).filter
        fun payout => ¬ StillReleased payout.id db) = 0
  | _ => True

variable {db : CommissionDb} {call : CommissionCall}

structure CommissionsKept (db : CommissionDb) : Prop where
  sound : CommissionsSound db
  paidStatus : ∀ payout ∈ db.paid, payout.status = .PAID
  linked : ∀ payout ∈ db.payouts.rows, ∀ payrollId, payout.payrollId = some payrollId →
    payrollId ∈ db.payrolls.rows.map CommissionPayroll.id

def PayoutsPersist (before after : CommissionDb) : Prop :=
  ∀ payout ∈ before.payouts.rows, ∃ later, after.payouts.find? payout.id = some later ∧
    later.amount = payout.amount

instance : Std.Refl PayoutsPersist where
  refl _ := fun payout hpayout => ⟨payout, Table.find?_of_mem hpayout, rfl⟩

instance : IsTrans CommissionDb PayoutsPersist where
  trans _ _ _ hfirst hsecond := by
    intro payout hpayout
    obtain ⟨later, hlater, hamount⟩ := hfirst payout hpayout
    obtain ⟨last, hlast, hamount'⟩ := hsecond later (Table.mem_of_find? hlater)
    rw [Table.key_of_find? hlater] at hlast
    exact ⟨last, hlast, hamount'.trans hamount⟩

structure UnpaidUpdate (p : CommissionPayout → Prop) (f : CommissionPayout → CommissionPayout) :
    Prop where
  id : ∀ payout, (f payout).id = payout.id
  unpaid : ∀ payout, p payout → payout.status ≠ .PAID
  status : ∀ payout, (f payout).status ≠ .PAID
  ruleId : ∀ payout, (f payout).ruleId = payout.ruleId
  amount : ∀ payout, (f payout).amount = payout.amount
  payrollId : ∀ payout, (f payout).payrollId = payout.payrollId
  source : ∀ payout (source : PayoutSource), source.Of (f payout) ↔ source.Of payout

section Unpaid

variable {p : CommissionPayout → Prop} [DecidablePred p] {f : CommissionPayout → CommissionPayout}

theorem UnpaidUpdate.persist (hupdate : UnpaidUpdate p f) :
    PayoutsPersist db { db with payouts := db.payouts.updateWhere p f hupdate.id } := by
  intro payout hpayout
  refine ⟨if p payout then f payout else payout, ?_, ?_⟩
  · rw [Table.find?_updateWhere, Table.find?_of_mem hpayout]
    rfl
  · by_cases hp : p payout
    · rw [if_pos hp, hupdate.amount]
    · rw [if_neg hp]

theorem UnpaidUpdate.kept (hupdate : UnpaidUpdate p f) (hkept : CommissionsKept db) :
    CommissionsKept { db with payouts := db.payouts.updateWhere p f hupdate.id } := by
  have hrow : ∀ old : CommissionPayout, (if p old then f old else old).ruleId = old.ruleId ∧
        (if p old then f old else old).payrollId = old.payrollId ∧
        ∀ source : PayoutSource, source.Of (if p old then f old else old) ↔ source.Of old := by
    intro old
    by_cases hp : p old
    · rw [if_pos hp]
      exact ⟨hupdate.ruleId old, hupdate.payrollId old, hupdate.source old⟩
    · rw [if_neg hp]
      exact ⟨rfl, rfl, fun _ => Iff.rfl⟩
  refine ⟨⟨?_, ?_, ?_⟩, hkept.paidStatus, ?_⟩
  · intro payout hpayout
    have hstatus := hkept.paidStatus payout hpayout
    rw [Table.find?_updateWhere, hkept.sound.unchanged payout hpayout, Option.map_some]
    rw [if_neg fun hp => hupdate.unpaid payout hp hstatus]
  · intro source payout hpayout other hother hof hof' hrule
    obtain ⟨old, hold, rfl⟩ := mem_map.1 hpayout
    obtain ⟨old', hold', rfl⟩ := mem_map.1 hother
    rw [(hrow old).1, (hrow old').1] at hrule
    rw [hkept.sound.oneEarning source old hold old' hold' (((hrow old).2.2 source).1 hof)
      (((hrow old').2.2 source).1 hof') hrule]
  · intro payroll hpayroll
    rw [hkept.sound.amounts payroll hpayroll]
    unfold paidTotal
    rw [Table.rows_updateWhere, tally_map]
    apply tally_congr
    intro payout _
    by_cases hp : p payout
    · rw [if_pos hp, if_neg fun hpaid => hupdate.unpaid payout hp hpaid.1,
        if_neg fun hpaid => hupdate.status payout hpaid.1]
    · rw [if_neg hp]
  · intro payout hpayout payrollId hstamped
    obtain ⟨old, hold, rfl⟩ := mem_map.1 hpayout
    rw [(hrow old).2.1] at hstamped
    exact hkept.linked old hold payrollId hstamped

end Unpaid

theorem unpaidUpdate_released {p : CommissionPayout → Prop} (now : Timestamp)
    (hpending : ∀ payout, p payout → payout.status = .PENDING) :
    UnpaidUpdate p (CommissionPayout.released now) := by
  constructor
  case unpaid =>
    intro payout hp hpaid
    rw [hpending payout hp] at hpaid
    cases hpaid
  case status => exact fun _ hstatus => nomatch hstatus
  case source =>
    intro payout source
    cases source with
    | order _ => exact Iff.rfl
    | journalEntry _ => exact Iff.rfl
  all_goals exact fun _ => rfl

theorem unpaidUpdate_cancelled {p : CommissionPayout → Prop} (now : Timestamp) (reason : String)
    (hunpaid : ∀ payout, p payout → payout.status ≠ .PAID) :
    UnpaidUpdate p (CommissionPayout.cancelled now reason) := by
  constructor
  case unpaid => exact hunpaid
  case status => exact fun _ hstatus => nomatch hstatus
  case source =>
    intro payout source
    cases source with
    | order _ => exact Iff.rfl
    | journalEntry _ => exact Iff.rfl
  all_goals exact fun _ => rfl

section Earning

variable {keys : FreshKeys Uuid} {now : Timestamp} {draft : PayoutDraft}

theorem PayoutDraft.source_of_payout (draft : PayoutDraft) (now : Timestamp) (id : Uuid)
    (source : PayoutSource) : source.Of (draft.payout now id) ↔ source = draft.source := by
  cases source with
  | order orderId =>
      cases hsource : draft.source with
      | order draftId =>
          change draft.source.orderId = some orderId ↔ _
          rw [hsource]
          simp only [PayoutSource.orderId, Option.some.injEq, PayoutSource.order.injEq, eq_comm]
      | journalEntry entryId =>
          change draft.source.orderId = some orderId ↔ _
          rw [hsource]
          simp [PayoutSource.orderId]
  | journalEntry entryId =>
      cases hsource : draft.source with
      | order draftId =>
          change draft.source.entryId = some entryId ↔ _
          rw [hsource]
          simp [PayoutSource.entryId]
      | journalEntry draftId =>
          change draft.source.entryId = some entryId ↔ _
          rw [hsource]
          simp only [PayoutSource.entryId, Option.some.injEq, PayoutSource.journalEntry.injEq,
            eq_comm]

theorem PayoutsPersist.earn : PayoutsPersist db (db.earn keys now draft) := by
  unfold CommissionDb.earn
  by_cases hclash : ∃ payout ∈ db.payouts.rows, draft.Clashes payout
  · rw [if_pos hclash]
    exact Std.Refl.refl db
  · rw [if_neg hclash]
    intro payout hpayout
    exact ⟨payout, Table.find?_of_mem (mem_append_left _ hpayout), rfl⟩

theorem earn_iff (hkept : CommissionsKept db) :
    (CommissionsSound (db.earn keys now draft) → draft.SameEarner db) ∧
      (draft.SameEarner db → CommissionsKept (db.earn keys now draft)) := by
  unfold CommissionDb.earn
  by_cases hclash : ∃ payout ∈ db.payouts.rows, draft.Clashes payout
  · rw [if_pos hclash]
    refine ⟨fun hsound payout hpayout hof hrule => ?_, fun _ => hkept⟩
    obtain ⟨clash, hmem, hof', hrule', hearner⟩ := hclash
    rw [hsound.oneEarning draft.source payout hpayout clash hmem hof hof'
      (hrule.trans hrule'.symm), hearner]
  · rw [if_neg hclash]
    let id := keys.draw (db.payouts.rows.map CommissionPayout.id)
    have hfresh : ∀ payout ∈ db.payouts.rows, payout ≠ draft.payout now id := by
      rintro payout hpayout rfl
      have hused : id ∈ db.payouts.rows.map CommissionPayout.id :=
        mem_map.2 ⟨_, hpayout, rfl⟩
      exact keys.draw_fresh _ hused
    have hnew : draft.source.Of (draft.payout now id) :=
      (draft.source_of_payout now id draft.source).2 rfl
    constructor
    · intro hsound payout hpayout hof hrule
      refine absurd ?_ (hfresh payout hpayout)
      exact hsound.oneEarning draft.source payout (mem_append_left _ hpayout) _
        (mem_append_right _ (mem_singleton_self _)) hof hnew hrule
    · intro hsame
      have hnone : ∀ payout ∈ db.payouts.rows, draft.source.Of payout →
          payout.ruleId ≠ draft.rule.id := by
        intro payout hpayout hof hrule
        exact hclash ⟨payout, hpayout, hof, hrule, hsame payout hpayout hof hrule⟩
      refine ⟨⟨?_, ?_, ?_⟩, hkept.paidStatus, ?_⟩
      · intro payout hpayout
        have hfound := hkept.sound.unchanged payout hpayout
        exact Table.find?_of_mem (mem_append_left _ (Table.mem_of_find? hfound))
      · intro source payout hpayout other hother hof hof' hrule
        rcases mem_append.1 hpayout with hold | hadded
        · rcases mem_append.1 hother with hold' | hadded'
          · exact hkept.sound.oneEarning source payout hold other hold' hof hof' hrule
          · obtain rfl := mem_singleton.1 hadded'
            obtain rfl := (draft.source_of_payout now id source).1 hof'
            exact absurd hrule (hnone payout hold hof)
        · obtain rfl := mem_singleton.1 hadded
          rcases mem_append.1 hother with hold' | hadded'
          · obtain rfl := (draft.source_of_payout now id source).1 hof
            exact absurd hrule.symm (hnone other hold' hof')
          · exact (mem_singleton.1 hadded').symm
      · intro payroll hpayroll
        rw [hkept.sound.amounts payroll hpayroll]
        unfold paidTotal
        change _ = tally _ (db.payouts.rows ++ [draft.payout now id])
        rw [tally_append, tally_cons, tally_nil, if_neg, add_zero, add_zero]
        rintro ⟨_, hstamped⟩
        cases hstamped
      · intro payout hpayout payrollId hstamped
        rcases mem_append.1 hpayout with hold | hadded
        · exact hkept.linked payout hold payrollId hstamped
        · obtain rfl := mem_singleton.1 hadded
          cases hstamped

end Earning

/-! ## A payroll -/

section Payroll

variable {keys : FreshKeys Uuid} {dto : CommissionPayrollDto} {now : Timestamp}
  {seen : CommissionDb} {released : List CommissionPayout}

def CommissionDb.paying (keys : FreshKeys Uuid) (dto : CommissionPayrollDto) (now : Timestamp)
    (released : List CommissionPayout) (db : CommissionDb) : CommissionDb :=
  ({ db with
    payrolls := db.payrolls.insertNew keys
      (dto.payroll (tally CommissionPayout.amount released)) fun _ => rfl } :
        CommissionDb).markPaid (released.map CommissionPayout.id)
    (keys.draw (db.payrolls.rows.map CommissionPayroll.id)) now

theorem createCommissionPayroll_of {actorRole : SafariRole} (hrole : MayRunPayroll actorRole) :
    createCommissionPayroll keys actorRole dto now seen db =
      .ok (db.paying keys dto now (seen.releasedFor dto.userId dto.paymentDate)) := by
  unfold createCommissionPayroll
  rw [if_neg (not_not_intro hrole)]
  rfl

theorem find?_paying (id : Uuid) :
    (db.paying keys dto now released).payouts.find? id =
      (db.payouts.find? id).map fun payout =>
        if payout.id ∈ released.map CommissionPayout.id ∧ payout.status = .RELEASED then
          payout.paidBy now (keys.draw (db.payrolls.rows.map CommissionPayroll.id))
        else payout := by
  unfold CommissionDb.paying CommissionDb.markPaid
  rw [Table.find?_updateWhere]

theorem PayoutsPersist.paying : PayoutsPersist db (db.paying keys dto now released) := by
  intro payout hpayout
  refine ⟨_, by rw [find?_paying, Table.find?_of_mem hpayout, Option.map_some], ?_⟩
  by_cases hp : payout.id ∈ released.map CommissionPayout.id ∧ payout.status = .RELEASED
  · rw [if_pos hp]
    rfl
  · rw [if_neg hp]

theorem stillReleased_iff {payout : CommissionPayout} (hpayout : payout ∈ db.payouts.rows) :
    StillReleased payout.id db ↔ payout.status = .RELEASED := by
  unfold StillReleased
  rw [Table.find?_of_mem hpayout]
  simp

theorem paidTotal_paying (hkept : CommissionsKept db)
    (hdistinct : (released.map CommissionPayout.id).Nodup)
    (hstored : ∀ payout ∈ released, ∃ stored, db.payouts.find? payout.id = some stored ∧
      stored.amount = payout.amount) :
    paidTotal (keys.draw (db.payrolls.rows.map CommissionPayroll.id))
        (db.paying keys dto now released) =
      tally CommissionPayout.amount (released.filter fun payout => StillReleased payout.id db) := by
  let still := released.filter fun payout => StillReleased payout.id db
  have hpart : still.Sublist released := filter_sublist
  have hselected : ∀ payout ∈ db.payouts.rows, payout.id ∈ still.map CommissionPayout.id ↔
        payout.id ∈ released.map CommissionPayout.id ∧ payout.status = .RELEASED := by
    intro payout hpayout
    constructor
    · intro hmem
      obtain ⟨other, hother, hid⟩ := mem_map.1 hmem
      obtain ⟨hread, hstill⟩ := mem_filter.1 hother
      have hreleased := of_decide_eq_true hstill
      rw [hid, stillReleased_iff hpayout] at hreleased
      exact ⟨mem_map.2 ⟨other, hread, hid⟩, hreleased⟩
    · rintro ⟨hmem, hstatus⟩
      obtain ⟨other, hread, hid⟩ := mem_map.1 hmem
      refine mem_map.2 ⟨other, mem_filter.2 ⟨hread, decide_eq_true ?_⟩, hid⟩
      rw [hid]
      exact (stillReleased_iff hpayout).2 hstatus
  have htally := @tally_selected _ _ _ CommissionPayout.id db.payouts CommissionPayout.amount
    still ((hpart.map CommissionPayout.id).nodup hdistinct)
    fun payout hpayout => hstored payout (hpart.subset hpayout)
  rw [← htally]
  unfold paidTotal
  change tally _ (db.payouts.rows.map _) = _
  rw [tally_map]
  apply tally_congr
  intro payout hpayout
  by_cases hp : payout.id ∈ released.map CommissionPayout.id ∧ payout.status = .RELEASED
  · rw [if_pos hp, if_pos ((hselected payout hpayout).2 hp)]
    exact if_pos ⟨rfl, rfl⟩
  · rw [if_neg hp, if_neg fun hmem => hp ((hselected payout hpayout).1 hmem), if_neg]
    -- a payout that was stamped before has the id of an older payroll
    rintro ⟨_, hstamped⟩
    exact keys.draw_fresh _ (hkept.linked payout hpayout _ hstamped)

theorem paidTotal_paying_of_ne {payrollId : Uuid}
    (hne : payrollId ≠ keys.draw (db.payrolls.rows.map CommissionPayroll.id)) :
    paidTotal payrollId (db.paying keys dto now released) = paidTotal payrollId db := by
  unfold paidTotal
  change tally _ (db.payouts.rows.map _) = _
  rw [tally_map]
  apply tally_congr
  intro payout _
  by_cases hp : payout.id ∈ released.map CommissionPayout.id ∧ payout.status = .RELEASED
  · rw [if_pos hp, if_neg, if_neg]
    · rintro ⟨hpaid, _⟩
      rw [hp.2] at hpaid
      cases hpaid
    · rintro ⟨_, hstamped⟩
      exact hne (Option.some.inj hstamped).symm
  · rw [if_neg hp]

theorem unchanged_paying (hkept : CommissionsKept db) :
    ∀ payout ∈ (db.paying keys dto now released).paid,
      (db.paying keys dto now released).payouts.find? payout.id = some payout := by
  intro payout hpayout
  rw [find?_paying]
  rcases mem_append.1 hpayout with hnow | hearlier
  · obtain ⟨old, hold, rfl⟩ := mem_map.1 hnow
    obtain ⟨hmem, hp⟩ := mem_filter.1 hold
    rw [CommissionPayout.paidBy_id, Table.find?_of_mem hmem, Option.map_some,
      if_pos (of_decide_eq_true hp)]
  · have hstatus := hkept.paidStatus payout hearlier
    rw [hkept.sound.unchanged payout hearlier, Option.map_some, if_neg]
    rintro ⟨_, hreleased⟩
    rw [hstatus] at hreleased
    cases hreleased

theorem earned_paying (now : Timestamp) (payrollId : Uuid) (p : Prop) [Decidable p]
    (old : CommissionPayout) :
    (if p then old.paidBy now payrollId else old).ruleId = old.ruleId ∧ ∀ source : PayoutSource,
        source.Of (if p then old.paidBy now payrollId else old) ↔ source.Of old := by
  by_cases hp : p
  · rw [if_pos hp]
    refine ⟨rfl, fun source => ?_⟩
    cases source with
    | order _ => exact Iff.rfl
    | journalEntry _ => exact Iff.rfl
  · rw [if_neg hp]
    exact ⟨rfl, fun _ => Iff.rfl⟩

theorem linked_paying (hkept : CommissionsKept db) :
    ∀ payout ∈ (db.paying keys dto now released).payouts.rows, ∀ id, payout.payrollId = some id →
        id ∈ (db.paying keys dto now released).payrolls.rows.map CommissionPayroll.id := by
  intro payout hpayout id hstamped
  change id ∈ (db.payrolls.rows ++ [_]).map CommissionPayroll.id
  rw [map_append]
  obtain ⟨old, hold, rfl⟩ := mem_map.1 hpayout
  by_cases hp : old.id ∈ released.map CommissionPayout.id ∧ old.status = .RELEASED
  · rw [if_pos hp] at hstamped
    obtain rfl := Option.some.inj hstamped
    exact mem_append_right _ (mem_singleton_self _)
  · rw [if_neg hp] at hstamped
    exact mem_append_left _ (hkept.linked old hold id hstamped)

theorem amounts_paying (hkept : CommissionsKept db)
    (hnew : tally CommissionPayout.amount released =
      paidTotal (keys.draw (db.payrolls.rows.map CommissionPayroll.id))
        (db.paying keys dto now released)) :
    ∀ payroll ∈ (db.paying keys dto now released).payrolls.rows, payroll.commissionAmount =
        paidTotal payroll.id (db.paying keys dto now released) := by
  intro payroll hpayroll
  rcases mem_append.1 hpayroll with hearlier | hadded
  · have hne : payroll.id ≠ keys.draw (db.payrolls.rows.map CommissionPayroll.id) := by
      intro hsame
      exact keys.draw_fresh _ (mem_map.2 ⟨payroll, hearlier, hsame⟩)
    rw [hkept.sound.amounts payroll hearlier, paidTotal_paying_of_ne hne]
  · obtain rfl := mem_singleton.1 hadded
    exact hnew

theorem paying_iff (hkept : CommissionsKept db)
    (hdistinct : (released.map CommissionPayout.id).Nodup)
    (hstored : ∀ payout ∈ released, ∃ stored, db.payouts.find? payout.id = some stored ∧
      stored.amount = payout.amount) :
    (CommissionsSound (db.paying keys dto now released) → tally CommissionPayout.amount
          (released.filter fun payout => ¬ StillReleased payout.id db) = 0) ∧
      (tally CommissionPayout.amount
          (released.filter fun payout => ¬ StillReleased payout.id db) = 0 →
        CommissionsKept (db.paying keys dto now released)) := by
  let payrollId := keys.draw (db.payrolls.rows.map CommissionPayroll.id)
  have hparts := tally_filter_add_not CommissionPayout.amount
    (fun payout => StillReleased payout.id db) released
  have hpaid : paidTotal payrollId (db.paying keys dto now released) = _ :=
    paidTotal_paying hkept hdistinct hstored
  constructor
  · intro hsound
    have hnew : tally CommissionPayout.amount released = _ := hsound.amounts
      (dto.payroll (tally CommissionPayout.amount released) payrollId)
      (mem_append_right _ (mem_singleton_self _))
    have htotal := hnew.trans hpaid
    omega
  · intro hnothing
    have hnew : tally CommissionPayout.amount released =
        paidTotal payrollId (db.paying keys dto now released) := by
      rw [hpaid]
      omega
    refine ⟨⟨unchanged_paying hkept, ?_, amounts_paying hkept hnew⟩, ?_, linked_paying hkept⟩
    · intro source payout hpayout other hother hof hof' hrule
      obtain ⟨old, hold, rfl⟩ := mem_map.1 hpayout
      obtain ⟨old', hold', rfl⟩ := mem_map.1 hother
      let p := fun payout : CommissionPayout =>
        payout.id ∈ released.map CommissionPayout.id ∧ payout.status = .RELEASED
      obtain ⟨hruleId, hsource⟩ := earned_paying now payrollId (p old) old
      obtain ⟨hruleId', hsource'⟩ := earned_paying now payrollId (p old') old'
      have hsame := hkept.sound.oneEarning source old hold old' hold'
        ((hsource source).1 hof) ((hsource' source).1 hof')
        (hruleId.symm.trans (hrule.trans hruleId'))
      rw [hsame]
    · intro payout hpayout
      rcases mem_append.1 hpayout with hnow | hearlier
      · obtain ⟨old, _, rfl⟩ := mem_map.1 hnow
        rfl
      · exact hkept.paidStatus payout hearlier

end Payroll

/-! ## Runs -/

theorem nodup_releasedFor (earnerUserId : Uuid) (asOf : Timestamp) (db : CommissionDb) :
    ((db.releasedFor earnerUserId asOf).map CommissionPayout.id).Nodup :=
  (filter_sublist.map CommissionPayout.id).nodup db.payouts.keysDistinct

namespace CommissionCall

variable {keys : FreshKeys Uuid} {now : Timestamp} {drafts : List PayoutDraft} {position : ℕ}

theorem earnNext_iff (hkept : CommissionsKept db) :
    (CommissionsSound (earnNext keys now drafts position db) →
        ∀ draft, drafts[position]? = some draft → draft.SameEarner db) ∧
      ((∀ draft, drafts[position]? = some draft → draft.SameEarner db) →
        CommissionsKept (earnNext keys now drafts position db)) := by
  unfold earnNext
  cases hdraft : drafts[position]? with
  | none => exact ⟨fun _ _ hsome => absurd hsome.symm (Option.some_ne_none _), fun _ => hkept⟩
  | some draft =>
      constructor
      · rintro hsound _ ⟨⟩
        exact (earn_iff hkept).1 hsound
      · intro hsame
        exact (earn_iff hkept).2 (hsame draft rfl)

theorem earnNext_persist : PayoutsPersist db (earnNext keys now drafts position db) := by
  unfold earnNext
  cases drafts[position]? with
  | none => exact Std.Refl.refl db
  | some draft => exact PayoutsPersist.earn

end CommissionCall

theorem commissions_step (hkept : CommissionsKept db)
    (hseen : ∀ seen ∈ commissionCalls.seen call, PayoutsPersist seen db) :
    (CommissionsSound (commissionCalls.step call db) → call.FindsTheSame db) ∧
      (call.FindsTheSame db → CommissionsKept (commissionCalls.step call db)) := by
  cases call with
  | earnForOrder keys now reads order position => exact CommissionCall.earnNext_iff hkept
  | earnForJournalPayment keys now reads entry order position =>
      exact CommissionCall.earnNext_iff hkept
  | releaseAfterCollectionForOrder orderId posPaymentMethod timing now =>
      refine ⟨fun _ => trivial, fun _ => ?_⟩
      change CommissionsKept (releaseAfterCollectionForOrder _ _ _ _ db)
      unfold releaseAfterCollectionForOrder
      by_cases hwallet : posPaymentMethod = some .SUBSCRIPTION_WALLET
      · rwa [if_pos hwallet]
      · rw [if_neg hwallet]
        exact (unpaidUpdate_released now fun _ hp => hp.2.1).kept hkept
  | releaseEndOfMonth asOf timing now =>
      exact ⟨fun _ => trivial, fun _ => (unpaidUpdate_released now fun _ hp => hp.1).kept hkept⟩
  | cancelForOrder orderId reason now =>
      exact ⟨fun _ => trivial,
        fun _ => (unpaidUpdate_cancelled now reason fun _ hp => hp.2).kept hkept⟩
  | createPayroll keys actorRole dto now seen =>
      change (CommissionsSound (match createCommissionPayroll keys actorRole dto now seen db with
          | .ok db' => db'
          | .error _ => db) → _) ∧
        (_ → CommissionsKept (match createCommissionPayroll keys actorRole dto now seen db with
          | .ok db' => db'
          | .error _ => db))
      by_cases hrole : MayRunPayroll actorRole
      · rw [createCommissionPayroll_of hrole]
        have hpaying := @paying_iff db keys dto now _ hkept
          (nodup_releasedFor dto.userId dto.paymentDate seen) fun payout hpayout =>
            hseen seen (mem_singleton_self _) payout (mem_filter.1 hpayout).1
        exact ⟨fun hsound _ => hpaying.1 hsound, fun hnothing => hpaying.2 (hnothing hrole)⟩
      · unfold createCommissionPayroll
        rw [if_pos hrole]
        exact ⟨fun _ hmay => absurd hmay hrole, fun _ => hkept⟩

theorem PayoutsPersist.step (call : CommissionCall) (db : CommissionDb) :
    PayoutsPersist db (commissionCalls.step call db) := by
  cases call with
  | earnForOrder keys now reads order position => exact CommissionCall.earnNext_persist
  | earnForJournalPayment keys now reads entry order position =>
      exact CommissionCall.earnNext_persist
  | releaseAfterCollectionForOrder orderId posPaymentMethod timing now =>
      change PayoutsPersist db (releaseAfterCollectionForOrder _ _ _ _ db)
      unfold releaseAfterCollectionForOrder
      by_cases hwallet : posPaymentMethod = some .SUBSCRIPTION_WALLET
      · rw [if_pos hwallet]
        exact Std.Refl.refl db
      · rw [if_neg hwallet]
        exact (unpaidUpdate_released now fun _ hp => hp.2.1).persist
  | releaseEndOfMonth asOf timing now =>
      exact (unpaidUpdate_released now fun _ hp => hp.1).persist
  | cancelForOrder orderId reason now =>
      exact (unpaidUpdate_cancelled now reason fun _ hp => hp.2).persist
  | createPayroll keys actorRole dto now seen =>
      change PayoutsPersist db (match createCommissionPayroll keys actorRole dto now seen db with
        | .ok db' => db'
        | .error _ => db)
      by_cases hrole : MayRunPayroll actorRole
      · rw [createCommissionPayroll_of hrole]
        exact PayoutsPersist.paying
      · unfold createCommissionPayroll
        rw [if_pos hrole]
        exact Std.Refl.refl db

/-- Over every interleaving of earnings, releases, cancellations and payrolls, the payouts are
sound exactly if no earning finds its rule earned by another, and what a payroll has summed and
finds no longer released amounts to nothing. -/
theorem commissionsSound_iff {start : CommissionDb} {calls : List CommissionCall}
    {trace : List CommissionDb} (hstart : CommissionsKept start)
    (hlog : commissionCalls.Log (fun _ _ => True) start calls trace) :
    (∀ db ∈ trace, CommissionsSound db) ↔
      ∀ found ∈ Calls.occurrences calls trace, found.1.FindsTheSame found.2 := by
  have hread := (hlog.of_grows (R := PayoutsPersist) fun call db _ _ => .step call db).1
  apply hread.holds_iff (Q := fun call db => call.FindsTheSame db) hstart
  · intro db hkept
    exact hkept.sound
  · intro call db hkept hseen hsound
    exact (commissions_step hkept hseen.2).1 hsound
  · intro call db hkept hseen hfinds
    exact (commissions_step hkept hseen.2).2 hfinds

namespace Sample

def earned : CommissionDb :=
  ⟨⟨[⟨"payout", "rule", "driver", .SALE, 100, 5, 5, .RELEASED, some "order", none, none, 0,
    some 0, none, none, none⟩], nodup_singleton _⟩, ⟨[], nodup_nil⟩, []⟩

theorem earned_kept : CommissionsKept earned := by
  refine ⟨⟨fun _ hmem => absurd hmem not_mem_nil, ?_,
    fun _ hmem => absurd hmem not_mem_nil⟩, fun _ hmem => absurd hmem not_mem_nil, ?_⟩
  · intro source payout hpayout other hother _ _ _
    rw [mem_singleton.1 hpayout, mem_singleton.1 hother]
  · intro payout hpayout payrollId hstamped
    rw [mem_singleton.1 hpayout] at hstamped
    cases hstamped

def payEarned : CommissionCall := .createPayroll .text .MANAGER ⟨"driver", 7⟩ 7 earned

theorem paid_log : commissionCalls.Log (fun _ _ => True) earned [payEarned]
    [commissionCalls.step payEarned earned, earned] :=
  .call payEarned .start (fun _ hseen => hseen) trivial

def cancelEarned : CommissionCall := .cancelForOrder "order" "returned" 3

theorem cancelled_log : commissionCalls.Log (fun _ _ => True) earned [cancelEarned]
    [commissionCalls.step cancelEarned earned, earned] :=
  .call cancelEarned .start (fun _ hseen => absurd hseen not_mem_nil) trivial

end Sample

theorem commissionsSound_iff_sample :
    CommissionsSound (commissionCalls.step Sample.payEarned Sample.earned) := by
  apply (commissionsSound_iff Sample.earned_kept Sample.paid_log).2 _ _ (mem_cons_self ..)
  intro found hfound
  obtain rfl := mem_singleton.1 hfound
  intro _
  decide +kernel

theorem commissionsSound_fails :
    ¬ ∀ (start : CommissionDb) (calls : List CommissionCall) (trace : List CommissionDb),
      CommissionsKept start → commissionCalls.Log (fun _ _ => True) start calls trace →
      ∀ db ∈ trace, CommissionsSound db := by
  intro hall
  have hsound := hall _ _ _ Sample.earned_kept
    (.call Sample.payEarned Sample.cancelled_log (fun _ hseen => .tail _ hseen) trivial) _
    (mem_cons_self ..)
  have hamounts := hsound.amounts
  revert hamounts
  decide +kernel

end SafariLaundry
