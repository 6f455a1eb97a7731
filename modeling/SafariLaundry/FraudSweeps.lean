import SafariLaundry.ExpensesSummary
import SafariLaundry.CanonicalProjection

/-!
# Sweeps for fraud

A sweep reads what the ledger and the journal hold since the beginning of its window, groups it by
order or by actor, and inserts an alert for every group over a threshold.  The fingerprint of an
alert has the day of the sweep in it and is unique, so that a second sweep of the day inserts no
second alert.
-/

namespace SafariLaundry.FraudSweeps

open Library Library.Bookkeeping Library.KeyedFold List

/-- A column of type `uuid` holds no bar. -/
def Plain (id : Option Uuid) : Prop :=
  ∀ text ∈ id, '|' ∉ text.toList
  deriving Decidable

structure LedgerRow where
  entryType : GeneralLedgerEntryType
  (customerId orderId actorUserId : Option Uuid)
  createdAt : Timestamp
  plain : Plain customerId ∧ Plain orderId ∧ Plain actorUserId

structure JournalRow where
  source : String
  (customerId orderId : Option Uuid)
  createdAt : Timestamp
  lines : List (String × ℤ)
  plain : Plain customerId ∧ Plain orderId

structure OrderRow where
  id : Uuid
  canceled : Bool
  customerId : Uuid
  totalPrice : ℤ
  (createdAt updatedAt : Timestamp)
  plain : Plain (some id) ∧ Plain (some customerId)

/-- What the sweeps read. -/
structure Content where
  ledger : List LedgerRow
  journal : List JournalRow
  orders : List OrderRow

inductive FraudAlertSeverity where
  | MEDIUM
  | HIGH

inductive Payload where
  | rapidReversals (orderId : Uuid) (reversalCount pairsWithinHour : ℕ)
  | repeatedPayments (orderId : Uuid) (attemptCount : ℕ)
  | suspiciousRefund (orderId : Uuid) (amountKd : String) (invoiceAgeDays : ℤ)
  | paymentSplitting (orderId : Uuid) (smallPaymentCount : ℕ)
  | excessiveWalletAdj (adjCount uniqueCustomers : ℕ)

structure FraudAlert where
  type : String
  severity : FraudAlertSeverity
  (customerId actorId : Option Uuid)
  fingerprint : String
  payload : Payload

def Payload.orderId : Payload → Option Uuid
  | .rapidReversals orderId _ _ => some orderId
  | .repeatedPayments orderId _ => some orderId
  | .suspiciousRefund orderId _ _ => some orderId
  | .paymentSplitting orderId _ => some orderId
  | .excessiveWalletAdj _ _ => none

def FraudAlert.subject (alert : FraudAlert) : Option Uuid :=
  alert.payload.orderId.or alert.actorId

/-- The first ten characters that `toISOString` prints. -/
def dayKey (now : Timestamp) : String :=
  let day := (now : ℤ) / 86400000
  let year := Calendar.yearOf day
  let digits := if year ≤ 9999 then padDigits 4 year else '+' :: padDigits 6 year
  String.ofList ((digits ++ '-' :: padDigits 2 (Calendar.monthOf day % 12 + 1) ++
    '-' :: padDigits 2 (Calendar.dateOf day)).take 10)

variable (sha256Hex : String → String)

def fingerprint (parts : List (Option String)) : String :=
  sha256Hex ("v20_5|" ++ "|".intercalate (parts.map fun p => p.getD ""))

def tryInsert (table : List FraudAlert) (alert : FraudAlert) : List FraudAlert × Bool :=
  (post FraudAlert.fingerprint table alert,
    decide ¬ Posted FraudAlert.fingerprint table alert.fingerprint)

inductive About where
  | order
  | actor
  deriving DecidableEq

/-- A detector that groups its rows.  `Meets` is the threshold as it is documented, on any rows of
a group; the fields below it say that a group with such rows in it triggers. -/
structure Detector (ρ : Type) where
  type : String
  about : About
  Wanted : ρ → Prop
  decidesWanted : DecidablePred Wanted
  createdAt : ρ → Timestamp
  (keyOf customerOf : ρ → Option Uuid)
  arrange : List ρ → List ρ
  Triggers : List ρ → Prop
  decidesTriggers : DecidablePred Triggers
  severity : List ρ → FraudAlertSeverity
  payload : Uuid → List ρ → Payload
  Meets : List ρ → Prop
  type_plain : '|' ∉ type.toList
  about_of_type : about = .actor ↔ type = "EXCESSIVE_WALLET_ADJ"
  payload_orderId : ∀ key list,
    (payload key list).orderId = if about = .order then some key else none
  keyOf_plain : ∀ row, Plain (keyOf row)
  customerOf_plain : ∀ row, Plain (customerOf row)
  triggers_of_meets : ∀ {some all}, some.Subperm all → Meets some → Triggers (arrange all)
  ne_nil_of_meets : ∀ {rows}, Meets rows → rows ≠ []

/-- What a detector of a sweep finds: the clock when it begins, the order in which its rows come,
and the clock when it makes the fingerprint of a group. -/
structure Run (ρ : Type) where
  now : Timestamp
  order : RowOrder ρ
  keyTime : Uuid → Timestamp

section Detect

variable {ρ : Type} (d : Detector ρ) (windowMs : ℕ) (run : Run ρ) (rows : List ρ)

instance : DecidablePred d.Wanted := d.decidesWanted

instance : DecidablePred d.Triggers := d.decidesTriggers

namespace Detector

def seen : List ρ :=
  run.order.arrange (rows.filter fun row =>
    d.Wanted row ∧ run.now ≤ d.createdAt row + windowMs)

def group (key : Uuid) : List ρ :=
  d.arrange ((d.seen windowMs run rows).filter fun row => d.keyOf row = some key)

def customer (list : List ρ) : Option Uuid :=
  list.head?.bind d.customerOf

/-- The two parts of a fingerprint between the type and the day. -/
def parts (key : Uuid) (list : List ρ) : Option Uuid × Option Uuid :=
  match d.about with
  | .order => (d.customer list, some key)
  | .actor => (some key, some "")

def alert (key : Uuid) (list : List ρ) (keyTime : Timestamp) : FraudAlert where
  type := d.type
  severity := d.severity list
  customerId := match d.about with
    | .order => d.customer list
    | .actor => none
  actorId := match d.about with
    | .order => none
    | .actor => some key
  fingerprint := fingerprint sha256Hex
    [some d.type, (d.parts key list).1, (d.parts key list).2, some (dayKey keyTime)]
  payload := d.payload key list

def detect : List FraudAlert :=
  (collectSome Accumulation.rows d.keyOf (d.seen windowMs run rows)).rows.filterMap fun entry =>
    let list := d.arrange entry.2
    if d.Triggers list then some (d.alert sha256Hex entry.1 list (run.keyTime entry.1)) else none

end Detector

end Detect

/-! ## The detectors of the service -/

def pairsWithinHour : List LedgerRow → ℕ
  | [] => 0
  | [_] => 0
  | first :: second :: rest =>
      (if second.createdAt ≤ first.createdAt + 60 * 60 * 1000 then 1 else 0) +
        pairsWithinHour (second :: rest)

def byTime (list : List LedgerRow) : List LedgerRow :=
  list.insertionSort fun a b => a.createdAt ≤ b.createdAt

def keyOrNone (id : Option Uuid) : Option Uuid :=
  id.filter fun text => text ≠ ""

def TwoWithinHour (rows : List LedgerRow) : Prop :=
  ∃ first second, [first, second].Subperm rows ∧ first.createdAt ≤ second.createdAt ∧
    second.createdAt ≤ first.createdAt + 60 * 60 * 1000

def WithinDay {ρ : Type} (createdAt : ρ → Timestamp) (rows : List ρ) : Prop :=
  ∀ first ∈ rows, ∀ second ∈ rows, createdAt second ≤ createdAt first + 24 * 60 * 60 * 1000

def JournalRow.amount (row : JournalRow) : ℤ :=
  tally Prod.snd (row.lines.filter fun line => line.1 = "1300")

def JournalRow.Small (row : JournalRow) : Prop :=
  row.amount < 10 * 10000
  deriving Decidable

def JournalRow.IsPayment (row : JournalRow) : Prop :=
  row.source = "PAYMENT" ∧ row.orderId ≠ none
  deriving Decidable

theorem Plain.keyOrNone {id : Option Uuid} (hplain : Plain id) : Plain (keyOrNone id) := by
  intro text htext
  exact hplain text (Option.mem_filter_iff.1 htext).1

theorem pairsWithinHour_cons_le (first : LedgerRow) (rest : List LedgerRow) :
    pairsWithinHour rest ≤ pairsWithinHour (first :: rest) := by
  cases rest with
  | nil => exact Nat.zero_le _
  | cons second rest =>
      rw [pairsWithinHour]
      omega

theorem pairsWithinHour_pos {list : List LedgerRow}
    (hsorted : list.Pairwise fun a b => a.createdAt ≤ b.createdAt) {first second : LedgerRow}
    (hsublist : [first, second].Sublist list)
    (hclose : second.createdAt ≤ first.createdAt + 60 * 60 * 1000) : 0 < pairsWithinHour list := by
  induction list with
  | nil => cases hsublist
  | cons row rest ih =>
      rw [pairwise_cons] at hsorted
      cases hsublist with
      | cons _ hrest => exact (ih hsorted.2 hrest).trans_le (pairsWithinHour_cons_le row rest)
      | cons_cons _ hrest =>
          have hmem := singleton_sublist.1 hrest
          cases rest with
          | nil => cases hmem
          | cons next rest =>
              have hnext : next.createdAt ≤ second.createdAt := by
                rcases mem_cons.1 hmem with rfl | hlater
                · exact le_rfl
                · exact (pairwise_cons.1 hsorted.2).1 second hlater
              rw [pairsWithinHour, if_pos (hnext.trans hclose)]
              omega

theorem pairsWithinHour_byTime {rows list : List LedgerRow} (hsubperm : rows.Subperm list)
    (hmeets : TwoWithinHour rows) :
    2 ≤ (byTime list).length ∧ 0 < pairsWithinHour (byTime list) := by
  obtain ⟨first, second, hpair, horder, hclose⟩ := hmeets
  have hlist : [first, second].Subperm (byTime list) :=
    (hpair.trans hsubperm).trans (perm_insertionSort _ _).symm.subperm
  have hsorted : (byTime list).Pairwise fun a b => a.createdAt ≤ b.createdAt :=
    pairwise_insertionSort ..
  refine ⟨hlist.length_le, ?_⟩
  obtain ⟨pair, hperm, hsublist⟩ := hlist
  rcases perm_pair.1 hperm with rfl | rfl
  · exact pairsWithinHour_pos hsorted hsublist hclose
  · exact pairsWithinHour_pos hsorted hsublist (horder.trans (Nat.le_add_right _ _))

def rapidReversals : Detector LedgerRow where
  type := "RAPID_REVERSALS"
  about := .order
  Wanted row := row.entryType = .DEBT_ADJUSTMENT ∨ row.entryType = .WALLET_SETTLEMENT
  decidesWanted _ := inferInstance
  createdAt := LedgerRow.createdAt
  keyOf row := keyOrNone row.orderId
  customerOf := LedgerRow.customerId
  arrange := byTime
  Triggers list := 2 ≤ list.length ∧ 0 < pairsWithinHour list
  decidesTriggers _ := inferInstance
  severity list := if 3 ≤ pairsWithinHour list then .HIGH else .MEDIUM
  payload orderId list := .rapidReversals orderId list.length (pairsWithinHour list)
  Meets := TwoWithinHour
  type_plain := by decide
  about_of_type := by decide
  payload_orderId _ _ := rfl
  keyOf_plain row := row.plain.2.1.keyOrNone
  customerOf_plain row := row.plain.1
  triggers_of_meets := pairsWithinHour_byTime
  ne_nil_of_meets := by
    rintro rows ⟨first, second, hpair, -⟩ rfl
    exact absurd hpair.length_le (by simp)

def repeatedPayments : Detector JournalRow where
  type := "REPEATED_PAYMENT_ATTEMPTS"
  about := .order
  Wanted := JournalRow.IsPayment
  decidesWanted := inferInstance
  createdAt := JournalRow.createdAt
  keyOf row := keyOrNone row.orderId
  customerOf := JournalRow.customerId
  arrange := id
  Triggers list := 5 ≤ list.length
  decidesTriggers _ := inferInstance
  severity list := if 10 ≤ list.length then .HIGH else .MEDIUM
  payload orderId list := .repeatedPayments orderId list.length
  Meets rows := 5 ≤ rows.length ∧ WithinDay JournalRow.createdAt rows
  type_plain := by decide
  about_of_type := by decide
  payload_orderId _ _ := rfl
  keyOf_plain row := row.plain.2.keyOrNone
  customerOf_plain row := row.plain.1
  triggers_of_meets hsubperm hmeets := le_trans hmeets.1 hsubperm.length_le
  ne_nil_of_meets hmeets := ne_nil_of_length_pos (lt_of_lt_of_le (by decide) hmeets.1)

def paymentSplitting : Detector JournalRow where
  type := "PAYMENT_SPLITTING"
  about := .order
  Wanted := JournalRow.IsPayment
  decidesWanted := inferInstance
  createdAt := JournalRow.createdAt
  keyOf row := keyOrNone row.orderId
  customerOf := JournalRow.customerId
  arrange := id
  Triggers list := 4 ≤ (list.filter fun row => row.Small).length
  decidesTriggers _ := inferInstance
  severity _ := .MEDIUM
  payload orderId list := .paymentSplitting orderId (list.filter fun row => row.Small).length
  Meets rows := 4 ≤ (rows.filter fun row => row.Small).length ∧ WithinDay JournalRow.createdAt rows
  type_plain := by decide
  about_of_type := by decide
  payload_orderId _ _ := rfl
  keyOf_plain row := row.plain.2.keyOrNone
  customerOf_plain row := row.plain.1
  triggers_of_meets hsubperm hmeets := le_trans hmeets.1 (hsubperm.filter _).length_le
  ne_nil_of_meets hmeets := ne_nil_of_length_pos (lt_of_lt_of_le (by decide)
    (hmeets.1.trans (length_filter_le ..)))

def excessiveWalletAdj : Detector LedgerRow where
  type := "EXCESSIVE_WALLET_ADJ"
  about := .actor
  Wanted row := row.entryType = .WALLET_SETTLEMENT
  decidesWanted _ := inferInstance
  createdAt := LedgerRow.createdAt
  keyOf row := keyOrNone row.actorUserId
  customerOf := LedgerRow.customerId
  arrange := id
  Triggers list := 3 ≤ list.length
  decidesTriggers _ := inferInstance
  severity list := if 6 ≤ list.length then .HIGH else .MEDIUM
  payload _ list := .excessiveWalletAdj list.length
    (list.filterMap fun row => keyOrNone row.customerId).eraseDups.length
  Meets rows := 3 ≤ rows.length ∧ WithinDay LedgerRow.createdAt rows
  type_plain := by decide
  about_of_type := by decide
  payload_orderId _ _ := rfl
  keyOf_plain row := row.plain.2.2.keyOrNone
  customerOf_plain row := row.plain.1
  triggers_of_meets hsubperm hmeets := le_trans hmeets.1 hsubperm.length_le
  ne_nil_of_meets hmeets := ne_nil_of_length_pos (lt_of_lt_of_le (by decide) hmeets.1)

structure Sweep where
  reversals : Run LedgerRow
  payments : Run JournalRow
  refunds : Run OrderRow
  splitting : Run JournalRow
  wallets : Run LedgerRow

section Sweeps

variable (content : Content) (windowMs : ℕ) (sweep : Sweep)

def detectRapidReversals : List FraudAlert :=
  rapidReversals.detect sha256Hex windowMs sweep.reversals content.ledger

def detectRepeatedPayments : List FraudAlert :=
  repeatedPayments.detect sha256Hex windowMs sweep.payments content.journal

def detectSuspiciousRefunds : List FraudAlert :=
  (sweep.refunds.order.arrange (content.orders.filter fun o =>
    o.canceled = true ∧ sweep.refunds.now ≤ o.updatedAt + windowMs)).filterMap fun o =>
      let ageMs : ℤ := o.updatedAt - o.createdAt
      if o.totalPrice < 200 * 10000 ∨ 30 * 24 * 60 * 60 * 1000 < ageMs then none
      else
        some
          { type := "SUSPICIOUS_REFUND"
            severity := .HIGH
            customerId := some o.customerId
            actorId := none
            fingerprint := fingerprint sha256Hex
              [some "SUSPICIOUS_REFUND", some o.customerId, some o.id, some ""]
            payload := .suspiciousRefund o.id (minorToAmountString o.totalPrice)
              (ageMs / (24 * 60 * 60 * 1000)) }

def detectPaymentSplitting : List FraudAlert :=
  paymentSplitting.detect sha256Hex windowMs sweep.splitting content.journal

def detectExcessiveWalletAdj : List FraudAlert :=
  excessiveWalletAdj.detect sha256Hex windowMs sweep.wallets content.ledger

def runAll : List FraudAlert :=
  detectRapidReversals sha256Hex content windowMs sweep ++
    detectRepeatedPayments sha256Hex content windowMs sweep ++
    detectSuspiciousRefunds sha256Hex content windowMs sweep ++
    detectPaymentSplitting sha256Hex content windowMs sweep ++
    detectExcessiveWalletAdj sha256Hex content windowMs sweep

end Sweeps

section Bursts

variable {ρ : Type} (d : Detector ρ) {windowMs : ℕ} {run : Run ρ} {rows : List ρ}

structure Detector.IsBurst (rows : List ρ) (key : Uuid) (burst : List ρ) : Prop where
  there : burst.Subperm (rows.filter fun row => d.Wanted row)
  keyed : ∀ row ∈ burst, d.keyOf row = some key
  meets : d.Meets burst

def Detector.Sees (windowMs : ℕ) (run : Run ρ) (burst : List ρ) : Prop :=
  ∀ row ∈ burst, run.now ≤ d.createdAt row + windowMs

variable {d}

theorem Detector.IsBurst.subperm_group {key : Uuid} {burst : List ρ}
    (hburst : d.IsBurst rows key burst) (hsees : d.Sees windowMs run burst) :
    burst.Subperm ((d.seen windowMs run rows).filter fun row => d.keyOf row = some key) := by
  have hkept : burst.filter (fun row => decide (run.now ≤ d.createdAt row + windowMs ∧
      d.keyOf row = some key)) = burst := by
    rw [filter_eq_self]
    intro row hrow
    exact decide_eq_true ⟨hsees row hrow, hburst.keyed row hrow⟩
  have hgroup : ((d.seen windowMs run rows).filter fun row => d.keyOf row = some key).Perm
      ((rows.filter fun row => d.Wanted row).filter fun row =>
        run.now ≤ d.createdAt row + windowMs ∧ d.keyOf row = some key) := by
    refine ((run.order.perm _).filter _).trans (List.Perm.of_eq ?_)
    rw [filter_filter, filter_filter]
    apply filter_congr
    intro row _
    simp only [Bool.decide_and]
    ac_rfl
  have hfiltered := hburst.there.filter (fun row =>
    decide (run.now ≤ d.createdAt row + windowMs ∧ d.keyOf row = some key))
  rw [hkept] at hfiltered
  exact hfiltered.trans hgroup.symm.subperm

theorem Detector.IsBurst.triggers {key : Uuid} {burst : List ρ}
    (hburst : d.IsBurst rows key burst) (hsees : d.Sees windowMs run burst) :
    d.Triggers (d.group windowMs run rows key) :=
  d.triggers_of_meets (hburst.subperm_group hsees) hburst.meets

theorem Detector.mem_detect {alert : FraudAlert} :
    alert ∈ d.detect sha256Hex windowMs run rows ↔
      ∃ key, (∃ row ∈ d.seen windowMs run rows, d.keyOf row = some key) ∧
        d.Triggers (d.group windowMs run rows key) ∧
        alert = d.alert sha256Hex key (d.group windowMs run rows key) (run.keyTime key) := by
  have hentry : ∀ entry : Uuid × List ρ,
      entry ∈ (collectSome Accumulation.rows d.keyOf (d.seen windowMs run rows)).rows ↔
        (∃ row ∈ d.seen windowMs run rows, d.keyOf row = some entry.1) ∧
          entry.2 = (d.seen windowMs run rows).filter fun row => d.keyOf row = some entry.1 := by
    intro entry
    rw [mem_collectSome, Accumulation.made_rows]
    by_cases hnone : ((d.seen windowMs run rows).filter fun row =>
        decide (d.keyOf row = some entry.1)) = []
    · rw [if_pos hnone]
      rw [filter_eq_nil_iff] at hnone
      simp only [decide_eq_true_eq] at hnone
      exact iff_of_false nofun fun ⟨⟨row, hrow, hkey⟩, _⟩ => hnone row hrow hkey
    · rw [if_neg hnone, Option.some_inj]
      obtain ⟨row, hrow⟩ := exists_mem_of_ne_nil _ hnone
      obtain ⟨hrow, hkey⟩ := mem_filter.1 hrow
      exact ⟨fun hlist => ⟨⟨row, hrow, of_decide_eq_true hkey⟩, hlist.symm⟩, fun h => h.2.symm⟩
  unfold Detector.detect
  simp only [mem_filterMap, hentry, Option.ite_none_right_eq_some, Option.some_inj]
  constructor
  · rintro ⟨⟨key, list⟩, ⟨hrow, hlist⟩, htriggers, rfl⟩
    change list = (d.seen windowMs run rows).filter fun row => d.keyOf row = some key at hlist
    subst hlist
    exact ⟨key, hrow, htriggers, rfl⟩
  · rintro ⟨key, hrow, htriggers, rfl⟩
    exact ⟨⟨key, _⟩, ⟨hrow, rfl⟩, htriggers, rfl⟩

theorem Detector.customer_plain (list : List ρ) : Plain (d.customer list) := by
  intro text htext
  obtain ⟨row, _, hcustomer⟩ := Option.bind_eq_some_iff.1 htext
  exact d.customerOf_plain row text hcustomer

end Bursts

theorem bar_inj {first first' rest rest' : List Char} (hfirst : '|' ∉ first)
    (hfirst' : '|' ∉ first') (hsame : first ++ '|' :: rest = first' ++ '|' :: rest') :
    first = first' ∧ rest = rest' := by
  induction first generalizing first' with
  | nil =>
      cases first' with
      | nil => exact ⟨rfl, (List.cons.inj hsame).2⟩
      | cons c first' => exact absurd (mem_cons.2 (.inl (List.cons.inj hsame).1)) hfirst'
  | cons c first ih =>
      cases first' with
      | nil =>
          obtain ⟨rfl, -⟩ := List.cons.inj hsame
          exact absurd (mem_cons_self ..) hfirst
      | cons c' first' =>
          rw [cons_append, cons_append, List.cons.injEq] at hsame
          obtain ⟨rfl, hlater⟩ := hsame
          obtain ⟨rfl, hrest⟩ := ih (fun h => hfirst (mem_cons_of_mem c h))
            (fun h => hfirst' (mem_cons_of_mem c h)) hlater
          exact ⟨rfl, hrest⟩

/-- The text of a fingerprint tells its parts. -/
theorem fingerprint_inj {type type' : String}
    {first second first' second' : Option Uuid} {day day' : String} (htype : '|' ∉ type.toList)
    (htype' : '|' ∉ type'.toList) (hfirst : Plain first) (hfirst' : Plain first')
    (hsecond : Plain second) (hsecond' : Plain second')
    (hsame : fingerprint id [some type, first, second, some day] =
      fingerprint id [some type', first', second', some day']) :
    type = type' ∧ first.getD "" = first'.getD "" ∧ second.getD "" = second'.getD "" ∧
      day = day' := by
  have hplain : ∀ id : Option Uuid, Plain id → '|' ∉ (id.getD "").toList := by
    intro id hid
    cases id with
    | none => exact not_mem_nil
    | some text => exact hid text rfl
  have hchars := congrArg String.toList hsame
  have hwritten : ∀ type first second day : String,
      ("v20_5|" ++ "|".intercalate [type, first, second, day]).toList =
        "v20_5|".toList ++ (type.toList ++ '|' :: (first.toList ++ '|' ::
          (second.toList ++ '|' :: day.toList))) := by
    intro type first second day
    simp
  simp only [fingerprint, id_eq, map_cons, map_nil, Option.getD_some, hwritten] at hchars
  obtain ⟨htypes, hrest⟩ := bar_inj htype htype' (append_cancel_left hchars)
  obtain ⟨hfirsts, hrest⟩ := bar_inj (hplain first hfirst) (hplain first' hfirst') hrest
  obtain ⟨hseconds, hdays⟩ := bar_inj (hplain second hsecond) (hplain second' hsecond') hrest
  exact ⟨String.toList_injective htypes, String.toList_injective hfirsts,
    String.toList_injective hseconds, String.toList_injective hdays⟩

/-- An alert whose fingerprint is still the text to hash. -/
def Genuine (alert : FraudAlert) : Prop :=
  ∃ first second day subject, '|' ∉ alert.type.toList ∧ Plain first ∧ Plain second ∧
    alert.fingerprint = fingerprint id [some alert.type, first, second, some day] ∧
    alert.subject = some subject ∧
    (if alert.type = "EXCESSIVE_WALLET_ADJ" then first else second) = some subject

theorem Genuine.same {alert other : FraudAlert} (halert : Genuine alert) (hother : Genuine other)
    (hsame : alert.fingerprint = other.fingerprint) :
    alert.type = other.type ∧ alert.subject = other.subject := by
  obtain ⟨first, second, day, id, htype, hfirst, hsecond, hfingerprint, hsubject, hid⟩ := halert
  obtain ⟨first', second', day', id', htype', hfirst', hsecond', hfingerprint', hsubject', hid'⟩ :=
    hother
  rw [hfingerprint, hfingerprint'] at hsame
  obtain ⟨htypes, hfirsts, hseconds, -⟩ :=
    fingerprint_inj htype htype' hfirst hfirst' hsecond hsecond' hsame
  refine ⟨htypes, ?_⟩
  rw [hsubject, hsubject']
  rw [htypes] at hid
  split_ifs at hid hid'
  · simpa [hid, hid'] using hfirsts
  · simpa [hid, hid'] using hseconds

section Genuine

variable {ρ : Type} {d : Detector ρ} {windowMs : ℕ} {run : Run ρ} {rows : List ρ}

theorem Detector.plain_parts {key : Uuid} (hkey : Plain (some key)) (list : List ρ) :
    Plain (d.parts key list).1 ∧ Plain (d.parts key list).2 := by
  unfold Detector.parts
  cases d.about with
  | order => exact ⟨d.customer_plain list, hkey⟩
  | actor =>
      refine ⟨hkey, fun text htext => ?_⟩
      cases htext
      exact not_mem_nil

@[simp] theorem Detector.subject_alert (key : Uuid) (list : List ρ) (keyTime : Timestamp) :
    (d.alert sha256Hex key list keyTime).subject = some key := by
  unfold FraudAlert.subject Detector.alert
  dsimp only
  rw [d.payload_orderId]
  cases d.about <;> rfl

theorem Detector.genuine_of_mem {alert : FraudAlert}
    (hmem : alert ∈ d.detect id windowMs run rows) : Genuine alert := by
  obtain ⟨key, ⟨row, _, hkey⟩, _, rfl⟩ := (Detector.mem_detect id).1 hmem
  have hplain : Plain (some key) := hkey ▸ d.keyOf_plain row
  obtain ⟨hfirst, hsecond⟩ := Detector.plain_parts (d := d) hplain (d.group windowMs run rows key)
  refine ⟨_, _, _, key, d.type_plain, hfirst, hsecond, rfl, Detector.subject_alert .., ?_⟩
  have habout := d.about_of_type
  unfold Detector.alert Detector.parts
  dsimp only
  cases hcase : d.about with
  | order =>
      rw [hcase] at habout
      rw [if_neg (fun htype => nomatch habout.2 htype)]
  | actor => rw [if_pos (habout.1 hcase)]

end Genuine

def FraudAlert.hashed (alert : FraudAlert) : FraudAlert :=
  { alert with fingerprint := sha256Hex alert.fingerprint }

theorem Detector.detect_eq {ρ : Type} (d : Detector ρ) (windowMs : ℕ) (run : Run ρ)
    (rows : List ρ) :
    d.detect sha256Hex windowMs run rows =
      (d.detect id windowMs run rows).map (FraudAlert.hashed sha256Hex) := by
  unfold Detector.detect
  rw [map_filterMap]
  congr 1
  funext entry
  by_cases htriggers : d.Triggers (d.arrange entry.2)
  · simp only [if_pos htriggers]
    rfl
  · simp only [if_neg htriggers]
    rfl

theorem detectSuspiciousRefunds_eq (content : Content) (windowMs : ℕ) (sweep : Sweep) :
    detectSuspiciousRefunds sha256Hex content windowMs sweep =
      (detectSuspiciousRefunds id content windowMs sweep).map (FraudAlert.hashed sha256Hex) := by
  unfold detectSuspiciousRefunds
  rw [map_filterMap]
  congr 1
  funext o
  by_cases hskipped : o.totalPrice < 200 * 10000 ∨
      30 * 24 * 60 * 60 * 1000 < (o.updatedAt - o.createdAt : ℤ)
  · simp only [if_pos hskipped]
    rfl
  · simp only [if_neg hskipped]
    rfl

/-- A sweep hashes the texts of its alerts, and does nothing else with the digest. -/
theorem runAll_eq (content : Content) (windowMs : ℕ) (sweep : Sweep) :
    runAll sha256Hex content windowMs sweep =
      (runAll id content windowMs sweep).map (FraudAlert.hashed sha256Hex) := by
  simp only [runAll, detectRapidReversals, detectRepeatedPayments, detectPaymentSplitting,
    detectExcessiveWalletAdj, Detector.detect_eq sha256Hex, detectSuspiciousRefunds_eq sha256Hex,
    map_append]

/-! ## Runs of sweeps -/

structure Watch where
  Row : Type
  detector : Detector Row
  rows : Content → List Row
  runOf : Sweep → Run Row

def watches : List Watch :=
  [⟨LedgerRow, rapidReversals, Content.ledger, Sweep.reversals⟩,
    ⟨JournalRow, repeatedPayments, Content.journal, Sweep.payments⟩,
    ⟨JournalRow, paymentSplitting, Content.journal, Sweep.splitting⟩,
    ⟨LedgerRow, excessiveWalletAdj, Content.ledger, Sweep.wallets⟩]

/-- The table after the attempts of any sweeps, in the order in which the database serves them. -/
def tryInsertAll (log : List FraudAlert) : List FraudAlert :=
  log.foldl (fun table alert => (tryInsert table alert).1) []

section Runs

variable (content : Content) (windowMs : ℕ) (sweeps : List Sweep)

namespace Watch

variable (w : Watch)

def group (sweep : Sweep) (key : Uuid) : List w.Row :=
  w.detector.group windowMs (w.runOf sweep) (w.rows content) key

def alert (sweep : Sweep) (key : Uuid) : FraudAlert :=
  w.detector.alert sha256Hex key (w.group content windowMs sweep key) ((w.runOf sweep).keyTime key)

def IsBurst (key : Uuid) (burst : List w.Row) : Prop :=
  w.detector.IsBurst (w.rows content) key burst

def Sees (sweep : Sweep) (burst : List w.Row) : Prop :=
  w.detector.Sees windowMs (w.runOf sweep) burst

def Raised (key : Uuid) (burst : List w.Row) (alert : FraudAlert) : Prop :=
  ∃ sweep ∈ sweeps, w.Sees windowMs sweep burst ∧
    alert.fingerprint = (w.alert sha256Hex content windowMs sweep key).fingerprint

def ShowsOnce (table : List FraudAlert) (key : Uuid) (burst : List w.Row) : Prop :=
  (∀ alert ∈ table, ∀ other ∈ table, w.Raised sha256Hex content windowMs sweeps key burst alert →
        w.Raised sha256Hex content windowMs sweeps key burst other → alert = other) ∧
    ∀ sweep ∈ sweeps, w.Sees windowMs sweep burst →
      ∃ alert ∈ table, alert.type = w.detector.type ∧ alert.subject = some key ∧
        w.Raised sha256Hex content windowMs sweeps key burst alert

def SameParts (key : Uuid) (first second : Sweep) : Prop :=
  dayKey ((w.runOf first).keyTime key) = dayKey ((w.runOf second).keyTime key) ∧
    (w.detector.about = .order →
      (w.detector.customer (w.group content windowMs first key)).getD "" =
        (w.detector.customer (w.group content windowMs second key)).getD "")

end Watch

def EveryBurstOnce (table : List FraudAlert) : Prop :=
  ∀ w ∈ watches, ∀ key burst, w.IsBurst content key burst →
    w.ShowsOnce sha256Hex content windowMs sweeps table key burst

/-- The digest takes no two texts that the sweeps hash for one. -/
def CollisionFree : Prop :=
  ∀ first ∈ sweeps.flatMap (runAll id content windowMs),
    ∀ second ∈ sweeps.flatMap (runAll id content windowMs),
      sha256Hex first.fingerprint = sha256Hex second.fingerprint →
        first.fingerprint = second.fingerprint

def Steady : Prop :=
  ∀ w ∈ watches, ∀ key burst, w.IsBurst content key burst →
    ∀ first ∈ sweeps, ∀ second ∈ sweeps, w.Sees windowMs first burst →
      w.Sees windowMs second burst → w.SameParts content windowMs key first second

variable {sha256Hex content windowMs sweeps}

theorem tryInsertAll_eq (log : List FraudAlert) :
    tryInsertAll log = postAll FraudAlert.fingerprint [] log := rfl

variable {alert : FraudAlert}

theorem mem_log_of_mem {log : List FraudAlert} (hmem : alert ∈ tryInsertAll log) : alert ∈ log := by
  rw [tryInsertAll_eq] at hmem
  exact (mem_or_of_mem_postAll _ hmem).resolve_left not_mem_nil

theorem eq_of_fingerprint {log : List FraudAlert} {other : FraudAlert}
    (halert : alert ∈ tryInsertAll log) (hother : other ∈ tryInsertAll log)
    (hsame : alert.fingerprint = other.fingerprint) : alert = other := by
  rw [tryInsertAll_eq] at halert hother
  have hnodup : ((postAll FraudAlert.fingerprint [] log).map FraudAlert.fingerprint).Nodup :=
    nodup_postAll _ (by simp) log
  exact inj_on_of_nodup_map hnodup halert hother hsame

theorem exists_fingerprint {log : List FraudAlert} (hmem : alert ∈ log) :
    ∃ stored ∈ tryInsertAll log, stored.fingerprint = alert.fingerprint := by
  rw [tryInsertAll_eq]
  exact (posted_postAll _ [] log alert.fingerprint).2 (.inr ⟨alert, hmem, rfl⟩)

theorem mem_runAll {sweep : Sweep} :
    alert ∈ runAll sha256Hex content windowMs sweep ↔ (∃ w ∈ watches, alert ∈
        w.detector.detect sha256Hex windowMs (w.runOf sweep) (w.rows content)) ∨
      alert ∈ detectSuspiciousRefunds sha256Hex content windowMs sweep := by
  simp only [runAll, watches, mem_append, mem_cons, not_mem_nil, or_false,
    exists_eq_or_imp, exists_eq_left, detectRapidReversals, detectRepeatedPayments,
    detectPaymentSplitting, detectExcessiveWalletAdj]
  tauto

theorem genuine_of_mem_detectSuspiciousRefunds {sweep : Sweep}
    (hmem : alert ∈ detectSuspiciousRefunds id content windowMs sweep) :
    Genuine alert := by
  obtain ⟨o, _, ho⟩ := mem_filterMap.1 hmem
  dsimp only at ho
  split_ifs at ho
  cases ho
  have htype : '|' ∉ "SUSPICIOUS_REFUND".toList := by decide
  exact ⟨_, _, _, o.id, htype, o.plain.2, o.plain.1, rfl, rfl, rfl⟩

theorem genuine_of_mem_runAll {sweep : Sweep}
    (hmem : alert ∈ runAll id content windowMs sweep) : Genuine alert := by
  rcases mem_runAll.1 hmem with ⟨w, _, hdetect⟩ | hrefund
  · exact w.detector.genuine_of_mem hdetect
  · exact genuine_of_mem_detectSuspiciousRefunds hrefund

namespace Watch

variable {w : Watch} {key : Uuid} {burst : List w.Row} {first second sweep : Sweep}

theorem IsBurst.plain (hburst : w.IsBurst content key burst) : Plain (some key) := by
  obtain ⟨row, hrow⟩ := exists_mem_of_ne_nil _ (w.detector.ne_nil_of_meets hburst.meets)
  exact hburst.keyed row hrow ▸ w.detector.keyOf_plain row

theorem IsBurst.mem_runAll (hw : w ∈ watches) (hburst : w.IsBurst content key burst)
    (hsees : w.Sees windowMs sweep burst) :
    w.alert id content windowMs sweep key ∈ runAll id content windowMs sweep := by
  refine FraudSweeps.mem_runAll.2 (.inl ⟨w, hw, ?_⟩)
  refine (Detector.mem_detect id).2 ⟨key, ?_, ?_, rfl⟩
  · obtain ⟨row, hrow⟩ := exists_mem_of_ne_nil _ (w.detector.ne_nil_of_meets hburst.meets)
    obtain ⟨hseen, hkey⟩ := mem_filter.1 ((hburst.subperm_group hsees).subset hrow)
    exact ⟨row, hseen, of_decide_eq_true hkey⟩
  · exact hburst.triggers hsees

theorem fingerprint_alert_eq_iff (hkey : Plain (some key)) :
    (w.alert id content windowMs first key).fingerprint =
        (w.alert id content windowMs second key).fingerprint ↔
      w.SameParts content windowMs key first second := by
  have hplain := fun sweep : Sweep =>
    Detector.plain_parts (d := w.detector) hkey (w.group content windowMs sweep key)
  constructor
  · intro hsame
    obtain ⟨-, hfirst, -, hday⟩ := fingerprint_inj w.detector.type_plain w.detector.type_plain
      (hplain first).1 (hplain second).1 (hplain first).2 (hplain second).2 hsame
    refine ⟨hday, fun habout => ?_⟩
    simpa [Detector.parts, habout] using hfirst
  · rintro ⟨hday, hcustomer⟩
    unfold alert Detector.alert fingerprint Detector.parts
    cases habout : w.detector.about with
    | order => simp [hday, hcustomer habout]
    | actor => simp [hday]

end Watch

section Log

variable {log : List FraudAlert}
  (hlog : log.Perm (sweeps.flatMap (runAll sha256Hex content windowMs)))

include hlog

theorem exists_text {alert : FraudAlert} (hmem : alert ∈ tryInsertAll log) :
    ∃ text ∈ sweeps.flatMap (runAll id content windowMs), text.hashed sha256Hex = alert := by
  obtain ⟨sweep, hsweep, halert⟩ := mem_flatMap.1 (hlog.mem_iff.1 (mem_log_of_mem hmem))
  rw [runAll_eq] at halert
  obtain ⟨text, htext, rfl⟩ := mem_map.1 halert
  exact ⟨text, mem_flatMap.2 ⟨sweep, hsweep, htext⟩, rfl⟩

theorem exists_alert (hhash : CollisionFree sha256Hex content windowMs sweeps) {w : Watch}
    (hw : w ∈ watches) {key : Uuid} {burst : List w.Row} (hburst : w.IsBurst content key burst)
    {sweep : Sweep} (hsweep : sweep ∈ sweeps) (hsees : w.Sees windowMs sweep burst) :
    ∃ alert ∈ tryInsertAll log, alert.type = w.detector.type ∧ alert.subject = some key ∧
      alert.fingerprint = (w.alert sha256Hex content windowMs sweep key).fingerprint := by
  have htext : w.alert id content windowMs sweep key ∈
      sweeps.flatMap (runAll id content windowMs) :=
    mem_flatMap.2 ⟨sweep, hsweep, hburst.mem_runAll hw hsees⟩
  have hmem : w.alert sha256Hex content windowMs sweep key ∈ log := by
    apply hlog.mem_iff.2 (mem_flatMap.2 ⟨sweep, hsweep, ?_⟩)
    rw [runAll_eq]
    exact mem_map_of_mem (hburst.mem_runAll hw hsees)
  obtain ⟨stored, hstored, hsame⟩ := exists_fingerprint hmem
  obtain ⟨text, htext', rfl⟩ := exists_text hlog hstored
  obtain ⟨first, _, hfirst⟩ := mem_flatMap.1 htext'
  obtain ⟨second, _, hsecond⟩ := mem_flatMap.1 htext
  obtain ⟨htype, hsubject⟩ := (genuine_of_mem_runAll hfirst).same (genuine_of_mem_runAll hsecond)
    (hhash text htext' _ htext hsame)
  exact ⟨_, hstored, htype, hsubject.trans (Detector.subject_alert ..), hsame⟩

theorem steady_of_everyBurstOnce (hhash : CollisionFree sha256Hex content windowMs sweeps)
    (honce : EveryBurstOnce sha256Hex content windowMs sweeps (tryInsertAll log)) :
    Steady content windowMs sweeps := by
  intro w hw key burst hburst first hfirst second hsecond hseesFirst hseesSecond
  obtain ⟨alert, halert, -, -, hsame⟩ := exists_alert hlog hhash hw hburst hfirst hseesFirst
  obtain ⟨other, hother, -, -, hsame'⟩ := exists_alert hlog hhash hw hburst hsecond hseesSecond
  have heq : alert = other := (honce w hw key burst hburst).1 alert halert other hother
    ⟨first, hfirst, hseesFirst, hsame⟩ ⟨second, hsecond, hseesSecond, hsame'⟩
  rw [← Watch.fingerprint_alert_eq_iff hburst.plain]
  apply hhash _ (mem_flatMap.2 ⟨first, hfirst, hburst.mem_runAll hw hseesFirst⟩) _
    (mem_flatMap.2 ⟨second, hsecond, hburst.mem_runAll hw hseesSecond⟩)
  exact hsame.symm.trans ((congrArg FraudAlert.fingerprint heq).trans hsame')

theorem everyBurstOnce_of_steady (hhash : CollisionFree sha256Hex content windowMs sweeps)
    (hsteady : Steady content windowMs sweeps) :
    EveryBurstOnce sha256Hex content windowMs sweeps (tryInsertAll log) := by
  intro w hw key burst hburst
  constructor
  · rintro alert halert other hother ⟨first, hfirst, hseesFirst, hsame⟩
      ⟨second, hsecond, hseesSecond, hsame'⟩
    apply eq_of_fingerprint halert hother
    rw [hsame, hsame']
    apply congrArg sha256Hex
    apply (Watch.fingerprint_alert_eq_iff hburst.plain).2
    exact hsteady w hw key burst hburst first hfirst second hsecond hseesFirst hseesSecond
  · intro sweep hsweep hsees
    obtain ⟨alert, halert, htype, hsubject, hsame⟩ :=
      exists_alert hlog hhash hw hburst hsweep hsees
    exact ⟨alert, halert, htype, hsubject, sweep, hsweep, hsees, hsame⟩

end Log

end Runs

/-- A burst raises one alert exactly where the sweeps that see it agree on the day and on the
customer. -/
theorem everyBurstOnce_iff_steady {sha256Hex : String → String} {content : Content}
    {windowMs : ℕ} {sweeps : List Sweep} {log : List FraudAlert}
    (hhash : CollisionFree sha256Hex content windowMs sweeps)
    (hlog : log.Perm (sweeps.flatMap (runAll sha256Hex content windowMs))) :
    EveryBurstOnce sha256Hex content windowMs sweeps (tryInsertAll log) ↔
      Steady content windowMs sweeps :=
  ⟨steady_of_everyBurstOnce hlog hhash, everyBurstOnce_of_steady hlog hhash⟩

/-- Two reversals of one order, a quarter of an hour apart, in the last hour of a day. -/
def lateReversal (createdAt : Timestamp) : LedgerRow where
  entryType := .DEBT_ADJUSTMENT
  customerId := some "customer"
  orderId := some "order"
  actorUserId := none
  createdAt := createdAt
  plain := by decide

def lateReversals : List LedgerRow :=
  [lateReversal 1767222000000, lateReversal 1767222900000]

def lateContent : Content where
  ledger := lateReversals
  journal := []
  orders := []

def Run.at (ρ : Type) (now : Timestamp) : Run ρ where
  now := now
  order := ⟨id, fun _ => List.Perm.refl _⟩
  keyTime _ := now

def Sweep.at (now : Timestamp) : Sweep where
  reversals := Run.at _ now
  payments := Run.at _ now
  refunds := Run.at _ now
  splitting := Run.at _ now
  wallets := Run.at _ now

def midnightSweeps : List Sweep :=
  [Sweep.at 1767224700000, Sweep.at 1767228300000]

def eveningSweeps : List Sweep :=
  [Sweep.at 1767224700000, Sweep.at 1767225000000]

def sweepDigest (text : String) : String :=
  if text = "v20_5|RAPID_REVERSALS|customer|order|2025-12-31" then
    "928cf5b98f6cfd5be74c6f844a6f7325353aa26f499787e1acbf44106549f224"
  else if text = "v20_5|RAPID_REVERSALS|customer|order|2026-01-01" then
    "2d82577f30cc26c015df405eb98b13a30d02c7e0ac511b3df53dff22170d1cae"
  else "e3b0c44298fc1c149afbf4c8996fb92427ae41e4649b934ca495991b7852b855"

theorem lateReversals_isBurst :
    rapidReversals.IsBurst lateContent.ledger "order" lateReversals where
  there := List.Subperm.refl _
  keyed := by decide
  meets := ⟨_, _, List.Subperm.refl _, by decide, by decide⟩

theorem everyBurstOnce_iff_steady_before_midnight :
    EveryBurstOnce sweepDigest lateContent 86400000 eveningSweeps
        (tryInsertAll (eveningSweeps.flatMap (runAll sweepDigest lateContent 86400000))) ↔
      Steady lateContent 86400000 eveningSweeps := by
  apply everyBurstOnce_iff_steady
  · unfold CollisionFree
    decide +kernel
  · exact List.Perm.refl _

/-- Two alerts for the one burst. -/
theorem not_everyBurstOnce_midnight :
    ¬ EveryBurstOnce sweepDigest lateContent 86400000 midnightSweeps
      (tryInsertAll (midnightSweeps.flatMap (runAll sweepDigest lateContent 86400000))) := by
  intro honce
  have hhash : CollisionFree sweepDigest lateContent 86400000 midnightSweeps := by
    unfold CollisionFree
    decide +kernel
  have hsteady := steady_of_everyBurstOnce (List.Perm.refl _) hhash honce
  have hsees (now : Timestamp) (hnow : now ≤ 1767228300000) :
      rapidReversals.Sees 86400000 (Run.at _ now) lateReversals := by
    intro row hrow
    have hlate : 1767222000000 ≤ row.createdAt := by
      rcases mem_pair.1 hrow with rfl | rfl <;> decide
    have hwindow : (1767228300000 : ℕ) ≤ row.createdAt + 86400000 :=
      le_trans (by decide) (Nat.add_le_add_right hlate 86400000)
    exact hnow.trans hwindow
  have hparts := hsteady _ (mem_cons_self ..) "order" lateReversals lateReversals_isBurst
    (Sweep.at 1767224700000) (by simp [midnightSweeps]) (Sweep.at 1767228300000)
    (by simp [midnightSweeps]) (hsees _ (by decide)) (hsees _ (by decide))
  exact absurd hparts.1 (by decide +kernel)

end SafariLaundry.FraudSweeps
