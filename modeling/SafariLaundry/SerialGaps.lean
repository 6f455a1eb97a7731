import SafariLaundry.DebtTransfers
import SafariLaundry.OrderSerials

/-!
# Gaps between serials

The scan counts, for every operator, the numbers up to the operator's high mark that none
of the operator's orders carries.  A debt transfer moves orders to another driver and
leaves their serials as they are.
-/

namespace SafariLaundry

open Library DebtTransfers List

/-- The counts of a scan; the time it was made at is left out. -/
structure SerialGapReport where
  currentCounter : ℤ
  (presentCount gapCount : ℕ)
  firstGaps : List String

namespace SerialGapReport

def sampleLimit : ℕ := 50

def empty : SerialGapReport := ⟨0, 0, 0, []⟩

/-- The first pass over the numbers of an operator. -/
def countPresent (present : List ℕ) (report : SerialGapReport) (i : ℕ) : SerialGapReport :=
  if i ∈ present then { report with presentCount := report.presentCount + 1 } else report

def noteGap (driverPrefix : String) (present : List ℕ) (report : SerialGapReport) (i : ℕ) :
    SerialGapReport :=
  if i ∉ present then
    { report with
      gapCount := report.gapCount + 1
      firstGaps :=
        if report.firstGaps.length < sampleLimit then
          report.firstGaps ++ [serialText driverPrefix i]
        else report.firstGaps }
  else report

end SerialGapReport

/-- `C`: the counter, or the largest number in the stream if that is larger. -/
def highMark (operatorId : Uuid) (driverPrefix : String) (db : SerialDb) : ℤ :=
  max (counterValue (orderSerialKeyForUser operatorId) db)
    (maxSerialSuffixForOperator operatorId driverPrefix db)

def streamNumbers (operatorId : Uuid) (driverPrefix : String) (db : SerialDb) : List ℕ :=
  List.range' 1 (highMark operatorId driverPrefix db).toNat

def scanOperator (db : SerialDb) (report : SerialGapReport) (operator : SerialUser) :
    SerialGapReport :=
  match trimmed operator.driverPrefix with
  | none => report
  | some driverPrefix =>
      if highMark operator.id driverPrefix db ≤ 0 then report
      else
        let present := suffixesOf operator.id driverPrefix db
        let numbers := streamNumbers operator.id driverPrefix db
        let counted := { report with
          currentCounter := report.currentCounter + highMark operator.id driverPrefix db }
        numbers.foldl (SerialGapReport.noteGap driverPrefix present)
          (numbers.foldl (SerialGapReport.countPresent present) counted)

def scanGaps (db : SerialDb) : SerialGapReport :=
  db.users.rows.foldl (scanOperator db) SerialGapReport.empty

structure Finalizes (transfer : DebtTransfer) (executorRole : SafariRole) (db : SerialDb) :
    Prop where
  role : executorRole = .ACCOUNTANT
  awaiting : transfer.status = .AWAITING_SIGNATURES
  signed : transfer.sourceSignedAt ≠ none ∧ transfer.targetSignedAt ≠ none
  present : (db.orders.rows.filter fun order => order.id ∈ transfer.orderIds).length =
    transfer.orderIds.length
  held : ∀ order ∈ db.orders.rows, order.id ∈ transfer.orderIds →
    order.driverId = some transfer.sourceDriverId ∧ order.status = .COMPLETED ∧
      order.cashStatus = .PAID_TO_DRIVER

instance (transfer : DebtTransfer) (executorRole : SafariRole) (db : SerialDb) :
    Decidable (Finalizes transfer executorRole db) :=
  decidable_of_iff (executorRole = .ACCOUNTANT ∧ transfer.status = .AWAITING_SIGNATURES ∧
      (transfer.sourceSignedAt ≠ none ∧ transfer.targetSignedAt ≠ none) ∧
      (db.orders.rows.filter fun order => order.id ∈ transfer.orderIds).length =
        transfer.orderIds.length ∧
      ∀ order ∈ db.orders.rows, order.id ∈ transfer.orderIds →
        order.driverId = some transfer.sourceDriverId ∧ order.status = .COMPLETED ∧
          order.cashStatus = .PAID_TO_DRIVER)
    ⟨fun h => ⟨h.1, h.2.1, h.2.2.1, h.2.2.2.1, h.2.2.2.2⟩,
      fun h => ⟨h.role, h.awaiting, h.signed, h.present, h.held⟩⟩

def SerialOrder.reassigned (transfer : DebtTransfer) (order : SerialOrder) : SerialOrder :=
  { order with
    driverId := some transfer.targetDriverId
    transferredFromDriverId :=
      order.transferredFromDriverId.orElse fun _ => some transfer.sourceDriverId }

def finalizeOrders (transfer : DebtTransfer) (executorRole : SafariRole) (db : SerialDb) :
    SerialDb :=
  if Finalizes transfer executorRole db then
    { db with
      orders := db.orders.updateWhere (fun order => order.id ∈ transfer.orderIds)
        (SerialOrder.reassigned transfer) fun _ => rfl }
  else db

def deleteOrder (orderId : Uuid) (db : SerialDb) : SerialDb :=
  { db with
    orders := {
      rows := db.orders.rows.filter fun order => order.id ≠ orderId
      keysDistinct := (filter_sublist.map _).nodup db.orders.keysDistinct } }

inductive StreamCall
  | stamp (call : SerialCall)
  | finalize (transfer : DebtTransfer) (executorRole : SafariRole)
  | delete (orderId : Uuid)

def streamCalls : Calls SerialDb StreamCall where
  step := fun call db =>
    match call with
    | .stamp call => (call.outcome db).2
    | .finalize transfer executorRole => finalizeOrders transfer executorRole db
    | .delete orderId => deleteOrder orderId db
  seen := fun
    | .stamp call => [call.read.orders, call.read.counter]
    | _ => []

def CarriedNumber (driverPrefix : String) (i : ℕ) (db : SerialDb) : Prop :=
  ∃ order ∈ db.orders.rows, order.serialNumber.bind (serialSuffix driverPrefix) = some i
  deriving Decidable

def missingOf (db : SerialDb) (operator : SerialUser) : List String :=
  match trimmed operator.driverPrefix with
  | none => []
  | some driverPrefix =>
      ((streamNumbers operator.id driverPrefix db).filter fun i =>
        ¬ CarriedNumber driverPrefix i db).map fun (i : ℕ) => serialText driverPrefix i

def missingSerials (db : SerialDb) : List String :=
  db.users.rows.flatMap (missingOf db)

/-- The report counts the missing serials and lists the first of them, and what is present
and what is missing add up to the counter. -/
structure ScanExact (db : SerialDb) : Prop where
  counted : (scanGaps db).gapCount = (missingSerials db).length
  listed : (scanGaps db).firstGaps = (missingSerials db).take SerialGapReport.sampleLimit
  adds : ((scanGaps db).presentCount + (scanGaps db).gapCount : ℤ) = (scanGaps db).currentCounter

/-- Prefixes are single capital letters, each given to one operator. -/
structure PrefixesAssigned (users : Table SerialUser.id) : Prop where
  letter : ∀ user ∈ users.rows, ∀ driverPrefix, user.driverPrefix = some driverPrefix →
    ∃ c, 'A' ≤ c ∧ c ≤ 'Z' ∧ driverPrefix = String.ofList [c]
  unique : ∀ user ∈ users.rows, ∀ other ∈ users.rows, ∀ driverPrefix,
    user.driverPrefix = some driverPrefix → other.driverPrefix = some driverPrefix → user = other

def Attributed (db : SerialDb) : Prop :=
  ∀ user ∈ db.users.rows, ∀ driverPrefix, trimmed user.driverPrefix = some driverPrefix →
    StreamOwned user.id driverPrefix db

def StreamCall.MovesNoSerial : StreamCall → SerialDb → Prop
  | .finalize transfer executorRole, db => Finalizes transfer executorRole db →
      ∀ order ∈ db.orders.rows, order.id ∈ transfer.orderIds → ∀ serial,
        order.serialNumber = some serial → ∀ user ∈ db.users.rows, ∀ driverPrefix,
          trimmed user.driverPrefix = some driverPrefix → serialSuffix driverPrefix serial = none
  | _, _ => True

variable {db start : SerialDb} {report : SerialGapReport} {reported : List String}

/-! ## One scan -/

structure SerialGapReport.Reports (report : SerialGapReport) (reported : List String) :
    Prop where
  counted : report.gapCount = reported.length
  listed : report.firstGaps = reported.take sampleLimit
  adds : (report.presentCount + report.gapCount : ℤ) = report.currentCounter

def scannedGaps (db : SerialDb) (operator : SerialUser) : List String :=
  match trimmed operator.driverPrefix with
  | none => []
  | some driverPrefix =>
      ((streamNumbers operator.id driverPrefix db).filter fun i =>
        i ∉ suffixesOf operator.id driverPrefix db).map fun (i : ℕ) => serialText driverPrefix i

theorem take_append_one {α : Type} (n : ℕ) (l : List α) (a : α) :
    (if (l.take n).length < n then l.take n ++ [a] else l.take n) = (l ++ [a]).take n := by
  rw [length_take]
  by_cases hshort : l.length < n
  · rw [if_pos (by omega), take_of_length_le (by omega),
      take_of_length_le (by simp; omega)]
  · rw [if_neg (by omega), take_append_of_le_length (by omega)]

namespace SerialGapReport

variable {driverPrefix : String} {present : List ℕ}

theorem foldl_countPresent (numbers : List ℕ) :
    numbers.foldl (countPresent present) report =
      { report with
        presentCount := report.presentCount + numbers.countP fun i => i ∈ present } := by
  induction numbers generalizing report with
  | nil => rfl
  | cons i rest ih =>
      rw [foldl_cons, ih, countP_cons]
      unfold countPresent
      by_cases hpresent : i ∈ present
      · simp [hpresent]
        omega
      · simp [hpresent]

theorem foldl_noteGap (driverPrefix : String) (present : List ℕ) (numbers : List ℕ)
    (report : SerialGapReport) (reported : List String)
    (hcounted : report.gapCount = reported.length)
    (hlisted : report.firstGaps = reported.take sampleLimit) :
    (numbers.foldl (noteGap driverPrefix present) report).currentCounter = report.currentCounter ∧
      (numbers.foldl (noteGap driverPrefix present) report).presentCount = report.presentCount ∧
      (numbers.foldl (noteGap driverPrefix present) report).gapCount =
        report.gapCount + numbers.countP (fun i => i ∉ present) ∧
      (numbers.foldl (noteGap driverPrefix present) report).firstGaps =
        (reported ++ (numbers.filter fun i => i ∉ present).map fun (i : ℕ) =>
          serialText driverPrefix i).take sampleLimit := by
  induction numbers generalizing report reported with
  | nil => simp [hlisted]
  | cons i rest ih =>
      rw [foldl_cons]
      by_cases hpresent : i ∈ present
      · have hsame : noteGap driverPrefix present report i = report := if_neg (not_not.2 hpresent)
        rw [hsame]
        simpa [hpresent] using ih report reported hcounted hlisted
      · have hnoted : noteGap driverPrefix present report i =
            { report with
              gapCount := report.gapCount + 1
              firstGaps := (reported ++ [serialText driverPrefix i]).take sampleLimit } := by
          unfold noteGap
          rw [if_pos hpresent, ← take_append_one, hlisted]
        have hrest := ih (noteGap driverPrefix present report i)
          (reported ++ [serialText driverPrefix i])
          (by rw [hnoted, length_append]; exact congrArg (· + 1) hcounted) (by rw [hnoted])
        rw [hnoted] at hrest ⊢
        obtain ⟨hcounter, hpresentCount, hgaps, hfirst⟩ := hrest
        refine ⟨hcounter, hpresentCount, ?_, ?_⟩
        · rw [hgaps, countP_cons_of_pos (by simpa using hpresent)]
          simp only
          omega
        · rw [hfirst, filter_cons_of_pos (by simpa using hpresent)]
          simp

end SerialGapReport

theorem SerialGapReport.Reports.scanOperator (operator : SerialUser)
    (hreports : report.Reports reported) :
    (scanOperator db report operator).Reports (reported ++ scannedGaps db operator) := by
  unfold SafariLaundry.scanOperator scannedGaps
  cases trimmed operator.driverPrefix with
  | none =>
      simp only [append_nil]
      exact hreports
  | some driverPrefix =>
      simp only
      by_cases hempty : highMark operator.id driverPrefix db ≤ 0
      · have hnone : streamNumbers operator.id driverPrefix db = [] := by
          unfold streamNumbers
          rw [Int.toNat_of_nonpos hempty]
          rfl
        rw [if_pos hempty, hnone]
        simpa using hreports
      · rw [if_neg hempty, foldl_countPresent]
        have hlength : (streamNumbers operator.id driverPrefix db).length =
            (highMark operator.id driverPrefix db).toNat := length_range' ..
        have hsplit := (length_eq_countP_add_countP
          (l := streamNumbers operator.id driverPrefix db)
          fun i => i ∈ suffixesOf operator.id driverPrefix db)
        obtain ⟨hcounter, hpresent, hgaps, hfirst⟩ := foldl_noteGap
          driverPrefix (suffixesOf operator.id driverPrefix db)
          (streamNumbers operator.id driverPrefix db)
          ({ report with
            currentCounter := report.currentCounter + highMark operator.id driverPrefix db
            presentCount := report.presentCount + (streamNumbers operator.id driverPrefix db).countP
              fun i => i ∈ suffixesOf operator.id driverPrefix db })
          reported hreports.counted hreports.listed
        have hadds := hreports.adds
        refine ⟨?_, hfirst, ?_⟩
        · rw [hgaps, length_append, length_map, ← countP_eq_length_filter]
          exact congrArg (· + _) hreports.counted
        · have hparts : (streamNumbers operator.id driverPrefix db).countP
              (fun i => i ∈ suffixesOf operator.id driverPrefix db) +
              (streamNumbers operator.id driverPrefix db).countP
                (fun i => i ∉ suffixesOf operator.id driverPrefix db) =
              (highMark operator.id driverPrefix db).toNat := by
            rw [← hlength, hsplit]
            simp
          rw [hcounter, hpresent, hgaps]
          simp only
          omega

theorem scanGaps_reports (db : SerialDb) :
    (scanGaps db).Reports (db.users.rows.flatMap (scannedGaps db)) := by
  have hall : ∀ (operators : List SerialUser) (report : SerialGapReport)
      (reported : List String), report.Reports reported →
      (operators.foldl (scanOperator db) report).Reports
        (reported ++ operators.flatMap (scannedGaps db)) := by
    intro operators
    induction operators with
    | nil =>
        intro report reported hreports
        rw [flatMap_nil, append_nil]
        exact hreports
    | cons operator rest ih =>
        intro report reported hreports
        rw [foldl_cons, flatMap_cons, ← append_assoc]
        exact ih _ _ (hreports.scanOperator operator)
  exact hall db.users.rows SerialGapReport.empty [] ⟨rfl, rfl, rfl⟩

theorem Attributed.scannedGaps {operator : SerialUser} (hattributed : Attributed db)
    (hoperator : operator ∈ db.users.rows) :
    scannedGaps db operator = missingOf db operator := by
  unfold SafariLaundry.scannedGaps missingOf
  cases hletters : trimmed operator.driverPrefix with
  | none => rfl
  | some driverPrefix =>
      simp only
      congr 1
      apply filter_congr
      intro i _
      have hseen : i ∈ suffixesOf operator.id driverPrefix db ↔ CarriedNumber driverPrefix i db := by
        unfold suffixesOf CarriedNumber
        rw [mem_filterMap]
        constructor
        · rintro ⟨order, horder, hnumber⟩
          exact ⟨order, (mem_filter.1 horder).1, hnumber⟩
        · rintro ⟨order, horder, hnumber⟩
          refine ⟨order, mem_filter.2 ⟨horder, decide_eq_true ?_⟩, hnumber⟩
          obtain ⟨serial, hserial, hsuffix⟩ := Option.bind_eq_some_iff.1 hnumber
          exact hattributed operator hoperator driverPrefix hletters order horder serial hserial
            (hsuffix ▸ Option.some_ne_none _)
      simp only [hseen]

theorem Attributed.scanExact (hattributed : Attributed db) : ScanExact db := by
  have hreports := scanGaps_reports db
  have hsame : db.users.rows.flatMap (SafariLaundry.scannedGaps db) = missingSerials db :=
    flatMap_congr fun operator hoperator => hattributed.scannedGaps hoperator
  rw [hsame] at hreports
  exact ⟨hreports.counted, hreports.listed, hreports.adds⟩

/-! ## One call -/

theorem PrefixesAssigned.stored {users : Table SerialUser.id} {user : SerialUser}
    {driverPrefix : String} (hassigned : PrefixesAssigned users) (huser : user ∈ users.rows)
    (hletters : trimmed user.driverPrefix = some driverPrefix) :
    user.driverPrefix = some driverPrefix := by
  cases hstored : user.driverPrefix with
  | none =>
      rw [hstored] at hletters
      cases hletters
  | some stored =>
      obtain ⟨c, _, _, hletter⟩ := hassigned.letter user huser stored hstored
      rw [hstored] at hletters
      obtain ⟨htrim, hne⟩ := Option.filter_eq_some_iff.1 hletters
      have htrimmed : trim stored = driverPrefix := Option.some.inj htrim
      rw [hletter] at htrimmed ⊢
      unfold trim trimText at htrimmed
      rw [String.toList_ofList] at htrimmed
      by_cases hspace : isSpace c = true
      · rw [dropWhile_cons_of_pos hspace] at htrimmed
        rw [← htrimmed] at hne
        simp at hne
      · rw [dropWhile_cons_of_neg hspace, rdropWhile_singleton, if_neg hspace] at htrimmed
        rw [htrimmed]

theorem PrefixesAssigned.eq_of_serial {users : Table SerialUser.id} {user other : SerialUser}
    {driverPrefix otherPrefix : String} {n : ℤ} (hassigned : PrefixesAssigned users)
    (huser : user ∈ users.rows) (hother : other ∈ users.rows)
    (hletters : trimmed user.driverPrefix = some driverPrefix)
    (hletters' : trimmed other.driverPrefix = some otherPrefix)
    (hstream : serialSuffix otherPrefix (serialText driverPrefix n) ≠ none) :
    other = user := by
  have hstored := hassigned.stored huser hletters
  have hstored' := hassigned.stored hother hletters'
  obtain ⟨c, _, _, hletter⟩ := hassigned.letter user huser driverPrefix hstored
  obtain ⟨d, _, _, hletter'⟩ := hassigned.letter other hother otherPrefix hstored'
  have hmatches : (otherPrefix.toList ++ ['-']).isPrefixOf
      (serialText driverPrefix n).toList = true := by
    by_contra hnot
    apply hstream
    unfold serialSuffix
    exact if_neg fun hall => hnot hall.1
  have hsame : otherPrefix = driverPrefix := by
    unfold serialText at hmatches
    rw [String.toList_append, String.toList_append, hletter, hletter', String.toList_ofList,
      String.toList_ofList] at hmatches
    have hchar : d = c := by
      have hparts := cons_prefix_cons.1 (List.isPrefixOf_iff_prefix.1 hmatches)
      exact hparts.1
    rw [hletter, hletter', hchar]
  rw [hsame] at hstored'
  exact hassigned.unique other hother user huser driverPrefix hstored' hstored

theorem exists_of_driverPrefixOf {operatorId : Uuid} {driverPrefix : String}
    (hletters : driverPrefixOf operatorId db = some driverPrefix) :
    ∃ user ∈ db.users.rows, user.id = operatorId ∧
      trimmed user.driverPrefix = some driverPrefix := by
  unfold driverPrefixOf at hletters
  cases hfind : db.users.find? operatorId with
  | none =>
      rw [hfind] at hletters
      cases hletters
  | some user =>
      rw [hfind] at hletters
      exact ⟨user, Table.mem_of_find? hfind, Table.key_of_find? hfind, hletters⟩

def SerialOrder.Fits (users : Table SerialUser.id) (order : SerialOrder) : Prop :=
  order.serialNumber = none ∨ ∃ user ∈ users.rows, ∃ driverPrefix n, order.driverId = some user.id ∧
      trimmed user.driverPrefix = some driverPrefix ∧
      order.serialNumber = some (serialText driverPrefix n)

theorem SerialCall.orders_outcome (call : SerialCall) (db : SerialDb) :
    (call.outcome db).2.users = db.users ∧ ∀ order ∈ (call.outcome db).2.orders.rows,
        order ∈ db.orders.rows ∨ order.Fits db.users := by
  have hblank : call.outcome db = (.ok (), db.withOrder call none) →
      (call.outcome db).2.users = db.users ∧ ∀ order ∈ (call.outcome db).2.orders.rows,
          order ∈ db.orders.rows ∨ order.Fits db.users := by
    intro houtcome
    rw [houtcome]
    refine ⟨rfl, ?_⟩
    intro order horder
    rcases mem_append.1 horder with hold | hnew
    · exact .inl hold
    · rw [mem_singleton.1 hnew]
      exact .inr (.inl rfl)
  have hsame : (call.outcome db).2 = db → (call.outcome db).2.users = db.users ∧
        ∀ order ∈ (call.outcome db).2.orders.rows,
          order ∈ db.orders.rows ∨ order.Fits db.users := by
    intro houtcome
    rw [houtcome]
    exact ⟨rfl, fun order horder => .inl horder⟩
  cases hdriver : call.data.driverId with
  | none =>
      have hstamped : (stampOrderSerial call.data.driverId call.read).Commits db none db := by
        rw [hdriver]
        exact Transaction.commits_pure.2 ⟨rfl, rfl⟩
      apply hblank
      rw [call.outcome_of_stamped rfl hstamped, if_neg]
      rintro ⟨serial, hserial, _⟩
      cases hserial
  | some operatorId =>
      rcases call.cases db hdriver with ⟨_, _, houtcome⟩ | ⟨_, _, _, _, houtcome⟩ |
        ⟨driverPrefix, hfits, hletters, _, houtcome⟩
      · exact hblank houtcome
      · exact hsame (congrArg Prod.snd houtcome)
      · by_cases htaken : CarriedSerial (serialText driverPrefix
            (raisedCounter operatorId driverPrefix call.read db + 1)) db
        · rw [if_pos htaken] at houtcome
          exact hsame (congrArg Prod.snd houtcome)
        · rw [if_neg htaken] at houtcome
          rw [houtcome]
          refine ⟨rfl, ?_⟩
          intro order horder
          rcases mem_append.1 horder with hold | hnew
          · exact .inl hold
          · obtain ⟨user, huser, hid, hstored⟩ := exists_of_driverPrefixOf hletters
            rw [mem_singleton.1 hnew]
            exact .inr (.inr ⟨user, huser, driverPrefix, _, hid ▸ hdriver, hstored, rfl⟩)

theorem users_step (call : StreamCall) (db : SerialDb) :
    (streamCalls.step call db).users = db.users := by
  cases call with
  | stamp call => exact (call.orders_outcome db).1
  | finalize transfer executorRole =>
      change (finalizeOrders transfer executorRole db).users = db.users
      unfold finalizeOrders
      by_cases hfinalizes : Finalizes transfer executorRole db
      · rw [if_pos hfinalizes]
      · rw [if_neg hfinalizes]
  | delete orderId => rfl

theorem Attributed.step {call : StreamCall} (hassigned : PrefixesAssigned db.users)
    (hattributed : Attributed db) (hmoves : call.MovesNoSerial db) :
    Attributed (streamCalls.step call db) := by
  intro user huser driverPrefix hletters order horder serial hserial hstream
  rw [users_step] at huser
  cases call with
  | stamp call =>
      rcases (call.orders_outcome db).2 order horder with hold | hfits
      · exact hattributed user huser driverPrefix hletters order hold serial hserial hstream
      · rcases hfits with hnone | ⟨owner, howner, ownPrefix, n, hdriver, hown, htext⟩
        · rw [hserial] at hnone
          cases hnone
        rw [hserial, Option.some.injEq] at htext
        rw [htext] at hstream
        rw [hassigned.eq_of_serial howner huser hown hletters hstream]
        exact hdriver
  | finalize transfer executorRole =>
      change order ∈ (finalizeOrders transfer executorRole db).orders.rows at horder
      unfold finalizeOrders at horder
      by_cases hfinalizes : Finalizes transfer executorRole db
      · rw [if_pos hfinalizes] at horder
        obtain ⟨old, hold, hmoved⟩ := mem_map.1 horder
        by_cases hlisted : old.id ∈ transfer.orderIds
        · rw [if_pos hlisted] at hmoved
          subst hmoved
          exact absurd (hmoves hfinalizes old hold hlisted serial hserial user huser driverPrefix
            hletters) hstream
        · rw [if_neg hlisted] at hmoved
          subst hmoved
          exact hattributed user huser driverPrefix hletters old hold serial hserial hstream
      · rw [if_neg hfinalizes] at horder
        exact hattributed user huser driverPrefix hletters order horder serial hserial hstream
  | delete orderId =>
      exact hattributed user huser driverPrefix hletters order (mem_filter.1 horder).1 serial
        hserial hstream

/-- As long as finalizations move no order with a serial, every scan is exact. -/
theorem serialGaps_exact {calls : List StreamCall} {trace : List SerialDb}
    (hassigned : PrefixesAssigned start.users) (hattributed : Attributed start)
    (hlog : streamCalls.Log (fun _ _ => True) start calls trace)
    (hmoves : ∀ found ∈ Calls.occurrences calls trace, found.1.MovesNoSerial found.2) :
    ∀ db ∈ trace, ScanExact db := by
  have hall := hlog.invariant (I := fun db => db.users = start.users ∧ Attributed db)
    (Q := StreamCall.MovesNoSerial) ⟨rfl, hattributed⟩
    (fun call db hbefore _ hmet =>
      ⟨(users_step call db).trans hbefore.1, hbefore.2.step (hbefore.1 ▸ hassigned) hmet⟩) hmoves
  intro db hdb
  exact (hall db hdb).2.scanExact

namespace Sample

def twoStreams : SerialDb where
  users := ⟨[⟨"driver", some "A"⟩, ⟨"colleague", some "B"⟩], by decide⟩
  counters := Function.update (fun _ => none) "OU_driver" (some ⟨1, by decide⟩)
  orders := ⟨[⟨"first", some "driver", some "A-1", .COMPLETED, .PAID_TO_DRIVER, none⟩],
    nodup_singleton _⟩

def leavingTransfer : DebtTransfers.DebtTransfer where
  id := "transfer"
  sourceDriverId := "driver"
  targetDriverId := "colleague"
  totalAmount := 30000
  orderCount := 1
  reason := none
  notes := none
  status := .AWAITING_SIGNATURES
  executedById := "manager"
  executedByRole := .MANAGER
  sourceSignedAt := some 1
  targetSignedAt := some 2
  finalizedAt := none
  cancelledAt := none
  cancelledReason := none
  cancelledById := none
  systemSignature := none
  orders := [⟨"first", 30000⟩]

def movedStream : SerialDb := finalizeOrders leavingTransfer .ACCOUNTANT twoStreams

theorem twoStreams_assigned : PrefixesAssigned twoStreams.users := by
  constructor
  · intro user huser driverPrefix hletters
    rcases mem_cons.1 huser with rfl | hrest
    · exact ⟨'A', by decide, by decide, (Option.some.inj hletters).symm⟩
    · rw [mem_singleton.1 hrest] at hletters
      exact ⟨'B', by decide, by decide, (Option.some.inj hletters).symm⟩
  · decide

theorem twoStreams_attributed : Attributed twoStreams := by
  intro user huser driverPrefix hletters order horder serial hserial hstream
  cases mem_singleton.1 horder
  cases Option.some.inj hserial
  rcases mem_cons.1 huser with rfl | hrest
  · rfl
  · rw [mem_singleton.1 hrest] at hletters
    have hforeign : serialSuffix "B" "A-1" = none := by decide +kernel
    have hletter : driverPrefix = "B" := (Option.some.inj hletters).symm
    rw [hletter] at hstream
    exact absurd hforeign hstream

theorem stream_deleted :
    streamCalls.Log (fun _ _ => True) twoStreams [.delete "first"]
      [deleteOrder "first" twoStreams, twoStreams] :=
  Calls.Log.call (StreamCall.delete "first") .start (fun _ hdb => absurd hdb not_mem_nil)
    trivial

theorem stream_moved :
    streamCalls.Log (fun _ _ => True) twoStreams [.finalize leavingTransfer .ACCOUNTANT]
      [movedStream, twoStreams] :=
  Calls.Log.call (StreamCall.finalize leavingTransfer .ACCOUNTANT) .start
    (fun _ hdb => absurd hdb not_mem_nil) trivial

end Sample

theorem serialGaps_exact_sample :
    ScanExact (deleteOrder "first" Sample.twoStreams) ∧
      (scanGaps (deleteOrder "first" Sample.twoStreams)).firstGaps = ["A-1"] := by
  refine ⟨serialGaps_exact Sample.twoStreams_assigned Sample.twoStreams_attributed
    Sample.stream_deleted ?_ _ (mem_cons_self ..), by decide +kernel⟩
  intro found hfound
  cases mem_singleton.1 hfound
  trivial

theorem serialGaps_exact_fails :
    ¬ ∀ (start : SerialDb) (calls : List StreamCall) (trace : List SerialDb),
      PrefixesAssigned start.users → Attributed start →
      streamCalls.Log (fun _ _ => True) start calls trace → ∀ db ∈ trace, ScanExact db := by
  intro hall
  have hexact := hall _ _ _ Sample.twoStreams_assigned Sample.twoStreams_attributed
    Sample.stream_moved Sample.movedStream (mem_cons_self ..)
  exact absurd hexact.counted (by decide +kernel)

end SafariLaundry
