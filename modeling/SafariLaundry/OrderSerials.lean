import SafariLaundry.GatewayText
import SafariLaundry.Library.History
import SafariLaundry.Library.Selection

/-!
# Serials of orders

An operator's orders are numbered from a counter row of the operator.  Before it draws a
number, a transaction reads the largest number among the operator's orders and the
counter; if the counter is behind it writes that number into it, as it was read.
-/

namespace SafariLaundry

open Library Library.Transaction List

/-- The largest value of an `integer` column. -/
def int4Max : ℤ := 2147483647

structure SerialCounter where
  value : ℤ
  value_le : value ≤ int4Max

structure SerialUser where
  id : Uuid
  driverPrefix : Option String
  deriving DecidableEq

structure SerialOrder where
  id : Uuid
  driverId : Option Uuid
  serialNumber : Option String
  status : OrderStatus
  cashStatus : CashStatus
  transferredFromDriverId : Option Uuid

structure SerialDb where
  users : Table SerialUser.id
  /-- The row under each key. -/
  counters : String → Option SerialCounter
  orders : Table SerialOrder.id

inductive SerialError
  /-- A value that its column does not hold. -/
  | outOfRange
  /-- `P2002` on the serial number. -/
  | uniqueViolation
  deriving DecidableEq

abbrev SerialTx (α : Type) := Library.Transaction SerialError SerialDb α

def orderSerialKeyForUser (userId : Uuid) : String := "OU_" ++ userId

def serialText (driverPrefix : String) (n : ℤ) : String := driverPrefix ++ "-" ++ toString n

/-- What `Number.isFinite` says of a parsed integer: larger ones round to infinity. -/
def IsFiniteNumber (n : ℕ) : Prop := n < 2 ^ 1024 - 2 ^ 970

instance : DecidablePred IsFiniteNumber := fun _ => Nat.decLt _ _

def serialDigits (driverPrefix serial : String) : List Char :=
  serial.toList.drop (driverPrefix.toList ++ ['-']).length

/-- The `N` of a text that matches `^<prefix>-(\d+)$`. -/
def serialSuffix (driverPrefix serial : String) : Option ℕ :=
  if (driverPrefix.toList ++ ['-']).isPrefixOf serial.toList = true ∧
      serialDigits driverPrefix serial ≠ [] ∧
      (serialDigits driverPrefix serial).all Char.isDigit = true ∧
      IsFiniteNumber (Nat.ofDigitChars 10 (serialDigits driverPrefix serial) 0) then
    some (Nat.ofDigitChars 10 (serialDigits driverPrefix serial) 0)
  else none

def driverPrefixOf (operatorId : Uuid) (db : SerialDb) : Option String :=
  trimmed ((db.users.find? operatorId).bind SerialUser.driverPrefix)

def suffixesOf (operatorId : Uuid) (driverPrefix : String) (db : SerialDb) : List ℕ :=
  (db.orders.rows.filter fun order => order.driverId = some operatorId).filterMap fun order =>
    order.serialNumber.bind (serialSuffix driverPrefix)

def maxSerialSuffixForOperator (operatorId : Uuid) (driverPrefix : String) (db : SerialDb) : ℕ :=
  (suffixesOf operatorId driverPrefix db).foldr max 0

def counterValue (key : String) (db : SerialDb) : ℤ :=
  match db.counters key with
  | some row => row.value
  | none => 0

def storeCounter (key : String) (value : ℤ) : SerialTx Unit :=
  if hvalue : value ≤ int4Max then
    modify fun db => { db with counters := Function.update db.counters key (some ⟨value, hvalue⟩) }
  else throw .outOfRange

def incrementCounter (key : String) : SerialTx ℤ := do
  let value ← reads (counterValue key)
  storeCounter key (value + 1)
  return value + 1

structure SerialReads where
  (orders counter : SerialDb)

def counterFloor (operatorId : Uuid) (driverPrefix : String) (read : SerialReads) : ℤ :=
  max (counterValue (orderSerialKeyForUser operatorId) read.counter)
    (maxSerialSuffixForOperator operatorId driverPrefix read.orders)

def stampOrderSerial (driverId : Option Uuid) (read : SerialReads) : SerialTx (Option String) :=
  match driverId with
  | none => return none
  | some operatorId => do
      let driver ← reads (driverPrefixOf operatorId)
      match driver with
      | none => return none
      | some driverPrefix => do
          let key := orderSerialKeyForUser operatorId
          let floor := counterFloor operatorId driverPrefix read
          whenever (counterValue key read.counter < floor) (storeCounter key floor)
          let next ← incrementCounter key
          return some (serialText driverPrefix next)

def CarriedSerial (serial : String) (db : SerialDb) : Prop :=
  ∃ order ∈ db.orders.rows, order.serialNumber = some serial
  deriving Decidable

structure OrderData where
  driverId : Option Uuid
  status : OrderStatus
  cashStatus : CashStatus

def OrderData.order (data : OrderData) (serialNumber : Option String) (id : Uuid) :
    SerialOrder where
  id := id
  driverId := data.driverId
  serialNumber := serialNumber
  status := data.status
  cashStatus := data.cashStatus
  transferredFromDriverId := none

def insertOrder (keys : FreshKeys Uuid) (data : OrderData) (serialNumber : Option String) :
    SerialTx Unit := do
  let taken ← reads fun db => decide (∃ serial ∈ serialNumber, CarriedSerial serial db)
  require (taken = false) .uniqueViolation
  modify fun db => { db with
    orders := db.orders.insertNew keys (data.order serialNumber) fun _ => rfl }

def createStampedOrder (keys : FreshKeys Uuid) (data : OrderData) (read : SerialReads) :
    SerialTx Unit :=
  atomically (fun before _ => before) do
    let serialNumber ← stampOrderSerial data.driverId read
    insertOrder keys data serialNumber

structure SerialCall where
  keys : FreshKeys Uuid
  data : OrderData
  read : SerialReads

namespace SerialCall

def outcome (call : SerialCall) (db : SerialDb) : Except SerialError Unit × SerialDb :=
  (createStampedOrder call.keys call.data call.read).outcome db

def serial (call : SerialCall) (db : SerialDb) : Option String :=
  match ((stampOrderSerial call.data.driverId call.read).outcome db).1 with
  | .ok serialNumber => serialNumber
  | .error _ => none

def KeepsCounter (operatorId : Uuid) (call : SerialCall) (db : SerialDb) : Prop :=
  ∀ driverPrefix, driverPrefixOf operatorId db = some driverPrefix →
    counterValue (orderSerialKeyForUser operatorId) call.read.counter <
      counterFloor operatorId driverPrefix call.read →
    counterValue (orderSerialKeyForUser operatorId) db ≤
      counterFloor operatorId driverPrefix call.read

end SerialCall

def serialCalls : Calls SerialDb SerialCall where
  step := fun call db => (call.outcome db).2
  seen := fun call => [call.read.orders, call.read.counter]

structure SerialsFresh (calls : List SerialCall) (trace : List SerialDb) : Prop where
  free : ∀ found ∈ Calls.occurrences calls trace, ∀ serial,
    found.1.serial found.2 = some serial → ¬ CarriedSerial serial found.2
  distinct : ((Calls.occurrences calls trace).filterMap fun found =>
    found.1.serial found.2).Nodup
  inserted : ∀ found ∈ Calls.occurrences calls trace,
    (found.1.outcome found.2).1 ≠ .error .uniqueViolation

def StreamOwned (operatorId : Uuid) (driverPrefix : String) (db : SerialDb) : Prop :=
  ∀ order ∈ db.orders.rows, ∀ serial, order.serialNumber = some serial →
    serialSuffix driverPrefix serial ≠ none → order.driverId = some operatorId

variable {db seen : SerialDb} {call : SerialCall} {operatorId : Uuid} {driverPrefix : String}
  {key : String} {read : SerialReads}

theorem toList_serialText (n : ℕ) :
    (serialText driverPrefix n).toList = driverPrefix.toList ++ ['-'] ++ Nat.toDigits 10 n := by
  unfold serialText
  rw [String.toList_append, String.toList_append]
  congr 1
  change (Nat.repr n).toList = _
  exact Nat.toList_repr

theorem serialSuffix_serialText (driverPrefix : String) {n : ℕ} (hfinite : IsFiniteNumber n) :
    serialSuffix driverPrefix (serialText driverPrefix n) = some n := by
  have hdigits : serialDigits driverPrefix (serialText driverPrefix n) = Nat.toDigits 10 n := by
    unfold serialDigits
    rw [toList_serialText]
    exact drop_left
  have hnumber : Nat.ofDigitChars 10 (serialDigits driverPrefix (serialText driverPrefix n)) 0 =
      n := by
    rw [hdigits]
    exact Nat.ofDigitChars_ten_toDigits
  unfold serialSuffix
  rw [if_pos, hnumber]
  refine ⟨?_, ?_, ?_, ?_⟩
  · rw [toList_serialText, List.isPrefixOf_iff_prefix]
    exact prefix_append _ _
  · rw [hdigits]
    exact Nat.toDigits_ne_nil
  · rw [hdigits, all_eq_true]
    intro c hc
    exact Nat.isDigit_of_mem_toDigits (by decide) (by decide) hc
  · rw [hnumber]
    exact hfinite

theorem isFiniteNumber_of_le {n : ℕ} (hle : (n : ℤ) ≤ int4Max) : IsFiniteNumber n := by
  have hbound : IsFiniteNumber 2147483647 := by decide +kernel
  exact lt_of_le_of_lt (by unfold int4Max at hle; omega) hbound

theorem le_maxSerialSuffix {n : ℕ} (hn : n ∈ suffixesOf operatorId driverPrefix db) :
    n ≤ maxSerialSuffixForOperator operatorId driverPrefix db :=
  le_max_of_le hn le_rfl

theorem maxSerialSuffix_le {bound : ℕ}
    (hle : ∀ n ∈ suffixesOf operatorId driverPrefix db, n ≤ bound) :
    maxSerialSuffixForOperator operatorId driverPrefix db ≤ bound :=
  max_le_of_forall_le _ _ hle

/-! ## One call -/

def SerialDb.stored (key : String) (row : SerialCounter) (db : SerialDb) : SerialDb :=
  { db with counters := Function.update db.counters key (some row) }

theorem counterValue_stored (key : String) (db : SerialDb) (row : SerialCounter) :
    counterValue key (db.stored key row) = row.value := by
  have hrow : (db.stored key row).counters key = some row := Function.update_self ..
  unfold counterValue
  rw [hrow]

theorem counterValue_le (key : String) (db : SerialDb) : counterValue key db ≤ int4Max := by
  unfold counterValue
  cases db.counters key with
  | none => decide
  | some row => exact row.value_le

theorem stored_stored (row row' : SerialCounter) :
    (db.stored key row).stored key row' = db.stored key row' := by
  unfold SerialDb.stored
  simp only [Function.update_idem]

theorem commits_storeCounter {value : ℤ} (hvalue : value ≤ int4Max) :
    (storeCounter key value).Commits db () (db.stored key ⟨value, hvalue⟩) := by
  unfold storeCounter
  rw [dif_pos hvalue]
  exact commits_modify.2 rfl

theorem throws_storeCounter {value : ℤ} (hvalue : ¬ value ≤ int4Max) :
    (storeCounter key value).Throws db .outOfRange db := by
  unfold storeCounter
  rw [dif_neg hvalue]
  exact throws_throw.2 ⟨rfl, rfl⟩

theorem commits_incrementCounter (hnext : counterValue key db + 1 ≤ int4Max) :
    (incrementCounter key).Commits db (counterValue key db + 1)
      (db.stored key ⟨counterValue key db + 1, hnext⟩) :=
  commits_bind.2 ⟨_, db, commits_reads.2 ⟨rfl, rfl⟩,
    commits_bind.2 ⟨(), _, commits_storeCounter hnext, commits_pure.2 ⟨rfl, rfl⟩⟩⟩

theorem throws_incrementCounter (hnext : ¬ counterValue key db + 1 ≤ int4Max) :
    (incrementCounter key).Throws db .outOfRange db :=
  throws_bind.2 (.inr ⟨_, db, commits_reads.2 ⟨rfl, rfl⟩,
    throws_bind.2 (.inl (throws_storeCounter hnext))⟩)

def raisedCounter (operatorId : Uuid) (driverPrefix : String) (read : SerialReads)
    (db : SerialDb) : ℤ :=
  if counterValue (orderSerialKeyForUser operatorId) read.counter <
      counterFloor operatorId driverPrefix read then
    counterFloor operatorId driverPrefix read
  else counterValue (orderSerialKeyForUser operatorId) db

def stampFrom (operatorId : Uuid) (driverPrefix : String) (read : SerialReads) :
    SerialTx (Option String) := do
  whenever (counterValue (orderSerialKeyForUser operatorId) read.counter <
      counterFloor operatorId driverPrefix read)
    (storeCounter (orderSerialKeyForUser operatorId) (counterFloor operatorId driverPrefix read))
  let next ← incrementCounter (orderSerialKeyForUser operatorId)
  return some (serialText driverPrefix next)

theorem stampOrderSerial_outcome (read : SerialReads)
    (hletters : driverPrefixOf operatorId db = some driverPrefix) :
    (stampOrderSerial (some operatorId) read).outcome db =
      (stampFrom operatorId driverPrefix read).outcome db := by
  have hread : (reads (driverPrefixOf operatorId) : SerialTx _).outcome db =
      (.ok (some driverPrefix), db) := commits_reads.2 ⟨hletters, rfl⟩
  unfold stampOrderSerial
  simp only
  rw [outcome_bind, hread]
  rfl

theorem stampFrom_commits (hfits : raisedCounter operatorId driverPrefix read db + 1 ≤ int4Max) :
    (stampFrom operatorId driverPrefix read).Commits db
      (some (serialText driverPrefix (raisedCounter operatorId driverPrefix read db + 1)))
      (db.stored (orderSerialKeyForUser operatorId)
        ⟨raisedCounter operatorId driverPrefix read db + 1, hfits⟩) := by
  unfold raisedCounter at hfits ⊢
  unfold stampFrom
  by_cases hfloor : counterValue (orderSerialKeyForUser operatorId) read.counter <
      counterFloor operatorId driverPrefix read
  · simp only [if_pos hfloor] at hfits ⊢
    have hle : counterFloor operatorId driverPrefix read ≤ int4Max := by omega
    have hvalue := counterValue_stored (orderSerialKeyForUser operatorId) db
      ⟨counterFloor operatorId driverPrefix read, hle⟩
    refine commits_bind.2 ⟨(), _, commits_whenever.2 (.inl ⟨hfloor, commits_storeCounter hle⟩), ?_⟩
    refine commits_bind.2 ⟨_, _, commits_incrementCounter (by rw [hvalue]; exact hfits), ?_⟩
    simp only [hvalue, stored_stored]
    exact commits_pure.2 ⟨rfl, rfl⟩
  · simp only [if_neg hfloor] at hfits ⊢
    exact commits_bind.2 ⟨(), db, commits_whenever.2 (.inr ⟨hfloor, rfl⟩),
      commits_bind.2 ⟨_, _, commits_incrementCounter hfits, commits_pure.2 ⟨rfl, rfl⟩⟩⟩

theorem stampFrom_throws (hfits : ¬ raisedCounter operatorId driverPrefix read db + 1 ≤ int4Max) :
    ∃ t, (stampFrom operatorId driverPrefix read).Throws db .outOfRange t := by
  unfold raisedCounter at hfits
  unfold stampFrom
  by_cases hfloor : counterValue (orderSerialKeyForUser operatorId) read.counter <
      counterFloor operatorId driverPrefix read
  · rw [if_pos hfloor] at hfits
    by_cases hle : counterFloor operatorId driverPrefix read ≤ int4Max
    · have hvalue := counterValue_stored (orderSerialKeyForUser operatorId) db
        ⟨counterFloor operatorId driverPrefix read, hle⟩
      exact ⟨_, throws_bind.2 (.inr ⟨(), _,
        commits_whenever.2 (.inl ⟨hfloor, commits_storeCounter hle⟩),
        throws_bind.2 (.inl (throws_incrementCounter (by rw [hvalue]; exact hfits)))⟩)⟩
    · exact ⟨_, throws_bind.2 (.inl (throws_whenever.2 ⟨hfloor, throws_storeCounter hle⟩))⟩
  · rw [if_neg hfloor] at hfits
    exact ⟨_, throws_bind.2 (.inr ⟨(), db, commits_whenever.2 (.inr ⟨hfloor, rfl⟩),
      throws_bind.2 (.inl (throws_incrementCounter hfits))⟩)⟩

def SerialDb.withOrder (call : SerialCall) (serialNumber : Option String) (db : SerialDb) :
    SerialDb :=
  { db with
    orders := db.orders.insertNew call.keys (call.data.order serialNumber) fun _ => rfl }

theorem carried_withOrder {serial : String} {serialNumber : Option String} :
    CarriedSerial serial (db.withOrder call serialNumber) ↔
      CarriedSerial serial db ∨ serialNumber = some serial := by
  unfold CarriedSerial
  change (∃ order ∈ db.orders.rows ++ [_], _) ↔ _
  constructor
  · rintro ⟨order, horder, hserial⟩
    rcases mem_append.1 horder with hold | hnew
    · exact .inl ⟨order, hold, hserial⟩
    · rw [mem_singleton.1 hnew] at hserial
      exact .inr hserial
  · rintro (⟨order, hold, hserial⟩ | hnew)
    · exact ⟨order, mem_append_left _ hold, hserial⟩
    · exact ⟨_, mem_append_right _ (mem_singleton_self _), hnew⟩

theorem SerialCall.outcome_of_stamped {serialNumber : Option String} {stamped : SerialDb}
    (horders : stamped.orders = db.orders)
    (hstamped : (stampOrderSerial call.data.driverId call.read).Commits db serialNumber stamped) :
    call.outcome db =
      if ∃ serial ∈ serialNumber, CarriedSerial serial db then (.error .uniqueViolation, db)
      else (.ok (), stamped.withOrder call serialNumber) := by
  have hcarried : (∃ serial ∈ serialNumber, CarriedSerial serial stamped) ↔
      ∃ serial ∈ serialNumber, CarriedSerial serial db := by
    unfold CarriedSerial
    rw [horders]
  unfold outcome createStampedOrder
  by_cases htaken : ∃ serial ∈ serialNumber, CarriedSerial serial db
  · rw [if_pos htaken]
    refine throws_atomically.2 ⟨stamped, throws_bind.2 (.inr ⟨_, stamped, hstamped, ?_⟩), rfl⟩
    unfold insertOrder
    refine throws_bind.2 (.inr ⟨true, stamped, commits_reads.2 ⟨?_, rfl⟩, ?_⟩)
    · exact decide_eq_true (hcarried.2 htaken)
    · exact throws_bind.2 (.inl (throws_require.2 ⟨Bool.noConfusion, rfl, rfl⟩))
  · rw [if_neg htaken]
    refine commits_atomically.2 (commits_bind.2 ⟨_, stamped, hstamped, ?_⟩)
    unfold insertOrder
    refine commits_bind.2 ⟨false, stamped, commits_reads.2 ⟨?_, rfl⟩, ?_⟩
    · exact decide_eq_false fun hsome => htaken (hcarried.1 hsome)
    · exact commits_bind.2 ⟨(), stamped, commits_require.2 ⟨rfl, rfl⟩, commits_modify.2 rfl⟩

theorem SerialCall.cases (call : SerialCall) (db : SerialDb)
    (hdriver : call.data.driverId = some operatorId) :
    (driverPrefixOf operatorId db = none ∧ call.serial db = none ∧
        call.outcome db = (.ok (), db.withOrder call none)) ∨
      (∃ driverPrefix, driverPrefixOf operatorId db = some driverPrefix ∧
        ¬ raisedCounter operatorId driverPrefix call.read db + 1 ≤ int4Max ∧
        call.serial db = none ∧ call.outcome db = (.error .outOfRange, db)) ∨
      ∃ driverPrefix, ∃ hfits : raisedCounter operatorId driverPrefix call.read db + 1 ≤ int4Max,
        driverPrefixOf operatorId db = some driverPrefix ∧
        call.serial db =
          some (serialText driverPrefix (raisedCounter operatorId driverPrefix call.read db + 1)) ∧
        call.outcome db = if CarriedSerial (serialText driverPrefix
              (raisedCounter operatorId driverPrefix call.read db + 1)) db then
            (.error .uniqueViolation, db)
          else (.ok (), (db.stored (orderSerialKeyForUser operatorId)
            ⟨raisedCounter operatorId driverPrefix call.read db + 1, hfits⟩).withOrder call
              (some (serialText driverPrefix
                (raisedCounter operatorId driverPrefix call.read db + 1)))) := by
  cases hletters : driverPrefixOf operatorId db with
  | none =>
      have hstamped : (stampOrderSerial call.data.driverId call.read).Commits db none db := by
        rw [hdriver]
        exact commits_bind.2 ⟨none, db, commits_reads.2 ⟨hletters, rfl⟩, commits_pure.2 ⟨rfl, rfl⟩⟩
      refine .inl ⟨rfl, ?_, ?_⟩
      · unfold serial
        rw [hstamped]
      · rw [call.outcome_of_stamped rfl hstamped, if_neg]
        rintro ⟨serial, hserial, _⟩
        cases hserial
  | some driverPrefix =>
      have houtcome := stampOrderSerial_outcome call.read hletters
      rw [← hdriver] at houtcome
      by_cases hfits : raisedCounter operatorId driverPrefix call.read db + 1 ≤ int4Max
      · have hstamped : (stampOrderSerial call.data.driverId call.read).Commits db _ _ :=
          houtcome.trans (stampFrom_commits hfits)
        refine .inr (.inr ⟨driverPrefix, hfits, rfl, ?_, ?_⟩)
        · unfold serial
          rw [hstamped]
        · have horders : (db.stored (orderSerialKeyForUser operatorId)
              ⟨_, hfits⟩).orders = db.orders := rfl
          rw [call.outcome_of_stamped horders hstamped]
          simp
      · obtain ⟨t, hthrows⟩ := stampFrom_throws hfits
        have hthrown := houtcome.trans hthrows
        refine .inr (.inl ⟨driverPrefix, rfl, hfits, ?_, ?_⟩)
        · unfold serial
          rw [hthrown]
        · exact throws_atomically.2 ⟨t, throws_bind.2 (.inl hthrown), rfl⟩

/-! ## The stream of an operator -/

def streamBase (operatorId : Uuid) (driverPrefix : String) (start : SerialDb) : ℤ :=
  max (counterValue (orderSerialKeyForUser operatorId) start)
    (maxSerialSuffixForOperator operatorId driverPrefix start)

/-- The last number that is used up, the base before any is drawn. -/
def streamTop (operatorId : Uuid) (base : ℤ) (db : SerialDb) : ℤ :=
  max base (counterValue (orderSerialKeyForUser operatorId) db)

def StreamGrows (operatorId : Uuid) (base : ℤ) (before after : SerialDb) : Prop :=
  streamTop operatorId base before ≤ streamTop operatorId base after

instance (operatorId : Uuid) (base : ℤ) : Std.Refl (StreamGrows operatorId base) :=
  ⟨fun _ => le_rfl⟩

instance (operatorId : Uuid) (base : ℤ) : IsTrans SerialDb (StreamGrows operatorId base) :=
  ⟨fun _ _ _ => le_trans⟩

/-- After calls that kept the counter: the numbers past the base are on orders up to the
counter, and no order of the operator is further. -/
structure StreamSound (operatorId : Uuid) (driverPrefix : String) (start db : SerialDb) :
    Prop where
  users : db.users = start.users
  owned : StreamOwned operatorId driverPrefix db
  atMost : (maxSerialSuffixForOperator operatorId driverPrefix db : ℤ) ≤
    streamTop operatorId (streamBase operatorId driverPrefix start) db
  atLeast : maxSerialSuffixForOperator operatorId driverPrefix start ≤
    maxSerialSuffixForOperator operatorId driverPrefix db
  used : ∀ n, streamBase operatorId driverPrefix start < n →
    n ≤ streamTop operatorId (streamBase operatorId driverPrefix start) db →
    CarriedSerial (serialText driverPrefix n) db
  fresh : counterValue (orderSerialKeyForUser operatorId) db ≤
      streamBase operatorId driverPrefix start →
    counterValue (orderSerialKeyForUser operatorId) db =
        counterValue (orderSerialKeyForUser operatorId) start ∧
      maxSerialSuffixForOperator operatorId driverPrefix db =
        maxSerialSuffixForOperator operatorId driverPrefix start

variable {start : SerialDb}

theorem StreamSound.atStart (howned : StreamOwned operatorId driverPrefix start) :
    StreamSound operatorId driverPrefix start start := by
  have htop : streamTop operatorId (streamBase operatorId driverPrefix start) start =
      streamBase operatorId driverPrefix start := max_eq_left (le_max_left _ _)
  refine ⟨rfl, howned, ?_, le_rfl, ?_, fun _ => ⟨rfl, rfl⟩⟩
  · rw [htop]
    exact le_max_right _ _
  · intro n hbase htop'
    rw [htop] at htop'
    exact absurd hbase (not_lt.2 htop')

theorem StreamSound.raised {call : SerialCall}
    (hsound : StreamSound operatorId driverPrefix start db)
    (horders : StreamSound operatorId driverPrefix start call.read.orders)
    (hcounter : StreamSound operatorId driverPrefix start call.read.counter)
    (hgrows : StreamGrows operatorId (streamBase operatorId driverPrefix start)
      call.read.orders db)
    (hgrows' : StreamGrows operatorId (streamBase operatorId driverPrefix start)
      call.read.counter db)
    (hletters : driverPrefixOf operatorId db = some driverPrefix) :
    (call.KeepsCounter operatorId db → raisedCounter operatorId driverPrefix call.read db =
        streamTop operatorId (streamBase operatorId driverPrefix start) db) ∧
      (¬ call.KeepsCounter operatorId db → streamBase operatorId driverPrefix start ≤
            raisedCounter operatorId driverPrefix call.read db ∧
          raisedCounter operatorId driverPrefix call.read db <
            counterValue (orderSerialKeyForUser operatorId) db) := by
  have hatLeast := horders.atLeast
  have hatMost := horders.atMost
  have hfresh := hsound.fresh
  have hfresh₁ := horders.fresh
  have hfresh₂ := hcounter.fresh
  have hkeeps : call.KeepsCounter operatorId db ↔
      (counterValue (orderSerialKeyForUser operatorId) call.read.counter <
          counterFloor operatorId driverPrefix call.read →
        counterValue (orderSerialKeyForUser operatorId) db ≤
          counterFloor operatorId driverPrefix call.read) := by
    constructor
    · intro hcall
      exact hcall driverPrefix hletters
    · intro hcall other hother
      cases Option.some.inj (hletters.symm.trans hother)
      exact hcall
  rw [hkeeps]
  unfold StreamGrows streamTop streamBase at *
  unfold raisedCounter counterFloor
  constructor
  · intro hcall
    split
    · omega
    · omega
  · intro hcall
    rw [Classical.not_imp] at hcall
    rw [if_pos hcall.1]
    omega

theorem StreamSound.not_carried {n : ℤ} (hsound : StreamSound operatorId driverPrefix start db)
    (htop : streamTop operatorId (streamBase operatorId driverPrefix start) db < n)
    (hle : n ≤ int4Max) :
    ¬ CarriedSerial (serialText driverPrefix n) db := by
  rintro ⟨order, horder, hserial⟩
  have hbase : 0 ≤ streamBase operatorId driverPrefix start :=
    le_trans (Int.natCast_nonneg _) (le_max_right _ _)
  have hnonneg : 0 ≤ n := le_of_lt (lt_of_le_of_lt (le_trans hbase (le_max_left _ _)) htop)
  obtain ⟨m, rfl⟩ := Int.eq_ofNat_of_zero_le hnonneg
  have hsuffix := serialSuffix_serialText driverPrefix (isFiniteNumber_of_le hle)
  have hdriver := hsound.owned order horder _ hserial (hsuffix ▸ Option.some_ne_none _)
  have hmem : m ∈ suffixesOf operatorId driverPrefix db := by
    apply mem_filterMap.2
    refine ⟨order, mem_filter.2 ⟨horder, decide_eq_true hdriver⟩, ?_⟩
    rw [hserial]
    exact hsuffix
  have hmax := le_maxSerialSuffix hmem
  have hatMost := hsound.atMost
  omega

theorem suffixesOf_withOrder {serial : String} (hdriver : call.data.driverId = some operatorId) :
    suffixesOf operatorId driverPrefix (db.withOrder call (some serial)) =
      suffixesOf operatorId driverPrefix db ++ (serialSuffix driverPrefix serial).toList := by
  unfold suffixesOf
  change List.filterMap _ (List.filter _ (db.orders.rows ++ [_])) = _
  rw [filter_append, filterMap_append]
  congr 1
  cases hsuffix : serialSuffix driverPrefix serial with
  | none => simp [OrderData.order, hdriver, hsuffix]
  | some n => simp [OrderData.order, hdriver, hsuffix]

def SerialDb.stamped (call : SerialCall) (operatorId : Uuid) (driverPrefix : String)
    (row : SerialCounter) (db : SerialDb) : SerialDb :=
  (db.stored (orderSerialKeyForUser operatorId) row).withOrder call
    (some (serialText driverPrefix row.value))

theorem StreamSound.stamped {row : SerialCounter} (hdriver : call.data.driverId = some operatorId)
    (hsound : StreamSound operatorId driverPrefix start db)
    (hrow : row.value = streamTop operatorId (streamBase operatorId driverPrefix start) db + 1) :
    StreamSound operatorId driverPrefix start (db.stamped call operatorId driverPrefix row) ∧
      StreamGrows operatorId (streamBase operatorId driverPrefix start) db
        (db.stamped call operatorId driverPrefix row) := by
  have hvalue : counterValue (orderSerialKeyForUser operatorId)
      (db.stamped call operatorId driverPrefix row) = row.value := counterValue_stored _ _ row
  have hbase : 0 ≤ streamBase operatorId driverPrefix start :=
    le_trans (Int.natCast_nonneg _) (le_max_right _ _)
  have hbelow : streamBase operatorId driverPrefix start ≤
      streamTop operatorId (streamBase operatorId driverPrefix start) db := le_max_left _ _
  have htop : streamTop operatorId (streamBase operatorId driverPrefix start)
      (db.stamped call operatorId driverPrefix row) = row.value := by
    unfold streamTop
    rw [hvalue]
    omega
  obtain ⟨n, hn⟩ := Int.eq_ofNat_of_zero_le (show 0 ≤ row.value by omega)
  have hsuffix : serialSuffix driverPrefix (serialText driverPrefix row.value) = some n := by
    rw [hn]
    exact serialSuffix_serialText _ (isFiniteNumber_of_le (hn ▸ row.value_le))
  have hnumbers : suffixesOf operatorId driverPrefix
      (db.stamped call operatorId driverPrefix row) =
        suffixesOf operatorId driverPrefix db ++ [n] := by
    unfold SerialDb.stamped
    rw [suffixesOf_withOrder hdriver, hsuffix]
    rfl
  have hatMost := hsound.atMost
  have hmax : maxSerialSuffixForOperator operatorId driverPrefix
      (db.stamped call operatorId driverPrefix row) = n := by
    apply le_antisymm
    · apply maxSerialSuffix_le
      intro m hm
      rw [hnumbers] at hm
      rcases mem_append.1 hm with hold | hnew
      · have hle := le_maxSerialSuffix hold
        omega
      · exact le_of_eq (mem_singleton.1 hnew)
    · apply le_maxSerialSuffix
      rw [hnumbers]
      exact mem_append_right _ (mem_singleton_self n)
  refine ⟨⟨hsound.users, ?_, ?_, ?_, ?_, ?_⟩, ?_⟩
  · intro order horder serial hserial hstream
    rcases mem_append.1 horder with hold | hnew
    · exact hsound.owned order hold serial hserial hstream
    · rw [mem_singleton.1 hnew]
      exact hdriver
  · rw [hmax, htop, hn]
  · have hatLeast := hsound.atLeast
    rw [hmax]
    omega
  · intro k hk hktop
    rw [htop] at hktop
    refine carried_withOrder.2 ?_
    by_cases hlast : k = row.value
    · exact .inr (by rw [hlast])
    · exact .inl (hsound.used k hk (by omega))
  · intro hle
    rw [hvalue] at hle
    omega
  · unfold StreamGrows
    rw [htop]
    omega

theorem driverPrefixOf_congr (operatorId : Uuid) (husers : db.users = start.users) :
    driverPrefixOf operatorId db = driverPrefixOf operatorId start := by
  unfold driverPrefixOf
  rw [husers]

def SameUsers (before after : SerialDb) : Prop := after.users = before.users

instance : Std.Refl SameUsers := ⟨fun _ => rfl⟩

instance : IsTrans SerialDb SameUsers := ⟨fun _ _ _ hfirst hsecond => hsecond.trans hfirst⟩

/-! ## Every run -/

theorem SerialCall.free_iff {call : SerialCall} (hdriver : call.data.driverId = some operatorId)
    (hletters : driverPrefixOf operatorId start = some driverPrefix)
    (hsound : StreamSound operatorId driverPrefix start db)
    (hseen : ∀ t ∈ serialCalls.seen call, StreamSound operatorId driverPrefix start t ∧
      StreamGrows operatorId (streamBase operatorId driverPrefix start) t db) :
    ((∀ serial, call.serial db = some serial → ¬ CarriedSerial serial db) ↔
        call.KeepsCounter operatorId db) ∧
      (call.KeepsCounter operatorId db →
        StreamSound operatorId driverPrefix start (serialCalls.step call db) ∧
          StreamGrows operatorId (streamBase operatorId driverPrefix start) db
            (serialCalls.step call db)) := by
  have hhere : driverPrefixOf operatorId db = some driverPrefix :=
    (driverPrefixOf_congr operatorId hsound.users).trans hletters
  have horders := hseen call.read.orders (mem_cons_self ..)
  have hcounter := hseen call.read.counter (.tail _ (mem_cons_self ..))
  obtain ⟨hkept, hbroken⟩ := hsound.raised horders.1 hcounter.1 horders.2 hcounter.2 hhere
  rcases call.cases db hdriver with ⟨hnone, _, _⟩ |
    ⟨other, hother, hlarge, hserial, houtcome⟩ | ⟨other, hfits, hother, hserial, houtcome⟩
  · rw [hhere] at hnone
    cases hnone
  · have hstep : serialCalls.step call db = db := congrArg Prod.snd houtcome
    have hkeeps : call.KeepsCounter operatorId db := by
      by_contra hnot
      cases Option.some.inj (hhere.symm.trans hother)
      have hbelow := (hbroken hnot).2
      have hmost := counterValue_le (orderSerialKeyForUser operatorId) db
      omega
    rw [hserial, hstep]
    exact ⟨iff_of_true (fun _ hsome => by cases hsome) hkeeps, fun _ => ⟨hsound, le_refl _⟩⟩
  · cases Option.some.inj (hhere.symm.trans hother)
    have hiff : (∀ serial, call.serial db = some serial → ¬ CarriedSerial serial db) ↔
        ¬ CarriedSerial (serialText driverPrefix
          (raisedCounter operatorId driverPrefix call.read db + 1)) db := by
      rw [hserial]
      simp
    by_cases hkeeps : call.KeepsCounter operatorId db
    · have hfree : ¬ CarriedSerial (serialText driverPrefix
          (raisedCounter operatorId driverPrefix call.read db + 1)) db := by
        apply hsound.not_carried _ hfits
        rw [hkept hkeeps]
        exact lt_add_one _
      have hstep : serialCalls.step call db = db.stamped call operatorId driverPrefix
          ⟨raisedCounter operatorId driverPrefix call.read db + 1, hfits⟩ := by
        rw [if_neg hfree] at houtcome
        exact congrArg Prod.snd houtcome
      rw [hiff, hstep]
      exact ⟨iff_of_true hfree hkeeps,
        fun _ => hsound.stamped hdriver (congrArg (· + 1) (hkept hkeeps))⟩
    · obtain ⟨hlow, hhigh⟩ := hbroken hkeeps
      refine ⟨hiff.trans (iff_of_false ?_ hkeeps), fun hcontra => absurd hcontra hkeeps⟩
      intro hfree
      apply hfree
      apply hsound.used
      · exact Int.lt_add_one_of_le hlow
      · exact le_trans hhigh (le_max_right _ _)

theorem SerialCall.inserts {call : SerialCall} (hdriver : call.data.driverId = some operatorId)
    (hfree : ∀ serial, call.serial db = some serial → ¬ CarriedSerial serial db) :
    (call.outcome db).1 ≠ .error .uniqueViolation ∧
      ∀ serial, CarriedSerial serial db ∨ call.serial db = some serial →
        CarriedSerial serial (serialCalls.step call db) := by
  change _ ∧ ∀ serial, _ → CarriedSerial serial (call.outcome db).2
  rcases call.cases db hdriver with ⟨_, hserial, houtcome⟩ | ⟨_, _, _, hserial, houtcome⟩ |
    ⟨driverPrefix, hfits, _, hserial, houtcome⟩
  · rw [houtcome, hserial]
    refine ⟨by simp, ?_⟩
    rintro serial (hold | hnew)
    · exact carried_withOrder.2 (.inl hold)
    · cases hnew
  · rw [houtcome, hserial]
    refine ⟨by simp, ?_⟩
    rintro serial (hold | hnew)
    · exact hold
    · cases hnew
  · rw [if_neg (hfree _ hserial)] at houtcome
    rw [houtcome, hserial]
    refine ⟨by simp, ?_⟩
    intro serial hcarried
    exact carried_withOrder.2 hcarried

theorem serialsFresh_iff {calls : List SerialCall} {trace : List SerialDb}
    (hlog : serialCalls.Log (fun call _ => call.data.driverId = some operatorId) start calls
      trace) :
    SerialsFresh calls trace ↔ ∀ found ∈ Calls.occurrences calls trace, ∀ serial,
      found.1.serial found.2 = some serial → ¬ CarriedSerial serial found.2 := by
  constructor
  · intro hfresh
    exact hfresh.free
  · intro hfree
    have hall : SerialsFresh calls trace ∧ ∀ last ∈ trace.head?,
        ∀ serial ∈ (Calls.occurrences calls trace).filterMap fun found =>
          found.1.serial found.2, CarriedSerial serial last := by
      induction hlog with
      | start =>
          refine ⟨⟨hfree, nodup_nil, ?_⟩, ?_⟩
          · intro found hfound
            cases hfound
          · intro _ _ serial hserial
            cases hserial
      | @call db past calls call hlog _ hdriver ih =>
          have hhere : Calls.occurrences (call :: calls) (serialCalls.step call db :: db :: past) =
              (call, db) :: Calls.occurrences calls (db :: past) := rfl
          rw [hhere] at hfree ⊢
          rw [forall_mem_cons] at hfree
          obtain ⟨hbefore, hcarried⟩ := ih hfree.2
          obtain ⟨hinserted, hstays⟩ := SerialCall.inserts hdriver hfree.1
          refine ⟨⟨forall_mem_cons.2 hfree, ?_, ?_⟩, ?_⟩
          · rw [hhere, filterMap_cons]
            cases hserial : call.serial db with
            | none => exact hbefore.distinct
            | some serial =>
                refine nodup_cons.2 ⟨?_, hbefore.distinct⟩
                intro hmem
                exact hfree.1 serial hserial (hcarried db rfl serial hmem)
          · exact forall_mem_cons.2 ⟨hinserted, hbefore.inserted⟩
          · intro last hlast serial hserial
            cases hlast
            rw [mem_filterMap] at hserial
            obtain ⟨found, hfound, hgiven⟩ := hserial
            rcases mem_cons.1 hfound with rfl | hold
            · exact hstays serial (.inr hgiven)
            · exact hstays serial (.inl (hcarried db rfl serial
                (mem_filterMap.2 ⟨found, hold, hgiven⟩)))
    exact hall.1

/-- Serials stay unique exactly if no call writes a floor that the counter has passed. -/
theorem serials_fresh_iff {calls : List SerialCall} {trace : List SerialDb}
    (howned : ∀ driverPrefix, driverPrefixOf operatorId start = some driverPrefix →
      StreamOwned operatorId driverPrefix start)
    (hlog : serialCalls.Log (fun call _ => call.data.driverId = some operatorId) start calls
      trace) :
    SerialsFresh calls trace ↔
      ∀ found ∈ Calls.occurrences calls trace, found.1.KeepsCounter operatorId found.2 := by
  rw [serialsFresh_iff hlog]
  cases hletters : driverPrefixOf operatorId start with
  | some driverPrefix =>
      exact hlog.calls_iff (I := StreamSound operatorId driverPrefix start)
        (R := StreamGrows operatorId (streamBase operatorId driverPrefix start))
        (F := fun call db => ∀ serial, call.serial db = some serial → ¬ CarriedSerial serial db)
        (Q := SerialCall.KeepsCounter operatorId) (.atStart (howned driverPrefix hletters))
        fun call db hsound hseen hdriver => SerialCall.free_iff hdriver hletters hsound hseen
  | none =>
      -- an operator without a prefix is given no serials
      exact hlog.calls_iff (I := SameUsers start) (R := SameUsers)
        (F := fun call db => ∀ serial, call.serial db = some serial → ¬ CarriedSerial serial db)
        (Q := SerialCall.KeepsCounter operatorId) rfl
        fun call db husers _ hdriver => by
          have hhere := (driverPrefixOf_congr operatorId husers).trans hletters
          rcases call.cases db hdriver with ⟨_, hserial, houtcome⟩ | ⟨other, hother, _⟩ |
            ⟨other, _, hother, _⟩
          · have hsame : SameUsers db (call.outcome db).2 := by
              rw [houtcome]
              rfl
            refine ⟨iff_of_true ?_ ?_, fun _ => ⟨hsame.trans husers, hsame⟩⟩
            · intro serial hgiven
              rw [hserial] at hgiven
              cases hgiven
            · intro other hother
              rw [hhere] at hother
              cases hother
          · rw [hhere] at hother
            cases hother
          · rw [hhere] at hother
            cases hother

namespace Sample

/-- An operator with one order, from the time before the counters. -/
def oldStream : SerialDb where
  users := ⟨[⟨"driver", some "A"⟩], nodup_singleton _⟩
  counters := fun _ => none
  orders := ⟨[⟨"old", some "driver", some "A-7", .COMPLETED, .PAID_TO_DRIVER, none⟩],
    nodup_singleton _⟩

def firstStamp : SerialCall := ⟨.text, ⟨some "driver", .PENDING, .UNPAID⟩, ⟨oldStream, oldStream⟩⟩

def stampedOnce : SerialDb := serialCalls.step firstStamp oldStream

theorem oldStream_owned :
    ∀ driverPrefix, driverPrefixOf "driver" oldStream = some driverPrefix →
      StreamOwned "driver" driverPrefix oldStream := by
  intro driverPrefix _ order horder _ _ _
  rw [mem_singleton.1 horder]

theorem firstStamp_reads {db : SerialDb} (hdb : db ∈ serialCalls.seen firstStamp) :
    db = oldStream := by
  rcases mem_cons.1 hdb with hfirst | hrest
  · exact hfirst
  · exact mem_singleton.1 hrest

theorem stamped_once :
    serialCalls.Log (fun call _ => call.data.driverId = some "driver") oldStream [firstStamp]
      [stampedOnce, oldStream] :=
  Calls.Log.call firstStamp .start
    (fun _ hdb => firstStamp_reads hdb ▸ mem_singleton_self _) rfl

theorem stamped_twice :
    serialCalls.Log (fun call _ => call.data.driverId = some "driver") oldStream
      [firstStamp, firstStamp]
      [serialCalls.step firstStamp stampedOnce, stampedOnce, oldStream] :=
  Calls.Log.call firstStamp stamped_once
    (fun _ hdb => firstStamp_reads hdb ▸ .tail _ (mem_singleton_self _)) rfl

end Sample

theorem serials_fresh_iff_sample :
    SerialsFresh [Sample.firstStamp] [Sample.stampedOnce, Sample.oldStream] ↔
      ∀ found ∈ Calls.occurrences [Sample.firstStamp] [Sample.stampedOnce, Sample.oldStream],
        found.1.KeepsCounter "driver" found.2 :=
  serials_fresh_iff Sample.oldStream_owned Sample.stamped_once

theorem serials_fresh_fails :
    ¬ ∀ (operatorId : Uuid) (start : SerialDb) (calls : List SerialCall) (trace : List SerialDb),
      (∀ driverPrefix, driverPrefixOf operatorId start = some driverPrefix →
        StreamOwned operatorId driverPrefix start) →
      serialCalls.Log (fun call _ => call.data.driverId = some operatorId) start calls trace →
      SerialsFresh calls trace := by
  intro hall
  have hfresh := hall "driver" _ _ _ Sample.oldStream_owned Sample.stamped_twice
  have hrefused := hfresh.inserted (Sample.firstStamp, Sample.stampedOnce) (mem_cons_self ..)
  apply hrefused
  decide +kernel

end SafariLaundry
