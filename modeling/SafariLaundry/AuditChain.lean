import SafariLaundry.Domain
import SafariLaundry.Library.HashChain
import SafariLaundry.Library.History
import SafariLaundry.Library.Json

/-!
# The audit log as a hash chain

One of the writers of the audit log names the hash of the row before and hashes its
payload behind it; the others leave both columns empty.  The verifier walks the rows by
their time and hashes again what the payload column returns.
-/

namespace SafariLaundry.AuditChain

open Library Library.HashChain Library.Transaction

structure AuditLog where
  id : Uuid
  (userId customerId : Option Uuid)
  action : String
  source : Option String
  payload : Option Json
  (hash prevHash : Option String)
  (timestamp createdAt : Timestamp)

structure AuditDb where
  logs : Table AuditLog.id
  (users customers : List Uuid)

inductive AuditError
  | foreignKey (constraint : String)
  | uniqueConstraint
  deriving DecidableEq

abbrev AuditTx (α : Type) := Library.Transaction AuditError AuditDb α

/-- The key and the time that a new row gets. -/
structure Stamp where
  id : Uuid
  createdAt : Timestamp

def AuditLog.key (row : AuditLog) : Timestamp ×ₗ Uuid := toLex (row.createdAt, row.id)

def inChainOrder (db : AuditDb) : List AuditLog :=
  db.logs.rows.insertionSort fun first second => first.key ≤ second.key

def KnownUser (userId : Option Uuid) (db : AuditDb) : Prop := ∀ id ∈ userId, id ∈ db.users
  deriving Decidable

def KnownCustomer (customerId : Option Uuid) (db : AuditDb) : Prop :=
  ∀ id ∈ customerId, id ∈ db.customers
  deriving Decidable

def createAuditLog (row : AuditLog) : AuditTx Unit := do
  let knownUser ← reads fun db => decide (KnownUser row.userId db)
  require (knownUser = true) (.foreignKey "AuditLog_userId_fkey")
  let knownCustomer ← reads fun db => decide (KnownCustomer row.customerId db)
  require (knownCustomer = true) (.foreignKey "AuditLog_customerId_fkey")
  let logs ← fetch (fun db => db.logs.insert row) .uniqueConstraint
  modify fun db => { db with logs := logs }

/-! ## The chained writer -/

inductive AuditStatus
  | SUCCESS | DENIED

def AuditStatus.name : AuditStatus → String
  | .SUCCESS => "SUCCESS"
  | .DENIED => "DENIED"

structure AuditInput where
  userId : Option Uuid
  role : Option String
  (action resource : String)
  (customerId orderId : Option Uuid)
  /-- A text or a number. -/
  amount : Option Json
  (source endpoint method : Option String)
  status : AuditStatus
  (ip userAgent requestId : Option String)
  suspicious : Option Bool
  changes : Option (List (String × Json))

structure AuditChainCreateInput where
  (userId customerId : Option Uuid)
  action : String
  source : Option String
  payload : Json

structure AuditEnv where
  (stamp retryStamp : Stamp)
  nowIso : String

def textOrNull (value : Option String) : Json := (value.map Json.string).getD .null

def payloadMembers (env : AuditEnv) (input : AuditInput) (userId : Option Uuid) :
    List (String × Json) :=
  [("actorId", textOrNull input.userId), ("userId", textOrNull userId),
   ("role", textOrNull input.role),
   ("action", .string input.action),
   ("resource", .string input.resource),
   ("customerId", textOrNull input.customerId),
   ("orderId", textOrNull input.orderId),
   ("amount", input.amount.getD .null),
   ("source", textOrNull input.source),
   ("endpoint", textOrNull input.endpoint),
   ("method", textOrNull input.method),
   ("status", .string input.status.name),
   ("ip", textOrNull input.ip),
   ("userAgent", textOrNull input.userAgent),
   ("requestId", textOrNull input.requestId),
   ("suspicious", .bool (input.suspicious.getD false)),
   ("changes", .object (input.changes.getD [])),
   ("createdAt", .string env.nowIso)]

def payload (env : AuditEnv) (input : AuditInput) : Json :=
  .object (payloadMembers env input input.userId)

def fallbackPayload (env : AuditEnv) (input : AuditInput) : Json :=
  .object (payloadMembers env input none ++ [("missingUserId", textOrNull input.userId)])

variable (sha256 : String → String)

def auditHash (prevHash : String) (payload : Json) : String :=
  sha256 (prevHash ++ payload.stringify)

def previousHash (db : AuditDb) : String :=
  ((inChainOrder db).getLast?.bind AuditLog.hash).getD "GENESIS"

def AuditChainCreateInput.row (data : AuditChainCreateInput) (stamp : Stamp)
    (prevHash hash : String) : AuditLog where
  id := stamp.id
  userId := data.userId
  customerId := data.customerId
  action := data.action
  source := data.source
  payload := some data.payload
  hash := some hash
  prevHash := some prevHash
  timestamp := stamp.createdAt
  createdAt := stamp.createdAt

def appendChained (stamp : Stamp) (data : AuditChainCreateInput) (payload : Json) :
    AuditTx Unit :=
  atomically (fun before _ => before) do
    let prevHash ← reads previousHash
    createAuditLog (data.row stamp prevHash (auditHash sha256 prevHash payload))

def AuditInput.data (input : AuditInput) (userId : Option Uuid) (payload : Json) :
    AuditChainCreateInput :=
  ⟨userId, input.customerId, input.action, input.source, payload⟩

def isAuditUserForeignKeyError (error : AuditError) : Bool :=
  error = .foreignKey "AuditLog_userId_fkey"

def write (env : AuditEnv) (input : AuditInput) : AuditTx Unit :=
  tryCatch
    (appendChained sha256 env.stamp (input.data input.userId (payload env input))
      (payload env input))
    fun error =>
      if isAuditUserForeignKeyError error = true ∧ input.userId ≠ none then
        appendChained sha256 env.retryStamp (input.data none (fallbackPayload env input))
          (fallbackPayload env input)
      else throw error

def log (env : AuditEnv) (input : AuditInput) : AuditTx Unit :=
  tryCatch (write sha256 env input) fun _ => pure ()

structure GapReport where
  gapCount : ℕ

def recordScanAudit (stamp : Stamp) (report : GapReport) : AuditTx Unit :=
  createAuditLog {
    id := stamp.id
    userId := none
    customerId := none
    action := if 0 < report.gapCount then "ORDER_SERIAL_GAP_DETECTED"
      else "ORDER_SERIAL_GAP_SCAN_CLEAN"
    source := none
    payload := none
    hash := none
    prevHash := none
    timestamp := stamp.createdAt
    createdAt := stamp.createdAt }

inductive AnomalyType
  | DOUBLE_COUNT_DETECTED | SUBSCRIPTION_SOURCE_ANOMALY | OVERPAYMENT_DETECTED

def AnomalyType.name : AnomalyType → String
  | .DOUBLE_COUNT_DETECTED => "DOUBLE_COUNT_DETECTED"
  | .SUBSCRIPTION_SOURCE_ANOMALY => "SUBSCRIPTION_SOURCE_ANOMALY"
  | .OVERPAYMENT_DETECTED => "OVERPAYMENT_DETECTED"

structure CustomerFinancialAnomaly where
  type : AnomalyType
  orderId : Option Uuid
  source : Option String

def CustomerFinancialAnomaly.origin (flag : CustomerFinancialAnomaly) : String :=
  (flag.orderId.orElse fun _ => flag.source).getD "customer"

def AuditLog.Reports (row : AuditLog) (customerId : Uuid) (since : Timestamp)
    (flag : CustomerFinancialAnomaly) : Prop :=
  row.customerId = some customerId ∧ row.action = flag.type.name ∧
    row.source = some flag.origin ∧ since ≤ row.timestamp
  deriving Decidable

/-- The stamp of the row that is inserted next, and the start of the day. -/
structure AnomalyEnv where
  stamp : ℕ → Stamp
  since : Timestamp

def logFinancialAnomaly (env : AnomalyEnv) (customerId : Uuid)
    (flag : CustomerFinancialAnomaly) : AuditTx Unit := do
  let existing ← reads fun db =>
    db.logs.rows.find? fun row => row.Reports customerId env.since flag
  let stamp ← reads fun db => env.stamp db.logs.rows.length
  whenever (existing.isNone = true) do
    createAuditLog {
      id := stamp.id
      userId := none
      customerId := some customerId
      action := flag.type.name
      source := some flag.origin
      payload := none
      hash := none
      prevHash := none
      timestamp := stamp.createdAt
      createdAt := stamp.createdAt }

def logFinancialAnomalies (env : AnomalyEnv) (customerId : Uuid)
    (flags : List CustomerFinancialAnomaly) : AuditTx Unit :=
  flags.forM (logFinancialAnomaly env customerId)

variable (column : Json.Column)

def AuditLog.readPayload (row : AuditLog) : Json :=
  (row.payload.map column.returned).getD (.object [])

def brokenRow : String → List AuditLog → Option Uuid
  | _, [] => none
  | prevHash, row :: rest =>
      if row.prevHash ≠ some prevHash ∨
          row.hash ≠ some (auditHash sha256 prevHash (row.readPayload column)) then
        some row.id
      else brokenRow (row.hash.getD "") rest

structure AuditIntegrity where
  valid : Bool
  checked : ℕ
  brokenAt : Option Uuid

def verifyAuditIntegrity (db : AuditDb) : AuditIntegrity :=
  let rows := inChainOrder db
  match brokenRow sha256 column "GENESIS" rows with
  | some id => ⟨false, rows.length, some id⟩
  | none => ⟨true, rows.length, none⟩

def AuditLog.link (row : AuditLog) : Link (Option String) String :=
  ⟨row.prevHash, (row.readPayload column).stringify, row.hash⟩

def chainDigest (prevHash : Option String) (text : String) : Option String :=
  some (sha256 (prevHash.getD "" ++ text))

variable {sha256 column}

theorem brokenRow_eq_none_iff {prevHash : String} {rows : List AuditLog} :
    brokenRow sha256 column prevHash rows = none ↔
      Chained (chainDigest sha256) (some prevHash) (rows.map (AuditLog.link column)) := by
  induction rows generalizing prevHash with
  | nil => simp [brokenRow, Chained]
  | cons row rest ih =>
      rw [brokenRow, List.map_cons, Chained]
      by_cases hfits : row.prevHash = some prevHash ∧
          row.hash = some (auditHash sha256 prevHash (row.readPayload column))
      · have hhash : (row.link column).hash = some (row.hash.getD "") := by
          change row.hash = _
          rw [hfits.2]
          rfl
        rw [if_neg (by simp [hfits.1, hfits.2]), ih, hhash]
        constructor
        · intro hrest
          exact ⟨hfits.1, hhash.symm.trans hfits.2, hrest⟩
        · rintro ⟨_, _, hrest⟩
          exact hrest
      · rw [if_pos (by simpa only [ne_eq, ← not_and_or] using hfits)]
        constructor
        · intro hnone
          cases hnone
        · rintro ⟨hprev, hhash, _⟩
          exact absurd ⟨hprev, hhash⟩ hfits

def links (column : Json.Column) (db : AuditDb) : List (Link (Option String) String) :=
  (inChainOrder db).map (AuditLog.link column)

theorem verifyAuditIntegrity_valid_iff {db : AuditDb} :
    (verifyAuditIntegrity sha256 column db).valid = true ↔
      Chained (chainDigest sha256) (some "GENESIS") (links column db) := by
  unfold links
  rw [← brokenRow_eq_none_iff]
  unfold verifyAuditIntegrity
  cases hbroken : brokenRow sha256 column "GENESIS" (inChainOrder db) with
  | none => simp [hbroken]
  | some id => simp [hbroken]

/-! ## One last hash, one chain -/

def IsHexDigest (digest : String) : Prop :=
  digest.toList.length = 64 ∧ ∀ c ∈ digest.toList, c ∈ "0123456789abcdef".toList

def hashedTexts (column : Json.Column) (db : AuditDb) : List String :=
  (links column db).map fun link => link.prev.getD "" ++ link.payload

def lastHash (db : AuditDb) : Option (Option String) :=
  (inChainOrder db).getLast?.map AuditLog.hash

theorem chainHead_links {db : AuditDb} :
    chainHead (some "GENESIS") (links column db) = (lastHash db).getD (some "GENESIS") := by
  unfold chainHead links lastHash
  rw [List.getLast?_map, Option.map_map]
  rfl

theorem genesis_not_hex {digest text text' : String} (hhex : IsHexDigest digest)
    (hsame : "GENESIS" ++ text = digest ++ text') : False := by
  have hlists : "GENESIS".toList ++ text.toList = digest.toList ++ text'.toList := by
    rw [← String.toList_append, ← String.toList_append, hsame]
  cases hdigits : digest.toList with
  | nil =>
      have hlength := hhex.1
      rw [hdigits] at hlength
      cases hlength
  | cons first rest =>
      rw [hdigits] at hlists
      have hfirst : 'G' = first := (List.cons.inj hlists).1
      have hhexFirst := hhex.2 first (by rw [hdigits]; exact List.mem_cons_self ..)
      rw [← hfirst] at hhexFirst
      revert hhexFirst
      decide

theorem hashedText_inj {prev prev' : Option String} {text text' : String}
    (hprev : prev = some "GENESIS" ∨ ∃ digest, IsHexDigest digest ∧ prev = some digest)
    (hprev' : prev' = some "GENESIS" ∨ ∃ digest, IsHexDigest digest ∧ prev' = some digest)
    (hsame : prev.getD "" ++ text = prev'.getD "" ++ text') :
    prev = prev' ∧ text = text' := by
  have hcut : ∀ digest digest' : String, digest.toList.length = digest'.toList.length →
      digest ++ text = digest' ++ text' → digest = digest' ∧ text = text' := by
    intro digest digest' hlength htexts
    have hlists : digest.toList ++ text.toList = digest'.toList ++ text'.toList := by
      rw [← String.toList_append, ← String.toList_append, htexts]
    obtain ⟨hdigests, hrest⟩ := List.append_inj hlists hlength
    exact ⟨String.toList_inj.1 hdigests, String.toList_inj.1 hrest⟩
  rcases hprev with rfl | ⟨digest, hhex, rfl⟩
  · rcases hprev' with rfl | ⟨digest', hhex', rfl⟩
    · obtain ⟨_, htexts⟩ := hcut "GENESIS" "GENESIS" rfl hsame
      exact ⟨rfl, htexts⟩
    · exact (genesis_not_hex hhex' hsame).elim
  · rcases hprev' with rfl | ⟨digest', hhex', rfl⟩
    · exact (genesis_not_hex hhex hsame.symm).elim
    · obtain ⟨hdigests, htexts⟩ := hcut digest digest' (hhex.1.trans hhex'.1.symm) hsame
      exact ⟨congrArg some hdigests, htexts⟩

/-- Two accepted tables with one last hash have as many rows, with the same texts,
`prevHash` and `hash` in the order of the verifier, if no two of the texts hashed in
verifying them collide. -/
theorem acceptedTables_agree {column column' : Json.Column} {db db' : AuditDb}
    (hhex : ∀ text, IsHexDigest (sha256 text))
    (hcollisionFree : ∀ text ∈ hashedTexts column db, ∀ text' ∈ hashedTexts column' db',
      sha256 text = sha256 text' → text = text')
    (hvalid : (verifyAuditIntegrity sha256 column db).valid = true)
    (hvalid' : (verifyAuditIntegrity sha256 column' db').valid = true)
    (hlast : lastHash db = lastHash db') :
    db.logs.rows.length = db'.logs.rows.length ∧ links column db = links column' db' := by
  have hchained := verifyAuditIntegrity_valid_iff.1 hvalid
  have hchained' := verifyAuditIntegrity_valid_iff.1 hvalid'
  have hprev : ∀ {column : Json.Column} {db : AuditDb},
      Chained (chainDigest sha256) (some "GENESIS") (links column db) →
      ∀ link ∈ links column db,
        link.prev = some "GENESIS" ∨ ∃ digest, IsHexDigest digest ∧ link.prev = some digest := by
    intro column db hchained link hlink
    rcases hchained.prev_eq link hlink with hgenesis | ⟨other, _, hdigest⟩
    · exact .inl hgenesis
    · exact .inr ⟨_, hhex _, hdigest⟩
  have hlinks : links column db = links column' db' := by
    apply hchained.eq_of_chainHead_eq hchained'
    · intro link hlink link' hlink' hdigest
      have htexts := hcollisionFree _ (List.mem_map_of_mem hlink) _ (List.mem_map_of_mem hlink')
        (Option.some.inj hdigest)
      exact hashedText_inj (hprev hchained link hlink) (hprev hchained' link' hlink') htexts
    · intro link _ hgenesis
      have hdigest : "GENESIS" ++ "" = sha256 (link.prev.getD "" ++ link.payload) ++ "" := by
        rw [Option.some.inj hgenesis]
      exact genesis_not_hex (hhex _) hdigest
    · rw [chainHead_links, chainHead_links, hlast]
  refine ⟨?_, hlinks⟩
  have hlengths := congrArg List.length hlinks
  simpa only [links, inChainOrder, List.length_map, List.length_insertionSort] using hlengths

namespace Sample

def firstDigest : String := "4bbf6f020c3753cd5dd68c1075bbce9984e3ab099ca87532dab2bfe6801870a8"

def secondDigest : String := "75927b59c68657c25672963bfe1dccf86e8d9ea5fdd4d886b0bfaf56565dec79"

def emptyDigest : String := "e3b0c44298fc1c149afbf4c8996fb92427ae41e4649b934ca495991b7852b855"

def digestOf (text : String) : String :=
  if text = "GENESIS\x7b\"n\":1\x7d" then firstDigest
  else if text = firstDigest ++ "\x7b\"n\":2\x7d" then secondDigest
  else emptyDigest

def numbered (id : Uuid) (n : String) (prevHash hash : String) (createdAt : Timestamp) :
    AuditLog :=
  ⟨id, none, none, "ORDER_CREATED", none, some (.object [("n", .number n)]), some hash,
    some prevHash, createdAt, createdAt⟩

def chainRows : List AuditLog :=
  [numbered "a" "1" "GENESIS" firstDigest 1, numbered "b" "2" firstDigest secondDigest 2]

def chainDb : AuditDb := ⟨⟨chainRows, by decide⟩, [], []⟩

/-- The same chain under other keys, its rows stored the other way round. -/
def copiedDb : AuditDb :=
  ⟨⟨[numbered "d" "2" firstDigest secondDigest 8, numbered "c" "1" "GENESIS" firstDigest 5],
    by decide⟩, [], []⟩

end Sample

theorem isHexDigest_of_all {digest : String} (hlength : digest.toList.length = 64)
    (hall : (digest.toList.all fun c => "0123456789abcdef".toList.contains c) = true) :
    IsHexDigest digest := by
  refine ⟨hlength, ?_⟩
  intro c hc
  exact List.contains_iff_mem.1 (List.all_eq_true.1 hall c hc)

theorem isHexDigest_sample (text : String) : IsHexDigest (Sample.digestOf text) := by
  have hfirstDigest : IsHexDigest Sample.firstDigest :=
    isHexDigest_of_all (by decide +kernel) (by decide +kernel)
  have hsecondDigest : IsHexDigest Sample.secondDigest :=
    isHexDigest_of_all (by decide +kernel) (by decide +kernel)
  have hemptyDigest : IsHexDigest Sample.emptyDigest :=
    isHexDigest_of_all (by decide +kernel) (by decide +kernel)
  unfold Sample.digestOf
  by_cases hfirst : text = "GENESIS\x7b\"n\":1\x7d"
  · rw [if_pos hfirst]
    exact hfirstDigest
  · by_cases hsecond : text = Sample.firstDigest ++ "\x7b\"n\":2\x7d"
    · rw [if_neg hfirst, if_pos hsecond]
      exact hsecondDigest
    · rw [if_neg hfirst, if_neg hsecond]
      exact hemptyDigest

theorem acceptedTables_agree_sample :
    Sample.chainDb.logs.rows.length = Sample.copiedDb.logs.rows.length ∧
      links Json.Column.ordered Sample.chainDb = links Json.Column.ordered Sample.copiedDb := by
  apply @acceptedTables_agree Sample.digestOf _ _ _ _ isHexDigest_sample
  · decide +kernel
  · decide +kernel
  · decide +kernel
  · decide +kernel

end SafariLaundry.AuditChain
