import SafariLaundry.AuditChain

/-!
# What the writers leave for the verifier

The chained writer hashes the text of its payload, whose members stand as the code lists them.
The payload column is binary JSON, which gives them back short names first, so that the text
hashed in verifying is another one.  The other writers hash nothing at all.
-/

namespace SafariLaundry.AuditChain

open Library Library.HashChain Library.Transaction

inductive AuditCall
  | log (env : AuditEnv) (input : AuditInput)
  | scan (stamp : Stamp) (report : GapReport)
  | anomalies (env : AnomalyEnv) (customerId : Uuid) (flags : List CustomerFinancialAnomaly)

variable (sha256 : String → String)

def AuditCall.run : AuditCall → AuditTx Unit
  | .log env input => AuditChain.log sha256 env input
  | .scan stamp report => recordScanAudit stamp report
  | .anomalies env customerId flags => logFinancialAnomalies env customerId flags

def auditCalls : Calls AuditDb AuditCall where
  step := fun call db => ((call.run sha256).outcome db).2
  seen := fun _ => []

theorem names_payloadMembers (env : AuditEnv) (input : AuditInput) (userId : Option Uuid) :
    (payloadMembers env input userId).map Prod.fst =
      ["actorId", "userId", "role", "action", "resource", "customerId", "orderId", "amount",
        "source", "endpoint", "method", "status", "ip", "userAgent", "requestId", "suspicious",
        "changes", "createdAt"] := rfl

def Written (env : AuditEnv) (input : AuditInput) (value : Json) : Prop :=
  value = payload env input ∨ value = fallbackPayload env input

/-- A payload is written with the actor first, and comes back with the address first. -/
theorem Written.stringify_ne {env : AuditEnv} {input : AuditInput} {value : Json}
    (hwritten : Written env input value) :
    (Json.Column.jsonb.returned value).stringify ≠ value.stringify := by
  have hobject : ∃ members, value = .object (("actorId", textOrNull input.userId) :: members) ∧
      (∃ address, ("ip", address) ∈ members) ∧
      ∀ name ∈ "actorId" :: members.map Prod.fst, name.utf8ByteSize ≤ 2 → name = "ip" := by
    rcases hwritten with rfl | rfl
    · refine ⟨_, rfl, ⟨textOrNull input.ip, by simp⟩, ?_⟩
      change ∀ name ∈ (payloadMembers env input input.userId).map Prod.fst, _
      rw [names_payloadMembers]
      decide
    · refine ⟨_, rfl, ⟨textOrNull input.ip, by simp⟩, ?_⟩
      have hnames : ((payloadMembers env input none ++
          [("missingUserId", textOrNull input.userId)]).map Prod.fst) = _ :=
        List.map_append.trans (congrArg (· ++ ["missingUserId"]) (names_payloadMembers env input none))
      change ∀ name ∈ (payloadMembers env input none ++
        [("missingUserId", textOrNull input.userId)]).map Prod.fst, _
      rw [hnames]
      decide
  obtain ⟨members, rfl, ⟨address, haddress⟩, hnames⟩ := hobject
  obtain ⟨name, first, rest, hreturned, hname, hsize⟩ :=
    Json.exists_binary_object (List.mem_cons_of_mem ("actorId", textOrNull input.userId) haddress)
  obtain rfl : name = "ip" := hnames name hname hsize
  obtain ⟨tail, htext⟩ := Json.toList_stringify_object "ip" first rest
  obtain ⟨tail', htext'⟩ :=
    Json.toList_stringify_object "actorId" (textOrNull input.userId) members
  intro hsame
  have hlists := congrArg String.toList hsame
  change (Json.binary _).stringify.toList = _ at hlists
  rw [hreturned, htext, htext'] at hlists
  have hsecond := congrArg (fun text => text[2]?) hlists
  have hip : (Json.quote "ip").toList = ['"', 'i', 'p', '"'] := by decide
  have hactor : (Json.quote "actorId").toList =
      ['"', 'a', 'c', 't', 'o', 'r', 'I', 'd', '"'] := by decide
  simp [hip, hactor] at hsecond

/-- A row that names no row before it, or has hashed a payload of the chained writer. -/
def AuditLog.Left (row : AuditLog) : Prop :=
  row.prevHash = none ∨ ∃ env input value prevHash, Written env input value ∧
    row.payload = some value ∧ row.prevHash = some prevHash ∧
    row.hash = some (auditHash sha256 prevHash value)

def RowsLeft (db : AuditDb) : Prop := ∀ row ∈ db.logs.rows, row.Left sha256

/-- The text hashed in writing a payload and the one hashed in verifying it do not collide. -/
def CollisionFree (db : AuditDb) : Prop :=
  ∀ row ∈ db.logs.rows, ∀ value ∈ row.payload, auditHash sha256 "GENESIS" value =
        auditHash sha256 "GENESIS" (Json.Column.jsonb.returned value) →
      value.stringify = (Json.Column.jsonb.returned value).stringify

def KeepsLeft (db db' : AuditDb) : Prop := RowsLeft sha256 db → RowsLeft sha256 db'

instance : Std.Refl (KeepsLeft sha256) := ⟨fun _ hleft => hleft⟩

instance : IsTrans AuditDb (KeepsLeft sha256) :=
  ⟨fun _ _ _ hfirst hsecond hleft => hsecond (hfirst hleft)⟩

variable {sha256} {db : AuditDb}

theorem keepsAt_createAuditLog {row : AuditLog} (hrow : row.Left sha256) :
    KeepsAt (KeepsLeft sha256) db (createAuditLog row) := by
  apply KeepsAt.reads_bind
  refine .require_bind fun _ => ?_
  apply KeepsAt.reads_bind
  refine .require_bind fun _ => ?_
  refine .fetch_bind fun logs hinsert => ?_
  apply keepsAt_modify
  intro hleft old hold
  rw [Table.rows_insert hinsert, List.mem_append, List.mem_singleton] at hold
  rcases hold with hold | rfl
  · exact hleft old hold
  · exact hrow

theorem keepsAt_appendChained {env : AuditEnv} {input : AuditInput} {stamp : Stamp}
    {data : AuditChainCreateInput} (hwritten : Written env input data.payload) :
    KeepsAt (KeepsLeft sha256) db (appendChained sha256 stamp data data.payload) := by
  have hbody : KeepsAt (KeepsLeft sha256) db (do
      let prevHash ← reads previousHash
      createAuditLog (data.row stamp prevHash (auditHash sha256 prevHash data.payload))) := by
    apply (keepsAt_reads _).bind
    intro prevHash _ _
    exact keepsAt_createAuditLog (.inr ⟨env, input, data.payload, prevHash, hwritten, rfl, rfl, rfl⟩)
  apply keepsAt_atomically
  · intro _ _ hcommits
    exact hbody.of_commits hcommits
  · intro _
    exact Std.Refl.refl db

theorem AuditCall.keepsAt_run (call : AuditCall) :
    KeepsAt (KeepsLeft sha256) db (call.run sha256) := by
  cases call with
  | log env input =>
      apply KeepsAt.tryCatch
      · apply KeepsAt.tryCatch
        · exact keepsAt_appendChained (.inl rfl)
        · intro e mid _
          by_cases hretry : isAuditUserForeignKeyError e = true ∧ input.userId ≠ none
          · rw [if_pos hretry]
            exact keepsAt_appendChained (.inr rfl)
          · rw [if_neg hretry]
            exact keepsAt_throw e
      · intro _ _ _
        exact keepsAt_pure ()
  | scan stamp report => exact keepsAt_createAuditLog (.inl rfl)
  | anomalies env customerId flags =>
      apply KeepsAt.forM
      intro flag _ mid
      apply KeepsAt.reads_bind
      apply KeepsAt.reads_bind
      apply KeepsAt.whenever
      exact keepsAt_createAuditLog (.inl rfl)

theorem brokenRow_of_left {row : AuditLog} {rest : List AuditLog} (hrow : row.Left sha256)
    (hapart : ∀ value ∈ row.payload, auditHash sha256 "GENESIS" value =
          auditHash sha256 "GENESIS" (Json.Column.jsonb.returned value) →
        value.stringify = (Json.Column.jsonb.returned value).stringify) :
    brokenRow sha256 .jsonb "GENESIS" (row :: rest) = some row.id := by
  rw [brokenRow, if_pos]
  rcases hrow with hnone | ⟨env, input, value, prevHash, hwritten, hpayload, hprev, hhash⟩
  · exact .inl (by rw [hnone]; exact (Option.some_ne_none _).symm)
  · by_cases hgenesis : prevHash = "GENESIS"
    · subst hgenesis
      right
      rw [hhash]
      intro hfits
      have hread : row.readPayload .jsonb = Json.Column.jsonb.returned value := by
        unfold AuditLog.readPayload
        rw [hpayload]
        rfl
      rw [hread] at hfits
      exact hwritten.stringify_ne (hapart value hpayload (Option.some.inj hfits)).symm
    · left
      rw [hprev]
      exact fun hsame => hgenesis (Option.some.inj hsame)

/-- Of a log that began empty the verifier reports a valid chain as long as nothing is written
to it, and never afterwards. -/
theorem auditRun_valid_iff {start : AuditDb} {trace : List AuditDb} (hstart : start.logs.rows = [])
    (hrun : (auditCalls sha256).Run (fun _ _ => True) start trace)
    (hcollisionFree : ∀ db ∈ trace, CollisionFree sha256 db) :
    ∀ db ∈ trace, (verifyAuditIntegrity sha256 .jsonb db).valid = true ↔ db.logs.rows = [] := by
  have hempty : RowsLeft sha256 start := by
    unfold RowsLeft
    rw [hstart]
    exact nofun
  have hleft := hrun.invariant hempty fun call db hleft _ _ => call.keepsAt_run hleft
  intro db hdb
  have hperm : (inChainOrder db).Perm db.logs.rows := List.perm_insertionSort _ _
  unfold verifyAuditIntegrity
  cases hrows : inChainOrder db with
  | nil =>
      rw [hrows] at hperm
      exact iff_of_true rfl (List.nil_perm.1 hperm)
  | cons row rest =>
      have hrow : row ∈ db.logs.rows := by
        rw [← hperm.mem_iff, hrows]
        exact List.mem_cons_self ..
      simp only [brokenRow_of_left (hleft db hdb row hrow) (hcollisionFree db hdb row hrow)]
      exact iff_of_false Bool.false_ne_true (List.ne_nil_of_mem hrow)

namespace Sample

def emptyLog : AuditDb := ⟨Table.empty, ["user"], []⟩

def auditEnv (id : Uuid) (createdAt : Timestamp) : AuditEnv :=
  ⟨⟨id, createdAt⟩, ⟨id ++ "-retry", createdAt⟩, "2026-01-01T00:00:00.000Z"⟩

def loginInput : AuditInput where
  userId := some "user"
  role := some "OWNER"
  action := "LOGIN"
  resource := "session"
  customerId := none
  orderId := none
  amount := none
  source := none
  endpoint := none
  method := none
  status := .SUCCESS
  ip := none
  userAgent := none
  requestId := none
  suspicious := none
  changes := none

def ghostInput : AuditInput := { loginInput with userId := some "ghost" }

def loginCall : AuditCall := .log (auditEnv "a" 1) loginInput

def ghostCall : AuditCall := .log (auditEnv "b" 2) ghostInput

def loginDigest : String := "4a17c9c644308e9156faccb85900a256a5cf7f912f929c0594f288fbe5cf43d3"

def loginPayload : Json := payload (auditEnv "a" 1) loginInput

def ghostPayload : Json := fallbackPayload (auditEnv "b" 2) ghostInput

def digests : List (String × String) :=
  [("GENESIS" ++ loginPayload.stringify, loginDigest), (loginDigest ++ ghostPayload.stringify,
     "dbc6bf3166b214a28377c1da6b5e5acae153793af18f933d80eeb28341a48c3a"),
   ("GENESIS" ++ (Json.Column.jsonb.returned loginPayload).stringify,
     "984326a9091576c20b540b2192ad0e3b1a83307763066ff2d78411d5154be4be"),
   ("GENESIS" ++ ghostPayload.stringify,
     "360d348ef3e07ed91ae1a678a9a956cd7e51f1aeaf21ea04083da36392e93d89"),
   ("GENESIS" ++ (Json.Column.jsonb.returned ghostPayload).stringify,
     "8effccecefe4f5f193a5c2907aba1d294bc60570c9d35d1f83ea1462cec05615")]

def auditDigest (text : String) : String :=
  ((digests.find? fun known => known.1 = text).map Prod.snd).getD emptyDigest

def loggedIn : AuditDb := (auditCalls auditDigest).step loginCall emptyLog

def ghostSeen : AuditDb := (auditCalls auditDigest).step ghostCall loggedIn

def gapScan : AuditCall := .scan ⟨"a", 1⟩ ⟨0⟩

end Sample

theorem auditRun_valid_iff_sample :
    (verifyAuditIntegrity Sample.auditDigest .jsonb Sample.emptyLog).valid = true ∧
      (verifyAuditIntegrity Sample.auditDigest .jsonb Sample.loggedIn).valid ≠ true ∧
      (verifyAuditIntegrity Sample.auditDigest .jsonb Sample.ghostSeen).valid ≠ true := by
  have hrun : (auditCalls Sample.auditDigest).Run (fun _ _ => True) Sample.emptyLog
      [Sample.ghostSeen, Sample.loggedIn, Sample.emptyLog] := by
    apply Calls.Run.call Sample.ghostCall
    · apply Calls.Run.call Sample.loginCall .start
      · intro t ht
        cases ht
      · trivial
    · intro t ht
      cases ht
    · trivial
  have hiff := @auditRun_valid_iff Sample.auditDigest Sample.emptyLog _ rfl hrun (by
    unfold CollisionFree
    decide +kernel)
  refine ⟨(hiff _ (by simp)).2 rfl, fun hvalid => ?_, fun hvalid => ?_⟩
  · exact absurd ((hiff _ (by simp)).1 hvalid) (by decide +kernel)
  · exact absurd ((hiff _ (by simp)).1 hvalid) (by decide +kernel)

theorem auditRun_valid_fails :
    ¬ ∃ (sha256 : String → String) (column : Json.Column),
      ∀ (start : AuditDb) (trace : List AuditDb), start.logs.rows = [] →
        (auditCalls sha256).Run (fun _ _ => True) start trace →
        ∀ db ∈ trace, (verifyAuditIntegrity sha256 column db).valid = true := by
  rintro ⟨sha256, column, hall⟩
  have hrun : (auditCalls sha256).Run (fun _ _ => True) Sample.emptyLog
      [(auditCalls sha256).step Sample.gapScan Sample.emptyLog, Sample.emptyLog] := by
    apply Calls.Run.call Sample.gapScan .start
    · intro t ht
      cases ht
    · trivial
  have hvalid := hall Sample.emptyLog _ rfl hrun _ (List.mem_cons_self ..)
  cases hvalid

end SafariLaundry.AuditChain
