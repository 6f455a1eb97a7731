import SafariLaundry.GatewayText
import SafariLaundry.Library.History
import SafariLaundry.Library.Selection

/-!
# Multi-factor authentication

A user enrols a secret, confirms it with a code, and may later disable it.  Every call reads
the record and then writes to it unconditionally: a lost update brings accepted recovery codes
back, and an enrolment puts an active secret aside without a code.
-/

namespace SafariLaundry

open Library List

structure MfaEnv where
  hotp : String → ℤ → String
  (sha256Hex toUpperCase : String → String)

def verifyTotp (env : MfaEnv) (secretBase32 candidate : String) (atMs : Timestamp) : Bool :=
  let normalized := String.ofList (candidate.toList.filter fun c => ¬ isSpace c)
  let base : ℤ := atMs / 1000 / 30
  normalized.toList.all Char.isDigit && normalized.length == 6 &&
    [-1, 0, 1].any fun errorWindow => env.hotp secretBase32 (base + errorWindow) == normalized

def generateRecoveryCodes (env : MfaEnv) (random : ℕ → String) : List String :=
  (List.range 8).map fun i =>
    let raw := (env.toUpperCase (random i)).toList
    String.ofList (raw.take 5 ++ '-' :: raw.drop 5)

def hashRecoveryCode (env : MfaEnv) (code : String) : String :=
  env.sha256Hex (env.toUpperCase
    (String.ofList (code.toList.filter fun c => ¬ (isSpace c ∨ c = '-'))))

inductive MfaStatus
  | PENDING | ACTIVE | DISABLED
  deriving DecidableEq

structure UserMfaSecret where
  userId : Uuid
  secret : String
  status : MfaStatus
  recoveryCodes : List String
  (activatedAt lastUsedAt : Option Timestamp)

structure IssuedCode where
  userId : Uuid
  (secret hash : String)

structure MfaDb where
  records : Table UserMfaSecret.userId
  /-- Not a table: the recovery codes issued, newest first. -/
  issued : List IssuedCode
  /-- Not a table: the recovery codes accepted, newest first. -/
  accepted : List (Uuid × String)

/-! ## Operations -/

namespace UserMfaSecret

def enrolled (secret : String) (record : UserMfaSecret) : UserMfaSecret :=
  { record with secret := secret, status := .PENDING, recoveryCodes := [], activatedAt := none }

def activated (now : Timestamp) (recoveryCodes : List String) (record : UserMfaSecret) :
    UserMfaSecret :=
  { record with
    status := .ACTIVE
    activatedAt := some now
    lastUsedAt := some now
    recoveryCodes := recoveryCodes }

def disabled (record : UserMfaSecret) : UserMfaSecret :=
  { record with status := .DISABLED, recoveryCodes := [], activatedAt := none }

def used (now : Timestamp) (record : UserMfaSecret) : UserMfaSecret :=
  { record with lastUsedAt := some now }

def withCodes (now : Timestamp) (recoveryCodes : List String) (record : UserMfaSecret) :
    UserMfaSecret :=
  { record with lastUsedAt := some now, recoveryCodes := recoveryCodes }

theorem activated_userId (now : Timestamp) (recoveryCodes : List String)
    (record : UserMfaSecret) : (record.activated now recoveryCodes).userId = record.userId := rfl

theorem disabled_userId (record : UserMfaSecret) : record.disabled.userId = record.userId := rfl

theorem used_userId (now : Timestamp) (record : UserMfaSecret) :
    (record.used now).userId = record.userId := rfl

theorem withCodes_userId (now : Timestamp) (recoveryCodes : List String)
    (record : UserMfaSecret) : (record.withCodes now recoveryCodes).userId = record.userId := rfl

end UserMfaSecret

def enrollMfa (userId : Uuid) (secret : String) (db : MfaDb) : MfaDb :=
  match db.records.find? userId with
  | some record => { db with records := db.records.upsert (record.enrolled secret) }
  | none => { db with records := db.records.upsert ⟨userId, secret, .PENDING, [], none, none⟩ }

def activateMfa (env : MfaEnv) (userId : Uuid) (code : String) (now : Timestamp)
    (random : ℕ → String) (seen db : MfaDb) : Except ServiceError MfaDb :=
  match seen.records.find? userId with
  | none => .error (.badRequest "No MFA enrollment in progress. Start enrollment first.")
  | some read =>
      if verifyTotp env read.secret code now = false then
        .error (.badRequest "Invalid authentication code.")
      else
        match db.records.find? userId with
        | none => .error (.database "Record to update not found.")
        | some stored =>
            let recoveryCodes := (generateRecoveryCodes env random).map (hashRecoveryCode env)
            .ok { db with
              records := db.records.update userId (UserMfaSecret.activated now recoveryCodes)
                (UserMfaSecret.activated_userId now recoveryCodes)
              issued := recoveryCodes.map (fun hash => ⟨userId, stored.secret, hash⟩) ++ db.issued }

def disableMfa (env : MfaEnv) (userId : Uuid) (code : String) (now : Timestamp)
    (seen db : MfaDb) : Except ServiceError MfaDb :=
  match seen.records.find? userId with
  | none => .error (.badRequest "MFA is not active for this account.")
  | some read =>
      if read.status ≠ .ACTIVE then
        .error (.badRequest "MFA is not active for this account.")
      else if verifyTotp env read.secret code now = false ∧
          hashRecoveryCode env code ∉ read.recoveryCodes then
        .error (.badRequest "Invalid authentication code.")
      else
        match db.records.find? userId with
        | none => .error (.database "Record to update not found.")
        | some _ =>
            .ok { db with
              records := db.records.update userId UserMfaSecret.disabled
                UserMfaSecret.disabled_userId
              accepted := if verifyTotp env read.secret code now = true then db.accepted
                else (userId, hashRecoveryCode env code) :: db.accepted }

/-- Its answer and what it leaves; an update that fails, not `written`, is swallowed. -/
def verifyMfaCode (env : MfaEnv) (userId : Uuid) (code : String) (now : Timestamp)
    (written : Bool) (seen db : MfaDb) : Bool × MfaDb :=
  match seen.records.find? userId with
  | none => (false, db)
  | some read =>
      if read.status ≠ .ACTIVE then (false, db)
      else if verifyTotp env read.secret code now = true then
        (true, if written then { db with
            records := db.records.update userId (UserMfaSecret.used now)
              (UserMfaSecret.used_userId now) }
          else db)
      else
        let hashed := hashRecoveryCode env code
        if hashed ∈ read.recoveryCodes then
          let left := read.recoveryCodes.filter fun c => c ≠ hashed
          (true, { db with
            records := if written then db.records.update userId (UserMfaSecret.withCodes now left)
                (UserMfaSecret.withCodes_userId now left)
              else db.records
            accepted := (userId, hashed) :: db.accepted })
        else (false, db)

inductive MfaCall
  | enrollMfa (userId : Uuid) (secret : String)
  | activateMfa (userId : Uuid) (code : String) (now : Timestamp) (random : ℕ → String)
      (seen : MfaDb)
  | disableMfa (userId : Uuid) (code : String) (now : Timestamp) (seen : MfaDb)
  | verifyMfaCode (userId : Uuid) (code : String) (now : Timestamp) (written : Bool) (seen : MfaDb)

namespace MfaCall

def step (env : MfaEnv) (db : MfaDb) : MfaCall → MfaDb
  | .enrollMfa userId secret => SafariLaundry.enrollMfa userId secret db
  | .activateMfa userId code now random seen =>
      match SafariLaundry.activateMfa env userId code now random seen db with
      | .ok db' => db'
      | .error _ => db
  | .disableMfa userId code now seen =>
      match SafariLaundry.disableMfa env userId code now seen db with
      | .ok db' => db'
      | .error _ => db
  | .verifyMfaCode userId code now written seen =>
      (SafariLaundry.verifyMfaCode env userId code now written seen db).2

def seen : MfaCall → List MfaDb
  | .enrollMfa _ _ => []
  | .activateMfa _ _ _ _ seen | .disableMfa _ _ _ seen | .verifyMfaCode _ _ _ _ seen => [seen]

def presented : MfaCall → Option (Uuid × String × Timestamp)
  | .enrollMfa _ _ => none
  | .activateMfa userId code now _ _ | .disableMfa userId code now _
  | .verifyMfaCode userId code now _ _ => some (userId, code, now)

end MfaCall

def mfaCalls (env : MfaEnv) : Calls MfaDb MfaCall where
  step := fun call db => call.step env db
  seen := MfaCall.seen

def MfaDb.IsActive (userId : Uuid) (db : MfaDb) : Prop :=
  ∃ record ∈ db.records.find? userId, record.status = .ACTIVE

def MfaDb.Accepts (env : MfaEnv) (userId : Uuid) (code : String) (now : Timestamp)
    (db : MfaDb) : Prop :=
  ∃ record ∈ db.records.find? userId, verifyTotp env record.secret code now = true ∨
    (⟨userId, record.secret, hashRecoveryCode env code⟩ ∈ db.issued ∧
      (userId, hashRecoveryCode env code) ∉ db.accepted)

/-- Nobody's factor is given up without a code that is valid for it, none becomes active but by
confirming an enrolment, and no recovery code is accepted twice. -/
structure MfaCall.Right (env : MfaEnv) (call : MfaCall) (db : MfaDb) : Prop where
  leaves : ∀ userId, db.IsActive userId → ¬ (call.step env db).IsActive userId →
    ∃ code now, call.presented = some (userId, code, now) ∧ db.Accepts env userId code now
  becomes : ∀ userId, ¬ db.IsActive userId → (call.step env db).IsActive userId →
    ∃ record ∈ db.records.find? userId, record.status = .PENDING ∧
      ∃ code now, call.presented = some (userId, code, now) ∧
        verifyTotp env record.secret code now = true
  once : (call.step env db).accepted.Nodup

def MfaCall.DrawsNew (env : MfaEnv) (db : MfaDb) : MfaCall → Prop
  | .activateMfa userId _ _ random _ =>
      ∀ code ∈ generateRecoveryCodes env random, ∀ issue ∈ db.issued,
        issue.userId = userId → issue.hash ≠ hashRecoveryCode env code
  | _ => True

def MfaCall.FindsRead (env : MfaEnv) (db : MfaDb) : MfaCall → Prop
  | .enrollMfa userId _ => ¬ db.IsActive userId
  | .activateMfa userId code now _ seen =>
      ∀ read ∈ seen.records.find? userId, verifyTotp env read.secret code now = true →
        ∀ stored ∈ db.records.find? userId, stored.status = .ACTIVE ∨
          stored.status = .PENDING ∧ stored.secret = read.secret
  | .disableMfa userId code now seen =>
      ∀ read ∈ seen.records.find? userId, read.status = .ACTIVE →
        ∀ stored ∈ db.records.find? userId, if verifyTotp env read.secret code now = true then
            stored.status = .ACTIVE → stored.secret = read.secret
          else hashRecoveryCode env code ∈ read.recoveryCodes →
            hashRecoveryCode env code ∈ stored.recoveryCodes
  | .verifyMfaCode userId code now written seen =>
      ∀ read ∈ seen.records.find? userId, read.status = .ACTIVE →
        verifyTotp env read.secret code now = false →
        hashRecoveryCode env code ∈ read.recoveryCodes →
        written = true ∧ ∃ stored ∈ db.records.find? userId,
          ∀ hash ∈ read.recoveryCodes, hash ∈ stored.recoveryCodes

variable {env : MfaEnv} {db after : MfaDb} {call : MfaCall} {userId : Uuid}
  {record stored : UserMfaSecret}

/-! ## What is kept -/

/-- Recovery codes are stored with active secrets, as long as they are unused, and with the
secret that they were issued for. -/
structure MfaKept (db : MfaDb) : Prop where
  once : db.accepted.Nodup
  live : ∀ userId record, db.records.find? userId = some record → ∀ hash ∈ record.recoveryCodes,
      ⟨userId, record.secret, hash⟩ ∈ db.issued ∧ (userId, hash) ∉ db.accepted
  idle : ∀ userId record, db.records.find? userId = some record → record.status ≠ .ACTIVE →
    record.recoveryCodes = []
  wasIssued : ∀ userId hash, (userId, hash) ∈ db.accepted →
    ∃ issue ∈ db.issued, issue.userId = userId ∧ issue.hash = hash

structure OnlyRecord (userId : Uuid) (record : UserMfaSecret) (before after : MfaDb) : Prop where
  self : after.records.find? userId = some record
  others : ∀ other, other ≠ userId → after.records.find? other = before.records.find? other

namespace OnlyRecord

theorem isActive_self (honly : OnlyRecord userId record db after) :
    after.IsActive userId ↔ record.status = .ACTIVE := by
  unfold MfaDb.IsActive
  rw [honly.self]
  simp

theorem isActive_other (honly : OnlyRecord userId record db after) {other : Uuid}
    (hother : other ≠ userId) : after.IsActive other ↔ db.IsActive other := by
  unfold MfaDb.IsActive
  rw [honly.others other hother]

theorem right (honly : OnlyRecord userId record db (call.step env db))
    (hleaves : db.IsActive userId → record.status ≠ .ACTIVE →
      ∃ code now, call.presented = some (userId, code, now) ∧ db.Accepts env userId code now)
    (hbecomes : ¬ db.IsActive userId → record.status = .ACTIVE →
      ∃ record ∈ db.records.find? userId, record.status = .PENDING ∧
        ∃ code now, call.presented = some (userId, code, now) ∧
          verifyTotp env record.secret code now = true)
    (honce : (call.step env db).accepted.Nodup) : call.Right env db := by
  refine ⟨?_, ?_, honce⟩
  · intro other hactive hinactive
    by_cases hother : other = userId
    · subst hother
      exact hleaves hactive fun hstatus => hinactive (honly.isActive_self.2 hstatus)
    · exact absurd ((honly.isActive_other hother).2 hactive) hinactive
  · intro other hinactive hactive
    by_cases hother : other = userId
    · subst hother
      exact hbecomes hinactive (honly.isActive_self.1 hactive)
    · exact absurd ((honly.isActive_other hother).1 hactive) hinactive

theorem kept (honly : OnlyRecord userId record db after) (hkept : MfaKept db)
    (hissued : ∀ issue ∈ db.issued, issue ∈ after.issued)
    (haccepted : ∀ other hash, (other, hash) ∈ after.accepted →
      (other, hash) ∈ db.accepted ∨ other = userId ∧
        ∃ issue ∈ db.issued, issue.userId = userId ∧ issue.hash = hash)
    (honce : after.accepted.Nodup)
    (hlive : ∀ hash ∈ record.recoveryCodes,
      ⟨userId, record.secret, hash⟩ ∈ after.issued ∧ (userId, hash) ∉ after.accepted)
    (hidle : record.status ≠ .ACTIVE → record.recoveryCodes = []) : MfaKept after := by
  refine ⟨honce, ?_, ?_, ?_⟩
  · intro other found hfound hash hhash
    by_cases hother : other = userId
    · subst hother
      obtain rfl := Option.some.inj (honly.self.symm.trans hfound)
      exact hlive hash hhash
    · rw [honly.others other hother] at hfound
      obtain ⟨hissue, hunused⟩ := hkept.live other found hfound hash hhash
      refine ⟨hissued _ hissue, fun hused => ?_⟩
      rcases haccepted other hash hused with hbefore | ⟨hsame, _⟩
      · exact hunused hbefore
      · exact hother hsame
  · intro other found hfound hstatus
    by_cases hother : other = userId
    · subst hother
      obtain rfl := Option.some.inj (honly.self.symm.trans hfound)
      exact hidle hstatus
    · rw [honly.others other hother] at hfound
      exact hkept.idle other found hfound hstatus
  · intro other hash hused
    rcases haccepted other hash hused with hbefore | ⟨hsame, issue, hissue, huser, hhash⟩
    · obtain ⟨issue, hissue, hof⟩ := hkept.wasIssued other hash hbefore
      exact ⟨issue, hissued issue hissue, hof⟩
    · exact ⟨issue, hissued issue hissue, huser.trans hsame.symm, hhash⟩

theorem kept_of_same (honly : OnlyRecord userId record db after) (hkept : MfaKept db)
    (hissued : after.issued = db.issued) (haccepted : after.accepted = db.accepted)
    (hlive : ∀ hash ∈ record.recoveryCodes,
      ⟨userId, record.secret, hash⟩ ∈ db.issued ∧ (userId, hash) ∉ db.accepted)
    (hidle : record.status ≠ .ACTIVE → record.recoveryCodes = []) : MfaKept after := by
  apply honly.kept hkept
  · rw [hissued]
    exact fun _ hissue => hissue
  · rw [haccepted]
    exact fun _ _ hused => .inl hused
  · rw [haccepted]
    exact hkept.once
  · rw [hissued, haccepted]
    exact hlive
  · exact hidle

theorem kept_of_taken {secret taken : String} (honly : OnlyRecord userId record db after)
    (hkept : MfaKept db) (hissue : (⟨userId, secret, taken⟩ : IssuedCode) ∈ db.issued)
    (hunused : (userId, taken) ∉ db.accepted) (hissued : after.issued = db.issued)
    (haccepted : after.accepted = (userId, taken) :: db.accepted)
    (hlive : ∀ hash ∈ record.recoveryCodes, hash ≠ taken ∧
      ⟨userId, record.secret, hash⟩ ∈ db.issued ∧ (userId, hash) ∉ db.accepted)
    (hidle : record.status ≠ .ACTIVE → record.recoveryCodes = []) : MfaKept after := by
  apply honly.kept hkept
  · rw [hissued]
    exact fun _ hissue => hissue
  · rw [haccepted]
    intro other hash hused
    rcases mem_cons.1 hused with hnow | hbefore
    · cases hnow
      exact .inr ⟨rfl, _, hissue, rfl, rfl⟩
    · exact .inl hbefore
  · rw [haccepted]
    exact nodup_cons.2 ⟨hunused, hkept.once⟩
  · rw [hissued, haccepted]
    intro hash hhash
    obtain ⟨hother, hstillIssued, hstillUnused⟩ := hlive hash hhash
    refine ⟨hstillIssued, fun hused => ?_⟩
    rcases mem_cons.1 hused with hnow | hbefore
    · exact hother (congrArg Prod.snd hnow)
    · exact hstillUnused hbefore
  · exact hidle

end OnlyRecord

theorem right_of_step_eq (hkept : MfaKept db) (hstep : call.step env db = db) :
    call.Right env db := by
  refine ⟨?_, ?_, ?_⟩
  · intro userId hactive hinactive
    rw [hstep] at hinactive
    exact absurd hactive hinactive
  · intro userId hinactive hactive
    rw [hstep] at hactive
    exact absurd hactive hinactive
  · rw [hstep]
    exact hkept.once

theorem onlyRecord_update {f : UserMfaSecret → UserMfaSecret}
    (hf : ∀ record, (f record).userId = record.userId)
    (hstored : db.records.find? userId = some stored)
    (hafter : after.records = db.records.update userId f hf) :
    OnlyRecord userId (f stored) db after := by
  constructor
  · rw [hafter, Table.find?_update_self, hstored, Option.map_some]
  · intro other hother
    rw [hafter, Table.find?_update_of_ne _ _ _ hother]

theorem not_isActive_of_status (hstored : db.records.find? userId = some stored) :
    ¬ db.IsActive userId ↔ stored.status ≠ .ACTIVE := by
  unfold MfaDb.IsActive
  rw [hstored]
  simp

theorem OnlyRecord.right_of_status (honly : OnlyRecord userId record db (call.step env db))
    (hstored : db.records.find? userId = some stored) (hstatus : record.status = stored.status)
    (honce : (call.step env db).accepted.Nodup) : call.Right env db := by
  apply honly.right _ _ honce
  · rintro ⟨found, hfound, hactive⟩ hinactive
    obtain rfl := Option.some.inj (hstored.symm.trans hfound)
    exact absurd (hstatus.trans hactive) hinactive
  · intro hinactive hactive
    exact absurd (hstatus.symm.trans hactive) ((not_isActive_of_status hstored).1 hinactive)

/-! ## The four operations -/

theorem enrollMfa_right {secret : String} (hkept : MfaKept db)
    (hfinds : (MfaCall.enrollMfa userId secret).FindsRead env db) :
    (MfaCall.enrollMfa userId secret).Right env db ∧
      MfaKept ((MfaCall.enrollMfa userId secret).step env db) := by
  have henrolled : ∃ record, record.status = .PENDING ∧ record.recoveryCodes = [] ∧
      record.userId = userId ∧
      enrollMfa userId secret db = { db with records := db.records.upsert record } := by
    unfold enrollMfa
    cases hfound : db.records.find? userId with
    | none => exact ⟨_, rfl, rfl, rfl, rfl⟩
    | some record =>
        have huser : record.userId = userId := Table.key_of_find? hfound
        exact ⟨record.enrolled secret, rfl, rfl, huser, rfl⟩
  obtain ⟨record, hstatus, hcodes, huser, hstep⟩ := henrolled
  have honly : OnlyRecord userId record db (enrollMfa userId secret db) := by
    rw [hstep]
    constructor
    · rw [Table.find?_upsert, if_pos huser]
    · intro other hother
      rw [Table.find?_upsert, if_neg fun hsame => hother (hsame.symm.trans huser)]
  have hsame : (enrollMfa userId secret db).issued = db.issued ∧
      (enrollMfa userId secret db).accepted = db.accepted := by
    rw [hstep]
    exact ⟨rfl, rfl⟩
  constructor
  · apply OnlyRecord.right honly
    · intro hactive
      exact absurd hactive hfinds
    · intro _ hactive
      rw [hstatus] at hactive
      cases hactive
    · change (enrollMfa userId secret db).accepted.Nodup
      rw [hsame.2]
      exact hkept.once
  · apply OnlyRecord.kept honly hkept
    · intro issue hissue
      rwa [hsame.1]
    · intro other hash hused
      left
      change _ ∈ (enrollMfa userId secret db).accepted at hused
      rwa [hsame.2] at hused
    · rw [hsame.2]
      exact hkept.once
    · rw [hcodes]
      exact fun _ hmem => absurd hmem not_mem_nil
    · exact fun _ => hcodes

section Coded

variable {code : String} {now : Timestamp} {random : ℕ → String} {written : Bool} {seen : MfaDb}

theorem activateMfa_cases (env : MfaEnv) (userId : Uuid) (code : String) (now : Timestamp)
    (random : ℕ → String) (seen db : MfaDb) :
    (MfaCall.activateMfa userId code now random seen).step env db = db ∨
      ∃ read stored, seen.records.find? userId = some read ∧
        verifyTotp env read.secret code now = true ∧
        db.records.find? userId = some stored ∧
        (MfaCall.activateMfa userId code now random seen).step env db = { db with
          records := db.records.update userId
            (UserMfaSecret.activated now
              ((generateRecoveryCodes env random).map (hashRecoveryCode env)))
            (UserMfaSecret.activated_userId now _)
          issued := ((generateRecoveryCodes env random).map (hashRecoveryCode env)).map
            (fun hash => ⟨userId, stored.secret, hash⟩) ++ db.issued } := by
  have hstep : (MfaCall.activateMfa userId code now random seen).step env db =
      match activateMfa env userId code now random seen db with
      | .ok db' => db'
      | .error _ => db := rfl
  rw [hstep]
  unfold activateMfa
  cases hread : seen.records.find? userId with
  | none => exact .inl rfl
  | some read =>
      by_cases hvalid : verifyTotp env read.secret code now = true
      · cases hstored : db.records.find? userId with
        | none =>
            left
            simp [hvalid]
        | some stored =>
            right
            exact ⟨read, stored, rfl, hvalid, rfl, by simp [hvalid]⟩
      · left
        simp [hvalid]

theorem activateMfa_right (hkept : MfaKept db)
    (hnew : (MfaCall.activateMfa userId code now random seen).DrawsNew env db)
    (hfinds : (MfaCall.activateMfa userId code now random seen).FindsRead env db) :
    (MfaCall.activateMfa userId code now random seen).Right env db ∧
      MfaKept ((MfaCall.activateMfa userId code now random seen).step env db) := by
  rcases activateMfa_cases env userId code now random seen db with hsame |
    ⟨read, stored, hread, hvalid, hstored, hstep⟩
  · refine ⟨right_of_step_eq hkept hsame, ?_⟩
    rw [hsame]
    exact hkept
  · let hashes := (generateRecoveryCodes env random).map (hashRecoveryCode env)
    have honly : OnlyRecord userId (stored.activated now hashes) db
        ((MfaCall.activateMfa userId code now random seen).step env db) :=
      onlyRecord_update (UserMfaSecret.activated_userId now hashes) hstored (by rw [hstep])
    constructor
    · apply honly.right
      · intro _ hinactive
        exact absurd rfl hinactive
      · intro hinactive _
        rcases hfinds read hread hvalid stored hstored with hactive | ⟨hpending, hsecret⟩
        · exact absurd hactive ((not_isActive_of_status hstored).1 hinactive)
        · exact ⟨stored, hstored, hpending, code, now, rfl, by rw [hsecret, hvalid]⟩
      · rw [hstep]
        exact hkept.once
    · apply honly.kept hkept
      · intro issue hissue
        rw [hstep]
        exact mem_append_right _ hissue
      · intro other hash hused
        rw [hstep] at hused
        exact .inl hused
      · rw [hstep]
        exact hkept.once
      · intro hash hhash
        rw [hstep]
        refine ⟨mem_append_left _ (mem_map.2 ⟨hash, hhash, rfl⟩), fun hused => ?_⟩
        obtain ⟨issue, hissue, huser, hsame⟩ := hkept.wasIssued userId hash hused
        obtain ⟨code, hcode, rfl⟩ := mem_map.1 hhash
        exact hnew code hcode issue hissue huser hsame
      · intro hinactive
        exact absurd rfl hinactive

theorem disableMfa_cases (env : MfaEnv) (userId : Uuid) (code : String) (now : Timestamp)
    (seen db : MfaDb) :
    (MfaCall.disableMfa userId code now seen).step env db = db ∨
      ∃ read stored, seen.records.find? userId = some read ∧ read.status = .ACTIVE ∧
        db.records.find? userId = some stored ∧
        (verifyTotp env read.secret code now = true ∨ verifyTotp env read.secret code now = false ∧
            hashRecoveryCode env code ∈ read.recoveryCodes) ∧
        (MfaCall.disableMfa userId code now seen).step env db = { db with
          records := db.records.update userId UserMfaSecret.disabled
            UserMfaSecret.disabled_userId
          accepted := if verifyTotp env read.secret code now = true then db.accepted
            else (userId, hashRecoveryCode env code) :: db.accepted } := by
  have hstep : (MfaCall.disableMfa userId code now seen).step env db =
      match disableMfa env userId code now seen db with
      | .ok db' => db'
      | .error _ => db := rfl
  rw [hstep]
  unfold disableMfa
  cases hread : seen.records.find? userId with
  | none => exact .inl rfl
  | some read =>
      by_cases hactive : read.status = .ACTIVE
      · by_cases hinvalid : verifyTotp env read.secret code now = false ∧
            hashRecoveryCode env code ∉ read.recoveryCodes
        · left
          simp [hactive, hinvalid]
        · cases hstored : db.records.find? userId with
          | none =>
              left
              simp only [hactive, ne_eq, not_true_eq_false, if_false, if_neg hinvalid]
          | some stored =>
              right
              refine ⟨read, stored, rfl, hactive, rfl, ?_, ?_⟩
              · cases htotp : verifyTotp env read.secret code now with
                | true => exact .inl rfl
                | false =>
                    right
                    refine ⟨rfl, ?_⟩
                    by_contra hnot
                    exact hinvalid ⟨htotp, hnot⟩
              · simp only [hactive, ne_eq, not_true_eq_false, if_false, if_neg hinvalid]
      · left
        simp [hactive]

theorem disableMfa_right (hkept : MfaKept db)
    (hfinds : (MfaCall.disableMfa userId code now seen).FindsRead env db) :
    (MfaCall.disableMfa userId code now seen).Right env db ∧
      MfaKept ((MfaCall.disableMfa userId code now seen).step env db) := by
  rcases disableMfa_cases env userId code now seen db with hsame |
    ⟨read, stored, hread, hactive, hstored, hvalid, hstep⟩
  · refine ⟨right_of_step_eq hkept hsame, ?_⟩
    rw [hsame]
    exact hkept
  · have honly : OnlyRecord userId stored.disabled db
        ((MfaCall.disableMfa userId code now seen).step env db) :=
      onlyRecord_update UserMfaSecret.disabled_userId hstored (by rw [hstep])
    have hfound := hfinds read hread hactive stored hstored
    have hissued : ((MfaCall.disableMfa userId code now seen).step env db).issued = db.issued := by
      rw [hstep]
    rcases hvalid with htotp | ⟨htotp, hcode⟩
    · rw [if_pos htotp] at hfound
      have haccepted : ((MfaCall.disableMfa userId code now seen).step env db).accepted =
          db.accepted := by
        rw [hstep]
        exact if_pos htotp
      constructor
      · apply honly.right
        · rintro ⟨record, hrecord, hstatus⟩ _
          obtain rfl := Option.some.inj (hstored.symm.trans hrecord)
          refine ⟨code, now, rfl, stored, hstored, .inl ?_⟩
          rw [hfound hstatus, htotp]
        · exact fun _ hstatus => nomatch hstatus
        · rw [haccepted]
          exact hkept.once
      · exact honly.kept_of_same hkept hissued haccepted
          (fun _ hmem => absurd hmem not_mem_nil) fun _ => rfl
    · -- the recovery code is still stored, so it is unused and of the stored secret
      have hnot : ¬ verifyTotp env read.secret code now = true := by
        rw [htotp]
        exact Bool.false_ne_true
      rw [if_neg hnot] at hfound
      obtain ⟨hissue, hunused⟩ := hkept.live userId stored hstored _ (hfound hcode)
      have haccepted : ((MfaCall.disableMfa userId code now seen).step env db).accepted =
          (userId, hashRecoveryCode env code) :: db.accepted := by
        rw [hstep]
        exact if_neg hnot
      constructor
      · apply honly.right
        · intro _ _
          exact ⟨code, now, rfl, stored, hstored, .inr ⟨hissue, hunused⟩⟩
        · exact fun _ hstatus => nomatch hstatus
        · rw [haccepted]
          exact nodup_cons.2 ⟨hunused, hkept.once⟩
      · exact honly.kept_of_taken hkept hissue hunused hissued haccepted
          (fun _ hmem => absurd hmem not_mem_nil) fun _ => rfl

theorem verifyMfaCode_cases (env : MfaEnv) (userId : Uuid) (code : String) (now : Timestamp)
    (written : Bool) (seen db : MfaDb) :
    (MfaCall.verifyMfaCode userId code now written seen).step env db = db ∨
      (∃ stored, db.records.find? userId = some stored ∧
        (MfaCall.verifyMfaCode userId code now written seen).step env db = { db with
          records := db.records.update userId (UserMfaSecret.used now)
            (UserMfaSecret.used_userId now) }) ∨
      ∃ read, seen.records.find? userId = some read ∧ read.status = .ACTIVE ∧
        verifyTotp env read.secret code now = false ∧
        hashRecoveryCode env code ∈ read.recoveryCodes ∧
        (MfaCall.verifyMfaCode userId code now written seen).step env db = { db with
          records := if written then db.records.update userId
              (UserMfaSecret.withCodes now
                (read.recoveryCodes.filter fun c => c ≠ hashRecoveryCode env code))
              (UserMfaSecret.withCodes_userId now _)
            else db.records
          accepted := (userId, hashRecoveryCode env code) :: db.accepted } := by
  have hstep : (MfaCall.verifyMfaCode userId code now written seen).step env db =
      (verifyMfaCode env userId code now written seen db).2 := rfl
  rw [hstep]
  unfold verifyMfaCode
  cases hread : seen.records.find? userId with
  | none => exact .inl rfl
  | some read =>
      by_cases hactive : read.status = .ACTIVE
      · cases htotp : verifyTotp env read.secret code now with
        | true =>
            cases written with
            | false =>
                left
                simp [hactive, htotp]
            | true =>
                cases hstored : db.records.find? userId with
                | none =>
                    have hnone : ∀ record ∈ db.records.rows, record.userId ≠ userId :=
                      fun record hrecord => of_decide_eq_false
                        (by simpa using List.find?_eq_none.1 hstored record hrecord)
                    have hsame : db.records.update userId (UserMfaSecret.used now)
                        (UserMfaSecret.used_userId now) = db.records :=
                      Table.updateWhere_eq_self hnone
                    left
                    simp [hactive, htotp, hsame]
                | some stored =>
                    right
                    left
                    exact ⟨stored, rfl, by simp [hactive, htotp]⟩
        | false =>
            by_cases hcode : hashRecoveryCode env code ∈ read.recoveryCodes
            · right
              right
              exact ⟨read, rfl, hactive, htotp, hcode, by simp [hactive, htotp, hcode]⟩
            · left
              simp [hactive, htotp, hcode]
      · left
        simp [hactive]

theorem verifyMfaCode_right (hkept : MfaKept db)
    (hfinds : (MfaCall.verifyMfaCode userId code now written seen).FindsRead env db) :
    (MfaCall.verifyMfaCode userId code now written seen).Right env db ∧
      MfaKept ((MfaCall.verifyMfaCode userId code now written seen).step env db) := by
  rcases verifyMfaCode_cases env userId code now written seen db with hsame |
    ⟨stored, hstored, hstep⟩ | ⟨read, hread, hactive, htotp, hcode, hstep⟩
  · refine ⟨right_of_step_eq hkept hsame, ?_⟩
    rw [hsame]
    exact hkept
  · have honly : OnlyRecord userId (stored.used now) db
        ((MfaCall.verifyMfaCode userId code now written seen).step env db) :=
      onlyRecord_update (UserMfaSecret.used_userId now) hstored (by rw [hstep])
    constructor
    · apply honly.right_of_status hstored rfl
      rw [hstep]
      exact hkept.once
    · exact honly.kept_of_same hkept (by rw [hstep]) (by rw [hstep])
        (hkept.live userId stored hstored) (hkept.idle userId stored hstored)
  · obtain ⟨rfl, stored, hstored, hall⟩ := hfinds read hread hactive htotp hcode
    let left := read.recoveryCodes.filter fun c => c ≠ hashRecoveryCode env code
    obtain ⟨hissue, hunused⟩ := hkept.live userId stored hstored _ (hall _ hcode)
    have honly : OnlyRecord userId (stored.withCodes now left) db
        ((MfaCall.verifyMfaCode userId code now true seen).step env db) :=
      onlyRecord_update (UserMfaSecret.withCodes_userId now left) hstored (by rw [hstep]; rfl)
    constructor
    · apply honly.right_of_status hstored rfl
      rw [hstep]
      exact nodup_cons.2 ⟨hunused, hkept.once⟩
    · apply honly.kept_of_taken hkept hissue hunused (by rw [hstep]) (by rw [hstep])
      · -- what is left was all stored before, without the code that is taken
        intro hash hhash
        obtain ⟨hwas, hother⟩ := mem_filter.1 hhash
        exact ⟨of_decide_eq_true hother, hkept.live userId stored hstored hash (hall hash hwas)⟩
      · intro hinactive
        have hnone := hkept.idle userId stored hstored hinactive
        have hmem := hall _ hcode
        rw [hnone] at hmem
        cases hmem

end Coded

theorem mfa_step (hkept : MfaKept db) (hnew : call.DrawsNew env db)
    (hfinds : call.FindsRead env db) :
    call.Right env db ∧ MfaKept ((mfaCalls env).step call db) := by
  cases call with
  | enrollMfa userId secret => exact enrollMfa_right hkept hfinds
  | activateMfa userId code now random seen => exact activateMfa_right hkept hnew hfinds
  | disableMfa userId code now seen => exact disableMfa_right hkept hfinds
  | verifyMfaCode userId code now written seen => exact verifyMfaCode_right hkept hfinds

/-- Over every interleaving of enrolments, activations, disablings and logins of any users, all
calls are right if each finds what it goes by. -/
theorem mfaRight_of_findsRead {start : MfaDb} {calls : List MfaCall} {trace : List MfaDb}
    (hstart : MfaKept start)
    (hlog : (mfaCalls env).Log (fun call db => call.DrawsNew env db) start calls trace)
    (hfinds : ∀ found ∈ Calls.occurrences calls trace, found.1.FindsRead env found.2) :
    ∀ found ∈ Calls.occurrences calls trace, found.1.Right env found.2 :=
  hlog.right_of_met (I := MfaKept) (F := fun call db => call.Right env db) hstart
    (fun _ _ hkept hnew hfinds => mfa_step hkept hnew hfinds) hfinds

namespace Sample

/-- Every one-time code is of zeros, and every text is its own hash. -/
def zerosEnv : MfaEnv := ⟨fun _ _ => "000000", id, id⟩

def twoCodes : MfaDb :=
  ⟨⟨[⟨"user", "secret", .ACTIVE, ["A", "B"], some 0, none⟩], nodup_singleton _⟩,
    [⟨"user", "secret", "A"⟩, ⟨"user", "secret", "B"⟩], []⟩

theorem twoCodes_kept : MfaKept twoCodes := by
  refine ⟨nodup_nil, ?_, ?_, fun _ _ hmem => absurd hmem not_mem_nil⟩
  · intro userId record hrecord hash hhash
    obtain rfl := mem_singleton.1 (Table.mem_of_find? hrecord)
    obtain rfl : "user" = userId := Table.key_of_find? hrecord
    refine ⟨?_, not_mem_nil⟩
    rcases mem_cons.1 hhash with rfl | hhash
    · exact mem_cons_self ..
    · obtain rfl := mem_singleton.1 hhash
      exact .tail _ (mem_cons_self ..)
  · intro userId record hrecord hinactive
    obtain rfl := mem_singleton.1 (Table.mem_of_find? hrecord)
    exact absurd rfl hinactive

def loginWithA : MfaCall := .verifyMfaCode "user" "A" 5 true twoCodes

theorem loginWithA_log :
    (mfaCalls zerosEnv).Log (fun call db => call.DrawsNew zerosEnv db) twoCodes [loginWithA]
      [(mfaCalls zerosEnv).step loginWithA twoCodes, twoCodes] :=
  .call loginWithA .start (fun _ hseen => hseen) trivial

def loggedInMfa : MfaDb := (mfaCalls zerosEnv).step loginWithA twoCodes

def giveUp : MfaCall := .disableMfa "user" "000000" 10 loggedInMfa

def givenUp : MfaDb := (mfaCalls zerosEnv).step giveUp loggedInMfa

def enrolAgain : MfaCall := .enrollMfa "user" "new secret"

def pendingAgain : MfaDb := (mfaCalls zerosEnv).step enrolAgain givenUp

def confirm : MfaCall := .activateMfa "user" "000000" 20 Nat.repr pendingAgain

theorem confirm_log :
    (mfaCalls zerosEnv).Log (fun call db => call.DrawsNew zerosEnv db) twoCodes
      [confirm, enrolAgain, giveUp, loginWithA]
      [(mfaCalls zerosEnv).step confirm pendingAgain, pendingAgain, givenUp, loggedInMfa,
        twoCodes] := by
  have hgivenUp := loginWithA_log.call giveUp
    (fun _ hseen => mem_singleton.1 hseen ▸ mem_cons_self ..) trivial
  have hpending := hgivenUp.call enrolAgain (fun _ hseen => nomatch hseen) trivial
  apply hpending.call confirm (fun _ hseen => mem_singleton.1 hseen ▸ mem_cons_self ..)
  simp only [MfaCall.DrawsNew, confirm]
  decide +kernel

theorem confirm_finds : ∀ found ∈ Calls.occurrences [confirm, enrolAgain, giveUp, loginWithA]
      [(mfaCalls zerosEnv).step confirm pendingAgain, pendingAgain, givenUp, loggedInMfa, twoCodes],
    found.1.FindsRead zerosEnv found.2 := by
  simp only [Calls.occurrences, tail_cons, zip_cons_cons, zip_nil_left,
    forall_mem_cons, MfaCall.FindsRead, MfaDb.IsActive, confirm, enrolAgain, giveUp, loginWithA]
  exact ⟨by decide +kernel, by decide +kernel, by decide +kernel, by decide +kernel,
    forall_mem_nil _⟩

end Sample

/-- A login, a factor given up, and one enrolled again. -/
theorem mfaRight_of_findsRead_sample :
    Sample.loginWithA.Right Sample.zerosEnv Sample.twoCodes ∧
      (Sample.loggedInMfa.IsActive "user" ∧ ¬ Sample.givenUp.IsActive "user" ∧
        Sample.giveUp.Right Sample.zerosEnv Sample.loggedInMfa) ∧
      ¬ Sample.pendingAgain.IsActive "user" ∧
        (Sample.confirm.step Sample.zerosEnv Sample.pendingAgain).IsActive "user" ∧
        Sample.confirm.Right Sample.zerosEnv Sample.pendingAgain := by
  have hright := mfaRight_of_findsRead Sample.twoCodes_kept Sample.confirm_log
    Sample.confirm_finds
  unfold MfaDb.IsActive
  refine ⟨hright _ (.tail _ (.tail _ (.tail _ (.head _)))), ⟨by decide +kernel, by decide +kernel,
    hright _ (.tail _ (.tail _ (.head _)))⟩, by decide +kernel, by decide +kernel,
    hright _ (.head _)⟩

theorem mfaRight_fails :
    ¬ ∀ (env : MfaEnv) (start : MfaDb) (calls : List MfaCall) (trace : List MfaDb), MfaKept start →
      (mfaCalls env).Log (fun call db => call.DrawsNew env db) start calls trace →
      ∀ found ∈ Calls.occurrences calls trace, found.1.Right env found.2 := by
  intro hall
  have hright := hall _ _ _ _ Sample.twoCodes_kept
    (.call Sample.loginWithA Sample.loginWithA_log (fun _ hseen => .tail _ hseen) trivial) _
    (mem_cons_self ..)
  have honce := hright.once
  revert honce
  decide +kernel

end SafariLaundry
