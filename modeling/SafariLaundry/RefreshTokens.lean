import SafariLaundry.Domain
import SafariLaundry.Library.History
import SafariLaundry.Library.Selection

/-!
# Refresh tokens

Staff and customers trade a refresh token for its successor.  The row is read first; the
transaction then creates the successor and marks the row as used, whatever it has become.
A token that is presented again after its use revokes all tokens of its account.
-/

namespace SafariLaundry

open Library List

structure RefreshToken where
  (id accountId : Uuid)
  tokenHash : String
  expiresAt : Timestamp
  (usedAt revokedAt : Option Timestamp)
  replacedById : Option Uuid

structure Succession where
  (parent child : Uuid)
  parentRevoked : Bool

structure TokenReplay where
  accountId : Uuid
  issued : List Uuid

structure TokenDb where
  tokens : Table RefreshToken.id
  /-- Not a table: the successors that were created, newest first. -/
  successions : List Succession
  /-- Not a table: the replays so far, newest first. -/
  replays : List TokenReplay

inductive Portal
  | staff | customer

structure TokenEnv where
  sha256Hex : String → String
  refreshTokenDays : ℕ

inductive AuthError
  | unauthorized (message : String)
  | passwordChangeRequired (message : String)
  | database (message : String)

namespace RefreshToken

def revoked (now : Timestamp) (token : RefreshToken) : RefreshToken :=
  { token with revokedAt := some now }

theorem revoked_id (now : Timestamp) (token : RefreshToken) :
    (token.revoked now).id = token.id := rfl

end RefreshToken

def Portal.used (portal : Portal) (now : Timestamp) (child : Uuid) (token : RefreshToken) :
    RefreshToken :=
  match portal with
  | .staff => { token with usedAt := some now }
  | .customer => { token with usedAt := some now, replacedById := some child }

theorem Portal.used_id (portal : Portal) (now : Timestamp) (child : Uuid) (token : RefreshToken) :
    (portal.used now child token).id = token.id := by
  cases portal with
  | staff => rfl
  | customer => rfl

structure RefreshRequest where
  (rawToken newRaw : String)
  now : Timestamp
  keys : FreshKeys Uuid
  (isActive mustChangePassword : Bool)

namespace TokenDb

def byHash (tokenHash : String) (db : TokenDb) : Option RefreshToken :=
  db.tokens.rows.find? fun token => token.tokenHash = tokenHash

def create (env : TokenEnv) (keys : FreshKeys Uuid) (accountId : Uuid) (newRaw : String)
    (now : Timestamp) (db : TokenDb) : TokenDb :=
  { db with
    tokens := db.tokens.insertNew keys (fun id =>
      ⟨id, accountId, env.sha256Hex newRaw, now + env.refreshTokenDays * 86400000, none, none,
        none⟩) fun _ => rfl }

def revokeAll (accountId : Uuid) (now : Timestamp) (db : TokenDb) : TokenDb :=
  { db with
    tokens := db.tokens.updateWhere
      (fun token => token.accountId = accountId ∧ token.revokedAt = none)
      (RefreshToken.revoked now) (RefreshToken.revoked_id now)
    replays := ⟨accountId, (db.tokens.rows.filter fun token =>
      token.accountId = accountId).map RefreshToken.id⟩ :: db.replays }

def revokeRow (id : Uuid) (now : Timestamp) (db : TokenDb) : TokenDb :=
  { db with tokens := db.tokens.update id (RefreshToken.revoked now) (RefreshToken.revoked_id now) }

def childId (keys : FreshKeys Uuid) (db : TokenDb) : Uuid :=
  keys.draw (db.tokens.rows.map RefreshToken.id)

def succeed (env : TokenEnv) (portal : Portal) (request : RefreshRequest)
    (row stored : RefreshToken) (db : TokenDb) : TokenDb :=
  { db with
    tokens := (db.create env request.keys row.accountId request.newRaw request.now).tokens.update
      row.id (portal.used request.now (db.childId request.keys))
      (portal.used_id request.now (db.childId request.keys))
    successions :=
      ⟨row.id, db.childId request.keys, stored.revokedAt.isSome⟩ :: db.successions }

def rotate (env : TokenEnv) (portal : Portal) (request : RefreshRequest) (row : RefreshToken)
    (db : TokenDb) : Except AuthError Uuid × TokenDb :=
  if env.sha256Hex request.newRaw ∈ db.tokens.rows.map RefreshToken.tokenHash then
    (.error (.database "P2002"), db)
  else
    match db.tokens.find? row.id with
    | none => (.error (.database "P2025"), db)
    | some stored =>
        (.ok (db.childId request.keys), db.succeed env portal request row stored)

end TokenDb

def refreshAccessToken (env : TokenEnv) (request : RefreshRequest) (seen db : TokenDb) :
    Except AuthError Uuid × TokenDb :=
  match seen.byHash (env.sha256Hex request.rawToken) with
  | none => (.error (.unauthorized "Invalid refresh token"), db)
  | some row =>
      if row.revokedAt ≠ none then (.error (.unauthorized "Refresh token revoked"), db)
      else if row.expiresAt ≤ request.now then
        (.error (.unauthorized "Refresh token expired"), db)
      else if row.usedAt ≠ none then
        (.error (.unauthorized "Refresh token replay detected"),
          db.revokeAll row.accountId request.now)
      else if request.isActive = false then
        (.error (.unauthorized "This account is deactivated"), db.revokeRow row.id request.now)
      else if request.mustChangePassword = true then
        (.error (.passwordChangeRequired <| "Password change is required — sign in with " ++
          "username and temporary password, then complete change-password."),
          db.revokeRow row.id request.now)
      else db.rotate env .staff request row

def refreshCustomerAccessToken (env : TokenEnv) (request : RefreshRequest) (seen db : TokenDb) :
    Except AuthError Uuid × TokenDb :=
  match seen.byHash (env.sha256Hex request.rawToken) with
  | none => (.error (.unauthorized "Invalid refresh token"), db)
  | some row =>
      if row.revokedAt ≠ none then (.error (.unauthorized "Refresh token revoked"), db)
      else if row.expiresAt ≤ request.now then
        (.error (.unauthorized "Refresh token expired"), db)
      else if row.usedAt ≠ none then
        (.error (.unauthorized "Refresh token replay detected"),
          db.revokeAll row.accountId request.now)
      else db.rotate env .customer request row

def Portal.refresh (env : TokenEnv) (request : RefreshRequest) (seen db : TokenDb) :
    Portal → Except AuthError Uuid × TokenDb
  | .staff => refreshAccessToken env request seen db
  | .customer => refreshCustomerAccessToken env request seen db

def revokeRefreshToken (env : TokenEnv) (rawToken : String) (now : Timestamp) (db : TokenDb) :
    TokenDb :=
  { db with
    tokens := db.tokens.updateWhere
      (fun token => token.tokenHash = env.sha256Hex rawToken ∧ token.revokedAt = none)
      (RefreshToken.revoked now) (RefreshToken.revoked_id now) }

def issueRefreshToken (env : TokenEnv) (keys : FreshKeys Uuid) (accountId : Uuid)
    (newRaw : String) (now : Timestamp) (db : TokenDb) : TokenDb :=
  if env.sha256Hex newRaw ∈ db.tokens.rows.map RefreshToken.tokenHash then db
  else db.create env keys accountId newRaw now

inductive TokenCall
  | refresh (request : RefreshRequest) (seen : TokenDb)
  | revoke (rawToken : String) (now : Timestamp)
  | issue (keys : FreshKeys Uuid) (accountId : Uuid) (newRaw : String) (now : Timestamp)

def tokenCalls (env : TokenEnv) (portal : Portal) : Calls TokenDb TokenCall where
  step := fun call db =>
    match call with
    | .refresh request seen => (portal.refresh env request seen db).2
    | .revoke rawToken now => revokeRefreshToken env rawToken now db
    | .issue keys accountId newRaw now => issueRefreshToken env keys accountId newRaw now db
  seen := fun call =>
    match call with
    | .refresh _ seen => [seen]
    | _ => []

def TokenDb.Succeeds (db : TokenDb) (parent child : Uuid) : Prop :=
  ∃ succession ∈ db.successions, succession.parent = parent ∧ succession.child = child

def TokenDb.Descends (db : TokenDb) : Uuid → Uuid → Prop := Relation.TransGen db.Succeeds

/-- One successor at most for each token and none for a revoked one; after a replay, all
tokens that the account had are revoked and none was issued that descends from them. -/
structure TokensSound (db : TokenDb) : Prop where
  oneSuccessor : (db.successions.map Succession.parent).Nodup
  notRevoked : ∀ succession ∈ db.successions, succession.parentRevoked = false
  condemned : ∀ replay ∈ db.replays, ∀ id ∈ replay.issued,
    (∀ token, db.tokens.find? id = some token → token.revokedAt ≠ none) ∧
      ∀ later, db.Descends id later → later ∈ replay.issued

structure RefreshRequest.Rotates (env : TokenEnv) (portal : Portal) (request : RefreshRequest)
    (seen : TokenDb) (row : RefreshToken) : Prop where
  found : seen.byHash (env.sha256Hex request.rawToken) = some row
  unrevoked : row.revokedAt = none
  unexpired : request.now < row.expiresAt
  unused : row.usedAt = none
  account : portal = .staff → request.isActive = true ∧ request.mustChangePassword = false

/-- The row that a refresh marks as used is still unused and unrevoked. -/
def TokenCall.FindsLive (env : TokenEnv) (portal : Portal) (db : TokenDb) : TokenCall → Prop
  | .refresh request seen => ∀ row stored, request.Rotates env portal seen row →
      env.sha256Hex request.newRaw ∉ db.tokens.rows.map RefreshToken.tokenHash →
      db.tokens.find? row.id = some stored → stored.usedAt = none ∧ stored.revokedAt = none
  | _ => True

variable {env : TokenEnv} {portal : Portal} {request : RefreshRequest} {seen db : TokenDb}
  {row stored token : RefreshToken}

theorem rotate_cases (env : TokenEnv) (portal : Portal) (request : RefreshRequest)
    (row : RefreshToken) (db : TokenDb) :
    (db.rotate env portal request row).2 = db ∧
        (env.sha256Hex request.newRaw ∈ db.tokens.rows.map RefreshToken.tokenHash ∨
          db.tokens.find? row.id = none) ∨
      ∃ stored, env.sha256Hex request.newRaw ∉ db.tokens.rows.map RefreshToken.tokenHash ∧
        db.tokens.find? row.id = some stored ∧
        (db.rotate env portal request row).2 = db.succeed env portal request row stored := by
  unfold TokenDb.rotate
  by_cases htaken : env.sha256Hex request.newRaw ∈ db.tokens.rows.map RefreshToken.tokenHash
  · rw [if_pos htaken]
    exact .inl ⟨rfl, .inl htaken⟩
  · rw [if_neg htaken]
    cases hstored : db.tokens.find? row.id with
    | none => exact .inl ⟨rfl, .inr rfl⟩
    | some stored => exact .inr ⟨stored, htaken, rfl, rfl⟩

section Branches

variable (hrow : seen.byHash (env.sha256Hex request.rawToken) = some row)

include hrow

theorem refresh_of_dead (hdead : row.revokedAt ≠ none ∨ row.expiresAt ≤ request.now) :
    (portal.refresh env request seen db).2 = db := by
  by_cases hrevoked : row.revokedAt ≠ none
  · cases portal with
    | staff => simp only [Portal.refresh, refreshAccessToken, hrow, if_pos hrevoked]
    | customer => simp only [Portal.refresh, refreshCustomerAccessToken, hrow, if_pos hrevoked]
  · have hexpired := hdead.resolve_left hrevoked
    cases portal with
    | staff =>
        simp only [Portal.refresh, refreshAccessToken, hrow, if_neg hrevoked, if_pos hexpired]
    | customer =>
        simp only [Portal.refresh, refreshCustomerAccessToken, hrow, if_neg hrevoked,
          if_pos hexpired]

variable (hrevoked : ¬ row.revokedAt ≠ none) (hexpired : ¬ row.expiresAt ≤ request.now)

include hrevoked hexpired

theorem refresh_of_used (hused : row.usedAt ≠ none) :
    (portal.refresh env request seen db).2 = db.revokeAll row.accountId request.now := by
  cases portal with
  | staff =>
      simp only [Portal.refresh, refreshAccessToken, hrow, if_neg hrevoked, if_neg hexpired,
        if_pos hused]
  | customer =>
      simp only [Portal.refresh, refreshCustomerAccessToken, hrow, if_neg hrevoked,
        if_neg hexpired, if_pos hused]

theorem staff_refresh_of_barred (hused : ¬ row.usedAt ≠ none)
    (hbarred : request.isActive = false ∨ request.mustChangePassword = true) :
    (Portal.staff.refresh env request seen db).2 = db.revokeRow row.id request.now := by
  by_cases hactive : request.isActive = false
  · simp only [Portal.refresh, refreshAccessToken, hrow, if_neg hrevoked, if_neg hexpired,
      if_neg hused, if_pos hactive]
  · simp only [Portal.refresh, refreshAccessToken, hrow, if_neg hrevoked, if_neg hexpired,
      if_neg hused, if_neg hactive, if_pos (hbarred.resolve_left hactive)]

end Branches

theorem refresh_of_rotates (hrotates : request.Rotates env portal seen row) :
    (portal.refresh env request seen db).2 = (db.rotate env portal request row).2 := by
  have hrevoked : ¬ row.revokedAt ≠ none := not_not.2 hrotates.unrevoked
  have hexpired : ¬ row.expiresAt ≤ request.now := not_le.2 hrotates.unexpired
  have hused : ¬ row.usedAt ≠ none := not_not.2 hrotates.unused
  cases portal with
  | staff =>
      obtain ⟨hactive, hchange⟩ := hrotates.account rfl
      have hactive : ¬ request.isActive = false := by simp [hactive]
      have hchange : ¬ request.mustChangePassword = true := by simp [hchange]
      simp only [Portal.refresh, refreshAccessToken, hrotates.found, if_neg hrevoked,
        if_neg hexpired, if_neg hused, if_neg hactive, if_neg hchange]
  | customer =>
      simp only [Portal.refresh, refreshCustomerAccessToken, hrotates.found, if_neg hrevoked,
        if_neg hexpired, if_neg hused]

theorem refresh_cases (env : TokenEnv) (portal : Portal) (request : RefreshRequest)
    (seen db : TokenDb) :
    ((∀ row, ¬ request.Rotates env portal seen row) ∧ ((portal.refresh env request seen db).2 = db ∨
        (∃ id, (portal.refresh env request seen db).2 = db.revokeRow id request.now) ∨
        ∃ accountId, (portal.refresh env request seen db).2 = db.revokeAll accountId request.now)) ∨
      ∃ row, request.Rotates env portal seen row ∧
        (portal.refresh env request seen db).2 = (db.rotate env portal request row).2 := by
  by_cases hrotates : ∃ row, request.Rotates env portal seen row
  · obtain ⟨row, hrow⟩ := hrotates
    exact .inr ⟨row, hrow, refresh_of_rotates hrow⟩
  · refine .inl ⟨not_exists.1 hrotates, ?_⟩
    cases hrow : seen.byHash (env.sha256Hex request.rawToken) with
    | none =>
        left
        cases portal with
        | staff => simp only [Portal.refresh, refreshAccessToken, hrow]
        | customer => simp only [Portal.refresh, refreshCustomerAccessToken, hrow]
    | some row =>
        by_cases hdead : row.revokedAt ≠ none ∨ row.expiresAt ≤ request.now
        · exact .inl (refresh_of_dead hrow hdead)
        · obtain ⟨hrevoked, hexpired⟩ := not_or.1 hdead
          by_cases hused : row.usedAt ≠ none
          · exact .inr (.inr ⟨row.accountId, refresh_of_used hrow hrevoked hexpired hused⟩)
          · -- the account bars the token, or it would rotate
            have haccount : ¬ (portal = .staff →
                request.isActive = true ∧ request.mustChangePassword = false) :=
              fun haccount => hrotates ⟨row, hrow, not_not.1 hrevoked, not_le.1 hexpired,
                not_not.1 hused, haccount⟩
            obtain ⟨rfl, hbarred⟩ := Classical.not_imp.1 haccount
            have hbarred : request.isActive = false ∨ request.mustChangePassword = true := by
              simpa [imp_iff_not_or] using hbarred
            exact .inr (.inl ⟨row.id, staff_refresh_of_barred hrow hrevoked hexpired hused hbarred⟩)

/-! ## What is kept -/

/-- What is kept as long as every refresh finds its row live. -/
structure TokensKept (db : TokenDb) : Prop where
  oneSuccessor : (db.successions.map Succession.parent).Nodup
  notRevoked : ∀ succession ∈ db.successions, succession.parentRevoked = false
  used : ∀ token ∈ db.tokens.rows,
    token.usedAt ≠ none ↔ token.id ∈ db.successions.map Succession.parent
  sameAccount : ∀ succession ∈ db.successions, ∃ parent child,
    db.tokens.find? succession.parent = some parent ∧
      db.tokens.find? succession.child = some child ∧ child.accountId = parent.accountId
  stored : ∀ replay ∈ db.replays, ∀ id ∈ replay.issued, ∃ token,
    db.tokens.find? id = some token ∧ token.revokedAt ≠ none
  closed : ∀ replay ∈ db.replays, ∀ succession ∈ db.successions,
    succession.parent ∈ replay.issued → succession.child ∈ replay.issued

theorem TokensKept.sound (hkept : TokensKept db) : TokensSound db := by
  refine ⟨hkept.oneSuccessor, hkept.notRevoked, ?_⟩
  intro replay hreplay id hid
  constructor
  · intro token htoken
    obtain ⟨stored, hstored, hrevoked⟩ := hkept.stored replay hreplay id hid
    rwa [← Option.some.inj (hstored.symm.trans htoken)]
  · intro later hdescends
    have hstep : ∀ parent child, db.Succeeds parent child → parent ∈ replay.issued →
        child ∈ replay.issued := by
      rintro _ _ ⟨succession, hmem, rfl, rfl⟩ hparent
      exact hkept.closed replay hreplay succession hmem hparent
    induction hdescends with
    | single hsucceeds => exact hstep _ _ hsucceeds hid
    | tail _ hsucceeds ih => exact hstep _ _ hsucceeds ih

structure OnlyRevoked (before after : TokenDb) : Prop where
  rows : ∀ id token, before.tokens.find? id = some token → ∃ later,
    after.tokens.find? id = some later ∧ later.accountId = token.accountId ∧
      (token.revokedAt ≠ none → later.revokedAt ≠ none)
  used : ∀ token ∈ after.tokens.rows, token.usedAt ≠ none →
    ∃ old ∈ before.tokens.rows, old.id = token.id ∧ old.usedAt ≠ none
  stillUsed : ∀ token ∈ after.tokens.rows, ∀ old ∈ before.tokens.rows, old.id = token.id →
    old.usedAt ≠ none → token.usedAt ≠ none
  successions : after.successions = before.successions

theorem TokensKept.onlyRevoked {after : TokenDb} (hkept : TokensKept db)
    (honly : OnlyRevoked db after) (hreplays : after.replays = db.replays) :
    TokensKept after := by
  refine ⟨?_, ?_, ?_, ?_, ?_, ?_⟩
  · rw [honly.successions]
    exact hkept.oneSuccessor
  · rw [honly.successions]
    exact hkept.notRevoked
  · intro token htoken
    rw [honly.successions]
    constructor
    · intro hused
      obtain ⟨old, hold, hid, hbefore⟩ := honly.used token htoken hused
      rw [← hid]
      exact (hkept.used old hold).1 hbefore
    · intro hparent
      obtain ⟨succession, hmem, hid⟩ := mem_map.1 hparent
      obtain ⟨parent, _, hfound, _⟩ := hkept.sameAccount succession hmem
      have hsame : parent.id = token.id := (Table.key_of_find? hfound).trans hid
      apply honly.stillUsed token htoken parent (Table.mem_of_find? hfound) hsame
      apply (hkept.used parent (Table.mem_of_find? hfound)).2
      rw [hsame]
      exact hparent
  · rw [honly.successions]
    intro succession hmem
    obtain ⟨parent, child, hparent, hchild, hsame⟩ := hkept.sameAccount succession hmem
    obtain ⟨parent', hparent', haccount, _⟩ := honly.rows _ _ hparent
    obtain ⟨child', hchild', haccount', _⟩ := honly.rows _ _ hchild
    exact ⟨parent', child', hparent', hchild', by rw [haccount', hsame, haccount]⟩
  · rw [hreplays]
    intro replay hreplay id hid
    obtain ⟨token, htoken, hrevoked⟩ := hkept.stored replay hreplay id hid
    obtain ⟨later, hlater, _, hstill⟩ := honly.rows _ _ htoken
    exact ⟨later, hlater, hstill hrevoked⟩
  · rw [hreplays, honly.successions]
    exact hkept.closed

theorem onlyRevoked_updateWhere (db : TokenDb) (p : RefreshToken → Prop) [DecidablePred p]
    (now : Timestamp) (replays : List TokenReplay) :
    OnlyRevoked db { db with
      tokens := db.tokens.updateWhere p (RefreshToken.revoked now) (RefreshToken.revoked_id now)
      replays := replays } := by
  have hrow : ∀ old : RefreshToken, (if p old then old.revoked now else old).id = old.id ∧
        (if p old then old.revoked now else old).accountId = old.accountId ∧
        (if p old then old.revoked now else old).usedAt = old.usedAt ∧
        (old.revokedAt ≠ none → (if p old then old.revoked now else old).revokedAt ≠ none) := by
    intro old
    by_cases hp : p old
    · rw [if_pos hp]
      exact ⟨rfl, rfl, rfl, fun _ => Option.some_ne_none now⟩
    · rw [if_neg hp]
      exact ⟨rfl, rfl, rfl, id⟩
  refine ⟨?_, ?_, ?_, rfl⟩
  · intro id token hfound
    refine ⟨if p token then token.revoked now else token, ?_, (hrow token).2.1, (hrow token).2.2.2⟩
    change (db.tokens.updateWhere p (RefreshToken.revoked now) (RefreshToken.revoked_id now)).find?
      id = _
    rw [Table.find?_updateWhere, hfound]
    rfl
  · intro token htoken hused
    obtain ⟨old, hold, rfl⟩ := mem_map.1 htoken
    rw [(hrow old).2.2.1] at hused
    exact ⟨old, hold, (hrow old).1.symm, hused⟩
  · intro token htoken other hother hsame hused
    obtain ⟨old, hold, rfl⟩ := mem_map.1 htoken
    rw [(hrow old).1] at hsame
    obtain rfl := Table.row_eq_of_key_eq hother hold hsame
    rwa [(hrow other).2.2.1]

theorem onlyRevoked_create (keys : FreshKeys Uuid) (accountId : Uuid) (newRaw : String)
    (now : Timestamp) : OnlyRevoked db (db.create env keys accountId newRaw now) := by
  refine ⟨?_, ?_, ?_, rfl⟩
  · intro id token hfound
    have hmem : token ∈ (db.create env keys accountId newRaw now).tokens.rows :=
      mem_append_left _ (Table.mem_of_find? hfound)
    refine ⟨token, ?_, rfl, fun hrevoked => hrevoked⟩
    rw [← Table.key_of_find? hfound]
    exact Table.find?_of_mem hmem
  · intro token htoken hused
    rcases mem_append.1 htoken with hold | hnew
    · exact ⟨token, hold, rfl, hused⟩
    · obtain rfl := mem_singleton.1 hnew
      exact absurd rfl hused
  · intro token htoken old hold hsame hused
    rcases mem_append.1 htoken with hstored | hnew
    · obtain rfl := Table.row_eq_of_key_eq hold hstored hsame
      exact hused
    · obtain rfl := mem_singleton.1 hnew
      have hfresh := keys.draw_fresh (db.tokens.rows.map RefreshToken.id)
      change old.id = keys.draw (db.tokens.rows.map RefreshToken.id) at hsame
      rw [← hsame] at hfresh
      exact absurd (mem_map_of_mem hold) hfresh

theorem TokensKept.revokeAll (hkept : TokensKept db) (accountId : Uuid) (now : Timestamp) :
    TokensKept (db.revokeAll accountId now) := by
  let p : RefreshToken → Prop := fun token =>
    token.accountId = accountId ∧ token.revokedAt = none
  let after : TokenDb := { db with
    tokens := db.tokens.updateWhere p (RefreshToken.revoked now) (RefreshToken.revoked_id now) }
  have honly : OnlyRevoked db after := onlyRevoked_updateWhere db p now db.replays
  have hafter : TokensKept after := hkept.onlyRevoked honly rfl
  refine ⟨hafter.oneSuccessor, hafter.notRevoked, hafter.used, hafter.sameAccount, ?_, ?_⟩
  · intro replay hreplay id hid
    rcases mem_cons.1 hreplay with rfl | hold
    · obtain ⟨token, htoken, rfl⟩ := mem_map.1 hid
      obtain ⟨hmem, haccount⟩ := mem_filter.1 htoken
      have hfound := Table.find?_of_mem hmem
      refine ⟨if p token then token.revoked now else token, ?_, ?_⟩
      · change (db.tokens.updateWhere p (RefreshToken.revoked now)
          (RefreshToken.revoked_id now)).find? token.id = _
        rw [Table.find?_updateWhere, hfound]
        rfl
      · by_cases hp : p token
        · rw [if_pos hp]
          exact Option.some_ne_none now
        · rw [if_neg hp]
          exact fun hnone => hp ⟨of_decide_eq_true haccount, hnone⟩
    · exact hafter.stored replay hold id hid
  · intro replay hreplay succession hmem hparent
    rcases mem_cons.1 hreplay with rfl | hold
    · obtain ⟨token, htoken, hid⟩ := mem_map.1 hparent
      obtain ⟨hstored, haccount⟩ := mem_filter.1 htoken
      obtain ⟨parent, child, hfound, hchild, hsame⟩ := hkept.sameAccount succession hmem
      have hown : parent.accountId = accountId := by
        rw [← hid, Table.find?_of_mem hstored] at hfound
        obtain rfl := Option.some.inj hfound
        exact of_decide_eq_true haccount
      rw [← Table.key_of_find? hchild]
      apply mem_map_of_mem
      exact mem_filter.2 ⟨Table.mem_of_find? hchild, decide_eq_true (hsame.trans hown)⟩
    · exact hafter.closed replay hold succession hmem hparent

/-! ## The transaction -/

def TokensPersist (before after : TokenDb) : Prop :=
  ∀ id token, before.tokens.find? id = some token → ∃ later,
    after.tokens.find? id = some later ∧ later.accountId = token.accountId

instance : Std.Refl TokensPersist where
  refl _ := fun _ token hfound => ⟨token, hfound, rfl⟩

instance : IsTrans TokenDb TokensPersist where
  trans _ _ _ hfirst hsecond := by
    intro id token hfound
    obtain ⟨later, hlater, haccount⟩ := hfirst id token hfound
    obtain ⟨last, hlast, haccount'⟩ := hsecond id later hlater
    exact ⟨last, hlast, haccount'.trans haccount⟩

theorem OnlyRevoked.persist {after : TokenDb} (honly : OnlyRevoked db after) :
    TokensPersist db after := by
  intro id token hfound
  obtain ⟨later, hlater, haccount, _⟩ := honly.rows id token hfound
  exact ⟨later, hlater, haccount⟩

theorem Portal.used_spec (portal : Portal) (now : Timestamp) (child : Uuid) (token : RefreshToken) :
    (portal.used now child token).accountId = token.accountId ∧
      (portal.used now child token).revokedAt = token.revokedAt ∧
      (portal.used now child token).usedAt = some now := by
  cases portal with
  | staff => exact ⟨rfl, rfl, rfl⟩
  | customer => exact ⟨rfl, rfl, rfl⟩

theorem find?_succeed {id : Uuid} (env : TokenEnv) (portal : Portal) (request : RefreshRequest)
    (row stored : RefreshToken) (hfound : db.tokens.find? id = some token) :
    ∃ later, (db.succeed env portal request row stored).tokens.find? id = some later ∧
      later.accountId = token.accountId ∧ later.revokedAt = token.revokedAt := by
  have hmem : token ∈ (db.create env request.keys row.accountId request.newRaw
      request.now).tokens.rows := mem_append_left _ (Table.mem_of_find? hfound)
  have hcreated := Table.find?_of_mem hmem
  rw [Table.key_of_find? hfound] at hcreated
  by_cases hsame : id = row.id
  · subst hsame
    have hspec := portal.used_spec request.now (db.childId request.keys) token
    refine ⟨portal.used request.now (db.childId request.keys) token, ?_, hspec.1, hspec.2.1⟩
    unfold TokenDb.succeed
    rw [Table.find?_update_self, hcreated]
    rfl
  · refine ⟨token, ?_, rfl, rfl⟩
    unfold TokenDb.succeed
    rw [Table.find?_update_of_ne _ _ _ hsame]
    exact hcreated

theorem childId_ne {id : Uuid} {keys : FreshKeys Uuid} (hfound : db.tokens.find? id = some token) :
    db.childId keys ≠ id := by
  intro hsame
  apply keys.draw_fresh (db.tokens.rows.map RefreshToken.id)
  change db.childId keys ∈ _
  rw [hsame, ← Table.key_of_find? hfound]
  exact mem_map_of_mem (Table.mem_of_find? hfound)

theorem find?_succeed_child (env : TokenEnv) (portal : Portal) (request : RefreshRequest)
    (hfound : db.tokens.find? row.id = some stored) :
    ∃ child, (db.succeed env portal request row stored).tokens.find? (db.childId request.keys) =
        some child ∧ child.accountId = row.accountId := by
  let child : RefreshToken := ⟨db.childId request.keys, row.accountId,
    env.sha256Hex request.newRaw, request.now + env.refreshTokenDays * 86400000, none, none, none⟩
  have hmem : child ∈
      (db.create env request.keys row.accountId request.newRaw request.now).tokens.rows :=
    mem_append_right _ (mem_singleton_self _)
  refine ⟨child, ?_, rfl⟩
  unfold TokenDb.succeed
  rw [Table.find?_update_of_ne _ _ _ (childId_ne hfound)]
  exact Table.find?_of_mem hmem

theorem TokensKept.not_parent (hkept : TokensKept db)
    (hfound : db.tokens.find? row.id = some stored) (hunused : stored.usedAt = none) : row.id ∉ db.successions.map Succession.parent := by
  intro hparent
  rw [← Table.key_of_find? hfound] at hparent
  exact (hkept.used stored (Table.mem_of_find? hfound)).2 hparent hunused

theorem TokensKept.succeed (hkept : TokensKept db) (hfound : db.tokens.find? row.id = some stored)
    (haccount : stored.accountId = row.accountId) (hunused : stored.usedAt = none)
    (hunrevoked : stored.revokedAt = none) :
    TokensKept (db.succeed env portal request row stored) := by
  have hparent := hkept.not_parent hfound hunused
  have hchild : ∀ succession ∈ db.successions,
      db.childId request.keys ≠ succession.parent := by
    intro succession hmem
    obtain ⟨parent, _, hstored, _⟩ := hkept.sameAccount succession hmem
    exact childId_ne hstored
  refine ⟨nodup_cons.2 ⟨hparent, hkept.oneSuccessor⟩, ?_, ?_, ?_, ?_, ?_⟩
  · intro succession hmem
    rcases mem_cons.1 hmem with rfl | hold
    · change stored.revokedAt.isSome = false
      rw [hunrevoked]
      rfl
    · exact hkept.notRevoked succession hold
  · intro token htoken
    obtain ⟨old, hold, hwritten⟩ := mem_map.1 htoken
    change _ ↔ token.id ∈ row.id :: db.successions.map Succession.parent
    by_cases hsame : old.id = row.id
    · rw [if_pos hsame] at hwritten
      subst hwritten
      rw [Portal.used_id, (portal.used_spec _ _ old).2.2, hsame]
      exact iff_of_true (Option.some_ne_none _) (mem_cons_self ..)
    · rw [if_neg hsame] at hwritten
      subst hwritten
      rw [mem_cons]
      rcases mem_append.1 hold with hstored | hnew
      · rw [hkept.used old hstored]
        exact ⟨.inr, fun hor => hor.resolve_left hsame⟩
      · obtain rfl := mem_singleton.1 hnew
        refine iff_of_false (fun hused => hused rfl) ?_
        rintro (hrow | hmem)
        · exact hsame hrow
        · obtain ⟨succession, hsuccession, hid⟩ := mem_map.1 hmem
          exact hchild succession hsuccession hid.symm
  · intro succession hmem
    rcases mem_cons.1 hmem with rfl | hold
    · obtain ⟨parent, hparent', hown, _⟩ := find?_succeed env portal request row stored hfound
      obtain ⟨child, hchild', hown'⟩ := find?_succeed_child env portal request hfound
      exact ⟨parent, child, hparent', hchild', by rw [hown', hown, haccount]⟩
    · obtain ⟨parent, child, hparent', hchild', hsame⟩ := hkept.sameAccount succession hold
      obtain ⟨parent', hlater, hown, _⟩ := find?_succeed env portal request row stored hparent'
      obtain ⟨child', hlater', hown', _⟩ := find?_succeed env portal request row stored hchild'
      exact ⟨parent', child', hlater, hlater', by rw [hown', hsame, hown]⟩
  · intro replay hreplay id hid
    obtain ⟨token, htoken, hrevoked⟩ := hkept.stored replay hreplay id hid
    obtain ⟨later, hlater, _, hsame⟩ := find?_succeed env portal request row stored htoken
    exact ⟨later, hlater, by rwa [hsame]⟩
  · intro replay hreplay succession hmem hin
    rcases mem_cons.1 hmem with rfl | hold
    · obtain ⟨token, htoken, hrevoked⟩ := hkept.stored replay hreplay row.id hin
      obtain rfl := Option.some.inj (hfound.symm.trans htoken)
      exact absurd hunrevoked hrevoked
    · exact hkept.closed replay hreplay succession hold hin

/-! ## Runs -/

variable {call : TokenCall}

theorem onlyRevoked_issue (env : TokenEnv) (keys : FreshKeys Uuid) (accountId : Uuid)
    (newRaw : String) (now : Timestamp) (db : TokenDb) :
    OnlyRevoked db (issueRefreshToken env keys accountId newRaw now db) ∧
      (issueRefreshToken env keys accountId newRaw now db).replays = db.replays := by
  unfold issueRefreshToken
  by_cases htaken : env.sha256Hex newRaw ∈ db.tokens.rows.map RefreshToken.tokenHash
  · rw [if_pos htaken]
    refine ⟨⟨fun id token hfound => ⟨token, hfound, rfl, fun hrevoked => hrevoked⟩,
      fun token htoken hused => ⟨token, htoken, rfl, hused⟩, ?_, rfl⟩, rfl⟩
    intro token htoken old hold hsame hused
    rwa [← Table.row_eq_of_key_eq hold htoken hsame]
  · rw [if_neg htaken]
    exact ⟨onlyRevoked_create keys accountId newRaw now, rfl⟩

theorem tokens_step (hkept : TokensKept db)
    (hseen : ∀ seen ∈ (tokenCalls env portal).seen call, TokensPersist seen db) :
    (TokensSound ((tokenCalls env portal).step call db) → call.FindsLive env portal db) ∧
      (call.FindsLive env portal db → TokensKept ((tokenCalls env portal).step call db)) := by
  cases call with
  | revoke rawToken now =>
      have honly := onlyRevoked_updateWhere db
        (fun token => token.tokenHash = env.sha256Hex rawToken ∧ token.revokedAt = none) now
        db.replays
      exact ⟨fun _ => trivial, fun _ => hkept.onlyRevoked honly rfl⟩
  | issue keys accountId newRaw now =>
      have hissued := onlyRevoked_issue env keys accountId newRaw now db
      exact ⟨fun _ => trivial, fun _ => hkept.onlyRevoked hissued.1 hissued.2⟩
  | refresh request seen =>
      have hpersist : TokensPersist seen db := hseen seen (mem_singleton_self _)
      change (TokensSound (portal.refresh env request seen db).2 → _) ∧
        (_ → TokensKept (portal.refresh env request seen db).2)
      rcases refresh_cases env portal request seen db with ⟨hnone, hleft⟩ |
        ⟨row, hrotates, hrotated⟩
      · refine ⟨fun _ row _ hrotates => absurd hrotates (hnone row), fun _ => ?_⟩
        rcases hleft with hsame | ⟨id, hrow⟩ | ⟨accountId, hall⟩
        · rwa [hsame]
        · rw [hrow]
          exact hkept.onlyRevoked (onlyRevoked_updateWhere db _ request.now db.replays) rfl
        · rw [hall]
          exact hkept.revokeAll accountId request.now
      · rw [hrotated]
        rcases rotate_cases env portal request row db with ⟨hsame, hfailed⟩ |
          ⟨stored, hfree, hfound, hrow⟩
        · rw [hsame]
          refine ⟨fun _ other stored hother hfree hfound => ?_, fun _ => hkept⟩
          obtain rfl := Option.some.inj (hrotates.found.symm.trans hother.found)
          rcases hfailed with htaken | hgone
          · exact absurd htaken hfree
          · rw [hgone] at hfound
            cases hfound
        · rw [hrow]
          constructor
          · intro hsound other stored' hother _ hfound'
            obtain rfl := Option.some.inj (hrotates.found.symm.trans hother.found)
            obtain rfl := Option.some.inj (hfound.symm.trans hfound')
            constructor
            · by_contra hused
              have hparent := (hkept.used stored (Table.mem_of_find? hfound)).1 hused
              rw [Table.key_of_find? hfound] at hparent
              exact (nodup_cons.1 hsound.oneSuccessor).1 hparent
            · have hrevoked : stored.revokedAt.isSome = false :=
                hsound.notRevoked _ (mem_cons_self ..)
              simpa using hrevoked
          · intro hlive
            obtain ⟨hunused, hunrevoked⟩ := hlive row stored hrotates hfree hfound
            have hread : row ∈ seen.tokens.rows := mem_of_find?_eq_some hrotates.found
            obtain ⟨later, hlater, haccount⟩ := hpersist row.id row (Table.find?_of_mem hread)
            obtain rfl := Option.some.inj (hfound.symm.trans hlater)
            exact hkept.succeed hfound haccount hunused hunrevoked

theorem TokensPersist.step (env : TokenEnv) (portal : Portal) (call : TokenCall) (db : TokenDb) :
    TokensPersist db ((tokenCalls env portal).step call db) := by
  cases call with
  | revoke rawToken now =>
      exact (onlyRevoked_updateWhere db _ now db.replays).persist
  | issue keys accountId newRaw now =>
      exact (onlyRevoked_issue env keys accountId newRaw now db).1.persist
  | refresh request seen =>
      change TokensPersist db (portal.refresh env request seen db).2
      rcases refresh_cases env portal request seen db with ⟨_, hleft⟩ | ⟨row, _, hrotated⟩
      · rcases hleft with hsame | ⟨id, hrow⟩ | ⟨accountId, hall⟩
        · rw [hsame]
          exact Std.Refl.refl db
        · rw [hrow]
          exact (onlyRevoked_updateWhere db _ request.now db.replays).persist
        · rw [hall]
          exact (onlyRevoked_updateWhere db _ request.now _).persist
      · rw [hrotated]
        rcases rotate_cases env portal request row db with ⟨hsame, _⟩ | ⟨stored, _, _, hrow⟩
        · rw [hsame]
          exact Std.Refl.refl db
        · rw [hrow]
          intro id token hfound
          obtain ⟨later, hlater, haccount, _⟩ := find?_succeed env portal request row stored hfound
          exact ⟨later, hlater, haccount⟩

/-- Over every interleaving of refreshes, revocations and logins, of staff and of customers,
the tokens are sound exactly if every refresh that goes through finds its row live. -/
theorem tokensSound_iff {start : TokenDb} {calls : List TokenCall} {trace : List TokenDb}
    (hstart : TokensKept start)
    (hlog : (tokenCalls env portal).Log (fun _ _ => True) start calls trace) :
    (∀ db ∈ trace, TokensSound db) ↔
      ∀ found ∈ Calls.occurrences calls trace, found.1.FindsLive env portal found.2 := by
  have hread := (hlog.of_grows (R := TokensPersist)
    fun call db _ _ => .step env portal call db).1
  apply hread.holds_iff (Q := fun call db => call.FindsLive env portal db) hstart
  · intro db hkept
    exact hkept.sound
  · intro call db hkept hseen hsound
    exact (tokens_step hkept hseen.2).1 hsound
  · intro call db hkept hseen hlive
    exact (tokens_step hkept hseen.2).2 hlive

namespace Sample

def textEnv : TokenEnv := ⟨id, 7⟩

def loggedIn : TokenDb :=
  ⟨⟨[⟨"token", "account", "first", 100, none, none, none⟩], nodup_singleton _⟩, [], []⟩

theorem loggedIn_kept : TokensKept loggedIn := by
  refine ⟨nodup_nil, fun _ hmem => absurd hmem not_mem_nil, ?_,
    fun _ hmem => absurd hmem not_mem_nil, fun _ hmem => absurd hmem not_mem_nil,
    fun _ hmem => absurd hmem not_mem_nil⟩
  intro token htoken
  obtain rfl := mem_singleton.1 htoken
  exact iff_of_false (fun hused => hused rfl) not_mem_nil

def refreshTo (newRaw : String) : TokenCall :=
  .refresh ⟨"first", newRaw, 0, .text, true, false⟩ loggedIn

theorem refreshed_log (portal : Portal) :
    (tokenCalls textEnv portal).Log (fun _ _ => True) loggedIn [refreshTo "second"]
      [(tokenCalls textEnv portal).step (refreshTo "second") loggedIn, loggedIn] :=
  .call (refreshTo "second") .start (fun _ hseen => hseen) trivial

end Sample

theorem tokensSound_iff_sample :
    TokensSound
      ((tokenCalls Sample.textEnv .staff).step (Sample.refreshTo "second") Sample.loggedIn) := by
  apply (tokensSound_iff Sample.loggedIn_kept (Sample.refreshed_log .staff)).2 _ _
    (mem_cons_self ..)
  intro found hfound
  obtain rfl := mem_singleton.1 hfound
  intro row stored hrotates _ hstored
  have hread : row ∈ Sample.loggedIn.tokens.rows := mem_of_find?_eq_some hrotates.found
  have hsame := Table.find?_of_mem hread
  obtain rfl := Option.some.inj (hsame.symm.trans hstored)
  exact ⟨hrotates.unused, hrotates.unrevoked⟩

theorem tokensSound_fails :
    ¬ ∃ portal, ∀ (env : TokenEnv) (start : TokenDb) (calls : List TokenCall)
      (trace : List TokenDb), TokensKept start →
      (tokenCalls env portal).Log (fun _ _ => True) start calls trace →
      ∀ db ∈ trace, TokensSound db := by
  rintro ⟨portal, hall⟩
  have hsound := hall _ _ _ _ Sample.loggedIn_kept
    (.call (Sample.refreshTo "third") (Sample.refreshed_log portal)
      (fun _ hseen => .tail _ hseen) trivial) _ (mem_cons_self ..)
  have hone := hsound.oneSuccessor
  revert hone
  cases portal with
  | staff => decide +kernel
  | customer => decide +kernel

end SafariLaundry
