import SafariLaundry.GatewayText
import SafariLaundry.Library.History
import SafariLaundry.Library.Selection

/-!
# One-time codes of the customer portal

A customer asks for a code and logs in with it.  A login reads the newest challenge that was
not consumed, and only then notes a wrong guess or consumes the challenge, whatever it has
become; when the newest challenge is consumed, an older one is the newest that is not.
-/

namespace SafariLaundry

open Library List

def OTP_TTL_MS : ℕ := 10 * 60 * 1000

def MAX_VERIFY_ATTEMPTS : ℕ := 5

def RESEND_COOLDOWN_MS : ℕ := 60 * 1000

structure CustomerPortalOtpChallenge where
  id : Uuid
  (phone codeHash : String)
  expiresAt : Timestamp
  attempts : ℕ
  consumedAt : Option Timestamp
  createdAt : Timestamp

structure OtpAcceptance where
  challengeId : Uuid
  newer : List Uuid

structure OtpDb where
  /-- In the order in which they were issued. -/
  challenges : Table CustomerPortalOtpChallenge.id
  /-- Not a table: the challenges against which wrong guesses were evaluated. -/
  wrongGuesses : List Uuid
  /-- Not a table: the codes that were accepted, newest first. -/
  accepted : List OtpAcceptance
  /-- Not a table: the challenges whose codes opened sessions, newest first. -/
  sessions : List Uuid

structure OtpEnv where
  sha256Hex : String → String
  jwtSecret : String

inductive OtpError
  | badRequest (message : String)
  | unauthorized (message : String)
  | notFound (message : String)
  | database (message : String)

def normalizePhone (phone : String) : String :=
  trim (String.ofList (phone.toList.filter fun c => ¬ (isSpace c ∨ c = '-')))

def hashOtpCode (env : OtpEnv) (code : String) : String :=
  env.sha256Hex (env.jwtSecret ++ ":" ++ code)

def generateOtpCode (drawn : Fin 1000000) : String :=
  String.ofList ((Nat.toDigits 10 drawn).leftpad 6 '0')

namespace OtpDb

def issued (phone : String) (db : OtpDb) : List Uuid :=
  (db.challenges.rows.filter fun challenge => challenge.phone = phone).map
    CustomerPortalOtpChallenge.id

def newer (challenge : CustomerPortalOtpChallenge) (db : OtpDb) : List Uuid :=
  ((db.issued challenge.phone).dropWhile fun id => id ≠ challenge.id).tail

end OtpDb

structure OtpRequest where
  phone : String
  keys : FreshKeys Uuid
  drawn : Fin 1000000
  (now createdAt : Timestamp)

def OtpRequest.challenge (env : OtpEnv) (request : OtpRequest) (id : Uuid) :
    CustomerPortalOtpChallenge :=
  ⟨id, normalizePhone request.phone, hashOtpCode env (generateOtpCode request.drawn),
    request.now + OTP_TTL_MS, 0, none, request.createdAt⟩

def requestOtp (env : OtpEnv) (request : OtpRequest) (seen db : OtpDb) :
    Except OtpError OtpDb :=
  if ∃ recent ∈ seen.challenges.rows, recent.phone = normalizePhone request.phone ∧
      recent.consumedAt = none ∧ request.now ≤ recent.createdAt + RESEND_COOLDOWN_MS then
    .error (.badRequest "انتظر دقيقة قبل طلب رمز جديد.")
  else
    .ok { db with
      challenges := db.challenges.insertNew request.keys (request.challenge env) fun _ => rfl }

namespace CustomerPortalOtpChallenge

def missed (challenge : CustomerPortalOtpChallenge) : CustomerPortalOtpChallenge :=
  { challenge with attempts := challenge.attempts + 1 }

def consumed (now : Timestamp) (challenge : CustomerPortalOtpChallenge) :
    CustomerPortalOtpChallenge :=
  { challenge with consumedAt := some now }

theorem missed_id (challenge : CustomerPortalOtpChallenge) :
    challenge.missed.id = challenge.id := rfl

theorem consumed_id (now : Timestamp) (challenge : CustomerPortalOtpChallenge) :
    (challenge.consumed now).id = challenge.id := rfl

end CustomerPortalOtpChallenge

/-- `order` is that in which rows come back that were created at the same time;
`customerExists` whether the session finds a customer. -/
structure OtpLogin where
  (phone code : String)
  order : RowOrder CustomerPortalOtpChallenge
  customerExists : Bool
  now : Timestamp

def OtpLogin.newest (login : OtpLogin) (seen : OtpDb) : Option CustomerPortalOtpChallenge :=
  (((login.order.arrange seen.challenges.rows).filter fun challenge =>
      challenge.phone = normalizePhone login.phone ∧ challenge.consumedAt = none).insertionSort
    fun first second => second.createdAt ≤ first.createdAt).head?

namespace OtpDb

def miss (challenge : CustomerPortalOtpChallenge) (db : OtpDb) : OtpDb :=
  { db with
    challenges := db.challenges.update challenge.id CustomerPortalOtpChallenge.missed
      CustomerPortalOtpChallenge.missed_id
    wrongGuesses := challenge.id :: db.wrongGuesses }

def accept (login : OtpLogin) (challenge : CustomerPortalOtpChallenge) (db : OtpDb) : OtpDb :=
  { db with
    challenges := db.challenges.update challenge.id (CustomerPortalOtpChallenge.consumed login.now)
      (CustomerPortalOtpChallenge.consumed_id login.now)
    accepted := ⟨challenge.id, db.newer challenge⟩ :: db.accepted
    sessions := if login.customerExists then challenge.id :: db.sessions else db.sessions }

end OtpDb

def verifyOtp (env : OtpEnv) (login : OtpLogin) (seen db : OtpDb) : Except OtpError Unit × OtpDb :=
  match login.newest seen with
  | none => (.error (.unauthorized "لا يوجد رمز نشط — اطلب رمزاً جديداً."), db)
  | some challenge =>
      if challenge.expiresAt < login.now then
        (.error (.unauthorized "انتهت صلاحية الرمز — اطلب رمزاً جديداً."), db)
      else if MAX_VERIFY_ATTEMPTS ≤ challenge.attempts then
        (.error (.unauthorized "تجاوزت عدد المحاولات — اطلب رمزاً جديداً."), db)
      else
        match db.challenges.find? challenge.id with
        | none => (.error (.database "P2025"), db)
        | some _ =>
            if hashOtpCode env login.code ≠ challenge.codeHash then
              (.error (.unauthorized "رمز غير صحيح."), db.miss challenge)
            else if login.customerExists then (.ok (), db.accept login challenge)
            else
              (.error (.notFound "لم يُعثر على حساب لهذا الرقم. أنشئ طلب خدمة أولاً."),
                db.accept login challenge)

inductive OtpCall
  | requestOtp (request : OtpRequest) (seen : OtpDb)
  | verifyOtp (login : OtpLogin) (seen : OtpDb)

def otpCalls (env : OtpEnv) : Calls OtpDb OtpCall where
  step := fun call db =>
    match call with
    | .requestOtp request seen =>
        match requestOtp env request seen db with
        | .ok db' => db'
        | .error _ => db
    | .verifyOtp login seen => (verifyOtp env login seen db).2
  seen := fun call =>
    match call with
    | .requestOtp _ seen | .verifyOtp _ seen => [seen]

/-- At most five wrong guesses are evaluated against a challenge; a code is accepted at most
once, opens at most one session, and is the last issued for its phone when it is accepted. -/
structure OtpSound (db : OtpDb) : Prop where
  fewGuesses : ∀ id, db.wrongGuesses.count id ≤ MAX_VERIFY_ATTEMPTS
  acceptedOnce : (db.accepted.map OtpAcceptance.challengeId).Nodup
  oneSession : db.sessions.Nodup
  newest : ∀ acceptance ∈ db.accepted, acceptance.newer = []

structure OtpLogin.Compares (login : OtpLogin) (seen : OtpDb)
    (challenge : CustomerPortalOtpChallenge) : Prop where
  newest : login.newest seen = some challenge
  unexpired : login.now ≤ challenge.expiresAt
  attempts : challenge.attempts < MAX_VERIFY_ATTEMPTS

/-- A wrong guess finds attempts left.  A right one finds the challenge unconsumed, none issued
for the phone since it was read, and has read none that is newer and consumed. -/
def OtpCall.FindsFresh (env : OtpEnv) (db : OtpDb) : OtpCall → Prop
  | .requestOtp _ _ => True
  | .verifyOtp login seen => ∀ challenge stored, login.Compares seen challenge →
      db.challenges.find? challenge.id = some stored →
        if hashOtpCode env login.code ≠ challenge.codeHash then
          stored.attempts < MAX_VERIFY_ATTEMPTS
        else
          stored.consumedAt = none ∧ db.issued challenge.phone = seen.issued challenge.phone ∧
            seen.newer challenge = []

variable {env : OtpEnv} {db seen : OtpDb} {call : OtpCall} {login : OtpLogin}
  {challenge stored : CustomerPortalOtpChallenge}

structure OtpKept (db : OtpDb) : Prop where
  sound : OtpSound db
  attempts : ∀ row ∈ db.challenges.rows, row.attempts = db.wrongGuesses.count row.id
  consumed : ∀ row ∈ db.challenges.rows,
    row.consumedAt ≠ none ↔ row.id ∈ db.accepted.map OtpAcceptance.challengeId
  known : ∀ id, id ∈ db.wrongGuesses ∨ id ∈ db.accepted.map OtpAcceptance.challengeId →
    id ∈ db.challenges.rows.map CustomerPortalOtpChallenge.id
  opened : db.sessions.Sublist (db.accepted.map OtpAcceptance.challengeId)

def CustomerPortalOtpChallenge.view (challenge : CustomerPortalOtpChallenge) : Uuid × String :=
  (challenge.id, challenge.phone)

def OtpPersist (before after : OtpDb) : Prop :=
  before.challenges.rows.map CustomerPortalOtpChallenge.view <+:
    after.challenges.rows.map CustomerPortalOtpChallenge.view

instance : Std.Refl OtpPersist where
  refl _ := prefix_rfl

instance : IsTrans OtpDb OtpPersist where
  trans _ _ _ := List.IsPrefix.trans

theorem issued_eq_view (phone : String) (db : OtpDb) :
    db.issued phone =
      ((db.challenges.rows.map CustomerPortalOtpChallenge.view).filter fun shown =>
        shown.2 = phone).map Prod.fst := by
  unfold OtpDb.issued
  rw [filter_map, map_map]
  rfl

theorem OtpPersist.issued (hpersist : OtpPersist seen db) (phone : String) :
    seen.issued phone <+: db.issued phone := by
  rw [issued_eq_view, issued_eq_view]
  exact (hpersist.filter _).map Prod.fst

theorem OtpPersist.mem_ids (hpersist : OtpPersist seen db) {id : Uuid}
    (hmem : id ∈ seen.challenges.rows.map CustomerPortalOtpChallenge.id) :
    id ∈ db.challenges.rows.map CustomerPortalOtpChallenge.id := by
  obtain ⟨row, hrow, rfl⟩ := mem_map.1 hmem
  obtain ⟨later, hlater, hview⟩ := mem_map.1 (hpersist.subset (mem_map_of_mem hrow))
  exact mem_map.2 ⟨later, hlater, congrArg Prod.fst hview⟩

theorem mem_issued (hmem : challenge ∈ db.challenges.rows) :
    challenge.id ∈ db.issued challenge.phone :=
  mem_map_of_mem (mem_filter.2 ⟨hmem, decide_eq_true rfl⟩)

theorem tail_dropWhile_eq_nil_iff {α : Type} [DecidableEq α] {before after : List α} {a : α}
    (hgrown : before <+: after) (hmem : a ∈ before) :
    (after.dropWhile fun b => b ≠ a).tail = [] ↔
      after = before ∧ (before.dropWhile fun b => b ≠ a).tail = [] := by
  obtain ⟨added, rfl⟩ := hgrown
  have hfound : (before.dropWhile fun b => decide (b ≠ a)) ≠ [] := by
    intro hnone
    have hall := dropWhile_eq_nil_iff.1 hnone a hmem
    simp at hall
  rw [dropWhile_append, if_neg (by simpa using hfound)]
  obtain ⟨first, rest, hsplit⟩ := exists_cons_of_ne_nil hfound
  rw [hsplit]
  simp [and_comm]

theorem newer_eq_nil_iff (hpersist : OtpPersist seen db) (hmem : challenge ∈ seen.challenges.rows) :
    db.newer challenge = [] ↔
      db.issued challenge.phone = seen.issued challenge.phone ∧ seen.newer challenge = [] :=
  tail_dropWhile_eq_nil_iff (hpersist.issued challenge.phone) (mem_issued hmem)

theorem OtpLogin.Compares.mem (hcompares : login.Compares seen challenge) :
    challenge ∈ seen.challenges.rows := by
  have hmem := mem_of_mem_head? hcompares.newest
  rw [mem_insertionSort] at hmem
  exact (login.order.perm _).subset (mem_filter.1 hmem).1

theorem verifyOtp_cases (env : OtpEnv) (login : OtpLogin) (seen db : OtpDb) :
    (verifyOtp env login seen db).2 = db ∧ (∀ challenge stored, login.Compares seen challenge →
          db.challenges.find? challenge.id ≠ some stored) ∨
      ∃ challenge stored, login.Compares seen challenge ∧
        db.challenges.find? challenge.id = some stored ∧
        (verifyOtp env login seen db).2 =
          if hashOtpCode env login.code ≠ challenge.codeHash then db.miss challenge
          else db.accept login challenge := by
  unfold verifyOtp
  cases hnewest : login.newest seen with
  | none =>
      left
      refine ⟨rfl, fun challenge _ hcompares => ?_⟩
      have hsome := hcompares.newest
      rw [hnewest] at hsome
      cases hsome
  | some challenge =>
      have honly : ∀ other, login.Compares seen other → other = challenge :=
        fun other hcompares => Option.some.inj (hcompares.newest.symm.trans hnewest)
      by_cases hexpired : challenge.expiresAt < login.now
      · left
        refine ⟨by simp only [if_pos hexpired], fun other _ hcompares => ?_⟩
        rw [honly other hcompares] at hcompares
        exact absurd hcompares.unexpired (not_le.2 hexpired)
      · by_cases hspent : MAX_VERIFY_ATTEMPTS ≤ challenge.attempts
        · left
          refine ⟨by simp only [if_neg hexpired, if_pos hspent], fun other _ hcompares => ?_⟩
          rw [honly other hcompares] at hcompares
          exact absurd hcompares.attempts (not_lt.2 hspent)
        · simp only [if_neg hexpired, if_neg hspent]
          cases hstored : db.challenges.find? challenge.id with
          | none =>
              left
              refine ⟨rfl, fun other stored hcompares => ?_⟩
              rw [honly other hcompares, hstored]
              exact Option.some_ne_none stored |>.symm
          | some stored =>
              right
              refine ⟨challenge, stored, ⟨hnewest, not_lt.1 hexpired, not_le.1 hspent⟩, hstored, ?_⟩
              by_cases hwrong : hashOtpCode env login.code ≠ challenge.codeHash
              · simp only [if_pos hwrong]
              · simp only [if_neg hwrong]
                cases login.customerExists with
                | false => rfl
                | true => rfl

/-! ## The steps -/

variable {make : Uuid → CustomerPortalOtpChallenge}
  {f : CustomerPortalOtpChallenge → CustomerPortalOtpChallenge}

theorem OtpPersist.insertNew {keys : FreshKeys Uuid} {hmake : ∀ id, (make id).id = id} :
    OtpPersist db { db with challenges := db.challenges.insertNew keys make hmake } := by
  change _ <+: (db.challenges.rows ++ [_]).map _
  rw [map_append]
  exact prefix_append _ _

theorem OtpPersist.update {after : OtpDb} {id : Uuid} (hid : ∀ row, (f row).id = row.id)
    (hview : ∀ row, (f row).view = row.view)
    (hafter : after.challenges = db.challenges.update id f hid) : OtpPersist db after := by
  unfold OtpPersist
  rw [hafter]
  exact (@Table.view_updateWhere _ _ _ CustomerPortalOtpChallenge.id db.challenges
    CustomerPortalOtpChallenge.view (fun row => row.id = id) _ f hid hview).symm ▸ prefix_rfl

theorem OtpPersist.miss : OtpPersist db (db.miss challenge) :=
  .update CustomerPortalOtpChallenge.missed_id (fun _ => rfl) rfl

theorem OtpPersist.accept : OtpPersist db (db.accept login challenge) :=
  .update (CustomerPortalOtpChallenge.consumed_id login.now) (fun _ => rfl) rfl

theorem OtpPersist.step (env : OtpEnv) (call : OtpCall) (db : OtpDb) :
    OtpPersist db ((otpCalls env).step call db) := by
  cases call with
  | requestOtp request seen =>
      change OtpPersist db (match requestOtp env request seen db with
        | .ok db' => db'
        | .error _ => db)
      unfold requestOtp
      by_cases hrecent : ∃ recent ∈ seen.challenges.rows,
          recent.phone = normalizePhone request.phone ∧ recent.consumedAt = none ∧
            request.now ≤ recent.createdAt + RESEND_COOLDOWN_MS
      · rw [if_pos hrecent]
        exact Std.Refl.refl db
      · rw [if_neg hrecent]
        exact .insertNew
  | verifyOtp login seen =>
      change OtpPersist db (verifyOtp env login seen db).2
      rcases verifyOtp_cases env login seen db with ⟨hsame, _⟩ | ⟨challenge, stored, _, _, hstep⟩
      · rw [hsame]
        exact Std.Refl.refl db
      · rw [hstep]
        by_cases hwrong : hashOtpCode env login.code ≠ challenge.codeHash
        · rw [if_pos hwrong]
          exact .miss
        · rw [if_neg hwrong]
          exact .accept

theorem OtpKept.insertNew {keys : FreshKeys Uuid} {hmake : ∀ id, (make id).id = id}
    (hkept : OtpKept db) (hunused : ∀ id, (make id).attempts = 0 ∧ (make id).consumedAt = none) :
    OtpKept { db with challenges := db.challenges.insertNew keys make hmake } := by
  have hfresh : ∀ id, id = keys.draw (db.challenges.rows.map CustomerPortalOtpChallenge.id) →
      id ∉ db.wrongGuesses ∧ id ∉ db.accepted.map OtpAcceptance.challengeId := by
    rintro id rfl
    exact ⟨fun hguessed => keys.draw_fresh _ (hkept.known _ (.inl hguessed)),
      fun haccepted => keys.draw_fresh _ (hkept.known _ (.inr haccepted))⟩
  refine ⟨⟨hkept.sound.fewGuesses, hkept.sound.acceptedOnce, hkept.sound.oneSession,
    hkept.sound.newest⟩, ?_, ?_, ?_, hkept.opened⟩
  · intro row hrow
    rcases mem_append.1 hrow with hold | hadded
    · exact hkept.attempts row hold
    · obtain rfl := mem_singleton.1 hadded
      rw [(hunused _).1, count_eq_zero_of_not_mem (hfresh _ (hmake _)).1]
  · intro row hrow
    rcases mem_append.1 hrow with hold | hadded
    · exact hkept.consumed row hold
    · obtain rfl := mem_singleton.1 hadded
      exact iff_of_false (fun hconsumed => hconsumed (hunused _).2) (hfresh _ (hmake _)).2
  · intro id hknown
    exact OtpPersist.insertNew.mem_ids (hkept.known id hknown)

theorem mem_update {id : Uuid} (hid : ∀ row, (f row).id = row.id)
    (hstored : db.challenges.find? id = some stored) {row : CustomerPortalOtpChallenge}
    (hrow : row ∈ (db.challenges.update id f hid).rows) :
    row = f stored ∨ row.id ≠ id ∧ row ∈ db.challenges.rows := by
  have hfound := Table.find?_of_mem hrow
  by_cases hsame : row.id = id
  · rw [hsame, Table.find?_update_self, hstored] at hfound
    exact .inl (Option.some.inj hfound).symm
  · rw [Table.find?_update_of_ne _ _ _ hsame] at hfound
    exact .inr ⟨hsame, Table.mem_of_find? hfound⟩

theorem miss_iff (hkept : OtpKept db) (hstored : db.challenges.find? challenge.id = some stored) :
    (OtpSound (db.miss challenge) → stored.attempts < MAX_VERIFY_ATTEMPTS) ∧
      (stored.attempts < MAX_VERIFY_ATTEMPTS → OtpKept (db.miss challenge)) := by
  have hid : stored.id = challenge.id := Table.key_of_find? hstored
  have hmem : stored ∈ db.challenges.rows := Table.mem_of_find? hstored
  have hattempts : stored.attempts = db.wrongGuesses.count challenge.id :=
    hid ▸ hkept.attempts stored hmem
  have hself : (db.miss challenge).wrongGuesses.count challenge.id =
      db.wrongGuesses.count challenge.id + 1 :=
    count_cons_self
  have hothers : ∀ id, id ≠ challenge.id →
      (db.miss challenge).wrongGuesses.count id = db.wrongGuesses.count id :=
    fun id hother => count_cons_of_ne hother.symm
  constructor
  · intro hsound
    have hfew := hsound.fewGuesses challenge.id
    omega
  · intro hleft
    refine ⟨⟨?_, hkept.sound.acceptedOnce, hkept.sound.oneSession, hkept.sound.newest⟩, ?_, ?_,
      ?_, hkept.opened⟩
    · intro id
      by_cases hsame : id = challenge.id
      · rw [hsame, hself]
        omega
      · rw [hothers id hsame]
        exact hkept.sound.fewGuesses id
    · intro row hrow
      rcases mem_update CustomerPortalOtpChallenge.missed_id hstored hrow with rfl | ⟨hother, hold⟩
      · rw [CustomerPortalOtpChallenge.missed_id, hid, hself, ← hattempts]
        rfl
      · rw [hothers row.id hother]
        exact hkept.attempts row hold
    · intro row hrow
      rcases mem_update CustomerPortalOtpChallenge.missed_id hstored hrow with rfl | ⟨_, hold⟩
      · exact hkept.consumed stored hmem
      · exact hkept.consumed row hold
    · intro id hknown
      apply OtpPersist.miss.mem_ids
      rcases hknown with hguessed | haccepted
      · rcases mem_cons.1 hguessed with rfl | hbefore
        · exact mem_map.2 ⟨stored, hmem, hid⟩
        · exact hkept.known id (.inl hbefore)
      · exact hkept.known id (.inr haccepted)

theorem accept_iff (hkept : OtpKept db) (hstored : db.challenges.find? challenge.id = some stored) :
    (OtpSound (db.accept login challenge) → stored.consumedAt = none ∧ db.newer challenge = []) ∧
      (stored.consumedAt = none ∧ db.newer challenge = [] →
        OtpKept (db.accept login challenge)) := by
  have hid : stored.id = challenge.id := Table.key_of_find? hstored
  have hmem : stored ∈ db.challenges.rows := Table.mem_of_find? hstored
  have hconsumed := hkept.consumed stored hmem
  rw [hid] at hconsumed
  constructor
  · intro hsound
    refine ⟨?_, hsound.newest _ (mem_cons_self ..)⟩
    by_contra hwas
    exact (nodup_cons.1 hsound.acceptedOnce).1 (hconsumed.1 hwas)
  · rintro ⟨hunconsumed, hnewest⟩
    have hnew : challenge.id ∉ db.accepted.map OtpAcceptance.challengeId :=
      fun haccepted => hconsumed.2 haccepted hunconsumed
    have hopened : (db.accept login challenge).sessions.Sublist
        (challenge.id :: db.accepted.map OtpAcceptance.challengeId) := by
      change (if login.customerExists then _ else _ : List Uuid).Sublist _
      cases login.customerExists with
      | false => exact hkept.opened.cons _
      | true => exact hkept.opened.cons_cons _
    have honce := nodup_cons.2 ⟨hnew, hkept.sound.acceptedOnce⟩
    refine ⟨⟨hkept.sound.fewGuesses, honce, hopened.nodup honce, ?_⟩, ?_, ?_, ?_, hopened⟩
    · exact forall_mem_cons.2 ⟨hnewest, hkept.sound.newest⟩
    · intro row hrow
      rcases mem_update (CustomerPortalOtpChallenge.consumed_id login.now) hstored hrow with
        rfl | ⟨_, hold⟩
      · exact hkept.attempts stored hmem
      · exact hkept.attempts row hold
    · intro row hrow
      rcases mem_update (CustomerPortalOtpChallenge.consumed_id login.now) hstored hrow with
        rfl | ⟨hother, hold⟩
      · refine iff_of_true (Option.some_ne_none _) ?_
        rw [CustomerPortalOtpChallenge.consumed_id, hid]
        exact mem_cons_self ..
      · rw [hkept.consumed row hold]
        exact ⟨mem_cons_of_mem _, fun haccepted =>
          (mem_cons.1 haccepted).resolve_left hother⟩
    · intro id hknown
      apply OtpPersist.accept.mem_ids
      rcases hknown with hguessed | haccepted
      · exact hkept.known id (.inl hguessed)
      · rcases mem_cons.1 haccepted with rfl | hbefore
        · exact mem_map.2 ⟨stored, hmem, hid⟩
        · exact hkept.known id (.inr hbefore)

/-! ## Runs -/

theorem otp_step (hkept : OtpKept db)
    (hseen : ∀ seen ∈ (otpCalls env).seen call, OtpPersist seen db) :
    (OtpSound ((otpCalls env).step call db) → call.FindsFresh env db) ∧
      (call.FindsFresh env db → OtpKept ((otpCalls env).step call db)) := by
  cases call with
  | requestOtp request seen =>
      refine ⟨fun _ => trivial, fun _ => ?_⟩
      change OtpKept (match requestOtp env request seen db with
        | .ok db' => db'
        | .error _ => db)
      unfold requestOtp
      by_cases hrecent : ∃ recent ∈ seen.challenges.rows,
          recent.phone = normalizePhone request.phone ∧ recent.consumedAt = none ∧
            request.now ≤ recent.createdAt + RESEND_COOLDOWN_MS
      · rw [if_pos hrecent]
        exact hkept
      · rw [if_neg hrecent]
        exact hkept.insertNew fun _ => ⟨rfl, rfl⟩
  | verifyOtp login seen =>
      have hpersist : OtpPersist seen db := hseen seen (mem_singleton_self _)
      change (OtpSound (verifyOtp env login seen db).2 → _) ∧
        (_ → OtpKept (verifyOtp env login seen db).2)
      rcases verifyOtp_cases env login seen db with ⟨hsame, hnone⟩ |
        ⟨challenge, stored, hcompares, hstored, hstep⟩
      · rw [hsame]
        exact ⟨fun _ challenge stored hcompares hstored =>
          absurd hstored (hnone challenge stored hcompares), fun _ => hkept⟩
      · rw [hstep]
        have honly : ∀ other, login.Compares seen other → other = challenge := fun other hother =>
          Option.some.inj (hother.newest.symm.trans hcompares.newest)
        have hnewer := newer_eq_nil_iff hpersist hcompares.mem
        by_cases hwrong : hashOtpCode env login.code ≠ challenge.codeHash
        · rw [if_pos hwrong]
          constructor
          · intro hsound other stored' hother hstored'
            rw [honly other hother] at hstored' ⊢
            rw [if_pos hwrong]
            exact (miss_iff hkept hstored').1 hsound
          · intro hfinds
            have hleft := hfinds challenge stored hcompares hstored
            rw [if_pos hwrong] at hleft
            exact (miss_iff hkept hstored).2 hleft
        · rw [if_neg hwrong]
          constructor
          · intro hsound other stored' hother hstored'
            rw [honly other hother] at hstored' ⊢
            rw [if_neg hwrong]
            obtain ⟨hunconsumed, hnewest⟩ := (accept_iff hkept hstored').1 hsound
            exact ⟨hunconsumed, hnewer.1 hnewest⟩
          · intro hfinds
            have hfresh := hfinds challenge stored hcompares hstored
            rw [if_neg hwrong] at hfresh
            exact (accept_iff hkept hstored).2 ⟨hfresh.1, hnewer.2 hfresh.2⟩

/-- Over every interleaving of requests and logins, of any phones, the challenges are sound
exactly if every login that compares a code finds its challenge as it needs. -/
theorem otpSound_iff {start : OtpDb} {calls : List OtpCall} {trace : List OtpDb}
    (hstart : OtpKept start) (hlog : (otpCalls env).Log (fun _ _ => True) start calls trace) :
    (∀ db ∈ trace, OtpSound db) ↔
      ∀ found ∈ Calls.occurrences calls trace, found.1.FindsFresh env found.2 := by
  have hread := (hlog.of_grows (R := OtpPersist) fun call db _ _ => .step env call db).1
  apply hread.holds_iff (Q := fun call db => call.FindsFresh env db) hstart
  · intro db hkept
    exact hkept.sound
  · intro call db hkept hseen hsound
    exact (otp_step hkept hseen.2).1 hsound
  · intro call db hkept hseen hfresh
    exact (otp_step hkept hseen.2).2 hfresh

namespace Sample

def plainOtpEnv : OtpEnv := ⟨id, "secret"⟩

theorem perm_id (rows : List CustomerPortalOtpChallenge) : (id rows).Perm rows := .refl rows

def challenged : OtpDb :=
  ⟨⟨[⟨"challenge", "51234567", "secret:000042", 600000, 0, none, 0⟩], nodup_singleton _⟩,
    [], [], []⟩

theorem challenged_kept : OtpKept challenged := by
  refine ⟨⟨fun _ => Nat.zero_le _, nodup_nil, nodup_nil,
    fun _ hmem => absurd hmem not_mem_nil⟩, ?_, ?_, ?_, List.Sublist.slnil⟩
  · intro row hrow
    rw [mem_singleton.1 hrow]
    rfl
  · intro row hrow
    rw [mem_singleton.1 hrow]
    exact iff_of_false (fun hconsumed => hconsumed rfl) not_mem_nil
  · rintro id (hguessed | haccepted)
    · exact absurd hguessed not_mem_nil
    · exact absurd haccepted not_mem_nil

def rightLogin : OtpLogin := ⟨"5123-4567", "000042", ⟨id, perm_id⟩, true, 1000⟩

def logIn : OtpCall := .verifyOtp rightLogin challenged

theorem logIn_log :
    (otpCalls plainOtpEnv).Log (fun _ _ => True) challenged [logIn]
      [(otpCalls plainOtpEnv).step logIn challenged, challenged] :=
  .call logIn .start (fun _ hseen => hseen) trivial

end Sample

theorem otpSound_iff_sample :
    OtpSound ((otpCalls Sample.plainOtpEnv).step Sample.logIn Sample.challenged) := by
  apply (otpSound_iff Sample.challenged_kept Sample.logIn_log).2 _ _ (mem_cons_self ..)
  intro found hfound
  obtain rfl := mem_singleton.1 hfound
  intro challenge stored hcompares hstored
  obtain rfl := mem_singleton.1 hcompares.mem
  obtain rfl := mem_singleton.1 (Table.mem_of_find? hstored)
  rw [if_neg (by decide +kernel)]
  exact ⟨rfl, rfl, by decide +kernel⟩

theorem otpSound_fails :
    ¬ ∀ (env : OtpEnv) (start : OtpDb) (calls : List OtpCall) (trace : List OtpDb),
      OtpKept start → (otpCalls env).Log (fun _ _ => True) start calls trace →
      ∀ db ∈ trace, OtpSound db := by
  intro hall
  have hsound := hall _ _ _ _ Sample.challenged_kept
    (.call Sample.logIn Sample.logIn_log (fun _ hseen => .tail _ hseen) trivial) _
    (mem_cons_self ..)
  have hone := hsound.oneSession
  revert hone
  decide +kernel

end SafariLaundry
