import SafariLaundry.Library.History
import SafariLaundry.Library.Selection
import SafariLaundry.GatewayText

/-!
# The two block flags of a customer

`Customer.isBlocked` belongs to the blocking flow, `CustomerCollectionStatus.blocked` to
the collection rail.  The rail writes both, the blocking flow only its own, and the guard
in front of new orders asks only the rail.
-/

namespace SafariLaundry

open Library Library.Transaction

structure CustomerBlockSnapshot where
  id : Uuid
  isBlocked : Bool
  blockReason : Option String
  blockedAt : Option Timestamp

inductive CustomerCollectionStatusKind
  | NORMAL | LATE | RISK
  deriving DecidableEq

structure CustomerCollectionStatus where
  customerId : Uuid
  status : CustomerCollectionStatusKind
  blocked : Bool
  note : Option String
  updatedById : Option Uuid

structure BlockingDb where
  customers : Table CustomerBlockSnapshot.id
  statuses : Table CustomerCollectionStatus.customerId

abbrev BlockingTx (α : Type) := Library.Transaction ServiceError BlockingDb α

def findCustomerBlock (customerId : Uuid) (db : BlockingDb) : Option CustomerBlockSnapshot :=
  db.customers.find? customerId

def withCustomerBlock (customerId : Uuid) (isBlocked : Bool) (blockReason : Option String)
    (blockedAt : Option Timestamp) (db : BlockingDb) : BlockingDb :=
  { db with
    customers := db.customers.update customerId
      (fun customer => { customer with
        isBlocked := isBlocked, blockReason := blockReason, blockedAt := blockedAt })
      fun _ => rfl }

def statusMutationRoles : List SafariRole := [.CALL_CENTER, .CALL_CENTER_SUPERVISOR, .OWNER]

structure UpdateCustomerCollectionStatusDto where
  status : CustomerCollectionStatusKind
  blocked : Bool
  note : Option String

structure UpdateCollectionStatusInput where
  customerId : Uuid
  body : UpdateCustomerCollectionStatusDto
  actorUserId : Option Uuid
  actorRole : Option SafariRole

def UpdateCollectionStatusInput.row (input : UpdateCollectionStatusInput) :
    CustomerCollectionStatus where
  customerId := input.customerId
  status := input.body.status
  blocked := input.body.blocked
  note := trimmed input.body.note
  updatedById := input.actorUserId

def mirrorBlock (now : Timestamp) (input : UpdateCollectionStatusInput)
    (customer : CustomerBlockSnapshot) : BlockingTx Unit :=
  if input.body.blocked = true ∧ customer.isBlocked = false then
    modify (withCustomerBlock input.customerId true
      (some ((trimmed input.body.note).getD "حظر يدوي - مركز الاتصال")) (some now))
  else if input.body.blocked = false ∧ customer.isBlocked = true then
    modify (withCustomerBlock input.customerId false none none)
  else pure ()

def updateCollectionStatus (now : Timestamp) (input : UpdateCollectionStatusInput) :
    BlockingTx CustomerCollectionStatus := do
  require (∃ role ∈ input.actorRole, role ∈ statusMutationRoles)
    (.forbidden "CUSTOMER_COLLECTION_STATUS_FORBIDDEN")
  let customer ← fetch (findCustomerBlock input.customerId) (.notFound "Customer not found")
  modify fun db => { db with statuses := db.statuses.upsert input.row }
  mirrorBlock now input customer
  return input.row

structure BlockedError where
  (message errorCode blockReason : String)

def assertNotBlocked (customerId : Uuid) (db : BlockingDb) : Except BlockedError Unit :=
  match db.statuses.find? customerId with
  | some status =>
      if status.blocked = true then
        .error ⟨"CUSTOMER_BLOCKED", "CUSTOMER_BLOCKED",
          status.note.getD "العميل محظور — يرجى مراجعة مركز الاتصال"⟩
      else .ok ()
  | none => .ok ()

def highDebtBlockThreshold : ℤ := 5000000

def autoBlockIfNeeded (now : Timestamp) (customerId : Uuid) (canonicalDebtKd : ℤ) :
    BlockingTx (Option CustomerBlockSnapshot) := do
  let found ← reads (findCustomerBlock customerId)
  whenever (∃ customer ∈ found,
      highDebtBlockThreshold < canonicalDebtKd ∧ customer.isBlocked = false)
    (modify (withCustomerBlock customerId true (some "دين مرتفع") (some now)))
  reads (findCustomerBlock customerId)

structure ManualBlockInput where
  customerId : Uuid
  reason : String

def manualBlock (now : Timestamp) (input : ManualBlockInput) :
    BlockingTx (Option CustomerBlockSnapshot) := do
  let customer ← fetch (findCustomerBlock input.customerId)
    (.error ("Customer " ++ input.customerId ++ " not found"))
  whenever (customer.isBlocked = false)
    (modify (withCustomerBlock input.customerId true
      (some ((trimmed (some input.reason)).getD "حظر يدوي")) (some now)))
  reads (findCustomerBlock input.customerId)

def manualUnblock (customerId : Uuid) : BlockingTx (Option CustomerBlockSnapshot) := do
  let _ ← fetch (findCustomerBlock customerId) (.error ("Customer " ++ customerId ++ " not found"))
  modify (withCustomerBlock customerId false none none)
  reads (findCustomerBlock customerId)

inductive BlockingCall
  | updateCollectionStatus (now : Timestamp) (input : UpdateCollectionStatusInput)
  | autoBlockIfNeeded (now : Timestamp) (customerId : Uuid) (canonicalDebtKd : ℤ)
  | manualBlock (now : Timestamp) (input : ManualBlockInput)
  | manualUnblock (customerId : Uuid)

def blockingCalls : Calls BlockingDb BlockingCall where
  step := fun call db =>
    match call with
    | .updateCollectionStatus now input => ((updateCollectionStatus now input).outcome db).2
    | .autoBlockIfNeeded now customerId debt =>
        ((autoBlockIfNeeded now customerId debt).outcome db).2
    | .manualBlock now input => ((manualBlock now input).outcome db).2
    | .manualUnblock customerId => ((manualUnblock customerId).outcome db).2
  seen := fun _ => []

def customerBlocked (customerId : Uuid) (db : BlockingDb) : Bool :=
  ((findCustomerBlock customerId db).map CustomerBlockSnapshot.isBlocked).getD false

def collectionBlocked (customerId : Uuid) (db : BlockingDb) : Bool :=
  ((db.statuses.find? customerId).map CustomerCollectionStatus.blocked).getD false

def Refused (customerId : Uuid) (db : BlockingDb) : Prop :=
  ∃ error, assertNotBlocked customerId db = .error error

def FlagsAgree (customerId : Uuid) (db : BlockingDb) : Prop :=
  collectionBlocked customerId db = customerBlocked customerId db
  deriving Decidable

def BlockingCall.Requests (customerId : Uuid) (blocked : Bool) (db : BlockingDb) :
    BlockingCall → Prop
  | .updateCollectionStatus _ input =>
      input.customerId = customerId ∧ input.body.blocked = blocked ∧
        (∃ role ∈ input.actorRole, role ∈ statusMutationRoles) ∧
        (findCustomerBlock customerId db).isSome
  | _ => False

def BlockingCall.Turns (customerId : Uuid) (db : BlockingDb) : BlockingCall → Prop
  | .updateCollectionStatus _ _ => False
  | .autoBlockIfNeeded _ id debt =>
      id = customerId ∧ ∃ customer ∈ findCustomerBlock id db,
        highDebtBlockThreshold < debt ∧ customer.isBlocked = false
  | .manualBlock _ input =>
      input.customerId = customerId ∧ ∃ customer ∈ findCustomerBlock input.customerId db,
        customer.isBlocked = false
  | .manualUnblock id =>
      id = customerId ∧ ∃ customer ∈ findCustomerBlock id db, customer.isBlocked = true

variable {customerId id : Uuid} {db db' : BlockingDb} {call : BlockingCall}

theorem refused_iff : Refused customerId db ↔ collectionBlocked customerId db = true := by
  unfold Refused assertNotBlocked collectionBlocked
  cases db.statuses.find? customerId with
  | none => simp
  | some status =>
      by_cases hblocked : status.blocked = true
      · simp [hblocked]
      · simp [hblocked]

variable {blockedAt : Option Timestamp} {customer : CustomerBlockSnapshot}

variable {blocked : Bool} {reason : Option String} {now : Timestamp}

theorem findCustomerBlock_with :
    findCustomerBlock customerId (withCustomerBlock id blocked reason blockedAt db) =
      (findCustomerBlock customerId db).map fun customer =>
        if id = customerId then
          { customer with isBlocked := blocked, blockReason := reason, blockedAt := blockedAt }
        else customer := by
  unfold findCustomerBlock withCustomerBlock
  by_cases hsame : id = customerId
  · subst hsame
    rw [Table.find?_update_self]
    simp
  · rw [Table.find?_update_of_ne _ _ _ (Ne.symm hsame)]
    simp [hsame]

theorem customerBlocked_with (hfound : findCustomerBlock id db = some customer) :
    customerBlocked customerId (withCustomerBlock id blocked reason blockedAt db) =
      if id = customerId then blocked else customerBlocked customerId db := by
  unfold customerBlocked
  rw [findCustomerBlock_with]
  by_cases hsame : id = customerId
  · subst hsame
    simp [hfound]
  · simp [hsame]

theorem customerBlocked_of_found (hfound : findCustomerBlock id db = some customer) :
    customerBlocked id db = customer.isBlocked := by
  unfold customerBlocked
  rw [hfound]
  rfl

theorem customerBlocked_with_iff (hfound : findCustomerBlock id db = some customer) :
    customerBlocked customerId (withCustomerBlock id blocked reason blockedAt db) =
        customerBlocked customerId db ↔
      (id = customerId → customer.isBlocked = blocked) := by
  rw [customerBlocked_with hfound]
  by_cases hid : id = customerId
  · subst hid
    rw [if_pos rfl, customerBlocked_of_found hfound, eq_comm]
    exact ⟨fun hsame _ => hsame, fun hsame => hsame rfl⟩
  · rw [if_neg hid]
    exact iff_of_true rfl fun hsame => absurd hsame hid

/-! ## One call -/

theorem step_autoBlockIfNeeded {debt : ℤ} :
    blockingCalls.step (.autoBlockIfNeeded now id debt) db =
      if ∃ customer ∈ findCustomerBlock id db,
          highDebtBlockThreshold < debt ∧ customer.isBlocked = false then
        withCustomerBlock id true (some "دين مرتفع") (some now) db
      else db := by
  have hcommits : ∀ db', ((∃ customer ∈ findCustomerBlock id db,
        highDebtBlockThreshold < debt ∧ customer.isBlocked = false) ∧
          db' = withCustomerBlock id true (some "دين مرتفع") (some now) db ∨
        (¬ ∃ customer ∈ findCustomerBlock id db,
          highDebtBlockThreshold < debt ∧ customer.isBlocked = false) ∧ db = db') →
      blockingCalls.step (.autoBlockIfNeeded now id debt) db = db' := by
    intro db' hwrite
    have hdone : (autoBlockIfNeeded now id debt).Commits db (findCustomerBlock id db') db' := by
      simp only [autoBlockIfNeeded, commits_bind, commits_reads, commits_whenever, commits_modify]
      exact ⟨_, db, ⟨rfl, rfl⟩, (), db', hwrite, rfl, rfl⟩
    exact congrArg Prod.snd hdone
  by_cases hblocks : ∃ customer ∈ findCustomerBlock id db,
      highDebtBlockThreshold < debt ∧ customer.isBlocked = false
  · rw [if_pos hblocks]
    exact hcommits _ (.inl ⟨hblocks, rfl⟩)
  · rw [if_neg hblocks]
    exact hcommits _ (.inr ⟨hblocks, rfl⟩)

theorem step_manualBlock {input : ManualBlockInput} :
    blockingCalls.step (.manualBlock now input) db =
      if ∃ customer ∈ findCustomerBlock input.customerId db, customer.isBlocked = false then
        withCustomerBlock input.customerId true
          (some ((trimmed (some input.reason)).getD "حظر يدوي")) (some now) db
      else db := by
  cases hfound : findCustomerBlock input.customerId db with
  | none =>
      have hthrown : (manualBlock now input).Throws db
          (.error ("Customer " ++ input.customerId ++ " not found")) db := by
        simp [manualBlock, hfound]
      rw [if_neg (by simp)]
      exact congrArg Prod.snd hthrown
  | some customer =>
      have hcommits : ∀ db', (customer.isBlocked = false ∧ db' =
            withCustomerBlock input.customerId true
              (some ((trimmed (some input.reason)).getD "حظر يدوي")) (some now) db ∨
            ¬ customer.isBlocked = false ∧ db = db') →
          blockingCalls.step (.manualBlock now input) db = db' := by
        intro db' hwrite
        have hdone : (manualBlock now input).Commits db
            (findCustomerBlock input.customerId db') db' := by
          simp only [manualBlock, commits_bind, commits_fetch, commits_reads, commits_whenever,
            commits_modify]
          exact ⟨customer, db, ⟨hfound, rfl⟩, (), db', hwrite, rfl, rfl⟩
        exact congrArg Prod.snd hdone
      by_cases hblocks : customer.isBlocked = false
      · rw [if_pos ⟨customer, rfl, hblocks⟩]
        exact hcommits _ (.inl ⟨hblocks, rfl⟩)
      · rw [if_neg (by simpa using hblocks)]
        exact hcommits _ (.inr ⟨hblocks, rfl⟩)

theorem step_manualUnblock :
    blockingCalls.step (.manualUnblock id) db =
      if (findCustomerBlock id db).isSome then withCustomerBlock id false none none db
      else db := by
  cases hfound : findCustomerBlock id db with
  | none =>
      have hthrown : (manualUnblock id).Throws db
          (.error ("Customer " ++ id ++ " not found")) db := by
        simp [manualUnblock, hfound]
      rw [if_neg (by simp)]
      exact congrArg Prod.snd hthrown
  | some customer =>
      have hdone : (manualUnblock id).Commits db
          (findCustomerBlock id (withCustomerBlock id false none none db))
          (withCustomerBlock id false none none db) := by
        simp only [manualUnblock, commits_bind, commits_fetch, commits_reads, commits_modify]
        exact ⟨customer, db, ⟨hfound, rfl⟩, ⟨⟩, _, rfl, rfl, rfl⟩
      rw [if_pos (by simp)]
      exact congrArg Prod.snd hdone

theorem commits_mirrorBlock (now : Timestamp) (input : UpdateCollectionStatusInput)
    {db : BlockingDb} (hfound : findCustomerBlock input.customerId db = some customer) :
    ∃ db', (mirrorBlock now input customer).Commits db () db' ∧ db'.statuses = db.statuses ∧
      ∀ other, customerBlocked other db' =
        if input.customerId = other then input.body.blocked else customerBlocked other db := by
  unfold mirrorBlock
  by_cases hblock : input.body.blocked = true ∧ customer.isBlocked = false
  · rw [if_pos hblock]
    refine ⟨_, commits_modify.2 rfl, rfl, fun other => ?_⟩
    rw [customerBlocked_with hfound, hblock.1]
  · rw [if_neg hblock]
    by_cases hunblock : input.body.blocked = false ∧ customer.isBlocked = true
    · rw [if_pos hunblock]
      refine ⟨_, commits_modify.2 rfl, rfl, fun other => ?_⟩
      rw [customerBlocked_with hfound, hunblock.1]
    · rw [if_neg hunblock]
      refine ⟨db, commits_pure.2 ⟨rfl, rfl⟩, rfl, fun other => ?_⟩
      have hsame : customer.isBlocked = input.body.blocked := by
        cases hasked : input.body.blocked with
        | true => simpa [hasked] using hblock
        | false => simpa [hasked] using hunblock
      by_cases hother : input.customerId = other
      · subst hother
        rw [if_pos rfl, ← hsame, customerBlocked_of_found hfound]
      · rw [if_neg hother]

theorem step_of_requests (hrequests : call.Requests customerId blocked db) :
    collectionBlocked customerId (blockingCalls.step call db) = blocked ∧
      customerBlocked customerId (blockingCalls.step call db) = blocked ∧
      ∀ other, other ≠ customerId →
        collectionBlocked other (blockingCalls.step call db) = collectionBlocked other db ∧
          customerBlocked other (blockingCalls.step call db) = customerBlocked other db := by
  cases call with
  | autoBlockIfNeeded now id debt => exact hrequests.elim
  | manualBlock now input => exact hrequests.elim
  | manualUnblock id => exact hrequests.elim
  | updateCollectionStatus now input =>
      obtain ⟨rfl, rfl, hrole, hsome⟩ := hrequests
      obtain ⟨customer, hfound⟩ := Option.isSome_iff_exists.1 hsome
      let stored := { db with statuses := db.statuses.upsert input.row }
      have hstored : findCustomerBlock input.customerId stored = some customer := hfound
      obtain ⟨db', hmirrored, hstatuses, hcustomer⟩ := commits_mirrorBlock now input hstored
      have hdone : (updateCollectionStatus now input).Commits db input.row db' := by
        simp only [updateCollectionStatus, commits_bind, commits_require, commits_fetch,
          commits_modify, commits_pure]
        exact ⟨(), db, ⟨hrole, rfl⟩, customer, db, ⟨hfound, rfl⟩, ⟨⟩, stored, rfl, (), db',
          hmirrored, trivial, rfl⟩
      have hstep : blockingCalls.step (.updateCollectionStatus now input) db = db' :=
        congrArg Prod.snd hdone
      have hcollection : ∀ other, collectionBlocked other db' =
          if input.customerId = other then input.body.blocked
          else collectionBlocked other db := by
        intro other
        unfold collectionBlocked
        have hkey : input.row.customerId = input.customerId := rfl
        rw [hstatuses, Table.find?_upsert, hkey]
        by_cases hother : input.customerId = other
        · rw [if_pos hother, if_pos hother]
          rfl
        · rw [if_neg hother, if_neg hother]
      rw [hstep]
      refine ⟨by rw [hcollection, if_pos rfl], by rw [hcustomer, if_pos rfl], ?_⟩
      intro other hother
      exact ⟨by rw [hcollection, if_neg hother.symm], (hcustomer other).trans (if_neg hother.symm)⟩

theorem step_updateCollectionStatus_refused {input : UpdateCollectionStatusInput}
    (hrefused : ¬ ((∃ role ∈ input.actorRole, role ∈ statusMutationRoles) ∧
      (findCustomerBlock input.customerId db).isSome)) :
    blockingCalls.step (.updateCollectionStatus now input) db = db := by
  by_cases hrole : ∃ role ∈ input.actorRole, role ∈ statusMutationRoles
  · have hnone : findCustomerBlock input.customerId db = none := by
      by_contra hsome
      exact hrefused ⟨hrole, Option.isSome_iff_ne_none.2 hsome⟩
    have hthrown : (updateCollectionStatus now input).Throws db
        (.notFound "Customer not found") db := by
      simp only [updateCollectionStatus, throws_bind, throws_require, commits_require, throws_fetch]
      exact .inr ⟨(), db, ⟨hrole, rfl⟩, .inl ⟨hnone, trivial, rfl⟩⟩
    exact congrArg Prod.snd hthrown
  · have hthrown : (updateCollectionStatus now input).Throws db
        (.forbidden "CUSTOMER_COLLECTION_STATUS_FORBIDDEN") db := by
      simp only [updateCollectionStatus, throws_bind, throws_require]
      exact .inl ⟨hrole, trivial, trivial⟩
    exact congrArg Prod.snd hthrown

theorem step_of_not_requests (hnot : ∀ blocked, ¬ call.Requests customerId blocked db) :
    collectionBlocked customerId (blockingCalls.step call db) = collectionBlocked customerId db ∧
      (customerBlocked customerId (blockingCalls.step call db) = customerBlocked customerId db ↔
        ¬ call.Turns customerId db) := by
  cases call with
  | updateCollectionStatus now input =>
      by_cases haccepted : (∃ role ∈ input.actorRole, role ∈ statusMutationRoles) ∧
          (findCustomerBlock input.customerId db).isSome
      · have hother : customerId ≠ input.customerId := by
          intro hsame
          exact hnot input.body.blocked ⟨hsame.symm, rfl, haccepted.1, hsame ▸ haccepted.2⟩
        have hrequests : BlockingCall.Requests input.customerId input.body.blocked db
            (.updateCollectionStatus now input) := ⟨rfl, rfl, haccepted.1, haccepted.2⟩
        have hsame := (step_of_requests hrequests).2.2 customerId hother
        exact ⟨hsame.1, iff_of_true hsame.2 fun hturns => hturns⟩
      · rw [step_updateCollectionStatus_refused haccepted]
        exact ⟨rfl, iff_of_true rfl fun hturns => hturns⟩
  | autoBlockIfNeeded now id debt =>
      rw [step_autoBlockIfNeeded]
      by_cases hblocks : ∃ customer ∈ findCustomerBlock id db,
          highDebtBlockThreshold < debt ∧ customer.isBlocked = false
      · rw [if_pos hblocks]
        refine ⟨rfl, ?_⟩
        obtain ⟨customer, hfound, hdebt, hfree⟩ := hblocks
        rw [customerBlocked_with_iff hfound]
        constructor
        · intro hkept hturns
          cases hfree.symm.trans (hkept hturns.1)
        · intro hnot hid
          exact absurd ⟨hid, customer, hfound, hdebt, hfree⟩ hnot
      · rw [if_neg hblocks]
        exact ⟨rfl, iff_of_true rfl fun hturns => hblocks hturns.2⟩
  | manualBlock now input =>
      rw [step_manualBlock]
      by_cases hblocks : ∃ customer ∈ findCustomerBlock input.customerId db,
          customer.isBlocked = false
      · rw [if_pos hblocks]
        refine ⟨rfl, ?_⟩
        obtain ⟨customer, hfound, hfree⟩ := hblocks
        rw [customerBlocked_with_iff hfound]
        constructor
        · intro hkept hturns
          cases hfree.symm.trans (hkept hturns.1)
        · intro hnot hid
          exact absurd ⟨hid, customer, hfound, hfree⟩ hnot
      · rw [if_neg hblocks]
        exact ⟨rfl, iff_of_true rfl fun hturns => hblocks hturns.2⟩
  | manualUnblock id =>
      rw [step_manualUnblock]
      cases hfound : findCustomerBlock id db with
      | none =>
          rw [if_neg (by simp)]
          refine ⟨rfl, iff_of_true rfl ?_⟩
          rintro ⟨_, customer, hsome, _⟩
          rw [hfound] at hsome
          cases hsome
      | some customer =>
          rw [if_pos (by simp)]
          refine ⟨rfl, ?_⟩
          rw [customerBlocked_with_iff hfound]
          constructor
          · rintro hkept ⟨hid, other, hother, hblocked⟩
            obtain rfl := Option.some.inj (hfound.symm.trans hother)
            cases hblocked.symm.trans (hkept hid)
          · intro hnot hid
            by_contra hblocked
            exact hnot ⟨hid, customer, hfound, eq_true_of_ne_false hblocked⟩

theorem flagsAgree_step_iff (hagree : FlagsAgree customerId db) :
    FlagsAgree customerId (blockingCalls.step call db) ↔ ¬ call.Turns customerId db := by
  by_cases hrequests : ∃ blocked, call.Requests customerId blocked db
  · obtain ⟨blocked, hrequests⟩ := hrequests
    have hboth := step_of_requests hrequests
    refine iff_of_true (hboth.1.trans hboth.2.1.symm) ?_
    cases call with
    | updateCollectionStatus now input => exact fun hturns => hturns
    | autoBlockIfNeeded now id debt => exact hrequests.elim
    | manualBlock now input => exact hrequests.elim
    | manualUnblock id => exact hrequests.elim
  · have hstep := step_of_not_requests (not_exists.1 hrequests)
    rw [← hstep.2]
    unfold FlagsAgree at hagree ⊢
    rw [hstep.1, hagree]
    exact eq_comm

/-- The collection flag of a customer is what the last accepted request made it, and the
gate asks for nothing else; a request makes the customer's own flag the same, and the two
stay together exactly as long as the blocking flow does not turn the latter. -/
theorem blocking_run {start : BlockingDb} {calls : List BlockingCall}
    {trace : List BlockingDb} (customerId : Uuid)
    (hlog : blockingCalls.Log (fun _ _ => True) start calls trace) :
    (∀ db ∈ trace, Refused customerId db ↔ collectionBlocked customerId db = true) ∧
    (∀ found ∈ Calls.occurrences calls trace,
      (∀ blocked, found.1.Requests customerId blocked found.2 →
        collectionBlocked customerId (blockingCalls.step found.1 found.2) = blocked ∧
          customerBlocked customerId (blockingCalls.step found.1 found.2) = blocked) ∧
      ((∀ blocked, ¬ found.1.Requests customerId blocked found.2) →
        collectionBlocked customerId (blockingCalls.step found.1 found.2) =
          collectionBlocked customerId found.2)) ∧
    (FlagsAgree customerId start → ((∀ db ∈ trace, FlagsAgree customerId db) ↔
        ∀ found ∈ Calls.occurrences calls trace, ¬ found.1.Turns customerId found.2)) := by
  refine ⟨fun db _ => refused_iff, fun found _ => ⟨?_, ?_⟩, ?_⟩
  · intro blocked hrequests
    have hboth := step_of_requests hrequests
    exact ⟨hboth.1, hboth.2.1⟩
  · exact fun hnot => (step_of_not_requests hnot).1
  · intro hagree
    exact hlog.invariant_iff hagree fun _ _ hflags _ => flagsAgree_step_iff hflags

namespace Sample

def openBook : BlockingDb where
  customers := ⟨[⟨"customer", false, none, none⟩], List.nodup_singleton _⟩
  statuses := .empty

def blockRequest : BlockingCall :=
  .updateCollectionStatus 1 ⟨"customer", ⟨.RISK, true, none⟩, some "agent", some .CALL_CENTER⟩

def blockedBook : BlockingDb := blockingCalls.step blockRequest openBook

end Sample

theorem blocking_run_sample :
    (∀ db ∈ [Sample.blockedBook, Sample.openBook], FlagsAgree "customer" db) ↔
      ∀ found ∈ [(Sample.blockRequest, Sample.openBook)],
        ¬ found.1.Turns "customer" found.2 := by
  have hlog : blockingCalls.Log (fun _ _ => True) Sample.openBook [Sample.blockRequest]
      [Sample.blockedBook, Sample.openBook] := by
    apply Calls.Log.call Sample.blockRequest .start
    · intro seen hseen
      exact absurd hseen List.not_mem_nil
    · trivial
  have hagree : FlagsAgree "customer" Sample.openBook := by decide
  exact (blocking_run "customer" hlog).2.2 hagree

theorem blocking_mirrored_fails :
    ¬ ∀ (customerId : Uuid) (start : BlockingDb) (calls : List BlockingCall)
        (trace : List BlockingDb), FlagsAgree customerId start →
      blockingCalls.Log (fun _ _ => True) start calls trace →
      ∀ db ∈ trace, FlagsAgree customerId db ∧
        (collectionBlocked customerId db = true ∨ customerBlocked customerId db = true →
          Refused customerId db) := by
  intro hall
  have hlog : blockingCalls.Log (fun _ _ => True) Sample.openBook
      [.autoBlockIfNeeded 1 "customer" 6000000]
      [blockingCalls.step (.autoBlockIfNeeded 1 "customer" 6000000) Sample.openBook,
        Sample.openBook] := by
    apply Calls.Log.call (BlockingCall.autoBlockIfNeeded 1 "customer" 6000000) .start
    · intro seen hseen
      exact absurd hseen List.not_mem_nil
    · trivial
  have hagree := (hall "customer" _ _ _ (by decide) hlog _ (List.mem_cons_self ..)).1
  revert hagree
  decide +kernel

end SafariLaundry
