import SafariLaundry.CashCustody
import SafariLaundry.GatewayText

/-!
# From the manager's bag to the bank

A manager uploads a deposit slip, an accountant verifies or rejects.  Each reads the
status of the bag first and writes later, without asking again; the deposit that a
verification links is looked up by the slip's attributes.
-/

namespace SafariLaundry

open Library Library.Bookkeeping Library.Transaction List

/-! ## The three calls -/

structure UploadDepositSlipDto where
  depositSlipUrl : String
  declaredDepositTotal : Option ℚ
  note : Option String

def newNote (given : Option String) (old : Option String) : Option String :=
  (trimmed given).orElse fun _ => old

def ManagerCashCustodyStatus.name : ManagerCashCustodyStatus → String
  | .PENDING_DEPOSIT => "PENDING_DEPOSIT"
  | .AWAITING_VERIFICATION => "AWAITING_VERIFICATION"
  | .VERIFIED => "VERIFIED"
  | .REJECTED => "REJECTED"

namespace ManagerCashCustody

def withSlip (now : Timestamp) (dto : UploadDepositSlipDto) (note : Option String)
    (bag : ManagerCashCustody) : ManagerCashCustody :=
  { bag with
    depositSlipUrl := some dto.depositSlipUrl
    slipUploadedAt := some now
    status := .AWAITING_VERIFICATION
    rejectedByAccountantId := none
    rejectedAt := none
    rejectionReason := none
    note := note }

def verifiedBy (now : Timestamp) (accountantId : Uuid) (note : Option String)
    (bag : ManagerCashCustody) : ManagerCashCustody :=
  { bag with
    status := .VERIFIED
    verifiedByAccountantId := some accountantId
    verifiedAt := some now
    note := note }

def rejectedBy (now : Timestamp) (accountantId : Uuid) (reason : String)
    (bag : ManagerCashCustody) : ManagerCashCustody :=
  { bag with
    status := .REJECTED
    rejectedByAccountantId := some accountantId
    rejectedAt := some now
    rejectionReason := some (trim reason) }

def slip (bag : ManagerCashCustody) : Option String :=
  bag.depositSlipUrl.filter fun url => url ≠ ""

end ManagerCashCustody

theorem withSlip_id (now : Timestamp) (dto : UploadDepositSlipDto) (note : Option String)
    (bag : ManagerCashCustody) : (bag.withSlip now dto note).id = bag.id := rfl

theorem verifiedBy_id (now : Timestamp) (accountantId : Uuid) (note : Option String)
    (bag : ManagerCashCustody) : (bag.verifiedBy now accountantId note).id = bag.id := rfl

theorem rejectedBy_id (now : Timestamp) (accountantId : Uuid) (reason : String)
    (bag : ManagerCashCustody) : (bag.rejectedBy now accountantId reason).id = bag.id := rfl

def updateBag (custodyId : Uuid) (f : ManagerCashCustody → ManagerCashCustody)
    (hf : ∀ bag, (f bag).id = bag.id) : CustodyTx ManagerCashCustody := do
  let bag ← fetch (fun db => db.bags.find? custodyId) (.database "Record to update not found.")
  modify fun db => { db with bags := db.bags.update custodyId f hf }
  return f bag

def mirrorSlip (url : String) : Option Uuid → CustodyTx Unit
  | none => pure ()
  | some shiftId =>
      modify fun db => { db with
        shifts := db.shifts.update shiftId
          (fun shift => { shift with bankDepositReceiptUrl := some url }) fun _ => rfl }

def uploadDepositSlipSeeing (env : CustodyEnv) (custodyId managerId : Uuid)
    (dto : UploadDepositSlipDto) (seen : CustodyDb) : CustodyTx Unit := do
  let bag ← fetch (fun _ => seen.bags.find? custodyId) (.notFound "Custody bag not found.")
  require (bag.managerId = managerId) (.forbidden
    "Only the manager who received the cash can upload the deposit slip.")
  require (bag.status = .PENDING_DEPOSIT ∨ bag.status = .REJECTED)
    (.badRequest ("Cannot upload slip from status " ++ bag.status.name ++ "."))
  assertDeclaredMatchesLedgerMinor bag.amountKd dto.declaredDepositTotal
  let updated ← updateBag custodyId
    (ManagerCashCustody.withSlip env.now dto (newNote dto.note bag.note)) (withSlip_id _ _ _)
  mirrorSlip dto.depositSlipUrl updated.shiftId

def BankDepositLog.Matches (bag : ManagerCashCustody) (deposit : BankDepositLog) : Prop :=
  deposit.managerCashCustodyId = some bag.id ∨
    (deposit.shiftId = bag.shiftId ∧ some deposit.receiptImageUrl = bag.depositSlipUrl ∧
      deposit.amountKd = bag.amountKd)
  deriving Decidable

def existingDeposit (order : RowOrder BankDepositLog) (bag : ManagerCashCustody)
    (db : CustodyDb) : Option BankDepositLog :=
  (order.arrange (db.deposits.rows.filter fun deposit => deposit.Matches bag)).head?

def ManagerCashCustody.deposit (bag : ManagerCashCustody) (id : Uuid) (url : String)
    (accountantId : Uuid) : BankDepositLog where
  id := id
  status := .VERIFIED
  amountKd := bag.amountKd
  receiptImageUrl := url
  shiftId := bag.shiftId
  managerCashCustodyId := some bag.id
  uploadedById := bag.managerId
  verifiedByAccountantId := some accountantId
  verifiedAt := bag.verifiedAt
  createdAt := bag.slipUploadedAt.getD bag.receivedFromDriverAt

def BankDepositLog.linkedTo (custodyId : Uuid) (deposit : BankDepositLog) : BankDepositLog :=
  { deposit with
    managerCashCustodyId := some custodyId
    status := if deposit.verifiedAt ≠ none then .VERIFIED else deposit.status }

theorem linkedTo_id (custodyId : Uuid) (deposit : BankDepositLog) :
    (deposit.linkedTo custodyId).id = deposit.id := rfl

def createDeposit (deposit : BankDepositLog) : CustodyTx Unit := do
  let deposits ← fetch (fun db => db.deposits.insert deposit)
    (.database "Unique constraint failed on the fields: (id)")
  modify fun db => { db with deposits := deposits }

def linkDeposit (custodyId depositId : Uuid) : CustodyTx Unit := do
  let taken ← reads fun db => decide (∃ deposit ∈ db.deposits.rows,
    deposit.managerCashCustodyId = some custodyId ∧ deposit.id ≠ depositId)
  require (taken = false)
    (.database "Unique constraint failed on the fields: (managerCashCustodyId)")
  modify fun db => { db with
    deposits := db.deposits.update depositId (BankDepositLog.linkedTo custodyId)
      (linkedTo_id custodyId) }

def registerDeposit (env : CustodyEnv) (order : RowOrder BankDepositLog)
    (bag : ManagerCashCustody) (accountantId : Uuid) : CustodyTx Unit :=
  match bag.slip with
  | none => pure ()
  | some url => do
      let existing ← reads (existingDeposit order bag)
      match existing with
      | none => do
          let id ← reads fun db => env.newDepositId db.deposits.rows.length
          createDeposit (bag.deposit id url accountantId)
      | some deposit =>
          whenever (deposit.managerCashCustodyId = none) (linkDeposit bag.id deposit.id)

def verifyCustodySeeing (env : CustodyEnv) (order : RowOrder BankDepositLog)
    (custodyId accountantId : Uuid) (note : Option String) (seen : CustodyDb) :
    CustodyTx Unit := do
  let bag ← fetch (fun _ => seen.bags.find? custodyId) (.notFound "Custody bag not found.")
  require (bag.status = .AWAITING_VERIFICATION)
    (.badRequest ("Only bags in AWAITING_VERIFICATION can be verified (got " ++
      bag.status.name ++ ")."))
  atomically (fun before _ => before) do
    let row ← updateBag custodyId
      (ManagerCashCustody.verifiedBy env.now accountantId (newNote note bag.note))
      (verifiedBy_id _ _ _)
    modify fun db => { db with
      settlements := db.settlements ++ [⟨row.id, row.amountKd, accountantId⟩] }
    registerDeposit env order row accountantId

def rejectCustodySeeing (env : CustodyEnv) (custodyId accountantId : Uuid) (reason : String)
    (seen : CustodyDb) : CustodyTx Unit := do
  let bag ← fetch (fun _ => seen.bags.find? custodyId) (.notFound "Custody bag not found.")
  require (bag.status = .AWAITING_VERIFICATION)
    (.badRequest ("Only bags in AWAITING_VERIFICATION can be rejected (got " ++
      bag.status.name ++ ")."))
  let _ ← updateBag custodyId (ManagerCashCustody.rejectedBy env.now accountantId reason)
    (rejectedBy_id _ _ _)

inductive CustodyCall
  | upload (env : CustodyEnv) (custodyId managerId : Uuid) (dto : UploadDepositSlipDto)
      (seen : CustodyDb)
  | verify (env : CustodyEnv) (order : RowOrder BankDepositLog)
      (custodyId accountantId : Uuid) (note : Option String) (seen : CustodyDb)
  | reject (env : CustodyEnv) (custodyId accountantId : Uuid) (reason : String) (seen : CustodyDb)

namespace CustodyCall

def custodyId : CustodyCall → Uuid
  | .upload _ id _ _ _ | .verify _ _ id _ _ _ | .reject _ id _ _ _ => id

def seen : CustodyCall → CustodyDb
  | .upload _ _ _ _ seen | .verify _ _ _ _ _ seen | .reject _ _ _ _ seen => seen

def run : CustodyCall → CustodyTx Unit
  | .upload env id managerId dto seen => uploadDepositSlipSeeing env id managerId dto seen
  | .verify env order id accountantId note seen =>
      verifyCustodySeeing env order id accountantId note seen
  | .reject env id accountantId reason seen => rejectCustodySeeing env id accountantId reason seen

def Allows (status : ManagerCashCustodyStatus) : CustodyCall → Prop
  | .upload _ _ _ _ _ => status = .PENDING_DEPOSIT ∨ status = .REJECTED
  | .verify _ _ _ _ _ _ | .reject _ _ _ _ _ => status = .AWAITING_VERIFICATION

end CustodyCall

/-- Uploads, verifications and rejections, each with the state that its check saw. -/
def custodyCalls : Calls CustodyDb CustodyCall where
  step := fun call db => (call.run.outcome db).2
  seen := fun call => [call.seen]

def settlementsOfBag (custodyId : Uuid) (db : CustodyDb) : List CustodySettlement :=
  db.settlements.filter fun settlement => settlement.custodyId = custodyId

def VerifiedBag (custodyId : Uuid) (db : CustodyDb) : Prop :=
  ∃ bag, db.bags.find? custodyId = some bag ∧ bag.status = .VERIFIED

instance (custodyId : Uuid) (db : CustodyDb) : Decidable (VerifiedBag custodyId db) :=
  decidable_of_iff ((db.bags.find? custodyId).any fun bag => decide (bag.status = .VERIFIED))
    (by simp [VerifiedBag, Option.any_eq_true])

def Banked (custodyId : Uuid) (deposits : Table BankDepositLog.id) : Prop :=
  ∃ deposit ∈ deposits.rows, deposit.managerCashCustodyId = some custodyId

structure BagSound (custodyId : Uuid) (db : CustodyDb) : Prop where
  once : (settlementsOfBag custodyId db).length ≤ 1
  unverified : ¬ VerifiedBag custodyId db → settlementsOfBag custodyId db = []
  banked : ∀ bag, db.bags.find? custodyId = some bag → bag.status = .VERIFIED →
    bag.slip ≠ none → Banked custodyId db.deposits

def BagKept (custodyId : Uuid) (db db' : CustodyDb) : Prop :=
  (BagSound custodyId db → BagSound custodyId db') ∧
    (VerifiedBag custodyId db → VerifiedBag custodyId db')

instance (custodyId : Uuid) : Std.Refl (BagKept custodyId) :=
  ⟨fun _ => ⟨id, id⟩⟩

instance (custodyId : Uuid) : IsTrans CustodyDb (BagKept custodyId) :=
  ⟨fun _ _ _ hfirst hsecond =>
    ⟨fun h => hsecond.1 (hfirst.1 h), fun h => hsecond.2 (hfirst.2 h)⟩⟩

variable {db : CustodyDb} {f : ManagerCashCustody → ManagerCashCustody}
  {before : Table BankDepositLog.id} {deposit : BankDepositLog} {order : RowOrder BankDepositLog}

theorem bagKept_update {id : Uuid} {hf : ∀ bag, (f bag).id = bag.id} (custodyId : Uuid)
    (hopen : ¬ VerifiedBag id db) (hstays : ∀ bag, (f bag).status ≠ .VERIFIED) :
    BagKept custodyId db { db with bags := db.bags.update id f hf } := by
  by_cases hsame : custodyId = id
  · subst hsame
    have hafter : ∀ bag, (db.bags.update custodyId f hf).find? custodyId = some bag →
        bag.status ≠ .VERIFIED := by
      intro bag hbag
      rw [Table.find?_update_self, Option.map_eq_some_iff] at hbag
      obtain ⟨old, _, rfl⟩ := hbag
      exact hstays old
    constructor
    · intro hsound
      refine ⟨hsound.once, fun _ => hsound.unverified hopen, ?_⟩
      intro bag hbag hverified
      exact absurd hverified (hafter bag hbag)
    · exact fun hverified => absurd hverified hopen
  · have hfind : (db.bags.update id f hf).find? custodyId = db.bags.find? custodyId :=
      Table.find?_update_of_ne _ _ _ hsame
    have hiff : VerifiedBag custodyId { db with bags := db.bags.update id f hf } ↔
        VerifiedBag custodyId db := by
      unfold VerifiedBag
      rw [hfind]
    constructor
    · intro hsound
      refine ⟨hsound.once, fun hnot => hsound.unverified fun h => hnot (hiff.2 h), ?_⟩
      intro bag hbag
      exact hsound.banked bag (hfind ▸ hbag)
    · exact hiff.2

theorem keepsAt_updateBag {id : Uuid} {hf : ∀ bag, (f bag).id = bag.id} (custodyId : Uuid)
    (hopen : ¬ VerifiedBag id db) (hstays : ∀ bag, (f bag).status ≠ .VERIFIED) :
    KeepsAt (BagKept custodyId) db (updateBag id f hf) := by
  refine .fetch_bind fun bag _ => ?_
  apply KeepsAt.bind (keepsAt_modify (bagKept_update custodyId hopen hstays))
  intro _ _ _
  exact keepsAt_pure _

theorem keepsAt_mirrorSlip (custodyId : Uuid) (url : String) (shiftId : Option Uuid)
    (db : CustodyDb) : KeepsAt (BagKept custodyId) db (mirrorSlip url shiftId) := by
  cases shiftId with
  | none => exact keepsAt_pure _
  | some shiftId => exact keepsAt_modify ⟨fun hsound => ⟨hsound.1, hsound.2, hsound.3⟩, id⟩

theorem keepsAt_assertDeclared (custodyId : Uuid) (minor : ℤ) (declared : Option ℚ)
    (db : CustodyDb) :
    KeepsAt (BagKept custodyId) db (assertDeclaredMatchesLedgerMinor minor declared) := by
  cases declared with
  | none => exact keepsAt_pure _
  | some declared =>
      refine .require_bind fun _ => ?_
      exact keepsAt_require _ _

/-! ## The deposit of a verification -/

/-- Deposits that name a bag go on naming it. -/
def LinksKept (before after : Table BankDepositLog.id) : Prop :=
  ∀ custodyId, Banked custodyId before → Banked custodyId after

theorem linksKept_insert {after : Table BankDepositLog.id}
    (hinsert : before.insert deposit = some after) : LinksKept before after := by
  rintro custodyId ⟨old, hold, hlinked⟩
  refine ⟨old, ?_, hlinked⟩
  rw [Table.rows_insert hinsert]
  exact mem_append_left _ hold

theorem linksKept_link {custodyId : Uuid} (hmem : deposit ∈ before.rows)
    (hfree : deposit.managerCashCustodyId = none) :
    LinksKept before (before.update deposit.id (BankDepositLog.linkedTo custodyId)
      (linkedTo_id custodyId)) := by
  rintro other ⟨old, hold, hlinked⟩
  have hne : old.id ≠ deposit.id := by
    intro heq
    obtain rfl := Table.row_eq_of_key_eq hold hmem heq
    rw [hfree] at hlinked
    cases hlinked
  exact ⟨old, Table.mem_updateWhere.2 ⟨old, hold, if_neg hne⟩, hlinked⟩

def FindsOwnDeposit (order : RowOrder BankDepositLog) (bag : ManagerCashCustody)
    (db : CustodyDb) : Prop :=
  ∀ deposit, existingDeposit order bag db = some deposit →
    deposit.managerCashCustodyId = none ∨ deposit.managerCashCustodyId = some bag.id

theorem mem_of_existingDeposit {bag : ManagerCashCustody}
    (hfound : existingDeposit order bag db = some deposit) :
    deposit ∈ db.deposits.rows := by
  have hmem := mem_of_mem_head? hfound
  exact mem_of_mem_filter ((order.perm _).mem_iff.1 hmem)

theorem commits_registerDeposit {env : CustodyEnv} {bag : ManagerCashCustody} {accountantId : Uuid}
    {db' : CustodyDb} (hcommits : (registerDeposit env order bag accountantId).Commits db () db') :
    ∃ deposits, db' = { db with deposits := deposits } ∧ LinksKept db.deposits deposits ∧
      (bag.slip ≠ none → FindsOwnDeposit order bag db → Banked bag.id deposits) := by
  unfold registerDeposit at hcommits
  cases hslip : bag.slip with
  | none =>
      rw [hslip, commits_pure] at hcommits
      exact ⟨db.deposits, hcommits.2.symm, fun _ h => h, fun hne => absurd rfl hne⟩
  | some url =>
      rw [hslip] at hcommits
      simp only [commits_bind, commits_reads] at hcommits
      obtain ⟨existing, _, ⟨rfl, rfl⟩, hcommits⟩ := hcommits
      cases hfound : existingDeposit order bag db with
      | none =>
          simp only [hfound, commits_bind, commits_reads, createDeposit, commits_fetch,
            commits_modify] at hcommits
          obtain ⟨id, _, ⟨_, rfl⟩, deposits, _, ⟨hinsert, rfl⟩, rfl⟩ := hcommits
          refine ⟨deposits, rfl, linksKept_insert hinsert, fun _ _ => ?_⟩
          refine ⟨bag.deposit id url accountantId, ?_, rfl⟩
          rw [Table.rows_insert hinsert]
          exact mem_append_right _ (mem_singleton_self _)
      | some deposit =>
          have hmem := mem_of_existingDeposit hfound
          simp only [hfound, commits_whenever] at hcommits
          rcases hcommits with ⟨hfree, hlink⟩ | ⟨hlinked, rfl⟩
          · simp only [linkDeposit, commits_bind, commits_reads, commits_require,
              commits_modify] at hlink
            obtain ⟨_, _, ⟨_, rfl⟩, _, _, ⟨_, rfl⟩, rfl⟩ := hlink
            refine ⟨_, rfl, linksKept_link hmem hfree, fun _ _ => ?_⟩
            exact ⟨deposit.linkedTo bag.id,
              Table.mem_updateWhere.2 ⟨deposit, hmem, if_pos rfl⟩, rfl⟩
          · refine ⟨db.deposits, rfl, fun _ h => h, fun _ hown => ?_⟩
            exact ⟨deposit, hmem, (hown deposit hfound).resolve_left hlinked⟩

theorem bagKept_verified {bag : ManagerCashCustody} {accountantId : Uuid} {now : Timestamp}
    {note : Option String} {deposits : Table BankDepositLog.id} (custodyId : Uuid)
    (hfind : db.bags.find? bag.id = some bag) (hopen : ¬ VerifiedBag bag.id db)
    (hlinks : LinksKept db.deposits deposits) (hbanked : bag.slip ≠ none → Banked bag.id deposits) :
    BagKept custodyId db { db with
      bags := db.bags.update bag.id (ManagerCashCustody.verifiedBy now accountantId note)
        (verifiedBy_id now accountantId note)
      settlements := db.settlements ++ [⟨bag.id, bag.amountKd, accountantId⟩]
      deposits := deposits } := by
  by_cases hsame : custodyId = bag.id
  · subst hsame
    have hafter : (db.bags.update bag.id (ManagerCashCustody.verifiedBy now accountantId note)
        (verifiedBy_id now accountantId note)).find? bag.id =
          some (bag.verifiedBy now accountantId note) := by
      rw [Table.find?_update_self, hfind]
      rfl
    have hverified : VerifiedBag bag.id { db with
        bags := db.bags.update bag.id (ManagerCashCustody.verifiedBy now accountantId note)
          (verifiedBy_id now accountantId note)
        settlements := db.settlements ++ [⟨bag.id, bag.amountKd, accountantId⟩]
        deposits := deposits } :=
      ⟨_, hafter, rfl⟩
    refine ⟨fun hsound => ⟨?_, fun hnot => absurd hverified hnot, ?_⟩, fun _ => hverified⟩
    · have hposted : settlementsOfBag bag.id { db with
          bags := db.bags.update bag.id (ManagerCashCustody.verifiedBy now accountantId note)
            (verifiedBy_id now accountantId note)
          settlements := db.settlements ++ [⟨bag.id, bag.amountKd, accountantId⟩]
          deposits := deposits } =
        settlementsOfBag bag.id db ++ [⟨bag.id, bag.amountKd, accountantId⟩] := by
        unfold settlementsOfBag
        rw [filter_append, filter_cons_of_pos (by simp), filter_nil]
      rw [hposted, hsound.unverified hopen]
      exact le_rfl
    · intro found hfound _ hslip
      obtain rfl := Option.some.inj (hafter.symm.trans hfound)
      exact hbanked hslip
  · have hbag : (db.bags.update bag.id (ManagerCashCustody.verifiedBy now accountantId note)
        (verifiedBy_id now accountantId note)).find? custodyId = db.bags.find? custodyId :=
      Table.find?_update_of_ne _ _ _ hsame
    have hposted : settlementsOfBag custodyId { db with
          bags := db.bags.update bag.id (ManagerCashCustody.verifiedBy now accountantId note)
            (verifiedBy_id now accountantId note)
          settlements := db.settlements ++ [⟨bag.id, bag.amountKd, accountantId⟩]
          deposits := deposits } = settlementsOfBag custodyId db := by
      unfold settlementsOfBag
      rw [filter_append, filter_cons_of_neg (by simpa using Ne.symm hsame),
        filter_nil, append_nil]
    constructor
    · intro hsound
      refine ⟨hposted ▸ hsound.once, ?_, ?_⟩
      · intro hnot
        rw [hposted]
        apply hsound.unverified
        rintro ⟨found, hfound, hverified⟩
        exact hnot ⟨found, hbag.trans hfound, hverified⟩
      · intro found hfound hverified hslip
        exact hlinks custodyId (hsound.banked found (hbag ▸ hfound) hverified hslip)
    · rintro ⟨found, hfound, hverified⟩
      exact ⟨found, hbag.trans hfound, hverified⟩

/-! ## Every interleaving -/

namespace CustodyCall

def Timely (call : CustodyCall) (db : CustodyDb) : Prop :=
  ∀ read, call.seen.bags.find? call.custodyId = some read → call.Allows read.status →
    ¬ VerifiedBag call.custodyId db

def FindsOwn (db : CustodyDb) : CustodyCall → Prop
  | .upload _ _ _ _ _ | .reject _ _ _ _ _ => True
  | .verify _ order id _ _ _ => ∀ bag, db.bags.find? id = some bag → bag.slip ≠ none →
      FindsOwnDeposit order bag db

def Admitted (call : CustodyCall) (db : CustodyDb) : Prop :=
  call.Timely db ∧ call.FindsOwn db

theorem keepsAt_run {call : CustodyCall} {db : CustodyDb} (custodyId : Uuid)
    (hadmitted : call.Admitted db) :
    KeepsAt (BagKept custodyId) db call.run := by
  obtain ⟨htimely, hown⟩ := hadmitted
  cases call with
  | upload env id managerId dto seen =>
      refine .fetch_bind fun bag hseen => ?_
      refine .require_bind fun _ => ?_
      refine .require_bind fun hallowed => ?_
      apply KeepsAt.bind (keepsAt_assertDeclared _ _ _ _)
      intro _ mid hdeclared
      obtain rfl := (commits_assertDeclared.1 hdeclared).2
      apply KeepsAt.bind (keepsAt_updateBag custodyId (htimely bag hseen hallowed) _)
      · intro updated mid _
        exact keepsAt_mirrorSlip _ _ _ _
      · intro _ hverified
        cases hverified
  | verify env order id accountantId note seen =>
      refine .fetch_bind fun bag hseen => ?_
      refine .require_bind fun hallowed => ?_
      have hopen := htimely bag hseen hallowed
      apply keepsAt_atomically
      · intro _ db' hcommits
        simp only [updateBag, commits_bind, commits_fetch, commits_modify, commits_pure]
          at hcommits
        obtain ⟨_, _, ⟨found, _, ⟨hfind, rfl⟩, _, _, rfl, rfl, rfl⟩, _, _, rfl, hregister⟩ :=
          hcommits
        obtain ⟨deposits, rfl, hlinks, hbanked⟩ := commits_registerDeposit hregister
        obtain rfl : found.id = id := Table.key_of_find? hfind
        exact bagKept_verified custodyId hfind hopen hlinks fun hslip =>
          hbanked hslip (hown found hfind hslip)
      · intro _
        exact Std.Refl.refl _
  | reject env id accountantId reason seen =>
      refine .fetch_bind fun bag hseen => ?_
      refine .require_bind fun hallowed => ?_
      apply KeepsAt.bind (keepsAt_updateBag custodyId (htimely bag hseen hallowed) _)
      · intro _ mid _
        exact keepsAt_pure _
      · intro _ hverified
        cases hverified

end CustodyCall

/-- In every interleaving in which no call overtakes a verification it has not seen and no
lookup returns another bag's deposit, a verified bag stays verified, has one posting,
and is banked if it carries a slip. -/
theorem custodyRun_sound {custodyId : Uuid} {start : CustodyDb} {trace : List CustodyDb}
    (hstart : BagSound custodyId start)
    (hrun : custodyCalls.Run CustodyCall.Admitted start trace) :
    (∀ db ∈ trace, BagSound custodyId db) ∧
      trace.IsChain fun later earlier =>
        VerifiedBag custodyId earlier → VerifiedBag custodyId later := by
  have hkept : ∀ call db, call.Admitted db →
      BagKept custodyId db (custodyCalls.step call db) := by
    intro call db hadmitted
    exact call.keepsAt_run custodyId hadmitted
  have hstep : ∀ call db, BagSound custodyId db →
      (∀ t ∈ custodyCalls.seen call, BagSound custodyId t) → call.Admitted db →
      BagSound custodyId (custodyCalls.step call db) := by
    intro call db hsound _ hadmitted
    exact (hkept call db hadmitted).1 hsound
  have hdoes : ∀ call db, BagSound custodyId db →
      (∀ t ∈ custodyCalls.seen call, BagSound custodyId t) → call.Admitted db →
      (VerifiedBag custodyId db → VerifiedBag custodyId (custodyCalls.step call db)) := by
    intro call db _ _ hadmitted
    exact (hkept call db hadmitted).2
  exact ⟨hrun.invariant hstart hstep, hrun.isChain hstart hstep hdoes⟩

namespace Sample

/-- A bag of four dinars, its slip still to come. -/
def bag : ManagerCashCustody :=
  HandoverArgs.bag ⟨"manager", .MANAGER, ⟨"driver", none, none⟩⟩ custodyEnv "bag" none none
    [cashOrder "a", cashOrder "b"]

def custodyDesk : CustodyDb :=
  { cashFloor with bags := ⟨[bag], nodup_singleton _⟩ }

def slipUpload : CustodyCall :=
  .upload custodyEnv "bag" "manager" ⟨"/slips/1.jpg", none, none⟩ custodyDesk

def awaitingDesk : CustodyDb := custodyCalls.step slipUpload custodyDesk

def verification : CustodyCall :=
  .verify custodyEnv ⟨id, fun _ => List.Perm.refl _⟩ "bag" "accountant" none awaitingDesk

end Sample

theorem custodyRun_sound_sample :
    BagSound "bag" (custodyCalls.step Sample.verification Sample.awaitingDesk) := by
  have hstart : BagSound "bag" Sample.custodyDesk := by
    refine ⟨by decide, fun _ => rfl, ?_⟩
    intro bag hbag hverified
    have hnot : ¬ VerifiedBag "bag" Sample.custodyDesk := by decide +kernel
    exact absurd ⟨bag, hbag, hverified⟩ hnot
  apply (@custodyRun_sound "bag" Sample.custodyDesk
    [custodyCalls.step Sample.verification Sample.awaitingDesk, Sample.awaitingDesk,
      Sample.custodyDesk] hstart _).1 _ (mem_cons_self ..)
  apply Calls.Run.call Sample.verification
  · apply Calls.Run.call Sample.slipUpload .start
    · intro t ht
      exact ht
    · refine ⟨fun _ _ _ => ?_, trivial⟩
      decide +kernel
  · intro t ht
    rw [mem_singleton.1 ht]
    exact mem_cons_self ..
  · refine ⟨fun _ _ _ => ?_, fun bag _ _ deposit hfound => ?_⟩
    · decide +kernel
    · cases hfound

theorem custodyRun_fails :
    ¬ ∀ (custodyId : Uuid) (start : CustodyDb) (trace : List CustodyDb),
      BagSound custodyId start → custodyCalls.Run (fun _ _ => True) start trace →
      ∀ db ∈ trace, (settlementsOfBag custodyId db).length ≤ 1 := by
  intro hall
  have hstart : BagSound "bag" Sample.awaitingDesk := by
    refine ⟨by decide, fun _ => rfl, ?_⟩
    intro bag hbag hverified
    have hnot : ¬ VerifiedBag "bag" Sample.awaitingDesk := by decide +kernel
    exact absurd ⟨bag, hbag, hverified⟩ hnot
  let once := custodyCalls.step Sample.verification Sample.awaitingDesk
  have hrun : custodyCalls.Run (fun _ _ => True) Sample.awaitingDesk
      [custodyCalls.step Sample.verification once, once, Sample.awaitingDesk] := by
    apply Calls.Run.call Sample.verification
    · apply Calls.Run.call Sample.verification .start
      · intro t ht
        exact ht
      · trivial
    · intro t ht
      rw [mem_singleton.1 ht]
      exact mem_cons_of_mem _ (mem_singleton_self _)
    · trivial
  have htwice := hall "bag" Sample.awaitingDesk _ hstart hrun _ (mem_cons_self ..)
  revert htwice
  decide +kernel

end SafariLaundry
