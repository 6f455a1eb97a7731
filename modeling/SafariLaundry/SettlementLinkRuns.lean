import SafariLaundry.SettlementLinks

/-!
# Interleavings of settlement calls and cleanups

While the bundle of a call lives, all invoices of the call are in it and no step of another
call touches them.  So a roll-back finds them as the call claimed them, unless a cleanup took
the bundle away; then it was the cleanup that put them back.
-/

namespace SafariLaundry

open Library Library.Transaction

/-! ## What every run keeps -/

namespace SettlementStore

variable {store after : SettlementStore} {g : Order × OrderMarks → Order × OrderMarks}
  {live : Uuid → Prop} {id bundleId : Uuid}

def ForeignKeys (store : SettlementStore) : Prop :=
  ∀ id bundleId, store.bundleOf id = some bundleId → store.Live bundleId

theorem row_of_bundleOf (hbundle : store.bundleOf id = some bundleId) :
    ∃ row, store.row? id = some row ∧ row.1.posPaymentBundleId = some bundleId := by
  rw [bundleOf_eq] at hbundle
  exact Option.bind_eq_some_iff.1 hbundle

theorem bundleOf_of_row {row : Order × OrderMarks} (hrow : store.row? id = some row) :
    store.bundleOf id = row.1.posPaymentBundleId := by
  rw [bundleOf_eq, hrow]
  rfl

theorem Changed.bundleOf (hchanged : store.Changed after g live)
    (hbundle : store.bundleOf id = some bundleId)
    (hkeeps : ∀ row : Order × OrderMarks, row.1.posPaymentBundleId = some bundleId →
      (g row).1.posPaymentBundleId = some bundleId) :
    after.bundleOf id = some bundleId := by
  obtain ⟨row, hrow, hin⟩ := row_of_bundleOf hbundle
  have hafter : after.row? id = some (g row) := by
    rw [hchanged.rows, hrow]
    rfl
  rw [bundleOf_of_row hafter]
  exact hkeeps row hin

theorem Changed.source (hchanged : store.Changed after g live)
    (hbundle : after.bundleOf id = some bundleId) :
    ∃ row, store.row? id = some row ∧ (g row).1.posPaymentBundleId = some bundleId := by
  obtain ⟨row, hrow, hin⟩ := row_of_bundleOf hbundle
  rw [hchanged.rows] at hrow
  obtain ⟨old, hold, rfl⟩ := Option.map_eq_some_iff.1 hrow
  exact ⟨old, hold, hin⟩

theorem Changed.foreignKeys (hchanged : store.Changed after g live) (hforeign : store.ForeignKeys)
    (hput : ∀ row bundleId, (g row).1.posPaymentBundleId = some bundleId →
      (row.1.posPaymentBundleId = some bundleId → store.Live bundleId) → live bundleId) :
    after.ForeignKeys := by
  intro id bundleId hbundle
  obtain ⟨row, hrow, hin⟩ := hchanged.source hbundle
  rw [hchanged.live]
  exact hput row bundleId hin fun hwas =>
    hforeign id bundleId ((bundleOf_of_row hrow).trans hwas)

theorem claimRow_of_bundle {request : SettlementRequest} {newId : Uuid}
    {row : Order × OrderMarks} (hbundle : row.1.posPaymentBundleId = some bundleId) :
    claimRow request newId row = row := by
  refine if_neg ?_
  rintro ⟨_, _, _, _, hnone⟩
  rw [hbundle] at hnone
  cases hnone

theorem bundle_stampRow (claim : SettlementClaim) (link : PaymentLink) (now : Timestamp)
    (row : Order × OrderMarks) :
    (stampRow claim link now row).1.posPaymentBundleId = row.1.posPaymentBundleId := by
  unfold stampRow
  by_cases hheld : claim.Holds row.1
  · rw [if_pos hheld]
    rfl
  · rw [if_neg hheld]

end SettlementStore

abbrev SettlementWorld := Threads.World SettlementStore SettlementThread

structure SettlementKept (world : SettlementWorld) : Prop where
  foreignKeys : world.shared.ForeignKeys
  whole : ∀ thread ∈ world.pending, ∀ claim, thread.claim? = some claim →
    world.shared.Live claim.bundleId →
      ∀ id ∈ claim.request.invoiceIds, world.shared.bundleOf id = some claim.bundleId
  distinct : (world.pending.filterMap SettlementThread.bundleId?).Nodup

section Step

variable {choice : SettlementChoice} {shared after : SettlementStore}
  {thread next : SettlementThread} {rest : Multiset SettlementThread}

theorem SettlementKept.replace (hkept : SettlementKept ⟨shared, thread ::ₘ rest⟩)
    (hclaim : next.claim? = thread.claim?) (hforeign : after.ForeignKeys)
    (hlive : ∀ bundleId, after.Live bundleId → shared.Live bundleId)
    (hkeeps : ∀ id bundleId, after.Live bundleId → shared.bundleOf id = some bundleId →
      after.bundleOf id = some bundleId) :
    SettlementKept ⟨after, next ::ₘ rest⟩ := by
  have hbundle : next.bundleId? = thread.bundleId? := by
    unfold SettlementThread.bundleId?
    rw [hclaim]
  refine ⟨hforeign, ?_, ?_⟩
  · intro other hother claim hother_claim hafter id hid
    refine hkeeps id _ hafter ?_
    rcases Multiset.mem_cons.1 hother with rfl | hrest
    · exact hkept.whole thread (Multiset.mem_cons_self ..) claim (hclaim ▸ hother_claim)
        (hlive _ hafter) id hid
    · exact hkept.whole other (Multiset.mem_cons_of_mem hrest) claim hother_claim
        (hlive _ hafter) id hid
  · have hdistinct := hkept.distinct
    simp only at hdistinct ⊢
    cases hid : thread.bundleId? with
    | none =>
        rw [Multiset.filterMap_cons_none _ _ hid] at hdistinct
        rwa [Multiset.filterMap_cons_none _ _ (hbundle.trans hid)]
    | some bundleId =>
        rw [Multiset.filterMap_cons_some _ _ _ hid] at hdistinct
        rwa [Multiset.filterMap_cons_some _ _ _ (hbundle.trans hid)]

theorem SettlementKept.claims {request : SettlementRequest}
    (hkept : SettlementKept ⟨shared, .claiming request ::ₘ rest⟩)
    (hfresh : ∀ other ∈ rest, other.bundleId? ≠ some choice.newBundleId)
    (hfree : ∀ id ∈ request.invoiceIds, ∃ order, shared.orders.find? id = some order ∧
      request.Claimable order)
    (hchanged : shared.Changed after (SettlementStore.claimRow request choice.newBundleId)
      fun bundleId => bundleId = choice.newBundleId ∨ shared.Live bundleId) :
    SettlementKept ⟨after, .linking ⟨choice.newBundleId, request⟩ ::ₘ rest⟩ := by
  refine ⟨?_, ?_, ?_⟩
  · refine hchanged.foreignKeys hkept.foreignKeys fun row bundleId hin hwas => ?_
    by_cases hclaimable : request.Claimable row.1
    · left
      rw [SettlementStore.claimRow, if_pos hclaimable] at hin
      exact (Option.some.inj hin).symm
    · right
      rw [SettlementStore.claimRow, if_neg hclaimable] at hin
      exact hwas hin
  · intro other hother claim hclaim hlive id hid
    rcases Multiset.mem_cons.1 hother with rfl | hrest
    · cases hclaim
      obtain ⟨order, hfind, hclaimable⟩ := hfree id hid
      have hrow : after.row? id =
          some (withBundle (some choice.newBundleId) order, shared.marks id) := by
        rw [hchanged.rows, SettlementStore.row?, hfind]
        exact congrArg some (if_pos hclaimable)
      rw [SettlementStore.bundleOf_of_row hrow]
      rfl
    · have hold : shared.Live claim.bundleId := by
        refine ((hchanged.live _).1 hlive).resolve_left fun hnew => ?_
        apply hfresh other hrest
        rw [SettlementThread.bundleId?, hclaim, ← hnew]
        rfl
      refine hchanged.bundleOf (hkept.whole other (Multiset.mem_cons_of_mem hrest) claim
        hclaim hold id hid) fun row hin => ?_
      rw [SettlementStore.claimRow_of_bundle hin, hin]
  · have hdistinct := hkept.distinct
    have hnew : (SettlementThread.linking ⟨choice.newBundleId, request⟩).bundleId? =
      some choice.newBundleId := rfl
    rw [Multiset.filterMap_cons_none _ _ rfl] at hdistinct
    simp only
    rw [Multiset.filterMap_cons_some _ _ _ hnew, Multiset.nodup_cons]
    refine ⟨?_, hdistinct⟩
    rw [Multiset.mem_filterMap]
    rintro ⟨other, hrest, hsame⟩
    exact hfresh other hrest hsame

theorem SettlementKept.step (hkept : SettlementKept ⟨shared, thread ::ₘ rest⟩)
    (hfresh : ∀ other ∈ thread ::ₘ rest, other.bundleId? ≠ some choice.newBundleId)
    (hstep : SettlementStep choice shared thread after next) :
    SettlementKept ⟨after, next ::ₘ rest⟩ := by
  cases hstep with
  | aside hclaim _ =>
      exact hkept.replace hclaim hkept.foreignKeys (fun _ hlive => hlive) fun _ _ _ hin => hin
  | claims hfree hchanged =>
      exact hkept.claims (fun other hother => hfresh other (Multiset.mem_cons_of_mem hother))
        hfree hchanged
  | drops gone mark hclaim _ _ hchanged =>
      refine hkept.replace hclaim ?_ (fun bundleId hlive => ((hchanged.live bundleId).1 hlive).2) ?_
      · refine hchanged.foreignKeys hkept.foreignKeys fun row bundleId hin hwas => ?_
        cases hbundle : row.1.posPaymentBundleId with
        | none =>
            rw [SettlementStore.dropRow_of_none hbundle, hbundle] at hin
            cases hin
        | some other =>
            rw [SettlementStore.dropRow_of_bundle hbundle] at hin
            by_cases hgone : gone other
            · rw [if_pos hgone] at hin
              cases hin
            · rw [if_neg hgone, hbundle] at hin
              obtain rfl := Option.some.inj hin
              exact ⟨hgone, hwas hbundle⟩
      · intro id bundleId hlive hbundle
        refine hchanged.bundleOf hbundle fun row hin => ?_
        rw [SettlementStore.dropRow_of_bundle hin, if_neg ((hchanged.live bundleId).1 hlive).1, hin]
  | stamps hchanged =>
      refine hkept.replace rfl ?_ (fun bundleId hlive => (hchanged.live bundleId).1 hlive) ?_
      · refine hchanged.foreignKeys hkept.foreignKeys fun row bundleId hin hwas => ?_
        rw [SettlementStore.bundle_stampRow] at hin
        exact hwas hin
      · intro id bundleId _ hbundle
        refine hchanged.bundleOf hbundle fun row hin => ?_
        rw [SettlementStore.bundle_stampRow, hin]

theorem SettlementThread.Starts.claim? (hstarts : thread.Starts) : thread.claim? = none := by
  cases thread <;> first | rfl | exact hstarts.elim

theorem SettlementKept.start {world : SettlementWorld} (hkept : SettlementKept world)
    (hstarts : thread.Starts) : SettlementKept ⟨world.shared, thread ::ₘ world.pending⟩ := by
  refine ⟨hkept.foreignKeys, ?_, ?_⟩
  · intro other hother claim hclaim
    rcases Multiset.mem_cons.1 hother with rfl | hold
    · rw [hstarts.claim?] at hclaim
      cases hclaim
    · exact hkept.whole other hold claim hclaim
  · have hnone : thread.bundleId? = none := by
      rw [SettlementThread.bundleId?, hstarts.claim?]
      rfl
    rw [Multiset.filterMap_cons_none _ _ hnone]
    exact hkept.distinct

theorem SettlementKept.of_reaches {store : SettlementStore} {world : SettlementWorld}
    (hforeign : store.ForeignKeys) (hreach : settlements.Reaches ⟨store, 0⟩ world) :
    SettlementKept world := by
  apply hreach.invariant (I := SettlementKept)
  · exact ⟨hforeign, by simp, by simp⟩
  · exact fun world thread hkept hstarts => hkept.start hstarts
  · intro shared rest choice thread hkept hadmits
    obtain ⟨next, hnext, hstep⟩ := settlementTurn_step choice shared hadmits.1
    change SettlementKept ⟨_, ((settlementTurn choice thread shared).2 : Multiset _) + rest⟩
    rw [hnext]
    exact hkept.step hadmits.2.2 hstep

end Step

/-! ## A call that fails -/

def withoutLock (row : Order × OrderMarks) : Order × Option BundleLinkMetadata :=
  (row.1, row.2.posGatewayMetadata)

def HandedBack (before : SettlementStore) (claim : SettlementClaim) (start world : SettlementWorld) :
    Prop :=
  ∃ mid, settlements.Reaches start mid ∧ settlements.Reaches mid world ∧
    ¬ mid.shared.Live claim.bundleId ∧ ∀ id ∈ claim.request.invoiceIds,
        (mid.shared.row? id).map withoutLock = (before.row? id).map withoutLock

structure Since (before : SettlementStore) (claim : SettlementClaim) (start world : SettlementWorld) :
    Prop where
  pending : ∃ thread ∈ world.pending, thread.claim? = some claim
  held : ∀ thread ∈ world.pending, thread.Waits claim → world.shared.Live claim.bundleId →
    ∀ id ∈ claim.request.invoiceIds, world.shared.row? id = start.shared.row? id
  handedBack : ∀ thread ∈ world.pending, thread.Waits claim →
    ¬ world.shared.Live claim.bundleId → HandedBack before claim start world

def Claimed (before : SettlementStore) (claim : SettlementClaim) (store : SettlementStore) : Prop :=
  ∀ id ∈ claim.request.invoiceIds, ∃ row, before.row? id = some row ∧
    row.1.posPaymentBundleId = none ∧
      store.row? id = some (withBundle (some claim.bundleId) row.1, row.2)

theorem SettlementThread.Waits.claim? {thread : SettlementThread} {claim : SettlementClaim}
    (hwaits : thread.Waits claim) : thread.claim? = some claim := by
  rcases hwaits with rfl | ⟨_, rfl⟩
  · rfl
  · rfl

section Fails

variable {choice : SettlementChoice} {before shared after : SettlementStore}
  {claim : SettlementClaim} {start : SettlementWorld} {thread next other : SettlementThread}
  {rest : Multiset SettlementThread}

theorem SettlementKept.other_bundle (hkept : SettlementKept ⟨shared, thread ::ₘ rest⟩)
    (hother : other ∈ rest) (hclaim : other.claim? = some claim) :
    thread.bundleId? ≠ some claim.bundleId := by
  intro hsame
  have hdistinct := hkept.distinct
  simp only at hdistinct
  rw [Multiset.filterMap_cons_some _ _ _ hsame, Multiset.nodup_cons] at hdistinct
  apply hdistinct.1
  rw [Multiset.mem_filterMap]
  refine ⟨other, hother, ?_⟩
  rw [SettlementThread.bundleId?, hclaim]
  rfl

theorem withoutLock_dropRow {gone : Uuid → Prop} [DecidablePred gone]
    {mark : OrderMarks → OrderMarks} {row : Order × OrderMarks} {bundleId : Uuid}
    (hgone : gone bundleId) (hfree : row.1.posPaymentBundleId = none)
    (hmark : ∀ marks, (mark marks).posGatewayMetadata = marks.posGatewayMetadata) :
    withoutLock (SettlementStore.dropRow gone mark (withBundle (some bundleId) row.1, row.2)) =
      withoutLock row := by
  obtain ⟨order, marks⟩ := row
  have hin : (withBundle (some bundleId) order, marks).1.posPaymentBundleId = some bundleId := rfl
  rw [SettlementStore.dropRow_of_bundle hin, if_pos hgone, withoutLock, withoutLock, hmark]
  cases order
  cases hfree
  rfl

theorem SettlementStep.claim? (hstep : SettlementStep choice shared thread after next)
    (hclaim : thread.claim? = some claim) : next.claim? = some claim := by
  cases hstep with
  | aside hsame _ => rw [hsame, hclaim]
  | claims => cases hclaim
  | drops _ _ hsame => rw [hsame, hclaim]
  | stamps => exact hclaim

theorem SettlementStep.waited (hstep : SettlementStep choice shared thread after next)
    (hknown : claim.bundleId ≠ choice.newBundleId) (hwaits : next.Waits claim) :
    after = shared ∧ thread.Waits claim := by
  cases hstep with
  | aside _ hback => exact ⟨rfl, hback claim hwaits⟩
  | claims =>
      have hsame := hwaits.claim?
      cases hsame
      exact absurd rfl hknown
  | drops _ _ _ hnever => exact absurd hwaits (hnever claim)
  | stamps =>
      rcases hwaits with hlinking | ⟨_, hfailing⟩
      · cases hlinking
      · cases hfailing

theorem SettlementStep.keeps (hstep : SettlementStep choice shared thread after next)
    (hknown : claim.bundleId ≠ choice.newBundleId)
    (hother : thread.bundleId? ≠ some claim.bundleId) (hlive : after.Live claim.bundleId) :
    shared.Live claim.bundleId ∧ ∀ id row, shared.row? id = some row →
      row.1.posPaymentBundleId = some claim.bundleId → after.row? id = some row := by
  cases hstep with
  | aside => exact ⟨hlive, fun _ _ hrow _ => hrow⟩
  | claims _ hchanged =>
      refine ⟨((hchanged.live _).1 hlive).resolve_left hknown, fun id row hrow hin => ?_⟩
      rw [hchanged.rows, hrow, Option.map_some, SettlementStore.claimRow_of_bundle hin]
  | drops gone mark _ _ _ hchanged =>
      obtain ⟨hstays, hbefore⟩ := (hchanged.live _).1 hlive
      refine ⟨hbefore, fun id row hrow hin => ?_⟩
      rw [hchanged.rows, hrow, Option.map_some, SettlementStore.dropRow_of_bundle hin,
        if_neg hstays]
  | @stamps own link _ hchanged =>
      refine ⟨(hchanged.live _).1 hlive, fun id row hrow hin => ?_⟩
      have hnot : ¬ own.Holds row.1 := by
        rintro ⟨_, hown⟩
        rw [hin] at hown
        exact hother hown.symm
      rw [hchanged.rows, hrow, Option.map_some, SettlementStore.stampRow, if_neg hnot]

theorem SettlementStep.handsBack (hstep : SettlementStep choice shared thread after next)
    (hlive : shared.Live claim.bundleId) (hgone : ¬ after.Live claim.bundleId)
    {row : Order × OrderMarks} {id : Uuid} (hfree : row.1.posPaymentBundleId = none)
    (hrow : shared.row? id = some (withBundle (some claim.bundleId) row.1, row.2)) :
    (after.row? id).map withoutLock = some (withoutLock row) := by
  cases hstep with
  | aside => exact absurd hlive hgone
  | claims _ hchanged => exact absurd ((hchanged.live _).2 (.inr hlive)) hgone
  | drops gone mark _ _ hmark hchanged =>
      have hdropped : gone claim.bundleId := by
        by_contra hstays
        exact hgone ((hchanged.live _).2 ⟨hstays, hlive⟩)
      rw [hchanged.rows, hrow, Option.map_some, Option.map_some,
        withoutLock_dropRow hdropped hfree hmark]
  | stamps hchanged => exact absurd ((hchanged.live _).2 hlive) hgone

theorem HandedBack.tail {world world' : SettlementWorld} (hback : HandedBack before claim start world)
    (hmove : settlements.Move world world') : HandedBack before claim start world' := by
  obtain ⟨mid, hto, hfrom, hgone, hrows⟩ := hback
  exact ⟨mid, hto, hfrom.tail hmove, hgone, hrows⟩

theorem Since.step (hkept : SettlementKept ⟨shared, thread ::ₘ rest⟩)
    (hclaimed : Claimed before claim start.shared)
    (hsince : Since before claim start ⟨shared, thread ::ₘ rest⟩)
    (hreach : settlements.Reaches start ⟨shared, thread ::ₘ rest⟩)
    (hmove : settlements.Move ⟨shared, thread ::ₘ rest⟩ ⟨after, next ::ₘ rest⟩)
    (hfresh : ∀ other ∈ thread ::ₘ rest, other.bundleId? ≠ some choice.newBundleId)
    (hstep : SettlementStep choice shared thread after next) :
    Since before claim start ⟨after, next ::ₘ rest⟩ := by
  obtain ⟨caller, hcaller, hcall⟩ := hsince.pending
  have hknown : claim.bundleId ≠ choice.newBundleId := by
    intro hsame
    apply hfresh caller hcaller
    rw [SettlementThread.bundleId?, hcall, ← hsame]
    rfl
  refine ⟨?_, ?_, ?_⟩
  · rcases Multiset.mem_cons.1 hcaller with rfl | hrest
    · exact ⟨next, Multiset.mem_cons_self .., hstep.claim? hcall⟩
    · exact ⟨caller, Multiset.mem_cons_of_mem hrest, hcall⟩
  · intro waiting hwaiting hwaits hlive id hid
    rcases Multiset.mem_cons.1 hwaiting with rfl | hrest
    · obtain ⟨rfl, hwaited⟩ := hstep.waited hknown hwaits
      exact hsince.held thread (Multiset.mem_cons_self ..) hwaited hlive id hid
    · obtain ⟨hbefore, hrows⟩ := hstep.keeps hknown (hkept.other_bundle hrest hwaits.claim?) hlive
      have hheld := hsince.held waiting (Multiset.mem_cons_of_mem hrest) hwaits hbefore id hid
      obtain ⟨row, -, -, hstart⟩ := hclaimed id hid
      rw [hstart] at hheld ⊢
      exact hrows id _ hheld rfl
  · intro waiting hwaiting hwaits hgone
    rcases Multiset.mem_cons.1 hwaiting with rfl | hrest
    · obtain ⟨rfl, hwaited⟩ := hstep.waited hknown hwaits
      exact (hsince.handedBack thread (Multiset.mem_cons_self ..) hwaited hgone).tail hmove
    · by_cases hlive : shared.Live claim.bundleId
      · refine ⟨⟨after, next ::ₘ rest⟩, hreach.tail hmove, .refl, hgone, ?_⟩
        intro id hid
        have hheld := hsince.held waiting (Multiset.mem_cons_of_mem hrest) hwaits hlive id hid
        obtain ⟨row, hrow, hfree, hstart⟩ := hclaimed id hid
        rw [hstart] at hheld
        rw [hrow]
        exact hstep.handsBack hlive hgone hfree hheld
      · exact (hsince.handedBack waiting (Multiset.mem_cons_of_mem hrest) hwaits hlive).tail hmove

theorem Since.spawned {world : SettlementWorld} (hsince : Since before claim start world)
    (hstarts : thread.Starts) (hmove : settlements.Move world
      ⟨world.shared, thread ::ₘ world.pending⟩) :
    Since before claim start ⟨world.shared, thread ::ₘ world.pending⟩ := by
  have hold : ∀ waiting ∈ thread ::ₘ world.pending, waiting.Waits claim →
      waiting ∈ world.pending := by
    intro waiting hwaiting hwaits
    refine (Multiset.mem_cons.1 hwaiting).resolve_left ?_
    rintro rfl
    have hnone := hwaits.claim?
    rw [hstarts.claim?] at hnone
    cases hnone
  obtain ⟨caller, hcaller, hcall⟩ := hsince.pending
  refine ⟨⟨caller, Multiset.mem_cons_of_mem hcaller, hcall⟩, ?_, ?_⟩
  · intro waiting hwaiting hwaits
    exact hsince.held waiting (hold waiting hwaiting hwaits) hwaits
  · intro waiting hwaiting hwaits hgone
    exact (hsince.handedBack waiting (hold waiting hwaiting hwaits) hwaits hgone).tail hmove

theorem Since.of_reaches {world : SettlementWorld} (hkept : SettlementKept start)
    (hclaimed : Claimed before claim start.shared) (hsince : Since before claim start start)
    (hreach : settlements.Reaches start world) : Since before claim start world := by
  have hall : settlements.Reaches start world ∧ SettlementKept world ∧
      Since before claim start world := by
    apply hreach.invariant (I := fun world => settlements.Reaches start world ∧
      SettlementKept world ∧ Since before claim start world)
    · exact ⟨.refl, hkept, hsince⟩
    · rintro world thread ⟨hto, hkept, hsince⟩ hstarts
      exact ⟨hto.start_thread thread hstarts, hkept.start hstarts,
        hsince.spawned hstarts (.start world thread hstarts)⟩
    · rintro shared rest choice thread ⟨hto, hkept, hsince⟩ hadmits
      obtain ⟨next, hnext, hstep⟩ := settlementTurn_step choice shared hadmits.1
      have hmove : settlements.Move ⟨shared, thread ::ₘ rest⟩
          ⟨_, ((settlementTurn choice thread shared).2 : Multiset _) + rest⟩ :=
        .turn shared rest choice thread hadmits
      change settlements.Reaches start
          ⟨_, ((settlementTurn choice thread shared).2 : Multiset _) + rest⟩ ∧
        SettlementKept ⟨_, ((settlementTurn choice thread shared).2 : Multiset _) + rest⟩ ∧
        Since before claim start ⟨_, ((settlementTurn choice thread shared).2 : Multiset _) + rest⟩
      rw [hnext] at hmove ⊢
      exact ⟨hto.tail hmove, hkept.step hadmits.2.2 hstep,
        hsince.step hkept hclaimed hto hmove hadmits.2.2 hstep⟩
  exact hall.2.2

end Fails

/-! ## Every interleaving -/

/-- An order is in a live bundle or in none, and no two calls whose bundles are live share an
order. -/
def OneBundle (world : SettlementWorld) : Prop :=
  world.shared.ForeignKeys ∧ ∀ thread ∈ world.pending, ∀ other ∈ world.pending, ∀ claim claim',
      thread.claim? = some claim → other.claim? = some claim' →
      world.shared.Live claim.bundleId → world.shared.Live claim'.bundleId →
      ∀ id ∈ claim.request.invoiceIds, id ∈ claim'.request.invoiceIds →
        claim.bundleId = claim'.bundleId

def AllOrNone (world : SettlementWorld) : Prop :=
  ∀ thread ∈ world.pending, ∀ claim, thread.claim? = some claim → ∀ id ∈ claim.request.invoiceIds,
      (world.shared.bundleOf id = some claim.bundleId ↔ world.shared.Live claim.bundleId)

/-- The step that claims takes all invoices of its call, which were in no bundle, and no other
order; or it throws and changes nothing. -/
def ClaimsWhole (choice : SettlementChoice) (request : SettlementRequest)
    (store : SettlementStore) : Prop :=
  ((settlementTurn choice (.claiming request) store).1 = store ∧
      ∃ error, (settlementTurn choice (.claiming request) store).2 = [.thrown none error]) ∨
    ((settlementTurn choice (.claiming request) store).2 =
        [.linking ⟨choice.newBundleId, request⟩] ∧
      Claimed store ⟨choice.newBundleId, request⟩
        (settlementTurn choice (.claiming request) store).1 ∧
      ∀ id ∉ request.invoiceIds,
        (settlementTurn choice (.claiming request) store).1.row? id = store.row? id)

/-- The roll-back of a call, whenever it runs, leaves the invoices as they were before the
claim: it puts them back itself, or finds the bundle gone, when they had been put back
before and it changes nothing. -/
def FailureRestores (before : SettlementStore) (claim : SettlementClaim) (start : SettlementWorld) :
    Prop :=
  ∀ shared rest thrown choice,
    settlements.Reaches start ⟨shared, .rollingBack claim thrown ::ₘ rest⟩ →
    choice.fault = none →
    (shared.Live claim.bundleId → ∀ id ∈ claim.request.invoiceIds,
      (settlementTurn choice (.rollingBack claim thrown) shared).1.row? id = before.row? id) ∧
    (¬ shared.Live claim.bundleId →
      (settlementTurn choice (.rollingBack claim thrown) shared).1 = shared ∧
      HandedBack before claim start ⟨shared, .rollingBack claim thrown ::ₘ rest⟩)

section Right

variable {choice : SettlementChoice} {store shared : SettlementStore} {world : SettlementWorld}
  {request : SettlementRequest} {claim : SettlementClaim} {rest : Multiset SettlementThread}

theorem SettlementKept.oneBundle (hkept : SettlementKept world) : OneBundle world := by
  refine ⟨hkept.foreignKeys, ?_⟩
  intro thread hthread other hother claim claim' hclaim hclaim' hlive hlive' id hid hid'
  have hin := hkept.whole thread hthread claim hclaim hlive id hid
  have hin' := hkept.whole other hother claim' hclaim' hlive' id hid'
  exact Option.some.inj (hin.symm.trans hin')

theorem SettlementKept.allOrNone (hkept : SettlementKept world) : AllOrNone world := by
  intro thread hthread claim hclaim id hid
  constructor
  · exact hkept.foreignKeys id claim.bundleId
  · exact fun hlive => hkept.whole thread hthread claim hclaim hlive id hid

theorem claimsWhole (choice : SettlementChoice) (request : SettlementRequest)
    (store : SettlementStore) : ClaimsWhole choice request store := by
  unfold ClaimsWhole settlementTurn
  cases choice.fault with
  | some error => exact .inl ⟨rfl, error, rfl⟩
  | none =>
      simp only
      rcases houtcome : (claimSettlement request choice.newBundleId choice.now).outcome store
        with ⟨error | claim, after⟩
      · exact .inl ⟨settlementTransaction_throws houtcome, error, rfl⟩
      · obtain ⟨rfl, hfree, hchanged⟩ := SettlementStore.commits_claimSettlement houtcome
        refine .inr ⟨rfl, ?_, ?_⟩
        · intro id hid
          obtain ⟨order, hfind, hclaimable⟩ := hfree id hid
          have hrow : store.row? id = some (order, store.marks id) := by
            rw [SettlementStore.row?, hfind]
            rfl
          refine ⟨_, hrow, hclaimable.2.2.2.2, ?_⟩
          rw [hchanged.rows, hrow, Option.map_some, SettlementStore.claimRow, if_pos hclaimable]
        · intro id hid
          rw [hchanged.rows]
          unfold SettlementStore.row?
          cases hfind : store.orders.find? id with
          | none => rfl
          | some order =>
              have hnot : ¬ request.Claimable order := by
                intro hclaimable
                apply hid
                rw [← Table.key_of_find? hfind]
                exact hclaimable.1
              rw [Option.map_some, Option.map_some, SettlementStore.claimRow, if_neg hnot]

theorem deleteBundle_commits {bundleId : Uuid} (hlive : shared.Live bundleId) :
    ∃ after, (deleteBundle bundleId).Commits shared () after := by
  have hknown : (reads fun store => decide (store.Live bundleId) : SettlementTx Bool).Commits
      shared true shared := commits_reads.2 ⟨decide_eq_true hlive, rfl⟩
  exact ⟨_, commits_bind.2 ⟨true, shared, hknown,
    commits_bind.2 ⟨(), shared, commits_require.2 ⟨rfl, rfl⟩, commits_modify.2 rfl⟩⟩⟩

theorem rollBackSettlement_commits (hlive : shared.Live claim.bundleId) :
    ∃ after, (rollBackSettlement claim).Commits shared () after := by
  have hstill : (shared.updateOrders claim.Holds (withBundle none) (withBundle_id none) id).Live
      claim.bundleId := hlive
  obtain ⟨after, hdeleted⟩ := deleteBundle_commits hstill
  exact ⟨after, commits_atomically.2 (commits_bind.2 ⟨(), _, commits_modify.2 rfl, hdeleted⟩)⟩

theorem Since.failureRestores {before : SettlementStore} {start : SettlementWorld}
    (hkept : SettlementKept start) (hclaimed : Claimed before claim start.shared)
    (hsince : Since before claim start start) : FailureRestores before claim start := by
  intro shared rest thrown choice hreach hfault
  have hthere := Since.of_reaches hkept hclaimed hsince hreach
  have hmem : SettlementThread.rollingBack claim thrown ∈
      (SettlementThread.rollingBack claim thrown ::ₘ rest) := Multiset.mem_cons_self ..
  have hwaits : (SettlementThread.rollingBack claim thrown).Waits claim := .inr ⟨thrown, rfl⟩
  unfold settlementTurn
  rw [hfault]
  constructor
  · intro hlive id hid
    obtain ⟨after, hcommits⟩ := rollBackSettlement_commits hlive
    obtain ⟨_, hchanged⟩ := SettlementStore.commits_rollBackSettlement hcommits
    obtain ⟨row, hrow, hfree, hstart⟩ := hclaimed id hid
    have hheld := hthere.held _ hmem hwaits hlive id hid
    have houtcome : (rollBackSettlement claim).outcome shared = (.ok (), after) := hcommits
    simp only [houtcome]
    obtain ⟨order, marks⟩ := row
    have hin : (withBundle (some claim.bundleId) order, marks).1.posPaymentBundleId =
      some claim.bundleId := rfl
    rw [hchanged.rows, hheld, hstart, hrow, Option.map_some,
      SettlementStore.dropRow_of_bundle hin, if_pos rfl]
    cases order
    cases hfree
    rfl
  · intro hgone
    refine ⟨?_, hthere.handedBack _ hmem hwaits hgone⟩
    rcases houtcome : (rollBackSettlement claim).outcome shared with ⟨error | _, after⟩
    · simp only [houtcome]
      exact settlementTransaction_throws houtcome
    · exact absurd (SettlementStore.commits_rollBackSettlement houtcome).1 hgone

theorem Since.refl {before : SettlementStore} {start : SettlementWorld}
    (hcaller : SettlementThread.linking claim ∈ start.pending)
    (hlive : start.shared.Live claim.bundleId) : Since before claim start start where
  pending := ⟨_, hcaller, rfl⟩
  held := fun _ _ _ _ _ _ => rfl
  handedBack := fun _ _ _ hgone => absurd hlive hgone

/-- In every interleaving of calls and cleanups, an order is in one live bundle at most and
every call holds all of its invoices or none.  A call whose link fails leaves its invoices as
they were before it; if a cleanup took its bundle meanwhile, that cleanup gave them back so. -/
theorem settlementLinks_right (hforeign : store.ForeignKeys)
    (hreach : settlements.Reaches ⟨store, 0⟩ world) :
    OneBundle world ∧ AllOrNone world ∧
      ∀ choice request rest, world.pending = .claiming request ::ₘ rest →
        settlements.admits choice (.claiming request) world.shared rest →
        ClaimsWhole choice request world.shared ∧
        ∀ after, settlementTurn choice (.claiming request) world.shared =
            (after, [.linking ⟨choice.newBundleId, request⟩]) →
          FailureRestores world.shared ⟨choice.newBundleId, request⟩
            ⟨after, .linking ⟨choice.newBundleId, request⟩ ::ₘ rest⟩ := by
  have hkept := SettlementKept.of_reaches hforeign hreach
  refine ⟨hkept.oneBundle, hkept.allOrNone, ?_⟩
  intro choice request rest hpending hadmits
  have hwhole := claimsWhole choice request world.shared
  refine ⟨hwhole, ?_⟩
  intro after hturn
  obtain ⟨next, hnext, hstep⟩ := settlementTurn_step choice world.shared hadmits.1
  rw [hturn] at hnext hstep
  obtain rfl := List.singleton_inj.1 hnext
  have hbefore : SettlementKept ⟨world.shared, .claiming request ::ₘ rest⟩ := by
    rw [← hpending]
    exact hkept
  have hafter := hbefore.step hadmits.2.2 hstep
  rcases hwhole with ⟨_, error, hthrown⟩ | ⟨_, hclaimed, _⟩
  · rw [hturn] at hthrown
    cases hthrown
  · rw [hturn] at hclaimed
    have hlive : after.Live choice.newBundleId := by
      cases hstep with
      | claims _ hchanged => exact (hchanged.live _).2 (.inl rfl)
      | aside hclaim => cases hclaim
      | drops _ _ hclaim => cases hclaim
    exact Since.failureRestores hafter hclaimed (.refl (Multiset.mem_cons_self ..) hlive)

end Right

def LeftAsBefore (before : SettlementStore) (claim : SettlementClaim) (start : SettlementWorld) :
    Prop :=
  ∀ shared rest thrown choice,
    settlements.Reaches start ⟨shared, .rollingBack claim thrown ::ₘ rest⟩ →
    settlements.admits choice (.rollingBack claim thrown) shared rest → choice.fault = none →
    ∀ id ∈ claim.request.invoiceIds,
      (settlementTurn choice (.rollingBack claim thrown) shared).1.row? id = before.row? id

theorem reaches_next (choice : SettlementChoice) {shared : SettlementStore}
    (after : SettlementStore) {thread : SettlementThread} (next : SettlementThread)
    {rest : Multiset SettlementThread} {start : SettlementWorld}
    (hreach : settlements.Reaches start ⟨shared, thread ::ₘ rest⟩)
    (hadmits : settlements.admits choice thread shared rest)
    (hturn : settlementTurn choice thread shared = (after, [next])) :
    settlements.Reaches start ⟨after, next ::ₘ rest⟩ := by
  have hafter := hreach.take_turn choice hadmits
  change settlements.Reaches start ⟨(settlementTurn choice thread shared).1,
    ((settlementTurn choice thread shared).2 : Multiset _) + rest⟩ at hafter
  rw [hturn] at hafter
  exact hafter

namespace Sample

def invoicedShop : Db :=
  { shop ⟨0, 0⟩ (oneOrder "order") with
    journal := [⟨"INVOICE", [], "owner", some "customer", some "order",
      [⟨.ACCOUNTS_RECEIVABLE, 20000, 0⟩, ⟨.REVENUE, 0, 20000⟩]⟩] }

/-- One order without a link; a full-balance reminder has locked it. -/
def unlinkedStore : SettlementStore where
  orders := oneOrder "order"
  bundles := .empty
  marks := fun _ => ⟨true, none⟩
  bundleCreatedAt := fun _ => 0

def gatewayDown (minute : ℕ) (newBundleId : Uuid) : SettlementChoice where
  env := { Env.default with useJournalAsSource := true }
  seen := ⟨invoicedShop, invoicedShop, invoicedShop⟩
  now := minute * 60000
  newBundleId := newBundleId
  gateway := .error (.serviceUnavailable "Cannot reach UPayments")
  fault := none

def settlementCall : SettlementLinkParams := ⟨"customer", ["order", " order"], "owner"⟩

def settlementRequest : SettlementRequest := ⟨"customer", ["order"], "owner", 20000⟩

def settlementClaim : SettlementClaim := ⟨"bundle", settlementRequest⟩

def claimedStore : SettlementStore :=
  (settlementTurn (gatewayDown 0 "bundle") (.claiming settlementRequest) unlinkedStore).1

def releasedStore : SettlementStore :=
  (settlementTurn (gatewayDown 60 "other") (.releasing ["bundle"]) claimedStore).1

theorem gatewayDown_admits {minute : ℕ} {newBundleId : Uuid} {thread : SettlementThread}
    {store : SettlementStore} {rest : Multiset SettlementThread} (hended : ¬ thread.Ended)
    (hlive : ¬ store.Live newBundleId)
    (hfresh : ∀ other ∈ thread ::ₘ rest, other.bundleId? ≠ some newBundleId) :
    settlements.admits (gatewayDown minute newBundleId) thread store rest :=
  ⟨hended, hlive, hfresh⟩

theorem claiming_reached : settlements.Reaches ⟨unlinkedStore, 0⟩
    ⟨unlinkedStore, .claiming settlementRequest ::ₘ 0⟩ := by
  have hcall : settlements.Reaches ⟨unlinkedStore, 0⟩ ⟨unlinkedStore, .call settlementCall ::ₘ 0⟩ :=
    Threads.Reaches.start_thread .refl (SettlementThread.call settlementCall) trivial
  refine reaches_next (gatewayDown 0 "bundle") _ _ hcall ?_ ?_
  · exact gatewayDown_admits (fun hended => hended) (by decide) (by decide)
  · exact Prod.ext rfl (by decide +kernel)

theorem claiming_turn :
    settlementTurn (gatewayDown 0 "bundle") (.claiming settlementRequest) unlinkedStore =
      (claimedStore, [.linking settlementClaim]) :=
  Prod.ext rfl (by decide +kernel)

theorem released_reached : settlements.Reaches ⟨claimedStore, .linking settlementClaim ::ₘ 0⟩
    ⟨releasedStore, .rollingBack settlementClaim (.serviceUnavailable "Cannot reach UPayments") ::ₘ
      .cleaned ::ₘ 0⟩ := by
  have hcleanup : settlements.Reaches ⟨claimedStore, .linking settlementClaim ::ₘ 0⟩
      ⟨claimedStore, .cleanup 15 ::ₘ .linking settlementClaim ::ₘ 0⟩ :=
    Threads.Reaches.start_thread .refl (SettlementThread.cleanup 15) trivial
  have hread := reaches_next (gatewayDown 60 "other") claimedStore (.releasing ["bundle"]) hcleanup
    (gatewayDown_admits (fun hended => hended) (by decide +kernel) (by decide))
    (Prod.ext rfl (by decide +kernel))
  have hreleased := reaches_next (gatewayDown 60 "other") releasedStore .cleaned hread
    (gatewayDown_admits (fun hended => hended) (by decide +kernel) (by decide))
    (Prod.ext rfl (by decide +kernel))
  rw [Multiset.cons_swap] at hreleased
  exact reaches_next (gatewayDown 61 "other") _ _ hreleased
    (gatewayDown_admits (fun hended => hended) (by decide +kernel) (by decide))
    (Prod.ext rfl (by decide +kernel))

end Sample

/-- A call whose gateway is down. -/
theorem settlementLinks_right_sample :
    FailureRestores Sample.unlinkedStore Sample.settlementClaim
      ⟨Sample.claimedStore, .linking Sample.settlementClaim ::ₘ 0⟩ := by
  have hforeign : Sample.unlinkedStore.ForeignKeys := by
    intro id bundleId hbundle
    obtain ⟨row, hrow, hin⟩ := SettlementStore.row_of_bundleOf hbundle
    obtain ⟨order, hfind, rfl⟩ := Option.map_eq_some_iff.1 hrow
    have horder := Table.mem_of_find? hfind
    rw [List.mem_singleton.1 horder] at hin
    cases hin
  have hright := settlementLinks_right hforeign Sample.claiming_reached
  exact (hright.2.2 (Sample.gatewayDown 0 "bundle") Sample.settlementRequest 0 rfl
    (Sample.gatewayDown_admits (fun hended => hended) (by decide) (by decide))).2 _
    Sample.claiming_turn

theorem settlementLinks_fails :
    settlements.Reaches ⟨Sample.unlinkedStore, 0⟩
        ⟨Sample.unlinkedStore, .claiming Sample.settlementRequest ::ₘ 0⟩ ∧
      settlementTurn (Sample.gatewayDown 0 "bundle") (.claiming Sample.settlementRequest)
          Sample.unlinkedStore = (Sample.claimedStore, [.linking Sample.settlementClaim]) ∧
      ¬ LeftAsBefore Sample.unlinkedStore Sample.settlementClaim
        ⟨Sample.claimedStore, .linking Sample.settlementClaim ::ₘ 0⟩ := by
  refine ⟨Sample.claiming_reached, Sample.claiming_turn, ?_⟩
  intro hleft
  have hsame := hleft _ _ _ (Sample.gatewayDown 61 "other") Sample.released_reached
    (Sample.gatewayDown_admits (fun hended => hended) (by decide +kernel) (by decide)) rfl
    "order" (by decide)
  revert hsame
  decide +kernel

end SafariLaundry
