import SafariLaundry.Domain
import SafariLaundry.Library.History
import SafariLaundry.Library.Selection

/-!
# The offline queue

Mutations made offline wait in a table of the browser and are posted one by one once it is
online.  A flush takes the table as it finds it; a row is deleted after a good answer, and the
first failure ends the flush.  A post is on its way on its own: the server may apply it although
the answer is lost or the tab is gone.
-/

namespace SafariLaundry

open Library List

inductive OfflineMutationKind
  | pos_checkout | payment | debt_settlement | generic_post

structure PendingMutationRecord where
  id : Uuid
  kind : OfflineMutationKind
  (path payloadJson : String)
  createdAt : Timestamp
  attempts : ℕ
  lastError : Option String

inductive PostStatus
  | travelling | accepted | refused | lost
  deriving DecidableEq

/-- A request that a flush has sent. -/
structure MutationPost where
  (id mutationId : Uuid)
  (path payloadJson : String)
  status : PostStatus

/-- Where a flush stands with the first row of its queue: before its post, before the answer, or
between the two accesses of `bumpMutationFailure`. -/
inductive FlushPhase
  | ready
  | awaiting (postId : Uuid)
  | bumping (read : Option PendingMutationRecord) (error : String)

structure FlushRun where
  queue : List PendingMutationRecord
  phase : FlushPhase

structure OfflineSystem where
  pendingMutations : Table PendingMutationRecord.id
  flushes : ℕ → Option FlushRun
  posts : Table MutationPost.id
  /-- Not a table: the mutations that were enqueued, oldest first. -/
  enqueued : List Uuid

/-- The order of the index on `createdAt`: rows of one time by their ids. -/
def FifoOrder (first second : PendingMutationRecord) : Prop :=
  first.createdAt < second.createdAt ∨ first.createdAt = second.createdAt ∧ first.id ≤ second.id
  deriving Decidable

structure EnqueueOpts where
  kind : OfflineMutationKind
  path : String
  /-- `JSON.stringify(opts.body ?? {})`. -/
  payloadJson : String

def EnqueueOpts.record (opts : EnqueueOpts) (id : Uuid) (now : Timestamp) :
    PendingMutationRecord where
  id := id
  kind := opts.kind
  path := if opts.path.startsWith "/" then opts.path else "/" ++ opts.path
  payloadJson := opts.payloadJson
  createdAt := now
  attempts := 0
  lastError := none

def PendingMutationRecord.bumped (error : String) (row : PendingMutationRecord) :
    PendingMutationRecord :=
  { row with
    attempts := row.attempts + 1
    lastError := some (String.ofList (error.toList.take 500)) }

def MutationPost.ofRow (row : PendingMutationRecord) (id : Uuid) : MutationPost :=
  ⟨id, row.id, row.path, row.payloadJson, .travelling⟩

def MutationPost.settled (status : PostStatus) (post : MutationPost) : MutationPost :=
  { post with status := status }

theorem MutationPost.settled_id (status : PostStatus) (post : MutationPost) :
    (post.settled status).id = post.id := rfl

namespace OfflineSystem

def listPendingFifo (system : OfflineSystem) : List PendingMutationRecord :=
  system.pendingMutations.rows.insertionSort FifoOrder

/-- `keys` draws the random ids: none that was drawn before. -/
def enqueuePendingMutation (keys : FreshKeys Uuid) (opts : EnqueueOpts) (now : Timestamp)
    (system : OfflineSystem) : OfflineSystem :=
  let id := keys.draw system.enqueued
  { system with
    pendingMutations := system.pendingMutations.upsert (opts.record id now)
    enqueued := system.enqueued ++ [id] }

def withFlush (tab : ℕ) (run : Option FlushRun) (system : OfflineSystem) : OfflineSystem :=
  { system with flushes := Function.update system.flushes tab run }

/-- `flushBusy` keeps a tab from a second flush, and no other tab from its own. -/
def startFlush (tab : ℕ) (system : OfflineSystem) : OfflineSystem :=
  match system.flushes tab with
  | some _ => system
  | none => system.withFlush tab (some ⟨system.listPendingFifo, .ready⟩)

def send (keys : FreshKeys Uuid) (tab : ℕ) (system : OfflineSystem) : OfflineSystem :=
  match system.flushes tab with
  | some ⟨[], .ready⟩ => system.withFlush tab none
  | some ⟨row :: rest, .ready⟩ =>
      { system with posts := system.posts.insertNew keys (MutationPost.ofRow row) fun _ => rfl }
        |>.withFlush tab
          (some ⟨row :: rest, .awaiting (keys.draw (system.posts.rows.map MutationPost.id))⟩)
  | _ => system

def settle (postId : Uuid) (status : PostStatus) (system : OfflineSystem) : OfflineSystem :=
  { system with
    posts := system.posts.updateWhere (fun post => post.id = postId ∧ post.status = .travelling)
      (MutationPost.settled status) (MutationPost.settled_id status) }

def answer (tab : ℕ) (system : OfflineSystem) : OfflineSystem :=
  match system.flushes tab with
  | some ⟨row :: rest, .awaiting postId⟩ =>
      if ∃ post ∈ system.posts.find? postId, post.status = .accepted then
        { system with pendingMutations := system.pendingMutations.delete row.id }
          |>.withFlush tab (some ⟨rest, .ready⟩)
      else system
  | _ => system

def fail (tab : ℕ) (error : String) (system : OfflineSystem) : OfflineSystem :=
  match system.flushes tab with
  | some ⟨row :: rest, .awaiting _⟩ =>
      system.withFlush tab
        (some ⟨row :: rest, .bumping (system.pendingMutations.find? row.id) error⟩)
  | _ => system

def bump (tab : ℕ) (system : OfflineSystem) : OfflineSystem :=
  match system.flushes tab with
  | some ⟨_, .bumping (some row) error⟩ =>
      { system with
        pendingMutations := system.pendingMutations.upsert (row.bumped error) }
        |>.withFlush tab none
  | some ⟨_, .bumping none _⟩ => system.withFlush tab none
  | _ => system

end OfflineSystem

inductive QueueStep
  | enqueue (keys : FreshKeys Uuid) (opts : EnqueueOpts) (now : Timestamp)
  | startFlush (tab : ℕ)
  | send (keys : FreshKeys Uuid) (tab : ℕ)
  | arrive (postId : Uuid) (accepts : Bool)
  | lose (postId : Uuid)
  | answer (tab : ℕ)
  | fail (tab : ℕ) (error : String)
  | bump (tab : ℕ)
  | stop (tab : ℕ)

def queueSteps : Calls OfflineSystem QueueStep where
  step := fun step system =>
    match step with
    | .enqueue keys opts now => system.enqueuePendingMutation keys opts now
    | .startFlush tab => system.startFlush tab
    | .send keys tab => system.send keys tab
    | .arrive postId accepts =>
        system.settle postId (if accepts then .accepted else .refused)
    | .lose postId => system.settle postId .lost
    | .answer tab => system.answer tab
    | .fail tab error => system.fail tab error
    | .bump tab => system.bump tab
    | .stop tab => system.withFlush tab none
  seen := fun _ => []

namespace OfflineSystem

def pendingIds (system : OfflineSystem) : List Uuid :=
  system.pendingMutations.rows.map PendingMutationRecord.id

def applied (system : OfflineSystem) : List Uuid :=
  (system.posts.rows.filter fun post => post.status = .accepted).map MutationPost.mutationId

end OfflineSystem

/-- Mutations are sent in the order in which they were enqueued, none is dropped before the
server has accepted it, and none is applied twice. -/
structure QueueSound (system : OfflineSystem) : Prop where
  inOrder : system.posts.rows.Pairwise fun earlier later =>
    system.enqueued.idxOf earlier.mutationId ≤ system.enqueued.idxOf later.mutationId
  noneDropped : ∀ id ∈ system.enqueued, id ∈ system.pendingIds ∨ id ∈ system.applied
  appliedOnce : system.applied.Nodup

def OfflineSystem.WaitsForNone (tab : ℕ) (system : OfflineSystem) : Prop :=
  ∀ run postId, system.flushes tab = some run → run.phase = .awaiting postId →
    ∃ post ∈ system.posts.find? postId, post.status = .refused ∨ post.status = .lost

/-- A mutation sorts after those that are pending; no other tab flushes when a flush starts; and
a flush fails or is stopped on no post that the server accepts. -/
def QueueStep.Orderly (system : OfflineSystem) : QueueStep → Prop
  | .enqueue keys opts now => ∀ row ∈ system.pendingMutations.rows,
      FifoOrder row (opts.record (keys.draw system.enqueued) now)
  | .startFlush tab => ∀ other, other ≠ tab → system.flushes other = none
  | .fail tab _ | .stop tab => system.WaitsForNone tab
  | _ => True

variable {system : OfflineSystem} {tab : ℕ} {run : FlushRun}

/-! ## What is kept -/

def OfflineSystem.Waits (system : OfflineSystem) (post : MutationPost) : Prop :=
  post.status = .travelling ∨ post.status = .accepted ∧ post.mutationId ∈ system.pendingIds

structure RecordsKept (system : OfflineSystem) : Prop where
  sound : QueueSound system
  distinct : system.enqueued.Nodup
  suffix : system.pendingIds <:+ system.enqueued
  sorted : system.pendingMutations.rows.Pairwise FifoOrder
  sent : ∀ post ∈ system.posts.rows, post.mutationId ∈ system.enqueued ∧
    (post.mutationId ∈ system.pendingIds → system.pendingIds.head? = some post.mutationId)

/-- At most one flush is on its way, through the first of the pending mutations, and it awaits
the one post that may matter. -/
structure QueueKept (system : OfflineSystem) : Prop where
  records : RecordsKept system
  waiting : ∀ post ∈ system.posts.rows, system.Waits post →
    ∃ tab run, system.flushes tab = some run ∧ run.phase = .awaiting post.id
  alone : ∀ tab other, system.flushes tab ≠ none → system.flushes other ≠ none → tab = other
  queued : ∀ tab run, system.flushes tab = some run →
    run.queue.map PendingMutationRecord.id <+: system.pendingIds
  awaited : ∀ tab run postId, system.flushes tab = some run → run.phase = .awaiting postId →
    ∃ post, system.posts.find? postId = some post ∧
      (run.queue.map PendingMutationRecord.id).head? = some post.mutationId
  reread : ∀ tab run row error, system.flushes tab = some run →
    run.phase = .bumping (some row) error → row ∈ system.pendingMutations.rows

theorem RecordsKept.withFlush (hrecords : RecordsKept system)
    (hothers : ∀ other, other ≠ tab → system.flushes other = none) (run : Option FlushRun)
    (hwaiting : ∀ post ∈ system.posts.rows, system.Waits post →
      ∃ r, run = some r ∧ r.phase = .awaiting post.id)
    (hqueued : ∀ r, run = some r → r.queue.map PendingMutationRecord.id <+: system.pendingIds)
    (hawaited : ∀ r postId, run = some r → r.phase = .awaiting postId →
      ∃ post, system.posts.find? postId = some post ∧
        (r.queue.map PendingMutationRecord.id).head? = some post.mutationId)
    (hreread : ∀ r row error, run = some r → r.phase = .bumping (some row) error →
      row ∈ system.pendingMutations.rows) : QueueKept (system.withFlush tab run) := by
  have hself : (system.withFlush tab run).flushes tab = run := Function.update_self ..
  have honly : ∀ other r, (system.withFlush tab run).flushes other = some r →
      other = tab ∧ run = some r := by
    intro other r hrun
    by_cases hother : other = tab
    · rw [hother, hself] at hrun
      exact ⟨hother, hrun⟩
    · change Function.update system.flushes tab run other = some r at hrun
      rw [Function.update_of_ne hother, hothers other hother] at hrun
      cases hrun
  constructor
  case records =>
    exact ⟨⟨hrecords.sound.inOrder, hrecords.sound.noneDropped, hrecords.sound.appliedOnce⟩,
      hrecords.distinct, hrecords.suffix, hrecords.sorted, hrecords.sent⟩
  case waiting =>
    intro post hpost hwaits
    obtain ⟨r, hrun, hphase⟩ := hwaiting post hpost hwaits
    exact ⟨tab, r, hself.trans hrun, hphase⟩
  case alone =>
    intro first second hfirst hsecond
    obtain ⟨r, hr⟩ := Option.ne_none_iff_exists'.1 hfirst
    obtain ⟨r', hr'⟩ := Option.ne_none_iff_exists'.1 hsecond
    rw [(honly first r hr).1, (honly second r' hr').1]
  case queued =>
    intro other r hrun
    exact hqueued r (honly other r hrun).2
  case awaited =>
    intro other r postId hrun
    exact hawaited r postId (honly other r hrun).2
  case reread =>
    intro other r row error hrun
    exact hreread r row error (honly other r hrun).2

theorem fifoOrder_view {rows : List PendingMutationRecord} :
    rows.Pairwise FifoOrder ↔
      (rows.map fun row => (row.createdAt, row.id)).Pairwise fun first second =>
        first.1 < second.1 ∨ first.1 = second.1 ∧ first.2 ≤ second.2 := by
  rw [pairwise_map]
  rfl

theorem applied_nodup_iff : system.applied.Nodup ↔ system.posts.rows.Pairwise fun first second =>
    first.status = .accepted → second.status = .accepted →
      first.mutationId ≠ second.mutationId := by
  unfold OfflineSystem.applied List.Nodup
  rw [pairwise_map, pairwise_filter]
  simp only [decide_eq_true_eq]

namespace QueueKept

theorem eq_of_runs (hkept : QueueKept system) {other : ℕ} {otherRun : FlushRun}
    (hrun : system.flushes tab = some run) (hother : system.flushes other = some otherRun) :
    otherRun = run := by
  have hsame : tab = other := hkept.alone tab other (by rw [hrun]; exact Option.some_ne_none _)
    (by rw [hother]; exact Option.some_ne_none _)
  rw [← hsame, hrun] at hother
  exact (Option.some.inj hother).symm

theorem phase_of_waits (hkept : QueueKept system) (hrun : system.flushes tab = some run)
    {post : MutationPost} (hpost : post ∈ system.posts.rows) (hwaits : system.Waits post) :
    run.phase = .awaiting post.id := by
  obtain ⟨other, otherRun, hother, hphase⟩ := hkept.waiting post hpost hwaits
  rw [← hkept.eq_of_runs hrun hother]
  exact hphase

theorem others_none (hkept : QueueKept system) (hrun : system.flushes tab = some run) :
    ∀ other, other ≠ tab → system.flushes other = none := by
  intro other hother
  by_contra hbusy
  exact hother (hkept.alone other tab hbusy (by rw [hrun]; exact Option.some_ne_none _))

theorem endFlush (hkept : QueueKept system) (hrun : system.flushes tab = some run)
    (hnone : ∀ post ∈ system.posts.rows, ¬ system.Waits post) :
    QueueKept (system.withFlush tab none) := by
  apply hkept.records.withFlush (hkept.others_none hrun)
  · intro post hpost hwaits
    exact absurd hwaits (hnone post hpost)
  · rintro _ ⟨⟩
  · rintro _ _ ⟨⟩
  · rintro _ _ _ ⟨⟩

theorem none_waits (hkept : QueueKept system) (hrun : system.flushes tab = some run)
    (hphase : ∀ postId, run.phase ≠ .awaiting postId) :
    ∀ post ∈ system.posts.rows, ¬ system.Waits post :=
  fun post hpost hwaits => hphase post.id (hkept.phase_of_waits hrun hpost hwaits)

theorem none_waits_of_failed (hkept : QueueKept system) (hrun : system.flushes tab = some run)
    (hfailed : system.WaitsForNone tab) :
    ∀ post ∈ system.posts.rows, ¬ system.Waits post := by
  intro post hpost hwaits
  have hphase := hkept.phase_of_waits hrun hpost hwaits
  obtain ⟨found, hfound, hstatus⟩ := hfailed run post.id hrun hphase
  obtain rfl := Option.some.inj ((Table.find?_of_mem hpost).symm.trans hfound)
  rcases hwaits with htravels | ⟨haccepted, _⟩
  · rw [htravels] at hstatus
    rcases hstatus with hsame | hsame
    · cases hsame
    · cases hsame
  · rw [haccepted] at hstatus
    rcases hstatus with hsame | hsame
    · cases hsame
    · cases hsame

theorem listPendingFifo_eq (hkept : QueueKept system) :
    system.listPendingFifo = system.pendingMutations.rows :=
  hkept.records.sorted.insertionSort_eq

/-! ## The steps -/

theorem startFlush (hkept : QueueKept system)
    (hothers : ∀ other, other ≠ tab → system.flushes other = none) :
    QueueKept (system.startFlush tab) := by
  unfold OfflineSystem.startFlush
  cases hrun : system.flushes tab with
  | some run => exact hkept
  | none =>
      have hidle : ∀ other, system.flushes other = none := by
        intro other
        by_cases hother : other = tab
        · rw [hother, hrun]
        · exact hothers other hother
      apply hkept.records.withFlush hothers
      · intro post hpost hwaits
        obtain ⟨other, run, hbusy, _⟩ := hkept.waiting post hpost hwaits
        rw [hidle other] at hbusy
        cases hbusy
      · rintro _ ⟨⟩
        rw [hkept.listPendingFifo_eq]
        exact prefix_rfl
      · rintro _ _ ⟨⟩ hphase
        cases hphase
      · rintro _ _ _ ⟨⟩ hphase
        cases hphase

theorem fail (hkept : QueueKept system) (hfailed : system.WaitsForNone tab) (error : String) :
    QueueKept (system.fail tab error) := by
  unfold OfflineSystem.fail
  split
  case h_2 => exact hkept
  case h_1 row rest postId hrun =>
    apply hkept.records.withFlush (hkept.others_none hrun)
    · intro post hpost hwaits
      exact absurd hwaits (hkept.none_waits_of_failed hrun hfailed post hpost)
    · rintro _ ⟨⟩
      exact hkept.queued tab ⟨row :: rest, .awaiting postId⟩ hrun
    · rintro _ _ ⟨⟩ hphase
      cases hphase
    · rintro _ read _ ⟨⟩ hphase
      have hread := (FlushPhase.bumping.inj hphase).1
      exact Table.mem_of_find? hread

theorem stop (hkept : QueueKept system) (hfailed : system.WaitsForNone tab) :
    QueueKept (system.withFlush tab none) := by
  cases hrun : system.flushes tab with
  | some run => exact hkept.endFlush hrun (hkept.none_waits_of_failed hrun hfailed)
  | none =>
      have hsame : system.withFlush tab none = system := by
        unfold OfflineSystem.withFlush
        rw [← hrun, Function.update_eq_self]
      rw [hsame]
      exact hkept

theorem head_pendingIds (hkept : QueueKept system) {row : PendingMutationRecord}
    {rest : List PendingMutationRecord} {phase : FlushPhase}
    (hrun : system.flushes tab = some ⟨row :: rest, phase⟩) :
    ∃ others, system.pendingIds = row.id :: others ∧
      rest.map PendingMutationRecord.id <+: others := by
  obtain ⟨added, hadded⟩ := hkept.queued tab _ hrun
  exact ⟨rest.map PendingMutationRecord.id ++ added, hadded.symm, prefix_append _ _⟩

variable {others : List Uuid}

theorem idxOf_le_head (hkept : QueueKept system) {id : Uuid}
    (hpending : system.pendingIds = id :: others) {post : MutationPost}
    (hpost : post ∈ system.posts.rows) :
    system.enqueued.idxOf post.mutationId ≤ system.enqueued.idxOf id := by
  obtain ⟨henqueued, hfirst⟩ := hkept.records.sent post hpost
  obtain ⟨done, hdone⟩ := hkept.records.suffix
  rw [hpending] at hdone
  by_cases hmem : post.mutationId ∈ system.pendingIds
  · have hhead := hfirst hmem
    rw [hpending] at hhead
    rw [Option.some.inj hhead]
  · rw [← hdone] at henqueued
    have hmem' : post.mutationId ∈ done := by
      rcases mem_append.1 henqueued with hin | hin
      · exact hin
      · rw [hpending] at hmem
        exact absurd hin hmem
    have hnot : id ∉ done := by
      have hdistinct := hkept.records.distinct
      rw [← hdone] at hdistinct
      exact fun hin => disjoint_of_nodup_append hdistinct hin (mem_cons_self ..)
    rw [← hdone, idxOf_append_of_mem hmem', idxOf_append_of_notMem hnot]
    have hlt := idxOf_lt_length_of_mem hmem'
    omega

theorem send (hkept : QueueKept system) (keys : FreshKeys Uuid) (tab : ℕ) :
    QueueKept (system.send keys tab) := by
  unfold OfflineSystem.send
  split
  case h_1 hrun =>
    exact hkept.endFlush hrun (hkept.none_waits hrun fun _ hphase => nomatch hphase)
  case h_3 => exact hkept
  case h_2 row rest hrun =>
    obtain ⟨others, hpending, _⟩ := hkept.head_pendingIds hrun
    have hnone := hkept.none_waits hrun fun _ hphase => nomatch hphase
    let post := MutationPost.ofRow row (keys.draw (system.posts.rows.map MutationPost.id))
    let sent : OfflineSystem :=
      { system with posts := system.posts.insertNew keys (MutationPost.ofRow row) fun _ => rfl }
    have hpost : post ∈ sent.posts.rows :=
      mem_append_right _ (mem_singleton_self _)
    have happlied : sent.applied = system.applied := by
      change ((system.posts.rows ++ [post]).filter _).map _ = _
      rw [filter_append, map_append,
        filter_cons_of_neg (by simp [post, MutationPost.ofRow])]
      exact append_nil _
    have hrecords : RecordsKept sent := by
      refine ⟨⟨?_, ?_, ?_⟩, hkept.records.distinct, hkept.records.suffix, hkept.records.sorted, ?_⟩
      · refine pairwise_append.2 ⟨hkept.records.sound.inOrder, pairwise_singleton _ _, ?_⟩
        intro earlier hearlier new hnew
        obtain rfl := mem_singleton.1 hnew
        exact hkept.idxOf_le_head hpending hearlier
      · rw [happlied]
        exact hkept.records.sound.noneDropped
      · rw [happlied]
        exact hkept.records.sound.appliedOnce
      · intro other hother
        rcases mem_append.1 hother with hold | hnew
        · exact hkept.records.sent other hold
        · obtain rfl := mem_singleton.1 hnew
          have hfirst : row.id ∈ system.pendingIds := hpending ▸ mem_cons_self ..
          refine ⟨hkept.records.suffix.subset hfirst, fun _ => ?_⟩
          change system.pendingIds.head? = some row.id
          rw [hpending, List.head?_cons]
    apply hrecords.withFlush (hkept.others_none hrun)
    · intro other hother hwaits
      rcases mem_append.1 hother with hold | hnew
      · exact absurd hwaits (hnone other hold)
      · obtain rfl := mem_singleton.1 hnew
        exact ⟨_, rfl, rfl⟩
    · rintro _ ⟨⟩
      exact hkept.queued tab ⟨row :: rest, .ready⟩ hrun
    · rintro _ _ ⟨⟩ hphase
      obtain rfl := FlushPhase.awaiting.inj hphase
      exact ⟨post, Table.find?_of_mem hpost, rfl⟩
    · rintro _ _ _ ⟨⟩ hphase
      cases hphase

theorem mem_applied {post : MutationPost} (hpost : post ∈ system.posts.rows)
    (hstatus : post.status = .accepted) : post.mutationId ∈ system.applied :=
  mem_map_of_mem (mem_filter.2 ⟨hpost, decide_eq_true hstatus⟩)

def deleted (id : Uuid) (system : OfflineSystem) : OfflineSystem :=
  { system with pendingMutations := system.pendingMutations.delete id }

theorem deleted_rows {id : Uuid} (hpending : system.pendingIds = id :: others) :
    (deleted id system).pendingIds = others ∧
      (deleted id system).pendingMutations.rows <:+ system.pendingMutations.rows := by
  obtain ⟨first, later, hrows, hrow, hlater⟩ := map_eq_cons_iff.1 hpending
  have hdeleted : (deleted id system).pendingMutations.rows = later := by
    change (system.pendingMutations.delete id).rows = later
    rw [← hrow]
    exact Table.rows_delete_of_cons hrows
  unfold OfflineSystem.pendingIds
  rw [hdeleted, hlater, hrows]
  exact ⟨rfl, suffix_cons first later⟩

theorem not_sent_behind (hkept : QueueKept system) {id : Uuid}
    (hpending : system.pendingIds = id :: others) {post : MutationPost}
    (hpost : post ∈ system.posts.rows) : post.mutationId ∉ others := by
  intro hmem
  have hdistinct : (id :: others).Nodup :=
    hpending ▸ hkept.records.suffix.sublist.nodup hkept.records.distinct
  have hhead := (hkept.records.sent post hpost).2 (hpending ▸ mem_cons_of_mem _ hmem)
  rw [hpending] at hhead
  rw [← Option.some.inj hhead] at hmem
  exact (nodup_cons.1 hdistinct).1 hmem

theorem records_deleted (hkept : QueueKept system) {id : Uuid}
    (hpending : system.pendingIds = id :: others) (happlied : id ∈ system.applied) :
    RecordsKept (deleted id system) := by
  obtain ⟨hids, hrows⟩ := deleted_rows hpending
  refine ⟨⟨hkept.records.sound.inOrder, ?_, hkept.records.sound.appliedOnce⟩,
    hkept.records.distinct, ?_, hkept.records.sorted.sublist hrows.sublist, ?_⟩
  · intro other hother
    rw [hids]
    rcases hkept.records.sound.noneDropped other hother with hmem | hdone
    · rw [hpending] at hmem
      rcases mem_cons.1 hmem with rfl | hmem
      · exact .inr happlied
      · exact .inl hmem
    · exact .inr hdone
  · rw [hids]
    exact (suffix_cons id others).trans (hpending ▸ hkept.records.suffix)
  · intro post hpost
    rw [hids]
    exact ⟨(hkept.records.sent post hpost).1,
      fun hmem => absurd hmem (hkept.not_sent_behind hpending hpost)⟩

theorem answer (hkept : QueueKept system) (tab : ℕ) : QueueKept (system.answer tab) := by
  unfold OfflineSystem.answer
  split
  case h_2 => exact hkept
  case h_1 row rest postId hrun =>
    by_cases haccepted : ∃ post ∈ system.posts.find? postId, post.status = .accepted
    · rw [if_pos haccepted]
      obtain ⟨post, hpost, hstatus⟩ := haccepted
      obtain ⟨found, hfound, hfirst⟩ := hkept.awaited tab _ postId hrun rfl
      obtain rfl := Option.some.inj (hpost.symm.trans hfound)
      have hid : row.id = post.mutationId := Option.some.inj hfirst
      have happlied : row.id ∈ system.applied :=
        hid ▸ mem_applied (Table.mem_of_find? hpost) hstatus
      obtain ⟨others, hpending, hrest⟩ := hkept.head_pendingIds hrun
      have hids : (deleted row.id system).pendingIds = others := (deleted_rows hpending).1
      apply (hkept.records_deleted hpending happlied).withFlush (hkept.others_none hrun)
      · intro other hother hwaits
        rcases hwaits with htravels | ⟨_, hmem⟩
        · have hphase := hkept.phase_of_waits hrun hother (.inl htravels)
          have hsame : system.posts.find? other.id = some other := Table.find?_of_mem hother
          rw [← FlushPhase.awaiting.inj hphase, hfound] at hsame
          obtain rfl := Option.some.inj hsame
          rw [htravels] at hstatus
          cases hstatus
        · rw [hids] at hmem
          exact absurd hmem (hkept.not_sent_behind hpending hother)
      · rintro _ ⟨⟩
        rw [hids]
        exact hrest
      · rintro _ _ ⟨⟩ hphase
        cases hphase
      · rintro _ _ _ ⟨⟩ hphase
        cases hphase
    · rw [if_neg haccepted]
      exact hkept

theorem bump (hkept : QueueKept system) (tab : ℕ) : QueueKept (system.bump tab) := by
  unfold OfflineSystem.bump
  split
  case h_3 => exact hkept
  case h_2 hrun =>
    exact hkept.endFlush hrun (hkept.none_waits hrun fun _ hphase => nomatch hphase)
  case h_1 queue row error hrun =>
    have hnone := hkept.none_waits hrun fun _ hphase => nomatch hphase
    have hstored := hkept.reread tab _ row error hrun rfl
    let put : OfflineSystem :=
      { system with pendingMutations := system.pendingMutations.upsert (row.bumped error) }
    have hids : put.pendingIds = system.pendingIds :=
      Table.view_upsert PendingMutationRecord.id hstored rfl rfl
    have hrecords : RecordsKept put := by
      refine ⟨⟨hkept.records.sound.inOrder, ?_, hkept.records.sound.appliedOnce⟩,
        hkept.records.distinct, ?_, ?_, ?_⟩
      · rw [hids]
        exact hkept.records.sound.noneDropped
      · rw [hids]
        exact hkept.records.suffix
      · have hview : put.pendingMutations.rows.map (fun r => (r.createdAt, r.id)) =
            system.pendingMutations.rows.map fun r => (r.createdAt, r.id) :=
          Table.view_upsert (fun r : PendingMutationRecord => (r.createdAt, r.id)) hstored rfl rfl
        rw [fifoOrder_view, hview, ← fifoOrder_view]
        exact hkept.records.sorted
      · rw [hids]
        exact hkept.records.sent
    apply hrecords.withFlush (hkept.others_none hrun)
    · intro post hpost hwaits
      unfold OfflineSystem.Waits at hwaits
      rw [hids] at hwaits
      exact absurd hwaits (hnone post hpost)
    · rintro _ ⟨⟩
    · rintro _ _ ⟨⟩
    · rintro _ _ _ ⟨⟩

theorem enqueued_rows (hkept : QueueKept system) (keys : FreshKeys Uuid) (opts : EnqueueOpts)
    (now : Timestamp) :
    (system.enqueuePendingMutation keys opts now).pendingMutations.rows =
        system.pendingMutations.rows ++ [opts.record (keys.draw system.enqueued) now] ∧
      (system.enqueuePendingMutation keys opts now).pendingIds =
        system.pendingIds ++ [keys.draw system.enqueued] := by
  have hrows : (system.enqueuePendingMutation keys opts now).pendingMutations.rows =
      system.pendingMutations.rows ++ [opts.record (keys.draw system.enqueued) now] :=
    Table.rows_upsert_of_fresh fun hmem =>
      keys.draw_fresh _ (hkept.records.suffix.subset hmem)
  refine ⟨hrows, ?_⟩
  unfold OfflineSystem.pendingIds
  rw [hrows, map_append]
  rfl

theorem pending_of_sent (hkept : QueueKept system) (keys : FreshKeys Uuid) {post : MutationPost}
    (hpost : post ∈ system.posts.rows)
    (hmem : post.mutationId ∈ system.pendingIds ++ [keys.draw system.enqueued]) :
    post.mutationId ∈ system.pendingIds := by
  rcases mem_append.1 hmem with hold | hnew
  · exact hold
  · have henqueued := (hkept.records.sent post hpost).1
    rw [mem_singleton.1 hnew] at henqueued
    exact absurd henqueued (keys.draw_fresh _)

theorem records_enqueue (hkept : QueueKept system) (keys : FreshKeys Uuid) (opts : EnqueueOpts)
    (now : Timestamp) (hafter : ∀ row ∈ system.pendingMutations.rows,
      FifoOrder row (opts.record (keys.draw system.enqueued) now)) :
    RecordsKept (system.enqueuePendingMutation keys opts now) := by
  let id := keys.draw system.enqueued
  obtain ⟨hrows, hids⟩ := hkept.enqueued_rows keys opts now
  have hposition : ∀ post ∈ system.posts.rows, (system.enqueued ++ [id]).idxOf post.mutationId =
        system.enqueued.idxOf post.mutationId :=
    fun post hpost => idxOf_append_of_mem (hkept.records.sent post hpost).1
  refine ⟨⟨?_, ?_, hkept.records.sound.appliedOnce⟩, ?_, ?_, ?_, ?_⟩
  · refine hkept.records.sound.inOrder.imp_of_mem ?_
    intro earlier later hearlier hlater hle
    change (system.enqueued ++ [id]).idxOf _ ≤ (system.enqueued ++ [id]).idxOf _
    rw [hposition earlier hearlier, hposition later hlater]
    exact hle
  · intro other hother
    rw [hids]
    rcases mem_append.1 hother with hold | hnew
    · exact (hkept.records.sound.noneDropped other hold).imp_left fun hmem =>
        mem_append_left _ hmem
    · exact .inl (mem_append_right _ hnew)
  · exact List.Nodup.append hkept.records.distinct (nodup_singleton id)
      (disjoint_singleton.2 (keys.draw_fresh _))
  · rw [hids]
    obtain ⟨done, hdone⟩ := hkept.records.suffix
    exact ⟨done, by rw [← append_assoc, hdone]; rfl⟩
  · rw [hrows]
    refine pairwise_append.2 ⟨hkept.records.sorted, pairwise_singleton _ _, ?_⟩
    intro row hrow new hnew
    rw [mem_singleton.1 hnew]
    exact hafter row hrow
  · intro post hpost
    rw [hids]
    refine ⟨mem_append_left _ (hkept.records.sent post hpost).1, fun hmem => ?_⟩
    rw [List.head?_append,
      (hkept.records.sent post hpost).2 (hkept.pending_of_sent keys hpost hmem)]
    rfl

theorem enqueue (hkept : QueueKept system) (keys : FreshKeys Uuid) (opts : EnqueueOpts)
    (now : Timestamp) (hafter : ∀ row ∈ system.pendingMutations.rows,
      FifoOrder row (opts.record (keys.draw system.enqueued) now)) :
    QueueKept (system.enqueuePendingMutation keys opts now) := by
  obtain ⟨hrows, hids⟩ := hkept.enqueued_rows keys opts now
  constructor
  case records => exact hkept.records_enqueue keys opts now hafter
  case waiting =>
    intro post hpost hwaits
    apply hkept.waiting post hpost
    unfold OfflineSystem.Waits at hwaits
    rw [hids] at hwaits
    exact hwaits.imp_right fun hboth => ⟨hboth.1, hkept.pending_of_sent keys hpost hboth.2⟩
  case alone => exact hkept.alone
  case queued =>
    intro tab run hrun
    rw [hids]
    exact (hkept.queued tab run hrun).trans (prefix_append _ _)
  case awaited => exact hkept.awaited
  case reread =>
    intro tab run row error hrun hphase
    rw [hrows]
    exact mem_append_left _ (hkept.reread tab run row error hrun hphase)

theorem ne_of_travelling (hkept : QueueKept system) {post other : MutationPost}
    (hpost : post ∈ system.posts.rows) (hother : other ∈ system.posts.rows)
    (htravels : post.status = .travelling) (haccepted : other.status = .accepted) :
    post.mutationId ≠ other.mutationId := by
  intro hsame
  obtain ⟨tab, run, hrun, hphase⟩ := hkept.waiting post hpost (.inl htravels)
  obtain ⟨found, hfound, hhead⟩ := hkept.awaited tab run post.id hrun hphase
  obtain rfl := Option.some.inj ((Table.find?_of_mem hpost).symm.trans hfound)
  have hpending : post.mutationId ∈ system.pendingIds :=
    (hkept.queued tab run hrun).subset (mem_of_mem_head? hhead)
  rw [hsame] at hpending
  have hphase' := hkept.phase_of_waits hrun hother (.inr ⟨haccepted, hpending⟩)
  have hid : post.id = other.id := FlushPhase.awaiting.inj (hphase.symm.trans hphase')
  rw [Table.row_eq_of_key_eq hpost hother hid, haccepted] at htravels
  cases htravels

def settledAt (postId : Uuid) (status : PostStatus) (post : MutationPost) : MutationPost :=
  if post.id = postId ∧ post.status = .travelling then post.settled status else post

section

variable (postId : Uuid) (status : PostStatus) (post : MutationPost)

theorem settledAt_id : (settledAt postId status post).id = post.id := by
  unfold settledAt
  by_cases hp : post.id = postId ∧ post.status = .travelling
  · rw [if_pos hp]
    rfl
  · rw [if_neg hp]

theorem settledAt_mutationId : (settledAt postId status post).mutationId = post.mutationId := by
  unfold settledAt
  by_cases hp : post.id = postId ∧ post.status = .travelling
  · rw [if_pos hp]
    rfl
  · rw [if_neg hp]

theorem settledAt_status : (settledAt postId status post).status = post.status ∨
    post.id = postId ∧ post.status = .travelling := by
  unfold settledAt
  by_cases hp : post.id = postId ∧ post.status = .travelling
  · exact .inr hp
  · rw [if_neg hp]
    exact .inl rfl

end

theorem settledAt_accepted {postId : Uuid} {status : PostStatus} {post : MutationPost}
    (haccepted : post.status = .accepted) : (settledAt postId status post).status = .accepted := by
  rcases settledAt_status postId status post with hsame | ⟨_, htravels⟩
  · rw [hsame, haccepted]
  · rw [haccepted] at htravels
    cases htravels

theorem posts_settle (system : OfflineSystem) (postId : Uuid) (status : PostStatus) :
    (system.settle postId status).posts.rows =
      system.posts.rows.map (settledAt postId status) := rfl

theorem applied_subset_settle (postId : Uuid) (status : PostStatus) :
    system.applied ⊆ (system.settle postId status).applied := by
  intro id happlied
  obtain ⟨post, hpost, rfl⟩ := mem_map.1 happlied
  obtain ⟨hpost, haccepted⟩ := mem_filter.1 hpost
  have hmem : settledAt postId status post ∈ (system.settle postId status).posts.rows :=
    mem_map_of_mem hpost
  rw [← settledAt_mutationId postId status post]
  exact mem_applied hmem (settledAt_accepted (of_decide_eq_true haccepted))

theorem appliedOnce_settle (hkept : QueueKept system) (postId : Uuid) (status : PostStatus) :
    (system.settle postId status).applied.Nodup := by
  rw [applied_nodup_iff, posts_settle, pairwise_map]
  have hids := pairwise_map.1 system.posts.keysDistinct
  refine ((applied_nodup_iff.1 hkept.records.sound.appliedOnce).and hids).imp_of_mem ?_
  rintro first second hfirst hsecond ⟨hne, hid⟩ haccepted haccepted'
  rw [settledAt_mutationId, settledAt_mutationId]
  rcases settledAt_status postId status first with hsame | ⟨hthis, htravels⟩
  · rw [hsame] at haccepted
    rcases settledAt_status postId status second with hsame' | ⟨_, htravels'⟩
    · rw [hsame'] at haccepted'
      exact hne haccepted haccepted'
    · exact (hkept.ne_of_travelling hsecond hfirst htravels' haccepted).symm
  · rcases settledAt_status postId status second with hsame' | ⟨hthis', _⟩
    · rw [hsame'] at haccepted'
      exact hkept.ne_of_travelling hfirst hsecond htravels haccepted'
    · exact absurd (hthis.trans hthis'.symm) hid

theorem settle (hkept : QueueKept system) (postId : Uuid) (status : PostStatus) :
    QueueKept (system.settle postId status) := by
  constructor
  case records =>
    refine ⟨⟨?_, ?_, hkept.appliedOnce_settle postId status⟩, hkept.records.distinct,
      hkept.records.suffix, hkept.records.sorted, ?_⟩
    · rw [posts_settle, pairwise_map]
      refine hkept.records.sound.inOrder.imp ?_
      intro earlier later hle
      rw [settledAt_mutationId, settledAt_mutationId]
      exact hle
    · intro id hid
      exact (hkept.records.sound.noneDropped id hid).imp_right fun happlied =>
        applied_subset_settle postId status happlied
    · intro post hpost
      obtain ⟨old, hold, rfl⟩ := mem_map.1 hpost
      have hsent := hkept.records.sent old hold
      rw [← settledAt_mutationId postId status old] at hsent
      exact hsent
  case waiting =>
    intro post hpost hwaits
    obtain ⟨old, hold, rfl⟩ := mem_map.1 hpost
    have hbefore : system.Waits old := by
      change system.Waits (settledAt postId status old) at hwaits
      unfold OfflineSystem.Waits at hwaits ⊢
      rw [settledAt_mutationId] at hwaits
      rcases settledAt_status postId status old with hsame | ⟨_, htravels⟩
      · rwa [hsame] at hwaits
      · exact .inl htravels
    have hwaiting := hkept.waiting old hold hbefore
    rw [← settledAt_id postId status old] at hwaiting
    exact hwaiting
  case alone => exact hkept.alone
  case queued => exact hkept.queued
  case awaited =>
    intro tab run awaitedId hrun hphase
    obtain ⟨post, hpost, hhead⟩ := hkept.awaited tab run awaitedId hrun hphase
    refine ⟨settledAt postId status post, ?_, by rw [settledAt_mutationId]; exact hhead⟩
    unfold OfflineSystem.settle
    rw [Table.find?_updateWhere, hpost]
    rfl
  case reread => exact hkept.reread

end QueueKept

theorem queue_step (hkept : QueueKept system) {step : QueueStep} (horderly : step.Orderly system) :
    QueueKept (queueSteps.step step system) := by
  cases step with
  | enqueue keys opts now => exact hkept.enqueue keys opts now horderly
  | startFlush tab => exact hkept.startFlush horderly
  | send keys tab => exact hkept.send keys tab
  | arrive postId accepts => exact hkept.settle postId (if accepts then .accepted else .refused)
  | lose postId => exact hkept.settle postId .lost
  | answer tab => exact hkept.answer tab
  | fail tab error => exact hkept.fail horderly error
  | bump tab => exact hkept.bump tab
  | stop tab => exact hkept.stop horderly

/-- Over every run of orderly steps, mutations are sent in order, none is dropped, and none is
applied twice. -/
theorem queueSound_of_orderly {start : OfflineSystem} {steps : List QueueStep}
    {trace : List OfflineSystem} (hstart : QueueKept start)
    (hlog : queueSteps.Log (fun _ _ => True) start steps trace)
    (horderly : ∀ found ∈ Calls.occurrences steps trace, found.1.Orderly found.2) :
    ∀ system ∈ trace, QueueSound system := by
  intro system hsystem
  have hkept := hlog.invariant (I := QueueKept) (Q := fun step system => step.Orderly system)
    hstart (fun _ _ hkept _ horderly => queue_step hkept horderly) horderly system hsystem
  exact hkept.records.sound

namespace Sample

def oneCheckout : OfflineSystem :=
  ⟨⟨[⟨"checkout", .pos_checkout, "/api/pos/checkout", "\x7b\x7d", 5, 0, none⟩],
    nodup_singleton _⟩, fun _ => none, ⟨[], nodup_nil⟩, ["checkout"]⟩

theorem oneCheckout_kept : QueueKept oneCheckout := by
  constructor
  case records =>
    refine ⟨⟨List.Pairwise.nil, ?_, nodup_nil⟩, nodup_singleton _, suffix_rfl,
      pairwise_singleton _ _, fun _ hmem => absurd hmem not_mem_nil⟩
    exact fun id hid => .inl hid
  case waiting => exact fun _ hmem => absurd hmem not_mem_nil
  case alone => exact fun _ _ hbusy => absurd rfl hbusy
  case queued =>
    intro _ _ hrun
    cases hrun
  case awaited =>
    intro _ _ _ hrun
    cases hrun
  case reread =>
    intro _ _ _ _ hrun
    cases hrun

def states (start : OfflineSystem) : List QueueStep → List OfflineSystem
  | [] => [start]
  | step :: earlier =>
      queueSteps.step step ((states start earlier).headD start) :: states start earlier

theorem states_log (start : OfflineSystem) (steps : List QueueStep) :
    queueSteps.Log (fun _ _ => True) start steps (states start steps) := by
  induction steps with
  | nil => exact .start
  | cons step earlier ih =>
      unfold states
      cases hbefore : states start earlier with
      | nil => exact absurd hbefore ih.ne_nil
      | cons system past =>
          rw [hbefore] at ih
          exact .call step ih (fun _ hseen => absurd hseen not_mem_nil) trivial

/-- A tab posts the checkout, and the server accepts it. -/
def once : List QueueStep := [.answer 0, .arrive "k" true, .send .text 0, .startFlush 0]

/-- Two tabs flush, and the server accepts what both of them post. -/
def twice : List QueueStep :=
  [.arrive "kk" true, .arrive "k" true, .send .text 1, .send .text 0, .startFlush 1, .startFlush 0]

end Sample

theorem queueSound_of_orderly_sample :
    QueueSound ((Sample.states Sample.oneCheckout Sample.once).headD Sample.oneCheckout) := by
  refine queueSound_of_orderly Sample.oneCheckout_kept
    (Sample.states_log Sample.oneCheckout Sample.once) ?_ _ (mem_cons_self ..)
  intro found hfound
  rcases mem_cons.1 hfound with rfl | hfound
  · trivial
  rcases mem_cons.1 hfound with rfl | hfound
  · trivial
  rcases mem_cons.1 hfound with rfl | hfound
  · trivial
  · obtain rfl := mem_singleton.1 hfound
    exact fun _ _ => rfl

/-- Two tabs that flush one queue: its one mutation is applied twice. -/
theorem queueSound_fails :
    ¬ ∀ (start : OfflineSystem) (steps : List QueueStep) (trace : List OfflineSystem),
      QueueKept start → queueSteps.Log (fun _ _ => True) start steps trace →
      ∀ system ∈ trace, QueueSound system := by
  intro hall
  have hsound := hall _ _ _ Sample.oneCheckout_kept
    (Sample.states_log Sample.oneCheckout Sample.twice) _ (mem_cons_self ..)
  have honce := hsound.appliedOnce
  revert honce
  decide +kernel

end SafariLaundry
