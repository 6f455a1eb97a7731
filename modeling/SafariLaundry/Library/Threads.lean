import SafariLaundry.Library.History

/-!
# Interleaved threads

Threads work on one shared state.  A pending thread is what is left of it to do; a turn
runs its next statement, which may change the shared state, and leaves the threads that
go on from there.  Any pending thread may take the next turn, and a new one may start at
any time.
-/

namespace Library

open List

/-- Threads of type `τ` on shared states of type `σ`.  A turn depends on a choice of type
`ι` that the environment makes: a clock reading, a failure.  Which turns the environment
admits may depend on the threads that wait meanwhile. -/
structure Threads (σ τ ι : Type) where
  starts : τ → σ → Prop
  admits : ι → τ → σ → Multiset τ → Prop
  turn : ι → τ → σ → σ × List τ

namespace Threads

variable {σ τ ι : Type}

structure World (σ τ : Type) where
  shared : σ
  pending : Multiset τ

inductive Move (sys : Threads σ τ ι) : World σ τ → World σ τ → Prop
  | start (world : World σ τ) (thread : τ) (hstarts : sys.starts thread world.shared) :
      Move sys world ⟨world.shared, thread ::ₘ world.pending⟩
  | turn (shared : σ) (rest : Multiset τ) (choice : ι) (thread : τ)
      (hadmits : sys.admits choice thread shared rest) :
      Move sys ⟨shared, thread ::ₘ rest⟩
        ⟨(sys.turn choice thread shared).1, (sys.turn choice thread shared).2 + rest⟩

/-- Some run leads from one world to the other. -/
def Reaches (sys : Threads σ τ ι) : World σ τ → World σ τ → Prop :=
  Relation.ReflTransGen sys.Move

variable {sys : Threads σ τ ι} {start world : World σ τ}

theorem Reaches.start_thread (hreach : sys.Reaches start world) (thread : τ)
    (hstarts : sys.starts thread world.shared) :
    sys.Reaches start ⟨world.shared, thread ::ₘ world.pending⟩ :=
  hreach.tail (.start world thread hstarts)

theorem Reaches.take_turn {shared : σ} {thread : τ} {rest : Multiset τ}
    (hreach : sys.Reaches start ⟨shared, thread ::ₘ rest⟩) (choice : ι)
    (hadmits : sys.admits choice thread shared rest) :
    sys.Reaches start
      ⟨(sys.turn choice thread shared).1, (sys.turn choice thread shared).2 + rest⟩ :=
  hreach.tail (.turn shared rest choice thread hadmits)

theorem Reaches.invariant {I : World σ τ → Prop} (hstart : I start)
    (hspawn : ∀ world thread, I world → sys.starts thread world.shared →
      I ⟨world.shared, thread ::ₘ world.pending⟩)
    (hturn : ∀ shared rest choice thread, I ⟨shared, thread ::ₘ rest⟩ →
      sys.admits choice thread shared rest →
      I ⟨(sys.turn choice thread shared).1, (sys.turn choice thread shared).2 + rest⟩)
    (hreach : sys.Reaches start world) :
    I world := by
  induction hreach with
  | refl => exact hstart
  | tail _ hmove ih =>
      cases hmove with
      | start _ thread hstarts => exact hspawn _ thread ih hstarts
      | turn shared rest choice thread hadmits =>
          exact hturn shared rest choice thread ih hadmits

theorem Reaches.grows {R : σ → σ → Prop} [Std.Refl R] [IsTrans σ R]
    (hturn : ∀ choice thread shared rest, sys.admits choice thread shared rest →
      R shared (sys.turn choice thread shared).1)
    (hreach : sys.Reaches start world) :
    R start.shared world.shared := by
  induction hreach with
  | refl => exact Std.Refl.refl _
  | tail _ hmove ih =>
      cases hmove with
      | start => exact ih
      | turn shared rest choice thread hadmits =>
          exact IsTrans.trans _ _ _ ih (hturn choice thread shared rest hadmits)

/-- The permits that the pending threads hold together. -/
def held (weight : τ → ℕ) (pending : Multiset τ) : ℕ :=
  (pending.map weight).sum

@[simp] theorem held_cons (weight : τ → ℕ) (thread : τ) (pending : Multiset τ) :
    held weight (thread ::ₘ pending) = weight thread + held weight pending := by
  simp [held]

@[simp] theorem held_add (weight : τ → ℕ) (threads : List τ) (pending : Multiset τ) :
    held weight (threads + pending) = (threads.map weight).sum + held weight pending := by
  simp [held]

theorem Reaches.within_budget (weight : τ → ℕ) (spent allowed : σ → ℕ)
    (hstart : spent start.shared + held weight start.pending ≤ allowed start.shared)
    (hspawn : ∀ thread shared, sys.starts thread shared → weight thread = 0)
    (hturn : ∀ choice thread shared rest, sys.admits choice thread shared rest →
      spent (sys.turn choice thread shared).1 +
          ((sys.turn choice thread shared).2.map weight).sum + allowed shared ≤
        spent shared + weight thread + allowed (sys.turn choice thread shared).1)
    (hreach : sys.Reaches start world) :
    spent world.shared + held weight world.pending ≤ allowed world.shared := by
  apply hreach.invariant (I := fun world =>
    spent world.shared + held weight world.pending ≤ allowed world.shared) hstart
  · intro world thread hbudget hstarts
    rw [held_cons, hspawn thread world.shared hstarts, zero_add]
    exact hbudget
  · intro shared rest choice thread hbudget hadmits
    have hstep := hturn choice thread shared rest hadmits
    simp only [held_cons] at hbudget
    simp only [held_add]
    omega

/-- What becomes of a statement that a thread sends away: it is answered, it fails, or it
takes effect and its answer is lost. -/
inductive Outcome
  | answered | refused | lost

/-- Every entry of a log, newest first, fits what came before it. -/
def Throughout {ε : Type} (P : ε → List ε → Prop) : List ε → Prop
  | [] => True
  | entry :: past => P entry past ∧ Throughout P past

def restrict (sys : Threads σ τ ι) (admits : ι → τ → σ → Multiset τ → Prop) :
    Threads σ τ ι where
  starts := sys.starts
  admits := fun choice thread shared rest =>
    sys.admits choice thread shared rest ∧ admits choice thread shared rest
  turn := sys.turn

theorem Reaches.of_restrict {admits : ι → τ → σ → Multiset τ → Prop}
    (hreach : (sys.restrict admits).Reaches start world) :
    sys.Reaches start world := by
  induction hreach with
  | refl => exact .refl
  | tail _ hmove ih =>
      cases hmove with
      | start _ thread hstarts => exact ih.start_thread thread hstarts
      | turn shared rest choice thread hadmits => exact ih.take_turn choice hadmits.1

/-- The shared state and the threads that wait, in an order. -/
structure Queue (σ τ : Type) where
  shared : σ
  pending : List τ

/-- A thread starts, or the one at a position takes its turn. -/
inductive Turn (τ ι : Type)
  | start (thread : τ)
  | next (position : ℕ) (choice : ι)

def leave (position : ℕ) (threads pending : List τ) : List τ :=
  pending.take position ++ threads ++ pending.drop (position + 1)

def scheduled (sys : Threads σ τ ι) : Calls (Queue σ τ) (Turn τ ι) where
  step := fun turn queue =>
    match turn with
    | .start thread => ⟨queue.shared, thread :: queue.pending⟩
    | .next position choice =>
        match queue.pending[position]? with
        | none => queue
        | some thread =>
            ⟨(sys.turn choice thread queue.shared).1,
              leave position (sys.turn choice thread queue.shared).2 queue.pending⟩
  seen := fun _ => []

def Turn.Allowed (sys : Threads σ τ ι) : Turn τ ι → Queue σ τ → Prop
  | .start thread, queue => sys.starts thread queue.shared
  | .next position choice, queue => ∀ thread, queue.pending[position]? = some thread →
      sys.admits choice thread queue.shared (queue.pending.eraseIdx position : List τ)

variable {position : ℕ} {thread other : τ} {threads pending : List τ}

theorem split_at (hthread : pending[position]? = some thread) :
    pending = pending.take position ++ thread :: pending.drop (position + 1) := by
  obtain ⟨hlt, rfl⟩ := List.getElem?_eq_some_iff.1 hthread
  rw [← drop_eq_getElem_cons hlt, take_append_drop]

theorem mem_leave (hthread : pending[position]? = some thread)
    (hother : other ∈ leave position threads pending) : other ∈ threads ∨ other ∈ pending := by
  rw [split_at hthread]
  simp only [leave, mem_append, mem_cons] at hother ⊢
  tauto

theorem mem_leave_of_mem_threads (hother : other ∈ threads) :
    other ∈ leave position threads pending := by
  simp only [leave, mem_append]
  exact .inl (.inr hother)

theorem mem_leave_of_ne (hthread : pending[position]? = some thread) (hne : other ≠ thread)
    (hother : other ∈ pending) : other ∈ leave position threads pending := by
  rw [split_at hthread] at hother
  simp only [leave, mem_append, mem_cons] at hother ⊢
  tauto

theorem sum_leave (weight : τ → ℤ) (hthread : pending[position]? = some thread) :
    ((leave position threads pending).map weight).sum + weight thread =
      (pending.map weight).sum + (threads.map weight).sum := by
  have hsplit := congrArg (fun list => (list.map weight).sum) (split_at hthread)
  simp only [map_append, map_cons, sum_append, sum_cons] at hsplit
  rw [hsplit]
  simp only [leave, map_append, sum_append]
  ring

def Queue.toWorld (queue : Queue σ τ) : World σ τ := ⟨queue.shared, queue.pending⟩

theorem Reaches.take_position {queue : Queue σ τ} (hreach : sys.Reaches start queue.toWorld)
    (turn : Turn τ ι) (hallowed : turn.Allowed sys queue) :
    sys.Reaches start (sys.scheduled.step turn queue).toWorld := by
  cases turn with
  | start thread => exact hreach.start_thread thread hallowed
  | next position choice =>
      cases hthread : queue.pending[position]? with
      | none =>
          have hsame : sys.scheduled.step (.next position choice) queue = queue := by
            simp only [scheduled, hthread]
          rw [hsame]
          exact hreach
      | some thread =>
          have hstep : sys.scheduled.step (.next position choice) queue =
              ⟨(sys.turn choice thread queue.shared).1,
                leave position (sys.turn choice thread queue.shared).2 queue.pending⟩ := by
            simp only [scheduled, hthread]
          have htaken : (queue.pending : Multiset τ) =
              thread ::ₘ (queue.pending.eraseIdx position : List τ) := by
            conv_lhs => rw [split_at hthread]
            rw [eraseIdx_eq_take_drop_succ, Multiset.cons_coe, Multiset.coe_eq_coe]
            exact perm_middle
          have hleft (threads : List τ) : (leave position threads queue.pending : Multiset τ) =
              threads + (queue.pending.eraseIdx position : List τ) := by
            rw [eraseIdx_eq_take_drop_succ, Multiset.coe_add, Multiset.coe_eq_coe]
            exact perm_append_comm.append_right _ |>.trans (.of_eq (append_assoc ..))
          have hreach' : sys.Reaches start
              ⟨queue.shared, thread ::ₘ (queue.pending.eraseIdx position : List τ)⟩ := by
            rw [← htaken]
            exact hreach
          rw [hstep, Queue.toWorld, hleft]
          exact hreach'.take_turn choice (hallowed thread hthread)

def replay (sys : Threads σ τ ι) (schedule : List (Turn τ ι)) (queue : Queue σ τ) :
    Queue σ τ :=
  schedule.foldl (fun queue turn => sys.scheduled.step turn queue) queue

def Allows (sys : Threads σ τ ι) : List (Turn τ ι) → Queue σ τ → Prop
  | [], _ => True
  | turn :: schedule, queue =>
      turn.Allowed sys queue ∧ Allows sys schedule (sys.scheduled.step turn queue)

theorem Reaches.replay {schedule : List (Turn τ ι)} {queue : Queue σ τ}
    (hreach : sys.Reaches start queue.toWorld) (hallows : sys.Allows schedule queue) :
    sys.Reaches start (sys.replay schedule queue).toWorld := by
  induction schedule generalizing queue with
  | nil => exact hreach
  | cons turn schedule ih => exact ih (hreach.take_position turn hallows.1) hallows.2

end Threads

end Library
