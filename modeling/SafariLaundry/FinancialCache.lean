import SafariLaundry.Library.OrderedMap
import SafariLaundry.Library.Threads

/-!
# The financial cache of the web client

An entry under each key holds the data, the time it was stored and the promise of a running
fetcher.  Fetches and optimistic mutations run across other calls; between two awaits nothing
else runs.
-/

namespace SafariLaundry

open Library

structure CacheEntry (T : Type) where
  data : Option T
  error : Option String
  /-- Zero if it was never stored, or invalidated since. -/
  fetchedAt : ℕ
  /-- Whether a promise is there. -/
  inflight : Bool

def CacheEntry.blank {T : Type} : CacheEntry T := ⟨none, none, 0, false⟩

/-- The `store`. -/
abbrev FinancialCache (T : Type) := OrderedMap String (CacheEntry T)

def KeyUnder (keyPrefix key : String) : Prop :=
  key = keyPrefix ∨ (keyPrefix ++ ":").toList <+: key.toList
  deriving Decidable

namespace FinancialCache

variable {T : Type} (key : String) (now : ℕ) (cache : FinancialCache T)

def getEntry : CacheEntry T := (cache.get? key).getD .blank

def setQueryData (updater : Option T → Option T) : FinancialCache T :=
  cache.set key { cache.getEntry key with
    data := updater (cache.getEntry key).data
    error := none
    fetchedAt := now }

def invalidate (keyPrefix : String) : ℕ × FinancialCache T :=
  ((cache.keys.filter (KeyUnder keyPrefix)).length,
    cache.mapWhere (KeyUnder keyPrefix) fun entry => { entry with fetchedAt := 0 })

/-- Whether a fetcher was started, or the promise that is there was returned. -/
def fetch : Bool × FinancialCache T :=
  if (cache.getEntry key).inflight = true then (false, cache)
  else (true, cache.set key { cache.getEntry key with inflight := true })

def resolved (data : T) : FinancialCache T :=
  cache.set key { cache.getEntry key with data := some data, error := none, fetchedAt := now }

/-- The `catch` of a fetch. -/
def rejected (message : String) : FinancialCache T :=
  cache.set key { cache.getEntry key with error := some message }

/-- The `finally` of a fetch. -/
def released : FinancialCache T :=
  cache.set key { cache.getEntry key with inflight := false }

end FinancialCache

structure RealtimeEnvelope where
  (channel eventName : String)
  customerId : Option String

def prefixByEvent : List (String × List String) :=
  [("finance.invoice.issued", ["finance:customer", "finance:invoices"]),
    ("finance.invoice.reversed", ["finance:customer", "finance:invoices"]),
    ("finance.invoice.overdue", ["finance:customer", "finance:collections"]),
    ("finance.payment.captured", ["finance:customer", "finance:invoices", "finance:dashboards"]),
    ("finance.payment.partial", ["finance:customer", "finance:invoices"]),
    ("finance.wallet.absorbed", ["finance:customer", "finance:wallet"]),
    ("finance.wallet.adjusted", ["finance:customer", "finance:wallet"]),
    ("finance.refund.created", ["finance:customer", "finance:refunds"]),
    ("finance.subscription.activated", ["finance:customer", "finance:subscriptions"]),
    ("finance.subscription.expired", ["finance:customer", "finance:subscriptions"]),
    ("finance.collection.escalated", ["finance:collections", "finance:customer"]),
    ("finance.collection.stage.changed", ["finance:collections", "finance:customer"]),
    ("finance.promise.created", ["finance:collections", "finance:promises"]),
    ("finance.promise.broken", ["finance:collections", "finance:promises"]),
    ("finance.promise.kept", ["finance:collections", "finance:promises"]),
    ("finance.fraud.alert.created", ["finance:fraud", "finance:customer"]),
    ("finance.snapshot.refreshed", ["finance:customer", "finance:dashboards"]),
    ("finance.risk.recalculated", ["finance:risk", "finance:customer"]),
    ("finance.reconciliation.failed", ["finance:reconciliation"])]

def prefixByChannel : List (String × String) :=
  [("collections", "finance:collections"), ("customer360", "finance:customer"),
    ("dashboards", "finance:dashboards"), ("fraud", "finance:fraud"),
    ("reconciliation", "finance:reconciliation"), ("risk", "finance:risk"),
    ("branch-accounting", "finance:branch")]

def RealtimeEnvelope.prefixes (envelope : RealtimeEnvelope) : List String :=
  ((prefixByEvent.lookup envelope.eventName).getD
    [(prefixByChannel.lookup envelope.channel).getD "finance"]).flatMap fun keyPrefix =>
      match envelope.customerId with
      | some customerId => [keyPrefix ++ ":" ++ customerId, keyPrefix]
      | none => [keyPrefix]

/-! ## The client -/

inductive DataOrigin
  | nothing
  | caller (invalidations : ℕ)
  | request (invalidations : ℕ)
  deriving DecidableEq

def DataOrigin.Since (invalidations : ℕ) (origin : DataOrigin) : Prop :=
  origin = .caller invalidations ∨ origin = .request invalidations

structure CacheClient (T : Type) where
  cache : FinancialCache T
  (invalidations stores : String → ℕ)
  /-- The invalidations when data were last stored. -/
  storedIn : String → ℕ
  origin : String → DataOrigin
  /-- The keys where a fetch or a roll-back replaced what was stored since it had begun. -/
  overwritten : List String

def CacheClient.initial {T : Type} : CacheClient T where
  cache := .empty
  invalidations := fun _ => 0
  stores := fun _ => 0
  storedIn := fun _ => 0
  origin := fun _ => .nothing
  overwritten := []

/-- What a mutation keeps for its roll-back, and what it found when it began. -/
structure Optimism (T : Type) where
  queryKey : String
  priorData : Option T
  fresh : Bool
  origin : DataOrigin
  (invalidations stores : ℕ)

structure OptimisticUpdate (T V : Type) where
  queryKey : String
  updater : Option T → V → T

structure MutationOptions (T V : Type) where
  invalidatePrefix : Option String
  optimistic : Option (OptimisticUpdate T V)

/-- A call, a fetcher that runs, a fetch between its `then` and its `finally`, and a mutation
that waits for its answer. -/
inductive CacheThread (T V : Type)
  | setQueryData (key : String) (updater : Option T → Option T)
  | invalidate (keyPrefix : String)
  | financeEvent (envelope : RealtimeEnvelope)
  | fetch (key : String)
  | fetching (key : String) (invalidations stores : ℕ)
  | releasing (key : String)
  | mutate (options : MutationOptions T V) (vars : V)
  | mutating (invalidatePrefix : Option String) (optimistic : Option (Optimism T))

/-- The clock, the answer that arrives, and what `onSuccess` throws. -/
structure CacheChoice (T : Type) where
  now : ℕ
  answer : Except String T
  callback : Option String

namespace CacheClient

variable {T V : Type} (client : CacheClient T)

def stored (key : String) (origin : DataOrigin) (cache : FinancialCache T) : CacheClient T :=
  { client with
    cache := cache
    stores := Function.update client.stores key (client.stores key + 1)
    storedIn := Function.update client.storedIn key (client.invalidations key)
    origin := Function.update client.origin key origin }

def invalidated (keyPrefix : String) : CacheClient T :=
  { client with
    cache := (client.cache.invalidate keyPrefix).2
    invalidations := fun key =>
      if KeyUnder keyPrefix key then client.invalidations key + 1 else client.invalidations key }

/-- A store by one that began when so many had been made. -/
def noteStore (key : String) (stores : ℕ) : CacheClient T :=
  { client with overwritten :=
      if client.stores key = stores then client.overwritten else key :: client.overwritten }

def fetch (key : String) : CacheClient T × List (CacheThread T V) :=
  let (started, cache) := client.cache.fetch key
  ({ client with cache := cache },
    if started = true then [.fetching key (client.invalidations key) (client.stores key)] else [])

def settle (choice : CacheChoice T) (key : String) (invalidations stores : ℕ) : CacheClient T :=
  match choice.answer with
  | .ok data => (client.noteStore key stores).stored key (.request invalidations)
      (client.cache.resolved key choice.now data)
  | .error message => { client with cache := client.cache.rejected key message }

def mutate (now : ℕ) (options : MutationOptions T V) (vars : V) :
    CacheClient T × List (CacheThread T V) :=
  match options.optimistic with
  | none => (client, [.mutating options.invalidatePrefix none])
  | some optimistic =>
      let key := optimistic.queryKey
      let entry := client.cache.getEntry key
      (client.stored key (.caller (client.invalidations key)) (client.cache.setQueryData key now
          fun _ => some (optimistic.updater entry.data vars)),
        [.mutating options.invalidatePrefix (some {
          queryKey := key
          priorData := entry.data
          fresh := decide (0 < entry.fetchedAt)
          origin := client.origin key
          invalidations := client.invalidations key
          stores := client.stores key + 1 })])

def rollBack (now : ℕ) (optimism : Optimism T) (stores : ℕ) : CacheClient T :=
  (client.noteStore optimism.queryKey stores).stored optimism.queryKey optimism.origin
    (client.cache.setQueryData optimism.queryKey now fun _ => optimism.priorData)

def commit (now : ℕ) (data : T) (invalidatePrefix : Option String)
    (optimistic : Option (Optimism T)) : CacheClient T :=
  let answered := match optimistic with
    | none => client
    | some optimism => client.stored optimism.queryKey (.request optimism.invalidations)
        (client.cache.setQueryData optimism.queryKey now fun _ => some data)
  match invalidatePrefix with
  | none => answered
  | some keyPrefix => answered.invalidated keyPrefix

/-- What `onSuccess` throws is caught like a failure of the mutation. -/
def finish (choice : CacheChoice T) (invalidatePrefix : Option String)
    (optimistic : Option (Optimism T)) : CacheClient T :=
  match choice.answer, choice.callback, optimistic with
  | .error _, _, none => client
  | .error _, _, some optimism => client.rollBack choice.now optimism optimism.stores
  | .ok data, none, _ => client.commit choice.now data invalidatePrefix optimistic
  | .ok data, some _, none => client.commit choice.now data invalidatePrefix none
  | .ok data, some _, some optimism =>
      (client.commit choice.now data invalidatePrefix optimistic).rollBack choice.now optimism
        (optimism.stores + 1)

end CacheClient

def CacheThread.turn {T V : Type} (choice : CacheChoice T) (thread : CacheThread T V)
    (client : CacheClient T) : CacheClient T × List (CacheThread T V) :=
  match thread with
  | .setQueryData key updater => (client.stored key (.caller (client.invalidations key))
      (client.cache.setQueryData key choice.now updater), [])
  | .invalidate keyPrefix => (client.invalidated keyPrefix, [])
  | .financeEvent envelope => (envelope.prefixes.foldl CacheClient.invalidated client, [])
  | .fetch key => client.fetch key
  | .fetching key invalidations stores =>
      (client.settle choice key invalidations stores, [.releasing key])
  | .releasing key => ({ client with cache := client.cache.released key }, [])
  | .mutate options vars => client.mutate choice.now options vars
  | .mutating invalidatePrefix optimistic =>
      (client.finish choice invalidatePrefix optimistic, [])

def CacheThread.IsCall {T V : Type} : CacheThread T V → Prop
  | .fetching .. | .releasing _ | .mutating .. => False
  | _ => True

/-- Calls come at any time and answers in any order.  The clock is past zero. -/
def cacheClient (T V : Type) : Threads (CacheClient T) (CacheThread T V) (CacheChoice T) where
  starts := fun thread _ => thread.IsCall
  admits := fun choice _ _ _ => 0 < choice.now
  turn := CacheThread.turn

def freshClient (T V : Type) : Threads.World (CacheClient T) (CacheThread T V) where
  shared := .initial
  pending := 0

def CacheThread.isFetching {T V : Type} (key : String) : CacheThread T V → ℕ
  | .fetching other _ _ => if other = key then 1 else 0
  | _ => 0

/-- Of a key at most one fetcher runs, and fresh data were stored since its latest
invalidation. -/
structure CacheSound {T V : Type} (world : Threads.World (CacheClient T) (CacheThread T V)) :
    Prop where
  singleFlight : ∀ key, Threads.held (CacheThread.isFetching key) world.pending ≤ 1
  storedSince : ∀ key, 0 < (world.shared.cache.getEntry key).fetchedAt →
    world.shared.storedIn key = world.shared.invalidations key

/-- Fresh data of the key come from a caller or a request after its latest invalidation, and no
fetch or roll-back replaced what was stored under it since it had begun. -/
structure CacheClient.Current {T : Type} (key : String) (client : CacheClient T) : Prop where
  obtainedSince : 0 < (client.cache.getEntry key).fetchedAt →
    (client.origin key).Since (client.invalidations key)
  nothingLost : key ∉ client.overwritten

/-- Nothing came in between: no invalidation and no store under the key of a fetch or a mutation
that has its answer, and one that is rolled back had found fresh data.  Those of other keys may
be overtaken. -/
def Undisturbed {T V : Type} (key : String) (choice : CacheChoice T) (thread : CacheThread T V)
    (client : CacheClient T) (_ : Multiset (CacheThread T V)) : Prop :=
  match thread, choice.answer with
  | .fetching other invalidations stores, .ok _ => other = key →
      client.invalidations key = invalidations ∧ client.stores key = stores
  | .mutating invalidatePrefix (some optimism), .ok _ => optimism.queryKey = key →
      client.invalidations key = optimism.invalidations ∧
        (choice.callback ≠ none → optimism.fresh = true ∧ client.stores key = optimism.stores ∧
          ∀ keyPrefix ∈ invalidatePrefix, ¬ KeyUnder keyPrefix key)
  | .mutating _ (some optimism), .error _ => optimism.queryKey = key →
      client.invalidations key = optimism.invalidations ∧ optimism.fresh = true ∧
        client.stores key = optimism.stores
  | _, _ => True

namespace FinancialCache

variable {T : Type} (key : String) (now : ℕ) (cache : FinancialCache T) (other : String)

theorem getEntry_set (entry : CacheEntry T) :
    getEntry other (cache.set key entry) = if other = key then entry else getEntry other cache := by
  unfold getEntry
  rw [OrderedMap.get?_set]
  by_cases hsame : other = key
  · rw [if_pos hsame, if_pos hsame, Option.getD_some]
  · rw [if_neg hsame, if_neg hsame]

theorem getEntry_set_field {α : Type} (field : CacheEntry T → α) {entry : CacheEntry T}
    (hfield : field entry = field (getEntry key cache)) :
    field (getEntry other (cache.set key entry)) = field (getEntry other cache) := by
  rw [getEntry_set]
  by_cases hsame : other = key
  · rw [if_pos hsame, hfield, hsame]
  · rw [if_neg hsame]

theorem getEntry_invalidate (keyPrefix : String) :
    getEntry other (cache.invalidate keyPrefix).2 =
      if KeyUnder keyPrefix other then { getEntry other cache with fetchedAt := 0 }
      else getEntry other cache := by
  unfold getEntry invalidate
  rw [OrderedMap.get?_mapWhere]
  cases OrderedMap.get? cache other with
  | none =>
      by_cases hunder : KeyUnder keyPrefix other
      · rw [if_pos hunder]
        rfl
      · rw [if_neg hunder]
        rfl
  | some entry =>
      by_cases hunder : KeyUnder keyPrefix other
      · simp [hunder]
      · simp [hunder]

theorem resolved_eq_setQueryData (data : T) :
    cache.resolved key now data = cache.setQueryData key now fun _ => some data := rfl

@[simp] theorem inflight_setQueryData (updater : Option T → Option T) :
    (getEntry other (cache.setQueryData key now updater)).inflight =
      (getEntry other cache).inflight :=
  getEntry_set_field key cache other CacheEntry.inflight rfl

@[simp] theorem inflight_rejected (message : String) :
    (getEntry other (cache.rejected key message)).inflight = (getEntry other cache).inflight :=
  getEntry_set_field key cache other CacheEntry.inflight rfl

@[simp] theorem inflight_invalidate (keyPrefix : String) :
    (getEntry other (cache.invalidate keyPrefix).2).inflight = (getEntry other cache).inflight := by
  rw [getEntry_invalidate]
  by_cases hunder : KeyUnder keyPrefix other
  · rw [if_pos hunder]
  · rw [if_neg hunder]

@[simp] theorem inflight_released :
    (getEntry other (cache.released key)).inflight =
      if other = key then false else (getEntry other cache).inflight := by
  unfold released
  rw [getEntry_set]
  by_cases hsame : other = key
  · rw [if_pos hsame, if_pos hsame]
  · rw [if_neg hsame, if_neg hsame]

@[simp] theorem fetchedAt_rejected (message : String) :
    (getEntry other (cache.rejected key message)).fetchedAt = (getEntry other cache).fetchedAt :=
  getEntry_set_field key cache other CacheEntry.fetchedAt rfl

@[simp] theorem fetchedAt_released :
    (getEntry other (cache.released key)).fetchedAt = (getEntry other cache).fetchedAt :=
  getEntry_set_field key cache other CacheEntry.fetchedAt rfl

@[simp] theorem fetchedAt_fetch :
    (getEntry other (cache.fetch key).2).fetchedAt = (getEntry other cache).fetchedAt := by
  unfold fetch
  by_cases hthere : (cache.getEntry key).inflight = true
  · rw [if_pos hthere]
  · rw [if_neg hthere]
    exact getEntry_set_field key cache other CacheEntry.fetchedAt rfl

@[simp] theorem fetchedAt_setQueryData (updater : Option T → Option T) :
    (getEntry other (cache.setQueryData key now updater)).fetchedAt =
      if other = key then now else (getEntry other cache).fetchedAt := by
  unfold setQueryData
  rw [getEntry_set]
  by_cases hsame : other = key
  · rw [if_pos hsame, if_pos hsame]
  · rw [if_neg hsame, if_neg hsame]

@[simp] theorem fetchedAt_invalidate (keyPrefix : String) :
    (getEntry other (cache.invalidate keyPrefix).2).fetchedAt =
      if KeyUnder keyPrefix other then 0 else (getEntry other cache).fetchedAt := by
  rw [getEntry_invalidate]
  by_cases hunder : KeyUnder keyPrefix other
  · rw [if_pos hunder, if_pos hunder]
  · rw [if_neg hunder, if_neg hunder]

end FinancialCache

/-! ## Flights -/

variable {T V : Type}

def CacheThread.isFlight (key : String) : CacheThread T V → ℕ
  | .fetching other _ _ | .releasing other => if other = key then 1 else 0
  | _ => 0

theorem CacheThread.isFetching_le (key : String) (thread : CacheThread T V) :
    thread.isFetching key ≤ thread.isFlight key := by
  cases thread with
  | fetching => exact le_rfl
  | _ => exact Nat.zero_le _

theorem CacheThread.isFlight_of_isCall {thread : CacheThread T V} (hcall : thread.IsCall)
    (key : String) : thread.isFlight key = 0 := by
  cases thread with
  | fetching | releasing => exact hcall.elim
  | _ => rfl

def Flights (client : CacheClient T) (pending : Multiset (CacheThread T V)) : Prop :=
  ∀ key, Threads.held (CacheThread.isFlight key) pending =
    if (client.cache.getEntry key).inflight = true then 1 else 0

namespace CacheClient

variable (client : CacheClient T) (other : String)

theorem inflight_foldl_invalidated (prefixes : List String) :
    ((prefixes.foldl invalidated client).cache.getEntry other).inflight =
      (client.cache.getEntry other).inflight := by
  induction prefixes generalizing client with
  | nil => rfl
  | cons keyPrefix rest ih =>
      rw [List.foldl_cons, ih]
      exact FinancialCache.inflight_invalidate client.cache other keyPrefix

theorem inflight_settle (choice : CacheChoice T) (key : String) (invalidations stores : ℕ) :
    ((client.settle choice key invalidations stores).cache.getEntry other).inflight =
      (client.cache.getEntry other).inflight := by
  unfold settle
  cases choice.answer with
  | ok data =>
      change ((client.cache.resolved key choice.now data).getEntry other).inflight = _
      rw [FinancialCache.resolved_eq_setQueryData]
      exact FinancialCache.inflight_setQueryData key choice.now client.cache other _
  | error message => exact FinancialCache.inflight_rejected key client.cache other message

theorem inflight_rollBack (now : ℕ) (optimism : Optimism T) (stores : ℕ) :
    ((client.rollBack now optimism stores).cache.getEntry other).inflight =
      (client.cache.getEntry other).inflight :=
  FinancialCache.inflight_setQueryData optimism.queryKey now client.cache other _

theorem inflight_commit (now : ℕ) (data : T) (invalidatePrefix : Option String)
    (optimistic : Option (Optimism T)) :
    ((client.commit now data invalidatePrefix optimistic).cache.getEntry other).inflight =
      (client.cache.getEntry other).inflight := by
  unfold commit
  cases optimistic with
  | none =>
      cases invalidatePrefix with
      | none => rfl
      | some keyPrefix => exact FinancialCache.inflight_invalidate client.cache other keyPrefix
  | some optimism =>
      have hstored := FinancialCache.inflight_setQueryData optimism.queryKey now client.cache other
        fun _ => some data
      cases invalidatePrefix with
      | none => exact hstored
      | some keyPrefix =>
          exact (FinancialCache.inflight_invalidate _ other keyPrefix).trans hstored

theorem inflight_finish (choice : CacheChoice T) (invalidatePrefix : Option String)
    (optimistic : Option (Optimism T)) :
    ((client.finish choice invalidatePrefix optimistic).cache.getEntry other).inflight =
      (client.cache.getEntry other).inflight := by
  unfold finish
  split
  · rfl
  · exact client.inflight_rollBack other ..
  · exact client.inflight_commit other ..
  · exact client.inflight_commit other ..
  · rw [inflight_rollBack, inflight_commit]

end CacheClient

section Turns

variable {client client' : CacheClient T} {thread : CacheThread T V}
  {threads : List (CacheThread T V)} {rest : Multiset (CacheThread T V)}

theorem Flights.keep (hflights : Flights client (thread ::ₘ rest))
    (hthreads : ∀ key, (threads.map (CacheThread.isFlight key)).sum = thread.isFlight key)
    (hinflight : ∀ key, (client'.cache.getEntry key).inflight =
      (client.cache.getEntry key).inflight) :
    Flights client' ((threads : Multiset (CacheThread T V)) + rest) := by
  intro key
  rw [Threads.held_add, hthreads, hinflight, ← Threads.held_cons]
  exact hflights key

theorem Flights.fetch {key : String} (hflights : Flights client (.fetch key ::ₘ rest)) :
    Flights (client.fetch (V := V) key).1
      (((client.fetch (V := V) key).2 : Multiset (CacheThread T V)) + rest) := by
  have hrest : Flights client rest := by
    intro other
    have hheld := hflights other
    rw [Threads.held_cons] at hheld
    exact (Nat.zero_add _).symm.trans hheld
  intro other
  unfold CacheClient.fetch FinancialCache.fetch
  by_cases hthere : (client.cache.getEntry key).inflight = true
  · rw [if_pos hthere]
    exact (Threads.held_add _ [] rest).trans ((Nat.zero_add _).trans (hrest other))
  · rw [if_neg hthere]
    rw [Threads.held_add, hrest other, FinancialCache.getEntry_set]
    by_cases hsame : other = key
    · subst hsame
      simp [CacheThread.isFlight, hthere]
    · simp [CacheThread.isFlight, hsame, Ne.symm hsame]

theorem Flights.release {key : String} (hflights : Flights client (.releasing key ::ₘ rest)) :
    Flights { client with cache := client.cache.released key } rest := by
  intro other
  have hheld := hflights other
  rw [Threads.held_cons] at hheld
  rw [FinancialCache.inflight_released]
  by_cases hsame : other = key
  · subst hsame
    have hone : CacheThread.isFlight other (.releasing other : CacheThread T V) = 1 := if_pos rfl
    rw [hone] at hheld
    rw [if_pos rfl, if_neg Bool.false_ne_true]
    split at hheld <;> omega
  · have hnone : CacheThread.isFlight other (.releasing key : CacheThread T V) = 0 :=
      if_neg (Ne.symm hsame)
    rw [hnone, Nat.zero_add] at hheld
    rw [if_neg hsame]
    exact hheld

theorem Flights.turn (choice : CacheChoice T) (hflights : Flights client (thread ::ₘ rest)) :
    Flights (thread.turn choice client).1
      (((thread.turn choice client).2 : Multiset (CacheThread T V)) + rest) := by
  cases thread with
  | setQueryData key updater =>
      exact hflights.keep (fun _ => rfl) fun other =>
        FinancialCache.inflight_setQueryData key choice.now client.cache other updater
  | invalidate keyPrefix =>
      exact hflights.keep (fun _ => rfl) fun other =>
        FinancialCache.inflight_invalidate client.cache other keyPrefix
  | financeEvent envelope =>
      exact hflights.keep (fun _ => rfl) fun other =>
        client.inflight_foldl_invalidated other envelope.prefixes
  | fetch key => exact hflights.fetch
  | fetching key invalidations stores =>
      exact hflights.keep (fun _ => rfl) fun other =>
        client.inflight_settle other choice key invalidations stores
  | releasing key =>
      have hreleased := hflights.release
      rw [← Multiset.zero_add rest] at hreleased
      exact hreleased
  | mutate options vars =>
      obtain ⟨invalidatePrefix, optimistic⟩ := options
      cases optimistic with
      | none => exact hflights.keep (fun _ => rfl) fun _ => rfl
      | some optimistic =>
          exact hflights.keep (fun _ => rfl) fun other =>
            FinancialCache.inflight_setQueryData optimistic.queryKey choice.now client.cache other
              fun _ => some (optimistic.updater _ vars)
  | mutating invalidatePrefix optimistic =>
      exact hflights.keep (fun _ => rfl) fun other =>
        client.inflight_finish other choice invalidatePrefix optimistic

end Turns

/-! ## Dates -/

/-- What is known of fresh data: when they were stored and where they come from, beside the
invalidations so far. -/
def CacheClient.Dated (good : String → ℕ → DataOrigin → ℕ → Prop) (client : CacheClient T) : Prop :=
  ∀ key, 0 < (client.cache.getEntry key).fetchedAt →
    good key (client.storedIn key) (client.origin key) (client.invalidations key)

section Dates

variable {good : String → ℕ → DataOrigin → ℕ → Prop} {client : CacheClient T}

theorem CacheClient.Dated.recache {cache : FinancialCache T} (hdated : client.Dated good)
    (hsame : ∀ key, (cache.getEntry key).fetchedAt = (client.cache.getEntry key).fetchedAt) :
    { client with cache := cache }.Dated good := by
  intro key hfresh
  exact hdated key (lt_of_lt_of_eq hfresh (hsame key))

theorem CacheClient.Dated.stored {key : String} {origin : DataOrigin} (hdated : client.Dated good)
    (hnew : good key (client.invalidations key) origin (client.invalidations key)) (now : ℕ)
    (updater : Option T → Option T) :
    (client.stored key origin (client.cache.setQueryData key now updater)).Dated good := by
  intro other hfresh
  have hfresh' : 0 < (FinancialCache.getEntry other
      (client.cache.setQueryData key now updater)).fetchedAt := hfresh
  rw [FinancialCache.fetchedAt_setQueryData] at hfresh'
  change good other (Function.update client.storedIn key (client.invalidations key) other)
    (Function.update client.origin key origin other) (client.invalidations other)
  by_cases hsame : other = key
  · subst hsame
    rw [Function.update_self, Function.update_self]
    exact hnew
  · rw [if_neg hsame] at hfresh'
    rw [Function.update_of_ne hsame, Function.update_of_ne hsame]
    exact hdated other hfresh'

theorem CacheClient.Dated.invalidated (hdated : client.Dated good) (keyPrefix : String) :
    (client.invalidated keyPrefix).Dated good := by
  intro key hfresh
  have hfresh' : 0 < (FinancialCache.getEntry key (client.cache.invalidate keyPrefix).2).fetchedAt :=
    hfresh
  rw [FinancialCache.fetchedAt_invalidate] at hfresh'
  change good key (client.storedIn key) (client.origin key)
    (if KeyUnder keyPrefix key then client.invalidations key + 1 else client.invalidations key)
  by_cases hunder : KeyUnder keyPrefix key
  · rw [if_pos hunder] at hfresh'
    exact absurd hfresh' (lt_irrefl 0)
  · rw [if_neg hunder] at hfresh'
    rw [if_neg hunder]
    exact hdated key hfresh'

theorem CacheClient.Dated.foldl_invalidated (hdated : client.Dated good) (prefixes : List String) :
    (prefixes.foldl CacheClient.invalidated client).Dated good := by
  induction prefixes generalizing client with
  | nil => exact hdated
  | cons keyPrefix rest ih => exact ih (hdated.invalidated keyPrefix)

theorem CacheClient.Dated.settle {choice : CacheChoice T} {key : String} {invalidations : ℕ}
    (hdated : client.Dated good) (stores : ℕ)
    (hnew : ∀ data, choice.answer = .ok data →
      good key (client.invalidations key) (.request invalidations) (client.invalidations key)) :
    (client.settle choice key invalidations stores).Dated good := by
  unfold CacheClient.settle
  cases hanswer : choice.answer with
  | ok data =>
      have hnoted : (client.noteStore key stores).Dated good := hdated
      change ((client.noteStore key stores).stored key (.request invalidations)
        (client.cache.resolved key choice.now data)).Dated good
      rw [FinancialCache.resolved_eq_setQueryData]
      exact hnoted.stored (hnew data hanswer) choice.now fun _ => some data
  | error message =>
      exact hdated.recache fun other => FinancialCache.fetchedAt_rejected key client.cache other message

theorem CacheClient.Dated.rollBack {optimism : Optimism T} (hdated : client.Dated good)
    (hnew : good optimism.queryKey (client.invalidations optimism.queryKey) optimism.origin
      (client.invalidations optimism.queryKey)) (now stores : ℕ) :
    (client.rollBack now optimism stores).Dated good := by
  have hnoted : (client.noteStore optimism.queryKey stores).Dated good := hdated
  exact hnoted.stored hnew now fun _ => optimism.priorData

theorem CacheClient.Dated.commit {optimistic : Option (Optimism T)} (hdated : client.Dated good)
    (hnew : ∀ optimism ∈ optimistic, good optimism.queryKey (client.invalidations optimism.queryKey)
      (.request optimism.invalidations) (client.invalidations optimism.queryKey))
    (now : ℕ) (data : T) (invalidatePrefix : Option String) :
    (client.commit now data invalidatePrefix optimistic).Dated good := by
  unfold CacheClient.commit
  cases optimistic with
  | none =>
      cases invalidatePrefix with
      | none => exact hdated
      | some keyPrefix => exact hdated.invalidated keyPrefix
  | some optimism =>
      have hstored := hdated.stored (hnew optimism rfl) now fun _ => some data
      cases invalidatePrefix with
      | none => exact hstored
      | some keyPrefix => exact hstored.invalidated keyPrefix

end Dates

theorem CacheClient.Dated.turn {client : CacheClient T}
    (hdated : client.Dated fun _ stored _ invalidations => stored = invalidations)
    (choice : CacheChoice T) (thread : CacheThread T V) :
    (thread.turn choice client).1.Dated fun _ stored _ invalidations => stored = invalidations := by
  cases thread with
  | setQueryData key updater => exact hdated.stored rfl choice.now updater
  | invalidate keyPrefix => exact hdated.invalidated keyPrefix
  | financeEvent envelope => exact hdated.foldl_invalidated envelope.prefixes
  | fetch key => exact hdated.recache fun other => FinancialCache.fetchedAt_fetch key client.cache other
  | fetching key invalidations stores => exact hdated.settle stores fun _ _ => rfl
  | releasing key =>
      exact hdated.recache fun other => FinancialCache.fetchedAt_released key client.cache other
  | mutate options vars =>
      obtain ⟨invalidatePrefix, optimistic⟩ := options
      cases optimistic with
      | none => exact hdated
      | some optimistic =>
          exact hdated.stored rfl choice.now fun _ => some (optimistic.updater _ vars)
  | mutating invalidatePrefix optimistic =>
      change (client.finish choice invalidatePrefix optimistic).Dated _
      unfold CacheClient.finish
      split
      · exact hdated
      · exact hdated.rollBack rfl _ _
      · exact hdated.commit (fun _ _ => rfl) _ _ _
      · exact hdated.commit (fun _ _ => rfl) _ _ _
      · exact (hdated.commit (fun _ _ => rfl) _ _ _).rollBack rfl _ _

variable {world : Threads.World (CacheClient T) (CacheThread T V)}

theorem cacheSound_of_reaches (hreach : (cacheClient T V).Reaches (freshClient T V) world) :
    CacheSound world := by
  have hinv : Flights world.shared world.pending ∧
      world.shared.Dated fun _ stored _ invalidations => stored = invalidations := by
    apply hreach.invariant (I := fun world => Flights world.shared world.pending ∧
      world.shared.Dated fun _ stored _ invalidations => stored = invalidations)
    · exact ⟨fun _ => rfl, fun _ hfresh => absurd hfresh (lt_irrefl 0)⟩
    · rintro world thread ⟨hflights, hdated⟩ hcall
      refine ⟨fun key => ?_, hdated⟩
      rw [Threads.held_cons, CacheThread.isFlight_of_isCall hcall, Nat.zero_add]
      exact hflights key
    · rintro shared rest choice thread ⟨hflights, hdated⟩ _
      exact ⟨hflights.turn choice, hdated.turn choice thread⟩
  constructor
  · intro key
    have hflights := hinv.1 key
    have hfetching : Threads.held (CacheThread.isFetching key) world.pending ≤
        Threads.held (CacheThread.isFlight key) world.pending :=
      Multiset.sum_map_le_sum_map _ _ fun thread _ => thread.isFetching_le key
    split at hflights <;> omega
  · exact hinv.2

/-! ## Undisturbed runs -/

def PriorsDated (key : String) (pending : Multiset (CacheThread T V)) : Prop :=
  ∀ invalidatePrefix optimism,
    CacheThread.mutating invalidatePrefix (some optimism) ∈ pending → optimism.queryKey = key →
      optimism.fresh = true → optimism.origin.Since optimism.invalidations

def OriginDated (key : String) : String → ℕ → DataOrigin → ℕ → Prop :=
  fun other _ origin invalidations => other = key → origin.Since invalidations

section Undisturbed

variable {key : String} {client : CacheClient T} {choice : CacheChoice T} {thread : CacheThread T V}
  {rest : Multiset (CacheThread T V)}

variable {invalidatePrefix : Option String} {optimistic : Option (Optimism T)}

theorem CacheClient.invalidations_commit {optimism : Optimism T}
    (hnot : ∀ keyPrefix ∈ invalidatePrefix, ¬ KeyUnder keyPrefix optimism.queryKey) (now : ℕ)
    (data : T) : (client.commit now data invalidatePrefix (some optimism)).invalidations
      optimism.queryKey = client.invalidations optimism.queryKey := by
  cases invalidatePrefix with
  | none => rfl
  | some keyPrefix => exact if_neg (hnot keyPrefix rfl)

theorem CacheClient.stores_commit (optimism : Optimism T) (invalidatePrefix : Option String)
    (now : ℕ) (data : T) : (client.commit now data invalidatePrefix (some optimism)).stores
      optimism.queryKey = client.stores optimism.queryKey + 1 := by
  cases invalidatePrefix with
  | none => exact Function.update_self ..
  | some keyPrefix => exact Function.update_self ..

theorem CacheClient.overwritten_commit (now : ℕ) (data : T) (invalidatePrefix : Option String)
    (optimistic : Option (Optimism T)) :
    (client.commit now data invalidatePrefix optimistic).overwritten = client.overwritten := by
  cases optimistic with
  | none => cases invalidatePrefix <;> rfl
  | some optimism => cases invalidatePrefix <;> rfl

theorem CacheClient.notMem_noteStore {other : String} {stores : ℕ}
    (hkept : key ∉ client.overwritten) (hstores : other = key → client.stores key = stores) :
    key ∉ (client.noteStore other stores).overwritten := by
  unfold CacheClient.noteStore
  by_cases hsame : client.stores other = stores
  · rw [if_pos hsame]
    exact hkept
  · rw [if_neg hsame]
    refine List.not_mem_cons_of_ne_of_not_mem ?_ hkept
    rintro rfl
    exact hsame (hstores rfl)

theorem CacheClient.overwritten_foldl_invalidated (prefixes : List String) :
    (prefixes.foldl CacheClient.invalidated client).overwritten = client.overwritten := by
  induction prefixes generalizing client with
  | nil => rfl
  | cons keyPrefix rest ih => exact ih

theorem CacheClient.Current.dated (hcurrent : client.Current key) :
    client.Dated (OriginDated key) := by
  rintro other hfresh rfl
  exact hcurrent.obtainedSince hfresh

theorem CacheClient.Current.of_dated (hdated : client.Dated (OriginDated key))
    (hkept : key ∉ client.overwritten) : client.Current key :=
  ⟨fun hfresh => hdated key hfresh rfl, hkept⟩

theorem CacheClient.Current.settle {other : String} {invalidations stores : ℕ}
    (hcurrent : client.Current key)
    (hanswered : ∀ data, choice.answer = .ok data → other = key →
      client.invalidations key = invalidations ∧ client.stores key = stores) :
    (client.settle choice other invalidations stores).Current key := by
  apply CacheClient.Current.of_dated
  · apply hcurrent.dated.settle stores
    rintro data hdata rfl
    exact .inr (congrArg _ (hanswered data hdata rfl).1.symm)
  · unfold CacheClient.settle
    cases hanswer : choice.answer with
    | ok data =>
        exact CacheClient.notMem_noteStore hcurrent.nothingLost fun hsame =>
          (hanswered data hanswer hsame).2
    | error message => exact hcurrent.nothingLost

theorem CacheClient.Current.commit (hcurrent : client.Current key)
    (hsame : ∀ optimism ∈ optimistic, optimism.queryKey = key →
      client.invalidations key = optimism.invalidations) (now : ℕ) (data : T)
    (invalidatePrefix : Option String) :
    (client.commit now data invalidatePrefix optimistic).Current key := by
  apply CacheClient.Current.of_dated
  · apply hcurrent.dated.commit
    rintro optimism hoptimism rfl
    exact .inr (congrArg _ (hsame optimism hoptimism rfl).symm)
  · rw [CacheClient.overwritten_commit now data invalidatePrefix optimistic]
    exact hcurrent.nothingLost

theorem CacheClient.Current.rollBack {optimism : Optimism T} {stores : ℕ}
    (hcurrent : client.Current key)
    (horigin : optimism.queryKey = key → optimism.origin.Since (client.invalidations key))
    (hstores : optimism.queryKey = key → client.stores key = stores) (now : ℕ) :
    (client.rollBack now optimism stores).Current key := by
  apply CacheClient.Current.of_dated
  · refine hcurrent.dated.rollBack ?_ now stores
    rintro rfl
    exact horigin rfl
  · exact CacheClient.notMem_noteStore hcurrent.nothingLost hstores

theorem CacheClient.Current.finish (hcurrent : client.Current key)
    (hpriors : ∀ optimism ∈ optimistic, optimism.queryKey = key → optimism.fresh = true →
      optimism.origin.Since optimism.invalidations)
    (hundisturbed : Undisturbed key choice
      (.mutating invalidatePrefix optimistic : CacheThread T V) client rest) :
    (client.finish choice invalidatePrefix optimistic).Current key := by
  unfold CacheClient.finish
  cases hanswer : choice.answer with
  | error message =>
      cases optimistic with
      | none => exact hcurrent
      | some optimism =>
          simp only [Undisturbed, hanswer] at hundisturbed
          refine hcurrent.rollBack (fun hsame => ?_) (fun hsame => (hundisturbed hsame).2.2)
            choice.now
          rw [(hundisturbed hsame).1]
          exact hpriors optimism rfl hsame (hundisturbed hsame).2.1
  | ok data =>
      have hcommitted : (client.commit choice.now data invalidatePrefix optimistic).Current key := by
        refine hcurrent.commit (fun optimism hoptimism hsame => ?_) choice.now data
          invalidatePrefix
        obtain rfl := hoptimism
        simp only [Undisturbed, hanswer] at hundisturbed
        exact (hundisturbed hsame).1
      cases hcallback : choice.callback with
      | none => exact hcommitted
      | some thrown =>
          cases optimistic with
          | none => exact hcommitted
          | some optimism =>
              simp only [Undisturbed, hanswer] at hundisturbed
              have hthrows : choice.callback ≠ none := by
                rw [hcallback]
                exact nofun
              refine hcommitted.rollBack (fun hsame => ?_) (fun hsame => ?_) choice.now
              · obtain ⟨hinvalidations, hfound⟩ := hundisturbed hsame
                obtain ⟨hfresh, -, hnot⟩ := hfound hthrows
                subst hsame
                rw [CacheClient.invalidations_commit hnot choice.now data, hinvalidations]
                exact hpriors optimism rfl rfl hfresh
              · -- The commit before the callback was the one store in between.
                obtain ⟨-, hstores, -⟩ := (hundisturbed hsame).2 hthrows
                subst hsame
                rw [client.stores_commit optimism invalidatePrefix choice.now data, hstores]

theorem CacheClient.Current.turn (hcurrent : client.Current key)
    (hpriors : PriorsDated key (thread ::ₘ rest))
    (hundisturbed : Undisturbed key choice thread client rest) :
    (thread.turn choice client).1.Current key := by
  have hdated := hcurrent.dated
  cases thread with
  | setQueryData other updater =>
      exact .of_dated (hdated.stored (fun _ => .inl rfl) choice.now updater) hcurrent.nothingLost
  | invalidate keyPrefix => exact .of_dated (hdated.invalidated keyPrefix) hcurrent.nothingLost
  | financeEvent envelope =>
      refine .of_dated (hdated.foldl_invalidated envelope.prefixes) ?_
      change key ∉ (envelope.prefixes.foldl CacheClient.invalidated client).overwritten
      rw [CacheClient.overwritten_foldl_invalidated]
      exact hcurrent.nothingLost
  | fetch other =>
      exact .of_dated (hdated.recache fun found =>
        FinancialCache.fetchedAt_fetch other client.cache found) hcurrent.nothingLost
  | fetching other invalidations stores =>
      apply hcurrent.settle
      intro data hanswer
      simp only [Undisturbed, hanswer] at hundisturbed
      exact hundisturbed
  | releasing other =>
      exact .of_dated (hdated.recache fun found =>
        FinancialCache.fetchedAt_released other client.cache found) hcurrent.nothingLost
  | mutate options vars =>
      obtain ⟨invalidatePrefix, optimistic⟩ := options
      cases optimistic with
      | none => exact hcurrent
      | some optimistic =>
          exact .of_dated (hdated.stored (fun _ => .inl rfl) choice.now
            fun _ => some (optimistic.updater _ vars)) hcurrent.nothingLost
  | mutating invalidatePrefix optimistic =>
      refine hcurrent.finish (fun optimism hoptimism hsame hfresh => ?_) hundisturbed
      obtain rfl := hoptimism
      exact hpriors _ optimism (Multiset.mem_cons_self ..) hsame hfresh

theorem PriorsDated.turn (hcurrent : client.Current key)
    (hpriors : PriorsDated key (thread ::ₘ rest)) :
    PriorsDated key (((thread.turn choice client).2 : Multiset (CacheThread T V)) + rest) := by
  intro invalidatePrefix optimism hmem hsame hfresh
  rcases Multiset.mem_add.1 hmem with hnew | hold
  · cases thread with
    | mutate options vars =>
        obtain ⟨_, optimistic⟩ := options
        cases optimistic with
        | none => cases List.mem_singleton.1 hnew
        | some optimistic =>
            cases List.mem_singleton.1 hnew
            obtain rfl := hsame
            exact hcurrent.obtainedSince (of_decide_eq_true hfresh)
    | fetch other =>
        have hthreads : CacheThread.mutating invalidatePrefix (some optimism) ∈
            if (client.cache.fetch other).1 = true then
              [CacheThread.fetching other (client.invalidations other) (client.stores other)]
            else ([] : List (CacheThread T V)) := hnew
        split at hthreads
        · cases List.mem_singleton.1 hthreads
        · cases hthreads
    | fetching => cases List.mem_singleton.1 hnew
    | _ => cases hnew
  · exact hpriors _ _ (Multiset.mem_cons_of_mem hold) hsame hfresh

end Undisturbed

theorem CacheThread.mutating_not_isCall {thread : CacheThread T V} (hcall : thread.IsCall)
    (invalidatePrefix : Option String) (optimistic : Option (Optimism T)) :
    .mutating invalidatePrefix optimistic ≠ thread := by
  rintro rfl
  exact hcall

theorem cacheCurrent_of_reaches {key : String}
    (hreach : ((cacheClient T V).restrict (Undisturbed key)).Reaches (freshClient T V) world) :
    world.shared.Current key := by
  have hinv : world.shared.Current key ∧ PriorsDated key world.pending := by
    apply hreach.invariant
      (I := fun world => world.shared.Current key ∧ PriorsDated key world.pending)
    · exact ⟨⟨fun hfresh => absurd hfresh (lt_irrefl 0), List.not_mem_nil⟩, fun _ _ hmem =>
        absurd hmem (Multiset.notMem_zero _)⟩
    · rintro world thread ⟨hcurrent, hpriors⟩ hcall
      refine ⟨hcurrent, fun invalidatePrefix optimism hmem => ?_⟩
      exact hpriors _ _ ((Multiset.mem_cons.1 hmem).resolve_left
        (CacheThread.mutating_not_isCall hcall _ _))
    · rintro shared rest choice thread ⟨hcurrent, hpriors⟩ ⟨_, hundisturbed⟩
      exact ⟨hcurrent.turn hpriors hundisturbed, hpriors.turn hcurrent⟩
  exact hinv.1

/-- Whatever the order of calls and answers, one fetcher runs of a key and what counts as fresh
was stored since the latest invalidation; if no answer of the key comes after another store or an
invalidation of it, it was also obtained since, and nothing newer is overwritten. -/
theorem financialCache_sound (T V : Type) :
    (∀ world, (cacheClient T V).Reaches (freshClient T V) world → CacheSound world) ∧
    ∀ key world, ((cacheClient T V).restrict (Undisturbed key)).Reaches (freshClient T V) world →
        world.shared.Current key :=
  ⟨fun _ hreach => cacheSound_of_reaches hreach, fun _ _ hreach => cacheCurrent_of_reaches hreach⟩

namespace Sample

def walletKey : String := "finance:wallet"

def riskKey : String := "finance:risk"

abbrev CacheTurn := Threads.Turn (CacheThread ℕ ℕ) (CacheChoice ℕ)

def answered (position now amount : ℕ) : CacheTurn := .next position ⟨now, .ok amount, none⟩

def idleCache : Threads.Queue (CacheClient ℕ) (CacheThread ℕ ℕ) := ⟨.initial, []⟩

/-- Two fetches, of which the one of the risk is overtaken by an invalidation, and a mutation of
the wallet that fails. -/
def overtakenRisk : List CacheTurn :=
  [.start (.fetch walletKey), answered 0 1 0, .start (.fetch riskKey), answered 0 1 0,
    .start (.invalidate riskKey), answered 0 2 0, answered 0 3 7, answered 0 3 0,
    answered 0 4 5, answered 0 4 0,
    .start (.mutate ⟨none, some ⟨walletKey, fun _ paid => paid⟩⟩ 2), answered 0 5 0,
    .next 0 ⟨6, .error "declined", none⟩]

def dataSet : List CacheTurn :=
  [.start (.setQueryData walletKey fun _ => some 5), answered 0 1 0]

def served (schedule : List CacheTurn) : Threads.Queue (CacheClient ℕ) (CacheThread ℕ ℕ) :=
  (cacheClient ℕ ℕ).replay schedule idleCache

theorem overtakenRisk_reached :
    ((cacheClient ℕ ℕ).restrict (Undisturbed walletKey)).Reaches (freshClient ℕ ℕ)
      (served overtakenRisk).toWorld := by
  have hidle : ((cacheClient ℕ ℕ).restrict (Undisturbed walletKey)).Reaches (freshClient ℕ ℕ)
      idleCache.toWorld := .refl
  apply hidle.replay
  refine ⟨trivial, ?_, trivial, ?_, trivial, ?_, ?_, ?_, ?_, ?_, trivial, ?_, ?_, trivial⟩
  all_goals
    rintro _ hthread
    cases hthread
    refine ⟨Nat.succ_pos _, ?_⟩
    first
      | exact trivial
      | exact fun hsame => absurd hsame (by decide)
      | exact fun _ => ⟨rfl, rfl⟩
      | exact fun _ => ⟨rfl, rfl, rfl⟩

theorem dataSet_reached : (cacheClient ℕ ℕ).Reaches (freshClient ℕ ℕ) (served dataSet).toWorld := by
  have hidle : (cacheClient ℕ ℕ).Reaches (freshClient ℕ ℕ) idleCache.toWorld := .refl
  exact hidle.replay ⟨trivial, fun _ _ => Nat.one_pos, trivial⟩

end Sample

theorem financialCache_sound_sample :
    CacheSound (Sample.served Sample.overtakenRisk).toWorld ∧
      (Sample.served Sample.overtakenRisk).shared.Current Sample.walletKey :=
  ⟨(financialCache_sound ℕ ℕ).1 _ Sample.overtakenRisk_reached.of_restrict,
    (financialCache_sound ℕ ℕ).2 _ _ Sample.overtakenRisk_reached⟩

theorem financialCache_sound_fails :
    (¬ ∀ world, (cacheClient ℕ ℕ).Reaches (freshClient ℕ ℕ) world →
      CacheSound world ∧ world.shared.overwritten = [] ∧
        ∀ key, 0 < (world.shared.cache.getEntry key).fetchedAt →
          world.shared.origin key = .request (world.shared.invalidations key)) ∧
    ¬ ∀ key world, (cacheClient ℕ ℕ).Reaches (freshClient ℕ ℕ) world →
      world.shared.Current key := by
  constructor
  · intro hall
    have hrequested := (hall _ Sample.dataSet_reached).2.2 Sample.walletKey (by decide +kernel)
    exact absurd hrequested (by decide +kernel)
  · intro hall
    have hobtained := (hall Sample.riskKey _
      Sample.overtakenRisk_reached.of_restrict).obtainedSince (by decide +kernel)
    rcases hobtained with hcaller | hrequest
    · exact absurd hcaller (by decide +kernel)
    · exact absurd hrequest (by decide +kernel)

end SafariLaundry
