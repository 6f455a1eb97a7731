import SafariLaundry.Library.KeyedFold
import SafariLaundry.Library.Leases

/-!
# Presence

`presence.service.ts` keeps in memory who is looking at what.  A heartbeat counts for 45 seconds;
a timer sweeps out, every now and then, what is older.
-/

namespace SafariLaundry

open Library Library.Leases List

inductive PresenceScopeKind
  | customer
  | collectionRow
  | reconciliationRow
  | order
  deriving DecidableEq

def PresenceScopeKind.text : PresenceScopeKind → String
  | .customer => "customer"
  | .collectionRow => "collection-row"
  | .reconciliationRow => "reconciliation-row"
  | .order => "order"

structure PresenceInput where
  (userId username : String)
  fullName : Option String
  safariRole : String
  branchId : Option String
  scopeKind : PresenceScopeKind
  scopeId : String

/-- The instant stands for its ISO text. -/
structure PresenceHeartbeat extends PresenceInput where
  lastSeenAt : ℕ

structure InternalEntry extends PresenceHeartbeat where
  expiresAt : ℕ

def presenceStaleAfterMs : ℕ := 45000

def keyFor (scopeKind : PresenceScopeKind) (scopeId userId : String) : String :=
  scopeKind.text ++ ":" ++ scopeId ++ ":" ++ userId

abbrev PresenceRegistry := OrderedMap String InternalEntry

def PresenceInput.entry (input : PresenceInput) (now : ℕ) : InternalEntry :=
  { input with
    lastSeenAt := now
    expiresAt := now + presenceStaleAfterMs }

namespace PresenceRegistry

variable (entries : PresenceRegistry)

def recordHeartbeat (input : PresenceInput) (now : ℕ) : PresenceHeartbeat × PresenceRegistry :=
  let heartbeat := input.entry now
  (heartbeat.toPresenceHeartbeat,
    entries.set (keyFor input.scopeKind input.scopeId input.userId) heartbeat)

def release (userId : String) (scopeKind : PresenceScopeKind) (scopeId : String) :
    PresenceRegistry :=
  entries.keepWhere fun entry => entry.1 ≠ keyFor scopeKind scopeId userId

def sweep (now : ℕ) : PresenceRegistry :=
  entries.keepWhere fun entry => now < entry.2.expiresAt

def values : List InternalEntry := entries.rows.map Prod.snd

def scopeSnapshot (scopeKind : PresenceScopeKind) (scopeId : String) (now : ℕ) :
    List PresenceHeartbeat :=
  ((entries.values.filter fun entry =>
      (entry.scopeKind = scopeKind ∧ entry.scopeId = scopeId) ∧ now < entry.expiresAt).map
    InternalEntry.toPresenceHeartbeat).insertionSort fun a b => a.lastSeenAt ≤ b.lastSeenAt

def getCustomerPresence (customerId : String) (now : ℕ) : List PresenceHeartbeat :=
  entries.scopeSnapshot .customer customerId now

/-- `prev.expiresAt < entry.expiresAt`; setting what is there already changes nothing. -/
def newest : KeyedFold.Accumulation InternalEntry InternalEntry where
  start := id
  grow := fun prev entry => if prev.expiresAt < entry.expiresAt then entry else prev

/-- Without a branch everybody is asked for. -/
def Asked (branchId : Option String) (entry : InternalEntry) : Prop :=
  ∀ branch ∈ branchId, entry.branchId = some branch
  deriving Decidable

def activeEntries (branchId : Option String) (now : ℕ) : List InternalEntry :=
  entries.values.filter fun entry => now < entry.expiresAt ∧ Asked branchId entry

/-- `collate a b` is `a.localeCompare(b) <= 0`. -/
def getActiveOperators (collate : String → String → Prop) [DecidableRel collate]
    (branchId : Option String) (now : ℕ) : List PresenceHeartbeat :=
  let seen := KeyedFold.collect newest (·.userId) (entries.activeEntries branchId now)
  (seen.rows.map fun entry => entry.2.toPresenceHeartbeat).insertionSort fun a b =>
    collate a.username b.username

end PresenceRegistry

inductive PresenceCall
  | heartbeat (input : PresenceInput) (now : ℕ)
  | release (userId : String) (scopeKind : PresenceScopeKind) (scopeId : String)
  | sweep (now : ℕ)

def PresenceCall.apply (entries : PresenceRegistry) : PresenceCall → PresenceRegistry
  | .heartbeat input now => (entries.recordHeartbeat input now).2
  | .release userId scopeKind scopeId => entries.release userId scopeKind scopeId
  | .sweep now => entries.sweep now

/-- The registry after these calls, of which the first is the latest. -/
def presenceAfter (calls : List PresenceCall) : PresenceRegistry :=
  calls.foldr (fun call entries => call.apply entries) Table.empty

/-- The ids of users are those of `uuid()`, without a colon. -/
def PresenceCall.PlainUser : PresenceCall → Prop
  | .heartbeat input _ => ':' ∉ input.userId.toList
  | .release userId _ _ => ':' ∉ userId.toList
  | .sweep _ => True

/-! ## The leases behind the registry -/

abbrev PresenceScope := PresenceScopeKind × String × String

def PresenceScope.key (scope : PresenceScope) : String := keyFor scope.1 scope.2.1 scope.2.2

def PresenceInput.scope (input : PresenceInput) : PresenceScope :=
  (input.scopeKind, input.scopeId, input.userId)

def PresenceCall.deed : PresenceCall → Deed PresenceScope InternalEntry
  | .heartbeat input now => .grant input.scope (input.entry now)
  | .release userId scopeKind scopeId => .release (scopeKind, scopeId, userId)
  | .sweep now => .sweep now

/-- The last word of the user about the scope is this heartbeat, less than 45 seconds ago. -/
def Present (calls : List PresenceCall) (now : ℕ) (entry : InternalEntry) : Prop :=
  standing entry.scope (calls.map PresenceCall.deed) = some entry ∧ now < entry.expiresAt

def keyedDeeds (calls : List PresenceCall) : List (Deed String InternalEntry) :=
  (calls.map PresenceCall.deed).map (Deed.rekey PresenceScope.key)

theorem presenceAfter_eq_register (calls : List PresenceCall) :
    presenceAfter calls = register InternalEntry.expiresAt (keyedDeeds calls) := by
  induction calls with
  | nil => rfl
  | cons call calls ih =>
      change call.apply (presenceAfter calls) = Deed.apply _ (register _ (keyedDeeds calls)) _
      rw [← ih]
      cases call <;> rfl

theorem separated_inj {first first' rest rest' : List Char} (hfirst : ':' ∉ first)
    (hfirst' : ':' ∉ first') (hsame : first ++ ':' :: rest = first' ++ ':' :: rest') :
    first = first' ∧ rest = rest' := by
  have hstart : ∀ (text rest : List Char), ':' ∉ text →
      (text ++ ':' :: rest).takeWhile (· ≠ ':') = text := by
    intro text rest htext
    rw [takeWhile_append_of_pos]
    · simp
    · intro c hc
      exact decide_eq_true fun hcolon => htext (hcolon ▸ hc)
  have htexts : first = first' := by
    rw [← hstart first rest hfirst, hsame, hstart first' rest' hfirst']
  subst htexts
  exact ⟨rfl, (List.cons.inj (append_cancel_left hsame)).2⟩

theorem PresenceScopeKind.text_plain (kind : PresenceScopeKind) : ':' ∉ kind.text.toList := by
  cases kind <;> decide

theorem PresenceScopeKind.text_injective : Function.Injective PresenceScopeKind.text := by
  intro kind kind' hsame
  cases kind <;> cases kind' <;> first | rfl | exact absurd hsame (by decide)

theorem PresenceScope.key_inj {scope scope' : PresenceScope} (huser : ':' ∉ scope.2.2.toList)
    (huser' : ':' ∉ scope'.2.2.toList) (hsame : scope.key = scope'.key) : scope = scope' := by
  obtain ⟨kind, scopeId, userId⟩ := scope
  obtain ⟨kind', scopeId', userId'⟩ := scope'
  have htext := congrArg String.toList hsame
  simp only [key, keyFor, String.toList_append, append_assoc] at htext
  obtain ⟨hkind, hrest⟩ := separated_inj kind.text_plain kind'.text_plain htext
  -- The user is what follows the last colon.
  have hreversed : userId.toList.reverse ++ ':' :: scopeId.toList.reverse =
      userId'.toList.reverse ++ ':' :: scopeId'.toList.reverse := by
    simpa using congrArg List.reverse hrest
  obtain ⟨hid, hscope⟩ := separated_inj (by simpa using huser) (by simpa using huser') hreversed
  rw [PresenceScopeKind.text_injective (String.toList_inj.1 hkind),
    String.toList_inj.1 (reverse_inj.1 hid), String.toList_inj.1 (reverse_inj.1 hscope)]

theorem made_newest {list : List InternalEntry} {entry : InternalEntry}
    (hmade : PresenceRegistry.newest.made list = some entry) :
    entry ∈ list ∧ ∀ other ∈ list, other.expiresAt ≤ entry.expiresAt := by
  apply KeyedFold.Accumulation.made_invariant
    (P := fun list entry => entry ∈ list ∧ ∀ other ∈ list, other.expiresAt ≤ entry.expiresAt)
    _ _ hmade
  · intro row
    exact ⟨mem_singleton_self row, forall_mem_singleton.2 le_rfl⟩
  · intro rows prev row ⟨hmem, hnewest⟩
    simp only [PresenceRegistry.newest, mem_append, mem_singleton]
    split_ifs with hlater
    · refine ⟨.inr rfl, ?_⟩
      rintro other (hother | rfl)
      · exact (hnewest other hother).trans hlater.le
      · exact le_rfl
    · refine ⟨.inl hmem, ?_⟩
      rintro other (hother | rfl)
      · exact hnewest other hother
      · exact not_lt.1 hlater

variable {calls : List PresenceCall} {now : ℕ}

theorem swept_rekey (hswept : SweptBefore now (calls.map PresenceCall.deed)) :
    SweptBefore now (keyedDeeds calls) := by
  intro t ht
  obtain ⟨deed, hdeed, hrekeyed⟩ := mem_map.1 ht
  cases deed with
  | grant => cases hrekeyed
  | release => cases hrekeyed
  | sweep t' =>
      obtain rfl := Deed.sweep.inj hrekeyed
      exact hswept t' hdeed

section Runs

variable (hplain : ∀ call ∈ calls, call.PlainUser)
include hplain

theorem plain_of_grant {scope : PresenceScope} {entry : InternalEntry}
    (hgrant : .grant scope entry ∈ calls.map PresenceCall.deed) :
    scope = entry.scope ∧ ':' ∉ entry.userId.toList := by
  obtain ⟨call, hcall, hdeed⟩ := mem_map.1 hgrant
  have hchars := hplain call hcall
  cases call with
  | heartbeat input t =>
      obtain ⟨rfl, rfl⟩ := Deed.grant.inj hdeed
      exact ⟨rfl, hchars⟩
  | release => cases hdeed
  | sweep => cases hdeed

theorem standing_key {scope : PresenceScope} (huser : ':' ∉ scope.2.2.toList) :
    standing scope.key (keyedDeeds calls) = standing scope (calls.map PresenceCall.deed) := by
  apply standing_rekey
  intro deed hdeed
  obtain ⟨call, hcall, rfl⟩ := mem_map.1 hdeed
  have hchars := hplain call hcall
  cases call with
  | heartbeat input t => exact fun hclash => hclash.1 (PresenceScope.key_inj hchars huser hclash.2)
  | release userId kind scopeId =>
      exact fun hclash => hclash.1 (PresenceScope.key_inj hchars huser hclash.2)
  | sweep => exact id

theorem key_of_mem_presenceAfter :
    ∀ row ∈ (presenceAfter calls).rows, row.1 = row.2.scope.key ∧ ':' ∉ row.2.userId.toList := by
  rw [presenceAfter_eq_register]
  apply forall_mem_register
  intro key entry hgrant
  obtain ⟨deed, hdeed, hrekeyed⟩ := mem_map.1 hgrant
  cases deed with
  | grant scope lease =>
      obtain ⟨rfl, rfl⟩ := Deed.grant.inj hrekeyed
      obtain ⟨rfl, hchars⟩ := plain_of_grant hplain hdeed
      exact ⟨rfl, hchars⟩
  | release => cases hrekeyed
  | sweep => cases hrekeyed

theorem mem_values_iff (hswept : SweptBefore now (calls.map PresenceCall.deed))
    {entry : InternalEntry} :
    entry ∈ (presenceAfter calls).values ∧ now < entry.expiresAt ↔ Present calls now entry := by
  unfold Present PresenceRegistry.values
  apply and_congr_left
  intro hlive
  have hrow : (entry.scope.key, entry) ∈ (presenceAfter calls).rows ↔
      standing entry.scope.key (keyedDeeds calls) = some entry := by
    rw [presenceAfter_eq_register]
    exact mem_register (swept_rekey hswept) hlive
  constructor
  · intro hmem
    obtain ⟨row, hfound, rfl⟩ := mem_map.1 hmem
    obtain ⟨hkey, huser⟩ := key_of_mem_presenceAfter hplain row hfound
    have hself : (row.2.scope.key, row.2) = row := Prod.ext hkey.symm rfl
    rw [← standing_key hplain huser]
    exact hrow.1 (hself ▸ hfound)
  · intro hstanding
    have huser := (plain_of_grant hplain (grant_of_standing hstanding)).2
    rw [← standing_key hplain huser] at hstanding
    exact mem_map.2 ⟨_, hrow.2 hstanding, rfl⟩

theorem nodup_values : (presenceAfter calls).values.Pairwise fun a b => a.scope ≠ b.scope := by
  have hkeys := (presenceAfter calls).keysDistinct
  rw [List.Nodup, pairwise_map] at hkeys
  rw [PresenceRegistry.values, pairwise_map]
  refine hkeys.imp_of_mem fun {a b} ha hb hne => ?_
  intro hsame
  apply hne
  rw [(key_of_mem_presenceAfter hplain a ha).1, (key_of_mem_presenceAfter hplain b hb).1, hsame]

end Runs

/-- On a scope: a row of each user present there, the one that was seen first on top. -/
def ScopesShown (calls : List PresenceCall) (now : ℕ) : Prop :=
  ∀ kind scopeId, let shown := (presenceAfter calls).scopeSnapshot kind scopeId now
    (∀ row, row ∈ shown ↔ ∃ entry, Present calls now entry ∧
      (entry.scopeKind = kind ∧ entry.scopeId = scopeId) ∧ entry.toPresenceHeartbeat = row) ∧
    (shown.map (·.userId)).Nodup ∧ shown.Pairwise fun a b => a.lastSeenAt ≤ b.lastSeenAt

/-- All over: one row of each user present anywhere, the newest that the user has. -/
def OperatorsShown (collate : String → String → Prop) [DecidableRel collate]
    (calls : List PresenceCall) (now : ℕ) : Prop :=
  ∀ branchId, let shown := (presenceAfter calls).getActiveOperators collate branchId now
    (∀ row ∈ shown, ∃ entry, Present calls now entry ∧ PresenceRegistry.Asked branchId entry ∧
      entry.toPresenceHeartbeat = row ∧ ∀ other, Present calls now other →
        PresenceRegistry.Asked branchId other → other.userId = entry.userId →
          other.expiresAt ≤ entry.expiresAt) ∧
    (∀ entry, Present calls now entry → PresenceRegistry.Asked branchId entry →
      entry.userId ∈ shown.map (·.userId)) ∧
    (shown.map (·.userId)).Nodup

/-- What is read after these calls, however often the timer swept in between; a sweep leaves
what is present and nothing else. -/
structure PresenceShown (collate : String → String → Prop) [DecidableRel collate]
    (calls : List PresenceCall) (now : ℕ) : Prop where
  scopes : ScopesShown calls now
  operators : OperatorsShown collate calls now
  swept : ∀ entry, entry ∈ ((presenceAfter calls).sweep now).values ↔ Present calls now entry

section Readers

variable (hplain : ∀ call ∈ calls, call.PlainUser)
  (hswept : SweptBefore now (calls.map PresenceCall.deed))
include hplain hswept

theorem scopes_shown : ScopesShown calls now := by
  intro kind scopeId
  refine ⟨?_, ?_, ?_⟩
  · intro row
    unfold PresenceRegistry.scopeSnapshot
    rw [mem_insertionSort, mem_map]
    apply exists_congr
    intro entry
    rw [mem_filter, decide_eq_true_eq, ← mem_values_iff hplain hswept]
    tauto
  · unfold PresenceRegistry.scopeSnapshot
    refine ((perm_insertionSort ..).map _).nodup_iff.2 ?_
    rw [map_map, List.Nodup, pairwise_map]
    refine ((nodup_values hplain).filter _).imp_of_mem fun {a b} ha hb hne hsame => hne ?_
    have hscope := (of_decide_eq_true (mem_filter.1 ha).2).1
    have hscope' := (of_decide_eq_true (mem_filter.1 hb).2).1
    exact Prod.ext (hscope.1.trans hscope'.1.symm) (Prod.ext (hscope.2.trans hscope'.2.symm) hsame)
  · unfold PresenceRegistry.scopeSnapshot
    exact pairwise_insertionSort ..

theorem mem_activeEntries {branchId : Option String} {entry : InternalEntry} :
    entry ∈ (presenceAfter calls).activeEntries branchId now ↔
      Present calls now entry ∧ PresenceRegistry.Asked branchId entry := by
  rw [PresenceRegistry.activeEntries, mem_filter, decide_eq_true_eq, ← and_assoc,
    mem_values_iff hplain hswept]

theorem operators_shown (collate : String → String → Prop) [DecidableRel collate] :
    OperatorsShown collate calls now := by
  intro branchId
  have hmade : ∀ row ∈ (KeyedFold.collect PresenceRegistry.newest (·.userId)
      ((presenceAfter calls).activeEntries branchId now)).rows, row.2.userId = row.1 ∧
        (Present calls now row.2 ∧ PresenceRegistry.Asked branchId row.2) ∧
        ∀ other, Present calls now other → PresenceRegistry.Asked branchId other →
          other.userId = row.1 → other.expiresAt ≤ row.2.expiresAt := by
    intro row hrow
    obtain ⟨hmem, hnewest⟩ := made_newest ((KeyedFold.mem_collect _ _).1 hrow)
    rw [mem_filter, mem_activeEntries hplain hswept, decide_eq_true_eq] at hmem
    refine ⟨hmem.2, hmem.1, ?_⟩
    intro other hpresent hasked huser
    apply hnewest
    rw [mem_filter, mem_activeEntries hplain hswept, decide_eq_true_eq]
    exact ⟨⟨hpresent, hasked⟩, huser⟩
  refine ⟨?_, ?_, ?_⟩
  · intro row hrow
    unfold PresenceRegistry.getActiveOperators at hrow
    rw [mem_insertionSort] at hrow
    obtain ⟨found, hfound, rfl⟩ := mem_map.1 hrow
    obtain ⟨huser, ⟨hpresent, hasked⟩, hnewest⟩ := hmade found hfound
    refine ⟨found.2, hpresent, hasked, rfl, ?_⟩
    intro other hother hasked' hsame
    exact hnewest other hother hasked' (hsame.trans huser)
  · intro entry hpresent hasked
    have hkey : entry.userId ∈ (KeyedFold.collect PresenceRegistry.newest (·.userId)
        ((presenceAfter calls).activeEntries branchId now)).keys :=
      (KeyedFold.mem_keys_collect _ _).2
        ⟨entry, (mem_activeEntries hplain hswept).2 ⟨hpresent, hasked⟩, rfl⟩
    obtain ⟨found, hfound, hsame⟩ := mem_map.1 hkey
    refine mem_map.2 ⟨found.2.toPresenceHeartbeat, ?_, (hmade found hfound).1.trans hsame⟩
    unfold PresenceRegistry.getActiveOperators
    rw [mem_insertionSort]
    exact mem_map.2 ⟨found, hfound, rfl⟩
  · unfold PresenceRegistry.getActiveOperators
    refine ((perm_insertionSort ..).map _).nodup_iff.2 ?_
    rw [map_map]
    have hkeys := OrderedMap.keys_nodup (KeyedFold.collect PresenceRegistry.newest (·.userId)
      ((presenceAfter calls).activeEntries branchId now))
    have husers : ∀ row ∈ (KeyedFold.collect PresenceRegistry.newest (·.userId)
        ((presenceAfter calls).activeEntries branchId now)).rows, row.2.userId = row.1 :=
      fun row hrow => (hmade row hrow).1
    exact (map_congr_left husers).symm ▸ hkeys

theorem presence_shown (collate : String → String → Prop) [DecidableRel collate] :
    PresenceShown collate calls now where
  scopes := scopes_shown hplain hswept
  operators := operators_shown hplain hswept collate
  swept := by
    intro entry
    rw [← mem_values_iff hplain hswept]
    unfold PresenceRegistry.values PresenceRegistry.sweep OrderedMap.keepWhere
    rw [← decide_eq_true_eq (p := now < entry.expiresAt)]
    constructor
    · intro hentry
      obtain ⟨row, hrow, rfl⟩ := mem_map.1 hentry
      obtain ⟨hmem, hlive⟩ := mem_filter.1 hrow
      exact ⟨mem_map_of_mem hmem, hlive⟩
    · rintro ⟨hentry, hlive⟩
      obtain ⟨row, hrow, rfl⟩ := mem_map.1 hentry
      exact mem_map_of_mem (mem_filter.2 ⟨hrow, hlive⟩)

end Readers

namespace Sample

def operator (userId : String) : PresenceInput where
  userId := userId
  username := userId
  fullName := none
  safariRole := "CALL_CENTER"
  branchId := none
  scopeKind := .customer
  scopeId := "c:1"

/-- The first of two operators has left without a word. -/
def presenceCalls : List PresenceCall :=
  [.sweep 46000, .heartbeat (operator "u2") 20000, .heartbeat (operator "u1") 0]

end Sample

theorem presence_shown_sample : PresenceShown (· ≤ ·) Sample.presenceCalls 50000 :=
  presence_shown (by simp [Sample.presenceCalls, PresenceCall.PlainUser, Sample.operator])
    (by simp [Sample.presenceCalls, SweptBefore, PresenceCall.deed]) (· ≤ ·)

end SafariLaundry
