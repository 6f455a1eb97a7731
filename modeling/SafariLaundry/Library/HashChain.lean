import Mathlib

/-!
# Hash chains

Each link of a chain names the hash of the link before it, and its own hash is the
digest of that hash and its payload.  The first link names a marker that is no digest.
The hash of the last link then determines all of them.
-/

namespace Library.HashChain

open List

/-- A link names the hash of the one before it. -/
structure Link (H P : Type) where
  prev : H
  payload : P
  hash : H

variable {H P : Type} (digest : H → P → H)

/-- Every link fits the head it was appended to. -/
def Chained : H → List (Link H P) → Prop
  | _, [] => True
  | head, link :: rest =>
      link.prev = head ∧ link.hash = digest head link.payload ∧ Chained link.hash rest

def chainHead (genesis : H) (links : List (Link H P)) : H :=
  (links.getLast?.map Link.hash).getD genesis

@[simp] theorem chainHead_nil (genesis : H) :
    chainHead genesis ([] : List (Link H P)) = genesis := rfl

theorem chainHead_cons (genesis : H) (link : Link H P) (rest : List (Link H P)) :
    chainHead genesis (link :: rest) = chainHead link.hash rest := by
  cases rest with
  | nil => rfl
  | cons second rest =>
      unfold chainHead
      rw [List.getLast?_cons_cons, List.getLast?_cons]
      rfl

@[simp] theorem chainHead_concat (genesis : H) (links : List (Link H P)) (link : Link H P) :
    chainHead genesis (links ++ [link]) = link.hash := by
  unfold chainHead
  rw [List.getLast?_concat]
  rfl

variable {digest}

variable {genesis : H} {links : List (Link H P)}

/-- A chain grows at its end. -/
theorem chained_concat {link : Link H P} :
    Chained digest genesis (links ++ [link]) ↔
      Chained digest genesis links ∧ link.prev = chainHead genesis links ∧
        link.hash = digest (chainHead genesis links) link.payload := by
  induction links generalizing genesis with
  | nil => simp [Chained]
  | cons first rest ih =>
      rw [cons_append, Chained, Chained, ih, chainHead_cons]
      constructor
      · rintro ⟨hprev, hhash, hrest, hlink⟩
        exact ⟨⟨hprev, hhash, hrest⟩, hlink⟩
      · rintro ⟨⟨hprev, hhash, hrest⟩, hlink⟩
        exact ⟨hprev, hhash, hrest, hlink⟩

theorem Chained.chainHead_eq (hchained : Chained digest genesis links) :
    chainHead genesis links = genesis ∨
      ∃ link ∈ links, chainHead genesis links = digest link.prev link.payload := by
  rcases eq_nil_or_concat' links with rfl | ⟨before, link, rfl⟩
  · exact .inl rfl
  · obtain ⟨_, hprev, hhash⟩ := chained_concat.1 hchained
    refine .inr ⟨link, by simp, ?_⟩
    rw [chainHead_concat, hprev]
    exact hhash

theorem Chained.prev_eq (hchained : Chained digest genesis links) :
    ∀ link ∈ links, link.prev = genesis ∨
      ∃ other ∈ links, link.prev = digest other.prev other.payload := by
  induction links using List.reverseRecOn with
  | nil =>
      intro link hlink
      cases hlink
  | append_singleton before last ih =>
      obtain ⟨hbefore, hprev, _⟩ := chained_concat.1 hchained
      intro link hlink
      rcases mem_append.1 hlink with hold | hlast
      · rcases ih hbefore link hold with hgenesis | ⟨other, hother, hdigest⟩
        · exact .inl hgenesis
        · exact .inr ⟨other, mem_append_left _ hother, hdigest⟩
      · obtain rfl := mem_singleton.1 hlast
        rw [hprev]
        rcases hbefore.chainHead_eq with hgenesis | ⟨other, hother, hdigest⟩
        · exact .inl hgenesis
        · exact .inr ⟨other, mem_append_left _ hother, hdigest⟩

/-- Two chains of one head are equal, unless two of their texts collide or one gives the marker. -/
theorem Chained.eq_of_chainHead_eq {links' : List (Link H P)}
    (hchained : Chained digest genesis links) (hchained' : Chained digest genesis links')
    (hinjective : ∀ link ∈ links, ∀ link' ∈ links',
      digest link.prev link.payload = digest link'.prev link'.payload →
        link.prev = link'.prev ∧ link.payload = link'.payload)
    (hgenesis : ∀ link ∈ links ++ links', digest link.prev link.payload ≠ genesis)
    (hhead : chainHead genesis links = chainHead genesis links') :
    links = links' := by
  induction links using List.reverseRecOn generalizing links' with
  | nil =>
      rcases eq_nil_or_concat' links' with rfl | ⟨before', link', rfl⟩
      · rfl
      · obtain ⟨_, hprev', hhash'⟩ := chained_concat.1 hchained'
        rw [chainHead_nil, chainHead_concat, hhash', ← hprev'] at hhead
        exact absurd hhead.symm (hgenesis link' (by simp))
  | append_singleton before link ih =>
      obtain ⟨hbefore, hprev, hhash⟩ := chained_concat.1 hchained
      rcases eq_nil_or_concat' links' with rfl | ⟨before', link', rfl⟩
      · rw [chainHead_nil, chainHead_concat, hhash, ← hprev] at hhead
        exact absurd hhead (hgenesis link (by simp))
      · obtain ⟨hbefore', hprev', hhash'⟩ := chained_concat.1 hchained'
        rw [chainHead_concat, chainHead_concat] at hhead
        have hdigest : digest link.prev link.payload = digest link'.prev link'.payload := by
          rw [hprev, hprev', ← hhash, ← hhash', hhead]
        obtain ⟨hprevs, hpayloads⟩ :=
          hinjective link (by simp) link' (by simp) hdigest
        have hheads : chainHead genesis before = chainHead genesis before' := by
          rw [← hprev, ← hprev', hprevs]
        have hrest : before = before' := by
          apply ih hbefore hbefore'
          · intro first hfirst second hsecond
            exact hinjective first (mem_append_left _ hfirst) second
              (mem_append_left _ hsecond)
          · intro other hother
            apply hgenesis other
            rcases mem_append.1 hother with hold | hold
            · exact mem_append_left _ (mem_append_left _ hold)
            · exact mem_append_right _ (mem_append_left _ hold)
          · exact hheads
        have hlink : link = link' := by
          cases link
          cases link'
          simp_all
        rw [hrest, hlink]

end Library.HashChain
