import Mathlib

/-!
# What a stable sort shows of the order of its input

Elements between which the order does not decide keep the order in which they came.  What is
read off the sorted list is the same for every permutation of the input exactly if nothing
read off two such elements differs.
-/

namespace Library

namespace StableSort

open List

variable {ε ρ : Type} {before : ε → ε → Prop}

/-- The order does not decide between the two. -/
def Ties (before : ε → ε → Prop) (first second : ε) : Prop :=
  before first second ∧ before second first

theorem ties_refl [Std.Total before] (element : ε) : Ties before element element :=
  have hself := (total_of before element element).elim id id
  ⟨hself, hself⟩

theorem Ties.symm {first second : ε} (hties : Ties before first second) :
    Ties before second first :=
  ⟨hties.2, hties.1⟩

theorem Ties.trans [IsTrans ε before] {first second third : ε} (hfirst : Ties before first second)
    (hsecond : Ties before second third) : Ties before first third :=
  ⟨trans_of before hfirst.1 hsecond.1, trans_of before hsecond.2 hfirst.2⟩

theorem filter_ties_insertionSort [DecidableRel before] [IsTrans ε before] (element : ε) (list : List ε)
    [DecidablePred fun other => Ties before element other] :
    (list.insertionSort before).filter (fun other => Ties before element other) =
      list.filter fun other => Ties before element other := by
  have hpairs : (list.filter fun other => Ties before element other).Pairwise before := by
    apply pairwise_of_forall_mem_list
    intro first hfirst second hsecond
    have hfirst : Ties before element first := by simpa using (mem_filter.1 hfirst).2
    have hsecond : Ties before element second := by simpa using (mem_filter.1 hsecond).2
    exact (hfirst.symm.trans hsecond).1
  have hsub := (sublist_insertionSort hpairs filter_sublist).filter
    fun other => Ties before element other
  rw [filter_filter] at hsub
  simp only [Bool.and_self] at hsub
  have hlength := ((perm_insertionSort before list).filter
    fun other => Ties before element other).length_eq
  exact (hsub.eq_of_length hlength.symm).symm

theorem map_eq_of_sorted_perm (read : ε → ρ) : ∀ {first second : List ε}, first.Perm second →
    first.Pairwise before → second.Pairwise before →
    (∀ a ∈ first, ∀ b ∈ first, Ties before a b → read a = read b) →
    first.map read = second.map read := by
  intro first
  induction first with
  | nil =>
      intro second hperm _ _ _
      rw [nil_perm.1 hperm]
  | cons head rest ih =>
      intro second hperm hfirst hsecond hread
      -- what stands before the head in the second list ties with it
      obtain ⟨earlier, later, rfl⟩ := append_of_mem (hperm.subset (mem_cons_self ..))
      have hrest : rest.Perm (earlier ++ later) :=
        (perm_cons head).1 (hperm.trans perm_middle)
      have hearlier : earlier.map read = List.replicate earlier.length (read head) := by
        rw [eq_replicate_iff]
        refine ⟨length_map .., fun value hvalue => ?_⟩
        obtain ⟨other, hother, rfl⟩ := mem_map.1 hvalue
        have hmem : other ∈ rest := hrest.symm.subset (mem_append_left _ hother)
        refine hread other (.tail _ hmem) head (mem_cons_self ..) ⟨?_, ?_⟩
        · exact (pairwise_append.1 hsecond).2.2 other hother head (mem_cons_self ..)
        · exact (pairwise_cons.1 hfirst).1 other hmem
      have hsub : (earlier ++ later).Sublist (earlier ++ head :: later) :=
        (List.Sublist.refl _).append (sublist_cons_self ..)
      rw [map_cons, ih hrest (pairwise_cons.1 hfirst).2 (hsecond.sublist hsub)
        fun a ha b hb => hread a (.tail _ ha) b (.tail _ hb)]
      rw [map_append, map_append, map_cons, hearlier, ← cons_append,
        ← replicate_succ, replicate_succ', append_assoc]
      rfl

theorem map_insertionSort_perm_iff [DecidableRel before] [Std.Total before] [IsTrans ε before]
    {read : ε → ρ} (hread : ∀ a b, read a = read b → Ties before a b) (list : List ε) :
    (∀ list' : List ε, list'.Perm list →
      (list'.insertionSort before).map read = (list.insertionSort before).map read) ↔
    ∀ a ∈ list, ∀ b ∈ list, Ties before a b → read a = read b := by
  classical
  constructor
  · intro hsame a ha b hb hties
    by_cases heq : a = b
    · rw [heq]
    obtain ⟨rest, hrest⟩ : ∃ rest, (a :: b :: rest).Perm list := by
      refine ⟨(list.erase a).erase b, ?_⟩
      have hmem : b ∈ list.erase a := (mem_erase_of_ne (Ne.symm heq)).2 hb
      exact (((perm_cons_erase hmem).symm.cons a).trans (perm_cons_erase ha).symm)
    have hboth : ((a :: b :: rest).insertionSort before).map read =
        ((b :: a :: rest).insertionSort before).map read :=
      (hsame _ hrest).trans (hsame _ ((List.Perm.swap a b rest).trans hrest)).symm
    -- on both sides, those that tie with the first element stand as they came
    have hfilter : ∀ sorted : List ε,
        (sorted.map read).filter (fun value => ∃ other, read other = value ∧ Ties before a other) =
          (sorted.filter fun other => Ties before a other).map read := by
      intro sorted
      rw [filter_map]
      congr 1
      apply filter_congr
      intro other _
      simp only [Function.comp, decide_eq_decide]
      constructor
      · rintro ⟨same, hvalue, hsameTies⟩
        exact hsameTies.trans (hread same other hvalue)
      · intro htie
        exact ⟨other, rfl, htie⟩
    have hheads := congrArg
      (List.filter fun value => ∃ other, read other = value ∧ Ties before a other) hboth
    rw [hfilter, hfilter, filter_ties_insertionSort, filter_ties_insertionSort] at hheads
    simp only [filter_cons, ties_refl a, hties, decide_true, if_true, map_cons,
      List.cons.injEq] at hheads
    exact hheads.1
  · intro hties list' hperm
    have hsorted := ((perm_insertionSort before list').trans hperm).trans
      (perm_insertionSort before list).symm
    apply map_eq_of_sorted_perm read hsorted (pairwise_insertionSort _ _)
      (pairwise_insertionSort _ _)
    intro a ha b hb
    have hin : ∀ c ∈ list'.insertionSort before, c ∈ list := fun c hc =>
      hperm.subset ((mem_insertionSort before).1 hc)
    exact hties a (hin a ha) b (hin b hb)

theorem map_perm_iff (read : ε → ρ) (list : List ε) :
    (∀ list' : List ε, list'.Perm list → list'.map read = list.map read) ↔
      ∀ a ∈ list, ∀ b ∈ list, read a = read b := by
  classical
  constructor
  · intro hsame a ha b hb
    have hfront : ∀ c ∈ list, list.map read = read c :: (list.erase c).map read := fun c hc =>
      (hsame _ (perm_cons_erase hc).symm).symm
    exact (List.cons.inj ((hfront a ha).symm.trans (hfront b hb))).1
  · intro hall list' hperm
    cases list with
    | nil => rw [perm_nil.1 hperm]
    | cons head rest =>
        have hconst : ∀ c ∈ head :: rest, read c = read head := fun c hc =>
          hall c hc head (mem_cons_self ..)
        have hread : ∀ other : List ε, (∀ c ∈ other, c ∈ head :: rest) →
            other.map read = List.replicate other.length (read head) := by
          intro other hother
          rw [eq_replicate_iff]
          refine ⟨length_map .., fun value hvalue => ?_⟩
          obtain ⟨c, hc, rfl⟩ := mem_map.1 hvalue
          exact hconst c (hother c hc)
        rw [hread list' fun c hc => hperm.subset hc, hread _ fun c hc => hc, hperm.length_eq]

theorem before_of_head?_filter [Std.Total before] {p : ε → Prop} [DecidablePred p] {list : List ε}
    {first : ε} (hsorted : list.Pairwise before) (hfirst : (list.filter p).head? = some first) :
    ∀ other ∈ list, p other → before first other := by
  intro other hother hp
  have hmem : other ∈ list.filter p := mem_filter.2 ⟨hother, decide_eq_true hp⟩
  obtain ⟨rest, hrest⟩ := List.head?_eq_some_iff.1 hfirst
  have hpairs := hsorted.filter (fun element => decide (p element))
  rw [hrest] at hpairs hmem
  rcases mem_cons.1 hmem with rfl | hlater
  · exact (ties_refl other).1
  · exact (pairwise_cons.1 hpairs).1 other hlater

theorem head?_filter_orderedInsert [DecidableRel before] {p : ε → Prop} [DecidablePred p]
    {element : ε} (hp : p element) : ∀ {list : List ε},
    (∀ other ∈ list, p other → before element other) →
      ((list.orderedInsert before element).filter p).head? = some element := by
  intro list
  induction list with
  | nil => intro _; simp [hp]
  | cons head rest ih =>
      intro hbefore
      rw [orderedInsert_cons]
      split_ifs with hhead
      · simp [hp]
      · have hnot : ¬ p head := fun hphead => hhead (hbefore head (mem_cons_self ..) hphead)
        simp only [filter_cons, hnot, decide_false, Bool.false_eq_true, if_false]
        exact ih fun other hother => hbefore other (mem_cons_of_mem _ hother)

theorem head?_filter_insertionSort_cons [DecidableRel before] {p : ε → Prop} [DecidablePred p]
    {element : ε} {rest : List ε} (hp : p element)
    (hbefore : ∀ other ∈ rest, p other → before element other) :
    (((element :: rest).insertionSort before).filter p).head? = some element := by
  apply head?_filter_orderedInsert hp
  intro other hother
  exact hbefore other ((mem_insertionSort before).1 hother)

end StableSort

end Library
