import Mathlib.Data.List.Perm.Basic
import Throttle.Store.SortedSet

/-!
# Counting the members of a sorted set

How many members of a sorted set have scores with a property is all that a script asks of it. An
addition of a new member and the removal of low scores change these numbers as they change a list.

## Main definitions

* `SortedSet.scoring s p`: the number of members whose scores satisfy `p`
* `SortedSet.addAll s score members`: the set with more members of one score

## Main results

* `SortedSet.filter_low_eq`, `SortedSet.count_eq_length`: low scores and ranges of scores are
  stretches of the ranking
* `SortedSet.Coherent.scoring_add`, `SortedSet.Coherent.scoring_addAll`: new members count
* `SortedSet.Coherent.scoring_removeBelow`: low scores no longer count
-/

namespace Throttle

namespace SortedSet

/-- The number of members whose scores satisfy `p`. -/
def scoring (s : SortedSet) (p : Int → Bool) : Nat := s.ranked.toList.countP fun e => p e.1

/-- The set with more members, all of the same score. -/
def addAll (s : SortedSet) (score : Int) (members : List String) : SortedSet :=
  members.foldl (·.add score ·) s

theorem count_eq_scoring (s : SortedSet) (low high : Int) :
    s.count low high = s.scoring fun score => decide (low ≤ score) && decide (score ≤ high) := rfl

theorem size_eq_scoring (s : SortedSet) : s.size = s.scoring fun _ => true := by
  simp [size, scoring, Std.TreeSet.length_toList]

@[simp] theorem scoring_empty (p : Int → Bool) : (∅ : SortedSet).scoring p = 0 := by
  simp [scoring]

/-- A set with members that satisfy a property is not empty. -/
theorem isEmpty_of_scoring_pos {s : SortedSet} {p : Int → Bool} (h : 0 < s.scoring p) :
    s.isEmpty = false := by
  obtain ⟨e, member, -⟩ := List.countP_pos_iff.1 h
  rw [isEmpty, ← Std.TreeSet.isEmpty_toList]
  exact List.isEmpty_eq_false_iff.2 (List.ne_nil_of_mem member)

theorem nodup_ranked (s : SortedSet) : s.ranked.toList.Nodup := by
  refine List.Pairwise.imp ?_ (Std.TreeSet.distinct_toList (t := s.ranked))
  rintro e _ different rfl
  exact different Std.ReflCmp.compare_self

@[simp] theorem addAll_nil (s : SortedSet) (score : Int) : s.addAll score [] = s := rfl

@[simp] theorem addAll_cons (s : SortedSet) (score : Int) (member : String)
    (members : List String) :
    s.addAll score (member :: members) = (s.add score member).addAll score members := rfl

/-- A member that is not among the new ones keeps its score. -/
theorem score?_addAll (s : SortedSet) (score : Int) (members : List String) (member : String) :
    (s.addAll score members).score? member =
      if member ∈ members then some score else s.score? member := by
  induction members generalizing s with
  | nil => simp
  | cons first members ih =>
    rw [addAll_cons, ih, score?_add]
    grind

theorem score?_foldl_remove (s : SortedSet) (entries : List (Int × String)) (member : String) :
    (entries.foldl (fun s e => s.remove e.2) s).score? member =
      if member ∈ entries.map Prod.snd then none else s.score? member := by
  induction entries generalizing s with
  | nil => simp
  | cons e entries ih =>
    rw [List.foldl_cons, ih, score?_remove]
    grind

/-! ## Stretches of the ranking -/

/-- What satisfies `p` stands in front if nothing that satisfies it follows something that does
not. -/
theorem filter_eq_takeWhile {β : Type} {p : β → Bool} {l : List β}
    (front : l.Pairwise fun a b => p b = true → p a = true) :
    l.filter p = l.takeWhile p ∧ (l.filter fun a => !p a) = l.dropWhile p := by
  induction l with
  | nil => exact ⟨rfl, rfl⟩
  | cons a l ih =>
    obtain ⟨first, front⟩ := List.pairwise_cons.1 front
    cases here : p a with
    | true => simp [here, ih front]
    | false =>
      have none : ∀ b ∈ l, p b = false := fun b member =>
        Bool.not_eq_true _ ▸ fun later => by simp [first b member later] at here
      have empty : l.filter p = [] := List.filter_eq_nil_iff.2 (by simpa using none)
      have all : (l.filter fun a => !p a) = l := List.filter_eq_self.2 (by simpa using none)
      simp [here, empty, all]

/-- Among the members of one score, the empty name would come first. -/
theorem byScore_eq_lt_iff (e : Int × String) (bound : Int) :
    byScore e (bound, "") = .lt ↔ e.1 < bound := by
  have least : compare e.2 "" ≠ .lt := by
    intro below
    have below : e.2 < "" := compareOfLessAndEq_eq_lt.1 below
    rw [String.lt_iff] at below
    exact absurd below (List.not_lt_nil _)
  change (compare e.1 bound).then (compare e.2 "") = .lt ↔ _
  rw [Ordering.then_eq_lt, Std.compare_eq_lt]
  simp only [least, and_false, or_false]

theorem pairwise_ranked (s : SortedSet) : s.ranked.toList.Pairwise fun a b => a.1 ≤ b.1 := by
  refine Std.TreeSet.ordered_toList.imp fun {a b} before => ?_
  by_contra above
  change (compare a.1 b.1).then (compare a.2 b.2) = .lt at before
  rw [Std.compare_eq_gt.2 (Int.not_le.1 above)] at before
  cases before

/-- The low scores are the front of the ranking, up to where their bound would stand without a
name. -/
theorem filter_low_eq (s : SortedSet) (bound : Int) :
    (s.ranked.toList.filter fun e => decide (e.1 < bound)) =
        s.ranked.toList.takeWhile (fun e => byScore e (bound, "") == .lt) ∧
      (s.ranked.toList.filter fun e => decide (bound ≤ e.1)) =
        s.ranked.toList.dropWhile fun e => byScore e (bound, "") == .lt := by
  have low (e : Int × String) : (byScore e (bound, "") == .lt) = decide (e.1 < bound) := by
    rw [Bool.eq_iff_iff, beq_iff_eq, byScore_eq_lt_iff, decide_eq_true_eq]
  have high (e : Int × String) : decide (bound ≤ e.1) = !decide (e.1 < bound) := by
    rw [Bool.eq_iff_iff]
    simp
  simp only [low, high]
  refine filter_eq_takeWhile ((pairwise_ranked s).imp fun {a b} order below => ?_)
  simp only [decide_eq_true_eq] at below ⊢
  omega

/-- A range of scores is a stretch of the ranking, from where its start would stand without a name.
One that ends before it starts is empty. -/
theorem count_eq_length (s : SortedSet) (low high : Int) :
    s.count low high =
      if high < low then 0
      else ((s.ranked.toList.dropWhile fun e => byScore e (low, "") == .lt).takeWhile
        fun e => decide (e.1 ≤ high)).length := by
  split
  · rw [count, List.countP_eq_zero]
    intro e _
    simp
    omega
  · have front : (s.ranked.toList.filter fun e => decide (low ≤ e.1)).Pairwise
        fun a b => decide (b.1 ≤ high) = true → decide (a.1 ≤ high) = true := by
      refine ((pairwise_ranked s).filter _).imp fun {a b} order below => ?_
      simp only [decide_eq_true_eq] at below ⊢
      omega
    rw [← (filter_low_eq s low).2, ← (filter_eq_takeWhile front).1, List.filter_filter, count,
      List.countP_eq_length_filter]
    simp only [Bool.and_comm]

/-! ## Additions and removals -/

namespace Coherent

variable {s : SortedSet}

theorem mem_toList (h : s.Coherent) {score : Int} {member : String} :
    (score, member) ∈ s.ranked.toList ↔ s.score? member = some score := by
  rw [Std.TreeSet.mem_toList, h]

/-- A set with a member is not empty. -/
theorem isEmpty_eq_false (h : s.Coherent) {score : Int} {member : String}
    (found : s.score? member = some score) : s.isEmpty = false := by
  refine isEmpty_of_scoring_pos (p := fun _ => true) (List.countP_pos_iff.2 ?_)
  exact ⟨(score, member), h.mem_toList.2 found, rfl⟩

/-- A member stays unless its score is low. -/
theorem score?_removeBelow (h : s.Coherent) (bound : Int) (member : String) :
    (s.removeBelow bound).score? member =
      (s.score? member).filter fun score => decide (bound ≤ score) := by
  have low : member ∈ ((s.ranked.toList.filter fun e => decide (e.1 < bound)).map Prod.snd) ↔
      ∃ score, s.score? member = some score ∧ score < bound := by
    simp only [List.mem_map, List.mem_filter, decide_eq_true_eq]
    constructor
    · rintro ⟨⟨score, _⟩, ⟨found, small⟩, rfl⟩
      exact ⟨score, h.mem_toList.1 found, small⟩
    · rintro ⟨score, found, small⟩
      exact ⟨(score, member), ⟨h.mem_toList.2 found, small⟩, rfl⟩
  rw [SortedSet.removeBelow, score?_foldl_remove]
  cases found : s.score? member with
  | none => simp
  | some score =>
    simp only [low, found, Option.some.injEq, exists_eq_left', Option.filter_some]
    split <;> rename_i small <;> simp <;> omega

/-- The rest of the ranking stays in place. -/
theorem toList_removeBelow (h : s.Coherent) (bound : Int) :
    (s.removeBelow bound).ranked.toList =
      s.ranked.toList.filter fun e => decide (bound ≤ e.1) := by
  have same : (s.removeBelow bound).ranked.toList.Perm
      (s.ranked.toList.filter fun e => decide (bound ≤ e.1)) := by
    -- Neither list repeats an entry, so that it is enough to compare their members.
    refine (List.perm_ext_iff_of_nodup (nodup_ranked _) ((nodup_ranked s).filter _)).2 ?_
    rintro ⟨score, member⟩
    rw [(h.removeBelow bound).mem_toList, h.score?_removeBelow, List.mem_filter, h.mem_toList]
    simp [Option.filter_eq_some_iff]
  refine same.eq_of_pairwise (fun a b _ _ before after => ?_) Std.TreeSet.ordered_toList
    (Std.TreeSet.ordered_toList.filter _)
  have swapped : byScore a b = (byScore b a).swap := Std.OrientedCmp.eq_swap
  rw [swapped, after] at before
  cases before

/-- Low scores no longer count. -/
theorem scoring_removeBelow (h : s.Coherent) (bound : Int) (p : Int → Bool) :
    (s.removeBelow bound).scoring p = s.scoring fun score => decide (bound ≤ score) && p score := by
  rw [scoring, h.toList_removeBelow, List.countP_filter]
  simp only [scoring, Bool.and_comm]

/-- A new member counts. -/
theorem scoring_add (h : s.Coherent) {score : Int} {member : String}
    (fresh : s.score? member = none) (p : Int → Bool) :
    (s.add score member).scoring p = s.scoring p + if p score then 1 else 0 := by
  have more : (s.add score member).ranked.toList.Perm ((score, member) :: s.ranked.toList) := by
    have absent : (score, member) ∉ s.ranked.toList := by simp [h.mem_toList, fresh]
    refine (List.perm_ext_iff_of_nodup (nodup_ranked _)
      (List.nodup_cons.2 ⟨absent, nodup_ranked s⟩)).2 ?_
    rintro ⟨other, name⟩
    rw [(h.add score member).mem_toList, score?_add, List.mem_cons, h.mem_toList]
    grind
  rw [scoring, more.countP_eq, List.countP_cons]
  rfl

/-- A member that comes again with its score counts once. -/
theorem scoring_add_of_score? (h : s.Coherent) {score : Int} {member : String}
    (found : s.score? member = some score) (p : Int → Bool) :
    (s.add score member).scoring p = s.scoring p := by
  have same : (s.add score member).ranked.toList.Perm s.ranked.toList := by
    refine (List.perm_ext_iff_of_nodup (nodup_ranked _) (nodup_ranked s)).2 ?_
    rintro ⟨other, name⟩
    rw [(h.add score member).mem_toList, score?_add, h.mem_toList]
    split
    · rename_i mine
      rw [← mine, found]
    · rfl
  exact same.countP_eq _

/-- The addition of members keeps the two indexes in agreement. -/
theorem addAll (h : s.Coherent) (score : Int) (members : List String) :
    (s.addAll score members).Coherent :=
  List.foldlRecOn _ _ h fun _ coherent member _ => coherent.add score member

/-- New members count, each once. -/
theorem scoring_addAll (h : s.Coherent) {score : Int} {members : List String}
    (different : members.Nodup) (fresh : ∀ member ∈ members, s.score? member = none)
    (p : Int → Bool) :
    (s.addAll score members).scoring p =
      s.scoring p + if p score then members.length else 0 := by
  induction members generalizing s with
  | nil => simp
  | cons first members ih =>
    obtain ⟨absent, different⟩ := List.nodup_cons.1 different
    -- The other members are still new after the first.
    have freshRest : ∀ member ∈ members, (s.add score first).score? member = none := by
      intro member found
      have other : first ≠ member := fun same => absent (same ▸ found)
      rw [score?_add, if_neg other]
      exact fresh member (List.mem_cons_of_mem _ found)
    rw [addAll_cons, ih (h.add score first) different freshRest,
      h.scoring_add (fresh first List.mem_cons_self), List.length_cons]
    split <;> omega

end Coherent

end SortedSet

end Throttle
