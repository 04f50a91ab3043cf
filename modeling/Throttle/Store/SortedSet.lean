import Std.Data.TreeMap
import Std.Data.TreeSet

/-!
# Sorted sets

A sorted set gives each of its members an integer score. It keeps two indexes: the score of each
member, and the members in the order of their scores.

## Main definitions

* `byScore`: the order of a ranking
* `SortedSet`: members with scores
* `SortedSet.remove`: the set without a member
* `SortedSet.add`: a member with a new score
* `SortedSet.removeBelow`: the set without the low scores
* `SortedSet.count`: the number of members with a score in a closed range
* `SortedSet.Coherent`: the two indexes agree

## Main results

* `SortedSet.coherent_empty`, `SortedSet.Coherent.add`, `SortedSet.Coherent.removeBelow`: the two
  indexes of every set that is made by additions and removals agree
* `SortedSet.score?_add`: a member's new score replaces its old one
-/

namespace Throttle

/-- The order of a ranking: scores first, and names among members of one score. -/
def byScore : Int × String → Int × String → Ordering :=
  compareLex (compareOn Prod.fst) (compareOn Prod.snd)

instance : Std.TransCmp byScore :=
  inferInstanceAs (Std.TransCmp (compareLex (compareOn Prod.fst) (compareOn Prod.snd)))

instance : Std.LawfulEqCmp byScore where
  eq_of_compare {a b} h := by
    obtain ⟨score, member⟩ := Ordering.then_eq_eq.1 h
    exact Prod.ext (Std.LawfulEqCmp.eq_of_compare score) (Std.LawfulEqCmp.eq_of_compare member)

/-- Members with integer scores. -/
structure SortedSet where
  scores : Std.TreeMap String Int
  /-- The members with their scores, lowest scores first. -/
  ranked : Std.TreeSet (Int × String) byScore

namespace SortedSet

/-- The set without members. -/
def empty : SortedSet := ⟨∅, ∅⟩

instance : EmptyCollection SortedSet := ⟨empty⟩

/-- The score of a member. -/
def score? (s : SortedSet) (member : String) : Option Int := s.scores[member]?

/-- The two indexes hold the same members with the same scores. -/
def Coherent (s : SortedSet) : Prop :=
  ∀ score member, (score, member) ∈ s.ranked ↔ s.score? member = some score

@[simp] theorem score?_empty (member : String) : (∅ : SortedSet).score? member = none := rfl

@[simp] theorem ranked_empty : (∅ : SortedSet).ranked = ∅ := rfl

/-- The empty set is coherent. -/
theorem coherent_empty : (∅ : SortedSet).Coherent := by simp [Coherent]

/-- The set without a member. -/
def remove (s : SortedSet) (member : String) : SortedSet :=
  match s.score? member with
  | some score => ⟨s.scores.erase member, s.ranked.erase (score, member)⟩
  | none => s

/-- The set in which `member` has the score `score`, instead of any score it had. -/
def add (s : SortedSet) (score : Int) (member : String) : SortedSet :=
  let others := s.remove member
  ⟨others.scores.insert member score, others.ranked.insert (score, member)⟩

/-- The set without the members that score below `bound`. -/
def removeBelow (s : SortedSet) (bound : Int) : SortedSet :=
  (s.ranked.toList.filter fun e => decide (e.1 < bound)).foldl (fun s e => s.remove e.2) s

/-- The number of members with a score from `low` to `high`. -/
def count (s : SortedSet) (low high : Int) : Nat :=
  s.ranked.toList.countP fun e => decide (low ≤ e.1) && decide (e.1 ≤ high)

/-- The number of members. -/
def size (s : SortedSet) : Nat := s.ranked.size

/-- Whether there is no member. -/
def isEmpty (s : SortedSet) : Bool := s.ranked.isEmpty

/-- A removed member has no score. -/
@[simp] theorem score?_remove (s : SortedSet) (member other : String) :
    (s.remove member).score? other = if member = other then none else s.score? other := by
  unfold remove
  split
  · simp [score?, Std.TreeMap.getElem?_erase]
  · split
    · simp_all
    · rfl

/-- A member's new score replaces its old one. -/
@[simp] theorem score?_add (s : SortedSet) (score : Int) (member other : String) :
    (s.add score member).score? other = if member = other then some score else s.score? other := by
  have others := s.score?_remove member other
  simp only [score?] at others
  simp only [add, score?, Std.TreeMap.getElem?_insert, others]
  split <;> simp_all

namespace Coherent

variable {s : SortedSet}

/-- A removal keeps the two indexes in agreement. -/
theorem remove (h : s.Coherent) (member : String) : (s.remove member).Coherent := by
  intro score name
  rw [score?_remove, SortedSet.remove]
  split
  · rename_i old found
    rw [Std.TreeSet.mem_erase, h score name]
    grind
  · grind [h score name]

/-- An addition keeps the two indexes in agreement. -/
theorem add (h : s.Coherent) (score : Int) (member : String) : (s.add score member).Coherent := by
  intro other name
  have others := h.remove member other name
  rw [score?_remove] at others
  rw [score?_add, SortedSet.add, Std.TreeSet.mem_insert, others]
  grind

/-- The removal of the low scores keeps the two indexes in agreement. -/
theorem removeBelow (h : s.Coherent) (bound : Int) : (s.removeBelow bound).Coherent :=
  List.foldlRecOn _ _ h fun _ coherent e _ => coherent.remove e.2

end Coherent

end SortedSet

end Throttle
