import Mathlib.Data.List.Induction
import Mathlib.Logic.Function.Basic
import Throttle.Proofs.Store.Names

/-!
# The numbers of several limiters

Limiters draw names for their requests, each of them with its own origin and with numbers of its
own. Before a limiter has drawn `2 ^ 64` names none of its numbers comes again. So the names of all
requests differ, and with them those of all units, whatever the weights of the requests are and
whenever they are made: many of them may fall into one microsecond, and a clock may step back or
read times before the epoch.

## Main definitions

* `MemberNames.used names`: the names that limiters may have drawn
* `MemberNames.Numbered origin calls names`: limiters have drawn a name for each of their calls at
  most
* `MemberNames.Request`, `MemberNames.unitsDrawn`: requests, and the names of all their units

## Main results

* `MemberNames.Numbered.notMem_used`: the next name is new
* `MemberNames.used_subset_update`, `MemberNames.mem_used_update`: a name that is drawn is added to
  those that were
* `MemberNames.nodup_unitsDrawn`: **all units of all requests have different names**
-/

namespace Throttle

namespace MemberNames

variable {ι : Type}

/-- The names that limiters may have drawn: at any time, those with a limiter's origin and a number
before its next one. -/
def used (names : ι → Option MemberNames) : Set (Int × UInt64 × UInt64) :=
  {d | ∃ i m, names i = some m ∧ d.2.1 = m.origin ∧ d.2.2 < m.sequence}

/-- A number that does not come round is the one after the last. -/
theorem toNat_sequence_next {m : MemberNames} (few : m.sequence.toNat + 1 < 2 ^ 64)
    (micros : Int) : (m.next micros).1.sequence.toNat = m.sequence.toNat + 1 := by
  change (m.sequence + 1).toNat = _
  rw [UInt64.toNat_add]
  exact Nat.mod_eq_of_lt few

variable [DecidableEq ι]

/-- Limiters with the given origins have drawn a name for each of some calls at most. -/
def Numbered (origin : ι → UInt64) (calls : List ι) (names : ι → Option MemberNames) : Prop :=
  ∀ i m, names i = some m → m.origin = origin i ∧ m.sequence.toNat ≤ calls.count i

variable {names : ι → Option MemberNames} {i : ι} {m : MemberNames}

namespace Numbered

variable {origin : ι → UInt64} {calls : List ι} (h : Numbered origin calls names)

include h

/-- A call may draw no name. -/
theorem append (more : List ι) : Numbered origin (calls ++ more) names := by
  intro i m named
  obtain ⟨own, few⟩ := h i m named
  exact ⟨own, Nat.le_trans few (by simp)⟩

/-- **The next name is new**, at whatever time it is drawn. -/
theorem notMem_used (apart : Function.Injective origin) (named : names i = some m) (micros : Int) :
    (micros, m.origin, m.sequence) ∉ used names := by
  rintro ⟨j, m', named', same, before⟩
  have one : i = j := apart ((h i m named).1.symm.trans (same.trans (h j m' named').1))
  subst one
  cases named.symm.trans named'
  exact UInt64.lt_irrefl _ before

/-- Before the last call there is a number left. -/
theorem number_left (named : names i = some m) (few : (calls ++ [i]).count i < 2 ^ 64) :
    m.sequence.toNat + 1 < 2 ^ 64 := by
  have number := (h i m named).2
  rw [List.count_append, List.count_singleton_self] at few
  omega

/-- A call may draw a name. -/
theorem update (named : names i = some m) (few : (calls ++ [i]).count i < 2 ^ 64) (micros : Int) :
    Numbered origin (calls ++ [i]) (Function.update names i (some (m.next micros).1)) := by
  intro j m' named'
  by_cases other : j = i
  · subst other
    obtain ⟨own, number⟩ := h j m named
    rw [Function.update_self, Option.some.injEq] at named'
    subst named'
    rw [origin_next, toNat_sequence_next (h.number_left named few), List.count_append,
      List.count_singleton_self]
    exact ⟨own, by omega⟩
  · rw [Function.update_of_ne other] at named'
    exact h.append [i] j m' named'

end Numbered

/-- What was drawn stays drawn. -/
theorem used_subset_update (named : names i = some m) (few : m.sequence.toNat + 1 < 2 ^ 64)
    (micros : Int) : used names ⊆ used (Function.update names i (some (m.next micros).1)) := by
  rintro d ⟨j, m', named', same, before⟩
  by_cases other : j = i
  · subst other
    cases named.symm.trans named'
    refine ⟨j, _, Function.update_self .., same, ?_⟩
    rw [UInt64.lt_iff_toNat_lt] at before ⊢
    rw [toNat_sequence_next few]
    exact Nat.lt_succ_of_lt before
  · exact ⟨j, m', (Function.update_of_ne other ..).trans named', same, before⟩

/-- A name that is drawn is one of those that were drawn, from then on. -/
theorem mem_used_update (few : m.sequence.toNat + 1 < 2 ^ 64) (micros : Int) :
    (micros, m.origin, m.sequence) ∈ used (Function.update names i (some (m.next micros).1)) := by
  refine ⟨i, _, Function.update_self .., rfl, ?_⟩
  rw [UInt64.lt_iff_toNat_lt, toNat_sequence_next few]
  exact Nat.lt_succ_self _

/-! ## Requests of several limiters -/

/-- A request to one of some limiters: when it is made, and how many units it has. -/
structure Request (ι : Type) where
  limiter : ι
  micros : Int
  units : Nat

/-- The next numbers of the limiters, and the names of all units, after one more request. -/
def draw (s : (ι → MemberNames) × List String) (r : Request ι) : (ι → MemberNames) × List String :=
  let (next, member) := (s.1 r.limiter).next r.micros
  (Function.update s.1 r.limiter next, s.2 ++ Store.unitNames member r.units)

/-- The next numbers of new limiters with the given origins, and the names of all units, after some
requests. -/
def drawAll (origin : ι → UInt64) (requests : List (Request ι)) :
    (ι → MemberNames) × List String :=
  requests.foldl draw (fun i => .ofOrigin (origin i), [])

/-- The names of all units of some requests to new limiters with the given origins. -/
def unitsDrawn (origin : ι → UInt64) (requests : List (Request ι)) : List String :=
  (drawAll origin requests).2

/-- The units have different names, and these come from names that were drawn. -/
structure Distinct (origin : ι → UInt64) (calls : List ι) (s : (ι → MemberNames) × List String) :
    Prop where
  numbered : Numbered origin calls (some ∘ s.1)
  known : ∀ unit ∈ s.2, ∃ micros origin sequence n,
    (micros, origin, sequence) ∈ used (some ∘ s.1) ∧
      unit ∈ Store.unitNames (name micros origin sequence) n
  nodup : s.2.Nodup

/-- One more request adds new names. -/
theorem Distinct.draw {origin : ι → UInt64} (apart : Function.Injective origin) {calls : List ι}
    {s : (ι → MemberNames) × List String} (h : Distinct origin calls s) (r : Request ι)
    (few : (calls ++ [r.limiter]).count r.limiter < 2 ^ 64) :
    Distinct origin (calls ++ [r.limiter]) (draw s r) := by
  have named : (some ∘ s.1) r.limiter = some (s.1 r.limiter) := rfl
  have left := h.numbered.number_left named few
  have names : some ∘ (MemberNames.draw s r).1 =
      Function.update (some ∘ s.1) r.limiter (some ((s.1 r.limiter).next r.micros).1) :=
    Function.comp_update ..
  refine ⟨?_, fun unit found => ?_, ?_⟩
  · rw [names]
    exact h.numbered.update named few r.micros
  · rw [names]
    rcases List.mem_append.1 found with old | new
    · obtain ⟨micros, origin, sequence, n, drawn, own⟩ := h.known unit old
      exact ⟨micros, origin, sequence, n, used_subset_update named left _ drawn, own⟩
    · exact ⟨_, _, _, _, mem_used_update left _, new⟩
  · refine List.nodup_append.2
      ⟨h.nodup, Store.nodup_unitNames .., fun unit old unit' new same => ?_⟩
    subst same
    obtain ⟨micros, origin, sequence, n, drawn, own⟩ := h.known unit old
    -- A unit tells its request, whose name would have been drawn before.
    obtain ⟨rfl, rfl, rfl⟩ := Store.eq_of_mem_unitNames own new
    exact h.numbered.notMem_used apart named _ drawn

/-- **All units of all requests have different names**, if limiters with different origins take
fewer than `2 ^ 64` requests each. -/
theorem nodup_unitsDrawn {origin : ι → UInt64} (apart : Function.Injective origin)
    {requests : List (Request ι)} (few : ∀ i, (requests.map Request.limiter).count i < 2 ^ 64) :
    (unitsDrawn origin requests).Nodup := by
  suffices Distinct origin (requests.map Request.limiter) (drawAll origin requests) from this.nodup
  induction requests using List.reverseRecOn with
  | nil =>
    refine ⟨fun i m named => ?_, fun _ => nofun, List.nodup_nil⟩
    cases named
    exact ⟨rfl, Nat.zero_le _⟩
  | append_singleton requests r ih =>
    rw [List.map_append, List.map_singleton] at few ⊢
    have earlier (i : ι) : (requests.map Request.limiter).count i < 2 ^ 64 :=
      Nat.lt_of_le_of_lt ((List.sublist_append_left ..).count_le i) (few i)
    rw [drawAll, List.foldl_append]
    exact (ih earlier).draw apart r (few r.limiter)

end MemberNames

end Throttle
