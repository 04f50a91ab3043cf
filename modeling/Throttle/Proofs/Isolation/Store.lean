import Throttle.Proofs.Isolation.Keyed
import Throttle.Proofs.Shared.Request

/-!
# Commands on one key

A script reads and writes the slot of its own key. It counts the members of a sorted set by their
scores and does not look at their names, and it names the members that it adds after its last
argument. So two stores that agree on a key but for the names of members reply alike to a script
that differs in the name only, and agree afterwards; and what they show of the other keys stays,
then and later, although every command removes the expired slots of all keys.

## Main definitions

* `SortedSet.Indistinct R`: a relation of sorted sets that scripts cannot tell apart
* `SortedSet.Keeps R member member'`: the relation survives the addition of members that differ in
  their names
* `Slot.Agree R`, `Store.Agree R now key`: agreement up to the names of members
* `Store.SameBut key now`: a store shows the same of all other keys from `now` on

## Main results

* `Store.pour_related`, `Store.recordUnits_related`, `Store.recordRequest_related`: what each script
  does to slots that agree
* `Store.eval_agree`, `Store.expire_agree`: commands keep the agreement on their key and change
  nothing else
-/

namespace Throttle

namespace SortedSet

/-- Scripts cannot tell related sets apart: these have the same scores, and stay related when low
scores are removed. -/
structure Indistinct (R : SortedSet → SortedSet → Prop) : Prop where
  empty : R ∅ ∅
  scoring {s s' : SortedSet} : R s s' → ∀ p, s.scoring p = s'.scoring p
  removeBelow {s s' : SortedSet} : R s s' → ∀ bound, R (s.removeBelow bound) (s'.removeBelow bound)

namespace Indistinct

variable {R : SortedSet → SortedSet → Prop} {s s' : SortedSet}

theorem count_eq (indistinct : Indistinct R) (related : R s s') (low high : Int) :
    s.count low high = s'.count low high := by
  rw [count_eq_scoring, count_eq_scoring, indistinct.scoring related]

theorem isEmpty_eq (indistinct : Indistinct R) (related : R s s') : s.isEmpty = s'.isEmpty := by
  have sizes : s.size = s'.size := by
    rw [size_eq_scoring, size_eq_scoring, indistinct.scoring related]
  simp only [size] at sizes
  rw [isEmpty, isEmpty, Std.TreeSet.isEmpty_eq_size_eq_zero, Std.TreeSet.isEmpty_eq_size_eq_zero,
    sizes]

/-- Equal sets cannot be told apart. -/
theorem eq : Indistinct (· = ·) where
  empty := rfl
  scoring same p := by rw [same]
  removeBelow same bound := by rw [same]

end Indistinct

/-- What relates two sets before a request, `R false`, becomes what relates them after it,
`R true`, also if the units of the request come in, which are named after `member` and
`member'`. -/
structure Keeps (R : Bool → SortedSet → SortedSet → Prop) (member member' : String) : Prop where
  indistinct (drew : Bool) : Indistinct (R drew)
  mono {s s' : SortedSet} : R false s s' → R true s s'
  addAll {s s' : SortedSet} : R false s s' → ∀ score n,
    R true (s.addAll score (Store.unitNames member n)) (s'.addAll score (Store.unitNames member' n))

/-- Equal sets stay equal if the same members come in. -/
theorem Keeps.eq (member : String) : Keeps (fun _ => (· = ·)) member member where
  indistinct _ := .eq
  mono same := same
  addAll same score n := by rw [same]

end SortedSet

/-- Two slots agree up to a relation of sorted sets. -/
inductive Slot.Agree (R : SortedSet → SortedSet → Prop) : Slot → Slot → Prop where
  | hash (fields : Table String) (expiresAt : Option Instant) :
    Agree R ⟨.hash fields, expiresAt⟩ ⟨.hash fields, expiresAt⟩
  | sortedSet {s s' : SortedSet} (related : R s s') (expiresAt : Option Instant) :
    Agree R ⟨.sortedSet s, expiresAt⟩ ⟨.sortedSet s', expiresAt⟩

/-- Slots that agree expire at the same time. -/
theorem Slot.Agree.isLive_eq {R : SortedSet → SortedSet → Prop} {slot slot' : Slot}
    (h : slot.Agree R slot') (now : Instant) : slot.isLive now = slot'.isLive now := by
  cases h <;> rfl

namespace Store

open SortedSet (Indistinct Keeps)

variable {R R' : SortedSet → SortedSet → Prop} {slots slots' : Table Slot} {key : String}

/-! ## Slots -/

/-- Slots agree on a key up to a relation of sorted sets. -/
def SlotsAgree (R : SortedSet → SortedSet → Prop) (key : String) (slots slots' : Table Slot) :
    Prop :=
  Option.Rel (Slot.Agree R) (slots.get? key) (slots'.get? key)

namespace SlotsAgree

/-- Either no slot is there, or one on each side. -/
theorem cases (h : SlotsAgree R key slots slots') :
    slots.get? key = none ∧ slots'.get? key = none ∨
      ∃ slot slot', slots.get? key = some slot ∧ slots'.get? key = some slot' ∧
        slot.Agree R slot' := by
  unfold SlotsAgree at h
  generalize slots.get? key = held, slots'.get? key = held' at h
  cases h with
  | none => exact .inl ⟨rfl, rfl⟩
  | some agree => exact .inr ⟨_, _, rfl, rfl, agree⟩

theorem of_none (h : slots.get? key = none) (h' : slots'.get? key = none) :
    SlotsAgree R key slots slots' := by
  rw [SlotsAgree, h, h']
  exact .none

theorem of_some {slot slot' : Slot} (h : slots.get? key = some slot)
    (h' : slots'.get? key = some slot') (agree : slot.Agree R slot') :
    SlotsAgree R key slots slots' := by
  rw [SlotsAgree, h, h']
  exact .some agree

theorem refl (same : ∀ s, R s s) (key : String) (slots : Table Slot) :
    SlotsAgree R key slots slots := by
  cases held : slots.get? key with
  | none => exact .of_none held held
  | some slot =>
    refine .of_some held held ?_
    obtain ⟨fields | s, expiresAt⟩ := slot
    · exact .hash ..
    · exact .sortedSet (same s) _

theorem mono (h : SlotsAgree R key slots slots') (sub : ∀ s s', R s s' → R' s s') :
    SlotsAgree R' key slots slots' := by
  obtain ⟨absent, absent'⟩ | ⟨slot, slot', held, held', agree⟩ := h.cases
  · exact .of_none absent absent'
  · refine .of_some held held' ?_
    cases agree with
    | hash => exact .hash ..
    | sortedSet related => exact .sortedSet (sub _ _ related) _

theorem insert {slot slot' : Slot} (agree : slot.Agree R slot') :
    SlotsAgree R key (slots.insert key slot) (slots'.insert key slot') :=
  .of_some (by simp) (by simp) agree

/-- Slots that agree hold the same hash. -/
theorem hashAt_eq (h : SlotsAgree R key slots slots') : hashAt slots key = hashAt slots' key := by
  obtain ⟨absent, absent'⟩ | ⟨slot, slot', held, held', agree⟩ := h.cases
  · rw [hashAt, hashAt, absent, absent']
  · rw [hashAt, hashAt, held, held']
    cases agree <;> rfl

/-- Slots that agree hold related sorted sets. -/
theorem sortedSetAt_related (h : SlotsAgree R key slots slots') (empty : R ∅ ∅) :
    Related R (sortedSetAt slots key) (sortedSetAt slots' key) := by
  obtain ⟨absent, absent'⟩ | ⟨slot, slot', held, held', agree⟩ := h.cases
  · rw [sortedSetAt, sortedSetAt, absent, absent']
    exact .ok empty
  · rw [sortedSetAt, sortedSetAt, held, held']
    cases agree with
    | hash => exact .error _
    | sortedSet related => exact .ok related

theorem expiresAt_eq (h : SlotsAgree R key slots slots') :
    (slots.get? key).bind Slot.expiresAt = (slots'.get? key).bind Slot.expiresAt := by
  obtain ⟨absent, absent'⟩ | ⟨slot, slot', held, held', agree⟩ := h.cases
  · rw [absent, absent']
  · rw [held, held']
    cases agree <;> rfl

/-- Related sets take the place of what a key holds. -/
theorem putSortedSet (h : SlotsAgree R key slots slots') (indistinct : Indistinct R')
    {s s' : SortedSet} (related : R' s s') :
    SlotsAgree R' key (putSortedSet slots key s) (putSortedSet slots' key s') := by
  rw [Store.putSortedSet, Store.putSortedSet, ← indistinct.isEmpty_eq related, ← h.expiresAt_eq]
  split
  · exact .of_none (by simp) (by simp)
  · exact .insert (.sortedSet related _)

end SlotsAgree

/-! ## Scripts -/

/-- Two runs of a script reply alike and leave slots that agree on its key, and the first one leaves
the other keys of `slots` as they are. -/
structure Ran (R : SortedSet → SortedSet → Prop) (key : String) (slots : Table Slot)
    (x y : Table Slot × Int) : Prop where
  reply : x.2 = y.2
  agree : SlotsAgree R key x.1 y.1
  others : ∀ other, other ≠ key → x.1.get? other = slots.get? other

/-- The leaky bucket script has no members to name. -/
theorem pour_related (α : Type) [Arithmetic α] (agree : SlotsAgree R key slots slots')
    (now : Instant) (args : List String) :
    Related (Ran R key slots) (pour α now key args slots) (pour α now key args slots') := by
  unfold pour
  rw [agree.hashAt_eq]
  refine .bind_same _ fun volume => .bind_same _ fun rate => .bind_same _ fun requested =>
    .bind_same _ fun current => .bind_same _ fun stored => .bind_same _ fun lastTime =>
    .bind_same _ fun count => .ok ⟨rfl, .insert (.hash ..), fun other different => ?_⟩
  rw [Table.get?_insert, if_neg different.symm]

section Named

variable {R : Bool → SortedSet → SortedSet → Prop} {member member' : String}

/-- The sliding log script differs in the names of the units only. -/
theorem recordUnits_related (keeps : Keeps R member member')
    (agree : SlotsAgree (R false) key slots slots') (left right now : Instant) (limit n : Nat) :
    Related (Ran (R true) key slots)
      (recordUnits key (SharedSlidingLog.arguments left right now limit n member) slots)
      (recordUnits key (SharedSlidingLog.arguments left right now limit n member') slots') := by
  have kept := keeps.indistinct false
  unfold recordUnits
  refine .bind_same (argument integer? _ 0) fun left =>
    .bind_same (argument integer? _ 1) fun right => .bind_same (argument integer? _ 2) fun now =>
    .bind_same (argument integer? _ 3) fun limit =>
    .bind_same (argument integer? _ 4) fun requested => ?_
  -- Only the last argument differs, the name.
  refine .bind (r := fun m m' => m = member ∧ m' = member') (.ok ⟨rfl, rfl⟩) ?_
  rintro _ _ ⟨rfl, rfl⟩
  refine .bind (agree.sortedSetAt_related kept.empty) fun s s' related => ?_
  have low := kept.removeBelow related left
  dsimp only
  rw [kept.count_eq low]
  split
  · exact .ok ⟨rfl, agree.putSortedSet (keeps.indistinct true) (keeps.mono low),
      fun _ => get?_putSortedSet _ _⟩
  · exact .ok ⟨rfl, agree.putSortedSet (keeps.indistinct true) (keeps.addAll low _ _),
      fun _ => get?_putSortedSet _ _⟩

/-- The sliding window script differs in the name of the request only. -/
theorem recordRequest_related (keeps : Keeps R member member')
    (agree : SlotsAgree (R false) key slots slots') (boundary now : Instant) (limit : Nat) :
    Related (Ran (R true) key slots)
      (recordRequest key (SharedSlidingWindow.arguments boundary now limit member) slots)
      (recordRequest key (SharedSlidingWindow.arguments boundary now limit member') slots') := by
  have kept := keeps.indistinct false
  unfold recordRequest
  refine .bind_same (argument integer? _ 0) fun boundary =>
    .bind_same (argument integer? _ 1) fun now =>
    .bind_same (argument integer? _ 2) fun limit => ?_
  refine .bind (r := fun m m' => m = member ∧ m' = member') (.ok ⟨rfl, rfl⟩) ?_
  rintro _ _ ⟨rfl, rfl⟩
  refine .bind (agree.sortedSetAt_related kept.empty) fun s s' related => ?_
  rw [kept.count_eq related]
  split
  · exact .ok ⟨rfl, agree.putSortedSet (keeps.indistinct true) (keeps.mono related),
      fun _ => get?_putSortedSet _ _⟩
  · -- The request is its own and only unit.
    have added := (keeps.indistinct true).removeBelow (keeps.addAll related now 1) boundary
    exact .ok ⟨rfl, agree.putSortedSet (keeps.indistinct true) added,
      fun _ => get?_putSortedSet _ _⟩

end Named

/-! ## Commands -/

/-- Two stores agree on a key at an instant, up to a relation of sorted sets. -/
structure Agree (R : SortedSet → SortedSet → Prop) (now : Instant) (key : String) (s s' : Store) :
    Prop where
  available : s.available = s'.available
  slots : SlotsAgree R key (s.live now) (s'.live now)

/-- A store shows the same as before of all keys but one, from `now` on. -/
structure SameBut (key : String) (now : Instant) (s s' : Store) : Prop where
  available : s'.available = s.available
  slots : ∀ other, other ≠ key → ∀ later, now ≤ later →
    (s'.live later).get? other = (s.live later).get? other

variable {s s' s'' : Store} {now : Instant}

theorem Agree.refl (same : ∀ s, R s s) (now : Instant) (key : String) (s : Store) :
    s.Agree R now key s :=
  ⟨rfl, .refl same ..⟩

theorem Agree.mono (h : s.Agree R now key s') (sub : ∀ s s', R s s' → R' s s') :
    s.Agree R' now key s' :=
  ⟨h.available, h.slots.mono sub⟩

/-- Slots that agree do so whenever they are looked at. -/
theorem agree_of_slots (agree : SlotsAgree R key slots slots') (available : Bool)
    (later : Instant) : Agree R later key ⟨slots, available⟩ ⟨slots', available⟩ where
  available := rfl
  slots := by
    obtain ⟨absent, absent'⟩ | ⟨slot, slot', held, held', agree⟩ := agree.cases
    · exact .of_none (by rw [get?_live, absent]; rfl) (by rw [get?_live, absent']; rfl)
    · rw [SlotsAgree, get?_live, get?_live, held, held', Option.filter_some, Option.filter_some,
        ← agree.isLive_eq]
      split
      · exact .some agree
      · exact .none

/-- Stores that agree do so later on. -/
theorem Agree.later (h : s.Agree R now key s') {later : Instant} (order : now ≤ later) :
    s.Agree R later key s' where
  available := h.available
  slots := by
    have purged : SlotsAgree R key ((s.purge now).live later) ((s'.purge now).live later) :=
      (agree_of_slots h.slots true later).slots
    rwa [SlotsAgree, get?_live_purge s order, get?_live_purge s' order] at purged

theorem SameBut.refl (key : String) (now : Instant) (s : Store) : s.SameBut key now s :=
  ⟨rfl, fun _ _ _ _ => rfl⟩

theorem SameBut.trans (h : s.SameBut key now s') (h' : s'.SameBut key now s'') :
    s.SameBut key now s'' :=
  ⟨h'.available.trans h.available, fun other different later order =>
    (h'.slots other different later order).trans (h.slots other different later order)⟩

/-- A command that keeps the live slots of the other keys changes nothing that is shown of them. -/
theorem sameBut_of_slots (available : s'.available = s.available)
    (kept : ∀ other, other ≠ key → s'.slots.get? other = (s.live now).get? other) :
    s.SameBut key now s' where
  available := available
  slots other different later order := by
    rw [← get?_live_purge s order, get?_live, get?_live, kept other different, purge]

/-- A store that agrees with another on one key still does so after a command on another key. -/
theorem Agree.of_sameBut {other : String} {later : Instant} (h : s.Agree R later other s')
    (same : s.SameBut key now s'') (different : other ≠ key) (order : now ≤ later) :
    s''.Agree R later other s' where
  available := same.available.trans h.available
  slots := by
    rw [SlotsAgree, same.slots other different later order]
    exact h.slots

/-- So does the other store. -/
theorem Agree.of_sameBut_right {other : String} {later : Instant} (h : s.Agree R later other s')
    (same : s'.SameBut key now s'') (different : other ≠ key) (order : now ≤ later) :
    s.Agree R later other s'' where
  available := h.available.trans same.available.symm
  slots := by
    rw [SlotsAgree, same.slots other different later order]
    exact h.slots

/-- **Scripts keep the agreement** of two stores on their key, if their runs do, and reply alike;
and they change nothing that the first store shows of the other keys. -/
theorem eval_agree (α : Type) [Arithmetic α] (script : Script) (args args' : List String)
    (agree : s.Agree R now key s') (sub : ∀ s s', R s s' → R' s s')
    (runs : Related (Ran R' key (s.live now)) (execute α now script key args (s.live now))
      (execute α now script key args' (s'.live now))) :
    let x := s.eval α now script [key] args
    let y := s'.eval α now script [key] args'
    x.2 = y.2 ∧ x.1.Agree R' now key y.1 ∧ s.SameBut key now x.1 := by
  dsimp only
  rw [eval, eval, ← agree.available]
  split
  · dsimp only
    cases ran : execute α now script key args (s.live now) with
    | ok result =>
      obtain ⟨result', ran', left⟩ := runs.exists_of_eq_ok ran
      rw [ran']
      dsimp only
      exact ⟨congrArg Except.ok left.reply, agree_of_slots left.agree _ now,
        sameBut_of_slots rfl left.others⟩
    | error e =>
      -- A script that is refused still removes what has expired, which nobody sees.
      rw [ran] at runs
      generalize execute α now script key args' (s'.live now) = y at runs
      cases runs
      dsimp only
      exact ⟨rfl, agree_of_slots (agree.slots.mono sub) _ now,
        sameBut_of_slots rfl fun _ _ => rfl⟩
  · exact ⟨rfl, agree.mono sub, .refl ..⟩

/-- A new lifetime keeps the agreement on its key and changes nothing else. -/
theorem expire_agree (agree : s.Agree R now key s') (lifetime : Span) :
    let x := (s.expire now key lifetime).1
    let y := (s'.expire now key lifetime).1
    x.Agree R now key y ∧ s.SameBut key now x := by
  dsimp only
  rw [expire, expire, ← agree.available]
  split
  · dsimp only
    obtain ⟨absent, absent'⟩ | ⟨slot, slot', held, held', same⟩ := agree.slots.cases
    · rw [absent, absent']
      dsimp only
      exact ⟨agree_of_slots agree.slots _ now, sameBut_of_slots rfl fun _ _ => rfl⟩
    · rw [held, held']
      have renewed : Slot.Agree R { slot with expiresAt := now.after? lifetime }
          { slot' with expiresAt := now.after? lifetime } := by
        cases same with
        | hash => exact .hash ..
        | sortedSet related => exact .sortedSet related _
      dsimp only
      exact ⟨agree_of_slots (.insert renewed) _ now,
        sameBut_of_slots rfl fun other different =>
          (Table.get?_insert ..).trans (if_neg different.symm)⟩
  · exact ⟨agree, .refl ..⟩

end Store

end Throttle
