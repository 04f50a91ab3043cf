import Mathlib.Data.List.Nodup
import Mathlib.Data.List.Perm.Basic
import Throttle.Proofs.Store.Atomicity
import Throttle.Proofs.Store.Names
import Throttle.Proofs.Store.Scores

/-!
# The scripts of the sorted sets as command sequences

The program of a script works on one sorted set with three commands: a member gets a score, the
members of a range of scores are counted, and those of a range are removed. To these commands a
sorted set is a plain map from members to scores. A store in memory runs a script on its two indexes
instead, and adds the units of a request in another order. Both give the same reply, and the indexes
stay two views of the map.

## Main definitions

* `Store.Bound`: an end of a range of scores, as a command reads it
* `Store.Commands`: commands on a map from members to scores
* `Store.Commands.slidingLog`, `Store.Commands.slidingWindow`: the programs of the scripts
* `SortedSet.Shows`: the two indexes of a sorted set are views of a map

## Main results

* `SortedSet.Shows.add`, `SortedSet.Shows.addAll`, `SortedSet.Shows.removeBelow`,
  `SortedSet.Shows.count_eq`: what a sorted set does is what its map does
* `Store.indexed_after`: the indexes of every sorted set agree after every sequence of operations
* `Store.execute_eq_run`: a script does what its program does
-/

namespace Throttle

/-! ## Command sequences -/

namespace Store

/-- An end of a range of scores. -/
inductive Bound where
  /-- The end below every score. -/
  | lowest
  | inclusive (score : Int)
  | exclusive (score : Int)

namespace Bound

/-- The end that a text names: a score belongs to the range, and a score after a bracket does
not. -/
def ofText? (s : String) : Option Bound :=
  if s = "-inf" then some lowest
  else
    match s.toList with
    | '(' :: rest => (integer? (String.ofList rest)).map exclusive
    | _ => (integer? s).map inclusive

/-- Whether a range that starts here reaches up to a score. -/
def startsBefore : Bound → Int → Bool
  | lowest, _ => true
  | inclusive low, score => decide (low ≤ score)
  | exclusive low, score => decide (low < score)

/-- Whether a range that ends here reaches down to a score. -/
def endsAfter : Bound → Int → Bool
  | lowest, _ => false
  | inclusive high, score => decide (score ≤ high)
  | exclusive high, score => decide (score < high)

end Bound

/-- Commands on the members of a key and their scores. An absent key has none. A command that cannot
read its arguments is refused. -/
abbrev Commands := StateT (Table Int) Option

namespace Commands

/-- The scores of a range. -/
def range? (low high : String) : Option (Int → Bool) := do
  let low ← Bound.ofText? low
  let high ← Bound.ofText? high
  return fun score => low.startsBefore score && high.endsAfter score

/-- The command `ZADD`: a member gets a score, instead of any that it has. -/
def zadd (score member : String) : Commands Unit := do
  let score ← integer? score
  modify fun members => members.insert member score

/-- The command `ZCOUNT`: the number of members whose scores belong to a range. -/
def zcount (low high : String) : Commands Int := do
  let inside ← range? low high
  let members ← get
  return (members.entries.countP fun e => inside e.2 : Nat)

/-- The command `ZREMRANGEBYSCORE`: members whose scores belong to a range are removed. -/
def zremrangebyscore (low high : String) : Commands Unit := do
  let inside ← range? low high
  modify fun members => members.filter fun _ score => !inside score

/-- The program of the sliding log script. -/
def slidingLog (argv : List String) : Commands Int := do
  let left ← argv[0]?
  let right ← argv[1]?
  let now ← argv[2]?
  let limit ← argv[3]?.bind integer?
  let requested ← argv[4]?.bind integer?
  let member ← argv[5]?
  zremrangebyscore "-inf" ("(" ++ left)
  if limit ≤ (← zcount left right) then
    return 0
  zadd now member
  for i in List.range' 1 (requested - 1).toNat do
    zadd now (member ++ ":" ++ toString i)
  return 1

/-- The program of the sliding window script. -/
def slidingWindow (argv : List String) : Commands Int := do
  let boundary ← argv[0]?
  let now ← argv[1]?
  let limit ← argv[2]?.bind integer?
  let member ← argv[3]?
  if limit ≤ (← zcount boundary now) then
    return 0
  zadd now member
  zremrangebyscore "-inf" ("(" ++ boundary)
  return 1

end Commands

/-! ## What the commands read -/

namespace Bound

theorem ofText?_of_integer? {s : String} {n : Int} (read : integer? s = some n) :
    ofText? s = some (inclusive n) := by
  rw [ofText?, if_neg]
  · split
    · -- A numeral does not start with a bracket.
      rename_i rest starts
      simp [integer?, Numeral.wholeOfText?, starts, Numeral.sign] at read
    · rw [read, Option.map_some]
  · rintro rfl
    cases (show integer? "-inf" = none by decide).symm.trans read

theorem ofText?_bracket {s : String} {n : Int} (read : integer? s = some n) :
    ofText? ("(" ++ s) = some (exclusive n) := by
  have starts : ("(" ++ s).toList = '(' :: s.toList := by simp
  rw [ofText?, if_neg, starts]
  · simp [read]
  · intro same
    rw [same] at starts
    simp at starts

end Bound

namespace Commands

variable {members : Table Int}

theorem run_zadd {score : String} {n : Int} (read : integer? score = some n) (member : String) :
    (zadd score member).run members = some ((), members.insert member n) := by
  simp [zadd, read]

theorem run_zcount {low high : String} {m n : Int} (readLow : integer? low = some m)
    (readHigh : integer? high = some n) :
    (zcount low high).run members =
      some (((members.entries.countP fun e => decide (m ≤ e.2) && decide (e.2 ≤ n) : Nat) : Int),
        members) := by
  simp [zcount, range?, Bound.ofText?_of_integer? readLow, Bound.ofText?_of_integer? readHigh,
    Bound.startsBefore, Bound.endsAfter]

theorem run_zremrangebyscore {bound : String} {n : Int} (read : integer? bound = some n) :
    (zremrangebyscore "-inf" ("(" ++ bound)).run members =
      some ((), members.filter fun _ score => !decide (score < n)) := by
  have lowest : Bound.ofText? "-inf" = some .lowest := rfl
  simp [zremrangebyscore, range?, Bound.ofText?_bracket read, lowest, Bound.startsBefore,
    Bound.endsAfter]

/-- Several members get a score, one after the other. -/
theorem run_zadd_all {score : String} {n : Int} (read : integer? score = some n) {β : Type}
    (list : List β) (name : β → String) :
    (list.foldlM (fun _ i => zadd score (name i)) ()).run members =
      some ((), (list.map name).foldl (fun members m => members.insert m n) members) := by
  induction list generalizing members with
  | nil => rfl
  | cons i list ih => simp [run_zadd read, ih]

end Commands

end Store

/-! ## Two views of one map -/

namespace Table

theorem mem_entries_iff {V : Type} {t : Table V} {name : String} {v : V} :
    (name, v) ∈ t.entries ↔ t.get? name = some v := by
  obtain ⟨entries, distinct⟩ := t
  simp only [get?]
  induction entries with
  | nil => simp [find?]
  | cons e rest ih =>
    obtain ⟨other, w⟩ := e
    rw [List.map_cons, List.nodup_cons] at distinct
    rw [List.mem_cons, find?]
    by_cases same : other = name
    · subst same
      have later : (other, v) ∉ rest := fun member =>
        distinct.1 (List.mem_map.2 ⟨(other, v), member, rfl⟩)
      simp [later, eq_comm]
    · rw [ih distinct.2]
      simp [same, Ne.symm same]

theorem get?_foldl_insert {V : Type} (names : List String) (t : Table V) (v : V) (name : String) :
    (names.foldl (fun t other => t.insert other v) t).get? name =
      if name ∈ names then some v else t.get? name := by
  induction names generalizing t with
  | nil => simp
  | cons first names ih =>
    rw [List.foldl_cons, ih, get?_insert]
    grind

end Table

namespace SortedSet

/-- The two indexes of a sorted set are views of a map from members to scores. -/
structure Shows (s : SortedSet) (t : Table Int) : Prop where
  scores : ∀ member, s.score? member = t.get? member
  ranked : ∀ score member, (score, member) ∈ s.ranked ↔ t.get? member = some score

theorem shows_iff {s : SortedSet} {t : Table Int} :
    s.Shows t ↔ s.Coherent ∧ ∀ member, s.score? member = t.get? member := by
  constructor
  · intro h
    exact ⟨fun score member => by rw [h.ranked, h.scores], h.scores⟩
  · rintro ⟨coherent, scores⟩
    exact ⟨scores, fun score member => by rw [coherent, scores]⟩

/-- The indexes agree exactly if they are views of one map. -/
theorem coherent_iff_exists_shows {s : SortedSet} : s.Coherent ↔ ∃ t, s.Shows t := by
  constructor
  · intro coherent
    -- A member has one score only, so that the ranking read as a map repeats no name.
    have distinct : ((s.ranked.toList.map Prod.swap).map Prod.fst).Nodup := by
      rw [List.map_map]
      refine (nodup_ranked s).map_on ?_
      rintro ⟨score, member⟩ found ⟨score', member'⟩ found' (same : member = member')
      subst same
      rw [coherent.mem_toList] at found found'
      rw [Option.some.inj (found.symm.trans found')]
    refine ⟨⟨s.ranked.toList.map Prod.swap, distinct⟩, shows_iff.2 ⟨coherent, fun member => ?_⟩⟩
    refine Option.ext fun score => ?_
    rw [← Table.mem_entries_iff, ← coherent.mem_toList]
    simp
  · rintro ⟨t, shows⟩
    exact (shows_iff.1 shows).1

theorem shows_empty : (∅ : SortedSet).Shows ∅ :=
  shows_iff.2 ⟨coherent_empty, fun _ => rfl⟩

namespace Shows

variable {s : SortedSet} {t : Table Int}

theorem coherent (h : s.Shows t) : s.Coherent := (shows_iff.1 h).1

theorem add (h : s.Shows t) (score : Int) (member : String) :
    (s.add score member).Shows (t.insert member score) := by
  refine shows_iff.2 ⟨h.coherent.add score member, fun other => ?_⟩
  rw [score?_add, Table.get?_insert, h.scores]

/-- The order in which members are added does not show, nor whether one is added twice. -/
theorem addAll (h : s.Shows t) (score : Int) {names names' : List String}
    (same : ∀ name, name ∈ names ↔ name ∈ names') :
    (s.addAll score names).Shows (names'.foldl (fun t name => t.insert name score) t) := by
  refine shows_iff.2 ⟨h.coherent.addAll score names, fun name => ?_⟩
  rw [score?_addAll, Table.get?_foldl_insert, h.scores]
  simp only [same]

theorem removeBelow (h : s.Shows t) (bound : Int) :
    (s.removeBelow bound).Shows (t.filter fun _ score => !decide (score < bound)) := by
  refine shows_iff.2 ⟨h.coherent.removeBelow bound, fun name => ?_⟩
  rw [h.coherent.score?_removeBelow, Table.get?_filter, h.scores]
  cases t.get? name <;> simp [Option.filter]

theorem count_eq (h : s.Shows t) (low high : Int) :
    s.count low high = t.entries.countP fun e => decide (low ≤ e.2) && decide (e.2 ≤ high) := by
  -- The two lists have the same entries, in different orders.
  have same : s.ranked.toList.Perm (t.entries.map Prod.swap) := by
    refine (List.perm_ext_iff_of_nodup (nodup_ranked s) ?_).2 ?_
    · exact (List.Nodup.of_map Prod.fst t.distinct).map Prod.swap_injective
    · rintro ⟨score, name⟩
      rw [Std.TreeSet.mem_toList, h.ranked, ← Table.mem_entries_iff]
      simp
  rw [count, same.countP_eq, List.countP_map]
  rfl

theorem isEmpty_eq_false_iff (h : s.Shows t) :
    s.isEmpty = false ↔ ∃ member score, t.get? member = some score := by
  rw [isEmpty, ← Std.TreeSet.isEmpty_toList, List.isEmpty_eq_false_iff_exists_mem]
  constructor
  · rintro ⟨⟨score, member⟩, found⟩
    exact ⟨member, score, (h.ranked score member).1 (Std.TreeSet.mem_toList.1 found)⟩
  · rintro ⟨member, score, found⟩
    exact ⟨(score, member), Std.TreeSet.mem_toList.2 ((h.ranked score member).2 found)⟩

end Shows

end SortedSet

namespace Store

variable {slots : Table Slot} {key : String} {args : List String}

/-! ## The scripts on both sides -/

/-- Slots in which a key holds what a map shows, and other keys what they hold in `slots`. -/
structure Kept (slots slots' : Table Slot) (key : String) (t : Table Int) : Prop where
  shows : ∃ members, sortedSetAt slots' key = .ok members ∧ members.Shows t
  /-- A key without members is absent. -/
  present : (slots'.get? key).isSome = true ↔ ∃ member score, t.get? member = some score
  others : ∀ other, other ≠ key → slots'.get? other = slots.get? other

theorem kept_putSortedSet {members : SortedSet} {t : Table Int} (shows : members.Shows t)
    (slots : Table Slot) (key : String) : Kept slots (putSortedSet slots key members) key t := by
  have others := fun other => @get?_putSortedSet slots key other members
  cases empty : members.isEmpty with
  | true =>
    -- The key is erased, and an absent key shows the map without members.
    have erased : (putSortedSet slots key members).get? key = none := by
      rw [putSortedSet, if_pos empty, Table.get?_erase, if_pos rfl]
    have bare : ¬∃ member score, t.get? member = some score := by
      rw [← shows.isEmpty_eq_false_iff, empty]
      exact Bool.noConfusion
    have none (member : String) : (∅ : SortedSet).score? member = t.get? member := by
      cases found : t.get? member with
      | none => rfl
      | some score => exact absurd ⟨member, score, found⟩ bare
    refine ⟨⟨∅, by rw [sortedSetAt, erased]; rfl, ?_⟩, by simp [erased, bare], others⟩
    exact SortedSet.shows_iff.2 ⟨SortedSet.coherent_empty, none⟩
  | false =>
    have filled : (putSortedSet slots key members).get? key =
        some ⟨.sortedSet members, (slots.get? key).bind Slot.expiresAt⟩ := by
      rw [putSortedSet, if_neg (by simp [empty]), Table.get?_insert, if_pos rfl]
    refine ⟨⟨members, by rw [sortedSetAt, filled]; rfl, shows⟩, ?_, others⟩
    rw [filled, ← shows.isEmpty_eq_false_iff, empty]
    simp

theorem exists_integer {index : Nat} (reads : (args[index]?.bind integer?).isSome = true) :
    ∃ text n, args[index]? = some text ∧ integer? text = some n := by
  obtain ⟨n, read⟩ := Option.isSome_iff_exists.1 reads
  obtain ⟨text, found, good⟩ := Option.bind_eq_some_iff.1 read
  exact ⟨text, n, found, good⟩

/-- The program of the log adds the units of a request in another order. -/
theorem mem_unitNames_iff {name member : String} {n : Nat} :
    name ∈ unitNames member n ↔
      name ∈ member :: (List.range' 1 (n - 1)).map fun i => member ++ ":" ++ toString i := by
  rw [mem_unitNames, List.mem_cons, List.mem_map]
  constructor
  · rintro (rfl | ⟨i, small, rfl⟩)
    · exact .inl rfl
    · exact .inr ⟨i + 1, List.mem_range'_1.2 (by omega), rfl⟩
  · rintro (rfl | ⟨i, found, rfl⟩)
    · exact .inl rfl
    · obtain ⟨first, last⟩ := List.mem_range'_1.1 found
      exact .inr ⟨i - 1, by omega, by rw [Nat.sub_add_cancel first]⟩

/-- **The sliding log script** does what its program does. -/
theorem recordUnits_eq_run (reads : ∀ i < 5, (args[i]?.bind integer?).isSome = true)
    (named : args[5]?.isSome = true) {members : SortedSet}
    (held : sortedSetAt slots key = .ok members) {t : Table Int} (shows : members.Shows t) :
    ∃ slots' reply t', recordUnits key args slots = .ok (slots', reply) ∧
      (Commands.slidingLog args).run t = some (reply, t') ∧ Kept slots slots' key t' := by
  obtain ⟨leftText, left, foundLeft, readLeft⟩ := exists_integer (reads 0 (by omega))
  obtain ⟨rightText, right, foundRight, readRight⟩ := exists_integer (reads 1 (by omega))
  obtain ⟨nowText, now, foundNow, readNow⟩ := exists_integer (reads 2 (by omega))
  obtain ⟨limitText, limit, foundLimit, readLimit⟩ := exists_integer (reads 3 (by omega))
  obtain ⟨unitsText, units, foundUnits, readUnits⟩ := exists_integer (reads 4 (by omega))
  obtain ⟨member, foundMember⟩ := Option.isSome_iff_exists.1 named
  have trimmed := shows.removeBelow left
  have counted := trimmed.count_eq left right
  have script : recordUnits key args slots =
      if limit ≤ (members.removeBelow left).count left right then
        .ok (putSortedSet slots key (members.removeBelow left), 0)
      else .ok (putSortedSet slots key
        ((members.removeBelow left).addAll now (unitNames member units.toNat)), 1) := by
    have readMember : argument some args 5 = .ok member := argument_eq foundMember rfl
    simp only [recordUnits, argument_eq foundLeft readLeft, argument_eq foundRight readRight,
      argument_eq foundNow readNow, argument_eq foundLimit readLimit,
      argument_eq foundUnits readUnits, readMember, held]
    rfl
  have program : (Commands.slidingLog args).run t =
      if limit ≤ (members.removeBelow left).count left right then
        some (0, t.filter fun _ score => !decide (score < left))
      else some (1, (member :: (List.range' 1 (units.toNat - 1)).map fun i =>
        member ++ ":" ++ toString i).foldl (fun t name => t.insert name now)
          (t.filter fun _ score => !decide (score < left))) := by
    by_cases full : limit ≤ (members.removeBelow left).count left right <;>
      simp [Commands.slidingLog, foundLeft, foundRight, foundNow, foundLimit, readLimit, foundUnits,
        readUnits, foundMember, Commands.run_zremrangebyscore readLeft,
        Commands.run_zcount readLeft readRight, ← counted, full, Commands.run_zadd readNow,
        Commands.run_zadd_all readNow]
  rw [script, program]
  split
  · exact ⟨_, _, _, rfl, rfl, kept_putSortedSet trimmed slots key⟩
  · exact ⟨_, _, _, rfl, rfl,
      kept_putSortedSet (trimmed.addAll now fun _ => mem_unitNames_iff) slots key⟩

/-- **The sliding window script** does what its program does. -/
theorem recordRequest_eq_run (reads : ∀ i < 3, (args[i]?.bind integer?).isSome = true)
    (named : args[3]?.isSome = true) {members : SortedSet}
    (held : sortedSetAt slots key = .ok members) {t : Table Int} (shows : members.Shows t) :
    ∃ slots' reply t', recordRequest key args slots = .ok (slots', reply) ∧
      (Commands.slidingWindow args).run t = some (reply, t') ∧ Kept slots slots' key t' := by
  obtain ⟨boundaryText, boundary, foundBoundary, readBoundary⟩ :=
    exists_integer (reads 0 (by omega))
  obtain ⟨nowText, now, foundNow, readNow⟩ := exists_integer (reads 1 (by omega))
  obtain ⟨limitText, limit, foundLimit, readLimit⟩ := exists_integer (reads 2 (by omega))
  obtain ⟨member, foundMember⟩ := Option.isSome_iff_exists.1 named
  have counted := shows.count_eq boundary now
  have script : recordRequest key args slots =
      if limit ≤ members.count boundary now then .ok (putSortedSet slots key members, 0)
      else .ok (putSortedSet slots key ((members.add now member).removeBelow boundary), 1) := by
    have readMember : argument some args 3 = .ok member := argument_eq foundMember rfl
    simp only [recordRequest, argument_eq foundBoundary readBoundary,
      argument_eq foundNow readNow, argument_eq foundLimit readLimit, readMember, held]
    rfl
  have program : (Commands.slidingWindow args).run t =
      if limit ≤ members.count boundary now then some (0, t)
      else some (1, (t.insert member now).filter fun _ score => !decide (score < boundary)) := by
    by_cases full : limit ≤ members.count boundary now <;>
      simp [Commands.slidingWindow, foundBoundary, foundNow, foundLimit, readLimit, foundMember,
        Commands.run_zcount readBoundary readNow, ← counted, full, Commands.run_zadd readNow,
        Commands.run_zremrangebyscore readBoundary]
  rw [script, program]
  split
  · exact ⟨_, _, _, rfl, rfl, kept_putSortedSet shows slots key⟩
  · exact ⟨_, _, _, rfl, rfl,
      kept_putSortedSet ((shows.add now member).removeBelow boundary) slots key⟩

/-! ## Every sequence of operations -/

section Leaves

variable {α : Type} [Arithmetic α] {now : Instant} {slots' : Table Slot} {reply : Int}

/-- The leaky bucket script leaves a hash. -/
theorem exists_of_pour_eq_ok (ran : pour α now key args slots = .ok (slots', reply)) :
    ∃ fields deadline, slots' = slots.insert key ⟨.hash fields, deadline⟩ := by
  -- It reads four arguments, the hash and two of its fields.
  obtain ⟨_, -, ran⟩ := exists_of_bind_eq_ok ran
  obtain ⟨_, -, ran⟩ := exists_of_bind_eq_ok ran
  obtain ⟨_, -, ran⟩ := exists_of_bind_eq_ok ran
  obtain ⟨_, -, ran⟩ := exists_of_bind_eq_ok ran
  obtain ⟨_, -, ran⟩ := exists_of_bind_eq_ok ran
  obtain ⟨_, -, ran⟩ := exists_of_bind_eq_ok ran
  obtain ⟨_, -, ran⟩ := exists_of_bind_eq_ok ran
  cases ran
  exact ⟨_, _, rfl⟩

/-- What the sliding log script does with arguments that it can read: it removes low scores, and
adds the units of the request unless there are enough members. -/
theorem exists_of_recordUnits_eq_ok (ran : recordUnits key args slots = .ok (slots', reply)) :
    ∃ left right now limit requested member members, argument integer? args 0 = .ok left ∧
      argument integer? args 1 = .ok right ∧ argument integer? args 2 = .ok now ∧
      argument integer? args 3 = .ok limit ∧ argument integer? args 4 = .ok requested ∧
      argument some args 5 = .ok member ∧ sortedSetAt slots key = .ok members ∧
      if limit ≤ (members.removeBelow left).count left right then
        reply = 0 ∧ slots' = putSortedSet slots key (members.removeBelow left)
      else
        reply = 1 ∧ slots' = putSortedSet slots key
          ((members.removeBelow left).addAll now (unitNames member requested.toNat)) := by
  obtain ⟨left, readLeft, ran⟩ := exists_of_bind_eq_ok ran
  obtain ⟨right, readRight, ran⟩ := exists_of_bind_eq_ok ran
  obtain ⟨now, readNow, ran⟩ := exists_of_bind_eq_ok ran
  obtain ⟨limit, readLimit, ran⟩ := exists_of_bind_eq_ok ran
  obtain ⟨requested, readUnits, ran⟩ := exists_of_bind_eq_ok ran
  obtain ⟨member, readMember, ran⟩ := exists_of_bind_eq_ok ran
  obtain ⟨members, held, ran⟩ := exists_of_bind_eq_ok ran
  refine ⟨left, right, now, limit, requested, member, members, readLeft, readRight, readNow,
    readLimit, readUnits, readMember, held, ?_⟩
  dsimp only at ran
  split at ran
  · rename_i full
    cases ran
    exact (if_pos full).mpr ⟨rfl, rfl⟩
  · rename_i free
    cases ran
    exact (if_neg free).mpr ⟨rfl, rfl⟩

/-- What the sliding window script does with arguments that it can read: it leaves the members as
they are if there are enough, and else adds one and removes low scores. -/
theorem exists_of_recordRequest_eq_ok (ran : recordRequest key args slots = .ok (slots', reply)) :
    ∃ boundary now limit member members, argument integer? args 0 = .ok boundary ∧
      argument integer? args 1 = .ok now ∧ argument integer? args 2 = .ok limit ∧
      argument some args 3 = .ok member ∧ sortedSetAt slots key = .ok members ∧
      if limit ≤ members.count boundary now then
        reply = 0 ∧ slots' = putSortedSet slots key members
      else
        reply = 1 ∧
          slots' = putSortedSet slots key ((members.add now member).removeBelow boundary) := by
  obtain ⟨boundary, readBoundary, ran⟩ := exists_of_bind_eq_ok ran
  obtain ⟨now, readNow, ran⟩ := exists_of_bind_eq_ok ran
  obtain ⟨limit, readLimit, ran⟩ := exists_of_bind_eq_ok ran
  obtain ⟨member, readMember, ran⟩ := exists_of_bind_eq_ok ran
  obtain ⟨members, held, ran⟩ := exists_of_bind_eq_ok ran
  refine ⟨boundary, now, limit, member, members, readBoundary, readNow, readLimit, readMember,
    held, ?_⟩
  split at ran
  · rename_i full
    cases ran
    exact (if_pos full).mpr ⟨rfl, rfl⟩
  · rename_i free
    cases ran
    exact (if_neg free).mpr ⟨rfl, rfl⟩

end Leaves

/-- Every sorted set has a property. -/
def Holding (P : SortedSet → Prop) (slots : Table Slot) : Prop :=
  ∀ key slot members, slots.get? key = some slot → slot.value = .sortedSet members → P members

namespace Holding

variable {P : SortedSet → Prop}

theorem filter (h : Holding P slots) (p : String → Slot → Bool) : Holding P (slots.filter p) := by
  intro other slot members found
  rw [Table.get?_filter] at found
  exact h other slot members (Option.filter_eq_some_iff.1 found).1

theorem insert (h : Holding P slots) {slot : Slot}
    (new : ∀ members, slot.value = .sortedSet members → P members) :
    Holding P (slots.insert key slot) := by
  intro other found members here
  rw [Table.get?_insert] at here
  split at here
  · cases here
    exact new members
  · exact h other found members here

theorem putSortedSet (h : Holding P slots) {members : SortedSet} (new : P members) :
    Holding P (putSortedSet slots key members) := by
  unfold Store.putSortedSet
  split
  · exact h.filter _
  · refine h.insert fun members same => ?_
    cases same
    exact new

/-- The sorted set under a key has the property, also the empty one of a key that is absent. -/
theorem sortedSetAt (h : Holding P slots) (empty : P ∅) {members : SortedSet}
    (held : sortedSetAt slots key = .ok members) : P members := by
  unfold Store.sortedSetAt at held
  split at held
  · rename_i found
    cases held
    obtain ⟨slot, there, value⟩ := Option.map_eq_some_iff.1 found
    exact h key slot _ there value
  · cases held
  · cases held
    exact empty

/-- A new lifetime changes no sorted set. -/
theorem expire {s : Store} (h : Holding P s.slots) (now : Instant) (key : String)
    (lifetime : Span) : Holding P (s.expire now key lifetime).1.slots := by
  unfold Store.expire
  split
  · dsimp only
    split
    · rename_i slot found
      exact (h.filter _).insert fun members value => h.filter _ key slot members found value
    · exact h.filter _
  · exact h

/-- A script that succeeds leaves what it has made of the live slots, and another one drops the
slots that have expired at most. -/
theorem eval {α : Type} [Arithmetic α] {Q : SortedSet → Prop} {s : Store}
    (h : Holding P s.slots) (sub : ∀ members, P members → Q members) {now : Instant}
    {script : Script} {keys args : List String}
    (ran : ∀ key slots reply, execute α now script key args (s.live now) = .ok (slots, reply) →
      Holding Q slots) : Holding Q (s.eval α now script keys args).1.slots := by
  have kept {slots : Table Slot} (h : Holding P slots) : Holding Q slots :=
    fun key slot members found value => sub members (h key slot members found value)
  unfold Store.eval
  split
  · cases keys with
    | nil => exact kept h
    | cons key _ =>
      dsimp only
      cases executed : Store.execute α now script key args (s.live now) with
      | ok result => exact ran key _ _ executed
      | error e => exact kept (h.filter _)
  · exact kept h

end Holding

/-- The indexes of every sorted set agree. -/
def Indexed (slots : Table Slot) : Prop :=
  ∀ key slot members, slots.get? key = some slot → slot.value = .sortedSet members →
    members.Coherent

namespace Indexed

theorem filter (h : Indexed slots) (p : String → Slot → Bool) : Indexed (slots.filter p) :=
  Holding.filter h p

theorem insert (h : Indexed slots) {slot : Slot}
    (agree : ∀ members, slot.value = .sortedSet members → members.Coherent) :
    Indexed (slots.insert key slot) :=
  Holding.insert h agree

theorem putSortedSet (h : Indexed slots) {members : SortedSet} (coherent : members.Coherent) :
    Indexed (putSortedSet slots key members) :=
  Holding.putSortedSet h coherent

theorem sortedSetAt (h : Indexed slots) {members : SortedSet}
    (held : sortedSetAt slots key = .ok members) : members.Coherent :=
  Holding.sortedSetAt h SortedSet.coherent_empty held

/-- A script leaves a hash, or a sorted set whose indexes agree. -/
theorem execute {α : Type} [Arithmetic α] (h : Indexed slots) {slots' : Table Slot}
    {now : Instant} {script : Script} {reply : Int}
    (ran : execute α now script key args slots = .ok (slots', reply)) : Indexed slots' := by
  unfold Store.execute at ran
  split at ran
  · obtain ⟨fields, deadline, rfl⟩ := exists_of_pour_eq_ok ran
    exact h.insert nofun
  split at ran
  · obtain ⟨left, _, now, _, _, _, members, -, -, -, -, -, -, held, ends⟩ :=
      exists_of_recordUnits_eq_ok ran
    have trimmed := (h.sortedSetAt held).removeBelow left
    split at ends
    · exact ends.2 ▸ h.putSortedSet trimmed
    · exact ends.2 ▸ h.putSortedSet (trimmed.addAll now _)
  split at ran
  · obtain ⟨boundary, now, _, name, members, -, -, -, -, held, ends⟩ :=
      exists_of_recordRequest_eq_ok ran
    split at ends
    · exact ends.2 ▸ h.putSortedSet (h.sortedSetAt held)
    · exact ends.2 ▸ h.putSortedSet (((h.sortedSetAt held).add now name).removeBelow boundary)
  · cases ran

end Indexed

section After

variable {α : Type} [Arithmetic α]

/-- The indexes of every sorted set agree after every sequence of operations. -/
theorem indexed_after (operations : List (Instant × Operation)) :
    Indexed (after α operations).slots := by
  refine slots_after (fun _ _ _ found => by cases found) (fun _ p h => h.filter p)
    (fun _ _ _ _ _ _ _ h ran => h.execute ran) ?_ operations
  intro slots key slot deadline h found
  exact h.insert fun members value => h key slot members found value

/-- A script of a sorted set, with the number of integers that it reads before a name, and its
program. -/
inductive Program : Script → Nat → (List String → Commands Int) → Prop where
  | slidingLog : Program .slidingLog 5 Commands.slidingLog
  | slidingWindow : Program .slidingWindow 3 Commands.slidingWindow

/-- **A script does what its program does**, in every store that a sequence of operations can make
and under every key that has a sorted set or none. The indexes of the sorted set are two views of
one map. With arguments that can be read, the script replies what the program replies on this map,
and leaves two views of the map that the program leaves, or no key if it leaves no members. -/
theorem execute_eq_run (operations : List (Instant × Operation)) (now : Instant) (key : String)
    {members : SortedSet}
    (held : sortedSetAt ((after α operations).live now) key = .ok members) :
    (∃ t, members.Shows t) ∧
    ∀ script integers program, Program script integers program →
      ∀ args : List String, (∀ i < integers, (args[i]?.bind integer?).isSome = true) →
        args[integers]?.isSome = true → ∀ t, members.Shows t →
          ∃ slots reply t', execute α now script key args ((after α operations).live now) =
              .ok (slots, reply) ∧
            (program args).run t = some (reply, t') ∧
            Kept ((after α operations).live now) slots key t' := by
  have live : Indexed ((after α operations).live now) := (indexed_after operations).filter _
  refine ⟨SortedSet.coherent_iff_exists_shows.1 (live.sortedSetAt held), ?_⟩
  intro script integers program runs args reads named t shows
  cases runs with
  | slidingLog =>
    rw [execute_slidingLog]
    exact recordUnits_eq_run reads named held shows
  | slidingWindow =>
    rw [execute_slidingWindow]
    exact recordRequest_eq_run reads named held shows

/-- A request of three units. -/
def record : List (Instant × Operation) :=
  [(⟨0⟩, .eval .slidingLog ["k"] ["0", "5", "5", "9", "3", "m"])]

/-- The units of the request. -/
def threeUnits : Table Int := ⟨[("m", 5), ("m:1", 5), ("m:2", 5)], by decide⟩

/-- A request of two units comes with a name that a request of three has had: two units move to its
time, and the third stays. -/
theorem units_added_again :
    ∃ members slots t, sortedSetAt ((after ℚ record).live ⟨0⟩) "k" = .ok members ∧
      members.Shows threeUnits ∧
      execute ℚ ⟨0⟩ .slidingLog "k" ["5", "4", "7", "9", "2", "m"]
          ((after ℚ record).live ⟨0⟩) = .ok (slots, 1) ∧
      Kept ((after ℚ record).live ⟨0⟩) slots "k" t ∧
      t.entries = [("m", 7), ("m:1", 7), ("m:2", 5)] := by
  -- The first request comes to an absent key.
  obtain ⟨recorded, reply, t, ran, same, kept⟩ :=
    @recordUnits_eq_run ((∅ : Store).live ⟨0⟩) "k" ["0", "5", "5", "9", "3", "m"] (by decide)
      (by decide) ∅ rfl ∅ SortedSet.shows_empty
  obtain ⟨rfl, rfl⟩ : reply = 1 ∧ t = threeUnits := by
    have first : (Commands.slidingLog ["0", "5", "5", "9", "3", "m"]).run ∅ =
        some (1, threeUnits) := by decide
    rw [first] at same
    cases same
    exact ⟨rfl, rfl⟩
  obtain ⟨members, held, shows⟩ := kept.shows
  have stored : after ℚ record = ⟨recorded, true⟩ := by
    rw [record, after_eval, eval_of_execute_eq_ok rfl ((execute_slidingLog ..).trans ran)]
  have lives : (recordUnits "k" ["0", "5", "5", "9", "3", "m"] ((∅ : Store).live ⟨0⟩)).map
      (fun r => (r.1.get? "k").all (·.isLive ⟨0⟩)) = .ok true := by decide +kernel
  rw [ran, Except.map, Except.ok.injEq] at lives
  have found : ((after ℚ record).live ⟨0⟩).get? "k" = recorded.get? "k" := by
    rw [stored, get?_live]
    cases there : recorded.get? "k" with
    | none => rfl
    | some slot =>
      rw [there] at lives
      exact (Option.filter_some ..).trans (if_pos lives)
  rw [sortedSetAt, ← found, ← sortedSetAt] at held
  obtain ⟨-, runs⟩ := execute_eq_run record ⟨0⟩ "k" held
  obtain ⟨slots, reply, t, executed, program, left⟩ := runs _ _ _ .slidingLog
    ["5", "4", "7", "9", "2", "m"] (by decide) (by decide) threeUnits shows
  have second : (Commands.slidingLog ["5", "4", "7", "9", "2", "m"]).run threeUnits =
      some (1, ⟨[("m", 7), ("m:1", 7), ("m:2", 5)], by decide⟩) := by decide
  rw [second] at program
  cases program
  exact ⟨members, slots, _, held, shows, executed, left, rfl⟩

end After

end Store

end Throttle
