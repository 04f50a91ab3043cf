import Throttle.Proofs.Isolation.Limiters
import Throttle.Proofs.Rejection.Reached
import Throttle.Proofs.Rejection.Repeated
import Throttle.Proofs.Shared.Numbering

/-!
# Accepted units are counted

An accepted request leaves as many members behind as it has units: it raises the number of members
in its window by exactly so many. For this its units must not take the place of members that are
there already, whichever limiter has put them there. They do not, since limiters with different
origins never draw one name twice.

The lifetime of a key is renewed in the background, when the call that asks for it may be over. So
the calls here leave the renewal to somebody else, who sets it at any time and at any reading of the
store's clock, or never does. A renewal for some time changes no counts, and one for no time removes
the key.

## Main definitions

* `Store.zcount`: the number of members of a key with a score in a range
* `Script.member?`: where a script finds the name of its request
* `Store.detached`: what a call finds whose renewal is left to somebody else
* `Limiter.Draws`: what a call may do to the names of its limiter and to the store
* `Limiters.Reached`: what calls, also some that are cut short, and others make of limiters and a
  store
* `Limiters.Unmixed`: the members of every key have names that were drawn
* `Limiter.Counts`: where a request is counted, and how many units it has

## Main results

* `SortedSet.Known.count_addAll`, `SortedSet.Known.count_add`: units with a new name count
* `Store.zcount_expire`: a renewal for some time changes no counts
* `Limiter.draws_of_step`: what a call that ends does
* `Limiter.exists_step_detached`: a call that renews at once is one that leaves the renewal to
  others, and the renewal
* `Limiters.reached_of_trace`: runs in which renewals are immediate are among those considered
* `Limiters.Reached.unmixed`: the invariant of a run
* `Limiters.units_never_overwrite`: **names differ, and accepted units are counted**
-/

namespace Throttle

open MemberNames (name used Numbered)

/-! ## Counting in a store -/

namespace SortedSet.Known

variable {drawn : Set (ℤ × UInt64 × UInt64)} {s : SortedSet} {micros : ℤ} {origin sequence : UInt64}

/-- The units of a request with a new name count, and what is removed did not. -/
theorem count_addAll (h : s.Known drawn) (fresh : (micros, origin, sequence) ∉ drawn)
    {left now right : ℤ} (order : left ≤ now ∧ now ≤ right) {n : ℕ} (units : 1 ≤ n) :
    ((s.removeBelow left).addAll now
      (Store.unitNames (name micros origin sequence) n)).count left right =
        s.count left right + n := by
  have inside : (decide (left ≤ now) && decide (now ≤ right)) = true := by simp [order]
  -- What is removed has scores below those that are counted.
  have trimmed : (s.removeBelow left).count left right = s.count left right := by
    rw [count_eq_scoring, count_eq_scoring, h.coherent.scoring_removeBelow]
    simp only [← Bool.and_assoc, Bool.and_self]
  rw [count_eq_scoring, (h.removeBelow left).scoring_addAll fresh, if_pos inside,
    ← count_eq_scoring, trimmed, Nat.sub_add_cancel units]

/-- A request with a new name counts, and what is removed did not. -/
theorem count_add (h : s.Known drawn) (fresh : (micros, origin, sequence) ∉ drawn)
    {left now : ℤ} (order : left ≤ now) :
    ((s.add now (name micros origin sequence)).removeBelow left).count left now =
      s.count left now + 1 := by
  have inside : (decide (left ≤ now) && decide (now ≤ now)) = true := by simp [order]
  have new : s.score? (name micros origin sequence) = none :=
    h.score?_eq_none fresh (Store.mem_unitNames (n := 1).2 (.inl rfl))
  have added : (s.add now (name micros origin sequence)).Coherent := h.coherent.add _ _
  rw [count_eq_scoring, added.scoring_removeBelow]
  simp only [← Bool.and_assoc, Bool.and_self]
  rw [h.coherent.scoring_add new, if_pos inside, ← count_eq_scoring]

end SortedSet.Known

namespace Store

variable {store store' : Store} {clock now : Instant} {key : String}

/-- The number of members with a score from `low` to `high` of the sorted set under a key. -/
def zcount (s : Store) (now : Instant) (key : String) (low high : ℤ) : ℕ :=
  match (s.slot? now key).map Slot.value with
  | some (.sortedSet members) => members.count low high
  | _ => 0

/-- What is counted is what a script finds. -/
theorem zcount_of_sortedSetAt {members : SortedSet}
    (held : sortedSetAt (store.live clock) key = .ok members) (low high : ℤ) :
    store.zcount clock key low high = members.count low high := by
  unfold sortedSetAt at held
  unfold zcount slot?
  split at held
  · rename_i found
    cases held
    rw [found]
  · cases held
  · rename_i absent
    cases held
    rw [absent, SortedSet.count_eq_scoring, SortedSet.scoring_empty]

/-- What is counted after a script is what it has put. -/
theorem zcount_putSortedSet {members : SortedSet} {low high : ℤ}
    (some : 0 < members.count low high) :
    zcount ⟨putSortedSet (store.live clock) key members, true⟩ clock key low high =
      members.count low high := by
  have filled : members.isEmpty = false := by
    rw [SortedSet.count_eq_scoring] at some
    exact SortedSet.isEmpty_of_scoring_pos some
  refine zcount_of_sortedSetAt ?_ low high
  rw [sortedSetAt, get?_live_putSortedSet store clock key key filled, if_pos rfl]
  rfl

/-- A renewal for some time does not change what is counted. -/
theorem zcount_expire {lifetime : Span} (lasting : 0 < lifetime.nanos) (low high : ℤ) :
    (store.expire clock key lifetime).1.zcount clock key low high =
      store.zcount clock key low high := by
  unfold expire
  split
  · dsimp only
    cases found : (store.live clock).get? key with
    -- There is no lifetime to renew, and what is purged was not counted.
    | none =>
      change (store.purge clock).zcount clock key low high = _
      rw [zcount, zcount, slot?_purge]
    | some slot =>
      let renewed : Slot := ⟨slot.value, clock.after? lifetime⟩
      have live : renewed.isLive clock = true := Slot.isLive_after slot.value (by omega)
      have shown (available : Bool) :
          slot? ⟨(store.live clock).insert key renewed, available⟩ clock key = some renewed := by
        rw [slot?, get?_live, Table.get?_insert, if_pos rfl, Option.filter_some, if_pos live]
      rw [zcount, zcount, shown, slot?, found]
      rfl
  · rfl

/-- An integer that is written is read as itself. -/
theorem eq_of_argument_integer {args : List String} {index : ℕ} {x value : ℤ}
    (found : args[index]? = some (toString x)) (read : argument integer? args index = .ok value) :
    value = x := by
  rw [argument, found, Option.bind_some, integer?, Numeral.wholeOfText?_toString] at read
  split at read
  · rename_i kept
    cases read
    exact (Option.some.inj (Option.filter_eq_some_iff.1 kept).1).symm
  · cases read

/-- A text is read as itself. -/
theorem argument_text_eq_ok_iff {args : List String} {index : ℕ} {text : String} :
    argument some args index = .ok text ↔ args[index]? = some text := by
  rw [argument, Option.bind_fun_some]
  cases args[index]? <;> simp

section Accepted

variable {α : Type} [Arithmetic α] {drawn : Set (ℤ × UInt64 × UInt64)} {origin sequence : UInt64}
  {limit : ℕ} (known : Holding (SortedSet.Known drawn) store.slots)
  (fresh : (now.micros, origin, sequence) ∉ drawn)

include known fresh

/-- **An accepted request of the log is counted unit by unit.** -/
theorem zcount_of_eval_slidingLog {left right : Instant} (order : left ≤ now ∧ now ≤ right) {n : ℕ}
    (units : 1 ≤ n)
    (ran : store.eval α clock .slidingLog [key] (SharedSlidingLog.arguments left right now limit n
      (name now.micros origin sequence)) = (store', .ok 1)) :
    store'.zcount clock key left.micros right.micros =
      store.zcount clock key left.micros right.micros + n := by
  obtain ⟨-, slots, executed, rfl⟩ := exists_of_eval_eq_ok ran
  rw [execute_slidingLog] at executed
  obtain ⟨low, high, score, _, requested, member, members, readLeft, readRight, readNow, -,
    readUnits, readMember, held, ends⟩ := exists_of_recordUnits_eq_ok executed
  obtain rfl := eq_of_argument_integer rfl readLeft
  obtain rfl := eq_of_argument_integer rfl readRight
  obtain rfl := eq_of_argument_integer rfl readNow
  obtain rfl := (eq_of_argument rfl readUnits).2
  obtain rfl := Option.some.inj (argument_text_eq_ok_iff.1 readMember)
  have found : members.Known drawn := (known.filter _).sortedSetAt (.empty drawn) held
  have counted := found.count_addAll fresh
    ⟨Instant.micros_le_micros order.1, Instant.micros_le_micros order.2⟩ units
  split at ends
  · cases ends.1
  · rw [ends.2, Int.toNat_natCast, zcount_putSortedSet (by omega), counted,
      zcount_of_sortedSetAt held]

/-- **An accepted request of the window is counted once.** -/
theorem zcount_of_eval_slidingWindow {left : Instant} (order : left ≤ now)
    (ran : store.eval α clock .slidingWindow [key] (SharedSlidingWindow.arguments left now limit
      (name now.micros origin sequence)) = (store', .ok 1)) :
    store'.zcount clock key left.micros now.micros =
      store.zcount clock key left.micros now.micros + 1 := by
  obtain ⟨-, slots, executed, rfl⟩ := exists_of_eval_eq_ok ran
  rw [execute_slidingWindow] at executed
  obtain ⟨low, score, _, member, members, readLeft, readNow, -, readMember, held, ends⟩ :=
    exists_of_recordRequest_eq_ok executed
  obtain rfl := eq_of_argument_integer rfl readLeft
  obtain rfl := eq_of_argument_integer rfl readNow
  obtain rfl := Option.some.inj (argument_text_eq_ok_iff.1 readMember)
  have found : members.Known drawn := (known.filter _).sortedSetAt (.empty drawn) held
  have counted := found.count_add fresh (Instant.micros_le_micros order)
  split at ends
  · cases ends.1
  · rw [ends.2, zcount_putSortedSet (by omega), counted, zcount_of_sortedSetAt held]

end Accepted

end Store

/-! ## What scripts leave under the keys -/

/-- The name of its request that a script finds among its arguments. A bucket's script finds
none. -/
def Script.member? (script : Script) (args : List String) : Option String :=
  if script = .slidingLog then args[5]?
  else if script = .slidingWindow then args[3]?
  else none

namespace Store

variable {α : Type} [Arithmetic α] {drawn drawn' : Set (ℤ × UInt64 × UInt64)} {clock : Instant}
  {script : Script} {args : List String}

/-- What a script is named is one of some names, if anything. -/
def Names (drawn : Set (ℤ × UInt64 × UInt64)) (script : Script) (args : List String) : Prop :=
  ∀ member, script.member? args = some member → ∃ micros origin sequence,
    (micros, origin, sequence) ∈ drawn ∧ member = name micros origin sequence

/-- A script adds the units of its request. -/
theorem known_of_execute {slots slots' : Table Slot} {key : String} {reply : ℤ}
    (known : Holding (SortedSet.Known drawn) slots) (sub : drawn ⊆ drawn')
    (names : Names drawn' script args)
    (ran : execute α clock script key args slots = .ok (slots', reply)) :
    Holding (SortedSet.Known drawn') slots' := by
  have kept : Holding (SortedSet.Known drawn') slots :=
    fun key slot members found value => (known key slot members found value).mono sub
  unfold execute at ran
  split at ran
  · obtain ⟨fields, deadline, rfl⟩ := exists_of_pour_eq_ok ran
    exact kept.insert nofun
  split at ran
  · rename_i isLog
    obtain ⟨left, _, now, _, requested, member, members, -, -, -, -, -, readMember, held, ends⟩ :=
      exists_of_recordUnits_eq_ok ran
    have trimmed := (kept.sortedSetAt (.empty _) held).removeBelow left
    split at ends
    · exact ends.2 ▸ kept.putSortedSet trimmed
    · obtain ⟨micros, origin, sequence, found, rfl⟩ := names member (by
        rw [Script.member?, if_pos isLog, argument_text_eq_ok_iff.1 readMember])
      exact ends.2 ▸ kept.putSortedSet (trimmed.addAll found subset_rfl now _)
  split at ran
  · rename_i notLog isWindow
    obtain ⟨left, now, _, member, members, -, -, -, readMember, held, ends⟩ :=
      exists_of_recordRequest_eq_ok ran
    have found := kept.sortedSetAt (.empty _) held
    split at ends
    · exact ends.2 ▸ kept.putSortedSet found
    · obtain ⟨micros, origin, sequence, drawn, rfl⟩ := names member (by
        rw [Script.member?, if_neg notLog, if_pos isWindow, argument_text_eq_ok_iff.1 readMember])
      have added : SortedSet.Known drawn' (members.add now (name micros origin sequence)) :=
        found.addAll drawn subset_rfl now 1
      exact ends.2 ▸ kept.putSortedSet (added.removeBelow left)
  · cases ran

/-- So does the script that a store runs. -/
theorem known_of_eval {store : Store} {keys : List String}
    (known : Holding (SortedSet.Known drawn) store.slots) (sub : drawn ⊆ drawn')
    (names : Names drawn' script args) :
    Holding (SortedSet.Known drawn') (store.eval α clock script keys args).1.slots :=
  known.eval (fun _ found => found.mono sub) fun _ _ _ ran =>
    known_of_execute (known.filter _) sub names ran

end Store

/-! ## Calls -/

namespace Script

@[simp] theorem member?_leakyBucket (args : List String) : leakyBucket.member? args = none := by
  have notLog : leakyBucket ≠ slidingLog := fun same =>
    absurd (congrArg name same) (by decide)
  have notWindow : leakyBucket ≠ slidingWindow := fun same =>
    absurd (congrArg name same) (by decide)
  rw [member?, if_neg notLog, if_neg notWindow]

@[simp] theorem member?_slidingLog (args : List String) : slidingLog.member? args = args[5]? :=
  if_pos rfl

@[simp] theorem member?_slidingWindow (args : List String) :
    slidingWindow.member? args = args[3]? := by
  have notLog : slidingWindow ≠ slidingLog := fun same =>
    absurd (congrArg name same) (by decide)
  rw [member?, if_neg notLog, if_pos rfl]

end Script

namespace Store

variable {α : Type} [Arithmetic α] {clock now : Instant} {scheduler : Bool}

/-- What a call at `now` finds that is made to a store whose clock reads `clock`, if the renewal of
its key's lifetime is left to somebody else. -/
def detached (α : Type) [Arithmetic α] (clock now : Instant) (scheduler : Bool) :
    Context Store where
  executor := { executor α clock with expire := fun _ _ store => (store, .ok ()) }
  now := now
  scheduler := scheduler

@[simp] theorem now_detached : (detached α clock now scheduler).now = now := rfl

@[simp] theorem refresh_detached (key : String) (lifetime : Span) (store : Store) :
    (detached α clock now scheduler).refresh key lifetime store = store := by
  unfold Context.refresh
  split <;> rfl

/-- Only the renewal is left. -/
theorem eval_detached : (detached α now now true).eval = (context α now).eval := rfl

/-- A script that is run by a call is run by the store. -/
theorem eq_of_eval_detached {limit : Option Span} {script : Script} {key : String}
    {args : List String} {store : Store} {ended : Store × Except LimiterError ℤ}
    (ran : (detached α clock now scheduler).eval limit script key args store = .ok ended) :
    store.eval α clock script [key] args = ended := by
  unfold Context.eval at ran
  dsimp only at ran
  split at ran
  · cases ran
  · cases ran
    rw [Evaluation.within_of_instant rfl]
    rfl

end Store

section Detached

variable {α : Type} [Arithmetic α] {now : Instant} {store store' : Store} {key : String}
  {outcome : Except LimiterError Bool}

/-- A request to a shared window that renews at once is one that leaves the renewal to others, and
the renewal. -/
theorem SharedSlidingWindow.exists_request_detached {l l' : SharedSlidingWindow}
    {params : SlidingWindow.Config}
    (made : request (Store.context α now) l store key params = .ok ((l', store'), outcome)) :
    ∃ ran, request (Store.detached α now now true) l store key params =
        .ok ((l', ran), outcome) ∧
      (store' = ran ∨ ∃ lifetime, store' = (ran.expire now key lifetime).1) := by
  obtain ⟨e, invalid, rfl, rfl, rfl⟩ |
      ⟨_, _, lifetime, ran, reply, isWindow, reaches, lasts, evaluated, rfl, rfl, rfl⟩ :=
    exists_of_request made
  · exact ⟨store', by simp only [request, invalid], .inl rfl⟩
  · refine ⟨ran, ?_, .inr ⟨lifetime, rfl⟩⟩
    rw [← Store.eval_detached] at evaluated
    simp only [Store.now_context] at reaches evaluated
    simp only [request, isWindow, Store.now_detached, reaches, evaluated, lasts,
      Store.refresh_detached, Store.now_context]

/-- A request to a shared log that renews at once is one that leaves the renewal to others, and the
renewal. -/
theorem SharedSlidingLog.exists_request_detached {l l' : SharedSlidingLog}
    {params : SlidingLog.Config} {o : AllowOptions}
    (made : request (Store.context α now) l store key params o = .ok ((l', store'), outcome)) :
    ∃ ran, request (Store.detached α now now true) l store key params o =
        .ok ((l', ran), outcome) ∧
      (store' = ran ∨ ∃ lifetime, store' = (ran.expire now key lifetime).1) := by
  obtain ⟨e, unbounded, rfl, rfl, rfl⟩ |
      ⟨_, _, lifetime, ran, reply, bounds, lasts, evaluated, rfl, rfl, rfl⟩ :=
    exists_of_request made
  · rw [Store.now_context] at unbounded
    exact ⟨store', by simp only [request, Store.now_detached, unbounded], .inl rfl⟩
  · refine ⟨ran, ?_, .inr ⟨lifetime, rfl⟩⟩
    rw [← Store.eval_detached] at evaluated
    simp only [Store.now_context] at bounds lasts evaluated
    simp only [request, Store.now_detached, bounds, evaluated, lasts, Store.refresh_detached,
      Store.now_context]

end Detached

namespace Limiter

variable {α : Type} [Arithmetic α] {clock now : Instant} {scheduler : Bool} {l l' : Limiter α}
  {store store' : Store} {call : Call α} {outcome : Outcome}

/-- **A call that renews at once is one that leaves the renewal to others, and the renewal.** -/
theorem exists_step_detached
    (made : step (Store.context α now) (l, store) call = .ok ((l', store'), outcome)) :
    ∃ ran, step (Store.detached α now now true) (l, store) call = .ok ((l', ran), outcome) ∧
      (store' = ran ∨ ∃ lifetime, store' = (ran.expire now call.key lifetime).1) := by
  cases asks : l.scriptFor? call with
  | none =>
    -- Without a script nothing is renewed, and what else a context tells is the same.
    refine ⟨store', ?_, .inl rfl⟩
    rw [← made]
    cases l <;> cases call <;> first | (cases asks; done) | rfl
  | some script =>
    cases l with
    | sharedLeakyBucket s =>
      have same : s.serve (Store.detached α now now true) store call =
          s.serve (Store.context α now) store call := by
        simp only [SharedLeakyBucket.serve, SharedLeakyBucket.pour, Store.eval_detached,
          Store.now_detached, Store.now_context]
      rw [(step_sharedLeakyBucket _ _ asks).2] at made ⊢
      rw [same, made]
      exact ⟨store', rfl, .inl rfl⟩
    | sharedSlidingWindow s =>
      rw [(step_sharedSlidingWindow _ _ asks).2] at made ⊢
      obtain ⟨⟨⟨s', _⟩, answer⟩, served, same⟩ := exists_of_map_eq_ok made
      cases same
      unfold SharedSlidingWindow.serve at served ⊢
      split at served
      · cases served
        exact ⟨_, rfl, .inl rfl⟩
      · obtain ⟨ran, requested, renewed⟩ := SharedSlidingWindow.exists_request_detached served
        exact ⟨ran, by rw [requested]; rfl, renewed⟩
    | sharedSlidingLog s =>
      rw [(step_sharedSlidingLog _ _ asks).2] at made ⊢
      obtain ⟨⟨⟨s', _⟩, answer⟩, served, same⟩ := exists_of_map_eq_ok made
      cases same
      unfold SharedSlidingLog.serve at served ⊢
      split at served
      · cases served
        exact ⟨_, rfl, .inl rfl⟩
      · obtain ⟨ran, requested, renewed⟩ := SharedSlidingLog.exists_request_detached served
        exact ⟨ran, by rw [requested]; rfl, renewed⟩
    | _ => cases asks

/-- What a call may do to the names of its limiter and to the store: it may draw a name, and it may
run a script, which finds this name or none. A call that is cut short does some of this. -/
inductive Draws (clock now : Instant) : Limiter α × Store → Limiter α × Store → Prop where
  | idle {l l' : Limiter α} {store : Store} (members : l'.members? = l.members?) :
    Draws clock now (l, store) (l', store)
  | unnamed {l l' : Limiter α} {store : Store} {script : Script} {args : List String}
    (members : l'.members? = l.members?) (keys : List String)
    (unnamed : script.member? args = none) :
    Draws clock now (l, store) (l', (store.eval α clock script keys args).1)
  | drew {l l' : Limiter α} {store : Store} {m : MemberNames} (named : l.members? = some m)
    (next : l'.members? = some (m.next now.micros).1) : Draws clock now (l, store) (l', store)
  | recorded {l l' : Limiter α} {store : Store} {m : MemberNames} {script : Script}
    {args : List String} (named : l.members? = some m)
    (next : l'.members? = some (m.next now.micros).1) (keys : List String)
    (member : script.member? args = some (m.next now.micros).2) :
    Draws clock now (l, store) (l', (store.eval α clock script keys args).1)

/-- What a call does that ends. -/
theorem draws_of_step (made : step (Store.detached α clock now scheduler) (l, store) call =
      .ok ((l', store'), outcome)) : Draws clock now (l, store) (l', store') := by
  cases stepped_of_step made with
  | set sets => exact .idle (changed_of_setter sets).members
  | refused | untaken | tokenBucket | leakyBucket | slidingWindow | slidingLog => exact .idle rfl
  | sharedLeakyBucket asks served =>
    unfold SharedLeakyBucket.serve at served
    split at served
    · cases served
      exact .idle rfl
    · obtain ⟨⟨_, _⟩, poured, same⟩ := exists_of_map_eq_ok served
      cases same
      unfold SharedLeakyBucket.pour at poured
      obtain ⟨⟨_, _⟩, ran, same⟩ := exists_of_map_eq_ok poured
      cases same
      have ended := congrArg Prod.fst (Store.eq_of_eval_detached ran)
      subst ended
      exact .unnamed (by rfl) _ (Script.member?_leakyBucket _)
  | sharedSlidingWindow asks served =>
    unfold SharedSlidingWindow.serve at served
    split at served
    · cases served
      exact .idle rfl
    · obtain ⟨_, -, rfl, rfl, -⟩ | ⟨_, _, _, _, _, -, -, -, ran, rfl, rfl, -⟩ :=
        SharedSlidingWindow.exists_of_request served
      · exact .idle rfl
      · rw [Store.refresh_detached]
        have ended := congrArg Prod.fst (Store.eq_of_eval_detached ran)
        subst ended
        exact .recorded rfl rfl _ (Script.member?_slidingWindow _)
  | sharedSlidingLog asks served =>
    unfold SharedSlidingLog.serve at served
    split at served
    · cases served
      exact .idle rfl
    · obtain ⟨_, -, rfl, rfl, -⟩ | ⟨_, _, _, _, _, -, -, ran, rfl, rfl, -⟩ :=
        SharedSlidingLog.exists_of_request served
      · exact .idle rfl
      · rw [Store.refresh_detached]
        have ended := congrArg Prod.fst (Store.eq_of_eval_detached ran)
        subst ended
        exact .recorded rfl rfl _ (Script.member?_slidingLog _)

/-- Between which instants a request of a shared log or window is counted, and how many units it
has. The parameters are those that the request meets. -/
inductive Counts (now : Instant) (call : Call α) :
    Limiter α → (left right : Instant) → (units : ℕ) → Prop where
  | sharedSlidingLog {log : SharedSlidingLog} {keyed : Keyed SlidingLog.sharedScheme}
    {params : SlidingLog.Config} {left right : Instant}
    (met : log.keyed.meet call = .ok (keyed, params))
    (bounds : call.options.windowBounds now params.window.nanos params.fixedWindow =
      .ok (.ok (left, right))) :
    Counts now call (.sharedSlidingLog log) left right call.options.weight
  | sharedSlidingWindow {window : SharedSlidingWindow} {keyed : Keyed SlidingWindow.sharedScheme}
    {params : SlidingWindow.Config} {left : Instant}
    (met : window.meet call = .ok (keyed, params))
    (reaches : now.shift? (-params.window.nanos) = some left) :
    Counts now call (.sharedSlidingWindow window) left now 1

/-- A request is accepted on one reply only. -/
theorem reply_of_accepted {answer : Except LimiterError Bool} {reply : Except LimiterError ℤ}
    (accepted : (Except.ok (some true) : Outcome) = answer.map some)
    (decided : answer = reply.bind decision) : reply = .ok 1 := by
  obtain ⟨b, answered, same⟩ := exists_of_map_eq_ok accepted.symm
  cases same
  obtain ⟨n, replied, decides⟩ := exists_of_bind_eq_ok (decided.symm.trans answered)
  rw [replied, decision_eq_ok_iff.1 decides, if_pos rfl]

/-- **An accepted request is counted with all its units**, if the next name of its limiter is none
of those that the members of the keys come from. -/
theorem zcount_of_accepted {drawn : Set (ℤ × UInt64 × UInt64)} {m : MemberNames}
    (named : l.members? = some m)
    (known : Store.Holding (SortedSet.Known drawn) store.slots)
    (fresh : (now.micros, m.origin, m.sequence) ∉ drawn)
    (made : step (Store.detached α clock now scheduler) (l, store) call =
      .ok ((l', store'), .ok (some true))) :
    ∃ left right units, Counts now call l left right units ∧
      store'.zcount clock call.key left.micros right.micros =
        store.zcount clock call.key left.micros right.micros + units := by
  have stepped := stepped_of_step made
  generalize accepted : (Except.ok (some true) : Outcome) = outcome at stepped
  cases stepped with
  | sharedSlidingLog asks served =>
    unfold SharedSlidingLog.serve at served
    split at served
    · cases served
      cases accepted
    · rename_i s _ _ keyed params met
      obtain ⟨_, -, -, -, rfl⟩ |
          ⟨left, right, _, ran, reply, bounds, -, evaluated, -, rfl, decided⟩ :=
        SharedSlidingLog.exists_of_request served
      · cases accepted
      · cases named
        obtain rfl := reply_of_accepted accepted decided
        rw [Store.refresh_detached]
        have order := AllowOptions.windowBounds_contains (Int.natCast_nonneg _) bounds
        exact ⟨left, right, _, .sharedSlidingLog met bounds,
          Store.zcount_of_eval_slidingLog known fresh order (AllowOptions.one_le_weight _)
            (Store.eq_of_eval_detached evaluated)⟩
  | sharedSlidingWindow asks served =>
    unfold SharedSlidingWindow.serve at served
    split at served
    · cases served
      cases accepted
    · rename_i s _ _ keyed params met
      obtain ⟨_, -, -, -, rfl⟩ |
          ⟨length, left, _, ran, reply, isWindow, reaches, -, evaluated, -, rfl, decided⟩ :=
        SharedSlidingWindow.exists_of_request served
      · cases accepted
      · cases named
        obtain rfl := reply_of_accepted accepted decided
        rw [Store.refresh_detached]
        obtain rfl := (Span.window?_eq_ok_iff.1 isWindow).1
        have moved := (Instant.shift?_eq_some_iff.1 reaches).1
        have order : left ≤ now := Instant.le_def.2 (by simp at moved; omega)
        exact ⟨left, now, _, .sharedSlidingWindow met reaches,
          Store.zcount_of_eval_slidingWindow known fresh order
            (Store.eq_of_eval_detached evaluated)⟩
  | set | refused | untaken => cases accepted
  | _ => cases named

end Limiter

/-! ## Runs of several limiters -/

/-- An operation of somebody else: it may run any script that finds no name, and set any lifetime,
as the renewals do that the calls leave to others. -/
def Store.Operation.IsForeign : Store.Operation → Prop
  | .eval script _ args => script.member? args = none
  | _ => True

namespace Limiters

variable {ι α : Type} [DecidableEq ι] [Arithmetic α] {initial : ι → Limiter α}
  {origin : ι → UInt64} {calls : List ι} {s : (ι → Limiter α) × Store}

/-- Limiters and a store to which calls have led from new limiters and an empty store, with the
limiters that were called. The clocks of the limiters and of the store may read anything. A call may
be cut short, and others may use the store in between. -/
inductive Reached (initial : ι → Limiter α) : List ι → (ι → Limiter α) × Store → Prop where
  | start : Reached initial [] (initial, ∅)
  | called {calls : List ι} {s : (ι → Limiter α) × Store} {i : ι} {clock now : Instant}
    {scheduler : Bool} {call : Call α} {l : Limiter α} {store : Store} {outcome : Limiter.Outcome}
    (reached : Reached initial calls s)
    (made : Limiter.step (Store.detached α clock now scheduler) (s.1 i, s.2) call =
      .ok ((l, store), outcome)) :
    Reached initial (calls ++ [i]) (Function.update s.1 i l, store)
  | cutShort {calls : List ι} {s : (ι → Limiter α) × Store} {i : ι} {clock now : Instant}
    {l : Limiter α} {store : Store} (reached : Reached initial calls s)
    (draws : Limiter.Draws clock now (s.1 i, s.2) (l, store)) :
    Reached initial (calls ++ [i]) (Function.update s.1 i l, store)
  | used {calls : List ι} {s : (ι → Limiter α) × Store} {o : Store.Operation}
    (reached : Reached initial calls s) (clock : Instant) (foreign : o.IsForeign) :
    Reached initial calls (s.1, s.2.perform α clock o)

/-- A call that renews at once is followed by its renewal. -/
theorem Reached.step {s' : (ι → Limiter α) × Store} {e : Event ι α} {outcome : Limiter.Outcome}
    (reached : Reached initial calls s) (made : Limiters.step s e = .ok (s', outcome)) :
    Reached initial (calls ++ [e.limiter]) s' := by
  obtain ⟨⟨⟨l, store⟩, _⟩, stepped, same⟩ := exists_of_map_eq_ok made
  cases same
  obtain ⟨ran, detached, rfl | ⟨lifetime, rfl⟩⟩ := Limiter.exists_step_detached stepped
  · exact reached.called detached
  · exact (reached.called detached).used (o := .expire e.call.key lifetime) e.now trivial

/-- **Runs in which renewals are immediate are among those considered.** -/
theorem reached_of_trace {events : List (Event ι α)} {last : (ι → Limiter α) × Store}
    {answers : List (Event ι α × Limiter.Outcome)} (reached : Reached initial calls s)
    (ran : trace Limiters.step s events = .ok (last, answers)) :
    Reached initial (calls ++ events.map Event.limiter) last := by
  induction events generalizing calls s answers with
  | nil =>
    cases ran
    rwa [List.map_nil, List.append_nil]
  | cons e events ih =>
    obtain ⟨⟨next, answer⟩, stepped, goesOn⟩ := exists_of_bind_eq_ok ran
    obtain ⟨⟨_, answers⟩, ranRest, same⟩ := exists_of_map_eq_ok goesOn
    cases same
    rw [List.map_cons, List.append_cons]
    exact ih (reached.step stepped) ranRest

/-- Limiters have drawn a name for each of their calls at most, and the members of every key have
such names. -/
structure Unmixed (origin : ι → UInt64) (calls : List ι) (s : (ι → Limiter α) × Store) : Prop where
  numbered : Numbered origin calls (Limiter.members? ∘ s.1)
  known : Store.Holding (SortedSet.Known (used (Limiter.members? ∘ s.1))) s.2.slots

/-- New limiters have drawn no names, and an empty store has no members. -/
theorem Unmixed.start (new : ∀ i m, (initial i).members? = some m → m = .ofOrigin (origin i)) :
    Unmixed origin [] (initial, ∅) where
  numbered i m named := by
    cases new i m named
    exact ⟨rfl, Nat.zero_le _⟩
  known _ _ _ found := nomatch found

/-- **A call keeps account of the names**, whether or not it ends. -/
theorem Unmixed.draws {i : ι} {clock now : Instant} {l : Limiter α} {store : Store}
    (h : Unmixed origin calls s) (draws : Limiter.Draws clock now (s.1 i, s.2) (l, store))
    (few : (calls ++ [i]).count i < 2 ^ 64) :
    Unmixed origin (calls ++ [i]) (Function.update s.1 i l, store) := by
  have names : Limiter.members? ∘ Function.update s.1 i l =
      Function.update (Limiter.members? ∘ s.1) i l.members? := Function.comp_update ..
  have same (members : l.members? = (s.1 i).members?) :
      Limiter.members? ∘ Function.update s.1 i l = Limiter.members? ∘ s.1 := by
    rw [names, members]
    exact Function.update_eq_self i (Limiter.members? ∘ s.1)
  cases draws with
  | idle members =>
    refine ⟨?_, ?_⟩ <;> dsimp only <;> rw [same members]
    · exact h.numbered.append [i]
    · exact h.known
  | unnamed members keys unnamed =>
    refine ⟨?_, ?_⟩ <;> dsimp only <;> rw [same members]
    · exact h.numbered.append [i]
    · exact Store.known_of_eval h.known subset_rfl fun _ named => nomatch unnamed.symm.trans named
  | drew named next =>
    have left := h.numbered.number_left named few
    refine ⟨?_, ?_⟩ <;> dsimp only <;> rw [names, next]
    · exact h.numbered.update named few _
    · exact fun key slot members found value =>
        (h.known key slot members found value).mono
          (MemberNames.used_subset_update (i := i) named left _)
  | recorded named next keys member =>
    have left := h.numbered.number_left named few
    refine ⟨?_, ?_⟩ <;> dsimp only <;> rw [names, next]
    · exact h.numbered.update named few _
    · refine Store.known_of_eval h.known (MemberNames.used_subset_update (i := i) named left _) ?_
      intro _ found
      cases member.symm.trans found
      exact ⟨_, _, _, MemberNames.mem_used_update left _, rfl⟩

/-- Others add no members. -/
theorem Unmixed.perform {clock : Instant} {o : Store.Operation} (h : Unmixed origin calls s)
    (foreign : o.IsForeign) : Unmixed origin calls (s.1, s.2.perform α clock o) where
  numbered := h.numbered
  known := by
    cases o with
    | eval script keys args =>
      exact Store.known_of_eval h.known subset_rfl fun _ named => nomatch foreign.symm.trans named
    | expire key lifetime => exact h.known.expire clock key lifetime
    | reach available => exact h.known
    | look => exact h.known.filter _

/-- **The members of every key have names that were drawn**, whatever calls and others do. -/
theorem Reached.unmixed (new : ∀ i m, (initial i).members? = some m → m = .ofOrigin (origin i))
    (reached : Reached initial calls s) (few : ∀ i, calls.count i < 2 ^ 64) :
    Unmixed origin calls s := by
  -- Fewer calls have been made at any time before.
  have earlier {calls : List ι} {i : ι} (few : ∀ j, (calls ++ [i]).count j < 2 ^ 64) (j : ι) :
      calls.count j < 2 ^ 64 :=
    Nat.lt_of_le_of_lt ((List.sublist_append_left ..).count_le j) (few j)
  induction reached with
  | start => exact .start new
  | called _ made ih => exact (ih (earlier few)).draws (Limiter.draws_of_step made) (few _)
  | cutShort _ draws ih => exact (ih (earlier few)).draws draws (few _)
  | used _ clock foreign ih => exact (ih few).perform foreign

/-- **Units never overwrite each other.** Limiters with different origins take fewer than `2 ^ 64`
calls each, over one store. The names of all units of their requests are different, whatever the
times and the weights of these are. So a request of a shared log or window that is accepted raises
the number of members between its boundaries by exactly its units, wherever calls of the limiters
and foreign uses of the store have led. -/
theorem units_never_overwrite {origin : ι → UInt64} (apart : Function.Injective origin) :
    (∀ requests : List (MemberNames.Request ι),
      (∀ i, (requests.map MemberNames.Request.limiter).count i < 2 ^ 64) →
        (MemberNames.unitsDrawn origin requests).Nodup) ∧
    ∀ initial : ι → Limiter α,
      (∀ i m, (initial i).members? = some m → m = .ofOrigin (origin i)) →
      ∀ calls s, Reached initial calls s → (∀ i, calls.count i < 2 ^ 64) →
      ∀ i clock now scheduler call l store, (s.1 i).members? ≠ none →
        Limiter.step (Store.detached α clock now scheduler) (s.1 i, s.2) call =
          .ok ((l, store), .ok (some true)) →
        ∃ left right units, (s.1 i).Counts now call left right units ∧
          store.zcount clock call.key left.micros right.micros =
            s.2.zcount clock call.key left.micros right.micros + units := by
  refine ⟨fun requests few => MemberNames.nodup_unitsDrawn apart few, ?_⟩
  intro initial new calls s reached few i clock now scheduler call l store names made
  have unmixed := reached.unmixed new few
  -- The members that the request meets have names that were drawn before, and its own was not.
  obtain ⟨m, named⟩ := Option.ne_none_iff_exists'.1 names
  exact Limiter.zcount_of_accepted named unmixed.known
    (unmixed.numbered.notMem_used apart named now.micros) made

/-- A shared log of five units and a shared window of five requests in ten seconds, with origins of
their own. -/
def logAndWindow (i : Bool) : Limiter ℚ :=
  if i then
    .sharedSlidingLog ⟨⟨⟨5, .ofSeconds 10, none⟩, by decide, ∅⟩, .ofOrigin 1, none, defaultGrace⟩
  else
    .sharedSlidingWindow ⟨⟨⟨5, .ofSeconds 10⟩, by decide, ∅⟩, .ofOrigin 0, none, defaultGrace⟩

/-- A log takes three units, and a window a request to the same key within the same microsecond,
before the epoch: the three are counted, and the one. -/
theorem units_never_overwrite_at_once :
    let origin : Bool → UInt64 := fun i => if i then 1 else 0
    (MemberNames.unitsDrawn origin [⟨true, -2, 3⟩, ⟨false, -2, 1⟩, ⟨true, -2, 2⟩]).Nodup ∧
    ∃ l store l' store',
      Limiter.step (Store.detached ℚ ⟨-2000⟩ ⟨-2000⟩ true) (logAndWindow true, ∅)
        (.allow "k" { count := 3 }) = .ok ((l, store), .ok (some true)) ∧
      store.zcount ⟨-2000⟩ "k" (-10000002) (-2) = 3 ∧
      Limiter.step (Store.detached ℚ ⟨-2000⟩ ⟨-2000⟩ true) (logAndWindow false, store)
        (.allow "k" {}) = .ok ((l', store'), .ok (some true)) ∧
      store'.zcount ⟨-2000⟩ "k" (-10000002) (-2) = 4 := by
  intro origin
  have apart : Function.Injective origin := by
    intro i j same
    cases i <;> cases j <;> first | rfl | cases same
  have new : ∀ i m, (logAndWindow i).members? = some m → m = .ofOrigin (origin i) := by
    intro i m named
    cases i <;> exact (Option.some.inj named).symm
  obtain ⟨differ, counted⟩ := units_never_overwrite (α := ℚ) apart
  have passes : ((Limiter.step (Store.detached ℚ ⟨-2000⟩ ⟨-2000⟩ true) (logAndWindow true, ∅)
      (.allow "k" { count := 3 })).bind fun next =>
        (Limiter.step (Store.detached ℚ ⟨-2000⟩ ⟨-2000⟩ true) (logAndWindow false, next.1.2)
          (.allow "k" {})).map fun last => (next.2, last.2)) =
      .ok (.ok (some true), .ok (some true)) := by decide +kernel
  obtain ⟨⟨⟨l, store⟩, _⟩, logged, goesOn⟩ := exists_of_bind_eq_ok passes
  obtain ⟨⟨⟨l', store'⟩, _⟩, windowed, same⟩ := exists_of_map_eq_ok goesOn
  cases same
  have unused : Reached logAndWindow [] (logAndWindow, ∅) := .start
  have three : store.zcount ⟨-2000⟩ "k" (-10000002) (-2) = 3 := by
    obtain ⟨left, right, units, counts, more⟩ := counted logAndWindow new [] _ unused (by decide)
      true _ _ _ _ _ _ nofun logged
    -- The boundaries are those that the log's parameters give.
    cases counts with
    | sharedSlidingLog met bounds =>
      cases met
      cases bounds
      exact more
  have called : Reached logAndWindow [true] (Function.update logAndWindow true l, store) :=
    unused.called logged
  have four : store'.zcount ⟨-2000⟩ "k" (-10000002) (-2) = 3 + 1 := by
    obtain ⟨left, right, units, counts, more⟩ := counted logAndWindow new [true] _ called
      (by decide) false _ _ _ _ _ _ nofun windowed
    cases counts with
    | sharedSlidingWindow met reaches =>
      cases met
      cases reaches
      rw [← three]
      exact more
  exact ⟨differ _ (by decide), l, store, l', store', logged, three, windowed, four⟩

end Limiters

end Throttle
