import Throttle.Proofs.Window.HalfOpen

/-!
# The sliding window under reconfiguration

A sliding window may get a new limit or a new length at any time, and its clock may step back. The
queue still holds the instants that were accepted last, in the order in which they were accepted,
and never more of them than the limit. While the parameters stay the same, as many acceptances as
the limit fill the queue, and from then on each one is compared with the one that came the limit
before it. So whatever was queued before, two acceptances that are the limit apart are a window
apart.

## Main definitions

* `SlidingWindow.Action`: a request, or a new parameter
* `SlidingWindow.after`: a window after actions, with every instant that it has accepted
* `SlidingWindow.Action.limit?`, `SlidingWindow.Action.length?`: the parameters that an action sets
* `SlidingWindow.Constant`: actions that leave the parameters as they are
* `SlidingWindow.Queued`: the queue holds what was accepted last
* `SlidingWindow.Steady`: what has been accepted under the same parameters is spaced

## Main results

* `SlidingWindow.parameters_after`: the parameters in force are those that were set last
* `SlidingWindow.constant_iff`: a stretch of a run is one if its setters set what is in force
* `SlidingWindow.Queued.act`, `SlidingWindow.Queued.after`: every action keeps the queue so
* `SlidingWindow.Steady.act`, `SlidingWindow.Steady.after`: actions that leave the parameters as
  they are keep acceptances spaced
* `SlidingWindow.queue_latest_and_spaced`: both, for every run
-/

namespace Throttle

namespace SlidingWindow

/-- What is done to a window: a request at some time, or a new parameter. -/
inductive Action where
  | allow (now : Instant)
  | setLimit (limit : Nat)
  | setLength (length : Int)
deriving DecidableEq

/-- A new limit is positive, and so is a new length. -/
def Action.Proper : Action → Prop
  | allow _ => True
  | setLimit limit => 0 < limit
  | setLength length => 0 < length

instance : DecidablePred Action.Proper
  | .allow _ => .isTrue trivial
  | .setLimit limit => inferInstanceAs (Decidable (0 < limit))
  | .setLength length => inferInstanceAs (Decidable (0 < length))

/-- A window with every instant that it has accepted, after an action. -/
def act (s : SlidingWindow × List Instant) : Action → SlidingWindow × List Instant
  | .allow now => note s now
  | .setLimit limit => (s.1.setLimit limit, s.2)
  | .setLength length => (s.1.setLength length, s.2)

/-- A window with every instant that it has accepted, after actions. -/
def after (s : SlidingWindow × List Instant) (actions : List Action) :
    SlidingWindow × List Instant :=
  actions.foldl act s

theorem after_append (s : SlidingWindow × List Instant) (actions actions' : List Action) :
    after s (actions ++ actions') = after (after s actions) actions' :=
  List.foldl_append

/-- The limit and the length are the same after each of some actions as before it. -/
def Constant (s : SlidingWindow × List Instant) : List Action → Prop
  | [] => True
  | a :: rest =>
    (act s a).1.limit = s.1.limit ∧ (act s a).1.length = s.1.length ∧ Constant (act s a) rest

/-! ## The parameters in force -/

/-- The limit that an action sets, if it sets one. -/
def Action.limit? : Action → Option Nat
  | setLimit limit => some limit
  | _ => none

/-- The length that an action sets, if it sets one. -/
def Action.length? : Action → Option Int
  | setLength length => some length
  | _ => none

/-- An action changes a parameter only if it sets it. -/
theorem parameters_act (s : SlidingWindow × List Instant) (a : Action) :
    (act s a).1.limit = a.limit?.getD s.1.limit ∧
      (act s a).1.length = a.length?.getD s.1.length := by
  cases a with
  | allow now => exact s.1.parameters_allow now
  | setLimit limit => exact ⟨rfl, rfl⟩
  | setLength length => exact ⟨rfl, rfl⟩

/-- **The parameters in force are those that were set last**, and at first those of the start. -/
theorem parameters_after (s : SlidingWindow × List Instant) (actions : List Action) :
    (after s actions).1.limit = (actions.filterMap Action.limit?).getLastD s.1.limit ∧
      (after s actions).1.length = (actions.filterMap Action.length?).getLastD s.1.length := by
  induction actions generalizing s with
  | nil => exact ⟨rfl, rfl⟩
  | cons a rest ih =>
    obtain ⟨limit, length⟩ := parameters_act s a
    change (after (act s a) rest).1.limit = _ ∧ (after (act s a) rest).1.length = _
    rw [(ih _).1, (ih _).2, limit, length]
    cases a <;>
      simp only [List.filterMap_cons, Action.limit?, Action.length?, List.getLastD_cons,
        Option.getD_some, Option.getD_none, and_self]

/-- The parameters stay the same if every new one is what is in force. -/
theorem constant_iff {s : SlidingWindow × List Instant} {actions : List Action} :
    Constant s actions ↔
      (∀ limit ∈ actions.filterMap Action.limit?, limit = s.1.limit) ∧
        ∀ length ∈ actions.filterMap Action.length?, length = s.1.length := by
  induction actions generalizing s with
  | nil => simp [Constant]
  | cons a rest ih =>
    obtain ⟨limit, length⟩ := parameters_act s a
    rw [Constant, ih, limit, length]
    cases a with
    | allow now => simp [Action.limit?, Action.length?]
    | setLimit new =>
      simp only [List.filterMap_cons, Action.limit?, Action.length?, Option.getD_some,
        Option.getD_none, List.forall_mem_cons, true_and]
      constructor
      · rintro ⟨rfl, limits, lengths⟩
        exact ⟨⟨rfl, limits⟩, lengths⟩
      · rintro ⟨⟨rfl, limits⟩, lengths⟩
        exact ⟨rfl, limits, lengths⟩
    | setLength new =>
      simp only [List.filterMap_cons, Action.limit?, Action.length?, Option.getD_some,
        Option.getD_none, List.forall_mem_cons, true_and]
      constructor
      · rintro ⟨rfl, limits, lengths⟩
        exact ⟨limits, rfl, lengths⟩
      · rintro ⟨limits, rfl, lengths⟩
        exact ⟨rfl, limits, lengths⟩

/-! ## The queue -/

/-- What a request does to a window that may hold instants: it is queued if there is room, and
otherwise takes the place of the oldest instant if that has left the window. -/
theorem allow_cases {w : SlidingWindow} (positive : 0 < w.limit) (now : Instant) :
    (w.queue.length < w.limit ∧ w.allow now = ({ w with queue := w.queue ++ [now] }, true)) ∨
    ∃ oldest newer, w.queue = oldest :: newer ∧ w.limit ≤ w.queue.length ∧
      (w.allow now = (w, false) ∨
        w.length ≤ now.nanos - oldest.nanos ∧
          w.allow now = ({ w with queue := newer ++ [now] }, true)) := by
  by_cases room : w.queue.length < w.limit
  · exact .inl ⟨room, if_pos room⟩
  · refine .inr ?_
    cases held : w.queue with
    | nil =>
      rw [held, List.length_nil] at room
      exact absurd positive room
    | cons oldest newer =>
      refine ⟨oldest, newer, rfl, held ▸ Nat.not_lt.1 room, ?_⟩
      rw [allow, if_neg room, held]
      dsimp only
      by_cases fresh : now.nanos - oldest.nanos < w.length
      · exact .inl (if_pos fresh)
      · exact .inr ⟨Int.not_lt.1 fresh, if_neg fresh⟩

/-- The queue of a window holds the instants that were accepted last, and no more than its limit. -/
structure Queued (s : SlidingWindow × List Instant) : Prop where
  positive : 0 < s.1.limit
  bounded : s.1.queue.length ≤ s.1.limit
  latest : s.1.queue <:+ s.2

namespace Queued

variable {s : SlidingWindow × List Instant}

theorem start {c : Config} (positive : 0 < c.limit) : Queued (start c, []) where
  positive := positive
  bounded := Nat.zero_le _
  latest := List.suffix_refl _

/-- A request is queued last, and the oldest instant leaves a full queue. -/
theorem note (h : Queued s) (now : Instant) : Queued (note s now) := by
  obtain ⟨room, answer⟩ | ⟨oldest, newer, held, full, answer | ⟨-, answer⟩⟩ :=
    allow_cases h.positive now
  · have longer : (s.1.queue ++ [now]).length ≤ s.1.limit := by
      rw [List.length_append, List.length_singleton]
      exact room
    obtain ⟨gone, split⟩ := h.latest
    rw [SlidingWindow.note, answer]
    exact ⟨h.positive, longer, gone, by rw [← List.append_assoc, split]; rfl⟩
  · rw [SlidingWindow.note, answer]
    exact h
  · have asLong : (newer ++ [now]).length = s.1.queue.length := by
      rw [held, List.length_append, List.length_singleton, List.length_cons]
    obtain ⟨gone, split⟩ := h.latest
    rw [held] at split
    rw [SlidingWindow.note, answer]
    refine ⟨h.positive, asLong ▸ h.bounded, gone ++ [oldest], ?_⟩
    dsimp only
    rw [if_pos rfl, ← split]
    simp

/-- A new limit drops the oldest instants beyond it. -/
theorem setLimit (h : Queued s) {limit : Nat} (positive : 0 < limit) :
    Queued (s.1.setLimit limit, s.2) where
  positive := positive
  bounded := s.1.length_queue_setLimit limit
  latest := (List.drop_suffix _ _).trans h.latest

/-- Every action keeps the queue the latest acceptances. -/
theorem act (h : Queued s) {a : Action} (proper : a.Proper) : Queued (act s a) := by
  cases a with
  | allow now => exact h.note now
  | setLimit limit => exact h.setLimit proper
  | setLength length => exact ⟨h.positive, h.bounded, h.latest⟩

theorem after (h : Queued s) {actions : List Action} (proper : ∀ a ∈ actions, a.Proper) :
    Queued (after s actions) := by
  induction actions generalizing s with
  | nil => exact h
  | cons a rest ih =>
    obtain ⟨first, others⟩ := List.forall_mem_cons.1 proper
    exact ih (h.act first) others

end Queued

/-! ## Acceptances under the same parameters -/

/-- A window that had accepted `gone` has accepted `fresh` since then, under one limit and one
length. The acceptances since then are queued, as far as the limit allows, and any two of them that
are the limit apart are the length apart. -/
structure Steady (limit : Nat) (length : Int) (gone : List Instant)
    (s : SlidingWindow × List Instant) (fresh : List Instant) : Prop where
  sameLimit : s.1.limit = limit
  sameLength : s.1.length = length
  accepted : s.2 = gone ++ fresh
  filled : min limit fresh.length ≤ s.1.queue.length
  apart : ∀ k earlier later, fresh[k]? = some earlier → fresh[k + limit]? = some later →
    length ≤ later.nanos - earlier.nanos

/-- The last acceptance of a list is a new end of a pair, or the pair was there before. -/
theorem apart_concat {limit : Nat} {length : Int} {fresh : List Instant} {now : Instant}
    (apart : ∀ k earlier later, fresh[k]? = some earlier → fresh[k + limit]? = some later →
      length ≤ later.nanos - earlier.nanos)
    (positive : 0 < limit)
    (last : ∀ k earlier, k + limit = fresh.length → fresh[k]? = some earlier →
      length ≤ now.nanos - earlier.nanos) :
    ∀ k earlier later, (fresh ++ [now])[k]? = some earlier →
      (fresh ++ [now])[k + limit]? = some later → length ≤ later.nanos - earlier.nanos := by
  intro k earlier later first second
  have inside := (List.getElem?_eq_some_iff.1 second).1
  rw [List.length_append, List.length_singleton] at inside
  rw [List.getElem?_append_left (by omega)] at first
  by_cases old : k + limit < fresh.length
  · rw [List.getElem?_append_left old] at second
    exact apart k earlier later first second
  · have atEnd : k + limit = fresh.length := by omega
    rw [atEnd, List.getElem?_concat_length, Option.some.injEq] at second
    exact second ▸ last k earlier atEnd first

namespace Steady

variable {s : SlidingWindow × List Instant} {limit : Nat} {length : Int} {gone fresh : List Instant}

/-- Nothing has been accepted yet. -/
theorem start (s : SlidingWindow × List Instant) : Steady s.1.limit s.1.length s.2 s [] where
  sameLimit := rfl
  sameLength := rfl
  accepted := (List.append_nil _).symm
  filled := by simp
  apart _ _ _ none := nomatch none

/-- A full queue begins with the acceptance that came the limit before. -/
theorem getElem?_eq (h : Steady limit length gone s fresh) (queued : Queued s) {oldest : Instant}
    {newer : List Instant} (held : s.1.queue = oldest :: newer) (full : limit ≤ s.1.queue.length)
    {k : Nat} (atEnd : k + limit = fresh.length) : fresh[k]? = some oldest := by
  have size : s.1.queue.length = limit := Nat.le_antisymm (h.sameLimit ▸ queued.bounded) full
  have latest : s.1.queue <:+ gone ++ fresh := h.accepted ▸ queued.latest
  obtain ⟨front, split⟩ :=
    List.suffix_of_suffix_length_le latest (List.suffix_append gone fresh) (by omega)
  have place : front.length = k := by
    have := congrArg List.length split
    rw [List.length_append] at this
    omega
  rw [← split, held, ← place, List.getElem?_append_right (Nat.le_refl _), Nat.sub_self,
    List.getElem?_cons_zero]

/-- A request under the same parameters. If it is accepted although the queue is full, then the
acceptance that came the limit before it has left the window. -/
theorem note (h : Steady limit length gone s fresh) (queued : Queued s) (now : Instant) :
    ∃ fresh', Steady limit length gone (note s now) fresh' := by
  have positive : 0 < limit := h.sameLimit ▸ queued.positive
  have more : s.2 ++ [now] = gone ++ (fresh ++ [now]) := by
    rw [h.accepted, List.append_assoc]
  obtain ⟨room, answer⟩ | ⟨oldest, newer, held, full, answer | ⟨stale, answer⟩⟩ :=
    allow_cases queued.positive now
  · -- There is room, so that fewer than the limit have been accepted.
    rw [SlidingWindow.note, answer]
    have filled := h.filled
    rw [h.sameLimit] at room
    refine ⟨fresh ++ [now], h.sameLimit, h.sameLength, more, ?_,
      apart_concat h.apart positive fun k _ atEnd _ => ?_⟩
    · simp only [List.length_append, List.length_singleton]
      omega
    · omega
  · rw [SlidingWindow.note, answer]
    exact ⟨fresh, h⟩
  · rw [SlidingWindow.note, answer]
    rw [h.sameLimit] at full
    refine ⟨fresh ++ [now], h.sameLimit, h.sameLength, more, ?_,
      apart_concat h.apart positive fun k earlier atEnd here => ?_⟩
    · rw [held, List.length_cons] at full
      simp only [List.length_append, List.length_singleton]
      omega
    · rw [h.getElem?_eq queued held full atEnd, Option.some.injEq] at here
      rw [← here, ← h.sameLength]
      exact stale

/-- An action that leaves the parameters as they are keeps acceptances spaced. -/
theorem act (h : Steady limit length gone s fresh) (queued : Queued s) {a : Action}
    (sameLimit : (act s a).1.limit = s.1.limit) (sameLength : (act s a).1.length = s.1.length) :
    ∃ fresh', Steady limit length gone (act s a) fresh' := by
  cases a with
  | allow now => exact h.note queued now
  | setLimit new =>
    -- The limit is set to what it was, and no instant is beyond it.
    obtain rfl : new = limit := sameLimit.trans h.sameLimit
    have fits : s.1.queue.length ≤ new := h.sameLimit ▸ queued.bounded
    have filled := h.filled
    refine ⟨fresh, rfl, h.sameLength, h.accepted, ?_, h.apart⟩
    simp only [SlidingWindow.act, SlidingWindow.setLimit, List.length_drop]
    omega
  | setLength new =>
    exact ⟨fresh, h.sameLimit, sameLength.trans h.sameLength, h.accepted, h.filled, h.apart⟩

theorem after (h : Steady limit length gone s fresh) (queued : Queued s) {actions : List Action}
    (proper : ∀ a ∈ actions, a.Proper) (constant : Constant s actions) :
    ∃ fresh', Steady limit length gone (after s actions) fresh' := by
  induction actions generalizing s fresh with
  | nil => exact ⟨fresh, h⟩
  | cons a rest ih =>
    obtain ⟨first, others⟩ := List.forall_mem_cons.1 proper
    obtain ⟨sameLimit, sameLength, constant⟩ := constant
    obtain ⟨fresh', next⟩ := h.act queued sameLimit sameLength
    exact ih next (queued.act first) others constant

end Steady

/-- **The queue holds the latest acceptances, and acceptances under the same parameters are
spaced**, for requests at any times and changes of the parameters in between. In the last part of a
run, in which the parameters stay the same, the acceptances with the numbers `k` and `k + limit` lie
at least a window apart. The limit and the window are those that were set last
(`parameters_after`). -/
theorem queue_latest_and_spaced {c : Config} {w : SlidingWindow} (created : create? c = .ok w)
    {actions : List Action} (proper : ∀ a ∈ actions, a.Proper) :
    (after (w, []) actions).1.queue <:+ (after (w, []) actions).2 ∧
      (after (w, []) actions).1.queue.length ≤ (after (w, []) actions).1.limit ∧
      ∀ before stretch, actions = before ++ stretch → Constant (after (w, []) before) stretch →
        ∃ accepted, (after (w, []) actions).2 = (after (w, []) before).2 ++ accepted ∧
          ∀ k earlier later, accepted[k]? = some earlier →
            accepted[k + (after (w, []) actions).1.limit]? = some later →
              (after (w, []) actions).1.length ≤ later.nanos - earlier.nanos := by
  obtain ⟨valid, passed, rfl⟩ := exists_of_map_eq_ok created
  have started : Queued (SlidingWindow.start c, []) :=
    .start (Config.validate_eq_ok_iff.1 passed).1
  have queued := started.after proper
  refine ⟨queued.latest, queued.bounded, ?_⟩
  rintro before stretch rfl constant
  obtain ⟨first, second⟩ := List.forall_mem_append.1 proper
  obtain ⟨accepted, steady⟩ :=
    (Steady.start (after (SlidingWindow.start c, []) before)).after (started.after first) second
      constant
  rw [← after_append] at steady
  refine ⟨accepted, steady.accepted, ?_⟩
  rw [steady.sameLimit, steady.sameLength]
  exact steady.apart

/-- Three requests, two of them at a clock that had stepped back, a lower limit and a shorter
window. -/
def lowering : List Action :=
  [.allow ⟨100⟩, .allow ⟨90⟩, .allow ⟨80⟩, .setLimit 1, .setLength 10]

/-- Requests under the new parameters, which are set once more to what they are. -/
def afterLowering : List Action :=
  [.allow ⟨85⟩, .allow ⟨100⟩, .setLimit 1, .setLength 10, .allow ⟨110⟩, .allow ⟨70⟩, .allow ⟨121⟩]

/-- Three instants are queued when the limit is lowered to one and the window from 20 to 10. Under
the new parameters the acceptances at 100, 110 and 121 are spaced by the new window. -/
theorem queue_latest_and_spaced_after_lowering :
    ∃ w, create? ⟨3, ⟨20⟩⟩ = .ok w ∧ (∀ a ∈ lowering ++ afterLowering, a.Proper) ∧
      Constant (after (w, []) lowering) afterLowering ∧
      after (w, []) lowering = (⟨1, 10, [⟨80⟩]⟩, [⟨100⟩, ⟨90⟩, ⟨80⟩]) ∧
      after (w, []) (lowering ++ afterLowering) =
        (⟨1, 10, [⟨121⟩]⟩, [⟨100⟩, ⟨90⟩, ⟨80⟩] ++ [⟨100⟩, ⟨110⟩, ⟨121⟩]) ∧
      ∀ k earlier later, [(⟨100⟩ : Instant), ⟨110⟩, ⟨121⟩][k]? = some earlier →
        [(⟨100⟩ : Instant), ⟨110⟩, ⟨121⟩][k + 1]? = some later →
          10 ≤ later.nanos - earlier.nanos := by
  have created : create? ⟨3, ⟨20⟩⟩ = .ok (start ⟨3, ⟨20⟩⟩) := rfl
  have proper : ∀ a ∈ lowering ++ afterLowering, a.Proper := by decide
  have lowered : after (start ⟨3, ⟨20⟩⟩, []) lowering =
      (⟨1, 10, [⟨80⟩]⟩, [⟨100⟩, ⟨90⟩, ⟨80⟩]) := rfl
  have constant : Constant (after (start ⟨3, ⟨20⟩⟩, []) lowering) afterLowering :=
    constant_iff.2 (by decide)
  have last : after (start ⟨3, ⟨20⟩⟩, []) (lowering ++ afterLowering) =
      (⟨1, 10, [⟨121⟩]⟩, [⟨100⟩, ⟨90⟩, ⟨80⟩] ++ [⟨100⟩, ⟨110⟩, ⟨121⟩]) := rfl
  obtain ⟨accepted, split, apart⟩ :=
    (queue_latest_and_spaced created proper).2.2 lowering afterLowering rfl constant
  rw [last, lowered] at split
  rw [last] at apart
  obtain rfl := List.append_cancel_left split
  exact ⟨_, created, proper, constant, lowered, last, apart⟩

end SlidingWindow

end Throttle
