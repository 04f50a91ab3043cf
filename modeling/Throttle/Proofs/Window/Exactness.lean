import Mathlib.Data.List.Induction
import Throttle.Proofs.Window.Records

/-!
# The sliding log counts every accepted request

A sliding log forgets records on every call, also on a rejected one. A history that forgets nothing
is kept beside it, and the log answers as if it counted in the history: what it has forgotten lies
to the left of every later window, as long as the left boundaries of its calls do not move back.

## Main definitions

* `SlidingLog.Action`: a request or a change of the parameters
* `SlidingLog.History`: the parameters in force, every accepted request, and the left boundaries so
  far
* `SlidingLog.run`: a log and its history after a sequence of actions
* `SlidingLog.Remembers`: a log holds what of its history can still be counted

## Main results

* `SlidingLog.Remembers.allow`: a log that remembers answers as its history says
* `SlidingLog.remembers_of_run`: a log remembers in every run
* `SlidingLog.spaced_of_run`: trailing requests at times in order are spaced
* `SlidingLog.allow_eq_decide_unitsWithin_lt`: the answers of a log, and what any window holds
-/

namespace Throttle

namespace SlidingLog

/-- What is done with a log. -/
inductive Action where
  /-- A request of `n` units. -/
  | allow (now : Instant) (n : Nat) (o : AllowOptions)
  | setLimit (limit : Nat)
  | setLength (length : Int) (positive : 0 < length)
  | setFixedWindow (w : FixedWindow)

/-- The time of a request. -/
def Action.time? : Action → Option Instant
  | allow now _ _ => some now
  | _ => none

/-- Whether an action is a request in the trailing window. -/
def Action.IsTrailing : Action → Prop
  | allow _ _ o => o.fixedWindow = false
  | _ => False

/-- What a run of a log has shown. -/
structure History where
  limit : Nat
  /-- The length of the trailing window in force. -/
  length : Int
  /-- The fixed window in force of requests that bring none. -/
  fixedWindow : Option FixedWindow
  /-- Every accepted request with its units, the oldest acceptance first. -/
  accepted : List (Instant × Nat)
  lefts : List Instant
deriving DecidableEq

namespace History

/-- The history of a new log. -/
def start (c : Config) : History := ⟨c.limit, c.window.nanos, c.fixedWindow, [], []⟩

/-- The boundaries of a request with the parameters in force. -/
def bounds (h : History) (now : Instant) (o : AllowOptions) :
    Except Fault (Except LimiterError (Instant × Instant)) :=
  o.windowBounds now h.length h.fixedWindow

/-- The left boundary of a request with the parameters in force, if it has one. -/
def left? (h : History) (now : Instant) (o : AllowOptions) : Option Instant :=
  match h.bounds now o with
  | .ok (.ok (left, _)) => some left
  | _ => none

/-- The history after the outcome of a request of `n` units. An error leaves no trace. -/
def note (h : History) (now : Instant) (n : Nat) (o : AllowOptions) :
    Except LimiterError Bool → History
  | .ok passed =>
    { h with
      accepted := if passed then h.accepted ++ [(now, n)] else h.accepted
      lefts := h.lefts ++ (h.left? now o).toList }
  | .error _ => h

end History

/-- A log and its history after an action. -/
def act : SlidingLog × History → Action → Except Fault (SlidingLog × History)
  | (l, h), .allow now n o => (l.allow now n o).map fun (l, outcome) => (l, h.note now n o outcome)
  | (l, h), .setLimit limit => .ok (l.setLimit limit, { h with limit := limit })
  | (l, h), .setLength length _ => .ok (l.setLength length, { h with length := length })
  | (l, h), .setFixedWindow w => .ok (l.setFixedWindow w, { h with fixedWindow := some w })

/-- A new log and its history after a sequence of actions. A fault ends the run. -/
def run (c : Config) (actions : List Action) : Except Fault (SlidingLog × History) :=
  actions.foldlM act (start c, History.start c)

theorem run_concat (c : Config) (actions : List Action) (a : Action) :
    run c (actions ++ [a]) = (run c actions).bind fun s => act s a := by
  simp only [run, List.foldlM_append, List.foldlM_cons, List.foldlM_nil, bind_pure]
  rfl

/-- A run that goes on has come to its last action. -/
theorem exists_of_run_concat {c : Config} {actions : List Action} {a : Action}
    {s' : SlidingLog × History} (ran : run c (actions ++ [a]) = .ok s') :
    ∃ s, run c actions = .ok s ∧ act s a = .ok s' := by
  rw [run_concat] at ran
  cases before : run c actions with
  | error fault => simp [before, Except.bind] at ran
  | ok s => exact ⟨s, rfl, by simpa [before, Except.bind] using ran⟩

/-- A request that is answered is noted. -/
theorem exists_of_act_allow {l : SlidingLog} {h : History} {now : Instant} {n : Nat}
    {o : AllowOptions} {s' : SlidingLog × History} (acted : act (l, h) (.allow now n o) = .ok s') :
    ∃ l' outcome, l.allow now n o = .ok (l', outcome) ∧ s' = (l', h.note now n o outcome) := by
  rw [act] at acted
  cases answered : l.allow now n o with
  | error fault => simp [answered, Except.map] at acted
  | ok next => exact ⟨next.1, next.2, rfl, by simpa [answered, Except.map] using acted.symm⟩

/-! ## What a log remembers -/

/-- A log works with the parameters in force, and holds every record of its history that is not
older than the left boundaries so far. -/
structure Remembers (l : SlidingLog) (h : History) : Prop where
  limit : l.limit = h.limit
  length : l.length = h.length
  fixedWindow : l.fixedWindow = h.fixedWindow
  positive : 0 < h.length
  kept : ∀ left, (∀ earlier ∈ h.lefts, earlier ≤ left) →
    since left l.accepted = since left h.accepted

theorem remembers_start {c : Config} (valid : c.validate = .ok ()) :
    Remembers (start c) (History.start c) where
  limit := rfl
  length := rfl
  fixedWindow := rfl
  positive := Int.natCast_pos.2 (Config.validate_eq_ok_iff.1 valid).2.1
  kept _ _ := rfl

namespace Remembers

variable {l l' : SlidingLog} {h : History}

theorem bounds_eq (r : Remembers l h) (now : Instant) (o : AllowOptions) :
    l.bounds now o = h.bounds now o := by
  rw [bounds, History.bounds, r.length, r.fixedWindow]

/-- A log that remembers counts what its history counts. -/
theorem count_eq (r : Remembers l h) {left : Instant}
    (ordered : ∀ earlier ∈ h.lefts, earlier ≤ left) (right : Instant) :
    l.count left right = unitsWithin h.accepted left right := by
  rw [count_eq_unitsWithin, unitsWithin, unitsWithin, ← within_since, r.kept left ordered,
    within_since]

/-- **A log that remembers answers as its history says.** Neither the units that it counts nor these
with the request's own pass 64 bits. -/
theorem allow_eq_of_unitsWithin_lt (r : Remembers l h) {now left right : Instant} {n : Nat}
    {o : AllowOptions} (resolved : h.bounds now o = .ok (.ok (left, right)))
    (ordered : ∀ earlier ∈ h.lefts, earlier ≤ left)
    (seen : unitsWithin h.accepted left right < 2 ^ 64)
    (fits : unitsWithin h.accepted left right < h.limit →
      unitsWithin h.accepted left right + n < 2 ^ 64) :
    ∃ l', l.allow now n o =
      .ok (l', .ok (Decidable.decide (unitsWithin h.accepted left right < h.limit))) := by
  have inside := AllowOptions.windowBounds_contains (Int.le_of_lt r.positive) resolved
  -- The boundaries are in order, and neither sum leaves 64 bits, so that no fault is possible.
  have forward : ¬right < left := by
    simp only [Instant.le_def, Instant.lt_def] at inside ⊢
    omega
  have atNow : (l.forget left).count now now ≤ unitsWithin h.accepted left right := by
    rw [count_forget l inside.1, r.count_eq fun earlier member => ?_]
    · exact unitsWithin_mono h.accepted inside.1 inside.2
    · have before := ordered earlier member
      simp only [Instant.le_def] at before inside ⊢
      omega
  -- What is still stored counts like the whole history.
  have counted := r.count_eq ordered right
  simp only [SlidingLog.allow, r.bounds_eq, resolved, forward, false_and, if_false,
    count_forget l (Int.le_refl left.nanos), counted, r.limit]
  rw [if_neg (by omega)]
  by_cases room : unitsWithin h.accepted left right < h.limit
  · have := fits room
    rw [if_neg (by omega), if_neg (by omega)]
    exact ⟨_, by rw [decide_eq_true room]⟩
  · rw [if_pos (by omega)]
    exact ⟨_, by rw [decide_eq_false room]⟩

/-- The same if all units of the history do not pass 64 bits. -/
theorem allow_eq (r : Remembers l h) {now left right : Instant} {n : Nat} {o : AllowOptions}
    (resolved : h.bounds now o = .ok (.ok (left, right)))
    (ordered : ∀ earlier ∈ h.lefts, earlier ≤ left) (seen : units h.accepted < 2 ^ 64)
    (fits : unitsWithin h.accepted left right < h.limit → units h.accepted + n < 2 ^ 64) :
    ∃ l', l.allow now n o =
      .ok (l', .ok (Decidable.decide (unitsWithin h.accepted left right < h.limit))) := by
  have total := unitsWithin_le_units h.accepted left right
  exact r.allow_eq_of_unitsWithin_lt resolved ordered (Nat.lt_of_le_of_lt total seen)
    fun room => Nat.lt_of_le_of_lt (Nat.add_le_add_right total n) (fits room)

theorem left?_eq {now left right : Instant} {o : AllowOptions}
    (resolved : h.bounds now o = .ok (.ok (left, right))) : h.left? now o = some left := by
  simp [History.left?, resolved]

/-- A request keeps what can still be counted after it. -/
theorem note (r : Remembers l h) {now : Instant} {n : Nat} {o : AllowOptions}
    {outcome : Except LimiterError Bool} (answered : l.allow now n o = .ok (l', outcome)) :
    Remembers l' (h.note now n o outcome) := by
  rcases allow_eq_ok answered with ⟨e, -, rfl, rfl⟩ | ⟨left, right, resolved, answer⟩
  · exact r
  rw [r.bounds_eq] at resolved
  -- What the request forgets lies to the left of every later window.
  have forgotten : ∀ later, (∀ earlier ∈ h.lefts ++ [left], earlier ≤ later) →
      since later (l.forget left).accepted = since later h.accepted := by
    intro later ordered
    rw [accepted_forget, since_since (ordered left (by simp))]
    exact r.kept later fun earlier member => ordered earlier (List.mem_append_left _ member)
  -- A request that passes is recorded on both sides, one that fails on neither.
  rcases answer with ⟨-, rfl, rfl⟩ | ⟨-, rfl, rfl⟩
  · refine ⟨r.limit, r.length, r.fixedWindow, r.positive, ?_⟩
    intro later ordered
    simp only [History.note, left?_eq resolved, Option.toList_some] at ordered
    exact forgotten later ordered
  · refine ⟨r.limit, r.length, r.fixedWindow, r.positive, ?_⟩
    intro later ordered
    simp only [History.note, left?_eq resolved, Option.toList_some] at ordered
    simp only [History.note, record, since_append, if_true]
    rw [forgotten later ordered]

/-- Every action keeps what can still be counted after it. -/
theorem act (r : Remembers l h) {h' : History} {a : Action}
    (acted : SlidingLog.act (l, h) a = .ok (l', h')) : Remembers l' h' := by
  cases a with
  | allow now n o =>
    obtain ⟨_, outcome, answered, same⟩ := exists_of_act_allow acted
    cases same
    exact r.note answered
  | setLimit limit =>
    cases acted
    exact ⟨rfl, r.length, r.fixedWindow, r.positive, r.kept⟩
  | setLength length positive =>
    cases acted
    exact ⟨r.limit, rfl, r.fixedWindow, positive, r.kept⟩
  | setFixedWindow w =>
    cases acted
    exact ⟨r.limit, r.length, rfl, r.positive, r.kept⟩

end Remembers

/-- A log remembers in every run. -/
theorem remembers_of_run {c : Config} (valid : c.validate = .ok ()) {actions : List Action}
    {s : SlidingLog × History} (ran : run c actions = .ok s) : Remembers s.1 s.2 := by
  -- The induction is from the end, since the history grows there.
  induction actions using List.reverseRecOn generalizing s with
  | nil =>
    cases ran
    exact remembers_start valid
  | append_singleton actions a ih =>
    obtain ⟨before, reached, acted⟩ := exists_of_run_concat ran
    exact (ih reached).act acted

/-! ## Runs of trailing requests -/

/-- What the history of trailing requests at the given times looks like. -/
structure Trails (c : Config) (times : List Instant) (h : History) : Prop where
  limit : h.limit = c.limit
  length : h.length = c.window.nanos
  accepted : ∀ e ∈ h.accepted, e.1 ∈ times
  lefts : ∀ left ∈ h.lefts, ∃ now ∈ times, left = ⟨now.nanos - c.window.nanos⟩
  spaced : Spaced c.limit c.window.nanos h.accepted

namespace Trails

variable {c : Config} {times : List Instant} {l l' : SlidingLog} {h : History}

/-- The left boundary of a trailing request. -/
theorem left_eq (t : Trails c times h) {now left right : Instant} {o : AllowOptions}
    (trailing : o.fixedWindow = false) (resolved : h.bounds now o = .ok (.ok (left, right))) :
    left = ⟨now.nanos - c.window.nanos⟩ ∧ right = now := by
  obtain ⟨moved, rfl⟩ := (AllowOptions.windowBounds_trailing trailing).1 resolved
  rw [t.length] at moved
  exact ⟨Instant.eq_of_shift? moved, rfl⟩

/-- A trailing request that is not older than the others keeps the history spaced. -/
theorem note (t : Trails c times h) (r : Remembers l h) {now : Instant} {n : Nat}
    {o : AllowOptions} {outcome : Except LimiterError Bool} (trailing : o.fixedWindow = false)
    (latest : ∀ earlier ∈ times, earlier ≤ now)
    (answered : l.allow now n o = .ok (l', outcome)) :
    Trails c (times ++ [now]) (h.note now n o outcome) := by
  rcases allow_eq_ok answered with ⟨e, -, rfl, rfl⟩ | ⟨left, right, resolved, answer⟩
  · exact ⟨t.limit, t.length, fun e member => List.mem_append_left _ (t.accepted e member),
      fun left member => (t.lefts left member).imp fun _ found =>
        ⟨List.mem_append_left _ found.1, found.2⟩, t.spaced⟩
  rw [r.bounds_eq] at resolved
  obtain ⟨rfl, rfl⟩ := t.left_eq trailing resolved
  -- The new left boundary is that of the new time, and the others are those of old times.
  have lefts : ∀ left ∈ h.lefts ++ [⟨right.nanos - c.window.nanos⟩],
      ∃ now ∈ times ++ [right], left = ⟨now.nanos - c.window.nanos⟩ := by
    intro left member
    rcases List.mem_append.1 member with old | new
    · obtain ⟨now, found, rfl⟩ := t.lefts left old
      exact ⟨now, List.mem_append_left _ found, rfl⟩
    · exact ⟨right, by simp, by simpa using new⟩
  have accepted : ∀ e ∈ h.accepted, e.1 ∈ times ++ [right] := fun e member =>
    List.mem_append_left _ (t.accepted e member)
  rcases answer with ⟨-, rfl, -⟩ | ⟨room, rfl, -⟩
  · simp only [History.note, Remembers.left?_eq resolved, Option.toList_some]
    exact ⟨t.limit, t.length, accepted, lefts, t.spaced⟩
  · simp only [History.note, Remembers.left?_eq resolved, Option.toList_some, if_true]
    refine ⟨t.limit, t.length, ?_, lefts, ?_⟩
    · intro e member
      rcases List.mem_append.1 member with old | new
      · exact accepted e old
      · rw [List.mem_singleton.1 new]
        simp
    -- The log counted what the history holds, since no boundary before lies further right.
    · rw [r.count_eq, r.limit, t.limit] at room
      · exact .snoc n t.spaced (fun e member => latest _ (t.accepted e member)) room
      · intro earlier member
        obtain ⟨now, found, rfl⟩ := t.lefts earlier member
        have before := latest now found
        rw [Instant.le_def] at before ⊢
        exact Int.sub_le_sub_right before _

end Trails

/-- Trailing requests at times in order are spaced. -/
theorem trails_of_run {c : Config} (valid : c.validate = .ok ()) {actions : List Action}
    {s : SlidingLog × History} (ran : run c actions = .ok s)
    (trailing : ∀ a ∈ actions, a.IsTrailing)
    (ordered : (actions.filterMap Action.time?).Pairwise (· ≤ ·)) :
    Trails c (actions.filterMap Action.time?) s.2 := by
  induction actions using List.reverseRecOn generalizing s with
  | nil =>
    cases ran
    exact ⟨rfl, rfl, by simp [History.start], by simp [History.start], .nil⟩
  | append_singleton actions a ih =>
    obtain ⟨⟨l, h⟩, reached, acted⟩ := exists_of_run_concat ran
    -- The last request is not older than those before it.
    rw [List.filterMap_append, List.pairwise_append] at ordered
    have before := ih reached (fun b member => trailing b (List.mem_append_left _ member)) ordered.1
    have last : a.IsTrailing := trailing a (by simp)
    cases a with
    | allow now n o =>
      obtain ⟨l', outcome, answered, rfl⟩ := exists_of_act_allow acted
      rw [List.filterMap_append]
      exact before.note (remembers_of_run valid reached) last
        (fun earlier member => ordered.2.2 earlier member now (by simp [Action.time?])) answered
    -- The setters are no trailing requests.
    | setLimit limit => exact last.elim
    | setLength length positive => exact last.elim
    | setFixedWindow w => exact last.elim

/-- **A log answers as if it had forgotten nothing.** After every run, a request that resolves its
boundaries, the left one no older than those before, is answered, and it is accepted exactly if all
the units accepted so far between its boundaries are fewer than the limit in force. A request that
cannot resolve them leaves the log as it is. If all requests were trailing ones at times in order,
every closed window of the log's length holds at most the limit, less one, and the units of one
request, which is the limit if all requests have one unit. -/
theorem allow_eq_decide_unitsWithin_lt {c : Config} (valid : c.validate = .ok ())
    {actions : List Action} {l : SlidingLog} {h : History}
    (ran : run c actions = .ok (l, h)) :
    (∀ now n o left right, h.bounds now o = .ok (.ok (left, right)) →
      (∀ earlier ∈ h.lefts, earlier ≤ left) → units h.accepted < 2 ^ 64 →
      (unitsWithin h.accepted left right < h.limit → units h.accepted + n < 2 ^ 64) →
      ∃ l', l.allow now n o =
        .ok (l', .ok (Decidable.decide (unitsWithin h.accepted left right < h.limit)))) ∧
    (∀ now n o l' e, l.allow now n o = .ok (l', .error e) ↔
      h.bounds now o = .ok (.error e) ∧ l' = l) ∧
    ((∀ a ∈ actions, a.IsTrailing) → (actions.filterMap Action.time?).Pairwise (· ≤ ·) →
      ∀ left right : Instant, right.nanos = left.nanos + c.window.nanos →
        (∀ most, (∀ e ∈ h.accepted, e.2 ≤ most) →
          unitsWithin h.accepted left right ≤ c.limit - 1 + most) ∧
        ((∀ e ∈ h.accepted, e.2 = 1) → (within h.accepted left right).length ≤ c.limit)) := by
  have r : Remembers l h := remembers_of_run valid ran
  refine ⟨fun now n o left right => r.allow_eq, fun now n o l' e => ⟨fun failed => ?_, ?_⟩, ?_⟩
  · rcases allow_eq_ok failed with ⟨e', resolved, same, rfl⟩ | ⟨_, _, _, answer⟩
    · cases same
      exact ⟨r.bounds_eq now o ▸ resolved, rfl⟩
    · rcases answer with ⟨_, same, _⟩ | ⟨_, same, _⟩ <;> cases same
  · rintro ⟨resolved, rfl⟩
    simp [SlidingLog.allow, r.bounds_eq, resolved]
  · intro trailing ordered left right long
    -- The history is spaced, which bounds every window.
    have spaced := (trails_of_run valid ran trailing ordered).spaced
    exact ⟨fun most light => spaced.unitsWithin_le light (Int.le_of_eq long),
      fun single => spaced.length_within_le single (Int.le_of_eq long)⟩

/-- After two requests a second apart, a third one is rejected with the second, accepted in a fixed
window that the first does not reach, and refused where no fixed window is known. -/
theorem allow_after_two_requests :
    ∃ l h, run ⟨2, .ofSeconds 1, none⟩
        [.allow ⟨1000000000⟩ 1 {}, .allow ⟨2000000000⟩ 1 {}] = .ok (l, h) ∧
      (∃ l', l.allow ⟨2000000000⟩ 1 {} = .ok (l', .ok false)) ∧
      (∃ l', l.allow ⟨2500000000⟩ 5
        (AllowOptions.within {} ⟨⟨1500000000⟩, ⟨3000000000⟩, by decide⟩) = .ok (l', .ok true)) ∧
      l.allow ⟨2000000000⟩ 1 { fixedWindow := true } = .ok (l, .error .missingFixedWindow) ∧
      (within h.accepted ⟨1000000000⟩ ⟨2000000000⟩).length ≤ 2 := by
  refine ⟨_, _, rfl, ?_⟩
  obtain ⟨answers, errors, windows⟩ := allow_eq_decide_unitsWithin_lt (by rfl)
    (show run ⟨2, .ofSeconds 1, none⟩
      [.allow ⟨1000000000⟩ 1 {}, .allow ⟨2000000000⟩ 1 {}] = .ok _ from rfl)
  refine ⟨?_, ?_, ?_, ?_⟩
  · exact answers _ _ {} ⟨1000000000⟩ ⟨2000000000⟩ rfl (by decide) (by decide) (by decide)
  · exact answers _ _ (AllowOptions.within {} _) ⟨1500000000⟩ ⟨3000000000⟩ rfl (by decide)
      (by decide) (by decide)
  · exact (errors _ _ _ _ _).2 ⟨rfl, rfl⟩
  · refine (windows ?_ (by decide) _ _ rfl).2 (by decide)
    intro a member
    rcases List.mem_pair.1 member with rfl | rfl <;> rfl

end SlidingLog

end Throttle
