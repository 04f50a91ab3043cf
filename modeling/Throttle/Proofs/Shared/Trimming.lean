import Throttle.Proofs.Shared.Admission
import Throttle.Proofs.Shared.Agreement

/-!
# Trimming when a request passes, and on every request

The shared sliding window drops old members only when a request passes, the shared sliding log on
every request, so that their stores hold different members most of the time. But both hold the same
scores from the oldest one on that a request still counts, and this score only grows. So both give
the same answers to requests of one unit.

A key that expires takes all its members with it. With the same grace both keys expire together; and
if a grace is at least a microsecond, no request counts what was there. Two different graces below a
microsecond can tell the limiters apart, since scores are whole microseconds.

## Main definitions

* `oldestScore window now`: the oldest score that a request at `now` counts
* `SortedSet.Dated`: a set in which what a limiter has named scores its time
* `SortedSet.AgreeFrom`: sets with the same scores from a bound on
* `Store.Paired`: slots that hold such sets, and lose nothing that counts when they expire
* `Limiter.Mirrors`: what holds of a shared window and a shared log after the same calls

## Main results

* `SortedSet.AgreeFrom.request`: both scripts decide alike, and leave such sets
* `Store.Paired.live`, `Store.Paired.renew`: the passage of time and new lifetimes keep slots paired
* `Limiter.Mirrors.allow`, `Limiter.Mirrors.setLimit`: a call is answered alike
* `Limiter.drive_slidingWindow_eq_slidingLog`: the limiters give the same answers in every run
* `Limiter.drive_ne_of_small_graces`: with different graces below a microsecond they do not
-/

namespace Throttle

/-- The oldest score that a request at `now` counts. -/
def oldestScore (window : Span) (now : Instant) : Int :=
  Instant.micros ⟨now.nanos - window.nanos⟩

/-- The oldest score that counts only grows. -/
theorem oldestScore_le {window : Span} {earlier now : Instant} (order : earlier ≤ now) :
    oldestScore window earlier ≤ oldestScore window now := by
  rw [Instant.le_def] at order
  exact Instant.micros_le_micros (Instant.le_def.2 (by dsimp only; omega))

/-- A request counts its own score. -/
theorem oldestScore_le_micros (window : Span) (now : Instant) :
    oldestScore window now ≤ now.micros :=
  Instant.micros_le_micros (Instant.le_def.2 (by dsimp only; omega))

/-- A request counts from its boundary on. -/
theorem micros_eq_oldestScore {window : Span} {now boundary : Instant}
    (reaches : now.shift? (-window.nanos) = some boundary) :
    boundary.micros = oldestScore window now := by
  rw [Instant.eq_of_shift? reaches, oldestScore, Int.sub_eq_add_neg]

/-! ## Sets with the same scores from a bound on -/

namespace SortedSet

open MemberNames (name)

/-- A set without scores above `latest`, in which what a limiter has named scores its time. -/
structure Dated (origin : UInt64) (latest : Int) (s : SortedSet) : Prop where
  coherent : s.Coherent
  recent : ∀ member score, s.score? member = some score → score ≤ latest
  timed : ∀ micros sequence score, s.score? (name micros origin sequence) = some score →
    score = micros

namespace Dated

variable {origin : UInt64} {latest later : Int} {s : SortedSet}

theorem empty (origin : UInt64) (latest : Int) : Dated origin latest ∅ where
  coherent := coherent_empty
  recent := by simp
  timed := by simp

theorem mono (h : s.Dated origin latest) (order : latest ≤ later) : s.Dated origin later where
  coherent := h.coherent
  recent member score found := Int.le_trans (h.recent member score found) order
  timed := h.timed

theorem removeBelow (h : s.Dated origin latest) (bound : Int) :
    (s.removeBelow bound).Dated origin latest where
  coherent := h.coherent.removeBelow bound
  recent member score found := by
    rw [h.coherent.score?_removeBelow, Option.filter_eq_some_iff] at found
    exact h.recent member score found.1
  timed micros sequence score found := by
    rw [h.coherent.score?_removeBelow, Option.filter_eq_some_iff] at found
    exact h.timed micros sequence score found.1

theorem add (h : s.Dated origin latest) (sequence : UInt64) :
    (s.add latest (name latest origin sequence)).Dated origin latest where
  coherent := h.coherent.add _ _
  recent member score found := by
    rw [score?_add] at found
    split at found
    · exact (Option.some.inj found).ge
    · exact h.recent member score found
  timed micros sequence' score found := by
    rw [score?_add] at found
    split at found
    · rename_i mine
      rw [← (MemberNames.name_inj.1 mine).1]
      exact (Option.some.inj found).symm
    · exact h.timed micros sequence' score found

/-- A request that comes under an old name takes the place of one of the same score. -/
theorem scoring_add (h : s.Dated origin latest) (sequence : UInt64) (p : Int → Bool) :
    (s.add latest (name latest origin sequence)).scoring p =
      s.scoring p +
        if s.score? (name latest origin sequence) = none then (if p latest then 1 else 0)
        else 0 := by
  cases found : s.score? (name latest origin sequence) with
  | none => rw [h.coherent.scoring_add found, if_pos rfl]
  | some score =>
    -- The old request of this name was made at the same time, so that it scores the same.
    rw [h.timed latest sequence score found] at found
    rw [h.coherent.scoring_add_of_score? found, if_neg (by simp), Nat.add_zero]

end Dated

/-- Two sets with the same scores from `bound` on. What the two limiters have named alike, with the
same time and the same number, is in both sets or in neither. -/
structure AgreeFrom (origin origin' : UInt64) (bound latest : Int) (s s' : SortedSet) : Prop where
  dated : s.Dated origin latest
  dated' : s'.Dated origin' latest
  scoring : ∀ p : Int → Bool, (s.scoring fun score => decide (bound ≤ score) && p score) =
    s'.scoring fun score => decide (bound ≤ score) && p score
  named : ∀ micros sequence, bound ≤ micros →
    s.score? (name micros origin sequence) = s'.score? (name micros origin' sequence)

namespace AgreeFrom

variable {origin origin' : UInt64} {bound later latest now : Int} {s s' : SortedSet}

theorem empty (origin origin' : UInt64) (bound latest : Int) :
    AgreeFrom origin origin' bound latest ∅ ∅ where
  dated := .empty origin latest
  dated' := .empty origin' latest
  scoring _ := rfl
  named _ _ _ := rfl

theorem symm (h : AgreeFrom origin origin' bound latest s s') :
    AgreeFrom origin' origin bound latest s' s where
  dated := h.dated'
  dated' := h.dated
  scoring p := (h.scoring p).symm
  named micros sequence order := (h.named micros sequence order).symm

/-- What is the same from a bound on is the same from a later one on. -/
theorem mono (h : AgreeFrom origin origin' bound latest s s') (order : bound ≤ later)
    (recent : latest ≤ now) : AgreeFrom origin origin' later now s s' where
  dated := h.dated.mono recent
  dated' := h.dated'.mono recent
  scoring p := by
    have both := h.scoring fun score => decide (later ≤ score) && p score
    -- A score that reaches the later bound reaches the earlier one.
    have same : (fun score => decide (bound ≤ score) && (decide (later ≤ score) && p score)) =
        fun score => decide (later ≤ score) && p score := by
      funext score
      by_cases reached : later ≤ score
      · simp [reached, Int.le_trans order reached]
      · simp [reached]
    rwa [same] at both
  named micros sequence reached := h.named micros sequence (Int.le_trans order reached)

/-- A count from the bound on is the same. -/
theorem count_eq (h : AgreeFrom origin origin' bound latest s s') (high : Int) :
    s.count bound high = s'.count bound high := by
  rw [count_eq_scoring, count_eq_scoring]
  exact h.scoring _

/-- Removing the scores below the bound changes nothing. -/
theorem removeBelow (h : AgreeFrom origin origin' bound latest s s') :
    AgreeFrom origin origin' bound latest (s.removeBelow bound) s' where
  dated := h.dated.removeBelow bound
  dated' := h.dated'
  scoring p := by
    rw [h.dated.coherent.scoring_removeBelow, ← h.scoring]
    congr 1
    funext score
    rw [← Bool.and_assoc, Bool.and_self]
  named micros sequence reached := by
    rw [← h.named micros sequence reached, h.dated.coherent.score?_removeBelow]
    cases found : s.score? (name micros origin sequence) with
    | none => rfl
    | some score =>
      -- It scores its time, which is not below the bound.
      rw [h.dated.timed micros sequence score found, Option.filter_some,
        if_pos (decide_eq_true reached)]

/-- A set without scores from the bound on may as well be empty. -/
theorem drop (h : AgreeFrom origin origin' bound latest s s')
    (low : ∀ member score, s.score? member = some score → score < bound) :
    AgreeFrom origin origin' bound latest ∅ s' where
  dated := .empty origin latest
  dated' := h.dated'
  scoring p := by
    -- No member of the set counts, so that none of the other one does.
    rw [← h.scoring, scoring_empty, eq_comm, SortedSet.scoring, List.countP_eq_zero]
    rintro ⟨score, member⟩ found
    have := low member score (h.dated.coherent.mem_toList.1 found)
    simp only [Bool.and_eq_true, decide_eq_true_eq, not_and]
    omega
  named micros sequence reached := by
    rw [← h.named micros sequence reached, score?_empty]
    cases found : s.score? (name micros origin sequence) with
    | none => rfl
    | some score =>
      have := low _ score found
      have := h.dated.timed micros sequence score found
      omega

/-- Two requests of the same number keep the sets in agreement, also if the number has come round:
then both take the place of a request of the same time, or neither does. -/
theorem add (h : AgreeFrom origin origin' bound now s s') (order : bound ≤ now)
    (sequence : UInt64) :
    AgreeFrom origin origin' bound now (s.add now (name now origin sequence))
      (s'.add now (name now origin' sequence)) where
  dated := h.dated.add sequence
  dated' := h.dated'.add sequence
  scoring p := by
    rw [h.dated.scoring_add, h.dated'.scoring_add, h.scoring, h.named now sequence order]
  named micros sequence' reached := by
    have alike : name now origin sequence = name micros origin sequence' ↔
        name now origin' sequence = name micros origin' sequence' := by
      simp [MemberNames.name_inj]
    simp only [score?_add, alike, h.named micros sequence' reached]

/-- **Both scripts decide alike**, and leave sets that agree. One counts all members and drops the
old ones if the request passes, the other one drops them first. -/
theorem request (h : AgreeFrom origin origin' bound now s s') (order : bound ≤ now)
    (sequence : UInt64) (limit : Nat) :
    let answer := s.tryAdmit bound now limit (name now origin sequence)
    let answer' := s'.tryAdd bound now now limit (Store.unitNames (name now origin' sequence) 1)
    answer.2 = answer'.2 ∧ AgreeFrom origin origin' bound now answer.1 answer'.1 := by
  -- What the log drops first does not show from the bound on.
  have trimmed : AgreeFrom origin origin' bound now s (s'.removeBelow bound) :=
    h.symm.removeBelow.symm
  simp only [tryAdmit, tryAdd, trimmed.count_eq]
  split
  · exact ⟨rfl, trimmed⟩
  · -- A request of one unit has its own name only.
    exact ⟨rfl, (trimmed.add order sequence).removeBelow⟩

end AgreeFrom

end SortedSet

/-! ## Keys that expire -/

namespace Store

/-- What a slot holds that has members, or is absent. -/
inductive Bears : Option Slot → SortedSet → Prop where
  | absent : Bears none ∅
  | present (s : SortedSet) (deadline : Option Instant) : Bears (some ⟨.sortedSet s, deadline⟩) s

theorem Bears.sortedSetAt_eq {slots : Table Slot} {key : String} {s : SortedSet}
    (h : Bears (slots.get? key) s) : sortedSetAt slots key = .ok s := by
  unfold sortedSetAt
  generalize slots.get? key = slot at h
  cases h <;> rfl

/-- When a slot expires, no request counts its members any more. -/
def Outlasts (window : Span) (slot : Option Slot) : Prop :=
  ∀ s deadline, slot = some ⟨.sortedSet s, some deadline⟩ →
    ∀ member score, s.score? member = some score → score < oldestScore window deadline

/-- Two slots at `now` that hold the same from the oldest score on that counts. They expire
together, or neither loses anything then that counts. -/
structure Paired (window : Span) (origin origin' : UInt64) (now : Instant)
    (slot slot' : Option Slot) : Prop where
  sets : ∃ s s', Bears slot s ∧ Bears slot' s' ∧
    s.AgreeFrom origin origin' (oldestScore window now) now.micros s'
  expiry : slot.map Slot.expiresAt = slot'.map Slot.expiresAt ∨
    Outlasts window slot ∧ Outlasts window slot'

variable {window : Span} {origin origin' : UInt64}
  {earlier now : Instant} {slot slot' : Option Slot}

theorem Outlasts.live (h : Outlasts window slot) (now : Instant) :
    Outlasts window (slot.filter (·.isLive now)) := by
  intro s deadline found
  exact h s deadline (Option.filter_eq_some_iff.1 found).1

/-- What an expired slot held does not count. -/
theorem Bears.live {s s' : SortedSet} (h : Bears slot s) (out : Outlasts window slot)
    (agree : s.AgreeFrom origin origin' (oldestScore window now) now.micros s') :
    ∃ s₁, Bears (slot.filter (·.isLive now)) s₁ ∧
      s₁.AgreeFrom origin origin' (oldestScore window now) now.micros s' := by
  cases h with
  | absent => exact ⟨∅, .absent, agree⟩
  | present _ deadline =>
    by_cases live : Slot.isLive ⟨.sortedSet s, deadline⟩ now = true
    · rw [Option.filter_some, if_pos live]
      exact ⟨s, .present s deadline, agree⟩
    · -- The deadline has passed, and with it the time of every member.
      rw [Option.filter_some, if_neg live]
      refine ⟨∅, .absent, agree.drop fun member score found => ?_⟩
      obtain ⟨ends, rfl, passed⟩ := Slot.exists_of_not_isLive live
      exact Int.lt_of_lt_of_le (out s ends rfl member score found) (oldestScore_le passed)

namespace Paired

theorem absent (window : Span) (origin origin' : UInt64) (now : Instant) :
    Paired window origin origin' now none none where
  sets := ⟨∅, ∅, .absent, .absent, .empty ..⟩
  expiry := .inl rfl

/-- **The passage of time keeps slots paired.** -/
theorem live (h : Paired window origin origin' earlier slot slot') (order : earlier ≤ now) :
    Paired window origin origin' now (slot.filter (·.isLive now))
      (slot'.filter (·.isLive now)) := by
  obtain ⟨s, s', held, held', agree⟩ := h.sets
  have agree := agree.mono (oldestScore_le order) (Instant.micros_le_micros order)
  rcases h.expiry with same | ⟨out, out'⟩
  · -- Both have expired, or none has.
    cases held with
    | absent =>
      cases held' with
      | absent => exact .absent ..
      | present => cases same
    | present _ deadline =>
      cases held' with
      | absent => cases same
      | present _ deadline' =>
        simp only [Option.map_some, Option.some.injEq] at same
        subst same
        have alike : Slot.isLive ⟨.sortedSet s, deadline⟩ now =
            Slot.isLive ⟨.sortedSet s', deadline⟩ now := rfl
        rw [Option.filter_some, Option.filter_some, ← alike]
        split
        · exact ⟨⟨s, s', .present .., .present .., agree⟩, .inl rfl⟩
        · exact .absent ..
  · -- Either slot may lose its members, since they do not count any more.
    obtain ⟨s₁, kept, agree⟩ := held.live out agree
    obtain ⟨s₁', kept', agree⟩ := held'.live out' agree.symm
    exact ⟨⟨s₁, s₁', kept, kept', agree.symm⟩, .inr ⟨out.live now, out'.live now⟩⟩

end Paired

/-- A key whose lifetime holds a grace of a microsecond outlasts its members. -/
theorem outlasts_of_grace {s : SortedSet} {grace lifetime : Span}
    (lasts : window.plus? grace = some lifetime) (graced : 1000 ≤ grace.nanos)
    (recent : ∀ member score, s.score? member = some score → score ≤ now.micros) :
    Outlasts window (some ⟨.sortedSet s, now.after? lifetime⟩) := by
  intro s' deadline same member score found
  obtain ⟨rfl, ends⟩ : s' = s ∧ now.after? lifetime = some deadline := by
    simpa [eq_comm] using same
  have span := (Span.plus?_eq_some_iff.1 lasts).1
  have moved := (Instant.shift?_eq_some_iff.1 ends).1
  refine Int.lt_of_le_of_lt (recent member score found) ?_
  -- The grace takes the oldest score at the deadline into a later microsecond than now.
  simp only [oldestScore, Instant.micros]
  omega

/-- New lifetimes keep slots paired: they are the same, or neither key loses what counts. -/
theorem Paired.renew {s s' : SortedSet} {grace grace' lifetime lifetime' : Span}
    (agree : s.AgreeFrom origin origin' (oldestScore window now) now.micros s')
    (lasts : window.plus? grace = some lifetime) (lasts' : window.plus? grace' = some lifetime')
    (graced : grace = grace' ∨ 1000 ≤ grace.nanos ∧ 1000 ≤ grace'.nanos) :
    Paired window origin origin' now (some ⟨.sortedSet s, now.after? lifetime⟩)
      (some ⟨.sortedSet s', now.after? lifetime'⟩) where
  sets := ⟨s, s', .present .., .present .., agree⟩
  expiry := by
    rcases graced with same | ⟨long, long'⟩
    · have lifetimes : lifetime = lifetime' := by
        rw [same, lasts'] at lasts
        exact (Option.some.inj lasts).symm
      exact .inl (by rw [Option.map_some, Option.map_some, lifetimes])
    · exact .inr ⟨outlasts_of_grace lasts long agree.dated.recent,
        outlasts_of_grace lasts' long' agree.dated'.recent⟩

end Store

namespace Limiter

/-! ## A shared window and a shared log -/

/-- The parameters of a shared window and a shared log with the same limit and the same window. -/
structure SameParameters (window : Span) (params : SlidingWindow.Config)
    (params' : SlidingLog.Config) : Prop where
  limit_eq : params'.limit = params.limit
  limit_pos : 0 < params.limit
  limit_lt : params.limit < 2 ^ 63
  window_eq : params.window = window
  window_eq' : params'.window = window

/-- What holds of a shared window and a shared log after the same calls: their parameters are the
same, and so is what their stores hold and a request counts. -/
structure Mirrors {α : Type} (origin origin' : UInt64) (window : Span)
    (calls : List (Instant × Call α)) (w : SharedSlidingWindow) (l : SharedSlidingLog)
    (store store' : Store) : Prop where
  same : ∀ key, SameParameters window (w.keyed.state key) (l.keyed.state key)
  isWindow : window.window? = .ok window.nanos
  origin_eq : w.members.origin = origin
  origin_eq' : l.members.origin = origin'
  sequence_eq : l.members.sequence = w.members.sequence
  lasts : (window.plus? w.grace).isSome
  lasts' : (window.plus? l.grace).isSome
  graced : w.grace = l.grace ∨ 1000 ≤ w.grace.nanos ∧ 1000 ≤ l.grace.nanos
  available : store.available = true
  available' : store'.available = true
  paired : ∀ key now, (∀ c ∈ calls, c.1 ≤ now) →
    Store.Paired window origin origin' now
      ((store.live now).get? key) ((store'.live now).get? key)

namespace Mirrors

section Start

variable {α : Type} {origin origin' : UInt64} {w : SharedSlidingWindow} {l : SharedSlidingLog}

/-- New limiters mirror each other over stores without keys. -/
theorem start {c : SlidingWindow.Config} {c' : SlidingLog.Config} {timeout timeout' : Option Span}
    {grace grace' : Span} (made : SharedSlidingWindow.create? c origin timeout grace = .ok w)
    (made' : SharedSlidingLog.create? c' origin' timeout' grace' = .ok l)
    (limits : c'.limit = c.limit) (windows : c'.window = c.window) (small : c.limit < 2 ^ 63)
    (graced : grace = grace' ∨ 1000 ≤ grace.nanos ∧ 1000 ≤ grace'.nanos)
    (lasts : (c.window.plus? grace).isSome) (lasts' : (c.window.plus? grace').isSome) :
    Mirrors origin origin' c.window ([] : List (Instant × Call α)) w l ∅ ∅ := by
  obtain ⟨valid, state, members, grace_eq⟩ := SharedSlidingWindow.create?_eq_ok made
  obtain ⟨-, state', members', grace_eq'⟩ := SharedSlidingLog.create?_eq_ok made'
  obtain ⟨positive, isWindow⟩ := SlidingWindow.Config.validate_eq_ok_iff.1 valid
  constructor
  case same =>
    intro key
    rw [state, state']
    exact ⟨limits, positive, small, rfl, windows⟩
  case isWindow => exact Span.window?_eq_ok_iff.2 ⟨rfl, isWindow⟩
  case origin_eq => rw [members]; rfl
  case origin_eq' => rw [members']; rfl
  case sequence_eq => rw [members, members']; rfl
  case lasts => rw [grace_eq]; exact lasts
  case lasts' => rw [grace_eq']; exact lasts'
  case graced => rw [grace_eq, grace_eq']; exact graced
  case available => rfl
  case available' => rfl
  case paired => exact fun key now _ => .absent ..

end Start

variable {α : Type} {origin origin' : UInt64} {window : Span} {calls : List (Instant × Call α)}
  {w : SharedSlidingWindow} {l : SharedSlidingLog} {store store' : Store} {now : Instant}

/-- Both limiters can serve a request. -/
theorem exists_serves (h : Mirrors origin origin' window calls w l store store') (key : String)
    {o : AllowOptions} (readable : now.Representable) (trailing : o.fixedWindow = false)
    (weight_lt : o.weight < 2 ^ 63) (reaches : (now.shift? (-window.nanos)).isSome) :
    ∃ boundary lifetime lifetime', w.Serves (w.keyed.state key) now boundary lifetime ∧
      l.Serves (l.keyed.state key) o now boundary lifetime' ∧
      boundary.micros = oldestScore window now ∧ window.plus? w.grace = some lifetime ∧
      window.plus? l.grace = some lifetime' := by
  obtain ⟨boundary, reaches⟩ := Option.isSome_iff_exists.1 reaches
  obtain ⟨lifetime, lasts⟩ := Option.isSome_iff_exists.1 h.lasts
  obtain ⟨lifetime', lasts'⟩ := Option.isSome_iff_exists.1 h.lasts'
  have same := h.same key
  refine ⟨boundary, lifetime, lifetime', ?_, ?_, micros_eq_oldestScore reaches, lasts, lasts'⟩
  · constructor
    case readable => exact readable
    case isWindow => rw [same.window_eq]; exact h.isWindow
    case reaches => rw [same.window_eq]; exact reaches
    case positive => exact same.limit_pos
    case limit_lt => exact same.limit_lt
    case lasts => rw [same.window_eq]; exact lasts
  · constructor
    case trailing => exact trailing
    case readable => exact readable
    case reaches => rw [same.window_eq']; exact reaches
    case positive => rw [same.limit_eq]; exact same.limit_pos
    case limit_lt => rw [same.limit_eq]; exact same.limit_lt
    case weight_lt => exact weight_lt
    case lasts => rw [same.window_eq']; exact lasts'

/-- What a request leaves behind keeps the limiters mirroring each other. -/
theorem after (h : Mirrors origin origin' window calls w l store store')
    (latest : ∀ c ∈ calls, c.1 ≤ now) {key : String} {o : AllowOptions} {next next' : Store}
    (available : next.available = true) (available' : next'.available = true)
    (own : Store.Paired window origin origin' now (next.slots.get? key) (next'.slots.get? key))
    (others : ∀ other, key ≠ other → next.slots.get? other = (store.live now).get? other)
    (others' : ∀ other, key ≠ other → next'.slots.get? other = (store'.live now).get? other) :
    Mirrors origin origin' window (calls ++ [(now, .allow key o)]) (w.afterRequest key now)
      (l.afterRequest key now) next next' := by
  constructor
  case same =>
    intro key'
    rw [SharedSlidingWindow.state_afterRequest, SharedSlidingLog.state_afterRequest]
    exact h.same key'
  case isWindow => exact h.isWindow
  case origin_eq => exact h.origin_eq
  case origin_eq' => exact h.origin_eq'
  case sequence_eq => exact congrArg (· + 1) h.sequence_eq
  case lasts => exact h.lasts
  case lasts' => exact h.lasts'
  case graced => exact h.graced
  case available => exact available
  case available' => exact available'
  case paired =>
    intro key' later reached
    have upTo : now ≤ later := reached (now, .allow key o) (by simp)
    rw [Store.get?_live, Store.get?_live]
    -- The request has paired the slots of its key; the others are as they were.
    by_cases mine : key = key'
    · subst mine
      exact own.live upTo
    · rw [others key' mine, others' key' mine]
      exact (h.paired key' now latest).live upTo

/-- A new limit changes nothing that the stores hold. -/
theorem afterSetLimit (h : Mirrors origin origin' window calls w l store store') (key : String)
    {limit : Nat} (now : Instant) (limit_pos : 0 < limit) (limit_lt : limit < 2 ^ 63) :
    Mirrors origin origin' window (calls ++ [(now, .setLimit key limit)])
      { w with keyed := w.keyed.put key { w.keyed.state key with limit := limit } }
      { l with keyed := l.keyed.put key { l.keyed.state key with limit := limit } }
      store store' := by
  constructor
  case same =>
    intro key'
    rw [Keyed.state_put, Keyed.state_put]
    split
    · rename_i mine
      subst mine
      have same := h.same key
      exact ⟨rfl, limit_pos, limit_lt, same.window_eq, same.window_eq'⟩
    · exact h.same key'
  case isWindow => exact h.isWindow
  case origin_eq => exact h.origin_eq
  case origin_eq' => exact h.origin_eq'
  case sequence_eq => exact h.sequence_eq
  case lasts => exact h.lasts
  case lasts' => exact h.lasts'
  case graced => exact h.graced
  case available => exact h.available
  case available' => exact h.available'
  case paired =>
    intro key' later reached
    exact h.paired key' later fun c member => reached c (List.mem_append_left _ member)

variable [Arithmetic α]

/-- **Both limiters answer a request of one unit alike**, and mirror each other afterwards. -/
theorem allow (h : Mirrors origin origin' window calls w l store store') {key : String}
    {o : AllowOptions} (latest : ∀ c ∈ calls, c.1 ≤ now) (readable : now.Representable)
    (trailing : o.fixedWindow = false) (single : o.weight = 1)
    (reaches : (now.shift? (-window.nanos)).isSome) :
    ∃ w' l' next next' passed,
      step (Store.context α now) ((.sharedSlidingWindow w : Limiter α), store) (.allow key o) =
        .ok ((.sharedSlidingWindow w', next), .ok (some passed)) ∧
      step (Store.context α now) ((.sharedSlidingLog l : Limiter α), store') (.allow key o) =
        .ok ((.sharedSlidingLog l', next'), .ok (some passed)) ∧
      Mirrors origin origin' window (calls ++ [(now, .allow key o)]) w' l' next next' := by
  obtain ⟨boundary, lifetime, lifetime', serves, serves', counts, lasts, lasts'⟩ :=
    h.exists_serves key readable trailing (by omega) reaches
  -- What both keys hold decides the request.
  have paired := h.paired key now latest
  obtain ⟨s, s', held, held', agree⟩ := paired.sets
  obtain ⟨next, answers, available, slots⟩ :=
    SharedSlidingWindow.exists_allow α serves h.available held.sortedSetAt_eq agree.dated.coherent
  obtain ⟨next', answers', available', slots'⟩ :=
    SharedSlidingLog.exists_allow α serves' h.available' held'.sortedSetAt_eq
      agree.dated'.coherent
  -- Both limiters have drawn the same number of names, and give the request the same number.
  obtain ⟨decided, agree⟩ := agree.request (oldestScore_le_micros window now) w.members.sequence
    (w.keyed.state key).limit
  have named : (w.members.next now.micros).2 =
      MemberNames.name now.micros origin w.members.sequence := by
    rw [← h.origin_eq]
    rfl
  have named' : (l.members.next now.micros).2 =
      MemberNames.name now.micros origin' w.members.sequence := by
    rw [← h.origin_eq', ← h.sequence_eq]
    rfl
  rw [named, counts] at answers slots
  rw [SharedSlidingLog.answer, named', counts, single, (h.same key).limit_eq] at answers' slots'
  rw [← decided] at answers'
  refine ⟨_, _, next, next', _, SharedSlidingWindow.step_allow answers o,
    SharedSlidingLog.step_allow answers', h.after latest available available' ?_ ?_ ?_⟩
  · rw [slots, slots', if_pos rfl, if_pos rfl]
    exact .renew agree lasts lasts' h.graced
  · intro other different
    rw [slots, if_neg different]
  · intro other different
    rw [slots', if_neg different]

/-- **Both limiters take a new limit**, and go on mirroring each other. -/
theorem setLimit (h : Mirrors origin origin' window calls w l store store')
    {key : String} {limit : Nat} (now : Instant) (limit_pos : 0 < limit)
    (limit_lt : limit < 2 ^ 63) :
    ∃ w' l',
      step (Store.context α now) ((.sharedSlidingWindow w : Limiter α), store)
        (.setLimit key limit) = .ok ((.sharedSlidingWindow w', store), .ok none) ∧
      step (Store.context α now) ((.sharedSlidingLog l : Limiter α), store')
        (.setLimit key limit) = .ok ((.sharedSlidingLog l', store'), .ok none) ∧
      Mirrors origin origin' window (calls ++ [(now, .setLimit key limit)]) w' l' store store' :=
  ⟨_, _, w.step_setLimit limit_pos key now store, l.step_setLimit limit_pos key now store',
    h.afterSetLimit key now limit_pos limit_lt⟩

end Mirrors

/-! ## Runs -/

section Runs

variable {α : Type} [Arithmetic α]

/-- Calls by a clock that does not go back, none of which leaves the ranges of what the limiters
compute with; all requests are trailing ones of one unit. -/
structure OfSingleUnits (window : Span) (calls : List (Instant × Call α)) : Prop where
  ordered : (calls.map Prod.fst).Pairwise (· ≤ ·)
  readable : ∀ c ∈ calls, c.1.Representable
  comparable : ∀ c ∈ calls, Comparable window c.1 c.2
  single : ∀ now key o, (now, Call.allow key o) ∈ calls → o.weight = 1

omit [Arithmetic α] in
theorem OfSingleUnits.of_prefix {window : Span} {calls calls' : List (Instant × Call α)}
    (h : OfSingleUnits window calls) (first : calls' <+: calls) : OfSingleUnits window calls' where
  ordered := h.ordered.sublist (first.sublist.map _)
  readable c member := h.readable c (first.subset member)
  comparable c member := h.comparable c (first.subset member)
  single now key o member := h.single now key o (first.subset member)

/-- The limiters mirror each other after every sequence of calls, which they answer alike. -/
theorem exists_mirrors {c : SlidingWindow.Config} {c' : SlidingLog.Config}
    {origin origin' : UInt64} {timeout timeout' : Option Span} {grace grace' : Span}
    {w : SharedSlidingWindow} {l : SharedSlidingLog}
    (made : SharedSlidingWindow.create? c origin timeout grace = .ok w)
    (made' : SharedSlidingLog.create? c' origin' timeout' grace' = .ok l)
    (limits : c'.limit = c.limit) (windows : c'.window = c.window) (small : c.limit < 2 ^ 63)
    (graced : grace = grace' ∨ 1000 ≤ grace.nanos ∧ 1000 ≤ grace'.nanos)
    (lasts : (c.window.plus? grace).isSome) (lasts' : (c.window.plus? grace').isSome)
    {calls : List (Instant × Call α)} (ofSingleUnits : OfSingleUnits c.window calls) :
    ∃ w' l' store store' outcomes,
      drive (.sharedSlidingWindow w, ∅) calls = .ok ((.sharedSlidingWindow w', store), outcomes) ∧
      drive (.sharedSlidingLog l, ∅) calls = .ok ((.sharedSlidingLog l', store'), outcomes) ∧
      List.Forall₂ Answers calls outcomes ∧
      Mirrors origin origin' c.window calls w' l' store store' := by
  induction calls using List.reverseRecOn with
  | nil =>
    exact ⟨w, l, ∅, ∅, [], rfl, rfl, .nil,
      .start made made' limits windows small graced lasts lasts'⟩
  | append_singleton calls call ih =>
    obtain ⟨now, call⟩ := call
    have first : calls <+: calls ++ [(now, call)] := List.prefix_append ..
    have last : (now, call) ∈ calls ++ [(now, call)] := by simp
    obtain ⟨w', l', store, store', outcomes, ran, ran', answers, mirrors⟩ :=
      ih (ofSingleUnits.of_prefix first)
    cases ofSingleUnits.comparable _ last with
    -- A request finds both limiters as the calls before have left them.
    | @allow key o trailing _ reaches =>
      obtain ⟨w'', l'', next, next', passed, stepped, stepped', mirrors⟩ :=
        mirrors.allow (le_last_of_ordered ofSingleUnits.ordered) (ofSingleUnits.readable _ last)
          trailing (ofSingleUnits.single now key o last) reaches
      exact ⟨w'', l'', next, next', outcomes ++ [.ok (some passed)],
        drive_append_singleton ran stepped, drive_append_singleton ran' stepped',
        List.rel_append answers (.cons (.allow passed) .nil), mirrors⟩
    | @setLimit key limit limit_pos limit_lt =>
      obtain ⟨w'', l'', stepped, stepped', mirrors⟩ :=
        mirrors.setLimit now limit_pos limit_lt
      exact ⟨w'', l'', store, store', outcomes ++ [.ok none],
        drive_append_singleton ran stepped, drive_append_singleton ran' stepped',
        List.rel_append answers (.cons .setLimit .nil), mirrors⟩

/-- **A shared sliding window and a shared sliding log answer alike.** Both have the same limit and
the same window, and the same grace, or graces of at least a microsecond. Whatever requests of one
unit and new limits they take, all are answered, and alike. -/
theorem drive_slidingWindow_eq_slidingLog {c : SlidingWindow.Config} {c' : SlidingLog.Config}
    {origin origin' : UInt64} {timeout timeout' : Option Span} {grace grace' : Span}
    {w : SharedSlidingWindow} {l : SharedSlidingLog}
    (made : SharedSlidingWindow.create? c origin timeout grace = .ok w)
    (made' : SharedSlidingLog.create? c' origin' timeout' grace' = .ok l)
    (limits : c'.limit = c.limit) (windows : c'.window = c.window) (small : c.limit < 2 ^ 63)
    (graced : grace = grace' ∨ 1000 ≤ grace.nanos ∧ 1000 ≤ grace'.nanos)
    (lasts : (c.window.plus? grace).isSome) (lasts' : (c.window.plus? grace').isSome)
    {calls : List (Instant × Call α)} (ofSingleUnits : OfSingleUnits c.window calls) :
    ∃ w' l' store store' outcomes,
      drive (.sharedSlidingWindow w, ∅) calls = .ok ((.sharedSlidingWindow w', store), outcomes) ∧
      drive (.sharedSlidingLog l, ∅) calls = .ok ((.sharedSlidingLog l', store'), outcomes) ∧
      List.Forall₂ Answers calls outcomes := by
  obtain ⟨w', l', store, store', outcomes, ran, ran', answers, -⟩ :=
    exists_mirrors made made' limits windows small graced lasts lasts' ofSingleUnits
  exact ⟨w', l', store, store', outcomes, ran, ran', answers⟩

/-- Requests of one key by a clock that reads nanoseconds. The third one finds no room under a lower
limit, so that only the log drops the first member; then the limit grows again, and at last the key
has expired. -/
def lowered : List (Instant × Call Float) :=
  [(⟨10001⟩, .allow "k" {}), (⟨11500⟩, .allow "k" {}), (⟨12200⟩, .setLimit "k" 1),
    (⟨13100⟩, .allow "k" {}), (⟨13200⟩, .setLimit "k" 2), (⟨13300⟩, .allow "k" {}),
    (⟨16000⟩, .allow "k" {})]

theorem drive_lowered_eq :
    ∃ w l w' l' store store' outcomes,
      SharedSlidingWindow.create? ⟨2, ⟨2000⟩⟩ 7 none ⟨1⟩ = .ok w ∧
      SharedSlidingLog.create? ⟨2, ⟨2000⟩, none⟩ 9 none ⟨1⟩ = .ok l ∧
      drive (.sharedSlidingWindow w, ∅) lowered =
        .ok ((.sharedSlidingWindow w', store), outcomes) ∧
      drive (.sharedSlidingLog l, ∅) lowered = .ok ((.sharedSlidingLog l', store'), outcomes) ∧
      List.Forall₂ Answers lowered outcomes := by
  let w : SharedSlidingWindow := ⟨⟨⟨2, ⟨2000⟩⟩, rfl, ∅⟩, .ofOrigin 7, none, ⟨1⟩⟩
  let l : SharedSlidingLog := ⟨⟨⟨2, ⟨2000⟩, none⟩, rfl, ∅⟩, .ofOrigin 9, none, ⟨1⟩⟩
  have ofSingleUnits : OfSingleUnits ⟨2000⟩ lowered := by
    constructor
    case ordered => decide
    case readable => decide
    case comparable =>
      intro c member
      simp only [lowered, List.mem_cons, List.not_mem_nil, or_false] at member
      rcases member with rfl | rfl | rfl | rfl | rfl | rfl | rfl
      all_goals first
        | exact .allow rfl (by decide) (by decide)
        | exact .setLimit (by decide) (by decide)
    case single =>
      intro now key o member
      simp only [lowered, List.mem_cons, List.not_mem_nil, or_false] at member
      rcases member with h | h | h | h | h | h | h <;> cases h <;> rfl
  obtain ⟨w', l', store, store', outcomes, ran, ran', answers⟩ :=
    @drive_slidingWindow_eq_slidingLog Float _ ⟨2, ⟨2000⟩⟩ ⟨2, ⟨2000⟩, none⟩ 7 9 none none ⟨1⟩ ⟨1⟩
      w l rfl rfl rfl rfl (by decide) (.inl rfl) (by decide) (by decide) lowered ofSingleUnits
  exact ⟨w, l, w', l', store, store', outcomes, rfl, rfl, ran, ran', answers⟩

/-! ## Different graces -/

/-- Two requests, the second of them when a grace of a nanosecond is over and one of two is not. -/
def atExpiry : List (Instant × Call Float) := [(⟨10000⟩, .allow "k" {}), (⟨12001⟩, .allow "k" {})]

/-- Two calls in sequence, with the outcomes of both. -/
theorem drive_pair {start next last : Limiter α × Store} {now later : Instant} {call call' : Call α}
    {outcome outcome' : Outcome}
    (first : step (Store.context α now) start call = .ok (next, outcome))
    (second : step (Store.context α later) next call' = .ok (last, outcome')) :
    drive start [(now, call), (later, call')] = .ok (last, [outcome, outcome']) := by
  have before : drive start [] = .ok (start, []) := rfl
  exact drive_append_singleton (drive_append_singleton before first) second

/-- A store without keys holds no members. -/
theorem sortedSetAt_live_empty (now : Instant) (key : String) :
    Store.sortedSetAt ((∅ : Store).live now) key = .ok ∅ := rfl

/-- A window with a grace of a nanosecond has lost the first request when the second one comes. -/
theorem drive_slidingWindow_atExpiry :
    ∃ w last, SharedSlidingWindow.create? ⟨1, ⟨2000⟩⟩ 7 none ⟨1⟩ = .ok w ∧
      drive (.sharedSlidingWindow w, ∅) atExpiry =
        .ok (last, [.ok (some true), .ok (some true)]) := by
  let w : SharedSlidingWindow := ⟨⟨⟨1, ⟨2000⟩⟩, rfl, ∅⟩, .ofOrigin 7, none, ⟨1⟩⟩
  have serves : w.Serves (w.keyed.state "k") ⟨10000⟩ ⟨8000⟩ ⟨2001⟩ :=
    ⟨by decide, rfl, rfl, by decide, by decide, rfl⟩
  have servesLater : (w.afterRequest "k" ⟨10000⟩).Serves
      ((w.afterRequest "k" ⟨10000⟩).keyed.state "k") ⟨12001⟩ ⟨10001⟩ ⟨2001⟩ :=
    ⟨by decide, rfl, rfl, by decide, by decide, rfl⟩
  obtain ⟨store, first, available, slots⟩ := SharedSlidingWindow.exists_allow Float serves rfl
    (sortedSetAt_live_empty ..) SortedSet.coherent_empty
  have lost : Store.sortedSetAt (store.live ⟨12001⟩) "k" = .ok ∅ := by
    rw [Store.sortedSetAt, Store.get?_live, slots, if_pos rfl]
    rfl
  obtain ⟨_, second, -⟩ :=
    SharedSlidingWindow.exists_allow Float servesLater available lost SortedSet.coherent_empty
  exact ⟨w, _, rfl, drive_pair (SharedSlidingWindow.step_allow first {})
    (SharedSlidingWindow.step_allow second {})⟩

/-- A log with a grace of two nanoseconds still counts the first request, whose score is the
microsecond in which the window of the second one begins. -/
theorem drive_slidingLog_atExpiry :
    ∃ l last, SharedSlidingLog.create? ⟨1, ⟨2000⟩, none⟩ 9 none ⟨2⟩ = .ok l ∧
      drive (.sharedSlidingLog l, ∅) atExpiry =
        .ok (last, [.ok (some true), .ok (some false)]) := by
  let l : SharedSlidingLog := ⟨⟨⟨1, ⟨2000⟩, none⟩, rfl, ∅⟩, .ofOrigin 9, none, ⟨2⟩⟩
  have serves : l.Serves (l.keyed.state "k") {} ⟨10000⟩ ⟨8000⟩ ⟨2002⟩ :=
    ⟨rfl, by decide, rfl, by decide, by decide, by decide, rfl⟩
  have servesLater : (l.afterRequest "k" ⟨10000⟩).Serves
      ((l.afterRequest "k" ⟨10000⟩).keyed.state "k") {} ⟨12001⟩ ⟨10001⟩ ⟨2002⟩ :=
    ⟨rfl, by decide, rfl, by decide, by decide, by decide, rfl⟩
  obtain ⟨store, first, available, slots⟩ := SharedSlidingLog.exists_allow Float serves rfl
    (sortedSetAt_live_empty ..) SortedSet.coherent_empty
  let held := (l.answer ∅ ⟨8000⟩ ⟨10000⟩ 1 1).1
  have kept : Store.sortedSetAt (store.live ⟨12001⟩) "k" = .ok held := by
    rw [Store.sortedSetAt, Store.get?_live, slots, if_pos rfl]
    rfl
  have coherent : held.Coherent := SortedSet.coherent_empty.tryAdd _ _ _ _ _
  obtain ⟨_, second, -⟩ :=
    SharedSlidingLog.exists_allow Float servesLater available kept coherent
  exact ⟨l, _, rfl, drive_pair (SharedSlidingLog.step_allow first)
    (SharedSlidingLog.step_allow second)⟩

/-- **Different graces below a microsecond tell the limiters apart**: the window accepts the second
request, and the log rejects it. -/
theorem drive_ne_of_small_graces :
    ∃ w l last last', SharedSlidingWindow.create? ⟨1, ⟨2000⟩⟩ 7 none ⟨1⟩ = .ok w ∧
      SharedSlidingLog.create? ⟨1, ⟨2000⟩, none⟩ 9 none ⟨2⟩ = .ok l ∧
      drive (.sharedSlidingWindow w, ∅) atExpiry =
        .ok (last, [.ok (some true), .ok (some true)]) ∧
      drive (.sharedSlidingLog l, ∅) atExpiry =
        .ok (last', [.ok (some true), .ok (some false)]) := by
  obtain ⟨w, last, made, ran⟩ := drive_slidingWindow_atExpiry
  obtain ⟨l, last', made', ran'⟩ := drive_slidingLog_atExpiry
  exact ⟨w, l, last, last', made, made', ran, ran'⟩

end Runs

end Limiter

end Throttle
