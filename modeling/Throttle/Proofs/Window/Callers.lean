import Mathlib.Data.List.Count
import Throttle.Proofs.Window.Exactness

/-!
# Callers in flight

A caller of a sliding log reads the clock first, and its request is served under a lock later. So
requests come to a log in any order of their readings. A request that has been overtaken does not
see what was accepted at later readings, nor what these have forgotten, and a window can then hold
more than the limit. It holds more by no more than the requests that were overtaken, and by no more
than twice the number of the other callers that are in flight at a time.

## Main definitions

* `SlidingLog.Turn`: a caller reads the clock, or the request of one is served
* `SlidingLog.Callers`: the callers in flight and the requests served
* `SlidingLog.requests`: requests of one unit at the given readings
* `SlidingLog.Notes`: what the history of a log looks like after such requests
* `SlidingLog.Bounded`: what a window holds, with the callers that can still add to it

## Main results

* `SlidingLog.Notes.serve`: a request that passes has found room among what is stored
* `SlidingLog.Bounded.read`, `SlidingLog.Bounded.serve`: a turn keeps a window bounded
* `SlidingLog.length_within_le_of_callers`: what a window holds after every sequence of turns
-/

namespace Throttle

namespace SlidingLog

/-- What a caller does. -/
inductive Turn where
  /-- A caller reads the clock, and is in flight from then on. -/
  | read (now : Instant)
  /-- The request of the caller at a place among those in flight is served. -/
  | serve (place : Nat)

/-- The reading of a caller that reads the clock. -/
def Turn.reading? : Turn → Option Instant
  | read now => some now
  | serve _ => none

/-- The readings of callers, in the order in which they were made. -/
def readings (turns : List Turn) : List Instant := turns.filterMap Turn.reading?

/-- The callers of a log. -/
structure Callers where
  /-- The readings of those in flight, the oldest first. -/
  waiting : List Instant
  /-- The readings of the requests served, in the order of service. -/
  served : List Instant
  /-- The greatest number of callers that were in flight at a time. -/
  peak : Nat
  /-- The number of requests that were served after one with a later reading. -/
  overtaken : Nat

namespace Callers

/-- No callers. -/
def start : Callers := ⟨[], [], 0, 0⟩

/-- The callers after a turn. There is nobody to serve at a place where nobody waits. -/
def next (s : Callers) : Turn → Callers
  | .read now =>
    { s with waiting := s.waiting ++ [now], peak := max s.peak (s.waiting.length + 1) }
  | .serve place =>
    match s.waiting[place]? with
    | none => s
    | some now =>
      { s with
        waiting := s.waiting.eraseIdx place
        served := s.served ++ [now]
        overtaken := s.overtaken + if s.served.any (now < ·) then 1 else 0 }

/-- The callers after a sequence of turns. -/
def after (turns : List Turn) : Callers := turns.foldl next start

theorem after_concat (turns : List Turn) (t : Turn) :
    after (turns ++ [t]) = (after turns).next t := by
  simp [after]

/-- Somebody is served, or nothing happens. -/
theorem next_serve (s : Callers) (place : Nat) :
    s.next (.serve place) = s ∨ ∃ now, s.waiting[place]? = some now ∧
      s.next (.serve place) =
        ⟨s.waiting.eraseIdx place, s.served ++ [now], s.peak,
          s.overtaken + if s.served.any (now < ·) then 1 else 0⟩ := by
  unfold next
  dsimp only
  split
  · exact .inl rfl
  · exact .inr ⟨_, by assumption, rfl⟩

/-- Who is in flight or has been served has read the clock. -/
theorem mem_readings {turns : List Turn} {now : Instant}
    (h : now ∈ (after turns).waiting ∨ now ∈ (after turns).served) : now ∈ readings turns := by
  induction turns using List.reverseRecOn with
  | nil => simp [after, start] at h
  | append_singleton turns t ih =>
    rw [after_concat] at h
    rw [readings, List.filterMap_append, List.mem_append]
    cases t with
    | read latest =>
      rw [next, List.mem_append, List.mem_singleton] at h
      rcases h with (waits | rfl) | served
      · exact .inl (ih (.inl waits))
      · exact .inr (by simp [Turn.reading?])
      · exact .inl (ih (.inr served))
    | serve place =>
      refine .inl (ih ?_)
      rcases (after turns).next_serve place with same | ⟨first, found, done⟩
      · rwa [same] at h
      · rw [done, List.mem_append, List.mem_singleton] at h
        rcases h with waits | served | rfl
        · exact .inl (List.mem_of_mem_eraseIdx waits)
        · exact .inr served
        · exact .inl (List.mem_of_getElem? found)

/-- No more callers are in flight than ever were. -/
theorem length_waiting_le_peak (turns : List Turn) :
    (after turns).waiting.length ≤ (after turns).peak := by
  induction turns using List.reverseRecOn with
  | nil => exact Nat.le_refl 0
  | append_singleton turns t ih =>
    rw [after_concat]
    cases t with
    | read now =>
      rw [next, List.length_append, List.length_singleton]
      exact le_max_right _ _
    | serve place =>
      rcases (after turns).next_serve place with same | ⟨now, -, done⟩
      · rwa [same]
      · rw [done]
        exact (List.length_eraseIdx_le _ _).trans ih

end Callers

/-- Requests of one unit in the trailing window, in the order of service. -/
def requests (served : List Instant) : List Action := served.map fun now => .allow now 1 {}

/-! ## What a log does with a request -/

/-- Whether a reading is in a window. -/
def inside (left right now : Instant) : Bool := Decidable.decide (left ≤ now ∧ now ≤ right)

/-- What the history of a log looks like after requests of one unit at the given readings. -/
structure Notes (c : Config) (served : List Instant) (h : History) : Prop where
  limit : h.limit = c.limit
  length : h.length = c.window.nanos
  accepted : ∀ e ∈ h.accepted, e.1 ∈ served ∧ e.2 = 1
  lefts : ∀ left ∈ h.lefts, ∃ now ∈ served, left = ⟨now.nanos - c.window.nanos⟩

namespace Notes

variable {c : Config} {served : List Instant} {l l' : SlidingLog} {h : History}

/-- What a request leaves in the history. -/
def added (now : Instant) (passed : Bool) : List (Instant × Nat) :=
  if passed then [(now, 1)] else []

theorem unitsWithin_added (records : List (Instant × Nat)) (left right now : Instant)
    (passed : Bool) : unitsWithin (records ++ added now passed) left right =
      unitsWithin records left right +
        if passed = true ∧ inside left right now = true then 1 else 0 := by
  rw [unitsWithin_append]
  congr 1
  cases passed with
  | false => rfl
  | true => simp [added, unitsWithin_singleton, inside]

/-- Nothing is forgotten of what requests that are late by less than the window look at. -/
theorem unitsWithin_eq (g : Notes c served h) (r : Remembers l h) {left : Instant}
    (late : ∀ seen ∈ served, seen.nanos ≤ left.nanos + c.window.nanos) (right : Instant) :
    unitsWithin l.accepted left right = unitsWithin h.accepted left right := by
  rw [← count_eq_unitsWithin]
  refine r.count_eq (fun earlier member => ?_) right
  obtain ⟨seen, known, rfl⟩ := g.lefts earlier member
  have := late seen known
  rw [Instant.le_def]
  dsimp only
  omega

/-- **A request that passes has found room among what is stored** in the window that it ends. It
looks at nothing later. -/
theorem serve (g : Notes c served h) (r : Remembers l h) {now : Instant}
    {outcome : Except LimiterError Bool} (answered : l.allow now 1 {} = .ok (l', outcome)) :
    Notes c (served ++ [now]) (h.note now 1 {} outcome) ∧ ∃ passed,
      (h.note now 1 {} outcome).accepted = h.accepted ++ added now passed ∧
      (passed = true → unitsWithin l.accepted ⟨now.nanos - c.window.nanos⟩ now < c.limit) := by
  have earlier : ∀ e ∈ h.accepted, e.1 ∈ served ++ [now] ∧ e.2 = 1 := fun e member =>
    (g.accepted e member).imp_left (List.mem_append_left _)
  have earlierLefts : ∀ left ∈ h.lefts,
      ∃ seen ∈ served ++ [now], left = ⟨seen.nanos - c.window.nanos⟩ := fun left member =>
    (g.lefts left member).imp fun _ found => found.imp_left (List.mem_append_left _)
  rcases allow_eq_ok answered with ⟨e, -, rfl, rfl⟩ | ⟨left, right, resolved, answer⟩
  · exact ⟨⟨g.limit, g.length, earlier, earlierLefts⟩, false, by simp [History.note, added],
      by simp⟩
  rw [r.bounds_eq] at resolved
  obtain ⟨moved, same⟩ := (AllowOptions.windowBounds_trailing rfl).1 resolved
  rw [g.length] at moved
  obtain rfl : now = right := same.symm
  obtain rfl := Instant.eq_of_shift? moved
  have lefts : ∀ left ∈ h.lefts ++ [⟨now.nanos + -c.window.nanos⟩],
      ∃ seen ∈ served ++ [now], left = ⟨seen.nanos - c.window.nanos⟩ := by
    intro left member
    rcases List.mem_append.1 member with old | new
    · exact earlierLefts left old
    · exact ⟨now, by simp, List.mem_singleton.1 new⟩
  rcases answer with ⟨-, rfl, -⟩ | ⟨room, rfl, -⟩
  · simp only [History.note, Remembers.left?_eq resolved, Option.toList_some]
    exact ⟨⟨g.limit, g.length, earlier, lefts⟩, false, by simp [added], by simp⟩
  · simp only [History.note, Remembers.left?_eq resolved, Option.toList_some, if_true]
    refine ⟨⟨g.limit, g.length, fun e member => ?_, lefts⟩, true, by simp [added], fun _ => ?_⟩
    · rcases List.mem_append.1 member with old | new
      · exact earlier e old
      · rw [List.mem_singleton.1 new]
        simp
    · rwa [count_eq_unitsWithin, r.limit, g.limit] at room

end Notes

/-! ## What a window holds -/

/-- Whether a caller would find room between `left` and its reading. -/
def roomy (limit : Nat) (records : List (Instant × Nat)) (left now : Instant) : Bool :=
  Decidable.decide (left ≤ now ∧ unitsWithin records left now < limit)

/-- What a window from `left` to `right` holds, with the callers in flight that can still add to it.
While nobody has read a time past the window, a caller adds to it only if it finds room in it. From
then on the window gets no new callers, but each of those in flight may have been overtaken by what
makes a log forget the window. -/
structure Bounded (c : Config) (left right : Instant) (readings : List Instant) (s : Callers)
    (h : History) : Prop where
  early : (∀ now ∈ readings, now ≤ right) → unitsWithin h.accepted left right < c.limit ∨
    unitsWithin h.accepted left right + s.waiting.countP (roomy c.limit h.accepted left) ≤
      c.limit + (s.peak - 1)
  late : (∃ now ∈ readings, right < now) →
    unitsWithin h.accepted left right + s.waiting.countP (inside left right) ≤
      c.limit + 2 * (s.peak - 1)

namespace Bounded

variable {c : Config} {left right : Instant} {readings : List Instant} {s : Callers}
  {l l' : SlidingLog} {h : History}

/-- Nobody has read the clock, and a window is empty. -/
theorem start (valid : c.validate = .ok ()) :
    Bounded c left right [] Callers.start (History.start c) where
  early _ := .inl (Config.validate_eq_ok_iff.1 valid).1
  late past := by simp at past

/-- **A caller that reads the clock** finds no room in a window that is full, for it has the latest
reading. -/
theorem read (b : Bounded c left right readings s h) (g : Notes c s.served h)
    (known : ∀ now ∈ s.served, now ∈ readings) (few : s.waiting.length ≤ s.peak) {now : Instant}
    (latest : ∀ earlier ∈ readings, earlier ≤ now) :
    Bounded c left right (readings ++ [now]) (s.next (.read now)) h where
  early young := by
    have before : ∀ earlier ∈ readings, earlier ≤ right := fun earlier member =>
      young earlier (List.mem_append_left _ member)
    have whole : unitsWithin h.accepted left now = unitsWithin h.accepted left right := by
      -- No accepted request has a reading later than either.
      rw [unitsWithin, unitsWithin, within_of_le fun e member =>
        latest _ (known _ (g.accepted e member).1), within_of_le fun e member =>
        before _ (known _ (g.accepted e member).1)]
    rcases Nat.lt_or_ge (unitsWithin h.accepted left right) c.limit with room | full
    · exact .inl room
    · have crowd := (b.early before).resolve_left (Nat.not_lt.2 full)
      have closed : roomy c.limit h.accepted left now = false := by
        simp only [roomy, whole, decide_eq_false_iff_not]
        omega
      refine .inr ?_
      simp only [Callers.next, List.countP_append, List.countP_singleton, closed]
      simp only [Bool.false_eq_true, if_false]
      omega
  late past := by
    obtain ⟨far, member, beyond⟩ := past
    -- In either case the new reading is past the window.
    have outside : right < now := by
      rcases List.mem_append.1 member with old | new
      · exact Int.lt_of_lt_of_le beyond (latest far old)
      · rwa [List.mem_singleton.1 new] at beyond
    have ends : inside left right now = false := by
      simp only [inside, Instant.le_def, Instant.lt_def, decide_eq_false_iff_not] at outside ⊢
      omega
    simp only [Callers.next, List.countP_append, List.countP_singleton, ends]
    simp only [Bool.false_eq_true, if_false]
    by_cases old : ∃ earlier ∈ readings, right < earlier
    · have := b.late old
      omega
    · -- It is the first one past the window, and finds the others in flight.
      have before : ∀ earlier ∈ readings, earlier ≤ right := fun earlier member =>
        Int.not_lt.1 fun beyond => old ⟨earlier, member, beyond⟩
      have waiting : s.waiting.countP (inside left right) ≤ s.waiting.length :=
        List.countP_le_length
      have room : s.waiting.countP (roomy c.limit h.accepted left) ≤ s.waiting.length :=
        List.countP_le_length
      rcases b.early before with room | crowd <;> omega

/-- While nobody has read a time past a window, the log has forgotten nothing of it, and a request
that passes in it has found room there. -/
theorem room_of_passed (r : Remembers l h) (g : Notes c s.served h)
    (short : right.nanos ≤ left.nanos + c.window.nanos) (young : ∀ now ∈ s.served, now ≤ right)
    {now : Instant} (early : now ≤ right)
    (room : unitsWithin l.accepted ⟨now.nanos - c.window.nanos⟩ now < c.limit) :
    unitsWithin h.accepted left now < c.limit := by
  have late : ∀ seen ∈ s.served, seen.nanos ≤ left.nanos + c.window.nanos := fun seen served =>
    Int.le_trans (young seen served) short
  have reaches : (⟨now.nanos - c.window.nanos⟩ : Instant) ≤ left := by
    rw [Instant.le_def] at early ⊢
    dsimp only
    omega
  calc unitsWithin h.accepted left now
    _ = unitsWithin l.accepted left now := (g.unitsWithin_eq r late now).symm
    _ ≤ unitsWithin l.accepted ⟨now.nanos - c.window.nanos⟩ now :=
      unitsWithin_mono _ reaches (Int.le_refl now.nanos)
    _ < c.limit := room

/-- **A request that is served** takes a caller out of flight, and adds to a window only if it is
one of those that could. -/
theorem serve (b : Bounded c left right readings s h) (r : Remembers l h) (g : Notes c s.served h)
    (known : ∀ now, now ∈ s.waiting ∨ now ∈ s.served → now ∈ readings)
    (few : s.waiting.length ≤ s.peak) (short : right.nanos ≤ left.nanos + c.window.nanos)
    {place : Nat} {now : Instant} (found : s.waiting[place]? = some now) {h' : History}
    {passed : Bool} (grown : h'.accepted = h.accepted ++ Notes.added now passed)
    (room : passed = true → unitsWithin l.accepted ⟨now.nanos - c.window.nanos⟩ now < c.limit)
    (overtaken : Nat) :
    Bounded c left right readings
      ⟨s.waiting.eraseIdx place, s.served ++ [now], s.peak, overtaken⟩ h' := by
  obtain ⟨inRange, rfl⟩ := List.getElem?_eq_some_iff.1 found
  have shorter := List.length_eraseIdx_of_lt inRange
  have split := fun p : Instant → Bool =>
    (List.getElem_cons_eraseIdx_perm inRange).countP_eq p
  simp only [List.countP_cons] at split
  have more : ∀ upTo, unitsWithin h'.accepted left upTo = unitsWithin h.accepted left upTo +
      if passed = true ∧ inside left upTo s.waiting[place] = true then 1 else 0 := fun upTo =>
    grown ▸ Notes.unitsWithin_added _ _ _ _ _
  refine ⟨fun young => ?_, fun past => ?_⟩
  · -- Who finds room now has found room before.
    have fewer : (s.waiting.eraseIdx place).countP (roomy c.limit h'.accepted left) ≤
        (s.waiting.eraseIdx place).countP (roomy c.limit h.accepted left) := by
      refine List.countP_mono_left fun upTo _ free => ?_
      have grows := more upTo
      simp only [roomy, decide_eq_true_eq] at free ⊢
      exact ⟨free.1, by omega⟩
    have served := split (roomy c.limit h.accepted left)
    have atMost : (s.waiting.eraseIdx place).countP (roomy c.limit h'.accepted left) ≤
        (s.waiting.eraseIdx place).length := List.countP_le_length
    have held := more right
    dsimp only
    by_cases adds : passed = true ∧ inside left right s.waiting[place] = true
    · have within := adds.2
      simp only [inside, decide_eq_true_eq] at within
      have free := room_of_passed r g short (fun now member => young now (known now (.inr member)))
        within.2 (room adds.1)
      rw [if_pos (by simpa [roomy] using ⟨within.1, free⟩)] at served
      rw [if_pos adds] at held
      rcases b.early young with space | crowd <;> omega
    · rw [if_neg adds] at held
      rcases b.early young with space | crowd
      · exact .inl (by omega)
      · refine .inr ?_
        split at served <;> omega
  · have served := split (inside left right)
    have held := more right
    have bound := b.late past
    dsimp only
    split at held
    · rename_i adds
      rw [if_pos adds.2] at served
      omega
    · split at served <;> omega

end Bounded

/-- **A request that nobody has overtaken** sees all of the window that it is in, so that what a
window holds grows past the limit only by requests that were overtaken. -/
theorem Notes.unitsWithin_le_of_serve {c : Config} {s : Callers} {l : SlidingLog} {h h' : History}
    (g : Notes c s.served h) (r : Remembers l h) {left right : Instant}
    (short : right.nanos ≤ left.nanos + c.window.nanos)
    (bound : unitsWithin h.accepted left right ≤ c.limit + s.overtaken) {now : Instant}
    {passed : Bool} (grown : h'.accepted = h.accepted ++ Notes.added now passed)
    (room : passed = true → unitsWithin l.accepted ⟨now.nanos - c.window.nanos⟩ now < c.limit) :
    unitsWithin h'.accepted left right ≤
      c.limit + (s.overtaken + if s.served.any (now < ·) then 1 else 0) := by
  have more : unitsWithin h'.accepted left right = unitsWithin h.accepted left right +
      if passed = true ∧ inside left right now = true then 1 else 0 :=
    grown ▸ Notes.unitsWithin_added _ _ _ _ _
  by_cases adds : passed = true ∧ inside left right now = true
  · rw [if_pos adds] at more
    by_cases overtaken : s.served.any (now < ·) = true
    · rw [if_pos overtaken]
      omega
    · -- Nothing accepted so far is later than the request, so that it sees the window.
      have latest : ∀ seen ∈ s.served, seen ≤ now := by
        simpa [Instant.lt_def, Instant.le_def] using overtaken
      have reached : now ≤ right := (of_decide_eq_true adds.2).2
      have part := units_le_of_sublist <| Spaced.within_sublist
        (fun e member => latest _ (g.accepted e member).1) short reached
      have found := room adds.1
      rw [g.unitsWithin_eq r fun seen served => by
        have := latest seen served
        rw [Instant.le_def] at this
        dsimp only
        omega] at found
      simp only [unitsWithin] at more found ⊢
      omega
  · rw [if_neg adds] at more
    omega

/-! ## Runs -/

theorem requests_concat (served : List Instant) (now : Instant) :
    requests (served ++ [now]) = requests served ++ [.allow now 1 {}] := by
  simp [requests]

/-- A request is answered as long as the units recorded do not pass 64 bits with its own. -/
theorem exists_allow_eq_ok {l : SlidingLog} {now left right : Instant} {n : Nat} {o : AllowOptions}
    (resolved : l.bounds now o = .ok (.ok (left, right))) (forward : left ≤ right)
    (few : l.size + n < 2 ^ 64) :
    ∃ l' passed, l.allow now n o = .ok (l', .ok passed) ∧ l'.length = l.length ∧
      l'.size ≤ l.size + n := by
  have kept : (l.forget left).size ≤ l.size := units_le_of_sublist List.filter_sublist
  have seen : (l.forget left).count left right ≤ l.size := (unitsWithin_le_units ..).trans kept
  have atNow : (l.forget left).count now now ≤ l.size := (unitsWithin_le_units ..).trans kept
  simp only [SlidingLog.allow, resolved]
  rw [if_neg fun reversed => Int.not_lt.2 forward reversed.1, if_neg (by omega)]
  split
  · exact ⟨_, _, rfl, rfl, kept.trans (Nat.le_add_right _ _)⟩
  · rw [if_neg (by omega)]
    refine ⟨_, _, rfl, rfl, ?_⟩
    rw [size, record, units_append, units_singleton]
    exact Nat.add_le_add_right kept n

/-- Fewer than `2 ^ 64` requests whose windows can be represented are all answered. -/
theorem exists_run_requests {c : Config} {served : List Instant}
    (reachable : ∀ now ∈ served, (now.shift? (-c.window.nanos)).isSome)
    (few : served.length < 2 ^ 64) :
    ∃ l h, run c (requests served) = .ok (l, h) ∧ l.length = c.window.nanos ∧
      l.size ≤ served.length := by
  induction served using List.reverseRecOn with
  | nil => exact ⟨_, _, rfl, rfl, Nat.le_refl 0⟩
  | append_singleton served now ih =>
    rw [List.length_append, List.length_singleton] at few ⊢
    obtain ⟨l, h, ran, length, small⟩ :=
      ih (fun seen member => reachable seen (List.mem_append_left _ member)) (by omega)
    obtain ⟨left, moved⟩ := Option.isSome_iff_exists.1 (reachable now (by simp))
    have resolved : l.bounds now {} = .ok (.ok (left, now)) :=
      (AllowOptions.windowBounds_trailing rfl).2 ⟨length ▸ moved, rfl⟩
    have forward : left ≤ now := by
      rw [Instant.eq_of_shift? moved, Instant.le_def]
      dsimp only
      omega
    obtain ⟨l', passed, answered, same, grown⟩ :=
      exists_allow_eq_ok (n := 1) resolved forward (by omega)
    refine ⟨l', h.note now 1 {} (.ok passed), ?_, same.trans length, grown.trans (by omega)⟩
    rw [requests_concat, run_concat, ran]
    simp [Except.bind, act, answered, Except.map]

/-- What is known of every run of callers. -/
structure Crowded (c : Config) (left right : Instant) (turns : List Turn) (h : History) :
    Prop where
  notes : Notes c (Callers.after turns).served h
  overtaken : unitsWithin h.accepted left right ≤ c.limit + (Callers.after turns).overtaken
  bounded : Bounded c left right (readings turns) (Callers.after turns) h

/-- A window is bounded after every sequence of turns. -/
theorem crowded_of_run {c : Config} (valid : c.validate = .ok ()) {turns : List Turn}
    (ordered : (readings turns).Pairwise (· ≤ ·)) {s : SlidingLog × History}
    (ran : run c (requests (Callers.after turns).served) = .ok s) {left right : Instant}
    (short : right.nanos ≤ left.nanos + c.window.nanos) : Crowded c left right turns s.2 := by
  induction turns using List.reverseRecOn generalizing s with
  | nil =>
    cases ran
    exact ⟨⟨rfl, rfl, by simp [History.start], by simp [History.start]⟩, Nat.zero_le _,
      .start valid⟩
  | append_singleton turns t ih =>
    have known : ∀ now, now ∈ (Callers.after turns).waiting ∨ now ∈ (Callers.after turns).served →
        now ∈ readings turns := fun now => Callers.mem_readings
    have few := Callers.length_waiting_le_peak turns
    rw [readings, List.filterMap_append, List.pairwise_append] at ordered
    rw [Callers.after_concat] at ran
    cases t with
    | read now =>
      -- Nothing is served.
      have before := ih ordered.1 ran
      refine ⟨?_, ?_, ?_⟩
      · rw [Callers.after_concat]
        exact before.notes
      · rw [Callers.after_concat]
        exact before.overtaken
      · rw [Callers.after_concat, readings, List.filterMap_append]
        exact before.bounded.read before.notes (fun now served => known now (.inr served)) few
          fun earlier member => ordered.2.2 earlier member now (by simp [Turn.reading?])
    | serve place =>
      have same : readings (turns ++ [.serve place]) = readings turns := by
        simp [readings, Turn.reading?]
      rcases (Callers.after turns).next_serve place with idle | ⟨now, found, done⟩
      · rw [idle] at ran
        have before := ih ordered.1 ran
        refine ⟨?_, ?_, ?_⟩
        all_goals rw [Callers.after_concat, idle]
        · exact before.notes
        · exact before.overtaken
        · exact same ▸ before.bounded
      · rw [done, requests_concat] at ran
        obtain ⟨⟨l, h⟩, reached, acted⟩ := exists_of_run_concat ran
        have before := ih ordered.1 reached
        have r := remembers_of_run valid reached
        obtain ⟨l', outcome, answered, rfl⟩ := exists_of_act_allow acted
        obtain ⟨notes, passed, grown, room⟩ := before.notes.serve r answered
        refine ⟨?_, ?_, ?_⟩
        all_goals rw [Callers.after_concat, done]
        · exact notes
        · exact before.notes.unitsWithin_le_of_serve r short before.overtaken grown room
        · exact same ▸ before.bounded.serve r before.notes known few short found grown room _

/-- **What a window holds under callers in flight.** Callers read a clock that does not go back, and
their requests of one unit are served in any order. Then all of them are answered, and every closed
window of the log's length holds no more accepted requests than the limit and those that were
overtaken, and no more than the limit and twice the number of other callers in flight at a time. -/
theorem length_within_le_of_callers {c : Config} (valid : c.validate = .ok ()) {turns : List Turn}
    (ordered : (readings turns).Pairwise (· ≤ ·))
    (reachable : ∀ now ∈ readings turns, (now.shift? (-c.window.nanos)).isSome)
    (few : (Callers.after turns).served.length < 2 ^ 64) :
    ∃ l h, run c (requests (Callers.after turns).served) = .ok (l, h) ∧
      ∀ left right : Instant, right.nanos = left.nanos + c.window.nanos →
        (within h.accepted left right).length ≤ c.limit + (Callers.after turns).overtaken ∧
        (within h.accepted left right).length ≤
          c.limit + 2 * ((Callers.after turns).peak - 1) := by
  obtain ⟨l, h, ran, -⟩ := exists_run_requests
    (fun now served => reachable now (Callers.mem_readings (.inr served))) few
  refine ⟨l, h, ran, fun left right long => ?_⟩
  obtain ⟨notes, overtaken, bounded⟩ : Crowded c left right turns h :=
    crowded_of_run valid ordered ran (Int.le_of_eq long)
  have counted : unitsWithin h.accepted left right = (within h.accepted left right).length :=
    unitsWithin_eq_length (fun e member => (notes.accepted e member).2) left right
  rw [← counted]
  refine ⟨overtaken, ?_⟩
  by_cases past : ∃ now ∈ readings turns, right < now
  · exact (Nat.le_add_right _ _).trans (bounded.late past)
  · have young : ∀ now ∈ readings turns, now ≤ right := fun now member =>
      Int.not_lt.1 fun beyond => past ⟨now, member, beyond⟩
    rcases bounded.early young with room | crowd <;> omega

/-- Of four callers, no more than two in flight at a time, three pass within five seconds, although
the limit is one: the second one overtakes the first, and the last one, which makes the log forget
the window, the third. -/
theorem length_within_of_four_callers :
    ∃ l h, run ⟨1, .ofSeconds 5, none⟩ (requests [⟨6000000000⟩, ⟨5000000000⟩, ⟨13000000000⟩,
        ⟨7000000000⟩]) = .ok (l, h) ∧
      (within h.accepted ⟨5000000000⟩ ⟨10000000000⟩).length = 3 ∧
      (within h.accepted ⟨5000000000⟩ ⟨10000000000⟩).length ≤ 1 + 2 * (2 - 1) := by
  obtain ⟨l, h, ran, bounds⟩ := @length_within_le_of_callers ⟨1, .ofSeconds 5, none⟩ rfl
    [.read ⟨5000000000⟩, .read ⟨6000000000⟩, .serve 1, .serve 0, .read ⟨7000000000⟩,
      .read ⟨13000000000⟩, .serve 1, .serve 0] (by decide) (by decide) (by decide)
  cases ran
  exact ⟨_, _, rfl, by decide, (bounds _ _ rfl).2⟩

/-- Two callers both pass within five seconds, although the limit is one: the second one is served
first, and the first one does not look at the later reading. -/
theorem overtaken_caller_passes :
    (readings [.read ⟨5000000000⟩, .read ⟨10000000000⟩, .serve 1, .serve 0]).Pairwise (· ≤ ·) ∧
    ∃ l h, run ⟨1, .ofSeconds 5, none⟩ (requests (Callers.after
        [.read ⟨5000000000⟩, .read ⟨10000000000⟩, .serve 1, .serve 0]).served) = .ok (l, h) ∧
      ¬(within h.accepted ⟨5000000000⟩ ⟨10000000000⟩).length ≤ 1 :=
  ⟨by decide, _, _, rfl, by decide⟩

end SlidingLog

end Throttle
