import Throttle.Proofs.Bucket.Calls
import Throttle.Proofs.Bucket.Resizing

/-!
# Changes of a limiter's capacities

A new rate brings a bucket up to date first, a new capacity does not. So two runs of a limiter are
compared: in one of them the bucket of a key is brought up to date before it gets a new capacity.
Until the next call that brings the bucket up to date, the two buckets differ; if they are then
alike, the runs go on alike for good.

## Main definitions

* `Limiter.settle`: a limiter with the bucket of a key brought up to date
* `Limiter.ForwardOnly`: a new capacity makes no difference to what was gained or drained before it
* `capacities`: the capacities that calls give to a bucket before one of them brings it up to date

## Main results

* `Scheme.Buckets.effect_cases`: a call brings a bucket up to date, or gives it a capacity, or does
  nothing
* `Keyed.outcomes_eq`: buckets that will be alike when they are brought up to date answer alike
* `Limiter.setRate_rateOf`: to bring a bucket up to date is to give it the rate that is in force
* `Limiter.drive_settle_eq_iff`: a new capacity is forward-only exactly where the bucket says so
-/

namespace Throttle

/-- Whether a call brings the bucket of a key up to date: a request, or a rate that passes. -/
def Call.settles (key : String) : Call ℚ → Bool
  | allow key' _ => key' = key
  | check r _ => r.name = key
  | take key' _ => key' = key
  | setRate key' rate => key' = key ∧ 0 < rate
  | setLimitFor r => r.name = key ∧ 0 < r.limit
  | _ => false

/-- The capacity that a call gives to the bucket of a key. -/
def Call.capacity? (key : String) : Call ℚ → Option ℕ
  | setBurst key' v => if key' = key ∧ 0 < v then some v else none
  | setBurstFor r => if r.name = key ∧ 0 < r.burst then some r.burst else none
  | _ => none

/-- The capacities that calls give to the bucket of a key before one of them brings it up to
date. -/
def capacities (key : String) : List (Instant × Call ℚ) → List ℕ
  | [] => []
  | (_, call) :: rest =>
    if call.settles key then [] else (call.capacity? key).toList ++ capacities key rest

/-- A call about another key neither brings a bucket up to date nor gives it a capacity. -/
theorem Call.settles_of_ne {key : String} {call : Call ℚ} (other : call.key ≠ key) :
    call.settles key = false ∧ call.capacity? key = none := by
  cases call <;> simp_all [settles, capacity?, Call.key]

namespace Scheme.Buckets

variable {P S : Type} {scheme : Scheme P S ℚ} (B : scheme.Buckets)

/-- A setter whose check is that of a condition. -/
theorem setter_cases {check : Except LimiterError Unit} (f : S → S) {p : Prop}
    (passes : check = .ok () ↔ p) :
    (p ∧ effect.setter check f = .inr fun b => (f b, none)) ∨
      (¬p ∧ ∃ outcome, effect.setter check f = .inl outcome) := by
  cases check with
  | ok u => exact .inl ⟨passes.1 rfl, rfl⟩
  | error e => exact .inr ⟨fun holds => (nomatch passes.2 holds), _, rfl⟩

/-- **What a call does to the bucket of its key**: it brings the bucket up to date, or gives it a
capacity, or does nothing. -/
theorem effect_cases (now : Instant) (call : Call ℚ) :
    (call.settles call.key = true ∧
      ∃ f : S → S × Option Bool, B.effect now call = .inr fun b => f (B.settle b now)) ∨
    (call.settles call.key = false ∧ ∃ v, call.capacity? call.key = some v ∧ 0 < v ∧
      B.effect now call = .inr fun b => (B.setCapacity b v, none)) ∨
    (call.settles call.key = false ∧ call.capacity? call.key = none ∧
      ∃ outcome, B.effect now call = .inl outcome) := by
  cases call with
  | allow key o => exact .inl ⟨decide_eq_true rfl, B.answer o.weight, rfl⟩
  | check r count =>
    exact .inl ⟨decide_eq_true rfl, B.answer (AllowOptions.ofCount count).weight, rfl⟩
  | take key n => exact .inl ⟨decide_eq_true rfl, B.answer n, rfl⟩
  | setRate key rate =>
    rcases setter_cases (B.setRate now rate) Exact.checkRate_eq_ok_iff with
      ⟨positive, sets⟩ | ⟨refused, fails⟩
    · exact .inl ⟨decide_eq_true ⟨rfl, positive⟩, fun b => (B.withRate b rate, none), sets⟩
    · exact .inr (.inr ⟨decide_eq_false fun both => refused both.2, rfl, fails⟩)
  | setLimitFor r =>
    rcases setter_cases (B.setRate now (r.limit : ℚ)) Exact.checkRate_eq_ok_iff with
      ⟨positive, sets⟩ | ⟨refused, fails⟩
    · exact .inl ⟨decide_eq_true ⟨rfl, Nat.cast_pos.1 positive⟩,
        fun b => (B.withRate b (r.limit : ℚ), none), sets⟩
    · exact .inr (.inr ⟨decide_eq_false fun both => refused (Nat.cast_pos.2 both.2), rfl, fails⟩)
  | setBurst key v =>
    rcases setter_cases (fun b => B.setCapacity b v) checkPositive_eq_ok_iff with
      ⟨positive, sets⟩ | ⟨refused, fails⟩
    · exact .inr (.inl ⟨rfl, v, if_pos ⟨rfl, positive⟩, positive, sets⟩)
    · exact .inr (.inr ⟨rfl, if_neg fun both => refused both.2, fails⟩)
  | setBurstFor r =>
    rcases setter_cases (fun b => B.setCapacity b r.burst) checkPositive_eq_ok_iff with
      ⟨positive, sets⟩ | ⟨refused, fails⟩
    · exact .inr (.inl ⟨rfl, r.burst, if_pos ⟨rfl, positive⟩, positive, sets⟩)
    · exact .inr (.inr ⟨rfl, if_neg fun both => refused both.2, fails⟩)
  | shouldAllow | setLimit | setWindow | setFixedWindow | setWindowFor =>
    exact .inr (.inr ⟨rfl, rfl, _, rfl⟩)

/-- What is known of the buckets of a kind: what holds of them after calls at some instants, and
where changes of the capacity are forward-only. -/
structure Laws (Sane : Set Instant → S → Prop) (ForwardOnly : S → Instant → ℕ → List ℕ → Prop) :
    Prop where
  start : ∀ {past c}, scheme.validate c = .ok () → Sane past (scheme.start c)
  take : ∀ {past b now} n, Sane past b → now ∈ past → Sane past (B.take (B.settle b now) n).1
  setRate : ∀ {past b now rate}, Sane past b → now ∈ past → 0 < rate →
    Sane past (B.setRate now rate b)
  setCapacity : ∀ {past b} v, Sane past b → Sane past (B.setCapacity b v)
  settle_resize : ∀ {past b now v vs t}, Sane past b → (∀ e ∈ past, e ≤ now) → now ≤ t →
    (∀ e ∈ past, t.nanos - e.nanos < 2 ^ 63) → 0 < leastCapacity v vs → ForwardOnly b now v vs →
    B.settle (B.resize b (v :: vs)) t = B.settle (B.resize (B.settle b now) (v :: vs)) t
  exists_told_apart : ∀ {past b now v vs}, Sane past b → (∀ e ∈ past, e ≤ now) →
    (∀ e ∈ past, now.nanos - e.nanos < 2 ^ 63) → 0 < leastCapacity v vs → ¬ForwardOnly b now v vs →
    ∃ t, (t = now ∨ t = now.next) ∧ ∃ rate : ℚ, 0 < rate ∧ ∃ n,
      (B.take (B.settle (B.setRate t rate (B.resize b (v :: vs))) t.next) n).2 ≠
        (B.take (B.settle (B.setRate t rate (B.resize (B.settle b now) (v :: vs))) t.next) n).2

variable {B} in
/-- What holds of buckets after calls at some instants holds after one more of them. -/
theorem Laws.effect {Sane : Set Instant → S → Prop}
    {ForwardOnly : S → Instant → ℕ → List ℕ → Prop} (laws : B.Laws Sane ForwardOnly)
    {past : Set Instant} {now : Instant} (member : now ∈ past) {call : Call ℚ}
    {f : S → S × Option Bool} (does : B.effect now call = .inr f) {b : S} (sane : Sane past b) :
    Sane past (f b).1 := by
  -- A setter that passes its check applies.
  have setter : ∀ {check : Except LimiterError Unit} {g : S → S}, effect.setter check g = .inr f →
      check = .ok () ∧ (f b).1 = g b := by
    intro check g sets
    cases check with
    | ok u =>
      cases sets
      exact ⟨rfl, rfl⟩
    | error e => cases sets
  cases call with
  | allow key o =>
    cases does
    exact laws.take _ sane member
  | check r count =>
    cases does
    exact laws.take _ sane member
  | take key n =>
    cases does
    exact laws.take _ sane member
  | setRate key rate =>
    obtain ⟨passes, same⟩ := setter does
    rw [same]
    exact laws.setRate sane member (Exact.checkRate_eq_ok_iff.1 passes)
  | setLimitFor r =>
    obtain ⟨passes, same⟩ := setter does
    rw [same]
    exact laws.setRate sane member (Exact.checkRate_eq_ok_iff.1 passes)
  | setBurst key v =>
    obtain ⟨-, same⟩ := setter does
    rw [same]
    exact laws.setCapacity v sane
  | setBurstFor r =>
    obtain ⟨-, same⟩ := setter does
    rw [same]
    exact laws.setCapacity r.burst sane
  | shouldAllow | setLimit | setWindow | setFixedWindow | setWindowFor => cases does

end Scheme.Buckets

theorem TokenBucket.laws : buckets.Laws Sane ForwardOnly where
  start valid := Sane.full valid _
  take n sane member := sane.allow member n
  setRate sane member positive := sane.setRate member positive
  setCapacity v sane := sane.setCapacity v
  settle_resize sane order later close _ forward := refill_resize sane order forward later close
  exists_told_apart sane order close _ backward :=
    TokenBucket.exists_told_apart sane order close backward

theorem LeakyBucket.laws : buckets.Laws Sane ForwardOnly where
  start valid := Sane.new valid _
  take n sane member := sane.allow member n
  setRate sane member positive := sane.setRate member positive
  setCapacity v sane := sane.setVolume v
  settle_resize sane order later close positive forward :=
    drain_resize sane order positive forward later close
  exists_told_apart sane order close positive backward :=
    ⟨_, .inl rfl, LeakyBucket.exists_told_apart sane order close positive backward⟩

/-! ## Runs that differ in one bucket -/

namespace Keyed

variable {P S : Type} {scheme : Scheme P S ℚ} {B : scheme.Buckets} {k k' : Keyed scheme}
  {keys : Set String} {key : String} {b b' : S} {now : Instant} {c : Call ℚ}

/-- **Buckets that will be alike answer alike.** If two buckets are alike when they are brought up
to date after the capacities that they get until then, all calls have the same outcomes. -/
theorem outcomes_eq (B : scheme.Buckets) (agree : k.AgreeOn {key}ᶜ k')
    (held : k.get? key = some b) (held' : k'.get? key = some b') {later : List (Instant × Call ℚ)}
    (alike : ∀ c ∈ later, B.settle (B.resize b (capacities key later)) c.1 =
      B.settle (B.resize b' (capacities key later)) c.1) :
    (k.calls B later).2 = (k'.calls B later).2 := by
  -- The two limiters differ in the bucket of the key, until it is brought up to date.
  induction later generalizing k k' b b' with
  | nil => rfl
  | cons head rest ih =>
    obtain ⟨now, c⟩ := head
    rw [calls, calls]
    by_cases own : c.key = key
    · subst own
      rcases B.effect_cases now c with
        ⟨settles, f, does⟩ | ⟨stale, v, gives, -, does⟩ | ⟨stale, nothing, outcome, does⟩
      · have settled : B.settle b now = B.settle b' now := by
          have := alike (now, c) (by simp)
          rwa [capacities, if_pos settles] at this
        rw [call_of_held B now held, call_of_held B now held', does]
        dsimp only
        rw [settled, (agree.put_univ _).calls]
      · rw [call_of_held B now held, call_of_held B now held', does]
        dsimp only
        have apart := (agreeOn_put k c.key (B.setCapacity b v)).symm.trans
          (agree.trans (agreeOn_put k' c.key (B.setCapacity b' v)))
        refine congrArg₂ List.cons rfl (ih apart (get?_put_self ..) (get?_put_self ..)
          fun later member => ?_)
        have := alike later (List.mem_cons_of_mem _ member)
        rwa [capacities, stale, gives] at this
      · rw [call_of_held B now held, call_of_held B now held', does]
        refine congrArg₂ List.cons rfl (ih agree held held' fun later member => ?_)
        have := alike later (List.mem_cons_of_mem _ member)
        rwa [capacities, stale, nothing] at this
    · obtain ⟨stale, nothing⟩ := c.settles_of_ne own
      obtain ⟨same, agree⟩ := agree.call B now (c := c) own
      refine congrArg₂ List.cons same (ih agree ((get?_call_of_ne B k now own).trans held)
        ((get?_call_of_ne B k' now own).trans held') fun later member => ?_)
      have := alike later (List.mem_cons_of_mem _ member)
      rwa [capacities, stale, nothing] at this

/-! ## Runs that tell two buckets apart -/

/-- Capacities that are given to the bucket of a key at one instant. -/
def resizing (now : Instant) (key : String) (vs : List ℕ) : List (Instant × Call ℚ) :=
  vs.map fun v => (now, .setBurst key v)

/-- The outcomes of changes of a capacity, and of the calls after them. -/
theorem calls_resizing (held : k.get? key = some b) {vs : List ℕ} (positive : ∀ v ∈ vs, 0 < v)
    (rest : List (Instant × Call ℚ)) :
    (k.calls B (resizing now key vs ++ rest)).2 =
      vs.map (fun _ => .ok none) ++ ((k.put key (B.resize b vs)).calls B rest).2 := by
  induction vs generalizing k b with
  | nil =>
    rw [Scheme.Buckets.resize, List.foldl_nil, put_self held]
    rfl
  | cons v vs ih =>
    have first := call_setBurst B k now key (positive v (by simp))
    rw [state_of_held held] at first
    have others := ih (get?_put_self k key (B.setCapacity b v)) fun w member =>
      positive w (List.mem_cons_of_mem v member)
    rw [put_put] at others
    simp only [resizing, List.map_cons, List.cons_append, calls, first]
    exact congrArg _ others

/-- Capacities that are given to the bucket of a key at one instant, then a new rate, and a request
a nanosecond later. -/
def probing (now : Instant) (key : String) (vs : List ℕ) (t : Instant) (rate : ℚ) (n : ℕ) :
    List (Instant × Call ℚ) :=
  resizing now key vs ++ [(t, .setRate key rate), (t.next, .take key n)]

/-- The outcomes of these calls. -/
theorem calls_probing (held : k.get? key = some b) {vs : List ℕ} (positive : ∀ v ∈ vs, 0 < v)
    {t : Instant} {rate : ℚ} (faster : 0 < rate) (n : ℕ) :
    (k.calls B (probing now key vs t rate n)).2 =
      vs.map (fun _ => .ok none) ++ [.ok none,
        .ok (some (B.take (B.settle (B.setRate t rate (B.resize b vs)) t.next) n).2)] := by
  have first := call_setRate B (k.put key (B.resize b vs)) t key faster
  rw [state_of_held (get?_put_self ..)] at first
  have second := call_of_held (c := .take key n) B t.next
    (get?_put_self (k.put key (B.resize b vs)) key (B.setRate t rate (B.resize b vs)))
  rw [probing, calls_resizing held positive]
  simp only [calls, first, second]
  rfl

/-- The capacities are those that the bucket gets before it is brought up to date. -/
theorem capacities_probing {vs : List ℕ} (positive : ∀ v ∈ vs, 0 < v) {t : Instant} {rate : ℚ}
    (faster : 0 < rate) {n : ℕ} : capacities key (probing now key vs t rate n) = vs := by
  induction vs with
  | nil => exact if_pos (decide_eq_true ⟨rfl, faster⟩)
  | cons v vs ih =>
    have others := ih fun w member => positive w (List.mem_cons_of_mem v member)
    have gives : (Call.setBurst key v : Call ℚ).capacity? key = some v :=
      if_pos ⟨rfl, positive v (by simp)⟩
    rw [probing, resizing, List.map_cons, List.cons_append, capacities, gives]
    exact congrArg (v :: ·) others

end Keyed

namespace Limiter

/-! ## Forward-only changes -/

/-- New limiters of buckets. -/
inductive NewBuckets : Limiter ℚ → Prop where
  | token {c : TokenBucket.Config ℚ} {k : Keyed (TokenBucket.scheme ℚ)}
    (made : Keyed.create? (TokenBucket.scheme ℚ) c = .ok k) : NewBuckets (tokenBucket k)
  | leaky {c : LeakyBucket.Config ℚ} {k : Keyed (LeakyBucket.scheme ℚ)}
    (made : Keyed.create? (LeakyBucket.scheme ℚ) c = .ok k) : NewBuckets (leakyBucket k)

/-- The limiter with the bucket of a key brought up to date. -/
def settle (l : Limiter ℚ) (now : Instant) (key : String) : Limiter ℚ :=
  match l with
  | tokenBucket k => tokenBucket (k.put key ((k.state key).refill now))
  | leakyBucket k => leakyBucket (k.put key ((k.state key).drain now))
  | l => l

/-- The capacity `v` of a key at `now`, followed by the capacities `vs` before its bucket is brought
up to date, makes no difference to what the bucket has gained or drained before `now`. -/
def ForwardOnly (l : Limiter ℚ) (now : Instant) (key : String) (v : ℕ) (vs : List ℕ) : Prop :=
  match l with
  | tokenBucket k => (k.state key).ForwardOnly now v vs
  | leakyBucket k => (k.state key).ForwardOnly now v vs
  | _ => True

instance (l : Limiter ℚ) (now : Instant) (key : String) (v : ℕ) (vs : List ℕ) :
    Decidable (l.ForwardOnly now key v vs) :=
  match l with
  | tokenBucket k => inferInstanceAs (Decidable ((k.state key).ForwardOnly now v vs))
  | leakyBucket k => inferInstanceAs (Decidable ((k.state key).ForwardOnly now v vs))
  | slidingWindow _ | slidingLog _ | sharedLeakyBucket _ | sharedSlidingWindow _
  | sharedSlidingLog _ => inferInstanceAs (Decidable True)

/-- The rate that a limiter of buckets has in force for a key. -/
def rateOf (l : Limiter ℚ) (key : String) : ℚ :=
  match l with
  | tokenBucket k => (k.state key).rate
  | leakyBucket k => (k.state key).rate
  | _ => 0

/-- To bring a bucket up to date is to give it the rate that is in force. -/
theorem setRate_rateOf {l : Limiter ℚ} {key : String} (positive : 0 < l.rateOf key)
    (now : Instant) : l.setRate now key (l.rateOf key) = .ok (l.settle now key) := by
  have passes : checkRate (l.rateOf key) = .ok () := Exact.checkRate_eq_ok_iff.2 positive
  cases l with
  | tokenBucket k =>
    have same : (k.state key).setRate now (k.state key).rate = (k.state key).refill now := by
      rw [TokenBucket.setRate, ← TokenBucket.rate_refill (k.state key) now]
    rw [setRate, Keyed.setLimit, TokenBucket.buckets.setLimit_eq, Keyed.change_when, passes]
    exact congrArg (fun b => Except.ok (tokenBucket (k.put key b))) same
  | leakyBucket k =>
    have same : (k.state key).setRate now (k.state key).rate = (k.state key).drain now := by
      rw [LeakyBucket.setRate, ← LeakyBucket.rate_drain (k.state key) now]
    rw [setRate, Keyed.setLimit, LeakyBucket.buckets.setLimit_eq, Keyed.change_when, passes]
    exact congrArg (fun b => Except.ok (leakyBucket (k.put key b))) same
  | _ => exact absurd positive (lt_irrefl 0)

/-- Calls that go on after earlier ones, not before `now`, and not later than 63 bits can count. -/
structure Continues (history : List (Instant × Call ℚ)) (now : Instant)
    (later : List (Instant × Call ℚ)) : Prop where
  ordered : (now :: later.map Prod.fst).Pairwise (· ≤ ·)
  readable : ∀ c ∈ later, c.1.Representable
  close : ∀ c ∈ later, ∀ e ∈ history, c.1.nanos - e.1.nanos < 2 ^ 63

section Run

variable {P S : Type} {scheme : Scheme P S ℚ} {B : scheme.Buckets}
  {wrap : Keyed scheme → Limiter ℚ}
  (steps : ∀ k (store : Store) now call,
    step (Store.context ℚ now) (wrap k, store) call = .ok (wrapped B wrap k store now call))

variable {Sane : Set Instant → S → Prop} {Forward : S → Instant → ℕ → List ℕ → Prop}
  {history : List (Instant × Call ℚ)} {now : Instant} {key : String} {v : ℕ} {vs : List ℕ}

include steps in
/-- The outcomes of a new capacity and of the calls after it. -/
theorem outcomes_setBurst (positive : 0 < v) (k : Keyed scheme) (store : Store)
    (later : List (Instant × Call ℚ)) :
    (drive (wrap k, store) ((now, .setBurst key v) :: later)).map Prod.snd =
      .ok (.ok none :: ((k.put key (B.setCapacity (k.state key) v)).calls B later).2) := by
  rw [drive_wrap steps, Keyed.calls, Keyed.call_setBurst B k now key positive]
  rfl

/-- The calls that tell two buckets apart go on after the earlier ones. -/
theorem continues_probing {t : Instant} {rate : ℚ} {n : ℕ} (soon : t = now ∨ t = now.next)
    (readable : now.Representable) (room : now.next.next.Representable)
    (close : ∀ e ∈ history, now.next.next.nanos - e.1.nanos < 2 ^ 63) :
    Continues history now (Keyed.probing now key vs t rate n) := by
  have times : (Keyed.probing now key vs t rate n).map Prod.fst =
      List.replicate vs.length now ++ [t, t.next] := by
    simp [Keyed.probing, Keyed.resizing, Function.comp_def, List.map_const']
  -- All of them are made within two nanoseconds.
  have within : ∀ u ∈ List.replicate vs.length now ++ [t, t.next],
      now ≤ u ∧ u ≤ now.next.next := by
    intro u member
    simp only [List.mem_append, List.mem_replicate, List.mem_cons, List.not_mem_nil, or_false]
      at member
    simp only [Instant.le_def]
    rcases member with ⟨-, rfl⟩ | rfl | rfl <;> rcases soon with rfl | rfl <;>
      simp only [Instant.next] <;> omega
  have reach : ∀ c ∈ Keyed.probing now key vs t rate n, now ≤ c.1 ∧ c.1 ≤ now.next.next :=
    fun c member =>
    within c.1 (times ▸ List.mem_map_of_mem member)
  refine ⟨?_, fun c member => ?_, fun c member e found => ?_⟩
  · rw [times, List.pairwise_cons, List.pairwise_append]
    refine ⟨fun u member => (within u member).1, List.pairwise_replicate.2 (.inr (Int.le_refl _)),
      ?_, ?_⟩
    · simp [t.le_next]
    · intro u member w last
      rw [List.eq_of_mem_replicate member]
      exact (within w (List.mem_append_right _ last)).1
  · obtain ⟨after, before⟩ := reach c member
    exact ⟨Int.le_trans readable.1 after, Int.le_trans before room.2⟩
  · have before := (reach c member).2
    have near := close e found
    rw [Instant.le_def] at before
    omega

/-- **A new capacity is forward-only** exactly where the buckets of a kind say so. -/
theorem settle_eq_iff (laws : B.Laws Sane Forward) {k : Keyed scheme}
    (sane : Sane {t | ∃ e ∈ history, e.1 = t} (k.state key)) (latest : ∀ e ∈ history, e.1 ≤ now)
    (readable : now.Representable) (room : now.next.next.Representable)
    (close : ∀ e ∈ history, now.next.next.nanos - e.1.nanos < 2 ^ 63)
    (positive : 0 < v) (all : ∀ w ∈ vs, 0 < w) :
    Forward (k.state key) now v vs ↔
      ∀ later, Continues history now later → capacities key later = vs →
        ((k.put key (B.setCapacity (k.state key) v)).calls B later).2 =
          ((k.put key (B.setCapacity (B.settle (k.state key) now) v)).calls B later).2 := by
  set b := k.state key
  have least : 0 < leastCapacity v vs := leastCapacity_pos positive all
  have order : ∀ t ∈ {t | ∃ e ∈ history, e.1 = t}, t ≤ now := by
    rintro _ ⟨e, member, rfl⟩
    exact latest e member
  constructor
  · intro forward later continues same
    have agree := (Keyed.agreeOn_put k key (B.setCapacity b v)).symm.trans
      (Keyed.agreeOn_put k key (B.setCapacity (B.settle b now) v))
    refine Keyed.outcomes_eq B agree (Keyed.get?_put_self ..) (Keyed.get?_put_self ..) ?_
    intro c member
    rw [same]
    refine laws.settle_resize sane order ?_ ?_ least forward
    · exact List.rel_of_pairwise_cons continues.ordered (List.mem_map_of_mem member)
    · rintro _ ⟨e, found, rfl⟩
      exact continues.close c member e found
  · intro alike
    by_contra backward
    have near : ∀ t ∈ {t | ∃ e ∈ history, e.1 = t}, now.nanos - t.nanos < 2 ^ 63 := by
      rintro _ ⟨e, member, rfl⟩
      have := close e member
      simp only [Instant.next] at this
      omega
    obtain ⟨t, soon, rate, faster, n, apart⟩ :=
      laws.exists_told_apart sane order near least backward
    have probe := alike _ (continues_probing (n := n) soon readable room close)
      (Keyed.capacities_probing all faster)
    rw [Keyed.calls_probing (Keyed.get?_put_self ..) all faster,
      Keyed.calls_probing (Keyed.get?_put_self ..) all faster] at probe
    have same := List.append_cancel_left probe
    simp only [List.cons.injEq, Except.ok.injEq, Option.some.injEq, and_true, true_and] at same
    exact apart same

include steps in
/-- What a history of calls leaves, and where a new capacity is then forward-only. -/
theorem outcomes_settle_iff (laws : B.Laws Sane Forward) {k₀ : Keyed scheme}
    (new : ∀ key, k₀.get? key = none) {l : Limiter ℚ} {store₀ store : Store}
    {outcomes : List Outcome}
    (reached : drive (wrap k₀, store₀) history = .ok ((l, store), outcomes))
    (latest : ∀ e ∈ history, e.1 ≤ now) (readable : now.Representable)
    (room : now.next.next.Representable)
    (close : ∀ e ∈ history, now.next.next.nanos - e.1.nanos < 2 ^ 63)
    (positive : 0 < v) (all : ∀ w ∈ vs, 0 < w) :
    ∃ k, l = wrap k ∧
      (Forward (k.state key) now v vs ↔
        ∀ later, Continues history now later → capacities key later = vs →
          (drive (wrap k, store) ((now, .setBurst key v) :: later)).map Prod.snd =
            (drive (wrap (k.put key (B.settle (k.state key) now)), store)
              ((now, .setBurst key v) :: later)).map Prod.snd) := by
  rw [drive_wrap steps] at reached
  cases reached
  refine ⟨(k₀.calls B history).1, rfl, ?_⟩
  have keeps : ∀ c ∈ history, ∀ f, B.effect c.1 c.2 = .inr f → ∀ b,
      Sane {t | ∃ e ∈ history, e.1 = t} b → Sane {t | ∃ e ∈ history, e.1 = t} (f b).1 := by
    intro c member f does b sane
    have seen : c.1 ∈ {t | ∃ e ∈ history, e.1 = t} := ⟨c, member, rfl⟩
    exact laws.effect seen does sane
  have held := Keyed.holds_calls B (fun _ valid => laws.start valid) keeps fun key b held => by
    rw [new] at held
    cases held
  have sane := Keyed.state_holds (fun _ valid => laws.start valid) held key
  rw [settle_eq_iff laws sane latest readable room close positive all]
  simp only [outcomes_setBurst steps positive, Keyed.state_put, if_true, Keyed.put_put,
    Except.ok.injEq, List.cons.injEq, true_and]

end Run

/-- **A new capacity is forward-only** if and only if, with the capacities that follow before the
bucket is brought up to date, it makes no difference to what the bucket has gained or drained
before: then all later calls have the outcomes that they would have if the bucket had been brought
up to date first, and otherwise some later calls have others. -/
theorem drive_settle_eq_iff {l₀ l : Limiter ℚ} (new : l₀.NewBuckets) {store₀ store : Store}
    {history : List (Instant × Call ℚ)} {outcomes : List Outcome}
    (reached : drive (l₀, store₀) history = .ok ((l, store), outcomes)) {now : Instant}
    (latest : ∀ e ∈ history, e.1 ≤ now) (readable : now.Representable)
    (room : now.next.next.Representable)
    (close : ∀ e ∈ history, now.next.next.nanos - e.1.nanos < 2 ^ 63) (key : String) {v : ℕ}
    (positive : 0 < v) {vs : List ℕ} (all : ∀ w ∈ vs, 0 < w) :
    l.ForwardOnly now key v vs ↔
      ∀ later, Continues history now later → capacities key later = vs →
        (drive (l, store) ((now, .setBurst key v) :: later)).map Prod.snd =
          (drive (l.settle now key, store) ((now, .setBurst key v) :: later)).map Prod.snd := by
  cases new with
  | token made =>
    obtain ⟨k, rfl, iff⟩ := outcomes_settle_iff (fun k store now => step_tokenBucket _ k store)
      TokenBucket.laws (Keyed.valid_of_create? made).2 reached latest readable room close positive
      all
    exact iff
  | leaky made =>
    obtain ⟨k, rfl, iff⟩ := outcomes_settle_iff (fun k store now => step_leakyBucket _ k store)
      LeakyBucket.laws (Keyed.valid_of_create? made).2 reached latest readable room close positive
      all
    exact iff

/-- Token buckets that gain one token per second and hold ten. -/
def tenTokens : Keyed (TokenBucket.scheme ℚ) := ⟨⟨1, 10⟩, by decide +kernel, ∅⟩

/-- Leaky buckets that drain one unit per second and hold ten. -/
def tenUnits : Keyed (LeakyBucket.scheme ℚ) := ⟨⟨1, 10⟩, by decide +kernel, ∅⟩

/-- A request of one token, and a hundred seconds in which the bucket stands full. If it may then
hold fifty tokens, some calls can tell that it has not been brought up to date before; if it may
hold five, none can. -/
theorem raised_shows_lowered_does_not :
    ∃ l store outcomes,
      drive (tokenBucket tenTokens, ∅) [(⟨0⟩, .take "k" 1)] = .ok ((l, store), outcomes) ∧
      (¬∀ later, Continues [(⟨0⟩, .take "k" 1)] ⟨100000000000⟩ later → capacities "k" later = [] →
        (drive (l, store) ((⟨100000000000⟩, .setBurst "k" 50) :: later)).map Prod.snd =
          (drive (l.settle ⟨100000000000⟩ "k", store)
            ((⟨100000000000⟩, .setBurst "k" 50) :: later)).map Prod.snd) ∧
      ∀ later, Continues [(⟨0⟩, .take "k" 1)] ⟨100000000000⟩ later → capacities "k" later = [] →
        (drive (l, store) ((⟨100000000000⟩, .setBurst "k" 5) :: later)).map Prod.snd =
          (drive (l.settle ⟨100000000000⟩ "k", store)
            ((⟨100000000000⟩, .setBurst "k" 5) :: later)).map Prod.snd := by
  have new : NewBuckets (tokenBucket tenTokens) := .token (c := ⟨1, 10⟩) (by rfl)
  have reached := drive_wrap (fun k store now => step_tokenBucket (Store.context ℚ now) k store)
    tenTokens ∅ [(⟨0⟩, .take "k" 1)]
  refine ⟨_, _, _, reached, ?_, ?_⟩
  · rw [← drive_settle_eq_iff new reached (by decide) (by decide) (by decide) (by decide) "k"
      (by decide) (by decide)]
    decide +kernel
  · rw [← drive_settle_eq_iff new reached (by decide) (by decide) (by decide) (by decide) "k"
      (by decide) (by decide)]
    decide +kernel

/-- So a request of fifty tokens passes that would not have passed if the bucket had been brought up
to date. A leaky bucket whose volume halves while it drains lets twice as much through as well. -/
theorem setBurst_lets_through :
    (∃ l store outcomes,
      drive (tokenBucket tenTokens, ∅) [(⟨0⟩, .take "k" 1)] = .ok ((l, store), outcomes) ∧
      (drive (l, store) [(⟨100000000000⟩, .setBurst "k" 50), (⟨100000000000⟩, .take "k" 50)]).map
        Prod.snd = .ok [.ok none, .ok (some true)] ∧
      (drive (l.settle ⟨100000000000⟩ "k", store)
        [(⟨100000000000⟩, .setBurst "k" 50), (⟨100000000000⟩, .take "k" 50)]).map Prod.snd =
          .ok [.ok none, .ok (some false)]) ∧
    ∃ l store outcomes,
      drive (leakyBucket tenUnits, ∅) [(⟨0⟩, .take "k" 10)] = .ok ((l, store), outcomes) ∧
      (drive (l, store) [(⟨5000000000⟩, .setBurst "k" 5), (⟨5000000000⟩, .take "k" 5)]).map
        Prod.snd = .ok [.ok none, .ok (some true)] ∧
      (drive (l.settle ⟨5000000000⟩ "k", store)
        [(⟨5000000000⟩, .setBurst "k" 5), (⟨5000000000⟩, .take "k" 5)]).map Prod.snd =
          .ok [.ok none, .ok (some false)] := by
  have tokens := drive_wrap fun k store now => step_tokenBucket (Store.context ℚ now) k store
  have units := drive_wrap fun k store now => step_leakyBucket (Store.context ℚ now) k store
  refine ⟨⟨_, _, _, tokens _ _ _, ?_, ?_⟩, _, _, _, units _ _ _, ?_, ?_⟩
  · rw [tokens]
    decide +kernel
  · rw [settle, tokens]
    decide +kernel
  · rw [units]
    decide +kernel
  · rw [settle, units]
    decide +kernel

end Limiter

end Throttle
