import Throttle.Proofs.Policy.Invariant
import Throttle.Proofs.Policy.Resources

/-!
# Checks that fault

The tests of a policy bound its window by the longest span of milliseconds, and its store's grace
not at all. A check then subtracts the window from the time, and adds the grace to it. The result of
either may not exist, and the check ends with a fault. It does so for the policies whose window
reaches back beyond the first instant, or whose keys would have to live too long, and for no
others; only the count of one log can be too large besides.

## Main definitions

* `Limiter.Reaches`, `PolicyConfig.Reaches`: the results exist that a check needs
* `Limiter.grace?`: the grace by which a limiter's keys outlive their windows

## Main results

* `SlidingLog.answers_allow_iff`, `SharedSlidingWindow.exists_request_iff`,
  `SharedSlidingLog.exists_request_iff`: the requests that are answered
* `PolicySet.keeps_grace`: no action changes the grace of a limiter
* `PolicySet.check_answers_iff`: the checks that are answered
-/

namespace Throttle

/-! ## Requests -/

theorem map_eq_error_iff {ε β γ : Type} {f : β → γ} {x : Except ε β} {e : ε} :
    x.map f = .error e ↔ x = .error e := by
  cases x <;> simp [Except.map]

/-- The window of some nanoseconds before an instant starts at an instant. -/
def Instant.HasWindow (now : Instant) (length : ℤ) : Prop := Representable ⟨now.nanos - length⟩

instance (now : Instant) (length : ℤ) : Decidable (now.HasWindow length) :=
  inferInstanceAs (Decidable (Instant.Representable _))

theorem Instant.shift?_neg (now : Instant) (length : ℤ) :
    now.shift? (-length) =
      if now.HasWindow length then some ⟨now.nanos - length⟩ else none := by
  rw [shift?, ← Int.sub_eq_add_neg]
  rfl

/-- A request of a log is answered if its window starts at an instant, unless a count is too
large. -/
theorem SlidingLog.answers_allow_iff {l : SlidingLog} {now : Instant} {n : ℕ} {o : AllowOptions}
    (trailing : o.fixedWindow = false) (nonneg : 0 ≤ l.length) :
    ((∃ x, l.allow now n o = .ok x) ∨ l.allow now n o = .error .countOutOfRange) ↔
      now.HasWindow l.length := by
  by_cases reaches : now.HasWindow l.length
  · have bounds : l.bounds now o = .ok (.ok (⟨now.nanos - l.length⟩, now)) := by
      rw [SlidingLog.bounds, AllowOptions.windowBounds, trailing, Instant.shift?_neg,
        if_pos reaches]
      rfl
    -- The window ends at the request, so that its boundaries are in order.
    have forward : ¬now < ⟨now.nanos - l.length⟩ :=
      Int.not_lt.2 (Int.sub_le_self _ nonneg)
    simp only [allow, bounds, forward, false_and, if_false]
    split
    · simp [reaches]
    · split
      · simp [reaches]
      · split <;> simp [reaches]
  · have bounds : l.bounds now o = .error .instantOutOfRange := by
      rw [SlidingLog.bounds, AllowOptions.windowBounds, trailing, Instant.shift?_neg,
        if_neg reaches]
      rfl
    simp [allow, bounds, reaches]

/-- A request of a shared window is answered if its window starts at an instant and the lifetime of
its key is a span. -/
theorem SharedSlidingWindow.exists_request_iff {σ : Type} {ctx : Context σ}
    (scheduled : ctx.scheduler = true) (l : SharedSlidingWindow) (state : σ) (key : String)
    {params : SlidingWindow.Config} (valid : params.validate = .ok ()) :
    (∃ x, request ctx l state key params = .ok x) ↔
      ctx.now.HasWindow params.window.nanos ∧
        params.window.nanos + l.grace.nanos ≤ Span.max.nanos := by
  have length : params.window.window? = .ok params.window.nanos :=
    Span.window?_eq_ok_iff.2 ⟨rfl, (SlidingWindow.Config.validate_eq_ok_iff.1 valid).2⟩
  simp only [request, length, Instant.shift?_neg, Context.eval_of_scheduler scheduled, Span.plus?]
  by_cases reaches : ctx.now.HasWindow params.window.nanos
  · by_cases lives : params.window.nanos + l.grace.nanos ≤ Span.max.nanos <;>
      simp [reaches, lives]
  · simp [reaches]

/-- So is a request of a shared log. -/
theorem SharedSlidingLog.exists_request_iff {σ : Type} {ctx : Context σ}
    (scheduled : ctx.scheduler = true) (l : SharedSlidingLog) (state : σ) (key : String)
    (params : SlidingLog.Config) {o : AllowOptions} (trailing : o.fixedWindow = false) :
    (∃ x, request ctx l state key params o = .ok x) ↔
      ctx.now.HasWindow params.window.nanos ∧
        params.window.nanos + l.grace.nanos ≤ Span.max.nanos := by
  simp only [request, AllowOptions.windowBounds, trailing, Instant.shift?_neg,
    Context.eval_of_scheduler scheduled, SharedSlidingLog.countedFor, Span.plus?]
  by_cases reaches : ctx.now.HasWindow params.window.nanos
  · by_cases lives : params.window.nanos + l.grace.nanos ≤ Span.max.nanos <;>
      simp [reaches, lives]
  · simp [reaches]

/-! ## Limiters -/

namespace Limiter

variable {α : Type} [Arithmetic α] {σ : Type}

/-- The results exist that a check of a resource needs at an instant: the start of its window, if
the algorithm looks for requests from then on, and the lifetime of its key, if it is renewed. -/
def Reaches (r : Resource) (now : Instant) : Limiter α → Prop
  | slidingLog _ => now.HasWindow r.window.nanos
  | sharedSlidingWindow ⟨_, _, _, grace⟩ | sharedSlidingLog ⟨_, _, _, grace⟩ =>
    now.HasWindow r.window.nanos ∧ r.window.nanos + grace.nanos ≤ Span.max.nanos
  | tokenBucket _ | leakyBucket _ | slidingWindow _ | sharedLeakyBucket _ => True

/-- **The checks of a limiter that are answered.** -/
theorem answers_check_iff {l : Limiter α} {r : Resource} (takes : l.Takes r)
    (shows : l.Shows r.name (l.parametersOf r)) {ctx : Context σ}
    (scheduled : ctx.scheduler = true) (state : σ) (count : ℕ) :
    ((∃ x, l.check ctx state r count = .ok x) ∨
        l.kind = (.slidingLog, .inProcess) ∧
          l.check ctx state r count = .error .countOutOfRange) ↔
      l.Reaches r ctx.now := by
  cases l with
  | tokenBucket k =>
    refine iff_of_true (.inl (exists_map_eq_ok_iff.2 ?_)) trivial
    rw [Keyed.check_of_valid ((TokenBucket.adopts r takes).valid _)]
    exact ⟨_, rfl⟩
  | leakyBucket k =>
    refine iff_of_true (.inl (exists_map_eq_ok_iff.2 ?_)) trivial
    rw [Keyed.check_of_valid ((LeakyBucket.adopts r takes).valid _)]
    exact ⟨_, rfl⟩
  | slidingWindow k =>
    refine iff_of_true (.inl (exists_map_eq_ok_iff.2 ?_)) trivial
    rw [Keyed.check_of_valid ((SlidingWindow.adopts α r takes).valid _)]
    exact ⟨_, rfl⟩
  | slidingLog k =>
    have adopts := SlidingLog.adopts α r takes
    obtain ⟨-, length⟩ := Parameters.window.inj
      (Keyed.view_stateFor (k := k) (adopts.start _) shows)
    have answers := @SlidingLog.answers_allow_iff (k.stateFor r) ctx.now
      (AllowOptions.ofCount count).weight (AllowOptions.ofCount count) rfl
      (length ▸ Int.natCast_nonneg _)
    rw [length] at answers
    simp only [Limiter.check, exists_map_eq_ok_iff, map_eq_error_iff, kind, true_and]
    rw [Keyed.check_of_valid (adopts.valid _), exists_map_eq_ok_iff, map_eq_error_iff]
    exact answers
  | sharedLeakyBucket s =>
    refine iff_of_true (.inl (exists_map_eq_ok_iff.2 ?_)) trivial
    rw [SharedLeakyBucket.check_of_valid ((LeakyBucket.adopts_shared r takes).valid _)]
    simp only [SharedLeakyBucket.pour, Context.eval_of_scheduler scheduled]
    exact ⟨_, rfl⟩
  | sharedSlidingWindow s =>
    have adopts := SlidingWindow.adopts_shared α r takes
    obtain ⟨limit, length⟩ := Parameters.window.inj
      (Keyed.view_stateFor (k := s.keyed) (adopts.start _) shows)
    have nanos : (s.keyed.stateFor r).window.nanos = r.window.nanos := Int.ofNat_inj.1 length
    have valid : (s.keyed.stateFor r).validate = .ok () := by
      rw [SlidingWindow.Config.validate_eq_ok_iff, limit, nanos]
      exact SlidingWindow.Config.validate_eq_ok_iff.1 takes
    have answers := SharedSlidingWindow.exists_request_iff scheduled
      { s with keyed := s.keyed.put r.name (s.keyed.stateFor r) } state r.name valid
    rw [nanos] at answers
    simp only [Limiter.check, exists_map_eq_ok_iff, kind, Prod.mk.injEq, reduceCtorEq, false_and,
      or_false]
    rw [SharedSlidingWindow.check_of_valid (adopts.valid _)]
    exact answers
  | sharedSlidingLog s =>
    have adopts := SlidingLog.adopts_shared α r takes
    obtain ⟨-, length⟩ := Parameters.window.inj
      (Keyed.view_stateFor (k := s.keyed) (adopts.start _) shows)
    have nanos : (s.keyed.stateFor r).window.nanos = r.window.nanos := Int.ofNat_inj.1 length
    have answers := SharedSlidingLog.exists_request_iff scheduled
      { s with keyed := s.keyed.put r.name (s.keyed.stateFor r) } state r.name
      (s.keyed.stateFor r) (o := AllowOptions.ofCount count) rfl
    rw [nanos] at answers
    simp only [Limiter.check, exists_map_eq_ok_iff, kind, Prod.mk.injEq, reduceCtorEq, and_false,
      false_and, or_false]
    rw [SharedSlidingLog.check_of_valid (adopts.valid _)]
    exact answers

/-! ### The grace of a limiter -/

/-- The grace by which a limiter's keys outlive their windows, if it renews their lifetimes. -/
def grace? : Limiter α → Option Span
  | sharedSlidingWindow s => some s.grace
  | sharedSlidingLog s => some s.grace
  | tokenBucket _ | leakyBucket _ | slidingWindow _ | slidingLog _ | sharedLeakyBucket _ => none

theorem grace?_change {l l' : Limiter α} {setter : ∀ {P S L : Type} {scheme : Scheme P S L},
      Keyed scheme → Except LimiterError (Keyed scheme)} (changed : l.change setter = .ok l') :
    l'.grace? = l.grace? := by
  cases l <;> obtain ⟨_, -, rfl⟩ := exists_of_map_eq_ok changed <;> rfl

theorem grace?_check {ctx : Context σ} {l l' : Limiter α} {state state' : σ} {r : Resource}
    {count : ℕ} {outcome : Except LimiterError Bool}
    (checked : l.check ctx state r count = .ok ((l', state'), outcome)) :
    l'.grace? = l.grace? := by
  cases l with
  | tokenBucket | leakyBucket | slidingWindow | slidingLog | sharedLeakyBucket =>
    obtain ⟨_, -, same⟩ := exists_of_map_eq_ok checked
    cases same
    rfl
  | sharedSlidingWindow s =>
    obtain ⟨_, answered, same⟩ := exists_of_map_eq_ok checked
    cases same
    unfold SharedSlidingWindow.check at answered
    split at answered
    · cases answered
      rfl
    · rw [SharedSlidingWindow.eq_of_request answered]
      rfl
  | sharedSlidingLog s =>
    obtain ⟨_, answered, same⟩ := exists_of_map_eq_ok checked
    cases same
    unfold SharedSlidingLog.check at answered
    split at answered
    · cases answered
      rfl
    · rw [SharedSlidingLog.eq_of_request answered]
      rfl

end Limiter

/-! ## Policy sets -/

/-- The results exist that a check of a policy needs at an instant, if the keys of the policy
outlive their windows by `grace`. -/
def PolicyConfig.Reaches (p : PolicyConfig) (grace : Span) (now : Instant) : Prop :=
  match p.algorithm, p.backend with
  | .slidingLog, .inProcess => now.HasWindow p.window.nanos
  | .slidingWindow, .shared | .slidingLog, .shared =>
    now.HasWindow p.window.nanos ∧ p.window.nanos + grace.nanos ≤ Span.max.nanos
  | .tokenBucket, _ | .leakyBucket, _ | .slidingWindow, .inProcess => True

theorem Limiter.reaches_iff {α : Type} [Arithmetic α] {p : PolicyConfig} {l : Limiter α}
    (same : l.kind = (p.algorithm, p.backend)) {grace : Span}
    (graced : ∀ g, l.grace? = some g → g = grace) (now : Instant) :
    l.Reaches p.resource now ↔ p.Reaches grace now := by
  obtain ⟨name, algorithm, backend, limit, burst, millis⟩ := p
  cases l <;> cases same <;> try exact Iff.rfl
  all_goals
    obtain rfl := graced _ rfl
    exact Iff.rfl

/-- The keys of a policy outlive their windows by `grace`. -/
def Policy.Graced {α : Type} [Arithmetic α] (grace : Span) (_ : String) (p : Policy α) : Prop :=
  ∀ g, p.limiter.grace? = some g → g = grace

/-- A new limiter has the grace of the store's settings. -/
theorem PolicyConfig.grace?_limiter? {α : Type} [Arithmetic α] {p : PolicyConfig}
    {settings : StoreSettings} {hasStore : Bool} {origin : UInt64} {l : Limiter α}
    (made : p.limiter? α settings hasStore origin = .ok l) :
    ∀ g, l.grace? = some g → g = settings.grace := by
  obtain ⟨name, algorithm, backend, limit, burst, millis⟩ := p
  cases backend with
  | inProcess =>
    cases algorithm <;> obtain ⟨k, -, rfl⟩ := exists_of_map_eq_ok made <;> rintro _ ⟨⟩
  | shared =>
    cases hasStore with
    | false => cases made
    | true =>
      cases algorithm with
      | tokenBucket => cases made
      | leakyBucket =>
        obtain ⟨_, -, rfl⟩ := exists_of_map_eq_ok made
        rintro _ ⟨⟩
      | slidingWindow | slidingLog =>
        obtain ⟨_, created, rfl⟩ := exists_of_map_eq_ok made
        obtain ⟨_, -, rfl⟩ := exists_of_map_eq_ok created
        rintro _ ⟨⟩
        rfl

namespace PolicySet

variable {α : Type} [Arithmetic α] {σ : Type}

theorem grace?_applyResource (l : Limiter α) (now : Instant) (r : Resource) :
    (applyResource l now r).1.grace? = l.grace? := by
  unfold applyResource
  split
  · rfl
  · rename_i l₁ limit
    have first := Limiter.grace?_change limit
    split
    · exact first
    · rename_i l₂ burst
      have second := (Limiter.grace?_change burst).trans first
      split
      · exact second
      · rename_i l₃ window
        exact (Limiter.grace?_change window).trans second

/-- **No action changes the grace of a limiter.** -/
theorem keeps_grace (grace : Span) (ctx : Context σ) :
    Keeps (α := α) (Policy.Graced grace) (Policy.Graced grace) ctx where
  mono _ _ h := h
  check _ h checked g held := h g (by rwa [Limiter.grace?_check checked] at held)
  apply _ h _ _ g held := h g (by rwa [grace?_applyResource] at held)

theorem graced_build? {config : LimiterConfig} {hasStore : Bool} {origin : ℕ → UInt64}
    {set : PolicySet α} (built : build? config hasStore origin = .ok set) :
    set.All (Policy.Graced config.store.grace) :=
  all_build? (fun _ _ _ _ => PolicyConfig.grace?_limiter?) built

/-- The checks that are answered, of a coherent set whose grace is known. -/
theorem answers_iff_of_coherent {set : PolicySet α} (c : set.Coherent) {grace : Span}
    (graced : set.All (Policy.Graced grace)) {name : String} {p : PolicyConfig}
    (known : set.policy? name = some p) {ctx : Context σ} (scheduled : ctx.scheduler = true)
    (state : σ) (count : ℕ) :
    ((∃ next entry, check ctx (set, state) name count = .ok (next, entry)) ∨
        (p.algorithm = .slidingLog ∧ p.backend = .inProcess) ∧
          check ctx (set, state) name count = .error .countOutOfRange) ↔
      p.Reaches grace ctx.now := by
  obtain ⟨q, found, rfl⟩ := Option.map_eq_some_iff.1 known
  obtain ⟨rfl, valid, kind, shows⟩ := c name q found
  have answers := Limiter.answers_check_iff (Limiter.takes_of_valid valid kind)
    (Limiter.parameters_eq kind ▸ shows) scheduled state count
  rw [← Limiter.reaches_iff kind (graced _ q found), ← answers, kind, Prod.mk.injEq,
    ← Prod.exists', check, found]
  dsimp only
  rw [exists_map_eq_ok_iff, map_eq_error_iff]

/-- **The checks of a policy set that are answered.** After every sequence of checks and reloads of
a set that has been built, a check of a known policy is answered, unless the count of a log is too
large, if and only if its window starts at an instant and its key's lifetime is a span, as far as
its algorithm needs them. -/
theorem check_answers_iff {config : LimiterConfig} {hasStore : Bool} {origin : ℕ → UInt64}
    {set₀ set : PolicySet α} {state₀ state : σ} {actions : List (Context σ × Action)}
    (built : build? config hasStore origin = .ok set₀)
    (ran : run (set₀, state₀) actions = .ok (set, state)) {name : String} {p : PolicyConfig}
    (known : set.policy? name = some p) {ctx : Context σ} (scheduled : ctx.scheduler = true)
    (count : ℕ) :
    ((∃ next entry, check ctx (set, state) name count = .ok (next, entry)) ∨
        (p.algorithm = .slidingLog ∧ p.backend = .inProcess) ∧
          check ctx (set, state) name count = .error .countOutOfRange) ↔
      p.Reaches config.store.grace ctx.now :=
  answers_iff_of_coherent (coherent_run (coherent_build? built) ran)
    ((graced_build? built).run (keeps_grace _) (coherent_build? built) ran) known scheduled state
    count

/-- A log of one request within some milliseconds. -/
def singleLog (millis : ℕ) : PolicyConfig := ⟨"a", .slidingLog, .inProcess, 1, 0, millis⟩

/-- An instant of the year 2023. -/
def inUse : Instant := .ofParts 1700000000 0

/-- A log is reloaded to a window of ten thousand billion seconds, after a check in a window of one.
The next check is not answered, and no count is to blame. -/
theorem check_unanswered_after_reload :
    ∃ set₀ set : PolicySet ℚ,
      build? ⟨{}, [singleLog 1000]⟩ false (fun _ => 0) = .ok set₀ ∧
      run (set₀, (∅ : Store)) [(Store.context ℚ inUse, .check "a" 1),
        (Store.context ℚ inUse, .reconfigure (singleLog 10000000000000000))] = .ok (set, ∅) ∧
      set.policy? "a" = some (singleLog 10000000000000000) ∧
      (Store.context ℚ inUse).scheduler = true ∧
      ¬((∃ next entry, check (Store.context ℚ inUse) (set, ∅) "a" 1 = .ok (next, entry)) ∨
        ((singleLog 10000000000000000).algorithm = .slidingLog ∧
          (singleLog 10000000000000000).backend = .inProcess) ∧
          check (Store.context ℚ inUse) (set, ∅) "a" 1 = .error .countOutOfRange) := by
  obtain ⟨set₀, set, built, ran, known⟩ : ∃ set₀ set : PolicySet ℚ,
      build? ⟨{}, [singleLog 1000]⟩ false (fun _ => 0) = .ok set₀ ∧
      run (set₀, (∅ : Store)) [(Store.context ℚ inUse, .check "a" 1),
        (Store.context ℚ inUse, .reconfigure (singleLog 10000000000000000))] = .ok (set, ∅) ∧
      set.policy? "a" = some (singleLog 10000000000000000) := ⟨_, _, rfl, rfl, rfl⟩
  refine ⟨set₀, set, built, ran, known, rfl, (check_answers_iff built ran known rfl 1).not.2 ?_⟩
  exact (by decide : ¬inUse.HasWindow (Span.ofMillis 10000000000000000).nanos)

/-- So there are sets that have been built and a time that a clock can read at which the check of a
known policy is not answered: the window of a log reaches back too far, or the grace of the store is
too long. -/
theorem exists_check_fault :
    inUse.Representable ∧
    (∃ set : PolicySet ℚ,
      build? ⟨{}, [singleLog 10000000000000000]⟩ false (fun _ => 0) = .ok set ∧
      check (Store.context ℚ inUse) (set, (∅ : Store)) "a" 1 = .error .instantOutOfRange) ∧
    ∃ set : PolicySet ℚ,
      build? ⟨{ graceSeconds := 2 ^ 64 - 1 }, [⟨"a", .slidingWindow, .shared, 1, 0, 1000⟩]⟩ true
        (fun _ => 0) = .ok set ∧
      ¬∃ next entry,
        check (Store.context ℚ inUse) (set, (∅ : Store)) "a" 1 = .ok (next, entry) := by
  obtain ⟨set, built, known⟩ : ∃ set : PolicySet ℚ,
      build? ⟨{ graceSeconds := 2 ^ 64 - 1 }, [⟨"a", .slidingWindow, .shared, 1, 0, 1000⟩]⟩ true
        (fun _ => 0) = .ok set ∧
      set.policy? "a" = some ⟨"a", .slidingWindow, .shared, 1, 0, 1000⟩ := ⟨_, rfl, rfl⟩
  refine ⟨by decide, ⟨_, rfl, rfl⟩, set, built, fun answered => ?_⟩
  have reaches := (answers_iff_of_coherent (coherent_build? built) (graced_build? built) known
    (rfl : (Store.context ℚ inUse).scheduler = true) (∅ : Store) 1).1 (.inl answered)
  exact absurd reaches.2 (by decide)

end PolicySet

end Throttle
