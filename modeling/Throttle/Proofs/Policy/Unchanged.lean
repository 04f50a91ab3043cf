import Throttle.Proofs.Bucket.Resizing
import Throttle.Proofs.Policy.Akin

/-!
# Reloads that change nothing

A reload of a policy to the configuration that it has brings its bucket up to date, cuts the tokens
at the capacity and the queue at the limit, and sets every parameter to what it was. With exact
arithmetic a bucket may be brought up to date at any instants in between, and nothing is there to be
cut. So a run with such reloads is answered like the run without them. Only the first use of a
policy is seen: it starts the state, and with it the time from which the bucket fills or drains.

## Main definitions

* `Limiter.Settled`: what holds of the state of a key after calls at some instants
* `PolicySet.Step`, `PolicySet.perform`: a run with reloads to the configurations in force
* `PolicySet.Step.Uses`: the steps that start the state of a policy

## Main results

* `TokenBucket.akin_renew`, `LeakyBucket.akin_renew`: a bucket whose rate and capacity are
  set to what they were
* `Limiter.Settled.akin_adopt`: a limiter with a state takes its own parameters
* `PolicySet.Shadows.action`, `PolicySet.Shadows.again`: a step of both runs, and one of the first
* `PolicySet.outcomes_eq_replies`: reloads to the configuration in force do not show
-/

namespace Throttle

/-! ## Buckets -/

namespace TokenBucket

variable {b : TokenBucket ℚ} {past : Set Instant} {now last : Instant}

/-- The parameters that a bucket has bring it up to date and change nothing else. -/
theorem renew_eq (sane : Sane past b) :
    (b.setRate now b.rate).setCapacity b.capacity = b.refill now := by
  have filled := (sane.mono (Set.subset_insert now past)).refill (Set.mem_insert now past)
  have rate : b.setRate now b.rate = b.refill now := by rw [setRate, ← rate_refill b now]
  rw [rate, ← capacity_refill b now, setCapacity_eq, min_eq_left filled.atMost]

/-- **A bucket whose rate and capacity are set to what they were** is later as if they had not
been. -/
theorem akin_renew (sane : Sane past b) (known : b.lastRefill = some last)
    (order : last ≤ now) :
    Akin {t | now ≤ t ∧ t.nanos - last.nanos < 2 ^ 63}
      ((b.setRate now b.rate).setCapacity b.capacity) b := by
  intro t ⟨later, close⟩
  rw [renew_eq sane, refill_refill sane known order later close]

theorem lastRefill_refill_ne (b : TokenBucket ℚ) (now : Instant) :
    (b.refill now).lastRefill ≠ none := by
  unfold refill
  split
  · nofun
  · split <;> simp_all

end TokenBucket

namespace LeakyBucket

variable {b : LeakyBucket ℚ} {past : Set Instant} {now last : Instant}

/-- The parameters that a bucket has bring it up to date and change nothing else. -/
theorem renew_eq (sane : Sane past b) :
    (b.setRate now b.rate).setVolume b.volume = b.drain now := by
  have drained := (sane.mono (Set.subset_insert now past)).drain (Set.mem_insert now past)
  have rate : b.setRate now b.rate = b.drain now := by rw [setRate, ← rate_drain b now]
  rw [rate, ← volume_drain b now, setVolume_eq, min_eq_left drained.atMost]

/-- **A bucket whose rate and volume are set to what they were** is later as if they had not
been. -/
theorem akin_renew (sane : Sane past b) (known : b.lastDrain = some last)
    (order : last ≤ now) :
    Akin {t | now ≤ t ∧ t.nanos - last.nanos < 2 ^ 63}
      ((b.setRate now b.rate).setVolume b.volume) b := by
  intro t ⟨later, close⟩
  rw [renew_eq sane, drain_drain sane known order later close]

end LeakyBucket

/-- A request leaves the queue within the limit. -/
theorem SlidingWindow.length_queue_allow (w : SlidingWindow) (positive : 0 < w.limit)
    (within : w.queue.length ≤ w.limit) (now : Instant) :
    (w.allow now).1.queue.length ≤ w.limit := by
  unfold allow
  split
  · rename_i room
    rw [List.length_append]
    exact room
  · split
    · exact positive
    · rename_i oldest newer queue
      split
      · exact within
      · simpa [queue] using within

/-! ## States -/

namespace Keyed

variable {P S L : Type} {scheme : Scheme P S L} {k : Keyed scheme} {r : Resource} {I : S → Prop}

/-- It holds of the state of a key, if there is one. -/
def Holds (I : S → Prop) (k : Keyed scheme) (key : String) : Prop :=
  ∀ s, k.get? key = some s → I s

theorem Holds.mono {I' : S → Prop} {key : String} (h : k.Holds I key) (weaker : ∀ s, I s → I' s) :
    k.Holds I' key :=
  fun s held => weaker s (h s held)

theorem holds_put (k : Keyed scheme) {key : String} {s : S} (holds : I s) :
    (k.put key s).Holds I key := by
  intro t held
  rw [get?_put, if_pos rfl, Option.some.injEq] at held
  exact held ▸ holds

/-- What holds of the state of a resource's key and of new states holds of the resource's state. -/
theorem Holds.stateFor (h : k.Holds I r.name)
    (start : I (scheme.start (scheme.ofResource k.defaults r))) : I (k.stateFor r) := by
  rw [Keyed.stateFor]
  cases held : k.get? r.name with
  | none => exact start
  | some s => exact h s held

/-- A key that shows its parameters has a state with them. -/
theorem exists_shown {V : Type} {view : S → V} {key : String} {target : V}
    (used : (k.get? key).map view ≠ none) (shows : k.Shows view key target) :
    ∃ s, k.get? key = some s ∧ view s = target := by
  obtain ⟨live, shown⟩ := Option.ne_none_iff_exists'.1 used
  obtain ⟨s, held, rfl⟩ := Option.map_eq_some_iff.1 shown
  exact ⟨s, held, shows _ shown⟩

theorem stateFor_of_held {s : S} (held : k.get? r.name = some s) : k.stateFor r = s := by
  rw [Keyed.stateFor, held, Option.getD_some]

/-- What a request leaves of the state of a valid resource. -/
theorem holds_check {J : S → Prop}
    (valid : scheme.validate (scheme.ofResource k.defaults r) = .ok ()) {k' : Keyed scheme}
    {decide : S → Except Fault (S × Except LimiterError Bool)}
    {outcome : Except LimiterError Bool} (state : J (k.stateFor r))
    (decides : ∀ s s' outcome, J s → decide s = .ok (s', outcome) → I s')
    (checked : k.check decide r = .ok (k', outcome)) : k'.Holds I r.name := by
  rw [check_of_valid valid] at checked
  obtain ⟨⟨s, _⟩, decided, same⟩ := exists_of_map_eq_ok checked
  cases same
  exact k.holds_put (decides _ _ _ state decided)

/-- A request of a valid resource leaves a state. -/
theorem get?_check_ne_none
    (valid : scheme.validate (scheme.ofResource k.defaults r) = .ok ()) {k' : Keyed scheme}
    {decide : S → Except Fault (S × Except LimiterError Bool)}
    {outcome : Except LimiterError Bool} (checked : k.check decide r = .ok (k', outcome)) :
    k'.get? r.name ≠ none := by
  rw [check_of_valid valid] at checked
  obtain ⟨⟨s, _⟩, -, same⟩ := exists_of_map_eq_ok checked
  cases same
  rw [get?_put, if_pos rfl]
  exact Option.some_ne_none s

/-- A state that takes the place of a related one. -/
theorem akin_put_of_held {E : S → S → Prop} {key : String} {s s' : S} (held : k.get? key = some s)
    (related : E s' s) : (k.put key s').Akin E (Resource.named key) k where
  params _ := rfl
  states r named := by
    rw [stateFor_put named, stateFor_of_held (r := r) (by rwa [show r.name = key from named])]
    exact related

end Keyed

namespace Limiter

variable {α σ : Type} [Arithmetic α] {r : Resource} {now : Instant}

/-- A reload starts the state of its resource, unless it is there. -/
theorem live?_adopt (l : Limiter α) (now : Instant) (r : Resource) :
    (l.adopt now r).live? r.name ≠ none := by
  cases l <;> simp [adopt, live?]

/-- So does a request. -/
theorem live?_check {l l' : Limiter α} (takes : l.Takes r) {ctx : Context σ} {state state' : σ}
    {count : ℕ} {outcome : Except LimiterError Bool}
    (checked : l.check ctx state r count = .ok ((l', state'), outcome)) :
    l'.live? r.name ≠ none := by
  cases l with
  | tokenBucket k =>
    obtain ⟨_, answered, same⟩ := exists_of_map_eq_ok checked
    cases same
    simpa [live?] using Keyed.get?_check_ne_none ((TokenBucket.adopts r takes).valid _) answered
  | leakyBucket k =>
    obtain ⟨_, answered, same⟩ := exists_of_map_eq_ok checked
    cases same
    simpa [live?] using Keyed.get?_check_ne_none ((LeakyBucket.adopts r takes).valid _) answered
  | slidingWindow k =>
    obtain ⟨_, answered, same⟩ := exists_of_map_eq_ok checked
    cases same
    simpa [live?] using Keyed.get?_check_ne_none ((SlidingWindow.adopts α r takes).valid _) answered
  | slidingLog k =>
    obtain ⟨_, answered, same⟩ := exists_of_map_eq_ok checked
    cases same
    simpa [live?] using Keyed.get?_check_ne_none ((SlidingLog.adopts α r takes).valid _) answered
  | sharedLeakyBucket s =>
    obtain ⟨_, answered, same⟩ := exists_of_map_eq_ok checked
    rw [SharedLeakyBucket.check_of_valid ((LeakyBucket.adopts_shared r takes).valid _)] at answered
    obtain ⟨_, -, rfl⟩ := exists_of_map_eq_ok answered
    cases same
    simp [live?]
  | sharedSlidingWindow s =>
    obtain ⟨_, answered, same⟩ := exists_of_map_eq_ok checked
    rw [SharedSlidingWindow.check_of_valid ((SlidingWindow.adopts_shared α r takes).valid _)]
      at answered
    cases same
    rw [SharedSlidingWindow.eq_of_request answered]
    simp [live?]
  | sharedSlidingLog s =>
    obtain ⟨_, answered, same⟩ := exists_of_map_eq_ok checked
    rw [SharedSlidingLog.check_of_valid ((SlidingLog.adopts_shared α r takes).valid _)]
      at answered
    cases same
    rw [SharedSlidingLog.eq_of_request answered]
    simp [live?]

/-- What holds of the state of a key after calls at some instants: a bucket has been asked, and a
queue is within its limit. -/
def Settled (past : Set Instant) (key : String) : Limiter ℚ → Prop
  | tokenBucket k => k.Holds (fun b => b.Sane past ∧ b.lastRefill ≠ none) key
  | leakyBucket k => k.Holds (fun b => b.Sane past ∧ b.lastDrain ≠ none) key
  | slidingWindow k => k.Holds (fun w => 0 < w.limit ∧ w.queue.length ≤ w.limit) key
  | slidingLog _ | sharedLeakyBucket _ | sharedSlidingWindow _ | sharedSlidingLog _ => True

variable {l : Limiter ℚ} {past past' : Set Instant} {key : String}

/-- It holds of a key that has no state. -/
theorem settled_of_unused (unused : l.live? key = none) (past : Set Instant) :
    l.Settled past key := by
  cases l with
  | tokenBucket k | leakyBucket k | slidingWindow k =>
    intro s held
    rw [live?, held] at unused
    cases unused
  | slidingLog | sharedLeakyBucket | sharedSlidingWindow | sharedSlidingLog => trivial

namespace Settled

theorem mono (h : l.Settled past key) (sub : past ⊆ past') : l.Settled past' key := by
  cases l with
  | tokenBucket k => exact Keyed.Holds.mono h fun _ ⟨sane, asked⟩ => ⟨sane.mono sub, asked⟩
  | leakyBucket k => exact Keyed.Holds.mono h fun _ ⟨sane, asked⟩ => ⟨sane.mono sub, asked⟩
  | slidingWindow k => exact h
  | slidingLog | sharedLeakyBucket | sharedSlidingWindow | sharedSlidingLog => trivial

/-- What holds of the state of a resource whose bucket may not have been asked. -/
theorem sane_tokenBucket {k : Keyed (TokenBucket.scheme ℚ)}
    (h : (tokenBucket k).Settled past r.name) (takes : (tokenBucket k).Takes r) :
    (k.stateFor r).Sane past :=
  Keyed.Holds.stateFor (Keyed.Holds.mono h fun _ both => both.1) (.full takes past)

theorem sane_leakyBucket {k : Keyed (LeakyBucket.scheme ℚ)}
    (h : (leakyBucket k).Settled past r.name) (takes : (leakyBucket k).Takes r) :
    (k.stateFor r).Sane past :=
  Keyed.Holds.stateFor (Keyed.Holds.mono h fun _ both => both.1) (.new takes past)

theorem check {l' : Limiter ℚ} (h : l.Settled past r.name) (takes : l.Takes r) {ctx : Context σ}
    (member : ctx.now ∈ past) {state state' : σ} {count : ℕ} {outcome : Except LimiterError Bool}
    (checked : l.check ctx state r count = .ok ((l', state'), outcome)) :
    l'.Settled past r.name := by
  cases l with
  | tokenBucket k =>
    obtain ⟨_, answered, same⟩ := exists_of_map_eq_ok checked
    cases same
    refine Keyed.holds_check ((TokenBucket.adopts r takes).valid _) (h.sane_tokenBucket takes)
      (fun b b' outcome sane decided => ?_) answered
    obtain rfl : (b.allow ctx.now _).1 = b' := congrArg Prod.fst (Except.ok.inj decided)
    refine ⟨sane.allow member _, ?_⟩
    rw [TokenBucket.allow_fst]
    exact b.lastRefill_refill_ne ctx.now
  | leakyBucket k =>
    obtain ⟨_, answered, same⟩ := exists_of_map_eq_ok checked
    cases same
    refine Keyed.holds_check ((LeakyBucket.adopts r takes).valid _) (h.sane_leakyBucket takes)
      (fun b b' outcome sane decided => ?_) answered
    obtain rfl : (b.allow ctx.now _).1 = b' := congrArg Prod.fst (Except.ok.inj decided)
    exact ⟨sane.allow member _, by rw [LeakyBucket.lastDrain_allow]; nofun⟩
  | slidingWindow k =>
    obtain ⟨_, answered, same⟩ := exists_of_map_eq_ok checked
    cases same
    have positive := (SlidingWindow.Config.validate_eq_ok_iff.1 takes).1
    refine Keyed.holds_check ((SlidingWindow.adopts ℚ r takes).valid _)
      (Keyed.Holds.stateFor h ⟨positive, Nat.zero_le _⟩)
      (fun w w' outcome ⟨positive, within⟩ decided => ?_) answered
    obtain rfl : (w.allow ctx.now).1 = w' := congrArg Prod.fst (Except.ok.inj decided)
    rw [(w.parameters_allow ctx.now).1]
    exact ⟨positive, w.length_queue_allow positive within ctx.now⟩
  | slidingLog | sharedLeakyBucket | sharedSlidingWindow | sharedSlidingLog =>
    obtain ⟨_, -, same⟩ := exists_of_map_eq_ok checked
    cases same
    trivial

theorem adopt (h : l.Settled past r.name) (takes : l.Takes r) (member : now ∈ past) :
    (l.adopt now r).Settled past r.name := by
  cases l with
  | tokenBucket k =>
    have rate := Exact.checkRate_eq_ok_iff.1 (TokenBucket.Config.validate_eq_ok_iff.1 takes).1
    have sane := ((h.sane_tokenBucket takes).setRate member rate).setCapacity r.burst
    exact k.holds_put ⟨sane, (k.stateFor r).lastRefill_refill_ne now⟩
  | leakyBucket k =>
    have rate := Exact.checkRate_eq_ok_iff.1 (LeakyBucket.Config.validate_eq_ok_iff.1 takes).1
    have sane := ((h.sane_leakyBucket takes).setRate member rate).setVolume r.burst
    refine k.holds_put ⟨sane, ?_⟩
    change ((k.stateFor r).drain now).lastDrain ≠ none
    rw [LeakyBucket.lastDrain_drain]
    nofun
  | slidingWindow k =>
    have positive := (SlidingWindow.Config.validate_eq_ok_iff.1 takes).1
    exact k.holds_put ⟨positive, (k.stateFor r).length_queue_setLimit r.limit⟩
  | slidingLog | sharedLeakyBucket | sharedSlidingWindow | sharedSlidingLog => trivial

/-- **A limiter with a state takes the parameters that it has**: it is later as if they had not been
set. -/
theorem akin_adopt (h : l.Settled past r.name) (used : l.live? r.name ≠ none)
    (shows : l.Shows r.name (l.parametersOf r)) (order : ∀ e ∈ past, e ≤ now) :
    (l.adopt now r).Akin {t | now ≤ t ∧ ∀ e ∈ past, t.nanos - e.nanos < 2 ^ 63}
      (Resource.named r.name) l := by
  cases l with
  | tokenBucket k =>
    obtain ⟨b, held, same⟩ := Keyed.exists_shown (k := k) used shows
    obtain ⟨rate, capacity⟩ := Parameters.bucket.inj same
    obtain ⟨sane, asked⟩ := h b held
    -- Only a bucket that has been asked can be asked in between without a difference.
    obtain ⟨last, known⟩ := Option.ne_none_iff_exists'.1 asked
    have member := sane.seen last known
    refine .tokenBucket (Keyed.akin_put_of_held held ?_)
    rw [Keyed.stateFor_of_held held, ← rate, ← capacity]
    exact fun t ⟨later, close⟩ =>
      TokenBucket.akin_renew sane known (order last member) t ⟨later, close last member⟩
  | leakyBucket k =>
    obtain ⟨b, held, same⟩ := Keyed.exists_shown (k := k) used shows
    obtain ⟨rate, volume⟩ := Parameters.bucket.inj same
    obtain ⟨sane, asked⟩ := h b held
    obtain ⟨last, known⟩ := Option.ne_none_iff_exists'.1 asked
    have member := sane.seen last known
    refine .leakyBucket (Keyed.akin_put_of_held held ?_)
    rw [Keyed.stateFor_of_held held, ← rate, ← volume]
    exact fun t ⟨later, close⟩ =>
      LeakyBucket.akin_renew sane known (order last member) t ⟨later, close last member⟩
  | slidingWindow k =>
    obtain ⟨w, held, same⟩ := Keyed.exists_shown (k := k) used shows
    obtain ⟨limit, length⟩ := Parameters.window.inj same
    refine .slidingWindow (Keyed.akin_put_of_held held ?_)
    -- The queue is within the limit, so that nothing is cut.
    rw [Keyed.stateFor_of_held held, ← limit, ← length, SlidingWindow.setLimit,
      Nat.sub_eq_zero_of_le (h w held).2]
    rfl
  | slidingLog k =>
    obtain ⟨w, held, same⟩ := Keyed.exists_shown (k := k) used shows
    obtain ⟨limit, length⟩ := Parameters.window.inj same
    refine .slidingLog (Keyed.akin_put_of_held held ?_)
    rw [Keyed.stateFor_of_held held, ← limit, ← length]
    rfl
  | sharedLeakyBucket s =>
    obtain ⟨params, held, same⟩ := Keyed.exists_shown (k := s.keyed) used shows
    obtain ⟨rate, volume⟩ := Parameters.bucket.inj same
    exact .sharedLeakyBucket (Keyed.akin_put_of_held held (by rw [← rate, ← volume]))
  | sharedSlidingWindow s =>
    obtain ⟨params, held, same⟩ := Keyed.exists_shown (k := s.keyed) used shows
    obtain ⟨limit, length⟩ := Parameters.window.inj same
    have window : params.window = r.window := congrArg Span.mk (Int.ofNat_inj.1 length)
    exact .sharedSlidingWindow (Keyed.akin_put_of_held held (by rw [← limit, ← window]))
  | sharedSlidingLog s =>
    obtain ⟨params, held, same⟩ := Keyed.exists_shown (k := s.keyed) used shows
    obtain ⟨limit, length⟩ := Parameters.window.inj same
    have window : params.window = r.window := congrArg Span.mk (Int.ofNat_inj.1 length)
    refine .sharedSlidingLog (Keyed.akin_put_of_held held ?_)
    rw [Keyed.stateFor_of_held held, ← limit, ← window]

end Settled

end Limiter

/-! ## Policy sets -/

/-- What holds of the limiter of a policy after calls at some instants. -/
def Policy.Settled (past : Set Instant) (name : String) (p : Policy ℚ) : Prop :=
  p.limiter.Settled past name

namespace PolicySet

variable {α : Type} [Arithmetic α] {σ : Type}

theorem settled_build? {config : LimiterConfig} {hasStore : Bool} {origin : ℕ → UInt64}
    {set : PolicySet ℚ} (built : build? config hasStore origin = .ok set) (past : Set Instant) :
    set.All (Policy.Settled past) :=
  all_build? (fun _ _ _ _ made =>
    Limiter.settled_of_unused ((PolicyConfig.limiter?_eq_ok made).2.2 _) past) built

theorem keeps_settled (past : Set Instant) (ctx : Context σ) :
    Keeps (Policy.Settled past) (Policy.Settled (insert ctx.now past)) ctx where
  mono _ _ h := Limiter.Settled.mono h (Set.subset_insert ..)
  check coherent h checked := by
    obtain ⟨rfl, valid, kind, -⟩ := coherent
    exact (Limiter.Settled.mono h (Set.subset_insert ..)).check
      (Limiter.takes_of_valid valid kind) (Set.mem_insert ..) checked
  apply _ h valid kind := by
    have takes := Limiter.takes_of_valid valid kind
    rw [Policy.Settled, Limiter.applyResource_of_takes takes]
    exact (Limiter.Settled.mono h (Set.subset_insert ..)).adopt takes (Set.mem_insert ..)

/-- The policy of a name, if there is one, has a state. -/
def InUse (set : PolicySet α) (name : String) : Prop :=
  ∀ p, set.policies.get? name = some p → p.limiter.live? name ≠ none

/-- An action starts the state of a policy, unless it is there: it is a check of the policy, or a
reload of it that passes its tests. -/
def Action.Uses (set : PolicySet α) (name : String) : Action → Prop
  | check name' _ => name' = name
  | reconfigure update => update.name = name ∧ ∃ p, set.updatable? update = .ok p

/-- Policies stay in use, and an action that uses a policy starts its state. -/
theorem inUse_answer {s : PolicySet α × σ} {ctx : Context σ} {action : Action}
    {x : (PolicySet α × σ) × Response} (c : s.1.Coherent)
    (answered : answer s (ctx, action) = .ok x) {name : String}
    (uses : s.1.InUse name ∨ action.Uses s.1 name) : x.1.1.InUse name := by
  obtain ⟨set, state⟩ := s
  cases action with
  | check other count =>
    obtain ⟨_, checked, rfl⟩ := exists_of_map_eq_ok answered
    rw [check] at checked
    split at checked
    · rename_i unknown
      cases checked
      rcases uses with inUse | rfl
      · exact inUse
      · intro q found
        rw [unknown] at found
        cases found
    · rename_i p known
      obtain ⟨⟨⟨l, _⟩, _⟩, stepped, rfl⟩ := exists_of_map_eq_ok checked
      intro q found
      rw [Table.get?_insert] at found
      split at found
      · rename_i same
        cases found
        obtain ⟨named, valid, kind, -⟩ := c other p known
        rw [← same, ← named]
        exact Limiter.live?_check (Limiter.takes_of_valid valid kind) stepped
      · rename_i differs
        exact uses.resolve_right differs q found
  | reconfigure update =>
    rw [answer_reconfigure, Except.ok.injEq] at answered
    subst answered
    dsimp only
    cases passed : set.updatable? update with
    | error e =>
      rw [reconfigure_of_refused passed]
      refine uses.resolve_right ?_
      rintro ⟨_, _, passes⟩
      rw [passed] at passes
      cases passes
    | ok p =>
      rw [reconfigure_of_takes passed (takes_of_updatable c passed)]
      intro q found
      rw [Table.get?_insert] at found
      split at found
      · rename_i same
        cases found
        exact same ▸ p.limiter.live?_adopt ctx.now update.resource
      · rename_i differs
        exact uses.resolve_right (fun uses => differs uses.1) q found

/-! ## Runs with reloads to the configurations in force -/

/-- A step of a run. -/
inductive Step where
  | action (action : Action)
  /-- A reload of a policy to the configuration that it has. -/
  | again (name : String)

/-- What is asked for by a step, other than a reload to the configuration in force. -/
def Step.action? : Step → Option Action
  | action a => some a
  | again _ => none

/-- The steps that start the state of a policy. -/
def Step.Uses (set : PolicySet α) (name : String) : Step → Prop
  | action a => a.Uses set name
  | again _ => False

/-- A policy set takes a step in some context. Reloads to the configuration in force have no
response that counts. -/
def perform : PolicySet α × σ → Context σ × Step →
    Except Fault ((PolicySet α × σ) × Option Response)
  | s, (ctx, .action action) =>
    (answer s (ctx, action)).map fun (next, response) => (next, some response)
  | (set, state), (ctx, .again name) =>
    match set.policy? name with
    | none => .ok ((set, state), none)
    | some config => .ok (((set.reconfigure ctx.now config).1, state), none)

/-- The responses to a run, other than to the reloads to configurations in force. -/
def outcomes (s : PolicySet α × σ) (steps : List (Context σ × Step)) :
    Except Fault (List Response) :=
  (trace perform s steps).map fun (_, answers) => answers.filterMap Prod.snd

/-- The actions of a run, without the reloads to the configurations in force. -/
def actions (steps : List (Context σ × Step)) : List (Context σ × Action) :=
  steps.filterMap fun (ctx, step) => step.action?.map (ctx, ·)

/-- The instants at which steps are taken. -/
def readings (steps : List (Context σ × Step)) : Set Instant := {t | ∃ e ∈ steps, e.1.now = t}

theorem readings_append_singleton (done : List (Context σ × Step)) (e : Context σ × Step) :
    readings (done ++ [e]) = insert e.1.now (readings done) := by
  ext t
  simp [readings, or_comm, eq_comm]

theorem readings_subset_cons (e : Context σ × Step) (rest : List (Context σ × Step)) :
    readings rest ⊆ readings (e :: rest) :=
  fun _ ⟨later, member, now⟩ => ⟨later, List.mem_cons_of_mem _ member, now⟩

/-- What holds of a policy set after steps from `initial`. -/
structure Reached (initial : PolicySet ℚ) (done : List (Context σ × Step)) (set : PolicySet ℚ) :
    Prop where
  coherent : set.Coherent
  kinds : ∀ name, set.kind? name = initial.kind? name
  settled : set.All (Policy.Settled (readings done))
  inUse : ∀ name, (∃ e ∈ done, e.2.Uses initial name) → set.InUse name

/-- A run from `initial` with the steps in `done` behind it and those in `rest` ahead, and the run
without the reloads to the configurations in force: their policies will be the same whenever they
are asked. -/
structure Shadows (initial : PolicySet ℚ) (done rest : List (Context σ × Step))
    (s s' : PolicySet ℚ × σ) : Prop extends Reached initial done s.1 where
  side : Side Set.univ (readings rest) Resource.named s.1 s'.1
  states : s.2 = s'.2

variable {initial : PolicySet ℚ} {done rest : List (Context σ × Step)} {ctx : Context σ}
  {step : Step} {s s' : PolicySet ℚ × σ}

/-- An action that is taken for a step, and uses what the step uses. -/
theorem Reached.answer (h : Reached initial done s.1) (step : Step) {action : Action}
    (uses : ∀ name, step.Uses initial name → action.Uses initial name)
    {x : (PolicySet ℚ × σ) × Response} (answered : answer s (ctx, action) = .ok x) :
    Reached initial (done ++ [(ctx, step)]) x.1.1 := by
  obtain ⟨coherent, kinds⟩ := answer_keeps h.coherent answered
  refine ⟨coherent, fun name => (kinds name).trans (h.kinds name), ?_, fun name used => ?_⟩
  · rw [readings_append_singleton]
    have acted : act s (ctx, action) = .ok x.1 := by
      rw [act_eq_answer, answered]
      rfl
    exact h.settled.act (keeps_settled _ ctx) h.coherent acted
  · refine inUse_answer h.coherent answered ?_
    obtain ⟨e, member, used⟩ := used
    rcases List.mem_append.1 member with old | new
    · exact .inl (h.inUse name ⟨e, old, used⟩)
    · cases List.mem_singleton.1 new
      refine .inr ?_
      -- The tests of an update are those that it had to pass in the beginning.
      have used := uses name used
      cases action with
      | check other count => exact used
      | reconfigure update =>
        refine ⟨used.1, exists_updatable_iff.2 ?_⟩
        rw [h.kinds]
        exact exists_updatable_iff.1 used.2

namespace Shadows

theorem start {config : LimiterConfig} {hasStore : Bool} {origin : ℕ → UInt64}
    (built : build? config hasStore origin = .ok initial) (state : σ)
    (steps : List (Context σ × Step)) :
    Shadows initial [] steps (initial, state) (initial, state) where
  coherent := coherent_build? built
  kinds _ := rfl
  settled := settled_build? built _
  inUse _ used := by simp at used
  side := Side.refl (coherent_build? built) _ _
  states := rfl

/-- **An action of both runs** is answered alike. -/
theorem action {action : Action}
    (h : Shadows initial done ((ctx, .action action) :: rest) s s') :
    Related (fun x y => x.2 = y.2 ∧ Shadows initial (done ++ [(ctx, .action action)]) rest x.1 y.1)
      (answer s (ctx, action)) (answer s' (ctx, action)) := by
  obtain ⟨set, state⟩ := s
  obtain ⟨set', _⟩ := s'
  obtain rfl : state = _ := h.states
  have here : ctx.now ∈ readings ((ctx, .action action) :: rest) := ⟨_, List.mem_cons_self, rfl⟩
  have related := answer_related h.side h.coherent state (Set.mem_univ action.name)
    subset_rfl (fun _ _ => rfl) here
  refine (related.and_left fun _ answered =>
    h.toReached.answer (.action action) (fun _ => id) answered).mono ?_
  rintro x y ⟨⟨same, states, side⟩, reached⟩
  exact ⟨same, reached, side.mono (readings_subset_cons _ rest), states⟩

/-- A step that changes nothing. -/
theorem idle {name : String} (h : Shadows initial done ((ctx, .again name) :: rest) s s') :
    Shadows initial (done ++ [(ctx, .again name)]) rest s s' where
  coherent := h.coherent
  kinds := h.kinds
  settled := h.settled.mono fun _ _ settled => Limiter.Settled.mono settled (by
    rw [readings_append_singleton]
    exact Set.subset_insert ..)
  inUse other used := by
    obtain ⟨e, member, used⟩ := used
    rcases List.mem_append.1 member with old | new
    · exact h.inUse other ⟨e, old, used⟩
    · cases List.mem_singleton.1 new
      exact used.elim
  side := h.side.mono (readings_subset_cons _ rest)
  states := h.states

/-- **A reload of the first run to the configuration in force** does not show. -/
theorem again {name : String} (h : Shadows initial done ((ctx, .again name) :: rest) s s')
    (paced : (done ++ (ctx, .again name) :: rest).Pairwise fun a b =>
      a.1.now ≤ b.1.now ∧ b.1.now.nanos - a.1.now.nanos < 2 ^ 63)
    (used : ∃ e ∈ done, e.2.Uses initial name) :
    ∃ next, perform s (ctx, .again name) = .ok (next, none) ∧
      Shadows initial (done ++ [(ctx, .again name)]) rest next s' := by
  obtain ⟨set, state⟩ := s
  cases known : set.policy? name with
  | none => exact ⟨_, by rw [perform, known], h.idle⟩
  | some config =>
    refine ⟨_, by rw [perform, known], ?_⟩
    cases passed : set.updatable? config with
    | error e =>
      rw [reconfigure_of_refused passed]
      exact h.idle
    | ok q =>
      obtain ⟨p, found, rfl⟩ := Option.map_eq_some_iff.1 known
      obtain ⟨rfl, valid, kind, shows⟩ := h.coherent name p found
      obtain rfl : p = q := Option.some.inj (found.symm.trans (updatable?_eq_ok passed).2.1)
      have reached := h.toReached.answer (.again p.config.name) (fun _ => False.elim)
        (answer_reconfigure set state ctx p.config)
      refine ⟨reached, ?_, h.states⟩
      obtain ⟨-, ahead, across⟩ := List.pairwise_append.1 paced
      have renewed : (p.limiter.adopt ctx.now p.config.resource).Akin (readings rest)
          (Resource.named p.config.name) p.limiter := by
        refine (Limiter.Settled.akin_adopt (h.settled _ p found) (h.inUse _ used p found)
          (Limiter.parameters_eq kind ▸ shows) ?_).mono ?_ subset_rfl
        · rintro _ ⟨e, before, rfl⟩
          exact (across e before _ List.mem_cons_self).1
        · rintro _ ⟨e, later, rfl⟩
          refine ⟨((List.pairwise_cons.1 ahead).1 e later).1, ?_⟩
          rintro _ ⟨e', before, rfl⟩
          exact (across e' before e (List.mem_cons_of_mem _ later)).2
      dsimp only
      rw [reconfigure_of_takes passed (takes_of_updatable h.coherent passed)]
      refine Side.insert_left (h.side.mono (readings_subset_cons _ rest)) found fun p' akin => ?_
      exact ⟨akin.config, akin.member, renewed.trans akin.limiter⟩

end Shadows

/-- A run with reloads to the configurations in force, from any step on. -/
theorem outcomes_eq_of_shadows {steps : List (Context σ × Step)}
    (paced : steps.Pairwise fun a b =>
      a.1.now ≤ b.1.now ∧ b.1.now.nanos - a.1.now.nanos < 2 ^ 63)
    (used : ∀ before ctx name, before ++ [(ctx, .again name)] <+: steps →
      ∃ e ∈ before, e.2.Uses initial name)
    (whole : done ++ rest = steps) (h : Shadows initial done rest s s') :
    outcomes s rest = replies s' (actions rest) := by
  induction rest generalizing done s s' with
  | nil => rfl
  | cons e rest ih =>
    obtain ⟨ctx, step⟩ := e
    have whole' : (done ++ [(ctx, step)]) ++ rest = steps := by
      rw [List.append_assoc, ← whole]
      rfl
    cases step with
    | action action =>
      have related := h.action
      rw [show actions ((ctx, Step.action action) :: rest) = (ctx, action) :: actions rest from rfl,
        replies_cons, outcomes, trace, perform]
      generalize answer s (ctx, action) = x, answer s' (ctx, action) = y at related
      cases related with
      | error fault => rfl
      | @ok x y related =>
        obtain ⟨same, shadows⟩ := related
        have later := ih whole' shadows
        rw [outcomes] at later
        simp only [Except.map, Except.bind, ← later, ← same]
        cases trace perform x.1 rest <;> rfl
    | again name =>
      obtain ⟨next, performed, shadows⟩ := h.again (whole ▸ paced)
        (used done ctx name ⟨rest, whole'⟩)
      rw [show actions ((ctx, Step.again name) :: rest) = actions rest from rfl,
        ← ih whole' shadows, outcomes, trace, performed, outcomes]
      simp only [Except.bind]
      cases trace perform next rest <;> rfl

/-- **Reloads to the configuration in force do not show.** In every run on a clock that does not go
back and stays within `2 ^ 63` nanoseconds, reloads of policies to the configurations that they have
may be inserted anywhere after the first check of the policy or its first reload that passes the
tests: everything else is answered as before, later reloads included. -/
theorem outcomes_eq_replies {config : LimiterConfig} {hasStore : Bool} {origin : ℕ → UInt64}
    {set : PolicySet ℚ} (built : build? config hasStore origin = .ok set) (state : σ)
    {steps : List (Context σ × Step)}
    (paced : steps.Pairwise fun a b =>
      a.1.now ≤ b.1.now ∧ b.1.now.nanos - a.1.now.nanos < 2 ^ 63)
    (used : ∀ before ctx name, before ++ [(ctx, .again name)] <+: steps →
      ∃ e ∈ before, e.2.Uses set name) :
    outcomes (set, state) steps = replies (set, state) (actions steps) :=
  outcomes_eq_of_shadows paced used rfl (.start built state steps)

/-- A bucket in process and a window in a store. -/
def bucketAndWindow : LimiterConfig :=
  ⟨{}, [⟨"a", .tokenBucket, .inProcess, 1, 2, 1000⟩, ⟨"b", .slidingWindow, .shared, 1, 0, 1000⟩]⟩

/-- Checks and a reload with new parameters, and reloads to the configurations in force. -/
def renewals : List (Context Store × Step) :=
  [(Store.context ℚ ⟨1000⟩, .action (.check "a" 2)),
    (Store.context ℚ ⟨2000⟩, .action (.check "b" 1)),
    (Store.context ℚ ⟨300000000⟩, .again "a"), (Store.context ℚ ⟨300000000⟩, .again "b"),
    (Store.context ℚ ⟨700000000⟩,
      .action (.reconfigure ⟨"a", .tokenBucket, .inProcess, 2, 5, 1000⟩)),
    (Store.context ℚ ⟨1000000000⟩, .again "a"),
    (Store.context ℚ ⟨1200000000⟩, .action (.check "a" 1)),
    (Store.context ℚ ⟨1200000000⟩, .action (.check "b" 1))]

theorem outcomes_renewals :
    ∃ set : PolicySet ℚ, build? bucketAndWindow true (fun _ => 0) = .ok set ∧
      renewals.Pairwise (fun a b =>
        a.1.now ≤ b.1.now ∧ b.1.now.nanos - a.1.now.nanos < 2 ^ 63) ∧
      (∀ before ctx name, before ++ [(ctx, .again name)] <+: renewals →
        ∃ e ∈ before, e.2.Uses set name) ∧
      outcomes (set, ∅) renewals = replies (set, ∅) (actions renewals) := by
  obtain ⟨set, built⟩ : ∃ set : PolicySet ℚ, build? bucketAndWindow true (fun _ => 0) = .ok set :=
    ⟨_, rfl⟩
  have paced : renewals.Pairwise fun a b =>
      a.1.now ≤ b.1.now ∧ b.1.now.nanos - a.1.now.nanos < 2 ^ 63 := by decide
  have used : ∀ before ctx name, before ++ [(ctx, .again name)] <+: renewals →
      ∃ e ∈ before, e.2.Uses set name := by
    rintro before ctx name ⟨after, whole⟩
    have own : name = "a" ∨ name = "b" := by
      have member : (ctx, Step.again name) ∈ renewals := whole ▸ by simp
      simp only [renewals, List.mem_cons, Prod.mk.injEq, reduceCtorEq, Step.again.injEq] at member
      tauto
    match before, whole with
    | [], whole => cases whole
    | [_], whole => cases whole
    | first :: second :: _, whole =>
      injection whole with checkA whole
      injection whole with checkB _
      subst checkA checkB
      rcases own with rfl | rfl
      · exact ⟨_, List.mem_cons_self, rfl⟩
      · exact ⟨_, List.mem_cons_of_mem _ List.mem_cons_self, rfl⟩
  exact ⟨set, built, paced, used, outcomes_eq_replies built ∅ paced used⟩

/-- A reload that is refused starts no state. After it, a reload to the configuration in force does:
the bucket is full with two tokens and not with five when it gets the capacity of five. -/
theorem outcomes_ne_replies_after_refused :
    ∃ set : PolicySet ℚ, build? bucketAndWindow true (fun _ => 0) = .ok set ∧
      outcomes (set, (∅ : Store))
          [(Store.context ℚ ⟨0⟩, .action
              (.reconfigure ⟨"a", .tokenBucket, .inProcess, 0, 2, 1000⟩)),
            (Store.context ℚ ⟨0⟩, .again "a"),
            (Store.context ℚ ⟨0⟩, .action
              (.reconfigure ⟨"a", .tokenBucket, .inProcess, 1, 5, 1000⟩)),
            (Store.context ℚ ⟨0⟩, .action (.check "a" 5))] ≠
        replies (set, ∅)
          [(Store.context ℚ ⟨0⟩, .reconfigure ⟨"a", .tokenBucket, .inProcess, 0, 2, 1000⟩),
            (Store.context ℚ ⟨0⟩, .reconfigure ⟨"a", .tokenBucket, .inProcess, 1, 5, 1000⟩),
            (Store.context ℚ ⟨0⟩, .check "a" 5)] := by
  refine ⟨_, rfl, fun same => ?_⟩
  cases same

end PolicySet

end Throttle
