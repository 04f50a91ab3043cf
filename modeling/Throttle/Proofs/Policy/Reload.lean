import Throttle.Proofs.Arithmetic.Exact
import Throttle.Proofs.Policy.Parameters

/-!
# Reloads of policies

A policy set tests an update in full and then calls three setters, one after the other. A setter
that failed would leave a policy half updated. In the states that a set can reach none of them
fails: every policy has a limiter of its own algorithm and backend, and the tests of an update are
those of the setters. So a reload that fails changes nothing, and the parameters in force are always
the configured ones.

## Main definitions

* `PolicySet.Action`, `PolicySet.run`: checks and reloads, and the set after a sequence of them
* `Policy.Coherent`: a policy's configuration is valid and in force

## Main results

* `PolicySet.coherent_build?`, `PolicySet.coherent_act`: a new set is coherent, and every action
  keeps it so
* `PolicySet.reconfigure_of_updatable`: an update that passes its tests is applied in full
* `PolicySet.reconfigure_coherent`: reloads of policies are atomic
-/

namespace Throttle

/-- A policy of the given name has a limiter of its kind and a valid configuration, whose parameters
are those in force if there are any. -/
structure Policy.Coherent {α : Type} [Arithmetic α] (p : Policy α) (name : String) : Prop where
  named : p.config.name = name
  valid : p.config.validateParameters α = .ok ()
  kind : p.limiter.kind = (p.config.algorithm, p.config.backend)
  shows : p.limiter.Shows name (p.config.parameters α)

/-- A new limiter is of the kind of its policy, whose parameters are valid, and holds none yet. -/
theorem PolicyConfig.limiter?_eq_ok {α : Type} [Arithmetic α] {p : PolicyConfig}
    {settings : StoreSettings} {hasStore : Bool} {origin : UInt64} {l : Limiter α}
    (h : p.limiter? α settings hasStore origin = .ok l) :
    p.validateParameters α = .ok () ∧ l.kind = (p.algorithm, p.backend) ∧
      ∀ key, l.live? key = none := by
  obtain ⟨name, algorithm, backend, limit, burst, millis⟩ := p
  cases backend with
  | inProcess =>
    cases algorithm <;> obtain ⟨k, made, rfl⟩ := exists_of_map_eq_ok h <;>
      obtain ⟨valid, fresh⟩ := Keyed.valid_of_create? made <;>
      exact ⟨valid, rfl, fun key => congrArg (Option.map _) (fresh key)⟩
  | shared =>
    cases hasStore with
    | false => cases h
    | true =>
      cases algorithm with
      | tokenBucket => cases h
      | leakyBucket | slidingWindow | slidingLog =>
        obtain ⟨s, created, rfl⟩ := exists_of_map_eq_ok h
        obtain ⟨k, made, rfl⟩ := exists_of_map_eq_ok created
        obtain ⟨valid, fresh⟩ := Keyed.valid_of_create? made
        exact ⟨valid, rfl, fun key => congrArg (Option.map _) (fresh key)⟩

namespace PolicySet

variable {α : Type} [Arithmetic α] {σ : Type}

/-- What is done with a policy set. -/
inductive Action where
  /-- A request of `count` units. -/
  | check (name : String) (count : Nat)
  | reconfigure (update : PolicyConfig)

/-- A policy set and the state of the store after an action, whatever its outcome. -/
def act : PolicySet α × σ → Context σ × Action → Except Fault (PolicySet α × σ)
  | (set, state), (ctx, .check name count) => (check ctx (set, state) name count).map Prod.fst
  | (set, state), (ctx, .reconfigure update) => .ok ((set.reconfigure ctx.now update).1, state)

/-- A policy set and the state of the store after actions, each in a context of its own. A fault
ends the run. -/
def run (s : PolicySet α × σ) (actions : List (Context σ × Action)) :
    Except Fault (PolicySet α × σ) :=
  actions.foldlM act s

/-- All policies of a set are coherent. -/
def Coherent (set : PolicySet α) : Prop :=
  ∀ name p, set.policies.get? name = some p → p.Coherent name

/-- A set stays coherent if a coherent policy takes the place of another. -/
theorem Coherent.insert {set : PolicySet α} (c : set.Coherent) {name : String} {p : Policy α}
    (coherent : p.Coherent name) : Coherent ⟨set.policies.insert name p⟩ := by
  intro other q found
  rw [Table.get?_insert] at found
  split at found
  · rename_i same
    cases found
    exact same ▸ coherent
  · exact c other q found

theorem coherent_policies? {settings : StoreSettings} {hasStore : Bool} {origin : Nat → UInt64}
    {n : Nat} {configs : List PolicyConfig} {table table' : Table (Policy α)}
    (built : policies? settings hasStore origin n configs table = .ok table')
    (c : Coherent ⟨table⟩) : Coherent ⟨table'⟩ := by
  induction configs generalizing n table with
  | nil =>
    cases built
    exact c
  | cons p rest ih =>
    rw [policies?] at built
    split at built
    · cases built
    · rename_i l made
      obtain ⟨valid, kind, fresh⟩ := PolicyConfig.limiter?_eq_ok made
      refine ih built (c.insert ⟨rfl, valid, kind, fun live found => ?_⟩)
      rw [fresh] at found
      cases found

/-- A new set is coherent. -/
theorem coherent_build? {config : LimiterConfig} {hasStore : Bool} {origin : Nat → UInt64}
    {set : PolicySet α} (built : build? config hasStore origin = .ok set) : set.Coherent := by
  unfold build? at built
  split at built
  · cases built
  · obtain ⟨table, made, rfl⟩ := exists_of_map_eq_ok built
    exact coherent_policies? made fun _ _ found => by cases found

/-- What the tests of an update say. -/
theorem updatable?_eq_ok {set : PolicySet α} {update : PolicyConfig} {p : Policy α}
    (h : set.updatable? update = .ok p) :
    update.validateParameters α = .ok () ∧ set.policies.get? update.name = some p ∧
      p.config.algorithm = update.algorithm ∧ p.config.backend = update.backend := by
  obtain ⟨_, -, tests⟩ := exists_of_bind_eq_ok h
  obtain ⟨_, valid, tests⟩ := exists_of_bind_eq_ok tests
  split at tests
  · cases tests
  · rename_i q found
    split at tests
    · rename_i same
      cases tests
      exact ⟨valid, found, same⟩
    · cases tests

/-- **An update that passes its tests is applied in full**: none of the three setters fails. -/
theorem reconfigure_of_updatable {set : PolicySet α} (c : set.Coherent) (now : Instant)
    {update : PolicyConfig} {p : Policy α} (h : set.updatable? update = .ok p) :
    ∃ l₁ l₂ l₃, p.limiter.setLimitFor now update.resource = .ok l₁ ∧
      l₁.setBurstFor update.resource = .ok l₂ ∧ l₂.setWindowFor update.resource = .ok l₃ ∧
      set.reconfigure now update = (⟨set.policies.insert update.name ⟨update, l₃⟩⟩, .ok ()) ∧
      Policy.Coherent ⟨update, l₃⟩ update.name := by
  obtain ⟨valid, found, algorithm, backend⟩ := updatable?_eq_ok h
  have kind := (c _ _ found).kind
  rw [algorithm, backend] at kind
  obtain ⟨l₁, l₂, l₃, limit, burst, window, same, shows⟩ := Limiter.exists_applyFor valid kind now
  refine ⟨l₁, l₂, l₃, limit, burst, window, ?_, rfl, valid, same.trans kind, shows⟩
  simp only [reconfigure, h, applyResource, limit, burst, window]

/-- A reload that fails leaves every policy with its limiter as it was. -/
theorem reconfigure_of_error {set : PolicySet α} (c : set.Coherent) {now : Instant}
    {update : PolicyConfig} {e : LimiterError} (h : (set.reconfigure now update).2 = .error e) :
    (set.reconfigure now update).1 = set := by
  cases tested : set.updatable? update with
  | error e' => rw [reconfigure, tested]
  | ok p =>
    obtain ⟨_, _, _, -, -, -, done, -⟩ := reconfigure_of_updatable c now tested
    rw [done] at h
    cases h

theorem coherent_reconfigure {set : PolicySet α} (c : set.Coherent) (now : Instant)
    (update : PolicyConfig) : (set.reconfigure now update).1.Coherent := by
  cases tested : set.updatable? update with
  | error e =>
    rw [reconfigure, tested]
    exact c
  | ok p =>
    obtain ⟨_, _, _, -, -, -, done, coherent⟩ := reconfigure_of_updatable c now tested
    rw [done]
    exact c.insert coherent

theorem coherent_check {ctx : Context σ} {set set' : PolicySet α} {state state' : σ}
    {name : String} {count : Nat} {entry : Entry} (c : set.Coherent)
    (checked : check ctx (set, state) name count = .ok ((set', state'), entry)) :
    set'.Coherent := by
  rw [check] at checked
  split at checked
  · cases checked
    exact c
  · rename_i p found
    obtain ⟨⟨⟨l, _⟩, _⟩, answered, same⟩ := exists_of_map_eq_ok checked
    cases same
    obtain ⟨rfl, valid, kind, shows⟩ := c _ _ found
    obtain ⟨same, shows⟩ := Limiter.shows_check valid kind shows answered
    exact c.insert ⟨rfl, valid, same.trans kind, shows⟩

/-- Every action keeps a set coherent. -/
theorem coherent_act {s s' : PolicySet α × σ} {a : Context σ × Action} (c : s.1.Coherent)
    (acted : act s a = .ok s') : s'.1.Coherent := by
  obtain ⟨set, state⟩ := s
  obtain ⟨ctx, action⟩ := a
  cases action with
  | check name count =>
    obtain ⟨_, checked, rfl⟩ := exists_of_map_eq_ok acted
    exact coherent_check c checked
  | reconfigure update =>
    cases acted
    exact coherent_reconfigure c ctx.now update

theorem coherent_run {s s' : PolicySet α × σ} {actions : List (Context σ × Action)}
    (c : s.1.Coherent) (ran : run s actions = .ok s') : s'.1.Coherent := by
  induction actions generalizing s with
  | nil =>
    cases ran
    exact c
  | cons a rest ih =>
    rw [run, List.foldlM_cons] at ran
    obtain ⟨next, acted, ran⟩ := exists_of_bind_eq_ok ran
    exact ih (coherent_act c acted) ran

/-- **Reloads of policies are atomic and coherent.** After every sequence of checks and reloads,
each policy has valid parameters, and these are the ones in force if its limiter holds any for it.
A reload that fails changes no policy and no limiter. One that passes its tests calls three setters,
none of which fails. -/
theorem reconfigure_coherent {config : LimiterConfig} {hasStore : Bool} {origin : Nat → UInt64}
    {set₀ set : PolicySet α} {state₀ state : σ} {actions : List (Context σ × Action)}
    (built : build? config hasStore origin = .ok set₀)
    (ran : run (set₀, state₀) actions = .ok (set, state)) :
    (∀ name p, set.policies.get? name = some p →
      p.config.validateParameters α = .ok () ∧
      ∀ live, p.limiter.live? name = some live → live = p.config.parameters α) ∧
    (∀ now update e, (set.reconfigure now update).2 = .error e →
      (set.reconfigure now update).1 = set) ∧
    (∀ now update p, set.updatable? update = .ok p →
      ∃ l₁ l₂ l₃, p.limiter.setLimitFor now update.resource = .ok l₁ ∧
        l₁.setBurstFor update.resource = .ok l₂ ∧ l₂.setWindowFor update.resource = .ok l₃ ∧
        set.reconfigure now update =
          (⟨set.policies.insert update.name ⟨update, l₃⟩⟩, .ok ())) := by
  have c : set.Coherent := coherent_run (coherent_build? built) ran
  refine ⟨fun name p found => ⟨(c name p found).valid, (c name p found).shows⟩,
    fun now update e => reconfigure_of_error c, fun now update p tested => ?_⟩
  obtain ⟨l₁, l₂, l₃, limit, burst, window, done, -⟩ := reconfigure_of_updatable c now tested
  exact ⟨l₁, l₂, l₃, limit, burst, window, done⟩

/-- A bucket in process and a window in a store. After a request and a reload of the bucket its new
rate and capacity are in force. A reload to a rate of zero then changes nothing, and the window can
be reloaded before its first request. -/
theorem reconfigure_after_request :
    ∃ set₀ set state bucket window,
      @build? ℚ _ ⟨{}, [⟨"a", .tokenBucket, .inProcess, 5, 10, 1000⟩,
        ⟨"b", .slidingWindow, .shared, 3, 0, 1000⟩]⟩ true (fun _ => 0) = .ok set₀ ∧
      run (set₀, (∅ : Store)) [(Store.context ℚ ⟨0⟩, .check "a" 4),
        (Store.context ℚ ⟨0⟩, .reconfigure ⟨"a", .tokenBucket, .inProcess, 7, 20, 1000⟩)] =
          .ok (set, state) ∧
      set.policies.get? "a" = some bucket ∧ set.policies.get? "b" = some window ∧
      (∀ live, bucket.limiter.live? "a" = some live → live = .bucket 7 20) ∧
      bucket.limiter.live? "a" ≠ none ∧
      (set.reconfigure ⟨0⟩ ⟨"a", .tokenBucket, .inProcess, 0, 20, 1000⟩).1 = set ∧
      ∃ limiter, set.reconfigure ⟨0⟩ ⟨"b", .slidingWindow, .shared, 9, 0, 2000⟩ =
        (⟨set.policies.insert "b" ⟨⟨"b", .slidingWindow, .shared, 9, 0, 2000⟩, limiter⟩⟩,
          .ok ()) := by
  obtain ⟨coherent, failed, passed⟩ := @reconfigure_coherent ℚ _ Store
    ⟨{}, [⟨"a", .tokenBucket, .inProcess, 5, 10, 1000⟩,
      ⟨"b", .slidingWindow, .shared, 3, 0, 1000⟩]⟩ true (fun _ => 0) _ _ ∅ _
    [(Store.context ℚ ⟨0⟩, .check "a" 4),
      (Store.context ℚ ⟨0⟩, .reconfigure ⟨"a", .tokenBucket, .inProcess, 7, 20, 1000⟩)] rfl rfl
  refine ⟨_, _, _, _, _, rfl, rfl, rfl, rfl, (coherent "a" _ rfl).2, Option.some_ne_none _,
    failed _ _ _ rfl, ?_⟩
  obtain ⟨_, _, limiter, -, -, -, done⟩ :=
    passed ⟨0⟩ ⟨"b", .slidingWindow, .shared, 9, 0, 2000⟩ _ rfl
  exact ⟨limiter, done⟩

end PolicySet

end Throttle
