import Throttle.Proofs.Isolation.Limiters
import Throttle.Proofs.Policy.Reload

/-!
# Keys and policies do not interfere

The policies of a set have limiters of their own, and each limiter serves one key, which is the name
of its policy. All shared limiters write into one store. Still the checks and the reloads of one
policy are answered as if there were no other policies: what other policies do changes neither this
limiter nor what the store shows of its key. Here not even the names of members differ, as the
limiter numbers the requests of one key only.

## Main definitions

* `PolicySet.answer`: a policy set takes an action
* `PolicySet.respond`: a policy set over a store in memory takes an action
* `PolicySet.UsesStore`: some policy of the set is shared
* `PolicySet.Mirrors`: a run and the run without the actions on other policies

## Main results

* `PolicySet.answer_keeps`: no action changes the kind of a policy
* `PolicySet.Mirrors.kept`, `PolicySet.Mirrors.dropped`: an action on the policy, and one on another
* `PolicySet.exists_trace_of_buckets`: shared buckets take every sequence of actions
* `noninterference`: calls about one key and actions on one policy are answered as if there were no
  others
-/

namespace Throttle

/-- What is related is so together with what holds of the first value. -/
theorem Related.and_left {ε β γ : Type} {r : β → γ → Prop} {p : β → Prop} {x : Except ε β}
    {y : Except ε γ} (h : Related r x y) (holds : ∀ b, x = .ok b → p b) :
    Related (fun b c => r b c ∧ p b) x y := by
  cases h with
  | ok related => exact .ok ⟨related, holds _ rfl⟩
  | error e => exact .error e

/-- And with what holds of the second one. -/
theorem Related.and_right {ε β γ : Type} {r : β → γ → Prop} {p : γ → Prop} {x : Except ε β}
    {y : Except ε γ} (h : Related r x y) (holds : ∀ c, y = .ok c → p c) :
    Related (fun b c => r b c ∧ p c) x y := by
  cases h with
  | ok related => exact .ok ⟨related, holds _ rfl⟩
  | error e => exact .error e

variable {α : Type} [Arithmetic α]

namespace Limiter

/-- Limiters that had the same names have the same names afterwards. -/
theorem Effect.members?_eq {now : Instant} {key : String} {before before' x y : Limiter α × Store}
    (effect : Effect (fun _ => (· = ·)) now key before before' x y)
    (same : before.1.members? = before'.1.members?) : x.1.members? = y.1.members? := by
  cases effect with
  | none _ _ members members' => rw [members, members', same]
  | script drew _ members members' => rw [members, members', same]

/-- Two setters, one after the other. -/
theorem Changed.trans {keys : Set String} {key : String} {a a' b b' c c' : Limiter α}
    (first : Changed keys key a a' b b') (second : Changed keys key b b' c c') :
    Changed keys key a a' c c' where
  agree := second.agree
  others := first.others.trans second.others
  members := second.members.trans first.members
  members' := second.members'.trans first.members'

end Limiter

/-- Two policies of one configuration whose limiters agree on a key and number requests alike. -/
structure Policy.Agree (name : String) (p p' : Policy α) : Prop where
  config : p.config = p'.config
  limiter : p.limiter.AgreeOn {name} p'.limiter
  members : p.limiter.members? = p'.limiter.members?

namespace PolicySet

/-- The three setters of a resource do the same to limiters that agree on its key. -/
theorem applyResource_related {l l' : Limiter α} {r : Resource} {keys : Set String}
    (h : l.AgreeOn keys l') (own : r.name ∈ keys) (now : Instant) :
    (applyResource l now r).2 = (applyResource l' now r).2 ∧
      Limiter.Changed keys r.name l l' (applyResource l now r).1 (applyResource l' now r).1 := by
  have limit : Related (Limiter.Changed keys r.name l l') (l.setLimitFor now r)
      (l'.setLimitFor now r) := Limiter.change_related h own (Keyed.confined_changeFor r _)
  unfold applyResource
  generalize l.setLimitFor now r = x, l'.setLimitFor now r = y at limit
  cases limit with
  | error e => exact ⟨rfl, .of_agree h r.name⟩
  | @ok l₁ l₁' first =>
    have burst : Related (Limiter.Changed keys r.name l₁ l₁') (l₁.setBurstFor r)
        (l₁'.setBurstFor r) :=
      Limiter.change_related first.agree own (Keyed.confined_changeFor r _)
    dsimp only
    generalize l₁.setBurstFor r = x, l₁'.setBurstFor r = y at burst
    cases burst with
    | error e => exact ⟨rfl, first⟩
    | @ok l₂ l₂' second =>
      have window : Related (Limiter.Changed keys r.name l₂ l₂') (l₂.setWindowFor r)
          (l₂'.setWindowFor r) :=
        Limiter.change_related second.agree own (Keyed.confined_changeFor r _)
      dsimp only
      generalize l₂.setWindowFor r = x, l₂'.setWindowFor r = y at window
      cases window with
      | error e => exact ⟨rfl, first.trans second⟩
      | ok third => exact ⟨rfl, (first.trans second).trans third⟩

/-- The configuration of a policy after an update with the given result. -/
def configAfter (update current : PolicyConfig) : Except LimiterError Unit → PolicyConfig
  | .ok () => update
  | .error _ => current

/-- An update that fails its tests does nothing. -/
theorem reconfigure_of_refused {set : PolicySet α} {update : PolicyConfig} {e : LimiterError}
    (refused : set.updatable? update = .error e) (now : Instant) :
    set.reconfigure now update = (set, .error e) := by
  rw [reconfigure, refused]

/-- What an update that passes its tests does. -/
theorem reconfigure_of_passed {set : PolicySet α} {update : PolicyConfig} {p : Policy α}
    (passed : set.updatable? update = .ok p) (now : Instant) :
    set.reconfigure now update =
      let applied := applyResource p.limiter now update.resource
      (⟨set.policies.insert update.name ⟨configAfter update p.config applied.2, applied.1⟩⟩,
        applied.2) := by
  rw [reconfigure, passed]
  dsimp only
  generalize applyResource p.limiter now update.resource = applied
  obtain ⟨l, _ | _⟩ := applied <;> rfl

/-- The policy that an action is about. -/
def Action.name : Action → String
  | check name _ => name
  | reconfigure update => update.name

/-- What an action is answered. -/
inductive Response where
  | entry (entry : Entry)
  | reload (result : Except LimiterError Unit)

/-- A policy set takes an action in some context. -/
def answer {σ : Type} : PolicySet α × σ → Context σ × Action →
    Except Fault ((PolicySet α × σ) × Response)
  | (set, state), (ctx, .check name count) =>
    (check ctx (set, state) name count).map fun (next, entry) => (next, .entry entry)
  | (set, state), (ctx, .reconfigure update) =>
    let (set, result) := set.reconfigure ctx.now update
    .ok ((set, state), .reload result)

theorem answer_reconfigure {σ : Type} (set : PolicySet α) (state : σ) (ctx : Context σ)
    (update : PolicyConfig) :
    answer (set, state) (ctx, .reconfigure update) =
      .ok (((set.reconfigure ctx.now update).1, state),
        .reload (set.reconfigure ctx.now update).2) :=
  rfl

/-- An action leaves behind what it does in a run. -/
theorem act_eq_answer {σ : Type} (s : PolicySet α × σ) (a : Context σ × Action) :
    act s a = (answer s a).map Prod.fst := by
  obtain ⟨set, state⟩ := s
  obtain ⟨ctx, action⟩ := a
  cases action with
  | check name count =>
    simp only [act, answer]
    cases check ctx (set, state) name count <;> rfl
  | reconfigure update => rfl

/-- A policy set over a store in memory takes an action at an instant. -/
def respond : PolicySet α × Store → Instant × Action →
    Except Fault ((PolicySet α × Store) × Response)
  | (set, store), (now, .check name count) =>
    (check (Store.context α now) (set, store) name count).map fun (next, entry) =>
      (next, .entry entry)
  | (set, store), (now, .reconfigure update) =>
    let (set, result) := set.reconfigure now update
    .ok ((set, store), .reload result)

theorem respond_eq_answer (s : PolicySet α × Store) (now : Instant) (action : Action) :
    respond s (now, action) = answer s (Store.context α now, action) := by
  cases action <;> rfl

theorem respond_reconfigure (set : PolicySet α) (store : Store) (now : Instant)
    (update : PolicyConfig) :
    respond (set, store) (now, .reconfigure update) =
      .ok (((set.reconfigure now update).1, store), .reload (set.reconfigure now update).2) :=
  rfl

/-- An action leaves the other policies as they are. -/
theorem get?_answer_of_ne {σ : Type} {s : PolicySet α × σ} {a : Context σ × Action}
    {x : (PolicySet α × σ) × Response} (answered : answer s a = .ok x) {name : String}
    (other : a.2.name ≠ name) : x.1.1.policies.get? name = s.1.policies.get? name := by
  obtain ⟨set, state⟩ := s
  obtain ⟨ctx, action⟩ := a
  cases action with
  | check own count =>
    obtain ⟨_, checked, rfl⟩ := exists_of_map_eq_ok answered
    rw [check] at checked
    split at checked
    · cases checked
      rfl
    · obtain ⟨⟨⟨_, _⟩, _⟩, -, rfl⟩ := exists_of_map_eq_ok checked
      exact (Table.get?_insert ..).trans (if_neg other)
  | reconfigure update =>
    rw [answer_reconfigure, Except.ok.injEq] at answered
    subst answered
    cases passed : set.updatable? update with
    | error e => rw [reconfigure_of_refused passed]
    | ok p =>
      rw [reconfigure_of_passed passed]
      exact (Table.get?_insert ..).trans (if_neg other)

/-- The algorithm and the backend of a policy. -/
def kind? (set : PolicySet α) (name : String) : Option (Algorithm × Backend) :=
  (set.policies.get? name).map fun p => (p.config.algorithm, p.config.backend)

/-- Some policy of a set keeps its state in the store. -/
def UsesStore (set : PolicySet α) : Prop :=
  ∃ name algorithm, set.kind? name = some (algorithm, .shared)

/-- A policy in the place of one of its kind. -/
theorem kind?_insert {set : PolicySet α} {name : String} {p q : Policy α}
    (found : set.policies.get? name = some p) (algorithm : p.config.algorithm = q.config.algorithm)
    (backend : p.config.backend = q.config.backend) (other : String) :
    kind? ⟨set.policies.insert name q⟩ other = set.kind? other := by
  rw [kind?, kind?, Table.get?_insert]
  split
  · rename_i same
    rw [← same, found, Option.map_some, Option.map_some, algorithm, backend]
  · rfl

/-- The tests of an update: those of its own, and that there is a policy of its kind. -/
theorem exists_updatable_iff {set : PolicySet α} {update : PolicyConfig} :
    (∃ p, set.updatable? update = .ok p) ↔
      update.validate = .ok () ∧ update.validateParameters α = .ok () ∧
        set.kind? update.name = some (update.algorithm, update.backend) := by
  constructor
  · rintro ⟨p, passed⟩
    obtain ⟨_, named, -⟩ := exists_of_bind_eq_ok passed
    obtain ⟨valid, found, algorithm, backend⟩ := updatable?_eq_ok passed
    exact ⟨named, valid, by rw [kind?, found, Option.map_some, algorithm, backend]⟩
  · rintro ⟨named, valid, kind⟩
    obtain ⟨p, found, same⟩ := Option.map_eq_some_iff.1 kind
    refine ⟨p, ?_⟩
    rw [updatable?, named, valid, found]
    exact if_pos (Prod.mk.inj same)

/-- An action keeps a set coherent, and no policy changes its kind. -/
theorem answer_keeps {σ : Type} {s : PolicySet α × σ} {a : Context σ × Action}
    {x : (PolicySet α × σ) × Response} (c : s.1.Coherent) (answered : answer s a = .ok x) :
    x.1.1.Coherent ∧ ∀ name, x.1.1.kind? name = s.1.kind? name := by
  obtain ⟨set, state⟩ := s
  obtain ⟨ctx, action⟩ := a
  refine ⟨coherent_act (a := (ctx, action)) c (by
    rw [act_eq_answer, answered]; rfl), fun other => ?_⟩
  cases action with
  | check name count =>
    obtain ⟨_, checked, rfl⟩ := exists_of_map_eq_ok answered
    rw [check] at checked
    split at checked
    · cases checked
      rfl
    · rename_i p found
      obtain ⟨⟨⟨_, _⟩, _⟩, -, rfl⟩ := exists_of_map_eq_ok checked
      exact kind?_insert found (by rfl) (by rfl) other
  | reconfigure update =>
    rw [answer_reconfigure, Except.ok.injEq] at answered
    subst answered
    dsimp only
    cases passed : set.updatable? update with
    | error e => rw [reconfigure_of_refused passed]
    | ok p =>
      obtain ⟨-, found, algorithm, backend⟩ := updatable?_eq_ok passed
      rw [reconfigure_of_passed passed]
      dsimp only
      cases (applyResource p.limiter ctx.now update.resource).2 with
      | ok => exact kind?_insert found algorithm backend other
      | error e => exact kind?_insert found (by rfl) (by rfl) other

/-- Neither does a run. -/
theorem run_keeps {σ : Type} {s s' : PolicySet α × σ} {actions : List (Context σ × Action)}
    (c : s.1.Coherent) (ran : run s actions = .ok s') :
    s'.1.Coherent ∧ ∀ name, s'.1.kind? name = s.1.kind? name := by
  induction actions generalizing s with
  | nil =>
    cases ran
    exact ⟨c, fun _ => rfl⟩
  | cons a rest ih =>
    rw [run, List.foldlM_cons, act_eq_answer] at ran
    obtain ⟨next, acted, ran⟩ := exists_of_bind_eq_ok ran
    obtain ⟨x, answered, rfl⟩ := exists_of_map_eq_ok acted
    obtain ⟨coherent, kinds⟩ := answer_keeps c answered
    obtain ⟨coherent', kinds'⟩ := ih coherent ran
    exact ⟨coherent', fun name => (kinds' name).trans (kinds name)⟩

theorem respond_keeps {s : PolicySet α × Store} {a : Instant × Action}
    {x : (PolicySet α × Store) × Response} (c : s.1.Coherent) (responded : respond s a = .ok x) :
    x.1.1.Coherent ∧ ∀ name, x.1.1.kind? name = s.1.kind? name :=
  answer_keeps c ((respond_eq_answer s a.1 a.2).symm.trans responded)

/-! ## Side by side -/

/-- Two policy sets over stores after actions at the times in `done`: the policy of a name is the
same in both, and the stores show the same of it whenever the next action may be taken. -/
structure Alike (name : String) (initial : PolicySet α) (done : List (Instant × Action))
    (s s' : PolicySet α × Store) : Prop where
  agree : Option.Rel (Policy.Agree name) (s.1.policies.get? name) (s'.1.policies.get? name)
  stores : ∀ later, (initial.UsesStore → ∀ a ∈ done, a.1 ≤ later) →
    s.2.Agree (· = ·) later name s'.2

/-- A run of a policy set from `initial` over a store, and the run without the actions on other
policies. -/
structure Mirrors (name : String) (initial : PolicySet α) (done : List (Instant × Action))
    (s s' : PolicySet α × Store) : Prop extends Alike name initial done s s' where
  coherent : s.1.Coherent
  kinds : ∀ other, s.1.kind? other = initial.kind? other

/-- Updates of policies of one configuration pass their tests together. -/
theorem updatable?_related {set set' : PolicySet α} {update : PolicyConfig}
    {R : Policy α → Policy α → Prop} (config : ∀ p p', R p p' → p.config = p'.config)
    (related : Option.Rel R (set.policies.get? update.name) (set'.policies.get? update.name)) :
    Related R (set.updatable? update) (set'.updatable? update) := by
  refine .bind_same _ fun _ => .bind_same _ fun _ => ?_
  generalize set.policies.get? update.name = held, set'.policies.get? update.name = held' at related
  cases related with
  | none => exact .error _
  | some related =>
    dsimp only
    rw [← config _ _ related]
    split
    · exact .ok related
    · exact .error _

namespace Mirrors

variable {name : String} {initial : PolicySet α} {done : List (Instant × Action)}
  {a : Instant × Action} {s s' : PolicySet α × Store}

/-- A set mirrors itself. -/
theorem start (name : String) {set : PolicySet α} (c : set.Coherent) (store : Store) :
    Mirrors name set [] (set, store) (set, store) where
  coherent := c
  kinds _ := rfl
  agree := by
    cases set.policies.get? name with
    | none => exact .none
    | some p => exact .some ⟨rfl, .refl .., rfl⟩
  stores _ _ := .refl (fun _ => rfl) ..

/-- What comes last is not earlier than what came before. -/
theorem le_now (ordered : initial.UsesStore → ((done ++ [a]).map Prod.fst).Pairwise (· ≤ ·))
    (uses : initial.UsesStore) : ∀ b ∈ done, b.1 ≤ a.1 := by
  have inOrder := ordered uses
  rw [List.map_append, List.pairwise_append] at inOrder
  exact fun b found => inOrder.2.2 _ (List.mem_map_of_mem found) _ (by simp)

/-- Stores that are left alone agree as before. -/
theorem stores_extend (h : Mirrors name initial done s s') (a : Instant × Action) (later : Instant)
    (order : initial.UsesStore → ∀ b ∈ done ++ [a], b.1 ≤ later) :
    s.2.Agree (· = ·) later name s'.2 :=
  h.stores later fun uses b found => order uses b (List.mem_append_left _ found)

/-- Policies of a shared limiter are reason enough to keep the clock in order. -/
theorem uses_of_shared (h : Mirrors name initial done s s') {other : String} {p : Policy α}
    (found : s.1.policies.get? other = some p) (shared : p.limiter.kind.2 = .shared) :
    initial.UsesStore := by
  rw [(h.coherent other p found).kind] at shared
  refine ⟨other, p.config.algorithm, ?_⟩
  rw [← h.kinds, kind?, found, Option.map_some, ← shared]

/-- A policy that is put in place agrees with the one that is put in place in the other run. -/
theorem agree_insert {set set' : PolicySet α} {p p' : Policy α} (agree : p.Agree name p') :
    Option.Rel (Policy.Agree name) ((set.policies.insert name p).get? name)
      ((set'.policies.insert name p').get? name) := by
  rw [Table.get?_insert, Table.get?_insert, if_pos rfl, if_pos rfl]
  exact .some agree

/-- A check of the policy goes to limiters that are in step. -/
theorem check_related {now : Instant} {count : Nat} (h : Mirrors name initial done s s')
    (ordered : initial.UsesStore →
      ((done ++ [(now, Action.check name count)]).map Prod.fst).Pairwise (· ≤ ·)) :
    Related (fun x y => x.2 = y.2 ∧
        Alike name initial (done ++ [(now, Action.check name count)]) x.1 y.1)
      (check (Store.context α now) s name count) (check (Store.context α now) s' name count) := by
  obtain ⟨set, store⟩ := s
  obtain ⟨set', store'⟩ := s'
  have stay := h.stores_extend (now, Action.check name count)
  have agree : Option.Rel (Policy.Agree name) (set.policies.get? name)
    (set'.policies.get? name) := h.agree
  rw [check, check]
  generalize found : set.policies.get? name = held, found' : set'.policies.get? name = held'
    at agree
  cases agree with
  | none => exact .ok ⟨rfl, by rw [found, found']; exact .none, stay⟩
  | @some p p' agree =>
    have uses := h.uses_of_shared found
    -- The resource of a policy has its name.
    have named : p.config.resource.name = name := (h.coherent name p found).named
    have ready : Limiter.Ready (fun _ => (· = ·)) now p.config.resource.name (p.limiter, store)
        (p'.limiter, store') := by
      refine ⟨fun m held m' held' => ?_, fun shared => ?_⟩
      · rw [agree.members, held', Option.some.injEq] at held
        exact held ▸ .eq _
      · rw [named]
        exact h.stores now fun used => le_now ordered used
    dsimp only
    rw [← agree.config]
    refine (Limiter.check_related agree.limiter named ready count).map ?_
    rintro ⟨⟨l, next⟩, _⟩ ⟨⟨l', next'⟩, _⟩ ⟨same, limiters, -, effect⟩
    refine ⟨congrArg Entry.ofOutcome same,
      agree_insert ⟨rfl, limiters, effect.members?_eq agree.members⟩, ?_⟩
    cases effect with
    | none untouched untouched' _ _ =>
      obtain rfl : next = store := untouched
      obtain rfl : next' = store' := untouched'
      exact stay
    | script _ shared _ _ after =>
      rw [named] at after
      exact fun later order => after.agree.later
        (order (uses shared) (now, Action.check name count) (by simp))

/-- A reload of the policy goes to limiters that agree. -/
theorem reconfigure_related {update : PolicyConfig} (h : Mirrors update.name initial done s s')
    (now : Instant) :
    (s.1.reconfigure now update).2 = (s'.1.reconfigure now update).2 ∧
      Alike update.name initial (done ++ [(now, Action.reconfigure update)])
        ((s.1.reconfigure now update).1, s.2) ((s'.1.reconfigure now update).1, s'.2) := by
  have stay := h.stores_extend (now, Action.reconfigure update)
  have passes := updatable?_related (fun _ _ agree => agree.config) h.agree
  cases passed : s.1.updatable? update with
  | error e =>
    rw [passed] at passes
    generalize passed' : s'.1.updatable? update = y at passes
    cases passes
    rw [reconfigure_of_refused passed, reconfigure_of_refused passed']
    exact ⟨rfl, h.agree, stay⟩
  | ok p =>
    obtain ⟨p', passed', agree⟩ := passes.exists_of_eq_ok passed
    obtain ⟨same, changed⟩ := applyResource_related agree.limiter rfl now (r := update.resource)
    rw [reconfigure_of_passed passed, reconfigure_of_passed passed']
    refine ⟨same, ?_, stay⟩
    dsimp only
    rw [← same, ← agree.config]
    exact agree_insert
      ⟨rfl, changed.agree, by rw [changed.members, changed.members', agree.members]⟩

/-- A check of another policy leaves no trace of the policy. -/
theorem check_others {now : Instant} {other : String} {count : Nat}
    (h : Mirrors name initial done s s') (differs : other ≠ name)
    {x : (PolicySet α × Store) × Entry}
    (checked : check (Store.context α now) s other count = .ok x) :
    Alike name initial (done ++ [(now, Action.check other count)]) x.1 s' := by
  obtain ⟨set, store⟩ := s
  have stay := h.stores_extend (now, Action.check other count)
  rw [check] at checked
  split at checked
  · cases checked
    exact ⟨h.agree, stay⟩
  · rename_i p found
    obtain ⟨⟨⟨l, next⟩, _⟩, stepped, rfl⟩ := exists_of_map_eq_ok checked
    have named : p.config.resource.name = other := (h.coherent other p found).named
    obtain ⟨-, _, effect⟩ := Limiter.check_others stepped
    refine ⟨?_, fun later order => ?_⟩
    · rw [Table.get?_insert, if_neg differs]
      exact h.agree
    · cases effect with
      | none untouched _ _ _ =>
        obtain rfl : next = store := untouched
        exact stay later order
      | script _ shared _ _ after =>
        rw [named] at after
        exact (stay later order).of_sameBut after.others differs.symm
          (order (h.uses_of_shared found shared) (now, Action.check other count) (by simp))

/-- Nor does a reload of another policy. -/
theorem reconfigure_others {now : Instant} {update : PolicyConfig}
    (h : Mirrors name initial done s s') (differs : update.name ≠ name) :
    Alike name initial (done ++ [(now, Action.reconfigure update)])
      ((s.1.reconfigure now update).1, s.2) s' := by
  refine ⟨?_, h.stores_extend (now, Action.reconfigure update)⟩
  cases passed : s.1.updatable? update with
  | error e =>
    rw [reconfigure_of_refused passed]
    exact h.agree
  | ok p =>
    rw [reconfigure_of_passed passed]
    dsimp only
    rw [Table.get?_insert, if_neg differs]
    exact h.agree

/-- **An action on the policy is answered alike**, and what is left is still side by side. -/
theorem kept (h : Mirrors name initial done s s')
    (ordered : initial.UsesStore → ((done ++ [a]).map Prod.fst).Pairwise (· ≤ ·))
    (own : a.2.name = name) :
    Related (fun x y => x.2 = y.2 ∧ Mirrors name initial (done ++ [a]) x.1 y.1) (respond s a)
      (respond s' a) := by
  suffices related : Related (fun x y => x.2 = y.2 ∧ Alike name initial (done ++ [a]) x.1 y.1)
      (respond s a) (respond s' a) from
    (related.and_left fun _ => respond_keeps h.coherent).mono
      fun _ _ ⟨⟨same, alike⟩, coherent, kinds⟩ =>
        ⟨same, alike, coherent, fun other => (kinds other).trans (h.kinds other)⟩
  obtain ⟨now, action⟩ := a
  subst own
  cases action with
  | check name count =>
    exact (h.check_related ordered).map fun ⟨_, _⟩ ⟨_, _⟩ ⟨same, alike⟩ =>
      ⟨congrArg Response.entry same, alike⟩
  | reconfigure update =>
    obtain ⟨same, alike⟩ := h.reconfigure_related now
    rw [respond_reconfigure, respond_reconfigure]
    exact .ok ⟨congrArg Response.reload same, alike⟩

/-- **An action on another policy leaves no trace** of the policy. -/
theorem dropped (h : Mirrors name initial done s s') (differs : a.2.name ≠ name)
    {x : (PolicySet α × Store) × Response} (responded : respond s a = .ok x) :
    Mirrors name initial (done ++ [a]) x.1 s' := by
  obtain ⟨coherent, kinds⟩ := respond_keeps h.coherent responded
  suffices alike : Alike name initial (done ++ [a]) x.1 s' from
    ⟨alike, coherent, fun other => (kinds other).trans (h.kinds other)⟩
  obtain ⟨now, action⟩ := a
  cases action with
  | check other count =>
    obtain ⟨⟨_, _⟩, checked, rfl⟩ := exists_of_map_eq_ok responded
    exact h.check_others differs checked
  | reconfigure update =>
    rw [respond_reconfigure, Except.ok.injEq] at responded
    exact responded ▸ h.reconfigure_others differs

end Mirrors

/-- **The actions on a policy are answered as if there were no others**, whatever the store held
before. -/
theorem trace_filter_name {set : PolicySet α} (c : set.Coherent) (store : Store)
    {actions : List (Instant × Action)}
    (ordered : set.UsesStore → (actions.map Prod.fst).Pairwise (· ≤ ·)) (name : String)
    {last : PolicySet α × Store} {answers : List ((Instant × Action) × Response)}
    (ran : trace respond (set, store) actions = .ok (last, answers)) :
    ∃ last', trace respond (set, store) (actions.filter fun a => a.2.name = name) =
      .ok (last', answers.filter fun e => e.1.2.name = name) :=
  trace_filter (Mirrors name set)
    (fun reached own h => h.kept
      (fun uses => (ordered uses).sublist (reached.sublist.map _)) (by simpa using own))
    (fun _ other h responded => h.dropped (by simpa using other) responded)
    (.start name c store) ran

/-! ## Buckets in a store -/

/-- A policy of a new set is one of its configuration. -/
theorem config_mem_of_policies? {settings : StoreSettings} {hasStore : Bool}
    {origin : Nat → UInt64} {n : Nat} {configs : List PolicyConfig}
    {table table' : Table (Policy α)}
    (built : policies? settings hasStore origin n configs table = .ok table') {name : String}
    {p : Policy α} (found : table'.get? name = some p) :
    p.config ∈ configs ∨ table.get? name = some p := by
  induction configs generalizing n table with
  | nil =>
    cases built
    exact .inr found
  | cons config rest ih =>
    rw [policies?] at built
    split at built
    · cases built
    · obtain configured | held := ih built
      · exact .inl (List.mem_cons_of_mem _ configured)
      · rw [Table.get?_insert] at held
        split at held
        · cases held
          exact .inl List.mem_cons_self
        · exact .inr held

/-- A new set has policies of the configured kinds. -/
theorem exists_config_of_build? {config : LimiterConfig} {hasStore : Bool} {origin : Nat → UInt64}
    {set : PolicySet α} (built : build? config hasStore origin = .ok set) {name : String}
    {kind : Algorithm × Backend} (held : set.kind? name = some kind) :
    ∃ p ∈ config.policies, kind = (p.algorithm, p.backend) := by
  obtain ⟨p, found, rfl⟩ := Option.map_eq_some_iff.1 held
  unfold build? at built
  split at built
  · cases built
  · obtain ⟨table, made, rfl⟩ := exists_of_map_eq_ok built
    obtain configured | none := config_mem_of_policies? made found
    · exact ⟨p.config, configured, rfl⟩
    · cases none

/-- A set whose policies are all leaky buckets in the store. -/
def Buckets (set : PolicySet α) : Prop :=
  ∀ name kind, set.kind? name = some kind → kind = (.leakyBucket, .shared)

/-- Shared buckets do not fault. -/
theorem exists_respond_of_buckets {s : PolicySet α × Store} (c : s.1.Coherent)
    (buckets : s.1.Buckets) (a : Instant × Action) : ∃ x, respond s a = .ok x := by
  obtain ⟨set, store⟩ := s
  obtain ⟨now, action⟩ := a
  cases action with
  | check name count =>
    suffices checked : ∃ y, check (Store.context α now) (set, store) name count = .ok y by
      obtain ⟨y, checked⟩ := checked
      exact ⟨_, by rw [respond, checked, Except.map]⟩
    rw [check]
    split
    · exact ⟨_, rfl⟩
    · rename_i p found
      have kind : p.limiter.kind = (.leakyBucket, .shared) :=
        (c name p found).kind.trans (buckets name _ (by rw [kind?, found]; rfl))
      generalize p.limiter = l at kind
      cases l <;> cases kind
      simp only [Limiter.check, SharedLeakyBucket.check]
      split
      · exact ⟨_, rfl⟩
      · simp only [SharedLeakyBucket.pour, Store.eval_context, Except.map]
        exact ⟨_, rfl⟩
  | reconfigure update => exact ⟨_, rfl⟩

/-- A set of shared buckets takes every sequence of actions. -/
theorem exists_trace_of_buckets {set : PolicySet α} (c : set.Coherent) (buckets : set.Buckets)
    (store : Store) (actions : List (Instant × Action)) :
    ∃ last answers, trace respond (set, store) actions = .ok (last, answers) := by
  refine exists_trace (fun s => s.1.Coherent ∧ s.1.Buckets) ?_ ⟨c, buckets⟩
  rintro s a - ⟨c, buckets⟩
  obtain ⟨x, responded⟩ := exists_respond_of_buckets c buckets a
  obtain ⟨coherent, kinds⟩ := respond_keeps c responded
  exact ⟨x, responded, coherent, fun name kind held => buckets name kind (kinds name ▸ held)⟩

end PolicySet

/-- **Keys and policies do not interfere.** In every run of limiters over one store, the calls about
a key are answered as in the run without the calls about other keys. In every run of a policy set,
the checks and the reloads of a policy are answered as in the run without those of other
policies. -/
theorem noninterference (α : Type) [Arithmetic α] :
    (∀ {ι : Type} [DecidableEq ι] {limiters : ι → Limiter α} {events : List (Limiters.Event ι α)}
        {last : (ι → Limiter α) × Store} {answers : List (Limiters.Event ι α × Limiter.Outcome)},
      Limiters.Regular limiters events →
      trace Limiters.step (limiters, ∅) events = .ok (last, answers) → ∀ key : String,
      ∃ last', trace Limiters.step (limiters, ∅) (events.filter fun e => e.call.key = key) =
        .ok (last', answers.filter fun e => e.1.call.key = key)) ∧
    (∀ {config : LimiterConfig} {hasStore : Bool} {origin : Nat → UInt64} {set : PolicySet α}
        {store : Store} {actions : List (Instant × PolicySet.Action)} {last : PolicySet α × Store}
        {answers : List ((Instant × PolicySet.Action) × PolicySet.Response)},
      PolicySet.build? config hasStore origin = .ok set →
      (set.UsesStore → (actions.map Prod.fst).Pairwise (· ≤ ·)) →
      trace PolicySet.respond (set, store) actions = .ok (last, answers) → ∀ name : String,
      ∃ last', trace PolicySet.respond (set, store) (actions.filter fun a => a.2.name = name) =
        .ok (last', answers.filter fun e => e.1.2.name = name)) :=
  ⟨fun regular ran key => Limiters.trace_filter_key regular key ran,
    fun built ordered ran name =>
      PolicySet.trace_filter_name (PolicySet.coherent_build? built) _ ordered name ran⟩

/-- Two windows over one store, of two requests in one and a half microseconds. -/
def twinWindows (i : Bool) : Limiter ℚ :=
  .sharedSlidingWindow
    ⟨⟨⟨2, ⟨1500⟩⟩, rfl, ∅⟩, .ofOrigin (if i then 1 else 0), none, defaultGrace⟩

/-- Requests of two keys, three of them at one time. -/
def interleaved : List (Limiters.Event Bool ℚ) :=
  [⟨⟨1700⟩, true, .allow "a" {}⟩, ⟨⟨2000⟩, false, .allow "b" {}⟩, ⟨⟨2000⟩, true, .allow "a" {}⟩,
    ⟨⟨2000⟩, true, .allow "b" {}⟩, ⟨⟨3200⟩, false, .allow "a" {}⟩]

/-- Two leaky buckets in a store. -/
def twinBuckets : LimiterConfig :=
  ⟨{}, [⟨"a", .leakyBucket, .shared, 5, 10, 1000⟩, ⟨"b", .leakyBucket, .shared, 3, 4, 1000⟩]⟩

/-- Checks of two policies, and a reload of one of them. -/
def mixed : List (Instant × PolicySet.Action) :=
  [(⟨1700⟩, .check "a" 4), (⟨2000⟩, .check "b" 3),
    (⟨2000⟩, .reconfigure ⟨"b", .leakyBucket, .shared, 7, 2, 1000⟩), (⟨3200⟩, .check "a" 7)]

theorem windows_twinWindows : Limiters.Windows ⟨1500⟩ twinWindows :=
  fun _ => ⟨_, rfl, fun _ => rfl, rfl⟩

theorem regular_interleaved : Limiters.Regular twinWindows interleaved where
  unused _ _ named := by
    cases named
    rfl
  apart i j _ _ named named' same := by
    cases named
    cases named'
    cases i <;> cases j <;> first | rfl | cases same
  ordered _ := by decide
  paced i _ _ := Nat.le_trans List.count_le_length (by cases i <;> decide)

theorem exists_trace_interleaved :
    ∃ last answers, trace Limiters.step (twinWindows, ∅) interleaved = .ok (last, answers) := by
  refine Limiters.exists_trace_windows rfl windows_twinWindows ∅ ?_
  simp only [interleaved, List.forall_mem_cons]
  exact ⟨⟨rfl, _, _, rfl⟩, ⟨rfl, _, _, rfl⟩, ⟨rfl, _, _, rfl⟩, ⟨rfl, _, _, rfl⟩,
    ⟨rfl, _, _, rfl⟩, fun _ => nofun⟩

theorem buckets_twinBuckets {set : PolicySet ℚ}
    (built : PolicySet.build? twinBuckets true (fun _ => 0) = .ok set) : set.Buckets := by
  intro name kind held
  obtain ⟨p, configured, rfl⟩ := PolicySet.exists_config_of_build? built held
  have shared : ∀ p ∈ twinBuckets.policies, (p.algorithm, p.backend) = (.leakyBucket, .shared) :=
    by decide
  exact shared p configured

/-- The requests of a key to two windows, and the checks of one of two shared policies. -/
theorem twins_apart :
    (∃ last answers last', trace Limiters.step (twinWindows, ∅) interleaved = .ok (last, answers) ∧
      trace Limiters.step (twinWindows, ∅) (interleaved.filter fun e => e.call.key = "a") =
        .ok (last', answers.filter fun e => e.1.call.key = "a")) ∧
    ∃ (set : PolicySet ℚ) (last : PolicySet ℚ × Store)
      (answers : List ((Instant × PolicySet.Action) × PolicySet.Response))
      (last' : PolicySet ℚ × Store),
      PolicySet.build? twinBuckets true (fun _ => 0) = .ok set ∧
      trace PolicySet.respond (set, ∅) mixed = .ok (last, answers) ∧
      trace PolicySet.respond (set, ∅) (mixed.filter fun a => a.2.name = "a") =
        .ok (last', answers.filter fun e => e.1.2.name = "a") := by
  obtain ⟨keys, policies⟩ := noninterference ℚ
  constructor
  · obtain ⟨last, answers, ran⟩ := exists_trace_interleaved
    obtain ⟨last', apart⟩ := keys regular_interleaved ran "a"
    exact ⟨last, answers, last', ran, apart⟩
  · obtain ⟨set, built⟩ :
        ∃ set : PolicySet ℚ, PolicySet.build? twinBuckets true (fun _ => 0) = .ok set := ⟨_, rfl⟩
    obtain ⟨last, answers, ran⟩ := PolicySet.exists_trace_of_buckets
      (PolicySet.coherent_build? built) (buckets_twinBuckets built) ∅ mixed
    obtain ⟨last', apart⟩ := policies built (fun _ => by decide) ran "a"
    exact ⟨set, last, answers, last', built, ran, apart⟩

end Throttle
