import Throttle.Proofs.Isolation.Policies
import Throttle.Proofs.Policy.Reload

/-!
# What holds of every policy of a set

A check replaces the limiter of its policy, and a reload the policy that it names; both leave the
others alone. So what holds of every new policy, and what requests and setters keep, holds of all
policies of a set after every sequence of actions.

## Main definitions

* `PolicySet.All`: what holds of every policy of a set

## Main results

* `PolicySet.all_build?`: what holds of new policies holds of those of a new set
* `PolicySet.All.act`, `PolicySet.All.run`: what an action and a run keep
-/

namespace Throttle

namespace PolicySet

variable {α : Type} [Arithmetic α] {σ : Type} {P Q : String → Policy α → Prop}

/-- What holds of every policy of a set. -/
def All (P : String → Policy α → Prop) (set : PolicySet α) : Prop :=
  ∀ name p, set.policies.get? name = some p → P name p

theorem All.mono {set : PolicySet α} (h : set.All P) (step : ∀ name p, P name p → Q name p) :
    set.All Q := fun name p found => step name p (h name p found)

/-- A policy of which it holds may take the place of another. -/
theorem All.insert {set : PolicySet α} (h : set.All P) {name : String} {p : Policy α}
    (holds : P name p) : All P ⟨set.policies.insert name p⟩ := by
  intro other q found
  rw [Table.get?_insert] at found
  split at found
  · rename_i same
    cases found
    exact same ▸ holds
  · exact h other q found

theorem all_policies? {settings : StoreSettings} {hasStore : Bool} {origin : ℕ → UInt64} {n : ℕ}
    {configs : List PolicyConfig} {table table' : Table (Policy α)}
    (new : ∀ p ∈ configs, ∀ n l, p.limiter? α settings hasStore (origin n) = .ok l →
      P p.name ⟨p, l⟩)
    (built : policies? settings hasStore origin n configs table = .ok table')
    (h : All P ⟨table⟩) : All P ⟨table'⟩ := by
  induction configs generalizing n table with
  | nil =>
    cases built
    exact h
  | cons p rest ih =>
    rw [policies?] at built
    split at built
    · cases built
    · rename_i l made
      exact ih (fun q member => new q (List.mem_cons_of_mem _ member)) built
        (h.insert (new p List.mem_cons_self n l made))

/-- **What holds of new policies** holds of those of a new set. -/
theorem all_build? {config : LimiterConfig} {hasStore : Bool} {origin : ℕ → UInt64}
    {set : PolicySet α}
    (new : ∀ p ∈ config.policies, ∀ n l, p.limiter? α config.store hasStore (origin n) = .ok l →
      P p.name ⟨p, l⟩)
    (built : build? config hasStore origin = .ok set) : set.All P := by
  unfold build? at built
  split at built
  · cases built
  · obtain ⟨table, made, rfl⟩ := exists_of_map_eq_ok built
    exact all_policies? new made fun _ _ found => by cases found

/-- What requests and setters make of a policy, at an instant. -/
structure Keeps (P Q : String → Policy α → Prop) (ctx : Context σ) : Prop where
  mono : ∀ name p, P name p → Q name p
  check : ∀ {name p} {state : σ} {count l next outcome}, p.Coherent name → P name p →
    p.limiter.check ctx state p.config.resource count = .ok ((l, next), outcome) →
    Q name { p with limiter := l }
  apply : ∀ {p : Policy α} {update : PolicyConfig}, p.Coherent update.name → P update.name p →
    update.validateParameters α = .ok () →
    p.limiter.kind = (update.algorithm, update.backend) →
    Q update.name ⟨update, (applyResource p.limiter ctx.now update.resource).1⟩

/-- A reload that passes its tests puts the update in force. -/
theorem reconfigure_eq_of_updatable {set : PolicySet α} (c : set.Coherent) (now : Instant)
    {update : PolicyConfig} {p : Policy α} (tested : set.updatable? update = .ok p) :
    set.reconfigure now update =
      (⟨set.policies.insert update.name
        ⟨update, (applyResource p.limiter now update.resource).1⟩⟩, .ok ()) := by
  obtain ⟨_, _, _, limit, burst, window, done, -⟩ := reconfigure_of_updatable c now tested
  rw [done]
  simp only [applyResource, limit, burst, window]

/-- **What an action keeps.** -/
theorem All.act {ctx : Context σ} (keeps : Keeps P Q ctx) {s s' : PolicySet α × σ}
    {action : Action} (c : s.1.Coherent) (h : s.1.All P) (acted : act s (ctx, action) = .ok s') :
    s'.1.All Q := by
  obtain ⟨set, state⟩ := s
  have stays : set.All Q := h.mono keeps.mono
  cases action with
  | check name count =>
    obtain ⟨_, checked, rfl⟩ := exists_of_map_eq_ok acted
    rw [PolicySet.check] at checked
    split at checked
    · cases checked
      exact stays
    · rename_i p found
      obtain ⟨⟨⟨l, next⟩, outcome⟩, answered, rfl⟩ := exists_of_map_eq_ok checked
      exact stays.insert (keeps.check (c name p found) (h name p found) answered)
  | reconfigure update =>
    cases acted
    cases tested : set.updatable? update with
    | error e =>
      rw [reconfigure_of_refused tested]
      exact stays
    | ok p =>
      obtain ⟨valid, found, algorithm, backend⟩ := updatable?_eq_ok tested
      have coherent := c update.name p found
      rw [reconfigure_eq_of_updatable c ctx.now tested]
      exact stays.insert (keeps.apply coherent (h update.name p found) valid
        (coherent.kind.trans (by rw [algorithm, backend])))

/-- **What a run keeps.** -/
theorem All.run (keeps : ∀ ctx : Context σ, Keeps P P ctx) {s s' : PolicySet α × σ}
    {actions : List (Context σ × Action)} (c : s.1.Coherent) (h : s.1.All P)
    (ran : run s actions = .ok s') : s'.1.All P := by
  induction actions generalizing s with
  | nil =>
    cases ran
    exact h
  | cons a rest ih =>
    rw [PolicySet.run, List.foldlM_cons] at ran
    obtain ⟨next, acted, ran⟩ := exists_of_bind_eq_ok ran
    exact ih (coherent_act c acted) (h.act (keeps a.1) c acted) ran

end PolicySet

end Throttle
