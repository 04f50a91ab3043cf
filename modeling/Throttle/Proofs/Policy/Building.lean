import Mathlib.Data.List.Forall2
import Mathlib.Data.List.Nodup
import Throttle.Proofs.Policy.Invariant
import Throttle.Proofs.Policy.Resources

/-!
# Policy sets that can be built

A set can be built from a configuration if the policies have names of their own, each of them passes
the tests that a reload would make of it, and there is a store if any is shared. Where two
configurations have the same names in the same order, the sets that are built from them can be
compared policy by policy.

## Main definitions

* `PolicyConfig.Buildable`: a policy for which there is a limiter

## Main results

* `PolicySet.exists_build?_iff`: the configurations of which there is a set
* `PolicySet.exists_get?_of_build?`: every policy of a configuration is in the set
* `PolicySet.related_of_build?`: two sets are related if their new policies are, one by one
-/

namespace Throttle

/-- There are states by key exactly for valid parameters. -/
theorem Keyed.exists_create?_iff {P S L : Type} {scheme : Scheme P S L} {defaults : P} :
    (∃ k, create? scheme defaults = .ok k) ↔ scheme.validate defaults = .ok () := by
  constructor
  · rintro ⟨k, created⟩
    exact (valid_of_create? created).1
  · intro valid
    unfold create?
    split
    · exact ⟨_, rfl⟩
    · rename_i refused
      rw [valid] at refused
      cases refused

variable {α : Type} [Arithmetic α]

/-- A policy for which there is a limiter: it passes the tests of an update, and there is a store if
it is shared. -/
def PolicyConfig.Buildable (α : Type) [Arithmetic α] (hasStore : Bool) (p : PolicyConfig) : Prop :=
  p.validate = .ok () ∧ p.validateParameters α = .ok () ∧ (p.backend = .shared → hasStore = true)

theorem PolicyConfig.exists_limiter?_iff {p : PolicyConfig} (valid : p.validate = .ok ())
    {settings : StoreSettings} {hasStore : Bool} {origin : UInt64} :
    (∃ l, p.limiter? α settings hasStore origin = .ok l) ↔ p.Buildable α hasStore := by
  obtain ⟨name, algorithm, backend, limit, burst, millis⟩ := p
  simp only [Buildable, valid, true_and]
  cases backend with
  | inProcess =>
    cases algorithm <;>
      exact exists_map_eq_ok_iff.trans (Keyed.exists_create?_iff.trans (by simp; rfl))
  | shared =>
    cases hasStore with
    | false => simp [limiter?]
    | true =>
      cases algorithm with
      | tokenBucket =>
        -- A shared token bucket does not even pass the test of its kind.
        unfold validate at valid
        split at valid <;> simp at valid
      | leakyBucket | slidingWindow | slidingLog =>
        exact exists_map_eq_ok_iff.trans (exists_map_eq_ok_iff.trans
          (Keyed.exists_create?_iff.trans (by simp; rfl)))

/-- The tests of names and kinds. -/
theorem LimiterConfig.validateFrom_eq_ok_iff {seen : List String} {ps : List PolicyConfig} :
    validateFrom seen ps = .ok () ↔
      (∀ p ∈ ps, p.validate = .ok ()) ∧ (ps.map PolicyConfig.name).Nodup ∧
        ∀ p ∈ ps, p.name ∉ seen := by
  induction ps generalizing seen with
  | nil => simp [validateFrom]
  | cons p rest ih =>
    rw [validateFrom]
    split
    · rename_i refused
      simp [refused]
    · rename_i valid
      split
      · rename_i known
        simp [known]
      · rename_i new
        rw [ih]
        grind

namespace PolicySet

theorem exists_policies?_iff {settings : StoreSettings} {hasStore : Bool} {origin : ℕ → UInt64}
    {n : ℕ} {configs : List PolicyConfig} (valid : ∀ p ∈ configs, p.validate = .ok ())
    {table : Table (Policy α)} :
    (∃ table', policies? settings hasStore origin n configs table = .ok table') ↔
      ∀ p ∈ configs, p.Buildable α hasStore := by
  induction configs generalizing n table with
  | nil => simp [policies?]
  | cons p rest ih =>
    have first : (∃ l, p.limiter? α settings hasStore (origin n) = .ok l) ↔
        p.Buildable α hasStore :=
      PolicyConfig.exists_limiter?_iff (valid p List.mem_cons_self)
    rw [policies?, List.forall_mem_cons, ← first]
    split
    · rename_i refused
      simp [refused]
    · rename_i l made
      rw [ih fun q member => valid q (List.mem_cons_of_mem _ member)]
      simp [made]

/-- **The configurations of which there is a set.** -/
theorem exists_build?_iff {config : LimiterConfig} {hasStore : Bool} {origin : ℕ → UInt64} :
    (∃ set : PolicySet α, build? config hasStore origin = .ok set) ↔
      (config.policies.map PolicyConfig.name).Nodup ∧
        ∀ p ∈ config.policies, p.Buildable α hasStore := by
  unfold build?
  split
  · rename_i refused
    simp only [reduceCtorEq, exists_false, false_iff]
    rintro ⟨distinct, buildable⟩
    have valid := LimiterConfig.validateFrom_eq_ok_iff.2
      ⟨fun p member => (buildable p member).1, distinct, fun _ _ => List.not_mem_nil⟩
    rw [LimiterConfig.validate, valid] at refused
    cases refused
  · rename_i valid
    obtain ⟨valid, distinct, -⟩ := LimiterConfig.validateFrom_eq_ok_iff.1 valid
    rw [exists_map_eq_ok_iff, exists_policies?_iff valid]
    exact (and_iff_right distinct).symm

/-- Policies that are built stay in the table. -/
theorem get?_policies?_ne_none {settings : StoreSettings} {hasStore : Bool} {origin : ℕ → UInt64}
    {n : ℕ} {configs : List PolicyConfig} {table table' : Table (Policy α)}
    (built : policies? settings hasStore origin n configs table = .ok table') {name : String}
    (there : (∃ p ∈ configs, p.name = name) ∨ table.get? name ≠ none) :
    table'.get? name ≠ none := by
  induction configs generalizing n table with
  | nil =>
    cases built
    simpa using there
  | cons p rest ih =>
    rw [policies?] at built
    split at built
    · cases built
    · refine ih built ?_
      rw [Table.get?_insert]
      split
      · exact .inr (Option.some_ne_none _)
      · rename_i differs
        refine there.imp ?_ id
        rintro ⟨q, member, named⟩
        exact ⟨q, (List.mem_cons.1 member).resolve_left fun same => differs (same ▸ named), named⟩

/-- **Every policy of a configuration is in the set.** -/
theorem exists_get?_of_build? {config : LimiterConfig} {hasStore : Bool} {origin : ℕ → UInt64}
    {set : PolicySet α} (built : build? config hasStore origin = .ok set) {p : PolicyConfig}
    (member : p ∈ config.policies) : ∃ l, set.policies.get? p.name = some ⟨p, l⟩ := by
  have distinct := (exists_build?_iff.1 ⟨set, built⟩).1
  have coherent := coherent_build? built
  unfold build? at built
  split at built
  · cases built
  · obtain ⟨table, made, rfl⟩ := exists_of_map_eq_ok built
    obtain ⟨⟨q, l⟩, found⟩ :=
      Option.ne_none_iff_exists'.1 (get?_policies?_ne_none made (.inl ⟨p, member, rfl⟩))
    refine ⟨l, found.trans ?_⟩
    -- The policy that is found is the only one of its name.
    have configured : q ∈ config.policies :=
      (config_mem_of_policies? made found).resolve_right nofun
    have named : q.name = p.name := (coherent _ _ found).named
    rw [List.inj_on_of_nodup_map distinct configured member named]

/-- Two tables whose new policies are related. -/
theorem related_of_policies? {R : String → Policy α → Policy α → Prop} {settings : StoreSettings}
    {hasStore : Bool} {origin origin' : ℕ → UInt64} {n : ℕ} {configs configs' : List PolicyConfig}
    {table₀ table₀' table table' : Table (Policy α)}
    (new : List.Forall₂ (fun p p' => p.name = p'.name ∧ ∀ n l l',
      p.limiter? α settings hasStore (origin n) = .ok l →
      p'.limiter? α settings hasStore (origin' n) = .ok l' → R p.name ⟨p, l⟩ ⟨p', l'⟩)
      configs configs')
    (related : ∀ name, Option.Rel (R name) (table₀.get? name) (table₀'.get? name))
    (built : policies? settings hasStore origin n configs table₀ = .ok table)
    (built' : policies? settings hasStore origin' n configs' table₀' = .ok table')
    (name : String) : Option.Rel (R name) (table.get? name) (table'.get? name) := by
  induction new generalizing n table₀ table₀' with
  | nil =>
    cases built
    cases built'
    exact related name
  | @cons p p' _ _ both _ ih =>
    rw [policies?] at built built'
    split at built
    · cases built
    · rename_i l made
      split at built'
      · cases built'
      · rename_i l' made'
        refine ih (fun other => ?_) built built'
        rw [← both.1, Table.get?_insert, Table.get?_insert]
        split
        · rename_i same
          exact same ▸ .some (both.2 n l l' made made')
        · exact related other

/-- **Two sets are related** if their new policies are, one by one. -/
theorem related_of_build? {R : String → Policy α → Policy α → Prop} {config config' : LimiterConfig}
    {hasStore : Bool} {origin origin' : ℕ → UInt64} {set set' : PolicySet α}
    (settings : config'.store = config.store)
    (new : List.Forall₂ (fun p p' => p.name = p'.name ∧ ∀ n l l',
      p.limiter? α config.store hasStore (origin n) = .ok l →
      p'.limiter? α config.store hasStore (origin' n) = .ok l' → R p.name ⟨p, l⟩ ⟨p', l'⟩)
      config.policies config'.policies)
    (built : build? config hasStore origin = .ok set)
    (built' : build? config' hasStore origin' = .ok set') (name : String) :
    Option.Rel (R name) (set.policies.get? name) (set'.policies.get? name) := by
  unfold build? at built built'
  split at built
  · cases built
  · split at built'
    · cases built'
    · obtain ⟨table, made, rfl⟩ := exists_of_map_eq_ok built
      obtain ⟨table', made', rfl⟩ := exists_of_map_eq_ok built'
      rw [settings] at made'
      exact related_of_policies? new (fun _ => .none) made made' name

end PolicySet

end Throttle
