import Throttle.Proofs.Policy.Invariant
import Throttle.Proofs.Policy.Resources

/-!
# Limiters that answer alike

Two limiters need not be the same to answer alike. Their states of a key may have been brought up to
date at different instants, and one of them may have a state where the other would start it. Such
limiters are akin for some resources: these find states that answer alike from now on. The first
request or reload for one of them leaves the same state in both.

## Main definitions

* `TokenBucket.Akin`, `LeakyBucket.Akin`: buckets that are the same at some instants
* `Keyed.Akin`, `Limiter.Akin`: limiters whose states of some resources are akin
* `Policy.Akin`: policies with the same configuration whose limiters are akin
* `PolicySet.replies`: what a run is answered
* `PolicySet.Side`: two policy sets whose policies are related name by name

## Main results

* `Limiter.Akin.check`, `Limiter.Akin.adopt`: requests and setters make akin limiters the same
* `PolicySet.answer_related`: an action on policies that are akin
* `PolicySet.trace_answer_related`: a run on policies that are akin
-/

namespace Throttle

/-- The resources of a key. -/
def Resource.named (key : String) : Set Resource := {r | r.name = key}

/-! ## States -/

/-- Two buckets that are the same once they have been brought up to date at one of some instants. -/
def TokenBucket.Akin {α : Type} [Arithmetic α] (times : Set Instant) (b b' : TokenBucket α) :
    Prop := ∀ now ∈ times, b.refill now = b'.refill now

/-- Two buckets that are the same once they have been brought up to date at one of some instants. -/
def LeakyBucket.Akin {α : Type} [Arithmetic α] (times : Set Instant) (b b' : LeakyBucket α) :
    Prop := ∀ now ∈ times, b.drain now = b'.drain now

namespace Keyed

variable {P S L : Type} {scheme : Scheme P S L} {E : S → S → Prop} {rs : Set Resource}
  {k k' : Keyed scheme} {r : Resource}

/-- Limiters that start states from resources alike, and whose states of some resources are
related. -/
structure Akin (E : S → S → Prop) (rs : Set Resource) (k k' : Keyed scheme) : Prop where
  params : ∀ r, scheme.ofResource k.defaults r = scheme.ofResource k'.defaults r
  states : ∀ r ∈ rs, E (k.stateFor r) (k'.stateFor r)

namespace Akin

theorem mono (h : k.Akin E rs k') {E' : S → S → Prop} {rs' : Set Resource}
    (weaker : ∀ s s', E s s' → E' s s') (sub : rs' ⊆ rs) : k.Akin E' rs' k' :=
  ⟨h.params, fun r member => weaker _ _ (h.states r (sub member))⟩

theorem trans {k'' : Keyed scheme} (h : k.Akin E rs k') (h' : k'.Akin E rs k'')
    (through : ∀ s s' s'', E s s' → E s' s'' → E s s'') : k.Akin E rs k'' :=
  ⟨fun r => (h.params r).trans (h'.params r),
    fun r member => through _ _ _ (h.states r member) (h'.states r member)⟩

/-- Related states that are put under a key are those of its resources. -/
theorem put (h : k.Akin E rs k') {E' : S → S → Prop} (key : String) {s s' : S}
    (related : E' s s') : (k.put key s).Akin E' (Resource.named key) (k'.put key s') where
  params := h.params
  states r named := by rwa [stateFor_put named, stateFor_put named]

/-- **A request** that related states answer alike leaves the same state. -/
theorem check (h : k.Akin E rs k') (member : r ∈ rs)
    (valid : ∀ d, scheme.validate (scheme.ofResource d r) = .ok ())
    {decide : S → Except Fault (S × Except LimiterError Bool)}
    (same : ∀ s s', E s s' → decide s = decide s') {F : S → S → Prop} (refl : ∀ s, F s s) :
    Related (fun x y => x.2 = y.2 ∧ x.1.Akin F (Resource.named r.name) y.1) (k.check decide r)
      (k'.check decide r) := by
  rw [check_of_valid (valid _), check_of_valid (valid _), same _ _ (h.states r member)]
  cases decide (k'.stateFor r) with
  | error fault => exact .error fault
  | ok answer => exact .ok ⟨rfl, h.put r.name (refl _)⟩

end Akin

end Keyed

/-! ## Limiters -/

/-- A request of a shared window carries the parameters of all keys along. -/
theorem SharedSlidingWindow.request_related {σ : Type} (ctx : Context σ)
    (k k' : Keyed SlidingWindow.sharedScheme) (members : MemberNames) (timeout : Option Span)
    (grace : Span) (state : σ) (key : String) (params : SlidingWindow.Config) :
    Related (fun x y => x.2 = y.2 ∧ x.1.2 = y.1.2 ∧
        ∃ members, x.1.1 = ⟨k, members, timeout, grace⟩ ∧ y.1.1 = ⟨k', members, timeout, grace⟩)
      (request ctx ⟨k, members, timeout, grace⟩ state key params)
      (request ctx ⟨k', members, timeout, grace⟩ state key params) := by
  unfold request
  split
  · exact .ok ⟨rfl, rfl, members, rfl, rfl⟩
  · split
    · exact .error _
    · dsimp only
      split
      · exact .error _
      · split
        · exact .error _
        · exact .ok ⟨rfl, rfl, _, rfl, rfl⟩

/-- So does one of a shared log. -/
theorem SharedSlidingLog.request_related {σ : Type} (ctx : Context σ)
    (k k' : Keyed SlidingLog.sharedScheme) (members : MemberNames) (timeout : Option Span)
    (grace : Span) (state : σ) (key : String) (params : SlidingLog.Config) (o : AllowOptions) :
    Related (fun x y => x.2 = y.2 ∧ x.1.2 = y.1.2 ∧
        ∃ members, x.1.1 = ⟨k, members, timeout, grace⟩ ∧ y.1.1 = ⟨k', members, timeout, grace⟩)
      (request ctx ⟨k, members, timeout, grace⟩ state key params o)
      (request ctx ⟨k', members, timeout, grace⟩ state key params o) := by
  unfold request
  split
  · exact .error _
  · exact .ok ⟨rfl, rfl, members, rfl, rfl⟩
  · dsimp only
    split
    · exact .error _
    · split
      · exact .error _
      · exact .ok ⟨rfl, rfl, _, rfl, rfl⟩

namespace Limiter

variable {α : Type} [Arithmetic α] {σ : Type}

/-- Limiters of one kind whose states of some resources are the same at some instants; the shared
ones number requests alike and treat the store alike. -/
inductive Akin (times : Set Instant) (rs : Set Resource) : Limiter α → Limiter α → Prop where
  | tokenBucket {k k' : Keyed (TokenBucket.scheme α)}
    (akin : k.Akin (TokenBucket.Akin times) rs k') : Akin times rs (tokenBucket k) (tokenBucket k')
  | leakyBucket {k k' : Keyed (LeakyBucket.scheme α)}
    (akin : k.Akin (LeakyBucket.Akin times) rs k') : Akin times rs (leakyBucket k) (leakyBucket k')
  | slidingWindow {k k' : Keyed SlidingWindow.scheme} (akin : k.Akin Eq rs k') :
    Akin times rs (slidingWindow k) (slidingWindow k')
  | slidingLog {k k' : Keyed SlidingLog.scheme} (akin : k.Akin Eq rs k') :
    Akin times rs (slidingLog k) (slidingLog k')
  | sharedLeakyBucket {k k' : Keyed (LeakyBucket.sharedScheme α)} {timeout : Option Span}
    (akin : k.Akin Eq rs k') :
    Akin times rs (sharedLeakyBucket ⟨k, timeout⟩) (sharedLeakyBucket ⟨k', timeout⟩)
  | sharedSlidingWindow {k k' : Keyed SlidingWindow.sharedScheme} {members : MemberNames}
    {timeout : Option Span} {grace : Span} (akin : k.Akin Eq rs k') :
    Akin times rs (sharedSlidingWindow ⟨k, members, timeout, grace⟩)
      (sharedSlidingWindow ⟨k', members, timeout, grace⟩)
  | sharedSlidingLog {k k' : Keyed SlidingLog.sharedScheme} {members : MemberNames}
    {timeout : Option Span} {grace : Span} (akin : k.Akin Eq rs k') :
    Akin times rs (sharedSlidingLog ⟨k, members, timeout, grace⟩)
      (sharedSlidingLog ⟨k', members, timeout, grace⟩)

namespace Akin

variable {times times' : Set Instant} {rs rs' : Set Resource} {l l' : Limiter α} {r : Resource}

theorem refl (times : Set Instant) (rs : Set Resource) (l : Limiter α) : l.Akin times rs l := by
  cases l with
  | tokenBucket k => exact .tokenBucket ⟨fun _ => rfl, fun _ _ _ _ => rfl⟩
  | leakyBucket k => exact .leakyBucket ⟨fun _ => rfl, fun _ _ _ _ => rfl⟩
  | slidingWindow k => exact .slidingWindow ⟨fun _ => rfl, fun _ _ => rfl⟩
  | slidingLog k => exact .slidingLog ⟨fun _ => rfl, fun _ _ => rfl⟩
  | sharedLeakyBucket s => exact .sharedLeakyBucket ⟨fun _ => rfl, fun _ _ => rfl⟩
  | sharedSlidingWindow s => exact .sharedSlidingWindow ⟨fun _ => rfl, fun _ _ => rfl⟩
  | sharedSlidingLog s => exact .sharedSlidingLog ⟨fun _ => rfl, fun _ _ => rfl⟩

theorem mono (h : l.Akin times rs l') (fewer : times' ⊆ times) (sub : rs' ⊆ rs) :
    l.Akin times' rs' l' := by
  cases h with
  | tokenBucket akin =>
    exact .tokenBucket (akin.mono (fun _ _ same now member => same now (fewer member)) sub)
  | leakyBucket akin =>
    exact .leakyBucket (akin.mono (fun _ _ same now member => same now (fewer member)) sub)
  | slidingWindow akin => exact .slidingWindow (akin.mono (fun _ _ => id) sub)
  | slidingLog akin => exact .slidingLog (akin.mono (fun _ _ => id) sub)
  | sharedLeakyBucket akin => exact .sharedLeakyBucket (akin.mono (fun _ _ => id) sub)
  | sharedSlidingWindow akin => exact .sharedSlidingWindow (akin.mono (fun _ _ => id) sub)
  | sharedSlidingLog akin => exact .sharedSlidingLog (akin.mono (fun _ _ => id) sub)

theorem trans {l'' : Limiter α} (h : l.Akin times rs l') (h' : l'.Akin times rs l'') :
    l.Akin times rs l'' := by
  cases h with
  | tokenBucket akin =>
    cases h' with
    | tokenBucket akin' =>
      exact .tokenBucket (akin.trans akin' fun _ _ _ same same' now member =>
        (same now member).trans (same' now member))
  | leakyBucket akin =>
    cases h' with
    | leakyBucket akin' =>
      exact .leakyBucket (akin.trans akin' fun _ _ _ same same' now member =>
        (same now member).trans (same' now member))
  | slidingWindow akin =>
    cases h' with
    | slidingWindow akin' => exact .slidingWindow (akin.trans akin' fun _ _ _ => Eq.trans)
  | slidingLog akin =>
    cases h' with
    | slidingLog akin' => exact .slidingLog (akin.trans akin' fun _ _ _ => Eq.trans)
  | sharedLeakyBucket akin =>
    cases h' with
    | sharedLeakyBucket akin' => exact .sharedLeakyBucket (akin.trans akin' fun _ _ _ => Eq.trans)
  | sharedSlidingWindow akin =>
    cases h' with
    | sharedSlidingWindow akin' =>
      exact .sharedSlidingWindow (akin.trans akin' fun _ _ _ => Eq.trans)
  | sharedSlidingLog akin =>
    cases h' with
    | sharedSlidingLog akin' => exact .sharedSlidingLog (akin.trans akin' fun _ _ _ => Eq.trans)

theorem takes_iff (h : l.Akin times rs l') : l.Takes r ↔ l'.Takes r := by
  cases h <;> exact Iff.rfl

/-- **A request to akin limiters** is answered alike, does the same to the store, and leaves them
akin at all instants and for all resources of its key. -/
theorem check (h : l.Akin times rs l') (member : r ∈ rs) (takes : l.Takes r) {ctx : Context σ}
    (now : ctx.now ∈ times) (state : σ) (count : ℕ) (times' : Set Instant) :
    Related (fun x y => x.2 = y.2 ∧ x.1.2 = y.1.2 ∧ x.1.1.Akin times' (Resource.named r.name) y.1.1)
      (l.check ctx state r count) (l'.check ctx state r count) := by
  cases h with
  | tokenBucket akin =>
    refine (akin.check member (TokenBucket.adopts r takes).valid (fun b b' same => ?_)
      (F := TokenBucket.Akin times') fun _ _ _ => rfl).map
        fun _ _ both => ⟨both.1, rfl, .tokenBucket both.2⟩
    simp only [TokenBucket.decide, TokenBucket.allow, same ctx.now now]
  | leakyBucket akin =>
    refine (akin.check member (LeakyBucket.adopts r takes).valid (fun b b' same => ?_)
      (F := LeakyBucket.Akin times') fun _ _ _ => rfl).map
        fun _ _ both => ⟨both.1, rfl, .leakyBucket both.2⟩
    simp only [LeakyBucket.decide, LeakyBucket.allow, same ctx.now now]
  | slidingWindow akin =>
    exact (akin.check member (SlidingWindow.adopts α r takes).valid
      (fun _ _ same => congrArg _ same) fun _ => rfl).map
        fun _ _ both => ⟨both.1, rfl, .slidingWindow both.2⟩
  | slidingLog akin =>
    exact (akin.check member (SlidingLog.adopts α r takes).valid
      (fun _ _ same => congrArg _ same) fun _ => rfl).map
        fun _ _ both => ⟨both.1, rfl, .slidingLog both.2⟩
  | @sharedLeakyBucket k k' timeout akin =>
    have adopts := LeakyBucket.adopts_shared (α := α) r takes
    have same : k.stateFor r = k'.stateFor r := akin.states r member
    simp only [Limiter.check, SharedLeakyBucket.check_of_valid (adopts.valid _), same,
      SharedLeakyBucket.pour]
    -- Both send the same script, so that only their limiters have to be told apart below.
    generalize ctx.eval timeout _ _ _ state = evaluated
    cases evaluated with
    | error fault => exact .error fault
    | ok reply => exact .ok ⟨rfl, rfl, .sharedLeakyBucket (akin.put r.name rfl)⟩
  | @sharedSlidingWindow k k' members timeout grace akin =>
    have adopts := SlidingWindow.adopts_shared α r takes
    have same : k.stateFor r = k'.stateFor r := akin.states r member
    simp only [Limiter.check, SharedSlidingWindow.check_of_valid (adopts.valid _), same]
    refine (SharedSlidingWindow.request_related ctx _ _ members timeout grace state r.name _).map ?_
    rintro ⟨⟨_, _⟩, _⟩ ⟨⟨_, _⟩, _⟩ ⟨answer, store, _, rfl, rfl⟩
    exact ⟨answer, store, .sharedSlidingWindow (akin.put r.name rfl)⟩
  | @sharedSlidingLog k k' members timeout grace akin =>
    have adopts := SlidingLog.adopts_shared α r takes
    have same : k.stateFor r = k'.stateFor r := akin.states r member
    simp only [Limiter.check, SharedSlidingLog.check_of_valid (adopts.valid _), same]
    refine (SharedSlidingLog.request_related ctx _ _ members timeout grace state r.name _ _).map ?_
    rintro ⟨⟨_, _⟩, _⟩ ⟨⟨_, _⟩, _⟩ ⟨answer, store, _, rfl, rfl⟩
    exact ⟨answer, store, .sharedSlidingLog (akin.put r.name rfl)⟩

/-- **A reload of akin limiters** leaves them akin at all instants and for all resources of its
key. -/
theorem adopt (h : l.Akin times rs l') (member : r ∈ rs) {now : Instant} (here : now ∈ times)
    (times' : Set Instant) :
    (l.adopt now r).Akin times' (Resource.named r.name) (l'.adopt now r) := by
  cases h with
  | tokenBucket akin =>
    have same := akin.states r member now here
    refine .tokenBucket (akin.put r.name fun _ _ => ?_)
    simp only [TokenBucket.setRate, same]
  | leakyBucket akin =>
    have same := akin.states r member now here
    refine .leakyBucket (akin.put r.name fun _ _ => ?_)
    simp only [LeakyBucket.setRate, same]
  | slidingWindow akin =>
    exact .slidingWindow (akin.put r.name (by rw [akin.states r member]))
  | slidingLog akin =>
    exact .slidingLog (akin.put r.name (by rw [akin.states r member]))
  | sharedLeakyBucket akin => exact .sharedLeakyBucket (akin.put r.name rfl)
  | sharedSlidingWindow akin => exact .sharedSlidingWindow (akin.put r.name rfl)
  | sharedSlidingLog akin =>
    exact .sharedSlidingLog (akin.put r.name (by rw [akin.states r member]))

end Akin

end Limiter

/-! ## Policy sets -/

/-- Policies of one configuration, whose resource is among some, with limiters that are akin. -/
structure Policy.Akin {α : Type} [Arithmetic α] (times : Set Instant) (rs : Set Resource)
    (p p' : Policy α) : Prop where
  config : p.config = p'.config
  member : p.config.resource ∈ rs
  limiter : p.limiter.Akin times rs p'.limiter

/-- Two runs are answered alike if a relation lasts through every step of them. -/
theorem trace_related {S C A : Type} {step : S → C → Except Fault (S × A)} (R : S → S → Prop)
    {calls : List C}
    (steps : ∀ c ∈ calls, ∀ s s', R s s' →
      Related (fun x y => x.2 = y.2 ∧ R x.1 y.1) (step s c) (step s' c))
    {s s' : S} (start : R s s') :
    Related (fun x y => x.2 = y.2 ∧ R x.1 y.1) (trace step s calls) (trace step s' calls) := by
  induction calls generalizing s s' with
  | nil => exact .ok ⟨rfl, start⟩
  | cons c rest ih =>
    refine (steps c List.mem_cons_self s s' start).bind fun x y ⟨same, related⟩ => ?_
    refine (ih (fun c later => steps c (List.mem_cons_of_mem _ later)) related).map ?_
    exact fun ⟨_, _⟩ ⟨_, _⟩ ⟨answers, related⟩ =>
      ⟨congrArg₂ (fun a as => (c, a) :: as) same answers, related⟩

namespace PolicySet

variable {α : Type} [Arithmetic α] {σ : Type} {names : Set String} {times : Set Instant}
  {rs : String → Set Resource} {set set' : PolicySet α}

/-- What a run is answered, action by action. -/
def replies (s : PolicySet α × σ) (actions : List (Context σ × Action)) :
    Except Fault (List Response) :=
  (trace answer s actions).map fun (_, answers) => answers.map Prod.snd

/-- The replies to a run are the one to its first action and those to the others. -/
theorem replies_cons (s : PolicySet α × σ) (a : Context σ × Action)
    (rest : List (Context σ × Action)) :
    replies s (a :: rest) = (answer s a).bind fun (next, response) =>
      (replies next rest).map (response :: ·) := by
  simp only [replies, trace]
  cases answer s a with
  | error fault => rfl
  | ok x =>
    simp only [Except.bind]
    cases trace answer x.1 rest <;> rfl

/-- An update of a coherent set that passes its tests has a resource that the limiter takes. -/
theorem takes_of_updatable (c : set.Coherent) {update : PolicyConfig} {p : Policy α}
    (passed : set.updatable? update = .ok p) : p.limiter.Takes update.resource := by
  obtain ⟨valid, found, algorithm, backend⟩ := updatable?_eq_ok passed
  exact Limiter.takes_of_valid valid (((c _ _ found).kind).trans (by rw [algorithm, backend]))

/-- A reload of a policy whose limiter takes the resource. -/
theorem reconfigure_of_takes {update : PolicyConfig} {p : Policy α}
    (passed : set.updatable? update = .ok p) (takes : p.limiter.Takes update.resource)
    (now : Instant) :
    set.reconfigure now update =
      (⟨set.policies.insert update.name ⟨update, p.limiter.adopt now update.resource⟩⟩,
        .ok ()) := by
  rw [reconfigure_of_passed passed, Limiter.applyResource_of_takes takes]
  rfl

/-- Two policy sets, side by side: their policies of some names are akin. -/
def Side (names : Set String) (times : Set Instant) (rs : String → Set Resource)
    (set set' : PolicySet α) : Prop :=
  ∀ name ∈ names, Option.Rel (Policy.Akin times (rs name)) (set.policies.get? name)
    (set'.policies.get? name)

namespace Side

theorem refl (c : set.Coherent) (names : Set String) (times : Set Instant) :
    Side names times Resource.named set set := by
  intro name _
  cases found : set.policies.get? name with
  | none => exact .none
  | some p => exact .some ⟨rfl, (c name p found).named, .refl ..⟩

theorem mono {times' : Set Instant} (h : Side names times rs set set') (fewer : times' ⊆ times) :
    Side names times' rs set set' := by
  intro name member
  have akin := h name member
  generalize set.policies.get? name = held, set'.policies.get? name = held' at akin ⊢
  cases akin with
  | none => exact .none
  | some akin => exact .some ⟨akin.config, akin.member, akin.limiter.mono fewer subset_rfl⟩

/-- Policies that are akin may take the place of others. -/
theorem insert (h : Side names times rs set set') {name : String} {p p' : Policy α}
    (akin : p.Akin times (rs name) p') :
    Side names times rs ⟨set.policies.insert name p⟩ ⟨set'.policies.insert name p'⟩ := by
  intro other member
  rw [Table.get?_insert, Table.get?_insert]
  split
  · rename_i same
    exact .some (same ▸ akin)
  · exact h other member

/-- A policy of the first set gives way to one that is akin to the same. -/
theorem insert_left (h : Side names times rs set set') {name : String} {p q : Policy α}
    (found : set.policies.get? name = some p)
    (through : ∀ p', p.Akin times (rs name) p' → q.Akin times (rs name) p') :
    Side names times rs ⟨set.policies.insert name q⟩ set' := by
  intro other member
  have akin := h other member
  rw [Table.get?_insert]
  split
  · rename_i same
    subst same
    rw [found] at akin
    generalize set'.policies.get? name = held at akin ⊢
    cases akin with
    | some akin => exact .some (through _ akin)
  · exact akin

end Side

variable {ctx : Context σ}

/-- A check of policies that are akin. -/
theorem check_related (side : Side names times rs set set') (c : set.Coherent) (state : σ)
    {name : String} (own : name ∈ names) (named : rs name ⊆ Resource.named name)
    (now : ctx.now ∈ times) (count : ℕ) :
    Related (fun x y => x.2 = y.2 ∧ x.1.2 = y.1.2 ∧ Side names times rs x.1.1 y.1.1)
      (check ctx (set, state) name count) (check ctx (set', state) name count) := by
  have akin := side name own
  rw [check, check]
  generalize found : set.policies.get? name = held, set'.policies.get? name = held' at akin
  cases akin with
  | none => exact .ok ⟨rfl, rfl, side⟩
  | @some p p' akin =>
    obtain ⟨rfl, valid, kind, -⟩ := c name p found
    dsimp only
    rw [← akin.config]
    refine (akin.limiter.check akin.member (Limiter.takes_of_valid valid kind) now state count
      times).map ?_
    rintro _ _ ⟨outcome, store, limiters⟩
    exact ⟨congrArg Entry.ofOutcome outcome, store,
      side.insert ⟨rfl, akin.member, limiters.mono subset_rfl named⟩⟩

/-- A reload of policies that are akin. -/
theorem reconfigure_related (side : Side names times rs set set') (c : set.Coherent)
    {update : PolicyConfig} (own : update.name ∈ names)
    (named : rs update.name ⊆ Resource.named update.name)
    (member : update.resource ∈ rs update.name) {now : Instant} (here : now ∈ times) :
    (set.reconfigure now update).2 = (set'.reconfigure now update).2 ∧
      Side names times rs (set.reconfigure now update).1 (set'.reconfigure now update).1 := by
  have passes := updatable?_related (fun _ _ akin => akin.config) (side update.name own)
  cases passed : set.updatable? update with
  | error e =>
    rw [passed] at passes
    generalize passed' : set'.updatable? update = y at passes
    cases passes
    rw [reconfigure_of_refused passed, reconfigure_of_refused passed']
    exact ⟨rfl, side⟩
  | ok p =>
    obtain ⟨p', passed', akin⟩ := passes.exists_of_eq_ok passed
    have takes := takes_of_updatable c passed
    rw [reconfigure_of_takes passed takes, reconfigure_of_takes passed'
      (akin.limiter.takes_iff.1 takes)]
    exact ⟨rfl, side.insert ⟨rfl, member, (akin.limiter.adopt member here times).mono subset_rfl
      named⟩⟩

/-- **An action on policies that are akin** is answered alike, does the same to the store, and
leaves them akin. -/
theorem answer_related (side : Side names times rs set set') (c : set.Coherent) (state : σ)
    {action : Action} (own : action.name ∈ names)
    (named : rs action.name ⊆ Resource.named action.name)
    (member : ∀ update, action = .reconfigure update → update.resource ∈ rs update.name)
    (now : ctx.now ∈ times) :
    Related (fun x y => x.2 = y.2 ∧ x.1.2 = y.1.2 ∧ Side names times rs x.1.1 y.1.1)
      (answer (set, state) (ctx, action)) (answer (set', state) (ctx, action)) := by
  cases action with
  | check name count =>
    exact (check_related side c state own named now count).map fun _ _ ⟨entry, states, side⟩ =>
      ⟨congrArg Response.entry entry, states, side⟩
  | reconfigure update =>
    obtain ⟨result, side⟩ := reconfigure_related side c own named (member update rfl) now
    rw [answer_reconfigure, answer_reconfigure]
    exact .ok ⟨congrArg Response.reload result, rfl, side⟩

/-- **A run on policies that are akin** is answered alike, does the same to the store, and leaves
them akin. -/
theorem trace_answer_related (side : Side names times rs set set') (c : set.Coherent) (state : σ)
    {actions : List (Context σ × Action)}
    (own : ∀ a ∈ actions, a.2.name ∈ names ∧ rs a.2.name ⊆ Resource.named a.2.name ∧
      ∀ update, a.2 = .reconfigure update → update.resource ∈ rs update.name)
    (now : ∀ a ∈ actions, a.1.now ∈ times) :
    Related (fun x y => x.2 = y.2 ∧ x.1.1.Coherent ∧ x.1.2 = y.1.2 ∧
        Side names times rs x.1.1 y.1.1)
      (trace answer (set, state) actions) (trace answer (set', state) actions) := by
  refine trace_related
    (fun s s' : PolicySet α × σ => s.1.Coherent ∧ s.2 = s'.2 ∧ Side names times rs s.1 s'.1)
    ?_ ⟨c, rfl, side⟩
  rintro ⟨ctx, action⟩ member ⟨set, state⟩ ⟨set', _⟩ ⟨c, rfl, side⟩
  obtain ⟨own, named, updates⟩ := own _ member
  exact ((answer_related side c state own named updates (now _ member)).and_left
    fun _ => answer_keeps c).mono fun _ _ ⟨⟨same, rest⟩, c, _⟩ => ⟨same, c, rest⟩

theorem replies_eq_of_side (side : Side names times rs set set') (c : set.Coherent) (state : σ)
    {actions : List (Context σ × Action)}
    (own : ∀ a ∈ actions, a.2.name ∈ names ∧ rs a.2.name ⊆ Resource.named a.2.name ∧
      ∀ update, a.2 = .reconfigure update → update.resource ∈ rs update.name)
    (now : ∀ a ∈ actions, a.1.now ∈ times) :
    replies (set, state) actions = replies (set', state) actions := by
  have related := trace_answer_related side c state own now
  unfold replies
  generalize trace answer (set, state) actions = x, trace answer (set', state) actions = y
    at related
  cases related with
  | ok related => exact congrArg (fun answers => Except.ok (answers.map Prod.snd)) related.1
  | error fault => rfl

end PolicySet

end Throttle
