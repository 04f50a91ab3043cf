import Throttle.Proofs.Isolation.Store
import Throttle.Proofs.Policy.Parameters

/-!
# Calls about one key

A call is about one key. Two limiters that agree on it, over stores that agree on it, answer a call
alike and agree afterwards; and nothing changes under the other keys, in the limiter or in the
store. A shared window or log draws at most one name for a call, and whether it does so is the same
on both sides.

Everything that a call does is said by one relation between what two limiters become. What one
limiter does to the other keys is the case in which both are the same.

## Main definitions

* `Limiter.members?`: the names of a limiter that has any
* `Limiter.AgreeOn keys`: limiters of one kind that agree on some keys
* `Limiter.InStep`: what two limiters and their stores become by the same call

## Main results

* `Limiter.step_related`: **a call keeps two limiters in step**
* `Limiter.step_others`: a call changes nothing under the other keys
-/

namespace Throttle

/-- The names after a call that draws one, or none. -/
def MemberNames.after (now : Instant) (drew : Bool) (m : MemberNames) : MemberNames :=
  if drew then (m.next now.micros).1 else m

@[simp] theorem MemberNames.origin_after (now : Instant) (drew : Bool) (m : MemberNames) :
    (m.after now drew).origin = m.origin := by
  cases drew <;> rfl

/-- Two stores after a call about a key: they agree on it, and the first one shows the same as
before of all other keys. -/
structure Store.After (R : SortedSet → SortedSet → Prop) (now : Instant) (key : String)
    (before s s' : Store) : Prop where
  agree : s.Agree R now key s'
  others : before.SameBut key now s

namespace Limiter

variable {α : Type} [Arithmetic α]

/-- The names of a limiter that has any. -/
def members? : Limiter α → Option MemberNames
  | sharedSlidingWindow s => some s.members
  | sharedSlidingLog s => some s.members
  | _ => none

/-- Limiters of one kind that have the same parameters and agree on some keys. -/
inductive AgreeOn (keys : Set String) : Limiter α → Limiter α → Prop where
  | tokenBucket {k k' : Keyed (TokenBucket.scheme α)} (agree : k.AgreeOn keys k') :
    AgreeOn keys (tokenBucket k) (tokenBucket k')
  | leakyBucket {k k' : Keyed (LeakyBucket.scheme α)} (agree : k.AgreeOn keys k') :
    AgreeOn keys (leakyBucket k) (leakyBucket k')
  | slidingWindow {k k' : Keyed SlidingWindow.scheme} (agree : k.AgreeOn keys k') :
    AgreeOn keys (slidingWindow k) (slidingWindow k')
  | slidingLog {k k' : Keyed SlidingLog.scheme} (agree : k.AgreeOn keys k') :
    AgreeOn keys (slidingLog k) (slidingLog k')
  | sharedLeakyBucket {k k' : Keyed (LeakyBucket.sharedScheme α)} {timeout : Option Span}
    (agree : k.AgreeOn keys k') :
    AgreeOn keys (sharedLeakyBucket ⟨k, timeout⟩) (sharedLeakyBucket ⟨k', timeout⟩)
  | sharedSlidingWindow {k k' : Keyed SlidingWindow.sharedScheme} {m m' : MemberNames}
    {timeout : Option Span} {grace : Span} (agree : k.AgreeOn keys k') :
    AgreeOn keys (sharedSlidingWindow ⟨k, m, timeout, grace⟩)
      (sharedSlidingWindow ⟨k', m', timeout, grace⟩)
  | sharedSlidingLog {k k' : Keyed SlidingLog.sharedScheme} {m m' : MemberNames}
    {timeout : Option Span} {grace : Span} (agree : k.AgreeOn keys k') :
    AgreeOn keys (sharedSlidingLog ⟨k, m, timeout, grace⟩)
      (sharedSlidingLog ⟨k', m', timeout, grace⟩)

namespace AgreeOn

variable {keys keys' : Set String} {l l' l'' : Limiter α}

theorem refl (keys : Set String) (l : Limiter α) : l.AgreeOn keys l := by
  cases l with
  | tokenBucket k => exact .tokenBucket (.refl ..)
  | leakyBucket k => exact .leakyBucket (.refl ..)
  | slidingWindow k => exact .slidingWindow (.refl ..)
  | slidingLog k => exact .slidingLog (.refl ..)
  | sharedLeakyBucket s => exact .sharedLeakyBucket (.refl ..)
  | sharedSlidingWindow s => exact .sharedSlidingWindow (.refl ..)
  | sharedSlidingLog s => exact .sharedSlidingLog (.refl ..)

theorem symm (h : l.AgreeOn keys l') : l'.AgreeOn keys l := by
  cases h <;> constructor <;> exact Keyed.AgreeOn.symm ‹_›

theorem trans (h : l.AgreeOn keys l') (h' : l'.AgreeOn keys l'') : l.AgreeOn keys l'' := by
  cases h <;> cases h' <;> constructor <;> exact Keyed.AgreeOn.trans ‹_› ‹_›

theorem mono (h : l.AgreeOn keys l') (sub : keys' ⊆ keys) : l.AgreeOn keys' l' := by
  cases h <;> constructor <;> exact Keyed.AgreeOn.mono ‹_› sub

theorem kind_eq (h : l.AgreeOn keys l') : l.kind = l'.kind := by
  cases h <;> rfl

end AgreeOn

/-! ## In step -/

/-- What the same call does to two stores and to the names of the limiters: nothing, or what a
script does that may name a request. -/
inductive Effect (R : Bool → SortedSet → SortedSet → Prop) (now : Instant) (key : String)
    (before before' after after' : Limiter α × Store) : Prop where
  | none (store : after.2 = before.2) (store' : after'.2 = before'.2)
    (members : after.1.members? = before.1.members?)
    (members' : after'.1.members? = before'.1.members?)
  | script (drew : Bool) (shared : before.1.kind.2 = .shared)
    (members : after.1.members? = before.1.members?.map (MemberNames.after now drew))
    (members' : after'.1.members? = before'.1.members?.map (MemberNames.after now drew))
    (stores : before.2.After (R drew) now key after.2 after'.2)

/-- Two limiters with their stores after the same call about `key`: the answers are the same, the
limiters agree on `keys`, and the first one has changed nothing under the other keys. -/
structure InStep {β : Type} (R : Bool → SortedSet → SortedSet → Prop) (keys : Set String)
    (now : Instant) (key : String) (before before' : Limiter α × Store)
    (x y : (Limiter α × Store) × β) : Prop where
  answer : x.2 = y.2
  agree : x.1.1.AgreeOn keys y.1.1
  others : before.1.AgreeOn {key}ᶜ x.1.1
  effect : Effect R now key before before' x.1 y.1

/-- What the same setter on `key` makes of two limiters. -/
structure Changed (keys : Set String) (key : String) (before before' l l' : Limiter α) : Prop where
  agree : l.AgreeOn keys l'
  others : before.AgreeOn {key}ᶜ l
  members : l.members? = before.members?
  members' : l'.members? = before'.members?

section

variable {R : Bool → SortedSet → SortedSet → Prop} {keys : Set String} {now : Instant}
  {key : String} {l l' : Limiter α} {s s' : Store}

/-! ## Setters -/

/-- Setters of all states keep two limiters in step. -/
theorem change_related (h : l.AgreeOn keys l') (own : key ∈ keys)
    {setter : ∀ {P S L : Type} {scheme : Scheme P S L},
      Keyed scheme → Except LimiterError (Keyed scheme)}
    (confined : ∀ {P S L : Type} {scheme : Scheme P S L},
      Keyed.ConfinedSetter key fun k : Keyed scheme => setter k) :
    Related (Changed keys key l l') (l.change setter) (l'.change setter) := by
  cases h with
  | tokenBucket agree =>
    exact (confined.related own agree).map fun _ _ h =>
      ⟨.tokenBucket h.1, .tokenBucket h.2, rfl, rfl⟩
  | leakyBucket agree =>
    exact (confined.related own agree).map fun _ _ h =>
      ⟨.leakyBucket h.1, .leakyBucket h.2, rfl, rfl⟩
  | slidingWindow agree =>
    exact (confined.related own agree).map fun _ _ h =>
      ⟨.slidingWindow h.1, .slidingWindow h.2, rfl, rfl⟩
  | slidingLog agree =>
    exact (confined.related own agree).map fun _ _ h =>
      ⟨.slidingLog h.1, .slidingLog h.2, rfl, rfl⟩
  | sharedLeakyBucket agree =>
    exact (confined.related own agree).map fun _ _ h =>
      ⟨.sharedLeakyBucket h.1, .sharedLeakyBucket h.2, rfl, rfl⟩
  | sharedSlidingWindow agree =>
    exact (confined.related own agree).map fun _ _ h =>
      ⟨.sharedSlidingWindow h.1, .sharedSlidingWindow h.2, rfl, rfl⟩
  | sharedSlidingLog agree =>
    exact (confined.related own agree).map fun _ _ h =>
      ⟨.sharedSlidingLog h.1, .sharedSlidingLog h.2, rfl, rfl⟩

/-- So does a setter that a limiter has no use for. -/
theorem Changed.of_agree (h : l.AgreeOn keys l') (key : String) : Changed keys key l l' l l' :=
  ⟨h, .refl .., rfl, rfl⟩

theorem setRate_related (h : l.AgreeOn keys l') (own : key ∈ keys) (now : Instant) (rate : α) :
    Related (Changed keys key l l') (l.setRate now key rate) (l'.setRate now key rate) := by
  cases h with
  | tokenBucket agree =>
    exact ((Keyed.confined_change key _).related own agree).map fun _ _ h =>
      ⟨.tokenBucket h.1, .tokenBucket h.2, rfl, rfl⟩
  | leakyBucket agree =>
    exact ((Keyed.confined_change key _).related own agree).map fun _ _ h =>
      ⟨.leakyBucket h.1, .leakyBucket h.2, rfl, rfl⟩
  | sharedLeakyBucket agree =>
    exact ((Keyed.confined_change key _).related own agree).map fun _ _ h =>
      ⟨.sharedLeakyBucket h.1, .sharedLeakyBucket h.2, rfl, rfl⟩
  | slidingWindow agree => exact .ok (.of_agree (.slidingWindow agree) key)
  | slidingLog agree => exact .ok (.of_agree (.slidingLog agree) key)
  | sharedSlidingWindow agree => exact .ok (.of_agree (.sharedSlidingWindow agree) key)
  | sharedSlidingLog agree => exact .ok (.of_agree (.sharedSlidingLog agree) key)

theorem setLimit_related (h : l.AgreeOn keys l') (own : key ∈ keys) (now : Instant) (limit : Nat) :
    Related (Changed keys key l l') (l.setLimit now key limit) (l'.setLimit now key limit) := by
  cases h with
  | slidingWindow agree =>
    exact ((Keyed.confined_change key _).related own agree).map fun _ _ h =>
      ⟨.slidingWindow h.1, .slidingWindow h.2, rfl, rfl⟩
  | slidingLog agree =>
    exact ((Keyed.confined_change key _).related own agree).map fun _ _ h =>
      ⟨.slidingLog h.1, .slidingLog h.2, rfl, rfl⟩
  | sharedSlidingWindow agree =>
    exact ((Keyed.confined_change key _).related own agree).map fun _ _ h =>
      ⟨.sharedSlidingWindow h.1, .sharedSlidingWindow h.2, rfl, rfl⟩
  | sharedSlidingLog agree =>
    exact ((Keyed.confined_change key _).related own agree).map fun _ _ h =>
      ⟨.sharedSlidingLog h.1, .sharedSlidingLog h.2, rfl, rfl⟩
  | tokenBucket agree => exact .ok (.of_agree (.tokenBucket agree) key)
  | leakyBucket agree => exact .ok (.of_agree (.leakyBucket agree) key)
  | sharedLeakyBucket agree => exact .ok (.of_agree (.sharedLeakyBucket agree) key)

theorem setFixedWindow_related (h : l.AgreeOn keys l') (own : key ∈ keys) (w : FixedWindow) :
    Related (ε := LimiterError) (Changed keys key l l') (.ok (l.setFixedWindow key w))
      (.ok (l'.setFixedWindow key w)) := by
  cases h with
  | slidingLog agree =>
    have set := (Keyed.confined_change key (.apply (·.setFixedWindow w))).related own agree
    exact set.map (f := Limiter.slidingLog) (g := Limiter.slidingLog) fun _ _ h =>
      ⟨.slidingLog h.1, .slidingLog h.2, rfl, rfl⟩
  | @sharedSlidingLog k k' m m' timeout grace agree =>
    have set := (Keyed.confined_change key
      (.apply fun params : SlidingLog.Config => { params with fixedWindow := some w })).related own
      agree
    exact set.map (f := fun k => sharedSlidingLog ⟨k, m, timeout, grace⟩)
      (g := fun k => sharedSlidingLog ⟨k, m', timeout, grace⟩) fun _ _ h =>
      ⟨.sharedSlidingLog h.1, .sharedSlidingLog h.2, rfl, rfl⟩
  | tokenBucket agree => exact .ok (.of_agree (.tokenBucket agree) key)
  | leakyBucket agree => exact .ok (.of_agree (.leakyBucket agree) key)
  | slidingWindow agree => exact .ok (.of_agree (.slidingWindow agree) key)
  | sharedLeakyBucket agree => exact .ok (.of_agree (.sharedLeakyBucket agree) key)
  | sharedSlidingWindow agree => exact .ok (.of_agree (.sharedSlidingWindow agree) key)

/-- A setter touches no store, and one that fails changes nothing. -/
theorem changed_related {result result' : Except LimiterError (Limiter α)}
    (h : l.AgreeOn keys l') (set : Related (Changed keys key l l') result result') :
    Related (InStep R keys now key (l, s) (l', s')) (changed l s result)
      (changed l' s' result') := by
  cases set with
  | ok set => exact .ok ⟨rfl, set.agree, set.others, .none rfl rfl set.members set.members'⟩
  | error e => exact .ok ⟨rfl, h, .refl .., .none rfl rfl rfl rfl⟩

/-! ## Requests to a store -/

/-- A request to a shared bucket runs one script and names nothing. -/
theorem pour_related {Q : SortedSet → SortedSet → Prop} (agree : s.Agree Q now key s')
    (b b' : SharedLeakyBucket α) (params : LeakyBucket.Config α) (n : Nat) :
    Related (fun x y => x.2 = y.2 ∧ s.After Q now key x.1 y.1)
      (b.pour (Store.context α now) key params n s)
      (b'.pour (Store.context α now) key params n s') := by
  obtain ⟨replies, agree, others⟩ := Store.eval_agree α .leakyBucket
    (SharedLeakyBucket.arguments params now n) (SharedLeakyBucket.arguments params now n) agree
    (fun _ _ same => same) (by
      rw [Store.execute_leakyBucket, Store.execute_leakyBucket]
      exact Store.pour_related α agree.slots now _)
  simp only [SharedLeakyBucket.pour, Store.now_context, Store.eval_context, Except.map]
  exact .ok ⟨by rw [replies], agree, others⟩

/-- A request to shared windows runs one script, which may name it, and renews the lifetime of its
key; a request without a window does nothing. -/
theorem slidingWindow_request_related (α : Type) [Arithmetic α]
    {k k' : Keyed SlidingWindow.sharedScheme} {m m' : MemberNames}
    {timeout timeout' : Option Span} {grace : Span}
    (keeps : SortedSet.Keeps R (m.next now.micros).2 (m'.next now.micros).2)
    (agree : s.Agree (R false) now key s') (params : SlidingWindow.Config) :
    Related (fun x y => x.2 = y.2 ∧ ∃ drew,
        x.1.1 = ⟨k, m.after now drew, timeout, grace⟩ ∧
        y.1.1 = ⟨k', m'.after now drew, timeout', grace⟩ ∧
        s.After (R drew) now key x.1.2 y.1.2)
      (SharedSlidingWindow.request (Store.context α now) ⟨k, m, timeout, grace⟩ s key params)
      (SharedSlidingWindow.request (Store.context α now) ⟨k', m', timeout', grace⟩ s' key
        params) := by
  unfold SharedSlidingWindow.request
  rw [Store.now_context]
  cases params.window.window? with
  -- Without a window no name is drawn and no script runs.
  | error e => exact .ok ⟨rfl, false, rfl, rfl, agree, .refl ..⟩
  | ok length =>
    dsimp only
    cases now.shift? (-length) with
    | none => exact .error _
    | some boundary =>
      obtain ⟨replies, agree, others⟩ := Store.eval_agree α .slidingWindow
        (SharedSlidingWindow.arguments boundary now params.limit (m.next now.micros).2)
        (SharedSlidingWindow.arguments boundary now params.limit (m'.next now.micros).2)
        agree (fun _ _ => keeps.mono) (by
        rw [Store.execute_slidingWindow, Store.execute_slidingWindow]
        exact Store.recordRequest_related keeps agree.slots boundary now params.limit)
      simp only [Store.eval_context, Store.refresh_context]
      cases params.window.plus? grace with
      | none => exact .error _
      | some lifetime =>
        obtain ⟨agree, kept⟩ := Store.expire_agree agree lifetime
        exact .ok ⟨by rw [replies], true, rfl, rfl, agree, others.trans kept⟩

/-- The same for shared logs. -/
theorem slidingLog_request_related (α : Type) [Arithmetic α]
    {k k' : Keyed SlidingLog.sharedScheme} {m m' : MemberNames}
    {timeout timeout' : Option Span} {grace : Span}
    (keeps : SortedSet.Keeps R (m.next now.micros).2 (m'.next now.micros).2)
    (agree : s.Agree (R false) now key s') (params : SlidingLog.Config) (o : AllowOptions) :
    Related (fun x y => x.2 = y.2 ∧ ∃ drew,
        x.1.1 = ⟨k, m.after now drew, timeout, grace⟩ ∧
        y.1.1 = ⟨k', m'.after now drew, timeout', grace⟩ ∧
        s.After (R drew) now key x.1.2 y.1.2)
      (SharedSlidingLog.request (Store.context α now) ⟨k, m, timeout, grace⟩ s key params o)
      (SharedSlidingLog.request (Store.context α now) ⟨k', m', timeout', grace⟩ s' key params
        o) := by
  unfold SharedSlidingLog.request
  rw [Store.now_context]
  cases o.windowBounds now params.window.nanos params.fixedWindow with
  | error fault => exact .error _
  | ok bounds =>
    obtain e | ⟨left, right⟩ := bounds
    -- Outside its fixed window a request draws no name and runs no script.
    · exact .ok ⟨rfl, false, rfl, rfl, agree, .refl ..⟩
    · obtain ⟨replies, agree, others⟩ := Store.eval_agree α .slidingLog
        (SharedSlidingLog.arguments left right now params.limit o.weight (m.next now.micros).2)
        (SharedSlidingLog.arguments left right now params.limit o.weight
          (m'.next now.micros).2) agree (fun _ _ => keeps.mono) (by
        rw [Store.execute_slidingLog, Store.execute_slidingLog]
        exact Store.recordUnits_related keeps agree.slots left right now params.limit o.weight)
      simp only [Store.eval_context, Store.refresh_context]
      cases (SharedSlidingLog.countedFor o params.window now right).plus? grace with
      | none => exact .error _
      | some lifetime =>
        obtain ⟨agree, kept⟩ := Store.expire_agree agree lifetime
        exact .ok ⟨by rw [replies], true, rfl, rfl, agree, others.trans kept⟩

/-! ## Calls -/

section Shared

variable {timeout : Option Span} {grace : Span} {m m' : MemberNames}

/-- A request to a shared bucket whose parameters are at hand keeps two limiters in step. -/
theorem sharedLeakyBucket_inStep {k k' k₁ k₁' : Keyed (LeakyBucket.sharedScheme α)}
    {params params' : LeakyBucket.Config α} (same : params = params') (agree : k₁.AgreeOn keys k₁')
    (others : k.AgreeOn {key}ᶜ k₁) (stores : s.Agree (R false) now key s') (n : Nat) :
    Related (InStep R keys now key (sharedLeakyBucket ⟨k, timeout⟩, s)
        (sharedLeakyBucket ⟨k', timeout⟩, s'))
      (((SharedLeakyBucket.pour ⟨k₁, timeout⟩ (Store.context α now) key params n s).map
        fun (s, outcome) => ((SharedLeakyBucket.mk k₁ timeout, s), outcome)).map
        fun ((b, s), outcome) => ((sharedLeakyBucket b, s), outcome))
      (((SharedLeakyBucket.pour ⟨k₁', timeout⟩ (Store.context α now) key params' n s').map
        fun (s, outcome) => ((SharedLeakyBucket.mk k₁' timeout, s), outcome)).map
        fun ((b, s), outcome) => ((sharedLeakyBucket b, s), outcome)) := by
  subst same
  have poured := pour_related stores ⟨k₁, timeout⟩ ⟨k₁', timeout⟩ params n
  generalize SharedLeakyBucket.pour ⟨k₁, timeout⟩ (Store.context α now) key params n s = x,
    SharedLeakyBucket.pour ⟨k₁', timeout⟩ (Store.context α now) key params n s' = y at poured
  cases poured with
  | error fault => exact .error _
  | ok left =>
    obtain ⟨same, after⟩ := left
    dsimp only [Except.map]
    exact .ok ⟨same, .sharedLeakyBucket agree, .sharedLeakyBucket others,
      .script false rfl rfl rfl after⟩

/-- So does a request to a shared window. -/
theorem sharedSlidingWindow_inStep {k k' k₁ k₁' : Keyed SlidingWindow.sharedScheme}
    {params params' : SlidingWindow.Config} (same : params = params') (agree : k₁.AgreeOn keys k₁')
    (others : k.AgreeOn {key}ᶜ k₁)
    (keeps : SortedSet.Keeps R (m.next now.micros).2 (m'.next now.micros).2)
    (stores : s.Agree (R false) now key s') :
    Related (InStep R keys now key (sharedSlidingWindow (α := α) ⟨k, m, timeout, grace⟩, s)
        (sharedSlidingWindow ⟨k', m', timeout, grace⟩, s'))
      ((SharedSlidingWindow.request (Store.context α now) ⟨k₁, m, timeout, grace⟩ s key params).map
        fun ((w, s), outcome) => ((sharedSlidingWindow w, s), outcome))
      ((SharedSlidingWindow.request (Store.context α now) ⟨k₁', m', timeout, grace⟩ s' key
        params').map fun ((w, s), outcome) => ((sharedSlidingWindow w, s), outcome)) := by
  subst same
  refine (slidingWindow_request_related α keeps stores params).map ?_
  rintro ⟨⟨_, _⟩, _⟩ ⟨⟨_, _⟩, _⟩ ⟨same, drew, rfl, rfl, after⟩
  exact ⟨same, .sharedSlidingWindow agree, .sharedSlidingWindow others,
    .script drew rfl rfl rfl after⟩

/-- So does a request to a shared log. -/
theorem sharedSlidingLog_inStep {k k' k₁ k₁' : Keyed SlidingLog.sharedScheme}
    {params params' : SlidingLog.Config} (same : params = params') (agree : k₁.AgreeOn keys k₁')
    (others : k.AgreeOn {key}ᶜ k₁)
    (keeps : SortedSet.Keeps R (m.next now.micros).2 (m'.next now.micros).2)
    (stores : s.Agree (R false) now key s') (o : AllowOptions) :
    Related (InStep R keys now key (sharedSlidingLog (α := α) ⟨k, m, timeout, grace⟩, s)
        (sharedSlidingLog ⟨k', m', timeout, grace⟩, s'))
      ((SharedSlidingLog.request (Store.context α now) ⟨k₁, m, timeout, grace⟩ s key params o).map
        fun ((w, s), outcome) => ((sharedSlidingLog w, s), outcome))
      ((SharedSlidingLog.request (Store.context α now) ⟨k₁', m', timeout, grace⟩ s' key params'
        o).map fun ((w, s), outcome) => ((sharedSlidingLog w, s), outcome)) := by
  subst same
  refine (slidingLog_request_related α keeps stores params o).map ?_
  rintro ⟨⟨_, _⟩, _⟩ ⟨⟨_, _⟩, _⟩ ⟨same, drew, rfl, rfl, after⟩
  exact ⟨same, .sharedSlidingLog agree, .sharedSlidingLog others, .script drew rfl rfl rfl after⟩

end Shared

/-- A request that is confined to a key in process keeps two limiters in step. -/
theorem local_inStep {P S L β : Type} {scheme : Scheme P S L} {k k' : Keyed scheme}
    {f : Keyed scheme → Except Fault (Keyed scheme × β)} (confined : Keyed.Confined key f)
    (own : key ∈ keys) (agree : k.AgreeOn keys k') (wrap : Keyed scheme → Limiter α)
    (lift : ∀ {keys k k'}, Keyed.AgreeOn keys k k' → (wrap k).AgreeOn keys (wrap k'))
    (unnamed : ∀ k, (wrap k).members? = none) :
    Related (InStep R keys now key (wrap k, s) (wrap k', s'))
      ((f k).map fun (k, answer) => ((wrap k, s), answer))
      ((f k').map fun (k, answer) => ((wrap k, s'), answer)) := by
  refine (confined.related own agree).map ?_
  rintro ⟨k₁, _⟩ ⟨k₁', _⟩ ⟨same, agree, others⟩
  exact ⟨same, lift agree, lift others,
    .none rfl rfl ((unnamed k₁).trans (unnamed k).symm) ((unnamed k₁').trans (unnamed k').symm)⟩

/-- What two limiters need to stay in step by a call: names that keep sorted sets related, and
stores that agree if they use any. -/
structure Ready (R : Bool → SortedSet → SortedSet → Prop) (now : Instant) (key : String)
    (before before' : Limiter α × Store) : Prop where
  keeps : ∀ m, before.1.members? = some m → ∀ m', before'.1.members? = some m' →
    SortedSet.Keeps R (m.next now.micros).2 (m'.next now.micros).2
  stores : before.1.kind.2 = .shared → before.2.Agree (R false) now key before'.2

/-- A request by key keeps two limiters in step. -/
theorem allow_related (h : l.AgreeOn keys l') (own : key ∈ keys)
    (ready : Ready R now key (l, s) (l', s')) (o : AllowOptions) :
    Related (InStep R keys now key (l, s) (l', s')) (l.allow (Store.context α now) s key o)
      (l'.allow (Store.context α now) s' key o) := by
  cases h with
  | tokenBucket agree =>
    exact local_inStep (Keyed.confined_allow (TokenBucket.decide now o.weight) key) own agree _
      .tokenBucket fun _ => rfl
  | leakyBucket agree =>
    exact local_inStep (Keyed.confined_allow (LeakyBucket.decide now o.weight) key) own agree _
      .leakyBucket fun _ => rfl
  | slidingWindow agree =>
    exact local_inStep (Keyed.confined_allow (SlidingWindow.decide now) key) own agree _
      .slidingWindow fun _ => rfl
  | slidingLog agree =>
    exact local_inStep (Keyed.confined_allow (SlidingLog.decide now o) key) own agree _
      .slidingLog fun _ => rfl
  | sharedLeakyBucket agree =>
    obtain ⟨⟨same, agree, others⟩⟩ := (Keyed.confined_obtain key).related own agree
    exact sharedLeakyBucket_inStep same agree others (ready.stores rfl) o.weight
  | sharedSlidingWindow agree =>
    obtain ⟨⟨same, agree, others⟩⟩ := (Keyed.confined_obtain key).related own agree
    exact sharedSlidingWindow_inStep same agree others (ready.keeps _ rfl _ rfl) (ready.stores rfl)
  | sharedSlidingLog agree =>
    obtain ⟨⟨same, agree, others⟩⟩ := (Keyed.confined_obtain key).related own agree
    exact sharedSlidingLog_inStep same agree others (ready.keeps _ rfl _ rfl) (ready.stores rfl) o

/-- So does a request of exactly some units, if the limiters take it. -/
theorem take?_related (h : l.AgreeOn keys l') (own : key ∈ keys)
    (ready : Ready R now key (l, s) (l', s')) (n : Nat) :
    Option.Rel (Related (InStep R keys now key (l, s) (l', s')))
      (l.take? (Store.context α now) s key n) (l'.take? (Store.context α now) s' key n) := by
  cases h with
  | tokenBucket agree =>
    exact .some (local_inStep (Keyed.confined_allow (TokenBucket.decide now n) key) own agree _
      .tokenBucket fun _ => rfl)
  | leakyBucket agree =>
    exact .some (local_inStep (Keyed.confined_allow (LeakyBucket.decide now n) key) own agree _
      .leakyBucket fun _ => rfl)
  | sharedLeakyBucket agree =>
    obtain ⟨⟨same, agree, others⟩⟩ := (Keyed.confined_obtain key).related own agree
    exact .some (sharedLeakyBucket_inStep same agree others (ready.stores rfl) n)
  | slidingWindow | slidingLog | sharedSlidingWindow | sharedSlidingLog => exact .none

/-- So does a request by resource. -/
theorem check_related {r : Resource} (h : l.AgreeOn keys l') (own : r.name ∈ keys)
    (ready : Ready R now r.name (l, s) (l', s')) (count : Nat) :
    Related (InStep R keys now r.name (l, s) (l', s')) (l.check (Store.context α now) s r count)
      (l'.check (Store.context α now) s' r count) := by
  cases h with
  | tokenBucket agree =>
    exact local_inStep (Keyed.confined_check (TokenBucket.decide now _) r) own agree _
      .tokenBucket fun _ => rfl
  | leakyBucket agree =>
    exact local_inStep (Keyed.confined_check (LeakyBucket.decide now _) r) own agree _
      .leakyBucket fun _ => rfl
  | slidingWindow agree =>
    exact local_inStep (Keyed.confined_check (SlidingWindow.decide now) r) own agree _
      .slidingWindow fun _ => rfl
  | slidingLog agree =>
    exact local_inStep (Keyed.confined_check (SlidingLog.decide now _) r) own agree _
      .slidingLog fun _ => rfl
  -- A shared limiter first looks up the parameters of the resource. It fails to do so on both sides
  -- or on neither, and a request that has failed leaves all as it was.
  | @sharedLeakyBucket k k' timeout agree =>
    have obtained := (Keyed.confined_obtainFor r).related own agree
    unfold check SharedLeakyBucket.check
    dsimp only
    generalize k.obtainFor r = x, k'.obtainFor r = y at obtained
    cases obtained with
    | error e =>
      dsimp only [Except.map]
      exact .ok ⟨rfl, .sharedLeakyBucket agree, .refl .., .none rfl rfl rfl rfl⟩
    | ok left =>
      obtain ⟨same, agree, others⟩ := left
      exact sharedLeakyBucket_inStep same agree others (ready.stores rfl) _
  | @sharedSlidingWindow k k' m m' timeout grace agree =>
    have obtained := (Keyed.confined_obtainFor r).related own agree
    unfold check SharedSlidingWindow.check
    dsimp only
    generalize k.obtainFor r = x, k'.obtainFor r = y at obtained
    cases obtained with
    | error e =>
      dsimp only [Except.map]
      exact .ok ⟨rfl, .sharedSlidingWindow agree, .refl .., .none rfl rfl rfl rfl⟩
    | ok left =>
      obtain ⟨same, agree, others⟩ := left
      exact sharedSlidingWindow_inStep same agree others (ready.keeps _ rfl _ rfl)
        (ready.stores rfl)
  | @sharedSlidingLog k k' m m' timeout grace agree =>
    have obtained := (Keyed.confined_obtainFor r).related own agree
    unfold check SharedSlidingLog.check
    dsimp only
    generalize k.obtainFor r = x, k'.obtainFor r = y at obtained
    cases obtained with
    | error e =>
      dsimp only [Except.map]
      exact .ok ⟨rfl, .sharedSlidingLog agree, .refl .., .none rfl rfl rfl rfl⟩
    | ok left =>
      obtain ⟨same, agree, others⟩ := left
      exact sharedSlidingLog_inStep same agree others (ready.keeps _ rfl _ rfl) (ready.stores rfl) _

/-- So does a request with a window and a limit of its own, if the limiters take it. -/
theorem shouldAllow?_related (h : l.AgreeOn keys l')
    (ready : Ready R now key (l, s) (l', s')) (window : Span) (limit : Nat) :
    Option.Rel (Related (InStep R keys now key (l, s) (l', s')))
      (l.shouldAllow? (Store.context α now) s key window limit)
      (l'.shouldAllow? (Store.context α now) s' key window limit) := by
  cases h with
  | sharedSlidingWindow agree =>
    refine .some ?_
    unfold SharedSlidingWindow.shouldAllow
    dsimp only
    split
    · exact .ok ⟨rfl, .sharedSlidingWindow agree, .refl .., .none rfl rfl rfl rfl⟩
    · exact sharedSlidingWindow_inStep rfl agree (.refl ..) (ready.keeps _ rfl _ rfl)
        (ready.stores rfl)
  | tokenBucket | leakyBucket | slidingWindow | slidingLog | sharedLeakyBucket
  | sharedSlidingLog => exact .none

/-- The outcome of a request is its answer or its error. -/
theorem answered_related {x y : Except Fault ((Limiter α × Store) × Except LimiterError Bool)}
    {before before' : Limiter α × Store} (h : Related (InStep R keys now key before before') x y) :
    Related (InStep R keys now key before before') (answered x) (answered y) :=
  h.map fun ⟨_, _⟩ ⟨_, _⟩ step =>
    ⟨congrArg (Except.map some) step.answer, step.agree, step.others, step.effect⟩

/-- A request that limiters do not take changes nothing. -/
theorem getD_related {x y : Option (Except Fault ((Limiter α × Store) × Except LimiterError Bool))}
    (h : l.AgreeOn keys l')
    (taken : Option.Rel (Related (InStep R keys now key (l, s) (l', s'))) x y) :
    Related (InStep R keys now key (l, s) (l', s'))
      ((x.map answered).getD (changed l s (.ok l)))
      ((y.map answered).getD (changed l' s' (.ok l'))) := by
  cases taken with
  | none => exact changed_related h (.ok (.of_agree h key))
  | some step => exact answered_related step

/-- **A call keeps two limiters in step**: if they agree on its key, as do their stores, they answer
alike and agree afterwards, and nothing changes under the other keys. -/
theorem step_related {call : Call α} (h : l.AgreeOn keys l') (own : call.key ∈ keys)
    (ready : Ready R now call.key (l, s) (l', s')) :
    Related (InStep R keys now call.key (l, s) (l', s'))
      (step (Store.context α now) (l, s) call) (step (Store.context α now) (l', s') call) := by
  cases call with
  | allow key o => exact answered_related (allow_related h own ready o)
  | check r count => exact answered_related (check_related h own ready count)
  | take key n => exact getD_related h (take?_related h own ready n)
  | shouldAllow key window limit =>
    exact getD_related h (shouldAllow?_related h ready window limit)
  | setRate key rate => exact changed_related h (setRate_related h own now rate)
  | setLimit key limit => exact changed_related h (setLimit_related h own now limit)
  | setBurst key burst =>
    exact changed_related h (change_related h own (Keyed.confined_change key _))
  | setWindow key window =>
    exact changed_related h (change_related h own (Keyed.confined_change key _))
  | setFixedWindow key w => exact changed_related h (setFixedWindow_related h own w)
  | setLimitFor r => exact changed_related h (change_related h own (Keyed.confined_changeFor r _))
  | setBurstFor r => exact changed_related h (change_related h own (Keyed.confined_changeFor r _))
  | setWindowFor r => exact changed_related h (change_related h own (Keyed.confined_changeFor r _))

/-- A limiter is in step with itself. -/
theorem Ready.refl (l : Limiter α) (s : Store) (now : Instant) (key : String) :
    Ready (fun _ => (· = ·)) now key (l, s) (l, s) where
  keeps m named m' named' := by
    rw [named, Option.some.injEq] at named'
    exact named' ▸ .eq _
  stores _ := .refl (fun _ => rfl) ..

/-- What a limiter in step with itself does. -/
theorem InStep.self {β : Type} {x : Except Fault ((Limiter α × Store) × β)}
    {b : (Limiter α × Store) × β}
    (related : Related (InStep (fun _ => (· = ·)) {key} now key (l, s) (l, s)) x x)
    (value : x = .ok b) :
    l.AgreeOn {key}ᶜ b.1.1 ∧ ∃ y, Effect (fun _ => (· = ·)) now key (l, s) (l, s) b.1 y := by
  obtain ⟨y, -, inStep⟩ := related.exists_of_eq_ok value
  exact ⟨inStep.others, y.1, inStep.effect⟩

/-- **A call changes nothing under the other keys**, in the limiter or in the store. -/
theorem step_others {call : Call α} {x : (Limiter α × Store) × Outcome}
    (stepped : step (Store.context α now) (l, s) call = .ok x) :
    l.AgreeOn {call.key}ᶜ x.1.1 ∧
      ∃ y, Effect (fun _ => (· = ·)) now call.key (l, s) (l, s) x.1 y :=
  InStep.self (step_related (.refl {call.key} l) rfl (.refl l s now call.key)) stepped

/-- Nor does a request by resource under those that are not its own. -/
theorem check_others {r : Resource} {count : Nat}
    {x : (Limiter α × Store) × Except LimiterError Bool}
    (checked : l.check (Store.context α now) s r count = .ok x) :
    l.AgreeOn {r.name}ᶜ x.1.1 ∧
      ∃ y, Effect (fun _ => (· = ·)) now r.name (l, s) (l, s) x.1 y :=
  InStep.self (check_related (.refl {r.name} l) rfl (.refl l s now r.name) count) checked

end

end Limiter

end Throttle
