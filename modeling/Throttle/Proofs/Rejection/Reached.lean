import Throttle.Proofs.Calls.Steps
import Throttle.Proofs.Store.Commands

/-!
# The states that a limiter can reach

A limiter starts without states over an empty store. Its calls change both, at any readings of a
clock that may step back, and others may use the store as well. In every state that is reached so,
the parameters of a shared window or log are valid, and the indexes of every sorted set agree.

## Main definitions

* `Scheme.Windowed`: what the parameters of shared windows and logs have in common
* `Keyed.Valid`: the parameters of every key are valid
* `Limiter.Valid`: those of a shared window or log are
* `Limiter.New`, `Limiter.Reached`: a new limiter, and one that has been reached with its store

## Main results

* `Limiter.Valid.step`: a call keeps the parameters valid
* `Limiter.exists_of_step`: a call runs at most one script and renews at most one lifetime
* `Limiter.Reached.valid`, `Limiter.Reached.indexed`: what holds in every state that is reached
-/

namespace Throttle

/-! ## Valid parameters -/

section Keyed

variable {P L : Type} {scheme : Scheme P P L}

/-- A setter that is not refused keeps what holds of a state. -/
def Change.Keeps {S : Type} (holds : S → Prop) (c : Change S) : Prop :=
  ∀ f, c = .apply f → ∀ s, holds s → holds (f s)

theorem Change.keeps_unused {S : Type} (holds : S → Prop) : Change.unused.Keeps holds := nofun

theorem Change.keeps_when {S : Type} {holds : S → Prop} {check : Except LimiterError Unit}
    {f : S → S} (keeps : check = .ok () → ∀ s, holds s → holds (f s)) :
    (Change.when check f).Keeps holds := by
  intro g applies
  cases checked : check with
  | error e => simp [when, checked] at applies
  | ok u =>
    rw [when_of_ok checked] at applies
    cases applies
    exact keeps checked

/-- A scheme whose states are the parameters themselves, and whose setters keep them valid. -/
structure Scheme.KeepsValid (scheme : Scheme P P L) : Prop where
  start : ∀ params, scheme.start params = params
  setLimit : ∀ limit now, (scheme.setLimit limit now).Keeps (scheme.validate · = .ok ())
  setBurst : ∀ burst, (scheme.setBurst burst).Keeps (scheme.validate · = .ok ())
  setWindow : ∀ window, (scheme.setWindow window).Keeps (scheme.validate · = .ok ())

namespace Keyed

/-- The parameters of every key are valid. -/
def Valid (k : Keyed scheme) : Prop :=
  ∀ key params, k.get? key = some params → scheme.validate params = .ok ()

namespace Valid

variable {k k' : Keyed scheme} (h : k.Valid) (keeps : scheme.KeepsValid)

theorem put {k : Keyed scheme} (h : k.Valid) {params : P} (valid : scheme.validate params = .ok ())
    (key : String) : (k.put key params).Valid := by
  intro other found here
  rw [get?_put] at here
  split at here
  · cases here
    exact valid
  · exact h other found here

include h keeps

/-- A key that is new starts from valid parameters. -/
theorem state (key : String) : scheme.validate (k.state key) = .ok () := by
  rw [Keyed.state]
  cases held : k.get? key with
  | none =>
    rw [Option.getD_none, keeps.start]
    exact k.valid
  | some params => exact h key params held

theorem obtain (key : String) : (k.obtain key).1.Valid := by
  rw [obtain_eq]
  exact h.put (h.state keeps key) key

theorem obtainFor {r : Resource} {params : P} (made : k.obtainFor r = .ok (k', params)) :
    k'.Valid ∧ scheme.validate params = .ok () := by
  rw [obtainFor_eq] at made
  obtain ⟨s, started, same⟩ := exists_of_map_eq_ok made
  cases same
  have valid : scheme.validate params = .ok () := by
    cases held : k.get? r.name with
    | some s =>
      rw [held] at started
      cases started
      exact h r.name _ held
    | none =>
      rw [held] at started
      obtain ⟨u, checked, same⟩ := exists_of_map_eq_ok started
      rw [← same, keeps.start]
      exact checked
  exact ⟨h.put valid r.name, valid⟩

/-- A call meets valid parameters. -/
theorem meet {α : Type} {call : Call α} {params : P} (made : k.meet call = .ok (k', params)) :
    k'.Valid ∧ scheme.validate params = .ok () := by
  cases call with
  | check r count => exact h.obtainFor keeps made
  | _ =>
    cases made
    exact ⟨h.obtain keeps _, (k.obtain_snd _).symm ▸ h.state keeps _⟩

theorem change {c : Change P} (kept : c.Keeps (scheme.validate · = .ok ())) {key : String}
    (made : k.change key c = .ok k') : k'.Valid := by
  cases c with
  | unused =>
    cases made
    exact h
  | refused e => cases made
  | apply f =>
    rw [change_apply] at made
    cases made
    exact h.put (kept f rfl _ (h.state keeps key)) key

theorem changeFor {c : Change P} (kept : c.Keeps (scheme.validate · = .ok ())) {r : Resource}
    (made : k.changeFor r c = .ok k') : k'.Valid := by
  cases c with
  | unused =>
    cases made
    exact h
  | refused e => cases made
  | apply f =>
    obtain ⟨⟨k₁, params⟩, obtained, same⟩ := exists_of_map_eq_ok made
    cases same
    obtain ⟨valid, started⟩ := h.obtainFor keeps obtained
    exact valid.put (kept f rfl _ started) r.name

end Valid

end Keyed

end Keyed

/-- What the parameters of shared windows and logs have in common: a limit and a window, both of
them checked, which setters change one at a time. -/
structure Scheme.Windowed {P : Type} (scheme : Scheme P P ℕ) where
  limit : P → ℕ
  window : P → Span
  withLimit : ℕ → P → P
  withWindow : Span → P → P
  validate_iff : ∀ params, scheme.validate params = .ok () ↔
    0 < limit params ∧ 0 < (window params).nanos ∧
      (window params).nanos ≤ Span.longestWindow.nanos
  start_eq : ∀ params, scheme.start params = params := by intros; rfl
  setLimit_eq : ∀ n now,
    scheme.setLimit n now = .when (checkPositive .limit n) (withLimit n) := by intros; rfl
  setBurst_eq : ∀ burst, scheme.setBurst burst = .unused := by intros; rfl
  setWindow_eq : ∀ w, scheme.setWindow w = .when w.checkWindow (withWindow w) := by intros; rfl
  limit_withLimit : ∀ n params, limit (withLimit n params) = n := by intros; rfl
  window_withLimit : ∀ n params, window (withLimit n params) = window params := by intros; rfl
  limit_withWindow : ∀ w params, limit (withWindow w params) = limit params := by intros; rfl
  window_withWindow : ∀ w params, window (withWindow w params) = w := by intros; rfl

/-- A setter that passes its check keeps valid what it does not change. -/
theorem Scheme.Windowed.keepsValid {P : Type} {scheme : Scheme P P ℕ} (W : scheme.Windowed) :
    scheme.KeepsValid where
  start := W.start_eq
  setLimit n now := by
    rw [W.setLimit_eq]
    refine Change.keeps_when fun positive params valid => (W.validate_iff _).2 ?_
    rw [W.limit_withLimit, W.window_withLimit]
    exact ⟨checkPositive_eq_ok_iff.1 positive, ((W.validate_iff params).1 valid).2⟩
  setBurst burst := W.setBurst_eq burst ▸ Change.keeps_unused _
  setWindow w := by
    rw [W.setWindow_eq]
    refine Change.keeps_when fun isWindow params valid => (W.validate_iff _).2 ?_
    rw [W.limit_withWindow, W.window_withWindow]
    exact ⟨((W.validate_iff params).1 valid).1, Span.checkWindow_eq_ok_iff.1 isWindow⟩

/-- Shared windows. -/
def SlidingWindow.windowed : SlidingWindow.sharedScheme.Windowed where
  limit p := p.limit
  window p := p.window
  withLimit n p := { p with limit := n }
  withWindow w p := { p with window := w }
  validate_iff _ := Config.validate_eq_ok_iff

/-- Shared logs. -/
def SlidingLog.windowed : SlidingLog.sharedScheme.Windowed where
  limit p := p.limit
  window p := p.window
  withLimit n p := { p with limit := n }
  withWindow w p := { p with window := w }
  validate_iff _ := Config.validate_eq_ok_iff

/-! ## Requests to a store -/

section Requests

variable {α : Type} [Arithmetic α] {now : Instant} {store store' : Store} {key : String}
  {outcome : Except LimiterError Bool}

/-- A request to a shared bucket runs one script. -/
theorem SharedLeakyBucket.pour_eq_ok {l : SharedLeakyBucket α} {params : LeakyBucket.Config α}
    {n : ℕ} (made : l.pour (Store.context α now) key params n store = .ok (store', outcome)) :
    ∃ reply, store.eval α now .leakyBucket [key] (arguments params now n) = (store', reply) ∧
      outcome = reply.bind decision := by
  rw [pour, Store.now_context, Store.eval_context] at made
  cases made
  exact ⟨_, rfl, rfl⟩

/-- What a request to a shared window does to a store in memory: nothing, or a script and a
renewal. -/
theorem SharedSlidingWindow.request_eq_ok {l l' : SharedSlidingWindow}
    {params : SlidingWindow.Config}
    (made : request (Store.context α now) l store key params = .ok ((l', store'), outcome)) :
    (∃ e, l' = l ∧ store' = store ∧ outcome = .error e) ∨
    ∃ length boundary lifetime ran reply, params.window.window? = .ok length ∧
      now.shift? (-length) = some boundary ∧ params.window.plus? l.grace = some lifetime ∧
      store.eval α now .slidingWindow [key]
        (arguments boundary now params.limit (l.members.next now.micros).2) = (ran, reply) ∧
      l' = { l with members := (l.members.next now.micros).1 } ∧
      store' = (ran.expire now key lifetime).1 ∧ outcome = reply.bind decision := by
  obtain ⟨e, -, refused⟩ |
      ⟨length, boundary, lifetime, ran, reply, isWindow, moved, lasts, evaluated, rest⟩ :=
    exists_of_request made
  · exact .inl ⟨e, refused⟩
  · rw [Store.eval_context, Except.ok.injEq] at evaluated
    exact .inr ⟨length, boundary, lifetime, ran, reply, isWindow, moved, lasts, evaluated, rest⟩

/-- What a request to a shared log does to a store in memory: nothing, or a script and a
renewal. -/
theorem SharedSlidingLog.request_eq_ok {l l' : SharedSlidingLog} {params : SlidingLog.Config}
    {o : AllowOptions}
    (made : request (Store.context α now) l store key params o = .ok ((l', store'), outcome)) :
    (∃ e, l' = l ∧ store' = store ∧ outcome = .error e) ∨
    ∃ left right lifetime ran reply,
      o.windowBounds now params.window.nanos params.fixedWindow = .ok (.ok (left, right)) ∧
      (countedFor o params.window now right).plus? l.grace = some lifetime ∧
      store.eval α now .slidingLog [key]
        (arguments left right now params.limit o.weight (l.members.next now.micros).2) =
          (ran, reply) ∧
      l' = { l with members := (l.members.next now.micros).1 } ∧
      store' = (ran.expire now key lifetime).1 ∧ outcome = reply.bind decision := by
  obtain ⟨e, -, refused⟩ | ⟨left, right, lifetime, ran, reply, resolved, lasts, evaluated, rest⟩ :=
    exists_of_request made
  · exact .inl ⟨e, refused⟩
  · rw [Store.eval_context, Except.ok.injEq] at evaluated
    exact .inr ⟨left, right, lifetime, ran, reply, resolved, lasts, evaluated, rest⟩

end Requests

/-! ## Calls -/

/-- The parameters with which a shared window meets a call are valid. -/
theorem SharedSlidingWindow.valid_of_meet {α : Type} {s : SharedSlidingWindow}
    (valid : s.keyed.Valid) {call : Call α} {keyed : Keyed SlidingWindow.sharedScheme}
    {params : SlidingWindow.Config} (met : s.meet call = .ok (keyed, params)) :
    keyed.Valid ∧ params.validate = .ok () := by
  cases call with
  | shouldAllow key window limit =>
    obtain ⟨u, passes, same⟩ := exists_of_map_eq_ok met
    cases same
    exact ⟨valid, passes⟩
  | _ =>
    simp only [meet] at met
    exact Keyed.Valid.meet valid SlidingWindow.windowed.keepsValid met

namespace Limiter

variable {α : Type} [Arithmetic α] {l l' : Limiter α} {call : Call α} {outcome : Outcome}

/-- The parameters of a shared window or log are valid. -/
def Valid : Limiter α → Prop
  | sharedSlidingWindow s => s.keyed.Valid
  | sharedSlidingLog s => s.keyed.Valid
  | _ => True

section Setters

/-- A setter of all states keeps parameters valid if it does so by every scheme. -/
theorem Valid.change (valid : l.Valid) {setter : ∀ {P S L : Type} {scheme : Scheme P S L},
      Keyed scheme → Except LimiterError (Keyed scheme)}
    (keeps : ∀ {P L : Type} {scheme : Scheme P P L} {k k' : Keyed scheme}, scheme.KeepsValid →
      k.Valid → setter k = .ok k' → k'.Valid)
    (made : l.change setter = .ok l') : l'.Valid := by
  cases l with
  | sharedSlidingWindow s =>
    obtain ⟨k, set, rfl⟩ := exists_of_map_eq_ok made
    exact keeps SlidingWindow.windowed.keepsValid valid set
  | sharedSlidingLog s =>
    obtain ⟨k, set, rfl⟩ := exists_of_map_eq_ok made
    exact keeps SlidingLog.windowed.keepsValid valid set
  | _ =>
    obtain ⟨k, -, rfl⟩ := exists_of_map_eq_ok made
    trivial

theorem Valid.setRate (valid : l.Valid) {now : Instant} {key : String} {rate : α}
    (made : l.setRate now key rate = .ok l') : l'.Valid := by
  cases l with
  | tokenBucket | leakyBucket | sharedLeakyBucket =>
    obtain ⟨k, -, rfl⟩ := exists_of_map_eq_ok made
    trivial
  | _ =>
    cases made
    exact valid

theorem Valid.setLimit (valid : l.Valid) {now : Instant} {key : String} {limit : ℕ}
    (made : l.setLimit now key limit = .ok l') : l'.Valid := by
  cases l with
  | sharedSlidingWindow s =>
    obtain ⟨k, set, rfl⟩ := exists_of_map_eq_ok made
    have keeps := SlidingWindow.windowed.keepsValid
    exact Keyed.Valid.change valid keeps (keeps.setLimit limit now) set
  | sharedSlidingLog s =>
    obtain ⟨k, set, rfl⟩ := exists_of_map_eq_ok made
    have keeps := SlidingLog.windowed.keepsValid
    exact Keyed.Valid.change valid keeps (keeps.setLimit limit now) set
  | slidingWindow | slidingLog =>
    obtain ⟨k, -, rfl⟩ := exists_of_map_eq_ok made
    trivial
  | _ =>
    cases made
    exact valid

theorem Valid.setFixedWindow (valid : l.Valid) (key : String) (w : FixedWindow) :
    (l.setFixedWindow key w).Valid := by
  cases l with
  | sharedSlidingLog s =>
    have keeps := SlidingLog.windowed.keepsValid
    have started := Keyed.Valid.state valid keeps key
    rw [← Keyed.obtain_snd] at started
    have windowed : SlidingLog.sharedScheme.validate
        { (s.keyed.obtain key).2 with fixedWindow := some w } = .ok () :=
      SlidingLog.Config.validate_eq_ok_iff.2 (SlidingLog.Config.validate_eq_ok_iff.1 started)
    exact (Keyed.Valid.obtain valid keeps key).put windowed key
  | _ => exact valid

end Setters

/-! ### What a request to a store does -/

section Served

variable {σ : Type} {ctx : Context σ} {state state' : σ} {script : Script}

theorem exists_of_step_sharedLeakyBucket {s : SharedLeakyBucket α}
    (asks : (sharedLeakyBucket s).scriptFor? call = some script)
    (made : step ctx (sharedLeakyBucket s, state) call = .ok ((l', state'), outcome)) :
    ∃ s' answer, l' = sharedLeakyBucket s' ∧ outcome = answer.map some ∧
      ((∃ e, s' = s ∧ state' = state ∧ answer = .error e) ∨
        ∃ keyed params, s.keyed.meet call = .ok (keyed, params) ∧
          s.pour ctx call.key params call.units state = .ok (state', answer) ∧
          s' = { s with keyed := keyed }) := by
  rw [(step_sharedLeakyBucket ctx state asks).2] at made
  obtain ⟨⟨⟨s', _⟩, answer⟩, served, same⟩ := exists_of_map_eq_ok made
  cases same
  refine ⟨s', answer, rfl, rfl, ?_⟩
  unfold SharedLeakyBucket.serve at served
  split at served
  · cases served
    exact .inl ⟨_, rfl, rfl, rfl⟩
  · rename_i keyed params met
    obtain ⟨_, poured, same⟩ := exists_of_map_eq_ok served
    cases same
    exact .inr ⟨keyed, params, met, poured, rfl⟩

theorem exists_of_step_sharedSlidingWindow {s : SharedSlidingWindow}
    (asks : (sharedSlidingWindow s : Limiter α).scriptFor? call = some script)
    (made : step ctx (sharedSlidingWindow s, state) call = .ok ((l', state'), outcome)) :
    ∃ s' answer, l' = sharedSlidingWindow s' ∧ outcome = answer.map some ∧
      ((∃ e, s' = s ∧ state' = state ∧ answer = .error e) ∨
        ∃ keyed params, s.meet call = .ok (keyed, params) ∧
          SharedSlidingWindow.request ctx { s with keyed := keyed } state call.key params =
            .ok ((s', state'), answer)) := by
  rw [(step_sharedSlidingWindow ctx state asks).2] at made
  obtain ⟨⟨⟨s', _⟩, answer⟩, served, same⟩ := exists_of_map_eq_ok made
  cases same
  refine ⟨s', answer, rfl, rfl, ?_⟩
  unfold SharedSlidingWindow.serve at served
  split at served
  · cases served
    exact .inl ⟨_, rfl, rfl, rfl⟩
  · rename_i keyed params met
    exact .inr ⟨keyed, params, met, served⟩

theorem exists_of_step_sharedSlidingLog {s : SharedSlidingLog}
    (asks : (sharedSlidingLog s : Limiter α).scriptFor? call = some script)
    (made : step ctx (sharedSlidingLog s, state) call = .ok ((l', state'), outcome)) :
    ∃ s' answer, l' = sharedSlidingLog s' ∧ outcome = answer.map some ∧
      ((∃ e, s' = s ∧ state' = state ∧ answer = .error e) ∨
        ∃ keyed params, s.keyed.meet call = .ok (keyed, params) ∧
          SharedSlidingLog.request ctx { s with keyed := keyed } state call.key params
            call.options = .ok ((s', state'), answer)) := by
  rw [(step_sharedSlidingLog ctx state asks).2] at made
  obtain ⟨⟨⟨s', _⟩, answer⟩, served, same⟩ := exists_of_map_eq_ok made
  cases same
  refine ⟨s', answer, rfl, rfl, ?_⟩
  unfold SharedSlidingLog.serve at served
  split at served
  · cases served
    exact .inl ⟨_, rfl, rfl, rfl⟩
  · rename_i keyed params met
    exact .inr ⟨keyed, params, met, served⟩

end Served

section Steps

variable {σ : Type} {ctx : Context σ} {state state' : σ} {now : Instant} {store store' : Store}

/-- A setter keeps the parameters valid. -/
theorem Valid.set (valid : l.Valid) (sets : l.setter? now call = some (.ok l')) : l'.Valid := by
  cases call with
  | setRate key rate => exact valid.setRate (Option.some.inj sets)
  | setLimit key limit => exact valid.setLimit (Option.some.inj sets)
  | setBurst key burst =>
    exact valid.change (fun keeps valid => valid.change keeps (keeps.setBurst burst))
      (Option.some.inj sets)
  | setWindow key window =>
    exact valid.change (fun keeps valid => valid.change keeps (keeps.setWindow window))
      (Option.some.inj sets)
  | setFixedWindow key w =>
    cases sets
    exact valid.setFixedWindow key w
  | setLimitFor r =>
    exact valid.change (fun keeps valid => valid.changeFor keeps (keeps.setLimit _ _))
      (Option.some.inj sets)
  | setBurstFor r =>
    exact valid.change (fun keeps valid => valid.changeFor keeps (keeps.setBurst _))
      (Option.some.inj sets)
  | setWindowFor r =>
    exact valid.change (fun keeps valid => valid.changeFor keeps (keeps.setWindow _))
      (Option.some.inj sets)
  | _ => cases sets

/-- **A call keeps the parameters of a shared window or log valid**, whatever its context. -/
theorem Valid.step (valid : l.Valid)
    (made : step ctx (l, state) call = .ok ((l', state'), outcome)) : l'.Valid := by
  cases stepped_of_step made with
  | set sets => exact valid.set sets
  | refused | untaken => exact valid
  | tokenBucket | leakyBucket | slidingWindow | slidingLog | sharedLeakyBucket => trivial
  | sharedSlidingWindow asks =>
    obtain ⟨s', answer, same, -, ⟨e, rfl, -⟩ | ⟨keyed, params, met, requested⟩⟩ :=
      exists_of_step_sharedSlidingWindow asks made
    · cases same
      exact valid
    · cases same
      rw [Valid, SharedSlidingWindow.keyed_request requested]
      exact (SharedSlidingWindow.valid_of_meet valid met).1
  | sharedSlidingLog asks =>
    obtain ⟨s', answer, same, -, ⟨e, rfl, -⟩ | ⟨keyed, params, met, requested⟩⟩ :=
      exists_of_step_sharedSlidingLog asks made
    · cases same
      exact valid
    · cases same
      rw [Valid, SharedSlidingLog.keyed_request requested]
      exact (Keyed.Valid.meet valid SlidingLog.windowed.keepsValid met).1

/-- A call without a script leaves the store as it is. -/
theorem store_eq_of_step (unasked : l.scriptFor? call = none)
    (made : step ctx (l, state) call = .ok ((l', state'), outcome)) : state' = state := by
  cases stepped_of_step made with
  | sharedLeakyBucket asks | sharedSlidingWindow asks | sharedSlidingLog asks =>
    cases unasked.symm.trans asks
  | _ => rfl

/-- **A call runs at most one script and renews at most one lifetime.** -/
theorem exists_of_step
    (made : step (Store.context α now) (l, store) call = .ok ((l', store'), outcome)) :
    store' = store ∨ ∃ script args,
      store' = (store.eval α now script [call.key] args).1 ∨
      ∃ lifetime, store' = ((store.eval α now script [call.key] args).1.expire now call.key
        lifetime).1 := by
  cases asks : l.scriptFor? call with
  | none => exact .inl (store_eq_of_step asks made)
  | some script =>
    cases l with
    | sharedLeakyBucket s =>
      obtain ⟨s', answer, -, -, ⟨e, -, rfl, -⟩ | ⟨keyed, params, -, poured, -⟩⟩ :=
        exists_of_step_sharedLeakyBucket asks made
      · exact .inl rfl
      · obtain ⟨reply, ran, -⟩ := SharedLeakyBucket.pour_eq_ok poured
        exact .inr ⟨_, _, .inl (congrArg Prod.fst ran).symm⟩
    | sharedSlidingWindow s =>
      obtain ⟨s', answer, -, -, ⟨e, -, rfl, -⟩ | ⟨keyed, params, -, requested⟩⟩ :=
        exists_of_step_sharedSlidingWindow asks made
      · exact .inl rfl
      · obtain ⟨_, -, rfl, -⟩ | ⟨_, _, lifetime, _, _, -, -, -, ran, -, rfl, -⟩ :=
          SharedSlidingWindow.request_eq_ok requested
        · exact .inl rfl
        · exact .inr ⟨_, _, .inr ⟨lifetime, by rw [ran]⟩⟩
    | sharedSlidingLog s =>
      obtain ⟨s', answer, -, -, ⟨e, -, rfl, -⟩ | ⟨keyed, params, -, requested⟩⟩ :=
        exists_of_step_sharedSlidingLog asks made
      · exact .inl rfl
      · obtain ⟨_, -, rfl, -⟩ | ⟨_, _, lifetime, _, _, -, -, ran, -, rfl, -⟩ :=
          SharedSlidingLog.request_eq_ok requested
        · exact .inl rfl
        · exact .inr ⟨_, _, .inr ⟨lifetime, by rw [ran]⟩⟩
    | _ => cases asks

end Steps

end Limiter

/-! ## Sorted sets -/

namespace Store.Indexed

variable {α : Type} [Arithmetic α] {s : Store} (h : Indexed s.slots) (now : Instant)

include h

theorem eval (script : Script) (keys args : List String) :
    Indexed (s.eval α now script keys args).1.slots :=
  Holding.eval h (fun _ coherent => coherent) fun _ _ _ ran => (h.filter _).execute ran

theorem expire (key : String) (lifetime : Span) : Indexed (s.expire now key lifetime).1.slots :=
  Holding.expire h now key lifetime

/-- The indexes agree after every operation. -/
theorem perform (o : Operation) : Indexed (s.perform α now o).slots := by
  cases o with
  | eval script keys args => exact h.eval now script keys args
  | expire key lifetime => exact h.expire now key lifetime
  | reach => exact h
  | look => exact h.filter _

end Store.Indexed

/-! ## Reachable states -/

namespace Limiter

variable {α : Type} [Arithmetic α]

/-- A limiter as it is created. -/
inductive New : Limiter α → Prop where
  | tokenBucket {c : TokenBucket.Config α} {k : Keyed (TokenBucket.scheme α)}
    (created : Keyed.create? (TokenBucket.scheme α) c = .ok k) : New (.tokenBucket k)
  | leakyBucket {c : LeakyBucket.Config α} {k : Keyed (LeakyBucket.scheme α)}
    (created : Keyed.create? (LeakyBucket.scheme α) c = .ok k) : New (.leakyBucket k)
  | slidingWindow {c : SlidingWindow.Config} {k : Keyed SlidingWindow.scheme}
    (created : Keyed.create? SlidingWindow.scheme c = .ok k) : New (.slidingWindow k)
  | slidingLog {c : SlidingLog.Config} {k : Keyed SlidingLog.scheme}
    (created : Keyed.create? SlidingLog.scheme c = .ok k) : New (.slidingLog k)
  | sharedLeakyBucket {c : LeakyBucket.Config α} {timeout : Option Span} {s : SharedLeakyBucket α}
    (created : SharedLeakyBucket.create? c timeout = .ok s) : New (.sharedLeakyBucket s)
  | sharedSlidingWindow {c : SlidingWindow.Config} {origin : UInt64} {timeout : Option Span}
    {grace : Span} {s : SharedSlidingWindow}
    (created : SharedSlidingWindow.create? c origin timeout grace = .ok s) :
    New (.sharedSlidingWindow s)
  | sharedSlidingLog {c : SlidingLog.Config} {origin : UInt64} {timeout : Option Span}
    {grace : Span} {s : SharedSlidingLog}
    (created : SharedSlidingLog.create? c origin timeout grace = .ok s) : New (.sharedSlidingLog s)

/-- A limiter with a store in memory that calls have led to, at any readings of the clock. Others
may use the store in between. -/
inductive Reached : Limiter α → Store → Prop where
  | start {l : Limiter α} (new : l.New) : Reached l ∅
  | call {l l' : Limiter α} {store store' : Store} {now : Instant} {call : Call α}
    {outcome : Outcome} (reached : Reached l store)
    (made : step (Store.context α now) (l, store) call = .ok ((l', store'), outcome)) :
    Reached l' store'
  | use {l : Limiter α} {store : Store} (reached : Reached l store) (now : Instant)
    (o : Store.Operation) : Reached l (store.perform α now o)

/-- The parameters of a new limiter's keys are valid, as there are none. -/
theorem New.valid {l : Limiter α} (new : l.New) : l.Valid := by
  cases new with
  | sharedSlidingWindow created | sharedSlidingLog created =>
    obtain ⟨keyed, made, rfl⟩ := exists_of_map_eq_ok created
    intro key params held
    exact nomatch ((Keyed.valid_of_create? made).2 key).symm.trans held
  | _ => trivial

namespace Reached

variable {l : Limiter α} {store : Store} (h : Reached l store)

include h

/-- The parameters of a shared window or log are valid in every state that is reached. -/
theorem valid : l.Valid := by
  induction h with
  | start new => exact new.valid
  | call _ made ih => exact ih.step made
  | use _ _ _ ih => exact ih

/-- The indexes of every sorted set agree in every state that is reached. -/
theorem indexed : Store.Indexed store.slots := by
  induction h with
  | start => exact fun _ _ _ found => nomatch found
  | call _ made ih =>
    obtain rfl | ⟨script, args, rfl | ⟨lifetime, rfl⟩⟩ := exists_of_step made
    · exact ih
    · exact ih.eval _ script _ args
    · exact (ih.eval _ script _ args).expire _ _ lifetime
  | use _ now o ih => exact ih.perform now o

end Reached

end Limiter

end Throttle
