import Throttle.Proofs.Rejection.Reached
import Throttle.Proofs.Rejection.Repeated
import Throttle.Proofs.Shared.Agreement

/-!
# Rejections stand

While the clock stands still, a rejection stands: once a limiter has rejected a request, it rejects
every later one about the key that is not smaller, whatever smaller ones come in between, and what
it rejects after the first rejection changes nothing. This holds of all limiters, in whatever state
calls have led them to.

The first rejection puts a key into a state from which no request at the same time leads out: a
token bucket lacks tokens and gains none, and the others have no room for anything.

## Main definitions

* `Limiter.Asks`: a trailing request about a key
* `Limiter.rejection`: how a limiter rejects a request
* `Limiter.Barred`: the states in which a request of some units is rejected, and goes on being
* `Limiter.Upheld`: an answer that agrees with an earlier rejection

## Main results

* `Limiter.barred_of_rejected`: a rejection leads to such a state
* `Limiter.Barred.step`, `Limiter.Barred.drive`: requests do not lead out of it
* `Limiter.rejection_stands`: **what is rejected once is rejected again, and changes nothing**
-/

namespace Throttle

/-! ## Requests in process -/

section Decisions

variable {α : Type} [Arithmetic α] {now : Instant} {n : ℕ} {passed : Bool}

theorem TokenBucket.decide_eq_ok_iff {b b' : TokenBucket α} :
    decide now n b = .ok (b', .ok passed) ↔ b.allow now n = (b', passed) := by
  simp only [decide, Except.ok.injEq, Prod.ext_iff]

theorem LeakyBucket.decide_eq_ok_iff {b b' : LeakyBucket α} :
    decide now n b = .ok (b', .ok passed) ↔ b.allow now n = (b', passed) := by
  simp only [decide, Except.ok.injEq, Prod.ext_iff]

theorem SlidingWindow.decide_eq_ok_iff {w w' : SlidingWindow} :
    decide now w = .ok (w', .ok passed) ↔ w.allow now = (w', passed) := by
  simp only [decide, Except.ok.injEq, Prod.ext_iff]

end Decisions

section InProcess

variable {P S L α : Type} {scheme : Scheme P S L}
  {decide : Call α → S → Except Fault (S × Except LimiterError Bool)} {k k' : Keyed scheme}
  {call : Call α} {s s' : S}

namespace Keyed

/-- A key that has a state meets a call with it. -/
theorem meet_of_held (held : k.get? call.key = some s) : k.meet call = .ok (k, s) := by
  have same : k.put call.key s = k := put_self held
  cases call with
  | check r count =>
    rw [meet, obtainFor_eq, show k.get? r.name = some s from held]
    exact congrArg (fun k => Except.ok (k, s)) same
  | _ =>
    simp only [meet, obtain_eq, state, held, Option.getD_some, same]

/-- A key that has met a call has a state. -/
theorem get?_of_meet (met : k.meet call = .ok (k', s)) : k'.get? call.key = some s := by
  cases call with
  | check r count =>
    rw [meet, obtainFor_eq] at met
    obtain ⟨_, -, same⟩ := exists_of_map_eq_ok met
    cases same
    rw [get?_put]
    exact if_pos rfl
  | _ =>
    simp only [meet, obtain_eq] at met
    cases met
    rw [get?_put, if_pos rfl]

/-- An answer is one to a state that the key has afterwards. -/
theorem exists_of_serve {answer : Bool} (made : k.serve decide call = .ok (k', .ok answer)) :
    ∃ s s', decide call s = .ok (s', .ok answer) ∧ k'.get? call.key = some s' := by
  unfold serve at made
  split at made
  · cases made
  · rename_i keyed s met
    obtain ⟨⟨s', _⟩, decided, same⟩ := exists_of_map_eq_ok made
    cases same
    exact ⟨s, s', decided, by rw [get?_put, if_pos rfl]⟩

/-- A key that has a state is served with it. -/
theorem serve_of_held {outcome : Except LimiterError Bool} (held : k.get? call.key = some s)
    (decides : decide call s = .ok (s', outcome)) :
    k.serve decide call = .ok (k.put call.key s', outcome) := by
  simp only [serve, meet_of_held held, decides, Except.map]

end Keyed

end InProcess

namespace Limiter

/-! ## Trailing requests about a key -/

section Asks

variable {α : Type} {key : String} {own : Option (Span × ℕ)} {kind : Algorithm × Backend}
  {call : Call α}

/-- A request about a key in the trailing window, of at least one unit: one with the parameters of
the key, or one with the window and the limit `own`. -/
inductive Asks (key : String) : Option (Span × ℕ) → Algorithm × Backend → Call α → Prop where
  | allow {kind : Algorithm × Backend} {o : AllowOptions} (trailing : o.fixedWindow = false) :
    Asks key none kind (.allow key o)
  | check {kind : Algorithm × Backend} {r : Resource} {count : ℕ} (about : r.name = key) :
    Asks key none kind (.check r count)
  | take {kind : Algorithm × Backend} {n : ℕ} (positive : 1 ≤ n)
    (bucket : kind.1 = .tokenBucket ∨ kind.1 = .leakyBucket) : Asks key none kind (.take key n)
  | shouldAllow {window : Span} {limit : ℕ} :
    Asks key (some (window, limit)) (.slidingWindow, .shared) (.shouldAllow key window limit)

namespace Asks

theorem key_eq (asks : Asks key own kind call) : call.key = key := by
  cases asks with
  | check about => exact about
  | _ => rfl

theorem one_le_units (asks : Asks key own kind call) : 1 ≤ call.units := by
  cases asks with
  | take positive => exact positive
  | _ => exact AllowOptions.one_le_weight _

theorem trailing (asks : Asks key own kind call) : call.options.fixedWindow = false := by
  cases asks with
  | allow trailing => exact trailing
  | _ => rfl

theorem weight_eq (asks : Asks key own (.slidingLog, .shared) call) :
    call.options.weight = call.units := by
  cases asks with
  | take _ bucket => exact nomatch bucket
  | _ => rfl

/-- A shared limiter puts a script to its store for a request. -/
theorem exists_script [Arithmetic α] {l : Limiter α} (asks : Asks key own l.kind call)
    (shared : l.kind.2 = .shared) : ∃ script, l.scriptFor? call = some script := by
  cases l with
  | sharedLeakyBucket | sharedSlidingWindow | sharedSlidingLog =>
    cases asks with
    | take _ bucket => first | exact ⟨_, rfl⟩ | exact nomatch bucket
    | _ => exact ⟨_, rfl⟩
  | _ => cases shared

end Asks

/-- How a limiter rejects a request of `m` units. The script of a shared log cannot read a number of
units that does not fit into 63 bits. -/
def rejection (kind : Algorithm × Backend) (m : ℕ) : Outcome :=
  if kind = (.slidingLog, .shared) ∧ 2 ^ 63 ≤ m then .error (.store (.badArgument 5))
  else .ok (some false)

theorem rejection_of_ne (other : kind ≠ (.slidingLog, .shared)) (m : ℕ) :
    rejection kind m = .ok (some false) :=
  if_neg fun heavy => other heavy.1

theorem rejection_sharedSlidingLog (m : ℕ) : rejection (.slidingLog, .shared) m =
    (if m < 2 ^ 63 then .ok false else .error (.store (.badArgument 5)) :
      Except LimiterError Bool).map some := by
  obtain small | heavy := Nat.lt_or_ge m (2 ^ 63)
  · rw [rejection, if_neg fun heavy => absurd heavy.2 (Nat.not_le_of_lt small), if_pos small]
    rfl
  · rw [rejection, if_pos ⟨rfl, heavy⟩, if_neg (Nat.not_lt_of_le heavy)]
    rfl

end Asks

/-! ## Limiters in process -/

section InProcess

variable {P S L α : Type} [Arithmetic α] {scheme : Scheme P S L}

/-- A limiter keeps its states in process, and a request makes of them what `decide` says. -/
structure InProcess (wrap : Keyed scheme → Limiter α)
    (decide : Instant → Call α → S → Except Fault (S × Except LimiterError Bool)) : Prop where
  backend : ∀ k, (wrap k).kind.2 = .inProcess
  step_eq : ∀ {σ : Type} (ctx : Context σ) (state : σ) (k : Keyed scheme) {key own call},
    Asks key own (wrap k).kind call → step ctx (wrap k, state) call =
      (k.serve (decide ctx.now) call).map fun (k, outcome) => ((wrap k, state), outcome.map some)

/-- What a request makes of states in process, as what it makes of the limiter that holds them. -/
def rewrap {σ : Type} (wrap : Keyed scheme → Limiter α) (state : σ)
    (made : Except Fault (Keyed scheme × Except LimiterError Bool)) :
    Except Fault ((Limiter α × σ) × Except LimiterError Bool) :=
  made.map fun (k, outcome) => ((wrap k, state), outcome)

/-- A request in process is answered as it is decided. -/
theorem answered_rewrap {σ : Type} (wrap : Keyed scheme → Limiter α) (state : σ)
    (made : Except Fault (Keyed scheme × Except LimiterError Bool)) :
    answered (rewrap wrap state made) =
      made.map fun (k, outcome) => ((wrap k, state), outcome.map some) := by
  cases made <;> rfl

/-- Requests by key and by resource, and of exactly some units if the limiter is a bucket, are all
that a limiter in process takes. -/
theorem InProcess.of_requests {wrap : Keyed scheme → Limiter α}
    {decide : Instant → Call α → S → Except Fault (S × Except LimiterError Bool)}
    (backend : ∀ k, (wrap k).kind.2 = .inProcess)
    (allow_eq : ∀ {σ : Type} (ctx : Context σ) (state : σ) k key o,
      (wrap k).allow ctx state key o =
        rewrap wrap state (k.allow (decide ctx.now (.allow key o)) key))
    (check_eq : ∀ {σ : Type} (ctx : Context σ) (state : σ) k r count,
      (wrap k).check ctx state r count =
        rewrap wrap state (k.check (decide ctx.now (.check r count)) r))
    (take?_eq : ∀ {σ : Type} (ctx : Context σ) (state : σ) k key n,
      (wrap k).kind.1 = .tokenBucket ∨ (wrap k).kind.1 = .leakyBucket →
        (wrap k).take? ctx state key n =
          some (rewrap wrap state (k.allow (decide ctx.now (.take key n)) key))) :
    InProcess wrap decide where
  backend := backend
  step_eq := by
    intro σ ctx state k key own call asks
    generalize kinds : (wrap k).kind = kind at asks
    cases asks with
    | allow =>
      rw [Keyed.serve_allow, ← answered_rewrap, ← allow_eq]
      rfl
    | check =>
      rw [Keyed.serve_check, ← answered_rewrap, ← check_eq]
      rfl
    | take _ bucket =>
      rw [Keyed.serve_take, ← answered_rewrap, step, take?_eq _ _ _ _ _ (kinds ▸ bucket)]
      rfl
    | shouldAllow =>
      have other : Backend.shared = .inProcess := (congrArg Prod.snd kinds).symm.trans (backend k)
      cases other

theorem inProcess_tokenBucket : InProcess (α := α) tokenBucket
    fun now call => TokenBucket.decide now call.units :=
  .of_requests (fun _ => rfl) (fun _ _ _ _ _ => rfl) (fun _ _ _ _ _ => rfl)
    fun _ _ _ _ _ _ => rfl

theorem inProcess_leakyBucket : InProcess (α := α) leakyBucket
    fun now call => LeakyBucket.decide now call.units :=
  .of_requests (fun _ => rfl) (fun _ _ _ _ _ => rfl) (fun _ _ _ _ _ => rfl)
    fun _ _ _ _ _ _ => rfl

theorem inProcess_slidingWindow : InProcess (α := α) slidingWindow
    fun now _ => SlidingWindow.decide now :=
  .of_requests (fun _ => rfl) (fun _ _ _ _ _ => rfl) (fun _ _ _ _ _ => rfl)
    fun _ _ _ _ _ bucket => nomatch bucket

theorem inProcess_slidingLog : InProcess (α := α) slidingLog
    fun now call => SlidingLog.decide now call.options :=
  .of_requests (fun _ => rfl) (fun _ _ _ _ _ => rfl) (fun _ _ _ _ _ => rfl)
    fun _ _ _ _ _ bucket => nomatch bucket

end InProcess

/-! ## Barred requests -/

section Bars

variable {S α : Type} {decide : Call α → S → Except Fault (S × Except LimiterError Bool)}

/-- States from which no request of `n` units or more passes: it leaves them as they are, and only
smaller ones pass. -/
def Bars (decide : Call α → S → Except Fault (S × Except LimiterError Bool)) (n : ℕ)
    (holds : S → Prop) : Prop :=
  ∀ s, holds s → ∀ call : Call α, 1 ≤ call.units → call.options.fixedWindow = false →
    decide call s = .ok (s, .ok false) ∨
      call.units < n ∧ ∃ s', decide call s = .ok (s', .ok true) ∧ holds s'

/-- So it is if all requests are rejected. -/
theorem Bars.of_all (n : ℕ) :
    Bars decide n fun s => ∀ call : Call α, 1 ≤ call.units → call.options.fixedWindow = false →
      decide call s = .ok (s, .ok false) :=
  fun _ rejects call positive trailing => .inl (rejects call positive trailing)

end Bars

/-- A key is in a state from which no request of `n` units or more passes at `now`, and smaller ones
do not lead out of it. -/
inductive Barred (now : Instant) (key : String) (own : Option (Span × ℕ)) (n : ℕ) :
    Limiter ℚ → Store → Prop where
  | inProcess {P S L : Type} {scheme : Scheme P S L} {wrap : Keyed scheme → Limiter ℚ}
    {decide : Instant → Call ℚ → S → Except Fault (S × Except LimiterError Bool)}
    {k : Keyed scheme} {s : S} {holds : S → Prop} {store : Store} (serves : InProcess wrap decide)
    (bars : Bars (decide now) n holds) (held : k.get? key = some s) (here : holds s) :
    Barred now key own n (wrap k) store
  | sharedLeakyBucket {l : SharedLeakyBucket ℚ} {params : LeakyBucket.Config ℚ} {store : Store}
    (held : l.keyed.get? key = some params)
    (full : ∀ m, 1 ≤ m →
      l.pour (Store.context ℚ now) key params m store = .ok (store, .ok false)) :
    Barred now key own n (sharedLeakyBucket l) store
  | sharedSlidingWindow {l : SharedSlidingWindow} {params : SlidingWindow.Config} {store : Store}
    (uses : ∀ {call : Call ℚ}, Asks key own (.slidingWindow, .shared) call →
      l.meet call = .ok (l.keyed, params))
    (full : ∀ members, SharedSlidingWindow.request (Store.context ℚ now)
        { l with members := members } store key params =
      .ok (({ l with members := (members.next now.micros).1 }, store), .ok false)) :
    Barred now key own n (sharedSlidingWindow l) store
  | sharedSlidingLog {l : SharedSlidingLog} {params : SlidingLog.Config} {store : Store}
    (held : l.keyed.get? key = some params)
    (full : ∀ members {o : AllowOptions}, o.fixedWindow = false →
      SharedSlidingLog.request (Store.context ℚ now)
        { l with members := members } store key params o =
      .ok (({ l with members := (members.next now.micros).1 }, store),
        if o.weight < 2 ^ 63 then .ok false else .error (.store (.badArgument 5)))) :
    Barred now key own n (sharedSlidingLog l) store

/-- What becomes of a request after one of `n` units has been rejected: it passes only if it is
smaller, and it leaves everything as it is otherwise. -/
def Upheld (n : ℕ) (l l' : Limiter ℚ) (store store' : Store) (call : Call ℚ) (outcome : Outcome) :
    Prop :=
  outcome = .ok (some true) ∧ call.units < n ∨
    outcome = rejection l.kind call.units ∧ l.AgreeOn Set.univ l' ∧ store' = store

section Barred

variable {now : Instant} {key : String} {own : Option (Span × ℕ)} {n : ℕ} {l l' : Limiter ℚ}
  {store store' : Store} {call : Call ℚ}

/-! ### Requests in process -/

section InProcess

variable {P S L : Type} {scheme : Scheme P S L} {wrap : Keyed scheme → Limiter ℚ}
  {decide : Instant → Call ℚ → S → Except Fault (S × Except LimiterError Bool)}

/-- A rejected request in process leads to a state that bars it, if its state does. -/
theorem InProcess.barred_of_rejected (serves : InProcess wrap decide) {k : Keyed scheme}
    (asks : Asks key own (wrap k).kind call)
    (rejected : step (Store.context ℚ now) (wrap k, store) call =
      .ok ((l', store'), .ok (some false)))
    {holds : S → Prop} (bars : Bars (decide now) call.units holds)
    (enters : ∀ s s', decide now call s = .ok (s', .ok false) → holds s') :
    Barred now key own call.units l' store' := by
  rw [serves.step_eq _ _ _ asks] at rejected
  obtain ⟨⟨k', answer⟩, served, same⟩ := exists_of_map_eq_ok rejected
  cases answer with
  | error e => cases same
  | ok passed =>
    cases same
    obtain ⟨s, s', decided, held⟩ := Keyed.exists_of_serve served
    rw [asks.key_eq] at held
    exact .inProcess serves bars held (enters s s' decided)

/-- A limiter in process rejects a request without an error. -/
theorem InProcess.rejection_eq (serves : InProcess wrap decide) (k : Keyed scheme) (m : ℕ) :
    rejection (wrap k).kind m = .ok (some false) := by
  refine rejection_of_ne (fun same => ?_) m
  have backend := serves.backend k
  rw [same] at backend
  cases backend

/-- A request in process does not lead out of a barred state. -/
theorem InProcess.exists_step (serves : InProcess wrap decide) {k : Keyed scheme} {s : S}
    {holds : S → Prop} (bars : Bars (decide now) n holds) (held : k.get? key = some s)
    (here : holds s) (asks : Asks key own (wrap k).kind call) :
    ∃ l' outcome, step (Store.context ℚ now) (wrap k, store) call = .ok ((l', store), outcome) ∧
      Barred now key own n l' store ∧ Upheld n (wrap k) l' store store call outcome := by
  have met : k.get? call.key = some s := by rw [asks.key_eq, held]
  rw [serves.step_eq _ _ _ asks, Store.now_context]
  obtain rejects | ⟨smaller, s', passes, here'⟩ := bars s here call asks.one_le_units asks.trailing
  · refine ⟨wrap k, .ok (some false), ?_, .inProcess serves bars held here,
      .inr ⟨(serves.rejection_eq k _).symm, .refl .., rfl⟩⟩
    rw [Keyed.serve_of_held met rejects, Keyed.put_self met]
    rfl
  · refine ⟨wrap (k.put key s'), .ok (some true), ?_,
      .inProcess serves bars (by rw [Keyed.get?_put, if_pos rfl]) here', .inl ⟨rfl, smaller⟩⟩
    rw [Keyed.serve_of_held met passes, asks.key_eq]
    rfl

end InProcess

/-! ### Rejections in process -/

theorem barred_of_rejected_tokenBucket {k : Keyed (TokenBucket.scheme ℚ)}
    (asks : Asks key own (tokenBucket k).kind call)
    (rejected : step (Store.context ℚ now) (tokenBucket k, store) call =
      .ok ((l', store'), .ok (some false))) : Barred now key own call.units l' store' := by
  have bars : Bars (fun next : Call ℚ => TokenBucket.decide now next.units) call.units
      (·.Short now call.units) := by
    intro b short next _ _
    simp only [TokenBucket.decide_eq_ok_iff]
    obtain same | ⟨smaller, b', passes, short'⟩ := short.allow next.units
    · exact .inl same
    · exact .inr ⟨smaller, b', passes, short'⟩
  refine inProcess_tokenBucket.barred_of_rejected asks rejected bars fun b b' decided => ?_
  exact TokenBucket.short_of_rejected (TokenBucket.decide_eq_ok_iff.1 decided)

theorem barred_of_rejected_leakyBucket {k : Keyed (LeakyBucket.scheme ℚ)}
    (asks : Asks key own (leakyBucket k).kind call)
    (rejected : step (Store.context ℚ now) (leakyBucket k, store) call =
      .ok ((l', store'), .ok (some false))) : Barred now key own call.units l' store' := by
  refine inProcess_leakyBucket.barred_of_rejected asks rejected (Bars.of_all _)
    fun b b' decided next positive _ => ?_
  rw [LeakyBucket.decide_eq_ok_iff] at decided ⊢
  exact LeakyBucket.rejected_again decided positive

theorem barred_of_rejected_slidingWindow {k : Keyed SlidingWindow.scheme}
    (asks : Asks key own (slidingWindow k : Limiter ℚ).kind call)
    (rejected : step (Store.context ℚ now) (slidingWindow k, store) call =
      .ok ((l', store'), .ok (some false))) : Barred now key own call.units l' store' := by
  refine inProcess_slidingWindow.barred_of_rejected asks rejected (Bars.of_all _)
    fun w w' decided _ _ _ => ?_
  have same := SlidingWindow.eq_of_rejected (SlidingWindow.decide_eq_ok_iff.1 decided)
  rwa [← same] at decided

theorem barred_of_rejected_slidingLog {k : Keyed SlidingLog.scheme}
    (asks : Asks key own (slidingLog k : Limiter ℚ).kind call)
    (rejected : step (Store.context ℚ now) (slidingLog k, store) call =
      .ok ((l', store'), .ok (some false))) : Barred now key own call.units l' store' := by
  refine inProcess_slidingLog.barred_of_rejected asks rejected (Bars.of_all _)
    fun s s' decided _ _ trailing => ?_
  exact SlidingLog.rejected_again asks.trailing trailing decided

/-! ### Rejections by a store -/

/-- A shared limiter that has answered a request had no error. -/
theorem answer_eq_of_map {answer : Except LimiterError Bool} {passed : Bool}
    (answers : .ok (some passed) = answer.map some) : answer = .ok passed := by
  cases answer with
  | error e => cases answers
  | ok b =>
    cases answers
    rfl

/-- A reply that stands for a rejection. -/
theorem reply_eq_of_bind {reply : Except LimiterError Int}
    (decided : .ok false = reply.bind decision) : reply = .ok 0 := by
  cases reply with
  | error e => cases decided
  | ok value => exact congrArg _ (decision_eq_ok_iff.1 decided.symm)

theorem barred_of_rejected_sharedLeakyBucket {s : SharedLeakyBucket ℚ}
    (asks : Asks key own (sharedLeakyBucket s).kind call)
    (rejected : step (Store.context ℚ now) (sharedLeakyBucket s, store) call =
      .ok ((l', store'), .ok (some false))) : Barred now key own call.units l' store' := by
  obtain ⟨script, scripted⟩ := asks.exists_script rfl
  obtain ⟨s', answer, rfl, answers, ⟨e, -, -, failed⟩ | ⟨keyed, params, met, poured, rfl⟩⟩ :=
    exists_of_step_sharedLeakyBucket scripted rejected
  · cases failed.symm.trans (answer_eq_of_map answers)
  · cases answer_eq_of_map answers
    obtain ⟨reply, ran, decided⟩ := SharedLeakyBucket.pour_eq_ok poured
    cases reply_eq_of_bind decided
    rw [asks.key_eq] at ran
    refine .sharedLeakyBucket (asks.key_eq ▸ Keyed.get?_of_meet met) fun m positive => ?_
    rw [SharedLeakyBucket.pour, Store.eval_context, Store.now_context,
      Store.pour_again ran positive]
    rfl

/-- A shared window meets a request with the parameters of its key, unless it brings its own. -/
theorem Asks.meet_eq (asks : Asks key none (.slidingWindow, .shared) call)
    (s : SharedSlidingWindow) : s.meet call = s.keyed.meet call := by
  cases asks with
  | take _ bucket => exact nomatch bucket
  | _ => rfl

/-- A shared window meets two requests of a run with the same parameters. -/
theorem Asks.meet_again {s s' : SharedSlidingWindow} {next : Call ℚ}
    {params : SlidingWindow.Config} (asks : Asks key own (.slidingWindow, .shared) call)
    (met : s.meet call = .ok (s'.keyed, params))
    (again : Asks key own (.slidingWindow, .shared) next) :
    s'.meet next = .ok (s'.keyed, params) := by
  cases own with
  | none =>
    rw [asks.meet_eq] at met
    rw [again.meet_eq]
    have held := Keyed.get?_of_meet met
    rw [asks.key_eq, ← again.key_eq] at held
    exact Keyed.meet_of_held held
  | some parameters =>
    cases asks
    cases again
    obtain ⟨u, passes, same⟩ := exists_of_map_eq_ok met
    obtain ⟨-, rfl⟩ := Prod.mk.inj same
    simp only [SharedSlidingWindow.meet, passes, Except.map]

theorem barred_of_rejected_sharedSlidingWindow {s : SharedSlidingWindow}
    (valid : s.keyed.Valid) (asks : Asks key own (sharedSlidingWindow s : Limiter ℚ).kind call)
    (rejected : step (Store.context ℚ now) (sharedSlidingWindow s, store) call =
      .ok ((l', store'), .ok (some false))) : Barred now key own call.units l' store' := by
  obtain ⟨script, scripted⟩ := asks.exists_script rfl
  obtain ⟨s', answer, rfl, answers, ⟨e, -, -, failed⟩ | ⟨keyed, params, met, requested⟩⟩ :=
    exists_of_step_sharedSlidingWindow scripted rejected
  · cases failed.symm.trans (answer_eq_of_map answers)
  cases answer_eq_of_map answers
  have inOrder := SlidingWindow.Config.validate_eq_ok_iff.1
    (SharedSlidingWindow.valid_of_meet valid met).2
  obtain ⟨_, -, -, failed⟩ |
    ⟨length, boundary, lifetime, store₁, reply, window, moved, lasts, ran, rfl, rfl, decided⟩ :=
      SharedSlidingWindow.request_eq_ok requested
  · cases failed
  cases reply_eq_of_bind decided
  rw [asks.key_eq] at ran
  have lasting : 0 < lifetime.nanos := by
    have covers := (Span.plus?_eq_some_iff.1 lasts).1
    have := (Span.window?_eq_ok_iff.1 window).2.1
    omega
  obtain ⟨kept, again⟩ := Store.eval_slidingWindow_again ran inOrder.1 lasting
  rw [asks.key_eq]
  refine .sharedSlidingWindow (asks.meet_again met) fun members => ?_
  simp only [SharedSlidingWindow.request, window, Store.now_context, moved, Store.eval_context,
    again, lasts, Store.refresh_context, kept]
  rfl

theorem barred_of_rejected_sharedSlidingLog {s : SharedSlidingLog}
    (valid : s.keyed.Valid) (indexed : Store.Indexed store.slots)
    (asks : Asks key own (sharedSlidingLog s : Limiter ℚ).kind call)
    (rejected : step (Store.context ℚ now) (sharedSlidingLog s, store) call =
      .ok ((l', store'), .ok (some false))) : Barred now key own call.units l' store' := by
  obtain ⟨script, scripted⟩ := asks.exists_script rfl
  obtain ⟨s', answer, rfl, answers, ⟨e, -, -, failed⟩ | ⟨keyed, params, met, requested⟩⟩ :=
    exists_of_step_sharedSlidingLog scripted rejected
  · cases failed.symm.trans (answer_eq_of_map answers)
  cases answer_eq_of_map answers
  have inOrder := SlidingLog.Config.validate_eq_ok_iff.1
    (Keyed.Valid.meet valid SlidingLog.windowed.keepsValid met).2
  obtain ⟨_, -, -, failed⟩ |
    ⟨left, right, lifetime, store₁, reply, bounds, lasts, ran, rfl, rfl, decided⟩ :=
      SharedSlidingLog.request_eq_ok requested
  · cases failed
  cases reply_eq_of_bind decided
  have held := Keyed.get?_of_meet met
  rw [asks.key_eq] at ran held
  rw [SharedSlidingLog.countedFor, if_neg (by simp [asks.trailing])] at lasts
  have lasting : 0 < lifetime.nanos := by
    have covers := (Span.plus?_eq_some_iff.1 lasts).1
    have := inOrder.2.1
    omega
  obtain ⟨kept, again⟩ := Store.eval_slidingLog_again ran indexed inOrder.1 lasting
  rw [asks.key_eq]
  refine .sharedSlidingLog held fun members o trailing => ?_
  rw [← AllowOptions.windowBounds_of_trailing asks.trailing trailing] at bounds
  simp only [SharedSlidingLog.request, SharedSlidingLog.countedFor, trailing, Bool.false_eq_true,
    if_false, bounds, Store.now_context, Store.eval_context, again, lasts, Store.refresh_context,
    kept]
  split <;> rfl

/-- **A rejection bars what is not smaller.** -/
theorem barred_of_rejected (valid : l.Valid) (indexed : Store.Indexed store.slots)
    (asks : Asks key own l.kind call)
    (rejected : step (Store.context ℚ now) (l, store) call =
      .ok ((l', store'), .ok (some false))) : Barred now key own call.units l' store' := by
  cases l with
  | tokenBucket k => exact barred_of_rejected_tokenBucket asks rejected
  | leakyBucket k => exact barred_of_rejected_leakyBucket asks rejected
  | slidingWindow k => exact barred_of_rejected_slidingWindow asks rejected
  | slidingLog k => exact barred_of_rejected_slidingLog asks rejected
  | sharedLeakyBucket s => exact barred_of_rejected_sharedLeakyBucket asks rejected
  | sharedSlidingWindow s => exact barred_of_rejected_sharedSlidingWindow valid asks rejected
  | sharedSlidingLog s => exact barred_of_rejected_sharedSlidingLog valid indexed asks rejected

/-! ### Requests in barred states -/

/-- **A request does not lead out of a barred state**, and is answered as its rejection says. -/
theorem Barred.step (barred : Barred now key own n l store) (asks : Asks key own l.kind call) :
    ∃ l' store' outcome,
      step (Store.context ℚ now) (l, store) call = .ok ((l', store'), outcome) ∧
        Barred now key own n l' store' ∧ Upheld n l l' store store' call outcome := by
  cases barred with
  | inProcess serves bars held here =>
    obtain ⟨l', outcome, stepped, barred, upheld⟩ := serves.exists_step bars held here asks
    exact ⟨l', store, outcome, stepped, barred, upheld⟩
  | @sharedLeakyBucket s params _ held full =>
    obtain ⟨script, scripted⟩ := asks.exists_script rfl
    have rejects : rejection (.leakyBucket, .shared) call.units = .ok (some false) :=
      rejection_of_ne (by decide) _
    refine ⟨_, store, .ok (some false), ?_, .sharedLeakyBucket held full,
      .inr ⟨rejects.symm, .refl .., rfl⟩⟩
    rw [← asks.key_eq] at held full
    rw [(step_sharedLeakyBucket _ _ scripted).2, SharedLeakyBucket.serve, Keyed.meet_of_held held]
    simp only [full _ asks.one_le_units, Except.map]
  | @sharedSlidingWindow s params _ uses full =>
    obtain ⟨script, scripted⟩ := asks.exists_script rfl
    have rejects : rejection (.slidingWindow, .shared) call.units = .ok (some false) :=
      rejection_of_ne (by decide) _
    refine ⟨_, store, .ok (some false), ?_,
      .sharedSlidingWindow (l := { s with members := (s.members.next now.micros).1 }) uses full,
      .inr ⟨rejects.symm, .sharedSlidingWindow (.refl ..), rfl⟩⟩
    have request := full s.members
    rw [← asks.key_eq] at request
    rw [(step_sharedSlidingWindow _ _ scripted).2, SharedSlidingWindow.serve, uses asks]
    simp only [request, Except.map]
  | @sharedSlidingLog s params _ held full =>
    obtain ⟨script, scripted⟩ := asks.exists_script rfl
    refine ⟨_, store, rejection (.slidingLog, .shared) call.units, ?_,
      .sharedSlidingLog (l := { s with members := (s.members.next now.micros).1 }) held full,
      .inr ⟨rfl, .sharedSlidingLog (.refl ..), rfl⟩⟩
    have request := full s.members asks.trailing
    rw [← asks.key_eq] at held request
    rw [(step_sharedSlidingLog _ _ scripted).2, SharedSlidingLog.serve, Keyed.meet_of_held held]
    simp only [request, rejection_sharedSlidingLog, asks.weight_eq, Except.map]

/-- **So do the requests of a run.** -/
theorem Barred.drive (barred : Barred now key own n l store) (calls : List (Call ℚ))
    (asks : ∀ call ∈ calls, Asks key own l.kind call) :
    ∃ l' store' outcomes,
      drive (l, store) (calls.map fun call => (now, call)) = .ok ((l', store'), outcomes) ∧
        Barred now key own n l' store' ∧ l'.kind = l.kind := by
  induction calls generalizing l store with
  | nil => exact ⟨l, store, [], rfl, barred, rfl⟩
  | cons call calls ih =>
    obtain ⟨first, others⟩ := List.forall_mem_cons.1 asks
    obtain ⟨l₁, store₁, outcome, stepped, barred₁, -⟩ := barred.step first
    have kind := (step_others stepped).1.kind_eq
    obtain ⟨l₂, store₂, outcomes, ran, barred₂, same⟩ := ih barred₁ (kind ▸ others)
    exact ⟨l₂, store₂, outcome :: outcomes, drive_cons stepped ran, barred₂, same.trans kind.symm⟩

/-- **What is rejected once is rejected again, and changes nothing.** The clock stands still at
`now`, and all requests are about one key. After the rejection of the first one any others may come:
the next one passes only if it has fewer units than the first one. Otherwise it leaves behind what
it finds. -/
theorem rejection_stands (reached : Reached l store) {first : Call ℚ}
    (asked : Asks key own l.kind first)
    (rejected : step (Store.context ℚ now) (l, store) first =
      .ok ((l', store'), .ok (some false)))
    {others : List (Call ℚ)} (between : ∀ call ∈ others, Asks key own l.kind call)
    (again : Asks key own l.kind call) :
    ∃ l₁ store₁ outcomes l₂ store₂ outcome,
      drive (l', store') (others.map fun call => (now, call)) = .ok ((l₁, store₁), outcomes) ∧
        step (Store.context ℚ now) (l₁, store₁) call = .ok ((l₂, store₂), outcome) ∧
        Upheld first.units l₁ l₂ store₁ store₂ call outcome := by
  have barred := barred_of_rejected reached.valid reached.indexed asked rejected
  have kind := (step_others rejected).1.kind_eq
  obtain ⟨l₁, store₁, outcomes, ran, barred₁, same⟩ := barred.drive others (kind ▸ between)
  rw [kind, ← same] at again
  obtain ⟨l₂, store₂, outcome, stepped, -, upheld⟩ := barred₁.step again
  exact ⟨l₁, store₁, outcomes, l₂, store₂, outcome, ran, stepped, upheld⟩

end Barred

/-- Token buckets that gain one token per second and hold four. -/
def fourTokens : Limiter ℚ := tokenBucket ⟨⟨1, 4⟩, by decide +kernel, ∅⟩

/-- A bucket of four tokens serves three, lacks two, and serves one. Then it still lacks two. -/
theorem rejection_stands_fourTokens :
    ∃ (l l' l₁ l₂ : Limiter ℚ) (store store' store₁ store₂ : Store) (outcomes : List Outcome),
      step (Store.context ℚ ⟨0⟩) (fourTokens, ∅) (.take "k" 3) =
        .ok ((l, store), .ok (some true)) ∧ Reached l store ∧
      step (Store.context ℚ ⟨0⟩) (l, store) (.take "k" 2) = .ok ((l', store'), .ok (some false)) ∧
      drive (l', store') [(⟨0⟩, .take "k" 1)] = .ok ((l₁, store₁), outcomes) ∧
      step (Store.context ℚ ⟨0⟩) (l₁, store₁) (.take "k" 2) =
        .ok ((l₂, store₂), .ok (some false)) ∧
      l₁.AgreeOn Set.univ l₂ ∧ store₂ = store₁ := by
  have new : fourTokens.New := .tokenBucket (c := ⟨1, 4⟩) (by rfl)
  have passes : (step (Store.context ℚ ⟨0⟩) (fourTokens, ∅) (.take "k" 3)).map Prod.snd =
      .ok (.ok (some true)) := by decide +kernel
  have fails : ((step (Store.context ℚ ⟨0⟩) (fourTokens, ∅) (.take "k" 3)).bind fun next =>
      (step (Store.context ℚ ⟨0⟩) next.1 (.take "k" 2)).map Prod.snd) = .ok (.ok (some false)) := by
    decide +kernel
  obtain ⟨⟨⟨l, store⟩, _⟩, made, rfl⟩ := exists_of_map_eq_ok passes
  rw [made] at fails
  obtain ⟨⟨⟨l', store'⟩, _⟩, rejected, rfl⟩ := exists_of_map_eq_ok fails
  have reached : Reached l store := .call (.start new) made
  have kind : l.kind = (.tokenBucket, .inProcess) := (step_others made).1.kind_eq.symm
  have asks : ∀ {n}, 1 ≤ n → Asks "k" none l.kind (.take "k" n : Call ℚ) := fun positive =>
    .take positive (.inl (congrArg Prod.fst kind))
  obtain ⟨l₁, store₁, outcomes, l₂, store₂, outcome, ran, stepped, upheld⟩ :=
    rejection_stands reached (asks one_le_two) rejected
      (List.forall_mem_singleton.2 (asks (le_refl 1))) (asks one_le_two)
  obtain ⟨-, smaller⟩ | ⟨rfl, agree, same⟩ := upheld
  · exact absurd smaller (lt_irrefl 2)
  · have answers : rejection l₁.kind 2 = .ok (some false) :=
      if_neg fun heavy => absurd heavy.2 (by decide)
    change step _ _ _ = .ok ((l₂, store₂), rejection l₁.kind 2) at stepped
    rw [answers] at stepped
    exact ⟨l, l', l₁, l₂, store, store', store₁, store₂, outcomes, made, reached, rejected, ran,
      stepped, agree, same⟩

/-- A new shared log for one unit in ten seconds. -/
def oneUnit : Limiter ℚ :=
  sharedSlidingLog ⟨⟨⟨1, .ofSeconds 10, none⟩, by decide, ∅⟩, .ofOrigin 0, none, defaultGrace⟩

/-- A new shared window for one request in ten seconds. -/
def oneRequest : Limiter ℚ :=
  sharedSlidingWindow ⟨⟨⟨1, .ofSeconds 10⟩, by decide, ∅⟩, .ofOrigin 0, none, defaultGrace⟩

/-- Not every request is rejected after another one. A shared log fails at one of `2 ^ 63` units, as
its script cannot read the number, and a shared window lets one pass that brings a higher limit. -/
theorem not_rejected_again :
    (drive (oneUnit, ∅) [(⟨0⟩, .allow "k" {}), (⟨0⟩, .allow "k" {}),
        (⟨0⟩, .allow "k" { count := 2 ^ 63 })]).map Prod.snd =
      .ok [.ok (some true), .ok (some false), .error (.store (.badArgument 5))] ∧
    (drive (oneRequest, ∅) [(⟨0⟩, .allow "k" {}), (⟨0⟩, .allow "k" {}),
        (⟨0⟩, .shouldAllow "k" (.ofSeconds 10) 2)]).map Prod.snd =
      .ok [.ok (some true), .ok (some false), .ok (some true)] :=
  ⟨by decide +kernel, by decide +kernel⟩

end Limiter

end Throttle
