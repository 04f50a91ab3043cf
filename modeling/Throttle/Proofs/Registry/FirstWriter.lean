import Mathlib.Data.Finset.Card
import Mathlib.Data.List.Induction
import Mathlib.Logic.Function.Basic
import Throttle.Registry

/-!
# The first writer of a key

Callers that ask a registry for a value at the same time take turns: a caller looks its key up;
if there is nothing it makes a value, and while it does so the registry is anybody's; then it
inserts its value unless there is one by now, and returns what is stored. So several values are
made for one key, and all but one of them are dropped. Whatever the turns are, the one that stays
is the value of the first caller that inserted, and every caller of the key returns that one.

A value is known here together with the caller that made it, so that two values made by different
callers are told apart even when they are equal.

## Main definitions

* `Made ι V`: a value and the caller that made it
* `Caller ε V`: what a caller asks for, and what its maker comes to
* `Race ι ε V`: the registry, where each caller is, and who has inserted
* `Race.turn callers s i`: the next step of caller `i`
* `Race.after callers turns`: the race from an empty registry, one step for each turn
* `Race.Turned callers s i`: what a turn can do
* `Race.Consistent callers s`: the invariant of a race

## Main results

* `Race.turned_turn`: every turn is one of the six
* `Race.consistent_after`: the invariant holds whatever the turns are
* `Race.get?_after`: the value of a key is that of the first caller that inserted under it
* `Race.mem_inserted_after_iff`: who has inserted, by the turns
* `Race.tryObtain_eq_turns`, `Race.obtain_eq_turns`: a caller that is alone does what the registry
  does in one step
* `Race.phase_foldl`: the outcome of a call is final
* `Race.finished_after`: three turns are enough
* `Race.first_writer_wins`: one value for a key, made by one of its callers, that stays
-/

namespace Throttle

namespace Registry

variable {ι ε V : Type}

/-- A value and the caller that made it. -/
structure Made (ι V : Type) where
  maker : ι
  value : V
deriving DecidableEq

/-- A call for the value of a key, with what its maker comes to when it is run. A maker that
cannot fail comes to a value. -/
structure Caller (ε V : Type) where
  key : String
  make : Except ε V

/-- How far a caller has come. -/
inductive Phase (ι ε V : Type) where
  /-- The caller is about to look its key up. -/
  | waiting
  /-- The caller found nothing and is about to make a value. -/
  | missed
  /-- The caller holds a value of its own and is about to insert it. -/
  | made (fresh : Made ι V)
  | returned (v : Made ι V)
  | failed (e : ε)
deriving DecidableEq

/-- What has come of a call that is over. -/
def Phase.outcome? : Phase ι ε V → Option (Except ε (Made ι V))
  | .returned v => some (.ok v)
  | .failed e => some (.error e)
  | .waiting | .missed | .made _ => none

/-- The turns that a call has used, out of the three that it needs at most. -/
def Phase.steps : Phase ι ε V → ℕ
  | .waiting => 0
  | .missed => 1
  | .made _ => 2
  | .returned _ | .failed _ => 3

/-- A call that has used its three turns is over. -/
theorem Phase.isSome_outcome? {p : Phase ι ε V} (steps : 3 ≤ p.steps) : p.outcome?.isSome := by
  cases p with
  | returned _ | failed _ => rfl
  | waiting | missed | made _ => simp [Phase.steps] at steps

/-- Callers on their way through one registry. -/
structure Race (ι ε V : Type) where
  registry : Registry (Made ι V)
  phase : ι → Phase ι ε V
  /-- The callers whose insertion has happened, the first one first. -/
  inserted : List ι

namespace Race

/-- The race before any turn. -/
def start : Race ι ε V := ⟨∅, fun _ => .waiting, []⟩

variable [DecidableEq ι]

/-- The race in which caller `i` has come to another phase. -/
def move (s : Race ι ε V) (i : ι) (p : Phase ι ε V) : Race ι ε V :=
  { s with phase := Function.update s.phase i p }

/-- The race after caller `i` has inserted a value under a key and returned what is stored. -/
def insert (s : Race ι ε V) (i : ι) (key : String) (fresh : Made ι V) : Race ι ε V :=
  let (registry, stored) := s.registry.settle key fresh
  { registry
    phase := Function.update s.phase i (.returned stored)
    inserted := s.inserted ++ [i] }

variable (callers : ι → Caller ε V)

/-- The next step of caller `i`: a lookup, a run of its maker, or an insertion. -/
def turn (s : Race ι ε V) (i : ι) : Race ι ε V :=
  match s.phase i with
  | .waiting =>
    match s.registry.get? (callers i).key with
    | some v => s.move i (.returned v)
    | none => s.move i .missed
  | .missed =>
    match (callers i).make with
    | .ok x => s.move i (.made ⟨i, x⟩)
    | .error e => s.move i (.failed e)
  | .made fresh => s.insert i (callers i).key fresh
  | .returned _ | .failed _ => s

/-- The race after the given turns. -/
def after (turns : List ι) : Race ι ε V := turns.foldl (turn callers) start

@[simp] theorem after_nil : after callers [] = start := rfl

theorem after_append (turns more : List ι) :
    after callers (turns ++ more) = more.foldl (turn callers) (after callers turns) :=
  List.foldl_append

theorem after_concat (turns : List ι) (i : ι) :
    after callers (turns ++ [i]) = turn callers (after callers turns) i :=
  after_append callers turns [i]

/-! ## What a turn can do -/

/-- What a turn of caller `i` can make of a race. -/
inductive Turned (s : Race ι ε V) (i : ι) : Race ι ε V → Prop
  | found (v : Made ι V) (phase : s.phase i = .waiting)
      (stored : s.registry.get? (callers i).key = some v) : Turned s i (s.move i (.returned v))
  | missed (phase : s.phase i = .waiting)
      (absent : s.registry.get? (callers i).key = none) : Turned s i (s.move i .missed)
  | made (x : V) (phase : s.phase i = .missed) (make : (callers i).make = .ok x) :
      Turned s i (s.move i (.made ⟨i, x⟩))
  | failed (e : ε) (phase : s.phase i = .missed) (make : (callers i).make = .error e) :
      Turned s i (s.move i (.failed e))
  | inserted (fresh : Made ι V) (phase : s.phase i = .made fresh) :
      Turned s i (s.insert i (callers i).key fresh)
  | ended (phase : (s.phase i).outcome?.isSome) : Turned s i s

/-- Every turn is one of the six. -/
theorem turned_turn (s : Race ι ε V) (i : ι) : Turned callers s i (turn callers s i) := by
  unfold turn
  cases phase : s.phase i with
  | waiting =>
    cases stored : s.registry.get? (callers i).key with
    | some v => exact .found v phase stored
    | none => exact .missed phase stored
  | missed =>
    cases make : (callers i).make with
    | ok x => exact .made x phase make
    | error e => exact .failed e phase make
  | made fresh => exact .inserted fresh phase
  | returned v => exact .ended (by rw [phase]; rfl)
  | failed e => exact .ended (by rw [phase]; rfl)

variable {callers} {s s' : Race ι ε V} {i j : ι}

/-- A turn moves nobody else. -/
theorem Turned.phase_of_ne (turned : Turned callers s i s') (other : j ≠ i) :
    s'.phase j = s.phase j := by
  cases turned with
  | ended => rfl
  | _ => exact Function.update_of_ne other ..

/-- A turn of a caller that does not hold a value leaves the registry as it is. -/
theorem Turned.unchanged (turned : Turned callers s i s')
    (empty : ∀ fresh, s.phase i ≠ .made fresh) :
    s'.registry = s.registry ∧ s'.inserted = s.inserted := by
  cases turned with
  | inserted fresh phase => exact absurd phase (empty fresh)
  | _ => exact ⟨rfl, rfl⟩

/-- A turn is an insertion if the caller holds a value, and nothing else is. -/
theorem Turned.mem_inserted_iff (turned : Turned callers s i s') :
    j ∈ s'.inserted ↔ j ∈ s.inserted ∨ j = i ∧ ∃ fresh, s.phase i = .made fresh := by
  by_cases holds : ∃ fresh, s.phase i = .made fresh
  · obtain ⟨fresh, held⟩ := holds
    cases turned with
    | inserted => simp [insert, held]
    | ended phase => simp [held, Phase.outcome?] at phase
    | found _ phase | missed phase | made _ phase | failed _ phase => cases held.symm.trans phase
  · have kept := turned.unchanged fun fresh held => holds ⟨fresh, held⟩
    simp [kept.2, holds]

/-- A turn replaces no value. -/
theorem Turned.get? {k : String} {v : Made ι V} (turned : Turned callers s i s')
    (stored : s.registry.get? k = some v) : s'.registry.get? k = some v := by
  cases turned with
  | inserted fresh phase =>
    have view := get?_settle s.registry (callers i).key k fresh
    by_cases same : (callers i).key = k
    · rw [if_pos same, same, stored, Option.getD_some, ← same] at view
      exact same ▸ view
    · rw [if_neg same, stored] at view
      exact view
  | _ => exact stored

/-- Who has come to an outcome stays there. -/
theorem Turned.outcome (turned : Turned callers s i s') (ended : (s.phase j).outcome?.isSome) :
    s'.phase j = s.phase j := by
  by_cases other : j = i
  · subst other
    cases turned with
    | ended => rfl
    | found _ phase | missed phase | made _ phase | failed _ phase | inserted _ phase =>
      rw [phase] at ended
      cases ended
  · exact turned.phase_of_ne other

/-! ## The invariant of a race -/

variable (callers s) in
/-- The first caller that inserted under a key. -/
def first? (k : String) : Option ι := s.inserted.find? fun i => (callers i).key = k

variable (callers) in
/-- What the phase of a caller says about the registry and the callers' makers: a value that is
held was made by its holder, what was returned is what is stored, and only a failing maker
fails. -/
def Sound (r : Registry (Made ι V)) (i : ι) : Phase ι ε V → Prop
  | .waiting | .missed => True
  | .made fresh => fresh.maker = i ∧ (callers i).make = .ok fresh.value
  | .returned v => r.get? (callers i).key = some v
  | .failed e => (callers i).make = .error e

variable (callers s) in
/-- What holds of a race at any time. -/
structure Consistent : Prop where
  /-- The value of a key comes from the first caller that inserted under it. -/
  first : ∀ k, (s.registry.get? k).map Made.maker = first? callers s k
  /-- A stored value is what its maker made. -/
  authentic : ∀ k v, s.registry.get? k = some v → (callers v.maker).make = .ok v.value
  sound : ∀ i, Sound callers s.registry i (s.phase i)
  /-- Who has inserted has returned. -/
  returned : ∀ i ∈ s.inserted, ∃ v, s.phase i = .returned v
  /-- The keys that are counted are those under which somebody has inserted. -/
  counted : s.registry.size = (s.inserted.map fun i => (callers i).key).toFinset.card

omit [DecidableEq ι] in
theorem consistent_start : Consistent callers (start : Race ι ε V) where
  first _ := rfl
  authentic _ _ stored := nomatch stored
  sound _ := trivial
  returned _ inserted := nomatch inserted
  counted := rfl

omit [DecidableEq ι] in
/-- What is sound stays sound while no value is replaced. -/
theorem Sound.mono {r r' : Registry (Made ι V)} {p : Phase ι ε V} (sound : Sound callers r i p)
    (kept : ∀ k v, r.get? k = some v → r'.get? k = some v) : Sound callers r' i p := by
  cases p with
  | returned v => exact kept _ v sound
  | _ => exact sound

namespace Consistent

omit [DecidableEq ι] in
/-- A key has a value as soon as somebody has inserted under it. -/
theorem isSome_get?_iff (c : Consistent callers s) (k : String) :
    (s.registry.get? k).isSome ↔ k ∈ s.inserted.map fun i => (callers i).key := by
  rw [← Option.isSome_map (f := Made.maker), c.first k, first?, List.find?_isSome]
  simp

omit [DecidableEq ι] in
/-- A caller whose call is not over has not inserted. -/
theorem notMem_inserted (c : Consistent callers s) (phase : (s.phase i).outcome? = none) :
    i ∉ s.inserted := by
  intro inserted
  obtain ⟨v, returned⟩ := c.returned i inserted
  rw [returned] at phase
  cases phase

/-- A caller that comes to a sound phase, with nothing inserted, keeps the invariant. -/
theorem move (c : Consistent callers s) {p : Phase ι ε V} (phase : (s.phase i).outcome? = none)
    (sound : Sound callers s.registry i p) : Consistent callers (s.move i p) where
  first := c.first
  authentic := c.authentic
  sound j := by
    by_cases other : j = i
    · subst other
      simpa [Race.move] using sound
    · simpa [Race.move, other] using c.sound j
  returned j inserted := by
    have other : j ≠ i := fun same => c.notMem_inserted phase (same ▸ inserted)
    simpa [Race.move, other] using c.returned j inserted
  counted := c.counted

/-- An insertion keeps the invariant: it is the first one under its key or it changes nothing. -/
theorem insert (c : Consistent callers s) {fresh : Made ι V} (phase : s.phase i = .made fresh) :
    Consistent callers (s.insert i (callers i).key fresh) := by
  have turned : Turned callers s i (s.insert i (callers i).key fresh) := .inserted fresh phase
  obtain ⟨maker, make⟩ : fresh.maker = i ∧ (callers i).make = .ok fresh.value := by
    simpa only [Sound, phase] using c.sound i
  have view (k : String) : (s.insert i (callers i).key fresh).registry.get? k =
      if (callers i).key = k then some ((s.registry.get? (callers i).key).getD fresh)
      else s.registry.get? k := get?_settle ..
  have here : (s.insert i (callers i).key fresh).phase i =
      .returned (s.registry.settle (callers i).key fresh).2 := Function.update_self ..
  refine ⟨fun k => ?first, fun k v stored => ?authentic, fun j => ?sound,
    fun j inserted => ?returned, ?counted⟩
  case first =>
    -- the new caller comes last, so it is the first one only under a key without a value
    have last : first? callers (s.insert i (callers i).key fresh) k =
        (first? callers s k).or ([i].find? fun j => (callers j).key = k) := List.find?_append
    rw [view k, last, ← c.first k]
    by_cases same : (callers i).key = k
    · subst same
      cases s.registry.get? (callers i).key <;> simp [maker]
    · cases s.registry.get? k <;> simp [same]
  case authentic =>
    rw [view k] at stored
    by_cases same : (callers i).key = k
    · rw [if_pos same, Option.some.injEq] at stored
      cases before : s.registry.get? (callers i).key with
      | none =>
        rw [before, Option.getD_none] at stored
        rw [← stored, maker, make]
      | some w =>
        rw [before, Option.getD_some] at stored
        exact c.authentic _ v (stored ▸ before)
    · rw [if_neg same] at stored
      exact c.authentic k v stored
  case sound =>
    by_cases other : j = i
    · subst other
      rw [here]
      exact get?_settle_self ..
    · rw [turned.phase_of_ne other]
      exact (c.sound j).mono fun k v => turned.get?
  case returned =>
    by_cases other : j = i
    · subst other
      exact ⟨_, here⟩
    · have before : j ∈ s.inserted := by
        simpa [Race.insert, other] using inserted
      rw [turned.phase_of_ne other]
      exact c.returned j before
  case counted =>
    change (s.registry.settle (callers i).key fresh).1.size =
      ((s.inserted ++ [i]).map fun j => (callers j).key).toFinset.card
    rw [size_settle, List.map_append, List.toFinset_append, c.counted, Finset.union_comm,
      List.map_singleton, List.toFinset_cons, List.toFinset_nil, insert_empty_eq,
      ← Finset.insert_eq]
    have known := c.isSome_get?_iff (callers i).key
    rw [← List.mem_toFinset] at known
    by_cases old : (s.registry.get? (callers i).key).isSome
    · rw [if_pos old, Finset.insert_eq_of_mem (known.1 old)]
    · rw [if_neg old, Finset.card_insert_of_notMem (mt known.2 old)]

/-- **A turn keeps the invariant.** -/
theorem turned (c : Consistent callers s) (turned : Turned callers s i s') :
    Consistent callers s' := by
  cases turned with
  | found v phase stored => exact c.move (by rw [phase]; rfl) stored
  | missed phase absent => exact c.move (by rw [phase]; rfl) trivial
  | made x phase make => exact c.move (by rw [phase]; rfl) ⟨rfl, make⟩
  | failed e phase make => exact c.move (by rw [phase]; rfl) make
  | inserted fresh phase => exact c.insert phase
  | ended => exact c

end Consistent

variable (callers)

/-- **The invariant holds whatever the turns are.** -/
theorem consistent_after (turns : List ι) : Consistent callers (after callers turns) := by
  induction turns using List.reverseRecOn with
  | nil => exact consistent_start
  | append_singleton turns i ih =>
    rw [after_concat]
    exact ih.turned (turned_turn ..)

/-- The value of a key is that of the first caller that inserted under it. -/
theorem get?_after (turns : List ι) (k : String) (v : Made ι V) :
    (after callers turns).registry.get? k = some v ↔
      first? callers (after callers turns) k = some v.maker ∧
        (callers v.maker).make = .ok v.value := by
  have c := consistent_after callers turns
  constructor
  · intro stored
    refine ⟨?_, c.authentic k v stored⟩
    rw [← c.first k, stored, Option.map_some]
  · rintro ⟨first, make⟩
    rw [← c.first k, Option.map_eq_some_iff] at first
    obtain ⟨w, stored, maker⟩ := first
    have value := (c.authentic k w stored).symm.trans (maker ▸ make)
    obtain ⟨w, x⟩ := w
    cases maker
    cases value
    exact stored

/-- Who has inserted is who has had a turn while holding a value of its own. -/
theorem mem_inserted_after_iff (turns : List ι) (i : ι) :
    i ∈ (after callers turns).inserted ↔
      ∃ before rest fresh, turns = before ++ i :: rest ∧
        (after callers before).phase i = .made fresh := by
  induction turns using List.reverseRecOn with
  | nil => simp [start]
  | append_singleton turns j ih =>
    rw [after_concat, (turned_turn callers _ j).mem_inserted_iff, ih]
    constructor
    · rintro (⟨before, rest, fresh, rfl, held⟩ | ⟨rfl, fresh, held⟩)
      · exact ⟨before, rest ++ [j], fresh, by simp, held⟩
      · exact ⟨turns, [], fresh, rfl, held⟩
    · rintro ⟨before, rest, fresh, split, held⟩
      -- the turn of `i` is the last one or an earlier one
      rcases rest.eq_nil_or_concat with rfl | ⟨rest, k, rfl⟩
      · obtain ⟨rfl, same⟩ := List.append_inj' split rfl
        cases same
        exact .inr ⟨rfl, fresh, held⟩
      · rw [List.concat_eq_append, ← List.cons_append, ← List.append_assoc] at split
        obtain ⟨rfl, -⟩ := List.append_inj' split rfl
        exact .inl ⟨before, rest, fresh, rfl, held⟩

/-! ## Runs -/

variable {callers}

/-- What is stored stays, whatever the turns are that follow. -/
theorem get?_foldl {k : String} {v : Made ι V} (more : List ι)
    (stored : s.registry.get? k = some v) :
    (more.foldl (turn callers) s).registry.get? k = some v := by
  induction more generalizing s with
  | nil => exact stored
  | cons i more ih => exact ih ((turned_turn callers s i).get? stored)

/-- Who has come to an outcome stays there, whatever the turns are that follow. -/
theorem phase_foldl (more : List ι) (ended : (s.phase i).outcome?.isSome) :
    (more.foldl (turn callers) s).phase i = s.phase i := by
  induction more generalizing s with
  | nil => rfl
  | cons j more ih =>
    have kept := (turned_turn callers s j).outcome ended
    rw [List.foldl_cons, ih (kept.symm ▸ ended), kept]

/-- A turn takes its caller one step further, up to the third. -/
theorem Turned.steps (turned : Turned callers s i s') :
    min 3 ((s.phase i).steps + 1) ≤ (s'.phase i).steps := by
  cases turned with
  | found v phase | failed e phase | inserted fresh phase =>
    simp [move, insert, Phase.steps]
  | missed phase | made x phase => simp [move, phase, Phase.steps]
  | ended phase =>
    cases here : s.phase i with
    | returned _ | failed _ => simp [Phase.steps]
    | waiting | missed | made _ => simp [here, Phase.outcome?] at phase

variable (callers)

/-- **Three turns are enough**, whoever has turns between them. -/
theorem finished_after {turns : List ι} (enough : 3 ≤ turns.count i) :
    ((after callers turns).phase i).outcome?.isSome := by
  have used : min 3 (turns.count i) ≤ ((after callers turns).phase i).steps := by
    clear enough
    induction turns using List.reverseRecOn with
    | nil => simp
    | append_singleton turns j ih =>
      rw [after_concat, List.count_append]
      have turned := turned_turn callers (after callers turns) j
      by_cases own : j = i
      · subst own
        have further := turned.steps
        simp only [List.count_singleton_self]
        omega
      · rw [turned.phase_of_ne (Ne.symm own), List.count_singleton, beq_eq_false_iff_ne.2 own]
        exact ih
  exact Phase.isSome_outcome? (by omega)

/-! ## A caller that is alone -/

/-- The three turns of a caller that nobody interrupts come to what the registry does in one
step. -/
theorem tryObtain_eq_turns (s : Race ι ε V) (i : ι) (phase : s.phase i = .waiting) :
    let s' := [i, i, i].foldl (turn callers) s
    ((s'.phase i).outcome?.map fun o => o.map fun v => (s'.registry, v)) =
      some (s.registry.tryObtain (callers i).key fun _ => (callers i).make.map (Made.mk i)) := by
  cases stored : s.registry.get? (callers i).key with
  | some v => simp [turn, phase, stored, move, tryObtain, Phase.outcome?, Except.map]
  | none =>
    cases make : (callers i).make with
    | error e =>
      simp [turn, phase, stored, make, move, tryObtain, Phase.outcome?, Except.map]
    | ok x =>
      simp [turn, phase, stored, make, move, insert, tryObtain, Phase.outcome?, Except.map]

/-- The same for a maker that cannot fail. -/
theorem obtain_eq_turns (s : Race ι ε V) (i : ι) {x : V} (phase : s.phase i = .waiting)
    (make : (callers i).make = .ok x) :
    let s' := [i, i, i].foldl (turn callers) s
    s'.phase i = .returned (s.registry.obtain (callers i).key fun _ => ⟨i, x⟩).2 ∧
      s'.registry = (s.registry.obtain (callers i).key fun _ => ⟨i, x⟩).1 := by
  intro s'
  have alone := tryObtain_eq_turns callers s i phase
  rw [make] at alone
  simp only [Except.map, tryObtain_ok] at alone
  change (s'.phase i).outcome?.map _ = _ at alone
  cases came : s'.phase i with
  | returned v =>
    rw [came] at alone
    simp only [Phase.outcome?, Option.map_some, Option.some.injEq, Except.ok.injEq] at alone
    exact ⟨congrArg (Phase.returned ∘ Prod.snd) alone, congrArg Prod.fst alone⟩
  | failed e => simp [came, Phase.outcome?] at alone
  | waiting | missed | made _ => simp [came, Phase.outcome?] at alone

/-! ## One value for a key -/

variable {callers} in
omit [DecidableEq ι] in
/-- A value that was returned comes from a caller of the same key, which returned it as well. -/
theorem Consistent.origin {v : Made ι V} (c : Consistent callers s)
    (returned : s.phase i = .returned v) :
    (callers v.maker).key = (callers i).key ∧ (callers v.maker).make = .ok v.value ∧
      s.phase v.maker = .returned v := by
  have stored : s.registry.get? (callers i).key = some v := by
    simpa only [Sound, returned] using c.sound i
  have first : first? callers s (callers i).key = some v.maker := by
    rw [← c.first, stored, Option.map_some]
  have key : (callers v.maker).key = (callers i).key := by
    simpa using List.find?_some first
  obtain ⟨w, came⟩ := c.returned v.maker (List.mem_of_find?_eq_some first)
  have same : s.registry.get? (callers v.maker).key = some w := by
    simpa only [Sound, came] using c.sound v.maker
  rw [key, stored, Option.some.injEq] at same
  exact ⟨key, c.authentic _ v stored, same ▸ came⟩

variable {callers} in
omit [DecidableEq ι] in
/-- A caller whose maker fails never holds a value to insert. -/
theorem Consistent.holds_nothing {e : ε} (c : Consistent callers s)
    (failing : (callers i).make = .error e) (fresh : Made ι V) : s.phase i ≠ .made fresh := by
  intro held
  have sound := c.sound i
  rw [held] at sound
  cases failing.symm.trans sound.2

/-- **The first writer wins.** Whoever calls for whatever keys, and however their steps are
interleaved, at any time of the race:

* the callers of a key that have returned have returned one and the same value;
* it is the value stored under the key, made by a caller of the key that returned it too;
* a value that is stored is never replaced;
* a caller whose maker fails changes nothing with any of its turns;
* the keys counted by the registry are those under which somebody has inserted
  (`mem_inserted_after_iff`);
* a caller that has had three turns has returned, or its maker has failed it. -/
theorem first_writer_wins (turns : List ι) :
    let s : Race ι ε V := after callers turns
    (∀ i j v w, (callers i).key = (callers j).key → s.phase i = .returned v →
      s.phase j = .returned w → v = w) ∧
    (∀ i v, s.phase i = .returned v → s.registry.get? (callers i).key = some v ∧
      (callers v.maker).key = (callers i).key ∧ (callers v.maker).make = .ok v.value ∧
      s.phase v.maker = .returned v) ∧
    (∀ k v more, s.registry.get? k = some v →
      (after callers (turns ++ more)).registry.get? k = some v) ∧
    (∀ i e, (callers i).make = .error e →
      (after callers (turns ++ [i])).registry = s.registry ∧
      (after callers (turns ++ [i])).inserted = s.inserted) ∧
    s.registry.size = (s.inserted.map fun i => (callers i).key).toFinset.card ∧
    (∀ i, 3 ≤ turns.count i → (∃ v, s.phase i = .returned v) ∨
      ∃ e, (callers i).make = .error e ∧ s.phase i = .failed e) := by
  intro s
  have c : Consistent callers s := consistent_after callers turns
  have stored {i : ι} {v : Made ι V} (returned : s.phase i = .returned v) :
      s.registry.get? (callers i).key = some v := by
    simpa only [Sound, returned] using c.sound i
  refine ⟨fun i j v w key left right => ?agree, fun i v returned => ?origin,
    fun k v more kept => ?stays, fun i e failing => ?failing, c.counted, fun i enough => ?finished⟩
  case agree =>
    have one := stored left
    rw [key, stored right, Option.some.injEq] at one
    exact one.symm
  case origin => exact ⟨stored returned, c.origin returned⟩
  case stays =>
    rw [after_append]
    exact get?_foldl more kept
  case failing =>
    rw [after_concat]
    exact (turned_turn callers s i).unchanged (c.holds_nothing failing)
  case finished =>
    have ended := finished_after callers enough
    have sound := c.sound i
    change (s.phase i).outcome?.isSome at ended
    cases came : s.phase i with
    | returned v => exact .inl ⟨v, rfl⟩
    | failed e => exact .inr ⟨e, by rwa [came] at sound, rfl⟩
    | waiting | missed | made _ => simp [came, Phase.outcome?] at ended

/-- Two callers miss the same key and make a value each; the one that looked first inserts last,
drops its own value and returns the other one, which stays. -/
theorem first_writer_wins_of_two :
    let callers : Bool → Caller String Bool := fun i => ⟨"key", .ok i⟩
    let turns := [true, false, true, false, false, true]
    (after callers turns).phase true = .returned ⟨false, false⟩ ∧
      (after callers turns).phase false = .returned ⟨false, false⟩ ∧
      ∀ more, (after callers (turns ++ more)).registry.get? "key" = some ⟨false, false⟩ := by
  intro callers turns
  have wins := first_writer_wins callers turns
  exact ⟨rfl, rfl, fun more => wins.2.2.1 "key" ⟨false, false⟩ more rfl⟩

end Race

end Registry

end Throttle
