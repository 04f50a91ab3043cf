import Mathlib.Data.List.Induction
import Throttle.Proofs.Decimal.Legible
import Throttle.Store.Executor

/-!
# Scripts are atomic

A store that runs a script command by command writes as it goes: it makes an empty value under a new
key before it knows that the script will fill it, and sets fields before it reads others. A script
that failed halfway would leave its writes behind. None does: what can fail comes before the first
write, but for the fields that the leaky bucket reads back, and these hold numbers in every hash
that a sequence of commands can make. So a script that writes as it goes ends like one that changes
nothing unless it succeeds.

## Main definitions

* `Store.Operation`, `Store.after`: what is done with a store, and a store after a sequence of it
* `Store.Sound`: every hash can be read as a bucket, and every sorted set has members
* `Store.Writing`: a command sequence that writes as it goes
* `Store.evalInPlace`: a script that writes as it goes

## Main results

* `Store.Writing.run_execute`: on sound slots, both ways to run a script end alike
* `Store.Sound.ends_execute`: a script leaves sound slots, or is refused without blaming a field
* `Store.slots_after`: what scripts and new expiries keep holds after every sequence of operations
* `Store.sound_after`: the slots are sound after every sequence of operations
* `Store.error_changes_nothing`: a command that fails changes nothing that is shown
-/

namespace Throttle

namespace Store

/-- What is done with a store. -/
inductive Operation where
  | eval (script : Script) (keys args : List String)
  | expire (key : String) (lifetime : Span)
  /-- The store can be reached from now on, or it cannot. -/
  | reach (available : Bool)
  /-- Somebody looks at the store. -/
  | look

section Operations

variable (α : Type) [Arithmetic α]

/-- The store after an operation. -/
def perform (s : Store) (now : Instant) : Operation → Store
  | .eval script keys args => (s.eval α now script keys args).1
  | .expire key lifetime => (s.expire now key lifetime).1
  | .reach available => { s with available := available }
  | .look => s.purge now

/-- A new store after operations, each at an instant. The clock may be set back between them. -/
def after (operations : List (Instant × Operation)) : Store :=
  operations.foldl (fun s o => s.perform α o.1 o.2) ∅

end Operations

/-! ## Sound slots -/

/-- Whether a field holds the text of a number. -/
def Legible (α : Type) [Arithmetic α] (fields : Table String) (name : String) : Prop :=
  ((fields.get? name).bind (Arithmetic.ofText? : String → Option α)).isSome

end Store

namespace Value

/-- A hash can be read as a bucket, and a sorted set has members. -/
def Sound (α : Type) [Arithmetic α] : Value → Prop
  | hash fields => Store.Legible α fields "last_time" ∧ Store.Legible α fields "count"
  | sortedSet members => members.isEmpty = false

/-- A sound value is not empty. -/
theorem Sound.isEmpty_eq {α : Type} [Arithmetic α] {v : Value} (h : v.Sound α) :
    v.isEmpty = false := by
  cases v with
  | hash fields =>
    cases empty : fields.isEmpty with
    | false => exact empty
    | true => simp [Sound, Store.Legible, Table.get?_of_isEmpty empty] at h
  | sortedSet members => exact h

end Value

namespace Store

/-- Every value is sound. -/
def Sound (α : Type) [Arithmetic α] (slots : Table Slot) : Prop :=
  ∀ key slot, slots.get? key = some slot → slot.value.Sound α

section

variable {α : Type} [Arithmetic α] {slots : Table Slot} {key : String} {args : List String}

namespace Sound

theorem empty : Sound α (∅ : Store).slots := fun _ _ found => by cases found

theorem filter (h : Sound α slots) (p : String → Slot → Bool) : Sound α (slots.filter p) := by
  intro other slot found
  rw [Table.get?_filter] at found
  exact h other slot (Option.filter_eq_some_iff.1 found).1

theorem insert (h : Sound α slots) {slot : Slot} (sound : slot.value.Sound α) :
    Sound α (slots.insert key slot) := by
  intro other found here
  rw [Table.get?_insert] at here
  split at here
  · cases here
    exact sound
  · exact h other found here

theorem putSortedSet (h : Sound α slots) (members : SortedSet) :
    Sound α (putSortedSet slots key members) := by
  unfold Store.putSortedSet
  split
  · exact h.filter _
  · rename_i some
    exact h.insert (Bool.eq_false_of_not_eq_true some)

end Sound

/-! ## What a script reads -/

theorem numberField_of_legible {fields : Table String} {name : String}
    (h : Legible α fields name) : ∃ x : α, numberField fields name = .ok x := by
  obtain ⟨x, read⟩ := Option.isSome_iff_exists.1 h
  exact ⟨x, by rw [numberField, read]⟩

/-- An argument that is read has a text. -/
theorem ofText?_of_argument {index : Nat} {x : α}
    (read : argument Arithmetic.ofText? args index = .ok x) :
    (Arithmetic.ofText? (args.getD index "") : Option α) = some x := by
  unfold argument at read
  split at read
  · rename_i found
    cases read
    obtain ⟨text, there, read⟩ := Option.bind_eq_some_iff.1 found
    rw [List.getD_eq_getElem?_getD, there, Option.getD_some, read]
  · cases read

theorem eq_badArgument_of_argument {β : Type} {read? : String → Option β} {index : Nat}
    {e : StoreError} (failed : argument read? args index = .error e) :
    e = .badArgument (index + 1) := by
  unfold argument at failed
  split at failed <;> cases failed
  rfl

theorem eq_wrongKind_of_hashAt {e : StoreError} (failed : hashAt slots key = .error e) :
    e = .wrongKind := by
  unfold hashAt at failed
  split at failed <;> cases failed
  rfl

theorem eq_wrongKind_of_sortedSetAt {e : StoreError} (failed : sortedSetAt slots key = .error e) :
    e = .wrongKind := by
  unfold sortedSetAt at failed
  split at failed <;> cases failed
  rfl

/-- The fields from which a bucket starts: a new one gets the time of its first request. -/
def started (stored : Table String) (args : List String) : Table String :=
  if stored.isEmpty then (stored.insert "last_time" (args.getD 3 "")).insert "count" "0"
  else stored

/-- **The fields that a script reads back hold numbers**: it has just set them, or they belong to a
sound hash. -/
theorem legible_started (legible : Arithmetic.Legible α) (sound : Sound α slots)
    {stored : Table String} (held : hashAt slots key = .ok stored) {current : α}
    (time : argument Arithmetic.ofText? args 3 = .ok current) :
    Legible α (started stored args) "last_time" ∧ Legible α (started stored args) "count" := by
  unfold started
  split
  · have known := ofText?_of_argument time
    simp [Legible, known, legible.zero, -List.getD_eq_getElem?_getD]
  · rename_i some
    unfold hashAt at held
    split at held
    · rename_i fields found
      cases held
      obtain ⟨slot, there, value⟩ := Option.map_eq_some_iff.1 found
      have sound := sound key slot there
      rwa [value] at sound
    · cases held
    · cases held
      exact absurd rfl some

/-! ## Writing as one goes -/

/-- Commands that write as they go: what they have written stays written when one of them fails. -/
abbrev Writing := EStateM StoreError (Table Slot)

namespace Writing

/-- A result that does not depend on the slots. -/
def ofExcept {β : Type} : Except StoreError β → Writing β
  | .ok value => pure value
  | .error e => throw e

/-- The hash under a key, which is made if the key is absent. -/
def hash (key : String) : Writing (Table String) := do
  let slots ← get
  match (slots.get? key).map Slot.value with
  | some (.hash fields) => return fields
  | some (.sortedSet _) => throw .wrongKind
  | none =>
    set (slots.insert key ⟨.hash ∅, none⟩)
    return ∅

/-- The sorted set under a key, which is made if the key is absent. -/
def sortedSet (key : String) : Writing SortedSet := do
  let slots ← get
  match (slots.get? key).map Slot.value with
  | some (.sortedSet members) => return members
  | some (.hash _) => throw .wrongKind
  | none =>
    set (slots.insert key ⟨.sortedSet ∅, none⟩)
    return ∅

/-- Another value for a key, until the expiry that it has. -/
def put (key : String) (value : Value) : Writing Unit :=
  modify fun slots => slots.insert key ⟨value, (slots.get? key).bind Slot.expiresAt⟩

/-- A field of the hash under a key is set. -/
def setField (key name text : String) : Writing Unit := do
  let fields ← hash key
  put key (.hash (fields.insert name text))

/-- The number in a field of the hash under a key. -/
def number (α : Type) [Arithmetic α] (key name : String) : Writing α := do
  let fields ← hash key
  ofExcept (numberField fields name)

/-- Another expiry for a key. -/
def setDeadline (key : String) (deadline : Option Instant) : Writing Unit :=
  modify fun slots =>
    match slots.get? key with
    | some slot => slots.insert key { slot with expiresAt := deadline }
    | none => slots

/-- A key does not keep an empty value. -/
def clearIfEmpty (key : String) : Writing Unit :=
  modify fun slots =>
    if (slots.get? key).any fun slot => slot.value.isEmpty then slots.erase key else slots

/-! ### The three scripts -/

/-- The hash of a bucket, which is filled if it is new. -/
def bucket (key : String) (args : List String) : Writing Unit := do
  let stored ← hash key
  if stored.isEmpty then
    setField key "last_time" (args.getD 3 "")
    setField key "count" "0"

/-- The leaky bucket script. -/
def pour (α : Type) [Arithmetic α] (now : Instant) (key : String) (args : List String) :
    Writing Int := do
  let volume : α ← ofExcept (argument Arithmetic.ofText? args 0)
  let rate : α ← ofExcept (argument Arithmetic.ofText? args 1)
  let requested : α ← ofExcept (argument Arithmetic.ofText? args 2)
  let current : α ← ofExcept (argument Arithmetic.ofText? args 3)
  bucket key args
  let lastTime ← number α key "last_time"
  let count ← number α key "count"
  let remain :=
    Arithmetic.greater (count + requested - (current - lastTime) * rate) ((0 : Nat) : α)
  setField key "volume" (args.getD 0 "")
  setField key "rate" (args.getD 1 "")
  setField key "last_time" (args.getD 3 "")
  setDeadline key (now.after? (bucketLifetime volume rate))
  if Arithmetic.below volume remain then
    setField key "count" (args.getD 0 "")
    return 0
  else
    setField key "count" (Arithmetic.text remain)
    return 1

/-- The sliding log script. -/
def recordUnits (key : String) (args : List String) : Writing Int := do
  let left ← ofExcept (argument integer? args 0)
  let right ← ofExcept (argument integer? args 1)
  let now ← ofExcept (argument integer? args 2)
  let limit ← ofExcept (argument integer? args 3)
  let requested ← ofExcept (argument integer? args 4)
  let member ← ofExcept (argument some args 5)
  let members := (← sortedSet key).removeBelow left
  put key (.sortedSet members)
  if limit ≤ members.count left right then
    clearIfEmpty key
    return 0
  else
    put key (.sortedSet ((unitNames member requested.toNat).foldl (·.add now ·) members))
    clearIfEmpty key
    return 1

/-- The sliding window script. -/
def recordRequest (key : String) (args : List String) : Writing Int := do
  let boundary ← ofExcept (argument integer? args 0)
  let now ← ofExcept (argument integer? args 1)
  let limit ← ofExcept (argument integer? args 2)
  let member ← ofExcept (argument some args 3)
  let members ← sortedSet key
  if limit ≤ members.count boundary now then
    clearIfEmpty key
    return 0
  else
    put key (.sortedSet ((members.add now member).removeBelow boundary))
    clearIfEmpty key
    return 1

/-- The script with a name. -/
def execute (α : Type) [Arithmetic α] (now : Instant) (script : Script) (key : String)
    (args : List String) : Writing Int :=
  if script = .leakyBucket then pour α now key args
  else if script = .slidingLog then recordUnits key args
  else if script = .slidingWindow then recordRequest key args
  else throw (.unknownScript script.name)

/-! ### What one command does -/

@[simp] theorem run_ofExcept_ok {β : Type} (value : β) :
    (ofExcept (.ok value)).run slots = .ok value slots := rfl

@[simp] theorem run_ofExcept_error {β : Type} (e : StoreError) :
    (ofExcept (.error e) : Writing β).run slots = .error e slots := rfl

/-- A hash that is there is as good as written there once more. -/
theorem run_hash {stored : Table String} (held : hashAt slots key = .ok stored) :
    (hash key).run slots =
      .ok stored (slots.insert key ⟨.hash stored, (slots.get? key).bind Slot.expiresAt⟩) := by
  unfold hashAt at held
  cases found : slots.get? key with
  | none =>
    rw [found] at held
    cases held
    simp only [hash, EStateM.run_bind, EStateM.run_get, found]
    rfl
  | some slot =>
    obtain ⟨value, deadline⟩ := slot
    rw [found] at held
    cases value with
    | hash fields =>
      cases held
      simp [hash, found, Table.insert_self found]
    | sortedSet members => cases held

theorem run_hash_error {e : StoreError} (failed : hashAt slots key = .error e) :
    (hash key).run slots = .error e slots := by
  unfold hashAt at failed
  cases found : (slots.get? key).map Slot.value with
  | none =>
    rw [found] at failed
    cases failed
  | some value =>
    rw [found] at failed
    cases value with
    | hash fields => cases failed
    | sortedSet members =>
      cases failed
      simp only [hash, EStateM.run_bind, EStateM.run_get, found]
      rfl

/-- The same for a sorted set. -/
theorem run_sortedSet {members : SortedSet} (held : sortedSetAt slots key = .ok members) :
    (sortedSet key).run slots = .ok members
      (slots.insert key ⟨.sortedSet members, (slots.get? key).bind Slot.expiresAt⟩) := by
  unfold sortedSetAt at held
  cases found : slots.get? key with
  | none =>
    rw [found] at held
    cases held
    simp only [sortedSet, EStateM.run_bind, EStateM.run_get, found]
    rfl
  | some slot =>
    obtain ⟨value, deadline⟩ := slot
    rw [found] at held
    cases value with
    | hash fields => cases held
    | sortedSet members =>
      cases held
      simp [sortedSet, found, Table.insert_self found]

theorem run_sortedSet_error {e : StoreError} (failed : sortedSetAt slots key = .error e) :
    (sortedSet key).run slots = .error e slots := by
  unfold sortedSetAt at failed
  cases found : (slots.get? key).map Slot.value with
  | none =>
    rw [found] at failed
    cases failed
  | some value =>
    rw [found] at failed
    cases value with
    | hash fields =>
      cases failed
      simp only [sortedSet, EStateM.run_bind, EStateM.run_get, found]
      rfl
    | sortedSet members => cases failed

variable {fields : Table String} {deadline : Option Instant}

@[simp] theorem run_put_insert (old value : Value) :
    (put key value).run (slots.insert key ⟨old, deadline⟩) =
      .ok () (slots.insert key ⟨value, deadline⟩) := by
  simp [put]

@[simp] theorem run_hash_insert :
    (hash key).run (slots.insert key ⟨.hash fields, deadline⟩) =
      .ok fields (slots.insert key ⟨.hash fields, deadline⟩) := by
  simp [hash]

@[simp] theorem run_setField_insert (name text : String) :
    (setField key name text).run (slots.insert key ⟨.hash fields, deadline⟩) =
      .ok () (slots.insert key ⟨.hash (fields.insert name text), deadline⟩) := by
  simp [setField]

theorem run_number_insert {name : String} {x : α} (read : numberField fields name = .ok x) :
    (number α key name).run (slots.insert key ⟨.hash fields, deadline⟩) =
      .ok x (slots.insert key ⟨.hash fields, deadline⟩) := by
  simp [number, read]

@[simp] theorem run_setDeadline_insert (value : Value) (later : Option Instant) :
    (setDeadline key later).run (slots.insert key ⟨value, deadline⟩) =
      .ok () (slots.insert key ⟨value, later⟩) := by
  simp [setDeadline]

/-- A sorted set stays under its key if it has members. -/
@[simp] theorem run_clearIfEmpty_insert (members : SortedSet) :
    (clearIfEmpty key).run
        (slots.insert key ⟨.sortedSet members, (slots.get? key).bind Slot.expiresAt⟩) =
      .ok () (putSortedSet slots key members) := by
  cases empty : members.isEmpty <;>
    simp [clearIfEmpty, putSortedSet, Value.isEmpty, empty, Table.erase_insert]

/-! ### What a script does -/

theorem run_bucket {stored : Table String} (held : hashAt slots key = .ok stored)
    (args : List String) :
    (bucket key args).run slots = .ok ()
      (slots.insert key
        ⟨.hash (started stored args), (slots.get? key).bind Slot.expiresAt⟩) := by
  simp only [bucket, EStateM.run_bind, run_hash held, started]
  split <;> simp

theorem run_bucket_error {e : StoreError} (failed : hashAt slots key = .error e)
    (args : List String) : (bucket key args).run slots = .error e slots := by
  simp only [bucket, EStateM.run_bind, run_hash_error failed]

/-- How a script ends that changes nothing unless it succeeds. -/
def settle (slots : Table Slot) :
    Except StoreError (Table Slot × Int) → EStateM.Result StoreError (Table Slot) Int
  | .ok (slots, reply) => .ok reply slots
  | .error e => .error e slots

/-- **The leaky bucket script** writes before it reads, but it reads what it can read. -/
theorem run_pour (legible : Arithmetic.Legible α) (sound : Sound α slots) (now : Instant)
    (key : String) (args : List String) :
    (pour α now key args).run slots = settle slots (Store.pour α now key args slots) := by
  simp only [pour, Store.pour, EStateM.run_bind]
  cases argument (Arithmetic.ofText? : String → Option α) args 0 with
  | error e => rfl
  | ok volume =>
  cases argument (Arithmetic.ofText? : String → Option α) args 1 with
  | error e => rfl
  | ok rate =>
  cases argument (Arithmetic.ofText? : String → Option α) args 2 with
  | error e => rfl
  | ok requested =>
  cases time : argument (Arithmetic.ofText? : String → Option α) args 3 with
  | error e => rfl
  | ok current =>
  cases held : hashAt slots key with
  | error e =>
    simp only [run_ofExcept_ok, run_bucket_error held]
    rfl
  | ok stored =>
  obtain ⟨hasTime, hasCount⟩ := legible_started legible sound held time
  obtain ⟨lastTime, readTime⟩ := numberField_of_legible hasTime
  obtain ⟨count, readCount⟩ := numberField_of_legible hasCount
  simp only [run_ofExcept_ok, run_bucket held, run_number_insert readTime,
    run_number_insert readCount, run_setField_insert, run_setDeadline_insert]
  rw [started] at readTime readCount ⊢
  split <;> rename_i overflow
  · simp only [EStateM.run_bind, run_setField_insert, EStateM.run_pure]
    simp only [readTime, readCount, bind, Except.bind, pure, Except.pure, if_pos overflow, settle]
  · simp only [EStateM.run_bind, run_setField_insert, EStateM.run_pure]
    simp only [readTime, readCount, bind, Except.bind, pure, Except.pure, if_neg overflow, settle]

/-- **The sliding log script** fails before it writes. -/
theorem run_recordUnits (key : String) (args : List String) :
    (recordUnits key args).run slots = settle slots (Store.recordUnits key args slots) := by
  simp only [recordUnits, Store.recordUnits, EStateM.run_bind]
  cases argument integer? args 0 with
  | error e => rfl
  | ok left =>
  cases argument integer? args 1 with
  | error e => rfl
  | ok right =>
  cases argument integer? args 2 with
  | error e => rfl
  | ok now =>
  cases argument integer? args 3 with
  | error e => rfl
  | ok limit =>
  cases argument integer? args 4 with
  | error e => rfl
  | ok requested =>
  cases argument some args 5 with
  | error e => rfl
  | ok member =>
  cases held : sortedSetAt slots key with
  | error e =>
    simp only [run_ofExcept_ok, run_sortedSet_error held]
    rfl
  | ok members =>
  simp only [run_ofExcept_ok, run_sortedSet held, run_put_insert]
  split <;> rename_i full
  · simp only [EStateM.run_bind, run_clearIfEmpty_insert, EStateM.run_pure]
    simp only [bind, Except.bind, pure, Except.pure, if_pos full, settle]
  · simp only [EStateM.run_bind, run_put_insert, run_clearIfEmpty_insert, EStateM.run_pure]
    simp only [bind, Except.bind, pure, Except.pure, if_neg full, settle]

/-- **The sliding window script** fails before it writes. -/
theorem run_recordRequest (key : String) (args : List String) :
    (recordRequest key args).run slots = settle slots (Store.recordRequest key args slots) := by
  simp only [recordRequest, Store.recordRequest, EStateM.run_bind]
  cases argument integer? args 0 with
  | error e => rfl
  | ok boundary =>
  cases argument integer? args 1 with
  | error e => rfl
  | ok now =>
  cases argument integer? args 2 with
  | error e => rfl
  | ok limit =>
  cases argument some args 3 with
  | error e => rfl
  | ok member =>
  cases held : sortedSetAt slots key with
  | error e =>
    simp only [run_ofExcept_ok, run_sortedSet_error held]
    rfl
  | ok members =>
  simp only [run_ofExcept_ok, run_sortedSet held]
  split <;> rename_i full
  · simp only [EStateM.run_bind, run_clearIfEmpty_insert, EStateM.run_pure]
    simp only [bind, Except.bind, pure, Except.pure, if_pos full, settle]
  · simp only [EStateM.run_bind, run_put_insert, run_clearIfEmpty_insert, EStateM.run_pure]
    simp only [bind, Except.bind, pure, Except.pure, if_neg full, settle]

/-- **A script that writes as it goes** ends like one that changes nothing unless it succeeds. -/
theorem run_execute (legible : Arithmetic.Legible α) (sound : Sound α slots) (now : Instant)
    (script : Script) (key : String) (args : List String) :
    (execute α now script key args).run slots =
      settle slots (Store.execute α now script key args slots) := by
  unfold execute Store.execute
  split
  · exact run_pour legible sound now key args
  split
  · exact run_recordUnits key args
  split
  · exact run_recordRequest key args
  · rfl

end Writing

/-! ## What a script leaves -/

/-- A script ends with a result that satisfies `Q`, or is refused. No refusal blames a field. -/
def Ends {β : Type} (Q : β → Prop) : Except StoreError β → Prop
  | .ok result => Q result
  | .error e => ∀ name, e ≠ .badField name

theorem Ends.bind {β γ : Type} {Q : γ → Prop} {x : Except StoreError β}
    {f : β → Except StoreError γ} (first : Ends (fun _ => True) x)
    (rest : ∀ value, x = .ok value → Ends Q (f value)) : Ends Q (x >>= f) := by
  cases x with
  | error e => exact first
  | ok value => exact rest value rfl

theorem ends_argument {β : Type} (read? : String → Option β) (args : List String) (index : Nat) :
    Ends (fun _ => True) (argument read? args index) := by
  cases read : argument read? args index with
  | error e =>
    rw [eq_badArgument_of_argument read]
    exact fun _ => nofun
  | ok value => trivial

theorem ends_hashAt (slots : Table Slot) (key : String) :
    Ends (fun _ => True) (hashAt slots key) := by
  cases held : hashAt slots key with
  | error e =>
    rw [eq_wrongKind_of_hashAt held]
    exact fun _ => nofun
  | ok stored => trivial

theorem ends_sortedSetAt (slots : Table Slot) (key : String) :
    Ends (fun _ => True) (sortedSetAt slots key) := by
  cases held : sortedSetAt slots key with
  | error e =>
    rw [eq_wrongKind_of_sortedSetAt held]
    exact fun _ => nofun
  | ok members => trivial

namespace Sound

/-- The leaky bucket script leaves a hash that can be read: the volume and the time are arguments
that it has read itself. -/
theorem ends_pour (h : Sound α slots) (legible : Arithmetic.Legible α) (now : Instant)
    (key : String) (args : List String) :
    Ends (fun result => Sound α result.1) (pour α now key args slots) := by
  unfold pour
  refine (ends_argument ..).bind fun volume readVolume => ?_
  refine (ends_argument ..).bind fun rate _ => ?_
  refine (ends_argument ..).bind fun requested _ => ?_
  refine (ends_argument ..).bind fun current time => ?_
  refine (ends_hashAt slots key).bind fun stored held => ?_
  obtain ⟨hasTime, hasCount⟩ := legible_started legible h held time
  obtain ⟨lastTime, readTime⟩ := numberField_of_legible hasTime
  obtain ⟨count, readCount⟩ := numberField_of_legible hasCount
  rw [started] at readTime readCount
  simp only [readTime, readCount, bind, Except.bind]
  refine h.insert ⟨?_, ?_⟩
  · have known := ofText?_of_argument time
    simp [Legible, known, -List.getD_eq_getElem?_getD]
  · have known := ofText?_of_argument readVolume
    simp only [Legible, Table.get?_insert, if_true, Option.bind_some]
    split
    · rw [known]
      rfl
    · exact legible.text _

theorem ends_recordUnits (h : Sound α slots) (key : String) (args : List String) :
    Ends (fun result => Sound α result.1) (recordUnits key args slots) := by
  unfold recordUnits
  refine (ends_argument ..).bind fun left _ => ?_
  refine (ends_argument ..).bind fun right _ => ?_
  refine (ends_argument ..).bind fun now _ => ?_
  refine (ends_argument ..).bind fun limit _ => ?_
  refine (ends_argument ..).bind fun requested _ => ?_
  refine (ends_argument ..).bind fun member _ => ?_
  refine (ends_sortedSetAt slots key).bind fun members _ => ?_
  dsimp only
  split <;> exact h.putSortedSet _

theorem ends_recordRequest (h : Sound α slots) (key : String) (args : List String) :
    Ends (fun result => Sound α result.1) (recordRequest key args slots) := by
  unfold recordRequest
  refine (ends_argument ..).bind fun boundary _ => ?_
  refine (ends_argument ..).bind fun now _ => ?_
  refine (ends_argument ..).bind fun limit _ => ?_
  refine (ends_argument ..).bind fun member _ => ?_
  refine (ends_sortedSetAt slots key).bind fun members _ => ?_
  split <;> exact h.putSortedSet _

/-- Every script leaves sound slots, or is refused. -/
theorem ends_execute (h : Sound α slots) (legible : Arithmetic.Legible α) (now : Instant)
    (script : Script) (key : String) (args : List String) :
    Ends (fun result => Sound α result.1) (execute α now script key args slots) := by
  unfold execute
  split
  · exact h.ends_pour legible now key args
  split
  · exact h.ends_recordUnits key args
  split
  · exact h.ends_recordRequest key args
  · exact fun _ => nofun

end Sound

/-! ## Every sequence of operations -/

/-- The store after a script that writes as it goes, and its reply. -/
def evalInPlace (α : Type) [Arithmetic α] (s : Store) (now : Instant) (script : Script)
    (keys args : List String) : Store × Except LimiterError Int :=
  if s.available then
    match keys with
    | [] => (s, .error (.store .missingKey))
    | key :: _ =>
      match (Writing.execute α now script key args).run (s.live now) with
      | .ok reply slots => ({ s with slots := slots }, .ok reply)
      | .error e slots => ({ s with slots := slots }, .error (.store e))
  else (s, .error (.store .unavailable))

/-- A store shows the same of every key at an instant. -/
structure Unchanged (s s' : Store) (now : Instant) : Prop where
  exists? : ∀ key, s'.exists? now key = s.exists? now key
  hget : ∀ key field, s'.hget now key field = s.hget now key field
  zcard : ∀ key, s'.zcard now key = s.zcard now key
  ttl : ∀ key, s'.ttl now key = s.ttl now key

theorem unchanged_of_slot? {s s' : Store} {now : Instant}
    (same : ∀ key, s'.slot? now key = s.slot? now key) : Unchanged s s' now where
  exists? key := by rw [Store.exists?, same, Store.exists?]
  hget key field := by rw [Store.hget, same, Store.hget]
  zcard key := by rw [Store.zcard, same, Store.zcard]
  ttl key := by rw [Store.ttl, same, Store.ttl]

theorem unchanged_purge (s : Store) {now later : Instant} (order : now ≤ later) :
    Unchanged s (s.purge now) later :=
  unchanged_of_slot? (get?_live_purge s order)

theorem unchanged_refl (s : Store) (now : Instant) : Unchanged s s now :=
  unchanged_of_slot? fun _ => rfl

namespace Sound

variable {s : Store}

/-- A command writes as it goes, or changes nothing unless it succeeds: it is the same. -/
theorem evalInPlace_eq (h : Sound α s.slots) (legible : Arithmetic.Legible α) (now : Instant)
    (script : Script) (keys args : List String) :
    s.evalInPlace α now script keys args = s.eval α now script keys args := by
  have live : Sound α (s.live now) := h.filter _
  unfold evalInPlace eval
  split
  · cases keys with
    | nil => rfl
    | cons key _ =>
      dsimp only
      rw [Writing.run_execute legible live]
      cases execute α now script key args (s.live now) <;> rfl
  · rfl

/-- A script that fails removes what has expired, and blames no field. -/
theorem eval_error (h : Sound α s.slots) (legible : Arithmetic.Legible α) {now : Instant}
    {script : Script} {keys args : List String} {s' : Store} {e : LimiterError}
    (failed : s.eval α now script keys args = (s', .error e)) :
    (s' = s ∨ s' = s.purge now) ∧ ∀ name, e ≠ .store (.badField name) := by
  have live : Sound α (s.live now) := h.filter _
  unfold eval at failed
  split at failed
  · cases keys with
    | nil =>
      cases failed
      exact ⟨.inl rfl, fun _ => nofun⟩
    | cons key _ =>
      have ends := live.ends_execute legible now script key args
      dsimp only at failed
      cases executed : execute α now script key args (s.live now) with
      | ok result => simp [executed] at failed
      | error refusal =>
        rw [executed] at failed ends
        cases failed
        exact ⟨.inr rfl, fun name same => ends name (LimiterError.store.inj same)⟩
  · cases failed
    exact ⟨.inl rfl, fun _ => nofun⟩

end Sound

/-- **What an operation keeps holds of every store.** Scripts and new expiries change slots, and
expired ones go. -/
theorem slots_after {Inv : Table Slot → Prop} (empty : Inv ∅)
    (filter : ∀ slots p, Inv slots → Inv (slots.filter p))
    (ran : ∀ slots slots' now script key args reply, Inv slots →
      execute α now script key args slots = .ok (slots', reply) → Inv slots')
    (renewed : ∀ slots key slot deadline, Inv slots → slots.get? key = some slot →
      Inv (slots.insert key { slot with expiresAt := deadline }))
    (operations : List (Instant × Operation)) : Inv (after α operations).slots := by
  induction operations using List.reverseRecOn with
  | nil => exact empty
  | append_singleton operations o ih =>
    obtain ⟨now, o⟩ := o
    rw [after, List.foldl_append]
    change Inv ((after α operations).perform α now o).slots
    have live : Inv ((after α operations).live now) := filter _ _ ih
    cases o with
    | eval script keys args =>
      change Inv ((after α operations).eval α now script keys args).1.slots
      unfold eval
      split
      · cases keys with
        | nil => exact ih
        | cons key _ =>
          dsimp only
          cases executed : execute α now script key args ((after α operations).live now) with
          | ok result => exact ran _ _ _ _ _ _ _ live executed
          | error refusal => exact live
      · exact ih
    | expire key lifetime =>
      change Inv ((after α operations).expire now key lifetime).1.slots
      unfold expire
      split
      · dsimp only
        split
        · rename_i slot found
          exact renewed _ _ _ _ live found
        · exact live
      · exact ih
    | reach available => exact ih
    | look => exact live

/-- Every value is sound after every sequence of operations. -/
theorem sound_after (legible : Arithmetic.Legible α) (operations : List (Instant × Operation)) :
    Sound α (after α operations).slots := by
  refine slots_after .empty (fun _ p sound => sound.filter p) ?_
    (fun _ key slot _ sound found => sound.insert (sound key slot found)) operations
  intro slots slots' now script key args reply sound executed
  have ends := sound.ends_execute legible now script key args
  rw [executed] at ends
  exact ends

/-- **Commands are atomic.** In every store that a sequence of operations can make, no key holds an
empty value; a script that writes as it goes ends like one that changes nothing unless it succeeds;
and after a command that fails the store shows what it has shown before, then and later on. None
fails because a field is not a number. The numbers can be doubles or rational numbers, which are
both legible. -/
theorem error_changes_nothing (legible : Arithmetic.Legible α)
    (operations : List (Instant × Operation)) :
    (∀ key slot, (after α operations).slots.get? key = some slot →
      slot.value.isEmpty = false) ∧
    (∀ now script keys args, (after α operations).evalInPlace α now script keys args =
      (after α operations).eval α now script keys args) ∧
    (∀ now script keys args s' e,
      (after α operations).eval α now script keys args = (s', .error e) →
        (∀ later, now ≤ later → Unchanged (after α operations) s' later) ∧
          ∀ name, e ≠ .store (.badField name)) ∧
    ∀ now key lifetime s' e, (after α operations).expire now key lifetime = (s', .error e) →
      (∀ later, now ≤ later → Unchanged (after α operations) s' later) ∧
        ∀ name, e ≠ .store (.badField name) := by
  have sound := sound_after legible operations
  refine ⟨fun key slot found => (sound key slot found).isEmpty_eq, sound.evalInPlace_eq legible,
    fun now script keys args s' e failed => ?_, fun now key lifetime s' e failed => ?_⟩
  · obtain ⟨same | purged, blames⟩ := sound.eval_error legible failed
    · exact ⟨fun later _ => same ▸ unchanged_refl _ _, blames⟩
    · exact ⟨fun later order => purged ▸ unchanged_purge _ order, blames⟩
  · unfold Store.expire at failed
    split at failed
    · dsimp only at failed
      split at failed <;> cases failed
    · cases failed
      exact ⟨fun later _ => unchanged_refl _ _, fun _ => nofun⟩

theorem after_eval (script : Script) (keys args : List String) (now : Instant) :
    after α [(now, .eval script keys args)] = ((∅ : Store).eval α now script keys args).1 := rfl

/-- A sliding log script on the key of a bucket is refused, and leaves the bucket. -/
theorem wrongKind_changes_nothing :
    ∃ s', (after ℚ [(⟨0⟩, .eval .leakyBucket ["key"] ["10", "1", "4", "0"])]).eval ℚ ⟨0⟩ .slidingLog
        ["key"] ["0", "0", "0", "1", "1", "member"] = (s', .error (.store .wrongKind)) ∧
      s'.hget ⟨0⟩ "key" "count" = some "4" := by
  obtain ⟨result, poured, level, kind⟩ : ∃ result,
      pour ℚ ⟨0⟩ "key" ["10", "1", "4", "0"] ((∅ : Store).live ⟨0⟩) = .ok result ∧
      (⟨result.1, true⟩ : Store).hget ⟨0⟩ "key" "count" = some "4" ∧
      (recordUnits "key" ["0", "0", "0", "1", "1", "member"]
        ((⟨result.1, true⟩ : Store).live ⟨0⟩)).map Prod.snd = .error .wrongKind :=
    ⟨_, rfl, by decide +kernel, by decide +kernel⟩
  obtain ⟨-, -, evals, -⟩ := error_changes_nothing Exact.legible
    [(⟨0⟩, .eval .leakyBucket ["key"] ["10", "1", "4", "0"])]
  have filled := eval_of_execute_eq_ok rfl ((execute_leakyBucket ..).trans poured)
  rw [after_eval, filled] at evals ⊢
  have refused := @eval_of_execute_eq_error ℚ _ ⟨result.1, true⟩ rfl _ _ _ _ _
    ((execute_slidingLog ..).trans (eq_error_of_map_eq_error kind))
  refine ⟨_, refused, ?_⟩
  rw [((evals _ _ _ _ _ _ refused).1 ⟨0⟩ (by decide)).hget, level]

end

end Store

end Throttle
