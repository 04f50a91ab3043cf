import Throttle.Error
import Throttle.Store.SortedSet
import Throttle.Table

/-!
# The keyspace of a store

A store keeps a value under each of its keys: a hash of text fields, or a sorted set. A key may
expire; an expired key is as good as absent, and the next command or look removes it for good.

## Main definitions

* `Value`, `Slot`: what a key holds, and until when
* `Store`: the keys of a store, and whether it can be reached
* `Store.live s now`: the keys that have not expired
* `Store.hget`, `Store.zcard`, `Store.exists?`, `Store.ttl`: what a store shows of a key
* `Store.look`: a view of the store, which removes the expired keys
* `Store.expire`: a key's new lifetime

## Main results

* `Slot.isLive_iff`: a slot is live until its deadline
* `Store.get?_live`: the live keys are those whose expiry lies ahead
* `Store.get?_live_purge`, `Store.slot?_purge`: removing the expired keys hides nothing that is
  shown, then or later
-/

namespace Throttle

/-- The value of a key. -/
inductive Value where
  | hash (fields : Table String)
  | sortedSet (members : SortedSet)

/-- Whether a value has no fields or members. -/
def Value.isEmpty : Value → Bool
  | hash fields => fields.isEmpty
  | sortedSet members => members.isEmpty

/-- A value and the instant at which it expires, if it does. -/
structure Slot where
  value : Value
  /-- The instant from which the key is absent. -/
  expiresAt : Option Instant

/-- Whether a slot has not expired. -/
def Slot.isLive (slot : Slot) (now : Instant) : Bool :=
  match slot.expiresAt with
  | none => true
  | some deadline => decide (now < deadline)

/-- A slot without a deadline is always live, and one with a deadline until then. -/
theorem Slot.isLive_iff {slot : Slot} {now : Instant} :
    slot.isLive now = true ↔ ∀ deadline, slot.expiresAt = some deadline → now < deadline := by
  unfold isLive
  cases slot.expiresAt <;> simp

/-- What is not live has a deadline that has passed. -/
theorem Slot.exists_of_not_isLive {slot : Slot} {now : Instant} (dead : ¬slot.isLive now = true) :
    ∃ deadline, slot.expiresAt = some deadline ∧ deadline ≤ now := by
  simp only [isLive_iff, Classical.not_forall] at dead
  obtain ⟨deadline, ends, passed⟩ := dead
  exact ⟨deadline, ends, Int.not_lt.1 passed⟩

/-- A slot is live for its lifetime. -/
theorem Slot.isLive_after {now later : Instant} {lifetime : Span} (value : Value)
    (soon : later.nanos < now.nanos + lifetime.nanos) :
    isLive ⟨value, now.after? lifetime⟩ later = true := by
  refine isLive_iff.2 fun deadline ends => ?_
  have moved := (Instant.shift?_eq_some_iff.1 ends).1
  exact Instant.lt_def.2 (by omega)

/-- What is live is live before. -/
theorem Slot.isLive_of_le {slot : Slot} {now later : Instant} (order : now ≤ later)
    (live : slot.isLive later = true) : slot.isLive now = true :=
  isLive_iff.2 fun deadline ends => Int.lt_of_le_of_lt order (isLive_iff.1 live deadline ends)

/-- A store in memory. -/
structure Store where
  slots : Table Slot
  available : Bool

namespace Store

/-- A store without keys. -/
def empty : Store := ⟨∅, true⟩

instance : EmptyCollection Store := ⟨empty⟩

instance : Inhabited Store := ⟨empty⟩

/-- The keys that have not expired. -/
def live (s : Store) (now : Instant) : Table Slot := s.slots.filter fun _ slot => slot.isLive now

/-- The live keys are those whose expiry lies ahead. -/
theorem get?_live (s : Store) (now : Instant) (key : String) :
    (s.live now).get? key = (s.slots.get? key).filter (·.isLive now) :=
  Table.get?_filter ..

/-- The live slot of a key. -/
def slot? (s : Store) (now : Instant) (key : String) : Option Slot := (s.live now).get? key

/-- A field of the hash under a key. -/
def hget (s : Store) (now : Instant) (key field : String) : Option String :=
  match (s.slot? now key).map Slot.value with
  | some (.hash fields) => fields.get? field
  | _ => none

/-- The number of members of the sorted set under a key. -/
def zcard (s : Store) (now : Instant) (key : String) : Nat :=
  match (s.slot? now key).map Slot.value with
  | some (.sortedSet members) => members.size
  | _ => 0

/-- Whether the store has a key. -/
def exists? (s : Store) (now : Instant) (key : String) : Bool := (s.slot? now key).isSome

/-- The time until a key expires; nothing for a key that is absent or does not expire. -/
def ttl (s : Store) (now : Instant) (key : String) : Option Span :=
  match (s.slot? now key).bind Slot.expiresAt with
  | some deadline => some ⟨(deadline.nanos - now.nanos).toNat⟩
  | none => none

/-- The store without the keys that have expired. -/
def purge (s : Store) (now : Instant) : Store := { s with slots := s.live now }

/-- What has expired does not show later. -/
theorem get?_live_purge (s : Store) {now later : Instant} (order : now ≤ later) (key : String) :
    ((s.purge now).live later).get? key = (s.live later).get? key := by
  rw [get?_live, get?_live]
  change ((s.live now).get? key).filter _ = _
  rw [get?_live, Option.filter_filter]
  congr 1
  funext slot
  -- What is live later is live now.
  cases live : slot.isLive later with
  | false => simp
  | true => simpa using Slot.isLive_of_le order live

/-- Removing the expired keys hides nothing that is shown. -/
theorem slot?_purge (s : Store) (now : Instant) (key : String) :
    (s.purge now).slot? now key = s.slot? now key :=
  get?_live_purge s (Int.le_refl now.nanos) key

/-- What a view shows, and the store after it: to look at a store removes the expired keys for good,
so that they do not come back when the clock is set back. -/
def look {β : Type} (s : Store) (now : Instant) (view : Store → Instant → β) : Store × β :=
  (s.purge now, view s now)

/-- The store after a key got a new lifetime. A lifetime that ends beyond every instant is
endless. -/
def expire (s : Store) (now : Instant) (key : String) (lifetime : Span) :
    Store × Except LimiterError Unit :=
  if s.available then
    let live := s.live now
    match live.get? key with
    | some slot =>
      ({ s with slots := live.insert key { slot with expiresAt := now.after? lifetime } }, .ok ())
    | none => ({ s with slots := live }, .ok ())
  else (s, .error (.store .unavailable))

end Store

end Throttle
