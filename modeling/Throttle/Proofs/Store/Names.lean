import Std.Data.String.ToInt
import Throttle.Limiter.Member
import Throttle.Proofs.Decimal.Whole

/-!
# The names of units

The units of a request are members of a sorted set, where a member that is added again replaces
itself. Units are counted one by one only if their names differ. A name can be read back: the digits
after the last dash are the number of the request, the sixteen before it are the origin, and what
comes after a colon is the number of the unit.

## Main definitions

* `MemberNames.drawn origin times`: the times, origins and numbers of a limiter's requests

## Main results

* `Decimal.hex16_inj`: a word can be read back from its hexadecimal digits
* `MemberNames.name_inj`: a request's time, origin and number can be read back from its name
* `MemberNames.notMem_drawn`: a limiter does not use a name again, unless it comes round to its
  number within a microsecond
* `Store.nodup_unitNames`: the units of one request have different names
* `Store.eq_of_mem_unitNames`: a unit's name tells the request
-/

namespace Throttle

/-- A text that ends after the last of its separators is split there in one way only. -/
theorem append_cons_inj_of_notMem_right {c : Char} {a b a' b' : List Char} (hb : c ∉ b)
    (hb' : c ∉ b') (h : a ++ c :: b = a' ++ c :: b') : a = a' ∧ b = b' := by
  rcases List.append_eq_append_iff.1 h with ⟨m, rfl, rest⟩ | ⟨m, rfl, rest⟩
  · cases m with
    | nil => simpa using rest
    | cons d m =>
      rw [List.cons_append, List.cons.injEq] at rest
      exact absurd (by simp [rest.2]) hb
  · cases m with
    | nil => simpa [eq_comm] using rest
    | cons d m =>
      rw [List.cons_append, List.cons.injEq] at rest
      exact absurd (by simp [rest.2]) hb'

namespace Decimal

/-- The number that hexadecimal digits stand for. -/
def hexValue (digits : List Char) : Nat :=
  digits.foldl (fun n c => n * 16 + (c.toNat - if c.isDigit then 48 else 87)) 0

theorem hexValue_append (digits : List Char) (c : Char) :
    hexValue (digits ++ [c]) =
      hexValue digits * 16 + (c.toNat - if c.isDigit then 48 else 87) := by
  simp [hexValue]

theorem hexValue_toDigits (n : Nat) : hexValue (Nat.toDigits 16 n) = n := by
  induction n using Nat.strongRecOn with
  | ind n ih =>
    have lastDigit : ∀ d < 16, (Nat.digitChar d).toNat -
        (if (Nat.digitChar d).isDigit then 48 else 87) = d := by decide
    rw [Nat.toDigits_eq_if (by decide)]
    split
    · rename_i small
      simpa [hexValue] using lastDigit n small
    · rw [hexValue_append, ih (n / 16) (by omega), lastDigit _ (Nat.mod_lt n (by decide))]
      omega

/-- Zeros in front do not count. -/
theorem hexValue_zeros (k : Nat) (digits : List Char) :
    hexValue (List.replicate k '0' ++ digits) = hexValue digits := by
  induction k with
  | zero => rfl
  | succ k ih => rw [← ih, hexValue, List.replicate_succ, List.cons_append, List.foldl_cons]; rfl

/-- A word has sixteen hexadecimal digits. -/
theorem length_toList_hex16 (n : UInt64) : (hex16 n).toList.length = 16 := by
  have short : (Nat.toDigits 16 n.toNat).length ≤ 16 :=
    (Nat.length_toDigits_le_iff (by decide) (by decide)).2 n.toNat_lt
  simp only [hex16, String.toList_ofList, List.length_append, List.length_replicate]
  omega

/-- A word can be read back from its hexadecimal digits. -/
theorem hex16_inj {m n : UInt64} : hex16 m = hex16 n ↔ m = n := by
  refine ⟨fun same => ?_, congrArg _⟩
  have values := congrArg (fun s => hexValue s.toList) same
  simp only [hex16, String.toList_ofList, hexValue_zeros, hexValue_toDigits] at values
  exact UInt64.toNat_inj.1 values

end Decimal

namespace MemberNames

/-- The dash before the number of a request is the last one of its name. -/
theorem toList_name (micros : Int) (origin sequence : UInt64) :
    (name micros origin sequence).toList =
      ((toString micros).toList ++ '-' :: (Decimal.hex16 origin).toList) ++
        '-' :: Nat.toDigits 10 sequence.toNat := by
  simp [name]

/-- A request's time, origin and number can be read back from its name. -/
theorem name_inj {micros micros' : Int} {origin origin' sequence sequence' : UInt64} :
    name micros origin sequence = name micros' origin' sequence' ↔
      micros = micros' ∧ origin = origin' ∧ sequence = sequence' := by
  refine ⟨fun same => ?_, by rintro ⟨rfl, rfl, rfl⟩; rfl⟩
  have texts := congrArg String.toList same
  rw [toList_name, toList_name] at texts
  -- A number has no dash, so that the last dash is before it.
  obtain ⟨fronts, numbers⟩ := append_cons_inj_of_notMem_right
    (Numeral.notMem_toDigits rfl _) (Numeral.notMem_toDigits rfl _) texts
  -- An origin has always sixteen digits, so that it is told from the time by its length.
  have lengths : ('-' :: (Decimal.hex16 origin).toList).length =
      ('-' :: (Decimal.hex16 origin').toList).length := by
    rw [List.length_cons, List.length_cons, Decimal.length_toList_hex16,
      Decimal.length_toList_hex16]
  obtain ⟨times, origins⟩ := List.append_inj' fronts lengths
  refine ⟨?_, ?_, ?_⟩
  · rw [String.toList_inj, Int.toString_eq_repr, Int.toString_eq_repr] at times
    exact Int.repr_injective times
  · rw [List.cons.injEq] at origins
    exact Decimal.hex16_inj.1 (String.toList_inj.1 origins.2)
  · have read := congrArg Numeral.digitValue numbers
    rw [Numeral.digitValue_toDigits, Numeral.digitValue_toDigits] at read
    exact UInt64.toNat_inj.1 read

/-- No request is named like a further unit of a request. -/
theorem name_ne_numbered (micros micros' : Int) (origin origin' sequence sequence' : UInt64)
    (i : Nat) :
    name micros origin sequence ≠ name micros' origin' sequence' ++ ":" ++ toString i := by
  intro same
  have texts := congrArg String.toList same
  have numbered : (name micros' origin' sequence' ++ ":" ++ toString i).toList =
      ((toString micros').toList ++ '-' :: (Decimal.hex16 origin').toList) ++
        '-' :: (Nat.toDigits 10 sequence'.toNat ++ ':' :: Nat.toDigits 10 i) := by
    simp [toList_name]
  rw [numbered, toList_name] at texts
  -- The colon would be one of the digits after the last dash.
  have noDash : '-' ∉ Nat.toDigits 10 sequence'.toNat ++ ':' :: Nat.toDigits 10 i := by
    have first := Numeral.notMem_toDigits (c := '-') rfl sequence'.toNat
    have second := Numeral.notMem_toDigits (c := '-') rfl i
    simp [first, second]
  have digits := (append_cons_inj_of_notMem_right (Numeral.notMem_toDigits rfl _) noDash texts).2
  have colon : ':' ∈ Nat.toDigits 10 sequence.toNat := by simp [digits]
  exact Numeral.notMem_toDigits rfl _ colon

/-! ## The names of a limiter -/

/-- The times, the origin and the numbers of a limiter's requests, made at the given times in
microseconds. The numbers start from zero and come round after 64 bits. -/
def drawn (origin : UInt64) (times : List Int) : List (Int × UInt64 × UInt64) :=
  times.mapIdx fun k micros => (micros, origin, UInt64.ofNat k)

@[simp] theorem drawn_nil (origin : UInt64) : drawn origin [] = [] := rfl

theorem drawn_append_singleton (origin : UInt64) (times : List Int) (micros : Int) :
    drawn origin (times ++ [micros]) =
      drawn origin times ++ [(micros, origin, UInt64.ofNat times.length)] := by
  simp [drawn]

/-- A limiter draws names of its own origin. -/
theorem origin_of_mem_drawn {origin : UInt64} {times : List Int} {d : Int × UInt64 × UInt64}
    (h : d ∈ drawn origin times) : d.2.1 = origin := by
  obtain ⟨k, -, rfl⟩ := List.mem_mapIdx.1 h
  rfl

/-- A limiter does not use a name again, unless it comes round to its number within a
microsecond. -/
theorem notMem_drawn (origin : UInt64) {times : List Int} {micros : Int}
    (ordered : (times ++ [micros]).Pairwise (· ≤ ·))
    (paced : (times ++ [micros]).count micros ≤ 2 ^ 64) :
    (micros, origin, UInt64.ofNat times.length) ∉ drawn origin times := by
  intro repeated
  obtain ⟨k, before, same⟩ := List.mem_mapIdx.1 repeated
  simp only [Prod.mk.injEq, true_and] at same
  obtain ⟨sameTime, sameNumber⟩ := same
  have round : k + 2 ^ 64 ≤ times.length := by
    have residues := congrArg UInt64.toNat sameNumber
    simp only [UInt64.toNat_ofNat'] at residues
    omega
  -- From the earlier request on, every request was made at this very microsecond.
  have since : times.drop k ++ [micros] = (times ++ [micros]).drop k :=
    (List.drop_append_of_le_length (by omega)).symm
  have still : ∀ later ∈ times.drop k ++ [micros], micros = later := by
    have rest : (times.drop k ++ [micros]).Pairwise (· ≤ ·) := since ▸ ordered.drop
    have upTo := (List.pairwise_append.1 rest).2.2
    rw [List.drop_eq_getElem_cons before, sameTime, List.cons_append,
      List.pairwise_cons] at rest
    intro later member
    rcases List.mem_append.1 member with among | last
    · refine Int.le_antisymm ?_ (upTo later among micros (by simp))
      rw [List.drop_eq_getElem_cons before, sameTime] at among
      rcases List.mem_cons.1 among with first | other
      · exact Int.le_of_eq first.symm
      · exact rest.1 later (List.mem_append_left _ other)
    · exact (List.mem_singleton.1 last).symm
  have many := List.count_eq_length.2 still
  have some := (List.drop_sublist k (times ++ [micros])).count_le micros
  rw [← since, many, List.length_append, List.length_drop, List.length_singleton] at some
  omega

end MemberNames

namespace Store

open MemberNames (name)

/-- A unit of a request has the request's own name, or it with a number after a colon. -/
theorem mem_unitNames {unit member : String} {n : Nat} :
    unit ∈ unitNames member n ↔
      unit = member ∨ ∃ i, i < n - 1 ∧ unit = member ++ ":" ++ toString (i + 1) := by
  simp only [unitNames, List.mem_append, List.mem_map, List.mem_range, List.mem_singleton]
  grind

/-- A request has as many names as units. -/
theorem length_unitNames (member : String) {n : Nat} (h : 1 ≤ n) :
    (unitNames member n).length = n := by
  simp only [unitNames, List.length_append, List.length_map, List.length_range,
    List.length_singleton]
  omega

/-- The units of one request have different names. -/
theorem nodup_unitNames (member : String) (n : Nat) : (unitNames member n).Nodup := by
  have numbered : ((List.range (n - 1)).map fun i => member ++ ":" ++ toString (i + 1)).Nodup := by
    refine List.Pairwise.map _ (fun i j different same => ?_) List.nodup_range
    rw [String.append_right_inj, Nat.toString_eq_repr, Nat.toString_eq_repr] at same
    have := Nat.repr_injective same
    omega
  refine List.nodup_append.2 ⟨numbered, by simp, ?_⟩
  intro unit further own first same
  obtain ⟨i, -, rfl⟩ := List.mem_map.1 further
  rw [List.mem_singleton.1 first] at same
  -- A number after a colon makes a name longer than the request's own.
  have longer := congrArg String.length same
  have colon : ":".length = 1 := rfl
  simp only [String.length_append] at longer
  omega

/-- A unit's name tells the request. -/
theorem eq_of_mem_unitNames {unit : String} {micros micros' : Int}
    {origin origin' sequence sequence' : UInt64} {n n' : Nat}
    (h : unit ∈ unitNames (name micros origin sequence) n)
    (h' : unit ∈ unitNames (name micros' origin' sequence') n') :
    micros = micros' ∧ origin = origin' ∧ sequence = sequence' := by
  rcases mem_unitNames.1 h with rfl | ⟨i, -, rfl⟩ <;>
    rcases mem_unitNames.1 h' with same | ⟨j, -, same⟩
  · exact MemberNames.name_inj.1 same
  · exact (MemberNames.name_ne_numbered _ _ _ _ _ _ _ same).elim
  · exact (MemberNames.name_ne_numbered _ _ _ _ _ _ _ same.symm).elim
  · have texts := congrArg String.toList same
    simp only [String.toList_append, List.append_assoc] at texts
    -- Both are numbered, and the last colon is before the number.
    have fronts := (append_cons_inj_of_notMem_right (c := ':')
      (by simpa using Numeral.notMem_toDigits (c := ':') rfl (i + 1))
      (by simpa using Numeral.notMem_toDigits (c := ':') rfl (j + 1)) texts).1
    exact MemberNames.name_inj.1 (String.toList_inj.1 fronts)

end Store

end Throttle
