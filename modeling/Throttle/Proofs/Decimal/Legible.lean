import Mathlib.Data.List.TakeWhile
import Throttle.Arithmetic.Double
import Throttle.Proofs.Decimal.Rational

/-!
# Numbers that can be read

A script stores a number as text and reads it when it runs again. An arithmetic is legible if each
of its texts is a text of one of its numbers, not always of the same one: a text may be rounded. A
double is written as a word, or in digits with at most one point, and so is legible.

## Main definitions

* `Arithmetic.Legible`: every text that is written can be read

## Main results

* `Exact.legible`: rational numbers are legible
* `Double.legible`: doubles are legible
-/

namespace Throttle

/-- Every text that is written can be read, and so can the zero that scripts start from. -/
structure Arithmetic.Legible (α : Type) [Arithmetic α] : Prop where
  zero : (Arithmetic.ofText? "0" : Option α).isSome
  text (x : α) : (Arithmetic.ofText? (Arithmetic.text x) : Option α).isSome

/-- Rational numbers are legible. -/
theorem Exact.legible : Arithmetic.Legible ℚ where
  zero := Option.isSome_of_eq_some (Exact.ofText?_toString_nat 0)
  text x := Option.isSome_of_eq_some (Exact.ofText?_text x)

namespace Numeral

theorem digits_append {ds rest : List Char} (all : ∀ c ∈ ds, c.isDigit = true)
    (stop : ∀ c ∈ rest.head?, c.isDigit = false) : digits (ds ++ rest) = (ds, rest) := by
  rw [digits, List.span_eq_takeWhile_dropWhile, List.takeWhile_append_of_pos all,
    List.dropWhile_append_of_pos all]
  cases rest with
  | nil => simp
  | cons c rest => simp [stop c rfl]

/-- Nothing of a text of digits is left over. -/
theorem digits_eq_self {ds : List Char} (all : ∀ c ∈ ds, c.isDigit = true) :
    digits ds = (ds, []) := by
  have read : digits (ds ++ []) = (ds, []) := digits_append all (by simp)
  rwa [List.append_nil] at read

/-- Digits, with at most one point after some of them. -/
inductive Positional : List Char → Prop where
  | whole {ds : List Char} (some : ds ≠ []) (all : ∀ c ∈ ds, c.isDigit = true) : Positional ds
  | pointed {ds part : List Char} (some : ds ≠ []) (all : ∀ c ∈ ds, c.isDigit = true)
    (allPart : ∀ c ∈ part, c.isDigit = true) : Positional (ds ++ '.' :: part)

namespace Positional

variable {cs : List Char}

/-- They are a numeral without exponent. -/
theorem isSome_unsigned? (h : Positional cs) (negative : Bool) :
    (unsigned? negative cs).isSome := by
  cases h with
  | whole some all =>
    simp [unsigned?, digits_eq_self all, some, exponent?]
  | @pointed ds part some all allPart =>
    have read : digits (ds ++ '.' :: part) = (ds, '.' :: part) := digits_append all (by simp)
    simp [unsigned?, read, digits_eq_self allPart, some, exponent?]

/-- They start with a digit, which is no sign. -/
theorem sign_eq (h : Positional cs) : sign cs = (false, cs) := by
  obtain ⟨c, rest, rfl, digit⟩ : ∃ c rest, cs = c :: rest ∧ c.isDigit = true := by
    cases h with
    | whole some all =>
      obtain ⟨c, rest, rfl⟩ := List.exists_cons_of_ne_nil some
      exact ⟨c, rest, rfl, all c List.mem_cons_self⟩
    | pointed some all allPart =>
      obtain ⟨c, rest, rfl⟩ := List.exists_cons_of_ne_nil some
      exact ⟨c, _, rfl, all c List.mem_cons_self⟩
  unfold sign
  split
  · rename_i dash
    cases dash
    cases digit
  · rename_i plus
    cases plus
    cases digit
  · rfl

/-- They can be read, as they stand and after a dash. -/
theorem isSome_ofText? (h : Positional cs) {s : String}
    (written : s.toList = cs ∨ s.toList = '-' :: cs) : (Numeral.ofText? s).isSome := by
  have read (negative : Bool) : ((word? negative cs).or (unsigned? negative cs)).isSome := by
    rw [Option.isSome_or, h.isSome_unsigned? negative, Bool.or_true]
  rcases written with plain | dashed
  · rw [ofText?, plain, h.sign_eq]
    exact read false
  · rw [ofText?, dashed]
    exact read true

end Positional

end Numeral

open Numeral (Positional isDigit_of_mem_toDigits)

/-- A decimal is written in digits, with a point if its last digit stands after it. -/
theorem Decimal.positional_text (d : Decimal) : Positional d.text.toList := by
  have zeros (n : Nat) : ∀ c ∈ List.replicate n '0', c.isDigit = true := fun c member =>
    (List.mem_replicate.1 member).2 ▸ rfl
  have digits := isDigit_of_mem_toDigits d.coefficient
  have some : Nat.toDigits 10 d.coefficient ≠ [] := Nat.toDigits_ne_nil
  unfold Decimal.text
  dsimp only
  split
  · rw [String.toList_ofList]
    refine .whole (by simp [some]) fun c member => ?_
    exact (List.mem_append.1 member).elim (digits c) (zeros _ c)
  · rw [String.toList_ofList]
    set all := List.replicate ((-d.exponent).toNat + 1 - (Nat.toDigits 10 d.coefficient).length)
      '0' ++ Nat.toDigits 10 d.coefficient with padded
    have allDigits : ∀ c ∈ all, c.isDigit = true := fun c member =>
      (List.mem_append.1 (padded ▸ member)).elim (zeros _ c) (digits c)
    -- The zeros fill the places up to the point and one before it.
    have long : (-d.exponent).toNat < all.length := by
      rw [padded, List.length_append, List.length_replicate]
      omega
    refine .pointed (fun none => ?_) (fun c member => allDigits c (List.mem_of_mem_take member))
      fun c member => allDigits c (List.mem_of_mem_drop member)
    have short := congrArg List.length none
    rw [List.length_take, List.length_nil] at short
    omega

namespace Double

/-- The text of every form is a numeral. -/
theorem isSome_ofText?_text (f : Form) : (Numeral.ofText? f.text).isSome := by
  cases f with
  | nan => decide
  | infinite negative => cases negative <;> decide
  | finite negative m q denseBelow =>
    have magnitude : Positional
        (if m = 0 then "0" else (Decimal.shortest m q denseBelow).text).toList := by
      split
      · exact .whole (by decide) (by simp)
      · exact Decimal.positional_text _
    refine magnitude.isSome_ofText? ?_
    simp only [Form.text]
    split
    · exact .inr (by simp)
    · exact .inl rfl

/-- Some double is nearest to a numeral. -/
theorem isSome_ofText? {s : String} (h : (Numeral.ofText? s).isSome) : (ofText? s).isSome := by
  rwa [ofText?, Option.isSome_map]

/-- Doubles are legible. -/
theorem legible : Arithmetic.Legible Float where
  zero := isSome_ofText? (by decide)
  text x := isSome_ofText? (isSome_ofText?_text (Form.ofBits x.toBits.toNat))

end Double

end Throttle
