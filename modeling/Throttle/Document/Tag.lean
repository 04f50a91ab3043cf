import Throttle.Document.Scalar
import Throttle.Document.Token

/-!
# Names, tags and directives

A node can be given a name and a tag. A directive at the start of a document says which version of
the language it is written in, or what the handle of a tag stands for.

## Main definitions

* `name?`: the name of a node
* `tag?`: the tag of a node
* `directive?`: a directive
-/

namespace Throttle.Document

/-- The name at a place; what follows is a blank or a sign that cannot belong to a name. -/
def name? (c : Cursor) : Option (String × Cursor) :=
  let word := c.rest.takeWhile isWordChar
  let e := c.skipMany word.length
  if !word.isEmpty ∧ (e.blankAt 0 ∨ e.hasOneOf 0 "?:,]\x7d%@\x60") then some (String.ofList word, e)
  else none

/-! ## Tags -/

/-- The characters of a tag, each of one byte. -/
def isUriChar (ch : Char) : Bool := isWordChar ch || ";/?:@&=+$.!~*'()".toList.contains ch

/-- The byte that is written as a percent sign and two hexadecimal digits. -/
def escapedByte? (c : Cursor) : Option Nat :=
  let digits := (c.rest.drop 1).take 2
  if c.has 0 '%' ∧ digits.length = 2 then hexValue? digits else none

/-- The number of bytes of a character, which its first byte tells. -/
def charLength? (first : Nat) : Option Nat :=
  if first / 0x80 = 0 then some 1
  else if first / 0x20 = 0x6 then some 2
  else if first / 0x10 = 0xE then some 3
  else if first / 0x8 = 0x1E then some 4
  else none

/-- The escaped bytes of a character. The bytes after the first must look like such bytes; whether
they encode a character is not asked. -/
def escaped? (c : Cursor) : Option Bytes := do
  let first ← escapedByte? c
  let length ← charLength? first
  let more ← (List.range (length - 1)).mapM fun i =>
    (escapedByte? (c.skipMany (3 * (i + 1)))).filter (· / 0x40 = 0x2)
  return (first :: more).map Nat.toUInt8

/-- The rest of a tag; one between angle brackets may hold commas and square brackets. What is read
comes latest first. -/
def uri? (bracketed : Bool) (c : Cursor) (read : Bytes) : Option (Bytes × Cursor) :=
  match _h : c.rest with
  | [] => some (read.reverse, c)
  | ch :: _ =>
    if isUriChar ch ∨ (bracketed ∧ c.hasOneOf 0 ",[]") then
      uri? bracketed c.skip (ch.toNat.toUInt8 :: read)
    else if ch = '%' then
      match escaped? c with
      | none => none
      | some bytes =>
        uri? bracketed (c.skipMany (max 1 (3 * bytes.length))) (bytes.reverse ++ read)
    else some (read.reverse, c)
termination_by c.rest.length
decreasing_by
  · exact Cursor.skip_lt ‹_›
  · exact Cursor.skipMany_lt ‹_› (by omega)

/-- The bytes before the first zero byte, where a tag ends. -/
def upToZero (bytes : Bytes) : Bytes := bytes.takeWhile (· ≠ 0)

/-- The handle at an exclamation mark: with a second mark after letters or at once, and without one
just the first mark. -/
def handle (c : Cursor) : String × Cursor :=
  let word := c.skip.rest.takeWhile isWordChar
  let e := c.skip.skipMany word.length
  if e.has 0 '!' then (String.ofList ('!' :: word ++ ['!']), e.skip) else ("!", c.skip)

/-- A tag between angle brackets. -/
def fullTag? (c : Cursor) : Option (Tag × Cursor) := do
  let (bytes, c) ← uri? true (c.skipMany 2) []
  if !bytes.isEmpty ∧ c.has 0 '>' then some (⟨"", upToZero bytes⟩, c.skip) else none

/-- A tag with a handle. A lone exclamation mark is a tag of its own. -/
def shortTag? (c : Cursor) : Option (Tag × Cursor) := do
  let (handle, c) := handle c
  let (bytes, c) ← uri? false c []
  let suffix := upToZero bytes
  if handle = "!" ∧ suffix.isEmpty then some (⟨"", Bytes.ofText "!"⟩, c)
  else if !bytes.isEmpty then some (⟨handle, suffix⟩, c)
  else none

/-- The tag at an exclamation mark. It ends at a blank, and within brackets also at a comma. -/
def tag? (flow : Bool) (c : Cursor) : Option (Tag × Cursor) := do
  let (tag, c) ← if c.has 1 '<' then fullTag? c else shortTag? c
  if c.blankAt 0 ∨ (flow ∧ c.has 0 ',') then some (tag, c) else none

/-! ## Directives -/

/-- The number at a place, of at most nine digits. -/
def versionNumber? (c : Cursor) : Option (Nat × Cursor) :=
  let digits := c.rest.takeWhile Char.isDigit
  if digits.isEmpty ∨ 9 < digits.length then none
  else some (digits.foldl (fun n d => n * 10 + (d.toNat - '0'.toNat)) 0, c.skipMany digits.length)

/-- What a version directive states. -/
def version? (c : Cursor) : Option (Token × Cursor) := do
  let (major, c) ← versionNumber? (c.skipWhile isBlank)
  if !c.has 0 '.' then none
  let (minor, c) ← versionNumber? c.skip
  return (.version major minor, c)

/-- What a directive for a handle states: the handle and what it stands for, with blanks between. -/
def expansion? (c : Cursor) : Option (Token × Cursor) := do
  let c := c.skipWhile isBlank
  if !c.has 0 '!' then none
  let (name, c) := handle c
  if !(c.get? 0).any isBlank then none
  let (expansion, c) ← uri? true (c.skipWhile isBlank) []
  if expansion.isEmpty ∨ !c.blankAt 0 then none
  return (.handle name (upToZero expansion), c)

/-- The directive at a percent sign, which takes up the line. -/
def directive? (c : Cursor) : Option (Token × Cursor) := do
  let word := c.skip.rest.takeWhile isWordChar
  let c := c.skip.skipMany word.length
  if !c.blankAt 0 then none
  let (token, c) ←
    if word = "YAML".toList then version? c
    else if word = "TAG".toList then expansion? c
    else none
  let c := c.skipComment
  if c.atLineEnd then some (token, c.skipLine) else none

end Throttle.Document
