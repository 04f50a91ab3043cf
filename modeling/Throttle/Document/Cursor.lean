/-!
# Places in a document

A document is a text of lines. Its reader looks ahead from a place, which has a line and a column,
and goes on by characters and by line breaks.

## Main definitions

* `isBlank`, `isBreak`, `isWordChar`, `isPrintable`: classes of characters
* `Cursor`: a place and the text that follows it
* `Cursor.skip`, `Cursor.skipLine`: the next place after a character and after a line break
* `Cursor.atMarker`: whether a document marker starts here

## Main results

* `Cursor.skip_lt`, `Cursor.skipBreak_lt`: going on leaves less text
-/

namespace Throttle.Document

/-- A blank separates words within a line. -/
def isBlank (c : Char) : Bool := c == ' ' || c == '\t'

/-- A break ends a line: a carriage return, a line feed, a next line, or one of the two Unicode
separators. -/
def isBreak (c : Char) : Bool :=
  c == '\r' || c == '\n' || c == '\u0085' || c == '\u2028' || c == '\u2029'

/-- The characters of names: letters and digits of ASCII, dash and underscore. -/
def isWordChar (c : Char) : Bool := c.isAlphanum || c == '-' || c == '_'

/-- The characters that a document may hold. -/
def isPrintable (c : Char) : Bool :=
  let n := c.toNat
  n == 0x9 || n == 0xA || n == 0xD || (0x20 ≤ n && n ≤ 0x7E) || n == 0x85
    || (0xA0 ≤ n && n ≤ 0xD7FF) || (0xE000 ≤ n && n ≤ 0xFFFD) || (0x10000 ≤ n && n ≤ 0x10FFFF)

/-- The number of bytes of some characters, each in its encoding of one to four bytes. -/
def byteCount (chars : List Char) : Nat := chars.foldl (fun bytes c => bytes + c.utf8Size) 0

/-- A place in a document, and the text that follows it. -/
structure Cursor where
  rest : List Char
  /-- The number of bytes before. -/
  index : Nat
  /-- The number of lines before. -/
  line : Nat
  /-- The number of characters before in the line. -/
  column : Nat

namespace Cursor

/-- The start of a text. -/
def ofText (text : String) : Cursor := ⟨text.toList, 0, 0, 0⟩

/-- The `n`-th character that follows. -/
def get? (c : Cursor) (n : Nat) : Option Char := c.rest[n]?

/-- Whether `ch` follows as the `n`-th character. -/
def has (c : Cursor) (n : Nat) (ch : Char) : Bool := c.get? n == some ch

/-- Whether one of the characters `chars` follows as the `n`-th character. -/
def hasOneOf (c : Cursor) (n : Nat) (chars : String) : Bool := (c.get? n).any chars.toList.contains

/-- Whether a blank, a break or the end follows as the `n`-th character. -/
def blankAt (c : Cursor) (n : Nat) : Bool :=
  match c.get? n with
  | none => true
  | some ch => isBlank ch || isBreak ch

/-- Whether a break or the end follows. -/
def atLineEnd (c : Cursor) : Bool :=
  match c.rest with
  | [] => true
  | ch :: _ => isBreak ch

/-- The place after the next `n` characters of the line. -/
def skipMany (c : Cursor) (n : Nat) : Cursor :=
  ⟨c.rest.drop n, c.index + byteCount (c.rest.take n), c.line, c.column + n⟩

/-- The place after the next character. -/
def skip (c : Cursor) : Cursor := c.skipMany 1

/-- The place after the characters of the line that satisfy `p`. -/
def skipWhile (c : Cursor) (p : Char → Bool) : Cursor := c.skipMany (c.rest.takeWhile p).length

/-- The place after the next break, which is one character or a carriage return with its line
feed. -/
def skipBreak (c : Cursor) : Cursor :=
  let n := if c.has 0 '\r' ∧ c.has 1 '\n' then 2 else 1
  ⟨c.rest.drop n, c.index + byteCount (c.rest.take n), c.line + 1, 0⟩

/-- What the next break stands for: a line feed, or the Unicode separator that it is. -/
def breakText (c : Cursor) : List Char :=
  match c.rest with
  | '\u2028' :: _ => ['\u2028']
  | '\u2029' :: _ => ['\u2029']
  | _ => ['\n']

/-- The place after a break if one is next. -/
def skipLine (c : Cursor) : Cursor :=
  match c.rest with
  | [] => c
  | ch :: _ => if isBreak ch then c.skipBreak else c

/-- The place after the blanks and the comment of the rest of the line. -/
def skipComment (c : Cursor) : Cursor :=
  let c := c.skipWhile isBlank
  if c.has 0 '#' then c.skipWhile (!isBreak ·) else c

/-- Whether three dashes or three dots mark the start or the end of a document here. -/
def atMarker (c : Cursor) (ch : Char) : Bool :=
  c.column == 0 && c.has 0 ch && c.has 1 ch && c.has 2 ch && c.blankAt 3

/-- Whether a document starts or ends here. -/
def atAnyMarker (c : Cursor) : Bool := c.atMarker '-' || c.atMarker '.'

/-- Less text follows after some of it. -/
theorem drop_lt {c : Cursor} {ch : Char} {rest : List Char} {n : Nat} (h : c.rest = ch :: rest)
    (hn : 0 < n) : (c.rest.drop n).length < c.rest.length := by
  rw [List.length_drop, h, List.length_cons]
  omega

/-- Less text follows after the first of some characters. -/
theorem skipMany_lt {c : Cursor} {ch : Char} {rest : List Char} {n : Nat}
    (h : c.rest = ch :: rest) (hn : 0 < n) : (c.skipMany n).rest.length < c.rest.length :=
  drop_lt h hn

/-- Less text follows after a character. -/
theorem skip_lt {c : Cursor} {ch : Char} {rest : List Char} (h : c.rest = ch :: rest) :
    c.skip.rest.length < c.rest.length :=
  skipMany_lt h Nat.one_pos

/-- Less text follows after a break. -/
theorem skipBreak_lt {c : Cursor} {ch : Char} {rest : List Char} (h : c.rest = ch :: rest) :
    c.skipBreak.rest.length < c.rest.length :=
  drop_lt h (by split <;> decide)

end Cursor

end Throttle.Document
