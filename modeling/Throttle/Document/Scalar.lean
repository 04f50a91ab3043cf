import Throttle.Document.Cursor

/-!
# Scalars

A scalar is a text in a document. It is written plainly, between quotes, or as a block of lines.
Where a plain or quoted scalar goes over several lines, a single break stands for a blank, and of
several breaks the first is dropped.

## Main definitions

* `Gap`: blanks and breaks between the words of a scalar
* `singleQuoted?`, `doubleQuoted?`, `plain?`, `block?`: the scalar at a place, and the place after
  it
* `Chomping`: what is kept of the breaks at the end of a block

## Main results

* `Gap.text_line`, `Gap.text_lines`: what one break and what several breaks stand for
-/

namespace Throttle.Document

/-- Blanks and breaks between the words of a scalar. -/
structure Gap where
  /-- The blanks before the first break, the latest first. -/
  blanks : List Char
  /-- What the first break stands for. -/
  first : Option (List Char)
  more : List Char

namespace Gap

/-- No gap. -/
def none : Gap := ⟨[], .none, []⟩

/-- Whether the gap goes over a line's end. -/
def broken (g : Gap) : Bool := g.first.isSome

/-- Whether there is a gap. -/
def isGap (g : Gap) : Bool := g.broken || !g.blanks.isEmpty

/-- The gap with one more blank, which counts only within a line. -/
def blank (g : Gap) (ch : Char) : Gap := if g.broken then g else { g with blanks := ch :: g.blanks }

/-- The gap with one more break. -/
def lineBreak (g : Gap) (text : List Char) : Gap :=
  if g.broken then { g with more := g.more ++ text } else ⟨[], some text, []⟩

/-- The gap after a break that stands for nothing. -/
def escapedBreak : Gap := ⟨[], some [], []⟩

/-- What a gap stands for. -/
def text (g : Gap) : List Char :=
  match g.first with
  | .none => g.blanks.reverse
  | some ['\n'] => if g.more.isEmpty then [' '] else g.more
  | some first => first ++ g.more

/-- What is read, and the gap after it, the latest first. -/
def after (g : Gap) (read : List Char) : List Char := g.text.reverse ++ read

/-- A single break stands for a blank. -/
@[simp] theorem text_line (blanks : List Char) : text ⟨blanks, some ['\n'], []⟩ = [' '] := rfl

/-- Of several breaks the first is dropped. -/
theorem text_lines (blanks : List Char) (ch : Char) (more : List Char) :
    text ⟨blanks, some ['\n'], ch :: more⟩ = ch :: more := rfl

end Gap

/-! ## Quoted scalars -/

/-- The rest of a scalar between single quotes, where two quotes stand for one. What is read comes
latest first. -/
def singleQuoted? (c : Cursor) (gap : Gap) (read : List Char) : Option (List Char × Cursor) :=
  match _h : c.rest with
  | [] => none
  | ch :: _ =>
    if c.atAnyMarker then none
    else if isBlank ch then singleQuoted? c.skip (gap.blank ch) read
    else if isBreak ch then singleQuoted? c.skipBreak (gap.lineBreak c.breakText) read
    else if ch = '\'' then
      if c.has 1 '\'' then singleQuoted? (c.skipMany 2) .none ('\'' :: gap.after read)
      else some ((gap.after read).reverse, c.skip)
    else singleQuoted? c.skip .none (ch :: gap.after read)
termination_by c.rest.length
decreasing_by
  · exact Cursor.skip_lt ‹_›
  · exact Cursor.skipBreak_lt ‹_›
  · exact Cursor.skipMany_lt ‹_› (by decide)
  · exact Cursor.skip_lt ‹_›

/-- The value of a hexadecimal digit. -/
def hexDigit? (c : Char) : Option Nat :=
  if '0' ≤ c ∧ c ≤ '9' then some (c.toNat - '0'.toNat)
  else if 'a' ≤ c ∧ c ≤ 'f' then some (c.toNat - 'a'.toNat + 10)
  else if 'A' ≤ c ∧ c ≤ 'F' then some (c.toNat - 'A'.toNat + 10)
  else none

/-- The number of hexadecimal digits. -/
def hexValue? (digits : List Char) : Option Nat :=
  digits.foldl (fun n d => do return (← n) * 16 + (← hexDigit? d)) (some 0)

/-- The character of a code point. -/
def charOf? (n : Nat) : Option Char := if h : n.isValidChar then some (Char.ofNatAux n h) else none

/-- The character that an escape of the given length in hexadecimal digits stands for. -/
def hexEscape? (rest : List Char) (length : Nat) : Option Char :=
  if (rest.take length).length = length then (hexValue? (rest.take length)).bind charOf? else none

/-- The character that an escape stands for, and the length of the escape, given the text after the
backslash. -/
def escape? : List Char → Option (Char × Nat)
  | [] => none
  | c :: rest => match c with
    | '0' => some ('\x00', 2)
    | 'a' => some ('\x07', 2)
    | 'b' => some ('\x08', 2)
    | 't' => some ('\t', 2)
    | '\t' => some ('\t', 2)
    | 'n' => some ('\n', 2)
    | 'v' => some ('\x0b', 2)
    | 'f' => some ('\x0c', 2)
    | 'r' => some ('\r', 2)
    | 'e' => some ('\x1b', 2)
    | ' ' => some (' ', 2)
    | '"' => some ('"', 2)
    | '/' => some ('/', 2)
    | '\\' => some ('\\', 2)
    | 'N' => some ('\u0085', 2)
    | '_' => some ('\u00a0', 2)
    | 'L' => some ('\u2028', 2)
    | 'P' => some ('\u2029', 2)
    | 'x' => (hexEscape? rest 2).map (·, 4)
    | 'u' => (hexEscape? rest 4).map (·, 6)
    | 'U' => (hexEscape? rest 8).map (·, 10)
    | _ => none

/-- The rest of a scalar between double quotes. A backslash starts an escape; before a break it
joins the lines. What is read comes latest first. -/
def doubleQuoted? (c : Cursor) (gap : Gap) (read : List Char) : Option (List Char × Cursor) :=
  match _h : c.rest with
  | [] => none
  | ch :: rest =>
    if c.atAnyMarker then none
    else if isBlank ch then doubleQuoted? c.skip (gap.blank ch) read
    else if isBreak ch then doubleQuoted? c.skipBreak (gap.lineBreak c.breakText) read
    else if ch = '"' then some ((gap.after read).reverse, c.skip)
    else if ch = '\\' then
      match rest with
      | [] => none
      | next :: _ =>
        if isBreak next then
          doubleQuoted? c.skip.skipBreak .escapedBreak (gap.after read)
        else match escape? rest with
          | none => none
          | some (value, length) =>
            doubleQuoted? (c.skipMany (max length 1)) .none (value :: gap.after read)
    else doubleQuoted? c.skip .none (ch :: gap.after read)
termination_by c.rest.length
decreasing_by
  · exact Cursor.skip_lt ‹_›
  · exact Cursor.skipBreak_lt ‹_›
  · have hskip : c.skip.rest = next :: c.skip.rest.tail := by
      simp [Cursor.skip, Cursor.skipMany, ‹c.rest = _›]
    exact Nat.lt_trans (Cursor.skipBreak_lt hskip) (Cursor.skip_lt ‹_›)
  · exact Cursor.skipMany_lt ‹_› (by omega)
  · exact Cursor.skip_lt ‹_›

/-! ## Plain scalars -/

/-- The rest of a plain scalar. A colon before a blank ends it, and so does a comment. Within
brackets a comma or a bracket ends it; elsewhere a line does that starts left of `margin`. What is
read comes latest first. Beside the text comes whether a line has ended after it. -/
def plain? (flow : Bool) (margin : Nat) (c : Cursor) (gap : Gap) (read : List Char) :
    Option (List Char × Bool × Cursor) :=
  match _h : c.rest with
  | [] => some (read.reverse, gap.broken, c)
  | ch :: _ =>
    if isBlank ch then
      if gap.broken ∧ ch = '\t' ∧ c.column < margin then none
      else plain? flow margin c.skip (gap.blank ch) read
    else if isBreak ch then plain? flow margin c.skipBreak (gap.lineBreak c.breakText) read
    else if gap.isGap ∧ (ch = '#' ∨ c.atAnyMarker ∨ (!flow ∧ c.column < margin)) then
      some (read.reverse, gap.broken, c)
    else if flow ∧ ch = ':' ∧ c.hasOneOf 1 ",?[]\x7b\x7d" then none
    else if (ch = ':' ∧ c.blankAt 1) ∨ (flow ∧ c.hasOneOf 0 ",[]\x7b\x7d") then
      some (read.reverse, gap.broken, c)
    else plain? flow margin c.skip .none (ch :: gap.after read)
termination_by c.rest.length
decreasing_by
  · exact Cursor.skip_lt ‹_›
  · exact Cursor.skipBreak_lt ‹_›
  · exact Cursor.skip_lt ‹_›

/-! ## Block scalars -/

/-- What is kept of the breaks at the end of a block. -/
inductive Chomping where
  | strip
  /-- The break of the last line. -/
  | clip
  /-- Every break. -/
  | keep
deriving DecidableEq, Repr

namespace Chomping

/-- The chomping of an indicator. -/
def ofChar? : Char → Option Chomping
  | '-' => some strip
  | '+' => some keep
  | _ => none

/-- What is kept of the last line's break and of the breaks after it. -/
def apply (k : Chomping) (last more : List Char) : List Char :=
  match k with
  | strip => []
  | clip => last
  | keep => last ++ more

end Chomping

/-- The header of a block, after the character that starts it: a digit for the indentation and a
sign for the chomping, in either order, both optional, and nothing more than a comment in the
line. -/
def blockHeader? (c : Cursor) : Option (Option Nat × Chomping × Cursor) := do
  let sign (c : Cursor) : Option Chomping × Cursor :=
    match (c.get? 0).bind Chomping.ofChar? with
    | some k => (some k, c.skip)
    | none => (none, c)
  let (before, c) := sign c
  let (indent, c) ← match (c.get? 0).filter Char.isDigit with
    | some '0' => none
    | some d => some (some (d.toNat - '0'.toNat), c.skip)
    | none => some (none, c)
  let (chomping, c) := match before with
    | some k => (some k, c)
    | none => sign c
  let c := c.skipComment
  if c.atLineEnd then some (indent, chomping.getD .clip, c.skipLine) else none

/-- The place after the indentation of the next line that is not empty, with the indentation and
what the breaks before stand for. Without a given indentation it is that of the deepest line so
far, and at least `least`; a tab is no indentation. -/
def indentation? (indent : Option Nat) (least : Nat) (c : Cursor) (breaks : List Char) :
    Option (Nat × List Char × Cursor) :=
  let inside := indent.all (c.column < ·)
  let least' := max least c.column
  match _h : c.rest with
  | [] => some (indent.getD least', breaks, c)
  | ch :: _ =>
    if inside ∧ ch = ' ' then indentation? indent least c.skip breaks
    else if inside ∧ ch = '\t' then none
    else if isBreak ch then indentation? indent least' c.skipBreak (breaks ++ c.breakText)
    else some (indent.getD least', breaks, c)
termination_by c.rest.length
decreasing_by
  · exact Cursor.skip_lt ‹_›
  · exact Cursor.skipBreak_lt ‹_›

/-- The rest of a block whose lines are indented by `indent`; fewer than `n` lines may follow.
Before the next line stand the break of the last one, `last`, and further breaks, `more`; `blank`
says whether the last line started with a blank. In a folded block the break between two lines that
start without a blank is folded. What is read comes latest first. -/
def blockLines? (folded : Bool) (chomping : Chomping) (indent : Nat) : (n : Nat) → (c : Cursor) →
    (last more : List Char) → (blank : Bool) → (read : List Char) → Option (List Char × Cursor)
  | 0, _, _, _, _, _ => none
  | n + 1, c, last, more, blank, read =>
    if c.column = indent ∧ !c.rest.isEmpty then do
      let starts := (c.get? 0).any isBlank
      let joint :=
        if folded ∧ last = ['\n'] ∧ !blank ∧ !starts then
          if more.isEmpty then [' '] else more
        else last ++ more
      let line := c.rest.takeWhile (!isBreak ·)
      let e := c.skipMany line.length
      let (_, breaks, next) ← indentation? (some indent) indent e.skipLine []
      blockLines? folded chomping indent n next (if e.rest.isEmpty then [] else e.breakText) breaks
        starts (line.reverse ++ (joint.reverse ++ read))
    else some (read.reverse ++ chomping.apply last more, c)

/-- A block after the character that starts it, within a collection whose content starts at column
`margin`. A line takes up a character at least. -/
def block? (folded : Bool) (margin : Nat) (c : Cursor) : Option (List Char × Cursor) := do
  let (indent, chomping, c) ← blockHeader? c
  let (indent, breaks, c) ←
    indentation? (indent.map (margin - 1 + ·)) (max margin 1) c []
  blockLines? folded chomping indent (c.rest.length + 1) c [] breaks false []

end Throttle.Document
