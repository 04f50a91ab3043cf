import Throttle.Document.Tag

/-!
# The layout of a document

In a block collection the columns of a text say what belongs together, and a key is known to be one
only when its colon is read. The layout turns a text into tokens. It keeps the columns of the open
block collections, and for each open collection the place where a key may have begun; at the colon
the token of the key is put there.

## Main definitions

* `KeyStart`: a place where a key may have begun
* `Layout`: the tokens so far and what their reader knows
* `Layout.token?`: the next token
* `tokens?`: the tokens of a text

## Main results

* `Layout.pairwise_openBlock`, `Layout.pairwise_closeBlocks`: each open block collection stands
  right of those around it
-/

namespace Throttle.Document

/-- A place where a key may have begun. -/
structure KeyStart where
  /-- The number of tokens before the key. -/
  tokens : Nat
  required : Bool
  place : Cursor

/-- Whether a key that began there cannot end at `c`: it fits in a line and has at most 1024
bytes. -/
def KeyStart.isPast (k : KeyStart) (c : Cursor) : Bool :=
  k.place.line < c.line || k.place.index + 1024 < c.index

/-- The tokens so far and what their reader knows. -/
structure Layout where
  cursor : Cursor
  tokens : Array Token
  /-- The columns of the open block collections, the innermost first. -/
  columns : List Nat
  keyAllowed : Bool
  /-- Where a key may have begun in the innermost collection. -/
  key : Option KeyStart
  /-- The same for the collections around, one for each open bracket, the innermost first. -/
  outer : List (Option KeyStart)

namespace Layout

/-- The layout at the start of a text. -/
def ofText (text : String) : Layout := ⟨.ofText text, #[], [], true, none, []⟩

/-- Whether a bracket is open. -/
def flow (l : Layout) : Bool := !l.outer.isEmpty

/-- The column at which the content of the innermost block collection may start. -/
def margin (l : Layout) : Nat :=
  match l.columns with
  | [] => 0
  | column :: _ => column + 1

/-- The layout with one more token, which ends at `c`. -/
def push (l : Layout) (token : Token) (c : Cursor) : Layout :=
  { l with tokens := l.tokens.push token, cursor := c }

/-! ## Block collections -/

/-- A block collection starts at a column, if that is right of those around it; its token becomes
the `n`-th. -/
def openBlock (l : Layout) (token : Token) (column n : Nat) : Layout :=
  if !l.flow ∧ l.margin ≤ column then
    { l with columns := column :: l.columns, tokens := l.tokens.insertIdxIfInBounds n token }
  else l

/-- Every block collection ends that starts right of `column`. -/
def closeBlocks (l : Layout) (column : Nat) : Layout :=
  if l.flow then l
  else
    let ended := l.columns.takeWhile (column < ·)
    { l with
      columns := l.columns.drop ended.length
      tokens := l.tokens ++ (ended.map fun _ => .blockEnd).toArray }

/-- Every block collection ends. -/
def closeAllBlocks (l : Layout) : Layout :=
  if l.flow then l
  else
    { l with
      columns := []
      tokens := l.tokens ++ (l.columns.map fun _ => .blockEnd).toArray }

/-- A collection that starts stands right of those around it. -/
theorem pairwise_openBlock {l : Layout} (h : l.columns.Pairwise (· > ·)) (token : Token)
    (column n : Nat) : (l.openBlock token column n).columns.Pairwise (· > ·) := by
  unfold openBlock
  split
  · rename_i inside
    refine List.pairwise_cons.2 ⟨fun c hc => ?_, h⟩
    cases hl : l.columns with
    | nil => simp [hl] at hc
    | cons innermost outer =>
      have hm := inside.2
      rw [hl] at h hc
      rw [margin, hl] at hm
      rcases List.mem_cons.1 hc with rfl | hc
      · exact hm
      · exact Nat.lt_trans ((List.pairwise_cons.1 h).1 c hc) hm
  · exact h

/-- Collections that end leave the others as they are. -/
theorem pairwise_closeBlocks {l : Layout} (h : l.columns.Pairwise (· > ·)) (column : Nat) :
    (l.closeBlocks column).columns.Pairwise (· > ·) := by
  unfold closeBlocks
  split
  · exact h
  · exact h.sublist (List.drop_sublist ..)

/-! ## Keys -/

/-- A key did not begin where it may have. It is an error if it had to. -/
def dropKey? (l : Layout) : Option Layout :=
  if l.key.any KeyStart.required then none else some { l with key := none }

/-- A key may begin here, if keys are allowed. It must, if the block collection around starts at
this column. -/
def markKey? (l : Layout) : Option Layout :=
  if l.keyAllowed then do
    let l ← l.dropKey?
    let required := !l.flow && l.columns.head? == some l.cursor.column
    return { l with key := some ⟨l.tokens.size, required, l.cursor⟩ }
  else some l

/-- The place where a key may have begun, unless it is past. It is an error if it had to begin
there. -/
def recent? (c : Cursor) : Option KeyStart → Option (Option KeyStart)
  | none => some none
  | some k =>
    if k.isPast c then if k.required then none else some none
    else some (some k)

/-- Places that are past are dropped. -/
def dropPast? (l : Layout) : Option Layout := do
  let key ← recent? l.cursor l.key
  let outer ← l.outer.mapM (recent? l.cursor)
  return { l with key := key, outer := outer }

/-! ## Blanks and comments -/

/-- The layout at the next token. A tab counts as a blank unless it could be taken for indentation.
In a new line keys are allowed, except within brackets. -/
def skipBlanks (l : Layout) : Layout :=
  match _h : l.cursor.rest with
  | [] => l
  | ch :: _ =>
    if ch = '\uFEFF' ∧ l.cursor.column = 0 then skipBlanks { l with cursor := l.cursor.skip }
    else if ch = ' ' ∨ (ch = '\t' ∧ (l.flow ∨ !l.keyAllowed)) then
      skipBlanks { l with cursor := l.cursor.skip }
    else if isBreak ch then
      skipBlanks { l with cursor := l.cursor.skipBreak, keyAllowed := l.keyAllowed || !l.flow }
    else if ch = '#' then
      skipBlanks { l with cursor := l.cursor.skip.skipWhile (!isBreak ·) }
    else l
termination_by l.cursor.rest.length
decreasing_by
  · exact Cursor.skip_lt ‹_›
  · exact Cursor.skip_lt ‹_›
  · exact Cursor.skipBreak_lt ‹_›
  · exact Nat.lt_of_le_of_lt (by simp [Cursor.skipWhile, Cursor.skipMany]) (Cursor.skip_lt ‹_›)

/-! ## Tokens -/

/-- A mark of the start or the end of a document; it ends all block collections. -/
def marker? (l : Layout) (token : Token) : Option Layout := do
  let l ← l.closeAllBlocks.dropKey?
  return { l.push token (l.cursor.skipMany 3) with keyAllowed := false }

/-- A directive. -/
def directive? (l : Layout) : Option Layout := do
  let l ← l.closeAllBlocks.dropKey?
  let (token, c) ← Document.directive? l.cursor
  return { l.push token c with keyAllowed := false }

/-- An opening bracket, with which a key may begin. -/
def openFlow? (l : Layout) (token : Token) : Option Layout := do
  let l ← l.markKey?
  return { l.push token l.cursor.skip with
    outer := l.key :: l.outer
    key := none
    keyAllowed := true }

/-- A closing bracket. -/
def closeFlow? (l : Layout) (token : Token) : Option Layout := do
  let l ← l.dropKey?
  return { l.push token l.cursor.skip with
    key := l.outer.head?.join
    outer := l.outer.tail
    keyAllowed := false }

/-- A comma. -/
def comma? (l : Layout) : Option Layout := do
  let l ← l.dropKey?
  return { l.push .comma l.cursor.skip with keyAllowed := true }

/-- The dash of an item. Its sequence may start with it. -/
def item? (l : Layout) : Option Layout := do
  if !l.flow ∧ !l.keyAllowed then none
  let l ← (l.openBlock .blockSequence l.cursor.column l.tokens.size).dropKey?
  return { l.push .item l.cursor.skip with keyAllowed := true }

/-- The question mark of a key. Its mapping may start with it. -/
def key? (l : Layout) : Option Layout := do
  if !l.flow ∧ !l.keyAllowed then none
  let l ← (l.openBlock .blockMapping l.cursor.column l.tokens.size).dropKey?
  return { l.push .key l.cursor.skip with keyAllowed := !l.flow }

/-- The colon of a value. If a key may have begun, it has, and its mapping may start with it. -/
def value? (l : Layout) : Option Layout :=
  match l.key with
  | some k =>
    let l := { l with tokens := l.tokens.insertIdxIfInBounds k.tokens .key }
    let l := l.openBlock .blockMapping k.place.column k.tokens
    some { l.push .value l.cursor.skip with key := none, keyAllowed := false }
  | none =>
    if !l.flow ∧ !l.keyAllowed then none
    else
      let l := l.openBlock .blockMapping l.cursor.column l.tokens.size
      some { l.push .value l.cursor.skip with keyAllowed := !l.flow }

/-- A token with which a key may begin, and which is read from the place of the layout. -/
def keyToken? (l : Layout) (read : Cursor → Option (Token × Cursor)) : Option Layout := do
  let l ← l.markKey?
  let (token, c) ← read l.cursor
  return { l.push token c with keyAllowed := false }

/-- A plain scalar. If it ends with its line, a key may begin after it. -/
def plain? (l : Layout) : Option Layout := do
  let l ← l.markKey?
  let (text, broken, c) ← Document.plain? l.flow l.margin l.cursor .none []
  return { l.push (.scalar .plain (String.ofList text)) c with keyAllowed := broken }

/-- A block scalar, after which a key may begin. -/
def block? (l : Layout) (style : Style) : Option Layout := do
  let l ← l.dropKey?
  let (text, c) ← Document.block? (style == .folded) l.margin l.cursor.skip
  return { l.push (.scalar style (String.ofList text)) c with keyAllowed := true }

/-- Whether a plain scalar may start here. -/
def startsPlain (l : Layout) : Bool :=
  let c := l.cursor
  !(c.blankAt 0 || c.hasOneOf 0 "-?:,[]\x7b\x7d#&*!|>'\"%@\x60")
    || (c.has 0 '-' && !c.blankAt 1)
    || (!l.flow && c.hasOneOf 0 "?:" && !c.blankAt 1)

/-- The layout after the token that starts with `ch`, the character at its place. -/
def token? (l : Layout) (ch : Char) : Option Layout :=
  let c := l.cursor
  let named (make : String → Token) (c : Cursor) : Option (Token × Cursor) :=
    (name? c.skip).map fun (name, c) => (make name, c)
  let quoted (read : Cursor → Gap → List Char → Option (List Char × Cursor)) (c : Cursor) :
      Option (Token × Cursor) :=
    (read c.skip .none []).map fun (text, c) => (.scalar .quoted (String.ofList text), c)
  if ch = '%' ∧ c.column = 0 then l.directive?
  else if c.atMarker '-' then l.marker? .documentStart
  else if c.atMarker '.' then l.marker? .documentEnd
  else if ch = '[' then l.openFlow? .flowSequence
  else if ch = '\x7b' then l.openFlow? .flowMapping
  else if ch = ']' then l.closeFlow? .flowSequenceEnd
  else if ch = '\x7d' then l.closeFlow? .flowMappingEnd
  else if ch = ',' then l.comma?
  else if ch = '-' ∧ c.blankAt 1 then l.item?
  else if ch = '?' ∧ (l.flow ∨ c.blankAt 1) then l.key?
  else if ch = ':' ∧ (l.flow ∨ c.blankAt 1) then l.value?
  else if ch = '*' then l.keyToken? (named .reference)
  else if ch = '&' then l.keyToken? (named .anchor)
  else if ch = '!' then l.keyToken? fun c => (tag? l.flow c).map fun (tag, c) => (.tag tag, c)
  else if ch = '|' ∧ !l.flow then l.block? .literal
  else if ch = '>' ∧ !l.flow then l.block? .folded
  else if ch = '\'' then l.keyToken? (quoted singleQuoted?)
  else if ch = '"' then l.keyToken? (quoted doubleQuoted?)
  else if l.startsPlain then l.plain?
  else none

/-- The tokens of a layout and of the text that follows it. Fewer than `n` tokens may follow, not
counting those that the columns imply. -/
def tokens? : Nat → Layout → Option (List Token)
  | 0, _ => none
  | n + 1, l => do
    let l ← l.skipBlanks.dropPast?
    match l.cursor.rest with
    | [] => return (← l.closeAllBlocks.dropKey?).tokens.toList
    | ch :: _ => tokens? n (← (l.closeBlocks l.cursor.column).token? ch)

end Layout

/-- The tokens of a text, all of whose characters must be printable. A token takes up a character at
least. -/
def tokens? (text : String) : Option (List Token) :=
  if text.toList.all isPrintable then (Layout.ofText text).tokens? (text.length + 1) else none

end Throttle.Document
