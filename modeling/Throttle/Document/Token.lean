/-!
# Tokens of a document

A document is a sequence of tokens: its scalars, the marks of its collections, and the names and
tags of its nodes. The indentation of a text is gone; where a block collection starts and ends there
is a token.

## Main definitions

* `Style`: how a scalar is written
* `Bytes`: what a tag is made of
* `Tag`: a tag as it is written, with its handle
* `Token`: a token
-/

namespace Throttle.Document

/-- How a scalar is written. -/
inductive Style where
  | plain
  | quoted
  /-- As a block that keeps its line breaks. -/
  | literal
  /-- As a block that folds its line breaks. -/
  | folded
deriving DecidableEq, Repr

/-- Bytes. A tag is made of them, because an escape writes a single byte, and what the escapes write
need not be a text. -/
abbrev Bytes := List UInt8

/-- The bytes of a text. -/
def Bytes.ofText (text : String) : Bytes := text.toUTF8.data.toList

/-- The text that bytes encode, if they do. -/
def Bytes.text? (bytes : Bytes) : Option String := String.fromUTF8? ⟨bytes.toArray⟩

/-- A tag as it is written: a handle, which stands for the start of the tag, and the rest. -/
structure Tag where
  /-- The handle; a tag that is written in full has none. -/
  handle : String
  suffix : Bytes
deriving DecidableEq, Repr

/-- A token. -/
inductive Token where
  /-- The directive that states the version of the language. -/
  | version (major minor : Nat)
  /-- The directive that says what a handle stands for. -/
  | handle (name : String) (expansion : Bytes)
  | documentStart
  | documentEnd
  | blockSequence
  | blockMapping
  | blockEnd
  | flowSequence
  | flowSequenceEnd
  | flowMapping
  | flowMappingEnd
  /-- The dash before an item of a block sequence. -/
  | item
  /-- The comma between the entries of a bracketed collection. -/
  | comma
  | key
  | value
  /-- A reference to the node of a name. -/
  | reference (name : String)
  | anchor (name : String)
  | tag (tag : Tag)
  | scalar (style : Style) (text : String)
deriving DecidableEq, Repr

end Throttle.Document
