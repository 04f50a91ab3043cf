import Throttle.Document.Layout
import Throttle.Table

/-!
# Nodes

A document holds one node at most: a scalar, a sequence, or a mapping, built of further nodes. A
node can be given a name, and then a reference elsewhere stands for it.

## Main definitions

* `Node`: a node
* `Node.named`, `Node.size`: the named nodes within a node, and the number of its parts
* `Document`: a document
* `Document.ofText?`: the document of a text
* `Document.resolve`: the node that a node stands for, which a reference names

## Main results

* `Document.resolve_eq_self`: a node that is no reference stands for itself
-/

namespace Throttle

namespace Document

/-- What can be said of a node before it. -/
structure Properties where
  anchor : Option Nat := none
  tag : Option Bytes := none
deriving DecidableEq, Repr

/-- A node of a document. -/
inductive Node where
  | scalar (properties : Properties) (style : Style) (text : String)
  | sequence (properties : Properties) (items : List Node)
  | mapping (properties : Properties) (fields : List (Node × Node))
  /-- The node whose name has the given number, which stands elsewhere. -/
  | reference (number : Nat)
deriving Repr

/-- The node that stands where there is none. -/
def Node.empty : Node := .scalar {} .plain ""

instance : Inhabited Node := ⟨.empty⟩

/-! ## Named nodes -/

mutual

/-- The named nodes within a node and their numbers, each before those within it. -/
def Node.named : Node → List (Nat × Node)
  | .scalar p style text => (p.anchor.map (·, .scalar p style text)).toList
  | .sequence p items => (p.anchor.map (·, .sequence p items)).toList ++ namedItems items
  | .mapping p fields => (p.anchor.map (·, .mapping p fields)).toList ++ namedFields fields
  | .reference _ => []

/-- The named nodes of a sequence. -/
def namedItems : List Node → List (Nat × Node)
  | [] => []
  | node :: rest => node.named ++ namedItems rest

/-- The named nodes of a mapping. -/
def namedFields : List (Node × Node) → List (Nat × Node)
  | [] => []
  | (key, value) :: rest => key.named ++ value.named ++ namedFields rest

end

/-! ## Sizes -/

mutual

/-- The number of parts in which a node is written. A scalar and a reference are one part, and a
collection has a start and an end beside its nodes. -/
def Node.size : Node → Nat
  | .scalar .. => 1
  | .sequence _ items => 2 + itemsSize items
  | .mapping _ fields => 2 + fieldsSize fields
  | .reference _ => 1

/-- The number of parts of the nodes of a sequence. -/
def itemsSize : List Node → Nat
  | [] => 0
  | node :: rest => node.size + itemsSize rest

/-- The number of parts of the nodes of a mapping. -/
def fieldsSize : List (Node × Node) → Nat
  | [] => 0
  | (key, value) :: rest => key.size + value.size + fieldsSize rest

end

/-! ## Reading -/

/-- What the reader of nodes knows. -/
structure Reader where
  rest : List Token
  numbers : Table Nat
  handles : Table Bytes

/-- A reading of tokens, which may fail. -/
abbrev Reading := StateT Reader Option

namespace Reading

/-- The next token, which is not read yet. -/
def peek : Reading (Option Token) := do return (← get).rest.head?

/-- The next token. -/
def next : Reading (Option Token) :=
  modifyGet fun r => (r.rest.head?, { r with rest := r.rest.tail })

/-- Whether one of the given tokens is next. -/
def nextIn (tokens : List Token) : Reading Bool := do return (← peek).any tokens.contains

/-- The number of a new name. It is the number of different names before. -/
def number (name : String) : Reading Nat :=
  modifyGet fun r =>
    (r.numbers.size, { r with numbers := r.numbers.insert name r.numbers.size })

/-- A tag in full. -/
def fullTag (tag : Tag) : Reading Bytes := do
  if tag.handle = "" then return tag.suffix
  let some expansion := (← get).handles.get? tag.handle | failure
  return expansion ++ tag.suffix

/-- The properties before a node: a name and a tag in either order, both optional. -/
def properties : Reading Properties := do
  match ← peek with
  | some (.anchor name) =>
    let _ ← next
    let number ← number name
    match ← peek with
    | some (.tag tag) =>
      let _ ← next
      return ⟨some number, some (← fullTag tag)⟩
    | _ => return ⟨some number, none⟩
  | some (.tag tag) =>
    let _ ← next
    let full ← fullTag tag
    match ← peek with
    | some (.anchor name) =>
      let _ ← next
      return ⟨some (← number name), some full⟩
    | _ => return ⟨none, some full⟩
  | _ => return {}

/-- A node of which there are only properties. -/
def absent (p : Properties) : Reading Node :=
  if p = {} then failure else return .scalar p .plain ""

mutual

/-- A node. A block collection starts only where `block` allows it. Where `dashes` allows it the
items of a sequence stand in the columns of the mapping around. -/
def node (block dashes : Bool) : Nat → Reading Node
  | 0 => failure
  | n + 1 => do
    if let some (.reference name) ← peek then
      let _ ← next
      let some number := (← get).numbers.get? name | failure
      return .reference number
    let p ← properties
    match ← peek with
    | some (.scalar style text) =>
      let _ ← next
      return .scalar p style text
    | some .flowSequence =>
      let _ ← next
      return .sequence p (← flowItems true n)
    | some .flowMapping =>
      let _ ← next
      return .mapping p (← flowFields true n)
    | some .blockSequence =>
      if block then
        let _ ← next
        return .sequence p (← blockItems n)
      else absent p
    | some .blockMapping =>
      if block then
        let _ ← next
        return .mapping p (← blockFields n)
      else absent p
    | some .item => if dashes then return .sequence p (← dashedItems n) else absent p
    | _ => absent p

/-- The items of a block sequence, to its end. -/
def blockItems : Nat → Reading (List Node)
  | 0 => failure
  | n + 1 => do
    match ← next with
    | some .blockEnd => return []
    | some .item =>
      let item ← if ← nextIn [.item, .blockEnd] then pure .empty else node true false n
      return item :: (← blockItems n)
    | _ => failure

/-- The items of a sequence whose dashes stand in the columns of the mapping around. -/
def dashedItems : Nat → Reading (List Node)
  | 0 => failure
  | n + 1 => do
    match ← peek with
    | some .item =>
      let _ ← next
      let item ←
        if ← nextIn [.item, .key, .value, .blockEnd] then pure .empty else node true false n
      return item :: (← dashedItems n)
    | _ => return []

/-- The fields of a block mapping, to its end. -/
def blockFields : Nat → Reading (List (Node × Node))
  | 0 => failure
  | n + 1 => do
    match ← next with
    | some .blockEnd => return []
    | some .key =>
      let stop := [.key, .value, .blockEnd]
      let key ← if ← nextIn stop then pure .empty else node true true n
      let value ← fieldValue stop true n
      return (key, value) :: (← blockFields n)
    | _ => failure

/-- The value of a field, which is empty if there is no colon or if one of the tokens `stop` comes
at once. -/
def fieldValue (stop : List Token) (block : Bool) : Nat → Reading Node
  | 0 => failure
  | n + 1 => do
    if (← peek) = some .value then
      let _ ← next
      if ← nextIn stop then return .empty else node block block n
    else return .empty

/-- The items of a bracketed sequence, to its end. Commas stand between them. -/
def flowItems (first : Bool) : Nat → Reading (List Node)
  | 0 => failure
  | n + 1 => do
    if (← peek) = some .flowSequenceEnd then
      let _ ← next
      return []
    if !first then
      if (← next) ≠ some .comma then failure
    match ← peek with
    | some .flowSequenceEnd =>
      let _ ← next
      return []
    | some .key =>
      let _ ← next
      let item ← pair n
      return item :: (← flowItems false n)
    | _ =>
      let item ← node false false n
      return item :: (← flowItems false n)

/-- A mapping of one field as an item of a bracketed sequence. A key that is left out leaves its
place to the next token. -/
def pair : Nat → Reading Node
  | 0 => failure
  | n + 1 => do
    let key ←
      if ← nextIn [.value, .comma, .flowSequenceEnd] then do
        let _ ← next
        pure .empty
      else node false false n
    let value ← fieldValue [.comma, .flowSequenceEnd] false n
    return .mapping {} [(key, value)]

/-- The fields of a bracketed mapping, to its end. Commas stand between them. -/
def flowFields (first : Bool) : Nat → Reading (List (Node × Node))
  | 0 => failure
  | n + 1 => do
    if (← peek) = some .flowMappingEnd then
      let _ ← next
      return []
    if !first then
      if (← next) ≠ some .comma then failure
    match ← peek with
    | some .flowMappingEnd =>
      let _ ← next
      return []
    | some .key =>
      let _ ← next
      let stop := [.value, .comma, .flowMappingEnd]
      let key ← if ← nextIn stop then pure .empty else node false false n
      let value ← fieldValue [.comma, .flowMappingEnd] false n
      return (key, value) :: (← flowFields false n)
    | _ =>
      let key ← node false false n
      return (key, .empty) :: (← flowFields false n)

end

/-! ## Documents -/

/-- The handles that every document has. -/
def commonHandles : Table Bytes :=
  ((∅ : Table Bytes).insert "!" (Bytes.ofText "!")).insert "!!" (Bytes.ofText "tag:yaml.org,2002:")

/-- The directives at the start of a document, each at most once. The version is 1.1 or 1.2. -/
def directives (versioned : Bool) (own : Table Bytes) : Nat → Reading (Table Bytes)
  | 0 => failure
  | n + 1 => do
    match ← peek with
    | some (.version major minor) =>
      let _ ← next
      if versioned ∨ major ≠ 1 ∨ (minor ≠ 1 ∧ minor ≠ 2) then failure
      directives true own n
    | some (.handle name expansion) =>
      let _ ← next
      if own.contains name then failure
      directives versioned (own.insert name expansion) n
    | _ => return own

/-- The node of a document that starts with directives or with a mark. -/
def explicit (n : Nat) : Reading Node := do
  let own ← directives false ∅ n
  let handles := own.entries.foldl (fun t e => t.insert e.1 e.2) commonHandles
  modify fun r => { r with handles := handles }
  if (← next) ≠ some .documentStart then failure
  match ← peek with
  | none | some (.version ..) | some (.handle ..) | some .documentStart | some .documentEnd =>
    return .empty
  | _ => node true false n

/-- The node of the only document of a text, if there is one. -/
def root (n : Nat) : Reading (Option Node) := do
  let root ← match ← peek with
    | none => pure none
    | some (.version ..) | some (.handle ..) | some .documentStart => some <$> explicit n
    | _ => some <$> node true false n
  if (← get).rest.all (· = .documentEnd) then return root else failure

end Reading

end Document

/-- A document, which holds one node at most. -/
structure Document where
  root : Option Document.Node
  /-- The named nodes and their numbers, the last to start first. -/
  named : List (Nat × Document.Node)

namespace Document

/-- The document that holds a node, or none. -/
def ofRoot (root : Option Node) : Document :=
  ⟨root, (root.toList.flatMap Node.named).reverse⟩

/-- The document of a sequence of tokens. A node takes up a token at least, or it is the last thing
that is read before a token. -/
def ofTokens? (tokens : List Token) : Option Document :=
  ((Reading.root (4 * tokens.length + 4)).run ⟨tokens, ∅, Reading.commonHandles⟩).map
    fun r => .ofRoot r.1

/-- The document of a text. -/
def ofText? (text : String) : Option Document := (tokens? text).bind ofTokens?

/-- The node of the given number. Of several it is the last. -/
def named? (d : Document) (number : Nat) : Option Node :=
  (d.named.find? fun e => e.1 = number).map Prod.snd

/-- The node that a node stands for, which a reference names. -/
def resolve (d : Document) (node : Node) : Option Node :=
  match node with
  | .reference number => d.named? number
  | node => some node

/-- A node that is no reference stands for itself. -/
theorem resolve_eq_self {d : Document} {node : Node} (h : ∀ number, node ≠ .reference number) :
    d.resolve node = some node := by
  cases node with
  | reference number => exact absurd rfl (h number)
  | _ => rfl

end Document

end Throttle
