import Throttle.Decimal.Numeral
import Throttle.Document.Node
import Throttle.Policy.Config

/-!
# Configurations as text

A configuration is written as a document: a mapping with the settings of the store and the
policies. Fields that are not known are skipped, and a field is given once at most. What has a
default may be left out.

## Main definitions

* `Document.Decoding`: a decoding of nodes, which follows a limited number of references
* `Document.text?`, `Document.natural?`, `Document.optional?`, `Document.choice?`: values of fields
* `LimiterConfig.ofDocument?`: the configuration of a document
* `LimiterConfig.ofText`: the valid configuration of a text
* `LimiterConfig.ofBytes`: the valid configuration of a file's bytes

## Main results

* `LimiterConfig.validate_of_ofText`: a configuration that is read is valid
-/

namespace Throttle

namespace Document

/-- The words for the absence of a value. -/
def isNullWord (text : String) : Bool := ["~", "null", "Null", "NULL"].contains text

/-- The tag of whole numbers. -/
def intTag : Bytes := .ofText "tag:yaml.org,2002:int"

/-- The tag of absent values. -/
def nullTag : Bytes := .ofText "tag:yaml.org,2002:null"

/-! ## References -/

/-- A decoding of nodes, which may fail. Its state is the number of references that it may still
follow. -/
abbrev Decoding := StateT Nat Option

/-- The node that a node stands for. -/
def follow (d : Document) (node : Node) : Decoding Node := do
  if let .reference _ := node then
    let n + 1 ← get | failure
    set n
  d.resolve node

/-- What is decoded of a node. References repeat what they stand for; to keep this in proportion a
hundred of them are followed for each part of the node, and no more. -/
def decode? {β : Type} (read : Node → Decoding β) (node : Node) : Option β :=
  ((read node).run (100 * node.size)).map Prod.fst

/-! ## Values -/

/-- The text of a scalar, however it is written. -/
def text? (d : Document) (node : Node) : Decoding String := do
  match ← d.follow node with
  | .scalar _ _ text => return text
  | _ => failure

/-- The number that digits of a base stand for; there must be at least one. -/
def digitsOf? (base : Nat) (digits : List Char) : Option Nat :=
  if digits.isEmpty then none
  else digits.foldl (fun n d => do
    let value ← hexDigit? d
    if value < base then return (← n) * base + value else none) (some 0)

/-- The 64-bit number of a text: an optional plus sign, a mark of the base, and digits. A decimal
number has no leading zero. -/
def naturalOfText? (text : String) : Option Nat :=
  let unsigned := match text.toList with
    | '+' :: rest => rest
    | rest => rest
  let value := match unsigned with
    | '0' :: 'x' :: digits => digitsOf? 16 digits
    | '0' :: 'o' :: digits => digitsOf? 8 digits
    | '0' :: 'b' :: digits => digitsOf? 2 digits
    | '0' :: _ :: _ => none
    | digits => digitsOf? 10 digits
  value.filter (· < 2 ^ 64)

/-- The number of a scalar that is not quoted. A literal block counts if its tag is that of whole
numbers. -/
def natural? (d : Document) (node : Node) : Decoding Nat := do
  match ← d.follow node with
  | .scalar _ .plain text => naturalOfText? text
  | .scalar p .literal text => if p.tag = some intTag then naturalOfText? text else failure
  | _ => failure

/-- A value that may be absent. A plain scalar stands for its absence if it is empty or a word for
it; with the tag of absent values it must be a word for it, and with another tag it is a value. -/
def optional? {β : Type} (d : Document) (read : Node → Decoding β) (node : Node) :
    Decoding (Option β) := do
  let node ← d.follow node
  match node with
  | .scalar p .plain text =>
    if p.tag = some nullTag then if isNullWord text then return none else failure
    else if p.tag.isNone ∧ (text = "" ∨ isNullWord text) then return none
    else some <$> read node
  | _ => some <$> read node

/-- The name that a tag gives to an absent value: the text after an exclamation mark. -/
def nameOfTag? : Bytes → Option String
  | 0x21 :: name => Bytes.text? name
  | _ => none

/-- One of some named values: a scalar with the name, or an absent value with the name as its
tag. -/
def choice? {β : Type} (d : Document) (ofName? : String → Option β) (node : Node) :
    Decoding β := do
  match ← d.follow node with
  | .scalar p style text =>
    match p.tag.bind nameOfTag? with
    | some name => if style = .plain ∧ (text = "" ∨ isNullWord text) then ofName? name else failure
    | none => ofName? text
  | _ => failure

/-! ## Collections -/

/-- The items of a sequence; an empty plain scalar has none. -/
def items? (d : Document) (node : Node) : Decoding (List Node) := do
  match ← d.follow node with
  | .sequence _ items => return items
  | .scalar _ .plain "" => return []
  | _ => failure

/-- The fields of a mapping, whose keys are scalars; an empty plain scalar has none. -/
def fields? (d : Document) (node : Node) : Decoding (List (String × Node)) := do
  match ← d.follow node with
  | .mapping _ fields => fields.mapM fun f => return (← d.text? f.1, f.2)
  | .scalar _ .plain "" => return []
  | _ => failure

/-- The value of a field that is given at most once, if it is given. -/
def field? {β : Type} (fields : List (String × Node)) (name : String)
    (read : Node → Decoding β) : Decoding (Option β) :=
  match fields.filter fun f => f.1 = name with
  | [] => return none
  | [f] => some <$> read f.2
  | _ => failure

end Document

open Document

/-- The settings of the store that a node holds. -/
def StoreSettings.ofNode? (d : Document) (node : Node) : Decoding StoreSettings := do
  let fields ← d.fields? node
  let url ← field? fields "redis_url" (d.optional? d.text?)
  let timeout ← field? fields "command_timeout_ms" (d.optional? d.natural?)
  let grace ← field? fields "key_ttl_grace_secs" d.natural?
  return ⟨url.join, timeout.join, grace.getD 60⟩

/-- The policy that a node holds. It has a name, an algorithm and a limit. -/
def PolicyConfig.ofNode? (d : Document) (node : Node) : Decoding PolicyConfig := do
  let fields ← d.fields? node
  let name ← (← field? fields "name" d.text?)
  let algorithm ← (← field? fields "algorithm" (d.choice? Algorithm.ofName?))
  let backend ← field? fields "backend" (d.choice? Backend.ofName?)
  let limit ← (← field? fields "limit" d.natural?)
  let burst ← field? fields "burst" d.natural?
  let window ← field? fields "window_ms" d.natural?
  return ⟨name, algorithm, backend.getD .inProcess, limit, burst.getD 0, window.getD 1000⟩

namespace LimiterConfig

/-- The configuration that a node holds. -/
def ofNode? (d : Document) (node : Node) : Decoding LimiterConfig := do
  let fields ← d.fields? node
  let store ← field? fields "store" (StoreSettings.ofNode? d)
  let policies ← field? fields "policies" fun node => do
    (← d.items? node).mapM (PolicyConfig.ofNode? d)
  return ⟨store.getD {}, policies.getD []⟩

/-- The configuration of a document. A document without a node has the default settings and no
policies. -/
def ofDocument? (d : Document) : Option LimiterConfig :=
  match d.root with
  | none => some {}
  | some node => decode? (ofNode? d) node

/-- The valid configuration of a text. -/
def ofText (text : String) : Except LimiterError LimiterConfig :=
  match (Document.ofText? text).bind ofDocument? with
  | none => .error (.config .unreadable)
  | some config => config.validate.map fun _ => config

/-- The valid configuration of a file's bytes. -/
def ofBytes (bytes : ByteArray) : Except LimiterError LimiterConfig :=
  match String.fromUTF8? bytes with
  | none => .error (.file .notText)
  | some text => ofText text

/-- A configuration that is read is valid. -/
theorem validate_of_ofText {text : String} {config : LimiterConfig}
    (h : ofText text = .ok config) : config.validate = .ok () := by
  unfold ofText at h
  split at h
  · cases h
  · rename_i c _
    cases hv : c.validate with
    | error e => simp [hv, Except.map] at h
    | ok u =>
      simp [hv, Except.map] at h
      exact h ▸ hv

end LimiterConfig

end Throttle
