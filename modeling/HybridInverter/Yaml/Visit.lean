import HybridInverter.BinaryFloat
import HybridInverter.Yaml.Node

/-!
Reading a document through its aliases. A plain scalar stands for null, a truth value, a whole
number, a decimal or a text; a scalar in quotes is a text, unless a tag says otherwise. How many
aliases are followed is limited by the weight of the document, so that a short text does not come to a
long one, and what is read whole must not be too deep, so that a node that holds itself is refused.
-/
namespace HybridInverter

namespace Yaml

inductive Value where
  | null
  | bool (b : Bool)
  | natural (n : Nat)
  /-- A number behind a minus sign, which may be zero. -/
  | negative (n : Nat)
  /-- Which decimal it is does not matter here. -/
  | decimal
  | text (s : String)
  deriving DecidableEq, Repr

namespace Scalar

def isNull (cs : List Char) : Bool :=
  ["null", "Null", "NULL", "~"].contains (String.ofList cs)

def bool? (cs : List Char) : Option Bool :=
  if ["true", "True", "TRUE"].contains (String.ofList cs) then some true
  else if ["false", "False", "FALSE"].contains (String.ofList cs) then some false
  else none

def ofDigits (base limit : Nat) (cs : List Char) : Option Nat := do
  if cs.isEmpty then none
  else
    let n ← cs.foldlM (fun n c => do
      let d ← Numeral.hexDigit? c
      if d < base then some (n * base + d) else none) 0
    if n ≤ limit then some n else none

def dropSign (sign : Char) (cs : List Char) : List Char :=
  if cs.head? = some sign then cs.drop 1 else cs

def isSigned (cs : List Char) : Bool :=
  cs.head? == some '+' || cs.head? == some '-'

/-- Digits behind a zero are a text. -/
def isPadded (cs : List Char) : Bool :=
  match if isSigned cs then cs.drop 1 else cs with
  | '0' :: rest => !rest.isEmpty && rest.all Char.isDigit
  | _ => false

/-- The base that the beginning of a number says, and the digits behind it. -/
def based? : List Char → Option (Nat × List Char)
  | '0' :: 'x' :: rest => some (16, rest)
  | '0' :: 'o' :: rest => some (8, rest)
  | '0' :: 'b' :: rest => some (2, rest)
  | _ => none

def nat? (limit : Nat) (cs : List Char) : Option Nat :=
  let bare := dropSign '+' cs
  match based? bare with
  | some (base, digits) => ofDigits base limit digits
  | none => if isPadded cs then none else ofDigits 10 limit bare

def negative? (limit : Nat) : List Char → Option Nat
  | '-' :: rest =>
    match based? rest with
    | some (base, digits) => ofDigits base limit digits
    | none => if isPadded rest then none else ofDigits 10 limit rest
  | _ => none

def number? (natLimit negativeLimit : Nat) (cs : List Char) : Option Value :=
  match nat? natLimit cs with
  | some n => some (.natural n)
  | none => (negative? negativeLimit cs).map .negative

/-- Whole numbers within 64 bits, and those that only 128 bits hold. -/
def narrow? (cs : List Char) : Option Value := number? (Numeral.unsigned 64) (Nat.pow 2 63) cs
def wide? (cs : List Char) : Option Value := number? (Numeral.unsigned 128) (Nat.pow 2 127) cs

def infinities : List String :=
  [".inf", ".Inf", ".INF", "+.inf", "+.Inf", "+.INF", "-.inf", "-.Inf", "-.INF"]

def isDecimal (cs : List Char) : Bool :=
  let bare := dropSign '+' cs
  if cs.head? == some '+' && isSigned bare then false
  else if infinities.contains (String.ofList cs) then true
  else if [".nan", ".NaN", ".NAN"].contains (String.ofList cs) then true
  else
    match BinaryFloat.read .double bare with
    | some (.finite ..) => true
    | _ => false

/-- What a plain scalar stands for; numbers beyond 64 bits stand for nothing. -/
def plain? (cs : List Char) : Option Value :=
  if cs.isEmpty || isNull cs then some .null
  else
    match bool? cs, narrow? cs, wide? cs with
    | some b, _, _ => some (.bool b)
    | none, some n, _ => some n
    | none, none, some _ => none
    | none, none, none =>
      some (if isDecimal cs && !isPadded cs then .decimal else .text (String.ofList cs))

def localName? (tag : Option Tag) : Option String :=
  tag.bind Tag.localName?

/-- What a scalar stands for where no type is asked for. -/
def value? (tag : Option Tag) (style : Style) (text : String) : Option Value :=
  let cs := text.toList
  if (localName? tag).isSome then none
  else if tag = some (Tag.core "bool") then (bool? cs).map .bool
  else if tag = some (Tag.core "int") then narrow? cs
  else if tag = some (Tag.core "float") then if isDecimal cs then some .decimal else none
  else if tag = some (Tag.core "null") then if isNull cs then some .null else none
  else if style = .plain && tag.all Tag.isLocal then plain? cs
  else some (.text text)

/-- A scalar may be read as a type if it is plain, or a literal tagged with the type. -/
def mayBe (type : String) (tag : Option Tag) (style : Style) : Bool :=
  style == .plain || (style == .literal && tag == some (Tag.core type))

end Scalar

namespace Node

/-- The text of a scalar, whatever it stands for. -/
def text? : Node → Option String
  | .scalar _ _ text => some text
  | _ => none

def bool? : Node → Option Bool
  | .scalar tag style text =>
    if Scalar.mayBe "bool" tag style then Scalar.bool? text.toList else none
  | _ => none

def nat? (limit : Nat) : Node → Option Nat
  | .scalar tag style text =>
    if Scalar.mayBe "int" tag style then Scalar.nat? limit text.toList else none
  | _ => none

/-- What a scalar stands for where no type is asked for. -/
def value? : Node → Option Value
  | .scalar tag style text => Scalar.value? tag style text
  | _ => none

end Node
end Yaml

namespace Yaml
namespace Document

def target? (d : Document) (place : Nat) : Option Node :=
  d.named.lookup place

def maxAliases (d : Document) : Nat :=
  100 * d.root.weight

end Document

/-- How deep collections may lie in each other where they are read. -/
def maxDepth : Nat := 128

/-- Reading some part of a document. The state is how many aliases may still be followed. -/
abbrev Visit := StateT Nat Option

namespace Visit

def run {α : Type} (d : Document) (visit : Visit α) : Option α :=
  (StateT.run visit d.maxAliases).map (·.1)

/-- A node itself, or the one that an alias leads to. -/
def follow (d : Document) : Node → Visit Node
  | .alias place => do
    match ← get with
    | 0 => failure
    | left + 1 =>
      set left
      d.target? place
  | n => return n

/-- Reads a node with all that is in it, whatever its type. Every scalar has to stand for something,
no collection may have a tag of one's own, and at most `depth` of them may lie in each other. -/
def whole (d : Document) (depth : Nat) (n : Node) : Visit Node := do
  let n ← follow d n
  match depth, n with
  | _, .scalar .. => do
    let _ ← n.value?
    return n
  | depth + 1, .sequence tag items =>
    if (Scalar.localName? tag).isSome then failure
    else
      items.forM fun i => discard (whole d depth i)
      return n
  | depth + 1, .mapping tag entries =>
    if (Scalar.localName? tag).isSome then failure
    else
      entries.forM fun e => do
        let _ ← whole d depth e.1
        let _ ← whole d depth e.2
      return n
  | _, _ => failure

end Visit
end Yaml

end HybridInverter
