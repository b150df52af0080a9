import HybridInverter.Yaml.Token

/-!
A YAML document as a tree. An alias stays in the tree and leads to a place, which is the number of
names that were known when its name was given. A name that is given anew takes a place anew, which
may then be that of the next name too: the node that begins last stands there.
-/
namespace HybridInverter
namespace Yaml

inductive Node where
  | scalar (tag : Option Tag) (style : Style) (text : String)
  | sequence (tag : Option Tag) (items : List Node)
  | mapping (tag : Option Tag) (entries : List (Node × Node))
  | alias (place : Nat)

namespace Node

mutual

/-- One for a scalar or an alias, and two for a collection beside what it holds. -/
def weight : Node → Nat
  | .scalar .. => 1
  | .alias _ => 1
  | .sequence _ items => 2 + weightOfItems items
  | .mapping _ entries => 2 + weightOfEntries entries

def weightOfItems : List Node → Nat
  | [] => 0
  | n :: rest => weight n + weightOfItems rest

def weightOfEntries : List (Node × Node) → Nat
  | [] => 0
  | (k, v) :: rest => weight k + weight v + weightOfEntries rest

end

end Node

/-- A tree, and the nodes that its aliases lead to by their places, the latest first. -/
structure Document where
  root : Node
  named : List (Nat × Node) := []

namespace Document

structure State where
  tokens : List Token
  /-- The places of the names that are known, each once. -/
  places : List (String × Nat) := []
  /-- The nodes with a name in the order of their beginnings. A node not yet complete is an alias to
  itself. -/
  named : Array (Nat × Node) := #[]
  /-- What the handles of tags stand for. -/
  handles : List (String × List UInt8) := []

abbrev Reader := StateT State Option

namespace Reader

def peek : Reader (Option Token) := do
  return (← get).tokens.head?

def skip : Reader Unit :=
  modify fun s => { s with tokens := s.tokens.drop 1 }

def next : Reader (Option Token) := do
  let t ← peek
  skip
  return t

def peekIsOneOf (ts : List Token) : Reader Bool := do
  match ← peek with
  | some t => return ts.contains t
  | none => return true

def remember (name : String) : Reader Nat := do
  let s ← get
  let place := s.places.length
  set { s with
    places := (name, place) :: s.places.filter (·.1 ≠ name)
    named := s.named.push (place, .alias place) }
  return s.named.size

def complete (number : Nat) (n : Node) : Reader Unit :=
  modify fun s => { s with named := s.named.modify number fun e => (e.1, n) }

def aliased (name : String) : Reader Node := do
  return .alias (← (← get).places.lookup name)

def defaultHandles : List (String × List UInt8) :=
  [("!", Tag.bare.bytes), ("!!", (Tag.core "").bytes)]

def resolveTag (handle : String) (suffix : List UInt8) : Reader Tag := do
  if handle.isEmpty then return ⟨suffix⟩
  else return ⟨(← ((← get).handles ++ defaultHandles).lookup handle) ++ suffix⟩

/-- What may stand before a node. -/
structure Properties where
  anchor : Option String := none
  tag : Option Tag := none
  isBare : Bool := true

def anchor? : Reader (Option String) := do
  match ← peek with
  | some (.anchor name) => do skip; return some name
  | _ => return none

def tag? : Reader (Option Tag) := do
  match ← peek with
  | some (.tag handle suffix) => do skip; return some (← resolveTag handle suffix)
  | _ => return none

/-- An anchor and a tag in either order, or one of them, or neither. -/
def properties : Reader Properties := do
  match ← anchor? with
  | some name =>
    return { anchor := some name, tag := ← tag?, isBare := false }
  | none =>
    match ← tag? with
    | some tag => return { anchor := ← anchor?, tag := some tag, isBare := false }
    | none => return {}

end Reader

open Reader

def empty (tag : Option Tag) : Node :=
  .scalar tag .plain ""

mutual

/-- A node. `block` allows the collections that indentation makes, `entries` those of a key whose
dashes are no deeper than itself. Every call but a few takes a token, so that `fuel` of a few times
their number suffices. -/
def node : Nat → (block entries : Bool) → Reader Node
  | 0, _, _ => failure
  | fuel + 1, block, entries => do
    match ← peek with
    | some (.alias name) => do skip; aliased name
    | _ =>
      let properties ← properties
      match properties.anchor with
      | none => content fuel block entries properties
      | some name =>
        let number ← remember name
        let n ← content fuel block entries properties
        complete number n
        return n

def content : Nat → (block entries : Bool) → Properties → Reader Node
  | 0, _, _, _ => failure
  | fuel + 1, block, entries, properties => do
    let tag := properties.tag
    match ← peek with
    | some (.scalar style text) => do
      skip
      return .scalar tag style text
    | some .flowSequenceStart => do skip; return .sequence tag (← flowItems fuel true)
    | some .flowMappingStart => do skip; return .mapping tag (← flowEntries fuel true)
    | some t =>
      if t = .blockEntry ∧ entries then return .sequence tag (← sameDepthItems fuel)
      else if t = .blockSequenceStart ∧ block then do
        skip
        return .sequence tag (← blockItems fuel)
      else if t = .blockMappingStart ∧ block then do
        skip
        return .mapping tag (← blockEntries fuel)
      else if properties.isBare then failure
      else return empty tag
    | none => if properties.isBare then failure else return empty tag

def nodeUnless : Nat → (block entries : Bool) → List Token → Reader Node
  | 0, _, _, _ => failure
  | fuel + 1, block, entries, ends => do
    if ← peekIsOneOf ends then return empty none else node fuel block entries

def blockItems : Nat → Reader (List Node)
  | 0 => failure
  | fuel + 1 => do
    match ← next with
    | some .blockEntry =>
      let n ← nodeUnless fuel true false [.blockEntry, .blockEnd]
      return n :: (← blockItems fuel)
    | some .blockEnd => return []
    | _ => failure

def sameDepthItems : Nat → Reader (List Node)
  | 0 => failure
  | fuel + 1 => do
    if (← peek) = some .blockEntry then
      skip
      let n ← nodeUnless fuel true false [.blockEntry, .key, .value, .blockEnd]
      return n :: (← sameDepthItems fuel)
    else return []

def blockEntries : Nat → Reader (List (Node × Node))
  | 0 => failure
  | fuel + 1 => do
    match ← next with
    | some .key =>
      let k ← nodeUnless fuel true true [.key, .value, .blockEnd]
      let v ← valueOf fuel true [.key, .value, .blockEnd]
      return (k, v) :: (← blockEntries fuel)
    | some .blockEnd => return []
    | _ => failure

def valueOf : Nat → (block : Bool) → List Token → Reader Node
  | 0, _, _ => failure
  | fuel + 1, block, ends => do
    if (← peek) = some .value then
      skip
      nodeUnless fuel block block ends
    else return empty none

def flowItems : Nat → (first : Bool) → Reader (List Node)
  | 0, _ => failure
  | fuel + 1, first => do
    if (← peek) = some .flowSequenceEnd then do skip; return []
    else
      unless first do
        unless (← next) = some .flowEntry do failure
      match ← peek with
      | some .flowSequenceEnd => do skip; return []
      | some .key =>
        skip
        let pair ← flowPair fuel
        return pair :: (← flowItems fuel false)
      | _ =>
        let n ← node fuel false false
        return n :: (← flowItems fuel false)

/-- A mapping of one entry inside brackets. Without a key the next token counts as the key. -/
def flowPair : Nat → Reader Node
  | 0 => failure
  | fuel + 1 => do
    let ends := [Token.flowEntry, .flowSequenceEnd]
    let k ← if ← peekIsOneOf (.value :: ends) then do skip; pure (empty none)
      else node fuel false false
    let v ← valueOf fuel false ends
    return .mapping none [(k, v)]

def flowEntries : Nat → (first : Bool) → Reader (List (Node × Node))
  | 0, _ => failure
  | fuel + 1, first => do
    if (← peek) = some .flowMappingEnd then do skip; return []
    else
      unless first do
        unless (← next) = some .flowEntry do failure
      let ends := [Token.flowEntry, .flowMappingEnd]
      match ← peek with
      | some .flowMappingEnd => do skip; return []
      | some .key =>
        skip
        let k ← nodeUnless fuel false false (.value :: ends)
        let v ← valueOf fuel false ends
        return (k, v) :: (← flowEntries fuel false)
      | _ =>
        let k ← node fuel false false
        return (k, empty none) :: (← flowEntries fuel false)

end

def isDirective : Token → Bool
  | .versionDirective .. | .tagDirective .. => true
  | _ => false

/-- The directives before a document: at most one version, of those that are known, and every handle
once. -/
def directives : Nat → (versioned : Bool) → Reader Unit
  | 0, _ => failure
  | fuel + 1, versioned => do
    match ← peek with
    | some (.versionDirective major minor) =>
      if versioned || major != 1 || !(minor == 1 || minor == 2) then failure
      else do skip; directives fuel true
    | some (.tagDirective handle start) =>
      if ((← get).handles.lookup handle).isSome then failure
      else do
        modify fun s => { s with handles := (handle, start) :: s.handles }
        skip
        directives fuel versioned
    | _ => return ()

def markedRoot (fuel : Nat) : Reader Node := do
  directives fuel false
  unless (← next) = some .documentStart do failure
  match ← peek with
  | none => return empty none
  | some t =>
    if isDirective t || t = .documentStart || t = .documentEnd then return empty none
    else node fuel true false

/-- The first document may go without a mark. -/
def readRoot (fuel : Nat) (first : Bool) : Reader Node := do
  match ← peek with
  | some t =>
    if first && !isDirective t && t ≠ .documentStart then node fuel true false
    else markedRoot fuel
  | none => failure

def skipEnds : Nat → Reader Unit
  | 0 => return ()
  | fuel + 1 => do
    if (← peek) = some .documentEnd then
      skip
      skipEnds fuel

def documents : Nat → (first : Bool) → Reader (List Document)
  | 0, _ => failure
  | fuel + 1, first => do
    if (← peek).isNone then return []
    else
      modify fun s => { s with places := [], named := #[], handles := [] }
      let root ← readRoot fuel first
      let named := (← get).named.toList.reverse
      skipEnds fuel
      return { root, named } :: (← documents fuel false)

/-- A token is looked at by at most this many calls one inside the other. -/
def callsPerToken : Nat := 8

def ofTokens? (tokens : List Token) : Option (List Document) :=
  (documents (callsPerToken * (tokens.length + 1)) true { tokens }).map (·.1)

def ofText? (text : String) : Option (List Document) := do
  ofTokens? (← Token.ofText? text.toList)

end Document
end Yaml
end HybridInverter
