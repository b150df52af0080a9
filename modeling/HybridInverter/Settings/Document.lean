import HybridInverter.Settings.Basic
import HybridInverter.Yaml.Visit

/-!
Settings in a YAML document. What a document leaves out keeps its default, keys that mean nothing
here are passed over, and a document of the wrong shape is refused as a whole.
-/
namespace HybridInverter
namespace Settings

open Yaml

def members (d : Document) (keys : List String) : Node → Visit (List (Option Node))
  | .mapping _ entries => entries.foldlM enter (keys.map fun _ => none)
  | .scalar _ .plain "" => return keys.map fun _ => none
  | _ => failure
where
  enter (found : List (Option Node)) (entry : Node × Node) : Visit (List (Option Node)) := do
    match keys.idxOf? (← (← Visit.follow d entry.1).text?) with
    | none => return found
    | some place =>
      if (found[place]?.join).isSome then failure else return found.set place entry.2

def orDefault {α : Type} (d : Document) (default : α) (read : Node → Visit α) :
    Option Node → Visit α
  | none => return default
  | some n => do read (← Visit.follow d n)

/-- A name as it is, or as the tag of nothing. -/
def readFormat : Node → Option Report.Format
  | .scalar tag style text =>
    match Scalar.localName? tag with
    | some name =>
      if style = .plain && (text.isEmpty || Scalar.isNull text.toList) then
        Report.Format.ofName? name
      else none
    | none => Report.Format.ofName? text
  | _ => none

def readTimeout : Node → Option Nat :=
  Node.nat? (Numeral.unsigned 64)

def readChecksums (d : Document) (n : Node) : Visit ChecksumUse := do
  let switch := orDefault d false fun n => n.bool?
  match ← members d ["disable_write", "disable_parse", "disable_verify"] n with
  | [write, parse, verify] =>
    return { append := !(← switch write)
             expect := !(← switch parse)
             verify := !(← switch verify) }
  | _ => failure

/-- The name of a kind of device, and what else is given, by key or in order. -/
structure Description where
  kind : String
  keyed : List (Value × Node) := []
  ordered : Option (List Node) := none

namespace Description

def kindKey : Value := .text "type"

/-- A text, or the place of a key in their order. -/
def mayBeKey : Value → Bool
  | .text _ => true
  | .natural _ => true
  | _ => false

/-- A key with what it is given, which is read whole but for the kind. -/
def entry (d : Document) (depth : Nat) (e : Node × Node) : Visit (Value × Node) := do
  let key ← (← Visit.whole d depth e.1).value?
  if key = kindKey then return (key, ← Visit.follow d e.2)
  else if mayBeKey key then return (key, ← Visit.whole d depth e.2)
  else failure

def read (d : Document) : Node → Visit Description
  | .mapping tag entries => do
    let keyed ← entries.mapM (entry d (maxDepth - 2))
    match Scalar.localName? tag, keyed.filter (·.1 = kindKey) with
    | none, [(_, kind)] =>
      return { kind := ← kind.text?, keyed := keyed.filter (·.1 ≠ kindKey) }
    | _, _ => failure
  | .sequence tag (kind :: items) => do
    let kind ← (← Visit.follow d kind).text?
    let items ← items.mapM (Visit.whole d (maxDepth - 2))
    if (Scalar.localName? tag).isSome then failure else return { kind, ordered := some items }
  | _ => failure

def placeOf (keys : List String) : Value → Option Nat
  | .text name => keys.idxOf? name
  | .natural n => if n < keys.length then some n else none
  | _ => none

def members (keys : List String) (d : Description) : Option (List (Option Node)) :=
  match d.ordered with
  | some items => if items.length = keys.length then some (items.map some) else none
  | none =>
    d.keyed.foldlM (fun found e =>
      match placeOf keys e.1 with
      | none => some found
      | some place => if (found[place]?.join).isSome then none else some (found.set place e.2))
      (keys.map fun _ => none)

def readText (n : Node) : Option String :=
  match n.value? with
  | some (.text s) => some s
  | _ => none

def readPort (n : Node) : Option Nat :=
  match n.value? with
  | some (.natural n) => if n ≤ Numeral.unsigned 16 then some n else none
  | some (.negative 0) => some 0
  | _ => none

/-- A switch may be left out, and may be null. -/
def readSwitch : Option Node → Option (Option Bool)
  | none => some none
  | some n =>
    match n.value? with
    | some .null => some none
    | some (.bool b) => some (some b)
    | _ => none

def device (d : Description) : Option Device := do
  if d.kind = "hidraw" then
    match ← d.members ["path"] with
    | [some path] => return .hidraw (← readText path)
    | _ => none
  else if d.kind = "tcp" then
    match ← d.members ["host", "port", "use_tcp_nodelay"] with
    | [some host, some port, noDelay] =>
      return .tcp (← readText host) (← readPort port) (← readSwitch noDelay)
    | _ => none
  else none

end Description

def readDevice (d : Document) (n : Node) : Visit Device := do
  (← Description.read d n).device

def ofRoot (d : Document) : Visit Settings := do
  let s : Settings := {}
  match ← members d ["loglevel", "format", "timeout_ms", "device", "crc"] d.root with
  | [logLevel, format, timeout, device, checksums] =>
    return { logLevel := ← orDefault d s.logLevel (fun n => n.text?) logLevel
             format := ← orDefault d s.format (fun n => readFormat n) format
             timeout := ← orDefault d s.timeout (fun n => readTimeout n) timeout
             device := ← orDefault d s.device (readDevice d) device
             checksums := ← orDefault d s.checksums (readChecksums d) checksums }
  | _ => failure

/-- The settings in a text. A text without a document sets nothing, and one with two is refused. -/
def ofText? (text : String) : Option Settings := do
  match ← Document.ofText? text with
  | [] => return {}
  | [d] => Visit.run d (ofRoot d)
  | _ => none

end Settings
end HybridInverter
