import HybridInverter.Text.Basic

/-!
Log entries, and filters for them. A filter text lists rules, a level or a part of the program or
`part=level`, divided by commas; behind a slash stands a text that an entry has to contain. The rule
with the longest part name that an entry's part begins with decides about the entry.
-/
namespace HybridInverter

namespace Log

inductive Level where
  | error
  | warn
  | info
  | debug
  | trace
  deriving DecidableEq, Repr

def Level.label : Level → String
  | .error => "ERROR"
  | .warn => "WARN"
  | .info => "INFO"
  | .debug => "DEBUG"
  | .trace => "TRACE"

/-- Higher is more talkative. -/
def Level.rank : Level → Nat
  | .error => 1
  | .warn => 2
  | .info => 3
  | .debug => 4
  | .trace => 5

inductive Part where
  | application
  | settings
  | link
  | frame
  | tokens
  | records
  deriving DecidableEq, Repr

/-- The name under which log filters and log lines know a part. -/
def Part.path : Part → String
  | .application => "voltronic_p18"
  | .settings => "voltronic_p18::config"
  | .link => "voltronic_p18::voltronic::transport"
  | .frame => "voltronic_p18::voltronic::codec"
  | .tokens => "voltronic_p18::p18::parser"
  | .records => "voltronic_p18::p18::messages"

structure Entry where
  level : Level
  part : Part
  text : String
  deriving DecidableEq, Repr

def Entry.line (time : String) (e : Entry) : String :=
  "[" ++ time ++ " " ++ e.level.label ++ " " ++ e.part.path ++ "] " ++ e.text

/-- Lets through entries of rank `rank` at most from parts whose name begins with `part`. -/
structure Rule where
  part : List Char
  named : Bool
  rank : Nat
  deriving DecidableEq, Repr

structure Filter where
  rules : List Rule
  containing : Option (List Char) := none
  deriving DecidableEq, Repr

namespace Filter

def levelNames : List String := ["off", "error", "warn", "info", "debug", "trace"]

def rank? (name : List Char) : Option Nat :=
  levelNames.idxOf? (String.ofList (name.map Char.toLower))

def greatestRank : Nat := 5

def readRule (text : List Char) : Except String Rule :=
  match text.splitOn '=' with
  | [name] =>
    match rank? name with
    | some r => .ok ⟨[], false, r⟩
    | none => .ok ⟨name, true, greatestRank⟩
  | [name, level] =>
    let level := Text.trim level
    if level.isEmpty then .ok ⟨name, true, greatestRank⟩
    else
      match rank? level with
      | some r => .ok ⟨name, true, r⟩
      | none => .error ("invalid logging spec '" ++ String.ofList level ++ "'")
  | _ => .error ("invalid logging spec '" ++ String.ofList text ++ "'")

def addRule (rules : List Rule) (r : Rule) : List Rule :=
  if rules.any fun q => q.part == r.part && q.named == r.named then
    rules.map fun q => if q.part == r.part && q.named == r.named then r else q
  else rules ++ [r]

def readRules (text : List Char) : List Rule × List String :=
  ((text.splitOn ',').map Text.trim).foldl (fun acc t =>
    if t.isEmpty then acc
    else
      match readRule t with
      | .ok r => (addRule acc.1 r, acc.2)
      | .error why => (acc.1, acc.2 ++ [why])) ([], [])

/-- Without a rule, errors alone pass. -/
def orErrors (rules : List Rule) : List Rule :=
  if rules.isEmpty then [⟨[], false, 1⟩] else rules

def ofText (text : String) : Filter × List String :=
  let warn := fun why => "warning: " ++ why ++ ", ignoring it"
  match text.toList.splitOn '/' with
  | [rules] =>
    let (rules, faults) := readRules rules
    ({ rules := orErrors rules }, faults.map warn)
  | [rules, containing] =>
    let (rules, faults) := readRules rules
    ({ rules := orErrors rules, containing := some containing }, faults.map warn)
  | _ => ({ rules := orErrors [] }, [warn ("invalid logging spec '" ++ text ++ "' (too many '/'s)")])

/-- Of rules with names of one length the last counts. -/
def deciding (rules : List Rule) (part : List Char) : Option Rule :=
  rules.foldl (fun best r =>
    if !r.part.isPrefixOf part then best
    else
      match best with
      | some b => if Utf8.size b.part ≤ Utf8.size r.part then some r else best
      | none => some r) none

def admits (f : Filter) (e : Entry) : Bool :=
  (match deciding f.rules e.part.path.toList with
    | some r => e.level.rank ≤ r.rank
    | none => false) &&
  match f.containing with
  | some t => contains t e.text.toList
  | none => true
where
  contains (t : List Char) : List Char → Bool
    | [] => t.isEmpty
    | c :: rest => t.isPrefixOf (c :: rest) || contains t rest

end Filter
end Log

end HybridInverter
