import HybridInverter.CommandLine.Options
import HybridInverter.Request.Basic
import HybridInverter.Text.Basic

/-!
Reading a command line: options, the word of a command, and the arguments of the command. The value
of an option may stand in the same word or be the next one; in the second case it is looked at when
the next option comes up, or at the very end.
-/
namespace HybridInverter
namespace CommandLine

/-- How a word looks before anything is known about its meaning. -/
inductive Shape where
  | divider
  | long (name : List Char) (value : Option (List Char))
  | letters (cs : List Char)
  | plain

def shape (word : String) : Shape :=
  match word.toList with
  | ['-', '-'] => .divider
  | '-' :: '-' :: rest =>
    match Text.cutFirst '=' rest with
    | some (name, value) => .long name (some value)
    | none => .long rest none
  | '-' :: c :: rest => .letters (c :: rest)
  | _ => .plain

inductive Verb where
  | help
  | raw
  | dump
  | execute (c : Command)
  deriving DecidableEq, Repr

namespace Verb

def ofWord? (word : String) : Option Verb :=
  if word = "help" then some .help
  else if word = "raw" then some .raw
  else if word = "dump" then some .dump
  else (Command.ofWord? word).map .execute

def fewest : Verb → Nat
  | .help | .dump => 0
  | .raw => 1
  | .execute c => if c.usesClock then 0 else c.argumentCount

def most? : Verb → Option Nat
  | .execute c => if c.usesClock then none else some c.argumentCount
  | v => some v.fewest

def toAction (v : Verb) (args : List String) : Action :=
  match v with
  | .raw => .raw (args.headD "")
  | .execute c => .execute c args
  | .help | .dump => .dump

end Verb

/-- Options read so far, and the last one while its value is still to be looked at. -/
structure State where
  options : Options := {}
  given : List Switch := []
  /-- The value is none while the next word may still be it. -/
  pending : Option (Switch × Option (List Char)) := none

namespace State

def enter (st : State) (s : Switch) (value : Option (List Char)) : Except Refusal State :=
  if s ∈ st.given then .error .conflict
  else do
    let options ← match value with
      | some v => st.options.withValue s v
      | none => st.options.withSwitch s
    return { st with options, given := s :: st.given }

def settle (st : State) : Except Refusal State :=
  match st.pending with
  | none => .ok st
  | some (_, none) => .error .invalidValue
  | some (s, some value) => ({ st with pending := none } : State).enter s (some value)

def isWaiting (st : State) : Bool :=
  match st.pending with
  | some (_, none) => true
  | _ => false

def expect (st : State) (s : Switch) : Except Refusal State := do
  return { ← st.settle with pending := some (s, none) }

/-- An option with a value in the same word. -/
def attach (st : State) (s : Switch) (value : List Char) : Except Refusal State := do
  (← st.settle).enter s (some value)

def turnOn (st : State) (s : Switch) : Except Refusal State := do
  (← st.settle).enter s none

def take (st : State) (word : List Char) : State :=
  { st with pending := st.pending.map fun p => (p.1, some word) }

def readLong (st : State) (name : List Char) (value : Option (List Char)) : Except Refusal State :=
  match Switch.ofLong? name, value with
  | none, _ => .error .unknownArgument
  | some s, some v => if s.takesValue then st.attach s v else .error .surplusValue
  | some s, none => if s.takesValue then st.expect s else st.turnOn s

/-- Letters one by one, up to the first that takes what is left as its value, an equals sign in
front of it left out. -/
def readLetters (st : State) : List Char → Except Refusal State
  | [] => .ok st
  | c :: rest =>
    match Switch.ofLetter? c with
    | none => .error .unknownArgument
    | some s =>
      if s.takesValue then
        match rest with
        | [] => st.expect s
        | '=' :: value => st.attach s value
        | value => st.attach s value
      else do readLetters (← st.turnOn s) rest

/-- Two ways to name the device exclude one another. -/
def finish (st : State) : Except Refusal Options := do
  let st ← st.settle
  if .device ∈ st.given ∧ .tcp ∈ st.given then .error .conflict else return st.options

end State

/-- The arguments of a command, which knows no option but the one for help. Behind a divider every
word is an argument. -/
def readArguments (most? : Option Nat) (divided : Bool) (args : List String) :
    List String → Except Refusal (List String)
  | [] => .ok args
  | word :: rest =>
    let next := fun _ : Unit =>
      if most?.any (· ≤ args.length) then .error .unknownArgument
      else readArguments most? divided (args ++ [word]) rest
    if divided then next ()
    else
      match shape word with
      | .divider => readArguments most? true args rest
      | .long name value =>
        if Switch.ofLong? name ≠ some .help then .error .unknownArgument
        else if value.isSome then .error .surplusValue
        else .error .help
      | .letters cs => if cs.head? = some 'h' then .error .help else .error .unknownArgument
      | .plain => next ()

/-- Help on a command, or on help itself; nothing has help on anything below it. -/
def readHelp : List String → Refusal
  | [] => .help
  | word :: rest =>
    match Verb.ofWord? word, rest with
    | some _, [] => .help
    | _, _ => .unknownCommand

def readVerb (v : Verb) (rest : List String) : Except Refusal Action :=
  if v = .help then .error (readHelp rest)
  else do
    let args ← readArguments v.most? false [] rest
    if args.length < v.fewest then .error .argumentMissing else return v.toAction args

/-- A word that no option takes has to be that of a command, and behind a divider no word is. -/
def readDivided (st : State) : List String → Except Refusal State
  | [] => st.settle
  | word :: _ =>
    if (Verb.ofWord? word).isSome then .error .unknownArgument else .error .unknownCommand

def withoutCommand (st : State) : Refusal :=
  if st.given.isEmpty then .nothingGiven else .commandMissing

structure Invocation where
  options : Options
  action : Action
  deriving DecidableEq, Repr

def readFrom (st : State) : List String → Except Refusal Invocation
  | [] => do .error (withoutCommand (← st.settle))
  | word :: rest => do
    match shape word with
    | .divider => .error (withoutCommand (← readDivided st rest))
    | .long name value => readFrom (← st.readLong name value) rest
    | .letters cs => readFrom (← st.readLetters cs) rest
    | .plain =>
      if st.isWaiting then readFrom (st.take word.toList) rest
      else
        match Verb.ofWord? word with
        | none => .error .unknownCommand
        | some v => do
          let action ← readVerb v rest
          return ⟨← st.finish, action⟩

/-- The options and the action of a command line without the name of the program. -/
def read (words : List String) : Except Refusal Invocation :=
  readFrom {} words

end CommandLine
end HybridInverter
