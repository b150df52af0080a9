import HybridInverter.CommandLine.Reader
import HybridInverter.Host.Basic

/-!
The program as a whole: settings and options, a request, and what is printed in the end. Whatever is
wrong with the command line or the settings is found before a device is opened, and ends the program
with another code than what goes wrong with the device.
-/
namespace HybridInverter

structure Ending where
  code : Nat
  printed : Option String := none
  complaint : Option String := none
  deriving DecidableEq, Repr

namespace Ending

def done : Nat := 0
def usage : Nat := 1
def failure : Nat := 2
def refused : Nat := 2

end Ending

namespace Application

def name : String := "voltronic-p18"
def version : String := "0.3.0-dev"

def helpText : String :=
  "Usage: " ++ name ++ " [OPTIONS] <COMMAND> [ARGUMENTS]"

def ofRefusal (r : Refusal) : Ending :=
  match r with
  | .help => { code := Ending.done, printed := some helpText }
  | .version => { code := Ending.done, printed := some (name ++ " " ++ version) }
  | _ => { code := Ending.refused, complaint := some ("error: " ++ r.message ++ "\n" ++ helpText) }

/-- A command that is only looked at; three bytes are those of checksum and terminator. -/
def notePretended (command : String) : Log.Entry :=
  let size := command.utf8ByteSize
  ⟨.debug, .application, "would write " ++ toString size ++ "+3 " ++
    (if 1 < size then "bytes" else "byte") ++ ":\n" ++ Hexdump.text (Utf8.encode command.toList)⟩

def noteDevice (d : Device) : Log.Entry :=
  ⟨.debug, .application, name ++ " " ++ version ++ " using " ++ d.name⟩

def noteFailure (f : Failure) : Log.Entry :=
  ⟨.error, .application, f.message⟩

def frames (r : Request) : Except Failure (List String) := do
  match ← r.wire with
  | some wire => return [wire]
  | none => Query.dumped.mapM fun q => (Command.query q).build []

variable {m : Type → Type} [Monad m]

def pretend (h : Host m) (r : Request) : ExceptT Failure m String := do
  let wires ← frames r
  wires.forM fun wire => h.note (notePretended wire)
  return ""

/-- Opens the device and executes a request. The command is built first, so that one that cannot be
built touches nothing. -/
def execute (h : Host m) (s : Settings) (r : Request) : ExceptT Failure m String := do
  let wire? ← r.wire
  h.note s.device.noteOpening
  let session ← ExceptT.adapt (Failure.within ("failed to open " ++ s.device.name))
    (h.openDevice s.device (s.device.link s.checksums) s.timeout)
  match wire? with
  | some wire => session.execute s.format r wire
  | none => session.dump s.format

def run (h : Host m) (s : Settings) (pretended : Bool) (r : Request) : ExceptT Failure m String :=
  if pretended then pretend h r else execute h s r

/-- A setting that the device refuses is told on the output alone. -/
def fail (h : Host m) (format : Report.Format) (code : Nat) (f : Failure) : m Ending := do
  if f.cause = .refused then return { code, printed := some (Report.settingResult format false) }
  else
    h.note (noteFailure f)
    return { code, printed := Report.failureText format f.message }

def prepare (h : Host m) (o : Options) : ExceptT Failure m Settings := do
  let s ← Settings.load h o.settingsFile
  (s.merge o).mapError Failure.settings

/-- What the log lets through when all goes well, and when the settings are wrong. -/
def logLevel (o : Options) (settings : Except Failure Settings) : String :=
  if o.verbose then "debug"
  else
    match settings with
    | .ok s => s.logLevel
    | .error _ => "warn"

def format (o : Options) (settings : Except Failure Settings) : Report.Format :=
  match settings with
  | .ok s => s.format
  | .error _ => o.format.getD .table

def carryOut (h : Host m) (s : Settings) (pretended : Bool) (r : Request) : m Ending := do
  h.note (noteDevice s.device)
  match ← (run h s pretended r).run with
  | .ok output =>
    return { code := Ending.done, printed := if output.isEmpty then none else some output }
  | .error f => fail h s.format Ending.failure f

def invoke (h : Host m) (i : CommandLine.Invocation) : m Ending := do
  let settings ← (prepare h i.options).run
  let (filter, warnings) := Log.Filter.ofText (logLevel i.options settings)
  h.startLog filter warnings
  let now ← h.clock
  let ready : Except Failure (Settings × Request) := do
    return (← settings, ← i.action.toRequest now)
  match ready with
  | .ok (s, r) => carryOut h s i.options.pretend r
  | .error f => fail h (format i.options settings) Ending.usage f

def start (h : Host m) (words : List String) : m Ending :=
  match CommandLine.read words with
  | .ok i => invoke h i
  | .error r => return ofRefusal r

end Application
end HybridInverter
