import HybridInverter.Log
import HybridInverter.Session.Basic
import HybridInverter.Settings.Document
import HybridInverter.Text.Basic

/-!
What the program needs of the machine it runs on, and the loading of settings there. The file of
settings is the one that is named, else the one of the usual name if it is there; without a file
everything keeps its default.
-/
namespace HybridInverter

structure Host (m : Type → Type) where
  /-- The text of a file, or the reason why it cannot be had. -/
  readText : String → m (Except String String)
  isPresent : String → m Bool
  /-- Year, month, day, hour, minute and second. -/
  clock : m (List String)
  /-- From here on the log takes what the filter admits; before, it takes nothing. The warnings come
  first. -/
  startLog : Log.Filter → List String → m Unit
  note : Log.Entry → m Unit
  /-- A session over a new link, to be opened within a number of milliseconds. -/
  openDevice : Device → Link → Nat → ExceptT Failure m (Session m)

def Host.notText : String := "stream did not contain valid UTF-8"

namespace Settings

def defaultFile : String := "voltronic-p18.yaml"

def noteReading (file : String) : Log.Entry :=
  ⟨.info, .settings, "Reading configuration from " ++ file⟩

def noteDefaults : Log.Entry :=
  ⟨.debug, .settings, "no " ++ defaultFile ++ " found, using defaults"⟩

def notesOf (s : Settings) : List Log.Entry :=
  s.summary.map fun line => ⟨.info, .settings, line⟩

variable {m : Type → Type} [Monad m]

def loadFile (h : Host m) (file : String) : ExceptT Failure m Settings := do
  h.note (noteReading file)
  match ← h.readText file with
  | .error reason => throw (.settings (.unreadable file reason))
  | .ok text =>
    match ofText? text with
    | none => throw (.settings (.malformed file))
    | some s =>
      s.notesOf.forM fun e => h.note e
      s.check.mapError Failure.settings

def load (h : Host m) (file? : Option String) : ExceptT Failure m Settings := do
  match file? with
  | some file => loadFile h file
  | none =>
    if ← h.isPresent defaultFile then loadFile h defaultFile
    else do
      h.note noteDefaults
      return {}

end Settings
end HybridInverter
