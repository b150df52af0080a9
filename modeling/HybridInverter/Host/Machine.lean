import HybridInverter.Host.Basic
import HybridInverter.Link.Pipe

/-!
A machine in memory: the files of one folder, a clock, a log, and no network. Any of its files can
stand for a device.
-/
namespace HybridInverter

structure Machine where
  files : List (String × List UInt8) := []
  clock : List String := []
  filter : Option Log.Filter := none
  warnings : List String := []
  notes : List Log.Entry := []
  /-- The link to the device that is open, and how far in its file it is. -/
  link : Link := {}
  position : Nat := 0

namespace Machine

inductive Refused where
  | missing
  | folder
  | notFolder
  | notText
  deriving DecidableEq, Repr

def Refused.text : Refused → String
  | .missing => "No such file or directory (os error 2)"
  | .folder => "Is a directory (os error 21)"
  | .notFolder => "Not a directory (os error 20)"
  | .notText => Host.notText

def unreachable : String := "Network is unreachable (os error 101)"

def parts (path : String) : List String :=
  ((path.toList.splitOn '/').map String.ofList).filter fun p => p ≠ "" ∧ p ≠ "."

def fileAt (mc : Machine) (path : String) : Except Refused String :=
  if path.isEmpty then .error .missing
  else
    match parts path with
    | [] => .error .folder
    | name :: below =>
      if path.startsWith "/" || !mc.files.any (·.1 == name) then .error .missing
      else if !below.isEmpty || path.endsWith "/" then .error .notFolder
      else .ok name

def bytesOf (mc : Machine) (name : String) : List UInt8 :=
  (mc.files.lookup name).getD []

def write (mc : Machine) (name : String) (bytes : List UInt8) : Machine :=
  { mc with files := mc.files.map fun f => if f.1 = name then (name, bytes) else f }

def read (mc : Machine) (path : String) : Except Refused String := do
  match Utf8.decode? (mc.bytesOf (← mc.fileAt path)) with
  | some text => return String.ofList text
  | none => .error .notText

def addNote (mc : Machine) (e : Log.Entry) : Machine :=
  if mc.filter.any (·.admits e) then { mc with notes := mc.notes ++ [e] } else mc

def exchange (name : String) (timeout : Nat) (wire : String) :
    ExceptT Failure (StateM Machine) Reply := do
  let mc : Machine ← get
  let x := mc.link.executeOn ⟨mc.bytesOf name, mc.position⟩ (Utf8.encode wire.toList) timeout
  let mc := x.notes.foldl addNote mc
  set { mc.write name x.file.bytes with link := x.link, position := x.file.position }
  x.outcome

def openDevice (d : Device) (l : Link) (timeout : Nat) :
    ExceptT Failure (StateM Machine) (Session (StateM Machine)) := do
  let mc : Machine ← get
  match d with
  | .tcp .. => throw (.link (.system unreachable))
  | .hidraw path =>
    match mc.fileAt path with
    | .error why => throw (.link (.system why.text))
    | .ok name =>
      set { mc with link := l, position := 0 }
      return { exchange := exchange name timeout, note := fun e => modify (·.addNote e) }

def host : Host (StateM Machine) where
  readText path := do return ((← get).read path).mapError Refused.text
  isPresent path := do return ((← get).fileAt path).toBool
  clock := do return (← get).clock
  startLog filter warnings := modify fun mc => { mc with filter := some filter, warnings }
  note e := modify (·.addNote e)
  openDevice := openDevice

end Machine
end HybridInverter
