import HybridInverter.Link.Pipe
import HybridInverter.Session.Basic

/-!
Sessions that can be run. One goes over a link and the pipe to its device, each exchange with the
bytes that are in the pipe by then; the other follows a script, which gives the outcomes of its
exchanges beforehand, and behind the last one nothing comes back any more.
-/
namespace HybridInverter

structure Line where
  link : Link := {}
  pipe : Pipe := {}
  /-- How long a command waits for its reply, in milliseconds. -/
  timeout : Nat
  /-- What the device has got. -/
  written : List UInt8 := []
  notes : List Log.Entry := []

namespace Line

def after (line : Line) (x : Link.Exchange) : Line :=
  { line with
    link := x.link
    pipe := x.pipe
    written := line.written ++ x.written
    notes := line.notes ++ x.notes }

def exchange (wire : String) : ExceptT Failure (StateM Line) Reply := do
  let line : Line ← get
  let x := line.link.execute line.pipe (Utf8.encode wire.toList) line.timeout
  set (line.after x)
  x.outcome

def session : Session (StateM Line) where
  exchange := exchange
  note e := modify fun line => { line with notes := line.notes ++ [e] }

end Line

structure Script where
  outcomes : List (Except Failure Reply)
  /-- How long a command waits in vain, in milliseconds. -/
  timeout : Nat
  sent : List String := []
  notes : List Log.Entry := []

namespace Script

def exchange (wire : String) : ExceptT Failure (StateM Script) Reply := do
  let s : Script ← get
  set { s with outcomes := s.outcomes.drop 1, sent := s.sent ++ [wire] }
  match s.outcomes.head? with
  | some outcome => outcome
  | none => throw { cause := .timeout s.timeout }

def session : Session (StateM Script) where
  exchange := exchange
  note e := modify fun s => { s with notes := s.notes ++ [e] }

end Script

end HybridInverter
