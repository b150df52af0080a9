import HybridInverter.Link.Basic

/-!
Links over a pipe to the device, which holds what the device has sent and the link has not read, and
over a file that stands for a device: reports are written where the file's position is, and the reply
is what lies behind them. A device that is gone takes no more commands.
-/
namespace HybridInverter

structure Pipe where
  arriving : List UInt8 := []
  /-- The device sends nothing more. -/
  ended : Bool := false
  gone : Bool := false

namespace Pipe

/-- A device that has ended its output sends nothing. -/
def send (p : Pipe) (bytes : List UInt8) : Pipe :=
  if p.ended then p else { p with arriving := p.arriving ++ bytes }

def shutdown (p : Pipe) : Pipe :=
  { p with ended := true }

def drop (p : Pipe) : Pipe :=
  { p with ended := true, gone := true }

end Pipe

namespace Link

/-- An exchange over a pipe: its outcome, the bytes the device got, and what it leaves. -/
structure Exchange where
  outcome : Except Failure Reply
  written : List UInt8
  link : Link
  pipe : Pipe
  notes : List Log.Entry

def execute (l : Link) (p : Pipe) (command : List UInt8) (timeout : Nat) : Exchange :=
  let l := l.clear
  if p.gone then
    { outcome := .error (.link .brokenPipe), written := [], link := l, pipe := p
      notes := [l.noteWriting command] }
  else
    let heard := l.listen p.arriving p.ended timeout
    { outcome := heard.outcome
      written := l.written command
      link := heard.link
      pipe := { p with arriving := heard.left }
      notes := l.noteWriting command :: heard.notes }

end Link

structure ReportFile where
  bytes : List UInt8
  position : Nat := 0

namespace ReportFile

def write (f : ReportFile) (bytes : List UInt8) : ReportFile :=
  { bytes := f.bytes.take f.position ++ bytes ++ f.bytes.drop (f.position + bytes.length)
    position := f.position + bytes.length }

def unread (f : ReportFile) : List UInt8 :=
  f.bytes.drop f.position

def advance (f : ReportFile) (left : List UInt8) : ReportFile :=
  { f with position := f.bytes.length - left.length }

end ReportFile

namespace Link

structure FileExchange where
  outcome : Except Failure Reply
  link : Link
  file : ReportFile
  notes : List Log.Entry

def executeOn (l : Link) (f : ReportFile) (command : List UInt8) (timeout : Nat) : FileExchange :=
  let l := l.clear
  let f := f.write (l.written command)
  let heard := l.listen f.unread true timeout
  { outcome := heard.outcome
    link := heard.link
    file := f.advance heard.left
    notes := l.noteWriting command :: heard.notes }

end Link

end HybridInverter
