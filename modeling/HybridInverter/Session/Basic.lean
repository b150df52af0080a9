import HybridInverter.Frame
import HybridInverter.Request.Basic
import HybridInverter.Response.Basic

/-!
Talking with an inverter, whatever the way to it: a request is one exchange, a dump asks every query
that takes no arguments and stops at the first that fails.
-/
namespace HybridInverter

/-- A way to an inverter, and a log to write to meanwhile. -/
structure Session (m : Type → Type) where
  exchange : String → ExceptT Failure m Reply
  note : Log.Entry → m Unit

namespace Request

def answer (f : Report.Format) (r : Request) (reply : Reply) : Except Failure String :=
  match r with
  | .raw _ | .dump => .ok (String.ofList reply.text)
  | .execute (.query q) _ =>
    (Response.ofFrame q reply.data reply.received).map (Response.render f)
  | .execute (.setting _) _ => do
    let a ← Envelope.acknowledgement reply.data reply.received
    a.result
    return Report.settingResult f true

def notes (r : Request) (reply : Reply) : List Log.Entry :=
  match r with
  | .execute (.query q) _ => Response.notesOfFrame q reply.data reply.received
  | _ => []

end Request

def Query.dumped : List Query :=
  all.filter fun q => !q.takesArguments

namespace Session

variable {m : Type → Type} [Monad m]

def send (s : Session m) (wire : String) : ExceptT Failure m Reply :=
  ExceptT.adapt (Failure.within ("failed to execute " ++ wire)) (s.exchange wire)

def noteAll (s : Session m) (entries : List Log.Entry) : ExceptT Failure m Unit :=
  entries.forM fun e => s.note e

def execute (s : Session m) (f : Report.Format) (r : Request) (wire : String) :
    ExceptT Failure m String := do
  let reply ← s.send wire
  s.noteAll (r.notes reply)
  r.answer f reply

def ask (s : Session m) (q : Query) : ExceptT Failure m Response := do
  let wire ← (Command.query q).build []
  let reply ← s.send wire
  s.noteAll (Response.notesOfFrame q reply.data reply.received)
  (Response.ofFrame q reply.data reply.received).mapError
    (Failure.within ("invalid response to " ++ q.name))

def askAll (s : Session m) : List Query → ExceptT Failure m (List (Query × Response))
  | [] => return []
  | q :: rest => do
    let r ← s.ask q
    return (q, r) :: (← s.askAll rest)

def dump (s : Session m) (f : Report.Format) : ExceptT Failure m String := do
  return Response.renderAll f (← s.askAll Query.dumped)

end Session
end HybridInverter
