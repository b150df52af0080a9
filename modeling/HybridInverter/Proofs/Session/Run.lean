import HybridInverter.Proofs.Outcome
import HybridInverter.Session.Basic

/-!
What the parts of a session come to when they are run, given what their exchanges come to: a
request, a query of a dump, queries in turn, and a dump.
-/
namespace HybridInverter

namespace Session

variable {σ : Type} (session : Session (StateM σ)) {before after : σ} {q : Query} {wire : String}
  {outcome : Except Failure Reply}

def noted (s : σ) (entries : List Log.Entry) : σ :=
  entries.foldl (fun s e => ((session.note e).run s).2) s

theorem run_noteAll (entries : List Log.Entry) (s : σ) :
    (session.noteAll entries).run.run s = (.ok (), session.noted s entries) := by
  induction entries generalizing s with
  | nil => rfl
  | cons e entries ih =>
    rw [noted, List.foldl_cons, ← noted, ← ih]
    rfl

theorem run_send (h : (session.exchange wire).run.run before = (outcome, after)) :
    (session.send wire).run.run before =
      (outcome.mapError (Failure.within ("failed to execute " ++ wire)), after) :=
  run_adapt h _

def remarks (notes : Reply → List Log.Entry) : Except Failure Reply → List Log.Entry
  | .ok reply => notes reply
  | .error _ => []

theorem run_read {α : Type} (h : (session.exchange wire).run.run before = (outcome, after))
    (notes : Reply → List Log.Entry) (read : Reply → Except Failure α) :
    (session.send wire >>= fun reply => session.noteAll (notes reply) >>= fun _ =>
        (ExceptT.mk (pure (read reply)) : ExceptT Failure (StateM σ) α)).run.run before =
      ((outcome.mapError (Failure.within ("failed to execute " ++ wire))).bind read,
        session.noted after (remarks notes outcome)) := by
  rw [ExceptT.run_bind, StateT.run_bind, session.run_send h]
  cases outcome with
  | error e => rfl
  | ok reply =>
    change StateT.run (session.noteAll _ >>= _).run after = _
    rw [ExceptT.run_bind, StateT.run_bind, run_noteAll]
    rfl

theorem run_execute (h : (session.exchange wire).run.run before = (outcome, after))
    (f : Report.Format) (r : Request) : (session.execute f r wire).run.run before =
      ((outcome.mapError (Failure.within ("failed to execute " ++ wire))).bind (r.answer f),
        session.noted after (remarks r.notes outcome)) :=
  session.run_read h r.notes (r.answer f)

end Session

def Query.got (q : Query) (wire : String) (outcome : Except Failure Reply) :
    Except Failure Response :=
  (outcome.mapError (Failure.within ("failed to execute " ++ wire))).bind fun reply =>
    (Response.ofFrame q reply.data reply.received).mapError
      (Failure.within ("invalid response to " ++ q.name))

def Query.remarks (q : Query) : Except Failure Reply → List Log.Entry :=
  Session.remarks fun reply => Response.notesOfFrame q reply.data reply.received

theorem Query.got_eq_ok_iff {q : Query} {wire : String} {outcome : Except Failure Reply}
    {r : Response} : q.got wire outcome = .ok r ↔
      ∃ reply, outcome = .ok reply ∧ Response.ofFrame q reply.data reply.received = .ok r := by
  constructor
  · intro h
    cases outcome with
    | error e => cases h
    | ok reply => exact ⟨reply, rfl, mapError_eq_ok_iff.mp h⟩
  · rintro ⟨reply, rfl, hread⟩
    exact mapError_eq_ok_iff.mpr hread

namespace Session

variable {σ : Type} (session : Session (StateM σ)) {before after : σ} {q : Query} {wire : String}
  {outcome : Except Failure Reply}

theorem run_ask (hbuild : (Command.query q).build [] = .ok wire)
    (h : (session.exchange wire).run.run before = (outcome, after)) :
    (session.ask q).run.run before =
      (q.got wire outcome, session.noted after (q.remarks outcome)) := by
  rw [ask, hbuild]
  exact session.run_read h _ fun reply =>
    (Response.ofFrame q reply.data reply.received).mapError
      (Failure.within ("invalid response to " ++ q.name))

variable {qs : List Query} {e : Failure} {r : Response} {last : σ}
  {result : Except Failure (List (Query × Response))}

theorem run_askAll_cons_error (h : (session.ask q).run.run before = (.error e, after)) :
    (session.askAll (q :: qs)).run.run before = (.error e, after) := by
  rw [askAll, ExceptT.run_bind, StateT.run_bind, h]
  rfl

theorem run_askAll_cons_ok (h : (session.ask q).run.run before = (.ok r, after))
    (hrest : (session.askAll qs).run.run after = (result, last)) :
    (session.askAll (q :: qs)).run.run before = (result.map ((q, r) :: ·), last) := by
  rw [askAll, ExceptT.run_bind, StateT.run_bind, h]
  change StateT.run (session.askAll qs >>= _).run after = _
  rw [ExceptT.run_bind, StateT.run_bind, hrest]
  cases result <;> rfl

theorem run_dump (h : (session.askAll Query.dumped).run.run before = (result, after))
    (f : Report.Format) :
    (session.dump f).run.run before = (result.map (Response.renderAll f), after) := by
  rw [dump, ExceptT.run_bind, StateT.run_bind, h]
  cases result <;> rfl

end Session
end HybridInverter
