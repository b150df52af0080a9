import HybridInverter.Host.Basic

/-!
A host whose devices are watched: every opening and every exchange is taken down with what came of
it, and everything else is as it was.
-/
namespace HybridInverter

inductive Dealing where
  | opened (d : Device) (outcome : Except Failure Unit)
  | exchanged (wire : String) (outcome : Except Failure Reply)

/-- A state, and what has been done with devices on the way to it. -/
structure Watched (σ : Type) where
  state : σ
  dealings : List Dealing := []

namespace Watched

variable {σ α β : Type}

def add (w : Watched σ) (d : Dealing) : Watched σ :=
  { w with dealings := w.dealings ++ [d] }

def aside (x : StateM σ α) : StateM (Watched σ) α := do
  let w ← get
  let (a, s) := x.run w.state
  set { w with state := s }
  return a

def asideOf (x : ExceptT Failure (StateM σ) α) : ExceptT Failure (StateM (Watched σ)) α :=
  ExceptT.mk (aside x.run)

/-- A session whose exchanges are taken down. -/
def session (s : Session (StateM σ)) : Session (StateM (Watched σ)) where
  exchange wire := ExceptT.mk do
    let outcome ← aside (s.exchange wire).run
    modify (·.add (.exchanged wire outcome))
    return outcome
  note e := aside (s.note e)

/-- A host whose openings are taken down, and the exchanges behind them. -/
def host (h : Host (StateM σ)) : Host (StateM (Watched σ)) where
  readText file := aside (h.readText file)
  isPresent file := aside (h.isPresent file)
  clock := aside h.clock
  startLog filter warnings := aside (h.startLog filter warnings)
  note e := aside (h.note e)
  openDevice d l timeout := ExceptT.mk do
    let outcome ← aside (h.openDevice d l timeout).run
    modify (·.add (.opened d (outcome.map fun _ => ())))
    return outcome.map session

theorem run_aside (x : StateM σ α) (w : Watched σ) :
    (aside x).run w = ((x.run w.state).1, { w with state := (x.run w.state).2 }) := rfl

theorem aside_bind (x : StateM σ α) (f : α → StateM σ β) :
    aside (x >>= f) = aside x >>= fun a => aside (f a) := rfl

theorem asideOf_bind (x : ExceptT Failure (StateM σ) α) (f : α → ExceptT Failure (StateM σ) β) :
    asideOf (x >>= f) = asideOf x >>= fun a => asideOf (f a) := by
  apply ExceptT.ext
  rw [ExceptT.run_bind]
  change aside (x >>= f).run = aside x.run >>= _
  rw [ExceptT.run_bind, aside_bind]
  congr 1
  funext outcome
  cases outcome <;> rfl

theorem asideOf_forM {γ : Type} (f : γ → ExceptT Failure (StateM σ) PUnit) (xs : List γ) :
    asideOf (xs.forM f) = xs.forM fun x => asideOf (f x) := by
  induction xs with
  | nil => rfl
  | cons x xs ih =>
    rw [List.forM, List.forM, asideOf_bind]
    simp only [ih]

variable (h : Host (StateM σ))

theorem loadFile_host (file : String) :
    Settings.loadFile (host h) file = asideOf (Settings.loadFile h file) := by
  rw [Settings.loadFile, Settings.loadFile, asideOf_bind]
  congr 1
  funext _
  rw [asideOf_bind]
  congr 1
  funext outcome
  cases outcome with
  | error reason => rfl
  | ok text =>
    dsimp only
    cases Settings.ofText? text with
    | none => rfl
    | some s =>
      dsimp only
      rw [asideOf_bind, asideOf_forM]
      rfl

theorem load_host (file? : Option String) :
    Settings.load (host h) file? = asideOf (Settings.load h file?) := by
  cases file? with
  | some file => exact loadFile_host h file
  | none =>
    rw [Settings.load, Settings.load, asideOf_bind]
    congr 1
    funext isThere
    cases isThere with
    | true => exact loadFile_host h _
    | false => rfl

theorem run_openDevice {d : Device} {l : Link} {timeout : Nat} {w : Watched σ}
    {outcome : Except Failure (Session (StateM σ))} {state : σ}
    (hopen : (h.openDevice d l timeout).run.run w.state = (outcome, state)) :
    ((host h).openDevice d l timeout).run.run w = (outcome.map session,
      ⟨state, w.dealings ++ [.opened d (outcome.map fun _ => ())]⟩) := by
  have hrun : ((host h).openDevice d l timeout).run.run w =
      (fun opened : Except Failure (Session (StateM σ)) × σ => (opened.1.map session,
        (⟨opened.2, w.dealings ++ [.opened d (opened.1.map fun _ => ())]⟩ : Watched σ)))
        ((h.openDevice d l timeout).run.run w.state) := rfl
  rw [hrun, hopen]

def Follows (x : StateM (Watched σ) α) (y : StateM σ α) : Prop :=
  ∀ w, ((x.run w).1, (x.run w).2.state) = y.run w.state

theorem follows_aside (x : StateM σ α) : Follows (aside x) x := fun _ => rfl

theorem follows_pure (a : α) : Follows (pure a) (pure a : StateM σ α) := fun _ => rfl

theorem Follows.bind {x : StateM (Watched σ) α} {y : StateM σ α} {f : α → StateM (Watched σ) β}
    {g : α → StateM σ β} (hx : Follows x y) (hf : ∀ a, Follows (f a) (g a)) :
    Follows (x >>= f) (y >>= g) := by
  intro w
  rw [StateT.run_bind, StateT.run_bind, ← hx w]
  exact hf _ _

theorem Follows.bind_of {x : ExceptT Failure (StateM (Watched σ)) α}
    {y : ExceptT Failure (StateM σ) α} {f : α → ExceptT Failure (StateM (Watched σ)) β}
    {g : α → ExceptT Failure (StateM σ) β} (hx : Follows x.run y.run)
    (hf : ∀ a, Follows (f a).run (g a).run) : Follows (x >>= f).run (y >>= g).run := by
  rw [ExceptT.run_bind, ExceptT.run_bind]
  refine hx.bind fun outcome => ?_
  cases outcome with
  | error e => exact follows_pure _
  | ok a => exact hf a

theorem follows_send (t : Session (StateM σ)) (wire : String) :
    Follows ((session t).send wire).run (t.send wire).run :=
  Follows.bind (y := (t.exchange wire).run) (fun _ => rfl) fun _ => follows_pure _

theorem follows_noteAll (t : Session (StateM σ)) (entries : List Log.Entry) :
    Follows ((session t).noteAll entries).run (t.noteAll entries).run := by
  induction entries with
  | nil => exact follows_pure _
  | cons e entries ih => exact Follows.bind_of (y := liftM (t.note e)) (fun _ => rfl) fun _ => ih

theorem follows_session_execute (t : Session (StateM σ)) (f : Report.Format) (r : Request)
    (wire : String) :
    Follows ((session t).execute f r wire).run (t.execute f r wire).run :=
  (follows_send t wire).bind_of fun _ => (follows_noteAll t _).bind_of fun _ => follows_pure _

theorem follows_ask (t : Session (StateM σ)) (q : Query) :
    Follows ((session t).ask q).run (t.ask q).run :=
  Follows.bind_of (follows_pure _) fun _ => (follows_send t _).bind_of fun _ =>
    (follows_noteAll t _).bind_of fun _ => follows_pure _

theorem follows_askAll (t : Session (StateM σ)) (qs : List Query) :
    Follows ((session t).askAll qs).run (t.askAll qs).run := by
  induction qs with
  | nil => exact follows_pure _
  | cons q qs ih => exact (follows_ask t q).bind_of fun _ => ih.bind_of fun _ => follows_pure _

theorem follows_dump (t : Session (StateM σ)) (f : Report.Format) :
    Follows ((session t).dump f).run (t.dump f).run :=
  (follows_askAll t _).bind_of fun _ => follows_pure _

end Watched
end HybridInverter
