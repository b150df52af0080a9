import HybridInverter.Application
import HybridInverter.Host.Machine
import HybridInverter.Proofs.Request.Build
import HybridInverter.Proofs.Session.Dealings

/-!
What the code of an ending tells of the device. Behind a command line that can be read the code is
that of wrong usage exactly when the settings or the request are wrong, and then no device has been
touched; it is that of a failure exactly when something done with a device went wrong. A command
line that cannot be read ends with the code of a failure, and nothing has been touched either.

What is done with a device is seen by watching the host, and the program comes to the same whether
it is watched or not.
-/
namespace HybridInverter

theorem Action.exists_wire {action : Action} {now : List String} {r : Request}
    (h : action.toRequest now = .ok r) :
    ∃ wire?, r.wire = .ok wire? ∧ (wire? = none ↔ r = .dump) := by
  cases action with
  | raw command =>
    simp only [toRequest] at h
    split at h
    · obtain rfl := Except.ok.inj h
      exact ⟨some command, rfl, by simp⟩
    · cases h
  | dump =>
    obtain rfl := Except.ok.inj h
    exact ⟨none, rfl, by simp⟩
  | execute c args =>
    obtain ⟨resolved, rfl, hresolved⟩ := of_toRequest_execute h
    obtain ⟨-, texts, hbuild, -⟩ := Command.build_of_resolveAll hresolved
    refine ⟨some (c.frameOf (c.shape.separator.intercalate texts)), ?_, by simp⟩
    rw [Request.wire, hbuild]
    rfl

namespace Application

open Watched

variable {σ : Type} (h : Host (StateM σ)) {action : Action} {now : List String} {r : Request}
  (s : Settings)

def outset {m : Type → Type} [Monad m] (h : Host m) (i : CommandLine.Invocation) :
    m (Report.Format × Except Failure (Settings × Request)) := do
  let settings ← (prepare h i.options).run
  let (filter, warnings) := Log.Filter.ofText (logLevel i.options settings)
  h.startLog filter warnings
  let now ← h.clock
  return (format i.options settings, do return (← settings, ← i.action.toRequest now))

def proceed {m : Type → Type} [Monad m] (h : Host m) (pretended : Bool)
    (begun : Report.Format × Except Failure (Settings × Request)) : m Ending :=
  match begun.2 with
  | .ok (s, r) => carryOut h s pretended r
  | .error f => fail h begun.1 Ending.usage f

theorem invoke_eq (i : CommandLine.Invocation) :
    invoke h i = outset h i >>= proceed h i.options.pretend := rfl

theorem prepare_host (o : Options) : prepare (host h) o = asideOf (prepare h o) := by
  rw [prepare, prepare, load_host, asideOf_bind]
  rfl

theorem outset_host (i : CommandLine.Invocation) : outset (host h) i = aside (outset h i) := by
  rw [outset, outset, prepare_host]
  rfl

theorem fail_host (f : Report.Format) (code : Nat) (e : Failure) :
    fail (host h) f code e = aside (fail h f code e) := by
  unfold fail
  split <;> rfl

theorem code_fail (f : Report.Format) (code : Nat) (e : Failure) (st : σ) :
    ((fail h f code e).run st).1.code = code := by
  unfold fail
  split <;> rfl

theorem of_ready {settings : Except Failure Settings} {asked : Except Failure Request}
    (h : (do return (← settings, ← asked)) = Except.ok (s, r)) :
    settings = .ok s ∧ asked = .ok r := by
  obtain ⟨s', hs, h⟩ := bind_eq_ok_iff.mp h
  obtain ⟨r', hr, h⟩ := bind_eq_ok_iff.mp h
  obtain ⟨rfl, rfl⟩ := Prod.mk.inj (Except.ok.inj h)
  exact ⟨hs, hr⟩

theorem toRequest_of_outset {i : CommandLine.Invocation} {st : σ}
    (hready : ((outset h i).run st).1.2 = .ok (s, r)) : ∃ now, i.action.toRequest now = .ok r :=
  ⟨_, (of_ready s hready).2⟩

def converse {m : Type → Type} [Monad m] (session : Session m) (f : Report.Format) (r : Request) :
    Option String → ExceptT Failure m String
  | some wire => session.execute f r wire
  | none => session.dump f

theorem run_execute {wire? : Option String} (hwire : r.wire = .ok wire?) (w : Watched σ) :
    ∃ before outcome, ∃ w' : Watched σ,
      ((h.openDevice s.device (s.device.link s.checksums) s.timeout).run.run before).1 = outcome ∧
      w'.dealings = w.dealings ++ [.opened s.device (outcome.map fun _ => ())] ∧
      (execute (host h) s r).run.run w =
        match outcome with
        | .error f => (.error (f.within ("failed to open " ++ s.device.name)), w')
        | .ok t => (converse (session t) s.format r wire?).run.run w' := by
  let noted := ((aside (h.note s.device.noteOpening)).run w).2
  let link := s.device.link s.checksums
  have hexecute : (execute (host h) s r).run.run w =
      (ExceptT.adapt (Failure.within ("failed to open " ++ s.device.name))
        ((host h).openDevice s.device link s.timeout) >>= fun t =>
          converse t s.format r wire?).run.run noted := by
    rw [execute, hwire]
    rfl
  cases hopen : (h.openDevice s.device link s.timeout).run.run noted.state with
  | mk outcome state =>
    rw [hexecute, ExceptT.run_bind, StateT.run_bind, run_adapt (run_openDevice h hopen)]
    refine ⟨noted.state, outcome, ⟨state, w.dealings ++ [.opened s.device (outcome.map fun _ => ())]⟩,
      congrArg Prod.fst hopen, rfl, ?_⟩
    cases outcome <;> rfl

theorem accounted_execute (haccepted : action.toRequest now = .ok r) (w : Watched σ) :
    ∃ outcome dealings, Accounted r w (.opened s.device outcome :: dealings)
      ((execute (host h) s r).run.run w) := by
  obtain ⟨wire?, hwire, hdump⟩ := Action.exists_wire haccepted
  obtain ⟨_, outcome, w', -, hdealings, hrun⟩ := run_execute h s hwire w
  rw [hrun]
  cases outcome with
  | error f => exact ⟨_, [], .singleton hdealings ⟨fun _ => ⟨f, rfl⟩, fun _ => ⟨_, rfl⟩⟩⟩
  | ok t =>
    have hopened : ¬ Dealing.Fails r (.opened s.device (.ok ())) := by
      rintro ⟨f, hf⟩
      cases hf
    obtain ⟨dealings, hsaid⟩ : ∃ dealings, Accounted r w' dealings
        ((converse (session t) s.format r wire?).run.run w') := by
      cases wire? with
      | some wire => exact accounted_session_execute t (mt hdump.mpr (Option.some_ne_none _)) _ _
      | none =>
        obtain rfl := hdump.mp rfl
        exact accounted_dump t _ _
    exact ⟨_, dealings, .cons hopened hdealings hsaid⟩

theorem run_forM_note {γ : Type} (e : γ → Log.Entry) (xs : List γ) (st : σ) :
    ∃ st', (xs.forM fun x => (liftM (h.note (e x)) : ExceptT Failure (StateM σ) Unit)).run.run st =
      (.ok (), st') := by
  induction xs generalizing st with
  | nil => exact ⟨st, rfl⟩
  | cons x xs ih => exact ih ((h.note (e x)).run st).2

theorem pretend_host (r : Request) : pretend (host h) r = asideOf (pretend h r) := by
  rw [pretend, pretend, asideOf_bind]
  congr 1
  funext wires
  rw [asideOf_bind, asideOf_forM]
  rfl

theorem frames_dump : frames .dump = Query.dumped.mapM fun q => (Command.query q).build [] := by
  -- Not by evaluation: that would build every frame.
  change (pure none >>= _) = _
  rw [pure_bind]

theorem exists_frames (haccepted : action.toRequest now = .ok r) :
    ∃ wires, frames r = .ok wires := by
  obtain ⟨wire?, hwire, hdump⟩ := Action.exists_wire haccepted
  cases wire? with
  | some wire =>
    refine ⟨[wire], ?_⟩
    rw [frames, hwire]
    rfl
  | none =>
    obtain rfl := hdump.mp rfl
    obtain ⟨wires, hwires, -⟩ := Script.exists_wires
    exact ⟨wires, frames_dump.trans hwires⟩

theorem accounted_pretend (haccepted : action.toRequest now = .ok r) (w : Watched σ) :
    Accounted r w [] ((pretend (host h) r).run.run w) := by
  obtain ⟨wires, hwires⟩ := exists_frames haccepted
  obtain ⟨st, hnotes⟩ := run_forM_note h notePretended wires w.state
  have hrun : (pretend h r).run.run w.state = (.ok "", st) := by
    rw [pretend, hwires]
    change StateT.run (ExceptT.run (List.forM wires _ >>= _)) w.state = _
    rw [ExceptT.run_bind, StateT.run_bind, hnotes]
    rfl
  have hwatched : (pretend (host h) r).run.run w = (.ok "", ⟨st, w.dealings⟩) := by
    rw [pretend_host]
    change (aside (pretend h r).run).run w = _
    rw [run_aside, hrun]
  rw [hwatched]
  exact ⟨(List.append_nil _).symm, by simp⟩

/-- What an accepted request does with a device: nothing if it is only pretended, else the device
of the settings is opened first. -/
def Touches (s : Settings) (pretended : Bool) (dealings : List Dealing) : Prop :=
  if pretended then dealings = []
  else ∃ outcome, dealings.head? = some (.opened s.device outcome)

theorem accounted_run (haccepted : action.toRequest now = .ok r) (pretended : Bool)
    (w : Watched σ) : ∃ dealings, Touches s pretended dealings ∧
      Accounted r w dealings ((run (host h) s pretended r).run.run w) := by
  cases pretended with
  | true => exact ⟨[], rfl, accounted_pretend h haccepted w⟩
  | false =>
    obtain ⟨outcome, dealings, hran⟩ := accounted_execute h s haccepted w
    exact ⟨_, ⟨outcome, rfl⟩, hran⟩

def conclude {m : Type → Type} [Monad m] (h : Host m) (f : Report.Format) :
    Except Failure String → m Ending
  | .ok output =>
    return { code := Ending.done, printed := if output.isEmpty then none else some output }
  | .error e => fail h f Ending.failure e

theorem conclude_host (f : Report.Format) (outcome : Except Failure String) :
    conclude (host h) f outcome = aside (conclude h f outcome) := by
  cases outcome with
  | ok output => rfl
  | error e => exact fail_host h f _ e

/-- An accepted request ends with the code of a failure when something done with the device
failed, and only then. -/
theorem code_carryOut (haccepted : action.toRequest now = .ok r) (pretended : Bool)
    (w : Watched σ) :
    let ended := (carryOut (host h) s pretended r).run w
    ∃ dealings, ended.2.dealings = w.dealings ++ dealings ∧ Touches s pretended dealings ∧
      (ended.1.code = Ending.done ∧ (∀ d ∈ dealings, ¬ d.Fails r) ∨
        ended.1.code = Ending.failure ∧ ∃ d ∈ dealings, d.Fails r) := by
  intro ended
  let noted := ((aside (h.note (noteDevice s.device))).run w).2
  obtain ⟨dealings, htouches, hran⟩ := accounted_run h s haccepted pretended noted
  cases hrun : (run (host h) s pretended r).run.run noted with
  | mk outcome w' =>
    have hended : ended = (conclude (host h) s.format outcome).run w' := by
      have hbind : ended = ((run (host h) s pretended r).run >>= conclude (host h) s.format).run
          noted := rfl
      rw [hbind, StateT.run_bind, hrun]
      rfl
    rw [hrun] at hran
    rw [hended, conclude_host, run_aside]
    refine ⟨dealings, hran.dealings_eq, htouches, ?_⟩
    cases outcome with
    | ok output =>
      refine .inl ⟨rfl, fun d hd hfails => ?_⟩
      obtain ⟨f, hf⟩ := hran.fails_iff.mpr ⟨d, hd, hfails⟩
      cases hf
    | error f => exact .inr ⟨code_fail .., hran.fails_iff.mp ⟨f, rfl⟩⟩

theorem follows_execute (r : Request) :
    Follows (execute (host h) s r).run (execute h s r).run := by
  refine Follows.bind_of (follows_pure _) fun wire? => Follows.bind_of (fun _ => rfl) fun _ => ?_
  intro w
  cases hopen : (h.openDevice s.device (s.device.link s.checksums) s.timeout).run.run w.state with
  | mk outcome state =>
    rw [ExceptT.run_bind, ExceptT.run_bind, StateT.run_bind, StateT.run_bind, run_adapt hopen,
      run_adapt (run_openDevice h hopen)]
    cases outcome with
    | error e => rfl
    | ok t =>
      cases wire? with
      | some wire => exact follows_session_execute t s.format r wire _
      | none => exact follows_dump t s.format _

theorem follows_run (pretended : Bool) (r : Request) :
    Follows (run (host h) s pretended r).run (run h s pretended r).run := by
  cases pretended with
  | true =>
    change Follows (pretend (host h) r).run (pretend h r).run
    rw [pretend_host]
    exact follows_aside _
  | false => exact follows_execute h s r

theorem follows_carryOut (pretended : Bool) (r : Request) :
    Follows (carryOut (host h) s pretended r) (carryOut h s pretended r) := by
  refine Follows.bind (y := h.note (noteDevice s.device)) (fun _ => rfl) fun _ => ?_
  refine (follows_run h s pretended r).bind fun outcome => ?_
  change Follows (conclude (host h) s.format outcome) (conclude h s.format outcome)
  rw [conclude_host]
  exact follows_aside _

/-- The program comes to the same whether it is watched or not. -/
theorem follows_start (words : List String) : Follows (start (host h) words) (start h words) := by
  unfold start
  split
  · rw [invoke_eq, invoke_eq, outset_host]
    refine (follows_aside _).bind fun begun => ?_
    unfold proceed
    split
    · exact follows_carryOut h _ _ _
    · rw [fail_host]
      exact follows_aside _
  · exact follows_pure _

/-- The code of an ending and the device. Settings and request in order: the code is that of a
failure exactly when something done with the device failed. One of them wrong: nothing has been done
with any device, and the code is that of wrong usage. A command line that cannot be read: nothing
has been done either, but unless help or the version was asked for the code is that of a failure. -/
theorem code_tells_dealings (words : List String) (w : Watched σ) :
    let ended := (start (host h) words).run w
    (start h words).run w.state = (ended.1, ended.2.state) ∧
      match CommandLine.read words with
      | .error refusal => ended.2.dealings = w.dealings ∧ ended.1.code =
          if refusal = .help ∨ refusal = .version then Ending.done else Ending.failure
      | .ok i =>
        match ((outset h i).run w.state).1.2 with
        | .error _ => ended.2.dealings = w.dealings ∧ ended.1.code = Ending.usage
        | .ok (s, r) => ∃ dealings, ended.2.dealings = w.dealings ++ dealings ∧
            Touches s i.options.pretend dealings ∧
            (ended.1.code = Ending.done ∧ (∀ d ∈ dealings, ¬ d.Fails r) ∨
              ended.1.code = Ending.failure ∧ ∃ d ∈ dealings, d.Fails r) := by
  intro ended
  refine ⟨(follows_start h words w).symm, ?_⟩
  cases hread : CommandLine.read words with
  | error refusal =>
    have hended : ended = (ofRefusal refusal, w) := by
      simp only [ended, start, hread]
      rfl
    rw [hended]
    exact ⟨rfl, by cases refusal <;> rfl⟩
  | ok i =>
    cases hbegun : (outset h i).run w.state with
    | mk begun state =>
      have hended : ended = (proceed (host h) i.options.pretend begun).run ⟨state, w.dealings⟩ := by
        simp only [ended, start, hread]
        rw [invoke_eq, outset_host, StateT.run_bind, run_aside, hbegun]
        rfl
      obtain ⟨f, ready⟩ := begun
      dsimp only
      rw [hended, hbegun]
      cases ready with
      | error e =>
        dsimp only [proceed]
        rw [fail_host, run_aside]
        exact ⟨rfl, code_fail ..⟩
      | ok ready =>
        obtain ⟨now, haccepted⟩ := toRequest_of_outset h ready.1 (congrArg (·.1.2) hbegun)
        exact code_carryOut h ready.1 haccepted i.options.pretend _

/-- A timeout out of range on the command line ends with the code of a failure. -/
theorem code_of_timeout_zero :
    CommandLine.read ["-t", "0", "dump"] = .error .outOfRange ∧
      let ended := (start (host Machine.host) ["-t", "0", "dump"]).run ⟨{}, []⟩
      ended.2.dealings = [] ∧ ended.1.code = Ending.failure := by
  have hread : CommandLine.read ["-t", "0", "dump"] = .error .outOfRange := by decide +kernel
  have hcode := code_tells_dealings Machine.host ["-t", "0", "dump"] ⟨{}, []⟩
  rw [hread] at hcode
  exact ⟨hread, hcode.2⟩

end Application
end HybridInverter
