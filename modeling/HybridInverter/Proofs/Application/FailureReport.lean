import HybridInverter.Proofs.Application.Ending
import HybridInverter.Proofs.Session.Refusal
import HybridInverter.Proofs.Settings.Merge

/-!
How a failure is told to readers of JSON. Where the settings load and JSON is the format to use, the
one line on the output is an object with the text of the failure, or with the word for a setting that
the device has refused. There is one exception: when the options do not go together with settings
that have loaded, the format that these asked for is forgotten, and only one among the options
counts.
-/
namespace HybridInverter

def Dealing.Refuses : Dealing → Prop
  | .opened .. => False
  | .exchanged _ outcome => ∃ reply, outcome = .ok reply ∧ reply.Refuses

namespace Action

def IsSetting (action : Action) : Prop :=
  ∃ s args, action = .execute (.setting s) args

/-- A setting was to be changed, and the device has refused. -/
def RefusedIn (action : Action) (dealings : List Dealing) : Prop :=
  action.IsSetting ∧ ∃ d ∈ dealings, d.Refuses

theorem isSetting_iff_of_toRequest {action : Action} {now : List String} {r : Request}
    (h : action.toRequest now = .ok r) : r.IsSetting ↔ action.IsSetting := by
  cases action with
  | raw command =>
    simp only [toRequest] at h
    split at h
    · obtain rfl := Except.ok.inj h
      simp [Request.IsSetting, IsSetting]
    · cases h
  | dump =>
    obtain rfl := Except.ok.inj h
    simp [Request.IsSetting, IsSetting]
  | execute c args =>
    obtain ⟨resolved, rfl, -⟩ := of_toRequest_execute h
    simp [Request.IsSetting, IsSetting]

end Action

namespace Settings

theorem format_of_merge {o : Options} {s s' : Settings} (h : s.merge o = .ok s') :
    s'.format = o.format.getD s.format := by
  obtain ⟨device, -, rfl, -⟩ := merge_eq_ok_iff.mp h
  rfl

end Settings

namespace Watched

variable {σ α : Type} {r : Request} {w : Watched σ}

/-- A run comes to a refusal exactly when it was to change a setting and the device has refused. -/
def Attributed (r : Request) (w : Watched σ) (ran : Except Failure α × Watched σ) : Prop :=
  ∃ dealings, ran.2.dealings = w.dealings ++ dealings ∧
    (IsRefusal ran.1 ↔ r.IsSetting ∧ ∃ d ∈ dealings, d.Refuses)

theorem Attributed.cons {d : Dealing} (hd : ¬ d.Refuses) {w' : Watched σ}
    (hdealings : w'.dealings = w.dealings ++ [d]) {ran : Except Failure α × Watched σ}
    (h : Attributed r w' ran) : Attributed r w ran := by
  obtain ⟨dealings, heq, hiff⟩ := h
  refine ⟨d :: dealings, ?_, ?_⟩
  · rw [heq, hdealings, List.append_assoc]
    rfl
  · rw [hiff, List.exists_mem_cons_iff, or_iff_right hd]

variable {t : Session (StateM σ)}

theorem impartial_session (ht : t.Impartial) : (session t).Impartial :=
  fun wire w => ht wire w.state

theorem attributed_session_execute (ht : t.Impartial) (f : Report.Format) (wire : String) :
    Attributed r w (((session t).execute f r wire).run.run w) := by
  obtain ⟨outcome, state, hexchange⟩ := run_exchange t wire w
  refine ⟨[.exchanged wire outcome], ?_, ?_⟩
  · rw [(session t).run_execute hexchange f r]
    exact dealings_noted ..
  · rw [Session.isRefusal_execute_iff (impartial_session ht) hexchange]
    simp [Dealing.Refuses]

theorem attributed_dump (ht : t.Impartial) (f : Report.Format) :
    Attributed .dump w (((session t).dump f).run.run w) := by
  obtain ⟨dealings, h⟩ := accounted_dump t f w
  refine ⟨dealings, h.dealings_eq, ?_⟩
  simp [Session.not_isRefusal_dump (impartial_session ht), Request.IsSetting]

end Watched

namespace Application

open Watched

variable {σ : Type} {h : Host (StateM σ)} {action : Action} {now : List String} {r : Request}
  {s : Settings}

theorem attributed_execute (hh : h.Impartial) (haccepted : action.toRequest now = .ok r)
    (w : Watched σ) : Attributed r w ((execute (host h) s r).run.run w) := by
  obtain ⟨wire?, hwire, hdump⟩ := Action.exists_wire haccepted
  obtain ⟨before, outcome, w', hopen, hdealings, hrun⟩ := run_execute h s hwire w
  rw [hrun]
  cases outcome with
  | error f =>
    have hopening := hh.opening s.device (s.device.link s.checksums) s.timeout before
    rw [hopen] at hopening
    refine ⟨_, hdealings, ?_⟩
    simpa [Dealing.Refuses] using hopening
  | ok t =>
    have ht : t.Impartial := hh.session _ _ _ _ t hopen
    refine Attributed.cons (by simp [Dealing.Refuses]) hdealings ?_
    cases wire? with
    | some wire => exact attributed_session_execute ht ..
    | none =>
      obtain rfl := hdump.mp rfl
      exact attributed_dump ht _

theorem attributed_run (hh : h.Impartial) (haccepted : action.toRequest now = .ok r)
    (pretended : Bool) (w : Watched σ) :
    Attributed r w ((run (host h) s pretended r).run.run w) := by
  cases pretended with
  | true =>
    obtain ⟨hdealings, hfails⟩ := accounted_pretend h haccepted w
    have hnever : ¬ IsRefusal ((pretend (host h) r).run.run w).1 := by
      rintro ⟨e, he, -⟩
      simpa using hfails.mp ⟨e, he⟩
    exact ⟨[], hdealings, iff_of_false hnever (by simp)⟩
  | false => exact attributed_execute hh haccepted w

def pursue {m : Type → Type} [Monad m] (h : Host m) (pretended : Bool) :
    Except Failure (Settings × Request) → m (Except Failure String)
  | .ok (s, r) => do
    h.note (noteDevice s.device)
    (run h s pretended r).run
  | .error e => return .error e

def attempt {m : Type → Type} [Monad m] (h : Host m) (i : CommandLine.Invocation) :
    m (Except Failure String) := do
  pursue h i.options.pretend (← outset h i).2

theorem follows_pursue (pretended : Bool) (ready : Except Failure (Settings × Request)) :
    Follows (pursue (host h) pretended ready) (pursue h pretended ready) := by
  cases ready with
  | error e => exact follows_pure _
  | ok ready => exact Follows.bind (y := h.note _) (fun _ => rfl) fun _ => follows_run h _ _ _

theorem follows_attempt (i : CommandLine.Invocation) :
    Follows (attempt (host h) i) (attempt h i) := by
  rw [attempt, attempt, outset_host]
  exact (follows_aside _).bind fun begun => follows_pursue _ _

theorem run_outset {i : CommandLine.Invocation} {st loaded : σ}
    (hload : (Settings.load h i.options.settingsFile).run.run st = (.ok s, loaded)) :
    let settings := (s.merge i.options).mapError Failure.settings
    ∃ now after, (outset h i).run st =
      ((format i.options settings, do return (← settings, ← i.action.toRequest now)), after) := by
  intro settings
  have hprepare : (prepare h i.options).run.run st = (settings, loaded) := by
    rw [prepare, ExceptT.run_bind, StateT.run_bind, hload]
    rfl
  rw [outset, StateT.run_bind, hprepare]
  exact ⟨_, _, rfl⟩

theorem attempt_of_merge {i : CommandLine.Invocation} {st loaded : σ}
    (hload : (Settings.load h i.options.settingsFile).run.run st = (.ok s, loaded))
    {fault : SettingsFault} (hmerge : s.merge i.options = .error fault) :
    ((attempt h i).run st).1 = .error (.settings fault) := by
  obtain ⟨now, after, hbegun⟩ := run_outset hload
  rw [attempt, StateT.run_bind, hbegun, hmerge]
  rfl

theorem format_of_outset {i : CommandLine.Invocation} {st : σ} {f : Report.Format}
    (hbegun : ((outset h i).run st).1 = (f, .ok (s, r))) : f = s.format := by
  let settings := ((prepare h i.options).run.run st).1
  have hsettings : settings = .ok s := (of_ready s (congrArg Prod.snd hbegun)).1
  have hf : format i.options settings = f := congrArg Prod.fst hbegun
  rw [← hf, hsettings]
  rfl

/-- With another code than that of success there was a failure, and it has been told in the format of
the outset. -/
theorem told_of_code {i : CommandLine.Invocation} {st : σ}
    (hcode : ((invoke h i).run st).1.code ≠ Ending.done) : ∃ e code,
      ((attempt h i).run st).1 = .error e ∧ (invoke h i).run st =
        (fail h ((outset h i).run st).1.1 code e).run ((attempt h i).run st).2 := by
  rw [invoke_eq, StateT.run_bind] at hcode ⊢
  rw [attempt, StateT.run_bind]
  cases hbegun : (outset h i).run st with
  | mk begun after =>
    obtain ⟨f, ready⟩ := begun
    rw [hbegun] at hcode
    cases ready with
    | error e => exact ⟨e, _, rfl, rfl⟩
    | ok ready =>
      obtain ⟨s, r⟩ := ready
      -- a request is told in the format of its settings, which is that of the outset
      obtain rfl := format_of_outset (congrArg Prod.fst hbegun)
      let noted := ((h.note (noteDevice s.device)).run after).2
      cases hrun : (run h s i.options.pretend r).run.run noted with
      | mk outcome last =>
        have hproceed : (proceed h i.options.pretend (s.format, .ok (s, r))).run after =
            (conclude h s.format outcome).run last := by
          change ((run h s i.options.pretend r).run >>= conclude h s.format).run noted = _
          rw [StateT.run_bind, hrun]
          rfl
        change ((proceed h i.options.pretend (s.format, .ok (s, r))).run after).1.code ≠ _ at hcode
        rw [hproceed] at hcode
        cases outcome with
        | ok output => exact absurd rfl hcode
        | error e =>
          refine ⟨e, Ending.failure, congrArg Prod.fst hrun, hproceed.trans ?_⟩
          exact congrArg (fun ran => (fail h s.format Ending.failure e).run ran.2) hrun.symm

theorem not_isRefusal_settings {α : Type} (x : Except SettingsFault α) :
    ¬ IsRefusal (x.mapError Failure.settings) := by
  cases x <;> simp [Except.mapError, Failure.settings]

/-- The settings that have loaded do not go together with the options, and no format is among
these. -/
def FormatForgotten (o : Options) (s : Settings) : Prop :=
  o.format = none ∧ ∃ fault, s.merge o = .error fault

theorem format_eq_getD {o : Options} (h : ¬ FormatForgotten o s) :
    format o ((s.merge o).mapError Failure.settings) = o.format.getD s.format := by
  cases hmerge : s.merge o with
  | ok s' => exact Settings.format_of_merge hmerge
  | error fault =>
    cases hformat : o.format with
    | none => exact absurd ⟨hformat, fault, hmerge⟩ h
    | some f =>
      change o.format.getD .table = _
      rw [hformat]
      rfl

theorem format_of_forgotten {o : Options} (h : FormatForgotten o s) :
    format o ((s.merge o).mapError Failure.settings) = .table := by
  obtain ⟨hformat, fault, hmerge⟩ := h
  rw [hmerge]
  change o.format.getD .table = _
  rw [hformat]
  rfl

theorem printed_fail_of_isJson {f : Report.Format} (hf : f.isJson) (code : Nat) (e : Failure)
    (st : σ) : ((fail h f code e).run st).1.printed =
      some (Json.object
        [("error", .text (if e.cause = .refused then "failure" else e.message))]).render := by
  unfold fail
  split
  · change some (Report.settingResult f false) = _
    simp only [Report.settingResult, hf]
  · change Report.failureText f e.message = _
    rw [Report.failureText, if_pos hf]

theorem printed_fail_of_table {e : Failure} (he : e.cause ≠ .refused) (code : Nat) (st : σ) :
    ((fail h .table code e).run st).1.printed = none := by
  unfold fail
  rw [if_neg he]
  rfl

/-- The device has refused when that is what an invocation comes to, and only then. -/
theorem attributed_attempt (hh : h.Impartial) {i : CommandLine.Invocation} {w : Watched σ}
    {loaded : σ}
    (hload : (Settings.load h i.options.settingsFile).run.run w.state = (.ok s, loaded)) :
    ∃ dealings, ((attempt (host h) i).run w).2.dealings = w.dealings ++ dealings ∧
      (IsRefusal ((attempt (host h) i).run w).1 ↔ i.action.RefusedIn dealings) := by
  obtain ⟨now, after, hbegun⟩ := run_outset hload
  let ready : Except Failure (Settings × Request) := do
    return (← (s.merge i.options).mapError Failure.settings, ← i.action.toRequest now)
  have hattempt : (attempt (host h) i).run w =
      (pursue (host h) i.options.pretend ready).run ⟨after, w.dealings⟩ := by
    rw [attempt, outset_host, StateT.run_bind, run_aside, hbegun]
    rfl
  rw [hattempt]
  cases hready : ready with
  | error e =>
    -- no device has had a say yet
    have hnever : ¬ IsRefusal ready := by
      simp [ready, not_isRefusal_settings, Action.not_isRefusal_toRequest]
    rw [hready] at hnever
    refine ⟨[], (List.append_nil _).symm, iff_of_false ?_ (by simp [Action.RefusedIn])⟩
    change ¬ IsRefusal (.error e)
    simpa using hnever
  | ok ready' =>
    obtain ⟨s', r⟩ := ready'
    have haccepted := (of_ready s' hready).2
    obtain ⟨dealings, hdealings, hrefused⟩ := attributed_run hh haccepted i.options.pretend
      ((aside (h.note (noteDevice s'.device))).run ⟨after, w.dealings⟩).2
    refine ⟨dealings, hdealings, ?_⟩
    rw [Action.RefusedIn, ← Action.isSetting_iff_of_toRequest haccepted]
    exact hrefused

/-- Where JSON is the format to use, of the options if they have one and else of settings that have
loaded, and the code is not that of success: the one line printed is an object with the text of the
failure, or with the word for a setting that the device has refused. Only when the format of the
settings is forgotten nothing is printed at all. -/
theorem failures_told_unless_format_forgotten (hh : h.Impartial) {words : List String}
    {i : CommandLine.Invocation} (hread : CommandLine.read words = .ok i) {w : Watched σ}
    {loaded : σ}
    (hload : (Settings.load h i.options.settingsFile).run.run w.state = (.ok s, loaded))
    (hjson : (i.options.format.getD s.format).isJson) :
    let ended := (start (host h) words).run w
    (start h words).run w.state = (ended.1, ended.2.state) ∧
      (ended.1.code ≠ Ending.done → ∃ e dealings text,
        ((attempt h i).run w.state).1 = .error e ∧
        ended.2.dealings = w.dealings ++ dealings ∧
        (i.action.RefusedIn dealings ∧ text = "failure" ∨
          ¬ i.action.RefusedIn dealings ∧ text = e.message) ∧
        (FormatForgotten i.options s ∧ ended.1.printed = none ∨
          ¬ FormatForgotten i.options s ∧
            ended.1.printed = some (Json.object [("error", .text text)]).render)) := by
  intro ended
  refine ⟨(follows_start h words w).symm, fun hcode => ?_⟩
  have hended : ended = (invoke (host h) i).run w := by
    simp only [ended, start, hread]
  rw [hended] at hcode ⊢
  obtain ⟨e, code, hattempt, htold⟩ := told_of_code hcode
  obtain ⟨dealings, hdealings, hrefused⟩ := attributed_attempt hh hload
  have hformat : ((outset (host h) i).run w).1.1 =
      format i.options ((s.merge i.options).mapError Failure.settings) := by
    obtain ⟨now, after, hbegun⟩ := run_outset hload
    rw [outset_host, run_aside, hbegun]
  rw [hattempt, isRefusal_error_iff] at hrefused
  rw [htold, hformat, fail_host, run_aside]
  have he : ((attempt h i).run w.state).1 = .error e := by
    rw [← follows_attempt i w]
    exact hattempt
  refine ⟨e, dealings, if e.cause = .refused then "failure" else e.message, he, hdealings, ?_, ?_⟩
  · by_cases hcause : e.cause = .refused
    · exact .inl ⟨hrefused.mp hcause, if_pos hcause⟩
    · exact .inr ⟨mt hrefused.mpr hcause, if_neg hcause⟩
  · by_cases hforgotten : FormatForgotten i.options s
    -- then what went wrong is the merging, and that is never a refusal
    · obtain ⟨fault, hmerge⟩ := hforgotten.2
      obtain rfl := Except.error.inj (he.symm.trans (attempt_of_merge hload hmerge))
      refine .inl ⟨hforgotten, ?_⟩
      rw [format_of_forgotten hforgotten]
      exact printed_fail_of_table (by simp [Failure.settings]) ..
    · refine .inr ⟨hforgotten, ?_⟩
      rw [format_eq_getD hforgotten]
      exact printed_fail_of_isJson hjson ..

/-- The settings ask for JSON. An address without a port is told to nobody, a device that is not there
is. -/
theorem failures_told_unless_format_forgotten_address :
    let w : Watched Machine :=
      ⟨{ files := [(Settings.defaultFile, Utf8.encode "format: json".toList)] }, []⟩
    let ended (words : List String) := ((start (host Machine.host) words).run w).1
    (ended ["--tcp", "nope", "dump"]).code = Ending.usage ∧
      (ended ["--tcp", "nope", "dump"]).printed = none ∧
      ∃ e, (ended ["dump"]).printed = some (Json.object [("error", .text e)]).render := by
  intro w ended
  have hload : ((Settings.load Machine.host none).run.run w.state).1 = .ok { format := .json } := by
    decide +kernel
  refine ⟨by decide +kernel, ?address, ?device⟩
  case address =>
    have hread : CommandLine.read ["--tcp", "nope", "dump"] =
        .ok ⟨{ tcp := some "nope" }, .dump⟩ := by decide +kernel
    have hforgotten : FormatForgotten { tcp := some "nope" } { format := .json } :=
      ⟨rfl, .addressForm "nope", by decide +kernel⟩
    obtain ⟨e, dealings, text, -, -, -, ⟨-, hprinted⟩ | ⟨hnot, -⟩⟩ :=
      (failures_told_unless_format_forgotten Machine.impartial_host hread
        (Prod.ext hload rfl) rfl).2 (by decide +kernel)
    · exact hprinted
    · exact absurd hforgotten hnot
  case device =>
    have hread : CommandLine.read ["dump"] = .ok ⟨{}, .dump⟩ := by decide +kernel
    have hmerged : Settings.merge {} { format := .json } = .ok { format := .json } := by
      decide +kernel
    obtain ⟨e, dealings, text, -, -, -, ⟨⟨-, fault, hmerge⟩, -⟩ | ⟨-, hprinted⟩⟩ :=
      (failures_told_unless_format_forgotten Machine.impartial_host hread
        (Prod.ext hload rfl) rfl).2 (by decide +kernel)
    · cases hmerged.symm.trans hmerge
    · exact ⟨text, hprinted⟩

end Application
end HybridInverter
