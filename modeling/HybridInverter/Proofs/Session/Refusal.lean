import HybridInverter.Host.Machine
import HybridInverter.Proofs.Link.Run
import HybridInverter.Proofs.Session.Dealings

/-!
Who refuses a setting. What is wrong with an action, with a link or with the reply to a query is
never a refusal; a setting is refused exactly when its reply acknowledges with anything but a one.
-/
namespace HybridInverter

def IsRefusal {α : Type} (x : Except Failure α) : Prop :=
  ∃ e, x = .error e ∧ e.cause = .refused

section

variable {α β : Type} (x : Except Failure α)

@[simp] theorem not_isRefusal_ok (a : α) : ¬ IsRefusal (.ok a) := by
  rintro ⟨_, h, -⟩
  cases h

@[simp] theorem isRefusal_error_iff (e : Failure) :
    IsRefusal (.error e : Except Failure α) ↔ e.cause = .refused := by
  constructor
  · rintro ⟨_, h, hcause⟩
    cases h
    exact hcause
  · exact fun h => ⟨e, rfl, h⟩

@[simp] theorem isRefusal_bind_iff (f : α → Except Failure β) :
    IsRefusal (x >>= f) ↔ IsRefusal x ∨ ∃ a, x = .ok a ∧ IsRefusal (f a) := by
  cases x with
  | error e =>
    change IsRefusal (.error e : Except Failure β) ↔ _
    simp
  | ok a =>
    change IsRefusal (f a) ↔ _
    simp

@[simp] theorem isRefusal_map_iff (g : α → β) : IsRefusal (x.map g) ↔ IsRefusal x := by
  cases x <;> simp [Except.map]

@[simp] theorem isRefusal_functor_map_iff (g : α → β) : IsRefusal (g <$> x) ↔ IsRefusal x :=
  isRefusal_map_iff x g

@[simp] theorem isRefusal_within_iff (doing : String) :
    IsRefusal (x.mapError (Failure.within doing)) ↔ IsRefusal x := by
  cases x <;> simp [Except.mapError]

end

namespace Demand

theorem not_isRefusal_keep {α : Type} (args : List String) (checked : Except UsageFault α) :
    ¬ IsRefusal (keep args checked) := by
  cases checked <;> simp [keep, Failure.usage]

theorem not_isRefusal_ofKey (a : String) : ¬ IsRefusal (Flag.ofKey a) := by
  unfold Flag.ofKey
  split <;> simp [Failure.argument]

theorem not_isRefusal_ofChoice (table : CodeTable) (a : String) :
    ¬ IsRefusal (Coded.ofChoice table a) := by
  unfold Coded.ofChoice
  split <;> simp [Failure.argument]

theorem not_isRefusal_resolve (d : Demand) (args : List String) :
    ¬ IsRefusal (d.resolve args) := by
  unfold resolve
  split <;>
    simp [not_isRefusal_keep, not_isRefusal_ofKey, not_isRefusal_ofChoice, Failure.argument]

theorem not_isRefusal_resolveAll (ds : List Demand) (args : List String) :
    ¬ IsRefusal (resolveAll ds args) := by
  induction ds generalizing args with
  | nil => simp [resolveAll]
  | cons d ds ih => simp [resolveAll, not_isRefusal_resolve, ih]

end Demand

theorem Action.not_isRefusal_toRequest (action : Action) (now : List String) :
    ¬ IsRefusal (action.toRequest now) := by
  cases action with
  | raw command =>
    simp only [toRequest]
    split <;> simp [Failure.usage]
  | dump => simp [toRequest]
  | execute c args =>
    simp only [toRequest]
    split
    · simp [Failure.usage]
    · simp [Demand.not_isRefusal_resolveAll]

namespace Envelope

theorem not_isRefusal_querySpan (data : List UInt8) (size : Nat) :
    ¬ IsRefusal (querySpan data size) := by
  simp only [querySpan]
  repeat' split
  all_goals simp [Failure.reply]

theorem not_isRefusal_acknowledgement (data : List UInt8) (size : Nat) :
    ¬ IsRefusal (acknowledgement data size) := by
  simp only [acknowledgement]
  repeat' split
  all_goals simp [Failure.reply]

theorem isRefusal_result_iff (a : Acknowledgement) : IsRefusal a.result ↔ a = .failure := by
  cases a <;> simp [Acknowledgement.result]

end Envelope

theorem Response.not_isRefusal_ofFrame (q : Query) (data : List UInt8) (size : Nat) :
    ¬ IsRefusal (ofFrame q data size) := by
  simp [ofFrame, payloadOf, Envelope.not_isRefusal_querySpan]

theorem Query.isRefusal_got_iff (q : Query) (wire : String) (outcome : Except Failure Reply) :
    IsRefusal (q.got wire outcome) ↔ IsRefusal outcome := by
  change IsRefusal (_ >>= _) ↔ _
  simp [Response.not_isRefusal_ofFrame]

/-- The reply acknowledges that the device has not done what it was told. -/
def Reply.Refuses (reply : Reply) : Prop :=
  Envelope.acknowledgement reply.data reply.received = .ok .failure

namespace Request

def IsSetting (r : Request) : Prop :=
  ∃ s args, r = .execute (.setting s) args

theorem isRefusal_answer_iff (f : Report.Format) (r : Request) (reply : Reply) :
    IsRefusal (r.answer f reply) ↔ r.IsSetting ∧ reply.Refuses := by
  cases r with
  | raw | dump => simp [answer, IsSetting]
  | execute c args =>
    cases c with
    | query q => simp [answer, IsSetting, Response.not_isRefusal_ofFrame]
    | setting s =>
      simp [answer, IsSetting, Reply.Refuses, Envelope.not_isRefusal_acknowledgement,
        Envelope.isRefusal_result_iff]

end Request

namespace Session

variable {σ : Type}

/-- The way to the device does not refuse in its place. -/
def Impartial (t : Session (StateM σ)) : Prop :=
  ∀ wire s, ¬ IsRefusal ((t.exchange wire).run.run s).1

variable {t : Session (StateM σ)} {before after : σ} {wire : String}
  {outcome : Except Failure Reply}

theorem isRefusal_execute_iff (ht : t.Impartial)
    (h : (t.exchange wire).run.run before = (outcome, after)) (f : Report.Format) (r : Request) :
    IsRefusal ((t.execute f r wire).run.run before).1 ↔
      r.IsSetting ∧ ∃ reply, outcome = .ok reply ∧ reply.Refuses := by
  have houtcome : ¬ IsRefusal outcome := by
    have hnever := ht wire before
    rwa [h] at hnever
  rw [t.run_execute h f r]
  change IsRefusal (_ >>= r.answer f) ↔ _
  rw [isRefusal_bind_iff, isRefusal_within_iff, or_iff_right houtcome]
  simp only [mapError_eq_ok_iff, Request.isRefusal_answer_iff]
  constructor
  · rintro ⟨reply, hreply, hr, hrefuses⟩
    exact ⟨hr, reply, hreply, hrefuses⟩
  · rintro ⟨hr, reply, hreply, hrefuses⟩
    exact ⟨reply, hreply, hr, hrefuses⟩

theorem not_isRefusal_ask (ht : t.Impartial) {q : Query}
    (hbuild : (Command.query q).build [] = .ok wire) (s : σ) :
    ¬ IsRefusal ((t.ask q).run.run s).1 := by
  rw [t.run_ask hbuild rfl, q.isRefusal_got_iff]
  exact ht wire s

theorem not_isRefusal_askAll (ht : t.Impartial) {qs : List Query}
    (hqs : ∀ q ∈ qs, q ∈ Query.dumped) (s : σ) : ¬ IsRefusal ((t.askAll qs).run.run s).1 := by
  induction qs generalizing s with
  | nil => exact not_isRefusal_ok []
  | cons q qs ih =>
    obtain ⟨hq, hqs⟩ := List.forall_mem_cons.mp hqs
    have hfirst := not_isRefusal_ask ht (Query.build_of_mem_dumped hq) s
    cases hask : (t.ask q).run.run s with
    | mk result after =>
      rw [hask] at hfirst
      cases result with
      | error e =>
        rw [t.run_askAll_cons_error hask]
        simpa using hfirst
      | ok a =>
        rw [t.run_askAll_cons_ok hask rfl, isRefusal_map_iff]
        exact ih hqs after

theorem not_isRefusal_dump (ht : t.Impartial) (f : Report.Format) (s : σ) :
    ¬ IsRefusal ((t.dump f).run.run s).1 := by
  rw [t.run_dump rfl, isRefusal_map_iff]
  exact not_isRefusal_askAll ht (fun _ h => h) s

end Session

/-- No opening and no exchange of the host refuses in the place of the device. -/
structure Host.Impartial {σ : Type} (h : Host (StateM σ)) : Prop where
  opening : ∀ d l timeout s, ¬ IsRefusal ((h.openDevice d l timeout).run.run s).1
  session : ∀ d l timeout s t, ((h.openDevice d l timeout).run.run s).1 = .ok t → t.Impartial

namespace Machine

theorem impartial_exchange (name : String) (timeout : Nat) (note : Log.Entry → StateM Machine Unit) :
    Session.Impartial { exchange := exchange name timeout, note } := by
  rintro wire mc ⟨e, he, hcause⟩
  exact Link.ne_refused_of_conclude he hcause

theorem run_get_bind {α : Type} (f : Machine → ExceptT Failure (StateM Machine) α) (mc : Machine) :
    (get >>= f).run.run mc = (f mc).run.run mc := rfl

theorem openDevice_cases (d : Device) (l : Link) (timeout : Nat) (mc : Machine) :
    (∃ text, ((openDevice d l timeout).run.run mc).1 = .error (.link (.system text))) ∨
      ∃ name note, ((openDevice d l timeout).run.run mc).1 =
        .ok { exchange := exchange name timeout, note } := by
  cases d with
  | tcp => exact .inl ⟨_, rfl⟩
  | hidraw path =>
    rw [openDevice, run_get_bind]
    dsimp only
    cases mc.fileAt path with
    | error why => exact .inl ⟨_, rfl⟩
    | ok name => exact .inr ⟨_, _, rfl⟩

theorem impartial_host : host.Impartial where
  opening d l timeout mc := by
    obtain ⟨text, hopen⟩ | ⟨name, note, hopen⟩ := openDevice_cases d l timeout mc
    · rw [host, hopen]
      simp [Failure.link]
    · rw [host, hopen]
      exact not_isRefusal_ok _
  session d l timeout mc t ht := by
    obtain ⟨text, hopen⟩ | ⟨name, note, hopen⟩ := openDevice_cases d l timeout mc
    · cases ht.symm.trans hopen
    · cases ht.symm.trans hopen
      exact impartial_exchange name timeout note

end Machine
end HybridInverter
