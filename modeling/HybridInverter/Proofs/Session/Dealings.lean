import HybridInverter.Proofs.Host.Watched
import HybridInverter.Proofs.Request.Check
import HybridInverter.Proofs.Session.Dump

/-!
When a session fails. Each of its failures goes back to something that was done with the device: an
exchange that failed, or one whose reply shows nothing of what was asked for.
-/
namespace HybridInverter
namespace Request

variable {r : Request} {reply : Reply}

/-- The reply to this frame of the request shows nothing. -/
def Rejects (r : Request) (wire : String) (reply : Reply) : Prop :=
  match r with
  | .dump => ∃ q ∈ Query.dumped, (Command.query q).build [] = .ok wire ∧
      ∀ a, Response.ofFrame q reply.data reply.received ≠ .ok a
  | r => ∀ f shown, r.answer f reply ≠ .ok shown

/-- Whether a reply shows anything is no question of the format. -/
theorem exists_answer (f g : Report.Format) {shown : String} (h : r.answer f reply = .ok shown) :
    ∃ shown', r.answer g reply = .ok shown' := by
  cases r with
  | raw | dump => exact ⟨_, rfl⟩
  | execute c args =>
    cases c with
    | query q =>
      simp only [answer] at h ⊢
      cases hread : Response.ofFrame q reply.data reply.received with
      | error e => cases hread ▸ h
      | ok a => exact ⟨_, rfl⟩
    | setting s =>
      simp only [answer] at h ⊢
      obtain ⟨a, ha, h⟩ := bind_eq_ok_iff.mp h
      obtain ⟨u, hu, -⟩ := bind_eq_ok_iff.mp h
      rw [ha]
      change ∃ shown', (a.result >>= _) = _
      rw [hu]
      exact ⟨_, rfl⟩

theorem rejects_iff (hr : r ≠ .dump) (wire : String) (f : Report.Format) :
    r.Rejects wire reply ↔ ∃ e, r.answer f reply = .error e := by
  have hall : r.Rejects wire reply ↔ ∀ g shown, r.answer g reply ≠ .ok shown := by
    cases r with
    | dump => exact absurd rfl hr
    | _ => rfl
  rw [hall]
  cases hanswer : r.answer f reply with
  | error e =>
    refine ⟨fun _ => ⟨e, rfl⟩, fun _ g shown h => ?_⟩
    obtain ⟨shown', h'⟩ := exists_answer g f h
    cases hanswer.symm.trans h'
  | ok shown =>
    refine ⟨fun h => absurd hanswer (h f shown), ?_⟩
    rintro ⟨_, h⟩
    cases h

end Request

/-- The opening failed, or the exchange did, or its reply is rejected. -/
def Dealing.Fails (r : Request) : Dealing → Prop
  | .opened _ outcome => ∃ f, outcome = .error f
  | .exchanged wire outcome => ∀ reply, outcome = .ok reply → r.Rejects wire reply

namespace Watched

variable {σ α β : Type} {r : Request} {w : Watched σ}

/-- A run does these things with a device, and fails exactly when one of them does. -/
structure Accounted (r : Request) (w : Watched σ) (dealings : List Dealing)
    (ran : Except Failure α × Watched σ) : Prop where
  dealings_eq : ran.2.dealings = w.dealings ++ dealings
  fails_iff : (∃ f, ran.1 = .error f) ↔ ∃ d ∈ dealings, d.Fails r

namespace Accounted

variable {d : Dealing} {dealings : List Dealing} {ran : Except Failure α × Watched σ}

theorem singleton (hdealings : ran.2.dealings = w.dealings ++ [d])
    (h : (∃ f, ran.1 = .error f) ↔ d.Fails r) : Accounted r w [d] ran :=
  ⟨hdealings, by simpa using h⟩

theorem cons (hd : ¬ d.Fails r) {w' : Watched σ} (hdealings : w'.dealings = w.dealings ++ [d])
    (h : Accounted r w' dealings ran) : Accounted r w (d :: dealings) ran where
  dealings_eq := by
    rw [h.dealings_eq, hdealings, List.append_assoc]
    rfl
  fails_iff := by rw [h.fails_iff, List.exists_mem_cons_iff, or_iff_right hd]

theorem map (h : Accounted r w dealings ran) (g : α → β) :
    Accounted r w dealings (ran.1.map g, ran.2) where
  dealings_eq := h.dealings_eq
  fails_iff := by
    rw [← h.fails_iff]
    cases ran.1 <;> simp [Except.map]

end Accounted

variable (t : Session (StateM σ))

theorem dealings_noted (entries : List Log.Entry) (w : Watched σ) :
    ((session t).noted w entries).dealings = w.dealings := by
  induction entries generalizing w with
  | nil => rfl
  | cons e entries ih => exact ih _

theorem run_exchange (wire : String) (w : Watched σ) : ∃ outcome state,
    ((session t).exchange wire).run.run w =
      (outcome, ⟨state, w.dealings ++ [.exchanged wire outcome]⟩) :=
  ⟨_, _, rfl⟩

theorem accounted_session_execute (hr : r ≠ .dump) (f : Report.Format) (wire : String) :
    ∃ dealings, Accounted r w dealings (((session t).execute f r wire).run.run w) := by
  obtain ⟨outcome, state, hrun⟩ := run_exchange t wire w
  rw [(session t).run_execute hrun f r]
  refine ⟨_, .singleton (dealings_noted ..) ?_⟩
  cases outcome with
  | error e => simp [Dealing.Fails, Except.mapError, Except.bind]
  | ok reply =>
    simp only [Dealing.Fails, Except.ok.injEq, forall_eq', Request.rejects_iff hr wire f]
    rfl

/-- A query of a dump fails exactly when its exchange does or the reply is rejected. -/
theorem fails_iff_got {q : Query} (hq : q ∈ Query.dumped) {wire : String}
    (hbuild : (Command.query q).build [] = .ok wire) (outcome : Except Failure Reply) :
    Dealing.Fails .dump (.exchanged wire outcome) ↔ ∃ e, q.got wire outcome = .error e := by
  cases hgot : q.got wire outcome with
  | error e =>
    refine ⟨fun _ => ⟨e, rfl⟩, fun _ reply hreply => ⟨q, hq, hbuild, fun a ha => ?_⟩⟩
    cases hgot.symm.trans (Query.got_eq_ok_iff.mpr ⟨reply, hreply, ha⟩)
  | ok a =>
    obtain ⟨reply, rfl, ha⟩ := Query.got_eq_ok_iff.mp hgot
    constructor
    · intro hfails
      obtain ⟨q', hq', hbuild', hrejects⟩ := hfails reply rfl
      obtain rfl := Query.eq_of_build_eq hq hq' hbuild hbuild'
      exact absurd ha (hrejects a)
    · rintro ⟨_, h⟩
      cases h

theorem accounted_askAll {qs : List Query} (hqs : ∀ q ∈ qs, q ∈ Query.dumped) (w : Watched σ) :
    ∃ dealings, Accounted .dump w dealings (((session t).askAll qs).run.run w) := by
  induction qs generalizing w with
  | nil => exact ⟨[], (List.append_nil _).symm, by simp [Session.askAll]⟩
  | cons q qs ih =>
    obtain ⟨hq, hqs⟩ := List.forall_mem_cons.mp hqs
    have hbuild := Query.build_of_mem_dumped hq
    obtain ⟨outcome, state, hexchange⟩ := run_exchange t ((Command.query q).frameOf "") w
    have hfails := fails_iff_got hq hbuild outcome
    have hask := (session t).run_ask hbuild hexchange
    cases hgot : q.got ((Command.query q).frameOf "") outcome with
    | error e =>
      rw [hgot] at hask hfails
      rw [(session t).run_askAll_cons_error hask]
      refine ⟨_, .singleton (dealings_noted ..) ?_⟩
      exact ⟨fun _ => hfails.mpr ⟨e, rfl⟩, fun _ => ⟨e, rfl⟩⟩
    | ok a =>
      rw [hgot] at hask hfails
      rw [(session t).run_askAll_cons_ok hask rfl]
      have hgood : ¬ Dealing.Fails .dump (.exchanged ((Command.query q).frameOf "") outcome) := by
        rw [hfails]
        rintro ⟨_, h⟩
        cases h
      obtain ⟨dealings, hrest⟩ := ih hqs _
      exact ⟨_, .cons hgood (dealings_noted ..) (hrest.map _)⟩

theorem accounted_dump (f : Report.Format) (w : Watched σ) :
    ∃ dealings, Accounted .dump w dealings (((session t).dump f).run.run w) := by
  rw [(session t).run_dump rfl]
  obtain ⟨dealings, h⟩ := accounted_askAll t (fun _ h => h) w
  exact ⟨dealings, h.map _⟩

end Watched
end HybridInverter
