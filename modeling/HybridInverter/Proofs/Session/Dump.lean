import HybridInverter.Proofs.Session.Run
import HybridInverter.Session.Script
import Mathlib.Data.List.Forall2
import Mathlib.Data.List.Nodup

/-!
What a dump comes to. It asks its queries in their order, one exchange each. The first exchange that
fails, or whose reply is not read, is the last one, and nothing is shown; if there is none every
response is shown under its own query.
-/
namespace HybridInverter

theorem Query.build_of_mem_dumped {q : Query} (h : q ∈ dumped) :
    (Command.query q).build [] = .ok ((Command.query q).frameOf "") := by
  have hall : ∀ q ∈ dumped, (Command.query q).build [] = .ok ((Command.query q).frameOf "") := by
    decide +kernel
  exact hall q h

theorem Query.nodup_frames : (dumped.map fun q => (Command.query q).frameOf "").Nodup := by
  decide +kernel

theorem Query.eq_of_build_eq {q q' : Query} (hq : q ∈ dumped) (hq' : q' ∈ dumped) {wire : String}
    (h : (Command.query q).build [] = .ok wire) (h' : (Command.query q').build [] = .ok wire) :
    q = q' := by
  rw [build_of_mem_dumped hq] at h
  rw [build_of_mem_dumped hq'] at h'
  exact List.inj_on_of_nodup_map nodup_frames hq hq' (Except.ok.inj (h.trans h'.symm))

namespace Script

/-- What comes of the exchange that has so many before it. -/
def outcomeAt (s : Script) (i : Nat) : Except Failure Reply :=
  s.outcomes.getD i (.error { cause := .timeout s.timeout })

/-- The exchange that has so many before it brings a reply, and to this query the reply is this
response. -/
def Answers (s : Script) (i : Nat) (q : Query) (r : Response) : Prop :=
  ∃ reply, s.outcomeAt i = .ok reply ∧ Response.ofFrame q reply.data reply.received = .ok r

def next (s : Script) (wire : String) (entries : List Log.Entry) : Script :=
  { s with
    outcomes := s.outcomes.drop 1
    sent := s.sent ++ [wire]
    notes := s.notes ++ entries }

@[simp] theorem sent_next (s : Script) (wire : String) (entries : List Log.Entry) :
    (s.next wire entries).sent = s.sent ++ [wire] := rfl
@[simp] theorem outcomeAt_next (s : Script) (wire : String) (entries : List Log.Entry) (i : Nat) :
    (s.next wire entries).outcomeAt i = s.outcomeAt (i + 1) := by
  simp only [outcomeAt, next, List.getD_eq_getElem?_getD, List.getElem?_drop, Nat.add_comm]
@[simp] theorem answers_next (s : Script) (wire : String) (entries : List Log.Entry) (i : Nat)
    (q : Query) (r : Response) :
    (s.next wire entries).Answers i q r ↔ s.Answers (i + 1) q r := by
  simp only [Answers, outcomeAt_next]

theorem noted_eq (s : Script) (entries : List Log.Entry) :
    session.noted s entries = { s with notes := s.notes ++ entries } := by
  induction entries generalizing s with
  | nil => simp [Session.noted]
  | cons e entries ih =>
    rw [Session.noted, List.foldl_cons, ← Session.noted, ih]
    change ({ s with notes := s.notes ++ [e] ++ entries } : Script) = _
    rw [List.append_assoc, List.singleton_append]

theorem run_exchange (s : Script) (wire : String) :
    (session.exchange wire).run.run s =
      (s.outcomeAt 0, { s with outcomes := s.outcomes.drop 1, sent := s.sent ++ [wire] }) := by
  rcases s with ⟨_ | ⟨outcome, outcomes⟩, timeout, sent, notes⟩ <;> rfl

theorem run_ask {q : Query} {wire : String} (hbuild : (Command.query q).build [] = .ok wire)
    (s : Script) : (session.ask q).run.run s =
      (q.got wire (s.outcomeAt 0), s.next wire (q.remarks (s.outcomeAt 0))) := by
  rw [session.run_ask hbuild (s.run_exchange wire), noted_eq]
  rfl

/-- Queries asked in turn: those at the beginning that are answered have these responses, and either
they are all there is or the next one is the last that is sent. -/
theorem exists_responses {qs : List Query} {wires : List String}
    (hbuild : List.Forall₂ (fun q wire => (Command.query q).build [] = .ok wire) qs wires)
    {s after : Script} {result : Except Failure (List (Query × Response))}
    (hrun : (session.askAll qs).run.run s = (result, after)) :
    ∃ responses : List Response,
      (∀ i r, responses[i]? = some r → ∃ q, qs[i]? = some q ∧ s.Answers i q r) ∧
      (responses.length = qs.length ∧ after.sent = s.sent ++ wires ∧
          result = .ok (qs.zip responses) ∨
        ∃ q, qs[responses.length]? = some q ∧ (∀ r, ¬ s.Answers responses.length q r) ∧
          after.sent = s.sent ++ wires.take (responses.length + 1) ∧ ∃ e, result = .error e) := by
  induction hbuild generalizing s after result with
  | nil =>
    obtain ⟨rfl, rfl⟩ := Prod.mk.inj hrun
    exact ⟨[], by simp, .inl ⟨rfl, by simp, rfl⟩⟩
  | @cons q wire qs wires hfirst hrest ih =>
    have hask := run_ask hfirst s
    cases hgot : q.got wire (s.outcomeAt 0) with
    | error e =>
      rw [hgot] at hask
      rw [session.run_askAll_cons_error hask, Prod.mk.injEq] at hrun
      obtain ⟨rfl, rfl⟩ := hrun
      refine ⟨[], by simp, .inr ⟨q, rfl, fun r hr => ?_, rfl, e, rfl⟩⟩
      have hok : q.got wire (s.outcomeAt 0) = .ok r := Query.got_eq_ok_iff.mpr hr
      cases hgot.symm.trans hok
    | ok r =>
      rw [hgot] at hask
      cases hothers : (session.askAll qs).run.run (s.next wire (q.remarks (s.outcomeAt 0))) with
      | mk result' last =>
        rw [session.run_askAll_cons_ok hask hothers, Prod.mk.injEq] at hrun
        obtain ⟨rfl, rfl⟩ := hrun
        obtain ⟨responses, hanswers, hend⟩ := ih hothers
        refine ⟨r :: responses, ?_, ?_⟩
        · intro i r' hr'
          cases i with
          | zero =>
            obtain rfl := Option.some.inj hr'
            exact ⟨q, rfl, Query.got_eq_ok_iff.mp hgot⟩
          | succ i =>
            obtain ⟨q', hq', hanswer⟩ := hanswers i r' hr'
            exact ⟨q', hq', (answers_next ..).mp hanswer⟩
        · rcases hend with ⟨hlength, hsent, rfl⟩ | ⟨q', hq', hnone, hsent, e, rfl⟩
          · exact .inl ⟨by rw [List.length_cons, List.length_cons, hlength], by simp [hsent], rfl⟩
          · exact .inr ⟨q', hq', fun r' hr' => hnone r' ((answers_next ..).mpr hr'),
              by simp [hsent], e, rfl⟩

theorem exists_wires : ∃ wires,
    Query.dumped.mapM (fun q => (Command.query q).build []) = .ok wires ∧ wires.Nodup ∧
      List.Forall₂ (fun q wire => (Command.query q).build [] = .ok wire) Query.dumped wires := by
  refine ⟨Query.dumped.map fun q => (Command.query q).frameOf "", by decide +kernel,
    Query.nodup_frames, ?_⟩
  rw [List.forall₂_map_right_iff, List.forall₂_same]
  exact fun q hq => Query.build_of_mem_dumped hq

/-- A dump sends the frames of its queries in their order, each once at the most, up to the first
query that is not answered. With one, there is only the failure to show; without one every frame has
been sent, and each response stands behind the query that it answers. -/
theorem dump_stops_at_first_failure (s : Script) (f : Report.Format) :
    let queries := Query.all.filter fun q => !q.takesArguments
    let ended := (session.dump f).run.run s
    ∃ wires, queries.mapM (fun q => (Command.query q).build []) = .ok wires ∧ wires.Nodup ∧
      ∃ responses : List Response,
        (∀ i r, responses[i]? = some r → ∃ q, queries[i]? = some q ∧ s.Answers i q r) ∧
        (responses.length = queries.length ∧ ended.2.sent = s.sent ++ wires ∧
            ended.1 = .ok (Response.renderAll f (queries.zip responses)) ∨
          ∃ q, queries[responses.length]? = some q ∧
            (∀ r, ¬ s.Answers responses.length q r) ∧
            ended.2.sent = s.sent ++ wires.take (responses.length + 1) ∧
            ∃ e, ended.1 = .error e) := by
  intro queries ended
  obtain ⟨wires, hwires, hnodup, hbuild⟩ := exists_wires
  refine ⟨wires, hwires, hnodup, ?_⟩
  cases hrun : (session.askAll Query.dumped).run.run s with
  | mk result after =>
    have hended : ended = (result.map (Response.renderAll f), after) := session.run_dump hrun f
    obtain ⟨responses, hanswers, hend⟩ := exists_responses hbuild hrun
    refine ⟨responses, hanswers, ?_⟩
    rw [hended]
    rcases hend with ⟨hlength, hsent, rfl⟩ | ⟨q, hq, hnone, hsent, e, rfl⟩
    · exact .inl ⟨hlength, hsent, rfl⟩
    · exact .inr ⟨q, hq, hnone, hsent, e, rfl⟩

/-- The second reply is cut short. -/
example :
    ((session.dump .table).run.run
      { outcomes := [.ok ⟨[0x5E, 0x44, 0x30, 0x30, 0x35, 0x31, 0x38], 10⟩, .ok ⟨[0x5E, 0x44], 5⟩]
        timeout := 1000 }).2.sent = ["^P005PI", "^P004T"] := by
  decide +kernel

end Script
end HybridInverter
