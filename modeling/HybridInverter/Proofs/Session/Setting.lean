import HybridInverter.Proofs.Link.Run
import HybridInverter.Proofs.Response.Envelope
import HybridInverter.Proofs.Session.Run
import HybridInverter.Session.Script

/-!
What becomes of a setting over a line whose link compares checksums. It is done exactly when the
frame that was read is a caret, a one and whatever else in front of the right checksum; it is
refused exactly when another byte stands in the place of the one; otherwise it fails, and not as
refused.
-/
namespace HybridInverter

open HybridInverter.Frame HybridInverter.Envelope

namespace Request

theorem answer_setting_of_caret {reply : Reply} {b : UInt8} {rest : List UInt8}
    (hdata : reply.data = caret :: b :: rest) (hsize : 2 ≤ reply.received) (f : Report.Format)
    (s : Setting) (args : List String) :
    answer f (.execute (.setting s) args) reply =
      if b = successMark then .ok (Report.settingResult f true)
      else .error { cause := .refused } := by
  rw [answer, hdata, acknowledgement_of_caret b rest hsize]
  by_cases hb : b = successMark
  · rw [if_pos hb, if_pos hb]
    rfl
  · rw [if_neg hb, if_neg hb]
    rfl

theorem answer_setting_of_not {reply : Reply} (h : ∀ b rest, reply.data ≠ caret :: b :: rest)
    (f : Report.Format) (s : Setting) (args : List String) :
    answer f (.execute (.setting s) args) reply =
      .error (.reply (.acknowledgement (Utf8.decode reply.data))) := by
  rw [answer, acknowledgement_of_not h]
  rfl

end Request

namespace Session

variable {σ : Type} (session : Session (StateM σ)) {before after : σ} {wire : String}
  {outcome : Except Failure Reply}

theorem run_execute_setting (h : (session.exchange wire).run.run before = (outcome, after))
    (f : Report.Format) (s : Setting) (args : List String) :
    (session.execute f (.execute (.setting s) args) wire).run.run before =
      ((outcome.mapError (Failure.within ("failed to execute " ++ wire))).bind
        (Request.answer f (.execute (.setting s) args)), after) := by
  rw [session.run_execute h]
  cases outcome <;> rfl

end Session

namespace Line

/-- Between two states of a line one frame was read that has this content: behind padding the
content, its checksum, the high byte first, and the first terminator there is. -/
structure Got (before after : Line) (content : List UInt8) : Prop where
  arriving : ∃ padding, before.pipe.arriving =
    List.replicate padding 0 ++ content ++ Checksum.toBytes (Checksum.of content) ++
      terminator :: (after.link.reader.buffer ++ after.pipe.arriving)
  no_terminator : terminator ∉ content

/-- The frame that was read acknowledges with this byte. -/
def Heard (before after : Line) (b : UInt8) : Prop :=
  ∃ content, before.Got after content ∧ [caret, b] <+: content

theorem heard_iff_cut {before after : Line} {b : UInt8} :
    before.Heard after b ↔ ∃ rest,
      cut (dropPadding before.pipe.arriving) =
        some (caret :: b :: rest ++ Checksum.toBytes (Checksum.of (caret :: b :: rest)),
          after.link.reader.buffer ++ after.pipe.arriving) := by
  have hpad : ∀ rest more : List UInt8, (caret :: b :: rest ++ more).head? ≠ some 0 := by
    intro rest more h
    exact absurd (Option.some.inj h) (by decide)
  constructor
  · rintro ⟨_, ⟨⟨n, hn⟩, hend⟩, rest, rfl⟩
    refine ⟨rest, cut_dropPadding_eq_some_iff.mpr ⟨⟨n, ?_⟩, ?_, hpad rest _⟩⟩
    · rw [hn]
      simp
    · rw [List.mem_append, not_or]
      exact ⟨hend, terminator_not_mem_toBytes _⟩
  · rintro ⟨rest, hcut⟩
    obtain ⟨⟨n, hn⟩, hend, -⟩ := cut_dropPadding_eq_some_iff.mp hcut
    refine ⟨caret :: b :: rest, ⟨⟨n, ?_⟩, ?_⟩, rest, rfl⟩
    · rw [hn]
      simp
    · exact fun hm => hend (List.mem_append_left _ hm)

theorem Heard.unique {before after : Line} {b c : UInt8} (hb : before.Heard after b)
    (hc : before.Heard after c) : b = c := by
  obtain ⟨rest, hrest⟩ := heard_iff_cut.mp hb
  obtain ⟨rest', hrest'⟩ := heard_iff_cut.mp hc
  rw [hrest, Option.some.injEq, Prod.mk.injEq] at hrest'
  simp only [List.cons_append, List.cons.injEq] at hrest'
  exact hrest'.1.2.1

theorem run_exchange (line : Line) (wire : String) :
    (session.exchange wire).run.run line =
      let x := line.link.execute line.pipe (Utf8.encode wire.toList) line.timeout
      (x.outcome, line.after x) :=
  rfl

variable {line after : Line} {f : Report.Format} {s : Setting} {args : List String} {wire : String}
  {result : Except Failure String}

theorem result_of_heard (hu : line.link.checksums.compares)
    (hrun : (session.execute f (.execute (.setting s) args) wire).run.run line = (result, after))
    {b : UInt8} (h : line.Heard after b) :
    result = if b = successMark then .ok (Report.settingResult f true)
      else .error { cause := .refused } := by
  rw [session.run_execute_setting (line.run_exchange wire), Prod.mk.injEq] at hrun
  obtain ⟨rfl, rfl⟩ := hrun
  obtain ⟨rest, hcut⟩ := heard_iff_cut.mp h
  have houtcome := (line.link.fetched line.pipe (Utf8.encode wire.toList)
    line.timeout).outcome_of_cut hcut
  rw [deliver_of_accepted (accepted_append_toBytes _ _), content_append_toBytes,
    if_pos (line.link.checksums.expect_of_compares hu), List.append_nil] at houtcome
  rw [houtcome]
  exact Request.answer_setting_of_caret rfl (by simp) f s args

/-- Without an acknowledgement there is no telling whether the setting was refused. -/
theorem result_of_not_heard (hu : line.link.checksums.compares)
    (hrun : (session.execute f (.execute (.setting s) args) wire).run.run line = (result, after))
    (h : ∀ b, ¬ line.Heard after b) : ∃ e, result = .error e ∧ e.cause ≠ .refused := by
  rw [session.run_execute_setting (line.run_exchange wire), Prod.mk.injEq] at hrun
  obtain ⟨rfl, rfl⟩ := hrun
  have hfetched := line.link.fetched line.pipe (Utf8.encode wire.toList) line.timeout
  cases houtcome : (line.link.execute line.pipe (Utf8.encode wire.toList) line.timeout).outcome with
  | ok reply =>
    have hdata : ∀ b rest, reply.data ≠ caret :: b :: rest := by
      intro b rest hdata
      have hcut := (hfetched.cut_of_reply hu houtcome (by simp [hdata])).1
      exact h b (heard_iff_cut.mpr ⟨rest, by rw [← hdata]; exact hcut⟩)
    exact ⟨_, Request.answer_setting_of_not hdata f s args, by simp [Failure.reply]⟩
  | error e => exact ⟨_, rfl, by simpa using Link.ne_refused_of_execute houtcome⟩

/-- A setting over a link that compares checksums: done when the frame that was read acknowledges
with a one, refused when it does with any other byte, and in every other case a failure that says
neither. -/
theorem setting_settled_by_acknowledgement (hu : line.link.checksums.compares)
    (hrun : (session.execute f (.execute (.setting s) args) wire).run.run line = (result, after)) :
    ((∃ text, result = .ok text) ↔ line.Heard after successMark) ∧
      ((∃ e, result = .error e ∧ e.cause = .refused) ↔
        ∃ b, b ≠ successMark ∧ line.Heard after b) ∧
      ((∃ e, result = .error e ∧ e.cause ≠ .refused) ↔ ∀ b, ¬ line.Heard after b) := by
  by_cases hheard : ∃ b, line.Heard after b
  · obtain ⟨b, hb⟩ := hheard
    have hresult := result_of_heard hu hrun hb
    have hunique : ∀ c, line.Heard after c ↔ c = b :=
      fun c => ⟨fun hc => hc.unique hb, fun e => e ▸ hb⟩
    by_cases hmark : b = successMark
    · simp [hresult, hunique, hmark]
    · simp [hresult, hunique, hmark, Ne.symm hmark]
  · have hnone := not_exists.mp hheard
    obtain ⟨e, rfl, hcause⟩ := result_of_not_heard hu hrun hnone
    simp [hnone, hcause]

/-- A one is heard behind padding, and what follows it is left; a zero is a refusal. -/
theorem setting_settled_by_acknowledgement_loads :
    let run (arriving : List UInt8) :=
      (session.execute .table (.execute (.setting .loads) ["1"]) "^S007LON1").run.run
        { timeout := 1000, pipe := { arriving } }
    (∃ text, (run [0, 0, 0x5E, 0x31, 0x0B, 0xC2, 0x0D, 0, 0x5E]).1 = .ok text) ∧
      ∃ e, (run [0x5E, 0x30, 0x1B, 0xE3, 0x0D]).1 = .error e ∧ e.cause = .refused := by
  intro run
  refine ⟨?done, ?refused⟩
  case done =>
    refine (setting_settled_by_acknowledgement (by decide) rfl).1.mpr ?_
    exact ⟨[0x5E, 0x31], ⟨⟨2, by decide +kernel⟩, by decide⟩, by decide⟩
  case refused =>
    refine (setting_settled_by_acknowledgement (by decide) rfl).2.1.mpr ⟨0x30, by decide, ?_⟩
    exact ⟨[0x5E, 0x30], ⟨⟨0, by decide +kernel⟩, by decide⟩, by decide⟩

end Line
end HybridInverter
