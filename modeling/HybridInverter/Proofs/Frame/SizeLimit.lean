import HybridInverter.Proofs.Frame.Decode

/-!
The limit on the size of frames. A stretch above it is reported as long as its terminator has not
come. Once it has, the stretch is judged like any other, and however long it is there is a reply
when its checksum is accepted.
-/
namespace HybridInverter
namespace Frame

/-- The bytes before the first terminator of a buffer, or all of them, without the padding in
front. -/
def stretch (buffer : List UInt8) : List UInt8 :=
  (dropPadding buffer).takeWhile (· ≠ terminator)

theorem takeWhile_append_of_not_mem {bytes : List UInt8} (h : terminator ∉ bytes)
    (more : List UInt8) : (bytes ++ more).takeWhile (· ≠ terminator) =
      bytes ++ more.takeWhile (· ≠ terminator) :=
  List.takeWhile_append_of_pos fun _ hb => decide_eq_true (ne_of_mem_of_not_mem hb h)

theorem stretch_of_not_mem {buffer : List UInt8} (h : terminator ∉ buffer) :
    stretch buffer = dropPadding buffer := by
  have hend : terminator ∉ dropPadding buffer := by simpa using h
  simpa [stretch] using takeWhile_append_of_not_mem hend []

theorem stretch_of_cut {buffer frame rest : List UInt8}
    (h : cut (dropPadding buffer) = some (frame, rest)) : stretch buffer = frame := by
  obtain ⟨hbytes, hend⟩ := cut_eq_some_iff.mp h
  rw [stretch, hbytes, takeWhile_append_of_not_mem hend]
  simp

theorem Plain.stretch_body_append {d : List UInt8} (h : Plain d) (u : ChecksumUse)
    (rest : List UInt8) : stretch (body u d ++ terminator :: rest) = body u d :=
  stretch_of_cut (by simpa using h.cut u 0 rest)

theorem Plain.stretch_body {d : List UInt8} (h : Plain d) (u : ChecksumUse) :
    stretch (body u d) = body u d := by
  rw [stretch_of_not_mem (h.terminator_not_mem u), dropPadding_of_head?_ne (h.head?_body u)]

theorem plain_replicate {n : Nat} {b : UInt8} (hn : n ≠ 0) (hend : b ≠ terminator) (hpad : b ≠ 0) :
    Plain (List.replicate n b) where
  ne_nil := by simpa using hn
  no_terminator h := hend (List.eq_of_mem_replicate h).symm
  no_padding := by simpa [List.head?_replicate, hn] using hpad

theorem judge_eq_reply_iff {u : ChecksumUse} {frame : List UInt8} {r : Reply} :
    judge u frame = .reply r ↔ Accepted u frame ∧ r = ⟨content u frame, frame.length + 1⟩ := by
  by_cases h : Accepted u frame
  · rw [judge_of_accepted h, Outcome.reply.injEq]
    exact ⟨fun e => ⟨h, e.symm⟩, fun e => e.2.symm⟩
  · rw [judge_of_not_accepted h]
    exact ⟨nofun, fun e => absurd e.1 h⟩

/-- The outcome for a stretch above the limit. It is reported exactly when its terminator has not
come. When it has there is a reply exactly when the checksum is accepted, with all of the content,
and a checksum that is not accepted is reported as on any frame. -/
theorem long_stretch_reported_only_unended (u : ChecksumUse) {buffer : List UInt8}
    (hlong : maxSize < (stretch buffer).length) :
    ((decode u buffer).1 = .unterminated ↔ terminator ∉ buffer) ∧
      (∀ r, (decode u buffer).1 = .reply r ↔ terminator ∈ buffer ∧ Accepted u (stretch buffer) ∧
        r = ⟨content u (stretch buffer), (stretch buffer).length + 1⟩) ∧
      ((∃ expected actual, (decode u buffer).1 = .mismatch expected actual) ↔
        terminator ∈ buffer ∧ ¬ Accepted u (stretch buffer)) := by
  cases hcut : cut (dropPadding buffer) with
  | none =>
    have hnone : terminator ∉ buffer := by simpa using hcut
    have hdecode : (decode u buffer).1 = .unterminated := by
      rw [stretch_of_not_mem hnone] at hlong
      simp [decode, hcut, hlong]
    simp [hdecode, hnone]
  | some p =>
    have hended := terminator_mem_of_cut hcut
    rw [decode_of_cut hcut, stretch_of_cut hcut]
    refine ⟨?_, fun r => ?_, ?_⟩
    · simp [judge_ne_unterminated, hended]
    · simp [judge_eq_reply_iff, hended]
    · by_cases h : Accepted u p.1
      · simp [judge_of_accepted h, h]
      · simp [judge_of_not_accepted h, h, hended]

/-- A content of 1023 bytes and its checksum are above the limit: with the terminator all of it is a
reply, without it there is none. -/
theorem long_stretch_reported_only_unended_letters :
    let d : List UInt8 := List.replicate 1023 0x41
    maxSize < (stretch (body {} d ++ [terminator])).length ∧
      (decode {} (body {} d ++ [terminator])).1 = .reply ⟨d, 1026⟩ ∧
      maxSize < (stretch (body {} d)).length ∧ (decode {} (body {} d)).1 = .unterminated := by
  intro d
  have hplain : Plain d := plain_replicate (by decide) (by decide) (by decide)
  have hlength : (body {} d).length = 1025 := by
    rw [body, if_pos rfl, List.length_append, List.length_replicate, Checksum.length_toBytes]
  have hended : maxSize < (stretch (body {} d ++ [terminator])).length := by
    rw [hplain.stretch_body_append, hlength]
    decide
  have hunended : maxSize < (stretch (body {} d)).length := by
    rw [hplain.stretch_body, hlength]
    decide
  refine ⟨hended, ?_, hunended, ?_⟩
  · refine ((long_stretch_reported_only_unended {} hended).2.1 _).mpr ⟨by simp, ?_, ?_⟩
    · rw [hplain.stretch_body_append]
      exact accepted_body {} d
    · rw [hplain.stretch_body_append, content_body, hlength]
  · exact (long_stretch_reported_only_unended {} hunended).1.mpr (hplain.terminator_not_mem {})

end Frame
end HybridInverter
