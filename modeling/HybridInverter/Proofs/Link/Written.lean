import HybridInverter.Link.Basic
import HybridInverter.Proofs.Frame.Stream
import HybridInverter.Proofs.Link.Run

/-!
What a link writes. Reports are all of one size and hold the frame with less than one report of
zeros behind it. Where checksums are used alike both ways, decoding what has been written brings
back the commands, however many there are and however they were cut. A device that answers each of
them with one good frame is sent the same whatever it answers, and each answer goes to its command.
-/
namespace HybridInverter

namespace Frame

/-- What a device gets of a frame: the frame as it is, or reports of one size with zeros behind the
frame, which fill up the last of them. -/
def ArrivesAs (frame bytes : List UInt8) : Option Nat → Prop
  | none => bytes = frame
  | some size =>
    ∃ pieces : List (List UInt8), bytes = pieces.flatten ∧ (∀ r ∈ pieces, r.length = size) ∧
      ∃ padding < size, bytes = frame ++ List.replicate padding 0

theorem reports_nil (size : Nat) : reports size [] = [] := by
  rw [reports, dif_pos (.inr rfl)]

theorem reports_of_ne_nil {size : Nat} (hsize : size ≠ 0) {frame : List UInt8} (h : frame ≠ []) :
    reports size frame =
      (frame.take size ++ List.replicate (size - (frame.take size).length) 0) ::
        reports size (frame.drop size) := by
  rw [reports, dif_neg (not_or.mpr ⟨hsize, h⟩)]

theorem length_of_mem_reports {size : Nat} {frame r : List UInt8} (h : r ∈ reports size frame) :
    r.length = size := by
  induction frame using reports.induct size with
  | case1 frame hnone =>
    rw [reports, dif_pos hnone] at h
    exact absurd h List.not_mem_nil
  | case2 frame hsome ih =>
    rw [reports, dif_neg hsome, List.mem_cons] at h
    rcases h with rfl | h
    · simp only [List.length_append, List.length_take, List.length_replicate]
      omega
    · exact ih h

theorem flatten_reports {size : Nat} (hsize : size ≠ 0) (frame : List UInt8) :
    ∃ padding < size, (reports size frame).flatten = frame ++ List.replicate padding 0 := by
  induction frame using reports.induct size with
  | case1 frame hnone =>
    have hframe : frame = [] := hnone.resolve_left hsize
    exact ⟨0, by omega, by simp [hframe, reports_nil]⟩
  | case2 frame hsome ih =>
    have hframe : frame ≠ [] := (not_or.mp hsome).2
    rw [reports_of_ne_nil hsize hframe, List.flatten_cons]
    by_cases hlast : frame.length ≤ size
    · have hpos : 0 < frame.length := List.length_pos_iff.mpr hframe
      rw [List.drop_of_length_le hlast, List.take_of_length_le hlast, reports_nil]
      exact ⟨size - frame.length, by omega, by simp⟩
    · have hfull : size - (frame.take size).length = 0 := by
        simp only [List.length_take]
        omega
      obtain ⟨padding, hpadding, hflatten⟩ := ih
      refine ⟨padding, hpadding, ?_⟩
      rw [hfull, hflatten, List.replicate_zero, List.append_nil, ← List.append_assoc,
        List.take_append_drop]

end Frame

namespace Link

open HybridInverter.Frame

theorem arrivesAs_written {l : Link} (hsize : l.reportSize ≠ some 0) (command : List UInt8) :
    ArrivesAs (l.frame command) (l.written command) l.reportSize := by
  cases h : l.reportSize with
  | none => simp [ArrivesAs, written, pieces, h]
  | some size =>
    have hne : size ≠ 0 := fun e => hsize (by rw [h, e])
    have hwritten : l.written command = (reports size (l.frame command)).flatten := by
      simp [written, pieces, h]
    obtain ⟨padding, hpadding, hflatten⟩ := flatten_reports hne (l.frame command)
    exact ⟨reports size (l.frame command), hwritten, fun _ => length_of_mem_reports, padding,
      hpadding, hwritten.trans hflatten⟩

theorem exists_written_eq {l : Link} (hsize : l.reportSize ≠ some 0) (command : List UInt8) :
    ∃ padding, l.written command = l.frame command ++ List.replicate padding 0 := by
  have h := arrivesAs_written hsize command
  cases hs : l.reportSize with
  | none =>
    rw [hs] at h
    exact ⟨0, by simpa [ArrivesAs] using h⟩
  | some size =>
    rw [hs] at h
    obtain ⟨-, -, -, padding, -, hwritten⟩ := h
    exact ⟨padding, hwritten⟩

/-- A command at the front of a buffer, behind padding, is taken off it whole. -/
theorem decode_written {l : Link} (halike : l.checksums.append = l.checksums.expect)
    (hsize : l.reportSize ≠ some 0) {command : List UInt8} (hc : Plain command) :
    ∃ padding, ∀ (n : Nat) (rest : List UInt8),
      decode l.checksums (List.replicate n 0 ++ l.written command ++ rest) =
        (.reply (replyOf l.checksums command), List.replicate padding 0 ++ rest) := by
  obtain ⟨padding, hwritten⟩ := exists_written_eq hsize command
  refine ⟨padding, fun n rest => ?_⟩
  have hframe : List.replicate n 0 ++ l.written command ++ rest =
      List.replicate n 0 ++ body l.checksums command ++
        terminator :: (List.replicate padding 0 ++ rest) := by
    simp [hwritten, frame, encode_eq_body halike]
  rw [hframe, decode_of_cut (hc.cut l.checksums n _), judge_of_accepted (accepted_body _ command),
    content_body]
  rfl

theorem decode_replicate_zero (u : ChecksumUse) (n : Nat) :
    decode u (List.replicate n 0) = (.pending, []) := by
  have hdrop : dropPadding (List.replicate n 0) = [] := by simp [dropPadding]
  simp [decode, hdrop, cut]

/-- Zeros in front of the first command are those that fill up the report before it. -/
theorem play_written {l : Link} (halike : l.checksums.append = l.checksums.expect)
    (hsize : l.reportSize ≠ some 0) {commands : List (List UInt8)}
    (hc : ∀ c ∈ commands, Plain c) (n : Nat) :
    play l.checksums (List.replicate n 0 ++ commands.flatMap l.written)
        (List.replicate (commands.length + 1) .decode) =
      (commands.map (fun c => .reply (replyOf l.checksums c)) ++ [.pending], []) := by
  induction commands generalizing n with
  | nil => simp [play, decode_replicate_zero]
  | cons c commands ih =>
    obtain ⟨hfirst, hothers⟩ := List.forall_mem_cons.mp hc
    obtain ⟨padding, hdecode⟩ := decode_written halike hsize hfirst
    rw [List.flatMap_cons, ← List.append_assoc, List.length_cons, List.replicate_succ, play,
      hdecode, ih hothers padding]
    rfl

theorem replyOf_eq (u : ChecksumUse) (d : List UInt8) :
    replyOf u d = ⟨d, d.length + if u.expect then 3 else 1⟩ := by
  cases h : u.expect <;> simp [replyOf, body, h]

/-- Decoding undoes writing. All that a link has written for a list of commands comes back as these
commands in their order, each with the size of its frame, and nothing is left but to wait. -/
theorem decodings_of_written {l : Link} (halike : l.checksums.append = l.checksums.expect)
    (hsize : l.reportSize ≠ some 0) {commands : List (List UInt8)}
    (hc : ∀ c ∈ commands, Plain c) :
    play l.checksums (commands.flatMap l.written)
        (List.replicate (commands.length + 1) .decode) =
      (commands.map (fun c =>
          .reply ⟨c, c.length + if l.checksums.expect then 3 else 1⟩) ++ [.pending], []) := by
  have h := play_written halike hsize hc 0
  simpa only [List.replicate_zero, List.nil_append, replyOf_eq] using h

theorem decodings_of_written_reports :
    let l : Link := { reportSize := some 8 }
    let commands : List (List UInt8) := [[0x5E, 0x50, 0x30, 0x30, 0x35, 0x50, 0x49], [0x41, 0x00]]
    l.checksums.append = l.checksums.expect ∧ l.reportSize ≠ some 0 ∧ (∀ c ∈ commands, Plain c) ∧
      play {} (commands.flatMap l.written) [.decode, .decode, .decode] =
        ([.reply ⟨[0x5E, 0x50, 0x30, 0x30, 0x35, 0x50, 0x49], 10⟩, .reply ⟨[0x41, 0x00], 5⟩,
          .pending], []) := by
  intro l commands
  have hc : ∀ c ∈ commands, Plain c := by
    rintro c hc
    simp only [commands, List.mem_cons, List.not_mem_nil, or_false] at hc
    rcases hc with rfl | rfl
    · exact ⟨by decide, by decide, by decide⟩
    · exact ⟨by decide, by decide, by decide⟩
  exact ⟨rfl, by decide, hc, decodings_of_written (l := l) rfl (by decide) hc⟩

open HybridInverter.Frame

end Link

end HybridInverter
