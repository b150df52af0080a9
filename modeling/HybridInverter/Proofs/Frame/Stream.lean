import HybridInverter.Proofs.Frame.Decode

/-!
A stream that comes in pieces, decoded now and then. A stretch of the stream counts without the
padding in front of it, and where none is longer than `maxSize` the frames that come out, and what
is left at the end, are those of the whole stream, wherever it is cut and whenever it is decoded.
-/
namespace HybridInverter
namespace Frame

/-- What is done to a buffer: bytes are put behind it, or the next frame is taken off it. -/
inductive Step where
  | feed (bytes : List UInt8)
  | decode
  deriving DecidableEq, Repr

/-- The outcomes of the decodings in their order, and the buffer in the end. -/
def play (u : ChecksumUse) (buffer : List UInt8) : List Step → List Outcome × List UInt8
  | [] => ([], buffer)
  | .feed bytes :: steps => play u (buffer ++ bytes) steps
  | .decode :: steps =>
    let after := play u (decode u buffer).2 steps
    ((decode u buffer).1 :: after.1, after.2)

def fed : List Step → List UInt8
  | [] => []
  | .feed bytes :: steps => bytes ++ fed steps
  | .decode :: steps => fed steps

/-- From an empty buffer on: the outcomes that are not `pending`, and the buffer in the end. -/
def results (u : ChecksumUse) (steps : List Step) : List Outcome × List UInt8 :=
  ((play u [] steps).1.filter (· ≠ .pending), (play u [] steps).2)

/-- The last step is a decoding, and nothing more is complete. -/
def Settled (u : ChecksumUse) (steps : List Step) : Prop :=
  steps.getLast? = some .decode ∧ (play u [] steps).1.getLast? = some .pending

instance (u : ChecksumUse) (steps : List Step) : Decidable (Settled u steps) := by
  unfold Settled; infer_instance

/-- All of a stream at once, then `k` decodings. -/
def whole (stream : List UInt8) (k : Nat) : List Step :=
  .feed stream :: List.replicate k .decode

theorem play_append (u : ChecksumUse) (buffer : List UInt8) (steps more : List Step) :
    play u buffer (steps ++ more) =
      ((play u buffer steps).1 ++ (play u (play u buffer steps).2 more).1,
        (play u (play u buffer steps).2 more).2) := by
  induction steps generalizing buffer with
  | nil => rfl
  | cons step steps ih =>
    cases step with
    | feed bytes => exact ih (buffer ++ bytes)
    | decode => simp only [List.cons_append, play, ih]

@[simp] theorem fed_whole (stream : List UInt8) (k : Nat) : fed (whole stream k) = stream := by
  have h : fed (List.replicate k .decode) = [] := by
    induction k with
    | zero => rfl
    | succ k ih => exact ih
  simp [whole, fed, h]

/-- What terminators end, and what stands behind the last one, each without padding in front. -/
def stretches (stream : List UInt8) : List (List UInt8) :=
  (stream.splitOn terminator).map dropPadding

/-- What the stretches that have an end come to. -/
def verdicts (u : ChecksumUse) (stream : List UInt8) : List Outcome :=
  (stretches stream).dropLast.map (judge u)

def unfinished (stream : List UInt8) : List UInt8 :=
  (stretches stream).getLastD []

theorem stretches_ne_nil (stream : List UInt8) : stretches stream ≠ [] := by
  simp [stretches, List.splitOn_ne_nil]

theorem stretches_of_not_mem {stream : List UInt8} (h : terminator ∉ stream) :
    stretches stream = [dropPadding stream] := by
  rw [stretches, List.splitOn_eq_singleton h, List.map_singleton]

theorem stretches_of_cut {stream frame rest : List UInt8}
    (h : cut (dropPadding stream) = some (frame, rest)) :
    stretches stream = frame :: stretches rest := by
  obtain ⟨front, behind, rfl, hfront⟩ := List.eq_append_cons_of_mem (terminator_mem_of_cut h)
  rw [cut_dropPadding_append_terminator hfront, Option.some.injEq, Prod.mk.injEq] at h
  obtain ⟨rfl, rfl⟩ := h
  rw [stretches, List.splitOn_append_cons_self_of_not_mem hfront, List.map_cons]
  rfl

theorem stretches_zero_cons (stream : List UInt8) : stretches (0 :: stream) = stretches stream := by
  have hzero : (0 == terminator) = false := by decide
  rw [stretches, List.splitOn_cons_eq_if_modifyHead, hzero]
  cases h : stream.splitOn terminator with
  | nil => exact absurd h (List.splitOn_ne_nil _ _)
  | cons s rest => simp [stretches, h, dropPadding]

/-- Padding that has gone from a buffer is not missed in the stream. -/
theorem stretches_dropPadding_append (buffer more : List UInt8) :
    stretches (dropPadding buffer ++ more) = stretches (buffer ++ more) := by
  induction buffer with
  | nil => rfl
  | cons b buffer ih =>
    by_cases hb : b = 0
    · have hdrop : dropPadding (b :: buffer) = dropPadding buffer := by simp [dropPadding, hb]
      rw [hdrop, ih, hb, List.cons_append, stretches_zero_cons]
    · have hdrop : dropPadding (b :: buffer) = b :: buffer := by simp [dropPadding, hb]
      rw [hdrop]

theorem verdicts_of_cut (u : ChecksumUse) {stream frame rest : List UInt8}
    (h : cut (dropPadding stream) = some (frame, rest)) :
    verdicts u stream = judge u frame :: verdicts u rest := by
  rw [verdicts, stretches_of_cut h, List.dropLast_cons_of_ne_nil (stretches_ne_nil rest),
    List.map_cons]
  rfl

theorem unfinished_of_cut {stream frame rest : List UInt8}
    (h : cut (dropPadding stream) = some (frame, rest)) : unfinished stream = unfinished rest := by
  obtain ⟨s, others, hrest⟩ := List.exists_cons_of_ne_nil (stretches_ne_nil rest)
  simp [unfinished, stretches_of_cut h, hrest]

theorem verdicts_of_not_mem (u : ChecksumUse) {stream : List UInt8} (h : terminator ∉ stream) :
    verdicts u stream = [] := by
  rw [verdicts, stretches_of_not_mem h]
  rfl

theorem unfinished_of_not_mem {stream : List UInt8} (h : terminator ∉ stream) :
    unfinished stream = dropPadding stream := by
  rw [unfinished, stretches_of_not_mem h]
  rfl

theorem unterminated_not_mem_verdicts (u : ChecksumUse) (stream : List UInt8) :
    .unterminated ∉ verdicts u stream := by
  intro h
  obtain ⟨frame, -, hframe⟩ := List.mem_map.mp h
  exact judge_ne_unterminated u frame hframe

def Bounded (stream : List UInt8) : Prop :=
  ∀ s ∈ stretches stream, s.length ≤ maxSize

instance (stream : List UInt8) : Decidable (Bounded stream) := by
  unfold Bounded; infer_instance

theorem length_dropPadding_le_of_bounded {buffer more : List UInt8} (h : terminator ∉ buffer)
    (hb : Bounded (buffer ++ more)) : (dropPadding buffer).length ≤ maxSize := by
  by_cases hm : terminator ∈ more
  · obtain ⟨front, behind, rfl, hfront⟩ := List.eq_append_cons_of_mem hm
    have hcut : cut (dropPadding (buffer ++ front ++ terminator :: behind)) =
        some (dropPadding (buffer ++ front), behind) :=
      cut_dropPadding_append_terminator (by simp [h, hfront]) behind
    rw [List.append_assoc] at hcut
    have hlen := hb (dropPadding (buffer ++ front)) (by simp [stretches_of_cut hcut])
    exact Nat.le_trans (length_dropPadding_le buffer front) hlen
  · have hnone : terminator ∉ buffer ++ more := by simp [h, hm]
    have hlen := hb (dropPadding (buffer ++ more)) (by simp [stretches_of_not_mem hnone])
    exact Nat.le_trans (length_dropPadding_le buffer more) hlen

/-- Whatever has come out of a stream, together with what is still to come out of the buffer, is
what the stream comes to. -/
theorem verdicts_of_play (u : ChecksumUse) {buffer : List UInt8} {steps : List Step}
    (hb : Bounded (buffer ++ fed steps)) :
    (play u buffer steps).1.filter (· ≠ .pending) ++ verdicts u (play u buffer steps).2 =
        verdicts u (buffer ++ fed steps) ∧
      unfinished (play u buffer steps).2 = unfinished (buffer ++ fed steps) := by
  induction steps generalizing buffer with
  | nil => simp [play, fed]
  | cons step steps ih =>
    cases step with
    | feed bytes =>
      simp only [play, fed, ← List.append_assoc] at hb ⊢
      exact ih hb
    | decode =>
      simp only [play, fed] at hb ⊢
      cases hcut : cut (dropPadding buffer) with
      | none =>
        have hnone : terminator ∉ buffer := by simpa using hcut
        have hsame := stretches_dropPadding_append buffer (fed steps)
        have hdecode := decode_of_not_mem u hnone (length_dropPadding_le_of_bounded hnone hb)
        have hsearched : Bounded (dropPadding buffer ++ fed steps) := by rwa [Bounded, hsame]
        simpa [hdecode, verdicts, unfinished, hsame] using ih hsearched
      | some p =>
        obtain ⟨frame, rest⟩ := p
        have hwhole := cut_dropPadding_append hcut (fed steps)
        have hrest : Bounded (rest ++ fed steps) := fun s hs =>
          hb s (by rw [stretches_of_cut hwhole]; exact List.mem_cons_of_mem frame hs)
        obtain ⟨hverdicts, hunfinished⟩ := ih hrest
        rw [decode_of_cut hcut, verdicts_of_cut u hwhole, unfinished_of_cut hwhole]
        refine ⟨?_, hunfinished⟩
        rw [List.filter_cons_of_pos (by simp [judge_ne_pending]), List.cons_append, hverdicts]

/-- A run that has settled has got out of its stream all that was in it. -/
theorem results_of_settled {u : ChecksumUse} {steps : List Step} (hb : Bounded (fed steps))
    (h : Settled u steps) : results u steps = (verdicts u (fed steps), unfinished (fed steps)) := by
  obtain ⟨before, rfl⟩ := List.getLast?_eq_some_iff.mp h.1
  have hlast := h.2
  -- the last decoding found no terminator and left its buffer without padding in front
  rcases hdecode : decode u (play u [] before).2 with ⟨outcome, rest⟩
  have hplay : play u [] (before ++ [.decode]) = ((play u [] before).1 ++ [outcome], rest) := by
    rw [play_append]
    simp [play, hdecode]
  rw [hplay, List.getLast?_concat, Option.some.injEq] at hlast
  rw [hlast] at hdecode hplay
  obtain ⟨hnone, hrest⟩ := of_decode_pending hdecode
  have hnone' : terminator ∉ rest := by rw [hrest]; simpa using hnone
  have hstream : Bounded ([] ++ fed (before ++ [.decode])) := by simpa using hb
  obtain ⟨hverdicts, hunfinished⟩ := verdicts_of_play u hstream
  rw [hplay] at hverdicts hunfinished
  rw [verdicts_of_not_mem u hnone', List.append_nil, List.nil_append] at hverdicts
  rw [unfinished_of_not_mem hnone', List.nil_append] at hunfinished
  have hsearched : dropPadding rest = rest := by rw [hrest, dropPadding_dropPadding]
  rw [results, hplay, hverdicts, ← hunfinished, hsearched]

theorem play_replicate (u : ChecksumUse) {buffer : List UInt8} (hb : Bounded buffer) :
    play u buffer (List.replicate (stretches buffer).length .decode) =
      (verdicts u buffer ++ [.pending], unfinished buffer) := by
  induction hn : buffer.length using Nat.strongRecOn generalizing buffer with
  | ind n ih =>
    cases hcut : cut (dropPadding buffer) with
    | none =>
      have hnone : terminator ∉ buffer := by simpa using hcut
      have hlast : Bounded (buffer ++ []) := by simpa using hb
      have hdecode := decode_of_not_mem u hnone (length_dropPadding_le_of_bounded hnone hlast)
      rw [stretches_of_not_mem hnone, verdicts_of_not_mem u hnone, unfinished_of_not_mem hnone]
      simp [play, hdecode]
    | some p =>
      obtain ⟨frame, rest⟩ := p
      have hrest : Bounded rest := fun s hs =>
        hb s (by rw [stretches_of_cut hcut]; exact List.mem_cons_of_mem frame hs)
      have hlt : rest.length < n := by
        have hlen := length_dropPadding_le_length buffer
        rw [(cut_eq_some_iff.mp hcut).1, List.length_append, List.length_cons] at hlen
        omega
      rw [stretches_of_cut hcut, List.length_cons, List.replicate_succ, play, decode_of_cut hcut,
        ih rest.length hlt hrest rfl, verdicts_of_cut u hcut, unfinished_of_cut hcut]
      rfl

theorem settled_whole (u : ChecksumUse) {stream : List UInt8} (hb : Bounded stream) :
    Settled u (whole stream (stretches stream).length) := by
  obtain ⟨s, others, hs⟩ := List.exists_cons_of_ne_nil (stretches_ne_nil stream)
  constructor
  · rw [whole, hs, List.length_cons, List.replicate_succ', ← List.cons_append,
      List.getLast?_concat]
  · rw [whole, play, List.nil_append, play_replicate u hb, List.getLast?_concat]

/-- Where no stretch is too long it does not matter how a stream is cut and when it is decoded. Any
run over it that ends with nothing complete gives the replies and the wrong checksums, and leaves the
buffer, that feeding all of it first and decoding until nothing is complete does; no run reports a
stretch as having no end. -/
theorem results_eq_results_whole {u : ChecksumUse} {steps : List Step}
    (hb : Bounded (fed steps)) (h : Settled u steps) :
    (∃ k, Settled u (whole (fed steps) k)) ∧
      (∀ k, Settled u (whole (fed steps) k) → results u steps = results u (whole (fed steps) k)) ∧
      .unterminated ∉ (results u steps).1 := by
  have hresults := results_of_settled hb h
  refine ⟨⟨_, settled_whole u hb⟩, ?_, ?_⟩
  · intro k hk
    rw [hresults, results_of_settled (by simpa using hb) hk, fed_whole]
  · rw [hresults]
    exact unterminated_not_mem_verdicts u (fed steps)

theorem results_eq_results_whole_in_pieces :
    let steps : List Step :=
      [.decode, .feed [0, 0, 0x5E], .decode, .feed [0x31, 0x0B], .decode,
        .feed [0xC2, 0x0D, 0x41, 0x42, 0x43, 0x0D, 0], .decode, .decode, .feed [0, 0x5E, 0], .decode]
    Bounded (fed steps) ∧ Settled {} steps ∧
      results {} steps = results {} (whole (fed steps) 3) ∧
      results {} (whole (fed steps) 3) =
        ([.reply ⟨[0x5E, 0x31], 5⟩, .mismatch 0x58E5 0x4243], [0x5E, 0]) := by
  intro steps
  have hb : Bounded (fed steps) := by decide +kernel
  have hs : Settled {} steps := by decide +kernel
  have hwhole : Settled {} (whole (fed steps) 3) := by decide +kernel
  exact ⟨hb, hs, (results_eq_results_whole hb hs).2.1 3 hwhole, by decide +kernel⟩

end Frame
end HybridInverter
