import HybridInverter.Frame
import HybridInverter.Proofs.Checksum

/-!
The next frame of a buffer. Padding goes, the stretch up to the first terminator is judged, and
what stands behind the terminator stays. A stretch is accepted unless its checksum is compared and
wrong; `body` is the stretch that a device sends for a content, and it is always accepted.
-/
namespace HybridInverter

theorem ChecksumUse.expect_of_compares (u : ChecksumUse) (h : u.compares) : u.expect := by
  simp only [compares, Bool.and_eq_true] at h
  exact h.1

namespace Frame

theorem cut_append_terminator {body : List UInt8} (h : terminator ∉ body) (rest : List UInt8) :
    cut (body ++ terminator :: rest) = some (body, rest) := by
  induction body with
  | nil => simp [cut]
  | cons b body ih =>
    have hb : terminator ≠ b := List.ne_of_not_mem_cons h
    simp [cut, Ne.symm hb, ih (List.not_mem_of_not_mem_cons h)]

@[simp] theorem cut_eq_none_iff (bytes : List UInt8) : cut bytes = none ↔ terminator ∉ bytes := by
  induction bytes with
  | nil => simp [cut]
  | cons b bytes ih =>
    by_cases hb : b = terminator
    · simp [cut, hb]
    · simp [cut, hb, ih, Ne.symm hb]

theorem cut_eq_some_iff {bytes body rest : List UInt8} :
    cut bytes = some (body, rest) ↔ bytes = body ++ terminator :: rest ∧ terminator ∉ body := by
  constructor
  · intro h
    induction bytes generalizing body with
    | nil => simp [cut] at h
    | cons b bytes ih =>
      by_cases hb : b = terminator
      · simp only [cut, if_pos hb, Option.some.injEq, Prod.mk.injEq] at h
        obtain ⟨rfl, rfl⟩ := h
        simp [hb]
      · simp only [cut, if_neg hb, Option.map_eq_some_iff, Prod.mk.injEq] at h
        obtain ⟨⟨front, _⟩, hcut, rfl, rfl⟩ := h
        obtain ⟨rfl, hfront⟩ := ih hcut
        exact ⟨rfl, by simp [hfront, Ne.symm hb]⟩
  · rintro ⟨rfl, h⟩
    exact cut_append_terminator h rest

theorem cut_append {bytes body rest : List UInt8} (h : cut bytes = some (body, rest))
    (more : List UInt8) : cut (bytes ++ more) = some (body, rest ++ more) := by
  obtain ⟨rfl, hbody⟩ := cut_eq_some_iff.mp h
  simpa using cut_append_terminator hbody (rest ++ more)

theorem length_le_of_cut_append {bytes more body rest : List UInt8} (hnone : terminator ∉ bytes)
    (h : cut (bytes ++ more) = some (body, rest)) : bytes.length ≤ body.length := by
  obtain ⟨he, -⟩ := cut_eq_some_iff.mp h
  rcases List.append_eq_append_iff.mp he with ⟨front, rfl, -⟩ | ⟨back, rfl, hback⟩
  · simp
  · cases back with
    | nil => simp
    | cons b back =>
      obtain ⟨rfl, -⟩ := List.cons.inj hback
      exact absurd (by simp) hnone

@[simp] theorem dropPadding_replicate_append (n : Nat) (bytes : List UInt8) :
    dropPadding (List.replicate n 0 ++ bytes) = dropPadding bytes := by
  induction n with
  | zero => rfl
  | succ n ih =>
    simp only [dropPadding] at ih ⊢
    simp [List.replicate_succ, ih]

theorem dropPadding_append_dropPadding (bytes more : List UInt8) :
    dropPadding (dropPadding bytes ++ more) = dropPadding (bytes ++ more) := by
  induction bytes with
  | nil => rfl
  | cons b bytes ih =>
    by_cases hb : b = 0
    · simp only [dropPadding] at ih ⊢
      simp [hb, ih]
    · simp [dropPadding, hb]

@[simp] theorem dropPadding_dropPadding (bytes : List UInt8) :
    dropPadding (dropPadding bytes) = dropPadding bytes := by
  simpa using dropPadding_append_dropPadding bytes []

theorem dropPadding_append_of_ne_nil {bytes : List UInt8} (h : dropPadding bytes ≠ [])
    (more : List UInt8) : dropPadding (bytes ++ more) = dropPadding bytes ++ more := by
  simp only [dropPadding] at h ⊢
  simp [List.dropWhile_append, h]

theorem length_dropPadding_le_length (bytes : List UInt8) :
    (dropPadding bytes).length ≤ bytes.length :=
  (List.dropWhile_suffix _).length_le

theorem length_dropPadding_le (bytes more : List UInt8) :
    (dropPadding bytes).length ≤ (dropPadding (bytes ++ more)).length := by
  by_cases hb : dropPadding bytes = []
  · simp [hb]
  · rw [dropPadding_append_of_ne_nil hb, List.length_append]
    omega

theorem dropPadding_of_head?_ne {bytes : List UInt8} (h : bytes.head? ≠ some 0) :
    dropPadding bytes = bytes := by
  cases bytes with
  | nil => rfl
  | cons b bytes =>
    have hb : b ≠ 0 := fun e => h (by simp [e])
    simp [dropPadding, hb]

@[simp] theorem terminator_mem_dropPadding (bytes : List UInt8) :
    terminator ∈ dropPadding bytes ↔ terminator ∈ bytes := by
  induction bytes with
  | nil => rfl
  | cons b bytes ih =>
    by_cases hb : b = 0
    · have ht : terminator ≠ 0 := by decide
      simpa [dropPadding, hb, ht] using ih
    · simp [dropPadding, hb]

theorem cut_dropPadding_append {bytes frame rest : List UInt8}
    (h : cut (dropPadding bytes) = some (frame, rest)) (more : List UInt8) :
    cut (dropPadding (bytes ++ more)) = some (frame, rest ++ more) := by
  have hb : dropPadding bytes ≠ [] := fun e => by simp [e, cut] at h
  rw [dropPadding_append_of_ne_nil hb, cut_append h]

theorem cut_dropPadding_append_terminator {bytes : List UInt8} (h : terminator ∉ bytes)
    (rest : List UInt8) :
    cut (dropPadding (bytes ++ terminator :: rest)) = some (dropPadding bytes, rest) := by
  have hdrop : dropPadding (bytes ++ terminator :: rest) =
      dropPadding bytes ++ terminator :: rest := by
    by_cases hb : dropPadding bytes = []
    · have ht : terminator ≠ 0 := by decide
      simp only [dropPadding] at hb ⊢
      simp [List.dropWhile_append, hb, ht]
    · exact dropPadding_append_of_ne_nil hb _
  rw [hdrop]
  exact cut_append_terminator (by simpa using h) rest

theorem cut_dropPadding_replicate_append {frame : List UInt8} (hpad : frame.head? ≠ some 0)
    (hend : terminator ∉ frame) (n : Nat) (rest : List UInt8) :
    cut (dropPadding (List.replicate n 0 ++ frame ++ terminator :: rest)) = some (frame, rest) := by
  have hzero : terminator ≠ 0 := by decide
  rw [cut_dropPadding_append_terminator (by simp [hzero, hend]), dropPadding_replicate_append,
    dropPadding_of_head?_ne hpad]

theorem exists_padding (bytes : List UInt8) :
    ∃ n, bytes = List.replicate n 0 ++ dropPadding bytes := by
  induction bytes with
  | nil => exact ⟨0, rfl⟩
  | cons b bytes ih =>
    by_cases hb : b = 0
    · obtain ⟨n, hn⟩ := ih
      have hdrop : dropPadding (b :: bytes) = dropPadding bytes := by simp [dropPadding, hb]
      exact ⟨n + 1, by rw [hdrop, List.replicate_succ, List.cons_append, ← hn, hb]⟩
    · exact ⟨0, by simp [dropPadding, hb]⟩

theorem cut_dropPadding_eq_some_iff {bytes frame rest : List UInt8} :
    cut (dropPadding bytes) = some (frame, rest) ↔
      (∃ n, bytes = List.replicate n 0 ++ frame ++ terminator :: rest) ∧ terminator ∉ frame ∧
        frame.head? ≠ some 0 := by
  constructor
  · intro h
    obtain ⟨hdrop, hend⟩ := cut_eq_some_iff.mp h
    obtain ⟨n, hn⟩ := exists_padding bytes
    refine ⟨⟨n, by rw [hn, hdrop, List.append_assoc]⟩, hend, fun hzero => ?_⟩
    have hhead : (dropPadding bytes).head? = some 0 := by rw [hdrop, List.head?_append, hzero]; rfl
    have hnot := List.head?_dropWhile_not (· == (0 : UInt8)) bytes
    rw [dropPadding] at hhead
    simp [hhead] at hnot
  · rintro ⟨⟨n, rfl⟩, hend, hpad⟩
    exact cut_dropPadding_replicate_append hpad hend n rest

theorem terminator_mem_of_cut {bytes frame rest : List UInt8}
    (h : cut (dropPadding bytes) = some (frame, rest)) : terminator ∈ bytes := by
  rw [← terminator_mem_dropPadding, (cut_eq_some_iff.mp h).1]
  simp

def content (u : ChecksumUse) (frame : List UInt8) : List UInt8 :=
  (split u frame).1

/-- The checksum at the end, where one is compared and there is room for it, is the right one. -/
def Accepted (u : ChecksumUse) (frame : List UInt8) : Prop :=
  u.compares → 2 ≤ frame.length →
    Checksum.ofBytes (frame.drop (frame.length - 2)) = Checksum.of (frame.take (frame.length - 2))

instance (u : ChecksumUse) (frame : List UInt8) : Decidable (Accepted u frame) := by
  unfold Accepted; infer_instance

theorem split_of_le {u : ChecksumUse} {frame : List UInt8} (hu : u.expect)
    (h : 2 ≤ frame.length) :
    split u frame = (frame.take (frame.length - 2),
      some (Checksum.ofBytes (frame.drop (frame.length - 2)))) := by
  simp [split, hu, h]

theorem split_of_not {u : ChecksumUse} {frame : List UInt8}
    (h : ¬ (u.expect ∧ 2 ≤ frame.length)) : split u frame = (frame, none) := by
  simpa [split] using h

theorem judge_of_accepted {u : ChecksumUse} {frame : List UInt8} (h : Accepted u frame) :
    judge u frame = .reply ⟨content u frame, frame.length + 1⟩ := by
  by_cases hs : u.expect ∧ 2 ≤ frame.length
  · have hc : (u.compares && Checksum.ofBytes (frame.drop (frame.length - 2)) !=
        Checksum.of (frame.take (frame.length - 2))) = false := by
      by_cases hu : u.compares
      · simp [h hu hs.2]
      · simp [hu]
    simp [judge, content, split_of_le hs.1 hs.2, hc]
  · simp [judge, content, split_of_not hs]

theorem judge_of_not_accepted {u : ChecksumUse} {frame : List UInt8} (h : ¬ Accepted u frame) :
    judge u frame = .mismatch (Checksum.of (content u frame))
      (Checksum.ofBytes (frame.drop (frame.length - 2))) := by
  simp only [Accepted, Classical.not_imp] at h
  obtain ⟨hu, hl, hne⟩ := h
  have he := u.expect_of_compares hu
  simp [judge, content, split_of_le he hl, hu, hne]

/-- A stretch with the right checksum is its content and the checksum of that. -/
theorem content_append_toBytes_of_accepted {u : ChecksumUse} {frame : List UInt8}
    (hu : u.compares) (h : Accepted u frame) (hlen : 2 ≤ frame.length) :
    content u frame ++ Checksum.toBytes (Checksum.of (content u frame)) = frame := by
  have he := u.expect_of_compares hu
  have htwo : (frame.drop (frame.length - 2)).length = 2 := by
    rw [List.length_drop]
    omega
  rw [content, split_of_le he hlen, ← h hu hlen, Checksum.toBytes_ofBytes htwo,
    List.take_append_drop]

theorem decode_of_cut {u : ChecksumUse} {buffer frame rest : List UInt8}
    (h : cut (dropPadding buffer) = some (frame, rest)) :
    decode u buffer = (judge u frame, rest) := by
  simp [decode, h]

theorem judge_ne_pending (u : ChecksumUse) (frame : List UInt8) : judge u frame ≠ .pending := by
  by_cases h : Accepted u frame
  · simp [judge_of_accepted h]
  · simp [judge_of_not_accepted h]

theorem judge_ne_unterminated (u : ChecksumUse) (frame : List UInt8) :
    judge u frame ≠ .unterminated := by
  by_cases h : Accepted u frame
  · simp [judge_of_accepted h]
  · simp [judge_of_not_accepted h]

theorem decode_of_not_mem (u : ChecksumUse) {buffer : List UInt8} (h : terminator ∉ buffer)
    (hlen : (dropPadding buffer).length ≤ maxSize) :
    decode u buffer = (.pending, dropPadding buffer) := by
  have hcut : cut (dropPadding buffer) = none := by simpa using h
  simp [decode, hcut, Nat.not_lt.mpr hlen]

/-- Nothing is pending but what has no end; then only padding has gone. -/
theorem of_decode_pending {u : ChecksumUse} {buffer rest : List UInt8}
    (h : decode u buffer = (.pending, rest)) : terminator ∉ buffer ∧ rest = dropPadding buffer := by
  cases hcut : cut (dropPadding buffer) with
  | none =>
    have hrest : dropPadding buffer = rest := by
      simpa [decode, hcut] using congrArg Prod.snd h
    exact ⟨by simpa using hcut, hrest.symm⟩
  | some p =>
    rw [decode_of_cut hcut] at h
    exact absurd (congrArg Prod.fst h) (judge_ne_pending u p.1)

theorem content_prefix_frame (u : ChecksumUse) (frame : List UInt8) : content u frame <+: frame := by
  by_cases hs : u.expect ∧ 2 ≤ frame.length
  · rw [content, split_of_le hs.1 hs.2]
    exact List.take_prefix _ _
  · simp [content, split_of_not hs]

theorem terminator_not_mem_toBytes (d : List UInt8) :
    terminator ∉ Checksum.toBytes (Checksum.of d) :=
  fun h => Checksum.not_isReserved_of_mem h (by decide)

theorem accepted_append_toBytes (u : ChecksumUse) (d : List UInt8) :
    Accepted u (d ++ Checksum.toBytes (Checksum.of d)) := by
  intro _ _
  simp

theorem content_append_toBytes (u : ChecksumUse) (d : List UInt8) :
    content u (d ++ Checksum.toBytes (Checksum.of d)) =
      d ++ if u.expect then [] else Checksum.toBytes (Checksum.of d) := by
  cases h : u.expect <;> simp [content, split, h]

def body (u : ChecksumUse) (d : List UInt8) : List UInt8 :=
  d ++ if u.expect then Checksum.toBytes (Checksum.of d) else []

@[simp] theorem terminator_mem_body (u : ChecksumUse) (d : List UInt8) :
    terminator ∈ body u d ↔ terminator ∈ d := by
  cases h : u.expect <;> simp [body, h, terminator_not_mem_toBytes]

@[simp] theorem content_body (u : ChecksumUse) (d : List UInt8) : content u (body u d) = d := by
  cases h : u.expect
  · simp [body, content, split, h]
  · simp [body, h, content_append_toBytes]

@[simp] theorem accepted_body (u : ChecksumUse) (d : List UInt8) : Accepted u (body u d) := by
  cases h : u.expect
  · intro hu
    simp [ChecksumUse.compares, h] at hu
  · simpa [body, h] using accepted_append_toBytes u d

/-- A command goes out as a device that uses checksums likewise would send it. -/
theorem encode_eq_body {u : ChecksumUse} (h : u.append = u.expect) (d : List UInt8) :
    encode u d = body u d ++ [terminator] := by
  simp [encode, body, h]

def replyOf (u : ChecksumUse) (d : List UInt8) : Reply :=
  ⟨d, (body u d).length + 1⟩

structure Plain (d : List UInt8) : Prop where
  ne_nil : d ≠ []
  no_terminator : terminator ∉ d
  no_padding : d.head? ≠ some 0

theorem Plain.head?_body {d : List UInt8} (h : Plain d) (u : ChecksumUse) :
    (body u d).head? ≠ some 0 := by
  obtain ⟨b, rest, rfl⟩ := List.exists_cons_of_ne_nil h.ne_nil
  simpa [body] using h.no_padding

theorem Plain.terminator_not_mem {d : List UInt8} (h : Plain d) (u : ChecksumUse) :
    terminator ∉ body u d := by
  simpa using h.no_terminator

theorem Plain.cut {d : List UInt8} (h : Plain d) (u : ChecksumUse) (n : Nat) (rest : List UInt8) :
    cut (dropPadding (List.replicate n 0 ++ body u d ++ terminator :: rest)) =
      some (body u d, rest) :=
  cut_dropPadding_replicate_append (h.head?_body u) (h.terminator_not_mem u) n rest

/-- A content that a frame can carry: nothing in it ends the frame or is taken for padding in front of
it, and the frame keeps to the size of frames. -/
structure WellFormed (u : ChecksumUse) (d : List UInt8) : Prop where
  ne_nil : d ≠ []
  no_terminator : terminator ∉ d
  no_padding : d.head? ≠ some 0
  fits : (body u d).length ≤ maxSize

theorem WellFormed.plain {u : ChecksumUse} {d : List UInt8} (h : WellFormed u d) : Plain d :=
  ⟨h.ne_nil, h.no_terminator, h.no_padding⟩

theorem WellFormed.head?_body {u : ChecksumUse} {d : List UInt8} (h : WellFormed u d) :
    (body u d).head? ≠ some 0 :=
  h.plain.head?_body u

theorem WellFormed.terminator_not_mem {u : ChecksumUse} {d : List UInt8} (h : WellFormed u d) :
    terminator ∉ body u d :=
  h.plain.terminator_not_mem u

theorem WellFormed.cut {u : ChecksumUse} {d : List UInt8} (h : WellFormed u d) (n : Nat)
    (rest : List UInt8) :
    cut (dropPadding (List.replicate n 0 ++ body u d ++ terminator :: rest)) =
      some (body u d, rest) :=
  h.plain.cut u n rest

/-- A frame that has come in part is never taken for one that has no end. -/
theorem WellFormed.length_dropPadding_take_le {u : ChecksumUse} {d : List UInt8}
    (h : WellFormed u d) (k : Nat) : (dropPadding ((body u d).take k)).length ≤ maxSize := by
  calc (dropPadding ((body u d).take k)).length
      ≤ (dropPadding ((body u d).take k ++ (body u d).drop k)).length :=
        length_dropPadding_le _ _
    _ = (body u d).length := by rw [List.take_append_drop, dropPadding_of_head?_ne h.head?_body]
    _ ≤ maxSize := h.fits

end Frame
end HybridInverter
