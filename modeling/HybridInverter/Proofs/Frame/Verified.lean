import HybridInverter.Proofs.Checksum.SingleBit
import HybridInverter.Proofs.Frame.Decode

/-!
What verification changes. Whatever is decoded, the bytes of a buffer are its padding, those that are
taken as a frame, and those that are left. A reply that has been verified was encoded as a command
is, and without verification the same bytes are taken and the same outcome is had, but for a reply
with another checksum than that of its content. One bit of the content that came over the wrong way is
reported, except for one place and two checksums, behind which the wrong content passes for a reply.
-/
namespace HybridInverter

namespace Frame

theorem exists_eq_append_toBytes {frame : List UInt8} (h : 2 ≤ frame.length) :
    ∃ content crc, frame = content ++ Checksum.toBytes crc := by
  have htwo : (frame.drop (frame.length - 2)).length = 2 := by
    rw [List.length_drop]
    omega
  refine ⟨frame.take (frame.length - 2), Checksum.ofBytes (frame.drop (frame.length - 2)), ?_⟩
  rw [Checksum.toBytes_ofBytes htwo, List.take_append_drop]

theorem judge_append_toBytes {u : ChecksumUse} (hu : u.expect) (content : List UInt8)
    (crc : UInt16) : judge u (content ++ Checksum.toBytes crc) =
      if u.compares ∧ crc ≠ Checksum.of content then .mismatch (Checksum.of content) crc
      else .reply ⟨content, content.length + 3⟩ := by
  have hsplit : split u (content ++ Checksum.toBytes crc) = (content, some crc) := by
    rw [split_of_le hu (by simp)]
    simp
  rw [judge, hsplit]
  simp only [Bool.and_eq_true, bne_iff_ne, List.length_append, Checksum.length_toBytes]

theorem judge_of_not {u : ChecksumUse} {frame : List UInt8} (h : ¬ (u.expect ∧ 2 ≤ frame.length)) :
    judge u frame = .reply ⟨frame, frame.length + 1⟩ := by
  rw [judge, split_of_not h]

/-- What decoding takes off a buffer behind the padding: the next stretch with its terminator, if
it has one. -/
def taken (buffer : List UInt8) : List UInt8 :=
  match cut (dropPadding buffer) with
  | some (frame, _) => frame ++ [terminator]
  | none => []

theorem taken_of_cut {buffer frame rest : List UInt8}
    (h : cut (dropPadding buffer) = some (frame, rest)) : taken buffer = frame ++ [terminator] := by
  rw [taken, h]

theorem taken_append_rest (u : ChecksumUse) (buffer : List UInt8) :
    taken buffer ++ (decode u buffer).2 = dropPadding buffer := by
  cases hcut : cut (dropPadding buffer) with
  | none => simp [taken, decode, hcut]
  | some p =>
    rw [taken_of_cut hcut, decode_of_cut hcut, List.append_assoc, List.singleton_append]
    exact (cut_eq_some_iff.mp hcut).1.symm

/-- These bytes are those of the frame that the outcome tells of; when it tells of none there are
no bytes. -/
def Outcome.Accounts (bytes : List UInt8) : Outcome → Prop
  | .pending | .unterminated => bytes = []
  | .reply r => bytes.length = r.received ∧ r.data <+: bytes
  | .mismatch expected actual =>
    ∃ content, expected = Checksum.of content ∧
      bytes = content ++ Checksum.toBytes actual ++ [terminator]

theorem accounts_judge (u : ChecksumUse) (frame : List UInt8) :
    (judge u frame).Accounts (frame ++ [terminator]) := by
  by_cases h : u.expect ∧ 2 ≤ frame.length
  · obtain ⟨content, crc, rfl⟩ := exists_eq_append_toBytes h.2
    rw [judge_append_toBytes h.1]
    split
    · exact ⟨content, rfl, rfl⟩
    · exact ⟨by simp, by simp⟩
  · rw [judge_of_not h]
    exact ⟨by simp, by simp⟩

theorem accounts_decode (u : ChecksumUse) (buffer : List UInt8) :
    (decode u buffer).1.Accounts (taken buffer) := by
  cases hcut : cut (dropPadding buffer) with
  | none =>
    rw [taken, decode, hcut]
    dsimp only
    split <;> rfl
  | some p =>
    rw [decode_of_cut hcut, taken_of_cut hcut]
    exact accounts_judge u p.1

/-- An outcome of which these bytes are the frame, verified: what stands behind the content of a
reply has to be its checksum, if there is room for one. -/
def Outcome.verified (bytes : List UInt8) : Outcome → Outcome
  | .reply r =>
    let actual := Checksum.ofBytes (bytes.drop r.data.length)
    if 3 ≤ r.received ∧ actual ≠ Checksum.of r.data then .mismatch (Checksum.of r.data) actual
    else .reply r
  | outcome => outcome

theorem judge_eq_verified {u : ChecksumUse} (hu : u.compares) (frame : List UInt8) :
    judge u frame =
      (judge { u with verify := false } frame).verified (frame ++ [terminator]) := by
  have he := u.expect_of_compares hu
  by_cases hlen : 2 ≤ frame.length
  · obtain ⟨content, crc, rfl⟩ := exists_eq_append_toBytes hlen
    have hother : judge { u with verify := false } (content ++ Checksum.toBytes crc) =
        .reply ⟨content, content.length + 3⟩ := by
      have hnone : ¬ ({ u with verify := false } : ChecksumUse).compares := by
        simp [ChecksumUse.compares]
      rw [judge_append_toBytes (u := { u with verify := false }) he, if_neg (fun h => hnone h.1)]
    have hread : Checksum.ofBytes (Checksum.toBytes crc ++ [terminator]) = crc :=
      Checksum.ofBytes_toBytes crc
    rw [judge_append_toBytes he, hother]
    simp [Outcome.verified, hu, hread]
  · rw [judge_of_not (fun h => hlen h.2), judge_of_not (fun h => hlen h.2), Outcome.verified]
    dsimp only
    rw [if_neg (fun h => hlen (by omega))]

theorem decode_eq_verified {u : ChecksumUse} (hu : u.compares) (buffer : List UInt8) :
    let other := decode { u with verify := false } buffer
    decode u buffer = (other.1.verified (taken buffer), other.2) := by
  cases hcut : cut (dropPadding buffer) with
  | none =>
    simp only [decode, hcut]
    split <;> rfl
  | some p =>
    rw [decode_of_cut hcut, decode_of_cut hcut, taken_of_cut hcut, judge_eq_verified hu p.1]

/-- A verified reply with room for a checksum came as a command with a checksum goes. -/
theorem taken_eq_encode {u : ChecksumUse} (hu : u.compares) {buffer : List UInt8} {r : Reply}
    (h : (decode u buffer).1 = .reply r) (hlen : 3 ≤ r.received) :
    taken buffer = encode {} r.data ∧ r.received = r.data.length + 3 := by
  cases hcut : cut (dropPadding buffer) with
  | none =>
    simp only [decode, hcut] at h
    split at h <;> cases h
  | some p =>
    obtain ⟨frame, rest⟩ := p
    have hreply : judge u frame = .reply r := by rwa [decode_of_cut hcut] at h
    have hbytes : frame.length + 1 = r.received := by
      have haccounts := accounts_judge u frame
      rw [hreply] at haccounts
      simpa using haccounts.1
    rw [taken_of_cut hcut]
    have htwo : 2 ≤ frame.length := by omega
    obtain ⟨content, crc, rfl⟩ := exists_eq_append_toBytes htwo
    rw [judge_append_toBytes (u.expect_of_compares hu)] at hreply
    split at hreply
    · cases hreply
    · next hright =>
      obtain rfl := Outcome.reply.inj hreply
      have hcrc : crc = Checksum.of content := by simpa [hu] using hright
      rw [hcrc]
      exact ⟨rfl, rfl⟩

/-- Verification takes nothing more and nothing less off a buffer. The bytes are the padding, those
that the outcome accounts for, and those that are left; a reply that has been verified came as
`encode` writes it; and without verification the outcome is the same, unless there is a reply whose
checksum is wrong. -/
theorem verification_only_filters (u : ChecksumUse) (buffer : List UInt8) :
    (buffer = buffer.takeWhile (· == 0) ++ taken buffer ++ (decode u buffer).2 ∧
      (decode u buffer).1.Accounts (taken buffer)) ∧
    (u.compares →
      (∀ r, (decode u buffer).1 = .reply r → 3 ≤ r.received →
        taken buffer = encode {} r.data ∧ r.received = r.data.length + 3) ∧
      let other := decode { u with verify := false } buffer
      decode u buffer = (other.1.verified (taken buffer), other.2)) := by
  refine ⟨⟨?_, accounts_decode u buffer⟩, fun hu => ⟨fun r h hlen => ?_, ?_⟩⟩
  · rw [List.append_assoc, taken_append_rest]
    exact List.takeWhile_append_dropWhile.symm
  · exact taken_eq_encode hu h hlen
  · exact decode_eq_verified hu buffer

theorem verification_only_filters_acknowledgements :
    let good : List UInt8 := [0, 0, 0x5E, 0x31, 0x0B, 0xC2, 0x0D, 0x41]
    let wrong : List UInt8 := [0, 0x5E, 0x31, 0x0B, 0xC3, 0x0D, 0x41]
    (({} : ChecksumUse).compares ∧ decode {} good = (.reply ⟨[0x5E, 0x31], 5⟩, [0x41]) ∧
        taken good = encode {} [0x5E, 0x31]) ∧
      decode { verify := false } wrong = (.reply ⟨[0x5E, 0x31], 5⟩, [0x41]) ∧
      decode {} wrong = (.mismatch 0x0BC2 0x0BC3, [0x41]) := by
  intro good wrong
  have hu : ({} : ChecksumUse).compares := by decide
  have hgood : decode {} good = (.reply ⟨[0x5E, 0x31], 5⟩, [0x41]) := by decide +kernel
  have hother : decode { verify := false } wrong = (.reply ⟨[0x5E, 0x31], 5⟩, [0x41]) := by
    decide +kernel
  refine ⟨⟨hu, hgood, ?_⟩, hother, ?_⟩
  · exact (((verification_only_filters {} good).2 hu).1 _ (by rw [hgood]) (by decide)).1
  · refine (((verification_only_filters {} wrong).2 hu).2).trans ?_
    rw [hother]
    decide +kernel

open HybridInverter.Checksum

theorem decode_append_toBytes {u : ChecksumUse} (hu : u.expect) {c : List UInt8} (h : Plain c)
    (d rest : List UInt8) : decode u (c ++ toBytes (of d) ++ terminator :: rest) =
      (if u.compares ∧ of d ≠ of c then .mismatch (of c) (of d) else .reply ⟨c, c.length + 3⟩,
        rest) := by
  have hhead : (c ++ toBytes (of d)).head? ≠ some 0 := by
    obtain ⟨b, more, rfl⟩ := List.exists_cons_of_ne_nil h.ne_nil
    simpa using h.no_padding
  have hend : terminator ∉ c ++ toBytes (of d) := by
    rw [List.mem_append, not_or]
    exact ⟨h.no_terminator, terminator_not_mem_toBytes d⟩
  have hcut := cut_dropPadding_replicate_append hhead hend 0 rest
  rw [List.replicate_zero, List.nil_append] at hcut
  rw [decode_of_cut hcut, judge_append_toBytes hu]

/-- A content of up to 1022 bytes with one bit flipped, in front of its own checksum. It is reported
with both checksums, unless the bit is bit 6 of the byte with 272 bytes behind it and the checksum is
one of two: then it is a reply. -/
theorem flipped_bit_reported_unless {u : ChecksumUse} (hu : u.compares) {d : List UInt8} {i j : Nat}
    (hi : i < d.length) (hj : j < 8) (hlen : d.length ≤ 1022) (h : Plain (flipBit d i j))
    (rest : List UInt8) : decode u (flipBit d i j ++ toBytes (of d) ++ terminator :: rest) =
      (if d.length = i + 273 ∧ j = 6 ∧ (of d = 0x0E29 ∨ of d = 0x0E0B) then
          .reply ⟨flipBit d i j, d.length + 3⟩
        else .mismatch (of (flipBit d i j)) (of d),
        rest) := by
  rw [decode_append_toBytes (u.expect_of_compares hu) h, length_flipBit]
  have hseen := of_flipBit_eq_iff hi hj hlen
  by_cases hsame : of (flipBit d i j) = of d
  · rw [if_pos (hseen.mp hsame), if_neg fun hwrong => hwrong.2 hsame.symm]
  · rw [if_neg (mt hseen.mpr hsame), if_pos ⟨hu, Ne.symm hsame⟩]

/-- A refusal made of an acknowledgement. -/
theorem flipped_bit_reported_unless_acknowledgement :
    let d : List UInt8 := [0x5E, 0x31]
    ({} : ChecksumUse).compares ∧ d.length ≤ 1022 ∧ Plain (flipBit d 1 0) ∧
      decode {} (flipBit d 1 0 ++ toBytes (of d) ++ [terminator]) = (.mismatch 0x1BE3 0x0BC2, []) := by
  intro d
  have hflipped : flipBit d 1 0 = [0x5E, 0x30] := by decide
  have hplain : Plain (flipBit d 1 0) := by
    rw [hflipped]
    exact ⟨by decide, by decide, by decide⟩
  have hu : ({} : ChecksumUse).compares := by decide
  refine ⟨hu, by decide, hplain, ?_⟩
  refine (flipped_bit_reported_unless hu (by decide) (by decide) (by decide) hplain []).trans ?_
  decide +kernel

-- One evaluation of all the bytes nests too deep, so the register is read every forty-five bytes.
theorem foldl_addByte_replicate_271 :
    (List.replicate 271 0x75).foldl addByte 0 = 0x50FE := by
  have h45 : (List.replicate 45 0x75).foldl addByte 0 = 0xD492 := by decide +kernel
  have h90 : (List.replicate 45 0x75).foldl addByte 0xD492 = 0xC627 := by decide +kernel
  have h135 : (List.replicate 45 0x75).foldl addByte 0xC627 = 0x056D := by decide +kernel
  have h180 : (List.replicate 45 0x75).foldl addByte 0x056D = 0xB299 := by decide +kernel
  have h225 : (List.replicate 45 0x75).foldl addByte 0xB299 = 0x9094 := by decide +kernel
  have h271 : (List.replicate 46 0x75).foldl addByte 0x9094 = 0x50FE := by decide +kernel
  rw [show 271 = 45 + 45 + 45 + 45 + 45 + 46 from rfl]
  simp only [← List.replicate_append_replicate, List.foldl_append, h45, h90, h135, h180, h225, h271]

/-- The one place and one of the two checksums: the first byte is another one, and nothing is
reported. -/
theorem flipped_bit_unseen :
    let d : List UInt8 := List.replicate 271 0x75 ++ [0x4D, 0x34]
    (1 ≤ d.length ∧ d.length ≤ 1022 ∧ Plain d) ∧
      (0 < d.length ∧ 6 < 8 ∧ Plain (flipBit d 0 6) ∧ flipBit d 0 6 ≠ d) ∧
      decode {} (flipBit d 0 6 ++ toBytes (of d) ++ [terminator]) =
        (.reply ⟨flipBit d 0 6, 276⟩, []) := by
  intro d
  have hsum : of d = 0x0E29 := by
    have hlast : [0x4D, 0x34].foldl addByte 0x50FE = 0x0D29 := by decide +kernel
    rw [of, remainder, List.foldl_append, foldl_addByte_replicate_271, hlast]
    decide
  have hlength : d.length = 273 := by decide +kernel
  have hplain : Plain d := ⟨by decide +kernel, by decide +kernel, by decide +kernel⟩
  have hflipped : Plain (flipBit d 0 6) := ⟨by decide +kernel, by decide +kernel, by decide +kernel⟩
  have hsame : of (flipBit d 0 6) = of d :=
    (of_flipBit_eq_iff (by omega) (by decide) (by omega)).mpr ⟨hlength, rfl, .inl hsum⟩
  refine ⟨⟨by omega, by omega, hplain⟩, ⟨by omega, by decide, hflipped, by decide +kernel⟩, ?_⟩
  rw [decode_append_toBytes rfl hflipped, if_neg fun h => h.2 hsame.symm, length_flipBit, hlength]

end Frame

end HybridInverter
