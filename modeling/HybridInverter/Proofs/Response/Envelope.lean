import HybridInverter.Proofs.Frame.Decode
import HybridInverter.Proofs.Text.Numeral
import HybridInverter.Proofs.Text.Utf8
import HybridInverter.Response.Basic

/-!
Replies from the wire to the record. The size of a frame counts at least one byte between payload
and terminator, so a payload in its envelope is read whole when there is such a byte, and refused
when there is none. Devices that append a checksum send two, whether they are looked at or not.
-/
namespace HybridInverter
namespace Envelope

def lengthField (n : Nat) : List Char :=
  Numeral.padZeros lengthWidth (Numeral.decimal n)

def header (n : Nat) : List UInt8 :=
  caret :: queryMark :: Utf8.encode (lengthField n)

/-- A payload behind its header; the length counts its own three digits. -/
def enclose (payload : List UInt8) : List UInt8 :=
  header (payload.length + lengthWidth) ++ payload

theorem isDigit_of_mem_lengthField {n : Nat} {c : Char} (h : c ∈ lengthField n) : c.isDigit :=
  Numeral.isDigit_of_mem_padZeros (fun _ => Numeral.isDigit_of_mem_decimal) h

theorem encode_cons_of_isDigit {c : Char} (h : c.isDigit) (text : List Char) :
    Utf8.encode (c :: text) = UInt8.ofNat c.toNat :: Utf8.encode text := by
  have hc := Numeral.toNat_of_isDigit h
  rw [Utf8.encode_cons, Utf8.utf8EncodeChar_of_lt (by omega), List.singleton_append]

theorem toNat_ofNat_of_isDigit {c : Char} (h : c.isDigit) :
    (UInt8.ofNat c.toNat).toNat = c.toNat := by
  have hc := Numeral.toNat_of_isDigit h
  simp
  omega

theorem length_encode_of_isDigit {digits : List Char} (h : ∀ c ∈ digits, c.isDigit) :
    (Utf8.encode digits).length = digits.length := by
  induction digits with
  | nil => rfl
  | cons c digits ih =>
    obtain ⟨hc, hdigits⟩ := List.forall_mem_cons.mp h
    rw [encode_cons_of_isDigit hc, List.length_cons, List.length_cons, ih hdigits]

theorem all_isDigit_encode {digits : List Char} (h : ∀ c ∈ digits, c.isDigit) :
    (Utf8.encode digits).all isDigit := by
  induction digits with
  | nil => rfl
  | cons c digits ih =>
    obtain ⟨hc, hdigits⟩ := List.forall_mem_cons.mp h
    have hb : isDigit (UInt8.ofNat c.toNat) := by
      have hn := Numeral.toNat_of_isDigit hc
      have he := toNat_ofNat_of_isDigit hc
      simp only [isDigit, Bool.and_eq_true, decide_eq_true_eq, UInt8.le_iff_toNat_le, he]
      exact hn
    rw [encode_cons_of_isDigit hc, List.all_cons, hb, ih hdigits, Bool.true_and]

theorem readDigits_encode {digits : List Char} (h : ∀ c ∈ digits, c.isDigit) :
    readDigits (Utf8.encode digits) = Numeral.value digits := by
  unfold readDigits Numeral.value Numeral.valueFrom
  generalize 0 = before
  induction digits generalizing before with
  | nil => rfl
  | cons c digits ih =>
    obtain ⟨hc, hdigits⟩ := List.forall_mem_cons.mp h
    rw [encode_cons_of_isDigit hc, List.foldl_cons, List.foldl_cons, toNat_ofNat_of_isDigit hc]
    exact ih hdigits _

theorem length_lengthField {n : Nat} (h : n ≤ 999) : (lengthField n).length = lengthWidth := by
  have hd : (Numeral.decimal n).length ≤ lengthWidth :=
    Numeral.length_decimal_le (by decide) (by simp only [lengthWidth]; omega)
  rw [lengthField, Numeral.length_padZeros, Nat.max_eq_left hd]

theorem length_header {n : Nat} (h : n ≤ 999) : (header n).length = headerSize := by
  rw [header, List.length_cons, List.length_cons,
    length_encode_of_isDigit fun _ => isDigit_of_mem_lengthField, length_lengthField h]
  rfl

theorem readDigits_header (n : Nat) : readDigits ((header n).drop 2) = n := by
  have hd : readDigits (Utf8.encode (lengthField n)) = Numeral.value (lengthField n) :=
    readDigits_encode fun _ => isDigit_of_mem_lengthField
  rw [lengthField, Numeral.value_padZeros, Numeral.value_decimal] at hd
  exact hd

theorem length_enclose {payload : List UInt8} (h : payload.length ≤ 996) :
    (enclose payload).length = headerSize + payload.length := by
  rw [enclose, List.length_append, length_header (by simp only [lengthWidth]; omega)]

theorem length_enclose_encode {p : List Char} (h : Utf8.size p ≤ 996) :
    (enclose (Utf8.encode p)).length = headerSize + Utf8.size p := by
  rw [length_enclose (by rwa [Utf8.length_encode]), Utf8.length_encode]

theorem terminator_not_mem_header (n : Nat) : Frame.terminator ∉ header n := by
  have hd : Frame.terminator ∉ Utf8.encode (lengthField n) := by
    rw [Utf8.mem_encode (by decide)]
    rintro ⟨c, hc, he⟩
    have h := Numeral.toNat_of_isDigit (isDigit_of_mem_lengthField hc)
    rw [he] at h
    exact absurd h.1 (by decide)
  simp only [header, List.mem_cons, hd, or_false]
  decide

theorem terminator_not_mem_enclose {p : List Char} (h : '\r' ∉ p) :
    Frame.terminator ∉ enclose (Utf8.encode p) := by
  have hp : Frame.terminator ∉ Utf8.encode p := by
    rw [Utf8.mem_encode (by decide)]
    rintro ⟨c, hc, he⟩
    have hr : c = '\r' := Char.toNat_inj.mp he
    exact h (hr ▸ hc)
  rw [enclose, List.mem_append, not_or]
  exact ⟨terminator_not_mem_header _, hp⟩

theorem querySpan_enclose {payload : List UInt8} (h : payload.length ≤ 996) (tail : List UInt8)
    (size : Nat) :
    querySpan (enclose payload ++ tail) size =
      if size < payload.length + lengthWidth + uncounted then
        .error (.reply (.incomplete (payload.length + lengthWidth) size))
      else .ok ⟨headerSize, headerSize + payload.length⟩ := by
  have hlen := length_header (n := payload.length + lengthWidth) (by simp only [lengthWidth]; omega)
  have htake : (enclose payload ++ tail).take headerSize = header (payload.length + lengthWidth) := by
    rw [enclose, List.append_assoc, List.take_left' hlen]
  have hshort : ¬ (enclose payload ++ tail).length < headerSize := by
    rw [List.length_append, length_enclose h]
    omega
  have hopen : (enclose payload ++ tail).take 2 = [caret, queryMark] := rfl
  have hall : ((header (payload.length + lengthWidth)).drop 2).all isDigit :=
    all_isDigit_encode fun _ => isDigit_of_mem_lengthField
  have hfits : ¬ payload.length + lengthWidth < lengthWidth := by omega
  simp only [querySpan, htake, readDigits_header, hopen, hall, if_neg hshort, if_neg hfits, ne_eq,
    not_true_eq_false, Bool.not_true, Bool.false_eq_true, if_false, Nat.add_sub_cancel]

theorem payload_enclose {payload : List UInt8} (h : payload.length ≤ 996) (tail : List UInt8) :
    Envelope.payload (enclose payload ++ tail) ⟨headerSize, headerSize + payload.length⟩ =
      Utf8.decode payload := by
  have hlen := length_header (n := payload.length + lengthWidth) (by simp only [lengthWidth]; omega)
  rw [Envelope.payload, List.take_left' (length_enclose h), enclose, List.drop_left' hlen]

theorem acknowledgement_of_caret (b : UInt8) (rest : List UInt8) {size : Nat} (h : 2 ≤ size) :
    acknowledgement (caret :: b :: rest) size =
      .ok (if b = successMark then .success else .failure) := by
  simp [acknowledgement, Nat.not_lt.mpr h]

theorem acknowledgement_of_not {data : List UInt8} (h : ∀ b rest, data ≠ caret :: b :: rest)
    (size : Nat) :
    acknowledgement data size = .error (.reply (.acknowledgement (Utf8.decode data))) := by
  unfold acknowledgement
  split
  · rfl
  · split
    · next a b rest =>
      have ha : a ≠ caret := fun e => h b rest (by rw [e])
      rw [if_pos ha]
    · rfl

end Envelope

namespace Response

open Envelope

/-- The record of an enclosed payload is that of the payload, if the size leaves room for a byte
between payload and terminator. -/
theorem ofFrame_enclose (q : Query) {p : List Char} (h : Utf8.size p ≤ 996) (tail : List UInt8)
    (size : Nat) :
    ofFrame q (enclose (Utf8.encode p) ++ tail) size =
      if size < Utf8.size p + lengthWidth + uncounted then
        .error (.reply (.incomplete (Utf8.size p + lengthWidth) size))
      else .ok (decode q p) := by
  have hlen : (Utf8.encode p).length ≤ 996 := by rwa [Utf8.length_encode]
  rw [ofFrame, payloadOf, querySpan_enclose hlen, Utf8.length_encode]
  split
  · rfl
  · simp only [Except.map]
    rw [← Utf8.length_encode, payload_enclose hlen, Utf8.decode_encode]

/-- Whatever stands between an enclosed payload and the terminator, the frame is taken off the
buffer whole, and its content begins with the envelope. -/
theorem decode_enclose {u : ChecksumUse} {p : List Char} {tail : List UInt8}
    (hr : '\r' ∉ p) (htail : Frame.terminator ∉ tail)
    (hok : Frame.Accepted u (enclose (Utf8.encode p) ++ tail)) (zeros : Nat) (rest : List UInt8) :
    Frame.decode u (List.replicate zeros 0 ++ (enclose (Utf8.encode p) ++ tail) ++
        Frame.terminator :: rest) =
      (.reply ⟨Frame.content u (enclose (Utf8.encode p) ++ tail),
        (enclose (Utf8.encode p) ++ tail).length + 1⟩, rest) := by
  have hhead : (enclose (Utf8.encode p) ++ tail).head? ≠ some 0 := by simp [enclose, header, caret]
  have hend : Frame.terminator ∉ enclose (Utf8.encode p) ++ tail := by
    rw [List.mem_append, not_or]
    exact ⟨terminator_not_mem_enclose hr, htail⟩
  rw [Frame.decode_of_cut (Frame.cut_dropPadding_replicate_append hhead hend zeros rest),
    Frame.judge_of_accepted hok]

/-- A reply that carries its checksum is read whole under every use of checksums, whatever padding
stands in front of it and whatever follows; the checksum never becomes part of the record. -/
theorem reply_with_checksum_read (u : ChecksumUse) (q : Query) {p : List Char}
    (hp : Utf8.size p ≤ 996) (hr : '\r' ∉ p) (zeros : Nat) (rest : List UInt8) :
    let c := enclose (Utf8.encode p)
    ∃ r, Frame.decode u (List.replicate zeros 0 ++ (c ++ Checksum.toBytes (Checksum.of c)) ++
        Frame.terminator :: rest) = (.reply r, rest) ∧
      ofFrame q r.data r.received = .ok (decode q p) := by
  intro c
  have hok := Frame.accepted_append_toBytes u c
  have hdecode := decode_enclose hr (Frame.terminator_not_mem_toBytes c) hok zeros rest
  refine ⟨_, hdecode, ?_⟩
  have hsize : ¬ (c ++ Checksum.toBytes (Checksum.of c)).length + 1 <
      Utf8.size p + lengthWidth + uncounted := by
    have hc := length_enclose_encode hp
    simp only [c, List.length_append, hc, Checksum.length_toBytes, headerSize, lengthWidth,
      uncounted]
    omega
  rw [Frame.content_append_toBytes, ofFrame_enclose q hp, if_neg hsize]

theorem reply_with_checksum_read_protocolId :
    Utf8.size ['1', '8'] ≤ 996 ∧ '\r' ∉ ['1', '8'] ∧
      ∃ r, Frame.decode { expect := false } (List.replicate 3 0 ++
          (enclose (Utf8.encode ['1', '8']) ++
            Checksum.toBytes (Checksum.of (enclose (Utf8.encode ['1', '8'])))) ++
          Frame.terminator :: [0x5E]) = (.reply r, [0x5E]) ∧
        ofFrame .protocolId r.data r.received = .ok (.protocolId 18) :=
  ⟨by decide, by decide, reply_with_checksum_read { expect := false } .protocolId
    (p := ['1', '8']) (by decide) (by decide) 3 [0x5E]⟩

/-- A reply that carries no checksum, where none is expected, is read exactly when something else
stands between its payload and the terminator. With nothing there the frame counts as incomplete,
so a device that sends no checksums has no query answered. -/
theorem bare_reply_read_iff {u : ChecksumUse} (hu : u.expect = false) (q : Query) {p : List Char}
    (hp : Utf8.size p ≤ 996) (hr : '\r' ∉ p) (tail : List UInt8)
    (htail : Frame.terminator ∉ tail) :
    let c := enclose (Utf8.encode p)
    ∃ r, Frame.decode u (c ++ tail ++ [Frame.terminator]) = (.reply r, []) ∧
      (ofFrame q r.data r.received = .ok (decode q p) ↔ tail ≠ []) ∧
      (tail = [] → ofFrame q r.data r.received =
        .error (.reply (.incomplete (Utf8.size p + 3) (Utf8.size p + 6)))) := by
  intro c
  have hok : Frame.Accepted u (c ++ tail) := fun h => by simp [ChecksumUse.compares, hu] at h
  have hdecode := decode_enclose hr htail hok 0 []
  have hcontent : Frame.content u (c ++ tail) = c ++ tail := by simp [Frame.content, Frame.split, hu]
  have hc := length_enclose_encode hp
  have hlen : (c ++ tail).length + 1 = Utf8.size p + headerSize + tail.length + 1 := by
    rw [List.length_append, hc]
    omega
  refine ⟨_, hdecode, ?_, ?_⟩
  · rw [hcontent, ofFrame_enclose q hp, hlen]
    cases tail with
    | nil => simp [headerSize, lengthWidth, uncounted]
    | cons b tail =>
      have hsize : ¬ Utf8.size p + headerSize + (b :: tail).length + 1 <
          Utf8.size p + lengthWidth + uncounted := by
        simp only [List.length_cons, headerSize, lengthWidth, uncounted]
        omega
      rw [if_neg hsize]
      simp
  · rintro rfl
    rw [hcontent, ofFrame_enclose q hp, hlen]
    simp [headerSize, lengthWidth, uncounted]

theorem bare_reply_refused_protocolId :
    ({ expect := false } : ChecksumUse).expect = false ∧ Utf8.size ['1', '8'] ≤ 996 ∧
      '\r' ∉ ['1', '8'] ∧ Frame.terminator ∉ [] ∧
      ∃ r, Frame.decode { expect := false } (enclose (Utf8.encode ['1', '8']) ++ [] ++
          [Frame.terminator]) = (.reply r, []) ∧
        ofFrame .protocolId r.data r.received = .error (.reply (.incomplete 5 8)) := by
  obtain ⟨r, hdecode, -, hbare⟩ := bare_reply_read_iff (u := { expect := false }) rfl .protocolId
    (p := ['1', '8']) (by decide) (by decide) [] (by decide)
  exact ⟨rfl, by decide, by decide, by decide, r, hdecode, hbare rfl⟩

end Response
end HybridInverter
