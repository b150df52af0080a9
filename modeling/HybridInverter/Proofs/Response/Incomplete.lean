import HybridInverter.Proofs.Frame.Reader
import HybridInverter.Proofs.Response.Envelope

/-!
How much of a declared length has to be there. What is compared with it is the size of the frame on
the wire, and the checksum that has been split off still counts in that. A reply that has carried
one may therefore miss the last byte it declares: it is read for what there is of its payload. One
that misses more is refused.
-/
namespace HybridInverter
namespace Envelope

def fullSize (declared : Nat) : Nat :=
  headerSize + (declared - lengthWidth)

/-- The bytes open as a reply to a query, with this length. -/
structure Declares (data : List UInt8) (n : Nat) : Prop where
  long : headerSize ≤ data.length
  opening : data.take 2 = [caret, queryMark]
  digits : ((data.take headerSize).drop 2).all isDigit
  length : readDigits ((data.take headerSize).drop 2) = n
  least : lengthWidth ≤ n

variable {data : List UInt8} {n size : Nat}

theorem Declares.querySpan_eq (h : Declares data n) (size : Nat) :
    querySpan data size =
      if size < n + uncounted then .error (.reply (.incomplete n size))
      else .ok ⟨headerSize, fullSize n⟩ := by
  simp only [querySpan, if_neg (Nat.not_lt.mpr h.long), h.opening, ne_eq, not_true_eq_false,
    if_false, h.digits, Bool.not_true, Bool.false_eq_true, h.length,
    if_neg (Nat.not_lt.mpr h.least), fullSize]

theorem exists_declares {s : Span} (h : querySpan data size = .ok s) : ∃ n, Declares data n := by
  simp only [querySpan] at h
  split at h
  · cases h
  rename_i hlong
  split at h
  · cases h
  rename_i hopening
  split at h
  · cases h
  rename_i hdigits
  split at h
  · cases h
  split at h
  · cases h
  rename_i hleast
  exact ⟨_, Nat.not_lt.mp hlong, Decidable.not_not.mp hopening, by simpa using hdigits, rfl,
    Nat.not_lt.mp hleast⟩

end Envelope

namespace Frame

/-- The size on the wire counts the terminator, and the checksum where one has been split off. -/
theorem received_of_decode {u : ChecksumUse} (hu : u.expect) {buffer rest : List UInt8}
    {r : Reply} (h : decode u buffer = (.reply r, rest)) (hlen : 2 ≤ r.data.length) :
    r.received = r.data.length + 3 := by
  rcases of_decode h with ⟨frame, -, hjudge⟩ | ⟨-, hnone⟩
  · by_cases ha : Accepted u frame
    · rw [judge_of_accepted ha, Outcome.reply.injEq] at hjudge
      subst hjudge
      have hframe : 2 ≤ frame.length :=
        Nat.le_trans hlen (content_prefix_frame u frame).length_le
      have hcontent : (content u frame).length = frame.length - 2 := by
        rw [content, split_of_le hu hframe, List.length_take]
        omega
      simp only [hcontent]
      omega
    · rw [judge_of_not_accepted ha] at hjudge
      cases hjudge
  · rcases hnone with hnone | hnone <;> cases hnone

end Frame

namespace Response

open Envelope

/-- A reply whose checksum has been split off is accepted exactly when it misses at most one byte of
what it declares. If it misses that one, what is left of its payload is read as the whole of it; if
it misses more, it is refused as incomplete. -/
theorem reply_read_iff_one_missing {u : ChecksumUse} (hu : u.expect) {buffer rest : List UInt8}
    {r : Reply} (h : Frame.decode u buffer = (.reply r, rest)) :
    (∀ s, querySpan r.data r.received = .ok s → s.stop ≤ r.data.length + 1) ∧
      ∀ n, Declares r.data n →
        ((∃ s, querySpan r.data r.received = .ok s) ↔ fullSize n ≤ r.data.length + 1) ∧
        (fullSize n = r.data.length + 1 → ∀ q, ofFrame q r.data r.received =
          .ok (decode q (Utf8.decode (r.data.drop headerSize)))) ∧
        (r.data.length + 1 < fullSize n → ∀ q, ofFrame q r.data r.received =
          .error (.reply (.incomplete n r.received))) := by
  have hspan : ∀ n, Declares r.data n → querySpan r.data r.received =
      if r.data.length + 1 < fullSize n then .error (.reply (.incomplete n r.received))
      else .ok ⟨headerSize, fullSize n⟩ := by
    intro n hn
    have hlong := hn.long
    have hleast := hn.least
    have hreceived := Frame.received_of_decode hu h (Nat.le_trans (by decide) hlong)
    have hsize : r.received < n + uncounted ↔ r.data.length + 1 < fullSize n := by
      simp only [hreceived, fullSize, headerSize, lengthWidth, uncounted] at *
      omega
    simp only [hn.querySpan_eq, hsize]
  refine ⟨fun s hs => ?_, fun n hn => ⟨?_, fun hone q => ?_, fun hmore q => ?_⟩⟩
  · obtain ⟨n, hn⟩ := exists_declares hs
    rw [hspan n hn] at hs
    split at hs
    · cases hs
    · next hfits =>
      obtain rfl := Except.ok.inj hs
      exact Nat.not_lt.mp hfits
  · rw [hspan n hn]
    split
    · next hmore => simp [Nat.not_le.mpr hmore]
    · next hfits => simp [Nat.not_lt.mp hfits]
  · have hpayload : payload r.data ⟨headerSize, fullSize n⟩ =
        Utf8.decode (r.data.drop headerSize) := by
      rw [payload, hone, List.take_of_length_le (Nat.le_succ _)]
    rw [ofFrame, payloadOf, hspan n hn, if_neg (by omega), ← hpayload]
    rfl
  · rw [ofFrame, payloadOf, hspan n hn, if_pos hmore]
    rfl

/-- Two digits are declared and one is sent: the span goes past the content, and the digit that
there is becomes the number. -/
theorem reply_read_iff_one_missing_protocolId :
    ({} : ChecksumUse).expect ∧ ∃ r,
      Frame.decode {} [0x5E, 0x44, 0x30, 0x30, 0x35, 0x31, 0x5D, 0x07, 0x0D] = (.reply r, []) ∧
        Declares r.data 5 ∧ fullSize 5 = r.data.length + 1 ∧
        querySpan r.data r.received = .ok ⟨5, r.data.length + 1⟩ ∧
        ofFrame .protocolId r.data r.received = .ok (.protocolId 1) := by
  have hread : Frame.decode {} [0x5E, 0x44, 0x30, 0x30, 0x35, 0x31, 0x5D, 0x07, 0x0D] =
      (.reply ⟨[0x5E, 0x44, 0x30, 0x30, 0x35, 0x31], 9⟩, []) := by decide +kernel
  have hdeclares : Declares [0x5E, 0x44, 0x30, 0x30, 0x35, 0x31] 5 :=
    ⟨by decide, rfl, by decide, by decide, by decide⟩
  obtain ⟨-, hread'⟩ := reply_read_iff_one_missing rfl hread
  exact ⟨rfl, _, hread, hdeclares, rfl, rfl, (hread' 5 hdeclares).2.1 rfl .protocolId⟩

end Response
end HybridInverter
