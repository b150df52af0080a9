import HybridInverter.Frame
import HybridInverter.Proofs.Frame.Decode

/-!
Reading one frame out of a stream in pieces. However the bytes at hand and those on their way share a
frame of at most `maxSize` bytes between them, `await` delivers it and loses nothing behind it. Of all
of them it takes one stretch, with the padding in front of it and its terminator, and delivers what the
stretch comes to; or it takes nothing but padding, and then it delivers no reply.
-/
namespace HybridInverter

namespace Frame

def deliver (u : ChecksumUse) (frame : List UInt8) : Delivery :=
  if Accepted u frame then
    .reply ⟨content u frame, frame.length + 1⟩ (if u.compares then none else (split u frame).2)
  else
    .mismatch (Checksum.of (content u frame)) (Checksum.ofBytes (frame.drop (frame.length - 2)))

/-- A frame came that was none: its checksum was wrong, or it had no end. -/
inductive Delivery.IsBad : Delivery → Prop
  | unterminated : IsBad .unterminated
  | mismatch (expected actual : UInt16) : IsBad (.mismatch expected actual)

theorem deliver_of_accepted {u : ChecksumUse} {frame : List UInt8} (h : Accepted u frame) :
    deliver u frame = .reply ⟨content u frame, frame.length + 1⟩
      (if u.compares then none else (split u frame).2) :=
  if_pos h

theorem unverified_of_cut {u : ChecksumUse} {buffer frame rest : List UInt8}
    (h : cut (dropPadding buffer) = some (frame, rest)) :
    unverified u buffer = if u.compares then none else (split u frame).2 := by
  simp [unverified, h]

namespace Reader

/-- Able to read on: no failure is left to report, the stream is open as far as is known, and
bytes that have been searched hold no terminator. -/
structure Ready (r : Reader) : Prop where
  failed : r.failed = false
  ended : r.fresh = true → r.ended = false
  searched : r.fresh = false → terminator ∉ r.buffer

/-- Nothing at hand that has not been searched in vain. -/
structure Waiting (r : Reader) : Prop where
  failed : r.failed = false
  fresh : r.fresh = false
  searched : terminator ∉ r.buffer

theorem Waiting.ready {r : Reader} (h : r.Waiting) : r.Ready where
  failed := h.failed
  ended hf := by simp [h.fresh] at hf
  searched _ := h.searched

theorem Waiting.poll {r : Reader} (h : r.Waiting) (u : ChecksumUse) : poll u r = .hungry r := by
  simp [Reader.poll, h.failed, h.fresh]

def room (r : Reader) : Nat :=
  r.makeRoom.storage - r.buffer.length - 1 + 1

@[simp] theorem buffer_makeRoom (r : Reader) : r.makeRoom.buffer = r.buffer := by
  unfold makeRoom; split <;> rfl
@[simp] theorem failed_makeRoom (r : Reader) : r.makeRoom.failed = r.failed := by
  unfold makeRoom; split <;> rfl

theorem ready_receive {r : Reader} (h : r.failed = false) (bytes : List UInt8) :
    (r.receive bytes).Ready where
  failed := h
  ended _ := rfl
  searched hf := by simp [receive] at hf

theorem await_of_delivered {u : ChecksumUse} {r r' : Reader} {d : Delivery}
    (h : poll u r = .delivered d r') (arriving : List UInt8) (ended : Bool) :
    await u r arriving ended = (some d, r', arriving) := by
  rw [await, h]

theorem await_of_hungry_nil {u : ChecksumUse} {r r' : Reader} (h : poll u r = .hungry r') :
    await u r [] false = (none, r', []) := by
  rw [await, h]
  simp

theorem await_of_hungry_end {u : ChecksumUse} {r r' : Reader} (h : poll u r = .hungry r') :
    await u r [] true = (some (finish u r').1, (finish u r').2, []) := by
  rw [await, h]
  simp

theorem await_of_hungry {u : ChecksumUse} {r r' : Reader} {arriving : List UInt8}
    (h : poll u r = .hungry r') (ha : arriving ≠ []) (ended : Bool) :
    await u r arriving ended =
      await u (r'.makeRoom.receive (arriving.take r'.room)) (arriving.drop r'.room) ended := by
  cases arriving with
  | nil => exact absurd rfl ha
  | cons b rest => rw [await, h]; simp [room]

theorem poll_of_complete {u : ChecksumUse} {r : Reader} {frame rest : List UInt8}
    (hfailed : r.failed = false) (hfresh : r.fresh = true)
    (hcut : cut (dropPadding r.buffer) = some (frame, rest)) :
    poll u r = .delivered (deliver u frame)
      { r.keep rest with failed := !decide (Accepted u frame) } := by
  by_cases ha : Accepted u frame
  · simp [poll, hfailed, hfresh, decode_of_cut hcut, judge_of_accepted ha, deliver, ha,
      unverified_of_cut hcut, keep]
  · simp [poll, hfailed, hfresh, decode_of_cut hcut, judge_of_not_accepted ha, deliver, ha]

theorem poll_of_incomplete {u : ChecksumUse} {r : Reader} (hfailed : r.failed = false)
    (hfresh : r.fresh = true) (hended : r.ended = false) (hnone : terminator ∉ r.buffer)
    (hlen : (dropPadding r.buffer).length ≤ maxSize) :
    poll u r = .hungry { r.keep (dropPadding r.buffer) with fresh := false } := by
  have hcut : cut (dropPadding r.buffer) = none := by simpa using hnone
  have hdecode : decode u r.buffer = (.pending, dropPadding r.buffer) := by
    simp [decode, hcut, Nat.not_lt.mpr hlen]
  simp [poll, hfailed, hfresh, hdecode, hended]

theorem poll_of_part {u : ChecksumUse} {r : Reader} (h : r.Ready) (hnone : terminator ∉ r.buffer)
    (hlen : (dropPadding r.buffer).length ≤ maxSize) :
    ∃ r', poll u r = .hungry r' ∧ r'.Waiting ∧
      ∀ arriving, dropPadding (r'.buffer ++ arriving) = dropPadding (r.buffer ++ arriving) := by
  cases hf : r.fresh with
  | false =>
    have hw : r.Waiting := ⟨h.failed, hf, hnone⟩
    exact ⟨r, hw.poll u, hw, fun _ => rfl⟩
  | true =>
    have hpoll := poll_of_incomplete (u := u) h.failed hf (h.ended hf) hnone hlen
    have hsearched : terminator ∉ dropPadding r.buffer := by simpa using hnone
    exact ⟨_, hpoll, ⟨h.failed, rfl, hsearched⟩, dropPadding_append_dropPadding r.buffer⟩

/-- A frame that is completely at hand is delivered; any other leaves the reader waiting for the rest
of it. -/
theorem poll_of_cut {u : ChecksumUse} {r : Reader} {arriving frame rest : List UInt8} (h : r.Ready)
    (hcut : cut (dropPadding (r.buffer ++ arriving)) = some (frame, rest))
    (hlen : frame.length ≤ maxSize) :
    (∃ r', poll u r = .delivered (deliver u frame) r' ∧ r'.buffer ++ arriving = rest ∧
      r'.failed = !decide (Accepted u frame) ∧ r'.ended = false) ∨
    ∃ r', poll u r = .hungry r' ∧ r'.Waiting ∧
      cut (dropPadding (r'.buffer ++ arriving)) = some (frame, rest) := by
  cases hc : cut (dropPadding r.buffer) with
  | none =>
    -- what is at hand begins the frame, so it is no longer than the frame
    have hnone : terminator ∉ dropPadding r.buffer := (cut_eq_none_iff _).mp hc
    have hshort : (dropPadding r.buffer).length ≤ maxSize := by
      by_cases hb : dropPadding r.buffer = []
      · simp [hb]
      · rw [dropPadding_append_of_ne_nil hb] at hcut
        exact Nat.le_trans (length_le_of_cut_append hnone hcut) hlen
    obtain ⟨r', hpoll, hwait, hsame⟩ := poll_of_part (u := u) h (by simpa using hnone) hshort
    refine .inr ⟨r', hpoll, hwait, ?_⟩
    rw [hsame, hcut]
  | some p =>
    have hf : r.fresh = true := by
      cases hf : r.fresh
      · exact absurd (terminator_mem_of_cut hc) (h.searched hf)
      · rfl
    rw [cut_dropPadding_append hc, Option.some.injEq, Prod.mk.injEq] at hcut
    obtain ⟨rfl, rfl⟩ := hcut
    exact .inl ⟨_, poll_of_complete h.failed hf hc, rfl, rfl, h.ended hf⟩

/-- A frame that is at hand or on its way is delivered, and what stands behind it is still at hand or
on its way. -/
theorem await_of_cut (u : ChecksumUse) {r : Reader} {arriving frame rest : List UInt8} (h : r.Ready)
    (hcut : cut (dropPadding (r.buffer ++ arriving)) = some (frame, rest))
    (hlen : frame.length ≤ maxSize) (ended : Bool) :
    ∃ r' left, await u r arriving ended = (some (deliver u frame), r', left) ∧
      r'.buffer ++ left = rest ∧ r'.failed = !decide (Accepted u frame) ∧ r'.ended = false := by
  induction hn : arriving.length using Nat.strongRecOn generalizing r arriving with
  | ind n ih =>
    rcases poll_of_cut h hcut hlen with ⟨r', hpoll, hafter⟩ | ⟨r', hpoll, hwait, hcut'⟩
    · exact ⟨r', arriving, await_of_delivered hpoll arriving ended, hafter⟩
    · -- the terminator is still to come, so there is something to read
      have ha : arriving ≠ [] := by
        rintro rfl
        exact hwait.searched (by simpa using terminator_mem_of_cut hcut')
      have hlt : (arriving.drop r'.room).length < n := by
        have := List.length_pos_iff.mpr ha
        simp only [List.length_drop, room]
        omega
      rw [await_of_hungry hpoll ha]
      refine ih _ hlt (ready_receive (by simpa using hwait.failed) _) ?_ rfl
      simpa [receive, List.append_assoc] using hcut'

theorem await_of_part (u : ChecksumUse) {r : Reader} {arriving : List UInt8} (h : r.Ready)
    (hnone : terminator ∉ r.buffer ++ arriving)
    (hlen : (dropPadding (r.buffer ++ arriving)).length ≤ maxSize) :
    ∃ r', await u r arriving false = (none, r', []) := by
  induction hn : arriving.length using Nat.strongRecOn generalizing r arriving with
  | ind n ih =>
    have hbuffer : terminator ∉ r.buffer := fun hm => hnone (List.mem_append_left arriving hm)
    have hshort := Nat.le_trans (length_dropPadding_le r.buffer arriving) hlen
    obtain ⟨r', hpoll, hwait, hsame⟩ := poll_of_part (u := u) h hbuffer hshort
    by_cases ha : arriving = []
    · subst ha
      exact ⟨r', await_of_hungry_nil hpoll⟩
    · have hlt : (arriving.drop r'.room).length < n := by
        have := List.length_pos_iff.mpr ha
        simp only [List.length_drop, room]
        omega
      have htaken : (r'.makeRoom.receive (arriving.take r'.room)).buffer ++ arriving.drop r'.room =
          r'.buffer ++ arriving := by
        simp [receive, List.append_assoc]
      rw [await_of_hungry hpoll ha]
      refine ih _ hlt (ready_receive (by simpa using hwait.failed) _) ?_ ?_ rfl
      · rw [htaken, List.mem_append, not_or]
        exact ⟨hwait.searched, fun hm => hnone (List.mem_append_right r.buffer hm)⟩
      · rwa [htaken, hsame]

inductive Polled (u : ChecksumUse) (r : Reader) : Poll → Prop
  | afterFailure (hfailed : r.failed = true) :
      Polled u r (.delivered .closed { r with failed := false, fresh := false })
  | searched (hfailed : r.failed = false) (hfresh : r.fresh = false) : Polled u r (.hungry r)
  | reply (hfailed : r.failed = false) {reply : Reply} {rest : List UInt8}
      (hdecode : decode u r.buffer = (.reply reply, rest)) :
      Polled u r (.delivered (.reply reply (unverified u r.buffer)) (r.keep rest))
  | unterminated {rest : List UInt8} (hdecode : decode u r.buffer = (.unterminated, rest)) :
      Polled u r (.delivered .unterminated { r.keep rest with failed := true })
  | mismatch {expected actual : UInt16} {rest : List UInt8}
      (hdecode : decode u r.buffer = (.mismatch expected actual, rest)) :
      Polled u r (.delivered (.mismatch expected actual) { r.keep rest with failed := true })
  | pending (hfailed : r.failed = false) (hended : r.ended = false) {rest : List UInt8}
      (hdecode : decode u r.buffer = (.pending, rest)) :
      Polled u r (.hungry { r.keep rest with fresh := false })
  | drained (hfailed : r.failed = false) (hended : r.ended = true)
      (hdecode : decode u r.buffer = (.pending, [])) :
      Polled u r (.delivered .closed { r.keep [] with fresh := false })
  | incomplete (hended : r.ended = true) {rest : List UInt8} (hrest : rest ≠ [])
      (hdecode : decode u r.buffer = (.pending, rest)) :
      Polled u r (.delivered .incomplete { r.keep rest with failed := true })

theorem polled (u : ChecksumUse) (r : Reader) : Polled u r (poll u r) := by
  unfold poll
  split
  · next hfailed => exact .afterFailure hfailed
  · next hfailed =>
    have hfailed := Bool.eq_false_iff.mpr hfailed
    split
    · next hfresh => exact .searched hfailed (by simpa using hfresh)
    · rcases hdecode : decode u r.buffer with ⟨outcome, rest⟩
      cases outcome with
      | reply reply => exact .reply hfailed hdecode
      | unterminated => exact .unterminated hdecode
      | mismatch expected actual => exact .mismatch hdecode
      | pending =>
        cases hended : r.ended with
        | false => exact .pending hfailed hended hdecode
        | true =>
          cases rest with
          | nil => exact .drained hfailed hended hdecode
          | cons b rest => exact .incomplete hended (List.cons_ne_nil b rest) hdecode

theorem of_poll_hungry {u : ChecksumUse} {r r' : Reader} (h : poll u r = .hungry r') :
    r'.failed = false ∧ r'.fresh = false := by
  have hp := polled u r
  rw [h] at hp
  cases hp with
  | searched hfailed hfresh => exact ⟨hfailed, hfresh⟩
  | pending hfailed => exact ⟨hfailed, rfl⟩

theorem failed_of_poll {u : ChecksumUse} {r r' : Reader} {d : Delivery}
    (h : poll u r = .delivered d r') (hd : d.IsBad) : r'.failed = true := by
  have hp := polled u r
  rw [h] at hp
  cases hp with
  | unterminated | mismatch | incomplete => rfl
  | afterFailure | reply | drained => cases hd

theorem failed_of_finish {u : ChecksumUse} {r r' : Reader} {d : Delivery}
    (h : finish u r = (d, r')) (hd : d.IsBad) : r'.failed = true := by
  unfold finish at h
  split at h
  · obtain ⟨rfl, rfl⟩ := Prod.mk.inj h
    cases hd
  · split at h
    · next hpoll =>
      obtain ⟨rfl, rfl⟩ := Prod.mk.inj h
      exact failed_of_poll hpoll hd
    · obtain ⟨rfl, rfl⟩ := Prod.mk.inj h
      cases hd

/-- A reader that has delivered a bad frame has failed. -/
theorem failed_of_await {u : ChecksumUse} {r r' : Reader} {arriving left : List UInt8}
    {ended : Bool} {d : Delivery} (h : await u r arriving ended = (some d, r', left))
    (hd : d.IsBad) : r'.failed = true := by
  induction r, arriving using await.induct u ended with
  | case1 r arriving d' r₁ hpoll =>
    rw [await_of_delivered hpoll] at h
    simp only [Prod.mk.injEq, Option.some.injEq] at h
    obtain ⟨rfl, rfl, -⟩ := h
    exact failed_of_poll hpoll hd
  | case2 r r₁ hpoll hended d' r₂ hfinish =>
    rw [hended, await_of_hungry_end hpoll, hfinish] at h
    simp only [Prod.mk.injEq, Option.some.injEq] at h
    obtain ⟨rfl, rfl, -⟩ := h
    exact failed_of_finish hfinish hd
  | case3 r r₁ hpoll hended =>
    rw [Bool.eq_false_iff.mpr hended, await_of_hungry_nil hpoll] at h
    simp at h
  | case4 r r₁ hpoll b rest room more ih =>
    rw [await, hpoll] at h
    exact ih h

/-- A reader that delivers nothing has used up what was coming, and more may come. -/
theorem of_await_none {u : ChecksumUse} {r r' : Reader} {arriving left : List UInt8}
    {ended : Bool} (h : await u r arriving ended = (none, r', left)) :
    ended = false ∧ left = [] ∧ r'.failed = false ∧ r'.fresh = false := by
  induction r, arriving using await.induct u ended with
  | case1 r arriving d r₁ hpoll =>
    rw [await_of_delivered hpoll] at h
    simp at h
  | case2 r r₁ hpoll hended d r₂ hfinish =>
    rw [hended, await_of_hungry_end hpoll] at h
    simp at h
  | case3 r r₁ hpoll hended =>
    have hfalse := Bool.eq_false_iff.mpr hended
    rw [hfalse, await_of_hungry_nil hpoll] at h
    simp only [Prod.mk.injEq, true_and] at h
    obtain ⟨rfl, rfl⟩ := h
    exact ⟨hfalse, rfl, of_poll_hungry hpoll⟩
  | case4 r r₁ hpoll b rest room more ih =>
    rw [await, hpoll] at h
    exact ih h

theorem await_of_fits (u : ChecksumUse) {r : Reader} {arriving frame rest : List UInt8}
    (h : r.Waiting) (hfits : arriving.length ≤ r.room)
    (hcut : cut (dropPadding (r.buffer ++ arriving)) = some (frame, rest)) (ended : Bool) :
    await u r arriving ended = (some (deliver u frame),
      { (r.makeRoom.receive arriving).keep rest with failed := !decide (Accepted u frame) }, []) := by
  have ha : arriving ≠ [] := by
    rintro rfl
    exact h.searched (by simpa using terminator_mem_of_cut hcut)
  have hready := ready_receive (r := r.makeRoom) (by simpa using h.failed) arriving
  have hpoll := poll_of_complete (u := u) (r := r.makeRoom.receive arriving) hready.failed rfl
    (by simpa [receive] using hcut)
  rw [await_of_hungry (h.poll u) ha, List.take_of_length_le hfits, List.drop_of_length_le hfits,
    await_of_delivered hpoll]

end Reader
/-- What becomes of the bytes `before` a reading, when the bytes `behind` are left. -/
inductive Taken (u : ChecksumUse) (before behind : List UInt8) (d : Option Delivery) : Prop
  | stretch {frame : List UInt8} (hcut : cut (dropPadding before) = some (frame, behind))
      (hd : d = some (deliver u frame))
  | padding (hkept : dropPadding behind = dropPadding before)
      (hd : ∀ reply unverified, d ≠ some (.reply reply unverified))

theorem dropPadding_append_congr {before behind : List UInt8}
    (h : dropPadding behind = dropPadding before) (more : List UInt8) :
    dropPadding (behind ++ more) = dropPadding (before ++ more) := by
  rw [← dropPadding_append_dropPadding, h, dropPadding_append_dropPadding]

theorem Taken.append {u : ChecksumUse} {before behind : List UInt8} {d : Option Delivery}
    (h : Taken u before behind d) (more : List UInt8) :
    Taken u (before ++ more) (behind ++ more) d := by
  cases h with
  | stretch hcut hd => exact .stretch (cut_dropPadding_append hcut more) hd
  | padding hkept hd => exact .padding (dropPadding_append_congr hkept more) hd

theorem Taken.of_dropPadding {u : ChecksumUse} {before searched behind : List UInt8}
    {d : Option Delivery} (h : Taken u searched behind d)
    (hsame : dropPadding searched = dropPadding before) : Taken u before behind d := by
  cases h with
  | stretch hcut hd => exact .stretch (by rwa [← hsame]) hd
  | padding hkept hd => exact .padding (hkept.trans hsame) hd

theorem of_decode {u : ChecksumUse} {buffer rest : List UInt8} {outcome : Outcome}
    (h : decode u buffer = (outcome, rest)) :
    (∃ frame, cut (dropPadding buffer) = some (frame, rest) ∧ outcome = judge u frame) ∨
      (rest = dropPadding buffer ∧ (outcome = .pending ∨ outcome = .unterminated)) := by
  cases hcut : cut (dropPadding buffer) with
  | none =>
    simp only [decode, hcut, Prod.mk.injEq] at h
    obtain ⟨rfl, rfl⟩ := h
    refine .inr ⟨rfl, ?_⟩
    split <;> simp
  | some p =>
    rw [decode_of_cut hcut, Prod.mk.injEq] at h
    obtain ⟨rfl, rfl⟩ := h
    exact .inl ⟨p.1, rfl, rfl⟩

theorem deliver_of_judge_reply {u : ChecksumUse} {frame : List UInt8} {reply : Reply}
    (h : judge u frame = .reply reply) :
    deliver u frame = .reply reply (if u.compares then none else (split u frame).2) := by
  by_cases ha : Accepted u frame
  · rw [judge_of_accepted ha, Outcome.reply.injEq] at h
    rw [deliver_of_accepted ha, h]
  · rw [judge_of_not_accepted ha] at h
    cases h

theorem deliver_of_judge_mismatch {u : ChecksumUse} {frame : List UInt8} {expected actual : UInt16}
    (h : judge u frame = .mismatch expected actual) :
    deliver u frame = .mismatch expected actual := by
  by_cases ha : Accepted u frame
  · rw [judge_of_accepted ha] at h
    cases h
  · rw [judge_of_not_accepted ha, Outcome.mismatch.injEq] at h
    rw [deliver, if_neg ha, h.1, h.2]

namespace Reader

theorem taken_of_poll {u : ChecksumUse} {r r' : Reader} {d : Delivery}
    (h : poll u r = .delivered d r') : Taken u r.buffer r'.buffer (some d) := by
  have hp := polled u r
  rw [h] at hp
  cases hp with
  | afterFailure => exact .padding rfl (by simp)
  | reply _ hdecode =>
    rcases of_decode hdecode with ⟨frame, hcut, hjudge⟩ | ⟨-, hnone⟩
    · exact .stretch hcut (by rw [deliver_of_judge_reply hjudge.symm, unverified_of_cut hcut])
    · simp at hnone
  | mismatch hdecode =>
    rcases of_decode hdecode with ⟨frame, hcut, hjudge⟩ | ⟨-, hnone⟩
    · exact .stretch hcut (by rw [deliver_of_judge_mismatch hjudge.symm])
    · simp at hnone
  | unterminated hdecode =>
    rcases of_decode hdecode with ⟨frame, -, hjudge⟩ | ⟨hrest, -⟩
    · exact absurd hjudge.symm (judge_ne_unterminated u frame)
    · exact .padding (by rw [keep, hrest, dropPadding_dropPadding]) (by simp)
  | drained _ _ hdecode | incomplete _ _ hdecode =>
    obtain ⟨-, hrest⟩ := of_decode_pending hdecode
    exact .padding (by rw [keep, hrest, dropPadding_dropPadding]) (by simp)

theorem dropPadding_of_poll {u : ChecksumUse} {r r' : Reader} (h : poll u r = .hungry r') :
    dropPadding r'.buffer = dropPadding r.buffer := by
  have hp := polled u r
  rw [h] at hp
  cases hp with
  | searched => rfl
  | pending _ _ hdecode => rw [keep, (of_decode_pending hdecode).2, dropPadding_dropPadding]

theorem taken_of_finish {u : ChecksumUse} {r r' : Reader} {d : Delivery}
    (h : finish u r = (d, r')) : Taken u r.buffer r'.buffer (some d) := by
  unfold finish at h
  split at h
  · obtain ⟨rfl, rfl⟩ := Prod.mk.inj h
    exact .padding rfl (by simp)
  · split at h
    · next hpoll =>
      obtain ⟨rfl, rfl⟩ := Prod.mk.inj h
      have htaken := taken_of_poll hpoll
      exact htaken
    · next hpoll =>
      obtain ⟨rfl, rfl⟩ := Prod.mk.inj h
      have hkept := dropPadding_of_poll hpoll
      exact .padding hkept (by simp)

/-- Whatever is at hand and on its way: a reply is what the next stretch of it comes to, and only
that stretch has gone. -/
theorem taken_of_await {u : ChecksumUse} {r r' : Reader} {arriving left : List UInt8}
    {ended : Bool} {d : Option Delivery} (h : await u r arriving ended = (d, r', left)) :
    Taken u (r.buffer ++ arriving) (r'.buffer ++ left) d := by
  induction r, arriving using await.induct u ended with
  | case1 r arriving d₁ r₁ hpoll =>
    rw [await_of_delivered hpoll] at h
    simp only [Prod.mk.injEq] at h
    obtain ⟨rfl, rfl, rfl⟩ := h
    exact (taken_of_poll hpoll).append arriving
  | case2 r r₁ hpoll hended d₁ r₂ hfinish =>
    rw [hended, await_of_hungry_end hpoll, hfinish] at h
    simp only [Prod.mk.injEq] at h
    obtain ⟨rfl, rfl, rfl⟩ := h
    simpa using (taken_of_finish hfinish).of_dropPadding (dropPadding_of_poll hpoll)
  | case3 r r₁ hpoll hended =>
    rw [Bool.eq_false_iff.mpr hended, await_of_hungry_nil hpoll] at h
    simp only [Prod.mk.injEq] at h
    obtain ⟨rfl, rfl, rfl⟩ := h
    exact .padding (by simpa using dropPadding_of_poll hpoll) (by simp)
  | case4 r r₁ hpoll b rest room more ih =>
    rw [await, hpoll] at h
    -- reading moves bytes from the stream behind the buffer
    have hread : (room.receive (b :: rest.take more)).buffer ++ rest.drop more =
        r₁.buffer ++ b :: rest := by
      simp [receive, room, List.append_assoc]
    have hsame := dropPadding_append_congr (dropPadding_of_poll hpoll) (b :: rest)
    exact (ih h).of_dropPadding (by rw [hread, hsame])

end Reader
end Frame

end HybridInverter
