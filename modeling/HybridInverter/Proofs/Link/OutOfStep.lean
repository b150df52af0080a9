import HybridInverter.Proofs.Link.Run

/-!
How a link gets out of step with its device. A reader that has failed reports the end of the stream
once without reading, so after a bad frame one reply stays in the pipe and answers the next command.
Nor does a command drop what is in the pipe, so a late reply answers the command after its own.
-/
namespace HybridInverter
namespace Link

open HybridInverter.Frame

/-- The outcome of a frame that was none: its checksum was wrong, or it had no end. -/
inductive BadFrame : Except Failure Reply → Prop
  | checksum (expected actual : UInt16) : BadFrame (.error { cause := .checksum expected actual })
  | reply (fault : ReplyFault) : BadFrame (.error (.reply fault))

theorem isBad_of_badFrame {timeout : Nat} {d : Option Delivery}
    (h : BadFrame (conclude timeout d)) : ∃ bad, d = some bad ∧ bad.IsBad := by
  cases d with
  | none => cases h
  | some d =>
    refine ⟨d, rfl, ?_⟩
    cases d with
    | reply r unverified => cases h
    | unterminated => exact .unterminated
    | mismatch expected actual => exact .mismatch expected actual
    | incomplete => cases h
    | closed => cases h

theorem eq_none_of_timeout {timeout n : Nat} {d : Option Delivery}
    (h : conclude timeout d = .error { cause := .timeout n }) : d = none := by
  cases d with
  | none => rfl
  | some d => cases d <;> simp [conclude, Failure.reply, Failure.link] at h

theorem outcome_of_gone {l : Link} {p : Pipe} (h : p.gone = true) (t : Turn) :
    (t.exchange l p).outcome = .error (.link .brokenPipe) :=
  (execute_of_gone (by simpa using h) l t.command t.timeout).1

theorem exists_await {l : Link} {p : Pipe} {t : Turn}
    (h : (t.exchange l p).outcome ≠ .error (.link .brokenPipe)) :
    p.gone = false ∧ ∃ d r left,
      l.reader.clear.await l.checksums (p.send t.sent).arriving p.ended = (d, r, left) ∧
      (t.exchange l p).outcome = conclude t.timeout d ∧
      (t.exchange l p).link = { l with reader := r } ∧
      (t.exchange l p).pipe = { p.send t.sent with arriving := left } := by
  have hgone : p.gone = false := by
    cases hg : p.gone
    · rfl
    · exact absurd (outcome_of_gone hg t) h
  refine ⟨hgone, _, _, _, rfl, ?_⟩
  exact execute_of_await (by simpa using hgone) (by rw [ended_send]) t.command t.timeout

theorem failed_of_badFrame {l : Link} {p : Pipe} {t : Turn} (h : BadFrame (t.exchange l p).outcome) :
    p.gone = false ∧ (t.exchange l p).link.reader.failed = true ∧
      (t.exchange l p).link.checksums = l.checksums ∧
      (t.exchange l p).pipe.gone = p.gone ∧ (t.exchange l p).pipe.ended = p.ended := by
  have hne : (t.exchange l p).outcome ≠ .error (.link .brokenPipe) := fun e => by
    rw [e] at h
    cases h
  obtain ⟨hgone, d, r, left, hawait, houtcome, hlink, hpipe⟩ := exists_await hne
  rw [houtcome] at h
  obtain ⟨bad, rfl, hbad⟩ := isBad_of_badFrame h
  refine ⟨hgone, ?_, ?_, ?_, ?_⟩
  · rw [hlink]
    exact Reader.failed_of_await hawait hbad
  · rw [hlink]
  · rw [hpipe]
    exact gone_send p t.sent
  · rw [hpipe]
    exact ended_send p t.sent

def reported (r : Reader) : Reader :=
  { r.clear with failed := false, fresh := false }

theorem waiting_reported (r : Reader) : (reported r).Waiting where
  failed := rfl
  fresh := rfl
  searched := by simp [reported, Reader.clear]

theorem room_reported (r : Reader) : (reported r).clear.room = r.clear.room := by
  by_cases h : r.storage = 0
  · simp [Reader.room, Reader.makeRoom, reported, Reader.clear, h]
  · simp [Reader.room, Reader.makeRoom, reported, Reader.clear, h]

/-- The command after a failure reads nothing. -/
theorem exchange_of_failed {l : Link} {p : Pipe} (hfailed : l.reader.failed = true)
    (hgone : p.gone = false) (t : Turn) :
    (t.exchange l p).outcome = .error (.link .closed) ∧
      (t.exchange l p).link = { l with reader := reported l.reader } ∧
      (t.exchange l p).pipe = p.send t.sent := by
  have hpoll : Reader.poll l.checksums l.reader.clear = .delivered .closed (reported l.reader) := by
    simp [Reader.poll, Reader.clear, hfailed, reported]
  exact execute_of_await (by simpa using hgone) (Reader.await_of_delivered hpoll _ _) t.command
    t.timeout

theorem exchange_of_fits {l : Link} {p : Pipe} {t : Turn} {frame rest : List UInt8}
    (hwait : l.reader.clear.Waiting) (hgone : p.gone = false) (hended : p.ended = false)
    (hcut : cut (dropPadding (p.arriving ++ t.sent)) = some (frame, rest))
    (hfits : (p.arriving ++ t.sent).length ≤ l.reader.clear.room) :
    (t.exchange l p).outcome = conclude t.timeout (some (deliver l.checksums frame)) ∧
      (t.exchange l p).link = { l with
        reader := { (l.reader.clear.makeRoom.receive (p.arriving ++ t.sent)).keep rest with
          failed := !decide (Accepted l.checksums frame) } } ∧
      (t.exchange l p).pipe = { p with arriving := [] } := by
  have harriving := arriving_send hended t.sent
  rw [← harriving] at hcut hfits
  have hawait := Reader.await_of_fits l.checksums hwait hfits hcut (p.send t.sent).ended
  obtain ⟨houtcome, hlink, hpipe⟩ :=
    execute_of_await (by simpa using hgone) hawait t.command t.timeout
  refine ⟨houtcome, ?_, ?_⟩
  · rw [Turn.exchange, hlink, harriving]
  · rw [Turn.exchange, hpipe]
    simp [Pipe.send, hended]

theorem inStep_of_fits {l : Link} {p : Pipe} {t : Turn} {frame rest : List UInt8}
    (hwait : l.reader.clear.Waiting) (hgone : p.gone = false) (hended : p.ended = false)
    (hcut : cut (dropPadding (p.arriving ++ t.sent)) = some (frame, rest))
    (hok : Accepted l.checksums frame)
    (hfits : (p.arriving ++ t.sent).length ≤ l.reader.clear.room) :
    InStep (t.exchange l p).link (t.exchange l p).pipe ∧
      (t.exchange l p).link.checksums = l.checksums := by
  obtain ⟨-, hlink, hpipe⟩ := exchange_of_fits hwait hgone hended hcut hfits
  rw [hlink, hpipe]
  refine ⟨?_, rfl⟩
  exact {
    failed := by simp [hok]
    reading := fun _ => rfl
    present := hgone
    sending := hended
    padding := ⟨0, rfl⟩ }

/-- A reply that has been left in the pipe answers the next command. -/
theorem exchange_of_left {l : Link} {p : Pipe} (hwait : l.reader.clear.Waiting)
    (hgone : p.gone = false) (hended : p.ended = false) {t₁ : Turn} {d : List UInt8}
    (hb : t₁.Brings l.checksums d) {n : Nat} (hleft : p.arriving = List.replicate n 0 ++ t₁.sent)
    (t : Turn) :
    (t.exchange l p).outcome = .ok (replyOf l.checksums d) ∧
      ((p.arriving ++ t.sent).length ≤ l.reader.clear.room →
        InStep (t.exchange l p).link (t.exchange l p).pipe ∧
          (t.exchange l p).link.checksums = l.checksums) := by
  obtain ⟨behind, hcut⟩ := hb.cut n
  have hcut := cut_dropPadding_append hcut t.sent
  rw [← hleft] at hcut
  constructor
  · obtain ⟨houtcome, -⟩ := exchange_of_cut hwait.ready hgone hended hcut hb.1.fits
    rw [houtcome, deliver_of_accepted (accepted_body _ d), content_body]
    rfl
  · exact inStep_of_fits hwait hgone hended hcut (accepted_body _ d)

/-- From a failed reader on, the first command finds the link closed and the second gets the reply to
the first. The others get their own if the second took both frames in one reading. -/
theorem outcomes_of_failed {l : Link} {p : Pipe} (hfailed : l.reader.failed = true)
    (hgone : p.gone = false) (hended : p.ended = false)
    (hpadding : ∃ n, p.arriving = List.replicate n 0) (t₁ t₂ : Turn) {turns : List Turn}
    {d₁ : List UInt8} {ds : List (List UInt8)} (h₁ : t₁.Brings l.checksums d₁)
    (hds : List.Forall₂ (Turn.Brings l.checksums) turns ds) :
    ∃ later, (run l p (t₁ :: t₂ :: turns)).map Exchange.outcome =
        .error (.link .closed) :: .ok (replyOf l.checksums d₁) :: later ∧
      ((p.arriving ++ t₁.sent ++ t₂.sent).length ≤ l.reader.clear.room →
        later = ds.map fun d => .ok (replyOf l.checksums d)) := by
  obtain ⟨n, hpadding⟩ := hpadding
  obtain ⟨houtcome₁, hlink₁, hpipe₁⟩ := exchange_of_failed hfailed hgone t₁
  -- what was sent for the first command is still in the pipe at the second
  have harriving : (p.send t₁.sent).arriving = p.arriving ++ t₁.sent := arriving_send hended _
  have hleft : (p.send t₁.sent).arriving = List.replicate n 0 ++ t₁.sent := by
    rw [harriving, hpadding]
  obtain ⟨houtcome₂, hstep⟩ := exchange_of_left (l := { l with reader := reported l.reader })
    (waiting_reported l.reader) (p := p.send t₁.sent) (by simpa using hgone) (by simpa using hended)
    h₁ hleft t₂
  rw [run, run, hlink₁, hpipe₁, List.map_cons, List.map_cons, houtcome₁, houtcome₂]
  refine ⟨_, rfl, ?_⟩
  intro hfits
  rw [← harriving, ← room_reported] at hfits
  obtain ⟨hin, hsame⟩ := hstep hfits
  have hds : List.Forall₂ (Turn.Brings (t₂.exchange { l with reader := reported l.reader }
      (p.send t₁.sent)).link.checksums) turns ds := by rwa [hsame]
  rw [outcomes_of_inStep hin hds, hsame]

/-- After a bad frame one reply is missing and one is late. The next command finds the link closed,
whatever has been sent for it; the one after that gets the reply to the command before it; and the
rest get their own, if the reader had room for the two frames that came at once. -/
theorem replies_late_after_bad_frame {l : Link} {p : Pipe} {t : Turn} (hopen : p.ended = false)
    (hbad : BadFrame (t.exchange l p).outcome) :
    let u := l.checksums
    let x := t.exchange l p
    (∀ t₁ : Turn, (t₁.exchange x.link x.pipe).outcome = .error (.link .closed)) ∧
    ∀ (t₁ t₂ : Turn) {turns : List Turn} {d₁ : List UInt8} {ds : List (List UInt8)},
      (∃ n, x.pipe.arriving = List.replicate n 0) → t₁.Brings u d₁ →
      List.Forall₂ (Turn.Brings u) turns ds →
      ∃ later, (run x.link x.pipe (t₁ :: t₂ :: turns)).map Exchange.outcome =
          .error (.link .closed) :: .ok (replyOf u d₁) :: later ∧
        ((x.pipe.arriving ++ t₁.sent ++ t₂.sent).length ≤ x.link.reader.clear.room →
          later = ds.map fun d => .ok (replyOf u d)) := by
  intro u x
  obtain ⟨hpresent, hfailed, hu, hgone, hended⟩ := failed_of_badFrame hbad
  rw [hpresent] at hgone
  rw [hopen] at hended
  refine ⟨fun t₁ => (exchange_of_failed hfailed hgone t₁).1, ?_⟩
  intro t₁ t₂ turns d₁ ds hpadding h₁ hds
  have hx : x.link.checksums = u := hu
  rw [← hx] at h₁ hds ⊢
  exact outcomes_of_failed hfailed hgone hended hpadding t₁ t₂ h₁ hds

theorem replies_late_after_bad_checksum :
    let bad : Turn := { sent := [0x5E, 0x44, 0x30, 0x30, 0x35, 0x31, 0x38, 0x01, 0x02, 0x0D] }
    let first : Turn := { sent := [0x5E, 0x44, 0x30, 0x30, 0x35, 0x31, 0x38, 0x3B, 0x03, 0x0D] }
    let second : Turn := { sent := [0x5E, 0x31, 0x0B, 0xC2, 0x0D] }
    let x := bad.exchange {} {}
    ({} : Pipe).ended = false ∧ BadFrame x.outcome ∧
      (run x.link x.pipe [first, second, second]).map Exchange.outcome =
        [.error (.link .closed), .ok ⟨[0x5E, 0x44, 0x30, 0x30, 0x35, 0x31, 0x38], 10⟩,
          .ok ⟨[0x5E, 0x31], 5⟩] := by
  intro bad first second x
  have hcut : cut (dropPadding (({} : Pipe).arriving ++ bad.sent)) = some (bad.sent.take 9, []) :=
    by decide
  obtain ⟨houtcome, hlink, hpipe⟩ := exchange_of_fits (l := {}) (p := {}) (t := bad)
    ⟨rfl, rfl, by decide⟩ rfl rfl hcut (by decide)
  have hnot : ¬ Accepted {} (bad.sent.take 9) := by decide +kernel
  have hbad : BadFrame x.outcome := by
    rw [houtcome, deliver, if_neg hnot]
    exact .checksum _ _
  have h₁ : first.Brings {} [0x5E, 0x44, 0x30, 0x30, 0x35, 0x31, 0x38] :=
    ⟨⟨by decide, by decide, by decide, by decide⟩, 0, 0, by decide +kernel⟩
  have h₂ : second.Brings {} [0x5E, 0x31] :=
    ⟨⟨by decide, by decide, by decide, by decide⟩, 0, 0, by decide +kernel⟩
  obtain ⟨later, hrun, hlater⟩ := (replies_late_after_bad_frame (l := {}) rfl hbad).2
    first second ⟨0, congrArg Pipe.arriving hpipe⟩ h₁ (.cons h₂ .nil)
  refine ⟨rfl, hbad, ?_⟩
  rw [hrun, hlater]
  · rfl
  · rw [hlink, hpipe]
    decide

/-- A command whose reply has come in part is still waiting for the rest. -/
theorem timeout_of_part {l : Link} {p : Pipe} {t : Turn} (h : InStep l p) {d : List UInt8}
    (hd : WellFormed l.checksums d) {k n : Nat}
    (hsent : t.sent = List.replicate n 0 ++ (body l.checksums d).take k) :
    (t.exchange l p).outcome = .error { cause := .timeout t.timeout } := by
  obtain ⟨m, hpadding⟩ := h.padding
  have harriving : (p.send t.sent).arriving =
      List.replicate (m + n) 0 ++ (body l.checksums d).take k := by
    rw [arriving_send h.sending, hpadding, hsent, ← List.append_assoc,
      List.replicate_append_replicate]
  have hnone : terminator ∉ l.reader.clear.buffer ++ (p.send t.sent).arriving := by
    have hzero : terminator ≠ 0 := by decide
    have htake : terminator ∉ (body l.checksums d).take k := fun hm =>
      hd.terminator_not_mem (List.mem_of_mem_take hm)
    simp [Reader.clear, harriving, hzero, htake]
  have hlen : (dropPadding (l.reader.clear.buffer ++ (p.send t.sent).arriving)).length ≤ maxSize := by
    simp only [Reader.clear, List.nil_append, harriving, dropPadding_replicate_append]
    exact hd.length_dropPadding_take_le k
  obtain ⟨r, hawait⟩ := Reader.await_of_part l.checksums (ready_clear h.failed h.reading) hnone hlen
  rw [← h.sending, ← ended_send p t.sent] at hawait
  exact (execute_of_await (by simpa using h.present) hawait t.command t.timeout).1

/-- Whatever a command that has timed out leaves, the next one takes the first frame to come. -/
theorem outcome_after_timeout {l : Link} {p : Pipe} {t : Turn} {n : Nat}
    (hlate : (t.exchange l p).outcome = .error { cause := .timeout n }) {t' : Turn}
    {frame rest : List UInt8} (hcut : cut (dropPadding t'.sent) = some (frame, rest))
    (hlen : frame.length ≤ maxSize) :
    (t'.exchange (t.exchange l p).link (t.exchange l p).pipe).outcome =
      conclude t'.timeout (some (deliver l.checksums frame)) := by
  have hne : (t.exchange l p).outcome ≠ .error (.link .brokenPipe) := fun e => by
    rw [e] at hlate
    simp [Failure.link] at hlate
  obtain ⟨hgone, d, r, left, hawait, houtcome, hlink, hpipe⟩ := exists_await hne
  rw [houtcome] at hlate
  rw [eq_none_of_timeout hlate] at hawait
  obtain ⟨hended, rfl, hfailed, hfresh⟩ := Reader.of_await_none hawait
  have hready : ({ l with reader := r } : Link).reader.clear.Ready :=
    ready_clear hfailed fun hf => by simp [hfresh] at hf
  rw [hlink, hpipe]
  exact (exchange_of_cut hready (by simpa using hgone) (by simpa using hended)
    (by simpa using hcut) hlen).1

/-- What comes after a command has timed out answers the next command: a reply that comes whole is
returned as it is, and so is the rest of one of which `k` bytes had come before, unless a checksum
is compared with the end of that rest and does not fit. What stands behind is not looked at, be it
the reply to the next command. -/
theorem late_reply_answers_next {l : Link} {p : Pipe} {t : Turn} {n : Nat}
    (hlate : (t.exchange l p).outcome = .error { cause := .timeout n }) {d : List UInt8}
    (hd : WellFormed l.checksums d) {k : Nat} (hk : k ≤ (body l.checksums d).length) {t' : Turn}
    {behind : List UInt8}
    (hsent : t'.sent = (body l.checksums d ++ [terminator]).drop k ++ behind) :
    let u := l.checksums
    let x := t.exchange l p
    let rest := dropPadding ((body u d).drop k)
    (t'.exchange x.link x.pipe).outcome =
        (if Accepted u rest then .ok ⟨content u rest, rest.length + 1⟩
        else
          let expected := Checksum.of (content u rest)
          let actual := Checksum.ofBytes (rest.drop (rest.length - 2))
          .error { cause := .checksum expected actual }) ∧
      content u rest <:+: body u d ∧
      (k = 0 → (t'.exchange x.link x.pipe).outcome = .ok (replyOf u d)) := by
  intro u x rest
  have hsuffix : rest <:+ body u d :=
    (List.dropWhile_suffix _).trans (List.drop_suffix k (body u d))
  have hcut : cut (dropPadding t'.sent) = some (rest, behind) := by
    have hnone : terminator ∉ (body u d).drop k := fun hm =>
      hd.terminator_not_mem (List.mem_of_mem_drop hm)
    rw [hsent, List.drop_append_of_le_length hk, List.append_assoc, List.singleton_append]
    exact cut_dropPadding_append_terminator hnone behind
  have hlen : rest.length ≤ maxSize := Nat.le_trans hsuffix.length_le hd.fits
  have houtcome := outcome_after_timeout hlate hcut hlen
  refine ⟨?_, ?_, ?_⟩
  · rw [houtcome, deliver]
    by_cases hok : Accepted u rest
    · rw [if_pos hok, if_pos hok]
      rfl
    · rw [if_neg hok, if_neg hok]
      rfl
  · exact (content_prefix_frame u rest).isInfix.trans hsuffix.isInfix
  · rintro rfl
    have hwhole : rest = body u d := dropPadding_of_head?_ne hd.head?_body
    rw [houtcome, hwhole, deliver_of_accepted (accepted_body u d), content_body]
    rfl

theorem late_reply_answers_next_protocolId :
    let d : List UInt8 := [0x5E, 0x44, 0x30, 0x30, 0x35, 0x31, 0x38]
    let silent : Turn := { sent := [] }
    let next : Turn :=
      { sent := [0x5E, 0x44, 0x30, 0x30, 0x35, 0x31, 0x38, 0x3B, 0x03, 0x0D] ++
          [0x5E, 0x31, 0x0B, 0xC2, 0x0D] }
    let x := silent.exchange {} {}
    x.outcome = .error { cause := .timeout 1000 } ∧ WellFormed {} d ∧ 0 ≤ (body {} d).length ∧
      next.sent = (body {} d ++ [terminator]).drop 0 ++ [0x5E, 0x31, 0x0B, 0xC2, 0x0D] ∧
      (next.exchange x.link x.pipe).outcome = .ok ⟨d, 10⟩ := by
  intro d silent next x
  have hd : WellFormed {} d := ⟨by decide, by decide, by decide, by decide⟩
  have hsent : next.sent = (body {} d ++ [terminator]).drop 0 ++ [0x5E, 0x31, 0x0B, 0xC2, 0x0D] := by
    decide +kernel
  have hlate : x.outcome = .error { cause := .timeout 1000 } :=
    timeout_of_part (inStep_new {} none) hd (k := 0) (n := 0) rfl
  have hnext := late_reply_answers_next (l := {}) hlate hd (Nat.zero_le _) hsent
  exact ⟨hlate, hd, Nat.zero_le _, hsent, hnext.2.2 rfl⟩

end Link
end HybridInverter
