import HybridInverter.Link.Pipe
import HybridInverter.Proofs.Frame.Reader
import Mathlib.Data.List.Forall2

/-!
Runs of a link. At each turn the device has put bytes into the pipe, and a command is executed. A
link that is in step, with nothing but padding on its way, gets at every turn the reply that the
turn brings, and is in step again afterwards, however long the run. Whatever the reader was left with,
an exchange fetches one stretch of the bytes in the pipe, or nothing but padding and then no reply.
-/
namespace HybridInverter

namespace Link

open HybridInverter.Frame

/-- A command, and what the device has sent when its reply is waited for. -/
structure Turn where
  sent : List UInt8
  command : List UInt8 := []
  timeout : Nat := 1000

def Turn.exchange (t : Turn) (l : Link) (p : Pipe) : Exchange :=
  l.execute (p.send t.sent) t.command t.timeout

def run (l : Link) (p : Pipe) : List Turn → List Exchange
  | [] => []
  | t :: rest => t.exchange l p :: run (t.exchange l p).link (t.exchange l p).pipe rest

def Turn.Brings (u : ChecksumUse) (t : Turn) (d : List UInt8) : Prop :=
  WellFormed u d ∧ ∃ before behind,
    t.sent = List.replicate before 0 ++ body u d ++ terminator :: List.replicate behind 0

theorem Turn.Brings.cut {u : ChecksumUse} {t : Turn} {d : List UInt8} (h : t.Brings u d)
    (n : Nat) : ∃ behind, cut (dropPadding (List.replicate n 0 ++ t.sent)) =
      some (body u d, List.replicate behind 0) := by
  obtain ⟨hwell, before, behind, hsent⟩ := h
  refine ⟨behind, ?_⟩
  rw [hsent, ← List.append_assoc, ← List.append_assoc, List.replicate_append_replicate]
  exact hwell.cut (n + before) _

/-- Nothing stands between the next command and its own reply: the reader has no failure left to
report, the device is there, and only padding is on its way. -/
structure InStep (l : Link) (p : Pipe) : Prop where
  failed : l.reader.failed = false
  reading : l.reader.fresh = true → l.reader.ended = false
  present : p.gone = false
  sending : p.ended = false
  padding : ∃ n, p.arriving = List.replicate n 0

theorem inStep_of_fresh {l : Link} (h : l.reader = {}) : InStep l {} where
  failed := by rw [h]
  reading _ := by rw [h]
  present := rfl
  sending := rfl
  padding := ⟨0, rfl⟩

theorem inStep_new (u : ChecksumUse) (size : Option Nat) :
    InStep { checksums := u, reportSize := size } {} :=
  inStep_of_fresh rfl

theorem arriving_send {p : Pipe} (h : p.ended = false) (bytes : List UInt8) :
    (p.send bytes).arriving = p.arriving ++ bytes := by
  simp [Pipe.send, h]

@[simp] theorem ended_send (p : Pipe) (bytes : List UInt8) : (p.send bytes).ended = p.ended := by
  unfold Pipe.send; split <;> rfl

@[simp] theorem gone_send (p : Pipe) (bytes : List UInt8) : (p.send bytes).gone = p.gone := by
  unfold Pipe.send; split <;> rfl

theorem execute_of_await {l : Link} {p : Pipe} (hgone : p.gone = false) {d : Option Delivery}
    {r : Reader} {left : List UInt8}
    (h : l.reader.clear.await l.checksums p.arriving p.ended = (d, r, left))
    (command : List UInt8) (timeout : Nat) :
    (l.execute p command timeout).outcome = conclude timeout d ∧
      (l.execute p command timeout).link = { l with reader := r } ∧
      (l.execute p command timeout).pipe = { p with arriving := left } := by
  have hl : (l.clear.listen p.arriving p.ended timeout).outcome = conclude timeout d ∧
      (l.clear.listen p.arriving p.ended timeout).link = { l with reader := r } ∧
      (l.clear.listen p.arriving p.ended timeout).left = left := by
    simp [listen, clear, h]
  simp [execute, hgone, hl]

theorem execute_of_gone {p : Pipe} (hgone : p.gone = true) (l : Link) (command : List UInt8)
    (timeout : Nat) :
    (l.execute p command timeout).outcome = .error (.link .brokenPipe) ∧
      (l.execute p command timeout).link = l.clear ∧ (l.execute p command timeout).pipe = p := by
  simp [execute, hgone]

theorem ready_clear {r : Reader} (hfailed : r.failed = false)
    (hended : r.fresh = true → r.ended = false) : r.clear.Ready where
  failed := hfailed
  ended := hended
  searched _ := by simp [Reader.clear]

/-- The next frame on its way decides what a command comes to, and what stands behind it is still on
its way or forgotten at the next command. -/
theorem exchange_of_cut {l : Link} {p : Pipe} {t : Turn} {frame rest : List UInt8}
    (hready : l.reader.clear.Ready) (hgone : p.gone = false) (hended : p.ended = false)
    (hcut : cut (dropPadding (p.arriving ++ t.sent)) = some (frame, rest))
    (hlen : frame.length ≤ maxSize) :
    (t.exchange l p).outcome = conclude t.timeout (some (deliver l.checksums frame)) ∧
      ∃ r left, (t.exchange l p).link = { l with reader := r } ∧
        (t.exchange l p).pipe = { p with arriving := left } ∧
        r.buffer ++ left = rest ∧ r.failed = !decide (Accepted l.checksums frame) ∧
        r.ended = false := by
  have harriving := arriving_send hended t.sent
  rw [← harriving] at hcut
  obtain ⟨r, left, hawait, hafter⟩ :=
    Reader.await_of_cut l.checksums hready hcut hlen (p.send t.sent).ended
  obtain ⟨houtcome, hlink, hpipe⟩ :=
    execute_of_await (by simpa using hgone) hawait t.command t.timeout
  refine ⟨houtcome, r, left, hlink, ?_, hafter⟩
  rw [Turn.exchange, hpipe]
  simp [Pipe.send, hended]

theorem exchange_of_brings {l : Link} {p : Pipe} {t : Turn} {d : List UInt8} (h : InStep l p)
    (hb : t.Brings l.checksums d) :
    (t.exchange l p).outcome = .ok (replyOf l.checksums d) ∧
      InStep (t.exchange l p).link (t.exchange l p).pipe ∧
      (t.exchange l p).link.checksums = l.checksums := by
  obtain ⟨n, hpadding⟩ := h.padding
  obtain ⟨behind, hcut⟩ := hb.cut n
  rw [← hpadding] at hcut
  obtain ⟨houtcome, r, left, hlink, hpipe, hrest, hfailed, hended⟩ :=
    exchange_of_cut (ready_clear h.failed h.reading) h.present h.sending hcut hb.1.fits
  refine ⟨?_, ?_, ?_⟩
  · rw [houtcome, deliver_of_accepted (accepted_body _ d), content_body]
    rfl
  · rw [hlink, hpipe]
    exact {
      failed := by simpa using hfailed
      reading := fun _ => hended
      present := h.present
      sending := h.sending
      padding := ⟨left.length, List.eq_replicate_iff.mpr ⟨rfl, fun b hb =>
        List.eq_of_mem_replicate (hrest ▸ List.mem_append_right r.buffer hb)⟩⟩ }
  · rw [hlink]

/-- A link in step stays in step: every command of a run gets its own reply. -/
theorem outcomes_of_inStep {l : Link} {p : Pipe} (h : InStep l p) {turns : List Turn}
    {ds : List (List UInt8)} (hb : List.Forall₂ (Turn.Brings l.checksums) turns ds) :
    (run l p turns).map Exchange.outcome = ds.map fun d => .ok (replyOf l.checksums d) := by
  generalize hu : l.checksums = u at hb
  induction hb generalizing l p with
  | nil => rfl
  | cons hd hrest ih =>
    obtain ⟨houtcome, hstep, hsame⟩ := exchange_of_brings h (hu ▸ hd)
    rw [run, List.map_cons, List.map_cons, houtcome, ih hstep (hsame.trans hu), hu]

open HybridInverter.Frame

/-- What an exchange of a link makes of the bytes that were in the pipe. -/
inductive Fetched (l : Link) (p : Pipe) (timeout : Nat) (x : Exchange) : Prop
  | stretch {frame : List UInt8}
      (hcut : cut (dropPadding p.arriving) = some (frame, x.link.reader.buffer ++ x.pipe.arriving))
      (houtcome : x.outcome = conclude timeout (some (deliver l.checksums frame)))
  | padding
      (hkept : dropPadding (x.link.reader.buffer ++ x.pipe.arriving) = dropPadding p.arriving)
      (hnone : ∀ reply, x.outcome ≠ .ok reply)

theorem conclude_ne_ok {d : Option Delivery}
    (h : ∀ reply unverified, d ≠ some (.reply reply unverified)) (timeout : Nat) (reply : Reply) :
    conclude timeout d ≠ .ok reply := by
  match d with
  | some (.reply r unverified) => exact absurd rfl (h r unverified)
  | some .unterminated | some (.mismatch ..) | some .incomplete | some .closed | none =>
    simp [conclude]

theorem ne_refused_of_conclude {timeout : Nat} {d : Option Delivery} {e : Failure}
    (h : conclude timeout d = .error e) : e.cause ≠ .refused := by
  match d with
  | some (.reply r unverified) => cases h
  | some .unterminated | some (.mismatch ..) | some .incomplete | some .closed | none =>
    obtain rfl := Except.error.inj h
    simp [Failure.reply, Failure.link]

theorem fetched (l : Link) (p : Pipe) (command : List UInt8) (timeout : Nat) :
    Fetched l p timeout (l.execute p command timeout) := by
  cases hgone : p.gone with
  | true =>
    obtain ⟨houtcome, hlink, hpipe⟩ := execute_of_gone hgone l command timeout
    exact .padding (by rw [hlink, hpipe]; rfl) (by simp [houtcome])
  | false =>
    cases hawait : l.reader.clear.await l.checksums p.arriving p.ended with
    | mk d after =>
      obtain ⟨houtcome, hlink, hpipe⟩ := execute_of_await hgone hawait command timeout
      cases Reader.taken_of_await hawait with
      | stretch hcut hd => exact .stretch (by rw [hlink, hpipe]; exact hcut) (by rw [houtcome, hd])
      | padding hkept hd =>
        refine .padding (by rw [hlink, hpipe]; exact hkept) fun reply => ?_
        rw [houtcome]
        exact conclude_ne_ok hd timeout reply

theorem ne_refused_of_execute {l : Link} {p : Pipe} {command : List UInt8} {timeout : Nat}
    {e : Failure} (h : (l.execute p command timeout).outcome = .error e) : e.cause ≠ .refused := by
  cases hgone : p.gone with
  | true =>
    rw [(execute_of_gone hgone l command timeout).1] at h
    obtain rfl := Except.error.inj h
    simp [Failure.link]
  | false =>
    rw [(execute_of_await hgone rfl command timeout).1] at h
    exact ne_refused_of_conclude h

theorem Fetched.outcome_of_cut {l : Link} {p : Pipe} {timeout : Nat} {x : Exchange}
    (h : Fetched l p timeout x) {frame : List UInt8}
    (hcut : cut (dropPadding p.arriving) =
      some (frame, x.link.reader.buffer ++ x.pipe.arriving)) :
    x.outcome = conclude timeout (some (deliver l.checksums frame)) := by
  cases h with
  | stretch hcut' houtcome =>
    rw [hcut', Option.some.injEq, Prod.mk.injEq] at hcut
    rw [houtcome, hcut.1]
  | padding hkept =>
    -- what is left would have to be longer than itself
    have hlen := length_dropPadding_le_length (x.link.reader.buffer ++ x.pipe.arriving)
    rw [hkept, (cut_eq_some_iff.mp hcut).1, List.length_append, List.length_cons] at hlen
    omega

/-- A reply of two bytes or more stood in front of its right checksum. -/
theorem Fetched.cut_of_reply {l : Link} (hu : l.checksums.compares) {p : Pipe} {timeout : Nat}
    {x : Exchange} (h : Fetched l p timeout x) {reply : Reply} (houtcome : x.outcome = .ok reply)
    (hlen : 2 ≤ reply.data.length) :
    cut (dropPadding p.arriving) =
        some (reply.data ++ Checksum.toBytes (Checksum.of reply.data),
          x.link.reader.buffer ++ x.pipe.arriving) ∧
      2 ≤ reply.received := by
  cases h with
  | padding _ hnone => exact absurd houtcome (hnone reply)
  | @stretch frame hcut hdelivered =>
    rw [hdelivered] at houtcome
    by_cases ha : Accepted l.checksums frame
    · rw [deliver_of_accepted ha] at houtcome
      obtain rfl := Except.ok.inj houtcome
      have hframe : 2 ≤ frame.length :=
        Nat.le_trans hlen (content_prefix_frame l.checksums frame).length_le
      rw [content_append_toBytes_of_accepted hu ha hframe]
      exact ⟨hcut, by simp only; omega⟩
    · rw [deliver, if_neg ha] at houtcome
      cases houtcome

end Link

end HybridInverter
