import HybridInverter.Proofs.Frame.Decode
import HybridInverter.Proofs.Request.Unambiguous

/-!
One request, one frame. What is built from checked arguments is visible text, so that nothing in it
ends a frame, and no checksum does. Only a raw command is sent with whatever it holds: each carriage
return in it ends a frame of its own.
-/
namespace HybridInverter

/-- No blank and no control character. -/
def Visible (text : List Char) : Prop :=
  ∀ c ∈ text, ' '.toNat < c.toNat

instance (text : List Char) : Decidable (Visible text) :=
  List.decidableBAll _ text

namespace Visible

theorem nil : Visible [] := fun _ h => absurd h List.not_mem_nil

theorem append {a b : List Char} (ha : Visible a) (hb : Visible b) : Visible (a ++ b) :=
  fun c hc => (List.mem_append.mp hc).elim (ha c) (hb c)

theorem cons {c : Char} {text : List Char} (hc : ' '.toNat < c.toNat) (h : Visible text) :
    Visible (c :: text) :=
  List.forall_mem_cons.mpr ⟨hc, h⟩

theorem intercalate {mark : List Char} (hmark : Visible mark) {texts : List (List Char)}
    (h : ∀ t ∈ texts, Visible t) : Visible (mark.intercalate texts) := by
  induction texts with
  | nil => exact nil
  | cons t texts ih =>
    obtain ⟨ht, htexts⟩ := List.forall_mem_cons.mp h
    cases texts with
    | nil => rwa [List.intercalate_singleton]
    | cons t' texts =>
      rw [List.intercalate_cons_cons]
      exact (ht.append hmark).append (ih htexts)

theorem not_mem {text : List Char} (h : Visible text) : '\r' ∉ text :=
  fun hmem => absurd (h '\r' hmem) (by decide)

theorem of_matches {f : Form} {text : List Char} (h : f.Matches text)
    (hf : ∀ r ∈ f, ' '.toNat < r.low.toNat) : Visible text := by
  induction h with
  | nil => exact nil
  | cons hc _ ih =>
    obtain ⟨hr, hf⟩ := List.forall_mem_cons.mp hf
    exact cons (Nat.lt_of_lt_of_le hr hc.1) (ih hf)

theorem padded (width : Nat) (n : Int) : Visible (Numeral.padded width n) := by
  intro c hc
  rcases Numeral.mem_padded hc with rfl | hdigit
  · decide
  · exact Nat.lt_of_lt_of_le (by decide) (Numeral.toNat_of_isDigit hdigit).1

end Visible

namespace Encoding

theorem visible_of_tenths {width : Nat} {arg state text : String}
    (h : encode (.tenths width) arg state = .ok text) : Visible text.toList := by
  rw [encode] at h
  cases hread : readTenths arg with
  | error fault =>
    rw [hread] at h
    cases h
  | ok n =>
    rw [hread] at h
    obtain rfl := Except.ok.inj h
    rw [Numeral.field, String.toList_ofList]
    exact .padded width n

/-- What keeps a part visible: the form it has, or that it is a decimal. -/
def Shows (e : Encoding) : Option Form → Prop
  | some f => ∀ r ∈ f, ' '.toNat < r.low.toNat
  | none => e = .tenths 3

instance (e : Encoding) : (p : Option Form) → Decidable (e.Shows p)
  | some f => inferInstanceAs (Decidable (∀ r ∈ f, _))
  | none => inferInstanceAs (Decidable (e = _))

theorem Shows.visible_of_isPart {e : Encoding} {p : Option Form} (h : e.Shows p) {text : String}
    (hpart : IsPart p text) (hdecimal : e = .tenths 3 → Visible text.toList) :
    Visible text.toList := by
  cases p with
  | none => exact hdecimal h
  | some f => exact .of_matches (hpart.has_form f rfl) h

theorem Spelled.visible {es : List Encoding} {args texts : List String}
    (hspelled : Spelled es args texts) {ps : List (Option Form)}
    (hparts : List.Forall₂ IsPart ps texts) (hshows : List.Forall₂ Shows es ps) :
    ∀ t ∈ texts, Visible t.toList := by
  induction hspelled generalizing ps with
  | nil => exact fun _ h => absurd h List.not_mem_nil
  | @cons e arg text es args texts harity hfirst _ ih =>
    cases hparts with
    | cons hpart hparts =>
      cases hshows with
      | cons hshow hshows =>
        refine List.forall_mem_cons.mpr ⟨hshow.visible_of_isPart hpart ?_, ih hparts hshows⟩
        rintro rfl
        exact visible_of_tenths (hfirst "")
  | toggle _ ih =>
    cases hparts with
    | cons hpart hparts =>
      cases hshows with
      | cons hshow hshows =>
        refine List.forall_mem_cons.mpr ⟨hshow.visible_of_isPart hpart ?_, ih hparts hshows⟩
        intro h
        cases h

end Encoding

namespace Command

theorem shows_parts (c : Command) : List.Forall₂ Encoding.Shows c.shape.encodings c.parts := by
  cases c with
  | query q => cases q <;> decide
  | setting s => cases s <;> decide

theorem visible_mnemonic (c : Command) : Visible c.mnemonic.toList := by
  cases c with
  | query q => cases q <;> decide
  | setting s => cases s <;> decide

theorem visible_frameOf (c : Command) {payload : String} (h : Visible payload.toList) :
    Visible (c.frameOf payload).toList := by
  have hmode : ' '.toNat < c.mode.toNat := by
    unfold mode
    split <;> decide
  rw [toList_frameOf]
  exact .cons (by decide) (.cons hmode ((Visible.padded _ _).append ((visible_mnemonic c).append h)))

theorem visible_of_resolveAll {c : Command} {given args : List String}
    (h : Demand.resolveAll c.demands given = .ok args) :
    ∃ frame, c.build args = .ok frame ∧ Visible frame.toList := by
  obtain ⟨texts, hspelled, hparts⟩ := (fits c given args h).spelled
  obtain ⟨-, -, hbuild⟩ := build_of_spelled h hspelled
  have hseparator : Visible c.shape.separator.toList := by
    rcases separator_cases c with hs | hs <;> rw [hs] <;> decide
  refine ⟨_, hbuild, visible_frameOf c ?_⟩
  rw [String.toList_intercalate]
  refine hseparator.intercalate ?_
  simpa only [List.forall_mem_map] using hspelled.visible hparts (shows_parts c)

end Command

theorem Utf8.count_encode {b : UInt8} (hb : b.toNat < 0x80) {c : Char} (hc : c.toNat = b.toNat)
    (text : List Char) : (encode text).count b = text.count c := by
  induction text with
  | nil => rfl
  | cons d text ih =>
    rw [encode_cons, List.count_append, List.count_cons, ih, Nat.add_comm]
    by_cases hd : d = c
    · subst hd
      have hbyte : UInt8.ofNat d.toNat = b := by
        rw [hc]
        exact UInt8.ofNat_toNat
      simp [utf8EncodeChar_of_lt (c := d) (by omega), hbyte]
    · have hnot : b ∉ String.utf8EncodeChar d := by
        rw [mem_utf8EncodeChar hb, ← hc, Char.toNat_inj]
        exact hd
      simp [List.count_eq_zero_of_not_mem hnot, hd]

/-- A frame has the terminators of its command and its own. -/
theorem Frame.count_terminator_encode (u : ChecksumUse) (command : List UInt8) :
    (encode u command).count terminator = command.count terminator + 1 := by
  have hchecksum : (Checksum.toBytes (Checksum.of command)).count terminator = 0 :=
    List.count_eq_zero_of_not_mem (terminator_not_mem_toBytes command)
  unfold encode
  split <;> simp [hchecksum]

namespace Action

variable {action : Action} {now : List String} {r : Request} {wire : String}

/-- An accepted request is sent as it is if it is raw, and as visible text if it is not. -/
theorem raw_or_visible (h : action.toRequest now = .ok r) (hwire : r.wire = .ok (some wire)) :
    action = .raw wire ∨ (∀ text, action ≠ .raw text) ∧ Visible wire.toList := by
  cases action with
  | raw command =>
    simp only [toRequest] at h
    split at h
    · obtain rfl := Except.ok.inj h
      exact .inl (congrArg raw (Option.some.inj (Except.ok.inj hwire)))
    · cases h
  | dump =>
    obtain rfl := Except.ok.inj h
    cases Except.ok.inj hwire
  | execute c args =>
    obtain ⟨resolved, rfl, hresolved⟩ := of_toRequest_execute h
    obtain ⟨frame, hbuild, hvisible⟩ := Command.visible_of_resolveAll hresolved
    rw [Request.wire, hbuild] at hwire
    obtain rfl := Option.some.inj (Except.ok.inj hwire)
    exact .inr ⟨fun _ => Action.noConfusion, hvisible⟩

/-- The bytes of an accepted request end with a terminator, and it is the only one in them unless
the request is a raw command with a carriage return of its own. -/
theorem one_terminator_iff (h : action.toRequest now = .ok r) (hwire : r.wire = .ok (some wire))
    (u : ChecksumUse) :
    let frame := Frame.encode u (Utf8.encode wire.toList)
    frame.getLast? = some Frame.terminator ∧
      (frame.count Frame.terminator = 1 ↔ ∀ text, action = .raw text → '\r' ∉ text.toList) := by
  intro frame
  have hcount : frame.count Frame.terminator = wire.toList.count '\r' + 1 := by
    rw [Frame.count_terminator_encode, Utf8.count_encode (c := '\r') (by decide) (by decide)]
  have hone : frame.count Frame.terminator = 1 ↔ '\r' ∉ wire.toList := by
    rw [hcount, ← List.count_eq_zero]
    omega
  refine ⟨by simp [frame, Frame.encode], hone.trans ?_⟩
  rcases raw_or_visible h hwire with rfl | ⟨hraw, hvisible⟩
  · exact ⟨fun hnot text htext => raw.inj htext ▸ hnot, fun hnot => hnot wire rfl⟩
  · exact ⟨fun _ text htext => absurd htext (hraw text), fun _ => hvisible.not_mem⟩

/-- Carriage returns around an argument are blanks, and do not go out. -/
theorem one_terminator_iff_blanks :
    (execute (.setting .acChargeTime) ["\r5:00", "23:59\r"]).toRequest [] =
        .ok (.execute (.setting .acChargeTime) ["\r5:00", "23:59\r"]) ∧
      (Request.execute (.setting .acChargeTime) ["\r5:00", "23:59\r"]).wire =
        .ok (some "^S016ACCT0500,2359") ∧
      (Frame.encode {} (Utf8.encode "^S016ACCT0500,2359".toList)).count Frame.terminator = 1 := by
  have h : (execute (.setting .acChargeTime) ["\r5:00", "23:59\r"]).toRequest [] =
      .ok (.execute (.setting .acChargeTime) ["\r5:00", "23:59\r"]) := by decide +kernel
  have hwire : (Request.execute (.setting .acChargeTime) ["\r5:00", "23:59\r"]).wire =
      .ok (some "^S016ACCT0500,2359") := by decide +kernel
  exact ⟨h, hwire, (one_terminator_iff h hwire {}).2.mpr fun _ => Action.noConfusion⟩

/-- A raw command may end a frame in its middle, and then the device sees two. -/
theorem raw_of_two_frames :
    ¬ ∀ (action : Action) (now : List String) (r : Request) (wire : String) (u : ChecksumUse),
      action.toRequest now = .ok r → r.wire = .ok (some wire) →
        let frame := Frame.encode u (Utf8.encode wire.toList)
        frame.getLast? = some Frame.terminator ∧ frame.count Frame.terminator = 1 := by
  intro h
  have hraw := h (.raw "Q\rQ") [] (.raw "Q\rQ") "Q\rQ" {} (by decide) rfl
  exact absurd hraw.2 (by decide +kernel)

end Action
end HybridInverter
