import HybridInverter.Proofs.Command.Payload

/-!
Frames that count themselves. A number names a command exactly when both tables have a place for
it, and then a frame is built, unless an argument cannot be written or three digits are too few for
its length. Every frame built declares its own size from the length field on.
-/
namespace HybridInverter
namespace Command

def IsId (id : Nat) : Prop :=
  1000 ≤ id ∧ id ≤ 1019 ∨ 1100 ≤ id ∧ id ≤ 1120

theorem isId_id (c : Command) : IsId c.id := by
  unfold IsId
  cases c with
  | query q => cases q <;> decide
  | setting s => cases s <;> decide

theorem ofId_id (c : Command) : ofId c.id = .ok c := by
  cases c with
  | query q => cases q <;> rfl
  | setting s => cases s <;> rfl

theorem lookup_id (c : Command) : lookup c.id = .ok c.mnemonic := by
  cases c with
  | query q => cases q <;> rfl
  | setting s => cases s <;> rfl

theorem mode_eq (c : Command) : c.mode = if 1100 ≤ c.id then 'S' else 'P' := by
  cases c with
  | query q => cases q <;> rfl
  | setting s => cases s <;> rfl

theorem exists_of_isId {id : Nat} (h : IsId id) : ∃ c : Command, c.id = id := by
  have hqueries : ∀ n < 20, ∃ q ∈ Query.all, q.id = 1000 + n := by decide
  have hsettings : ∀ n < 21, ∃ s ∈ Setting.all, s.id = 1100 + n := by decide
  rcases h with ⟨hlow, hhigh⟩ | ⟨hlow, hhigh⟩
  · obtain ⟨q, -, hq⟩ := hqueries (id - 1000) (by omega)
    exact ⟨.query q, by rw [Command.id, hq]; omega⟩
  · obtain ⟨s, -, hs⟩ := hsettings (id - 1100) (by omega)
    exact ⟨.setting s, by rw [Command.id, hs]; omega⟩

theorem ofId_of_not_isId {id : Nat} (h : ¬ IsId id) :
    ofId id = .error { cause := .unknownCommand id } := by
  have hnone : (all.find? fun c => c.id == id) = none := by
    rw [List.find?_eq_none]
    intro c _ hc
    exact h (eq_of_beq hc ▸ isId_id c)
  rw [ofId, hnone]

/-- A caret, a letter and three digits, the mnemonic and the payload, where the digits stand for the
number of bytes from the first of them to the end. -/
def IsFrame (letter : Char) (mnemonic payload frame : String) : Prop :=
  ∃ field : String, field.toList.length = 3 ∧ (∀ d ∈ field.toList, d.isDigit) ∧
    Numeral.value field.toList = (field ++ mnemonic ++ payload).utf8ByteSize ∧
    frame = "^" ++ String.singleton letter ++ (field ++ mnemonic ++ payload)

variable {c : Command} {args : List String} {payload : String}

/-- The length field is as wide as its size is counted, so that the length is right. -/
theorem isFrame_frameOf (h : c.wireLength payload ≤ maxLength) :
    IsFrame c.mode c.mnemonic payload (c.frameOf payload) := by
  have hlimit : maxLength < 10 ^ lengthWidth := by decide
  have hfield : (Form.digits lengthWidth).Matches
      (Numeral.padded lengthWidth (c.wireLength payload : Nat)) :=
    Form.matches_padded (by decide) (Nat.lt_of_le_of_lt h hlimit)
  have hwidth := hfield.length_eq
  rw [Form.digits, List.length_replicate] at hwidth
  refine ⟨String.ofList (Numeral.padded lengthWidth (c.wireLength payload)), ?_, ?_, ?_, ?_⟩
  · rw [String.toList_ofList, ← hwidth]
    rfl
  · rw [String.toList_ofList]
    exact fun d hd => Numeral.isDigit_of_mem_padded hd
  · rw [String.toList_ofList, Numeral.padded_natCast, Numeral.value_padZeros, Numeral.value_decimal,
      String.utf8ByteSize_append, String.utf8ByteSize_append, Utf8.utf8ByteSize_ofList,
      ← Numeral.padded_natCast, Numeral.size_padded, ← hwidth, wireLength]
  · simp only [frameOf, String.append_assoc]

theorem buildById_id (c : Command) (args : List String) : buildById c.id args = c.build args := by
  rw [buildById, ofId_id]
  rfl

theorem build_of_error {fault : ArgumentFault} (h : c.shape.encode args = .error fault) :
    c.build args = .error (.argument fault) := by
  rw [build, h]

theorem build_of_ok (h : c.shape.encode args = .ok payload) :
    c.build args =
      if maxLength < c.wireLength payload then
        .error (.argument (.tooLong (c.wireLength payload)))
      else .ok (c.frameOf payload) := by
  rw [build, h]

theorem build_ne_unknown (c : Command) (args : List String) (id : Nat) :
    c.build args ≠ .error { cause := .unknownCommand id } := by
  intro h
  cases hencode : c.shape.encode args with
  | error fault =>
    rw [build_of_error hencode] at h
    cases h
  | ok payload =>
    rw [build_of_ok hencode] at h
    split at h <;> cases h

/-- A number without a command is all that is refused as one. For any other, what is wrong with the
arguments is told, or that three digits are too few for the length, or else the frame is built with
the mnemonic that is looked up, and its length is right. -/
theorem built_frame_counts_itself (id : Nat) (args : List String) :
    (buildById id args = .error { cause := .unknownCommand id } ↔ ¬ IsId id) ∧
      (IsId id → ∃ c mnemonic, ofId id = .ok c ∧ lookup id = .ok mnemonic ∧
        ((∃ fault, c.shape.encode args = .error fault ∧
            buildById id args = .error (.argument fault)) ∨
          ∃ payload, c.shape.encode args = .ok payload ∧
            let length := 3 + mnemonic.utf8ByteSize + payload.utf8ByteSize
            (999 < length ∧ buildById id args = .error (.argument (.tooLong length)) ∨
              length ≤ 999 ∧ ∃ frame, buildById id args = .ok frame ∧
                IsFrame (if 1100 ≤ id then 'S' else 'P') mnemonic payload frame))) := by
  refine ⟨⟨fun hrefused hid => ?_, fun hid => ?_⟩, fun hid => ?_⟩
  · obtain ⟨c, rfl⟩ := exists_of_isId hid
    rw [buildById_id] at hrefused
    exact build_ne_unknown c args c.id hrefused
  · rw [buildById, ofId_of_not_isId hid]
    rfl
  obtain ⟨c, rfl⟩ := exists_of_isId hid
  refine ⟨c, c.mnemonic, ofId_id c, lookup_id c, ?_⟩
  rw [buildById_id]
  cases hencode : c.shape.encode args with
  | error fault => exact .inl ⟨fault, rfl, build_of_error hencode⟩
  | ok payload =>
    refine .inr ⟨payload, rfl, ?_⟩
    rw [build_of_ok hencode, ← mode_eq]
    by_cases hlong : maxLength < c.wireLength payload
    · exact .inl ⟨hlong, if_pos hlong⟩
    · have hfits := Nat.not_lt.mp hlong
      exact .inr ⟨hfits, _, if_neg hlong, isFrame_frameOf hfits⟩

/-- A letter of two bytes counts as two. -/
theorem built_frame_counts_itself_accent :
    IsId 1100 ∧ buildById 1100 ["é"] = .ok "^S008LONé" ∧ IsFrame 'S' "LON" "é" "^S008LONé" := by
  have hid : IsId 1100 := .inr ⟨by decide, by decide⟩
  have hbuild : buildById 1100 ["é"] = .ok "^S008LONé" := by decide +kernel
  obtain ⟨c, mnemonic, hc, hmnemonic, hbuilt⟩ := (built_frame_counts_itself 1100 ["é"]).2 hid
  obtain rfl : Command.setting .loads = c := Except.ok.inj hc
  obtain rfl : "LON" = mnemonic := Except.ok.inj hmnemonic
  obtain ⟨fault, -, hrefused⟩ | ⟨payload, hpayload, ⟨-, hrefused⟩ | ⟨-, frame, hframe, hcounts⟩⟩ :=
    hbuilt
  · cases hbuild.symm.trans hrefused
  · cases hbuild.symm.trans hrefused
  · obtain rfl : "é" = payload := Except.ok.inj hpayload
    obtain rfl : "^S008LONé" = frame := Except.ok.inj (hbuild.symm.trans hframe)
    exact ⟨hid, hbuild, hcounts⟩

end Command
end HybridInverter
