import HybridInverter.Proofs.Request.Fit

/-!
What has been accepted is built. Each command's demands fit its encodings part by part, the parts
make up the payload in its documented form, and no payload comes near the limit of the length field.
-/
namespace HybridInverter

open Form in
/-- The parts of the payload in their order; decimals have no form. -/
def Query.parts : Query → List (Option Form)
  | .yearGenerated => [some (digits 4)]
  | .monthGenerated => [some (digits 4), some (digits 2)]
  | .dayGenerated => [some (digits 4), some (digits 2), some (digits 2)]
  | .parallelRatedInformation | .parallelGeneralStatus => [some (digits 1)]
  | _ => []

open Form in
def Setting.parts : Setting → List (Option Form)
  | .loads => [some bit]
  | .flag => [some toggle]
  | .defaults | .clearGenerated => []
  | .maxChargeCurrent | .maxAcChargeCurrent => [some (digits 1), some (digits 3)]
  | .outputFrequency => [some (digits 2)]
  | .outputRatedVoltage => [some (digits 4)]
  | .outputSourcePriority | .solarPowerPriority => [some (digits 1)]
  | .inputVoltageRange | .batteryType => [some (digits 1)]
  | .chargingSourcePriority | .outputModel => [some (digits 1), some (digits 1)]
  | .solarConfiguration => [some (digits 22)]
  | .dateTime => List.replicate 6 (some (digits 2))
  | .acChargeTime | .acSupplyTime => [some (digits 4), some (digits 4)]
  | .maxChargeVoltage | .chargingThresholds => [none, none]
  | .cutoffVoltage => [none]

namespace Command

def parts : Command → List (Option Form)
  | .query q => q.parts
  | .setting s => s.parts

def mark (c : Command) : Form :=
  if c.shape.separator = "" then [] else Form.comma

theorem fits_query (q : Query) : Fit q.demands (shape (.query q)).encodings q.parts := by
  cases q with
  | yearGenerated => exact .year
  | monthGenerated => exact Fit.year.append .month
  | dayGenerated => exact .date fun _ _ => Fit.writes_year
  | parallelRatedInformation | parallelGeneralStatus => exact .parallelId_number
  | _ => exact .nil

theorem fits_setting (s : Setting) : Fit s.demands (shape (.setting s)).encodings s.parts := by
  cases s with
  | loads => exact .zeroOrOne _
  | flag => exact .flag _
  | defaults | clearGenerated => exact .nil
  | maxChargeCurrent | maxAcChargeCurrent => exact Fit.parallelId_char.append .amperes
  | outputFrequency => exact .frequency
  | outputRatedVoltage => exact .ratedVoltage
  | outputSourcePriority | solarPowerPriority => exact .choice (by decide)
  | inputVoltageRange | batteryType => exact .choice (by decide)
  | chargingSourcePriority | outputModel => exact Fit.parallelId_char.append (.choice (by decide))
  | solarConfiguration => exact .solarId
  | dateTime => exact (Fit.date fun _ _ => Fit.writes_shortYear).append .clock
  | acChargeTime | acSupplyTime => exact (Fit.timeOfDay _).append (.timeOfDay _)
  | maxChargeVoltage => exact (Fit.voltage _ _).append (.voltage _ _)
  | chargingThresholds => exact Fit.rechargeVoltage.append .redischargeVoltage
  | cutoffVoltage => exact .voltage _ _

theorem fits (c : Command) : Fit c.demands c.shape.encodings c.parts := by
  cases c with
  | query q => exact fits_query q
  | setting s => exact fits_setting s

theorem separator_cases (c : Command) : c.shape.separator = "" ∨ c.shape.separator = "," := by
  cases c with
  | query q => cases q <;> exact .inl rfl
  | setting s => cases s <;> first | exact .inl rfl | exact .inr rfl

def maxMnemonicSize : Nat := 7
def maxParts : Nat := 6

theorem size_mnemonic_le (c : Command) : c.mnemonic.utf8ByteSize ≤ maxMnemonicSize := by
  cases c with
  | query q => cases q <;> decide
  | setting s => cases s <;> decide

theorem length_parts_le (c : Command) : c.parts.length ≤ maxParts := by
  cases c with
  | query q => cases q <;> decide
  | setting s => cases s <;> decide

theorem size_separator_le (c : Command) : c.shape.separator.utf8ByteSize ≤ 1 := by
  rcases separator_cases c with h | h <;> rw [h] <;> decide

theorem wireLength_le {c : Command} {texts : List String}
    (h : List.Forall₂ IsPart c.parts texts) :
    c.wireLength (c.shape.separator.intercalate texts) ≤ maxLength := by
  have hpayload : (c.shape.separator.intercalate texts).utf8ByteSize ≤
      maxParts * (maxPartSize + 1) :=
    Nat.le_trans (size_payload_le h _) (Nat.mul_le_mul (length_parts_le c)
      (Nat.add_le_add_left (size_separator_le c) _))
  have hmnemonic := size_mnemonic_le c
  simp only [maxParts, maxPartSize, maxMnemonicSize] at hpayload hmnemonic
  simp only [wireLength, lengthWidth, maxLength]
  omega

/-- Arguments that satisfy a command's demands make its payload of the texts they are spelled as. -/
theorem build_of_spelled {c : Command} {given args texts : List String}
    (h : Demand.resolveAll c.demands given = .ok args)
    (hspelled : Encoding.Spelled c.shape.encodings args texts) :
    args.length = c.shape.arity ∧ List.Forall₂ IsPart c.parts texts ∧
      c.build args = .ok (c.frameOf (c.shape.separator.intercalate texts)) := by
  obtain ⟨harity, hencode⟩ := hspelled.encodeEach
  obtain ⟨-, texts', hencode', hparts⟩ := (fits c given args h).encodeEach
  obtain rfl : texts' = texts := Except.ok.inj (hencode'.symm.trans hencode)
  have hlength : args.length = c.shape.arity := harity
  refine ⟨hlength, hparts, ?_⟩
  have hpayload : c.shape.encode args = .ok (c.shape.separator.intercalate texts') := by
    rw [ArgumentShape.encode, if_neg (by omega), hencode]
    rfl
  rw [build, hpayload]
  exact if_neg (Nat.not_lt.mpr (wireLength_le hparts))

theorem build_of_resolveAll {c : Command} {given args : List String}
    (h : Demand.resolveAll c.demands given = .ok args) :
    args.length = c.shape.arity ∧
      ∃ texts, c.build args = .ok (c.frameOf (c.shape.separator.intercalate texts)) ∧
        List.Forall₂ IsPart c.parts texts := by
  obtain ⟨texts, hspelled, hparts⟩ := (fits c given args h).spelled
  obtain ⟨hlength, -, hbuild⟩ := build_of_spelled h hspelled
  exact ⟨hlength, texts, hbuild, hparts⟩

end Command

namespace Action

variable {action : Action} {now args : List String} {c : Command}

/-- A command is accepted with its demands satisfied, by the clock where it stands in. -/
theorem of_toRequest_execute {r : Request} (h : (execute c args).toRequest now = .ok r) :
    ∃ resolved, r = .execute c resolved ∧
      Demand.resolveAll c.demands (given c args now) = .ok resolved := by
  simp only [toRequest] at h
  split at h
  · cases h
  · obtain ⟨resolved, hresolved, h⟩ := bind_eq_ok_iff.mp h
    exact ⟨resolved, (Except.ok.inj h).symm, hresolved⟩

end Action
end HybridInverter
