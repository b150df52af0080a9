import HybridInverter.Proofs.Response.Written

/-!
Lists read back. The tokens of a record stand at the places where its values are looked for, so that
whatever was written is decoded, in whatever style. Only the serial number of a unit has more behind
it in its token, and the length in front of it says where it ends.
-/
namespace HybridInverter

/-- The tokens from a place on are read as the values. -/
def Recalls (t : Nat → List Char) (place : Nat) : List Reading → Prop
  | [] => True
  | v :: values => v.Stands (t place) ∧ Recalls t (place + 1) values

theorem recalls_of_stands {t : Nat → List Char} {place : Nat} {values : List Reading}
    (h : ∀ i (v : Reading), values[i]? = some v → v.Stands (t (place + i))) :
    Recalls t place values := by
  induction values generalizing place with
  | nil => trivial
  | cons v values ih =>
    refine ⟨h 0 v rfl, ih fun i w hw => ?_⟩
    rw [Nat.add_assoc, Nat.add_comm 1 i]
    exact h (i + 1) w hw

namespace Style

variable (s : Style) {values : List Reading}

theorem plain_modify {tokens : List (List Char)} (h : ∀ t ∈ tokens, ',' ∉ t) (place : Nat) :
    ∀ t ∈ tokens.modify place (· ++ s.filler), ',' ∉ t := by
  intro t ht
  obtain ⟨i, hi⟩ := List.mem_iff_getElem?.mp ht
  rw [List.getElem?_modify] at hi
  obtain ⟨token, htoken, rfl⟩ := Option.map_eq_some_iff.mp hi
  have hplain := h token (List.mem_of_getElem? htoken)
  split
  · exact fun hc => (List.mem_append.mp hc).elim hplain s.filler_plain
  · exact hplain

/-- Every value is found behind those in front of it, whatever follows the last. -/
theorem recalls_tokens (h : ∀ v ∈ values, v.Fits) {rest : List (List Char)}
    (hrest : ∀ t ∈ rest, ',' ∉ t) :
    Recalls (Token.get (Token.joined s.closed (s.tokens values ++ rest))) 0 values := by
  have hplain : ∀ t ∈ s.tokens values ++ rest, ',' ∉ t := by
    intro t ht
    exact (List.mem_append.mp ht).elim (s.plain_tokens h t) (hrest t)
  refine recalls_of_stands fun place v hv => ?_
  have htoken := s.getElem?_tokens hv
  have hplace := (List.getElem?_eq_some_iff.mp htoken).1
  have hfound : (s.tokens values ++ rest)[place]? = some (v.written (s.width place)) := by
    rw [List.getElem?_append_left hplace, htoken]
  rw [Nat.zero_add, Token.get_joined hplain s.closed hfound]
  exact Reading.stands_written (h v (List.mem_of_getElem? hv)) (s.width_le place)

end Style

section
variable {t : Nat → List Char}

theorem CpuVersion.ofTokens_of_recalls {v : CpuVersion} (h : Recalls t 0 v.readings)
    (hmain : Utf8.size v.mainCpuVersion.toList ≤ 5)
    (hslave1 : Utf8.size v.slave1CpuVersion.toList ≤ 5)
    (hslave2 : Utf8.size v.slave2CpuVersion.toList ≤ 5) : ofTokens t = v := by
  simp only [readings, Recalls, Reading.Stands] at h
  obtain ⟨h0, h1, h2, -⟩ := h
  have hroom : 5 ≤ Token.maxSize := by decide
  simp [ofTokens, h0 5 hroom hmain, h1 5 hroom hslave1, h2 5 hroom hslave2]

theorem RatedInformation.ofTokens_of_recalls {r : RatedInformation} (h : Recalls t 0 r.readings)
    (hmppt : Utf8.size r.mppt.toList ≤ 1) : ofTokens t = r := by
  simp only [readings, Recalls, Reading.Stands] at h
  have hroom : 1 ≤ Token.maxSize := by decide
  simp [ofTokens, h, hroom, hmppt]

theorem GeneralStatus.ofTokens_of_recalls {s : GeneralStatus} (h : Recalls t 0 s.readings) :
    ofTokens t = s := by
  simp only [readings, Recalls, Reading.Stands] at h
  simp [ofTokens, h]

theorem FaultsWarnings.ofTokens_of_recalls {w : FaultsWarnings} (h : Recalls t 0 w.readings) :
    ofTokens t = w := by
  simp only [readings, Recalls, Reading.Stands] at h
  simp [ofTokens, h]

theorem FlagStates.ofTokens_of_recalls {f : FlagStates} (h : Recalls t 0 f.readings) :
    ofTokens t = f := by
  simp only [readings, Recalls, Reading.Stands] at h
  simp [ofTokens, h]

theorem Defaults.ofTokens_of_recalls {d : Defaults} (h : Recalls t 0 d.readings) :
    ofTokens t = d := by
  simp only [readings, Recalls, Reading.Stands] at h
  simp [ofTokens, h]

theorem ParallelStatus.ofTokens_of_recalls {s : ParallelStatus} (h : Recalls t 0 s.readings) :
    ofTokens t = s := by
  simp only [readings, Recalls, Reading.Stands] at h
  simp [ofTokens, h]

theorem TimeBucket.ofTokens_of_recalls {b : TimeBucket} (h : Recalls t 0 b.readings) :
    ofTokens t = b := by
  simp only [readings, Recalls, Reading.Stands] at h
  simp [ofTokens, h]

theorem ParallelRatings.ofTokens_of_stands {r : ParallelRatings} {filler : List Char}
    (h : ∀ place (v : Reading), place ≠ 2 → r.readings[place]? = some v → v.Stands (t place))
    (hserial : t 2 = Token.cut (r.serialNumber.toList ++ filler))
    (hlength : r.serialNumberLength = Utf8.size r.serialNumber.toList)
    (hsize : Utf8.size r.serialNumber.toList ≤ maxSerialSize) : ofTokens t = r := by
  have hconnection : leadingInt (t 0) = r.connection.raw := h 0 _ (by decide) rfl
  have hcount : Token.int (t 1) = r.serialNumberLength := h 1 _ (by decide) rfl
  have hpriority : leadingInt (t 3) = r.chargerSourcePriority.raw := h 3 _ (by decide) rfl
  have hcharging : Token.int (t 4) = r.maxChargingCurrent := h 4 _ (by decide) rfl
  have hacCharging : Token.int (t 5) = r.maxAcChargingCurrent := h 5 _ (by decide) rfl
  have hmodel : leadingInt (t 6) = r.outputModel.raw := h 6 _ (by decide) rfl
  have hroom : Utf8.size r.serialNumber.toList ≤ Token.maxSize := Nat.le_trans hsize (by decide)
  have htext : Token.text (min (Token.int (t 1)).toNat maxSerialSize) (t 2) = r.serialNumber := by
    rw [hcount, hlength, Int.toNat_natCast, Nat.min_eq_left hsize, hserial, Token.cut,
      Utf8.take_append hroom, Token.text, Utf8.take_size_append, String.ofList_toList]
  rw [ofTokens, htext, hconnection, hcount, hpriority, hcharging, hacCharging, hmodel]

end

theorem ParallelRatings.ofTokens_joined (s : Style) {r : ParallelRatings}
    (hfits : ∀ v ∈ r.readings, v.Fits)
    (hlength : r.serialNumberLength = Utf8.size r.serialNumber.toList)
    (hsize : Utf8.size r.serialNumber.toList ≤ maxSerialSize) :
    ofTokens (Token.get (Token.joined s.closed
      ((s.tokens r.readings).modify 2 (· ++ s.filler) ++ s.surplus))) = r := by
  have hplain : ∀ t ∈ (s.tokens r.readings).modify 2 (· ++ s.filler) ++ s.surplus, ',' ∉ t := by
    intro t ht
    exact (List.mem_append.mp ht).elim (s.plain_modify (s.plain_tokens hfits) 2 t)
      (s.surplus_plain t)
  have hserial := Token.get_joined hplain s.closed (i := 2) rfl
  refine ofTokens_of_stands (fun place v hplace hv => ?_) hserial hlength hsize
  have htoken := s.getElem?_tokens hv
  have hbound := (List.getElem?_eq_some_iff.mp htoken).1
  have hfound : ((s.tokens r.readings).modify 2 (· ++ s.filler) ++ s.surplus)[place]? =
      some (v.written (s.width place)) := by
    rw [List.getElem?_append_left (by simpa using hbound), List.getElem?_modify_ne _ _ hplace.symm,
      htoken]
  rw [Token.get_joined hplain s.closed hfound]
  exact Reading.stands_written (hfits v (List.mem_of_getElem? hv)) (s.width_le place)

theorem Selectable.ofPayload_joined (s : Style) {amperes : List Int} (hne : amperes ≠ [])
    (hmost : amperes.length ≤ maxValues) (h : ∀ v ∈ amperes.map Reading.number, v.Fits) :
    ofPayload (Token.joined s.closed (s.tokens (amperes.map .number))) = amperes := by
  have htokens : s.tokens (amperes.map .number) ≠ [] := by simpa [Style.tokens] using hne
  have hlength : (s.tokens (amperes.map .number)).length = amperes.length := by simp [Style.tokens]
  have hfull : ∀ t ∈ s.tokens (amperes.map .number), t ≠ [] := by
    intro t ht
    obtain ⟨place, hplace, rfl⟩ := List.mem_mapIdx.mp ht
    rw [List.getElem_map]
    exact Numeral.padded_ne_nil _ _
  rw [ofPayload, Token.segments_joined htokens (s.plain_tokens h) hfull,
    List.take_of_length_le (hlength ▸ hmost)]
  refine List.ext_getElem (by simp [hlength]) fun place hplace hplace' => ?_
  have hfits := h (.number amperes[place]) (List.mem_map_of_mem (List.getElem_mem hplace'))
  simpa [Style.tokens, Reading.Stands] using Reading.stands_written hfits (s.width_le place)

namespace Response

/-- Every list is read back from whatever has been written for it. -/
theorem decode_written_of_listed (s : Style) {r : Response} (hlisted : r.Listed)
    (hfits : ∀ v ∈ r.readings, v.Fits) : decode r.query (r.written s) = r := by
  have hsurplus := s.surplus_plain
  cases r with
  | cpuVersion v =>
    obtain ⟨hmain, hslave1, hslave2⟩ := hlisted
    have hrecalls := s.recalls_tokens hfits hsurplus
    exact congrArg cpuVersion (CpuVersion.ofTokens_of_recalls hrecalls hmain hslave1 hslave2)
  | ratedInformation r =>
    have hrecalls := s.recalls_tokens hfits hsurplus
    exact congrArg ratedInformation (RatedInformation.ofTokens_of_recalls hrecalls hlisted)
  | generalStatus status =>
    have hrecalls := s.recalls_tokens hfits hsurplus
    exact congrArg generalStatus (GeneralStatus.ofTokens_of_recalls hrecalls)
  | faultsWarnings w =>
    have hrecalls := s.recalls_tokens hfits hsurplus
    exact congrArg faultsWarnings (FaultsWarnings.ofTokens_of_recalls hrecalls)
  | flags f =>
    have hrest : ∀ t ∈ [s.reserved] ++ s.surplus, ',' ∉ t := by
      simpa using And.intro s.reserved_plain hsurplus
    have hrecalls := s.recalls_tokens hfits hrest
    rw [← List.append_assoc] at hrecalls
    exact congrArg flags (FlagStates.ofTokens_of_recalls hrecalls)
  | defaults d =>
    have hrecalls := s.recalls_tokens hfits hsurplus
    exact congrArg defaults (Defaults.ofTokens_of_recalls hrecalls)
  | maxChargingCurrents amperes =>
    have hread := Selectable.ofPayload_joined s hlisted.1 hlisted.2 hfits
    rw [← List.append_nil (s.tokens _)] at hread
    exact congrArg maxChargingCurrents hread
  | maxAcChargingCurrents amperes =>
    have hread := Selectable.ofPayload_joined s hlisted.1 hlisted.2 hfits
    rw [← List.append_nil (s.tokens _)] at hread
    exact congrArg maxAcChargingCurrents hread
  | parallelRatedInformation r =>
    have hread := ParallelRatings.ofTokens_joined s hfits hlisted.1 hlisted.2
    exact congrArg parallelRatedInformation hread
  | parallelGeneralStatus status =>
    have hrecalls := s.recalls_tokens hfits hsurplus
    exact congrArg parallelGeneralStatus (ParallelStatus.ofTokens_of_recalls hrecalls)
  | acChargeTime b =>
    have hrecalls := s.recalls_tokens hfits hsurplus
    exact congrArg acChargeTime (TimeBucket.ofTokens_of_recalls hrecalls)
  | acSupplyTime b =>
    have hrecalls := s.recalls_tokens hfits hsurplus
    exact congrArg acSupplyTime (TimeBucket.ofTokens_of_recalls hrecalls)
  | protocolId | currentTime | totalGenerated | yearGenerated | monthGenerated | dayGenerated
  | seriesNumber | workingMode => exact hlisted.elim

/-- Numbers of growing widths, zeros behind the serial number, a token too many and a comma. -/
theorem decode_written_of_listed_rating :
    decode .parallelRatedInformation
        "1,14,92932004102443000000,-02,0060,00060,000000,x,".toList =
      .parallelRatedInformation ⟨⟨1⟩, 14, "92932004102443", ⟨-2⟩, 60, 60, ⟨0⟩⟩ := by
  have hread := decode_written_of_listed .growing
    (r := .parallelRatedInformation ⟨⟨1⟩, 14, "92932004102443", ⟨-2⟩, 60, 60, ⟨0⟩⟩)
    ⟨rfl, by decide⟩
    (by simp [readings, ParallelRatings.readings, Reading.Fits, int32Bound, Numeral.int64Bound])
  have hwritten : written .growing
      (.parallelRatedInformation ⟨⟨1⟩, 14, "92932004102443", ⟨-2⟩, 60, 60, ⟨0⟩⟩) =
        "1,14,92932004102443000000,-02,0060,00060,000000,x,".toList := by
    decide +kernel
  rw [hwritten] at hread
  exact hread

end Response
end HybridInverter
