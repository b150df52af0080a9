import HybridInverter.Command.Wire
import HybridInverter.Proofs.BinaryFloat
import HybridInverter.Proofs.Outcome
import HybridInverter.Proofs.Text.Numeral
import HybridInverter.Request.Check

/-!
What the checks of arguments let through, said in terms of how encodings read. A number that has
been checked is read as the same number when it is encoded, whatever signs, zeros and blanks it was
spelled with.
-/
namespace HybridInverter

namespace Encoding

theorem readInt_of_readNat {limit n : Nat} (hl : limit < Numeral.int64Bound) {text : String}
    (h : Numeral.readNat limit (Text.trim text.toList) = .ok n) : readInt text = .ok (n : Int) := by
  simp only [readInt, Numeral.readInt64_of_readNat hl h]

end Encoding

theorem Text.trim_of_isDigit {digits : List Char} (h : ∀ c ∈ digits, c.isDigit) :
    trim digits = digits := by
  refine trim_eq_self fun c hc => ?_
  have hdigit := Numeral.toNat_of_isDigit (h c hc)
  simp only [isBlank, Bool.or_eq_false_iff, Bool.and_eq_false_iff, decide_eq_false_iff_not,
    beq_eq_false_iff_ne]
  omega

/-- Decimal digits, one at least and `most` at the most. -/
structure Numeric (most : Nat) (text : String) : Prop where
  ne_nil : text.toList ≠ []
  digits : ∀ c ∈ text.toList, c.isDigit
  length_le : text.toList.length ≤ most

namespace Numeric

variable {most : Nat} {text : String}

theorem value_lt (h : Numeric most text) : Numeral.value text.toList < 10 ^ most :=
  Nat.lt_of_lt_of_le (Numeral.value_lt h.digits) (Nat.pow_le_pow_right (by decide) h.length_le)

theorem trim_eq (h : Numeric most text) : Text.trim text.toList = text.toList :=
  Text.trim_of_isDigit h.digits

theorem readInt_eq (h : Numeric most text) (hmost : most ≤ 18) :
    Encoding.readInt text = .ok (Numeral.value text.toList : Int) := by
  have hvalue : Numeral.value text.toList < 10 ^ 18 :=
    Nat.lt_of_lt_of_le h.value_lt (Nat.pow_le_pow_right (by decide) hmost)
  have hlimit : 10 ^ 18 < Numeral.int64Bound := by
    rw [Numeral.int64Bound_eq]
    decide
  refine Encoding.readInt_of_readNat hlimit ?_
  rw [h.trim_eq]
  exact Numeral.readNat_of_isDigit h.ne_nil h.digits (Nat.le_of_lt hvalue)

theorem exists_eq_singleton (h : Numeric 1 text) : ∃ c, text.toList = [c] ∧ c.isDigit := by
  have hpos := List.length_pos_iff.mpr h.ne_nil
  obtain ⟨c, hc⟩ := List.length_eq_one_iff.mp (Nat.le_antisymm h.length_le hpos)
  exact ⟨c, hc, h.digits c (by simp [hc])⟩

end Numeric

theorem TimeOfDay.isReal_iff {t : TimeOfDay} : t.isReal ↔ t.hour ≤ 23 ∧ t.minute ≤ 59 := by
  simp only [isReal, Bool.and_eq_true, decide_eq_true_eq]
  exact Iff.rfl

namespace Check

theorem numeric_of_isNumeric {most : Nat} {text : String}
    (h : (isNumeric text.toList && decide (text.toList.length ≤ most)) = true) :
    Numeric most text := by
  simp only [isNumeric, Bool.and_eq_true, Bool.not_eq_true', List.isEmpty_eq_false_iff,
    List.all_eq_true, decide_eq_true_eq] at h
  exact ⟨h.1.1, h.1.2, h.2⟩

theorem numeric_of_number {most n : Nat} {what text : String} (h : number most what text = .ok n) :
    Numeric most text ∧ n = Numeral.value text.toList := by
  unfold number at h
  split at h
  · next hnumeric => exact ⟨numeric_of_isNumeric hnumeric, (Except.ok.inj h).symm⟩
  · cases h

theorem of_within {low high n m : Nat} {what : String} (h : within low high what n = .ok m) :
    m = n ∧ low ≤ n ∧ n ≤ high := by
  unfold within at h
  split at h
  · next hn => exact ⟨(Except.ok.inj h).symm, hn⟩
  · cases h

theorem of_year {text : String} {n : Nat} (h : year text = .ok n) :
    Numeric 4 text ∧ text.toList.length = 4 ∧
      n = Numeral.value text.toList ∧ 2000 ≤ n ∧ n ≤ 2099 := by
  obtain ⟨m, hnumber, h⟩ := bind_eq_ok_iff.mp h
  obtain ⟨hnumeric, rfl⟩ := numeric_of_number hnumber
  split at h
  · next hlen =>
    obtain ⟨rfl, hlow, hhigh⟩ := of_within h
    exact ⟨hnumeric, hlen, rfl, hlow, hhigh⟩
  · cases h

theorem of_month {text : String} {n : Nat} (h : month text = .ok n) :
    Numeric 2 text ∧ n = Numeral.value text.toList := by
  obtain ⟨m, hnumber, h⟩ := bind_eq_ok_iff.mp h
  obtain ⟨hnumeric, rfl⟩ := numeric_of_number hnumber
  exact ⟨hnumeric, (of_within h).1⟩

theorem of_day {text : String} {n : Nat} (h : day text = .ok n) :
    Numeric 2 text ∧ n = Numeral.value text.toList := by
  obtain ⟨m, hnumber, h⟩ := bind_eq_ok_iff.mp h
  obtain ⟨hnumeric, rfl⟩ := numeric_of_number hnumber
  exact ⟨hnumeric, (of_within h).1⟩

theorem of_date {y m d : String} {v : Date} (h : date y m d = .ok v) :
    year y = .ok v.year ∧ month m = .ok v.month ∧ day d = .ok v.day := by
  obtain ⟨n, hyear, h⟩ := bind_eq_ok_iff.mp h
  obtain ⟨n', hmonth, h⟩ := bind_eq_ok_iff.mp h
  obtain ⟨n'', hday, h⟩ := bind_eq_ok_iff.mp h
  dsimp only at h
  split at h
  · obtain rfl := Except.ok.inj h
    exact ⟨hyear, hmonth, hday⟩
  · cases h

theorem of_clock {h m s : String} {v : Nat × Nat × Nat} (hclock : clock h m s = .ok v) :
    (Numeric 2 h ∧ Numeric 2 m ∧ Numeric 2 s) ∧
      v = (Numeral.value h.toList, Numeral.value m.toList, Numeral.value s.toList) := by
  obtain ⟨n₁, hhour, hclock⟩ := bind_eq_ok_iff.mp hclock
  obtain ⟨hour, hhour', hclock⟩ := bind_eq_ok_iff.mp hclock
  obtain ⟨n₂, hminute, hclock⟩ := bind_eq_ok_iff.mp hclock
  obtain ⟨minute, hminute', hclock⟩ := bind_eq_ok_iff.mp hclock
  obtain ⟨n₃, hsecond, hclock⟩ := bind_eq_ok_iff.mp hclock
  obtain ⟨second, hsecond', hclock⟩ := bind_eq_ok_iff.mp hclock
  obtain ⟨hh, rfl⟩ := numeric_of_number hhour
  obtain ⟨hm, rfl⟩ := numeric_of_number hminute
  obtain ⟨hs, rfl⟩ := numeric_of_number hsecond
  obtain ⟨rfl, -⟩ := of_within hhour'
  obtain ⟨rfl, -⟩ := of_within hminute'
  obtain ⟨rfl, -⟩ := of_within hsecond'
  exact ⟨⟨hh, hm, hs⟩, (Except.ok.inj hclock).symm⟩

/-- What a fault would be called has no part in whether there is one. -/
theorem timeOfDay_eq_ok_iff {what text : String} {t : TimeOfDay} :
    timeOfDay what text = .ok t ↔ readTime text.toList = some t ∧ t.isReal := by
  unfold timeOfDay
  cases readTime text.toList with
  | none => simp
  | some t' =>
    dsimp only
    split
    · next hreal =>
      rw [Except.ok.injEq, Option.some.injEq]
      exact ⟨fun h => ⟨h, h ▸ hreal⟩, And.left⟩
    · next hreal =>
      simp only [reduceCtorEq, Option.some.injEq, false_iff, not_and]
      exact fun h => h ▸ hreal

theorem of_timeOfDay {what text : String} {t : TimeOfDay} (h : timeOfDay what text = .ok t) :
    ∃ before behind, Text.cutFirst ':' text.toList = some (before, behind) ∧
      Encoding.readInt (String.ofList before) = .ok (t.hour : Int) ∧ t.hour ≤ 23 ∧
      Encoding.readInt (String.ofList behind) = .ok (t.minute : Int) ∧ t.minute ≤ 59 := by
  have hlimit : Numeral.unsigned 32 < Numeral.int64Bound := by
    rw [Numeral.int64Bound_eq]
    decide
  obtain ⟨hread, hreal⟩ := timeOfDay_eq_ok_iff.mp h
  simp only [readTime, Option.bind_eq_bind, Option.bind_eq_some_iff] at hread
  obtain ⟨⟨before, behind⟩, hcut, hour, hhour, minute, hminute, ht⟩ := hread
  obtain rfl := Option.some.inj ht
  obtain ⟨hhour', hminute'⟩ := TimeOfDay.isReal_iff.mp hreal
  refine ⟨before, behind, hcut, ?_, hhour', ?_, hminute'⟩
  · refine Encoding.readInt_of_readNat hlimit ?_
    rw [String.toList_ofList]
    exact eq_ok_of_toOption hhour
  · refine Encoding.readInt_of_readNat hlimit ?_
    rw [String.toList_ofList]
    exact eq_ok_of_toOption hminute

theorem of_zeroOrOne {what text : String} {v : Bool} (h : zeroOrOne what text = .ok v) :
    text = if v then "1" else "0" := by
  unfold zeroOrOne at h
  split at h
  · next htext =>
    obtain rfl := Except.ok.inj h
    exact htext
  · split at h
    · next htext =>
      obtain rfl := Except.ok.inj h
      exact htext
    · cases h

theorem of_frequency {text : String} {n : Nat} (h : frequency text = .ok n) :
    (text = "50" ∧ n = 50) ∨ (text = "60" ∧ n = 60) := by
  unfold frequency at h
  split at h
  · next htext => exact .inl ⟨htext, (Except.ok.inj h).symm⟩
  · split at h
    · next htext => exact .inr ⟨htext, (Except.ok.inj h).symm⟩
    · cases h

theorem of_ratedVoltage {text : String} {n : Nat} (h : ratedVoltage text = .ok n) :
    Encoding.readInt text = .ok (n : Int) ∧ n ≤ 240 := by
  have hlimit : Numeral.unsigned 16 < Numeral.int64Bound := by
    rw [Numeral.int64Bound_eq]
    decide
  unfold ratedVoltage at h
  split at h
  · next v hread =>
    split at h
    · next hmem =>
      obtain rfl := Except.ok.inj h
      refine ⟨Encoding.readInt_of_readNat hlimit hread, ?_⟩
      simp only [ratedVoltages, List.mem_cons, List.not_mem_nil, or_false] at hmem
      omega
    · cases h
  · cases h

/-- What is a number to the check is one to the encoding, which reads it more precisely. -/
theorem of_voltage {range : VoltageRange} {what text : String} {v : BinaryFloat}
    (h : voltage range what text = .ok v) :
    (BinaryFloat.read .double (Text.trim text.toList)).isSome := by
  unfold voltage at h
  split at h
  · next x hread =>
    rw [BinaryFloat.isSome_read .double .single, hread]
    rfl
  · cases h

theorem of_listed {allowed : List String} {what text : String} {v : Unit}
    (h : listed allowed what text = .ok v) : text ∈ allowed := by
  unfold listed at h
  split at h
  · next hmem => exact hmem
  · cases h

theorem isSome_read_threshold : ∀ text ∈ rechargeVoltages ++ redischargeVoltages,
    (BinaryFloat.read .double (Text.trim text.toList)).isSome := by
  decide +kernel

theorem of_solarId {text : String} {v : Unit} (h : solarId text = .ok v) :
    Numeric maxSolarIdDigits text := by
  unfold solarId at h
  split at h
  · next hnumeric => exact numeric_of_isNumeric hnumeric
  · cases h

end Check
end HybridInverter
