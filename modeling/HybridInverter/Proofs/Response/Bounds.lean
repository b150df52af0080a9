import HybridInverter.Proofs.List
import HybridInverter.Proofs.Response.Segment
import HybridInverter.Proofs.Response.Written

/-!
What a record can hold. However garbled its payload is, its numbers keep within their sizes, its
times have at most two digits, and its texts are stretches of the payload that are no longer than
the place for them.
-/
namespace HybridInverter

open Numeral

def splitSign : List Char → Bool × List Char
  | '-' :: rest => (true, rest)
  | '+' :: rest => (false, rest)
  | rest => (false, rest)

theorem splitSign_cases (text : List Char) :
    (splitSign text).1 = true ∧ text = '-' :: (splitSign text).2 ∨
      (splitSign text).1 = false ∧
        (text = '+' :: (splitSign text).2 ∨ text = (splitSign text).2) := by
  rw [splitSign.eq_def]
  split
  · exact .inl ⟨rfl, rfl⟩
  · exact .inr ⟨rfl, .inl rfl⟩
  · exact .inr ⟨rfl, .inr rfl⟩

theorem leadingInt_eq_splitSign (text : List Char) : leadingInt text =
    let p := splitSign (text.dropWhile fun c => c == ' ' || c == '\t')
    if p.1 then -min (value (p.2.takeWhile Char.isDigit) : Int) (int64Bound - 1)
    else min (value (p.2.takeWhile Char.isDigit) : Int) (int64Bound - 1) := rfl

/-- The number a text begins with is that of digits in it, or the opposite when a minus sign stands
in front of them. -/
theorem leadingInt_cases (text : List Char) : ∃ digits : List Char, (∀ c ∈ digits, c.isDigit) ∧
    (digits <:+: text ∧ leadingInt text = min (value digits : Int) (int64Bound - 1) ∨
      '-' :: digits <:+: text ∧ leadingInt text = -min (value digits : Int) (int64Bound - 1)) := by
  have hback : (text.dropWhile fun c => c == ' ' || c == '\t') <:+ text :=
    List.dropWhile_suffix _
  rw [leadingInt_eq_splitSign]
  generalize (text.dropWhile fun c => c == ' ' || c == '\t') = rest at hback ⊢
  have hfront : (splitSign rest).2.takeWhile Char.isDigit <+: (splitSign rest).2 :=
    List.takeWhile_prefix Char.isDigit
  refine ⟨(splitSign rest).2.takeWhile Char.isDigit, fun c hc => List.mem_takeWhile_imp hc, ?_⟩
  obtain ⟨hminus, hrest⟩ | ⟨hminus, hrest⟩ := splitSign_cases rest
  · have hsigned := (List.prefix_cons_inj '-').mpr hfront
    rw [← hrest] at hsigned
    exact .inr ⟨hsigned.isInfix.trans hback.isInfix, if_pos hminus⟩
  · have hsuffix : (splitSign rest).2 <:+ rest := by
      obtain h | h := hrest
      · exact ⟨['+'], h.symm⟩
      · exact ⟨[], h.symm⟩
    exact .inl ⟨(hfront.isInfix.trans hsuffix.isInfix).trans hback.isInfix,
      if_neg (by rw [hminus]; exact Bool.false_ne_true)⟩

theorem leadingInt_bounds (text : List Char) :
    -(int64Bound : Int) < leadingInt text ∧ leadingInt text < int64Bound := by
  have hbound : 0 < int64Bound := by decide
  obtain ⟨digits, -, ⟨-, h⟩ | ⟨-, h⟩⟩ := leadingInt_cases text <;> rw [h] <;> omega

theorem value_lt_of_size_le {digits : List Char} (hdigits : ∀ c ∈ digits, c.isDigit) {n : Nat}
    (h : Utf8.size digits ≤ n) : value digits < 10 ^ n := by
  rw [size_of_isDigit hdigits] at h
  exact Nat.lt_of_lt_of_le (value_lt hdigits) (Nat.pow_le_pow_right (by decide) h)

/-- So many bytes hold so many digits, or one fewer behind a sign. -/
theorem leadingInt_of_size_le {text : List Char} {n : Nat} (h : Utf8.size text ≤ n) :
    -(10 ^ (n - 1) : Nat) < leadingInt text ∧ leadingInt text < (10 ^ n : Nat) := by
  have hbound : 0 < int64Bound := by decide
  have hpow (k : Nat) : 0 < 10 ^ k := Nat.pow_pos (by decide)
  have hfewer := hpow (n - 1)
  have hmore := hpow n
  obtain ⟨digits, hdigits, ⟨hin, hint⟩ | ⟨hin, hint⟩⟩ := leadingInt_cases text
  · have hvalue := value_lt_of_size_le hdigits (Nat.le_trans (Utf8.size_le_of_isInfix hin) h)
    rw [hint]
    omega
  · have hsize := Nat.le_trans (Utf8.size_le_of_isInfix hin) h
    have hsign : '-'.utf8Size = 1 := rfl
    rw [Utf8.size_cons, hsign] at hsize
    have hvalue := value_lt_of_size_le hdigits (Nat.le_sub_of_add_le' hsize)
    rw [hint]
    omega

theorem clampInt32_bounds (n : Int) :
    -(int32Bound : Int) ≤ clampInt32 n ∧ clampInt32 n < int32Bound := by
  have hbound : 0 < int32Bound := by decide
  rw [clampInt32]
  omega

namespace TimeBucket

theorem hour_bounds (t : List Char) : -9 ≤ hour t ∧ hour t ≤ 99 := by
  have h := leadingInt_of_size_le (Utf8.slice_within 0 2 t).2
  rw [hour]
  omega

theorem minute_bounds (t : List Char) : -9 ≤ minute t ∧ minute t ≤ 99 := by
  have h := leadingInt_of_size_le (Utf8.slice_within 2 2 t).2
  rw [minute]
  omega

end TimeBucket

namespace Token

variable (payload : List Char)

theorem isInfix_of_mem_segments {s : List Char} (h : s ∈ segments payload) : s <:+: payload := by
  have hsplit {text : List Char} (hs : s ∈ text.splitOn ',') : s <:+: text := by
    have hjoined : [','].intercalate (text.splitOn ',') = text := List.intercalate_splitOn ','
    rw [← hjoined]
    exact Lists.isInfix_intercalate hs
  rw [segments] at h
  split at h
  · cases h
  split at h
  · exact (hsplit h).trans (List.dropLast_prefix payload).isInfix
  · exact hsplit h

theorem cut_isInfix (segment : List Char) : cut segment <:+: segment :=
  (Utf8.longestWithin_take maxSize segment).beginning.isInfix

theorem get_isInfix (place : Nat) : get payload place <:+: payload := by
  rw [get, List.getD_eq_getElem?_getD]
  cases hs : (segments payload)[place]? with
  | none => exact List.nil_infix
  | some s =>
    exact (cut_isInfix s).trans (isInfix_of_mem_segments payload (List.mem_of_getElem? hs))

theorem text_within (most : Nat) (t : List Char) :
    (text most t).toList <:+: t ∧ (text most t).utf8ByteSize ≤ most := by
  have hlongest := Utf8.longestWithin_take most t
  rw [Utf8.utf8ByteSize_eq_size, text, String.toList_ofList]
  exact ⟨hlongest.beginning.isInfix, hlongest.size_le⟩

end Token

/-- A value that fits its field and was there in the payload. -/
def Reading.Within (payload : List Char) : Reading → Prop
  | .number n => -(int32Bound : Int) ≤ n ∧ n < int32Bound
  | .state n => -(int64Bound : Int) < n ∧ n < int64Bound
  | .switch _ => True
  | .text s => s.toList <:+: payload
  | .clock hour minute => (-9 ≤ hour ∧ hour ≤ 99) ∧ -9 ≤ minute ∧ minute ≤ 99

theorem Rule.within_read (rule : Rule) (length : Int) {payload token : List Char}
    (h : token <:+: payload) : (rule.read length token).Within payload := by
  cases rule with
  | number => exact clampInt32_bounds _
  | state => exact leadingInt_bounds token
  | one | positive => trivial
  | text most => exact (Token.text_within most token).1.trans h
  | clock => exact ⟨TimeBucket.hour_bounds token, TimeBucket.minute_bounds token⟩
  | serial => exact (Token.text_within _ token).1.trans h

theorem Response.energy_bounds (payload : List Char) :
    -(int32Bound : Int) ≤ energy payload ∧ energy payload < int32Bound := by
  have h := leadingInt_of_size_le (Utf8.slice_within 0 8 payload).2
  have hbound : 10 ^ 8 < int32Bound := by decide
  have hbound' : 10 ^ (8 - 1) < int32Bound := by decide
  rw [energy]
  omega

namespace Response

/-- What the record of a reply can hold, whatever payload it was decoded from. -/
def WithinBounds (payload : List Char) : Response → Prop
  | .seriesNumber s => s.id.utf8ByteSize ≤ 31 ∧ (s.id.utf8ByteSize : Int) ≤ max s.length 0
  | .cpuVersion v => v.mainCpuVersion.utf8ByteSize ≤ 5 ∧ v.slave1CpuVersion.utf8ByteSize ≤ 5 ∧
      v.slave2CpuVersion.utf8ByteSize ≤ 5
  | .ratedInformation r => r.mppt.utf8ByteSize ≤ 1
  | .maxChargingCurrents amperes | .maxAcChargingCurrents amperes => amperes.length ≤ 32 ∧
      amperes = ((Token.all none payload).take 32).map fun t => Token.int t.2
  | .parallelRatedInformation r => r.serialNumber.utf8ByteSize ≤ 31 ∧
      (r.serialNumber.utf8ByteSize : Int) ≤ max r.serialNumberLength 0
  | .acChargeTime b | .acSupplyTime b => (-9 ≤ b.startHour ∧ b.startHour ≤ 99) ∧
      (-9 ≤ b.startMinute ∧ b.startMinute ≤ 99) ∧ (-9 ≤ b.endHour ∧ b.endHour ≤ 99) ∧
      -9 ≤ b.endMinute ∧ b.endMinute ≤ 99
  | _ => True

variable (payload : List Char)

theorem within_of_mem_readings (q : Query) :
    ∀ v ∈ (decode q payload).readings, v.Within payload := by
  intro v hv
  cases hl : layout? q with
  | some l =>
    obtain ⟨i, hi⟩ := List.mem_iff_getElem?.mp hv
    rw [readings_decode hl, Rule.getElem?_readAll] at hi
    obtain ⟨rule, -, rfl⟩ := Option.map_eq_some_iff.mp hi
    exact rule.within_read _ (Token.get_isInfix payload i)
  | none =>
    have hclamped (n : Int) : Reading.Within payload (.number (clampInt32 n)) :=
      clampInt32_bounds n
    cases q with
    | protocolId =>
      rw [List.mem_singleton.mp hv]
      exact hclamped _
    | currentTime =>
      simp only [decode, readings, CurrentTime.readings, List.mem_cons, List.not_mem_nil,
        or_false] at hv
      rcases hv with rfl | rfl | rfl | rfl | rfl | rfl <;> exact hclamped _
    | totalGenerated | yearGenerated | monthGenerated | dayGenerated =>
      rw [List.mem_singleton.mp hv]
      exact energy_bounds payload
    | seriesNumber =>
      simp only [decode, readings, SeriesNumber.readings, List.mem_cons, List.not_mem_nil,
        or_false] at hv
      rcases hv with rfl | rfl
      · exact hclamped _
      · rw [SeriesNumber.ofPayload, Reading.Within, String.toList_ofList]
        exact (Utf8.slice_within _ _ payload).1
    | workingMode =>
      have hbound : int32Bound < int64Bound := by decide
      have htwo := clampInt32_bounds (leadingInt (Utf8.slice 0 2 payload))
      rw [List.mem_singleton.mp hv]
      simp only [Reading.Within, twoDigits]
      omega
    | maxChargingCurrents | maxAcChargingCurrents =>
      simp only [decode, readings, Selectable.ofPayload, List.map_map, List.mem_map] at hv
      obtain ⟨s, -, rfl⟩ := hv
      exact hclamped _
    | cpuVersion | ratedInformation | generalStatus | faultsWarnings | flags | defaults
    | parallelRatedInformation | parallelGeneralStatus | acChargeTime | acSupplyTime => cases hl

theorem ofPayload_eq_ints :
    Selectable.ofPayload payload =
      ((Token.all none payload).take 32).map fun t => Token.int t.2 := by
  have hfst : (Token.segments payload).zipIdx.map Prod.fst = Token.segments payload :=
    List.zipIdx_map_fst 0 _
  have hall : (Token.all none payload).map (fun t => Token.int t.2) =
      (Token.segments payload).map fun s => Token.int (Token.cut s) := by
    have hexpected : ((Token.segments payload).zipIdx.filter fun s =>
        (none : Option Nat).all (s.2 < ·)) = (Token.segments payload).zipIdx :=
      List.filter_eq_self.mpr fun _ _ => rfl
    conv => rhs; rw [← hfst]
    rw [Token.all, hexpected, List.map_map, List.map_map]
    rfl
  rw [Selectable.ofPayload, List.map_take, List.map_take, hall]
  rfl

theorem withinBounds_decode (q : Query) : (decode q payload).WithinBounds payload := by
  -- the room for a serial number, in terms of the length in front of it
  have hroom {size : Nat} {length : Int} (h : size ≤ min length.toNat 31) :
      size ≤ 31 ∧ (size : Int) ≤ max length 0 := by omega
  cases q with
  | seriesNumber =>
    refine hroom ?_
    rw [SeriesNumber.ofPayload, Utf8.utf8ByteSize_ofList]
    exact (Utf8.slice_within 2 _ payload).2
  | cpuVersion =>
    exact ⟨(Token.text_within 5 _).2, (Token.text_within 5 _).2, (Token.text_within 5 _).2⟩
  | ratedInformation => exact (Token.text_within 1 _).2
  | maxChargingCurrents | maxAcChargingCurrents =>
    refine ⟨?_, ofPayload_eq_ints payload⟩
    rw [Selectable.ofPayload, List.length_map]
    exact List.length_take_le 32 _
  | parallelRatedInformation => exact hroom (Token.text_within _ (Token.get payload 2)).2
  | acChargeTime | acSupplyTime =>
    exact ⟨TimeBucket.hour_bounds _, TimeBucket.minute_bounds _, TimeBucket.hour_bounds _,
      TimeBucket.minute_bounds _⟩
  | protocolId | currentTime | totalGenerated | yearGenerated | monthGenerated | dayGenerated
  | generalStatus | workingMode | faultsWarnings | flags | defaults | parallelGeneralStatus =>
    trivial

end Response
end HybridInverter
