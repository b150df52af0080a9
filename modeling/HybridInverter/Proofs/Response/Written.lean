import HybridInverter.Proofs.Response.Token
import HybridInverter.Response.Basic

/-!
Lists as a device may write them: the values of a record in order, each as a token of its own. How
wide the numbers are, what stands behind a serial number and in a reserved token, whether further
tokens follow and whether a comma closes the list are matters of style.
-/
namespace HybridInverter

/-- What is free in the writing of a list. -/
structure Style where
  /-- The width to which zeros fill up the number at each place. -/
  width : Nat → Nat
  /-- What stands behind a serial number. -/
  filler : List Char := []
  /-- What stands in a token that means nothing. -/
  reserved : List Char := []
  /-- Tokens behind those that are known. -/
  surplus : List (List Char) := []
  /-- Whether a comma stands behind the last token. -/
  closed : Bool := false
  width_le : ∀ i, width i ≤ Token.maxSize
  filler_plain : ',' ∉ filler
  reserved_plain : ',' ∉ reserved
  surplus_plain : ∀ t ∈ surplus, ',' ∉ t

def Style.plain : Style where
  width _ := 0
  width_le _ := Nat.zero_le _
  filler_plain := List.not_mem_nil
  reserved_plain := List.not_mem_nil
  surplus_plain _ h := absurd h List.not_mem_nil

/-- Numbers of growing widths, zeros behind a serial number, a token too many and a comma. -/
def Style.growing : Style where
  width place := place % 10
  filler := "000000".toList
  surplus := ["x".toList]
  closed := true
  width_le place := Nat.le_trans (Nat.le_of_lt (Nat.mod_lt place (by decide))) (by decide)
  filler_plain := by decide
  reserved_plain := by decide
  surplus_plain := by decide

namespace Reading

def written (width : Nat) : Reading → List Char
  | .number n | .state n => Numeral.padded width n
  | .switch on => [if on then '1' else '0']
  | .text s => s.toList
  | .clock hour minute => Numeral.padded 2 hour ++ Numeral.padded 2 minute

/-- Values there are tokens for. -/
def Fits : Reading → Prop
  | .number n => -(int32Bound : Int) ≤ n ∧ n < int32Bound
  | .state n => -(Numeral.int64Bound : Int) < n ∧ n < Numeral.int64Bound
  | .switch _ => True
  | .text s => ',' ∉ s.toList
  | .clock hour minute => (0 ≤ hour ∧ hour ≤ 99) ∧ 0 ≤ minute ∧ minute ≤ 99

/-- A token is read as the value, where a text has room for itself. -/
def Stands (token : List Char) : Reading → Prop
  | .number n => Token.int token = n
  | .state n => leadingInt token = n
  | .switch on => Token.isOne token = on ∧ Token.isPositive token = on
  | .text s => ∀ most ≤ Token.maxSize, Utf8.size s.toList ≤ most → Token.text most token = s
  | .clock hour minute => TimeBucket.hour token = hour ∧ TimeBucket.minute token = minute

theorem state_of_number {n : Int} (h : Fits (.number n)) : Fits (.state n) := by
  have hbound : int32Bound < Numeral.int64Bound := by decide
  simp only [Fits] at h ⊢
  omega

theorem plain_written {v : Reading} (h : v.Fits) (width : Nat) : ',' ∉ v.written width := by
  have hpadded (width : Nat) (n : Int) : ',' ∉ Numeral.padded width n := fun hc => by
    rcases Numeral.mem_padded hc with hminus | hdigit
    · exact absurd hminus (by decide)
    · exact absurd hdigit (by decide)
  cases v with
  | number n | state n => exact hpadded width n
  | switch on => cases on <;> simp [written]
  | text s => exact h
  | clock hour minute =>
    rw [written, List.mem_append]
    exact not_or.mpr ⟨hpadded 2 hour, hpadded 2 minute⟩

theorem cut_padded {n : Int} (h : Fits (.state n)) {width : Nat} (hw : width ≤ Token.maxSize) :
    Token.cut (Numeral.padded width n) = Numeral.padded width n := by
  obtain ⟨hl, hu⟩ := h
  have hn : n.natAbs < 10 ^ (Token.maxSize - 1) := by
    have hbound : Numeral.int64Bound < 10 ^ (Token.maxSize - 1) := by decide
    omega
  refine Token.cut_of_size_le ?_
  rw [Numeral.size_padded]
  exact Numeral.length_padded_le hw hn (by decide)

theorem stands_clock {hour minute : Int} (h : Fits (.clock hour minute)) :
    Stands (Numeral.padded 2 hour ++ Numeral.padded 2 minute) (.clock hour minute) := by
  obtain ⟨⟨hhour, hhour'⟩, hminute, hminute'⟩ := h
  have hbound : 99 < Numeral.int64Bound := by decide
  have hsize {n : Int} (hl : 0 ≤ n) (hu : n ≤ 99) : Utf8.size (Numeral.padded 2 n) = 2 := by
    rw [Numeral.size_padded, Numeral.length_padded_two hl hu]
  have hfirst := Utf8.slice_append Utf8.size_nil (hsize hhour hhour') (Numeral.padded 2 minute)
  have hsecond := Utf8.slice_append (hsize hhour hhour') (hsize hminute hminute') []
  rw [List.nil_append] at hfirst
  rw [List.append_nil] at hsecond
  constructor
  · rw [TimeBucket.hour, hfirst, leadingInt_padded (by omega) (by omega)]
  · rw [TimeBucket.minute, hsecond, leadingInt_padded (by omega) (by omega)]

/-- A value is read back from its token. -/
theorem stands_written {v : Reading} (h : v.Fits) {width : Nat} (hw : width ≤ Token.maxSize) :
    v.Stands (Token.cut (v.written width)) := by
  cases v with
  | number n =>
    rw [Stands, written, cut_padded (state_of_number h) hw]
    exact Token.int_padded h.1 h.2 width
  | state n =>
    rw [Stands, written, cut_padded h hw]
    exact leadingInt_padded h.1 h.2 width
  | switch on => cases on <;> exact ⟨rfl, rfl⟩
  | text s =>
    intro most hmost hs
    rw [written, Token.cut_of_size_le (Nat.le_trans hs hmost), Token.text,
      Utf8.take_of_size_le hs, String.ofList_toList]
  | clock hour minute =>
    have hsize : Utf8.size (Numeral.padded 2 hour ++ Numeral.padded 2 minute) ≤ Token.maxSize := by
      obtain ⟨⟨hl, hu⟩, hl', hu'⟩ := h
      rw [Utf8.size_append, Numeral.size_padded, Numeral.size_padded,
        Numeral.length_padded_two hl hu, Numeral.length_padded_two hl' hu']
      decide
    rw [written, Token.cut_of_size_le hsize]
    exact stands_clock h

end Reading

namespace Style

def tokens (s : Style) (values : List Reading) : List (List Char) :=
  values.mapIdx fun place v => v.written (s.width place)

variable (s : Style) {values : List Reading} {v : Reading}

theorem plain_tokens (h : ∀ v ∈ values, v.Fits) : ∀ t ∈ s.tokens values, ',' ∉ t := by
  intro t ht
  obtain ⟨place, hplace, rfl⟩ := List.mem_mapIdx.mp ht
  exact Reading.plain_written (h _ (List.getElem_mem hplace)) _

theorem getElem?_tokens {place : Nat} (hv : values[place]? = some v) :
    (s.tokens values)[place]? = some (v.written (s.width place)) := by
  simp [tokens, List.getElem?_mapIdx, hv]

end Style

namespace Response

def query : Response → Query
  | .protocolId _ => .protocolId
  | .currentTime _ => .currentTime
  | .totalGenerated _ => .totalGenerated
  | .yearGenerated _ => .yearGenerated
  | .monthGenerated _ => .monthGenerated
  | .dayGenerated _ => .dayGenerated
  | .seriesNumber _ => .seriesNumber
  | .cpuVersion _ => .cpuVersion
  | .ratedInformation _ => .ratedInformation
  | .generalStatus _ => .generalStatus
  | .workingMode _ => .workingMode
  | .faultsWarnings _ => .faultsWarnings
  | .flags _ => .flags
  | .defaults _ => .defaults
  | .maxChargingCurrents _ => .maxChargingCurrents
  | .maxAcChargingCurrents _ => .maxAcChargingCurrents
  | .parallelRatedInformation _ => .parallelRatedInformation
  | .parallelGeneralStatus _ => .parallelGeneralStatus
  | .acChargeTime _ => .acChargeTime
  | .acSupplyTime _ => .acSupplyTime

/-- Lists, of values that their tokens have room for. -/
def Listed : Response → Prop
  | .cpuVersion v =>
    Utf8.size v.mainCpuVersion.toList ≤ 5 ∧ Utf8.size v.slave1CpuVersion.toList ≤ 5 ∧
      Utf8.size v.slave2CpuVersion.toList ≤ 5
  | .ratedInformation r => Utf8.size r.mppt.toList ≤ 1
  | .maxChargingCurrents amperes | .maxAcChargingCurrents amperes =>
    amperes ≠ [] ∧ amperes.length ≤ Selectable.maxValues
  | .parallelRatedInformation r =>
    r.serialNumberLength = Utf8.size r.serialNumber.toList ∧
      Utf8.size r.serialNumber.toList ≤ maxSerialSize
  | .generalStatus _ | .faultsWarnings _ | .flags _ | .defaults _ => True
  | .parallelGeneralStatus _ | .acChargeTime _ | .acSupplyTime _ => True
  | _ => False

def tokens (s : Style) (r : Response) : List (List Char) :=
  match r with
  | .parallelRatedInformation ratings => (s.tokens ratings.readings).modify 2 (· ++ s.filler)
  | .flags f => s.tokens f.readings ++ [s.reserved]
  | r => s.tokens r.readings

def written (s : Style) (r : Response) : List Char :=
  Token.joined s.closed (r.tokens s ++ if (layout? r.query).isSome then s.surplus else [])

end Response
end HybridInverter
