import HybridInverter.Proofs.Request.Build
import HybridInverter.Proofs.Request.Fit
import HybridInverter.Proofs.Response.Record
import HybridInverter.Proofs.Text.Slice
import HybridInverter.Record.Items

/-!
What has been set is what is read back. A device that answers a query with the payload of the
setting that belongs to it, the century in front of a date, is understood to say what was set.
-/
namespace HybridInverter

open Encoding
open Numeral (field)

namespace Check

end Check

theorem CurrentTime.ofPayload_append {y mo d h mi s : List Char} (hy : Utf8.size y = 4)
    (hmo : Utf8.size mo = 2) (hd : Utf8.size d = 2) (hh : Utf8.size h = 2)
    (hmi : Utf8.size mi = 2) (hs : Utf8.size s = 2) :
    ofPayload (y ++ (mo ++ (d ++ (h ++ (mi ++ s))))) =
      ⟨Token.int y, Token.int mo, Token.int d, Token.int h, Token.int mi, Token.int s⟩ := by
  have hyear := Utf8.slice_append Utf8.size_nil hy (mo ++ (d ++ (h ++ (mi ++ s))))
  have hmonth := Utf8.slice_append hy hmo (d ++ (h ++ (mi ++ s)))
  have hsize₂ : Utf8.size (y ++ mo) = 6 := by simp [hy, hmo]
  have hsize₃ : Utf8.size (y ++ mo ++ d) = 8 := by simp [hy, hmo, hd]
  have hsize₄ : Utf8.size (y ++ mo ++ d ++ h) = 10 := by simp [hy, hmo, hd, hh]
  have hsize₅ : Utf8.size (y ++ mo ++ d ++ h ++ mi) = 12 := by simp [hy, hmo, hd, hh, hmi]
  have hday := Utf8.slice_append hsize₂ hd (h ++ (mi ++ s))
  have hhour := Utf8.slice_append hsize₃ hh (mi ++ s)
  have hminute := Utf8.slice_append hsize₄ hmi s
  have hsecond := Utf8.slice_append hsize₅ hs []
  rw [List.nil_append] at hyear
  simp only [List.append_assoc] at hday hhour hminute hsecond
  rw [List.append_nil] at hsecond
  simp only [ofPayload, field, hyear, hmonth, hday, hhour, hminute, hsecond, Token.int]

theorem CurrentTime.int_year {n : Nat} (hl : 2000 ≤ n) (hu : n ≤ 2099) :
    Token.int ("20".toList ++ Numeral.padded 2 (n - 2000 : Nat)) = n := by
  have hdigits : ∀ c ∈ "20".toList ++ Numeral.padded 2 (n - 2000 : Nat), c.isDigit := by
    intro c hc
    rcases List.mem_append.mp hc with hcentury | hyear
    · have hall : "20".toList.all Char.isDigit = true := rfl
      exact List.all_eq_true.mp hall c hcentury
    · exact Numeral.isDigit_of_mem_padded hyear
  have hvalue : Numeral.value ("20".toList ++ Numeral.padded 2 (n - 2000 : Nat)) = n := by
    have hcentury : Numeral.value "20".toList = 20 := rfl
    rw [Numeral.value_append, Numeral.length_padded_two (by omega) (by omega), hcentury,
      Numeral.padded_natCast, Numeral.value_padZeros, Numeral.value_decimal]
    omega
  have hbound : 2099 < int32Bound := by decide
  have hbound' : int32Bound < Numeral.int64Bound := by decide
  rw [Token.int, leadingInt_of_isDigit hdigits, hvalue, Int.min_eq_left (by omega),
    clampInt32_of_mem (by omega) (by omega)]

theorem CurrentTime.ofPayload_padded {y mo d h mi s : Nat} (hl : 2000 ≤ y) (hu : y ≤ 2099)
    (hmo : mo < 100) (hd : d < 100) (hh : h < 100) (hmi : mi < 100) (hs : s < 100) :
    ofPayload (("20".toList ++ Numeral.padded 2 (y - 2000 : Nat)) ++ (Numeral.padded 2 mo ++
      (Numeral.padded 2 d ++ (Numeral.padded 2 h ++ (Numeral.padded 2 mi ++
        Numeral.padded 2 s))))) = ⟨y, mo, d, h, mi, s⟩ := by
  have hbound : 100 < int32Bound := by decide
  have hsize {n : Nat} (hn : n < 100) : Utf8.size (Numeral.padded 2 n) = 2 := by
    rw [Numeral.size_padded, Numeral.length_padded_two (by omega) (by omega)]
  have hint {n : Nat} (hn : n < 100) : Token.int (Numeral.padded 2 n) = n :=
    Token.int_padded (by omega) (by omega) 2
  have hcentury : Utf8.size ("20".toList ++ Numeral.padded 2 (y - 2000 : Nat)) = 4 := by
    rw [Utf8.size_append, hsize (by omega)]
    rfl
  rw [ofPayload_append hcentury (hsize hmo) (hsize hd) (hsize hh) (hsize hmi) (hsize hs),
    int_year hl hu, hint hmo, hint hd, hint hh, hint hmi, hint hs]

theorem SeriesNumber.ofPayload_append {id : List Char} {n : Nat} (hid : Utf8.size id = n)
    (hn : n ≤ maxSerialSize) (zeros : List Char) :
    ofPayload (Numeral.padded 2 n ++ id ++ zeros) = ⟨n, String.ofList id⟩ := by
  have hlength : Utf8.size (Numeral.padded 2 n) = 2 := by
    rw [Numeral.size_padded, Numeral.length_padded_two (by omega)]
    have : maxSerialSize = 31 := rfl
    omega
  have hfirst := Utf8.slice_append Utf8.size_nil hlength (id ++ zeros)
  have hsecond := Utf8.slice_append hlength hid zeros
  have hbound : maxSerialSize < int32Bound := by decide
  have hcount : clampInt32 (leadingInt (Numeral.padded 2 n)) = n :=
    Token.int_padded (by omega) (by omega) 2
  rw [List.nil_append] at hfirst
  rw [List.append_assoc]
  simp only [ofPayload, hfirst, hcount, Int.toNat_natCast, Nat.min_eq_left hn, hsecond]

/-- A reply with the payload of the setting's frame, and `front` before it, is read as `r`. -/
def ReadsBack (s : Setting) (args : List String) (front : String) (q : Query) (r : Response) :
    Prop :=
  ∃ payload, Command.build (.setting s) args = .ok (Command.frameOf (.setting s) payload) ∧
    Response.decode q (front ++ payload).toList = r

namespace ReadsBack

variable {s : Setting} {q : Query} {r : Response}

theorem of_spelled {args texts : List String} {front : String}
    (h : Demand.resolveAll s.demands args = .ok args)
    (hspelled : Spelled (Command.shape (.setting s)).encodings args texts)
    (hread : Response.decode q
      (front.toList ++ ((Command.shape (.setting s)).separator.intercalate texts).toList) = r) :
    ReadsBack s args front q r := by
  obtain ⟨-, -, hbuild⟩ := Command.build_of_spelled (c := .setting s) h hspelled
  exact ⟨_, hbuild, by rwa [String.toList_append]⟩

variable {y mo d h mi s : String} {now : List String} {accepted : Request}

/-- The six fields are written with two digits each, and the century is all that the year lacks. -/
theorem dateTime {v : Date} {w : Nat × Nat × Nat} (hdate : Check.date y mo d = .ok v)
    (hclock : Check.clock h mi s = .ok w) :
    ReadsBack .dateTime [y, mo, d, h, mi, s] "20" .currentTime
      (.currentTime ⟨v.year, v.month, v.day, w.1, w.2.1, w.2.2⟩) := by
  obtain ⟨hyear, hmonth, hday⟩ := Check.of_date hdate
  obtain ⟨⟨hh, hmi, hs⟩, rfl⟩ := Check.of_clock hclock
  have hspelled : Spelled (Command.shape (.setting .dateTime)).encodings [y, mo, d, h, mi, s]
      [field 2 (v.year - 2000 : Nat), field 2 v.month, field 2 v.day,
        field 2 (Numeral.value h.toList : Nat), field 2 (Numeral.value mi.toList : Nat),
        field 2 (Numeral.value s.toList : Nat)] :=
    .cons rfl (Check.encode_shortYear hyear) <| .cons rfl (Check.encode_month hmonth) <|
      .cons rfl (Check.encode_day hday) <| .cons rfl (Check.encode_two hh) <|
      .cons rfl (Check.encode_two hmi) <| .cons rfl (Check.encode_two hs) .nil
  have hresolve : Demand.resolveAll (Setting.demands .dateTime) [y, mo, d, h, mi, s] =
      .ok [y, mo, d, h, mi, s] :=
    Demand.resolveAll_cons_eq_self (Demand.keep_eq_self hdate)
      (Demand.resolveAll_cons_eq_self (Demand.keep_eq_self hclock) rfl)
  refine of_spelled hresolve hspelled ?_
  have hjoined (a b c d e f : String) :
      ((Command.shape (.setting .dateTime)).separator.intercalate [a, b, c, d, e, f]).toList =
        a.toList ++ (b.toList ++ (c.toList ++ (d.toList ++ (e.toList ++ f.toList)))) := by
    have hseparator : (Command.shape (.setting .dateTime)).separator = "" := rfl
    simp [hseparator]
  have hm := (Check.of_month hmonth).1.value_lt
  have hd := (Check.of_day hday).1.value_lt
  rw [← (Check.of_month hmonth).2] at hm
  rw [← (Check.of_day hday).2] at hd
  obtain ⟨-, -, -, hlow, hhigh⟩ := Check.of_year hyear
  simp only [hjoined, field, String.toList_ofList]
  rw [← List.append_assoc, Response.decode,
    CurrentTime.ofPayload_padded hlow hhigh hm hd hh.value_lt hmi.value_lt hs.value_lt]

theorem solarConfiguration {id : String} {v : Unit} (hid : Check.solarId id = .ok v) :
    ReadsBack .solarConfiguration [id] "" .seriesNumber
      (.seriesNumber ⟨id.toList.length, id⟩) := by
  have hspelled : Spelled (Command.shape (.setting .solarConfiguration)).encodings [id]
      [encodeSolarId id] := .cons rfl (fun _ => rfl) .nil
  have hresolve : Demand.resolveAll (Setting.demands .solarConfiguration) [id] = .ok [id] :=
    Demand.resolveAll_cons_eq_self (Demand.keep_eq_self hid) rfl
  have hnumeric := Check.of_solarId hid
  have hsize : Utf8.size id.toList = id.toList.length := Numeral.size_of_isDigit hnumeric.digits
  refine of_spelled hresolve hspelled ?_
  have hread := SeriesNumber.ofPayload_append hsize
    (Nat.le_trans hnumeric.length_le (by decide))
    (List.replicate (solarIdWidth - id.toList.length) '0')
  rw [← Check.encodeSolarId_of_solarId hid, String.ofList_toList] at hread
  simp [Command.shape, Command.joined, Response.decode, hread]

end ReadsBack

end HybridInverter
