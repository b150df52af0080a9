import HybridInverter.Proofs.BinaryFloat
import HybridInverter.Proofs.Command.Declared
import HybridInverter.Proofs.Outcome
import HybridInverter.Proofs.Request.Check
import HybridInverter.Proofs.Text.Numeral
import HybridInverter.Proofs.Text.Slice

/-!
Numbers in frames. An argument that an encoding reads as a number is written as the number that it
denotes, if that fits 64 bits, and is refused otherwise. Decimals are the exception: every one is
written, and one that is no number, not finite or too large is written as zero or as a bound.
-/
namespace HybridInverter

namespace Encoding

open Numeral (FitsInt64 field)

/-- A text stands for a number of 64 bits, blanks around it apart. -/
def Means (text : String) (n : Int) : Prop :=
  Numeral.Denotes (Text.trim text.toList) n ∧ FitsInt64 n

def isNumeric : Encoding → Bool
  | .raw | .char | .toggle | .solarId => false
  | _ => true

theorem readInt_eq_ok_iff {text : String} {n : Int} : readInt text = .ok n ↔ Means text n := by
  rw [Means, ← Numeral.readInt64_eq_ok_iff, readInt]
  cases Numeral.readInt64 (Text.trim text.toList) <;> simp

theorem inRange_eq_ok_iff {text : String} {n m : Int} :
    inRange text n = .ok m ↔ FitsInt64 n ∧ m = n := by
  simp only [inRange, fitsInt64, FitsInt64, Bool.and_eq_true, decide_eq_true_eq]
  split
  · next h => simp [h, eq_comm]
  · next h => simp [h]

/-- What is written for a text that denotes a number: the number, ten times it, its tenths or its
distance from 2000, each a number of 64 bits; of a time, the hour and the minute. -/
inductive Denoted : Encoding → String → String → Prop
  | number {text : String} {n : Int} (h : Means text n) : Denoted .number text (field 0 n)
  | int {width : Nat} {text : String} {n : Int} (h : Means text n) :
      Denoted (.int width) text (field width n)
  | timesTen {width : Nat} {text : String} {n : Int} (h : Means text n)
      (hfits : FitsInt64 (n * 10)) : Denoted (.timesTen width) text (field width (n * 10))
  | tenths {width : Nat} {text : String} {s : Bool} {m : Nat} {e n : Int}
      (h : BinaryFloat.read .double (Text.trim text.toList) = some (.finite s m e))
      (htenths : (BinaryFloat.tenths (.finite s m e)).toInt? = some n) (hfits : FitsInt64 n) :
      Denoted (.tenths width) text (field width n)
  | yearFrom2000 {text : String} {n : Int} (h : Means text n) (hfits : FitsInt64 (n - 2000)) :
      Denoted .yearFrom2000 text (field 2 (n - 2000))
  | time {text : String} {front back : List Char} {hour minute : Int}
      (htext : text.toList = front ++ ':' :: back) (hfirst : ':' ∉ front)
      (hhour : Means (String.ofList front) hour) (hminute : Means (String.ofList back) minute) :
      Denoted .time text (field 2 hour ++ field 2 minute)

/-- What is written for a decimal all the same: zero for one that is no number, and the bound of its
sign for one that is not finite or whose tenths are no number of 64 bits. -/
inductive Saturated : Encoding → String → String → Prop
  | nan {width : Nat} {text : String}
      (h : BinaryFloat.read .double (Text.trim text.toList) = some .nan) :
      Saturated (.tenths width) text (field width 0)
  | infinite {width : Nat} {text : String} {s : Bool}
      (h : BinaryFloat.read .double (Text.trim text.toList) = some (.infinite s)) :
      Saturated (.tenths width) text (field width (BinaryFloat.int64End s))
  | large {width : Nat} {text : String} {s : Bool} {m : Nat} {e : Int}
      (h : BinaryFloat.read .double (Text.trim text.toList) = some (.finite s m e))
      (hlarge : ∀ n, (BinaryFloat.tenths (.finite s m e)).toInt? = some n → ¬ FitsInt64 n) :
      Saturated (.tenths width) text (field width (BinaryFloat.int64End s))

variable {e : Encoding} {text state written : String}

theorem encode_tenths_eq_ok_iff {width : Nat} : encode (.tenths width) text state = .ok written ↔
    ∃ x, BinaryFloat.read .double (Text.trim text.toList) = some x ∧
      written = field width x.tenths.toInt64 := by
  rw [encode, map_eq_ok_iff, readTenths]
  cases BinaryFloat.read .double (Text.trim text.toList) with
  | none => simp
  | some x => simp [BinaryFloat.tenths]

/-- Tenths that are no number of 64 bits are too large for the format as well, or for 64 bits. -/
theorem toInt64_tenths_of_large {s : Bool} {m : Nat} {e : Int}
    (h : ∀ n, (BinaryFloat.tenths (.finite s m e)).toInt? = some n → ¬ FitsInt64 n) :
    (BinaryFloat.tenths (.finite s m e)).toInt64 = BinaryFloat.int64End s := by
  obtain hinfinite | ⟨m', e', n, htenths, hn⟩ := BinaryFloat.tenths_finite s m e
  · rw [hinfinite]
    rfl
  · rw [htenths] at h ⊢
    have hout := h n hn
    rw [FitsInt64] at hout
    exact BinaryFloat.toInt64_of_not_fits hn (by omega)

theorem encode_tenths_iff {width : Nat} : encode (.tenths width) text state = .ok written ↔
    Denoted (.tenths width) text written ∨ Saturated (.tenths width) text written := by
  rw [encode_tenths_eq_ok_iff]
  constructor
  · rintro ⟨x, hread, rfl⟩
    cases x with
    | nan => exact .inr (.nan hread)
    | infinite s =>
      rw [BinaryFloat.tenths_infinite]
      exact .inr (.infinite hread)
    | finite s m e =>
      by_cases hwhole : ∃ n, (BinaryFloat.tenths (.finite s m e)).toInt? = some n ∧ FitsInt64 n
      · obtain ⟨n, hn, hfits⟩ := hwhole
        rw [BinaryFloat.toInt64_of_fits hn hfits.1 hfits.2]
        exact .inl (.tenths hread hn hfits)
      · have hlarge := fun n hn hfits => hwhole ⟨n, hn, hfits⟩
        rw [toInt64_tenths_of_large hlarge]
        exact .inr (.large hread hlarge)
  · rintro (h | h)
    · cases h with
      | tenths hread htenths hfits =>
        exact ⟨_, hread, by rw [BinaryFloat.toInt64_of_fits htenths hfits.1 hfits.2]⟩
    · cases h with
      | nan hread => exact ⟨_, hread, rfl⟩
      | infinite hread => exact ⟨_, hread, by rw [BinaryFloat.tenths_infinite]; rfl⟩
      | large hread hlarge => exact ⟨_, hread, by rw [toInt64_tenths_of_large hlarge]⟩

theorem Saturated.not_denoted {other : String} (h : Saturated e text written) :
    ¬ Denoted e text other := by
  intro hdenoted
  cases hdenoted with
  | tenths hread htenths hfits =>
    cases h with
    | nan hread' | infinite hread' => cases hread.symm.trans hread'
    | large hread' hlarge =>
      cases hread.symm.trans hread'
      exact hlarge _ htenths hfits
  | _ => cases h

theorem Saturated.eq_tenths (h : Saturated e text written) : ∃ width, e = .tenths width := by
  cases h <;> exact ⟨_, rfl⟩

theorem readInt_map_eq_ok_iff {width : Nat} : (readInt text).map (field width) = .ok written ↔
    ∃ n, Means text n ∧ written = field width n := by
  simp only [map_eq_ok_iff, readInt_eq_ok_iff]

theorem readInt_inRange_eq_ok_iff {width : Nat} (f : Int → Int) :
    (do
      let n ← readInt text
      let n ← inRange text (f n)
      return field width n) = Except.ok written ↔
      ∃ n, Means text n ∧ FitsInt64 (f n) ∧ written = field width (f n) := by
  simp only [bind_eq_ok_iff, readInt_eq_ok_iff, inRange_eq_ok_iff, pure, Except.pure,
    Except.ok.injEq]
  constructor
  · rintro ⟨n, hn, _, ⟨hfits, rfl⟩, rfl⟩
    exact ⟨n, hn, hfits, rfl⟩
  · rintro ⟨n, hn, hfits, rfl⟩
    exact ⟨n, hn, f n, ⟨hfits, rfl⟩, rfl⟩

theorem encode_time_iff : encode .time text state = .ok written ↔ Denoted .time text written := by
  constructor
  · intro h
    rw [encode, encodeTime] at h
    split at h
    · cases h
    · next front back hcut =>
      obtain ⟨htext, hfirst⟩ := Text.eq_append_of_cutFirst hcut
      obtain ⟨hour, hhour, h⟩ := bind_eq_ok_iff.mp h
      obtain ⟨minute, hminute, h⟩ := bind_eq_ok_iff.mp h
      obtain rfl := Except.ok.inj h
      exact .time htext hfirst (readInt_eq_ok_iff.mp hhour) (readInt_eq_ok_iff.mp hminute)
  · intro h
    cases h with
    | time htext hfirst hhour hminute =>
      exact encode_time (by rw [htext, Text.cutFirst_append hfirst])
        (readInt_eq_ok_iff.mpr hhour) (readInt_eq_ok_iff.mpr hminute) state

theorem encode_whole_eq_ok_iff (hnumeric : e.isNumeric) (hwhole : ∀ width, e ≠ .tenths width) :
    e.encode text state = .ok written ↔ Denoted e text written := by
  cases e with
  | raw | char | toggle | solarId => cases hnumeric
  | tenths width => exact absurd rfl (hwhole width)
  | time => exact encode_time_iff
  | number =>
    rw [encode, readInt_map_eq_ok_iff]
    constructor
    · rintro ⟨n, hn, rfl⟩
      exact .number hn
    · intro h
      cases h with
      | number hn => exact ⟨_, hn, rfl⟩
  | int width =>
    rw [encode, readInt_map_eq_ok_iff]
    constructor
    · rintro ⟨n, hn, rfl⟩
      exact .int hn
    · intro h
      cases h with
      | int hn => exact ⟨_, hn, rfl⟩
  | timesTen width =>
    rw [encode, readInt_inRange_eq_ok_iff (· * 10)]
    constructor
    · rintro ⟨n, hn, hfits, rfl⟩
      exact .timesTen hn hfits
    · intro h
      cases h with
      | timesTen hn hfits => exact ⟨_, hn, hfits, rfl⟩
  | yearFrom2000 =>
    rw [encode, readInt_inRange_eq_ok_iff (· - 2000)]
    constructor
    · rintro ⟨n, hn, hfits, rfl⟩
      exact .yearFrom2000 hn hfits
    · intro h
      cases h with
      | yearFrom2000 hn hfits => exact ⟨_, hn, hfits, rfl⟩

/-- Of a text that an encoding reads as a number, what it denotes is written, or for a decimal what
is written in its place, and nothing else. -/
theorem encode_eq_ok_iff (hnumeric : e.isNumeric) : e.encode text state = .ok written ↔
    Denoted e text written ∨ Saturated e text written := by
  by_cases hdecimal : ∃ width, e = .tenths width
  · obtain ⟨width, rfl⟩ := hdecimal
    exact encode_tenths_iff
  · rw [or_iff_left fun h : Saturated e text written => hdecimal h.eq_tenths]
    exact encode_whole_eq_ok_iff hnumeric fun width he => hdecimal ⟨width, he⟩

end Encoding

namespace ArgumentShape

theorem encodeEach_append {es es' : List Encoding} {args parts : List String} :
    encodeEach (es ++ es') args = .ok parts ↔
      ∃ front back, encodeEach es args = .ok front ∧
        encodeEach es' (args.drop (es.foldr (fun e n => e.arity + n) 0)) = .ok back ∧
        parts = front ++ back := by
  induction es generalizing args parts with
  | nil => simp [encodeEach, eq_comm]
  | cons e es ih =>
    simp only [List.cons_append, encodeEach, bind_eq_ok_iff, ih, List.foldr_cons, List.drop_drop,
      pure, Except.pure, Except.ok.injEq]
    constructor
    · rintro ⟨first, hfirst, _, ⟨front, back, hfront, hback, rfl⟩, rfl⟩
      exact ⟨first :: front, back, ⟨first, hfirst, front, hfront, rfl⟩, hback, rfl⟩
    · rintro ⟨_, back, ⟨first, hfirst, front, hfront, rfl⟩, hback, rfl⟩
      exact ⟨first, hfirst, front ++ back, ⟨front, back, hfront, hback, rfl⟩, rfl⟩

theorem length_encodeEach {es : List Encoding} {args parts : List String}
    (h : encodeEach es args = .ok parts) : parts.length = es.length := by
  induction es generalizing args parts with
  | nil =>
    obtain rfl := Except.ok.inj h
    rfl
  | cons e es ih =>
    obtain ⟨first, -, h⟩ := bind_eq_ok_iff.mp h
    obtain ⟨others, hothers, h⟩ := bind_eq_ok_iff.mp h
    obtain rfl := Except.ok.inj h
    rw [List.length_cons, List.length_cons, ih hothers]

end ArgumentShape

namespace Command

open Encoding

variable {c : Command} {args : List String} {before behind : List Encoding} {e : Encoding}
  {text : String}

theorem exists_of_build {frame : String} (h : c.build args = .ok frame) :
    ∃ parts, ArgumentShape.encodeEach c.shape.encodings args = .ok parts ∧
      frame = c.frameOf (c.shape.separator.intercalate parts) := by
  cases hencode : c.shape.encode args with
  | error fault =>
    rw [build_of_error hencode] at h
    cases h
  | ok payload =>
    rw [build_of_ok hencode] at h
    split at h
    · cases h
    · rw [ArgumentShape.encode] at hencode
      split at hencode
      · cases hencode
      · obtain ⟨parts, hparts, rfl⟩ := map_eq_ok_iff.mp hencode
        exact ⟨parts, hparts, (Except.ok.inj h).symm⟩

theorem exists_fault_of_not_built (h : ∀ frame, c.build args ≠ .ok frame) :
    ∃ fault, c.build args = .error (.argument fault) := by
  cases hencode : c.shape.encode args with
  | error fault => exact ⟨fault, build_of_error hencode⟩
  | ok payload =>
    have hbuild := build_of_ok hencode
    by_cases hlong : maxLength < c.wireLength payload
    · exact ⟨_, hbuild.trans (if_pos hlong)⟩
    · exact absurd (hbuild.trans (if_neg hlong)) (h _)

theorem exists_part_of_build (he : c.shape.encodings = before ++ e :: behind)
    (htext : args[ArgumentShape.arity { encodings := before }]? = some text) {frame : String}
    (h : c.build args = .ok frame) :
    ∃ front written back state, front.length = before.length ∧
      frame = c.frameOf (c.shape.separator.intercalate (front ++ written :: back)) ∧
      e.encode text state = .ok written := by
  obtain ⟨parts, hparts, rfl⟩ := exists_of_build h
  rw [he, ArgumentShape.encodeEach_append] at hparts
  obtain ⟨front, _, hfront, hrest, rfl⟩ := hparts
  obtain ⟨written, hwritten, hrest⟩ := bind_eq_ok_iff.mp hrest
  obtain ⟨back, -, hrest⟩ := bind_eq_ok_iff.mp hrest
  obtain rfl := Except.ok.inj hrest
  have hat : (args.drop (before.foldr (fun e n => e.arity + n) 0)).getD 0 "" = text := by
    rw [List.getD_eq_getElem?_getD, List.getElem?_drop, Nat.add_zero]
    exact congrArg (Option.getD · "") htext
  rw [hat] at hwritten
  exact ⟨front, written, back, _, ArgumentShape.length_encodeEach hfront, rfl, hwritten⟩

/-- Of an argument that is read as a number, a frame holds what the text denotes, and there is no
frame when it denotes none that fits. Decimals alone are written all the same. -/
theorem numbers_denoted_unless_saturated
    (he : c.shape.encodings = before ++ e :: behind) (hnumeric : e.isNumeric)
    (htext : args[ArgumentShape.arity { encodings := before }]? = some text) :
    (∀ state written, e.encode text state = .ok written ↔
        Denoted e text written ∨ Saturated e text written) ∧
      (∀ frame, c.build args = .ok frame → ∃ front written back, front.length = before.length ∧
        frame = c.frameOf (c.shape.separator.intercalate (front ++ written :: back)) ∧
        (Denoted e text written ∨ Saturated e text written)) ∧
      ((∀ written, ¬ Denoted e text written ∧ ¬ Saturated e text written) →
        ∃ fault, c.build args = .error (.argument fault)) ∧
      ∀ written, Saturated e text written →
        (∃ width, e = .tenths width) ∧ ∀ other, ¬ Denoted e text other := by
  have hframe : ∀ frame, c.build args = .ok frame → ∃ front written back,
      front.length = before.length ∧
      frame = c.frameOf (c.shape.separator.intercalate (front ++ written :: back)) ∧
      (Denoted e text written ∨ Saturated e text written) := by
    intro frame hbuild
    obtain ⟨front, written, back, state, hfront, hframe, hwritten⟩ :=
      exists_part_of_build he htext hbuild
    exact ⟨front, written, back, hfront, hframe, (encode_eq_ok_iff hnumeric).mp hwritten⟩
  refine ⟨fun _ _ => encode_eq_ok_iff hnumeric, hframe, fun hnone => ?_, fun written h =>
    ⟨h.eq_tenths, fun _ => h.not_denoted⟩⟩
  refine exists_fault_of_not_built fun frame hbuild => ?_
  obtain ⟨-, written, -, -, -, hwritten⟩ := hframe frame hbuild
  exact not_or.mpr (hnone written) hwritten

/-- No voltage is that high, and the frame says another number. -/
theorem numbers_denoted_unless_saturated_voltage :
    (Command.setting .cutoffVoltage).build ["1e30"] = .ok "^S026PSDV9223372036854775807" ∧
      Saturated (.tenths 3) "1e30" "9223372036854775807" ∧
      ∀ other, ¬ Denoted (.tenths 3) "1e30" other := by
  have hread : BinaryFloat.read .double (Text.trim "1e30".toList) =
      some (.finite false 7105427357601002 47) := by
    decide +kernel
  have htenths : (BinaryFloat.tenths (.finite false 7105427357601002 47)).toInt? =
      some 9999999999999999635896294965248 := by
    decide +kernel
  have hlarge : Saturated (.tenths 3) "1e30" "9223372036854775807" :=
    .large hread fun n hn hfits => by
      obtain rfl := Option.some.inj (htenths.symm.trans hn)
      exact absurd hfits.2 (by decide)
  have hplace : (Command.setting .cutoffVoltage).shape.encodings = [] ++ .tenths 3 :: [] := rfl
  have hargument : ["1e30"][ArgumentShape.arity { encodings := [] }]? = some "1e30" := rfl
  exact ⟨by decide +kernel, hlarge,
    ((numbers_denoted_unless_saturated hplace rfl hargument).2.2.2 _ hlarge).2⟩

end Command
end HybridInverter
