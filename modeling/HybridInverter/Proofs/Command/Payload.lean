import HybridInverter.Command.Wire
import HybridInverter.Proofs.BinaryFloat
import HybridInverter.Proofs.Text.Numeral
import HybridInverter.Proofs.Text.Utf8
import Mathlib.Data.List.Forall2

/-!
What payloads look like. Each command whose arguments are not decimals has a payload of one form, a
range of characters at each place. An encoding whose argument is good writes its part of that form,
and parts that have been written make a payload that has it.
-/
namespace HybridInverter

structure CharRange where
  low : Char
  high : Char
  ascii : high.toNat < 0x80 := by decide

def CharRange.Holds (r : CharRange) (c : Char) : Prop :=
  r.low.toNat ≤ c.toNat ∧ c.toNat ≤ r.high.toNat

instance (r : CharRange) (c : Char) : Decidable (r.Holds c) :=
  inferInstanceAs (Decidable (_ ∧ _))

/-- A fixed width, and what may stand at each place. -/
abbrev Form : Type := List CharRange

namespace Form

def digits (n : Nat) : Form := List.replicate n { low := '0', high := '9' }
def between (low high : Char) (ascii : high.toNat < 0x80 := by decide) : Form :=
  [{ low, high, ascii }]
def comma : Form := between ',' ','
def bit : Form := between '0' '1'
def toggle : Form := between 'D' 'E' ++ between 'A' 'I'

def Matches (f : Form) (text : List Char) : Prop :=
  List.Forall₂ CharRange.Holds f text

theorem matches_digits {text : List Char} (h : ∀ c ∈ text, c.isDigit) :
    Matches (digits text.length) text := by
  induction text with
  | nil => exact .nil
  | cons c text ih =>
    obtain ⟨hc, htext⟩ := List.forall_mem_cons.mp h
    exact .cons (Numeral.toNat_of_isDigit hc) (ih htext)

theorem matches_padded {width n : Nat} (hw : 0 < width) (hn : n < 10 ^ width) :
    Matches (digits width) (Numeral.padded width (n : Int)) := by
  have hlen : (Numeral.padded width (n : Int)).length = width := by
    rw [Numeral.padded_natCast, Numeral.length_padZeros,
      Nat.max_eq_left (Numeral.length_decimal_le hw hn)]
  have hmatches := matches_digits fun _ (hc : _ ∈ Numeral.padded width (n : Int)) =>
    Numeral.isDigit_of_mem_padded hc
  rwa [hlen] at hmatches

theorem matches_zeros (n : Nat) : Matches (digits n) (List.replicate n '0') := by
  induction n with
  | zero => exact .nil
  | succ n ih => exact .cons (by decide) ih

theorem digits_add (m n : Nat) : digits (m + n) = digits m ++ digits n :=
  List.replicate_append_replicate.symm

theorem Matches.append {f g : Form} {a b : List Char} (hf : f.Matches a) (hg : g.Matches b) :
    Matches (f ++ g) (a ++ b) :=
  List.rel_append hf hg

theorem Matches.size_eq {f : Form} {text : List Char} (h : f.Matches text) :
    Utf8.size text = f.length := by
  have hascii : ∀ c ∈ text, c.toNat < 0x80 := by
    induction h with
    | nil => simp
    | @cons r c f text hc hrest ih =>
      exact List.forall_mem_cons.mpr ⟨Nat.lt_of_le_of_lt hc.2 r.ascii, ih⟩
  rw [Utf8.size_eq_length hascii, List.Forall₂.length_eq h]

end Form

open Form in
def Query.form : Query → Form
  | .yearGenerated => digits 4
  | .monthGenerated => digits 6
  | .dayGenerated => digits 8
  | .parallelRatedInformation | .parallelGeneralStatus => digits 1
  | _ => []

open Form in
/-- Settings with decimals have no fixed form. -/
def Setting.form : Setting → Option Form
  | .loads => some bit
  | .flag => some toggle
  | .defaults | .clearGenerated => some []
  | .maxChargeCurrent | .maxAcChargeCurrent => some (digits 1 ++ comma ++ digits 3)
  | .outputFrequency => some (digits 2)
  | .outputRatedVoltage => some (digits 4)
  | .outputSourcePriority | .solarPowerPriority => some (digits 1)
  | .inputVoltageRange | .batteryType => some (digits 1)
  | .chargingSourcePriority | .outputModel => some (digits 1 ++ comma ++ digits 1)
  | .solarConfiguration => some (digits 22)
  | .dateTime => some (digits 12)
  | .acChargeTime | .acSupplyTime => some (digits 4 ++ comma ++ digits 4)
  | .maxChargeVoltage | .chargingThresholds | .cutoffVoltage => none

def Command.form : Command → Option Form
  | .query q => some q.form
  | .setting s => s.form

def maxPartSize : Nat := 22

/-- One part of a payload: it has the form it should have, if there is one, and it is short. -/
structure IsPart (p : Option Form) (text : String) : Prop where
  has_form : ∀ f, p = some f → f.Matches text.toList
  short : Utf8.size text.toList ≤ maxPartSize

theorem isPart_of_matches {f : Form} {text : String} (h : f.Matches text.toList)
    (hlen : f.length ≤ maxPartSize) : IsPart (some f) text where
  has_form g hg := by
    obtain rfl := Option.some.inj hg
    exact h
  short := by rwa [h.size_eq]

theorem isPart_digits {n : Nat} {text : String} (hlen : text.toList.length = n)
    (h : ∀ c ∈ text.toList, c.isDigit) (hn : n ≤ maxPartSize) :
    IsPart (some (Form.digits n)) text := by
  subst hlen
  exact isPart_of_matches (Form.matches_digits h) (by rwa [Form.digits, List.length_replicate])

theorem size_intercalate_le (mark : List Char) {texts : List (List Char)} {most : Nat}
    (h : ∀ t ∈ texts, Utf8.size t ≤ most) :
    Utf8.size (List.intercalate mark texts) ≤ texts.length * (most + Utf8.size mark) := by
  induction texts with
  | nil => simp
  | cons t texts ih =>
    obtain ⟨ht, htexts⟩ := List.forall_mem_cons.mp h
    have hothers := ih htexts
    rw [List.length_cons, Nat.succ_mul]
    cases texts with
    | nil =>
      rw [List.intercalate_singleton]
      omega
    | cons t' texts =>
      rw [List.intercalate_cons_cons, Utf8.size_append, Utf8.size_append]
      omega

variable {texts : List String}

theorem size_le_of_mem {ps : List (Option Form)} (h : List.Forall₂ IsPart ps texts) :
    ∀ text ∈ texts, Utf8.size text.toList ≤ maxPartSize := by
  induction h with
  | nil => exact fun _ h => absurd h List.not_mem_nil
  | cons hpart _ ih => exact List.forall_mem_cons.mpr ⟨hpart.short, ih⟩

theorem size_payload_le {ps : List (Option Form)} (h : List.Forall₂ IsPart ps texts)
    (separator : String) :
    (separator.intercalate texts).utf8ByteSize ≤
      ps.length * (maxPartSize + separator.utf8ByteSize) := by
  have hsize : ∀ t ∈ texts.map String.toList, Utf8.size t ≤ maxPartSize := by
    simpa only [List.forall_mem_map] using size_le_of_mem h
  have hle := size_intercalate_le separator.toList hsize
  rw [List.length_map, ← h.length_eq] at hle
  rwa [Utf8.utf8ByteSize_eq_size, Utf8.utf8ByteSize_eq_size, String.toList_intercalate]

namespace Encoding

open Numeral (field)

/-- Arguments with the texts that become of them. Flags take two arguments, all others one, whatever
stands behind it. -/
inductive Spelled : List Encoding → List String → List String → Prop
  | nil : Spelled [] [] []
  | cons {e : Encoding} {arg text : String} {es : List Encoding} {args texts : List String}
      (harity : e.arity = 1) (hfirst : ∀ state, e.encode arg state = .ok text)
      (hrest : Spelled es args texts) : Spelled (e :: es) (arg :: args) (text :: texts)
  | toggle {flag state : String} {es : List Encoding} {args texts : List String}
      (hrest : Spelled es args texts) :
      Spelled (.toggle :: es) (flag :: state :: args) (encodeToggle flag state :: texts)

namespace Spelled

variable {es es' : List Encoding} {args args' texts texts' : List String}

theorem append (h : Spelled es args texts) (h' : Spelled es' args' texts') :
    Spelled (es ++ es') (args ++ args') (texts ++ texts') := by
  induction h with
  | nil => exact h'
  | cons harity hfirst _ ih => exact .cons harity hfirst ih
  | toggle _ ih => exact .toggle ih

theorem length_eq (h : Spelled es args texts) : texts.length = es.length := by
  induction h with
  | nil => rfl
  | cons _ _ _ ih | toggle _ ih => rw [List.length_cons, List.length_cons, ih]

/-- Nothing goes wrong when the arguments are encoded in turn, and none is left over. -/
theorem encodeEach (h : Spelled es args texts) :
    args.length = es.foldr (fun e n => e.arity + n) 0 ∧
      ArgumentShape.encodeEach es args = .ok texts := by
  induction h with
  | nil => exact ⟨rfl, rfl⟩
  | cons harity hfirst _ ih =>
    obtain ⟨hlen, hrest⟩ := ih
    refine ⟨?_, ?_⟩
    · rw [List.length_cons, List.foldr_cons, harity, hlen, Nat.add_comm]
    · simp only [ArgumentShape.encodeEach, List.getD_cons_zero, hfirst, harity,
        List.drop_succ_cons, List.drop_zero, hrest]
      rfl
  | toggle _ ih =>
    obtain ⟨hlen, hrest⟩ := ih
    refine ⟨?_, ?_⟩
    · simp only [List.length_cons, List.foldr_cons, hlen, arity]
      omega
    · simp only [ArgumentShape.encodeEach, List.getD_cons_zero, List.getD_cons_succ, arity,
        List.drop_succ_cons, List.drop_zero, hrest]
      rfl

end Spelled

/-- Whatever stands behind the argument, its encoding is a part of this form. -/
def Writes (e : Encoding) (arg : String) (p : Option Form) : Prop :=
  e.arity = 1 ∧ ∃ text, (∀ state, e.encode arg state = .ok text) ∧ IsPart p text

inductive WritesAll : List Encoding → List String → List (Option Form) → Prop
  | nil : WritesAll [] [] []
  | cons {e : Encoding} {arg : String} {p : Option Form} {es : List Encoding} {args : List String}
      {ps : List (Option Form)} (hfirst : e.Writes arg p) (hrest : WritesAll es args ps) :
      WritesAll (e :: es) (arg :: args) (p :: ps)
  | toggle {flag state : String} {p : Option Form} {es : List Encoding} {args : List String}
      {ps : List (Option Form)} (hfirst : IsPart p (encodeToggle flag state))
      (hrest : WritesAll es args ps) :
      WritesAll (.toggle :: es) (flag :: state :: args) (p :: ps)

theorem WritesAll.append {es es' : List Encoding} {args args' : List String}
    {ps ps' : List (Option Form)} (h : WritesAll es args ps) (h' : WritesAll es' args' ps') :
    WritesAll (es ++ es') (args ++ args') (ps ++ ps') := by
  induction h with
  | nil => exact h'
  | cons hfirst _ ih => exact .cons hfirst ih
  | toggle hfirst _ ih => exact .toggle hfirst ih

theorem WritesAll.spelled {es : List Encoding} {args : List String} {ps : List (Option Form)}
    (h : WritesAll es args ps) : ∃ texts, Spelled es args texts ∧ List.Forall₂ IsPart ps texts := by
  induction h with
  | nil => exact ⟨[], .nil, .nil⟩
  | cons hfirst _ ih =>
    obtain ⟨harity, text, hencode, hpart⟩ := hfirst
    obtain ⟨texts, hspelled, hparts⟩ := ih
    exact ⟨text :: texts, .cons harity hencode hspelled, .cons hpart hparts⟩
  | toggle hfirst _ ih =>
    obtain ⟨texts, hspelled, hparts⟩ := ih
    exact ⟨_ :: texts, .toggle hspelled, .cons hfirst hparts⟩

theorem WritesAll.encodeEach {es : List Encoding} {args : List String} {ps : List (Option Form)}
    (h : WritesAll es args ps) :
    args.length = es.foldr (fun e n => e.arity + n) 0 ∧
      ∃ texts, ArgumentShape.encodeEach es args = .ok texts ∧ List.Forall₂ IsPart ps texts := by
  obtain ⟨texts, hspelled, hparts⟩ := h.spelled
  obtain ⟨hlength, htexts⟩ := hspelled.encodeEach
  exact ⟨hlength, texts, htexts, hparts⟩

theorem matches_padded {width n : Nat} (hw : 0 < width) (hn : n < 10 ^ width) :
    (Form.digits width).Matches (field width (n : Int)).toList := by
  rw [field, String.toList_ofList]
  exact Form.matches_padded hw hn

theorem isPart_padded {width n : Nat} (hw : 0 < width) (hn : n < 10 ^ width)
    (hmost : width ≤ maxPartSize) :
    IsPart (some (Form.digits width)) (field width (n : Int)) :=
  isPart_of_matches (matches_padded hw hn) (by rwa [Form.digits, List.length_replicate])

theorem inRange_natCast {n : Nat} (hn : n < Numeral.int64Bound) (text : String) :
    inRange text (n : Int) = .ok (n : Int) := by
  have hfits : fitsInt64 (n : Int) = true := by
    simp only [fitsInt64, Bool.and_eq_true, decide_eq_true_eq]
    omega
  simp [inRange, hfits]

theorem encode_int {arg : String} {n : Int} (hread : readInt arg = .ok n) (width : Nat)
    (state : String) : encode (.int width) arg state = .ok (field width n) := by
  rw [encode, hread]
  rfl

theorem writes_int {arg : String} {width n : Nat} (hread : readInt arg = .ok (n : Int))
    (hw : 0 < width) (hn : n < 10 ^ width) (hmost : width ≤ maxPartSize) :
    (Encoding.int width).Writes arg (some (Form.digits width)) :=
  ⟨rfl, _, encode_int hread width, isPart_padded hw hn hmost⟩

theorem encode_number {arg : String} {n : Int} (hread : readInt arg = .ok n) (state : String) :
    encode .number arg state = .ok (field 0 n) := by
  rw [encode, hread]
  rfl

theorem writes_number {arg : String} {n : Nat} (hread : readInt arg = .ok (n : Int))
    (hn : n < 10) : Encoding.number.Writes arg (some (Form.digits 1)) := by
  refine ⟨rfl, _, encode_number hread, isPart_digits ?_ ?_ (by decide)⟩
  · simp [field, Numeral.length_decimal_eq_one hn]
  · intro c hc
    simp only [field, String.toList_ofList, Numeral.padded_natCast, Numeral.padZeros_zero] at hc
    exact Numeral.isDigit_of_mem_decimal hc

theorem encode_timesTen {arg : String} {n : Nat} (hread : readInt arg = .ok (n : Int))
    (hbound : n * 10 < Numeral.int64Bound) (width : Nat) (state : String) :
    encode (.timesTen width) arg state = .ok (field width (n * 10 : Nat)) := by
  have hscaled : (n : Int) * 10 = ((n * 10 : Nat) : Int) := by omega
  have hencode : encode (.timesTen width) arg state = (readInt arg).bind fun m =>
      (inRange arg (m * 10)).bind fun m => .ok (field width m) := rfl
  rw [hencode, hread, Except.bind, hscaled, inRange_natCast hbound, Except.bind]

theorem writes_timesTen {arg : String} {width n : Nat} (hread : readInt arg = .ok (n : Int))
    (hw : 0 < width) (hn : n * 10 < 10 ^ width) (hbound : n * 10 < Numeral.int64Bound)
    (hmost : width ≤ maxPartSize) :
    (Encoding.timesTen width).Writes arg (some (Form.digits width)) :=
  ⟨rfl, _, encode_timesTen hread hbound width, isPart_padded hw hn hmost⟩

theorem encode_yearFrom2000 {arg : String} {n : Nat} (hread : readInt arg = .ok (n : Int))
    (hlow : 2000 ≤ n) (hhigh : n ≤ 2099) (state : String) :
    encode .yearFrom2000 arg state = .ok (field 2 (n - 2000 : Nat)) := by
  have hsub : (n : Int) - 2000 = ((n - 2000 : Nat) : Int) := by omega
  have hbound : n - 2000 < Numeral.int64Bound := by
    rw [Numeral.int64Bound_eq]
    omega
  have hencode : encode .yearFrom2000 arg state = (readInt arg).bind fun m =>
      (inRange arg (m - 2000)).bind fun m => .ok (field 2 m) := rfl
  rw [hencode, hread, Except.bind, hsub, inRange_natCast hbound, Except.bind]

theorem writes_yearFrom2000 {arg : String} {n : Nat} (hread : readInt arg = .ok (n : Int))
    (hlow : 2000 ≤ n) (hhigh : n ≤ 2099) :
    Encoding.yearFrom2000.Writes arg (some (Form.digits 2)) :=
  ⟨rfl, _, encode_yearFrom2000 hread hlow hhigh,
    isPart_padded (n := n - 2000) (by decide) (by omega) (by decide)⟩

theorem size_padded_le {width : Nat} {n : Int} (hmost : width ≤ maxPartSize)
    (hn : n.natAbs ≤ Numeral.int64Bound) : Utf8.size (field width n).toList ≤ maxPartSize := by
  have hbound : Numeral.int64Bound < 10 ^ (maxPartSize - 1) := by decide
  rw [field, String.toList_ofList, Numeral.size_padded]
  exact Numeral.length_padded_le hmost (Nat.lt_of_le_of_lt hn hbound) (by decide)

/-- Whatever number a decimal is, its tenths are a number of 64 bits. -/
theorem writes_tenths {arg : String} {width : Nat} (hmost : width ≤ maxPartSize)
    (hread : (BinaryFloat.read .double (Text.trim arg.toList)).isSome) :
    (Encoding.tenths width).Writes arg none := by
  obtain ⟨x, hx⟩ := Option.isSome_iff_exists.mp hread
  have hbounds := BinaryFloat.toInt64_bounds
    ((BinaryFloat.mul .double x (.ofInt .double 10)).round .double)
  refine ⟨rfl, _, fun _ => by rw [encode, readTenths, hx]; rfl, ?_, ?_⟩
  · intro f hf
    cases hf
  · exact size_padded_le hmost (by omega)

theorem encode_time {arg : String} {before behind : List Char} {hour minute : Int}
    (hcut : Text.cutFirst ':' arg.toList = some (before, behind))
    (hhour : readInt (String.ofList before) = .ok hour)
    (hminute : readInt (String.ofList behind) = .ok minute) (state : String) :
    encode .time arg state = .ok (field 2 hour ++ field 2 minute) := by
  simp only [encode, encodeTime, hcut, hhour, hminute, Bind.bind, Except.bind]
  rfl

theorem writes_time {arg : String} {before behind : List Char} {hour minute : Nat}
    (hcut : Text.cutFirst ':' arg.toList = some (before, behind))
    (hhour : readInt (String.ofList before) = .ok (hour : Int)) (hh : hour < 100)
    (hminute : readInt (String.ofList behind) = .ok (minute : Int)) (hm : minute < 100) :
    Encoding.time.Writes arg (some (Form.digits 4)) := by
  refine ⟨rfl, _, encode_time hcut hhour hminute, isPart_of_matches ?_ (by decide)⟩
  rw [String.toList_append, Form.digits_add 2 2]
  exact (matches_padded (by decide) (by omega)).append (matches_padded (by decide) (by omega))

theorem matches_solarId {arg : String} (h : ∀ c ∈ arg.toList, c.isDigit)
    (hlen : arg.toList.length ≤ solarIdWidth) :
    (Form.digits (2 + arg.toList.length)).Matches
      (Numeral.padded 2 (arg.toList.length : Nat) ++ arg.toList) := by
  have hwidth : solarIdWidth = 20 := rfl
  rw [Form.digits_add]
  exact (Form.matches_padded (by decide) (by omega)).append (Form.matches_digits h)

/-- The size of the id fits two digits, and zeros make up for what it is short of twenty. -/
theorem encodeSolarId_eq {arg : String} (h : ∀ c ∈ arg.toList, c.isDigit)
    (hlen : arg.toList.length ≤ solarIdWidth) :
    (encodeSolarId arg).toList = Numeral.padded 2 (arg.toList.length : Nat) ++ arg.toList ++
      List.replicate (solarIdWidth - arg.toList.length) '0' := by
  have hsize : Utf8.size arg.toList = arg.toList.length := Numeral.size_of_isDigit h
  have hmissing : solarIdWidth + 2 - (2 + arg.toList.length) =
      solarIdWidth - arg.toList.length := by omega
  simp only [encodeSolarId, hsize, (matches_solarId h hlen).size_eq, String.toList_ofList,
    Form.digits, List.length_replicate, hmissing]

theorem writes_solarId {arg : String} (h : ∀ c ∈ arg.toList, c.isDigit)
    (hlen : arg.toList.length ≤ solarIdWidth) :
    Encoding.solarId.Writes arg (some (Form.digits 22)) := by
  have hall : 22 = 2 + arg.toList.length + (solarIdWidth - arg.toList.length) := by
    have hwidth : solarIdWidth = 20 := rfl
    omega
  refine ⟨rfl, _, fun _ => rfl, isPart_of_matches ?_ (by decide)⟩
  rw [hall, Form.digits_add, encodeSolarId_eq h hlen]
  exact (matches_solarId h hlen).append (Form.matches_zeros _)

theorem writes_raw {arg : String} {p : Option Form} (h : IsPart p arg) :
    Encoding.raw.Writes arg p :=
  ⟨rfl, arg, fun _ => rfl, h⟩

theorem writes_char {arg : String} {c : Char} (harg : arg.toList = [c]) (hc : c.isDigit) :
    Encoding.char.Writes arg (some (Form.digits 1)) := by
  refine ⟨rfl, String.singleton c, fun _ => by simp [encode, harg], ?_⟩
  exact isPart_digits (by simp) (by simpa using hc) (by decide)

end Encoding
end HybridInverter
