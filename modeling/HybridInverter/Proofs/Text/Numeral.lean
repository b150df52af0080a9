import HybridInverter.Proofs.Text.Utf8
import HybridInverter.Text.Numeral
import Mathlib.Algebra.Group.Nat.Defs
import Mathlib.Data.List.Forall2
import Mathlib.Data.Nat.Digits.Defs

/-!
Numbers read back: the digits written for a number have its value, however many zeros stand in
front of them, and a bound on the number bounds their count. Reading accepts the digits of a number
within its limit and nothing else, with the sign that it may have, so what is read without a sign is
read alike with one. What digits spell to a base is said apart from how they are read.
-/
namespace HybridInverter

namespace Numeral

theorem valueFrom_eq_ofDigitChars (before : Nat) (digits : List Char) :
    valueFrom before digits = Nat.ofDigitChars 10 digits before := by
  simp only [valueFrom, Nat.ofDigitChars_eq_foldl, digitValue, Nat.mul_comm]

@[simp] theorem value_decimal (n : Nat) : value (decimal n) = n := by
  rw [value, valueFrom_eq_ofDigitChars, decimal, Nat.ofDigitChars_ten_toDigits]

@[simp] theorem value_padZeros (width : Nat) (digits : List Char) :
    value (padZeros width digits) = value digits := by
  simp only [value, valueFrom_eq_ofDigitChars, padZeros, Nat.ofDigitChars_append,
    Nat.ofDigitChars_replicate_zero, Nat.mul_zero]

theorem value_append (front back : List Char) :
    value (front ++ back) = 10 ^ back.length * value front + value back := by
  simp only [value, valueFrom_eq_ofDigitChars, Nat.ofDigitChars_append]
  rw [Nat.ofDigitChars_eq_ofDigitChars_zero]

theorem isDigit_of_mem_decimal {n : Nat} {c : Char} (h : c ∈ decimal n) : c.isDigit :=
  Nat.isDigit_of_mem_toDigits (by decide) (by decide) h

theorem isDigit_of_mem_padZeros {width : Nat} {digits : List Char} {c : Char}
    (hd : ∀ d ∈ digits, d.isDigit) (h : c ∈ padZeros width digits) : c.isDigit := by
  rcases List.mem_append.mp h with hz | hc
  · rw [List.eq_of_mem_replicate hz]
    rfl
  · exact hd c hc

@[simp] theorem length_padZeros (width : Nat) (digits : List Char) :
    (padZeros width digits).length = max width digits.length := by
  simp only [padZeros, List.length_append, List.length_replicate]
  omega

theorem length_decimal_le {n width : Nat} (hw : 0 < width) (h : n < 10 ^ width) :
    (decimal n).length ≤ width :=
  (Nat.length_toDigits_le_iff (by decide) hw).mpr h

theorem decimal_ne_nil (n : Nat) : decimal n ≠ [] :=
  Nat.toDigits_ne_nil

theorem length_decimal_eq_one {n : Nat} (h : n < 10) : (decimal n).length = 1 := by
  have hle : (decimal n).length ≤ 1 := length_decimal_le (by decide) (by simpa using h)
  have hpos := List.length_pos_iff.mpr (decimal_ne_nil n)
  omega

@[simp] theorem padded_natCast (width n : Nat) :
    padded width (n : Int) = padZeros width (decimal n) := by
  have hn : ¬ (n : Int) < 0 := by omega
  simp [padded, hn]

theorem isDigit_of_mem_padded {width n : Nat} {c : Char} (h : c ∈ padded width (n : Int)) :
    c.isDigit := by
  rw [padded_natCast] at h
  exact isDigit_of_mem_padZeros (fun _ => isDigit_of_mem_decimal) h

theorem mem_padded {width : Nat} {n : Int} {c : Char} (h : c ∈ padded width n) :
    c = '-' ∨ c.isDigit := by
  have hdigits {width : Nat} (hc : c ∈ padZeros width (decimal n.natAbs)) : c.isDigit :=
    isDigit_of_mem_padZeros (fun _ => isDigit_of_mem_decimal) hc
  by_cases hn : n < 0
  · rw [padded, if_pos hn] at h
    exact (List.mem_cons.mp h).imp_right hdigits
  · rw [padded, if_neg hn] at h
    exact .inr (hdigits h)

theorem padded_ne_nil (width : Nat) (n : Int) : padded width n ≠ [] := by
  by_cases hn : n < 0 <;> simp [padded, padZeros, decimal_ne_nil, hn]

theorem length_padded_le {width most : Nat} {n : Int} (hw : width ≤ most)
    (hn : n.natAbs < 10 ^ (most - 1)) (hmost : 1 < most) : (padded width n).length ≤ most := by
  have hdecimal : (decimal n.natAbs).length ≤ most - 1 := length_decimal_le (by omega) hn
  rw [padded]
  split
  · rw [List.length_cons, length_padZeros]
    omega
  · rw [length_padZeros]
    omega

theorem length_padded_two {n : Int} (hl : 0 ≤ n) (hu : n ≤ 99) : (padded 2 n).length = 2 := by
  obtain ⟨n, rfl⟩ := Int.eq_ofNat_of_zero_le hl
  have hdecimal : (decimal n).length ≤ 2 := length_decimal_le (by decide) (by omega)
  rw [padded_natCast, length_padZeros]
  omega

theorem int64Bound_eq : int64Bound = 9223372036854775808 := rfl

theorem toNat_of_isDigit {c : Char} (h : c.isDigit) : 0x30 ≤ c.toNat ∧ c.toNat ≤ 0x39 :=
  Char.isDigit_iff_toNat.mp h

theorem size_of_isDigit {digits : List Char} (h : ∀ c ∈ digits, c.isDigit) :
    Utf8.size digits = digits.length :=
  Utf8.size_eq_length fun c hc => Nat.lt_of_le_of_lt (toNat_of_isDigit (h c hc)).2 (by decide)

theorem size_padded (width : Nat) (n : Int) :
    Utf8.size (padded width n) = (padded width n).length := by
  refine Utf8.size_eq_length fun c hc => ?_
  rcases mem_padded hc with rfl | hdigit
  · decide
  · exact Nat.lt_of_le_of_lt (toNat_of_isDigit hdigit).2 (by decide)

theorem digitValue_lt {c : Char} (h : c.isDigit) : digitValue c < 10 := by
  have hc := toNat_of_isDigit h
  have hzero : '0'.toNat = 0x30 := rfl
  rw [digitValue, hzero]
  omega

theorem valueFrom_cons (before : Nat) (c : Char) (digits : List Char) :
    valueFrom before (c :: digits) = valueFrom (before * 10 + digitValue c) digits := by
  simp only [valueFrom, List.foldl_cons]

theorem le_valueFrom (before : Nat) (digits : List Char) : before ≤ valueFrom before digits := by
  induction digits generalizing before with
  | nil => exact Nat.le_refl before
  | cons c digits ih =>
    have h := ih (before * 10 + digitValue c)
    rw [valueFrom_cons]
    omega

theorem valueFrom_lt (before : Nat) {digits : List Char} (h : ∀ c ∈ digits, c.isDigit) :
    valueFrom before digits < (before + 1) * 10 ^ digits.length := by
  induction digits generalizing before with
  | nil => simp [valueFrom]
  | cons c digits ih =>
    obtain ⟨hc, hdigits⟩ := List.forall_mem_cons.mp h
    have hd := digitValue_lt hc
    calc valueFrom before (c :: digits)
        < (before * 10 + digitValue c + 1) * 10 ^ digits.length := ih _ hdigits
      _ ≤ (before + 1) * 10 * 10 ^ digits.length := Nat.mul_le_mul_right _ (by omega)
      _ = (before + 1) * 10 ^ (c :: digits).length := by
        rw [List.length_cons, Nat.pow_succ', Nat.mul_assoc]

theorem value_lt {digits : List Char} (h : ∀ c ∈ digits, c.isDigit) :
    value digits < 10 ^ digits.length := by
  simpa [value] using valueFrom_lt 0 h

theorem readFrom_eq_ok_iff {limit before n : Nat} (hb : before ≤ limit) {digits : List Char} :
    readFrom limit before digits = .ok n ↔
      (∀ c ∈ digits, c.isDigit) ∧ valueFrom before digits = n ∧ n ≤ limit := by
  induction digits generalizing before with
  | nil =>
    simp only [readFrom, Except.ok.injEq, List.not_mem_nil, false_implies, implies_true, true_and]
    exact ⟨fun h => ⟨h, h ▸ hb⟩, And.left⟩
  | cons c digits ih =>
    rw [valueFrom_cons]
    by_cases hc : c.isDigit
    · by_cases hl : limit < before * 10 + digitValue c
      · have hv := le_valueFrom (before * 10 + digitValue c) digits
        simp only [readFrom, hc, hl, Bool.not_true, Bool.false_eq_true, if_false, if_true,
          reduceCtorEq, false_iff]
        omega
      · simp [readFrom, hc, hl, ih (Nat.not_lt.mp hl)]
    · simp [readFrom, hc]

theorem readDigits_eq_ok_iff {limit n : Nat} {digits : List Char} :
    readDigits limit digits = .ok n ↔
      digits ≠ [] ∧ (∀ c ∈ digits, c.isDigit) ∧ value digits = n ∧ n ≤ limit := by
  cases digits with
  | nil => simp [readDigits]
  | cons c digits =>
    have hread : readDigits limit (c :: digits) = readFrom limit 0 (c :: digits) := by
      simp [readDigits]
    rw [hread, readFrom_eq_ok_iff (Nat.zero_le limit), value]
    simp

theorem readDigits_mono {limit limit' n : Nat} (hl : limit ≤ limit') {digits : List Char}
    (h : readDigits limit digits = .ok n) : readDigits limit' digits = .ok n := by
  obtain ⟨hne, hdigits, hvalue, hn⟩ := readDigits_eq_ok_iff.mp h
  exact readDigits_eq_ok_iff.mpr ⟨hne, hdigits, hvalue, Nat.le_trans hn hl⟩

theorem readNat_cons_of_ne {limit : Nat} {c : Char} (h : c ≠ '+') (text : List Char) :
    readNat limit (c :: text) = readDigits limit (c :: text) := by
  unfold readNat
  split <;> simp_all

theorem readInt64_cons_of_ne {c : Char} (hminus : c ≠ '-') (hplus : c ≠ '+') (text : List Char) :
    readInt64 (c :: text) = (readDigits (int64Bound - 1) (c :: text)).map fun n => (n : Int) := by
  unfold readInt64
  split <;> simp_all

theorem readNat_of_isDigit {limit : Nat} {digits : List Char} (hne : digits ≠ [])
    (h : ∀ c ∈ digits, c.isDigit) (hl : value digits ≤ limit) :
    readNat limit digits = .ok (value digits) := by
  obtain ⟨c, rest, rfl⟩ := List.exists_cons_of_ne_nil hne
  have hc : c ≠ '+' := by
    rintro rfl
    exact absurd (h '+' List.mem_cons_self) (by decide)
  rw [readNat_cons_of_ne hc]
  exact readDigits_eq_ok_iff.mpr ⟨hne, h, rfl, hl⟩

/-- A number is read back, however many zeros stand in front of it. -/
theorem readNat_padded {n limit : Nat} (h : n ≤ limit) (width : Nat) :
    readNat limit (padded width n) = .ok n := by
  have hvalue : value (padded width n) = n := by simp
  rw [readNat_of_isDigit (padded_ne_nil _ _) (fun _ => isDigit_of_mem_padded) (by rwa [hvalue]),
    hvalue]

/-- What is read as an unsigned number of less than 64 bits is read as the same signed one. -/
theorem readInt64_of_readNat {limit n : Nat} (hl : limit < int64Bound) {text : List Char}
    (h : readNat limit text = .ok n) : readInt64 text = .ok (n : Int) := by
  have hle : limit ≤ int64Bound - 1 := by omega
  cases text with
  | nil => simp [readNat] at h
  | cons c text =>
    by_cases hplus : c = '+'
    · subst hplus
      have hread : readDigits (int64Bound - 1) text = .ok n := readDigits_mono hle h
      simp only [readInt64, hread]
      rfl
    · rw [readNat_cons_of_ne hplus] at h
      have hminus : c ≠ '-' := by
        rintro rfl
        exact absurd ((readDigits_eq_ok_iff.mp h).2.1 '-' List.mem_cons_self) (by decide)
      rw [readInt64_cons_of_ne hminus hplus, readDigits_mono hle h]
      rfl

theorem hexDigit?_of_le {c : Char} (h : 128 ≤ c.toNat) : hexDigit? c = none := by
  have hle {c' : Char} (hc' : c'.toNat < 128) : ¬ c ≤ c' := by
    intro hc
    have hnat : c.toNat ≤ c'.toNat := hc
    omega
  have h9 : ¬ c ≤ '9' := hle (by decide)
  have hf : ¬ c ≤ 'f' := hle (by decide)
  have hF : ¬ c ≤ 'F' := hle (by decide)
  simp [hexDigit?, h9, hf, hF]

theorem toLower_of_le {c : Char} (h : 128 ≤ c.toNat) : c.toLower = c := by
  have hZ : ¬ c.val ≤ 'Z'.val := by
    intro hc
    have hnat : c.toNat ≤ 'Z'.toNat := hc
    have hcode : 'Z'.toNat = 90 := rfl
    omega
  exact dif_neg fun hc => hZ hc.2

theorem hexDigit?_eq_some_iff {c : Char} {d : Nat} :
    hexDigit? c = some d ↔ d < 16 ∧ c.toLower = d.digitChar := by
  by_cases hc : c.toNat < 128
  · have hall : ∀ k < 128, (hexDigit? (Char.ofNat k)).all (· < 16) ∧ ∀ d < 16,
        (hexDigit? (Char.ofNat k) = some d ↔ (Char.ofNat k).toLower = d.digitChar) := by
      decide +kernel
    obtain ⟨hlt, hiff⟩ := hall c.toNat hc
    rw [Char.ofNat_toNat] at hlt hiff
    constructor
    · intro h
      have hd : d < 16 := by simpa [h] using hlt
      exact ⟨hd, (hiff d hd).mp h⟩
    · rintro ⟨hd, h⟩
      exact (hiff d hd).mpr h
  · have hle := Nat.not_lt.mp hc
    have hchar : ∀ d < 16, d.digitChar.toNat < 128 := by decide
    rw [hexDigit?_of_le hle, toLower_of_le hle]
    simp only [reduceCtorEq, false_iff, not_and]
    rintro hd rfl
    exact hc (hchar d hd)

theorem hexDigit?_digitChar {d : Nat} (h : d < 16) : hexDigit? d.digitChar = some d := by
  have hall : ∀ d < 16, d.digitChar.toLower = d.digitChar := by decide
  exact hexDigit?_eq_some_iff.mpr ⟨h, hall d h⟩

theorem hexValue_concat {digits : List Char} {c : Char} {n d : Nat}
    (hdigits : hexValue digits = some n) (hc : hexDigit? c = some d) :
    hexValue (digits ++ [c]) = some (n * 16 + d) := by
  rw [hexValue] at hdigits
  simp [hexValue, List.foldlM_append, hdigits, hc]

theorem hexValue_toDigits (n : Nat) : hexValue (Nat.toDigits 16 n) = some n := by
  induction n using Nat.strongRecOn with
  | ind n ih =>
    by_cases hn : n < 16
    · rw [Nat.toDigits_of_lt_base hn]
      simp [hexValue, hexDigit?_digitChar hn]
    · have hlast : n % 16 < 16 := Nat.mod_lt n (by decide)
      rw [Nat.toDigits_of_base_le (by decide) (Nat.not_lt.mp hn),
        hexValue_concat (ih (n / 16) (by omega)) (hexDigit?_digitChar hlast), Nat.div_add_mod']

theorem hexValue_zeros_append (zeros : Nat) (digits : List Char) :
    hexValue (List.replicate zeros '0' ++ digits) = hexValue digits := by
  induction zeros with
  | zero => rfl
  | succ zeros ih =>
    rw [← ih]
    rfl

theorem hexValue_hex (width n : Nat) : hexValue (hex width n) = some n := by
  rw [hex, padZeros, hexValue_zeros_append, hexValue_toDigits]

theorem length_hex {width n : Nat} (hwidth : 0 < width) (h : n < 16 ^ width) :
    (hex width n).length = width := by
  have hdigits : (Nat.toDigits 16 n).length ≤ width :=
    (Nat.length_toDigits_le_iff (by decide) hwidth).mpr h
  rw [hex, length_padZeros]
  omega

theorem isSome_hexDigit?_of_hexValue {digits : List Char} {n : Nat}
    (h : hexValue digits = some n) : ∀ c ∈ digits, (hexDigit? c).isSome := by
  have hfrom : ∀ before, (digits.foldlM (fun n c => (hexDigit? c).map (n * 16 + ·)) before) =
      some n → ∀ c ∈ digits, (hexDigit? c).isSome := by
    clear h
    induction digits with
    | nil => simp
    | cons c digits ih =>
      intro before h
      obtain ⟨after, hc, hdigits⟩ := Option.bind_eq_some_iff.mp h
      obtain ⟨d, hd, -⟩ := Option.map_eq_some_iff.mp hc
      exact List.forall_mem_cons.mpr ⟨by rw [hd]; rfl, ih after hdigits⟩
  exact hfrom 0 h

theorem not_mem_hex (width n : Nat) {c : Char} (hc : hexDigit? c = none) : c ∉ hex width n := by
  intro hmem
  have hdigit := isSome_hexDigit?_of_hexValue (hexValue_hex width n) c hmem
  rw [hc] at hdigit
  exact absurd hdigit (by decide)

/-- Digits to a base, in capitals or not, that spell a number. -/
def Spells (base : Nat) (digits : List Char) (n : Nat) : Prop :=
  digits ≠ [] ∧ ∃ ds, List.Forall₂ (fun c d => d < base ∧ c.toLower = d.digitChar) digits ds ∧
    Nat.ofDigits base ds.reverse = n

def push (base before : Nat) (c : Char) : Option Nat :=
  ((hexDigit? c).filter (· < base)).map (before * base + ·)

theorem push_eq_some_iff {base before n : Nat} {c : Char} (hbase : base ≤ 16) :
    push base before c = some n ↔
      ∃ d, (d < base ∧ c.toLower = d.digitChar) ∧ before * base + d = n := by
  simp only [push, Option.map_eq_some_iff, Option.filter_eq_some_iff, hexDigit?_eq_some_iff,
    decide_eq_true_eq]
  constructor
  · rintro ⟨d, ⟨⟨-, hd⟩, hlt⟩, hn⟩
    exact ⟨d, ⟨hlt, hd⟩, hn⟩
  · rintro ⟨d, ⟨hlt, hd⟩, hn⟩
    exact ⟨d, ⟨⟨by omega, hd⟩, hlt⟩, hn⟩

theorem foldlM_push_eq_some_iff {base before n : Nat} {digits : List Char} (hbase : base ≤ 16) :
    digits.foldlM (push base) before = some n ↔
      ∃ ds, List.Forall₂ (fun c d => d < base ∧ c.toLower = d.digitChar) digits ds ∧
        before * base ^ ds.length + Nat.ofDigits base ds.reverse = n := by
  induction digits generalizing before with
  | nil => simp
  | cons c digits ih =>
    have hpush (d : Nat) (ds : List Nat) :
        (before * base + d) * base ^ ds.length + Nat.ofDigits base ds.reverse =
          before * base ^ (d :: ds).length + Nat.ofDigits base (d :: ds).reverse := by
      rw [List.reverse_cons, Nat.ofDigits_append, Nat.ofDigits_singleton, List.length_reverse,
        List.length_cons, Nat.add_mul, Nat.pow_succ', Nat.mul_assoc, Nat.mul_comm d, Nat.add_assoc,
        Nat.add_comm (Nat.ofDigits base ds.reverse)]
    rw [List.foldlM_cons, Option.bind_eq_bind, Option.bind_eq_some_iff]
    simp only [push_eq_some_iff hbase, ih, List.forall₂_cons_left_iff]
    constructor
    · rintro ⟨_, ⟨d, hd, rfl⟩, ds, hds, hn⟩
      exact ⟨d :: ds, ⟨d, ds, hd, hds, rfl⟩, by rw [← hpush, hn]⟩
    · rintro ⟨_, ⟨d, ds, hd, hds, rfl⟩, hn⟩
      exact ⟨_, ⟨d, hd, rfl⟩, ds, hds, by rw [hpush, hn]⟩

theorem spells_iff {base n : Nat} {digits : List Char} (hbase : base ≤ 16) :
    Spells base digits n ↔ digits ≠ [] ∧ digits.foldlM (push base) 0 = some n := by
  rw [Spells, foldlM_push_eq_some_iff hbase]
  simp

theorem push_ten (before : Nat) (c : Char) :
    push 10 before c = if c.isDigit then some (before * 10 + digitValue c) else none := by
  have hdigit : (hexDigit? c).filter (· < 10) = if c.isDigit then some (digitValue c) else none := by
    by_cases hc : c.toNat < 128
    · have hall : ∀ k < 128, (hexDigit? (Char.ofNat k)).filter (· < 10) =
          if (Char.ofNat k).isDigit then some (digitValue (Char.ofNat k)) else none := by
        decide +kernel
      simpa using hall c.toNat hc
    · have hdigit : c.isDigit = false := by
        by_contra h
        have hrange := toNat_of_isDigit (Bool.of_not_eq_false h)
        omega
      simp [hexDigit?_of_le (Nat.not_lt.mp hc), hdigit]
  rw [push, hdigit]
  split <;> rfl

/-- To base ten they are what is read as a number. -/
theorem spells_ten_iff {n : Nat} {digits : List Char} : Spells 10 digits n ↔
    digits ≠ [] ∧ (∀ c ∈ digits, c.isDigit) ∧ value digits = n := by
  have hfrom (before : Nat) : digits.foldlM (push 10) before = some n ↔
      (∀ c ∈ digits, c.isDigit) ∧ valueFrom before digits = n := by
    induction digits generalizing before with
    | nil => simp [valueFrom]
    | cons c digits ih =>
      rw [List.foldlM_cons, push_ten, valueFrom_cons]
      by_cases hc : c.isDigit <;> simp [hc, ih]
  rw [spells_iff (by decide), hfrom, value]

theorem of_readNat {limit n : Nat} {text : List Char} (h : readNat limit text = .ok n) :
    n ≤ limit ∧ ∃ digits, (text = digits ∨ text = '+' :: digits) ∧ Spells 10 digits n := by
  cases text with
  | nil => simp [readNat] at h
  | cons c text =>
    by_cases hplus : c = '+'
    · subst hplus
      obtain ⟨hne, hdigits, hvalue, hn⟩ := readDigits_eq_ok_iff.mp h
      exact ⟨hn, text, .inr rfl, spells_ten_iff.mpr ⟨hne, hdigits, hvalue⟩⟩
    · rw [readNat_cons_of_ne hplus] at h
      obtain ⟨hne, hdigits, hvalue, hn⟩ := readDigits_eq_ok_iff.mp h
      exact ⟨hn, c :: text, .inl rfl, spells_ten_iff.mpr ⟨hne, hdigits, hvalue⟩⟩

/-- Digits, behind a sign or none, stand for their value with that sign. -/
def Denotes (text : List Char) (n : Int) : Prop :=
  ∃ digits : List Char, digits ≠ [] ∧ (∀ d ∈ digits, d.isDigit) ∧
    (text = '-' :: digits ∧ n = -(value digits : Int) ∨
      (text = '+' :: digits ∨ text = digits) ∧ n = value digits)

def FitsInt64 (n : Int) : Prop :=
  -(int64Bound : Int) ≤ n ∧ n < int64Bound

theorem not_isDigit_cons {c : Char} (hc : c.isDigit = false) {rest digits : List Char}
    (h : ∀ d ∈ digits, d.isDigit) : c :: rest ≠ digits := by
  rintro rfl
  exact absurd (h c List.mem_cons_self) (by simp [hc])

theorem denotes_minus_iff {rest : List Char} {n : Int} : Denotes ('-' :: rest) n ↔
    rest ≠ [] ∧ (∀ d ∈ rest, d.isDigit) ∧ n = -(value rest : Int) := by
  constructor
  · rintro ⟨digits, hne, hdigits, ⟨htext, rfl⟩ | ⟨htext | htext, -⟩⟩
    · obtain rfl := (List.cons.inj htext).2
      exact ⟨hne, hdigits, rfl⟩
    · exact absurd (List.cons.inj htext).1 (by decide)
    · exact absurd htext (not_isDigit_cons rfl hdigits)
  · rintro ⟨hne, hdigits, rfl⟩
    exact ⟨rest, hne, hdigits, .inl ⟨rfl, rfl⟩⟩

theorem denotes_plus_iff {rest : List Char} {n : Int} : Denotes ('+' :: rest) n ↔
    rest ≠ [] ∧ (∀ d ∈ rest, d.isDigit) ∧ n = value rest := by
  constructor
  · rintro ⟨digits, hne, hdigits, ⟨htext, -⟩ | ⟨htext | htext, rfl⟩⟩
    · exact absurd (List.cons.inj htext).1 (by decide)
    · obtain rfl := (List.cons.inj htext).2
      exact ⟨hne, hdigits, rfl⟩
    · exact absurd htext (not_isDigit_cons rfl hdigits)
  · rintro ⟨hne, hdigits, rfl⟩
    exact ⟨rest, hne, hdigits, .inr ⟨.inl rfl, rfl⟩⟩

theorem denotes_unsigned_iff {text : List Char} (hminus : text.head? ≠ some '-')
    (hplus : text.head? ≠ some '+') {n : Int} :
    Denotes text n ↔ text ≠ [] ∧ (∀ d ∈ text, d.isDigit) ∧ n = value text := by
  constructor
  · rintro ⟨digits, hne, hdigits, ⟨rfl, -⟩ | ⟨rfl | rfl, rfl⟩⟩
    · exact absurd rfl hminus
    · exact absurd rfl hplus
    · exact ⟨hne, hdigits, rfl⟩
  · rintro ⟨hne, hdigits, rfl⟩
    exact ⟨text, hne, hdigits, .inr ⟨.inr rfl, rfl⟩⟩

theorem map_readDigits_eq_ok_iff {limit : Nat} {digits : List Char} {f : Int → Int} {n : Int} :
    Except.map f (do let m ← readDigits limit digits; pure (m : Int)) = .ok n ↔
      digits ≠ [] ∧ (∀ d ∈ digits, d.isDigit) ∧ value digits ≤ limit ∧ n = f (value digits) := by
  constructor
  · intro h
    cases hread : readDigits limit digits with
    | error fault =>
      rw [hread] at h
      cases h
    | ok m =>
      rw [hread] at h
      obtain rfl := Except.ok.inj h
      obtain ⟨hne, hdigits, rfl, hlimit⟩ := readDigits_eq_ok_iff.mp hread
      exact ⟨hne, hdigits, hlimit, rfl⟩
  · rintro ⟨hne, hdigits, hlimit, rfl⟩
    rw [readDigits_eq_ok_iff.mpr ⟨hne, hdigits, rfl, hlimit⟩]
    rfl

/-- A number of 64 bits is read from what stands for it and from nothing else. -/
theorem readInt64_eq_ok_iff {text : List Char} {n : Int} :
    readInt64 text = .ok n ↔ Denotes text n ∧ FitsInt64 n := by
  have hbound : 0 < int64Bound := by decide
  have hpositive : ∀ digits : List Char,
      (digits ≠ [] ∧ (∀ d ∈ digits, d.isDigit) ∧ value digits ≤ int64Bound - 1 ∧
          n = value digits) ↔
        (digits ≠ [] ∧ (∀ d ∈ digits, d.isDigit) ∧ n = value digits) ∧ FitsInt64 n := by
    intro digits
    constructor
    · rintro ⟨hne, hdigits, hlimit, rfl⟩
      exact ⟨⟨hne, hdigits, rfl⟩, by omega, by omega⟩
    · rintro ⟨⟨hne, hdigits, rfl⟩, -, hhigh⟩
      exact ⟨hne, hdigits, by omega, rfl⟩
  cases text with
  | nil =>
    rw [denotes_unsigned_iff (by simp) (by simp)]
    simp [readInt64]
  | cons c rest =>
    by_cases hminus : c = '-'
    · subst hminus
      rw [readInt64, map_readDigits_eq_ok_iff, denotes_minus_iff]
      constructor
      · rintro ⟨hne, hdigits, hlimit, rfl⟩
        exact ⟨⟨hne, hdigits, rfl⟩, by omega, by omega⟩
      · rintro ⟨⟨hne, hdigits, rfl⟩, hlow, -⟩
        exact ⟨hne, hdigits, by omega, rfl⟩
    by_cases hplus : c = '+'
    · subst hplus
      rw [readInt64, map_readDigits_eq_ok_iff, denotes_plus_iff]
      exact hpositive rest
    · rw [readInt64_cons_of_ne hminus hplus, map_readDigits_eq_ok_iff,
        denotes_unsigned_iff (by simpa using hminus) (by simpa using hplus)]
      exact hpositive (c :: rest)

end Numeral

end HybridInverter
