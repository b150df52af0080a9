import HybridInverter.Proofs.Text.Numeral
import HybridInverter.Yaml.Visit
import Mathlib.Tactic.SplitIfs

/-!
What the scalars of a document say, apart from how they are read: how whole numbers, truth values and
nothing at all are spelled. What a scalar is read as is what its text spells, and a whole number is
read from each of its spellings.
-/
namespace HybridInverter
namespace Yaml

open Numeral (Spells push)

/-- The letters that stand for a base behind a zero. -/
def bases : List (Char × Nat) :=
  [('x', 16), ('o', 8), ('b', 2)]

/-- A number in one of four bases. In base ten it has no zero in front of it. -/
def Counts (cs : List Char) (n : Nat) : Prop :=
  (Spells 10 cs n ∧ (cs.head? = some '0' → cs = ['0'])) ∨
    ∃ letter base digits, (letter, base) ∈ bases ∧ cs = '0' :: letter :: digits ∧
      Spells base digits n

/-- A number with a plus sign or none. -/
def Unsigned (cs : List Char) (n : Nat) : Prop :=
  Counts cs n ∨ ∃ bare, cs = '+' :: bare ∧ Counts bare n

/-- A number with any sign or none. -/
def Signed (cs : List Char) (z : Int) : Prop :=
  (∃ n : Nat, Unsigned cs n ∧ z = n) ∨
    ∃ (bare : List Char) (n : Nat), cs = '-' :: bare ∧ Counts bare n ∧ z = -n

def truths : Bool → List String
  | true => ["true", "True", "TRUE"]
  | false => ["false", "False", "FALSE"]

def nulls : List String :=
  ["", "null", "Null", "NULL", "~"]

namespace Scalar

variable {base limit n : Nat} {cs bare : List Char}

theorem ofDigits_eq_some_iff (hbase : base ≤ 16) :
    ofDigits base limit cs = some n ↔ Spells base cs n ∧ n ≤ limit := by
  have hstep : (fun n c => do
      let d ← Numeral.hexDigit? c
      if d < base then some (n * base + d) else none) = push base := by
    funext before c
    cases hd : Numeral.hexDigit? c with
    | none => simp [push, hd]
    | some d => by_cases hlt : d < base <;> simp [push, hd, hlt, Nat.le_of_not_lt]
  rw [Numeral.spells_iff hbase, ofDigits, hstep]
  cases cs with
  | nil => simp
  | cons c cs =>
    cases (c :: cs).foldlM (push base) 0 with
    | none => simp
    | some m => by_cases hm : m ≤ limit <;> simp [hm] <;> omega

theorem isDigit_of_spells (h : Spells 10 cs n) : ∀ c ∈ cs, c.isDigit :=
  (Numeral.spells_ten_iff.mp h).2.1

/-- What is padded has a zero in front of its digits, whatever sign it has. -/
theorem isPadded_iff (h : Spells 10 bare n)
    (hcs : cs = bare ∨ cs = '+' :: bare) :
    isPadded cs = true ↔ bare.head? = some '0' ∧ bare ≠ ['0'] := by
  have hdigits := isDigit_of_spells h
  have hbare : (if isSigned cs then cs.drop 1 else cs) = bare := by
    rcases hcs with rfl | rfl
    · have hsigned : isSigned cs = false := by
        cases cs with
        | nil => rfl
        | cons c rest =>
          have hc := hdigits c List.mem_cons_self
          have hplus : c ≠ '+' := by rintro rfl; exact absurd hc (by decide)
          have hminus : c ≠ '-' := by rintro rfl; exact absurd hc (by decide)
          simp [isSigned, hplus, hminus]
      simp [hsigned]
    · rfl
  rw [isPadded, hbare]
  split
  case h_1 rest =>
    have hrest : rest.all Char.isDigit = true :=
      List.all_eq_true.mpr fun c hc => hdigits c (List.mem_cons_of_mem '0' hc)
    simp [hrest]
  case h_2 hzero =>
    cases bare with
    | nil => simp
    | cons c rest =>
      have hc : c ≠ '0' := by rintro rfl; exact hzero rest rfl
      simp [hc]

theorem based?_eq_some_iff {digits : List Char} : based? cs = some (base, digits) ↔
    ∃ letter, (letter, base) ∈ bases ∧ cs = '0' :: letter :: digits := by
  unfold based?
  split <;> simp_all [bases] <;> grind

theorem counts_iff (hcs : cs = bare ∨ cs = '+' :: bare) :
    (match based? bare with
      | some (base, digits) => ofDigits base limit digits
      | none => if isPadded cs then none else ofDigits 10 limit bare) = some n ↔
      Counts bare n ∧ n ≤ limit := by
  cases hbased : based? bare with
  | some p =>
    obtain ⟨base, digits⟩ := p
    obtain ⟨letter, hletter, rfl⟩ := based?_eq_some_iff.mp hbased
    have hbase : base ≤ 16 := by
      have hall : bases.all (·.2 ≤ 16) := by decide
      simpa using List.all_eq_true.mp hall _ hletter
    have hunique : ∀ base', (letter, base') ∈ bases → base' = base := by
      have hall : bases.all fun b => bases.all fun b' => b.1 != b'.1 || b.2 == b'.2 := by decide
      intro base' hbase'
      simpa using List.all_eq_true.mp (List.all_eq_true.mp hall _ hbase') _ hletter
    have hdigit : letter.isDigit = false := by
      have hall : bases.all fun b => !b.1.isDigit := by decide
      simpa using List.all_eq_true.mp hall _ hletter
    simp only [ofDigits_eq_some_iff hbase]
    refine and_congr_left' ⟨fun h => .inr ⟨letter, base, digits, hletter, rfl, h⟩, ?_⟩
    rintro (⟨h, -⟩ | ⟨letter', base', digits', hletter', heq, h⟩)
    · have hletter := isDigit_of_spells h letter (by simp)
      simp [hdigit] at hletter
    · simp only [List.cons.injEq, true_and] at heq
      obtain ⟨rfl, rfl⟩ := heq
      rwa [← hunique base' hletter']
  | none =>
    have hcounts : Counts bare n ↔ Spells 10 bare n ∧ (bare.head? = some '0' → bare = ['0']) := by
      refine ⟨?_, .inl⟩
      rintro (h | ⟨letter, base, digits, hletter, heq, -⟩)
      · exact h
      · have hsome : based? bare = some (base, digits) :=
          based?_eq_some_iff.mpr ⟨letter, hletter, heq⟩
        cases hbased.symm.trans hsome
    have hread : (if isPadded cs then none else ofDigits 10 limit bare) = some n ↔
        ¬ isPadded cs = true ∧ Spells 10 bare n ∧ n ≤ limit := by
      rw [← ofDigits_eq_some_iff (by decide)]
      by_cases hpadded : isPadded cs <;> simp [hpadded]
    simp only [hread, hcounts]
    constructor
    · rintro ⟨hpadded, hspells, hn⟩
      rw [isPadded_iff hspells hcs] at hpadded
      exact ⟨⟨hspells, fun hzero => by_contra fun hne => hpadded ⟨hzero, hne⟩⟩, hn⟩
    · rintro ⟨⟨hspells, hzero⟩, hn⟩
      rw [isPadded_iff hspells hcs]
      exact ⟨fun hpadded => hpadded.2 (hzero hpadded.1), hspells, hn⟩

theorem not_counts_cons {c : Char} (hc : c.isDigit = false) : ¬ Counts (c :: bare) n := by
  rintro (⟨h, -⟩ | ⟨letter, base, digits, -, heq, -⟩)
  · have hdigit := isDigit_of_spells h c List.mem_cons_self
    simp [hc] at hdigit
  · rw [(List.cons.inj heq).1] at hc
    exact absurd hc (by decide)

theorem nat?_eq_some_iff : nat? limit cs = some n ↔ Unsigned cs n ∧ n ≤ limit := by
  by_cases hplus : cs.head? = some '+'
  · obtain ⟨bare, rfl⟩ : ∃ bare, cs = '+' :: bare := by
      cases cs with
      | nil => simp at hplus
      | cons c bare => exact ⟨bare, by rw [Option.some.inj hplus]⟩
    have hread : nat? limit ('+' :: bare) = some n ↔ Counts bare n ∧ n ≤ limit :=
      counts_iff (.inr rfl)
    have hnot : ¬ Counts ('+' :: bare) n := not_counts_cons (by decide)
    simp [hread, Unsigned, hnot]
  · have hbare : dropSign '+' cs = cs := if_neg hplus
    have hread : nat? limit cs = some n ↔ Counts cs n ∧ n ≤ limit := by
      rw [nat?, hbare]
      exact counts_iff (.inl rfl)
    have hunsigned : Unsigned cs n ↔ Counts cs n := by
      refine ⟨?_, .inl⟩
      rintro (h | ⟨bare, rfl, -⟩)
      · exact h
      · exact absurd rfl hplus
    rw [hread, hunsigned]

theorem of_negative? (h : negative? limit cs = some n) : Signed cs (-n) := by
  unfold negative? at h
  split at h
  case h_1 bare => exact .inr ⟨bare, n, rfl, (counts_iff (.inl rfl)).mp h |>.1, rfl⟩
  case h_2 => cases h

theorem of_bool? {b : Bool} {text : String} (h : bool? text.toList = some b) :
    text ∈ truths b := by
  rw [bool?, String.ofList_toList] at h
  split_ifs at h with htrue hfalse
  · obtain rfl := Option.some.inj h
    simpa [truths] using htrue
  · obtain rfl := Option.some.inj h
    simpa [truths] using hfalse

theorem not_unsigned_cons {c : Char} (hc : c.isDigit = false) (hplus : c ≠ '+') :
    ¬ Unsigned (c :: cs) n := by
  rintro (h | ⟨bare, heq, -⟩)
  · exact not_counts_cons hc h
  · exact hplus (List.cons.inj heq).1

end Scalar

/-- What a text has to be to stand for a value. -/
def Value.Spelled (text : String) : Value → Prop
  | .null => text ∈ nulls
  | .bool b => text ∈ truths b
  | .natural n => Unsigned text.toList n
  | .negative n => Signed text.toList (-n)
  | .decimal => True
  | .text s => s = text

/-- Values that a member may be given under: its name or its place. -/
inductive Value.IsKey : Value → Prop
  | text (s : String) : IsKey (.text s)
  | natural (n : Nat) : IsKey (.natural n)

namespace Scalar

variable {tag : Option Tag} {style : Style} {text : String} {v : Value}

theorem spelled_of_narrow? (h : narrow? text.toList = some v) : v.Spelled text := by
  unfold narrow? number? at h
  split at h
  case h_1 n hn =>
    obtain rfl := Option.some.inj h
    exact (nat?_eq_some_iff.mp hn).1
  case h_2 =>
    obtain ⟨n, hn, rfl⟩ := Option.map_eq_some_iff.mp h
    exact of_negative? hn

theorem mem_nulls_of_isNull (h : isNull text.toList) : text ∈ nulls := by
  rw [isNull, String.ofList_toList, List.contains_iff_mem] at h
  exact List.mem_cons_of_mem "" h

theorem spelled_of_plain? (h : plain? text.toList = some v) : v.Spelled text := by
  unfold plain? at h
  split at h
  case isTrue hnull =>
    obtain rfl := Option.some.inj h
    rcases Bool.or_eq_true_iff.mp hnull with hempty | hnull
    · have htext : text = "" := by simpa using hempty
      simp [Value.Spelled, nulls, htext]
    · exact mem_nulls_of_isNull hnull
  case isFalse =>
    split at h
    case h_1 b hb =>
      obtain rfl := Option.some.inj h
      exact of_bool? hb
    case h_2 v' hv =>
      obtain rfl := Option.some.inj h
      exact spelled_of_narrow? hv
    case h_3 => cases h
    case h_4 =>
      obtain rfl := Option.some.inj h
      split
      · trivial
      · simp [Value.Spelled]

theorem spelled_of_value? (h : value? tag style text = some v) : v.Spelled text := by
  simp only [value?] at h
  split_ifs at h with hlocal hbool hint hfloat hdecimal hnull hisNull hplain
  · obtain ⟨b, hb, rfl⟩ := Option.map_eq_some_iff.mp h
    exact of_bool? hb
  · exact spelled_of_narrow? h
  · obtain rfl := Option.some.inj h
    trivial
  · obtain rfl := Option.some.inj h
    exact mem_nulls_of_isNull hisNull
  · exact spelled_of_plain? h
  · obtain rfl := Option.some.inj h
    rfl

theorem eq_natural_of_plain? (h : plain? text.toList = some v)
    (hnarrow : narrow? text.toList = some (.natural n))
    (hkey : v.IsKey) : v = .natural n := by
  unfold plain? at h
  split at h
  case isTrue =>
    obtain rfl := Option.some.inj h
    cases hkey
  case isFalse =>
    rw [hnarrow] at h
    split at h
    case h_1 b hb =>
      obtain rfl := Option.some.inj h
      cases hkey
    case h_2 v' hv =>
      rw [← Option.some.inj h, ← Option.some.inj hv]
    case h_3 hnone _ => cases hnone
    case h_4 hnone _ => cases hnone

theorem value?_eq_natural_iff (h : value? tag style text = some v) (hlimit : n ≤ Numeral.unsigned 64)
    (hkey : v.IsKey) : v = .natural n ↔
      Unsigned text.toList n ∧
        (tag = some (Tag.core "int") ∨ style = .plain ∧ tag.all Tag.isLocal) := by
  have hspelled := spelled_of_value? h
  have hnarrow : Unsigned text.toList n → narrow? text.toList = some (.natural n) := by
    intro hn
    rw [narrow?, number?, nat?_eq_some_iff.mpr ⟨hn, hlimit⟩]
  simp only [value?] at h
  split_ifs at h with hlocal hbool hint hfloat hdecimal hnull hisNull hplain
  · obtain ⟨b, -, rfl⟩ := Option.map_eq_some_iff.mp h
    cases hkey
  · constructor
    · rintro rfl
      exact ⟨hspelled, .inl hint⟩
    · rintro ⟨hn, -⟩
      exact Option.some.inj (h.symm.trans (hnarrow hn))
  · obtain rfl := Option.some.inj h
    cases hkey
  · obtain rfl := Option.some.inj h
    cases hkey
  · constructor
    · rintro rfl
      exact ⟨hspelled, .inr (by simpa using hplain)⟩
    · rintro ⟨hn, -⟩
      exact eq_natural_of_plain? h (hnarrow hn) hkey
  · obtain rfl := Option.some.inj h
    simp only [reduceCtorEq, false_iff]
    rintro ⟨-, hcore | hlocal⟩
    · exact hint hcore
    · exact hplain (by simpa using hlocal)

end Scalar

namespace Node

def IsText (n : Node) (s : String) : Prop :=
  ∃ tag style, n = .scalar tag style s

def IsNumber (n : Node) (z : Int) : Prop :=
  ∃ text : String, n.IsText text ∧ Signed text.toList z

def IsTruth (n : Node) (b : Bool) : Prop :=
  ∃ text, n.IsText text ∧ text ∈ truths b

def IsNull (n : Node) : Prop :=
  ∃ text, n.IsText text ∧ text ∈ nulls

/-- A whole number where no type is asked for, and so not a text. -/
def IsPlace (n : Node) (place : Nat) : Prop :=
  ∃ tag style text, n = .scalar tag style text ∧ Unsigned text.toList place ∧
    (tag = some (Tag.core "int") ∨ style = .plain ∧ tag.all Tag.isLocal)

variable {n : Node} {s : String} {b : Bool} {m : Nat} {v : Value}

theorem text?_eq_some_iff : n.text? = some s ↔ n.IsText s := by
  cases n <;> simp [text?, IsText]

theorem isTruth_of_bool? (h : n.bool? = some b) : n.IsTruth b := by
  cases n with
  | scalar tag style text =>
    rw [bool?] at h
    split at h
    case isTrue => exact ⟨text, ⟨tag, style, rfl⟩, Scalar.of_bool? h⟩
    case isFalse => cases h
  | _ => cases h

theorem isNumber_of_nat? {limit : Nat} (h : n.nat? limit = some m) : n.IsNumber m ∧ m ≤ limit := by
  cases n with
  | scalar tag style text =>
    rw [nat?] at h
    split at h
    case isTrue =>
      obtain ⟨hm, hlimit⟩ := Scalar.nat?_eq_some_iff.mp h
      exact ⟨⟨text, ⟨tag, style, rfl⟩, .inl ⟨m, hm, rfl⟩⟩, hlimit⟩
    case isFalse => cases h
  | _ => cases h

theorem exists_spelled_of_value? (h : n.value? = some v) :
    ∃ text, n.IsText text ∧ v.Spelled text := by
  cases n with
  | scalar tag style text => exact ⟨text, ⟨tag, style, rfl⟩, Scalar.spelled_of_value? h⟩
  | _ => cases h

theorem isPlace_iff_of_value? (h : n.value? = some v) (hlimit : m ≤ Numeral.unsigned 64)
    (hkey : v.IsKey) : n.IsPlace m ↔ v = .natural m := by
  cases n with
  | scalar tag style text =>
    rw [Scalar.value?_eq_natural_iff h hlimit hkey]
    simp [IsPlace]
  | _ => cases h

theorem isText_iff_of_value? (h : n.value? = some v) (hs : ∀ m, ¬ Unsigned s.toList m)
    (hkey : v.IsKey) : n.IsText s ↔ v = .text s := by
  obtain ⟨text, ⟨tag, style, rfl⟩, hspelled⟩ := exists_spelled_of_value? h
  constructor
  · rintro ⟨tag', style', heq⟩
    obtain ⟨-, -, rfl⟩ := Node.scalar.inj heq
    cases hkey with
    | text s' => exact congrArg Value.text hspelled
    | natural m => exact absurd hspelled (hs m)
  · rintro rfl
    exact ⟨tag, style, by rw [show s = text from hspelled]⟩

end Node

end Yaml
end HybridInverter
