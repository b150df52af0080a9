import HybridInverter.Proofs.Response.Guarded
import HybridInverter.Proofs.Text.Numeral

/-!
The number a text begins with. Behind blanks and tabs it is digits with a sign or none, as many as
there are. Whatever stands behind them, exactly that number is read and held within its bounds, and
zero where there is none.
-/
namespace HybridInverter

open Numeral

def EndsDigits (rest : List Char) : Prop :=
  ∀ c ∈ rest.head?, c.isDigit = false

theorem endsDigits_cons {c : Char} (h : c.isDigit = false) (rest : List Char) :
    EndsDigits (c :: rest) := by
  intro c' hc'
  obtain rfl : c = c' := Option.some.inj hc'
  exact h

/-- Behind blanks and tabs stands a whole number, and no digit goes on with it. -/
def BeginsWith (text : List Char) (n : Int) : Prop :=
  ∃ blanks numeral rest, text = blanks ++ (numeral ++ rest) ∧ (∀ c ∈ blanks, c = ' ' ∨ c = '\t') ∧
    Denotes numeral n ∧ EndsDigits rest

theorem takeWhile_isDigit_append {digits rest : List Char} (h : ∀ c ∈ digits, c.isDigit)
    (hrest : EndsDigits rest) : (digits ++ rest).takeWhile Char.isDigit = digits := by
  rw [List.takeWhile_append_of_pos h]
  cases rest with
  | nil => simp
  | cons c rest => simp [hrest c rfl]

theorem endsDigits_dropWhile (text : List Char) : EndsDigits (text.dropWhile Char.isDigit) := by
  intro c hc
  have hne : text.dropWhile Char.isDigit ≠ [] := by
    rintro hnil
    simp [hnil] at hc
  obtain rfl : (text.dropWhile Char.isDigit).head hne = c :=
    Option.some.inj ((List.head?_eq_some_head hne).symm.trans hc)
  simpa using List.head_dropWhile_not Char.isDigit hne

theorem dropWhile_blanks_append {blanks numeral : List Char} (h : ∀ c ∈ blanks, c = ' ' ∨ c = '\t')
    {n : Int} (hnumeral : Denotes numeral n) (rest : List Char) :
    (blanks ++ (numeral ++ rest)).dropWhile (fun c => c == ' ' || c == '\t') = numeral ++ rest := by
  have hblanks : ∀ c ∈ blanks, (c == ' ' || c == '\t') = true := fun c hc => by simpa using h c hc
  rw [List.dropWhile_append_of_pos hblanks]
  obtain ⟨digits, hne, hdigits, ⟨rfl, -⟩ | ⟨rfl | rfl, -⟩⟩ := hnumeral
  · rfl
  · rfl
  · obtain ⟨d, digits, rfl⟩ := List.exists_cons_of_ne_nil hne
    have hd := hdigits d List.mem_cons_self
    have hspace : d ≠ ' ' := by rintro rfl; exact absurd hd (by decide)
    have htab : d ≠ '\t' := by rintro rfl; exact absurd hd (by decide)
    simp [hspace, htab]

theorem splitSign_of_isDigit {c : Char} (hc : c.isDigit) (text : List Char) :
    splitSign (c :: text) = (false, c :: text) := by
  rw [splitSign.eq_def]
  split
  · next h =>
    obtain rfl := (List.cons.inj h).1
    exact absurd hc (by decide)
  · next h =>
    obtain rfl := (List.cons.inj h).1
    exact absurd hc (by decide)
  · rfl

theorem leadingInt_of_beginsWith {text : List Char} {n : Int} (h : BeginsWith text n) :
    leadingInt text = max (-((int64Bound : Int) - 1)) (min (int64Bound - 1) n) := by
  have hbound : 0 < int64Bound := by decide
  obtain ⟨blanks, numeral, rest, rfl, hblanks, hnumeral, hrest⟩ := h
  rw [leadingInt_eq_splitSign, dropWhile_blanks_append hblanks hnumeral]
  obtain ⟨digits, hne, hdigits, ⟨rfl, rfl⟩ | ⟨rfl | rfl, rfl⟩⟩ := hnumeral
  · simp only [List.cons_append, splitSign, takeWhile_isDigit_append hdigits hrest, if_true]
    omega
  · simp only [List.cons_append, splitSign, takeWhile_isDigit_append hdigits hrest,
      Bool.false_eq_true, if_false]
    omega
  · obtain ⟨d, digits, rfl⟩ := List.exists_cons_of_ne_nil hne
    rw [List.cons_append, splitSign_of_isDigit (hdigits d List.mem_cons_self), ← List.cons_append]
    simp only [takeWhile_isDigit_append hdigits hrest, Bool.false_eq_true, if_false]
    omega

/-- Digits behind blanks and a sign are a number that the text begins with. -/
theorem exists_beginsWith {text : List Char}
    (h : (splitSign (text.dropWhile fun c => c == ' ' || c == '\t')).2.takeWhile Char.isDigit ≠
      []) : ∃ n, BeginsWith text n := by
  let isBlank : Char → Bool := fun c => c == ' ' || c == '\t'
  have hblanks : ∀ c ∈ text.takeWhile isBlank, c = ' ' ∨ c = '\t' := fun c hc => by
    simpa [isBlank] using List.mem_takeWhile_imp hc
  have htext : text = text.takeWhile isBlank ++ text.dropWhile isBlank :=
    List.takeWhile_append_dropWhile.symm
  change (splitSign (text.dropWhile isBlank)).2.takeWhile Char.isDigit ≠ [] at h
  have hsign := splitSign_cases (text.dropWhile isBlank)
  generalize (splitSign (text.dropWhile isBlank)).2 = behind at h hsign
  have hdigits : ∀ c ∈ behind.takeWhile Char.isDigit, c.isDigit := fun c hc =>
    List.mem_takeWhile_imp hc
  have hends := endsDigits_dropWhile behind
  have hbehind : behind = behind.takeWhile Char.isDigit ++ behind.dropWhile Char.isDigit :=
    List.takeWhile_append_dropWhile.symm
  generalize behind.takeWhile Char.isDigit = digits at h hdigits hbehind
  generalize behind.dropWhile Char.isDigit = rest at hends hbehind
  have hbegins (numeral : List Char) {n : Int} (hnumeral : Denotes numeral n)
      (hback : text.dropWhile isBlank = numeral ++ rest) : ∃ n, BeginsWith text n :=
    ⟨n, _, numeral, rest, htext.trans (congrArg _ hback), hblanks, hnumeral, hends⟩
  rw [hbehind] at hsign
  obtain ⟨-, hback⟩ | ⟨-, hback⟩ := hsign
  · exact hbegins ('-' :: digits) ⟨digits, h, hdigits, .inl ⟨rfl, rfl⟩⟩ hback
  obtain hback | hback := hback
  · exact hbegins ('+' :: digits) ⟨digits, h, hdigits, .inr ⟨.inl rfl, rfl⟩⟩ hback
  · exact hbegins digits ⟨digits, h, hdigits, .inr ⟨.inr rfl, rfl⟩⟩ hback

theorem leadingInt_of_not_beginsWith {text : List Char} (h : ∀ n, ¬ BeginsWith text n) :
    leadingInt text = 0 := by
  rw [leadingInt_eq_splitSign]
  have hnone : (splitSign (text.dropWhile fun c => c == ' ' || c == '\t')).2.takeWhile
      Char.isDigit = [] := by
    by_contra hdigits
    obtain ⟨n, hn⟩ := exists_beginsWith hdigits
    exact h n hn
  simp only [hnone]
  split <;> rfl

theorem denotes_padded (width : Nat) (n : Int) : Denotes (padded width n) n := by
  have hdigits (width : Nat) : ∀ c ∈ padZeros width (decimal n.natAbs), c.isDigit := fun c hc =>
    isDigit_of_mem_padZeros (fun d hd => isDigit_of_mem_decimal hd) hc
  have hne (width : Nat) : padZeros width (decimal n.natAbs) ≠ [] := by
    simp [padZeros, decimal_ne_nil]
  by_cases hn : n < 0
  · rw [padded, if_pos hn]
    refine ⟨_, hne _, hdigits _, .inl ⟨rfl, ?_⟩⟩
    rw [value_padZeros, value_decimal]
    omega
  · rw [padded, if_neg hn]
    refine ⟨_, hne _, hdigits _, .inr ⟨.inr rfl, ?_⟩⟩
    rw [value_padZeros, value_decimal]
    omega

namespace Token

/-- What is behind the room of a token is cut off, and what is in front of it goes on as before. -/
theorem endsDigits_take {rest : List Char} (h : EndsDigits rest) (most : Nat) :
    EndsDigits (Utf8.take most rest) := by
  cases rest with
  | nil => exact h
  | cons c rest =>
    rw [Utf8.take]
    split
    · exact h
    · simp [EndsDigits]

theorem beginsWith_cut {width : Nat} {n : Int} (hroom : (padded width n).length ≤ maxSize)
    {rest : List Char} (hrest : EndsDigits rest) : BeginsWith (cut (padded width n ++ rest)) n := by
  rw [cut, Utf8.take_append (by rwa [size_padded])]
  exact ⟨[], _, _, rfl, by simp, denotes_padded width n, endsDigits_take hrest _⟩

theorem int_of_beginsWith {text : List Char} {n : Int} (h : BeginsWith text n) :
    int text = max (-(int32Bound : Int)) (min (int32Bound - 1) n) := by
  have hbound : int32Bound < int64Bound := by decide
  rw [int, leadingInt_of_beginsWith h, clampInt32]
  omega

/-- The number a text begins with is read without a step that overflows. It is exactly what the
digits denote with their sign, held within 64 bits and, in a token, within 32 bits; it is zero where
the text does not begin with a number. So every number of 32 bits is read back from a token that
holds its digits, however many zeros stand in front of them and whatever stands behind. -/
theorem leading_number_held :
    (∀ text, Guarded.leadingInt text = some (leadingInt text) ∧
      Guarded.int text = some (int text)) ∧
    (∀ text n, BeginsWith text n →
      leadingInt text = max (-((int64Bound : Int) - 1)) (min (int64Bound - 1) n) ∧
      int text = max (-(int32Bound : Int)) (min (int32Bound - 1) n)) ∧
    (∀ text, (∀ n, ¬ BeginsWith text n) → leadingInt text = 0 ∧ int text = 0) ∧
    ∀ (n : Int) (width : Nat) (rest : List Char), -(int32Bound : Int) ≤ n → n < int32Bound →
      (padded width n).length ≤ maxSize → EndsDigits rest →
        int (cut (padded width n ++ rest)) = n := by
  refine ⟨fun text => ⟨Guarded.leadingInt_eq text, Guarded.int_eq text⟩,
    fun text n h => ⟨leadingInt_of_beginsWith h, int_of_beginsWith h⟩, fun text h => ?_,
    fun n width rest hlow hhigh hroom hrest => ?_⟩
  · have hzero := leadingInt_of_not_beginsWith h
    refine ⟨hzero, ?_⟩
    rw [int, hzero]
    rfl
  · rw [int_of_beginsWith (beginsWith_cut hroom hrest)]
    omega

/-- Twenty nines are past every bound, a letter in front of digits leaves none to read, and zeros
and a letter around a number change nothing about it. -/
theorem leading_number_held_nines :
    BeginsWith " \t-99999999999999999999V".toList (-99999999999999999999) ∧
      leadingInt " \t-99999999999999999999V".toList = -9223372036854775807 ∧
      int " \t-99999999999999999999V".toList = -2147483648 ∧
      (∀ n, ¬ BeginsWith "V12".toList n) ∧ int "V12".toList = 0 ∧
      int (cut (padded 9 (-42) ++ "V12".toList)) = -42 := by
  have hnines : BeginsWith " \t-99999999999999999999V".toList (-99999999999999999999) :=
    ⟨[' ', '\t'], '-' :: List.replicate 20 '9', ['V'], rfl, by simp,
      ⟨List.replicate 20 '9', by decide, by simp, .inl ⟨rfl, by decide⟩⟩, endsDigits_cons rfl []⟩
  have hletter : ∀ n, ¬ BeginsWith "V12".toList n := by
    rintro n ⟨blanks, numeral, rest, htext, hblanks, hnumeral, -⟩
    cases blanks with
    | cons c blanks =>
      obtain rfl : 'V' = c := (List.cons.inj htext).1
      exact absurd (hblanks 'V' List.mem_cons_self) (by decide)
    | nil =>
      obtain ⟨digits, hne, hdigits, ⟨rfl, -⟩ | ⟨rfl | rfl, -⟩⟩ := hnumeral
      · exact absurd (List.cons.inj htext).1 (by decide)
      · exact absurd (List.cons.inj htext).1 (by decide)
      · obtain ⟨d, digits, rfl⟩ := List.exists_cons_of_ne_nil hne
        obtain rfl : 'V' = d := (List.cons.inj htext).1
        exact absurd (hdigits 'V' List.mem_cons_self) (by decide)
  obtain ⟨-, hheld, hzero, hback⟩ := leading_number_held
  exact ⟨hnines, (hheld _ _ hnines).1.trans (by decide), (hheld _ _ hnines).2.trans (by decide),
    hletter, (hzero _ hletter).2, hback (-42) 9 "V12".toList (by decide) (by decide) (by decide)
      (endsDigits_cons rfl _)⟩

end Token
end HybridInverter
