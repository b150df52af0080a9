import HybridInverter.Proofs.Text.Numeral
import HybridInverter.Proofs.Text.Slice
import HybridInverter.Response.Token
import Mathlib.Data.List.TakeWhile

/-!
Tokens read back. A number of fewer than 64 bits is read from its decimals, however many zeros stand
in front of them. Tokens joined by commas are the segments of the payload, but that an empty one at
the end may go missing, where its place counts as empty all the same.
-/
namespace HybridInverter

open Numeral

theorem leadingInt_of_isDigit {digits : List Char} (h : ∀ c ∈ digits, c.isDigit) :
    leadingInt digits = min (value digits : Int) (int64Bound - 1) := by
  have hall : digits.takeWhile Char.isDigit = digits := List.takeWhile_eq_self_iff.mpr h
  cases digits with
  | nil => simp [leadingInt]
  | cons c digits =>
    have hne {d : Char} (hd : d.isDigit = false) : c ≠ d := by
      rintro rfl
      exact absurd (h c List.mem_cons_self) (by simp [hd])
    have hspace : c ≠ ' ' := hne rfl
    have htab : c ≠ '\t' := hne rfl
    unfold leadingInt
    simp only [List.dropWhile_cons, beq_iff_eq, hspace, htab, Bool.or_eq_true, or_self, if_false]
    split
    next hminus => exact absurd (List.cons.inj hminus).1 (hne rfl)
    next hplus => exact absurd (List.cons.inj hplus).1 (hne rfl)
    next => simp only [hall, Bool.false_eq_true, if_false]

theorem leadingInt_minus_of_isDigit {digits : List Char} (h : ∀ c ∈ digits, c.isDigit) :
    leadingInt ('-' :: digits) = -min (value digits : Int) (int64Bound - 1) := by
  have hall : digits.takeWhile Char.isDigit = digits := List.takeWhile_eq_self_iff.mpr h
  simp [leadingInt, hall]

/-- Whatever the padding, a number of fewer than 64 bits is read back; only the least one of 64 bits
is not, which has no positive counterpart. -/
theorem leadingInt_padded {n : Int} (hl : -(int64Bound : Int) < n) (hu : n < int64Bound)
    (width : Nat) : leadingInt (padded width n) = n := by
  have hdigits (width : Nat) : ∀ c ∈ padZeros width (decimal n.natAbs), c.isDigit := fun c hc =>
    isDigit_of_mem_padZeros (fun d hd => isDigit_of_mem_decimal hd) hc
  by_cases hn : n < 0
  · rw [padded, if_pos hn, leadingInt_minus_of_isDigit (hdigits _)]
    simp only [value_padZeros, value_decimal]
    omega
  · rw [padded, if_neg hn, leadingInt_of_isDigit (hdigits _)]
    simp only [value_padZeros, value_decimal]
    omega

theorem clampInt32_of_mem {n : Int} (hl : -(int32Bound : Int) ≤ n) (hu : n < int32Bound) :
    clampInt32 n = n := by
  rw [clampInt32]
  omega

namespace Token

theorem cut_of_size_le {t : List Char} (h : Utf8.size t ≤ maxSize) : cut t = t :=
  Utf8.take_of_size_le h

theorem int_padded {n : Int} (hl : -(int32Bound : Int) ≤ n) (hu : n < int32Bound) (width : Nat) :
    int (padded width n) = n := by
  have hbound : int32Bound < int64Bound := by decide
  rw [int, leadingInt_padded (by omega) (by omega), clampInt32_of_mem hl hu]

theorem getD_append_nil (tokens : List (List Char)) (i : Nat) :
    (tokens ++ [[]]).getD i [] = tokens.getD i [] := by
  rw [List.getD_eq_getElem?_getD, List.getD_eq_getElem?_getD, List.getElem?_append]
  split
  · rfl
  · next hi =>
    rw [List.getElem?_eq_none (Nat.le_of_not_lt hi)]
    cases i - tokens.length <;> rfl

/-- At every place stands what stands there between commas, the one at the end counted or not. -/
theorem getD_segments (payload : List Char) (i : Nat) :
    (segments payload).getD i [] = (payload.splitOn ',').getD i [] := by
  rw [segments]
  split
  · next hempty =>
    rw [List.isEmpty_iff.mp hempty]
    cases i <;> rfl
  split
  · next hlast =>
    obtain ⟨front, rfl⟩ := List.getLast?_eq_some_iff.mp hlast
    rw [List.dropLast_concat, List.splitOn_append_cons_self, List.splitOn_nil, getD_append_nil]
  · rfl

def joined (closed : Bool) (tokens : List (List Char)) : List Char :=
  [','].intercalate tokens ++ if closed then [','] else []

theorem splitOn_joined {tokens : List (List Char)} (hne : tokens ≠ [])
    (hplain : ∀ t ∈ tokens, ',' ∉ t) : ([','].intercalate tokens).splitOn ',' = tokens :=
  List.splitOn_intercalate ',' hplain hne

theorem segments_closed {tokens : List (List Char)} (hne : tokens ≠ [])
    (hplain : ∀ t ∈ tokens, ',' ∉ t) : segments (joined true tokens) = tokens := by
  simp [segments, joined, splitOn_joined hne hplain]

theorem intercalate_concat {tokens : List (List Char)} (hne : tokens ≠ []) (last : List Char) :
    [','].intercalate (tokens ++ [last]) = [','].intercalate tokens ++ ',' :: last := by
  induction tokens with
  | nil => exact absurd rfl hne
  | cons t tokens ih =>
    by_cases htokens : tokens = []
    · simp [htokens]
    · simp [List.intercalate_cons_of_ne_nil, htokens, ih htokens]

theorem segments_open {tokens : List (List Char)} {last : List Char} (hlast : last ≠ [])
    (hplain : ∀ t ∈ tokens ++ [last], ',' ∉ t) :
    segments (joined false (tokens ++ [last])) = tokens ++ [last] := by
  have hends : ∃ front, [','].intercalate (tokens ++ [last]) = front ++ last := by
    by_cases htokens : tokens = []
    · exact ⟨[], by simp [htokens]⟩
    · exact ⟨[','].intercalate tokens ++ [','], by simp [intercalate_concat htokens]⟩
  obtain ⟨front, hfront⟩ := hends
  have hcomma : last.getLast? ≠ some ',' := fun h =>
    hplain last (by simp) (List.mem_of_getLast? h)
  have hsplit := splitOn_joined (by simp) hplain
  rw [hfront] at hsplit
  simp [segments, joined, hfront, hlast, hcomma, hsplit]

theorem getD_segments_joined {tokens : List (List Char)} (hplain : ∀ t ∈ tokens, ',' ∉ t)
    (closed : Bool) (i : Nat) :
    (segments (joined closed tokens)).getD i [] = tokens.getD i [] := by
  by_cases hne : tokens = []
  · subst hne
    cases closed <;> cases i <;> rfl
  rw [getD_segments]
  cases closed with
  | false => rw [joined, if_neg Bool.false_ne_true, List.append_nil, splitOn_joined hne hplain]
  | true =>
    rw [joined, if_pos rfl, List.splitOn_append_cons_self, splitOn_joined hne hplain,
      List.splitOn_nil, getD_append_nil]

theorem get_joined {tokens : List (List Char)} (hplain : ∀ t ∈ tokens, ',' ∉ t) (closed : Bool)
    {i : Nat} {t : List Char} (ht : tokens[i]? = some t) : get (joined closed tokens) i = cut t := by
  rw [get, getD_segments_joined hplain, List.getD_eq_getElem?_getD, ht, Option.getD_some]

/-- With something in the last of them, or a comma behind it, tokens are all segments there are. -/
theorem segments_joined_of_last {tokens : List (List Char)} (hne : tokens ≠ [])
    (hplain : ∀ t ∈ tokens, ',' ∉ t) (hlast : tokens.getLast? ≠ some []) (closed : Bool) :
    segments (joined closed tokens) = tokens := by
  cases closed with
  | true => exact segments_closed hne hplain
  | false =>
    obtain rfl | ⟨front, last, rfl⟩ := List.eq_nil_or_concat tokens
    · exact absurd rfl hne
    · rw [List.concat_eq_append] at hplain hlast ⊢
      refine segments_open (fun hempty => hlast ?_) hplain
      rw [List.getLast?_concat, hempty]

theorem segments_joined {tokens : List (List Char)} (hne : tokens ≠ [])
    (hplain : ∀ t ∈ tokens, ',' ∉ t) (hfull : ∀ t ∈ tokens, t ≠ []) (closed : Bool) :
    segments (joined closed tokens) = tokens :=
  segments_joined_of_last hne hplain (fun h => hfull [] (List.mem_of_getLast? h) rfl) closed

end Token
end HybridInverter
