import Mathlib.Data.List.Basic
import Mathlib.Data.List.Forall2

/-!
Lists: the places of their elements, what two lists have in common that are related element by
element, and lists joined by a mark.
-/
namespace HybridInverter
namespace Lists

theorem zipIdx_eq_take_drop {α : Type} (l : List α) (n : Nat) :
    l.zipIdx = (l.take n).zipIdx ++ (l.drop n).zipIdx n := by
  by_cases hn : n ≤ l.length
  · have hplace : 0 + (l.take n).length = n := by rw [List.length_take_of_le hn, Nat.zero_add]
    calc l.zipIdx = (l.take n ++ l.drop n).zipIdx := by rw [List.take_append_drop]
      _ = (l.take n).zipIdx ++ (l.drop n).zipIdx n := by rw [List.zipIdx_append, hplace]
  · have hlength := Nat.le_of_not_le hn
    rw [List.take_of_length_le hlength, List.drop_eq_nil_of_le hlength, List.zipIdx_nil,
      List.append_nil]

theorem filter_zipIdx_lt {α : Type} (l : List α) (n : Nat) :
    (l.zipIdx.filter fun s => s.2 < n) = (l.take n).zipIdx := by
  have hfront : ((l.take n).zipIdx.filter fun s => s.2 < n) = (l.take n).zipIdx := by
    refine List.filter_eq_self.mpr fun s hs => decide_eq_true ?_
    have hplace := List.snd_lt_add_of_mem_zipIdx hs
    rw [List.length_take] at hplace
    omega
  have hback : (((l.drop n).zipIdx n).filter fun s => s.2 < n) = [] := by
    refine List.filter_eq_nil_iff.mpr fun s hs => ?_
    have hplace := List.le_snd_of_mem_zipIdx hs
    simpa using hplace
  rw [zipIdx_eq_take_drop l n, List.filter_append, hfront, hback, List.append_nil]

theorem filter_zipIdx_not_lt {α : Type} (l : List α) (n : Nat) :
    (l.zipIdx.filter fun s => !decide (s.2 < n)) = (l.drop n).zipIdx n := by
  have hfront : ((l.take n).zipIdx.filter fun s => !decide (s.2 < n)) = [] := by
    refine List.filter_eq_nil_iff.mpr fun s hs => ?_
    have hplace := List.snd_lt_add_of_mem_zipIdx hs
    rw [List.length_take] at hplace
    simp only [Bool.not_eq_true', decide_eq_false_iff_not, not_not]
    omega
  have hback : (((l.drop n).zipIdx n).filter fun s => !decide (s.2 < n)) = (l.drop n).zipIdx n := by
    refine List.filter_eq_self.mpr fun s hs => ?_
    have hplace := List.le_snd_of_mem_zipIdx hs
    simpa using hplace
  rw [zipIdx_eq_take_drop l n, List.filter_append, hfront, hback, List.nil_append]

theorem exists_of_mem_of_forall₂ {α β : Type} {R : α → β → Prop} {l : List α} {l' : List β}
    (h : List.Forall₂ R l l') {a : α} (ha : a ∈ l) : ∃ b ∈ l', R a b := by
  induction h with
  | nil => cases ha
  | @cons a' b l l' hfirst _ ih =>
    rcases List.mem_cons.mp ha with rfl | hrest
    · exact ⟨b, List.mem_cons_self, hfirst⟩
    · obtain ⟨b', hb', hrelated⟩ := ih hrest
      exact ⟨b', List.mem_cons_of_mem b hb', hrelated⟩

theorem exists_mem_iff_of_forall₂ {α β : Type} {R : α → β → Prop} {P : α → Prop} {Q : β → Prop}
    {l : List α} {l' : List β} (h : List.Forall₂ R l l') (hiff : ∀ a b, R a b → (P a ↔ Q b)) :
    (∃ a ∈ l, P a) ↔ ∃ b ∈ l', Q b := by
  induction h with
  | nil => simp
  | cons hfirst _ ih => simp [hiff _ _ hfirst, ih]

theorem length_splitOn (mark : Char) (text : List Char) :
    (text.splitOn mark).length = text.count mark + 1 := by
  induction text with
  | nil => rfl
  | cons c text ih =>
    rw [List.splitOn_cons_eq_if_modifyHead, List.count_cons]
    split
    · rw [List.length_cons, ih]
    · rw [List.length_modifyHead, ih, Nat.add_zero]

theorem count_intercalate (mark : Char) {texts : List (List Char)} (hne : texts ≠ []) :
    ([mark].intercalate texts).count mark + 1 = texts.flatten.count mark + texts.length := by
  induction texts with
  | nil => exact absurd rfl hne
  | cons t texts ih =>
    cases texts with
    | nil => simp
    | cons t' texts =>
      have htail := ih (List.cons_ne_nil t' texts)
      rw [List.intercalate_cons_cons, List.flatten_cons, List.count_append, List.count_append,
        List.count_append, List.count_singleton_self, List.length_cons]
      omega

theorem eq_or_mem_of_mem_intercalate {mark c : Char} {texts : List (List Char)}
    (h : c ∈ [mark].intercalate texts) : c = mark ∨ ∃ t ∈ texts, c ∈ t := by
  induction texts with
  | nil => exact absurd h List.not_mem_nil
  | cons t texts ih =>
    cases texts with
    | nil => exact .inr ⟨t, List.mem_cons_self, by simpa using h⟩
    | cons t' texts =>
      rw [List.intercalate_cons_cons, List.mem_append, List.mem_append, List.mem_singleton] at h
      obtain (ht | hmark) | hrest := h
      · exact .inr ⟨t, List.mem_cons_self, ht⟩
      · exact .inl hmark
      · exact (ih hrest).imp_right fun ⟨u, hu, hc⟩ => ⟨u, List.mem_cons_of_mem t hu, hc⟩

theorem isInfix_intercalate {separator part : List Char} {parts : List (List Char)}
    (h : part ∈ parts) : part <:+: separator.intercalate parts := by
  induction parts with
  | nil => cases h
  | cons first parts ih =>
    by_cases hparts : parts = []
    · subst hparts
      have hpart : part = first := List.mem_singleton.mp h
      simp [hpart]
    · rw [List.intercalate_cons_of_ne_nil hparts]
      rcases List.mem_cons.mp h with rfl | hrest
      · rw [List.append_assoc]
        exact List.infix_append' [] _ _
      · exact (ih hrest).trans List.infix_append_right

theorem length_intercalate (mark : Char) {texts : List (List Char)} {width : Nat}
    (h : ∀ t ∈ texts, t.length = width) :
    ([mark].intercalate texts).length = (width + 1) * texts.length - 1 := by
  induction texts with
  | nil => rfl
  | cons t texts ih =>
    obtain ⟨ht, htexts⟩ := List.forall_mem_cons.mp h
    cases texts with
    | nil => simp [ht]
    | cons t' texts =>
      have htail := ih htexts
      rw [List.intercalate_cons_cons, List.length_append, List.length_append, ht, htail]
      simp only [List.length_cons, List.length_nil, Nat.mul_add]
      omega

end Lists
end HybridInverter
