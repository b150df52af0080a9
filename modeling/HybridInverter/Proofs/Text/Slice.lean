import HybridInverter.Proofs.List
import HybridInverter.Text.Basic

/-!
Cuts at the places where texts were joined. A text is cut in two at the first mark in it, or at the
last; a beginning as long as the first text is that text, and a slice between two joints is what
stands between them, however many bytes its characters take. Wherever else a text is cut, a beginning
is the longest one there is room for, and a slice is a stretch of the text that keeps within its
bytes. Texts joined by line breaks are the lines of the whole if each has something in it and none
holds a break.
-/
namespace HybridInverter

theorem Text.cutFirst_append {mark : Char} {front : List Char} (h : mark ∉ front)
    (back : List Char) : cutFirst mark (front ++ mark :: back) = some (front, back) := by
  induction front with
  | nil => simp [cutFirst]
  | cons c front ih =>
    obtain ⟨hc, hfront⟩ := not_or.mp (mt List.mem_cons.mpr h)
    simp [cutFirst, Ne.symm hc, ih hfront]

theorem Text.eq_append_of_cutFirst {mark : Char} {text front back : List Char}
    (h : cutFirst mark text = some (front, back)) :
    text = front ++ mark :: back ∧ mark ∉ front := by
  induction text generalizing front with
  | nil => cases h
  | cons c text ih =>
    rw [cutFirst] at h
    split at h
    · next hc =>
      obtain ⟨rfl, rfl⟩ := Prod.mk.inj (Option.some.inj h)
      exact ⟨by rw [hc]; rfl, List.not_mem_nil⟩
    · next hc =>
      obtain ⟨⟨front', back'⟩, hcut, heq⟩ := Option.map_eq_some_iff.mp h
      obtain ⟨rfl, rfl⟩ := Prod.mk.inj heq
      obtain ⟨rfl, hfront⟩ := ih hcut
      exact ⟨rfl, by simp [Ne.symm hc, hfront]⟩

theorem Text.cutLast_append {mark : Char} (front : List Char) {back : List Char}
    (h : mark ∉ back) : cutLast mark (front ++ mark :: back) = some (front, back) := by
  have hreverse : (front ++ mark :: back).reverse = back.reverse ++ mark :: front.reverse := by
    simp
  rw [cutLast, hreverse, cutFirst_append (by simpa using h)]
  simp

theorem Text.eq_append_of_cutLast {mark : Char} {text front back : List Char}
    (h : cutLast mark text = some (front, back)) :
    text = front ++ mark :: back ∧ mark ∉ back := by
  obtain ⟨⟨back', front'⟩, hcut, hpair⟩ := Option.map_eq_some_iff.mp h
  obtain ⟨rfl, rfl⟩ := Prod.mk.inj hpair
  obtain ⟨htext, hback⟩ := eq_append_of_cutFirst hcut
  refine ⟨?_, by simpa using hback⟩
  rw [← List.reverse_reverse text, htext]
  simp

namespace Utf8

@[simp] theorem take_zero (text : List Char) : take 0 text = [] := by
  cases text with
  | nil => rfl
  | cons c text =>
    have hne : c.utf8Size ≠ 0 := Nat.pos_iff_ne_zero.mp c.utf8Size_pos
    simp [take, hne]

theorem take_append {most : Nat} {a : List Char} (h : size a ≤ most) (b : List Char) :
    take most (a ++ b) = a ++ take (most - size a) b := by
  induction a generalizing most with
  | nil => simp
  | cons c a ih =>
    rw [size_cons] at h
    have hc : c.utf8Size ≤ most := by omega
    have ha : size a ≤ most - c.utf8Size := by omega
    simp [take, hc, ih ha, Nat.sub_sub]

theorem take_of_size_le {most : Nat} {a : List Char} (h : size a ≤ most) : take most a = a := by
  have := take_append h []
  simpa [take] using this

theorem take_size_append (a b : List Char) : take (size a) (a ++ b) = a := by
  simp [take_append (Nat.le_refl (size a))]

theorem drop?_size_append (a b : List Char) : drop? (size a) (a ++ b) = some b := by
  induction a with
  | nil => cases b <;> simp [drop?]
  | cons c a ih =>
    have hne : c.utf8Size ≠ 0 := Nat.pos_iff_ne_zero.mp c.utf8Size_pos
    simp [drop?, hne, ih]

theorem take?_size_append (a b : List Char) : take? (size a) (a ++ b) = some a := by
  induction a with
  | nil => cases b <;> simp [take?]
  | cons c a ih =>
    have hne : c.utf8Size ≠ 0 := Nat.pos_iff_ne_zero.mp c.utf8Size_pos
    simp [take?, hne, ih]

theorem slice_append {start count : Nat} {a b : List Char} (ha : size a = start)
    (hb : size b = count) (c : List Char) : slice start count (a ++ (b ++ c)) = b := by
  subst ha hb
  simp [slice, drop?_size_append, take?_size_append]

/-- A beginning of at most so many bytes that every other such beginning is a beginning of. -/
structure LongestWithin (most : Nat) (front text : List Char) : Prop where
  beginning : front <+: text
  size_le : size front ≤ most
  longest : ∀ a, a <+: text → size a ≤ most → a <+: front

theorem longestWithin_take (most : Nat) (text : List Char) :
    LongestWithin most (take most text) text := by
  induction text generalizing most with
  | nil => exact ⟨List.prefix_rfl, Nat.zero_le most, fun _ ha _ => ha⟩
  | cons c text ih =>
    rw [take]
    split
    · next hc =>
      obtain ⟨hbeginning, hsize, hlongest⟩ := ih (most - c.utf8Size)
      refine ⟨(List.prefix_cons_inj c).mpr hbeginning, ?_, fun a ha hroom => ?_⟩
      · rw [size_cons]
        omega
      · cases a with
        | nil => exact List.nil_prefix
        | cons d a =>
          obtain ⟨rfl, htail⟩ := List.cons_prefix_cons.mp ha
          rw [size_cons] at hroom
          exact (List.prefix_cons_inj d).mpr (hlongest a htail (by omega))
    · next hc =>
      refine ⟨List.nil_prefix, Nat.zero_le most, fun a ha hroom => ?_⟩
      cases a with
      | nil => exact List.prefix_rfl
      | cons d a =>
        obtain ⟨rfl, -⟩ := List.cons_prefix_cons.mp ha
        rw [size_cons] at hroom
        omega

theorem size_le_of_isInfix {a text : List Char} (h : a <:+: text) : size a ≤ size text := by
  obtain ⟨front, back, rfl⟩ := h
  rw [size_append, size_append]
  omega

theorem of_drop? {start : Nat} {text rest : List Char} (h : drop? start text = some rest) :
    ∃ front, text = front ++ rest ∧ size front ≤ start ∧ (size front = start ∨ rest = []) := by
  induction text generalizing start with
  | nil =>
    obtain rfl := Option.some.inj h
    exact ⟨[], rfl, Nat.zero_le start, .inr rfl⟩
  | cons c text ih =>
    rw [drop?] at h
    split at h
    · next hstart =>
      obtain rfl := Option.some.inj h
      exact ⟨[], rfl, Nat.zero_le start, .inl hstart.symm⟩
    split at h
    · next hc =>
      obtain ⟨front, rfl, hsize, hend⟩ := ih h
      refine ⟨c :: front, rfl, ?_, hend.imp_left fun hend => ?_⟩ <;> rw [size_cons] <;> omega
    · cases h

theorem of_take? {count : Nat} {text front : List Char} (h : take? count text = some front) :
    front <+: text ∧ size front ≤ count ∧ (size front = count ∨ front = text) := by
  induction text generalizing count front with
  | nil =>
    obtain rfl := Option.some.inj h
    exact ⟨List.prefix_rfl, Nat.zero_le count, .inr rfl⟩
  | cons c text ih =>
    rw [take?] at h
    split at h
    · next hcount =>
      obtain rfl := Option.some.inj h
      exact ⟨List.nil_prefix, Nat.zero_le count, .inl hcount.symm⟩
    split at h
    · next hc =>
      obtain ⟨a, ha, rfl⟩ := Option.map_eq_some_iff.mp h
      obtain ⟨hfront, hsize, hend⟩ := ih ha
      rw [size_cons]
      exact ⟨(List.prefix_cons_inj c).mpr hfront, by omega,
        hend.imp (fun hend => by omega) (congrArg (c :: ·))⟩
    · cases h

/-- A place that lies inside a character is no worse than the one in front of it. -/
theorem take?_eq_take_or (count : Nat) (text : List Char) :
    take? count text = some (take count text) ∨
      take? count text = none ∧ 0 < count ∧ take count text = take (count - 1) text := by
  induction text generalizing count with
  | nil => exact .inl rfl
  | cons c text ih =>
    have hc := c.utf8Size_pos
    rw [take?, take]
    by_cases hzero : count = 0
    · subst hzero
      rw [if_pos rfl, if_neg (by omega)]
      exact .inl rfl
    rw [if_neg hzero, take]
    by_cases hroom : c.utf8Size ≤ count
    · rw [if_pos hroom, if_pos hroom]
      obtain h | ⟨h, hpos, htake⟩ := ih (count - c.utf8Size)
      · rw [h]
        exact .inl rfl
      · rw [h, if_pos (by omega), htake, Nat.sub_right_comm]
        exact .inr ⟨rfl, by omega, rfl⟩
    · rw [if_neg hroom, if_neg hroom, if_neg (by omega)]
      exact .inr ⟨rfl, by omega, rfl⟩

/-- A slice is a stretch of the text, of no more bytes than were asked for. -/
theorem slice_within (start count : Nat) (text : List Char) :
    slice start count text <:+: text ∧ size (slice start count text) ≤ count := by
  rw [slice]
  cases hdrop : drop? start text with
  | none => exact ⟨List.nil_infix, Nat.zero_le count⟩
  | some rest =>
    rw [Option.bind_some]
    cases htake : take? count rest with
    | none => exact ⟨List.nil_infix, Nat.zero_le count⟩
    | some front =>
      obtain ⟨before, rfl, -, -⟩ := of_drop? hdrop
      obtain ⟨hfront, hsize, -⟩ := of_take? htake
      exact ⟨hfront.isInfix.trans (List.suffix_append before rest).isInfix, hsize⟩

/-- A slice with something in it begins where it should, and ends where it should or with the
text. -/
theorem of_slice_ne_nil {start count : Nat} {text : List Char} (h : slice start count text ≠ []) :
    ∃ a c, text = a ++ (slice start count text ++ c) ∧ size a = start ∧
      (size (slice start count text) = count ∨ c = []) := by
  rw [slice] at h ⊢
  cases hdrop : drop? start text with
  | none => exact absurd (by rw [hdrop]; rfl) h
  | some rest =>
    obtain ⟨a, rfl, -, hsize⟩ := of_drop? hdrop
    rw [hdrop, Option.bind_some] at h
    rw [Option.bind_some]
    cases htake : take? count rest with
    | none => exact absurd (by rw [htake]; rfl) h
    | some front =>
      rw [htake, Option.getD_some] at h
      obtain ⟨⟨c, rfl⟩, -, hend⟩ := of_take? htake
      refine ⟨a, c, rfl, hsize.resolve_right fun hnil => ?_, hend.imp_right fun hwhole => ?_⟩
      · exact h (List.append_eq_nil_iff.mp hnil).1
      · exact List.append_right_eq_self.mp hwhole.symm

theorem drop?_size_add_append (a b : List Char) (start : Nat) :
    drop? (size a + start) (a ++ b) = drop? start b := by
  induction a with
  | nil => rw [size_nil, Nat.zero_add, List.nil_append]
  | cons c a ih =>
    have hne : c.utf8Size + size a + start ≠ 0 := by
      have hpos := c.utf8Size_pos
      omega
    have hrest : c.utf8Size + size a + start - c.utf8Size = size a + start := by omega
    rw [size_cons, List.cons_append, drop?, if_neg hne, if_pos (by omega), hrest, ih]

theorem slice_size_add_append (a b : List Char) (start count : Nat) :
    slice (size a + start) count (a ++ b) = slice start count b := by
  rw [slice, drop?_size_add_append, slice]

theorem take?_append_left {count : Nat} {a : List Char} (h : count ≤ size a) (b : List Char) :
    take? count (a ++ b) = take? count a := by
  induction a generalizing count with
  | nil =>
    rw [Nat.le_zero.mp h]
    cases b <;> simp [take?]
  | cons c a ih =>
    rw [List.cons_append, take?, take?]
    rw [size_cons] at h
    split
    · rfl
    split
    · rw [ih (by omega)]
    · rfl

theorem drop?_append_left {start : Nat} {a : List Char} (h : start ≤ size a) (b : List Char) :
    drop? start (a ++ b) = (drop? start a).map (· ++ b) := by
  induction a generalizing start with
  | nil =>
    rw [Nat.le_zero.mp h]
    cases b <;> simp [drop?]
  | cons c a ih =>
    rw [List.cons_append, drop?, drop?]
    rw [size_cons] at h
    split
    · rfl
    split
    · rw [ih (by omega)]
    · rfl

theorem slice_append_left {start count : Nat} {a : List Char} (h : start + count ≤ size a)
    (b : List Char) : slice start count (a ++ b) = slice start count a := by
  rw [slice, slice, drop?_append_left (by omega)]
  cases hdrop : drop? start a with
  | none => rfl
  | some rest =>
    obtain ⟨front, rfl, hsize, hend⟩ := of_drop? hdrop
    rw [size_append] at h
    have hroom : count ≤ size rest := by
      rcases hend with hend | rfl
      · omega
      · rw [size_nil] at h ⊢
        omega
    rw [Option.map_some, Option.bind_some, Option.bind_some, take?_append_left hroom]

end Utf8

namespace Text

def lines (text : List Char) : List (List Char) :=
  if text.isEmpty then [] else text.splitOn '\n'

variable {texts : List (List Char)}

theorem lines_of_full (hne : texts ≠ []) (hfull : ∀ t ∈ texts, t ≠ []) :
    lines (['\n'].intercalate texts) = (['\n'].intercalate texts).splitOn '\n' := by
  obtain ⟨t, texts, rfl⟩ := List.exists_cons_of_ne_nil hne
  obtain ⟨c, t, rfl⟩ := List.exists_cons_of_ne_nil (hfull t List.mem_cons_self)
  cases texts <;> simp [lines, List.intercalate_cons_cons]

theorem lines_intercalate (hfull : ∀ t ∈ texts, t ≠ []) (hplain : ∀ t ∈ texts, '\n' ∉ t) :
    lines (['\n'].intercalate texts) = texts := by
  by_cases hne : texts = []
  · subst hne
    rfl
  · rw [lines_of_full hne hfull, List.splitOn_intercalate '\n' hplain hne]

theorem not_mem_of_length_lines (hfull : ∀ t ∈ texts, t ≠ [])
    (h : (lines (['\n'].intercalate texts)).length = texts.length) : ∀ t ∈ texts, '\n' ∉ t := by
  by_cases hne : texts = []
  · simp [hne]
  · have hcount := Lists.count_intercalate '\n' hne
    rw [lines_of_full hne hfull, Lists.length_splitOn] at h
    have hnone : texts.flatten.count '\n' = 0 := by omega
    exact fun t ht hmem => List.count_eq_zero.mp hnone (List.mem_flatten.mpr ⟨t, ht, hmem⟩)

end Text

end HybridInverter
