import HybridInverter.Proofs.List
import HybridInverter.Proofs.Response.Token

/-!
What becomes of the segments of a payload. One pass goes over them with their places: a segment is
delivered as far as it counts, or noted when no token is expected there. Those in front of the
expected number are delivered, the others are noted, and nothing else is.
-/
namespace HybridInverter

namespace Token

/-- What a pass over segments has delivered, and what it has noted. -/
structure Pass where
  delivered : List (Nat × List Char) := []
  noted : List Log.Entry := []

namespace Pass

/-- A segment is delivered with its place, as much of it as counts, or noted. -/
def visit (expected : Option Nat) (p : Pass) (s : List Char × Nat) : Pass :=
  if expected.all (s.2 < ·) then { p with delivered := p.delivered ++ [(s.2, cut s.1)] }
  else { p with noted := p.noted ++ [noteUnexpected s.2] }

def run (expected : Option Nat) (payload : List Char) : Pass :=
  (segments payload).zipIdx.foldl (visit expected) {}

variable (expected : Option Nat)

theorem foldl_visit (places : List (List Char × Nat)) (p : Pass) :
    places.foldl (visit expected) p =
      ⟨p.delivered ++ (places.filter fun s => expected.all (s.2 < ·)).map fun s => (s.2, cut s.1),
        p.noted ++ (places.filter fun s => !expected.all (s.2 < ·)).map fun s =>
          noteUnexpected s.2⟩ := by
  induction places generalizing p with
  | nil => simp
  | cons s places ih =>
    rw [List.foldl_cons, ih, visit]
    by_cases hs : expected.all (s.2 < ·) <;> simp [hs]

theorem run_eq (payload : List Char) :
    run expected payload = ⟨all expected payload, unexpected expected payload⟩ := by
  rw [run, foldl_visit]
  rfl

end Pass

variable {segs : List (List Char)} {payload : List Char}

def expectedOf (expected : Option Nat) (segments : List (List Char)) : Nat :=
  expected.getD segments.length

theorem filter_expected (segs : List (List Char)) (expected : Option Nat) :
    (segs.zipIdx.filter fun s => expected.all (s.2 < ·)) =
        (segs.take (expectedOf expected segs)).zipIdx ∧
      (segs.zipIdx.filter fun s => !expected.all (s.2 < ·)) =
        (segs.drop (expectedOf expected segs)).zipIdx (expectedOf expected segs) := by
  cases expected with
  | none => simp [expectedOf]
  | some n =>
    simp only [Option.all_some, expectedOf, Option.getD_some]
    exact ⟨Lists.filter_zipIdx_lt segs n, Lists.filter_zipIdx_not_lt segs n⟩

theorem all_of_segments (h : segments payload = segs) (expected : Option Nat) :
    all expected payload =
      (segs.take (expectedOf expected segs)).mapIdx fun place s => (place, cut s) := by
  rw [all, h, (filter_expected segs expected).1, List.mapIdx_eq_zipIdx_map]

theorem unexpected_of_segments (h : segments payload = segs) (expected : Option Nat) :
    unexpected expected payload =
      (List.range' (expectedOf expected segs) (segs.length - expectedOf expected segs)).map
        noteUnexpected := by
  have hmap (places : List (List Char × Nat)) :
      (places.map fun s => noteUnexpected s.2) = (places.map Prod.snd).map noteUnexpected := by
    rw [List.map_map]
    rfl
  rw [unexpected, h, (filter_expected segs expected).2, hmap, List.zipIdx_map_snd, List.length_drop]

end Token

/-- The note on a token whose width is not the documented one. -/
def Layout.noteOfToken (l : Layout) (t : Nat × List Char) : Option Log.Entry :=
  l.widths[t.1]?.bind fun width =>
    if Utf8.size t.2 = width then none else some (l.noteWidth t.1 (Utf8.size t.2) width)

theorem Layout.level_of_noteOfToken {l : Layout} {t : Nat × List Char} {e : Log.Entry}
    (h : l.noteOfToken t = some e) : e.level = .debug := by
  obtain ⟨width, -, hnote⟩ := Option.bind_eq_some_iff.mp h
  by_cases hsize : Utf8.size t.2 = width
  · simp [hsize] at hnote
  · simp only [hsize, if_false, Option.some_inj] at hnote
    rw [← hnote, noteWidth]

/-- Widths are noted of the tokens delivered, and behind them everything that is not expected. -/
theorem Layout.notes_eq (l : Layout) (payload : List Char) :
    l.notes payload =
      (Token.all (some l.widths.length) payload).filterMap l.noteOfToken ++
        Token.unexpected (some l.widths.length) payload := by
  obtain ⟨hfront, hback⟩ :=
    Token.filter_expected (Token.segments payload) (some l.widths.length)
  rw [Token.expectedOf, Option.getD_some] at hfront hback
  rw [notes, Lists.zipIdx_eq_take_drop _ l.widths.length, List.filterMap_append]
  congr 1
  · rw [Token.all, hfront, List.filterMap_map]
    refine List.filterMap_congr fun s hs => ?_
    have hplace := List.snd_lt_add_of_mem_zipIdx hs
    rw [List.length_take] at hplace
    have hwidth : l.widths[s.2]? = some l.widths[s.2] := List.getElem?_eq_getElem (by omega)
    simp only [noteOf, noteOfToken, Function.comp_apply, hwidth, Option.bind_some]
  · rw [Token.unexpected, hback, ← List.filterMap_eq_map]
    refine List.filterMap_congr fun s hs => ?_
    have hplace := List.le_snd_of_mem_zipIdx hs
    simp only [noteOf, List.getElem?_eq_none hplace, Function.comp_apply]

/-- Nothing is warned of but what is not expected. -/
theorem Layout.filter_notes_warn (l : Layout) (payload : List Char) :
    ((l.notes payload).filter fun e => e.level = .warn) =
      Token.unexpected (some l.widths.length) payload := by
  have hwidths : (((Token.all (some l.widths.length) payload).filterMap l.noteOfToken).filter
      fun e => e.level = .warn) = [] := by
    refine List.filter_eq_nil_iff.mpr fun e he => ?_
    obtain ⟨t, -, hnote⟩ := List.mem_filterMap.mp he
    simp [level_of_noteOfToken hnote]
  have hbehind : ((Token.unexpected (some l.widths.length) payload).filter
      fun e => e.level = .warn) = Token.unexpected (some l.widths.length) payload := by
    refine List.filter_eq_self.mpr fun e he => ?_
    obtain ⟨s, -, rfl⟩ := List.mem_map.mp he
    rfl
  rw [l.notes_eq, List.filter_append, hwidths, hbehind, List.nil_append]

namespace Token

/-- Of texts joined by commas, the last of them not empty, a pass delivers each one in front of the
expected number once, at its place, cut to the longest beginning that a token has room for. It warns
of each place behind them once and of no other, and decoding a list of fixed length logs just these
warnings behind its notes on widths. -/
theorem each_text_delivered_or_noted {texts : List (List Char)} (hne : texts ≠ [])
    (hplain : ∀ t ∈ texts, ',' ∉ t) (hlast : texts.getLast? ≠ some []) (closed : Bool)
    (expected : Option Nat) :
    let payload := joined closed texts
    let count := expected.getD texts.length
    let warnings := (List.range' count (texts.length - count)).map fun place =>
      (⟨.warn, .tokens, "item " ++ toString place ++ " is not expected"⟩ : Log.Entry)
    Pass.run expected payload = ⟨all expected payload, unexpected expected payload⟩ ∧
      all expected payload = (texts.take count).mapIdx (fun place t => (place, cut t)) ∧
      (∀ t, Utf8.LongestWithin 63 (cut t) t) ∧
      unexpected expected payload = warnings ∧
      ∀ l : Layout, expected = some l.widths.length →
        l.notes payload =
          (all expected payload).filterMap l.noteOfToken ++ unexpected expected payload ∧
        ((l.notes payload).filter fun e => e.level = .warn) = warnings := by
  have hsegments := segments_joined_of_last hne hplain hlast closed
  have hunexpected := unexpected_of_segments hsegments expected
  refine ⟨Pass.run_eq expected _, all_of_segments hsegments expected,
    Utf8.longestWithin_take maxSize, hunexpected, ?_⟩
  rintro l rfl
  refine ⟨l.notes_eq _, ?_⟩
  rw [l.filter_notes_warn, hunexpected]
  rfl

/-- Forty characters of two bytes each are cut to thirty-one, an empty text keeps its place, and the
third text is one too many. -/
theorem each_text_delivered_or_noted_accents :
    let texts := [List.replicate 40 'é', [], ['z']]
    let l : Layout := { name := "accents", widths := [62, 1] }
    texts ≠ [] ∧ (∀ t ∈ texts, ',' ∉ t) ∧ texts.getLast? ≠ some [] ∧
      all (some 2) (joined true texts) = [(0, List.replicate 31 'é'), (1, [])] ∧
      unexpected (some 2) (joined true texts) =
        [⟨.warn, .tokens, "item 2 is not expected"⟩] ∧
      ((l.notes (joined true texts)).filter fun e => e.level = .warn) =
        [⟨.warn, .tokens, "item 2 is not expected"⟩] := by
  intro texts l
  have hplain : ∀ t ∈ texts, ',' ∉ t := by decide
  have hlast : texts.getLast? ≠ some [] := by decide
  obtain ⟨-, hall, -, hnoted, hnotes⟩ :=
    each_text_delivered_or_noted (by decide) hplain hlast true (some 2)
  have hwarning : ((List.range' 2 1).map fun place =>
      (⟨.warn, .tokens, "item " ++ toString place ++ " is not expected"⟩ : Log.Entry)) =
        [⟨.warn, .tokens, "item 2 is not expected"⟩] := by decide +kernel
  refine ⟨by decide, hplain, hlast, hall.trans ?_, hnoted.trans hwarning,
    (hnotes l rfl).2.trans hwarning⟩
  decide +kernel

end Token
end HybridInverter
