import HybridInverter.Link.Basic
import HybridInverter.Proofs.Text.Numeral
import HybridInverter.Proofs.Text.Slice

/-!
Hex dumps read back by their columns. The offset takes the first eight columns of a line, the pairs
stand from column 10 up to 57 and the characters from column 60 on, however many bytes the line has;
so a dump gives back exactly what has been dumped.
-/
namespace HybridInverter

namespace Hexdump

open Numeral

def columns (start stop : Nat) (l : List Char) : List Char :=
  (l.take stop).drop start

def byte? (digits : List Char) : Option UInt8 :=
  if digits.length = 2 then (hexValue digits).map Nat.toUInt8 else none

/-- The bytes of a line, read from the columns of the pairs. -/
def bytesOf? (l : List Char) : Option (List UInt8) :=
  (((columns 10 57 l).splitOn ' ').filter (· ≠ [])).mapM byte?

def read? (dump : String) : Option (List UInt8) :=
  ((Text.lines dump.toList).mapM bytesOf?).map List.flatten

theorem length_pair (b : UInt8) : (pair b).length = 2 :=
  length_hex (by decide) b.toNat_lt

theorem byte?_pair (b : UInt8) : byte? (pair b) = some b := by
  rw [byte?, if_pos (length_pair b), pair, hexValue_hex]
  simp

theorem length_padRight (width : Nat) (l : List Char) :
    (Text.padRight width l).length = max width l.length := by
  rw [Text.padRight, List.length_append, List.length_replicate]
  omega

theorem eq_nil_of_mem_splitOn_blanks {n : Nat} {part : List Char}
    (h : part ∈ (List.replicate n ' ').splitOn ' ') : part = [] := by
  induction n with
  | zero => simpa using h
  | succ n ih =>
    rw [List.replicate_succ, ← List.nil_append (' ' :: _), List.splitOn_append_cons_self] at h
    rcases List.mem_append.mp h with hfirst | hrest
    · simpa using hfirst
    · exact ih hrest

theorem filter_splitOn_padRight {texts : List (List Char)} (hfull : ∀ t ∈ texts, t ≠ [])
    (hplain : ∀ t ∈ texts, ' ' ∉ t) (width : Nat) :
    ((Text.padRight width ([' '].intercalate texts)).splitOn ' ').filter (· ≠ []) = texts := by
  have hjoined : (([' '].intercalate texts).splitOn ' ').filter (· ≠ []) = texts := by
    by_cases hne : texts = []
    · subst hne
      rfl
    · rw [List.splitOn_intercalate ' ' hplain hne]
      exact List.filter_eq_self.mpr fun t ht => decide_eq_true (hfull t ht)
  rw [Text.padRight]
  cases width - ([' '].intercalate texts).length with
  | zero => simpa using hjoined
  | succ n =>
    have hblanks : ((List.replicate n ' ').splitOn ' ').filter (· ≠ []) = [] :=
      List.filter_eq_nil_iff.mpr fun part hpart => by
        simpa using eq_nil_of_mem_splitOn_blanks hpart
    rw [List.replicate_succ, List.splitOn_append_cons_self, List.filter_append, hjoined, hblanks,
      List.append_nil]

theorem columns_append {a b c : List Char} {start stop : Nat} (ha : a.length = start)
    (hb : start + b.length = stop) : columns start stop (a ++ (b ++ c)) = b := by
  rw [columns, ← List.append_assoc, List.take_append_of_le_length (by simp [ha, hb]),
    List.take_of_length_le (by simp [ha, hb]), List.drop_append_of_le_length (by simp [ha]),
    List.drop_of_length_le (by simp [ha]), List.nil_append]

/-- Where everything stands on the line of the bytes at an offset. -/
structure IsLineOf (offset : Nat) (bytes : List UInt8) (l : List Char) : Prop where
  length_offset : (columns 0 8 l).length = 8
  offset_eq : hexValue (columns 0 8 l) = some offset
  gap : columns 8 10 l = [' ', ' ']
  bytes_eq : bytesOf? l = some bytes
  bar : columns 57 60 l = [' ', ' ', '|']
  glyphs : l.drop 60 = bytes.map glyph ++ ['|']

theorem line_eq (offset : Nat) (bytes : List UInt8) :
    line offset bytes = hex 8 offset ++ ([' ', ' '] ++
      (Text.padRight pairsWidth ([' '].intercalate (bytes.map pair)) ++
        ([' ', ' ', '|'] ++ (bytes.map glyph ++ ['|'])))) := by
  simp only [line, List.append_assoc]
  rfl

theorem length_pairs {bytes : List UInt8} (hbytes : bytes.length ≤ perLine) :
    (Text.padRight pairsWidth ([' '].intercalate (bytes.map pair))).length = pairsWidth := by
  have hwidths : ∀ t ∈ bytes.map pair, t.length = 2 := by
    simp only [List.mem_map, forall_exists_index, and_imp, forall_apply_eq_imp_iff₂]
    exact fun b _ => length_pair b
  rw [length_padRight, Lists.length_intercalate ' ' hwidths, List.length_map]
  simp only [perLine] at hbytes
  simp only [pairsWidth]
  omega

theorem bytesOf?_of_columns {l : List Char} {bytes : List UInt8}
    (h : columns 10 57 l = Text.padRight pairsWidth ([' '].intercalate (bytes.map pair))) :
    bytesOf? l = some bytes := by
  have hfull : ∀ t ∈ bytes.map pair, t ≠ [] := by
    intro t ht hnil
    obtain ⟨b, -, rfl⟩ := List.mem_map.mp ht
    have hlength := length_pair b
    rw [hnil] at hlength
    exact absurd hlength (by decide)
  have hplain : ∀ t ∈ bytes.map pair, ' ' ∉ t := by
    intro t ht
    obtain ⟨b, -, rfl⟩ := List.mem_map.mp ht
    exact not_mem_hex 2 b.toNat (by decide)
  have hread : byte? ∘ pair = some := funext byte?_pair
  rw [bytesOf?, h, filter_splitOn_padRight hfull hplain, List.mapM_map, hread]
  exact List.mapM_pure.trans (congrArg some (List.map_id' bytes))

theorem isLineOf_line {offset : Nat} (hoffset : offset < 16 ^ 8) {bytes : List UInt8}
    (hbytes : bytes.length ≤ perLine) : IsLineOf offset bytes (line offset bytes) := by
  have hfront := length_hex (by decide) hoffset
  have hpairs := length_pairs hbytes
  generalize hmiddle : Text.padRight pairsWidth _ = middle at hpairs
  have hoffsetColumns : columns 0 8 (line offset bytes) = hex 8 offset := by
    rw [line_eq, ← List.nil_append (hex 8 offset ++ _)]
    exact columns_append rfl (by rw [hfront])
  refine
    { length_offset := by rw [hoffsetColumns, hfront]
      offset_eq := by rw [hoffsetColumns, hexValue_hex]
      gap := ?gap
      bytes_eq := bytesOf?_of_columns ?pairs
      bar := ?bar
      glyphs := ?glyphs }
  case gap =>
    rw [line_eq]
    exact columns_append hfront rfl
  case pairs =>
    rw [line_eq, hmiddle, ← List.append_assoc]
    exact columns_append (by simp [hfront]) (by rw [hpairs]; rfl)
  case bar =>
    rw [line_eq, hmiddle, ← List.append_assoc, ← List.append_assoc]
    exact columns_append (by simp [hfront, hpairs, pairsWidth]) rfl
  case glyphs =>
    rw [line_eq, hmiddle, ← List.append_assoc, ← List.append_assoc, ← List.append_assoc]
    exact List.drop_left' (by simp [hfront, hpairs, pairsWidth])

theorem linesFrom_eq {bytes : List UInt8} (hne : bytes ≠ []) (offset : Nat) :
    linesFrom offset bytes =
      line offset (bytes.take 16) :: linesFrom (offset + 16) (bytes.drop 16) := by
  obtain ⟨b, rest, rfl⟩ := List.exists_cons_of_ne_nil hne
  rw [linesFrom]
  rfl

theorem length_linesFrom (offset : Nat) (bytes : List UInt8) :
    (linesFrom offset bytes).length = (bytes.length + 15) / 16 := by
  fun_induction linesFrom offset bytes with
  | case1 => rfl
  | case2 offset b rest ih =>
    rw [List.length_cons, ih, List.length_drop, List.length_cons, perLine]
    omega

theorem getElem?_linesFrom {offset k : Nat} {bytes : List UInt8} {l : List Char}
    (h : (linesFrom offset bytes)[k]? = some l) :
    16 * k < bytes.length ∧ l = line (offset + 16 * k) ((bytes.drop (16 * k)).take 16) := by
  induction k generalizing offset bytes with
  | zero =>
    cases bytes with
    | nil => simp [linesFrom] at h
    | cons b rest =>
      rw [linesFrom_eq (List.cons_ne_nil b rest), List.getElem?_cons_zero, Option.some_inj] at h
      exact ⟨Nat.zero_lt_succ _, h.symm⟩
  | succ k ih =>
    cases bytes with
    | nil => simp [linesFrom] at h
    | cons b rest =>
      rw [linesFrom_eq (List.cons_ne_nil b rest), List.getElem?_cons_succ] at h
      obtain ⟨hlt, hl⟩ := ih h
      rw [List.drop_drop] at hl
      rw [List.length_drop] at hlt
      have hstep : 16 * (k + 1) = 16 + 16 * k := by omega
      rw [hstep, ← Nat.add_assoc]
      exact ⟨by omega, hl⟩

/-- What the lines of bytes say, line by line, is the bytes. -/
theorem mapM_linesFrom {offset : Nat} {bytes : List UInt8}
    (h : bytes ≠ [] → offset + bytes.length ≤ 2 ^ 32) :
    ((linesFrom offset bytes).mapM bytesOf?).map List.flatten = some bytes := by
  -- behind the last bytes the offset may be past the bound, and no line is left to show it
  fun_induction linesFrom offset bytes with
  | case1 => rfl
  | case2 offset b rest ih =>
    have hlength : offset + (rest.length + 1) ≤ 2 ^ 32 := h (List.cons_ne_nil b rest)
    have hfirst : bytesOf? (line offset ((b :: rest).take perLine)) =
        some ((b :: rest).take perLine) :=
      (isLineOf_line (by omega) (List.length_take_le _ _)).bytes_eq
    have hrest := ih fun hleft => by
      have hpos := List.length_pos_iff.mpr hleft
      rw [List.length_drop, List.length_cons, perLine] at hpos ⊢
      omega
    obtain ⟨parts, hparts, hflat⟩ := Option.map_eq_some_iff.mp hrest
    rw [List.mapM_cons, hfirst, hparts]
    simp [hflat, List.take_append_drop]

theorem glyph_ne_break (b : UInt8) : glyph b ≠ '\n' := by
  rw [glyph]
  split
  case isTrue hvisible =>
    intro hbreak
    have hvalid : b.toNat.isValidChar := .inl (Nat.lt_trans b.toNat_lt (by decide))
    have hcode : (Char.ofNat b.toNat).toNat = b.toNat := by
      rw [Char.ofNat, dif_pos hvalid]
      rfl
    have hfirst : 0x20 ≤ b.toNat := hvisible.1
    rw [← hcode, hbreak] at hfirst
    exact absurd hfirst (by decide)
  case isFalse => decide

theorem not_mem_line (offset : Nat) (bytes : List UInt8) : '\n' ∉ line offset bytes := by
  have hpairs : '\n' ∉ [' '].intercalate (bytes.map pair) := by
    intro h
    rcases Lists.eq_or_mem_of_mem_intercalate h with hblank | ⟨t, ht, hbreak⟩
    · exact absurd hblank (by decide)
    · obtain ⟨b, -, rfl⟩ := List.mem_map.mp ht
      exact not_mem_hex 2 b.toNat (by decide) hbreak
  have hglyphs : '\n' ∉ bytes.map glyph := by
    intro h
    obtain ⟨b, -, hbreak⟩ := List.mem_map.mp h
    exact glyph_ne_break b hbreak
  have hoffset : '\n' ∉ hex 8 offset := not_mem_hex 8 offset (by decide)
  simp [line_eq, Text.padRight, hpairs, hglyphs, hoffset]

theorem line_ne_nil (offset : Nat) (bytes : List UInt8) : line offset bytes ≠ [] := by
  simp [line]

theorem lines_text (bytes : List UInt8) : Text.lines (text bytes).toList = lines bytes := by
  have hline : ∀ l ∈ lines bytes, ∃ offset part, l = line offset part := by
    intro l hl
    obtain ⟨k, hk⟩ := List.mem_iff_getElem?.mp hl
    exact ⟨_, _, (getElem?_linesFrom hk).2⟩
  rw [text, String.toList_ofList]
  refine Text.lines_intercalate ?full ?plain
  case full =>
    intro l hl
    obtain ⟨offset, part, rfl⟩ := hline l hl
    exact line_ne_nil offset part
  case plain =>
    intro l hl
    obtain ⟨offset, part, rfl⟩ := hline l hl
    exact not_mem_line offset part

/-- A dump has a line for every sixteen bytes begun; each shows the offset of its bytes, their pairs
and their characters in the same columns, the shorter last one too, and read together the lines give
the bytes that have been dumped. -/
theorem dump_read_back {bytes : List UInt8} (h : bytes.length ≤ 2 ^ 32) :
    (Text.lines (text bytes).toList).length = (bytes.length + 15) / 16 ∧
      (∀ k l, (Text.lines (text bytes).toList)[k]? = some l →
        IsLineOf (16 * k) ((bytes.drop (16 * k)).take 16) l) ∧
      read? (text bytes) = some bytes := by
  have hread : ((lines bytes).mapM bytesOf?).map List.flatten = some bytes :=
    mapM_linesFrom fun _ => by rw [Nat.zero_add]; exact h
  rw [read?, lines_text]
  refine ⟨length_linesFrom 0 bytes, fun k l hl => ?_, hread⟩
  obtain ⟨hlt, rfl⟩ := getElem?_linesFrom hl
  rw [Nat.zero_add]
  exact isLineOf_line (by omega) (List.length_take_le _ _)

/-- Two bytes on a second line, and blanks and bars among the characters. -/
theorem dump_read_back_short_line :
    let bytes := Utf8.encode "^P007 | 50 Hz |\u0000\r\n".toList
    let dumped := Text.lines (text bytes).toList
    bytes.length ≤ 2 ^ 32 ∧ dumped.length = 2 ∧
      (∀ k l, dumped[k]? = some l → IsLineOf (16 * k) ((bytes.drop (16 * k)).take 16) l) ∧
      read? (text bytes) = some bytes := by
  intro bytes dumped
  have hlength : bytes.length = 18 := by decide
  have hmost : bytes.length ≤ 2 ^ 32 := Nat.le_trans (Nat.le_of_eq hlength) (by decide)
  obtain ⟨hcount, hlines, hread⟩ := dump_read_back hmost
  rw [hlength] at hcount
  exact ⟨hmost, hcount, hlines, hread⟩

end Hexdump
end HybridInverter
