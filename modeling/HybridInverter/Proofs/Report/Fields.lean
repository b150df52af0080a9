import HybridInverter.Proofs.Report.Agreement
import HybridInverter.Proofs.Text.Numeral
import HybridInverter.Proofs.Text.Slice
import HybridInverter.Proofs.Text.Utf8
import HybridInverter.Report

/-!
The table for programs, read back. Its lines are divided at the blanks outside of quotes, and what a
value is written with is whole again behind them: numbers and words have no mark that would divide
them, and texts with a blank stand in quotes. Only a text that begins with a blank has none, and
falls into pieces.
-/
namespace HybridInverter

namespace Report
namespace Table

theorem fieldsFrom_eq_modifyHead (quoted : Bool) (field text : List Char) :
    fieldsFrom quoted field text = (fieldsFrom quoted [] text).modifyHead (field ++ ·) := by
  induction text generalizing quoted field with
  | nil => simp [fieldsFrom]
  | cons c text ih =>
    rw [fieldsFrom, fieldsFrom]
    split
    · exact ih (!quoted) field
    · split
      · simp
      · rw [ih quoted (field ++ [c]), ih quoted ([] ++ [c]), List.modifyHead_modifyHead]
        congr 1
        funext rest
        simp

/-- What has no quote, and no blank either outside of quotes, goes into the field it stands in. -/
theorem fieldsFrom_append {quoted : Bool} {run : List Char} (hquote : '"' ∉ run)
    (hblank : quoted = false → ' ' ∉ run) (field rest : List Char) :
    fieldsFrom quoted field (run ++ rest) = fieldsFrom quoted (field ++ run) rest := by
  induction run generalizing field with
  | nil => simp
  | cons c run ih =>
    obtain ⟨hc, hrun⟩ := List.ne_and_not_mem_of_not_mem_cons hquote
    have hstay : ¬ (c = ' ' ∧ (!quoted) = true) := by
      rintro ⟨rfl, hquoted⟩
      exact hblank (by simpa using hquoted) List.mem_cons_self
    have hrest := ih hrun (fun h hmem => hblank h (List.mem_cons_of_mem c hmem)) (field ++ [c])
    rw [List.cons_append, fieldsFrom, if_neg (Ne.symm hc), if_neg hstay, hrest]
    simp

theorem fields_append {run : List Char} (hquote : '"' ∉ run) (hblank : ' ' ∉ run)
    (rest : List Char) : fields (run ++ rest) = (fields rest).modifyHead (run ++ ·) := by
  rw [fields, fieldsFrom_append hquote fun _ => hblank, fieldsFrom_eq_modifyHead]
  rfl

theorem fields_quoted {run : List Char} (hquote : '"' ∉ run) (rest : List Char) :
    fields ('"' :: run ++ '"' :: rest) = (fields rest).modifyHead (run ++ ·) := by
  have hopen : fields ('"' :: run ++ '"' :: rest) = fieldsFrom true [] (run ++ '"' :: rest) := rfl
  have hclose : fieldsFrom true run ('"' :: rest) = fieldsFrom false run rest := rfl
  rw [hopen, fieldsFrom_append hquote (by simp), List.nil_append, hclose, fieldsFrom_eq_modifyHead]
  rfl

theorem fields_blank_cons (rest : List Char) : fields (' ' :: rest) = [] :: fields rest := rfl

theorem fields_of_not_mem {text : List Char} (hquote : '"' ∉ text) :
    fields text = text.splitOn ' ' := by
  induction text with
  | nil => rfl
  | cons c text ih =>
    obtain ⟨hc, htext⟩ := List.ne_and_not_mem_of_not_mem_cons hquote
    by_cases hblank : c = ' '
    · subst hblank
      rw [fields_blank_cons, ih htext, List.splitOn_cons_eq_if_modifyHead]
      simp
    · have hone : fields ([c] ++ text) = (fields text).modifyHead ([c] ++ ·) :=
        fields_append (by simpa using hc) (by simpa using Ne.symm hblank) text
      rw [← List.singleton_append, hone, ih htext, List.singleton_append,
        List.splitOn_cons_eq_if_modifyHead]
      simp [hblank]

theorem fields_append_blank {run : List Char} (hquote : '"' ∉ run) (hblank : ' ' ∉ run)
    (rest : List Char) : fields (run ++ ' ' :: rest) = run :: fields rest := by
  rw [fields_append hquote hblank, fields_blank_cons]
  simp

theorem not_mem_of_mem_fieldsFrom {quoted : Bool} {field text part : List Char}
    (hfield : '"' ∉ field) (h : part ∈ fieldsFrom quoted field text) : '"' ∉ part := by
  fun_induction fieldsFrom quoted field text with
  | case1 => rwa [List.mem_singleton.mp h]
  | case2 quoted field rest ih => exact ih hfield h
  | case3 quoted field c rest hc hstop ih =>
    rcases List.mem_cons.mp h with rfl | hrest
    · exact hfield
    · exact ih List.not_mem_nil hrest
  | case4 quoted field c rest hc hgo ih =>
    exact ih (by simp [hfield, Ne.symm hc]) h

end Table

/-- The characters that have a meaning in a table for programs. -/
def marks : List Char := [' ', '"', '\n']

def Solid (text : List Char) : Prop :=
  ∀ c ∈ text, c ∉ marks

instance : DecidablePred Solid :=
  fun text => List.decidableBAll _ text

namespace Solid

theorem not_mem {text : List Char} (h : Solid text) {c : Char} (hc : c ∈ marks) : c ∉ text :=
  fun hmem => h c hmem hc

theorem append {a b : List Char} (ha : Solid a) (hb : Solid b) : Solid (a ++ b) :=
  List.forall_mem_append.mpr ⟨ha, hb⟩

theorem not_mark_of_isDigit {c : Char} (h : c.isDigit) : c ∉ marks := by
  intro hmark
  have hall : marks.all (fun c => !c.isDigit) := by decide
  have hc := List.all_eq_true.mp hall c hmark
  rw [h] at hc
  exact Bool.false_ne_true hc

theorem signed (n : Int) : Solid (Numeral.signed n) := by
  intro c hc
  rcases Numeral.mem_padded hc with rfl | hdigit
  · decide
  · exact not_mark_of_isDigit hdigit

theorem pointed (places n : Nat) : Solid (BinaryFloat.pointed places n) := by
  have hdigits : ∀ c ∈ Numeral.padZeros (places + 1) (Numeral.decimal n), c ∉ marks :=
    fun c hc => not_mark_of_isDigit
      (Numeral.isDigit_of_mem_padZeros (fun _ => Numeral.isDigit_of_mem_decimal) hc)
  intro c hc
  rw [BinaryFloat.pointed] at hc
  split at hc
  · exact hdigits c (List.mem_of_mem_take hc)
  · rcases List.mem_append.mp hc with hwhole | hplaces
    · exact hdigits c (List.mem_of_mem_take hwhole)
    · rcases List.mem_cons.mp hplaces with rfl | hplace
      · decide
      · exact hdigits c (List.mem_of_mem_drop hplace)

theorem fixed (places : Nat) (x : BinaryFloat) : Solid (x.fixed places) := by
  have hsign : ∀ s, Solid (BinaryFloat.signMark s) := by decide
  cases x with
  | nan => exact (by decide : Solid "NaN".toList)
  | infinite s => exact (hsign s).append (by decide)
  | finite s m e => exact (hsign s).append (pointed places _)

theorem symbol (u : Measure) : Solid u.symbol := by
  cases u <;> decide

theorem plain {v : Value} (h : ∀ s, v ≠ .text s) : Solid v.plain := by
  cases v with
  | double x places => exact fixed places x
  | long n => exact signed n
  | yesNo b => cases b <;> decide
  | enabled b => cases b <;> decide
  | text s => exact absurd rfl (h s)

end Solid

namespace Value

theorem parsable_of_not_mem {v : Value} (h : ' ' ∉ v.plain) : v.parsable = v.plain := by
  cases v with
  | text s => exact if_neg (by simpa [needsQuotes, plain] using fun hmem => absurd hmem h)
  | _ => rfl

theorem parsable_of_head {v : Value} (h : v.plain.head? = some ' ') : v.parsable = v.plain := by
  cases v with
  | text s =>
    have hs : s.toList.head? = some ' ' := h
    exact if_neg (by simp [needsQuotes, hs])
  | _ => rfl

theorem parsable_of_mem {v : Value} (hmem : ' ' ∈ v.plain) (h : v.plain.head? ≠ some ' ') :
    v.parsable = '"' :: v.plain ++ ['"'] := by
  by_cases htext : ∃ s, v = .text s
  · obtain ⟨s, rfl⟩ := htext
    exact if_pos (by simpa [needsQuotes] using ⟨hmem, h⟩)
  · have hsolid := Solid.plain (fun s hs => htext ⟨s, hs⟩)
    exact absurd hmem (hsolid.not_mem (by decide))

theorem quoted_iff (v : Value) : v.parsable = '"' :: v.plain ++ ['"'] ↔
    ' ' ∈ v.plain ∧ v.plain.head? ≠ some ' ' := by
  have hbare : v.plain ≠ '"' :: v.plain ++ ['"'] := by
    intro h
    have hlength := congrArg List.length h
    rw [List.length_append, List.length_cons, List.length_singleton] at hlength
    omega
  constructor
  · intro h
    constructor
    · by_contra hmem
      exact hbare (parsable_of_not_mem hmem ▸ h)
    · intro hfirst
      exact hbare (parsable_of_head hfirst ▸ h)
  · rintro ⟨hmem, hfirst⟩
    exact parsable_of_mem hmem hfirst

theorem parsable_cases (v : Value) :
    v.parsable = v.plain ∨ v.parsable = '"' :: v.plain ++ ['"'] := by
  by_cases hfirst : v.plain.head? = some ' '
  · exact .inl (parsable_of_head hfirst)
  · by_cases hmem : ' ' ∈ v.plain
    · exact .inr (parsable_of_mem hmem hfirst)
    · exact .inl (parsable_of_not_mem hmem)

/-- A value is whole again behind its quotes, unless it begins with a blank. -/
theorem fields_parsable {v : Value} (hquote : '"' ∉ v.plain) (hfirst : v.plain.head? ≠ some ' ')
    (rest : List Char) :
    Table.fields (v.parsable ++ rest) = (Table.fields rest).modifyHead (v.plain ++ ·) := by
  by_cases hblank : ' ' ∈ v.plain
  · rw [parsable_of_mem hblank hfirst, List.append_assoc, List.singleton_append]
    exact Table.fields_quoted hquote rest
  · rw [parsable_of_not_mem hblank]
    exact Table.fields_append hquote hblank rest

theorem not_mem_plain {v : Value} {c : Char} (hc : c ∈ marks)
    (h : ∀ s, v = .text s → c ∉ s.toList) : c ∉ v.plain := by
  by_cases htext : ∃ s, v = .text s
  · obtain ⟨s, rfl⟩ := htext
    exact h s rfl
  · exact (Solid.plain fun s hs => htext ⟨s, hs⟩).not_mem hc

end Value

namespace Item

def unitColumn (i : Item) : List Char :=
  match i.unit with
  | some u => ' ' :: u.symbol
  | none => []

def parts (i : Item) : List (List Char) :=
  i.key.toList :: i.value.plain :: (i.unit.map Measure.symbol).toList

theorem parsableLine_eq (i : Item) :
    Table.parsableLine i = i.key.toList ++ ' ' :: (i.value.parsable ++ i.unitColumn) := by
  rw [Table.parsableLine, List.append_assoc, List.cons_append]
  rfl

theorem fields_unitColumn (i : Item) :
    Table.fields i.unitColumn = [] :: (i.unit.map Measure.symbol).toList := by
  rw [unitColumn]
  cases i.unit with
  | none => rfl
  | some u =>
    have hwhole := Table.fields_append ((Solid.symbol u).not_mem (by decide))
      ((Solid.symbol u).not_mem (by decide)) []
    rw [List.append_nil] at hwhole
    rw [Table.fields_blank_cons, hwhole]
    simp [Table.fields, Table.fieldsFrom]

theorem not_mem_unitColumn (i : Item) {c : Char} (hblank : c ≠ ' ') (hc : c ∈ marks) :
    c ∉ i.unitColumn := by
  rw [unitColumn]
  cases i.unit with
  | none => exact List.not_mem_nil
  | some u => simpa [hblank] using (Solid.symbol u).not_mem hc

theorem fields_of_blank_first {i : Item} (hkey : ' ' ∉ i.key.toList)
    (hquoteKey : '"' ∉ i.key.toList) (hquote : '"' ∉ i.value.plain)
    (hfirst : i.value.plain.head? = some ' ') : Table.fields (Table.parsableLine i) =
      i.key.toList :: i.value.plain.splitOn ' ' ++ (i.unit.map Measure.symbol).toList := by
  have hrest : '"' ∉ i.value.plain ++ i.unitColumn := by
    simp [hquote, i.not_mem_unitColumn (by decide) (by decide : '"' ∈ marks)]
  rw [parsableLine_eq, Table.fields_append_blank hquoteKey hkey, Value.parsable_of_head hfirst,
    Table.fields_of_not_mem hrest, unitColumn, List.cons_append]
  cases i.unit with
  | none => simp
  | some u =>
    have hsymbol := (Solid.symbol u).not_mem (by decide : ' ' ∈ marks)
    simp [List.splitOn_append_cons_self, List.splitOn_eq_singleton hsymbol]

/-- The line of an item tells its parts, but for quotes in the key and a blank in front of the
value. -/
theorem fields_parsableLine_iff {i : Item} (hkey : ' ' ∉ i.key.toList)
    (hquote : '"' ∉ i.value.plain) :
    Table.fields (Table.parsableLine i) = i.parts ↔
      '"' ∉ i.key.toList ∧ i.value.plain.head? ≠ some ' ' := by
  constructor
  · intro h
    have hmem : i.key.toList ∈ Table.fields (Table.parsableLine i) := by
      rw [h]
      exact List.mem_cons_self
    have hquoteKey := Table.not_mem_of_mem_fieldsFrom List.not_mem_nil hmem
    refine ⟨hquoteKey, fun hfirst => ?_⟩
    have hlength := congrArg List.length h
    -- a text that begins with a blank is two parts at least
    have hcount : 0 < i.value.plain.count ' ' :=
      List.count_pos_iff.mpr (List.mem_of_mem_head? hfirst)
    rw [fields_of_blank_first hkey hquoteKey hquote hfirst, parts, List.length_append,
      List.length_cons, List.length_cons, List.length_cons, Lists.length_splitOn] at hlength
    omega
  · rintro ⟨hquoteKey, hfirst⟩
    rw [parsableLine_eq, Table.fields_append_blank hquoteKey hkey,
      Value.fields_parsable hquote hfirst, fields_unitColumn, parts]
    simp

theorem mem_break_parsableLine_iff {i : Item} (h : '\n' ∉ i.value.plain) :
    '\n' ∈ Table.parsableLine i ↔ '\n' ∈ i.key.toList := by
  have hunit : '\n' ∉ i.unitColumn := i.not_mem_unitColumn (by decide) (by decide)
  rw [parsableLine_eq]
  rcases i.value.parsable_cases with hbare | hquoted
  · simp [hbare, h, hunit]
  · simp [hquoted, h, hunit]

theorem parsableLine_ne_nil (i : Item) : Table.parsableLine i ≠ [] := by
  simp [parsableLine_eq]

end Item

namespace Table

/-- What a table for programs tells, line by line. -/
def read (table : String) : List (List (List Char)) :=
  (Text.lines table.toList).map fields

variable {items : List Item}

theorem lines_renderItems (hvalues : ∀ i ∈ items, '\n' ∉ i.value.plain)
    (hkeys : ∀ i ∈ items, '\n' ∉ i.key.toList) :
    Text.lines (renderItems .parsableTable items).toList = items.map parsableLine := by
  rw [renderItems, ofLines, String.toList_ofList]
  refine Text.lines_intercalate ?full ?plain
  case full =>
    intro l hl
    obtain ⟨i, -, rfl⟩ := List.mem_map.mp hl
    exact i.parsableLine_ne_nil
  case plain =>
    intro l hl
    obtain ⟨i, hi, rfl⟩ := List.mem_map.mp hl
    exact mt (Item.mem_break_parsableLine_iff (hvalues i hi)).mp (hkeys i hi)

theorem read_renderItems_iff (hkeys : ∀ i ∈ items, ' ' ∉ i.key.toList)
    (hquotes : ∀ i ∈ items, '"' ∉ i.value.plain) (hbreaks : ∀ i ∈ items, '\n' ∉ i.value.plain) :
    read (renderItems .parsableTable items) = items.map Item.parts ↔
      ∀ i ∈ items, '"' ∉ i.key.toList ∧ '\n' ∉ i.key.toList ∧ i.value.plain.head? ≠ some ' ' := by
  constructor
  · intro h i hi
    -- as many lines as items, so that no line can have a break in it
    have hcount := congrArg List.length h
    rw [read, List.length_map, List.length_map, renderItems, ofLines, String.toList_ofList,
      parsableLines, ← List.length_map parsableLine] at hcount
    have hplain := Text.not_mem_of_length_lines (by simp [Item.parsableLine_ne_nil]) hcount
    have hkeyBreaks : ∀ i ∈ items, '\n' ∉ i.key.toList := fun i hi =>
      mt (Item.mem_break_parsableLine_iff (hbreaks i hi)).mpr
        (hplain _ (List.mem_map_of_mem hi))
    rw [read, lines_renderItems hbreaks hkeyBreaks, List.map_map] at h
    have hline := List.map_inj_left.mp h i hi
    obtain ⟨hquoteKey, hfirst⟩ :=
      (Item.fields_parsableLine_iff (hkeys i hi) (hquotes i hi)).mp hline
    exact ⟨hquoteKey, hkeyBreaks i hi, hfirst⟩
  · intro h
    rw [read, lines_renderItems hbreaks fun i hi => (h i hi).2.1, List.map_map]
    refine List.map_inj_left.mpr fun i hi => ?_
    obtain ⟨hquoteKey, -, hfirst⟩ := h i hi
    exact (Item.fields_parsableLine_iff (hkeys i hi) (hquotes i hi)).mpr ⟨hquoteKey, hfirst⟩

/-- A table for programs has a line for each item, and all of them tell their parts exactly if no
value begins with a blank: a text with a blank in it is put in quotes only if it does not begin with
one, and a text that does falls into the pieces between its blanks. -/
theorem table_read_back_unless_blank_first (hkeys : ∀ i ∈ items, ' ' ∉ i.key.toList)
    (htexts : ∀ i ∈ items, ∀ s, i.value = .text s → '"' ∉ s.toList ∧ '\n' ∉ s.toList) :
    ((∀ i ∈ items, '\n' ∉ i.key.toList) →
      Text.lines (renderItems .parsableTable items).toList = items.map parsableLine) ∧
    (read (renderItems .parsableTable items) = items.map Item.parts ↔
      ∀ i ∈ items, '"' ∉ i.key.toList ∧ '\n' ∉ i.key.toList ∧ i.value.plain.head? ≠ some ' ') ∧
    ∀ i ∈ items,
      (i.value.parsable = '"' :: i.value.plain ++ ['"'] ↔
        ' ' ∈ i.value.plain ∧ i.value.plain.head? ≠ some ' ') ∧
      ('"' ∉ i.key.toList → i.value.plain.head? = some ' ' → fields (parsableLine i) =
        i.key.toList :: i.value.plain.splitOn ' ' ++ (i.unit.map Measure.symbol).toList) := by
  have hquotes : ∀ i ∈ items, '"' ∉ i.value.plain := fun i hi =>
    Value.not_mem_plain (by decide) fun s hs => (htexts i hi s hs).1
  have hbreaks : ∀ i ∈ items, '\n' ∉ i.value.plain := fun i hi =>
    Value.not_mem_plain (by decide) fun s hs => (htexts i hi s hs).2
  refine ⟨lines_renderItems hbreaks, read_renderItems_iff hkeys hquotes hbreaks,
    fun i hi => ⟨i.value.quoted_iff, fun hquoteKey hfirst =>
      Item.fields_of_blank_first (hkeys i hi) hquoteKey (hquotes i hi) hfirst⟩⟩

/-- A serial number that begins with a blank, beside a number with its unit. -/
theorem table_read_back_unless_blank_first_serial :
    let items : List Item := [⟨"sn", "Series number", .text " 12", none⟩,
      ⟨"capacity", "Capacity", .long 90, some .percent⟩]
    (∀ i ∈ items, ' ' ∉ i.key.toList) ∧
      (∀ i ∈ items, ∀ s, i.value = .text s → '"' ∉ s.toList ∧ '\n' ∉ s.toList) ∧
      renderItems .parsableTable items = "sn  12\ncapacity 90 %" ∧
      read (renderItems .parsableTable items) ≠ items.map Item.parts ∧
      read (renderItems .parsableTable items) =
        ["sn".toList, [], "12".toList] :: [["capacity".toList, "90".toList, "%".toList]] ∧
      (Value.text " 12").parsable ≠ '"' :: " 12".toList ++ ['"'] := by
  intro items
  have hkeys : ∀ i ∈ items, ' ' ∉ i.key.toList := by decide
  have htexts : ∀ i ∈ items, ∀ s, i.value = .text s → '"' ∉ s.toList ∧ '\n' ∉ s.toList := by
    intro i hi s hs
    simp only [items, List.mem_cons, List.not_mem_nil, or_false] at hi
    rcases hi with rfl | rfl <;> cases hs
    decide
  obtain ⟨hlines, hread, hitems⟩ := table_read_back_unless_blank_first hkeys htexts
  have hbreaks : ∀ i ∈ items, '\n' ∉ i.key.toList := by decide
  have hpieces := (hitems _ List.mem_cons_self).2 (by decide) (by decide)
  refine ⟨hkeys, htexts, by decide +kernel, fun h => ?_, ?_, ?_⟩
  · exact absurd (hread.mp h _ List.mem_cons_self).2.2 (by decide)
  · rw [read, hlines hbreaks, List.map_map, List.map_cons, Function.comp_apply, hpieces]
    decide +kernel
  · exact fun h => absurd ((hitems _ List.mem_cons_self).1.mp h).2 (by decide)

end Table
end Report

namespace Response

open Report

theorem solid_of_bytes {s : String} (h : s.toByteArray.data.toList.all (34 < ·)) :
    Solid s.toList := by
  have hbytes : s.toByteArray.data.toList = Utf8.encode s.toList := by
    rw [← String.utf8Encode_toList, List.utf8Encode, Utf8.encode]
    simp
  intro c hc hmark
  have hall : marks.all (fun c => c.toNat ≤ 34) := by decide
  have hlow : c.toNat ≤ 34 := of_decide_eq_true (List.all_eq_true.mp hall c hmark)
  have hcode : (UInt8.ofNat c.toNat).toNat = c.toNat := by
    simp
    omega
  have hmem : UInt8.ofNat c.toNat ∈ Utf8.encode s.toList :=
    (Utf8.mem_encode (by omega) s.toList).mpr ⟨c, hc, hcode.symm⟩
  have habove : 34 < (UInt8.ofNat c.toNat).toNat :=
    of_decide_eq_true (List.all_eq_true.mp h _ (hbytes ▸ hmem))
  omega

theorem solid_keys {r : Response} (h : r.bareNumbers? = none) :
    ∀ i ∈ r.items, Solid i.key.toList := by
  have hall : ∀ q ∈ Query.all, ∀ key ∈ (decode q []).items.map Item.key,
      key.toByteArray.data.toList.all (34 < ·) := by
    decide +kernel
  intro i hi
  have hkey : i.key ∈ r.items.map Item.key := List.mem_map_of_mem hi
  rw [keys_eq h] at hkey
  exact solid_of_bytes (hall _ (Query.mem_all _) _ hkey)

/-- The table of a record is read back exactly if none of its texts begins with a blank. -/
theorem read_render_iff {r : Response} (h : r.bareNumbers? = none)
    (hquotes : ∀ i ∈ r.items, '"' ∉ i.value.plain) (hbreaks : ∀ i ∈ r.items, '\n' ∉ i.value.plain) :
    Table.read (r.render .parsableTable) = r.items.map Item.parts ↔
      ∀ i ∈ r.items, i.value.plain.head? ≠ some ' ' := by
  have hkeys : ∀ i ∈ r.items, ∀ c ∈ marks, c ∉ i.key.toList := fun i hi _ hc =>
    (solid_keys h i hi).not_mem hc
  have hrender : r.render .parsableTable = renderItems .parsableTable r.items := by
    rw [render, h]
  rw [hrender, Table.read_renderItems_iff (fun i hi => hkeys i hi _ (by decide)) hquotes hbreaks]
  exact forall₂_congr fun i hi =>
    ⟨fun hread => hread.2.2, fun hfirst =>
      ⟨hkeys i hi _ (by decide), hkeys i hi _ (by decide), hfirst⟩⟩

end Response
end HybridInverter
