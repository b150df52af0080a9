import HybridInverter.Proofs.Response.Incomplete
import HybridInverter.Proofs.Response.Segment

/-!
The clock, read at fixed places. Its fields are apart as long as their bytes are a text. A byte that
is none is replaced by a character of three bytes, and the places are counted behind that. Fields in
front of it keep their values, one that begins within the replacement is lost, and each one further
on reads what belongs to the field in front of it.
-/
namespace HybridInverter

/-- Bytes as many as others, and the same but for one stretch. -/
structure AlikeOutside (start count : Nat) (a b : List UInt8) : Prop where
  length : a.length = b.length
  alike : ∀ i, i < start ∨ start + count ≤ i → a[i]? = b[i]?

namespace AlikeOutside

variable {start count n : Nat} {a b : List UInt8}

theorem symm (h : AlikeOutside start count a b) : AlikeOutside start count b a :=
  ⟨h.length.symm, fun i hi => (h.alike i hi).symm⟩

theorem take_eq (h : AlikeOutside start count a b) (hn : n ≤ start) : a.take n = b.take n := by
  refine List.ext_getElem? fun i => ?_
  rw [List.getElem?_take, List.getElem?_take]
  split
  · next hi => exact h.alike i (.inl (Nat.lt_of_lt_of_le hi hn))
  · rfl

theorem drop_eq (h : AlikeOutside start count a b) (hn : start + count ≤ n) :
    a.drop n = b.drop n := by
  refine List.ext_getElem? fun i => ?_
  rw [List.getElem?_drop, List.getElem?_drop]
  exact h.alike (n + i) (.inr (by omega))

theorem eq_of_length_le (h : AlikeOutside start count a b) (hlength : a.length ≤ start) :
    a = b := by
  have htake := h.take_eq hlength
  rwa [List.take_length, h.length, List.take_length] at htake

theorem stretch (h : AlikeOutside (n + start) count a b) (stop : Nat) :
    AlikeOutside start count ((a.take stop).drop n) ((b.take stop).drop n) := by
  refine ⟨by simp [h.length], fun i hi => ?_⟩
  rw [List.getElem?_drop, List.getElem?_drop, List.getElem?_take, List.getElem?_take]
  split
  · exact h.alike (n + i) (by omega)
  · rfl

end AlikeOutside

namespace Utf8

/-- The bytes up to byte `most` are those of a text, which may end behind it. -/
def TextUpTo (most : Nat) (bytes : List UInt8) : Prop :=
  ∃ text rest, bytes = encode text ++ rest ∧ (most ≤ size text ∨ rest = [])

variable {most start count place width : Nat} {a b : List UInt8}

theorem TextUpTo.exists_divided {byte : UInt8} (h : TextUpTo most a) (hplace : place < most)
    (hbyte : a[place]? = some byte) (hopens : Opens byte) :
    ∃ front bytes, a = encode front ++ bytes ∧ size front = place := by
  obtain ⟨text, rest, rfl, htext⟩ := h
  rw [List.getElem?_append, length_encode] at hbyte
  split at hbyte
  · obtain ⟨front, back, rfl, hsize⟩ := exists_split_of_opens hbyte hopens
    exact ⟨front, encode back ++ rest, by rw [encode_append, List.append_assoc], hsize⟩
  · next hlong =>
    obtain rfl : rest = [] := htext.resolve_left (by omega)
    cases hbyte

theorem slice_encode_append (front : List Char) (bytes : List UInt8) (count : Nat) :
    slice (size front) count (decode (encode front ++ bytes)) = slice 0 count (decode bytes) := by
  rw [decode_encode_append, ← slice_size_add_append front (decode bytes) 0, Nat.add_zero]

variable {front front' f back : List Char} {rest rest' : List UInt8}

theorem slice_eq_before
    (halike : AlikeOutside place width (encode (front ++ (f ++ back)) ++ rest) b)
    (hbefore : size front + size f ≤ place) (hend : size f = count ∨ back = [] ∧ rest = []) :
    slice (size front) count (decode b) =
      slice (size front) count (decode (encode (front ++ (f ++ back)) ++ rest)) := by
  rcases hend with rfl | ⟨rfl, rfl⟩
  · have htake : b.take (size front + size f) = encode (front ++ f) := by
      rw [← halike.take_eq hbefore, ← List.append_assoc, encode_append, List.append_assoc]
      exact List.take_left' (by rw [length_encode, size_append])
    have hread : decode b = front ++ (f ++ decode (b.drop (size front + size f))) := by
      rw [← List.append_assoc, ← decode_encode_append, ← htake, List.take_append_drop]
    rw [hread, slice_append rfl rfl, decode_encode_append, List.append_assoc, List.append_assoc,
      slice_append rfl rfl]
  · have hshort : (encode (front ++ (f ++ [])) ++ []).length ≤ place := by
      rwa [List.append_nil, List.append_nil, length_encode, size_append]
    rw [halike.eq_of_length_le hshort]

theorem slice_eq_behind (halike : AlikeOutside place width (encode front ++ rest)
    (encode front' ++ rest')) (hsize : size front' = size front)
    (hbehind : place + width ≤ size front) :
    slice (size front) count (decode (encode front' ++ rest')) =
      slice (size front) count (decode (encode front ++ rest)) := by
  have hrest := halike.drop_eq hbehind
  rw [List.drop_left' (length_encode front), List.drop_left' ((length_encode front').trans hsize)]
    at hrest
  rw [slice_encode_append, hrest, ← hsize, slice_encode_append]

theorem slice_eq_of_ne_nil (halike : AlikeOutside place width a b) (ha : TextUpTo most a)
    (hb : TextUpTo most b) (hmost : start + count ≤ most)
    (hapart : start + count ≤ place ∨ place + width ≤ start)
    (h : slice start count (decode a) ≠ []) :
    slice start count (decode b) = slice start count (decode a) := by
  obtain ⟨text, rest, rfl, htext⟩ := ha
  have hwithin : slice start count (decode (encode text ++ rest)) = slice start count text := by
    rw [decode_encode_append]
    rcases htext with hlong | rfl
    · exact slice_append_left (Nat.le_trans hmost hlong) _
    · rw [decode, decodeFrom, if_pos rfl, List.append_nil]
  rw [hwithin] at h
  obtain ⟨front, back, hparts, rfl, hend⟩ := of_slice_ne_nil h
  have hcount := (slice_within (size front) count text).2
  generalize slice (size front) count text = f at h hparts hend hcount
  subst hparts
  rcases hapart with hbefore | hbehind
  · refine slice_eq_before halike (Nat.le_trans (Nat.add_le_add_left hcount _) hbefore) ?_
    by_cases hfull : size f = count
    · exact .inl hfull
    · obtain rfl := hend.resolve_left hfull
      rw [List.append_nil, size_append] at htext
      exact .inr ⟨rfl, htext.resolve_left (by omega)⟩
  · -- the byte that opens the slice divides the other text too
    obtain ⟨c, f, rfl⟩ := List.exists_cons_of_ne_nil h
    obtain ⟨byte, more, hencode, hopens, -⟩ := opens_utf8EncodeChar c
    rw [encode_append, List.append_assoc] at halike ⊢
    have hbyte : (encode front ++ (encode (c :: f ++ back) ++ rest))[size front]? = some byte := by
      rw [List.getElem?_append_right (Nat.le_of_eq (length_encode front)), length_encode,
        Nat.sub_self, List.cons_append, encode_cons, hencode]
      rfl
    rw [halike.alike _ (.inr hbehind)] at hbyte
    have hpos := c.utf8Size_pos
    rw [size_cons] at hcount
    obtain ⟨front', rest', rfl, hsize⟩ := hb.exists_divided (by omega) hbyte hopens
    exact slice_eq_behind halike hsize hbehind

/-- Slices apart from where two texts differ are the same. -/
theorem slice_eq_of_alikeOutside (halike : AlikeOutside place width a b) (ha : TextUpTo most a)
    (hb : TextUpTo most b) (hmost : start + count ≤ most)
    (hapart : start + count ≤ place ∨ place + width ≤ start) :
    slice start count (decode b) = slice start count (decode a) := by
  by_cases hempty : slice start count (decode a) = []
  · by_cases hempty' : slice start count (decode b) = []
    · rw [hempty, hempty']
    · exact (slice_eq_of_ne_nil halike.symm hb ha hmost hapart hempty').symm
  · exact slice_eq_of_ne_nil halike ha hb hmost hapart hempty

/-- The bytes of a text, but for one byte of it that is no text any more. -/
def GarbledAt (place : Nat) (clean garbled : List UInt8) : Prop :=
  ∃ front back c b, clean = encode (front ++ c :: back) ∧ c.utf8Size = 1 ∧
    garbled = encode front ++ b :: encode back ∧ 0x80 ≤ b.toNat ∧ size front = place

/-- The byte is read as a character of three bytes. -/
theorem GarbledAt.exists_decode (h : GarbledAt place a b) : ∃ front back c, c.utf8Size = 1 ∧
    decode a = front ++ c :: back ∧ decode b = front ++ replacement :: back ∧
    size front = place := by
  obtain ⟨front, back, c, x, rfl, hc, rfl, hx, hsize⟩ := h
  refine ⟨front, back, c, hc, decode_encode _, ?_, hsize⟩
  rw [decode_encode_append, ← List.singleton_append, decode_append_encode, decode_singleton hx]
  rfl

theorem GarbledAt.slice_before (h : GarbledAt place a b) (hbefore : start + count ≤ place) :
    slice start count (decode b) = slice start count (decode a) := by
  obtain ⟨front, back, c, -, ha, hb, rfl⟩ := h.exists_decode
  rw [ha, hb, slice_append_left hbefore, slice_append_left hbefore]

/-- No slice begins within the replacement. -/
theorem GarbledAt.slice_inside (count : Nat) (h : GarbledAt place a b) (hlow : place < start)
    (hhigh : start < place + 3) : slice start count (decode b) = [] := by
  obtain ⟨front, back, -, -, -, hb, rfl⟩ := h.exists_decode
  obtain ⟨n, rfl⟩ := Nat.exists_eq_add_of_lt hlow
  have hsize : replacement.utf8Size = 3 := rfl
  rw [hb, Nat.add_assoc, slice_size_add_append, slice, drop?, if_neg (Nat.succ_ne_zero n),
    hsize, if_neg (by omega)]
  rfl

/-- Behind the replacement everything stands two bytes further on. -/
theorem GarbledAt.slice_behind (count : Nat) (h : GarbledAt place a b) (hbehind : place < start) :
    slice (start + 2) count (decode b) = slice start count (decode a) := by
  obtain ⟨front, back, c, hc, ha, hb, rfl⟩ := h.exists_decode
  obtain ⟨n, rfl⟩ := Nat.exists_eq_add_of_lt hbehind
  have hclean : size front + n + 1 = size (front ++ [c]) + n := by
    rw [size_append, size_cons, size_nil, hc]
    omega
  have hgarbled : size front + n + 1 + 2 = size (front ++ [replacement]) + n := by
    have hsize : replacement.utf8Size = 3 := rfl
    rw [size_append, size_cons, size_nil, hsize]
    omega
  rw [ha, hb, List.append_cons, List.append_cons front c, hgarbled, hclean,
    slice_size_add_append, slice_size_add_append]

end Utf8

namespace CurrentTime

inductive Field where
  | year
  | month
  | day
  | hour
  | minute
  | second
  deriving DecidableEq, Repr

namespace Field

def start : Field → Nat
  | .year => 0
  | .month => 4
  | .day => 6
  | .hour => 8
  | .minute => 10
  | .second => 12

def width : Field → Nat
  | .year => 4
  | .month | .day | .hour | .minute | .second => 2

def next? : Field → Option Field
  | .year => some .month
  | .month => some .day
  | .day => some .hour
  | .hour => some .minute
  | .minute => some .second
  | .second => none

theorem apart {f g : Field} (h : g ≠ f) :
    g.start + g.width ≤ f.start ∨ f.start + f.width ≤ g.start := by
  cases f <;> cases g <;> first | exact absurd rfl h | decide

theorem of_next? {f g : Field} (h : f.next? = some g) (hf : 0 < f.start) :
    g.start = f.start + 2 ∧ g.width = f.width := by
  cases f <;> cases h <;> first | exact absurd hf (by decide) | exact ⟨rfl, rfl⟩

end Field

def width : Nat := 14

theorem Field.stop_le_width (f : Field) : f.start + f.width ≤ CurrentTime.width := by
  cases f <;> decide

def get (t : CurrentTime) : Field → Int
  | .year => t.year
  | .month => t.month
  | .day => t.day
  | .hour => t.hour
  | .minute => t.minute
  | .second => t.second

theorem get_ofPayload (payload : List Char) (f : Field) :
    (ofPayload payload).get f = field payload f.start f.width := by
  cases f <;> rfl

theorem get_ofPayload_eq {payload payload' : List Char} {f g : Field}
    (h : Utf8.slice f.start f.width payload' = Utf8.slice g.start g.width payload) :
    (ofPayload payload').get f = (ofPayload payload).get g := by
  rw [get_ofPayload, get_ofPayload, field, field, h]

end CurrentTime

namespace Response

open CurrentTime (Field)
open Envelope
open Utf8 (GarbledAt TextUpTo)

variable {data data' : List UInt8} {size size' : Nat} {s s' : Span}

theorem bytes_alike {start count : Nat} (hs : querySpan data size = .ok s)
    (hs' : querySpan data' size' = .ok s')
    (halike : AlikeOutside (headerSize + start) count data data') :
    AlikeOutside start count (bytes data s) (bytes data' s') := by
  obtain ⟨n, hn⟩ := exists_declares hs
  obtain ⟨n', hn'⟩ := exists_declares hs'
  have hheader : data.take headerSize = data'.take headerSize :=
    halike.take_eq (Nat.le_add_right _ _)
  obtain rfl : n = n' := by rw [← hn.length, ← hn'.length, hheader]
  rw [hn.querySpan_eq] at hs
  rw [hn'.querySpan_eq] at hs'
  split at hs
  · cases hs
  split at hs'
  · cases hs'
  cases hs
  cases hs'
  exact halike.stretch _

/-- Two clocks that differ in the bytes of one field differ in no other, if their bytes are a text.
A byte that is none spoils more than its own field. Those in front of it keep their values, one that
begins within the two bytes behind it becomes zero, and from there on each reads the value of the
field in front of it. -/
theorem clock_fields_apart_unless_garbled (hs : querySpan data size = .ok s)
    (hs' : querySpan data' size' = .ok s') (f : Field)
    (halike : AlikeOutside (headerSize + f.start) f.width data data') :
    ∃ t t', ofFrame .currentTime data size = .ok (.currentTime t) ∧
      ofFrame .currentTime data' size' = .ok (.currentTime t') ∧
      (TextUpTo CurrentTime.width (bytes data s) → TextUpTo CurrentTime.width (bytes data' s') →
        ∀ g ≠ f, t'.get g = t.get g) ∧
      ∀ place, GarbledAt place (bytes data s) (bytes data' s') →
        (∀ g : Field, g.start + g.width ≤ place → t'.get g = t.get g) ∧
        (∀ g : Field, place < g.start → g.start < place + 3 → t'.get g = 0) ∧
        ∀ g g' : Field, place < g.start → g.next? = some g' → t'.get g' = t.get g := by
  have hbytes := bytes_alike hs hs' halike
  refine ⟨_, _, ofFrame_of_span _ hs, ofFrame_of_span _ hs', fun ha hb g hg => ?_,
    fun place hgarbled => ⟨fun g hg => ?_, fun g hlow hhigh => ?_, fun g g' hg hnext => ?_⟩⟩
  · exact CurrentTime.get_ofPayload_eq
      (Utf8.slice_eq_of_alikeOutside hbytes ha hb g.stop_le_width (Field.apart hg))
  · exact CurrentTime.get_ofPayload_eq (hgarbled.slice_before hg)
  · rw [CurrentTime.get_ofPayload, CurrentTime.field, hgarbled.slice_inside _ hlow hhigh]
    rfl
  · obtain ⟨hstart, hwidth⟩ := Field.of_next? hnext (Nat.lt_of_le_of_lt (Nat.zero_le place) hg)
    have hslice := hgarbled.slice_behind g.width hg
    rw [← hstart, ← hwidth] at hslice
    exact CurrentTime.get_ofPayload_eq (hslice.trans (by rw [hwidth]))

/-- A clock of the fifteenth of January, if the second byte of the month says so. -/
def clockFrame (month : UInt8) : List UInt8 :=
  Utf8.encode "^D01720240".toList ++ month :: Utf8.encode "15123456".toList

theorem alike_clockFrame (month month' : UInt8) :
    AlikeOutside (headerSize + Field.month.start) Field.month.width (clockFrame month)
      (clockFrame month') := by
  have hset : clockFrame month' = (clockFrame month).set 10 month' := rfl
  refine ⟨by rw [hset, List.length_set], fun i hi => ?_⟩
  rw [hset, List.getElem?_set_ne]
  rintro rfl
  exact absurd hi (by decide)

/-- In February nothing else changes. When the byte is none of a text, the day is lost, and the hour
is what the day was. -/
theorem clock_fields_apart_unless_garbled_month :
    querySpan (clockFrame 0x31) 22 = .ok ⟨5, 19⟩ ∧ querySpan (clockFrame 0x32) 22 = .ok ⟨5, 19⟩ ∧
      querySpan (clockFrame 0xFF) 22 = .ok ⟨5, 19⟩ ∧
      (∀ month, AlikeOutside (headerSize + Field.month.start) Field.month.width
        (clockFrame 0x31) (clockFrame month)) ∧
      ofFrame .currentTime (clockFrame 0x31) 22 =
        .ok (.currentTime ⟨2024, 1, 15, 12, 34, 56⟩) ∧
      (∃ t, ofFrame .currentTime (clockFrame 0x32) 22 = .ok (.currentTime t) ∧ t.year = 2024 ∧
        t.day = 15 ∧ t.hour = 12 ∧ t.minute = 34 ∧ t.second = 56) ∧
      ∃ t, ofFrame .currentTime (clockFrame 0xFF) 22 = .ok (.currentTime t) ∧ t.year = 2024 ∧
        t.day = 0 ∧ t.hour = 15 ∧ t.minute = 12 ∧ t.second = 34 := by
  have hs : querySpan (clockFrame 0x31) 22 = .ok ⟨5, 19⟩ := by decide +kernel
  have hs' : querySpan (clockFrame 0x32) 22 = .ok ⟨5, 19⟩ := by decide +kernel
  have hs'' : querySpan (clockFrame 0xFF) 22 = .ok ⟨5, 19⟩ := by decide +kernel
  have htext : TextUpTo 14 (bytes (clockFrame 0x31) ⟨5, 19⟩) :=
    ⟨"20240115123456".toList, [], by decide +kernel, .inr rfl⟩
  have htext' : TextUpTo 14 (bytes (clockFrame 0x32) ⟨5, 19⟩) :=
    ⟨"20240215123456".toList, [], by decide +kernel, .inr rfl⟩
  have hgarbled : GarbledAt 5 (bytes (clockFrame 0x31) ⟨5, 19⟩) (bytes (clockFrame 0xFF) ⟨5, 19⟩) :=
    ⟨"20240".toList, "15123456".toList, '1', 0xFF, by decide +kernel, rfl, by decide +kernel,
      by decide, rfl⟩
  have hclean : ofFrame .currentTime (clockFrame 0x31) 22 =
      .ok (.currentTime ⟨2024, 1, 15, 12, 34, 56⟩) := by
    have hread : CurrentTime.ofPayload (Utf8.decode (bytes (clockFrame 0x31) ⟨5, 19⟩)) =
        ⟨2024, 1, 15, 12, 34, 56⟩ := by decide +kernel
    rw [ofFrame_of_span _ hs, decode, hread]
  have hclock {t : CurrentTime} (ht : ofFrame .currentTime (clockFrame 0x31) 22 =
      .ok (.currentTime t)) : t = ⟨2024, 1, 15, 12, 34, 56⟩ := by
    rw [hclean] at ht
    cases ht
    rfl
  obtain ⟨t₁, t, ht₁, ht, hapart, -⟩ :=
    clock_fields_apart_unless_garbled hs hs' .month (alike_clockFrame 0x31 0x32)
  obtain ⟨t₂, t', ht₂, ht', -, hgarbles⟩ :=
    clock_fields_apart_unless_garbled hs hs'' .month (alike_clockFrame 0x31 0xFF)
  obtain rfl := hclock ht₁
  obtain rfl := hclock ht₂
  have hothers := hapart htext htext'
  obtain ⟨hfront, hlost, hshifted⟩ := hgarbles 5 hgarbled
  refine ⟨hs, hs', hs'', alike_clockFrame 0x31, hclean, ⟨t, ht, ?_⟩, ⟨t', ht', ?_⟩⟩
  · exact ⟨hothers .year (by decide), hothers .day (by decide), hothers .hour (by decide),
      hothers .minute (by decide), hothers .second (by decide)⟩
  · exact ⟨hfront .year (by decide), hlost .day (by decide) (by decide),
      hshifted .day .hour (by decide) rfl, hshifted .hour .minute (by decide) rfl,
      hshifted .minute .second (by decide) rfl⟩

end Response
end HybridInverter
