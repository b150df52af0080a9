import HybridInverter.Text.Basic

/-!
Text written as UTF-8 reads back unchanged. The first byte of a character says how many are owed,
each of the others adds six bits, and the last one completes the value. Bytes below 128 stand for
nothing but the characters of that number, wherever they occur.
-/
namespace HybridInverter
namespace Utf8

@[simp] theorem length_encode (text : List Char) : (encode text).length = size text := by
  induction text with
  | nil => rfl
  | cons c text ih => simp [ih]

theorem utf8ByteSize_ofList (text : List Char) : (String.ofList text).utf8ByteSize = size text := by
  induction text with
  | nil => rfl
  | cons c text ih =>
    rw [String.ofList_cons, String.utf8ByteSize_append, String.utf8ByteSize_singleton, ih, size_cons]

theorem utf8ByteSize_eq_size (s : String) : s.utf8ByteSize = size s.toList := by
  rw [← utf8ByteSize_ofList, String.ofList_toList]

theorem size_eq_length {text : List Char} (h : ∀ c ∈ text, c.toNat < 0x80) :
    size text = text.length := by
  induction text with
  | nil => rfl
  | cons c text ih =>
    obtain ⟨hc, htext⟩ := List.forall_mem_cons.mp h
    have hone : c.utf8Size = 1 := Char.utf8Size_eq_one_iff.mpr (by
      rw [UInt32.le_iff_toNat_le]
      exact Nat.le_of_lt_succ hc)
    rw [size_cons, hone, ih htext, List.length_cons, Nat.add_comm]

theorem toNat_valid (c : Char) :
    c.toNat < 0xD800 ∨ (0xDFFF < c.toNat ∧ c.toNat < 0x110000) :=
  c.valid

theorem first_one {b : UInt8} (h : b.toNat < 0x80) : first b = ([Char.ofNat b.toNat], {}) := by
  simp [first, UInt8.lt_iff_toNat_lt, h]

theorem first_two {b : UInt8} (h : 0xC2 ≤ b.toNat) (h' : b.toNat ≤ 0xDF) :
    first b = ([], ⟨1, 0x80, 0xBF, b.toNat % 32⟩) := by
  have h₁ : ¬ b < 0x80 := by simp [UInt8.lt_iff_toNat_lt]; omega
  simp [first, h₁, UInt8.le_iff_toNat_le, h, h']

/-- The smallest three bytes and the surrogates narrow what may follow. -/
theorem first_three {b : UInt8} (h : 0xE0 ≤ b.toNat) (h' : b.toNat ≤ 0xEF) :
    first b = ([], ⟨2, if b.toNat = 0xE0 then 0xA0 else 0x80,
      if b.toNat = 0xED then 0x9F else 0xBF, b.toNat % 16⟩) := by
  simp only [first, UInt8.lt_iff_toNat_lt, UInt8.le_iff_toNat_le, ← UInt8.toNat_inj]
  grind

/-- The smallest four bytes and the end of the last plane narrow what may follow. -/
theorem first_four {b : UInt8} (h : 0xF0 ≤ b.toNat) (h' : b.toNat ≤ 0xF4) :
    first b = ([], ⟨3, if b.toNat = 0xF0 then 0x90 else 0x80,
      if b.toNat = 0xF4 then 0x8F else 0xBF, b.toNat % 8⟩) := by
  simp only [first, UInt8.lt_iff_toNat_lt, UInt8.le_iff_toNat_le, ← UInt8.toNat_inj]
  grind

theorem step_more {owed value : Nat} {low high b : UInt8} (hl : low.toNat ≤ b.toNat)
    (hh : b.toNat ≤ high.toNat) :
    step ⟨owed + 2, low, high, value⟩ b =
      ([], ⟨owed + 1, 0x80, 0xBF, value * 64 + b.toNat % 64⟩) := by
  simp [step, UInt8.le_iff_toNat_le, hl, hh]

theorem step_last {value : Nat} {low high b : UInt8} (hl : low.toNat ≤ b.toNat)
    (hh : b.toNat ≤ high.toNat) :
    step ⟨1, low, high, value⟩ b = ([Char.ofNat (value * 64 + b.toNat % 64)], {}) := by
  simp [step, UInt8.le_iff_toNat_le, hl, hh]

@[simp] theorem step_start (b : UInt8) : step {} b = first b := rfl

theorem decodeFrom_one {v : Nat} (hv : v < 0x80) (rest : List UInt8) :
    decodeFrom {} (UInt8.ofNat v :: rest) = Char.ofNat v :: decodeFrom {} rest := by
  have hb : (UInt8.ofNat v).toNat = v := by simp; omega
  simp [decodeFrom, first_one (b := UInt8.ofNat v) (by omega), hb]

theorem decodeFrom_two {a b : UInt8} {v : Nat} (ha : a.toNat = v / 64 + 0xC0)
    (hb : b.toNat = v % 64 + 0x80) (hv : 0x80 ≤ v) (hv' : v < 0x800) (rest : List UInt8) :
    decodeFrom {} (a :: b :: rest) = Char.ofNat v :: decodeFrom {} rest := by
  have hlast : a.toNat % 32 * 64 + b.toNat % 64 = v := by omega
  simp only [decodeFrom, step_start, first_two (b := a) (by omega) (by omega)]
  rw [step_last (by simp; omega) (by simp; omega), hlast]
  rfl

theorem decodeFrom_three {a b c : UInt8} {v : Nat} (ha : a.toNat = v / 4096 + 0xE0)
    (hb : b.toNat = v / 64 % 64 + 0x80) (hc : c.toNat = v % 64 + 0x80) (hv : 0x800 ≤ v)
    (hv' : v < 0xD800 ∨ (0xDFFF < v ∧ v < 0x10000)) (rest : List UInt8) :
    decodeFrom {} (a :: b :: c :: rest) = Char.ofNat v :: decodeFrom {} rest := by
  have hlast : (a.toNat % 16 * 64 + b.toNat % 64) * 64 + c.toNat % 64 = v := by omega
  simp only [decodeFrom, step_start, first_three (b := a) (by omega) (by omega)]
  rw [step_more (by split <;> simp <;> omega) (by split <;> simp <;> omega)]
  rw [step_last (by simp; omega) (by simp; omega), hlast]
  rfl

theorem decodeFrom_four {a b c d : UInt8} {v : Nat} (ha : a.toNat = v / 262144 + 0xF0)
    (hb : b.toNat = v / 4096 % 64 + 0x80) (hc : c.toNat = v / 64 % 64 + 0x80)
    (hd : d.toNat = v % 64 + 0x80) (hv : 0x10000 ≤ v) (hv' : v < 0x110000) (rest : List UInt8) :
    decodeFrom {} (a :: b :: c :: d :: rest) = Char.ofNat v :: decodeFrom {} rest := by
  have hlast : ((a.toNat % 8 * 64 + b.toNat % 64) * 64 + c.toNat % 64) * 64 + d.toNat % 64 = v := by
    omega
  simp only [decodeFrom, step_start, first_four (b := a) (by omega) (by omega)]
  rw [step_more (by split <;> simp <;> omega) (by split <;> simp <;> omega)]
  rw [step_more (by simp; omega) (by simp; omega)]
  rw [step_last (by simp; omega) (by simp; omega), hlast]
  rfl

theorem decodeFrom_utf8EncodeChar (c : Char) (rest : List UInt8) :
    decodeFrom {} (String.utf8EncodeChar c ++ rest) = c :: decodeFrom {} rest := by
  have hv := toNat_valid c
  have hc : Char.ofNat c.toNat = c := Char.ofNat_toNat c
  have hu : c.val.toNat = c.toNat := rfl
  simp only [String.utf8EncodeChar, hu]
  split
  · simpa [hc] using decodeFrom_one (v := c.toNat) (by omega) rest
  split
  · simpa [hc] using decodeFrom_two (v := c.toNat) (by simp; omega) (by simp; omega) (by omega)
      (by omega) rest
  split
  · simpa [hc] using decodeFrom_three (v := c.toNat) (by simp; omega) (by simp; omega)
      (by simp; omega) (by omega) (by omega) rest
  · simpa [hc] using decodeFrom_four (v := c.toNat) (by simp; omega) (by simp; omega)
      (by simp; omega) (by simp; omega) (by omega) (by omega) rest

/-- Whatever has been written is read back. -/
@[simp] theorem decode_encode (text : List Char) : decode (encode text) = text := by
  induction text with
  | nil => rfl
  | cons c text ih => rw [decode, encode_cons, decodeFrom_utf8EncodeChar, ← decode, ih]

theorem mem_utf8EncodeChar {b : UInt8} (hb : b.toNat < 0x80) (c : Char) :
    b ∈ String.utf8EncodeChar c ↔ c.toNat = b.toNat := by
  have hv := toNat_valid c
  have hu : c.val.toNat = c.toNat := rfl
  simp only [String.utf8EncodeChar, hu]
  repeat' split
  all_goals
    simp only [List.mem_cons, List.not_mem_nil, or_false, ← UInt8.toNat_inj, UInt8.toNat_ofNat']
    omega

theorem utf8EncodeChar_of_lt {c : Char} (h : c.toNat < 0x80) :
    String.utf8EncodeChar c = [UInt8.ofNat c.toNat] := by
  have hu : c.val.toNat = c.toNat := rfl
  rw [String.utf8EncodeChar, hu, if_pos (by omega)]

theorem mem_encode {b : UInt8} (hb : b.toNat < 0x80) (text : List Char) :
    b ∈ encode text ↔ ∃ c ∈ text, c.toNat = b.toNat := by
  simp [encode, mem_utf8EncodeChar hb]

end Utf8
end HybridInverter
