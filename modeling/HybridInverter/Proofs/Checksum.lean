import HybridInverter.Checksum

/-!
What framing may rely on: a checksum reads back from its two bytes, and neither of them is a byte
that framing reserves. Raising a reserved byte by one never carries into the byte above it. Shifting
is linear over exclusive or, so one flipped bit changes the remainder by the residue of a power of `x`,
whatever the bytes are.
-/
namespace HybridInverter

namespace Checksum

@[simp] theorem toNat_low (crc : UInt16) : (low crc).toNat = crc.toNat % 256 := by
  simp [low]

@[simp] theorem toNat_high (crc : UInt16) : (high crc).toNat = crc.toNat / 256 := by
  have h := crc.toNat_lt
  simp [high, Nat.shiftRight_eq_div_pow]
  omega

theorem toNat_ofBytes (a b : UInt8) (rest : List UInt8) :
    (ofBytes (a :: b :: rest)).toNat = a.toNat * 256 + b.toNat := by
  have ha := a.toNat_lt
  have hb := b.toNat_lt
  have hs : (a.toUInt16 <<< 8).toNat = a.toNat <<< 8 := by
    simp [Nat.shiftLeft_eq]
    omega
  simp only [ofBytes, UInt16.toNat_or, hs, UInt8.toNat_toUInt16]
  rw [← Nat.shiftLeft_add_eq_or_of_lt hb, Nat.shiftLeft_eq]

@[simp] theorem ofBytes_toBytes (crc : UInt16) : ofBytes (toBytes crc) = crc := by
  apply UInt16.toNat_inj.mp
  rw [toBytes, toNat_ofBytes, toNat_high, toNat_low]
  omega

theorem toBytes_ofBytes : ∀ {bytes : List UInt8}, bytes.length = 2 → toBytes (ofBytes bytes) = bytes
  | [a, b], _ => by
    have hb := b.toNat_lt
    have hhigh : high (ofBytes [a, b]) = a := by
      apply UInt8.toNat_inj.mp
      rw [toNat_high, toNat_ofBytes]
      omega
    have hlow : low (ofBytes [a, b]) = b := by
      apply UInt8.toNat_inj.mp
      rw [toNat_low, toNat_ofBytes]
      omega
    rw [toBytes, hhigh, hlow]

theorem isReserved_iff (b : UInt8) :
    isReserved b ↔ b.toNat = 0x28 ∨ b.toNat = 0x0D ∨ b.toNat = 0x0A := by
  simp [isReserved, ← UInt8.toNat_inj, or_assoc]

theorem not_isReserved_of_toNat_eq_succ {a b : UInt8} (ha : isReserved a)
    (h : b.toNat = a.toNat + 1) : ¬ isReserved b := by
  rw [isReserved_iff] at ha ⊢
  omega

theorem toNat_succ_of_isReserved_low {crc : UInt16} (h : isReserved (low crc)) :
    (crc + 1).toNat = crc.toNat + 1 ∧ crc.toNat % 256 < 255 := by
  have hc := crc.toNat_lt
  rw [isReserved_iff, toNat_low] at h
  simp
  omega

theorem toNat_add_of_isReserved_high {crc : UInt16} (h : isReserved (high crc)) :
    (crc + 0x100).toNat = crc.toNat + 256 := by
  rw [isReserved_iff, toNat_high] at h
  simp
  omega

theorem not_isReserved_low_avoidReserved (crc : UInt16) :
    ¬ isReserved (low (avoidReserved crc)) := by
  have hlow : ¬ isReserved (low (if isReserved (low crc) then crc + 1 else crc)) := by
    split
    · next h =>
      obtain ⟨hs, hc⟩ := toNat_succ_of_isReserved_low h
      exact not_isReserved_of_toNat_eq_succ h (by simp only [toNat_low]; omega)
    · next h => exact h
  simp only [avoidReserved]
  generalize (if isReserved (low crc) then crc + 1 else crc) = raised at hlow ⊢
  split
  · next h =>
    have he : low (raised + 0x100) = low raised := by
      apply UInt8.toNat_inj.mp
      simp only [toNat_low, toNat_add_of_isReserved_high h]
      omega
    rwa [he]
  · exact hlow

theorem not_isReserved_high_avoidReserved (crc : UInt16) :
    ¬ isReserved (high (avoidReserved crc)) := by
  simp only [avoidReserved]
  generalize (if isReserved (low crc) then crc + 1 else crc) = raised
  split
  · next h =>
    refine not_isReserved_of_toNat_eq_succ h ?_
    simp only [toNat_high, toNat_add_of_isReserved_high h]
    omega
  · next h => exact h

/-- No byte that framing reserves occurs in the checksum of anything. -/
theorem not_isReserved_of_mem {bytes : List UInt8} {b : UInt8} (h : b ∈ toBytes (of bytes)) :
    ¬ isReserved b := by
  simp only [toBytes, of, List.mem_cons, List.not_mem_nil, or_false] at h
  rcases h with rfl | rfl
  · exact not_isReserved_high_avoidReserved _
  · exact not_isReserved_low_avoidReserved _

theorem and_top_eq_zero_iff (crc : UInt16) : crc &&& 0x8000 = 0 ↔ crc.toBitVec.msb = false := by
  have htop : (0x8000 : UInt16).toBitVec = BitVec.twoPow 16 15 := rfl
  rw [← UInt16.toBitVec_inj, UInt16.toBitVec_and, htop, BitVec.and_twoPow,
    BitVec.msb_eq_getLsbD_last]
  cases crc.toBitVec.getLsbD 15 <;> simp

theorem shift_xor (a b : UInt16) : shift (a ^^^ b) = shift a ^^^ shift b := by
  -- the polynomial that both sides bring in goes out again
  have hcancel : ∀ x y p : UInt16, x ^^^ y = x ^^^ p ^^^ (y ^^^ p) := by
    intro x y p
    rw [UInt16.xor_comm y, ← UInt16.xor_assoc, UInt16.xor_assoc x, UInt16.xor_self,
      UInt16.xor_zero]
  simp only [shift, and_top_eq_zero_iff, UInt16.toBitVec_xor, BitVec.msb_xor, UInt16.shiftLeft_xor]
  cases a.toBitVec.msb <;> cases b.toBitVec.msb
  · rfl
  · exact UInt16.xor_assoc _ _ _
  · simp only [Bool.true_xor, Bool.not_false, Bool.true_eq_false, if_true, if_false]
    ac_rfl
  · exact hcancel _ _ _

theorem repeat_shift_xor (n : Nat) (a b : UInt16) :
    Nat.repeat shift n (a ^^^ b) = Nat.repeat shift n a ^^^ Nat.repeat shift n b := by
  induction n with
  | zero => rfl
  | succ n ih => simp only [Nat.repeat, ih, shift_xor]

theorem repeat_shift_add (m n : Nat) (crc : UInt16) :
    Nat.repeat shift (m + n) crc = Nat.repeat shift m (Nat.repeat shift n crc) := by
  induction m with
  | zero => rw [Nat.zero_add]; rfl
  | succ m ih => rw [Nat.succ_add, Nat.repeat, ih, Nat.repeat]

theorem addByte_xor (crc e : UInt16) (b : UInt8) :
    addByte (crc ^^^ e) b = addByte crc b ^^^ Nat.repeat shift 8 e := by
  have hmove : crc ^^^ e ^^^ (b.toUInt16 <<< 8) = crc ^^^ (b.toUInt16 <<< 8) ^^^ e := by ac_rfl
  rw [addByte, hmove, repeat_shift_xor, addByte]

theorem addByte_xor_byte (crc : UInt16) (b e : UInt8) :
    addByte crc (b ^^^ e) = addByte crc b ^^^ Nat.repeat shift 8 (e.toUInt16 <<< 8) := by
  rw [addByte, UInt8.toUInt16_xor, UInt16.shiftLeft_xor, ← UInt16.xor_assoc, repeat_shift_xor,
    addByte]

theorem foldl_addByte_xor (bytes : List UInt8) (crc e : UInt16) :
    bytes.foldl addByte (crc ^^^ e) =
      bytes.foldl addByte crc ^^^ Nat.repeat shift (bytes.length * 8) e := by
  induction bytes generalizing crc e with
  | nil => simp [Nat.repeat]
  | cons b bytes ih =>
    rw [List.foldl_cons, List.foldl_cons, addByte_xor, ih, List.length_cons, Nat.succ_mul,
      repeat_shift_add]

theorem remainder_xor_byte (front back : List UInt8) (b e : UInt8) :
    remainder (front ++ (b ^^^ e) :: back) =
      remainder (front ++ b :: back) ^^^
        Nat.repeat shift (back.length * 8 + 8) (e.toUInt16 <<< 8) := by
  simp only [remainder, List.foldl_append, List.foldl_cons]
  rw [addByte_xor_byte, foldl_addByte_xor, repeat_shift_add]

/-- The byte in which only bit `j` is set. -/
def bit (j : Nat) : UInt8 :=
  1 <<< UInt8.ofNat j

def flipBit (bytes : List UInt8) (i j : Nat) : List UInt8 :=
  bytes.modify i (· ^^^ bit j)

@[simp] theorem length_flipBit (bytes : List UInt8) (i j : Nat) :
    (flipBit bytes i j).length = bytes.length := by
  simp [flipBit]

def power (k : Nat) : UInt16 :=
  Nat.repeat shift k 1

theorem bit_shiftLeft {j : Nat} (h : j < 8) : (bit j).toUInt16 <<< 8 = power (8 + j) := by
  have hall : ∀ j < 8, (bit j).toUInt16 <<< 8 = power (8 + j) := by decide
  exact hall j h

/-- Which power it is depends on how far the bit is from the end. -/
theorem remainder_flipBit {bytes : List UInt8} {i j : Nat} (hi : i < bytes.length) (hj : j < 8) :
    remainder (flipBit bytes i j) =
      remainder bytes ^^^ power ((bytes.length - i) * 8 + 8 + j) := by
  have hbehind : (bytes.drop (i + 1)).length * 8 + 8 + (8 + j) = (bytes.length - i) * 8 + 8 + j := by
    rw [List.length_drop]
    omega
  rw [flipBit, List.modify_eq_take_cons_drop hi, remainder_xor_byte, bit_shiftLeft hj, power,
    ← repeat_shift_add, hbehind, ← power, List.getElem_cons_drop, List.take_append_drop]

end Checksum

end HybridInverter
