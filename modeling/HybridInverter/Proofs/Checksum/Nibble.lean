import HybridInverter.Proofs.Checksum.SingleBit
import Mathlib.Algebra.Group.Nat.Defs

/-!
Four bits at a time. A register whose top four bits are clear is only moved by four shifts, and what
four shifts make of the top four bits alone is an entry of the table. Shifting is linear, so folding
in a nibble from the table is four shifts, folding in a byte is two nibbles, and the checksum made
from the table is the one made bit by bit.
-/
namespace HybridInverter
namespace Checksum

theorem shift_of_lt {crc : UInt16} (h : crc.toNat < 0x8000) : shift crc = crc <<< 1 := by
  have hcrc : crc.toBitVec.toNat = crc.toNat := rfl
  have htop : crc.toBitVec.msb = false := by
    rw [BitVec.msb_eq_false_iff_two_mul_lt]
    omega
  rw [shift, if_pos ((and_top_eq_zero_iff crc).mpr htop)]

theorem toNat_repeat_shift (n : Nat) {crc : UInt16} (h : crc.toNat * 2 ^ n < 0x10000) :
    (Nat.repeat shift n crc).toNat = crc.toNat * 2 ^ n := by
  induction n with
  | zero => simp [Nat.repeat]
  | succ n ih =>
    rw [Nat.pow_succ, ← Nat.mul_assoc] at h ⊢
    have hmoved := ih (by omega)
    rw [Nat.repeat, shift_of_lt (by omega), UInt16.toNat_shiftLeft, hmoved, Nat.shiftLeft_eq]
    simp
    omega

theorem repeat_shift_four_of_lt {crc : UInt16} (h : crc.toNat < 0x1000) :
    Nat.repeat shift 4 crc = crc <<< 4 := by
  have hroom : crc.toNat * 2 ^ 4 < 0x10000 := by omega
  have hmoved := toNat_repeat_shift 4 hroom
  apply UInt16.toNat_inj.mp
  rw [hmoved, UInt16.toNat_shiftLeft]
  simp [Nat.shiftLeft_eq]
  omega

theorem eq_top_xor_rest (crc : UInt16) : crc = (crc >>> 12 <<< 12) ^^^ (crc &&& 0x0FFF) := by
  have hmask : ∀ i < 16, (0x0FFF#16).getLsbD i = decide (i < 12) := by decide
  apply UInt16.toBitVec_inj.mp
  apply BitVec.eq_of_getLsbD_eq
  intro i hi
  have hrest : (0x0FFF : UInt16).toBitVec.getLsbD i = decide (i < 12) := hmask i hi
  rw [UInt16.toBitVec_xor, UInt16.toBitVec_and, BitVec.getLsbD_xor, BitVec.getLsbD_and, hrest]
  by_cases hlow : i < 12
  · simp [hlow]
  · have hplace : 12 + (i - 12) = i := by omega
    simp [hlow, hi, hplace]

theorem toNat_top_lt (crc : UInt16) : (crc >>> 12).toNat < 16 := by
  have hcrc := crc.toNat_lt
  simp [Nat.shiftRight_eq_div_pow]
  omega

theorem toNat_rest_lt (crc : UInt16) : (crc &&& 0x0FFF).toNat < 0x1000 := by
  have hmask : (0x0FFF : UInt16).toNat = 2 ^ 12 - 1 := rfl
  rw [UInt16.toNat_and, hmask, Nat.and_two_pow_sub_one_eq_mod]
  omega

theorem forall_nibble {p : UInt16 → Prop} (h : ∀ n : Fin 16, p (UInt16.ofNat n)) {n : UInt16}
    (hn : n.toNat < 16) : p n := by
  have hp := h ⟨n.toNat, hn⟩
  rwa [UInt16.ofNat_toNat] at hp

theorem repeat_shift_four_top {n : UInt16} (hn : n.toNat < 16) :
    Nat.repeat shift 4 (n <<< 12) = Nibble.table.getD n.toNat 0 :=
  forall_nibble (p := fun n => Nat.repeat shift 4 (n <<< 12) = Nibble.table.getD n.toNat 0)
    (by decide) hn

theorem shiftLeft_four_top {n : UInt16} (hn : n.toNat < 16) : n <<< 12 <<< 4 = 0 :=
  forall_nibble (p := fun n => n <<< 12 <<< 4 = 0) (by decide) hn

theorem shiftRight_top {n : UInt16} (hn : n.toNat < 16) : n <<< 12 >>> 12 = n :=
  forall_nibble (p := fun n => n <<< 12 >>> 12 = n) (by decide) hn

theorem repeat_shift_four (crc : UInt16) :
    Nat.repeat shift 4 crc = (crc <<< 4) ^^^ Nibble.table.getD (crc >>> 12).toNat 0 := by
  have htop := toNat_top_lt crc
  have hmoved : crc <<< 4 = (crc &&& 0x0FFF) <<< 4 := by
    conv => lhs; rw [eq_top_xor_rest crc]
    rw [UInt16.shiftLeft_xor, shiftLeft_four_top htop, UInt16.zero_xor]
  calc Nat.repeat shift 4 crc
      = Nat.repeat shift 4 ((crc >>> 12 <<< 12) ^^^ (crc &&& 0x0FFF)) := by
        rw [← eq_top_xor_rest]
    _ = Nibble.table.getD (crc >>> 12).toNat 0 ^^^ ((crc &&& 0x0FFF) <<< 4) := by
        rw [repeat_shift_xor, repeat_shift_four_top htop,
          repeat_shift_four_of_lt (toNat_rest_lt crc)]
    _ = (crc <<< 4) ^^^ Nibble.table.getD (crc >>> 12).toNat 0 := by
        rw [hmoved, UInt16.xor_comm]

namespace Nibble

theorem addNibble_eq (crc : UInt16) {n : UInt16} (hn : n.toNat < 16) :
    addNibble crc n = Nat.repeat shift 4 (crc ^^^ (n <<< 12)) := by
  rw [repeat_shift_four, UInt16.shiftLeft_xor, shiftLeft_four_top hn, UInt16.xor_zero,
    UInt16.shiftRight_xor, shiftRight_top hn, addNibble]

/-- A byte is its high nibble in front of its low one, which four shifts move to the top. -/
theorem nibbles_of_byte (b : UInt8) :
    (b >>> 4).toUInt16.toNat < 16 ∧ (b &&& 0x0F).toUInt16.toNat < 16 ∧
      b.toUInt16 <<< 8 = ((b >>> 4).toUInt16 <<< 12) ^^^ ((b &&& 0x0F).toUInt16 <<< 8) ∧
      Nat.repeat shift 4 ((b &&& 0x0F).toUInt16 <<< 8) = (b &&& 0x0F).toUInt16 <<< 12 := by
  have hall : ∀ n : Fin 256, let b := UInt8.ofFin n
      (b >>> 4).toUInt16.toNat < 16 ∧ (b &&& 0x0F).toUInt16.toNat < 16 ∧
        b.toUInt16 <<< 8 = ((b >>> 4).toUInt16 <<< 12) ^^^ ((b &&& 0x0F).toUInt16 <<< 8) ∧
        Nat.repeat shift 4 ((b &&& 0x0F).toUInt16 <<< 8) = (b &&& 0x0F).toUInt16 <<< 12 := by
    decide +kernel
  exact hall b.toFin

/-- Two nibbles are eight shifts. -/
theorem addByte_eq (crc : UInt16) (b : UInt8) : addByte crc b = Checksum.addByte crc b := by
  obtain ⟨hhigh, hlow, hbyte, hmoved⟩ := nibbles_of_byte b
  calc addByte crc b
      = Nat.repeat shift 4 (Nat.repeat shift 4 (crc ^^^ ((b >>> 4).toUInt16 <<< 12)) ^^^
          ((b &&& 0x0F).toUInt16 <<< 12)) := by
        rw [addByte, addNibble_eq _ hlow, addNibble_eq _ hhigh]
    _ = Nat.repeat shift 4 (Nat.repeat shift 4 (crc ^^^ ((b >>> 4).toUInt16 <<< 12) ^^^
          ((b &&& 0x0F).toUInt16 <<< 8))) := by
        rw [repeat_shift_xor 4 (crc ^^^ _), hmoved]
    _ = Checksum.addByte crc b := by
        rw [UInt16.xor_assoc, ← hbyte, ← repeat_shift_add, Checksum.addByte]

theorem foldl_addByte_eq (bytes : List UInt8) (crc : UInt16) :
    bytes.foldl addByte crc = bytes.foldl Checksum.addByte crc := by
  induction bytes generalizing crc with
  | nil => rfl
  | cons b bytes ih => rw [List.foldl_cons, List.foldl_cons, addByte_eq, ih]

end Nibble

theorem ofBytes_toBytes_append (crc : UInt16) (rest : List UInt8) :
    ofBytes (toBytes crc ++ rest) = crc :=
  ofBytes_toBytes crc

/-- The checksum is the one made from the table nibble by nibble, each of its bytes raised on its
own, so that neither is one that framing reserves; and it is read back from any buffer that has room
for it, whose other bytes stay as they are. -/
theorem made_of_nibbles_and_read_back (bytes : List UInt8) :
    of bytes = Nibble.of bytes ∧
      (let sum := bytes.foldl Nibble.addByte 0
       high (of bytes) = raise (high sum) ∧ low (of bytes) = raise (low sum)) ∧
      (∀ b ∈ toBytes (of bytes), b ≠ 0x28 ∧ b ≠ 0x0D ∧ b ≠ 0x0A) ∧
      ∀ buffer : List UInt8, 2 ≤ buffer.length →
        let written := write (of bytes) buffer
        ofBytes written.1 = of bytes ∧ written.1.drop 2 = buffer.drop 2 ∧
          written.1.length = buffer.length ∧ written.2 = 2 := by
  have hsum : bytes.foldl Nibble.addByte 0 = remainder bytes := Nibble.foldl_addByte_eq bytes 0
  refine ⟨?_, ?_, fun b hb => ?_, fun buffer hroom => ⟨?_, ?_, ?_, rfl⟩⟩
  · rw [of, Nibble.of, hsum]
  · rw [hsum]
    exact high_low_avoidReserved (remainder bytes)
  · have hfree := not_isReserved_of_mem hb
    simpa [isReserved, not_or, and_assoc] using hfree
  · exact ofBytes_toBytes_append (of bytes) (buffer.drop 2)
  · exact List.drop_left' (length_toBytes _)
  · rw [write, List.length_append, length_toBytes, List.length_drop]
    omega

/-- The remainder `0xCB0A` ends in a line feed. -/
theorem made_of_nibbles_and_read_back_bumped :
    2 ≤ [0xFF, 0xFE, 0xFD].length ∧ of [0x20, 0x6A] = 0xCB0B ∧
      ofBytes (write (of [0x20, 0x6A]) [0xFF, 0xFE, 0xFD]).1 = of [0x20, 0x6A] ∧
      (write (of [0x20, 0x6A]) [0xFF, 0xFE, 0xFD]).1.drop 2 = [0xFD] := by
  obtain ⟨-, -, -, hbuffer⟩ := made_of_nibbles_and_read_back [0x20, 0x6A]
  obtain ⟨hread, hrest, -, -⟩ := hbuffer [0xFF, 0xFE, 0xFD] (by decide)
  exact ⟨by decide, by decide +kernel, hread, hrest⟩

end Checksum
end HybridInverter
