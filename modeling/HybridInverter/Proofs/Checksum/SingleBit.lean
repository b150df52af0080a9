import HybridInverter.Proofs.Checksum

/-!
Single bits and the bytes that framing reserves. Raising a reserved byte makes one checksum of two
remainders; then the two differ by no more than three in either byte. Among the residues of powers
of `x` by which one flipped bit changes the remainder of up to 1022 bytes there is one so slight,
that of the power 2198, and it goes unseen behind two checksums only.
-/
namespace HybridInverter
namespace Checksum

theorem eq_iff_high_low {a b : UInt16} : a = b ↔ high a = high b ∧ low a = low b := by
  constructor
  · rintro rfl
    exact ⟨rfl, rfl⟩
  · rintro ⟨hhigh, hlow⟩
    rw [← ofBytes_toBytes a, ← ofBytes_toBytes b, toBytes, toBytes, hhigh, hlow]

theorem high_xor (a b : UInt16) : high (a ^^^ b) = high a ^^^ high b := by
  simp [high, UInt16.shiftRight_xor]

theorem low_xor (a b : UInt16) : low (a ^^^ b) = low a ^^^ low b := by
  simp [low]

def raise (b : UInt8) : UInt8 :=
  if isReserved b then b + 1 else b

section

variable {crc : UInt16}

theorem high_succ (h : isReserved (low crc)) : high (crc + 1) = high crc := by
  obtain ⟨hs, hc⟩ := toNat_succ_of_isReserved_low h
  rw [← UInt8.toNat_inj, toNat_high, toNat_high, hs]
  omega

theorem low_succ (h : isReserved (low crc)) : low (crc + 1) = low crc + 1 := by
  obtain ⟨hs, hc⟩ := toNat_succ_of_isReserved_low h
  rw [← UInt8.toNat_inj, UInt8.toNat_add, toNat_low, toNat_low, hs, UInt8.toNat_one]
  omega

theorem high_add (h : isReserved (high crc)) : high (crc + 0x100) = high crc + 1 := by
  have hs := toNat_add_of_isReserved_high h
  have hc := (crc + 0x100).toNat_lt
  rw [← UInt8.toNat_inj, UInt8.toNat_add, toNat_high, toNat_high, UInt8.toNat_one]
  omega

theorem low_add (h : isReserved (high crc)) : low (crc + 0x100) = low crc := by
  have hs := toNat_add_of_isReserved_high h
  rw [← UInt8.toNat_inj, toNat_low, toNat_low, hs]
  omega

end

theorem high_low_avoidReserved (crc : UInt16) :
    high (avoidReserved crc) = raise (high crc) ∧ low (avoidReserved crc) = raise (low crc) := by
  have hlow : ∀ raised, high raised = high crc → low raised = raise (low crc) →
      let sent := if isReserved (high raised) then raised + 0x100 else raised
      high sent = raise (high crc) ∧ low sent = raise (low crc) := by
    intro raised hhigh hlow
    rw [← hhigh, ← hlow, raise]
    split
    · next h => exact ⟨high_add h, low_add h⟩
    · exact ⟨rfl, rfl⟩
  rw [avoidReserved]
  split
  · next h => exact hlow _ (high_succ h) (by rw [low_succ h, raise, if_pos h])
  · next h => exact hlow _ rfl (by rw [raise, if_neg h])

theorem avoidReserved_eq_iff {a b : UInt16} : avoidReserved a = avoidReserved b ↔
    raise (high a) = raise (high b) ∧ raise (low a) = raise (low b) := by
  rw [eq_iff_high_low, (high_low_avoidReserved a).1, (high_low_avoidReserved a).2,
    (high_low_avoidReserved b).1, (high_low_avoidReserved b).2]

theorem eq_succ_of_raise_eq {a b : UInt8} (h : raise a = raise b) :
    a = b ∨ isReserved a ∧ b = a + 1 ∨ isReserved b ∧ a = b + 1 := by
  simp only [raise] at h
  split at h <;> split at h
  · exact .inl (by simpa using h)
  · next ha _ => exact .inr (.inl ⟨ha, h.symm⟩)
  · next hb => exact .inr (.inr ⟨hb, h⟩)
  · exact .inl h

theorem xor_succ_le_three {b : UInt8} (h : isReserved b) : b ^^^ (b + 1) ≤ 3 := by
  simp only [isReserved, Bool.or_eq_true, beq_iff_eq] at h
  rcases h with (rfl | rfl) | rfl <;> decide

theorem xor_le_three_of_raise_eq {a b : UInt8} (h : raise a = raise b) : a ^^^ b ≤ 3 := by
  rcases eq_succ_of_raise_eq h with rfl | ⟨hr, rfl⟩ | ⟨hr, rfl⟩
  · rw [UInt8.xor_self]
    decide
  · exact xor_succ_le_three hr
  · rw [UInt8.xor_comm]
    exact xor_succ_le_three hr

theorem raise_xor_one_iff (b : UInt8) :
    raise (b ^^^ 1) = raise b ↔ raise b = 0x29 ∨ raise b = 0x0B := by
  have hall : ∀ n : Fin 256, raise (.ofFin n ^^^ 1) = raise (.ofFin n) ↔
      raise (.ofFin n) = 0x29 ∨ raise (.ofFin n) = 0x0B := by decide +kernel
  exact hall b.toFin

theorem raise_xor_three_iff (b : UInt8) : raise (b ^^^ 3) = raise b ↔ raise b = 0x0E := by
  have hall : ∀ n : Fin 256, raise (.ofFin n ^^^ 3) = raise (.ofFin n) ↔
      raise (.ofFin n) = 0x0E := by decide +kernel
  exact hall b.toFin

/-- No more than three in either byte. -/
def Slight (crc : UInt16) : Prop :=
  high crc ≤ 3 ∧ low crc ≤ 3

instance (crc : UInt16) : Decidable (Slight crc) :=
  inferInstanceAs (Decidable (high crc ≤ 3 ∧ low crc ≤ 3))

/-- Only a slight difference can go unseen. -/
theorem slight_of_avoidReserved_eq {crc e : UInt16}
    (h : avoidReserved (crc ^^^ e) = avoidReserved crc) : Slight e := by
  have hback : ∀ a b : UInt8, b = (a ^^^ b) ^^^ a := by
    intro a b
    rw [UInt8.xor_comm a, UInt8.xor_assoc, UInt8.xor_self, UInt8.xor_zero]
  rw [avoidReserved_eq_iff, high_xor, low_xor] at h
  constructor
  · rw [hback (high crc) (high e)]
    exact xor_le_three_of_raise_eq h.1
  · rw [hback (low crc) (low e)]
    exact xor_le_three_of_raise_eq h.2

theorem avoidReserved_xor_0301_iff (crc : UInt16) :
    avoidReserved (crc ^^^ 0x0301) = avoidReserved crc ↔
      avoidReserved crc = 0x0E29 ∨ avoidReserved crc = 0x0E0B := by
  obtain ⟨hhigh, hlow⟩ := high_low_avoidReserved crc
  have hthree : high 0x0301 = 3 := by decide
  have hone : low 0x0301 = 1 := by decide
  rw [avoidReserved_eq_iff, high_xor, low_xor, hthree, hone, raise_xor_three_iff,
    raise_xor_one_iff, eq_iff_high_low, eq_iff_high_low, hhigh, hlow, and_or_left]
  rfl

/-- The slight ones among `n` powers from the `k`-th on, which is `crc`. -/
def slightFrom : Nat → Nat → UInt16 → List (Nat × UInt16)
  | 0, _, _ => []
  | n + 1, k, crc =>
    if Slight crc then (k, crc) :: slightFrom n (k + 1) (shift crc)
    else slightFrom n (k + 1) (shift crc)

theorem mem_slightFrom_iff {n k m : Nat} {crc : UInt16} : (m, crc) ∈ slightFrom n k (power k) ↔
    (k ≤ m ∧ m < k + n) ∧ crc = power m ∧ Slight crc := by
  induction n generalizing k with
  | zero =>
    simp only [slightFrom, List.not_mem_nil, false_iff, not_and]
    omega
  | succ n ih =>
    have hnext : shift (power k) = power (k + 1) := rfl
    have hfirst : (m, crc) = (k, power k) ↔ m = k ∧ crc = power m := by
      rw [Prod.mk.injEq]
      exact and_congr_right fun hm => by rw [hm]
    have hrange : k ≤ m ∧ m < k + (n + 1) ↔ m = k ∨ k + 1 ≤ m ∧ m < k + 1 + n := by omega
    rw [slightFrom, hnext]
    split
    · next hs =>
      rw [List.mem_cons, ih, hfirst, hrange]
      grind
    · next hs =>
      rw [ih, hrange]
      grind

theorem slightFrom_sixteen : slightFrom 8176 16 (power 16) = [(2198, 0x0301)] := by
  decide +kernel

theorem power_2198 : power 2198 = 0x0301 := by
  have hmem : (2198, 0x0301) ∈ slightFrom 8176 16 (power 16) := by simp [slightFrom_sixteen]
  exact (mem_slightFrom_iff.mp hmem).2.1.symm

theorem eq_2198_of_slight {k : Nat} (hlow : 16 ≤ k) (hhigh : k < 8192) (h : Slight (power k)) :
    k = 2198 := by
  have hmem : (k, power k) ∈ slightFrom 8176 16 (power 16) :=
    mem_slightFrom_iff.mpr ⟨⟨hlow, hhigh⟩, rfl, h⟩
  rw [slightFrom_sixteen, List.mem_singleton] at hmem
  exact congrArg Prod.fst hmem

/-- A flipped bit leaves the checksum as it is only when it is bit 6 of the byte with 272 bytes behind
it, and the checksum is one of two. -/
theorem of_flipBit_eq_iff {bytes : List UInt8} {i j : Nat} (hi : i < bytes.length) (hj : j < 8)
    (hlen : bytes.length ≤ 1022) : of (flipBit bytes i j) = of bytes ↔
      bytes.length = i + 273 ∧ j = 6 ∧ (of bytes = 0x0E29 ∨ of bytes = 0x0E0B) := by
  rw [of, remainder_flipBit hi hj, of]
  constructor
  · intro h
    have hk := eq_2198_of_slight (by omega) (by omega) (slight_of_avoidReserved_eq h)
    rw [hk, power_2198, avoidReserved_xor_0301_iff] at h
    exact ⟨by omega, by omega, h⟩
  · rintro ⟨hplace, rfl, h⟩
    have hk : (bytes.length - i) * 8 + 8 + 6 = 2198 := by omega
    rw [hk, power_2198, avoidReserved_xor_0301_iff]
    exact h

end Checksum
end HybridInverter
