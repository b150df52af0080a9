import HybridInverter.BinaryFloat
import Mathlib.Algebra.Group.Nat.Defs

/-!
Decimal literals, and ten times the number that one stands for, to the nearest whole one. The result
is a whole number with the sign of the number, or it is too large for the format; what is read of it in
64 bits is that number where it fits, and the bound of its sign where it does not.
-/
namespace HybridInverter

namespace BinaryFloat

theorem isSome_readUnsigned (f g : BinaryFormat) (negative : Bool) (text : List Char) :
    (readUnsigned f negative text).isSome = (readUnsigned g negative text).isSome := by
  cases h : Literal.read text with
  | some x => simp only [readUnsigned, h, Option.isSome_some]
  | none => simp only [readUnsigned, h]

/-- The format decides which number a text is, not whether it is one. -/
theorem isSome_read (f g : BinaryFormat) (text : List Char) :
    (read f text).isSome = (read g text).isSome := by
  unfold read
  split <;> exact isSome_readUnsigned f g _ _

theorem toInt64_bounds (x : BinaryFloat) :
    -(Numeral.int64Bound : Int) ≤ x.toInt64 ∧ x.toInt64 < Numeral.int64Bound := by
  have hpos : 0 < Numeral.int64Bound := by decide
  cases x with
  | nan => simp only [toInt64]; omega
  | infinite s => cases s <;> simp [toInt64] <;> omega
  | finite s m e => simp only [toInt64]; omega

def tenths (x : BinaryFloat) : BinaryFloat :=
  (mul .double x (.ofInt .double 10)).round .double

def toInt? : BinaryFloat → Option Int
  | .finite s m e =>
    let (a, b) := ratio m e
    let n : Int := (a / b : Nat)
    if a % b = 0 then some (if s then -n else n) else none
  | _ => none

/-- The bound of 64 bits on one side of zero. -/
def int64End (negative : Bool) : Int :=
  if negative then -Numeral.int64Bound else Numeral.int64Bound - 1

theorem nearestEven_one (n : Nat) : nearestEven n 1 = n := by
  simp [nearestEven, Nat.mod_one]

theorem isSome_toInt?_of_dvd {s : Bool} {m : Nat} {e : Int} (h : 0 ≤ e ∨ 2 ^ (-e).toNat ∣ m) :
    (toInt? (.finite s m e)).isSome := by
  have hdiv : (ratio m e).1 % (ratio m e).2 = 0 := by
    rw [ratio, inUnits]
    split
    · next he =>
      rcases h with hpos | hdvd
      · have hzero : (-e).toNat = 0 := by omega
        simp [hzero, Nat.mod_one]
      · rw [Nat.one_mul]
        exact Nat.mod_eq_zero_of_dvd hdvd
    · exact Nat.mod_one _
  simp [toInt?, hdiv]

theorem ofRatio_cases (f : BinaryFormat) (s : Bool) (num den : Nat) :
    ofRatio f s num den = .infinite s ∨ ∃ m e, ofRatio f s num den = .finite s m e := by
  simp only [ofRatio, zero]
  grind

/-- A number in units of a power has that power in it; the next power as well, when the number is
itself a power. -/
theorem pow_dvd_pow_pred {n p k : Nat} (h : n * 2 ^ (k + 1) = 2 ^ p) : 2 ^ k ∣ 2 ^ (p - 1) := by
  have hdvd : 2 ^ (k + 1) ∣ 2 ^ p := ⟨n, by rw [← h, Nat.mul_comm]⟩
  have hle := (Nat.pow_dvd_pow_iff_le_right (Nat.lt_succ_self 1)).mp hdvd
  exact Nat.pow_dvd_pow 2 (by omega)

theorem whole_of_ofRatio_one {f : BinaryFormat} {s s' : Bool} {n m : Nat} {e : Int}
    (h : ofRatio f s n 1 = .finite s' m e) : 0 ≤ e ∨ 2 ^ (-e).toNat ∣ m := by
  by_cases hn : n = 0
  · rw [ofRatio, if_pos hn, zero] at h
    obtain ⟨-, rfl, -⟩ := BinaryFloat.finite.inj h
    exact .inr (Nat.dvd_zero _)
  simp only [ofRatio, if_neg hn] at h
  generalize unitOf f n 1 = u at h
  by_cases hu : 0 ≤ u
  · -- the unit is a whole number, and so is every multiple of it
    left
    split at h <;> split at h <;> cases h <;> omega
  · have hunits : inUnits n 1 u = (n * 2 ^ (-u).toNat, 1) := if_neg hu
    rw [hunits, nearestEven_one] at h
    split at h
    · next hp =>
      have hk : (-u).toNat = (-(u + 1)).toNat + 1 := by omega
      rw [hk] at hp
      split at h <;> cases h
      exact .inr (pow_dvd_pow_pred hp)
    · split at h <;> cases h
      exact .inr (Nat.dvd_mul_left _ _)

theorem toInt64_of_toInt? {x : BinaryFloat} {n : Int} (h : x.toInt? = some n) :
    x.toInt64 = max (-(Numeral.int64Bound : Int)) (min ((Numeral.int64Bound : Int) - 1) n) := by
  cases x with
  | nan | infinite => cases h
  | finite s m e =>
    simp only [toInt?] at h
    split at h
    · obtain rfl := Option.some.inj h
      rfl
    · cases h

theorem sign_of_toInt? {s : Bool} {m : Nat} {e n : Int} (h : toInt? (.finite s m e) = some n) :
    if s then n ≤ 0 else 0 ≤ n := by
  simp only [toInt?] at h
  split at h
  · have hquotient := Int.natCast_nonneg ((ratio m e).1 / (ratio m e).2)
    obtain rfl := Option.some.inj h
    cases s
    · exact hquotient
    · exact Int.neg_nonpos_of_nonneg hquotient
  · cases h

theorem toInt64_of_fits {x : BinaryFloat} {n : Int} (h : x.toInt? = some n)
    (hlow : -(Numeral.int64Bound : Int) ≤ n) (hhigh : n < Numeral.int64Bound) : x.toInt64 = n := by
  rw [toInt64_of_toInt? h]
  omega

/-- What does not fit is held at the bound of its sign. -/
theorem toInt64_of_not_fits {s : Bool} {m : Nat} {e n : Int} (h : toInt? (.finite s m e) = some n)
    (hout : n < -(Numeral.int64Bound : Int) ∨ (Numeral.int64Bound : Int) ≤ n) :
    toInt64 (.finite s m e) = int64End s := by
  have hsign := sign_of_toInt? h
  have hpos : 0 < Numeral.int64Bound := by decide
  rw [toInt64_of_toInt? h, int64End]
  cases s
  · simp at hsign ⊢
    omega
  · simp at hsign ⊢
    omega

theorem ofInt_ten : ofInt .double 10 = .finite false 5629499534213120 (-49) := by
  decide +kernel

@[simp] theorem tenths_infinite (s : Bool) : tenths (.infinite s) = .infinite s := by
  rw [tenths, ofInt_ten]
  simp [mul, round]

theorem tenths_finite (s : Bool) (m : Nat) (e : Int) :
    tenths (.finite s m e) = .infinite s ∨
      ∃ m' e' n, tenths (.finite s m e) = .finite s m' e' ∧ toInt? (.finite s m' e') = some n := by
  have hround (m : Nat) (e : Int) : round .double (.finite s m e) = .infinite s ∨
      ∃ m' e' n, round .double (.finite s m e) = .finite s m' e' ∧
        toInt? (.finite s m' e') = some n := by
    rcases ofRatio_cases .double s (nearestUp (ratio m e).1 (ratio m e).2) 1 with h | ⟨m', e', h⟩
    · exact .inl h
    · obtain ⟨n, hn⟩ := Option.isSome_iff_exists.mp (isSome_toInt?_of_dvd (whole_of_ofRatio_one h))
      exact .inr ⟨m', e', n, h, hn⟩
  rw [tenths, ofInt_ten]
  have hmul : mul .double (.finite s m e) (.finite false 5629499534213120 (-49)) =
      ofRatio .double s (ratio (m * 5629499534213120) (e + -49)).1
        (ratio (m * 5629499534213120) (e + -49)).2 := by
    simp only [mul, Bool.bne_false]
  rw [hmul]
  rcases ofRatio_cases .double s (ratio (m * 5629499534213120) (e + -49)).1
    (ratio (m * 5629499534213120) (e + -49)).2 with h | ⟨m', e', h⟩
  · exact .inl (by rw [h]; rfl)
  · rw [h]
    exact hround m' e'

end BinaryFloat

end HybridInverter
