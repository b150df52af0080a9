import HybridInverter.Proofs.Text.Utf8

/-!
Bytes that need not be a text. A byte that continues no character ends what was begun in front of it,
and no character of several bytes is a comma. So commas stay where they are, and what stands between
two of them is read as if it stood alone. A text among other bytes is read as itself, and each of its
characters begins at a byte that continues none.
-/
namespace HybridInverter
namespace Utf8

def comma : UInt8 := 0x2C

/-- What a byte may leave begun: bytes from 128 on continue it, and its value comes to more than a
comma's. -/
def Partial.Sound (p : Partial) : Prop :=
  p.owed ≠ 0 → 0x80 ≤ p.low.toNat ∧ p.high.toNat ≤ 0xBF ∧
    (1 ≤ p.value ∨ p.owed ≠ 1 ∧ 0x81 ≤ p.low.toNat)

theorem sound_empty : Partial.Sound {} := fun h => absurd rfl h

theorem first_cases (b : UInt8) :
    b.toNat < 0x80 ∧ first b = ([Char.ofNat b.toNat], {}) ∨
      0x80 ≤ b.toNat ∧
        (first b = ([replacement], {}) ∨ ∃ p : Partial, first b = ([], p) ∧ p.Sound) := by
  by_cases hone : b.toNat < 0x80
  · exact .inl ⟨hone, first_one hone⟩
  refine .inr ⟨Nat.not_lt.mp hone, ?_⟩
  by_cases htwo : 0xC2 ≤ b.toNat ∧ b.toNat ≤ 0xDF
  · refine .inr ⟨_, first_two htwo.1 htwo.2, fun _ => ⟨Nat.le_refl _, Nat.le_refl _, .inl ?_⟩⟩
    simp only
    omega
  by_cases hthree : 0xE0 ≤ b.toNat ∧ b.toNat ≤ 0xEF
  · refine .inr ⟨_, first_three hthree.1 hthree.2, fun _ => ⟨?_, ?_, ?_⟩⟩
    · simp only
      split <;> decide
    · simp only
      split <;> decide
    · by_cases hleast : b.toNat = 0xE0
      · exact .inr ⟨by simp, by simp [hleast]⟩
      · left
        simp only
        omega
  by_cases hfour : 0xF0 ≤ b.toNat ∧ b.toNat ≤ 0xF4
  · refine .inr ⟨_, first_four hfour.1 hfour.2, fun _ => ⟨?_, ?_, ?_⟩⟩
    · simp only
      split <;> decide
    · simp only
      split <;> decide
    · by_cases hleast : b.toNat = 0xF0
      · exact .inr ⟨by simp, by simp [hleast]⟩
      · left
        simp only
        omega
  · left
    simp only [first, UInt8.lt_iff_toNat_lt, UInt8.le_iff_toNat_le, ← UInt8.toNat_inj]
    grind

theorem sound_first (b : UInt8) : (first b).2.Sound := by
  obtain ⟨-, h⟩ | ⟨-, h | ⟨p, h, hp⟩⟩ := first_cases b
  · rw [h]
    exact sound_empty
  · rw [h]
    exact sound_empty
  · rwa [h]

/-- A byte that continues no character: one stands alone, and another opens several. -/
def Opens (b : UInt8) : Prop :=
  b.toNat < 0x80 ∨ 0xC0 ≤ b.toNat

theorem step_cases {p : Partial} (hp : p.Sound) (b : UInt8) :
    step p b = ((if p.owed = 0 then [] else [replacement]) ++ (first b).1, (first b).2) ∨
      (0x80 ≤ b.toNat ∧ ¬ Opens b) ∧ ((∃ v, 64 ≤ v ∧ step p b = ([Char.ofNat v], {})) ∨
        ∃ p' : Partial, step p b = ([], p') ∧ p'.Sound) := by
  rw [step]
  split
  · exact .inl rfl
  · next howed =>
    obtain ⟨hlow, hhigh, hvalue⟩ := hp howed
    split
    · next hgoes =>
      rw [UInt8.le_iff_toNat_le, UInt8.le_iff_toNat_le] at hgoes
      have hcontinues : 0x80 ≤ b.toNat ∧ ¬ Opens b := by
        rw [Opens]
        omega
      refine .inr ⟨hcontinues, ?_⟩
      split
      · next hlast => exact .inl ⟨_, by omega, rfl⟩
      · refine .inr ⟨_, rfl, fun _ => ⟨Nat.le_refl _, Nat.le_refl _, .inl ?_⟩⟩
        simp only
        omega
    · exact .inl rfl

theorem sound_step {p : Partial} (hp : p.Sound) (b : UInt8) : (step p b).2.Sound := by
  obtain h | ⟨-, ⟨v, -, h⟩ | ⟨p', h, hp'⟩⟩ := step_cases hp b
  · rw [h]
    exact sound_first b
  · rw [h]
    exact sound_empty
  · rwa [h]

/-- A byte that opens begins anew, behind the replacement of what was begun. -/
theorem decodeFrom_append {b : UInt8} (hb : Opens b) (rest : List UInt8) {p : Partial}
    (hp : p.Sound) (bytes : List UInt8) :
    decodeFrom p (bytes ++ b :: rest) = decodeFrom p bytes ++ decode (b :: rest) := by
  induction bytes generalizing p with
  | nil =>
    have hread : decodeFrom p (b :: rest) = (step p b).1 ++ decodeFrom (step p b).2 rest := rfl
    obtain h | ⟨hmore, -⟩ := step_cases hp b
    · rw [List.nil_append, hread, h, List.append_assoc]
      rfl
    · exact absurd hb hmore.2
  | cons a bytes ih =>
    rw [List.cons_append, decodeFrom, decodeFrom, ih (sound_step hp a), List.append_assoc]

theorem decode_encode_append (text : List Char) (bytes : List UInt8) :
    decode (encode text ++ bytes) = text ++ decode bytes := by
  induction text with
  | nil => rfl
  | cons c text ih =>
    rw [encode_cons, List.append_assoc, decode, decodeFrom_utf8EncodeChar, ← decode, ih]
    rfl

theorem opens_utf8EncodeChar (c : Char) : ∃ b more, String.utf8EncodeChar c = b :: more ∧
    Opens b ∧ ∀ b' ∈ more, ¬ Opens b' := by
  have hu : c.val.toNat = c.toNat := rfl
  have hv := toNat_valid c
  simp only [String.utf8EncodeChar, hu]
  repeat' split
  all_goals
    refine ⟨_, _, rfl, ?_, ?_⟩
    · simp only [Opens, UInt8.toNat_ofNat']
      omega
    · simp only [List.mem_cons, List.not_mem_nil, or_false, false_implies, implies_true, Opens,
        forall_eq_or_imp, forall_eq, UInt8.toNat_ofNat'] <;> omega

theorem decode_append_encode (bytes : List UInt8) (text : List Char) :
    decode (bytes ++ encode text) = decode bytes ++ text := by
  cases text with
  | nil => rw [encode_nil, List.append_nil, List.append_nil]
  | cons c text =>
    obtain ⟨b, more, hencode, hopens, -⟩ := opens_utf8EncodeChar c
    have hread := decode_encode (c :: text)
    rw [encode_cons, hencode, List.cons_append] at hread ⊢
    rw [decode, decodeFrom_append hopens _ sound_empty, hread]
    rfl

/-- Where a byte of a text opens, the text divides. -/
theorem exists_split_of_opens {text : List Char} {place : Nat} {b : UInt8}
    (h : (encode text)[place]? = some b) (hopens : Opens b) :
    ∃ front back, text = front ++ back ∧ size front = place := by
  induction text generalizing place with
  | nil => cases h
  | cons c text ih =>
    obtain ⟨first, more, hencode, -, hmore⟩ := opens_utf8EncodeChar c
    have hlength := String.length_utf8EncodeChar c
    rw [encode_cons, List.getElem?_append] at h
    split at h
    · next hplace =>
      cases place with
      | zero => exact ⟨[], c :: text, rfl, rfl⟩
      | succ place =>
        rw [hencode, List.getElem?_cons_succ] at h
        exact absurd hopens (hmore b (List.mem_of_getElem? h))
    · next hplace =>
      obtain ⟨front, back, rfl, hsize⟩ := ih h
      refine ⟨c :: front, back, rfl, ?_⟩
      rw [size_cons]
      omega

theorem decode_singleton {b : UInt8} (h : 0x80 ≤ b.toNat) : decode [b] = [replacement] := by
  have hall : ∀ n < 256, 0x80 ≤ n → decode [UInt8.ofNat n] = [replacement] := by decide +kernel
  have hb := hall b.toNat b.toNat_lt h
  rwa [UInt8.ofNat_toNat] at hb

end Utf8
end HybridInverter
