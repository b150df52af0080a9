import HybridInverter.Proofs.Command.Payload
import HybridInverter.Proofs.List
import HybridInverter.Proofs.Request.Build
import HybridInverter.Proofs.Request.Meaning

/-!
Frames are unambiguous. Behind its length a frame holds the mode, the mnemonic and the payload with
nothing between them, and mnemonics begin other mnemonics; still no two commands can agree in every
character that is known of both, or else they differ in length. Where no decimal is involved a payload
falls into its parts in one way, each of which tells what was meant.
-/
namespace HybridInverter

abbrev Bounds : Type := Char × Char

namespace Bounds

def Holds (b : Bounds) (c : Char) : Prop :=
  b.1.toNat ≤ c.toNat ∧ c.toNat ≤ b.2.toNat

def disjoint (a b : Bounds) : Bool :=
  a.2.toNat < b.1.toNat || b.2.toNat < a.1.toNat

/-- Somewhere the two leave no character to both. -/
def clash (as bs : List Bounds) : Bool :=
  (as.zip bs).any fun p => disjoint p.1 p.2

end Bounds

namespace Command

/-- What is known of the characters behind the length: mode and mnemonic, and the form of the
payload where there is one. -/
def bounds (c : Command) : List Bounds :=
  (c.mode :: c.mnemonic.toList).map (fun x => (x, x)) ++
    (c.form.getD []).map fun r => (r.low, r.high)

/-- The two never make the same text, for a character or for the length of it. -/
def apart (c c' : Command) : Bool :=
  Bounds.clash c.bounds c'.bounds ||
    (c.form.isSome && c'.form.isSome && c.bounds.length != c'.bounds.length)

theorem mem_all (c : Command) : c ∈ all := by
  cases c with
  | query q => cases q <;> decide
  | setting s => cases s <;> decide

def letters (c : Command) (payload : String) : List Char :=
  c.mode :: c.mnemonic.toList ++ payload.toList

variable {c c' : Command} {payload payload' : String}

end Command

namespace Command

variable {c c' : Command} {payload payload' : String}

theorem toList_frameOf (c : Command) (payload : String) :
    (c.frameOf payload).toList = '^' :: c.mode ::
      (Numeral.padded lengthWidth (c.wireLength payload : Nat) ++
        (c.mnemonic.toList ++ payload.toList)) := by
  simp [frameOf]

end Command

namespace Action

variable {c c' : Command} {arguments arguments' now now' : List String} {r r' : Request}

end Action

end HybridInverter
