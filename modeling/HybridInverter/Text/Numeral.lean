/-!
Whole numbers as text: decimal digits read with or without a bound, hexadecimal digits read in either
case, padded decimals and hexadecimals written to a width.
-/
namespace HybridInverter
namespace Numeral

inductive Fault where
  | empty
  | notDigit
  | tooLarge
  deriving DecidableEq, Repr

def Fault.message : Fault → String
  | .empty => "cannot parse integer from empty string"
  | .notDigit => "invalid digit found in string"
  | .tooLarge => "number too large to fit in target type"

def digitValue (c : Char) : Nat :=
  c.toNat - '0'.toNat

def valueFrom (before : Nat) (digits : List Char) : Nat :=
  digits.foldl (fun n c => n * 10 + digitValue c) before

def value (digits : List Char) : Nat :=
  valueFrom 0 digits

/-- Digits are checked one by one, each before its number, so the first fault wins. -/
def readFrom (limit before : Nat) : List Char → Except Fault Nat
  | [] => .ok before
  | c :: rest =>
    if !c.isDigit then .error .notDigit
    else
      let n := before * 10 + digitValue c
      if limit < n then .error .tooLarge else readFrom limit n rest

/-- A non-empty run of digits of value at most `limit`. -/
def readDigits (limit : Nat) (text : List Char) : Except Fault Nat :=
  if text.isEmpty then .error .notDigit else readFrom limit 0 text

def readNat (limit : Nat) : List Char → Except Fault Nat
  | [] => .error .empty
  | '+' :: rest => readDigits limit rest
  | text => readDigits limit text

/-- Numbers of 64 bits lie from minus this on, and below this. -/
def int64Bound : Nat :=
  Nat.pow 2 63

def readInt64 : List Char → Except Fault Int
  | [] => .error .empty
  | '-' :: rest => (readDigits int64Bound rest).map fun n => -(n : Int)
  | '+' :: rest => (readDigits (int64Bound - 1) rest).map fun n => (n : Int)
  | text => (readDigits (int64Bound - 1) text).map fun n => (n : Int)

def unsigned (bits : Nat) : Nat :=
  Nat.pow 2 bits - 1

def decimal (n : Nat) : List Char :=
  Nat.toDigits 10 n

def padZeros (width : Nat) (digits : List Char) : List Char :=
  List.replicate (width - digits.length) '0' ++ digits

/-- The sign takes part in the width, and the zeros stand behind it. -/
def padded (width : Nat) (n : Int) : List Char :=
  if n < 0 then '-' :: padZeros (width - 1) (decimal n.natAbs) else padZeros width (decimal n.natAbs)

def signed (n : Int) : List Char :=
  padded 0 n

def field (width : Nat) (n : Int) : String :=
  String.ofList (padded width n)

def hex (width n : Nat) : List Char :=
  padZeros width (Nat.toDigits 16 n)

def hexDigit? (c : Char) : Option Nat :=
  if '0' ≤ c ∧ c ≤ '9' then some (c.toNat - 48)
  else if 'a' ≤ c ∧ c ≤ 'f' then some (c.toNat - 87)
  else if 'A' ≤ c ∧ c ≤ 'F' then some (c.toNat - 55)
  else none

def hexValue (digits : List Char) : Option Nat :=
  digits.foldlM (fun n c => (hexDigit? c).map (n * 16 + ·)) 0

@[simp] theorem padZeros_zero (digits : List Char) : padZeros 0 digits = digits := by
  simp [padZeros]

end Numeral
end HybridInverter
