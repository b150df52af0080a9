import HybridInverter.Text.Numeral

/-!
Binary floating point in exact arithmetic. A finite number is a sign, a mantissa and a power of
two; every operation takes the exact result, a quotient of natural numbers, and rounds it once to
the nearest number of the format, a tie to the even mantissa. So does reading a decimal literal.
Numbers are written to a fixed number of places, or with the fewest digits that read back as the
same number: on the grid of one digit, then of two and so on, the two neighbours of the number are
tried, and the first grid with a neighbour that rounds to the number wins.
-/
namespace HybridInverter

/-- Mantissas of at most `precision` bits times a power of two between the two exponents. -/
structure BinaryFormat where
  precision : Nat
  leastExponent : Int
  greatestExponent : Int

namespace BinaryFormat

def single : BinaryFormat := ⟨24, -149, 104⟩
def double : BinaryFormat := ⟨53, -1074, 971⟩

end BinaryFormat

/-- A finite number is `mantissa * 2 ^ exponent`. -/
inductive BinaryFloat where
  | nan
  | infinite (negative : Bool)
  | finite (negative : Bool) (mantissa : Nat) (exponent : Int)
  deriving DecidableEq, Repr

namespace BinaryFloat

/-- The quotient `num / den` in units of `2 ^ exponent`. -/
def inUnits (num den : Nat) (exponent : Int) : Nat × Nat :=
  if 0 ≤ exponent then (num, den * Nat.pow 2 exponent.toNat)
  else (num * Nat.pow 2 (-exponent).toNat, den)

/-- The nearest whole number, a tie to the even one. -/
def nearestEven (num den : Nat) : Nat :=
  let q := num / den
  let twice := 2 * (num % den)
  if den < twice ∨ (twice = den ∧ q % 2 = 1) then q + 1 else q

/-- The nearest whole number, a tie to the larger one. -/
def nearestUp (num den : Nat) : Nat :=
  (2 * num + den) / (2 * den)

def zero (f : BinaryFormat) (negative : Bool) : BinaryFloat :=
  .finite negative 0 f.leastExponent

/-- The least exponent at which `num / den` has a mantissa of at most `precision` bits. -/
def unitOf (f : BinaryFormat) (num den : Nat) : Int :=
  let low := max f.leastExponent ((num.log2 : Int) - den.log2 - f.precision)
  let (a, b) := inUnits num den low
  if Nat.pow 2 f.precision ≤ a / b then low + 1 else low

/-- The number of the format nearest to `num / den`, with the given sign. -/
def ofRatio (f : BinaryFormat) (negative : Bool) (num den : Nat) : BinaryFloat :=
  if num = 0 then zero f negative
  else
    let e := unitOf f num den
    let (a, b) := inUnits num den e
    let m := nearestEven a b
    let (m, e) := if m = Nat.pow 2 f.precision then (Nat.pow 2 (f.precision - 1), e + 1) else (m, e)
    if f.greatestExponent < e then .infinite negative else .finite negative m e

def ofInt (f : BinaryFormat) (n : Int) : BinaryFloat :=
  ofRatio f (n < 0) n.natAbs 1

def ratio (mantissa : Nat) (exponent : Int) : Nat × Nat :=
  inUnits mantissa 1 (-exponent)

def mul (f : BinaryFormat) : BinaryFloat → BinaryFloat → BinaryFloat
  | .nan, _ | _, .nan => .nan
  | .infinite s, .infinite t => .infinite (s != t)
  | .infinite s, .finite t m _ | .finite t m _, .infinite s =>
    if m = 0 then .nan else .infinite (s != t)
  | .finite s m e, .finite t n d =>
    let (a, b) := ratio (m * n) (e + d)
    ofRatio f (s != t) a b

def div (f : BinaryFormat) : BinaryFloat → BinaryFloat → BinaryFloat
  | .nan, _ | _, .nan => .nan
  | .infinite _, .infinite _ => .nan
  | .infinite s, .finite t _ _ => .infinite (s != t)
  | .finite s _ _, .infinite t => zero f (s != t)
  | .finite s m e, .finite t n d =>
    if n = 0 then (if m = 0 then .nan else .infinite (s != t))
    else
      let (a, b) := ratio m e
      let (c, d) := ratio n d
      ofRatio f (s != t) (a * d) (b * c)

def round (f : BinaryFormat) : BinaryFloat → BinaryFloat
  | .finite s m e =>
    let (a, b) := ratio m e
    ofRatio f s (nearestUp a b) 1
  | x => x

/-- Powers by squaring, from the lowest bit of the exponent up; every product is rounded. -/
def power (f : BinaryFormat) (base acc : BinaryFloat) (n : Nat) : BinaryFloat :=
  let acc := if n % 2 = 1 then mul f acc base else acc
  if h : n / 2 = 0 then acc else power f (mul f base base) acc (n / 2)
termination_by n
decreasing_by omega

/-- Towards zero, held within 64 bits; not a number counts as zero. -/
def toInt64 : BinaryFloat → Int
  | .nan => 0
  | .infinite s => if s then -Numeral.int64Bound else Numeral.int64Bound - 1
  | .finite s m e =>
    let (a, b) := ratio m e
    let n : Int := (a / b : Nat)
    max (-Numeral.int64Bound) (min (Numeral.int64Bound - 1) (if s then -n else n))

def le : BinaryFloat → BinaryFloat → Bool
  | .nan, _ | _, .nan => false
  | .infinite s, .infinite t => s || !t
  | .infinite s, .finite .. => s
  | .finite .., .infinite t => !t
  | .finite s m e, .finite t n d =>
    let (a, b) := ratio m e
    let (c, d) := ratio n d
    let x : Int := (a * d : Nat)
    let y : Int := (c * b : Nat)
    (if s then -x else x) ≤ (if t then -y else y)

def pointed (places n : Nat) : List Char :=
  let digits := Numeral.padZeros (places + 1) (Numeral.decimal n)
  let whole := digits.take (digits.length - places)
  if places = 0 then whole else whole ++ '.' :: digits.drop (digits.length - places)

def signMark (negative : Bool) : List Char :=
  if negative then ['-'] else []

def fixed (places : Nat) : BinaryFloat → List Char
  | .nan => "NaN".toList
  | .infinite s => signMark s ++ "inf".toList
  | .finite s m e =>
    let (a, b) := ratio m e
    signMark s ++ pointed places (nearestEven (a * Nat.pow 10 places) b)

/-- The value `digits * 10 ^ exponent`. -/
structure Literal where
  digits : Nat
  exponent : Int
  deriving DecidableEq, Repr

namespace Literal

/-- What stands behind the mark of an exponent: a sign or none, and digits. -/
def readExponent (text : List Char) : Option Int :=
  let (negative, digits) := match text with
    | '-' :: rest => (true, rest)
    | '+' :: rest => (false, rest)
    | rest => (false, rest)
  if digits.isEmpty || !digits.all Char.isDigit then none
  else
    let n : Int := Numeral.value digits
    some (if negative then -n else n)

/-- An unsigned literal. At least one digit stands before or behind the point. -/
def read (text : List Char) : Option Literal :=
  let whole := text.takeWhile Char.isDigit
  let rest := text.dropWhile Char.isDigit
  let (places, rest) := match rest with
    | '.' :: rest => (rest.takeWhile Char.isDigit, rest.dropWhile Char.isDigit)
    | rest => ([], rest)
  if (whole ++ places).isEmpty then none
  else
    let digits := Numeral.value (whole ++ places)
    match rest with
    | [] => some ⟨digits, -places.length⟩
    | c :: rest =>
      if c = 'e' ∨ c = 'E' then
        (readExponent rest).map fun e => ⟨digits, e - places.length⟩
      else none

/-- Beyond `10 ^ 400` every format overflows, and below `10 ^ -400` every one is at zero, so powers
of ten are only taken in between. -/
def toFloat (f : BinaryFormat) (negative : Bool) (x : Literal) : BinaryFloat :=
  let length : Int := (Numeral.decimal x.digits).length
  if x.digits = 0 ∨ length + x.exponent < -400 then zero f negative
  else if 400 < length + x.exponent then .infinite negative
  else if 0 ≤ x.exponent then ofRatio f negative (x.digits * Nat.pow 10 x.exponent.toNat) 1
  else ofRatio f negative x.digits (Nat.pow 10 (-x.exponent).toNat)

end Literal

def named (negative : Bool) (text : List Char) : Option BinaryFloat :=
  let name := String.ofList (text.map Char.toLower)
  if name = "inf" ∨ name = "infinity" then some (.infinite negative)
  else if name = "nan" then some .nan
  else none

def readUnsigned (f : BinaryFormat) (negative : Bool) (text : List Char) : Option BinaryFloat :=
  match Literal.read text with
  | some x => some (x.toFloat f negative)
  | none => named negative text

def read (f : BinaryFormat) : List Char → Option BinaryFloat
  | '-' :: rest => readUnsigned f true rest
  | '+' :: rest => readUnsigned f false rest
  | text => readUnsigned f false text

structure Decimal where
  digits : Nat
  exponent : Int
  deriving DecidableEq, Repr

namespace Decimal

def ratio (x : Decimal) : Nat × Nat :=
  if 0 ≤ x.exponent then (x.digits * Nat.pow 10 x.exponent.toNat, 1)
  else (x.digits, Nat.pow 10 (-x.exponent).toNat)

def trim (x : Decimal) : Decimal :=
  if h : 0 < x.digits ∧ x.digits % 10 = 0 then trim ⟨x.digits / 10, x.exponent + 1⟩ else x
termination_by x.digits
decreasing_by omega

end Decimal

/-- The numbers that round to a mantissa, in quarters of its unit: from `low` to `high`, the ends
themselves only when the mantissa is even. Below a power of two the spacing halves. -/
structure Interval where
  low : Nat
  high : Nat
  closed : Bool

def Interval.around (f : BinaryFormat) (m : Nat) (e : Int) : Interval :=
  { low := if m = Nat.pow 2 (f.precision - 1) ∧ f.leastExponent < e then 4 * m - 1 else 4 * m - 2
    high := 4 * m + 2
    closed := m % 2 = 0 }

def Interval.contains (i : Interval) (e : Int) (x : Decimal) : Bool :=
  let (a, b) := x.ratio
  let (num, den) := inUnits (4 * a) b e
  (i.low * den < num && num < i.high * den) ||
    (i.closed && (num == i.low * den || num == i.high * den))

/-- The number of digits before the point of `num / den`, counted down below one; `guess` is at
most four too small. -/
def magnitude (num den : Nat) (guess : Int) : Nat → Int
  | 0 => guess
  | steps + 1 =>
    let (a, b) := Decimal.ratio ⟨1, guess⟩
    if num * b < den * a then guess else magnitude num den (guess + 1) steps

/-- The neighbour to print on the grid of `10 ^ place`, if either reads back. -/
def onGrid (i : Interval) (e : Int) (num den : Nat) (place : Int) : Option Decimal :=
  let (a, b) :=
    if 0 ≤ place then (num, den * Nat.pow 10 place.toNat)
    else (num * Nat.pow 10 (-place).toNat, den)
  let below : Decimal := ⟨a / b, place⟩
  let above : Decimal := ⟨a / b + 1, place⟩
  match i.contains e below, i.contains e above with
  | true, true => some (if nearestEven a b = a / b then below else above)
  | true, false => some below
  | false, true => some above
  | false, false => none

def tryGrids (i : Interval) (e : Int) (num den : Nat) (place : Int) : Nat → Option Decimal
  | 0 => none
  | more + 1 =>
    match onGrid i e num den place with
    | some x => some x
    | none => tryGrids i e num den (place - 1) more

/-- Seventeen digits are always enough for a double. -/
def shortest (f : BinaryFormat) (m : Nat) (e : Int) : Decimal :=
  if m = 0 then ⟨0, 0⟩
  else
    let (num, den) := ratio m e
    let guess := ((num.log2 : Int) - den.log2) * 30103 / 100000 - 1
    let size := magnitude num den guess 4
    match tryGrids (.around f m e) e num den (size - 1) 17 with
    | some x => x.trim
    | none => ⟨m, e⟩

end BinaryFloat

end HybridInverter
