import HybridInverter.Log
import HybridInverter.Text.Basic
import HybridInverter.Text.Numeral

/-!
Payloads as lists. Tokens stand between commas, one comma at the end dividing nothing; each is cut
to a greatest size and read for the number it begins with. Nothing here fails.
-/
namespace HybridInverter

/-- The whole number a text begins with behind blanks and tabs, held within 64 bits on either side;
zero if there is none. -/
def leadingInt (text : List Char) : Int :=
  let rest := text.dropWhile fun c => c == ' ' || c == '\t'
  let (negative, rest) := match rest with
    | '-' :: rest => (true, rest)
    | '+' :: rest => (false, rest)
    | rest => (false, rest)
  let n : Int := min (Numeral.value (rest.takeWhile Char.isDigit)) (Numeral.int64Bound - 1)
  if negative then -n else n

/-- Numbers of 32 bits lie from minus this on, and below this. -/
def int32Bound : Nat :=
  Nat.pow 2 31

def clampInt32 (n : Int) : Int :=
  max (-int32Bound) (min (int32Bound - 1) n)

namespace Token

/-- The most bytes of a token that count. -/
def maxSize : Nat := 63

def int (t : List Char) : Int :=
  clampInt32 (leadingInt t)

def isOne (t : List Char) : Bool :=
  leadingInt t == 1

def isPositive (t : List Char) : Bool :=
  0 < leadingInt t

def text (most : Nat) (t : List Char) : String :=
  String.ofList (Utf8.take most t)

def segments (payload : List Char) : List (List Char) :=
  if payload.isEmpty then []
  else (if payload.getLast? = some ',' then payload.dropLast else payload).splitOn ','

def cut (segment : List Char) : List Char :=
  Utf8.take maxSize segment

/-- The tokens of a payload with their places, up to the expected number of them. -/
def all (expected : Option Nat) (payload : List Char) : List (Nat × List Char) :=
  ((segments payload).zipIdx.filter fun s => expected.all (s.2 < ·)).map fun s => (s.2, cut s.1)

/-- The token at a place; a place without one counts as empty. -/
def get (payload : List Char) (place : Nat) : List Char :=
  cut ((segments payload).getD place [])

def noteUnexpected (place : Nat) : Log.Entry :=
  ⟨.warn, .tokens, "item " ++ toString place ++ " is not expected"⟩

def unexpected (expected : Option Nat) (payload : List Char) : List Log.Entry :=
  ((segments payload).zipIdx.filter fun s => !expected.all (s.2 < ·)).map fun s =>
    noteUnexpected s.2

end Token

/-- The documented widths of the tokens of a list. -/
structure Layout where
  name : String
  widths : List Nat

namespace Layout

def noteWidth (l : Layout) (place size width : Nat) : Log.Entry :=
  ⟨.debug, .tokens, l.name ++ ": length of item " ++ toString place ++ " is " ++ toString size ++
    " != " ++ toString width⟩

def noteOf (l : Layout) (segment : List Char) (place : Nat) : Option Log.Entry :=
  match l.widths[place]? with
  | none => some (Token.noteUnexpected place)
  | some width =>
    let size := Utf8.size (Token.cut segment)
    if size = width then none else some (l.noteWidth place size width)

/-- What a payload has that the layout does not say. -/
def notes (l : Layout) (payload : List Char) : List Log.Entry :=
  (Token.segments payload).zipIdx.filterMap fun s => l.noteOf s.1 s.2

end Layout
end HybridInverter
