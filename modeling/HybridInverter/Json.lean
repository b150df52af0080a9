import HybridInverter.BinaryFloat
import HybridInverter.Text.Numeral

/-!
JSON values and their compact text, without a blank outside strings. An object lists its entries in
the order in which their keys were first put.
-/
namespace HybridInverter

inductive Json where
  | null
  | bool (b : Bool)
  | int (n : Int)
  | double (negative : Bool) (mantissa : Nat) (exponent : Int)
  | text (s : String)
  | array (elements : List Json)
  | object (entries : List (String × Json))

namespace Json

/-- What is not a finite number has no JSON number. -/
def ofFloat : BinaryFloat → Json
  | .finite s m e => .double s m e
  | _ => .null

/-- A key that is already there keeps its place and takes the new value. -/
def put (key : String) (value : Json) : List (String × Json) → List (String × Json)
  | [] => [(key, value)]
  | entry :: rest => if entry.1 = key then (key, value) :: rest else entry :: put key value rest

def ofEntries (entries : List (String × Json)) : Json :=
  .object (entries.foldl (fun o e => put e.1 e.2 o) [])

/-- Numbers whose point stands behind digit `first` or up to digit `last` are written without an
exponent. -/
structure NumberLayout where
  first : Int
  last : Int

def numberLayout : NumberLayout := ⟨-4, 16⟩

def escape (c : Char) : List Char :=
  if c = '"' then ['\\', '"']
  else if c = '\\' then ['\\', '\\']
  else if c = '\x08' then ['\\', 'b']
  else if c = '\t' then ['\\', 't']
  else if c = '\n' then ['\\', 'n']
  else if c = '\x0c' then ['\\', 'f']
  else if c = '\r' then ['\\', 'r']
  else if c.toNat < 0x20 then ['\\', 'u'] ++ Numeral.hex 4 c.toNat
  else [c]

def string (s : List Char) : List Char :=
  '"' :: s.flatMap escape ++ ['"']

def positional (digits : List Char) (point : Int) : List Char :=
  if point ≤ 0 then "0.".toList ++ List.replicate (-point).toNat '0' ++ digits
  else
    let n := point.toNat
    if digits.length ≤ n then digits ++ List.replicate (n - digits.length) '0' ++ ".0".toList
    else digits.take n ++ '.' :: digits.drop n

def scientific (digits : List Char) (point : Int) : List Char :=
  let power := point - 1
  let fraction := if digits.length ≤ 1 then [] else '.' :: digits.drop 1
  digits.take 1 ++ fraction ++ ['e', if power < 0 then '-' else '+'] ++ Numeral.decimal power.natAbs

def number (negative : Bool) (mantissa : Nat) (exponent : Int) : List Char :=
  let sign := if negative then ['-'] else []
  if mantissa = 0 then sign ++ "0.0".toList
  else
    let d := BinaryFloat.shortest .double mantissa exponent
    let digits := Numeral.decimal d.digits
    let point : Int := digits.length + d.exponent
    let l := numberLayout
    sign ++ if l.first ≤ point ∧ point ≤ l.last then positional digits point
      else scientific digits point

mutual

def print : Json → List Char
  | .null => "null".toList
  | .bool b => (if b then "true" else "false").toList
  | .int n => Numeral.signed n
  | .double s m e => number s m e
  | .text s => string s.toList
  | .array elements => '[' :: printElements elements ++ [']']
  | .object entries => '\x7b' :: printEntries entries ++ ['\x7d']

def printElements : List Json → List Char
  | [] => []
  | [v] => print v
  | v :: rest => print v ++ ',' :: printElements rest

def printEntries : List (String × Json) → List Char
  | [] => []
  | [(k, v)] => string k.toList ++ ':' :: print v
  | (k, v) :: rest => string k.toList ++ ':' :: print v ++ ',' :: printEntries rest

end

def render (v : Json) : String :=
  String.ofList (print v)

end Json

end HybridInverter
