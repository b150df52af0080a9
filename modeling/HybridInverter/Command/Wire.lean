import HybridInverter.BinaryFloat
import HybridInverter.Command.Basic
import HybridInverter.Text.Basic

/-!
Commands as they go out: a caret, the mode, three digits that count every byte from themselves on,
the mnemonic and the arguments. Each encoding takes one argument, a flag two, and either writes what
the text denotes or says what is wrong with it.
-/
namespace HybridInverter

inductive Encoding where
  | raw
  | number
  | int (width : Nat)
  | timesTen (width : Nat)
  | tenths (width : Nat)
  /-- The first character alone. -/
  | char
  | yearFrom2000
  | time
  /-- A flag's name or letter, and whether it is on. -/
  | toggle
  | solarId
  deriving DecidableEq, Repr

namespace Encoding

open Numeral (field)

def solarIdWidth : Nat := 20

def arity : Encoding → Nat
  | .toggle => 2
  | _ => 1

def fitsInt64 (n : Int) : Bool :=
  -Numeral.int64Bound ≤ n && n < Numeral.int64Bound

def readInt (text : String) : Except ArgumentFault Int :=
  match Numeral.readInt64 (Text.trim text.toList) with
  | .ok n => .ok n
  | .error _ => .error (.notInteger text)

/-- A number computed from `text`, if it fits 64 bits. -/
def inRange (text : String) (n : Int) : Except ArgumentFault Int :=
  if fitsInt64 n then .ok n else .error (.outOfRange text)

def readTenths (text : String) : Except ArgumentFault Int :=
  match BinaryFloat.read .double (Text.trim text.toList) with
  | some x =>
    .ok (BinaryFloat.mul .double x (.ofInt .double 10) |>.round .double).toInt64
  | none => .error (.notNumber text)

def encodeTime (text : String) : Except ArgumentFault String :=
  match Text.cutFirst ':' text.toList with
  | none => .error (.notTime text)
  | some (hour, minute) => do
    let h ← readInt (String.ofList hour)
    let m ← readInt (String.ofList minute)
    return field 2 h ++ field 2 m

/-- A name stands for its letter, anything else for itself. -/
def encodeToggle (flag state : String) : String :=
  let code := match Flag.ofKey? flag with
    | some f => String.singleton f.code
    | none => flag
  (if state.toList.head? = some '1' then "E" else "D") ++ code

def encodeSolarId (text : String) : String :=
  let size := Utf8.size text.toList
  let written := Numeral.padded 2 size ++ text.toList
  String.ofList (written ++ List.replicate (solarIdWidth + 2 - Utf8.size written) '0')

def encode (e : Encoding) (text state : String) : Except ArgumentFault String :=
  match e with
  | .raw => .ok text
  | .number => (readInt text).map (field 0)
  | .int width => (readInt text).map (field width)
  | .timesTen width => do
    let n ← readInt text
    let n ← inRange text (n * 10)
    return field width n
  | .tenths width => (readTenths text).map (field width)
  | .char =>
    match text.toList with
    | [] => .error .empty
    | c :: _ => .ok (String.singleton c)
  | .yearFrom2000 => do
    let n ← readInt text
    let n ← inRange text (n - 2000)
    return field 2 n
  | .time => encodeTime text
  | .toggle => .ok (encodeToggle text state)
  | .solarId => .ok (encodeSolarId text)

end Encoding

/-- The encodings of a command's arguments in their order, and what stands between two. -/
structure ArgumentShape where
  encodings : List Encoding := []
  separator : String := ""
  deriving DecidableEq, Repr

namespace ArgumentShape

def arity (s : ArgumentShape) : Nat :=
  s.encodings.foldr (fun e n => e.arity + n) 0

def encodeEach : List Encoding → List String → Except ArgumentFault (List String)
  | [], _ => .ok []
  | e :: rest, args => do
    let first ← e.encode (args.getD 0 "") (args.getD 1 "")
    let others ← encodeEach rest (args.drop e.arity)
    return first :: others

/-- Arguments beyond those needed are left alone. -/
def encode (s : ArgumentShape) (args : List String) : Except ArgumentFault String :=
  if args.length < s.arity then .error (.tooFew s.arity args.length)
  else (encodeEach s.encodings args).map s.separator.intercalate

end ArgumentShape

namespace Command

def joined (encodings : List Encoding) : ArgumentShape := { encodings }
def commaSeparated (encodings : List Encoding) : ArgumentShape := { encodings, separator := "," }

def shape : Command → ArgumentShape
  | .query .yearGenerated => joined [.raw]
  | .query .monthGenerated => joined [.raw, .int 2]
  | .query .dayGenerated => joined [.raw, .int 2, .int 2]
  | .query .parallelRatedInformation | .query .parallelGeneralStatus => joined [.number]
  | .query _ => joined []
  | .setting .loads => joined [.raw]
  | .setting .flag => joined [.toggle]
  | .setting .maxChargeCurrent | .setting .maxAcChargeCurrent => commaSeparated [.char, .int 3]
  | .setting .outputFrequency => joined [.int 2]
  | .setting .maxChargeVoltage | .setting .chargingThresholds => commaSeparated [.tenths 3, .tenths 3]
  | .setting .outputRatedVoltage => joined [.timesTen 4]
  | .setting .outputSourcePriority | .setting .solarPowerPriority => joined [.char]
  | .setting .inputVoltageRange | .setting .batteryType => joined [.char]
  | .setting .chargingSourcePriority | .setting .outputModel => commaSeparated [.char, .char]
  | .setting .cutoffVoltage => joined [.tenths 3]
  | .setting .solarConfiguration => joined [.solarId]
  | .setting .dateTime => joined [.yearFrom2000, .int 2, .int 2, .int 2, .int 2, .int 2]
  | .setting .acChargeTime | .setting .acSupplyTime => commaSeparated [.time, .time]
  | .setting .defaults | .setting .clearGenerated => joined []

def lengthWidth : Nat := 3

/-- The greatest number that fits the length field. -/
def maxLength : Nat := 999

def wireLength (c : Command) (payload : String) : Nat :=
  lengthWidth + c.mnemonic.utf8ByteSize + payload.utf8ByteSize

def frameOf (c : Command) (payload : String) : String :=
  "^" ++ String.singleton c.mode ++
    String.ofList (Numeral.padded lengthWidth (c.wireLength payload)) ++ c.mnemonic ++ payload

def build (c : Command) (args : List String) : Except Failure String :=
  match c.shape.encode args with
  | .error fault => .error (.argument fault)
  | .ok payload =>
    if maxLength < c.wireLength payload then .error (.argument (.tooLong (c.wireLength payload)))
    else .ok (c.frameOf payload)

def buildById (id : Nat) (args : List String) : Except Failure String := do
  let c ← ofId id
  c.build args

end Command

end HybridInverter
