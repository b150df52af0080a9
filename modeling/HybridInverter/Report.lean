import HybridInverter.BinaryFloat
import HybridInverter.Json
import HybridInverter.Text.Basic
import HybridInverter.Text.Numeral

/-!
Reports in four formats. They show items with a key for programs, a title for people, a value and
the unit it is measured in. The table for people lines its values up behind the titles; the table for
programs has a key, a value and a unit to a line, divided by single blanks outside double quotes.
-/
namespace HybridInverter

namespace Report

inductive Format where
  | table
  | parsableTable
  | json
  | jsonWithUnits
  deriving DecidableEq, Repr, Inhabited

namespace Format

def all : List Format := [.table, .parsableTable, .json, .jsonWithUnits]

def name : Format → String
  | .table => "table"
  | .parsableTable => "parsable-table"
  | .json => "json"
  | .jsonWithUnits => "json-w-units"

def logName : Format → String
  | .table => "Table"
  | .parsableTable => "ParsableTable"
  | .json => "Json"
  | .jsonWithUnits => "JsonWithUnits"

def ofName? (name : String) : Option Format :=
  all.find? fun f => f.name == name

def isJson : Format → Bool
  | .json | .jsonWithUnits => true
  | _ => false

end Format

inductive Measure where
  | volt
  | ampere
  | wattHour
  | kilowattHour
  | voltAmpere
  | hertz
  | percent
  | celsius
  deriving DecidableEq, Repr

/-- Set off by a blank, but for the percent sign. -/
def Measure.label : Measure → List Char
  | .volt => " V".toList
  | .ampere => " A".toList
  | .wattHour => " Wh".toList
  | .kilowattHour => " kWh".toList
  | .voltAmpere => " VA".toList
  | .hertz => " Hz".toList
  | .percent => "%".toList
  | .celsius => " °C".toList

def Measure.symbol (u : Measure) : List Char :=
  u.label.dropWhile (· == ' ')

inductive Value where
  /-- A number, and how many places of it are shown. -/
  | double (x : BinaryFloat) (places : Nat)
  | long (n : Int)
  | yesNo (b : Bool)
  | enabled (b : Bool)
  | text (s : String)
  deriving DecidableEq, Repr

namespace Value

def tenths (raw : Int) : Value :=
  .double (BinaryFloat.div .double (.ofInt .double raw) (.ofInt .double 10)) 1

def hundredths (n : Int) : Value :=
  .double (.ofInt .double n) 2

def plain : Value → List Char
  | .double x places => x.fixed places
  | .long n => Numeral.signed n
  | .yesNo b => (if b then "Yes" else "No").toList
  | .enabled b => (if b then "Enabled" else "Disabled").toList
  | .text s => s.toList

/-- A text with a blank in it needs quotes, one that begins with a blank goes without. -/
def needsQuotes (s : List Char) : Bool :=
  s.contains ' ' && s.head? != some ' '

def parsable : Value → List Char
  | .text s => if needsQuotes s.toList then '"' :: s.toList ++ ['"'] else s.toList
  | v => v.plain

/-- Ten to the number of places, as often multiplied as squaring needs. -/
def scale (places : Nat) : BinaryFloat :=
  BinaryFloat.power .double (.ofInt .double 10) (.ofInt .double 1) places

def toJson : Value → Json
  | .double x places =>
    .ofFloat (BinaryFloat.div .double ((BinaryFloat.mul .double x (scale places)).round .double)
      (scale places))
  | .long n => .int n
  | .yesNo b | .enabled b => .bool b
  | .text s => .text s

end Value

structure Item where
  key : String
  title : String
  value : Value
  unit : Option Measure := none
  deriving DecidableEq, Repr

end Report

namespace Report
namespace Table

def titleWidth (items : List Item) : Nat :=
  (items.map fun i => i.title.toList.length + 1).foldl max 0

def plainLine (width : Nat) (i : Item) : List Char :=
  Text.padRight width (i.title.toList ++ [':']) ++ ' ' :: i.value.plain ++
    match i.unit with
    | some u => u.label
    | none => []

def parsableLine (i : Item) : List Char :=
  i.key.toList ++ ' ' :: i.value.parsable ++
    match i.unit with
    | some u => ' ' :: u.symbol
    | none => []

def plainLines (items : List Item) : List (List Char) :=
  items.map (plainLine (titleWidth items))

def parsableLines (items : List Item) : List (List Char) :=
  items.map parsableLine

def ofLines (lines : List (List Char)) : String :=
  String.ofList (['\n'].intercalate lines)

/-- The parts of a line of the table for programs: a quote turns the meaning of blanks off or on
and is no part of what it encloses. -/
def fieldsFrom (quoted : Bool) (field : List Char) : List Char → List (List Char)
  | [] => [field]
  | c :: rest =>
    if c = '"' then fieldsFrom (!quoted) field rest
    else if c = ' ' ∧ !quoted then field :: fieldsFrom false [] rest
    else fieldsFrom quoted (field ++ [c]) rest

def fields (line : List Char) : List (List Char) :=
  fieldsFrom false [] line

end Table
/-- A value with its unit is a pair where units are shown. -/
def Item.toJson (withUnits : Bool) (i : Item) : Json :=
  match i.unit with
  | some u =>
    if withUnits then .array [i.value.toJson, .text (String.ofList u.symbol)] else i.value.toJson
  | none => i.value.toJson

def itemsToJson (withUnits : Bool) (items : List Item) : Json :=
  Json.ofEntries (items.map fun i => (i.key, i.toJson withUnits))

def renderItems (f : Format) (items : List Item) : String :=
  match f with
  | .table => Table.ofLines (Table.plainLines items)
  | .parsableTable => Table.ofLines (Table.parsableLines items)
  | .json => (itemsToJson false items).render
  | .jsonWithUnits => (itemsToJson true items).render

def settingResult (f : Format) (success : Bool) : String :=
  match f.isJson, success with
  | false, true => "OK"
  | false, false => "Failure"
  | true, true => (Json.object [("ok", .int 1)]).render
  | true, false => (Json.object [("error", .text "failure")]).render

/-- Only readers of JSON find failures among the output. -/
def failureText (f : Format) (message : String) : Option String :=
  if f.isJson then some (Json.object [("error", .text message)]).render else none

end Report

end HybridInverter
