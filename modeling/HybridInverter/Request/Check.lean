import HybridInverter.BinaryFloat
import HybridInverter.Failure
import HybridInverter.Text.Basic
import HybridInverter.Text.Numeral

/-!
What arguments have to be before they go near a device, days of the calendar and times of day among
them. Each check takes a text as the user gave it and answers with the value it stands for.
-/
namespace HybridInverter

structure Date where
  year : Nat
  month : Nat
  day : Nat
  deriving DecidableEq, Repr

namespace Date

def isLeap (year : Nat) : Bool :=
  year % 4 == 0 && (year % 100 != 0 || year % 400 == 0)

def daysIn (year month : Nat) : Nat :=
  if month = 2 then (if isLeap year then 29 else 28)
  else if month ∈ [4, 6, 9, 11] then 30
  else 31

def isReal (d : Date) : Bool :=
  1 ≤ d.month && d.month ≤ 12 && 1 ≤ d.day && d.day ≤ daysIn d.year d.month

def text (d : Date) : String :=
  let field (width n : Nat) : String := String.ofList (Numeral.padZeros width (Numeral.decimal n))
  field 4 d.year ++ "-" ++ field 2 d.month ++ "-" ++ field 2 d.day

end Date

structure TimeOfDay where
  hour : Nat
  minute : Nat
  deriving DecidableEq, Repr

namespace TimeOfDay

def lastHour : Nat := 23
def lastMinute : Nat := 59

def isReal (t : TimeOfDay) : Bool :=
  t.hour ≤ lastHour && t.minute ≤ lastMinute

end TimeOfDay

namespace Check

def isNumeric (text : List Char) : Bool :=
  !text.isEmpty && text.all Char.isDigit

def number (most : Nat) (what text : String) : Except UsageFault Nat :=
  if isNumeric text.toList && text.toList.length ≤ most then .ok (Numeral.value text.toList)
  else .error (.invalid what)

def within (low high : Nat) (what : String) (n : Nat) : Except UsageFault Nat :=
  if low ≤ n ∧ n ≤ high then .ok n else .error (.invalid what)

def firstYear : Nat := 2000
def lastYear : Nat := 2099

def year (text : String) : Except UsageFault Nat := do
  let n ← number 4 "year" text
  if text.toList.length = 4 then within firstYear lastYear "year" n else .error (.invalid "year")

def month (text : String) : Except UsageFault Nat := do
  within 1 12 "month" (← number 2 "month" text)

def day (text : String) : Except UsageFault Nat := do
  within 1 31 "day" (← number 2 "day" text)

def date (y m d : String) : Except UsageFault Date := do
  let date : Date := ⟨← year y, ← month m, ← day d⟩
  if date.isReal then .ok date else .error (.invalid "date")

def clock (h m s : String) : Except UsageFault (Nat × Nat × Nat) := do
  let hour ← within 0 TimeOfDay.lastHour "hour" (← number 2 "hour" h)
  let minute ← within 0 TimeOfDay.lastMinute "minute" (← number 2 "minute" m)
  let second ← within 0 59 "second" (← number 2 "second" s)
  return (hour, minute, second)

/-- A number on either side of the first colon, with blanks around it or none. -/
def readTime (text : List Char) : Option TimeOfDay := do
  let (h, m) ← Text.cutFirst ':' text
  let hour ← (Numeral.readNat (Numeral.unsigned 32) (Text.trim h)).toOption
  let minute ← (Numeral.readNat (Numeral.unsigned 32) (Text.trim m)).toOption
  return ⟨hour, minute⟩

def timeOfDay (what text : String) : Except UsageFault TimeOfDay :=
  match readTime text.toList with
  | some t => if t.isReal then .ok t else .error (.invalid what)
  | none => .error (.invalid what)

/-- One digit that tells the units of a parallel system apart. -/
def parallelId (text : String) : Except UsageFault Nat :=
  number 1 "id" text

def amperes (text : String) : Except UsageFault Nat :=
  number 3 "argument" text

def zeroOrOne (what text : String) : Except UsageFault Bool :=
  if text = "0" then .ok false
  else if text = "1" then .ok true
  else .error (.notZeroOrOne what)

def frequency (text : String) : Except UsageFault Nat :=
  if text = "50" then .ok 50
  else if text = "60" then .ok 60
  else .error .frequency

structure VoltageRange where
  low : Nat
  high : Nat

def chargeRange : VoltageRange := ⟨480, 584⟩
def cutoffRange : VoltageRange := ⟨400, 480⟩

def tenthsOfVolt (n : Nat) : BinaryFloat :=
  .ofRatio .single false n 10

/-- A single-precision number between the bounds, both of them allowed. -/
def voltage (r : VoltageRange) (what text : String) : Except UsageFault BinaryFloat :=
  match BinaryFloat.read .single (Text.trim text.toList) with
  | some v =>
    if (tenthsOfVolt r.low).le v && v.le (tenthsOfVolt r.high) then .ok v
    else .error (.invalid what)
  | none => .error (.invalid what)

def ratedVoltages : List Nat := [202, 208, 220, 230, 240]

def ratedVoltage (text : String) : Except UsageFault Nat :=
  match Numeral.readNat (Numeral.unsigned 16) (Text.trim text.toList) with
  | .ok v => if v ∈ ratedVoltages then .ok v else .error (.invalid "voltage")
  | .error _ => .error (.invalid "argument")

/-- Voltages below which batteries of 12, 24 and 48 volts are charged again. -/
def rechargeVoltages : List String :=
  ["11", "11.3", "11.5", "11.8", "12", "12.3", "12.5", "12.8",
   "22", "22.5", "23", "23.5", "24", "24.5", "25", "25.5",
   "44", "45", "46", "47", "48", "49", "50", "51"]

/-- Voltages above which batteries of 12, 24 and 48 volts are discharged again; zero is full. -/
def redischargeVoltages : List String :=
  ["0", "12", "12.3", "12.5", "12.8", "13", "13.3", "13.5", "13.8", "14", "14.3", "14.5",
   "24", "24.5", "25", "25.5", "26", "26.5", "27", "27.5", "28", "28.5", "29",
   "48", "49", "50", "51", "52", "53", "54", "55", "56", "57", "58"]

def listed (allowed : List String) (what text : String) : Except UsageFault Unit :=
  if text ∈ allowed then .ok () else .error (.invalid what)

def rechargeVoltage (text : String) : Except UsageFault Unit :=
  listed rechargeVoltages "CV" text

def redischargeVoltage (text : String) : Except UsageFault Unit :=
  listed redischargeVoltages "DV" text

def maxSolarIdDigits : Nat := 20

def solarId (text : String) : Except UsageFault Unit :=
  if isNumeric text.toList && text.toList.length ≤ maxSolarIdDigits then .ok ()
  else .error (.invalid "argument")

def maxRawSize : Nat := 127

/-- A command sent as it is given: not empty, and short enough for the device. -/
def rawCommand (text : String) : Except UsageFault Unit :=
  if text.isEmpty || maxRawSize < Utf8.size text.toList then .error (.rawLength maxRawSize)
  else .ok ()

end Check

end HybridInverter
