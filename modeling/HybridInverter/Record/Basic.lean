import HybridInverter.Coded
import HybridInverter.Response.Token

/-!
The values that make up the record of a reply, whatever the record; and the small records: the
currents that a limit can be set to, in amperes, the versions and the series number of the device, its
clock, and stretches of its day.
-/
namespace HybridInverter

inductive Reading where
  | number (n : Int)
  | state (raw : Int)
  | switch (on : Bool)
  | text (s : String)
  | clock (hour minute : Int)
  deriving DecidableEq, Repr

/-- The most bytes kept of a series or serial number. -/
def maxSerialSize : Nat := 31

namespace Selectable

/-- The most values kept. -/
def maxValues : Nat := 32

def ofPayload (payload : List Char) : List Int :=
  ((Token.segments payload).take maxValues).map fun s => Token.int (Token.cut s)

def noteIgnored (place : Nat) : Log.Entry :=
  ⟨.warn, .records, "item " ++ toString place ++ " ignored, only " ++ toString maxValues ++
    " values are kept"⟩

def notes (payload : List Char) : List Log.Entry :=
  ((Token.segments payload).zipIdx.drop maxValues).map fun s => noteIgnored s.2

end Selectable

structure CpuVersion where
  mainCpuVersion : String
  slave1CpuVersion : String
  slave2CpuVersion : String

namespace CpuVersion

def layout : Layout where
  name := "cpu_version"
  widths := [5, 5, 5]

def ofTokens (t : Nat → List Char) : CpuVersion where
  mainCpuVersion := Token.text 5 (t 0)
  slave1CpuVersion := Token.text 5 (t 1)
  slave2CpuVersion := Token.text 5 (t 2)

def readings (v : CpuVersion) : List Reading :=
  [.text v.mainCpuVersion, .text v.slave1CpuVersion, .text v.slave2CpuVersion]

end CpuVersion

structure SeriesNumber where
  length : Int
  id : String

namespace SeriesNumber

/-- Two digits count the characters behind them. -/
def ofPayload (payload : List Char) : SeriesNumber :=
  let length := clampInt32 (leadingInt (Utf8.slice 0 2 payload))
  { length, id := String.ofList (Utf8.slice 2 (min length.toNat maxSerialSize) payload) }

def readings (s : SeriesNumber) : List Reading :=
  [.number s.length, .text s.id]

end SeriesNumber

structure CurrentTime where
  year : Int
  month : Int
  day : Int
  hour : Int
  minute : Int
  second : Int
  deriving DecidableEq, Repr

namespace CurrentTime

def field (payload : List Char) (start count : Nat) : Int :=
  clampInt32 (leadingInt (Utf8.slice start count payload))

def ofPayload (payload : List Char) : CurrentTime where
  year := field payload 0 4
  month := field payload 4 2
  day := field payload 6 2
  hour := field payload 8 2
  minute := field payload 10 2
  second := field payload 12 2

def readings (t : CurrentTime) : List Reading :=
  [.number t.year, .number t.month, .number t.day, .number t.hour, .number t.minute,
   .number t.second]

end CurrentTime

structure TimeBucket where
  startHour : Int
  startMinute : Int
  endHour : Int
  endMinute : Int
  deriving DecidableEq, Repr

namespace TimeBucket

def layout : Layout where
  name := "time_bucket"
  widths := [4, 4]

def hour (t : List Char) : Int :=
  leadingInt (Utf8.slice 0 2 t)

def minute (t : List Char) : Int :=
  leadingInt (Utf8.slice 2 2 t)

def ofTokens (t : Nat → List Char) : TimeBucket where
  startHour := hour (t 0)
  startMinute := minute (t 0)
  endHour := hour (t 1)
  endMinute := minute (t 1)

def readings (b : TimeBucket) : List Reading :=
  [.clock b.startHour b.startMinute, .clock b.endHour b.endMinute]

end TimeBucket

end HybridInverter
