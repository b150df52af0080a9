import HybridInverter.Failure

/-!
States that the device sends as small numbers. A table lists the documented states from zero on and,
where a user may choose one, the names to choose by. Numbers outside the table are kept as sent.
-/
namespace HybridInverter

structure CodeTable where
  labels : List String
  choices : List String := []

namespace CodeTable

def batteryType : CodeTable :=
  ⟨["AGM", "Flooded", "User"], ["AGM", "FLOODED", "USER"]⟩

def inputVoltageRange : CodeTable :=
  ⟨["Appliance", "UPS"], ["APPLIANCE", "UPS"]⟩

def outputSourcePriority : CodeTable :=
  ⟨["Solar-Utility-Battery", "Solar-Battery-Utility"], ["SUB", "SBU"]⟩

def chargerSourcePriority : CodeTable :=
  ⟨["Solar-First", "Solar-and-Utility", "Solar-Only"], ["SF", "SU", "S"]⟩

def solarPowerPriority : CodeTable :=
  ⟨["Battery-Load-Utility", "Load-Battery-Utility"], ["BLU", "LBU"]⟩

def outputModel : CodeTable :=
  ⟨["Single module", "Parallel output", "Phase 1 of three phase output",
    "Phase 2 of three phase output", "Phase 3 of three phase"], ["SM", "P", "P1", "P2", "P3"]⟩

def machineType : CodeTable := { labels := ["Off-Grid-Tie", "Grid-Tie"] }

def topology : CodeTable := { labels := ["Transformerless", "Transformer"] }

def mpptStatus : CodeTable := { labels := ["Abnormal", "Not charging", "Charging"] }

def batteryPower : CodeTable := { labels := ["Do nothing", "Charge", "Discharge"] }

def dcAcPower : CodeTable := { labels := ["Do nothing", "AC/DC", "DC/AC"] }

def linePower : CodeTable := { labels := ["Do nothing", "Input", "Output"] }

def workingMode : CodeTable :=
  { labels := ["Power on mode", "Standby mode", "Bypass mode", "Battery mode", "Fault mode",
      "Hybrid mode"] }

def parallelConnection : CodeTable := { labels := ["Non-existent", "Existent"] }

end CodeTable

def unknownLabel : String := "Unknown"

structure Coded (table : CodeTable) where
  raw : Int
  deriving DecidableEq, Repr

namespace Coded

variable {table : CodeTable}

def label (c : Coded table) : String :=
  match c.raw with
  | .ofNat n => table.labels.getD n unknownLabel
  | .negSucc _ => unknownLabel

def isDefault (c : Coded table) : Bool :=
  c.raw == 0

def ofChoice (table : CodeTable) (name : String) : Except Failure (Coded table) :=
  match table.choices.idxOf? name with
  | some n => .ok ⟨n⟩
  | none => .error (.argument (.notChoice name table.choices))

def digit (c : Coded table) : String :=
  String.ofList (Numeral.signed c.raw)

end Coded

def faultLabel : Int → String
  | 1 => "Fan is locked"
  | 2 => "Over temperature"
  | 3 => "Battery voltage is too high"
  | 4 => "Battery voltage is too low"
  | 5 => "Output short circuited or Over temperature"
  | 6 => "Output voltage is too high"
  | 7 => "Over load time out"
  | 8 => "Bus voltage is too high"
  | 9 => "Bus soft start failed"
  | 11 => "Main relay failed"
  | 51 => "Over current inverter"
  | 52 => "Bus soft start failed"
  | 53 => "Inverter soft start failed"
  | 54 => "Self-test failed"
  | 55 => "Over DC voltage on output of inverter"
  | 56 => "Battery connection is open"
  | 57 => "Current sensor failed"
  | 58 => "Output voltage is too low"
  | 60 => "Inverter negative power"
  | 71 => "Parallel version different"
  | 72 => "Output circuit failed"
  | 80 => "CAN communication failed"
  | 81 => "Parallel host line lost"
  | 82 => "Parallel synchronized signal lost"
  | 83 => "Parallel battery voltage detect different"
  | 84 => "Parallel Line voltage or frequency detect different"
  | 85 => "Parallel Line input current unbalanced"
  | 86 => "Parallel output setting different"
  | _ => unknownLabel

end HybridInverter
