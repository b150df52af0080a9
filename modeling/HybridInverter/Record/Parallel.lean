import HybridInverter.Record.Basic

/-!
One unit of a parallel system: its ratings and its measurements.
-/
namespace HybridInverter

/-- Ratings of one unit. As much of the serial number counts as the length in front of it says. -/
structure ParallelRatings where
  connection : Coded .parallelConnection
  serialNumberLength : Int
  serialNumber : String
  chargerSourcePriority : Coded .chargerSourcePriority
  maxChargingCurrent : Int
  maxAcChargingCurrent : Int
  outputModel : Coded .outputModel

namespace ParallelRatings

def layout : Layout where
  name := "parallel_rated_information"
  widths := [1, 2, 20, 1, 3, 2, 1]

def ofTokens (t : Nat → List Char) : ParallelRatings where
  connection := ⟨leadingInt (t 0)⟩
  serialNumberLength := Token.int (t 1)
  serialNumber := Token.text (min (Token.int (t 1)).toNat maxSerialSize) (t 2)
  chargerSourcePriority := ⟨leadingInt (t 3)⟩
  maxChargingCurrent := Token.int (t 4)
  maxAcChargingCurrent := Token.int (t 5)
  outputModel := ⟨leadingInt (t 6)⟩

def readings (r : ParallelRatings) : List Reading :=
  [.state r.connection.raw, .number r.serialNumberLength, .text r.serialNumber,
   .state r.chargerSourcePriority.raw, .number r.maxChargingCurrent,
   .number r.maxAcChargingCurrent, .state r.outputModel.raw]

end ParallelRatings

structure ParallelStatus where
  connection : Coded .parallelConnection
  workMode : Coded .workingMode
  faultCode : Int
  gridVoltage : Int
  gridFreq : Int
  acOutputVoltage : Int
  acOutputFreq : Int
  acOutputApparentPower : Int
  acOutputActivePower : Int
  totalAcOutputApparentPower : Int
  totalAcOutputActivePower : Int
  outputLoadPercent : Int
  totalOutputLoadPercent : Int
  batteryVoltage : Int
  batteryDischargeCurrent : Int
  batteryChargingCurrent : Int
  totalBatteryChargingCurrent : Int
  batteryCapacity : Int
  pv1InputPower : Int
  pv2InputPower : Int
  pv1InputVoltage : Int
  pv2InputVoltage : Int
  mppt1ChargerStatus : Coded .mpptStatus
  mppt2ChargerStatus : Coded .mpptStatus
  loadConnected : Bool
  batteryPowerDirection : Coded .batteryPower
  dcAcPowerDirection : Coded .dcAcPower
  linePowerDirection : Coded .linePower
  maxTemp : Int

namespace ParallelStatus

def layout : Layout where
  name := "parallel_general_status"
  widths := [1, 1, 2, 4, 3, 4, 3, 4, 4, 5, 5, 3, 3, 3, 3, 3, 3, 3, 4, 4, 4, 4, 1, 1, 1, 1, 1, 1,
    3]

def ofTokens (t : Nat → List Char) : ParallelStatus where
  connection := ⟨leadingInt (t 0)⟩
  workMode := ⟨leadingInt (t 1)⟩
  faultCode := Token.int (t 2)
  gridVoltage := Token.int (t 3)
  gridFreq := Token.int (t 4)
  acOutputVoltage := Token.int (t 5)
  acOutputFreq := Token.int (t 6)
  acOutputApparentPower := Token.int (t 7)
  acOutputActivePower := Token.int (t 8)
  totalAcOutputApparentPower := Token.int (t 9)
  totalAcOutputActivePower := Token.int (t 10)
  outputLoadPercent := Token.int (t 11)
  totalOutputLoadPercent := Token.int (t 12)
  batteryVoltage := Token.int (t 13)
  batteryDischargeCurrent := Token.int (t 14)
  batteryChargingCurrent := Token.int (t 15)
  totalBatteryChargingCurrent := Token.int (t 16)
  batteryCapacity := Token.int (t 17)
  pv1InputPower := Token.int (t 18)
  pv2InputPower := Token.int (t 19)
  pv1InputVoltage := Token.int (t 20)
  pv2InputVoltage := Token.int (t 21)
  mppt1ChargerStatus := ⟨leadingInt (t 22)⟩
  mppt2ChargerStatus := ⟨leadingInt (t 23)⟩
  loadConnected := Token.isOne (t 24)
  batteryPowerDirection := ⟨leadingInt (t 25)⟩
  dcAcPowerDirection := ⟨leadingInt (t 26)⟩
  linePowerDirection := ⟨leadingInt (t 27)⟩
  maxTemp := Token.int (t 28)

def readings (s : ParallelStatus) : List Reading :=
  [.state s.connection.raw, .state s.workMode.raw, .number s.faultCode, .number s.gridVoltage,
   .number s.gridFreq, .number s.acOutputVoltage, .number s.acOutputFreq,
   .number s.acOutputApparentPower, .number s.acOutputActivePower,
   .number s.totalAcOutputApparentPower, .number s.totalAcOutputActivePower,
   .number s.outputLoadPercent, .number s.totalOutputLoadPercent, .number s.batteryVoltage,
   .number s.batteryDischargeCurrent, .number s.batteryChargingCurrent,
   .number s.totalBatteryChargingCurrent, .number s.batteryCapacity, .number s.pv1InputPower,
   .number s.pv2InputPower, .number s.pv1InputVoltage, .number s.pv2InputVoltage,
   .state s.mppt1ChargerStatus.raw, .state s.mppt2ChargerStatus.raw, .switch s.loadConnected,
   .state s.batteryPowerDirection.raw, .state s.dcAcPowerDirection.raw,
   .state s.linePowerDirection.raw, .number s.maxTemp]

end ParallelStatus

end HybridInverter
