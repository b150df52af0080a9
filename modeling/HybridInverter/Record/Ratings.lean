import HybridInverter.Record.Basic

/-!
What the device is built and set for: its ratings with the settings in force, and the defaults of
what can be changed. Voltages, currents and frequencies count tenths.
-/
namespace HybridInverter

structure RatedInformation where
  acInputRatingVoltage : Int
  acInputRatingCurrent : Int
  acOutputRatingVoltage : Int
  acOutputRatingFreq : Int
  acOutputRatingCurrent : Int
  acOutputRatingApparentPower : Int
  acOutputRatingActivePower : Int
  batteryRatingVoltage : Int
  batteryRechargeVoltage : Int
  batteryRedischargeVoltage : Int
  batteryUnderVoltage : Int
  batteryBulkVoltage : Int
  batteryFloatVoltage : Int
  batteryType : Coded .batteryType
  maxAcChargingCurrent : Int
  maxChargingCurrent : Int
  inputVoltageRange : Coded .inputVoltageRange
  outputSourcePriority : Coded .outputSourcePriority
  chargerSourcePriority : Coded .chargerSourcePriority
  parallelMaxNum : Int
  machineType : Coded .machineType
  topology : Coded .topology
  outputModel : Coded .outputModel
  solarPowerPriority : Coded .solarPowerPriority
  mppt : String

namespace RatedInformation

def layout : Layout where
  name := "rated_information"
  widths := [4, 3, 4, 3, 3, 4, 4, 3, 3, 3, 3, 3, 3, 1, 2, 3, 1, 1, 1, 1, 1, 1, 1, 1, 1]

def ofTokens (t : Nat → List Char) : RatedInformation where
  acInputRatingVoltage := Token.int (t 0)
  acInputRatingCurrent := Token.int (t 1)
  acOutputRatingVoltage := Token.int (t 2)
  acOutputRatingFreq := Token.int (t 3)
  acOutputRatingCurrent := Token.int (t 4)
  acOutputRatingApparentPower := Token.int (t 5)
  acOutputRatingActivePower := Token.int (t 6)
  batteryRatingVoltage := Token.int (t 7)
  batteryRechargeVoltage := Token.int (t 8)
  batteryRedischargeVoltage := Token.int (t 9)
  batteryUnderVoltage := Token.int (t 10)
  batteryBulkVoltage := Token.int (t 11)
  batteryFloatVoltage := Token.int (t 12)
  batteryType := ⟨leadingInt (t 13)⟩
  maxAcChargingCurrent := Token.int (t 14)
  maxChargingCurrent := Token.int (t 15)
  inputVoltageRange := ⟨leadingInt (t 16)⟩
  outputSourcePriority := ⟨leadingInt (t 17)⟩
  chargerSourcePriority := ⟨leadingInt (t 18)⟩
  parallelMaxNum := Token.int (t 19)
  machineType := ⟨leadingInt (t 20)⟩
  topology := ⟨leadingInt (t 21)⟩
  outputModel := ⟨leadingInt (t 22)⟩
  solarPowerPriority := ⟨leadingInt (t 23)⟩
  mppt := Token.text 1 (t 24)

def readings (r : RatedInformation) : List Reading :=
  [.number r.acInputRatingVoltage, .number r.acInputRatingCurrent,
   .number r.acOutputRatingVoltage, .number r.acOutputRatingFreq,
   .number r.acOutputRatingCurrent, .number r.acOutputRatingApparentPower,
   .number r.acOutputRatingActivePower, .number r.batteryRatingVoltage,
   .number r.batteryRechargeVoltage, .number r.batteryRedischargeVoltage,
   .number r.batteryUnderVoltage, .number r.batteryBulkVoltage, .number r.batteryFloatVoltage,
   .state r.batteryType.raw, .number r.maxAcChargingCurrent, .number r.maxChargingCurrent,
   .state r.inputVoltageRange.raw, .state r.outputSourcePriority.raw,
   .state r.chargerSourcePriority.raw, .number r.parallelMaxNum, .state r.machineType.raw,
   .state r.topology.raw, .state r.outputModel.raw, .state r.solarPowerPriority.raw, .text r.mppt]

end RatedInformation

structure Defaults where
  acOutputVoltage : Int
  acOutputFreq : Int
  acInputVoltageRange : Coded .inputVoltageRange
  batteryUnderVoltage : Int
  chargingFloatVoltage : Int
  chargingBulkVoltage : Int
  batteryRechargeVoltage : Int
  batteryRedischargeVoltage : Int
  maxChargingCurrent : Int
  maxAcChargingCurrent : Int
  batteryType : Coded .batteryType
  outputSourcePriority : Coded .outputSourcePriority
  chargerSourcePriority : Coded .chargerSourcePriority
  solarPowerPriority : Coded .solarPowerPriority
  machineType : Coded .machineType
  outputModel : Coded .outputModel
  buzzerFlag : Bool
  overloadRestartFlag : Bool
  overTempRestartFlag : Bool
  backlightFlag : Bool
  primarySourceAlarmFlag : Bool
  faultCodeRecordFlag : Bool
  overloadBypassFlag : Bool
  lcdEscapeFlag : Bool

namespace Defaults

def layout : Layout where
  name := "defaults"
  widths := [4, 3, 1, 3, 3, 3, 3, 3, 3, 2, 1, 1, 1, 1, 1, 1, 1, 1, 1, 1, 1, 1, 1, 1]

def ofTokens (t : Nat → List Char) : Defaults where
  acOutputVoltage := Token.int (t 0)
  acOutputFreq := Token.int (t 1)
  acInputVoltageRange := ⟨leadingInt (t 2)⟩
  batteryUnderVoltage := Token.int (t 3)
  chargingFloatVoltage := Token.int (t 4)
  chargingBulkVoltage := Token.int (t 5)
  batteryRechargeVoltage := Token.int (t 6)
  batteryRedischargeVoltage := Token.int (t 7)
  maxChargingCurrent := Token.int (t 8)
  maxAcChargingCurrent := Token.int (t 9)
  batteryType := ⟨leadingInt (t 10)⟩
  outputSourcePriority := ⟨leadingInt (t 11)⟩
  chargerSourcePriority := ⟨leadingInt (t 12)⟩
  solarPowerPriority := ⟨leadingInt (t 13)⟩
  machineType := ⟨leadingInt (t 14)⟩
  outputModel := ⟨leadingInt (t 15)⟩
  buzzerFlag := Token.isPositive (t 16)
  overloadRestartFlag := Token.isPositive (t 17)
  overTempRestartFlag := Token.isPositive (t 18)
  backlightFlag := Token.isPositive (t 19)
  primarySourceAlarmFlag := Token.isPositive (t 20)
  faultCodeRecordFlag := Token.isPositive (t 21)
  overloadBypassFlag := Token.isPositive (t 22)
  lcdEscapeFlag := Token.isPositive (t 23)

def readings (d : Defaults) : List Reading :=
  [.number d.acOutputVoltage, .number d.acOutputFreq, .state d.acInputVoltageRange.raw,
   .number d.batteryUnderVoltage, .number d.chargingFloatVoltage, .number d.chargingBulkVoltage,
   .number d.batteryRechargeVoltage, .number d.batteryRedischargeVoltage,
   .number d.maxChargingCurrent, .number d.maxAcChargingCurrent, .state d.batteryType.raw,
   .state d.outputSourcePriority.raw, .state d.chargerSourcePriority.raw,
   .state d.solarPowerPriority.raw, .state d.machineType.raw, .state d.outputModel.raw,
   .switch d.buzzerFlag, .switch d.overloadRestartFlag, .switch d.overTempRestartFlag,
   .switch d.backlightFlag, .switch d.primarySourceAlarmFlag, .switch d.faultCodeRecordFlag,
   .switch d.overloadBypassFlag, .switch d.lcdEscapeFlag]

end Defaults

end HybridInverter
