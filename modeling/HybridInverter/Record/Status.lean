import HybridInverter.Record.Basic

/-!
What the device is doing: its measurements, its faults and warnings, and the features switched on.
Voltages and frequencies count tenths.
-/
namespace HybridInverter

structure GeneralStatus where
  gridVoltage : Int
  gridFreq : Int
  acOutputVoltage : Int
  acOutputFreq : Int
  acOutputApparentPower : Int
  acOutputActivePower : Int
  outputLoadPercent : Int
  batteryVoltage : Int
  batteryVoltageScc : Int
  batteryVoltageScc2 : Int
  batteryDischargeCurrent : Int
  batteryChargingCurrent : Int
  batteryCapacity : Int
  inverterHeatSinkTemp : Int
  mppt1ChargerTemp : Int
  mppt2ChargerTemp : Int
  pv1InputPower : Int
  pv2InputPower : Int
  pv1InputVoltage : Int
  pv2InputVoltage : Int
  settingsChanged : Bool
  mppt1ChargerStatus : Coded .mpptStatus
  mppt2ChargerStatus : Coded .mpptStatus
  loadConnected : Bool
  batteryPowerDirection : Coded .batteryPower
  dcAcPowerDirection : Coded .dcAcPower
  linePowerDirection : Coded .linePower
  localParallelId : Int

namespace GeneralStatus

def layout : Layout where
  name := "general_status"
  widths := [4, 3, 4, 3, 4, 4, 3, 3, 3, 3, 3, 3, 3, 3, 3, 3, 4, 4, 4, 4, 1, 1, 1, 1, 1, 1, 1, 1]

def ofTokens (t : Nat → List Char) : GeneralStatus where
  gridVoltage := Token.int (t 0)
  gridFreq := Token.int (t 1)
  acOutputVoltage := Token.int (t 2)
  acOutputFreq := Token.int (t 3)
  acOutputApparentPower := Token.int (t 4)
  acOutputActivePower := Token.int (t 5)
  outputLoadPercent := Token.int (t 6)
  batteryVoltage := Token.int (t 7)
  batteryVoltageScc := Token.int (t 8)
  batteryVoltageScc2 := Token.int (t 9)
  batteryDischargeCurrent := Token.int (t 10)
  batteryChargingCurrent := Token.int (t 11)
  batteryCapacity := Token.int (t 12)
  inverterHeatSinkTemp := Token.int (t 13)
  mppt1ChargerTemp := Token.int (t 14)
  mppt2ChargerTemp := Token.int (t 15)
  pv1InputPower := Token.int (t 16)
  pv2InputPower := Token.int (t 17)
  pv1InputVoltage := Token.int (t 18)
  pv2InputVoltage := Token.int (t 19)
  settingsChanged := Token.isOne (t 20)
  mppt1ChargerStatus := ⟨leadingInt (t 21)⟩
  mppt2ChargerStatus := ⟨leadingInt (t 22)⟩
  loadConnected := Token.isOne (t 23)
  batteryPowerDirection := ⟨leadingInt (t 24)⟩
  dcAcPowerDirection := ⟨leadingInt (t 25)⟩
  linePowerDirection := ⟨leadingInt (t 26)⟩
  localParallelId := Token.int (t 27)

def readings (s : GeneralStatus) : List Reading :=
  [.number s.gridVoltage, .number s.gridFreq, .number s.acOutputVoltage, .number s.acOutputFreq,
   .number s.acOutputApparentPower, .number s.acOutputActivePower, .number s.outputLoadPercent,
   .number s.batteryVoltage, .number s.batteryVoltageScc, .number s.batteryVoltageScc2,
   .number s.batteryDischargeCurrent, .number s.batteryChargingCurrent,
   .number s.batteryCapacity, .number s.inverterHeatSinkTemp, .number s.mppt1ChargerTemp,
   .number s.mppt2ChargerTemp, .number s.pv1InputPower, .number s.pv2InputPower,
   .number s.pv1InputVoltage, .number s.pv2InputVoltage, .switch s.settingsChanged,
   .state s.mppt1ChargerStatus.raw, .state s.mppt2ChargerStatus.raw, .switch s.loadConnected,
   .state s.batteryPowerDirection.raw, .state s.dcAcPowerDirection.raw,
   .state s.linePowerDirection.raw, .number s.localParallelId]

end GeneralStatus

structure FaultsWarnings where
  faultCode : Int
  lineFail : Bool
  outputCircuitShort : Bool
  inverterOverTemperature : Bool
  fanLock : Bool
  batteryVoltageHigh : Bool
  batteryLow : Bool
  batteryUnder : Bool
  overLoad : Bool
  eepromFail : Bool
  powerLimit : Bool
  pv1VoltageHigh : Bool
  pv2VoltageHigh : Bool
  mppt1OverloadWarning : Bool
  mppt2OverloadWarning : Bool
  tooLowToChargeScc1 : Bool
  tooLowToChargeScc2 : Bool

namespace FaultsWarnings

def layout : Layout where
  name := "faults_warnings"
  widths := [2, 1, 1, 1, 1, 1, 1, 1, 1, 1, 1, 1, 1, 1, 1, 1, 1]

def ofTokens (t : Nat → List Char) : FaultsWarnings where
  faultCode := Token.int (t 0)
  lineFail := Token.isPositive (t 1)
  outputCircuitShort := Token.isPositive (t 2)
  inverterOverTemperature := Token.isPositive (t 3)
  fanLock := Token.isPositive (t 4)
  batteryVoltageHigh := Token.isPositive (t 5)
  batteryLow := Token.isPositive (t 6)
  batteryUnder := Token.isPositive (t 7)
  overLoad := Token.isPositive (t 8)
  eepromFail := Token.isPositive (t 9)
  powerLimit := Token.isPositive (t 10)
  pv1VoltageHigh := Token.isPositive (t 11)
  pv2VoltageHigh := Token.isPositive (t 12)
  mppt1OverloadWarning := Token.isPositive (t 13)
  mppt2OverloadWarning := Token.isPositive (t 14)
  tooLowToChargeScc1 := Token.isPositive (t 15)
  tooLowToChargeScc2 := Token.isPositive (t 16)

def readings (w : FaultsWarnings) : List Reading :=
  [.number w.faultCode, .switch w.lineFail, .switch w.outputCircuitShort,
   .switch w.inverterOverTemperature, .switch w.fanLock, .switch w.batteryVoltageHigh,
   .switch w.batteryLow, .switch w.batteryUnder, .switch w.overLoad, .switch w.eepromFail,
   .switch w.powerLimit, .switch w.pv1VoltageHigh, .switch w.pv2VoltageHigh,
   .switch w.mppt1OverloadWarning, .switch w.mppt2OverloadWarning, .switch w.tooLowToChargeScc1,
   .switch w.tooLowToChargeScc2]

end FaultsWarnings

structure FlagStates where
  buzzer : Bool
  overloadBypass : Bool
  lcdEscape : Bool
  overloadRestart : Bool
  overTempRestart : Bool
  backlight : Bool
  primarySourceAlarm : Bool
  faultCodeRecord : Bool

namespace FlagStates

def layout : Layout where
  name := "flags_statuses"
  widths := [1, 1, 1, 1, 1, 1, 1, 1, 1]

def ofTokens (t : Nat → List Char) : FlagStates where
  buzzer := Token.isPositive (t 0)
  overloadBypass := Token.isPositive (t 1)
  lcdEscape := Token.isPositive (t 2)
  overloadRestart := Token.isPositive (t 3)
  overTempRestart := Token.isPositive (t 4)
  backlight := Token.isPositive (t 5)
  primarySourceAlarm := Token.isPositive (t 6)
  faultCodeRecord := Token.isPositive (t 7)

def readings (f : FlagStates) : List Reading :=
  [.switch f.buzzer, .switch f.overloadBypass, .switch f.lcdEscape, .switch f.overloadRestart,
   .switch f.overTempRestart, .switch f.backlight, .switch f.primarySourceAlarm,
   .switch f.faultCodeRecord]

end FlagStates

end HybridInverter
