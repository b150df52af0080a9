import HybridInverter.Record.Basic
import HybridInverter.Record.Parallel
import HybridInverter.Record.Ratings
import HybridInverter.Record.Status
import HybridInverter.Report

/-!
The items that each record shows in a report.
-/
namespace HybridInverter

open Report

def connected (b : Bool) : Value :=
  .text (if b then "Connected" else "Disconnected")

def clock (hour minute : Int) : Value :=
  .text (String.ofList (Numeral.padded 2 hour ++ ':' :: Numeral.padded 2 minute))

def CpuVersion.items (v : CpuVersion) : List Item :=
  [⟨"main_v", "Main CPU version", .text v.mainCpuVersion, none⟩,
   ⟨"slave1_v", "Slave 1 CPU version", .text v.slave1CpuVersion, none⟩,
   ⟨"slave2_v", "Slave 2 CPU version", .text v.slave2CpuVersion, none⟩]

def RatedInformation.items (r : RatedInformation) : List Item :=
  [⟨"ac_input_rating_voltage", "AC input rating voltage",
     .tenths r.acInputRatingVoltage, some .volt⟩,
   ⟨"ac_input_rating_current", "AC input rating current",
     .tenths r.acInputRatingCurrent, some .ampere⟩,
   ⟨"ac_output_rating_voltage", "AC output rating voltage",
     .tenths r.acOutputRatingVoltage, some .volt⟩,
   ⟨"ac_output_rating_freq", "AC output rating frequency",
     .tenths r.acOutputRatingFreq, some .hertz⟩,
   ⟨"ac_output_rating_current", "AC output rating current",
     .tenths r.acOutputRatingCurrent, some .ampere⟩,
   ⟨"ac_output_rating_apparent_power", "AC output rating apparent power",
     .long r.acOutputRatingApparentPower, some .voltAmpere⟩,
   ⟨"ac_output_rating_active_power", "AC output rating active power",
     .long r.acOutputRatingActivePower, some .wattHour⟩,
   ⟨"battery_rating_voltage", "Battery rating voltage", .tenths r.batteryRatingVoltage, some .volt⟩,
   ⟨"battery_recharge_voltage", "Battery re-charge voltage",
     .tenths r.batteryRechargeVoltage, some .volt⟩,
   ⟨"battery_redischarge_voltage", "Battery re-discharge voltage",
     .tenths r.batteryRedischargeVoltage, some .volt⟩,
   ⟨"battery_under_voltage", "Battery under voltage", .tenths r.batteryUnderVoltage, some .volt⟩,
   ⟨"battery_bulk_voltage", "Battery bulk voltage", .tenths r.batteryBulkVoltage, some .volt⟩,
   ⟨"battery_float_voltage", "Battery float voltage", .tenths r.batteryFloatVoltage, some .volt⟩,
   ⟨"battery_type", "Battery type", .text r.batteryType.label, none⟩,
   ⟨"max_charging_current", "Max charging current", .long r.maxChargingCurrent, some .ampere⟩,
   ⟨"max_ac_charging_current", "Max AC charging current",
     .long r.maxAcChargingCurrent, some .ampere⟩,
   ⟨"input_voltage_range", "Input voltage range", .text r.inputVoltageRange.label, none⟩,
   ⟨"output_source_priority", "Output source priority", .text r.outputSourcePriority.label, none⟩,
   ⟨"charger_source_priority", "Charger source priority",
     .text r.chargerSourcePriority.label, none⟩,
   ⟨"parallel_max_num", "Parallel max num", .long r.parallelMaxNum, none⟩,
   ⟨"machine_type", "Machine type", .text r.machineType.label, none⟩,
   ⟨"topology", "Topology", .text r.topology.label, none⟩,
   ⟨"output_model_setting", "Output model setting", .text r.outputModel.label, none⟩,
   ⟨"solar_power_priority", "Solar power priority", .text r.solarPowerPriority.label, none⟩,
   ⟨"mppt", "MPPT string", .text r.mppt, none⟩]

def GeneralStatus.items (s : GeneralStatus) : List Item :=
  [⟨"grid_voltage", "Grid voltage", .tenths s.gridVoltage, some .volt⟩,
   ⟨"grid_freq", "Grid frequency", .tenths s.gridFreq, some .hertz⟩,
   ⟨"ac_output_voltage", "AC output voltage", .tenths s.acOutputVoltage, some .volt⟩,
   ⟨"ac_output_freq", "AC output frequency", .tenths s.acOutputFreq, some .hertz⟩,
   ⟨"ac_output_apparent_power", "AC output apparent power",
     .long s.acOutputApparentPower, some .voltAmpere⟩,
   ⟨"ac_output_active_power", "AC output active power",
     .long s.acOutputActivePower, some .wattHour⟩,
   ⟨"output_load_percent", "Output load percent", .long s.outputLoadPercent, some .percent⟩,
   ⟨"battery_voltage", "Battery voltage", .tenths s.batteryVoltage, some .volt⟩,
   ⟨"battery_voltage_scc", "Battery voltage from SCC", .tenths s.batteryVoltageScc, some .volt⟩,
   ⟨"battery_voltage_scc2", "Battery voltage from SCC2", .tenths s.batteryVoltageScc2, some .volt⟩,
   ⟨"battery_discharge_current", "Battery discharge current",
     .long s.batteryDischargeCurrent, some .ampere⟩,
   ⟨"battery_charging_current", "Battery charging current",
     .long s.batteryChargingCurrent, some .ampere⟩,
   ⟨"battery_capacity", "Battery capacity", .long s.batteryCapacity, some .percent⟩,
   ⟨"inverter_heat_sink_temp", "Inverter heat sink temperature",
     .long s.inverterHeatSinkTemp, some .celsius⟩,
   ⟨"mppt1_charger_temp", "MPPT1 charger temperature", .long s.mppt1ChargerTemp, some .celsius⟩,
   ⟨"mppt2_charger_temp", "MPPT2 charger temperature", .long s.mppt2ChargerTemp, some .celsius⟩,
   ⟨"pv1_input_power", "PV1 Input power", .hundredths s.pv1InputPower, some .wattHour⟩,
   ⟨"pv2_input_power", "PV2 Input power", .hundredths s.pv2InputPower, some .wattHour⟩,
   ⟨"pv1_input_voltage", "PV1 Input voltage", .tenths s.pv1InputVoltage, some .volt⟩,
   ⟨"pv2_input_voltage", "PV2 Input voltage", .tenths s.pv2InputVoltage, some .volt⟩,
   ⟨"settings_values_changed", "Setting value configuration state",
     .text (if s.settingsChanged then "Something changed" else "Nothing changed"), none⟩,
   ⟨"mppt1_charger_status", "MPPT1 charger status", .text s.mppt1ChargerStatus.label, none⟩,
   ⟨"mppt2_charger_status", "MPPT2 charger status", .text s.mppt2ChargerStatus.label, none⟩,
   ⟨"load_connected", "Load connection", connected s.loadConnected, none⟩,
   ⟨"battery_power_direction", "Battery power direction",
     .text s.batteryPowerDirection.label, none⟩,
   ⟨"dc_ac_power_direction", "DC/AC power direction", .text s.dcAcPowerDirection.label, none⟩,
   ⟨"line_power_direction", "Line power direction", .text s.linePowerDirection.label, none⟩,
   ⟨"local_parallel_id", "Local parallel ID", .long s.localParallelId, none⟩]

def FaultsWarnings.items (w : FaultsWarnings) : List Item :=
  [⟨"fault_code", "Fault code", .text (faultLabel w.faultCode), none⟩,
   ⟨"line_fail", "Line fail", .yesNo w.lineFail, none⟩,
   ⟨"output_circuit_short", "Output circuit short", .yesNo w.outputCircuitShort, none⟩,
   ⟨"inverter_over_temperature", "Inverter over temperature",
     .yesNo w.inverterOverTemperature, none⟩,
   ⟨"fan_lock", "Fan lock", .yesNo w.fanLock, none⟩,
   ⟨"battery_voltage_high", "Battery voltage high", .yesNo w.batteryVoltageHigh, none⟩,
   ⟨"battery_low", "Battery low", .yesNo w.batteryLow, none⟩,
   ⟨"battery_under", "Battery under", .yesNo w.batteryUnder, none⟩,
   ⟨"over_load", "Over load", .yesNo w.overLoad, none⟩,
   ⟨"eeprom_fail", "EEPROM fail", .yesNo w.eepromFail, none⟩,
   ⟨"power_limit", "Power limit", .yesNo w.powerLimit, none⟩,
   ⟨"pv1_voltage_high", "PV1 voltage high", .yesNo w.pv1VoltageHigh, none⟩,
   ⟨"pv2_voltage_high", "PV2 voltage high", .yesNo w.pv2VoltageHigh, none⟩,
   ⟨"mppt1_overload_warning", "MPPT1 overload warning", .yesNo w.mppt1OverloadWarning, none⟩,
   ⟨"mppt2_overload_warning", "MPPT2 overload warning", .yesNo w.mppt2OverloadWarning, none⟩,
   ⟨"battery_too_low_to_charge_for_scc1", "Battery too low to charge for SCC1",
     .yesNo w.tooLowToChargeScc1, none⟩,
   ⟨"battery_too_low_to_charge_for_scc2", "Battery too low to charge for SCC2",
     .yesNo w.tooLowToChargeScc2, none⟩]

def FlagStates.items (f : FlagStates) : List Item :=
  [⟨"buzzer", "Buzzer", .enabled f.buzzer, none⟩,
   ⟨"overload_bypass", "Overload bypass function", .enabled f.overloadBypass, none⟩,
   ⟨"lcd_escape_to_default_page_after_1min_timeout", "Escape to default page after 1min timeout",
     .enabled f.lcdEscape, none⟩,
   ⟨"overload_restart", "Overload restart", .enabled f.overloadRestart, none⟩,
   ⟨"over_temp_restart", "Over temperature restart", .enabled f.overTempRestart, none⟩,
   ⟨"backlight_on", "Backlight on", .enabled f.backlight, none⟩,
   ⟨"alarm_on_primary_source_interrupt", "Alarm on when primary source interrupt",
     .enabled f.primarySourceAlarm, none⟩,
   ⟨"fault_code_record", "Fault code record", .enabled f.faultCodeRecord, none⟩]

def Defaults.items (d : Defaults) : List Item :=
  [⟨"ac_output_voltage", "AC output voltage", .tenths d.acOutputVoltage, some .volt⟩,
   ⟨"ac_output_freq", "AC output frequency", .tenths d.acOutputFreq, some .hertz⟩,
   ⟨"ac_input_voltage_range", "AC input voltage range", .text d.acInputVoltageRange.label, none⟩,
   ⟨"battery_under_voltage", "Battery under voltage", .tenths d.batteryUnderVoltage, some .volt⟩,
   ⟨"battery_bulk_voltage", "Charging bulk voltage", .tenths d.chargingBulkVoltage, some .volt⟩,
   ⟨"battery_float_voltage", "Charging float voltage", .tenths d.chargingFloatVoltage, some .volt⟩,
   ⟨"battery_recharge_voltage", "Battery re-charge voltage",
     .tenths d.batteryRechargeVoltage, some .volt⟩,
   ⟨"battery_redischarge_voltage", "Battery re-discharge voltage",
     .tenths d.batteryRedischargeVoltage, some .volt⟩,
   ⟨"max_ac_charging_current", "Max AC charging current",
     .long d.maxAcChargingCurrent, some .ampere⟩,
   ⟨"max_charging_current", "Max charging current", .long d.maxChargingCurrent, some .ampere⟩,
   ⟨"battery_type", "Battery type", .text d.batteryType.label, none⟩,
   ⟨"output_source_priority", "Output source priority", .text d.outputSourcePriority.label, none⟩,
   ⟨"charger_source_priority", "Charger source priority",
     .text d.chargerSourcePriority.label, none⟩,
   ⟨"solar_power_priority", "Solar power priority", .text d.solarPowerPriority.label, none⟩,
   ⟨"machine_type", "Machine type", .text d.machineType.label, none⟩,
   ⟨"output_model_setting", "Output model setting", .text d.outputModel.label, none⟩,
   ⟨"buzzer_flag", "Buzzer flag", .enabled d.buzzerFlag, none⟩,
   ⟨"overload_bypass_flag", "Overload bypass function flag", .enabled d.overloadBypassFlag, none⟩,
   ⟨"lcd_escape_to_default_page_after_1min_timeout_flag", "Escape to default page after 1min timeout flag",
     .enabled d.lcdEscapeFlag, none⟩,
   ⟨"overload_restart_flag", "Overload restart flag", .enabled d.overloadRestartFlag, none⟩,
   ⟨"over_temp_restart_flag", "Over temperature restart flag",
     .enabled d.overTempRestartFlag, none⟩,
   ⟨"backlight_on_flag", "Backlight on flag", .enabled d.backlightFlag, none⟩,
   ⟨"alarm_on_primary_source_interrupt_flag", "Alarm on when primary source interrupt flag",
     .enabled d.primarySourceAlarmFlag, none⟩,
   ⟨"fault_code_record_flag", "Fault code record flag", .enabled d.faultCodeRecordFlag, none⟩]

def ParallelRatings.items (r : ParallelRatings) : List Item :=
  [⟨"parallel_id_connection_status", "Parallel ID connection status",
     .text r.connection.label, none⟩,
   ⟨"serial_number", "Serial number", .text r.serialNumber, none⟩,
   ⟨"charger_source_priority", "Charger source priority",
     .text r.chargerSourcePriority.label, none⟩,
   ⟨"max_charging_current", "Max charging current", .long r.maxChargingCurrent, some .ampere⟩,
   ⟨"max_ac_charging_current", "Max AC charging current",
     .long r.maxAcChargingCurrent, some .ampere⟩,
   ⟨"output_model_setting", "Output model setting", .text r.outputModel.label, none⟩]

def ParallelStatus.items (s : ParallelStatus) : List Item :=
  [⟨"parallel_id_connection_status", "Parallel ID connection status",
     .text s.connection.label, none⟩,
   ⟨"mode", "Working mode", .text s.workMode.label, none⟩,
   ⟨"fault_code", "Fault code", .text (faultLabel s.faultCode), none⟩,
   ⟨"grid_voltage", "Grid voltage", .tenths s.gridVoltage, some .volt⟩,
   ⟨"grid_freq", "Grid frequency", .tenths s.gridFreq, some .hertz⟩,
   ⟨"ac_output_voltage", "AC output voltage", .tenths s.acOutputVoltage, some .volt⟩,
   ⟨"ac_output_freq", "AC output frequency", .tenths s.acOutputFreq, some .hertz⟩,
   ⟨"ac_output_apparent_power", "AC output apparent power",
     .long s.acOutputApparentPower, some .voltAmpere⟩,
   ⟨"ac_output_active_power", "AC output active power",
     .long s.acOutputActivePower, some .wattHour⟩,
   ⟨"total_ac_output_apparent_power", "Total AC output apparent power",
     .long s.totalAcOutputApparentPower, some .voltAmpere⟩,
   ⟨"total_ac_output_active_power", "Total AC output active power",
     .long s.totalAcOutputActivePower, some .wattHour⟩,
   ⟨"output_load_percent", "Output load percent", .long s.outputLoadPercent, some .percent⟩,
   ⟨"total_output_load_percent", "Total output load percent",
     .long s.totalOutputLoadPercent, some .percent⟩,
   ⟨"battery_voltage", "Battery voltage", .tenths s.batteryVoltage, some .volt⟩,
   ⟨"battery_discharge_current", "Battery discharge current",
     .long s.batteryDischargeCurrent, some .ampere⟩,
   ⟨"battery_charging_current", "Battery charging current",
     .long s.batteryChargingCurrent, some .ampere⟩,
   ⟨"total_battery_charging_current", "Total battery charging current",
     .long s.totalBatteryChargingCurrent, some .ampere⟩,
   ⟨"battery_capacity", "Battery capacity", .long s.batteryCapacity, some .percent⟩,
   ⟨"pv1_input_power", "PV1 Input power", .hundredths s.pv1InputPower, some .wattHour⟩,
   ⟨"pv2_input_power", "PV2 Input power", .hundredths s.pv2InputPower, some .wattHour⟩,
   ⟨"pv1_input_voltage", "PV1 Input voltage", .tenths s.pv1InputVoltage, some .volt⟩,
   ⟨"pv2_input_voltage", "PV2 Input voltage", .tenths s.pv2InputVoltage, some .volt⟩,
   ⟨"mppt1_charger_status", "MPPT1 charger status", .text s.mppt1ChargerStatus.label, none⟩,
   ⟨"mppt2_charger_status", "MPPT2 charger status", .text s.mppt2ChargerStatus.label, none⟩,
   ⟨"load_connected", "Load connection", connected s.loadConnected, none⟩,
   ⟨"battery_power_direction", "Battery power direction",
     .text s.batteryPowerDirection.label, none⟩,
   ⟨"dc_ac_power_direction", "DC/AC power direction", .text s.dcAcPowerDirection.label, none⟩,
   ⟨"line_power_direction", "Line power direction", .text s.linePowerDirection.label, none⟩,
   ⟨"max_temp", "Max. temperature", .long s.maxTemp, none⟩]

def CurrentTime.items (t : CurrentTime) : List Item :=
  [⟨"year", "Year", .long t.year, none⟩,
   ⟨"month", "Month", .long t.month, none⟩,
   ⟨"day", "Day", .long t.day, none⟩,
   ⟨"hour", "Hour", .long t.hour, none⟩,
   ⟨"minute", "Minute", .long t.minute, none⟩,
   ⟨"second", "Second", .long t.second, none⟩]

def TimeBucket.items (b : TimeBucket) : List Item :=
  [⟨"start_time", "Start time", clock b.startHour b.startMinute, none⟩,
   ⟨"end_time", "End time", clock b.endHour b.endMinute, none⟩]

end HybridInverter
