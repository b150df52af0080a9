import HybridInverter.Failure

/-!
The commands of an inverter: twenty queries and twenty-one settings, each with a number and the
letters that stand for it in a frame; and the features that a setting can switch on and off.
-/
namespace HybridInverter

structure Flag where
  key : String
  code : Char
  title : String
  deriving DecidableEq, Repr

namespace Flag

def all : List Flag :=
  [⟨"BUZZ", 'A', "Silence buzzer or open buzzer"⟩,
   ⟨"OLBP", 'B', "Overload bypass function"⟩,
   ⟨"LCDE", 'C', "LCD display escape to default page after 1min timeout"⟩,
   ⟨"OLRS", 'D', "Overload restart"⟩,
   ⟨"OTRS", 'E', "Overload temperature restart"⟩,
   ⟨"BLON", 'F', "Backlight on"⟩,
   ⟨"ALRM", 'G', "Alarm on primary source interrupt"⟩,
   ⟨"FTCR", 'H', "Fault code record"⟩,
   ⟨"MTYP", 'I', "Machine type (1=Grid-Tie, 0=Off-Grid-Tie)"⟩]

def ofKey? (key : String) : Option Flag :=
  all.find? fun f => f.key == key

def ofKey (key : String) : Except Failure Flag :=
  match ofKey? key with
  | some f => .ok f
  | none => .error (.argument (.unknownFlag key))

end Flag

inductive Query where
  | protocolId
  | currentTime
  | totalGenerated
  | yearGenerated
  | monthGenerated
  | dayGenerated
  | seriesNumber
  | cpuVersion
  | ratedInformation
  | generalStatus
  | workingMode
  | faultsWarnings
  | flags
  | defaults
  | maxChargingCurrents
  | maxAcChargingCurrents
  | parallelRatedInformation
  | parallelGeneralStatus
  | acChargeTime
  | acSupplyTime
  deriving DecidableEq, Repr

namespace Query

def all : List Query :=
  [.protocolId, .currentTime, .totalGenerated, .yearGenerated, .monthGenerated, .dayGenerated,
   .seriesNumber, .cpuVersion, .ratedInformation, .generalStatus, .workingMode, .faultsWarnings,
   .flags, .defaults, .maxChargingCurrents, .maxAcChargingCurrents, .parallelRatedInformation,
   .parallelGeneralStatus, .acChargeTime, .acSupplyTime]

def firstId : Nat := 1000

def id (q : Query) : Nat :=
  firstId + all.idxOf q

def mnemonic : Query → String
  | .protocolId => "PI"
  | .currentTime => "T"
  | .totalGenerated => "ET"
  | .yearGenerated => "EY"
  | .monthGenerated => "EM"
  | .dayGenerated => "ED"
  | .seriesNumber => "ID"
  | .cpuVersion => "VFW"
  | .ratedInformation => "PIRI"
  | .generalStatus => "GS"
  | .workingMode => "MOD"
  | .faultsWarnings => "FWS"
  | .flags => "FLAG"
  | .defaults => "DI"
  | .maxChargingCurrents => "MCHGCR"
  | .maxAcChargingCurrents => "MUCHGCR"
  | .parallelRatedInformation => "PRI"
  | .parallelGeneralStatus => "PGS"
  | .acChargeTime => "ACCT"
  | .acSupplyTime => "ACLT"

def name : Query → String
  | .protocolId => "protocol_id"
  | .currentTime => "current_time"
  | .totalGenerated => "total_generated"
  | .yearGenerated => "year_generated"
  | .monthGenerated => "month_generated"
  | .dayGenerated => "day_generated"
  | .seriesNumber => "series_number"
  | .cpuVersion => "cpu_version"
  | .ratedInformation => "rated_information"
  | .generalStatus => "general_status"
  | .workingMode => "working_mode"
  | .faultsWarnings => "faults_warnings"
  | .flags => "flags_statuses"
  | .defaults => "defaults"
  | .maxChargingCurrents => "max_charging_current_selectable_values"
  | .maxAcChargingCurrents => "max_ac_charging_current_selectable_values"
  | .parallelRatedInformation => "parallel_rated_information"
  | .parallelGeneralStatus => "parallel_general_status"
  | .acChargeTime => "ac_charge_time_bucket"
  | .acSupplyTime => "ac_supply_load_time_bucket"

def takesArguments : Query → Bool
  | .yearGenerated | .monthGenerated | .dayGenerated => true
  | .parallelRatedInformation | .parallelGeneralStatus => true
  | _ => false

end Query

inductive Setting where
  | loads
  | flag
  | defaults
  | maxChargeCurrent
  | maxAcChargeCurrent
  | outputFrequency
  | maxChargeVoltage
  | outputRatedVoltage
  | outputSourcePriority
  | chargingThresholds
  | chargingSourcePriority
  | solarPowerPriority
  | inputVoltageRange
  | batteryType
  | outputModel
  | cutoffVoltage
  | solarConfiguration
  | clearGenerated
  | dateTime
  | acChargeTime
  | acSupplyTime
  deriving DecidableEq, Repr

namespace Setting

def all : List Setting :=
  [.loads, .flag, .defaults, .maxChargeCurrent, .maxAcChargeCurrent, .outputFrequency,
   .maxChargeVoltage, .outputRatedVoltage, .outputSourcePriority, .chargingThresholds,
   .chargingSourcePriority, .solarPowerPriority, .inputVoltageRange, .batteryType, .outputModel,
   .cutoffVoltage, .solarConfiguration, .clearGenerated, .dateTime, .acChargeTime, .acSupplyTime]

def firstId : Nat := 1100

def id (s : Setting) : Nat :=
  firstId + all.idxOf s

def mnemonic : Setting → String
  | .loads => "LON"
  | .flag => "P"
  | .defaults => "PF"
  | .maxChargeCurrent => "MCHGC"
  | .maxAcChargeCurrent => "MUCHGC"
  | .outputFrequency => "F"
  | .maxChargeVoltage => "MCHGV"
  | .outputRatedVoltage => "V"
  | .outputSourcePriority => "POP"
  | .chargingThresholds => "BUCD"
  | .chargingSourcePriority => "PCP"
  | .solarPowerPriority => "PSP"
  | .inputVoltageRange => "PGR"
  | .batteryType => "PBT"
  | .outputModel => "POPM"
  | .cutoffVoltage => "PSDV"
  | .solarConfiguration => "ID"
  | .clearGenerated => "CLE"
  | .dateTime => "DAT"
  | .acChargeTime => "ACCT"
  | .acSupplyTime => "ACLT"

end Setting

inductive Command where
  | query (q : Query)
  | setting (s : Setting)
  deriving DecidableEq, Repr

namespace Command

def id : Command → Nat
  | .query q => q.id
  | .setting s => s.id

def mnemonic : Command → String
  | .query q => q.mnemonic
  | .setting s => s.mnemonic

def isSetting : Command → Bool
  | .query _ => false
  | .setting _ => true

def mode (c : Command) : Char :=
  if c.isSetting then 'S' else 'P'

def all : List Command :=
  Query.all.map .query ++ Setting.all.map .setting

def ofId (id : Nat) : Except Failure Command :=
  match all.find? fun c => c.id == id with
  | some c => .ok c
  | none => .error { cause := .unknownCommand id }

/-- The letters at the place that a number has in its table: settings are numbered behind queries. -/
def lookup (id : Nat) : Except Failure String :=
  let (mnemonics, firstId) :=
    if Setting.firstId ≤ id then (Setting.all.map Setting.mnemonic, Setting.firstId)
    else (Query.all.map Query.mnemonic, Query.firstId)
  let place := if firstId ≤ id then mnemonics[id - firstId]? else none
  match place with
  | some mnemonic => .ok mnemonic
  | none => .error { cause := .unknownCommand id }

end Command

end HybridInverter
