import HybridInverter.Coded
import HybridInverter.Command.Basic
import HybridInverter.Command.Wire
import HybridInverter.Request.Check

/-!
From what a user asks for to what is sent. An action names what to do, with arguments as they were
given; a request is an action whose arguments have met the demands of its command. A demand looks at
one argument, or at the three of a date or of a clock time together, and leaves them as they are, but
for a choice by name, which becomes its digit.
-/
namespace HybridInverter

inductive Demand where
  | year
  | month
  | date
  | clock
  | timeOfDay (what : String)
  | parallelId
  | amperes
  | zeroOrOne (what : String)
  | flag
  | frequency
  | voltage (range : Check.VoltageRange) (what : String)
  | ratedVoltage
  | rechargeVoltage
  | redischargeVoltage
  | choice (table : CodeTable)
  | solarId

namespace Demand

def arity : Demand → Nat
  | .date | .clock => 3
  | _ => 1

/-- The arguments as they were, once they have been found good. -/
def keep {α : Type} (args : List String) (checked : Except UsageFault α) :
    Except Failure (List String) :=
  match checked with
  | .ok _ => .ok args
  | .error fault => .error (.usage fault)

def resolve (d : Demand) (args : List String) : Except Failure (List String) :=
  match d, args with
  | .year, [a] => keep args (Check.year a)
  | .month, [a] => keep args (Check.month a)
  | .date, [y, m, d] => keep args (Check.date y m d)
  | .clock, [h, m, s] => keep args (Check.clock h m s)
  | .timeOfDay what, [a] => keep args (Check.timeOfDay what a)
  | .parallelId, [a] => keep args (Check.parallelId a)
  | .amperes, [a] => keep args (Check.amperes a)
  | .zeroOrOne what, [a] => keep args (Check.zeroOrOne what a)
  | .flag, [a] => (Flag.ofKey a).map fun f => [f.key]
  | .frequency, [a] => keep args (Check.frequency a)
  | .voltage range what, [a] => keep args (Check.voltage range what a)
  | .ratedVoltage, [a] => keep args (Check.ratedVoltage a)
  | .rechargeVoltage, [a] => keep args (Check.rechargeVoltage a)
  | .redischargeVoltage, [a] => keep args (Check.redischargeVoltage a)
  | .choice table, [a] => (Coded.ofChoice table a).map fun c => [c.digit]
  | .solarId, [a] => keep args (Check.solarId a)
  | _, _ => .error (.argument (.tooFew d.arity args.length))

/-- Demands in turn, each on the arguments it looks at; the first one that fails decides. -/
def resolveAll : List Demand → List String → Except Failure (List String)
  | [], _ => .ok []
  | d :: rest, args => do
    let first ← d.resolve (args.take d.arity)
    let others ← resolveAll rest (args.drop d.arity)
    return first ++ others

end Demand

def Query.demands : Query → List Demand
  | .yearGenerated => [.year]
  | .monthGenerated => [.year, .month]
  | .dayGenerated => [.date]
  | .parallelRatedInformation | .parallelGeneralStatus => [.parallelId]
  | _ => []

def Setting.demands : Setting → List Demand
  | .loads => [.zeroOrOne "argument"]
  | .flag => [.flag, .zeroOrOne "flag state"]
  | .maxChargeCurrent | .maxAcChargeCurrent => [.parallelId, .amperes]
  | .outputFrequency => [.frequency]
  | .maxChargeVoltage => [.voltage Check.chargeRange "CV", .voltage Check.chargeRange "FV"]
  | .outputRatedVoltage => [.ratedVoltage]
  | .outputSourcePriority => [.choice .outputSourcePriority]
  | .chargingThresholds => [.rechargeVoltage, .redischargeVoltage]
  | .chargingSourcePriority => [.parallelId, .choice .chargerSourcePriority]
  | .solarPowerPriority => [.choice .solarPowerPriority]
  | .inputVoltageRange => [.choice .inputVoltageRange]
  | .batteryType => [.choice .batteryType]
  | .outputModel => [.parallelId, .choice .outputModel]
  | .cutoffVoltage => [.voltage Check.cutoffRange "voltage"]
  | .solarConfiguration => [.solarId]
  | .dateTime => [.date, .clock]
  | .acChargeTime | .acSupplyTime => [.timeOfDay "start time", .timeOfDay "end time"]
  | .defaults | .clearGenerated => []

namespace Command

def demands : Command → List Demand
  | .query q => q.demands
  | .setting s => s.demands

def argumentCount (c : Command) : Nat :=
  c.demands.foldr (fun d n => d.arity + n) 0

end Command

namespace Query

def word : Query → String
  | .protocolId => "get-protocol-id"
  | .currentTime => "get-date-time"
  | .totalGenerated => "get-total-generated"
  | .yearGenerated => "get-year-generated"
  | .monthGenerated => "get-month-generated"
  | .dayGenerated => "get-day-generated"
  | .seriesNumber => "get-series-number"
  | .cpuVersion => "get-cpu-version"
  | .ratedInformation => "get-rated-information"
  | .generalStatus => "get-general-status"
  | .workingMode => "get-working-mode"
  | .faultsWarnings => "get-faults-warnings"
  | .flags => "get-flags"
  | .defaults => "get-defaults"
  | .maxChargingCurrents => "get-max-charging-current-selectable-values"
  | .maxAcChargingCurrents => "get-max-ac-charging-current-selectable-values"
  | .parallelRatedInformation => "get-parallel-rated-information"
  | .parallelGeneralStatus => "get-parallel-general-status"
  | .acChargeTime => "get-ac-charge-time-bucket"
  | .acSupplyTime => "get-ac-supply-load-time-bucket"

end Query

namespace Setting

def word : Setting → String
  | .loads => "set-loads-supply"
  | .flag => "set-flag"
  | .defaults => "set-defaults"
  | .maxChargeCurrent => "set-battery-max-charging-current"
  | .maxAcChargeCurrent => "set-battery-max-ac-charging-current"
  | .outputFrequency => "set-ac-output-freq"
  | .maxChargeVoltage => "set-battery-max-charging-voltage"
  | .outputRatedVoltage => "set-ac-output-rated-voltage"
  | .outputSourcePriority => "set-output-source-priority"
  | .chargingThresholds => "set-battery-charging-thresholds"
  | .chargingSourcePriority => "set-charging-source-priority"
  | .solarPowerPriority => "set-solar-power-priority"
  | .inputVoltageRange => "set-ac-input-voltage-range"
  | .batteryType => "set-battery-type"
  | .outputModel => "set-output-model"
  | .cutoffVoltage => "set-battery-cutoff-voltage"
  | .solarConfiguration => "set-solar-configuration"
  | .clearGenerated => "clear-generated-data"
  | .dateTime => "set-date-time"
  | .acChargeTime => "set-ac-charge-time-bucket"
  | .acSupplyTime => "set-ac-supply-load-time-bucket"

end Setting

namespace Command

def word : Command → String
  | .query q => q.word
  | .setting s => s.word

def ofWord? (word : String) : Option Command :=
  all.find? fun c => c.word == word

/-- Without arguments it takes those that the clock shows. -/
def usesClock (c : Command) : Bool :=
  c == .setting .dateTime

def argumentCounts (c : Command) : List Nat :=
  (if c.usesClock then [0] else []) ++ [c.argumentCount]

end Command

inductive Action where
  | raw (command : String)
  | dump
  | execute (command : Command) (args : List String)
  deriving DecidableEq, Repr

inductive Request where
  | raw (command : String)
  | dump
  | execute (command : Command) (args : List String)
  deriving DecidableEq, Repr

namespace Request

/-- What goes out as one frame; a dump has more than one. -/
def wire : Request → Except Failure (Option String)
  | .raw command => .ok (some command)
  | .dump => .ok none
  | .execute command args => (command.build args).map some

end Request

namespace Action

/-- The arguments to look at, `now` being year, month, day, hour, minute and second. -/
def given (command : Command) (args now : List String) : List String :=
  if command.usesClock && args.isEmpty then now else args

def toRequest (now : List String) : Action → Except Failure Request
  | .raw command =>
    match Check.rawCommand command with
    | .ok _ => .ok (.raw command)
    | .error fault => .error (.usage fault)
  | .dump => .ok .dump
  | .execute command args => do
    let args := given command args now
    if args.length ≠ command.argumentCount then
      .error (.usage (.argumentCount command.word command.argumentCounts args.length))
    else
      let resolved ← Demand.resolveAll command.demands args
      return .execute command resolved

end Action

end HybridInverter
