import HybridInverter.Command.Basic
import HybridInverter.Failure
import HybridInverter.Record.Basic
import HybridInverter.Record.Items
import HybridInverter.Record.Parallel
import HybridInverter.Record.Ratings
import HybridInverter.Record.Status
import HybridInverter.Report
import HybridInverter.Text.Basic

/-!
Replies. The envelope of a reply to a query is a caret, the letter D and three digits that count
every byte from themselves on; an acknowledgement of a setting is a caret and a one, or a caret and
anything else for a refusal. `Response.decode` reads the payload of a reply as the record of its query
and never fails; `Response.ofFrame` checks the envelope first. A reply is shown as a report of the
items of its record.
-/
namespace HybridInverter

namespace Envelope

def caret : UInt8 := 0x5E
def queryMark : UInt8 := 0x44
def successMark : UInt8 := 0x31

def headerSize : Nat := 5

/-- Bytes the length field takes of what it counts. -/
def lengthWidth : Nat := 3

/-- Bytes on the wire that a length does not count: the two in front of it, and the fewest behind
the payload. -/
def uncounted : Nat := 4

def isDigit (b : UInt8) : Bool :=
  0x30 ≤ b && b ≤ 0x39

def readDigits (field : List UInt8) : Nat :=
  field.foldl (fun n b => n * 10 + (b.toNat - 0x30)) 0

/-- Where a payload begins and where it ends, which may be behind the end of the buffer. -/
structure Span where
  start : Nat
  stop : Nat
  deriving DecidableEq, Repr

/-- The span of the payload of `data`, a frame that took `size` bytes on the wire. -/
def querySpan (data : List UInt8) (size : Nat) : Except Failure Span :=
  let field := (data.take headerSize).drop 2
  let declared := readDigits field
  if data.length < headerSize then .error (.reply (.short data.length))
  else if data.take 2 ≠ [caret, queryMark] then
    .error (.reply (.opening (Utf8.decode (data.take 2))))
  else if !field.all isDigit then .error (.reply (.lengthField (Utf8.decode field)))
  else if size < declared + uncounted then .error (.reply (.incomplete declared size))
  else if declared < lengthWidth then .error (.reply (.lengthTooSmall declared))
  else .ok ⟨headerSize, headerSize + (declared - lengthWidth)⟩

def payload (data : List UInt8) (s : Span) : List Char :=
  Utf8.decode ((data.take s.stop).drop s.start)

inductive Acknowledgement where
  | success
  | failure
  deriving DecidableEq, Repr

def Acknowledgement.result : Acknowledgement → Except Failure Unit
  | .success => .ok ()
  | .failure => .error { cause := .refused }

def acknowledgement (data : List UInt8) (size : Nat) : Except Failure Acknowledgement :=
  let refused : Except Failure Acknowledgement :=
    .error (.reply (.acknowledgement (Utf8.decode data)))
  if size < 2 then refused
  else
    match data with
    | a :: b :: _ =>
      if a ≠ caret then refused
      else .ok (if b = successMark then .success else .failure)
    | _ => refused

end Envelope

inductive Response where
  | protocolId (id : Int)
  | currentTime (t : CurrentTime)
  | totalGenerated (kilowattHours : Int)
  | yearGenerated (kilowattHours : Int)
  | monthGenerated (kilowattHours : Int)
  | dayGenerated (wattHours : Int)
  | seriesNumber (s : SeriesNumber)
  | cpuVersion (v : CpuVersion)
  | ratedInformation (r : RatedInformation)
  | generalStatus (s : GeneralStatus)
  | workingMode (mode : Coded .workingMode)
  | faultsWarnings (w : FaultsWarnings)
  | flags (f : FlagStates)
  | defaults (d : Defaults)
  | maxChargingCurrents (amperes : List Int)
  | maxAcChargingCurrents (amperes : List Int)
  | parallelRatedInformation (r : ParallelRatings)
  | parallelGeneralStatus (s : ParallelStatus)
  | acChargeTime (b : TimeBucket)
  | acSupplyTime (b : TimeBucket)

namespace Response

def twoDigits (payload : List Char) : Int :=
  clampInt32 (leadingInt (Utf8.slice 0 2 payload))

def energy (payload : List Char) : Int :=
  leadingInt (Utf8.slice 0 8 payload)

def decode (q : Query) (payload : List Char) : Response :=
  let tokens := Token.get payload
  match q with
  | .protocolId => .protocolId (twoDigits payload)
  | .currentTime => .currentTime (.ofPayload payload)
  | .totalGenerated => .totalGenerated (energy payload)
  | .yearGenerated => .yearGenerated (energy payload)
  | .monthGenerated => .monthGenerated (energy payload)
  | .dayGenerated => .dayGenerated (energy payload)
  | .seriesNumber => .seriesNumber (.ofPayload payload)
  | .cpuVersion => .cpuVersion (.ofTokens tokens)
  | .ratedInformation => .ratedInformation (.ofTokens tokens)
  | .generalStatus => .generalStatus (.ofTokens tokens)
  | .workingMode => .workingMode ⟨twoDigits payload⟩
  | .faultsWarnings => .faultsWarnings (.ofTokens tokens)
  | .flags => .flags (.ofTokens tokens)
  | .defaults => .defaults (.ofTokens tokens)
  | .maxChargingCurrents => .maxChargingCurrents (Selectable.ofPayload payload)
  | .maxAcChargingCurrents => .maxAcChargingCurrents (Selectable.ofPayload payload)
  | .parallelRatedInformation => .parallelRatedInformation (.ofTokens tokens)
  | .parallelGeneralStatus => .parallelGeneralStatus (.ofTokens tokens)
  | .acChargeTime => .acChargeTime (.ofTokens tokens)
  | .acSupplyTime => .acSupplyTime (.ofTokens tokens)

def layout? : Query → Option Layout
  | .cpuVersion => some CpuVersion.layout
  | .ratedInformation => some RatedInformation.layout
  | .generalStatus => some GeneralStatus.layout
  | .faultsWarnings => some FaultsWarnings.layout
  | .flags => some FlagStates.layout
  | .defaults => some Defaults.layout
  | .parallelRatedInformation => some ParallelRatings.layout
  | .parallelGeneralStatus => some ParallelStatus.layout
  | .acChargeTime | .acSupplyTime => some TimeBucket.layout
  | _ => none

def notes (q : Query) (payload : List Char) : List Log.Entry :=
  match layout? q, q with
  | some l, _ => l.notes payload
  | none, .maxChargingCurrents | none, .maxAcChargingCurrents => Selectable.notes payload
  | none, _ => []

/-- The payload of a frame that took `size` bytes on the wire. -/
def payloadOf (data : List UInt8) (size : Nat) : Except Failure (List Char) :=
  (Envelope.querySpan data size).map (Envelope.payload data)

def ofFrame (q : Query) (data : List UInt8) (size : Nat) : Except Failure Response :=
  (payloadOf data size).map (decode q)

def notesOfFrame (q : Query) (data : List UInt8) (size : Nat) : List Log.Entry :=
  match payloadOf data size with
  | .ok payload => notes q payload
  | .error _ => []

def readings : Response → List Reading
  | .protocolId id => [.number id]
  | .currentTime t => t.readings
  | .totalGenerated n | .yearGenerated n | .monthGenerated n | .dayGenerated n => [.number n]
  | .seriesNumber s => s.readings
  | .cpuVersion v => v.readings
  | .ratedInformation r => r.readings
  | .generalStatus s => s.readings
  | .workingMode mode => [.state mode.raw]
  | .faultsWarnings w => w.readings
  | .flags f => f.readings
  | .defaults d => d.readings
  | .maxChargingCurrents amperes | .maxAcChargingCurrents amperes => amperes.map .number
  | .parallelRatedInformation r => r.readings
  | .parallelGeneralStatus s => s.readings
  | .acChargeTime b | .acSupplyTime b => b.readings

open Report

def items : Response → List Item
  | .protocolId id => [⟨"id", "Protocol ID", .long id, none⟩]
  | .currentTime t => t.items
  | .totalGenerated n | .yearGenerated n | .monthGenerated n => [⟨"kwh", "kWh", .long n, none⟩]
  | .dayGenerated n => [⟨"wh", "Wh", .long n, none⟩]
  | .seriesNumber s => [⟨"sn", "Series number", .text s.id, none⟩]
  | .cpuVersion v => v.items
  | .ratedInformation r => r.items
  | .generalStatus s => s.items
  | .workingMode mode => [⟨"mode", "Working mode", .text mode.label, none⟩]
  | .faultsWarnings w => w.items
  | .flags f => f.items
  | .defaults d => d.items
  | .maxChargingCurrents amperes | .maxAcChargingCurrents amperes =>
    amperes.map fun a => ⟨"amps", "Amps", .long a, some .ampere⟩
  | .parallelRatedInformation r => r.items
  | .parallelGeneralStatus s => s.items
  | .acChargeTime b | .acSupplyTime b => b.items

/-- The numbers of a reply that shows nothing else. -/
def bareNumbers? : Response → Option (List Int)
  | .maxChargingCurrents amperes | .maxAcChargingCurrents amperes => some amperes
  | _ => none

def toJson (withUnits : Bool) (r : Response) : Json :=
  match r.bareNumbers? with
  | some ns => .array (ns.map .int)
  | none => itemsToJson withUnits r.items

def render (f : Format) (r : Response) : String :=
  match r.bareNumbers? with
  | some ns =>
    if f.isJson then (r.toJson false).render else Table.ofLines (ns.map Numeral.signed)
  | none => renderItems f r.items

def headed (f : Format) (result : Query × Response) : String :=
  "[" ++ result.1.name ++ "]\n" ++ result.2.render f

def renderAll (f : Format) (results : List (Query × Response)) : String :=
  if f.isJson then
    (Json.ofEntries (results.map fun r => (r.1.name, r.2.toJson (f == .jsonWithUnits)))).render
  else "\n\n".intercalate (results.map (headed f))

end Response

end HybridInverter
