import HybridInverter.Host.Basic
import HybridInverter.Settings.Basic
import Std.Async.DNS
import Std.Async.TCP
import Std.Async.Timer
import Std.Time

/-!
The machine that the program really runs on: its files, its local time, streams to and from its
devices, and a log on the error output. The time that a command is given covers writing and
reading.
-/
namespace HybridInverter

structure Stream where
  write : List UInt8 → IO Unit
  flush : IO Unit
  /-- At most so many bytes within so many milliseconds: nothing if none came, no bytes at the
  end. -/
  read : Nat → Nat → IO (Option (List UInt8))

/-- The number of an error, which some of the system's calls give with its sign turned. -/
def systemNumber (code : UInt32) : Nat :=
  code.toInt32.toInt.natAbs

def systemReason : IO.Error → String
  | .userError text => text
  | .unexpectedEof => LinkFault.closed.message
  | .alreadyExists _ code text | .otherError code text | .resourceBusy code text
  | .resourceVanished code text | .unsupportedOperation code text | .hardwareFault code text
  | .unsatisfiedConstraints code text | .illegalOperation code text | .protocolError code text
  | .timeExpired code text | .interrupted _ code text | .noFileOrDirectory _ code text
  | .invalidArgument _ code text | .permissionDenied _ code text | .resourceExhausted _ code text
  | .inappropriateType _ code text | .noSuchThing _ code text =>
    text ++ " (os error " ++ toString (systemNumber code) ++ ")"

def onLink {α : Type} (act : IO α) : ExceptT Failure IO α := do
  match ← act.toBaseIO with
  | .ok a => return a
  | .error e => throw (.link (.system (systemReason e)))

namespace Stream

def bytesOf (bytes : List UInt8) : ByteArray :=
  ⟨bytes.toArray⟩

def within {α : Type} (task : Task (Except IO.Error α)) : Nat → IO (Option α)
  | 0 => return none
  | limit + 1 => do
    if ← IO.hasFinished task then return some (← IO.ofExcept task.get)
    else
      IO.sleep 1
      within task limit

/-- A file that stands for a device. It is read report by report, so that no reading waits for more
than the device sends; one that has come to nothing still waits for the next report. -/
def ofFile (path : String) : IO Stream := do
  let file ← IO.FS.Handle.mk path .readWrite
  return {
    write := fun bytes => file.write (bytesOf bytes)
    flush := file.flush
    read := fun most limit => do
      let size := min most Device.reportSize
      let task ← IO.asTask (file.read size.toUSize) .dedicated
      return (← within task limit).map ByteArray.toList }

open Std.Async

def pause (milliseconds : Nat) : Std.Time.Millisecond.Offset :=
  .ofNat milliseconds

/-- Seconds without traffic after which the system asks whether the other side is still there. -/
def keepAlive : Std.Time.Second.Offset := 60

def connect (port : UInt16) : List Std.Net.IPAddr → Async TCP.Socket.Client
  | [] => throw (.userError "failed to lookup address information")
  | address :: rest => do
    let client ← TCP.Socket.Client.mk
    try
      client.connect (match address with
        | .v4 a => .v4 ⟨a, port⟩
        | .v6 a => .v6 ⟨a, port⟩)
      return client
    catch e => if rest.isEmpty then throw e else connect port rest

/-- A connection to a port of a host, unless it takes longer than so many milliseconds. -/
def ofNetwork (host : String) (port : Nat) (noDelay : Bool) (limit : Nat) : IO (Option Stream) := do
  let open? : Async (Option TCP.Socket.Client) := do
    let addresses ← DNS.getAddrInfo host (toString port)
    return some (← connect port.toUInt16 addresses.toList)
  let late : Async (Option TCP.Socket.Client) := do
    sleep (pause limit)
    return none
  let client? ← (Async.race open? late).block
  client?.mapM fun client => do
    client.keepAlive true keepAlive
    if noDelay then client.noDelay
    return {
      write := fun bytes => (client.send (bytesOf bytes)).block
      flush := return
      read := fun most limit => Async.block do
        let late ← Selector.sleep (pause limit)
        Selectable.one #[
          .case (client.recvSelector most.toUInt64) fun bytes? =>
            return some ((bytes?.map ByteArray.toList).getD []),
          .case late fun _ => return none] }

/-- The next delivery of a reader, or nothing after the deadline. -/
partial def await (s : Stream) (u : ChecksumUse) (r : Frame.Reader) (deadline : Nat) :
    IO (Option Frame.Delivery × Frame.Reader) := do
  match r.poll u with
  | .delivered d r => return (some d, r)
  | .hungry r =>
    let r := r.makeRoom
    match ← s.read (r.storage - r.buffer.length) (deadline - (← IO.monoMsNow)) with
    | none => return (none, r)
    | some [] =>
      let (d, r) := r.finish u
      return (some d, r)
    | some bytes => s.await u (r.receive bytes) deadline

def exchange (s : Stream) (kept : IO.Ref Link) (note : Log.Entry → IO Unit) (timeout : Nat)
    (wire : String) : ExceptT Failure IO Reply := do
  let l := (← kept.get).clear
  let command := Utf8.encode wire.toList
  note (l.noteWriting command)
  let deadline := (← IO.monoMsNow) + timeout
  onLink ((l.pieces command).forM s.write *> s.flush)
  let (delivery, reader) ← onLink (s.await l.checksums l.reader deadline)
  kept.set { l with reader }
  (l.notesOf delivery).forM fun e => note e
  Link.conclude timeout delivery

end Stream

namespace Computer

open Numeral (field)

def readText (path : String) : IO (Except String String) := do
  match ← (IO.FS.readBinFile path).toBaseIO with
  | .error e => return .error (systemReason e)
  | .ok bytes =>
    match Utf8.decode? bytes.toList with
    | some text => return .ok (String.ofList text)
    | none => return .error Host.notText

/-- A file that cannot be opened is there all the same. -/
def isPresent (path : String) : IO Bool := do
  match ← (IO.FS.Handle.mk path .read).toBaseIO with
  | .error (.noFileOrDirectory ..) => return false
  | _ => return true

def clock : IO (List String) := do
  let now ← Std.Time.PlainDateTime.now
  return [
    field 4 now.date.year.toInt, field 2 now.date.month.toInt, field 2 now.date.day.toInt,
    field 2 now.time.hour.toInt, field 2 now.time.minute.toInt, field 2 now.time.second.toInt]

def logTime : IO String := do
  let now ← Std.Time.PlainDateTime.now
  let day := "-".intercalate [
    field 4 now.date.year.toInt, field 2 now.date.month.toInt, field 2 now.date.day.toInt]
  let time := ":".intercalate [
    field 2 now.time.hour.toInt, field 2 now.time.minute.toInt, field 2 now.time.second.toInt]
  return day ++ "T" ++ time ++ "." ++ field 3 (now.time.nanosecond.toInt / 1000000)

def write (filter : IO.Ref (Option Log.Filter)) (e : Log.Entry) : IO Unit := do
  if (← filter.get).any (·.admits e) then
    IO.eprintln (e.line (← logTime))

def openStream (d : Device) (timeout : Nat) : ExceptT Failure IO Stream := do
  match d with
  | .hidraw path => onLink (Stream.ofFile path)
  | .tcp host port noDelay =>
    match ← onLink (Stream.ofNetwork host port (noDelay.getD true) timeout) with
    | some s => return s
    | none => throw { cause := .timeout timeout }

def host : IO (Host IO) := do
  let filter ← IO.mkRef none
  return {
    readText
    isPresent
    clock
    startLog := fun f warnings => do
      filter.set (some f)
      warnings.forM fun w => IO.eprintln w
    note := write filter
    openDevice := fun d l timeout => do
      let s ← openStream d timeout
      let kept ← IO.mkRef l
      return { exchange := s.exchange kept (write filter) timeout, note := write filter } }

end Computer

end HybridInverter
