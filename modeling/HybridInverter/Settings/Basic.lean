import HybridInverter.CommandLine.Options
import HybridInverter.Failure
import HybridInverter.Link.Basic
import HybridInverter.Text.Basic

/-!
What can be set about the program, by a file and on the command line: the options given win over the
file, and a checksum that either switches off is off.
-/
namespace HybridInverter

inductive Device where
  | hidraw (path : String)
  | tcp (host : String) (port : Nat) (noDelay : Option Bool)
  deriving DecidableEq, Repr

namespace Device

def name : Device → String
  | .hidraw path => "hidraw:" ++ path
  | .tcp host port _ => "tcp:" ++ host ++ ":" ++ toString port

/-- Human interface devices take commands in reports of this size. -/
def reportSize : Nat := 8

/-- A link that nothing has been said on. -/
def link (d : Device) (checksums : ChecksumUse) : Link where
  name := d.name
  checksums := checksums
  reportSize := match d with
    | .hidraw _ => some reportSize
    | .tcp .. => none

/-- The numbers of vendor and product by which the inverter is known. -/
def usbId : String := "0665:5161"

def noteOpening (d : Device) : Log.Entry :=
  ⟨.info, .link, match d with
    | .hidraw path => "opening " ++ path ++ " (USB " ++ usbId ++ ")"
    | .tcp host port _ => "connecting to " ++ host ++ ":" ++ toString port⟩

end Device

structure Settings where
  logLevel : String := "warn"
  format : Report.Format := .table
  /-- In milliseconds. -/
  timeout : Nat := 1000
  device : Device := .hidraw "/dev/hidraw0"
  checksums : ChecksumUse := {}
  deriving DecidableEq, Repr

namespace Settings

def checkDevice : Device → Except SettingsFault Unit
  | .hidraw path => if path.isEmpty then .error .emptyPath else .ok ()
  | .tcp host port _ =>
    if host.isEmpty then .error .emptyHost
    else if port = 0 then .error .zeroPort
    else .ok ()

def check (s : Settings) : Except SettingsFault Settings :=
  if s.timeout = 0 ∨ Options.maxTimeout < s.timeout then .error (.timeout Options.maxTimeout)
  else (checkDevice s.device).map fun _ => s

def readAddress (text : String) : Except SettingsFault Device :=
  match Text.cutLast ':' text.toList with
  | none => .error (.addressForm text)
  | some (host, port) =>
    match Numeral.readNat (Numeral.unsigned 16) port with
    | .ok n => .ok (.tcp (String.ofList host) n none)
    | .error fault => .error (.portForm text fault)

def mergeDevice (o : Options) (d : Device) : Except SettingsFault Device :=
  match o.tcp with
  | some address => readAddress address
  | none => .ok ((o.device.map .hidraw).getD d)

def merge (o : Options) (s : Settings) : Except SettingsFault Settings := do
  let device ← mergeDevice o s.device
  check
    { s with
      format := o.format.getD s.format
      timeout := o.timeout.getD s.timeout
      device
      checksums :=
        { append := s.checksums.append && !o.noWriteChecksum
          expect := s.checksums.expect && !o.noParseChecksum
          verify := s.checksums.verify && !o.noVerifyChecksum } }

def yesNo (b : Bool) : String :=
  if b then "true" else "false"

def summary (s : Settings) : List String :=
  ["Configuration loaded:",
   "  Log Level: " ++ s.logLevel,
   "  Format: " ++ s.format.logName,
   "  Timeout: " ++ toString s.timeout ++ "ms",
   "  Device: " ++ s.device.name,
   "  CRC: write=" ++ yesNo s.checksums.append ++ " parse=" ++ yesNo s.checksums.expect ++
     " verify=" ++ yesNo s.checksums.compares]

end Settings
end HybridInverter
