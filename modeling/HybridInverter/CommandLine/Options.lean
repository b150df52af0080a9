import HybridInverter.Report
import HybridInverter.Text.Numeral

/-!
The options of the command line, each with the names it is given by, and what refuses a command
line altogether.
-/
namespace HybridInverter

/-- Why a command line is not carried out. Two of them are what the user asked for. -/
inductive Refusal where
  | help
  | version
  | nothingGiven
  | commandMissing
  | unknownCommand
  | unknownArgument
  | argumentMissing
  | invalidValue
  | outOfRange
  | conflict
  | surplusValue
  deriving DecidableEq, Repr

def Refusal.message : Refusal → String
  | .help => "help is asked for"
  | .version => "the version is asked for"
  | .nothingGiven => "nothing is asked for"
  | .commandMissing => "a command is missing"
  | .unknownCommand => "there is no such command"
  | .unknownArgument => "there is no such option, or an argument too many"
  | .argumentMissing => "an argument is missing"
  | .invalidValue => "an option has no value, or one that is not allowed"
  | .outOfRange => "a value is out of range"
  | .conflict => "an option is given twice, or with one that excludes it"
  | .surplusValue => "an option has a value that it does not take"

inductive Switch where
  | settings
  | timeout
  | verbose
  | pretend
  | format
  | device
  | tcp
  | noWriteChecksum
  | noParseChecksum
  | noVerifyChecksum
  | help
  | version
  deriving DecidableEq, Repr

namespace Switch

def all : List Switch :=
  [.settings, .timeout, .verbose, .pretend, .format, .device, .tcp, .noWriteChecksum,
   .noParseChecksum, .noVerifyChecksum, .help, .version]

def long : Switch → String
  | .settings => "config"
  | .timeout => "timeout"
  | .verbose => "verbose"
  | .pretend => "pretend"
  | .format => "format"
  | .device => "device"
  | .tcp => "tcp"
  | .noWriteChecksum => "no-write-crc"
  | .noParseChecksum => "no-parse-crc"
  | .noVerifyChecksum => "no-verify-crc"
  | .help => "help"
  | .version => "version"

def letter? : Switch → Option Char
  | .settings => some 'c'
  | .timeout => some 't'
  | .verbose => some 'v'
  | .pretend => some 'p'
  | .format => some 'f'
  | .device => some 'd'
  | .help => some 'h'
  | .version => some 'V'
  | _ => none

def ofLong? (name : List Char) : Option Switch :=
  all.find? fun s => s.long.toList == name

def ofLetter? (c : Char) : Option Switch :=
  all.find? fun s => s.letter? == some c

def takesValue : Switch → Bool
  | .settings | .timeout | .format | .device | .tcp => true
  | _ => false

end Switch

structure Options where
  settingsFile : Option String := none
  /-- In milliseconds. -/
  timeout : Option Nat := none
  verbose : Bool := false
  pretend : Bool := false
  format : Option Report.Format := none
  device : Option String := none
  tcp : Option String := none
  noWriteChecksum : Bool := false
  noParseChecksum : Bool := false
  noVerifyChecksum : Bool := false
  deriving DecidableEq, Repr

namespace Options

/-- The longest time to wait for a reply, in milliseconds. -/
def maxTimeout : Nat := 60000

def readTimeout (value : List Char) : Except Refusal Nat :=
  match Numeral.readNat (Numeral.unsigned 64) value with
  | .ok n => if 1 ≤ n ∧ n ≤ maxTimeout then .ok n else .error .outOfRange
  | .error _ => .error .outOfRange

def readPath (value : List Char) : Except Refusal String :=
  if value.isEmpty then .error .invalidValue else .ok (String.ofList value)

def readFormat (value : List Char) : Except Refusal Report.Format :=
  match Report.Format.ofName? (String.ofList value) with
  | some f => .ok f
  | none => .error .invalidValue

def withValue (o : Options) (s : Switch) (value : List Char) : Except Refusal Options :=
  match s with
  | .settings => do return { o with settingsFile := some (← readPath value) }
  | .timeout => do return { o with timeout := some (← readTimeout value) }
  | .format => do return { o with format := some (← readFormat value) }
  | .device => do return { o with device := some (← readPath value) }
  | .tcp => .ok { o with tcp := some (String.ofList value) }
  | _ => .error .surplusValue

def withSwitch (o : Options) : Switch → Except Refusal Options
  | .verbose => .ok { o with verbose := true }
  | .pretend => .ok { o with pretend := true }
  | .noWriteChecksum => .ok { o with noWriteChecksum := true }
  | .noParseChecksum => .ok { o with noParseChecksum := true }
  | .noVerifyChecksum => .ok { o with noVerifyChecksum := true }
  | .help => .error .help
  | .version => .error .version
  | _ => .error .invalidValue

end Options
end HybridInverter
