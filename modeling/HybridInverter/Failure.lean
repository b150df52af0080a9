import HybridInverter.Text.Numeral
import HybridInverter.Text.Printable

/-!
What can go wrong, by cause. `Failure.message` words a cause behind what was being done.
-/
namespace HybridInverter

inductive ArgumentFault where
  | tooFew (required given : Nat)
  | notInteger (text : String)
  | notNumber (text : String)
  | notTime (text : String)
  | outOfRange (text : String)
  | empty
  | tooLong (bytes : Nat)
  | notChoice (text : String) (choices : List String)
  | unknownFlag (text : String)
  deriving DecidableEq, Repr

def ArgumentFault.message : ArgumentFault → String
  | .tooFew required given =>
    toString required ++ " arguments required, " ++ toString given ++ " given"
  | .notInteger text => text ++ " is not an integer"
  | .notNumber text => text ++ " is not a number"
  | .notTime text => text ++ " is not hh:mm"
  | .outOfRange text => text ++ " is out of range"
  | .empty => "empty argument"
  | .tooLong bytes => "command of " ++ toString bytes ++ " bytes does not fit the length field"
  | .notChoice text choices => text ++ " is not one of " ++ ", ".intercalate choices
  | .unknownFlag text => "invalid flag " ++ text

inductive ReplyFault where
  | short (bytes : Nat)
  | opening (seen : List Char)
  | lengthField (seen : List Char)
  | incomplete (declared read : Nat)
  | lengthTooSmall (declared : Nat)
  | acknowledgement (seen : List Char)
  | unterminated (most : Nat)
  deriving DecidableEq, Repr

def ReplyFault.message : ReplyFault → String
  | .short bytes => "response of " ++ toString bytes ++ " bytes is too short"
  | .opening seen => "response starts with " ++ String.ofList (Text.quote seen) ++ ", expected \"^D\""
  | .lengthField seen => "length field " ++ String.ofList (Text.quote seen) ++ " is not numeric"
  | .incomplete declared read =>
    "response declares " ++ toString declared ++ " bytes but only " ++ toString read ++ " were read"
  | .lengthTooSmall declared =>
    "declared length " ++ toString declared ++ " is shorter than its own field"
  | .acknowledgement seen => "invalid acknowledgement " ++ String.ofList (Text.quote seen)
  | .unterminated most => "no frame terminator within " ++ toString most ++ " bytes"

inductive LinkFault where
  | closed
  | incomplete
  | brokenPipe
  | system (text : String)
  deriving DecidableEq, Repr

def LinkFault.message : LinkFault → String
  | .closed => "link closed before a complete frame was read"
  | .incomplete => "bytes remaining on stream"
  | .brokenPipe => "broken pipe"
  | .system text => text

inductive UsageFault where
  | invalid (what : String)
  | notZeroOrOne (what : String)
  | frequency
  | rawLength (most : Nat)
  | argumentCount (word : String) (allowed : List Nat) (given : Nat)
  deriving DecidableEq, Repr

def UsageFault.message : UsageFault → String
  | .invalid what => "invalid " ++ what
  | .notZeroOrOne what => "invalid " ++ what ++ ", only 0 or 1 allowed"
  | .frequency => "invalid frequency, only 50 or 60 allowed"
  | .rawLength most => "raw command must be 1 to " ++ toString most ++ " bytes long"
  | .argumentCount word allowed given =>
    word ++ " takes " ++ " or ".intercalate (allowed.map toString) ++ " arguments, " ++
      toString given ++ " given"

inductive SettingsFault where
  | unreadable (file reason : String)
  | malformed (file : String)
  | timeout (most : Nat)
  | emptyPath
  | emptyHost
  | zeroPort
  | addressForm (text : String)
  | portForm (text : String) (fault : Numeral.Fault)
  deriving DecidableEq, Repr

def SettingsFault.message : SettingsFault → String
  | .unreadable file reason => "error reading " ++ file ++ ": " ++ reason
  | .malformed file => "error parsing " ++ file
  | .timeout most => "timeout_ms must be between 1 and " ++ toString most
  | .emptyPath => "device.path cannot be empty"
  | .emptyHost => "device.host cannot be empty"
  | .zeroPort => "device.port must be between 1 and 65535"
  | .addressForm text => "--tcp expects host:port, got " ++ text
  | .portForm text fault => "invalid port in " ++ text ++ ": " ++ fault.message

inductive Cause where
  | unknownCommand (id : Nat)
  | argument (fault : ArgumentFault)
  | reply (fault : ReplyFault)
  | refused
  | checksum (expected actual : UInt16)
  | timeout (milliseconds : Nat)
  | link (fault : LinkFault)
  | usage (fault : UsageFault)
  | settings (fault : SettingsFault)
  deriving DecidableEq, Repr

def checksumText (crc : UInt16) : String :=
  "0x" ++ String.ofList (Numeral.hex 4 crc.toNat)

def Cause.message : Cause → String
  | .unknownCommand id => "invalid command id " ++ toString id
  | .argument fault => "invalid argument: " ++ fault.message
  | .reply fault => "invalid response: " ++ fault.message
  | .refused => "inverter rejected the set command"
  | .checksum expected actual =>
    "CRC mismatch: received " ++ checksumText actual ++ ", calculated " ++ checksumText expected
  | .timeout milliseconds => "no response within " ++ toString milliseconds ++ "ms"
  | .link fault => fault.message
  | .usage fault => fault.message
  | .settings fault => fault.message

/-- A cause, and what was being done when it came up, the outermost first. -/
structure Failure where
  cause : Cause
  context : List String := []
  deriving DecidableEq, Repr

namespace Failure

def within (doing : String) (f : Failure) : Failure :=
  { f with context := doing :: f.context }

def message (f : Failure) : String :=
  ": ".intercalate (f.context ++ [f.cause.message])

def argument (fault : ArgumentFault) : Failure := { cause := .argument fault }
def reply (fault : ReplyFault) : Failure := { cause := .reply fault }
def link (fault : LinkFault) : Failure := { cause := .link fault }
def usage (fault : UsageFault) : Failure := { cause := .usage fault }
def settings (fault : SettingsFault) : Failure := { cause := .settings fault }

@[simp] theorem within_cause (doing : String) (f : Failure) : (f.within doing).cause = f.cause := rfl

end Failure
end HybridInverter
