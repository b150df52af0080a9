import HybridInverter.Failure
import HybridInverter.Frame
import HybridInverter.Log
import HybridInverter.Text.Basic
import HybridInverter.Text.Numeral

/-!
A link to one inverter: a command goes out as a frame, cut into reports where the device wants
them, and the next frame that comes in is its reply. What the reader still holds is dropped before
each command; what is on its way is not. The log shows what comes and goes as hex dumps, sixteen bytes
a line behind their offset, as pairs of hexadecimal digits and once more as characters between bars.
-/
namespace HybridInverter

namespace Hexdump

def perLine : Nat := 16

def pairsWidth : Nat := 47

def pair (b : UInt8) : List Char :=
  Numeral.hex 2 b.toNat

def glyph (b : UInt8) : Char :=
  if 0x20 ≤ b ∧ b ≤ 0x7E then Char.ofNat b.toNat else '.'

def line (offset : Nat) (bytes : List UInt8) : List Char :=
  Numeral.hex 8 offset ++ "  ".toList ++
    Text.padRight pairsWidth ([' '].intercalate (bytes.map pair)) ++
    "  |".toList ++ bytes.map glyph ++ ['|']

def linesFrom (offset : Nat) : List UInt8 → List (List Char)
  | [] => []
  | b :: rest =>
    line offset ((b :: rest).take perLine) ::
      linesFrom (offset + perLine) ((b :: rest).drop perLine)
termination_by bytes => bytes.length
decreasing_by simp only [perLine, List.length_drop, List.length_cons]; omega

def lines (bytes : List UInt8) : List (List Char) :=
  linesFrom 0 bytes

def text (bytes : List UInt8) : String :=
  String.ofList (['\n'].intercalate (lines bytes))

end Hexdump

structure Link where
  name : String := "link"
  checksums : ChecksumUse := {}
  reportSize : Option Nat := none
  reader : Frame.Reader := {}

namespace Link

def frame (l : Link) (command : List UInt8) : List UInt8 :=
  Frame.encode l.checksums command

def pieces (l : Link) (command : List UInt8) : List (List UInt8) :=
  match l.reportSize with
  | some size => Frame.reports size (l.frame command)
  | none => [l.frame command]

def written (l : Link) (command : List UInt8) : List UInt8 :=
  (l.pieces command).flatten

def clear (l : Link) : Link :=
  { l with reader := l.reader.clear }

def note (l : Link) (doing : String) (count : Nat) (bytes : List UInt8) : Log.Entry :=
  ⟨.debug, .link,
    l.name ++ ": " ++ doing ++ " " ++ toString count ++ " bytes:\n" ++ Hexdump.text bytes⟩

def noteWriting (l : Link) (command : List UInt8) : Log.Entry :=
  l.note "writing" (l.frame command).length (l.frame command)

def noteReading (l : Link) (r : Reply) : Log.Entry :=
  l.note "read" r.received r.data

def noteUnverified (crc : UInt16) : Log.Entry :=
  ⟨.debug, .frame, "skipping CRC verification (received " ++ checksumText crc ++ ")"⟩

/-- What the command comes to once the reader has delivered, or has not in time. -/
def conclude (timeout : Nat) : Option Frame.Delivery → Except Failure Reply
  | some (.reply r _) => .ok r
  | some .unterminated => .error (.reply (.unterminated Frame.maxSize))
  | some (.mismatch expected actual) => .error { cause := .checksum expected actual }
  | some .incomplete => .error (.link .incomplete)
  | some .closed => .error (.link .closed)
  | none => .error { cause := .timeout timeout }

def notesOf (l : Link) : Option Frame.Delivery → List Log.Entry
  | some (.reply r unverified) => (unverified.map noteUnverified).toList ++ [l.noteReading r]
  | _ => []

structure Heard where
  outcome : Except Failure Reply
  link : Link
  left : List UInt8
  notes : List Log.Entry

def listen (l : Link) (arriving : List UInt8) (ended : Bool) (timeout : Nat) : Heard :=
  let (delivery, reader, left) := l.reader.await l.checksums arriving ended
  { outcome := conclude timeout delivery
    link := { l with reader }
    left
    notes := l.notesOf delivery }

end Link

end HybridInverter
