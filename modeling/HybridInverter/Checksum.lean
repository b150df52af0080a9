/-!
The frame checksum: a CRC of 16 bits over the polynomial `x^16 + x^12 + x^5 + 1` starting from
zero, highest bit first, after which a byte that framing reserves is raised by one. `Checksum.of`
shifts bit by bit; `Nibble.of` is the same checksum four bits at a time, from a table.
-/
namespace HybridInverter
namespace Checksum

def polynomial : UInt16 := 0x1021

def isReserved (b : UInt8) : Bool :=
  b == 0x28 || b == 0x0D || b == 0x0A

def shift (crc : UInt16) : UInt16 :=
  if crc &&& 0x8000 = 0 then crc <<< 1 else (crc <<< 1) ^^^ polynomial

def addByte (crc : UInt16) (b : UInt8) : UInt16 :=
  Nat.repeat shift 8 (crc ^^^ (b.toUInt16 <<< 8))

def remainder (bytes : List UInt8) : UInt16 :=
  bytes.foldl addByte 0

def low (crc : UInt16) : UInt8 := crc.toUInt8
def high (crc : UInt16) : UInt8 := (crc >>> 8).toUInt8

/-- The low byte is looked at first, then the high one. -/
def avoidReserved (crc : UInt16) : UInt16 :=
  let crc := if isReserved (low crc) then crc + 1 else crc
  if isReserved (high crc) then crc + 0x100 else crc

def of (bytes : List UInt8) : UInt16 :=
  avoidReserved (remainder bytes)

def toBytes (crc : UInt16) : List UInt8 :=
  [high crc, low crc]

def ofBytes : List UInt8 → UInt16
  | a :: b :: _ => (a.toUInt16 <<< 8) ||| b.toUInt16
  | _ => 0

/-- The first two bytes of a buffer replaced by a checksum, and how many were written. -/
def write (crc : UInt16) (buffer : List UInt8) : List UInt8 × Nat :=
  (toBytes crc ++ buffer.drop 2, 2)

@[simp] theorem length_toBytes (crc : UInt16) : (toBytes crc).length = 2 := rfl

namespace Nibble

/-- The remainders of the sixteen values of four bits. -/
def table : List UInt16 :=
  [0x0000, 0x1021, 0x2042, 0x3063, 0x4084, 0x50A5, 0x60C6, 0x70E7,
   0x8108, 0x9129, 0xA14A, 0xB16B, 0xC18C, 0xD1AD, 0xE1CE, 0xF1EF]

/-- Folds in four bits, given as a number below sixteen. -/
def addNibble (crc : UInt16) (n : UInt16) : UInt16 :=
  (crc <<< 4) ^^^ table.getD ((crc >>> 12) ^^^ n).toNat 0

def addByte (crc : UInt16) (b : UInt8) : UInt16 :=
  addNibble (addNibble crc (b >>> 4).toUInt16) (b &&& 0x0F).toUInt16

def of (bytes : List UInt8) : UInt16 :=
  avoidReserved (bytes.foldl addByte 0)

end Nibble

end Checksum
end HybridInverter
