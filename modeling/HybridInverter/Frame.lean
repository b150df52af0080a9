import HybridInverter.Checksum
import HybridInverter.Text.Basic

/-!
Frames: content, a checksum unless it is left out, and a carriage return. `encode` writes one;
`decode` takes the next one off a buffer, zero bytes in front of it being padding. From a stream that
comes in pieces `Reader.poll` gives the next frame out of the bytes at hand or asks for more, and
`Reader.await` drives it over the bytes that are on their way. A reader that has reported an error
reports the end of the stream once before it reads on.
-/
namespace HybridInverter

structure ChecksumUse where
  /-- Commands carry one. -/
  append : Bool := true
  /-- Replies carry one. -/
  expect : Bool := true
  /-- The one a reply carries has to be right. -/
  verify : Bool := true
  deriving DecidableEq, Repr, Inhabited

def ChecksumUse.compares (u : ChecksumUse) : Bool :=
  u.expect && u.verify

/-- The content of a frame, and the number of bytes the whole frame took. -/
structure Reply where
  data : List UInt8
  received : Nat
  deriving DecidableEq, Repr, Inhabited

def Reply.text (r : Reply) : List Char :=
  Utf8.decode r.data

namespace Frame

def terminator : UInt8 := 0x0D

/-- A longer stretch without a terminator is no frame. -/
def maxSize : Nat := 1024

def encode (u : ChecksumUse) (command : List UInt8) : List UInt8 :=
  command ++ (if u.append then Checksum.toBytes (Checksum.of command) else []) ++ [terminator]

/-- What the next frame of a buffer comes to. -/
inductive Outcome where
  | pending
  | reply (r : Reply)
  | unterminated
  | mismatch (expected actual : UInt16)
  deriving DecidableEq, Repr

def cut : List UInt8 → Option (List UInt8 × List UInt8)
  | [] => none
  | b :: rest =>
    if b = terminator then some ([], rest) else (cut rest).map fun p => (b :: p.1, p.2)

/-- The content and the checksum at the end of a frame; a frame of one byte has none. -/
def split (u : ChecksumUse) (frame : List UInt8) : List UInt8 × Option UInt16 :=
  if u.expect && 2 ≤ frame.length then
    (frame.take (frame.length - 2), some (Checksum.ofBytes (frame.drop (frame.length - 2))))
  else (frame, none)

def judge (u : ChecksumUse) (frame : List UInt8) : Outcome :=
  match split u frame with
  | (content, some actual) =>
    if u.compares && actual != Checksum.of content then .mismatch (Checksum.of content) actual
    else .reply ⟨content, frame.length + 1⟩
  | (content, none) => .reply ⟨content, frame.length + 1⟩

def dropPadding (buffer : List UInt8) : List UInt8 :=
  buffer.dropWhile (· == 0)

/-- The next frame, and the buffer behind it. Padding goes even when no frame is complete. -/
def decode (u : ChecksumUse) (buffer : List UInt8) : Outcome × List UInt8 :=
  let bytes := dropPadding buffer
  match cut bytes with
  | none => (if maxSize < bytes.length then .unterminated else .pending, bytes)
  | some (frame, rest) => (judge u frame, rest)

/-- The checksum that `decode` splits off the next frame without looking at it. -/
def unverified (u : ChecksumUse) (buffer : List UInt8) : Option UInt16 :=
  if u.compares then none
  else (cut (dropPadding buffer)).bind fun p => (split u p.1).2

/-- Pieces of `size` bytes, the last one filled up with zeros. -/
def reports (size : Nat) (frame : List UInt8) : List (List UInt8) :=
  if h : size = 0 ∨ frame = [] then []
  else
    let piece := frame.take size
    (piece ++ List.replicate (size - piece.length) 0) :: reports size (frame.drop size)
termination_by frame.length
decreasing_by
  have : 0 < frame.length := List.length_pos_iff.mpr fun e => h (.inr e)
  simp only [List.length_drop]; omega

structure Reader where
  buffer : List UInt8 := []
  /-- The buffer has not been searched since it last changed. -/
  fresh : Bool := false
  ended : Bool := false
  failed : Bool := false
  /-- Bytes of storage from the start of the buffer on. -/
  storage : Nat := 8192
  deriving DecidableEq, Repr, Inhabited

inductive Delivery where
  | reply (r : Reply) (unverified : Option UInt16)
  | unterminated
  | mismatch (expected actual : UInt16)
  | incomplete
  | closed
  deriving DecidableEq, Repr

inductive Poll where
  | delivered (d : Delivery) (r : Reader)
  | hungry (r : Reader)

namespace Reader

def capacity : Nat := 8192

def keep (r : Reader) (rest : List UInt8) : Reader :=
  { r with buffer := rest, storage := r.storage - (r.buffer.length - rest.length) }

def clear (r : Reader) : Reader :=
  { r with buffer := [] }

def poll (u : ChecksumUse) (r : Reader) : Poll :=
  if r.failed then .delivered .closed { r with failed := false, fresh := false }
  else if !r.fresh then .hungry r
  else
    let (outcome, rest) := decode u r.buffer
    let kept := r.keep rest
    match outcome with
    | .reply reply => .delivered (.reply reply (unverified u r.buffer)) kept
    | .unterminated => .delivered .unterminated { kept with failed := true }
    | .mismatch expected actual => .delivered (.mismatch expected actual) { kept with failed := true }
    | .pending =>
      if !r.ended then .hungry { kept with fresh := false }
      else if rest.isEmpty then .delivered .closed { kept with fresh := false }
      else .delivered .incomplete { kept with failed := true }

/-- Room behind the buffer; storage used up is laid out anew. -/
def makeRoom (r : Reader) : Reader :=
  if r.storage ≤ r.buffer.length then { r with storage := capacity } else r

def receive (r : Reader) (bytes : List UInt8) : Reader :=
  { r with buffer := r.buffer ++ bytes, fresh := true, ended := false }

/-- Nothing more is coming: what is left is searched once more, after that the stream is closed. -/
def finish (u : ChecksumUse) (r : Reader) : Delivery × Reader :=
  if r.ended then (.closed, r)
  else
    match poll u { r with ended := true, fresh := true } with
    | .delivered d r => (d, r)
    | .hungry r => (.closed, r)

/-- What a reader delivers when `arriving` is on its way, and what of that it leaves; nothing is
delivered when more would have to come. One reading takes what fits into the storage. -/
def await (u : ChecksumUse) (r : Reader) (arriving : List UInt8) (ended : Bool) :
    Option Delivery × Reader × List UInt8 :=
  match poll u r with
  | .delivered d r => (some d, r, arriving)
  | .hungry r =>
    match arriving with
    | [] =>
      if ended then
        let (d, r) := finish u r
        (some d, r, [])
      else (none, r, [])
    | b :: rest =>
      let r := makeRoom r
      let more := r.storage - r.buffer.length - 1
      await u (r.receive (b :: rest.take more)) (rest.drop more) ended
termination_by arriving.length
decreasing_by simp only [List.length_drop, List.length_cons]; omega

end Reader
end Frame

end HybridInverter
