import RfidLink.Frame.Basic
import RfidLink.Hexadecimal

/-!
# Cutting a byte stream into frames

The serial line delivers bytes, not frames.  `FrameCollector` takes the bytes one by one, each
with the time of its arrival, and collects a frame.

* **Progress.**  The collector awaits a length byte, or collects the frame a length byte has
  announced, or holds a complete frame.  `Progress` has one case for each, and each case holds
  exactly the bytes that matter in it.
* **Silence.**  A frame whose next byte is late by more than `interByteTimeout` is given up, and
  that byte is taken for a length byte.
* **Errors.**  A length byte that announces a frame outside the accepted sizes is dropped.
  Dropped length bytes, frames given up and overflows are counted in `errors`.

A complete frame stays where it is until `reset`: further bytes are refused before that.  Only
the size of a frame is checked here, its checksum is not.
-/

namespace RfidLink

/-- What can go wrong while a frame is collected. -/
inductive FramingError where
  /-- The length byte announces a frame outside the accepted sizes. -/
  | lengthOutOfRange (length : UInt8)
  | overflow
  /-- A partial frame was given up after a silence. -/
  | stale
deriving DecidableEq

namespace FramingError

def message : FramingError → String
  | lengthOutOfRange length => "length byte " ++ Hexadecimal.marked length ++ " out of range"
  | overflow => "frame buffer overflow"
  | stale => "partial frame timed out"

/-- The short form used in log lines. -/
def label : FramingError → String
  | lengthOutOfRange length => "LengthOutOfRange(" ++ toString length.toNat ++ ")"
  | overflow => "Overflow"
  | stale => "Stale"

end FramingError

namespace FrameCollector

/-- A silence longer than this many milliseconds ends a partial frame. -/
def interByteTimeout : Nat := 100

/-- How far the frame being collected has come. -/
inductive Progress where
  /-- No frame has begun. -/
  | awaitingLength
  /-- A frame of `expected` bytes has begun, and `received` are the bytes so far. -/
  | receiving (expected : Nat) (received : List UInt8)
  /-- A complete frame waits to be taken. -/
  | complete (frame : List UInt8)
deriving DecidableEq

end FrameCollector

/-- The state of the frame collector. -/
structure FrameCollector where
  progress : FrameCollector.Progress
  /-- Frames shorter than this are not accepted. -/
  minSize : Nat
  lastByteAt : Nat
  /-- How many length bytes, partial frames and overflows were dropped. -/
  errors : UInt32
deriving DecidableEq

namespace FrameCollector

/-- A fresh collector that accepts frames of at least `minSize` bytes. -/
def withMinSize (minSize : Nat) : FrameCollector :=
  { progress := .awaitingLength, minSize, lastByteAt := 0, errors := 0 }

def forResponses : FrameCollector := withMinSize Frame.minResponseSize

def forCommands : FrameCollector := withMinSize Frame.minCommandSize

/-- Drop whatever was collected and await a length byte. -/
def reset (c : FrameCollector) : FrameCollector := { c with progress := .awaitingLength }

def isComplete (c : FrameCollector) : Bool :=
  match c.progress with
  | .complete _ => true
  | _ => false

/-- The complete frame, if there is one. -/
def frame? (c : FrameCollector) : Option (List UInt8) :=
  match c.progress with
  | .complete frame => some frame
  | _ => none

/-- The bytes collected so far. -/
def received (c : FrameCollector) : List UInt8 :=
  match c.progress with
  | .awaitingLength => []
  | .receiving _ received => received
  | .complete frame => frame

/-- The size of the frame being collected; zero while none has begun. -/
def expectedSize (c : FrameCollector) : Nat :=
  match c.progress with
  | .awaitingLength => 0
  | .receiving expected _ => expected
  | .complete frame => frame.length

def countError (c : FrameCollector) : FrameCollector := { c with errors := c.errors + 1 }

/-- Give up a partial frame if its next byte, arriving at `now`, is late. -/
def dropStale (now : Nat) (c : FrameCollector) : FrameCollector :=
  match c.progress with
  | .receiving _ _ => if interByteTimeout < now - c.lastByteAt then c.countError.reset else c
  | _ => c

/-- Take a byte as the length byte of a new frame. -/
def acceptLength (byte : UInt8) (c : FrameCollector) :
    Except FramingError Bool × FrameCollector :=
  let expected := Frame.declaredSize byte
  if expected < c.minSize ∨ Frame.maxSize < expected then
    (.error (.lengthOutOfRange byte), c.countError)
  else
    (.ok false, { c with progress := .receiving expected [byte] })

/-- Take a byte as the next one of a frame that has begun. -/
def append (byte : UInt8) (expected : Nat) (received : List UInt8) (c : FrameCollector) :
    Except FramingError Bool × FrameCollector :=
  if Frame.maxSize ≤ received.length then
    (.error .overflow, c.countError.reset)
  else
    let received := received ++ [byte]
    if received.length = expected then
      (.ok true, { c with progress := .complete received })
    else
      (.ok false, { c with progress := .receiving expected received })

/--
  Take one byte that arrived at `now`.  The answer says whether a complete frame is held.  A
  collector that holds one already refuses the byte: it answers `true` and does not change.
-/
def push (byte : UInt8) (now : Nat) (c : FrameCollector) :
    Except FramingError Bool × FrameCollector :=
  if c.isComplete then
    (.ok true, c)
  else
    let c := { c.dropStale now with lastByteAt := now }
    match c.progress with
    | .awaitingLength => c.acceptLength byte
    | .receiving expected received => c.append byte expected received
    | .complete _ => (.ok true, c)

/--
  Take bytes that arrived together at `now`, up to and including the one that completes a
  frame.  The answer is the number of bytes used; dropped length bytes count among them.
-/
def pushAll : List UInt8 → Nat → FrameCollector → Nat × FrameCollector
  | [], _, c => (0, c)
  | byte :: rest, now, c =>
    if c.isComplete then
      (0, c)
    else
      match c.push byte now with
      | (.ok true, c) => (1, c)
      | (_, c) =>
        let (used, c) := pushAll rest now c
        (used + 1, c)

end FrameCollector

end RfidLink
