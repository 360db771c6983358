import RfidLink.Frame.Basic

/-!
# Writing a frame into a buffer

A frame is written byte by byte into a buffer that somebody else owns.  Two limits apply: a
frame never grows past `Frame.maxSize`, its checksum included, and it never leaves the buffer.
Each byte is held against the frame limit first and against the buffer second, so the limit
that is met first decides which error arises (`FrameDraft.push`).

The length byte comes first but is known last.  It is written as zero and put right by
`FrameDraft.finish`, together with the checksum.
-/

namespace RfidLink

/-- Why a frame could not be written. -/
inductive FrameDraft.Overrun where
  /-- The buffer ends before the frame does. -/
  | buffer
  /-- The frame would be longer than a frame may be. -/
  | frame
deriving DecidableEq

/-- A frame in the making: the bytes so far and the buffer they go to. -/
structure FrameDraft where
  written : List UInt8
  buffer : List UInt8
deriving DecidableEq

namespace FrameDraft

def push (byte : UInt8) (d : FrameDraft) : Except Overrun FrameDraft :=
  if Frame.maxSize ≤ d.written.length + Checksum.size then
    .error .frame
  else if d.buffer.length ≤ d.written.length then
    .error .buffer
  else
    .ok { d with written := d.written ++ [byte] }

/-- The buffer as the bytes written so far have left it. -/
def contents (d : FrameDraft) : List UInt8 := d.written ++ d.buffer.drop d.written.length

/--
  Write bytes until one does not fit.  The draft that comes back holds every byte that did,
  also when there is an error.
-/
def extend : List UInt8 → FrameDraft → Except Overrun Unit × FrameDraft
  | [], d => (.ok (), d)
  | byte :: rest, d =>
    match d.push byte with
    | .error e => (.error e, d)
    | .ok d => extend rest d

/-- Put the length byte right and add the checksum. -/
def finish (d : FrameDraft) : Except Overrun Nat × List UInt8 :=
  let total := d.written.length + Checksum.size
  if d.buffer.length < total then
    (.error .buffer, d.contents)
  else
    (.ok total, Frame.ofBody (d.written.drop 1) ++ d.buffer.drop total)

/--
  Write a whole frame at the start of a buffer: a length byte, the given bytes, the checksum.
  The answer is the size of the frame and the buffer afterwards.
-/
def write (body buffer : List UInt8) : Except Overrun Nat × List UInt8 :=
  match extend (0 :: body) { written := [], buffer } with
  | (.ok (), d) => d.finish
  | (.error e, d) => (.error e, d.contents)

end FrameDraft

end RfidLink
