import RfidLink.Checksum

/-!
# Frames

Commands and responses share one layout.

* the **length byte**, which counts every byte after itself;
* the **address** of the reader;
* the **code** of the command;
* in responses only, a **status** byte;
* the **payload**;
* the **checksum**, two bytes, the low one first.

A frame is therefore one byte longer than its length byte says, and never longer than
`Frame.maxSize`.
-/

namespace RfidLink

/-- The address every reader on the line answers to. -/
def broadcastAddress : UInt8 := 0xFF

namespace Frame

/-- The size of the longest frame. -/
def maxSize : Nat := 256

/-- The size of a response without payload. -/
def minResponseSize : Nat := 6

/-- The size of a command without payload. -/
def minCommandSize : Nat := 5

/-- The size a length byte declares. -/
def declaredSize (length : UInt8) : Nat := length.toNat + 1

/-- The bytes of a frame with the given bytes between the length byte and the checksum. -/
def ofBody (body : List UInt8) : List UInt8 :=
  Checksum.protect (UInt8.ofNat (body.length + Checksum.size) :: body)

end Frame

end RfidLink
