import RfidLink.Bytes

/-!
# The frame checksum

Every frame ends in a 16-bit cyclic checksum of all bytes before it, the low byte first.  The
register starts with all bits set, takes the bits of each byte from the lowest to the highest,
and is divided by the polynomial `0x8408` (bits in reverse order); nothing is added at the end.

The register is defined bit by bit and the checksum of a string is a fold of `byteStep` over
its bytes.  `register_append` says what that gives on a concatenation, and `isValid_protect`
that a string followed by its own checksum is always accepted.
-/

namespace RfidLink

namespace Checksum

/-- What the register holds before the first byte. -/
def start : UInt16 := 0xFFFF

/-- The generator polynomial, its bits in reverse order and the leading one left out. -/
def polynomial : UInt16 := 0x8408

/-- The number of checksum bytes at the end of a frame. -/
def size : Nat := 2

/-- Shift one bit out of the register and divide by the polynomial if that bit was set. -/
def bitStep (r : UInt16) : UInt16 :=
  if r &&& 1 = 0 then r >>> 1 else (r >>> 1) ^^^ polynomial

/-- Add one byte at the low end and shift its eight bits out. -/
def byteStep (r : UInt16) (b : UInt8) : UInt16 :=
  Nat.repeat bitStep 8 (r ^^^ b.toUInt16)

def register (r : UInt16) (bytes : List UInt8) : UInt16 :=
  bytes.foldl byteStep r

theorem register_append (r : UInt16) (xs ys : List UInt8) :
    register r (xs ++ ys) = register (register r xs) ys :=
  List.foldl_append

end Checksum

/-- The checksum of a string. -/
def crc16 (bytes : List UInt8) : UInt16 := Checksum.register Checksum.start bytes

namespace Checksum

def protect (body : List UInt8) : List UInt8 := body ++ Word.bytesLittleEndian (crc16 body)

/--
  Whether the last two bytes of a frame are the checksum of the ones before them.  A frame has
  at least one byte besides its checksum.
-/
def isValid (frame : List UInt8) : Bool :=
  size < frame.length &&
    frame.drop (frame.length - size) ==
      Word.bytesLittleEndian (crc16 (frame.take (frame.length - size)))

theorem length_protect (body : List UInt8) : (protect body).length = body.length + size := by
  simp [protect, Word.bytesLittleEndian, size]

theorem isValid_protect {body : List UInt8} (h : body ≠ []) : isValid (protect body) = true := by
  have : 0 < body.length := List.length_pos_iff.mpr h
  simp [isValid, protect, Word.bytesLittleEndian, size, this]

end Checksum

end RfidLink
