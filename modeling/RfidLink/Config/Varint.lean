import RfidLink.Bytes

/-!
# Numbers of variable size

A 32-bit number is stored in one to five bytes: seven bits in each, the lowest first, and the
highest bit of a byte says that more bytes follow.  Four of these groups hold 28 bits, so the
fifth byte has room for four more.

`Varint.encode` uses as few bytes as it can.  `Varint.decode` also accepts longer forms (a
number may end in groups of zeros), but never a sixth byte and never a number that needs more
than 32 bits.
-/

namespace RfidLink

/-- Why stored bytes cannot be read, or cannot be written. -/
inductive BlobError where
  /-- The bytes end before the value does. -/
  | unexpectedEnd
  /-- A number has too many bytes or too many bits. -/
  | badVarint
  /-- No alternative has this number. -/
  | unknownAlternative
  /-- The buffer cannot hold the bytes. -/
  | bufferFull
deriving DecidableEq

def BlobError.message : BlobError → String
  | unexpectedEnd => "Hit the end of buffer, expected more data"
  | badVarint => "Found a varint that didn't terminate. Is the usize too big for this platform?"
  | unknownAlternative => "Serde Deserialization Error"
  | bufferFull => "The serialize buffer is full"

namespace Varint

/-- The bytes of a number, of which at most `more + 1` are written. -/
def write : Nat → Nat → List UInt8
  | 0, n => [UInt8.ofNat n]
  | more + 1, n =>
    if n < 128 then [UInt8.ofNat n] else UInt8.ofNat (n % 128 + 128) :: write more (n / 128)

def encode (n : UInt32) : List UInt8 := write 4 n.toNat

/--
  The number at the front, and the bytes after it.  At most `more + 1` bytes are read, and the
  last of them holds no more than four bits.
-/
def read : Nat → List UInt8 → Except BlobError (Nat × List UInt8)
  | _, [] => .error .unexpectedEnd
  | 0, b :: rest => if b.toNat < 16 then .ok (b.toNat, rest) else .error .badVarint
  | more + 1, b :: rest =>
    if b.toNat < 128 then .ok (b.toNat, rest)
    else
      match read more rest with
      | .error e => .error e
      | .ok (high, rest') => .ok (b.toNat - 128 + 128 * high, rest')

/-- The 32-bit number at the front, and the bytes after it. -/
def decode (bytes : List UInt8) : Except BlobError (UInt32 × List UInt8) :=
  match read 4 bytes with
  | .error e => .error e
  | .ok (n, rest) => .ok (UInt32.ofNat n, rest)

end Varint

end RfidLink
