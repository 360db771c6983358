import RfidLink.Sighting

/-!
# Fields of commands

The small types that commands are made of.  Each enumeration has a byte for every value
(`toByte`) and reads a byte back where it stands for one (`ofByte?`); the two agree, as the
lemmas `ofByte?_toByte` say.
-/

namespace RfidLink

/-- The inventoried flag a round looks for. -/
inductive Target where
  | a
  | b
deriving DecidableEq

namespace Target

def toByte : Target → UInt8
  | a => 0x00
  | b => 0x01

def ofByte? (byte : UInt8) : Option Target :=
  match byte with
  | 0x00 => some a
  | 0x01 => some b
  | _ => none

theorem ofByte?_toByte (t : Target) : ofByte? t.toByte = some t := by
  cases t <;> rfl

end Target

/--
  The frequency band a reader may use.  Its four-bit code is split over two bytes, each of which
  carries a channel number in the six low bits: the high pair of the code goes to the byte of
  the highest channel, the low pair to the byte of the lowest.
-/
inductive FrequencyBand where
  | chinaBand2
  | us
  | korea
  | eu
  | chinaBand1
deriving DecidableEq

namespace FrequencyBand

def code : FrequencyBand → UInt8
  | chinaBand2 => 0b0001
  | us => 0b0010
  | korea => 0b0011
  | eu => 0b0100
  | chinaBand1 => 0b1000

def ofCode? (code : UInt8) : Option FrequencyBand :=
  match code with
  | 0b0001 => some chinaBand2
  | 0b0010 => some us
  | 0b0011 => some korea
  | 0b0100 => some eu
  | 0b1000 => some chinaBand1
  | _ => none

/-- The band that the bytes of the highest and the lowest channel carry. -/
def ofBytes? (highest lowest : UInt8) : Option FrequencyBand :=
  ofCode? (UInt8.ofNat (highest.toNat / 64 * 4 + lowest.toNat / 64))

/-- The bytes of the highest and the lowest channel, with the band in their top bits. -/
def toBytes (band : FrequencyBand) (maxChannel minChannel : UInt8) : UInt8 × UInt8 :=
  (UInt8.ofNat (band.code.toNat / 4 * 64 + maxChannel.toNat % 64),
    UInt8.ofNat (band.code.toNat % 4 * 64 + minChannel.toNat % 64))

/-- The channel number in a frequency byte. -/
def channel (byte : UInt8) : UInt8 := UInt8.ofNat (byte.toNat % 64)

theorem ofCode?_code (band : FrequencyBand) : ofCode? band.code = some band := by
  cases band <;> rfl

end FrequencyBand

/-- The speed of the serial line, in bits per second. -/
inductive BaudRate where
  | b9600
  | b19200
  | b38400
  | b57600
  | b115200
deriving DecidableEq

namespace BaudRate

def toByte : BaudRate → UInt8
  | b9600 => 0
  | b19200 => 1
  | b38400 => 2
  | b57600 => 5
  | b115200 => 6

def ofByte? (byte : UInt8) : Option BaudRate :=
  match byte with
  | 0 => some b9600
  | 1 => some b19200
  | 2 => some b38400
  | 5 => some b57600
  | 6 => some b115200
  | _ => none

theorem ofByte?_toByte (rate : BaudRate) : ofByte? rate.toByte = some rate := by
  cases rate <;> rfl

end BaudRate

inductive MemoryBank where
  /-- The kill and access passwords. -/
  | reserved
  | epc
  | tid
  | user
deriving DecidableEq

namespace MemoryBank

def toByte : MemoryBank → UInt8
  | reserved => 0x00
  | epc => 0x01
  | tid => 0x02
  | user => 0x03

def ofByte? (byte : UInt8) : Option MemoryBank :=
  match byte with
  | 0x00 => some reserved
  | 0x01 => some epc
  | 0x02 => some tid
  | 0x03 => some user
  | _ => none

theorem ofByte?_toByte (bank : MemoryBank) : ofByte? bank.toByte = some bank := by
  cases bank <;> rfl

end MemoryBank

/-- The flag of a tag that a select command acts on: a session flag or the selected flag. -/
inductive SelectFlag where
  | s0
  | s1
  | s2
  | s3
  | sl
deriving DecidableEq

namespace SelectFlag

def toByte : SelectFlag → UInt8
  | s0 => 0x00
  | s1 => 0x01
  | s2 => 0x02
  | s3 => 0x03
  | sl => 0x04

def ofByte? (byte : UInt8) : Option SelectFlag :=
  match byte with
  | 0x00 => some s0
  | 0x01 => some s1
  | 0x02 => some s2
  | 0x03 => some s3
  | 0x04 => some sl
  | _ => none

theorem ofByte?_toByte (target : SelectFlag) : ofByte? target.toByte = some target := by
  cases target <;> rfl

end SelectFlag

/-- An access or kill password: four bytes, the highest first. -/
structure Password where
  b₀ : UInt8
  b₁ : UInt8
  b₂ : UInt8
  b₃ : UInt8
deriving DecidableEq

namespace Password

def toList (p : Password) : List UInt8 := [p.b₀, p.b₁, p.b₂, p.b₃]

end Password

def maxMaskLength : Nat := 32

/-- The longest text that one command writes into a tag, in bytes. -/
def maxWriteLength : Nat := 240

/-- The number of bytes that hold the given number of bits. -/
def bytesForBits (bits : Nat) : Nat := (bits + 7) / 8

/-- A pattern of bits that a range of a memory bank has to match. -/
structure BitMask where
  bank : UInt8
  /-- The bit at which the range starts. -/
  bitAddress : UInt16
  bitLength : UInt8
  data : BoundedBytes maxMaskLength
deriving DecidableEq

/-- A range of TID words that is read together with the EPC. -/
structure TidRange where
  /-- The word at which the range starts. -/
  address : UInt8
  length : UInt8
deriving DecidableEq

/-- How a read command picks its tag. -/
inductive TagChoice where
  | epc (epc : Epc)
  | mask (mask : BitMask)
deriving DecidableEq

/-- What a select command asks for. -/
structure Selection where
  /-- One bit for each antenna. -/
  antenna : UInt8
  target : SelectFlag
  action : UInt8
  mask : BitMask
  truncate : Bool
deriving DecidableEq

/-- Everything an inventory round can be told. -/
structure RoundParams where
  /-- The Q value in the four low bits, flags above them. -/
  qValue : UInt8
  session : UInt8
  mask : Option BitMask
  tid : Option TidRange
  target : Target
  antenna : Option UInt8
  /-- How long the round lasts, in tenths of a second; the reader decides if it is missing. -/
  scanTime : Option UInt8
deriving DecidableEq

namespace ScanTime

/-- The duration of a round that stands alone, in tenths of a second. -/
def single : UInt8 := 0x32

/-- The duration of each of many rounds, in tenths of a second. -/
def continuous : UInt8 := 0x0A

end ScanTime

namespace RoundParams

/-- The session value by which the reader chooses a session as it goes. -/
def smartSession : UInt8 := 0xFF

/-- The session value of the reference parameters. -/
def referenceSession : UInt8 := 0xFE

/-- A round of one second in which the reader chooses the session. -/
def standard : RoundParams :=
  { qValue := 4, session := smartSession, mask := none, tid := none, target := .a,
    antenna := none, scanTime := some ScanTime.continuous }

end RoundParams

end RfidLink
