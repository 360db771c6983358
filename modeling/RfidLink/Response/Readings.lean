import RfidLink.Command.Fields
import RfidLink.Response.Error

/-!
# Readings

Besides tags, a response can carry a reading: the statistics of a round, the words of a memory
bank, or the identity and the settings of the reader.  Each has a fixed layout; bytes after it
are ignored.
-/

namespace RfidLink

/-- What a reader counted in an inventory round. -/
structure RoundStatistics where
  antenna : UInt8
  readRate : UInt16
  totalCount : UInt32
deriving DecidableEq

/-- Antenna, rate and count; the numbers have their low byte first. -/
def RoundStatistics.ofPayload : List UInt8 → Except ResponseError RoundStatistics
  | antenna :: r₀ :: r₁ :: c₀ :: c₁ :: c₂ :: c₃ :: _ =>
    .ok { antenna, readRate := Word.littleEndian r₀ r₁,
          totalCount := Word.littleEndian32 c₀ c₁ c₂ c₃ }
  | _ => .error .truncated

/-- The words of a memory bank, as the bytes in which they arrived. -/
structure MemoryExcerpt where
  bytes : List UInt8
deriving DecidableEq

namespace MemoryExcerpt

/-- Anything but an empty payload.  An odd byte at the end is kept. -/
def ofPayload (payload : List UInt8) : Except ResponseError MemoryExcerpt :=
  if payload.isEmpty then .error .truncated else .ok { bytes := payload }

/-- The number of words; an odd byte at the end counts as one. -/
def wordCount (m : MemoryExcerpt) : Nat := (m.bytes.length + 1) / 2

/-- The words in a list of bytes, each with its high byte first; an odd byte is left out. -/
def wordsOf : List UInt8 → List UInt16
  | high :: low :: rest => Word.bigEndian high low :: wordsOf rest
  | _ => []

def words (m : MemoryExcerpt) : List UInt16 := wordsOf m.bytes

end MemoryExcerpt

/-- The identity and the settings of a reader. -/
structure ReaderProfile where
  /-- The version of the firmware, major number in the high byte. -/
  version : UInt16
  model : UInt8
  protocol : UInt8
  maxFrequency : UInt8
  minFrequency : UInt8
  /-- The power, in dBm. -/
  power : UInt8
  /-- The duration of a round, in tenths of a second. -/
  scanTime : UInt8
  antenna : UInt8
  antennaCheck : Bool
deriving DecidableEq

namespace ReaderProfile

/-- The twelve bytes of the reader information; two of them have no meaning here. -/
def ofPayload : List UInt8 → Except ResponseError ReaderProfile
  | v₀ :: v₁ :: model :: protocol :: maxFrequency :: minFrequency :: power :: scanTime ::
      antenna :: _ :: _ :: check :: _ =>
    .ok { version := Word.littleEndian v₀ v₁, model, protocol, maxFrequency, minFrequency,
          power, scanTime, antenna, antennaCheck := check != 0 }
  | _ => .error .truncated

def major (info : ReaderProfile) : UInt8 := Word.highByte info.version

def minor (info : ReaderProfile) : UInt8 := Word.lowByte info.version

/-- The frequency band, if the frequency bytes carry a known one. -/
def band? (info : ReaderProfile) : Option FrequencyBand :=
  FrequencyBand.ofBytes? info.maxFrequency info.minFrequency

def maxChannel (info : ReaderProfile) : UInt8 := FrequencyBand.channel info.maxFrequency

def minChannel (info : ReaderProfile) : UInt8 := FrequencyBand.channel info.minFrequency

end ReaderProfile

end RfidLink
