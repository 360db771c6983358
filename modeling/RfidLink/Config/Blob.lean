import RfidLink.Config.Basic
import RfidLink.Config.Varint

/-!
# Stored configurations

A configuration is stored as a string of at most 28 bytes: its fields in order, a 32-bit number
as a `Varint`, a byte as it is.  The strategy is stored as its number among the alternatives,
followed by the interval where there is one.

`Config.ofBytes` reads from the front and ignores what comes after the last field.  Fields
are read one after the other, so the first one that is damaged gives the error.
-/

namespace RfidLink

namespace Blob

def readByte : List UInt8 → Except BlobError (UInt8 × List UInt8)
  | [] => .error .unexpectedEnd
  | b :: rest => .ok (b, rest)

/-- The stored form of a strategy. -/
def ofStrategy : Strategy → List UInt8
  | .fast => Varint.encode 0
  | .repeating intervalMs => Varint.encode 1 ++ Varint.encode intervalMs
  | .singleShot => Varint.encode 2

def readStrategy (bytes : List UInt8) : Except BlobError (Strategy × List UInt8) := do
  let (alternative, rest) ← Varint.decode bytes
  if alternative = 0 then
    .ok (.fast, rest)
  else if alternative = 1 then
    let (intervalMs, rest) ← Varint.decode rest
    .ok (.repeating intervalMs, rest)
  else if alternative = 2 then
    .ok (.singleShot, rest)
  else
    .error .unknownAlternative

end Blob

namespace Config

/-- The stored form of a configuration. -/
def toBytes (config : Config) : List UInt8 :=
  Varint.encode config.debounceMs ++ Varint.encode config.responseTimeoutMs ++
    Varint.encode config.pollIntervalMs ++ [config.workMode] ++
    Blob.ofStrategy config.strategy ++ [config.epcGroupBytes] ++
    Varint.encode config.roundTimeoutMs

/-- The stored form of a configuration, for a buffer of the given number of bytes. -/
def store (config : Config) (room : Nat) : Except BlobError (List UInt8) :=
  if config.toBytes.length ≤ room then .ok config.toBytes else .error .bufferFull

def ofBytes (bytes : List UInt8) : Except BlobError Config := do
  let (debounceMs, bytes) ← Varint.decode bytes
  let (responseTimeoutMs, bytes) ← Varint.decode bytes
  let (pollIntervalMs, bytes) ← Varint.decode bytes
  let (workMode, bytes) ← Blob.readByte bytes
  let (strategy, bytes) ← Blob.readStrategy bytes
  let (epcGroupBytes, bytes) ← Blob.readByte bytes
  let (roundTimeoutMs, _) ← Varint.decode bytes
  .ok { debounceMs, responseTimeoutMs, pollIntervalMs, workMode, strategy, epcGroupBytes,
        roundTimeoutMs }

end Config

end RfidLink
