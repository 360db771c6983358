/-!
# Why a response cannot be read

A response is refused as a whole: `ResponseError` says for which reason, and nothing is ever read
past the end of the bytes that arrived.
-/

namespace RfidLink

/-- Why a response cannot be read. -/
inductive ResponseError where
  | tooShort
  | checksumMismatch
  /-- The length byte and the size of the frame disagree. -/
  | lengthMismatch (declared actual : Nat)
  /-- The payload ends before a field it announces. -/
  | truncated
  /-- A length field is out of range. -/
  | invalidLength (length : UInt8)
deriving DecidableEq

namespace ResponseError

def message : ResponseError → String
  | tooShort => "frame too short"
  | checksumMismatch => "crc mismatch"
  | lengthMismatch declared actual =>
    "length byte says " ++ toString declared ++ " bytes, frame has " ++ toString actual
  | truncated => "payload truncated"
  | invalidLength length => "invalid length field " ++ toString length.toNat

/-- The short form used in log lines. -/
def label : ResponseError → String
  | tooShort => "TooShort"
  | checksumMismatch => "CrcMismatch"
  | lengthMismatch declared actual =>
    "LengthMismatch \x7b declared: " ++ toString declared ++ ", actual: " ++ toString actual ++
      " \x7d"
  | truncated => "Truncated"
  | invalidLength length => "InvalidLength(" ++ toString length.toNat ++ ")"

end ResponseError

end RfidLink
