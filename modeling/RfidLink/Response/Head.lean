import RfidLink.Frame.Basic
import RfidLink.Response.Error
import RfidLink.Status

/-!
# The fixed part of a response

Every response begins with the length byte, the address of the reader that answers, the code of
the command it answers and a status.  `ResponseHead.ofFrame` reads these four fields after it
has checked that the frame has the size its length byte declares.  It does not look at the
checksum.
-/

namespace RfidLink

/-- The fixed fields at the start of a response. -/
structure ResponseHead where
  length : UInt8
  address : UInt8
  command : UInt8
  status : Status
deriving DecidableEq

/-- The number of bytes before the payload of a response. -/
def ResponseHead.size : Nat := 4

/-- The fixed fields of a frame of the right size. -/
def ResponseHead.ofFrame : List UInt8 → Except ResponseError ResponseHead
  | length :: address :: command :: status :: rest =>
    let actual := rest.length + 4
    if actual < Frame.minResponseSize then .error .tooShort
    else if Frame.declaredSize length ≠ actual then
      .error (.lengthMismatch (Frame.declaredSize length) actual)
    else .ok { length, address, command, status := Status.ofByte status }
  | _ => .error .tooShort

/-- The bytes between the fixed fields and the checksum; none if the frame is too short. -/
def responsePayload (frame : List UInt8) : List UInt8 :=
  (frame.take (frame.length - Checksum.size)).drop ResponseHead.size

end RfidLink
