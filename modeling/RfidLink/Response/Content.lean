import RfidLink.Command.Code
import RfidLink.Response.Head
import RfidLink.Response.Readings
import RfidLink.Response.Report

/-!
# The content of a response

What a response says depends on the command it answers and on its status.  `Content` has one case
for each kind of content, and one (`other`) for a response whose payload is not interpreted:
every code not listed here, and a listed one whose status says that the command failed.

`Response.ofFrame` takes a whole frame.  It asks for the smallest size, the checksum, the declared
size and the content, in this order, and the first of them that fails gives the error.
-/

namespace RfidLink

/-- The content of a response. -/
inductive Content where
  /-- A tag that the reader reports on its own. -/
  | autoUpload (tag : Sighting)
  | inventory (report : RoundReport)
  | statistics (statistics : RoundStatistics)
  | profile (profile : ReaderProfile)
  | tagCount (count : UInt16)
  /-- The temperature of the reader, in degrees Celsius. -/
  | temperature (degrees : Int)
  | readData (words : MemoryExcerpt)
  /-- The levels of the pins, one bit for each. -/
  | gpioState (pins : UInt8)
  /-- A payload that is not interpreted. -/
  | other (command : UInt8) (status : Status) (payload : List UInt8)
deriving DecidableEq

namespace Content

/-- Two bytes, the high one first. -/
def tagCountOf : List UInt8 → Except ResponseError Content
  | high :: low :: _ => .ok (tagCount (Word.bigEndian high low))
  | _ => .error .truncated

/-- A byte that is zero below freezing, and the number of degrees. -/
def temperatureOf : List UInt8 → Except ResponseError Content
  | sign :: degrees :: _ =>
    .ok (temperature (if sign = 0 then -(degrees.toNat : Int) else degrees.toNat))
  | _ => .error .truncated

def gpioStateOf : List UInt8 → Except ResponseError Content
  | pins :: _ => .ok (gpioState pins)
  | _ => .error .truncated

/-- A response to an inventory round: statistics, tags, or a status alone. -/
def roundOf (head : ResponseHead) (payload : List UInt8) : Except ResponseError Content :=
  if head.status = .statisticsPacket then
    statistics <$> RoundStatistics.ofPayload payload
  else if 2 ≤ payload.length then
    inventory <$> RoundReport.ofPayload payload
  else
    .ok (other head.command head.status payload)

/-- The content of a payload behind the given fixed fields. -/
def ofPayload (head : ResponseHead) (payload : List UInt8) : Except ResponseError Content :=
  match head.command with
  | CommandCode.autoUpload => autoUpload <$> Sighting.ofUpload payload
  | CommandCode.tagInventory => roundOf head payload
  | CommandCode.singleTagInventory => roundOf head payload
  | command =>
    if head.status.isSuccess then
      match command with
      | CommandCode.obtainReaderInfo => profile <$> ReaderProfile.ofPayload payload
      | CommandCode.getTagCount => tagCountOf payload
      | CommandCode.measureTemperature => temperatureOf payload
      | CommandCode.readData => readData <$> MemoryExcerpt.ofPayload payload
      | CommandCode.obtainGpioState => gpioStateOf payload
      | command => .ok (other command head.status payload)
    else
      .ok (other command head.status payload)

end Content

/-- A response whose frame has been checked. -/
structure Response where
  head : ResponseHead
  content : Content
deriving DecidableEq

/-- The response in a frame. -/
def Response.ofFrame (frame : List UInt8) : Except ResponseError Response :=
  if frame.length < Frame.minResponseSize then .error .tooShort
  else if !Checksum.isValid frame then .error .checksumMismatch
  else
    match ResponseHead.ofFrame frame with
    | .error e => .error e
    | .ok head =>
      match Content.ofPayload head (responsePayload frame) with
      | .error e => .error e
      | .ok content => .ok { head, content }

end RfidLink
