import RfidLink.Command.Basic
import RfidLink.Frame.Collector
import RfidLink.Response.Content
import RfidLink.RepeatFilter
import RfidLink.Router.Error
import RfidLink.Router.Mode

/-!
# The journal

Router and session tell what they do.  A `Remark` holds the facts, among them the frame or the
command it is about; `Remark.level` says how much it matters, and `Remark.text` puts it into
words.

The journal is told and never asked: no operation of this library depends on what was written
there.  It is also complete in two respects.  Every command that is queued leaves a remark with
the command and its address, and every frame that is taken from the line leaves one with the bytes
of the frame.
-/

namespace RfidLink

/-- How much a remark matters, from the least to the most. -/
inductive LogLevel where
  | trace
  | debug
  | info
  | warn
  | error
deriving DecidableEq

/-- What router and session tell. -/
inductive Remark where
  | routerStarted
  | routerStopped
  | modeChanged (before after : Mode)
  /-- Received bytes were lost. -/
  | overrun
  /-- The start of a frame was refused. -/
  | startRefused (cause : FramingError)
  | damaged (frame : List UInt8)
  | unreadable (frame : List UInt8) (cause : ResponseError)
  | received (frame : List UInt8) (response : Response)
  | queued (command : Command) (address : UInt8)
  /-- A command found no room in the outbound ring. -/
  | ringFull (command : Command) (address : UInt8)
  | unanswered (code : UInt8)
  | statistics (statistics : RoundStatistics)
  | profile (profile : ReaderProfile)
  | memory (excerpt : MemoryExcerpt)
  | pins (levels : UInt8)
  /-- A tag was read while there is no inventory. -/
  | tagIgnored (sighting : Sighting)
  /-- A tag is about to be passed on. -/
  | tag (text : String) (sighting : Sighting)
  | undelivered (cause : DeliveryError)
  | antennaError
  | roundAbandoned
  | roundNotStarted (cause : OperationError)
  | totals (totals : ReadTotals)
  /-- A tag was read during inventory. -/
  | seen (text : String) (history : TagHistory)
  | connecting (address : UInt8)
  | answersElsewhere (actual configured : UInt8)
  | stopUnanswered
  | noAnswer
  | connected (address : UInt8)
  /-- A step of the handshake was refused. -/
  | stepRefused (code : UInt8) (status : Status)
  | stepFailed (code : UInt8) (cause : OperationError)
  | settingIgnored (code : UInt8) (cause : OperationError)
  | inventoryRunning
  | inventoryNotStarted (cause : OperationError)
  | inventoryStarted
  | stopNotSent (cause : OperationError)
  | inventoryStopped
deriving DecidableEq

namespace Remark

def level : Remark → LogLevel
  | received .. | tagIgnored _ => .trace
  | queued .. | unanswered _ | statistics _ | profile _ | memory _ | pins _ | seen ..
  | stopUnanswered | stepRefused .. | inventoryRunning => .debug
  | routerStarted | routerStopped | modeChanged .. | tag .. | totals _ | connecting _
  | connected _ | inventoryStarted | inventoryStopped => .info
  | overrun | startRefused _ | damaged _ | unreadable .. | ringFull .. | undelivered _
  | roundAbandoned | roundNotStarted _ | answersElsewhere .. | stepFailed ..
  | settingIgnored .. | stopNotSent _ => .warn
  | antennaError | noAnswer | inventoryNotStarted _ => .error

/-- A byte as a decimal number. -/
def number (n : UInt8) : String := toString n.toNat

def text : Remark → String
  | routerStarted => "router started"
  | routerStopped => "router stopped"
  | modeChanged before after => "mode " ++ before.label ++ " -> " ++ after.label
  | overrun => "rx overrun, partial frame discarded"
  | startRefused cause => "frame dropped: " ++ cause.label
  | damaged _ => "crc mismatch, frame dropped"
  | unreadable _ cause => "parse error: " ++ cause.label
  | received _ response =>
    "rx " ++ CommandCode.description response.head.command ++ " status " ++
      response.head.status.label
  | queued command address =>
    "tx " ++ CommandCode.description command.code ++ " to " ++ number address
  | ringFull command _ =>
    "tx ring full, " ++ CommandCode.description command.code ++ " dropped"
  | unanswered code => "no response to " ++ CommandCode.description code
  | statistics s =>
    "antenna " ++ number s.antenna ++ ": " ++ toString s.readRate.toNat ++ " reads/s, " ++
      toString s.totalCount.toNat ++ " total"
  | profile p =>
    "reader v" ++ number p.major ++ "." ++ number p.minor ++ " model " ++ number p.model ++
      " power " ++ number p.power
  | memory excerpt => "read " ++ toString excerpt.wordCount ++ " words"
  | pins levels => "gpio state " ++ number levels
  | tagIgnored _ => "tag ignored while idle"
  | tag text sighting =>
    "tag " ++ text ++ " rssi " ++ number sighting.rssi ++ " antenna " ++ number sighting.antenna
  | undelivered cause => "tag sink: " ++ cause.message
  | antennaError => "antenna error, inventory stopped"
  | roundAbandoned => "inventory round unanswered, abandoned"
  | roundNotStarted cause => "inventory re-trigger failed: " ++ cause.message
  | totals t =>
    "inventory summary: " ++ toString t.uniqueTags ++ " unique tags, " ++
      toString t.totalReads.toNat ++ " reads"
  | seen text history =>
    "  " ++ text ++ " x" ++ toString history.readCount.toNat ++ " rssi " ++
      number history.rssiMin ++ ".." ++ number history.rssiMax
  | connecting address => "connecting to reader " ++ number address
  | answersElsewhere actual configured =>
    "reader answers at " ++ number actual ++ " instead of " ++ number configured
  | stopUnanswered => "stop not acknowledged, reader was idle"
  | noAnswer => "reader did not answer"
  | connected address => "reader connected at " ++ number address
  | stepRefused code status =>
    CommandCode.description code ++ " answered with " ++ status.label
  | stepFailed code cause => CommandCode.description code ++ " failed: " ++ cause.message
  | settingIgnored code cause => CommandCode.description code ++ " ignored: " ++ cause.message
  | inventoryRunning => "inventory already running"
  | inventoryNotStarted cause => "inventory start failed: " ++ cause.message
  | inventoryStarted => "inventory started"
  | stopNotSent cause => "stop command not sent: " ++ cause.message
  | inventoryStopped => "inventory stopped"

end Remark

end RfidLink
