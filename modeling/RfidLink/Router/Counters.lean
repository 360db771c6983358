import RfidLink.Line
import RfidLink.RepeatFilter

/-!
# Counters

The router counts what passes through it.  All counters hold 32 bits and start again at zero
after the largest value.  `Statistics` puts them together with the counters of the line.
-/

namespace RfidLink

/-- What the router counts. -/
structure Counters where
  framesReceived : UInt32
  framesDamaged : UInt32
  framingErrors : UInt32
  framesUnreadable : UInt32
  tagsRead : UInt32
  tagsPassedOn : UInt32
  tagsHeldBack : UInt32
  tagsUndelivered : UInt32
  /-- Bytes of commands for which the outbound ring had no room. -/
  bytesRefused : UInt32
  roundsStarted : UInt32
  /-- Rounds that were given up without an answer. -/
  roundsAbandoned : UInt32
deriving DecidableEq

def Counters.zero : Counters :=
  { framesReceived := 0, framesDamaged := 0, framingErrors := 0, framesUnreadable := 0,
    tagsRead := 0, tagsPassedOn := 0, tagsHeldBack := 0, tagsUndelivered := 0, bytesRefused := 0,
    roundsStarted := 0, roundsAbandoned := 0 }

/-- The counters of the router and of its line. -/
structure Statistics where
  bytesReceived : UInt32
  bytesSent : UInt32
  overruns : UInt32
  counters : Counters
deriving DecidableEq

namespace Statistics

def of (counters : Counters) (line : Line) : Statistics :=
  { bytesReceived := line.bytesReceived, bytesSent := line.bytesSent, overruns := line.overruns,
    counters }

/-- Frames that were thrown away for any reason. -/
def receiveErrors (s : Statistics) : UInt32 :=
  saturatingAdd (saturatingAdd s.counters.framesDamaged s.counters.framingErrors)
    s.counters.framesUnreadable

end Statistics

end RfidLink
