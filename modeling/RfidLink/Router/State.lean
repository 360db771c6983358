import RfidLink.Frame.Collector
import RfidLink.Response.Content
import RfidLink.Router.Answer
import RfidLink.Router.Counters
import RfidLink.Router.Mode
import RfidLink.Router.Schedule

/-!
# The state of the router

`Router` gathers what the router remembers between two calls.  Two parts of it need a word.

* **Two guards** keep a callback from disturbing the call that runs it.  `busy` is set while
  received frames are processed, and `notifying` while somebody is being notified.
* **The pending reset.**  A change of mode throws away what was received before it.  If it
  happens while frames are being processed, `resetPending` remembers that this has to be done.

The operations in this file change the state and nothing else: they neither call anybody nor
touch the line.
-/

namespace RfidLink

/-- What the router remembers. -/
structure Router where
  mode : Mode
  running : Bool
  /-- Whether received frames are being processed. -/
  busy : Bool
  /-- Whether what was received before a change of mode has still to be thrown away. -/
  resetPending : Bool
  collector : FrameCollector
  filter : RepeatFilter
  schedule : Schedule
  /-- Answers that nobody has taken yet, the oldest first. -/
  answers : List Answer
  /-- The request that is being waited on. -/
  awaiting : Option Request
  /-- What the reader last said about itself. -/
  profile : Option ReaderProfile
  tagCount : Option UInt16
  temperature : Option Int
  address : UInt8
  /-- Whether an error has been indicated and not yet taken back. -/
  errorShown : Bool
  /-- Whether somebody is being notified. -/
  notifying : Bool
  config : Config
  counters : Counters
deriving DecidableEq

namespace Router

/-- A router that has not been started. -/
def stopped (config : Config) : Router :=
  { mode := .idle, running := false, busy := false, resetPending := false,
    collector := .forResponses, filter := .withWindow config.debounceMs,
    schedule := .off, answers := [], awaiting := none,
    profile := none, tagCount := none, temperature := none,
    address := 0, errorShown := false, notifying := false,
    config, counters := .zero }

def count (f : Counters → Counters) (r : Router) : Router := { r with counters := f r.counters }

def inventoryActive (r : Router) : Bool := r.schedule.active

/-- The totals over the tags read of late. -/
def readTotals (r : Router) : ReadTotals := r.filter.totals

def setConfig (config : Config) (r : Router) : Router :=
  { r with config, filter := r.filter.setWindowMs config.debounceMs }

/-- The number of milliseconds in some seconds, or the largest one there is. -/
def millisOfSeconds (seconds : UInt32) : UInt32 :=
  UInt32.ofNat (min (seconds.toNat * 1000) (UInt32.size - 1))

/-- Change the shortest time between two reports of the same tag. -/
def setDebounceSeconds (seconds : UInt32) (r : Router) : Router :=
  r.setConfig { r.config with debounceMs := millisOfSeconds seconds }

def setAddress (address : UInt8) (r : Router) : Router := { r with address }

def forgetTags (r : Router) : Router := { r with filter := r.filter.clear }

/-- Move inventory on in the sequence of its rounds. -/
def reschedule (f : Schedule → Schedule) (r : Router) : Router := { r with schedule := f r.schedule }

def endSchedule (r : Router) : Router := { r with schedule := .off }

end Router

end RfidLink
