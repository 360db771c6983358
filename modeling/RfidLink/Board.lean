import RfidLink.Journal
import RfidLink.Router.State

/-!
# The router on its board

A router does not stand alone: bytes come over a line, tags go to a consumer, and a clock, a
light and a button belong to the board it runs on.

* A `Station` is the whole of it: the router, its line, and the **surroundings**, a value of any
  type `ε` that stands for everything else.
* A `Board` says how the surroundings behave.  Looking at the clock, writing the journal and
  offering a byte to the wire concern the surroundings alone, and so does the question how often
  the serial port **interrupts** whoever is queueing a command.  The other functions are
  **callbacks**: each takes the whole station and gives it back, so it may do to the router and to
  the line whatever an operation of this library does, also while another operation runs it.

Nothing bounds what callbacks do, so a loop that runs them could go on for ever: received bytes
may never end, or the clock may stand still.  Each loop has a number of turns within which it
ends if its callbacks leave it alone, and `Board.patience` is the number of turns it is given
beyond that.
-/

namespace RfidLink

/-- A router, its line, and its surroundings. -/
structure Station (ε : Type) where
  router : Router
  line : Line
  surroundings : ε

/-- The settings of the reader that are kept outside this library. -/
structure ReaderSettings where
  /-- The power, in dBm. -/
  rfPower : UInt8
  address : UInt8
  /-- The setup of the antenna multiplexer; zero leaves it alone. -/
  antenna : UInt8
deriving DecidableEq

/-- How the surroundings of a router behave. -/
structure Board (ε : Type) where
  /-- The time, in milliseconds. -/
  now : ε → Nat
  settings : ε → ReaderSettings
  /-- Write into the journal. -/
  write : Remark → ε → ε
  /-- Offer a byte to the wire; the answer says whether the wire has taken it. -/
  emit : UInt8 → ε → Bool × ε := fun _ e => (true, e)
  /-- How often the serial port interrupts before the next byte of a command is queued. -/
  interrupts : ε → Nat × ε := fun e => (0, e)
  /-- Pass on the text of a tag. -/
  deliver : String → Station ε → Except DeliveryError Unit × Station ε
  notifyRead : Station ε → Station ε
  /-- Notify that an error has come up or has gone. -/
  notifyError : Bool → Station ε → Station ε
  notifyRunning : Bool → Station ε → Station ε
  /-- Let some milliseconds pass. -/
  wait : Nat → Station ε → Station ε
  /-- How many turns beyond the expected ones a loop is given. -/
  patience : Nat

/-- A board on which time stands still and whose callbacks do nothing. -/
def Board.still {ε : Type} (now : Nat) (settings : ReaderSettings) : Board ε :=
  { now := fun _ => now
    settings := fun _ => settings
    write := fun _ e => e
    deliver := fun _ s => (.ok (), s)
    notifyRead := fun s => s
    notifyError := fun _ s => s
    notifyRunning := fun _ s => s
    wait := fun _ s => s
    patience := 0 }

instance {ε : Type} : Inhabited (Board ε) :=
  ⟨.still 0 { rfPower := 0, address := 0, antenna := 0 }⟩

namespace Station

variable {ε : Type}

/-- A station on which nothing has happened yet. -/
def fresh (config : Config) (surroundings : ε) : Station ε :=
  { router := .stopped config, line := .empty, surroundings }

def onRouter (f : Router → Router) (s : Station ε) : Station ε := { s with router := f s.router }

def count (f : Counters → Counters) (s : Station ε) : Station ε := s.onRouter (·.count f)

def tell (board : Board ε) (remark : Remark) (s : Station ε) : Station ε :=
  { s with surroundings := board.write remark s.surroundings }

def tellAll (board : Board ε) (remarks : List Remark) (s : Station ε) : Station ε :=
  remarks.foldl (fun s remark => s.tell board remark) s

def now (board : Board ε) (s : Station ε) : Nat := board.now s.surroundings

/-- Let bytes arrive; those that find no room are lost. -/
def receive (bytes : List UInt8) (s : Station ε) : Station ε :=
  { s with line := (s.line.receive bytes).2 }

def statistics (s : Station ε) : Statistics := .of s.router.counters s.line

def resetStatistics (s : Station ε) : Station ε :=
  { s with router := s.router.count fun _ => .zero, line := s.line.resetCounters }

/--
  Run a notification, unless another one is running: a notification that comes up inside a
  notification is dropped.
-/
def notify (notification : Station ε → Station ε) (s : Station ε) : Station ε :=
  if s.router.notifying then s
  else
    (notification (s.onRouter fun r => { r with notifying := true })).onRouter
      fun r => { r with notifying := false }

end Station

end RfidLink
