import RfidLink.Frame.Search
import RfidLink.Router.Dispatch
import RfidLink.Router.Transmit

/-!
# Processing what was received

`Station.process` takes the received bytes from the inbound ring, cuts them into frames and acts
on each frame, until no complete frame is left.  At the end it looks at the schedule: a polled
inventory may be due for its next round, or its current round may have to be given up.

All bytes of one call count as received at one time, the time at which the call began.

A call that finds another one at work returns at once and changes nothing (`Outcome.skipped`).
This is how callbacks may call `process`: they run inside a call that is at work.  Before any byte
is looked at, a lost-bytes flag discards the partial frame, and a pending reset is carried out; a
reset that comes up while a frame is acted on is carried out right after it.
-/

namespace RfidLink

/-- What a call to process received bytes came to. -/
inductive Outcome where
  | skipped
  | stopped
  /-- The given number of frames was acted on. -/
  | processed (frames : Nat)
deriving DecidableEq

namespace Station

variable {ε : Type} (board : Board ε)

/-- Take the next complete frame out of the inbound ring. -/
def pullFrame (now : Nat) (s : Station ε) : Option (List UInt8) × Station ε :=
  let search := s.router.collector.search now s.line.inbound
  let dropped := search.collector.errors - s.router.collector.errors
  let s :=
    { s with
      router := { s.router with collector := search.collector }.count fun c =>
        { c with framingErrors := c.framingErrors + dropped }
      line := { s.line with inbound := search.rest } }
  (search.frame, s.tellAll board (search.errors.map .startRefused))

/--
  Act on frames until none is left, at most the given number of times.  The answer is the frames,
  in the order in which they were acted on.
-/
def acceptFrames (now : Nat) : Nat → Station ε → List (List UInt8) × Station ε
  | 0, s => ([], s)
  | turns + 1, s =>
    match s.pullFrame board now with
    | (none, s) => ([], s)
    | (some frame, s) =>
      let (frames, s) := acceptFrames now turns (s.acceptFrame board now frame).performReset
      (frame :: frames, s)

/--
  Ask for the next round of a polled inventory.  If that fails, a repeating inventory tries again
  after its interval.
-/
def startRound (now : Nat) (s : Station ε) : Station ε :=
  let config := s.router.config
  match s.send board config.strategy.openingCommand with
  | (.ok _, s) =>
    (s.count fun c => { c with roundsStarted := c.roundsStarted + 1 }).onRouter
      (·.reschedule (·.waitingUntil (now + config.roundLimitMs)))
  | (.error cause, s) =>
    let s := s.tell board (.roundNotStarted cause)
    match config.strategy with
    | .repeating intervalMs =>
      s.onRouter (·.reschedule fun p => { p with nextRoundAt := now + intervalMs.toNat })
    | _ => s

/-- Give up the current round, and ask for the next one unless it was the only one. -/
def abandonRound (now : Nat) (s : Station ε) : Station ε :=
  let s := (s.tell board .roundAbandoned).count fun c =>
    { c with roundsAbandoned := c.roundsAbandoned + 1 }
  if s.router.config.strategy = .singleShot then s.endOnlyRound board
  else (s.onRouter (·.reschedule (·.dueAt now))).startRound board now

/-- Do what the schedule of a polled inventory asks for at `now`. -/
def keepSchedule (now : Nat) (s : Station ε) : Station ε :=
  if s.router.mode = .idle || !s.router.config.strategy.isPolled || !s.router.inventoryActive then s
  else if s.router.schedule.inRound then
    if now < s.router.schedule.deadline then s else s.abandonRound board now
  else if now < s.router.schedule.nextRoundAt then s
  else s.startRound board now

/-- Discard the partial frame if received bytes were lost. -/
def discardAfterOverrun (s : Station ε) : Station ε :=
  let (isLost, line) := s.line.takeOverrun
  let s := { s with line }
  if isLost then
    (s.tell board .overrun).onRouter fun r => { r with collector := r.collector.reset }
  else s

/--
  The number of frames a call may act on: every frame takes at least one of the received bytes,
  and callbacks may add more.
-/
def frameTurns (s : Station ε) : Nat := s.line.inbound.length + 1 + board.patience

/--
  Act on everything that was received, then on the schedule.  The answer is the frames that were
  acted on, in their order.
-/
def processReceived (s : Station ε) : List (List UInt8) × Station ε :=
  let now := s.now board
  let s := (s.discardAfterOverrun board).performReset
  let (frames, s) := s.acceptFrames board now (s.frameTurns board)
  (frames, s.keepSchedule board now)

/-- Process what was received, unless another call is at work. -/
def process (s : Station ε) : Outcome × Station ε :=
  if s.router.busy then (.skipped, s)
  else if !s.router.running then (.stopped, s)
  else
    let (frames, s) := (s.onRouter fun r => { r with busy := true }).processReceived board
    (.processed frames.length, s.onRouter fun r => { r with busy := false })

end Station

end RfidLink
