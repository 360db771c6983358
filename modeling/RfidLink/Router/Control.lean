import RfidLink.Board

/-!
# Starting, stopping and changing the mode

A change of mode draws a line: what was received before it, in the inbound ring or as part of a
frame, belongs to the past and is thrown away.  The outbound ring is left alone, so a command
queued just before the change is still sent.

Throwing away what was received while frames are being processed would pull the bytes from under
the hands of whoever processes them.  A change of mode therefore only notes that a reset is
pending.  `Station.resetUnlessBusy` carries it out at once if nobody is at work; a busy router does
so itself as soon as it is done with the current frame (`Station.performReset`).
-/

namespace RfidLink.Station

variable {ε : Type} (board : Board ε)

/-- Throw away what was received, if that is pending. -/
def performReset (s : Station ε) : Station ε :=
  if s.router.resetPending then
    { s with
      router := { s.router with resetPending := false, collector := s.router.collector.reset }
      line := s.line.clearInbound }
  else s

/-- Throw away what was received, if that is pending and nobody is processing it. -/
def resetUnlessBusy (s : Station ε) : Station ε := if s.router.busy then s else s.performReset

/-- Change the mode, and throw away what was received if that is a change. -/
def enterMode (mode : Mode) (s : Station ε) : Station ε :=
  if s.router.mode = mode then s
  else
    ((s.onRouter fun r => { r with mode, resetPending := true }).tell board
      (.modeChanged s.router.mode mode)).resetUnlessBusy

/-- Start the router; what was received before is thrown away. -/
def start (s : Station ε) : Except OperationError Unit × Station ε :=
  if s.router.running then (.error .alreadyRunning, s)
  else
    let s := s.onRouter fun r => { r with running := true, mode := .idle, resetPending := true }
    (.ok (), s.resetUnlessBusy.tell board .routerStarted)

/-- Stop the router, and any inventory with it. -/
def stop (s : Station ε) : Except OperationError Unit × Station ε :=
  if s.router.running then
    let s := s.onRouter fun r => { r with running := false }.endSchedule
    (.ok (), (s.enterMode board .idle).tell board .routerStopped)
  else (.error .notRunning, s)

/--
  Begin the schedule of inventory, after its first command has been queued.  An error that was
  indicated is taken back.
-/
def beginSchedule (s : Station ε) : Station ε :=
  let schedule := Schedule.opened s.router.config (s.now board)
  let s := s.onRouter fun r => { r with schedule }
  let s := if schedule.inRound then
      s.count fun c => { c with roundsStarted := c.roundsStarted + 1 }
    else s
  if s.router.errorShown then
    (s.onRouter fun r => { r with errorShown := false }).notify (board.notifyError false)
  else s

def endSchedule (s : Station ε) : Station ε := s.onRouter Router.endSchedule

/-- What the journal is told about the tags read of late. -/
def tagRemarks (r : Router) : List Remark :=
  r.filter.entries.map fun history =>
    .seen (epcText history.epc.toList r.config.epcGroupBytes.toNat) history

/-- Write the totals over the tags read of late, and every one of them, into the journal. -/
def reportTotals (s : Station ε) : ReadTotals × Station ε :=
  let totals := s.router.readTotals
  (totals, s.tellAll board (.totals totals :: tagRemarks s.router))

end RfidLink.Station
