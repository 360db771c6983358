import RfidLink.Router.Control

/-!
# What becomes of a frame

A received frame is counted, checked and read.  A frame whose checksum does not match or whose
content cannot be read ends there.  Every other frame goes three ways.

* **Answer.**  The response is kept for whoever waits for it, unless the reader sent it on its
  own.  Responses to inventory rounds come in great numbers; they are kept only if somebody waits
  for exactly that one.
* **Content.**  Tags go through the repeat filter to the consumer, and readings are remembered or
  written into the journal.
* **Status.**  The status of a response to an inventory round moves inventory on: an antenna
  error stops it, and the end of a polled round sets the time of the next.
-/

namespace RfidLink.Station

variable {ε : Type} (board : Board ε)

/-- Pass on a tag that the repeat filter let through. -/
def passOn (tag : Sighting) (s : Station ε) : Station ε :=
  let text := tag.text s.router.config.epcGroupBytes.toNat
  match board.deliver text (s.tell board (.tag text tag)) with
  | (.ok (), s) =>
    (s.count fun c => { c with tagsPassedOn := c.tagsPassedOn + 1 }).notify board.notifyRead
  | (.error cause, s) =>
    (s.count fun c => { c with tagsUndelivered := c.tagsUndelivered + 1 }).tell board (.undelivered cause)

/-- Take a tag that was read at `now`. -/
def offer (now : Nat) (s : Station ε) (tag : Sighting) : Station ε :=
  let s := s.count fun c => { c with tagsRead := c.tagsRead + 1 }
  if s.router.mode = .idle then s.tell board (.tagIgnored tag)
  else
    let (isLetThrough, filter) := s.router.filter.record tag.epc.toList tag.rssi now
    let s := s.onRouter fun r => { r with filter }
    if isLetThrough then s.passOn board tag
    else s.count fun c => { c with tagsHeldBack := c.tagsHeldBack + 1 }

/-- Act on the content of a response that was received at `now`. -/
def useContent (now : Nat) (content : Content) (s : Station ε) : Station ε :=
  match content with
  | .autoUpload tag => s.offer board now tag
  | .inventory report => report.sightings.foldl (offer board now) s
  | .statistics statistics => s.tell board (.statistics statistics)
  | .profile profile =>
    (s.tell board (.profile profile)).onRouter fun r => { r with profile := some profile }
  | .tagCount count => s.onRouter fun r => { r with tagCount := some count }
  | .temperature degrees => s.onRouter fun r => { r with temperature := some degrees }
  | .readData excerpt => s.tell board (.memory excerpt)
  | .gpioState levels => s.tell board (.pins levels)
  | .other .. => s

/-- End an inventory of one round. -/
def endOnlyRound (s : Station ε) : Station ε :=
  (s.endSchedule.reportTotals board).2.enterMode board .idle

/-- Stop inventory because of the antenna, and indicate the error. -/
def stopForAntenna (s : Station ε) : Station ε :=
  let s := (s.tell board .antennaError).onRouter fun r => { r with errorShown := true }
  (s.notify (board.notifyError true)).endSchedule.enterMode board .idle

/-- Act on the status of a response to an inventory round that was received at `now`. -/
def followRound (now : Nat) (status : Status) (s : Station ε) : Station ε :=
  if s.router.mode = .idle then s
  else if status = .antennaError then s.stopForAntenna board
  else if !status.endsRound || !s.router.inventoryActive then s
  else
    match s.router.config.strategy with
    | .fast => s
    | .repeating intervalMs => 
      s.onRouter (·.reschedule (·.dueAt (now + intervalMs.toNat)))
    | .singleShot => s.endOnlyRound board

/-- The answer in a response, unless the reader sent it on its own. -/
def answerOf (head : ResponseHead) (payload : List UInt8) : Option Answer :=
  if head.command = CommandCode.autoUpload then none
  else
    some
      { address := head.address, command := head.command, status := head.status,
        payload := (BoundedBytes.ofList? payload).getD .empty }

/-- Keep an answer, unless it belongs to an inventory round and nobody waits for it. -/
def keepAnswer (s : Station ε) (answer : Answer) : Station ε :=
  if CommandCode.isRound answer.command && !answer.isAwaited s.router.awaiting then s
  else s.onRouter fun r => { r with answers := Answer.push r.awaiting answer r.answers }

/-- Act on a response that was received at `now` in the given frame. -/
def acceptResponse (now : Nat) (frame : List UInt8) (response : Response) (s : Station ε) :
    Station ε :=
  let head := response.head
  let s := s.tell board (.received frame response)
  let s := (answerOf head (responsePayload frame)).elim s s.keepAnswer
  let s := s.useContent board now response.content
  if CommandCode.isRound head.command then s.followRound board now head.status else s

/-- Act on a frame that was received at `now`. -/
def acceptFrame (now : Nat) (frame : List UInt8) (s : Station ε) : Station ε :=
  let s := s.count fun c => { c with framesReceived := c.framesReceived + 1 }
  if !Checksum.isValid frame then
    (s.count fun c => { c with framesDamaged := c.framesDamaged + 1 }).tell board
      (.damaged frame)
  else
    match Response.ofFrame frame with
    | .error cause =>
      (s.count fun c => { c with framesUnreadable := c.framesUnreadable + 1 }).tell board
        (.unreadable frame cause)
    | .ok response => s.acceptResponse board now frame response

end RfidLink.Station
