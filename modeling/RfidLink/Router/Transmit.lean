import RfidLink.Board
import RfidLink.Command.Frame
import RfidLink.Command.Scan

/-!
# The way out

A command is queued as a whole frame or not at all.  The call never waits: if the outbound ring
has no room for the frame, the bytes are counted as dropped and the caller is told.

The frame goes into the ring byte by byte, and the serial port takes bytes out of it at the other
end whenever the wire is ready (`Station.transmit`).  It does so in an interrupt, so it may come
before the room is looked at and between any two bytes of a frame (`Station.interrupted`).
-/

namespace RfidLink.Station

variable {ε : Type} (board : Board ε)

/-- Offer bytes to the wire until it refuses one.  The answer is the number it has taken. -/
def emitAll : List UInt8 → ε → Nat × ε
  | [], e => (0, e)
  | byte :: rest, e =>
    match board.emit byte e with
    | (false, e) => (0, e)
    | (true, e) =>
      let (taken, e) := emitAll rest e
      (taken + 1, e)

/-- Send waiting bytes until the wire refuses one.  The answer is the number of bytes sent. -/
def transmit (s : Station ε) : Nat × Station ε :=
  let (taken, surroundings) := emitAll board s.line.outbound s.surroundings
  (taken, { s with line := (s.line.transmit taken).2, surroundings })

def transmitTimes : Nat → Station ε → Station ε
  | 0, s => s
  | times + 1, s => transmitTimes times (s.transmit board).2

/-- Let the serial port interrupt, as often as it has to. -/
def interrupted (s : Station ε) : Station ε :=
  let (times, surroundings) := board.interrupts s.surroundings
  { s with surroundings }.transmitTimes board times

/-- Put bytes into the outbound ring; the serial port may interrupt before each of them. -/
def enqueueAll : List UInt8 → Station ε → Station ε
  | [], s => s
  | byte :: rest, s =>
    let s := s.interrupted board
    enqueueAll rest { s with line := s.line.enqueue byte }

/-- Queue a command for the reader at an address.  The answer is the size of its frame. -/
def sendTo (address : UInt8) (command : Command) (s : Station ε) :
    Except OperationError Nat × Station ε :=
  if !s.router.running then (.error .notRunning, s)
  else
    match command.encode address with
    | .error cause => (.error (.badCommand cause), s)
    | .ok frame =>
      let s := s.interrupted board
      if frame.length ≤ s.line.room then
        (.ok frame.length, (s.enqueueAll board frame).tell board (.queued command address))
      else
        let s := s.count fun c => { c with bytesRefused := c.bytesRefused + UInt32.ofNat frame.length }
        (.error (.noRoom 0 frame.length), s.tell board (.ringFull command address))

/-- Queue a command for the reader at the configured address. -/
def send (command : Command) (s : Station ε) : Except OperationError Nat × Station ε :=
  s.sendTo board s.router.address command

/-- Queue a command given as a code and argument bytes. -/
def sendRaw (code : UInt8) (args : List UInt8) (s : Station ε) :
    Except OperationError Nat × Station ε :=
  match Command.ofArguments code args with
  | .error cause => (.error (.badCommand cause), s)
  | .ok command => s.send board command

end RfidLink.Station
