import RfidLink.Router.Process

/-!
# Asking and waiting for the answer

`Station.ask` queues a command and waits until its answer has come or the time is up.  While it
waits it processes what was received, looks for the answer if frames have come in, and lets a
little time pass.

Answers to an earlier request of the same kind are discarded first, so that they are not taken
for the answer to this one.  While the call lasts the request is noted as awaited, which keeps
its answer from being pushed out of the queue by others.
-/

namespace RfidLink.Station

variable {ε : Type} (board : Board ε)

def takeAnswer (request : Request) (s : Station ε) : Option Answer × Station ε :=
  let (answer, answers) := Answer.take request s.router.answers
  (answer, s.onRouter fun r => { r with answers })

/--
  Process what was received, and take the answer to a request if frames have been counted since
  the counter stood at `seen`.
-/
def look (request : Request) (seen : UInt32) (s : Station ε) : Option Answer × Station ε :=
  let (_, s) := s.process board
  if s.router.counters.framesReceived = seen then (none, s) else s.takeAnswer request

/-- Wait for the answer to a request until a deadline, looking at most the given number of times. -/
def waitUntil (request : Request) (deadline pause : Nat) :
    Nat → UInt32 → Station ε → Except OperationError Answer × Station ε
  | 0, _, s => (.error (.timeout request.command), s)
  | turns + 1, seen, s =>
    match s.look board request seen with
    | (some answer, s) => (.ok answer, s)
    | (none, s) =>
      if deadline ≤ s.now board then
        (.error (.timeout request.command), s.tell board (.unanswered request.command))
      else
        waitUntil request deadline pause turns s.router.counters.framesReceived
          (board.wait pause s)

/-- Queue a command and wait for its answer, for at most the given number of milliseconds. -/
def sendAndWait (address : UInt8) (command : Command) (timeoutMs : UInt32) (s : Station ε) :
    Except OperationError Answer × Station ε :=
  let seen := s.router.counters.framesReceived
  match s.sendTo board address command with
  | (.error cause, s) => (.error cause, s)
  | (.ok _, s) =>
    let pause := s.router.config.pollPauseMs
    s.waitUntil board { address, command := command.code } (s.now board + timeoutMs.toNat) pause
      (timeoutMs.toNat + 1 + board.patience) seen

/-- Ask the reader at an address, and give its answer whatever its status. -/
def ask (address : UInt8) (command : Command) (timeoutMs : UInt32) (s : Station ε) :
    Except OperationError Answer × Station ε :=
  let request : Request := { address, command := command.code }
  let s := s.onRouter fun r =>
    { r with answers := Answer.discard request r.answers, awaiting := some request }
  let (answer, s) := s.sendAndWait board address command timeoutMs
  (answer, s.onRouter fun r => { r with awaiting := none })

end RfidLink.Station
