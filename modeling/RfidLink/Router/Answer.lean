import RfidLink.Bytes
import RfidLink.Router.Error

/-!
# Answers to commands

The router keeps the last answers until somebody asks for them.  An `Answer` is one of them, and
the queue is a list, the oldest first, of at most `Answer.queueCapacity` entries.

* `Answer.isFor` says whether an answer belongs to a request.  A request to the broadcast address
  may be answered by any reader.
* `Answer.push` adds an answer.  If the queue is full, the oldest answer to anything but the
  awaited request has to go, and only if there is none, the oldest of all.  An answer that
  somebody waits for is thus not pushed out by others.
* `Answer.take` takes out the oldest answer to a request and leaves the others as they are.
-/

namespace RfidLink

/-- The longest payload of a response, in bytes. -/
def maxResponsePayload : Nat := 250

structure Answer where
  address : UInt8
  command : UInt8
  status : Status
  payload : BoundedBytes maxResponsePayload
deriving DecidableEq

/-- A request: the address it goes to and the code of its command. -/
structure Request where
  address : UInt8
  command : UInt8
deriving DecidableEq

namespace Answer

def queueCapacity : Nat := 4

/-- The answer itself if the reader carried out the command, an error otherwise. -/
def accepted (answer : Answer) : Except OperationError Answer :=
  if answer.status.isSuccess then .ok answer else .error (.rejected answer.command answer.status)

/-- Whether an answer belongs to a request. -/
def isFor (request : Request) (answer : Answer) : Bool :=
  answer.command == request.command &&
    (request.address == 0xFF || answer.address == request.address)

/-- Whether somebody waits for an answer. -/
def isAwaited (awaiting : Option Request) (answer : Answer) : Bool := awaiting.any (isFor · answer)

/-- Make room by taking out the oldest answer nobody waits for, or else the oldest of all. -/
def evict (awaiting : Option Request) (queue : List Answer) : List Answer :=
  if queue.all (isAwaited awaiting) then queue.tail
  else queue.eraseP fun answer => !answer.isAwaited awaiting

/-- Add an answer at the end, after making room for it where there is none. -/
def push (awaiting : Option Request) (answer : Answer) (queue : List Answer) : List Answer :=
  (if queueCapacity ≤ queue.length then evict awaiting queue else queue) ++ [answer]

/-- The oldest answer to a request, and the queue without it. -/
def take (request : Request) (queue : List Answer) : Option Answer × List Answer :=
  (queue.find? (isFor request), queue.eraseP (isFor request))

/-- The queue without any answer to a request. -/
def discard (request : Request) (queue : List Answer) : List Answer :=
  queue.filter fun answer => !answer.isFor request

end Answer

end RfidLink
