import RfidLink.Command.Code
import RfidLink.Command.Error
import RfidLink.Status

/-!
# Why a request fails

`OperationError` has one case for each way in which a request to the router, or to a session, is
refused or ends without success.  `DeliveryError` says why a tag could not be passed on; it never
stops the router.
-/

namespace RfidLink

/-- Why a request fails. -/
inductive OperationError where
  | notRunning
  | alreadyRunning
  /-- The command cannot be built. -/
  | badCommand (cause : CommandError)
  /-- The outbound ring cannot take the whole frame, and nothing of it was queued. -/
  | noRoom (queued dropped : Nat)
  /-- No answer to the command came in time. -/
  | timeout (command : UInt8)
  | notConnected
  /-- The reader answered no step of the handshake. -/
  | handshakeFailed
  /-- The reader refused the command. -/
  | rejected (command : UInt8) (status : Status)
deriving DecidableEq

def OperationError.message : OperationError → String
  | notRunning => "router not running"
  | alreadyRunning => "router already running"
  | badCommand cause => "encode failed: " ++ cause.message
  | noRoom queued dropped =>
    "tx buffer full: " ++ toString queued ++ " queued, " ++ toString dropped ++ " dropped"
  | timeout command => "no response to " ++ CommandCode.description command
  | notConnected => "reader not connected"
  | handshakeFailed => "reader did not answer the handshake"
  | rejected command status =>
    CommandCode.description command ++ " rejected: " ++ status.message

/-- Why a tag could not be passed on. -/
inductive DeliveryError where
  | busy
  | disconnected
deriving DecidableEq

def DeliveryError.message : DeliveryError → String
  | busy => "sink busy"
  | disconnected => "sink disconnected"

end RfidLink
