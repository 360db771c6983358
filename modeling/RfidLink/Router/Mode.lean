/-!
# Modes

The router is either idle or takes inventory.  Tags are passed on only during inventory; answers
to commands are taken in both modes.
-/

namespace RfidLink

/-- What the router is doing. -/
inductive Mode where
  | idle
  | inventory
deriving DecidableEq

/-- The short form used in log lines. -/
def Mode.label : Mode → String
  | idle => "Idle"
  | inventory => "Inventory"

end RfidLink
