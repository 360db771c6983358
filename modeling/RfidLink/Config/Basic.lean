import RfidLink.Command.Basic

/-!
# Configuration

`Config` holds what a user can set about a link: how often the same tag is passed on, how
long answers are waited for, and how inventory is driven.  The last of these is the
`Strategy`: either the reader runs on its own and reports tags as it finds them
(`fast`), or it is asked for one round at a time, again and again (`repeating`) or once
(`singleShot`).  The two latter are **polled**.
-/

namespace RfidLink

/-- How inventory is driven. -/
inductive Strategy where
  /-- The reader reports tags on its own. -/
  | fast
  /-- One command for each round, the next one `intervalMs` after the end of a round. -/
  | repeating (intervalMs : UInt32)
  /-- One round and no more. -/
  | singleShot
deriving DecidableEq

namespace Strategy

def isPolled : Strategy → Bool
  | fast => false
  | _ => true

/-- The duration of one round, in tenths of a second. -/
def scanTime : Strategy → UInt8
  | singleShot => ScanTime.single
  | _ => ScanTime.continuous

/-- The command that starts inventory, or one round of it. -/
def openingCommand : Strategy → Command
  | fast => .startFastInventory .a
  | strategy => .tagInventory strategy.scanTime

/-- The command that stops inventory. -/
def closingCommand : Strategy → Command
  | fast => .stopFastInventory
  | _ => .stopImmediately

end Strategy

/-- What a user can set about a link; times are in milliseconds. -/
structure Config where
  /-- The shortest time between two reports of the same tag. -/
  debounceMs : UInt32
  /-- How long an answer is waited for. -/
  responseTimeoutMs : UInt32
  /-- The pause between two looks for an answer. -/
  pollIntervalMs : UInt32
  /-- The work mode that the reader is put into. -/
  workMode : UInt8
  strategy : Strategy
  /-- The number of bytes in a group of an EPC's text; zero for no groups. -/
  epcGroupBytes : UInt8
  /-- How long after its duration an unanswered round is given up. -/
  roundTimeoutMs : UInt32
deriving DecidableEq

namespace Config

/-- The configuration of a link nobody has configured. -/
def standard : Config :=
  { debounceMs := 1000, responseTimeoutMs := 200, pollIntervalMs := 5, workMode := 0,
    strategy := .repeating 100, epcGroupBytes := 4, roundTimeoutMs := 500 }

/-- How long after its command an unanswered round is given up. -/
def roundLimitMs (config : Config) : Nat :=
  config.strategy.scanTime.toNat * 100 + config.roundTimeoutMs.toNat

/-- The pause between two looks for an answer, at least one millisecond. -/
def pollPauseMs (config : Config) : Nat := max config.pollIntervalMs.toNat 1

end Config

end RfidLink
