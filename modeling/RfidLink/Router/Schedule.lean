import RfidLink.Config.Basic

/-!
# When the next round is due

A polled inventory is a sequence of rounds.  Each is asked for with a command of its own, and
between two of them the reader rests.  `Schedule` says where inventory stands in this sequence:
whether it has begun at all, whether a round has been asked for, and two times, of which the one
matters between rounds and the other during a round.

Inventory in which the reader reports tags on its own has no rounds.  It counts as begun and its
schedule is never looked at, unless the configuration is changed to a polled strategy meanwhile;
then the first round is due at once.
-/

namespace RfidLink

/-- Where inventory stands in the sequence of its rounds; times are in milliseconds. -/
structure Schedule where
  /-- Whether inventory has begun. -/
  active : Bool
  /-- Whether a round has been asked for and has not ended. -/
  inRound : Bool
  /-- When the next round is to be asked for. -/
  nextRoundAt : Nat
  /-- When the current round is given up. -/
  deadline : Nat
deriving DecidableEq

namespace Schedule

/-- There is no inventory. -/
def off : Schedule := { active := false, inRound := false, nextRoundAt := 0, deadline := 0 }

/-- The schedule of an inventory whose first command was queued at `now`. -/
def opened (config : Config) (now : Nat) : Schedule :=
  { active := true, inRound := config.strategy.isPolled, nextRoundAt := now,
    deadline := now + config.roundLimitMs }

/-- The round has ended, and the next one is due at `time`. -/
def dueAt (time : Nat) (schedule : Schedule) : Schedule :=
  { schedule with inRound := false, nextRoundAt := time }

/-- A round has been asked for, and is given up at `time`. -/
def waitingUntil (time : Nat) (schedule : Schedule) : Schedule :=
  { schedule with inRound := true, deadline := time }

end Schedule

end RfidLink
