import RfidLink.Bytes

/-!
# The serial line

Between the wire and the router lie two rings, one for each direction.

* The wire brings bytes into the **inbound** ring (`Line.receive`) and the router takes
  them out.
* The router puts bytes into the **outbound** ring (`Line.enqueue`), and bytes leave it as the
  wire accepts them (`Line.transmit`).

A ring holds `Line.capacity` bytes and gives them back in the order in which it took them.
Received bytes that find the inbound ring full are lost.  That raises the **overrun**
flag, and whoever takes bytes out looks at it later.  Bytes and overruns are counted.

`transmit_append` says that the waiting bytes are sent in their order and the others stay
waiting, and `outbound_enqueue` that a byte goes behind them wherever there is room for it.
-/

namespace RfidLink

/-- The two rings between the wire and the router. -/
structure Line where
  /-- Received bytes, the oldest first. -/
  inbound : List UInt8
  /-- Bytes to be sent, the oldest first. -/
  outbound : List UInt8
  /-- Whether received bytes were lost since the flag was last taken. -/
  overrun : Bool
  bytesReceived : UInt32
  bytesSent : UInt32
  /-- How many times received bytes were lost. -/
  overruns : UInt32
deriving DecidableEq

namespace Line

/-- The number of bytes a ring can hold. -/
def capacity : Nat := 4095

def empty : Line :=
  { inbound := [], outbound := [], overrun := false, bytesReceived := 0, bytesSent := 0,
    overruns := 0 }

/--
  Take bytes that have arrived.  As many as fit are kept, and the answer is their number; if some
  do not fit, the overrun flag is raised.
-/
def receive (bytes : List UInt8) (line : Line) : Nat × Line :=
  let kept := bytes.take (capacity - line.inbound.length)
  let lost := kept.length < bytes.length
  (kept.length,
    { line with
      inbound := line.inbound ++ kept
      overrun := line.overrun || lost
      overruns := if lost then line.overruns + 1 else line.overruns
      bytesReceived := line.bytesReceived + UInt32.ofNat kept.length })

/--
  Send bytes, of which at most `accepted` are accepted.  The answer is the bytes sent.
-/
def transmit (accepted : Nat) (line : Line) : List UInt8 × Line :=
  let sent := line.outbound.take accepted
  (sent,
    { line with
      outbound := line.outbound.drop accepted
      bytesSent := line.bytesSent + UInt32.ofNat sent.length })

theorem transmit_append (accepted : Nat) (line : Line) :
    (line.transmit accepted).1 ++ (line.transmit accepted).2.outbound = line.outbound :=
  List.take_append_drop accepted line.outbound

/-- Send every waiting byte. -/
def transmitAll (line : Line) : List UInt8 × Line := line.transmit line.outbound.length

/-- The number of bytes that the outbound ring can still take. -/
def room (line : Line) : Nat := capacity - line.outbound.length

/-- Put one byte into the outbound ring; a full ring does not take it. -/
def enqueue (byte : UInt8) (line : Line) : Line :=
  if line.room = 0 then line else { line with outbound := line.outbound ++ [byte] }

theorem outbound_enqueue (byte : UInt8) {line : Line} (h : 0 < line.room) :
    (line.enqueue byte).outbound = line.outbound ++ [byte] := by
  have : line.room ≠ 0 := by omega
  simp [enqueue, this]

/-- Whether bytes were lost, with the flag taken back. -/
def takeOverrun (line : Line) : Bool × Line := (line.overrun, { line with overrun := false })

def clearInbound (line : Line) : Line := { line with inbound := [] }

def resetCounters (line : Line) : Line := { line with bytesReceived := 0, bytesSent := 0, overruns := 0 }

end Line

end RfidLink
