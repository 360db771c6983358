import RfidLink.Response.Error
import RfidLink.Sighting

/-!
# Tags in responses

A reader reports tags in two ways.

* On its own, one tag at a time: antenna, length of the EPC, EPC, signal strength
  (`Sighting.ofUpload`).
* As the answer to an inventory round: antenna, number of tags, and one **block** for each tag
  (`RoundReport`).

The first byte of a block holds the length of its body in the six low bits and two flags.  If
the highest bit is set, the body starts with a word whose five top bits give the length of the
EPC in words; the EPC and two bytes of its own checksum follow, and what is left is the TID.
Such a body that is too short for its own EPC is taken for an EPC as a whole.  After the body
comes the signal strength, and if the second highest bit is set, seven bytes with phase and
frequency.

`RoundReport.ofPayload` accepts a payload only if it holds every block it announces.
-/

namespace RfidLink

/-- A tag that a reader reports on its own. -/
def Sighting.ofUpload : List UInt8 → Except ResponseError Sighting
  | antenna :: epcLength :: rest =>
    if epcLength = 0 then .error (.invalidLength epcLength)
    else
      match rest.drop epcLength.toNat with
      | [] => .error .truncated
      | rssi :: _ =>
        .ok { epc := .truncate (rest.take epcLength.toNat), tid := none, rssi, antenna,
              phase := none, frequencyKHz := none }
  | _ => .error .truncated

namespace TagBlock

/-- The length of the body, by the six low bits of the first byte. -/
def bodyLength (flags : UInt8) : Nat := flags.toNat % 64

/-- Whether the body holds EPC and TID, by the highest bit of the first byte. -/
def isCombined (flags : UInt8) : Bool := flags.toNat / 128 == 1

/-- Whether phase and frequency are there, by the second highest bit of the first byte. -/
def hasPhase (flags : UInt8) : Bool := flags.toNat / 64 % 2 == 1

/-- The length of the EPC in a combined body, by the five top bits of its first word. -/
def epcLength (high : UInt8) : Nat := high.toNat / 8 * 2

/-- The EPC and the TID in the body of a block. -/
def identity (combined : Bool) (body : List UInt8) : Epc × Option Tid :=
  match combined, body with
  | true, high :: _ :: tail =>
    if epcLength high + 2 ≤ tail.length then
      let tid := tail.drop (epcLength high + 2)
      (.truncate (tail.take (epcLength high)), if tid.isEmpty then none else some (.truncate tid))
    else
      (.truncate body, none)
  | _, _ => (.truncate body, none)

/-- Phase and frequency, and the bytes after them. -/
def phaseAndFrequency (present : Bool) (bytes : List UInt8) :
    Except ResponseError ((Option UInt32 × Option UInt32) × List UInt8) :=
  match present, bytes with
  | false, rest => .ok ((none, none), rest)
  | true, p₀ :: p₁ :: p₂ :: p₃ :: f₀ :: f₁ :: f₂ :: rest =>
    .ok ((some (Word.littleEndian32 p₀ p₁ p₂ p₃), some (Word.littleEndian32 f₀ f₁ f₂ 0)), rest)
  | true, _ => .error .truncated

/-- The tag in the first block, and the bytes after that block. -/
def read (antenna : UInt8) : List UInt8 → Except ResponseError (Sighting × List UInt8)
  | [] => .error .truncated
  | flags :: rest =>
    if bodyLength flags = 0 then .error (.invalidLength flags)
    else
      match rest.drop (bodyLength flags) with
      | [] => .error .truncated
      | rssi :: extra =>
        match phaseAndFrequency (hasPhase flags) extra with
        | .error e => .error e
        | .ok ((phase, frequencyKHz), after) =>
          let (epc, tid) := identity (isCombined flags) (rest.take (bodyLength flags))
          .ok ({ epc, tid, rssi, antenna, phase, frequencyKHz }, after)

/-- The tags in the given number of blocks.  A block that cannot be read is the last one. -/
def readAll (antenna : UInt8) : Nat → List UInt8 → List (Except ResponseError Sighting)
  | 0, _ => []
  | n + 1, bytes =>
    match read antenna bytes with
    | .error e => [.error e]
    | .ok (tag, rest) => .ok tag :: readAll antenna n rest

end TagBlock

/-- The tags of one response to an inventory round. -/
structure RoundReport where
  antenna : UInt8
  count : UInt8
  /-- The bytes in which the blocks are, with whatever follows them. -/
  blocks : List UInt8
deriving DecidableEq

namespace RoundReport

def tags (report : RoundReport) : List (Except ResponseError Sighting) :=
  TagBlock.readAll report.antenna report.count.toNat report.blocks

/-- The tags that could be read, in the order of their blocks. -/
def sightings (report : RoundReport) : List Sighting := report.tags.filterMap Except.toOption

/-- The first error among blocks that were read. -/
def firstError? : List (Except ResponseError Sighting) → Option ResponseError
  | [] => none
  | .error e :: _ => some e
  | .ok _ :: rest => firstError? rest

/-- The report in a payload that holds every block it announces. -/
def ofPayload : List UInt8 → Except ResponseError RoundReport
  | antenna :: count :: blocks =>
    let report : RoundReport := { antenna, count, blocks }
    match firstError? report.tags with
    | some e => .error e
    | none => .ok report
  | _ => .error .truncated

end RoundReport

end RfidLink
