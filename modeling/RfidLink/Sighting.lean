import RfidLink.Bytes
import RfidLink.Hexadecimal

/-!
# Sightings of tags

A tag is identified by its EPC, a string of at most 62 bytes.  A `Sighting` is one observation
of a tag: its EPC, the TID where the reader sent one, the signal strength, the antenna, and
phase and frequency where the reader measured them.

What leaves the library is text.  `epcText` writes an EPC in capital hexadecimal digits and puts
a space between groups of bytes.  The longest EPC, with every byte a group of its own, takes 185
characters, so `epcTextCapacity` is always enough.
-/

namespace RfidLink

def maxEpcLength : Nat := 62

/-- The longest TID that is kept, in bytes. -/
def maxTidLength : Nat := 32

/-- The room a consumer has to provide for the text of an EPC, in characters. -/
def epcTextCapacity : Nat := 192

/-- The identity of a tag. -/
abbrev Epc := BoundedBytes maxEpcLength

/-- The serial number of a tag's chip. -/
abbrev Tid := BoundedBytes maxTidLength

/-- One observation of a tag. -/
structure Sighting where
  epc : Epc
  tid : Option Tid
  rssi : UInt8
  antenna : UInt8
  phase : Option UInt32
  frequencyKHz : Option UInt32
deriving DecidableEq

/--
  The digits of bytes that start at position `i` of an EPC.  With a `group` other than zero a
  space stands before each byte whose position is a multiple of it, the first byte excepted.
-/
def epcDigitsFrom (group : Nat) : Nat → List UInt8 → List Char
  | _, [] => []
  | i, b :: rest =>
    (if 0 < group ∧ 0 < i ∧ i % group = 0 then [' '] else []) ++
      Hexadecimal.upper b ++ epcDigitsFrom group (i + 1) rest

/--
  An EPC as text: two capital digits a byte, a space between groups of `group` bytes, and no
  space at all if `group` is zero.  Bytes after the longest EPC are left out.
-/
def epcText (bytes : List UInt8) (group : Nat) : String :=
  String.ofList (epcDigitsFrom group 0 (bytes.take maxEpcLength))

namespace Sighting

/-- An observation without TID, phase and frequency, unless the EPC is too long. -/
def ofEpc? (bytes : List UInt8) (rssi antenna : UInt8) : Option Sighting :=
  (BoundedBytes.ofList? bytes).map fun epc =>
    { epc, tid := none, rssi, antenna, phase := none, frequencyKHz := none }

def text (s : Sighting) (group : Nat) : String := epcText s.epc.toList group

end Sighting

end RfidLink
