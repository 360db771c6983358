import RfidLink.Sighting

/-!
# Holding back repeated tags

A tag in the field of a reader is read many times a second.  `RepeatFilter` lets a tag
through the first time it is read, and again only when the **window** has passed since it was
let through last.  Reads that are held back are still counted.

The filter remembers 32 tags.  A table that is full takes a new tag in the place of the one that
has been in it longest, however recently that one was read: the places are used in turn, and
`next` is the one whose turn it is.
-/

namespace RfidLink

/-- What is remembered about one tag. -/
structure TagHistory where
  epc : Epc
  lastSentAt : Nat
  lastSeenAt : Nat
  rssiMin : UInt8
  rssiMax : UInt8
  /-- How often the tag was read; the count stays at its largest value once it is there. -/
  readCount : UInt32
deriving DecidableEq

/-- The totals over all tags that are remembered. -/
structure ReadTotals where
  uniqueTags : Nat
  /-- The reads of these tags, with those held back. -/
  totalReads : UInt32
deriving DecidableEq

/-- A sum that stays at the largest value instead of starting again at zero. -/
def saturatingAdd (a b : UInt32) : UInt32 :=
  UInt32.ofNat (min (a.toNat + b.toNat) (UInt32.size - 1))

namespace TagHistory

def first (epc : Epc) (rssi : UInt8) (now : Nat) : TagHistory :=
  { epc, lastSentAt := now, lastSeenAt := now, rssiMin := rssi, rssiMax := rssi, readCount := 1 }

/-- Whether a read at `now` comes too soon to be let through. -/
def isHeldBack (window now : Nat) (entry : TagHistory) : Bool :=
  now - entry.lastSentAt < window

/-- Count one more read, and note whether it is let through. -/
def again (window : Nat) (rssi : UInt8) (now : Nat) (entry : TagHistory) : TagHistory :=
  { entry with
    rssiMin := min entry.rssiMin rssi
    rssiMax := max entry.rssiMax rssi
    lastSeenAt := now
    readCount := saturatingAdd entry.readCount 1
    lastSentAt := if entry.isHeldBack window now then entry.lastSentAt else now }

end TagHistory

/-- The tags read of late. -/
structure RepeatFilter where
  /-- What is remembered, in the order of the places. -/
  entries : List TagHistory
  /-- The place that the next new tag takes. -/
  next : Nat
  /-- The shortest time between two reads of one tag that are let through, in milliseconds. -/
  window : Nat
deriving DecidableEq

namespace RepeatFilter

def capacity : Nat := 32

/-- A filter that remembers nothing. -/
def withWindow (windowMs : UInt32) : RepeatFilter :=
  { entries := [], next := 0, window := windowMs.toNat }

def setWindowMs (windowMs : UInt32) (filter : RepeatFilter) : RepeatFilter :=
  { filter with window := windowMs.toNat }

def setWindowSeconds (seconds : UInt32) (filter : RepeatFilter) : RepeatFilter :=
  { filter with window := seconds.toNat * 1000 }

/-- Change the first entry of a tag. -/
def change (epc : Epc) (f : TagHistory → TagHistory) : List TagHistory → List TagHistory
  | [] => []
  | entry :: rest => if entry.epc = epc then f entry :: rest else entry :: change epc f rest

/-- Remember a new tag, in the place whose turn it is if all places are taken. -/
def insert (entry : TagHistory) (filter : RepeatFilter) : RepeatFilter :=
  { filter with
    entries :=
      if capacity ≤ filter.entries.length then filter.entries.set filter.next entry
      else filter.entries ++ [entry]
    next := (filter.next + 1) % capacity }

/-- Record a read of a tag at `now`, and say whether it is let through. -/
def record (bytes : List UInt8) (rssi : UInt8) (now : Nat) (filter : RepeatFilter) :
    Bool × RepeatFilter :=
  let epc : Epc := .truncate bytes
  match filter.entries.find? (·.epc = epc) with
  | some entry =>
    (!entry.isHeldBack filter.window now,
      { filter with entries := change epc (·.again filter.window rssi now) filter.entries })
  | none => (true, filter.insert (.first epc rssi now))

def clear (filter : RepeatFilter) : RepeatFilter := { filter with entries := [], next := 0 }

/-- The totals over all tags that are remembered. -/
def totals (filter : RepeatFilter) : ReadTotals :=
  { uniqueTags := filter.entries.length
    totalReads := (filter.entries.map (·.readCount)).foldl saturatingAdd 0 }

end RepeatFilter

end RfidLink
