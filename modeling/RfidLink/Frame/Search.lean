import RfidLink.Frame.Collector

/-!
# The next frame among received bytes

`FrameCollector.search` gives bytes to a collector until it holds a complete frame.  The frame is
taken out, and the collector is ready for the next one.

`FrameSearch` holds what comes out: the frame, the bytes behind it, the collector as it then is,
and the errors on the way.  A search that finds no frame has used up all bytes, and what it
collected waits in the collector for the bytes to come.
-/

namespace RfidLink

/-- What came out of a search for the next frame. -/
structure FrameSearch where
  /-- The next complete frame, if there is one. -/
  frame : Option (List UInt8)
  /-- The bytes behind it. -/
  rest : List UInt8
  collector : FrameCollector
  /-- The errors on the way, in their order. -/
  errors : List FramingError
deriving DecidableEq

/-- Give bytes that count as received at `now` to a collector until it holds a frame. -/
def FrameCollector.search (now : Nat) : List UInt8 → FrameCollector → FrameSearch
  | [], c => { frame := none, rest := [], collector := c, errors := [] }
  | byte :: rest, c =>
    match c.push byte now with
    | (.ok true, c) => { frame := c.frame?, rest, collector := c.reset, errors := [] }
    | (.ok false, c) => search now rest c
    | (.error e, c) =>
      let later := search now rest c
      { later with errors := e :: later.errors }

end RfidLink
