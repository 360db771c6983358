import Mathlib.Data.List.Forall2
import Mathlib.Tactic.Lemma
import RfidLink.Router.Transmit

/-!
# From a queued command to bytes on the wire

A command goes into the outbound ring byte by byte, and the serial port may send bytes before any
of them.  What cannot be seen in the ring alone is seen in the **stream**: the bytes the wire has
taken so far, followed by the bytes that still wait in the ring.

* `Recorder` is a record of what the surroundings were told and given: the commands that were
  queued and the bytes the wire has taken.  It is kept beside the surroundings, and no operation
  can look at it.
* Sending moves bytes within the stream and never changes it (`Recorder.stream_transmit`).  What
  the wire has nothing to do with, sending leaves alone altogether (`Board.Spares`).
* **`Recorder.stream_enqueueAll`**: if a frame fits, all of it comes at the end of the stream,
  however often the serial port interrupts.  The ring is never full in the middle of a frame,
  because interrupts only make room.
* `sendTo_cases` lists the four ways a request to queue a command can end.
-/

namespace RfidLink

variable {ε : Type} {board : Board ε}

/-! ## The ring and the serial port -/

lemma Line.room_transmit (accepted : Nat) (line : Line) :
    line.room ≤ (line.transmit accepted).2.room := by
  simp only [room, transmit, List.length_drop]
  omega

lemma Line.room_enqueue (byte : UInt8) (line : Line) :
    line.room ≤ (line.enqueue byte).room + 1 := by
  by_cases h : line.room = 0
  · omega
  · have hroom : 0 < line.room := by omega
    have hout := outbound_enqueue byte hroom
    simp only [room, hout, List.length_append, List.length_singleton]
    omega

lemma Line.inbound_enqueue (byte : UInt8) (line : Line) :
    (line.enqueue byte).inbound = line.inbound := by
  simp only [enqueue]
  split <;> rfl

namespace Station

@[simp] lemma router_transmit (s : Station ε) : (s.transmit board).2.router = s.router := rfl

@[simp] lemma inbound_transmit (s : Station ε) :
    (s.transmit board).2.line.inbound = s.line.inbound := rfl

variable (board) in
lemma room_transmit (s : Station ε) : s.line.room ≤ (s.transmit board).2.line.room :=
  Line.room_transmit _ _

@[simp] lemma router_transmitTimes (times : Nat) (s : Station ε) :
    (s.transmitTimes board times).router = s.router := by
  induction times generalizing s with
  | zero => rfl
  | succ times ih => rw [transmitTimes, ih, router_transmit]

@[simp] lemma inbound_transmitTimes (times : Nat) (s : Station ε) :
    (s.transmitTimes board times).line.inbound = s.line.inbound := by
  induction times generalizing s with
  | zero => rfl
  | succ times ih => rw [transmitTimes, ih, inbound_transmit]

variable (board) in
lemma room_transmitTimes (times : Nat) (s : Station ε) :
    s.line.room ≤ (s.transmitTimes board times).line.room := by
  induction times generalizing s with
  | zero => exact Nat.le_refl _
  | succ times ih => exact Nat.le_trans (room_transmit board s) (ih _)

@[simp] lemma router_interrupted (s : Station ε) : (s.interrupted board).router = s.router := by
  simp only [interrupted, router_transmitTimes]

@[simp] lemma inbound_interrupted (s : Station ε) :
    (s.interrupted board).line.inbound = s.line.inbound := by
  simp only [interrupted, inbound_transmitTimes]

variable (board) in
lemma room_interrupted (s : Station ε) : s.line.room ≤ (s.interrupted board).line.room :=
  room_transmitTimes board _ { s with surroundings := (board.interrupts s.surroundings).2 }

@[simp] lemma router_enqueueAll (frame : List UInt8) (s : Station ε) :
    (s.enqueueAll board frame).router = s.router := by
  induction frame generalizing s with
  | nil => rfl
  | cons byte rest ih => rw [enqueueAll, ih, router_interrupted]

@[simp] lemma inbound_enqueueAll (frame : List UInt8) (s : Station ε) :
    (s.enqueueAll board frame).line.inbound = s.line.inbound := by
  induction frame generalizing s with
  | nil => rfl
  | cons byte rest ih => rw [enqueueAll, ih, Line.inbound_enqueue, inbound_interrupted]

/-! ## The four ways a request to queue a command can end -/

/-- What is counted for a frame that found no room. -/
def refuse (frame : List UInt8) (s : Station ε) : Station ε :=
  s.count fun c => { c with bytesRefused := c.bytesRefused + UInt32.ofNat frame.length }

variable (board) in
/-- A request to queue a command fails in one of three ways, or the frame fits and is queued. -/
lemma sendTo_cases (address : UInt8) (command : Command) (s : Station ε) :
    (s.router.running = false ∧ s.sendTo board address command = (.error .notRunning, s)) ∨
    (∃ cause, s.router.running = true ∧ command.encode address = .error cause ∧
      s.sendTo board address command = (.error (.badCommand cause), s)) ∨
    (∃ frame, s.router.running = true ∧ command.encode address = .ok frame ∧
      frame.length ≤ (s.interrupted board).line.room ∧
      s.sendTo board address command = (.ok frame.length,
        ((s.interrupted board).enqueueAll board frame).tell board (.queued command address))) ∨
    (∃ frame, s.router.running = true ∧ command.encode address = .ok frame ∧
      (s.interrupted board).line.room < frame.length ∧
      s.sendTo board address command = (.error (.noRoom 0 frame.length),
        ((s.interrupted board).refuse frame).tell board (.ringFull command address))) := by
  cases hrun : s.router.running with
  | false => exact Or.inl ⟨rfl, by simp [sendTo, hrun]⟩
  | true =>
      refine Or.inr ?_
      cases henc : command.encode address with
      | error cause => exact Or.inl ⟨cause, rfl, rfl, by simp [sendTo, hrun, henc]⟩
      | ok frame =>
          refine Or.inr ?_
          by_cases hroom : frame.length ≤ (s.interrupted board).line.room
          · exact Or.inl ⟨frame, rfl, rfl, hroom, by simp [sendTo, hrun, henc, hroom]⟩
          · exact Or.inr ⟨frame, rfl, rfl, by omega, by simp [sendTo, hrun, henc, hroom, refuse]⟩

variable (board) in
/-- **What a request to queue a command does to the router**: refused bytes are counted. -/
lemma router_sendTo (address : UInt8) (command : Command) (s : Station ε) :
    ∃ bytesRefused, (s.sendTo board address command).2.router =
      { s.router with counters := { s.router.counters with bytesRefused } } := by
  obtain ⟨-, h⟩ | ⟨_, -, -, h⟩ | ⟨frame, -, -, -, h⟩ | ⟨frame, -, -, -, h⟩ :=
    sendTo_cases board address command s
  · exact ⟨s.router.counters.bytesRefused, by rw [h]⟩
  · exact ⟨s.router.counters.bytesRefused, by rw [h]⟩
  · refine ⟨s.router.counters.bytesRefused, ?_⟩
    rw [h]
    show ((s.interrupted board).enqueueAll board frame).router = _
    rw [router_enqueueAll, router_interrupted]
  · refine ⟨s.router.counters.bytesRefused + UInt32.ofNat frame.length, ?_⟩
    rw [h]
    show ((s.interrupted board).refuse frame).router = _
    rw [refuse, count, onRouter, router_interrupted]
    rfl

variable (board) in
/-- The way out has nothing to do with the inbound ring. -/
lemma inbound_sendTo (address : UInt8) (command : Command) (s : Station ε) :
    (s.sendTo board address command).2.line.inbound = s.line.inbound := by
  obtain ⟨-, h⟩ | ⟨_, -, -, h⟩ | ⟨frame, -, -, -, h⟩ | ⟨frame, -, -, -, h⟩ :=
    sendTo_cases board address command s
  · rw [h]
  · rw [h]
  · rw [h]
    show ((s.interrupted board).enqueueAll board frame).line.inbound = _
    rw [inbound_enqueueAll, inbound_interrupted]
  · rw [h]
    exact inbound_interrupted s

/-- If a command is queued, router and inbound ring are as before. -/
lemma sendTo_ok {address : UInt8} {command : Command} {size : Nat} {s t : Station ε}
    (h : s.sendTo board address command = (.ok size, t)) :
    t.router = s.router ∧ t.line.inbound = s.line.inbound := by
  obtain ⟨-, hcase⟩ | ⟨_, -, -, hcase⟩ | ⟨frame, -, -, -, hcase⟩ | ⟨_, -, -, -, hcase⟩ :=
    sendTo_cases board address command s
  · cases hcase.symm.trans h
  · cases hcase.symm.trans h
  · refine ⟨?_, ?_⟩
    · obtain ⟨-, rfl⟩ := Prod.mk.inj (hcase.symm.trans h)
      show ((s.interrupted board).enqueueAll board frame).router = _
      rw [router_enqueueAll, router_interrupted]
    · rw [← inbound_sendTo board address command s, h]
  · cases hcase.symm.trans h

end Station

/-! ## What the way out leaves alone -/

/-- A part of the surroundings that neither the wire nor the serial port has to do with. -/
structure Board.Spares {α : Type} (board : Board ε) (part : ε → α) : Prop where
  emit : ∀ byte e, part (board.emit byte e).2 = part e
  interrupts : ∀ e, part (board.interrupts e).2 = part e

namespace Board.Spares

variable {α : Type} {part : ε → α} (h : board.Spares part)

include h

lemma emitAll (bytes : List UInt8) (e : ε) :
    part (Station.emitAll board bytes e).2 = part e := by
  induction bytes generalizing e with
  | nil => rfl
  | cons byte rest ih =>
      have hstep := h.emit byte e
      rw [Station.emitAll]
      split <;> rename_i e' heq <;> rw [heq] at hstep
      · exact hstep
      · exact (ih e').trans hstep

lemma transmit (s : Station ε) : part (s.transmit board).2.surroundings = part s.surroundings :=
  h.emitAll _ _

lemma transmitTimes (times : Nat) (s : Station ε) :
    part (s.transmitTimes board times).surroundings = part s.surroundings := by
  induction times generalizing s with
  | zero => rfl
  | succ times ih => rw [Station.transmitTimes, ih, h.transmit]

lemma interrupted (s : Station ε) :
    part (s.interrupted board).surroundings = part s.surroundings := by
  rw [Station.interrupted, h.transmitTimes]
  exact h.interrupts _

lemma enqueueAll (frame : List UInt8) (s : Station ε) :
    part (s.enqueueAll board frame).surroundings = part s.surroundings := by
  induction frame generalizing s with
  | nil => rfl
  | cons byte rest ih => rw [Station.enqueueAll, ih, h.interrupted]

end Board.Spares

/-! ## The record -/

/-- A command that was queued, with the address it was queued for. -/
structure Call where
  address : UInt8
  command : Command
deriving DecidableEq

/-- The frame that a queued command has become. -/
def Call.HasFrame (call : Call) (frame : List UInt8) : Prop :=
  call.command.encode call.address = .ok frame

/-- The queued command that a remark is about. -/
def Remark.call? : Remark → Option Call
  | .queued command address => some { address, command }
  | _ => none

/--
  A record of the commands that were queued and of the bytes that the wire has taken, kept in the
  surroundings of a station.
-/
structure Recorder (board : Board ε) where
  calls : ε → List Call
  wire : ε → List UInt8
  calls_write : ∀ remark e, calls (board.write remark e) = calls e ++ remark.call?.toList
  wire_write : ∀ remark e, wire (board.write remark e) = wire e
  calls_emit : ∀ byte e, calls (board.emit byte e).2 = calls e
  wire_emit : ∀ byte e, wire (board.emit byte e).2 =
    wire e ++ if (board.emit byte e).1 then [byte] else []
  calls_interrupts : ∀ e, calls (board.interrupts e).2 = calls e
  wire_interrupts : ∀ e, wire (board.interrupts e).2 = wire e

namespace Recorder

variable (record : Recorder board)

/-- A change of the surroundings that leaves the record alone. -/
def Untouched (e e' : ε) : Prop := record.calls e' = record.calls e ∧ record.wire e' = record.wire e

/-- The bytes that the wire has taken, followed by those that still wait. -/
def stream (s : Station ε) : List UInt8 := record.wire s.surroundings ++ s.line.outbound

/-- The wire and the serial port queue no commands. -/
lemma spares_calls : board.Spares record.calls := ⟨record.calls_emit, record.calls_interrupts⟩

lemma wire_emitAll (bytes : List UInt8) (e : ε) :
    record.wire (Station.emitAll board bytes e).2 =
      record.wire e ++ bytes.take (Station.emitAll board bytes e).1 := by
  induction bytes generalizing e with
  | nil => simp [Station.emitAll]
  | cons byte rest ih =>
      have hstep := record.wire_emit byte e
      rw [Station.emitAll]
      split <;> rename_i e' heq <;> rw [heq] at hstep
      · simpa using hstep
      · show record.wire (Station.emitAll board rest e').2 =
          record.wire e ++ byte :: rest.take (Station.emitAll board rest e').1
        rw [ih e', hstep]
        simp

/-- Sending moves bytes from the ring to the wire and changes nothing else. -/
lemma stream_transmit (s : Station ε) : record.stream (s.transmit board).2 = record.stream s := by
  show record.wire (Station.emitAll board s.line.outbound s.surroundings).2 ++
    s.line.outbound.drop (Station.emitAll board s.line.outbound s.surroundings).1 = _
  rw [wire_emitAll, List.append_assoc, List.take_append_drop]
  rfl

lemma stream_transmitTimes (times : Nat) (s : Station ε) :
    record.stream (s.transmitTimes board times) = record.stream s := by
  induction times generalizing s with
  | zero => rfl
  | succ times ih => rw [Station.transmitTimes, ih, record.stream_transmit]

lemma stream_interrupted (s : Station ε) :
    record.stream (s.interrupted board) = record.stream s := by
  rw [Station.interrupted, record.stream_transmitTimes]
  simp only [stream, record.wire_interrupts]

/-- **A frame that fits goes to the end of the stream as a whole**, whatever interrupts come. -/
lemma stream_enqueueAll {frame : List UInt8} {s : Station ε} (hroom : frame.length ≤ s.line.room) :
    record.stream (s.enqueueAll board frame) = record.stream s ++ frame := by
  induction frame generalizing s with
  | nil => simp [Station.enqueueAll]
  | cons byte rest ih =>
      rw [List.length_cons] at hroom
      have hinterrupts := Station.room_interrupted board s
      have henqueue := Line.room_enqueue byte (s.interrupted board).line
      have hrest : rest.length ≤ ((s.interrupted board).line.enqueue byte).room := by omega
      rw [Station.enqueueAll, ih hrest]
      have hfree : 0 < (s.interrupted board).line.room := by omega
      have hstep : record.stream
          { s.interrupted board with line := (s.interrupted board).line.enqueue byte } =
          record.stream (s.interrupted board) ++ [byte] := by
        simp only [stream, Line.outbound_enqueue byte hfree, List.append_assoc]
      rw [hstep, record.stream_interrupted]
      simp

end Recorder

end RfidLink
