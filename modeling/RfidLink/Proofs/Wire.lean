import RfidLink.Proofs.Tasks

/-!
# What reaches the wire

Commands are queued from many places: by the user, by a handshake, by a round that is due, by a
callback in the middle of any of these.  The wire takes their bytes whenever it likes, and a
change of mode empties one of the two rings in between.

* `Recorder.Grows` says how the stream may change: commands are queued, each puts its frame at the
  end of the stream, and nothing else happens to it.
* `Station.Move.grows` is the step: no kind of move does more than that.
* **`stream_eq_frames_of_calls`** is the run.  Whatever is done in whatever order, the bytes the
  wire has taken and those that wait are the frames of the queued commands in the order of the
  calls: none is lost, cut, doubled or mixed with another.

The theorem also says what a single request to queue a command does.  If it succeeds it is
recorded, and if it fails nothing happens but a count of the bytes that found no room.
-/

namespace RfidLink

variable {ε : Type} {board : Board ε}

namespace Recorder

/-! ## How the stream may change -/

section

variable (record : Recorder board)

/-- Neither the record nor the stream changes. -/
def Unchanged (s t : Station ε) : Prop :=
  record.calls t.surroundings = record.calls s.surroundings ∧ record.stream t = record.stream s

/-- Whatever has happened, nothing was done to the router, and no command was queued. -/
def Outside (s t : Station ε) : Prop :=
  t.router = s.router ∧ record.calls t.surroundings = record.calls s.surroundings

/-- Commands are queued, and the stream grows by their frames in the order of the calls. -/
def Grows (s t : Station ε) : Prop :=
  ∃ (calls : List Call) (frames : List (List UInt8)),
    record.calls t.surroundings = record.calls s.surroundings ++ calls ∧
      List.Forall₂ Call.HasFrame calls frames ∧
      record.stream t = record.stream s ++ frames.flatten

/-- The same record, for a board that differs in nothing but its callbacks. -/
def onto {other : Board ε} (h : other.SameDevices board) : Recorder other where
  calls := record.calls
  wire := record.wire
  calls_write := by rw [h.write]; exact record.calls_write
  wire_write := by rw [h.write]; exact record.wire_write
  calls_emit := by rw [h.emit]; exact record.calls_emit
  wire_emit := by rw [h.emit]; exact record.wire_emit
  calls_interrupts := by rw [h.interrupts]; exact record.calls_interrupts
  wire_interrupts := by rw [h.interrupts]; exact record.wire_interrupts

end

variable {record : Recorder board} {s t u : Station ε}

lemma Unchanged.trans (hst : record.Unchanged s t) (htu : record.Unchanged t u) :
    record.Unchanged s u :=
  ⟨htu.1.trans hst.1, htu.2.trans hst.2⟩

lemma Unchanged.grows (h : record.Unchanged s t) : record.Grows s t :=
  ⟨[], [], by rw [h.1, List.append_nil], .nil, by rw [h.2, List.flatten_nil, List.append_nil]⟩

lemma Grows.refl (s : Station ε) : record.Grows s s := Unchanged.grows ⟨rfl, rfl⟩

lemma Grows.trans (hst : record.Grows s t) (htu : record.Grows t u) : record.Grows s u := by
  obtain ⟨calls, frames, hcalls, hframes, hstream⟩ := hst
  obtain ⟨calls', frames', hcalls', hframes', hstream'⟩ := htu
  refine ⟨calls ++ calls', frames ++ frames', ?_, ?_, ?_⟩
  · rw [hcalls', hcalls, List.append_assoc]
  · exact List.rel_append hframes hframes'
  · rw [hstream', hstream, List.flatten_append, List.append_assoc]

/-! ## What does not change it -/

lemma unchanged_tell {remark : Remark} (h : remark.call? = none) (s : Station ε) :
    record.Unchanged s (s.tell board remark) := by
  constructor
  · show record.calls (board.write remark s.surroundings) = _
    rw [record.calls_write, h, Option.toList_none, List.append_nil]
  · show record.wire (board.write remark s.surroundings) ++ s.line.outbound = _
    rw [record.wire_write]
    rfl

/-- What stays inside the station changes neither record nor stream. -/
lemma unchanged_of_touches (h : s.Touches board t) : record.Unchanged s t := by
  induction h with
  | refl => exact ⟨rfl, rfl⟩
  | tail _ hstep ih =>
      cases hstep with
      | tell remark hremark => exact ih.trans (unchanged_tell hremark _)
      | note f => exact ⟨ih.1, ih.2⟩
      | receive line hline =>
          refine ⟨ih.1, ?_⟩
          simp only [stream, hline]
          exact ih.2

lemma unchanged_interrupted (s : Station ε) : record.Unchanged s (s.interrupted board) :=
  ⟨record.spares_calls.interrupted s, record.stream_interrupted s⟩

/-! ## Queueing a command -/

variable (record) in
/-- A command that is queued is recorded, and its frame is put at the end of the stream. -/
lemma sendTo_ok {address : UInt8} {command : Command} {size : Nat}
    (h : s.sendTo board address command = (.ok size, t)) :
    ∃ frame, command.encode address = .ok frame ∧ size = frame.length ∧
      record.calls t.surroundings = record.calls s.surroundings ++ [⟨address, command⟩] ∧
      record.stream t = record.stream s ++ frame ∧ t.router = s.router := by
  obtain ⟨-, hend⟩ | ⟨_, -, -, hend⟩ | ⟨frame, -, henc, hroom, hend⟩ | ⟨_, -, -, -, hend⟩ :=
    Station.sendTo_cases board address command s
  · rw [hend] at h; cases h
  · rw [hend] at h; cases h
  · rw [hend] at h
    cases h
    refine ⟨frame, henc, rfl, ?_, ?_, ?_⟩
    · show record.calls (board.write _ _) = _
      rw [record.calls_write, record.spares_calls.enqueueAll, record.spares_calls.interrupted]
      rfl
    · show record.wire (board.write _ _) ++ _ = _
      rw [record.wire_write, ← record.stream_interrupted s]
      exact record.stream_enqueueAll hroom
    · show ((s.interrupted board).enqueueAll board frame).router = _
      rw [Station.router_enqueueAll, Station.router_interrupted]
  · rw [hend] at h; cases h

variable (record) in
/-- A command that is refused changes nothing but a counter, and that only for want of room. -/
lemma sendTo_error {address : UInt8} {command : Command} {cause : OperationError}
    (h : s.sendTo board address command = (.error cause, t)) :
    record.Unchanged s t ∧
      (t = s ∨ ∃ frame, command.encode address = .ok frame ∧ cause = .noRoom 0 frame.length ∧
        t.line = (s.interrupted board).line ∧ t.router = s.router.count fun c =>
          { c with bytesRefused := c.bytesRefused + UInt32.ofNat frame.length }) := by
  obtain ⟨-, hend⟩ | ⟨_, -, -, hend⟩ | ⟨_, -, -, -, hend⟩ | ⟨frame, -, henc, -, hend⟩ :=
    Station.sendTo_cases board address command s
  · rw [hend] at h
    cases h
    exact ⟨⟨rfl, rfl⟩, .inl rfl⟩
  · rw [hend] at h
    cases h
    exact ⟨⟨rfl, rfl⟩, .inl rfl⟩
  · rw [hend] at h; cases h
  · rw [hend] at h
    cases h
    constructor
    · have hinterrupted : record.Unchanged s (s.interrupted board) := unchanged_interrupted s
      exact hinterrupted.trans (unchanged_of_touches
        ((Station.touches_onRouter _ _).trans (Station.touches_tell rfl _)))
    · refine .inr ⟨frame, henc, rfl, rfl, ?_⟩
      show ((s.interrupted board).refuse frame).router = _
      simp only [Station.refuse, Station.count, Station.onRouter, Station.router_interrupted]

lemma grows_sendTo (address : UInt8) (command : Command) (s : Station ε) :
    record.Grows s (s.sendTo board address command).2 := by
  rcases hend : s.sendTo board address command with ⟨cause | size, t⟩
  · exact (sendTo_error record hend).1.grows
  · obtain ⟨frame, henc, -, hcalls, hstream, -⟩ := sendTo_ok record hend
    exact ⟨[⟨address, command⟩], [frame], hcalls, .cons henc .nil, by simpa using hstream⟩

end Recorder

/-! ## One move -/

namespace Station

variable {record : Recorder board} {s₀ s t : Station ε}

lemma Touches.grows (h : s.Touches board t) (hs : record.Grows s₀ s) : record.Grows s₀ t :=
  hs.trans (Recorder.unchanged_of_touches h).grows

/-- Deeds only make the stream grow, if callbacks do. -/
lemma Deed.grows (hboard : board.CallbacksAre fun s t => record.Grows s₀ s → record.Grows s₀ t)
    (h : Deed board s t) (hs : record.Grows s₀ s) : record.Grows s₀ t := by
  cases h with
  | tell remark haside => exact (touches_tell (Remark.of_isAside haside).2.2 s).grows hs
  | note f _ => exact (touches_onRouter f s).grows hs
  | deliver text => exact hboard.deliver text s hs
  | notifyRead => exact hboard.notifyRead s hs
  | notifyError isOn => exact hboard.notifyError isOn s hs
  | sendTo address command => exact hs.trans (Recorder.grows_sendTo address command s)
  | reschedule f _ _ _ => exact (touches_onRouter _ s).grows hs
  | endInventory =>
      have hended : s.Touches board s.endSchedule := touches_onRouter Router.endSchedule s
      exact (touches_enterMode .idle _).grows (hended.grows hs)
  | endOnlyRound => exact (touches_endOnlyRound s).grows hs

/-- **What one move does to the stream.**  If callbacks only make it grow, so does every move. -/
theorem Move.grows (hboard : board.CallbacksAre fun s t => record.Grows s₀ s → record.Grows s₀ t)
    (h : Move board s t) (hs : record.Grows s₀ s) : record.Grows s₀ t := by
  cases h with
  | deed hdeed => exact hdeed.grows hboard hs
  | forget answers awaiting _ => exact (touches_onRouter _ s).grows hs
  | recount counters => exact (touches_onRouter _ s).grows hs
  | occupy busy => exact (touches_onRouter _ s).grows hs
  | flag line _ houtbound => exact Touches.grows (.single (.receive s line houtbound)) hs
  | reset => exact (touches_performReset s).grows hs
  | discard => exact (touches_discardAfterOverrun s).grows hs
  | search now _ _ => exact (touches_pullFrame now s).grows hs
  | take now frame router remark _ _ _ hremark =>
      have hpulled := (touches_pullFrame now s).grows hs
      have hnoted := (touches_onRouter (fun _ => router) _).grows hpulled
      exact (touches_tell (Remark.call?_of_frame? hremark) _).grows hnoted
  | transmit =>
      have hunchanged : record.Unchanged s (s.transmit board).2 :=
        ⟨record.spares_calls.transmit s, record.stream_transmit s⟩
      exact hs.trans hunchanged.grows
  | notifyRunning isOn => exact hboard.notifyRunning isOn s hs
  | wait ms => exact hboard.wait ms s hs
  | start => exact (touches_start s).grows hs
  | stop => exact (touches_stop s).grows hs
  | begin address command _ schedule _ _ =>
      have hentered := (touches_enterMode .inventory s).grows hs
      have hsent := hentered.trans (Recorder.grows_sendTo address command _)
      exact (touches_onRouter (fun r => { r with schedule }) _).grows hsent
  | beginRefused address command _ =>
      have hentered := (touches_enterMode .inventory s).grows hs
      have hsent := hentered.trans (Recorder.grows_sendTo address command _)
      exact (touches_enterMode .idle _).grows hsent
  | endSending address command =>
      have hended : s.Touches board s.endSchedule := touches_onRouter Router.endSchedule s
      have hreported := (touches_reportTotals _).grows (hended.grows hs)
      have hsent := hreported.trans (Recorder.grows_sendTo address command _)
      exact (touches_enterMode .idle _).grows hsent

/-- What one move does, any number of moves do. -/
lemma Moves.grows (hboard : board.CallbacksAre fun s t => record.Grows s₀ s → record.Grows s₀ t)
    (h : s.Moves board t) (hs : record.Grows s₀ s) : record.Grows s₀ t := by
  induction h with
  | refl => exact hs
  | tail _ hstep ih => exact hstep.grows hboard ih

/-- Bytes that arrive are none that leave. -/
lemma Course.grows (hboard : board.CallbacksAre fun s t => record.Grows s₀ s → record.Grows s₀ t)
    (h : s.Course board t) (hs : record.Grows s₀ s) : record.Grows s₀ t := by
  cases h with
  | moves hmoves => exact hmoves.grows hboard hs
  | arrival bytes => exact Touches.grows (.single (.receive s (s.line.receive bytes).2 rfl)) hs

end Station

/-! ## Whole runs -/

variable {record : Recorder board}

/-- Every operation makes the stream grow, also one that sets mode or schedule by hand. -/
lemma Operation.grows (record : Recorder board) {s₀ s : Station ε}
    (hboard : board.CallbacksAre fun s t => record.Grows s₀ s → record.Grows s₀ t)
    (operation : Operation) (hs : record.Grows s₀ s) :
    record.Grows s₀ (operation.run board s) := by
  cases hraw : operation.isRaw with
  | false => exact (Operation.moves hraw s).grows hboard hs
  | true =>
      cases operation with
      | enterMode mode =>
          exact hs.trans (Recorder.unchanged_of_touches (Station.touches_enterMode mode s)).grows
      | beginSchedule =>
          have hnoted := hs.trans (Recorder.unchanged_of_touches (Station.touches_onRouter (fun r =>
            { r with schedule := .opened s.router.config (s.now board) }) s)).grows
          exact (Station.moves_beginSchedule s).grows hboard hnoted
      | endSchedule =>
          exact hs.trans (Recorder.unchanged_of_touches
            (Station.touches_onRouter Router.endSchedule s)).grows
      | _ => cases hraw

/-- Every action makes the stream grow. -/
lemma Action.grows {s₀ : Station ε} {s : Session ε}
    (hboard : board.CallbacksAre fun s t => record.Grows s₀ s → record.Grows s₀ t)
    (action : Action) (hs : record.Grows s₀ s.station) :
    record.Grows s₀ (action.run board s).station := by
  cases action with
  | onRouter operation => exact operation.grows record hboard hs
  | _ => exact (Action.own_moves rfl rfl s).grows hboard hs

/-- A change of the surroundings that leaves the record alone leaves the stream alone. -/
lemma Recorder.Untouched.grows {s₀ s : Station ε} {e : ε} (h : record.Untouched s.surroundings e)
    (hs : record.Grows s₀ s) : record.Grows s₀ { s with surroundings := e } := by
  have hunchanged : record.Unchanged s { s with surroundings := e } := by
    refine ⟨h.1, ?_⟩
    show record.wire e ++ _ = _
    rw [h.2]
    rfl
  exact hs.trans hunchanged.grows

/-- Callbacks that do nothing but run operations make the stream grow, however they nest. -/
lemma Board.Nests.grows (h : board.Nests (fun _ => True) record.Untouched) (s₀ : Station ε) :
    board.CallbacksAre fun s t => record.Grows s₀ s → record.Grows s₀ t := by
  refine h.callbacks_keep (P := record.Grows s₀) ?_ ?_ (.refl board)
  · intro inner hinner hkeep operation _ s hs
    exact operation.grows (record.onto hinner) hkeep hs
  · intro s e he hs
    exact he.grows hs

/--
  **The wire gets the frames of the queued commands, in order and whole.**  Start from any session
  and let anything happen in any order: operations, actions, bytes that arrive, a wire that takes
  or refuses each byte it is offered, a serial port that interrupts wherever it likes, and
  callbacks that do any of this again.  Then the bytes taken and the bytes waiting have grown by
  the frames of the commands queued meanwhile.  A request to queue a command that succeeds is the
  last of these; one that fails leaves ring and record alone, and the router too, unless there was
  no room: then the size of the frame is counted.
-/
theorem stream_eq_frames_of_calls (hboard : board.Nests (fun _ => True) record.Untouched)
    {s t : Session ε} (hrun : s.Runs board (fun _ => True) record.Untouched t) :
    (∃ (calls : List Call) (frames : List (List UInt8)),
      record.calls t.station.surroundings = record.calls s.station.surroundings ++ calls ∧
        List.Forall₂ Call.HasFrame calls frames ∧
        record.wire t.station.surroundings ++ t.station.line.outbound =
          (record.wire s.station.surroundings ++ s.station.line.outbound) ++ frames.flatten) ∧
      (∀ (u v : Station ε) address command size, u.sendTo board address command = (.ok size, v) →
        ∃ frame, command.encode address = .ok frame ∧ size = frame.length ∧
          record.calls v.surroundings = record.calls u.surroundings ++ [⟨address, command⟩] ∧
          record.stream v = record.stream u ++ frame ∧ v.router = u.router) ∧
      (∀ (u v : Station ε) address command cause,
        u.sendTo board address command = (.error cause, v) →
        record.calls v.surroundings = record.calls u.surroundings ∧
          record.stream v = record.stream u ∧
          (v = u ∨ ∃ frame, command.encode address = .ok frame ∧
            cause = .noRoom 0 frame.length ∧ v.line = (u.interrupted board).line ∧
            v.router = u.router.count fun c =>
              { c with bytesRefused := c.bytesRefused + UInt32.ofNat frame.length })) := by
  refine ⟨?_, ?_, ?_⟩
  · have hgrows : record.Grows s.station t.station :=
      hrun.keep (P := record.Grows s.station)
        (fun action _ _ hs => action.grows (hboard.grows s.station) hs)
        (fun _ _ he hs => he.grows hs) (.refl s.station)
    exact hgrows
  · intro u v address command size hsent
    exact Recorder.sendTo_ok record hsent
  · intro u v address command cause hsent
    obtain ⟨⟨hcalls, hstream⟩, hend⟩ := Recorder.sendTo_error record hsent
    exact ⟨hcalls, hstream, hend⟩

/-! ## A slow wire -/

/-- A record kept by the surroundings, and the number of bytes the wire takes before it pauses. -/
structure Tape where
  calls : List Call
  wire : List UInt8
  credit : Nat
deriving DecidableEq

namespace Tape

/-- Take a byte if there is credit for it; a byte that is refused gives credit for three. -/
def emit (byte : UInt8) (tape : Tape) : Bool × Tape :=
  if tape.credit = 0 then (false, { tape with credit := 3 })
  else (true, { tape with wire := tape.wire ++ [byte], credit := tape.credit - 1 })

/--
  A board whose serial port interrupts before every byte and whose callbacks do nothing.  Time
  passes with the bytes that are sent.
-/
def calmBoard : Board Tape :=
  { Board.still 0 { rfPower := 0, address := 0, antenna := 0 } with
    now := fun tape => tape.wire.length
    write := fun remark tape => { tape with calls := tape.calls ++ remark.call?.toList }
    emit
    interrupts := fun tape => (1, tape) }

/-- The same board, but a command is queued while somebody waits. -/
def chattyBoard : Board Tape :=
  { calmBoard with wait := fun _ s => (s.send calmBoard .obtainGpioState).2 }

/-- What the tape holds is a record. -/
def recorder : Recorder chattyBoard where
  calls := Tape.calls
  wire := Tape.wire
  calls_write _ _ := rfl
  wire_write _ _ := rfl
  calls_emit byte tape := by
    show (emit byte tape).2.calls = tape.calls
    simp only [emit]
    split <;> rfl
  wire_emit byte tape := by
    show (emit byte tape).2.wire = tape.wire ++ if (emit byte tape).1 then [byte] else []
    simp only [emit]
    split
    · simp
    · simp
  calls_interrupts _ := rfl
  wire_interrupts _ := rfl

lemma nests_chattyBoard : chattyBoard.Nests (fun _ => True) recorder.Untouched := by
  have hcalm : calmBoard.Nests (fun _ => True) recorder.Untouched :=
    .of_idle (fun _ => ⟨rfl, rfl⟩)
      ⟨fun _ _ => rfl, fun _ => rfl, fun _ _ => rfl, fun _ _ => rfl, fun _ _ => rfl⟩
  refine .of_inner (fun _ => ⟨rfl, rfl⟩) hcalm ⟨rfl, rfl, rfl, rfl, rfl⟩ ⟨?_, ?_, ?_, ?_, ?_⟩
  · intro _ s
    exact .inl rfl
  · intro s
    exact .inl rfl
  · intro _ s
    exact .inl rfl
  · intro _ s
    exact .inl rfl
  · intro _ s
    exact .inr ⟨.send .obtainGpioState, trivial, rfl⟩

end Tape

/--
  Three commands on a slow wire, the last of them queued by a callback while the second waits for
  its answer: two frames and a part of the third have been taken, and one byte waits.
-/
theorem stream_eq_frames_of_calls_chatty :
    let start : Session Tape := .unconnected Tape.chattyBoard (.fresh .standard ⟨[], [], 0⟩)
    let actions : List Action := [.onRouter .start, .onRouter (.send .getTagCount),
      .onRouter (.ask 0 .measureTemperature 4)]
    let last := actions.foldl (fun s action => action.run Tape.chattyBoard s) start
    last.station.surroundings.calls.length = 3 ∧ last.station.surroundings.wire.length = 14 ∧
      last.station.line.outbound.length = 1 ∧
      ∃ (calls : List Call) (frames : List (List UInt8)),
        last.station.surroundings.calls = calls ∧ List.Forall₂ Call.HasFrame calls frames ∧
        last.station.surroundings.wire ++ last.station.line.outbound = frames.flatten := by
  intro start actions last
  refine ⟨by decide +kernel, by decide +kernel, by decide +kernel, ?_⟩
  obtain ⟨⟨calls, frames, hcalls, hframes, hstream⟩, -⟩ := stream_eq_frames_of_calls (t := last)
    Tape.nests_chattyBoard (Session.runs_foldl actions (fun _ _ => trivial) start)
  have hread (tape : Tape) : Tape.recorder.calls tape = tape.calls := rfl
  have hsent (tape : Tape) : Tape.recorder.wire tape = tape.wire := rfl
  have hstart : start.station.surroundings = ⟨[], [], 0⟩ ∧ start.station.line.outbound = [] :=
    ⟨rfl, rfl⟩
  rw [hread, hread, hstart.1, List.nil_append] at hcalls
  rw [hsent, hsent, hstart.1, hstart.2, List.nil_append, List.nil_append] at hstream
  exact ⟨calls, frames, hcalls, hframes, hstream⟩

end RfidLink
