import RfidLink.Proofs.Moves

/-!
# Time

The router reads the clock and never sets it.  Whether time goes on is therefore up to the board.
Some statements ask for little: nothing the board does sets the clock back.  Others ask for much:
nothing takes any time.

* `Board.Ticks R` says that the clock moves only as `R` allows while received bytes are processed.
  There is one lemma for each function of the router, and **`Board.Ticks.process`** is about the
  whole call.
* `Board.Forward` is what statements about deadlines need: time does not go back, and waiting moves
  it forward.  **`Station.Moves.now_le`**: on such a board no operation ends before it began.
-/

namespace RfidLink

variable {ε : Type} {board : Board ε} {R : Nat → Nat → Prop}

/--
  What happens outside of a station moves the clock as the preorder `R` allows.  Nothing is said of
  callbacks that are not run about a frame.
-/
structure Board.Ticks (R : Nat → Nat → Prop) (board : Board ε) : Prop where
  refl : ∀ n, R n n
  trans : ∀ {l m n}, R l m → R m n → R l n
  write : ∀ (remark : Remark) (e : ε), R (board.now e) (board.now (board.write remark e))
  emit : ∀ (byte : UInt8) (e : ε), R (board.now e) (board.now (board.emit byte e).2)
  interrupts : ∀ e : ε, R (board.now e) (board.now (board.interrupts e).2)
  deliver : ∀ (text : String) (s : Station ε), R (s.now board) ((board.deliver text s).2.now board)
  notifyRead : ∀ s : Station ε, R (s.now board) ((board.notifyRead s).now board)
  notifyError : ∀ (isOn : Bool) (s : Station ε),
    R (s.now board) ((board.notifyError isOn s).now board)

/-- Nothing sets the clock back, and waiting moves it forward. -/
structure Board.Forward (board : Board ε) : Prop where
  write : ∀ (remark : Remark) (e : ε), board.now e ≤ board.now (board.write remark e)
  emit : ∀ (byte : UInt8) (e : ε), board.now e ≤ board.now (board.emit byte e).2
  interrupts : ∀ e : ε, board.now e ≤ board.now (board.interrupts e).2
  deliver : ∀ (text : String) (s : Station ε), s.now board ≤ (board.deliver text s).2.now board
  notifyRead : ∀ s : Station ε, s.now board ≤ (board.notifyRead s).now board
  notifyError : ∀ (isOn : Bool) (s : Station ε), s.now board ≤ (board.notifyError isOn s).now board
  notifyRunning : ∀ (isOn : Bool) (s : Station ε),
    s.now board ≤ (board.notifyRunning isOn s).now board
  wait : ∀ (ms : Nat) (s : Station ε), s.now board < (board.wait ms s).now board

lemma Board.Forward.ticks (h : board.Forward) : board.Ticks (· ≤ ·) where
  refl := Nat.le_refl
  trans := Nat.le_trans
  write := h.write
  emit := h.emit
  interrupts := h.interrupts
  deliver := h.deliver
  notifyRead := h.notifyRead
  notifyError := h.notifyError

variable (board) in
/-- To look for an answer takes as long as to process what was received. -/
lemma Station.now_look (request : Request) (seen : UInt32) (s : Station ε) :
    (s.look board request seen).2.now board = (s.process board).2.now board := by
  simp only [Station.look]
  split
  · rfl
  · rfl

namespace Board.Ticks

open Station

variable {s t : Station ε} (h : board.Ticks R)

include h

lemma tell (remark : Remark) (s : Station ε) : R (s.now board) ((s.tell board remark).now board) :=
  h.write remark s.surroundings

/-- What stays inside the station takes no time, except for the remarks. -/
lemma touches (htouches : s.Touches board t) : R (s.now board) (t.now board) := by
  induction htouches with
  | refl => exact h.refl _
  | tail _ hstep ih =>
      cases hstep with
      | tell remark _ => exact h.trans ih (h.tell remark _)
      | note f => exact ih
      | receive line _ => exact ih

/-! ## The way out -/

lemma emitAll (bytes : List UInt8) (e : ε) :
    R (board.now e) (board.now (emitAll board bytes e).2) := by
  induction bytes generalizing e with
  | nil => exact h.refl _
  | cons byte rest ih =>
      have hstep := h.emit byte e
      rw [Station.emitAll]
      split <;> rename_i e' heq <;> rw [heq] at hstep
      · exact hstep
      · exact h.trans hstep (ih e')

lemma transmit (s : Station ε) : R (s.now board) ((s.transmit board).2.now board) := h.emitAll _ _

lemma transmitTimes (times : Nat) (s : Station ε) :
    R (s.now board) ((s.transmitTimes board times).now board) := by
  induction times generalizing s with
  | zero => exact h.refl _
  | succ times ih => exact h.trans (h.transmit s) (ih _)

lemma interrupted (s : Station ε) : R (s.now board) ((s.interrupted board).now board) := by
  have hasked : R (s.now board) (board.now (board.interrupts s.surroundings).2) :=
    h.interrupts s.surroundings
  exact h.trans hasked (h.transmitTimes (board.interrupts s.surroundings).1
    { s with surroundings := (board.interrupts s.surroundings).2 })

lemma enqueueAll (frame : List UInt8) (s : Station ε) :
    R (s.now board) ((s.enqueueAll board frame).now board) := by
  induction frame generalizing s with
  | nil => exact h.refl _
  | cons byte rest ih =>
      exact h.trans (h.interrupted s)
        (ih { s.interrupted board with line := (s.interrupted board).line.enqueue byte })

lemma sendTo (address : UInt8) (command : Command) (s : Station ε) :
    R (s.now board) ((s.sendTo board address command).2.now board) := by
  have hinterrupted := h.interrupted s
  obtain ⟨-, hend⟩ | ⟨_, -, -, hend⟩ | ⟨frame, -, -, -, hend⟩ | ⟨frame, -, -, -, hend⟩ :=
    sendTo_cases board address command s
  · rw [hend]
    exact h.refl _
  · rw [hend]
    exact h.refl _
  · rw [hend]
    have hqueued := h.trans hinterrupted (h.enqueueAll frame (s.interrupted board))
    exact h.trans hqueued (h.tell _ _)
  · rw [hend]
    exact h.trans hinterrupted (h.tell _ ((s.interrupted board).refuse frame))

/-! ## Processing -/

lemma deed (hdeed : Deed board s t) : R (s.now board) (t.now board) := by
  cases hdeed with
  | tell remark _ => exact h.tell remark s
  | note f _ => exact h.refl _
  | deliver text => exact h.deliver text s
  | notifyRead => exact h.notifyRead s
  | notifyError isOn => exact h.notifyError isOn s
  | sendTo address command => exact h.sendTo address command s
  | reschedule f _ _ _ => exact h.refl _
  | endInventory => exact h.touches (s := s.endSchedule) (touches_enterMode .idle _)
  | endOnlyRound => exact h.touches (touches_endOnlyRound s)

lemma deeds (hdeeds : s.Deeds board t) : R (s.now board) (t.now board) := by
  induction hdeeds with
  | refl => exact h.refl _
  | tail _ hdeed ih => exact h.trans ih (h.deed hdeed)

lemma acceptFrame (now : Nat) (frame : List UInt8) (s : Station ε) :
    R (s.now board) ((s.acceptFrame board now frame).now board) := by
  obtain ⟨router, remark, -, -, hdeeds⟩ := exists_registers board now frame s
  exact h.trans (h.tell remark (s.onRouter fun _ => router)) (h.deeds hdeeds)

lemma acceptFrames (now turns : Nat) (s : Station ε) :
    R (s.now board) ((s.acceptFrames board now turns).2.now board) := by
  induction turns generalizing s with
  | zero => exact h.refl _
  | succ turns ih =>
      have hpulled := h.touches (touches_pullFrame now s)
      rcases hpull : s.pullFrame board now with ⟨_ | frame, pulled⟩
      · rw [hpull] at hpulled
        simp only [Station.acceptFrames, hpull]
        exact hpulled
      · rw [hpull] at hpulled
        simp only [Station.acceptFrames, hpull]
        have hreset := h.touches (touches_performReset (pulled.acceptFrame board now frame))
        exact h.trans hpulled (h.trans (h.acceptFrame now frame pulled) (h.trans hreset (ih _)))

lemma processReceived (s : Station ε) :
    R (s.now board) ((s.processReceived board).2.now board) := by
  have hready := h.touches ((touches_discardAfterOverrun s).trans (touches_performReset _))
  exact h.trans hready (h.trans (h.acceptFrames _ _ _) (h.deeds (deeds_keepSchedule board _ _)))

/-- **A call to process received bytes** moves the clock no further than all that happens in it. -/
theorem process (s : Station ε) : R (s.now board) ((s.process board).2.now board) := by
  simp only [Station.process]
  split
  · exact h.refl _
  · split
    · exact h.refl _
    · exact h.processReceived (s.onRouter fun r => { r with busy := true })

lemma look (request : Request) (seen : UInt32) (s : Station ε) :
    R (s.now board) ((s.look board request seen).2.now board) := by
  rw [now_look]
  exact h.process s

end Board.Ticks

namespace Station

/-! ## Moves -/

/-- No move ends before it began. -/
lemma Move.now_le (h : board.Forward) {s t : Station ε} (hmove : Move board s t) :
    s.now board ≤ t.now board := by
  cases hmove with
  | deed hdeed => exact h.ticks.deed hdeed
  | forget answers awaiting _ => exact Nat.le_refl _
  | recount counters => exact Nat.le_refl _
  | occupy busy => exact Nat.le_refl _
  | flag line _ _ => exact Nat.le_refl _
  | reset => exact h.ticks.touches (touches_performReset s)
  | discard => exact h.ticks.touches (touches_discardAfterOverrun s)
  | search now _ _ => exact h.ticks.touches (touches_pullFrame now s)
  | take now frame router remark _ _ _ _ =>
      exact Nat.le_trans (h.ticks.touches (touches_pullFrame now s)) (h.ticks.tell remark _)
  | transmit => exact h.ticks.transmit s
  | notifyRunning isOn => exact h.notifyRunning isOn s
  | wait ms => exact Nat.le_of_lt (h.wait ms s)
  | start => exact h.ticks.touches (touches_start s)
  | stop => exact h.ticks.touches (touches_stop s)
  | begin address command _ _ _ _ =>
      exact Nat.le_trans (h.ticks.touches (touches_enterMode .inventory s))
        (h.ticks.sendTo address command _)
  | beginRefused address command _ =>
      have hsent := Nat.le_trans (h.ticks.touches (touches_enterMode .inventory s))
        (h.ticks.sendTo address command _)
      exact Nat.le_trans hsent (h.ticks.touches (touches_enterMode .idle _))
  | endSending address command =>
      have hsent := Nat.le_trans (h.ticks.touches (touches_reportTotals s.endSchedule))
        (h.ticks.sendTo address command _)
      exact Nat.le_trans hsent (h.ticks.touches (touches_enterMode .idle _))

/-- No sequence of moves ends before it began. -/
theorem Moves.now_le (h : board.Forward) {s t : Station ε} (hmoves : s.Moves board t) :
    s.now board ≤ t.now board := by
  induction hmoves with
  | refl => exact Nat.le_refl _
  | tail _ hmove ih => exact Nat.le_trans ih (hmove.now_le h)

end Station

end RfidLink
