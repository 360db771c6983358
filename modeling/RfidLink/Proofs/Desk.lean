import RfidLink.Proofs.AnswerQueue
import RfidLink.Proofs.Inside
import RfidLink.Router.Ask

/-!
# The desk

Whoever waits for an answer looks at a small part of the router: the queue of answers, the request
that is awaited, the count of received frames and the running flag.  This part is the **desk**.

* `Board.Quiet` says that the callbacks of a board call no operation of the router; while somebody
  waits, bytes may arrive and leave.
* `Desk.accept` is what one frame does to the desk: it is counted, and the answer in it is kept.
-/

namespace RfidLink

variable {ε : Type} {board : Board ε}

/-! ## Quiet boards -/

/-- Nothing but the surroundings has changed. -/
structure Station.Around (s t : Station ε) : Prop where
  router : t.router = s.router
  line : t.line = s.line

/-- Bytes have arrived and bytes have been sent. -/
inductive Line.Served : Line → Line → Prop
  | refl (line : Line) : Served line line
  | receive {line line' : Line} (bytes : List UInt8) (h : Served line line') :
      Served line (line'.receive bytes).2
  | transmit {line line' : Line} (accepted : Nat) (h : Served line line') :
      Served line (line'.transmit accepted).2

/-- The callbacks of a board call no operation of the router. -/
structure Board.Quiet (board : Board ε) : Prop where
  deliver : ∀ (text : String) (s : Station ε), s.Around (board.deliver text s).2
  notifyRead : ∀ s : Station ε, s.Around (board.notifyRead s)
  notifyError : ∀ (isOn : Bool) (s : Station ε), s.Around (board.notifyError isOn s)
  wait_router : ∀ (ms : Nat) (s : Station ε), (board.wait ms s).router = s.router
  wait_line : ∀ (ms : Nat) (s : Station ε), s.line.Served (board.wait ms s).line

lemma Board.quiet_still (now : Nat) (settings : ReaderSettings) :
    (Board.still now settings : Board ε).Quiet where
  deliver _ _ := ⟨rfl, rfl⟩
  notifyRead _ := ⟨rfl, rfl⟩
  notifyError _ _ := ⟨rfl, rfl⟩
  wait_router _ _ := rfl
  wait_line _ s := .refl s.line

/-- Bytes that fit are all kept. -/
lemma Line.receive_eq (line : Line) {bytes : List UInt8}
    (h : line.inbound.length + bytes.length ≤ capacity) : (line.receive bytes).2 =
      { line with
        inbound := line.inbound ++ bytes
        bytesReceived := line.bytesReceived + UInt32.ofNat bytes.length } := by
  have hall : bytes.take (capacity - line.inbound.length) = bytes :=
    List.take_of_length_le (by omega)
  simp [receive, hall]

lemma Line.length_inbound_receive {line : Line} (h : line.inbound.length ≤ capacity)
    (bytes : List UInt8) : (line.receive bytes).2.inbound.length ≤ capacity := by
  show (line.inbound ++ bytes.take (capacity - line.inbound.length)).length ≤ capacity
  rw [List.length_append, List.length_take]
  omega

/-- A ring never holds more than its capacity. -/
lemma Line.Served.length_inbound {line line' : Line} (h : line.Served line')
    (hline : line.inbound.length ≤ capacity) : line'.inbound.length ≤ capacity := by
  induction h with
  | refl => exact hline
  | receive bytes _ ih => exact length_inbound_receive ih bytes
  | transmit accepted _ ih => exact ih

/-! ## The desk -/

/-- What somebody who waits for an answer looks at. -/
structure Desk where
  answers : List Answer
  awaiting : Option Request
  framesReceived : UInt32
  running : Bool

/-- The desk of a router. -/
def Router.desk (r : Router) : Desk :=
  { answers := r.answers, awaiting := r.awaiting, framesReceived := r.counters.framesReceived,
    running := r.running }

/-- The answer that a frame carries: a valid, readable one the reader did not send by itself. -/
def Answer.ofFrame? (frame : List UInt8) : Option Answer :=
  if Checksum.isValid frame then
    match Response.ofFrame frame with
    | .error _ => none
    | .ok response => Station.answerOf response.head (responsePayload frame)
  else none

namespace Desk

/-- Keep an answer, unless it belongs to an inventory round and nobody waits for it. -/
def keep (answer : Answer) (d : Desk) : Desk :=
  if CommandCode.isRound answer.command && !answer.isAwaited d.awaiting then d
  else { d with answers := Answer.push d.awaiting answer d.answers }

/-- Take a frame: count it, and keep the answer in it. -/
def accept (d : Desk) (frame : List UInt8) : Desk :=
  let d := { d with framesReceived := d.framesReceived + 1 }
  (Answer.ofFrame? frame).elim d d.keep

/-- No other answer gets to the desk than the one in the frame. -/
lemma answers_accept {d : Desk} {frame : List UInt8} {a : Answer}
    (h : a ∈ (d.accept frame).answers) : a ∈ d.answers ∨ Answer.ofFrame? frame = some a := by
  simp only [accept] at h
  cases hanswer : Answer.ofFrame? frame with
  | none =>
      rw [hanswer] at h
      exact .inl h
  | some answer =>
      simp only [hanswer, Option.elim_some, keep] at h
      split at h
      · exact .inl h
      · exact (Answer.mem_push h).imp_right fun hnew => congrArg some hnew.symm

end Desk

namespace Station

/-- Keeping an answer, if there is one, concerns nothing but the desk. -/
lemma exists_kept (answer? : Option Answer) (s : Station ε) :
    ∃ answers, answer?.elim s s.keepAnswer = s.onRouter (fun r => { r with answers }) ∧
      answer?.elim s.router.desk s.router.desk.keep = { s.router.desk with answers } := by
  cases answer? with
  | none => exact ⟨s.router.answers, rfl, rfl⟩
  | some answer =>
      simp only [Option.elim_some, keepAnswer, Desk.keep]
      split <;> rename_i h
      · exact ⟨s.router.answers, rfl, if_pos h⟩
      · exact ⟨Answer.push s.router.awaiting answer s.router.answers, rfl, if_neg h⟩

end Station

end RfidLink
