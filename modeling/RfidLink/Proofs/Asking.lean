import RfidLink.Proofs.Clock
import RfidLink.Proofs.Dispatching

/-!
# Asking and being answered

`Station.ask` queues a command and processes received bytes until the answer is there or the time
is up.  Meanwhile anything may arrive: tags, damaged frames, answers to other requests.

* `Station.polls` are the stations at which a waiting call processes received bytes, and
  `Station.askPolls` those of a whole call.
* `Request.IsAnsweredBy` says which frames answer a request, and `Station.answersTo` are the answers
  in the frames that one poll acts on.
* `Station.Awaits` is what holds before each poll: somebody waits for the request, and no answer to
  it is in the queue.  `Awaits.look` is the step: a poll that acts on an answer takes one, and
  another poll leaves the same situation behind.
* **`ask_ok_iff_answered`** is the whole call: it succeeds exactly if one of its polls acts on an
  answer, with that answer, and else it times out.
-/

namespace RfidLink

variable {ε : Type} {board : Board ε}

/-! ## Frames that answer a request -/

/--
  A frame answers a request: its checksum is right, it can be read, the reader did not send it on
  its own, and command and address are those of the request.
-/
structure Request.IsAnsweredBy (request : Request) (frame : List UInt8) (answer : Answer) :
    Prop where
  valid : Checksum.isValid frame = true
  readable : ∃ response, Response.ofFrame frame = .ok response ∧
    response.head.command ≠ CommandCode.autoUpload ∧
    response.head.command = request.command ∧
    (request.address = broadcastAddress ∨ response.head.address = request.address) ∧
    answer.address = response.head.address ∧ answer.command = response.head.command ∧
    answer.status = response.head.status ∧ answer.payload.toList = responsePayload frame

/-- The answer to a request in a frame. -/
def Request.answerIn? (request : Request) (frame : List UInt8) : Option Answer :=
  (Answer.ofFrame? frame).filter (Answer.isFor request)

/-- A frame that can be read has the size it declares. -/
lemma length_of_ofFrame {frame : List UInt8} {response : Response}
    (h : Response.ofFrame frame = .ok response) : frame.length ≤ Frame.maxSize := by
  simp only [Response.ofFrame] at h
  split at h
  · cases h
  · split at h
    · cases h
    · split at h
      · cases h
      · rename_i head hhead
        match frame, hhead with
        | length :: address :: command :: status :: rest, hhead =>
            simp only [ResponseHead.ofFrame] at hhead
            split at hhead
            · cases hhead
            · split at hhead
              · cases hhead
              · rename_i hsize
                have hbyte := length.toNat_lt
                simp only [Frame.declaredSize, ne_eq, Decidable.not_not] at hsize
                simp only [List.length_cons, Frame.maxSize]
                omega

/-- The payload of a frame that can be read is kept as it is. -/
lemma payload_ofFrame {frame : List UInt8} {response : Response}
    (h : Response.ofFrame frame = .ok response) :
    ((BoundedBytes.ofList? (responsePayload frame)).getD .empty :
      BoundedBytes maxResponsePayload).toList = responsePayload frame := by
  have hframe := length_of_ofFrame h
  have hfits : (responsePayload frame).length ≤ maxResponsePayload := by
    simp only [responsePayload, List.length_drop, List.length_take, maxResponsePayload,
      Checksum.size, ResponseHead.size]
    simp only [Frame.maxSize] at hframe
    omega
  simp only [BoundedBytes.ofList?, hfits, dif_pos, Option.getD_some]

/-- The frames that answer a request are those in which an answer to it is found. -/
theorem Request.isAnsweredBy_iff {request : Request} {frame : List UInt8} {answer : Answer} :
    request.IsAnsweredBy frame answer ↔ request.answerIn? frame = some answer := by
  simp only [answerIn?, Option.filter_eq_some_iff]
  constructor
  · rintro ⟨hvalid, response, hread, hown, hcommand, haddress, ha, hc, hs, hp⟩
    constructor
    · simp only [Answer.ofFrame?, hvalid, if_true, hread, Station.answerOf, hown, if_false,
        Option.some.injEq]
      obtain ⟨address, command, status, payload⟩ := answer
      simp only at ha hc hs hp
      rw [Answer.mk.injEq]
      exact ⟨ha.symm, hc.symm, hs.symm, BoundedBytes.ext ((payload_ofFrame hread).trans hp.symm)⟩
    · simp only [Answer.isFor, ha, hc, hcommand, beq_self_eq_true, Bool.true_and, Bool.or_eq_true,
        beq_iff_eq]
      exact haddress
  · rintro ⟨hfound, hfor⟩
    simp only [Answer.ofFrame?] at hfound
    split at hfound
    · rename_i hvalid
      refine ⟨hvalid, ?_⟩
      split at hfound
      · cases hfound
      · rename_i response hread
        simp only [Station.answerOf] at hfound
        split at hfound
        · cases hfound
        · rename_i hown
          cases hfound
          simp only [Answer.isFor, Bool.and_eq_true, Bool.or_eq_true, beq_iff_eq] at hfor
          exact ⟨response, hread, hown, hfor.1, hfor.2, rfl, rfl, rfl, payload_ofFrame hread⟩
    · cases hfound

/-! ## What frames do to a desk at which somebody waits -/

namespace Desk

variable {request : Request} {d : Desk} {answers : List Answer}

lemma awaiting_accept (d : Desk) (frame : List UInt8) :
    (d.accept frame).awaiting = d.awaiting ∧ (d.accept frame).running = d.running ∧
      (d.accept frame).framesReceived = d.framesReceived + 1 := by
  simp only [accept]
  cases Answer.ofFrame? frame with
  | none => exact ⟨rfl, rfl, rfl⟩
  | some answer =>
      simp only [Option.elim_some, keep]
      split
      · exact ⟨rfl, rfl, rfl⟩
      · exact ⟨rfl, rfl, rfl⟩

lemma holds_keep (hawaiting : d.awaiting = some request)
    (h : Answer.Holds request d.answers answers) (answer : Answer) :
    Answer.Holds request (d.keep answer).answers
      (answers ++ [answer].filter (Answer.isFor request)) := by
  simp only [keep, hawaiting, Answer.isAwaited_some]
  split
  · rename_i hother
    simp only [Bool.and_eq_true, Bool.not_eq_true'] at hother
    have hnone : [answer].filter (Answer.isFor request) = [] := by simp [hother.2]
    rw [hnone, List.append_nil]
    exact h
  · exact h.push answer

/-- One frame: the queue holds the last of the answers, with the one in this frame. -/
lemma holds_accept (hawaiting : d.awaiting = some request)
    (h : Answer.Holds request d.answers answers) (frame : List UInt8) :
    Answer.Holds request (d.accept frame).answers
      (answers ++ (request.answerIn? frame).toList) := by
  simp only [accept, Request.answerIn?]
  cases Answer.ofFrame? frame with
  | none =>
      simp only [Option.filter_none, Option.toList_none, List.append_nil]
      exact h
  | some answer =>
      have hkept := holds_keep (d := { d with framesReceived := d.framesReceived + 1 }) hawaiting h
        answer
      have hsame : ((some answer).filter (Answer.isFor request)).toList =
          [answer].filter (Answer.isFor request) := by
        cases hfor : Answer.isFor request answer <;> simp [Option.filter, hfor]
      rw [hsame]
      exact hkept

/-- Any number of frames: the queue holds the last of the answers in them. -/
lemma holds_foldl (frames : List (List UInt8)) (hawaiting : d.awaiting = some request)
    (h : Answer.Holds request d.answers answers) :
    Answer.Holds request (frames.foldl accept d).answers
      (answers ++ frames.filterMap request.answerIn?) := by
  induction frames generalizing d answers with
  | nil => simpa using h
  | cons frame rest ih =>
      have hfirst := holds_accept hawaiting h frame
      have hrest := ih ((awaiting_accept d frame).1.trans hawaiting) hfirst
      rw [List.foldl_cons]
      cases hin : request.answerIn? frame <;> simpa [hin] using hrest

lemma awaiting_foldl (frames : List (List UInt8)) (d : Desk) :
    (frames.foldl accept d).awaiting = d.awaiting ∧ (frames.foldl accept d).running = d.running ∧
      (frames.foldl accept d).framesReceived = d.framesReceived + UInt32.ofNat frames.length := by
  induction frames generalizing d with
  | nil => exact ⟨rfl, rfl, by simp⟩
  | cons frame rest ih =>
      obtain ⟨hawaiting, hrunning, hcount⟩ := awaiting_accept d frame
      obtain ⟨hawaiting', hrunning', hcount'⟩ := ih (d.accept frame)
      refine ⟨hawaiting'.trans hawaiting, hrunning'.trans hrunning, ?_⟩
      rw [List.foldl_cons, hcount', hcount, List.length_cons, UInt32.add_assoc, UInt32.ofNat_add]
      congr 1
      exact UInt32.add_comm _ _

end Desk

/-! ## One poll -/

namespace Station

/-- The answers to a request in the frames that a call to process received bytes acts on. -/
def answersTo (board : Board ε) (request : Request) (s : Station ε) : List Answer :=
  (s.dispatched board).filterMap request.answerIn?

lemma mem_answersTo {request : Request} {s : Station ε} {answer : Answer} :
    answer ∈ s.answersTo board request ↔
      ∃ frame ∈ s.dispatched board, request.IsAnsweredBy frame answer := by
  simp only [answersTo, List.mem_filterMap, Request.isAnsweredBy_iff]

/-- Somebody waits for the answer to a request, and none is in the queue. -/
structure Awaits (request : Request) (s : Station ε) : Prop where
  running : s.router.running = true
  idle : s.router.busy = false
  awaiting : s.router.awaiting = some request
  unanswered : Answer.Holds request s.router.answers []
  ring : s.line.inbound.length ≤ Line.capacity

variable {request : Request} {s : Station ε}

lemma Awaits.process (hquiet : board.Quiet) (h : s.Awaits request) :
    (s.process board).2.router.running = true ∧ (s.process board).2.router.busy = false ∧
      (s.process board).2.router.awaiting = some request ∧
      (s.process board).2.line.inbound.length ≤ Line.capacity ∧
      Answer.Holds request (s.process board).2.router.answers (s.answersTo board request) := by
  obtain ⟨⟨hdesk, hinbound⟩, hbusy⟩ := process_desk hquiet h.running h.idle
  obtain ⟨hawaiting, hrunning, -⟩ := Desk.awaiting_foldl (s.dispatched board) s.router.desk
  have hholds := Desk.holds_foldl (d := s.router.desk) (s.dispatched board) h.awaiting h.unanswered
  rw [← hdesk] at hawaiting hrunning hholds
  have hring := h.ring
  exact ⟨hrunning.trans h.running, hbusy, hawaiting.trans h.awaiting, by omega, hholds⟩

/-- The count of frames tells whether any came in: there is room for too few to go round once. -/
lemma Awaits.count_eq_iff (hquiet : board.Quiet) (h : s.Awaits request) :
    (s.process board).2.router.counters.framesReceived = s.router.counters.framesReceived ↔
      s.dispatched board = [] := by
  obtain ⟨⟨hdesk, hinbound⟩, -⟩ := process_desk hquiet h.running h.idle
  have hcount := (Desk.awaiting_foldl (s.dispatched board) s.router.desk).2.2
  rw [← hdesk] at hcount
  have hring := h.ring
  have hfew : (s.dispatched board).length < UInt32.size := by
    simp only [Line.capacity, UInt32.size] at hring ⊢
    omega
  show (s.process board).2.router.desk.framesReceived = s.router.desk.framesReceived ↔ _
  rw [hcount]
  constructor
  · intro hsame
    have hzero : UInt32.ofNat (s.dispatched board).length = 0 := UInt32.add_eq_left.mp hsame
    have hnat := congrArg UInt32.toNat hzero
    rw [UInt32.toNat_ofNat_of_lt' hfew] at hnat
    exact List.eq_nil_of_length_eq_zero hnat
  · intro hnone
    rw [hnone]
    simp

/-- **What one poll does.**  It takes an answer it has acted on, or leaves everything as it was. -/
theorem Awaits.look (hquiet : board.Quiet) (h : s.Awaits request) :
    (∃ answer, (s.look board request s.router.counters.framesReceived).1 = some answer ∧
      answer ∈ s.answersTo board request ∧ ((s.answersTo board request).length ≤ 3 →
        (s.answersTo board request).head? = some answer)) ∨
    ((s.look board request s.router.counters.framesReceived).1 = none ∧
      s.answersTo board request = [] ∧
      (s.look board request s.router.counters.framesReceived).2 = (s.process board).2 ∧
      (s.process board).2.Awaits request) := by
  obtain ⟨hrunning, hbusy, hawaiting, hring, hholds⟩ := h.process hquiet
  by_cases hcount : (s.process board).2.router.counters.framesReceived =
      s.router.counters.framesReceived
  · have hnone : s.answersTo board request = [] := by
      rw [answersTo, (h.count_eq_iff hquiet).mp hcount, List.filterMap_nil]
    rw [hnone] at hholds
    refine .inr ⟨?_, hnone, ?_, ⟨hrunning, hbusy, hawaiting, hholds, hring⟩⟩
    · simp only [Station.look, hcount, if_true]
    · simp only [Station.look, hcount, if_true]
  · by_cases hanswers : s.answersTo board request = []
    · rw [hanswers] at hholds
      refine .inr ⟨?_, hanswers, ?_, ⟨hrunning, hbusy, hawaiting, hholds, hring⟩⟩
      · simp only [Station.look, hcount, if_false, takeAnswer, hholds.take_nil]
      · simp only [Station.look, hcount, if_false, takeAnswer, hholds.take_nil]
        rfl
    · obtain ⟨answer, htake, hmem, hfirst⟩ := hholds.take hanswers
      refine .inl ⟨answer, ?_, hmem, hfirst⟩
      simp only [Station.look, hcount, if_false, takeAnswer, htake]

/-- Waiting changes nothing for whoever waits. -/
lemma Awaits.wait (hquiet : board.Quiet) (h : s.Awaits request) (pause : Nat) :
    (board.wait pause s).Awaits request := by
  have hrouter := hquiet.wait_router pause s
  constructor
  · rw [hrouter]; exact h.running
  · rw [hrouter]; exact h.idle
  · rw [hrouter]; exact h.awaiting
  · rw [hrouter]; exact h.unanswered
  · exact (hquiet.wait_line pause s).length_inbound h.ring

/-! ## Waiting -/

/-- The stations at which a waiting call processes received bytes, in their order. -/
def polls (board : Board ε) (request : Request) (deadline pause : Nat) :
    Nat → UInt32 → Station ε → List (Station ε)
  | 0, _, _ => []
  | turns + 1, seen, s =>
    s :: match s.look board request seen with
      | (some _, _) => []
      | (none, t) =>
        if deadline ≤ t.now board then []
        else polls board request deadline pause turns t.router.counters.framesReceived
          (board.wait pause t)

/-- What a waiting call comes to: the answer of the last poll, or a timeout without any answer. -/
def IsOutcome (board : Board ε) (request : Request) (polls : List (Station ε)) :
    Except OperationError Answer → Prop
  | .ok answer => ∃ before u, polls = before ++ [u] ∧
      (∀ v ∈ before, v.answersTo board request = []) ∧ answer ∈ u.answersTo board request ∧
      ((u.answersTo board request).length ≤ 3 → (u.answersTo board request).head? = some answer)
  | .error cause => cause = .timeout request.command ∧
      ∀ v ∈ polls, v.answersTo board request = []

lemma IsOutcome.cons {polls : List (Station ε)} {result : Except OperationError Answer}
    (hs : s.answersTo board request = []) (h : IsOutcome board request polls result) :
    IsOutcome board request (s :: polls) result := by
  cases result with
  | ok answer =>
      obtain ⟨before, u, rfl, hbefore, hanswer⟩ := h
      refine ⟨s :: before, u, rfl, ?_, hanswer⟩
      intro v hv
      rcases List.mem_cons.mp hv with rfl | hv
      · exact hs
      · exact hbefore v hv
  | error cause =>
      obtain ⟨hcause, hnone⟩ := h
      refine ⟨hcause, ?_⟩
      intro v hv
      rcases List.mem_cons.mp hv with rfl | hv
      · exact hs
      · exact hnone v hv

/-- **A waiting call** takes the first answer that a poll acts on, or times out. -/
theorem Awaits.waitUntil (hquiet : board.Quiet) (deadline pause turns : Nat)
    (h : s.Awaits request) :
    IsOutcome board request
      (s.polls board request deadline pause turns s.router.counters.framesReceived)
      (s.waitUntil board request deadline pause turns s.router.counters.framesReceived).1 := by
  induction turns generalizing s with
  | zero =>
      refine ⟨rfl, ?_⟩
      intro v hv
      cases hv
  | succ turns ih =>
      rcases hlook : s.look board request s.router.counters.framesReceived with ⟨_ | answer, t⟩
      · -- no answer yet: time may be up, or the call waits and looks again
        obtain ⟨_, hsome, _⟩ | ⟨-, hnone, hsame, hstill⟩ := h.look hquiet
        · rw [hlook] at hsome; cases hsome
        rw [hlook] at hsame
        cases hsame
        simp only [polls, Station.waitUntil, hlook]
        by_cases hlate : deadline ≤ (s.process board).2.now board
        · simp only [hlate, if_true]
          refine ⟨rfl, ?_⟩
          intro v hv
          rcases List.mem_singleton.mp hv with rfl
          exact hnone
        · simp only [hlate, if_false]
          have hrouter := hquiet.wait_router pause (s.process board).2
          have hlater := ih (hstill.wait hquiet pause)
          rw [hrouter] at hlater
          exact hlater.cons hnone
      · obtain ⟨answer', hsome, hmem, hfirst⟩ | ⟨hnone, -⟩ := h.look hquiet
        · rw [hlook] at hsome
          cases hsome
          simp only [polls, Station.waitUntil, hlook]
          refine ⟨[], s, rfl, ?_, hmem, hfirst⟩
          intro v hv
          cases hv
        · rw [hlook] at hnone; cases hnone

/-- If time goes on, a waiting call looks as often as it takes until the time is up. -/
lemma deadline_le_of_timeout (hforward : board.Forward) {deadline pause turns : Nat} {seen : UInt32}
    {s : Station ε} (hturns : deadline + 1 ≤ s.now board + turns)
    (hlate : ∀ answer, (s.waitUntil board request deadline pause turns seen).1 ≠ .ok answer)
    (hsome : 0 < turns) :
    ∃ u, (s.polls board request deadline pause turns seen).getLast? = some u ∧
      deadline ≤ (u.process board).2.now board := by
  induction turns generalizing s seen with
  | zero => exact absurd hsome (Nat.lt_irrefl 0)
  | succ turns ih =>
      have hnow := now_look board request seen s
      have hforth : s.now board ≤ (s.process board).2.now board := hforward.ticks.process s
      rcases hlook : s.look board request seen with ⟨_ | answer, t⟩
      · have htime : t.now board = (s.process board).2.now board := by
          rw [hlook] at hnow
          exact hnow
        by_cases hdone : deadline ≤ t.now board
        · refine ⟨s, ?_, ?_⟩
          · simp only [polls, hlook, hdone, if_true, List.getLast?_singleton]
          · rw [← htime]
            exact hdone
        · have hwaited : t.now board < (board.wait pause t).now board := hforward.wait pause t
          have hagain : (s.waitUntil board request deadline pause (turns + 1) seen).1 =
              ((board.wait pause t).waitUntil board request deadline pause turns
                t.router.counters.framesReceived).1 := by
            simp only [Station.waitUntil, hlook, hdone, if_false]
          rw [hagain] at hlate
          obtain ⟨u, hlast, hu⟩ := ih (s := board.wait pause t) (by omega) hlate (by omega)
          refine ⟨u, ?_, hu⟩
          simp only [polls, hlook, hdone, if_false]
          rw [List.getLast?_cons, hlast]
          rfl
      · refine absurd ?_ (hlate answer)
        simp only [Station.waitUntil, hlook]

/-! ## The whole call -/

/-- Somebody begins to wait: old answers to the request are discarded. -/
def expecting (request : Request) (s : Station ε) : Station ε :=
  s.onRouter fun r =>
    { r with answers := Answer.discard request r.answers, awaiting := some request }

/-- The stations at which `Station.ask` processes received bytes, in their order. -/
def askPolls (board : Board ε) (address : UInt8) (command : Command) (timeoutMs : UInt32)
    (s : Station ε) : List (Station ε) :=
  let request : Request := { address, command := command.code }
  match (s.expecting request).sendTo board address command with
  | (.error _, _) => []
  | (.ok _, t) =>
    t.polls board request (t.now board + timeoutMs.toNat) t.router.config.pollPauseMs
      (timeoutMs.toNat + 1 + board.patience) s.router.counters.framesReceived

variable (board) in
/-- A command that can be encoded and finds room is queued, and nothing inside changes. -/
lemma sendTo_of_room {address : UInt8} {command : Command} {frame : List UInt8} {s : Station ε}
    (hrunning : s.router.running = true) (hencode : command.encode address = .ok frame)
    (hroom : frame.length ≤ s.line.room) :
    ∃ t, s.sendTo board address command = (.ok frame.length, t) ∧ t.router = s.router ∧
      t.line.inbound = s.line.inbound := by
  have hmore := room_interrupted board s
  obtain ⟨hstopped, -⟩ | ⟨_, -, herror, -⟩ | ⟨frame', -, hencode', -, hsent⟩ |
    ⟨frame', -, hencode', hfull, -⟩ := sendTo_cases board address command s
  · rw [hrunning] at hstopped; cases hstopped
  · rw [hencode] at herror; cases herror
  · rw [hencode] at hencode'
    cases hencode'
    exact ⟨_, hsent, sendTo_ok hsent⟩
  · rw [hencode] at hencode'
    cases hencode'
    omega

lemma awaits_expecting (request : Request) {s : Station ε} (hrunning : s.router.running = true)
    (hidle : s.router.busy = false) (hring : s.line.inbound.length ≤ Line.capacity) :
    (s.expecting request).Awaits request :=
  ⟨hrunning, hidle, rfl, .discard request s.router.answers, hring⟩

/-- A station of which nothing but the way out has changed is as good to wait at. -/
lemma Awaits.of_router {t : Station ε} (h : s.Awaits request) (hrouter : t.router = s.router)
    (hinbound : t.line.inbound = s.line.inbound) : t.Awaits request := by
  constructor
  · rw [hrouter]; exact h.running
  · rw [hrouter]; exact h.idle
  · rw [hrouter]; exact h.awaiting
  · rw [hrouter]; exact h.unanswered
  · rw [hinbound]; exact h.ring

end Station

/--
  **A call succeeds exactly if it acts on an answer.**  Take any router that runs and is not busy,
  whatever it has received and queued, and a board whose callbacks leave it alone while bytes
  arrive and time passes.  Nobody is left waiting when the call returns.  If the command can be
  encoded and finds room, the call succeeds exactly if one of its polls acts on a frame that
  answers the request; then this is its last poll, no earlier one acted on an answer, and the call
  gives an answer in it, the first if the poll acted on at most three.  Otherwise the call times
  out, and if time goes on it does so only when its time is up.
-/
theorem ask_ok_iff_answered (hquiet : board.Quiet) {s : Station ε}
    (hrunning : s.router.running = true) (hidle : s.router.busy = false)
    (hring : s.line.inbound.length ≤ Line.capacity) (address : UInt8) (command : Command)
    (timeoutMs : UInt32) :
    let request : Request := { address, command := command.code }
    let polls := s.askPolls board address command timeoutMs
    let result := (s.ask board address command timeoutMs).1
    (s.ask board address command timeoutMs).2.router.awaiting = none ∧
      ∀ bytes, command.encode address = .ok bytes → bytes.length ≤ s.line.room →
        ((∃ answer, result = .ok answer) ↔
          ∃ u ∈ polls, ∃ frame ∈ u.dispatched board, ∃ answer, request.IsAnsweredBy frame answer) ∧
        (∀ answer, result = .ok answer → ∃ before u, polls = before ++ [u] ∧
          (∀ v ∈ before, v.answersTo board request = []) ∧
          (∃ frame ∈ u.dispatched board, request.IsAnsweredBy frame answer) ∧
          ((u.answersTo board request).length ≤ 3 →
            (u.answersTo board request).head? = some answer)) ∧
        ((∀ answer, result ≠ .ok answer) → result = .error (.timeout command.code)) ∧
        (board.Forward → (∀ answer, result ≠ .ok answer) →
          ∃ u, polls.getLast? = some u ∧
            ((s.expecting request).sendTo board address command).2.now board + timeoutMs.toNat ≤
              (u.process board).2.now board) := by
  intro request polls result
  refine ⟨rfl, ?_⟩
  intro bytes hencode hroom
  obtain ⟨t, hsent, hrouter, hinbound⟩ := Station.sendTo_of_room board
    (s := s.expecting request) hrunning hencode hroom
  have hawaits : t.Awaits request :=
    (Station.awaits_expecting request hrunning hidle hring).of_router hrouter hinbound
  have hseen : t.router.counters.framesReceived = s.router.counters.framesReceived := by
    rw [hrouter]
    rfl
  have hpolls : polls = t.polls board request (t.now board + timeoutMs.toNat)
      t.router.config.pollPauseMs (timeoutMs.toNat + 1 + board.patience)
      s.router.counters.framesReceived := by
    simp only [polls, Station.askPolls, request] at hsent ⊢
    rw [hsent]
  have hresult : result = (t.waitUntil board request (t.now board + timeoutMs.toNat)
      t.router.config.pollPauseMs (timeoutMs.toNat + 1 + board.patience)
      s.router.counters.framesReceived).1 := by
    have hask : result = ((s.expecting request).sendAndWait board address command timeoutMs).1 := rfl
    rw [hask, Station.sendAndWait, hsent]
    rfl
  have houtcome := hawaits.waitUntil hquiet (t.now board + timeoutMs.toNat)
    t.router.config.pollPauseMs (timeoutMs.toNat + 1 + board.patience)
  rw [hseen, ← hpolls, ← hresult] at houtcome
  refine ⟨?_, ?_, ?_, ?_⟩
  · constructor
    · rintro ⟨answer, hok⟩
      rw [hok] at houtcome
      obtain ⟨before, u, hlast, -, hmem, -⟩ := houtcome
      obtain ⟨frame, hframe, hanswered⟩ := Station.mem_answersTo.mp hmem
      refine ⟨u, ?_, frame, hframe, answer, hanswered⟩
      rw [hlast]
      exact List.mem_append_right before List.mem_cons_self
    · rintro ⟨u, hu, frame, hframe, answer, hanswered⟩
      cases hcases : result with
      | ok answer' => exact ⟨answer', rfl⟩
      | error cause =>
          rw [hcases] at houtcome
          have hmem := Station.mem_answersTo.mpr ⟨frame, hframe, hanswered⟩
          rw [houtcome.2 u hu] at hmem
          cases hmem
  · intro answer hok
    rw [hok] at houtcome
    obtain ⟨before, u, hlast, hbefore, hmem, hfirst⟩ := houtcome
    exact ⟨before, u, hlast, hbefore, Station.mem_answersTo.mp hmem, hfirst⟩
  · intro hnever
    cases hcases : result with
    | ok answer => exact absurd hcases (hnever answer)
    | error cause =>
        rw [hcases] at houtcome
        rw [houtcome.1]
  · intro hforward hnever
    rw [hpolls, hsent]
    refine Station.deadline_le_of_timeout hforward (by omega) ?_ (by omega)
    intro answer
    rw [← hresult]
    exact hnever answer

/-- A board on which the given bytes arrive, and time passes, whenever somebody waits. -/
def Board.arriving (bytes : List UInt8) : Board Nat :=
  { Board.still 0 { rfPower := 0, address := 0, antenna := 0 } with
    now := fun time => time
    wait := fun ms s => { s.receive bytes with surroundings := s.surroundings + ms } }

lemma Board.quiet_arriving (bytes : List UInt8) : (Board.arriving bytes).Quiet where
  deliver _ _ := ⟨rfl, rfl⟩
  notifyRead _ := ⟨rfl, rfl⟩
  notifyError _ _ := ⟨rfl, rfl⟩
  wait_router _ _ := rfl
  wait_line _ s := .receive bytes (.refl s.line)

/-- An old answer is passed over, and the one that arrives during the first wait is given. -/
theorem ask_ok_iff_answered_late :
    let board := Board.arriving (Frame.ofBody [0x00, 0x74, 0x00, 0x00, 0x05])
    let old : Answer := { address := 0, command := 0x74, status := .ofByte 0, payload := .empty }
    let s : Station Nat := (Station.fresh .standard 0).onRouter fun r =>
      { r with running := true, answers := [old] }
    ∃ answer, (s.ask board 0 .getTagCount 10).1 = .ok answer ∧ answer.payload.toList = [0, 5] ∧
      ∃ u ∈ s.askPolls board 0 .getTagCount 10, ∃ frame ∈ u.dispatched board,
        ({ address := 0, command := 0x74 } : Request).IsAnsweredBy frame answer := by
  intro board old s
  have hquiet : board.Quiet := Board.quiet_arriving _
  have hcall := ask_ok_iff_answered (s := s) hquiet rfl rfl (Nat.zero_le _) 0
    .getTagCount 10
  obtain ⟨-, hok, -⟩ := hcall.2 [0x04, 0x00, 0x74, 0xF1, 0x6F] (by decide +kernel)
    (by decide +kernel)
  have hpayload : ((s.ask board 0 .getTagCount 10).1.toOption.map fun answer =>
      answer.payload.toList) = some [0, 5] := by decide +kernel
  cases hcases : (s.ask board 0 .getTagCount 10).1 with
  | error cause =>
      rw [hcases] at hpayload
      cases hpayload
  | ok answer =>
      rw [hcases] at hpayload
      obtain ⟨before, u, hpolls, -, hanswered, -⟩ := hok answer hcases
      refine ⟨answer, rfl, Option.some.inj hpayload, u, ?_, hanswered⟩
      rw [hpolls]
      exact List.mem_append_right before List.mem_cons_self

end RfidLink
