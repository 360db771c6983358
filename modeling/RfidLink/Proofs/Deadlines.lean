import RfidLink.Proofs.Asking
import RfidLink.Proofs.Feeding

/-!
# A call ends in time

Somebody who asks runs two loops, one inside the other: it looks for the answer again and again, and
each time it acts on received frames until none is left.  Both are written with a number of turns,
and have a result even if the turns are used up.  This file says that they never are.

* `ActsOn`, `Processes` and `Waits` describe the loops without turns: each of them is run until it
  ends by itself.
* The inner loop ends because every frame takes received bytes, and nobody adds any
  (`Board.AddsNoBytes`): `actsOn_acceptFrames`, and with it `processes_process`.
* The outer loop ends because a pause is at least a millisecond long (`Board.KeepsTime`):
  `waits_waitUntil` is the induction, on the number of pauses that are left before the deadline.
* When a call has ended can be told from `Waits` alone: not early (`Waits.deadline_le`), and no more
  than a pause late if nothing but pauses takes time (`Waits.now_lt`).

**`ask_ends_in_time`** is the whole call.
-/

namespace RfidLink

variable {ε : Type} {board : Board ε}

/-! ## Boards -/

/-- What runs while a frame is acted on adds no received bytes. -/
structure Board.AddsNoBytes (board : Board ε) : Prop where
  deliver : ∀ (text : String) (s : Station ε),
    (board.deliver text s).2.line.inbound.length ≤ s.line.inbound.length
  notifyRead : ∀ s : Station ε, (board.notifyRead s).line.inbound.length ≤ s.line.inbound.length
  notifyError : ∀ (isOn : Bool) (s : Station ε),
    (board.notifyError isOn s).line.inbound.length ≤ s.line.inbound.length

/-- Callbacks that call no operation of the router add no bytes. -/
lemma Board.Quiet.addsNoBytes (h : board.Quiet) : board.AddsNoBytes where
  deliver text s := (h.deliver text s).leaves.inbound
  notifyRead s := (h.notifyRead s).leaves.inbound
  notifyError isOn s := (h.notifyError isOn s).leaves.inbound

/-- Time does not go back, and a pause is no shorter than asked for. -/
structure Board.KeepsTime (board : Board ε) : Prop where
  ticks : board.Ticks (· ≤ ·)
  wait : ∀ (ms : Nat) (s : Station ε), s.now board + ms ≤ (board.wait ms s).now board

/-- A pause is as long as asked for, and nothing else takes any time. -/
structure Board.Punctual (board : Board ε) : Prop where
  ticks : board.Ticks (· = ·)
  wait : ∀ (ms : Nat) (s : Station ε), (board.wait ms s).now board = s.now board + ms

lemma Board.Punctual.keepsTime (h : board.Punctual) : board.KeepsTime where
  ticks :=
    { refl := Nat.le_refl
      trans := Nat.le_trans
      write := fun remark e => Nat.le_of_eq (h.ticks.write remark e)
      emit := fun byte e => Nat.le_of_eq (h.ticks.emit byte e)
      interrupts := fun e => Nat.le_of_eq (h.ticks.interrupts e)
      deliver := fun text s => Nat.le_of_eq (h.ticks.deliver text s)
      notifyRead := fun s => Nat.le_of_eq (h.ticks.notifyRead s)
      notifyError := fun isOn s => Nat.le_of_eq (h.ticks.notifyError isOn s) }
  wait ms s := Nat.le_of_eq (h.wait ms s).symm

namespace Station

/-! ## Frames -/

variable {now deadline pause : Nat} {request : Request} {s t u : Station ε}

/-- The loop over received frames: it ends where no complete frame is left. -/
inductive ActsOn (board : Board ε) (now : Nat) :
    Station ε → List (List UInt8) → Station ε → Prop
  | done {s t : Station ε} (h : s.pullFrame board now = (none, t)) : ActsOn board now s [] t
  | frame {s t u : Station ε} {frame : List UInt8} {frames : List (List UInt8)}
      (h : s.pullFrame board now = (some frame, t))
      (hlater : ActsOn board now (t.acceptFrame board now frame).performReset frames u) :
      ActsOn board now s (frame :: frames) u

lemma Deed.inbound_le (hboard : board.AddsNoBytes) (h : Deed board s t) :
    t.line.inbound.length ≤ s.line.inbound.length := by
  cases h with
  | tell | note | reschedule => exact Nat.le_refl _
  | deliver text => exact hboard.deliver text s
  | notifyRead => exact hboard.notifyRead s
  | notifyError isOn => exact hboard.notifyError isOn s
  | sendTo address command => exact (leaves_sendTo address command s).inbound
  | endInventory => exact (leaves_enterMode .idle s.endSchedule).inbound
  | endOnlyRound => exact (leaves_endOnlyRound s).inbound

lemma Deeds.inbound_le (hboard : board.AddsNoBytes) (h : s.Deeds board t) :
    t.line.inbound.length ≤ s.line.inbound.length := by
  induction h with
  | refl => exact Nat.le_refl _
  | tail _ hdeed ih => exact Nat.le_trans (hdeed.inbound_le hboard) ih

lemma inbound_le_acceptFrame (hboard : board.AddsNoBytes) (now : Nat) (frame : List UInt8)
    (s : Station ε) :
    (s.acceptFrame board now frame).line.inbound.length ≤ s.line.inbound.length := by
  obtain ⟨router, remark, -, -, hdeeds⟩ := exists_registers board now frame s
  exact (hdeeds.inbound_le hboard :)

/-- **The loop over frames ends by itself** if it has more turns than there are bytes. -/
theorem actsOn_acceptFrames (hboard : board.AddsNoBytes) (now : Nat) {turns : Nat}
    (hturns : s.line.inbound.length < turns) :
    ActsOn board now s (s.acceptFrames board now turns).1 (s.acceptFrames board now turns).2 := by
  induction turns generalizing s with
  | zero => exact absurd hturns (Nat.not_lt_zero _)
  | succ turns ih =>
      have hused := (desk_pullFrame board now s).2
      rcases hpull : s.pullFrame board now with ⟨_ | frame, pulled⟩
      · simp only [acceptFrames, hpull]
        exact .done hpull
      · rw [hpull] at hused
        have hfewer : pulled.line.inbound.length + 1 ≤ s.line.inbound.length := hused
        have hkept := inbound_le_acceptFrame hboard now frame pulled
        have hreset := (leaves_performReset (pulled.acceptFrame board now frame)).inbound
        simp only [acceptFrames, hpull]
        exact .frame hpull (ih (by omega))

/-! ## One call to process -/

/-- A call to process received bytes. -/
inductive Processes (board : Board ε) (s : Station ε) : Outcome → Station ε → Prop
  | skipped (hbusy : s.router.busy = true) : Processes board s .skipped s
  | stopped (hidle : s.router.busy = false) (hstopped : s.router.running = false) :
      Processes board s .stopped s
  | processed (hidle : s.router.busy = false) (hrunning : s.router.running = true)
      {frames : List (List UInt8)} {t : Station ε}
      (h : ActsOn board (s.now board) (s.ready board) frames t) :
      Processes board s (.processed frames.length)
        ((t.keepSchedule board (s.now board)).onRouter fun r => { r with busy := false })

/-- **Every call to process received bytes ends by itself**, whatever is in the ring. -/
theorem processes_process (hboard : board.AddsNoBytes) (s : Station ε) :
    Processes board s (s.process board).1 (s.process board).2 := by
  cases hbusy : s.router.busy with
  | true =>
      simp only [process, hbusy, if_true]
      exact .skipped hbusy
  | false =>
      cases hrunning : s.router.running with
      | false =>
          simp only [process, hbusy, hrunning, Bool.false_eq_true, if_false, Bool.not_false,
            if_true]
          exact .stopped hbusy hrunning
      | true =>
          have hturns : (s.ready board).line.inbound.length < (s.ready board).frameTurns board := by
            rw [frameTurns]
            omega
          have hacts := actsOn_acceptFrames hboard (s.now board) hturns
          simp only [process, hbusy, hrunning, Bool.false_eq_true, if_false, Bool.not_true]
          exact .processed hbusy hrunning hacts

/-! ## Waiting -/

/--
  Waiting for an answer: the stations at which received bytes are processed, the result, and the
  station at the end.  It ends with an answer, or behind the deadline.
-/
inductive Waits (board : Board ε) (request : Request) (deadline pause : Nat) :
    UInt32 → Station ε → List (Station ε) → Except OperationError Answer → Station ε → Prop
  | answered {seen : UInt32} {s t : Station ε} {answer : Answer}
      (h : s.look board request seen = (some answer, t)) :
      Waits board request deadline pause seen s [s] (.ok answer) t
  | late {seen : UInt32} {s t : Station ε} (h : s.look board request seen = (none, t))
      (hlate : deadline ≤ t.now board) :
      Waits board request deadline pause seen s [s] (.error (.timeout request.command))
        (t.tell board (.unanswered request.command))
  | again {seen : UInt32} {s t u : Station ε} {polls : List (Station ε)} {result : Except OperationError Answer}
      (h : s.look board request seen = (none, t)) (hsoon : t.now board < deadline)
      (hlater : Waits board request deadline pause t.router.counters.framesReceived
        (board.wait pause t) polls result u) :
      Waits board request deadline pause seen s (s :: polls) result u

variable {seen : UInt32} {polls : List (Station ε)} {result : Except OperationError Answer}

/--
  **Waiting ends by itself**, if there are as many turns as pauses before the deadline, and one
  more.  The induction is on the turns: each but the last of them is followed by a pause, and there
  is one pause less to the deadline.
-/
theorem waits_waitUntil (hboard : board.KeepsTime) (request : Request) {pauses turns : Nat}
    (hdeadline : deadline ≤ s.now board + pauses * pause) (hturns : pauses < turns)
    (seen : UInt32) :
    Waits board request deadline pause seen s
        (s.polls board request deadline pause turns seen)
        (s.waitUntil board request deadline pause turns seen).1
        (s.waitUntil board request deadline pause turns seen).2 ∧
      (s.polls board request deadline pause turns seen).length ≤ pauses + 1 := by
  induction turns generalizing s seen pauses with
  | zero => exact absurd hturns (Nat.not_lt_zero _)
  | succ turns ih =>
      have hforth := hboard.ticks.look request seen s
      rcases hlook : s.look board request seen with ⟨_ | answer, t⟩
      · rw [hlook] at hforth
        simp only [Station.polls, Station.waitUntil, hlook]
        by_cases hlate : deadline ≤ t.now board
        · simp only [hlate, if_true]
          exact ⟨.late hlook hlate, Nat.le_add_left 1 pauses⟩
        · simp only [hlate, if_false]
          cases pauses with
          | zero =>
              rw [Nat.zero_mul] at hdeadline
              exact absurd (Nat.le_trans hdeadline hforth) hlate
          | succ pauses =>
              have hwaited := hboard.wait pause t
              have hleft : deadline ≤ (board.wait pause t).now board + pauses * pause := by
                rw [Nat.succ_mul] at hdeadline
                dsimp only at hforth
                omega
              obtain ⟨hwaits, hfew⟩ :=
                ih hleft (Nat.lt_of_succ_lt_succ hturns) t.router.counters.framesReceived
              exact ⟨.again hlook (Nat.lt_of_not_le hlate) hwaits, Nat.succ_le_succ hfew⟩
      · simp only [Station.polls, Station.waitUntil, hlook]
        exact ⟨.answered hlook, Nat.le_add_left 1 pauses⟩

/-- Waiting fails for one reason only, and not before the deadline. -/
lemma Waits.deadline_le (hticks : board.Ticks (· ≤ ·))
    (h : Waits board request deadline pause seen s polls result u) {cause : OperationError}
    (hresult : result = .error cause) :
    cause = .timeout request.command ∧ deadline ≤ u.now board := by
  induction h with
  | answered => cases hresult
  | late hlook hlate =>
      cases hresult
      exact ⟨rfl, Nat.le_trans hlate (hticks.tell _ _)⟩
  | again hlook hsoon hlater ih => exact ih hresult

/-- Waiting that begins less than a pause behind the deadline ends so. -/
lemma Waits.now_lt (hpunctual : board.Punctual)
    (h : Waits board request deadline pause seen s polls result u)
    (hbegins : s.now board < deadline + pause) : u.now board < deadline + pause := by
  induction h with
  | @answered seen s t answer hlook =>
      have hnow := hpunctual.ticks.look request seen s
      rw [hlook] at hnow
      rwa [← hnow]
  | @late seen s t hlook hlate =>
      have hnow := hpunctual.ticks.look request seen s
      rw [hlook] at hnow
      rwa [← hpunctual.ticks.tell, ← hnow]
  | again hlook hsoon hlater ih =>
      refine ih ?_
      rw [hpunctual.wait]
      exact Nat.add_lt_add_right hsoon _

end Station

/-! ## The whole call -/

/--
  As many pauses as fit into a time, rounded up, last as long, and there are no more of them than
  milliseconds.
-/
lemma pauses_bounds (time : Nat) {pause : Nat} (hpause : 1 ≤ pause) :
    time ≤ (time + pause - 1) / pause * pause ∧ (time + pause - 1) / pause < time + 1 := by
  constructor
  · have hdivided := Nat.div_add_mod' (time + pause - 1) pause
    have hrest := Nat.mod_lt (time + pause - 1) hpause
    omega
  · rw [Nat.div_lt_iff_lt_mul hpause, Nat.succ_mul]
    have hlong := Nat.le_mul_of_pos_right time hpause
    omega

/-- Behind the command that has been queued, a call is waiting. -/
lemma Station.ask_of_sent {s t : Station ε} {address : UInt8} {command : Command} {size : Nat}
    (hsent : (s.expecting { address, command := command.code }).sendTo board address command =
      (.ok size, t)) (timeoutMs : UInt32) :
    let request : Request := { address, command := command.code }
    let pause := max s.router.config.pollIntervalMs.toNat 1
    let deadline := t.now board + timeoutMs.toNat
    let turns := timeoutMs.toNat + 1 + board.patience
    let waited := t.waitUntil board request deadline pause turns s.router.counters.framesReceived
    s.askPolls board address command timeoutMs =
        t.polls board request deadline pause turns s.router.counters.framesReceived ∧
      s.ask board address command timeoutMs =
        (waited.1, waited.2.onRouter fun r => { r with awaiting := none }) := by
  intro request pause deadline turns waited
  have hpause : t.router.config.pollPauseMs = pause := by
    rw [(sendTo_ok hsent).1]
    rfl
  have hask : s.ask board address command timeoutMs =
      let sent := (s.expecting request).sendAndWait board address command timeoutMs
      (sent.1, sent.2.onRouter fun r => { r with awaiting := none }) := rfl
  constructor
  · simp only [askPolls, hsent, hpause]
    rfl
  · rw [hask, sendAndWait, hsent]
    simp only [hpause]
    rfl

/--
  **A call ends, and in time.**  Take any router and any request whose command has been queued; the
  time for an answer begins then, at `t`.  Received bytes may be in the ring already, more may
  arrive during pauses, and other parts of the program may then do with the router what they like.
  But nobody adds bytes while frames are acted on, time does not go back, and a pause is no shorter
  than asked for.

  * The call ends by itself, with an answer or behind its deadline.
  * It processes received bytes at most as often as pauses fit into the time, and once more.
  * If it fails, its time is up.
  * If only pauses take time, it ends less than a pause behind the deadline.
  * Whenever it processes received bytes, that ends by itself as well.
-/
theorem ask_ends_in_time (hbytes : board.AddsNoBytes) (htime : board.KeepsTime) {s t : Station ε}
    {address : UInt8} {command : Command} {size : Nat}
    (hsent : (s.expecting { address, command := command.code }).sendTo board address command =
      (.ok size, t)) (timeoutMs : UInt32) :
    let request : Request := { address, command := command.code }
    let pause := max s.router.config.pollIntervalMs.toNat 1
    let deadline := t.now board + timeoutMs.toNat
    let polls := s.askPolls board address command timeoutMs
    let result := (s.ask board address command timeoutMs).1
    let final := (s.ask board address command timeoutMs).2
    (∃ u, Station.Waits board request deadline pause s.router.counters.framesReceived t polls
        result u ∧ final = u.onRouter fun r => { r with awaiting := none }) ∧
      polls.length ≤ (timeoutMs.toNat + pause - 1) / pause + 1 ∧
      (∀ cause, result = .error cause →
        cause = .timeout command.code ∧ deadline ≤ final.now board) ∧
      (board.Punctual → final.now board < deadline + pause) ∧
      ∀ v ∈ polls, Station.Processes board v (v.process board).1 (v.process board).2 := by
  intro request pause deadline polls result final
  obtain ⟨hpolls, hcall⟩ := Station.ask_of_sent hsent timeoutMs
  obtain ⟨hlong, hfew⟩ := pauses_bounds timeoutMs.toNat (Nat.le_max_right _ 1 : 1 ≤ pause)
  have hdeadline : deadline ≤ t.now board + (timeoutMs.toNat + pause - 1) / pause * pause :=
    Nat.add_le_add_left hlong _
  have hturns := Nat.lt_add_right board.patience hfew
  obtain ⟨hwaits, hlength⟩ := Station.waits_waitUntil htime request hdeadline hturns
    s.router.counters.framesReceived
  rw [← hpolls] at hwaits hlength
  set waited := t.waitUntil board request deadline pause (timeoutMs.toNat + 1 + board.patience)
    s.router.counters.framesReceived
  have hresult : result = waited.1 := by simp only [result, hcall]
  have hfinal : final = waited.2.onRouter fun r => { r with awaiting := none } := by
    simp only [final, hcall]
  rw [hresult, hfinal]
  refine ⟨⟨waited.2, hwaits, rfl⟩, hlength, ?_, ?_, ?_⟩
  · intro cause hcause
    exact hwaits.deadline_le htime.ticks hcause
  · intro hpunctual
    have hbegins : t.now board < deadline + pause :=
      Nat.lt_of_le_of_lt (Nat.le_add_right _ _) (Nat.lt_add_of_pos_right (Nat.le_max_right _ 1))
    have hends : waited.2.now board < deadline + pause := hwaits.now_lt hpunctual hbegins
    exact hends
  · intro v _
    exact Station.processes_process hbytes v

lemma Board.punctual_arriving (bytes : List UInt8) : (Board.arriving bytes).Punctual where
  ticks :=
    { refl := fun _ => rfl
      trans := Eq.trans
      write := fun _ _ => rfl
      emit := fun _ _ => rfl
      interrupts := fun _ => rfl
      deliver := fun _ _ => rfl
      notifyRead := fun _ => rfl
      notifyError := fun _ _ => rfl }
  wait _ _ := rfl

/-- Nobody answers: within ten milliseconds there are four looks, four milliseconds apart. -/
theorem ask_ends_in_time_unanswered :
    let board := Board.arriving []
    let s : Station Nat := (Station.fresh { Config.standard with pollIntervalMs := 4 } 0).onRouter
      fun r => { r with running := true }
    board.AddsNoBytes ∧ board.KeepsTime ∧ board.Punctual ∧
      (∃ t, (s.expecting { address := 0, command := 0x74 }).sendTo board 0 .getTagCount =
        (.ok 5, t) ∧ t.now board = 0) ∧
      (s.askPolls board 0 .getTagCount 10).length ≤ 4 ∧
      (∀ cause, (s.ask board 0 .getTagCount 10).1 = .error cause →
        cause = .timeout 0x74 ∧ 10 ≤ (s.ask board 0 .getTagCount 10).2.now board) ∧
      (s.ask board 0 .getTagCount 10).2.now board < 14 := by
  intro board s
  have hpunctual : board.Punctual := Board.punctual_arriving []
  have hbytes : board.AddsNoBytes := (Board.quiet_arriving []).addsNoBytes
  have hqueued : ((s.expecting { address := 0, command := 0x74 }).sendTo board 0
      .getTagCount).1 = .ok 5 := by decide +kernel
  have hzero : ((s.expecting { address := 0, command := 0x74 }).sendTo board 0
      .getTagCount).2.now board = 0 := by decide +kernel
  rcases hsent : (s.expecting { address := 0, command := 0x74 }).sendTo board 0 .getTagCount
    with ⟨sent, t⟩
  rw [hsent] at hqueued hzero
  obtain rfl : sent = .ok 5 := hqueued
  obtain ⟨-, hfew, hlate, hsoon, -⟩ := ask_ends_in_time hbytes hpunctual.keepsTime hsent 10
  have hpause : s.router.config.pollIntervalMs.toNat = 4 := rfl
  have htimeout : UInt32.toNat 10 = 10 := rfl
  rw [hzero, htimeout] at hlate hsoon
  rw [hpause, htimeout] at hfew
  rw [hpause] at hsoon
  exact ⟨hbytes, hpunctual.keepsTime, hpunctual, ⟨t, rfl, hzero⟩, hfew, hlate, hsoon hpunctual⟩

end RfidLink
