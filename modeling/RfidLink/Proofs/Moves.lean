import RfidLink.Proofs.Desk
import RfidLink.Proofs.Reentrancy

/-!
# Operations as sequences of moves

An operation of the router is a long program, and most of what it does matters to few statements.
A `Station.Move` is a part of such a program that nobody can interrupt.

* Mode, running flag and schedule are the **stance** of a router, and every move that changes them
  says under which conditions it happens.
* The same goes for what was **received**: there is a move for each way in which bytes leave the
  inbound ring, and all others leave ring and collector alone.
* A frame that is taken is registered on the desk at once.  What is done about it afterwards, and
  what the schedule asks for, consists of `Station.Deed`s.  They leave desk and received
  bytes alone, except that inventory may end.
* What is done about the content of a frame consists of `Station.Use`s, which do not even change
  how the router **stands**: they leave its configuration and its count of rounds alone as well.

**To process what was received is a sequence of moves** (`moves_process`): there is one lemma for
each function of the router.  What all moves keep is kept by all of them, and a statement about
whole runs needs one case for each kind of move and none for each function.  Bytes that arrive are
no move of the router; a `Station.Course` is either.
-/

namespace RfidLink

variable {ε : Type} {board : Board ε}

/-! ## What a remark is about -/

/-- The frame taken from the line that a remark is about. -/
def Remark.frame? : Remark → Option (List UInt8)
  | .damaged frame | .unreadable frame _ | .received frame _ => some frame
  | _ => none

/-- Whether what was received before a remark has no future behind it. -/
def Remark.isCut : Remark → Bool
  | .modeChanged .. | .routerStarted => true
  | _ => false

/-- Whether a remark is about no frame, no cut and no queued command. -/
def Remark.isAside (remark : Remark) : Bool :=
  remark.frame?.isNone && !remark.isCut && remark.call?.isNone

lemma Remark.of_isAside {remark : Remark} (h : remark.isAside = true) :
    remark.frame? = none ∧ remark.isCut = false ∧ remark.call? = none := by
  simpa [isAside, and_assoc] using h

lemma Remark.frame?_of_isCut {remark : Remark} (h : remark.isCut = true) :
    remark.frame? = none := by
  cases remark <;> first | rfl | cases h

lemma Remark.isCut_of_frame? {remark : Remark} {frame : List UInt8}
    (h : remark.frame? = some frame) : remark.isCut = false := by
  cases remark <;> first | rfl | cases h

lemma Remark.call?_of_frame? {remark : Remark} {frame : List UInt8}
    (h : remark.frame? = some frame) : remark.call? = none := by
  cases remark <;> first | rfl | cases h

/-! ## The stance of a router -/

/-- Mode, running flag and schedule: what decides whether there is inventory. -/
def Router.stance (r : Router) : Mode × Bool × Schedule := (r.mode, r.running, r.schedule)

/-- What a router is receiving, and whether it is busy with that. -/
def Router.receiving (r : Router) : FrameCollector × Bool × Bool :=
  (r.collector, r.resetPending, r.busy)

/-- Everything of a router that is of interest here: its stance, its receiving, its desk. -/
def Router.bearing (r : Router) :
    (Mode × Bool × Schedule) × (FrameCollector × Bool × Bool) × Desk :=
  (r.stance, r.receiving, r.desk)

/-- The bearing of a router, what it is configured to do, and the rounds it has asked for. -/
def Router.standing (r : Router) :
    ((Mode × Bool × Schedule) × (FrameCollector × Bool × Bool) × Desk) × Config × UInt32 :=
  (r.bearing, r.config, r.counters.roundsStarted)

/-- A frame has been registered: the desk has taken it. -/
structure Router.Registers (frame : List UInt8) (r r' : Router) : Prop where
  stance : r'.stance = r.stance
  receiving : r'.receiving = r.receiving
  desk : r'.desk = r.desk.accept frame

/-- Of a frame, no other answer is kept than the one in it. -/
lemma Router.Registers.answers {frame : List UInt8} {r r' : Router} (h : r.Registers frame r') :
    ∀ a ∈ r'.answers, a ∈ r.answers ∨ Answer.ofFrame? frame = some a := by
  intro a ha
  have hdesk : a ∈ (r.desk.accept frame).answers := by
    rw [← h.desk]
    exact ha
  exact Desk.answers_accept hdesk

namespace Station

/-! ## Deeds and moves -/

/-- A part of what is done about the content of a frame. -/
inductive Use (board : Board ε) : Station ε → Station ε → Prop
  | tell (s) (remark : Remark) (h : remark.isAside = true) : Use board s (s.tell board remark)
  /-- The router remembers something that does not change how it stands. -/
  | note (s) (f : Router → Router) (h : ∀ r, (f r).standing = r.standing) :
      Use board s (s.onRouter f)
  | deliver (s) (text : String) : Use board s (board.deliver text s).2
  | notifyRead (s) : Use board s (board.notifyRead s)
  | notifyError (s) (isOn : Bool) : Use board s (board.notifyError isOn s)

abbrev Uses (board : Board ε) : Station ε → Station ε → Prop := Relation.ReflTransGen (Use board)

/-- A part of what is done about a frame that has been registered, or about the schedule. -/
inductive Deed (board : Board ε) : Station ε → Station ε → Prop
  | tell (s) (remark : Remark) (h : remark.isAside = true) : Deed board s (s.tell board remark)
  /-- The router remembers something that is not of interest here. -/
  | note (s) (f : Router → Router) (h : ∀ r, (f r).bearing = r.bearing) :
      Deed board s (s.onRouter f)
  | deliver (s) (text : String) : Deed board s (board.deliver text s).2
  | notifyRead (s) : Deed board s (board.notifyRead s)
  | notifyError (s) (isOn : Bool) : Deed board s (board.notifyError isOn s)
  | sendTo (s) (address : UInt8) (command : Command) :
      Deed board s (s.sendTo board address command).2
  /-- A round begins or ends, within inventory. -/
  | reschedule (s) (f : Schedule → Schedule) (hmode : s.router.mode = .inventory)
      (hactive : s.router.inventoryActive = true) (hf : ∀ p, (f p).active = p.active) :
      Deed board s (s.onRouter (·.reschedule f))
  | endInventory (s) : Deed board s (s.endSchedule.enterMode board .idle)
  | endOnlyRound (s) : Deed board s (s.endOnlyRound board)

/-- Any number of deeds, one after the other. -/
abbrev Deeds (board : Board ε) : Station ε → Station ε → Prop := Relation.ReflTransGen (Deed board)

/-- A part of an operation that runs without being interrupted by callbacks. -/
inductive Move (board : Board ε) : Station ε → Station ε → Prop
  | deed {s t} (h : Deed board s t) : Move board s t
  /-- Somebody takes answers or throws them away, and begins to wait or ceases to. -/
  | forget (s) (answers : List Answer) (awaiting : Option Request)
      (h : answers ⊆ s.router.answers) :
      Move board s (s.onRouter fun r => { r with answers, awaiting })
  | recount (s) (counters : Counters) : Move board s (s.onRouter fun r => { r with counters })
  /-- Somebody begins to process what was received, or is done with it. -/
  | occupy (s) (busy : Bool) : Move board s (s.onRouter fun r => { r with busy })
  /-- Flags and counters of the line change, but not its bytes. -/
  | flag (s) (line : Line) (hinbound : line.inbound = s.line.inbound)
      (houtbound : line.outbound = s.line.outbound) : Move board s { s with line }
  /-- What was received is thrown away, if that is pending. -/
  | reset (s) : Move board s s.performReset
  /-- The partial frame is discarded, if received bytes were lost. -/
  | discard (s) : Move board s (s.discardAfterOverrun board)
  /-- The received bytes are searched for a frame, and there is none. -/
  | search (s) (now : Nat) (hpending : s.router.resetPending = false)
      (h : (s.pullFrame board now).1 = none) : Move board s (s.pullFrame board now).2
  /-- A frame is taken from the line and registered. -/
  | take (s) (now : Nat) (frame : List UInt8) (router : Router) (remark : Remark)
      (hpending : s.router.resetPending = false) (h : (s.pullFrame board now).1 = some frame)
      (hrouter : (s.pullFrame board now).2.router.Registers frame router)
      (hremark : remark.frame? = some frame) :
      Move board s (((s.pullFrame board now).2.onRouter fun _ => router).tell board remark)
  | transmit (s) : Move board s (s.transmit board).2
  | notifyRunning (s) (isOn : Bool) : Move board s (board.notifyRunning isOn s)
  | wait (s) (ms : Nat) : Move board s (board.wait ms s)
  | start (s) : Move board s (s.start board).2
  | stop (s) : Move board s (s.stop board).2
  /-- Inventory begins, after its first command has been queued. -/
  | begin (s) (address : UInt8) (command : Command) (size : Nat) (schedule : Schedule)
      (hsent : ((s.enterMode board .inventory).sendTo board address command).1 = .ok size)
      (hactive : schedule.active = true) :
      Move board s (((s.enterMode board .inventory).sendTo board address command).2.onRouter
        fun r => { r with schedule })
  /-- Inventory does not begin, because its first command cannot be queued. -/
  | beginRefused (s) (address : UInt8) (command : Command)
      (h : ¬ (s.router.inventoryActive = true ∧ s.router.mode = .inventory)) :
      Move board s
        (((s.enterMode board .inventory).sendTo board address command).2.enterMode board .idle)
  /-- Inventory ends, and a last command is queued if that is possible. -/
  | endSending (s) (address : UInt8) (command : Command) :
      Move board s (((s.endSchedule.reportTotals board).2.sendTo board address command).2.enterMode
        board .idle)

/-- Any number of moves, one after the other. -/
abbrev Moves (board : Board ε) : Station ε → Station ε → Prop := Relation.ReflTransGen (Move board)

/-- The router makes moves, or bytes arrive. -/
inductive Course (board : Board ε) (s : Station ε) : Station ε → Prop
  | moves {t} (h : s.Moves board t) : Course board s t
  | arrival (bytes : List UInt8) : Course board s (s.receive bytes)

lemma Use.uses {s t : Station ε} (h : Use board s t) : s.Uses board t := .single h

lemma Use.deed {s t : Station ε} (h : Use board s t) : Deed board s t := by
  cases h with
  | tell remark h => exact .tell s remark h
  | note f h => exact .note s f fun r => congrArg Prod.fst (h r)
  | deliver text => exact .deliver s text
  | notifyRead => exact .notifyRead s
  | notifyError isOn => exact .notifyError s isOn

lemma Uses.deeds {s t : Station ε} (h : s.Uses board t) : s.Deeds board t :=
  h.lift id fun _ _ => Use.deed

lemma Use.count (s : Station ε) (f : Counters → Counters)
    (h : ∀ c, (f c).framesReceived = c.framesReceived ∧ (f c).roundsStarted = c.roundsStarted) :
    Use board s (s.count f) := by
  refine .note s (·.count f) fun r => ?_
  simp only [Router.standing, Router.bearing, Router.desk, Router.count, (h r.counters).1,
    (h r.counters).2]
  rfl

lemma Deed.deeds {s t : Station ε} (h : Deed board s t) : s.Deeds board t := .single h

lemma Move.moves {s t : Station ε} (h : Move board s t) : s.Moves board t := .single h

lemma Deeds.moves {s t : Station ε} (h : s.Deeds board t) : s.Moves board t :=
  h.lift id fun _ _ => Move.deed

lemma Deed.count (s : Station ε) (f : Counters → Counters)
    (h : ∀ c, (f c).framesReceived = c.framesReceived) : Deed board s (s.count f) := by
  refine .note s (·.count f) fun r => ?_
  simp only [Router.bearing, Router.desk, Router.count, h]
  rfl

lemma Move.tell (s : Station ε) (remark : Remark) (h : remark.isAside = true) :
    Move board s (s.tell board remark) := .deed (.tell s remark h)

lemma Move.note (s : Station ε) (f : Router → Router) (h : ∀ r, (f r).bearing = r.bearing) :
    Move board s (s.onRouter f) := .deed (.note s f h)

lemma Move.sendTo (s : Station ε) (address : UInt8) (command : Command) :
    Move board s (s.sendTo board address command).2 := .deed (.sendTo s address command)

/-! ## Frames -/

lemma uses_notify {notification : Station ε → Station ε}
    (h : ∀ s, Use board s (notification s)) (s : Station ε) :
    s.Uses board (s.notify notification) := by
  simp only [notify]
  split
  · exact .refl
  · have hset : s.Uses board _ := (Use.note s (fun r => { r with notifying := true })
      fun _ => rfl).uses
    exact (hset.tail (h _)).tail (.note _ _ fun _ => rfl)

lemma uses_passOn (tag : Sighting) (s : Station ε) : s.Uses board (s.passOn board tag) := by
  have htold : s.Uses board _ := (Use.tell s
    (.tag (tag.text s.router.config.epcGroupBytes.toNat) tag) rfl).uses
  have hdelivered := htold.tail (.deliver _ (tag.text s.router.config.epcGroupBytes.toNat))
  simp only [passOn]
  split <;> rename_i t heq <;> rw [heq] at hdelivered
  · have hcounted := hdelivered.tail
      (.count _ (fun c => { c with tagsPassedOn := c.tagsPassedOn + 1 }) fun _ => ⟨rfl, rfl⟩)
    exact hcounted.trans (uses_notify (fun u => .notifyRead u) _)
  · have hcounted := hdelivered.tail
      (.count _ (fun c => { c with tagsUndelivered := c.tagsUndelivered + 1 }) fun _ => ⟨rfl, rfl⟩)
    exact hcounted.tail (.tell _ _ rfl)

lemma uses_offer (now : Nat) (tag : Sighting) (s : Station ε) :
    s.Uses board (s.offer board now tag) := by
  have hcounted : s.Uses board _ :=
    (Use.count s (fun c => { c with tagsRead := c.tagsRead + 1 }) fun _ => ⟨rfl, rfl⟩).uses
  simp only [offer]
  split
  · exact hcounted.tail (.tell _ _ rfl)
  · have hnoted := hcounted.tail (.note _
      (fun r => { r with filter := (r.filter.record tag.epc.toList tag.rssi now).2 }) fun _ => rfl)
    split
    · exact hnoted.trans (uses_passOn tag _)
    · exact hnoted.tail (.count _ (fun c => { c with tagsHeldBack := c.tagsHeldBack + 1 })
        fun _ => ⟨rfl, rfl⟩)

lemma uses_offers (now : Nat) (tags : List Sighting) (s : Station ε) :
    s.Uses board (tags.foldl (offer board now) s) := by
  induction tags generalizing s with
  | nil => exact .refl
  | cons tag rest ih => exact (uses_offer now tag s).trans (ih _)

lemma uses_useContent (now : Nat) (content : Content) (s : Station ε) :
    s.Uses board (s.useContent board now content) := by
  cases content with
  | autoUpload tag => exact uses_offer now tag s
  | inventory report => exact uses_offers now report.sightings s
  | statistics _ => exact (Use.tell s _ rfl).uses
  | profile p =>
      have htold : s.Uses board _ := (Use.tell s (.profile p) rfl).uses
      exact htold.tail (.note _ (fun r => { r with profile := some p }) fun _ => rfl)
  | tagCount count =>
      exact (Use.note s (fun r => { r with tagCount := some count }) fun _ => rfl).uses
  | temperature degrees =>
      exact (Use.note s (fun r => { r with temperature := some degrees }) fun _ => rfl).uses
  | readData _ => exact (Use.tell s _ rfl).uses
  | gpioState _ => exact (Use.tell s _ rfl).uses
  | other _ _ _ => exact .refl

variable (board) in
/-- Before inventory ends because of the antenna, the error is told and indicated. -/
lemma uses_stopForAntenna (s : Station ε) : ∃ t : Station ε, s.Uses board t ∧
    s.stopForAntenna board = t.endSchedule.enterMode board .idle := by
  have htold : s.Uses board _ := (Use.tell s .antennaError rfl).uses
  have hshown := htold.tail (.note _ (fun r => { r with errorShown := true }) fun _ => rfl)
  exact ⟨_, hshown.trans (uses_notify (fun u => .notifyError u true) _), rfl⟩

lemma deeds_stopForAntenna (s : Station ε) : s.Deeds board (s.stopForAntenna board) := by
  obtain ⟨t, huses, hstopped⟩ := uses_stopForAntenna board s
  rw [hstopped]
  exact huses.deeds.tail (.endInventory t)

lemma deeds_followRound (now : Nat) (status : Status) (s : Station ε) :
    s.Deeds board (s.followRound board now status) := by
  simp only [followRound]
  split
  · exact .refl
  · rename_i hidle
    have hmode : s.router.mode = .inventory := by
      cases h : s.router.mode with
      | idle => exact absurd h hidle
      | inventory => rfl
    split
    · exact deeds_stopForAntenna s
    · split
      · exact .refl
      · rename_i hopen
        have hactive : s.router.inventoryActive = true := by
          cases h : s.router.inventoryActive with
          | true => rfl
          | false => simp [h] at hopen
        split
        · exact .refl
        · rename_i intervalMs _
          exact (Deed.reschedule s (·.dueAt (now + intervalMs.toNat)) hmode hactive
            fun _ => rfl).deeds
        · exact (Deed.endOnlyRound s).deeds

variable (board) in
/-- **What is done about a frame**: it is registered, and all the rest are deeds. -/
lemma exists_registers (now : Nat) (frame : List UInt8) (s : Station ε) :
    ∃ router remark, s.router.Registers frame router ∧ remark.frame? = some frame ∧
      ((s.onRouter fun _ => router).tell board remark).Deeds board
        (s.acceptFrame board now frame) := by
  set counted := s.count fun c => { c with framesReceived := c.framesReceived + 1 } with hcounted
  -- a frame without an answer is counted, and that is all the desk hears of it
  have hcount (f : Counters → Counters) (hf : ∀ c, (f c).framesReceived = c.framesReceived)
      (hnone : Answer.ofFrame? frame = none) : s.router.Registers frame (counted.count f).router := by
    refine ⟨rfl, rfl, ?_⟩
    rw [Desk.accept, hnone]
    exact congrArg (fun n => { s.router.desk with framesReceived := n }) (hf _)
  simp only [acceptFrame, ← hcounted]
  cases hvalid : Checksum.isValid frame with
  | false =>
      simp only [Bool.not_false, if_true]
      have hregisters := hcount (fun c => { c with framesDamaged := c.framesDamaged + 1 })
        (fun _ => rfl) (by simp only [Answer.ofFrame?, hvalid, Bool.false_eq_true, if_false])
      exact ⟨_, .damaged frame, hregisters, rfl, .refl⟩
  | true =>
      simp only [Bool.not_true, Bool.false_eq_true, if_false]
      cases hread : Response.ofFrame frame with
      | error cause =>
          have hregisters := hcount (fun c => { c with framesUnreadable := c.framesUnreadable + 1 })
            (fun _ => rfl) (by simp only [Answer.ofFrame?, hvalid, if_true, hread])
          exact ⟨_, .unreadable frame cause, hregisters, rfl, .refl⟩
      | ok response =>
          have hanswer : Answer.ofFrame? frame =
              answerOf response.head (responsePayload frame) := by
            simp only [Answer.ofFrame?, hvalid, if_true, hread]
          obtain ⟨answers, hkept, hdesk⟩ := exists_kept (Answer.ofFrame? frame)
            (counted.tell board (.received frame response))
          have hregisters : s.router.Registers frame { counted.router with answers } :=
            ⟨rfl, rfl, hdesk.symm⟩
          refine ⟨_, .received frame response, hregisters, rfl, ?_⟩
          rw [hanswer] at hkept
          simp only [acceptResponse, hkept]
          have hused : Station.Deeds board _ _ := (uses_useContent now response.content
            ((counted.tell board (.received frame response)).onRouter fun r => { r with answers })).deeds
          split
          · exact hused.trans (deeds_followRound now response.head.status _)
          · exact hused

lemma moves_acceptFrame {now : Nat} {frame : List UInt8} {s : Station ε}
    (hpending : s.router.resetPending = false) (h : (s.pullFrame board now).1 = some frame) :
    s.Moves board ((s.pullFrame board now).2.acceptFrame board now frame) := by
  obtain ⟨router, remark, hrouter, hremark, hdeeds⟩ :=
    exists_registers board now frame (s.pullFrame board now).2
  exact .head (.take s now frame router remark hpending h hrouter hremark) hdeeds.moves

lemma resetPending_performReset (s : Station ε) : s.performReset.router.resetPending = false := by
  obtain ⟨_, h⟩ := router_performReset s
  rw [h]

lemma moves_acceptFrames (now turns : Nat) {s : Station ε}
    (hpending : s.router.resetPending = false) :
    s.Moves board (s.acceptFrames board now turns).2 := by
  induction turns generalizing s with
  | zero => exact .refl
  | succ turns ih =>
      rcases hpull : s.pullFrame board now with ⟨_ | frame, pulled⟩
      · have hsearched : Move board s (s.pullFrame board now).2 :=
          .search s now hpending (by rw [hpull])
        rw [hpull] at hsearched
        simp only [acceptFrames, hpull]
        exact hsearched.moves
      · have haccepted : s.Moves board ((s.pullFrame board now).2.acceptFrame board now frame) :=
          moves_acceptFrame hpending (by rw [hpull])
        rw [hpull] at haccepted
        simp only [acceptFrames, hpull]
        exact (haccepted.tail (.reset _)).trans (ih (resetPending_performReset _))

/-! ## The schedule -/

variable (board) in
lemma stance_sendTo (address : UInt8) (command : Command) (s : Station ε) :
    (s.sendTo board address command).2.router.stance = s.router.stance := by
  obtain ⟨_, hrouter⟩ := router_sendTo board address command s
  rw [hrouter]
  rfl

variable (board) in
lemma mode_sendTo (address : UInt8) (command : Command) (s : Station ε) :
    (s.sendTo board address command).2.router.mode = s.router.mode :=
  congrArg Prod.fst (stance_sendTo board address command s)

variable (board) in
lemma inventoryActive_sendTo (address : UInt8) (command : Command) (s : Station ε) :
    (s.sendTo board address command).2.router.inventoryActive = s.router.inventoryActive :=
  congrArg (fun p : Mode × Bool × Schedule => p.2.2.active) (stance_sendTo board address command s)

lemma deeds_startRound (now : Nat) {s : Station ε} (hmode : s.router.mode = .inventory)
    (hactive : s.router.inventoryActive = true) : s.Deeds board (s.startRound board now) := by
  set command := s.router.config.strategy.openingCommand with hcommand
  have hsent : s.Deeds board _ := (Deed.sendTo s s.router.address command).deeds
  have hmode' := (mode_sendTo board s.router.address command s).trans hmode
  have hactive' := (inventoryActive_sendTo board s.router.address command s).trans hactive
  simp only [startRound, send]
  split <;> rename_i result t heq <;> rw [← hcommand] at heq <;> rw [heq] at hsent hmode' hactive'
  · have hcounted := hsent.tail
      (.count t (fun c => { c with roundsStarted := c.roundsStarted + 1 }) fun _ => rfl)
    exact hcounted.tail (.reschedule _ (·.waitingUntil (now + s.router.config.roundLimitMs))
      hmode' hactive' fun _ => rfl)
  · have htold := hsent.tail (.tell t (.roundNotStarted result) rfl)
    split
    · rename_i intervalMs _
      exact htold.tail (.reschedule _ (fun p => { p with nextRoundAt := now + intervalMs.toNat })
        hmode' hactive' fun _ => rfl)
    · exact htold

lemma deeds_abandonRound (now : Nat) {s : Station ε} (hmode : s.router.mode = .inventory)
    (hactive : s.router.inventoryActive = true) : s.Deeds board (s.abandonRound board now) := by
  have htold : s.Deeds board _ := (Deed.tell s .roundAbandoned rfl).deeds
  have hcounted := htold.tail
    (.count _ (fun c => { c with roundsAbandoned := c.roundsAbandoned + 1 }) fun _ => rfl)
  simp only [abandonRound]
  split
  · exact hcounted.tail (.endOnlyRound _)
  · have hdue := hcounted.tail (.reschedule _ (·.dueAt now) hmode hactive fun _ => rfl)
    exact hdue.trans (deeds_startRound now hmode hactive)

variable (board) in
/-- **What the schedule asks for are deeds.** -/
lemma deeds_keepSchedule (now : Nat) (s : Station ε) :
    s.Deeds board (s.keepSchedule board now) := by
  simp only [keepSchedule]
  split
  · exact .refl
  · rename_i hopen
    simp only [Bool.or_eq_true, decide_eq_true_eq, Bool.not_eq_true', not_or,
      Bool.not_eq_false] at hopen
    obtain ⟨⟨hidle, -⟩, hactive⟩ := hopen
    have hmode : s.router.mode = .inventory := by
      cases h : s.router.mode with
      | idle => exact absurd h hidle
      | inventory => rfl
    split
    · split
      · exact .refl
      · exact deeds_abandonRound now hmode hactive
    · split
      · exact .refl
      · exact deeds_startRound now hmode hactive

/-! ## Processing and beginning -/

lemma moves_processReceived (s : Station ε) : s.Moves board (s.processReceived board).2 := by
  have hready : s.Moves board _ := (Move.discard s).moves.tail (.reset _)
  have haccepted := hready.trans (moves_acceptFrames (s.now board)
    (((s.discardAfterOverrun board).performReset).frameTurns board) (resetPending_performReset _))
  exact haccepted.trans (deeds_keepSchedule board (s.now board) _).moves

lemma moves_process (s : Station ε) : s.Moves board (s.process board).2 := by
  simp only [process]
  split
  · exact .refl
  · split
    · exact .refl
    · have hbusy : s.Moves board _ := (Move.occupy s true).moves
      exact (hbusy.trans (moves_processReceived _)).tail (.occupy _ false)

/-- An error that was indicated is taken back. -/
lemma uses_takeBackError (s : Station ε) : s.Uses board (if s.router.errorShown then
    (s.onRouter fun r => { r with errorShown := false }).notify (board.notifyError false)
    else s) := by
  split
  · have hhidden : s.Uses board _ := (Use.note s (fun r => { r with errorShown := false })
      fun _ => rfl).uses
    exact hhidden.trans (uses_notify (fun u => .notifyError u false) _)
  · exact .refl

/-- Once the schedule is set, what is left of its beginning is a count and a notification. -/
lemma moves_beginSchedule (s : Station ε) :
    (s.onRouter fun r => { r with schedule := .opened s.router.config (s.now board) }).Moves board
      (s.beginSchedule board) := by
  have hcounted (t : Station ε) (isPolled : Bool) : t.Moves board (if isPolled then
      t.count fun c => { c with roundsStarted := c.roundsStarted + 1 } else t) := by
    split
    · exact (Deed.count t (fun c => { c with roundsStarted := c.roundsStarted + 1 })
        fun _ => rfl).deeds.moves
    · exact .refl
  exact (hcounted _ (Schedule.opened s.router.config (s.now board)).inRound).trans
    (uses_takeBackError _).deeds.moves

end Station

end RfidLink
