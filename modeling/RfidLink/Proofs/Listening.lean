import RfidLink.Proofs.IdleProcessing
import RfidLink.Proofs.Pieces
import RfidLink.Proofs.Reporting

/-!
# An idle router listens and does nothing else

`inward_process` says what an idle router leaves alone when it processes received bytes.  Whoever
relies on it wants to know more: that nobody is called on the way, what exactly may be different
afterwards, and that this goes on for as long as nobody asks for anything.

* A callback that is run on no station cannot be told from any other.  `Board.SharesClock` relates
  boards that agree in their clock and in their journal and otherwise differ as they like, and
  **`process_sharesClock`** says that an idle router does the same on both.  In particular it does
  what it would do on a board whose callbacks do nothing (`Board.hushed`), so everything that is
  known about quiet boards holds of it.
* `Router.Hears` lists what may be different: receiving, answers, what is remembered of the reader,
  and counters.
* **`idle_only_listens`** puts it together for any run in which bytes arrive and are processed.
-/

namespace RfidLink

variable {ε : Type} {board other : Board ε}

/-! ## Boards that share a clock -/

/-- Two boards with the same clock, the same journal and the same patience. -/
structure Board.SharesClock (board other : Board ε) : Prop where
  now : other.now = board.now
  write : other.write = board.write
  patience : other.patience = board.patience

/-- A board like the given one on which callbacks do nothing. -/
def Board.hushed (board : Board ε) : Board ε :=
  { board with
    deliver := fun _ s => (.ok (), s)
    notifyRead := fun s => s
    notifyError := fun _ s => s
    notifyRunning := fun _ s => s
    wait := fun _ s => s }

lemma Board.sharesClock_hushed (board : Board ε) : board.SharesClock board.hushed :=
  ⟨rfl, rfl, rfl⟩

lemma Board.quiet_hushed (board : Board ε) : board.hushed.Quiet where
  deliver _ _ := ⟨rfl, rfl⟩
  notifyRead _ := ⟨rfl, rfl⟩
  notifyError _ _ := ⟨rfl, rfl⟩
  wait_router _ _ := rfl
  wait_line _ s := .refl s.line

namespace Board.SharesClock

variable {s : Station ε} (h : board.SharesClock other)

include h

lemma tell (remark : Remark) (s : Station ε) : s.tell other remark = s.tell board remark := by
  simp only [Station.tell, h.write]

lemma pullFrame (now : Nat) (s : Station ε) : s.pullFrame other now = s.pullFrame board now := by
  simp only [Station.pullFrame, Station.tellAll, h.tell]

lemma discardAfterOverrun (s : Station ε) :
    s.discardAfterOverrun other = s.discardAfterOverrun board := by
  simp only [Station.discardAfterOverrun, h.tell]

lemma offer (now : Nat) (tag : Sighting) (hmode : s.router.mode = .idle) :
    s.offer other now tag = s.offer board now tag := by
  have hidle : (s.count fun c => { c with tagsRead := c.tagsRead + 1 }).router.mode = .idle := hmode
  simp only [Station.offer, if_pos hidle, h.tell]

lemma offers (now : Nat) (tags : List Sighting) (hmode : s.router.mode = .idle) :
    tags.foldl (Station.offer other now) s = tags.foldl (Station.offer board now) s := by
  induction tags generalizing s with
  | nil => rfl
  | cons tag rest ih =>
      have hoffered : s.Inward board (s.offer board now tag) := Station.inward_offer now tag hmode
      rw [List.foldl_cons, List.foldl_cons, h.offer now tag hmode]
      exact ih (hoffered.mode hmode)

lemma useContent (now : Nat) (content : Content) (hmode : s.router.mode = .idle) :
    s.useContent other now content = s.useContent board now content := by
  cases content with
  | autoUpload tag => exact h.offer now tag hmode
  | inventory report => exact h.offers now report.sightings hmode
  | statistics | readData | gpioState => exact h.tell _ s
  | profile profile => simp only [Station.useContent, h.tell]
  | tagCount | temperature | other => rfl

lemma readFrame (now : Nat) (frame : List UInt8) (hmode : s.router.mode = .idle) :
    s.readFrame other now frame = s.readFrame board now frame := by
  simp only [Station.readFrame, h.tell]
  split
  · rfl
  · split
    · rfl
    · rename_i response _
      obtain ⟨answers, hkept, -⟩ := Station.exists_kept
        (Station.answerOf response.head (responsePayload frame))
        ((s.count fun c => { c with framesReceived := c.framesReceived + 1 }).tell board
          (.received frame response))
      rw [hkept]
      exact h.useContent now response.content hmode

/-- Nobody follows the round of a frame while there is no inventory, so reading it is all. -/
lemma acceptFrame (now : Nat) (frame : List UInt8) (hmode : s.router.mode = .idle) :
    s.acceptFrame other now frame = s.acceptFrame board now frame := by
  have hread : (s.readFrame board now frame).router.mode = .idle :=
    (Station.inward_readFrame now frame hmode).mode hmode
  rw [Station.acceptFrame_eq, Station.acceptFrame_eq, h.readFrame now frame hmode]
  cases Frame.roundStatus? frame with
  | none => rfl
  | some status =>
      rw [Option.elim_some, Option.elim_some, Station.followRound_idle now status hread,
        Station.followRound_idle now status hread]

lemma acceptFrames (now turns : Nat) (hmode : s.router.mode = .idle) :
    s.acceptFrames other now turns = s.acceptFrames board now turns := by
  induction turns generalizing s with
  | zero => rfl
  | succ turns ih =>
      have hpulled : s.Inward board (s.pullFrame board now).2 := Station.inward_pullFrame now s
      simp only [Station.acceptFrames, h.pullFrame]
      rcases hpull : s.pullFrame board now with ⟨_ | frame, pulled⟩
      · rfl
      · rw [hpull] at hpulled
        have hidle : pulled.router.mode = .idle := hpulled.mode hmode
        have hnext : pulled.Inward board (pulled.acceptFrame board now frame).performReset :=
          (Station.inward_acceptFrame now frame hidle).trans (Station.inward_performReset _)
        simp only [h.acceptFrame now frame hidle, ih (hnext.mode hidle)]

/-- **An idle router cannot tell such boards apart**: it runs no callback and sends nothing. -/
theorem process_sharesClock (hmode : s.router.mode = .idle) :
    s.process other = s.process board := by
  set begun := (s.onRouter fun r => { r with busy := true }) with hset
  set ready := (begun.discardAfterOverrun board).performReset with hready
  have hbegun : s.Inward board ready := Station.inward_ready s
  have hidle : ready.router.mode = .idle := hbegun.mode hmode
  have hnow : begun.now other = begun.now board := congrFun h.now _
  have hturns : ready.frameTurns other = ready.frameTurns board := by
    rw [Station.frameTurns, Station.frameTurns, h.patience]
  have hframes := h.acceptFrames (begun.now board) (ready.frameTurns board) hidle
  have haccepted : ready.Inward board
      (ready.acceptFrames board (begun.now board) (ready.frameTurns board)).2 :=
    Station.inward_acceptFrames (begun.now board) _ hidle
  -- the schedule asks for nothing on either board
  have hreceived : begun.processReceived other = begun.processReceived board := by
    simp only [Station.processReceived, h.discardAfterOverrun, ← hready, hnow, hturns, hframes,
      Station.keepSchedule_idle _ (haccepted.mode hidle)]
  simp only [Station.process, ← hset, hreceived]

end Board.SharesClock

/-! ## What an idle router may change -/

/--
  A router has heard something.  It may differ in what it is receiving, in the answers it keeps, in
  what it remembers of the reader, and in its counters; in everything else it is the same.
-/
def Router.Hears (r r' : Router) : Prop :=
  ∃ resetPending collector answers profile tagCount temperature counters,
    r' = { r with resetPending, collector, answers, profile, tagCount, temperature, counters }

lemma Router.Hears.refl (r : Router) : r.Hears r :=
  ⟨r.resetPending, r.collector, r.answers, r.profile, r.tagCount, r.temperature, r.counters, rfl⟩

lemma Router.Hears.trans {r₁ r₂ r₃ : Router} (h : r₁.Hears r₂) (h' : r₂.Hears r₃) :
    r₁.Hears r₃ := by
  obtain ⟨_, _, _, _, _, _, _, rfl⟩ := h
  obtain ⟨_, _, _, _, _, _, _, rfl⟩ := h'
  exact ⟨_, _, _, _, _, _, _, rfl⟩

lemma Router.Hears.mode {r r' : Router} (h : r.Hears r') : r'.mode = r.mode := by
  obtain ⟨_, _, _, _, _, _, _, rfl⟩ := h
  rfl

/-- Outlook, busy flag and awaited request are all that hearing has to leave alone. -/
lemma Router.hears_of_outlook {r r' : Router} (h : r'.outlook = r.outlook)
    (hbusy : r'.busy = r.busy) (hawaiting : r'.awaiting = r.awaiting) : r.Hears r' := by
  simp only [outlook, stance, Prod.mk.injEq] at h
  obtain ⟨⟨hmode, hrunning, hschedule⟩, hconfig, hfilter, haddress, hshown, hnotifying⟩ := h
  refine ⟨r'.resetPending, r'.collector, r'.answers, r'.profile, r'.tagCount, r'.temperature,
    r'.counters, ?_⟩
  rw [← hmode, ← hrunning, ← hschedule, ← hconfig, ← hfilter, ← haddress, ← hshown, ← hnotifying,
    ← hbusy, ← hawaiting]

namespace Station

variable {s t : Station ε}

variable (board) in
/-- The desk takes the frames that a call of an idle router acts on. -/
lemma accepts_of_idle (hmode : s.router.mode = .idle) (hrunning : s.router.running = true)
    (hbusy : s.router.busy = false) :
    Accepts (s.dispatched board.hushed) s (s.process board).2 ∧
      (s.process board).2.router.busy = false := by
  rw [← board.sharesClock_hushed.process_sharesClock hmode]
  exact process_desk board.quiet_hushed hrunning hbusy

variable (board) in
/-- An idle router uses up what was received, unless a reset is pending. -/
lemma feeds_of_idle (hmode : s.router.mode = .idle) (hrunning : s.router.running = true)
    (hbusy : s.router.busy = false) (hpending : s.router.resetPending = false) :
    (s.process board).2.line.inbound = [] ∧
      s.dispatched board.hushed = (s.collectorAtHand.feed (s.now board) s.line.inbound).1 := by
  have hready : s.Inward board.hushed (s.ready board.hushed) := inward_ready s
  have haccepted : s.Inward board.hushed (s.accepted board.hushed) :=
    hready.trans (inward_acceptFrames (s.now board.hushed) _ (hready.mode hmode))
  obtain ⟨hempty, hframes, -⟩ := process_feeds board.quiet_hushed hrunning hbusy hpending
    (Router.mode_of_outlook haccepted.outlook)
  rw [board.sharesClock_hushed.process_sharesClock hmode] at hempty
  exact ⟨hempty, hframes⟩

lemma hears_process (hmode : s.router.mode = .idle) :
    s.router.Hears (s.process board).2.router := by
  by_cases hworks : s.router.running = true ∧ s.router.busy = false
  · obtain ⟨hrunning, hbusy⟩ := hworks
    obtain ⟨⟨hdesk, -⟩, hdone⟩ := accepts_of_idle board hmode hrunning hbusy
    have hawaiting := (Desk.awaiting_foldl (s.dispatched board.hushed) s.router.desk).1
    rw [← hdesk] at hawaiting
    exact Router.hears_of_outlook (inward_process hmode).outlook (hdone.trans hbusy.symm) hawaiting
  · rw [process_of_not hworks]
    exact .refl s.router

end Station

/-! ## Any number of calls -/

/-- Bytes arrive or are processed. -/
def Operation.isListening : Operation → Bool
  | receive _ | process => true
  | _ => false

namespace Station

/-- Whatever arrives and whenever it is processed, an idle router hears it and queues nothing. -/
lemma Runs.hears {drift : ε → ε → Prop} {s t : Station ε} (hmode : s.router.mode = .idle)
    (hrun : s.Runs board (fun operation => operation.isListening = true) drift t) :
    s.router.Hears t.router ∧ t.line.outbound = s.line.outbound := by
  induction hrun with
  | refl => exact ⟨.refl s.router, rfl⟩
  | @tail u v _ hstep ih =>
      obtain ⟨hheard, houtbound⟩ := ih
      have hidle : u.router.mode = .idle := hheard.mode.trans hmode
      cases hstep with
      | drift e _ => exact ⟨hheard, houtbound⟩
      | operate operation hlistens =>
          cases operation with
          | receive bytes => exact ⟨hheard, houtbound⟩
          | process =>
              have hkept : (u.process board).2.line.outbound = u.line.outbound :=
                outbound_of_touches (inward_process hidle).touches
              exact ⟨hheard.trans (hears_process hidle), hkept.trans houtbound⟩
          | _ => cases hlistens

end Station

/--
  **An idle router only listens.**  Let bytes arrive and be processed in any order, with the
  surroundings changing as they like in between.  Then nothing is queued, and the router differs
  from what it was only as hearing allows.  Every call runs no callback and sends nothing, as it is
  the same on any board with that clock and journal.  And it does hear: what was received is used
  up, and the frames in it come to the desk.
-/
theorem idle_only_listens {drift : ε → ε → Prop} {s t : Station ε} (hmode : s.router.mode = .idle)
    (hrun : s.Runs board (fun operation => operation.isListening = true) drift t) :
    s.router.Hears t.router ∧ t.line.outbound = s.line.outbound ∧
      (∀ other : Board ε, board.SharesClock other → t.process other = t.process board) ∧
      (t.router.running = true → t.router.busy = false → t.router.resetPending = false →
        (t.process board).2.line.inbound = [] ∧
        (t.process board).2.router.desk =
          (t.collectorAtHand.feed (t.now board) t.line.inbound).1.foldl Desk.accept
            t.router.desk) := by
  obtain ⟨hheard, houtbound⟩ := hrun.hears hmode
  have hidle : t.router.mode = .idle := hheard.mode.trans hmode
  refine ⟨hheard, houtbound, fun other h => h.process_sharesClock hidle, ?_⟩
  intro hrunning hbusy hpending
  obtain ⟨⟨hdesk, -⟩, -⟩ := Station.accepts_of_idle board hidle hrunning hbusy
  obtain ⟨hempty, hframes⟩ := Station.feeds_of_idle board hidle hrunning hbusy hpending
  exact ⟨hempty, hframes ▸ hdesk⟩

/-- A board on which whoever is called begins inventory. -/
def Board.rousing : Board Unit :=
  { Board.idle with
    deliver := fun _ s => (.ok (), s.enterMode .idle .inventory)
    notifyRead := fun s => s.enterMode .idle .inventory
    notifyError := fun _ s => s.enterMode .idle .inventory }

/-- An idle router whose schedule says that the next round is overdue. -/
def overdueStation : Station Unit :=
  ((Station.fresh .standard ()).start Board.idle).2.onRouter fun r =>
    { r with schedule := (Schedule.opened .standard 0).dueAt 0 }

/-- A tag, an error of the antenna and an answer come late, and only the answer leaves a trace. -/
theorem idle_only_listens_late_frames :
    let upload := Frame.ofBody [0x00, 0xEE, 0x00, 0x01, 0x02, 0xAA, 0xBB, 0x50]
    let t := overdueStation.receive (upload ++ antennaErrorFrame ++ tagCountFrame)
    overdueStation.router.mode = .idle ∧ t.process Board.rousing = t.process Board.idle ∧
      t.line.outbound = [] ∧ (t.process Board.idle).2.line.inbound = [] ∧
      (t.process Board.idle).2.router.tagCount = some 5 := by
  intro upload t
  have hmode : overdueStation.router.mode = .idle := rfl
  have harrived : overdueStation.Runs Board.idle
      (fun operation => operation.isListening = true) (fun _ _ => False) t :=
    .single (.operate (.receive (upload ++ antennaErrorFrame ++ tagCountFrame)) rfl)
  obtain ⟨-, houtbound, hcalls, hlistens⟩ := idle_only_listens hmode harrived
  obtain ⟨hempty, -⟩ := hlistens rfl rfl rfl
  exact ⟨hmode, hcalls .rousing ⟨rfl, rfl, rfl⟩, houtbound, hempty, by decide +kernel⟩

end RfidLink
