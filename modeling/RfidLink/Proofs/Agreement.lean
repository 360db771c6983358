import RfidLink.Proofs.Contents
import RfidLink.Proofs.Dispatching

/-!
# Boards that do the same where they are asked

What the router does depends on a board only as far as the board is asked.  Two boards may differ
as they like on stations that never come before their callbacks, and on texts that are never
delivered: then no call can tell them apart.

* What calls nobody depends on the devices alone (`Board.SameDevices.sendTo` and its neighbours).
* `Board.Matches P Q` is the agreement of two boards on every station whose busy flag satisfies `P`
  and on every text that satisfies `Q`, for callbacks that keep `P`.
* `Deeds.busy` is the step: whatever is done about a frame or about the schedule keeps `P`.
* **`Board.Matches.process`** is the run.  If every tag in the frames that are acted on has a text
  that satisfies `Q`, then processing what was received is the same on both boards.

To say that callbacks are run on busy stations only, or that a text is never delivered, is therefore
to say that boards which differ elsewhere cannot be told apart.
-/

namespace RfidLink

variable {ε : Type} {board other : Board ε} {s t : Station ε}

/-! ## What depends on the devices alone -/

namespace Board.SameDevices

/-- The second board is the first one with other callbacks and another patience. -/
lemma eq_of (h : board.SameDevices other) : other =
    { board with
      deliver := other.deliver
      notifyRead := other.notifyRead
      notifyError := other.notifyError
      notifyRunning := other.notifyRunning
      wait := other.wait
      patience := other.patience } := by
  obtain ⟨hnow, hsettings, hwrite, hemit, hinterrupts⟩ := h
  simp only [hnow, hsettings, hwrite, hemit, hinterrupts]

variable (h : board.SameDevices other)

include h

lemma tell (remark : Remark) (s : Station ε) : s.tell other remark = s.tell board remark := by
  rw [h.eq_of]; rfl

lemma enterMode (mode : Mode) (s : Station ε) :
    s.enterMode other mode = s.enterMode board mode := by
  rw [h.eq_of]; rfl

lemma start (s : Station ε) : s.start other = s.start board := by
  rw [h.eq_of]; rfl

lemma stop (s : Station ε) : s.stop other = s.stop board := by
  rw [h.eq_of]; rfl

lemma reportTotals (s : Station ε) : s.reportTotals other = s.reportTotals board := by
  rw [h.eq_of]; rfl

lemma endOnlyRound (s : Station ε) : s.endOnlyRound other = s.endOnlyRound board := by
  rw [h.eq_of]; rfl

lemma discardAfterOverrun (s : Station ε) :
    s.discardAfterOverrun other = s.discardAfterOverrun board := by
  rw [h.eq_of]; rfl

lemma pullFrame (now : Nat) (s : Station ε) : s.pullFrame other now = s.pullFrame board now := by
  rw [h.eq_of]; rfl

lemma emitAll (bytes : List UInt8) (e : ε) :
    Station.emitAll other bytes e = Station.emitAll board bytes e := by
  induction bytes generalizing e with
  | nil => rfl
  | cons byte rest ih => simp only [Station.emitAll, h.emit, ih]

lemma transmit (s : Station ε) : s.transmit other = s.transmit board := by
  simp only [Station.transmit, h.emitAll]

lemma transmitTimes (times : Nat) (s : Station ε) :
    s.transmitTimes other times = s.transmitTimes board times := by
  induction times generalizing s with
  | zero => rfl
  | succ times ih => rw [Station.transmitTimes, Station.transmitTimes, h.transmit, ih]

lemma interrupted (s : Station ε) : s.interrupted other = s.interrupted board := by
  simp only [Station.interrupted, h.interrupts, h.transmitTimes]

lemma enqueueAll (frame : List UInt8) (s : Station ε) :
    s.enqueueAll other frame = s.enqueueAll board frame := by
  induction frame generalizing s with
  | nil => rfl
  | cons byte rest ih => simp only [Station.enqueueAll, h.interrupted, ih]

lemma sendTo (address : UInt8) (command : Command) (s : Station ε) :
    s.sendTo other address command = s.sendTo board address command := by
  simp only [Station.sendTo, h.interrupted, h.enqueueAll, h.tell]

lemma sendRaw (code : UInt8) (args : List UInt8) (s : Station ε) :
    s.sendRaw other code args = s.sendRaw board code args := by
  simp only [Station.sendRaw, Station.send, h.sendTo]

lemma startRound (now : Nat) (s : Station ε) :
    s.startRound other now = s.startRound board now := by
  simp only [Station.startRound, Station.send, h.sendTo, h.tell]

lemma keepSchedule (now : Nat) (s : Station ε) :
    s.keepSchedule other now = s.keepSchedule board now := by
  simp only [Station.keepSchedule, Station.abandonRound, h.tell, h.endOnlyRound, h.startRound]

end Board.SameDevices

/-! ## What keeps the busy flag -/

namespace Station

variable {P : Bool → Prop}

/-- The busy flag is one that satisfies `P`. -/
def Fits (P : Bool → Prop) (s : Station ε) : Prop := P s.router.busy

lemma fits_of_receiving (h : t.router.receiving = s.router.receiving) (hs : s.Fits P) :
    t.Fits P := by
  have hbusy : t.router.busy = s.router.busy := congrArg (·.2.2) h
  rw [Fits, hbusy]
  exact hs

lemma fits_performReset (hs : s.Fits P) : s.performReset.Fits P := by
  obtain ⟨_, hrouter⟩ := router_performReset s
  rw [Fits, hrouter]
  exact hs

variable (board) in
lemma fits_pullFrame (now : Nat) (hs : s.Fits P) : (s.pullFrame board now).2.Fits P := by
  obtain ⟨_, hrouter⟩ := router_pullFrame board now s
  rw [Fits, hrouter]
  exact hs

variable (board) in
lemma fits_discardAfterOverrun (hs : s.Fits P) : (s.discardAfterOverrun board).Fits P := by
  obtain ⟨_, hrouter⟩ := router_discardAfterOverrun board s
  rw [Fits, hrouter]
  exact hs

variable (board) in
lemma fits_sendTo (address : UInt8) (command : Command) (hs : s.Fits P) :
    (s.sendTo board address command).2.Fits P := by
  obtain ⟨_, hrouter⟩ := router_sendTo board address command s
  rw [Fits, hrouter]
  exact hs

variable (board) in
lemma fits_enterMode (mode : Mode) (hs : s.Fits P) : (s.enterMode board mode).Fits P := by
  obtain ⟨_, _, hrouter⟩ := router_enterMode board mode s
  rw [Fits, hrouter]
  exact hs

variable (board) in
lemma fits_endOnlyRound (hs : s.Fits P) : (s.endOnlyRound board).Fits P := by
  refine fits_enterMode board .idle ?_
  rw [Fits, reportTotals, router_tellAll]
  exact hs

/-- **One deed keeps what callbacks keep of the busy flag.** -/
lemma Deed.fits (hkeep : board.CallbacksAre fun s t => s.Fits P → t.Fits P) (h : Deed board s t)
    (hs : s.Fits P) : t.Fits P := by
  cases h with
  | tell remark _ => exact hs
  | note f hf => exact fits_of_receiving (congrArg (·.2.1) (hf s.router)) hs
  | deliver text => exact hkeep.deliver text s hs
  | notifyRead => exact hkeep.notifyRead s hs
  | notifyError isOn => exact hkeep.notifyError isOn s hs
  | sendTo address command => exact fits_sendTo board address command hs
  | reschedule f _ _ _ => exact hs
  | endInventory => exact fits_enterMode board .idle (s := s.endSchedule) hs
  | endOnlyRound => exact fits_endOnlyRound board hs

lemma Deeds.fits (hkeep : board.CallbacksAre fun s t => s.Fits P → t.Fits P)
    (h : s.Deeds board t) (hs : s.Fits P) : t.Fits P := by
  induction h with
  | refl => exact hs
  | tail _ hstep ih => exact hstep.fits hkeep ih

lemma Uses.fits (hkeep : board.CallbacksAre fun s t => s.Fits P → t.Fits P)
    (h : s.Uses board t) (hs : s.Fits P) : t.Fits P := h.deeds.fits hkeep hs

lemma fits_acceptFrame (hkeep : board.CallbacksAre fun s t => s.Fits P → t.Fits P) (now : Nat)
    (frame : List UInt8) (hs : s.Fits P) : (s.acceptFrame board now frame).Fits P := by
  obtain ⟨router, remark, hregisters, -, hdeeds⟩ := exists_registers board now frame s
  have hregistered : ((s.onRouter fun _ => router).tell board remark).Fits P :=
    fits_of_receiving hregisters.receiving hs
  exact hdeeds.fits hkeep hregistered

end Station

/-! ## Agreement -/

/-- Every tag in a frame has a text that satisfies `Q`, in whatever groups it is written. -/
def Frame.Texts (Q : String → Prop) (frame : List UInt8) : Prop :=
  ∀ response, Response.ofFrame frame = .ok response →
    ∀ tag ∈ response.content.sightings, ∀ group, Q (tag.text group)

/--
  Two boards with the same devices.  Their callbacks do the same on stations whose busy flag
  satisfies `P`, as far as delivered texts satisfy `Q`, and keep such stations such.
-/
structure Board.Matches (P : Bool → Prop) (Q : String → Prop) (board other : Board ε) : Prop where
  devices : board.SameDevices other
  patience : other.patience = board.patience
  deliver : ∀ text s, Q text → s.Fits P → other.deliver text s = board.deliver text s
  notifyRead : ∀ s, s.Fits P → other.notifyRead s = board.notifyRead s
  notifyError : ∀ isOn s, s.Fits P → other.notifyError isOn s = board.notifyError isOn s
  notifyRunning : ∀ isOn s, s.Fits P → other.notifyRunning isOn s = board.notifyRunning isOn s
  wait : ∀ ms s, s.Fits P → other.wait ms s = board.wait ms s
  keep : board.CallbacksAre fun s t => s.Fits P → t.Fits P

namespace Board.Matches

variable {P : Bool → Prop} {Q : String → Prop} (h : board.Matches P Q other)

include h

omit h in
/-- A notification is the same if it is on every fitting station. -/
lemma notify {notification notification' : Station ε → Station ε}
    (h : ∀ s, s.Fits P → notification' s = notification s) (hs : s.Fits P) :
    s.notify notification' = s.notify notification := by
  have hset : (s.onRouter fun r => { r with notifying := true }).Fits P := hs
  simp only [Station.notify, h _ hset]

lemma passOn {tag : Sighting} (htext : ∀ group, Q (tag.text group)) (hs : s.Fits P) :
    s.passOn other tag = s.passOn board tag := by
  set text := tag.text s.router.config.epcGroupBytes.toNat with htext'
  have htold : (s.tell board (.tag text tag)).Fits P := hs
  have hsame := h.deliver text _ (htext _) htold
  have hdelivered := h.keep.deliver text _ htold
  simp only [Station.passOn, ← htext', h.devices.tell, hsame]
  rcases hsent : board.deliver text (s.tell board (.tag text tag)) with ⟨_ | _, u⟩
  · rfl
  · rw [hsent] at hdelivered
    exact notify h.notifyRead hdelivered

lemma offer (now : Nat) {tag : Sighting} (htext : ∀ group, Q (tag.text group)) (hs : s.Fits P) :
    s.offer other now tag = s.offer board now tag := by
  simp only [Station.offer, h.devices.tell]
  split
  · rfl
  · split
    · exact h.passOn htext hs
    · rfl

lemma offers (now : Nat) {tags : List Sighting} (htexts : ∀ tag ∈ tags, ∀ group, Q (tag.text group))
    (hs : s.Fits P) :
    tags.foldl (Station.offer other now) s = tags.foldl (Station.offer board now) s := by
  induction tags generalizing s with
  | nil => rfl
  | cons tag rest ih =>
      have hfirst : ∀ group, Q (tag.text group) := htexts tag List.mem_cons_self
      have hrest : ∀ tag ∈ rest, ∀ group, Q (tag.text group) :=
        fun tag htag => htexts tag (List.mem_cons_of_mem _ htag)
      have hoffered : (s.offer board now tag).Fits P :=
        (Station.uses_offer now tag s).fits h.keep hs
      simp only [List.foldl_cons, h.offer now hfirst hs]
      exact ih hrest hoffered

lemma useContent (now : Nat) {content : Content}
    (htexts : ∀ tag ∈ content.sightings, ∀ group, Q (tag.text group)) (hs : s.Fits P) :
    s.useContent other now content = s.useContent board now content := by
  cases content with
  | autoUpload tag => exact h.offer now (htexts tag List.mem_cons_self) hs
  | inventory report => exact h.offers now htexts hs
  | statistics | readData | gpioState => exact h.devices.tell _ s
  | profile profile => simp only [Station.useContent, h.devices.tell]
  | tagCount | temperature | other => rfl

lemma followRound (now : Nat) (status : Status) (hs : s.Fits P) :
    s.followRound other now status = s.followRound board now status := by
  have hshown : ((s.tell board .antennaError).onRouter fun r => { r with errorShown := true }).Fits
      P := hs
  have hstopped : s.stopForAntenna other = s.stopForAntenna board := by
    simp only [Station.stopForAntenna, h.devices.tell, h.devices.enterMode,
      notify (h.notifyError true) hshown]
  simp only [Station.followRound, hstopped, h.devices.endOnlyRound]

lemma acceptResponse (now : Nat) {frame : List UInt8} {response : Response}
    (htexts : ∀ tag ∈ response.content.sightings, ∀ group, Q (tag.text group)) (hs : s.Fits P) :
    s.acceptResponse other now frame response = s.acceptResponse board now frame response := by
  have htold : (s.tell board (.received frame response)).Fits P := hs
  obtain ⟨answers, hkept, -⟩ := Station.exists_kept
    (Station.answerOf response.head (responsePayload frame)) (s.tell board (.received frame response))
  set noted := (s.tell board (.received frame response)).onRouter fun r => { r with answers }
    with hnoted
  have hfits : noted.Fits P := hs
  have hused : (noted.useContent board now response.content).Fits P :=
    (Station.uses_useContent now response.content noted).fits h.keep hfits
  simp only [Station.acceptResponse, h.devices.tell, hkept, h.useContent now htexts hfits]
  split
  · exact h.followRound now _ hused
  · rfl

lemma acceptFrame (now : Nat) {frame : List UInt8} (htexts : Frame.Texts Q frame)
    (hs : s.Fits P) : s.acceptFrame other now frame = s.acceptFrame board now frame := by
  have hcounted : (s.count fun c => { c with framesReceived := c.framesReceived + 1 }).Fits P := hs
  simp only [Station.acceptFrame, h.devices.tell]
  split
  · rfl
  · split
    · rfl
    · rename_i response hread
      exact h.acceptResponse now (htexts response hread) hcounted

/-- **The loop over frames**: one frame after the other, both boards do the same. -/
lemma acceptFrames (now turns : Nat) (hs : s.Fits P)
    (htexts : ∀ frame ∈ (s.acceptFrames board now turns).1, Frame.Texts Q frame) :
    s.acceptFrames other now turns = s.acceptFrames board now turns := by
  induction turns generalizing s with
  | zero => rfl
  | succ turns ih =>
      have hpulled : (s.pullFrame board now).2.Fits P := Station.fits_pullFrame board now hs
      rw [Station.acceptFrames] at htexts
      simp only [Station.acceptFrames, h.devices.pullFrame]
      rcases hpull : s.pullFrame board now with ⟨_ | frame, pulled⟩
      · rfl
      · rw [hpull] at hpulled htexts
        have hfirst : Frame.Texts Q frame := htexts frame List.mem_cons_self
        have haccepted := h.acceptFrame now hfirst hpulled
        have hnext : (pulled.acceptFrame board now frame).performReset.Fits P :=
          Station.fits_performReset (Station.fits_acceptFrame h.keep now frame hpulled)
        have hrest := ih hnext fun f hf => htexts f (List.mem_cons_of_mem _ hf)
        simp only [haccepted, hrest]

lemma processReceived (hs : s.Fits P)
    (htexts : ∀ frame ∈ (s.processReceived board).1, Frame.Texts Q frame) :
    s.processReceived other = s.processReceived board := by
  have hready : (s.discardAfterOverrun board).performReset.Fits P :=
    Station.fits_performReset (Station.fits_discardAfterOverrun board hs)
  have hnow : s.now other = s.now board := congrFun h.devices.now.symm _
  have haccepted := h.acceptFrames (s.now board)
    ((s.discardAfterOverrun board).performReset.frameTurns board) hready htexts
  simp only [Station.frameTurns] at haccepted
  simp only [Station.processReceived, h.devices.discardAfterOverrun, h.devices.keepSchedule, hnow,
    Station.frameTurns, h.patience, haccepted]

/--
  **Two boards that match cannot be told apart by a call** that acts on frames whose tags have texts
  on which they match.
-/
theorem process (hbusy : P true) (htexts : ∀ frame ∈ s.dispatched board, Frame.Texts Q frame) :
    s.process other = s.process board := by
  simp only [Station.dispatched] at htexts
  simp only [Station.process]
  split
  · rfl
  · split
    · rfl
    · rename_i hidle hrunning
      simp only [hidle, hrunning, Bool.or_self, Bool.false_eq_true, if_false] at htexts
      have hset : (s.onRouter fun r => { r with busy := true }).Fits P := hbusy
      simp only [h.processReceived hset htexts]

end Board.Matches

end RfidLink
