import RfidLink.Proofs.Feeding
import RfidLink.Proofs.Rounds

/-!
# Processing while there is no inventory

An idle router still has to listen: answers to commands come in at any time, and so do tags and ends
of rounds that are late.  None of this may have an effect outside.

* `Router.outlook` is everything of a router apart from what it is receiving, the answers it keeps,
  what it remembers of the reader, and its counters.
* `Station.Inward` says that the router has dealt with itself: it has written into its journal,
  called nobody, queued nothing, and kept its outlook.
* **`inward_process`**: while the router is idle, a call to process received bytes is of this kind,
  whatever was received.  Nothing has to be assumed about callbacks, because none is run.
-/

namespace RfidLink

variable {ε : Type} {board : Board ε}

/-- Everything of a router but what it receives, remembers of the reader, and counts. -/
def Router.outlook (r : Router) :
    (Mode × Bool × Schedule) × Config × RepeatFilter × UInt8 × Bool × Bool :=
  (r.stance, r.config, r.filter, r.address, r.errorShown, r.notifying)

lemma Router.stance_of_outlook {r r' : Router} (h : r'.outlook = r.outlook) :
    r'.stance = r.stance := congrArg Prod.fst h

lemma Router.mode_of_outlook {r r' : Router} (h : r'.outlook = r.outlook) : r'.mode = r.mode :=
  congrArg (·.1.1) h

/-- Without a schedule that has begun, a consistent router is idle. -/
lemma Router.Consistent.idle {r : Router} (h : r.Consistent) (hoff : r.inventoryActive = false) :
    r.mode = .idle := by
  cases hmode : r.mode with
  | idle => rfl
  | inventory => cases hoff.symm.trans (h.mode_iff_active.mp hmode)

namespace Station

variable {s t u : Station ε}

/-- Nobody was called, nothing was queued, and the outlook of the router is what it was. -/
structure Inward (board : Board ε) (s t : Station ε) : Prop where
  touches : s.Touches board t
  outlook : t.router.outlook = s.router.outlook

lemma Inward.refl (s : Station ε) : s.Inward board s := ⟨.refl, rfl⟩

lemma Inward.trans (hst : s.Inward board t) (htu : t.Inward board u) : s.Inward board u :=
  ⟨hst.touches.trans htu.touches, htu.outlook.trans hst.outlook⟩

lemma Inward.mode (h : s.Inward board t) (hmode : s.router.mode = .idle) :
    t.router.mode = .idle := (Router.mode_of_outlook h.outlook).trans hmode

/-- Nothing is queued in it, and nothing of what is queued is sent. -/
lemma outbound_of_touches (h : s.Touches board t) : t.line.outbound = s.line.outbound := by
  induction h with
  | refl => rfl
  | tail _ hstep ih =>
      cases hstep with
      | tell remark _ => exact ih
      | note f => exact ih
      | receive line hline => exact hline.trans ih

lemma inward_tell {remark : Remark} (h : remark.call? = none) (s : Station ε) :
    s.Inward board (s.tell board remark) := ⟨touches_tell h s, rfl⟩

lemma inward_onRouter {f : Router → Router} (h : (f s.router).outlook = s.router.outlook) :
    s.Inward board (s.onRouter f) := ⟨touches_onRouter f s, h⟩

/-! ## The two halves of a frame -/

/-- What is done about a frame before anybody looks at the status of a round in it. -/
def readFrame (board : Board ε) (now : Nat) (frame : List UInt8) (s : Station ε) : Station ε :=
  let s := s.count fun c => { c with framesReceived := c.framesReceived + 1 }
  if !Checksum.isValid frame then
    (s.count fun c => { c with framesDamaged := c.framesDamaged + 1 }).tell board
      (.damaged frame)
  else
    match Response.ofFrame frame with
    | .error cause =>
      (s.count fun c => { c with framesUnreadable := c.framesUnreadable + 1 }).tell board
        (.unreadable frame cause)
    | .ok response =>
      let s := s.tell board (.received frame response)
      let s := (answerOf response.head (responsePayload frame)).elim s s.keepAnswer
      s.useContent board now response.content

variable (board) in
/-- The rest is to follow the round, if there is the status of one in the frame. -/
lemma acceptFrame_eq (now : Nat) (frame : List UInt8) (s : Station ε) :
    s.acceptFrame board now frame = (Frame.roundStatus? frame).elim (s.readFrame board now frame)
      fun status => (s.readFrame board now frame).followRound board now status := by
  simp only [acceptFrame, readFrame, Frame.roundStatus?]
  cases Checksum.isValid frame with
  | false => rfl
  | true =>
      cases Response.ofFrame frame with
      | error cause => rfl
      | ok response =>
          simp only [acceptResponse, Bool.not_true, Bool.false_eq_true, if_true, if_false]
          split <;> rfl

/-! ## Frames -/

lemma inward_offer (now : Nat) (tag : Sighting) (hmode : s.router.mode = .idle) :
    s.Inward board (s.offer board now tag) := by
  have hcounted : s.Inward board (s.count fun c => { c with tagsRead := c.tagsRead + 1 }) :=
    inward_onRouter rfl
  have hidle : (s.count fun c => { c with tagsRead := c.tagsRead + 1 }).router.mode = .idle := hmode
  simp only [offer, if_pos hidle]
  exact hcounted.trans (inward_tell rfl _)

lemma inward_offers (now : Nat) (tags : List Sighting) (hmode : s.router.mode = .idle) :
    s.Inward board (tags.foldl (offer board now) s) := by
  induction tags generalizing s with
  | nil => exact .refl s
  | cons tag rest ih =>
      have hoffered : s.Inward board (s.offer board now tag) := inward_offer now tag hmode
      exact hoffered.trans (ih (hoffered.mode hmode))

lemma inward_useContent (now : Nat) (content : Content) (hmode : s.router.mode = .idle) :
    s.Inward board (s.useContent board now content) := by
  cases content with
  | autoUpload tag => exact inward_offer now tag hmode
  | inventory report => exact inward_offers now report.sightings hmode
  | statistics _ => exact inward_tell rfl s
  | profile p =>
      have htold : s.Inward board (s.tell board (.profile p)) := inward_tell rfl s
      exact htold.trans (inward_onRouter (f := fun r => { r with profile := some p }) rfl)
  | tagCount count => exact inward_onRouter (f := fun r => { r with tagCount := some count }) rfl
  | temperature degrees =>
      exact inward_onRouter (f := fun r => { r with temperature := some degrees }) rfl
  | readData _ => exact inward_tell rfl s
  | gpioState _ => exact inward_tell rfl s
  | other _ _ _ => exact .refl s

lemma inward_readFrame (now : Nat) (frame : List UInt8) (hmode : s.router.mode = .idle) :
    s.Inward board (s.readFrame board now frame) := by
  have hcounted : s.Inward board (s.count fun c =>
      { c with framesReceived := c.framesReceived + 1 }) := inward_onRouter rfl
  simp only [readFrame]
  split
  · have hdamaged := hcounted.trans (u := (s.count fun c =>
        { c with framesReceived := c.framesReceived + 1 }).count fun c =>
        { c with framesDamaged := c.framesDamaged + 1 }) (inward_onRouter rfl)
    exact hdamaged.trans (inward_tell rfl _)
  · split
    · have hunreadable := hcounted.trans (u := (s.count fun c =>
          { c with framesReceived := c.framesReceived + 1 }).count fun c =>
          { c with framesUnreadable := c.framesUnreadable + 1 }) (inward_onRouter rfl)
      exact hunreadable.trans (inward_tell rfl _)
    · rename_i response _
      obtain ⟨answers, hkept, -⟩ := exists_kept (answerOf response.head (responsePayload frame))
        ((s.count fun c => { c with framesReceived := c.framesReceived + 1 }).tell board
          (.received frame response))
      have hremark : (Remark.received frame response).call? = none := rfl
      have htold := hcounted.trans (inward_tell hremark _)
      have hanswered := htold.trans (u := ((s.count fun c =>
        { c with framesReceived := c.framesReceived + 1 }).tell board
          (.received frame response)).onRouter fun r => { r with answers }) (inward_onRouter rfl)
      rw [hkept]
      exact hanswered.trans (inward_useContent now response.content (hanswered.mode hmode))

/-- Late answers to a round are not followed. -/
lemma followRound_idle (now : Nat) (status : Status) (hmode : s.router.mode = .idle) :
    s.followRound board now status = s := if_pos hmode

lemma inward_acceptFrame (now : Nat) (frame : List UInt8) (hmode : s.router.mode = .idle) :
    s.Inward board (s.acceptFrame board now frame) := by
  have hread : s.Inward board (s.readFrame board now frame) := inward_readFrame now frame hmode
  rw [acceptFrame_eq]
  cases Frame.roundStatus? frame with
  | none => exact hread
  | some status => rwa [Option.elim_some, followRound_idle now status (hread.mode hmode)]

lemma inward_pullFrame (now : Nat) (s : Station ε) :
    s.Inward board (s.pullFrame board now).2 := by
  obtain ⟨_, hrouter⟩ := router_pullFrame board now s
  exact ⟨touches_pullFrame now s, by rw [hrouter]; rfl⟩

lemma inward_performReset (s : Station ε) : s.Inward board s.performReset := by
  obtain ⟨_, hrouter⟩ := router_performReset s
  exact ⟨touches_performReset s, by rw [hrouter]; rfl⟩

lemma inward_discardAfterOverrun (s : Station ε) :
    s.Inward board (s.discardAfterOverrun board) := by
  obtain ⟨_, hrouter⟩ := router_discardAfterOverrun board s
  exact ⟨touches_discardAfterOverrun s, by rw [hrouter]; rfl⟩

lemma inward_acceptFrames (now turns : Nat) (hmode : s.router.mode = .idle) :
    s.Inward board (s.acceptFrames board now turns).2 := by
  induction turns generalizing s with
  | zero => exact .refl s
  | succ turns ih =>
      have hpulled : s.Inward board (s.pullFrame board now).2 := inward_pullFrame now s
      rcases hpull : s.pullFrame board now with ⟨_ | frame, pulled⟩ <;> rw [hpull] at hpulled
      · simp only [acceptFrames, hpull]
        exact hpulled
      · have haccepted := hpulled.trans (inward_acceptFrame now frame (hpulled.mode hmode))
        have hreset := haccepted.trans (inward_performReset _)
        simp only [acceptFrames, hpull]
        exact hreset.trans (ih (hreset.mode hmode))

/-! ## A whole call -/

/-- Without inventory the schedule asks for nothing. -/
lemma keepSchedule_idle (now : Nat) (hmode : s.router.mode = .idle) :
    s.keepSchedule board now = s := by
  simp only [keepSchedule, hmode, decide_true, Bool.true_or, if_true]

lemma inward_ready (s : Station ε) : s.Inward board (s.ready board) := by
  have hbusy : s.Inward board (s.onRouter fun r => { r with busy := true }) := inward_onRouter rfl
  exact (hbusy.trans (inward_discardAfterOverrun _)).trans (inward_performReset _)

/-- **Processing while there is no inventory** concerns nobody outside. -/
theorem inward_process (hmode : s.router.mode = .idle) : s.Inward board (s.process board).2 := by
  cases hbusy : s.router.busy with
  | true =>
      simp only [process, hbusy, if_true]
      exact .refl s
  | false =>
      cases hrunning : s.router.running with
      | false =>
          simp only [process, hbusy, hrunning, Bool.not_false, Bool.false_eq_true, if_true,
            if_false]
          exact .refl s
      | true =>
          have hready : s.Inward board (s.ready board) := inward_ready s
          have haccepted : s.Inward board (s.accepted board) :=
            hready.trans (inward_acceptFrames (s.now board) _ (hready.mode hmode))
          rw [process_eq hrunning hbusy, keepSchedule_idle _ (haccepted.mode hmode)]
          exact haccepted.trans (inward_onRouter rfl)

end Station

end RfidLink
