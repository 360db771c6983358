import RfidLink.Proofs.Moves

/-!
# What processing does to the answers

Acting on a frame changes the desk once, when the frame is registered.  All that is done about it
afterwards, and all that the schedule asks for, are deeds, and no deed touches the desk while
callbacks keep quiet.

* `Station.Leaves` says that a step leaves the desk alone and adds no received bytes, and
  `Station.Deed.leaves` that every deed does.
* `Station.dispatched` are the frames that a call to process received bytes acts on.

**`Station.process_desk`** puts it together: processing what was received does to the desk what the
frames it acts on do, one after the other, and it acts on no more frames than there are bytes.
-/

namespace RfidLink

variable {ε : Type} {board : Board ε}

namespace Station

variable {s t u : Station ε}

/-! ## What leaves the desk alone -/

/-- The desk is left alone, and no received bytes are added. -/
structure Leaves (s t : Station ε) : Prop where
  desk : t.router.desk = s.router.desk
  inbound : t.line.inbound.length ≤ s.line.inbound.length

lemma Leaves.refl (s : Station ε) : s.Leaves s := ⟨rfl, Nat.le_refl _⟩

lemma Leaves.trans (hst : s.Leaves t) (htu : t.Leaves u) : s.Leaves u :=
  ⟨htu.desk.trans hst.desk, Nat.le_trans htu.inbound hst.inbound⟩

/-- Nothing on the desk has changed, and the received bytes are the same. -/
lemma Leaves.of_eq (hdesk : t.router.desk = s.router.desk)
    (hinbound : t.line.inbound = s.line.inbound) : s.Leaves t :=
  ⟨hdesk, Nat.le_of_eq (by rw [hinbound])⟩

lemma Around.leaves (h : s.Around t) : s.Leaves t := by
  refine .of_eq ?_ ?_
  · rw [h.router]
  · rw [h.line]

variable (board) in
lemma leaves_tellAll (remarks : List Remark) (s : Station ε) :
    s.Leaves (s.tellAll board remarks) := by
  induction remarks generalizing s with
  | nil => exact .refl s
  | cons remark rest ih =>
      have hfirst : s.Leaves (s.tell board remark) := .of_eq rfl rfl
      exact hfirst.trans (ih _)

lemma leaves_performReset (s : Station ε) : s.Leaves s.performReset := by
  simp only [performReset]
  split
  · exact ⟨rfl, Nat.zero_le _⟩
  · exact .refl s

lemma leaves_resetUnlessBusy (s : Station ε) : s.Leaves s.resetUnlessBusy := by
  simp only [resetUnlessBusy]
  split
  · exact .refl s
  · exact leaves_performReset s

lemma leaves_enterMode (mode : Mode) (s : Station ε) : s.Leaves (s.enterMode board mode) := by
  simp only [enterMode]
  split
  · exact .refl s
  · refine Leaves.trans ?_ (leaves_resetUnlessBusy _)
    exact .of_eq rfl rfl

lemma leaves_endOnlyRound (s : Station ε) : s.Leaves (s.endOnlyRound board) := by
  have hended : s.Leaves s.endSchedule := .of_eq rfl rfl
  exact (hended.trans (leaves_tellAll board _ _)).trans (leaves_enterMode .idle _)

/-- A command that is queued is none of the things on a desk. -/
lemma leaves_sendTo (address : UInt8) (command : Command) (s : Station ε) :
    s.Leaves (s.sendTo board address command).2 := by
  obtain ⟨_, hrouter⟩ := router_sendTo board address command s
  exact .of_eq (by rw [hrouter]; rfl) (inbound_sendTo board address command s)

variable (board) in
lemma leaves_discardAfterOverrun (s : Station ε) : s.Leaves (s.discardAfterOverrun board) := by
  simp only [discardAfterOverrun]
  split
  · exact .of_eq rfl rfl
  · exact .of_eq rfl rfl

/-- **No deed touches the desk**, if callbacks keep quiet. -/
lemma Deed.leaves (hquiet : board.Quiet) (h : Deed board s t) : s.Leaves t := by
  cases h with
  | tell remark _ => exact .of_eq rfl rfl
  | note f hf => exact .of_eq (congrArg (·.2.2) (hf s.router)) rfl
  | deliver text => exact (hquiet.deliver text s).leaves
  | notifyRead => exact (hquiet.notifyRead s).leaves
  | notifyError isOn => exact (hquiet.notifyError isOn s).leaves
  | sendTo address command => exact leaves_sendTo address command s
  | reschedule f _ _ _ => exact .of_eq rfl rfl
  | endInventory =>
      have hended : s.Leaves s.endSchedule := .of_eq rfl rfl
      exact hended.trans (leaves_enterMode .idle _)
  | endOnlyRound => exact leaves_endOnlyRound s

lemma Deeds.leaves (hquiet : board.Quiet) (h : s.Deeds board t) : s.Leaves t := by
  induction h with
  | refl => exact .refl s
  | tail _ hstep ih => exact ih.trans (hstep.leaves hquiet)

/-! ## Frames -/

/-- What one frame does to the desk. -/
lemma desk_acceptFrame (hquiet : board.Quiet) (now : Nat) (frame : List UInt8) (s : Station ε) :
    (s.acceptFrame board now frame).router.desk = s.router.desk.accept frame ∧
      (s.acceptFrame board now frame).line.inbound.length ≤ s.line.inbound.length := by
  obtain ⟨router, remark, hregisters, -, hdeeds⟩ := exists_registers board now frame s
  have hdone := hdeeds.leaves hquiet
  exact ⟨hdone.desk.trans hregisters.desk, hdone.inbound⟩

/-- A search for a frame uses up bytes, and at least one if it finds a frame. -/
lemma length_rest_search (now : Nat) (bytes : List UInt8) (c : FrameCollector) :
    (c.search now bytes).rest.length + (c.search now bytes).frame.toList.length ≤ bytes.length := by
  induction bytes generalizing c with
  | nil => exact Nat.le_refl _
  | cons byte rest ih =>
      rcases hpush : c.push byte now with ⟨e | isComplete, c'⟩
      · have hrest := ih c'
        simp only [FrameCollector.search, hpush, List.length_cons]
        omega
      · cases isComplete with
        | false =>
            have hrest := ih c'
            simp only [FrameCollector.search, hpush, List.length_cons]
            omega
        | true =>
            have hone : c'.frame?.toList.length ≤ 1 := by cases c'.frame? <;> simp
            simp only [FrameCollector.search, hpush, List.length_cons]
            omega

variable (board) in
lemma desk_pullFrame (now : Nat) (s : Station ε) :
    (s.pullFrame board now).2.router.desk = s.router.desk ∧
      (s.pullFrame board now).2.line.inbound.length + (s.pullFrame board now).1.toList.length ≤
        s.line.inbound.length := by
  set search := s.router.collector.search now s.line.inbound with hsearch
  set pulled : Station ε :=
    { s with
      router := { s.router with collector := search.collector }.count fun c =>
        { c with framingErrors :=
            c.framingErrors + (search.collector.errors - s.router.collector.errors) }
      line := { s.line with inbound := search.rest } } with hpulled
  have htold := leaves_tellAll board (search.errors.map .startRefused) pulled
  refine ⟨htold.desk, ?_⟩
  have hbytes := length_rest_search now s.line.inbound s.router.collector
  exact Nat.le_trans (Nat.add_le_add_right htold.inbound _) hbytes

/-- The desk has taken the given frames, and each of them has used up a received byte. -/
structure Accepts (frames : List (List UInt8)) (s t : Station ε) : Prop where
  desk : t.router.desk = frames.foldl Desk.accept s.router.desk
  inbound : t.line.inbound.length + frames.length ≤ s.line.inbound.length

lemma accepts_acceptFrames (hquiet : board.Quiet) (now turns : Nat) (s : Station ε) :
    Accepts (s.acceptFrames board now turns).1 s (s.acceptFrames board now turns).2 := by
  induction turns generalizing s with
  | zero => exact ⟨rfl, Nat.le_refl _⟩
  | succ turns ih =>
      obtain ⟨hdesk, hinbound⟩ := desk_pullFrame board now s
      rcases hpull : s.pullFrame board now with ⟨_ | frame, pulled⟩
      · rw [hpull] at hdesk hinbound
        simp only [acceptFrames, hpull]
        exact ⟨hdesk, hinbound⟩
      · rw [hpull] at hdesk hinbound
        obtain ⟨haccepted, hfewer⟩ := desk_acceptFrame hquiet now frame pulled
        have hreset := leaves_performReset (pulled.acceptFrame board now frame)
        have hrest := ih (pulled.acceptFrame board now frame).performReset
        simp only [acceptFrames, hpull]
        constructor
        · rw [hrest.desk, hreset.desk, haccepted, hdesk, List.foldl_cons]
        · have hlength := hrest.inbound
          have hafter := hreset.inbound
          simp only [Option.toList_some, List.length_cons, List.length_nil] at hinbound ⊢
          omega

/-! ## Processing -/

/-- The frames that a call to process received bytes acts on, in their order. -/
def dispatched (board : Board ε) (s : Station ε) : List (List UInt8) :=
  if s.router.busy || !s.router.running then []
  else ((s.onRouter fun r => { r with busy := true }).processReceived board).1

lemma accepts_processReceived (hquiet : board.Quiet) (s : Station ε) :
    Accepts (s.processReceived board).1 s (s.processReceived board).2 := by
  have hready := (leaves_discardAfterOverrun board s).trans (leaves_performReset _)
  have haccepted := accepts_acceptFrames hquiet (s.now board)
    ((s.discardAfterOverrun board).performReset.frameTurns board)
    (s.discardAfterOverrun board).performReset
  have hscheduled := (deeds_keepSchedule board (s.now board)
    ((s.discardAfterOverrun board).performReset.acceptFrames board (s.now board)
      ((s.discardAfterOverrun board).performReset.frameTurns board)).2).leaves hquiet
  simp only [processReceived]
  constructor
  · rw [hscheduled.desk, haccepted.desk, hready.desk]
  · have h₁ := hready.inbound
    have h₂ := haccepted.inbound
    have h₃ := hscheduled.inbound
    omega

/-- **What processing does to the desk** is what the frames do, and nobody is at work afterwards. -/
theorem process_desk (hquiet : board.Quiet) {s : Station ε} (hrunning : s.router.running = true)
    (hbusy : s.router.busy = false) :
    Accepts (s.dispatched board) s (s.process board).2 ∧
      (s.process board).2.router.busy = false := by
  have haccepted := accepts_processReceived hquiet (s.onRouter fun r => { r with busy := true })
  have hdispatched : s.dispatched board =
      ((s.onRouter fun r => { r with busy := true }).processReceived board).1 := by
    simp only [dispatched, hbusy, hrunning, Bool.not_true, Bool.or_false, Bool.false_eq_true,
      if_false]
  have hprocess : (s.process board).2 =
      ((s.onRouter fun r => { r with busy := true }).processReceived board).2.onRouter
        fun r => { r with busy := false } := by
    simp only [process, hbusy, hrunning, Bool.not_true, Bool.false_eq_true, if_false]
  rw [hdispatched, hprocess]
  exact ⟨⟨haccepted.desk, haccepted.inbound⟩, rfl⟩

end Station

end RfidLink
