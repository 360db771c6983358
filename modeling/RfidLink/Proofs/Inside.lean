import Mathlib.Logic.Relation
import RfidLink.Proofs.Queueing
import RfidLink.Router.Process

/-!
# What stays inside a station

Much of what the router does is nobody else's business: it writes into the journal, remembers
something, and throws away received bytes.  Such a part calls nobody and queues nothing.

* `Station.Touch` is one such step and `Station.Touches` any number of them.
* A change of mode, starting, stopping, reporting the totals and searching for a frame are of this
  kind (`touches_enterMode` and its neighbours).  What no touch changes is therefore kept by all of
  them.
* What they change of the router is said exactly (`router_enterMode` and its neighbours).
-/

namespace RfidLink

variable {ε : Type} {board : Board ε}

namespace Station

/-- A remark that is no record of a call, a change of the router, or a change of received bytes. -/
inductive Touch (board : Board ε) : Station ε → Station ε → Prop
  | tell (s) (remark : Remark) (h : remark.call? = none) : Touch board s (s.tell board remark)
  | note (s) (f : Router → Router) : Touch board s (s.onRouter f)
  | receive (s) (line : Line) (h : line.outbound = s.line.outbound) :
      Touch board s { s with line }

abbrev Touches (board : Board ε) : Station ε → Station ε → Prop :=
  Relation.ReflTransGen (Touch board)

lemma touches_tell {remark : Remark} (h : remark.call? = none) (s : Station ε) :
    s.Touches board (s.tell board remark) := .single (.tell s remark h)

lemma touches_onRouter (f : Router → Router) (s : Station ε) :
    s.Touches board (s.onRouter f) := .single (.note s f)

/-- What the journal writes about anything but queued commands does not concern this part. -/
lemma part_of_touches {α : Type} {part : ε → α} {s t : Station ε}
    (hwrite : ∀ remark e, remark.call? = none → part (board.write remark e) = part e)
    (h : s.Touches board t) : part t.surroundings = part s.surroundings := by
  induction h with
  | refl => rfl
  | tail _ hstep ih =>
      cases hstep with
      | tell remark hremark => exact (hwrite remark _ hremark).trans ih
      | note f => exact ih
      | receive line _ => exact ih

lemma touches_tellAll {remarks : List Remark} (h : ∀ r ∈ remarks, r.call? = none)
    (s : Station ε) : s.Touches board (s.tellAll board remarks) := by
  induction remarks generalizing s with
  | nil => exact .refl
  | cons remark rest ih =>
      have hfirst : remark.call? = none := h remark List.mem_cons_self
      have hrest : ∀ r ∈ rest, r.call? = none := fun r hr => h r (List.mem_cons_of_mem _ hr)
      exact (touches_tell hfirst s).trans (ih hrest _)

lemma touches_performReset (s : Station ε) : s.Touches board s.performReset := by
  simp only [performReset]
  split
  · have hnoted : s.Touches board
        (s.onRouter fun r => { r with resetPending := false, collector := r.collector.reset }) :=
      touches_onRouter _ s
    exact hnoted.tail (.receive _ s.line.clearInbound rfl)
  · exact .refl

lemma touches_resetUnlessBusy (s : Station ε) : s.Touches board s.resetUnlessBusy := by
  simp only [resetUnlessBusy]
  split
  · exact .refl
  · exact touches_performReset s

lemma touches_enterMode (mode : Mode) (s : Station ε) :
    s.Touches board (s.enterMode board mode) := by
  simp only [enterMode]
  split
  · exact .refl
  · have hnoted : s.Touches board (s.onRouter fun r => { r with mode, resetPending := true }) :=
      touches_onRouter _ s
    exact (hnoted.trans (touches_tell rfl _)).trans (touches_resetUnlessBusy _)

lemma touches_start (s : Station ε) : s.Touches board (s.start board).2 := by
  simp only [start]
  split
  · exact .refl
  · have hnoted : s.Touches board
        (s.onRouter fun r => { r with running := true, mode := .idle, resetPending := true }) :=
      touches_onRouter _ s
    exact (hnoted.trans (touches_resetUnlessBusy _)).trans (touches_tell rfl _)

lemma touches_stop (s : Station ε) : s.Touches board (s.stop board).2 := by
  simp only [stop]
  split
  · have hended : s.Touches board (s.onRouter fun r => { r with running := false }).endSchedule :=
      (touches_onRouter _ s).trans (touches_onRouter Router.endSchedule _)
    exact (hended.trans (touches_enterMode .idle _)).trans (touches_tell rfl _)
  · exact .refl

lemma touches_reportTotals (s : Station ε) : s.Touches board (s.reportTotals board).2 := by
  refine touches_tellAll ?_ s
  intro r hr
  rcases List.mem_cons.mp hr with rfl | hr
  · rfl
  · obtain ⟨_, _, rfl⟩ := List.mem_map.mp hr
    rfl

lemma touches_endOnlyRound (s : Station ε) : s.Touches board (s.endOnlyRound board) := by
  have hended : s.Touches board s.endSchedule := touches_onRouter Router.endSchedule s
  exact (hended.trans (touches_reportTotals _)).trans (touches_enterMode .idle _)

lemma touches_discardAfterOverrun (s : Station ε) :
    s.Touches board (s.discardAfterOverrun board) := by
  have htaken : s.Touches board { s with line := s.line.takeOverrun.2 } :=
    .single (.receive s _ rfl)
  simp only [discardAfterOverrun]
  split
  · exact (htaken.trans (touches_tell rfl _)).trans (touches_onRouter _ _)
  · exact htaken

lemma touches_pullFrame (now : Nat) (s : Station ε) :
    s.Touches board (s.pullFrame board now).2 := by
  set search := s.router.collector.search now s.line.inbound with hsearch
  have hcollected : s.Touches board (s.onRouter fun r =>
      { r with collector := search.collector }.count fun c =>
        { c with framingErrors :=
            c.framingErrors + (search.collector.errors - s.router.collector.errors) }) :=
    touches_onRouter _ s
  have hused := hcollected.tail (.receive _ { s.line with inbound := search.rest } rfl)
  refine hused.trans (touches_tellAll ?_ _)
  intro remark hremark
  obtain ⟨_, _, rfl⟩ := List.mem_map.mp hremark
  rfl

/-! ## The router inside -/

variable (board) in
@[simp] lemma router_tellAll (remarks : List Remark) (s : Station ε) :
    (s.tellAll board remarks).router = s.router := by
  induction remarks generalizing s with
  | nil => rfl
  | cons remark rest ih => exact ih (s.tell board remark)

variable (board) in
@[simp] lemma line_tellAll (remarks : List Remark) (s : Station ε) :
    (s.tellAll board remarks).line = s.line := by
  induction remarks generalizing s with
  | nil => rfl
  | cons remark rest ih => exact ih (s.tell board remark)

variable (board) in
/-- A search for a frame changes the collector and counts the errors on the way. -/
lemma router_pullFrame (now : Nat) (s : Station ε) : ∃ counters,
    (s.pullFrame board now).2.router =
      { s.router with
        collector := (s.router.collector.search now s.line.inbound).collector, counters } :=
  ⟨_, router_tellAll board _ _⟩

variable (board) in
lemma line_pullFrame (now : Nat) (s : Station ε) : (s.pullFrame board now).2.line =
    { s.line with inbound := (s.router.collector.search now s.line.inbound).rest } :=
  line_tellAll board _ _

variable (board) in
/-- Lost bytes cost the frame that is being received. -/
lemma router_discardAfterOverrun (s : Station ε) : ∃ collector,
    (s.discardAfterOverrun board).router = { s.router with collector } := by
  simp only [discardAfterOverrun]
  split
  · exact ⟨s.router.collector.reset, rfl⟩
  · exact ⟨s.router.collector, rfl⟩

lemma router_performReset (s : Station ε) : ∃ collector,
    s.performReset.router = { s.router with resetPending := false, collector } := by
  simp only [performReset]
  split
  · exact ⟨s.router.collector.reset, rfl⟩
  · rename_i h
    rw [Bool.not_eq_true] at h
    rw [← h]
    exact ⟨s.router.collector, rfl⟩

lemma router_resetUnlessBusy (s : Station ε) : ∃ resetPending collector,
    s.resetUnlessBusy.router = { s.router with resetPending, collector } := by
  simp only [resetUnlessBusy, performReset]
  split
  · exact ⟨s.router.resetPending, s.router.collector, rfl⟩
  · split
    · exact ⟨false, s.router.collector.reset, rfl⟩
    · exact ⟨s.router.resetPending, s.router.collector, rfl⟩

variable (board) in
/-- A change of mode sets the mode and is done with the frame that is being received. -/
lemma router_enterMode (mode : Mode) (s : Station ε) : ∃ resetPending collector,
    (s.enterMode board mode).router = { s.router with mode, resetPending, collector } := by
  simp only [enterMode]
  split
  · rename_i h
    rw [← h]
    exact ⟨s.router.resetPending, s.router.collector, rfl⟩
  · obtain ⟨resetPending, collector, h⟩ := router_resetUnlessBusy
      ((s.onRouter fun r => { r with mode, resetPending := true }).tell board
        (.modeChanged s.router.mode mode))
    exact ⟨resetPending, collector, h⟩

/-- A notification that leaves the router alone leaves no trace in it. -/
lemma router_notify {notification : Station ε → Station ε}
    (h : ∀ s, (notification s).router = s.router) (s : Station ε) :
    (s.notify notification).router = s.router := by
  simp only [notify]
  split
  · rfl
  · rename_i hnot
    rw [Bool.not_eq_true] at hnot
    simp only [onRouter, h, ← hnot]

end Station

end RfidLink
