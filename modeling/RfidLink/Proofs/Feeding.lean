import RfidLink.Proofs.Asking
import RfidLink.Proofs.Completion
import RfidLink.Proofs.Gathering

/-!
# What a call to process feeds to the collector

A change of mode throws away what was received before it, and nothing else.  Whether it may throw
away more depends on when it is carried out: a reset that is still pending when a call to process
returns will throw away bytes that have yet to arrive.

* `FrameCollector.feed` gives bytes to a collector one by one and gathers the frames, which is to
  gather bytes that come at one time (`feed_eq_gather`).  **`feed_search`** says that searching for
  one frame after the other is the same.
* `Station.Undisturbed` is what acting on a frame leaves alone while the router is busy: ring and
  collector, and, unless inventory ends, mode and pending reset.
* **`acceptFrames_feed`** is the loop: while the mode lasts, all bytes of the ring are fed to the
  collector, and the frames acted on are those that come out.
* **`resetPending_process_iff`** says when a reset is left pending: if the schedule has given up the
  only round, and in no other case.
-/

namespace RfidLink

variable {ε : Type} {board : Board ε}

/-! ## Feeding a collector -/

namespace FrameCollector

/-- Give bytes that count as received at `now` to a collector, and gather the frames. -/
def feed (now : Nat) : List UInt8 → FrameCollector → List (List UInt8) × FrameCollector
  | [], c => ([], c)
  | byte :: rest, c =>
    match c.push byte now with
    | (.ok true, c) =>
      let (frames, later) := feed now rest c.reset
      (c.frame?.toList ++ frames, later)
    | (_, c) => feed now rest c

variable (now : Nat)

/-- To feed bytes is to gather what comes at one time. -/
lemma feed_eq_gather (bytes : List UInt8) (c : FrameCollector) :
    c.feed now bytes = c.gather (Arrival.together now bytes) := by
  induction bytes generalizing c with
  | nil => rfl
  | cons byte rest ih =>
      rw [Arrival.together, List.map_cons, ← Arrival.together]
      rcases hpush : c.push byte now with ⟨_ | _ | _, c'⟩
      · simp only [feed, gather, hpush, ih]
      · simp only [feed, gather, hpush, ih]
      · simp only [feed, gather, hpush, ih]

/-- A search that finds no frame has used up all bytes. -/
lemma rest_of_search_none {bytes : List UInt8} {c : FrameCollector}
    (h : (c.search now bytes).frame = none) : (c.search now bytes).rest = [] := by
  induction bytes generalizing c with
  | nil => rfl
  | cons byte rest ih =>
      rw [search] at h ⊢
      split at h
      · rename_i c' hpush
        rw [frame?_of_completed hpush] at h
        cases h
      · exact ih h
      · exact ih h

/-- **Feeding is searching, one frame after the other.** -/
theorem feed_search (bytes : List UInt8) (c : FrameCollector) :
    c.feed now bytes =
      match (c.search now bytes).frame with
      | none => ([], (c.search now bytes).collector)
      | some frame =>
        let later := (c.search now bytes).collector.feed now (c.search now bytes).rest
        (frame :: later.1, later.2) := by
  induction bytes generalizing c with
  | nil => rfl
  | cons byte rest ih =>
      rcases hpush : c.push byte now with ⟨e | isComplete, c'⟩
      · simp only [feed, search, hpush]
        exact ih c'
      · cases isComplete with
        | false =>
            simp only [feed, search, hpush]
            exact ih c'
        | true =>
            have hframe := frame?_of_completed hpush
            simp only [feed, search, hpush, hframe, Option.toList_some, List.singleton_append]

end FrameCollector

/-! ## While the router is busy -/

namespace Station

/--
  Nothing was taken from ring or collector.  Mode and pending reset are as before, unless inventory
  has ended and left a reset pending.
-/
structure Undisturbed (s t : Station ε) : Prop where
  busy : t.router.busy = s.router.busy
  collector : t.router.collector = s.router.collector
  inbound : t.line.inbound = s.line.inbound
  mode : t.router.mode = s.router.mode ∧ t.router.resetPending = s.router.resetPending ∨
    s.router.mode = .inventory ∧ t.router.mode = .idle ∧ t.router.resetPending = true

variable {s t u : Station ε}

lemma Undisturbed.refl (s : Station ε) : s.Undisturbed s := ⟨rfl, rfl, rfl, .inl ⟨rfl, rfl⟩⟩

lemma Undisturbed.trans (hst : s.Undisturbed t) (htu : t.Undisturbed u) : s.Undisturbed u where
  busy := htu.busy.trans hst.busy
  collector := htu.collector.trans hst.collector
  inbound := htu.inbound.trans hst.inbound
  mode := by
    rcases hst.mode with ⟨hmode, hpending⟩ | ⟨hbefore, hmode, hpending⟩
    · rw [← hmode, ← hpending]
      exact htu.mode
    · refine .inr ⟨hbefore, ?_⟩
      rcases htu.mode with ⟨hmode', hpending'⟩ | ⟨-, hmode', hpending'⟩
      · exact ⟨hmode'.trans hmode, hpending'.trans hpending⟩
      · exact ⟨hmode', hpending'⟩

/-- Mode, receiving and ring are the same. -/
structure Still (s t : Station ε) : Prop where
  mode : t.router.mode = s.router.mode
  receiving : t.router.receiving = s.router.receiving
  inbound : t.line.inbound = s.line.inbound

lemma Still.refl (s : Station ε) : s.Still s := ⟨rfl, rfl, rfl⟩

lemma Still.trans (hst : s.Still t) (htu : t.Still u) : s.Still u :=
  ⟨htu.mode.trans hst.mode, htu.receiving.trans hst.receiving, htu.inbound.trans hst.inbound⟩

lemma Still.resetPending (h : s.Still t) : t.router.resetPending = s.router.resetPending :=
  congrArg (·.2.1) h.receiving

lemma Still.undisturbed (h : s.Still t) : s.Undisturbed t where
  busy := congrArg (·.2.2) h.receiving
  collector := congrArg Prod.fst h.receiving
  inbound := h.inbound
  mode := .inl ⟨h.mode, h.resetPending⟩

lemma Still.of_router (hrouter : t.router = s.router) (hinbound : t.line.inbound = s.line.inbound) :
    s.Still t :=
  ⟨congrArg Router.mode hrouter, congrArg Router.receiving hrouter, hinbound⟩

lemma Around.still (h : s.Around t) : s.Still t :=
  .of_router h.router (congrArg Line.inbound h.line)

lemma still_sendTo (address : UInt8) (command : Command) (s : Station ε) :
    s.Still (s.sendTo board address command).2 := by
  obtain ⟨_, hrouter⟩ := router_sendTo board address command s
  exact ⟨by rw [hrouter], by rw [hrouter]; rfl, inbound_sendTo board address command s⟩

lemma resetUnlessBusy_of_busy (h : s.router.busy = true) : s.resetUnlessBusy = s := by
  simp only [resetUnlessBusy, h, if_true]

/-- A change to idle is noted, and what it means for the ring is left for later. -/
lemma undisturbed_enterIdle (hbusy : s.router.busy = true) :
    s.Undisturbed (s.enterMode board .idle) := by
  simp only [enterMode]
  split
  · exact .refl s
  · rename_i hmode
    have hinventory : s.router.mode = .inventory := by
      cases h : s.router.mode with
      | idle => exact absurd h hmode
      | inventory => rfl
    rw [resetUnlessBusy_of_busy]
    · exact ⟨rfl, rfl, rfl, .inr ⟨hinventory, rfl, rfl⟩⟩
    · exact hbusy

lemma undisturbed_endOnlyRound (hbusy : s.router.busy = true) :
    s.Undisturbed (s.endOnlyRound board) := by
  have hended : s.Still s.endSchedule := ⟨rfl, rfl, rfl⟩
  have hreported : s.endSchedule.Still (s.endSchedule.reportTotals board).2 :=
    .of_router (router_tellAll board _ _) (congrArg Line.inbound (line_tellAll board _ _))
  have hboth := (hended.trans hreported).undisturbed
  exact hboth.trans (undisturbed_enterIdle (hboth.busy.trans hbusy))

/-- **Nothing that is done about a frame disturbs a busy router**, if callbacks keep quiet. -/
lemma Deed.undisturbed (hquiet : board.Quiet) (hbusy : s.router.busy = true)
    (h : Deed board s t) : s.Undisturbed t := by
  cases h with
  | tell remark _ => exact Still.undisturbed ⟨rfl, rfl, rfl⟩
  | note f hf =>
      exact Still.undisturbed
        ⟨congrArg (·.1.1) (hf s.router), congrArg (·.2.1) (hf s.router), rfl⟩
  | deliver text => exact (hquiet.deliver text s).still.undisturbed
  | notifyRead => exact (hquiet.notifyRead s).still.undisturbed
  | notifyError isOn => exact (hquiet.notifyError isOn s).still.undisturbed
  | sendTo address command => exact (still_sendTo address command s).undisturbed
  | reschedule f _ _ _ => exact Still.undisturbed ⟨rfl, rfl, rfl⟩
  | endInventory =>
      have hended : s.Still s.endSchedule := ⟨rfl, rfl, rfl⟩
      exact hended.undisturbed.trans (undisturbed_enterIdle hbusy)
  | endOnlyRound => exact undisturbed_endOnlyRound hbusy

lemma Deeds.undisturbed (hquiet : board.Quiet) (hbusy : s.router.busy = true)
    (h : s.Deeds board t) : s.Undisturbed t := by
  induction h with
  | refl => exact .refl s
  | tail _ hstep ih => exact ih.trans (hstep.undisturbed hquiet (ih.busy.trans hbusy))

lemma undisturbed_acceptFrame (hquiet : board.Quiet) (hbusy : s.router.busy = true) (now : Nat)
    (frame : List UInt8) : s.Undisturbed (s.acceptFrame board now frame) := by
  obtain ⟨router, remark, hregisters, -, hdeeds⟩ :=
    exists_registers board now frame s
  have hregistered : s.Undisturbed ((s.onRouter fun _ => router).tell board remark) :=
    Still.undisturbed ⟨congrArg Prod.fst hregisters.stance, hregisters.receiving, rfl⟩
  exact hregistered.trans (hdeeds.undisturbed hquiet (hregistered.busy.trans hbusy))

/-! ## All frames of a call -/

lemma performReset_of_not_pending (h : s.router.resetPending = false) : s.performReset = s := by
  simp only [performReset, h, Bool.false_eq_true, if_false]

/-- What a loop over frames keeps up: the router stays busy, and nothing is left pending. -/
structure Steady (s t : Station ε) : Prop where
  busy : t.router.busy = true
  resetPending : t.router.resetPending = false
  mode : t.router.mode = s.router.mode ∨ s.router.mode = .inventory ∧ t.router.mode = .idle

lemma Steady.trans (hst : s.Steady t) (htu : t.Steady u) : s.Steady u where
  busy := htu.busy
  resetPending := htu.resetPending
  mode := by
    rcases hst.mode with hsame | ⟨hbefore, hidle⟩
    · rw [← hsame]
      exact htu.mode
    · rcases htu.mode with hsame' | ⟨hinventory, -⟩
      · exact .inr ⟨hbefore, hsame'.trans hidle⟩
      · rw [hidle] at hinventory
        cases hinventory

/-- If the mode is the same after two steps, it was the same in between. -/
lemma Steady.mode_between (hst : s.Steady t) (htu : t.Steady u)
    (h : u.router.mode = s.router.mode) : t.router.mode = s.router.mode := by
  rcases hst.mode with hsame | ⟨hbefore, hidle⟩
  · exact hsame
  · rcases htu.mode with hsame' | ⟨hinventory, -⟩
    · exact hsame'.symm.trans h
    · rw [hidle] at hinventory
      cases hinventory

/-- **One turn of the loop**: ring and collector stay as they are, or inventory ends. -/
lemma steady_acceptFrame (hquiet : board.Quiet) (hbusy : s.router.busy = true)
    (hpending : s.router.resetPending = false) (now : Nat) (frame : List UInt8) :
    s.Steady (s.acceptFrame board now frame).performReset ∧
      (s.acceptFrame board now frame).performReset.line.inbound.length ≤ s.line.inbound.length ∧
      ((s.acceptFrame board now frame).performReset.router.mode = s.router.mode →
        (s.acceptFrame board now frame).performReset.router.collector = s.router.collector ∧
        (s.acceptFrame board now frame).performReset.line.inbound = s.line.inbound) := by
  have hundisturbed : s.Undisturbed (s.acceptFrame board now frame) :=
    undisturbed_acceptFrame hquiet hbusy now frame
  rcases hundisturbed.mode with ⟨hmode, hkept⟩ | ⟨hbefore, hmode, hleft⟩
  · rw [performReset_of_not_pending (hkept.trans hpending)]
    exact ⟨⟨hundisturbed.busy.trans hbusy, hkept.trans hpending, .inl hmode⟩,
      Nat.le_of_eq (congrArg List.length hundisturbed.inbound),
      fun _ => ⟨hundisturbed.collector, hundisturbed.inbound⟩⟩
  · simp only [performReset, hleft, if_true]
    refine ⟨⟨hundisturbed.busy.trans hbusy, rfl, .inr ⟨hbefore, hmode⟩⟩, Nat.zero_le _, ?_⟩
    intro hsame
    rw [hbefore] at hsame
    cases hmode.symm.trans hsame

/--
  **The loop feeds the collector.**  No reset is left pending, and while the mode lasts every byte
  in the ring is given to the collector and the frames that come out are acted on.
-/
theorem acceptFrames_feed (hquiet : board.Quiet) (now : Nat) {turns : Nat}
    (hbusy : s.router.busy = true) (hpending : s.router.resetPending = false)
    (hturns : s.line.inbound.length < turns) :
    s.Steady (s.acceptFrames board now turns).2 ∧
      ((s.acceptFrames board now turns).2.router.mode = s.router.mode →
        (s.acceptFrames board now turns).2.line.inbound = [] ∧
        s.router.collector.feed now s.line.inbound =
          ((s.acceptFrames board now turns).1,
            (s.acceptFrames board now turns).2.router.collector)) := by
  induction turns generalizing s with
  | zero => omega
  | succ turns ih =>
      obtain ⟨_, hrouter⟩ := router_pullFrame board now s
      have hline := line_pullFrame board now s
      have hframe : (s.pullFrame board now).1 =
          (s.router.collector.search now s.line.inbound).frame := rfl
      have hfeed := s.router.collector.feed_search now s.line.inbound
      have hfewer := length_rest_search now s.line.inbound s.router.collector
      set search := s.router.collector.search now s.line.inbound with hsearch
      rcases hpull : s.pullFrame board now with ⟨found, pulled⟩
      rw [hpull] at hrouter hline hframe
      dsimp only at hrouter hline hframe
      have hbusy' : pulled.router.busy = true := by rw [hrouter]; exact hbusy
      have hpending' : pulled.router.resetPending = false := by rw [hrouter]; exact hpending
      have hmode' : pulled.router.mode = s.router.mode := by rw [hrouter]
      have hcollector' : pulled.router.collector = search.collector := by rw [hrouter]
      have hinbound' : pulled.line.inbound = search.rest := by rw [hline]
      have hpulled : s.Steady pulled := ⟨hbusy', hpending', .inl hmode'⟩
      cases found with
      | none =>
          simp only [acceptFrames, hpull]
          refine ⟨hpulled, fun _ => ⟨?_, ?_⟩⟩
          · rw [hinbound']
            exact FrameCollector.rest_of_search_none now hframe.symm
          · rw [hfeed, ← hframe, hcollector']
      | some frame =>
          obtain ⟨hturn, hshorter, hlasting⟩ :=
            steady_acceptFrame hquiet hbusy' hpending' now frame
          set next := (pulled.acceptFrame board now frame).performReset with hnext
          have hrest : next.line.inbound.length < turns := by
            rw [hinbound'] at hshorter
            rw [← hframe, Option.toList_some, List.length_singleton] at hfewer
            omega
          obtain ⟨hlater, hfed⟩ := ih hturn.busy hturn.resetPending hrest
          have hfirst := hpulled.trans hturn
          simp only [acceptFrames, hpull, ← hnext]
          refine ⟨hfirst.trans hlater, fun hlast => ?_⟩
          have hstill : next.router.mode = s.router.mode := hfirst.mode_between hlater hlast
          obtain ⟨hcollector, hinbound⟩ := hlasting (hstill.trans hmode'.symm)
          obtain ⟨hempty, hgiven⟩ := hfed (hlast.trans hstill.symm)
          rw [hcollector, hinbound, hcollector', hinbound'] at hgiven
          refine ⟨hempty, ?_⟩
          rw [hfeed, ← hframe]
          simp only [hgiven]

/-! ## The schedule -/

/-- A polled inventory of one round waits for an answer, and the time for it is up. -/
structure OnlyRoundIsOver (now : Nat) (s : Station ε) : Prop where
  mode : s.router.mode = .inventory
  strategy : s.router.config.strategy = .singleShot
  active : s.router.inventoryActive = true
  inRound : s.router.schedule.inRound = true
  deadline : s.router.schedule.deadline ≤ now

lemma still_startRound (now : Nat) (s : Station ε) : s.Still (s.startRound board now) := by
  have hsent : s.Still (s.sendTo board s.router.address _).2 :=
    still_sendTo s.router.address s.router.config.strategy.openingCommand s
  simp only [startRound, send]
  split <;> rename_i heq <;> rw [heq] at hsent
  · exact hsent.trans ⟨rfl, rfl, rfl⟩
  · split
    · exact hsent.trans ⟨rfl, rfl, rfl⟩
    · exact hsent.trans ⟨rfl, rfl, rfl⟩

/-- A schedule that does not give up the only round leaves everything as it is. -/
lemma still_keepSchedule {now : Nat} (h : ¬ s.OnlyRoundIsOver now) :
    s.Still (s.keepSchedule board now) := by
  simp only [keepSchedule]
  split
  · exact .refl s
  · rename_i hopen
    split
    · rename_i hround
      split
      · exact .refl s
      · rename_i hlate
        simp only [abandonRound]
        split
        · rename_i hsingle
          simp only [Bool.or_eq_true, decide_eq_true_eq, Bool.not_eq_true', not_or,
            Bool.not_eq_false] at hopen
          obtain ⟨⟨hidle, -⟩, hactive⟩ := hopen
          have hmode : s.router.mode = .inventory := by
            cases hmode : s.router.mode with
            | idle => exact absurd hmode hidle
            | inventory => rfl
          exact absurd ⟨hmode, hsingle, hactive, hround, Nat.le_of_not_lt hlate⟩ h
        · refine Still.trans ?_ (still_startRound now _)
          exact ⟨rfl, rfl, rfl⟩
    · split
      · exact .refl s
      · exact still_startRound now s

/-- Giving up the only round ends inventory, and leaves a reset pending. -/
lemma keepSchedule_of_over {now : Nat} (hbusy : s.router.busy = true)
    (h : s.OnlyRoundIsOver now) : (s.keepSchedule board now).router.resetPending = true := by
  set counted := (s.tell board .roundAbandoned).count fun c =>
    { c with roundsAbandoned := c.roundsAbandoned + 1 } with hcounted
  have hover : s.keepSchedule board now = counted.endOnlyRound board := by
    have hsingle : counted.router.config.strategy = .singleShot := h.strategy
    have hlate : ¬ now < s.router.schedule.deadline := Nat.not_lt_of_le h.deadline
    simp [keepSchedule, abandonRound, ← hcounted, hsingle, h.mode, h.strategy, Strategy.isPolled,
      h.active, h.inRound, hlate]
  have hended : counted.Undisturbed (counted.endOnlyRound board) := undisturbed_endOnlyRound hbusy
  have hidle : (counted.endOnlyRound board).router.mode = .idle := by
    obtain ⟨_, _, hrouter⟩ :=
      router_enterMode board .idle (counted.endSchedule.reportTotals board).2
    rw [endOnlyRound, hrouter]
  rw [hover]
  rcases hended.mode with ⟨hmode, -⟩ | ⟨-, -, hleft⟩
  · have hinventory : counted.router.mode = .inventory := h.mode
    rw [hidle, hinventory] at hmode
    cases hmode
  · exact hleft

/-! ## A whole call -/

/-- The station when a call begins to look for frames. -/
def ready (board : Board ε) (s : Station ε) : Station ε :=
  ((s.onRouter fun r => { r with busy := true }).discardAfterOverrun board).performReset

/-- The station once all frames of a call have been acted on, before the schedule is looked at. -/
def accepted (board : Board ε) (s : Station ε) : Station ε :=
  ((s.ready board).acceptFrames board (s.now board) ((s.ready board).frameTurns board)).2

/-- The collector with which a call begins: lost bytes cost it the partial frame. -/
def collectorAtHand (s : Station ε) : FrameCollector :=
  if s.line.overrun then s.router.collector.reset else s.router.collector

/-- A call acts on frames, looks at the schedule, and is done. -/
lemma process_eq (hrunning : s.router.running = true) (hidle : s.router.busy = false) :
    (s.process board).2 = ((s.accepted board).keepSchedule board (s.now board)).onRouter
      fun r => { r with busy := false } := by
  simp only [process, hrunning, hidle, Bool.not_true, Bool.false_eq_true, if_false]
  rfl

lemma dispatched_eq (hrunning : s.router.running = true) (hidle : s.router.busy = false) :
    s.dispatched board = ((s.ready board).acceptFrames board (s.now board)
      ((s.ready board).frameTurns board)).1 := by
  simp only [dispatched, hrunning, hidle, Bool.not_true, Bool.or_false, Bool.false_eq_true,
    if_false]
  rfl

/-- A call that finds another one at work, or the router stopped, does nothing. -/
lemma process_of_not (h : ¬ (s.router.running = true ∧ s.router.busy = false)) :
    (s.process board).2 = s := by
  cases hbusy : s.router.busy with
  | true => simp only [process, hbusy, if_true]
  | false =>
      have hrunning : s.router.running = false := by
        rw [← Bool.not_eq_true]
        exact fun hrunning => h ⟨hrunning, hbusy⟩
      simp [process, hbusy, hrunning]

lemma dispatched_of_not (h : ¬ (s.router.running = true ∧ s.router.busy = false)) :
    s.dispatched board = [] := by
  rw [dispatched, if_pos]
  cases hbusy : s.router.busy with
  | true => rfl
  | false =>
      have hrunning : s.router.running = false := by
        rw [← Bool.not_eq_true]
        exact fun hrunning => h ⟨hrunning, hbusy⟩
      rw [hrunning]
      rfl

variable (board) in
/-- A call begins busy, in the same mode, and with nothing pending. -/
lemma steady_ready (s : Station ε) : s.Steady (s.ready board) := by
  obtain ⟨_, hdiscarded⟩ :=
    router_discardAfterOverrun board (s.onRouter fun r => { r with busy := true })
  obtain ⟨_, hready⟩ := router_performReset
    ((s.onRouter fun r => { r with busy := true }).discardAfterOverrun board)
  rw [hdiscarded] at hready
  refine ⟨?_, ?_, .inl ?_⟩
  · rw [ready, hready]; rfl
  · rw [ready, hready]
  · rw [ready, hready]; rfl

variable (board) in
/-- If no reset is pending, a call begins with all received bytes, and clears the overrun flag. -/
lemma ready_eq (hpending : s.router.resetPending = false) : ∃ surroundings,
    s.ready board =
      { router := { s.router with busy := true, collector := s.collectorAtHand }
        line := { s.line with overrun := false }
        surroundings } := by
  cases hoverrun : s.line.overrun with
  | true =>
      exact ⟨board.write .overrun s.surroundings, by
        simp [ready, discardAfterOverrun, performReset, Line.takeOverrun, onRouter, tell,
          collectorAtHand, hoverrun, hpending]⟩
  | false =>
      exact ⟨s.surroundings, by
        simp [ready, discardAfterOverrun, performReset, Line.takeOverrun, onRouter,
          collectorAtHand, hoverrun, hpending]⟩

variable (board) in
/-- If a reset is pending, a call begins with none. -/
lemma ready_of_pending (hpending : s.router.resetPending = true) :
    (s.ready board).line.inbound = [] := by
  have hkept : ((s.onRouter fun r => { r with busy := true }).discardAfterOverrun
      board).router.resetPending = true := by
    obtain ⟨_, hdiscarded⟩ :=
      router_discardAfterOverrun board (s.onRouter fun r => { r with busy := true })
    rw [hdiscarded]
    exact hpending
  simp only [ready, performReset, hkept, if_true]
  rfl

variable (board) in
lemma acceptFrames_of_empty (now : Nat) {turns : Nat} (h : s.line.inbound = []) :
    (s.acceptFrames board now turns).1 = [] := by
  cases turns with
  | zero => rfl
  | succ turns =>
      have hnone : (s.pullFrame board now).1 = none := by
        show (s.router.collector.search now s.line.inbound).frame = none
        rw [h]
        rfl
      rcases hpull : s.pullFrame board now with ⟨found, pulled⟩
      rw [hpull] at hnone
      obtain rfl : found = none := hnone
      simp only [acceptFrames, hpull]

/-- What has been acted on when a call looks at the schedule. -/
lemma accepted_feed (hquiet : board.Quiet) (s : Station ε) :
    s.Steady (s.accepted board) ∧
      (s.router.resetPending = false → (s.accepted board).router.mode = s.router.mode →
        (s.accepted board).line.inbound = [] ∧
        s.collectorAtHand.feed (s.now board) s.line.inbound =
          (((s.ready board).acceptFrames board (s.now board) ((s.ready board).frameTurns board)).1,
            (s.accepted board).router.collector)) := by
  have hready := steady_ready board s
  have hturns : (s.ready board).line.inbound.length < (s.ready board).frameTurns board := by
    simp only [frameTurns]
    omega
  obtain ⟨hsteady, hfed⟩ :=
    acceptFrames_feed hquiet (s.now board) hready.busy hready.resetPending hturns
  refine ⟨hready.trans hsteady, fun hpending hmode => ?_⟩
  obtain ⟨hcollector, hinbound⟩ : (s.ready board).router.collector = s.collectorAtHand ∧
      (s.ready board).line.inbound = s.line.inbound := by
    obtain ⟨_, hfirst⟩ := ready_eq board hpending
    rw [hfirst]
    exact ⟨rfl, rfl⟩
  have hbetween : (s.ready board).router.mode = s.router.mode :=
    hready.mode_between hsteady hmode
  have hresult := hfed (hmode.trans hbetween.symm)
  rw [hcollector, hinbound] at hresult
  exact hresult

/-- **When a reset is left pending**: if the schedule has given up the only round. -/
theorem resetPending_process_iff (hquiet : board.Quiet) (hrunning : s.router.running = true)
    (hidle : s.router.busy = false) :
    (s.process board).2.router.resetPending = true ↔
      (s.accepted board).OnlyRoundIsOver (s.now board) := by
  obtain ⟨hsteady, -⟩ := accepted_feed hquiet s
  rw [process_eq hrunning hidle]
  constructor
  · intro hleft
    by_contra hnot
    have hstill : (s.accepted board).Still ((s.accepted board).keepSchedule board (s.now board)) :=
      still_keepSchedule hnot
    have hpending := hstill.resetPending.trans hsteady.resetPending
    have hleft' :
        ((s.accepted board).keepSchedule board (s.now board)).router.resetPending = true := hleft
    rw [hpending] at hleft'
    cases hleft'
  · exact keepSchedule_of_over hsteady.busy

/-- **What a call does without a pending reset**: while the mode lasts, all bytes are fed. -/
theorem process_feeds (hquiet : board.Quiet) (hrunning : s.router.running = true)
    (hidle : s.router.busy = false) (hpending : s.router.resetPending = false)
    (hmode : (s.accepted board).router.mode = s.router.mode) :
    (s.process board).2.line.inbound = [] ∧
      s.dispatched board = (s.collectorAtHand.feed (s.now board) s.line.inbound).1 ∧
      (s.process board).2.router.collector =
        (s.collectorAtHand.feed (s.now board) s.line.inbound).2 := by
  obtain ⟨hsteady, hfed⟩ := accepted_feed hquiet s
  obtain ⟨hempty, hgiven⟩ := hfed hpending hmode
  have hundisturbed :=
    (deeds_keepSchedule board (s.now board) (s.accepted board)).undisturbed hquiet hsteady.busy
  rw [process_eq hrunning hidle, dispatched_eq hrunning hidle, hgiven]
  exact ⟨hundisturbed.inbound.trans hempty, rfl, hundisturbed.collector⟩

end Station

/--
  **Which later bytes are fed to the collector.**  Take any call to process received bytes, on a
  board whose callbacks leave the router alone.  It leaves a reset pending exactly if its schedule
  has given up the only round of an inventory.  If it has not, then whatever arrives before the next
  call is fed to the collector by that call, and the frames that come out are acted on, as long
  as none of them ends inventory.  If it has, the next call throws all of it away.
-/
theorem later_bytes_fed_unless_onlyRoundIsOver (hquiet : board.Quiet) {s : Station ε}
    (hrunning : s.router.running = true) (hidle : s.router.busy = false) :
    ((s.process board).2.router.resetPending = true ↔
        (s.accepted board).OnlyRoundIsOver (s.now board)) ∧
      ∀ t : Station ε, t.router = (s.process board).2.router →
        (¬ (s.accepted board).OnlyRoundIsOver (s.now board) →
          (t.accepted board).router.mode = t.router.mode →
            (t.process board).2.line.inbound = [] ∧
            t.dispatched board = (t.collectorAtHand.feed (t.now board) t.line.inbound).1 ∧
            (t.process board).2.router.collector =
              (t.collectorAtHand.feed (t.now board) t.line.inbound).2) ∧
        ((s.accepted board).OnlyRoundIsOver (s.now board) → t.dispatched board = []) := by
  have hiff := Station.resetPending_process_iff hquiet hrunning hidle
  obtain ⟨⟨hdesk, -⟩, hdone⟩ := Station.process_desk hquiet hrunning hidle
  have hstill : (s.process board).2.router.running = true := by
    have hsame := (Desk.awaiting_foldl (s.dispatched board) s.router.desk).2.1
    rw [← hdesk] at hsame
    exact hsame.trans hrunning
  refine ⟨hiff, fun t hrouter => ?_⟩
  have hrunning' : t.router.running = true := by rw [hrouter]; exact hstill
  have hidle' : t.router.busy = false := by rw [hrouter]; exact hdone
  constructor
  · intro hnot hmode
    have hpending : t.router.resetPending = false := by
      rw [hrouter, Bool.eq_false_iff]
      exact fun hleft => hnot (hiff.mp hleft)
    exact Station.process_feeds hquiet hrunning' hidle' hpending hmode
  · intro hover
    have hpending : t.router.resetPending = true := by
      rw [hrouter]
      exact hiff.mpr hover
    rw [Station.dispatched_eq hrunning' hidle']
    exact Station.acceptFrames_of_empty board _ (Station.ready_of_pending board hpending)

/-- A response with the number of tags in the reader's memory. -/
def tagCountFrame : List UInt8 := Frame.ofBody [0x00, 0x74, 0x00, 0x00, 0x05]

/-- Between two calls of an idle router a response arrives, and the second call acts on it. -/
theorem later_bytes_fed_between_calls :
    let board := Board.arriving []
    let s : Station Nat := ((Station.fresh .standard 0).start board).2
    let t := (s.process board).2.receive tagCountFrame
    t.dispatched board = [tagCountFrame] ∧ (t.process board).2.line.inbound = [] := by
  intro board s t
  have hquiet : board.Quiet := Board.quiet_arriving []
  obtain ⟨-, hlater⟩ := later_bytes_fed_unless_onlyRoundIsOver (s := s) hquiet rfl rfl
  have hnot : ¬ (s.accepted board).OnlyRoundIsOver (s.now board) := by
    intro hover
    have hidle : (s.accepted board).router.mode = .idle := by decide +kernel
    rw [hover.mode] at hidle
    cases hidle
  have hfeed : (t.collectorAtHand.feed (t.now board) t.line.inbound).1 = [tagCountFrame] := by
    decide +kernel
  have hmode : (t.accepted board).router.mode = t.router.mode := by decide +kernel
  obtain ⟨hempty, hframes, -⟩ := (hlater t rfl).1 hnot hmode
  exact ⟨hframes.trans hfeed, hempty⟩

/--
  **A response that is thrown away.**  The only round of an inventory is not answered in time, and
  the schedule gives it up.  A response arrives after that call has returned; nothing has changed
  since, and yet the next call does not act on it.
-/
theorem response_after_onlyRound_lost :
    let board := Board.arriving []
    let begun : Station Nat := [.start, .enterMode .inventory, .beginSchedule].foldl
      (fun s operation => Operation.run board s operation)
      (.fresh { Config.standard with strategy := .singleShot } 0)
    let s : Station Nat := { begun with surroundings := 6000 }
    let t := (s.process board).2.receive tagCountFrame
    board.Quiet ∧ (s.process board).1 = .processed 0 ∧
      (s.process board).2.router.resetPending = true ∧ (Answer.ofFrame? tagCountFrame).isSome ∧
      (t.process board).1 = .processed 0 ∧ (t.process board).2.router.tagCount = none ∧
      (t.process board).2.line.inbound = [] := by
  intro board begun s t
  refine ⟨Board.quiet_arriving [], ?_, ?_, ?_, ?_, ?_, ?_⟩ <;> decide +kernel

end RfidLink
