import RfidLink.Proofs.Endings
import RfidLink.Proofs.Histories
import RfidLink.Proofs.Wire

/-!
# Runs as episodes of inventory

Inventory begins, calls to process received bytes go by, and then it is stopped or ends in one of
these calls.  Whatever else is asked of a session has nothing to do with it.

* `Episode` is what does have to do with it, and `Episodes` are the runs of a station with these
  episodes written down.  There are silent steps between them: `Station.Beside` says that such a
  step neither changes whether there is inventory nor shows an error.
* `Station.Settled` is how a router is found between two steps: mode, schedule and running flag
  agree, and nobody is at work (`Episodes.settled`).
* Some part of the surroundings is followed along with the router, such as the tags that were
  delivered.  `Board.Shields` says that nothing concerns this part but tags and errors, so no silent
  step does.
* **`Station.Steps.episodes`**: the occasions of a history are the episodes that the station goes
  through (`Occasion.episode?`).  So the episodes of a run of a session are those of its actions,
  and each call to process received bytes finds the station to which the episodes before it have
  led (`Session.Traced.episodes`).
-/

namespace RfidLink

variable {ε α : Type} {board : Board ε} {part : ε → α}

/-- What has to do with whether there is inventory. -/
inductive Episode where
  /-- Inventory has begun, and its schedule counts from this time. -/
  | begun (time : Nat)
  /-- Inventory was stopped on demand, if there was any. -/
  | stopped
  /-- At this time, what was received was processed, and these frames were acted on. -/
  | processed (time : Nat) (frames : List (List UInt8))
deriving DecidableEq

/-- The episode that an occasion is; to count from zero again is none. -/
def Occasion.episode? (board : Board ε) : Occasion ε → Option Episode
  | .process s => some (.processed (s.now board) (s.dispatched board))
  | .begin _ t => some (.begun (t.now board))
  | .stop _ => some .stopped
  | .recount => none

/-- A part of the surroundings that is concerned at most by tags and by errors. -/
structure Board.Shields (board : Board ε) (part : ε → α) : Prop where
  write : ∀ remark e, part (board.write remark e) = part e
  spares : board.Spares part
  notifyRunning : ∀ isOn (s : Station ε),
    part (board.notifyRunning isOn s).surroundings = part s.surroundings
  wait : ∀ ms (s : Station ε), part (board.wait ms s).surroundings = part s.surroundings

namespace Station

variable {s t u : Station ε}

/-! ## Nothing shown -/

variable (board) in
/-- A router that runs stops, and is idle without a schedule then. -/
lemma router_stop (s : Station ε) : s.router.running = false ∧ (s.stop board).2 = s ∨
    ∃ resetPending collector, (s.stop board).2.router =
      { s.router with
        running := false, mode := .idle, schedule := .off, resetPending, collector } := by
  simp only [stop]
  split
  · exact .inr (router_enterMode board .idle
      (s.onRouter fun r => ({ r with running := false } : Router).endSchedule))
  · rename_i hstopped
    exact .inl ⟨by simpa using hstopped, rfl⟩

variable (board) in
/-- A router whose inventory is ended is idle without a schedule, running or not. -/
lemma router_endSending (address : UInt8) (command : Command) (s : Station ε) :
    ∃ resetPending collector counters,
      (((s.endSchedule.reportTotals board).2.sendTo board address command).2.enterMode
        board .idle).router =
      { s.router with mode := .idle, schedule := .off, resetPending, collector, counters } := by
  obtain ⟨_, _, hback⟩ := router_enterMode board .idle
    ((s.endSchedule.reportTotals board).2.sendTo board address command).2
  obtain ⟨_, hsent⟩ := router_sendTo board address command (s.endSchedule.reportTotals board).2
  have hreported : (s.endSchedule.reportTotals board).2.router = s.router.endSchedule :=
    router_tellAll board _ _
  rw [hsent, hreported] at hback
  exact ⟨_, _, _, hback⟩

section

variable (hpart : board.Shields part)

include hpart

lemma Hushed.of_touches (h : s.Touches board t)
    (hsignals : t.router.signals = s.router.signals) : s.Hushed part t :=
  ⟨hsignals, part_of_touches (fun remark e _ => hpart.write remark e) h⟩

lemma hushed_sendTo (address : UInt8) (command : Command) (s : Station ε) :
    s.Hushed part (s.sendTo board address command).2 := by
  obtain ⟨_, hrouter⟩ := router_sendTo board address command s
  refine ⟨by rw [hrouter]; rfl, ?_⟩
  obtain ⟨-, h⟩ | ⟨_, -, -, h⟩ | ⟨frame, -, -, -, h⟩ | ⟨frame, -, -, -, h⟩ :=
    sendTo_cases board address command s
  · rw [h]
  · rw [h]
  · rw [h]
    exact ((hpart.write _ _).trans (hpart.spares.enqueueAll frame _)).trans
      (hpart.spares.interrupted s)
  · rw [h]
    exact (hpart.write _ _).trans (hpart.spares.interrupted s)

lemma hushed_enterMode (mode : Mode) (s : Station ε) :
    s.Hushed part (s.enterMode board mode) := by
  obtain ⟨_, _, hrouter⟩ := router_enterMode board mode s
  exact .of_touches hpart (touches_enterMode mode s) (by rw [hrouter]; rfl)

lemma hushed_endReporting (s : Station ε) :
    s.Hushed part (s.endSchedule.reportTotals board).2 := by
  have htouches : s.Touches board (s.endSchedule.reportTotals board).2 :=
    (touches_onRouter Router.endSchedule s).trans (touches_reportTotals _)
  have hrouter : (s.endSchedule.reportTotals board).2.router = s.router.endSchedule :=
    router_tellAll board _ _
  exact .of_touches hpart htouches (by rw [hrouter]; rfl)

lemma hushed_endOnlyRound (s : Station ε) : s.Hushed part (s.endOnlyRound board) :=
  (hushed_endReporting hpart s).trans (hushed_enterMode hpart .idle _)

lemma hushed_stop (s : Station ε) : s.Hushed part (s.stop board).2 := by
  obtain ⟨-, hsame⟩ | ⟨_, _, hrouter⟩ := router_stop board s
  · rw [hsame]
    exact .refl s
  · exact .of_touches hpart (touches_stop s) (by rw [hrouter]; rfl)

lemma hushed_endSending (address : UInt8) (command : Command) (s : Station ε) :
    s.Hushed part (((s.endSchedule.reportTotals board).2.sendTo board address command).2.enterMode
      board .idle) :=
  ((hushed_endReporting hpart s).trans (hushed_sendTo hpart address command _)).trans
    (hushed_enterMode hpart .idle _)

lemma hushed_startRound (now : Nat) (s : Station ε) : s.Hushed part (s.startRound board now) := by
  have hsent : s.Hushed part (s.send board s.router.config.strategy.openingCommand).2 :=
    hushed_sendTo hpart s.router.address s.router.config.strategy.openingCommand s
  simp only [startRound]
  split <;> rename_i result t heq <;> rw [heq] at hsent
  · exact hsent.trans ⟨rfl, rfl⟩
  · have hremark : (Remark.roundNotStarted result).call? = none := rfl
    have htold := hsent.trans (.of_touches hpart (touches_tell hremark _) rfl)
    split
    · exact htold.trans ⟨rfl, rfl⟩
    · exact htold

/-- Whatever the schedule asks for, no error is shown. -/
lemma hushed_keepSchedule (now : Nat) (s : Station ε) :
    s.Hushed part (s.keepSchedule board now) := by
  have habandoned : s.Hushed part ((s.tell board .roundAbandoned).count fun c =>
      { c with roundsAbandoned := c.roundsAbandoned + 1 }) :=
    .of_touches hpart ((touches_tell rfl s).trans (touches_onRouter _ _)) rfl
  simp only [keepSchedule, abandonRound]
  split
  · exact .refl s
  · split
    · split
      · exact .refl s
      · split
        · exact habandoned.trans (hushed_endOnlyRound hpart _)
        · refine (habandoned.trans ?_).trans (hushed_startRound hpart now _)
          exact ⟨rfl, rfl⟩
    · split
      · exact .refl s
      · exact hushed_startRound hpart now s

end

/-! ## Between two steps -/

/-- Mode, schedule and running flag agree, and nobody is at work. -/
structure Settled (s : Station ε) : Prop where
  consistent : s.router.Consistent
  unheard : s.router.notifying = false
  spare : s.router.busy = false

/-- A step that does not concern inventory, and does not show an error either. -/
structure Beside (part : ε → α) (s t : Station ε) : Prop extends Hushed part s t where
  busy : t.router.busy = s.router.busy
  stance : t.router.stance = s.router.stance ∨
    s.router.inventoryActive = false ∧ t.router.inventoryActive = false ∧ t.router.Consistent

/-- Nothing has happened yet to a new router. -/
lemma settled_fresh (config : Config) (surroundings : ε) :
    (fresh config surroundings).Settled := ⟨.of_idle rfl rfl rfl, rfl, rfl⟩

lemma Beside.of_router (hrouter : t.router = s.router)
    (hpart : part t.surroundings = part s.surroundings) : s.Beside part t :=
  ⟨⟨by rw [hrouter], hpart⟩, by rw [hrouter], .inl (by rw [hrouter])⟩

lemma Beside.settled (h : s.Beside part t) (hs : s.Settled) : t.Settled where
  consistent := h.stance.elim (fun hstance => hs.consistent.of_stance hstance) fun hoff => hoff.2.2
  unheard := h.notifying.trans hs.unheard
  spare := h.busy.trans hs.spare

end Station

/--
  The runs of a station, with their episodes.  Inventory begins, is stopped, and received bytes are
  processed; whatever else happens is a silent step.
-/
inductive Episodes (board : Board ε) (part : ε → α) (s : Station ε) :
    List Episode → Station ε → Prop
  | refl : Episodes board part s [] s
  | beside {events t u} (h : Episodes board part s events t) (htu : t.Beside part u) :
      Episodes board part s events u
  | process {events t} (h : Episodes board part s events t) :
      Episodes board part s (events ++ [.processed (t.now board) (t.dispatched board)])
        (t.process board).2
  | begin {events t u} (h : Episodes board part s events t) (address : UInt8) (size : Nat)
      (hsent : (t.enterMode board .inventory).sendTo board address
        t.router.config.strategy.openingCommand = (.ok size, u)) :
      Episodes board part s (events ++ [.begun (u.now board)]) (u.beginSchedule board)
  | stop {events t} (h : Episodes board part s events t) :
      Episodes board part s (events ++ [.stopped]) (t.stop board).2
  | endSending {events t} (h : Episodes board part s events t) (address : UInt8) :
      Episodes board part s (events ++ [.stopped])
        (((t.endSchedule.reportTotals board).2.sendTo board address
          t.router.config.strategy.closingCommand).2.enterMode board .idle)

/-! ## Every step leaves a router settled -/

/-- Of a part that holds nothing, nothing can be said. -/
lemma Board.heeds_nothing (board : Board ε) : board.Heeds (fun _ => ()) id :=
  ⟨fun _ _ _ => rfl, fun _ _ => rfl, fun _ => rfl, fun _ => rfl⟩

lemma Board.shields_nothing (board : Board ε) : board.Shields fun _ => () :=
  ⟨fun _ _ => rfl, ⟨fun _ _ => rfl, fun _ => rfl⟩, fun _ _ => rfl, fun _ _ => rfl⟩

namespace Station

variable {s t u : Station ε} {onError : α → α}

lemma Settled.underway (hs : s.Settled) (hmode : s.router.mode = .inventory) : s.Underway :=
  ⟨hmode, hs.consistent.mode_iff_active.mp hmode, hs.unheard⟩

section

variable (hrouter : board.CallbacksAre fun s t => t.router = s.router)
  (hheeds : board.Heeds part onError) (hshields : board.Shields part)

include hrouter hheeds

include hshields

/-- **A call that finds inventory**, with a schedule that has begun or not. -/
theorem heedsAntenna_process (hmode : s.router.mode = .inventory)
    (hfree : s.router.notifying = false) :
    s.HeedsAntenna part onError (s.dispatched board) (s.process board).2 := by
  by_cases hcall : s.router.running = true ∧ s.router.busy = false
  · obtain ⟨hrunning, hidle⟩ := hcall
    have hready : s.Carries part (s.ready board) := .of_inward hheeds (inward_ready s)
    have haccepted : s.HeedsAntenna part onError (s.dispatched board) (s.accepted board) := by
      rw [dispatched_eq hrunning hidle]
      exact (heedsAntenna_acceptFrames hrouter hheeds (s.now board) _
        (hready.mode.trans hmode) (hready.notifying.trans hfree)).of_carries hready
    rw [HeedsAntenna]
    split
    · rename_i hany
      exact ended_process hheeds hrunning hidle (haccepted.ended hany)
    · rename_i hnone
      have hhushed := haccepted.hushed (Bool.not_eq_true _ ▸ hnone)
      rw [process_eq hrunning hidle]
      exact (hhushed.trans (hushed_keepSchedule hshields _ _)).trans ⟨rfl, rfl⟩
  · rw [dispatched_of_not hcall, process_of_not hcall]
    exact Hushed.refl s

omit hrouter hheeds in
/-- A call that finds none shows nothing. -/
lemma hushed_process_of_idle (hmode : s.router.mode = .idle) :
    s.Hushed part (s.process board).2 := by
  have hinward : s.Inward board (s.process board).2 := inward_process hmode
  exact .of_touches hshields hinward.touches hinward.signals

end

/-- A call is as busy when it is done as it was found. -/
lemma busy_process (s : Station ε) : (s.process board).2.router.busy = s.router.busy := by
  cases hbusy : s.router.busy with
  | true => simp only [process, hbusy, if_true]
  | false =>
      simp only [process, hbusy, Bool.false_eq_true, if_false]
      split
      · exact hbusy
      · rfl

section

variable (hrouter : board.CallbacksAre fun s t => t.router = s.router)

include hrouter

lemma notifying_process (hs : s.Settled) : (s.process board).2.router.notifying = false := by
  cases hmode : s.router.mode with
  | idle =>
      exact (hushed_process_of_idle board.shields_nothing hmode).notifying.trans hs.unheard
  | inventory =>
      have hheeds := heedsAntenna_process hrouter board.heeds_nothing board.shields_nothing hmode
        hs.unheard
      exact hheeds.notifying.trans hs.unheard

/-- Once the schedule has begun, no error is shown any more. -/
lemma router_beginSchedule (s : Station ε) : ∃ counters, (s.beginSchedule board).router =
    { s.router with
      schedule := .opened s.router.config (s.now board), errorShown := false, counters } := by
  have hback (t : Station ε) : (if t.router.errorShown then
      (t.onRouter fun r => { r with errorShown := false }).notify (board.notifyError false)
      else t).router = { t.router with errorShown := false } := by
    split
    · rw [router_notify (hrouter.notifyError false)]
      rfl
    · rename_i hshown
      rw [Bool.not_eq_true] at hshown
      rw [← hshown]
  simp only [beginSchedule, hback]
  split
  · exact ⟨_, rfl⟩
  · exact ⟨_, rfl⟩

/-- What a router is when inventory has begun. -/
lemma router_begin {address : UInt8} {size : Nat}
    (hsent : (s.enterMode board .inventory).sendTo board address
      s.router.config.strategy.openingCommand = (.ok size, u)) :
    ∃ resetPending collector counters, (u.beginSchedule board).router =
      { s.router with
        mode := .inventory, schedule := .opened s.router.config (u.now board), errorShown := false,
        resetPending, collector, counters } := by
  obtain ⟨_, _, hentered⟩ := router_enterMode board .inventory s
  obtain ⟨_, hbegun⟩ := router_beginSchedule hrouter u
  rw [(sendTo_ok hsent).1, hentered] at hbegun
  exact ⟨_, _, _, hbegun⟩

lemma Settled.of_task {occasions : List (Occasion ε)} (hs : s.Settled)
    (h : Task board s occasions t) (hbusy : t.router.busy = s.router.busy)
    (hnotifying : t.router.notifying = s.router.notifying) : t.Settled where
  consistent := h.moves.consistent (hrouter.mono fun _ _ hsame hs => hsame ▸ hs) hs.consistent
  unheard := hnotifying.trans hs.unheard
  spare := hbusy.trans hs.spare

lemma settled_process (hs : s.Settled) : (s.process board).2.Settled :=
  hs.of_task hrouter (.process s) (busy_process s)
    ((notifying_process hrouter hs).trans hs.unheard.symm)

lemma settled_begin (hs : s.Settled) {address : UInt8} {size : Nat}
    (hsent : (s.enterMode board .inventory).sendTo board address
      s.router.config.strategy.openingCommand = (.ok size, u)) :
    (u.beginSchedule board).Settled := by
  obtain ⟨_, _, _, hbegun⟩ := router_begin hrouter hsent
  exact hs.of_task hrouter (.begin s address size hsent) (by rw [hbegun]) (by rw [hbegun])

lemma settled_stop (hs : s.Settled) : (s.stop board).2.Settled := by
  have hhushed := hushed_stop board.shields_nothing s
  refine hs.of_task hrouter (.stop s) ?_ hhushed.notifying
  obtain ⟨-, hsame⟩ | ⟨_, _, hstopped⟩ := router_stop board s
  · rw [hsame]
  · rw [hstopped]

lemma settled_endSending (address : UInt8) (hs : s.Settled) :
    (((s.endSchedule.reportTotals board).2.sendTo board address
      s.router.config.strategy.closingCommand).2.enterMode board .idle).Settled := by
  obtain ⟨_, _, _, hended⟩ :=
    router_endSending board address s.router.config.strategy.closingCommand s
  exact hs.of_task hrouter (.endSending s address) (by rw [hended]) (by rw [hended])

end

end Station

/-- **In between a router is settled.** -/
lemma Episodes.settled (hrouter : board.CallbacksAre fun s t => t.router = s.router)
    {s t : Station ε} {events : List Episode} (hs : s.Settled)
    (h : Episodes board part s events t) : t.Settled := by
  induction h with
  | refl => exact hs
  | beside _ htu ih => exact htu.settled ih
  | process _ ih => exact Station.settled_process hrouter ih
  | begin _ address size hsent ih => exact Station.settled_begin hrouter ih hsent
  | stop _ ih => exact Station.settled_stop hrouter ih
  | endSending _ address ih => exact Station.settled_endSending hrouter address ih

/-! ## Whatever is asked for -/

namespace Station

variable {s t u : Station ε}

section

variable (hshields : board.Shields part)

include hshields

lemma beside_tell (remark : Remark) (s : Station ε) : s.Beside part (s.tell board remark) :=
  .of_router rfl (hshields.write remark s.surroundings)

lemma beside_sendTo (address : UInt8) (command : Command) (s : Station ε) :
    s.Beside part (s.sendTo board address command).2 := by
  obtain ⟨_, hsent⟩ := router_sendTo board address command s
  exact ⟨hushed_sendTo hshields address command s, by rw [hsent],
    .inl (stance_sendTo board address command s)⟩

/-- A router that did not run takes no inventory, and takes none when it has been started. -/
lemma beside_start (hs : s.Settled) : s.Beside part (s.start board).2 := by
  cases hrunning : s.router.running with
  | true =>
      have hsame : (s.start board).2 = s := by simp [start, hrunning]
      rw [hsame]
      exact .of_router rfl rfl
  | false =>
      have htouches : s.Touches board (s.start board).2 := touches_start s
      have hconsistent : (s.start board).2.router.Consistent := consistent_start hs.consistent
      obtain ⟨_, _, hreset⟩ := router_resetUnlessBusy
        (s.onRouter fun r => { r with running := true, mode := .idle, resetPending := true })
      have hstarted : (s.start board).2.router = (s.onRouter fun r =>
          { r with
            running := true, mode := .idle, resetPending := true }).resetUnlessBusy.router := by
        simp only [start, hrunning, Bool.false_eq_true, if_false]
        rfl
      rw [hreset] at hstarted
      have hinactive := hs.consistent.inactive hrunning
      refine ⟨.of_touches hshields htouches (by rw [hstarted]; rfl), by rw [hstarted]; rfl,
        .inr ⟨hinactive, ?_, hconsistent⟩⟩
      rw [hstarted]
      exact hinactive

/-- Inventory that does not begin has not been there before. -/
lemma beside_beginRefused (hrouter : board.CallbacksAre fun s t => t.router = s.router)
    (hs : s.Settled) (address : UInt8)
    (h : ¬ (s.router.inventoryActive = true ∧ s.router.mode = .inventory)) :
    s.Beside part (((s.enterMode board .inventory).sendTo board address
      s.router.config.strategy.openingCommand).2.enterMode board .idle) := by
  set command := s.router.config.strategy.openingCommand
  have hinactive := hs.consistent.inactive_of_not_both h
  have hsettled : (((s.enterMode board .inventory).sendTo board address command).2.enterMode
      board .idle).router.Consistent :=
    (Task.beginRefused s address h).moves.consistent
      (hrouter.mono fun _ _ hsame hs => hsame ▸ hs) hs.consistent
  obtain ⟨_, _, hback⟩ := router_enterMode board .idle
    ((s.enterMode board .inventory).sendTo board address command).2
  obtain ⟨_, hsent⟩ := router_sendTo board address command (s.enterMode board .inventory)
  obtain ⟨_, _, hentered⟩ := router_enterMode board .inventory s
  rw [hsent, hentered] at hback
  refine ⟨((hushed_enterMode hshields .inventory s).trans (hushed_sendTo hshields address command
    _)).trans (hushed_enterMode hshields .idle _), by rw [hback], .inr ⟨hinactive, ?_, hsettled⟩⟩
  rw [hback]
  exact hinactive

end

section

variable (hrouter : board.CallbacksAre fun s t => t.router = s.router)
  (hshields : board.Shields part)

include hrouter hshields

/-- **A task is the episode that its occasion says**, or does not concern inventory. -/
lemma Task.episodes {occasions : List (Occasion ε)} {events : List Episode} (hs : s.Settled)
    (h : Task board s occasions t) {s₀ : Station ε} (hbefore : Episodes board part s₀ events s) :
    Episodes board part s₀ (events ++ occasions.filterMap (·.episode? board)) t := by
  have hsilent {u : Station ε} (hst : s.Beside part u) :
      Episodes board part s₀ (events ++ []) u := by
    rw [List.append_nil]
    exact hbefore.beside hst
  cases h with
  | tell remark _ => exact hsilent (beside_tell hshields remark s)
  | setAddress address => exact hsilent ⟨⟨rfl, rfl⟩, rfl, .inl rfl⟩
  | forgetTags => exact hsilent ⟨⟨rfl, rfl⟩, rfl, .inl rfl⟩
  | forget answers awaiting _ => exact hsilent ⟨⟨rfl, rfl⟩, rfl, .inl rfl⟩
  | resetStatistics => exact hsilent ⟨⟨rfl, rfl⟩, rfl, .inl rfl⟩
  | takeOverrun => exact hsilent ⟨⟨rfl, rfl⟩, rfl, .inl rfl⟩
  | sendTo address command => exact hsilent (beside_sendTo hshields address command s)
  | process => exact hbefore.process
  | transmit => exact hsilent (.of_router rfl (hshields.spares.transmit s))
  | notifyRunning isOn =>
      exact hsilent (.of_router (hrouter.notifyRunning isOn s) (hshields.notifyRunning isOn s))
  | wait ms => exact hsilent (.of_router (hrouter.wait ms s) (hshields.wait ms s))
  | start => exact hsilent (beside_start hshields hs)
  | stop => exact hbefore.stop
  | begin address size hsent => exact hbefore.begin address size hsent
  | beginRefused address hrefused =>
      exact hsilent (beside_beginRefused hshields hrouter hs address hrefused)
  | endSending address => exact hbefore.endSending address

/--
  **The occasions of a history are its episodes**, if callbacks leave the router alone and the
  surroundings do not change this part by themselves.
-/
theorem Steps.episodes {occasions : List (Occasion ε)} (hs : s.Settled)
    (h : s.History board (fun e e' => part e' = part e) occasions t) :
    Episodes board part s (occasions.filterMap (·.episode? board)) t := by
  induction h with
  | refl => exact .refl
  | tail _ hstep ih =>
      rw [List.filterMap_append]
      cases hstep with
      | task htask => exact htask.episodes hrouter hshields (ih.settled hrouter hs) ih
      | arrival bytes =>
          rw [List.filterMap_nil, List.append_nil]
          exact ih.beside ⟨⟨rfl, rfl⟩, rfl, .inl rfl⟩
      | drift e hdrift =>
          rw [List.filterMap_nil, List.append_nil]
          exact ih.beside (.of_router rfl hdrift)

end

end Station

/--
  **The episodes of a run are those of its actions.**  They lead to the station after the run, and
  those before a call to process received bytes lead to the station that the call finds.
-/
theorem Session.Traced.episodes (hrouter : board.CallbacksAre fun s t => t.router = s.router)
    (hshields : board.Shields part) {s t : Session ε} {occasions : List (Occasion ε)}
    (hs : s.station.Settled)
    (h : s.Traced board (fun e e' => part e' = part e) occasions t) :
    Episodes board part s.station (occasions.filterMap (·.episode? board)) t.station ∧
      ∀ before u after, occasions = before ++ .process u :: after →
        Episodes board part s.station (before.filterMap (·.episode? board)) u :=
  ⟨h.history.episodes hrouter hshields hs,
    fun _ _ _ hsplit => (h.history.found hsplit).episodes hrouter hshields hs⟩

/-! ## A board that keeps a diary -/

/-- A clock, and what a board was told: queued commands, texts of tags, and errors. -/
structure Diary where
  time : Nat
  calls : List Call
  texts : List String
  lights : List Bool
deriving DecidableEq

namespace Diary

/-- Nothing has been written yet. -/
def blank : Diary := { time := 0, calls := [], texts := [], lights := [] }

/-- A board that writes everything down, with a clock that has to be moved by hand. -/
def keeping : Board Diary :=
  { Board.still 0 { rfPower := 0, address := 0, antenna := 0 } with
    now := Diary.time
    write := fun remark diary => { diary with calls := diary.calls ++ remark.call?.toList }
    emit := fun _ diary => (false, diary)
    deliver := fun text s =>
      let texts := s.surroundings.texts ++ [text]
      (.ok (), { s with surroundings := { s.surroundings with texts } })
    notifyError := fun isOn s =>
      let lights := s.surroundings.lights ++ [isOn]
      { s with surroundings := { s.surroundings with lights } } }

def recorder : Recorder keeping where
  calls := Diary.calls
  wire _ := []
  calls_write _ _ := rfl
  wire_write _ _ := rfl
  calls_emit _ _ := rfl
  wire_emit _ _ := rfl
  calls_interrupts _ := rfl
  wire_interrupts _ := rfl

lemma outside : keeping.CallbacksAre recorder.Outside :=
  ⟨fun _ _ => ⟨rfl, rfl⟩, fun _ => ⟨rfl, rfl⟩, fun _ _ => ⟨rfl, rfl⟩, fun _ _ => ⟨rfl, rfl⟩,
    fun _ _ => ⟨rfl, rfl⟩⟩

/-- A new router has been started. -/
def started (config : Config) : Station Diary := ((Station.fresh config blank).start keeping).2

/-- The mode is inventory, and its first command has been queued, if that is possible. -/
def sent (s : Station Diary) : Except OperationError Nat × Station Diary :=
  (s.enterMode keeping .inventory).sendTo keeping 0 s.router.config.strategy.openingCommand

/-- Inventory has begun. -/
def begun (s : Station Diary) : Station Diary := (sent s).2.beginSchedule keeping

/-- At some time bytes have arrived. -/
def pass (time : Nat) (bytes : List UInt8) (s : Station Diary) : Station Diary :=
  { s.receive bytes with surroundings := { s.surroundings with time } }

section

variable {part : Diary → α} {s t : Station Diary} {events : List Episode}

lemma episodes_started (hpart : keeping.Shields part) (config : Config) :
    Episodes keeping part (.fresh config blank) [] (started config) :=
  Episodes.refl.beside (Station.beside_start hpart (Station.settled_fresh config blank))

lemma sendTo_eq (size : Nat) (hqueued : (sent t).1 = .ok size) :
    (t.enterMode keeping .inventory).sendTo keeping 0 t.router.config.strategy.openingCommand =
      (.ok size, (sent t).2) := by
  rw [← hqueued]
  rfl

lemma episodes_begun (h : Episodes keeping part s events t) (size time : Nat)
    (hqueued : (sent t).1 = .ok size) (htime : (sent t).2.now keeping = time) :
    Episodes keeping part s (events ++ [.begun time]) (begun t) := by
  rw [← htime]
  exact h.begin 0 size (sendTo_eq size hqueued)

lemma episodes_pass (hpart : ∀ diary time, part { diary with time } = part diary)
    (h : Episodes keeping part s events t) (time : Nat) (bytes : List UInt8) :
    Episodes keeping part s events (pass time bytes t) :=
  h.beside (.of_router rfl (hpart t.surroundings time))

end

end Diary

end RfidLink
