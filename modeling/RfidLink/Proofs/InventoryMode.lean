import RfidLink.Proofs.Tasks

/-!
# Mode, schedule and running flag agree

Whether there is inventory is written down three times: as the mode of the router, as the schedule
that has begun, and, because a stopped router takes none, as the running flag.  About ten paths
change one of them, each in its own order.

* `Router.Consistent` is what holds between the three whenever nobody is in the middle of such a
  change.
* `Station.Move.consistent` is the step: one case for each kind of move.  The moves were
  cut so that no callback sees the middle of a change, which is why callbacks may start, stop and
  process as they like.
* **`mode_eq_inventory_iff_active`** is the run: from a new router, whatever is asked of it and of
  its session in whatever order, inventory is on in all three places or in none.
-/

namespace RfidLink

variable {ε : Type} {board : Board ε}

/-- The mode, the schedule and the running flag of a router agree. -/
structure Router.Consistent (r : Router) : Prop where
  mode_iff_active : r.mode = .inventory ↔ r.inventoryActive = true
  running_of_inventory : r.mode = .inventory → r.running = true
  active_of_inRound : r.schedule.inRound = true → r.inventoryActive = true

/-- Nothing but the stance of a router matters for its consistency. -/
lemma Router.Consistent.of_stance {r r' : Router} (h : r'.stance = r.stance) (hr : r.Consistent) :
    r'.Consistent := by
  obtain ⟨hmode, hrest⟩ := Prod.mk.injEq _ _ _ _ ▸ h
  obtain ⟨hrunning, hschedule⟩ := Prod.mk.injEq _ _ _ _ ▸ hrest
  constructor
  · rw [hmode, inventoryActive, hschedule]
    exact hr.mode_iff_active
  · rw [hmode, hrunning]
    exact hr.running_of_inventory
  · rw [inventoryActive, hschedule]
    exact hr.active_of_inRound

/-- A router that is idle and has no schedule is consistent, running or not. -/
lemma Router.Consistent.of_idle {r : Router} (hmode : r.mode = .idle)
    (hactive : r.inventoryActive = false) (hround : r.schedule.inRound = false) : r.Consistent := by
  constructor
  · simp [hmode, hactive]
  · simp [hmode]
  · simp [hround]

/-- Without a schedule that has begun no round is open. -/
lemma Router.Consistent.inRound {r : Router} (h : r.Consistent) (hoff : r.inventoryActive = false) :
    r.schedule.inRound = false := by
  cases hin : r.schedule.inRound with
  | false => rfl
  | true => rw [h.active_of_inRound hin] at hoff; cases hoff

/-- A stopped router takes no inventory. -/
lemma Router.Consistent.inactive {r : Router} (h : r.Consistent) (hstopped : r.running = false) :
    r.inventoryActive = false := by
  cases hactive : r.inventoryActive with
  | false => rfl
  | true =>
      have hon := h.running_of_inventory (h.mode_iff_active.mpr hactive)
      rw [hstopped] at hon
      cases hon

/-- A router that takes no inventory has no schedule that has begun. -/
lemma Router.Consistent.inactive_of_not_both {r : Router} (h : r.Consistent)
    (hnot : ¬ (r.inventoryActive = true ∧ r.mode = .inventory)) : r.inventoryActive = false := by
  cases hactive : r.inventoryActive with
  | false => rfl
  | true => exact absurd ⟨hactive, h.mode_iff_active.mpr hactive⟩ hnot

namespace Station

lemma stance_resetUnlessBusy (s : Station ε) :
    s.resetUnlessBusy.router.stance = s.router.stance := by
  obtain ⟨_, _, h⟩ := router_resetUnlessBusy s
  rw [h]
  rfl

variable (board) in
lemma stance_enterMode (mode : Mode) (s : Station ε) :
    (s.enterMode board mode).router.stance = (mode, s.router.running, s.router.schedule) := by
  obtain ⟨_, _, h⟩ := router_enterMode board mode s
  rw [h]
  rfl

variable (board) in
lemma stance_pullFrame (now : Nat) (s : Station ε) :
    (s.pullFrame board now).2.router.stance = s.router.stance := by
  obtain ⟨_, hrouter⟩ := router_pullFrame board now s
  rw [hrouter]
  rfl

lemma consistent_enterIdle {s : Station ε} (hoff : s.router.schedule = .off) :
    (s.enterMode board .idle).router.Consistent := by
  obtain ⟨_, _, h⟩ := router_enterMode board .idle s
  rw [h]
  refine .of_idle rfl ?_ ?_
  · show s.router.schedule.active = false
    rw [hoff]
    rfl
  · show s.router.schedule.inRound = false
    rw [hoff]
    rfl

variable (board) in
lemma stance_reportTotals (s : Station ε) :
    (s.reportTotals board).2.router.stance = s.router.stance :=
  congrArg Router.stance (router_tellAll board _ s)

/-- A command is queued only while the router runs. -/
lemma running_of_sendTo {address : UInt8} {command : Command} {s : Station ε} {size : Nat}
    (h : (s.sendTo board address command).1 = .ok size) : s.router.running = true := by
  cases hrun : s.router.running with
  | true => rfl
  | false => simp [sendTo, hrun] at h

/-! ## One move -/

lemma consistent_start {s : Station ε} (hs : s.router.Consistent) :
    (s.start board).2.router.Consistent := by
  cases hrun : s.router.running with
  | true =>
      have hsame : (s.start board).2 = s := by simp [start, hrun]
      rw [hsame]
      exact hs
  | false =>
      -- a router that does not run is idle, so its schedule is off as far as it matters
      have hidle : s.router.inventoryActive = false := hs.inactive hrun
      have hstance : (s.start board).2.router.stance = (.idle, true, s.router.schedule) := by
        simp only [start, hrun, Bool.false_eq_true, if_false]
        exact stance_resetUnlessBusy _
      have hnew : ({ s.router with mode := .idle, running := true } : Router).Consistent :=
        .of_idle rfl hidle (hs.inRound hidle)
      exact Router.Consistent.of_stance (r := { s.router with mode := .idle, running := true })
        hstance hnew

lemma consistent_stop {s : Station ε} (hs : s.router.Consistent) :
    (s.stop board).2.router.Consistent := by
  simp only [stop]
  split
  · exact consistent_enterIdle rfl
  · exact hs

/-- Nothing that is done about a frame makes mode and schedule disagree. -/
lemma Deed.consistent
    (hboard : board.CallbacksAre fun s t => s.router.Consistent → t.router.Consistent)
    {s t : Station ε} (h : Deed board s t) (hs : s.router.Consistent) : t.router.Consistent := by
  cases h with
  | tell remark _ => exact hs
  | note f hf => exact hs.of_stance (congrArg Prod.fst (hf s.router))
  | deliver text => exact hboard.deliver text s hs
  | notifyRead => exact hboard.notifyRead s hs
  | notifyError isOn => exact hboard.notifyError isOn s hs
  | sendTo address command => exact hs.of_stance (stance_sendTo board address command s)
  | reschedule f hmode hactive hf =>
      have hstill : (s.router.reschedule f).inventoryActive = true := (hf _).trans hactive
      exact ⟨⟨fun _ => hstill, fun _ => hmode⟩, hs.running_of_inventory, fun _ => hstill⟩
  | endInventory => exact consistent_enterIdle rfl
  | endOnlyRound =>
      refine consistent_enterIdle ?_
      exact congrArg (fun p : Mode × Bool × Schedule => p.2.2)
        (stance_reportTotals board s.endSchedule)

/-- **What one move keeps.**  If callbacks keep a router consistent, so does every move. -/
theorem Move.consistent
    (hboard : board.CallbacksAre fun s t => s.router.Consistent → t.router.Consistent)
    {s t : Station ε} (h : Move board s t) (hs : s.router.Consistent) : t.router.Consistent := by
  cases h with
  | deed hdeed => exact hdeed.consistent hboard hs
  | forget answers awaiting _ => exact Router.Consistent.of_stance (r := s.router) rfl hs
  | recount counters => exact Router.Consistent.of_stance (r := s.router) rfl hs
  | occupy busy => exact Router.Consistent.of_stance (r := s.router) rfl hs
  | flag line _ _ => exact hs
  | reset =>
      obtain ⟨_, hrouter⟩ := router_performReset s
      exact hs.of_stance (by rw [hrouter]; rfl)
  | discard =>
      obtain ⟨_, hrouter⟩ := router_discardAfterOverrun board s
      exact hs.of_stance (by rw [hrouter]; rfl)
  | search now _ _ => exact hs.of_stance (stance_pullFrame board now s)
  | take now frame router remark _ _ hrouter _ =>
      exact hs.of_stance (hrouter.stance.trans (stance_pullFrame board now s))
  | transmit => exact hs
  | notifyRunning isOn => exact hboard.notifyRunning isOn s hs
  | wait ms => exact hboard.wait ms s hs
  | start => exact consistent_start hs
  | stop => exact consistent_stop hs
  | begin address command size schedule hsent hactive =>
      have hrunning := running_of_sendTo hsent
      have hstance := (stance_sendTo board address command _).trans
        (stance_enterMode board .inventory s)
      have hrun : (s.enterMode board .inventory).router.running = s.router.running :=
        congrArg (fun p : Mode × Bool × Schedule => p.2.1)
          (stance_enterMode board .inventory s)
      have hnew : ({ s.router with mode := .inventory, schedule } : Router).Consistent := by
        constructor
        · simpa [Router.inventoryActive] using hactive
        · intro _
          exact hrun.symm.trans hrunning
        · intro _
          exact hactive
      refine hnew.of_stance ?_
      exact congrArg (fun p : Mode × Bool × Schedule => (p.1, p.2.1, schedule)) hstance
  | beginRefused address command hrefused =>
      have hstance := (stance_enterMode board .idle
        ((s.enterMode board .inventory).sendTo board address command).2)
      have hsent := (stance_sendTo board address command _).trans
        (stance_enterMode board .inventory s)
      -- the schedule had not begun, or the mode would have been inventory
      have hoff : s.router.inventoryActive = false := hs.inactive_of_not_both hrefused
      have hnew : ({ s.router with mode := .idle } : Router).Consistent :=
        .of_idle rfl hoff (hs.inRound hoff)
      refine hnew.of_stance (hstance.trans ?_)
      exact congrArg (fun p : Mode × Bool × Schedule => (Mode.idle, p.2.1, p.2.2)) hsent
  | endSending address command =>
      refine consistent_enterIdle ?_
      have hstance := (stance_sendTo board address command _).trans
        (stance_reportTotals board s.endSchedule)
      exact congrArg (fun p : Mode × Bool × Schedule => p.2.2) hstance

/-- What one move keeps, any number of moves keep. -/
lemma Moves.consistent
    (hboard : board.CallbacksAre fun s t => s.router.Consistent → t.router.Consistent)
    {s t : Station ε} (h : s.Moves board t) (hs : s.router.Consistent) : t.router.Consistent := by
  induction h with
  | refl => exact hs
  | tail _ hstep ih => exact hstep.consistent hboard ih

lemma Course.consistent
    (hboard : board.CallbacksAre fun s t => s.router.Consistent → t.router.Consistent)
    {s t : Station ε} (h : s.Course board t) (hs : s.router.Consistent) : t.router.Consistent := by
  cases h with
  | moves hmoves => exact hmoves.consistent hboard hs
  | arrival bytes => exact hs

end Station

/-! ## Whole runs -/

/-- Callbacks that follow the rules of inventory keep a router consistent, however they nest. -/
lemma Board.Nests.consistent {drift : ε → ε → Prop}
    (h : board.Nests (fun operation => operation.isRaw = false) drift) :
    board.CallbacksAre fun s t => s.router.Consistent → t.router.Consistent :=
  h.callbacks_keep (P := fun s => s.router.Consistent)
    (fun _ _ hkeep _ hraw s hs => (Operation.moves hraw s).consistent hkeep hs)
    (fun _ _ _ hs => hs) (.refl board)

/--
  **Inventory is on everywhere or nowhere.**  Start from a new router and a new session, and let
  anything happen in any order: operations and actions, bytes that arrive, time that passes, and
  callbacks that themselves start, stop and process, however they nest.  Only operations that set mode
  or schedule by hand are left out.  Then, between any two of these, the mode is inventory exactly
  if the schedule has begun, either means that the router runs, and a round is open only if the
  schedule has begun.
-/
theorem mode_eq_inventory_iff_active
    (hboard : board.Nests (fun operation => operation.isRaw = false) fun _ _ => True)
    (config : Config) (surroundings : ε) {t : Session ε}
    (hrun : (Session.unconnected board (.fresh config surroundings)).Runs board
      (fun action => action.isRaw = false) (fun _ _ => True) t) :
    (t.station.router.mode = .inventory ↔ t.station.router.inventoryActive = true) ∧
      (t.station.router.mode = .inventory → t.station.router.running = true) ∧
      (t.station.router.inventoryActive = true → t.station.router.running = true) ∧
      (t.station.router.schedule.inRound = true → t.station.router.inventoryActive = true) := by
  have hnew : (Router.stopped config).Consistent := .of_idle rfl rfl rfl
  have ht : t.station.router.Consistent :=
    hrun.keep (P := fun s => s.router.Consistent)
      (fun _ hraw s hs => (Action.moves hraw s).consistent hboard.consistent hs)
      (fun _ _ _ hs => hs) hnew
  refine ⟨ht.mode_iff_active, ht.running_of_inventory, ?_, ht.active_of_inRound⟩
  intro hactive
  exact ht.running_of_inventory (ht.mode_iff_active.mpr hactive)

/-! ## A board that interferes -/

/--
  A board that interferes: whoever gets a tag stops the router, whoever is notified of the tag
  starts it again, and received bytes are processed while somebody waits.
-/
def Board.restless : Board Unit :=
  let calm : Board Unit := .still 0 { rfPower := 0, address := 0, antenna := 0 }
  { calm with
    deliver := fun _ s => (.ok (), (s.stop calm).2)
    notifyRead := fun s => (s.start calm).2
    wait := fun _ s => (s.process calm).2 }

lemma Board.nests_restless :
    Board.restless.Nests (fun operation => operation.isRaw = false) fun _ _ => True := by
  have hcalm : (Board.still 0 { rfPower := 0, address := 0, antenna := 0 } : Board Unit).Nests
      (fun operation => operation.isRaw = false) fun _ _ => True :=
    .of_idle (fun _ => trivial)
      ⟨fun _ _ => rfl, fun _ => rfl, fun _ _ => rfl, fun _ _ => rfl, fun _ _ => rfl⟩
  refine .of_inner (fun _ => trivial) hcalm ⟨rfl, rfl, rfl, rfl, rfl⟩ ⟨?_, ?_, ?_, ?_, ?_⟩
  · intro _ s
    exact .inr ⟨.stop, rfl, rfl⟩
  · intro s
    exact .inr ⟨.start, rfl, rfl⟩
  · intro _ s
    exact .inl rfl
  · intro _ s
    exact .inl rfl
  · intro _ s
    exact .inr ⟨.process, rfl, rfl⟩

/-- What a reader says about itself. -/
def readerInfoFrame : List UInt8 := Frame.ofBody ([0x00, 0x21, 0x00] ++ List.replicate 12 0)

/-- A reader answers and inventory starts; then a tag comes in, and the consumer stops the router. -/
def interferingActions : List Action :=
  [.onRouter .start, .onRouter (.receive readerInfoFrame), .startInventory,
    .onRouter (.receive (Frame.ofBody [0x00, 0xEE, 0x00, 0x01, 0x02, 0xAA, 0xBB, 0x50])), .poll]

/--
  Inventory begins on the board that interferes, and the first tag ends it; before and after, mode,
  schedule and running flag agree.
-/
theorem mode_eq_inventory_iff_active_restless :
    let start := Session.unconnected .restless (.fresh { Config.standard with
      responseTimeoutMs := 0, strategy := .fast } ())
    let begun := (interferingActions.take 3).foldl (fun s action => action.run .restless s) start
    let ended := interferingActions.foldl (fun s action => action.run .restless s) start
    begun.station.router.mode = .inventory ∧ begun.station.router.inventoryActive = true ∧
      begun.station.router.running = true ∧ ended.station.router.counters.tagsPassedOn = 1 ∧
      ended.station.router.mode = .idle ∧ ended.station.router.inventoryActive = false := by
  intro start begun ended
  have hbegun := mode_eq_inventory_iff_active (t := begun) Board.nests_restless _ ()
    (Session.runs_foldl (interferingActions.take 3) (by decide +kernel) start)
  have hended := mode_eq_inventory_iff_active (t := ended) Board.nests_restless _ ()
    (Session.runs_foldl interferingActions (by decide +kernel) start)
  have hmode : begun.station.router.mode = .inventory := by decide +kernel
  have hidle : ended.station.router.mode = .idle := by decide +kernel
  refine ⟨hmode, hbegun.1.mp hmode, hbegun.2.1 hmode, by decide +kernel, hidle, ?_⟩
  rw [Bool.eq_false_iff]
  intro hactive
  have hinventory := hended.1.mpr hactive
  exact absurd (hinventory.symm.trans hidle) (by decide)

end RfidLink
