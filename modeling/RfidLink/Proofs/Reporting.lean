import RfidLink.Proofs.Rounds

/-!
# What a session knows about inventory

A session keeps a copy of whether inventory runs: the flag it last reported to the board.  A button
asks this copy what to do next.  But inventory also ends on its own, whenever received bytes are
processed, and every action that waits for an answer processes them.

**Nothing ends but inventory that is on.**  `Station.OnlyEnds` relates two stations if there is
inventory in the second only if there was in the first.  Every chore leads along it
(`Chore.onlyEnds`), and the tasks a session puts between its chores are looked at where they occur.

**The copy errs on one side only.**  Along every run there is no inventory that has not been
reported (`Session.Runs.reported`).

* An action that **reports** leaves the copy right: polling, stopping, toggling, and starting with
  success.
* Any other action leaves the copy as it is, and inventory can only end in it.  If it does, the copy
  is wrong until the next report: `running_kept_after_onlyRound` is such a run.

**`running_eq_isActive_of_reports`** puts this together.  What does *not* hold is that the copy is
right after every action.
-/

namespace RfidLink

variable {ε : Type} {board : Board ε}

/-- Whether inventory is on, by schedule and mode. -/
def Router.isCollecting (r : Router) : Bool := r.inventoryActive && r.mode == .inventory

lemma Router.isCollecting_iff {r : Router} :
    r.isCollecting = true ↔ r.inventoryActive = true ∧ r.mode = .inventory := by
  simp [isCollecting]

lemma Router.isCollecting_of_stance {r r' : Router} (h : r'.stance = r.stance) :
    r'.isCollecting = r.isCollecting := by
  simp only [stance, Prod.mk.injEq] at h
  simp only [isCollecting, inventoryActive, h.1, h.2.2]

lemma Router.isCollecting_of_idle {r : Router} (h : r.mode = .idle) : r.isCollecting = false := by
  simp [isCollecting, h]

namespace Station

variable {s t u : Station ε}

/-! ## Inventory ends -/

/-- There is inventory only if there was inventory before. -/
def OnlyEnds (s t : Station ε) : Prop :=
  t.router.isCollecting = true → s.router.isCollecting = true

lemma OnlyEnds.refl (s : Station ε) : s.OnlyEnds s := id

lemma OnlyEnds.trans (hst : s.OnlyEnds t) (htu : t.OnlyEnds u) : s.OnlyEnds u :=
  fun h => hst (htu h)

lemma OnlyEnds.of_stance (h : t.router.stance = s.router.stance) : s.OnlyEnds t := by
  intro ht
  rwa [← Router.isCollecting_of_stance h]

lemma OnlyEnds.of_router (h : t.router = s.router) : s.OnlyEnds t := .of_stance (by rw [h])

lemma OnlyEnds.of_off (h : t.router.isCollecting = false) : s.OnlyEnds t := by
  intro ht
  rw [h] at ht
  cases ht

variable (board) in
lemma isCollecting_enterIdle (s : Station ε) :
    (s.enterMode board .idle).router.isCollecting = false := by
  have hstance := stance_enterMode board .idle s
  exact Router.isCollecting_of_idle (congrArg Prod.fst hstance)

/-- Nothing that is done about a frame or about the schedule begins inventory. -/
lemma Deed.onlyEnds (hboard : board.CallbacksAre OnlyEnds) (h : Deed board s t) :
    s.OnlyEnds t := by
  cases h with
  | tell remark _ => exact .of_stance rfl
  | note f hf => exact .of_stance (congrArg Prod.fst (hf s.router))
  | deliver text => exact hboard.deliver text s
  | notifyRead => exact hboard.notifyRead s
  | notifyError isOn => exact hboard.notifyError isOn s
  | sendTo address command => exact .of_stance (stance_sendTo board address command s)
  | reschedule f hmode hactive _ => exact fun _ => Router.isCollecting_iff.mpr ⟨hactive, hmode⟩
  | endInventory => exact .of_off (isCollecting_enterIdle board _)
  | endOnlyRound => exact .of_off (isCollecting_enterIdle board _)

lemma Deeds.onlyEnds (hboard : board.CallbacksAre OnlyEnds) (h : s.Deeds board t) :
    s.OnlyEnds t := by
  induction h with
  | refl => exact .refl s
  | tail _ hstep ih => exact ih.trans (hstep.onlyEnds hboard)

lemma onlyEnds_performReset (s : Station ε) : s.OnlyEnds s.performReset := by
  obtain ⟨_, hrouter⟩ := router_performReset s
  exact .of_stance (by rw [hrouter]; rfl)

lemma onlyEnds_acceptFrame (hboard : board.CallbacksAre OnlyEnds) (now : Nat)
    (frame : List UInt8) (s : Station ε) : s.OnlyEnds (s.acceptFrame board now frame) := by
  obtain ⟨router, remark, hrouter, -, hdeeds⟩ := exists_registers board now frame s
  have hnoted : s.OnlyEnds ((s.onRouter fun _ => router).tell board remark) :=
    .of_stance hrouter.stance
  exact hnoted.trans (hdeeds.onlyEnds hboard)

lemma onlyEnds_acceptFrames (hboard : board.CallbacksAre OnlyEnds) (now turns : Nat)
    (s : Station ε) : s.OnlyEnds (s.acceptFrames board now turns).2 := by
  induction turns generalizing s with
  | zero => exact .refl s
  | succ turns ih =>
      have hpulled : s.OnlyEnds (s.pullFrame board now).2 :=
        .of_stance (stance_pullFrame board now s)
      simp only [acceptFrames]
      split <;> rename_i heq <;> rw [heq] at hpulled
      · exact hpulled
      · exact ((hpulled.trans (onlyEnds_acceptFrame hboard now _ _)).trans
          (onlyEnds_performReset _)).trans (ih _)

lemma onlyEnds_processReceived (hboard : board.CallbacksAre OnlyEnds) (s : Station ε) :
    s.OnlyEnds (s.processReceived board).2 := by
  obtain ⟨_, hdiscarded⟩ := router_discardAfterOverrun board s
  have hready : s.OnlyEnds (s.discardAfterOverrun board).performReset :=
    OnlyEnds.trans (.of_stance (by rw [hdiscarded]; rfl)) (onlyEnds_performReset _)
  have haccepted := hready.trans (onlyEnds_acceptFrames hboard (s.now board)
    ((s.discardAfterOverrun board).performReset.frameTurns board) _)
  exact haccepted.trans ((deeds_keepSchedule board (s.now board) _).onlyEnds hboard)

/-- **Processing what was received may end inventory, and never begins it.** -/
lemma onlyEnds_process (hboard : board.CallbacksAre OnlyEnds) (s : Station ε) :
    s.OnlyEnds (s.process board).2 := by
  simp only [process]
  split
  · exact .refl s
  · split
    · exact .refl s
    · exact onlyEnds_processReceived hboard (s.onRouter fun r => { r with busy := true })

/-- **No chore begins inventory.** -/
lemma Chore.onlyEnds (hboard : board.CallbacksAre OnlyEnds) {occasions : List (Occasion ε)}
    (h : Chore board s occasions t) : s.OnlyEnds t := by
  cases h with
  | tell remark _ => exact .of_stance rfl
  | setAddress address => exact .of_stance rfl
  | forget answers awaiting _ => exact .of_stance rfl
  | sendTo address command => exact .of_stance (stance_sendTo board address command s)
  | process => exact onlyEnds_process hboard s
  | wait ms => exact hboard.wait ms s

lemma Steps.onlyEnds (hboard : board.CallbacksAre OnlyEnds) {occasions : List (Occasion ε)}
    (h : s.ChoresOn board occasions t) : s.OnlyEnds t := by
  induction h with
  | refl => exact .refl s
  | tail _ hstep ih => exact ih.trans (hstep.onlyEnds hboard)

/-- Inventory is off in a router that has just been started, and stays off in one that runs. -/
lemma onlyEnds_start (s : Station ε) : s.OnlyEnds (s.start board).2 := by
  simp only [start]
  split
  · exact .refl s
  · refine .of_off (Router.isCollecting_of_idle ?_)
    exact congrArg Prod.fst (stance_resetUnlessBusy
      (s.onRouter fun r => { r with running := true, mode := .idle, resetPending := true }))

lemma onlyEnds_stop (s : Station ε) : s.OnlyEnds (s.stop board).2 := by
  simp only [stop]
  split
  · exact .of_off (isCollecting_enterIdle board _)
  · exact .refl s

/-- No operation begins inventory unless it sets mode or schedule by hand. -/
lemma onlyEnds_operation (hboard : board.CallbacksAre OnlyEnds) {operation : Operation}
    (hraw : operation.isRaw = false) (s : Station ε) : s.OnlyEnds (operation.run board s) := by
  cases operation with
  | start => exact onlyEnds_start s
  | stop => exact onlyEnds_stop s
  | process => exact onlyEnds_process hboard s
  | enterMode mode => cases hraw
  | beginSchedule => cases hraw
  | endSchedule => cases hraw
  | reportTotals => exact .of_stance (stance_reportTotals board s)
  | send command => exact .of_stance (stance_sendTo board _ command s)
  | sendRaw code args =>
      show s.OnlyEnds (s.sendRaw board code args).2
      simp only [sendRaw]
      split
      · exact .refl s
      · exact .of_stance (stance_sendTo board _ _ s)
  | sendTo address command => exact .of_stance (stance_sendTo board address command s)
  | ask address command timeoutMs => exact (chores_ask address command timeoutMs s).onlyEnds hboard
  | _ => exact .of_stance rfl

/-- Once the schedule has begun in inventory mode, there is inventory. -/
lemma isCollecting_beginSchedule (hboard : board.CallbacksAre fun s t => t.router = s.router)
    (hmode : s.router.mode = .inventory) : (s.beginSchedule board).router.isCollecting = true := by
  have hstance : (s.beginSchedule board).router.stance =
      (.inventory, s.router.running, .opened s.router.config (s.now board)) := by
    have hopened (t : Station ε) (h : t.router.stance =
        (.inventory, s.router.running, .opened s.router.config (s.now board))) :
        (if t.router.errorShown then
          (t.onRouter fun r => { r with errorShown := false }).notify (board.notifyError false)
          else t).router.stance = (.inventory, s.router.running,
            .opened s.router.config (s.now board)) := by
      split
      · rw [router_notify (hboard.notifyError false)]
        exact h
      · exact h
    refine hopened _ ?_
    split
    · rw [← hmode]
      rfl
    · rw [← hmode]
      rfl
  simp only [Router.stance, Prod.mk.injEq] at hstance
  refine Router.isCollecting_iff.mpr ⟨?_, hstance.1⟩
  rw [Router.inventoryActive, hstance.2.2]
  rfl

end Station

namespace Session

open Station

variable {s t : Session ε}

/-! ## What becomes of the copy

Asking leaves the copy alone, and so does everything that is made of asking. -/

variable (board) in
lemma running_step (address : UInt8) (command : Command) (s : Session ε) :
    (s.step board address command).2.running = s.running := by
  have hasked : (s.ask board address command).2.running = s.running := rfl
  rcases hask : s.ask board address command with ⟨cause | answer, t⟩ <;> rw [hask] at hasked
  · rw [step, hask]
    cases cause <;> exact hasked
  · rw [step, hask]
    dsimp only
    split <;> exact hasked

lemma running_sendSetting (command : Command) (s : Session ε) :
    (s.sendSetting board command).running = s.running := by
  simp only [sendSetting]
  split
  · rfl
  · rfl

lemma running_sendSettings (s : Session ε) : (s.sendSettings board).running = s.running := by
  simp only [sendSettings]
  split
  · rw [running_sendSetting, running_sendSetting]
  · rw [running_sendSetting, running_sendSetting, running_sendSetting]

lemma running_chooseReader (configured : UInt8) (toAll toOne : Option Answer) (s : Session ε) :
    (s.chooseReader board configured toAll toOne).running = s.running := by
  simp only [chooseReader]
  split
  · rfl
  · rfl

lemma running_settle (workMode : UInt8) (hasAnswered : Bool) (s : Session ε) :
    (s.settle board workMode hasAnswered).2.running = s.running := by
  have hstopped : (s.step board s.address .stopImmediately).2.running = s.running :=
    running_step board s.address .stopImmediately s
  unfold settle
  split <;> rename_i t heq <;> rw [heq] at hstopped
  · exact hstopped
  · rename_i stopped
    have htold : (if stopped.isNone then t.tell board .stopUnanswered else t).running
        = s.running := by
      split
      · exact hstopped
      · exact hstopped
    dsimp only
    have hset := (running_step board
      (if stopped.isNone then t.tell board .stopUnanswered else t).address (.setWorkMode workMode)
      (if stopped.isNone then t.tell board .stopUnanswered else t)).trans htold
    split <;> rename_i heq' <;> rw [heq'] at hset
    · exact hset
    · split
      · exact (running_sendSettings _).trans hset
      · exact hset

/-- The handshake leaves the copy alone. -/
lemma running_connect (s : Session ε) : (s.connect board).2.running = s.running := by
  set t : Session ε :=
    { s with connected := false }.tell board (.connecting (s.settings board).address) with ht
  have hall : (t.step board broadcastAddress .obtainReaderInfo).2.running = s.running :=
    running_step board broadcastAddress .obtainReaderInfo t
  simp only [connect]
  rw [← ht]
  split <;> rename_i u heq <;> rw [heq] at hall
  · exact hall
  · have hone := (running_step board (s.settings board).address .obtainReaderInfo u).trans hall
    split <;> rename_i heq' <;> rw [heq'] at hone
    · exact hone
    · rw [running_settle]
      exact (running_chooseReader _ _ _ _).trans hone

lemma running_command (command : Command) (s : Session ε) :
    (s.command board command).2.running = s.running := by
  simp only [Session.command]
  split
  · rfl
  · rfl

lemma running_reportRunning (isOn : Bool) (s : Session ε) :
    (s.reportRunning board isOn).running = isOn := by
  simp only [reportRunning]
  split
  · assumption
  · rfl

/-! ## Reports -/

/-- Nothing has been reported, and inventory has at most ended. -/
structure Unreported (s t : Session ε) : Prop where
  running : t.running = s.running
  onlyEnds : t.isActive = true → s.isActive = true

lemma Unreported.trans {u : Session ε} (hst : s.Unreported t) (htu : t.Unreported u) :
    s.Unreported u :=
  ⟨htu.running.trans hst.running, fun hactive => hst.onlyEnds (htu.onlyEnds hactive)⟩

/-- No inventory goes unreported. -/
def Reported (s : Session ε) : Prop := s.isActive = true → s.running = true

lemma Unreported.reported (hst : s.Unreported t) (hs : s.Reported) : t.Reported :=
  fun hactive => hst.running.trans (hs (hst.onlyEnds hactive))

/-- Starting without success reports nothing, and leaves no inventory. -/
lemma unreported_startConnected (h : (s.startConnected board).1.isOk = false) :
    s.Unreported (s.startConnected board).2 := by
  unfold startConnected at h ⊢
  split
  · rename_i hactive
    rw [if_pos hactive] at h
    cases h
  · rename_i hinactive
    rw [if_neg hinactive] at h
    dsimp only at h ⊢
    split <;> rename_i heq
    · exact ⟨rfl, OnlyEnds.of_off (s := s.station) (isCollecting_enterIdle board _)⟩
    · rw [heq] at h
      cases h

section

variable (hboard : board.CallbacksAre fun s t => t.router = s.router)

include hboard

/-- What follows a report does not change whether there is inventory. -/
lemma isActive_reportRunning (isOn : Bool) (s : Session ε) :
    (s.reportRunning board isOn).isActive = s.isActive := by
  simp only [reportRunning]
  split
  · rfl
  · simp only [isActive, hboard.notifyRunning isOn s.station]

lemma onlyEnds_callbacks : board.CallbacksAre OnlyEnds :=
  hboard.mono fun _ _ => .of_router

lemma unreported_connect (s : Session ε) : s.Unreported (s.connect board).2 :=
  ⟨running_connect s, (chores_connect s).onlyEnds (onlyEnds_callbacks hboard)⟩

lemma unreported_command (command : Command) (s : Session ε) :
    s.Unreported (s.command board command).2 :=
  ⟨running_command command s, (chores_command command s).onlyEnds (onlyEnds_callbacks hboard)⟩

/-- Stopping reports that nothing runs, and nothing does. -/
lemma stopInventory_reports (s : Session ε) :
    (s.stopInventory board).2.running = false ∧ (s.stopInventory board).2.isActive = false := by
  have hreported (u : Station ε) :
      (reportRunning board false { s with station := u.enterMode board .idle }).running = false ∧
        (reportRunning board false { s with station := u.enterMode board .idle }).isActive
          = false :=
    ⟨running_reportRunning false _,
      (isActive_reportRunning hboard false _).trans (isCollecting_enterIdle board u)⟩
  simp only [stopInventory]
  split
  · exact hreported _
  · exact hreported _

/-- Starting with success reports that inventory runs, and it does. -/
lemma startConnected_reports (hs : s.Reported)
    (h : (s.startConnected board).1.isOk = true) :
    (s.startConnected board).2.running = true ∧ (s.startConnected board).2.isActive = true := by
  unfold startConnected at h ⊢
  split
  · rename_i hactive
    exact ⟨hs hactive, hactive⟩
  · rename_i hinactive
    rw [if_neg hinactive] at h
    dsimp only at h ⊢
    split <;> rename_i u heq
    · rw [heq] at h
      cases h
    · have hmode : u.router.mode = .inventory := by
        have hsent := mode_sendTo board s.address s.station.router.config.strategy.openingCommand
          ((s.station.onRouter Router.forgetTags).enterMode board .inventory)
        rw [heq] at hsent
        exact hsent.trans (congrArg Prod.fst (stance_enterMode board .inventory _))
      exact ⟨running_reportRunning true _,
        (isActive_reportRunning hboard true _).trans (isCollecting_beginSchedule hboard hmode)⟩

lemma startInventory_reports (hs : s.Reported) (h : (s.startInventory board).1.isOk = true) :
    (s.startInventory board).2.running = true ∧ (s.startInventory board).2.isActive = true := by
  have hconnected := unreported_connect hboard s
  simp only [startInventory] at h ⊢
  split
  · rename_i hbefore
    rw [if_pos hbefore] at h
    exact startConnected_reports hboard hs h
  · rename_i hbefore
    rw [if_neg hbefore] at h
    split <;> rename_i heq <;> rw [heq] at h hconnected
    · cases h
    · exact startConnected_reports hboard (hconnected.reported hs) h

lemma unreported_startInventory (h : (s.startInventory board).1.isOk = false) :
    s.Unreported (s.startInventory board).2 := by
  have hconnected := unreported_connect hboard s
  simp only [startInventory] at h ⊢
  split
  · rename_i hbefore
    rw [if_pos hbefore] at h
    exact unreported_startConnected h
  · rename_i hbefore
    rw [if_neg hbefore] at h
    split <;> rename_i heq <;> rw [heq] at h hconnected
    · exact hconnected
    · exact hconnected.trans (unreported_startConnected h)

/-- Whatever comes of it, toggling leaves the copy right. -/
lemma toggleInventory_reports (hs : s.Reported) :
    (s.toggleInventory board).2.running = (s.toggleInventory board).2.isActive := by
  simp only [toggleInventory]
  split
  · obtain ⟨hrunning, hactive⟩ := stopInventory_reports hboard s
    exact hrunning.trans hactive.symm
  · rename_i hstopped
    cases hresult : (s.startInventory board).1.isOk with
    | true =>
        obtain ⟨hrunning, hactive⟩ := startInventory_reports hboard hs hresult
        exact hrunning.trans hactive.symm
    | false =>
        -- nothing ran before, and a start that fails begins nothing
        have hfailed := unreported_startInventory hboard hresult
        have hoff : s.isActive = false := Bool.eq_false_iff.mpr fun hactive => hstopped (hs hactive)
        have hstill : (s.startInventory board).2.isActive = false :=
          Bool.eq_false_iff.mpr fun hactive => by simp [hfailed.onlyEnds hactive] at hoff
        rw [hfailed.running, hstill]
        simpa using hstopped

lemma poll_reports (h : (s.poll board).1 ≠ .skipped) :
    (s.poll board).2.running = (s.poll board).2.isActive := by
  simp only [poll] at h ⊢
  rw [if_neg h, running_reportRunning, isActive_reportRunning hboard]

lemma unreported_poll (h : (s.poll board).1 = .skipped) : s.Unreported (s.poll board).2 := by
  have hprocessed := onlyEnds_process (onlyEnds_callbacks hboard) s.station
  simp only [poll] at h ⊢
  rw [if_pos h]
  exact ⟨rfl, hprocessed⟩

end

end Session

/-- Whether an action ends with a report of whether inventory runs. -/
def Action.reports (board : Board ε) (s : Session ε) : Action → Bool
  | stopInventory | toggleInventory => true
  | startInventory => (s.startInventory board).1.isOk
  | poll => (s.poll board).1 != .skipped
  | connect | command _ | onRouter _ => false

section

variable (hboard : board.CallbacksAre fun s t => t.router = s.router) {action : Action}
  {s t : Session ε}

include hboard

/-- An action that reports leaves the copy right. -/
lemma Action.running_eq_isActive (hs : s.Reported) (h : action.reports board s = true) :
    (action.run board s).running = (action.run board s).isActive := by
  cases action with
  | stopInventory =>
      obtain ⟨hrunning, hactive⟩ := Session.stopInventory_reports hboard s
      exact hrunning.trans hactive.symm
  | toggleInventory => exact Session.toggleInventory_reports hboard hs
  | startInventory =>
      obtain ⟨hrunning, hactive⟩ := Session.startInventory_reports hboard hs h
      exact hrunning.trans hactive.symm
  | poll => exact Session.poll_reports hboard (by simpa [Action.reports] using h)
  | onRouter operation => cases h
  | connect => cases h
  | command c => cases h

/-- An action that does not report leaves the copy as it is, and begins nothing. -/
lemma Action.unreported (hraw : action.isRaw = false) (h : action.reports board s = false) :
    s.Unreported (action.run board s) := by
  cases action with
  | stopInventory => cases h
  | toggleInventory => cases h
  | startInventory => exact Session.unreported_startInventory hboard h
  | poll => exact Session.unreported_poll hboard (by simpa [Action.reports] using h)
  | onRouter operation =>
      exact ⟨rfl, Station.onlyEnds_operation (Session.onlyEnds_callbacks hboard) hraw s.station⟩
  | connect => exact Session.unreported_connect hboard s
  | command c => exact Session.unreported_command hboard c s

/-- **No action leaves inventory unreported.** -/
lemma Action.reported (hraw : action.isRaw = false) (hs : s.Reported) :
    (action.run board s).Reported := by
  cases hreports : action.reports board s with
  | true =>
      have hright := action.running_eq_isActive hboard hs hreports
      exact fun hactive => hright.trans hactive
  | false => exact (action.unreported hboard hraw hreports).reported hs

/-- No inventory goes unreported in any run. -/
lemma Session.Runs.reported {drift : ε → ε → Prop}
    (hrun : s.Runs board (fun action => action.isRaw = false) drift t) (hs : s.Reported) :
    t.Reported := by
  induction hrun with
  | refl => exact hs
  | tail _ hstep ih =>
      cases hstep with
      | act action hraw => exact action.reported hboard hraw ih
      | drift e _ => exact ih

end

/--
  **What a session knows about inventory.**  Start from a new session over a new router, whose
  callbacks leave the router alone, and let anything happen in any order: actions, bytes that
  arrive, also while somebody waits, and time that passes.  Only operations that set mode or
  schedule by hand are left out.  Then after every action

  * there is inventory only if it has been reported;
  * what was last reported is right if the action ends with a report;
  * otherwise nothing has been reported in it, and inventory has at most ended in it.
-/
theorem running_eq_isActive_of_reports
    (hboard : board.CallbacksAre fun s t => t.router = s.router) (config : Config)
    (surroundings : ε) {s : Session ε}
    (hrun : (Session.unconnected board (.fresh config surroundings)).Runs board
      (fun action => action.isRaw = false) (fun _ _ => True) s)
    (action : Action) (hraw : action.isRaw = false) :
    ((action.run board s).isActive = true → (action.run board s).running = true) ∧
      (action.reports board s = true →
        (action.run board s).running = (action.run board s).isActive) ∧
      (action.reports board s = false → (action.run board s).running = s.running ∧
        ((action.run board s).isActive = true → s.isActive = true)) := by
  have hnew : (Session.unconnected board (.fresh config surroundings)).Reported := nofun
  have hs : s.Reported := hrun.reported hboard hnew
  refine ⟨action.reported hboard hraw hs, action.running_eq_isActive hboard hs, fun h => ?_⟩
  have hunreported := action.unreported hboard hraw h
  exact ⟨hunreported.running, hunreported.onlyEnds⟩

/-! ## The only round ends inside a command -/

/-- Time stands still, and the callbacks do nothing. -/
def Board.idle : Board Unit := .still 0 { rfPower := 0, address := 0, antenna := 0 }

lemma Board.callbacks_idle : Board.idle.CallbacksAre fun s t => t.router = s.router :=
  ⟨fun _ _ => rfl, fun _ => rfl, fun _ _ => rfl, fun _ _ => rfl, fun _ _ => rfl⟩

/-- A new session with a reader that is to make a single round. -/
def onlyRoundStart : Session Unit :=
  .unconnected .idle (.fresh { Config.standard with
    responseTimeoutMs := 0, strategy := .singleShot } ())

/-- A reader answers, inventory starts, and the round ends before anybody looks. -/
def onlyRoundActions : List Action :=
  [.onRouter .start, .onRouter (.receive readerInfoFrame), .startInventory,
    .onRouter (.receive roundEndFrame)]

/-- Polling finds out that the only round has ended, and reports it. -/
theorem running_eq_isActive_of_reports_polled :
    let s := onlyRoundActions.foldl (fun s action => action.run .idle s) onlyRoundStart
    s.running = true ∧ (Action.poll.run .idle s).running = false ∧
      (Action.poll.run .idle s).isActive = false := by
  intro s
  have hrun := running_eq_isActive_of_reports (s := s) Board.callbacks_idle _ ()
    (Session.runs_foldl onlyRoundActions (by decide +kernel) onlyRoundStart) .poll rfl
  have hright := hrun.2.1 (by decide +kernel)
  have hended : (Action.poll.run .idle s).isActive = false := by decide +kernel
  exact ⟨by decide +kernel, hright.trans hended, hended⟩

/--
  **The copy can be wrong after an action.**  Whoever sends a command also processes the end of the
  only round, and does not report it.  The session still takes inventory for running, so the next
  button press stops what has already ended.
-/
theorem running_kept_after_onlyRound :
    let s := onlyRoundActions.foldl (fun s action => action.run .idle s) onlyRoundStart
    let t := (Action.command .getTagCount).run .idle s
    (Board.idle.CallbacksAre fun s t => t.router = s.router) ∧
      onlyRoundStart.Runs .idle (fun action => action.isRaw = false) (fun _ _ => True) s ∧
      s.running = true ∧ s.isActive = true ∧ t.running = true ∧ t.isActive = false ∧
      (t.toggleInventory .idle).1.toOption = some false := by
  intro s t
  refine ⟨Board.callbacks_idle, Session.runs_foldl onlyRoundActions (by decide +kernel) _, ?_⟩
  decide +kernel

end RfidLink
