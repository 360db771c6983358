import RfidLink.Proofs.IdleProcessing
import RfidLink.Proofs.Reporting

/-!
# When inventory cannot be started

Starting inventory can fail in the handshake, because the router does not run, or because the first
command finds no room.  Whoever is told so will not think of stopping anything, so nothing may be
left behind that goes on by itself.

* `Station.Dormant` is the absence of inventory in a router where mode, schedule and running flag
  agree.  Nothing but a start that succeeds ends it (`Action.dormant`).
* `Session.Rests` are the runs in which no start succeeds.  There may be anything else in them, also
  attempts to start that fail.
* **`inventory_off_after_failed_start`**: unless there was inventory before and the start failed in
  its own handshake, there is none afterwards, nor later until a start succeeds, and no call to
  process received bytes queues anything meanwhile.
* **`inventory_on_after_failed_start`** is the exception.  If the reader is lost in a handshake
  during inventory, the next start fails in its own handshake and leaves inventory as it was.
-/

namespace RfidLink

variable {ε : Type} {board : Board ε}

namespace Station

variable {s t : Station ε}

lemma onlyEnds_iff : s.OnlyEnds t ↔
    (s.router.isCollecting = false → t.router.isCollecting = false) := by
  rw [OnlyEnds, ← Bool.not_eq_true, ← Bool.not_eq_true]
  exact not_imp_not.symm

/-- There is no inventory, and mode, schedule and running flag agree. -/
structure Dormant (s : Station ε) : Prop where
  consistent : s.router.Consistent
  off : s.router.isCollecting = false

/-- Then the schedule is off and the router idle. -/
lemma Dormant.idle (h : s.Dormant) :
    s.router.mode = .idle ∧ s.router.inventoryActive = false := by
  have hinactive : s.router.inventoryActive = false :=
    h.consistent.inactive_of_not_both fun hboth => by
      simpa [h.off] using Router.isCollecting_iff.mpr hboth
  exact ⟨h.consistent.idle hinactive, hinactive⟩

/-- Processing received bytes queues nothing then. -/
lemma Dormant.outbound_process (h : s.Dormant) :
    (s.process board).2.line.outbound = s.line.outbound :=
  outbound_of_touches (inward_process h.idle.1).touches

end Station

/-- Callbacks that follow the rules of inventory do not begin it, however they nest. -/
lemma Board.Nests.onlyEnds {drift : ε → ε → Prop}
    (h : board.Nests (fun operation => operation.isRaw = false) drift) :
    board.CallbacksAre Station.OnlyEnds := by
  have hkeep := h.callbacks_keep (P := fun s => s.router.isCollecting = false)
    (fun _ _ hcallbacks _ hraw s => Station.onlyEnds_iff.mp
      (Station.onlyEnds_operation (hcallbacks.mono fun _ _ => Station.onlyEnds_iff.mpr) hraw s))
    (fun _ _ _ hs => hs) (.refl board)
  exact hkeep.mono fun _ _ => Station.onlyEnds_iff.mpr

/-! ## Starts that fail -/

namespace Session

variable {s t : Session ε}

/-- A connected session that cannot start inventory has none afterwards. -/
lemma off_of_startConnected (h : (s.startConnected board).1.isOk = false) :
    (s.startConnected board).2.isActive = false := by
  have hinactive : s.isActive = false := by
    cases hactive : s.isActive with
    | false => rfl
    | true =>
        rw [startConnected, if_pos hactive] at h
        cases h
  exact Station.onlyEnds_iff.mp (unreported_startConnected h).onlyEnds hinactive

/--
  **A start that fails leaves no inventory**, unless it fails in its own handshake and there was
  inventory before.
-/
lemma off_of_startInventory (hboard : board.CallbacksAre Station.OnlyEnds)
    (hbefore : s.connected = true ∨ (s.connect board).1.isOk = true ∨ s.isActive = false)
    (h : (s.startInventory board).1.isOk = false) :
    (s.startInventory board).2.isActive = false := by
  have hchores := Station.onlyEnds_iff.mp ((chores_connect s).onlyEnds hboard)
  rw [startInventory] at h ⊢
  by_cases hconnected : s.connected = true
  · rw [if_pos hconnected] at h ⊢
    exact off_of_startConnected h
  · have hends := hbefore.resolve_left hconnected
    rw [if_neg hconnected] at h ⊢
    rcases hresult : s.connect board with ⟨cause | _, t⟩ <;> rw [hresult] at hends hchores
    · exact hchores (hends.resolve_left Bool.false_ne_true)
    · rw [hresult] at h
      exact off_of_startConnected h

lemma onlyEnds_reportRunning (hboard : board.CallbacksAre Station.OnlyEnds) (isOn : Bool)
    (s : Session ε) : s.station.OnlyEnds (s.reportRunning board isOn).station := by
  simp only [reportRunning]
  split
  · exact .refl s.station
  · exact hboard.notifyRunning isOn s.station

lemma off_of_stopInventory (hboard : board.CallbacksAre Station.OnlyEnds) (s : Session ε) :
    (s.stopInventory board).2.isActive = false := by
  have hreported (u : Station ε) : (reportRunning board false
      { s with station := u.enterMode board .idle }).isActive = false :=
    Station.onlyEnds_iff.mp (onlyEnds_reportRunning hboard false _)
      (Station.isCollecting_enterIdle board u)
  simp only [stopInventory]
  split
  · exact hreported _
  · exact hreported _

end Session

/-! ## Until the next start -/

/-- Whether an action starts inventory. -/
def Action.starts (board : Board ε) (s : Session ε) : Action → Bool
  | startInventory => (s.startInventory board).1.isOk
  | toggleInventory => !s.running && (s.startInventory board).1.isOk
  | onRouter _ | connect | stopInventory | command _ | poll => false

/-- Anything but a start of inventory: another action, or a change of the surroundings. -/
inductive Session.RestEvent (board : Board ε) : Session ε → Session ε → Prop
  | act {s} (action : Action) (hraw : action.isRaw = false)
      (hstart : action.starts board s = false) : RestEvent board s (action.run board s)
  | drift {s} (e : ε) : RestEvent board s (s.onStation fun t => { t with surroundings := e })

/-- The runs in which inventory is not started. -/
abbrev Session.Rests (board : Board ε) : Session ε → Session ε → Prop :=
  Relation.ReflTransGen (Session.RestEvent board)

section

variable (hboard : board.Nests (fun operation => operation.isRaw = false) fun _ _ => True)
  {s t : Session ε}

include hboard

/-- **No action but a start ends dormancy.** -/
lemma Action.dormant {action : Action} (hraw : action.isRaw = false)
    (hstart : action.starts board s = false) (hs : s.station.Dormant) :
    (action.run board s).station.Dormant := by
  refine ⟨(Action.moves hraw s).consistent hboard.consistent hs.consistent, ?_⟩
  cases action with
  | onRouter operation =>
      exact Station.onlyEnds_iff.mp
        (Station.onlyEnds_operation hboard.onlyEnds hraw s.station) hs.off
  | connect =>
      exact Station.onlyEnds_iff.mp ((Session.chores_connect s).onlyEnds hboard.onlyEnds) hs.off
  | command c =>
      exact Station.onlyEnds_iff.mp ((Session.chores_command c s).onlyEnds hboard.onlyEnds) hs.off
  | startInventory =>
      exact Session.off_of_startInventory hboard.onlyEnds (.inr (.inr hs.off)) hstart
  | stopInventory => exact Session.off_of_stopInventory hboard.onlyEnds s
  | toggleInventory =>
      simp only [run, Session.toggleInventory]
      cases hrunning : s.running with
      | true => exact Session.off_of_stopInventory hboard.onlyEnds s
      | false =>
          have hfailed : (s.startInventory board).1.isOk = false := by
            simpa [starts, hrunning] using hstart
          exact Session.off_of_startInventory hboard.onlyEnds (.inr (.inr hs.off)) hfailed
  | poll =>
      have hprocessed := Station.onlyEnds_iff.mp
        (Station.onlyEnds_process hboard.onlyEnds s.station) hs.off
      simp only [run, Session.poll]
      split
      · exact hprocessed
      · exact Station.onlyEnds_iff.mp
          (Session.onlyEnds_reportRunning hboard.onlyEnds _ _) hprocessed

/-- **Dormancy lasts until the next start.** -/
lemma Session.Rests.dormant (h : s.Rests board t) (hs : s.station.Dormant) :
    t.station.Dormant := by
  induction h with
  | refl => exact hs
  | tail _ hstep ih =>
      cases hstep with
      | act action hraw hstart => exact action.dormant hboard hraw hstart ih
      | drift e => exact ⟨ih.consistent, ih.off⟩

/-- What a session does meanwhile does not end it in between either. -/
lemma Station.Chores.dormant {s t : Station ε} (h : s.Chores board t) (hs : s.Dormant) :
    t.Dormant := by
  obtain ⟨_, hchores⟩ := h
  exact ⟨hchores.tasks.moves.consistent hboard.consistent hs.consistent,
    onlyEnds_iff.mp (hchores.onlyEnds hboard.onlyEnds) hs.off⟩

end

/--
  **A failed start leaves no inventory behind.**  Start from a new router and a new session, and let
  anything happen in any order, on a board whose callbacks may do anything as well but set mode or
  schedule by hand.  Suppose that inventory cannot be started, for whatever reason; only, if the
  handshake of the start is what fails, there was no inventory before.  Then

  * the mode is idle and the schedule is off;
  * this is still so whenever a run without a successful start has gone on, and after every chore of
    whatever comes next;
  * a call to process received bytes queues nothing at any of these points.
-/
theorem inventory_off_after_failed_start
    (hboard : board.Nests (fun operation => operation.isRaw = false) fun _ _ => True)
    (config : Config) (surroundings : ε) {s : Session ε}
    (hrun : (Session.unconnected board (.fresh config surroundings)).Runs board
      (fun action => action.isRaw = false) (fun _ _ => True) s)
    (hbefore : s.connected = true ∨ (s.connect board).1.isOk = true ∨ s.isActive = false)
    (hfailed : (s.startInventory board).1.isOk = false) :
    (s.startInventory board).2.station.router.mode = .idle ∧
      (s.startInventory board).2.station.router.inventoryActive = false ∧
      ∀ t, (s.startInventory board).2.Rests board t → ∀ u, t.station.Chores board u →
        u.router.mode = .idle ∧ u.router.inventoryActive = false ∧
          (u.process board).2.line.outbound = u.line.outbound := by
  have hnew : (Router.stopped config).Consistent := .of_idle rfl rfl rfl
  have hs : s.station.router.Consistent :=
    hrun.keep (P := fun s => s.router.Consistent)
      (fun _ hraw s hs => (Action.moves hraw s).consistent hboard.consistent hs)
      (fun _ _ _ hs => hs) hnew
  have hdormant : (s.startInventory board).2.station.Dormant :=
    ⟨(Session.tasks_startInventory s).moves.consistent hboard.consistent hs,
      Session.off_of_startInventory hboard.onlyEnds hbefore hfailed⟩
  refine ⟨hdormant.idle.1, hdormant.idle.2, fun t hrests u hchores => ?_⟩
  have hu : u.Dormant := hchores.dormant hboard (hrests.dormant hboard hdormant)
  exact ⟨hu.idle.1, hu.idle.2, hu.outbound_process⟩

/-! ## A reader that is lost -/

/-- Dial callbacks do nothing. -/
lemma Dial.nests {drift : Dial → Dial → Prop} (hdrift : ∀ dial, drift dial dial) :
    Dial.clockwork.Nests (fun operation => operation.isRaw = false) drift :=
  .of_idle hdrift ⟨fun _ _ => rfl, fun _ => rfl, fun _ _ => rfl, fun _ _ => rfl, fun _ _ => rfl⟩

/-- A new session that does not wait for answers, on a clock that has to be moved by hand. -/
def impatientStart : Session Dial :=
  .unconnected Dial.clockwork (.fresh { Config.standard with responseTimeoutMs := 0 } ⟨0, []⟩)

/-- A reader answers, and inventory starts; then the reader stays silent in another handshake. -/
def lostReaderActions : List Action :=
  [.onRouter .start, .onRouter (.receive readerInfoFrame), .startInventory, .connect]

/-- Nobody has answered at all: the start fails, and an hour later nothing has been queued. -/
theorem inventory_off_after_failed_start_silent :
    let s := [Action.onRouter .start].foldl (fun s action => action.run Dial.clockwork s)
      impatientStart
    let t := (s.startInventory Dial.clockwork).2
    let u := t.onStation fun station => { station with surroundings := ⟨3600000, []⟩ }
    (s.startInventory Dial.clockwork).1.isOk = false ∧ u.station.router.mode = .idle ∧
      (u.station.process Dial.clockwork).2.line.outbound = u.station.line.outbound := by
  intro s t u
  have hfailed : (s.startInventory Dial.clockwork).1.isOk = false := by decide +kernel
  have hinactive : s.isActive = false := by decide +kernel
  obtain ⟨-, -, hlater⟩ := inventory_off_after_failed_start (s := s)
    (Dial.nests fun _ => trivial) _ _
    (Session.runs_foldl [.onRouter .start] (by decide) impatientStart)
    (.inr (.inr hinactive)) hfailed
  have hpassed : Session.RestEvent Dial.clockwork t u := .drift (s := t) (⟨3600000, []⟩ : Dial)
  obtain ⟨hmode, -, hqueued⟩ := hlater u (.single hpassed) u.station (.refl u.station)
  exact ⟨hfailed, hmode, hqueued⟩

/--
  **Inventory can survive a failed start.**  The reader is lost in a handshake during inventory.
  The next start fails in its own handshake, and that path takes nothing back: the mode is still
  inventory, the schedule is on, and after the time limit of the round the next one is asked for.
-/
theorem inventory_on_after_failed_start :
    let s := lostReaderActions.foldl (fun s action => action.run Dial.clockwork s) impatientStart
    let t := (s.startInventory Dial.clockwork).2
    impatientStart.Runs Dial.clockwork (fun action => action.isRaw = false) (fun _ _ => True) s ∧
      (s.startInventory Dial.clockwork).1.isOk = false ∧ t.station.router.mode = .inventory ∧
      t.station.router.inventoryActive = true ∧
      (Dial.tick 1500 [] t.station).surroundings.calls = t.station.surroundings.calls ++
        [⟨0, Config.standard.strategy.openingCommand⟩] := by
  intro s t
  refine ⟨Session.runs_foldl lostReaderActions (by decide +kernel) _, ?_⟩
  decide +kernel

end RfidLink
