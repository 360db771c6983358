import RfidLink.Proofs.Feeding
import RfidLink.Proofs.Histories
import RfidLink.Proofs.InventoryMode

/-!
# How far apart rounds are

A repeating inventory asks for one round after the other.  The reader needs time for each of them,
and it must not be asked again before it has answered or can be taken for silent.  Four fields say
when the next round is due, and five paths change them: the beginning, an answer that ends a round,
a round that is given up, and a command that could or could not be queued.

A call to process received bytes looks at the clock once, when it begins.  If a callback takes its
time, the command for the next round is queued later than that, and the time for which the round may
be silent has begun before its command was queued.

* `RoundEvent` is what happens to the rounds, with the times.  A `Logbook` knows when each command
  was queued, and `Logbook.events` reads the events off the occasions of a run.
* `RoundEvent.earliest` reads off the events what the next round has to wait for, and
  `Station.Paced` says that the schedule waits for it.  `Station.paced_process` is the step for
  one call to process, `Station.Steps.keepsPace` the run.
* **`rounds_apart`**: between two commands there is the interval behind the last answer that ended a
  round, or without any such answer the time after which a round is given up, counted from the
  beginning of the call that asked for it.
* `rounds_asked_early`: counted from the moment when the command was queued, it is too little.
-/

namespace RfidLink

variable {ε : Type} {board : Board ε}

/-! ## Events -/

/-- The status in a response to an inventory round. -/
def Frame.roundStatus? (frame : List UInt8) : Option Status :=
  if Checksum.isValid frame then
    match Response.ofFrame frame with
    | .error _ => none
    | .ok response =>
      if CommandCode.isRound response.head.command then some response.head.status else none
  else none

/-- Whether a frame is a response to an inventory round that ends the round. -/
def Frame.endsRound (frame : List UInt8) : Bool := (roundStatus? frame).any Status.endsRound

/-- What happens to the rounds of a polled inventory, and when. -/
inductive RoundEvent where
  /-- Inventory has begun: its first command was queued, and then the schedule was opened. -/
  | begun (queued opened : Nat)
  /-- In a call that began first, the command for another round was queued. -/
  | asked (call queued : Nat)
  /-- In a call that began at this time, a response that ends a round was acted on. -/
  | ended (call : Nat)
  /-- The counters start again at zero. -/
  | recounted
deriving DecidableEq

namespace RoundEvent

/-- When the command of a round was queued. -/
def queuedTime? : RoundEvent → Option Nat
  | begun queued _ | asked _ queued => some queued
  | ended _ | recounted => none

/-- From when on a round may be silent only for so long. -/
def countedTime? : RoundEvent → Option Nat
  | begun queued _ => some queued
  | asked call _ => some call
  | ended _ | recounted => none

/-- When a round was answered. -/
def endTime? : RoundEvent → Option Nat
  | ended call => some call
  | begun .. | asked .. | recounted => none

/-- What an event does to the count of rounds. -/
def count (rounds : UInt32) : RoundEvent → UInt32
  | begun .. | asked .. => rounds + 1
  | ended _ => rounds
  | recounted => 0

/-- A command is queued before the schedule is opened, and in a call after its beginning. -/
def InOrder : RoundEvent → Prop
  | begun queued opened => queued ≤ opened
  | asked call queued => call ≤ queued
  | ended _ | recounted => True

/-- The answers among the frames that a call has acted on. -/
def ends (now : Nat) (frames : List (List UInt8)) : List RoundEvent :=
  (frames.filter Frame.endsRound).map fun _ => ended now

/--
  After each command the next round is asked for an interval behind the last answer that ended a
  round, or if there was none, as late as the round is given up; or later than that.  The time of a
  command is taken from `time?`.
-/
def Apart (time? : RoundEvent → Option Nat) (intervalMs limitMs : Nat)
    (events : List RoundEvent) : Prop :=
  ∀ before command between time call queued after,
    events = before ++ command :: (between ++ asked call queued :: after) →
    time? command = some time → between.filterMap time? = [] →
    (between.filterMap endTime?).getLast?.elim (time + limitMs) (· + intervalMs) ≤ queued

section

variable (intervalMs limitMs : Nat)

/-- What the next round has to wait for, once there has been a command. -/
def earliest (sofar : Option Nat) : RoundEvent → Option Nat
  | begun _ opened => some (opened + limitMs)
  | asked call _ => some (call + limitMs)
  | ended call => sofar.map fun _ => call + intervalMs
  | recounted => sofar

/-- Every round is asked for in a call as late as it has to be, by what has happened before. -/
def Heeds : Option Nat → List RoundEvent → Prop
  | _, [] => True
  | sofar, event :: rest =>
    (∀ call queued, event = asked call queued → ∀ time ∈ sofar, time ≤ call) ∧
      Heeds (earliest intervalMs limitMs sofar event) rest

end

variable {intervalMs limitMs : Nat}

lemma heeds_append {sofar : Option Nat} {events new : List RoundEvent} :
    Heeds intervalMs limitMs sofar (events ++ new) ↔ Heeds intervalMs limitMs sofar events ∧
      Heeds intervalMs limitMs (events.foldl (earliest intervalMs limitMs) sofar) new := by
  induction events generalizing sofar with
  | nil => simp [Heeds]
  | cons event rest ih => simp only [List.cons_append, Heeds, ih, List.foldl_cons, and_assoc]

lemma heeds_ends (sofar : Option Nat) (now : Nat) (frames : List (List UInt8)) :
    Heeds intervalMs limitMs sofar (ends now frames) := by
  rw [ends]
  induction frames.filter Frame.endsRound generalizing sofar with
  | nil => trivial
  | cons frame rest ih =>
      refine ⟨?_, ih _⟩
      intro _ _ h
      cases h

lemma foldl_count_ends (rounds : UInt32) (now : Nat) (frames : List (List UInt8)) :
    (ends now frames).foldl count rounds = rounds := by
  rw [ends]
  induction frames.filter Frame.endsRound with
  | nil => rfl
  | cons frame rest ih => exact ih

lemma inOrder_of_mem_ends {now : Nat} {frames : List (List UInt8)} {event : RoundEvent}
    (h : event ∈ ends now frames) : event.InOrder := by
  obtain ⟨_, -, rfl⟩ := List.mem_map.mp h
  trivial

/-- Without another command, the last answer decides what the next round has to wait for. -/
lemma earliest_between {between : List RoundEvent} (h : between.filterMap countedTime? = [])
    (time : Nat) : between.foldl (earliest intervalMs limitMs) (some time) =
      some ((between.filterMap endTime?).getLast?.elim time (· + intervalMs)) := by
  induction between generalizing time with
  | nil => rfl
  | cons event rest ih =>
      cases event with
      | begun queued opened => cases h
      | asked call queued => cases h
      | ended call =>
          have hrest := ih h (call + intervalMs)
          rw [List.foldl_cons, earliest, Option.map_some, hrest]
          have hends : (ended call :: rest).filterMap endTime? = call :: rest.filterMap endTime? :=
            rfl
          rw [hends, List.getLast?_cons]
          cases (rest.filterMap endTime?).getLast? with
          | none => rfl
          | some last => rfl
      | recounted => exact ih h time

/-- **To heed what has happened is to keep apart.** -/
lemma Heeds.apart {events : List RoundEvent} (h : Heeds intervalMs limitMs none events)
    (horder : ∀ event ∈ events, event.InOrder) :
    Apart countedTime? intervalMs limitMs events := by
  rintro before command between time call queued after rfl hcommand hbetween
  have hwaits (sofar : Option Nat) :
      ∃ since, time ≤ since ∧
        earliest intervalMs limitMs sofar command = some (since + limitMs) := by
    cases command with
    | begun queued opened =>
        cases hcommand
        have hopened : time ≤ opened := horder (.begun time opened) (by simp)
        exact ⟨opened, hopened, rfl⟩
    | asked call queued =>
        cases hcommand
        exact ⟨time, Nat.le_refl time, rfl⟩
    | ended _ => cases hcommand
    | recounted => cases hcommand
  have hlater : call ≤ queued := horder (.asked call queued) (by simp)
  obtain ⟨-, hbehind⟩ := heeds_append.mp h
  obtain ⟨since, hsince, hearliest⟩ := hwaits (before.foldl (earliest intervalMs limitMs) none)
  rw [Heeds, hearliest] at hbehind
  obtain ⟨-, hrest⟩ := heeds_append.mp hbehind.2
  rw [earliest_between hbetween] at hrest
  have hcall := hrest.1 call queued rfl _ rfl
  cases hlast : (between.filterMap endTime?).getLast? with
  | none =>
      rw [hlast] at hcall
      simp only [Option.elim_none] at hcall ⊢
      omega
  | some last =>
      rw [hlast] at hcall
      exact Nat.le_trans hcall hlater

end RoundEvent

/-! ## When commands were queued -/

/-- A record of the commands that were queued, each with the time at which this was noted. -/
structure Logbook (board : Board ε) where
  queued : ε → List (Nat × Call)
  queued_write : ∀ remark e,
    queued (board.write remark e) = queued e ++ remark.call?.toList.map (board.now e, ·)
  queued_emit : ∀ byte e, queued (board.emit byte e).2 = queued e
  queued_interrupts : ∀ e, queued (board.interrupts e).2 = queued e

namespace Logbook

section

variable (log : Logbook board)

/-- Whatever has happened, nothing was done to the router, and no command was queued. -/
def Outside (s t : Station ε) : Prop :=
  t.router = s.router ∧ log.queued t.surroundings = log.queued s.surroundings

/-- The commands that were queued on the way from one station to another. -/
def added (s t : Station ε) : List (Nat × Call) :=
  (log.queued t.surroundings).drop (log.queued s.surroundings).length

/-- What happens to the rounds on an occasion. -/
def events : Occasion ε → List RoundEvent
  | .process s =>
    RoundEvent.ends (s.now board) (s.dispatched board) ++
      (log.added s (s.process board).2).map fun (time, _) => .asked (s.now board) time
  | .begin s t => (log.added s t).map fun (time, _) => .begun time (t.now board)
  | .stop _ => []
  | .recount => [.recounted]

/--
  A call to process received bytes queues at most one command, and the beginning of inventory
  exactly one; and this is the command for a round.
-/
def AsksOnce (command : Command) : Occasion ε → Prop
  | .process s =>
    log.queued (s.process board).2.surroundings = log.queued s.surroundings ∨
      ∃ time address, log.queued (s.process board).2.surroundings =
        log.queued s.surroundings ++ [(time, ⟨address, command⟩)]
  | .begin s t => ∃ time address,
    log.queued t.surroundings = log.queued s.surroundings ++ [(time, ⟨address, command⟩)]
  | .stop _ | .recount => True

lemma spares_queued : board.Spares log.queued := ⟨log.queued_emit, log.queued_interrupts⟩

end

variable {log : Logbook board} {s t : Station ε}

lemma added_of_append {new : List (Nat × Call)}
    (h : log.queued t.surroundings = log.queued s.surroundings ++ new) : log.added s t = new := by
  rw [added, h, List.drop_left]

variable (log) in
lemma queued_of_touches (h : s.Touches board t) :
    log.queued t.surroundings = log.queued s.surroundings := by
  refine Station.part_of_touches (fun remark e hremark => ?_) h
  rw [log.queued_write, hremark, Option.toList_none, List.map_nil, List.append_nil]

variable (log) in
/-- **A command that is queued is recorded**, with a time between the beginning and the end. -/
lemma sendTo_ok (hclock : board.Ticks (· ≤ ·)) {address : UInt8} {command : Command} {size : Nat}
    (h : s.sendTo board address command = (.ok size, t)) :
    ∃ time, s.now board ≤ time ∧ time ≤ t.now board ∧ log.queued t.surroundings =
      log.queued s.surroundings ++ [(time, ⟨address, command⟩)] := by
  obtain ⟨-, hend⟩ | ⟨_, -, -, hend⟩ | ⟨frame, -, -, -, hend⟩ | ⟨_, -, -, -, hend⟩ :=
    Station.sendTo_cases board address command s
  · rw [hend] at h; cases h
  · rw [hend] at h; cases h
  · rw [hend] at h
    cases h
    set filled := (s.interrupted board).enqueueAll board frame with hfilled
    refine ⟨filled.now board, ?_, hclock.tell _ filled, ?_⟩
    · exact Nat.le_trans (hclock.interrupted s) (hclock.enqueueAll frame _)
    · show log.queued (board.write _ filled.surroundings) = _
      rw [log.queued_write, hfilled, log.spares_queued.enqueueAll, log.spares_queued.interrupted]
      rfl
  · rw [hend] at h; cases h

variable (log) in
lemma sendTo_error {address : UInt8} {command : Command} {cause : OperationError}
    (h : s.sendTo board address command = (.error cause, t)) :
    log.queued t.surroundings = log.queued s.surroundings := by
  obtain ⟨-, hend⟩ | ⟨_, -, -, hend⟩ | ⟨_, -, -, -, hend⟩ | ⟨frame, -, -, -, hend⟩ :=
    Station.sendTo_cases board address command s
  · rw [hend] at h; cases h; rfl
  · rw [hend] at h; cases h; rfl
  · rw [hend] at h; cases h
  · rw [hend] at h
    cases h
    have htouches : (s.interrupted board).Touches board
        (((s.interrupted board).refuse frame).tell board (.ringFull command address)) :=
      (Station.touches_onRouter _ _).trans (Station.touches_tell rfl _)
    exact (log.queued_of_touches htouches).trans (log.spares_queued.interrupted s)

end Logbook

/-! ## What has nothing to do with rounds -/

/-- When the schedule will ask for another round, if nothing happens before. -/
def Schedule.next (schedule : Schedule) : Nat :=
  if schedule.inRound then schedule.deadline else schedule.nextRoundAt

/-- What a router is configured to do, the rounds it has counted, and its stance. -/
def Router.pace (r : Router) : Config × UInt32 × (Mode × Bool × Schedule) :=
  (r.config, r.counters.roundsStarted, r.stance)

lemma Router.pace_of_standing {r r' : Router} (h : r'.standing = r.standing) :
    r'.pace = r.pace := by
  simp only [standing, Prod.mk.injEq] at h
  obtain ⟨hbearing, hconfig, hrounds⟩ := h
  simp only [pace, Prod.mk.injEq]
  exact ⟨hconfig, hrounds, congrArg Prod.fst hbearing⟩

/-- No command was queued, and nothing has changed that has to do with rounds. -/
structure Logbook.Idles (log : Logbook board) (s t : Station ε) : Prop where
  queued : log.queued t.surroundings = log.queued s.surroundings
  pace : t.router.pace = s.router.pace

namespace Logbook.Idles

variable {log : Logbook board} {s t u : Station ε}

lemma trans (hst : log.Idles s t) (htu : log.Idles t u) : log.Idles s u :=
  ⟨htu.queued.trans hst.queued, htu.pace.trans hst.pace⟩

lemma of_touches (h : s.Touches board t) (hpace : t.router.pace = s.router.pace) :
    log.Idles s t :=
  ⟨log.queued_of_touches h, hpace⟩

lemma of_outside (h : log.Outside s t) : log.Idles s t := ⟨h.2, by rw [h.1]⟩

/-- What is done about the content of a frame has nothing to do with rounds. -/
lemma of_use (hboard : board.CallbacksAre log.Outside) (h : Station.Use board s t) :
    log.Idles s t := by
  cases h with
  | tell remark haside =>
      exact .of_touches (Station.touches_tell (Remark.of_isAside haside).2.2 s) rfl
  | note f hf => exact ⟨rfl, Router.pace_of_standing (hf s.router)⟩
  | deliver text => exact .of_outside (hboard.deliver text s)
  | notifyRead => exact .of_outside (hboard.notifyRead s)
  | notifyError isOn => exact .of_outside (hboard.notifyError isOn s)

lemma of_uses (hboard : board.CallbacksAre log.Outside) (h : s.Uses board t) :
    log.Idles s t := by
  induction h with
  | refl => exact ⟨rfl, rfl⟩
  | tail _ hstep ih => exact ih.trans (.of_use hboard hstep)

end Logbook.Idles

namespace Station

variable {log : Logbook board} {s t : Station ε}

variable (board) in
lemma idles_pullFrame (now : Nat) (s : Station ε) : log.Idles s (s.pullFrame board now).2 := by
  refine .of_touches (touches_pullFrame now s) ?_
  rw [pullFrame, router_tellAll]
  rfl

lemma idles_performReset (s : Station ε) : log.Idles s s.performReset := by
  obtain ⟨_, hrouter⟩ := router_performReset s
  exact .of_touches (touches_performReset s) (by rw [hrouter]; rfl)

lemma idles_discardAfterOverrun (s : Station ε) : log.Idles s (s.discardAfterOverrun board) := by
  obtain ⟨_, hrouter⟩ := router_discardAfterOverrun board s
  exact .of_touches (touches_discardAfterOverrun s) (by rw [hrouter]; rfl)

variable (board) in
lemma pace_sendTo (address : UInt8) (command : Command) (s : Station ε) :
    (s.sendTo board address command).2.router.pace = s.router.pace := by
  obtain ⟨_, hrouter⟩ := router_sendTo board address command s
  rw [hrouter]
  rfl

/-! ## Keeping a pace -/

/--
  Where a station stands with its rounds: what it is configured to do, which commands have been
  queued, how many rounds it has counted, and that the schedule waits as long as it has to.
-/
structure Paced (log : Logbook board) (config : Config) (queued : List (Nat × Call))
    (rounds : UInt32) (earliest : Option Nat) (s : Station ε) : Prop where
  config_eq : s.router.config = config
  queued_eq : log.queued s.surroundings = queued
  rounds_eq : s.router.counters.roundsStarted = rounds
  consistent : s.router.Consistent
  waits : s.router.inventoryActive = true → ∀ time ∈ earliest, time ≤ s.router.schedule.next

variable {config : Config} {queued : List (Nat × Call)} {rounds : UInt32}
  {earliest later : Option Nat} {intervalMs : UInt32}

lemma Paced.idle (h : s.Paced log config queued rounds earliest) (hst : log.Idles s t) :
    t.Paced log config queued rounds earliest := by
  have hpace := hst.pace
  simp only [Router.pace, Prod.mk.injEq] at hpace
  obtain ⟨hconfig, hrounds, hstance⟩ := hpace
  have hschedule : t.router.schedule = s.router.schedule := congrArg (·.2.2) hstance
  refine ⟨hconfig.trans h.config_eq, hst.queued.trans h.queued_eq, hrounds.trans h.rounds_eq,
    h.consistent.of_stance hstance, ?_⟩
  rw [Router.inventoryActive, hschedule]
  exact h.waits

/-- A command may have been queued, but the router does not know of it yet. -/
lemma Paced.of_router (h : s.Paced log config queued rounds earliest)
    (hrouter : t.router = s.router) :
    t.Paced log config (log.queued t.surroundings) rounds earliest := by
  refine ⟨?_, rfl, ?_, ?_, ?_⟩
  · rw [hrouter]
    exact h.config_eq
  · rw [hrouter]
    exact h.rounds_eq
  · rw [hrouter]
    exact h.consistent
  · rw [hrouter]
    exact h.waits

/-- A round is counted. -/
lemma Paced.countRound (h : s.Paced log config queued rounds earliest) :
    (s.count fun c => { c with roundsStarted := c.roundsStarted + 1 }).Paced log config queued
      (rounds + 1) earliest :=
  { h with
    rounds_eq := congrArg (· + 1) h.rounds_eq
    consistent := .of_stance (r := s.router) rfl h.consistent }

/-- Without inventory there is nothing to wait for. -/
lemma Paced.of_inactive (h : s.Paced log config queued rounds earliest)
    (hoff : s.router.inventoryActive = false) : s.Paced log config queued rounds later := by
  refine { h with waits := fun hactive => ?_ }
  rw [hoff] at hactive
  cases hactive

/-- Inventory ends, and nothing else. -/
lemma Paced.endInventory (h : s.Paced log config queued rounds earliest) :
    (s.endSchedule.enterMode board .idle).Paced log config queued rounds later := by
  obtain ⟨_, _, hrouter⟩ := router_enterMode board .idle s.endSchedule
  have htouches : s.Touches board (s.endSchedule.enterMode board .idle) :=
    (touches_onRouter Router.endSchedule s).trans (touches_enterMode .idle _)
  refine ⟨?_, ?_, ?_, consistent_enterIdle rfl, ?_⟩
  · rw [hrouter]
    exact h.config_eq
  · rw [log.queued_of_touches htouches]
    exact h.queued_eq
  · rw [hrouter]
    exact h.rounds_eq
  · intro hactive
    rw [hrouter] at hactive
    cases hactive

/-- Within inventory the schedule changes, and waits no shorter than it has to. -/
lemma Paced.reschedule (h : s.Paced log config queued rounds earliest)
    (hmode : s.router.mode = .inventory) (hactive : s.router.inventoryActive = true)
    {f : Schedule → Schedule} (hf : ∀ p, (f p).active = p.active)
    (hnext : ∀ time ∈ later, time ≤ (f s.router.schedule).next) :
    (s.onRouter (·.reschedule f)).Paced log config queued rounds later := by
  have hstill : (s.router.reschedule f).inventoryActive = true := (hf _).trans hactive
  exact ⟨h.config_eq, h.queued_eq, h.rounds_eq,
    ⟨⟨fun _ => hstill, fun _ => hmode⟩, h.consistent.running_of_inventory, fun _ => hstill⟩,
    fun _ => hnext⟩

/-! ### Frames -/

/-- **An answer that ends a round moves the next one away by an interval.** -/
lemma paced_followRound (hboard : board.CallbacksAre log.Outside)
    (hstrategy : config.strategy = .repeating intervalMs) (now : Nat) (status : Status)
    (h : s.Paced log config queued rounds earliest) :
    (s.followRound board now status).Paced log config queued rounds
      (if status.endsRound then earliest.map fun _ => now + intervalMs.toNat else earliest) := by
  generalize hlater : (if status.endsRound = true then
    earliest.map fun _ => now + intervalMs.toNat else earliest) = later
  simp only [followRound]
  split
  · rename_i hidle
    refine h.of_inactive ?_
    cases hactive : s.router.inventoryActive with
    | false => rfl
    | true => cases hidle.symm.trans (h.consistent.mode_iff_active.mpr hactive)
  · rename_i hmode
    have hinventory : s.router.mode = .inventory := by
      cases hwhich : s.router.mode with
      | idle => exact absurd hwhich hmode
      | inventory => rfl
    have hactive := h.consistent.mode_iff_active.mp hinventory
    split
    · obtain ⟨t, huses, hstopped⟩ := uses_stopForAntenna board s
      rw [hstopped]
      exact (h.idle (.of_uses hboard huses)).endInventory
    · rw [h.config_eq, hstrategy, hactive, ← hlater]
      cases status.endsRound with
      | false => exact h
      | true =>
          refine h.reschedule hinventory hactive (fun _ => rfl) ?_
          intro time htime
          obtain ⟨_, _, rfl⟩ := Option.map_eq_some_iff.mp htime
          exact Nat.le_refl _

/-- What one frame does to the rounds. -/
lemma paced_acceptFrame (hboard : board.CallbacksAre log.Outside)
    (hstrategy : config.strategy = .repeating intervalMs) (now : Nat) (frame : List UInt8)
    (h : s.Paced log config queued rounds earliest) :
    (s.acceptFrame board now frame).Paced log config queued rounds
      (if Frame.endsRound frame then earliest.map fun _ => now + intervalMs.toNat
        else earliest) := by
  set counted := s.count fun c => { c with framesReceived := c.framesReceived + 1 } with hcounted
  have hnoted : counted.Paced log config queued rounds earliest := h.idle ⟨rfl, rfl⟩
  simp only [acceptFrame, ← hcounted]
  cases hvalid : Checksum.isValid frame with
  | false =>
      simp only [Frame.endsRound, Frame.roundStatus?, hvalid, Bool.not_false, Bool.false_eq_true,
        if_true, if_false, Option.any_none]
      exact hnoted.idle (.of_touches ((touches_onRouter _ counted).trans (touches_tell rfl _)) rfl)
  | true =>
      cases hread : Response.ofFrame frame with
      | error cause =>
          simp only [Frame.endsRound, Frame.roundStatus?, hvalid, hread, Bool.not_true,
            Bool.false_eq_true, if_true, if_false, Option.any_none]
          exact hnoted.idle
            (.of_touches ((touches_onRouter _ counted).trans (touches_tell rfl _)) rfl)
      | ok response =>
          obtain ⟨answers, hkept, -⟩ := exists_kept
            (answerOf response.head (responsePayload frame))
            (counted.tell board (.received frame response))
          have htold : log.Idles counted
              ((counted.tell board (.received frame response)).onRouter
                fun r => { r with answers }) :=
            .of_touches ((touches_tell rfl counted).trans (touches_onRouter _ _)) rfl
          have hused := (hnoted.idle htold).idle
            (.of_uses hboard (uses_useContent now response.content _))
          simp only [acceptResponse, hkept, Frame.endsRound, Frame.roundStatus?, hvalid, hread,
            Bool.not_true, Bool.false_eq_true, if_true, if_false]
          split
          · exact paced_followRound hboard hstrategy now response.head.status hused
          · exact hused

lemma paced_acceptFrames (hboard : board.CallbacksAre log.Outside)
    (hstrategy : config.strategy = .repeating intervalMs) (now turns : Nat)
    (h : s.Paced log config queued rounds earliest) :
    (s.acceptFrames board now turns).2.Paced log config queued rounds
      ((RoundEvent.ends now (s.acceptFrames board now turns).1).foldl
        (RoundEvent.earliest intervalMs.toNat config.roundLimitMs) earliest) := by
  induction turns generalizing s earliest with
  | zero => exact h
  | succ turns ih =>
      have hpulled := h.idle (idles_pullFrame board now s)
      rcases hpull : s.pullFrame board now with ⟨_ | frame, pulled⟩
      · rw [hpull] at hpulled
        simp only [acceptFrames, hpull]
        exact hpulled
      · rw [hpull] at hpulled
        have haccepted := paced_acceptFrame hboard hstrategy now frame hpulled
        have hrest := ih (haccepted.idle (idles_performReset _))
        simp only [acceptFrames, hpull]
        cases hends : Frame.endsRound frame with
        | false => simpa [RoundEvent.ends, hends] using hrest
        | true => simpa [RoundEvent.ends, hends, RoundEvent.earliest] using hrest

/-! ### The schedule -/

/-- No round has been asked for, or one: not before it may be, and its command came later. -/
def AsksInTime (log : Logbook board) (config : Config) (queued : List (Nat × Call))
    (rounds : UInt32) (earliest : Option Nat) (now : Nat) (s : Station ε) : Prop :=
  s.Paced log config queued rounds earliest ∨
    (∀ time ∈ earliest, time ≤ now) ∧ ∃ time address, now ≤ time ∧
      s.Paced log config (queued ++ [(time, ⟨address, config.strategy.openingCommand⟩)])
        (rounds + 1) (some (now + config.roundLimitMs))

lemma AsksInTime.idle {now : Nat} (h : s.AsksInTime log config queued rounds earliest now)
    (hst : log.Idles s t) : t.AsksInTime log config queued rounds earliest now :=
  h.imp (·.idle hst) fun ⟨hdue, time, address, hlater, hasked⟩ =>
    ⟨hdue, time, address, hlater, hasked.idle hst⟩

section

variable (hclock : board.Ticks (· ≤ ·)) (hstrategy : config.strategy = .repeating intervalMs)

include hclock hstrategy

/-- **Asking for a round**: its command is queued and counted, or it is tried again later. -/
lemma paced_startRound {now : Nat} (hnow : now ≤ s.now board)
    (h : s.Paced log config queued rounds earliest) (hmode : s.router.mode = .inventory)
    (hactive : s.router.inventoryActive = true) (hround : s.router.schedule.inRound = false)
    (hdue : ∀ time ∈ earliest, time ≤ now) :
    (s.startRound board now).AsksInTime log config queued rounds earliest now := by
  rcases hsent : s.send board config.strategy.openingCommand with ⟨cause | size, t⟩
  · left
    have hpace : t.router.pace = s.router.pace := by
      rw [← pace_sendTo board s.router.address config.strategy.openingCommand s, ← send, hsent]
    have hidle : log.Idles s t := ⟨log.sendTo_error hsent, hpace⟩
    have hstance : t.router.stance = s.router.stance := congrArg (·.2.2) hpace
    have hremark : (Remark.roundNotStarted cause).call? = none := rfl
    have htold := (h.idle hidle).idle (.of_touches (touches_tell hremark t) rfl)
    simp only [startRound, h.config_eq, hsent]
    rw [hstrategy]
    refine htold.reschedule ((congrArg Prod.fst hstance).trans hmode)
      ((congrArg (·.2.2.active) hstance).trans hactive) (fun _ => rfl) ?_
    have hround' : t.router.schedule.inRound = false :=
      (congrArg (·.2.2.inRound) hstance).trans hround
    intro time htime
    have hbefore := hdue time htime
    show time ≤ if t.router.schedule.inRound then _ else now + intervalMs.toNat
    rw [hround']
    exact Nat.le_add_right_of_le hbefore
  · right
    obtain ⟨time, hlater, -, hqueued⟩ := log.sendTo_ok hclock hsent
    have hrouter : t.router = s.router := (sendTo_ok hsent).1
    refine ⟨hdue, time, s.router.address, Nat.le_trans hnow hlater, ?_⟩
    have hasked := h.of_router hrouter
    rw [hqueued, h.queued_eq] at hasked
    simp only [startRound, h.config_eq, hsent]
    refine hasked.countRound.reschedule ((congrArg Router.mode hrouter).trans hmode)
      ((congrArg Router.inventoryActive hrouter).trans hactive) (fun _ => rfl) ?_
    intro time htime
    cases htime
    exact Nat.le_refl _

/-- **Keeping the schedule**: a round is due, or overdue, or there is nothing to ask for yet. -/
lemma paced_keepSchedule {now : Nat} (hnow : now ≤ s.now board)
    (h : s.Paced log config queued rounds earliest) :
    (s.keepSchedule board now).AsksInTime log config queued rounds earliest now := by
  simp only [keepSchedule]
  split
  · exact .inl h
  · rename_i hopen
    simp only [Bool.or_eq_true, decide_eq_true_eq, Bool.not_eq_true', not_or,
      Bool.not_eq_false] at hopen
    obtain ⟨-, hactive⟩ := hopen
    have hmode := h.consistent.mode_iff_active.mpr hactive
    have hdue (hlate : ¬ now < s.router.schedule.next) : ∀ time ∈ earliest, time ≤ now :=
      fun time htime => Nat.le_trans (h.waits hactive time htime) (Nat.le_of_not_lt hlate)
    cases hround : s.router.schedule.inRound with
    | true =>
        rw [Schedule.next, hround] at hdue
        simp only [if_true] at hdue ⊢
        split
        · exact .inl h
        · rename_i hlate
          set abandoned := (s.tell board .roundAbandoned).count fun c =>
            { c with roundsAbandoned := c.roundsAbandoned + 1 } with habandoned
          have hcounted : abandoned.Paced log config queued rounds earliest :=
            h.idle (.of_touches ((touches_tell rfl s).trans (touches_onRouter _ _)) rfl)
          have hgiven := hcounted.reschedule hmode hactive (f := (·.dueAt now)) (fun _ => rfl)
            (hdue hlate)
          have hlater : now ≤ (abandoned.onRouter (·.reschedule (·.dueAt now))).now board :=
            Nat.le_trans hnow (hclock.tell .roundAbandoned s)
          have hrepeating : s.router.config.strategy ≠ .singleShot := by
            rw [h.config_eq, hstrategy]
            exact Strategy.noConfusion
          have hagain : s.abandonRound board now =
              (abandoned.onRouter (·.reschedule (·.dueAt now))).startRound board now :=
            if_neg hrepeating
          rw [hagain]
          exact paced_startRound hclock hstrategy hlater hgiven hmode hactive rfl (hdue hlate)
    | false =>
        rw [Schedule.next, hround] at hdue
        simp only [Bool.false_eq_true, if_false] at hdue ⊢
        split
        · exact .inl h
        · rename_i hlate
          exact paced_startRound hclock hstrategy hnow h hmode hactive hround (hdue hlate)

/--
  **What a call does to the rounds.**  The answers it acts on move the next round away, and then it
  asks for none, or for one that may be asked for at the time of the call.
-/
lemma paced_process (hboard : board.CallbacksAre log.Outside)
    (h : s.Paced log config queued rounds earliest)
    (hlater : later = (RoundEvent.ends (s.now board) (s.dispatched board)).foldl
      (RoundEvent.earliest intervalMs.toNat config.roundLimitMs) earliest) :
    (s.process board).2.AsksInTime log config queued rounds later (s.now board) := by
  by_cases hcall : s.router.running = true ∧ s.router.busy = false
  · obtain ⟨hrunning, hidle⟩ := hcall
    have hready : log.Idles s (s.ready board) :=
      ((Logbook.Idles.of_touches (touches_onRouter _ s) rfl).trans
        (idles_discardAfterOverrun _)).trans (idles_performReset _)
    have haccepted := paced_acceptFrames hboard hstrategy (s.now board)
      ((s.ready board).frameTurns board) (h.idle hready)
    rw [dispatched_eq hrunning hidle] at hlater
    rw [← hlater] at haccepted
    have hnow : s.now board ≤ (s.accepted board).now board := by
      have htouches : s.Touches board (s.ready board) :=
        ((touches_onRouter _ s).trans (touches_discardAfterOverrun _)).trans
          (touches_performReset _)
      exact Nat.le_trans (hclock.touches htouches) (hclock.acceptFrames _ _ _)
    have hfree (u : Station ε) : log.Idles u (u.onRouter fun r => { r with busy := false }) :=
      ⟨rfl, rfl⟩
    rw [process_eq hrunning hidle]
    exact (paced_keepSchedule hclock hstrategy hnow haccepted).idle (hfree _)
  · rw [dispatched_of_not hcall] at hlater
    rw [process_of_not hcall, hlater]
    exact .inl h

end

/-- **The beginning**: the first command is queued and counted, and the schedule waits for it. -/
lemma paced_begin (hboard : board.CallbacksAre log.Outside)
    (hstrategy : config.strategy = .repeating intervalMs) {address : UInt8} {command : Command}
    {size : Nat} (h : s.Paced log config queued rounds earliest)
    (hsent : (s.enterMode board .inventory).sendTo board address command = (.ok size, t)) :
    (t.beginSchedule board).Paced log config
      (log.queued (t.beginSchedule board).surroundings) (rounds + 1)
      (some (t.now board + config.roundLimitMs)) := by
  obtain ⟨_, _, hentered⟩ := router_enterMode board .inventory s
  have hrouter := (sendTo_ok hsent).1
  have hrunning : t.router.running = true := by
    rw [hrouter]
    exact running_of_sendTo (congrArg Prod.fst hsent)
  have hmode : t.router.mode = .inventory := by
    rw [hrouter, hentered]
  have hconfig : t.router.config = config := by
    rw [hrouter, hentered]
    exact h.config_eq
  have hrounds : t.router.counters.roundsStarted = rounds := by
    rw [hrouter, hentered]
    exact h.rounds_eq
  have hpolled : (Schedule.opened t.router.config (t.now board)).inRound = true := by
    rw [hconfig, Schedule.opened, hstrategy]
    rfl
  set opened := (t.onRouter fun r =>
    { r with schedule := .opened t.router.config (t.now board) }).count
      fun c => { c with roundsStarted := c.roundsStarted + 1 } with hopened
  have hpaced : opened.Paced log config (log.queued opened.surroundings) (rounds + 1)
      (some (t.now board + config.roundLimitMs)) := by
    refine ⟨hconfig, rfl, congrArg (· + 1) hrounds,
      ⟨⟨fun _ => rfl, fun _ => hmode⟩, fun _ => hrunning, fun _ => rfl⟩, ?_⟩
    intro _ time htime
    cases htime
    show _ ≤ (Schedule.opened t.router.config (t.now board)).next
    rw [Schedule.next, hpolled, ← hconfig]
    exact Nat.le_refl _
  have hback : log.Idles opened (t.beginSchedule board) := by
    have huses : opened.Uses board _ := uses_takeBackError opened
    simp only [beginSchedule, hpolled, if_true]
    exact .of_uses hboard huses
  rw [hback.queued]
  exact hpaced.idle hback

/-! ## Runs -/

/--
  A change that leaves the count of rounds alone, and the schedule as well unless there is no
  inventory afterwards.  So nothing that asks for a round passes for an aside.
-/
structure Aside (s t : Station ε) : Prop where
  config : t.router.config = s.router.config
  rounds : t.router.counters.roundsStarted = s.router.counters.roundsStarted
  stance : t.router.stance = s.router.stance ∨
    t.router.Consistent ∧ t.router.inventoryActive = false

lemma Aside.of_pace (h : t.router.pace = s.router.pace) : s.Aside t := by
  simp only [Router.pace, Prod.mk.injEq] at h
  exact ⟨h.1, h.2.1, .inl h.2.2⟩

/-- There is no inventory afterwards. -/
lemma Aside.of_off {router : Router} (hrouter : t.router = router)
    (hconfig : router.config = s.router.config)
    (hrounds : router.counters.roundsStarted = s.router.counters.roundsStarted)
    (hconsistent : t.router.Consistent) (hoff : router.inventoryActive = false) : s.Aside t := by
  subst hrouter
  exact ⟨hconfig, hrounds, .inr ⟨hconsistent, hoff⟩⟩

lemma Paced.aside (h : s.Paced log config queued rounds earliest) (hst : s.Aside t) :
    t.Paced log config (log.queued t.surroundings) rounds earliest := by
  have hconfig := hst.config.trans h.config_eq
  have hrounds := hst.rounds.trans h.rounds_eq
  obtain hstance | ⟨hconsistent, hoff⟩ := hst.stance
  · refine ⟨hconfig, rfl, hrounds, h.consistent.of_stance hstance, ?_⟩
    have hschedule : t.router.schedule = s.router.schedule := congrArg (·.2.2) hstance
    rw [Router.inventoryActive, hschedule]
    exact h.waits
  · refine ⟨hconfig, rfl, hrounds, hconsistent, fun hactive => ?_⟩
    rw [hoff] at hactive
    cases hactive

lemma aside_start (hs : s.router.Consistent) : s.Aside (s.start board).2 := by
  cases hrunning : s.router.running with
  | true =>
      have hsame : (s.start board).2 = s := by simp [start, hrunning]
      rw [hsame]
      exact .of_pace rfl
  | false =>
      have hconsistent : (s.start board).2.router.Consistent := consistent_start hs
      simp only [start, hrunning, Bool.false_eq_true, if_false] at hconsistent ⊢
      obtain ⟨_, _, hrouter⟩ := router_resetUnlessBusy
        (s.onRouter fun r => { r with running := true, mode := .idle, resetPending := true })
      exact .of_off hrouter rfl rfl hconsistent (hs.inactive hrunning)

lemma aside_stop (hs : s.router.Consistent) : s.Aside (s.stop board).2 := by
  have hconsistent : (s.stop board).2.router.Consistent := consistent_stop hs
  simp only [stop] at hconsistent ⊢
  split
  · rename_i hrunning
    rw [if_pos hrunning] at hconsistent
    obtain ⟨_, _, hrouter⟩ := router_enterMode board .idle
      (s.onRouter fun r => ({ r with running := false } : Router).endSchedule)
    exact .of_off hrouter rfl rfl hconsistent rfl
  · exact .of_pace rfl

lemma aside_beginRefused (hboard : board.CallbacksAre log.Outside) (hs : s.router.Consistent)
    (address : UInt8) (h : ¬ (s.router.inventoryActive = true ∧ s.router.mode = .inventory)) :
    s.Aside (((s.enterMode board .inventory).sendTo board address
      s.router.config.strategy.openingCommand).2.enterMode board .idle) := by
  set command := s.router.config.strategy.openingCommand
  have hconsistent := (Task.beginRefused s address h).moves.consistent
    (hboard.mono fun _ _ houtside hs => houtside.1 ▸ hs) hs
  obtain ⟨_, _, hback⟩ := router_enterMode board .idle
    ((s.enterMode board .inventory).sendTo board address command).2
  obtain ⟨_, hsent⟩ := router_sendTo board address command (s.enterMode board .inventory)
  obtain ⟨_, _, hentered⟩ := router_enterMode board .inventory s
  rw [hsent, hentered] at hback
  exact .of_off hback rfl rfl hconsistent (hs.inactive_of_not_both h)

lemma aside_endSending (hboard : board.CallbacksAre log.Outside) (hs : s.router.Consistent)
    (address : UInt8) :
    s.Aside (((s.endSchedule.reportTotals board).2.sendTo board address
      s.router.config.strategy.closingCommand).2.enterMode board .idle) := by
  set command := s.router.config.strategy.closingCommand
  have hconsistent := (Task.endSending s address).moves.consistent
    (hboard.mono fun _ _ houtside hs => houtside.1 ▸ hs) hs
  obtain ⟨_, _, hback⟩ := router_enterMode board .idle
    ((s.endSchedule.reportTotals board).2.sendTo board address command).2
  obtain ⟨_, hsent⟩ := router_sendTo board address command (s.endSchedule.reportTotals board).2
  have hreported : (s.endSchedule.reportTotals board).2.router = s.router.endSchedule :=
    router_tellAll board _ _
  rw [hsent, hreported] at hback
  exact .of_off hback rfl rfl hconsistent rfl

/-- On all occasions so far the rounds have kept the pace. -/
structure KeepsPace (log : Logbook board) (config : Config) (intervalMs rounds : UInt32)
    (occasions : List (Occasion ε)) (s : Station ε) : Prop where
  paced : s.Paced log config (log.queued s.surroundings)
    ((occasions.flatMap log.events).foldl RoundEvent.count rounds)
    ((occasions.flatMap log.events).foldl
      (RoundEvent.earliest intervalMs.toNat config.roundLimitMs) none)
  heeds : RoundEvent.Heeds intervalMs.toNat config.roundLimitMs none
    (occasions.flatMap log.events)
  inOrder : ∀ event ∈ occasions.flatMap log.events, event.InOrder
  once : ∀ occasion ∈ occasions, log.AsksOnce config.strategy.openingCommand occasion

namespace KeepsPace

variable {occasions : List (Occasion ε)}

lemma aside (h : s.KeepsPace log config intervalMs rounds occasions) (hst : s.Aside t) :
    t.KeepsPace log config intervalMs rounds occasions :=
  { h with paced := h.paced.aside hst }

/-- One occasion more, with what happens to the rounds on it. -/
lemma tail (h : s.KeepsPace log config intervalMs rounds occasions) {occasion : Occasion ε}
    {new : List RoundEvent} (hevents : log.events occasion = new)
    (hpaced : t.Paced log config (log.queued t.surroundings)
      (new.foldl RoundEvent.count ((occasions.flatMap log.events).foldl RoundEvent.count rounds))
      (new.foldl (RoundEvent.earliest intervalMs.toNat config.roundLimitMs)
        ((occasions.flatMap log.events).foldl
          (RoundEvent.earliest intervalMs.toNat config.roundLimitMs) none)))
    (hheeds : RoundEvent.Heeds intervalMs.toNat config.roundLimitMs
      ((occasions.flatMap log.events).foldl
        (RoundEvent.earliest intervalMs.toNat config.roundLimitMs) none) new)
    (horder : ∀ event ∈ new, event.InOrder)
    (honce : log.AsksOnce config.strategy.openingCommand occasion) :
    t.KeepsPace log config intervalMs rounds (occasions ++ [occasion]) := by
  have hall : (occasions ++ [occasion]).flatMap log.events =
      occasions.flatMap log.events ++ new := by
    rw [List.flatMap_append, List.flatMap_singleton, hevents]
  refine ⟨?_, ?_, ?_, ?_⟩
  · rw [hall, List.foldl_append, List.foldl_append]
    exact hpaced
  · rw [hall]
    exact RoundEvent.heeds_append.mpr ⟨h.heeds, hheeds⟩
  · rw [hall]
    exact List.forall_mem_append.mpr ⟨h.inOrder, horder⟩
  · exact List.forall_mem_append.mpr ⟨h.once, List.forall_mem_singleton.mpr honce⟩

section

variable (hclock : board.Ticks (· ≤ ·)) (hboard : board.CallbacksAre log.Outside)
  (hstrategy : config.strategy = .repeating intervalMs)

include hclock hboard hstrategy

lemma process (h : s.KeepsPace log config intervalMs rounds occasions) :
    (s.process board).2.KeepsPace log config intervalMs rounds (occasions ++ [.process s]) := by
  obtain hkept | ⟨hdue, time, address, hlater, hasked⟩ :=
    paced_process hclock hstrategy hboard h.paced rfl
  · have hsame := hkept.queued_eq
    have hnone : log.added s (s.process board).2 = [] :=
      Logbook.added_of_append (by rw [hsame, List.append_nil])
    have hevents : log.events (.process s) =
        RoundEvent.ends (s.now board) (s.dispatched board) := by
      rw [Logbook.events, hnone, List.map_nil, List.append_nil]
    refine h.tail hevents ?_ (RoundEvent.heeds_ends _ _ _)
      (fun _ => RoundEvent.inOrder_of_mem_ends) (.inl hsame)
    rw [RoundEvent.foldl_count_ends]
    exact { hkept with queued_eq := rfl }
  · have hone := Logbook.added_of_append hasked.queued_eq
    have hevents : log.events (.process s) =
        RoundEvent.ends (s.now board) (s.dispatched board) ++ [.asked (s.now board) time] := by
      rw [Logbook.events, hone, List.map_singleton]
    refine h.tail hevents ?_
      (RoundEvent.heeds_append.mpr ⟨RoundEvent.heeds_ends _ _ _, ?_, trivial⟩)
      (List.forall_mem_append.mpr ⟨fun _ => RoundEvent.inOrder_of_mem_ends, ?_⟩)
      (.inr ⟨time, address, hasked.queued_eq⟩)
    · rw [List.foldl_append, List.foldl_append, RoundEvent.foldl_count_ends]
      exact { hasked with queued_eq := rfl }
    · rintro call queued ⟨⟩
      exact hdue
    · exact List.forall_mem_singleton.mpr hlater

lemma begin (h : s.KeepsPace log config intervalMs rounds occasions) {address : UInt8} {size : Nat}
    (hsent : (s.enterMode board .inventory).sendTo board address
      s.router.config.strategy.openingCommand = (.ok size, t)) :
    (t.beginSchedule board).KeepsPace log config intervalMs rounds
      (occasions ++ [.begin s t]) := by
  obtain ⟨time, -, hopened, hqueued⟩ := log.sendTo_ok hclock hsent
  rw [log.queued_of_touches (touches_enterMode .inventory s), h.paced.config_eq] at hqueued
  have hevents : log.events (.begin s t) = [.begun time (t.now board)] := by
    rw [Logbook.events, Logbook.added_of_append hqueued, List.map_singleton]
  refine h.tail hevents (paced_begin hboard hstrategy h.paced hsent) ⟨?_, trivial⟩
    (List.forall_mem_singleton.mpr hopened) ⟨time, address, hqueued⟩
  intro _ _ hasked
  cases hasked

/-- **Every task keeps the pace.** -/
lemma task {new : List (Occasion ε)} (h : s.KeepsPace log config intervalMs rounds occasions)
    (htask : Task board s new t) : t.KeepsPace log config intervalMs rounds (occasions ++ new) := by
  have hs := h.paced.consistent
  have hquiet {u : Station ε} (hst : s.Aside u) :
      u.KeepsPace log config intervalMs rounds (occasions ++ []) := by
    rw [List.append_nil]
    exact h.aside hst
  have hstopped {u : Station ε} (hst : s.Aside u) :
      u.KeepsPace log config intervalMs rounds (occasions ++ [.stop s]) :=
    h.tail rfl (h.paced.aside hst) trivial (List.forall_mem_nil _) trivial
  cases htask with
  | tell remark _ => exact hquiet (.of_pace rfl)
  | setAddress address => exact hquiet (.of_pace rfl)
  | forgetTags => exact hquiet (.of_pace rfl)
  | forget answers awaiting _ => exact hquiet (.of_pace rfl)
  | resetStatistics =>
      refine h.tail rfl ?_ ⟨?_, trivial⟩ (List.forall_mem_singleton.mpr trivial) trivial
      · exact { h.paced with
          queued_eq := rfl, rounds_eq := rfl, consistent := .of_stance (r := s.router) rfl hs }
      · intro _ _ hasked
        cases hasked
  | takeOverrun => exact hquiet (.of_pace rfl)
  | sendTo address command => exact hquiet (.of_pace (pace_sendTo board address command s))
  | process => exact h.process hclock hboard hstrategy
  | transmit => exact hquiet (.of_pace rfl)
  | notifyRunning isOn => exact hquiet (.of_pace (by rw [(hboard.notifyRunning isOn s).1]))
  | wait ms => exact hquiet (.of_pace (by rw [(hboard.wait ms s).1]))
  | start => exact hquiet (aside_start hs)
  | stop => exact hstopped (aside_stop hs)
  | begin address size hsent => exact h.begin hclock hboard hstrategy hsent
  | beginRefused address hrefused => exact hquiet (aside_beginRefused hboard hs address hrefused)
  | endSending address => exact hstopped (aside_endSending hboard hs address)

end

end KeepsPace

/-- **Every run keeps the pace.** -/
theorem Steps.keepsPace {drift : ε → ε → Prop} {occasions : List (Occasion ε)}
    (hclock : board.Ticks (· ≤ ·)) (hboard : board.CallbacksAre log.Outside)
    (hconsistent : s.router.Consistent)
    (hstrategy : s.router.config.strategy = .repeating intervalMs)
    (h : s.History board drift occasions t) :
    t.KeepsPace log s.router.config intervalMs s.router.counters.roundsStarted occasions := by
  induction h with
  | refl =>
      exact ⟨⟨rfl, rfl, rfl, hconsistent, fun _ => nofun⟩, trivial,
        List.forall_mem_nil _, List.forall_mem_nil _⟩
  | tail _ hstep ih =>
      cases hstep with
      | task htask => exact ih.task hclock hboard hstrategy htask
      | arrival bytes =>
          rw [List.append_nil]
          exact ih.aside (.of_pace rfl)
      | drift e _ =>
          rw [List.append_nil]
          exact ih.aside (.of_pace rfl)

end Station

/--
  **Rounds keep apart.**  Take a session in which mode, schedule and running flag agree, with a
  repeating inventory; the clock does not run backwards in a call, and callbacks leave the router
  alone.  Every run of the session, except for changes of the configuration and of mode and schedule
  by hand, has its occasions.  By what has happened on them

  * the next round is asked for an interval behind the beginning of the last call with an answer
    that has ended a round since the command before, or later; if there was none, after the time for
    which a round may be silent, counted from the first command or from the beginning of the call
    that queued the command;
  * a command is queued after the beginning of its call;
  * each command of a round is counted once;
  * a call to process received bytes queues no command but that of a round, and not more than one.
-/
theorem rounds_apart {log : Logbook board} {s : Session ε} {intervalMs : UInt32}
    (drift : ε → ε → Prop) (hclock : board.Ticks (· ≤ ·)) (hboard : board.CallbacksAre log.Outside)
    (hconsistent : s.station.router.Consistent)
    (hstrategy : s.station.router.config.strategy = .repeating intervalMs) :
    (∀ t : Session ε, s.Runs board
        (fun action => action.isRaw = false ∧ action.isConfiguring = false) drift t →
      ∃ occasions, s.Traced board drift occasions t) ∧
    ∀ occasions t, s.Traced board drift occasions t →
      RoundEvent.Apart RoundEvent.countedTime? intervalMs.toNat
        s.station.router.config.roundLimitMs (occasions.flatMap log.events) ∧
      (∀ event ∈ occasions.flatMap log.events, event.InOrder) ∧
      t.station.router.counters.roundsStarted = (occasions.flatMap log.events).foldl
        RoundEvent.count s.station.router.counters.roundsStarted ∧
      ∀ occasion ∈ occasions,
        log.AsksOnce s.station.router.config.strategy.openingCommand occasion := by
  refine ⟨fun t hrun => hrun.traced, ?_⟩
  intro occasions t htraced
  have hpace := htraced.history.keepsPace hclock hboard hconsistent hstrategy
  exact ⟨hpace.heeds.apart hpace.inOrder, hpace.inOrder, hpace.paced.rounds_eq, hpace.once⟩

/-! ## A consumer that takes its time -/

/-- A clock, and the commands that were queued, with their times. -/
structure Dial where
  time : Nat
  queued : List (Nat × Call)
deriving DecidableEq

namespace Dial

def calls (dial : Dial) : List Call := dial.queued.map Prod.snd

/--
  A board whose clock has to be moved by hand, unless a tag is delivered: the consumer takes some
  milliseconds for each.  The wire takes nothing.
-/
def slow (ms : Nat) : Board Dial :=
  { Board.still 0 { rfPower := 0, address := 0, antenna := 0 } with
    now := Dial.time
    write := fun remark dial =>
      { dial with queued := dial.queued ++ remark.call?.toList.map (dial.time, ·) }
    emit := fun _ dial => (false, dial)
    deliver := fun _ s =>
      let time := s.surroundings.time + ms
      (.ok (), { s with surroundings := { s.surroundings with time } }) }

/-- A board on which nothing takes any time. -/
def clockwork : Board Dial := slow 0

/-- What the dial holds is a record of the queued commands. -/
def logbook (ms : Nat) : Logbook (slow ms) where
  queued := Dial.queued
  queued_write _ _ := rfl
  queued_emit _ _ := rfl
  queued_interrupts _ := rfl

lemma outside (ms : Nat) : (slow ms).CallbacksAre (logbook ms).Outside :=
  ⟨fun _ _ => ⟨rfl, rfl⟩, fun _ => ⟨rfl, rfl⟩, fun _ _ => ⟨rfl, rfl⟩, fun _ _ => ⟨rfl, rfl⟩,
    fun _ _ => ⟨rfl, rfl⟩⟩

lemma ticks (ms : Nat) : (slow ms).Ticks (· ≤ ·) where
  refl := Nat.le_refl
  trans := Nat.le_trans
  write _ _ := Nat.le_refl _
  emit _ _ := Nat.le_refl _
  interrupts _ := Nat.le_refl _
  deliver _ s := Nat.le_add_right s.surroundings.time ms
  notifyRead _ := Nat.le_refl _
  notifyError _ _ := Nat.le_refl _

/-- Bytes arrive, and time passes. -/
def pass (time : Nat) (bytes : List UInt8) (s : Station Dial) : Station Dial :=
  { s.receive bytes with surroundings := { s.surroundings with time } }

/-- At some time bytes have arrived, and they are processed. -/
def tick (time : Nat) (bytes : List UInt8) (s : Station Dial) : Station Dial :=
  ((pass time bytes s).process clockwork).2

/-- The clock is moved forward. -/
def Advances (dial dial' : Dial) : Prop := dial.time ≤ dial'.time

/-- A session has come so far, and this is what has happened to its rounds. -/
def Tells (ms : Nat) (s : Session Dial) (events : List RoundEvent) (t : Session Dial) : Prop :=
  ∃ occasions, s.Traced (slow ms) Advances occasions t ∧
    occasions.flatMap (logbook ms).events = events

namespace Tells

variable {ms : Nat} {s t : Session Dial} {events : List RoundEvent}

lemma act (h : Tells ms s events t) (action : Action)
    (hallowed : action.isRaw = false ∧ action.isConfiguring = false) (new : List RoundEvent)
    (hnew : (action.occasions (slow ms) t).flatMap (logbook ms).events = new) :
    Tells ms s (events ++ new) (action.run (slow ms) t) := by
  obtain ⟨_, htraced, rfl⟩ := h
  refine ⟨_, htraced.act action hallowed, ?_⟩
  rw [List.flatMap_append, hnew]

lemma tick (h : Tells ms s events t) (time : Nat) (bytes : List UInt8)
    (htime : t.station.surroundings.time ≤ time) (new : List RoundEvent)
    (hnew : (logbook ms).events (.process (pass time bytes t.station)) = new) :
    Tells ms s (events ++ new)
      ((Action.onRouter .process).run (slow ms) (t.onStation (pass time bytes))) := by
  obtain ⟨_, htraced, rfl⟩ := h
  have harrived := htraced.act (.onRouter (.receive bytes)) ⟨rfl, rfl⟩
  have hpassed := (harrived.drift { t.station.surroundings with time } htime).act
    (.onRouter .process) ⟨rfl, rfl⟩
  refine ⟨_, hpassed, ?_⟩
  rw [List.flatMap_append, List.flatMap_append, List.append_assoc, ← hnew]
  exact congrArg _ (List.flatMap_singleton _ _)

end Tells

end Dial

/-- The end of a round in which there was no tag. -/
def roundEndFrame : List UInt8 := Frame.ofBody [0x00, 0x01, 0x01]

/-- A tag that the reader reports on its own. -/
def lateTagFrame : List UInt8 := Frame.ofBody [0x00, 0xEE, 0x00, 0x01, 0x02, 0xAA, 0xBB, 0x50]

/-- A new session that does not wait for answers, and a consumer that takes a second for a tag. -/
def slowSession : Session Dial :=
  .unconnected (Dial.slow 1000) (.fresh { Config.standard with responseTimeoutMs := 0 } ⟨0, []⟩)

/-- Its reader has answered, and inventory has begun at time zero. -/
lemma tells_slowSession : Dial.Tells 1000 slowSession [.begun 0 0]
    ([Action.onRouter .start, .onRouter (.receive readerInfoFrame), .startInventory].foldl
      (fun s action => action.run (Dial.slow 1000) s) slowSession) := by
  have hnothing : Dial.Tells 1000 slowSession [] slowSession := ⟨[], .refl, rfl⟩
  have hstarted := hnothing.act (.onRouter .start) ⟨rfl, rfl⟩ [] rfl
  have hanswered := hstarted.act (.onRouter (.receive readerInfoFrame)) ⟨rfl, rfl⟩ [] rfl
  exact hanswered.act .startInventory ⟨rfl, rfl⟩ [.begun 0 0] (by decide +kernel)

/--
  The first round gets no answer within 1500 ms.  The call that finds this out also delivers a tag,
  so the command for the second round is queued a second later.  This one is answered after 200 ms,
  and the third follows as soon as 100 more have gone by.
-/
theorem rounds_apart_slow_consumer :
    ∃ occasions t, slowSession.Traced (Dial.slow 1000) Dial.Advances occasions t ∧
      occasions.flatMap (Dial.logbook 1000).events =
        [.begun 0 0, .asked 1500 2500, .ended 2700, .asked 2800 2800] ∧
      0 + 1500 ≤ 2500 ∧ 2700 + 100 ≤ 2800 ∧ t.station.router.counters.roundsStarted = 3 := by
  obtain ⟨-, hall⟩ := rounds_apart (s := slowSession) Dial.Advances
    (Dial.ticks 1000) (Dial.outside 1000)
    (.of_idle (by decide +kernel) (by decide +kernel) (by decide +kernel)) rfl
  have hwaiting := tells_slowSession.tick 1499 [] (by decide +kernel) [] (by decide +kernel)
  have hasked := hwaiting.tick 1500 lateTagFrame (by decide +kernel) [.asked 1500 2500]
    (by decide +kernel)
  have hended := hasked.tick 2700 roundEndFrame (by decide +kernel) [.ended 2700]
    (by decide +kernel)
  have hresting := hended.tick 2799 [] (by decide +kernel) [] (by decide +kernel)
  obtain ⟨occasions, htraced, hevents⟩ := hresting.tick 2800 [] (by decide +kernel)
    [.asked 2800 2800] (by decide +kernel)
  obtain ⟨hapart, -, hcount, -⟩ := hall occasions _ htraced
  rw [hevents] at hapart hcount
  refine ⟨occasions, _, htraced, hevents, ?_, ?_, hcount⟩
  · exact hapart [] (.begun 0 0) [] 0 1500 2500 [.ended 2700, .asked 2800 2800] rfl rfl rfl
  · exact hapart [.begun 0 0] (.asked 1500 2500) [.ended 2700] 1500 2800 2800 [] rfl rfl rfl

/--
  **Counted from the moment when a command was queued, the next one can come too early.**  The
  second command waits for the consumer and is queued at 2500 ms, in a call that began at 1500.
  Nobody answers, and the third one is queued at 3000, though a round may be silent for 1500 ms.
-/
theorem rounds_asked_early :
    slowSession.station.router.config.strategy = .repeating 100 ∧
      slowSession.station.router.config.roundLimitMs = 1500 ∧
      (Dial.slow 1000).CallbacksAre (Dial.logbook 1000).Outside ∧
      (Dial.slow 1000).Ticks (· ≤ ·) ∧
      ∃ occasions t, slowSession.Traced (Dial.slow 1000) Dial.Advances occasions t ∧
        occasions.flatMap (Dial.logbook 1000).events =
          [.begun 0 0, .asked 1500 2500, .asked 3000 3000] ∧
        ¬ RoundEvent.Apart RoundEvent.queuedTime? 100 1500
          (occasions.flatMap (Dial.logbook 1000).events) := by
  have hasked := tells_slowSession.tick 1500 lateTagFrame (by decide +kernel)
    [.asked 1500 2500] (by decide +kernel)
  obtain ⟨occasions, htraced, hevents⟩ := hasked.tick 3000 [] (by decide +kernel)
    [.asked 3000 3000] (by decide +kernel)
  refine ⟨rfl, by decide +kernel, Dial.outside 1000, Dial.ticks 1000, occasions, _, htraced,
    hevents, fun hapart => ?_⟩
  rw [hevents] at hapart
  have hlate := hapart [.begun 0 0] (.asked 1500 2500) [] 2500 3000 3000 [] rfl rfl rfl
  exact absurd hlate (by decide)

end RfidLink
