import RfidLink.Proofs.Episodes
import RfidLink.Proofs.TagText

/-!
# The only round of an inventory

An inventory of one round ends by itself: with the response that ends the round, or once the reader
has been silent for too long.  Either is found out in a call to process received bytes, and frames
that arrive together with the last response are still in the ring then.

* `Episode.ends` says whether an episode is the end of an inventory with a given deadline, and
  `Episode.follow` follows through the episodes when the present inventory has begun.
* `Station.AtRound` is the invariant: inventory is on exactly if it has begun and not ended, and its
  schedule is the one with which it began.  There is one lemma for each episode, and
  `Episodes.atRound` puts them together.
* **`onlyRound_ends_inventory`** reads it off: after inventory has begun, it is on until an episode
  is its end and off from then on, no call to process received bytes queues a command, and no frame
  is acted on behind the one that ends the round.

Nothing is assumed about the clock, which may even run backwards.
-/

namespace RfidLink

variable {ε α : Type} {board : Board ε} {part : ε → α}

/-! ## The end of an inventory -/

namespace Episode

def isBegin : Episode → Bool
  | begun _ => true
  | stopped | processed .. => false

/-- Whether an inventory of one round, to be given up at a deadline, ends in an episode. -/
def ends (deadline : Nat) : Episode → Bool
  | begun _ => false
  | stopped => true
  | processed now frames => frames.any Frame.endsRound || decide (deadline ≤ now)

/-- When the present inventory has begun, if there is one. -/
def follow (limitMs : Nat) : Option Nat → Episode → Option Nat
  | _, begun time => some time
  | none, _ => none
  | some time, event => if event.ends (time + limitMs) then none else some time

variable {limitMs : Nat} {events : List Episode}

lemma follow_begun (sofar : Option Nat) (time : Nat) :
    follow limitMs sofar (begun time) = some time := by
  cases sofar <;> rfl

lemma follow_stopped (sofar : Option Nat) : follow limitMs sofar stopped = none := by
  cases sofar <;> rfl

lemma foldl_follow_none (h : ∀ event ∈ events, event.isBegin = false) :
    events.foldl (follow limitMs) none = none := by
  induction events with
  | nil => rfl
  | cons event rest ih =>
      have hrest : ∀ event ∈ rest, event.isBegin = false :=
        fun event hevent => h event (List.mem_cons_of_mem _ hevent)
      have hfirst : follow limitMs none event = none := by
        cases event with
        | begun time => cases h (.begun time) List.mem_cons_self
        | stopped => rfl
        | processed now frames => rfl
      rw [List.foldl_cons, hfirst]
      exact ih hrest

/-- **Until the next one begins, an inventory is there until it ends.** -/
lemma foldl_follow (h : ∀ event ∈ events, event.isBegin = false) (time : Nat) :
    events.foldl (follow limitMs) (some time) =
      if events.any (ends (time + limitMs)) then none else some time := by
  induction events with
  | nil => rfl
  | cons event rest ih =>
      have hrest : ∀ event ∈ rest, event.isBegin = false :=
        fun event hevent => h event (List.mem_cons_of_mem _ hevent)
      have hfirst : follow limitMs (some time) event =
          if event.ends (time + limitMs) then none else some time := by
        cases event with
        | begun time => cases h (.begun time) List.mem_cons_self
        | stopped => rfl
        | processed now frames => rfl
      rw [List.foldl_cons, hfirst, List.any_cons]
      cases event.ends (time + limitMs) with
      | true =>
          rw [if_pos rfl, Bool.true_or, if_pos rfl]
          exact foldl_follow_none hrest
      | false =>
          rw [if_neg Bool.false_ne_true, Bool.false_or]
          exact ih hrest

end Episode

lemma Config.roundLimitMs_singleShot {config : Config} (h : config.strategy = .singleShot) :
    config.roundLimitMs = 5000 + config.roundTimeoutMs.toNat := by
  rw [roundLimitMs, h]
  rfl

/-- An only round ends inventory exactly if it ends. -/
lemma Frame.isSome_ending?_singleShot (frame : List UInt8) :
    (ending? .singleShot frame).isSome = endsRound frame := by
  simp only [ending?, endsRound]
  cases roundStatus? frame with
  | none => rfl
  | some status =>
      simp only [Option.bind_some, Option.any_some, Strategy.ending?]
      cases status <;> rfl

namespace Station

variable {s t u : Station ε} {config : Config} {sofar : Option Nat}

/-! ## At the only round -/

/--
  Inventory is on if it has begun and not ended, and then its schedule is as it was in the
  beginning.
-/
structure AtRound (config : Config) (sofar : Option Nat) (s : Station ε) : Prop where
  settled : s.Settled
  config_eq : s.router.config = config
  off : sofar = none → s.router.inventoryActive = false
  on : ∀ time ∈ sofar, s.router.schedule = .opened config time

lemma AtRound.underway {time : Nat} (h : s.AtRound config (some time)) : s.Underway := by
  have hactive : s.router.inventoryActive = true := by
    rw [Router.inventoryActive, h.on time rfl]
    rfl
  exact h.settled.underway (h.settled.consistent.mode_iff_active.mpr hactive)

lemma AtRound.idle (h : s.AtRound config none) : s.router.mode = .idle :=
  h.settled.consistent.idle (h.off rfl)

/-- There is nothing more to say about inventory that is off. -/
lemma AtRound.of_off (hsettled : s.Settled) (hconfig : s.router.config = config)
    (hoff : s.router.inventoryActive = false) : s.AtRound config none :=
  ⟨hsettled, hconfig, fun _ => hoff, fun _ htime => nomatch htime⟩

/-- Inventory goes on with the same schedule, or stays off. -/
lemma AtRound.of_stance (h : s.AtRound config sofar) (hsettled : t.Settled)
    (hconfig : t.router.config = s.router.config)
    (hstance : t.router.stance = s.router.stance) : t.AtRound config sofar := by
  have hschedule : t.router.schedule = s.router.schedule := congrArg (·.2.2) hstance
  refine ⟨hsettled, hconfig.trans h.config_eq, ?_, ?_⟩
  · rw [Router.inventoryActive, hschedule]
    exact h.off
  · rw [hschedule]
    exact h.on

lemma AtRound.beside (h : s.AtRound config sofar) (hst : s.Beside part t) :
    t.AtRound config sofar := by
  have hsettled := hst.settled h.settled
  obtain hstance | ⟨hbefore, hafter, -⟩ := hst.stance
  · exact h.of_stance hsettled hst.config hstance
  · cases sofar with
    | none => exact .of_off hsettled (hst.config.trans h.config_eq) hafter
    | some time => cases hbefore.symm.trans h.underway.active

section

variable (hrouter : board.CallbacksAre fun s t => t.router = s.router)

include hrouter

lemma AtRound.begin (h : s.AtRound config sofar) {address : UInt8} {size : Nat}
    (hsent : (s.enterMode board .inventory).sendTo board address
      s.router.config.strategy.openingCommand = (.ok size, u)) :
    (u.beginSchedule board).AtRound config (some (u.now board)) := by
  obtain ⟨_, _, _, hbegun⟩ := router_begin hrouter hsent
  refine ⟨settled_begin hrouter h.settled hsent, ?_, nofun, ?_⟩
  · rw [hbegun]
    exact h.config_eq
  · rintro time ⟨⟩
    rw [hbegun, h.config_eq]

lemma AtRound.stop (h : s.AtRound config sofar) : (s.stop board).2.AtRound config none := by
  have hconfig := (hushed_stop board.shields_nothing s).config.trans h.config_eq
  refine .of_off (settled_stop hrouter h.settled) hconfig ?_
  obtain ⟨hstopped, hsame⟩ | ⟨_, _, hended⟩ := router_stop board s
  · rw [hsame]
    exact h.settled.consistent.inactive hstopped
  · rw [hended]
    rfl

lemma AtRound.endSending (h : s.AtRound config sofar) (address : UInt8) :
    (((s.endSchedule.reportTotals board).2.sendTo board address
      s.router.config.strategy.closingCommand).2.enterMode board .idle).AtRound config none := by
  set command := s.router.config.strategy.closingCommand
  have hconfig :=
    (hushed_endSending board.shields_nothing address command s).config.trans h.config_eq
  obtain ⟨_, _, _, hended⟩ := router_endSending board address command s
  refine .of_off (settled_endSending hrouter address h.settled) hconfig ?_
  rw [hended]
  rfl

/-! ## Processing during the only round -/

section

variable (hheeds : board.Heeds part id) (hsingle : config.strategy = .singleShot) {time : Nat}

include hheeds hsingle

omit hrouter in
/-- When all frames have been acted on, the schedule gives the round up, or it asks for nothing. -/
lemma keepSchedule_onlyRound (now : Nat) (hmode : s.router.mode = .inventory)
    (hconfig : s.router.config = config) (hschedule : s.router.schedule = .opened config time) :
    if time + config.roundLimitMs ≤ now then
      s.Ended .onlyRound part id (s.keepSchedule board now)
    else s.keepSchedule board now = s := by
  have hopen : ¬ s.router.mode = .idle := by
    rw [hmode]
    decide
  have hround : s.router.schedule.inRound = true := by
    rw [hschedule, Schedule.opened, hsingle]
    rfl
  have hactive : s.router.inventoryActive = true := by
    rw [Router.inventoryActive, hschedule]
    rfl
  have hdeadline : s.router.schedule.deadline = time + config.roundLimitMs := by
    rw [hschedule]
    rfl
  have hstrategy : s.router.config.strategy = .singleShot := by
    rw [hconfig, hsingle]
  simp only [keepSchedule, decide_eq_false hopen, hstrategy, Strategy.isPolled, hactive, hround,
    hdeadline, Bool.not_true, Bool.or_self, Bool.false_eq_true, if_false, if_true]
  split
  · rename_i hlate
    rw [if_neg (Nat.not_lt_of_le hlate)]
    set counted := (s.tell board .roundAbandoned).count fun c =>
      { c with roundsAbandoned := c.roundsAbandoned + 1 } with hcounted
    have habandoned : s.abandonRound board now = counted.endOnlyRound board := if_pos hstrategy
    have hfirst : s.Carries part counted :=
      (carries_tell hheeds rfl s).trans ⟨⟨rfl, rfl⟩, rfl, fun _ => rfl⟩
    rw [habandoned]
    exact hfirst.ended (ended_endOnlyRound hheeds counted)
  · rename_i hearly
    rw [if_pos (Nat.lt_of_not_le hearly)]

/-- **A call to process received bytes during the only round** ends it, or changes nothing. -/
lemma process_onlyRound (h : s.AtRound config (some time)) :
    if (s.dispatched board).any Frame.endsRound ∨ time + config.roundLimitMs ≤ s.now board then
      ∃ ending, s.Ended ending part id (s.process board).2
    else (s.process board).2.router.stance = s.router.stance ∧
      s.Hushed part (s.process board).2 := by
  have hgoing := h.underway
  have hrunning := h.settled.consistent.running_of_inventory hgoing.mode
  have hstrategy : s.router.config.strategy = .singleShot := by
    rw [h.config_eq, hsingle]
  have hproceeds := proceeds_accepted hrouter hheeds hrunning h.settled.spare hgoing
  cases hframes : (s.dispatched board).any Frame.endsRound with
  | true =>
      rw [if_pos (.inl rfl)]
      obtain ⟨frame, hmem, hends⟩ := List.any_eq_true.mp hframes
      rw [← Frame.isSome_ending?_singleShot, ← hstrategy, Option.isSome_iff_exists] at hends
      obtain ⟨ending, hending⟩ := hends
      obtain ⟨init, rest, hsplit⟩ := List.append_of_mem hmem
      exact ⟨ending,
        ended_process hheeds hrunning h.settled.spare (hproceeds.ended hsplit hending).1⟩
  | false =>
      have hnone : ∀ frame ∈ s.dispatched board,
          Frame.ending? s.router.config.strategy frame = none := by
        intro frame hmem
        have hnot := List.any_eq_false.mp hframes frame hmem
        rw [← Frame.isSome_ending?_singleShot, ← hstrategy] at hnot
        simpa using hnot
      have hcarries := hproceeds.carries hnone
      have hkept := keepSchedule_onlyRound hheeds hsingle (s.now board)
        (hcarries.mode.trans hgoing.mode) (hcarries.config.trans h.config_eq)
        ((hcarries.schedule hstrategy).trans (h.on time rfl))
      rw [process_eq hrunning h.settled.spare]
      by_cases hlate : time + config.roundLimitMs ≤ s.now board
      · rw [if_pos hlate] at hkept
        rw [if_pos (.inr hlate)]
        exact ⟨.onlyRound, (hcarries.ended hkept).inward hheeds (inward_onRouter rfl)⟩
      · rw [if_neg hlate] at hkept
        rw [if_neg (by simp [hlate]), hkept]
        refine ⟨?_, hcarries.toHushed.trans ⟨rfl, rfl⟩⟩
        show (s.accepted board).router.stance = s.router.stance
        simp only [Router.stance, hcarries.mode, hcarries.running, hcarries.schedule hstrategy]

end

lemma AtRound.process (hsingle : config.strategy = .singleShot) (h : s.AtRound config sofar) :
    (s.process board).2.AtRound config (Episode.follow config.roundLimitMs sofar
      (.processed (s.now board) (s.dispatched board))) := by
  have hsettled := settled_process hrouter h.settled
  cases sofar with
  | none =>
      have hinward : s.Inward board (s.process board).2 := inward_process h.idle
      exact h.of_stance hsettled (congrArg (·.2.1) hinward.outlook)
        (Router.stance_of_outlook hinward.outlook)
  | some time =>
      have hprocessed := process_onlyRound hrouter board.heeds_nothing hsingle h
      simp only [Episode.follow, Episode.ends, Bool.or_eq_true, decide_eq_true_eq]
      split at hprocessed
      · rename_i hends
        obtain ⟨_, hended⟩ := hprocessed
        rw [if_pos hends]
        refine .of_off hsettled (hended.config.trans h.config_eq) ?_
        exact congrArg (fun p : Mode × Bool × Schedule => p.2.2.active) hended.stance
      · rename_i hgoing
        rw [if_neg hgoing]
        exact h.of_stance hsettled hprocessed.2.config hprocessed.1

/-- **Nothing is queued** by a call to process received bytes, whether there is inventory or not. -/
lemma AtRound.calls_process {record : Recorder board} (hboard : board.CallbacksAre record.Outside)
    (hsingle : config.strategy = .singleShot) (h : s.AtRound config sofar) :
    record.calls (s.process board).2.surroundings = record.calls s.surroundings := by
  have hheeds : board.Heeds record.calls id := by
    refine ⟨fun remark e hremark => ?_, fun text s => (hboard.deliver text s).2,
      fun s => (hboard.notifyRead s).2, fun s => (hboard.notifyError true s).2⟩
    rw [record.calls_write, hremark, Option.toList_none, List.append_nil]
  cases sofar with
  | none => exact part_of_touches hheeds.write (inward_process h.idle).touches
  | some time =>
      have hprocessed := process_onlyRound hrouter hheeds hsingle h
      split at hprocessed
      · obtain ⟨_, hended⟩ := hprocessed
        simpa using hended.part_eq
      · exact hprocessed.2.part_eq

/-- **No frame is acted on behind the one that ends the round.** -/
lemma AtRound.last_of_endsRound (hsingle : config.strategy = .singleShot) {time : Nat}
    (h : s.AtRound config (some time)) {init rest : List (List UInt8)} {frame : List UInt8}
    (hframes : s.dispatched board = init ++ frame :: rest) (hends : Frame.endsRound frame = true) :
    rest = [] := by
  have hgoing := h.underway
  have hproceeds := proceeds_accepted hrouter board.heeds_nothing
    (h.settled.consistent.running_of_inventory hgoing.mode) h.settled.spare hgoing
  rw [← Frame.isSome_ending?_singleShot, ← hsingle, ← h.config_eq,
    Option.isSome_iff_exists] at hends
  obtain ⟨_, hending⟩ := hends
  exact (hproceeds.ended hframes hending).2

end

end Station

/-! ## Runs -/

/-- **Every run** is at the only round, as far as its episodes say. -/
theorem Episodes.atRound (hrouter : board.CallbacksAre fun s t => t.router = s.router)
    {config : Config} (hsingle : config.strategy = .singleShot) {s t : Station ε}
    {events : List Episode} {sofar : Option Nat} (hs : s.AtRound config sofar)
    (h : Episodes board part s events t) :
    t.AtRound config (events.foldl (Episode.follow config.roundLimitMs) sofar) := by
  induction h with
  | refl => exact hs
  | beside _ htu ih => exact ih.beside htu
  | process _ ih =>
      rw [List.foldl_append]
      exact ih.process hrouter hsingle
  | begin _ address size hsent ih =>
      rw [List.foldl_append]
      exact ih.begin hrouter hsent
  | stop _ ih =>
      rw [List.foldl_append, List.foldl_cons, Episode.follow_stopped]
      exact ih.stop hrouter
  | endSending _ address ih =>
      rw [List.foldl_append, List.foldl_cons, Episode.follow_stopped]
      exact ih.endSending hrouter address

/--
  **Single shot means one round.**  Start from a new router and a new session whose inventory is to
  have one round; callbacks leave the router alone and queue nothing.  Whatever is asked of the
  session in whatever order, except for changes of the configuration and of mode and schedule by
  hand, is a run with its occasions.  These are its episodes: they lead to the station after the
  run, and those before a call to process received bytes lead to the station that this call finds.
  Take episodes that lead anywhere, and the last time that inventory has begun in them.

  * A call to process received bytes queues nothing then.
  * Inventory ends in the first episode in which it is stopped, in which a response is acted on that
    ends the round, or which is 5000 ms and the round timeout behind its beginning.  Until then it
    is on, and no frame is acted on behind a response that ends the round.
  * From then on mode and schedule are off, and what is processed delivers no tag.
-/
theorem onlyRound_ends_inventory {record : Recorder board} (log : TagLog board)
    (hboard : board.CallbacksAre record.Outside) (hlog : board.Shields log.texts)
    (config : Config) (hsingle : config.strategy = .singleShot) (surroundings : ε) :
    (∀ t : Session ε, (Session.unconnected board (.fresh config surroundings)).Runs board
        (fun action => action.isRaw = false ∧ action.isConfiguring = false)
        (fun e e' => log.texts e' = log.texts e) t →
      ∃ occasions, (Session.unconnected board (.fresh config surroundings)).Traced board
        (fun e e' => log.texts e' = log.texts e) occasions t) ∧
    (∀ occasions t, (Session.unconnected board (.fresh config surroundings)).Traced board
        (fun e e' => log.texts e' = log.texts e) occasions t →
      Episodes board log.texts (.fresh config surroundings)
          (occasions.filterMap (·.episode? board)) t.station ∧
        ∀ before u after, occasions = before ++ .process u :: after →
          Episodes board log.texts (.fresh config surroundings)
            (before.filterMap (·.episode? board)) u) ∧
    ∀ before time after t,
      Episodes board log.texts (.fresh config surroundings) (before ++ .begun time :: after) t →
      (∀ event ∈ after, event.isBegin = false) →
      record.calls (t.process board).2.surroundings = record.calls t.surroundings ∧
      (after.any (Episode.ends (time + (5000 + config.roundTimeoutMs.toNat))) = false →
        t.router.mode = .inventory ∧ t.router.inventoryActive = true ∧
          ∀ init frame rest, t.dispatched board = init ++ frame :: rest →
            Frame.endsRound frame = true → rest = []) ∧
      (after.any (Episode.ends (time + (5000 + config.roundTimeoutMs.toNat))) = true →
        t.router.mode = .idle ∧ t.router.inventoryActive = false ∧
          log.texts (t.process board).2.surroundings = log.texts t.surroundings) := by
  have hrouter : board.CallbacksAre fun s t => t.router = s.router :=
    hboard.mono fun _ _ houtside => houtside.1
  have hsettled : (Station.fresh config surroundings).Settled :=
    Station.settled_fresh config surroundings
  have hnew : (Station.fresh config surroundings).AtRound config none := .of_off hsettled rfl rfl
  refine ⟨fun t hrun => hrun.traced,
    fun occasions t htraced => htraced.episodes hrouter hlog hsettled, ?_⟩
  intro before time after t hepisodes hafter
  have ht := hepisodes.atRound hrouter hsingle hnew
  rw [List.foldl_append, List.foldl_cons] at ht
  rw [← Config.roundLimitMs_singleShot hsingle]
  rw [Episode.follow_begun, Episode.foldl_follow hafter] at ht
  refine ⟨ht.calls_process hrouter hboard hsingle, fun hgoing => ?_, fun hends => ?_⟩
  · rw [if_neg (by rw [hgoing]; exact Bool.false_ne_true)] at ht
    exact ⟨ht.underway.mode, ht.underway.active,
      fun _ _ _ hframes => ht.last_of_endsRound hrouter hsingle hframes⟩
  · rw [if_pos hends] at ht
    have hquiet := Station.part_of_touches (fun remark e _ => log.texts_write remark e)
      (Station.inward_process ht.idle).touches
    exact ⟨ht.idle, ht.off rfl, hquiet⟩

/-! ## A tag that comes too late -/

/-- The texts that a diary holds are a record of tags. -/
def Diary.tagLog : TagLog Diary.keeping where
  texts := Diary.texts
  texts_write _ _ := rfl
  texts_deliver _ _ := rfl
  texts_notifyRead _ := rfl

lemma Diary.shields_texts : Diary.keeping.Shields Diary.tagLog.texts :=
  ⟨fun _ _ => rfl, ⟨fun _ _ => rfl, fun _ => rfl⟩, fun _ _ => rfl, fun _ _ => rfl⟩

/-- After 200 ms of an only round its end has arrived, and a tag right behind it. -/
def lateTagStation : Station Diary :=
  Diary.pass 200 (roundEndFrame ++ lateTagFrame)
    (Diary.begun (Diary.started { Config.standard with strategy := .singleShot }))

/--
  The end of the round is acted on and leaves no inventory; the tag behind it is not delivered, in
  this call or in a later one, and no call queues a command.
-/
theorem onlyRound_ends_inventory_late_tag :
    let s := lateTagStation
    let t := (s.process Diary.keeping).2
    s.router.mode = .inventory ∧ s.dispatched Diary.keeping = [roundEndFrame] ∧
      Diary.recorder.calls (s.process Diary.keeping).2.surroundings =
        Diary.recorder.calls s.surroundings ∧
      t.router.mode = .idle ∧ t.router.inventoryActive = false ∧
      Diary.tagLog.texts t.surroundings = [] ∧
      Diary.tagLog.texts (t.process Diary.keeping).2.surroundings = [] := by
  intro s t
  obtain ⟨-, -, hall⟩ := onlyRound_ends_inventory Diary.tagLog Diary.outside Diary.shields_texts
    { Config.standard with strategy := .singleShot } rfl Diary.blank
  have hstarted := Diary.episodes_started Diary.shields_texts
    { Config.standard with strategy := .singleShot }
  have hbegun := Diary.episodes_begun hstarted 10 0 (by decide +kernel) (by decide +kernel)
  have harrived : Episodes Diary.keeping Diary.tagLog.texts _ _ s :=
    Diary.episodes_pass (fun _ _ => rfl) hbegun 200 (roundEndFrame ++ lateTagFrame)
  have hframes : s.dispatched Diary.keeping = [roundEndFrame] := by decide +kernel
  have hprocessed := harrived.process
  rw [hframes] at hprocessed
  -- before the call inventory is on, after it inventory is over
  obtain ⟨hcalls, hon, -⟩ := hall [] 0 [] s harrived (fun _ hevent => nomatch hevent)
  obtain ⟨-, -, hover⟩ :=
    hall [] 0 [.processed 200 [roundEndFrame]] t hprocessed (by decide +kernel)
  obtain ⟨hidle, hinactive, hlater⟩ := hover (by decide +kernel)
  have htexts : Diary.tagLog.texts t.surroundings = [] := by decide +kernel
  exact ⟨(hon rfl).1, hframes, hcalls, hidle, hinactive, htexts, hlater.trans htexts⟩

end RfidLink
