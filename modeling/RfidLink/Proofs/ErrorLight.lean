import RfidLink.Proofs.Episodes
import RfidLink.Proofs.Pieces

/-!
# The light that shows an error

An error of the antenna switches a light on, and the next inventory switches it off.  In between
anything may happen: starts that fail, stops, further errors that come in late.  A light that is
switched on twice, or never off, tells the user nothing.

* `LightLog` is a record of how the light was switched, and `Light.blinking` is the sequence on,
  off, on, and so on.
* One lemma says what a call to process received bytes does to the light
  (`LightLog.shown_process`), and one what the beginning of inventory does
  (`LightLog.shown_beginSchedule`).  Nothing else touches it.
* `Station.Lit` is the invariant: the light has been blinking, the router knows whether it is on,
  and it is on only while the router is idle.  `Episodes.lit` carries it through every run.
* **`errorLight_blinks`** puts this together.
-/

namespace RfidLink

variable {ε : Type} {board : Board ε}

/-- A record of how the light was switched. -/
structure LightLog (board : Board ε) where
  shown : ε → List Bool
  shields : board.Shields shown
  shown_deliver : ∀ text (s : Station ε),
    shown (board.deliver text s).2.surroundings = shown s.surroundings
  shown_notifyRead : ∀ s : Station ε, shown (board.notifyRead s).surroundings = shown s.surroundings
  shown_notifyError : ∀ isOn (s : Station ε),
    shown (board.notifyError isOn s).surroundings = shown s.surroundings ++ [isOn]

/-- An error of the antenna is recorded, and nothing else about a frame is. -/
lemma LightLog.heeds (log : LightLog board) : board.Heeds log.shown (· ++ [true]) :=
  ⟨fun remark e _ => log.shields.write remark e, log.shown_deliver, log.shown_notifyRead,
    log.shown_notifyError true⟩

/-- On, off, on, off, and so on. -/
def Light.blinking (times : Nat) : List Bool := (List.range times).map fun i => i % 2 == 0

lemma Light.blinking_succ (times : Nat) :
    blinking (times + 1) = blinking times ++ [times % 2 == 0] := by
  rw [blinking, List.range_succ, List.map_append]
  rfl

namespace Station

variable {s t u : Station ε} (log : LightLog board)

/-! ## One episode -/

section

variable (hrouter : board.CallbacksAre fun s t => t.router = s.router)

include hrouter

/-- An error of the antenna during inventory ends it. -/
lemma ended_of_isAntennaError (hs : s.Settled)
    (herror : (s.router.isCollecting && (s.dispatched board).any Frame.isAntennaError) = true) :
    s.Ended .antenna log.shown (· ++ [true]) (s.process board).2 := by
  rw [Bool.and_eq_true, Router.isCollecting_iff] at herror
  obtain ⟨⟨-, hmode⟩, hany⟩ := herror
  exact (heedsAntenna_process hrouter log.heeds log.shields hmode hs.unheard).ended hany

/-- Without one, a call shows nothing. -/
lemma hushed_of_not_isAntennaError (hs : s.Settled)
    (hnone : (s.router.isCollecting && (s.dispatched board).any Frame.isAntennaError) = false) :
    s.Hushed log.shown (s.process board).2 := by
  cases hmode : s.router.mode with
  | idle => exact hushed_process_of_idle log.shields hmode
  | inventory =>
      have hcollecting : s.router.isCollecting = true :=
        Router.isCollecting_iff.mpr ⟨hs.consistent.mode_iff_active.mp hmode, hmode⟩
      rw [hcollecting, Bool.true_and] at hnone
      exact (heedsAntenna_process hrouter log.heeds log.shields hmode hs.unheard).hushed hnone

/-- **What a call does to the light**: an error of the antenna during inventory switches it on. -/
lemma shown_process (hs : s.Settled) :
    log.shown (s.process board).2.surroundings = log.shown s.surroundings ++
      if s.router.isCollecting && (s.dispatched board).any Frame.isAntennaError then [true]
      else [] := by
  split
  · rename_i herror
    exact (ended_of_isAntennaError log hrouter hs herror).part_eq
  · rename_i hnone
    rw [Bool.not_eq_true] at hnone
    rw [(hushed_of_not_isAntennaError log hrouter hs hnone).part_eq, List.append_nil]

omit hrouter in
/-- **What the beginning of inventory does to the light**: if it is on, it is switched off. -/
lemma shown_beginSchedule (hfree : s.router.notifying = false) :
    log.shown (s.beginSchedule board).surroundings = log.shown s.surroundings ++
      if s.router.errorShown then [false] else [] := by
  have hback (t : Station ε) (hfree : t.router.notifying = false) :
      log.shown (if t.router.errorShown then
        (t.onRouter fun r => { r with errorShown := false }).notify (board.notifyError false)
        else t).surroundings = log.shown t.surroundings ++
          if t.router.errorShown then [false] else [] := by
    split
    · have hhidden :
          (t.onRouter fun r => { r with errorShown := false }).router.notifying = false := hfree
      simp only [notify, hhidden, Bool.false_eq_true, if_false]
      exact log.shown_notifyError false _
    · rw [List.append_nil]
  simp only [beginSchedule]
  split
  · exact hback _ hfree
  · exact hback _ hfree

omit hrouter in
/-- The command with which inventory begins does nothing to it. -/
lemma shown_begin (hs : s.Settled) {address : UInt8} {size : Nat}
    (hsent : (s.enterMode board .inventory).sendTo board address
      s.router.config.strategy.openingCommand = (.ok size, u)) :
    log.shown (u.beginSchedule board).surroundings = log.shown s.surroundings ++
      if s.router.errorShown then [false] else [] := by
  have hqueued := hushed_sendTo log.shields address s.router.config.strategy.openingCommand
    (s.enterMode board .inventory)
  rw [hsent] at hqueued
  have hhushed := (hushed_enterMode log.shields .inventory s).trans hqueued
  rw [shown_beginSchedule log (hhushed.notifying.trans hs.unheard), hhushed.part_eq,
    hhushed.errorShown]

end

/-! ## The invariant -/

/-- The light has been blinking, and it is on only while the router is idle. -/
structure Lit (log : LightLog board) (before : List Bool) (s : Station ε) : Prop where
  settled : s.Settled
  blinks : ∃ times, log.shown s.surroundings = before ++ Light.blinking times ∧
    s.router.errorShown = (times % 2 == 1)
  idle : s.router.errorShown = true → s.router.mode = .idle

variable {log} {before : List Bool}

lemma Lit.of_hushed (h : s.Lit log before) (hsettled : t.Settled)
    (hst : s.Hushed log.shown t) (hidle : s.router.mode = .idle → t.router.mode = .idle) :
    t.Lit log before where
  settled := hsettled
  blinks := by
    obtain ⟨times, hshown, hon⟩ := h.blinks
    exact ⟨times, hst.part_eq.trans hshown, hst.errorShown.trans hon⟩
  idle hon := hidle (h.idle (hst.errorShown ▸ hon))

/-- While the light is on there is no inventory. -/
lemma Lit.dark (h : s.Lit log before) (hcollecting : s.router.isCollecting = true) :
    s.router.errorShown = false := by
  cases hon : s.router.errorShown with
  | false => rfl
  | true =>
      rw [Router.isCollecting_of_idle (h.idle hon)] at hcollecting
      cases hcollecting

lemma Lit.beside (h : s.Lit log before) (hst : s.Beside log.shown t) : t.Lit log before := by
  refine h.of_hushed (hst.settled h.settled) hst.toHushed fun hidle => ?_
  obtain hstance | ⟨-, hinactive, hconsistent⟩ := hst.stance
  · exact (congrArg Prod.fst hstance).trans hidle
  · exact hconsistent.idle hinactive

section

variable (hrouter : board.CallbacksAre fun s t => t.router = s.router)

include hrouter

lemma Lit.process (h : s.Lit log before) : (s.process board).2.Lit log before := by
  have hsettled := settled_process hrouter h.settled
  cases herror : s.router.isCollecting && (s.dispatched board).any Frame.isAntennaError with
  | false =>
      refine h.of_hushed hsettled (hushed_of_not_isAntennaError log hrouter h.settled herror) ?_
      exact fun hidle => (inward_process hidle).mode hidle
  | true =>
      have hended := ended_of_isAntennaError log hrouter h.settled herror
      obtain ⟨times, hshown, hon⟩ := h.blinks
      rw [h.dark (Bool.and_eq_true _ _ ▸ herror).1] at hon
      have heven : times % 2 = 0 := by
        have hnot : times % 2 ≠ 1 := by simpa using hon.symm
        omega
      refine ⟨hsettled, ⟨times + 1, ?_, ?_⟩, fun _ => hended.mode⟩
      · have hswitched : log.shown (s.process board).2.surroundings =
            log.shown s.surroundings ++ [true] := hended.part_eq
        rw [hswitched, hshown, Light.blinking_succ, heven, List.append_assoc]
        rfl
      · have hodd : (times + 1) % 2 = 1 := by omega
        rw [hended.errorShown, hodd]
        rfl

lemma Lit.begin (h : s.Lit log before) {address : UInt8} {size : Nat}
    (hsent : (s.enterMode board .inventory).sendTo board address
      s.router.config.strategy.openingCommand = (.ok size, u)) :
    (u.beginSchedule board).Lit log before := by
  obtain ⟨_, _, _, hbegun⟩ := router_begin hrouter hsent
  have hdark : (u.beginSchedule board).router.errorShown = false := by rw [hbegun]
  have hswitched := shown_begin log h.settled hsent
  obtain ⟨times, hshown, hon⟩ := h.blinks
  refine ⟨settled_begin hrouter h.settled hsent, ?_, fun hlit => ?_⟩
  · rw [hshown, hon] at hswitched
    rw [hdark]
    rcases Nat.mod_two_eq_zero_or_one times with heven | hodd
    · refine ⟨times, ?_, by rw [heven]; rfl⟩
      simpa [heven] using hswitched
    · refine ⟨times + 1, ?_, ?_⟩
      · rw [Light.blinking_succ, hodd, ← List.append_assoc]
        simpa [hodd] using hswitched
      · have heven : (times + 1) % 2 = 0 := by omega
        rw [heven]
        rfl
  · rw [hdark] at hlit
    cases hlit

lemma Lit.stop (h : s.Lit log before) : (s.stop board).2.Lit log before := by
  refine h.of_hushed (settled_stop hrouter h.settled) (hushed_stop log.shields s) fun hidle => ?_
  obtain ⟨-, hsame⟩ | ⟨_, _, hstopped⟩ := router_stop board s
  · rw [hsame]
    exact hidle
  · rw [hstopped]

lemma Lit.endSending (h : s.Lit log before) (address : UInt8) :
    (((s.endSchedule.reportTotals board).2.sendTo board address
      s.router.config.strategy.closingCommand).2.enterMode board .idle).Lit log before := by
  set command := s.router.config.strategy.closingCommand
  obtain ⟨_, _, _, hended⟩ := router_endSending board address command s
  refine h.of_hushed (settled_endSending hrouter address h.settled)
    (hushed_endSending log.shields address command s) fun _ => ?_
  rw [hended]

end

end Station

/-- **Along every run the light blinks.** -/
theorem Episodes.lit {log : LightLog board}
    (hrouter : board.CallbacksAre fun s t => t.router = s.router) {before : List Bool}
    {s t : Station ε} {events : List Episode} (hs : s.Lit log before)
    (h : Episodes board log.shown s events t) : t.Lit log before := by
  induction h with
  | refl => exact hs
  | beside _ htu ih => exact ih.beside htu
  | process _ ih => exact ih.process hrouter
  | begin _ address size hsent ih => exact ih.begin hrouter hsent
  | stop _ ih => exact ih.stop hrouter
  | endSending _ address ih => exact ih.endSending hrouter address

/-- What is going to happen to a light that has been switched some number of times. -/
structure Station.Switches (log : LightLog board) (times : Nat) (t : Station ε) : Prop where
  /-- It is on only while the router is idle. -/
  idle : times % 2 = 1 → t.router.mode = .idle
  /-- A call to process received bytes switches it on because of the antenna, and only then. -/
  process : log.shown (t.process board).2.surroundings = log.shown t.surroundings ++
    if t.router.isCollecting && (t.dispatched board).any Frame.isAntennaError then [true] else []
  /-- If it does, inventory has ended. -/
  ended : t.router.isCollecting && (t.dispatched board).any Frame.isAntennaError →
    (t.process board).2.router.isCollecting = false
  /-- The beginning of inventory switches it off if it is on, and only then. -/
  begin : ∀ address size u, (t.enterMode board .inventory).sendTo board address
      t.router.config.strategy.openingCommand = (.ok size, u) →
    log.shown (u.beginSchedule board).surroundings = log.shown t.surroundings ++
      if times % 2 = 1 then [false] else []
  stop : log.shown (t.stop board).2.surroundings = log.shown t.surroundings
  endSending : ∀ address, log.shown (((t.endSchedule.reportTotals board).2.sendTo board address
    t.router.config.strategy.closingCommand).2.enterMode board .idle).surroundings =
      log.shown t.surroundings

/--
  **The error light is never stuck.**  Start from a new router and a new session; callbacks leave
  the router alone.  Whatever is asked of the session in whatever order, except for changes of the
  configuration and of mode and schedule by hand, is a run with its occasions.  These are its
  episodes: they lead to the station after the run, those before a call to process received bytes
  lead to the station that this call finds, and the light does not change between them.  After any
  episodes

  * the light has been switched on, off, on, and so on, beginning with on;
  * it is on only while the router is idle;
  * a call to process received bytes switches it on exactly if there is inventory and a response
    with an error of the antenna is acted on, and then inventory has ended;
  * the beginning of inventory switches it off exactly if it is on;
  * stopping does not change it.
-/
theorem errorLight_blinks (log : LightLog board)
    (hrouter : board.CallbacksAre fun s t => t.router = s.router) (config : Config)
    (surroundings : ε) :
    (∀ t : Session ε, (Session.unconnected board (.fresh config surroundings)).Runs board
        (fun action => action.isRaw = false ∧ action.isConfiguring = false)
        (fun e e' => log.shown e' = log.shown e) t →
      ∃ occasions, (Session.unconnected board (.fresh config surroundings)).Traced board
        (fun e e' => log.shown e' = log.shown e) occasions t) ∧
    (∀ occasions t, (Session.unconnected board (.fresh config surroundings)).Traced board
        (fun e e' => log.shown e' = log.shown e) occasions t →
      Episodes board log.shown (.fresh config surroundings)
          (occasions.filterMap (·.episode? board)) t.station ∧
        ∀ before u after, occasions = before ++ .process u :: after →
          Episodes board log.shown (.fresh config surroundings)
            (before.filterMap (·.episode? board)) u) ∧
    ∀ events t, Episodes board log.shown (.fresh config surroundings) events t →
      ∃ times, log.shown t.surroundings = log.shown surroundings ++ Light.blinking times ∧
        t.Switches log times := by
  have hsettled : (Station.fresh config surroundings).Settled :=
    Station.settled_fresh config surroundings
  have hnew : (Station.fresh config surroundings).Lit log (log.shown surroundings) :=
    ⟨hsettled, ⟨0, (List.append_nil _).symm, rfl⟩, fun hlit => nomatch hlit⟩
  refine ⟨fun t hrun => hrun.traced,
    fun occasions t htraced => htraced.episodes hrouter log.shields hsettled, ?_⟩
  intro events t hepisodes
  have ht := hepisodes.lit hrouter hnew
  obtain ⟨times, hshown, hon⟩ := ht.blinks
  have hodd : t.router.errorShown = true ↔ times % 2 = 1 := by rw [hon, beq_iff_eq]
  refine ⟨times, hshown, ?_⟩
  exact
    { idle := fun h => ht.idle (hodd.mpr h)
      process := Station.shown_process log hrouter ht.settled
      ended := fun herror => Router.isCollecting_of_idle
        (Station.ended_of_isAntennaError log hrouter ht.settled herror).mode
      begin := fun address size u hsent => by
        rw [Station.shown_begin log ht.settled hsent]
        simp only [hodd]
      stop := (Station.hushed_stop log.shields t).part_eq
      endSending := fun address => (Station.hushed_endSending log.shields address _ t).part_eq }

/-! ## An antenna that fails once -/

/-- The lights that a diary holds are a record of them. -/
def Diary.lightLog : LightLog Diary.keeping where
  shown := Diary.lights
  shields := ⟨fun _ _ => rfl, ⟨fun _ _ => rfl, fun _ => rfl⟩, fun _ _ => rfl, fun _ _ => rfl⟩
  shown_deliver _ _ := rfl
  shown_notifyRead _ := rfl
  shown_notifyError _ _ := rfl

/-- 100 ms after the beginning of inventory, an error of the antenna is reported. -/
def failingAntennaStation : Station Diary :=
  Diary.pass 100 antennaErrorFrame (Diary.begun (Diary.started .standard))

/-- The light goes on, inventory ends, and the next inventory switches the light off. -/
theorem errorLight_blinks_once :
    let s := failingAntennaStation
    let t := (s.process Diary.keeping).2
    s.dispatched Diary.keeping = [antennaErrorFrame] ∧
      Diary.lightLog.shown t.surroundings = [true] ∧ t.router.isCollecting = false ∧
      t.router.mode = .idle ∧
      Diary.lightLog.shown ((Diary.sent t).2.beginSchedule Diary.keeping).surroundings =
        [true, false] := by
  intro s t
  obtain ⟨-, -, hall⟩ := errorLight_blinks Diary.lightLog (Diary.outside.mono fun _ _ => And.left)
    .standard Diary.blank
  have hstarted := Diary.episodes_started Diary.lightLog.shields .standard
  have hbegun := Diary.episodes_begun hstarted 10 0 (by decide +kernel) (by decide +kernel)
  have harrived : Episodes Diary.keeping Diary.lightLog.shown _ _ s :=
    Diary.episodes_pass (fun _ _ => rfl) hbegun 100 antennaErrorFrame
  have hframes : s.dispatched Diary.keeping = [antennaErrorFrame] := by decide +kernel
  have herror : s.router.isCollecting && (s.dispatched Diary.keeping).any Frame.isAntennaError := by
    decide +kernel
  obtain ⟨_, -, hbefore⟩ := hall _ _ harrived
  obtain ⟨times, hshown, hafter⟩ := hall _ t harrived.process
  have hon : Diary.lightLog.shown t.surroundings = [true] := by decide +kernel
  have honce : times = 1 := by
    have hlength := congrArg List.length (hshown.symm.trans hon)
    simpa [Light.blinking, Diary.lightLog, Diary.blank] using hlength
  subst honce
  have hqueued : (Diary.sent t).1 = .ok 10 := by decide +kernel
  have hoff := hafter.begin 0 10 (Diary.sent t).2 (Diary.sendTo_eq 10 hqueued)
  rw [hon, if_pos rfl] at hoff
  exact ⟨hframes, hon, hbefore.ended herror, hafter.idle rfl, hoff⟩

end RfidLink
