import RfidLink.Proofs.Agreement
import RfidLink.Proofs.Ledger

/-!
# The busy flag guards a call

Callbacks run in the middle of a call that processes received bytes, and they may ask the router for
anything: to process received bytes as well, to change its mode, to start or stop, to queue a
command and wait for its answer, to take bytes.  The busy flag keeps them out of the loop over
frames.

* `Board.whileBusy` is a board whose callbacks do nothing unless the router is busy.  A call that
  does the same on it runs its callbacks on busy stations only.
* `Board.Matches.run` says that on a busy station an operation does the same on such a board.
* `Ledger.BusyEvent` is what may happen inside a callback then, at whatever depth: the router is
  busy before and after, and to process what was received is skipped.
* `Ledger.Stays` is the step: no operation on a busy station clears the flag or takes a frame.
* **`process_guarded`** is the whole call.
-/

namespace RfidLink

variable {ε : Type} {board other devices : Board ε} {s t : Station ε}

/-! ## Callbacks on busy stations -/

/-- The same board, except that a callback does nothing to a router that is not busy. -/
def Board.whileBusy (board : Board ε) : Board ε :=
  { board with
    deliver := fun text s => if s.router.busy then board.deliver text s else (.ok (), s)
    notifyRead := fun s => if s.router.busy then board.notifyRead s else s
    notifyError := fun isOn s => if s.router.busy then board.notifyError isOn s else s
    notifyRunning := fun isOn s => if s.router.busy then board.notifyRunning isOn s else s
    wait := fun ms s => if s.router.busy then board.wait ms s else s }

lemma Board.whileBusy_devices (board : Board ε) : board.SameDevices board.whileBusy :=
  ⟨rfl, rfl, rfl, rfl, rfl⟩

/-- The two boards match on busy stations. -/
lemma Board.matches_whileBusy
    (hkeep : board.CallbacksAre fun s t => s.router.busy = true → t.router.busy = true) :
    board.Matches (· = true) (fun _ => True) board.whileBusy where
  devices := board.whileBusy_devices
  patience := rfl
  deliver _ _ _ hbusy := if_pos hbusy
  notifyRead _ hbusy := if_pos hbusy
  notifyError _ _ hbusy := if_pos hbusy
  notifyRunning _ _ hbusy := if_pos hbusy
  wait _ _ hbusy := if_pos hbusy
  keep := hkeep

/-- What callbacks do on busy stations, they do on the board that heeds the flag. -/
lemma Board.CallbacksAre.whileBusy {R R' : Station ε → Station ε → Prop}
    (h : board.CallbacksAre R) (hrefl : ∀ s, R' s s)
    (hbusy : ∀ s t, s.router.busy = true → R s t → R' s t) :
    board.whileBusy.CallbacksAre R' := by
  have hguarded (s t : Station ε) (hst : R s t) : R' s (if s.router.busy then t else s) := by
    split
    · rename_i hset
      exact hbusy s t hset hst
    · exact hrefl s
  refine ⟨?_, fun s => hguarded s _ (h.notifyRead s), fun isOn s => hguarded s _ (h.notifyError isOn s),
    fun isOn s => hguarded s _ (h.notifyRunning isOn s), fun ms s => hguarded s _ (h.wait ms s)⟩
  intro text s
  show R' s (if s.router.busy then board.deliver text s else (.ok (), s)).2
  rw [apply_ite Prod.snd]
  exact hguarded s _ (h.deliver text s)

/-! ## Operations on busy stations -/

namespace Station

/-- A call that finds another one at work changes nothing. -/
lemma process_of_busy (hbusy : s.router.busy = true) : s.process board = (.skipped, s) := by
  simp only [process, hbusy, if_true]

/-- Nothing but another call at work makes a call be skipped. -/
lemma process_ne_skipped (board : Board ε) (hidle : s.router.busy = false) :
    (s.process board).1 ≠ .skipped := by
  simp only [process, hidle, Bool.false_eq_true, if_false]
  split <;>
    · intro hskipped
      cases hskipped

end Station

namespace Board.Matches

variable {Q : String → Prop} (h : board.Matches (· = true) Q other)

include h

lemma beginSchedule (hbusy : s.router.busy = true) :
    s.beginSchedule other = s.beginSchedule board := by
  have hnow : s.now other = s.now board := congrFun h.devices.now.symm _
  have hcleared (u : Station ε) (hu : u.router.busy = true) :
      (u.onRouter fun r => { r with errorShown := false }).notify (other.notifyError false) =
        (u.onRouter fun r => { r with errorShown := false }).notify (board.notifyError false) :=
    notify (h.notifyError false) hu
  simp only [Station.beginSchedule, hnow]
  split
  · split
    · exact hcleared _ hbusy
    · rfl
  · split
    · exact hcleared _ hbusy
    · rfl

omit h in
/-- On a busy station a look for an answer looks at the queue and nothing else. -/
lemma look (request : Request) (seen : UInt32) (hbusy : s.router.busy = true) :
    s.look other request seen = s.look board request seen := by
  simp only [Station.look, Station.process_of_busy hbusy]

omit h in
lemma busy_look (request : Request) (seen : UInt32) (hbusy : s.router.busy = true) :
    (s.look board request seen).2.router.busy = true := by
  simp only [Station.look, Station.process_of_busy hbusy]
  split
  · exact hbusy
  · exact hbusy

lemma waitUntil (request : Request) (deadline pause turns : Nat) (seen : UInt32)
    (hbusy : s.router.busy = true) :
    s.waitUntil other request deadline pause turns seen =
      s.waitUntil board request deadline pause turns seen := by
  induction turns generalizing s seen with
  | zero => rfl
  | succ turns ih =>
      have hlooked : (s.look board request seen).2.router.busy = true :=
        busy_look request seen hbusy
      have hsame : s.look other request seen = s.look board request seen :=
        look request seen hbusy
      simp only [Station.waitUntil, hsame]
      rcases hlook : s.look board request seen with ⟨_ | answer, u⟩
      · rw [hlook] at hlooked
        have hnow : u.now other = u.now board := congrFun h.devices.now.symm _
        have hwaited : (board.wait pause u).router.busy = true := h.keep.wait pause u hlooked
        simp only [hnow, h.devices.tell, h.wait pause u hlooked, ih _ hwaited]
      · rfl

lemma ask (address : UInt8) (command : Command) (timeoutMs : UInt32)
    (hbusy : s.router.busy = true) :
    s.ask other address command timeoutMs = s.ask board address command timeoutMs := by
  set request : Request := { address, command := command.code } with hrequest
  set waiting := s.onRouter fun r =>
    { r with answers := Answer.discard request r.answers, awaiting := some request } with hwaiting
  have hsent : (waiting.sendTo board address command).2.router.busy = true :=
    Station.fits_sendTo board (P := (· = true)) address command hbusy
  have hwaited : waiting.sendAndWait other address command timeoutMs =
      waiting.sendAndWait board address command timeoutMs := by
    simp only [Station.sendAndWait, h.devices.sendTo, h.patience]
    rcases hsend : waiting.sendTo board address command with ⟨_ | size, u⟩
    · rfl
    · rw [hsend] at hsent
      have hnow : u.now other = u.now board := congrFun h.devices.now.symm _
      simp only [hnow, h.waitUntil _ _ _ _ _ hsent]
  simp only [Station.ask, ← hrequest, ← hwaiting, hwaited]

/-- **On a busy station every operation is the same.** -/
lemma run (operation : Operation) (hbusy : s.router.busy = true) :
    operation.run other s = operation.run board s := by
  cases operation with
  | start => exact congrArg Prod.snd (h.devices.start s)
  | stop => exact congrArg Prod.snd (h.devices.stop s)
  | process => simp only [Operation.run, Station.process_of_busy hbusy]
  | enterMode mode => exact h.devices.enterMode mode s
  | beginSchedule => exact h.beginSchedule hbusy
  | reportTotals => exact congrArg Prod.snd (h.devices.reportTotals s)
  | send command => exact congrArg Prod.snd (h.devices.sendTo _ command s)
  | sendRaw code args => exact congrArg Prod.snd (h.devices.sendRaw code args s)
  | sendTo address command => exact congrArg Prod.snd (h.devices.sendTo address command s)
  | ask address command timeoutMs => exact congrArg Prod.snd (h.ask address command timeoutMs hbusy)
  | transmit => exact congrArg Prod.snd (h.devices.transmit s)
  | _ => rfl

end Board.Matches

/-! ## What no operation does on a busy station -/

namespace Ledger

section

variable (ledger : Ledger devices)

/-- The frames that were taken from the line so far, in their order. -/
def taken (s : Station ε) : List (List UInt8) := Entry.frames (ledger.history s)

/-- A busy station stays busy, and no frame is taken. -/
def Stays (s t : Station ε) : Prop :=
  s.router.busy = true → t.router.busy = true ∧ ledger.taken t = ledger.taken s

/--
  An operation is carried out on a busy station, or the surroundings change.  The station is busy
  afterwards, and to process what was received is skipped and changes nothing.
-/
inductive BusyEvent (board : Board ε) : Station ε → Station ε → Prop
  | operate {s : Station ε} (operation : Operation) (hbusy : s.router.busy = true)
      (hskipped : s.process board = (.skipped, s))
      (hstays : (ledger.operate board s operation).router.busy = true) :
      BusyEvent board s (ledger.operate board s operation)
  | drift {s : Station ε} (e : ε) (hbusy : s.router.busy = true)
      (h : ledger.entries e = ledger.entries s.surroundings) :
      BusyEvent board s { s with surroundings := e }

end

variable {ledger : Ledger board} {u : Station ε}

lemma Stays.refl (s : Station ε) : ledger.Stays s s := fun hbusy => ⟨hbusy, rfl⟩

lemma Stays.trans (hst : ledger.Stays s t) (htu : ledger.Stays t u) : ledger.Stays s u := by
  intro hbusy
  obtain ⟨hbusy', htaken⟩ := hst hbusy
  obtain ⟨hbusy'', htaken'⟩ := htu hbusy'
  exact ⟨hbusy'', htaken'.trans htaken⟩

/-- Neither the flag nor the surroundings have changed. -/
lemma Stays.of_eq (hbusy : t.router.busy = s.router.busy)
    (hsurroundings : t.surroundings = s.surroundings) : ledger.Stays s t := by
  intro h
  refine ⟨hbusy.trans h, ?_⟩
  rw [taken, taken, history, history, hsurroundings]

lemma taken_tell (remark : Remark) (s : Station ε) :
    ledger.taken (s.tell board remark) = ledger.taken s ++ remark.frame?.toList := by
  rw [taken, history_tell, Entry.frames_append, Entry.frames_cons]
  exact congrArg (ledger.taken s ++ ·) (List.append_nil _)

lemma stays_tell {remark : Remark} (h : remark.frame? = none) (s : Station ε) :
    ledger.Stays s (s.tell board remark) := by
  intro hbusy
  refine ⟨hbusy, ?_⟩
  rw [taken_tell, h, Option.toList_none, List.append_nil]

lemma stays_tellAll {remarks : List Remark} (h : ∀ r ∈ remarks, r.frame? = none) (s : Station ε) :
    ledger.Stays s (s.tellAll board remarks) := by
  induction remarks generalizing s with
  | nil => exact .refl s
  | cons remark rest ih =>
      have hrest : ∀ r ∈ rest, r.frame? = none := fun r hr => h r (List.mem_cons_of_mem _ hr)
      exact (stays_tell (h remark List.mem_cons_self) s).trans (ih hrest _)

lemma stays_resetUnlessBusy (s : Station ε) : ledger.Stays s s.resetUnlessBusy := by
  intro hbusy
  rw [Station.resetUnlessBusy, if_pos hbusy]
  exact ⟨hbusy, rfl⟩

lemma stays_enterMode (mode : Mode) (s : Station ε) :
    ledger.Stays s (s.enterMode board mode) := by
  simp only [Station.enterMode]
  split
  · exact .refl s
  · set noted := s.onRouter fun r => { r with mode, resetPending := true } with hnoted
    have hset : ledger.Stays s noted := .of_eq rfl rfl
    exact (hset.trans (stays_tell rfl noted)).trans (stays_resetUnlessBusy _)

lemma stays_start (s : Station ε) : ledger.Stays s (s.start board).2 := by
  simp only [Station.start]
  split
  · exact .refl s
  · set noted := s.onRouter fun r =>
      { r with running := true, mode := .idle, resetPending := true } with hnoted
    have hset : ledger.Stays s noted := .of_eq rfl rfl
    exact (hset.trans (stays_resetUnlessBusy noted)).trans (stays_tell rfl _)

lemma stays_stop (s : Station ε) : ledger.Stays s (s.stop board).2 := by
  simp only [Station.stop]
  split
  · set noted := s.onRouter fun r => ({ r with running := false } : Router).endSchedule with hnoted
    have hset : ledger.Stays s noted := .of_eq rfl rfl
    exact (hset.trans (stays_enterMode .idle noted)).trans (stays_tell rfl _)
  · exact .refl s

lemma stays_reportTotals (s : Station ε) : ledger.Stays s (s.reportTotals board).2 := by
  refine stays_tellAll ?_ s
  intro remark hremark
  rcases List.mem_cons.mp hremark with rfl | hseen
  · rfl
  · obtain ⟨_, _, rfl⟩ := List.mem_map.mp hseen
    rfl

lemma stays_endOnlyRound (s : Station ε) : ledger.Stays s (s.endOnlyRound board) := by
  have hended : ledger.Stays s s.endSchedule := .of_eq rfl rfl
  exact (hended.trans (stays_reportTotals _)).trans (stays_enterMode .idle _)

lemma stays_sendTo (address : UInt8) (command : Command) (s : Station ε) :
    ledger.Stays s (s.sendTo board address command).2 := by
  have hinterrupted : ledger.Stays s (s.interrupted board) := by
    intro hbusy
    rw [taken, history, ledger.spares_entries.interrupted, Station.router_interrupted]
    exact ⟨hbusy, rfl⟩
  obtain ⟨-, h⟩ | ⟨_, -, -, h⟩ | ⟨frame, -, -, -, h⟩ | ⟨frame, -, -, -, h⟩ :=
    Station.sendTo_cases board address command s
  · rw [h]; exact .refl s
  · rw [h]; exact .refl s
  · rw [h]
    have hqueued : ledger.Stays (s.interrupted board)
        ((s.interrupted board).enqueueAll board frame) := by
      intro hbusy
      rw [taken, history, ledger.spares_entries.enqueueAll, Station.router_enqueueAll]
      exact ⟨hbusy, rfl⟩
    exact (hinterrupted.trans hqueued).trans (stays_tell rfl _)
  · rw [h]
    have hrefused : ledger.Stays (s.interrupted board) ((s.interrupted board).refuse frame) :=
      .of_eq rfl rfl
    exact (hinterrupted.trans hrefused).trans (stays_tell rfl _)

lemma busy_of_receiving (h : t.router.receiving = s.router.receiving) :
    t.router.busy = s.router.busy := congrArg (·.2.2) h

end Ledger

namespace Station

variable {ledger : Ledger board}

/-- No deed clears the flag of a busy station or takes a frame, if no callback does. -/
lemma Deed.stays (hboard : board.CallbacksAre ledger.Stays) (h : Deed board s t) :
    ledger.Stays s t := by
  cases h with
  | tell remark haside => exact Ledger.stays_tell (Remark.of_isAside haside).1 s
  | note f hf => exact .of_eq (Ledger.busy_of_receiving (congrArg (·.2.1) (hf s.router))) rfl
  | deliver text => exact hboard.deliver text s
  | notifyRead => exact hboard.notifyRead s
  | notifyError isOn => exact hboard.notifyError isOn s
  | sendTo address command => exact Ledger.stays_sendTo address command s
  | reschedule f _ _ _ => exact .of_eq rfl rfl
  | endInventory =>
      have hended : ledger.Stays s s.endSchedule := .of_eq rfl rfl
      exact hended.trans (Ledger.stays_enterMode .idle _)
  | endOnlyRound => exact Ledger.stays_endOnlyRound s

lemma Deeds.stays (hboard : board.CallbacksAre ledger.Stays) (h : s.Deeds board t) :
    ledger.Stays s t := by
  induction h with
  | refl => exact .refl s
  | tail _ hstep ih => exact ih.trans (hstep.stays hboard)

lemma stays_beginSchedule (hboard : board.CallbacksAre ledger.Stays) (s : Station ε) :
    ledger.Stays s (s.beginSchedule board) := by
  set opened := s.onRouter fun r => { r with schedule := .opened s.router.config (s.now board) }
    with hopened
  have hset : ledger.Stays s opened := .of_eq rfl rfl
  have hcounted : ledger.Stays opened
      (opened.count fun c => { c with roundsStarted := c.roundsStarted + 1 }) := .of_eq rfl rfl
  simp only [beginSchedule, ← hopened]
  split
  · exact (hset.trans hcounted).trans ((uses_takeBackError _).deeds.stays hboard)
  · exact hset.trans ((uses_takeBackError _).deeds.stays hboard)

/-- No task clears the flag of a busy station or takes a frame: to process is skipped. -/
lemma Task.stays (hboard : board.CallbacksAre ledger.Stays) {occasions : List (Occasion ε)}
    (h : Task board s occasions t) : ledger.Stays s t := by
  cases h with
  | tell remark haside => exact Ledger.stays_tell (Remark.of_isAside haside).1 s
  | setAddress address => exact .of_eq rfl rfl
  | forgetTags => exact .of_eq rfl rfl
  | forget answers awaiting _ => exact .of_eq rfl rfl
  | resetStatistics => exact .of_eq rfl rfl
  | takeOverrun => exact .of_eq rfl rfl
  | sendTo address command => exact Ledger.stays_sendTo address command s
  | process =>
      intro hbusy
      rw [process_of_busy hbusy]
      exact ⟨hbusy, rfl⟩
  | transmit =>
      intro hbusy
      rw [Ledger.taken, Ledger.history, ledger.spares_entries.transmit]
      exact ⟨hbusy, rfl⟩
  | notifyRunning isOn => exact hboard.notifyRunning isOn s
  | wait ms => exact hboard.wait ms s
  | start => exact Ledger.stays_start s
  | stop => exact Ledger.stays_stop s
  | @begin t address size hsent =>
      have hsending : ledger.Stays s _ := (Ledger.stays_enterMode .inventory s).trans
        (Ledger.stays_sendTo address s.router.config.strategy.openingCommand _)
      rw [hsent] at hsending
      exact hsending.trans (stays_beginSchedule hboard t)
  | beginRefused address _ =>
      have hsending : ledger.Stays s _ := (Ledger.stays_enterMode .inventory s).trans
        (Ledger.stays_sendTo address s.router.config.strategy.openingCommand _)
      exact hsending.trans (Ledger.stays_enterMode .idle _)
  | endSending address =>
      have hended : ledger.Stays s s.endSchedule := .of_eq rfl rfl
      have hsending := (hended.trans (Ledger.stays_reportTotals _)).trans
        (Ledger.stays_sendTo address s.router.config.strategy.closingCommand _)
      exact hsending.trans (Ledger.stays_enterMode .idle _)

lemma Steps.stays (hboard : board.CallbacksAre ledger.Stays) {occasions : List (Occasion ε)}
    (h : s.TasksOn board occasions t) : ledger.Stays s t := by
  induction h with
  | refl => exact .refl s
  | tail _ hstep ih => exact ih.trans (hstep.stays hboard)

end Station

namespace Ledger

variable {ledger : Ledger board}

/-- **No operation clears the flag of a busy station or takes a frame.** -/
lemma stays_operate (hboard : board.CallbacksAre ledger.Stays) (operation : Operation)
    (s : Station ε) : ledger.Stays s (ledger.operate board s operation) := by
  cases harrival : operation.isArrival with
  | true =>
      cases operation with
      | receive bytes =>
          intro hbusy
          refine ⟨hbusy, ?_⟩
          show Entry.frames (ledger.entries (ledger.arrive _ _ _)) = _
          rw [ledger.entries_arrive, Entry.frames_append]
          exact List.append_nil _
      | _ => cases harrival
  | false =>
      rw [ledger.operate_eq_run harrival]
      cases hraw : operation.isRaw with
      | true =>
          cases operation with
          | enterMode mode => exact stays_enterMode mode s
          | beginSchedule => exact Station.stays_beginSchedule hboard s
          | endSchedule => exact .of_eq rfl rfl
          | _ => cases hraw
      | false =>
          cases hconfiguring : operation.isConfiguring with
          | false => exact (Operation.own_tasks hraw harrival hconfiguring s).stays hboard
          | true =>
              cases operation with
              | setConfig | setDebounceSeconds => exact .of_eq rfl rfl
              | _ => cases hconfiguring

lemma stays_drift {e : ε} (h : ledger.entries e = ledger.entries s.surroundings) :
    ledger.Stays s { s with surroundings := e } := by
  intro hbusy
  refine ⟨hbusy, ?_⟩
  rw [taken, taken, history, history, h]

/-- Callbacks that run operations do what operations do, however they nest. -/
lemma stays_of_nestsBy {ledger : Ledger devices} (hdevices : board.SameDevices devices)
    (h : board.NestsBy ledger.Event) : board.CallbacksAre ledger.Stays := by
  refine h.callbacks_are .refl (fun _ _ _ => .trans) ?_ hdevices
  intro inner hinner hstays s t hevent
  cases hevent with
  | operate operation =>
      have hoperated : (ledger.onto hinner).Stays s
          ((ledger.onto hinner).operate inner s operation) := stays_operate hstays operation s
      exact hoperated
  | drift e he =>
      have hdrifted : (ledger.onto hinner).Stays s { s with surroundings := e } := stays_drift he
      exact hdrifted

/-! ## What happens inside callbacks -/

/-- On a busy station an event is one on the board that heeds the flag, and it stays busy. -/
lemma Event.busyEvent {ledger : Ledger devices} (hdevices : board.SameDevices devices)
    (hstays : board.CallbacksAre ledger.Stays) (hbusy : s.router.busy = true)
    (h : ledger.Event board s t) :
    ledger.BusyEvent board.whileBusy s t ∧ t.router.busy = true := by
  have hkeep : board.CallbacksAre fun s t => s.router.busy = true → t.router.busy = true :=
    hstays.mono fun _ _ h hbusy => (h hbusy).1
  cases h with
  | operate operation =>
      have hstayed : ((ledger.onto hdevices).operate board s operation).router.busy = true :=
        (stays_operate hstays operation s hbusy).1
      have hsame : ledger.operate board.whileBusy s operation =
          ledger.operate board s operation := by
        cases harrival : operation.isArrival with
        | true =>
            cases operation with
            | receive bytes => rfl
            | _ => cases harrival
        | false =>
            rw [ledger.operate_eq_run harrival, ledger.operate_eq_run harrival]
            exact (Board.matches_whileBusy hkeep).run operation hbusy
      refine ⟨?_, hstayed⟩
      rw [← hsame]
      exact .operate operation hbusy (Station.process_of_busy hbusy)
        ((congrArg (·.router.busy) hsame).trans hstayed)
  | drift e he => exact ⟨.drift e hbusy he, hbusy⟩

lemma Event.busyEvents {ledger : Ledger devices} (hdevices : board.SameDevices devices)
    (hstays : board.CallbacksAre ledger.Stays) (hbusy : s.router.busy = true)
    (h : Relation.ReflTransGen (ledger.Event board) s t) :
    Relation.ReflTransGen (ledger.BusyEvent board.whileBusy) s t ∧ t.router.busy = true := by
  induction h with
  | refl => exact ⟨.refl, hbusy⟩
  | tail _ hevent ih =>
      obtain ⟨hnext, hstayed⟩ := hevent.busyEvent hdevices hstays ih.2
      exact ⟨ih.1.tail hnext, hstayed⟩

/-- **Whatever callbacks do on busy stations**, at any depth, consists of such events. -/
theorem nestsBy_whileBusy {ledger : Ledger devices} (hdevices : board.SameDevices devices)
    (h : board.NestsBy ledger.Event) : board.whileBusy.NestsBy ledger.BusyEvent := by
  induction h with
  | @intro board inner hsame hinner hcalls ih =>
      refine .intro (fun b => ∃ b', inner b' ∧ b = b'.whileBusy) ?_ ?_ ?_
      · rintro _ ⟨b, hb, rfl⟩
        have hb' := hsame b hb
        exact ⟨hb'.now, hb'.settings, hb'.write, hb'.emit, hb'.interrupts⟩
      · rintro _ ⟨b, hb, rfl⟩
        exact ih b hb ((hsame b hb).trans hdevices)
      · refine hcalls.whileBusy (fun _ => .inl rfl) ?_
        rintro s t hbusy (rfl | ⟨b, hb, hevents⟩)
        · exact .inl rfl
        · have hdevices' : b.SameDevices devices := (hsame b hb).trans hdevices
          have hstays : b.CallbacksAre ledger.Stays := stays_of_nestsBy hdevices' (hinner b hb)
          exact .inr ⟨b.whileBusy, ⟨b, hb, rfl⟩,
            (Event.busyEvents hdevices' hstays hbusy hevents).1⟩

/-! ## The loop over frames -/

variable {ledger : Ledger board}

/-- Acting on a frame takes it, once, and callbacks take no other. -/
lemma taken_acceptFrame (hboard : board.CallbacksAre ledger.Stays) (now : Nat) (frame : List UInt8)
    (hbusy : s.router.busy = true) :
    (s.acceptFrame board now frame).router.busy = true ∧
      ledger.taken (s.acceptFrame board now frame) = ledger.taken s ++ [frame] := by
  obtain ⟨router, remark, hregisters, hremark, hdeeds⟩ :=
    Station.exists_registers board now frame s
  have hregistered : ((s.onRouter fun _ => router).tell board remark).router.busy = true :=
    (busy_of_receiving (s := s) hregisters.receiving).trans hbusy
  obtain ⟨hbusy', htaken⟩ := hdeeds.stays hboard hregistered
  refine ⟨hbusy', ?_⟩
  rw [htaken, taken_tell, hremark]
  rfl

lemma stays_pullFrame (now : Nat) (s : Station ε) : ledger.Stays s (s.pullFrame board now).2 := by
  intro hbusy
  obtain ⟨remarks, hasides, hhistory⟩ := ledger.history_pullFrame now s
  refine ⟨Station.fits_pullFrame (P := (· = true)) board now hbusy, ?_⟩
  have hnone : Entry.frames (remarks.map .told) = [] := by
    rw [Entry.frames, List.filterMap_map, List.filterMap_eq_nil_iff]
    exact fun r hr => (hasides r hr).1
  rw [taken, hhistory, Entry.frames_append, hnone, List.append_nil]
  rfl

lemma stays_performReset (s : Station ε) : ledger.Stays s s.performReset := by
  obtain ⟨_, hrouter⟩ := Station.router_performReset s
  refine .of_eq ?_ ?_
  · rw [hrouter]
  · simp only [Station.performReset]
    split <;> rfl

/-- **The loop takes the frames that it acts on**, each once and in their order. -/
lemma taken_acceptFrames (hboard : board.CallbacksAre ledger.Stays) (now turns : Nat)
    (hbusy : s.router.busy = true) :
    (s.acceptFrames board now turns).2.router.busy = true ∧
      ledger.taken (s.acceptFrames board now turns).2 =
        ledger.taken s ++ (s.acceptFrames board now turns).1 := by
  induction turns generalizing s with
  | zero => exact ⟨hbusy, (List.append_nil _).symm⟩
  | succ turns ih =>
      have hsearched : ledger.Stays s (s.pullFrame board now).2 := stays_pullFrame now s
      obtain ⟨hpulled, htaken⟩ := hsearched hbusy
      rcases hpull : s.pullFrame board now with ⟨_ | frame, pulled⟩
      · rw [hpull] at hpulled htaken
        simp only [Station.acceptFrames, hpull, List.append_nil]
        exact ⟨hpulled, htaken⟩
      · rw [hpull] at hpulled htaken
        obtain ⟨haccepted, hframe⟩ := taken_acceptFrame hboard now frame hpulled
        have hperformed : ledger.Stays _ (pulled.acceptFrame board now frame).performReset :=
          stays_performReset _
        obtain ⟨hreset, hkept⟩ := hperformed haccepted
        obtain ⟨hdone, hframes⟩ := ih hreset
        simp only [Station.acceptFrames, hpull]
        refine ⟨hdone, ?_⟩
        rw [hframes, hkept, hframe, htaken, List.append_assoc]
        rfl

lemma stays_discardAfterOverrun (s : Station ε) :
    ledger.Stays s (s.discardAfterOverrun board) := by
  have htaken : ledger.Stays s { s with line := s.line.takeOverrun.2 } := .of_eq rfl rfl
  simp only [Station.discardAfterOverrun]
  split
  · set told := ({ s with line := s.line.takeOverrun.2 } : Station ε).tell board .overrun with htold
    have hreset : ledger.Stays told
        (told.onRouter fun r => { r with collector := r.collector.reset }) := .of_eq rfl rfl
    exact (htaken.trans (stays_tell rfl _)).trans hreset
  · exact htaken

/-- **A call takes the frames that it acts on**, each once and in their order. -/
lemma taken_processReceived (hboard : board.CallbacksAre ledger.Stays)
    (hbusy : s.router.busy = true) :
    ledger.taken (s.processReceived board).2 = ledger.taken s ++ (s.processReceived board).1 := by
  have hcleared : ledger.Stays s (s.discardAfterOverrun board).performReset :=
    (stays_discardAfterOverrun s).trans (stays_performReset _)
  obtain ⟨hready, hkept⟩ := hcleared hbusy
  obtain ⟨haccepted, hframes⟩ := taken_acceptFrames hboard (s.now board)
    ((s.discardAfterOverrun board).performReset.frameTurns board) hready
  obtain ⟨-, hscheduled⟩ := (Station.deeds_keepSchedule board (s.now board) _).stays hboard haccepted
  simp only [Station.processReceived]
  rw [hscheduled, hframes, hkept]

end Ledger

/--
  **The busy flag guards a call.**  Take a router that runs and is not busy, and callbacks that do
  whatever operations can do, any number of times and nested to any depth.

  * The call runs its callbacks on busy stations only; there, to process received bytes is skipped
    and changes nothing, and no operation clears the flag.
  * The frames that are written down while it lasts are those that it takes from the collector, each
    once, and they come one behind the other in the bytes that were in hand or arrived.
  * Afterwards nobody is at work, so no later call is skipped because of this one.
-/
theorem process_guarded {ledger : Ledger board} (hboard : ledger.Nests board)
    (hrunning : s.router.running = true) (hidle : s.router.busy = false) :
    (s.process board.whileBusy = s.process board ∧
      board.whileBusy.NestsBy ledger.BusyEvent) ∧
    (∃ new, ledger.history (s.process board).2 = ledger.history s ++ new ∧
      Entry.frames new = s.dispatched board ∧
      Frame.Carved (s.dispatched board) (s.unread ++ Entry.bytes new)) ∧
    (s.process board).1 = .processed (s.dispatched board).length ∧
    (s.process board).2.router.busy = false ∧
    ∀ other : Board ε, ((s.process board).2.process other).1 ≠ .skipped := by
  have hstays : board.CallbacksAre ledger.Stays := Ledger.stays_of_nestsBy (.refl board) hboard
  have hkeep : board.CallbacksAre fun s t => s.router.busy = true → t.router.busy = true :=
    hstays.mono fun _ _ h hbusy => (h hbusy).1
  set begun := s.onRouter fun r => { r with busy := true } with hbegun
  have hdispatched : s.dispatched board = (begun.processReceived board).1 := by
    simp only [Station.dispatched, hidle, hrunning, Bool.not_true, Bool.or_false,
      Bool.false_eq_true, if_false, ← hbegun]
  have hprocess : s.process board = (.processed (s.dispatched board).length,
      (begun.processReceived board).2.onRouter fun r => { r with busy := false }) := by
    rw [hdispatched]
    simp only [Station.process, hidle, hrunning, Bool.not_true, Bool.false_eq_true, if_false,
      ← hbegun]
  have hdone : (s.process board).2.router.busy = false := by
    rw [hprocess]
    rfl
  refine ⟨⟨?_, ?_⟩, ?_, congrArg Prod.fst hprocess, hdone, fun other =>
    Station.process_ne_skipped other hdone⟩
  · exact (Board.matches_whileBusy hkeep).process rfl fun _ _ _ _ _ _ _ => trivial
  · exact Ledger.nestsBy_whileBusy (.refl board) hboard
  · obtain ⟨new, hhistory, hfollows⟩ :=
      (Station.moves_process s).passes hboard.passes
    have htaken := Ledger.taken_processReceived hstays (s := begun) rfl
    have hframes : Entry.frames new = s.dispatched board := by
      have hall : ledger.taken (s.process board).2 = ledger.taken s ++ Entry.frames new := by
        rw [Ledger.taken, hhistory, Entry.frames_append]
        rfl
      rw [hprocess] at hall
      rw [hdispatched]
      exact List.append_cancel_left (hall.symm.trans htaken)
    refine ⟨new, hhistory, hframes, ?_⟩
    rw [← hframes]
    exact hfollows.reading.frames_carved

/-! ## A consumer that processes -/

/--
  A board on which whoever gets a tag processes what was received, and a byte arrives in the
  meantime.
-/
def Board.grabbing : Board (List Entry) :=
  { Board.chronicle with
    deliver := fun _ s =>
      (.ok (), Ledger.chronicle.receive [0x05] (s.process .chronicle).2) }

def Ledger.grabbing : Ledger .grabbing := Ledger.chronicle.onto ⟨rfl, rfl, rfl, rfl, rfl⟩

lemma Ledger.nests_grabbing : Ledger.grabbing.Nests .grabbing := by
  refine .of_inner (Board.nestsBy_chronicle _) ⟨rfl, rfl, rfl, rfl, rfl⟩ ⟨?_, ?_, ?_, ?_, ?_⟩
  · intro _ s
    have hprocessed : Ledger.grabbing.Event .chronicle s (s.process .chronicle).2 :=
      .operate .process
    exact .inr (.tail (.single hprocessed) (.operate (.receive [0x05])))
  · intro s
    exact .inl rfl
  · intro _ s
    exact .inl rfl
  · intro _ s
    exact .inl rfl
  · intro _ s
    exact .inl rfl

/--
  Two frames have arrived.  The consumer of the tag in the first cannot take the second away, which
  the call acts on itself.
-/
theorem process_guarded_grabbing :
    let frames := [Frame.ofBody [0x00, 0xEE, 0x00, 0x01, 0x02, 0xAA, 0xBB, 0x50],
      Frame.ofBody [0x00, 0x24, 0x00]]
    let ready := Station.fresh .standard ([] : List Entry)
    let s : Station (List Entry) :=
      { ready with
        router := { ready.router with running := true, mode := .inventory }
        line := { ready.line with inbound := frames.flatten } }
    s.router.running = true ∧ s.router.busy = false ∧ s.dispatched .grabbing = frames ∧
      Entry.frames (s.process .grabbing).2.surroundings = frames ∧
      (s.process .grabbing).1 = .processed 2 ∧
      ((s.process .grabbing).2.process .grabbing).1 ≠ .skipped := by
  intro frames ready s
  have hrunning : s.router.running = true := rfl
  have hidle : s.router.busy = false := rfl
  have hdispatched : s.dispatched .grabbing = frames := by decide +kernel
  obtain ⟨-, ⟨new, hhistory, hnew, -⟩, houtcome, -, hnext⟩ :=
    process_guarded Ledger.nests_grabbing hrunning hidle
  have hread (u : Station (List Entry)) : Ledger.grabbing.history u = u.surroundings := rfl
  have hempty : s.surroundings = [] := rfl
  rw [hread, hread, hempty, List.nil_append] at hhistory
  refine ⟨hrunning, hidle, hdispatched, ?_, ?_, hnext .grabbing⟩
  · rw [hhistory, hnew, hdispatched]
  · rw [houtcome, hdispatched]
    rfl

end RfidLink
