import RfidLink.Proofs.Alike
import RfidLink.Proofs.Feeding
import RfidLink.Proofs.HeldBack

/-!
# Who notices a reset

The counters may be reset at any time, by whoever looks at them.  Take two runs that differ in
nothing but resets: somebody resets in one of them, between two actions or from a callback, and in
the other one nobody does.

* `Board.Twins` relates the boards of two such runs.  Their callbacks do the same, and may reset in
  addition, as long as nobody waits for an answer.
* `Session.TwinRuns` are the runs themselves, with the replies to every action in both of them.

**`replies_eq_of_twins`** says that nothing but the counters tells the runs apart.  The proof is a
walk through the functions of a session, each of which keeps sessions alike; for the functions of
the router this has been done before.

A reset while an answer is awaited is another matter.  Whoever waits takes notice of frames by a
change in their count, and a reset can undo the change: `ask_overlooks_after_reset` are two calls to
which the same answer arrives, and one of them overlooks it.  There is no other way for a reset
to matter: `ask_eq_of_attentive` allows resets at any time, and says that two calls which overlook
nothing answer the same.
-/

namespace RfidLink

variable {ε α : Type} {board other : Board ε}

/-! ## Replies -/

/-- What an operation or an action answers. -/
inductive Reply where
  | done
  | outcome (outcome : Outcome)
  | totals (totals : ReadTotals)
  | overrun (isLost : Bool)
  | bytes (number : Nat)
  | result (result : Except OperationError Unit)
  | queued (result : Except OperationError Nat)
  | answer (result : Except OperationError Answer)
  | stopped (result : Except OperationError ReadTotals)
  | toggled (result : Except OperationError Bool)

/-- What an operation answers to whoever asked for it. -/
def Operation.reply (board : Board ε) (s : Station ε) : Operation → Reply
  | start => .result (s.start board).1
  | stop => .result (s.stop board).1
  | process => .outcome (s.process board).1
  | reportTotals => .totals (s.reportTotals board).1
  | takeOverrun => .overrun s.line.takeOverrun.1
  | send command => .queued (s.send board command).1
  | sendRaw code args => .queued (s.sendRaw board code args).1
  | sendTo address command => .queued (s.sendTo board address command).1
  | ask address command timeoutMs => .answer (s.ask board address command timeoutMs).1
  | receive bytes => .bytes (s.line.receive bytes).1
  | transmit => .bytes (s.transmit board).1
  | enterMode _ | beginSchedule | endSchedule | setConfig _ | setDebounceSeconds _
  | setAddress _ | forgetTags | resetStatistics => .done

def Action.reply (board : Board ε) (s : Session ε) : Action → Reply
  | onRouter operation => operation.reply board s.station
  | connect => .result (s.connect board).1
  | startInventory => .result (s.startInventory board).1
  | stopInventory => .stopped (s.stopInventory board).1
  | toggleInventory => .toggled (s.toggleInventory board).1
  | command c => .answer (s.command board c).1
  | poll => .outcome (s.poll board).1

/-! ## Operations on alike stations -/

/--
  Whether an operation disturbs whoever waits for an answer: it resets the count by which frames are
  noticed, or begins to wait in its stead.
-/
def Operation.disturbs : Operation → Bool
  | resetStatistics | ask .. => true
  | _ => false

/--
  One thing that happens to two stations: the same operation on both, the same change of their
  surroundings, or a reset of one of them.  While an answer is awaited nothing disturbs who waits.
-/
inductive Station.TwinEvent (board other : Board ε) :
    Station ε × Station ε → Station ε × Station ε → Prop
  | operate {s t} (operation : Operation)
      (h : s.router.awaiting = none ∨ operation.disturbs = false) :
      TwinEvent board other (s, t) (operation.run board s, operation.run other t)
  | drift {s t} (e : ε) :
      TwinEvent board other (s, t) ({ s with surroundings := e }, { t with surroundings := e })
  | resetFirst {s t} (h : s.router.awaiting = none) :
      TwinEvent board other (s, t) (s.resetStatistics, t)
  | resetSecond {s t} (h : s.router.awaiting = none) :
      TwinEvent board other (s, t) (s, t.resetStatistics)

namespace Station

variable {gap : Option UInt32} {s t : Station ε}

lemma Concur.map {β : Type} (f : α → β) {p q : α × Station ε} (h : Concur gap p q) :
    Concur gap (f p.1, p.2) (f q.1, q.2) := by
  obtain ⟨result, s, t, rfl, rfl, h⟩ := h
  exact .of_alike (f result) h

/-- **Every operation answers the same to alike stations and keeps them alike.** -/
lemma Alike.operate (h : s.Alike gap t) (hboard : board.Agrees other) (operation : Operation)
    (hoperation : gap = none ∨ operation.disturbs = false) :
    Concur gap (operation.reply board s, operation.run board s)
      (operation.reply other t, operation.run other t) := by
  have hdevices := hboard.devices
  cases operation with
  | start => exact (h.start hdevices).map Reply.result
  | stop => exact (h.stop hdevices).map Reply.result
  | process => exact (h.process (hboard gap)).map Reply.outcome
  | enterMode mode => exact .of_alike Reply.done (h.enterMode hdevices mode)
  | beginSchedule => exact .of_alike Reply.done (h.beginSchedule (hboard gap))
  | endSchedule => exact .of_alike Reply.done h.endSchedule
  | setConfig config =>
      exact .of_alike Reply.done (h.onRouter (·.setConfig config) (fun _ _ => rfl) fun _ => rfl)
  | setDebounceSeconds seconds =>
      exact .of_alike Reply.done
        (h.onRouter (·.setDebounceSeconds seconds) (fun _ _ => rfl) fun _ => rfl)
  | setAddress address =>
      exact .of_alike Reply.done (h.onRouter (·.setAddress address) (fun _ _ => rfl) fun _ => rfl)
  | forgetTags =>
      exact .of_alike Reply.done (h.onRouter (·.forgetTags) (fun _ _ => rfl) fun _ => rfl)
  | reportTotals => exact (h.reportTotals hdevices).map Reply.totals
  | resetStatistics =>
      obtain rfl : gap = none := hoperation.resolve_right (by decide)
      exact .of_alike Reply.done h.resetLeft.resetRight
  | takeOverrun =>
      have hoverrun : t.line.overrun = s.line.overrun := h.reads (·.line.overrun) fun _ => rfl
      have htaken := h.onLine (·.takeOverrun.2) fun _ => rfl
      exact ⟨.overrun s.line.overrun, _, _, rfl, by rw [← hoverrun]; rfl, htaken⟩
  | send command => exact (h.send hdevices command).map Reply.queued
  | sendRaw code args => exact (h.sendRaw hdevices code args).map Reply.queued
  | sendTo address command => exact (h.sendTo hdevices address command).map Reply.queued
  | ask address command timeoutMs =>
      obtain rfl : gap = none := hoperation.resolve_right nofun
      exact (h.ask hboard address command timeoutMs).map Reply.answer
  | receive bytes =>
      have hkept : (t.line.receive bytes).1 = (s.line.receive bytes).1 :=
        h.reads (fun s => (s.line.receive bytes).1) fun _ => rfl
      exact ⟨.bytes (s.line.receive bytes).1, _, _, rfl, by rw [← hkept]; rfl, h.receive bytes⟩
  | transmit => exact (h.transmit hdevices).map Reply.bytes

lemma Alike.gap_eq_none (h : s.Alike gap t) (hnone : s.router.awaiting = none) : gap = none := by
  cases gap with
  | none => rfl
  | some k => simpa [hnone] using h.awaited rfl

lemma TwinEvent.alike {p q : Station ε × Station ε} (hboard : board.Agrees other)
    (h : TwinEvent board other p q) (hp : p.1.Alike gap p.2) : q.1.Alike gap q.2 := by
  cases h with
  | operate operation h => exact (hp.operate hboard operation (h.imp_left hp.gap_eq_none)).alike
  | drift e => exact hp.drift e
  | resetFirst h =>
      obtain rfl := hp.gap_eq_none h
      exact hp.resetLeft
  | resetSecond h =>
      obtain rfl := hp.gap_eq_none h
      exact hp.resetRight

end Station

/--
  The callbacks of two boards do the same, except for resets.  A callback comes back, and until then
  nothing happens but what may happen to two stations at once, on `inner` boards for which the same
  holds.
-/
inductive Board.Twins : Board ε → Board ε → Prop
  | intro {board other : Board ε} (inner : Board ε → Board ε → Prop)
      (hinner : ∀ b c, inner b c → Twins b c)
      (hcalls : board.Parallel other fun p q =>
        q = p ∨ ∃ b c, inner b c ∧ Relation.ReflTransGen (Station.TwinEvent b c) p q) :
      Twins board other

/-- Callbacks that do the same but for resets keep stations alike. -/
lemma Board.Twins.agrees (h : board.Twins other) : board.Agrees other := by
  induction h with
  | intro inner _ hcalls ih =>
      intro gap
      refine hcalls.mono ?_
      rintro p q (rfl | ⟨b, c, hbc, hevents⟩) hp
      · exact hp
      · induction hevents with
        | refl => exact hp
        | tail _ hevent ih' => exact hevent.alike (ih b c hbc) ih'

/-! ## Sessions -/

namespace Session

/-- Two sessions that differ in their counters only. -/
structure Alike (s t : Session ε) : Prop where
  connected : t.connected = s.connected
  address : t.address = s.address
  running : t.running = s.running
  station : s.station.Alike none t.station

/-- Two calls with the same result that leave sessions alike. -/
def Concur (p q : α × Session ε) : Prop :=
  ∃ result s t, p = (result, s) ∧ q = (result, t) ∧ s.Alike t

variable {s t : Session ε}

lemma Alike.refl (s : Session ε) : s.Alike s := ⟨rfl, rfl, rfl, .refl s.station⟩

lemma Concur.of_alike (result : α) (h : s.Alike t) : Concur (result, s) (result, t) :=
  ⟨result, s, t, rfl, rfl, h⟩

lemma Concur.alike {p q : α × Session ε} (h : Concur p q) : p.2.Alike q.2 := by
  obtain ⟨_, _, _, rfl, rfl, h⟩ := h
  exact h

lemma Concur.result {p q : α × Session ε} (h : Concur p q) : p.1 = q.1 := by
  obtain ⟨_, _, _, rfl, rfl, _⟩ := h
  rfl

lemma Concur.map {β : Type} (f : α → β) {p q : α × Session ε} (h : Concur p q) :
    Concur (f p.1, p.2) (f q.1, q.2) := by
  obtain ⟨result, s, t, rfl, rfl, h⟩ := h
  exact .of_alike (f result) h

lemma Alike.withStation (h : s.Alike t) {s' t' : Station ε} (h' : s'.Alike none t') :
    ({ s with station := s' } : Session ε).Alike { t with station := t' } :=
  ⟨h.connected, h.address, h.running, h'⟩

variable (hboard : board.Agrees other)

include hboard

lemma Alike.tell (h : s.Alike t) (remark : Remark) :
    (s.tell board remark).Alike (t.tell other remark) :=
  h.withStation (h.station.tell hboard.devices remark)

lemma Alike.settings (h : s.Alike t) : t.settings other = s.settings board := by
  rw [Session.settings, Session.settings, h.station.surroundings, hboard.devices.settings]

/-! ### Handshake -/

lemma Alike.ask (h : s.Alike t) (address : UInt8) (command : Command) :
    Concur (s.ask board address command) (t.ask other address command) := by
  obtain ⟨answer, s', t', hs, ht, h'⟩ :=
    h.station.ask hboard address command s.station.router.config.responseTimeoutMs
  simp only [Session.ask, h.station.config, hs, ht]
  exact .of_alike _ (h.withStation h')

lemma Alike.step (h : s.Alike t) (address : UInt8) (command : Command) :
    Concur (s.step board address command) (t.step other address command) := by
  obtain ⟨result, s', t', hs, ht, h'⟩ := h.ask hboard address command
  rw [Session.step, Session.step, hs, ht]
  cases result with
  | ok answer =>
      dsimp only
      split
      · exact .of_alike _ h'
      · exact .of_alike _ (h'.tell hboard _)
  | error cause =>
      cases cause with
      | timeout | notRunning | noRoom => exact .of_alike _ h'
      | alreadyRunning | badCommand | notConnected | handshakeFailed | rejected =>
          exact .of_alike _ (h'.tell hboard _)

lemma Alike.sendSetting (h : s.Alike t) (command : Command) :
    (s.sendSetting board command).Alike (t.sendSetting other command) := by
  obtain ⟨answer, s', t', hs, ht, h'⟩ := h.ask hboard s.address command
  simp only [Session.sendSetting, h.address, hs, ht]
  split
  · exact h'
  · exact h'.tell hboard _

lemma Alike.sendSettings (h : s.Alike t) :
    (s.sendSettings board).Alike (t.sendSettings other) := by
  have hchecked := h.sendSetting hboard (.setAntennaCheck false)
  simp only [Session.sendSettings, hchecked.settings hboard]
  have hpowered := hchecked.sendSetting hboard
    (.modifyRfPower ((s.sendSetting board (.setAntennaCheck false)).settings board).rfPower)
  rw [hpowered.settings hboard]
  split
  · exact hpowered
  · exact hpowered.sendSetting hboard _

lemma Alike.chooseReader (h : s.Alike t) (configured : UInt8) (toAll toOne : Option Answer) :
    (s.chooseReader board configured toAll toOne).Alike
      (t.chooseReader other configured toAll toOne) := by
  cases toOne <;> cases toAll <;>
    exact ⟨h.connected, rfl, h.running, by first
      | exact h.station
      | exact h.station.tell hboard.devices _⟩

omit hboard in
lemma Alike.useReader (h : s.Alike t) :
    (s.onStation (·.onRouter (·.setAddress s.address))).Alike
      (t.onStation (·.onRouter (·.setAddress t.address))) := by
  simp only [h.address]
  exact h.withStation (h.station.onRouter (·.setAddress s.address) (fun _ _ => rfl) fun _ => rfl)

lemma Alike.settle (h : s.Alike t) (workMode : UInt8) (hasAnswered : Bool) :
    Concur (s.settle board workMode hasAnswered) (t.settle other workMode hasAnswered) := by
  obtain ⟨stopped, s', t', hs, ht, h'⟩ := h.step hboard s.address .stopImmediately
  simp only [Session.settle, h.address, hs, ht]
  cases stopped with
  | error cause => exact .of_alike _ h'
  | ok stopped =>
      have htold : (if stopped.isNone then s'.tell board .stopUnanswered else s').Alike
          (if stopped.isNone then t'.tell other .stopUnanswered else t') := by
        split
        · exact h'.tell hboard _
        · exact h'
      obtain ⟨mode, s'', t'', hs', ht', h''⟩ := htold.step hboard
        (if stopped.isNone then s'.tell board .stopUnanswered else s').address
        (.setWorkMode workMode)
      simp only [htold.address, hs', ht']
      cases mode with
      | error cause => exact .of_alike _ h''
      | ok mode =>
          dsimp only
          split
          · have hset := h''.sendSettings hboard
            have hconnected : ({ s''.sendSettings board with connected := true } : Session ε).Alike
                { t''.sendSettings other with connected := true } :=
              ⟨rfl, hset.address, hset.running, hset.station⟩
            have hremark : Remark.connected (t''.sendSettings other).address =
                .connected (s''.sendSettings board).address :=
              congrArg Remark.connected hset.address
            rw [hremark]
            exact .of_alike _ (hconnected.tell hboard _)
          · exact .of_alike _ (h''.tell hboard _)

lemma Alike.connect (h : s.Alike t) : Concur (s.connect board) (t.connect other) := by
  have hbegun : ({ s with connected := false } : Session ε).Alike { t with connected := false } :=
    ⟨rfl, h.address, h.running, h.station⟩
  set configured := (s.settings board).address with hconfigured
  obtain ⟨toAll, s', t', hs, ht, h'⟩ := (hbegun.tell hboard (.connecting configured)).step hboard
    broadcastAddress .obtainReaderInfo
  simp only [Session.connect, h.settings hboard, h.station.config, ← hconfigured, hs, ht]
  cases toAll with
  | error cause => exact .of_alike _ h'
  | ok toAll =>
      obtain ⟨toOne, s'', t'', hs', ht', h''⟩ := h'.step hboard configured .obtainReaderInfo
      simp only [hs', ht']
      cases toOne with
      | error cause => exact .of_alike _ h''
      | ok toOne =>
          have hchosen := h''.chooseReader hboard configured toAll toOne
          exact hchosen.useReader.settle hboard _ _

/-! ### Inventory -/

lemma Alike.reportRunning (h : s.Alike t) (running : Bool) :
    (s.reportRunning board running).Alike (t.reportRunning other running) := by
  simp only [Session.reportRunning, h.running]
  split
  · exact h
  · exact ⟨h.connected, h.address, rfl, h.station.notifyRunning (hboard none) running⟩

omit hboard in
lemma Alike.isActive (h : s.Alike t) : t.isActive = s.isActive := by
  simp only [Session.isActive, h.station.inventoryActive, h.station.mode]

lemma Alike.startConnected (h : s.Alike t) :
    Concur (s.startConnected board) (t.startConnected other) := by
  simp only [Session.startConnected, h.isActive, h.station.config]
  split
  · exact .of_alike _ (h.tell hboard _)
  · have hforgot := h.station.onRouter Router.forgetTags (fun _ _ => rfl) fun _ => rfl
    obtain ⟨result, s', t', hs, ht, h'⟩ := (hforgot.enterMode hboard.devices .inventory).sendTo
      hboard.devices s.address s.station.router.config.strategy.openingCommand
    rw [← h.address] at ht
    simp only [hs, ht]
    cases result with
    | error cause =>
        exact .of_alike _ ((h.withStation (h'.enterMode hboard.devices .idle)).tell hboard _)
    | ok size =>
        have hbegun := h.withStation (h'.beginSchedule (hboard none))
        exact .of_alike _ ((hbegun.reportRunning hboard true).tell hboard _)

lemma Alike.startInventory (h : s.Alike t) :
    Concur (s.startInventory board) (t.startInventory other) := by
  simp only [Session.startInventory, h.connected]
  split
  · exact h.startConnected hboard
  · obtain ⟨result, s', t', hs, ht, h'⟩ := h.connect hboard
    simp only [hs, ht]
    cases result with
    | error cause => exact .of_alike _ h'
    | ok => exact h'.startConnected hboard

lemma Alike.stopInventory (h : s.Alike t) :
    Concur (s.stopInventory board) (t.stopInventory other) := by
  obtain ⟨totals, s', t', hs, ht, h'⟩ := h.station.endSchedule.reportTotals hboard.devices
  obtain ⟨sent, s'', t'', hs', ht', h''⟩ := h'.sendTo hboard.devices s.address
    s.station.router.config.strategy.closingCommand
  have hreported := (h.withStation (h''.enterMode hboard.devices .idle)).reportRunning hboard false
  rw [← h.address] at ht'
  simp only [Session.stopInventory, h.station.config, hs, ht, hs', ht']
  cases sent with
  | error cause => exact .of_alike _ (hreported.tell hboard _)
  | ok size => exact .of_alike _ (hreported.tell hboard _)

lemma Alike.toggleInventory (h : s.Alike t) :
    Concur (s.toggleInventory board) (t.toggleInventory other) := by
  simp only [Session.toggleInventory, h.running]
  split
  · exact (h.stopInventory hboard).map _
  · exact (h.startInventory hboard).map _

omit hboard in
lemma Alike.command_of_ask (h : s.Alike t) {command : Command}
    (hasked : Concur (s.ask board s.address command) (t.ask other s.address command)) :
    Concur (s.command board command) (t.command other command) := by
  simp only [Session.command, h.connected, h.address]
  split
  · exact hasked.map (·.bind Answer.accepted)
  · exact .of_alike _ h

lemma Alike.command (h : s.Alike t) (command : Command) :
    Concur (s.command board command) (t.command other command) :=
  h.command_of_ask (h.ask hboard s.address command)

lemma Alike.poll (h : s.Alike t) : Concur (s.poll board) (t.poll other) := by
  obtain ⟨outcome, s', t', hs, ht, h'⟩ := h.station.process (hboard none)
  have hprocessed := h.withStation h'
  simp only [Session.poll, hs, ht, hprocessed.isActive]
  split
  · exact .of_alike _ hprocessed
  · exact .of_alike _ (hprocessed.reportRunning hboard _)

/-- **Every action answers the same to alike sessions and keeps them alike.** -/
lemma Alike.act (h : s.Alike t) (action : Action) :
    Concur (action.reply board s, action.run board s)
      (action.reply other t, action.run other t) := by
  cases action with
  | onRouter operation =>
      have hoperated := h.station.operate hboard operation (.inl rfl)
      refine ⟨operation.reply board s.station, _, _, rfl, ?_, h.withStation hoperated.alike⟩
      exact Prod.ext hoperated.result.symm rfl
  | connect => exact (h.connect hboard).map Reply.result
  | startInventory => exact (h.startInventory hboard).map Reply.result
  | stopInventory => exact (h.stopInventory hboard).map Reply.stopped
  | toggleInventory => exact (h.toggleInventory hboard).map Reply.toggled
  | command c => exact (h.command hboard c).map Reply.answer
  | poll => exact (h.poll hboard).map Reply.outcome

end Session

/-! ## Questions that overlook nothing -/

namespace Station

/--
  Whoever waits takes notice of the answer: a look that finds it in the queue also finds that frames
  have been counted since the look before.
-/
def Attentive (board : Board ε) (request : Request) (deadline pause : Nat) :
    Nat → UInt32 → Station ε → Prop
  | 0, _, _ => True
  | turns + 1, seen, s =>
    let t := (s.process board).2
    if t.router.answers.any (·.isFor request) then t.router.counters.framesReceived ≠ seen
    else
      t.now board < deadline →
        Attentive board request deadline pause turns t.router.counters.framesReceived
          (board.wait pause t)

instance decidableAttentive (board : Board ε) (request : Request) (deadline pause : Nat) :
    (turns : Nat) → (seen : UInt32) → (s : Station ε) →
      Decidable (s.Attentive board request deadline pause turns seen)
  | 0, _, _ => isTrue trivial
  | turns + 1, seen, s =>
    let t := (s.process board).2
    have : Decidable (t.now board < deadline → Attentive board request deadline pause turns
        t.router.counters.framesReceived (board.wait pause t)) :=
      have := decidableAttentive board request deadline pause turns
        t.router.counters.framesReceived (board.wait pause t)
      inferInstance
    inferInstanceAs (Decidable (if t.router.answers.any (·.isFor request) then
      t.router.counters.framesReceived ≠ seen else _))

/-- Whoever asks takes notice of the answer, if the command is queued at all. -/
structure AttentiveTo (board : Board ε) (address : UInt8) (command : Command) (timeoutMs : UInt32)
    (s : Station ε) : Prop where
  looks : ∀ size t,
    (s.expecting { address, command := command.code }).sendTo board address command =
      (.ok size, t) →
    t.Attentive board { address, command := command.code } (t.now board + timeoutMs.toNat)
      t.router.config.pollPauseMs (timeoutMs.toNat + 1 + board.patience)
      s.router.counters.framesReceived

instance (board : Board ε) (address : UInt8) (command : Command) (timeoutMs : UInt32)
    (s : Station ε) : Decidable (s.AttentiveTo board address command timeoutMs) :=
  match hsent : (s.expecting { address, command := command.code }).sendTo board address command with
  | (.error _, _) => isTrue ⟨fun _ _ h => by simp [hsent] at h⟩
  | (.ok _, t) =>
    decidable_of_iff (t.Attentive board { address, command := command.code }
      (t.now board + timeoutMs.toNat) t.router.config.pollPauseMs
      (timeoutMs.toNat + 1 + board.patience) s.router.counters.framesReceived)
      ⟨fun h => ⟨fun _ _ hok => by rw [hsent] at hok; cases hok; exact h⟩,
        fun h => h.looks _ _ hsent⟩

variable {s t : Station ε} {request : Request} {seen : UInt32}

lemma look_of_ne (h : (s.process board).2.router.counters.framesReceived ≠ seen) :
    s.look board request seen = (s.process board).2.takeAnswer request := by
  simp only [look]
  rw [if_neg h]

/-- Where there is no answer, it does not matter whether anybody looks for it. -/
lemma look_of_none (h : (s.process board).2.router.answers.any (·.isFor request) = false) :
    s.look board request seen = (none, (s.process board).2) := by
  have hother : ∀ answer ∈ (s.process board).2.router.answers, ¬ answer.isFor request = true := by
    simpa using h
  simp only [look, takeAnswer, Answer.take_of_missing hother]
  split <;> rfl

/--
  Whoever takes notice of every answer is given the same on alike stations, however far their counts
  are apart and whenever they are reset.
-/
lemma Alike.waitUntil_of_attentive (hboard : board.AgreesAt none other) {seen' : UInt32}
    {deadline pause turns : Nat} (h : s.Alike none t)
    (hs : s.Attentive board request deadline pause turns seen)
    (ht : t.Attentive other request deadline pause turns seen') :
    Concur none (s.waitUntil board request deadline pause turns seen)
      (t.waitUntil other request deadline pause turns seen') := by
  induction turns generalizing seen seen' s t with
  | zero => exact .of_alike _ h
  | succ turns ih =>
      have hprocessed := (h.process hboard).alike
      simp only [Attentive, hprocessed.answers] at hs ht
      -- the queues are the same; only whether anybody looks into them may differ
      cases hany : (s.process board).2.router.answers.any (·.isFor request) with
      | true =>
          rw [if_pos hany] at hs ht
          obtain ⟨answer, s', t', hs', ht', h'⟩ := hprocessed.takeAnswer request
          simp only [Station.waitUntil, look_of_ne hs, look_of_ne ht, hs', ht']
          cases answer with
          | some answer => exact .of_alike _ h'
          | none =>
              have hfind : (s.process board).2.router.answers.find? (·.isFor request) = none :=
                congrArg Prod.fst hs'
              rw [List.find?_eq_none] at hfind
              obtain ⟨answer, hmem, hfor⟩ := List.any_eq_true.mp hany
              exact absurd hfor (hfind answer hmem)
      | false =>
          have hany' : (t.process other).2.router.answers.any (·.isFor request) = false := by
            rwa [hprocessed.answers]
          rw [hany, if_neg Bool.false_ne_true] at hs ht
          simp only [Station.waitUntil, look_of_none hany, look_of_none hany',
            hprocessed.now hboard.devices]
          split
          · exact .of_alike _ (hprocessed.tell hboard.devices _)
          · rename_i hearly
            have hlate : (s.process board).2.now board < deadline := Nat.lt_of_not_le hearly
            rw [hprocessed.now hboard.devices] at ht
            exact ih (hprocessed.wait hboard pause) (hs hlate) (ht hlate)

/--
  **A reset matters only through an answer that is overlooked.**  If whoever asks takes notice of
  the answer in both of two calls, the calls answer the same and leave the stations alike, whenever
  the counters are reset: also while the answer is awaited.
-/
lemma Alike.ask_of_attentive (h : s.Alike none t) (hboard : board.AgreesAt none other)
    {address : UInt8} {command : Command} {timeoutMs : UInt32}
    (hs : s.AttentiveTo board address command timeoutMs)
    (ht : t.AttentiveTo other address command timeoutMs) :
    Concur none (s.ask board address command timeoutMs)
      (t.ask other address command timeoutMs) := by
  have hexpecting := (h.expecting { address, command := command.code }).loose
  obtain ⟨result, s', t', hsent, hsent', h'⟩ := hexpecting.sendTo hboard.devices address command
  refine .ask (?_ : Concur none _ _)
  simp only [Station.sendAndWait, hsent, hsent']
  cases result with
  | error cause => exact .of_alike _ h'
  | ok size =>
      have hs := hs.looks size s' hsent
      have ht := ht.looks size t' hsent'
      simp only [h'.now hboard.devices, h'.config, hboard.patience] at ht ⊢
      exact h'.waitUntil_of_attentive hboard hs ht

end Station

/-- Whether an action is a single question, and whoever asks takes notice of the answer. -/
def Action.IsAttentive (board : Board ε) (s : Session ε) : Action → Prop
  | onRouter (.ask address c timeoutMs) => s.station.AttentiveTo board address c timeoutMs
  | command c => s.station.AttentiveTo board s.address c s.station.router.config.responseTimeoutMs
  | _ => False

lemma Session.Alike.act_of_attentive {s t : Session ε} (h : s.Alike t)
    (hboard : board.AgreesAt none other) {action : Action} (hs : action.IsAttentive board s)
    (ht : action.IsAttentive other t) :
    Session.Concur (action.reply board s, action.run board s)
      (action.reply other t, action.run other t) := by
  cases action with
  | onRouter operation =>
      cases operation with
      | ask address command timeoutMs =>
          have hasked := h.station.ask_of_attentive hboard hs ht
          refine ⟨.answer (s.station.ask board address command timeoutMs).1, _, _, rfl, ?_,
            h.withStation hasked.alike⟩
          exact Prod.ext (congrArg Reply.answer hasked.result.symm) rfl
      | _ => cases hs
  | command c =>
      simp only [Action.IsAttentive, h.address, h.station.config] at ht
      obtain ⟨answer, s', t', hs', ht', h'⟩ := h.station.ask_of_attentive hboard hs ht
      rw [← h.station.config] at ht'
      have hasked : Session.Concur (s.ask board s.address c) (t.ask other s.address c) := by
        simp only [Session.ask, hs', ht']
        exact .of_alike _ (h.withStation h')
      exact (h.command_of_ask hasked).map Reply.answer
  | _ => cases hs

/-! ## Two runs -/

/--
  Two runs at once, from `s` and from `t`: the same is asked of both sessions, their surroundings
  change in the same way, and either of them may have its counters reset at any time.  The callbacks
  are those of two boards; only for a single question they may be any that keep stations alike, such
  as one that resets while the answer is awaited, if nobody overlooks the answer.  The list holds
  the replies, those of both runs side by side.
-/
inductive Session.TwinRuns (board other : Board ε) (s t : Session ε) :
    List (Reply × Reply) → Session ε → Session ε → Prop
  | refl : TwinRuns board other s t [] s t
  | act {replies u v} (h : TwinRuns board other s t replies u v) (action : Action) :
      TwinRuns board other s t (replies ++ [(action.reply board u, action.reply other v)])
        (action.run board u) (action.run other v)
  | question {replies u v b c} (h : TwinRuns board other s t replies u v)
      (hboards : b.AgreesAt none c) (action : Action) (hu : action.IsAttentive b u)
      (hv : action.IsAttentive c v) :
      TwinRuns board other s t (replies ++ [(action.reply b u, action.reply c v)])
        (action.run b u) (action.run c v)
  | drift {replies u v} (h : TwinRuns board other s t replies u v) (e : ε) :
      TwinRuns board other s t replies (u.onStation fun t => { t with surroundings := e })
        (v.onStation fun t => { t with surroundings := e })
  | resetFirst {replies u v} (h : TwinRuns board other s t replies u v) :
      TwinRuns board other s t replies (u.onStation (·.resetStatistics)) v
  | resetSecond {replies u v} (h : TwinRuns board other s t replies u v) :
      TwinRuns board other s t replies u (v.onStation (·.resetStatistics))

/-- The same actions on both sides are two runs. -/
lemma Session.TwinRuns.foldl {s t u v : Session ε} {replies : List (Reply × Reply)}
    (h : s.TwinRuns board other t replies u v) (actions : List Action) :
    ∃ more, more.length = actions.length ∧ s.TwinRuns board other t (replies ++ more)
      (actions.foldl (fun s action => action.run board s) u)
      (actions.foldl (fun s action => action.run other s) v) := by
  induction actions generalizing replies u v with
  | nil => exact ⟨[], rfl, by rwa [List.append_nil]⟩
  | cons action rest ih =>
      obtain ⟨more, hlength, hruns⟩ := ih (h.act action)
      refine ⟨(action.reply board u, action.reply other v) :: more, ?_, ?_⟩
      · rw [List.length_cons, List.length_cons, hlength]
      · rwa [List.append_cons]

lemma Reply.forall_concat {replies : List (Reply × Reply)} {x y : Reply}
    (h : ∀ reply ∈ replies, reply.1 = reply.2) (hxy : x = y) :
    ∀ reply ∈ replies ++ [(x, y)], reply.1 = reply.2 := by
  intro reply hreply
  rcases List.mem_append.mp hreply with hreply | hreply
  · exact h reply hreply
  · obtain rfl := List.mem_singleton.mp hreply
    exact hxy

/--
  **Nobody notices a reset.**  Take two runs that differ in nothing but resets of the counters.
  These may happen

  * between two actions, and in every callback that is run while no answer is awaited;
  * in every other callback too, if the answer to a command is awaited and in neither run it is
    overlooked.

  Then every action answers the same in both runs, and at the end the sessions differ in their
  counters only: mode, schedule, answers and waiting bytes are the same, and so are the
  surroundings, with all that callbacks, the journal and the wire have been given.
-/
theorem replies_eq_of_twins (hboards : board.Twins other) {s t u v : Session ε}
    {replies : List (Reply × Reply)} (hstart : s.Alike t)
    (hruns : s.TwinRuns board other t replies u v) :
    (∀ reply ∈ replies, reply.1 = reply.2) ∧ u.Alike v := by
  induction hruns with
  | refl => exact ⟨List.forall_mem_nil _, hstart⟩
  | act _ action ih =>
      have hacted := ih.2.act hboards.agrees action
      exact ⟨Reply.forall_concat ih.1 hacted.result, hacted.alike⟩
  | question _ hquestion action hu hv ih =>
      have hasked := ih.2.act_of_attentive hquestion hu hv
      exact ⟨Reply.forall_concat ih.1 hasked.result, hasked.alike⟩
  | drift _ e ih => exact ⟨ih.1, ih.2.withStation (ih.2.station.drift e)⟩
  | resetFirst _ ih => exact ⟨ih.1, ih.2.withStation ih.2.station.resetLeft⟩
  | resetSecond _ ih => exact ⟨ih.1, ih.2.withStation ih.2.station.resetRight⟩

/-! ## Boards that reset -/

/-- A board on which every tag that is read resets the counters, unless an answer is awaited. -/
def Board.curious : Board Nat :=
  { Board.arriving [] with
    notifyRead := fun s => if s.router.awaiting.isNone then s.resetStatistics else s }

lemma Board.twins_still (now : Nat) (settings : ReaderSettings) :
    (Board.still now settings : Board ε).Twins (.still now settings) := by
  refine .intro (fun _ _ => False) nofun ?_
  exact ⟨.refl _, rfl, fun _ _ => rfl, fun _ _ => .inl rfl, fun _ => .inl rfl,
    fun _ _ => .inl rfl, fun _ _ => .inl rfl, fun _ _ => .inl rfl⟩

lemma Board.twins_curious : (Board.arriving []).Twins .curious := by
  set idle : Board Nat := .still 0 { rfPower := 0, address := 0, antenna := 0 }
  refine .intro (fun b c => b = idle ∧ c = idle) ?_ ?_
  · rintro b c ⟨rfl, rfl⟩
    exact Board.twins_still _ _
  · refine ⟨⟨rfl, rfl, rfl, rfl, rfl⟩, rfl, fun _ _ => rfl, fun _ _ => .inl rfl, ?_,
      fun _ _ => .inl rfl, fun _ _ => .inl rfl, ?_⟩
    · intro s t h
      refine .inr ⟨idle, idle, ⟨rfl, rfl⟩, ?_⟩
      simp only [Board.curious, h.awaiting]
      split
      · rename_i hnone
        exact .single (.resetSecond (Option.isNone_iff_eq_none.mp hnone))
      · exact .refl
    · intro s t ms h
      refine .inr ⟨idle, idle, ⟨rfl, rfl⟩, ?_⟩
      have hclock : Board.curious.wait ms t =
          { t.receive [] with surroundings := s.surroundings + ms } := by
        rw [← h.surroundings]
        rfl
      rw [hclock]
      exact (Relation.ReflTransGen.single (.operate (.receive []) (.inr rfl))).tail (.drift _)

/-- A board on which waiting resets the counters, and then the given bytes arrive. -/
def Board.resetting (bytes : List UInt8) : Board Nat :=
  { Board.arriving bytes with wait := fun ms s => (Board.arriving bytes).wait ms s.resetStatistics }

lemma Board.agreesAt_resetting (bytes : List UInt8) :
    (Board.arriving bytes).AgreesAt none (.resetting bytes) := by
  refine ⟨⟨rfl, rfl, rfl, rfl, rfl⟩, rfl, fun _ _ => rfl, fun _ _ => id, fun _ => id,
    fun _ _ => id, fun _ _ => id, ?_⟩
  intro s t ms _ h
  have hwaited := (h.resetRight.receive bytes).drift (s.surroundings + ms)
  change Station.Alike none _
    { t.resetStatistics.receive bytes with surroundings := t.surroundings + ms }
  rw [h.surroundings]
  exact hwaited

/-- A reader starts, and during inventory a tag is read. -/
def tagReadActions : List Action :=
  [.onRouter .start, .onRouter (.enterMode .inventory), .onRouter (.receive singleTagFrame), .poll]

/-- The session of a new reader after a tag has been read. -/
def Session.afterTagRead (board : Board Nat) : Session Nat :=
  tagReadActions.foldl (fun s action => action.run board s)
    (.unconnected .curious (.fresh .standard 0))

/-- Somebody asks for the number of tags. -/
def tagCountQuestion : Action := .onRouter (.ask 0 .getTagCount 10)

/--
  A tag is read during inventory, and its notification resets the counters in one of two runs.  Then
  somebody asks, and the counters are reset while the answer is awaited.  All stays the same.
-/
theorem replies_eq_of_twins_curious :
    let s : Session Nat := .unconnected .curious (.fresh .standard 0)
    ∃ replies u v, s.TwinRuns (.arriving []) .curious s replies u v ∧ replies.length = 5 ∧
      (∀ reply ∈ replies, reply.1 = reply.2) ∧ u.Alike v ∧
      u.station.statistics ≠ v.station.statistics := by
  intro s
  have hstart : s.TwinRuns (.arriving []) .curious s [] s s := .refl
  obtain ⟨replies, hlength, hread⟩ : ∃ replies, replies.length = 4 ∧
      s.TwinRuns (.arriving []) .curious s replies (.afterTagRead (.arriving []))
        (.afterTagRead .curious) := hstart.foldl tagReadActions
  have hu : (Session.afterTagRead (.arriving [])).station.AttentiveTo (.arriving tagCountFrame) 0
      .getTagCount 10 := by decide +kernel
  have hv : (Session.afterTagRead .curious).station.AttentiveTo (.resetting tagCountFrame) 0
      .getTagCount 10 := by decide +kernel
  have hcounted :
      (tagCountQuestion.run (.arriving tagCountFrame)
        (.afterTagRead (.arriving []))).station.statistics ≠
      (tagCountQuestion.run (.resetting tagCountFrame)
        (.afterTagRead .curious)).station.statistics := by decide +kernel
  have hruns := hread.question (Board.agreesAt_resetting tagCountFrame) tagCountQuestion hu hv
  obtain ⟨hreplies, halike⟩ := replies_eq_of_twins Board.twins_curious (.refl s) hruns
  refine ⟨_, _, _, hruns, ?_, hreplies, halike, hcounted⟩
  rw [List.length_append, hlength]
  rfl

/-! ## A reset while an answer is awaited -/

/--
  **An overlooked answer.**  A frame has been received since the counters stood at zero.  Then
  somebody asks, and the answer arrives while he waits.  It is given.  If the counters are reset
  in the same wait, the count of frames is what it was before, and the answer is not looked for: it
  lies in the queue, and the question ends with a timeout.
-/
theorem ask_overlooks_after_reset :
    let start : Station Nat := .fresh .standard 0
    let s := [.start, .receive tagCountFrame, .process].foldl
      (fun s operation => Operation.run (.arriving tagCountFrame) s operation) start
    let given := s.ask (.arriving tagCountFrame) 0 .getTagCount 5
    let overlooked := s.ask (.resetting tagCountFrame) 0 .getTagCount 5
    (given.1.toOption.map fun answer => answer.payload.toList) = some [0, 5] ∧
      overlooked.1 = .error (.timeout 0x74) ∧
      overlooked.2.router.answers.map (·.payload.toList) = [[0, 5]] := by
  intro start s given overlooked
  refine ⟨?_, ?_, ?_⟩ <;> decide +kernel

end RfidLink
