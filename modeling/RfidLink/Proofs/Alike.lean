import RfidLink.Proofs.Asking

/-!
# Stations that differ in their counters

Counters are there to be looked at from outside, and somebody who looks may set them back to zero
at any time.  Two stations are **alike** if a reset makes them the same: then they differ in nothing
but their counters.  This file shows that alike stations do the same and stay alike, function by
function.

There is one place where the router itself looks at a counter.  Whoever waits for an answer looks
for it only if the count of frames is no longer what it was (`Station.look`).  Alike stations need
not agree on that: it takes that the two counts are a fixed number apart for as long as somebody
waits.  `Station.Alike` therefore carries a **gap**.

* `Alike none` says nothing about the counts.
* `Alike (some k)` says that an answer is awaited and that the counts are `k` apart.

`Board.AgreesAt` says that the callbacks of two boards keep stations alike that are a given gap
apart, and `Board.Agrees` that they do so for every gap.  A callback may thus reset the counters of
one station and not of the other, unless an answer is awaited.
-/

namespace RfidLink

variable {ε α : Type}

namespace Station

/--
  Two stations that differ in their counters only; if there is a gap, an answer is awaited and the
  second one has counted that many frames more.
-/
structure Alike (gap : Option UInt32) (s t : Station ε) : Prop where
  same : t.resetStatistics = s.resetStatistics
  awaited : gap.isSome = true → s.router.awaiting.isSome = true
  apart : ∀ k ∈ gap, t.router.counters.framesReceived = s.router.counters.framesReceived + k

/-- Two calls with the same result that leave stations alike. -/
def Concur (gap : Option UInt32) (p q : α × Station ε) : Prop :=
  ∃ result s t, p = (result, s) ∧ q = (result, t) ∧ s.Alike gap t

end Station

/--
  Two boards with the same devices.  A callback that is run on alike stations answers the same on
  both boards, and leads the two stations along `R`.
-/
structure Board.Parallel (board other : Board ε)
    (R : Station ε × Station ε → Station ε × Station ε → Prop) : Prop where
  devices : board.SameDevices other
  patience : other.patience = board.patience
  answer : ∀ {s t} text, Station.Alike none s t →
    (board.deliver text s).1 = (other.deliver text t).1
  deliver : ∀ {s t} text, Station.Alike none s t →
    R (s, t) ((board.deliver text s).2, (other.deliver text t).2)
  notifyRead : ∀ {s t}, Station.Alike none s t → R (s, t) (board.notifyRead s, other.notifyRead t)
  notifyError : ∀ {s t} isOn, Station.Alike none s t →
    R (s, t) (board.notifyError isOn s, other.notifyError isOn t)
  notifyRunning : ∀ {s t} isOn, Station.Alike none s t →
    R (s, t) (board.notifyRunning isOn s, other.notifyRunning isOn t)
  wait : ∀ {s t} ms, Station.Alike none s t → R (s, t) (board.wait ms s, other.wait ms t)

lemma Board.Parallel.mono {board other : Board ε}
    {R R' : Station ε × Station ε → Station ε × Station ε → Prop}
    (h : board.Parallel other R) (hRR' : ∀ p q, R p q → R' p q) : board.Parallel other R' where
  devices := h.devices
  patience := h.patience
  answer := h.answer
  deliver text hst := hRR' _ _ (h.deliver text hst)
  notifyRead hst := hRR' _ _ (h.notifyRead hst)
  notifyError isOn hst := hRR' _ _ (h.notifyError isOn hst)
  notifyRunning isOn hst := hRR' _ _ (h.notifyRunning isOn hst)
  wait ms hst := hRR' _ _ (h.wait ms hst)

/-- The callbacks of two boards keep stations alike that are a given gap apart. -/
abbrev Board.AgreesAt (board : Board ε) (gap : Option UInt32) (other : Board ε) : Prop :=
  board.Parallel other fun p q => p.1.Alike gap p.2 → q.1.Alike gap q.2

/-- The callbacks of two boards keep stations alike, whatever the gap is. -/
def Board.Agrees (board other : Board ε) : Prop := ∀ gap, board.AgreesAt gap other

lemma Board.Agrees.devices {board other : Board ε} (h : board.Agrees other) :
    board.SameDevices other := (h none).devices

namespace Station

variable {gap : Option UInt32} {s t : Station ε} {board other : Board ε}

/-! ## What alike stations have in common -/

lemma Alike.refl (s : Station ε) : s.Alike none s where
  same := rfl
  awaited := by intro h; cases h
  apart := by intro _ h; cases h

/-- Alike stations show the same wherever a reset does not matter. -/
lemma Alike.reads (h : s.Alike gap t) (f : Station ε → α) (hf : ∀ s, f s.resetStatistics = f s) :
    f t = f s := by
  rw [← hf t, h.same, hf s]

lemma Alike.mode (h : s.Alike gap t) : t.router.mode = s.router.mode :=
  h.reads (·.router.mode) fun _ => rfl

lemma Alike.running (h : s.Alike gap t) : t.router.running = s.router.running :=
  h.reads (·.router.running) fun _ => rfl

lemma Alike.busy (h : s.Alike gap t) : t.router.busy = s.router.busy :=
  h.reads (·.router.busy) fun _ => rfl

lemma Alike.filter (h : s.Alike gap t) : t.router.filter = s.router.filter :=
  h.reads (·.router.filter) fun _ => rfl

lemma Alike.schedule (h : s.Alike gap t) : t.router.schedule = s.router.schedule :=
  h.reads (·.router.schedule) fun _ => rfl

lemma Alike.collector (h : s.Alike gap t) : t.router.collector = s.router.collector :=
  h.reads (·.router.collector) fun _ => rfl

lemma Alike.answers (h : s.Alike gap t) : t.router.answers = s.router.answers :=
  h.reads (·.router.answers) fun _ => rfl

lemma Alike.awaiting (h : s.Alike gap t) : t.router.awaiting = s.router.awaiting :=
  h.reads (·.router.awaiting) fun _ => rfl

lemma Alike.config (h : s.Alike gap t) : t.router.config = s.router.config :=
  h.reads (·.router.config) fun _ => rfl

lemma Alike.inbound (h : s.Alike gap t) : t.line.inbound = s.line.inbound :=
  h.reads (·.line.inbound) fun _ => rfl

lemma Alike.outbound (h : s.Alike gap t) : t.line.outbound = s.line.outbound :=
  h.reads (·.line.outbound) fun _ => rfl

lemma Alike.surroundings (h : s.Alike gap t) : t.surroundings = s.surroundings :=
  h.reads (·.surroundings) fun _ => rfl

lemma Alike.inventoryActive (h : s.Alike gap t) :
    t.router.inventoryActive = s.router.inventoryActive := congrArg Schedule.active h.schedule

lemma Alike.now (h : s.Alike gap t) (hdevices : board.SameDevices other) :
    t.now other = s.now board := by
  rw [Station.now, h.surroundings, ← hdevices.now]
  rfl

/-- Without a gap, alike stations are no less alike. -/
lemma Alike.loose (h : s.Alike gap t) : s.Alike none t := ⟨h.same, nofun, nofun⟩

lemma Concur.of_alike (result : α) (h : s.Alike gap t) : Concur gap (result, s) (result, t) :=
  ⟨result, s, t, rfl, rfl, h⟩

lemma Concur.alike {p q : α × Station ε} (h : Concur gap p q) : p.2.Alike gap q.2 := by
  obtain ⟨_, _, _, rfl, rfl, h⟩ := h
  exact h

lemma Concur.result {p q : α × Station ε} (h : Concur gap p q) : p.1 = q.1 := by
  obtain ⟨_, _, _, rfl, rfl, _⟩ := h
  rfl

/-! ## Callbacks -/

lemma Alike.deliver (h : s.Alike gap t) (hboard : board.AgreesAt gap other) (text : String) :
    Concur gap (board.deliver text s) (other.deliver text t) := by
  refine ⟨(board.deliver text s).1, _, _, rfl, ?_, hboard.deliver text h.loose h⟩
  rw [hboard.answer text h.loose]

lemma Alike.notifyRead (h : s.Alike gap t) (hboard : board.AgreesAt gap other) :
    (board.notifyRead s).Alike gap (other.notifyRead t) := hboard.notifyRead h.loose h

lemma Alike.notifyError (h : s.Alike gap t) (hboard : board.AgreesAt gap other) (isOn : Bool) :
    (board.notifyError isOn s).Alike gap (other.notifyError isOn t) :=
  hboard.notifyError isOn h.loose h

lemma Alike.notifyRunning (h : s.Alike gap t) (hboard : board.AgreesAt gap other) (isOn : Bool) :
    (board.notifyRunning isOn s).Alike gap (other.notifyRunning isOn t) :=
  hboard.notifyRunning isOn h.loose h

lemma Alike.wait (h : s.Alike gap t) (hboard : board.AgreesAt gap other) (ms : Nat) :
    (board.wait ms s).Alike gap (other.wait ms t) := hboard.wait ms h.loose h

/-! ## Changes of alike stations -/

/-- The same change of both stations; it neither looks at their counters nor touches them. -/
lemma Alike.change (h : s.Alike gap t) (f : Router → Router) (g : Line → Line) (e : ε)
    (hf : ∀ r c, f (r.count c) = (f r).count c)
    (hawaiting : ∀ r, (f r).awaiting = r.awaiting)
    (hg : ∀ l, (g l).resetCounters = (g l.resetCounters).resetCounters) :
    ({ router := f s.router, line := g s.line, surroundings := e } : Station ε).Alike gap
      { router := f t.router, line := g t.line, surroundings := e } where
  same := by
    have hrouter : t.router.count (fun _ => .zero) = s.router.count fun _ => .zero :=
      congrArg Station.router h.same
    have hline : t.line.resetCounters = s.line.resetCounters := congrArg Station.line h.same
    simp only [Station.resetStatistics, ← hf, hrouter]
    rw [hg t.line, hline, ← hg s.line]
  awaited hgap := (congrArg Option.isSome (hawaiting s.router)).trans (h.awaited hgap)
  apart k hk := by
    have hcounters (r : Router) : (f r).counters = r.counters := by
      have hsame : f r = (f r).count fun _ => r.counters := hf r fun _ => r.counters
      exact (congrArg Router.counters hsame).trans rfl
    simpa only [hcounters] using h.apart k hk

lemma Alike.onRouter (h : s.Alike gap t) (f : Router → Router)
    (hf : ∀ r c, f (r.count c) = (f r).count c)
    (hawaiting : ∀ r, (f r).awaiting = r.awaiting) :
    (s.onRouter f).Alike gap (t.onRouter f) := by
  have hchanged := h.change f id s.surroundings hf hawaiting fun _ => rfl
  simpa only [Station.onRouter, h.surroundings, id] using hchanged

lemma Alike.onLine (h : s.Alike gap t) (g : Line → Line)
    (hg : ∀ l, (g l).resetCounters = (g l.resetCounters).resetCounters) :
    ({ s with line := g s.line } : Station ε).Alike gap { t with line := g t.line } := by
  have hchanged := h.change id g s.surroundings (fun _ _ => rfl) (fun _ => rfl) hg
  simpa only [h.surroundings, id] using hchanged

/-- The surroundings change, and in the same way. -/
lemma Alike.drift (h : s.Alike gap t) (e : ε) :
    ({ s with surroundings := e } : Station ε).Alike gap { t with surroundings := e } :=
  h.change id id e (fun _ _ => rfl) (fun _ => rfl) fun _ => rfl

lemma Alike.tell (h : s.Alike gap t) (hdevices : board.SameDevices other) (remark : Remark) :
    (s.tell board remark).Alike gap (t.tell other remark) := by
  simpa only [Station.tell, h.surroundings, hdevices.write] using h.drift _

lemma Alike.tellAll (h : s.Alike gap t) (hdevices : board.SameDevices other)
    (remarks : List Remark) : (s.tellAll board remarks).Alike gap (t.tellAll other remarks) := by
  induction remarks generalizing s t with
  | nil => exact h
  | cons remark rest ih => exact ih (h.tell hdevices remark)

/-- Counting, for any counter but that of the frames. -/
lemma Alike.count (h : s.Alike gap t) {f : Counters → Counters}
    (hf : ∀ c, (f c).framesReceived = c.framesReceived) :
    (s.count f).Alike gap (t.count f) where
  same := h.same
  awaited := h.awaited
  apart k hk := (hf _).trans ((h.apart k hk).trans (congrArg (· + k) (hf _).symm))

/-- Both stations count a frame. -/
lemma Alike.countFrame (h : s.Alike gap t) :
    (s.count fun c => { c with framesReceived := c.framesReceived + 1 }).Alike gap
      (t.count fun c => { c with framesReceived := c.framesReceived + 1 }) where
  same := h.same
  awaited := h.awaited
  apart k hk := by
    change t.router.counters.framesReceived + 1 = s.router.counters.framesReceived + 1 + k
    rw [h.apart k hk, UInt32.add_assoc, UInt32.add_comm k 1, ← UInt32.add_assoc]

/-- **A reset keeps stations alike**, unless an answer is awaited. -/
lemma Alike.resetLeft (h : s.Alike none t) : s.resetStatistics.Alike none t :=
  ⟨h.same, nofun, nofun⟩

lemma Alike.resetRight (h : s.Alike none t) : s.Alike none t.resetStatistics :=
  ⟨h.same, nofun, nofun⟩

lemma Alike.receive (h : s.Alike gap t) (bytes : List UInt8) :
    (s.receive bytes).Alike gap (t.receive bytes) :=
  h.onLine (fun l => (l.receive bytes).2) fun _ => rfl

/-! ## Modes and schedule -/

lemma Alike.performReset (h : s.Alike gap t) : s.performReset.Alike gap t.performReset := by
  have hpending : t.router.resetPending = s.router.resetPending :=
    h.reads (·.router.resetPending) fun _ => rfl
  simp only [Station.performReset, hpending]
  split
  · exact (h.onRouter (fun r => { r with resetPending := false, collector := r.collector.reset })
      (fun _ _ => rfl) fun _ => rfl).onLine Line.clearInbound fun _ => rfl
  · exact h

lemma Alike.resetUnlessBusy (h : s.Alike gap t) :
    s.resetUnlessBusy.Alike gap t.resetUnlessBusy := by
  simp only [Station.resetUnlessBusy, h.busy]
  split
  · exact h
  · exact h.performReset

lemma Alike.endSchedule (h : s.Alike gap t) : s.endSchedule.Alike gap t.endSchedule :=
  h.onRouter Router.endSchedule (fun _ _ => rfl) fun _ => rfl

section

variable (hdevices : board.SameDevices other)

include hdevices

lemma Alike.enterMode (h : s.Alike gap t) (mode : Mode) :
    (s.enterMode board mode).Alike gap (t.enterMode other mode) := by
  simp only [Station.enterMode, h.mode]
  split
  · exact h
  · exact ((h.onRouter (fun r => { r with mode, resetPending := true }) (fun _ _ => rfl)
      fun _ => rfl).tell hdevices _).resetUnlessBusy

lemma Alike.start (h : s.Alike gap t) : Concur gap (s.start board) (t.start other) := by
  simp only [Station.start, h.running]
  split
  · exact .of_alike _ h
  · have hstarted := h.onRouter
      (fun r => { r with running := true, mode := .idle, resetPending := true }) (fun _ _ => rfl)
      fun _ => rfl
    exact .of_alike _ (hstarted.resetUnlessBusy.tell hdevices _)

lemma Alike.stop (h : s.Alike gap t) : Concur gap (s.stop board) (t.stop other) := by
  simp only [Station.stop, h.running]
  split
  · have hstopped := h.onRouter (fun r => { r with running := false }.endSchedule) (fun _ _ => rfl)
      fun _ => rfl
    exact .of_alike _ ((hstopped.enterMode hdevices .idle).tell hdevices _)
  · exact .of_alike _ h

lemma Alike.reportTotals (h : s.Alike gap t) :
    Concur gap (s.reportTotals board) (t.reportTotals other) := by
  have htotals : t.router.readTotals = s.router.readTotals := congrArg RepeatFilter.totals h.filter
  have hremarks : tagRemarks t.router = tagRemarks s.router := by
    simp only [tagRemarks, h.filter, h.config]
  simp only [Station.reportTotals, htotals, hremarks]
  exact .of_alike _ (h.tellAll hdevices _)

/-! ## Sending -/

lemma emitAll_congr (bytes : List UInt8) (e : ε) :
    emitAll other bytes e = emitAll board bytes e := by
  induction bytes generalizing e with
  | nil => rfl
  | cons byte rest ih => simp only [emitAll, hdevices.emit, ih]

lemma Alike.transmit (h : s.Alike gap t) : Concur gap (s.transmit board) (t.transmit other) := by
  simp only [Station.transmit, h.outbound, h.surroundings, emitAll_congr hdevices]
  exact .of_alike _ (h.change id (fun l => (l.transmit _).2) _ (fun _ _ => rfl) (fun _ => rfl)
    fun _ => rfl)

lemma Alike.transmitTimes (h : s.Alike gap t) (times : Nat) :
    (s.transmitTimes board times).Alike gap (t.transmitTimes other times) := by
  induction times generalizing s t with
  | zero => exact h
  | succ times ih => exact ih (h.transmit hdevices).alike

lemma Alike.interrupted (h : s.Alike gap t) :
    (s.interrupted board).Alike gap (t.interrupted other) := by
  simp only [Station.interrupted, h.surroundings, ← hdevices.interrupts]
  exact (h.drift _).transmitTimes hdevices _

lemma Alike.enqueueAll (h : s.Alike gap t) (bytes : List UInt8) :
    (s.enqueueAll board bytes).Alike gap (t.enqueueAll other bytes) := by
  induction bytes generalizing s t with
  | nil => exact h
  | cons byte rest ih =>
      refine ih ((h.interrupted hdevices).onLine (Line.enqueue byte) ?_)
      intro l
      have hroom : l.resetCounters.room = l.room := rfl
      simp only [Line.enqueue, hroom]
      split <;> rfl

lemma Alike.sendTo (h : s.Alike gap t) (address : UInt8) (command : Command) :
    Concur gap (s.sendTo board address command) (t.sendTo other address command) := by
  have hinterrupted := h.interrupted hdevices
  have hroom : (t.interrupted other).line.room = (s.interrupted board).line.room :=
    hinterrupted.reads (·.line.room) fun _ => rfl
  simp only [Station.sendTo, h.running]
  split
  · exact .of_alike _ h
  · split
    · exact .of_alike _ h
    · simp only [hroom]
      split
      · exact .of_alike _ ((hinterrupted.enqueueAll hdevices _).tell hdevices _)
      · refine .of_alike _ (.tell ?_ hdevices _)
        exact hinterrupted.count fun _ => rfl

lemma Alike.send (h : s.Alike gap t) (command : Command) :
    Concur gap (s.send board command) (t.send other command) := by
  have haddress : t.router.address = s.router.address := h.reads (·.router.address) fun _ => rfl
  simpa only [Station.send, haddress] using h.sendTo hdevices s.router.address command

lemma Alike.sendRaw (h : s.Alike gap t) (code : UInt8) (args : List UInt8) :
    Concur gap (s.sendRaw board code args) (t.sendRaw other code args) := by
  simp only [Station.sendRaw]
  split
  · exact .of_alike _ h
  · exact h.send hdevices _

end

/-! ## What becomes of a frame -/

/-- Notifications that keep stations alike do so when they are run as such. -/
lemma Alike.notify (h : s.Alike gap t) {f f' : Station ε → Station ε}
    (hf : ∀ {s t}, s.Alike gap t → (f s).Alike gap (f' t)) :
    (s.notify f).Alike gap (t.notify f') := by
  have hnotifying : t.router.notifying = s.router.notifying :=
    h.reads (·.router.notifying) fun _ => rfl
  simp only [Station.notify, hnotifying]
  split
  · exact h
  · have hbegun := h.onRouter (fun r => { r with notifying := true }) (fun _ _ => rfl) fun _ => rfl
    exact (hf hbegun).onRouter (fun r => { r with notifying := false }) (fun _ _ => rfl)
      fun _ => rfl

lemma Alike.keepAnswer (h : s.Alike gap t) (answer : Answer) :
    (s.keepAnswer answer).Alike gap (t.keepAnswer answer) := by
  simp only [Station.keepAnswer, h.awaiting]
  split
  · exact h
  · exact h.onRouter _ (fun _ _ => rfl) fun _ => rfl

section

variable (hboard : board.AgreesAt gap other)

include hboard

lemma Alike.beginSchedule (h : s.Alike gap t) :
    (s.beginSchedule board).Alike gap (t.beginSchedule other) := by
  -- the error is taken back whether or not a round has been counted
  have hcleared {s t : Station ε} (h : s.Alike gap t) :
      (if s.router.errorShown then
        (s.onRouter fun r => { r with errorShown := false }).notify (board.notifyError false)
      else s).Alike gap
      (if t.router.errorShown then
        (t.onRouter fun r => { r with errorShown := false }).notify (other.notifyError false)
      else t) := by
    simp only [h.reads (·.router.errorShown) fun _ => rfl]
    split
    · exact (h.onRouter (fun r => { r with errorShown := false }) (fun _ _ => rfl)
        fun _ => rfl).notify (·.notifyError hboard false)
    · exact h
  have hopened := h.onRouter
    (fun r => { r with schedule := .opened s.router.config (s.now board) }) (fun _ _ => rfl)
    fun _ => rfl
  simp only [Station.beginSchedule, h.config, h.now hboard.devices]
  split
  · exact hcleared (hopened.count fun _ => rfl)
  · exact hcleared hopened

lemma Alike.passOn (h : s.Alike gap t) (tag : Sighting) :
    (s.passOn board tag).Alike gap (t.passOn other tag) := by
  set text := tag.text s.router.config.epcGroupBytes.toNat with htext
  obtain ⟨result, s', t', hs, ht, h'⟩ :=
    (h.tell hboard.devices (.tag text tag)).deliver hboard text
  simp only [Station.passOn, h.config, ← htext, hs, ht]
  cases result with
  | ok =>
      refine .notify ?_ (·.notifyRead hboard)
      exact h'.count fun _ => rfl
  | error cause =>
      refine .tell ?_ hboard.devices _
      exact h'.count fun _ => rfl

lemma Alike.offer (h : s.Alike gap t) (now : Nat) (tag : Sighting) :
    (s.offer board now tag).Alike gap (t.offer other now tag) := by
  have hread : (s.count fun c => { c with tagsRead := c.tagsRead + 1 }).Alike gap
      (t.count fun c => { c with tagsRead := c.tagsRead + 1 }) := h.count fun _ => rfl
  simp only [Station.offer, hread.mode, hread.filter]
  split
  · exact hread.tell hboard.devices _
  · have hrecorded := hread.onRouter
      (fun r => { r with filter := (s.router.filter.record tag.epc.toList tag.rssi now).2 })
      (fun _ _ => rfl) fun _ => rfl
    split
    · exact hrecorded.passOn hboard tag
    · exact hrecorded.count fun _ => rfl

lemma Alike.offers (h : s.Alike gap t) (now : Nat) (tags : List Sighting) :
    (tags.foldl (Station.offer board now) s).Alike gap
      (tags.foldl (Station.offer other now) t) := by
  induction tags generalizing s t with
  | nil => exact h
  | cons tag rest ih => exact ih (h.offer hboard now tag)

lemma Alike.useContent (h : s.Alike gap t) (now : Nat) (content : Content) :
    (s.useContent board now content).Alike gap (t.useContent other now content) := by
  cases content with
  | autoUpload tag => exact h.offer hboard now tag
  | inventory report => exact h.offers hboard now report.sightings
  | statistics | readData | gpioState => exact h.tell hboard.devices _
  | profile profile =>
      exact (h.tell hboard.devices (.profile profile)).onRouter
        (fun r => { r with profile := some profile }) (fun _ _ => rfl) fun _ => rfl
  | tagCount count =>
      exact h.onRouter (fun r => { r with tagCount := some count }) (fun _ _ => rfl) fun _ => rfl
  | temperature degrees =>
      exact h.onRouter (fun r => { r with temperature := some degrees }) (fun _ _ => rfl)
        fun _ => rfl
  | other => exact h

lemma Alike.endOnlyRound (h : s.Alike gap t) :
    (s.endOnlyRound board).Alike gap (t.endOnlyRound other) :=
  (h.endSchedule.reportTotals hboard.devices).alike.enterMode hboard.devices .idle

lemma Alike.stopForAntenna (h : s.Alike gap t) :
    (s.stopForAntenna board).Alike gap (t.stopForAntenna other) := by
  have hshown := (h.tell hboard.devices .antennaError).onRouter
    (fun r => { r with errorShown := true }) (fun _ _ => rfl) fun _ => rfl
  exact (hshown.notify (·.notifyError hboard true)).endSchedule.enterMode hboard.devices .idle

lemma Alike.followRound (h : s.Alike gap t) (now : Nat) (status : Status) :
    (s.followRound board now status).Alike gap (t.followRound other now status) := by
  simp only [Station.followRound, h.mode, h.inventoryActive, h.config]
  split
  · exact h
  · split
    · exact h.stopForAntenna hboard
    · split
      · exact h
      · split
        · exact h
        · exact h.onRouter _ (fun _ _ => rfl) fun _ => rfl
        · exact h.endOnlyRound hboard

lemma Alike.acceptResponse (h : s.Alike gap t) (now : Nat) (frame : List UInt8)
    (response : Response) :
    (s.acceptResponse board now frame response).Alike gap
      (t.acceptResponse other now frame response) := by
  have htold := h.tell hboard.devices (.received frame response)
  have hkept : ((answerOf response.head (responsePayload frame)).elim
      (s.tell board (.received frame response))
      (s.tell board (.received frame response)).keepAnswer).Alike gap
      ((answerOf response.head (responsePayload frame)).elim
      (t.tell other (.received frame response))
      (t.tell other (.received frame response)).keepAnswer) := by
    cases answerOf response.head (responsePayload frame) with
    | none => exact htold
    | some answer => exact htold.keepAnswer answer
  have hused := hkept.useContent hboard now response.content
  simp only [Station.acceptResponse]
  split
  · exact hused.followRound hboard now response.head.status
  · exact hused

lemma Alike.acceptFrame (h : s.Alike gap t) (now : Nat) (frame : List UInt8) :
    (s.acceptFrame board now frame).Alike gap (t.acceptFrame other now frame) := by
  have hcounted := h.countFrame
  simp only [Station.acceptFrame]
  split
  · refine .tell ?_ hboard.devices _
    exact hcounted.count fun _ => rfl
  · split
    · refine .tell ?_ hboard.devices _
      exact hcounted.count fun _ => rfl
    · exact hcounted.acceptResponse hboard now frame _

/-! ## Processing what was received -/

lemma Alike.pullFrame (h : s.Alike gap t) (now : Nat) :
    Concur gap (s.pullFrame board now) (t.pullFrame other now) := by
  set search := s.router.collector.search now s.line.inbound with hsearch
  set dropped := search.collector.errors - s.router.collector.errors with hdropped
  have hpulled := h.change (fun r => { r with collector := search.collector })
    (fun l => { l with inbound := search.rest }) s.surroundings (fun _ _ => rfl) (fun _ => rfl)
    fun _ => rfl
  have hcounted := hpulled.count
    (f := fun c => { c with framingErrors := c.framingErrors + dropped }) fun _ => rfl
  simp only [Station.pullFrame, h.collector, h.inbound, h.surroundings, ← hsearch, ← hdropped]
  exact .of_alike _ (hcounted.tellAll hboard.devices _)

lemma Alike.acceptFrames (h : s.Alike gap t) (now turns : Nat) :
    Concur gap (s.acceptFrames board now turns) (t.acceptFrames other now turns) := by
  induction turns generalizing s t with
  | zero => exact .of_alike _ h
  | succ turns ih =>
      obtain ⟨frame, s', t', hs, ht, h'⟩ := h.pullFrame hboard now
      simp only [Station.acceptFrames, hs, ht]
      cases frame with
      | none => exact .of_alike _ h'
      | some frame =>
          obtain ⟨frames, s'', t'', hs', ht', h''⟩ :=
            ih (h'.acceptFrame hboard now frame).performReset
          simp only [hs', ht']
          exact .of_alike _ h''

lemma Alike.startRound (h : s.Alike gap t) (now : Nat) :
    (s.startRound board now).Alike gap (t.startRound other now) := by
  set config := s.router.config with hconfig
  obtain ⟨result, s', t', hs, ht, h'⟩ := h.send hboard.devices config.strategy.openingCommand
  simp only [Station.startRound, h.config, ← hconfig, hs, ht]
  cases result with
  | ok =>
      refine .onRouter ?_ (·.reschedule (·.waitingUntil _)) (fun _ _ => rfl) fun _ => rfl
      exact h'.count fun _ => rfl
  | error cause =>
      have htold := h'.tell hboard.devices (.roundNotStarted cause)
      dsimp only
      split
      · exact htold.onRouter _ (fun _ _ => rfl) fun _ => rfl
      · exact htold

lemma Alike.abandonRound (h : s.Alike gap t) (now : Nat) :
    (s.abandonRound board now).Alike gap (t.abandonRound other now) := by
  have habandoned : ((s.tell board .roundAbandoned).count fun c =>
      { c with roundsAbandoned := c.roundsAbandoned + 1 }).Alike gap
      ((t.tell other .roundAbandoned).count fun c =>
      { c with roundsAbandoned := c.roundsAbandoned + 1 }) :=
    (h.tell hboard.devices _).count fun _ => rfl
  simp only [Station.abandonRound, habandoned.config]
  split
  · exact habandoned.endOnlyRound hboard
  · have hdue := habandoned.onRouter (·.reschedule (·.dueAt now)) (fun _ _ => rfl) fun _ => rfl
    exact hdue.startRound hboard now

lemma Alike.keepSchedule (h : s.Alike gap t) (now : Nat) :
    (s.keepSchedule board now).Alike gap (t.keepSchedule other now) := by
  simp only [Station.keepSchedule, h.mode, h.config, h.inventoryActive, h.schedule]
  split
  · exact h
  · split
    · split
      · exact h
      · exact h.abandonRound hboard now
    · split
      · exact h
      · exact h.startRound hboard now

lemma Alike.discardAfterOverrun (h : s.Alike gap t) :
    (s.discardAfterOverrun board).Alike gap (t.discardAfterOverrun other) := by
  have hoverrun : t.line.takeOverrun.1 = s.line.takeOverrun.1 :=
    h.reads (·.line.overrun) fun _ => rfl
  have htaken := h.onLine (·.takeOverrun.2) fun _ => rfl
  simp only [Station.discardAfterOverrun, hoverrun]
  split
  · exact (htaken.tell hboard.devices .overrun).onRouter
      (fun r => { r with collector := r.collector.reset }) (fun _ _ => rfl) fun _ => rfl
  · exact htaken

lemma Alike.processReceived (h : s.Alike gap t) :
    Concur gap (s.processReceived board) (t.processReceived other) := by
  have hready := (h.discardAfterOverrun hboard).performReset
  simp only [Station.processReceived, frameTurns, h.now hboard.devices, hready.inbound,
    hboard.patience]
  obtain ⟨frames, s', t', hs, ht, h'⟩ := hready.acceptFrames hboard (s.now board)
    ((s.discardAfterOverrun board).performReset.line.inbound.length + 1 + board.patience)
  simp only [hs, ht]
  exact .of_alike _ (h'.keepSchedule hboard _)

lemma Alike.process (h : s.Alike gap t) : Concur gap (s.process board) (t.process other) := by
  simp only [Station.process, h.busy, h.running]
  split
  · exact .of_alike _ h
  · split
    · exact .of_alike _ h
    · have hbusy := h.onRouter (fun r => { r with busy := true }) (fun _ _ => rfl) fun _ => rfl
      obtain ⟨frames, s', t', hs, ht, h'⟩ := hbusy.processReceived hboard
      simp only [hs, ht]
      exact .of_alike _ (h'.onRouter _ (fun _ _ => rfl) fun _ => rfl)

end

/-! ## Asking -/

lemma Alike.takeAnswer (h : s.Alike gap t) (request : Request) :
    Concur gap (s.takeAnswer request) (t.takeAnswer request) := by
  simp only [Station.takeAnswer, h.answers]
  exact .of_alike _ (h.onRouter _ (fun _ _ => rfl) fun _ => rfl)

/-- Whoever begins to wait fixes the gap: it is what the counts are apart at that time. -/
lemma Alike.expecting (h : s.Alike none t) (request : Request) :
    (s.expecting request).Alike
      (some (t.router.counters.framesReceived - s.router.counters.framesReceived))
      (t.expecting request) where
  same := by
    have hstation : t.resetStatistics.expecting request = s.resetStatistics.expecting request := by
      rw [h.same]
    exact hstation
  awaited _ := rfl
  apart k hk := by
    obtain rfl := Option.some.inj hk
    change t.router.counters.framesReceived = s.router.counters.framesReceived +
      (t.router.counters.framesReceived - s.router.counters.framesReceived)
    rw [UInt32.add_comm, UInt32.sub_add_cancel]

lemma Alike.forgetRequest (h : s.Alike gap t) :
    (s.onRouter fun r => { r with awaiting := none }).Alike none
      (t.onRouter fun r => { r with awaiting := none }) where
  same := by
    have hstation : t.resetStatistics.onRouter (fun r => { r with awaiting := none }) =
        s.resetStatistics.onRouter fun r => { r with awaiting := none } := by rw [h.same]
    exact hstation
  awaited := nofun
  apart := nofun

section

variable {k : UInt32} (hboard : board.AgreesAt (some k) other)

include hboard

/--
  One look for an answer.  This is the place where a count is read: both stations see that frames
  have come in, or neither does, because what was seen is as far apart as what there is now.
-/
lemma Alike.look (h : s.Alike (some k) t) (request : Request) (seen : UInt32) :
    Concur (some k) (s.look board request seen) (t.look other request (seen + k)) := by
  have hprocessed := (h.process hboard).alike
  have hseen : (t.process other).2.router.counters.framesReceived = seen + k ↔
      (s.process board).2.router.counters.framesReceived = seen := by
    rw [hprocessed.apart k rfl]
    exact UInt32.add_left_inj k
  simp only [Station.look, hseen]
  split
  · exact .of_alike _ hprocessed
  · exact hprocessed.takeAnswer request

lemma Alike.waitUntil (h : s.Alike (some k) t) (request : Request)
    (deadline pause turns : Nat) (seen : UInt32) :
    Concur (some k) (s.waitUntil board request deadline pause turns seen)
      (t.waitUntil other request deadline pause turns (seen + k)) := by
  induction turns generalizing seen s t with
  | zero => exact .of_alike _ h
  | succ turns ih =>
      obtain ⟨answer, s', t', hs, ht, h'⟩ := h.look hboard request seen
      simp only [Station.waitUntil, hs, ht]
      cases answer with
      | some answer => exact .of_alike _ h'
      | none =>
          simp only [h'.now hboard.devices, h'.apart k rfl]
          split
          · exact .of_alike _ (h'.tell hboard.devices _)
          · exact ih (h'.wait hboard pause) _

lemma Alike.sendAndWait (h : s.Alike (some k) t) (address : UInt8)
    (command : Command) (timeoutMs : UInt32) :
    Concur (some k) (s.sendAndWait board address command timeoutMs)
      (t.sendAndWait other address command timeoutMs) := by
  obtain ⟨result, s', t', hs, ht, h'⟩ := h.sendTo hboard.devices address command
  simp only [Station.sendAndWait, hs, ht]
  cases result with
  | error cause => exact .of_alike _ h'
  | ok size =>
      simp only [h'.now hboard.devices, h'.config, hboard.patience, h.apart k rfl]
      exact h'.waitUntil hboard _ _ _ _ _

end

/-- Two calls are alike if they are while the request is noted. -/
lemma Concur.ask {address : UInt8} {command : Command} {timeoutMs : UInt32}
    (h : Concur gap
      ((s.expecting { address, command := command.code }).sendAndWait board address command
        timeoutMs)
      ((t.expecting { address, command := command.code }).sendAndWait other address command
        timeoutMs)) :
    Concur none (s.ask board address command timeoutMs)
      (t.ask other address command timeoutMs) := by
  obtain ⟨answer, s', t', hs, ht, h'⟩ := h
  refine ⟨answer, _, _, ?_, ?_, h'.forgetRequest⟩
  · change (((s.expecting _).sendAndWait board address command timeoutMs).1,
      ((s.expecting _).sendAndWait board address command timeoutMs).2.onRouter _) = _
    rw [hs]
  · change (((t.expecting _).sendAndWait other address command timeoutMs).1,
      ((t.expecting _).sendAndWait other address command timeoutMs).2.onRouter _) = _
    rw [ht]

/-- **The whole of asking**: the gap is what it is when the request is noted. -/
lemma Alike.ask (h : s.Alike none t) (hboard : board.Agrees other) (address : UInt8)
    (command : Command) (timeoutMs : UInt32) :
    Concur none (s.ask board address command timeoutMs)
      (t.ask other address command timeoutMs) :=
  ((h.expecting { address, command := command.code }).sendAndWait (hboard _) address command
    timeoutMs).ask

end Station

end RfidLink
