import Mathlib.Logic.Relation
import Mathlib.Tactic.Lemma
import RfidLink.Session

/-!
# What may happen to a station

A station is never alone with its router: its user asks for things, bytes arrive, the wire takes
bytes, time passes, and every callback may do any of this while an operation is under way.  The
statements about whole runs need all of it as data.

* `Operation` lists what can be asked of a router and what its serial port does, and `Action`
  adds what a session can be asked for.
* `Station.Runs` and `Session.Runs` are the runs: any number of operations in any order, the
  surroundings changing in between as far as `drift` allows.
* `Board.Nests` says that the callbacks of a board do nothing but run such operations, with
  callbacks that do the same.  There is no bound on the depth; a callback just has to come back,
  which is what makes the definition inductive.  `Board.NestsBy` is the same for events of any kind.

**`Board.Nests.callbacks_keep`** is what the definitions are for.  To show that callbacks keep a
property it is enough to show that every operation keeps it on a board whose callbacks keep it;
the circle is cut by an induction on how the callbacks nest.
-/

namespace RfidLink

variable {ε : Type}

/-- What can be asked of a router, and what its serial port does. -/
inductive Operation where
  | start
  | stop
  | process
  | enterMode (mode : Mode)
  | beginSchedule
  | endSchedule
  | setConfig (config : Config)
  | setDebounceSeconds (seconds : UInt32)
  | setAddress (address : UInt8)
  | forgetTags
  | reportTotals
  | resetStatistics
  | takeOverrun
  | send (command : Command)
  | sendRaw (code : UInt8) (args : List UInt8)
  | sendTo (address : UInt8) (command : Command)
  | ask (address : UInt8) (command : Command) (timeoutMs : UInt32)
  /-- Bytes arrive. -/
  | receive (bytes : List UInt8)
  /-- The wire takes waiting bytes, until it refuses one. -/
  | transmit
deriving DecidableEq

/-- The station after an operation. -/
def Operation.run (board : Board ε) (s : Station ε) : Operation → Station ε
  | start => (s.start board).2
  | stop => (s.stop board).2
  | process => (s.process board).2
  | enterMode mode => s.enterMode board mode
  | beginSchedule => s.beginSchedule board
  | endSchedule => s.endSchedule
  | setConfig config => s.onRouter (·.setConfig config)
  | setDebounceSeconds seconds => s.onRouter (·.setDebounceSeconds seconds)
  | setAddress address => s.onRouter (·.setAddress address)
  | forgetTags => s.onRouter (·.forgetTags)
  | reportTotals => (s.reportTotals board).2
  | resetStatistics => s.resetStatistics
  | takeOverrun => { s with line := s.line.takeOverrun.2 }
  | send command => (s.send board command).2
  | sendRaw code args => (s.sendRaw board code args).2
  | sendTo address command => (s.sendTo board address command).2
  | ask address command timeoutMs => (s.ask board address command timeoutMs).2
  | receive bytes => s.receive bytes
  | transmit => (s.transmit board).2

/-! ## Runs of a station -/

namespace Station

/-- An operation is carried out, or the surroundings change by themselves. -/
inductive Event (board : Board ε) (allowed : Operation → Prop) (drift : ε → ε → Prop) :
    Station ε → Station ε → Prop
  | operate {s} (operation : Operation) (h : allowed operation) :
      Event board allowed drift s (operation.run board s)
  | drift {s} (e : ε) (h : drift s.surroundings e) :
      Event board allowed drift s { s with surroundings := e }

/-- Any number of events, one after the other. -/
abbrev Runs (board : Board ε) (allowed : Operation → Prop) (drift : ε → ε → Prop) :
    Station ε → Station ε → Prop :=
  Relation.ReflTransGen (Event board allowed drift)

end Station

/-! ## Callbacks -/

namespace Board

/-- Every callback leads from a station to one that `R` relates to it. -/
structure CallbacksAre (board : Board ε) (R : Station ε → Station ε → Prop) : Prop where
  deliver : ∀ text s, R s (board.deliver text s).2
  notifyRead : ∀ s, R s (board.notifyRead s)
  notifyError : ∀ isOn s, R s (board.notifyError isOn s)
  notifyRunning : ∀ isOn s, R s (board.notifyRunning isOn s)
  wait : ∀ ms s, R s (board.wait ms s)

lemma CallbacksAre.mono {board : Board ε} {R R' : Station ε → Station ε → Prop}
    (h : board.CallbacksAre R) (hRR' : ∀ s t, R s t → R' s t) : board.CallbacksAre R' where
  deliver text s := hRR' _ _ (h.deliver text s)
  notifyRead s := hRR' _ _ (h.notifyRead s)
  notifyError isOn s := hRR' _ _ (h.notifyError isOn s)
  notifyRunning isOn s := hRR' _ _ (h.notifyRunning isOn s)
  wait ms s := hRR' _ _ (h.wait ms s)

/-- Two boards that differ in nothing but their callbacks and their patience. -/
structure SameDevices (board other : Board ε) : Prop where
  now : board.now = other.now
  settings : board.settings = other.settings
  write : board.write = other.write
  emit : board.emit = other.emit
  interrupts : board.interrupts = other.interrupts

lemma SameDevices.refl (board : Board ε) : board.SameDevices board := ⟨rfl, rfl, rfl, rfl, rfl⟩

lemma SameDevices.trans {b₁ b₂ b₃ : Board ε} (h : b₁.SameDevices b₂) (h' : b₂.SameDevices b₃) :
    b₁.SameDevices b₃ :=
  ⟨h.now.trans h'.now, h.settings.trans h'.settings, h.write.trans h'.write,
    h.emit.trans h'.emit, h.interrupts.trans h'.interrupts⟩

/--
  The callbacks of a board come back, and until then they do nothing but run allowed operations.
  Each time a callback is run it may behave like another of the `inner` boards: they have the same
  devices, and for their callbacks the same holds.
-/
inductive Nests (allowed : Operation → Prop) (drift : ε → ε → Prop) : Board ε → Prop
  | intro {board : Board ε} (inner : Board ε → Prop)
      (hdevices : ∀ b, inner b → b.SameDevices board)
      (hinner : ∀ b, inner b → Nests allowed drift b)
      (hcalls : board.CallbacksAre fun s t =>
        (∃ e, drift s.surroundings e ∧ t = { s with surroundings := e }) ∨
          ∃ b, inner b ∧ s.Runs b allowed drift t) :
      Nests allowed drift board

end Board

variable {allowed : Operation → Prop} {drift : ε → ε → Prop} {P : Station ε → Prop}

/-- Callbacks that do nothing nest. -/
lemma Board.Nests.of_idle {board : Board ε} (hdrift : ∀ e, drift e e)
    (h : board.CallbacksAre fun s t => t = s) : board.Nests allowed drift := by
  refine .intro (fun _ => False) ?_ ?_ (h.mono ?_)
  · intro _ hb
    cases hb
  · intro _ hb
    cases hb
  · rintro s t rfl
    exact .inl ⟨t.surroundings, hdrift _, rfl⟩

/-- Callbacks that do nothing or run one operation on a board with the same devices nest. -/
lemma Board.Nests.of_inner {board inner : Board ε} (hdrift : ∀ e, drift e e)
    (hinner : inner.Nests allowed drift) (hdevices : inner.SameDevices board)
    (h : board.CallbacksAre fun s t =>
      t = s ∨ ∃ operation, allowed operation ∧ t = operation.run inner s) :
    board.Nests allowed drift := by
  refine .intro (· = inner) ?_ ?_ (h.mono ?_)
  · rintro b rfl
    exact hdevices
  · rintro b rfl
    exact hinner
  · rintro s t (rfl | ⟨operation, hallowed, rfl⟩)
    · exact .inl ⟨t.surroundings, hdrift _, rfl⟩
    · exact .inr ⟨inner, rfl, .single (.operate operation hallowed)⟩

/-- What every event keeps, a run keeps. -/
lemma Station.Runs.keep {board : Board ε} {s t : Station ε}
    (hop : ∀ operation, allowed operation → ∀ s, P s → P (operation.run board s))
    (hdrift : ∀ s e, drift s.surroundings e → P s → P { s with surroundings := e })
    (h : s.Runs board allowed drift t) (hs : P s) : P t := by
  induction h with
  | refl => exact hs
  | tail _ hstep ih =>
      cases hstep with
      | operate operation ha => exact hop operation ha _ ih
      | drift e he => exact hdrift _ e he ih

/--
  **Callbacks keep what operations keep.**  If every allowed operation keeps `P` on each board with
  the given devices whose callbacks keep `P`, then callbacks that nest keep `P`.
-/
theorem Board.Nests.callbacks_keep {devices board : Board ε}
    (hop : ∀ board : Board ε, board.SameDevices devices →
      board.CallbacksAre (fun s t => P s → P t) →
      ∀ operation, allowed operation → ∀ s, P s → P (operation.run board s))
    (hdrift : ∀ s e, drift s.surroundings e → P s → P { s with surroundings := e })
    (hdevices : board.SameDevices devices) (h : board.Nests allowed drift) :
    board.CallbacksAre fun s t => P s → P t := by
  induction h with
  | intro inner hsame _ hcalls ih =>
      refine hcalls.mono ?_
      rintro s t (⟨e, he, rfl⟩ | ⟨b, hb, hst⟩) hs
      · exact hdrift s e he hs
      · have hb' : b.SameDevices devices := (hsame b hb).trans hdevices
        exact hst.keep (hop b hb' (ih b hb hb')) hdrift hs

/-! ## Callbacks that run events of any kind -/

namespace Board

/--
  The callbacks of a board come back, and until then nothing happens but events of a given kind.
  What an event is may depend on the board it happens on, and this is one of the `inner` boards, for
  whose callbacks the same holds.
-/
inductive NestsBy (event : Board ε → Station ε → Station ε → Prop) : Board ε → Prop
  | intro {board : Board ε} (inner : Board ε → Prop)
      (hdevices : ∀ b, inner b → b.SameDevices board)
      (hinner : ∀ b, inner b → NestsBy event b)
      (hcalls : board.CallbacksAre fun s t =>
        t = s ∨ ∃ b, inner b ∧ Relation.ReflTransGen (event b) s t) :
      NestsBy event board

variable {event : Board ε → Station ε → Station ε → Prop}

/-- Callbacks that do nothing nest. -/
lemma NestsBy.of_idle {board : Board ε} (h : board.CallbacksAre fun s t => t = s) :
    board.NestsBy event := by
  refine .intro (fun _ => False) ?_ ?_ (h.mono fun _ _ => .inl)
  · intro _ hb
    cases hb
  · intro _ hb
    cases hb

/-- Callbacks that do nothing or run events on a board with the same devices nest. -/
lemma NestsBy.of_inner {board inner : Board ε} (hinner : inner.NestsBy event)
    (hdevices : inner.SameDevices board)
    (h : board.CallbacksAre fun s t => t = s ∨ Relation.ReflTransGen (event inner) s t) :
    board.NestsBy event := by
  refine .intro (· = inner) ?_ ?_ (h.mono ?_)
  · rintro b rfl
    exact hdevices
  · rintro b rfl
    exact hinner
  · rintro s t (hsame | hevents)
    · exact .inl hsame
    · exact .inr ⟨inner, rfl, hevents⟩

/--
  **Callbacks do what events do.**  If every event, on each board with the given devices whose
  callbacks lead along `R`, leads along `R`, then so do callbacks that nest.
-/
theorem NestsBy.callbacks_are {devices board : Board ε} {R : Station ε → Station ε → Prop}
    (hrefl : ∀ s, R s s) (htrans : ∀ s t u, R s t → R t u → R s u)
    (hevent : ∀ b : Board ε, b.SameDevices devices → b.CallbacksAre R →
      ∀ s t, event b s t → R s t)
    (hdevices : board.SameDevices devices) (h : board.NestsBy event) : board.CallbacksAre R := by
  induction h with
  | intro inner hsame _ hcalls ih =>
      refine hcalls.mono ?_
      rintro s t (rfl | ⟨b, hb, hst⟩)
      · exact hrefl t
      · have hb' : b.SameDevices devices := (hsame b hb).trans hdevices
        induction hst with
        | refl => exact hrefl s
        | tail _ hstep ih' => exact htrans _ _ _ ih' (hevent b hb' (ih b hb hb') _ _ hstep)

end Board

/-! ## Runs of a session -/

/-- What can be asked of a session, or of its router behind its back. -/
inductive Action where
  | onRouter (operation : Operation)
  | connect
  | startInventory
  | stopInventory
  | toggleInventory
  | command (command : Command)
  | poll
deriving DecidableEq

/-- The session after an action. -/
def Action.run (board : Board ε) (s : Session ε) : Action → Session ε
  | onRouter operation => s.onStation (operation.run board ·)
  | connect => (s.connect board).2
  | startInventory => (s.startInventory board).2
  | stopInventory => (s.stopInventory board).2
  | toggleInventory => (s.toggleInventory board).2
  | command c => (s.command board c).2
  | poll => (s.poll board).2

namespace Session

/-- An action is carried out, or the surroundings change by themselves. -/
inductive Event (board : Board ε) (allowed : Action → Prop) (drift : ε → ε → Prop) :
    Session ε → Session ε → Prop
  | act {s} (action : Action) (h : allowed action) :
      Event board allowed drift s (action.run board s)
  | drift {s} (e : ε) (h : drift s.station.surroundings e) :
      Event board allowed drift s (s.onStation fun t => { t with surroundings := e })

/-- Any number of events, one after the other. -/
abbrev Runs (board : Board ε) (allowed : Action → Prop) (drift : ε → ε → Prop) :
    Session ε → Session ε → Prop :=
  Relation.ReflTransGen (Event board allowed drift)

/-- What every event keeps of the station, a run keeps. -/
lemma Runs.keep {board : Board ε} {allowed : Action → Prop} {s t : Session ε}
    (hact : ∀ action, allowed action → ∀ s : Session ε, P s.station → P (action.run board s).station)
    (hdrift : ∀ s e, drift s.surroundings e → P s → P { s with surroundings := e })
    (h : s.Runs board allowed drift t) (hs : P s.station) : P t.station := by
  induction h with
  | refl => exact hs
  | tail _ hstep ih =>
      cases hstep with
      | act action ha => exact hact action ha _ ih
      | drift e he => exact hdrift _ e he ih

/-- Actions carried out one after the other are a run. -/
lemma runs_foldl {board : Board ε} {allowed : Action → Prop} (actions : List Action)
    (h : ∀ action ∈ actions, allowed action) (s : Session ε) :
    s.Runs board allowed drift (actions.foldl (fun s action => action.run board s) s) := by
  induction actions generalizing s with
  | nil => exact .refl
  | cons action rest ih =>
      have hfirst : allowed action := h action List.mem_cons_self
      have hrest : ∀ a ∈ rest, allowed a := fun a ha => h a (List.mem_cons_of_mem _ ha)
      exact .head (.act action hfirst) (ih hrest _)

end Session

end RfidLink
