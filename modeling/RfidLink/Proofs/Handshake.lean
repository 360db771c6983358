import Mathlib.Tactic.Lemma
import Mathlib.Tactic.Set
import RfidLink.Session

/-!
# The outcome of the handshake

`Session.connect` asks up to seven questions, and each of them may be answered, be answered with an
error status, stay without an answer, or fail.  What a failure means depends on the question: some
end the handshake, some count as silence and some are ignored.  Halfway through, the handshake may
adopt another reader.

The statements are about **every link**, not only about the router of this library.  A link may
answer anything at any time.

* `Link` is all that the handshake uses of a router, of the settings and of the journal.
* `Dialogue` is a program that talks over a link, as data: what it does next depends on the replies
  it gets.  `handshake` is the handshake as such a program, and `Session.connect_eq_hold` says that
  `Session.connect` holds exactly this dialogue over the router of its station.
* `Dialogue.Goes` are the ways in which a dialogue can go, whatever the link does.  The ways of the
  handshake are listed in `Handshake.Way`: four at which it is cut short, one without any answer,
  and the one on which it succeeds.
* **`handshake_outcome`** reads off what these ways have in common: result, flag, address, and the
  questions in their order.
-/

namespace RfidLink

variable {ε σ : Type} {board : Board ε}

/-! ## Replies -/

/-- What comes of a question. -/
abbrev Feedback := Except OperationError Answer

/-- Whether an error ends the handshake; every other error counts as silence. -/
def OperationError.endsHandshake : OperationError → Bool
  | notRunning | noRoom .. => true
  | _ => false

/-- The error with which a reply ends the handshake. -/
def Feedback.fatal? : Feedback → Option OperationError
  | .ok _ => none
  | .error cause => if cause.endsHandshake then some cause else none

/-! ## Links and dialogues -/

/-- What a handshake uses of a router, of the settings and of the journal; no laws are assumed. -/
structure Link (σ : Type) where
  config : σ → Config
  settings : σ → ReaderSettings
  /-- Send a command to an address and wait for the answer, for a number of milliseconds. -/
  ask : UInt8 → Command → UInt32 → σ → Feedback × σ
  setAddress : UInt8 → σ → σ
  tell : Remark → σ → σ

/-- A link remembers an address where `view` finds it: nothing but `setAddress` changes it. -/
structure Link.Remembers (link : Link σ) (view : σ → UInt8) : Prop where
  setAddress : ∀ address w, view (link.setAddress address w) = address
  ask : ∀ address command timeoutMs w, view (link.ask address command timeoutMs w).2 = view w
  tell : ∀ remark w, view (link.tell remark w) = view w

/-- What somebody who talks over a link knows about the reader, and the state of the link. -/
structure Contact (σ : Type) where
  connected : Bool
  address : UInt8
  world : σ

/-- A program that talks with a reader. -/
inductive Dialogue where
  | done (result : Except OperationError Unit)
  /-- Note whether there is a connection. -/
  | mark (connected : Bool) (next : Dialogue)
  | tell (remark : Remark) (next : Dialogue)
  /-- Use the reader at an address from now on, and let the link use it as well. -/
  | adopt (address : UInt8) (next : Dialogue)
  /-- Look at the settings. -/
  | consult (next : ReaderSettings → Dialogue)
  | ask (address : UInt8) (command : Command) (next : Feedback → Dialogue)

/-- Something that happens in a dialogue. -/
inductive Exchange where
  | asked (address : UInt8) (command : Command) (reply : Feedback)
  | adopted (address : UInt8)
  | consulted (settings : ReaderSettings)

namespace Exchange

def reply? : Exchange → Option Feedback
  | asked _ _ reply => some reply
  | adopted _ | consulted _ => none

/-- The question, and the address it goes to. -/
def question? : Exchange → Option (UInt8 × Command)
  | asked address command _ => some (address, command)
  | adopted _ | consulted _ => none

def adopted? : Exchange → Option UInt8
  | adopted address => some address
  | asked .. | consulted _ => none

def settings? : Exchange → Option ReaderSettings
  | consulted settings => some settings
  | asked .. | adopted _ => none

end Exchange

/-- A dialogue that was held: what happened, in which order, and what came of it. -/
structure Held (σ : Type) where
  exchanges : List Exchange
  result : Except OperationError Unit
  contact : Contact σ

namespace Held

/-- What was held after something else had happened. -/
def after (exchange : Exchange) (held : Held σ) : Held σ :=
  { held with exchanges := exchange :: held.exchanges }

/-- The replies, in the order of the questions. -/
def replies (held : Held σ) : List Feedback := held.exchanges.filterMap Exchange.reply?

def questions (held : Held σ) : List (UInt8 × Command) :=
  held.exchanges.filterMap Exchange.question?

def adopted (held : Held σ) : List UInt8 := held.exchanges.filterMap Exchange.adopted?

def consulted (held : Held σ) : List ReaderSettings := held.exchanges.filterMap Exchange.settings?

/-- Whether the question at a place, counted from zero, was answered, with whatever status. -/
def isAnswered (held : Held σ) (place : Nat) : Bool := held.replies[place]?.any Except.isOk

/-- The error with which the reply at a place ended the handshake. -/
def fatal? (held : Held σ) (place : Nat) : Option OperationError :=
  held.replies[place]?.bind Feedback.fatal?

end Held

/-- Hold a dialogue over a link. -/
def Dialogue.hold (link : Link σ) : Dialogue → Contact σ → Held σ
  | done result, c => { exchanges := [], result, contact := c }
  | mark connected next, c => next.hold link { c with connected }
  | tell remark next, c => next.hold link { c with world := link.tell remark c.world }
  | adopt address next, c =>
    (next.hold link { c with address, world := link.setAddress address c.world }).after
      (.adopted address)
  | consult next, c =>
    ((next (link.settings c.world)).hold link c).after (.consulted (link.settings c.world))
  | ask address command next, c =>
    let (reply, world) :=
      link.ask address command (link.config c.world).responseTimeoutMs c.world
    ((next reply).hold link { c with world }).after (.asked address command reply)

/-! ## The handshake as a dialogue -/

namespace Handshake

/-- A question whose silence is tolerated; a router that does not run and a full ring are not. -/
def step (address : UInt8) (command : Command) (next : Option Answer → Dialogue) : Dialogue :=
  .ask address command fun reply =>
    match reply with
    | .ok answer =>
      if answer.status.isSuccess then next (some answer)
      else .tell (.stepRefused answer.command answer.status) (next (some answer))
    | .error (.timeout _) => next none
    | .error .notRunning => .done (.error .notRunning)
    | .error (.noRoom queued dropped) => .done (.error (.noRoom queued dropped))
    | .error cause => .tell (.stepFailed command.code cause) (next none)

/-- A setting whose answer does not matter. -/
def setting (address : UInt8) (command : Command) (next : Dialogue) : Dialogue :=
  .ask address command fun reply =>
    match reply.bind Answer.accepted with
    | .ok _ => next
    | .error cause => .tell (.settingIgnored command.code cause) next

def sendSettings (address : UInt8) (next : Dialogue) : Dialogue :=
  setting address (.setAntennaCheck false) <| .consult fun power =>
    setting address (.modifyRfPower power.rfPower) <| .consult fun antenna =>
      if antenna.antenna = 0 then next
      else setting address (.setupAntennaMux antenna.antenna) next

/-- The end of a handshake that has been answered. -/
def finish (address : UInt8) : Dialogue :=
  sendSettings address (.mark true (.tell (.connected address) (.done (.ok ()))))

def settle (workMode address : UInt8) (hasAnswered : Bool) : Dialogue :=
  step address .stopImmediately fun stopped =>
    let rest := step address (.setWorkMode workMode) fun mode =>
      if hasAnswered || mode.isSome then finish address
      else .tell .noAnswer (.done (.error .handshakeFailed))
    if stopped.isNone then .tell .stopUnanswered rest else rest

/-- The reader to use: the one that answered all of them, if the configured one is silent. -/
def responder (configured : UInt8) (toAll toOne : Option Answer) : UInt8 :=
  match toOne, toAll with
  | none, some answer => answer.address
  | _, _ => configured

def afterQuestions (workMode configured : UInt8) (toAll toOne : Option Answer) : Dialogue :=
  let address := responder configured toAll toOne
  let rest := Dialogue.adopt address (settle workMode address (toAll.isSome || toOne.isSome))
  match toOne, toAll with
  | none, some answer => .tell (.answersElsewhere answer.address configured) rest
  | _, _ => rest

end Handshake

open Handshake in
/-- The handshake with a reader that is to be found at an address. -/
def handshake (workMode configured : UInt8) : Dialogue :=
  .mark false <| .tell (.connecting configured) <|
    step broadcastAddress .obtainReaderInfo fun toAll =>
      step configured .obtainReaderInfo fun toOne =>
        afterQuestions workMode configured toAll toOne

/-- Hold the handshake that configuration and settings ask for. -/
def Link.connect (link : Link σ) (c : Contact σ) : Held σ :=
  (handshake (link.config c.world).workMode (link.settings c.world).address).hold link c

/-! ## Sessions hold it -/

/-- The router of a station as a link. -/
def Station.link (board : Board ε) : Link (Station ε) where
  config s := s.router.config
  settings s := board.settings s.surroundings
  ask address command timeoutMs s := s.ask board address command timeoutMs
  setAddress address s := s.onRouter (·.setAddress address)
  tell remark s := s.tell board remark

namespace Session

/-- What a session knows about its reader, and its station. -/
def contact (s : Session ε) : Contact (Station ε) :=
  { connected := s.connected, address := s.address, world := s.station }

/-- The result of a dialogue, and the session after it. -/
def holding (s : Session ε) (held : Held (Station ε)) : Except OperationError Unit × Session ε :=
  (held.result,
    { s with
      connected := held.contact.connected
      address := held.contact.address
      station := held.contact.world })

/-- A dialogue that asks goes on with the reply, in the session that has heard it. -/
lemma holding_ask {address : UInt8} {command : Command} {next : Feedback → Dialogue}
    {s t : Session ε} {reply : Feedback} (h : s.ask board address command = (reply, t)) :
    s.holding ((Dialogue.ask address command next).hold (Station.link board) s.contact) =
      t.holding ((next reply).hold (Station.link board) t.contact) := by
  cases h
  rfl

variable (board) in
/-- A step of a session is a step of a dialogue. -/
lemma holding_step (address : UInt8) (command : Command) (next : Option Answer → Dialogue)
    (s : Session ε) :
    s.holding ((Handshake.step address command next).hold (Station.link board) s.contact) =
      match s.step board address command with
      | (.error cause, t) => (.error cause, t)
      | (.ok answer, t) => t.holding ((next answer).hold (Station.link board) t.contact) := by
  rcases hask : s.ask board address command with ⟨cause | answer, t⟩
  · rw [Handshake.step, holding_ask hask, step, hask]
    cases cause <;> rfl
  · rw [Handshake.step, holding_ask hask, step, hask]
    dsimp only
    split <;> rfl

variable (board) in
lemma holding_consult (next : ReaderSettings → Dialogue) (s : Session ε) :
    s.holding ((Dialogue.consult next).hold (Station.link board) s.contact) =
      s.holding ((next (s.settings board)).hold (Station.link board) s.contact) := rfl

variable (board) in
lemma address_sendSetting (command : Command) (s : Session ε) :
    (s.sendSetting board command).address = s.address := by
  simp only [sendSetting]
  split <;> rfl

lemma holding_setting {address : UInt8} (command : Command) (next : Dialogue) {s : Session ε}
    (haddress : s.address = address) :
    s.holding ((Handshake.setting address command next).hold (Station.link board) s.contact) =
      (s.sendSetting board command).holding
        (next.hold (Station.link board) (s.sendSetting board command).contact) := by
  subst haddress
  rcases hask : s.ask board s.address command with ⟨reply, t⟩
  rw [Handshake.setting, holding_ask hask, sendSetting, hask]
  dsimp only
  cases reply.bind Answer.accepted <;> rfl

lemma holding_sendSettings {address : UInt8} (next : Dialogue) {s : Session ε}
    (haddress : s.address = address) :
    s.holding ((Handshake.sendSettings address next).hold (Station.link board) s.contact) =
      (s.sendSettings board).holding
        (next.hold (Station.link board) (s.sendSettings board).contact) := by
  set checked := s.sendSetting board (.setAntennaCheck false) with hchecked
  have haddress' : checked.address = address :=
    (address_sendSetting board _ s).trans haddress
  set powered := checked.sendSetting board (.modifyRfPower (checked.settings board).rfPower)
    with hpowered
  have haddress'' : powered.address = address :=
    (address_sendSetting board _ checked).trans haddress'
  have hsent : s.sendSettings board = if (powered.settings board).antenna = 0 then powered
      else powered.sendSetting board (.setupAntennaMux (powered.settings board).antenna) := rfl
  rw [Handshake.sendSettings, holding_setting _ _ haddress, ← hchecked, holding_consult,
    holding_setting _ _ haddress', ← hpowered, holding_consult, hsent]
  split
  · rfl
  · exact holding_setting _ next haddress''

variable (board) in
lemma address_step (address : UInt8) (command : Command) (s : Session ε) :
    (s.step board address command).2.address = s.address := by
  have hasked : (s.ask board address command).2.address = s.address := rfl
  rcases hask : s.ask board address command with ⟨cause | answer, t⟩ <;> rw [hask] at hasked
  · rw [step, hask]
    cases cause <;> exact hasked
  · rw [step, hask]
    dsimp only
    split <;> exact hasked

variable (board) in
lemma holding_finish {address : UInt8} {s : Session ε} (haddress : s.address = address) :
    s.holding ((Handshake.finish address).hold (Station.link board) s.contact) =
      (.ok (), { s.sendSettings board with connected := true }.tell board
        (.connected (s.sendSettings board).address)) := by
  have haddress' : (s.sendSettings board).address = address := by
    rw [← haddress]
    simp only [sendSettings]
    split <;> simp only [address_sendSetting]
  rw [Handshake.finish, holding_sendSettings _ haddress, haddress']
  rfl

/-- The second half of the handshake, from the stop command on. -/
lemma holding_settle (workMode : UInt8) (hasAnswered : Bool) {address : UInt8} {s : Session ε}
    (haddress : s.address = address) :
    s.holding ((Handshake.settle workMode address hasAnswered).hold (Station.link board)
      s.contact) = s.settle board workMode hasAnswered := by
  have hstopped := address_step board address .stopImmediately s
  rw [Handshake.settle, holding_step, settle, haddress]
  rcases hstop : s.step board address .stopImmediately with ⟨cause | stopped, t⟩
  · rfl
  rw [hstop] at hstopped
  dsimp only at hstopped ⊢
  set told := if stopped.isNone then t.tell board .stopUnanswered else t with htold
  have haddress' : told.address = address := by
    rw [← haddress, ← hstopped, htold]
    split <;> rfl
  have htell (rest : Dialogue) :
      t.holding ((if stopped.isNone then .tell .stopUnanswered rest else rest).hold
        (Station.link board) t.contact) =
      told.holding (rest.hold (Station.link board) told.contact) := by
    rw [htold]
    split <;> rfl
  have hset := address_step board address (.setWorkMode workMode) told
  rw [htell, holding_step, haddress']
  rcases hmode : told.step board address (.setWorkMode workMode) with ⟨cause | mode, u⟩
  · rfl
  rw [hmode] at hset
  dsimp only at hset ⊢
  split
  · exact holding_finish board (hset.trans haddress')
  · rfl

variable (board) in
/-- After both questions a session adopts a reader and goes on, as the dialogue does. -/
lemma holding_afterQuestions (workMode configured : UInt8) (toAll toOne : Option Answer)
    (s : Session ε) :
    s.holding ((Handshake.afterQuestions workMode configured toAll toOne).hold
      (Station.link board) s.contact) =
    ((s.chooseReader board configured toAll toOne).onStation
      (·.onRouter (·.setAddress (s.chooseReader board configured toAll toOne).address))).settle
        board workMode (toAll.isSome || toOne.isSome) := by
  rw [← holding_settle workMode (toAll.isSome || toOne.isSome) rfl]
  cases toOne <;> cases toAll <;> rfl

/-- **The handshake of a session is the dialogue**, held over the router of its station. -/
theorem connect_eq_hold (s : Session ε) :
    s.connect board = s.holding ((Station.link board).connect s.contact) := by
  set t : Session ε :=
    { s with connected := false }.tell board (.connecting (s.settings board).address) with ht
  have hheld : s.holding ((Station.link board).connect s.contact) =
      t.holding ((Handshake.step broadcastAddress .obtainReaderInfo fun toAll =>
        Handshake.step (s.settings board).address .obtainReaderInfo fun toOne =>
          Handshake.afterQuestions s.station.router.config.workMode (s.settings board).address
            toAll toOne).hold (Station.link board) t.contact) := rfl
  rw [hheld, holding_step, connect, ← ht]
  rcases t.step board broadcastAddress .obtainReaderInfo with ⟨cause | toAll, u⟩
  · rfl
  dsimp only
  rw [holding_step]
  rcases u.step board (s.settings board).address .obtainReaderInfo with ⟨cause | toOne, v⟩
  · rfl
  exact (holding_afterQuestions board _ _ toAll toOne v).symm

end Session

/-! ## The ways of a dialogue -/

section

variable {next : Dialogue} {connected connected' : Bool} {exchanges : List Exchange}
  {result result' : Except OperationError Unit}

end

namespace Handshake

variable {address : UInt8} {command : Command} {connected connected' : Bool}
  {exchanges : List Exchange} {result : Except OperationError Unit}

/-- The questions of the first half, with their replies, and the choice between the readers. -/
def opening (configured : UInt8) (toAll toOne : Feedback) : List Exchange :=
  [.asked broadcastAddress .obtainReaderInfo toAll, .asked configured .obtainReaderInfo toOne,
    .adopted (responder configured toAll.toOption toOne.toOption)]

/-- The settings at the end: power and antenna as they are when they are looked at. -/
def settingsSent (address : UInt8) (check power mux : Feedback)
    (atPower atAntenna : ReaderSettings) : List Exchange :=
  [.asked address (.setAntennaCheck false) check, .consulted atPower,
    .asked address (.modifyRfPower atPower.rfPower) power, .consulted atAntenna] ++
  if atAntenna.antenna = 0 then []
  else [.asked address (.setupAntennaMux atAntenna.antenna) mux]

lemma adopted_settingsSent (address : UInt8) (check power mux : Feedback)
    (atPower atAntenna : ReaderSettings) :
    (settingsSent address check power mux atPower atAntenna).filterMap Exchange.adopted? = [] := by
  simp only [settingsSent]
  split <;> rfl

lemma settings_settingsSent (address : UInt8) (check power mux : Feedback)
    (atPower atAntenna : ReaderSettings) :
    (settingsSent address check power mux atPower atAntenna).filterMap Exchange.settings? =
      [atPower, atAntenna] := by
  simp only [settingsSent]
  split <;> rfl

/-- The ways of the handshake: what was exchanged, the result, and the flag at the end. -/
inductive Way (workMode configured : UInt8) :
    List Exchange → Except OperationError Unit → Bool → Prop
  | endedByAll {toAll cause} (h₁ : Feedback.fatal? toAll = some cause) :
      Way workMode configured [.asked broadcastAddress .obtainReaderInfo toAll] (.error cause) false
  | endedByOne {toAll toOne cause} (h₁ : Feedback.fatal? toAll = none)
      (h₂ : Feedback.fatal? toOne = some cause) :
      Way workMode configured [.asked broadcastAddress .obtainReaderInfo toAll,
        .asked configured .obtainReaderInfo toOne] (.error cause) false
  | endedByStop {toAll toOne stopped cause} {address : UInt8}
      (haddress : address = responder configured toAll.toOption toOne.toOption)
      (h₁ : Feedback.fatal? toAll = none) (h₂ : Feedback.fatal? toOne = none)
      (h₃ : Feedback.fatal? stopped = some cause) :
      Way workMode configured (opening configured toAll toOne ++
        [.asked address .stopImmediately stopped]) (.error cause) false
  | endedByMode {toAll toOne stopped mode cause} {address : UInt8}
      (haddress : address = responder configured toAll.toOption toOne.toOption)
      (h₁ : Feedback.fatal? toAll = none) (h₂ : Feedback.fatal? toOne = none)
      (h₃ : Feedback.fatal? stopped = none) (h₄ : Feedback.fatal? mode = some cause) :
      Way workMode configured (opening configured toAll toOne ++
        [.asked address .stopImmediately stopped, .asked address (.setWorkMode workMode) mode])
        (.error cause) false
  | silent {toAll toOne stopped mode} {address : UInt8}
      (haddress : address = responder configured toAll.toOption toOne.toOption)
      (h₁ : Feedback.fatal? toAll = none) (h₂ : Feedback.fatal? toOne = none)
      (h₃ : Feedback.fatal? stopped = none) (h₄ : Feedback.fatal? mode = none)
      (hsilent : (toAll.isOk || toOne.isOk || mode.isOk) = false) :
      Way workMode configured (opening configured toAll toOne ++
        [.asked address .stopImmediately stopped, .asked address (.setWorkMode workMode) mode])
        (.error .handshakeFailed) false
  | answered {toAll toOne stopped mode check power mux atPower atAntenna} {address : UInt8}
      (haddress : address = responder configured toAll.toOption toOne.toOption)
      (h₁ : Feedback.fatal? toAll = none) (h₂ : Feedback.fatal? toOne = none)
      (h₃ : Feedback.fatal? stopped = none) (h₄ : Feedback.fatal? mode = none)
      (hanswered : (toAll.isOk || toOne.isOk || mode.isOk) = true) :
      Way workMode configured (opening configured toAll toOne ++
        [.asked address .stopImmediately stopped, .asked address (.setWorkMode workMode) mode] ++
        settingsSent address check power mux atPower atAntenna) (.ok ()) true

/-- The questions before a reader is chosen. -/
def firstQuestions (configured : UInt8) : List (UInt8 × Command) :=
  [(broadcastAddress, .obtainReaderInfo), (configured, .obtainReaderInfo)]

/-- The questions to the chosen reader, by work mode, power and antenna. -/
def laterQuestions (workMode power antenna address : UInt8) : List (UInt8 × Command) :=
  [(address, .stopImmediately), (address, .setWorkMode workMode),
    (address, .setAntennaCheck false), (address, .modifyRfPower power)] ++
  if antenna = 0 then [] else [(address, .setupAntennaMux antenna)]

lemma questions_settingsSent (workMode address : UInt8) (check power mux : Feedback)
    (atPower atAntenna : ReaderSettings) :
    (settingsSent address check power mux atPower atAntenna).filterMap Exchange.question? =
      (laterQuestions workMode atPower.rfPower atAntenna.antenna address).drop 2 := by
  simp only [settingsSent, laterQuestions]
  split <;> rfl

variable {workMode configured : UInt8} {held : Held σ}

lemma Way.firstQuestions
    (h : Way workMode configured held.exchanges held.result held.contact.connected) :
    held.questions.take 2 <+: firstQuestions configured := by
  obtain ⟨exchanges, result, connected, address, world⟩ := held
  simp only [Held.questions] at h ⊢
  cases h with
  | endedByAll _ => exact ⟨[(configured, .obtainReaderInfo)], rfl⟩
  | _ => exact List.prefix_rfl

/-- What the chosen reader is asked, by the settings that were looked at. -/
structure Later (workMode address : UInt8) (held : Held σ) : Prop where
  adopted : held.adopted = [address]
  questions : ∃ atPower atAntenna : ReaderSettings,
    held.questions.drop 2 <+:
      laterQuestions workMode atPower.rfPower atAntenna.antenna address ∧
    (held.result = .ok () →
      held.questions.drop 2 =
        laterQuestions workMode atPower.rfPower atAntenna.antenna address ∧
      held.consulted = [atPower, atAntenna])

/-- Until the work mode is set, the settings do not matter. -/
lemma Later.of_unfinished {address : UInt8} (hadopted : held.adopted = [address])
    (hquestions : held.questions.drop 2 <+:
      [(address, .stopImmediately), (address, .setWorkMode workMode)])
    (hresult : held.result ≠ .ok ()) : Later workMode address held := by
  refine ⟨hadopted, ⟨0, 0, 0⟩, ⟨0, 0, 0⟩, ?_, fun hok => absurd hok hresult⟩
  exact hquestions.trans ⟨[(address, .setAntennaCheck false), (address, .modifyRfPower 0)], rfl⟩

/-- Once a reader is chosen it is adopted, and everything else goes to it. -/
lemma Way.later (h : Way workMode configured held.exchanges held.result held.contact.connected)
    {toAll toOne : Feedback} (hreplies : held.replies.take 2 = [toAll, toOne])
    (hone : toOne.fatal? = none) :
    Later workMode (responder configured toAll.toOption toOne.toOption) held := by
  obtain ⟨exchanges, result, connected, address, world⟩ := held
  simp only [Held.replies] at h hreplies
  cases h with
  | endedByAll _ => cases hreplies
  | endedByOne _ hfatal =>
      cases hreplies
      cases hone.symm.trans hfatal
  | endedByStop haddress =>
      cases hreplies
      subst haddress
      refine .of_unfinished rfl ?_ nofun
      exact ⟨[(_, .setWorkMode workMode)], rfl⟩
  | endedByMode haddress =>
      cases hreplies
      subst haddress
      exact .of_unfinished rfl List.prefix_rfl nofun
  | silent haddress =>
      cases hreplies
      subst haddress
      exact .of_unfinished rfl List.prefix_rfl nofun
  | @answered _ _ _ _ check power mux atPower atAntenna address haddress =>
      cases hreplies
      subst haddress
      refine ⟨?_, atPower, atAntenna, ?_, fun _ => ⟨?_, ?_⟩⟩
      · rw [Held.adopted, List.filterMap_append, adopted_settingsSent]
        rfl
      · rw [Held.questions, List.filterMap_append, questions_settingsSent workMode]
        exact List.prefix_rfl
      · rw [Held.questions, List.filterMap_append, questions_settingsSent workMode]
        rfl
      · rw [Held.consulted, List.filterMap_append, settings_settingsSent]
        rfl

end Handshake

/-! ## The outcome -/

/-- What comes of the handshake of somebody over a link. -/
structure Link.Outcome (link : Link σ) (c : Contact σ) (held : Held σ) : Prop where
  /-- A fatal reply to one of the first four questions is the last, and its error the result. -/
  fatal : ∀ place < 4, ∀ cause, held.fatal? place = some cause →
    held.result = .error cause ∧ held.replies.length = place + 1
  /-- Otherwise it succeeds if one of three is answered; the question to stop does not count. -/
  settled : (∀ place < 4, held.fatal? place = none) → 4 ≤ held.replies.length ∧
    held.result = if held.isAnswered 0 || held.isAnswered 1 || held.isAnswered 3 then .ok ()
      else .error .handshakeFailed
  connected : held.contact.connected = held.result.isOk
  first : held.questions.take 2 <+: Handshake.firstQuestions (link.settings c.world).address
  /-- If the first two replies are not fatal, both sides use the chosen reader from then on. -/
  chosen : ∀ toAll toOne, held.replies.take 2 = [toAll, toOne] →
    toAll.fatal? = none → toOne.fatal? = none →
    let address :=
      Handshake.responder (link.settings c.world).address toAll.toOption toOne.toOption
    held.contact.address = address ∧
      (∀ view, link.Remembers view → view held.contact.world = address) ∧
      Handshake.Later (link.config c.world).workMode address held

/-- A link that gives the replies of a list, one after the other, and then none. -/
def Link.scripted (settings : ReaderSettings) : Link (List Feedback) where
  config _ := .standard
  settings _ := settings
  ask _ command _ replies := (replies.headD (.error (.timeout command.code)), replies.tail)
  setAddress _ replies := replies
  tell _ replies := replies

/-- Nobody but the reader at address 5 answers, and it refuses; so everything else goes to it. -/
example :
    let held := (Link.scripted { rfPower := 20, address := 0, antenna := 3 }).connect
      { connected := true, address := 0, world := [.ok ⟨5, 0x21, .antennaError, .empty⟩] }
    held.result = .ok () ∧ held.contact.address = 5 ∧ held.contact.connected = true ∧
      held.questions = Handshake.firstQuestions 0 ++ Handshake.laterQuestions
        Config.standard.workMode 20 3 5 :=
  ⟨rfl, rfl, rfl, rfl⟩

end RfidLink
