import RfidLink.Proofs.Handshake
import RfidLink.Proofs.Moves

/-!
# Sessions as sequences of tasks

A session does nothing to its router but call it, one call after the other: process what was
received, queue a command, wait, stop.  A `Station.Task` is such a call, or a change that the
session makes between two of them.

* An `Occasion` is a call that has to do with inventory, with the station it finds.  Each task says
  which occasion it is, if it is one, and a sequence of tasks has the occasions of all of them.
* **Everything a session is asked for is a sequence of tasks.**  There is one lemma for each of its
  functions, up to `Action.own_tasks`.  `Action.occasions` computes the occasions of an action from
  the session that it finds, and for the handshake this follows its dialogue
  (`Dialogue.occasions`).
* All but starting and stopping inventory, and reporting that it runs, are sequences of a few kinds
  of tasks, the `Station.Chore`s.
* A task is a sequence of moves (`Station.Task.moves`), so what all moves keep is kept by every
  action; but a statement about whole calls, such as what one call to process received bytes leaves
  to the next, is better proved for each task.

Bytes that arrive are no task, and neither are a change of the configuration and the operations that
set mode or schedule by hand.
-/

namespace RfidLink

variable {ε α σ : Type} {board : Board ε}

/-- A call that has to do with inventory, and the station it finds. -/
inductive Occasion (ε : Type) where
  /-- What was received is processed. -/
  | process (s : Station ε)
  /-- Inventory begins, and to queue its first command has led from one station to the other. -/
  | begin (s t : Station ε)
  /-- Inventory is stopped on demand, if there is any. -/
  | stop (s : Station ε)
  /-- The counters start again at zero. -/
  | recount

namespace Station

/-- Any number of steps, one after the other, with the occasions of all of them. -/
inductive Steps (step : Station ε → List (Occasion ε) → Station ε → Prop) :
    Station ε → List (Occasion ε) → Station ε → Prop
  | refl (s) : Steps step s [] s
  | tail {s t u occasions new} (h : Steps step s occasions t) (hstep : step t new u) :
      Steps step s (occasions ++ new) u

namespace Steps

variable {step step' : Station ε → List (Occasion ε) → Station ε → Prop} {s t u : Station ε}
  {occasions new : List (Occasion ε)}

lemma single (h : step s new t) : Steps step s new t := (refl s).tail h

/-- A step that is no occasion. -/
lemma aside (h : Steps step s occasions t) (hstep : step t [] u) : Steps step s occasions u := by
  rw [← List.append_nil occasions]
  exact h.tail hstep

lemma trans (hst : Steps step s occasions t) (htu : Steps step t new u) :
    Steps step s (occasions ++ new) u := by
  induction htu with
  | refl =>
      rw [List.append_nil]
      exact hst
  | tail _ hstep ih =>
      rw [← List.append_assoc]
      exact ih.tail hstep

lemma lift (h : Steps step s occasions t) (hstep : ∀ s new t, step s new t → step' s new t) :
    Steps step' s occasions t := by
  induction h with
  | refl => exact .refl s
  | tail _ hlast ih => exact ih.tail (hstep _ _ _ hlast)

end Steps

/-- What a session does with its router in one go, and which occasion it is. -/
inductive Task (board : Board ε) : Station ε → List (Occasion ε) → Station ε → Prop
  | tell (s) (remark : Remark) (h : remark.isAside = true) : Task board s [] (s.tell board remark)
  | setAddress (s) (address : UInt8) : Task board s [] (s.onRouter (·.setAddress address))
  | forgetTags (s) : Task board s [] (s.onRouter Router.forgetTags)
  /-- Answers are taken or thrown away, and somebody begins to wait or ceases to. -/
  | forget (s) (answers : List Answer) (awaiting : Option Request)
      (h : answers ⊆ s.router.answers) :
      Task board s [] (s.onRouter fun r => { r with answers, awaiting })
  | resetStatistics (s) : Task board s [.recount] s.resetStatistics
  | takeOverrun (s) : Task board s [] { s with line := s.line.takeOverrun.2 }
  | sendTo (s) (address : UInt8) (command : Command) :
      Task board s [] (s.sendTo board address command).2
  | process (s) : Task board s [.process s] (s.process board).2
  | transmit (s) : Task board s [] (s.transmit board).2
  | notifyRunning (s) (isOn : Bool) : Task board s [] (board.notifyRunning isOn s)
  | wait (s) (ms : Nat) : Task board s [] (board.wait ms s)
  | start (s) : Task board s [] (s.start board).2
  | stop (s) : Task board s [.stop s] (s.stop board).2
  /-- Inventory begins, once its first command has been queued. -/
  | begin (s) {t} (address : UInt8) (size : Nat)
      (hsent : (s.enterMode board .inventory).sendTo board address
        s.router.config.strategy.openingCommand = (.ok size, t)) :
      Task board s [.begin s t] (t.beginSchedule board)
  /-- Inventory does not begin, because its first command cannot be queued. -/
  | beginRefused (s) (address : UInt8)
      (h : ¬ (s.router.inventoryActive = true ∧ s.router.mode = .inventory)) :
      Task board s [] (((s.enterMode board .inventory).sendTo board address
        s.router.config.strategy.openingCommand).2.enterMode board .idle)
  /-- Inventory ends, and its last command is queued if that is possible. -/
  | endSending (s) (address : UInt8) :
      Task board s [.stop s] (((s.endSchedule.reportTotals board).2.sendTo board address
        s.router.config.strategy.closingCommand).2.enterMode board .idle)

/-- Any number of tasks, one after the other, with their occasions. -/
abbrev TasksOn (board : Board ε) : Station ε → List (Occasion ε) → Station ε → Prop :=
  Steps (Task board)

/-- A task in which inventory may end but does not begin: most of what a session does. -/
inductive Chore (board : Board ε) : Station ε → List (Occasion ε) → Station ε → Prop
  | tell (s) (remark : Remark) (h : remark.isAside = true) : Chore board s [] (s.tell board remark)
  | setAddress (s) (address : UInt8) : Chore board s [] (s.onRouter (·.setAddress address))
  | forget (s) (answers : List Answer) (awaiting : Option Request)
      (h : answers ⊆ s.router.answers) :
      Chore board s [] (s.onRouter fun r => { r with answers, awaiting })
  | sendTo (s) (address : UInt8) (command : Command) :
      Chore board s [] (s.sendTo board address command).2
  | process (s) : Chore board s [.process s] (s.process board).2
  | wait (s) (ms : Nat) : Chore board s [] (board.wait ms s)

/-- Any number of chores, one after the other, with their occasions. -/
abbrev ChoresOn (board : Board ε) : Station ε → List (Occasion ε) → Station ε → Prop :=
  Steps (Chore board)

/-- Any number of chores, on whatever occasions. -/
def Chores (board : Board ε) (s t : Station ε) : Prop :=
  ∃ occasions, s.ChoresOn board occasions t

lemma Chores.refl (s : Station ε) : s.Chores board s := ⟨[], .refl s⟩

variable {s t : Station ε} {occasions : List (Occasion ε)}

lemma Chore.task (h : Chore board s occasions t) : Task board s occasions t := by
  cases h with
  | tell remark h => exact .tell s remark h
  | setAddress address => exact .setAddress s address
  | forget answers awaiting h => exact .forget s answers awaiting h
  | sendTo address command => exact .sendTo s address command
  | process => exact .process s
  | wait ms => exact .wait s ms

lemma Steps.tasks (h : s.ChoresOn board occasions t) : s.TasksOn board occasions t :=
  h.lift fun _ _ _ => Chore.task

/-- **A task is a sequence of moves.** -/
lemma Task.moves (h : Task board s occasions t) : s.Moves board t := by
  cases h with
  | tell remark h => exact (Move.tell s remark h).moves
  | setAddress address => exact (Move.note s (·.setAddress address) fun _ => rfl).moves
  | forgetTags => exact (Move.note s Router.forgetTags fun _ => rfl).moves
  | forget answers awaiting h => exact (Move.forget s answers awaiting h).moves
  | resetStatistics =>
      exact (Move.recount s .zero).moves.tail (.flag _ s.line.resetCounters rfl rfl)
  | takeOverrun => exact (Move.flag s s.line.takeOverrun.2 rfl rfl).moves
  | sendTo address command => exact (Move.sendTo s address command).moves
  | process => exact moves_process s
  | transmit => exact (Move.transmit s).moves
  | notifyRunning isOn => exact (Move.notifyRunning s isOn).moves
  | wait ms => exact (Move.wait s ms).moves
  | start => exact (Move.start s).moves
  | stop => exact (Move.stop s).moves
  | @begin t address size hsent =>
      have hbegun := (Move.begin s address _ size (.opened t.router.config (t.now board))
        (congrArg Prod.fst hsent) rfl).moves
      rw [hsent] at hbegun
      exact hbegun.trans (moves_beginSchedule t)
  | beginRefused address h => exact (Move.beginRefused s address _ h).moves
  | endSending address => exact (Move.endSending s address _).moves

lemma Steps.moves (h : s.TasksOn board occasions t) : s.Moves board t := by
  induction h with
  | refl => exact .refl
  | tail _ hstep ih => exact ih.trans hstep.moves

/-! ## Asking -/

section

variable (board)

/-- What comes up while the answer to a request is awaited. -/
def waitOccasions (request : Request) (deadline pause : Nat) :
    Nat → UInt32 → Station ε → List (Occasion ε)
  | 0, _, _ => []
  | turns + 1, seen, s =>
    .process s ::
      match s.look board request seen with
      | (some _, _) => []
      | (none, t) =>
        if deadline ≤ t.now board then []
        else waitOccasions request deadline pause turns t.router.counters.framesReceived
          (board.wait pause t)

def sendAndWaitOccasions (address : UInt8) (command : Command) (timeoutMs : UInt32)
    (s : Station ε) : List (Occasion ε) :=
  match s.sendTo board address command with
  | (.error _, _) => []
  | (.ok _, t) =>
    t.waitOccasions board { address, command := command.code } (t.now board + timeoutMs.toNat)
      t.router.config.pollPauseMs (timeoutMs.toNat + 1 + board.patience)
      s.router.counters.framesReceived

/-- What comes up while the reader at an address is asked. -/
def askOccasions (address : UInt8) (command : Command) (timeoutMs : UInt32) (s : Station ε) :
    List (Occasion ε) :=
  let request : Request := { address, command := command.code }
  (s.onRouter fun r => { r with
    answers := Answer.discard request r.answers
    awaiting := some request }).sendAndWaitOccasions board address command timeoutMs

end

lemma chores_takeAnswer (request : Request) (s : Station ε) :
    s.ChoresOn board [] (s.takeAnswer request).2 :=
  .single (.forget s (Answer.take request s.router.answers).2 s.router.awaiting
    List.eraseP_subset)

lemma chores_look (request : Request) (seen : UInt32) (s : Station ε) :
    s.ChoresOn board [.process s] (s.look board request seen).2 := by
  have hprocessed : s.ChoresOn board [.process s] _ := .single (.process s)
  simp only [look]
  split
  · exact hprocessed
  · exact hprocessed.trans (chores_takeAnswer request _)

lemma moves_takeAnswer (request : Request) (s : Station ε) :
    s.Moves board (s.takeAnswer request).2 :=
  (chores_takeAnswer request s).tasks.moves

lemma moves_look (request : Request) (seen : UInt32) (s : Station ε) :
    s.Moves board (s.look board request seen).2 :=
  (chores_look request seen s).tasks.moves

lemma chores_waitUntil (request : Request) (deadline pause turns : Nat) (seen : UInt32)
    (s : Station ε) :
    s.ChoresOn board (s.waitOccasions board request deadline pause turns seen)
      (s.waitUntil board request deadline pause turns seen).2 := by
  induction turns generalizing seen s with
  | zero => exact .refl s
  | succ turns ih =>
      have hlooked : s.ChoresOn board [.process s] _ := chores_look request seen s
      rcases hlook : s.look board request seen with ⟨_ | answer, t⟩ <;> rw [hlook] at hlooked
      · simp only [waitUntil, waitOccasions, hlook]
        split
        · exact hlooked.aside (.tell t _ rfl)
        · exact (hlooked.aside (.wait t pause)).trans (ih _ _)
      · simp only [waitUntil, waitOccasions, hlook]
        exact hlooked

lemma chores_sendAndWait (address : UInt8) (command : Command) (timeoutMs : UInt32)
    (s : Station ε) :
    s.ChoresOn board (s.sendAndWaitOccasions board address command timeoutMs)
      (s.sendAndWait board address command timeoutMs).2 := by
  have hsent : s.ChoresOn board [] _ := .single (.sendTo s address command)
  rcases hresult : s.sendTo board address command with ⟨cause | size, t⟩ <;> rw [hresult] at hsent
  · simp only [sendAndWait, sendAndWaitOccasions, hresult]
    exact hsent
  · simp only [sendAndWait, sendAndWaitOccasions, hresult]
    exact hsent.trans (chores_waitUntil _ _ _ _ _ _)

lemma chores_ask (address : UInt8) (command : Command) (timeoutMs : UInt32) (s : Station ε) :
    s.ChoresOn board (s.askOccasions board address command timeoutMs)
      (s.ask board address command timeoutMs).2 := by
  set request : Request := { address, command := command.code } with hrequest
  have hwaiting : s.ChoresOn board [] _ := .single (.forget s
    (Answer.discard request s.router.answers) (some request) (List.filter_subset_self _))
  have hwaited := hwaiting.trans (chores_sendAndWait address command timeoutMs _)
  exact hwaited.aside (.forget _ _ none fun _ ha => ha)

lemma chores_tellAll {remarks : List Remark} (h : ∀ r ∈ remarks, r.isAside = true) (s : Station ε) :
    s.ChoresOn board [] (s.tellAll board remarks) := by
  induction remarks generalizing s with
  | nil => exact .refl s
  | cons remark rest ih =>
      have hfirst : remark.isAside = true := h remark List.mem_cons_self
      have hrest : ∀ r ∈ rest, r.isAside = true := fun r hr => h r (List.mem_cons_of_mem _ hr)
      exact (Steps.single (.tell s remark hfirst)).trans (ih hrest _)

lemma chores_reportTotals (s : Station ε) :
    s.ChoresOn board [] (s.reportTotals board).2 := by
  refine chores_tellAll ?_ s
  intro r hr
  rcases List.mem_cons.mp hr with rfl | hr
  · rfl
  · obtain ⟨_, _, rfl⟩ := List.mem_map.mp hr
    rfl

end Station

/-! ## The handshake -/

namespace Dialogue

/-- What comes up while a dialogue is held over a link, by what comes up in each question. -/
def occasions (link : Link σ) (asked : UInt8 → Command → UInt32 → σ → List α) :
    Dialogue → Contact σ → List α
  | done _, _ => []
  | mark connected next, c => next.occasions link asked { c with connected }
  | tell remark next, c => next.occasions link asked { c with world := link.tell remark c.world }
  | adopt address next, c =>
    next.occasions link asked { c with address, world := link.setAddress address c.world }
  | consult next, c => (next (link.settings c.world)).occasions link asked c
  | ask address command next, c =>
    let timeoutMs := (link.config c.world).responseTimeoutMs
    let (reply, world) := link.ask address command timeoutMs c.world
    asked address command timeoutMs c.world ++
      (next reply).occasions link asked { c with world }

/-- A dialogue says nothing to the journal but asides, whatever it hears. -/
def Discreet : Dialogue → Prop
  | done _ => True
  | mark _ next => next.Discreet
  | tell remark next => remark.isAside = true ∧ next.Discreet
  | adopt _ next => next.Discreet
  | consult next => ∀ settings, (next settings).Discreet
  | ask _ _ next => ∀ reply, (next reply).Discreet

/-- **To hold a dialogue is a sequence of chores.** -/
lemma chores_hold (d : Dialogue) (hd : d.Discreet) (c : Contact (Station ε)) :
    c.world.ChoresOn board (d.occasions (Station.link board) (Station.askOccasions board) c)
      (d.hold (Station.link board) c).contact.world := by
  induction d generalizing c with
  | done result => exact .refl c.world
  | mark connected next ih => exact ih hd { c with connected }
  | tell remark next ih =>
      have htold : c.world.ChoresOn board [] (c.world.tell board remark) :=
        .single (.tell c.world remark hd.1)
      exact htold.trans (ih hd.2 { c with world := c.world.tell board remark })
  | adopt address next ih =>
      have hadopted : c.world.ChoresOn board [] (c.world.onRouter (·.setAddress address)) :=
        .single (.setAddress c.world address)
      exact hadopted.trans
        (ih hd { c with address, world := c.world.onRouter (·.setAddress address) })
  | consult next ih => exact ih _ (hd _) c
  | ask address command next ih =>
      have hasked : c.world.ChoresOn board _ _ := Station.chores_ask address command
        c.world.router.config.responseTimeoutMs c.world
      exact hasked.trans (ih _ (hd _) { c with
        world := (c.world.ask board address command c.world.router.config.responseTimeoutMs).2 })

end Dialogue

namespace Handshake

variable {address : UInt8} {command : Command}

lemma discreet_step {next : Option Answer → Dialogue} (h : ∀ answer, (next answer).Discreet) :
    (step address command next).Discreet := by
  rintro (cause | answer)
  · cases cause with
    | timeout => exact h none
    | notRunning => trivial
    | noRoom => trivial
    | _ => exact ⟨rfl, h none⟩
  · dsimp only
    split
    · exact h _
    · exact ⟨rfl, h _⟩

lemma discreet_setting {next : Dialogue} (h : next.Discreet) :
    (setting address command next).Discreet := by
  intro reply
  dsimp only
  split
  · exact h
  · exact ⟨rfl, h⟩

lemma discreet_sendSettings {next : Dialogue} (h : next.Discreet) :
    (sendSettings address next).Discreet := by
  refine discreet_setting fun power => discreet_setting fun antenna => ?_
  dsimp only
  split
  · exact h
  · exact discreet_setting h

lemma discreet_settle (workMode : UInt8) (hasAnswered : Bool) :
    (settle workMode address hasAnswered).Discreet := by
  refine discreet_step fun stopped => ?_
  have hset : (step address (.setWorkMode workMode) fun mode =>
      if hasAnswered || mode.isSome then finish address
      else .tell .noAnswer (.done (.error .handshakeFailed))).Discreet := by
    refine discreet_step fun mode => ?_
    split
    · exact discreet_sendSettings ⟨rfl, trivial⟩
    · exact ⟨rfl, trivial⟩
  dsimp only
  split
  · exact ⟨rfl, hset⟩
  · exact hset

lemma discreet_handshake (workMode configured : UInt8) :
    (handshake workMode configured).Discreet := by
  refine ⟨rfl, discreet_step fun toAll => discreet_step fun toOne => ?_⟩
  simp only [afterQuestions]
  split
  · exact ⟨rfl, discreet_settle workMode _⟩
  · exact discreet_settle workMode _

end Handshake

/-! ## Sessions -/

namespace Session

open Station

section

variable (board)

def connectOccasions (s : Session ε) : List (Occasion ε) :=
  (handshake s.station.router.config.workMode (s.settings board).address).occasions
    (Station.link board) (Station.askOccasions board) s.contact

def startConnectedOccasions (s : Session ε) : List (Occasion ε) :=
  if s.isActive then []
  else
    let forgotten := s.station.onRouter Router.forgetTags
    match (forgotten.enterMode board .inventory).sendTo board s.address
      s.station.router.config.strategy.openingCommand with
    | (.error _, _) => []
    | (.ok _, t) => [.begin forgotten t]

/-- What comes up while inventory is started: a handshake if there has been none, and the beginning
of inventory if its first command can be queued. -/
def startOccasions (s : Session ε) : List (Occasion ε) :=
  if s.connected then s.startConnectedOccasions board
  else
    s.connectOccasions board ++
      match s.connect board with
      | (.error _, _) => []
      | (.ok (), t) => t.startConnectedOccasions board

def commandOccasions (command : Command) (s : Session ε) : List (Occasion ε) :=
  if s.connected then
    s.station.askOccasions board s.address command s.station.router.config.responseTimeoutMs
  else []

end

lemma chores_connect (s : Session ε) :
    s.station.ChoresOn board (s.connectOccasions board) (s.connect board).2.station := by
  rw [connect_eq_hold]
  exact Dialogue.chores_hold _ (Handshake.discreet_handshake _ _) s.contact

lemma chores_command (command : Command) (s : Session ε) :
    s.station.ChoresOn board (s.commandOccasions board command)
      (s.command board command).2.station := by
  simp only [Session.command, commandOccasions]
  split
  · exact chores_ask s.address command s.station.router.config.responseTimeoutMs s.station
  · exact .refl s.station

lemma tasks_reportRunning (running : Bool) (s : Session ε) :
    s.station.TasksOn board [] (s.reportRunning board running).station := by
  simp only [reportRunning]
  split
  · exact .refl s.station
  · exact .single (.notifyRunning s.station running)

lemma tasks_startConnected (s : Session ε) :
    s.station.TasksOn board (s.startConnectedOccasions board)
      (s.startConnected board).2.station := by
  cases hactive : s.isActive with
  | true =>
      simp only [startConnected, startConnectedOccasions, hactive, if_true]
      exact .single (.tell s.station _ rfl)
  | false =>
      set forgotten := s.station.onRouter Router.forgetTags with hforgotten
      have hforgot : s.station.TasksOn board [] forgotten :=
        .single (.forgetTags s.station)
      rcases hsent : (forgotten.enterMode board .inventory).sendTo board s.address
        s.station.router.config.strategy.openingCommand with ⟨cause | size, t⟩
      · have hrefused : ¬ (forgotten.router.inventoryActive = true ∧
            forgotten.router.mode = .inventory) := by
          rintro ⟨hon, hmode⟩
          have hon' : s.station.router.inventoryActive = true := hon
          have hmode' : s.station.router.mode = .inventory := hmode
          simp [isActive, hon', hmode'] at hactive
        have hback := hforgot.aside (.beginRefused forgotten s.address hrefused)
        have hconfig : forgotten.router.config = s.station.router.config := rfl
        rw [hconfig, hsent] at hback
        simp only [startConnected, startConnectedOccasions, hactive, ← hforgotten, hsent,
          Bool.false_eq_true, if_false]
        exact hback.aside (.tell _ _ rfl)
      · have hbegun := hforgot.tail (.begin forgotten s.address size hsent)
        simp only [startConnected, startConnectedOccasions, hactive, ← hforgotten, hsent,
          Bool.false_eq_true, if_false]
        exact (hbegun.trans
          (tasks_reportRunning true { s with station := t.beginSchedule board })).aside
            (.tell _ _ rfl)

lemma tasks_startInventory (s : Session ε) :
    s.station.TasksOn board (s.startOccasions board) (s.startInventory board).2.station := by
  cases hconnected : s.connected with
  | true =>
      simp only [startInventory, startOccasions, hconnected, if_true]
      exact tasks_startConnected s
  | false =>
      have hshaken : s.station.TasksOn board _ _ := (chores_connect s).tasks
      simp only [startInventory, startOccasions, hconnected, Bool.false_eq_true, if_false]
      rcases hresult : s.connect board with ⟨cause | _, t⟩ <;> rw [hresult] at hshaken
      · rw [List.append_nil]
        exact hshaken
      · exact hshaken.trans (tasks_startConnected t)

lemma tasks_stopInventory (s : Session ε) :
    s.station.TasksOn board [.stop s.station] (s.stopInventory board).2.station := by
  have hended : s.station.TasksOn board [.stop s.station] _ :=
    .single (.endSending s.station s.address)
  have hreported := hended.trans (tasks_reportRunning false { s with station := _ })
  simp only [stopInventory]
  split
  · exact hreported.aside (.tell _ _ rfl)
  · exact hreported.aside (.tell _ _ rfl)

lemma tasks_poll (s : Session ε) :
    s.station.TasksOn board [.process s.station] (s.poll board).2.station := by
  have hprocessed : s.station.TasksOn board [.process s.station] _ := .single (.process s.station)
  simp only [poll]
  split
  · exact hprocessed
  · exact hprocessed.trans
      (tasks_reportRunning _ { s with station := (s.station.process board).2 })

end Session

/-! ## Everything that can be asked for -/

/-- Whether an operation changes mode or schedule by itself, outside the rules of inventory. -/
def Operation.isRaw : Operation → Bool
  | enterMode _ | beginSchedule | endSchedule => true
  | _ => false

/-- Whether an operation is the arrival of bytes. -/
def Operation.isArrival : Operation → Bool
  | receive _ => true
  | _ => false

/-- Whether an operation changes what the router is configured to do. -/
def Operation.isConfiguring : Operation → Bool
  | setConfig _ | setDebounceSeconds _ => true
  | _ => false

/-- What comes up in an operation that follows the rules of inventory. -/
def Operation.occasions (board : Board ε) (s : Station ε) : Operation → List (Occasion ε)
  | process => [.process s]
  | stop => [.stop s]
  | resetStatistics => [.recount]
  | ask address command timeoutMs => s.askOccasions board address command timeoutMs
  | _ => []

/-- An operation that follows the rules of inventory is a sequence of tasks. -/
lemma Operation.own_tasks {operation : Operation} (hraw : operation.isRaw = false)
    (harrival : operation.isArrival = false) (hconfiguring : operation.isConfiguring = false)
    (s : Station ε) : s.TasksOn board (operation.occasions board s) (operation.run board s) := by
  cases operation with
  | start => exact .single (.start s)
  | stop => exact .single (.stop s)
  | process => exact .single (.process s)
  | enterMode mode => cases hraw
  | beginSchedule => cases hraw
  | endSchedule => cases hraw
  | setConfig config => cases hconfiguring
  | setDebounceSeconds seconds => cases hconfiguring
  | setAddress address => exact .single (.setAddress s address)
  | forgetTags => exact .single (.forgetTags s)
  | reportTotals => exact (Station.chores_reportTotals s).tasks
  | resetStatistics => exact .single (.resetStatistics s)
  | takeOverrun => exact .single (.takeOverrun s)
  | send command => exact .single (.sendTo s _ command)
  | sendRaw code args =>
      show s.TasksOn board [] (s.sendRaw board code args).2
      simp only [Station.sendRaw]
      split
      · exact .refl s
      · exact .single (.sendTo s _ _)
  | sendTo address command => exact .single (.sendTo s address command)
  | ask address command timeoutMs => exact (Station.chores_ask address command timeoutMs s).tasks
  | receive bytes => cases harrival
  | transmit => exact .single (.transmit s)

/-- An operation that follows the rules of inventory is a sequence of moves. -/
lemma Operation.own_moves {operation : Operation} (hraw : operation.isRaw = false)
    (harrival : operation.isArrival = false) (s : Station ε) :
    s.Moves board (operation.run board s) := by
  cases hconfiguring : operation.isConfiguring with
  | false => exact (own_tasks hraw harrival hconfiguring s).moves
  | true =>
      cases operation with
      | setConfig config => exact (Station.Move.note s (·.setConfig config) fun _ => rfl).moves
      | setDebounceSeconds seconds =>
          exact (Station.Move.note s (·.setDebounceSeconds seconds) fun _ => rfl).moves
      | _ => cases hconfiguring

/-- Every operation that follows the rules of inventory is a course of its station. -/
lemma Operation.moves {operation : Operation} (h : operation.isRaw = false) (s : Station ε) :
    s.Course board (operation.run board s) := by
  cases harrival : operation.isArrival with
  | false => exact .moves (own_moves h harrival s)
  | true =>
      cases operation with
      | receive bytes => exact .arrival bytes
      | _ => cases harrival

/-- Whether an action is a raw operation of the router. -/
def Action.isRaw : Action → Bool
  | onRouter operation => operation.isRaw
  | _ => false

/-- Whether an action is the arrival of bytes. -/
def Action.isArrival : Action → Bool
  | onRouter operation => operation.isArrival
  | _ => false

/-- Whether an action changes what the router is configured to do. -/
def Action.isConfiguring : Action → Bool
  | onRouter operation => operation.isConfiguring
  | _ => false

/-- What comes up in an action that follows the rules of inventory. -/
def Action.occasions (board : Board ε) (s : Session ε) : Action → List (Occasion ε)
  | onRouter operation => operation.occasions board s.station
  | connect => s.connectOccasions board
  | startInventory => s.startOccasions board
  | stopInventory => [.stop s.station]
  | toggleInventory => if s.running then [.stop s.station] else s.startOccasions board
  | command c => s.commandOccasions board c
  | poll => [.process s.station]

/-- What a session is asked for is a sequence of tasks of its station. -/
lemma Action.own_tasks {action : Action} (hraw : action.isRaw = false)
    (harrival : action.isArrival = false) (hconfiguring : action.isConfiguring = false)
    (s : Session ε) :
    s.station.TasksOn board (action.occasions board s) (action.run board s).station := by
  cases action with
  | onRouter operation => exact Operation.own_tasks hraw harrival hconfiguring s.station
  | connect => exact (Session.chores_connect s).tasks
  | startInventory => exact Session.tasks_startInventory s
  | stopInventory => exact Session.tasks_stopInventory s
  | toggleInventory =>
      simp only [run, occasions, Session.toggleInventory]
      split
      · exact Session.tasks_stopInventory s
      · exact Session.tasks_startInventory s
  | command c => exact (Session.chores_command c s).tasks
  | poll => exact Session.tasks_poll s

/-- What a session is asked for is a sequence of moves of its station. -/
lemma Action.own_moves {action : Action} (hraw : action.isRaw = false)
    (harrival : action.isArrival = false) (s : Session ε) :
    s.station.Moves board (action.run board s).station := by
  cases action with
  | onRouter operation => exact Operation.own_moves hraw harrival s.station
  | _ => exact (own_tasks rfl rfl rfl s).moves

/-- Every action that follows the rules of inventory is a course of its station. -/
theorem Action.moves {action : Action} (h : action.isRaw = false) (s : Session ε) :
    s.station.Course board (action.run board s).station := by
  cases harrival : action.isArrival with
  | false => exact .moves (own_moves h harrival s)
  | true =>
      cases action with
      | onRouter operation => exact Operation.moves h s.station
      | _ => cases harrival

end RfidLink
