import RfidLink.Router.Ask

/-!
# Sessions with a reader

A `Session` is what a user deals with: connect to the reader, start and stop inventory, send a
command.  It works on a station through the operations of the router.

* **Handshake.**  `Session.connect` asks every reader and then the configured one who they are,
  stops whatever the reader does, and sets its work mode.  It succeeds if the reader answers one
  of the two questions or the work mode.  If only another reader answers, that one is used.
  Three settings follow, and it does not matter whether they are answered.
* **Start and stop.**  Inventory starts with an empty repeat filter, and its mode begins before
  its first command is queued.  It stops even if the stop command cannot be sent.
* **Running or not.**  `running` is what was last reported to the board.  Inventory may also end on
  its own, after its only round or because of the antenna; `Session.poll` finds out and reports
  it.
-/

namespace RfidLink

/-- A station, and what its user knows about the reader. -/
structure Session (ε : Type) where
  /-- Whether the handshake has succeeded. -/
  connected : Bool
  address : UInt8
  /-- Whether inventory runs, as last reported to the board. -/
  running : Bool
  station : Station ε

namespace Session

variable {ε : Type} (board : Board ε)

/-- A session that has not connected yet. -/
def unconnected (station : Station ε) : Session ε :=
  { connected := false, address := (board.settings station.surroundings).address,
    running := false, station }

def onStation (f : Station ε → Station ε) (s : Session ε) : Session ε :=
  { s with station := f s.station }

def tell (remark : Remark) (s : Session ε) : Session ε := s.onStation (·.tell board remark)

def settings (s : Session ε) : ReaderSettings := board.settings s.station.surroundings

/-- Whether inventory is on, by schedule and mode of the router. -/
def isActive (s : Session ε) : Bool :=
  s.station.router.inventoryActive && s.station.router.mode == .inventory

/-- Ask the reader and wait as long as the configuration says. -/
def ask (address : UInt8) (command : Command) (s : Session ε) :
    Except OperationError Answer × Session ε :=
  let (answer, station) :=
    s.station.ask board address command s.station.router.config.responseTimeoutMs
  (answer, { s with station })

/-!
## Handshake
-/

/--
  One step of the handshake.  No answer is no error here, and neither is a command that cannot be
  built; a router that does not run and a full ring are.
-/
def step (address : UInt8) (command : Command) (s : Session ε) :
    Except OperationError (Option Answer) × Session ε :=
  match s.ask board address command with
  | (.ok answer, s) =>
    (.ok (some answer),
      if answer.status.isSuccess then s
      else s.tell board (.stepRefused answer.command answer.status))
  | (.error (.timeout _), s) => (.ok none, s)
  | (.error .notRunning, s) => (.error .notRunning, s)
  | (.error (.noRoom queued dropped), s) => (.error (.noRoom queued dropped), s)
  | (.error cause, s) => (.ok none, s.tell board (.stepFailed command.code cause))

/-- Send a setting whose answer does not matter. -/
def sendSetting (command : Command) (s : Session ε) : Session ε :=
  let (answer, s) := s.ask board s.address command
  match answer.bind Answer.accepted with
  | .ok _ => s
  | .error cause => s.tell board (.settingIgnored command.code cause)

/-- The settings at the end of the handshake. -/
def sendSettings (s : Session ε) : Session ε :=
  let s := s.sendSetting board (.setAntennaCheck false)
  let s := s.sendSetting board (.modifyRfPower (s.settings board).rfPower)
  let antenna := (s.settings board).antenna
  if antenna = 0 then s else s.sendSetting board (.setupAntennaMux antenna)

/--
  The reader to use, by the answers to the two questions of the handshake: the configured one,
  unless it stays silent and another one answers.
-/
def chooseReader (configured : UInt8) (toAll toOne : Option Answer) (s : Session ε) : Session ε :=
  match toOne, toAll with
  | none, some answer =>
    let s := s.tell board (.answersElsewhere answer.address configured)
    { s with address := answer.address }
  | _, _ => { s with address := configured }

/-- Stop the reader, set its work mode, and see whether it has answered at all. -/
def settle (workMode : UInt8) (hasAnswered : Bool) (s : Session ε) :
    Except OperationError Unit × Session ε :=
  match s.step board s.address .stopImmediately with
  | (.error cause, s) => (.error cause, s)
  | (.ok stopped, s) =>
    let s := if stopped.isNone then s.tell board .stopUnanswered else s
    match s.step board s.address (.setWorkMode workMode) with
    | (.error cause, s) => (.error cause, s)
    | (.ok mode, s) =>
      if hasAnswered || mode.isSome then
        let s := s.sendSettings board
        (.ok (), { s with connected := true }.tell board (.connected s.address))
      else (.error .handshakeFailed, s.tell board .noAnswer)

def connect (s : Session ε) : Except OperationError Unit × Session ε :=
  let workMode := s.station.router.config.workMode
  let configured := (s.settings board).address
  let s := { s with connected := false }.tell board (.connecting configured)
  match s.step board broadcastAddress .obtainReaderInfo with
  | (.error cause, s) => (.error cause, s)
  | (.ok toAll, s) =>
    match s.step board configured .obtainReaderInfo with
    | (.error cause, s) => (.error cause, s)
    | (.ok toOne, s) =>
      let s := s.chooseReader board configured toAll toOne
      let s := s.onStation (·.onRouter (·.setAddress s.address))
      s.settle board workMode (toAll.isSome || toOne.isSome)

/-!
## Inventory
-/

/-- Report whether inventory runs, if that has changed. -/
def reportRunning (running : Bool) (s : Session ε) : Session ε :=
  if s.running = running then s
  else { s with running, station := board.notifyRunning running s.station }

/-- Start inventory with a connected reader. -/
def startConnected (s : Session ε) : Except OperationError Unit × Session ε :=
  if s.isActive then (.ok (), s.tell board .inventoryRunning)
  else
    let strategy := s.station.router.config.strategy
    let station := (s.station.onRouter Router.forgetTags).enterMode board .inventory
    match station.sendTo board s.address strategy.openingCommand with
    | (.error cause, station) =>
      let s := { s with station := station.enterMode board .idle }
      (.error cause, s.tell board (.inventoryNotStarted cause))
    | (.ok _, station) =>
      let s := { s with station := station.beginSchedule board }.reportRunning board true
      (.ok (), s.tell board .inventoryStarted)

/-- Start inventory, and connect first if that has not been done. -/
def startInventory (s : Session ε) : Except OperationError Unit × Session ε :=
  if s.connected then s.startConnected board
  else
    match s.connect board with
    | (.error cause, s) => (.error cause, s)
    | (.ok (), s) => s.startConnected board

/-- Stop inventory, and give the totals over the tags read of late. -/
def stopInventory (s : Session ε) : Except OperationError ReadTotals × Session ε :=
  let strategy := s.station.router.config.strategy
  let (totals, station) := s.station.endSchedule.reportTotals board
  let (sent, station) := station.sendTo board s.address strategy.closingCommand
  let s := { s with station := station.enterMode board .idle }.reportRunning board false
  match sent with
  | .error cause => (.error cause, s.tell board (.stopNotSent cause))
  | .ok _ => (.ok totals, s.tell board .inventoryStopped)

/-- Start inventory if it does not run and stop it if it does; the answer says which. -/
def toggleInventory (s : Session ε) : Except OperationError Bool × Session ε :=
  if s.running then
    let (result, s) := s.stopInventory board
    (result.map fun _ => false, s)
  else
    let (result, s) := s.startInventory board
    (result.map fun _ => true, s)

/-- Send a command, and give its answer if the reader carried it out. -/
def command (command : Command) (s : Session ε) : Except OperationError Answer × Session ε :=
  if s.connected then
    let (answer, s) := s.ask board s.address command
    (answer.bind Answer.accepted, s)
  else (.error .notConnected, s)

/-- Process what was received, and report inventory that has ended on its own. -/
def poll (s : Session ε) : Outcome × Session ε :=
  let (outcome, station) := s.station.process board
  let s := { s with station }
  (outcome, if outcome = .skipped then s else s.reportRunning board s.isActive)

end Session

end RfidLink
