import RfidLink.Command.Basic

/-!
# From argument bytes to a command

A command can be given as a code with argument bytes.  `Command.ofArguments` finds the command
they stand for.  It accepts the arguments of each code in the order in which they are sent, uses
all of them, and checks the result with `Command.check`.

Commands of a fixed size are read by matching on the list of arguments.  Access commands have
fields whose length depends on what came before; they are read from the front with
`ArgumentScan`, which keeps the bytes not used so far.
-/

namespace RfidLink

/-- A step that uses up some bytes at the front of the arguments. -/
abbrev ArgumentScan := StateT (List UInt8) (Except CommandError)

namespace ArgumentScan

/-- There are more or fewer bytes than the command takes. -/
def wrongCount : CommandError := .invalidParameter .argumentCount

def byte : ArgumentScan UInt8
  | [] => .error wrongCount
  | b :: rest => .ok (b, rest)

/-- The given number of bytes, for a field with room for `room` of them. -/
def bytes (room n : Nat) : ArgumentScan (BoundedBytes room) := fun args =>
  if args.length < n then .error wrongCount
  else
    match BoundedBytes.ofList? (args.take n) with
    | none => .error .payloadTooLarge
    | some field => .ok (field, args.drop n)

/-- A field that is missing is an error for its parameter. -/
def known (parameter : Parameter) {α : Type} (field : Option α) : ArgumentScan α := fun args =>
  match field with
  | none => .error (.invalidParameter parameter)
  | some value => .ok (value, args)

def bank : ArgumentScan MemoryBank := do
  known .memoryBank (MemoryBank.ofByte? (← byte))

def password : ArgumentScan Password := do
  let b₀ ← byte
  let b₁ ← byte
  let b₂ ← byte
  let b₃ ← byte
  pure { b₀, b₁, b₂, b₃ }

/-- An EPC of the given number of words. -/
def epcOfWords (words : UInt8) : ArgumentScan Epc := bytes maxEpcLength (words.toNat * 2)

/-- An EPC behind its length in words. -/
def epc : ArgumentScan Epc := do
  epcOfWords (← byte)

def mask : ArgumentScan BitMask := do
  let bank ← byte
  let high ← byte
  let low ← byte
  let bitLength ← byte
  let data ← bytes maxMaskLength (bytesForBits bitLength.toNat)
  pure { bank, bitAddress := Word.bigEndian high low, bitLength, data }

def readData : ArgumentScan Command := do
  let words ← byte
  if words = 0xFF then
    let bank ← bank
    let wordPointer ← byte
    let wordCount ← byte
    let password ← password
    let mask ← mask
    pure (.readData (.mask mask) bank wordPointer wordCount password)
  else
    let epc ← epcOfWords words
    let bank ← bank
    let wordPointer ← byte
    let wordCount ← byte
    let password ← password
    pure (.readData (.epc epc) bank wordPointer wordCount password)

/-- The arguments of a write command: the length of the data comes before everything else. -/
def writeData : ArgumentScan Command := do
  let words ← byte
  let epc ← epc
  let bank ← bank
  let wordPointer ← byte
  let data ← bytes maxWriteLength (words.toNat * 2)
  let password ← password
  pure (.writeData epc bank wordPointer data password)

def writeEpc : ArgumentScan Command := do
  let oldEpc ← epc
  let newEpc ← epc
  let password ← password
  pure (.writeEpc oldEpc newEpc password)

def killTag : ArgumentScan Command := do
  let epc ← epc
  let password ← password
  pure (.killTag epc password)

def setProtection : ArgumentScan Command := do
  let epc ← epc
  let area ← byte
  let action ← byte
  let password ← password
  pure (.setProtection epc area action password)

def blockErase : ArgumentScan Command := do
  let epc ← epc
  let bank ← bank
  let wordPointer ← byte
  let wordCount ← byte
  let password ← password
  pure (.blockErase epc bank wordPointer wordCount password)

/-- The arguments of a select command; its three first bytes have to be there together. -/
def select : ArgumentScan Command := do
  let antenna ← byte
  let target ← byte
  let action ← byte
  let target ← known .selectTarget (SelectFlag.ofByte? target)
  let mask ← mask
  let truncate ← byte
  pure (.select { antenna, target, action, mask, truncate := truncate != 0 })

/-- Read with a reader that has to use all arguments. -/
def all {α : Type} (reader : ArgumentScan α) (args : List UInt8) : Except CommandError α := do
  let (value, rest) ← reader args
  if rest.isEmpty then .ok value else .error wrongCount

end ArgumentScan

namespace Command

open ArgumentScan (wrongCount)

/-- A command that takes no arguments. -/
def ofNone (command : Command) : List UInt8 → Except CommandError Command
  | [] => .ok command
  | _ => .error wrongCount

/-- A command that takes one byte. -/
def ofOne (command : UInt8 → Command) : List UInt8 → Except CommandError Command
  | [value] => .ok (command value)
  | _ => .error wrongCount

/-- A field that is missing is an error for its parameter. -/
def ofField {α : Type} (parameter : Parameter) (command : α → Command) :
    Option α → Except CommandError Command
  | none => .error (.invalidParameter parameter)
  | some value => .ok (command value)

/-- The command that a code and argument bytes stand for, before its ranges are checked. -/
def scan (code : UInt8) (args : List UInt8) : Except CommandError Command :=
  match code with
  | CommandCode.tagInventory =>
    match args with
    | [] => .ok (tagInventory ScanTime.single)
    | [scanTime] => .ok (tagInventory scanTime)
    | _ => .error wrongCount
  | CommandCode.singleTagInventory => ofNone singleTagInventory args
  | CommandCode.obtainReaderInfo => ofNone obtainReaderInfo args
  | CommandCode.modifyFrequency =>
    match args with
    | [highest, lowest] =>
      ofField .frequencyBand
        (modifyFrequency · (FrequencyBand.channel highest) (FrequencyBand.channel lowest))
        (FrequencyBand.ofBytes? highest lowest)
    | _ => .error wrongCount
  | CommandCode.modifyReaderAddress => ofOne modifyReaderAddress args
  | CommandCode.modifyInventoryTime => ofOne modifyInventoryTime args
  | CommandCode.modifyBaudRate =>
    match args with
    | [index] => ofField .baudRateIndex modifyBaudRate (BaudRate.ofByte? index)
    | _ => .error wrongCount
  | CommandCode.modifyRfPower => ofOne modifyRfPower args
  | CommandCode.ledBuzzer =>
    match args with
    | [activeTime, silentTime, times] => .ok (ledBuzzer activeTime silentTime times)
    | _ => .error wrongCount
  | CommandCode.setupAntennaMux => ofOne setupAntennaMux args
  | CommandCode.setBuzzer => ofOne (fun byte => setBuzzer (byte != 0)) args
  | CommandCode.obtainReaderSerial => ofNone obtainReaderSerial args
  | CommandCode.startFastInventory =>
    match args with
    | [] => .ok (startFastInventory .a)
    | [target] => ofField .target startFastInventory (Target.ofByte? target)
    | _ => .error wrongCount
  | CommandCode.stopFastInventory => ofNone stopFastInventory args
  | CommandCode.setAntennaCheck => ofOne (fun byte => setAntennaCheck (byte != 0)) args
  | CommandCode.getDataFromBuffer => ofNone getDataFromBuffer args
  | CommandCode.clearBuffer => ofNone clearBuffer args
  | CommandCode.getTagCount => ofNone getTagCount args
  | CommandCode.measureTemperature => ofNone measureTemperature args
  | CommandCode.setWorkMode => ofOne setWorkMode args
  | CommandCode.stopImmediately => ofNone stopImmediately args
  | CommandCode.gpioControl => ofOne gpioControl args
  | CommandCode.obtainGpioState => ofNone obtainGpioState args
  | CommandCode.readData => ArgumentScan.readData.all args
  | CommandCode.writeData => ArgumentScan.writeData.all args
  | CommandCode.writeEpc => ArgumentScan.writeEpc.all args
  | CommandCode.killTag => ArgumentScan.killTag.all args
  | CommandCode.setProtection => ArgumentScan.setProtection.all args
  | CommandCode.blockErase => ArgumentScan.blockErase.all args
  | CommandCode.select => ArgumentScan.select.all args
  | code => .error (.unknownCommand code)

/-- The command that a code and argument bytes stand for. -/
def ofArguments (code : UInt8) (args : List UInt8) : Except CommandError Command := do
  let command ← scan code args
  command.check
  pure command

end Command

end RfidLink
