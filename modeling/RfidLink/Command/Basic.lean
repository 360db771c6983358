import RfidLink.Command.Code
import RfidLink.Command.Error
import RfidLink.Command.Fields

/-!
# Commands

`Command` lists what a reader can be asked to do.  A command has a code (`Command.code`), and
its arguments have ranges.  `Command.check` checks all of them before anything is written, so
that a command out of range never becomes a frame.

Two commands share the code of a tag inventory.  `tagInventory` is a round with the reference
parameters, of which only the duration can be chosen, and has a short form of its own;
`tagInventoryWith` spells out every parameter.
-/

namespace RfidLink

/-- What a reader can be asked to do. -/
inductive Command where
  /-- One inventory round with the reference parameters. -/
  | tagInventory (scanTime : UInt8)
  /-- One inventory round with explicit parameters. -/
  | tagInventoryWith (params : RoundParams)
  | singleTagInventory
  | obtainReaderInfo
  | modifyFrequency (band : FrequencyBand) (maxChannel minChannel : UInt8)
  | modifyReaderAddress (address : UInt8)
  /-- Set the duration of a round, in tenths of a second. -/
  | modifyInventoryTime (time : UInt8)
  | modifyBaudRate (rate : BaudRate)
  /-- Set the power, in dBm. -/
  | modifyRfPower (power : UInt8)
  /-- Drive the lamp and the buzzer; the times are in units of 50 ms. -/
  | ledBuzzer (activeTime silentTime times : UInt8)
  | setupAntennaMux (setup : UInt8)
  | setBuzzer (on : Bool)
  | obtainReaderSerial
  | startFastInventory (target : Target)
  | stopFastInventory
  | setAntennaCheck (on : Bool)
  | getDataFromBuffer
  | clearBuffer
  | getTagCount
  | measureTemperature
  | setWorkMode (mode : UInt8)
  | stopImmediately
  | readData (selector : TagChoice) (bank : MemoryBank) (wordPointer wordCount : UInt8)
      (password : Password)
  | writeData (epc : Epc) (bank : MemoryBank) (wordPointer : UInt8)
      (data : BoundedBytes maxWriteLength) (password : Password)
  | writeEpc (oldEpc newEpc : Epc) (password : Password)
  | killTag (epc : Epc) (killPassword : Password)
  /--
    Lock or unlock a memory area: the kill password, the access password, EPC, TID or user
    memory, numbered from zero.
  -/
  | setProtection (epc : Epc) (area action : UInt8) (password : Password)
  | blockErase (epc : Epc) (bank : MemoryBank) (wordPointer wordCount : UInt8)
      (password : Password)
  | select (params : Selection)
  /-- Drive the output pins, one bit for each. -/
  | gpioControl (pins : UInt8)
  | obtainGpioState
deriving DecidableEq

namespace Command

def code : Command → UInt8
  | tagInventory _ => CommandCode.tagInventory
  | tagInventoryWith _ => CommandCode.tagInventory
  | singleTagInventory => CommandCode.singleTagInventory
  | obtainReaderInfo => CommandCode.obtainReaderInfo
  | modifyFrequency _ _ _ => CommandCode.modifyFrequency
  | modifyReaderAddress _ => CommandCode.modifyReaderAddress
  | modifyInventoryTime _ => CommandCode.modifyInventoryTime
  | modifyBaudRate _ => CommandCode.modifyBaudRate
  | modifyRfPower _ => CommandCode.modifyRfPower
  | ledBuzzer _ _ _ => CommandCode.ledBuzzer
  | setupAntennaMux _ => CommandCode.setupAntennaMux
  | setBuzzer _ => CommandCode.setBuzzer
  | obtainReaderSerial => CommandCode.obtainReaderSerial
  | startFastInventory _ => CommandCode.startFastInventory
  | stopFastInventory => CommandCode.stopFastInventory
  | setAntennaCheck _ => CommandCode.setAntennaCheck
  | getDataFromBuffer => CommandCode.getDataFromBuffer
  | clearBuffer => CommandCode.clearBuffer
  | getTagCount => CommandCode.getTagCount
  | measureTemperature => CommandCode.measureTemperature
  | setWorkMode _ => CommandCode.setWorkMode
  | stopImmediately => CommandCode.stopImmediately
  | readData .. => CommandCode.readData
  | writeData .. => CommandCode.writeData
  | writeEpc .. => CommandCode.writeEpc
  | killTag .. => CommandCode.killTag
  | setProtection .. => CommandCode.setProtection
  | blockErase .. => CommandCode.blockErase
  | select _ => CommandCode.select
  | gpioControl _ => CommandCode.gpioControl
  | obtainGpioState => CommandCode.obtainGpioState

end Command

/-!
## Ranges

The checks of one command are made in a fixed order, and the first that fails gives the error.
-/

/-- The highest power, in dBm. -/
def maxRfPower : UInt8 := 30

/-- The highest channel number of a frequency band. -/
def maxChannel : UInt8 := 62

/-- The largest number of words that one command reads, writes or erases. -/
def maxAccessWords : UInt8 := 120

/-- A mask has exactly the bytes that its number of bits needs. -/
def BitMask.check (mask : BitMask) : Except CommandError Unit :=
  Parameter.maskLength.require (mask.data.length == bytesForBits mask.bitLength.toNat)

/-- An EPC that an access command names is not empty and consists of whole words. -/
def Epc.check (epc : Epc) : Except CommandError Unit :=
  Parameter.epcLength.require (!epc.isEmpty && epc.length % 2 == 0)

/-- A number of words to access is neither zero nor too large. -/
def checkWordCount (count : UInt8) : Except CommandError Unit :=
  Parameter.wordCount.require (count != 0 && count ≤ maxAccessWords)

namespace RoundParams

/-- The values that name a session: four sessions, or a choice by the reader. -/
def isSession (session : UInt8) : Bool :=
  session ≤ 3 || session == referenceSession || session == smartSession

/-- The values that name an antenna; there are sixteen. -/
def isAntenna (antenna : UInt8) : Bool := 0x80 ≤ antenna && antenna ≤ 0x8F

/-- Check session, mask, TID range, antenna and duration, in this order. -/
def check (params : RoundParams) : Except CommandError Unit := do
  Parameter.session.require (isSession params.session)
  match params.mask with
  | some mask => mask.check
  | none => pure ()
  Parameter.tidLength.require (params.tid.all (·.length ≤ 15))
  Parameter.antenna.require (params.antenna.all isAntenna)
  Parameter.scanTime.require (params.scanTime != some 0)

end RoundParams

def TagChoice.check : TagChoice → Except CommandError Unit
  | .epc e => e.check
  | .mask m => m.check

/-- Check every argument of a command against its range. -/
def Command.check : Command → Except CommandError Unit
  | tagInventory scanTime => Parameter.scanTime.require (scanTime != 0)
  | tagInventoryWith params => params.check
  | modifyFrequency _ highest lowest => do
    Parameter.frequencyChannel.require (highest ≤ maxChannel && lowest ≤ maxChannel)
    Parameter.frequencyRange.require (lowest ≤ highest)
  | modifyReaderAddress address => Parameter.readerAddress.require (address != 0xFF)
  | modifyInventoryTime time => Parameter.inventoryTime.require (time != 0)
  | modifyRfPower power => Parameter.rfPower.require (power ≤ maxRfPower)
  | readData selector _ _ wordCount _ => do
    selector.check
    checkWordCount wordCount
  | writeData epc _ _ data _ => do
    epc.check
    Parameter.writeData.require (!data.isEmpty && data.length % 2 == 0)
  | writeEpc oldEpc newEpc _ => do
    oldEpc.check
    newEpc.check
  | killTag epc _ => epc.check
  | setProtection epc area action _ => do
    epc.check
    Parameter.protectionArea.require (area ≤ 4)
    Parameter.protectionAction.require (action ≤ 3)
  | blockErase epc _ _ wordCount _ => do
    epc.check
    checkWordCount wordCount
  | select params => do
    Parameter.selectAction.require (params.action ≤ 7)
    params.mask.check
  | _ => .ok ()

end RfidLink
