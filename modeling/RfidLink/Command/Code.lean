/-!
# Command codes

The byte that tells a reader what to do, and that a response repeats.  `autoUpload` occurs in
responses only: it marks a tag that the reader sends on its own.
-/

namespace RfidLink.CommandCode

@[match_pattern] abbrev tagInventory : UInt8 := 0x01
@[match_pattern] abbrev readData : UInt8 := 0x02
@[match_pattern] abbrev writeData : UInt8 := 0x03
@[match_pattern] abbrev writeEpc : UInt8 := 0x04
@[match_pattern] abbrev killTag : UInt8 := 0x05
@[match_pattern] abbrev setProtection : UInt8 := 0x06
@[match_pattern] abbrev blockErase : UInt8 := 0x07
@[match_pattern] abbrev singleTagInventory : UInt8 := 0x0F
@[match_pattern] abbrev obtainReaderInfo : UInt8 := 0x21
@[match_pattern] abbrev modifyFrequency : UInt8 := 0x22
@[match_pattern] abbrev modifyReaderAddress : UInt8 := 0x24
@[match_pattern] abbrev modifyInventoryTime : UInt8 := 0x25
@[match_pattern] abbrev modifyBaudRate : UInt8 := 0x28
@[match_pattern] abbrev modifyRfPower : UInt8 := 0x2F
@[match_pattern] abbrev ledBuzzer : UInt8 := 0x33
@[match_pattern] abbrev setupAntennaMux : UInt8 := 0x3F
@[match_pattern] abbrev setBuzzer : UInt8 := 0x40
@[match_pattern] abbrev gpioControl : UInt8 := 0x46
@[match_pattern] abbrev obtainGpioState : UInt8 := 0x47
@[match_pattern] abbrev obtainReaderSerial : UInt8 := 0x4C
@[match_pattern] abbrev startFastInventory : UInt8 := 0x50
@[match_pattern] abbrev stopFastInventory : UInt8 := 0x51
@[match_pattern] abbrev setAntennaCheck : UInt8 := 0x66
@[match_pattern] abbrev getDataFromBuffer : UInt8 := 0x72
@[match_pattern] abbrev clearBuffer : UInt8 := 0x73
@[match_pattern] abbrev getTagCount : UInt8 := 0x74
@[match_pattern] abbrev setWorkMode : UInt8 := 0x7F
@[match_pattern] abbrev measureTemperature : UInt8 := 0x92
@[match_pattern] abbrev stopImmediately : UInt8 := 0x93
@[match_pattern] abbrev select : UInt8 := 0x9A
@[match_pattern] abbrev autoUpload : UInt8 := 0xEE

def description (code : UInt8) : String :=
  match code with
  | tagInventory => "tag inventory"
  | singleTagInventory => "single tag inventory"
  | obtainReaderInfo => "obtain reader info"
  | modifyFrequency => "modify frequency"
  | modifyReaderAddress => "modify reader address"
  | modifyInventoryTime => "modify inventory time"
  | modifyBaudRate => "modify baud rate"
  | modifyRfPower => "modify rf power"
  | ledBuzzer => "led/buzzer control"
  | setupAntennaMux => "setup antenna mux"
  | setBuzzer => "enable buzzer"
  | obtainReaderSerial => "obtain reader serial"
  | startFastInventory => "start fast inventory"
  | stopFastInventory => "stop fast inventory"
  | setAntennaCheck => "antenna check"
  | getDataFromBuffer => "get data from buffer"
  | clearBuffer => "clear buffer"
  | getTagCount => "get tag count"
  | setWorkMode => "set work mode"
  | measureTemperature => "measure temperature"
  | stopImmediately => "stop immediately"
  | readData => "read data"
  | writeData => "write data"
  | writeEpc => "write epc"
  | killTag => "kill tag"
  | setProtection => "set protection"
  | blockErase => "block erase"
  | select => "select"
  | gpioControl => "gpio control"
  | obtainGpioState => "obtain gpio state"
  | autoUpload => "auto-upload tag"
  | _ => "unknown command"

/-- Whether responses with this code belong to an inventory round. -/
def isRound (code : UInt8) : Bool :=
  code == tagInventory || code == singleTagInventory || code == startFastInventory

end RfidLink.CommandCode
