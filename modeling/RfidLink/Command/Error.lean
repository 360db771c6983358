import RfidLink.Hexadecimal

/-!
# Why a command cannot be built

A command is refused before anything of it is sent.  `CommandError` has one case for each cause;
for an argument outside its range, `Parameter` says which one.
-/

namespace RfidLink

/-- An argument that a command can be refused for. -/
inductive Parameter where
  | argumentCount
  | scanTime
  | session
  | maskLength
  | tidLength
  | antenna
  | frequencyBand
  | frequencyChannel
  | frequencyRange
  | readerAddress
  | inventoryTime
  | baudRateIndex
  | rfPower
  | target
  | memoryBank
  | epcLength
  | wordCount
  | writeData
  | protectionArea
  | protectionAction
  | selectTarget
  | selectAction
deriving DecidableEq

def Parameter.description : Parameter → String
  | argumentCount => "argument count"
  | scanTime => "scan time"
  | session => "session"
  | maskLength => "mask length"
  | tidLength => "tid length"
  | antenna => "antenna"
  | frequencyBand => "frequency band"
  | frequencyChannel => "frequency channel"
  | frequencyRange => "frequency range"
  | readerAddress => "reader address"
  | inventoryTime => "inventory time"
  | baudRateIndex => "baud rate index"
  | rfPower => "rf power"
  | target => "target"
  | memoryBank => "memory bank"
  | epcLength => "epc length"
  | wordCount => "word count"
  | writeData => "write data"
  | protectionArea => "protection area"
  | protectionAction => "protection action"
  | selectTarget => "select target"
  | selectAction => "select action"

/-- Why a command cannot be built. -/
inductive CommandError where
  | invalidParameter (parameter : Parameter)
  | bufferTooSmall
  /-- The payload does not fit a frame, or a part of it does not fit its field. -/
  | payloadTooLarge
  | unknownCommand (code : UInt8)
deriving DecidableEq

def CommandError.message : CommandError → String
  | invalidParameter parameter => "invalid parameter: " ++ parameter.description
  | bufferTooSmall => "output buffer too small"
  | payloadTooLarge => "payload exceeds frame size"
  | unknownCommand code => "unknown command " ++ Hexadecimal.marked code

/-- Refuse a parameter unless a condition holds. -/
def Parameter.require (parameter : Parameter) (condition : Bool) : Except CommandError Unit :=
  if condition then .ok () else .error (.invalidParameter parameter)

end RfidLink
