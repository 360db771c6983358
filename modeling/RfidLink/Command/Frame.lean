import RfidLink.Command.Basic
import RfidLink.Frame.Draft

/-!
# From a command to a frame

The frame of a command holds, between the length byte and the checksum, the address of the
reader, the code of the command and its arguments.  `Command.arguments` gives the argument
bytes in the order in which they are sent.

`Command.writeFrame` writes the frame into a buffer of the caller, and `Command.encode` gives
it as a string of its own, by writing it into a buffer that holds the longest frame.  Both
check the command first, and a command that is refused leaves the buffer as it was.
-/

namespace RfidLink

def BitMask.toBytes (mask : BitMask) : List UInt8 :=
  mask.bank :: Word.bytesBigEndian mask.bitAddress ++ mask.bitLength :: mask.data.toList

namespace RoundParams

/-- The mask that matches every tag. -/
def anyTag : BitMask :=
  { bank := MemoryBank.epc.toByte, bitAddress := 0, bitLength := 0, data := .empty }

/-- The TID range without a word in it. -/
def noTid : TidRange := { address := 0, length := 0 }

/--
  The bytes of a parameter set.  A missing mask and a missing TID range are sent as empty
  ones, a missing antenna and a missing duration are not sent at all.
-/
def toBytes (params : RoundParams) : List UInt8 :=
  let tid := params.tid.getD noTid
  [params.qValue, params.session] ++ (params.mask.getD anyTag).toBytes ++
    [tid.address, tid.length, params.target.toByte] ++
    params.antenna.toList ++ params.scanTime.toList

end RoundParams

/-- Half the number of bytes, as it is sent in front of an EPC or of written data. -/
def wordCountByte (bytes : List UInt8) : UInt8 := UInt8.ofNat (bytes.length / 2)

/-- An EPC behind its length in words. -/
def Epc.toBytes (epc : Epc) : List UInt8 := wordCountByte epc.toList :: epc.toList

def switchByte (on : Bool) : UInt8 := if on then 1 else 0

namespace Command

/-- In a read command, the byte in the place of an EPC length that announces a mask instead. -/
def maskMark : UInt8 := 0xFF

def arguments : Command → List UInt8
  | tagInventory scanTime => [0x04, RoundParams.referenceSession, 0x00, 0x80, scanTime]
  | tagInventoryWith params => params.toBytes
  | modifyFrequency band maxChannel minChannel =>
    let (highest, lowest) := band.toBytes maxChannel minChannel
    [highest, lowest]
  | modifyReaderAddress value
  | modifyInventoryTime value
  | modifyRfPower value
  | setupAntennaMux value
  | setWorkMode value
  | gpioControl value => [value]
  | modifyBaudRate rate => [rate.toByte]
  | ledBuzzer activeTime silentTime times => [activeTime, silentTime, times]
  | setBuzzer on
  | setAntennaCheck on => [switchByte on]
  | startFastInventory target => [target.toByte]
  | readData (.epc epc) bank wordPointer wordCount password =>
    epc.toBytes ++ [bank.toByte, wordPointer, wordCount] ++ password.toList
  | readData (.mask mask) bank wordPointer wordCount password =>
    [maskMark, bank.toByte, wordPointer, wordCount] ++ password.toList ++ mask.toBytes
  | writeData epc bank wordPointer data password =>
    wordCountByte data.toList :: epc.toBytes ++ [bank.toByte, wordPointer] ++ data.toList ++
      password.toList
  | writeEpc oldEpc newEpc password => oldEpc.toBytes ++ newEpc.toBytes ++ password.toList
  | killTag epc killPassword => epc.toBytes ++ killPassword.toList
  | setProtection epc area action password =>
    epc.toBytes ++ [area, action] ++ password.toList
  | blockErase epc bank wordPointer wordCount password =>
    epc.toBytes ++ [bank.toByte, wordPointer, wordCount] ++ password.toList
  | select params =>
    [params.antenna, params.target.toByte, params.action] ++ params.mask.toBytes ++
      [switchByte params.truncate]
  | singleTagInventory
  | obtainReaderInfo
  | obtainReaderSerial
  | stopFastInventory
  | getDataFromBuffer
  | clearBuffer
  | getTagCount
  | measureTemperature
  | stopImmediately
  | obtainGpioState => []

def errorOfOverrun : FrameDraft.Overrun → CommandError
  | .buffer => .bufferTooSmall
  | .frame => .payloadTooLarge

/--
  Write the frame of a command at the start of a buffer.  The answer is the size of the frame
  and the buffer afterwards.
-/
def writeFrame (command : Command) (address : UInt8) (buffer : List UInt8) :
    Except CommandError Nat × List UInt8 :=
  match command.check with
  | .error e => (.error e, buffer)
  | .ok () =>
    let (size, buffer) :=
      FrameDraft.write (address :: command.code :: command.arguments) buffer
    (size.mapError errorOfOverrun, buffer)

/-- The frame of a command. -/
def encode (command : Command) (address : UInt8) : Except CommandError (List UInt8) :=
  let (size, buffer) := command.writeFrame address (List.replicate Frame.maxSize 0)
  size.map buffer.take

end Command

end RfidLink
