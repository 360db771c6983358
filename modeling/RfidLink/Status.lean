import RfidLink.Hexadecimal

/-!
# Response status

Every response carries one status byte.  `Status` names the eleven bytes with a documented
meaning and keeps every other byte as it is, so that no information is lost:
`toByte_ofByte` says that writing a status that was read gives the byte back.

Two properties of a status steer the router.  `Status.isSuccess` says that the reader carried
out the command, and `Status.endsRound` that no further frame of the same inventory round
follows.
-/

namespace RfidLink

/-- What a response says about the command it answers. -/
inductive Status where
  | success
  | operationComplete
  | inventoryTimeout
  /-- More frames follow for the same command. -/
  | moreData
  | memoryFull
  /-- The frame holds inventory statistics instead of tags. -/
  | statisticsPacket
  | antennaError
  | noTagFound
  | invalidLength
  | invalidCommand
  | unknownParameter
  /-- A byte without a documented meaning. -/
  | other (byte : UInt8)
deriving DecidableEq

namespace Status

def ofByte (byte : UInt8) : Status :=
  match byte with
  | 0x00 => success
  | 0x01 => operationComplete
  | 0x02 => inventoryTimeout
  | 0x03 => moreData
  | 0x04 => memoryFull
  | 0x26 => statisticsPacket
  | 0xF8 => antennaError
  | 0xFB => noTagFound
  | 0xFD => invalidLength
  | 0xFE => invalidCommand
  | 0xFF => unknownParameter
  | byte => other byte

def toByte : Status → UInt8
  | success => 0x00
  | operationComplete => 0x01
  | inventoryTimeout => 0x02
  | moreData => 0x03
  | memoryFull => 0x04
  | statisticsPacket => 0x26
  | antennaError => 0xF8
  | noTagFound => 0xFB
  | invalidLength => 0xFD
  | invalidCommand => 0xFE
  | unknownParameter => 0xFF
  | other byte => byte

theorem toByte_ofByte (byte : UInt8) : (ofByte byte).toByte = byte := by
  unfold ofByte
  split <;> rfl

/-- Whether the reader carried out the command. -/
def isSuccess : Status → Bool
  | success | operationComplete => true
  | _ => false

/--
  Whether an inventory round ends with this status.  After `moreData` and after statistics
  further frames of the same round follow; every other status closes it.
-/
def endsRound : Status → Bool
  | moreData | statisticsPacket => false
  | _ => true

def description : Status → String
  | success => "success"
  | operationComplete => "operation complete"
  | inventoryTimeout => "inventory timeout"
  | moreData => "more data"
  | memoryFull => "memory full"
  | statisticsPacket => "statistics packet"
  | antennaError => "antenna error"
  | noTagFound => "no tag found"
  | invalidLength => "invalid length"
  | invalidCommand => "invalid command or CRC"
  | unknownParameter => "unknown parameter"
  | other _ => "unknown status"

/-- The meaning of a status followed by its byte. -/
def message (s : Status) : String :=
  s.description ++ " (" ++ Hexadecimal.marked s.toByte ++ ")"

/-- The name under which a status is listed; the unnamed bytes share one. -/
def name : Status → String
  | success => "Success"
  | operationComplete => "OperationComplete"
  | inventoryTimeout => "InventoryTimeout"
  | moreData => "MoreData"
  | memoryFull => "MemoryFull"
  | statisticsPacket => "StatisticsPacket"
  | antennaError => "AntennaError"
  | noTagFound => "NoTagFound"
  | invalidLength => "InvalidLength"
  | invalidCommand => "InvalidCommand"
  | unknownParameter => "UnknownParameter"
  | other _ => "Other"

/-- The short form used in log lines: the name, and the byte where the name does not tell it. -/
def label : Status → String
  | other byte => "Other(" ++ toString byte.toNat ++ ")"
  | s => s.name

end Status

end RfidLink
