import Mathlib.Tactic.Lemma
import RfidLink.Command.Frame
import RfidLink.Command.Scan

/-!
# Argument bytes are read back

The bytes of a command's arguments are written by one function and read by another, and the two have
to agree about the order, the width and the units of every field.

* `ArgumentScan.Reads` says that a reader takes certain bytes from the front and gives a value,
  whatever comes behind them.  `Reads.bind` puts readers together as their bytes are put together.
* The fields come next, one lemma each.  A field that carries its own length can only be read back
  if the length fits what follows; this is what `Command.check` sees to.
* **`scan_arguments`** is the result for a command as a whole.
-/

namespace RfidLink

/-! ## What a check says -/

lemma Parameter.require_eq_ok_iff {parameter : Parameter} {condition : Bool} :
    parameter.require condition = .ok () ↔ condition = true := by
  cases condition with
  | false => exact ⟨nofun, nofun⟩
  | true => exact ⟨fun _ => rfl, fun _ => rfl⟩

/-- Of two checks in a row, both are passed or the row is not. -/
lemma checks_eq_ok_iff {first second : Except CommandError Unit} :
    (do first; second) = .ok () ↔ first = .ok () ∧ second = .ok () := by
  cases first with
  | error e => exact ⟨nofun, nofun⟩
  | ok u => exact ⟨fun h => ⟨rfl, h⟩, fun h => h.2⟩

lemma Epc.length_of_check {e : Epc} (h : e.check = .ok ()) : e.toList.length % 2 = 0 := by
  have hcondition := Parameter.require_eq_ok_iff.mp h
  rw [Bool.and_eq_true, beq_iff_eq] at hcondition
  exact hcondition.2

lemma BitMask.length_of_check {m : BitMask} (h : m.check = .ok ()) :
    m.data.toList.length = bytesForBits m.bitLength.toNat :=
  beq_iff_eq.mp (Parameter.require_eq_ok_iff.mp h)

/-! ## Readers and the bytes they take -/

namespace ArgumentScan

variable {α β : Type} {reader : ArgumentScan α} {next : α → ArgumentScan β}
  {front back : List UInt8} {a : α} {b : β}

/-- The reader takes these bytes from the front, whatever follows them, and gives this value. -/
def Reads (reader : ArgumentScan α) (bytes : List UInt8) (value : α) : Prop :=
  ∀ rest, reader (bytes ++ rest) = .ok (value, rest)

lemma Reads.bind (h : Reads reader front a) (hnext : Reads (next a) back b) :
    Reads (reader >>= next) (front ++ back) b := by
  intro rest
  have hfirst : (reader >>= next) (front ++ (back ++ rest)) = next a (back ++ rest) := by
    change (reader (front ++ (back ++ rest)) >>= fun answer => next answer.1 answer.2) = _
    rw [h]
    rfl
  rw [List.append_assoc, hfirst]
  exact hnext rest

/-- The last of several readers leaves nothing to be read, and the fields are put together. -/
lemma Reads.last (h : Reads reader front a) (f : α → β) :
    Reads (do return f (← reader)) front (f a) := by
  intro rest
  change (reader (front ++ rest) >>= fun answer => pure (f answer.1, answer.2)) = _
  rw [h]
  rfl

lemma Reads.all (h : Reads reader front a) : reader.all front = .ok a := by
  have hread : reader front = .ok (a, []) := by
    rw [← h [], List.append_nil]
  rw [ArgumentScan.all, hread]
  rfl

/-! ## Fields -/

lemma reads_byte (value : UInt8) : Reads byte [value] value := fun _ => rfl

lemma reads_known (parameter : Parameter) {field : Option α} (h : field = some a) :
    Reads (known parameter field) [] a := by
  subst h
  exact fun _ => rfl

lemma reads_bytes {room n : Nat} (field : BoundedBytes room) (h : field.toList.length = n) :
    Reads (bytes room n) field.toList field := by
  subst h
  intro rest
  have hlong : ¬ (field.toList ++ rest).length < field.toList.length := by
    rw [List.length_append]
    omega
  simp only [bytes, hlong, if_false, List.take_left, List.drop_left, BoundedBytes.ofList?_toList]

lemma reads_bank (value : MemoryBank) : Reads bank [value.toByte] value :=
  (reads_byte _).bind (reads_known _ value.ofByte?_toByte)

lemma reads_password (value : Password) : Reads password value.toList value := fun _ => rfl

/-- The words of an EPC that is made of words are all its bytes. -/
lemma reads_epcOfWords {e : Epc} (h : e.check = .ok ()) :
    Reads (epcOfWords (wordCountByte e.toList)) e.toList e := by
  apply reads_bytes
  have heven := Epc.length_of_check h
  have hlong : e.toList.length ≤ 62 := e.length_le
  simp only [wordCountByte, UInt8.toNat_ofNat']
  omega

lemma reads_epc {e : Epc} (h : e.check = .ok ()) : Reads epc e.toBytes e :=
  (reads_byte _).bind (reads_epcOfWords h)

lemma reads_mask {m : BitMask} (h : m.check = .ok ()) : Reads mask m.toBytes m := by
  have hread : Reads mask
      ([m.bank] ++ ([Word.highByte m.bitAddress] ++ ([Word.lowByte m.bitAddress] ++
        ([m.bitLength] ++ m.data.toList))))
      { m with
        bitAddress := Word.bigEndian (Word.highByte m.bitAddress) (Word.lowByte m.bitAddress) } :=
    (reads_byte _).bind <| (reads_byte _).bind <| (reads_byte _).bind <| (reads_byte _).bind <|
      (reads_bytes m.data (BitMask.length_of_check h)).last _
  rw [Word.bigEndian_highByte_lowByte] at hread
  exact hread

lemma switchByte_ne_zero (on : Bool) : (switchByte on != 0) = on := by
  cases on <;> rfl

/-! ## Commands that access tags -/

variable {bank : MemoryBank} {wordPointer wordCount : UInt8} {password : Password}

/-- The number of words of an EPC is never the mark that announces a mask. -/
lemma wordCountByte_ne (e : Epc) : wordCountByte e.toList ≠ 0xFF := by
  intro hmark
  have hlong : e.toList.length ≤ 62 := e.length_le
  have hwords : e.toList.length / 2 % 2 ^ 8 = 255 := by
    rw [← UInt8.toNat_ofNat', ← wordCountByte, hmark]
    rfl
  omega

lemma reads_readData_epc {e : Epc} (h : e.check = .ok ()) :
    Reads readData (Command.readData (.epc e) bank wordPointer wordCount password).arguments
      (.readData (.epc e) bank wordPointer wordCount password) := by
  simp only [Command.arguments, Epc.toBytes, List.cons_append, List.append_assoc]
  refine (reads_byte _).bind ?_
  rw [if_neg (wordCountByte_ne e)]
  exact (reads_epcOfWords h).bind <| (reads_bank _).bind <| (reads_byte _).bind <|
    (reads_byte _).bind <| (reads_password _).last _

lemma reads_readData_mask {m : BitMask} (h : m.check = .ok ()) :
    Reads readData (Command.readData (.mask m) bank wordPointer wordCount password).arguments
      (.readData (.mask m) bank wordPointer wordCount password) := by
  simp only [Command.arguments, List.cons_append, List.append_assoc]
  refine (reads_byte _).bind ?_
  rw [if_pos (show Command.maskMark = 0xFF from rfl)]
  exact (reads_bank _).bind <| (reads_byte _).bind <| (reads_byte _).bind <|
    (reads_password _).bind <| (reads_mask h).last _

lemma reads_writeData {e : Epc} {data : BoundedBytes maxWriteLength} (h : e.check = .ok ())
    (hdata : data.toList.length % 2 = 0) :
    Reads writeData (Command.writeData e bank wordPointer data password).arguments
      (.writeData e bank wordPointer data password) := by
  have hwords : data.toList.length = (wordCountByte data.toList).toNat * 2 := by
    have hlong : data.toList.length ≤ 240 := data.length_le
    simp only [wordCountByte, UInt8.toNat_ofNat']
    omega
  simp only [Command.arguments, List.cons_append, List.append_assoc]
  exact (reads_byte _).bind <| (reads_epc h).bind <| (reads_bank _).bind <| (reads_byte _).bind <|
    (reads_bytes data hwords).bind <| (reads_password _).last _

lemma reads_writeEpc {oldEpc newEpc : Epc} (hold : oldEpc.check = .ok ())
    (hnew : newEpc.check = .ok ()) :
    Reads writeEpc (Command.writeEpc oldEpc newEpc password).arguments
      (.writeEpc oldEpc newEpc password) := by
  simp only [Command.arguments, List.append_assoc]
  exact (reads_epc hold).bind <| (reads_epc hnew).bind <| (reads_password _).last _

lemma reads_killTag {e : Epc} (h : e.check = .ok ()) :
    Reads killTag (Command.killTag e password).arguments (.killTag e password) :=
  (reads_epc h).bind <| (reads_password _).last _

lemma reads_setProtection {e : Epc} {area action : UInt8} (h : e.check = .ok ()) :
    Reads setProtection (Command.setProtection e area action password).arguments
      (.setProtection e area action password) := by
  simp only [Command.arguments, List.append_assoc]
  exact (reads_epc h).bind <| (reads_byte _).bind <| (reads_byte _).bind <|
    (reads_password _).last _

lemma reads_blockErase {e : Epc} (h : e.check = .ok ()) :
    Reads blockErase (Command.blockErase e bank wordPointer wordCount password).arguments
      (.blockErase e bank wordPointer wordCount password) := by
  simp only [Command.arguments, List.append_assoc]
  exact (reads_epc h).bind <| (reads_bank _).bind <| (reads_byte _).bind <| (reads_byte _).bind <|
    (reads_password _).last _

lemma reads_select {params : Selection} (h : params.mask.check = .ok ()) :
    Reads select (Command.select params).arguments (.select params) := by
  have hread : Reads select
      ([params.antenna] ++ ([params.target.toByte] ++ ([params.action] ++
        ([] ++ (params.mask.toBytes ++ [switchByte params.truncate])))))
      (.select { params with truncate := switchByte params.truncate != 0 }) :=
    (reads_byte _).bind <| (reads_byte _).bind <| (reads_byte _).bind <|
      (reads_known _ params.target.ofByte?_toByte).bind <| (reads_mask h).bind <|
      (reads_byte _).last _
  rw [switchByte_ne_zero] at hread
  exact hread

end ArgumentScan

/-! ## All commands -/

namespace FrequencyBand

/-- Each byte carries its half of the band code above the six bits of its channel. -/
lemma toNat_toBytes (band : FrequencyBand) (maxChannel minChannel : UInt8) :
    (band.toBytes maxChannel minChannel).1.toNat =
        band.code.toNat / 4 * 64 + maxChannel.toNat % 64 ∧
      (band.toBytes maxChannel minChannel).2.toNat =
        band.code.toNat % 4 * 64 + minChannel.toNat % 64 := by
  have hcode : band.code.toNat < 16 := by
    cases band <;> decide
  simp only [toBytes, UInt8.toNat_ofNat']
  omega

lemma ofBytes?_toBytes (band : FrequencyBand) (maxChannel minChannel : UInt8) :
    ofBytes? (band.toBytes maxChannel minChannel).1 (band.toBytes maxChannel minChannel).2 =
      some band := by
  obtain ⟨hhighest, hlowest⟩ := band.toNat_toBytes maxChannel minChannel
  have hcode : (band.toBytes maxChannel minChannel).1.toNat / 64 * 4 +
      (band.toBytes maxChannel minChannel).2.toNat / 64 = band.code.toNat := by
    rw [hhighest, hlowest]
    omega
  rw [ofBytes?, hcode, UInt8.ofNat_toNat, ofCode?_code]

lemma channel_eq {byte value : UInt8} {band : Nat}
    (hbyte : byte.toNat = band * 64 + value.toNat % 64) (hvalue : value.toNat < 64) :
    channel byte = value := by
  apply UInt8.toNat_inj.mp
  simp only [channel, UInt8.toNat_ofNat', hbyte]
  omega

end FrequencyBand

namespace Command

/--
  **Reading arguments undoes writing them.**  The two inventory rounds are left out: both have the
  code of the short form, but they send the reference parameters or all of them.
-/
theorem scan_arguments {command : Command} (hcheck : command.check = .ok ())
    (hshort : ∀ scanTime, command ≠ .tagInventory scanTime)
    (hlong : ∀ params, command ≠ .tagInventoryWith params) :
    scan command.code command.arguments = .ok command := by
  cases command with
  | tagInventory scanTime => exact absurd rfl (hshort scanTime)
  | tagInventoryWith params => exact absurd rfl (hlong params)
  | modifyFrequency band highest lowest =>
      obtain ⟨hchannels, -⟩ := checks_eq_ok_iff.mp hcheck
      have hrange := Parameter.require_eq_ok_iff.mp hchannels
      rw [Bool.and_eq_true, decide_eq_true_iff, decide_eq_true_iff, UInt8.le_iff_toNat_le,
        UInt8.le_iff_toNat_le] at hrange
      have hmost : maxChannel.toNat = 62 := rfl
      obtain ⟨hhigh, hlow⟩ := band.toNat_toBytes highest lowest
      have hread : scan CommandCode.modifyFrequency
            (modifyFrequency band highest lowest).arguments =
          ofField .frequencyBand
            (modifyFrequency · (FrequencyBand.channel (band.toBytes highest lowest).1)
              (FrequencyBand.channel (band.toBytes highest lowest).2))
            (FrequencyBand.ofBytes? (band.toBytes highest lowest).1
              (band.toBytes highest lowest).2) := rfl
      rw [code, hread, band.ofBytes?_toBytes, FrequencyBand.channel_eq hhigh (by omega),
        FrequencyBand.channel_eq hlow (by omega), ofField]
  | modifyBaudRate rate => exact congrArg (ofField _ _) rate.ofByte?_toByte
  | startFastInventory target => exact congrArg (ofField _ _) target.ofByte?_toByte
  | setBuzzer on => exact congrArg (Except.ok ∘ setBuzzer) (ArgumentScan.switchByte_ne_zero on)
  | setAntennaCheck on =>
      exact congrArg (Except.ok ∘ setAntennaCheck) (ArgumentScan.switchByte_ne_zero on)
  | readData selector bank wordPointer wordCount password =>
      obtain ⟨hselector, -⟩ := checks_eq_ok_iff.mp hcheck
      cases selector with
      | epc e => exact (ArgumentScan.reads_readData_epc hselector).all
      | mask m => exact (ArgumentScan.reads_readData_mask hselector).all
  | writeData e bank wordPointer data password =>
      obtain ⟨hepc, hdata⟩ := checks_eq_ok_iff.mp hcheck
      have heven := Parameter.require_eq_ok_iff.mp hdata
      rw [Bool.and_eq_true, beq_iff_eq] at heven
      exact (ArgumentScan.reads_writeData hepc heven.2).all
  | writeEpc oldEpc newEpc password =>
      obtain ⟨hold, hnew⟩ := checks_eq_ok_iff.mp hcheck
      exact (ArgumentScan.reads_writeEpc hold hnew).all
  | killTag e password => exact (ArgumentScan.reads_killTag hcheck).all
  | setProtection e area action password =>
      obtain ⟨hepc, -⟩ := checks_eq_ok_iff.mp hcheck
      exact (ArgumentScan.reads_setProtection hepc).all
  | blockErase e bank wordPointer wordCount password =>
      obtain ⟨hepc, -⟩ := checks_eq_ok_iff.mp hcheck
      exact (ArgumentScan.reads_blockErase hepc).all
  | select params =>
      obtain ⟨-, hmask⟩ := checks_eq_ok_iff.mp hcheck
      exact (ArgumentScan.reads_select hmask).all
  | _ => rfl

end Command

end RfidLink
