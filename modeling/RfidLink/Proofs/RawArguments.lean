import RfidLink.Proofs.CommandFrames

/-!
# Raw arguments are read in one way only

`scan_arguments` says that what a command sends is read back as that command.  It leaves open what
else might be read: a reader that skipped a byte, or took a length on trust, would pass.  This file
goes the other way, from bytes that were accepted to what the command will send.

* A reader that has succeeded has taken bytes from the front, and they are the bytes that the value
  is written with.  There is one lemma for each field (`of_byte` to `of_mask`), and `of_bind` takes
  a chain of readers apart.
* `Command.canonicalArguments` says what becomes of accepted bytes.  They are kept, except that a
  flag is sent as zero or one and a missing target as the first one.  **`sends_of_scan`** is this
  statement for all codes but that of an inventory round, which has a form of its own.
* **`ofArguments_canonical`** draws the conclusion for frames: what is accepted is sent, unless it
  is too long for a frame.
-/

namespace RfidLink

/-! ## Bytes that stand for something -/

lemma Target.toByte_of_ofByte? {byte : UInt8} {t : Target} (h : ofByte? byte = some t) :
    t.toByte = byte := by
  simp only [ofByte?] at h
  split at h <;> cases h <;> rfl

lemma BaudRate.toByte_of_ofByte? {byte : UInt8} {rate : BaudRate} (h : ofByte? byte = some rate) :
    rate.toByte = byte := by
  simp only [ofByte?] at h
  split at h <;> cases h <;> rfl

lemma MemoryBank.toByte_of_ofByte? {byte : UInt8} {bank : MemoryBank}
    (h : ofByte? byte = some bank) : bank.toByte = byte := by
  simp only [ofByte?] at h
  split at h <;> cases h <;> rfl

lemma SelectFlag.toByte_of_ofByte? {byte : UInt8} {flag : SelectFlag}
    (h : ofByte? byte = some flag) : flag.toByte = byte := by
  simp only [ofByte?] at h
  split at h <;> cases h <;> rfl

namespace FrequencyBand

lemma code_of_ofCode? {value : UInt8} {band : FrequencyBand} (h : ofCode? value = some band) :
    band.code = value := by
  simp only [ofCode?] at h
  split at h <;> cases h <;> rfl

/-- Band and channels that were read from two bytes are written as the same two bytes. -/
lemma toBytes_of_ofBytes? {highest lowest : UInt8} {band : FrequencyBand}
    (h : ofBytes? highest lowest = some band) :
    band.toBytes (channel highest) (channel lowest) = (highest, lowest) := by
  have hhighest : highest.toNat < 256 := highest.toNat_lt
  have hlowest : lowest.toNat < 256 := lowest.toNat_lt
  have hcode : band.code.toNat = highest.toNat / 64 * 4 + lowest.toNat / 64 := by
    rw [code_of_ofCode? h, UInt8.toNat_ofNat']
    omega
  obtain ⟨hfirst, hsecond⟩ := band.toNat_toBytes (channel highest) (channel lowest)
  simp only [channel, UInt8.toNat_ofNat'] at hfirst hsecond
  refine Prod.ext (UInt8.toNat_inj.mp (hfirst.trans ?_)) (UInt8.toNat_inj.mp (hsecond.trans ?_))
  · show _ = highest.toNat
    omega
  · show _ = lowest.toNat
    omega

end FrequencyBand

/-! ## Readers that have succeeded -/

namespace ArgumentScan

variable {α β : Type} {reader : ArgumentScan α} {next : α → ArgumentScan β}
  {args rest : List UInt8} {a : α} {b : β}

/-- Of two readers in a row, the second goes on where the first has stopped. -/
lemma of_bind (h : (reader >>= next) args = .ok (b, rest)) :
    ∃ a between, reader args = .ok (a, between) ∧ next a between = .ok (b, rest) := by
  change (reader args >>= fun answer => next answer.1 answer.2) = _ at h
  cases hread : reader args with
  | error e =>
      rw [hread] at h
      cases h
  | ok answer =>
      rw [hread] at h
      exact ⟨answer.1, answer.2, rfl, h⟩

/-- A reader that has to use all arguments has left none. -/
lemma of_all (h : reader.all args = .ok a) : reader args = .ok (a, []) := by
  rw [all] at h
  cases hread : reader args with
  | error e =>
      rw [hread] at h
      cases h
  | ok answer =>
      obtain ⟨value, rest⟩ := answer
      rw [hread] at h
      cases rest with
      | nil =>
          cases h
          rfl
      | cons byte rest => cases h

lemma of_byte {value : UInt8} (h : byte args = .ok (value, rest)) : args = value :: rest := by
  cases args with
  | nil => cases h
  | cons first args =>
      cases h
      rfl

lemma of_known {parameter : Parameter} {field : Option α}
    (h : known parameter field args = .ok (a, rest)) : field = some a ∧ args = rest := by
  cases field with
  | none => cases h
  | some value =>
      cases h
      exact ⟨rfl, rfl⟩

lemma of_bytes {room n : Nat} {field : BoundedBytes room}
    (h : bytes room n args = .ok (field, rest)) :
    args = field.toList ++ rest ∧ field.toList.length = n := by
  simp only [bytes] at h
  split at h
  · cases h
  · rename_i hlong
    split at h
    · cases h
    · rename_i taken hfield
      cases h
      rw [← BoundedBytes.ofList?_eq_some_iff.mp hfield, List.take_append_drop, List.length_take]
      exact ⟨rfl, Nat.min_eq_left (Nat.le_of_not_lt hlong)⟩

lemma of_bank {value : MemoryBank} (h : bank args = .ok (value, rest)) :
    args = value.toByte :: rest := by
  obtain ⟨byte, _, hbyte, h⟩ := of_bind h
  obtain ⟨hvalue, rfl⟩ := of_known h
  rw [of_byte hbyte, MemoryBank.toByte_of_ofByte? hvalue]

lemma of_password {value : Password} (h : password args = .ok (value, rest)) :
    args = value.toList ++ rest := by
  obtain ⟨b₀, _, h₀, h⟩ := of_bind h
  obtain ⟨b₁, _, h₁, h⟩ := of_bind h
  obtain ⟨b₂, _, h₂, h⟩ := of_bind h
  obtain ⟨b₃, _, h₃, h⟩ := of_bind h
  cases h
  rw [of_byte h₀, of_byte h₁, of_byte h₂, of_byte h₃]
  rfl

/-- As many bytes were taken as the number of words says, and it is the number that is sent. -/
lemma of_bytesOfWords {room : Nat} {words : UInt8} {field : BoundedBytes room}
    (h : bytes room (words.toNat * 2) args = .ok (field, rest)) :
    args = field.toList ++ rest ∧ wordCountByte field.toList = words := by
  obtain ⟨hargs, hlength⟩ := of_bytes h
  refine ⟨hargs, ?_⟩
  rw [wordCountByte, hlength, Nat.mul_div_cancel _ Nat.zero_lt_two, UInt8.ofNat_toNat]

lemma of_epc {e : Epc} (h : epc args = .ok (e, rest)) : args = e.toBytes ++ rest := by
  obtain ⟨words, _, hwords, h⟩ := of_bind h
  obtain ⟨hargs, hcount⟩ := of_bytesOfWords h
  rw [of_byte hwords, hargs, Epc.toBytes, hcount, List.cons_append]

lemma of_mask {m : BitMask} (h : mask args = .ok (m, rest)) : args = m.toBytes ++ rest := by
  obtain ⟨bank, _, hbank, h⟩ := of_bind h
  obtain ⟨high, _, hhigh, h⟩ := of_bind h
  obtain ⟨low, _, hlow, h⟩ := of_bind h
  obtain ⟨bitLength, _, hbits, h⟩ := of_bind h
  obtain ⟨data, _, hdata, h⟩ := of_bind h
  cases h
  rw [of_byte hbank, of_byte hhigh, of_byte hlow, of_byte hbits, (of_bytes hdata).1]
  simp only [BitMask.toBytes, Word.bytesBigEndian, Word.highByte_bigEndian,
    Word.lowByte_bigEndian, List.cons_append, List.nil_append]

/-! ## Commands that access tags -/

variable {command : Command}

lemma of_readData (h : readData args = .ok (command, rest)) :
    command.code = CommandCode.readData ∧ args = command.arguments ++ rest := by
  obtain ⟨words, between, hwords, h⟩ := of_bind h
  split at h
  · rename_i hmark
    obtain ⟨bank, _, hbank, h⟩ := of_bind h
    obtain ⟨wordPointer, _, hpointer, h⟩ := of_bind h
    obtain ⟨wordCount, _, hcount, h⟩ := of_bind h
    obtain ⟨password, _, hpassword, h⟩ := of_bind h
    obtain ⟨mask, _, hmask, h⟩ := of_bind h
    cases h
    refine ⟨rfl, ?_⟩
    rw [of_byte hwords, hmark, of_bank hbank, of_byte hpointer, of_byte hcount,
      of_password hpassword, of_mask hmask]
    simp only [Command.arguments, Command.maskMark, List.cons_append, List.nil_append,
      List.append_assoc]
  · obtain ⟨e, _, hepc, h⟩ := of_bind h
    obtain ⟨bank, _, hbank, h⟩ := of_bind h
    obtain ⟨wordPointer, _, hpointer, h⟩ := of_bind h
    obtain ⟨wordCount, _, hcount, h⟩ := of_bind h
    obtain ⟨password, _, hpassword, h⟩ := of_bind h
    cases h
    obtain ⟨hbetween, hlength⟩ := of_bytesOfWords hepc
    refine ⟨rfl, ?_⟩
    rw [of_byte hwords, hbetween, of_bank hbank, of_byte hpointer, of_byte hcount,
      of_password hpassword]
    simp only [Command.arguments, Epc.toBytes, hlength, List.cons_append, List.nil_append,
      List.append_assoc]

lemma of_writeData (h : writeData args = .ok (command, rest)) :
    command.code = CommandCode.writeData ∧ args = command.arguments ++ rest := by
  obtain ⟨words, _, hwords, h⟩ := of_bind h
  obtain ⟨e, _, hepc, h⟩ := of_bind h
  obtain ⟨bank, _, hbank, h⟩ := of_bind h
  obtain ⟨wordPointer, _, hpointer, h⟩ := of_bind h
  obtain ⟨data, _, hdata, h⟩ := of_bind h
  obtain ⟨password, _, hpassword, h⟩ := of_bind h
  cases h
  obtain ⟨hrest, hlength⟩ := of_bytesOfWords hdata
  refine ⟨rfl, ?_⟩
  rw [of_byte hwords, of_epc hepc, of_bank hbank, of_byte hpointer, hrest, of_password hpassword]
  simp only [Command.arguments, hlength, List.cons_append, List.nil_append, List.append_assoc]

lemma of_writeEpc (h : writeEpc args = .ok (command, rest)) :
    command.code = CommandCode.writeEpc ∧ args = command.arguments ++ rest := by
  obtain ⟨oldEpc, _, hold, h⟩ := of_bind h
  obtain ⟨newEpc, _, hnew, h⟩ := of_bind h
  obtain ⟨password, _, hpassword, h⟩ := of_bind h
  cases h
  refine ⟨rfl, ?_⟩
  rw [of_epc hold, of_epc hnew, of_password hpassword]
  simp only [Command.arguments, List.append_assoc]

lemma of_killTag (h : killTag args = .ok (command, rest)) :
    command.code = CommandCode.killTag ∧ args = command.arguments ++ rest := by
  obtain ⟨e, _, hepc, h⟩ := of_bind h
  obtain ⟨password, _, hpassword, h⟩ := of_bind h
  cases h
  refine ⟨rfl, ?_⟩
  rw [of_epc hepc, of_password hpassword]
  simp only [Command.arguments, List.append_assoc]

lemma of_setProtection (h : setProtection args = .ok (command, rest)) :
    command.code = CommandCode.setProtection ∧ args = command.arguments ++ rest := by
  obtain ⟨e, _, hepc, h⟩ := of_bind h
  obtain ⟨area, _, harea, h⟩ := of_bind h
  obtain ⟨action, _, haction, h⟩ := of_bind h
  obtain ⟨password, _, hpassword, h⟩ := of_bind h
  cases h
  refine ⟨rfl, ?_⟩
  rw [of_epc hepc, of_byte harea, of_byte haction, of_password hpassword]
  simp only [Command.arguments, List.cons_append, List.nil_append, List.append_assoc]

lemma of_blockErase (h : blockErase args = .ok (command, rest)) :
    command.code = CommandCode.blockErase ∧ args = command.arguments ++ rest := by
  obtain ⟨e, _, hepc, h⟩ := of_bind h
  obtain ⟨bank, _, hbank, h⟩ := of_bind h
  obtain ⟨wordPointer, _, hpointer, h⟩ := of_bind h
  obtain ⟨wordCount, _, hcount, h⟩ := of_bind h
  obtain ⟨password, _, hpassword, h⟩ := of_bind h
  cases h
  refine ⟨rfl, ?_⟩
  rw [of_epc hepc, of_bank hbank, of_byte hpointer, of_byte hcount, of_password hpassword]
  simp only [Command.arguments, List.cons_append, List.nil_append, List.append_assoc]

/-- The last byte of a select command is a flag, and any byte but zero sets it. -/
lemma of_select (h : select args = .ok (command, rest)) :
    command.code = CommandCode.select ∧ ∃ front flag, args = front ++ flag :: rest ∧
      command.arguments = front ++ [switchByte (flag != 0)] := by
  obtain ⟨antenna, _, hantenna, h⟩ := of_bind h
  obtain ⟨targetByte, _, htarget, h⟩ := of_bind h
  obtain ⟨action, _, haction, h⟩ := of_bind h
  obtain ⟨target, _, hknown, h⟩ := of_bind h
  obtain ⟨mask, _, hmask, h⟩ := of_bind h
  obtain ⟨flag, _, hflag, h⟩ := of_bind h
  cases h
  obtain ⟨hvalue, rfl⟩ := of_known hknown
  refine ⟨rfl, [antenna, targetByte, action] ++ mask.toBytes, flag, ?_, ?_⟩
  · rw [of_byte hantenna, of_byte htarget, of_byte haction, of_mask hmask, of_byte hflag]
    simp only [List.cons_append, List.nil_append]
  · simp only [Command.arguments, SelectFlag.toByte_of_ofByte? hvalue]

end ArgumentScan

/-! ## All commands -/

namespace Command

variable {code address : UInt8} {args : List UInt8} {command : Command}

/-- The last byte is a flag: zero stays, and every other byte becomes one. -/
def settleFlag (args : List UInt8) : List UInt8 :=
  args.dropLast ++ args.getLast?.toList.map fun flag => if flag = 0 then 0 else 1

lemma settleFlag_append (front : List UInt8) (flag : UInt8) :
    settleFlag (front ++ [flag]) = front ++ [switchByte (flag != 0)] := by
  have hflag : (if flag = 0 then 0 else 1) = switchByte (flag != 0) := by
    by_cases hzero : flag = 0
    · subst hzero
      rfl
    · rw [if_neg hzero, switchByte, bne_iff_ne.mpr hzero, if_pos rfl]
  rw [settleFlag, List.dropLast_concat, List.getLast?_concat, ← hflag]
  rfl

lemma length_settleFlag (args : List UInt8) : (settleFlag args).length = args.length := by
  cases args with
  | nil => rfl
  | cons byte rest =>
      simp only [settleFlag, List.length_append, List.length_dropLast, List.length_map,
        List.getLast?_cons, Option.toList_some, List.length_cons, List.length_nil]
      omega

/--
  The form in which argument bytes are sent.  The commands that end in a flag have it settled, and
  continuous inventory without a target looks for the first one; all other bytes are sent as given.
-/
def canonicalArguments (code : UInt8) (args : List UInt8) : List UInt8 :=
  match code, args with
  | CommandCode.startFastInventory, [] => [0]
  | CommandCode.setBuzzer, args
  | CommandCode.setAntennaCheck, args
  | CommandCode.select, args => settleFlag args
  | _, args => args

lemma length_canonicalArguments (code : UInt8) (args : List UInt8) :
    (canonicalArguments code args).length ≤ 251 ↔ args.length ≤ 251 := by
  simp only [canonicalArguments]
  split
  · exact ⟨fun _ => Nat.zero_le _, fun _ => by decide⟩
  · rw [length_settleFlag]
  · rw [length_settleFlag]
  · rw [length_settleFlag]
  · rfl

/--
  A command has a code, and it sends the given arguments in their canonical form.  Nothing is said
  about the arguments of an inventory round, which are read in a short form and sent in a long one.
-/
def Sends (command : Command) (code : UInt8) (args : List UInt8) : Prop :=
  command.code = code ∧
    (code ≠ CommandCode.tagInventory → command.arguments = canonicalArguments code args)

lemma Sends.of_none {c : Command} (h : ofNone c args = .ok command) (hsends : c.Sends code []) :
    command.Sends code args := by
  cases args with
  | nil =>
      cases h
      exact hsends
  | cons byte rest => cases h

lemma Sends.of_one {f : UInt8 → Command} (h : ofOne f args = .ok command)
    (hsends : ∀ value, (f value).Sends code [value]) : command.Sends code args := by
  simp only [ofOne] at h
  split at h
  · cases h
    exact hsends _
  · cases h

lemma Sends.of_field {α : Type} {parameter : Parameter} {f : α → Command} {field : Option α}
    (h : ofField parameter f field = .ok command)
    (hsends : ∀ value, field = some value → (f value).Sends code args) :
    command.Sends code args := by
  cases field with
  | none => cases h
  | some value =>
      cases h
      exact hsends value rfl

/-- Of a reader that takes what its commands send, arguments are kept as they are. -/
lemma Sends.of_reader {reader : ArgumentScan Command} (h : reader.all args = .ok command)
    (hreader : ∀ {args rest command}, reader args = .ok (command, rest) →
      command.code = code ∧ args = command.arguments ++ rest)
    (hkept : canonicalArguments code args = args) : command.Sends code args := by
  obtain ⟨hcode, hargs⟩ := hreader (ArgumentScan.of_all h)
  rw [List.append_nil] at hargs
  exact ⟨hcode, fun _ => hargs.symm.trans hkept.symm⟩

lemma Sends.of_select (h : ArgumentScan.select.all args = .ok command) :
    command.Sends CommandCode.select args := by
  obtain ⟨hcode, front, flag, hargs, hsent⟩ := ArgumentScan.of_select (ArgumentScan.of_all h)
  refine ⟨hcode, fun _ => ?_⟩
  rw [hsent, hargs]
  exact (settleFlag_append front flag).symm

/-- **Accepted arguments are sent in their canonical form.** -/
theorem sends_of_scan (h : scan code args = .ok command) : command.Sends code args := by
  unfold scan at h
  split at h
  · refine ⟨?_, fun hcode => absurd rfl hcode⟩
    split at h <;> cases h <;> rfl
  · exact .of_none h ⟨rfl, fun _ => rfl⟩
  · exact .of_none h ⟨rfl, fun _ => rfl⟩
  · split at h
    · refine .of_field h fun band hband => ⟨rfl, fun _ => ?_⟩
      simp only [arguments, FrequencyBand.toBytes_of_ofBytes? hband]
      rfl
    · cases h
  · exact .of_one h fun _ => ⟨rfl, fun _ => rfl⟩
  · exact .of_one h fun _ => ⟨rfl, fun _ => rfl⟩
  · split at h
    · refine .of_field h fun rate hrate => ⟨rfl, fun _ => ?_⟩
      simp only [arguments, BaudRate.toByte_of_ofByte? hrate]
      rfl
    · cases h
  · exact .of_one h fun _ => ⟨rfl, fun _ => rfl⟩
  · split at h <;> cases h
    exact ⟨rfl, fun _ => rfl⟩
  · exact .of_one h fun _ => ⟨rfl, fun _ => rfl⟩
  · exact .of_one h fun flag => ⟨rfl, fun _ => (settleFlag_append [] flag).symm⟩
  · exact .of_none h ⟨rfl, fun _ => rfl⟩
  · split at h
    · cases h
      exact ⟨rfl, fun _ => rfl⟩
    · refine .of_field h fun target htarget => ⟨rfl, fun _ => ?_⟩
      simp only [arguments, Target.toByte_of_ofByte? htarget]
      rfl
    · cases h
  · exact .of_none h ⟨rfl, fun _ => rfl⟩
  · exact .of_one h fun flag => ⟨rfl, fun _ => (settleFlag_append [] flag).symm⟩
  · exact .of_none h ⟨rfl, fun _ => rfl⟩
  · exact .of_none h ⟨rfl, fun _ => rfl⟩
  · exact .of_none h ⟨rfl, fun _ => rfl⟩
  · exact .of_none h ⟨rfl, fun _ => rfl⟩
  · exact .of_one h fun _ => ⟨rfl, fun _ => rfl⟩
  · exact .of_none h ⟨rfl, fun _ => rfl⟩
  · exact .of_one h fun _ => ⟨rfl, fun _ => rfl⟩
  · exact .of_none h ⟨rfl, fun _ => rfl⟩
  · exact .of_reader h ArgumentScan.of_readData rfl
  · exact .of_reader h ArgumentScan.of_writeData rfl
  · exact .of_reader h ArgumentScan.of_writeEpc rfl
  · exact .of_reader h ArgumentScan.of_killTag rfl
  · exact .of_reader h ArgumentScan.of_setProtection rfl
  · exact .of_reader h ArgumentScan.of_blockErase rfl
  · exact .of_select h
  · cases h

/-! ## Frames -/

lemma ofArguments_eq_ok_iff : ofArguments code args = .ok command ↔
    scan code args = .ok command ∧ command.check = .ok () := by
  rw [ofArguments]
  constructor
  · intro h
    cases hscan : scan code args with
    | error e =>
        rw [hscan] at h
        cases h
    | ok scanned =>
        rw [hscan] at h
        change (scanned.check >>= fun _ => pure scanned) = _ at h
        cases hcheck : scanned.check with
        | error e =>
            rw [hcheck] at h
            cases h
        | ok u =>
            rw [hcheck] at h
            cases h
            exact ⟨rfl, hcheck⟩
  · rintro ⟨hscan, hcheck⟩
    rw [hscan]
    change (command.check >>= fun _ => pure command) = _
    rw [hcheck]
    rfl

/-- A command that sends given arguments is too long exactly if there are too many of them. -/
lemma Sends.isOversized_iff (h : command.Sends code args)
    (hcode : code ≠ CommandCode.tagInventory) : command.IsOversized ↔ 251 < args.length := by
  have hlength := length_canonicalArguments code args
  rw [← h.2 hcode] at hlength
  rw [Command.isOversized_iff, Frame.maxSize]
  omega

/--
  **Raw arguments are canonical.**  If a command is found for a code and argument bytes, it has this
  code and its arguments are in range.  Unless it is an inventory round, it becomes a frame exactly
  if there are at most 251 argument bytes, and then these are what the frame carries, in their
  canonical form; with more of them it is refused as too large.
-/
theorem ofArguments_canonical (h : ofArguments code args = .ok command) :
    command.code = code ∧ command.check = .ok () ∧
      (code ≠ CommandCode.tagInventory → ∀ address,
        ((∃ frame, command.encode address = .ok frame) ↔ args.length ≤ 251) ∧
        (∀ frame, command.encode address = .ok frame →
          frame.extract 3 (frame.length - 2) = canonicalArguments code args) ∧
        (251 < args.length → command.encode address = .error .payloadTooLarge)) := by
  obtain ⟨hscan, hcheck⟩ := ofArguments_eq_ok_iff.mp h
  have hsends : command.Sends code args := sends_of_scan hscan
  refine ⟨hsends.1, hcheck, fun hcode address => ⟨?_, ?_, ?_⟩⟩
  · rw [← Nat.not_lt, ← hsends.isOversized_iff hcode]
    exact ⟨fun ⟨_, hframe⟩ => (encode_eq_ok_iff.mp hframe).2.1,
      fun hfits => ⟨_, encode_of_fits hcheck hfits⟩⟩
  · intro frame hframe
    obtain ⟨-, -, rfl⟩ := encode_eq_ok_iff.mp hframe
    rw [extract_ofBody, hsends.2 hcode]
  · intro hlong
    exact encode_of_oversized hcheck ((hsends.isOversized_iff hcode).mpr hlong)

/-- Select the tags whose EPC memory has certain twelve bits, and have their answers truncated. -/
def truncatingSelect : Command :=
  select { antenna := 0x0F, target := .sl, action := 7, truncate := true,
           mask := { bank := 1, bitAddress := 0x0020, bitLength := 12,
                     data := ⟨[0x30, 0x70], by decide⟩ } }

/-- Write more words than fit a frame behind the EPC of the tag. -/
def oversizedWrite : Command :=
  writeData ⟨[0xE2, 0x80, 0x11, 0x22], by decide⟩ .user 0
    ⟨List.replicate 240 0x55, Nat.le_of_eq List.length_replicate⟩ ⟨0, 0, 0, 1⟩

/-- A flag that is set by a strange byte is settled, and 252 bytes are accepted but never sent. -/
theorem ofArguments_canonical_boundary :
    let flagged : List UInt8 := [0x0F, 4, 7, 1, 0x00, 0x20, 12, 0x30, 0x70, 0x5A]
    let long : List UInt8 := [120, 2, 0xE2, 0x80, 0x11, 0x22, 3, 0] ++ List.replicate 240 0x55 ++
      [0, 0, 0, 1]
    ofArguments CommandCode.select flagged = .ok truncatingSelect ∧
      (∃ frame, truncatingSelect.encode 7 = .ok frame ∧ frame.extract 3 (frame.length - 2) =
        [0x0F, 4, 7, 1, 0x00, 0x20, 12, 0x30, 0x70, 0x01]) ∧
      ofArguments CommandCode.writeData long = .ok oversizedWrite ∧
      oversizedWrite.encode 7 = .error .payloadTooLarge := by
  intro flagged long
  have hselect : ofArguments CommandCode.select flagged = .ok truncatingSelect := by decide +kernel
  have hwrite : ofArguments CommandCode.writeData long = .ok oversizedWrite := by decide +kernel
  obtain ⟨-, -, hflagged⟩ := ofArguments_canonical hselect
  obtain ⟨-, -, hlong⟩ := ofArguments_canonical hwrite
  obtain ⟨hfits, hsent, -⟩ := hflagged (by decide) 7
  obtain ⟨frame, hframe⟩ := hfits.mpr (by decide)
  exact ⟨hselect, ⟨frame, hframe, hsent frame hframe⟩, hwrite,
    (hlong (by decide) 7).2.2 (by decide +kernel)⟩

end Command

end RfidLink
