import Mathlib.Tactic.Set
import RfidLink.Proofs.Framing
import RfidLink.Proofs.Gathering
import RfidLink.Proofs.Scanning

/-!
# The frame of a command

A command becomes a frame in a buffer with two limits, the size of the buffer and the size of a
frame.  This file says which commands reach neither.

* `FrameDraft.write_of_fits` and `FrameDraft.write_of_too_long` are the two ways in which writing
  into a buffer can go, as far as the frame limit is concerned.
* `Command.encode_eq_ok_iff` says what a frame is: the head, the arguments, the checksum.
* **`encode_wellFormed`** says that only one kind of command can be too long, by how much, and that
  every frame has a size that its length byte declares, a valid checksum, and the form that a
  collector of commands accepts.
* **`ofArguments_of_encode`** says that the command can be read back from its frame.
-/

namespace RfidLink

/-! ## Writing into a buffer -/

namespace FrameDraft

variable {d : FrameDraft} {bytes body : List UInt8}

/-- Bytes that stay within both limits are all written. -/
lemma extend_of_fits
    (hframe : d.written.length + bytes.length + Checksum.size ≤ Frame.maxSize)
    (hbuffer : d.written.length + bytes.length ≤ d.buffer.length) :
    extend bytes d = (.ok (), { d with written := d.written ++ bytes }) := by
  induction bytes generalizing d with
  | nil => rw [List.append_nil]; rfl
  | cons byte rest ih =>
      rw [List.length_cons] at hframe hbuffer
      have hpush : d.push byte = .ok { d with written := d.written ++ [byte] } := by
        rw [push, if_neg (by omega), if_neg (by omega)]
      have hlength : (d.written ++ [byte]).length = d.written.length + 1 := by
        rw [List.length_append, List.length_singleton]
      rw [extend, hpush]
      refine (ih ?_ ?_).trans ?_
      · rw [hlength]
        omega
      · rw [hlength]
        exact (by omega : d.written.length + 1 + rest.length ≤ d.buffer.length)
      · rw [List.append_assoc]
        rfl

/-- Of bytes that are too many for one of the limits, the one that is met first refuses one. -/
lemma extend_of_overrun (hwritten : d.written.length + Checksum.size ≤ Frame.maxSize)
    (hbuffer : d.written.length ≤ d.buffer.length)
    (hlong : min Frame.maxSize (d.buffer.length + Checksum.size) <
      d.written.length + bytes.length + Checksum.size) :
    (extend bytes d).1 =
      .error (if Frame.maxSize ≤ d.buffer.length + Checksum.size then .frame else .buffer) := by
  induction bytes generalizing d with
  | nil =>
      rw [List.length_nil] at hlong
      omega
  | cons byte rest ih =>
      rw [List.length_cons] at hlong
      by_cases hfull : Frame.maxSize ≤ d.written.length + Checksum.size
      · rw [extend, push, if_pos hfull, if_pos (by omega)]
      · by_cases hend : d.buffer.length ≤ d.written.length
        · rw [extend, push, if_neg hfull, if_pos hend, if_neg (by omega)]
        · have hlength : (d.written ++ [byte]).length = d.written.length + 1 := by
            rw [List.length_append, List.length_singleton]
          rw [extend, push, if_neg hfull, if_neg hend]
          refine ih ?_ ?_ ?_
          · rw [hlength]
            omega
          · rw [hlength]
            exact (by omega : d.written.length + 1 ≤ d.buffer.length)
          · rw [hlength]
            exact (by omega : min Frame.maxSize (d.buffer.length + Checksum.size) <
              d.written.length + 1 + rest.length + Checksum.size)

/-- A frame that stays within both limits stands at the start of the buffer. -/
theorem write_of_fits (buffer : List UInt8) (hframe : body.length + 3 ≤ Frame.maxSize)
    (hbuffer : body.length + 3 ≤ buffer.length) :
    write body buffer =
      (.ok (body.length + 3), Frame.ofBody body ++ buffer.drop (body.length + 3)) := by
  have hextend : extend (0 :: body) { written := [], buffer } =
      (.ok (), { written := 0 :: body, buffer }) := by
    refine extend_of_fits ?_ ?_
    · simp only [List.length_nil, List.length_cons, Checksum.size]
      omega
    · simp only [List.length_nil, List.length_cons]
      omega
  have htotal : (0 :: body).length + Checksum.size = body.length + 3 := rfl
  simp only [write, hextend, finish, htotal, Nat.not_lt.mpr hbuffer, if_false]
  rfl

lemma write_of_overrun (buffer : List UInt8)
    (h : min Frame.maxSize (buffer.length + Checksum.size) < body.length + 3) :
    (write body buffer).1 =
      .error (if Frame.maxSize ≤ buffer.length + Checksum.size then .frame else .buffer) := by
  have hextend : (extend (0 :: body) { written := [], buffer }).1 =
      .error (if Frame.maxSize ≤ buffer.length + Checksum.size then .frame else .buffer) := by
    refine extend_of_overrun ?_ (Nat.zero_le _) ?_
    · simp only [List.length_nil, Checksum.size, Frame.maxSize]
      omega
    · have hlength : ([] : List UInt8).length + (0 :: body).length + Checksum.size =
          body.length + 3 := by
        simp only [List.length_nil, List.length_cons, Checksum.size]
        omega
      rw [hlength]
      exact h
  rw [write]
  rcases hdraft : extend (0 :: body) { written := [], buffer } with ⟨answer, d⟩
  rw [hdraft] at hextend
  cases hextend
  rfl

theorem write_of_too_long (buffer : List UInt8) (h : Frame.maxSize < body.length + 3) :
    (write body buffer).1 =
      .error (if Frame.maxSize ≤ buffer.length + Checksum.size then .frame else .buffer) :=
  write_of_overrun buffer (Nat.lt_of_le_of_lt (Nat.min_le_left _ _) h)

end FrameDraft

/-! ## The bytes of a command -/

namespace Command

variable {command : Command} {address : UInt8} {frame : List UInt8}

/-- A write command whose EPC and data leave no room for its other fields. -/
def IsOversized : Command → Prop
  | writeData epc _ _ data _ => 243 < epc.length + data.length
  | _ => False

lemma length_toBytes_epc (epc : Epc) : epc.toBytes.length = epc.length + 1 := rfl

lemma length_toBytes_mask (mask : BitMask) : mask.toBytes.length ≤ 36 := by
  have hdata : mask.data.toList.length ≤ 32 := mask.data.length_le
  simp only [BitMask.toBytes, Word.bytesBigEndian, List.length_append, List.length_cons,
    List.length_nil]
  omega

lemma length_toList_le {α : Type} (field : Option α) : field.toList.length ≤ 1 := by
  cases field with
  | none => exact Nat.zero_le 1
  | some value => exact Nat.le_refl 1

lemma length_toBytes_params (params : RoundParams) : params.toBytes.length ≤ 43 := by
  have hmask := length_toBytes_mask (params.mask.getD RoundParams.anyTag)
  have hantenna := length_toList_le params.antenna
  have hscanTime := length_toList_le params.scanTime
  simp only [RoundParams.toBytes, List.length_append, List.length_cons, List.length_nil]
  omega

lemma length_arguments_writeData (epc : Epc) (bank : MemoryBank) (wordPointer : UInt8)
    (data : BoundedBytes maxWriteLength) (password : Password) :
    (writeData epc bank wordPointer data password).arguments.length =
      epc.length + data.length + 8 := by
  simp only [arguments, List.length_append, List.length_cons, length_toBytes_epc,
    List.length_nil, Password.toList, BoundedBytes.length]
  omega

/-- The fields of any other command fit a frame together. -/
lemma length_arguments_le (h : ¬ command.IsOversized) : command.arguments.length ≤ 251 := by
  have hepc (epc : Epc) : epc.length ≤ 62 := epc.length_le
  cases command with
  | tagInventoryWith params => exact (length_toBytes_params params).trans (by decide)
  | readData selector bank wordPointer wordCount password =>
      cases selector with
      | epc epc =>
          have := hepc epc
          simp only [arguments, List.length_append, List.length_cons, length_toBytes_epc,
            List.length_nil, Password.toList]
          omega
      | mask mask =>
          have := length_toBytes_mask mask
          simp only [arguments, List.length_append, List.length_cons, List.length_nil,
            Password.toList]
          omega
  | writeData epc bank wordPointer data password =>
      have hsum : ¬ 243 < epc.length + data.length := h
      rw [length_arguments_writeData]
      omega
  | writeEpc oldEpc newEpc password =>
      have := hepc oldEpc
      have := hepc newEpc
      simp only [arguments, List.length_append, List.length_cons, length_toBytes_epc,
        List.length_nil, Password.toList]
      omega
  | killTag epc password
  | setProtection epc _ _ password
  | blockErase epc _ _ _ password =>
      have := hepc epc
      simp only [arguments, List.length_append, List.length_cons, length_toBytes_epc,
        List.length_nil, Password.toList]
      omega
  | select params =>
      have := length_toBytes_mask params.mask
      simp only [arguments, List.length_append, List.length_cons, List.length_nil]
      omega
  | _ =>
      -- a fixed number of single bytes
      simp [arguments]

lemma lt_length_arguments (h : command.IsOversized) : 251 < command.arguments.length := by
  cases command with
  | writeData epc bank wordPointer data password =>
      have hsum : 243 < epc.length + data.length := h
      rw [length_arguments_writeData]
      omega
  | _ => exact False.elim h

/-- The head and the checksum take five of the bytes of a frame. -/
lemma isOversized_iff : command.IsOversized ↔ Frame.maxSize < command.arguments.length + 5 := by
  rw [Frame.maxSize]
  constructor
  · intro h
    have hlength := lt_length_arguments h
    omega
  · intro h
    by_contra hfits
    have hlength := length_arguments_le hfits
    omega

/-- Address, code and arguments of any other command leave room for a length byte and a checksum. -/
lemma length_body_le (h : ¬ command.IsOversized) (address : UInt8) :
    (address :: command.code :: command.arguments).length + 3 ≤ Frame.maxSize := by
  rw [isOversized_iff] at h
  exact Nat.le_of_not_lt h

/-! ## The frame -/

lemma encode_of_refused {e : CommandError} (h : command.check = .error e) :
    command.encode address = .error e := by
  simp only [encode, writeFrame, h]
  rfl

lemma encode_of_fits (hcheck : command.check = .ok ()) (hfits : ¬ command.IsOversized) :
    command.encode address = .ok (Frame.ofBody (address :: command.code :: command.arguments)) := by
  have hframe := length_body_le hfits address
  have hwrite := FrameDraft.write_of_fits (List.replicate Frame.maxSize 0) hframe
    (by rwa [List.length_replicate])
  simp only [encode, writeFrame, hcheck, hwrite, Except.mapError, Except.map]
  rw [← length_ofBody, List.take_left]

lemma encode_of_oversized (hcheck : command.check = .ok ()) (h : command.IsOversized) :
    command.encode address = .error .payloadTooLarge := by
  rw [isOversized_iff] at h
  have hlong : Frame.maxSize < (address :: command.code :: command.arguments).length + 3 := h
  have hwrite := FrameDraft.write_of_too_long (List.replicate Frame.maxSize 0) hlong
  rw [List.length_replicate, if_pos (Nat.le_add_right _ _)] at hwrite
  simp only [encode, writeFrame, hcheck, hwrite]
  rfl

lemma encode_eq_ok_iff : command.encode address = .ok frame ↔
    command.check = .ok () ∧ ¬ command.IsOversized ∧
      frame = Frame.ofBody (address :: command.code :: command.arguments) := by
  constructor
  · intro h
    cases hcheck : command.check with
    | error e =>
        rw [encode_of_refused hcheck] at h
        cases h
    | ok u =>
        by_cases hover : command.IsOversized
        · rw [encode_of_oversized hcheck hover] at h
          cases h
        · rw [encode_of_fits hcheck hover] at h
          cases h
          exact ⟨rfl, hover, rfl⟩
  · rintro ⟨hcheck, hfits, rfl⟩
    exact encode_of_fits hcheck hfits

/--
  **Commands become well-formed frames.**  A command becomes a frame if its arguments are in range
  and it is not a write of more EPC and data than fit.  Out of range it is refused as the check
  says, and oversized it is refused as such.  A frame has a size that its length byte declares; it
  carries address and code, and a valid checksum; and a fresh collector of commands that is given
  the frame uses it up and holds it.
-/
theorem encode_wellFormed (command : Command) (address : UInt8) :
    ((∃ frame, command.encode address = .ok frame) ↔
      command.check = .ok () ∧ ¬ command.IsOversized) ∧
    (∀ e, command.check = .error e → command.encode address = .error e) ∧
    (command.check = .ok () → command.IsOversized →
      command.encode address = .error .payloadTooLarge) ∧
    ∀ frame, command.encode address = .ok frame →
      5 ≤ frame.length ∧ frame.length ≤ 256 ∧
      (∃ length rest, frame = length :: address :: command.code :: rest ∧
        length.toNat + 1 = frame.length) ∧
      Checksum.isValid frame = true ∧
      ∀ now, ∃ c, (FrameCollector.withMinSize 5).pushAll frame now = (frame.length, c) ∧
        c.frame? = some frame := by
  refine ⟨⟨?_, ?_⟩, fun _ => encode_of_refused, encode_of_oversized, ?_⟩
  · rintro ⟨frame, hframe⟩
    obtain ⟨hcheck, hfits, -⟩ := encode_eq_ok_iff.mp hframe
    exact ⟨hcheck, hfits⟩
  · rintro ⟨hcheck, hfits⟩
    exact ⟨_, encode_of_fits hcheck hfits⟩
  · intro frame hencode
    obtain ⟨-, hfits, rfl⟩ := encode_eq_ok_iff.mp hencode
    set body := address :: command.code :: command.arguments with hbody
    have hlong : body.length + 3 ≤ Frame.maxSize := length_body_le hfits address
    have hshort : 5 ≤ (Frame.ofBody body).length := by
      rw [length_ofBody, hbody, List.length_cons, List.length_cons]
      omega
    have hdeclared : Frame.declaredSize (UInt8.ofNat (body.length + Checksum.size)) =
        (Frame.ofBody body).length := by
      rw [length_ofBody]
      exact declaredSize_ofBody hlong
    refine ⟨hshort, ?_, ⟨_, _, rfl, hdeclared⟩, isValid_ofBody body, fun now => ?_⟩
    · rw [length_ofBody]
      exact hlong
    · exact FrameCollector.pushAll_withMinSize hdeclared hshort (List.cons_ne_nil _ _) now

/-! ## Reading a command back -/

lemma extract_ofBody (address code : UInt8) (arguments : List UInt8) :
    (Frame.ofBody (address :: code :: arguments)).extract 3
      ((Frame.ofBody (address :: code :: arguments)).length - 2) = arguments := by
  have hlength : (Frame.ofBody (address :: code :: arguments)).length - 2 - 3 =
      arguments.length := by
    rw [length_ofBody, List.length_cons, List.length_cons]
    omega
  have hdrop : (Frame.ofBody (address :: code :: arguments)).drop 3 =
      arguments ++ Word.bytesLittleEndian (crc16
        (UInt8.ofNat ((address :: code :: arguments).length + Checksum.size) ::
          address :: code :: arguments)) := rfl
  rw [List.extract_eq_take_drop, hlength, hdrop, List.take_left]

/--
  **A command can be read back from its frame**, by its code and the bytes between the head and the
  checksum.  The two inventory rounds share a code and are told apart by nobody.
-/
theorem ofArguments_of_encode (hencode : command.encode address = .ok frame)
    (hshort : ∀ scanTime, command ≠ tagInventory scanTime)
    (hlong : ∀ params, command ≠ tagInventoryWith params) :
    ofArguments command.code (frame.extract 3 (frame.length - 2)) = .ok command := by
  obtain ⟨hcheck, -, rfl⟩ := encode_eq_ok_iff.mp hencode
  rw [extract_ofBody, ofArguments, scan_arguments hcheck hshort hlong]
  change (command.check >>= fun _ => pure command) = _
  rw [hcheck]
  rfl

/-- A read of six words from the first tag that matches a mask of twelve bits. -/
def maskedRead : Command :=
  readData (.mask { bank := 1, bitAddress := 0x0120, bitLength := 12,
                    data := ⟨[0xE2, 0x80], by decide⟩ }) .user 2 6 ⟨0, 0, 0, 1⟩

def maskedReadFrame : List UInt8 :=
  [18, 7, 2, 0xFF, 3, 2, 6, 0, 0, 0, 1, 1, 0x01, 0x20, 12, 0xE2, 0x80, 0x66, 0x09]

theorem ofArguments_of_encode_maskedRead :
    maskedRead.encode 7 = .ok maskedReadFrame ∧
      (∀ scanTime, maskedRead ≠ tagInventory scanTime) ∧
      (∀ params, maskedRead ≠ tagInventoryWith params) ∧
      ofArguments CommandCode.readData
        [0xFF, 3, 2, 6, 0, 0, 0, 1, 1, 0x01, 0x20, 12, 0xE2, 0x80] = .ok maskedRead := by
  have hencode : maskedRead.encode 7 = .ok maskedReadFrame := by decide +kernel
  exact ⟨hencode, nofun, nofun, ofArguments_of_encode hencode nofun nofun⟩

end Command

end RfidLink
