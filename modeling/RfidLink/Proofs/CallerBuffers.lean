import RfidLink.Proofs.CommandFrames

/-!
# Frames in the buffers of callers

`Command.encode` writes into a buffer of its own, which has room for the longest frame there is.
`Command.writeFrame` writes into the buffer of a caller, which may have any size and hold anything.
This file says that the caller gets the same answer, as far as the buffer has room for it.

* `FrameDraft.extend_eq` and `FrameDraft.write_of_error` say what a write that fails leaves behind:
  some bytes of the frame in front, and all other bytes as they were.
* `FrameDraft.write_of_short_buffer` is the case that the frame limit does not decide.  Either a
  byte of the frame does not fit, or they all do and the checksum does not.
* `Command.refusesByName_check` says that no check speaks of sizes, so that an error of size always
  comes from writing.
* `Command.writeFrame_of_error` says of every failure what it leaves in the buffer.
* **`Command.writeFrame_agrees`** compares the two ways to write a frame.
-/

namespace RfidLink

/-! ## What a buffer holds afterwards -/

namespace FrameDraft

variable {d : FrameDraft} {bytes body buffer after : List UInt8}

/-- Whether they all fit or not, the bytes in front of the first that does not are written. -/
lemma extend_eq (bytes : List UInt8) (hroom : d.written.length ≤ d.buffer.length) :
    ∃ front, front <+: bytes ∧ (d.written ++ front).length ≤ d.buffer.length ∧
      (extend bytes d).2 = { d with written := d.written ++ front } := by
  induction bytes generalizing d with
  | nil =>
      refine ⟨[], List.nil_prefix, ?_, ?_⟩
      · rwa [List.append_nil]
      · rw [List.append_nil]
        rfl
  | cons byte rest ih =>
      by_cases hfull : Frame.maxSize ≤ d.written.length + Checksum.size
      · refine ⟨[], List.nil_prefix, ?_, ?_⟩
        · rwa [List.append_nil]
        · rw [List.append_nil, extend, push, if_pos hfull]
      · by_cases hend : d.buffer.length ≤ d.written.length
        · refine ⟨[], List.nil_prefix, ?_, ?_⟩
          · rwa [List.append_nil]
          · rw [List.append_nil, extend, push, if_neg hfull, if_pos hend]
        · have hnext : (d.written ++ [byte]).length ≤ d.buffer.length := by
            rw [List.length_append, List.length_singleton]
            omega
          obtain ⟨front, hfront, hlength, hextend⟩ :=
            ih (d := { d with written := d.written ++ [byte] }) hnext
          rw [List.append_assoc] at hlength hextend
          refine ⟨byte :: front, (List.prefix_cons_inj byte).mpr hfront, hlength, ?_⟩
          rw [extend, push, if_neg hfull, if_neg hend]
          exact hextend

/-- A write that fails leaves some of the bytes in front, the length byte as zero among them. -/
theorem write_of_error {e : Overrun} (h : write body buffer = (.error e, after)) :
    ∃ front, front <+: 0 :: body ∧ front.length ≤ buffer.length ∧
      after = front ++ buffer.drop front.length := by
  obtain ⟨front, hfront, hlength, hdraft⟩ :=
    extend_eq (d := { written := [], buffer }) (0 :: body) (Nat.zero_le _)
  rw [List.nil_append] at hlength hdraft
  refine ⟨front, hfront, hlength, ?_⟩
  rcases hextend : extend (0 :: body) { written := [], buffer } with ⟨answer, d⟩
  rw [hextend] at hdraft
  subst hdraft
  rw [write, hextend] at h
  cases answer with
  | error cause => exact (Prod.mk.inj h).2.symm
  | ok u =>
      simp only [finish] at h
      split at h
      · exact (Prod.mk.inj h).2.symm
      · cases h

/-- A frame that is not too long for a frame does not fit a buffer that is shorter. -/
theorem write_of_short_buffer (hframe : body.length + 3 ≤ Frame.maxSize)
    (hbuffer : buffer.length < body.length + 3) : (write body buffer).1 = .error .buffer := by
  by_cases hbody : buffer.length < body.length + 1
  · have hover : min Frame.maxSize (buffer.length + Checksum.size) < body.length + 3 := by
      simp only [Checksum.size]
      omega
    have hlimit : ¬ Frame.maxSize ≤ buffer.length + Checksum.size := by
      simp only [Checksum.size]
      omega
    rw [write_of_overrun buffer hover, if_neg hlimit]
  · -- every byte fits, and the checksum does not
    have hextend : extend (0 :: body) { written := [], buffer } =
        (.ok (), { written := 0 :: body, buffer }) := by
      refine extend_of_fits ?_ ?_
      · simp only [List.length_nil, List.length_cons, Checksum.size]
        omega
      · simp only [List.length_nil, List.length_cons]
        omega
    have htotal : (0 :: body).length + Checksum.size = body.length + 3 := rfl
    simp only [write, hextend, finish, htotal, hbuffer, if_true]

end FrameDraft

namespace Command

variable {command : Command} {address : UInt8} {buffer after frame : List UInt8}

/-! ## Checks do not speak of sizes -/

/-- A check that fails says which parameter is wrong. -/
def RefusesByName (check : Except CommandError Unit) : Prop :=
  ∀ e, check = .error e → ∃ parameter, e = .invalidParameter parameter

lemma refusesByName_ok : RefusesByName (.ok ()) := nofun

lemma refusesByName_require (parameter : Parameter) (condition : Bool) :
    RefusesByName (parameter.require condition) := by
  intro e h
  rw [Parameter.require] at h
  split at h
  · cases h
  · cases h
    exact ⟨parameter, rfl⟩

lemma RefusesByName.bind {first second : Except CommandError Unit} (hfirst : RefusesByName first)
    (hsecond : RefusesByName second) : RefusesByName (first >>= fun _ => second) := by
  intro e h
  cases first with
  | error cause =>
      cases h
      exact hfirst e rfl
  | ok u => exact hsecond e h

lemma refusesByName_roundParams (params : RoundParams) : RefusesByName params.check := by
  have hrequire := refusesByName_require
  have hbehind := (hrequire .tidLength (params.tid.all (·.length ≤ 15))).bind
    ((hrequire .antenna (params.antenna.all RoundParams.isAntenna)).bind
      (hrequire .scanTime (params.scanTime != some 0)))
  rw [RoundParams.check]
  cases params.mask with
  | none => exact (hrequire _ _).bind hbehind
  | some mask => exact (hrequire _ _).bind ((hrequire _ _).bind hbehind)

lemma refusesByName_check (command : Command) : RefusesByName command.check := by
  have hrequire := refusesByName_require
  cases command with
  | tagInventory _
  | modifyReaderAddress _
  | modifyInventoryTime _
  | modifyRfPower _
  | killTag _ _ => exact hrequire _ _
  | tagInventoryWith params => exact refusesByName_roundParams params
  | modifyFrequency _ _ _
  | writeData _ _ _ _ _
  | writeEpc _ _ _
  | blockErase _ _ _ _ _
  | select _ => exact (hrequire _ _).bind (hrequire _ _)
  | setProtection _ _ _ _ => exact (hrequire _ _).bind ((hrequire _ _).bind (hrequire _ _))
  | readData selector _ _ _ _ =>
      cases selector with
      | epc _
      | mask _ => exact (hrequire _ _).bind (hrequire _ _)
  | _ => exact refusesByName_ok

/-! ## The two ways to write a frame -/

lemma writeFrame_of_refused {e : CommandError} (h : command.check = .error e)
    (buffer : List UInt8) : command.writeFrame address buffer = (.error e, buffer) := by
  simp only [writeFrame, h]

lemma writeFrame_of_checked (h : command.check = .ok ()) (buffer : List UInt8) :
    command.writeFrame address buffer =
      ((FrameDraft.write (address :: command.code :: command.arguments) buffer).1.mapError
          errorOfOverrun,
        (FrameDraft.write (address :: command.code :: command.arguments) buffer).2) := by
  simp only [writeFrame, h]

/-- Only a command that has passed its check can be too long. -/
lemma isOversized_of_encode (h : command.encode address = .error .payloadTooLarge) :
    command.check = .ok () ∧ command.IsOversized := by
  cases hcheck : command.check with
  | error e =>
      obtain ⟨parameter, rfl⟩ := refusesByName_check command e hcheck
      rw [encode_of_refused hcheck] at h
      cases h
  | ok u =>
      refine ⟨rfl, ?_⟩
      by_contra hfits
      rw [encode_of_fits hcheck hfits] at h
      cases h

/-- There are three ways in which a command can end: as a frame, refused, or too long. -/
lemma encode_cases (command : Command) (address : UInt8) :
    (∃ frame, command.encode address = .ok frame) ∨ (∃ e, command.check = .error e) ∨
      command.encode address = .error .payloadTooLarge := by
  cases hcheck : command.check with
  | error e => exact .inr (.inl ⟨e, rfl⟩)
  | ok u =>
      by_cases hover : command.IsOversized
      · exact .inr (.inr (encode_of_oversized hcheck hover))
      · exact .inl ⟨_, encode_of_fits hcheck hover⟩

lemma writeFrame_of_room (hencode : command.encode address = .ok frame)
    (hroom : frame.length ≤ buffer.length) :
    command.writeFrame address buffer = (.ok frame.length, frame ++ buffer.drop frame.length) := by
  obtain ⟨hcheck, hfits, rfl⟩ := encode_eq_ok_iff.mp hencode
  rw [length_ofBody] at hroom
  rw [writeFrame_of_checked hcheck,
    FrameDraft.write_of_fits buffer (length_body_le hfits address) hroom, length_ofBody]
  rfl

lemma writeFrame_of_no_room (hencode : command.encode address = .ok frame)
    (hshort : buffer.length < frame.length) :
    (command.writeFrame address buffer).1 = .error .bufferTooSmall := by
  obtain ⟨hcheck, hfits, rfl⟩ := encode_eq_ok_iff.mp hencode
  rw [length_ofBody] at hshort
  rw [writeFrame_of_checked hcheck,
    FrameDraft.write_of_short_buffer (length_body_le hfits address) hshort]
  rfl

/-- Of the two limits the one that is met first is told, and the checksum counts for one only. -/
lemma writeFrame_of_oversized (hencode : command.encode address = .error .payloadTooLarge)
    (buffer : List UInt8) : (command.writeFrame address buffer).1 =
      .error (if 254 ≤ buffer.length then .payloadTooLarge else .bufferTooSmall) := by
  obtain ⟨hcheck, hover⟩ := isOversized_of_encode hencode
  rw [isOversized_iff] at hover
  have hlong : Frame.maxSize < (address :: command.code :: command.arguments).length + 3 := hover
  rw [writeFrame_of_checked hcheck, FrameDraft.write_of_too_long buffer hlong]
  by_cases hlimit : 254 ≤ buffer.length
  · rw [if_pos hlimit, if_pos (by simp only [Frame.maxSize, Checksum.size]; omega)]
    rfl
  · rw [if_neg hlimit, if_neg (by simp only [Frame.maxSize, Checksum.size]; omega)]
    rfl

/-- A failure of any kind leaves some bytes of the frame in front, or none, and keeps the others. -/
lemma writeFrame_of_error {e : CommandError}
    (h : command.writeFrame address buffer = (.error e, after)) :
    ∃ front, front <+: 0 :: address :: command.code :: command.arguments ∧
      front.length ≤ buffer.length ∧ after = front ++ buffer.drop front.length := by
  cases hcheck : command.check with
  | error cause =>
      rw [writeFrame_of_refused hcheck] at h
      cases h
      exact ⟨[], List.nil_prefix, Nat.zero_le _, rfl⟩
  | ok u =>
      rw [writeFrame_of_checked hcheck] at h
      rcases hwrite : FrameDraft.write (address :: command.code :: command.arguments) buffer with
        ⟨answer, buffer'⟩
      rw [hwrite] at h
      cases answer with
      | error overrun =>
          cases h
          exact FrameDraft.write_of_error hwrite
      | ok size => cases h

/--
  **A frame in the buffer of a caller.**

  * Where a command becomes a frame, a buffer with room for it has it in front afterwards and keeps
    what it held behind, and a smaller buffer is too small.
  * Where the check refuses a command, the answer is the same and the buffer is not touched.
  * Where a command is too long for a frame, that is the answer too if the buffer holds everything
    that a frame may have in front of its checksum, and otherwise the buffer is too small.

  There is no other case.  A failure leaves in front of the buffer only bytes with which the frame
  would have begun, its length byte as zero.
-/
theorem writeFrame_agrees (command : Command) (address : UInt8) (buffer : List UInt8) :
    (∀ frame, command.encode address = .ok frame →
      (frame.length ≤ buffer.length → command.writeFrame address buffer =
        (.ok frame.length, frame ++ buffer.drop frame.length)) ∧
      (buffer.length < frame.length →
        (command.writeFrame address buffer).1 = .error .bufferTooSmall)) ∧
    (∀ e, command.check = .error e →
      command.encode address = .error e ∧
      command.writeFrame address buffer = (.error e, buffer)) ∧
    (command.encode address = .error .payloadTooLarge →
      (254 ≤ buffer.length → (command.writeFrame address buffer).1 = .error .payloadTooLarge) ∧
      (buffer.length < 254 → (command.writeFrame address buffer).1 = .error .bufferTooSmall)) ∧
    ((∃ frame, command.encode address = .ok frame) ∨ (∃ e, command.check = .error e) ∨
      command.encode address = .error .payloadTooLarge) ∧
    ∀ e after, command.writeFrame address buffer = (.error e, after) →
      ∃ front, front <+: 0 :: address :: command.code :: command.arguments ∧
        front.length ≤ buffer.length ∧ after = front ++ buffer.drop front.length := by
  refine ⟨fun frame hencode => ⟨writeFrame_of_room hencode, writeFrame_of_no_room hencode⟩,
    fun e hcheck => ⟨encode_of_refused hcheck, writeFrame_of_refused hcheck buffer⟩, ?_,
    encode_cases command address, fun e after => writeFrame_of_error⟩
  intro hencode
  have hanswer := writeFrame_of_oversized hencode buffer
  constructor
  · intro hlarge
    rwa [if_pos hlarge] at hanswer
  · intro hsmall
    rwa [if_neg (Nat.not_le.mpr hsmall)] at hanswer

end Command

end RfidLink
