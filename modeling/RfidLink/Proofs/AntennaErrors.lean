import RfidLink.Proofs.Contents
import RfidLink.Proofs.ErrorLight

/-!
# Which errors of the antenna stop inventory

An error of the antenna is told by the status of a response to a round.  The status is looked at
when the response has been read, and reading it includes its payload: for two of the three codes of
a round the payload is taken for a report on tags as soon as there are two bytes of it.  What a
reader with a broken antenna puts there is up to the reader.  If it is no report, the frame is
dropped, and inventory goes on without an antenna.

The third code shows that this is not needed.  The payload of a response to fast inventory is not
looked at, and neither is that of any other command that has failed.

* `Frame.SaysAntennaError` is such a response, whatever its payload is, and `PayloadIsRead` says
  that the payload does not get in the way.
* `SaysAntennaError.isAntennaError_iff` says that exactly then the frame counts as an error of the
  antenna, and `acceptFrame_of_unread` what becomes of it otherwise.
* **`stopped_if_payload_is_read`** is about a call to process received bytes.
* `unread_antennaError_is_dropped` is a response with which inventory goes on.
-/

namespace RfidLink

variable {ε : Type} {board : Board ε}

/-! ## Frames -/

/--
  A response to a round with an error of the antenna.  Its size is the one that it declares and its
  checksum is valid; nothing is said about its payload.
-/
structure Frame.SaysAntennaError (code : UInt8) (frame : List UInt8) : Prop where
  isRound : CommandCode.isRound code = true
  sized : Frame.Sized frame
  valid : Checksum.isValid frame = true
  head : ∃ length address rest, frame = length :: address :: code :: 0xF8 :: rest

/--
  The payload of such a response is not looked at, or there is too little of it for tags, or it is
  a report.
-/
def PayloadIsRead (code : UInt8) (payload : List UInt8) : Prop :=
  code = CommandCode.startFastInventory ∨ payload.length < 2 ∨
    ∃ report, RoundReport.ofPayload payload = .ok report

/-- For the two codes of a polled round, two bytes are taken for a report. -/
lemma exists_roundOf_iff {head : ResponseHead} (hstatus : head.status = .antennaError)
    (payload : List UInt8) : (∃ content, Content.roundOf head payload = .ok content) ↔
      payload.length < 2 ∨ ∃ report, RoundReport.ofPayload payload = .ok report := by
  have hstatistics : head.status ≠ .statisticsPacket := by
    rw [hstatus]
    decide
  rw [Content.roundOf, if_neg hstatistics]
  by_cases htwo : 2 ≤ payload.length
  · rw [if_pos htwo]
    cases RoundReport.ofPayload payload with
    | error e =>
        constructor
        · rintro ⟨_, hcontent⟩
          cases hcontent
        · rintro (hfew | ⟨_, hreport⟩)
          · exact absurd htwo (Nat.not_le.mpr hfew)
          · cases hreport
    | ok report => exact ⟨fun _ => .inr ⟨report, rfl⟩, fun _ => ⟨_, rfl⟩⟩
  · rw [if_neg htwo]
    exact ⟨fun _ => .inl (Nat.lt_of_not_le htwo), fun _ => ⟨_, rfl⟩⟩

lemma exists_ofPayload_iff {head : ResponseHead} (hround : CommandCode.isRound head.command = true)
    (hstatus : head.status = .antennaError) (payload : List UInt8) :
    (∃ content, Content.ofPayload head payload = .ok content) ↔
      PayloadIsRead head.command payload := by
  simp only [CommandCode.isRound, Bool.or_eq_true, beq_iff_eq] at hround
  have hpolled (h : Content.ofPayload head payload = Content.roundOf head payload)
      (hcode : head.command ≠ CommandCode.startFastInventory) :
      (∃ content, Content.ofPayload head payload = .ok content) ↔
        PayloadIsRead head.command payload := by
    rw [h, exists_roundOf_iff hstatus, PayloadIsRead, or_iff_right hcode]
  rcases hround with (hcode | hcode) | hcode
  · refine hpolled ?_ (hcode ▸ by decide)
    simp only [Content.ofPayload, hcode]
    rfl
  · refine hpolled ?_ (hcode ▸ by decide)
    simp only [Content.ofPayload, hcode]
    rfl
  · refine ⟨fun _ => .inl hcode, fun _ => ⟨.other head.command head.status payload, ?_⟩⟩
    simp only [Content.ofPayload, hcode, hstatus]
    rfl

namespace Frame.SaysAntennaError

variable {code : UInt8} {frame : List UInt8}

/-- Such a response is read if its payload is, and then it has this status. -/
lemma ofFrame_cases (h : SaysAntennaError code frame) :
    (PayloadIsRead code (responsePayload frame) ∧ ∃ response,
      Response.ofFrame frame = .ok response ∧ response.head.command = code ∧
        response.head.status = .antennaError) ∨
    (¬ PayloadIsRead code (responsePayload frame) ∧ ∃ cause,
      Response.ofFrame frame = .error cause) := by
  obtain ⟨length, address, rest, rfl⟩ := h.head
  set frame := length :: address :: code :: 0xF8 :: rest with hframe
  set head : ResponseHead := { length, address, command := code, status := .ofByte 0xF8 }
  have hread : Response.ofFrame frame =
      (Content.ofPayload head (responsePayload frame)).map (Response.mk head) :=
    Response.ofFrame_of_sized h.sized h.valid
  have hiff : (∃ content, Content.ofPayload head (responsePayload frame) = .ok content) ↔
      PayloadIsRead code (responsePayload frame) := exists_ofPayload_iff h.isRound rfl _
  cases hcontent : Content.ofPayload head (responsePayload frame) with
  | ok content =>
      rw [hcontent] at hread
      exact .inl ⟨hiff.mp ⟨content, hcontent⟩, ⟨head, content⟩, hread, rfl, rfl⟩
  | error cause =>
      rw [hcontent] at hread hiff
      refine .inr ⟨fun hpayload => ?_, cause, hread⟩
      obtain ⟨content, hok⟩ := hiff.mpr hpayload
      cases hok

/-- **It counts as an error of the antenna exactly if its payload does not get in the way.** -/
theorem isAntennaError_iff (h : SaysAntennaError code frame) :
    isAntennaError frame = true ↔ PayloadIsRead code (responsePayload frame) := by
  rw [isAntennaError, roundStatus?, if_pos h.valid]
  rcases h.ofFrame_cases with ⟨hpayload, response, hread, rfl, hstatus⟩ | ⟨hpayload, cause, hread⟩
  · simp only [hread, h.isRound, if_true, hstatus, hpayload, beq_self_eq_true]
  · simp only [hread, hpayload, iff_false]
    decide

end Frame.SaysAntennaError

namespace Station

variable {code : UInt8} {frame : List UInt8}

/-- Such a response is counted as one that cannot be read, and that is all. -/
lemma acceptFrame_of_unread (h : Frame.SaysAntennaError code frame)
    (hpayload : ¬ PayloadIsRead code (responsePayload frame)) (now : Nat) (s : Station ε) :
    ∃ cause, s.acceptFrame board now frame =
      (s.count fun c =>
        { c with framesReceived := c.framesReceived + 1,
                 framesUnreadable := c.framesUnreadable + 1 }).tell board
        (.unreadable frame cause) := by
  obtain ⟨cause, hread⟩ := (h.ofFrame_cases.resolve_left fun hread => hpayload hread.1).2
  refine ⟨cause, ?_⟩
  simp only [acceptFrame, h.valid, Bool.not_true, Bool.false_eq_true, if_false, hread]
  rfl

end Station

open Station

/--
  **An error of the antenna stops inventory if its payload is read.**  A call to process received
  bytes finds inventory, with a schedule that has begun or not, and callbacks leave the router
  alone.  The error is shown once if one of the frames counts as an error of the antenna, and
  otherwise not at all.

  Take any response to a round, of any size, that says by its status that there is an error of the
  antenna, and that is acted on in this call.  If its payload is not looked at, or has less than two
  bytes, or is a report, then inventory has ended and the error is shown.  If it has two bytes or
  more that are no report, it is counted among the frames that could not be read, and nothing else
  is done about it.
-/
theorem stopped_if_payload_is_read (log : LightLog board)
    (hrouter : board.CallbacksAre fun s t => t.router = s.router) {s : Station ε}
    (hmode : s.router.mode = .inventory) (hfree : s.router.notifying = false) :
    (log.shown (s.process board).2.surroundings = log.shown s.surroundings ++
      if (s.dispatched board).any Frame.isAntennaError then [true] else []) ∧
    ∀ code frame, frame ∈ s.dispatched board → Frame.SaysAntennaError code frame →
      (PayloadIsRead code (responsePayload frame) →
        (s.process board).2.router.mode = .idle ∧
        (s.process board).2.router.inventoryActive = false ∧
        (s.process board).2.router.errorShown = true ∧
        log.shown (s.process board).2.surroundings = log.shown s.surroundings ++ [true]) ∧
      (¬ PayloadIsRead code (responsePayload frame) →
        ∀ (now : Nat) (t : Station ε), ∃ cause, t.acceptFrame board now frame =
          (t.count fun c =>
            { c with framesReceived := c.framesReceived + 1,
                     framesUnreadable := c.framesUnreadable + 1 }).tell board
            (.unreadable frame cause)) := by
  have hheeds := heedsAntenna_process hrouter log.heeds log.shields hmode hfree
  refine ⟨?_, fun code frame hmem hsays => ⟨fun hread => ?_, fun hnot now t => ?_⟩⟩
  · split
    · rename_i hany
      exact (hheeds.ended hany).part_eq
    · rename_i hnone
      rw [List.append_nil]
      exact (hheeds.hushed (Bool.not_eq_true _ ▸ hnone)).part_eq
  · have hended := hheeds.ended
      (List.any_eq_true.mpr ⟨frame, hmem, hsays.isAntennaError_iff.mpr hread⟩)
    exact ⟨hended.mode, hended.inactive, hended.errorShown, hended.part_eq⟩
  · exact acceptFrame_of_unread hsays hnot now t

/-- A response to a round of a single tag, with an error of the antenna and an empty report. -/
def emptyReportFrame : List UInt8 := Frame.ofBody [0x00, 0x0F, 0xF8, 0x01, 0x00]

/-- 100 ms after the beginning of inventory a frame has come. -/
def reachedBy (frame : List UInt8) : Station Diary :=
  Diary.pass 100 frame (Diary.begun (Diary.started .standard))

/-- With an empty report, an error of the antenna stops inventory. -/
theorem stopped_with_empty_report :
    (reachedBy emptyReportFrame).dispatched Diary.keeping = [emptyReportFrame] ∧
      ((reachedBy emptyReportFrame).process Diary.keeping).2.router.mode = .idle ∧
      ((reachedBy emptyReportFrame).process Diary.keeping).2.router.inventoryActive = false ∧
      Diary.lightLog.shown ((reachedBy emptyReportFrame).process Diary.keeping).2.surroundings =
        [true] := by
  have hsays : Frame.SaysAntennaError CommandCode.singleTagInventory emptyReportFrame :=
    ⟨rfl, sized_ofBody (by decide) (by decide), isValid_ofBody _, _, _, _, rfl⟩
  have hread : PayloadIsRead CommandCode.singleTagInventory (responsePayload emptyReportFrame) :=
    .inr (.inr ⟨{ antenna := 1, count := 0, blocks := [] }, by decide +kernel⟩)
  have hframes : (reachedBy emptyReportFrame).dispatched Diary.keeping = [emptyReportFrame] := by
    decide +kernel
  have hmem : emptyReportFrame ∈ (reachedBy emptyReportFrame).dispatched Diary.keeping := by
    rw [hframes]
    exact List.mem_singleton_self _
  have hbefore : Diary.lightLog.shown (reachedBy emptyReportFrame).surroundings = [] := by
    decide +kernel
  obtain ⟨-, hall⟩ := stopped_if_payload_is_read Diary.lightLog
    (Diary.outside.mono fun _ _ => And.left) (s := reachedBy emptyReportFrame)
    (by decide +kernel) (by decide +kernel)
  obtain ⟨hmode, hactive, -, hshown⟩ := (hall _ _ hmem hsays).1 hread
  rw [hbefore, List.nil_append] at hshown
  exact ⟨hframes, hmode, hactive, hshown⟩

/-- A response to a round with an error of the antenna, and a report that lacks its three tags. -/
def missingTagsFrame : List UInt8 := Frame.ofBody [0x00, 0x01, 0xF8, 0x00, 0x03]

/--
  With a report that lacks its tags, an error of the antenna does not stop inventory.  The frame is
  acted on while there is inventory, and inventory goes on with no error shown.
-/
theorem unread_antennaError_is_dropped :
    let s := reachedBy missingTagsFrame
    let t := (s.process Diary.keeping).2
    s.router.mode = .inventory ∧ s.router.running = true ∧
      s.dispatched Diary.keeping = [missingTagsFrame] ∧
      Frame.SaysAntennaError CommandCode.tagInventory missingTagsFrame ∧
      t.router.mode = .inventory ∧ t.router.inventoryActive = true ∧
      t.surroundings.lights = [] ∧ t.router.counters.framesUnreadable = 1 := by
  refine ⟨by decide +kernel, by decide +kernel, by decide +kernel, ?_, by decide +kernel,
    by decide +kernel, by decide +kernel, by decide +kernel⟩
  exact ⟨rfl, sized_ofBody (by decide) (by decide), isValid_ofBody _, _, _, _, rfl⟩

end RfidLink
