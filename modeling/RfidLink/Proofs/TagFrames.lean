import Mathlib.Tactic.Lemma
import Mathlib.Tactic.Set
import RfidLink.Proofs.Contents
import RfidLink.Proofs.TagBlocks

/-!
# Frames that report tags

`TagFrame` is what a reader sends about tags, as its documentation lays it out: a tag it reports
on its own, or the tags of an inventory round, each in a block of its own without phase, frequency
and TID.

* `TagFrame.bytes` writes such a frame, with its length byte and its checksum.
* `Response.ofFrame_ofBody` reads any frame that is laid out like a response: what is left to do is
  to read the payload.
* **`TagFrame.ofFrame_bytes`**: reading what was written gives back the tags, in their order.
-/

namespace RfidLink

/-! ## Writing -/

/-- A tag with an EPC of at least one byte, and its signal strength. -/
structure ReadTag where
  epc : Epc
  rssi : UInt8
  epc_ne_nil : epc.toList ≠ []
deriving DecidableEq

namespace ReadTag

/-- The length of the EPC as a byte. -/
def lengthByte (tag : ReadTag) : UInt8 := UInt8.ofNat tag.epc.toList.length

/-- The block of a tag: the length of its EPC, the EPC, the signal strength. -/
def block (tag : ReadTag) : List UInt8 := tag.lengthByte :: tag.epc.toList ++ [tag.rssi]

/-- The tag as it is seen at an antenna. -/
def sighting (antenna : UInt8) (tag : ReadTag) : Sighting :=
  { epc := tag.epc, tid := none, rssi := tag.rssi, antenna, phase := none, frequencyKHz := none }

end ReadTag

/-- The bytes behind the fixed fields of a response to an inventory round. -/
def roundPayload (antenna : UInt8) (tags : List ReadTag) : List UInt8 :=
  antenna :: UInt8.ofNat tags.length :: tags.flatMap ReadTag.block

/-- A frame that reports tags. -/
inductive TagFrame where
  /-- A tag that the reader reports on its own. -/
  | upload (address status antenna : UInt8) (tag : ReadTag)
  /-- The tags of an inventory round, as many as fit into a frame. -/
  | round (address status antenna : UInt8) (tags : List ReadTag)
      (hantenna : Status.ofByte status ≠ .antennaError)
      (hstatistics : Status.ofByte status ≠ .statisticsPacket)
      (hsize : (roundPayload antenna tags).length + Frame.minResponseSize ≤ Frame.maxSize)

namespace TagFrame

/-- The bytes between the length byte and the checksum. -/
def body : TagFrame → List UInt8
  | upload address status antenna tag =>
    address :: CommandCode.autoUpload :: status :: antenna :: tag.block
  | round address status antenna tags .. =>
    address :: CommandCode.tagInventory :: status :: roundPayload antenna tags

/-- The whole frame. -/
def bytes (frame : TagFrame) : List UInt8 := Frame.ofBody frame.body

/-- The tags that the frame reports, in their order. -/
def sightings : TagFrame → List Sighting
  | upload _ _ antenna tag => [tag.sighting antenna]
  | round _ _ antenna tags .. => tags.map (·.sighting antenna)

/-- The EPCs that the frame reports, in their order. -/
def epcs (frame : TagFrame) : List Epc := frame.sightings.map (·.epc)

end TagFrame

/-! ## Reading a frame -/

lemma responsePayload_ofBody (address command status : UInt8) (payload : List UInt8) :
    responsePayload (Frame.ofBody (address :: command :: status :: payload)) = payload := by
  simp [responsePayload, Frame.ofBody, Checksum.protect, Checksum.size, ResponseHead.size,
    Word.bytesLittleEndian]

/-- A frame that is laid out like a response is read as one, as far as its payload can be read. -/
theorem Response.ofFrame_ofBody (address command status : UInt8) {payload : List UInt8}
    {content : Content} (hsize : payload.length + Frame.minResponseSize ≤ Frame.maxSize)
    (hcontent : ∀ length, Content.ofPayload
      { length, address, command, status := .ofByte status } payload = .ok content) :
    ∃ length, Response.ofFrame (Frame.ofBody (address :: command :: status :: payload)) =
      .ok { head := { length, address, command, status := .ofByte status }, content } := by
  set body := address :: command :: status :: payload with hbody
  set length := UInt8.ofNat (body.length + Checksum.size) with hlength
  have hbodyLength : body.length = payload.length + 3 := by simp [hbody]
  have hsized : Frame.Sized (Frame.ofBody body) := by
    simp only [Frame.minResponseSize] at hsize
    exact sized_ofBody (by omega) (by omega)
  have hcons : Frame.ofBody body = length :: address :: command :: status ::
      (payload ++ Word.bytesLittleEndian (crc16 (length :: body))) := rfl
  have hpayload : responsePayload (Frame.ofBody body) = payload := responsePayload_ofBody ..
  have hvalid := isValid_ofBody body
  refine ⟨length, ?_⟩
  rw [hcons] at hsized hvalid hpayload ⊢
  rw [Response.ofFrame_of_sized hsized hvalid, hpayload, hcontent]
  rfl

/-! ## Reading tags -/

namespace ReadTag

lemma toNat_lengthByte (tag : ReadTag) : tag.lengthByte.toNat = tag.epc.toList.length := by
  have hlong : tag.epc.toList.length ≤ 62 := tag.epc.length_le
  simp only [lengthByte, UInt8.toNat_ofNat']
  omega

lemma lengthByte_ne_zero (tag : ReadTag) : tag.lengthByte ≠ 0 := by
  intro hzero
  have hlength := tag.toNat_lengthByte
  rw [hzero] at hlength
  exact tag.epc_ne_nil (List.eq_nil_of_length_eq_zero hlength.symm)

lemma ofUpload_block (antenna : UInt8) (tag : ReadTag) :
    Sighting.ofUpload (antenna :: tag.block) = .ok (tag.sighting antenna) := by
  have hepc : (tag.epc.toList ++ [tag.rssi]).take tag.epc.toList.length = tag.epc.toList :=
    List.take_left
  have hrssi : (tag.epc.toList ++ [tag.rssi]).drop tag.epc.toList.length = [tag.rssi] :=
    List.drop_left
  simp only [block, List.cons_append, Sighting.ofUpload, tag.lengthByte_ne_zero, if_false,
    toNat_lengthByte, hepc, hrssi, BoundedBytes.truncate_toList, sighting]

/-- The block of a tag as a plain one without phase and frequency. -/
def layout (tag : ReadTag) : BlockLayout :=
  { body := .plain tag.epc.toList (List.length_pos_iff.mpr tag.epc_ne_nil)
      (Nat.le_succ_of_le tag.epc.length_le)
    rssi := tag.rssi
    measured := none }

lemma bytes_layout (tag : ReadTag) : tag.layout.bytes = tag.block := by
  have hflags : tag.layout.flags = tag.lengthByte := by
    apply UInt8.toNat_inj.mp
    rw [BlockLayout.toNat_flags, toNat_lengthByte]
    exact Nat.zero_add _
  rw [BlockLayout.bytes, hflags]
  rfl

lemma sighting_layout (antenna : UInt8) (tag : ReadTag) :
    tag.layout.sighting antenna = tag.sighting antenna := by
  have hepc : BoundedBytes.truncate tag.epc.toList = tag.epc := BoundedBytes.truncate_toList _
  rw [sighting, ← hepc]
  rfl

lemma readAll_blocks (antenna : UInt8) (tags : List ReadTag) :
    TagBlock.readAll antenna tags.length (tags.flatMap block) =
      tags.map fun tag => .ok (tag.sighting antenna) := by
  have hread := BlockLayout.readAll_layouts antenna (tags.map layout) []
  simpa only [List.length_map, List.flatMap_map, bytes_layout, List.append_nil, List.map_map,
    Function.comp_def, sighting_layout] using hread

end ReadTag

/-- A round that fits into a frame has few enough tags for its count byte. -/
lemma length_le_flatMap_block (tags : List ReadTag) :
    tags.length ≤ (tags.flatMap ReadTag.block).length := by
  induction tags with
  | nil => exact Nat.le_refl _
  | cons tag rest ih =>
      rw [List.flatMap_cons, List.length_append, List.length_cons, ReadTag.block,
        List.length_append, List.length_cons]
      omega

/-- The payload of a round gives back its tags. -/
lemma ofPayload_roundPayload {antenna : UInt8} {tags : List ReadTag}
    (hsize : (roundPayload antenna tags).length + Frame.minResponseSize ≤ Frame.maxSize) :
    ∃ report, RoundReport.ofPayload (roundPayload antenna tags) = .ok report ∧
      report.sightings = tags.map (·.sighting antenna) := by
  set report : RoundReport :=
    { antenna, count := UInt8.ofNat tags.length, blocks := tags.flatMap ReadTag.block } with hreport
  have hcount : report.count.toNat = tags.length := by
    have hblocks := length_le_flatMap_block tags
    simp only [roundPayload, List.length_cons, Frame.minResponseSize, Frame.maxSize] at hsize
    simp only [hreport, UInt8.toNat_ofNat']
    omega
  have htags : report.tags = (tags.map (·.sighting antenna)).map .ok := by
    rw [RoundReport.tags, hcount, hreport]
    simp only [ReadTag.readAll_blocks, List.map_map]
    rfl
  refine ⟨report, ?_, ?_⟩
  · exact RoundReport.ofPayload_of_tags htags
  · rw [RoundReport.sightings, htags, List.filterMap_map]
    exact List.filterMap_some

/-! ## Reading tag frames -/

namespace TagFrame

/-- The content of a response reports the given tags. -/
def Reports (sightings : List Sighting) : Content → Prop
  | .autoUpload tag => sightings = [tag]
  | .inventory report => sightings = report.sightings
  | _ => False

/-- **Reading a tag frame** gives its tags, and a status that lets inventory go on. -/
theorem ofFrame_bytes (frame : TagFrame) :
    ∃ response, Response.ofFrame frame.bytes = .ok response ∧
      Reports frame.sightings response.content ∧
      (CommandCode.isRound response.head.command = true →
        response.head.status ≠ .antennaError) := by
  cases frame with
  | upload address status antenna tag =>
      have hlong : tag.epc.toList.length ≤ 62 := tag.epc.length_le
      have hsize : (antenna :: tag.block).length + Frame.minResponseSize ≤ Frame.maxSize := by
        simp only [ReadTag.block, List.length_append, List.length_cons, List.length_nil,
          Frame.minResponseSize, Frame.maxSize]
        omega
      have hcontent (length : UInt8) : Content.ofPayload
          { length, address, command := CommandCode.autoUpload, status := .ofByte status }
          (antenna :: tag.block) = .ok (.autoUpload (tag.sighting antenna)) := by
        simp only [Content.ofPayload, ReadTag.ofUpload_block]
        rfl
      obtain ⟨length, hread⟩ := Response.ofFrame_ofBody address _ status hsize hcontent
      refine ⟨_, hread, rfl, ?_⟩
      intro hround
      cases hround
  | round address status antenna tags hantenna hstatistics hsize =>
      obtain ⟨report, hreport, hsightings⟩ := ofPayload_roundPayload hsize
      have htwo : 2 ≤ (roundPayload antenna tags).length := by
        simp only [roundPayload, List.length_cons]
        omega
      have hcontent (length : UInt8) : Content.ofPayload
          { length, address, command := CommandCode.tagInventory, status := .ofByte status }
          (roundPayload antenna tags) = .ok (.inventory report) := by
        simp only [Content.ofPayload, Content.roundOf, hstatistics, if_false, htwo, if_true,
          hreport]
        rfl
      obtain ⟨length, hread⟩ := Response.ofFrame_ofBody address _ status hsize hcontent
      exact ⟨_, hread, hsightings.symm, fun _ => hantenna⟩

/-- A tag frame has a size that a response may have, and its length byte declares it. -/
lemma sized_bytes (frame : TagFrame) : Frame.Sized frame.bytes := by
  have hsize : 3 ≤ frame.body.length ∧ frame.body.length + 3 ≤ Frame.maxSize := by
    cases frame with
    | upload address status antenna tag =>
        have hlong : tag.epc.toList.length ≤ 62 := tag.epc.length_le
        simp only [body, ReadTag.block, List.length_append, List.length_cons, List.length_nil,
          Frame.maxSize]
        omega
    | round address status antenna tags hantenna hstatistics hsize =>
        simp only [Frame.minResponseSize] at hsize
        simp only [body, List.length_cons]
        omega
  exact sized_ofBody hsize.1 hsize.2

lemma sized_of_mem (frames : List TagFrame) : ∀ b ∈ frames.map bytes, Frame.Sized b := by
  intro b hb
  obtain ⟨frame, -, rfl⟩ := List.mem_map.mp hb
  exact frame.sized_bytes

end TagFrame

end RfidLink
