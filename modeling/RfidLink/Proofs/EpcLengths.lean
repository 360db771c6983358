import RfidLink.Proofs.Agreement
import RfidLink.Proofs.TagText

/-!
# How long the EPC of a tag is

An EPC has 1 to 62 bytes.  It is read in one of four ways: from an upload, from a plain block, from
a combined block by its control word, and from a combined block as a whole if that block is too
short for what its control word says.

Readers ask whether the length of an upload is zero, and whether the body of a block is empty.
Nobody asks what the control word of a combined block says.  A block is **hollow** if it has room
for the words that its control word counts, and there are none: then its tag has no EPC.

* `TagBlock.length_epc_of_read` is the step: of one block, the EPC is empty exactly if it is hollow.
* `TagBlock.starts` are the blocks of a report, and `TagBlock.lengths_of_readAll` is the run over
  them.
* **`epc_empty_iff_hollow`**: a tag in an accepted frame has an EPC of 1 to 62 bytes unless its
  block is hollow, and unless a frame with a hollow block is acted on, no empty text is delivered.
* `empty_text_delivered` is a frame with a hollow block.
-/

namespace RfidLink

variable {ε : Type}

/-! ## Texts -/

lemma BoundedBytes.length_truncate {n : Nat} (bytes : List UInt8) :
    (truncate bytes : BoundedBytes n).length = min n bytes.length := by
  rw [length, toList_truncate, List.length_take]

/-- An EPC of at least one byte has a text. -/
lemma Sighting.text_ne_empty {tag : Sighting} (h : tag.epc.length ≠ 0) (group : Nat) :
    tag.text group ≠ "" := by
  obtain ⟨first, rest, hepc⟩ : ∃ first rest, tag.epc.toList = first :: rest :=
    List.exists_cons_of_length_pos (Nat.pos_of_ne_zero h)
  have hdigits : epcDigitsFrom group 0 (tag.epc.toList.take maxEpcLength) ≠ [] := by
    simp [hepc, maxEpcLength, epcDigitsFrom, Hexadecimal.upper, Hexadecimal.lower]
  intro hempty
  exact hdigits (String.ofList_inj.mp hempty)

/-! ## Blocks -/

namespace TagBlock

/--
  Whether bytes begin with a combined block that has room for a control word, an EPC of no words,
  and the checksum of that EPC, and whose control word counts no words.
-/
def isHollow : List UInt8 → Bool
  | flags :: high :: _ => isCombined flags && decide (4 ≤ bodyLength flags) && epcLength high == 0
  | _ => false

/-- The bytes from each block on, up to the first block that cannot be read. -/
def starts (antenna : UInt8) : Nat → List UInt8 → List (List UInt8)
  | 0, _ => []
  | n + 1, bytes =>
    match read antenna bytes with
    | .error _ => []
    | .ok (_, rest) => bytes :: starts antenna n rest

/-- A body that is taken for an EPC as a whole is not an empty EPC. -/
lemma length_truncate_take {size : Nat} {bytes : List UInt8} (hpos : size ≠ 0)
    (hroom : size < bytes.length) : (BoundedBytes.truncate (bytes.take size) : Epc).length ≠ 0 := by
  rw [BoundedBytes.length_truncate, List.length_take, maxEpcLength]
  omega

/-- The EPC in a combined body is empty exactly if its control word counts no words. -/
lemma length_identity {size : Nat} {high : UInt8} {bytes : List UInt8} (hpos : size ≠ 0)
    (hroom : size ≤ bytes.length) :
    (identity true ((high :: bytes).take size)).1.length = 0 ↔ 4 ≤ size ∧ epcLength high = 0 := by
  obtain ⟨size, rfl⟩ := Nat.exists_eq_succ_of_ne_zero hpos
  rw [List.take_succ_cons]
  match bytes, size with
  | _, 0 => simp [identity, BoundedBytes.length_truncate, maxEpcLength]
  | [], size + 1 => simp at hroom
  | low :: bytes, size + 1 =>
      have htail : (bytes.take size).length = size := by
        rw [List.length_cons] at hroom
        rw [List.length_take]
        omega
      rw [List.take_succ_cons, identity, htail]
      split
      · rename_i hfits
        simp only [BoundedBytes.length_truncate, List.length_take, htail, maxEpcLength]
        omega
      · rename_i hshort
        simp only [BoundedBytes.length_truncate, List.length_cons, htail, maxEpcLength]
        omega

/-- **The EPC of a block is empty exactly if the block is hollow.** -/
lemma length_epc_of_read {antenna : UInt8} {bytes rest : List UInt8} {tag : Sighting}
    (h : read antenna bytes = .ok (tag, rest)) :
    tag.epc.length = 0 ↔ isHollow bytes = true := by
  obtain ⟨flags, more, rfl, hpos, hroom, hepc⟩ := read_eq_ok h
  obtain ⟨high, more, rfl⟩ := List.exists_cons_of_length_pos (Nat.zero_lt_of_lt hroom)
  rw [hepc]
  cases hcombined : isCombined flags with
  | false =>
      have hfilled := length_truncate_take hpos hroom
      simp only [identity, isHollow, hcombined, Bool.false_and, Bool.false_eq_true, iff_false]
      exact hfilled
  | true =>
      rw [List.length_cons] at hroom
      simp only [length_identity hpos (Nat.le_of_lt_succ hroom), isHollow, hcombined,
        Bool.true_and, Bool.and_eq_true, decide_eq_true_eq, beq_iff_eq]

lemma lengths_of_readAll {antenna : UInt8} {count : Nat} {bytes : List UInt8}
    {tags : List Sighting} (h : readAll antenna count bytes = tags.map .ok) :
    List.Forall₂ (fun block tag => tag.epc.length = 0 ↔ isHollow block = true)
      (starts antenna count bytes) tags := by
  induction count generalizing bytes tags with
  | zero =>
      obtain rfl := List.map_eq_nil_iff.mp h.symm
      exact .nil
  | succ count ih =>
      rcases hread : read antenna bytes with e | ⟨tag, rest⟩
      · simp only [readAll, hread] at h
        obtain ⟨_, _, -, he, -⟩ := List.map_eq_cons_iff.mp h.symm
        cases he
      · simp only [readAll, hread] at h
        obtain ⟨_, tags, rfl, htag, hrest⟩ := List.map_eq_cons_iff.mp h.symm
        cases htag
        simp only [starts, hread]
        exact .cons (length_epc_of_read hread) (ih hrest.symm)

end TagBlock

/-! ## Frames -/

/-- The bytes from each block of a report on, in the order of the blocks. -/
def RoundReport.starts (report : RoundReport) : List (List UInt8) :=
  TagBlock.starts report.antenna report.count.toNat report.blocks

/-- Whether one of the blocks that a content reports is hollow. -/
def Content.isHollow : Content → Bool
  | .inventory report => report.starts.any TagBlock.isHollow
  | _ => false

/-- Whether a frame is accepted with a hollow block in it. -/
def Frame.isHollow (frame : List UInt8) : Bool :=
  match Response.ofFrame frame with
  | .ok response => response.content.isHollow
  | .error _ => false

/-- The EPC of an upload has at least one byte. -/
lemma Sighting.length_epc_of_ofUpload {payload : List UInt8} {tag : Sighting}
    (h : Sighting.ofUpload payload = .ok tag) : tag.epc.length ≠ 0 := by
  obtain ⟨_, epcLength, rest, rfl, hpos, hroom, hepc⟩ := Sighting.ofUpload_eq_ok h
  have hpos' : epcLength.toNat ≠ 0 := fun hzero => hpos (UInt8.toNat_inj.mp hzero)
  rw [hepc]
  exact TagBlock.length_truncate_take hpos' hroom

lemma RoundReport.lengths_of_ofPayload {payload : List UInt8} {report : RoundReport}
    (h : RoundReport.ofPayload payload = .ok report) :
    List.Forall₂ (fun block tag => tag.epc.length = 0 ↔ TagBlock.isHollow block = true)
      report.starts report.sightings :=
  TagBlock.lengths_of_readAll (RoundReport.tags_of_ofPayload h).1

/-- An empty EPC among the tags comes from a hollow block. -/
lemma RoundReport.any_isHollow {blocks : List (List UInt8)} {tags : List Sighting}
    (h : List.Forall₂ (fun block tag => tag.epc.length = 0 ↔ TagBlock.isHollow block = true)
      blocks tags) {tag : Sighting} (htag : tag ∈ tags) (hempty : tag.epc.length = 0) :
    blocks.any TagBlock.isHollow = true := by
  induction h with
  | nil => cases htag
  | cons hfirst _ ih =>
      rw [List.any_cons, Bool.or_eq_true]
      rcases List.mem_cons.mp htag with rfl | hlater
      · exact .inl (hfirst.mp hempty)
      · exact .inr (ih hlater)

/-- A frame without a hollow block has a text for each of its tags. -/
lemma Frame.texts_of_isHollow {frame : List UInt8} (h : Frame.isHollow frame = false) :
    Frame.Texts (· ≠ "") frame := by
  intro response hread tag htag group
  refine tag.text_ne_empty ?_ group
  have hcontent := (Response.ofFrame_eq_ok hread).2
  have hfilled : response.content.isHollow = false := by
    simpa only [Frame.isHollow, hread] using h
  obtain ⟨upload, heq, hupload⟩ | ⟨report, heq, hreport⟩ | hnone :=
    Content.ofPayload_eq_ok hcontent
  · rw [heq] at htag
    obtain rfl := List.mem_singleton.mp htag
    exact Sighting.length_epc_of_ofUpload hupload
  · rw [heq] at htag hfilled
    intro hempty
    have hhollow : report.starts.any TagBlock.isHollow = true :=
      RoundReport.any_isHollow (RoundReport.lengths_of_ofPayload hreport) htag hempty
    rw [Content.isHollow, hhollow] at hfilled
    cases hfilled
  · rw [(Content.sightings_of_reportsTags hnone).1] at htag
    cases htag

/--
  **An EPC is empty only in a hollow block.**  A tag that is uploaded has an EPC of 1 to 62 bytes.
  The blocks of a report that is accepted give a tag each, with an EPC of at most 62 bytes which is
  empty exactly if the block is hollow.  And whatever a board would do with an empty text makes no
  difference to a call that acts on no frame with a hollow block: none is delivered.
-/
theorem epc_empty_iff_hollow (board : Board ε) :
    (∀ frame response, Response.ofFrame frame = .ok response →
      (∀ tag, response.content = .autoUpload tag → 1 ≤ tag.epc.length ∧ tag.epc.length ≤ 62) ∧
      ∀ report, response.content = .inventory report →
        report.tags = report.sightings.map .ok ∧
        List.Forall₂ (fun block tag => tag.epc.length ≤ 62 ∧
          (tag.epc.length = 0 ↔ TagBlock.isHollow block = true)) report.starts report.sightings) ∧
    ∀ other, board.Matches (fun _ => True) (· ≠ "") other → ∀ s : Station ε,
      (∀ frame ∈ s.dispatched board, Frame.isHollow frame = false) →
        s.process other = s.process board := by
  refine ⟨?_, ?_⟩
  · intro frame response hread
    have hcontent := (Response.ofFrame_eq_ok hread).2
    refine ⟨?_, ?_⟩
    · intro tag htag
      rw [htag] at hcontent
      obtain ⟨_, heq, hupload⟩ | ⟨_, heq, -⟩ | hnone := Content.ofPayload_eq_ok hcontent
      · cases heq
        exact ⟨Nat.one_le_iff_ne_zero.mpr (Sighting.length_epc_of_ofUpload hupload),
          tag.epc.length_le⟩
      · cases heq
      · cases hnone
    · intro report hreport
      rw [hreport] at hcontent
      obtain ⟨_, heq, -⟩ | ⟨_, heq, hread⟩ | hnone := Content.ofPayload_eq_ok hcontent
      · cases heq
      · cases heq
        exact ⟨(RoundReport.tags_of_ofPayload hread).1,
          (RoundReport.lengths_of_ofPayload hread).imp fun _ tag h => ⟨tag.epc.length_le, h⟩⟩
      · cases hnone
  · intro other hother s hfilled
    exact hother.process trivial fun frame hframe => Frame.texts_of_isHollow (hfilled frame hframe)

/-- A running router that takes inventory, and some bytes that it has received. -/
def Station.taking (bytes : List UInt8) : Station (List String) :=
  (((Station.fresh .standard []).start Board.keeping).2.enterMode Board.keeping .inventory).receive
    bytes

/-- A board that refuses empty texts and keeps all others. -/
def Board.choosy : Board (List String) :=
  { Board.keeping with
    deliver := fun text s =>
      if text = "" then (.error .busy, s) else Board.keeping.deliver text s }

/-- An uploaded tag is delivered, and refusing empty texts makes no difference. -/
theorem epc_empty_iff_hollow_upload :
    let s := Station.taking (TagFrame.upload 0 0x00 1 (.short 0x01)).bytes
    (∀ frame ∈ s.dispatched Board.keeping, Frame.isHollow frame = false) ∧
      s.process Board.choosy = s.process Board.keeping ∧
      (s.process Board.keeping).2.surroundings = ["E201"] := by
  intro s
  have hmatches : Board.keeping.Matches (fun _ => True) (· ≠ "") Board.choosy :=
    { devices := ⟨rfl, rfl, rfl, rfl, rfl⟩
      patience := rfl
      deliver := fun _ _ htext _ => if_neg htext
      notifyRead := fun _ _ => rfl
      notifyError := fun _ _ _ => rfl
      notifyRunning := fun _ _ _ => rfl
      wait := fun _ _ _ => rfl
      keep := ⟨fun _ _ => id, fun _ => id, fun _ _ => id, fun _ _ => id, fun _ _ => id⟩ }
  have hfilled : ∀ frame ∈ s.dispatched Board.keeping, Frame.isHollow frame = false := by
    decide +kernel
  exact ⟨hfilled, (epc_empty_iff_hollow Board.keeping).2 Board.choosy hmatches s hfilled,
    by decide +kernel⟩

/-! ## A hollow block -/

/-- A response to an inventory round with one block, a combined one whose control word is zero. -/
def hollowFrame : List UInt8 :=
  Frame.ofBody [0x00, 0x01, 0x01, 0x01, 0x01, 0x84, 0x00, 0x00, 0xAB, 0xCD, 0x50]

/-- What is read in it. -/
def hollowResponse : Response :=
  { head := { length := 13, address := 0, command := 1, status := .ofByte 1 }
    content := .inventory
      { antenna := 1, count := 1, blocks := [0x84, 0x00, 0x00, 0xAB, 0xCD, 0x50] } }

/-- **A hollow block is accepted**, its tag has no EPC, and the consumer is given an empty text. -/
theorem empty_text_delivered :
    Response.ofFrame hollowFrame = .ok hollowResponse ∧
      hollowResponse.content.sightings.map (·.epc.length) = [0] ∧
      ((Station.taking hollowFrame).process Board.keeping).2.surroundings = [""] := by
  decide +kernel

end RfidLink
