import Mathlib.Tactic.Lemma
import Mathlib.Tactic.Set
import RfidLink.Response.Report

/-!
# Blocks of an inventory round

The answer to an inventory round reports its tags in blocks, one behind the other.  A block has no
mark at its end: where it ends follows from its first byte, and a reader that is wrong about one
block is wrong about all blocks behind it.

* `BlockLayout` is a block as the documentation lays it out, with all its optional parts, and
  `BlockLayout.bytes` writes it.
* `read_layout` says that the reader takes exactly the bytes of a block, whatever comes behind them.
* **`tags_of_layouts`**: a payload that was written from blocks is accepted, and its tags are those
  of the blocks, in their order.
-/

namespace RfidLink

/-! ## Words -/

namespace Word

/-- The bytes of a word from the lowest to the highest. -/
def bytesLittleEndian32 (w : UInt32) : List UInt8 :=
  [UInt8.ofNat w.toNat, UInt8.ofNat (w.toNat / 256), UInt8.ofNat (w.toNat / 65536),
    UInt8.ofNat (w.toNat / 16777216)]

/-- The three low bytes of a word from the lowest to the highest. -/
def bytesLittleEndian24 (w : UInt32) : List UInt8 :=
  [UInt8.ofNat w.toNat, UInt8.ofNat (w.toNat / 256), UInt8.ofNat (w.toNat / 65536)]

lemma toNat_littleEndian32 (b₀ b₁ b₂ b₃ : UInt8) : (littleEndian32 b₀ b₁ b₂ b₃).toNat =
    b₀.toNat + 256 * (b₁.toNat + 256 * (b₂.toNat + 256 * b₃.toNat)) := by
  have := b₀.toNat_lt
  have := b₁.toNat_lt
  have := b₂.toNat_lt
  have := b₃.toNat_lt
  simp only [littleEndian32, UInt32.toNat_ofNat']
  omega

lemma littleEndian32_ofNat (w : UInt32) :
    littleEndian32 (UInt8.ofNat w.toNat) (UInt8.ofNat (w.toNat / 256))
      (UInt8.ofNat (w.toNat / 65536)) (UInt8.ofNat (w.toNat / 16777216)) = w := by
  have := w.toNat_lt
  apply UInt32.toNat_inj.mp
  simp only [toNat_littleEndian32, UInt8.toNat_ofNat']
  omega

/-- A word that fits three bytes has nothing in the fourth. -/
lemma littleEndian32_ofNat_zero {w : UInt32} (h : w.toNat < 16777216) :
    littleEndian32 (UInt8.ofNat w.toNat) (UInt8.ofNat (w.toNat / 256))
      (UInt8.ofNat (w.toNat / 65536)) 0 = w := by
  apply UInt32.toNat_inj.mp
  simp only [toNat_littleEndian32, UInt8.toNat_ofNat', UInt8.toNat_zero]
  omega

end Word

/-! ## Layout -/

/-- The part of a block that tells which tag it is about. -/
inductive BlockBody where
  /-- The EPC alone. -/
  | plain (epc : List UInt8) (hpos : 1 ≤ epc.length) (hfits : epc.length ≤ 63)
  /--
    A word whose five top bits count the words of the EPC, the EPC, two bytes of its own checksum,
    and the TID if the reader sent one.
  -/
  | combined (control : UInt16) (epc : List UInt8) (crcHigh crcLow : UInt8) (tid : List UInt8)
      (hpos : 1 ≤ control.toNat / 2048) (hwords : epc.length = 2 * (control.toNat / 2048))
      (hfits : 4 + epc.length + tid.length ≤ 63)

namespace BlockBody

def bytes : BlockBody → List UInt8
  | plain epc .. => epc
  | combined control epc crcHigh crcLow tid .. =>
    Word.bytesBigEndian control ++ epc ++ [crcHigh, crcLow] ++ tid

def isCombined : BlockBody → Bool
  | plain .. => false
  | combined .. => true

def epc : BlockBody → List UInt8
  | plain epc .. => epc
  | combined _ epc .. => epc

/-- The bytes of the TID; there are none if it was not sent. -/
def tid : BlockBody → List UInt8
  | plain .. => []
  | combined _ _ _ _ tid .. => tid

end BlockBody

/-- What the reader measured of the answer of a tag. -/
structure Measurement where
  phase : UInt32
  frequencyKHz : UInt32
  frequencyKHz_lt : frequencyKHz.toNat < 16777216

def Measurement.bytes (m : Measurement) : List UInt8 :=
  Word.bytesLittleEndian32 m.phase ++ Word.bytesLittleEndian24 m.frequencyKHz

/-- One block of an inventory round. -/
structure BlockLayout where
  body : BlockBody
  rssi : UInt8
  measured : Option Measurement

namespace BlockLayout

/-- The first byte: a bit for each optional part, and the length of the body. -/
def flags (block : BlockLayout) : UInt8 :=
  UInt8.ofNat (128 * block.body.isCombined.toNat + 64 * block.measured.isSome.toNat +
    block.body.bytes.length)

def bytes (block : BlockLayout) : List UInt8 :=
  block.flags :: block.body.bytes ++ block.rssi :: (block.measured.map Measurement.bytes).getD []

/-- The tag of a block as it is seen at an antenna.  EPC and TID are cut to the room there is. -/
def sighting (antenna : UInt8) (block : BlockLayout) : Sighting :=
  { epc := .truncate block.body.epc
    tid := if block.body.tid.isEmpty then none else some (.truncate block.body.tid)
    rssi := block.rssi
    antenna
    phase := block.measured.map (·.phase)
    frequencyKHz := block.measured.map (·.frequencyKHz) }

end BlockLayout

/-! ## Reading a block -/

namespace BlockBody

lemma length_bytes (body : BlockBody) : 1 ≤ body.bytes.length ∧ body.bytes.length ≤ 63 := by
  cases body with
  | plain epc hpos hfits => exact ⟨hpos, hfits⟩
  | combined control epc crcHigh crcLow tid hpos hwords hfits =>
      simp only [bytes, Word.bytesBigEndian, List.length_append, List.length_cons, List.length_nil]
      omega

/-- The high byte of the control word counts the bytes of the EPC. -/
lemma epcLength_highByte (control : UInt16) :
    TagBlock.epcLength (Word.highByte control) = 2 * (control.toNat / 2048) := by
  have := control.toNat_lt
  simp only [TagBlock.epcLength, Word.highByte, UInt8.toNat_ofNat']
  omega

/-- A body gives back the EPC and the TID it was written from. -/
lemma identity_bytes (body : BlockBody) : TagBlock.identity body.isCombined body.bytes =
    (.truncate body.epc, if body.tid.isEmpty then none else some (.truncate body.tid)) := by
  cases body with
  | plain epc hpos hfits => rfl
  | combined control epc crcHigh crcLow tid hpos hwords hfits =>
      have hbytes : (combined control epc crcHigh crcLow tid hpos hwords hfits).bytes =
          Word.highByte control :: Word.lowByte control :: (epc ++ crcHigh :: crcLow :: tid) := by
        simp [bytes, Word.bytesBigEndian]
      have hlength : TagBlock.epcLength (Word.highByte control) = epc.length :=
        (epcLength_highByte control).trans hwords.symm
      have hroom : epc.length + 2 ≤ (epc ++ crcHigh :: crcLow :: tid).length := by
        simp only [List.length_append, List.length_cons]
        omega
      have hepc : (epc ++ crcHigh :: crcLow :: tid).take epc.length = epc := List.take_left
      have htid : (epc ++ crcHigh :: crcLow :: tid).drop (epc.length + 2) = tid := by
        rw [← List.drop_drop, List.drop_left]
        rfl
      simp only [hbytes, isCombined, TagBlock.identity, hlength, hroom, if_true]
      rw [hepc, htid]
      rfl

end BlockBody

namespace BlockLayout

variable (block : BlockLayout)

lemma toNat_flags : block.flags.toNat = 128 * block.body.isCombined.toNat +
    64 * block.measured.isSome.toNat + block.body.bytes.length := by
  have hlength := block.body.length_bytes
  have hcombined := block.body.isCombined.toNat_le
  have hmeasured := block.measured.isSome.toNat_le
  simp only [flags, UInt8.toNat_ofNat']
  omega

lemma bodyLength_flags : TagBlock.bodyLength block.flags = block.body.bytes.length := by
  have hlength := block.body.length_bytes
  rw [TagBlock.bodyLength, toNat_flags]
  omega

lemma isCombined_flags : TagBlock.isCombined block.flags = block.body.isCombined := by
  have hbit : block.flags.toNat / 128 = block.body.isCombined.toNat := by
    have hlength := block.body.length_bytes
    have hmeasured := block.measured.isSome.toNat_le
    rw [toNat_flags]
    omega
  rw [TagBlock.isCombined, hbit]
  cases block.body.isCombined <;> rfl

lemma hasPhase_flags : TagBlock.hasPhase block.flags = block.measured.isSome := by
  have hbit : block.flags.toNat / 64 % 2 = block.measured.isSome.toNat := by
    have hlength := block.body.length_bytes
    have hmeasured := block.measured.isSome.toNat_le
    rw [toNat_flags]
    omega
  rw [TagBlock.hasPhase, hbit]
  cases block.measured.isSome <;> rfl

lemma phaseAndFrequency_bytes (measured : Option Measurement) (rest : List UInt8) :
    TagBlock.phaseAndFrequency measured.isSome ((measured.map Measurement.bytes).getD [] ++ rest) =
      .ok ((measured.map (·.phase), measured.map (·.frequencyKHz)), rest) := by
  cases measured with
  | none => rfl
  | some m =>
      simp only [Option.isSome, Option.map, Option.getD, Measurement.bytes,
        Word.bytesLittleEndian32, Word.bytesLittleEndian24, List.cons_append, List.nil_append,
        TagBlock.phaseAndFrequency, Word.littleEndian32_ofNat,
        Word.littleEndian32_ofNat_zero m.frequencyKHz_lt]

/-- **A block is read as it was written**, and what comes behind it is left. -/
theorem read_layout (antenna : UInt8) (rest : List UInt8) :
    TagBlock.read antenna (block.bytes ++ rest) = .ok (block.sighting antenna, rest) := by
  set extra := (block.measured.map Measurement.bytes).getD [] with hextra
  have hbytes : block.bytes ++ rest =
      block.flags :: (block.body.bytes ++ block.rssi :: (extra ++ rest)) := by
    simp [bytes, hextra]
  have hpos : block.body.bytes.length ≠ 0 := Nat.ne_of_gt block.body.length_bytes.1
  have hdrop : (block.body.bytes ++ block.rssi :: (extra ++ rest)).drop block.body.bytes.length =
      block.rssi :: (extra ++ rest) := List.drop_left
  have htake : (block.body.bytes ++ block.rssi :: (extra ++ rest)).take block.body.bytes.length =
      block.body.bytes := List.take_left
  have hmeasured := phaseAndFrequency_bytes block.measured rest
  rw [← hextra] at hmeasured
  simp only [hbytes, TagBlock.read, bodyLength_flags, hpos, if_false, hdrop, htake, hasPhase_flags,
    hmeasured, isCombined_flags, BlockBody.identity_bytes, sighting]

/-- Blocks are read one behind the other, and the last of them ends the reading. -/
lemma readAll_layouts (antenna : UInt8) (blocks : List BlockLayout) (rest : List UInt8) :
    TagBlock.readAll antenna blocks.length (blocks.flatMap bytes ++ rest) =
      blocks.map fun block => .ok (block.sighting antenna) := by
  induction blocks with
  | nil => rfl
  | cons block blocks ih =>
      rw [List.flatMap_cons, List.append_assoc, List.length_cons, TagBlock.readAll, read_layout]
      simp only [ih, List.map_cons]

end BlockLayout

/-! ## Reading a report -/

namespace RoundReport

lemma firstError?_map_ok (sightings : List Sighting) : firstError? (sightings.map .ok) = none := by
  induction sightings with
  | nil => rfl
  | cons sighting rest ih => exact ih

/-- A payload is accepted if all blocks that it announces can be read. -/
lemma ofPayload_of_tags {antenna count : UInt8} {blocks : List UInt8} {sightings : List Sighting}
    (h : tags { antenna, count, blocks } = sightings.map .ok) :
    ofPayload (antenna :: count :: blocks) = .ok { antenna, count, blocks } := by
  simp only [ofPayload, h, firstError?_map_ok]

/--
  **Reading a round gives back the tags of its blocks**, in their order, each with what its block
  says.  Bytes behind the last block do no harm.
-/
theorem tags_of_layouts (antenna : UInt8) {blocks : List BlockLayout} (hcount : blocks.length ≤ 255)
    (trailing : List UInt8) :
    ∃ report, ofPayload (antenna :: UInt8.ofNat blocks.length ::
        (blocks.flatMap BlockLayout.bytes ++ trailing)) = .ok report ∧
      report.antenna = antenna ∧ report.count.toNat = blocks.length ∧
      report.tags = blocks.map fun block => .ok (block.sighting antenna) := by
  have hlength : (UInt8.ofNat blocks.length).toNat = blocks.length := by
    rw [UInt8.toNat_ofNat']
    omega
  have htags : tags { antenna, count := UInt8.ofNat blocks.length
                      blocks := blocks.flatMap BlockLayout.bytes ++ trailing } =
      (blocks.map (·.sighting antenna)).map .ok := by
    rw [tags, hlength, List.map_map]
    exact BlockLayout.readAll_layouts antenna blocks trailing
  exact ⟨_, ofPayload_of_tags htags, rfl, hlength, by rw [htags, List.map_map]; rfl⟩

/-- A block with everything that can be in a block, and one with as little as possible. -/
def mixedBlocks : List BlockLayout :=
  [{ body := .combined 0x0800 [0xE2, 0x80] 0xAB 0xCD [1, 2, 3] (by decide) (by decide) (by decide)
     rssi := 60
     measured := some { phase := 0x12345678, frequencyKHz := 910408
                        frequencyKHz_lt := by decide } },
    { body := .plain [0x11] (by decide) (by decide), rssi := 80, measured := none }]

theorem tags_of_layouts_mixedBlocks :
    mixedBlocks.length ≤ 255 ∧ ∃ report, ofPayload
        [2, 2, 0xC9, 0x08, 0x00, 0xE2, 0x80, 0xAB, 0xCD, 1, 2, 3, 60, 0x78, 0x56, 0x34, 0x12, 0x48,
          0xE4, 0x0D, 0x01, 0x11, 80, 0xFF] = .ok report ∧
      report.tags =
        [.ok { epc := .truncate [0xE2, 0x80], tid := some (.truncate [1, 2, 3]), rssi := 60
               antenna := 2, phase := some 0x12345678, frequencyKHz := some 910408 },
          .ok { epc := .truncate [0x11], tid := none, rssi := 80, antenna := 2, phase := none
                frequencyKHz := none }] := by
  have hcount : mixedBlocks.length ≤ 255 := by decide
  obtain ⟨report, hpayload, -, -, htags⟩ := tags_of_layouts 2 hcount [0xFF]
  exact ⟨hcount, report, hpayload, htags⟩

end RoundReport

end RfidLink
