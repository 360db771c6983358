import Mathlib.Tactic.Lemma
import RfidLink.Proofs.Soundness

/-!
# Reading within bounds

The definitions of this library are total: a list that is cut behind its end is given back as it is,
and a difference below zero is zero.  On a machine such a step stops the program, or loses data
without a word.  The functions in `Checked` go the way that the machine goes, one access after the
other, and have no result as soon as one step leaves its range.

* `size`, `minus`, `remainder`, `negate`, `slice`, `place`, `overwrite` and `store` are the steps
  that may fail, and `l[i]?` is another.  A machine word holds the numbers up to `limit`.  What does
  not fit into its place counts as a failure as well.
* `TagWalk` is a walk over the blocks of a report, which uses up as many bytes as a block takes.

**`response_eq` and `content_eq`** say that no step of reading a response fails, whatever the bytes
are, and that the result is the one this library gives.  The lengths on which the steps depend come
out of those bytes.
-/

namespace RfidLink

lemma Word.eq_littleEndian_iff {w : UInt16} {low high : UInt8} :
    w = littleEndian low high ↔ [low, high] = bytesLittleEndian w := by
  simp only [bytesLittleEndian, List.cons.injEq, and_true]
  constructor
  · rintro rfl
    exact ⟨(lowByte_bigEndian high low).symm, (highByte_bigEndian high low).symm⟩
  · rintro ⟨rfl, rfl⟩
    exact (littleEndian_lowByte_highByte w).symm

namespace Checked

variable {α : Type}

/-! ## Steps that may fail -/

/-- A number that a machine word has to hold; `limit` is the largest one it can. -/
def size (limit n : Nat) : Option Nat := if n ≤ limit then some n else none

/-- A difference that is not negative. -/
def minus (a b : Nat) : Option Nat := if b ≤ a then some (a - b) else none

def remainder (a b : Nat) : Option Nat := if b = 0 then none else some (a % b)

/-- The negative of a 16-bit number, which the smallest one does not have. -/
def negate (n : Int) : Option Int := if n = -32768 then none else some (-n)

/-- The elements from one position up to another one. -/
def slice (l : List α) (first last : Nat) : Option (List α) :=
  if first ≤ last ∧ last ≤ l.length then some ((l.take last).drop first) else none

/-- A list with another element at a position. -/
def place (l : List α) (i : Nat) (x : α) : Option (List α) :=
  if i < l.length then some (l.set i x) else none

/-- A list with as many other elements from one position up to another one. -/
def overwrite (l : List α) (first last : Nat) (new : List α) : Option (List α) :=
  if first ≤ last ∧ last ≤ l.length ∧ new.length = last - first then
    some (l.take first ++ new ++ l.drop last)
  else none

/-- Elements that are put where there is room for `room` of them. -/
def store (room : Nat) (l : List α) : Option (List α) := if l.length ≤ room then some l else none

variable {limit n a b first last room i : Nat} {l : List α}

lemma size_eq (h : n ≤ limit) : size limit n = some n := if_pos h

lemma minus_eq (h : b ≤ a) : minus a b = some (a - b) := if_pos h

lemma remainder_eq (h : 0 < b) : remainder a b = some (a % b) := if_neg (Nat.ne_of_gt h)

lemma slice_eq (h : first ≤ last) (h' : last ≤ l.length) :
    slice l first last = some ((l.take last).drop first) := if_pos ⟨h, h'⟩

lemma slice_zero (h : last ≤ l.length) : slice l 0 last = some (l.take last) :=
  slice_eq (Nat.zero_le _) h

lemma slice_length (h : first ≤ l.length) : slice l first l.length = some (l.drop first) := by
  rw [slice_eq h le_rfl, List.take_length]

lemma place_eq (x : α) (h : i < l.length) : place l i x = some (l.set i x) := if_pos h

lemma overwrite_eq {new : List α} (h : first ≤ last) (h' : last ≤ l.length)
    (hnew : new.length = last - first) :
    overwrite l first last new = some (l.take first ++ new ++ l.drop last) := if_pos ⟨h, h', hnew⟩

/-- The first part of a list that is put together. -/
lemma slice_front (front back : List α) : slice (front ++ back) 0 front.length = some front := by
  rw [slice_zero (by simp), List.take_left]

/-- New elements behind the first part of a list that is put together. -/
lemma overwrite_behind (front : List α) {back new : List α} (hnew : new.length = n)
    (h : n ≤ back.length) :
    overwrite (front ++ back) front.length (front.length + n) new =
      some (front ++ new ++ back.drop n) := by
  have hroom : front.length + n ≤ (front ++ back).length := by
    rw [List.length_append]
    exact Nat.add_le_add_left h _
  rw [overwrite_eq (Nat.le_add_right _ _) hroom (by rw [hnew, Nat.add_sub_cancel_left]),
    List.take_left, ← List.drop_drop, List.drop_left]

lemma store_eq (h : l.length ≤ room) : store room l = some l := if_pos h

/-- As many bytes as a field has room for; they are copied. -/
def field (room : Nat) (bytes : List UInt8) : Option (BoundedBytes room) := do
  BoundedBytes.ofList? (← slice bytes 0 (min bytes.length room))

lemma field_eq (room : Nat) (bytes : List UInt8) : field room bytes = some (.truncate bytes) := by
  rw [field, slice_zero (Nat.min_le_left _ _), Option.bind_eq_bind, Option.bind_some,
    BoundedBytes.ofList?_eq_some_iff, BoundedBytes.toList_truncate]
  rcases Nat.le_total bytes.length room with h | h
  · rw [Nat.min_eq_left h, List.take_length, List.take_of_length_le h]
  · rw [Nat.min_eq_right h]

/-- Cutting bytes to the room before they are copied changes nothing. -/
lemma truncate_take (room n : Nat) (bytes : List UInt8) :
    (.truncate (bytes.take (min n room)) : BoundedBytes room) = .truncate (bytes.take n) := by
  apply BoundedBytes.ext
  simp only [BoundedBytes.toList_truncate, List.take_take]
  rw [Nat.min_comm n, ← Nat.min_assoc, Nat.min_self]

/-! ## The fixed fields -/

/-- Whether the last two bytes of a frame are the checksum of those before them. -/
def isValid (limit : Nat) (frame : List UInt8) : Option Bool :=
  if frame.length < Checksum.size + 1 then some false
  else do
    let split ← minus frame.length Checksum.size
    let low ← frame[split]?
    let high ← frame[← size limit (split + 1)]?
    let body ← slice frame 0 split
    some (crc16 body == Word.littleEndian low high)

lemma isValid_eq {frame : List UInt8} (hframe : frame.length ≤ limit) :
    isValid limit frame = some (Checksum.isValid frame) := by
  by_cases hshort : frame.length < Checksum.size + 1
  · have hsize : ¬Checksum.size < frame.length := by omega
    rw [isValid, if_pos hshort, Checksum.isValid, decide_eq_false hsize, Bool.false_and]
  · have hsize : Checksum.size < frame.length := by omega
    have htwo : (frame.drop (frame.length - Checksum.size)).length = 2 := by
      rw [List.length_drop]
      exact Nat.sub_sub_self (Nat.le_of_lt hsize)
    obtain ⟨low, high, hrear⟩ := List.length_eq_two.mp htwo
    have hlow : frame[frame.length - Checksum.size]? = some low := by
      rw [← List.head?_drop, hrear]
      rfl
    have hhigh : frame[frame.length - Checksum.size + 1]? = some high := by
      rw [← List.head?_drop, ← List.drop_drop, hrear]
      rfl
    have hindex : frame.length - Checksum.size + 1 ≤ limit := by
      simp only [Checksum.size] at hsize ⊢
      omega
    have hsame (w : UInt16) :
        (w == Word.littleEndian low high) = ([low, high] == Word.bytesLittleEndian w) := by
      rw [Bool.eq_iff_iff, beq_iff_eq, beq_iff_eq]
      exact Word.eq_littleEndian_iff
    simp only [isValid, if_neg hshort, minus_eq (Nat.le_of_lt hsize), Option.bind_eq_bind,
      Option.bind_some, hlow, size_eq hindex, hhigh, slice_zero (Nat.sub_le _ _), Checksum.isValid,
      decide_eq_true hsize, Bool.true_and, hrear, hsame]

/-- A machine word holds every size that a length byte declares. -/
lemma declaredSize_le (hlimit : Frame.maxSize ≤ limit) (length : UInt8) :
    Frame.declaredSize length ≤ limit := by
  have := length.toNat_lt
  simp only [Frame.maxSize, Frame.declaredSize] at hlimit ⊢
  omega

/-- The fixed fields of a frame of the right size. -/
def head (limit : Nat) (frame : List UInt8) : Option (Except ResponseError ResponseHead) :=
  if frame.length < Frame.minResponseSize then some (.error .tooShort)
  else do
    let declared ← size limit (Frame.declaredSize (← frame[0]?))
    if declared ≠ frame.length then some (.error (.lengthMismatch declared frame.length))
    else
      some (.ok
        { length := ← frame[0]?, address := ← frame[1]?, command := ← frame[2]?,
          status := .ofByte (← frame[3]?) })

lemma head_eq (hlimit : Frame.maxSize ≤ limit) (frame : List UInt8) :
    head limit frame = some (ResponseHead.ofFrame frame) := by
  match frame with
  | [] | [_] | [_, _] | [_, _, _] => rfl
  | length :: address :: command :: status :: rest =>
      simp only [head, ResponseHead.ofFrame, List.length_cons, List.getElem?_cons_zero,
        List.getElem?_cons_succ, Option.bind_eq_bind, Option.bind_some,
        size_eq (declaredSize_le hlimit length), Nat.add_assoc, Nat.reduceAdd]
      split_ifs <;> rfl

/-- The bytes between the fixed fields and the checksum. -/
def payload (limit : Nat) (frame : List UInt8) : Option (List UInt8) := do
  if frame.length < (← size limit (ResponseHead.size + Checksum.size)) then some []
  else slice frame ResponseHead.size (← minus frame.length Checksum.size)

lemma payload_eq (hlimit : Frame.maxSize ≤ limit) (frame : List UInt8) :
    payload limit frame = some (responsePayload frame) := by
  have hsize : ResponseHead.size + Checksum.size ≤ limit := Nat.le_trans (by decide) hlimit
  simp only [payload, size_eq hsize, Option.bind_eq_bind, Option.bind_some, responsePayload]
  split
  · rename_i hshort
    rw [List.drop_eq_nil_of_le]
    rw [List.length_take]
    omega
  · rename_i hlong
    rw [minus_eq (by omega), Option.bind_some, slice_eq (by omega) (Nat.sub_le _ _)]

/-! ## Tags -/

/-- A tag that a reader reports on its own. -/
def upload (limit : Nat) : List UInt8 → Option (Except ResponseError Sighting)
  | antenna :: epcLength :: rest =>
    if epcLength = 0 then some (.error (.invalidLength epcLength))
    else do
      if rest.length < (← size limit (epcLength.toNat + 1)) then some (.error .truncated)
      else
        let epc ← field maxEpcLength (← slice rest 0 (min epcLength.toNat maxEpcLength))
        let rssi ← rest[epcLength.toNat]?
        some (.ok { epc, tid := none, rssi, antenna, phase := none, frequencyKHz := none })
  | _ => some (.error .truncated)

lemma upload_eq (hlimit : Frame.maxSize ≤ limit) (payload : List UInt8) :
    upload limit payload = some (Sighting.ofUpload payload) := by
  match payload with
  | [] | [_] => rfl
  | antenna :: epcLength :: rest =>
      simp only [upload, Sighting.ofUpload]
      split
      · rfl
      · have hsize : epcLength.toNat + 1 ≤ limit := declaredSize_le hlimit epcLength
        rw [size_eq hsize, Option.bind_eq_bind, Option.bind_some]
        split
        · rename_i hshort
          rw [List.drop_eq_nil_of_le (by omega)]
        · rename_i hlong
          have hroom : epcLength.toNat < rest.length := by omega
          rw [List.drop_eq_getElem_cons hroom, slice_zero (by omega)]
          simp only [Option.bind_eq_bind, Option.bind_some, field_eq,
            List.getElem?_eq_getElem hroom, truncate_take]

/-- An EPC that is the body of a block, or what there is room for. -/
def wholeBody (body : List UInt8) : Option (Epc × Option Tid) := do
  some (← field maxEpcLength (← slice body 0 (min body.length maxEpcLength)), none)

lemma wholeBody_eq (body : List UInt8) : wholeBody body = some (.truncate body, none) := by
  rw [wholeBody, slice_zero (Nat.min_le_left _ _), Option.bind_eq_bind, Option.bind_some, field_eq,
    Option.bind_eq_bind, Option.bind_some, truncate_take, List.take_length]

/-- The EPC and the TID in the body of a block. -/
def identity (limit : Nat) (combined : Bool) (body : List UInt8) : Option (Epc × Option Tid) :=
  match combined, body with
  | true, high :: low :: tail => do
    let epcLength ← size limit (TagBlock.epcLength high)
    if (← size limit (2 + epcLength + 2)) ≤ body.length then
      let epc ← field maxEpcLength (← slice tail 0 (min epcLength maxEpcLength))
      let tid ← slice tail (← size limit (epcLength + 2)) tail.length
      if tid.isEmpty then some (epc, none)
      else
        some (epc, some (← field maxTidLength (← slice tid 0 (min tid.length maxTidLength))))
    else wholeBody (high :: low :: tail)
  | _, body => wholeBody body

lemma identity_eq (hlimit : Frame.maxSize ≤ limit) (combined : Bool) (body : List UInt8) :
    identity limit combined body = some (TagBlock.identity combined body) := by
  match combined, body with
  | false, _ | true, [] | true, [_] => exact wholeBody_eq _
  | true, high :: low :: tail =>
      have hlength : TagBlock.epcLength high + 4 ≤ limit := by
        have := high.toNat_lt
        simp only [Frame.maxSize, TagBlock.epcLength] at hlimit ⊢
        omega
      simp only [identity, TagBlock.identity, List.length_cons, Option.bind_eq_bind,
        Option.bind_some, size_eq (show TagBlock.epcLength high ≤ limit by omega),
        size_eq (show 2 + TagBlock.epcLength high + 2 ≤ limit by omega),
        size_eq (show TagBlock.epcLength high + 2 ≤ limit by omega)]
      by_cases hroom : TagBlock.epcLength high + 2 ≤ tail.length
      · have hbody : 2 + TagBlock.epcLength high + 2 ≤ tail.length + 1 + 1 := by omega
        rw [if_pos hbody, if_pos hroom, slice_zero (by omega), slice_length hroom]
        simp only [Option.bind_some, field_eq, truncate_take]
        split
        · rfl
        · rw [slice_zero (Nat.min_le_left _ _)]
          simp only [Option.bind_some, truncate_take, List.take_length]
      · have hbody : ¬2 + TagBlock.epcLength high + 2 ≤ tail.length + 1 + 1 := by omega
        rw [if_neg hbody, if_neg hroom]
        exact wholeBody_eq _

/-- Phase and frequency at a position, and the position behind them. -/
def phaseAndFrequency (limit : Nat) (present : Bool) (data : List UInt8) (position : Nat) :
    Option (Except ResponseError ((Option UInt32 × Option UInt32) × Nat)) :=
  if present then do
    let after ← size limit (position + 7)
    if data.length < after then some (.error .truncated)
    else
      let extra ← slice data position after
      let phase := Word.littleEndian32 (← extra[0]?) (← extra[1]?) (← extra[2]?) (← extra[3]?)
      let frequencyKHz := Word.littleEndian32 (← extra[4]?) (← extra[5]?) (← extra[6]?) 0
      some (.ok ((some phase, some frequencyKHz), ← size limit (position + 7)))
  else some (.ok ((none, none), position))

lemma phaseAndFrequency_of_short {bytes : List UInt8} (h : bytes.length < 7) :
    TagBlock.phaseAndFrequency true bytes = .error .truncated := by
  match bytes, h with
  | [], _ | [_], _ | [_, _], _ | [_, _, _], _ | [_, _, _, _], _ | [_, _, _, _, _], _
  | [_, _, _, _, _, _], _ => rfl
  | _ :: _ :: _ :: _ :: _ :: _ :: _ :: _, h =>
      simp only [List.length_cons] at h
      omega

lemma phaseAndFrequency_eq {position : Nat} {data : List UInt8} (hsize : position + 7 ≤ limit)
    (hposition : position ≤ data.length) (present : Bool) :
    phaseAndFrequency limit present data position =
      some ((TagBlock.phaseAndFrequency present (data.drop position)).map fun read =>
        (read.1, data.length - read.2.length)) := by
  have hlength : (data.drop position).length = data.length - position := List.length_drop
  cases present with
  | false =>
      rw [phaseAndFrequency, if_neg Bool.false_ne_true, TagBlock.phaseAndFrequency, Except.map,
        hlength, Nat.sub_sub_self hposition]
  | true =>
      rw [phaseAndFrequency, if_pos rfl, size_eq hsize, Option.bind_eq_bind, Option.bind_some]
      split
      · rw [phaseAndFrequency_of_short (by omega)]
        rfl
      · rename_i hlong
        rw [slice_eq (Nat.le_add_right _ _) (by omega), List.drop_take, Nat.add_sub_cancel_left]
        match hbytes : data.drop position, hlength with
        | p₀ :: p₁ :: p₂ :: p₃ :: f₀ :: f₁ :: f₂ :: more, hlength =>
            have hused : data.length - more.length = position + 7 := by
              simp only [List.length_cons] at hlength
              omega
            simp only [TagBlock.phaseAndFrequency, Except.map, hused]
            rfl
        | [], hlength | [_], hlength | [_, _], hlength | [_, _, _], hlength | [_, _, _, _], hlength
        | [_, _, _, _, _], hlength | [_, _, _, _, _, _], hlength =>
            simp only [List.length_cons, List.length_nil] at hlength
            omega

/-- The tag in the first block, and the number of bytes that it takes. -/
def block (limit : Nat) (antenna : UInt8) :
    List UInt8 → Option (Except ResponseError (Sighting × Nat))
  | [] => some (.error .truncated)
  | flags :: rest =>
    let length := TagBlock.bodyLength flags
    if length = 0 then some (.error (.invalidLength flags))
    else if rest.length < length then some (.error .truncated)
    else do
      let (epc, tid) ← identity limit (TagBlock.isCombined flags) (rest.take length)
      let position ← size limit (1 + length)
      match (flags :: rest)[position]? with
      | none => some (.error .truncated)
      | some rssi =>
        let position ← size limit (position + 1)
        match ← phaseAndFrequency limit (TagBlock.hasPhase flags) (flags :: rest) position with
        | .error e => some (.error e)
        | .ok ((phase, frequencyKHz), used) =>
          some (.ok ({ epc, tid, rssi, antenna, phase, frequencyKHz }, used))

/-- **The tag in a block**, and the number of bytes before what is left. -/
lemma block_eq (hlimit : Frame.maxSize ≤ limit) (antenna : UInt8) (data : List UInt8) :
    block limit antenna data = some ((TagBlock.read antenna data).map fun read =>
      (read.1, data.length - read.2.length)) := by
  match data with
  | [] => rfl
  | flags :: rest =>
      have hlength : TagBlock.bodyLength flags < 64 := Nat.mod_lt _ (by decide)
      have hlimit' : 256 ≤ limit := hlimit
      simp only [block, TagBlock.read, Option.bind_eq_bind]
      split
      · rfl
      · split
        · rename_i hshort
          rw [List.drop_eq_nil_of_le (Nat.le_of_lt hshort)]
          rfl
        · rename_i hlong
          rw [identity_eq hlimit, Option.bind_some, size_eq (by omega), Option.bind_some,
            Nat.add_comm 1, List.getElem?_cons_succ]
          rcases hrest : rest.drop (TagBlock.bodyLength flags) with _ | ⟨rssi, extra⟩
          · have hnone : rest[TagBlock.bodyLength flags]? = none :=
              List.getElem?_eq_none (List.drop_eq_nil_iff.mp hrest)
            rw [hnone]
            rfl
          · have hsome : rest[TagBlock.bodyLength flags]? = some rssi := by
              rw [← List.head?_drop, hrest]
              rfl
            have hextra : (flags :: rest).drop (TagBlock.bodyLength flags + 1 + 1) = extra := by
              rw [List.drop_succ_cons, ← List.drop_drop, hrest, List.drop_one, List.tail_cons]
            have hposition : TagBlock.bodyLength flags + 1 + 1 ≤ (flags :: rest).length := by
              have h := congrArg List.length hrest
              simp only [List.length_drop, List.length_cons] at h ⊢
              omega
            have hafter : TagBlock.bodyLength flags + 1 + 1 + 7 ≤ limit := by omega
            simp only [hsome, size_eq (show TagBlock.bodyLength flags + 1 + 1 ≤ limit by omega),
              phaseAndFrequency_eq hafter hposition, hextra, Option.bind_some]
            rcases TagBlock.phaseAndFrequency (TagBlock.hasPhase flags) extra with
              e | ⟨⟨phase, frequency⟩, after⟩ <;> rfl

/-! ## The blocks of a report -/

/-- A walk over the blocks of a report. -/
structure TagWalk where
  antenna : UInt8
  remaining : UInt8
  data : List UInt8

/-- The next tag of a walk, unless it has come to its end. -/
def TagWalk.next (limit : Nat) (walk : TagWalk) :
    Option (Option (Except ResponseError Sighting) × TagWalk) :=
  if walk.remaining = 0 then some (none, walk)
  else do
    match ← block limit walk.antenna walk.data with
    | .error e => some (some (.error e), { walk with remaining := 0 })
    | .ok (tag, used) =>
      let remaining ← minus walk.remaining.toNat 1
      let data ← slice walk.data used walk.data.length
      some (some (.ok tag), { walk with remaining := .ofNat remaining, data })

lemma suffix_of_phaseAndFrequency {present : Bool} {bytes rest : List UInt8}
    {read : Option UInt32 × Option UInt32}
    (h : TagBlock.phaseAndFrequency present bytes = .ok (read, rest)) : rest <:+ bytes := by
  unfold TagBlock.phaseAndFrequency at h
  split at h
  · cases h
    exact List.suffix_refl _
  · rename_i p₀ p₁ p₂ p₃ f₀ f₁ f₂ more
    cases h
    exact List.suffix_append [p₀, p₁, p₂, p₃, f₀, f₁, f₂] _
  · cases h

/-- What a block leaves is the end of the bytes. -/
lemma suffix_of_read {antenna : UInt8} {data rest : List UInt8} {tag : Sighting}
    (h : TagBlock.read antenna data = .ok (tag, rest)) : rest <:+ data := by
  match data, h with
  | flags :: more, h =>
      simp only [TagBlock.read] at h
      split at h
      · cases h
      · split at h
        · cases h
        · rename_i rssi extra hdrop
          have hextra : extra <:+ flags :: more :=
            ((List.suffix_cons rssi extra).trans (hdrop ▸ List.drop_suffix _ more)).trans
              (List.suffix_cons flags more)
          split at h
          · cases h
          · rename_i phase frequency after hphase
            cases h
            exact (suffix_of_phaseAndFrequency hphase).trans hextra

lemma next_eq (hlimit : Frame.maxSize ≤ limit) (walk : TagWalk) (n : Nat)
    (hn : walk.remaining.toNat = n + 1) :
    walk.next limit = some (match TagBlock.read walk.antenna walk.data with
      | .error e => (some (.error e), { walk with remaining := 0 })
      | .ok (tag, rest) =>
        (some (.ok tag), { walk with remaining := .ofNat n, data := rest })) := by
  have hsome : walk.remaining ≠ 0 := by
    intro hzero
    rw [hzero] at hn
    cases hn
  rw [TagWalk.next, if_neg hsome, block_eq hlimit, Option.bind_eq_bind, Option.bind_some]
  rcases hread : TagBlock.read walk.antenna walk.data with e | ⟨tag, rest⟩
  · rfl
  · have hsuffix := suffix_of_read hread
    have hrest : walk.data.drop (walk.data.length - rest.length) = rest :=
      (List.suffix_iff_eq_drop.mp hsuffix).symm
    simp only [Except.map, hn, minus_eq (Nat.le_add_left 1 n), Option.bind_eq_bind,
      Option.bind_some, slice_length (Nat.sub_le _ _), hrest, Nat.add_sub_cancel]

/-- The tags of a walk that ends within the given number of steps. -/
def TagWalk.tags (limit : Nat) : Nat → TagWalk → Option (List (Except ResponseError Sighting))
  | 0, _ => none
  | turns + 1, walk => do
    match ← walk.next limit with
    | (none, _) => some []
    | (some tag, walk) => some (tag :: (← tags limit turns walk))

/-- **A walk gives the tags of its blocks.** -/
lemma tags_eq (hlimit : Frame.maxSize ≤ limit) (turns : Nat) (walk : TagWalk)
    (hturns : walk.remaining.toNat < turns) : walk.tags limit turns =
      some (TagBlock.readAll walk.antenna walk.remaining.toNat walk.data) := by
  induction turns generalizing walk with
  | zero => cases hturns
  | succ turns ih =>
      rw [TagWalk.tags]
      cases hn : walk.remaining.toNat with
      | zero =>
          have hzero : walk.remaining = 0 := UInt8.toNat_inj.mp hn
          rw [TagWalk.next, if_pos hzero]
          rfl
      | succ n =>
          have hlt : n < 256 := by
            have := walk.remaining.toNat_lt
            omega
          rw [next_eq hlimit walk n hn, Option.bind_eq_bind, Option.bind_some, TagBlock.readAll]
          rcases hread : TagBlock.read walk.antenna walk.data with e | ⟨tag, rest⟩
          · simp only [Option.bind_eq_bind]
            rw [ih _ (by rw [UInt8.toNat_zero]; omega)]
            rfl
          · have hleft : (UInt8.ofNat n).toNat = n := UInt8.toNat_ofNat_of_lt' hlt
            simp only [Option.bind_eq_bind]
            rw [ih _ (by rw [hleft]; omega)]
            simp only [hleft]
            rfl

/-- The report in a payload that holds every block it announces. -/
def report (limit : Nat) : List UInt8 → Option (Except ResponseError RoundReport)
  | antenna :: count :: blocks => do
    let tags ← TagWalk.tags limit (count.toNat + 1) { antenna, remaining := count, data := blocks }
    match RoundReport.firstError? tags with
    | some e => some (.error e)
    | none => some (.ok { antenna, count, blocks })
  | _ => some (.error .truncated)

lemma report_eq (hlimit : Frame.maxSize ≤ limit) (payload : List UInt8) :
    report limit payload = some (RoundReport.ofPayload payload) := by
  match payload with
  | [] | [_] => rfl
  | antenna :: count :: blocks =>
      have htags := tags_eq hlimit (count.toNat + 1) { antenna, remaining := count, data := blocks }
        (Nat.lt_succ_self count.toNat)
      rw [report, htags, Option.bind_eq_bind, Option.bind_some, RoundReport.ofPayload,
        RoundReport.tags]
      rcases RoundReport.firstError? (TagBlock.readAll antenna count.toNat blocks) with _ | e <;>
        rfl

/-! ## Readings -/

/-- Antenna, rate and count. -/
def statistics (payload : List UInt8) : Option (Except ResponseError RoundStatistics) :=
  if payload.length < 7 then some (.error .truncated)
  else do
    let p := payload.take 7
    let readRate := Word.littleEndian (← p[1]?) (← p[2]?)
    let totalCount := Word.littleEndian32 (← p[3]?) (← p[4]?) (← p[5]?) (← p[6]?)
    some (.ok { antenna := ← p[0]?, readRate, totalCount })

lemma statistics_eq (payload : List UInt8) :
    statistics payload = some (RoundStatistics.ofPayload payload) := by
  match payload with
  | [] | [_] | [_, _] | [_, _, _] | [_, _, _, _] | [_, _, _, _, _] | [_, _, _, _, _, _] => rfl
  | _ :: _ :: _ :: _ :: _ :: _ :: _ :: rest =>
      rw [statistics, if_neg (by simp only [List.length_cons]; omega)]
      rfl

/-- The twelve bytes of the reader information. -/
def profile (payload : List UInt8) : Option (Except ResponseError ReaderProfile) :=
  if payload.length < 12 then some (.error .truncated)
  else do
    let p := payload.take 12
    let check : UInt8 ← p[11]?
    some (.ok
      { version := Word.littleEndian (← p[0]?) (← p[1]?), model := ← p[2]?, protocol := ← p[3]?,
        maxFrequency := ← p[4]?, minFrequency := ← p[5]?, power := ← p[6]?, scanTime := ← p[7]?,
        antenna := ← p[8]?, antennaCheck := check != 0 })

lemma profile_eq (payload : List UInt8) :
    profile payload = some (ReaderProfile.ofPayload payload) := by
  match payload with
  | [] | [_] | [_, _] | [_, _, _] | [_, _, _, _] | [_, _, _, _, _] | [_, _, _, _, _, _]
  | [_, _, _, _, _, _, _] | [_, _, _, _, _, _, _, _] | [_, _, _, _, _, _, _, _, _]
  | [_, _, _, _, _, _, _, _, _, _] | [_, _, _, _, _, _, _, _, _, _, _] => rfl
  | _ :: _ :: _ :: _ :: _ :: _ :: _ :: _ :: _ :: _ :: _ :: _ :: rest =>
      rw [profile, if_neg (by simp only [List.length_cons]; omega)]
      rfl

/-- A byte that is zero below freezing, and the number of degrees. -/
def temperature : List UInt8 → Option (Except ResponseError Content)
  | sign :: degrees :: _ =>
    if sign = 0 then do some (.ok (.temperature (← negate degrees.toNat)))
    else some (.ok (.temperature degrees.toNat))
  | _ => some (.error .truncated)

lemma temperature_eq (payload : List UInt8) :
    temperature payload = some (Content.temperatureOf payload) := by
  match payload with
  | [] | [_] => rfl
  | sign :: degrees :: _ =>
      have hdegrees : (degrees.toNat : Int) ≠ -32768 := by omega
      simp only [temperature, Content.temperatureOf, negate, if_neg hdegrees, Option.bind_eq_bind,
        Option.bind_some]
      split <;> rfl

/-! ## Responses -/

/-- A response to an inventory round. -/
def round (limit : Nat) (head : ResponseHead) (payload : List UInt8) :
    Option (Except ResponseError Content) :=
  if head.status = .statisticsPacket then do some (.statistics <$> (← statistics payload))
  else if 2 ≤ payload.length then do some (.inventory <$> (← report limit payload))
  else some (.ok (.other head.command head.status payload))

lemma round_eq (hlimit : Frame.maxSize ≤ limit) (head : ResponseHead) (payload : List UInt8) :
    round limit head payload = some (Content.roundOf head payload) := by
  rw [round, Content.roundOf, statistics_eq, report_eq hlimit]
  split
  · rfl
  · split <;> rfl

/-- The content of a payload behind the given fixed fields. -/
def content (limit : Nat) (head : ResponseHead) (payload : List UInt8) :
    Option (Except ResponseError Content) :=
  match head.command with
  | CommandCode.autoUpload => do some (.autoUpload <$> (← upload limit payload))
  | CommandCode.tagInventory => round limit head payload
  | CommandCode.singleTagInventory => round limit head payload
  | command =>
    if head.status.isSuccess then
      match command with
      | CommandCode.obtainReaderInfo => do some (.profile <$> (← profile payload))
      | CommandCode.getTagCount => some (Content.tagCountOf payload)
      | CommandCode.measureTemperature => temperature payload
      | CommandCode.readData => some (.readData <$> MemoryExcerpt.ofPayload payload)
      | CommandCode.obtainGpioState => some (Content.gpioStateOf payload)
      | command => some (.ok (.other command head.status payload))
    else some (.ok (.other command head.status payload))

/-- **What a payload says.** -/
theorem content_eq (hlimit : Frame.maxSize ≤ limit) (head : ResponseHead) (payload : List UInt8) :
    content limit head payload = some (Content.ofPayload head payload) := by
  -- The two sides go by the same codes, but only one at a time is taken apart.
  rw [content, upload_eq hlimit, round_eq hlimit, profile_eq, temperature_eq]
  simp only [Option.bind_eq_bind, Option.bind_some]
  split
  · rename_i hcommand
    simp only [Content.ofPayload, hcommand]
  · rename_i hcommand
    simp only [Content.ofPayload, hcommand]
  · rename_i hcommand
    simp only [Content.ofPayload, hcommand]
  · split
    · rename_i hsuccess
      split
      · rename_i hcommand
        simp only [Content.ofPayload, hcommand, hsuccess, if_true]
        rfl
      · rename_i hcommand
        simp only [Content.ofPayload, hcommand, hsuccess, if_true]
        rfl
      · rename_i hcommand
        simp only [Content.ofPayload, hcommand, hsuccess, if_true]
        rfl
      · rename_i hcommand
        simp only [Content.ofPayload, hcommand, hsuccess, if_true]
        rfl
      · rename_i hcommand
        simp only [Content.ofPayload, hcommand, hsuccess, if_true]
        rfl
      · rw [Content.ofPayload]
        split
        · contradiction
        · contradiction
        · contradiction
        · rw [if_pos hsuccess]
          split
          · contradiction
          · contradiction
          · contradiction
          · contradiction
          · contradiction
          · rfl
    · rename_i hfailed
      rw [Content.ofPayload]
      split
      · contradiction
      · contradiction
      · contradiction
      · rw [if_neg hfailed]

/-- The response in a frame. -/
def response (limit : Nat) (frame : List UInt8) : Option (Except ResponseError Response) :=
  if frame.length < Frame.minResponseSize then some (.error .tooShort)
  else do
    if !(← isValid limit frame) then some (.error .checksumMismatch)
    else
      match ← head limit frame with
      | .error e => some (.error e)
      | .ok head =>
        match ← content limit head (← payload limit frame) with
        | .error e => some (.error e)
        | .ok content => some (.ok { head, content })

/-- **What a frame says.** -/
theorem response_eq (hlimit : Frame.maxSize ≤ limit) {frame : List UInt8}
    (hframe : frame.length ≤ limit) : response limit frame = some (Response.ofFrame frame) := by
  rw [response, Response.ofFrame]
  split
  · rfl
  · rw [isValid_eq hframe, Option.bind_eq_bind, Option.bind_some]
    split
    · rfl
    · rw [head_eq hlimit, Option.bind_eq_bind, Option.bind_some]
      rcases ResponseHead.ofFrame frame with e | head
      · rfl
      · simp only [payload_eq hlimit, Option.bind_eq_bind, Option.bind_some, content_eq hlimit]
        rcases Content.ofPayload head (responsePayload frame) with e | content <;> rfl

end Checked

end RfidLink
