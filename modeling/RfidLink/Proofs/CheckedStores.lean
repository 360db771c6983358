import RfidLink.Proofs.Asking
import RfidLink.Proofs.CheckedReading
import RfidLink.Proofs.CommandFrames
import RfidLink.Proofs.QueueDiscipline

/-!
# Keeping and writing within bounds

What is read is kept in places of limited room, and a command is written into a buffer.  Every place
is checked here before something is put into it, and every position before it is used.

* Bytes go into a frame buffer (`search`), reads into the table of tags (`record`), digits into a
  text (`epcText`), answers into a queue (`pushAnswer`, which turns the queue around once to take
  one out), and a command into a frame (`encode`).
* No step fails in a collector, a table and a queue that are sound.  The texts and the frames need
  nothing of the kind: **`epcText_eq`** and **`encode_eq`** hold for every EPC and every command.
* **`answerOf_eq`**: the payload of a frame that can be read has room in an answer.
-/

namespace RfidLink

namespace Checked

variable {limit : Nat}

/-! ## Collecting -/

/-- Take a byte as the length byte of a new frame. -/
def acceptLength (limit : Nat) (byte : UInt8) (c : FrameCollector) :
    Option (Except FramingError Bool × FrameCollector) := do
  let expected ← size limit (Frame.declaredSize byte)
  if expected < c.minSize ∨ Frame.maxSize < expected then
    some (.error (.lengthOutOfRange byte), c.countError)
  else
    some (.ok false, { c with progress := .receiving expected (← store Frame.maxSize [byte]) })

lemma acceptLength_eq (hlimit : Frame.maxSize ≤ limit) (byte : UInt8) (c : FrameCollector) :
    acceptLength limit byte c = some (c.acceptLength byte) := by
  rw [acceptLength, FrameCollector.acceptLength, size_eq (declaredSize_le hlimit byte),
    Option.bind_eq_bind, Option.bind_some]
  split
  · rfl
  · rfl

/-- Take a byte as the next one of a frame that has begun. -/
def append (byte : UInt8) (expected : Nat) (received : List UInt8) (c : FrameCollector) :
    Option (Except FramingError Bool × FrameCollector) := do
  let received ← store Frame.maxSize (received ++ [byte])
  if received.length = expected then some (.ok true, { c with progress := .complete received })
  else some (.ok false, { c with progress := .receiving expected received })

lemma append_eq (byte : UInt8) (expected : Nat) {received : List UInt8}
    (hroom : received.length < Frame.maxSize) (c : FrameCollector) :
    append byte expected received c = some (c.append byte expected received) := by
  have hfits : (received ++ [byte]).length ≤ Frame.maxSize := by
    rw [List.length_append, List.length_singleton]
    exact hroom
  rw [append, FrameCollector.append, store_eq hfits, if_neg (Nat.not_le.mpr hroom),
    Option.bind_eq_bind, Option.bind_some]
  simp only
  split <;> rfl

/-- Take one byte that arrived at `now`. -/
def push (limit : Nat) (byte : UInt8) (now : Nat) (c : FrameCollector) :
    Option (Except FramingError Bool × FrameCollector) :=
  if c.isComplete then some (.ok true, c)
  else
    let c := { c.dropStale now with lastByteAt := now }
    match c.progress with
    | .awaitingLength => acceptLength limit byte c
    | .receiving expected received => append byte expected received c
    | .complete _ => some (.ok true, c)

/-- A frame that is being received leaves room for another byte. -/
lemma room_of_sound {c : FrameCollector} (h : c.Sound) {expected : Nat} {received : List UInt8}
    (hprogress : c.progress = .receiving expected received) : received.length < Frame.maxSize := by
  obtain ⟨pending, hholds⟩ := h
  rw [hholds.progress] at hprogress
  match pending, hholds.pending with
  | [], _ => cases hprogress
  | first :: rest, .inr hbeginning =>
      cases hprogress
      have hlength := hbeginning.length_lt
      have hbyte := first.byte.toNat_lt
      simp only [Arrival.declaredSize, List.length_cons, List.length_map, Frame.declaredSize,
        Frame.maxSize] at hlength ⊢
      omega

lemma sound_dropStale {c : FrameCollector} (h : c.Sound) (now : Nat) : (c.dropStale now).Sound := by
  simp only [FrameCollector.dropStale]
  split
  · split
    · exact h.countError.reset
    · exact h
  · exact h

lemma push_eq (hlimit : Frame.maxSize ≤ limit) {c : FrameCollector} (h : c.Sound) (byte : UInt8)
    (now : Nat) : push limit byte now c = some (c.push byte now) := by
  rw [push, FrameCollector.push]
  split
  · rfl
  · cases hprogress : (c.dropStale now).progress with
    | awaitingLength =>
        simp only [hprogress]
        exact acceptLength_eq hlimit byte _
    | receiving expected received =>
        simp only [hprogress]
        exact append_eq byte expected (room_of_sound (sound_dropStale h now) hprogress) _
    | complete frame =>
        simp only [hprogress]

/-- Give bytes to a collector until it holds a frame, which is copied. -/
def search (limit : Nat) (now : Nat) : List UInt8 → FrameCollector → Option FrameSearch
  | [], c => some { frame := none, rest := [], collector := c, errors := [] }
  | byte :: rest, c => do
    match ← push limit byte now c with
    | (.ok true, c) =>
      let frame ← c.frame?.mapM (store Frame.maxSize)
      some { frame, rest, collector := c.reset, errors := [] }
    | (.ok false, c) => search limit now rest c
    | (.error e, c) =>
      let later ← search limit now rest c
      some { later with errors := e :: later.errors }

lemma search_eq (hlimit : Frame.maxSize ≤ limit) (now : Nat) (bytes : List UInt8)
    {c : FrameCollector} (h : c.Sound) : search limit now bytes c = some (c.search now bytes) := by
  induction bytes generalizing c with
  | nil => rfl
  | cons byte rest ih =>
      rw [search, FrameCollector.search, push_eq hlimit h, Option.bind_eq_bind, Option.bind_some]
      rcases h.push byte now with ⟨c', frame, hpush, hframe, hsized, hreset⟩ |
        ⟨result, c', hpush, hresult, hsound⟩
      · obtain ⟨_, _, -, -, -, hmax⟩ := hsized
        have hstored : store Frame.maxSize frame = some frame := store_eq hmax
        rw [hpush]
        simp only [hframe, Option.mapM_some, hstored]
        rfl
      · rw [hpush]
        rcases result with e | _ | _
        · simp only [ih hsound]
          rfl
        · exact ih hsound
        · exact absurd rfl hresult

/-! ## Tags -/

/-- Record a read of a tag at `now`, and say whether it is let through. -/
def record (limit : Nat) (bytes : List UInt8) (rssi : UInt8) (now : Nat) (filter : RepeatFilter) :
    Option (Bool × RepeatFilter) := do
  let bytes ← slice bytes 0 (min bytes.length maxEpcLength)
  match filter.entries.find? (·.epc.toList = bytes) with
  | some entry =>
    some (!entry.isHeldBack filter.window now,
      { filter with
        entries := RepeatFilter.change entry.epc (·.again filter.window rssi now) filter.entries })
  | none =>
    let epc ← BoundedBytes.ofList? bytes
    let new := TagHistory.first epc rssi now
    let entries ←
      if filter.entries.length = RepeatFilter.capacity then place filter.entries filter.next new
      else store RepeatFilter.capacity (filter.entries ++ [new])
    let next ← remainder (← size limit (filter.next + 1)) RepeatFilter.capacity
    some (true, { filter with entries, next })

lemma record_eq (hlimit : Frame.maxSize ≤ limit) {filter : RepeatFilter} (h : filter.InTurn)
    (bytes : List UInt8) (rssi : UInt8) (now : Nat) :
    record limit bytes rssi now filter = some (filter.record bytes rssi now) := by
  have hcut : bytes.take (min bytes.length maxEpcLength) = bytes.take maxEpcLength := by
    rcases Nat.le_total bytes.length maxEpcLength with hle | hle
    · rw [Nat.min_eq_left hle, List.take_length, List.take_of_length_le hle]
    · rw [Nat.min_eq_right hle]
  have hsame (entry : TagHistory) :
      (entry.epc.toList = bytes.take maxEpcLength) = (entry.epc = .truncate bytes) := by
    refine propext ⟨fun heq => BoundedBytes.ext heq, fun heq => ?_⟩
    rw [heq, BoundedBytes.toList_truncate]
  have hnext : filter.next + 1 ≤ limit := Nat.le_trans h.next_lt (Nat.le_trans (by decide) hlimit)
  rw [record, slice_zero (Nat.min_le_left _ _), Option.bind_eq_bind, Option.bind_some, hcut]
  simp only [hsame, RepeatFilter.record]
  cases hfind : filter.entries.find? (·.epc = .truncate bytes) with
  | some entry =>
      have hepc : entry.epc = .truncate bytes := by simpa using List.find?_some hfind
      simp only [hepc]
  | none =>
      have hepc : BoundedBytes.ofList? (bytes.take maxEpcLength) =
          some (.truncate bytes : Epc) := BoundedBytes.ofList?_toList (.truncate bytes)
      simp only [hepc, size_eq hnext, remainder_eq (show 0 < RepeatFilter.capacity by decide),
        RepeatFilter.insert, Option.bind_eq_bind, Option.bind_some]
      by_cases hfull : filter.entries.length = RepeatFilter.capacity
      · have hplace : filter.next < filter.entries.length := by
          rw [hfull]
          exact h.next_lt
        rw [if_pos hfull, place_eq _ hplace, if_pos (Nat.le_of_eq hfull.symm)]
        rfl
      · have hroom : filter.entries.length < RepeatFilter.capacity :=
          Nat.lt_of_le_of_ne h.length_le hfull
        rw [if_neg hfull, store_eq, if_neg (Nat.not_le.mpr hroom)]
        · rfl
        · rw [List.length_append, List.length_singleton]
          exact hroom

/-- The text so far, with a space behind it if a group begins at position `i` of an EPC. -/
def appendSpace (group i : Nat) (text : List Char) : Option (List Char) :=
  if 0 < group ∧ 0 < i then do
    if (← remainder i group) = 0 then store epcTextCapacity (text ++ [' ']) else some text
  else some text

lemma appendSpace_eq (group i : Nat) {text : List Char} (hroom : text.length < epcTextCapacity) :
    appendSpace group i text =
      some (text ++ if 0 < group ∧ 0 < i ∧ i % group = 0 then [' '] else []) := by
  rw [appendSpace]
  by_cases hgroup : 0 < group ∧ 0 < i
  · rw [if_pos hgroup, remainder_eq hgroup.1, Option.bind_eq_bind, Option.bind_some]
    by_cases hzero : i % group = 0
    · rw [if_pos hzero, if_pos ⟨hgroup.1, hgroup.2, hzero⟩, store_eq]
      rw [List.length_append, List.length_singleton]
      exact hroom
    · rw [if_neg hzero, if_neg (fun h => hzero h.2.2), List.append_nil]
  · rw [if_neg hgroup, if_neg (fun h => hgroup ⟨h.1, h.2.1⟩), List.append_nil]

/-- The text so far, with the digits of bytes that start at position `i` of an EPC behind it. -/
def appendDigits (group : Nat) : Nat → List UInt8 → List Char → Option (List Char)
  | _, [], text => some text
  | i, byte :: rest, text => do
    let spaced ← appendSpace group i text
    let written ← store epcTextCapacity (spaced ++ Hexadecimal.upper byte)
    appendDigits group (i + 1) rest written

lemma appendDigits_eq (group i : Nat) (bytes : List UInt8) {text : List Char}
    (hroom : text.length + 3 * bytes.length ≤ epcTextCapacity) :
    appendDigits group i bytes text = some (text ++ epcDigitsFrom group i bytes) := by
  induction bytes generalizing i text with
  | nil => rw [appendDigits, epcDigitsFrom, List.append_nil]
  | cons byte rest ih =>
      rw [List.length_cons] at hroom
      have hdigits : (Hexadecimal.upper byte).length = 2 := rfl
      have hspace : text.length < epcTextCapacity := by omega
      have hspaced := appendSpace_eq group i hspace
      set spaced : List Char := text ++ if 0 < group ∧ 0 < i ∧ i % group = 0 then [' '] else []
        with hdef
      have hlength : spaced.length ≤ text.length + 1 := by
        rw [hdef, List.length_append]
        split <;> simp
      have hwritten : (spaced ++ Hexadecimal.upper byte).length ≤ text.length + 3 := by
        rw [List.length_append, hdigits]
        omega
      rw [appendDigits, hspaced, Option.bind_eq_bind, Option.bind_some, store_eq (by omega),
        Option.bind_some, ih (i + 1) (by omega), epcDigitsFrom, hdef]
      simp only [List.append_assoc]

/-- An EPC as text. -/
def epcText (bytes : List UInt8) (group : Nat) : Option String := do
  some (String.ofList (← appendDigits group 0 (bytes.take maxEpcLength) []))

/-- **An EPC has room in its text**, whatever its groups. -/
lemma epcText_eq (bytes : List UInt8) (group : Nat) :
    epcText bytes group = some (RfidLink.epcText bytes group) := by
  have hlength : (bytes.take maxEpcLength).length ≤ 62 := List.length_take_le _ _
  have hdigits : appendDigits group 0 (bytes.take maxEpcLength) [] =
      some ([] ++ epcDigitsFrom group 0 (bytes.take maxEpcLength)) := by
    refine appendDigits_eq group 0 _ ?_
    simp only [List.length_nil, epcTextCapacity]
    omega
  rw [epcText, hdigits]
  rfl

/-! ## Answers -/

/-- Take answers from the front and put all but one of them back at the end. -/
def rotate (awaiting : Option Request) : Nat → Bool → List Answer → Option (Bool × List Answer)
  | 0, evicted, queue => some (evicted, queue)
  | _ + 1, evicted, [] => some (evicted, [])
  | turns + 1, evicted, old :: rest =>
    if !evicted && !old.isAwaited awaiting then rotate awaiting turns true rest
    else do rotate awaiting turns evicted (← store Answer.queueCapacity (rest ++ [old]))

/-- **A turn always finds room for the answers that are put back.** -/
lemma rotate_eq (awaiting : Option Request) (turns : Nat) (found : Option Answer)
    {queue : List Answer} (h : queue.length ≤ Answer.queueCapacity) :
    rotate awaiting turns found.isSome queue =
      let turned := Answer.turn (fun a => !a.isAwaited awaiting) turns found queue
      some (turned.1.isSome, turned.2) := by
  induction turns generalizing found queue with
  | zero => rfl
  | succ turns ih =>
      cases queue with
      | nil => rfl
      | cons old rest =>
          rw [List.length_cons] at h
          have hfits : (rest ++ [old]).length ≤ Answer.queueCapacity := by
            rwa [List.length_append, List.length_singleton]
          rw [rotate, Answer.turn, Option.not_isSome]
          split
          · exact ih (some old) (Nat.le_of_lt h)
          · rw [Answer.put_eq old h, store_eq hfits, Option.bind_eq_bind, Option.bind_some]
            exact ih found hfits

/-- Make room by a whole turn of the queue, or by taking out the oldest answer of all. -/
def makeRoom (awaiting : Option Request) (queue : List Answer) : Option (List Answer) := do
  let (evicted, queue) ← rotate awaiting queue.length false queue
  some (if evicted then queue else queue.tail)

lemma makeRoom_eq (awaiting : Option Request) {queue : List Answer}
    (h : queue.length ≤ Answer.queueCapacity) :
    makeRoom awaiting queue = some (Answer.evict awaiting queue) := by
  have hrotated := rotate_eq awaiting queue.length none h
  rw [Option.isSome_none] at hrotated
  rw [makeRoom, hrotated, ← Answer.evictTurning_eq awaiting h]
  rfl

/-- Add an answer at the end, after making room for it where there is none. -/
def pushAnswer (awaiting : Option Request) (answer : Answer) (queue : List Answer) :
    Option (List Answer) := do
  if queue.length = Answer.queueCapacity then
    store Answer.queueCapacity ((← makeRoom awaiting queue) ++ [answer])
  else store Answer.queueCapacity (queue ++ [answer])

lemma pushAnswer_eq (awaiting : Option Request) (answer : Answer) {queue : List Answer}
    (h : queue.length ≤ Answer.queueCapacity) :
    pushAnswer awaiting answer queue = some (answer.push awaiting queue) := by
  have hpushed := Answer.length_push awaiting answer h
  rw [Answer.push] at hpushed ⊢
  rw [pushAnswer, makeRoom_eq awaiting h, Option.bind_eq_bind, Option.bind_some]
  by_cases hfull : queue.length = Answer.queueCapacity
  · rw [if_pos (Nat.le_of_eq hfull.symm)] at hpushed ⊢
    rw [if_pos hfull, store_eq hpushed]
  · have hroom : ¬Answer.queueCapacity ≤ queue.length := by omega
    rw [if_neg hroom] at hpushed ⊢
    rw [if_neg hfull, store_eq hpushed]

/-- The answer in a response, unless the reader sent it on its own. -/
def answerOf (head : ResponseHead) (frame : List UInt8) : Option (Option Answer) :=
  if head.command = CommandCode.autoUpload then some none
  else do
    let bytes ← slice frame ResponseHead.size (← minus frame.length Checksum.size)
    let payload ← BoundedBytes.ofList? bytes
    some (some { address := head.address, command := head.command, status := head.status, payload })

lemma minResponseSize_le {frame : List UInt8} {response : Response}
    (h : Response.ofFrame frame = .ok response) : Frame.minResponseSize ≤ frame.length := by
  by_contra hshort
  rw [Response.ofFrame, if_pos (Nat.not_le.mp hshort)] at h
  cases h

/-- The payload is everything between the fixed fields and the checksum. -/
lemma take_responsePayload_drop {frame : List UInt8} (h : Frame.minResponseSize ≤ frame.length) :
    frame.take ResponseHead.size ++ responsePayload frame ++
      frame.drop (frame.length - Checksum.size) = frame := by
  have hhead : ResponseHead.size ≤ frame.length - Checksum.size := Nat.le_sub_of_add_le h
  rw [responsePayload, ← Nat.min_eq_left hhead, ← List.take_take, Nat.min_eq_left hhead,
    List.take_append_drop, List.take_append_drop]

/-- **The payload of a frame that can be read has room in an answer.** -/
lemma answerOf_eq {frame : List UInt8} {response : Response}
    (h : Response.ofFrame frame = .ok response) : answerOf response.head frame =
      some (Station.answerOf response.head (responsePayload frame)) := by
  have hmax := length_of_ofFrame h
  have hmin := minResponseSize_le h
  simp only [Frame.maxSize, Frame.minResponseSize] at hmax hmin
  rw [answerOf, Station.answerOf]
  split
  · rfl
  · have hslice : slice frame ResponseHead.size (frame.length - Checksum.size) =
        some (responsePayload frame) := by
      refine slice_eq ?_ (Nat.sub_le _ _)
      simp only [ResponseHead.size, Checksum.size]
      omega
    have hfits : (responsePayload frame).length ≤ maxResponsePayload := by
      simp only [responsePayload, List.length_drop, List.length_take, maxResponsePayload,
        Checksum.size, ResponseHead.size]
      omega
    have hpayload : (BoundedBytes.ofList? (responsePayload frame) :
        Option (BoundedBytes maxResponsePayload)) = some ⟨responsePayload frame, hfits⟩ :=
      dif_pos hfits
    have hsize : Checksum.size ≤ frame.length := Nat.le_trans (by decide) hmin
    simp only [minus_eq hsize, hslice, hpayload, Option.bind_eq_bind, Option.bind_some,
      Option.getD_some]

/-! ## Frames of commands -/

/-- Write one byte, unless the frame or the buffer is full. -/
def writeByte (limit : Nat) (byte : UInt8) (d : FrameDraft) :
    Option (Except FrameDraft.Overrun FrameDraft) := do
  if Frame.maxSize ≤ (← size limit (d.written.length + Checksum.size)) then some (.error .frame)
  else if d.buffer.length ≤ d.written.length then some (.error .buffer)
  else
    let _ ← size limit (d.written.length + 1)
    some (.ok { d with written := d.written ++ [byte] })

lemma writeByte_eq (hlimit : Frame.maxSize ≤ limit) (byte : UInt8) {d : FrameDraft}
    (h : d.written.length + Checksum.size ≤ Frame.maxSize) :
    writeByte limit byte d = some (d.push byte) := by
  have hnext : d.written.length + 1 ≤ limit := by
    simp only [Checksum.size] at h
    omega
  simp only [writeByte, FrameDraft.push, size_eq (Nat.le_trans h hlimit), size_eq hnext,
    Option.bind_eq_bind, Option.bind_some]
  split_ifs <;> rfl

/-- A byte that is written leaves room for the checksum. -/
lemma written_of_push {byte : UInt8} {d d' : FrameDraft} (h : d.push byte = .ok d') :
    d' = { d with written := d.written ++ [byte] } ∧
      d.written.length + Checksum.size < Frame.maxSize := by
  simp only [FrameDraft.push] at h
  split at h
  · cases h
  · split at h
    · cases h
    · cases h
      exact ⟨rfl, by omega⟩

/-- Write bytes until one does not fit. -/
def writeAll (limit : Nat) :
    List UInt8 → FrameDraft → Option (Except FrameDraft.Overrun Unit × FrameDraft)
  | [], d => some (.ok (), d)
  | byte :: rest, d => do
    match ← writeByte limit byte d with
    | .error e => some (.error e, d)
    | .ok d => writeAll limit rest d

lemma writeAll_eq (hlimit : Frame.maxSize ≤ limit) (bytes : List UInt8) {d : FrameDraft}
    (h : d.written.length + Checksum.size ≤ Frame.maxSize) :
    writeAll limit bytes d = some (FrameDraft.extend bytes d) := by
  induction bytes generalizing d with
  | nil => rfl
  | cons byte rest ih =>
      rw [writeAll, writeByte_eq hlimit byte h, FrameDraft.extend, Option.bind_eq_bind,
        Option.bind_some]
      rcases hpush : d.push byte with e | d'
      · rfl
      · obtain ⟨rfl, hroom⟩ := written_of_push hpush
        refine ih ?_
        rw [List.length_append, List.length_singleton]
        omega

/-- What has been written, if every byte could be. -/
lemma written_of_extend {bytes : List UInt8} {d d' : FrameDraft}
    (h : FrameDraft.extend bytes d = (.ok (), d'))
    (hframe : d.written.length + Checksum.size ≤ Frame.maxSize) :
    d' = { d with written := d.written ++ bytes } ∧
      (d.written ++ bytes).length + Checksum.size ≤ Frame.maxSize := by
  induction bytes generalizing d with
  | nil =>
      cases h
      rw [List.append_nil]
      exact ⟨rfl, hframe⟩
  | cons byte rest ih =>
      rw [FrameDraft.extend] at h
      rcases hpush : d.push byte with e | next
      · rw [hpush] at h
        cases h
      · rw [hpush] at h
        obtain ⟨rfl, hroom⟩ := written_of_push hpush
        have hlength : (d.written ++ [byte]).length = d.written.length + 1 := by
          rw [List.length_append, List.length_singleton]
        have hrest := ih h (by rw [hlength]; omega)
        rw [List.append_assoc, List.singleton_append] at hrest
        exact hrest

/-- Put the length byte right and add the checksum. -/
def finish (limit : Nat) (d : FrameDraft) :
    Option (Except FrameDraft.Overrun Nat × List UInt8) := do
  let total ← size limit (d.written.length + Checksum.size)
  if d.buffer.length < total then some (.error .buffer, d.contents)
  else
    let contents ← place d.contents 0 (.ofNat (← minus total 1))
    let body ← slice contents 0 d.written.length
    let contents ← overwrite contents d.written.length total
      (Word.bytesLittleEndian (crc16 body))
    some (.ok total, contents)

lemma finish_eq (hlimit : Frame.maxSize ≤ limit) (body buffer : List UInt8)
    (hframe : (0 :: body).length + Checksum.size ≤ Frame.maxSize) :
    finish limit { written := 0 :: body, buffer } =
      some (FrameDraft.finish { written := 0 :: body, buffer }) := by
  simp only [finish, FrameDraft.finish, size_eq (Nat.le_trans hframe hlimit), Option.bind_eq_bind,
    Option.bind_some]
  split
  · rfl
  · rename_i hroom
    set length : UInt8 := .ofNat (body.length + 1 + Checksum.size - 1) with hlength
    set rest := buffer.drop (body.length + 1) with hrest
    -- The buffer before and after the length byte is put right.
    have hcontents : FrameDraft.contents { written := 0 :: body, buffer } = 0 :: (body ++ rest) :=
      rfl
    have hplaced : place (0 :: (body ++ rest)) 0 length = some (length :: body ++ rest) :=
      place_eq length (Nat.zero_lt_succ _)
    have hstart : slice (length :: body ++ rest) 0 (body.length + 1) = some (length :: body) :=
      slice_front (length :: body) rest
    have hsum : overwrite (length :: body ++ rest) (body.length + 1)
        (body.length + 1 + Checksum.size) (Word.bytesLittleEndian (crc16 (length :: body))) =
          some (length :: body ++ Word.bytesLittleEndian (crc16 (length :: body)) ++
            rest.drop Checksum.size) := by
      refine overwrite_behind (length :: body) rfl ?_
      rw [List.length_cons] at hroom
      rw [hrest, List.length_drop]
      omega
    have hminus : minus (body.length + 1 + Checksum.size) 1 =
        some (body.length + 1 + Checksum.size - 1) := minus_eq (by omega)
    rw [hcontents, List.length_cons, hminus, Option.bind_some, ← hlength, hplaced,
      Option.bind_some, hstart, Option.bind_some, hsum, hrest, List.drop_drop]
    rfl

/-- Write a whole frame at the start of a buffer. -/
def writeFrame (limit : Nat) (body buffer : List UInt8) :
    Option (Except FrameDraft.Overrun Nat × List UInt8) := do
  match ← writeAll limit (0 :: body) { written := [], buffer } with
  | (.error e, d) => some (.error e, d.contents)
  | (.ok (), d) => finish limit d

lemma writeFrame_eq (hlimit : Frame.maxSize ≤ limit) (body buffer : List UInt8) :
    writeFrame limit body buffer = some (FrameDraft.write body buffer) := by
  have hempty : ([] : List UInt8).length + Checksum.size ≤ Frame.maxSize := by decide
  rw [writeFrame, writeAll_eq hlimit _ hempty, FrameDraft.write, Option.bind_eq_bind,
    Option.bind_some]
  rcases hextend : FrameDraft.extend (0 :: body) { written := [], buffer } with ⟨e | ⟨⟩, d⟩
  · rfl
  · obtain ⟨rfl, hframe⟩ := written_of_extend hextend hempty
    exact finish_eq hlimit body buffer hframe

/-- The frame of a command. -/
def encode (limit : Nat) (command : Command) (address : UInt8) :
    Option (Except CommandError (List UInt8)) :=
  match command.check with
  | .error e => some (.error e)
  | .ok () => do
    match ← writeFrame limit (address :: command.code :: command.arguments)
        (List.replicate Frame.maxSize 0) with
    | (.error e, _) => some (.error (Command.errorOfOverrun e))
    | (.ok length, buffer) => some (.ok (← store Frame.maxSize (← slice buffer 0 length)))

lemma encode_eq (hlimit : Frame.maxSize ≤ limit) (command : Command) (address : UInt8) :
    encode limit command address = some (command.encode address) := by
  rw [encode, Command.encode, Command.writeFrame]
  rcases command.check with e | ⟨⟩
  · rfl
  · set body := address :: command.code :: command.arguments
    simp only [writeFrame_eq hlimit, Option.bind_eq_bind, Option.bind_some]
    by_cases hfits : body.length + 3 ≤ Frame.maxSize
    · have hlength : (Frame.ofBody body).length = body.length + 3 := length_ofBody body
      have hwritten : FrameDraft.write body (List.replicate Frame.maxSize 0) =
          (.ok (body.length + 3), Frame.ofBody body ++
            (List.replicate Frame.maxSize 0).drop (body.length + 3)) := by
        refine FrameDraft.write_of_fits _ hfits ?_
        rw [List.length_replicate]
        exact hfits
      have hfront : slice (Frame.ofBody body ++ (List.replicate Frame.maxSize 0).drop
          (body.length + 3)) 0 (body.length + 3) = some (Frame.ofBody body) := by
        rw [← hlength]
        exact slice_front _ _
      have hframe : (Frame.ofBody body ++ (List.replicate Frame.maxSize 0).drop
          (body.length + 3)).take (body.length + 3) = Frame.ofBody body := by
        rw [← hlength, List.take_left]
      rw [hwritten]
      simp only
      rw [hfront, Option.bind_some, store_eq (by rw [hlength]; exact hfits)]
      simp only [Except.mapError, Except.map, hframe, Option.bind_some]
    · have hlong : Frame.maxSize < body.length + 3 := Nat.not_le.mp hfits
      have hrefused := FrameDraft.write_of_too_long (List.replicate Frame.maxSize 0) hlong
      rcases hwrite : FrameDraft.write body (List.replicate Frame.maxSize 0) with ⟨size, buffer⟩
      rw [hwrite] at hrefused
      simp only at hrefused
      subst hrefused
      rfl

end Checked

end RfidLink
