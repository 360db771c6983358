import Mathlib.Algebra.GroupWithZero.Nat
import RfidLink.Proofs.Completion
import RfidLink.Proofs.Gathering

/-!
# A stream in chunks

Whoever reads a line gets several bytes at a time.  `pushAll` takes them together, but only up to
the end of a frame: the caller takes the frame out and comes back with the rest.

* `FrameCollector.drain` is this loop over a chunk, and `drainAll` over one chunk after the other.
  The loop is given a number of turns, and has no result if they do not suffice.
* `pushAll_gather` is one turn.  It uses a byte at least, and leaves behind it what giving the same
  bytes one by one would leave.
* **`drainAll_gather`** is the run: a turn for each byte suffices, and how a stream is cut into
  chunks does not matter.
-/

namespace RfidLink

/-- Bytes that were read together. -/
structure Chunk where
  bytes : List UInt8
  time : Nat

/-- The bytes of a chunk, one by one. -/
def Chunk.arrivals (chunk : Chunk) : List Arrival := Arrival.together chunk.time chunk.bytes

namespace FrameCollector

variable {now : Nat} {byte : UInt8} {bytes : List UInt8} {c : FrameCollector}

/-- A collector after its frame was taken out, if it held one. -/
def emptied (c : FrameCollector) : FrameCollector := if c.isComplete then c.reset else c

/--
  Use up a chunk within some turns.  A turn gives all that is left to the collector, and takes out
  the frame that this completes.  What comes out are the numbers of bytes that the turns used, the
  frames, and the collector; nothing does if bytes are left behind the last turn.
-/
def drain : Nat → List UInt8 → Nat → FrameCollector →
    Option (List Nat × List (List UInt8) × FrameCollector)
  | _, [], _, c => some ([], [], c)
  | 0, _ :: _, _, _ => none
  | turns + 1, bytes, now, c => do
    let (used, c) := c.pushAll bytes now
    let (counts, frames, later) ← drain turns (bytes.drop used) now c.emptied
    some (used :: counts, c.frame?.toList ++ frames, later)

/-- Use up chunks one after the other, each with as many turns as it has bytes. -/
def drainAll : List Chunk → FrameCollector →
    Option (List (List Nat) × List (List UInt8) × FrameCollector)
  | [], c => some ([], [], c)
  | chunk :: rest, c => do
    let (counts, frames, c) ← drain chunk.bytes.length chunk.bytes chunk.time c
    let (others, later, c) ← drainAll rest c
    some (counts :: others, frames ++ later, c)

/-! ## Collectors without a frame -/

lemma frame?_of_open (hopen : c.isComplete = false) : c.frame? = none := by
  rw [isComplete] at hopen
  rw [frame?]
  cases hprogress : c.progress with
  | awaitingLength | receiving _ _ => rfl
  | complete frame =>
      rw [hprogress] at hopen
      cases hopen

lemma emptied_of_open (hopen : c.isComplete = false) : c.emptied = c := by
  rw [emptied, hopen, if_neg Bool.false_ne_true]

lemma isComplete_emptied (c : FrameCollector) : c.emptied.isComplete = false := by
  rw [emptied]
  split
  · rfl
  · rename_i hopen
    exact Bool.eq_false_iff.mpr hopen

/-- A collector that is open holds a frame after a byte exactly if the answer says so. -/
lemma push_open (hopen : c.isComplete = false) (byte : UInt8) (now : Nat) :
    (∃ c', c.push byte now = (.ok true, c') ∧ c'.isComplete = true) ∨
      ∃ answer c', c.push byte now = (answer, c') ∧ answer ≠ .ok true ∧ c'.isComplete = false := by
  obtain ⟨hpushed, -⟩ := push_pushed byte now c
  rcases hpush : c.push byte now with ⟨answer, c'⟩
  rw [hpush] at hpushed
  rw [isComplete] at hopen
  simp only [isComplete]
  generalize c.progress = before, hafter : c'.progress = after at hopen hpushed
  cases hpushed with
  | held => cases hopen
  | completed => exact .inl ⟨c', rfl, by rw [hafter]⟩
  | refused | begun | overflow | joined =>
      refine .inr ⟨_, c', rfl, ?_, by rw [hafter]⟩
      intro hanswer
      cases hanswer

/-! ## Bytes one by one -/

section

variable {c' : FrameCollector} {answer : Except FramingError Bool}

lemma gather_of_open {arrival : Arrival} (hpush : c.push arrival.byte arrival.time = (answer, c'))
    (hopen : answer ≠ .ok true) (stream : List Arrival) :
    c.gather (arrival :: stream) = c'.gather stream := by
  rw [gather, hpush]
  split
  · rename_i hsame
    cases hsame
    exact absurd rfl hopen
  · rename_i hsame
    cases hsame
    rfl

lemma pushAll_of_completed (hopen : c.isComplete = false)
    (hpush : c.push byte now = (.ok true, c')) (rest : List UInt8) :
    c.pushAll (byte :: rest) now = (1, c') := by
  simp only [pushAll, hopen, Bool.false_eq_true, if_false, hpush]

lemma pushAll_of_open (hopen : c.isComplete = false) (hpush : c.push byte now = (answer, c'))
    (hanswer : answer ≠ .ok true) (rest : List UInt8) :
    c.pushAll (byte :: rest) now =
      ((c'.pushAll rest now).1 + 1, (c'.pushAll rest now).2) := by
  simp only [pushAll, hopen, Bool.false_eq_true, if_false, hpush]

end

/-- No frame stays behind in a collector out of which they are taken. -/
lemma isComplete_gather (hopen : c.isComplete = false) (stream : List Arrival) :
    (c.gather stream).2.isComplete = false := by
  induction stream generalizing c with
  | nil => exact hopen
  | cons arrival stream ih =>
      rcases push_open hopen arrival.byte arrival.time with
        ⟨c', hpush, -⟩ | ⟨answer, c', hpush, hanswer, hopen'⟩
      · rw [gather, hpush]
        exact ih rfl
      · rw [gather_of_open hpush hanswer]
        exact ih hopen'

/-! ## One turn -/

/-- A turn uses a byte at least, and no more than there are. -/
lemma used_bounds (hopen : c.isComplete = false) (bytes : List UInt8) (now : Nat) :
    (bytes ≠ [] → 0 < (c.pushAll bytes now).1) ∧ (c.pushAll bytes now).1 ≤ bytes.length := by
  induction bytes generalizing c with
  | nil => exact ⟨fun hbytes => absurd rfl hbytes, Nat.le_refl 0⟩
  | cons byte rest ih =>
      rcases push_open hopen byte now with
        ⟨c', hpush, -⟩ | ⟨answer, c', hpush, hanswer, hopen'⟩
      · rw [pushAll_of_completed hopen hpush]
        exact ⟨fun _ => Nat.one_pos, Nat.succ_le_succ (Nat.zero_le _)⟩
      · rw [pushAll_of_open hopen hpush hanswer]
        exact ⟨fun _ => Nat.succ_pos _, Nat.succ_le_succ (ih hopen').2⟩

/--
  **One turn.**  What bytes do one by one is what the turn does, and then those that it has not used.
  The induction is on the bytes; the turn ends with the first that completes a frame.
-/
theorem pushAll_gather (hopen : c.isComplete = false) (bytes : List UInt8) (now : Nat) :
    c.gather (Arrival.together now bytes) =
      let turn := c.pushAll bytes now
      let later := turn.2.emptied.gather (Arrival.together now (bytes.drop turn.1))
      (turn.2.frame?.toList ++ later.1, later.2) := by
  induction bytes generalizing c with
  | nil =>
      simp only [pushAll, frame?_of_open hopen, emptied_of_open hopen]
      rfl
  | cons byte rest ih =>
      rw [Arrival.together, List.map_cons, ← Arrival.together]
      rcases push_open hopen byte now with
        ⟨c', hpush, hcomplete⟩ | ⟨answer, c', hpush, hanswer, hopen'⟩
      · rw [pushAll_of_completed hopen hpush, gather, hpush]
        simp only [emptied, hcomplete, if_true, List.drop_one, List.tail_cons]
      · rw [pushAll_of_open hopen hpush hanswer, gather_of_open hpush hanswer]
        exact ih hopen'

/-! ## All turns -/

/-- **One chunk.**  A turn for each byte suffices, and together they use all bytes. -/
theorem drain_gather (hopen : c.isComplete = false) {turns : Nat} (hturns : bytes.length ≤ turns)
    (now : Nat) :
    ∃ counts, drain turns bytes now c = some (counts, c.gather (Arrival.together now bytes)) ∧
      counts.sum = bytes.length := by
  induction turns generalizing bytes c with
  | zero =>
      have hnone : bytes = [] := List.eq_nil_of_length_eq_zero (Nat.le_zero.mp hturns)
      subst hnone
      exact ⟨[], rfl, rfl⟩
  | succ turns ih =>
      cases bytes with
      | nil => exact ⟨[], rfl, rfl⟩
      | cons byte rest =>
          obtain ⟨hpos, hle⟩ := used_bounds hopen (byte :: rest) now
          have hgather := pushAll_gather hopen (byte :: rest) now
          rcases hturn : c.pushAll (byte :: rest) now with ⟨used, c'⟩
          rw [hturn] at hpos hle hgather
          have hlength : ((byte :: rest).drop used).length + used = (byte :: rest).length := by
            rw [List.length_drop, Nat.sub_add_cancel hle]
          have hfewer : ((byte :: rest).drop used).length ≤ turns := by
            have := hpos (List.cons_ne_nil _ _)
            omega
          obtain ⟨counts, hlater, hsum⟩ := ih c'.isComplete_emptied hfewer
          refine ⟨used :: counts, ?_, ?_⟩
          · simp only [drain, hturn, hlater, hgather, Option.bind_eq_bind, Option.bind_some]
          · rw [List.sum_cons, hsum, Nat.add_comm, hlength]

/-- **All chunks**, one after the other. -/
theorem drainAll_gather (hopen : c.isComplete = false) (chunks : List Chunk) :
    ∃ counts, drainAll chunks c = some (counts, c.gather (chunks.flatMap Chunk.arrivals)) ∧
      counts.map List.sum = chunks.map (·.bytes.length) := by
  induction chunks generalizing c with
  | nil => exact ⟨[], rfl, rfl⟩
  | cons chunk rest ih =>
      obtain ⟨counts, hdrain, hsum⟩ := drain_gather hopen (Nat.le_refl chunk.bytes.length) chunk.time
      obtain ⟨others, hrest, hsums⟩ := ih (isComplete_gather hopen chunk.arrivals)
      refine ⟨counts :: others, ?_, ?_⟩
      · rw [← Chunk.arrivals] at hdrain
        rw [List.flatMap_cons, gather_append]
        simp only [drainAll, hdrain, hrest, Option.bind_eq_bind, Option.bind_some]
      · rw [List.map_cons, List.map_cons, hsum, hsums]

/--
  **How a stream is cut into chunks does not matter.**  Take a collector that holds no complete
  frame, and any chunks, whatever their bytes are and whenever they come.

  * The loop ends on each of them, and the turns together use as many bytes as the chunk has.
  * The frames that come out, and the collector with all that it remembers and has counted, are the
    same as if the bytes had been given one by one.
  * They stay the same if a chunk is split, and if two chunks of one time are merged.
-/
theorem chunks_do_not_matter (hopen : c.isComplete = false) (chunks : List Chunk) :
    (∃ counts, drainAll chunks c = some (counts, c.gather (chunks.flatMap Chunk.arrivals)) ∧
      counts.map List.sum = chunks.map (·.bytes.length)) ∧
    ∀ (before after : List Chunk) (front back : List UInt8) (time : Nat),
      (drainAll (before ++ ⟨front, time⟩ :: ⟨back, time⟩ :: after) c).map Prod.snd =
        (drainAll (before ++ ⟨front ++ back, time⟩ :: after) c).map Prod.snd := by
  refine ⟨drainAll_gather hopen chunks, fun before after front back time => ?_⟩
  obtain ⟨_, hsplit, -⟩ :=
    drainAll_gather hopen (before ++ ⟨front, time⟩ :: ⟨back, time⟩ :: after)
  obtain ⟨_, hmerged, -⟩ := drainAll_gather hopen (before ++ ⟨front ++ back, time⟩ :: after)
  rw [hsplit, hmerged, Option.map_some, Option.map_some]
  simp only [List.flatMap_append, List.flatMap_cons, Chunk.arrivals, Arrival.together_append,
    List.append_assoc]

/-- A frame lacks its last byte. -/
def midFrame : FrameCollector :=
  { progress := .receiving 3 [2, 7], minSize := 3, lastByteAt := 90, errors := 0 }

/-- The rest of that frame, a refused byte, a frame in two chunks, and one that breaks off. -/
def mixedChunks : List Chunk :=
  [⟨[8, 1, 2, 7], 100⟩, ⟨[], 150⟩, ⟨[9, 2, 5], 150⟩, ⟨[2, 6, 7, 4], 400⟩]

theorem chunks_do_not_matter_midFrame :
    midFrame.isComplete = false ∧
    ∃ counts, drainAll mixedChunks midFrame =
        some (counts, [[2, 7, 8], [2, 7, 9], [2, 6, 7]],
          { progress := .receiving 5 [4], minSize := 3, lastByteAt := 400, errors := 2 }) ∧
      counts.map List.sum = [4, 0, 3, 4] := by
  obtain ⟨⟨counts, hdrained, hsums⟩, -⟩ := chunks_do_not_matter (c := midFrame) rfl mixedChunks
  exact ⟨rfl, counts, hdrained, hsums⟩

end FrameCollector

end RfidLink
