import RfidLink.Frame.Search
import RfidLink.Proofs.Holding

/-!
# Frames survive being cut

The serial line delivers bytes in pieces of any size, and a frame may begin in one piece and end in
a later one.

* `Frame.Sized` says that a frame has the size its length byte declares, and `Frame.Begins` that
  some bytes are the unfinished beginning of the next frame.
* `FrameCollector.HasOpen` says what a collector remembers of such a beginning: the bytes
  themselves, and nothing else.
* **`HasOpen.search_complete`** and **`HasOpen.search_open`** are the two ends of a search.  Either
  the bytes complete the frame, which is found, and the bytes behind it are left; or they do not,
  and the collector has all of them.
* `Frame.exists_cut` says where a piece ends: behind some whole frames and the beginning of another.
-/

namespace RfidLink

namespace Frame

/-- The frame has the size that its length byte declares, and a response may have that size. -/
def Sized (frame : List UInt8) : Prop :=
  ∃ length rest, frame = length :: rest ∧ declaredSize length = frame.length ∧
    minResponseSize ≤ frame.length ∧ frame.length ≤ maxSize

/-- Bytes with which the first of some frames begins but does not end. -/
def Begins (bytes : List UInt8) : List (List UInt8) → Prop
  | [] => bytes = []
  | frame :: _ => bytes <+: frame ∧ bytes.length < frame.length

lemma Sized.length_pos {frame : List UInt8} (h : Sized frame) : 0 < frame.length := by
  obtain ⟨length, rest, rfl, -⟩ := h
  exact Nat.succ_pos _

/-- A frame of a size that a response may have has the fixed fields of one. -/
lemma Sized.exists_head {frame : List UInt8} (h : Sized frame) :
    ∃ length address command status rest,
      frame = length :: address :: command :: status :: rest := by
  obtain ⟨length, more, rfl, -, hmin, -⟩ := h
  match more, hmin with
  | address :: command :: status :: rest, _ => exact ⟨length, address, command, status, rest, rfl⟩

lemma Sized.isFrame {frame : List UInt8} (h : Sized frame) (now : Nat) :
    Arrival.IsFrame minResponseSize (Arrival.together now frame) := by
  obtain ⟨length, rest, rfl, hdeclared, hmin, -⟩ := h
  exact Arrival.isFrame_together hdeclared hmin now

lemma begins_nil {frames : List (List UInt8)} (h : ∀ frame ∈ frames, Sized frame) :
    Begins [] frames := by
  cases frames with
  | nil => rfl
  | cons frame rest => exact ⟨List.nil_prefix, (h frame List.mem_cons_self).length_pos⟩

end Frame

/-! ## Frames that are written -/

lemma length_ofBody (body : List UInt8) : (Frame.ofBody body).length = body.length + 3 := by
  rw [Frame.ofBody, Checksum.length_protect, List.length_cons]
  rfl

lemma isValid_ofBody (body : List UInt8) : Checksum.isValid (Frame.ofBody body) = true :=
  Checksum.isValid_protect (List.cons_ne_nil _ _)

/-- The length byte of a frame that fits declares its size. -/
lemma declaredSize_ofBody {body : List UInt8} (h : body.length + 3 ≤ Frame.maxSize) :
    Frame.declaredSize (UInt8.ofNat (body.length + Checksum.size)) = body.length + 3 := by
  have hbyte : body.length + 2 < 2 ^ 8 := by
    simp only [Frame.maxSize] at h
    omega
  simp only [Frame.declaredSize, Checksum.size, UInt8.toNat_ofNat', Nat.mod_eq_of_lt hbyte]

/-- A frame with address, code and status in it has a size that a response may have. -/
lemma sized_ofBody {body : List UInt8} (hshort : 3 ≤ body.length)
    (hlong : body.length + 3 ≤ Frame.maxSize) : Frame.Sized (Frame.ofBody body) := by
  refine ⟨UInt8.ofNat (body.length + Checksum.size), _, rfl, ?_, ?_, ?_⟩
  · rw [length_ofBody]
    exact declaredSize_ofBody hlong
  · rw [length_ofBody, Frame.minResponseSize]
    omega
  · rw [length_ofBody]
    exact hlong

/-! ## Collecting -/

namespace FrameCollector

variable {now : Nat} {bytes : List UInt8} {c : FrameCollector}

/-- The collector holds the beginning of a frame, all of it received at `now`. -/
structure HasOpen (now : Nat) (bytes : List UInt8) (c : FrameCollector) : Prop where
  minSize : c.minSize = Frame.minResponseSize
  progress : c.progress = progressOf bytes
  inTime : bytes ≠ [] → c.lastByteAt = now

/-- The collector is one that holds pending bytes, and they came together. -/
lemma HasOpen.holds (h : HasOpen now bytes c) {later : List UInt8} (hlater : later ≠ [])
    (hsized : Frame.Sized (bytes ++ later)) :
    Holds Frame.minResponseSize (Arrival.together now bytes) c where
  minSize_eq := h.minSize
  progress := by
    rw [Arrival.map_byte_together]
    exact h.progress
  lastByteAt last hlast := by
    have hmem := List.mem_of_getLast? hlast
    rw [Arrival.time_of_mem_together hmem]
    refine h.inTime ?_
    rintro rfl
    cases hmem
  pending := by
    by_cases hbytes : bytes = []
    · exact .inl (List.map_eq_nil_iff.mpr hbytes)
    · have hframe := hsized.isFrame now
      rw [Arrival.together_append] at hframe
      exact .inr (hframe.isBeginning (mt List.map_eq_nil_iff.mp hbytes)
        (mt List.map_eq_nil_iff.mp hlater))

lemma Holds.hasOpen (h : Holds Frame.minResponseSize (Arrival.together now bytes) c) :
    HasOpen now bytes c where
  minSize := h.minSize_eq
  progress := by
    rw [h.progress, Arrival.map_byte_together]
  inTime hbytes := by
    have hne : Arrival.together now bytes ≠ [] := mt List.map_eq_nil_iff.mp hbytes
    rw [h.lastByteAt _ (List.getLast?_eq_some_getLast hne)]
    exact Arrival.time_of_mem_together (List.getLast_mem hne)

/-- The bytes of a frame join its beginning, and the last of them completes it. -/
lemma HasOpen.push_frame (h : HasOpen now bytes c) {byte : UInt8} {later : List UInt8}
    (hsized : Frame.Sized (bytes ++ byte :: later)) :
    (later = [] ∧ ∃ c', c.push byte now = (.ok true, c') ∧ c'.frame? = some (bytes ++ [byte]) ∧
        HasOpen now [] c'.reset) ∨
      (later ≠ [] ∧ ∃ c', c.push byte now = (.ok false, c') ∧
        HasOpen now (bytes ++ [byte]) c') := by
  have hframe := hsized.isFrame now
  have hmore : 1 < (Arrival.together now (bytes ++ byte :: later)).length :=
    Nat.lt_of_lt_of_le (by decide) hframe.minSize_le
  have hsame : Arrival.together now bytes ++ [⟨byte, now⟩] =
      Arrival.together now (bytes ++ [byte]) := (Arrival.together_append now bytes [byte]).symm
  rw [Arrival.together_append] at hframe hmore
  rcases (h.holds (List.cons_ne_nil _ _) hsized).push_frame hframe hmore with
    ⟨hlast, c', hpush, hcomplete, hreset, -⟩ | ⟨hlast, c', hpush, hholds, -⟩
  · refine .inl ⟨List.map_eq_nil_iff.mp hlast, c', hpush, ?_, Holds.hasOpen hreset⟩
    rw [hcomplete, hsame, Arrival.map_byte_together]
  · refine .inr ⟨fun hnone => hlast (List.map_eq_nil_iff.mpr hnone), c', hpush, ?_⟩
    rw [hsame] at hholds
    exact hholds.hasOpen

/-- **Bytes that complete a frame**: the frame is found, and the bytes behind it are left. -/
theorem HasOpen.search_complete {more : List UInt8} (h : HasOpen now bytes c) (hmore : more ≠ [])
    (hsized : Frame.Sized (bytes ++ more)) (rest : List UInt8) :
    ∃ c', c.search now (more ++ rest) =
        { frame := some (bytes ++ more), rest, collector := c', errors := [] } ∧
      HasOpen now [] c' := by
  induction more generalizing bytes c with
  | nil => exact absurd rfl hmore
  | cons byte more ih =>
      rcases h.push_frame hsized with ⟨rfl, c', hpush, hframe, hreset⟩ | ⟨hlater, c', hpush, hopen⟩
      · refine ⟨c'.reset, ?_, hreset⟩
        simp only [List.cons_append, List.nil_append, search, hpush, hframe]
      · have hsame : bytes ++ byte :: more = bytes ++ [byte] ++ more := by simp
        rw [hsame] at hsized
        obtain ⟨c'', hsearch, hdone⟩ := ih hopen hlater hsized
        refine ⟨c'', ?_, hdone⟩
        rw [List.cons_append, search, hpush, hsame]
        exact hsearch

/-- **Bytes that complete no frame**: none is found, and the collector holds all of them. -/
theorem HasOpen.search_open {more : List UInt8} {frames : List (List UInt8)}
    (h : HasOpen now bytes c) (hframes : ∀ frame ∈ frames, Frame.Sized frame)
    (hbegins : Frame.Begins (bytes ++ more) frames) :
    ∃ c', c.search now more = { frame := none, rest := [], collector := c', errors := [] } ∧
      HasOpen now (bytes ++ more) c' := by
  cases frames with
  | nil =>
      obtain ⟨rfl, rfl⟩ := List.append_eq_nil_iff.mp hbegins
      exact ⟨c, rfl, h⟩
  | cons frame frames =>
      have hsized : Frame.Sized frame := hframes frame List.mem_cons_self
      obtain ⟨⟨later, rfl⟩, hshort⟩ := hbegins
      have hlater : later ≠ [] := by
        rintro rfl
        rw [List.append_nil] at hshort
        exact Nat.lt_irrefl _ hshort
      clear hframes hshort
      induction more generalizing bytes c with
      | nil =>
          rw [List.append_nil]
          exact ⟨c, rfl, h⟩
      | cons byte more ih =>
          have hsame : bytes ++ byte :: more = bytes ++ [byte] ++ more := by simp
          have hwhole : bytes ++ byte :: more ++ later = bytes ++ byte :: (more ++ later) := by simp
          have hsized' := hsized
          rw [hwhole] at hsized'
          rcases h.push_frame hsized' with ⟨hnone, -⟩ | ⟨-, c', hpush, hopen⟩
          · exact absurd (List.append_eq_nil_iff.mp hnone).2 hlater
          · rw [hsame] at hsized ⊢
            obtain ⟨c'', hsearch, hdone⟩ := ih hopen hsized
            refine ⟨c'', ?_, hdone⟩
            rw [search, hpush]
            exact hsearch

end FrameCollector

end RfidLink
