import RfidLink.Proofs.Segments

/-!
# What a collector holds

A collector that was given the bytes of a stream remembers the pending ones, and nothing else.

* `FrameCollector.Holds` says so: the bytes are the beginning of a frame, and the time of the last
  of them is known.
* `push_of_awaiting`, `push_of_receiving` and `push_of_late` are what a byte does to a collector in
  which a frame has not begun, or has begun and the byte is in time for it or late.  `push_cases`
  says that there is nothing else but a frame that is complete.
* For a collector that holds something there is one lemma for each thing that can become of the next
  byte.  It may come too late for what is pending (`push_late`), be a length byte that is refused
  (`push_refused`) or not (`push_first`), or join what is pending and perhaps complete it
  (`push_next`).
* **`Holds.push_frame`** is about the bytes of a frame: each of them is taken, and the last one
  completes the frame.
-/

namespace RfidLink

open Arrival (Late InTime LateFor IsFrame IsBeginning)

namespace FrameCollector

/-! ## One byte -/

section

variable {expected now : Nat} {byte : UInt8} {received : List UInt8} {c : FrameCollector}

lemma push_of_awaiting (hprogress : c.progress = .awaitingLength) :
    c.push byte now = acceptLength byte { c with lastByteAt := now } := by
  have hopen : c.isComplete = false := by rw [isComplete, hprogress]
  have hkept : c.dropStale now = c := by simp only [dropStale, hprogress]
  simp only [push, hopen, Bool.false_eq_true, if_false, hkept, hprogress]

/-- A byte that is in time is appended to what was received. -/
lemma push_of_receiving (hprogress : c.progress = .receiving expected received)
    (hsoon : now - c.lastByteAt ≤ interByteTimeout) :
    c.push byte now = append byte expected received { c with lastByteAt := now } := by
  have hopen : c.isComplete = false := by rw [isComplete, hprogress]
  have hkept : c.dropStale now = c := by
    simp only [dropStale, hprogress, if_neg (Nat.not_lt.mpr hsoon)]
  simp only [push, hopen, Bool.false_eq_true, if_false, hkept, hprogress]

/-- A byte that is late finds what was received given up, with one error more. -/
lemma push_of_late (hprogress : c.progress = .receiving expected received)
    (hlate : interByteTimeout < now - c.lastByteAt) :
    c.push byte now = c.countError.reset.push byte now := by
  have hopen : c.isComplete = false := by rw [isComplete, hprogress]
  have hreset : c.countError.reset.isComplete = false := rfl
  have hdropped : c.dropStale now = c.countError.reset := by
    simp only [dropStale, hprogress, if_pos hlate]
  have hnothing : c.countError.reset.dropStale now = c.countError.reset := rfl
  simp only [push, hopen, hreset, Bool.false_eq_true, if_false, hdropped, hnothing]

/--
  A byte finds a complete frame, or it is taken for a length byte, or it is in time and appended to
  what was received.
-/
lemma push_cases (byte : UInt8) (now : Nat) (c : FrameCollector) :
    ((∃ frame, c.progress = .complete frame) ∧ c.push byte now = (.ok true, c)) ∨
    (∃ awaiting, awaiting.progress = .awaitingLength ∧ awaiting.minSize = c.minSize ∧
      awaiting.lastByteAt = now ∧ c.push byte now = acceptLength byte awaiting) ∨
    ∃ expected received, c.progress = .receiving expected received ∧
      now - c.lastByteAt ≤ interByteTimeout ∧
      c.push byte now = append byte expected received { c with lastByteAt := now } := by
  cases hprogress : c.progress with
  | awaitingLength =>
      exact .inr (.inl
        ⟨{ c with lastByteAt := now }, hprogress, rfl, rfl, push_of_awaiting hprogress⟩)
  | receiving expected received =>
      by_cases hsoon : now - c.lastByteAt ≤ interByteTimeout
      · exact .inr (.inr ⟨expected, received, rfl, hsoon, push_of_receiving hprogress hsoon⟩)
      · exact .inr (.inl ⟨{ c.countError.reset with lastByteAt := now }, rfl, rfl, rfl,
          (push_of_late hprogress (Nat.lt_of_not_le hsoon)).trans (push_of_awaiting rfl)⟩)
  | complete frame =>
      have hheld : c.isComplete = true := by rw [isComplete, hprogress]
      refine .inl ⟨⟨frame, rfl⟩, ?_⟩
      rw [push, if_pos hheld]

end

/-! ## What is pending -/

/-- How far a collector is that was given the beginning of a frame. -/
def progressOf : List UInt8 → Progress
  | [] => .awaitingLength
  | length :: rest => .receiving (Frame.declaredSize length) (length :: rest)

/-- What the collector holds is pending, and the time of its last byte is noted. -/
structure Holds (minSize : Nat) (pending : List Arrival) (c : FrameCollector) : Prop where
  minSize_eq : c.minSize = minSize
  progress : c.progress = progressOf (pending.map (·.byte))
  lastByteAt : ∀ last ∈ pending.getLast?, c.lastByteAt = last.time
  pending : pending = [] ∨ IsBeginning minSize pending

variable {minSize : Nat} {pending : List Arrival} {arrival : Arrival} {c : FrameCollector}

/-- A collector that awaits a length byte holds nothing, whenever its last byte came. -/
lemma holds_nil (hminSize : c.minSize = minSize) (hprogress : c.progress = .awaitingLength) :
    Holds minSize [] c where
  minSize_eq := hminSize
  progress := hprogress
  lastByteAt _ hlast := nomatch hlast
  pending := .inl rfl

lemma holds_withMinSize (minSize : Nat) : Holds minSize [] (withMinSize minSize) :=
  holds_nil rfl rfl

lemma Holds.received (h : Holds minSize pending c) : c.received = pending.map (·.byte) := by
  rw [FrameCollector.received, h.progress]
  cases pending with
  | nil => rfl
  | cons first rest => rfl

lemma Holds.isComplete (h : Holds minSize pending c) : c.isComplete = false := by
  rw [FrameCollector.isComplete, h.progress]
  cases pending with
  | nil => rfl
  | cons first rest => rfl

/-- A late byte finds the collector as if nothing had been pending, with one error more. -/
lemma Holds.push_late (h : Holds minSize pending c) (hlate : LateFor pending arrival) :
    c.push arrival.byte arrival.time = c.countError.reset.push arrival.byte arrival.time := by
  obtain ⟨last, hlast, hsilence⟩ := hlate
  rw [Late, ← h.lastByteAt last hlast] at hsilence
  cases pending with
  | nil => cases hlast
  | cons first rest => exact push_of_late h.progress hsilence

lemma Holds.reset (h : Holds minSize pending c) : Holds minSize [] c.countError.reset :=
  holds_nil h.minSize_eq rfl

/-- A length byte that announces too short a frame is dropped. -/
lemma Holds.push_refused (h : Holds minSize [] c)
    (hshort : Frame.declaredSize arrival.byte < minSize) :
    ∃ c', c.push arrival.byte arrival.time = (.error (.lengthOutOfRange arrival.byte), c') ∧
      Holds minSize [] c' ∧ c'.errors = c.errors + 1 := by
  have hrange : Frame.declaredSize arrival.byte < c.minSize ∨
      Frame.maxSize < Frame.declaredSize arrival.byte := by
    rw [h.minSize_eq]
    exact .inl hshort
  refine ⟨countError { c with lastByteAt := arrival.time }, ?_,
    holds_nil h.minSize_eq h.progress, rfl⟩
  rw [push_of_awaiting h.progress, acceptLength, if_pos hrange]

/-- Any other length byte begins a frame. -/
lemma Holds.push_first (h : Holds minSize [] c)
    (haccepted : minSize ≤ Frame.declaredSize arrival.byte)
    (hmore : 1 < Frame.declaredSize arrival.byte) :
    ∃ c', c.push arrival.byte arrival.time = (.ok false, c') ∧ Holds minSize [arrival] c' ∧
      c'.errors = c.errors := by
  have hrange : ¬ (Frame.declaredSize arrival.byte < c.minSize ∨
      Frame.maxSize < Frame.declaredSize arrival.byte) := by
    have hlong := Frame.declaredSize_le arrival.byte
    rw [h.minSize_eq]
    omega
  have hbeginning : IsBeginning minSize [arrival] :=
    ⟨List.cons_ne_nil _ _, hmore, haccepted, List.IsChain.singleton _⟩
  refine ⟨{ c with lastByteAt := arrival.time, progress := progressOf [arrival.byte] }, ?_,
    ⟨h.minSize_eq, rfl, ?_, .inr hbeginning⟩, rfl⟩
  · rw [push_of_awaiting h.progress, acceptLength, if_neg hrange]
    rfl
  · rintro last ⟨rfl⟩
    rfl

/-- A byte that is not late joins what is pending, or completes it. -/
lemma Holds.push_next (h : Holds minSize pending c) (hpending : pending ≠ [])
    (hlate : ¬ LateFor pending arrival) :
    (IsFrame minSize (pending ++ [arrival]) ∧
      ∃ c', c.push arrival.byte arrival.time = (.ok true, c') ∧
        c'.frame? = some ((pending ++ [arrival]).map (·.byte)) ∧ Holds minSize [] c'.reset ∧
        c'.errors = c.errors) ∨
    ∃ c', c.push arrival.byte arrival.time = (.ok false, c') ∧
      Holds minSize (pending ++ [arrival]) c' ∧ c'.errors = c.errors := by
  have hbeginning : IsBeginning minSize pending := h.pending.resolve_left hpending
  have hsize := Arrival.declaredSize_append hpending [arrival]
  have hintime : InTime (pending ++ [arrival]) := by
    refine hbeginning.inTime.append (List.IsChain.singleton _) ?_
    rintro last hlast next ⟨rfl⟩ hsilence
    exact hlate ⟨last, hlast, hsilence⟩
  have hroom : ¬ Frame.maxSize ≤ pending.length := by
    have hlong := Arrival.declaredSize_le pending
    have hshort := hbeginning.length_lt
    omega
  have hpush : c.push arrival.byte arrival.time =
      append arrival.byte (Arrival.declaredSize pending) (pending.map (·.byte))
        { c with lastByteAt := arrival.time } := by
    have hlast := List.getLast?_eq_some_getLast hpending
    have hsoon : arrival.time - c.lastByteAt ≤ interByteTimeout := by
      rw [h.lastByteAt _ hlast]
      exact Nat.le_of_not_lt fun hsilence => hlate ⟨_, hlast, hsilence⟩
    obtain ⟨first, rest, rfl⟩ := List.exists_cons_of_ne_nil hpending
    exact push_of_receiving h.progress hsoon
  simp only [append, List.length_map, hroom, if_false, List.length_append,
    List.length_singleton] at hpush
  have hbytes : pending.map (·.byte) ++ [arrival.byte] = (pending ++ [arrival]).map (·.byte) := by
    rw [List.map_append]
    rfl
  rw [hbytes] at hpush
  by_cases hlast : pending.length + 1 = Arrival.declaredSize pending
  · left
    rw [if_pos hlast] at hpush
    have hlength : (pending ++ [arrival]).length = Arrival.declaredSize pending := by
      rw [List.length_append, List.length_singleton, hlast]
    refine ⟨⟨?_, ?_, ?_, ?_, hintime⟩, _, hpush, rfl, holds_nil h.minSize_eq rfl, rfl⟩
    · exact List.append_ne_nil_of_left_ne_nil hpending _
    · rw [hsize, hlength]
    · rw [hlength]
      exact hbeginning.minSize_le
    · rw [hlength]
      exact Arrival.declaredSize_le _
  · right
    rw [if_neg hlast] at hpush
    refine ⟨_, hpush, ⟨h.minSize_eq, ?_, ?_, .inr ⟨?_, ?_, ?_, hintime⟩⟩, rfl⟩
    · obtain ⟨first, rest, rfl⟩ := List.exists_cons_of_ne_nil hpending
      rfl
    · intro last hlast
      rw [List.getLast?_concat] at hlast
      cases hlast
      rfl
    · exact List.append_ne_nil_of_left_ne_nil hpending _
    · have hshort := hbeginning.length_lt
      rw [hsize, List.length_append, List.length_singleton]
      omega
    · rw [hsize]
      exact hbeginning.minSize_le

/-- **The bytes of a frame** join what is pending, and the last of them completes the frame. -/
theorem Holds.push_frame (h : Holds minSize pending c) {later : List Arrival}
    (hframe : IsFrame minSize (pending ++ arrival :: later))
    (hmore : 1 < (pending ++ arrival :: later).length) :
    (later = [] ∧ ∃ c', c.push arrival.byte arrival.time = (.ok true, c') ∧
        c'.frame? = some ((pending ++ [arrival]).map (·.byte)) ∧ Holds minSize [] c'.reset ∧
        c'.errors = c.errors) ∨
      (later ≠ [] ∧ ∃ c', c.push arrival.byte arrival.time = (.ok false, c') ∧
        Holds minSize (pending ++ [arrival]) c' ∧ c'.errors = c.errors) := by
  have hsplit : pending ++ arrival :: later = pending ++ [arrival] ++ later := by simp
  have hsize : Arrival.declaredSize (pending ++ [arrival]) =
      pending.length + (later.length + 1) := by
    rw [← Arrival.declaredSize_append (by simp) later, ← hsplit, hframe.declaredSize_eq,
      List.length_append, List.length_cons]
  rw [List.length_append, List.length_cons] at hmore
  by_cases hpending : pending = []
  · subst hpending
    have hdeclared : Frame.declaredSize arrival.byte = later.length + 1 := hframe.declaredSize_eq
    rw [List.length_nil, Nat.zero_add] at hmore
    refine .inr ⟨?_, h.push_first ?_ ?_⟩
    · rintro rfl
      exact Nat.lt_irrefl _ hmore
    · rw [hdeclared]
      exact hframe.minSize_le
    · rw [hdeclared]
      exact hmore
  · rcases h.push_next hpending hframe.inTime.not_lateFor with
      ⟨hwhole, c', hpush, hcomplete, hreset, herrors⟩ | ⟨c', hpush, hholds, herrors⟩
    · left
      have hlength := hwhole.declaredSize_eq
      rw [hsize, List.length_append, List.length_singleton] at hlength
      exact ⟨List.eq_nil_of_length_eq_zero (by omega), c', hpush, hcomplete, hreset, herrors⟩
    · right
      refine ⟨?_, c', hpush, hholds, herrors⟩
      rintro rfl
      have hshort := (hholds.pending.resolve_left (by simp)).length_lt
      rw [hsize, List.length_append, List.length_singleton, List.length_nil] at hshort
      exact Nat.lt_irrefl _ hshort

end FrameCollector

end RfidLink
