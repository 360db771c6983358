import RfidLink.Proofs.Holding

/-!
# What becomes of every byte of a stream

A collector is given the bytes of a stream, and its frames are taken out as they complete.

* `FrameCollector.gather` does that, and `Divides` says that its outcome follows from a division of
  the stream into segments.
* **`gather_divides`** is the run: the frames that come out are the frames among the segments of the
  stream, and the errors that were counted are its other segments.
* `pushAll_withMinSize` is about a whole frame that comes at once.
-/

namespace RfidLink

open Arrival (LateFor IsFrame IsBeginning)

namespace FrameCollector

variable {minSize : Nat} {pending : List Arrival} {arrival : Arrival} {c : FrameCollector}

/-! ## All bytes of a stream -/

/-- Take the bytes of a stream one by one, and a frame out as soon as it is complete. -/
def gather : List Arrival → FrameCollector → List (List UInt8) × FrameCollector
  | [], c => ([], c)
  | arrival :: rest, c =>
    match c.push arrival.byte arrival.time with
    | (.ok true, c) =>
      let (frames, later) := gather rest c.reset
      (c.frame?.toList ++ frames, later)
    | (_, c) => gather rest c

/-- To take bytes and then others is to take all of them. -/
lemma gather_append (first rest : List Arrival) (c : FrameCollector) :
    c.gather (first ++ rest) =
      ((c.gather first).1 ++ ((c.gather first).2.gather rest).1,
        ((c.gather first).2.gather rest).2) := by
  induction first generalizing c with
  | nil => rfl
  | cons arrival first ih =>
      rw [List.cons_append, gather, gather]
      split
      · simp only [ih, List.append_assoc]
      · exact ih _

/-- What came out of a stream: frames and errors are told by segments, and the rest is pending. -/
structure Yields (minSize : Nat) (segments : List Segment) (pending : List Arrival)
    (errors : UInt32) (outcome : List (List UInt8) × FrameCollector) : Prop where
  frames : outcome.1 = segments.filterMap Segment.frame?
  holds : Holds minSize pending outcome.2
  errors : outcome.2.errors = errors + UInt32.ofNat (segments.countP Segment.isError)

namespace Yields

variable {segments : List Segment} {errors : UInt32}
  {outcome : List (List UInt8) × FrameCollector}

lemma error (h : Yields minSize segments pending (errors + 1) outcome) {segment : Segment}
    (herror : segment.isError = true) :
    Yields minSize (segment :: segments) pending errors outcome where
  frames := by
    have hnone : segment.frame? = none := by
      cases segment with
      | frame arrivals => cases herror
      | refused arrival => rfl
      | stale arrivals => rfl
    rw [List.filterMap_cons_none hnone]
    exact h.frames
  holds := h.holds
  errors := by
    rw [List.countP_cons_of_pos herror, UInt32.ofNat_add, h.errors, UInt32.add_assoc,
      UInt32.add_comm 1]
    rfl

lemma frame (h : Yields minSize segments pending errors outcome) (arrivals : List Arrival) :
    Yields minSize (.frame arrivals :: segments) pending errors
      (arrivals.map (·.byte) :: outcome.1, outcome.2) where
  frames := by
    rw [h.frames]
    rfl
  holds := h.holds
  errors := h.errors

end Yields

/--
  What is pending and the stream behind it are divided into segments, and what comes out of the
  stream follows from them.
-/
def Divides (minSize : Nat) (pending stream : List Arrival) (c : FrameCollector) : Prop :=
  ∃ segments rest, Segment.Divide minSize segments rest (pending ++ stream) ∧
    Yields minSize segments rest c.errors (c.gather stream)

namespace Divides

variable {stream : List Arrival} {c' : FrameCollector}

/-- A length byte that is refused is a segment. -/
lemma refused {e : FramingError} (h : Divides minSize [] stream c')
    (hshort : Frame.declaredSize arrival.byte < minSize)
    (hpush : c.push arrival.byte arrival.time = (.error e, c'))
    (herrors : c'.errors = c.errors + 1) : Divides minSize [] (arrival :: stream) c := by
  obtain ⟨segments, rest, hdivide, hyields⟩ := h
  refine ⟨.refused arrival :: segments, rest, .cons hshort hdivide, ?_⟩
  rw [herrors] at hyields
  rw [gather, hpush]
  exact hyields.error rfl

/-- A byte that joins what is pending is settled later. -/
lemma joined (h : Divides minSize (pending ++ [arrival]) stream c')
    (hpush : c.push arrival.byte arrival.time = (.ok false, c'))
    (herrors : c'.errors = c.errors) : Divides minSize pending (arrival :: stream) c := by
  obtain ⟨segments, rest, hdivide, hyields⟩ := h
  rw [List.append_assoc] at hdivide
  refine ⟨segments, rest, hdivide, ?_⟩
  rw [herrors] at hyields
  rw [gather, hpush]
  exact hyields

/-- A byte that completes a frame ends a segment, and the frame comes out. -/
lemma completed (h : Divides minSize [] stream c'.reset)
    (hframe : IsFrame minSize (pending ++ [arrival]))
    (hpush : c.push arrival.byte arrival.time = (.ok true, c'))
    (hcomplete : c'.frame? = some ((pending ++ [arrival]).map (·.byte)))
    (herrors : c'.errors = c.errors) : Divides minSize pending (arrival :: stream) c := by
  obtain ⟨segments, rest, hdivide, hyields⟩ := h
  refine ⟨.frame (pending ++ [arrival]) :: segments, rest, ?_, ?_⟩
  · have hsame : pending ++ arrival :: stream = pending ++ [arrival] ++ stream :=
      List.append_cons pending arrival stream
    rw [hsame]
    exact .cons hframe hdivide
  · have hsame : c'.reset.errors = c.errors := herrors
    rw [hsame] at hyields
    rw [gather, hpush]
    simp only [hcomplete]
    exact hyields.frame _

/-- A byte that comes late ends a segment in front of it, and is looked at again. -/
lemma brokenOff (h : Divides minSize [] (arrival :: stream) c.countError.reset)
    (hbeginning : IsBeginning minSize pending) (hlate : LateFor pending arrival)
    (hpush : c.push arrival.byte arrival.time =
      c.countError.reset.push arrival.byte arrival.time) :
    Divides minSize pending (arrival :: stream) c := by
  obtain ⟨segments, rest, hdivide, hyields⟩ := h
  have hfits : (Segment.stale pending).Fits minSize (arrival :: stream) :=
    ⟨hbeginning, arrival, rfl, hlate⟩
  refine ⟨.stale pending :: segments, rest, .cons hfits hdivide, ?_⟩
  rw [gather, ← hpush, ← gather] at hyields
  exact hyields.error rfl

end Divides

/-- A length byte is refused, or a frame begins with it. -/
lemma Holds.divides_first (hmin : 2 ≤ minSize) (h : Holds minSize [] c) {stream : List Arrival}
    (hlater : ∀ {pending c}, Holds minSize pending c → Divides minSize pending stream c) :
    Divides minSize [] (arrival :: stream) c := by
  by_cases hshort : Frame.declaredSize arrival.byte < minSize
  · obtain ⟨c', hpush, hholds, herrors⟩ := h.push_refused hshort
    exact (hlater hholds).refused hshort hpush herrors
  · have haccepted := Nat.le_of_not_lt hshort
    obtain ⟨c', hpush, hholds, herrors⟩ :=
      h.push_first haccepted (Nat.lt_of_lt_of_le hmin haccepted)
    have hjoined : Holds minSize ([] ++ [arrival]) c' := hholds
    exact (hlater hjoined).joined hpush herrors

/--
  A collector that holds what is pending divides it and the stream behind it.  The induction is on
  the stream; a byte that comes late is looked at twice, once to end what was pending and once as a
  length byte.
-/
theorem Holds.divides (hmin : 2 ≤ minSize) (h : Holds minSize pending c) (stream : List Arrival) :
    Divides minSize pending stream c := by
  induction stream generalizing pending c with
  | nil =>
      refine ⟨[], pending, ?_, rfl, h, (UInt32.add_zero _).symm⟩
      rw [List.append_nil]
      exact .pending h.pending
  | cons arrival stream ih =>
      by_cases hpending : pending = []
      · subst hpending
        exact h.divides_first hmin ih
      · by_cases hlate : LateFor pending arrival
        · have hbeginning := h.pending.resolve_left hpending
          exact (h.reset.divides_first hmin ih).brokenOff hbeginning hlate (h.push_late hlate)
        · rcases h.push_next hpending hlate with
            ⟨hframe, c', hpush, hcomplete, hreset, herrors⟩ | ⟨c', hpush, hholds, herrors⟩
          · exact (ih hreset).completed hframe hpush hcomplete herrors
          · exact (ih hholds).joined hpush herrors

/--
  **A collector divides its input.**  Whatever the bytes are and whenever they come, they are
  frames, refused length bytes and beginnings that broke off, one behind the other, and at the end a
  beginning that is still pending; and they are so in one way only.  The frames that come out are
  those among the segments, in their order, and each of the other segments was counted as an error.
-/
theorem gather_divides (hmin : 2 ≤ minSize) (stream : List Arrival) :
    ∃ segments pending, Segment.Divide minSize segments pending stream ∧
      stream = segments.flatMap Segment.arrivals ++ pending ∧
      (∀ segments' pending', Segment.Divide minSize segments' pending' stream →
        segments' = segments ∧ pending' = pending) ∧
      ((withMinSize minSize).gather stream).1 = segments.filterMap Segment.frame? ∧
      ((withMinSize minSize).gather stream).2.received = pending.map (·.byte) ∧
      ((withMinSize minSize).gather stream).2.errors.toNat =
        segments.countP Segment.isError % UInt32.size := by
  obtain ⟨segments, pending, hdivide, hyields⟩ := (holds_withMinSize minSize).divides hmin stream
  refine ⟨segments, pending, hdivide, hdivide.stream_eq, fun _ _ h => h.unique hdivide,
    hyields.frames, hyields.holds.received, ?_⟩
  rw [hyields.errors]
  simp [withMinSize]

/-- A refused length byte, a beginning that breaks off, a frame, and a beginning. -/
def brokenStream : List Arrival :=
  [⟨1, 0⟩, ⟨4, 10⟩, ⟨9, 20⟩, ⟨2, 121⟩, ⟨7, 221⟩, ⟨8, 300⟩, ⟨5, 310⟩]

theorem gather_divides_brokenStream :
    2 ≤ 3 ∧ ∃ segments pending, Segment.Divide 3 segments pending brokenStream ∧
      brokenStream = segments.flatMap Segment.arrivals ++ pending ∧
      segments.filterMap Segment.frame? = [[2, 7, 8]] ∧ pending.map (·.byte) = [5] ∧
      segments.countP Segment.isError % UInt32.size = 2 := by
  obtain ⟨segments, pending, hdivide, hstream, -, hframes, hpending, herrors⟩ :=
    gather_divides (show 2 ≤ 3 by decide) brokenStream
  refine ⟨by decide, segments, pending, hdivide, hstream, ?_, ?_, ?_⟩
  · rw [← hframes]
    rfl
  · rw [← hpending]
    rfl
  · rw [← herrors]
    rfl

/-! ## Bytes that come together -/

/-- **The rest of a frame completes it**, and all of that rest is used. -/
theorem Holds.pushAll_frame (h : Holds minSize pending c) {rest : List UInt8} {now : Nat}
    (hrest : rest ≠ []) (hframe : IsFrame minSize (pending ++ Arrival.together now rest))
    (hmore : 1 < (pending ++ Arrival.together now rest).length) :
    ∃ c', c.pushAll rest now = (rest.length, c') ∧
      c'.frame? = some (pending.map (·.byte) ++ rest) ∧ c'.errors = c.errors := by
  induction rest generalizing pending c with
  | nil => exact absurd rfl hrest
  | cons byte rest ih =>
      rw [Arrival.together, List.map_cons] at hframe hmore
      rcases h.push_frame hframe hmore with
        ⟨hlast, c', hpush, hcomplete, -, herrors⟩ | ⟨hlast, c', hpush, hholds, herrors⟩
      · have hnone : rest = [] := List.map_eq_nil_iff.mp hlast
        subst hnone
        refine ⟨c', ?_, ?_, herrors⟩
        · simp only [pushAll, h.isComplete, Bool.false_eq_true, if_false, hpush]
          rfl
        · rw [hcomplete, List.map_append]
          rfl
      · have hsame : pending ++ ⟨byte, now⟩ :: Arrival.together now rest =
            pending ++ [⟨byte, now⟩] ++ Arrival.together now rest := by simp
        rw [← Arrival.together, hsame] at hframe hmore
        have hrest : rest ≠ [] := fun hnone => hlast (List.map_eq_nil_iff.mpr hnone)
        obtain ⟨c'', hall, hcomplete, hsame'⟩ := ih hholds hrest hframe hmore
        refine ⟨c'', ?_, ?_, hsame'.trans herrors⟩
        · simp only [pushAll, h.isComplete, Bool.false_eq_true, if_false, hpush, hall]
          rfl
        · rw [hcomplete, List.map_append, List.append_assoc]
          rfl

/-- A fresh collector that is given a whole frame uses it up and holds it. -/
theorem pushAll_withMinSize {length : UInt8} {rest : List UInt8}
    (hdeclared : Frame.declaredSize length = (length :: rest).length)
    (hmin : minSize ≤ (length :: rest).length) (hmore : rest ≠ []) (now : Nat) :
    ∃ c, (withMinSize minSize).pushAll (length :: rest) now = ((length :: rest).length, c) ∧
      c.frame? = some (length :: rest) := by
  have hframe : IsFrame minSize (Arrival.together now (length :: rest)) :=
    Arrival.isFrame_together hdeclared hmin now
  have hlong : 1 < (Arrival.together now (length :: rest)).length := by
    rw [Arrival.together, List.length_map, List.length_cons]
    exact Nat.succ_lt_succ (List.length_pos_iff.mpr hmore)
  obtain ⟨c, hpushed, hcomplete, -⟩ :=
    (holds_withMinSize minSize).pushAll_frame (List.cons_ne_nil _ _) hframe hlong
  exact ⟨c, hpushed, hcomplete⟩

end FrameCollector

end RfidLink
