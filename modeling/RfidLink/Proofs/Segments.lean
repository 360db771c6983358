import Mathlib.Data.List.Chain
import Mathlib.Tactic.Lemma
import RfidLink.Frame.Collector

/-!
# A stream of bytes and its segments

Bytes arrive one after the other, each at its time.  Nothing is promised about them: length bytes
may be wrong, and frames may break off in the middle.  This file says what such a stream consists
of, and it does so without mentioning a collector.

* `Segment` lists what can become of a piece of a stream: it is a frame, or a length byte that is
  refused, or a beginning that breaks off.  `Segment.Fits` says when it may stand in front of the
  rest.
* `Segment.Divide` says that some segments and a pending beginning behind them are the stream.
* **`Divide.unique`** says that a stream is divided in one way only.  Where its first segment ends
  is settled by its first byte and by the silences, so there is no choice anywhere.
-/

namespace RfidLink

/-- A byte and the time at which it came. -/
structure Arrival where
  byte : UInt8
  time : Nat
deriving DecidableEq

/-- No length byte declares more than a frame may have. -/
lemma Frame.declaredSize_le (length : UInt8) : declaredSize length ≤ maxSize := by
  have := length.toNat_lt
  simp only [declaredSize, maxSize]
  omega

namespace Arrival

/--
  A byte came so long after another that it does not continue the same frame.  A clock that goes
  back makes nothing late.
-/
def Late (before after : Arrival) : Prop :=
  FrameCollector.interByteTimeout < after.time - before.time

/-- Each byte came soon enough after the one before it. -/
def InTime (arrivals : List Arrival) : Prop :=
  arrivals.IsChain fun before after => ¬ Late before after

/-- Bytes that all came at one time. -/
def together (now : Nat) (bytes : List UInt8) : List Arrival := bytes.map (Arrival.mk · now)

lemma inTime_together (now : Nat) (bytes : List UInt8) : InTime (together now bytes) := by
  refine List.Pairwise.isChain (List.pairwise_map.mpr (List.pairwise_of_forall fun _ _ => ?_))
  rw [Late, Nat.sub_self]
  exact Nat.not_lt_zero _

lemma together_append (now : Nat) (front back : List UInt8) :
    together now (front ++ back) = together now front ++ together now back := List.map_append

lemma map_byte_together (now : Nat) (bytes : List UInt8) :
    (together now bytes).map (·.byte) = bytes := by
  rw [together, List.map_map]
  exact List.map_id _

lemma time_of_mem_together {now : Nat} {bytes : List UInt8} {arrival : Arrival}
    (h : arrival ∈ together now bytes) : arrival.time = now := by
  obtain ⟨byte, -, rfl⟩ := List.mem_map.mp h
  rfl

/-- A byte comes too late for what is pending. -/
def LateFor (pending : List Arrival) (arrival : Arrival) : Prop :=
  ∃ last ∈ pending.getLast?, Late last arrival

lemma InTime.not_lateFor {pending later : List Arrival} {arrival : Arrival}
    (h : InTime (pending ++ arrival :: later)) : ¬ LateFor pending arrival := by
  rintro ⟨last, hlast, hsilence⟩
  exact (List.isChain_append.mp h).2.2 last hlast arrival rfl hsilence

/-- The size of the frame that the first byte announces. -/
def declaredSize : List Arrival → Nat
  | [] => 0
  | first :: _ => Frame.declaredSize first.byte

lemma declaredSize_append {pending : List Arrival} (h : pending ≠ []) (more : List Arrival) :
    declaredSize (pending ++ more) = declaredSize pending := by
  cases pending with
  | nil => exact absurd rfl h
  | cons first rest => rfl

lemma declaredSize_le (arrivals : List Arrival) : declaredSize arrivals ≤ Frame.maxSize := by
  cases arrivals with
  | nil => exact Nat.zero_le _
  | cons first rest => exact Frame.declaredSize_le first.byte

/-- A whole frame of an accepted size, without a silence in it. -/
structure IsFrame (minSize : Nat) (arrivals : List Arrival) : Prop where
  ne_nil : arrivals ≠ []
  declaredSize_eq : declaredSize arrivals = arrivals.length
  minSize_le : minSize ≤ arrivals.length
  le_maxSize : arrivals.length ≤ Frame.maxSize
  inTime : InTime arrivals

/-- Bytes that have the size that the first of them declares are a frame if they come together. -/
lemma isFrame_together {minSize : Nat} {length : UInt8} {rest : List UInt8}
    (hdeclared : Frame.declaredSize length = (length :: rest).length)
    (hmin : minSize ≤ (length :: rest).length) (now : Nat) :
    IsFrame minSize (together now (length :: rest)) := by
  have hlength : (together now (length :: rest)).length = (length :: rest).length :=
    List.length_map _
  refine ⟨List.cons_ne_nil _ _, ?_, ?_, ?_, inTime_together now _⟩
  · rw [hlength]
    exact hdeclared
  · rw [hlength]
    exact hmin
  · rw [hlength, ← hdeclared]
    exact Frame.declaredSize_le length

/-- The beginning of a frame of an accepted size, not the whole of it and without a silence. -/
structure IsBeginning (minSize : Nat) (arrivals : List Arrival) : Prop where
  ne_nil : arrivals ≠ []
  length_lt : arrivals.length < declaredSize arrivals
  minSize_le : minSize ≤ declaredSize arrivals
  inTime : InTime arrivals

lemma IsFrame.isBeginning {minSize : Nat} {pending later : List Arrival}
    (h : IsFrame minSize (pending ++ later)) (hpending : pending ≠ []) (hlater : later ≠ []) :
    IsBeginning minSize pending where
  ne_nil := hpending
  length_lt := by
    rw [← declaredSize_append hpending later, h.declaredSize_eq, List.length_append]
    exact Nat.lt_add_of_pos_right (List.length_pos_iff.mpr hlater)
  minSize_le := by
    rw [← declaredSize_append hpending later, h.declaredSize_eq]
    exact h.minSize_le
  inTime := (List.isChain_append.mp h.inTime).1

end Arrival

open Arrival (Late InTime LateFor declaredSize IsFrame IsBeginning)

/-! ## Dividing a stream -/

/-- A piece of a stream, by what becomes of it. -/
inductive Segment where
  /-- A whole frame. -/
  | frame (arrivals : List Arrival)
  /-- A length byte that announces too short a frame. -/
  | refused (arrival : Arrival)
  /-- The beginning of a frame that is followed by a silence. -/
  | stale (arrivals : List Arrival)
deriving DecidableEq

namespace Segment

def arrivals : Segment → List Arrival
  | frame arrivals | stale arrivals => arrivals
  | refused arrival => [arrival]

/-- The bytes of a frame. -/
def frame? : Segment → Option (List UInt8)
  | frame arrivals => some (arrivals.map (·.byte))
  | _ => none

/-- Everything but a frame is an error. -/
def isError : Segment → Bool
  | frame _ => false
  | refused _ | stale _ => true

/-- What it takes for a segment to stand in front of the rest of a stream. -/
def Fits (minSize : Nat) (rest : List Arrival) : Segment → Prop
  | frame arrivals => IsFrame minSize arrivals
  | refused arrival => Frame.declaredSize arrival.byte < minSize
  | stale arrivals => IsBeginning minSize arrivals ∧ ∃ next ∈ rest.head?, LateFor arrivals next

/--
  A stream consists of these segments, one behind the other, and of these arrivals behind them,
  which are the beginning of a frame or nothing at all.
-/
inductive Divide (minSize : Nat) : List Segment → (pending stream : List Arrival) → Prop
  | pending {pending : List Arrival} (hpending : pending = [] ∨ IsBeginning minSize pending) :
      Divide minSize [] pending pending
  | cons {segments : List Segment} {pending stream : List Arrival} {segment : Segment}
      (hfits : segment.Fits minSize stream) (hstream : Divide minSize segments pending stream) :
      Divide minSize (segment :: segments) pending (segment.arrivals ++ stream)

variable {minSize : Nat} {segments : List Segment} {pending stream : List Arrival}

/-- No byte is lost, and none is used twice. -/
lemma Divide.stream_eq (h : Divide minSize segments pending stream) :
    stream = segments.flatMap arrivals ++ pending := by
  induction h with
  | pending => rfl
  | cons _ _ ih => rw [List.flatMap_cons, List.append_assoc, ← ih]

/-! ### A stream is divided in one way only -/

/--
  A piece at the start of a stream ends where it has to: it is in time and no longer than its first
  byte announces, and it is that long, or a silence follows, or nothing.
-/
structure IsPiece (minSize : Nat) (piece rest : List Arrival) : Prop where
  ne_nil : piece ≠ []
  minSize_le : minSize ≤ declaredSize piece
  length_le : piece.length ≤ declaredSize piece
  inTime : InTime piece
  ends : piece.length < declaredSize piece → ∀ next ∈ rest.head?, LateFor piece next

lemma IsPiece.of_isFrame {arrivals rest : List Arrival} (h : IsFrame minSize arrivals) :
    IsPiece minSize arrivals rest where
  ne_nil := h.ne_nil
  minSize_le := h.declaredSize_eq ▸ h.minSize_le
  length_le := Nat.le_of_eq h.declaredSize_eq.symm
  inTime := h.inTime
  ends hshort := absurd h.declaredSize_eq (Nat.ne_of_gt hshort)

lemma IsPiece.of_isBeginning {arrivals rest : List Arrival} (h : IsBeginning minSize arrivals)
    (hrest : ∀ next ∈ rest.head?, LateFor arrivals next) : IsPiece minSize arrivals rest where
  ne_nil := h.ne_nil
  minSize_le := h.minSize_le
  length_le := Nat.le_of_lt h.length_lt
  inTime := h.inTime
  ends _ := hrest

/-- A longer piece would have a silence in it. -/
lemma IsPiece.eq_nil {piece more rest : List Arrival} (h : IsPiece minSize piece (more ++ rest))
    (hlonger : IsPiece minSize (piece ++ more) rest) : more = [] := by
  cases more with
  | nil => rfl
  | cons next more =>
      have hshort : piece.length < declaredSize piece := by
        have hlength := hlonger.length_le
        rw [Arrival.declaredSize_append h.ne_nil, List.length_append, List.length_cons] at hlength
        omega
      exact absurd (h.ends hshort next rfl) hlonger.inTime.not_lateFor

/-- A stream has only one piece at its start. -/
lemma IsPiece.unique {piece piece' rest rest' : List Arrival} (h : IsPiece minSize piece rest)
    (h' : IsPiece minSize piece' rest') (hsame : piece ++ rest = piece' ++ rest') :
    piece = piece' ∧ rest = rest' := by
  rcases List.append_eq_append_iff.mp hsame with ⟨more, rfl, rfl⟩ | ⟨more, rfl, rfl⟩
  · rw [h.eq_nil h', List.append_nil]
    exact ⟨rfl, rfl⟩
  · rw [h'.eq_nil h, List.append_nil]
    exact ⟨rfl, rfl⟩

lemma IsPiece.not_refused {piece rest : List Arrival} {arrival : Arrival}
    (h : IsPiece minSize piece rest) (hsame : piece ++ rest = arrival :: stream) :
    ¬ Frame.declaredSize arrival.byte < minSize := by
  obtain ⟨first, more, rfl⟩ := List.exists_cons_of_ne_nil h.ne_nil
  obtain ⟨rfl, -⟩ := List.cons.inj hsame
  exact Nat.not_lt.mpr h.minSize_le

lemma Fits.ne_nil {segment : Segment} (h : segment.Fits minSize stream) :
    segment.arrivals ≠ [] := by
  cases segment with
  | frame arrivals => exact IsFrame.ne_nil h
  | refused arrival => exact List.cons_ne_nil _ _
  | stale arrivals => exact h.1.ne_nil

lemma IsPiece.of_stale {arrivals rest : List Arrival} (h : (stale arrivals).Fits minSize rest) :
    IsPiece minSize arrivals rest := by
  obtain ⟨hbeginning, next, hnext, hlate⟩ := h
  refine .of_isBeginning hbeginning fun other hother => ?_
  cases hnext.symm.trans hother
  exact hlate

/-- **A stream has only one segment at its start.** -/
lemma Fits.unique {segment segment' : Segment} {rest rest' : List Arrival}
    (h : segment.Fits minSize rest) (h' : segment'.Fits minSize rest')
    (hsame : segment.arrivals ++ rest = segment'.arrivals ++ rest') :
    segment = segment' ∧ rest = rest' := by
  cases segment with
  | frame arrivals =>
      cases segment' with
      | frame arrivals' =>
          obtain ⟨rfl, rfl⟩ := (IsPiece.of_isFrame h).unique (.of_isFrame h') hsame
          exact ⟨rfl, rfl⟩
      | refused arrival => exact absurd h' ((IsPiece.of_isFrame h).not_refused hsame)
      | stale arrivals' =>
          obtain ⟨rfl, rfl⟩ := (IsPiece.of_isFrame h).unique (.of_stale h') hsame
          exact absurd (IsFrame.declaredSize_eq h) (Nat.ne_of_gt h'.1.length_lt)
  | refused arrival =>
      cases segment' with
      | frame arrivals => exact absurd h ((IsPiece.of_isFrame h').not_refused hsame.symm)
      | refused arrival' =>
          obtain ⟨rfl, rfl⟩ := List.cons.inj hsame
          exact ⟨rfl, rfl⟩
      | stale arrivals => exact absurd h ((IsPiece.of_stale h').not_refused hsame.symm)
  | stale arrivals =>
      cases segment' with
      | frame arrivals' =>
          obtain ⟨rfl, rfl⟩ := (IsPiece.of_stale h).unique (.of_isFrame h') hsame
          exact absurd (IsFrame.declaredSize_eq h') (Nat.ne_of_gt h.1.length_lt)
      | refused arrival => exact absurd h' ((IsPiece.of_stale h).not_refused hsame)
      | stale arrivals' =>
          obtain ⟨rfl, rfl⟩ := (IsPiece.of_stale h).unique (.of_stale h') hsame
          exact ⟨rfl, rfl⟩

/-- What is pending at the end of a stream does not start with a segment. -/
lemma Fits.not_isBeginning {segment : Segment} (h : segment.Fits minSize stream) :
    ¬ IsBeginning minSize (segment.arrivals ++ stream) := by
  intro hbeginning
  have hpiece : IsPiece minSize (segment.arrivals ++ stream) [] :=
    .of_isBeginning hbeginning nofun
  have hsame : segment.arrivals ++ stream = (segment.arrivals ++ stream) ++ [] :=
    (List.append_nil _).symm
  cases segment with
  | frame arrivals =>
      have hshort := hbeginning.length_lt
      rw [← ((IsPiece.of_isFrame h).unique hpiece hsame).1] at hshort
      exact absurd (IsFrame.declaredSize_eq h) (Nat.ne_of_gt hshort)
  | refused arrival => exact hpiece.not_refused hsame.symm h
  | stale arrivals =>
      obtain ⟨next, hnext, -⟩ := h.2
      rw [((IsPiece.of_stale h).unique hpiece hsame).2] at hnext
      cases hnext

/-- **A stream is divided in one way only.** -/
theorem Divide.unique {segments' : List Segment} {pending' : List Arrival}
    (h : Divide minSize segments pending stream) (h' : Divide minSize segments' pending' stream) :
    segments = segments' ∧ pending = pending' := by
  induction h generalizing segments' with
  | @pending pending hpending =>
      cases h' with
      | pending => exact ⟨rfl, rfl⟩
      | cons hfits =>
          rcases hpending with hnone | hbeginning
          · exact absurd (List.append_eq_nil_iff.mp hnone).1 hfits.ne_nil
          · exact absurd hbeginning hfits.not_isBeginning
  | @cons segments pending stream segment hfits hstream ih =>
      generalize hwhole : segment.arrivals ++ stream = whole at h'
      cases h' with
      | pending hpending =>
          subst hwhole
          rcases hpending with hnone | hbeginning
          · exact absurd (List.append_eq_nil_iff.mp hnone).1 hfits.ne_nil
          · exact absurd hbeginning hfits.not_isBeginning
      | cons hfits' hstream' =>
          obtain ⟨rfl, rfl⟩ := hfits.unique hfits' hwhole
          obtain ⟨rfl, rfl⟩ := ih hstream'
          exact ⟨rfl, rfl⟩

end Segment

end RfidLink
