import RfidLink.Proofs.Completion
import RfidLink.Proofs.Gathering

/-!
# Recovery after a silence

A collector may be anywhere in the middle of a frame: the sender was switched off, or a length byte
was wrong.  There is no call that tells it so.  Silence is what brings it back.

* `FrameCollector.Arises` lists how a collector can come to be, and with it the time of the last
  byte that was pushed.  `Arises.noted` is the induction: a collector in the middle of a frame has
  noted that time.
* `pushAll_of_late` says that bytes after a silence find what was pending given up.
* **`recovers_after_silence`**: the first frame after a silence is taken as it is, whatever came
  before it.
-/

namespace RfidLink

open Arrival (IsFrame)

namespace FrameCollector

/-- How collectors come to be, and when the last byte was pushed to them, if any was. -/
inductive Arises (minSize : Nat) : Option Nat → FrameCollector → Prop
  | fresh : Arises minSize none (withMinSize minSize)
  | push {last : Option Nat} {c : FrameCollector} (h : Arises minSize last c) (byte : UInt8)
      (now : Nat) : Arises minSize (some now) (c.push byte now).2
  /-- Bytes given together are pushed as far as they are used. -/
  | feed {last : Option Nat} {c : FrameCollector} (h : Arises minSize last c)
      (bytes : List UInt8) (now : Nat) :
      Arises minSize (if (c.pushAll bytes now).1 = 0 then last else some now)
        (c.pushAll bytes now).2
  | reset {last : Option Nat} {c : FrameCollector} (h : Arises minSize last c) :
      Arises minSize last c.reset

/-- A collector in the middle of a frame has noted when the last byte came. -/
structure Noted (minSize : Nat) (last : Option Nat) (c : FrameCollector) : Prop where
  minSize_eq : c.minSize = minSize
  receiving {expected : Nat} {received : List UInt8}
    (h : c.progress = .receiving expected received) : received ≠ [] ∧ last = some c.lastByteAt

variable {minSize now : Nat} {last : Option Nat} {c : FrameCollector}

/-- A collector outside of a frame has nothing to note. -/
lemma noted_of_awaiting (hminSize : c.minSize = minSize) (hprogress : c.progress = .awaitingLength) :
    Noted minSize last c where
  minSize_eq := hminSize
  receiving h := by
    rw [hprogress] at h
    cases h

/-- A byte in the middle of a frame was taken, and another one is lacking. -/
lemma Pushed.receiving {byte : UInt8} {before after : Progress}
    {answer : Except FramingError Bool} (h : Pushed minSize byte before answer after)
    {expected : Nat} {received : List UInt8} (hafter : after = .receiving expected received) :
    answer = .ok false ∧ received ≠ [] := by
  cases h with
  | held | refused | overflow | completed => cases hafter
  | begun =>
      cases hafter
      exact ⟨rfl, List.cons_ne_nil _ _⟩
  | joined =>
      cases hafter
      exact ⟨rfl, List.append_ne_nil_of_right_ne_nil _ (List.cons_ne_nil _ _)⟩

lemma Noted.push (h : Noted minSize last c) (byte : UInt8) (now : Nat) :
    Noted minSize (some now) (c.push byte now).2 := by
  obtain ⟨hpushed, hminSize, htime⟩ := push_pushed byte now c
  refine ⟨hminSize.trans h.minSize_eq, fun hprogress => ?_⟩
  obtain ⟨hanswer, hreceived⟩ := hpushed.receiving hprogress
  have hmore : (c.push byte now).1 ≠ .ok true := by
    rw [hanswer]
    nofun
  exact ⟨hreceived, congrArg some (htime hmore).symm⟩

/-- The induction is on the bytes; behind the first of them the noted time is that of the call. -/
lemma Noted.pushAll (h : Noted minSize last c) (bytes : List UInt8) (now : Nat) :
    Noted minSize (if (c.pushAll bytes now).1 = 0 then last else some now)
      (c.pushAll bytes now).2 := by
  induction bytes generalizing last c with
  | nil => exact h
  | cons byte rest ih =>
      have hpushed := h.push byte now
      rw [FrameCollector.pushAll]
      split
      · exact h
      · split
        · rename_i hpush
          rw [hpush] at hpushed
          exact hpushed
        · rename_i hpush
          rw [hpush] at hpushed
          simpa using ih hpushed

/-- **All collectors.** -/
theorem Arises.noted (h : Arises minSize last c) : Noted minSize last c := by
  induction h with
  | fresh => exact noted_of_awaiting rfl rfl
  | push _ byte now ih => exact ih.push byte now
  | feed _ bytes now ih => exact ih.pushAll bytes now
  | reset _ ih => exact noted_of_awaiting ih.minSize_eq rfl

/-! ## A frame after a silence -/

/-- Bytes that are late find what was received given up, with one error more. -/
lemma pushAll_of_late {expected : Nat} {received : List UInt8}
    (hprogress : c.progress = .receiving expected received)
    (hlate : interByteTimeout < now - c.lastByteAt) (byte : UInt8) (rest : List UInt8) :
    c.pushAll (byte :: rest) now = c.countError.reset.pushAll (byte :: rest) now := by
  have hopen : c.isComplete = false := by rw [isComplete, hprogress]
  have hreset : c.countError.reset.isComplete = false := rfl
  simp only [pushAll, hopen, hreset, Bool.false_eq_true, if_false, push_of_late hprogress hlate]

/-- A frame completes at a collector that awaits its length byte. -/
lemma pushAll_of_awaiting {length : UInt8} {rest : List UInt8} (hminSize : c.minSize = minSize)
    (hprogress : c.progress = .awaitingLength)
    (hdeclared : Frame.declaredSize length = (length :: rest).length)
    (hmin : max minSize 2 ≤ (length :: rest).length) (now : Nat) :
    ∃ c', c.pushAll (length :: rest) now = ((length :: rest).length, c') ∧
      c'.frame? = some (length :: rest) ∧ c'.errors = c.errors := by
  obtain ⟨hmin, hlong⟩ := Nat.max_le.mp hmin
  have hframe : IsFrame minSize ([] ++ Arrival.together now (length :: rest)) :=
    Arrival.isFrame_together hdeclared hmin now
  have hmore : 1 < ([] ++ Arrival.together now (length :: rest)).length := by
    rw [List.nil_append, Arrival.together, List.length_map]
    exact hlong
  exact (holds_nil hminSize hprogress).pushAll_frame (List.cons_ne_nil _ _) hframe hmore

/--
  **A silence sets a collector right.**  Take any collector that holds no complete frame, whatever
  was pushed and fed to it before, and however often it was reset.  Take a frame of at least two
  bytes that is not too short for it, and let it come at one time.  If some bytes are pending, the
  last of them came more than `interByteTimeout` before.

  Then the frame is used up, to the last byte and no further, and the collector holds it as it came.
  Bytes that were pending count as one error; if there were none, nothing is counted.
-/
theorem recovers_after_silence (h : Arises minSize last c) (hopen : c.isComplete = false)
    {length : UInt8} {rest : List UInt8}
    (hdeclared : Frame.declaredSize length = (length :: rest).length)
    (hmin : max minSize 2 ≤ (length :: rest).length)
    (hsilence : c.received ≠ [] → ∀ time ∈ last, time + interByteTimeout < now) :
    ∃ c', c.pushAll (length :: rest) now = ((length :: rest).length, c') ∧
      c'.frame? = some (length :: rest) ∧
      c'.errors = c.errors + if c.received = [] then 0 else 1 := by
  have hminSize := h.noted.minSize_eq
  cases hprogress : c.progress with
  | awaitingLength =>
      have hnone : c.received = [] := by rw [received, hprogress]
      rw [if_pos hnone, UInt32.add_zero]
      exact pushAll_of_awaiting hminSize hprogress hdeclared hmin now
  | receiving expected pending =>
      obtain ⟨hpending, hlast⟩ := h.noted.receiving hprogress
      have hsome : c.received ≠ [] := by rwa [received, hprogress]
      have hlate : interByteTimeout < now - c.lastByteAt := by
        have := hsilence hsome c.lastByteAt hlast
        omega
      rw [if_neg hsome, pushAll_of_late hprogress hlate]
      have hreset : c.countError.reset.minSize = minSize := hminSize
      exact pushAll_of_awaiting hreset rfl hdeclared hmin now
  | complete frame =>
      rw [isComplete, hprogress] at hopen
      cases hopen

/-- A refused byte, and the beginning of a frame whose length byte was wrong. -/
def wrongLength : FrameCollector := ((withMinSize 5).pushAll [2, 9, 0, 1] 30).2

theorem recovers_after_silence_wrongLength :
    Arises 5 (some 30) wrongLength ∧ wrongLength.isComplete = false ∧
    Frame.declaredSize 4 = [4, 0, 1, 2, 3].length ∧ max 5 2 ≤ [4, 0, 1, 2, 3].length ∧
    30 + interByteTimeout < 131 ∧
    ∃ c', wrongLength.pushAll [4, 0, 1, 2, 3] 131 = (5, c') ∧
      c'.frame? = some [4, 0, 1, 2, 3] ∧ c'.errors = 2 := by
  have harises : Arises 5 (some 30) wrongLength := .feed .fresh [2, 9, 0, 1] 30
  refine ⟨harises, rfl, rfl, by decide, by decide, ?_⟩
  refine recovers_after_silence harises rfl rfl (by decide) fun _ time htime => ?_
  cases htime
  decide

end FrameCollector

end RfidLink
