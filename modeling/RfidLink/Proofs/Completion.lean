import RfidLink.Proofs.Holding

/-!
# Length bytes and the frames they announce

A length byte that is accepted announces a frame, and with the last byte of it the frame ought to be
complete.  A collector looks whether it is when it appends a byte.  A length byte of zero announces
nothing but itself: it is a whole frame already, and nothing looks at it.  What comes behind it is
appended, one byte after the other, until there is no room.

Such a byte is accepted by a collector for which a frame of a single byte is not too short.

* `Pushed` lists what can become of a byte, and `push_pushed` says that there is nothing else.
* `Progress.Possible` is what every call keeps: a frame that has begun lacks a byte, or it is one
  that a length byte of zero has announced.
* `progress_after_pushes` is the run over bytes that are in time.
* **`completes_unless_bare`** says that this is the only exception: every other frame completes with
  the last of its bytes, and only behind a length byte of zero does a collector hold more than was
  announced, or run out of room.
* `bare_lengthByte` shows what a collector with a minimum of one makes of a length byte of zero.
-/

namespace RfidLink

open Arrival (InTime)

namespace FrameCollector

/-- What may be done to a collector from outside. -/
inductive Call where
  | push (arrival : Arrival)
  | reset

def Call.apply (c : FrameCollector) : Call → FrameCollector
  | .push arrival => (c.push arrival.byte arrival.time).2
  | .reset => c.reset

/-- A collector after some calls. -/
def after (calls : List Call) (c : FrameCollector) : FrameCollector := calls.foldl Call.apply c

/-- What calls make of a fresh collector. -/
def reached (minSize : Nat) (calls : List Call) : FrameCollector :=
  after calls (withMinSize minSize)

/-! ## What becomes of a byte -/

variable {c c' : FrameCollector} {minSize expected now : Nat} {byte : UInt8}
  {received : List UInt8}

/-- The progress before a byte, the answer to it, and the progress afterwards. -/
inductive Pushed (minSize : Nat) (byte : UInt8) :
    Progress → Except FramingError Bool → Progress → Prop
  | held {frame : List UInt8} : Pushed minSize byte (.complete frame) (.ok true) (.complete frame)
  /-- A length byte announces too short a frame, perhaps after one that was given up. -/
  | refused {before : Progress} (hshort : Frame.declaredSize byte < minSize) :
      Pushed minSize byte before (.error (.lengthOutOfRange byte)) .awaitingLength
  | begun {before : Progress} (haccepted : minSize ≤ Frame.declaredSize byte) :
      Pushed minSize byte before (.ok false) (.receiving (Frame.declaredSize byte) [byte])
  | overflow {expected : Nat} {received : List UInt8} (hfull : Frame.maxSize ≤ received.length) :
      Pushed minSize byte (.receiving expected received) (.error .overflow) .awaitingLength
  | completed {expected : Nat} {received : List UInt8} (hlast : received.length + 1 = expected) :
      Pushed minSize byte (.receiving expected received) (.ok true)
        (.complete (received ++ [byte]))
  | joined {expected : Nat} {received : List UInt8} (hroom : received.length < Frame.maxSize)
      (hmore : received.length + 1 ≠ expected) :
      Pushed minSize byte (.receiving expected received) (.ok false)
        (.receiving expected (received ++ [byte]))

lemma acceptLength_pushed (hprogress : c.progress = .awaitingLength) (byte : UInt8)
    (before : Progress) :
    Pushed c.minSize byte before (c.acceptLength byte).1 (c.acceptLength byte).2.progress ∧
      (c.acceptLength byte).2.minSize = c.minSize ∧
      (c.acceptLength byte).2.lastByteAt = c.lastByteAt := by
  have hlong := Frame.declaredSize_le byte
  by_cases hshort : Frame.declaredSize byte < c.minSize
  · rw [acceptLength, if_pos (.inl hshort)]
    refine ⟨?_, rfl, rfl⟩
    simp only [countError, hprogress]
    exact .refused hshort
  · rw [acceptLength, if_neg (by omega)]
    exact ⟨.begun (Nat.le_of_not_lt hshort), rfl, rfl⟩

lemma append_pushed (minSize : Nat) (byte : UInt8) (expected : Nat) (received : List UInt8)
    (c : FrameCollector) :
    Pushed minSize byte (.receiving expected received) (c.append byte expected received).1
        (c.append byte expected received).2.progress ∧
      (c.append byte expected received).2.minSize = c.minSize ∧
      (c.append byte expected received).2.lastByteAt = c.lastByteAt := by
  have hlength : (received ++ [byte]).length = received.length + 1 := by
    rw [List.length_append, List.length_singleton]
  by_cases hfull : Frame.maxSize ≤ received.length
  · rw [append, if_pos hfull]
    exact ⟨.overflow hfull, rfl, rfl⟩
  · by_cases hlast : received.length + 1 = expected
    · simp only [append, if_neg hfull, hlength, if_pos hlast, and_self, and_true]
      exact .completed hlast
    · simp only [append, if_neg hfull, hlength, if_neg hlast, and_self, and_true]
      exact .joined (Nat.lt_of_not_le hfull) hlast

/-- **One byte.**  The time of the byte is noted unless a frame is held. -/
theorem push_pushed (byte : UInt8) (now : Nat) (c : FrameCollector) :
    Pushed c.minSize byte c.progress (c.push byte now).1 (c.push byte now).2.progress ∧
      (c.push byte now).2.minSize = c.minSize ∧
      ((c.push byte now).1 ≠ .ok true → (c.push byte now).2.lastByteAt = now) := by
  rcases push_cases byte now c with
    ⟨⟨frame, hprogress⟩, hpush⟩ | ⟨awaiting, hprogress, hminSize, htime, hpush⟩ |
      ⟨expected, received, hprogress, -, hpush⟩
  · rw [hpush, hprogress]
    exact ⟨.held, rfl, fun hanswer => absurd rfl hanswer⟩
  · obtain ⟨hpushed, hsame, hnoted⟩ := acceptLength_pushed hprogress byte c.progress
    rw [hpush]
    rw [hminSize] at hpushed hsame
    exact ⟨hpushed, hsame, fun _ => hnoted.trans htime⟩
  · obtain ⟨hpushed, hsame, hnoted⟩ :=
      append_pushed c.minSize byte expected received { c with lastByteAt := now }
    rw [hpush, hprogress]
    exact ⟨hpushed, hsame, fun _ => hnoted⟩

/-- A byte that is said to complete a frame leaves it with the collector. -/
lemma frame?_of_completed (h : c.push byte now = (.ok true, c')) :
    c'.frame? = some c'.received := by
  obtain ⟨hpushed, -⟩ := push_pushed byte now c
  rw [h] at hpushed
  rw [frame?, FrameCollector.received]
  generalize c.progress = before, c'.progress = after at hpushed ⊢
  cases hpushed with
  | held | completed => rfl

/-! ## What a collector can hold -/

/--
  A frame that has begun lacks a byte.  Or its length byte is zero: then it never lacked one, and it
  has been growing since.
-/
def Progress.Possible (minSize : Nat) : Progress → Prop
  | .awaitingLength => True
  | .receiving expected received =>
      ∃ length more, received = length :: more ∧ expected = Frame.declaredSize length ∧
        minSize ≤ expected ∧
        (received.length < expected ∨ length = 0 ∧ received.length ≤ Frame.maxSize)
  | .complete frame =>
      ∃ length more, frame = length :: more ∧ frame.length = Frame.declaredSize length ∧
        minSize ≤ frame.length ∧ length ≠ 0

/-- A length byte that announces more than itself is not zero. -/
lemma one_lt_declaredSize {length : UInt8} : 1 < Frame.declaredSize length ↔ length ≠ 0 := by
  rw [Frame.declaredSize, Nat.lt_add_left_iff_pos, Nat.pos_iff_ne_zero, ne_eq, ne_eq,
    ← UInt8.toNat_inj]
  rfl

lemma Pushed.possible {before after : Progress} {answer : Except FramingError Bool}
    (h : before.Possible minSize) (hpushed : Pushed minSize byte before answer after) :
    after.Possible minSize := by
  cases hpushed with
  | held => exact h
  | refused _
  | overflow _ => exact True.intro
  | begun haccepted =>
      refine ⟨byte, [], rfl, rfl, haccepted, ?_⟩
      by_cases hzero : byte = 0
      · exact .inr ⟨hzero, Nat.succ_le_of_lt (by decide : 0 < Frame.maxSize)⟩
      · exact .inl (one_lt_declaredSize.mpr hzero)
  | completed hlast =>
      obtain ⟨length, more, rfl, rfl, hmin, -⟩ := h
      have hlength : (length :: more ++ [byte]).length = Frame.declaredSize length := by
        rw [List.length_append, List.length_singleton, hlast]
      refine ⟨length, more ++ [byte], rfl, hlength, hlength ▸ hmin, one_lt_declaredSize.mp ?_⟩
      rw [← hlast, List.length_cons]
      omega
  | joined hroom hmore =>
      obtain ⟨length, more, rfl, rfl, hmin, hopen⟩ := h
      refine ⟨length, more ++ [byte], rfl, rfl, hmin, ?_⟩
      rw [List.length_append, List.length_singleton]
      rcases hopen with hopen | ⟨hzero, -⟩
      · exact .inl (by omega)
      · exact .inr ⟨hzero, hroom⟩

/-- **All calls.** -/
theorem possible_reached (minSize : Nat) (calls : List Call) :
    (reached minSize calls).progress.Possible minSize ∧
      (reached minSize calls).minSize = minSize := by
  -- the calls come behind any that have been made
  suffices h : ∀ c : FrameCollector, c.progress.Possible minSize → c.minSize = minSize →
      (after calls c).progress.Possible minSize ∧ (after calls c).minSize = minSize from
    h (withMinSize minSize) True.intro rfl
  induction calls with
  | nil => exact fun c hpossible hminSize => ⟨hpossible, hminSize⟩
  | cons call rest ih =>
      intro c hpossible hminSize
      cases call with
      | push arrival =>
          obtain ⟨hpushed, hsame, -⟩ := push_pushed arrival.byte arrival.time c
          rw [hminSize] at hpushed hsame
          exact ih _ (hpushed.possible hpossible) hsame
      | reset => exact ih c.reset True.intro hminSize

/-! ## The bytes behind a length byte -/

/--
  Bytes in time join what was received, and the one that makes it as long as announced completes the
  frame, if there is one.
-/
lemma progress_after_pushes {last : Arrival} {later : List Arrival}
    (hprogress : c.progress = .receiving expected received) (htime : c.lastByteAt = last.time)
    (hintime : InTime (last :: later)) (hroom : received.length + later.length ≤ Frame.maxSize)
    (hopen : received.length + later.length ≤ expected ∨ expected ≤ received.length) :
    (after (later.map .push) c).progress =
      if later ≠ [] ∧ received.length + later.length = expected then
        .complete (received ++ later.map (·.byte))
      else .receiving expected (received ++ later.map (·.byte)) := by
  induction later generalizing c last received with
  | nil =>
      rw [if_neg (fun h => h.1 rfl)]
      simp only [List.map_nil, List.append_nil]
      exact hprogress
  | cons arrival rest ih =>
      obtain ⟨hsoon, hrest⟩ := List.isChain_cons_cons.mp hintime
      rw [List.length_cons] at hroom hopen
      have hlength : (received ++ [arrival.byte]).length = received.length + 1 := by
        rw [List.length_append, List.length_singleton]
      have hfull : ¬ Frame.maxSize ≤ received.length := by omega
      have hpush : c.push arrival.byte arrival.time =
          append arrival.byte expected received { c with lastByteAt := arrival.time } := by
        refine push_of_receiving hprogress ?_
        rw [htime]
        exact Nat.le_of_not_lt hsoon
      have hbytes : received ++ (arrival :: rest).map (·.byte) =
          received ++ [arrival.byte] ++ rest.map (·.byte) := by
        rw [List.append_assoc]
        rfl
      have hstep : after ((arrival :: rest).map .push) c =
          after (rest.map .push) (c.push arrival.byte arrival.time).2 := rfl
      rw [hstep, hbytes, hpush, List.length_cons]
      by_cases hlast : received.length + 1 = expected
      · have hnone : rest = [] := List.eq_nil_of_length_eq_zero (by omega)
        subst hnone
        simp only [append, if_neg hfull, hlength, if_pos hlast]
        rw [if_pos ⟨List.cons_ne_nil _ _, hlast⟩]
        simp only [List.map_nil, List.append_nil]
        rfl
      · simp only [append, if_neg hfull, hlength, if_neg hlast]
        refine (ih rfl rfl hrest ?_ ?_).trans ?_
        · rw [hlength]
          omega
        · rw [hlength]
          omega
        · have hends : (rest ≠ [] ∧ (received ++ [arrival.byte]).length + rest.length = expected) ↔
              (arrival :: rest ≠ [] ∧ received.length + (rest.length + 1) = expected) := by
            rw [hlength, Nat.add_assoc, Nat.add_comm 1]
            refine ⟨fun h => ⟨List.cons_ne_nil _ _, h.2⟩, fun h => ⟨?_, h.2⟩⟩
            rintro rfl
            exact hlast h.2
          simp only [hends]

/-- A length byte has been accepted if it is all that was received afterwards. -/
lemma progress_of_accepted (hpossible : c.progress.Possible minSize)
    (hpush : c.push byte now = (.ok false, c')) (hreceived : c'.received = [byte]) :
    c'.progress = .receiving (Frame.declaredSize byte) [byte] ∧
      c.minSize ≤ Frame.declaredSize byte ∧ c'.lastByteAt = now := by
  obtain ⟨hpushed, -, htime⟩ := push_pushed byte now c
  rw [hpush] at hpushed htime
  rw [← and_assoc]
  refine ⟨?_, htime nofun⟩
  rw [FrameCollector.received] at hreceived
  generalize c.progress = before at hpossible hpushed
  generalize c'.progress = progress at hpushed hreceived ⊢
  cases hpushed with
  | begun haccepted => exact ⟨rfl, haccepted⟩
  | @joined expected received hroom hmore =>
      obtain ⟨length, more, rfl, -⟩ := hpossible
      cases more with
      | nil => cases hreceived
      | cons next more => cases hreceived

/-- There is no room only behind a length byte of zero, and only for a byte that is in time. -/
lemma push_eq_overflow_iff (hpossible : c.progress.Possible minSize) :
    (c.push byte now).1 = .error .overflow ↔
      minSize ≤ 1 ∧ (∃ more, c.progress = .receiving 1 (0 :: more) ∧ more.length = 255) ∧
        now - c.lastByteAt ≤ interByteTimeout := by
  constructor
  · intro h
    rcases push_cases byte now c with
      ⟨-, hpush⟩ | ⟨awaiting, hawaiting, -, -, hpush⟩ |
        ⟨expected, received, hprogress, hsoon, hpush⟩
    · rw [hpush] at h
      cases h
    · obtain ⟨hpushed, -⟩ := acceptLength_pushed hawaiting byte .awaitingLength
      rw [← hpush, h] at hpushed
      cases hpushed
    · have hfull : Frame.maxSize ≤ received.length := by
        obtain ⟨hpushed, -⟩ :=
          append_pushed minSize byte expected received { c with lastByteAt := now }
        rw [← hpush, h] at hpushed
        generalize (c.push byte now).2.progress = progress at hpushed
        cases hpushed with
        | overflow hfull => exact hfull
      rw [hprogress] at hpossible ⊢
      obtain ⟨length, more, rfl, rfl, hmin, hopen | ⟨rfl, hlength⟩⟩ := hpossible
      · have hlong := Frame.declaredSize_le length
        omega
      · refine ⟨hmin, ⟨more, rfl, ?_⟩, hsoon⟩
        rw [List.length_cons, Frame.maxSize] at hfull hlength
        omega
  · rintro ⟨-, ⟨more, hprogress, hlength⟩, hsoon⟩
    have hfull : Frame.maxSize ≤ (0 :: more : List UInt8).length := by
      rw [List.length_cons, hlength]
      exact Nat.le_refl _
    rw [push_of_receiving hprogress hsoon, append, if_pos hfull]

/--
  **Every frame but that of a length byte of zero completes.**  Take a collector with any smallest
  size, after any pushes and resets.

  * There is no room for a byte only where a length byte of zero has been accepted, 255 bytes have
    come behind it, and another one is in time.
  * A collector holds no more bytes than it expects, except behind such a length byte.
  * Take any length byte that is accepted, and bytes in time behind it.  If it is not zero, the
    frame completes with exactly as many as it announces, and no earlier.  If it is zero, the
    smallest size is zero or one, and the frame is never complete.
-/
theorem completes_unless_bare (minSize : Nat) (calls : List Call) :
    (∀ arrival : Arrival, ((reached minSize calls).push arrival.byte arrival.time).1 =
        .error .overflow ↔
      minSize ≤ 1 ∧
        (∃ more, (reached minSize calls).progress = .receiving 1 (0 :: more) ∧ more.length = 255) ∧
        arrival.time - (reached minSize calls).lastByteAt ≤ interByteTimeout) ∧
    ((reached minSize calls).received.length ≤ (reached minSize calls).expectedSize ∨
      minSize ≤ 1 ∧ ∃ more, (reached minSize calls).progress = .receiving 1 (0 :: more) ∧
        more ≠ [] ∧ more.length ≤ 255) ∧
    ∀ (arrival : Arrival) (c : FrameCollector) (later : List Arrival),
      (reached minSize calls).push arrival.byte arrival.time = (.ok false, c) →
      c.received = [arrival.byte] → InTime (arrival :: later) →
      (arrival.byte ≠ 0 → later.length ≤ arrival.byte.toNat →
        (after (later.map .push) c).progress =
          if later.length = arrival.byte.toNat then .complete ((arrival :: later).map (·.byte))
          else .receiving (arrival.byte.toNat + 1) ((arrival :: later).map (·.byte))) ∧
      (arrival.byte = 0 → minSize ≤ 1 ∧ (later.length ≤ 255 →
        (after (later.map .push) c).progress =
          .receiving 1 ((arrival :: later).map (·.byte)))) := by
  obtain ⟨hpossible, hminSize⟩ := possible_reached minSize calls
  refine ⟨fun arrival => push_eq_overflow_iff hpossible, ?_, ?_⟩
  · rw [FrameCollector.received, expectedSize]
    cases hprogress : (reached minSize calls).progress with
    | awaitingLength => exact .inl (Nat.le_refl 0)
    | complete frame => exact .inl (Nat.le_refl _)
    | receiving expected received =>
        rw [hprogress] at hpossible
        obtain ⟨length, more, rfl, rfl, hmin, hopen | ⟨rfl, hlength⟩⟩ := hpossible
        · exact .inl (Nat.le_of_lt hopen)
        · cases more with
          | nil => exact .inl (Nat.le_refl 1)
          | cons next more =>
              exact .inr ⟨hmin, next :: more, rfl, List.cons_ne_nil _ _,
                Nat.le_of_succ_le_succ hlength⟩
  · intro arrival c later hpush hreceived hintime
    obtain ⟨hprogress, haccepted, htime⟩ := progress_of_accepted hpossible hpush hreceived
    have hone : [arrival.byte].length = 1 := rfl
    constructor
    · intro hnonzero hlength
      have hlong := Frame.declaredSize_le arrival.byte
      have hmore := one_lt_declaredSize.mpr hnonzero
      have hsize : Frame.declaredSize arrival.byte = arrival.byte.toNat + 1 := rfl
      rw [progress_after_pushes hprogress htime hintime (by omega) (.inl (by omega)), hsize]
      have hends : (later ≠ [] ∧ [arrival.byte].length + later.length = arrival.byte.toNat + 1) ↔
          later.length = arrival.byte.toNat := by
        rw [← List.length_pos_iff]
        omega
      simp only [hends]
      rfl
    · intro hzero
      have hsize : Frame.declaredSize arrival.byte = 1 := by rw [hzero]; rfl
      rw [hminSize, hsize] at haccepted
      refine ⟨haccepted, fun hlength => ?_⟩
      have hroom : [arrival.byte].length + later.length ≤ Frame.maxSize := by
        rw [hone, Frame.maxSize]
        omega
      rw [hsize] at hprogress
      rw [progress_after_pushes hprogress htime hintime hroom (.inr (Nat.le_refl 1)), if_neg]
      · rfl
      · rintro ⟨hlater, hsum⟩
        rw [← List.length_pos_iff] at hlater
        omega

/--
  With a smallest size of one, a length byte of zero is accepted as a frame of a single byte.  It is
  not complete, with the next byte the collector holds more than it expects, and behind 255 more
  there is no room.
-/
theorem bare_lengthByte :
    ((withMinSize 1).push 0 0).1 = .ok false ∧
    (reached 1 [.push ⟨0, 0⟩]).isComplete = false ∧
    (reached 1 [.push ⟨0, 0⟩]).received.length = (reached 1 [.push ⟨0, 0⟩]).expectedSize ∧
    (reached 1 [.push ⟨0, 0⟩, .push ⟨0, 0⟩]).expectedSize <
      (reached 1 [.push ⟨0, 0⟩, .push ⟨0, 0⟩]).received.length ∧
    ((reached 1 (.replicate 256 (.push ⟨0, 0⟩))).push 0 0).1 = .error .overflow := by
  decide +kernel

end FrameCollector

end RfidLink
