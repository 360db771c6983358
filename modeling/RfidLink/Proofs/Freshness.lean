import RfidLink.Proofs.Asking
import RfidLink.Proofs.Losses

/-!
# How old an answer may be

An answer that comes too late must not be taken for the answer to the next request of its kind.
When somebody asks, late answers may be waiting in three places: among the answers that were kept,
in the inbound ring, and, the first part of one, in the collector.

* `Station.waitUntil_ok` is the wait, by induction on its turns: what it gives was among the kept
  answers at some point of it.
* **`answer_read_since_request`** is the whole call.  Its answer came in a frame that was read after
  the request was queued, and so it was not among the kept ones before.  The frame is a block
  of what was in hand when the call was made and what has arrived since.
* `stale_answer_given` is a late answer that was waiting in the ring.
-/

namespace RfidLink

variable {ε : Type} {board : Board ε}

namespace Station

variable {request : Request} {answer : Answer} {s t : Station ε}

/-- What a poll gives was kept while it processed what had been received. -/
lemma look_some {seen : UInt32} (h : s.look board request seen = (some answer, t)) :
    answer ∈ (s.process board).2.router.answers ∧ Answer.isFor request answer = true ∧
      (s.process board).2.Moves board t := by
  simp only [look] at h
  split at h
  · cases h
  · obtain ⟨htaken, rfl⟩ := Prod.mk.inj h
    obtain ⟨hmem, hfor⟩ := Answer.mem_of_take htaken
    exact ⟨hmem, hfor, moves_takeAnswer request _⟩

/-- What a waiting call gives was among the kept answers at some point of it. -/
lemma waitUntil_ok {deadline pause turns : Nat} {seen : UInt32}
    (h : s.waitUntil board request deadline pause turns seen = (.ok answer, t)) :
    ∃ u, s.Moves board u ∧ answer ∈ u.router.answers ∧ Answer.isFor request answer = true ∧
      u.Moves board t := by
  induction turns generalizing seen s with
  | zero => cases h
  | succ turns ih =>
      rw [waitUntil] at h
      rcases hlook : s.look board request seen with ⟨_ | found, looked⟩
      · -- no answer yet: the call gives up, or waits and looks again
        simp only [hlook] at h
        split at h
        · cases h
        · obtain ⟨u, hbefore, hmem, hfor, hbehind⟩ := ih h
          have hlooked : s.Moves board (s.look board request seen).2 := moves_look request seen s
          rw [hlook] at hlooked
          exact ⟨u, (hlooked.tail (.wait looked pause)).trans hbefore, hmem, hfor, hbehind⟩
      · simp only [hlook] at h
        cases h
        obtain ⟨hmem, hfor, hbehind⟩ := look_some hlook
        exact ⟨(s.process board).2, moves_process s, hmem, hfor, hbehind⟩

/-- A call that succeeds has queued its request, and has kept the answer at some point since. -/
lemma ask_ok {address : UInt8} {command : Command} {timeoutMs : UInt32}
    (h : s.ask board address command timeoutMs = (.ok answer, t)) :
    let request : Request := { address, command := command.code }
    ∃ size queued u, (s.expecting request).sendTo board address command = (.ok size, queued) ∧
      queued.Moves board u ∧ answer ∈ u.router.answers ∧ Answer.isFor request answer = true ∧
      u.Moves board t := by
  intro request
  obtain ⟨hanswer, hend⟩ := Prod.mk.inj h
  change ((s.expecting request).sendAndWait board address command timeoutMs).1 = _ at hanswer
  change (((s.expecting request).sendAndWait board address command timeoutMs).2.onRouter
    fun r => { r with awaiting := none }) = t at hend
  rw [sendAndWait] at hanswer hend
  rcases hsent : (s.expecting request).sendTo board address command with ⟨_ | size, queued⟩
  · rw [hsent] at hanswer
    cases hanswer
  · rw [hsent] at hanswer hend
    obtain ⟨u, hbefore, hmem, hfor, hbehind⟩ := waitUntil_ok (Prod.ext hanswer rfl)
    refine ⟨size, queued, u, rfl, hbefore, hmem, hfor, ?_⟩
    rw [← hend]
    exact hbehind.tail (.forget _ _ none fun _ ha => ha)

/-- When a request has been queued no answer to it is kept, and all received bytes are there. -/
lemma queued_fresh {address : UInt8} {command : Command} {size : Nat}
    (h : (s.expecting request).sendTo board address command = (.ok size, t)) :
    (∀ a ∈ t.router.answers, Answer.isFor request a = false) ∧ t.unread = s.unread := by
  obtain ⟨hrouter, hinbound⟩ := sendTo_ok h
  constructor
  · intro a ha
    rw [hrouter] at ha
    simpa using (List.mem_filter.mp ha).2
  · exact unread_congr (s := s.expecting request) (congrArg Router.receiving hrouter) hinbound

end Station

/--
  **How old an answer may be.**  Whatever happened before, and whatever callbacks do meanwhile: if a
  call gives an answer, it was read from a frame after the request was queued.  The frame is a
  block of the bytes that were in hand when the call was made, or of those that have arrived since,
  or it begins with the last of the former.  If nothing was in hand, all of it has arrived since.
-/
theorem answer_read_since_request {ledger : Ledger board} (hboard : ledger.Nests board)
    {s t : Station ε} {address : UInt8} {command : Command} {timeoutMs : UInt32} {answer : Answer}
    (hok : s.ask board address command timeoutMs = (.ok answer, t)) :
    let request : Request := { address, command := command.code }
    ∃ since, ledger.history t = ledger.history s ++ .told (.queued command address) :: since ∧
      ∃ frame ∈ Entry.frames since, request.IsAnsweredBy frame answer ∧
        (frame <:+: s.unread ∨ frame <:+: Entry.bytes since ∨
          Frame.TornAt s.unread (Entry.bytes since) frame) ∧
        (s.unread = [] → frame <:+: Entry.bytes since) := by
  intro request
  obtain ⟨size, queued, u, hsent, hbefore, hmem, hfor, hbehind⟩ := Station.ask_ok hok
  obtain ⟨hnone, hunread⟩ := Station.queued_fresh hsent
  obtain ⟨first, hfirst, hread⟩ := hbefore.passes hboard.passes
  obtain ⟨last, hlast, hread'⟩ := hbehind.passes hboard.passes
  -- the answer was not kept before, so it came in a frame
  obtain ⟨frame, hframe, hanswer⟩ : ∃ frame ∈ Entry.frames first,
      Answer.ofFrame? frame = some answer := by
    refine (hread.answers answer hmem).resolve_left fun hold => ?_
    rw [hnone answer hold] at hfor
    cases hfor
  have hin : frame ∈ Entry.frames (first ++ last) := by
    rw [Entry.frames_append]
    exact List.mem_append_left _ hframe
  have hcarved := (hread.trans hread').reading.frames_carved
  rw [hunread] at hcarved
  have hqueued : ledger.history queued = ledger.history s ++ [.told (.queued command address)] :=
    Ledger.history_sendTo (s := s.expecting request) hsent
  refine ⟨first ++ last, ?_, frame, hin, ?_, hcarved.side hin, ?_⟩
  · rw [hlast, hfirst, hqueued, List.append_assoc, List.append_assoc]
    rfl
  · rw [Request.isAnsweredBy_iff, Request.answerIn?, hanswer]
    exact Option.filter_some_pos hfor
  · intro hempty
    rw [hempty, List.nil_append] at hcarved
    exact hcarved.isInfix hin

/-! ## A reader that answers while somebody waits -/

/-- A board on which a response with the number of tags arrives whenever somebody waits. -/
def Board.replying : Board (List Entry) :=
  { Board.chronicle with wait := fun _ s => Ledger.chronicle.receive tagCountFrame s }

def Ledger.replying : Ledger .replying := Ledger.chronicle.onto ⟨rfl, rfl, rfl, rfl, rfl⟩

lemma Ledger.nests_replying : Ledger.replying.Nests .replying := by
  refine .of_inner (Board.nestsBy_chronicle _) ⟨rfl, rfl, rfl, rfl, rfl⟩ ⟨?_, ?_, ?_, ?_, ?_⟩
  · exact fun _ _ => .inl rfl
  · exact fun _ => .inl rfl
  · exact fun _ _ => .inl rfl
  · exact fun _ _ => .inl rfl
  · exact fun _ _ => .inr (.single (.operate (.receive tagCountFrame)))

/-- Nothing is in hand when somebody asks, and the answer is read from what has arrived since. -/
theorem answer_read_since_request_replying :
    let s : Station (List Entry) := ((Station.fresh .standard []).start .replying).2
    ∃ answer t since frame, s.ask .replying 0 .getTagCount 10 = (.ok answer, t) ∧
      answer.payload.toList = [0, 5] ∧
      t.surroundings = s.surroundings ++ .told (.queued .getTagCount 0) :: since ∧
      ({ address := 0, command := 0x74 } : Request).IsAnsweredBy frame answer ∧
      frame <:+: Entry.bytes since := by
  intro s
  have hpayload : ((s.ask .replying 0 .getTagCount 10).1.toOption.map fun answer =>
      answer.payload.toList) = some [0, 5] := by decide +kernel
  rcases hask : s.ask .replying 0 .getTagCount 10 with ⟨_ | answer, t⟩
  · rw [hask] at hpayload
    cases hpayload
  · rw [hask] at hpayload
    obtain ⟨since, hhistory, frame, -, hanswered, -, hfresh⟩ :=
      answer_read_since_request Ledger.nests_replying hask
    exact ⟨answer, t, since, frame, rfl, Option.some.inj hpayload, hhistory, hanswered, hfresh rfl⟩

/-- A clock, and what was told and what arrived. -/
structure TimedHistory where
  time : Nat
  entries : List Entry

/-- A board on which waiting takes its time, and nothing else takes any. -/
def Board.timed : Board TimedHistory :=
  { Board.still 0 { rfPower := 0, address := 0, antenna := 0 } with
    now := TimedHistory.time
    write := fun remark e => { e with entries := e.entries ++ [.told remark] }
    wait := fun ms s =>
      let time := s.surroundings.time + ms
      { s with surroundings := { s.surroundings with time } } }

def Ledger.timed : Ledger .timed where
  entries := TimedHistory.entries
  arrive kept lost e := { e with entries := e.entries ++ [.came kept lost] }
  entries_arrive _ _ _ := rfl
  entries_write _ _ := rfl
  entries_emit _ _ := rfl
  entries_interrupts _ := rfl

/--
  **A late answer that is given.**  A first call waits for its 10 ms and times out, and its answer
  arrives afterwards.  A second call for the same thing gives that answer at once, although nothing
  has arrived in the meantime.
-/
theorem stale_answer_given :
    let s : Station TimedHistory := ((Station.fresh .standard ⟨0, []⟩).start .timed).2
    let first := s.ask .timed 0 .getTagCount 10
    let late := Ledger.timed.receive tagCountFrame first.2
    let second := late.ask .timed 0 .getTagCount 10
    first.1 = .error (.timeout 0x74) ∧ s.now .timed + 10 ≤ first.2.now .timed ∧
      (second.1.toOption.map fun answer => answer.payload.toList) = some [0, 5] ∧
      second.2.now .timed = late.now .timed ∧
      ∃ since, Ledger.timed.history second.2 = Ledger.timed.history late ++ since ∧
        Entry.bytes since = [] := by
  intro s first late second
  refine ⟨by decide +kernel, by decide +kernel, by decide +kernel, by decide +kernel,
    (Ledger.timed.history second.2).drop (Ledger.timed.history late).length, ?_, ?_⟩ <;>
    decide +kernel

end RfidLink
