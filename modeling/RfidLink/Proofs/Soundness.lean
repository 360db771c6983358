import RfidLink.Proofs.Framing
import RfidLink.Proofs.Feeding
import RfidLink.Proofs.RecentTags

/-!
# Everything fits where it is kept

A router keeps what it has in places of limited room: a frame being received, the tags read of late,
the answers nobody has taken, the bytes to be sent.  A state in which one of them holds more than it
can, or in which a frame being received is not what its length byte says, does not occur.

* `FrameCollector.Sound` says that a collector holds the beginning of a frame or nothing.  **What a
  search finds has the size that its length byte declares** (`Sound.search`).
* `Station.Sound` says that every place holds no more than it can.
* `Station.Keeps` is what a step does: a sound station stays sound, and whether somebody is being
  notified is the same as before.  There is one lemma for each function of the router, and
  `keeps_operation` is the step for operations.
* **`Station.Runs.keeps`** is the run, with callbacks that run operations to any depth.  A router
  that nothing has happened to is sound, so every state that it reaches is.
-/

namespace RfidLink

variable {ε : Type} {board devices : Board ε}

/-! ## Collecting -/

namespace FrameCollector

/-- The collector holds nothing, or the beginning of a frame that a response may have. -/
def Sound (c : FrameCollector) : Prop := ∃ pending, c.Holds Frame.minResponseSize pending

variable {c : FrameCollector}

lemma sound_forResponses : forResponses.Sound := ⟨[], holds_withMinSize _⟩

lemma Sound.reset (h : c.Sound) : c.reset.Sound := by
  obtain ⟨_, hholds⟩ := h
  exact ⟨[], holds_nil hholds.minSize_eq rfl⟩

lemma Sound.countError (h : c.Sound) : c.countError.Sound := by
  obtain ⟨pending, hholds⟩ := h
  exact ⟨pending, hholds.minSize_eq, hholds.progress, hholds.lastByteAt, hholds.pending⟩

/-- Arrivals that are a frame of an accepted size have the size that their first byte declares. -/
lemma sized_of_isFrame {arrivals : List Arrival}
    (h : Arrival.IsFrame Frame.minResponseSize arrivals) : Frame.Sized (arrivals.map (·.byte)) := by
  obtain ⟨first, rest, rfl⟩ := List.exists_cons_of_ne_nil h.ne_nil
  refine ⟨first.byte, rest.map (·.byte), rfl, ?_, ?_, ?_⟩
  · rw [List.length_map]
    exact h.declaredSize_eq
  · rw [List.length_map]
    exact h.minSize_le
  · rw [List.length_map]
    exact h.le_maxSize

/-- A next byte that is not late completes a frame, or the collector stays sound. -/
lemma Holds.push_inTime {pending : List Arrival} {arrival : Arrival}
    (h : c.Holds Frame.minResponseSize pending) (hlate : ¬ Arrival.LateFor pending arrival) :
    (∃ c' frame, c.push arrival.byte arrival.time = (.ok true, c') ∧ c'.frame? = some frame ∧
        Frame.Sized frame ∧ c'.reset.Sound) ∨
      ∃ result c', c.push arrival.byte arrival.time = (result, c') ∧ result ≠ .ok true ∧
        c'.Sound := by
  by_cases hpending : pending = []
  · subst hpending
    by_cases hshort : Frame.declaredSize arrival.byte < Frame.minResponseSize
    · obtain ⟨c', hpush, hholds, -⟩ := h.push_refused hshort
      exact .inr ⟨_, c', hpush, nofun, [], hholds⟩
    · have haccepted := Nat.le_of_not_lt hshort
      obtain ⟨c', hpush, hholds, -⟩ :=
        h.push_first haccepted (Nat.lt_of_lt_of_le (by decide) haccepted)
      exact .inr ⟨_, c', hpush, nofun, [arrival], hholds⟩
  · rcases h.push_next hpending hlate with
      ⟨hframe, c', hpush, hcomplete, hreset, -⟩ | ⟨c', hpush, hholds, -⟩
    · exact .inl ⟨c', _, hpush, hcomplete, sized_of_isFrame hframe, [], hreset⟩
    · exact .inr ⟨_, c', hpush, nofun, _, hholds⟩

/-- **One byte**: it completes a frame of the declared size, or the collector stays sound. -/
lemma Sound.push (h : c.Sound) (byte : UInt8) (now : Nat) :
    (∃ c' frame, c.push byte now = (.ok true, c') ∧ c'.frame? = some frame ∧ Frame.Sized frame ∧
        c'.reset.Sound) ∨
      ∃ result c', c.push byte now = (result, c') ∧ result ≠ .ok true ∧ c'.Sound := by
  obtain ⟨pending, hholds⟩ := h
  by_cases hlate : Arrival.LateFor pending ⟨byte, now⟩
  · have hnone : ¬ Arrival.LateFor [] ⟨byte, now⟩ := fun ⟨_, hlast, _⟩ => nomatch hlast
    have hreset := hholds.reset.push_inTime hnone
    rw [← hholds.push_late hlate] at hreset
    exact hreset
  · exact hholds.push_inTime hlate

/-- **What a search finds has its declared size**, and the collector it leaves is sound. -/
theorem Sound.search (h : c.Sound) (now : Nat) (bytes : List UInt8) :
    (c.search now bytes).collector.Sound ∧
      ∀ frame, (c.search now bytes).frame = some frame → Frame.Sized frame := by
  induction bytes generalizing c with
  | nil =>
      refine ⟨h, fun _ hnone => ?_⟩
      cases hnone
  | cons byte rest ih =>
      rcases h.push byte now with ⟨c', frame, hpush, hframe, hsized, hreset⟩ |
        ⟨result, c', hpush, hresult, hsound⟩
      · simp only [FrameCollector.search, hpush, hframe]
        refine ⟨hreset, ?_⟩
        rintro _ ⟨rfl⟩
        exact hsized
      · rcases result with e | _ | _
        · simp only [FrameCollector.search, hpush]
          exact ih hsound
        · simp only [FrameCollector.search, hpush]
          exact ih hsound
        · exact absurd rfl hresult

end FrameCollector

/-! ## Places of limited room -/

lemma RepeatFilter.inTurn_of_empty (window : Nat) :
    InTurn { entries := [], next := 0, window } :=
  ⟨Nat.zero_le _, Nat.zero_lt_succ _, fun _ => rfl⟩

lemma RepeatFilter.InTurn.record {filter : RepeatFilter} (h : filter.InTurn) (bytes : List UInt8)
    (rssi : UInt8) (now : Nat) : (filter.record bytes rssi now).2.InTurn := by
  set epc : Epc := .truncate bytes with hepc
  cases hfind : filter.entries.find? (·.epc = epc) with
  | none =>
      simp only [RepeatFilter.record, ← hepc, hfind]
      exact (inOrder_insert h _).2
  | some entry =>
      have hlength : (change epc (·.again filter.window rssi now) filter.entries).length =
          filter.entries.length := by
        have hmap := congrArg List.length
          (map_epc_change (f := (·.again filter.window rssi now)) (fun _ => rfl) epc
            filter.entries)
        rwa [List.length_map, List.length_map] at hmap
      simp only [RepeatFilter.record, ← hepc, hfind]
      refine ⟨?_, h.next_lt, ?_⟩
      · rw [hlength]
        exact h.length_le
      · rw [hlength]
        exact h.next_eq

namespace Line

lemma outbound_enqueue_le (byte : UInt8) {line : Line} (h : line.outbound.length ≤ capacity) :
    (line.enqueue byte).outbound.length ≤ capacity := by
  simp only [enqueue]
  split
  · exact h
  · rename_i hroom
    simp only [room] at hroom
    rw [List.length_append, List.length_singleton]
    omega

end Line

/-- What is kept in the places of a router, and whether somebody is being notified. -/
def Router.stores (r : Router) : FrameCollector × RepeatFilter × List Answer × Bool :=
  (r.collector, r.filter, r.answers, r.notifying)

namespace Station

variable {s t u : Station ε}

/-- Every place of limited room holds no more than it can, and what is received is a frame. -/
structure Sound (s : Station ε) : Prop where
  collector : s.router.collector.Sound
  filter : s.router.filter.InTurn
  answers : s.router.answers.length ≤ Answer.queueCapacity
  outbound : s.line.outbound.length ≤ Line.capacity

lemma sound_fresh (config : Config) (e : ε) : (fresh config e).Sound where
  collector := FrameCollector.sound_forResponses
  filter := RepeatFilter.inTurn_of_empty _
  answers := Nat.zero_le _
  outbound := Nat.zero_le _

/-- A sound station stays sound, and a notification is under way if and only if one was. -/
structure Keeps (s t : Station ε) : Prop where
  sound : s.Sound → t.Sound
  notifying : t.router.notifying = s.router.notifying

lemma Keeps.refl (s : Station ε) : s.Keeps s := ⟨id, rfl⟩

lemma Keeps.trans (hst : s.Keeps t) (htu : t.Keeps u) : s.Keeps u :=
  ⟨fun hs => htu.sound (hst.sound hs), htu.notifying.trans hst.notifying⟩

/-- Nothing that is kept in limited room has changed. -/
lemma Keeps.of_eq (hstores : t.router.stores = s.router.stores)
    (houtbound : t.line.outbound = s.line.outbound) : s.Keeps t := by
  obtain ⟨hcollector, hrest⟩ := Prod.mk.inj hstores
  obtain ⟨hfilter, hrest⟩ := Prod.mk.inj hrest
  obtain ⟨hanswers, hnotifying⟩ := Prod.mk.inj hrest
  refine ⟨fun hs => ⟨?_, ?_, ?_, ?_⟩, hnotifying⟩
  · rw [hcollector]
    exact hs.collector
  · rw [hfilter]
    exact hs.filter
  · rw [hanswers]
    exact hs.answers
  · rw [houtbound]
    exact hs.outbound

variable (board) in
lemma keeps_tell (remark : Remark) (s : Station ε) : s.Keeps (s.tell board remark) :=
  .of_eq rfl rfl

variable (board) in
lemma keeps_tellAll (remarks : List Remark) (s : Station ε) :
    s.Keeps (s.tellAll board remarks) :=
  .of_eq (congrArg Router.stores (router_tellAll board remarks s))
    (congrArg Line.outbound (line_tellAll board remarks s))

/-! ### The way in -/

lemma keeps_resetCollector (s : Station ε) :
    s.Keeps (s.onRouter fun r => { r with collector := r.collector.reset }) :=
  ⟨fun hs => ⟨hs.collector.reset, hs.filter, hs.answers, hs.outbound⟩, rfl⟩

lemma keeps_performReset (s : Station ε) : s.Keeps s.performReset := by
  simp only [performReset]
  split
  · exact (keeps_resetCollector s).trans (.of_eq rfl rfl)
  · exact .refl s

lemma keeps_resetUnlessBusy (s : Station ε) : s.Keeps s.resetUnlessBusy := by
  simp only [resetUnlessBusy]
  split
  · exact .refl s
  · exact keeps_performReset s

variable (board) in
lemma keeps_discardAfterOverrun (s : Station ε) : s.Keeps (s.discardAfterOverrun board) := by
  have htaken : s.Keeps { s with line := s.line.takeOverrun.2 } := .of_eq rfl rfl
  simp only [discardAfterOverrun]
  split
  · exact (htaken.trans (keeps_tell board .overrun _)).trans (keeps_resetCollector _)
  · exact htaken

variable (board) in
lemma keeps_pullFrame (now : Nat) (s : Station ε) : s.Keeps (s.pullFrame board now).2 := by
  obtain ⟨_, hrouter⟩ := router_pullFrame board now s
  have hline := line_pullFrame board now s
  refine ⟨fun hs => ⟨?_, ?_, ?_, ?_⟩, ?_⟩
  · rw [hrouter]
    exact (hs.collector.search now s.line.inbound).1
  · rw [hrouter]
    exact hs.filter
  · rw [hrouter]
    exact hs.answers
  · rw [hline]
    exact hs.outbound
  · rw [hrouter]

variable (board) in
/-- **A frame that a sound station takes has the size that its length byte declares.** -/
lemma sized_of_pullFrame (now : Nat) {frame : List UInt8} (hs : s.Sound)
    (h : (s.pullFrame board now).1 = some frame) : Frame.Sized frame :=
  (hs.collector.search now s.line.inbound).2 frame h

/-! ### The way out -/

variable (board) in
lemma keeps_transmit (s : Station ε) : s.Keeps (s.transmit board).2 := by
  refine ⟨fun hs => ⟨hs.collector, hs.filter, hs.answers, ?_⟩, rfl⟩
  exact Nat.le_trans (List.drop_sublist _ _).length_le hs.outbound

variable (board) in
lemma keeps_transmitTimes (times : Nat) (s : Station ε) : s.Keeps (s.transmitTimes board times) := by
  induction times generalizing s with
  | zero => exact .refl s
  | succ times ih => exact (keeps_transmit board s).trans (ih _)

variable (board) in
lemma keeps_interrupted (s : Station ε) : s.Keeps (s.interrupted board) := by
  have hasked : s.Keeps { s with surroundings := (board.interrupts s.surroundings).2 } :=
    .of_eq rfl rfl
  exact hasked.trans (keeps_transmitTimes board _ _)

lemma keeps_enqueue (byte : UInt8) (s : Station ε) :
    s.Keeps { s with line := s.line.enqueue byte } :=
  ⟨fun hs => ⟨hs.collector, hs.filter, hs.answers, Line.outbound_enqueue_le byte hs.outbound⟩, rfl⟩

variable (board) in
lemma keeps_enqueueAll (frame : List UInt8) (s : Station ε) :
    s.Keeps (s.enqueueAll board frame) := by
  induction frame generalizing s with
  | nil => exact .refl s
  | cons byte rest ih =>
      exact ((keeps_interrupted board s).trans (keeps_enqueue byte _)).trans (ih _)

variable (board) in
lemma keeps_sendTo (address : UInt8) (command : Command) (s : Station ε) :
    s.Keeps (s.sendTo board address command).2 := by
  have hinterrupted := keeps_interrupted board s
  obtain ⟨-, h⟩ | ⟨_, -, -, h⟩ | ⟨frame, -, -, -, h⟩ | ⟨frame, -, -, -, h⟩ :=
    sendTo_cases board address command s
  · rw [h]
    exact .refl s
  · rw [h]
    exact .refl s
  · rw [h]
    exact (hinterrupted.trans (keeps_enqueueAll board frame _)).trans (keeps_tell board _ _)
  · rw [h]
    have hrefused : (s.interrupted board).Keeps ((s.interrupted board).refuse frame) :=
      .of_eq rfl rfl
    exact (hinterrupted.trans hrefused).trans (keeps_tell board _ _)

/-! ### Modes and schedules -/

variable (board) in
lemma keeps_enterMode (mode : Mode) (s : Station ε) : s.Keeps (s.enterMode board mode) := by
  have hnoted : s.Keeps ((s.onRouter fun r => { r with mode, resetPending := true }).tell board
      (.modeChanged s.router.mode mode)) := .of_eq rfl rfl
  simp only [enterMode]
  split
  · exact .refl s
  · exact hnoted.trans (keeps_resetUnlessBusy _)

lemma keeps_endSchedule (s : Station ε) : s.Keeps s.endSchedule := .of_eq rfl rfl

variable (board) in
lemma keeps_start (s : Station ε) : s.Keeps (s.start board).2 := by
  have hnoted : s.Keeps (s.onRouter fun r =>
      { r with running := true, mode := .idle, resetPending := true }) := .of_eq rfl rfl
  simp only [start]
  split
  · exact .refl s
  · exact (hnoted.trans (keeps_resetUnlessBusy _)).trans (keeps_tell board _ _)

variable (board) in
lemma keeps_stop (s : Station ε) : s.Keeps (s.stop board).2 := by
  have hnoted : s.Keeps
      (s.onRouter fun r => ({ r with running := false } : Router).endSchedule) := .of_eq rfl rfl
  simp only [stop]
  split
  · exact (hnoted.trans (keeps_enterMode board .idle _)).trans (keeps_tell board _ _)
  · exact .refl s

variable (board) in
lemma keeps_endOnlyRound (s : Station ε) : s.Keeps (s.endOnlyRound board) :=
  ((keeps_endSchedule s).trans (keeps_tellAll board _ _)).trans (keeps_enterMode board .idle _)

variable (board) in
lemma keeps_startRound (now : Nat) (s : Station ε) : s.Keeps (s.startRound board now) := by
  have hsent := keeps_sendTo board s.router.address s.router.config.strategy.openingCommand s
  simp only [startRound, send]
  split <;> rename_i heq <;> rw [heq] at hsent
  · exact hsent.trans (.of_eq rfl rfl)
  · split
    · exact hsent.trans (.of_eq rfl rfl)
    · exact hsent.trans (.of_eq rfl rfl)

variable (board) in
lemma keeps_abandonRound (now : Nat) (s : Station ε) : s.Keeps (s.abandonRound board now) := by
  have htold : s.Keeps ((s.tell board .roundAbandoned).count fun c =>
      { c with roundsAbandoned := c.roundsAbandoned + 1 }) := .of_eq rfl rfl
  simp only [abandonRound]
  split
  · exact htold.trans (keeps_endOnlyRound board _)
  · have hdue := htold.trans (.of_eq (t := ((s.tell board .roundAbandoned).count fun c =>
      { c with roundsAbandoned := c.roundsAbandoned + 1 }).onRouter
        (·.reschedule (·.dueAt now))) rfl rfl)
    exact hdue.trans (keeps_startRound board now _)

variable (board) in
lemma keeps_keepSchedule (now : Nat) (s : Station ε) : s.Keeps (s.keepSchedule board now) := by
  simp only [keepSchedule]
  split
  · exact .refl s
  · split
    · split
      · exact .refl s
      · exact keeps_abandonRound board now s
    · split
      · exact .refl s
      · exact keeps_startRound board now s

/-! ### Frames -/

lemma keeps_record (tag : Sighting) (now : Nat) (s : Station ε) : s.Keeps (s.onRouter fun r =>
    { r with filter := (r.filter.record tag.epc.toList tag.rssi now).2 }) :=
  ⟨fun hs => ⟨hs.collector, hs.filter.record _ _ _, hs.answers, hs.outbound⟩, rfl⟩

lemma keeps_keepAnswer (answer : Answer) (s : Station ε) : s.Keeps (s.keepAnswer answer) := by
  simp only [keepAnswer]
  split
  · exact .refl s
  · exact ⟨fun hs => ⟨hs.collector, hs.filter, Answer.length_push _ _ hs.answers, hs.outbound⟩, rfl⟩

/-- Answers are taken or thrown away. -/
lemma keeps_forget {answers : List Answer} (awaiting : Option Request) {s : Station ε}
    (h : answers.length ≤ s.router.answers.length) :
    s.Keeps (s.onRouter fun r => { r with answers, awaiting }) :=
  ⟨fun hs => ⟨hs.collector, hs.filter, Nat.le_trans h hs.answers, hs.outbound⟩, rfl⟩

section

variable (hboard : board.CallbacksAre Keeps)

/-- A notification is over when it comes back. -/
lemma keeps_notify {notification : Station ε → Station ε}
    (h : ∀ s : Station ε, s.Keeps (notification s)) (s : Station ε) :
    s.Keeps (s.notify notification) := by
  simp only [notify]
  split
  · exact .refl s
  · rename_i hnot
    set begun := s.onRouter fun r => { r with notifying := true } with hbegun
    refine ⟨fun hs => ?_, ?_⟩
    · have hset : begun.Sound := ⟨hs.collector, hs.filter, hs.answers, hs.outbound⟩
      obtain ⟨hcollector, hfilter, hanswers, houtbound⟩ := (h begun).sound hset
      exact ⟨hcollector, hfilter, hanswers, houtbound⟩
    · rw [Bool.not_eq_true] at hnot
      exact hnot.symm

include hboard

lemma keeps_passOn (tag : Sighting) (s : Station ε) : s.Keeps (s.passOn board tag) := by
  set text := tag.text s.router.config.epcGroupBytes.toNat with htext
  have hdelivered : s.Keeps (board.deliver text (s.tell board (.tag text tag))).2 :=
    (keeps_tell board _ s).trans (hboard.deliver text _)
  simp only [passOn, ← htext]
  split <;> rename_i t heq <;> rw [heq] at hdelivered
  · have hcounted : t.Keeps (t.count fun c => { c with tagsPassedOn := c.tagsPassedOn + 1 }) :=
      .of_eq rfl rfl
    exact (hdelivered.trans hcounted).trans (keeps_notify hboard.notifyRead _)
  · exact hdelivered.trans (.of_eq rfl rfl)

lemma keeps_offer (now : Nat) (tag : Sighting) (s : Station ε) :
    s.Keeps (s.offer board now tag) := by
  set counted := s.count fun c => { c with tagsRead := c.tagsRead + 1 } with hcounted
  have hread : s.Keeps counted := .of_eq rfl rfl
  have hrecorded := hread.trans (keeps_record tag now counted)
  simp only [offer, ← hcounted]
  split
  · exact hread.trans (keeps_tell board _ _)
  · split
    · exact hrecorded.trans (keeps_passOn hboard tag _)
    · exact hrecorded.trans (.of_eq rfl rfl)

lemma keeps_offers (now : Nat) (tags : List Sighting) (s : Station ε) :
    s.Keeps (tags.foldl (offer board now) s) := by
  induction tags generalizing s with
  | nil => exact .refl s
  | cons tag rest ih => exact (keeps_offer hboard now tag s).trans (ih _)

lemma keeps_useContent (now : Nat) (content : Content) (s : Station ε) :
    s.Keeps (s.useContent board now content) := by
  cases content with
  | autoUpload tag => exact keeps_offer hboard now tag s
  | inventory report => exact keeps_offers hboard now report.sightings s
  | other _ _ _ => exact .refl s
  | _ => exact .of_eq rfl rfl

lemma keeps_followRound (now : Nat) (status : Status) (s : Station ε) :
    s.Keeps (s.followRound board now status) := by
  set shown := (s.tell board .antennaError).onRouter fun r => { r with errorShown := true }
    with hshown
  have hindicated : s.Keeps shown := .of_eq rfl rfl
  simp only [followRound]
  split
  · exact .refl s
  · split
    · simp only [stopForAntenna, ← hshown]
      have hnotified := hindicated.trans (keeps_notify (hboard.notifyError true) shown)
      exact (hnotified.trans (keeps_endSchedule _)).trans (keeps_enterMode board .idle _)
    · split
      · exact .refl s
      · split
        · exact .refl s
        · exact .of_eq rfl rfl
        · exact keeps_endOnlyRound board s

lemma keeps_acceptResponse (now : Nat) (frame : List UInt8) (response : Response)
    (s : Station ε) : s.Keeps (s.acceptResponse board now frame response) := by
  set told := s.tell board (.received frame response) with htold
  have hkept : s.Keeps
      ((answerOf response.head (responsePayload frame)).elim told told.keepAnswer) := by
    cases answerOf response.head (responsePayload frame) with
    | none => exact keeps_tell board _ s
    | some answer => exact (keeps_tell board _ s).trans (keeps_keepAnswer answer told)
  have hused := hkept.trans (keeps_useContent hboard now response.content _)
  simp only [acceptResponse, ← htold]
  split
  · exact hused.trans (keeps_followRound hboard now response.head.status _)
  · exact hused

lemma keeps_acceptFrame (now : Nat) (frame : List UInt8) (s : Station ε) :
    s.Keeps (s.acceptFrame board now frame) := by
  set counted := s.count fun c => { c with framesReceived := c.framesReceived + 1 } with hcounted
  have hread : s.Keeps counted := .of_eq rfl rfl
  simp only [acceptFrame, ← hcounted]
  split
  · exact hread.trans (.of_eq rfl rfl)
  · split
    · exact hread.trans (.of_eq rfl rfl)
    · exact hread.trans (keeps_acceptResponse hboard now frame _ _)

lemma keeps_acceptFrames (now turns : Nat) (s : Station ε) :
    s.Keeps (s.acceptFrames board now turns).2 := by
  induction turns generalizing s with
  | zero => exact .refl s
  | succ turns ih =>
      have hpulled := keeps_pullFrame board now s
      simp only [acceptFrames]
      split <;> rename_i heq <;> rw [heq] at hpulled
      · exact hpulled
      · rename_i frame pulled
        have haccepted := hpulled.trans (keeps_acceptFrame hboard now frame pulled)
        exact (haccepted.trans (keeps_performReset _)).trans (ih _)

omit hboard in
variable (board) in
lemma keeps_ready (s : Station ε) : s.Keeps (s.ready board) := by
  have hbegun : s.Keeps (s.onRouter fun r => { r with busy := true }) := .of_eq rfl rfl
  exact (hbegun.trans (keeps_discardAfterOverrun board _)).trans (keeps_performReset _)

/-- **To process what was received keeps a station sound.** -/
lemma keeps_process (s : Station ε) : s.Keeps (s.process board).2 := by
  cases hbusy : s.router.busy with
  | true =>
      simp only [process, hbusy, if_true]
      exact .refl s
  | false =>
      cases hrunning : s.router.running with
      | false =>
          simp only [process, hbusy, hrunning, Bool.false_eq_true, if_false, Bool.not_false, if_true]
          exact .refl s
      | true =>
          rw [process_eq hrunning hbusy]
          have haccepted := (keeps_ready board s).trans (keeps_acceptFrames hboard (s.now board)
            ((s.ready board).frameTurns board) _)
          exact (haccepted.trans (keeps_keepSchedule board _ _)).trans (.of_eq rfl rfl)

/-! ### Asking -/

lemma keeps_look (request : Request) (seen : UInt32) (s : Station ε) :
    s.Keeps (s.look board request seen).2 := by
  have hprocessed := keeps_process hboard s
  simp only [look]
  split
  · exact hprocessed
  · exact hprocessed.trans (keeps_forget _ List.eraseP_sublist.length_le)

lemma keeps_waitUntil (request : Request) (deadline pause turns : Nat) (seen : UInt32)
    (s : Station ε) : s.Keeps (s.waitUntil board request deadline pause turns seen).2 := by
  induction turns generalizing seen s with
  | zero => exact .refl s
  | succ turns ih =>
      have hlooked := keeps_look hboard request seen s
      simp only [waitUntil]
      split <;> rename_i heq <;> rw [heq] at hlooked
      · exact hlooked
      · split
        · exact hlooked.trans (keeps_tell board _ _)
        · exact (hlooked.trans (hboard.wait pause _)).trans (ih _ _)

lemma keeps_ask (address : UInt8) (command : Command) (timeoutMs : UInt32) (s : Station ε) :
    s.Keeps (s.ask board address command timeoutMs).2 := by
  set request : Request := { address, command := command.code } with hrequest
  set waiting := s.onRouter fun r =>
    { r with answers := Answer.discard request r.answers, awaiting := some request } with hwaiting
  have hbegun : s.Keeps waiting :=
    keeps_forget (some request) (List.length_filter_le _ s.router.answers)
  have hsent := hbegun.trans (keeps_sendTo board address command waiting)
  have hwaited : s.Keeps (waiting.sendAndWait board address command timeoutMs).2 := by
    simp only [sendAndWait]
    split <;> rename_i heq <;> rw [heq] at hsent
    · exact hsent
    · exact hsent.trans (keeps_waitUntil hboard _ _ _ _ _ _)
  simp only [ask, ← hrequest, ← hwaiting]
  exact hwaited.trans (.of_eq rfl rfl)

lemma keeps_beginSchedule (s : Station ε) : s.Keeps (s.beginSchedule board) := by
  set opened := s.onRouter fun r => { r with schedule := .opened s.router.config (s.now board) }
    with hopened
  have hset : s.Keeps opened := .of_eq rfl rfl
  have hback (t : Station ε) : t.Keeps (if t.router.errorShown then
      (t.onRouter fun r => { r with errorShown := false }).notify (board.notifyError false)
      else t) := by
    have hhidden : t.Keeps (t.onRouter fun r => { r with errorShown := false }) := .of_eq rfl rfl
    split
    · exact hhidden.trans (keeps_notify (hboard.notifyError false) _)
    · exact .refl t
  refine Keeps.trans ?_ (hback _)
  split
  · exact hset.trans (.of_eq rfl rfl)
  · exact hset

/-- **Every operation keeps a station sound.** -/
lemma keeps_operation (operation : Operation) (s : Station ε) :
    s.Keeps (operation.run board s) := by
  cases operation with
  | start => exact keeps_start board s
  | stop => exact keeps_stop board s
  | process => exact keeps_process hboard s
  | enterMode mode => exact keeps_enterMode board mode s
  | beginSchedule => exact keeps_beginSchedule hboard s
  | endSchedule => exact keeps_endSchedule s
  | setConfig | setDebounceSeconds =>
      exact ⟨fun hs => ⟨hs.collector, ⟨hs.filter.length_le, hs.filter.next_lt, hs.filter.next_eq⟩,
        hs.answers, hs.outbound⟩, rfl⟩
  | forgetTags =>
      exact ⟨fun hs => ⟨hs.collector, RepeatFilter.inTurn_of_empty _, hs.answers, hs.outbound⟩,
        rfl⟩
  | setAddress | resetStatistics | takeOverrun | receive => exact .of_eq rfl rfl
  | reportTotals => exact keeps_tellAll board _ s
  | send command => exact keeps_sendTo board _ command s
  | sendRaw code args =>
      show s.Keeps (s.sendRaw board code args).2
      simp only [sendRaw]
      split
      · exact .refl s
      · exact keeps_sendTo board _ _ s
  | sendTo address command => exact keeps_sendTo board address command s
  | ask address command timeoutMs => exact keeps_ask hboard address command timeoutMs s
  | transmit => exact keeps_transmit board s

end

end Station

/-! ## Whole runs -/

section

variable {allowed : Operation → Prop} {drift : ε → ε → Prop}

open Station

lemma Station.Runs.keeps_of (hboard : board.CallbacksAre Keeps) {s t : Station ε}
    (h : s.Runs board allowed drift t) : s.Keeps t := by
  induction h with
  | refl => exact .refl s
  | tail _ hstep ih =>
      cases hstep with
      | operate operation _ => exact ih.trans (keeps_operation hboard operation _)
      | drift e _ => exact ih.trans (.of_eq rfl rfl)

/-- Callbacks that run operations keep a station sound, however they nest. -/
theorem Board.Nests.keeps (h : board.Nests allowed drift) : board.CallbacksAre Keeps := by
  induction h with
  | intro inner _ _ hcalls ih =>
      refine hcalls.mono ?_
      rintro s t (⟨e, -, rfl⟩ | ⟨b, hb, hruns⟩)
      · exact .of_eq rfl rfl
      · exact hruns.keeps_of (ih b hb)

/-- **Every state that a router reaches is sound**, and between two calls nobody is notified. -/
theorem Station.Runs.keeps (hboard : board.Nests allowed drift) {config : Config} {e : ε}
    {s : Station ε} (h : (fresh config e).Runs board allowed drift s) :
    s.Sound ∧ s.router.notifying = false := by
  have hkeeps := h.keeps_of hboard.keeps
  exact ⟨hkeeps.sound (sound_fresh config e), hkeeps.notifying⟩

end

end RfidLink
