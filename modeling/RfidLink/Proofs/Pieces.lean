import Mathlib.Data.List.Infix
import RfidLink.Proofs.Feeding
import RfidLink.Proofs.TagText

/-!
# Bytes may come in any pieces

The wire brings bytes when it likes, and a call to process them comes when somebody thinks of it.
Nothing depends on how the two interleave.  A call does work of its own before and behind the
frames, and between two calls a frame may be half received; yet all that remains of a call is what
its bytes have done one after the other.

* `Station.absorb` is that: a byte goes to the collector, and a frame that it completes is acted on.
  To absorb bytes and then others is to absorb all of them (`absorb_append`).
* Acting on a frame has nothing to do with the line as long as it does not end inventory
  (`OffLine`, `offLine_acceptFrame`).  This is where callbacks have to keep away from the router.
* **`process_absorb`**: a call absorbs the bytes in the ring, and that is all it does.
* **`takePieces_eq_takeWhole`**: so it does not matter in which pieces bytes are received.
-/

namespace RfidLink

variable {ε : Type} {board : Board ε}

/-- Whether a frame is a response to an inventory round that tells of an antenna error. -/
def Frame.tellsAntennaError (frame : List UInt8) : Bool :=
  Checksum.isValid frame &&
    match Response.ofFrame frame with
    | .error _ => false
    | .ok response =>
      CommandCode.isRound response.head.command && response.head.status = .antennaError

/-- What runs when a tag is passed on knows of the surroundings and of nothing else. -/
structure Board.Detached (board : Board ε) : Prop where
  deliver : ∃ f : String → ε → Except DeliveryError Unit × ε, ∀ text (s : Station ε),
    board.deliver text s =
      ((f text s.surroundings).1, { s with surroundings := (f text s.surroundings).2 })
  notifyRead : ∃ f : ε → ε, ∀ s : Station ε,
    board.notifyRead s = { s with surroundings := f s.surroundings }

/-- To feed bytes and then others is to feed all of them. -/
lemma FrameCollector.feed_append (now : Nat) (first rest : List UInt8) (c : FrameCollector) :
    c.feed now (first ++ rest) =
      ((c.feed now first).1 ++ ((c.feed now first).2.feed now rest).1,
        ((c.feed now first).2.feed now rest).2) := by
  simp only [feed_eq_gather, Arrival.together_append, gather_append]

lemma Router.core_eq {r r' : Router} (h : r'.core = r.core) : r'.mode = r.mode ∧
    r'.running = r.running ∧ r'.busy = r.busy ∧ r'.resetPending = r.resetPending ∧
      r'.config = r.config := by
  simpa [core] using h

/-- The frames that a call has acted on. -/
def Outcome.frames : Outcome → Nat
  | processed frames => frames
  | skipped | stopped => 0

namespace Station

/-! ## What has nothing to do with the line -/

/--
  At a station, `f` neither looks at the line nor changes it, and of the router it leaves alone what
  decides how frames are received.
-/
structure OffLine (f : Station ε → Station ε) (s : Station ε) : Prop where
  line : ∀ line, f { s with line } = { f s with line }
  core : (f s).router.core = s.router.core
  collector : (f s).router.collector = s.router.collector

variable {s : Station ε} {f g : Station ε → Station ε}

lemma OffLine.comp (hf : OffLine f s) (hg : OffLine g (f s)) : OffLine (fun s => g (f s)) s where
  line line := by rw [hf.line, hg.line]
  core := hg.core.trans hf.core
  collector := hg.collector.trans hf.collector

/-- What a function does to a station is given by a function that has nothing to do with the line. -/
lemma OffLine.congr (hf : OffLine f s) (h : ∀ line, g { s with line } = f { s with line }) :
    OffLine g s where
  line line := by
    have hs : g s = f s := h s.line
    rw [h, hf.line, hs]
  core := by
    have hs : g s = f s := h s.line
    rw [hs]
    exact hf.core
  collector := by
    have hs : g s = f s := h s.line
    rw [hs]
    exact hf.collector

lemma offLine_id (s : Station ε) : OffLine (fun s => s) s := ⟨fun _ => rfl, rfl, rfl⟩

variable (board) in
lemma offLine_tell (remark : Remark) (s : Station ε) : OffLine (·.tell board remark) s :=
  ⟨fun _ => rfl, rfl, rfl⟩

lemma offLine_onRouter (f : Router → Router) (hcore : (f s.router).core = s.router.core)
    (hcollector : (f s.router).collector = s.router.collector) : OffLine (·.onRouter f) s :=
  ⟨fun _ => rfl, hcore, hcollector⟩

lemma offLine_count (f : Counters → Counters) (s : Station ε) : OffLine (·.count f) s :=
  offLine_onRouter (·.count f) rfl rfl

lemma offLine_notifyRead (hdetached : board.Detached) (s : Station ε) :
    OffLine (·.notify board.notifyRead) s := by
  obtain ⟨f, hf⟩ := hdetached.notifyRead
  cases hnotifying : s.router.notifying with
  | true => exact (offLine_id s).congr fun line => by simp [notify, hnotifying]
  | false =>
      constructor
      · intro line
        simp [notify, hnotifying, hf, onRouter]
      · simp [notify, hnotifying, hf, onRouter, Router.core]
      · simp [notify, hnotifying, hf, onRouter]

lemma offLine_passOn (hdetached : board.Detached) (tag : Sighting) (s : Station ε) :
    OffLine (·.passOn board tag) s := by
  obtain ⟨f, hf⟩ := hdetached.deliver
  set text := tag.text s.router.config.epcGroupBytes.toNat with htext
  have hgiven : OffLine (fun t => (board.deliver text (t.tell board (.tag text tag))).2) s := by
    simp only [hf]
    exact ⟨fun _ => rfl, rfl, rfl⟩
  rcases hresult : f text (board.write (.tag text tag) s.surroundings) with ⟨cause | ⟨⟩, e⟩
  · have hcounted := hgiven.comp
      (offLine_count (fun c => { c with tagsUndelivered := c.tagsUndelivered + 1 }) _)
    refine (hcounted.comp (offLine_tell board (.undelivered cause) _)).congr ?_
    intro line
    simp [passOn, hf, ← htext, tell, hresult]
  · have hcounted := hgiven.comp
      (offLine_count (fun c => { c with tagsPassedOn := c.tagsPassedOn + 1 }) _)
    refine (hcounted.comp (offLine_notifyRead hdetached _)).congr ?_
    intro line
    simp [passOn, hf, ← htext, tell, hresult]

lemma offLine_offer (hdetached : board.Detached) (now : Nat) (tag : Sighting) (s : Station ε) :
    OffLine (fun s => s.offer board now tag) s := by
  have hcounted := offLine_count (fun c => { c with tagsRead := c.tagsRead + 1 }) s
  by_cases hmode : s.router.mode = .idle
  · refine (hcounted.comp (offLine_tell board (.tagIgnored tag) _)).congr ?_
    intro line
    simp [offer, hmode, count, onRouter, Router.count]
  · rcases hrecord : s.router.filter.record tag.epc.toList tag.rssi now with ⟨isLetThrough, filter⟩
    have hnoted := hcounted.comp (offLine_onRouter (fun r => { r with filter }) rfl rfl)
    cases isLetThrough with
    | true =>
        refine (hnoted.comp (offLine_passOn hdetached tag _)).congr ?_
        intro line
        simp [offer, hmode, count, onRouter, Router.count, hrecord]
    | false =>
        refine (hnoted.comp (offLine_count
          (fun c => { c with tagsHeldBack := c.tagsHeldBack + 1 }) _)).congr ?_
        intro line
        simp [offer, hmode, count, onRouter, Router.count, hrecord]

lemma offLine_offers (hdetached : board.Detached) (now : Nat) (tags : List Sighting)
    (s : Station ε) : OffLine (fun s => tags.foldl (offer board now) s) s := by
  induction tags generalizing s with
  | nil => exact offLine_id s
  | cons tag rest ih => exact (offLine_offer hdetached now tag s).comp (ih _)

lemma offLine_useContent (hdetached : board.Detached) (now : Nat) (content : Content)
    (s : Station ε) : OffLine (·.useContent board now content) s := by
  cases content with
  | autoUpload tag => exact offLine_offer hdetached now tag s
  | inventory report => exact offLine_offers hdetached now report.sightings s
  | statistics _ => exact offLine_tell board _ s
  | profile p =>
      exact (offLine_tell board (.profile p) s).comp
        (offLine_onRouter (fun r => { r with profile := some p }) rfl rfl)
  | tagCount count => exact offLine_onRouter (fun r => { r with tagCount := some count }) rfl rfl
  | temperature degrees =>
      exact offLine_onRouter (fun r => { r with temperature := some degrees }) rfl rfl
  | readData _ => exact offLine_tell board _ s
  | gpioState _ => exact offLine_tell board _ s
  | other _ _ _ => exact offLine_id s

lemma offLine_keepAnswer (answer : Answer) (s : Station ε) : OffLine (·.keepAnswer answer) s := by
  cases h : CommandCode.isRound answer.command && !answer.isAwaited s.router.awaiting with
  | true => exact (offLine_id s).congr fun line => by simp only [keepAnswer, h, if_true]
  | false =>
      have hkept : OffLine (fun s => s.onRouter fun r =>
          { r with answers := Answer.push r.awaiting answer r.answers }) s :=
        offLine_onRouter _ rfl rfl
      exact hkept.congr fun line => by simp only [keepAnswer, h, Bool.false_eq_true, if_false]

/--
  The router takes frames as they come: it is idle, or the reader reports tags on its own and none of
  the frames ends inventory.
-/
def Takes (frames : List (List UInt8)) (s : Station ε) : Prop :=
  s.router.mode = .idle ∨
    s.router.mode = .inventory ∧ s.router.config.strategy = .fast ∧
      ∀ frame ∈ frames, Frame.tellsAntennaError frame = false

/-- What a router makes of frames depends on its core only. -/
lemma Takes.of_core {frames frames' : List (List UInt8)} {t : Station ε} (h : s.Takes frames)
    (hcore : t.router.core = s.router.core) (hframes : frames' ⊆ frames) : t.Takes frames' := by
  rcases h with hidle | ⟨hmode, hfast, hnone⟩
  · exact .inl ((mode_of_core hcore).trans hidle)
  · refine .inr ⟨(mode_of_core hcore).trans hmode, ?_, fun frame h => hnone frame (hframes h)⟩
    rw [config_of_core hcore]
    exact hfast

/-- There are no rounds to follow. -/
lemma followRound_of_takes {frame : List UInt8} {response : Response} (h : s.Takes [frame])
    (hvalid : Checksum.isValid frame = true) (hread : Response.ofFrame frame = .ok response)
    (hround : CommandCode.isRound response.head.command = true) (now : Nat) :
    s.followRound board now response.head.status = s := by
  rcases h with hidle | ⟨-, hfast, hnone⟩
  · simp only [followRound, hidle, if_true]
  · have hstatus : response.head.status ≠ .antennaError := by
      have hframe := hnone frame List.mem_cons_self
      simpa [Frame.tellsAntennaError, hvalid, hread, hround] using hframe
    exact followRound_fast hfast hstatus

/-- **Acting on a frame has nothing to do with the line**, as long as it does not end inventory. -/
theorem offLine_acceptFrame (hdetached : board.Detached) (now : Nat) {frame : List UInt8}
    (htakes : s.Takes [frame]) : OffLine (fun s => s.acceptFrame board now frame) s := by
  have hcounted := offLine_count (fun c => { c with framesReceived := c.framesReceived + 1 }) s
  cases hvalid : Checksum.isValid frame with
  | false =>
      have hdamaged := hcounted.comp
        (offLine_count (fun c => { c with framesDamaged := c.framesDamaged + 1 }) _)
      refine (hdamaged.comp (offLine_tell board (.damaged frame) _)).congr ?_
      intro line
      simp only [acceptFrame, hvalid, Bool.not_false, if_true]
  | true =>
      cases hread : Response.ofFrame frame with
      | error cause =>
          have hunreadable := hcounted.comp
            (offLine_count (fun c => { c with framesUnreadable := c.framesUnreadable + 1 }) _)
          refine (hunreadable.comp
            (offLine_tell board (.unreadable frame cause) _)).congr ?_
          intro line
          simp only [acceptFrame, hvalid, Bool.not_true, Bool.false_eq_true, if_false, hread]
      | ok response =>
          have htold := hcounted.comp
            (offLine_tell board (.received frame response) _)
          have hkept : OffLine (fun t : Station ε =>
              (answerOf response.head (responsePayload frame)).elim t t.keepAnswer)
              ((s.count fun c => { c with framesReceived := c.framesReceived + 1 }).tell board
                (.received frame response)) := by
            cases answerOf response.head (responsePayload frame) with
            | none => exact offLine_id _
            | some answer => exact offLine_keepAnswer answer _
          have hused := (htold.comp hkept).comp
            (offLine_useContent hdetached now response.content _)
          refine hused.congr ?_
          intro line
          have htakes' := htakes.of_core
            (((congrArg Station.router (hused.line line)).symm ▸ hused.core)) (List.Subset.refl _)
          simp only [acceptFrame, hvalid, Bool.not_true, Bool.false_eq_true, if_false, hread,
            acceptResponse]
          split
          · rename_i hround
            exact followRound_of_takes htakes' hvalid hread hround now
          · rfl

/-! ## Absorbing bytes -/

/-- Put the collector in its place, and count the errors that it has had since. -/
def collecting (collector : FrameCollector) (s : Station ε) : Station ε :=
  s.onRouter fun r => { r with collector }.count fun c =>
    { c with framingErrors := c.framingErrors + (collector.errors - r.collector.errors) }

/-- Give bytes to the collector one by one, and act on every frame that one of them completes. -/
def absorb (board : Board ε) (now : Nat) : List UInt8 → Station ε →
    List (List UInt8) × Station ε
  | [], s => ([], s)
  | byte :: rest, s =>
    match s.router.collector.push byte now with
    | (.ok true, c) =>
      let frame := c.received
      let (frames, s) := absorb board now rest ((s.collecting c.reset).acceptFrame board now frame)
      (frame :: frames, s)
    | (.ok false, c) => absorb board now rest (s.collecting c)
    | (.error cause, c) =>
      absorb board now rest ((s.collecting c).tell board (.startRefused cause))

variable {now : Nat}

/-- **Absorbing bytes and then others is absorbing all of them.** -/
theorem absorb_append (first rest : List UInt8) (s : Station ε) :
    s.absorb board now (first ++ rest) =
      ((s.absorb board now first).1 ++ ((s.absorb board now first).2.absorb board now rest).1,
        ((s.absorb board now first).2.absorb board now rest).2) := by
  induction first generalizing s with
  | nil => rfl
  | cons byte first ih =>
      rw [List.cons_append, absorb, absorb]
      split
      · simp only [ih, List.cons_append]
      · exact ih _
      · exact ih _

lemma collecting_collecting (c c' : FrameCollector) (s : Station ε) :
    (s.collecting c).collecting c' = s.collecting c' := by
  have herrors : s.router.counters.framingErrors + (c.errors - s.router.collector.errors) +
      (c'.errors - c.errors) =
        s.router.counters.framingErrors + (c'.errors - s.router.collector.errors) := by
    grind
  simp only [collecting, onRouter, Router.count, herrors]

lemma collecting_self (s : Station ε) : s.collecting s.router.collector = s := by
  simp only [collecting, onRouter, Router.count, UInt32.sub_self, UInt32.add_zero]

variable (board) in
/-- To put the collector in its place and to write into the journal may change places. -/
lemma collecting_tellAll (c : FrameCollector) (remarks : List Remark) (s : Station ε) :
    (s.tellAll board remarks).collecting c = (s.collecting c).tellAll board remarks := by
  induction remarks generalizing s with
  | nil => rfl
  | cons remark rest ih => exact ih (s.tell board remark)

/-- The station once a search has come to its end. -/
def searched (board : Board ε) (now : Nat) (bytes : List UInt8) (s : Station ε) : Station ε :=
  let search := s.router.collector.search now bytes
  (s.collecting search.collector).tellAll board (search.errors.map .startRefused)

/-- **Absorbing is searching, one frame after the other.** -/
theorem absorb_search (bytes : List UInt8) (s : Station ε) :
    s.absorb board now bytes =
      match (s.router.collector.search now bytes).frame with
      | none => ([], s.searched board now bytes)
      | some frame =>
        let later := ((s.searched board now bytes).acceptFrame board now frame).absorb board now
          (s.router.collector.search now bytes).rest
        (frame :: later.1, later.2) := by
  induction bytes generalizing s with
  | nil =>
      show ([], s) = ([], s.collecting s.router.collector)
      rw [collecting_self]
  | cons byte rest ih =>
      rcases hpush : s.router.collector.push byte now with ⟨cause | isComplete, c⟩
      · have hsearched : s.searched board now (byte :: rest) =
            ((s.collecting c).tell board (.startRefused cause)).searched board now rest := by
          have htold := collecting_tellAll board (c.search now rest).collector
            [.startRefused cause] (s.collecting c)
          rw [collecting_collecting] at htold
          simp only [searched, FrameCollector.search, hpush, List.map_cons]
          exact congrArg (tellAll board ((c.search now rest).errors.map .startRefused)) htold.symm
        simp only [absorb, hpush, FrameCollector.search]
        rw [hsearched]
        exact ih _
      · cases isComplete with
        | false =>
            have hsearched : s.searched board now (byte :: rest) =
                (s.collecting c).searched board now rest := by
              simp only [searched, FrameCollector.search, hpush]
              rw [collecting_collecting]
              rfl
            simp only [absorb, hpush, FrameCollector.search]
            rw [hsearched]
            exact ih _
        | true =>
            have hframe := FrameCollector.frame?_of_completed hpush
            have hsearched : s.searched board now (byte :: rest) = s.collecting c.reset := by
              simp only [searched, FrameCollector.search, hpush]
              rfl
            simp only [absorb, hpush, FrameCollector.search, hframe, hsearched]

/--
  What absorbing bytes comes to: the frames are those that the collector makes of them, and nothing
  has to do with the line.
-/
structure Absorbs (board : Board ε) (now : Nat) (bytes : List UInt8) (s : Station ε) : Prop where
  line : ∀ line, { s with line }.absorb board now bytes =
    ((s.absorb board now bytes).1, { (s.absorb board now bytes).2 with line })
  core : (s.absorb board now bytes).2.router.core = s.router.core
  frames : (s.absorb board now bytes).1 = (s.router.collector.feed now bytes).1
  collector : (s.absorb board now bytes).2.router.collector =
    (s.router.collector.feed now bytes).2

/-- To absorb some bytes comes to the same as to absorb others, somewhere else. -/
lemma Absorbs.of_eq {t : Station ε} {bytes rest : List UInt8} (h : t.Absorbs board now rest)
    (hmoved : ∀ line, { s with line }.absorb board now bytes =
      { t with line }.absorb board now rest)
    (hcore : t.router.core = s.router.core)
    (hfeed : s.router.collector.feed now bytes = t.router.collector.feed now rest) :
    s.Absorbs board now bytes := by
  have hs : s.absorb board now bytes = ((t.absorb board now rest).1,
      { (t.absorb board now rest).2 with line := s.line }) :=
    (hmoved s.line).trans (h.line s.line)
  refine ⟨fun line => ?_, ?_, ?_, ?_⟩
  · rw [hmoved, h.line, hs]
  · rw [hs]
    exact h.core.trans hcore
  · rw [hs, hfeed]
    exact h.frames
  · rw [hs, hfeed]
    exact h.collector

/-- Any bytes are absorbed by a router that takes the frames in them as they come. -/
theorem absorbs_of_takes (hdetached : board.Detached) {bytes : List UInt8}
    (htakes : s.Takes (s.router.collector.feed now bytes).1) : s.Absorbs board now bytes := by
  induction bytes generalizing s with
  | nil => exact ⟨fun _ => rfl, rfl, rfl, rfl⟩
  | cons byte rest ih =>
      rcases hpush : s.router.collector.push byte now with ⟨cause | isComplete, c⟩
      · simp only [FrameCollector.feed, hpush] at htakes
        have hrest := ih (s := (s.collecting c).tell board (.startRefused cause))
          (htakes.of_core rfl (List.Subset.refl _))
        refine hrest.of_eq (fun line => ?_) rfl ?_
        · simp only [absorb, hpush]
          rfl
        · simp only [FrameCollector.feed, hpush]
          rfl
      · cases isComplete with
        | false =>
            simp only [FrameCollector.feed, hpush] at htakes
            have hrest := ih (s := s.collecting c) (htakes.of_core rfl (List.Subset.refl _))
            refine hrest.of_eq (fun line => ?_) rfl ?_
            · simp only [absorb, hpush]
              rfl
            · simp only [FrameCollector.feed, hpush]
              rfl
        | true =>
            have hframe := FrameCollector.frame?_of_completed hpush
            simp only [FrameCollector.feed, hpush, hframe, Option.toList_some] at htakes
            have htaken : (s.collecting c.reset).Takes [c.received] :=
              htakes.of_core rfl (List.subset_append_left _ _)
            have hoff := offLine_acceptFrame hdetached now htaken
            have hcollector : ((s.collecting c.reset).acceptFrame board now
                c.received).router.collector = c.reset := hoff.collector
            have hrest := ih (s := (s.collecting c.reset).acceptFrame board now c.received) (by
              rw [hcollector]
              exact htakes.of_core hoff.core (List.subset_append_right _ _))
            refine ⟨fun line => ?_, ?_, ?_, ?_⟩ <;>
              simp only [absorb, hpush, FrameCollector.feed, hframe, Option.toList_some]
            · have hline : { s with line }.collecting c.reset =
                  { s.collecting c.reset with line } := rfl
              have hmoved := hoff.line line
              rw [hline, hmoved, hrest.line line]
            · exact hrest.core.trans hoff.core
            · rw [hrest.frames, hcollector]
              rfl
            · rw [hrest.collector, hcollector]

/-! ## Whole calls -/

variable (board) in
lemma searched_line (now : Nat) (line : Line) (bytes : List UInt8) (s : Station ε) :
    { s with line }.searched board now bytes = { s.searched board now bytes with line } := by
  have htold (remarks : List Remark) (t : Station ε) :
      { t with line }.tellAll board remarks = { t.tellAll board remarks with line } := by
    induction remarks generalizing t with
    | nil => rfl
    | cons remark rest ih => exact ih (t.tell board remark)
  exact htold ((s.router.collector.search now bytes).errors.map .startRefused)
    (s.collecting (s.router.collector.search now bytes).collector)

variable (board) in
lemma router_searched (now : Nat) (bytes : List UInt8) (s : Station ε) :
    (s.searched board now bytes).router =
      (s.collecting (s.router.collector.search now bytes).collector).router :=
  router_tellAll board _ _

/-- To take a frame out of the ring is to search for it, and to keep the bytes behind it. -/
lemma pullFrame_eq (s : Station ε) : s.pullFrame board now =
    ((s.router.collector.search now s.line.inbound).frame,
      { s.searched board now s.line.inbound with
        line := { s.line with
          inbound := (s.router.collector.search now s.line.inbound).rest } }) := by
  have hline := searched_line board now
    { s.line with inbound := (s.router.collector.search now s.line.inbound).rest }
    s.line.inbound s
  rw [← hline]
  rfl

/-- **The loop over frames absorbs the bytes in the ring.** -/
theorem acceptFrames_absorb (hdetached : board.Detached) {turns : Nat}
    (hpending : s.router.resetPending = false)
    (htakes : s.Takes (s.router.collector.feed now s.line.inbound).1)
    (hturns : s.line.inbound.length < turns) :
    s.acceptFrames board now turns =
      ((s.absorb board now s.line.inbound).1,
        { (s.absorb board now s.line.inbound).2 with line := s.line.clearInbound }) := by
  induction turns generalizing s with
  | zero => omega
  | succ turns ih =>
      have hfeed := s.router.collector.feed_search now s.line.inbound
      have hfewer := length_rest_search now s.line.inbound s.router.collector
      have hrest : (s.router.collector.search now s.line.inbound).frame = none → _ :=
        FrameCollector.rest_of_search_none now
      have hrouter := router_searched board now s.line.inbound s
      rw [acceptFrames, pullFrame_eq, absorb_search]
      set search := s.router.collector.search now s.line.inbound with hsearch
      cases hframe : search.frame with
      | none =>
          simp only [hrest hframe]
          rfl
      | some frame =>
          rw [hframe] at hfeed hfewer
          rw [hfeed] at htakes
          set found := s.searched board now s.line.inbound with hfound
          have htaken : found.Takes [frame] := htakes.of_core (by rw [hrouter]; rfl)
            (List.subset_append_left [frame] _)
          have hoff := offLine_acceptFrame hdetached now htaken
          set line : Line := { s.line with inbound := search.rest } with hline
          have hmoved : { found with line }.acceptFrame board now frame =
              { found.acceptFrame board now frame with line } := hoff.line line
          set next := { found.acceptFrame board now frame with line } with hnext
          have hcore : next.router.core = s.router.core := by
            have hfoundCore : found.router.core = s.router.core := by rw [hrouter]; rfl
            exact hoff.core.trans hfoundCore
          have hcollector : next.router.collector = search.collector := by
            have hfoundCollector : found.router.collector = search.collector := by rw [hrouter]; rfl
            exact hoff.collector.trans hfoundCollector
          have hstill : next.router.resetPending = false :=
            (congrArg (fun p : Mode × Bool × Bool × Bool × Config => p.2.2.2.1) hcore).trans hpending
          have hlater : next.Takes (next.router.collector.feed now next.line.inbound).1 := by
            rw [hcollector]
            exact htakes.of_core hcore (List.subset_cons_self _ _)
          have hshort : next.line.inbound.length < turns := by
            rw [Option.toList_some, List.length_singleton] at hfewer
            show search.rest.length < turns
            omega
          have habsorbed : next.absorb board now search.rest = _ :=
            (absorbs_of_takes (s := found.acceptFrame board now frame) hdetached hlater).line line
          have hnextRest : next.line.inbound = search.rest := rfl
          simp only [hmoved, performReset_of_not_pending hstill, ih hstill hlater hshort, hnextRest,
            habsorbed]
          rfl

/-- A router that takes frames as they come has no schedule to keep. -/
lemma keepSchedule_of_takes {frames : List (List UInt8)} (h : s.Takes frames) :
    s.keepSchedule board now = s := by
  rcases h with hidle | ⟨-, hfast, -⟩
  · simp only [keepSchedule, hidle, decide_true, Bool.true_or, if_true]
  · exact keepSchedule_fast hfast now

/-- The router is at work. -/
def atWork (s : Station ε) : Station ε := s.onRouter fun r => { r with busy := true }

/-- The router is done with its work, and all bytes have been used up. -/
def doneWith (line : Line) (s : Station ε) : Station ε :=
  { s with line := line.clearInbound }.onRouter fun r => { r with busy := false }

/--
  **A call absorbs the bytes in the ring**, and that is all it does: there is nothing to do before
  the first frame and nothing behind the last one.
-/
theorem process_absorb (hdetached : board.Detached) (hrunning : s.router.running = true)
    (hidle : s.router.busy = false) (hpending : s.router.resetPending = false) {line : Line}
    (hoverrun : line.overrun = false)
    (htakes : s.Takes (s.router.collector.feed (s.now board) line.inbound).1) :
    { s with line }.process board =
      (.processed (s.atWork.absorb board (s.now board) line.inbound).1.length,
        (s.atWork.absorb board (s.now board) line.inbound).2.doneWith line) := by
  set now := s.now board with hnow
  set absorbed := s.atWork.absorb board now line.inbound with habsorbed
  set begun : Station ε := { s.atWork with line } with hbegun
  have htaken : s.atWork.Takes (s.atWork.router.collector.feed now line.inbound).1 := htakes
  have habsorbs := absorbs_of_takes hdetached htaken
  have hready : (begun.discardAfterOverrun board).performReset = begun := by
    rw [discardAfterOverrun_eq (s := begun) hoverrun]
    exact performReset_of_not_pending (s := begun) hpending
  have hturns : begun.line.inbound.length < begun.frameTurns board := by
    simp only [frameTurns]
    omega
  have haccepted : begun.acceptFrames board now (begun.frameTurns board) =
      (absorbed.1, { absorbed.2 with line := line.clearInbound }) := by
    have hall : begun.acceptFrames board now (begun.frameTurns board) = _ :=
      acceptFrames_absorb hdetached hpending htaken hturns
    have hmoved : begun.absorb board now begun.line.inbound = _ := habsorbs.line line
    rw [hmoved] at hall
    exact hall
  have hdone : Takes [] ({ absorbed.2 with line := line.clearInbound } : Station ε) :=
    htaken.of_core habsorbs.core (List.nil_subset _)
  have hreceived : begun.processReceived board =
      (absorbed.1, { absorbed.2 with line := line.clearInbound }) := by
    have hclock : begun.now board = now := rfl
    simp only [processReceived, hready, hclock, haccepted]
    rw [keepSchedule_of_takes hdone]
  have hbusy : (onRouter (fun r => { r with busy := true }) { s with line }) = begun := rfl
  simp only [process, hrunning, hidle, Bool.not_true, Bool.false_eq_true, if_false, hbusy, hreceived]
  rfl

/-! ## Bytes in pieces -/

/--
  Bytes come in pieces, and each piece is processed once it has come.  The answer is the number of
  frames that were acted on.
-/
def takePieces (board : Board ε) : List (List UInt8) → Station ε → Nat × Station ε
  | [], s => (0, s)
  | piece :: rest, s =>
    let (outcome, s) := (s.receive piece).process board
    let (frames, s) := takePieces board rest s
    (outcome.frames + frames, s)

/-- Whenever a piece is processed, the clock shows the given time. -/
def PiecesAt (board : Board ε) (now : Nat) : List (List UInt8) → Station ε → Prop
  | [], _ => True
  | piece :: rest, s =>
    s.now board = now ∧ PiecesAt board now rest ((s.receive piece).process board).2

/-- A clock that stands still shows the same time whenever it is looked at. -/
lemma piecesAt_of_still (hstill : ∀ e : ε, board.now e = now) (pieces : List (List UInt8))
    (s : Station ε) : PiecesAt board now pieces s := by
  induction pieces generalizing s with
  | nil => trivial
  | cons piece rest ih => exact ⟨hstill s.surroundings, ih _⟩

/-- Bytes that fit may come one after the other, also if the ring is emptied in between. -/
lemma receive_append (line : Line) {first rest : List UInt8}
    (h : line.inbound.length + (first ++ rest).length ≤ Line.capacity) :
    (line.receive (first ++ rest)).2 = ((line.receive first).2.receive rest).2 ∧
      (line.receive (first ++ rest)).2.clearInbound =
        ((line.receive first).2.clearInbound.receive rest).2.clearInbound := by
  rw [List.length_append] at h
  have hcount : line.bytesReceived + UInt32.ofNat first.length + UInt32.ofNat rest.length =
      line.bytesReceived + UInt32.ofNat (first ++ rest).length := by
    rw [List.length_append, UInt32.ofNat_add, UInt32.add_assoc]
  have hall : (line.receive (first ++ rest)).2 = _ :=
    line.receive_eq (by rw [List.length_append]; exact h)
  have hfirst : (line.receive first).2 = _ := line.receive_eq (by omega)
  have hrest : ((line.receive first).2.receive rest).2 = _ :=
    (line.receive first).2.receive_eq (by rw [hfirst, List.length_append]; omega)
  have hempty : ((line.receive first).2.clearInbound.receive rest).2 = _ :=
    (line.receive first).2.clearInbound.receive_eq (by
      show ([] : List UInt8).length + rest.length ≤ Line.capacity
      rw [List.length_nil]
      omega)
  rw [hall, hrest, hempty, hfirst]
  simp only [Line.clearInbound, hcount, List.append_assoc, and_self]

/-- A router at work receives bytes, and that is all. -/
lemma takePieces_of_busy (hbusy : s.router.busy = true) {pieces : List (List UInt8)}
    (hfits : s.line.inbound.length + pieces.flatten.length ≤ Line.capacity) :
    s.takePieces board pieces = (0, s.receive pieces.flatten) := by
  induction pieces generalizing s with
  | nil =>
      have hnothing : (s.line.receive ([] : List (List UInt8)).flatten).2 = _ :=
        s.line.receive_eq hfits
      have hcount : s.line.bytesReceived + UInt32.ofNat ([] : List UInt8).length =
          s.line.bytesReceived := UInt32.add_zero _
      rw [receive, hnothing, List.flatten_nil, List.append_nil, hcount]
      rfl
  | cons piece rest ih =>
      rw [List.flatten_cons] at hfits ⊢
      have hboth : s.receive (piece ++ rest.flatten) = (s.receive piece).receive rest.flatten := by
        rw [receive, (receive_append s.line hfits).1]
        rfl
      have hbusy' : (s.receive piece).router.busy = true := hbusy
      have hskipped : (s.receive piece).process board = (.skipped, s.receive piece) := by
        simp only [process, hbusy', if_true]
      have hroom : (s.receive piece).line.inbound.length + rest.flatten.length ≤ Line.capacity := by
        rw [List.length_append] at hfits
        rw [receive, s.line.receive_eq (by omega), List.length_append]
        omega
      rw [hboth]
      simp only [takePieces, hskipped, ih hbusy' hroom, Outcome.frames]

/-- Once its work is done a router is as it was, and with the next bytes it goes on from there. -/
lemma atWork_doneWith {t : Station ε} (hcore : t.router.core = s.atWork.router.core)
    (hidle : s.router.busy = false) (line : Line) :
    (t.doneWith line).router.core = s.router.core ∧
      (t.doneWith line).atWork = { t with line := line.clearInbound } := by
  obtain ⟨hmode, hrunning, hbusy, hpending, hconfig⟩ := Router.core_eq hcore
  constructor
  · simp only [doneWith, onRouter, Router.core, hmode, hrunning, hpending, hconfig, hidle]
    rfl
  · have hsame : { t.router with busy := true } = t.router := by
      rw [← show t.router.busy = true from hbusy]
    simp only [atWork, doneWith, onRouter, hsame]

/-- A call that comes once bytes have arrived absorbs them, behind those that were waiting. -/
lemma receive_absorb (hdetached : board.Detached) (hrunning : s.router.running = true)
    (hidle : s.router.busy = false) (hpending : s.router.resetPending = false)
    (hoverrun : s.line.overrun = false) {bytes : List UInt8}
    (hfits : s.line.inbound.length + bytes.length ≤ Line.capacity)
    (htakes : s.Takes (s.router.collector.feed (s.now board) (s.line.inbound ++ bytes)).1) :
    (s.receive bytes).process board =
      (.processed (s.atWork.absorb board (s.now board) (s.line.inbound ++ bytes)).1.length,
        (s.atWork.absorb board (s.now board) (s.line.inbound ++ bytes)).2.doneWith
          (s.line.receive bytes).2) := by
  have hkept : (s.line.receive bytes).2 = _ := s.line.receive_eq hfits
  have hinbound : (s.line.receive bytes).2.inbound = s.line.inbound ++ bytes := by rw [hkept]
  have hclear : (s.line.receive bytes).2.overrun = false := by
    rw [hkept]
    exact hoverrun
  have hprocess := process_absorb hdetached hrunning hidle hpending hclear
    (by rw [hinbound]; exact htakes)
  rw [hinbound] at hprocess
  exact hprocess

/-- **Whatever the pieces, all bytes are absorbed**, those that were waiting first. -/
theorem takePieces_absorb (hdetached : board.Detached) (hrunning : s.router.running = true)
    (hidle : s.router.busy = false) (hpending : s.router.resetPending = false)
    (hoverrun : s.line.overrun = false) {pieces : List (List UInt8)} (hpieces : pieces ≠ [])
    (hfits : s.line.inbound.length + pieces.flatten.length ≤ Line.capacity)
    (htakes : s.Takes (s.router.collector.feed now (s.line.inbound ++ pieces.flatten)).1)
    (htimes : PiecesAt board now pieces s) :
    s.takePieces board pieces =
      ((s.atWork.absorb board now (s.line.inbound ++ pieces.flatten)).1.length,
        (s.atWork.absorb board now (s.line.inbound ++ pieces.flatten)).2.doneWith
          (s.line.receive pieces.flatten).2) := by
  induction pieces generalizing s with
  | nil => exact absurd rfl hpieces
  | cons piece rest ih =>
      obtain ⟨hnow, hlater⟩ := htimes
      rw [List.flatten_cons] at hfits htakes ⊢
      rw [← List.append_assoc, FrameCollector.feed_append] at htakes
      have hfirst : s.Takes (s.router.collector.feed now (s.line.inbound ++ piece)).1 :=
        htakes.of_core rfl (List.subset_append_left _ _)
      have hroom : s.line.inbound.length + piece.length ≤ Line.capacity := by
        rw [List.length_append] at hfits
        omega
      have hprocess := receive_absorb hdetached hrunning hidle hpending hoverrun hroom
        (by rw [hnow]; exact hfirst)
      rw [hnow] at hprocess
      have habsorbs : Absorbs board now (s.line.inbound ++ piece) s.atWork :=
        absorbs_of_takes hdetached hfirst
      set line := (s.line.receive piece).2 with hline
      set absorbed := s.atWork.absorb board now (s.line.inbound ++ piece) with habsorbed
      set after := absorbed.2.doneWith line with hafter
      -- at work again it is the router that has absorbed the first piece: the rest goes on from it
      obtain ⟨hcore, hback⟩ : after.router.core = s.router.core ∧
          after.atWork = { absorbed.2 with line := line.clearInbound } :=
        atWork_doneWith habsorbs.core hidle line
      rw [hprocess] at hlater
      cases rest with
      | nil =>
          rw [List.flatten_nil, List.append_nil, ← hline, ← habsorbed, ← hafter]
          simp only [takePieces, hprocess, Outcome.frames, Nat.add_zero]
      | cons next rest =>
          set bytes := (next :: rest).flatten with hbytes
          have hlaterFrames : absorbed.2.router.collector.feed now bytes =
              (s.router.collector.feed now (s.line.inbound ++ piece)).2.feed now bytes := by
            rw [habsorbs.collector]
            rfl
          have htaken : after.Takes (absorbed.2.router.collector.feed now bytes).1 := by
            rw [hlaterFrames]
            exact htakes.of_core hcore (List.subset_append_right _ _)
          have hmoved : after.atWork.absorb board now bytes =
              ((absorbed.2.absorb board now bytes).1,
                { (absorbed.2.absorb board now bytes).2 with line := line.clearInbound }) := by
            rw [hback]
            exact (absorbs_of_takes (s := absorbed.2) hdetached htaken).line line.clearInbound
          have hlaterRoom : after.line.inbound.length + bytes.length ≤ Line.capacity := by
            rw [List.length_append] at hfits
            show 0 + bytes.length ≤ Line.capacity
            omega
          obtain ⟨-, hrunning', -, hpending', -⟩ := Router.core_eq hcore
          have hclear : after.line.overrun = false := by
            show (s.line.receive piece).2.overrun = false
            rw [s.line.receive_eq hroom]
            exact hoverrun
          have hrest := ih (s := after) (hrunning'.trans hrunning) rfl (hpending'.trans hpending)
            hclear (List.cons_ne_nil _ _) hlaterRoom htaken hlater
          have hinbound' : after.line.inbound ++ bytes = bytes := List.nil_append bytes
          rw [hinbound', hmoved] at hrest
          have hline' := (receive_append s.line hfits).2
          rw [takePieces, hprocess]
          rw [← List.append_assoc, absorb_append (s.line.inbound ++ piece) bytes, ← habsorbed]
          simp only [hrest, doneWith, Outcome.frames, hline', List.length_append]
          rfl

end Station

/--
  **It does not matter in which pieces bytes are received.**  The router runs, and no reset is pending
  and no loss noted.  It is idle, or it takes inventory with a reader that reports tags on its own.
  Bytes arrive that fit into the inbound ring, in one or more pieces, and each piece is processed at
  the same time.  If none of the frames that begin with what was received before tells of an antenna
  error, or the router is idle, then everything is as if the bytes had arrived together and had been
  processed by a single call: the router, the line, the surroundings with all that callbacks and
  journal have done to them, and the number of frames.
-/
theorem takePieces_eq_takeWhole (hdetached : board.Detached) {s : Station ε}
    (hrunning : s.router.running = true) (hpending : s.router.resetPending = false)
    (hoverrun : s.line.overrun = false) {pieces : List (List UInt8)} (hpieces : pieces ≠ [])
    (hfits : s.line.inbound.length + pieces.flatten.length ≤ Line.capacity)
    (htakes : s.Takes
      (s.router.collector.feed (s.now board) (s.line.inbound ++ pieces.flatten)).1)
    (htimes : Station.PiecesAt board (s.now board) pieces s) :
    let whole := (s.receive pieces.flatten).process board
    s.takePieces board pieces = (whole.1.frames, whole.2) := by
  intro whole
  cases hbusy : s.router.busy with
  | true =>
      have hbusy' : (s.receive pieces.flatten).router.busy = true := hbusy
      have hskipped : whole = (.skipped, s.receive pieces.flatten) := by
        simp only [whole, Station.process, hbusy', if_true]
      rw [Station.takePieces_of_busy hbusy hfits, hskipped]
      rfl
  | false =>
      have hwhole : whole = _ :=
        Station.receive_absorb hdetached hrunning hbusy hpending hoverrun hfits htakes
      rw [Station.takePieces_absorb hdetached hrunning hbusy hpending hoverrun hpieces hfits htakes
        htimes, hwhole]
      rfl

lemma Board.detached_keeping : Board.keeping.Detached where
  deliver := ⟨fun text texts => (.ok (), texts ++ [text]), fun _ _ => rfl⟩
  notifyRead := ⟨fun texts => texts, fun _ => rfl⟩

/-- A tag is reported while the ring holds the beginning of the frame; noise comes behind it. -/
theorem takePieces_eq_takeWhole_upload :
    let stream := (TagFrame.upload 0 0x00 1 (.short 0x01)).bytes ++ [0x00, 0x01] ++
      (TagFrame.upload 0 0x00 1 (.short 0x03)).bytes
    let s : Station (List String) := ((Station.fresh { Config.standard with strategy := .fast }
      []).onRouter fun r => { r with running := true, mode := .inventory }).receive (stream.take 3)
    let pieces := [(stream.drop 3).take 4, [], (stream.drop 7).take 9, stream.drop 16]
    let taken := s.takePieces Board.keeping pieces
    taken.1 = 2 ∧ taken.2.surroundings = ["E201", "E203"] ∧
      taken.2 = ((s.receive (stream.drop 3)).process Board.keeping).2 := by
  intro stream s pieces taken
  have hrunning : s.router.running = true := rfl
  have hpending : s.router.resetPending = false := rfl
  have hoverrun : s.line.overrun = false := by decide +kernel
  have hpieces : pieces ≠ [] := List.cons_ne_nil _ _
  have hall : pieces.flatten = stream.drop 3 := by decide +kernel
  have hfits : s.line.inbound.length + pieces.flatten.length ≤ Line.capacity := by decide +kernel
  have htakes : s.Takes
      (s.router.collector.feed (s.now Board.keeping) (s.line.inbound ++ pieces.flatten)).1 :=
    .inr ⟨rfl, rfl, by decide +kernel⟩
  have htaken := takePieces_eq_takeWhole Board.detached_keeping hrunning hpending hoverrun hpieces
    hfits htakes (Station.piecesAt_of_still (fun _ => rfl) pieces s)
  rw [hall] at htaken
  set whole := (s.receive (stream.drop 3)).process Board.keeping with hwhole
  have htaken : taken = (whole.1.frames, whole.2) := htaken
  have hframes : whole.1.frames = 2 := by decide +kernel
  have htexts : whole.2.surroundings = ["E201", "E203"] := by decide +kernel
  clear_value whole
  rw [htaken]
  exact ⟨hframes, htexts, rfl⟩

/-! ## Where the pieces matter -/

lemma Board.detached_still (now : Nat) (settings : ReaderSettings) :
    (Board.still now settings : Board ε).Detached where
  deliver := ⟨fun _ e => (.ok (), e), fun _ _ => rfl⟩
  notifyRead := ⟨fun e => e, fun _ => rfl⟩

/-- What is true of every block of some bytes can be seen from the blocks that begin at a place. -/
lemma forall_isInfix_iff {P : List UInt8 → Prop} {bytes : List UInt8} :
    (∀ block, block <:+: bytes → P block) ↔ ∀ rest ∈ bytes.tails, ∀ block ∈ rest.inits, P block := by
  simp only [List.mem_tails, List.mem_inits, List.infix_iff_prefix_suffix]
  constructor
  · intro h rest hrest block hblock
    exact h block ⟨rest, hblock, hrest⟩
  · rintro h block ⟨rest, hblock, hrest⟩
    exact h rest hrest block hblock

/-- A response to an inventory round that tells of an antenna error. -/
def antennaErrorFrame : List UInt8 := Frame.ofBody [0x00, 0x01, 0xF8]

/--
  **It matters in which pieces bytes are received, if an antenna error waits in the ring.**  Two
  responses arrive, and no block of their bytes tells of an antenna error.  What is in the ring
  before them does: inventory ends, and all that has arrived by then is thrown away.  That is both
  responses if they have come together, and only the first if the second comes later.
-/
theorem antennaError_in_ring_divides_pieces :
    let board : Board Unit := .still 0 { rfPower := 0, address := 0, antenna := 0 }
    let s := ((Station.fresh { Config.standard with strategy := .fast } ()).onRouter fun r =>
      { r with running := true, mode := .inventory }).receive antennaErrorFrame
    let pieces := [tagCountFrame, tagCountFrame]
    let whole := (s.receive pieces.flatten).process board
    board.Detached ∧ s.router.running = true ∧ s.router.resetPending = false ∧
      s.line.overrun = false ∧ s.router.mode = .inventory ∧ s.router.config.strategy = .fast ∧
      s.line.inbound.length + pieces.flatten.length ≤ Line.capacity ∧
      (∀ block, block <:+: pieces.flatten → Frame.tellsAntennaError block = false) ∧
      Station.PiecesAt board (s.now board) pieces s ∧
      (s.takePieces board pieces).1 = 2 ∧ whole.1 = .processed 1 ∧
      (s.takePieces board pieces).2.router.tagCount = some 5 ∧
      whole.2.router.tagCount = none := by
  intro board s pieces whole
  refine ⟨Board.detached_still _ _, rfl, rfl, by decide +kernel, rfl, rfl, by decide +kernel, ?_,
    Station.piecesAt_of_still (fun _ => rfl) pieces s, by decide +kernel, by decide +kernel,
    by decide +kernel, by decide +kernel⟩
  rw [forall_isInfix_iff]
  decide +kernel

end RfidLink
