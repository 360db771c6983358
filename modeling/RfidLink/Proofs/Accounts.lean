import Mathlib.Algebra.GroupWithZero.Nat
import RfidLink.Proofs.Contents
import RfidLink.Proofs.HeldBack
import RfidLink.Proofs.Soundness

/-!
# The counters account for everything

Each frame leaves a call to process received bytes by one of three ways, and each tag by one of
four.  What is counted on the way has to add up.

* `Frame.isDamaged`, `Frame.isUnreadable` and `Frame.isAnswered` are the ways of a frame.
* `Handled` is a tag with the mode in which it was handled and what became of it, and
  `Station.handled` lists the tags of a call.  The mode may change between two frames, so each tag
  is handled on the station that the frames and tags before it have left.
* A `CallMeter` counts in the surroundings how often the consumer was given a tag and how often a
  read was notified.
* `Station.Account` says that the counters have grown by what some frames and tags make, and
  `account_offer` and `account_acceptFrame` are the steps.

**`process_accounts`** is a whole call, from any state that a router reaches and with callbacks that
call no operation of the router.
-/

namespace RfidLink

variable {ε : Type} {board : Board ε}

/-! ## The ways of frames and tags -/

namespace Frame

/-- The response in a frame, if there is one that can be read. -/
def response? (frame : List UInt8) : Option Response := (Response.ofFrame frame).toOption

def isDamaged (frame : List UInt8) : Bool := !Checksum.isValid frame

def isUnreadable (frame : List UInt8) : Bool := Checksum.isValid frame && (response? frame).isNone

def isAnswered (frame : List UInt8) : Bool := (response? frame).isSome

/-- The tags that the response in a frame reports. -/
def sightings (frame : List UInt8) : List Sighting :=
  (response? frame).elim [] (·.content.sightings)

/-- The number of tags that the response in a frame announces. -/
def announced (frame : List UInt8) : Nat := (response? frame).elim 0 (·.content.announced)

lemma response?_of_ok {frame : List UInt8} {response : Response}
    (h : Response.ofFrame frame = .ok response) : response? frame = some response := by
  rw [response?, h]
  rfl

lemma response?_of_error {frame : List UInt8} {cause : ResponseError}
    (h : Response.ofFrame frame = .error cause) : response? frame = none := by
  rw [response?, h]
  rfl

/-- Nothing is read from a frame whose checksum does not match. -/
lemma response?_of_isDamaged {frame : List UInt8} (h : Checksum.isValid frame = false) :
    response? frame = none := by
  rw [response?, Response.ofFrame]
  split
  · rfl
  · rw [h]
    rfl

/-- **Each frame goes one of the three ways**, and no other. -/
lemma ways (frame : List UInt8) :
    (isDamaged frame = true ∧ isUnreadable frame = false ∧ isAnswered frame = false) ∨
    (isDamaged frame = false ∧ isUnreadable frame = true ∧ isAnswered frame = false) ∨
    (isDamaged frame = false ∧ isUnreadable frame = false ∧ isAnswered frame = true) := by
  cases hvalid : Checksum.isValid frame with
  | false =>
      have hnone := response?_of_isDamaged hvalid
      exact .inl (by simp [isDamaged, isUnreadable, isAnswered, hvalid, hnone])
  | true =>
      cases hread : response? frame with
      | none => exact .inr (.inl (by simp [isDamaged, isUnreadable, isAnswered, hvalid, hread]))
      | some _ => exact .inr (.inr (by simp [isDamaged, isUnreadable, isAnswered, hvalid, hread]))

lemma countP_ways (frames : List (List UInt8)) :
    frames.length =
      frames.countP isDamaged + frames.countP isUnreadable + frames.countP isAnswered := by
  induction frames with
  | nil => rfl
  | cons frame rest ih =>
      rw [List.countP_cons, List.countP_cons, List.countP_cons, List.length_cons, ih]
      obtain ⟨hdamaged, hunreadable, hanswered⟩ | ⟨hdamaged, hunreadable, hanswered⟩ |
        ⟨hdamaged, hunreadable, hanswered⟩ := ways frame
      all_goals
        simp only [hdamaged, hunreadable, hanswered, if_true, Bool.false_eq_true, if_false]
        omega

/-- What is counted for a frame. -/
def count (frame : List UInt8) (c : Counters) : Counters :=
  let c := { c with framesReceived := c.framesReceived + 1 }
  if isDamaged frame then { c with framesDamaged := c.framesDamaged + 1 }
  else if isUnreadable frame then { c with framesUnreadable := c.framesUnreadable + 1 }
  else c

/-- **A response gives every tag that it announces.** -/
lemma length_sightings (frame : List UInt8) : (sightings frame).length = announced frame := by
  rw [sightings, announced]
  cases hread : Response.ofFrame frame with
  | error cause => rw [response?_of_error hread]; rfl
  | ok response =>
      rw [response?_of_ok hread]
      exact Content.length_sightings_of_ofPayload (Response.ofFrame_eq_ok hread).2

end Frame

/-- What becomes of a tag. -/
inductive TagFate where
  | ignored
  | heldBack
  | passedOn
  | undelivered
deriving DecidableEq

/-- A tag, the mode in which it was handled, and what became of it. -/
structure Handled where
  tag : Sighting
  mode : Mode
  fate : TagFate
deriving DecidableEq

namespace Station

variable (board)

/-- What becomes of a tag that was read at `now`. -/
def fate (now : Nat) (tag : Sighting) (s : Station ε) : TagFate :=
  if s.router.mode = .idle then .ignored
  else
    let (isLetThrough, filter) := s.router.filter.record tag.epc.toList tag.rssi now
    let recorded := (s.count fun c => { c with tagsRead := c.tagsRead + 1 }).onRouter
      fun r => { r with filter }
    if !isLetThrough then .heldBack
    else if recorded.takes board tag then .passedOn
    else .undelivered

/-- The tags of one response, each on the station that those before it have left. -/
def handledTags (now : Nat) : List Sighting → Station ε → List Handled
  | [], _ => []
  | tag :: rest, s =>
    { tag, mode := s.router.mode, fate := s.fate board now tag } ::
      handledTags now rest (s.offer board now tag)

/-- The station on which a content is used: the frame is counted, the answer kept. -/
def registered (frame : List UInt8) (response : Response) (s : Station ε) : Station ε :=
  let s := (s.count fun c => { c with framesReceived := c.framesReceived + 1 }).tell board
    (.received frame response)
  (answerOf response.head (responsePayload frame)).elim s s.keepAnswer

/-- The tags of one frame. -/
def handledIn (now : Nat) (frame : List UInt8) (s : Station ε) : List Handled :=
  (Frame.response? frame).elim [] fun response =>
    handledTags board now response.content.sightings (s.registered board frame response)

/-- The tags of the frames that are taken from the line, at most the given number of them. -/
def handledInAll (now : Nat) : Nat → Station ε → List Handled
  | 0, _ => []
  | turns + 1, s =>
    match s.pullFrame board now with
    | (none, _) => []
    | (some frame, s) =>
      s.handledIn board now frame ++
        handledInAll now turns (s.acceptFrame board now frame).performReset

/-- The tags of a call to process received bytes, in the order in which they are handled. -/
def handled (s : Station ε) : List Handled :=
  if s.router.busy || !s.router.running then []
  else handledInAll board (s.now board) ((s.ready board).frameTurns board) (s.ready board)

end Station

/-! ## Calls of the consumer -/

/-- How often the consumer was given a tag, and how often a read was notified. -/
structure CallCount where
  delivered : Nat
  noticed : Nat
deriving DecidableEq

/-- Surroundings in which the calls are counted. -/
structure CallMeter (board : Board ε) where
  calls : ε → CallCount
  calls_write : ∀ remark e, calls (board.write remark e) = calls e
  calls_emit : ∀ byte e, calls (board.emit byte e).2 = calls e
  calls_interrupts : ∀ e, calls (board.interrupts e).2 = calls e
  calls_deliver : ∀ text s, calls (board.deliver text s).2.surroundings =
    { calls s.surroundings with delivered := (calls s.surroundings).delivered + 1 }
  calls_notifyRead : ∀ s, calls (board.notifyRead s).surroundings =
    { calls s.surroundings with noticed := (calls s.surroundings).noticed + 1 }
  calls_notifyError : ∀ isOn s,
    calls (board.notifyError isOn s).surroundings = calls s.surroundings

namespace TagFate

/-- What is counted for what becomes of a tag. -/
def count (c : Counters) : TagFate → Counters
  | ignored => c
  | heldBack => { c with tagsHeldBack := c.tagsHeldBack + 1 }
  | passedOn => { c with tagsPassedOn := c.tagsPassedOn + 1 }
  | undelivered => { c with tagsUndelivered := c.tagsUndelivered + 1 }

/-- The calls that are made for it. -/
def call (c : CallCount) : TagFate → CallCount
  | ignored | heldBack => c
  | passedOn => { delivered := c.delivered + 1, noticed := c.noticed + 1 }
  | undelivered => { c with delivered := c.delivered + 1 }

end TagFate

lemma CallMeter.spares (meter : CallMeter board) : board.Spares meter.calls :=
  ⟨meter.calls_emit, meter.calls_interrupts⟩

/-! ## Callbacks that stay apart -/

/-- The router is left alone; bytes may arrive and be sent. -/
structure Station.Apart (s t : Station ε) : Prop where
  router : t.router = s.router
  line : s.line.Served t.line

lemma Line.Served.length_outbound {line line' : Line} (h : line.Served line')
    (hline : line.outbound.length ≤ capacity) : line'.outbound.length ≤ capacity := by
  induction h with
  | refl => exact hline
  | receive bytes _ ih => exact ih
  | transmit accepted _ ih => exact Nat.le_trans (List.drop_sublist _ _).length_le ih

lemma Station.Apart.keeps {s t : Station ε} (h : s.Apart t) : s.Keeps t := by
  refine ⟨fun hs => ⟨?_, ?_, ?_, h.line.length_outbound hs.outbound⟩, ?_⟩
  · rw [h.router]
    exact hs.collector
  · rw [h.router]
    exact hs.filter
  · rw [h.router]
    exact hs.answers
  · rw [h.router]

/-! ## What is not counted -/

/-- The counters that have to do with frames and tags. -/
def Counters.traffic (c : Counters) :
    (UInt32 × UInt32 × UInt32) × UInt32 × UInt32 × UInt32 × UInt32 :=
  ((c.framesReceived, c.framesDamaged, c.framesUnreadable),
    c.tagsRead, c.tagsPassedOn, c.tagsHeldBack, c.tagsUndelivered)

namespace Station

variable {s t u : Station ε} {meter : CallMeter board}

/-- No frame and no tag was counted, and the consumer was not called. -/
structure Uncounted (meter : CallMeter board) (s t : Station ε) : Prop where
  traffic : t.router.counters.traffic = s.router.counters.traffic
  calls : meter.calls t.surroundings = meter.calls s.surroundings

lemma Uncounted.refl (s : Station ε) : s.Uncounted meter s := ⟨rfl, rfl⟩

lemma Uncounted.trans (hst : s.Uncounted meter t) (htu : t.Uncounted meter u) :
    s.Uncounted meter u :=
  ⟨htu.traffic.trans hst.traffic, htu.calls.trans hst.calls⟩

lemma uncounted_tell (remark : Remark) (s : Station ε) : s.Uncounted meter (s.tell board remark) :=
  ⟨rfl, meter.calls_write remark s.surroundings⟩

lemma uncounted_tellAll (remarks : List Remark) (s : Station ε) :
    s.Uncounted meter (s.tellAll board remarks) := by
  induction remarks generalizing s with
  | nil => exact .refl s
  | cons remark rest ih => exact (uncounted_tell remark s).trans (ih _)

lemma uncounted_performReset (s : Station ε) : s.Uncounted meter s.performReset := by
  simp only [performReset]
  split
  · exact ⟨rfl, rfl⟩
  · exact .refl s

lemma uncounted_enterMode (mode : Mode) (s : Station ε) :
    s.Uncounted meter (s.enterMode board mode) := by
  have hnoted : s.Uncounted meter
      ((s.onRouter fun r => { r with mode, resetPending := true }).tell board
      (.modeChanged s.router.mode mode)) := ⟨rfl, meter.calls_write _ s.surroundings⟩
  simp only [enterMode, resetUnlessBusy]
  split
  · exact .refl s
  · split
    · exact hnoted
    · exact hnoted.trans (uncounted_performReset _)

lemma uncounted_endOnlyRound (s : Station ε) : s.Uncounted meter (s.endOnlyRound board) := by
  have hended : s.Uncounted meter s.endSchedule := ⟨rfl, rfl⟩
  exact (hended.trans (uncounted_tellAll _ _)).trans (uncounted_enterMode .idle _)

lemma uncounted_discardAfterOverrun (s : Station ε) :
    s.Uncounted meter (s.discardAfterOverrun board) := by
  simp only [discardAfterOverrun]
  split
  · exact ⟨rfl, meter.calls_write .overrun s.surroundings⟩
  · exact ⟨rfl, rfl⟩

lemma uncounted_ready (s : Station ε) : s.Uncounted meter (s.ready board) := by
  have hbegun : s.Uncounted meter (s.onRouter fun r => { r with busy := true }) := ⟨rfl, rfl⟩
  exact (hbegun.trans (uncounted_discardAfterOverrun _)).trans (uncounted_performReset _)

lemma uncounted_pullFrame (now : Nat) (s : Station ε) :
    s.Uncounted meter (s.pullFrame board now).2 := by
  set search := s.router.collector.search now s.line.inbound with hsearch
  have hcollected : s.Uncounted meter
      { s with
        router := { s.router with collector := search.collector }.count fun c =>
          { c with framingErrors :=
              c.framingErrors + (search.collector.errors - s.router.collector.errors) }
        line := { s.line with inbound := search.rest } } := ⟨rfl, rfl⟩
  exact hcollected.trans (uncounted_tellAll _ _)

lemma uncounted_sendTo (address : UInt8) (command : Command) (s : Station ε) :
    s.Uncounted meter (s.sendTo board address command).2 := by
  have hinterrupted : s.Uncounted meter (s.interrupted board) :=
    ⟨congrArg (·.counters.traffic) (router_interrupted s), meter.spares.interrupted s⟩
  obtain ⟨-, h⟩ | ⟨_, -, -, h⟩ | ⟨frame, -, -, -, h⟩ | ⟨frame, -, -, -, h⟩ :=
    sendTo_cases board address command s
  · rw [h]
    exact .refl s
  · rw [h]
    exact .refl s
  · rw [h]
    have hqueued : (s.interrupted board).Uncounted meter
        ((s.interrupted board).enqueueAll board frame) :=
      ⟨congrArg (·.counters.traffic) (router_enqueueAll frame _), meter.spares.enqueueAll frame _⟩
    exact (hinterrupted.trans hqueued).trans (uncounted_tell _ _)
  · rw [h]
    have hrefused : (s.interrupted board).Uncounted meter ((s.interrupted board).refuse frame) :=
      ⟨rfl, rfl⟩
    exact (hinterrupted.trans hrefused).trans (uncounted_tell _ _)

lemma uncounted_startRound (now : Nat) (s : Station ε) :
    s.Uncounted meter (s.startRound board now) := by
  have hsent : s.Uncounted meter _ :=
    uncounted_sendTo s.router.address s.router.config.strategy.openingCommand s
  simp only [startRound, send]
  split <;> rename_i result t heq <;> rw [heq] at hsent
  · exact hsent.trans ⟨rfl, rfl⟩
  · have htold := hsent.trans (uncounted_tell (.roundNotStarted result) t)
    split
    · exact htold.trans ⟨rfl, rfl⟩
    · exact htold

lemma uncounted_keepSchedule (now : Nat) (s : Station ε) :
    s.Uncounted meter (s.keepSchedule board now) := by
  have habandoned : s.Uncounted meter ((s.tell board .roundAbandoned).count fun c =>
      { c with roundsAbandoned := c.roundsAbandoned + 1 }) :=
    ⟨rfl, meter.calls_write _ s.surroundings⟩
  simp only [keepSchedule, abandonRound]
  split
  · exact .refl s
  · split
    · split
      · exact .refl s
      · split
        · exact habandoned.trans (uncounted_endOnlyRound _)
        · have hdue := habandoned.trans (u := ((s.tell board .roundAbandoned).count fun c =>
            { c with roundsAbandoned := c.roundsAbandoned + 1 }).onRouter
              (·.reschedule (·.dueAt now))) ⟨rfl, rfl⟩
          exact hdue.trans (uncounted_startRound now _)
    · split
      · exact .refl s
      · exact uncounted_startRound now s

/-- Following a round counts no frame and no tag: the light is no consumer. -/
lemma uncounted_followRound (hrouter : board.CallbacksAre fun s t => t.router = s.router) (now : Nat)
    (status : Status) (s : Station ε) : s.Uncounted meter (s.followRound board now status) := by
  set shown := (s.tell board .antennaError).onRouter fun r => { r with errorShown := true }
    with hshown
  have htold : s.Uncounted meter shown := ⟨rfl, meter.calls_write _ s.surroundings⟩
  have hnotified : shown.Uncounted meter (shown.notify (board.notifyError true)) := by
    refine ⟨congrArg (·.counters.traffic) (router_notify (hrouter.notifyError true) shown), ?_⟩
    simp only [notify]
    split
    · rfl
    · exact meter.calls_notifyError true _
  simp only [followRound, stopForAntenna, ← hshown]
  split
  · exact .refl s
  · split
    · have hended := (htold.trans hnotified).trans
        (u := (shown.notify (board.notifyError true)).endSchedule) ⟨rfl, rfl⟩
      exact hended.trans (uncounted_enterMode .idle _)
    · split
      · exact .refl s
      · split
        · exact .refl s
        · exact ⟨rfl, rfl⟩
        · exact uncounted_endOnlyRound s

end Station

/-! ## Accounts -/

namespace Station

variable {s t u : Station ε} {meter : CallMeter board} {frames frames' : List (List UInt8)}
  {handled handled' : List Handled}

/-- From `s` to `t` nothing was counted but these frames and these tags. -/
structure Account (meter : CallMeter board) (s t : Station ε) (frames : List (List UInt8))
    (handled : List Handled) : Prop where
  framesReceived : t.router.counters.framesReceived =
    s.router.counters.framesReceived + .ofNat frames.length
  framesDamaged : t.router.counters.framesDamaged =
    s.router.counters.framesDamaged + .ofNat (frames.countP Frame.isDamaged)
  framesUnreadable : t.router.counters.framesUnreadable =
    s.router.counters.framesUnreadable + .ofNat (frames.countP Frame.isUnreadable)
  tagsRead : t.router.counters.tagsRead = s.router.counters.tagsRead + .ofNat handled.length
  tagsPassedOn : t.router.counters.tagsPassedOn =
    s.router.counters.tagsPassedOn + .ofNat (handled.countP (·.fate = .passedOn))
  tagsHeldBack : t.router.counters.tagsHeldBack =
    s.router.counters.tagsHeldBack + .ofNat (handled.countP (·.fate = .heldBack))
  tagsUndelivered : t.router.counters.tagsUndelivered =
    s.router.counters.tagsUndelivered + .ofNat (handled.countP (·.fate = .undelivered))
  delivered : (meter.calls t.surroundings).delivered = (meter.calls s.surroundings).delivered +
    (handled.countP (·.fate = .passedOn) + handled.countP (·.fate = .undelivered))
  noticed : (meter.calls t.surroundings).noticed = (meter.calls s.surroundings).noticed +
    handled.countP (·.fate = .passedOn)

lemma Uncounted.account (h : s.Uncounted meter t) : s.Account meter t [] [] where
  framesReceived := (congrArg (·.1.1) h.traffic).trans (UInt32.add_zero _).symm
  framesDamaged := (congrArg (·.1.2.1) h.traffic).trans (UInt32.add_zero _).symm
  framesUnreadable := (congrArg (·.1.2.2) h.traffic).trans (UInt32.add_zero _).symm
  tagsRead := (congrArg (·.2.1) h.traffic).trans (UInt32.add_zero _).symm
  tagsPassedOn := (congrArg (·.2.2.1) h.traffic).trans (UInt32.add_zero _).symm
  tagsHeldBack := (congrArg (·.2.2.2.1) h.traffic).trans (UInt32.add_zero _).symm
  tagsUndelivered := (congrArg (·.2.2.2.2) h.traffic).trans (UInt32.add_zero _).symm
  delivered := congrArg CallCount.delivered h.calls
  noticed := congrArg CallCount.noticed h.calls

/-- **Accounts add up.** -/
lemma Account.trans (hst : s.Account meter t frames handled)
    (htu : t.Account meter u frames' handled') :
    s.Account meter u (frames ++ frames') (handled ++ handled') where
  framesReceived := by
    rw [htu.framesReceived, hst.framesReceived, List.length_append, UInt32.ofNat_add,
      UInt32.add_assoc]
  framesDamaged := by
    rw [htu.framesDamaged, hst.framesDamaged, List.countP_append, UInt32.ofNat_add,
      UInt32.add_assoc]
  framesUnreadable := by
    rw [htu.framesUnreadable, hst.framesUnreadable, List.countP_append, UInt32.ofNat_add,
      UInt32.add_assoc]
  tagsRead := by
    rw [htu.tagsRead, hst.tagsRead, List.length_append, UInt32.ofNat_add, UInt32.add_assoc]
  tagsPassedOn := by
    rw [htu.tagsPassedOn, hst.tagsPassedOn, List.countP_append, UInt32.ofNat_add, UInt32.add_assoc]
  tagsHeldBack := by
    rw [htu.tagsHeldBack, hst.tagsHeldBack, List.countP_append, UInt32.ofNat_add, UInt32.add_assoc]
  tagsUndelivered := by
    rw [htu.tagsUndelivered, hst.tagsUndelivered, List.countP_append, UInt32.ofNat_add,
      UInt32.add_assoc]
  delivered := by
    rw [htu.delivered, hst.delivered, List.countP_append, List.countP_append]
    omega
  noticed := by
    rw [htu.noticed, hst.noticed, List.countP_append]
    omega

lemma Account.uncounted (hst : s.Account meter t frames handled) (htu : t.Uncounted meter u) :
    s.Account meter u frames handled := by
  have hsum := hst.trans htu.account
  rwa [List.append_nil, List.append_nil] at hsum

lemma Uncounted.trans_account (hst : s.Uncounted meter t) (htu : t.Account meter u frames handled) :
    s.Account meter u frames handled := hst.account.trans htu

/-! ### Tags -/

/-- A tag that the consumer takes is counted as passed on, and the read is notified. -/
lemma passOn_of_takes (hrouter : board.CallbacksAre fun s t => t.router = s.router)
    {tag : Sighting} (htaken : s.takes board tag = true) (hcalm : s.router.notifying = false) :
    (s.passOn board tag).router.counters =
        { s.router.counters with tagsPassedOn := s.router.counters.tagsPassedOn + 1 } ∧
      meter.calls (s.passOn board tag).surroundings =
        { delivered := (meter.calls s.surroundings).delivered + 1
          noticed := (meter.calls s.surroundings).noticed + 1 } := by
  set text := tag.text s.router.config.epcGroupBytes.toNat with htext
  have hkept := hrouter.deliver text (s.tell board (.tag text tag))
  have hcalled := meter.calls_deliver text (s.tell board (.tag text tag))
  have htold : meter.calls (s.tell board (.tag text tag)).surroundings =
      meter.calls s.surroundings := meter.calls_write _ _
  simp only [takes, ← htext] at htaken
  simp only [passOn, ← htext]
  rcases hsent : board.deliver text (s.tell board (.tag text tag)) with ⟨_ | _, t⟩
  · rw [hsent] at htaken
    cases htaken
  · rw [hsent] at hkept hcalled
    have hsame : t.router = s.router := hkept
    set counted := t.count fun c => { c with tagsPassedOn := c.tagsPassedOn + 1 } with hcounted
    have hquiet : counted.router.notifying = false := by
      rw [hcounted, count, onRouter, hsame]
      exact hcalm
    refine ⟨?_, ?_⟩
    · rw [router_notify hrouter.notifyRead, count, onRouter, hsame]
      rfl
    · show meter.calls (counted.notify board.notifyRead).surroundings = _
      simp only [notify, hquiet, Bool.false_eq_true, if_false]
      have hnoticed := meter.calls_notifyRead
        (counted.onRouter fun r => { r with notifying := true })
      have hcalls : meter.calls counted.surroundings =
          { meter.calls s.surroundings with
            delivered := (meter.calls s.surroundings).delivered + 1 } := by
        rw [← htold]
        exact hcalled
      exact hnoticed.trans
        (congrArg (fun c : CallCount => { c with noticed := c.noticed + 1 }) hcalls)

/-- A tag that the consumer refuses is counted as undelivered, and nothing is notified. -/
lemma passOn_of_not_takes (hrouter : board.CallbacksAre fun s t => t.router = s.router)
    {tag : Sighting} (hrefused : s.takes board tag = false) :
    (s.passOn board tag).router.counters =
        { s.router.counters with tagsUndelivered := s.router.counters.tagsUndelivered + 1 } ∧
      meter.calls (s.passOn board tag).surroundings =
        { meter.calls s.surroundings with
          delivered := (meter.calls s.surroundings).delivered + 1 } := by
  set text := tag.text s.router.config.epcGroupBytes.toNat with htext
  have hkept := hrouter.deliver text (s.tell board (.tag text tag))
  have hcalled := meter.calls_deliver text (s.tell board (.tag text tag))
  have htold : meter.calls (s.tell board (.tag text tag)).surroundings =
      meter.calls s.surroundings := meter.calls_write _ _
  simp only [takes, ← htext] at hrefused
  simp only [passOn, ← htext]
  rcases hsent : board.deliver text (s.tell board (.tag text tag)) with ⟨cause | _, t⟩
  · rw [hsent] at hkept hcalled
    have hsame : t.router = s.router := hkept
    refine ⟨?_, ?_⟩
    · show (t.count fun c => { c with tagsUndelivered := c.tagsUndelivered + 1 }).router.counters =
        _
      rw [count, onRouter, hsame]
      rfl
    · rw [← htold, ← hcalled]
      exact meter.calls_write _ _
  · rw [hsent] at hrefused
    cases hrefused

lemma Account.of_tag {x : Handled} (hcounters : t.router.counters =
      x.fate.count { s.router.counters with tagsRead := s.router.counters.tagsRead + 1 })
    (hcalls : meter.calls t.surroundings = x.fate.call (meter.calls s.surroundings)) :
    s.Account meter t [] [x] := by
  obtain ⟨tag, mode, fate⟩ := x
  cases fate <;> constructor <;> simp [hcounters, hcalls, TagFate.count, TagFate.call]

lemma Account.of_frame {frame : List UInt8}
    (hcounters : t.router.counters = Frame.count frame s.router.counters)
    (hcalls : meter.calls t.surroundings = meter.calls s.surroundings) :
    s.Account meter t [frame] [] := by
  obtain ⟨hdamaged, hunreadable, -⟩ | ⟨hdamaged, hunreadable, -⟩ | ⟨hdamaged, hunreadable, -⟩ :=
    Frame.ways frame
  all_goals
    constructor <;> simp [hcounters, hcalls, Frame.count, hdamaged, hunreadable]

/-- The station once a tag is counted as read and entered into the filter. -/
def recorded (now : Nat) (tag : Sighting) (s : Station ε) : Station ε :=
  (s.count fun c => { c with tagsRead := c.tagsRead + 1 }).onRouter fun r =>
    { r with filter := (s.router.filter.record tag.epc.toList tag.rssi now).2 }

variable (board) in
/-- A tag that the filter holds back is counted as that. -/
lemma offer_of_heldBack {now : Nat} {tag : Sighting} (hmode : s.router.mode ≠ .idle)
    (hrecord : (s.router.filter.record tag.epc.toList tag.rssi now).1 = false) :
    s.fate board now tag = .heldBack ∧ s.offer board now tag =
      (s.recorded now tag).count fun c => { c with tagsHeldBack := c.tagsHeldBack + 1 } := by
  set counted := s.count fun c => { c with tagsRead := c.tagsRead + 1 } with hcounted
  have hmode' : counted.router.mode ≠ .idle := hmode
  have hrecord' : (counted.router.filter.record tag.epc.toList tag.rssi now).1 = false := hrecord
  constructor
  · simp only [fate, hmode, if_false, hrecord, Bool.not_false, if_true]
  · simp only [offer, ← hcounted, hmode', if_false, hrecord', Bool.false_eq_true]
    rfl

variable (board) in
/-- A tag that the filter lets through is passed on, if the consumer takes it. -/
lemma offer_of_letThrough {now : Nat} {tag : Sighting} (hmode : s.router.mode ≠ .idle)
    (hrecord : (s.router.filter.record tag.epc.toList tag.rssi now).1 = true) :
    s.fate board now tag =
        (if (s.recorded now tag).takes board tag then .passedOn else .undelivered) ∧
      s.offer board now tag = (s.recorded now tag).passOn board tag := by
  set counted := s.count fun c => { c with tagsRead := c.tagsRead + 1 } with hcounted
  have hmode' : counted.router.mode ≠ .idle := hmode
  have hrecord' : (counted.router.filter.record tag.epc.toList tag.rssi now).1 = true := hrecord
  constructor
  · simp only [fate, hmode, if_false, hrecord, Bool.not_true, Bool.false_eq_true]
    rfl
  · simp only [offer, ← hcounted, hmode', if_false, hrecord', if_true]
    rfl

/-- **One tag**: it is counted as read and as what has become of it. -/
lemma account_offer (hrouter : board.CallbacksAre fun s t => t.router = s.router) (now : Nat)
    (tag : Sighting) (hcalm : s.router.notifying = false) :
    s.Account meter (s.offer board now tag) []
      [{ tag, mode := s.router.mode, fate := s.fate board now tag }] := by
  by_cases hidle : s.router.mode = .idle
  · have hfate : s.fate board now tag = .ignored := if_pos hidle
    have hoffer : s.offer board now tag = (s.count fun c =>
        { c with tagsRead := c.tagsRead + 1 }).tell board (.tagIgnored tag) := if_pos hidle
    rw [hfate, hoffer]
    exact .of_tag rfl (meter.calls_write _ _)
  · cases hrecord : (s.router.filter.record tag.epc.toList tag.rssi now).1 with
    | false =>
        obtain ⟨hfate, hoffer⟩ := offer_of_heldBack board hidle hrecord
        rw [hfate, hoffer]
        exact .of_tag rfl rfl
    | true =>
        obtain ⟨hfate, hoffer⟩ := offer_of_letThrough board hidle hrecord
        rw [hfate, hoffer]
        cases htaken : (s.recorded now tag).takes board tag with
        | true =>
            obtain ⟨hcounters, hcalls⟩ := passOn_of_takes hrouter htaken hcalm
            exact .of_tag hcounters hcalls
        | false =>
            obtain ⟨hcounters, hcalls⟩ := passOn_of_not_takes hrouter htaken
            exact .of_tag hcounters hcalls

section

variable (hrouter : board.CallbacksAre fun s t => t.router = s.router)
  (hkeeps : board.CallbacksAre Keeps)

include hrouter hkeeps

/-- The tags of one response, one after the other. -/
lemma account_offers (now : Nat) (tags : List Sighting) (hcalm : s.router.notifying = false) :
    s.Account meter (tags.foldl (offer board now) s) [] (s.handledTags board now tags) := by
  induction tags generalizing s with
  | nil => exact (Uncounted.refl s).account
  | cons tag rest ih =>
      have hoffered : (s.offer board now tag).router.notifying = false :=
        (keeps_offer hkeeps now tag s).notifying.trans hcalm
      exact (account_offer hrouter now tag hcalm).trans (ih hoffered)

lemma account_useContent (now : Nat) (content : Content) (hcalm : s.router.notifying = false) :
    s.Account meter (s.useContent board now content) []
      (s.handledTags board now content.sightings) := by
  cases content with
  | autoUpload tag => exact account_offer hrouter now tag hcalm
  | inventory report => exact account_offers hrouter hkeeps now report.sightings hcalm
  | statistics | readData | gpioState => exact (uncounted_tell _ s).account
  | profile p =>
      exact Uncounted.account ⟨rfl, meter.calls_write _ s.surroundings⟩
  | tagCount | temperature => exact Uncounted.account ⟨rfl, rfl⟩
  | other => exact (Uncounted.refl s).account

/-- A frame that can be read is counted as received, and then come its tags. -/
lemma account_acceptResponse (now : Nat) {frame : List UInt8} {response : Response}
    (hvalid : Checksum.isValid frame = true) (hread : Response.ofFrame frame = .ok response)
    (hcalm : s.router.notifying = false) :
    s.Account meter
      ((s.count fun c => { c with framesReceived := c.framesReceived + 1 }).acceptResponse board now
        frame response) [frame] (s.handledIn board now frame) := by
  have hhandled : s.handledIn board now frame = handledTags board now
      response.content.sightings (s.registered board frame response) := by
    rw [handledIn, Frame.response?_of_ok hread]
    rfl
  have hdamaged : Frame.isDamaged frame = false := by rw [Frame.isDamaged, hvalid]; rfl
  have hunreadable : Frame.isUnreadable frame = false := by
    rw [Frame.isUnreadable, hvalid, Frame.response?_of_ok hread]
    rfl
  set told := (s.count fun c => { c with framesReceived := c.framesReceived + 1 }).tell board
    (.received frame response) with htold
  obtain ⟨answers, hkept, -⟩ := exists_kept (answerOf response.head (responsePayload frame)) told
  have hregistered : s.registered board frame response =
      told.onRouter fun r => { r with answers } := hkept
  have hfirst : s.Account meter (s.registered board frame response) [frame] [] := by
    rw [hregistered]
    refine .of_frame ?_ (meter.calls_write _ _)
    rw [Frame.count, hdamaged, hunreadable]
    rfl
  have hcalm' : (s.registered board frame response).router.notifying = false := by
    rw [hregistered]
    exact hcalm
  have hused := hfirst.trans (account_useContent hrouter hkeeps now response.content hcalm')
  rw [hhandled]
  simp only [acceptResponse]
  split
  · exact hused.uncounted (uncounted_followRound hrouter now response.head.status _)
  · exact hused

/-- **One frame**: it is counted with its way, and then come its tags. -/
lemma account_acceptFrame (now : Nat) (frame : List UInt8) (hcalm : s.router.notifying = false) :
    s.Account meter (s.acceptFrame board now frame) [frame] (s.handledIn board now frame) := by
  set counted := s.count fun c => { c with framesReceived := c.framesReceived + 1 } with hcounted
  cases hvalid : Checksum.isValid frame with
  | false =>
      have hdamaged : Frame.isDamaged frame = true := by rw [Frame.isDamaged, hvalid]; rfl
      have hnone : s.handledIn board now frame = [] := by
        rw [handledIn, Frame.response?_of_isDamaged hvalid]
        rfl
      rw [hnone]
      simp only [acceptFrame, ← hcounted, hvalid, Bool.not_false, if_true]
      refine .of_frame ?_ (meter.calls_write _ _)
      rw [Frame.count, if_pos hdamaged]
      rfl
  | true =>
      have hsound : Frame.isDamaged frame = false := by rw [Frame.isDamaged, hvalid]; rfl
      simp only [acceptFrame, ← hcounted, hvalid, Bool.not_true, Bool.false_eq_true, if_false]
      rcases hread : Response.ofFrame frame with cause | response
      · have hnone : s.handledIn board now frame = [] := by
          rw [handledIn, Frame.response?_of_error hread]
          rfl
        have hunreadable : Frame.isUnreadable frame = true := by
          rw [Frame.isUnreadable, hvalid, Frame.response?_of_error hread]
          rfl
        rw [hnone]
        refine .of_frame ?_ (meter.calls_write _ _)
        rw [Frame.count, hsound, if_neg Bool.false_ne_true, if_pos hunreadable]
        rfl
      · exact account_acceptResponse hrouter hkeeps now hvalid hread hcalm

/-- **The frames of a call**, one after the other, each with its tags. -/
lemma account_acceptFrames (now turns : Nat) (hcalm : s.router.notifying = false) :
    s.Account meter (s.acceptFrames board now turns).2 (s.acceptFrames board now turns).1
      (s.handledInAll board now turns) := by
  induction turns generalizing s with
  | zero => exact (Uncounted.refl s).account
  | succ turns ih =>
      have hpulled : s.Uncounted meter (s.pullFrame board now).2 := uncounted_pullFrame now s
      have hcalm' := (keeps_pullFrame board now s).notifying.trans hcalm
      rcases hpull : s.pullFrame board now with ⟨_ | frame, pulled⟩ <;>
        rw [hpull] at hpulled hcalm' <;> simp only [acceptFrames, handledInAll, hpull]
      · exact hpulled.account
      · set accepted := pulled.acceptFrame board now frame with haccepted
        have hone := hpulled.trans_account
          (account_acceptFrame hrouter hkeeps now frame hcalm')
        have hnext : accepted.performReset.router.notifying = false :=
          ((keeps_acceptFrame hkeeps now frame pulled).trans
            (keeps_performReset accepted)).notifying.trans hcalm'
        exact (hone.uncounted (uncounted_performReset accepted)).trans (ih hnext)

end

/-! ### What is handled -/

lemma map_tag_handledTags (now : Nat) (tags : List Sighting) (s : Station ε) :
    (s.handledTags board now tags).map (·.tag) = tags := by
  induction tags generalizing s with
  | nil => rfl
  | cons tag rest ih => rw [handledTags, List.map_cons, ih]

lemma map_tag_handledIn (now : Nat) (frame : List UInt8) (s : Station ε) :
    (s.handledIn board now frame).map (·.tag) = Frame.sightings frame := by
  rw [handledIn, Frame.sightings]
  cases Frame.response? frame with
  | none => rfl
  | some response => exact map_tag_handledTags now _ _

/-- **The tags that are handled** are those that the frames report, in their order. -/
lemma map_tag_handledInAll (now turns : Nat) (s : Station ε) :
    (s.handledInAll board now turns).map (·.tag) =
      (s.acceptFrames board now turns).1.flatMap Frame.sightings := by
  induction turns generalizing s with
  | zero => rfl
  | succ turns ih =>
      rcases hpull : s.pullFrame board now with ⟨_ | frame, pulled⟩ <;>
        simp only [acceptFrames, handledInAll, hpull]
      · rfl
      · rw [List.map_append, map_tag_handledIn, ih, List.flatMap_cons]

lemma ignored_of_handledTags {now : Nat} {tags : List Sighting} {s : Station ε} {x : Handled}
    (h : x ∈ s.handledTags board now tags) : x.fate = .ignored ↔ x.mode = .idle := by
  induction tags generalizing s with
  | nil => cases h
  | cons tag rest ih =>
      rcases List.mem_cons.mp h with rfl | hrest
      · simp only [fate]
        split
        · rename_i hidle
          exact ⟨fun _ => hidle, fun _ => rfl⟩
        · rename_i hidle
          refine ⟨fun hignored => ?_, fun hmode => absurd hmode hidle⟩
          split at hignored
          · cases hignored
          · split at hignored
            · cases hignored
            · cases hignored
      · exact ih hrest

/-- **A tag is ignored if and only if it is handled in idle mode.** -/
lemma ignored_of_handledInAll {now turns : Nat} {s : Station ε} {x : Handled}
    (h : x ∈ s.handledInAll board now turns) : x.fate = .ignored ↔ x.mode = .idle := by
  induction turns generalizing s with
  | zero => cases h
  | succ turns ih =>
      rcases hpull : s.pullFrame board now with ⟨_ | frame, pulled⟩ <;>
        simp only [handledInAll, hpull] at h
      · cases h
      · rcases List.mem_append.mp h with hfirst | hrest
        · rw [handledIn] at hfirst
          cases hread : Frame.response? frame with
          | none =>
              rw [hread] at hfirst
              cases hfirst
          | some response =>
              rw [hread] at hfirst
              exact ignored_of_handledTags hfirst
        · exact ih hrest

/-- **The frames that a sound station acts on** have the sizes that their length bytes declare. -/
lemma sized_acceptFrames (hkeeps : board.CallbacksAre Keeps) (now turns : Nat) (hs : s.Sound) :
    ∀ frame ∈ (s.acceptFrames board now turns).1, Frame.Sized frame := by
  induction turns generalizing s with
  | zero =>
      intro _ hnone
      cases hnone
  | succ turns ih =>
      have hpulled := (keeps_pullFrame board now s).sound hs
      have hframe (frame : List UInt8) (h : (s.pullFrame board now).1 = some frame) :
          Frame.Sized frame := sized_of_pullFrame board now hs h
      rcases hpull : s.pullFrame board now with ⟨_ | frame, pulled⟩ <;>
        rw [hpull] at hpulled hframe <;> simp only [acceptFrames, hpull]
      · intro _ hnone
        cases hnone
      · have hnext := ((keeps_acceptFrame hkeeps now frame pulled).trans
          (keeps_performReset _)).sound hpulled
        intro f hf
        rcases List.mem_cons.mp hf with rfl | hrest
        · exact hframe _ rfl
        · exact ih hnext f hrest

/-- A call that has processed frames found a running router that was not busy. -/
lemma of_processed {n : Nat} (h : (s.process board).1 = .processed n) :
    s.router.running = true ∧ s.router.busy = false ∧ n = (s.dispatched board).length := by
  cases hbusy : s.router.busy with
  | true =>
      simp only [process, hbusy, if_true] at h
      cases h
  | false =>
      cases hrunning : s.router.running with
      | false =>
          simp only [process, hbusy, hrunning, Bool.false_eq_true, if_false, Bool.not_false,
            if_true] at h
          cases h
      | true =>
          refine ⟨rfl, rfl, ?_⟩
          rw [dispatched_eq hrunning hbusy]
          simp only [process, hbusy, hrunning, Bool.not_true, Bool.false_eq_true, if_false] at h
          exact (Outcome.processed.inj h).symm

variable (board) in
lemma handled_eq (hrunning : s.router.running = true) (hidle : s.router.busy = false) :
    s.handled board =
      (s.ready board).handledInAll board (s.now board) ((s.ready board).frameTurns board) := by
  simp only [handled, hrunning, hidle, Bool.not_true, Bool.or_false, Bool.false_eq_true, if_false]

/-- **The account of a call.** -/
lemma account_process (hrouter : board.CallbacksAre fun s t => t.router = s.router)
    (hkeeps : board.CallbacksAre Keeps) (hrunning : s.router.running = true)
    (hidle : s.router.busy = false) (hcalm : s.router.notifying = false) :
    s.Account meter (s.process board).2 (s.dispatched board) (s.handled board) := by
  have hready : s.Uncounted meter (s.ready board) := uncounted_ready s
  have hcalm' := (keeps_ready board s).notifying.trans hcalm
  have haccepted := hready.trans_account (account_acceptFrames hrouter hkeeps (s.now board)
    ((s.ready board).frameTurns board) hcalm')
  rw [process_eq hrunning hidle, dispatched_eq hrunning hidle, handled_eq board hrunning hidle]
  exact (haccepted.uncounted (uncounted_keepSchedule _ _)).uncounted ⟨rfl, rfl⟩

end Station

/--
  **The counters account for every frame and every tag.**  Take any state that a router reaches, and
  callbacks that call no operation of it.

  * A call counts as many frames as it says.  Each of them is damaged, unreadable or answered, and
    an unreadable one has a payload that ends too early or a length that is out of range.
  * It counts as many tags as the answered frames announce, and handles each of them.  A tag that is
    handled in idle mode is ignored.  Every other tag is passed on, held back or undelivered, and
    counted as that.
  * The consumer is given the tags that are passed on and the undelivered ones, and the reads of
    those that are passed on are notified.
-/
theorem process_accounts {earlier : Board ε} {drift : ε → ε → Prop}
    (hearlier : earlier.Nests (fun _ => True) drift) {config : Config} {e : ε} {s : Station ε}
    (hreached : (Station.fresh config e).Runs earlier (fun _ => True) drift s)
    (meter : CallMeter board) (hapart : board.CallbacksAre Station.Apart) {n : Nat}
    (hprocessed : (s.process board).1 = .processed n) :
    let frames := s.dispatched board
    let handled := s.handled board
    let after := (s.process board).2
    let grown := fun counter : Counters → UInt32 => counter after.router.counters -
      counter s.router.counters
    (n = frames.length ∧ grown (·.framesReceived) = .ofNat n ∧
      grown (·.framesReceived) = grown (·.framesDamaged) + grown (·.framesUnreadable) +
        .ofNat (frames.countP Frame.isAnswered) ∧
      grown (·.framesDamaged) = .ofNat (frames.countP Frame.isDamaged) ∧
      grown (·.framesUnreadable) = .ofNat (frames.countP Frame.isUnreadable) ∧
      ∀ frame ∈ frames, Checksum.isValid frame = true → ∀ cause,
        Response.ofFrame frame = .error cause → cause.isAboutPayload = true) ∧
    (handled.map (·.tag) = frames.flatMap Frame.sightings ∧
      handled.length = (frames.map Frame.announced).sum ∧
      grown (·.tagsRead) = .ofNat handled.length ∧
      (∀ x ∈ handled, x.fate = .ignored ↔ x.mode = .idle) ∧
      grown (·.tagsPassedOn) = .ofNat (handled.countP (·.fate = .passedOn)) ∧
      grown (·.tagsHeldBack) = .ofNat (handled.countP (·.fate = .heldBack)) ∧
      grown (·.tagsUndelivered) = .ofNat (handled.countP (·.fate = .undelivered))) ∧
    ∃ delivered noticed, meter.calls after.surroundings =
        { delivered := (meter.calls s.surroundings).delivered + delivered
          noticed := (meter.calls s.surroundings).noticed + noticed } ∧
      grown (·.tagsPassedOn) + grown (·.tagsUndelivered) = .ofNat delivered ∧
      grown (·.tagsPassedOn) = .ofNat noticed := by
  intro frames handled after grown
  obtain ⟨hsound, hcalm⟩ := hreached.keeps hearlier
  have hkeeps : board.CallbacksAre Station.Keeps := hapart.mono fun _ _ => Station.Apart.keeps
  have hrouter : board.CallbacksAre fun s t => t.router = s.router :=
    hapart.mono fun _ _ => Station.Apart.router
  obtain ⟨hrunning, hidle, hcount⟩ := Station.of_processed hprocessed
  have haccount : s.Account meter after frames handled :=
    Station.account_process hrouter hkeeps hrunning hidle hcalm
  have hgrown {a b c : UInt32} (h : a = b + c) : a - b = c := by
    rw [h, UInt32.add_comm, UInt32.add_sub_cancel]
  have hhandled : handled = (s.ready board).handledInAll board (s.now board)
      ((s.ready board).frameTurns board) := Station.handled_eq board hrunning hidle
  have hframes : frames = ((s.ready board).acceptFrames board (s.now board)
      ((s.ready board).frameTurns board)).1 := Station.dispatched_eq hrunning hidle
  have htags : handled.map (·.tag) = frames.flatMap Frame.sightings := by
    rw [hhandled, hframes]
    exact Station.map_tag_handledInAll _ _ _
  have hsized : ∀ frame ∈ frames, Frame.Sized frame := by
    rw [hframes]
    exact Station.sized_acceptFrames hkeeps _ _ ((Station.keeps_ready board s).sound hsound)
  refine ⟨⟨hcount, ?_, ?_, hgrown haccount.framesDamaged, hgrown haccount.framesUnreadable, ?_⟩,
    ⟨htags, ?_, hgrown haccount.tagsRead, ?_, hgrown haccount.tagsPassedOn,
      hgrown haccount.tagsHeldBack, hgrown haccount.tagsUndelivered⟩,
    handled.countP (·.fate = .passedOn) + handled.countP (·.fate = .undelivered),
    handled.countP (·.fate = .passedOn), ?_, ?_, hgrown haccount.tagsPassedOn⟩
  · rw [hcount]
    exact hgrown haccount.framesReceived
  · rw [show grown (·.framesReceived) = _ from hgrown haccount.framesReceived,
      show grown (·.framesDamaged) = _ from hgrown haccount.framesDamaged,
      show grown (·.framesUnreadable) = _ from hgrown haccount.framesUnreadable,
      Frame.countP_ways, UInt32.ofNat_add, UInt32.ofNat_add]
  · intro frame hframe hvalid cause
    exact Response.error_of_ofFrame hvalid (hsized frame hframe)
  · have hlength := congrArg List.length htags
    rw [List.length_map, List.length_flatMap] at hlength
    rw [hlength]
    exact congrArg List.sum (List.map_congr_left fun frame _ => Frame.length_sightings frame)
  · intro x hx
    rw [hhandled] at hx
    exact Station.ignored_of_handledInAll hx
  · exact (congrArg₂ CallCount.mk haccount.delivered haccount.noticed)
  · rw [show grown (·.tagsPassedOn) = _ from hgrown haccount.tagsPassedOn,
      show grown (·.tagsUndelivered) = _ from hgrown haccount.tagsUndelivered, UInt32.ofNat_add]

/-! ## A board that counts -/

/-- A board that counts calls, and whose consumer takes one tag only. -/
def Board.counting : Board CallCount :=
  { Board.still 0 { rfPower := 26, address := 0, antenna := 0 } with
    deliver := fun _ s =>
      (if s.surroundings.delivered = 0 then .ok () else .error .busy,
        { s with surroundings :=
            { s.surroundings with delivered := s.surroundings.delivered + 1 } })
    notifyRead := fun s =>
      { s with surroundings := { s.surroundings with noticed := s.surroundings.noticed + 1 } } }

def CallMeter.counting : CallMeter .counting :=
  { calls := id
    calls_write := fun _ _ => rfl
    calls_emit := fun _ _ => rfl
    calls_interrupts := fun _ => rfl
    calls_deliver := fun _ _ => rfl
    calls_notifyRead := fun _ => rfl
    calls_notifyError := fun _ _ => rfl }

lemma Board.apart_counting : Board.counting.CallbacksAre Station.Apart :=
  ⟨fun _ s => ⟨rfl, .refl s.line⟩, fun s => ⟨rfl, .refl s.line⟩, fun _ s => ⟨rfl, .refl s.line⟩,
    fun _ s => ⟨rfl, .refl s.line⟩, fun _ s => ⟨rfl, .refl s.line⟩⟩

lemma Board.nests_counting : Board.counting.Nests (fun _ => True) fun _ _ => True := by
  refine .intro (fun _ => False) (fun _ h => h.elim) (fun _ h => h.elim) ⟨?_, ?_, ?_, ?_, ?_⟩
  · exact fun _ s => .inl ⟨_, trivial, rfl⟩
  · exact fun s => .inl ⟨_, trivial, rfl⟩
  · exact fun _ s => .inl ⟨s.surroundings, trivial, rfl⟩
  · exact fun _ s => .inl ⟨s.surroundings, trivial, rfl⟩
  · exact fun _ s => .inl ⟨s.surroundings, trivial, rfl⟩

/--
  Four frames: an uploaded tag, a damaged frame, an upload that ends too early, and a round with the
  uploaded tag and another one.
-/
theorem process_accounts_counting :
    let frames := [Frame.ofBody [0x00, 0xEE, 0x00, 0x01, 0x02, 0xAA, 0xBB, 0x50],
      [0x05, 0x00, 0x24, 0x00, 0xFF, 0xFF], Frame.ofBody [0x00, 0xEE, 0x00],
      Frame.ofBody [0x00, 0x01, 0x01, 0x01, 0x02, 0x02, 0xAA, 0xBB, 0x50, 0x02, 0xCC, 0xDD, 0x50]]
    let s := (((Station.fresh .standard ⟨0, 0⟩).start .counting).2.enterMode .counting
      .inventory).receive frames.flatten
    let after := (s.process .counting).2
    (s.process .counting).1 = .processed 4 ∧
      (s.handled .counting).map (·.fate) = [.passedOn, .heldBack, .undelivered] ∧
      after.router.counters.framesReceived - s.router.counters.framesReceived = 4 ∧
      after.router.counters.framesDamaged - s.router.counters.framesDamaged = 1 ∧
      after.router.counters.framesUnreadable - s.router.counters.framesUnreadable = 1 ∧
      after.router.counters.tagsRead - s.router.counters.tagsRead = 3 ∧
      after.surroundings = ⟨2, 1⟩ := by
  intro frames s
  have hreached : (Station.fresh .standard ⟨0, 0⟩).Runs Board.counting (fun _ => True)
      (fun _ _ => True) s :=
    ((Relation.ReflTransGen.single (.operate .start trivial)).tail
      (.operate (.enterMode .inventory) trivial)).tail (.operate (.receive frames.flatten) trivial)
  have hprocessed : (s.process .counting).1 = .processed 4 := by decide +kernel
  have hframes : s.dispatched .counting = frames := by decide +kernel
  have hfates : (s.handled .counting).map (·.fate) = [.passedOn, .heldBack, .undelivered] := by
    decide +kernel
  have hways : frames.countP Frame.isDamaged = 1 ∧ frames.countP Frame.isUnreadable = 1 := by
    decide +kernel
  have haccounts := process_accounts Board.nests_counting hreached .counting Board.apart_counting
    hprocessed
  obtain ⟨⟨-, hreceived, -, hdamaged, hunreadable, -⟩, ⟨-, -, hread, -⟩, -⟩ := haccounts
  rw [hframes, hways.1] at hdamaged
  rw [hframes, hways.2] at hunreadable
  rw [← List.length_map (·.fate), hfates] at hread
  exact ⟨hprocessed, hfates, hreceived, hdamaged, hunreadable, hread, by decide +kernel⟩

end RfidLink
