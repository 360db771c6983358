import RfidLink.Proofs.CheckedStores

/-!
# Processing within bounds

`Checked.process` is a call to process received bytes in which every step is checked: it takes bytes
out of the ring and puts them into the frame buffer, reads frames, records reads, writes texts,
keeps answers, counts its frames, and queues the command of the next round.  Its times are numbers
of any size.

* There is one lemma for each function of the router.  In a sound state no step of it fails, and
  what it does is what it does without the checks.  `Station.Keeps` carries soundness from one
  function to the next.
* `Checked.process_eq` is the whole call in a sound state.

**`process_in_range`** is about every state that a router reaches, on every board whose callbacks
run operations, and about all bytes that a response is read from.
-/

namespace RfidLink

variable {ε : Type}

namespace Checked

open Station

section

variable (limit : Nat) (board : Board ε)

/-! ## The checked call -/

/-- Take the next complete frame out of the inbound ring. -/
def pullFrame (now : Nat) (s : Station ε) : Option (Option (List UInt8) × Station ε) := do
  let search ← search limit now s.line.inbound s.router.collector
  let dropped := search.collector.errors - s.router.collector.errors
  let s :=
    { s with
      router := { s.router with collector := search.collector }.count fun c =>
        { c with framingErrors := c.framingErrors + dropped }
      line := { s.line with inbound := search.rest } }
  some (search.frame, s.tellAll board (search.errors.map .startRefused))

/-- Pass on a tag that the repeat filter let through. -/
def passOn (tag : Sighting) (s : Station ε) : Option (Station ε) := do
  let text ← epcText tag.epc.toList s.router.config.epcGroupBytes.toNat
  match board.deliver text (s.tell board (.tag text tag)) with
  | (.ok (), s) =>
    some ((s.count fun c => { c with tagsPassedOn := c.tagsPassedOn + 1 }).notify board.notifyRead)
  | (.error cause, s) =>
    some ((s.count fun c => { c with tagsUndelivered := c.tagsUndelivered + 1 }).tell board
      (.undelivered cause))

/-- Take a tag that was read at `now`. -/
def offer (now : Nat) (s : Station ε) (tag : Sighting) : Option (Station ε) :=
  let s := s.count fun c => { c with tagsRead := c.tagsRead + 1 }
  if s.router.mode = .idle then some (s.tell board (.tagIgnored tag))
  else do
    let (isLetThrough, filter) ← record limit tag.epc.toList tag.rssi now s.router.filter
    let s := s.onRouter fun r => { r with filter }
    if isLetThrough then passOn board tag s
    else some (s.count fun c => { c with tagsHeldBack := c.tagsHeldBack + 1 })

/-- Act on the content of a response; the blocks of a report are walked over a second time. -/
def useContent (now : Nat) (content : Content) (s : Station ε) : Option (Station ε) :=
  match content with
  | .autoUpload tag => offer limit board now s tag
  | .inventory report => do
    let tags ← TagWalk.tags limit (report.count.toNat + 1)
      { antenna := report.antenna, remaining := report.count, data := report.blocks }
    (tags.filterMap Except.toOption).foldlM (offer limit board now) s
  | content => some (s.useContent board now content)

/-- What the journal is told about some tags. -/
def remarksOn (group : Nat) : List TagHistory → Option (List Remark)
  | [] => some []
  | history :: rest => do
    let text ← epcText history.epc.toList group
    some (.seen text history :: (← remarksOn group rest))

/-- End an inventory of one round, after writing every tag into the journal. -/
def endOnlyRound (s : Station ε) : Option (Station ε) := do
  let s := s.endSchedule
  let remarks ← remarksOn s.router.config.epcGroupBytes.toNat s.router.filter.entries
  some ((s.tellAll board (.totals s.router.readTotals :: remarks)).enterMode board .idle)

/-- Act on the status of a response to an inventory round. -/
def followRound (now : Nat) (status : Status) (s : Station ε) : Option (Station ε) :=
  if s.router.mode = .idle then some s
  else if status = .antennaError then some (s.stopForAntenna board)
  else if !status.endsRound || !s.router.inventoryActive then some s
  else
    match s.router.config.strategy with
    | .fast => some s
    | .repeating intervalMs =>
      some (s.onRouter (·.reschedule (·.dueAt (now + intervalMs.toNat))))
    | .singleShot => endOnlyRound board s

/-- Keep an answer, unless it belongs to an inventory round and nobody waits for it. -/
def keepAnswer (s : Station ε) (answer : Answer) : Option (Station ε) :=
  if CommandCode.isRound answer.command && !answer.isAwaited s.router.awaiting then some s
  else do
    let answers ← pushAnswer s.router.awaiting answer s.router.answers
    some (s.onRouter fun r => { r with answers })

/-- Act on a response that was received at `now` in the given frame. -/
def acceptResponse (now : Nat) (frame : List UInt8) (response : Response) (s : Station ε) :
    Option (Station ε) := do
  let head := response.head
  let s := s.tell board (.received frame response)
  let s ← (← answerOf head frame).elim (some s) (keepAnswer s)
  let s ← useContent limit board now response.content s
  if CommandCode.isRound head.command then followRound board now head.status s else some s

/-- Act on a frame that was received at `now`. -/
def acceptFrame (now : Nat) (frame : List UInt8) (s : Station ε) : Option (Station ε) := do
  let s := s.count fun c => { c with framesReceived := c.framesReceived + 1 }
  if !(← isValid limit frame) then
    some ((s.count fun c => { c with framesDamaged := c.framesDamaged + 1 }).tell board
      (.damaged frame))
  else
    match ← response limit frame with
    | .error cause =>
      some ((s.count fun c => { c with framesUnreadable := c.framesUnreadable + 1 }).tell board
        (.unreadable frame cause))
    | .ok response => acceptResponse limit board now frame response s

/-- Act on frames until none is left, and count them. -/
def acceptFrames (now : Nat) : Nat → Nat → Station ε → Option (Nat × Station ε)
  | 0, frames, s => some (frames, s)
  | turns + 1, frames, s => do
    match ← pullFrame limit board now s with
    | (none, s) => some (frames, s)
    | (some frame, s) =>
      let frames ← size limit (frames + 1)
      let s ← acceptFrame limit board now frame s
      acceptFrames now turns frames s.performReset

/-- Put bytes into the outbound ring; the serial port may interrupt before each of them. -/
def enqueueAll : List UInt8 → Station ε → Option (Station ε)
  | [], s => some s
  | byte :: rest, s => do
    let s := s.interrupted board
    let outbound ← store Line.capacity (s.line.outbound ++ [byte])
    enqueueAll rest { s with line := { s.line with outbound } }

/-- Queue a command for the reader at an address. -/
def sendTo (address : UInt8) (command : Command) (s : Station ε) :
    Option (Except OperationError Nat × Station ε) :=
  if !s.router.running then some (.error .notRunning, s)
  else do
    match ← encode limit command address with
    | .error cause => some (.error (.badCommand cause), s)
    | .ok frame =>
      let s := s.interrupted board
      if (← minus Line.capacity s.line.outbound.length) < frame.length then
        let s := s.count fun c =>
          { c with bytesRefused := c.bytesRefused + UInt32.ofNat frame.length }
        some (.error (.noRoom 0 frame.length), s.tell board (.ringFull command address))
      else
        let s ← enqueueAll board frame s
        some (.ok frame.length, s.tell board (.queued command address))

/-- Ask for the next round of a polled inventory. -/
def startRound (now : Nat) (s : Station ε) : Option (Station ε) := do
  let config := s.router.config
  match ← sendTo limit board s.router.address config.strategy.openingCommand s with
  | (.ok _, s) =>
    some ((s.count fun c => { c with roundsStarted := c.roundsStarted + 1 }).onRouter
      (·.reschedule (·.waitingUntil (now + config.roundLimitMs))))
  | (.error cause, s) =>
    let s := s.tell board (.roundNotStarted cause)
    match config.strategy with
    | .repeating intervalMs =>
      some (s.onRouter (·.reschedule fun p => { p with nextRoundAt := now + intervalMs.toNat }))
    | _ => some s

/-- Give up the current round, and ask for the next one unless it was the only one. -/
def abandonRound (now : Nat) (s : Station ε) : Option (Station ε) :=
  let s := (s.tell board .roundAbandoned).count fun c =>
    { c with roundsAbandoned := c.roundsAbandoned + 1 }
  if s.router.config.strategy = .singleShot then endOnlyRound board s
  else startRound limit board now (s.onRouter (·.reschedule (·.dueAt now)))

/-- Do what the schedule of a polled inventory asks for at `now`. -/
def keepSchedule (now : Nat) (s : Station ε) : Option (Station ε) :=
  if s.router.mode = .idle || !s.router.config.strategy.isPolled || !s.router.inventoryActive then
    some s
  else if s.router.schedule.inRound then
    if now < s.router.schedule.deadline then some s else abandonRound limit board now s
  else if now < s.router.schedule.nextRoundAt then some s
  else startRound limit board now s

/-- Process what was received, unless another call is at work. -/
def process (s : Station ε) : Option (Outcome × Station ε) :=
  if s.router.busy then some (.skipped, s)
  else if !s.router.running then some (.stopped, s)
  else do
    let now := s.now board
    let ready := s.ready board
    let (frames, s) ← acceptFrames limit board now (ready.frameTurns board) 0 ready
    let s ← keepSchedule limit board now s
    some (.processed frames, s.onRouter fun r => { r with busy := false })

end

/-! ## No step fails -/

section

variable {limit : Nat} {board : Board ε} {s : Station ε}

lemma pullFrame_eq (hlimit : Frame.maxSize ≤ limit) (now : Nat) (hs : s.Sound) :
    pullFrame limit board now s = some (s.pullFrame board now) := by
  rw [pullFrame, search_eq hlimit now _ hs.collector]
  rfl

variable (board) in
lemma passOn_eq (tag : Sighting) (s : Station ε) :
    passOn board tag s = some (s.passOn board tag) := by
  set text := tag.text s.router.config.epcGroupBytes.toNat with htext
  have hwritten : epcText tag.epc.toList s.router.config.epcGroupBytes.toNat = some text :=
    epcText_eq _ _
  rw [passOn, hwritten, Option.bind_eq_bind, Option.bind_some, Station.passOn]
  simp only [← htext]
  rcases board.deliver text (s.tell board (.tag text tag)) with ⟨cause | ⟨⟩, t⟩ <;> rfl

variable (board) in
lemma offer_eq (hlimit : Frame.maxSize ≤ limit) (now : Nat) (hs : s.Sound) (tag : Sighting) :
    offer limit board now s tag = some (s.offer board now tag) := by
  set counted := s.count fun c => { c with tagsRead := c.tagsRead + 1 } with hcounted
  have hfilter : counted.router.filter.InTurn := hs.filter
  simp only [offer, Station.offer, ← hcounted, record_eq hlimit hfilter, passOn_eq,
    Option.bind_eq_bind, Option.bind_some]
  split_ifs <;> rfl

lemma offers_eq (hlimit : Frame.maxSize ≤ limit) (hkeeps : board.CallbacksAre Keeps) (now : Nat)
    (hs : s.Sound) (tags : List Sighting) :
    tags.foldlM (offer limit board now) s = some (tags.foldl (Station.offer board now) s) := by
  induction tags generalizing s with
  | nil => rfl
  | cons tag rest ih =>
      rw [List.foldlM_cons, offer_eq board hlimit now hs, Option.bind_eq_bind, Option.bind_some,
        List.foldl_cons]
      exact ih ((keeps_offer hkeeps now tag s).sound hs)

lemma useContent_eq (hlimit : Frame.maxSize ≤ limit) (hkeeps : board.CallbacksAre Keeps)
    (now : Nat) (content : Content) (hs : s.Sound) :
    useContent limit board now content s = some (s.useContent board now content) := by
  cases content with
  | autoUpload tag => exact offer_eq board hlimit now hs tag
  | inventory report =>
      have htags := tags_eq hlimit (report.count.toNat + 1)
        { antenna := report.antenna, remaining := report.count, data := report.blocks }
        (Nat.lt_succ_self report.count.toNat)
      rw [useContent, htags]
      exact offers_eq hlimit hkeeps now hs report.sightings
  | _ => rfl

lemma remarksOn_eq (group : Nat) (entries : List TagHistory) :
    remarksOn group entries = some (entries.map fun history =>
      .seen (RfidLink.epcText history.epc.toList group) history) := by
  induction entries with
  | nil => rfl
  | cons history rest ih =>
      rw [remarksOn, epcText_eq, ih]
      rfl

variable (board) in
lemma endOnlyRound_eq (s : Station ε) : endOnlyRound board s = some (s.endOnlyRound board) := by
  rw [endOnlyRound, remarksOn_eq]
  rfl

variable (board) in
lemma followRound_eq (now : Nat) (status : Status) (s : Station ε) :
    followRound board now status s = some (s.followRound board now status) := by
  simp only [followRound, Station.followRound, endOnlyRound_eq]
  split
  · rfl
  · split
    · rfl
    · split
      · rfl
      · cases s.router.config.strategy <;> rfl

lemma keepAnswer_eq (hs : s.Sound) (answer : Answer) :
    keepAnswer s answer = some (s.keepAnswer answer) := by
  rw [keepAnswer, Station.keepAnswer, pushAnswer_eq _ _ hs.answers]
  split <;> rfl

lemma acceptResponse_eq (hlimit : Frame.maxSize ≤ limit) (hkeeps : board.CallbacksAre Keeps)
    (now : Nat) {frame : List UInt8} {response : Response}
    (hread : Response.ofFrame frame = .ok response) (hs : s.Sound) :
    acceptResponse limit board now frame response s =
      some (s.acceptResponse board now frame response) := by
  set told := s.tell board (.received frame response) with htold
  have hsound : told.Sound := (keeps_tell board _ s).sound hs
  -- The station once the answer is kept.
  set kept := (Station.answerOf response.head (responsePayload frame)).elim told told.keepAnswer
    with hkept
  have hanswer : (Station.answerOf response.head (responsePayload frame)).elim (some told)
      (keepAnswer told) = some kept := by
    rw [hkept]
    cases Station.answerOf response.head (responsePayload frame) with
    | none => rfl
    | some answer => exact keepAnswer_eq hsound answer
  have hkeptSound : kept.Sound := by
    rw [hkept]
    cases Station.answerOf response.head (responsePayload frame) with
    | none => exact hsound
    | some answer => exact (keeps_keepAnswer answer told).sound hsound
  simp only [acceptResponse, Station.acceptResponse, answerOf_eq hread, ← htold, hanswer, ← hkept,
    useContent_eq hlimit hkeeps now response.content hkeptSound, followRound_eq,
    Option.bind_eq_bind, Option.bind_some]
  split <;> rfl

lemma acceptFrame_eq (hlimit : Frame.maxSize ≤ limit) (hkeeps : board.CallbacksAre Keeps)
    (now : Nat) {frame : List UInt8} (hframe : Frame.Sized frame) (hs : s.Sound) :
    acceptFrame limit board now frame s = some (s.acceptFrame board now frame) := by
  obtain ⟨_, _, -, -, -, hmax⟩ := hframe
  have hlength : frame.length ≤ limit := Nat.le_trans hmax hlimit
  set counted := s.count fun c => { c with framesReceived := c.framesReceived + 1 } with hcounted
  have hsound : counted.Sound := ⟨hs.collector, hs.filter, hs.answers, hs.outbound⟩
  rw [acceptFrame, Station.acceptFrame, isValid_eq hlength, response_eq hlimit hlength]
  simp only [← hcounted, Option.bind_eq_bind, Option.bind_some]
  split
  · rfl
  · cases hread : Response.ofFrame frame with
    | error cause => rfl
    | ok response => exact acceptResponse_eq hlimit hkeeps now hread hsound

lemma acceptFrames_eq (hlimit : Frame.maxSize ≤ limit) (hkeeps : board.CallbacksAre Keeps)
    (now turns frames : Nat) (hs : s.Sound)
    (hcount : frames + (s.acceptFrames board now turns).1.length ≤ limit) :
    acceptFrames limit board now turns frames s =
      some (frames + (s.acceptFrames board now turns).1.length,
        (s.acceptFrames board now turns).2) := by
  induction turns generalizing s frames with
  | zero => rfl
  | succ turns ih =>
      have hpulled := (keeps_pullFrame board now s).sound hs
      have hframe (frame : List UInt8) (h : (s.pullFrame board now).1 = some frame) :
          Frame.Sized frame := sized_of_pullFrame board now hs h
      rw [acceptFrames, pullFrame_eq hlimit now hs, Option.bind_eq_bind, Option.bind_some]
      simp only [Station.acceptFrames] at hcount ⊢
      rcases hpull : s.pullFrame board now with ⟨_ | frame, pulled⟩ <;>
        rw [hpull] at hpulled hframe hcount
      · rfl
      · have hsized := hframe frame rfl
        have hnext := ((keeps_acceptFrame hkeeps now frame pulled).trans
          (keeps_performReset _)).sound hpulled
        simp only [List.length_cons] at hcount ⊢
        rw [size_eq (by omega), acceptFrame_eq hlimit hkeeps now hsized hpulled]
        simp only [Option.bind_eq_bind, Option.bind_some]
        rw [ih _ hnext (by omega), Nat.add_right_comm, Nat.add_assoc]

variable (board) in
lemma enqueueAll_eq (bytes : List UInt8) (hroom : bytes.length ≤ s.line.room) (hs : s.Sound) :
    enqueueAll board bytes s = some (s.enqueueAll board bytes) := by
  induction bytes generalizing s with
  | nil => rfl
  | cons byte rest ih =>
      have hmore := Nat.le_trans hroom (room_interrupted board s)
      have hsound := (keeps_interrupted board s).sound hs
      set t := s.interrupted board with ht
      rw [List.length_cons, Line.room] at hmore
      have hfits : (t.line.outbound ++ [byte]).length ≤ Line.capacity := by
        rw [List.length_append, List.length_singleton]
        omega
      have hqueued : t.line.enqueue byte =
          { t.line with outbound := t.line.outbound ++ [byte] } := by
        rw [Line.enqueue, if_neg (by rw [Line.room]; omega)]
      rw [enqueueAll, Station.enqueueAll, ← ht, store_eq hfits, Option.bind_eq_bind,
        Option.bind_some, ← hqueued]
      refine ih ?_ ((keeps_enqueue byte t).sound hsound)
      rw [hqueued, Line.room, List.length_append, List.length_singleton]
      omega

variable (board) in
lemma sendTo_eq (hlimit : Frame.maxSize ≤ limit) (address : UInt8) (command : Command)
    (hs : s.Sound) :
    sendTo limit board address command s = some (s.sendTo board address command) := by
  have hsound := (keeps_interrupted board s).sound hs
  rw [sendTo, Station.sendTo, encode_eq hlimit]
  simp only [Option.bind_eq_bind, Option.bind_some, minus_eq hsound.outbound]
  split
  · rfl
  · cases command.encode address with
    | error cause => rfl
    | ok frame =>
        by_cases hroom : frame.length ≤ (s.interrupted board).line.room
        · have hfits : ¬Line.capacity - (s.interrupted board).line.outbound.length < frame.length :=
            Nat.not_lt.mpr hroom
          simp only [if_neg hfits, if_pos hroom, enqueueAll_eq board frame hroom hsound,
            Option.bind_some]
        · have hlong : Line.capacity - (s.interrupted board).line.outbound.length < frame.length :=
            Nat.not_le.mp hroom
          simp only [if_pos hlong, if_neg hroom]

variable (board) in
lemma startRound_eq (hlimit : Frame.maxSize ≤ limit) (now : Nat) (hs : s.Sound) :
    startRound limit board now s = some (s.startRound board now) := by
  simp only [startRound, Station.startRound, send, sendTo_eq board hlimit _ _ hs,
    Option.bind_eq_bind, Option.bind_some]
  rcases s.sendTo board s.router.address s.router.config.strategy.openingCommand with
    ⟨cause | size, t⟩
  · cases s.router.config.strategy <;> rfl
  · rfl

variable (board) in
lemma abandonRound_eq (hlimit : Frame.maxSize ≤ limit) (now : Nat) (hs : s.Sound) :
    abandonRound limit board now s = some (s.abandonRound board now) := by
  set told := (s.tell board .roundAbandoned).count fun c =>
    { c with roundsAbandoned := c.roundsAbandoned + 1 } with htold
  have hdue : (told.onRouter (·.reschedule (·.dueAt now))).Sound :=
    ⟨hs.collector, hs.filter, hs.answers, hs.outbound⟩
  simp only [abandonRound, Station.abandonRound, ← htold, endOnlyRound_eq,
    startRound_eq board hlimit now hdue]
  split <;> rfl

variable (board) in
lemma keepSchedule_eq (hlimit : Frame.maxSize ≤ limit) (now : Nat) (hs : s.Sound) :
    keepSchedule limit board now s = some (s.keepSchedule board now) := by
  simp only [keepSchedule, Station.keepSchedule, abandonRound_eq board hlimit now hs,
    startRound_eq board hlimit now hs]
  split_ifs <;> rfl

/-- **A call in a sound state carries out every step**, if its frames can be counted. -/
theorem process_eq (hlimit : Frame.maxSize ≤ limit) (hkeeps : board.CallbacksAre Keeps)
    (hs : s.Sound) (hcount : (s.dispatched board).length ≤ limit) :
    process limit board s = some (s.process board) := by
  cases hbusy : s.router.busy with
  | true => simp only [process, Station.process, hbusy, if_true]
  | false =>
      cases hrunning : s.router.running with
      | false =>
          simp only [process, Station.process, hbusy, hrunning, Bool.false_eq_true, if_false,
            Bool.not_false, if_true]
      | true =>
          have hready := (keeps_ready board s).sound hs
          have haccepted := (keeps_acceptFrames hkeeps (s.now board)
            ((s.ready board).frameTurns board) (s.ready board)).sound hready
          rw [dispatched_eq hrunning hbusy] at hcount
          have hframes := acceptFrames_eq hlimit hkeeps (s.now board)
            ((s.ready board).frameTurns board) 0 hready (by rw [Nat.zero_add]; exact hcount)
          rw [Nat.zero_add] at hframes
          simp only [process, Station.process, hbusy, hrunning, Bool.false_eq_true, if_false,
            Bool.not_true, hframes, keepSchedule_eq board hlimit _ haccepted, Option.bind_eq_bind,
            Option.bind_some]
          rfl

end

end Checked

namespace Station

variable {board : Board ε}

lemma length_acceptFrames_le (now turns : Nat) (s : Station ε) :
    (s.acceptFrames board now turns).1.length ≤ turns := by
  induction turns generalizing s with
  | zero => exact Nat.le_refl 0
  | succ turns ih =>
      simp only [acceptFrames]
      split
      · exact Nat.zero_le _
      · exact Nat.succ_le_succ (ih _)

/--
  A call acts on no more frames than it has turns: the received bytes, one, and what the callbacks of
  the board may add.
-/
theorem length_dispatched_le (s : Station ε) :
    (s.dispatched board).length ≤ (s.ready board).frameTurns board := by
  simp only [dispatched]
  split
  · exact Nat.zero_le _
  · exact length_acceptFrames_le _ _ _

end Station

/--
  **Nothing leaves its range, whatever is received.**  Let `limit` be the largest number of a
  machine word, which is at least the size of the longest frame.

  * A frame of any length, a payload, a report and any walk over blocks are read without a step that
    fails.
  * The answer that is kept of a frame has the whole payload: the bytes between the fixed fields and
    the checksum.
  * A call to process what was received carries out every step, in every state that a router reaches
    and on every board whose callbacks run operations, as long as a word can count the frames of
    that call (see `Station.length_dispatched_le`).
-/
theorem process_in_range {limit : Nat} (hlimit : Frame.maxSize ≤ limit) :
    (∀ frame : List UInt8, frame.length ≤ limit →
      Checked.response limit frame = some (Response.ofFrame frame)) ∧
    (∀ head payload, Checked.content limit head payload = some (Content.ofPayload head payload)) ∧
    (∀ payload, Checked.report limit payload = some (RoundReport.ofPayload payload)) ∧
    (∀ walk : Checked.TagWalk, walk.tags limit (walk.remaining.toNat + 1) =
      some (TagBlock.readAll walk.antenna walk.remaining.toNat walk.data)) ∧
    (∀ frame response answer, Response.ofFrame frame = .ok response →
      Station.answerOf response.head (responsePayload frame) = some answer →
        frame = frame.take ResponseHead.size ++ answer.payload.toList ++
          frame.drop (frame.length - Checksum.size)) ∧
    ∀ (earlier board : Board ε) (drift drift' : ε → ε → Prop) (config : Config) (e : ε)
      (s : Station ε), earlier.Nests (fun _ => True) drift → board.Nests (fun _ => True) drift' →
        (Station.fresh config e).Runs earlier (fun _ => True) drift s →
          (s.dispatched board).length ≤ limit →
            Checked.process limit board s = some (s.process board) := by
  refine ⟨fun frame => Checked.response_eq hlimit, Checked.content_eq hlimit,
    Checked.report_eq hlimit, fun walk => Checked.tags_eq hlimit _ walk (Nat.lt_succ_self _),
    ?_, ?_⟩
  · intro frame response answer hread hanswer
    have hpayload : answer.payload.toList = responsePayload frame := by
      simp only [Station.answerOf] at hanswer
      split at hanswer
      · cases hanswer
      · cases hanswer
        exact payload_ofFrame hread
    rw [hpayload]
    exact (Checked.take_responsePayload_drop (Checked.minResponseSize_le hread)).symm
  · intro earlier board drift drift' config e s hearlier hboard hreached hcount
    exact Checked.process_eq hlimit hboard.keeps (hreached.keeps hearlier).1 hcount

/--
  Three frames in words of 16 bits: an uploaded tag, a round with a tag whose first word promises
  more bytes than its block has, and a temperature.
-/
theorem process_in_range_still :
    let board : Board Unit := .still 0 { rfPower := 26, address := 0, antenna := 0 }
    let round := Frame.ofBody [0x00, 0x01, 0x01, 0x01, 0x01, 0xC4, 0xF8, 0x00, 0xAA, 0xBB, 0x50,
      0x00, 0x00, 0x00, 0x00, 0x0D, 0xBB, 0xA0]
    let reading := Frame.ofBody [0x00, 0x92, 0x00, 0x01, 0x19]
    let frames := [Frame.ofBody [0x00, 0xEE, 0x00, 0x01, 0x02, 0xAA, 0xBB, 0x50], round, reading]
    let s := (((Station.fresh .standard ()).start board).2.enterMode board .inventory).receive
      frames.flatten
    Checked.process 65535 board s = some (s.process board) ∧
      (s.process board).1 = .processed 3 ∧ (s.process board).2.router.counters.tagsRead = 2 ∧
      Checked.response 65535 round = some (Response.ofFrame round) ∧
      ∃ answer ∈ (s.process board).2.router.answers,
        reading = reading.take 4 ++ answer.payload.toList ++ reading.drop 6 := by
  intro board round reading frames s
  have hboard : board.Nests (fun _ => True) fun _ _ => True :=
    .of_idle (fun _ => trivial)
      ⟨fun _ _ => rfl, fun _ => rfl, fun _ _ => rfl, fun _ _ => rfl, fun _ _ => rfl⟩
  have hreached : (Station.fresh .standard ()).Runs board (fun _ => True) (fun _ _ => True) s :=
    ((Relation.ReflTransGen.single (.operate .start trivial)).tail
      (.operate (.enterMode .inventory) trivial)).tail (.operate (.receive frames.flatten) trivial)
  have hcount : (s.dispatched board).length ≤ 65535 :=
    Nat.le_trans (Station.length_dispatched_le s) (by decide +kernel)
  -- The temperature is read, and kept as an answer.
  let answer : Answer :=
    { address := 0x00, command := 0x92, status := .success, payload := ⟨[0x01, 0x19], by decide⟩ }
  have hread : Response.ofFrame reading =
      .ok { head := ⟨0x07, 0x00, 0x92, .success⟩, content := .temperature 25 } := by decide +kernel
  have hkept : answer ∈ (s.process board).2.router.answers := by decide +kernel
  obtain ⟨hresponse, -, -, -, hpayload, hprocess⟩ := @process_in_range Unit 65535 (by decide)
  refine ⟨?_, by decide +kernel, by decide +kernel, hresponse round (by decide), answer, hkept, ?_⟩
  · exact hprocess board board _ _ .standard () s hboard hboard hreached hcount
  · exact hpayload reading _ answer hread (by decide +kernel)

end RfidLink
