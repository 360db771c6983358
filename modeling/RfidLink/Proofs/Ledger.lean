import RfidLink.Proofs.Intake
import RfidLink.Proofs.Tasks

/-!
# Stations that keep a history

What a station is told and what arrives can be written down beside its surroundings, where no
operation looks at it.  A `Ledger` is such a history.

* `Ledger.operate` and `Ledger.act` carry out operations and actions; bytes that arrive are written
  down.  `Ledger.Event` and `Ledger.Runs` are the events and the runs, and `Ledger.Nests` says that
  callbacks do nothing but what an event may do, to any depth.
* `Ledger.Passes` says that the ledger has grown by a history which the station follows.
* `Station.Move.passes` is the step: one case for each kind of move.
* **`Ledger.Runs.passes`** is the run.  Whatever happens in whatever order, also inside callbacks,
  the bytes of a station are read as its history says.
-/

namespace RfidLink

variable {ε : Type} {board devices : Board ε}

/-- A history kept in the surroundings: what was told, and the bytes that arrived. -/
structure Ledger (board : Board ε) where
  entries : ε → List Entry
  /-- Write down that bytes arrived, those that were kept and those that were lost. -/
  arrive : List UInt8 → List UInt8 → ε → ε
  entries_arrive : ∀ kept lost e, entries (arrive kept lost e) = entries e ++ [.came kept lost]
  entries_write : ∀ remark e, entries (board.write remark e) = entries e ++ [.told remark]
  entries_emit : ∀ byte e, entries (board.emit byte e).2 = entries e
  entries_interrupts : ∀ e, entries (board.interrupts e).2 = entries e

namespace Ledger

section

variable (ledger : Ledger devices)

/-- The same ledger, for a board that differs in nothing but its callbacks. -/
def onto (h : board.SameDevices devices) : Ledger board where
  entries := ledger.entries
  arrive := ledger.arrive
  entries_arrive := ledger.entries_arrive
  entries_write := by rw [h.write]; exact ledger.entries_write
  entries_emit := by rw [h.emit]; exact ledger.entries_emit
  entries_interrupts := by rw [h.interrupts]; exact ledger.entries_interrupts

/-- The history of a station. -/
def history (s : Station ε) : List Entry := ledger.entries s.surroundings

/-- Bytes arrive, and that is written down. -/
def receive (bytes : List UInt8) (s : Station ε) : Station ε :=
  let kept := (s.line.receive bytes).1
  { s.receive bytes with
    surroundings := ledger.arrive (bytes.take kept) (bytes.drop kept) s.surroundings }

/-- Carry out an operation on a board. -/
def operate (board : Board ε) (s : Station ε) : Operation → Station ε
  | .receive bytes => ledger.receive bytes s
  | operation => operation.run board s

/-- Carry out an action on a board. -/
def act (board : Board ε) (s : Session ε) : Action → Session ε
  | .onRouter operation => s.onStation (ledger.operate board · operation)
  | action => action.run board s

/-- An operation is carried out, or the surroundings change and leave the ledger alone. -/
inductive Event (board : Board ε) : Station ε → Station ε → Prop
  | operate {s} (operation : Operation) : Event board s (ledger.operate board s operation)
  | drift {s} (e : ε) (h : ledger.entries e = ledger.entries s.surroundings) :
      Event board s { s with surroundings := e }

/-- Callbacks do nothing but run events, on boards whose callbacks do the same. -/
abbrev Nests (board : Board ε) : Prop := board.NestsBy ledger.Event

/-- The same for a session. -/
inductive SessionEvent (board : Board ε) : Session ε → Session ε → Prop
  | act {s} (action : Action) : SessionEvent board s (ledger.act board s action)
  | drift {s} (e : ε) (h : ledger.entries e = ledger.entries s.station.surroundings) :
      SessionEvent board s (s.onStation fun t => { t with surroundings := e })

/-- Any number of events, one after the other. -/
abbrev Runs (board : Board ε) : Session ε → Session ε → Prop :=
  Relation.ReflTransGen (ledger.SessionEvent board)

/-- The ledger has grown by a history that the station follows. -/
def Passes (s t : Station ε) : Prop :=
  ∃ new, ledger.history t = ledger.history s ++ new ∧ s.Follows new t

end

/-! ## What fits a history -/

variable {ledger : Ledger board} {s t u : Station ε}

lemma Passes.trans (hst : ledger.Passes s t) (htu : ledger.Passes t u) : ledger.Passes s u := by
  obtain ⟨new, hhistory, hfollows⟩ := hst
  obtain ⟨later, hhistory', hfollows'⟩ := htu
  exact ⟨new ++ later, by rw [hhistory', hhistory, List.append_assoc], hfollows.trans hfollows'⟩

/-- Nothing was written down; some bytes and some answers may have been dropped. -/
lemma Passes.silent (hhistory : ledger.history t = ledger.history s)
    (hunread : t.unread <:+ s.unread) (hmode : t.router.mode = s.router.mode)
    (hanswers : t.router.answers ⊆ s.router.answers) :
    ledger.Passes s t :=
  ⟨[], by rw [hhistory, List.append_nil], .silent hunread hmode hanswers⟩

lemma Passes.refl (s : Station ε) : ledger.Passes s s := ⟨[], (List.append_nil _).symm, .refl s⟩

/-- Nothing that a history knows of has changed. -/
lemma Passes.of_bearing (hhistory : ledger.history t = ledger.history s)
    (hinbound : t.line.inbound = s.line.inbound) (hbearing : t.router.bearing = s.router.bearing) :
    ledger.Passes s t := by
  have hstance : t.router.stance = s.router.stance := congrArg Prod.fst hbearing
  have hreceiving : t.router.receiving = s.router.receiving := congrArg (·.2.1) hbearing
  have hanswers : t.router.answers = s.router.answers := congrArg (·.2.2.answers) hbearing
  have hunread : t.unread = s.unread := Station.unread_congr hreceiving hinbound
  exact .silent hhistory (hunread ▸ List.suffix_rfl) (congrArg Prod.fst hstance)
    (hanswers ▸ fun _ ha => ha)

lemma history_tell (remark : Remark) (s : Station ε) :
    ledger.history (s.tell board remark) = ledger.history s ++ [.told remark] :=
  ledger.entries_write remark s.surroundings

lemma passes_tell {remark : Remark} (hframe : remark.frame? = none) (hcut : remark.isCut = false)
    (s : Station ε) : ledger.Passes s (s.tell board remark) :=
  ⟨[.told remark], history_tell remark s, .aside hframe hcut rfl rfl fun _ ha => ha⟩

lemma passes_tellAll {remarks : List Remark}
    (h : ∀ r ∈ remarks, r.frame? = none ∧ r.isCut = false) (s : Station ε) :
    ledger.Passes s (s.tellAll board remarks) := by
  induction remarks generalizing s with
  | nil => exact .refl s
  | cons remark rest ih =>
      have hfirst := h remark List.mem_cons_self
      have hrest : ∀ r ∈ rest, r.frame? = none ∧ r.isCut = false :=
        fun r hr => h r (List.mem_cons_of_mem _ hr)
      exact (passes_tell hfirst.1 hfirst.2 s).trans (ih hrest _)

lemma history_tellAll (remarks : List Remark) (s : Station ε) :
    ledger.history (s.tellAll board remarks) = ledger.history s ++ remarks.map .told := by
  induction remarks generalizing s with
  | nil => exact (List.append_nil _).symm
  | cons remark rest ih =>
      have hrest := ih (s.tell board remark)
      rw [history_tell, List.append_assoc] at hrest
      exact hrest

/-! ## Cuts -/

lemma passes_performReset (s : Station ε) : ledger.Passes s s.performReset := by
  simp only [Station.performReset]
  split
  · exact .silent rfl List.nil_suffix rfl fun _ ha => ha
  · exact .refl s

lemma passes_resetUnlessBusy (s : Station ε) : ledger.Passes s s.resetUnlessBusy := by
  simp only [Station.resetUnlessBusy]
  split
  · exact .refl s
  · exact passes_performReset s

/-- **A change of mode is a cut.** -/
lemma passes_enterMode (mode : Mode) (s : Station ε) :
    ledger.Passes s (s.enterMode board mode) := by
  simp only [Station.enterMode]
  split
  · exact .refl s
  · set changed := (s.onRouter fun r => { r with mode, resetPending := true }).tell board
      (.modeChanged s.router.mode mode) with hchanged
    have hcut : ledger.Passes s changed :=
      ⟨[.told (.modeChanged s.router.mode mode)], ledger.entries_write _ _,
        .cut rfl (Station.unread_of_pending rfl) rfl fun _ ha => ha⟩
    exact hcut.trans (passes_resetUnlessBusy changed)

/-- A router with a pending reset has nothing in hand, and nothing that it resets brings it back. -/
lemma resetUnlessBusy_of_pending {s : Station ε} (h : s.router.resetPending = true) :
    s.resetUnlessBusy.unread = [] ∧ s.resetUnlessBusy.surroundings = s.surroundings := by
  simp only [Station.resetUnlessBusy, Station.performReset, h, if_true]
  split
  · exact ⟨Station.unread_of_pending h, rfl⟩
  · exact ⟨rfl, rfl⟩

/-- **Starting is a cut**, whatever mode the router was in. -/
lemma passes_start (s : Station ε) : ledger.Passes s (s.start board).2 := by
  simp only [Station.start]
  split
  · exact .refl s
  · set running := s.onRouter fun r =>
      { r with running := true, mode := .idle, resetPending := true } with hrunning
    obtain ⟨hunread, hsurroundings⟩ := resetUnlessBusy_of_pending (s := running) rfl
    obtain ⟨_, _, hrouter⟩ := Station.router_resetUnlessBusy running
    have hanswers : running.resetUnlessBusy.router.answers = s.router.answers := by
      rw [hrouter]
      rfl
    have hmode : running.resetUnlessBusy.router.mode = .idle := by rw [hrouter]; rfl
    refine ⟨[.told .routerStarted], ?_, .cut rfl hunread hmode ?_⟩
    · rw [history_tell, history, hsurroundings]
      rfl
    · show running.resetUnlessBusy.router.answers ⊆ _
      rw [hanswers]
      exact fun _ ha => ha

lemma passes_endSchedule (s : Station ε) : ledger.Passes s s.endSchedule :=
  .silent rfl List.suffix_rfl rfl fun _ ha => ha

lemma passes_stop (s : Station ε) : ledger.Passes s (s.stop board).2 := by
  simp only [Station.stop]
  split
  · have hended : ledger.Passes s
        (s.onRouter fun r => ({ r with running := false } : Router).endSchedule) :=
      .silent rfl List.suffix_rfl rfl fun _ ha => ha
    exact (hended.trans (passes_enterMode .idle _)).trans (passes_tell rfl rfl _)
  · exact .refl s

lemma passes_reportTotals (s : Station ε) : ledger.Passes s (s.reportTotals board).2 := by
  refine passes_tellAll ?_ s
  intro remark hremark
  rcases List.mem_cons.mp hremark with rfl | hseen
  · exact ⟨rfl, rfl⟩
  · obtain ⟨_, _, rfl⟩ := List.mem_map.mp hseen
    exact ⟨rfl, rfl⟩

lemma passes_endOnlyRound (s : Station ε) : ledger.Passes s (s.endOnlyRound board) :=
  ((passes_endSchedule s).trans (passes_reportTotals _)).trans (passes_enterMode .idle _)

/-! ## The way in and the way out -/

/-- The wire and the serial port write nothing into a ledger. -/
lemma spares_entries (ledger : Ledger board) : board.Spares ledger.entries :=
  ⟨ledger.entries_emit, ledger.entries_interrupts⟩

lemma passes_interrupted (s : Station ε) : ledger.Passes s (s.interrupted board) := by
  refine .of_bearing (ledger.spares_entries.interrupted s) (Station.inbound_interrupted s) ?_
  rw [Station.router_interrupted]

lemma passes_sendTo (address : UInt8) (command : Command) (s : Station ε) :
    ledger.Passes s (s.sendTo board address command).2 := by
  have hinterrupted : ledger.Passes s (s.interrupted board) := passes_interrupted s
  obtain ⟨-, h⟩ | ⟨_, -, -, h⟩ | ⟨frame, -, -, -, h⟩ | ⟨frame, -, -, -, h⟩ :=
    Station.sendTo_cases board address command s
  · rw [h]; exact .refl s
  · rw [h]; exact .refl s
  · rw [h]
    have hqueued : ledger.Passes (s.interrupted board)
        ((s.interrupted board).enqueueAll board frame) := by
      refine .of_bearing (ledger.spares_entries.enqueueAll _ _) (Station.inbound_enqueueAll _ _) ?_
      rw [Station.router_enqueueAll]
    exact (hinterrupted.trans hqueued).trans (passes_tell rfl rfl _)
  · rw [h]
    have hrefused : ledger.Passes (s.interrupted board) ((s.interrupted board).refuse frame) :=
      .of_bearing rfl rfl rfl
    exact (hinterrupted.trans hrefused).trans (passes_tell rfl rfl _)

/-- A command that is queued is all that is written down about it. -/
lemma history_sendTo {address : UInt8} {command : Command} {size : Nat}
    (h : s.sendTo board address command = (.ok size, t)) :
    ledger.history t = ledger.history s ++ [.told (.queued command address)] := by
  obtain ⟨-, hcase⟩ | ⟨_, -, -, hcase⟩ | ⟨frame, -, -, -, hcase⟩ | ⟨_, -, -, -, hcase⟩ :=
    Station.sendTo_cases board address command s
  · cases hcase.symm.trans h
  · cases hcase.symm.trans h
  · obtain ⟨-, rfl⟩ := Prod.mk.inj (hcase.symm.trans h)
    rw [history_tell, history, ledger.spares_entries.enqueueAll, ledger.spares_entries.interrupted]
    rfl
  · cases hcase.symm.trans h

lemma unread_resetCollector (s : Station ε) :
    (s.onRouter fun r => { r with collector := r.collector.reset }).unread <:+ s.unread := by
  set reset := s.onRouter fun r => { r with collector := r.collector.reset }
  cases hpending : s.router.resetPending with
  | true =>
      have hnone : reset.unread = [] := Station.unread_of_pending hpending
      rw [hnone]
      exact List.nil_suffix
  | false =>
      have hring : reset.unread = s.line.inbound := Station.unread_of_not_pending hpending
      rw [hring, Station.unread_of_not_pending hpending]
      exact List.suffix_append _ _

lemma passes_discardAfterOverrun (s : Station ε) :
    ledger.Passes s (s.discardAfterOverrun board) := by
  have htaken : ledger.Passes s { s with line := s.line.takeOverrun.2 } := .of_bearing rfl rfl rfl
  simp only [Station.discardAfterOverrun]
  split
  · have htold : ledger.Passes { s with line := s.line.takeOverrun.2 }
        ({ s with line := s.line.takeOverrun.2 }.tell board .overrun) := passes_tell rfl rfl _
    exact (htaken.trans htold).trans (.silent rfl (unread_resetCollector _) rfl fun _ ha => ha)
  · exact htaken

/-! ## Frames -/

/-- What a search for a frame writes down are the starts of frames it refused. -/
lemma history_pullFrame (ledger : Ledger board) (now : Nat) (s : Station ε) :
    ∃ remarks : List Remark, (∀ r ∈ remarks, r.frame? = none ∧ r.isCut = false) ∧
      ledger.history (s.pullFrame board now).2 = ledger.history s ++ remarks.map .told := by
  set search := s.router.collector.search now s.line.inbound with hsearch
  refine ⟨search.errors.map .startRefused, ?_, history_tellAll _ _⟩
  intro remark hremark
  obtain ⟨_, _, rfl⟩ := List.mem_map.mp hremark
  exact ⟨rfl, rfl⟩

variable (board) in
/-- **A search reads**: it drops some bytes, and among them the frame if it finds one. -/
lemma unread_pullFrame (now : Nat) {s : Station ε} (hpending : s.router.resetPending = false) :
    ∃ consumed, s.unread = consumed ++ (s.pullFrame board now).2.unread ∧
      Frame.Carved (s.pullFrame board now).1.toList consumed := by
  obtain ⟨_, hrouter⟩ := Station.router_pullFrame board now s
  have hline := Station.line_pullFrame board now s
  have hpending' : (s.pullFrame board now).2.router.resetPending = false := by
    rw [hrouter]
    exact hpending
  rw [Station.unread_of_not_pending hpending, Station.unread_of_not_pending hpending', hrouter,
    hline]
  exact s.router.collector.received_search now s.line.inbound

lemma passes_search (now : Nat) {s : Station ε} (hpending : s.router.resetPending = false) :
    ledger.Passes s (s.pullFrame board now).2 := by
  obtain ⟨remarks, hasides, hhistory⟩ := ledger.history_pullFrame now s
  obtain ⟨consumed, hunread, -⟩ := unread_pullFrame board now hpending
  obtain ⟨_, hrouter⟩ := Station.router_pullFrame board now s
  refine ⟨remarks.map .told, hhistory, ?_, ?_, ?_⟩
  · rw [hunread]
    exact .drop consumed (.asides hasides _)
  · rw [hrouter, Entry.mode_asides hasides]
  · rw [hrouter]
    exact fun _ ha => .inl ha

/-- **A frame that is taken is read**, and no other answer is kept than the one in it. -/
lemma passes_take {now : Nat} {frame : List UInt8} {router : Router} {remark : Remark}
    {s : Station ε} (hpending : s.router.resetPending = false)
    (hframe : (s.pullFrame board now).1 = some frame)
    (hregisters : (s.pullFrame board now).2.router.Registers frame router)
    (hremark : remark.frame? = some frame) :
    ledger.Passes s (((s.pullFrame board now).2.onRouter fun _ => router).tell board remark) := by
  obtain ⟨remarks, hasides, hhistory⟩ := ledger.history_pullFrame now s
  obtain ⟨consumed, hunread, hcarved⟩ := unread_pullFrame board now hpending
  obtain ⟨_, hrouter⟩ := Station.router_pullFrame board now s
  set pulled := (s.pullFrame board now).2 with hpulled
  have hsame : ((pulled.onRouter fun _ => router).tell board remark).unread = pulled.unread :=
    Station.unread_congr hregisters.receiving rfl
  have hmode : router.mode = s.router.mode := by
    have hkept : router.mode = pulled.router.mode := congrArg Prod.fst hregisters.stance
    rw [hkept, hrouter]
  have hframes : Entry.frames (remarks.map .told ++ [.told remark]) =
      Entry.frames (remarks.map .told) ++ [frame] := by
    rw [Entry.frames_append, Entry.frames_cons, Entry.frame?, hremark]
    rfl
  rw [hframe] at hcarved
  refine ⟨remarks.map .told ++ [.told remark], ?_, ?_, ?_, ?_⟩
  · rw [history_tell, ← List.append_assoc, ← hhistory]
    rfl
  · rw [hsame, hunread]
    exact (Reading.asides hasides _).trans (.handed hremark hcarved _)
  · rw [List.foldl_append, Entry.mode_asides hasides, List.foldl_cons,
      Entry.mode_told (Remark.isCut_of_frame? hremark)]
    exact hmode
  · intro a ha
    rw [hframes]
    rcases hregisters.answers a ha with hkept | hanswer
    · rw [hrouter] at hkept
      exact .inl hkept
    · exact .inr ⟨frame, List.mem_append_right _ List.mem_cons_self, hanswer⟩

end Ledger

/-! ## One move -/

namespace Station

variable {ledger : Ledger board} {s t : Station ε}

lemma Deed.passes (hboard : board.CallbacksAre ledger.Passes) (h : Deed board s t) :
    ledger.Passes s t := by
  cases h with
  | tell remark haside =>
      obtain ⟨hframe, hcut, -⟩ := Remark.of_isAside haside
      exact Ledger.passes_tell hframe hcut s
  | note f hf => exact .of_bearing rfl rfl (hf s.router)
  | deliver text => exact hboard.deliver text s
  | notifyRead => exact hboard.notifyRead s
  | notifyError isOn => exact hboard.notifyError isOn s
  | sendTo address command => exact Ledger.passes_sendTo address command s
  | reschedule f _ _ _ => exact .silent rfl List.suffix_rfl rfl fun _ ha => ha
  | endInventory => exact (Ledger.passes_endSchedule s).trans (Ledger.passes_enterMode .idle _)
  | endOnlyRound => exact Ledger.passes_endOnlyRound s

/-- **What one move does to a history.**  If callbacks fit the history, so does every move. -/
theorem Move.passes (hboard : board.CallbacksAre ledger.Passes) (h : Move board s t) :
    ledger.Passes s t := by
  cases h with
  | deed hdeed => exact hdeed.passes hboard
  | forget answers awaiting hanswers => exact .silent rfl List.suffix_rfl rfl hanswers
  | recount counters => exact .silent rfl List.suffix_rfl rfl fun _ ha => ha
  | occupy busy => exact .silent rfl List.suffix_rfl rfl fun _ ha => ha
  | flag line hinbound _ => exact .of_bearing rfl hinbound rfl
  | reset => exact Ledger.passes_performReset s
  | discard => exact Ledger.passes_discardAfterOverrun s
  | search now hpending _ => exact Ledger.passes_search now hpending
  | take now frame router remark hpending hframe hregisters hremark =>
      exact Ledger.passes_take hpending hframe hregisters hremark
  | transmit => exact .of_bearing (ledger.spares_entries.transmit s) rfl rfl
  | notifyRunning isOn => exact hboard.notifyRunning isOn s
  | wait ms => exact hboard.wait ms s
  | start => exact Ledger.passes_start s
  | stop => exact Ledger.passes_stop s
  | begin address command _ schedule _ _ =>
      have hsent : ledger.Passes s _ := (Ledger.passes_enterMode .inventory s).trans
        (Ledger.passes_sendTo address command _)
      exact hsent.trans (.silent rfl List.suffix_rfl rfl fun _ ha => ha)
  | beginRefused address command _ =>
      have hsent : ledger.Passes s _ := (Ledger.passes_enterMode .inventory s).trans
        (Ledger.passes_sendTo address command _)
      exact hsent.trans (Ledger.passes_enterMode .idle _)
  | endSending address command =>
      have hreported : ledger.Passes s _ := (Ledger.passes_endSchedule s).trans
        (Ledger.passes_reportTotals _)
      exact (hreported.trans (Ledger.passes_sendTo address command _)).trans
        (Ledger.passes_enterMode .idle _)

lemma Moves.passes (hboard : board.CallbacksAre ledger.Passes) (h : s.Moves board t) :
    ledger.Passes s t := by
  induction h with
  | refl => exact .refl s
  | tail _ hstep ih => exact ih.trans (hstep.passes hboard)

end Station

/-! ## Whole runs -/

namespace Ledger

variable {ledger : Ledger board} {s t : Station ε}

/-- Bytes that arrive are read behind those in hand, unless a reset will throw them away. -/
lemma passes_receive (bytes : List UInt8) (s : Station ε) :
    ledger.Passes s (ledger.receive bytes s) := by
  set kept := bytes.take (s.line.receive bytes).1 with hkept
  have hinbound : (ledger.receive bytes s).line.inbound = s.line.inbound ++ kept := by
    show s.line.inbound ++ bytes.take (Line.capacity - s.line.inbound.length) = _
    rw [hkept]
    simp [Line.receive, List.take_eq_take_iff]
  refine ⟨[.came kept (bytes.drop (s.line.receive bytes).1)], ledger.entries_arrive _ _ _, ?_, rfl,
    fun _ ha => .inl ha⟩
  cases hpending : s.router.resetPending with
  | true =>
      -- the bytes go the way of those in front of them
      have hnone : (ledger.receive bytes s).unread = [] := Station.unread_of_pending hpending
      rw [hnone, Station.unread_of_pending hpending]
      have hdropped : Reading (kept ++ []) [] [] := .drop kept (.done [])
      rw [List.append_nil] at hdropped
      exact .step (.came kept _ []) hdropped
  | false =>
      have hmore : (ledger.receive bytes s).unread = s.unread ++ kept := by
        rw [Station.unread_of_not_pending hpending, List.append_assoc, ← hinbound]
        exact Station.unread_of_not_pending hpending
      rw [hmore]
      exact .single (.came kept _ _)

/-- Only the arrival of bytes is written down by itself. -/
lemma operate_eq_run (ledger : Ledger devices) {operation : Operation}
    (h : operation.isArrival = false) (s : Station ε) :
    ledger.operate board s operation = operation.run board s := by
  cases operation with
  | receive bytes => cases h
  | _ => rfl

/-- Every operation fits the history, also one that sets mode or schedule by hand. -/
lemma passes_operate (hboard : board.CallbacksAre ledger.Passes) (operation : Operation)
    (s : Station ε) : ledger.Passes s (ledger.operate board s operation) := by
  cases harrival : operation.isArrival with
  | true =>
      cases operation with
      | receive bytes => exact passes_receive bytes s
      | _ => cases harrival
  | false =>
      rw [ledger.operate_eq_run harrival]
      cases hraw : operation.isRaw with
      | false => exact (Operation.own_moves hraw harrival s).passes hboard
      | true =>
          cases operation with
          | enterMode mode => exact passes_enterMode mode s
          | beginSchedule =>
              have hbegun : ledger.Passes s (s.onRouter fun r =>
                  { r with schedule := .opened s.router.config (s.now board) }) :=
                .silent rfl List.suffix_rfl rfl fun _ ha => ha
              exact hbegun.trans ((Station.moves_beginSchedule s).passes hboard)
          | endSchedule => exact passes_endSchedule s
          | _ => cases hraw

lemma passes_act (hboard : board.CallbacksAre ledger.Passes) (action : Action) (s : Session ε) :
    ledger.Passes s.station (ledger.act board s action).station := by
  cases action with
  | onRouter operation => exact passes_operate hboard operation s.station
  | _ => exact (Action.own_moves rfl rfl s).passes hboard

lemma passes_drift {e : ε} (h : ledger.entries e = ledger.entries s.surroundings) :
    ledger.Passes s { s with surroundings := e } := .of_bearing h rfl rfl

/-- Callbacks that do nothing but run events fit the history, however they nest. -/
theorem Nests.passes (h : ledger.Nests board) : board.CallbacksAre ledger.Passes := by
  refine h.callbacks_are .refl (fun _ _ _ => .trans) ?_ (.refl board)
  intro inner hinner hkeep s t hevent
  cases hevent with
  | operate operation =>
      have hpasses : (ledger.onto hinner).Passes s
          ((ledger.onto hinner).operate inner s operation) := passes_operate hkeep operation s
      exact hpasses
  | drift e he => exact passes_drift he

/-- **A whole run fits its history.** -/
theorem Runs.passes (hboard : ledger.Nests board) {s t : Session ε} (h : ledger.Runs board s t) :
    ledger.Passes s.station t.station := by
  induction h with
  | refl => exact .refl s.station
  | tail _ hstep ih =>
      cases hstep with
      | act action => exact ih.trans (passes_act hboard.passes action _)
      | drift e he => exact ih.trans (passes_drift he)

/-- Actions carried out one after the other are a run. -/
lemma runs_foldl (ledger : Ledger devices) (board : Board ε) (actions : List Action)
    (s : Session ε) : ledger.Runs board s (actions.foldl (ledger.act board) s) := by
  induction actions generalizing s with
  | nil => exact .refl
  | cons action rest ih => exact .head (.act action) (ih _)

end Ledger

/-! ## A history as surroundings -/

/-- A board on which time stands still and callbacks do nothing; its surroundings are a history. -/
def Board.chronicle : Board (List Entry) :=
  { Board.still 0 { rfPower := 0, address := 0, antenna := 0 } with
    write := fun remark entries => entries ++ [.told remark] }

/-- The surroundings themselves are the ledger. -/
def Ledger.chronicle : Ledger .chronicle where
  entries entries := entries
  arrive kept lost entries := entries ++ [.came kept lost]
  entries_arrive _ _ _ := rfl
  entries_write _ _ := rfl
  entries_emit _ _ := rfl
  entries_interrupts _ := rfl

/-- Whatever callbacks are allowed to do, these do. -/
lemma Board.nestsBy_chronicle (event : Board (List Entry) → Station (List Entry) →
    Station (List Entry) → Prop) : Board.chronicle.NestsBy event :=
  .of_idle ⟨fun _ _ => rfl, fun _ => rfl, fun _ _ => rfl, fun _ _ => rfl, fun _ _ => rfl⟩

lemma Ledger.nests_chronicle : Ledger.chronicle.Nests .chronicle := Board.nestsBy_chronicle _

end RfidLink
