import RfidLink.Proofs.Feeding
import RfidLink.Proofs.Framing
import RfidLink.Proofs.Ledger

/-!
# What lost bytes do to frames

Bytes that find the inbound ring full are lost.  The loss is behind everything that waits in the
ring, while the partial frame that is discarded for it is in front of that.

* `Frame.Carved.split` is about blocks of bytes and a point between two bytes: some blocks are in
  front of the point, some are behind it, and at most one is torn by it.
* **`frames_torn_only_at_losses`** is the run.  Frames are blocks of the bytes that were kept, so a
  frame can only be wrong about a loss by joining what came before and behind it, and for each loss
  there is at most one frame that does.  Where nothing is lost, frames are blocks of all that came.
* `frame_joined_across_loss` is such a frame.
-/

namespace RfidLink

variable {ε : Type} {board : Board ε}

/-! ## Torn blocks -/

/-- The beginning of a block is in front of a point between two bytes, and the rest is behind it. -/
def Frame.TornAt (front back frame : List UInt8) : Prop :=
  ∃ beginning rest, frame = beginning ++ rest ∧ beginning <:+ front ∧ rest <+: back

/-- **A point between two bytes tears at most one block.** -/
theorem Frame.Carved.split {frames : List (List UInt8)} {front back : List UInt8}
    (h : Frame.Carved frames (front ++ back)) :
    ∃ whole torn later, frames = whole ++ torn ++ later ∧ torn.length ≤ 1 ∧
      Frame.Carved whole front ∧ Frame.Carved later back ∧
      ∀ frame ∈ torn, Frame.TornAt front back frame := by
  generalize hbytes : front ++ back = bytes at h
  induction h generalizing front with
  | nil => exact ⟨[], [], [], rfl, Nat.zero_le 1, .nil front, .nil back, fun _ h => nomatch h⟩
  | @cons skipped frame frames rest hrest ih =>
      rcases List.append_eq_append_iff.mp hbytes with ⟨beyond, hfirst, rfl⟩ | ⟨between, rfl, hmore⟩
      · rcases List.append_eq_append_iff.mp hfirst with ⟨beginning, rfl, rfl⟩ | ⟨gap, rfl, rfl⟩
        · -- the point is inside the first block
          refine ⟨[], [beginning ++ beyond], frames, rfl, Nat.le_refl 1, .nil _,
            hrest.prepend beyond, ?_⟩
          rintro frame (_ | ⟨_, hnone⟩)
          · exact ⟨beginning, beyond, rfl, List.suffix_append _ _, List.prefix_append _ _⟩
          · cases hnone
        · -- the point is in front of the first block
          exact ⟨[], [], frame :: frames, rfl, Nat.zero_le 1, .nil front, .cons gap frame hrest,
            fun _ hnone => nomatch hnone⟩
      · -- the first block is in front of the point
        obtain ⟨whole, torn, later, rfl, hone, hwhole, hlater, htorn⟩ := ih hmore.symm
        refine ⟨frame :: whole, torn, later, rfl, hone, .cons skipped frame hwhole, hlater, ?_⟩
        intro f hf
        obtain ⟨beginning, rest', hboth, hbeginning, hback⟩ := htorn f hf
        exact ⟨beginning, rest', hboth, hbeginning.trans (List.suffix_append _ _), hback⟩

/-- A block of some bytes is on one side of any point between two of them, or is torn by it. -/
lemma Frame.Carved.side {frames : List (List UInt8)} {front back : List UInt8}
    (h : Frame.Carved frames (front ++ back)) {frame : List UInt8} (hframe : frame ∈ frames) :
    frame <:+: front ∨ frame <:+: back ∨ Frame.TornAt front back frame := by
  obtain ⟨whole, torn, later, rfl, -, hwhole, hlater, htorn⟩ := h.split
  rw [List.mem_append, List.mem_append] at hframe
  rcases hframe with (hin | hin) | hin
  · exact .inl (hwhole.isInfix hin)
  · exact .inr (.inr (htorn frame hin))
  · exact .inr (.inl (hlater.isInfix hin))

/-! ## Histories with losses -/

namespace Entry

/-- The bytes that found no room. -/
def lost : Entry → List UInt8
  | told _ => []
  | came _ lost => lost

/-- All bytes that came, kept or lost. -/
def passed (entries : List Entry) : List UInt8 := entries.flatMap fun e => e.kept ++ e.lost

lemma passed_of_no_loss {entries : List Entry} (h : ∀ e ∈ entries, e.lost = []) :
    passed entries = bytes entries := by
  induction entries with
  | nil => rfl
  | cons entry rest ih =>
      have hfirst : entry.lost = [] := h entry List.mem_cons_self
      have hrest : passed rest = bytes rest := ih fun e he => h e (List.mem_cons_of_mem _ he)
      rw [bytes_cons, ← hrest]
      simp only [passed, List.flatMap_cons, hfirst, List.append_nil]

end Entry

/--
  **Frames are torn by losses only, and a loss tears at most one.**  Whatever happens in whatever
  order, the frames that were acted on are blocks of the bytes that were kept, one behind the other.
  If nothing was lost they are blocks of all bytes that came.  At any loss, they are blocks of
  what was kept before, blocks of what was kept afterwards, and at most one that joins the two.
-/
theorem frames_torn_only_at_losses {ledger : Ledger board} (hboard : ledger.Nests board)
    {s t : Session ε} (hrun : ledger.Runs board s t) :
    ∃ new, ledger.history t.station = ledger.history s.station ++ new ∧
      Frame.Carved (Entry.frames new) (s.station.unread ++ Entry.bytes new) ∧
      ((∀ entry ∈ new, entry.lost = []) →
        Frame.Carved (Entry.frames new) (s.station.unread ++ Entry.passed new)) ∧
      ∀ past kept lost later, new = past ++ .came kept lost :: later →
        ∃ whole torn fresh, Entry.frames new = whole ++ torn ++ fresh ∧ torn.length ≤ 1 ∧
          Frame.Carved whole (s.station.unread ++ Entry.bytes past ++ kept) ∧
          Frame.Carved fresh (Entry.bytes later) ∧
          ∀ frame ∈ torn, Frame.TornAt (s.station.unread ++ Entry.bytes past ++ kept)
            (Entry.bytes later) frame := by
  obtain ⟨new, hhistory, hfollows⟩ := hrun.passes hboard
  have hcarved := hfollows.reading.frames_carved
  refine ⟨new, hhistory, hcarved, ?_, ?_⟩
  · intro hnone
    rw [Entry.passed_of_no_loss hnone]
    exact hcarved
  · rintro past kept lost later rfl
    rw [Entry.bytes_append, Entry.bytes_cons, ← List.append_assoc, ← List.append_assoc] at hcarved
    exact hcarved.split

/-- A response comes in two pieces, nothing is lost, and the frame is a block of all that came. -/
theorem frames_torn_only_at_losses_pieces :
    let start : Session (List Entry) := .unconnected .chronicle (.fresh .standard [])
    let actions : List Action := [.onRouter .start, .onRouter (.receive (tagCountFrame.take 5)),
      .onRouter .process, .onRouter (.receive (tagCountFrame.drop 5)), .onRouter .process]
    let last := actions.foldl (Ledger.chronicle.act .chronicle) start
    Entry.frames last.station.surroundings = [tagCountFrame] ∧
      tagCountFrame <:+: Entry.passed last.station.surroundings := by
  intro start actions last
  obtain ⟨new, hhistory, -, hwhole, -⟩ := frames_torn_only_at_losses (t := last)
    Ledger.nests_chronicle (Ledger.chronicle.runs_foldl .chronicle actions start)
  have hread (s : Station (List Entry)) : Ledger.chronicle.history s = s.surroundings := rfl
  have hstart : start.station.surroundings = [] ∧ start.station.unread = [] := ⟨rfl, rfl⟩
  rw [hread, hread, hstart.1, List.nil_append] at hhistory
  have hframes : Entry.frames last.station.surroundings = [tagCountFrame] := by decide +kernel
  have hnone : ∀ entry ∈ last.station.surroundings, entry.lost = [] := by decide +kernel
  rw [← hhistory] at hwhole
  have hcarved := hwhole hnone
  rw [hframes, hstart.2, List.nil_append] at hcarved
  exact ⟨hframes, hcarved.isInfix List.mem_cons_self⟩

/-! ## A frame that joins what came before and behind a loss -/

namespace FrameCollector

/-- Bytes that announce too short a frame leave nothing behind but errors. -/
lemma search_refused (now n : Nat) (byte : UInt8) (rest : List UInt8) {c : FrameCollector}
    (hprogress : c.progress = .awaitingLength) (hshort : Frame.declaredSize byte < c.minSize) :
    ∃ c' : FrameCollector, c'.progress = .awaitingLength ∧ c'.minSize = c.minSize ∧
      (c.search now (List.replicate n byte ++ rest)).frame = (c'.search now rest).frame ∧
      (c.search now (List.replicate n byte ++ rest)).collector =
        (c'.search now rest).collector := by
  induction n generalizing c with
  | zero => exact ⟨c, hprogress, rfl, rfl, rfl⟩
  | succ n ih =>
      set refused : FrameCollector := { c with lastByteAt := now, errors := c.errors + 1 }
      have hpush : c.push byte now = (.error (.lengthOutOfRange byte), refused) := by
        rw [push_of_awaiting hprogress, acceptLength, if_pos (.inl hshort)]
        rfl
      obtain ⟨c', hprogress', hmin, hframe, hcollector⟩ := ih (c := refused) hprogress hshort
      refine ⟨c', hprogress', hmin, ?_, ?_⟩
      · rw [← hframe, List.replicate_succ, List.cons_append, search, hpush]
      · rw [← hcollector, List.replicate_succ, List.cons_append, search, hpush]

end FrameCollector

namespace Station

variable {s : Station ε}

variable (board) in
/-- A call of an idle router that finds no frame uses up the ring and clears the overrun flag. -/
lemma process_of_search_none (hrunning : s.router.running = true) (hidle : s.router.busy = false)
    (hmode : s.router.mode = .idle) (hpending : s.router.resetPending = false)
    (hnone : (s.collectorAtHand.search (s.now board) s.line.inbound).frame = none) :
    (s.process board).2.line = { s.line with inbound := [], overrun := false } ∧
      ∃ counters, (s.process board).2.router = { s.router with
        collector := (s.collectorAtHand.search (s.now board) s.line.inbound).collector
        counters } := by
  obtain ⟨surroundings, hready⟩ := ready_eq board hpending
  have hrest := FrameCollector.rest_of_search_none _ hnone
  have haccepted : s.accepted board = ((s.ready board).pullFrame board (s.now board)).2 := by
    have hpull : ((s.ready board).pullFrame board (s.now board)).1 = none := by
      rw [hready]
      exact hnone
    simp only [accepted, frameTurns, Nat.add_right_comm _ 1, acceptFrames]
    rcases hpulled : (s.ready board).pullFrame board (s.now board) with ⟨found, pulled⟩
    rw [hpulled] at hpull
    obtain rfl : found = none := hpull
    rfl
  obtain ⟨counters, hrouter⟩ := router_pullFrame board (s.now board) (s.ready board)
  have hline := line_pullFrame board (s.now board) (s.ready board)
  rw [← haccepted, hready] at hrouter hline
  have hschedule : (s.accepted board).keepSchedule board (s.now board) = s.accepted board := by
    simp [keepSchedule, hrouter, hmode]
  rw [process_eq hrunning hidle, hschedule]
  constructor
  · show (s.accepted board).line = _
    rw [hline, hrest]
  · refine ⟨counters, ?_⟩
    show { (s.accepted board).router with busy := false } = _
    rw [hrouter, ← hidle]

end Station

/-- Bytes that fit are all kept. -/
lemma Line.receive_of_fits (line : Line) {bytes : List UInt8}
    (h : line.inbound.length + bytes.length ≤ capacity) :
    (line.receive bytes).2.inbound = line.inbound ++ bytes ∧
      (line.receive bytes).2.overrun = line.overrun := by
  rw [line.receive_eq h]
  exact ⟨rfl, rfl⟩

/-- A full ring keeps none, and the loss is noted. -/
lemma Line.receive_of_full (line : Line) {bytes : List UInt8}
    (h : line.inbound.length = capacity) (hbytes : bytes ≠ []) :
    (line.receive bytes).2.inbound = line.inbound ∧ (line.receive bytes).2.overrun = true := by
  have hlost : 0 < bytes.length := List.length_pos_iff.mpr hbytes
  simp [receive, h, hlost]

/--
  **How a frame is joined**: the first part is all that a call leaves behind, since the bytes in
  front of it announce too short a frame; the next call finds the second part.
-/
theorem Station.dispatched_joined (hquiet : board.Quiet) {now : Nat}
    (hclock : ∀ e : ε, board.now e = now) {s : Station ε} {n : Nat} {byte : UInt8}
    {front back : List UInt8} (hrunning : s.router.running = true)
    (hidle : s.router.busy = false) (hmode : s.router.mode = .idle)
    (hpending : s.router.resetPending = false)
    (hhand : s.collectorAtHand = FrameCollector.forResponses)
    (hring : s.line.inbound = List.replicate n byte ++ front)
    (hshort : Frame.declaredSize byte < Frame.minResponseSize)
    (hsized : Frame.Sized (front ++ back)) (hback : back ≠ [])
    (hroom : back.length ≤ Line.capacity) :
    ((s.process board).2.receive back).dispatched board = [front ++ back] := by
  have hnow (u : Station ε) : u.now board = now := hclock u.surroundings
  -- the bytes in front leave nothing behind, and the first part waits in the collector
  obtain ⟨c, hprogress, hmin, hframe, hcollector⟩ :=
    FrameCollector.search_refused now n byte front (c := .forResponses) rfl hshort
  have hawaiting : FrameCollector.HasOpen now [] c := ⟨hmin, hprogress, fun h => absurd rfl h⟩
  have hbegins : Frame.Begins ([] ++ front) [front ++ back] := by
    refine ⟨List.prefix_append _ _, ?_⟩
    rw [List.nil_append, List.length_append]
    exact Nat.lt_add_of_pos_right (List.length_pos_iff.mpr hback)
  obtain ⟨opened, hsearch, hopen⟩ :=
    hawaiting.search_open (fun frame h => List.mem_singleton.mp h ▸ hsized) hbegins
  rw [hsearch] at hframe hcollector
  rw [List.nil_append] at hopen
  -- the first call finds no frame
  obtain ⟨hline, counters, hrouter⟩ := Station.process_of_search_none board hrunning hidle hmode
    hpending (by rw [hnow, hhand, hring]; exact hframe)
  rw [hnow, hhand, hring, hcollector] at hrouter
  -- the second one finds the frame
  set t := (s.process board).2.receive back with ht
  have hrouter' : t.router = { s.router with collector := opened, counters } := hrouter
  obtain ⟨hback', hclear⟩ : t.line.inbound = back ∧ t.line.overrun = false := by
    have hreceived := Line.receive_of_fits (s.process board).2.line (show
      (s.process board).2.line.inbound.length + back.length ≤ Line.capacity by
        rw [hline, List.length_nil, Nat.zero_add]; exact hroom)
    rw [hline, List.nil_append] at hreceived
    rw [ht]
    show (Line.receive back (s.process board).2.line).2.inbound = back ∧
      (Line.receive back (s.process board).2.line).2.overrun = false
    rw [hline]
    exact hreceived
  have hhand' : t.collectorAtHand = opened := by
    rw [Station.collectorAtHand, hclear, hrouter']
    rfl
  have hmode' : t.router.mode = .idle := by rw [hrouter']; exact hmode
  have hlasting : (t.accepted board).router.mode = t.router.mode := by
    rcases (Station.accepted_feed hquiet t).1.mode with hsame | ⟨hinventory, -⟩
    · exact hsame
    · cases hmode'.symm.trans hinventory
  obtain ⟨-, hdispatched, -⟩ := Station.process_feeds hquiet (by rw [hrouter']; exact hrunning)
    (by rw [hrouter']; exact hidle) (by rw [hrouter']; exact hpending) hlasting
  obtain ⟨done, hlast, -⟩ := hopen.search_complete hback hsized []
  rw [List.append_nil] at hlast
  rw [hdispatched, hhand', hback', hnow, FrameCollector.feed_search, hlast]
  rfl

/-- A block does not begin among bytes that all differ from its first one. -/
lemma isInfix_of_replicate_append {n : Nat} {byte first : UInt8} {block rest : List UInt8}
    (h : first :: block <:+: List.replicate n byte ++ rest) (hfirst : first ≠ byte) :
    first :: block <:+: rest := by
  induction n with
  | zero => exact h
  | succ n ih =>
      rw [List.replicate_succ, List.cons_append, List.infix_cons_iff] at h
      rcases h with hbegins | hlater
      · exact absurd (List.cons_prefix_cons.mp hbegins).1 hfirst
      · exact ih hlater

lemma sized_tagCountFrame : Frame.Sized tagCountFrame :=
  ⟨0x07, tagCountFrame.tail, by decide +kernel, by decide +kernel, by decide +kernel,
    by decide +kernel⟩

/--
  **A frame that joins what came before and behind a loss.**  The ring is full when the rest of a
  response arrives and is lost.  The first part of the response is still in the ring, behind
  everything else; the last part of a later one completes it.  What is acted on has the right
  checksum and is no block of the bytes that came.
-/
theorem frame_joined_across_loss :
    let board := Board.still 0 { rfPower := 0, address := 0, antenna := 0 }
    let noise : List UInt8 := List.replicate 4091 0
    let lost : List UInt8 := (Frame.ofBody [0x00, 0x74, 0x00, 0x00, 0x03]).drop 4
    let s : Station Unit := ((Station.fresh .standard ()).start board).2
    let full := s.receive (noise ++ tagCountFrame.take 4)
    let t := ((full.receive lost).process board).2.receive (tagCountFrame.drop 4)
    full.line.overrun = false ∧ (full.receive lost).line.inbound = full.line.inbound ∧
      t.dispatched board = [tagCountFrame] ∧
      ¬ tagCountFrame <:+: noise ++ tagCountFrame.take 4 ++ lost ++ tagCountFrame.drop 4 := by
  intro board noise lost s full t
  have hlength : (noise ++ tagCountFrame.take 4).length = Line.capacity := by
    rw [List.length_append, List.length_replicate]
    rfl
  obtain ⟨hfull, hfits⟩ : full.line.inbound = noise ++ tagCountFrame.take 4 ∧
      full.line.overrun = false :=
    Line.receive_of_fits s.line (Nat.le_of_eq (by rw [hlength]; rfl))
  obtain ⟨hkept, hoverrun⟩ : (full.receive lost).line.inbound = full.line.inbound ∧
      (full.receive lost).line.overrun = true :=
    Line.receive_of_full full.line (by rw [hfull, hlength]) (by decide +kernel)
  have hhand : (full.receive lost).collectorAtHand = FrameCollector.forResponses := by
    rw [Station.collectorAtHand, hoverrun]
    rfl
  have hjoined : t.dispatched board = [tagCountFrame.take 4 ++ tagCountFrame.drop 4] :=
    Station.dispatched_joined (Board.quiet_still _ _) (fun _ => rfl) rfl rfl rfl rfl hhand
      (hkept.trans hfull) (by decide) (by rw [List.take_append_drop]; exact sized_tagCountFrame)
      (by decide +kernel) (by decide +kernel)
  rw [List.take_append_drop] at hjoined
  refine ⟨hfits, hkept, hjoined, fun hblock => ?_⟩
  have hframe : tagCountFrame = 0x07 :: tagCountFrame.tail := by decide +kernel
  rw [List.append_assoc, List.append_assoc, hframe] at hblock
  have hbehind := isInfix_of_replicate_append hblock (by decide)
  revert hbehind
  decide +kernel

end RfidLink
