import RfidLink.Proofs.Holding
import RfidLink.Proofs.Moves

/-!
# Where the bytes of a frame come from

A frame that the router acts on was once part of what the line delivered.  Between the two lie the
inbound ring and the collector, and a change of mode throws away what is in both.

* `Frame.Carved` says that frames are blocks of some bytes, one behind the other.
* An `Entry` is one line of a history: a remark of the journal, or bytes that arrived.
* `Reading` is all there is to the receiving side, seen from outside.  A reader has some bytes in
  hand.  It may drop the first of them, it gets more when bytes arrive, it hands out a frame that
  stands at the front, and at a **cut** it loses everything.
* `Station.Follows` says that what a station has done fits a history.

The reader knows nothing of rings, collectors and pending resets.  What holds of it is shown once,
by induction on its history: **`Reading.carved`** says that every frame consists of bytes that
were in hand or came later, and `Reading.behind_cut` that after a cut they all came later.
`Station.unread` is what a station has in hand: while a reset is pending, that is nothing.
-/

namespace RfidLink

/-! ## Blocks of bytes -/

namespace Frame

/-- Frames are blocks of some bytes, one behind the other and without overlap. -/
inductive Carved : List (List UInt8) → List UInt8 → Prop
  | nil (bytes : List UInt8) : Carved [] bytes
  | cons (skipped frame : List UInt8) {frames : List (List UInt8)} {rest : List UInt8}
      (h : Carved frames rest) : Carved (frame :: frames) (skipped ++ frame ++ rest)

variable {frames frames' : List (List UInt8)} {bytes bytes' : List UInt8}

lemma Carved.prepend (h : Carved frames bytes) (skipped : List UInt8) :
    Carved frames (skipped ++ bytes) := by
  cases h with
  | nil => exact .nil _
  | cons skipped' frame h =>
      have hmore := Carved.cons (skipped ++ skipped') frame h
      simpa only [List.append_assoc] using hmore

lemma Carved.append (h : Carved frames bytes) (h' : Carved frames' bytes') :
    Carved (frames ++ frames') (bytes ++ bytes') := by
  induction h with
  | nil bytes => exact h'.prepend bytes
  | cons skipped frame _ ih =>
      have hmore := Carved.cons skipped frame ih
      simpa only [List.append_assoc, List.cons_append] using hmore

lemma Carved.extend (h : Carved frames bytes) (later : List UInt8) :
    Carved frames (bytes ++ later) := by
  have hmore := h.append (.nil later)
  rwa [List.append_nil] at hmore

lemma Carved.single (frame : List UInt8) : Carved [frame] frame := by
  have hone := Carved.cons [] frame (.nil [])
  rwa [List.nil_append, List.append_nil] at hone

/-- Each of the frames is a block of the bytes. -/
lemma Carved.isInfix (h : Carved frames bytes) {frame : List UInt8} (hframe : frame ∈ frames) :
    frame <:+: bytes := by
  induction h with
  | nil => cases hframe
  | cons skipped first _ ih =>
      rcases List.mem_cons.mp hframe with rfl | hlater
      · exact List.infix_append skipped frame _
      · exact (ih hlater).trans (List.suffix_append _ _).isInfix

end Frame

/-! ## Histories -/

/-- One line of a history. -/
inductive Entry where
  /-- A remark of the journal. -/
  | told (remark : Remark)
  /-- Bytes arrived; those that found no room were lost. -/
  | came (kept lost : List UInt8)
deriving DecidableEq

namespace Entry

/-- The frame that was taken from the line. -/
def frame? : Entry → Option (List UInt8)
  | told remark => remark.frame?
  | came .. => none

/-- The bytes that were put into the inbound ring. -/
def kept : Entry → List UInt8
  | told _ => []
  | came kept _ => kept

/-- The mode behind an entry, by the mode before it. -/
def mode : Mode → Entry → Mode
  | _, told (.modeChanged _ after) => after
  | _, told .routerStarted => .idle
  | mode, _ => mode

/-- The frames of a history, in the order in which they were taken. -/
def frames (entries : List Entry) : List (List UInt8) := entries.filterMap frame?

/-- The bytes that were put into the inbound ring during a history. -/
def bytes (entries : List Entry) : List UInt8 := entries.flatMap kept

variable (entries later : List Entry)

lemma frames_append : frames (entries ++ later) = frames entries ++ frames later :=
  List.filterMap_append

lemma bytes_append : bytes (entries ++ later) = bytes entries ++ bytes later :=
  List.flatMap_append

lemma frames_cons (entry : Entry) :
    frames (entry :: entries) = entry.frame?.toList ++ frames entries := by
  rw [frames, List.filterMap_cons]
  cases entry.frame? <;> rfl

lemma bytes_cons (entry : Entry) : bytes (entry :: entries) = entry.kept ++ bytes entries := rfl

/-- Only a cut changes the mode. -/
lemma mode_told {remark : Remark} (h : remark.isCut = false) (m : Mode) :
    (told remark).mode m = m := by
  cases remark <;> first | rfl | cases h

/-- Remarks that are neither about a frame nor a cut leave the mode alone. -/
lemma mode_asides {remarks : List Remark} (h : ∀ r ∈ remarks, r.frame? = none ∧ r.isCut = false)
    (m : Mode) : (remarks.map told).foldl Entry.mode m = m := by
  induction remarks with
  | nil => rfl
  | cons remark rest ih =>
      rw [List.map_cons, List.foldl_cons, mode_told (h remark List.mem_cons_self).2]
      exact ih fun r hr => h r (List.mem_cons_of_mem _ hr)

end Entry

/-! ## The reader -/

/-- What an entry does to the bytes that a reader has in hand. -/
inductive Entry.Reads : Entry → List UInt8 → List UInt8 → Prop
  | came (kept lost unread : List UInt8) : Reads (.came kept lost) unread (unread ++ kept)
  | frame {remark : Remark} {frame : List UInt8} (h : remark.frame? = some frame)
      (unread : List UInt8) : Reads (.told remark) (frame ++ unread) unread
  | cut {remark : Remark} (h : remark.isCut = true) (unread : List UInt8) :
      Reads (.told remark) unread []
  | aside {remark : Remark} (hframe : remark.frame? = none) (hcut : remark.isCut = false)
      (unread : List UInt8) : Reads (.told remark) unread unread

/--
  `Reading unread entries unread'`: a reader that has the bytes `unread` in hand goes through a
  history, and has `unread'` in hand afterwards.
-/
inductive Reading : List UInt8 → List Entry → List UInt8 → Prop
  | done (unread : List UInt8) : Reading unread [] unread
  | drop (dropped : List UInt8) {unread unread' : List UInt8} {entries : List Entry}
      (h : Reading unread entries unread') : Reading (dropped ++ unread) entries unread'
  | step {entry : Entry} {entries : List Entry} {unread unread' unread'' : List UInt8}
      (hentry : entry.Reads unread unread') (h : Reading unread' entries unread'') :
      Reading unread (entry :: entries) unread''

/-- One entry accounts for the bytes in hand: a frame is taken from the front of them. -/
lemma Entry.Reads.carved {entry : Entry} {unread unread' : List UInt8}
    (h : entry.Reads unread unread') : ∃ consumed,
      unread ++ entry.kept = consumed ++ unread' ∧ Frame.Carved entry.frame?.toList consumed := by
  cases h with
  | came kept lost => exact ⟨[], rfl, .nil []⟩
  | @frame remark frame hframe =>
      refine ⟨frame, List.append_nil _, ?_⟩
      rw [Entry.frame?, hframe]
      exact .single frame
  | cut hcut =>
      refine ⟨unread, rfl, ?_⟩
      rw [Entry.frame?, Remark.frame?_of_isCut hcut]
      exact .nil unread
  | aside hframe _ =>
      refine ⟨[], List.append_nil _, ?_⟩
      rw [Entry.frame?, hframe]
      exact .nil []

namespace Reading

variable {unread unread' unread'' : List UInt8} {entries later : List Entry} {remark : Remark}

lemma trans (h : Reading unread entries unread') (h' : Reading unread' later unread'') :
    Reading unread (entries ++ later) unread'' := by
  induction h with
  | done => exact h'
  | drop dropped _ ih => exact .drop dropped (ih h')
  | step hentry _ ih => exact .step hentry (ih h')

lemma single {entry : Entry} (h : entry.Reads unread unread') : Reading unread [entry] unread' :=
  .step h (.done unread')

/-- Remarks that are neither about a frame nor a cut mean nothing to a reader. -/
lemma asides {remarks : List Remark} (h : ∀ r ∈ remarks, r.frame? = none ∧ r.isCut = false)
    (unread : List UInt8) : Reading unread (remarks.map .told) unread := by
  induction remarks with
  | nil => exact .done unread
  | cons remark rest ih =>
      obtain ⟨hframe, hcut⟩ := h remark List.mem_cons_self
      exact .step (.aside hframe hcut unread) (ih fun r hr => h r (List.mem_cons_of_mem _ hr))

/-- A frame that is a block of the bytes in hand can be handed out. -/
lemma handed {frame consumed : List UInt8} (hframe : remark.frame? = some frame)
    (h : Frame.Carved [frame] consumed) (unread : List UInt8) :
    Reading (consumed ++ unread) [.told remark] unread := by
  obtain ⟨skipped, rest, rfl⟩ := h.isInfix List.mem_cons_self
  have hdropped : Reading (frame ++ (rest ++ unread)) [.told remark] unread :=
    .step (.frame hframe _) (.drop rest (.done unread))
  simpa only [List.append_assoc] using hdropped.drop skipped

/-- A reader may stop and look at any point of its history. -/
lemma split (h : Reading unread (entries ++ later) unread'') :
    ∃ unread', Reading unread entries unread' ∧ Reading unread' later unread'' := by
  generalize hall : entries ++ later = all at h
  induction h generalizing entries with
  | done unread =>
      obtain ⟨rfl, rfl⟩ := List.append_eq_nil_iff.mp hall
      exact ⟨unread, .done unread, .done unread⟩
  | drop dropped _ ih =>
      obtain ⟨unread', hfirst, hlater⟩ := ih hall
      exact ⟨unread', .drop dropped hfirst, hlater⟩
  | @step entry _ unread _ _ hentry h ih =>
      cases entries with
      | nil =>
          obtain rfl : later = _ := hall
          exact ⟨unread, .done unread, .step hentry h⟩
      | cons _ _ =>
          obtain ⟨rfl, hrest⟩ := List.cons.inj hall
          obtain ⟨unread', hfirst, hlater⟩ := ih hrest
          exact ⟨unread', .step hentry hfirst, hlater⟩

/-- The first entry is met with a part of the bytes in hand. -/
lemma first {entry : Entry} (h : Reading unread (entry :: later) unread'') :
    ∃ dropped rest unread', unread = dropped ++ rest ∧ entry.Reads rest unread' ∧
      Reading unread' later unread'' := by
  generalize hall : entry :: later = all at h
  induction h with
  | done => cases hall
  | drop dropped _ ih =>
      obtain ⟨dropped', rest, unread', rfl, hentry, hlater⟩ := ih hall
      exact ⟨dropped ++ dropped', rest, unread', (List.append_assoc ..).symm, hentry, hlater⟩
  | @step _ _ unread unread' _ hentry h _ =>
      obtain ⟨rfl, rfl⟩ := List.cons.inj hall
      exact ⟨[], unread, unread', rfl, hentry, h⟩

/--
  **Every byte is accounted for.**  What was in hand and what came consists of bytes that are used
  up, the frames being blocks of them, and of the bytes in hand at the end.
-/
theorem carved (h : Reading unread entries unread') :
    ∃ consumed, unread ++ Entry.bytes entries = consumed ++ unread' ∧
      Frame.Carved (Entry.frames entries) consumed := by
  induction h with
  | done unread => exact ⟨[], List.append_nil unread, .nil []⟩
  | drop dropped _ ih =>
      obtain ⟨consumed, hbytes, hframes⟩ := ih
      exact ⟨dropped ++ consumed, by rw [List.append_assoc, hbytes, List.append_assoc],
        hframes.prepend dropped⟩
  | @step entry entries _ _ _ hentry _ ih =>
      obtain ⟨used, hused, hframe⟩ := hentry.carved
      obtain ⟨consumed, hbytes, hframes⟩ := ih
      refine ⟨used ++ consumed, ?_, ?_⟩
      · rw [Entry.bytes_cons, ← List.append_assoc, hused, List.append_assoc, hbytes,
          List.append_assoc]
      · rw [Entry.frames_cons]
        exact hframe.append hframes

/-- The frames of a history are blocks of what was in hand and what came. -/
lemma frames_carved (h : Reading unread entries unread') :
    Frame.Carved (Entry.frames entries) (unread ++ Entry.bytes entries) := by
  obtain ⟨consumed, hbytes, hframes⟩ := h.carved
  rw [hbytes]
  exact hframes.extend unread'

/-- **Behind a cut** a reader goes on as if it had had nothing in hand. -/
theorem behind_cut (hcut : remark.isCut = true)
    (h : Reading unread (entries ++ .told remark :: later) unread'') :
    Reading [] later unread'' := by
  obtain ⟨_, -, hrest⟩ := h.split
  obtain ⟨_, _, unread', -, hentry, hlater⟩ := hrest.first
  cases hentry with
  | frame hframe =>
      rw [Remark.frame?_of_isCut hcut] at hframe
      cases hframe
  | cut _ => exact hlater
  | aside _ hnot =>
      rw [hcut] at hnot
      cases hnot

/-- A frame that is handed out comes behind the earlier ones, and is a block of what came before. -/
theorem at_frame {frame : List UInt8} (hframe : remark.frame? = some frame)
    (h : Reading unread (entries ++ .told remark :: later) unread'') :
    Frame.Carved (Entry.frames entries ++ [frame]) (unread ++ Entry.bytes entries) := by
  have hsame : entries ++ .told remark :: later = (entries ++ [.told remark]) ++ later := by simp
  obtain ⟨_, hfirst, -⟩ := (hsame ▸ h).split
  have hcarved := hfirst.frames_carved
  rw [Entry.frames_append, Entry.bytes_append] at hcarved
  simpa [Entry.frames, Entry.bytes, Entry.frame?, Entry.kept, hframe] using hcarved

end Reading

/-! ## The collector -/

namespace FrameCollector

variable (now : Nat)

lemma received_acceptLength (byte : UInt8) (c : FrameCollector) (h : c.progress = .awaitingLength) :
    (c.acceptLength byte).2.received <:+ c.received ++ [byte] := by
  simp only [acceptLength]
  split
  · have hnone : c.countError.received = [] := by simp only [countError, received, h]
    rw [hnone]
    exact List.nil_suffix
  · exact List.suffix_append _ _

lemma received_append (byte : UInt8) (expected : Nat) (c : FrameCollector) :
    (c.append byte expected c.received).2.received <:+ c.received ++ [byte] := by
  simp only [append]
  split
  · exact List.nil_suffix
  · split
    · exact List.suffix_rfl
    · exact List.suffix_rfl

/-- A collector that holds no frame holds the last of the bytes it was given, also of the new one. -/
lemma received_push (byte : UInt8) {c : FrameCollector} (h : c.isComplete = false) :
    (c.push byte now).2.received <:+ c.received ++ [byte] := by
  rcases push_cases byte now c with ⟨⟨frame, hprogress⟩, -⟩ | ⟨awaiting, hawaiting, -, -, hpush⟩ |
    ⟨expected, received, hprogress, -, hpush⟩
  · rw [isComplete, hprogress] at h
    cases h
  · have hnone : awaiting.received = [] := by rw [received, hawaiting]
    have haccepted := received_acceptLength byte awaiting hawaiting
    rw [hnone] at haccepted
    rw [hpush]
    exact haccepted.trans (List.suffix_append _ _)
  · have hreceived : received = c.received := by rw [FrameCollector.received, hprogress]
    rw [hpush, hreceived]
    exact received_append byte expected { c with lastByteAt := now }

lemma carved_frame? (c : FrameCollector) : Frame.Carved c.frame?.toList c.received := by
  rw [frame?, received]
  cases c.progress with
  | awaitingLength => exact .nil []
  | receiving _ received => exact .nil received
  | complete frame => exact .single frame

/--
  **A search accounts for every byte**: some are used up, among them the frame, and the others are
  kept or left.
-/
lemma received_search (bytes : List UInt8) (c : FrameCollector) : ∃ consumed,
    c.received ++ bytes =
        consumed ++ ((c.search now bytes).collector.received ++ (c.search now bytes).rest) ∧
      Frame.Carved (c.search now bytes).frame.toList consumed := by
  induction bytes generalizing c with
  | nil => exact ⟨[], rfl, .nil []⟩
  | cons byte rest ih =>
      cases hcomplete : c.isComplete with
      | true =>
          -- a frame that was waiting is given back, and the byte goes with it
          have hsearch : c.search now (byte :: rest) =
              { frame := c.frame?, rest, collector := c.reset, errors := [] } := by
            simp only [search, push, hcomplete, if_true]
          rw [hsearch]
          refine ⟨c.received ++ [byte], ?_, (carved_frame? c).extend [byte]⟩
          rw [List.append_assoc]
          rfl
      | false =>
          obtain ⟨dropped, hpushed⟩ := received_push now byte hcomplete
          have hbytes : c.received ++ byte :: rest =
              dropped ++ ((c.push byte now).2.received ++ rest) := by
            rw [← List.append_assoc, hpushed, List.append_assoc]
            rfl
          rw [hbytes, search]
          split
          · rename_i c' hpush
            rw [hpush]
            exact ⟨dropped ++ c'.received, by rw [List.append_assoc]; rfl,
              (carved_frame? c').prepend dropped⟩
          all_goals
            rename_i c' hpush
            obtain ⟨consumed, hsame, hframe⟩ := ih c'
            rw [hpush]
            refine ⟨dropped ++ consumed, ?_, hframe.prepend dropped⟩
            rw [hsame, List.append_assoc]

end FrameCollector

/-! ## Histories of a station -/

namespace Station

variable {ε : Type} {board : Board ε}

/-- The bytes that may still become part of a frame. -/
def unread (s : Station ε) : List UInt8 :=
  if s.router.resetPending then [] else s.router.collector.received ++ s.line.inbound

lemma unread_of_pending {s : Station ε} (h : s.router.resetPending = true) : s.unread = [] := by
  simp only [unread, h, if_true]

lemma unread_of_not_pending {s : Station ε} (h : s.router.resetPending = false) :
    s.unread = s.router.collector.received ++ s.line.inbound := by
  simp only [unread, h, Bool.false_eq_true, if_false]

lemma unread_congr {s t : Station ε} (hrouter : t.router.receiving = s.router.receiving)
    (hinbound : t.line.inbound = s.line.inbound) : t.unread = s.unread := by
  have hcollector : t.router.collector = s.router.collector := congrArg Prod.fst hrouter
  have hpending : t.router.resetPending = s.router.resetPending := congrArg (·.2.1) hrouter
  rw [unread, unread, hcollector, hpending, hinbound]

/--
  What happened between two states of a station fits a history: its bytes were read that way,
  its cuts are where the mode changed, and each answer that was kept came in one of its frames.
-/
structure Follows (entries : List Entry) (s t : Station ε) : Prop where
  reading : Reading s.unread entries t.unread
  mode : t.router.mode = entries.foldl Entry.mode s.router.mode
  answers : ∀ a ∈ t.router.answers,
    a ∈ s.router.answers ∨ ∃ frame ∈ Entry.frames entries, Answer.ofFrame? frame = some a

namespace Follows

variable {entries later : List Entry} {s t u : Station ε}

lemma trans (hst : s.Follows entries t) (htu : t.Follows later u) :
    s.Follows (entries ++ later) u where
  reading := hst.reading.trans htu.reading
  mode := by rw [htu.mode, hst.mode, List.foldl_append]
  answers a ha := by
    rw [Entry.frames_append]
    rcases htu.answers a ha with hkept | ⟨frame, hframe, hanswer⟩
    · refine (hst.answers a hkept).imp_right ?_
      rintro ⟨frame, hframe, hanswer⟩
      exact ⟨frame, List.mem_append_left _ hframe, hanswer⟩
    · exact .inr ⟨frame, List.mem_append_right _ hframe, hanswer⟩

/-- Nothing happened that a history knows of; some bytes and some answers may have been dropped. -/
lemma silent (hunread : t.unread <:+ s.unread) (hmode : t.router.mode = s.router.mode)
    (hanswers : t.router.answers ⊆ s.router.answers) : s.Follows [] t where
  reading := by
    obtain ⟨dropped, hdropped⟩ := hunread
    rw [← hdropped]
    exact .drop dropped (.done _)
  mode := hmode
  answers a ha := .inl (hanswers ha)

lemma refl (s : Station ε) : s.Follows [] s :=
  silent List.suffix_rfl rfl fun _ ha => ha

/-- Something was told that matters neither to the reader nor to the mode. -/
lemma aside {remark : Remark} (hframe : remark.frame? = none) (hcut : remark.isCut = false)
    (hunread : t.unread = s.unread) (hmode : t.router.mode = s.router.mode)
    (hanswers : t.router.answers ⊆ s.router.answers) : s.Follows [.told remark] t where
  reading := by
    rw [hunread]
    exact .single (.aside hframe hcut _)
  mode := by
    rw [hmode, List.foldl_cons, List.foldl_nil, Entry.mode_told hcut]
  answers a ha := .inl (hanswers ha)

/-- A cut: nothing is left in hand. -/
lemma cut {remark : Remark} (hcut : remark.isCut = true) (hunread : t.unread = [])
    (hmode : t.router.mode = (Entry.told remark).mode s.router.mode)
    (hanswers : t.router.answers ⊆ s.router.answers) : s.Follows [.told remark] t where
  reading := by
    rw [hunread]
    exact .single (.cut hcut _)
  mode := hmode
  answers a ha := .inl (hanswers ha)

end Follows

end Station

end RfidLink
