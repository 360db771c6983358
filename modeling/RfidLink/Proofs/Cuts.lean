import RfidLink.Proofs.Ledger

/-!
# A change of mode cuts off the past

What was received before a change of mode belongs to an inventory that is over, and what was
received before a start belongs to nobody.  Neither must be taken for something new.

The reset that sees to this is carried out at once by some paths and left pending by others, and
changes of mode come from the user, from callbacks, from the status of a round and from the
schedule.  The history of a station shows none of this: there, each of them is a cut.

**`frames_behind_cut`** says that a frame acted on behind a cut consists of bytes that
arrived between the two, and that nothing else is in hand later.  It also says that the history can
be relied on: the mode changes at cuts only, every change and every start writes one down at once,
and so does every frame before anything else is done about it.
-/

namespace RfidLink

variable {ε : Type} {board : Board ε}

namespace Ledger

variable {ledger : Ledger board}

lemma history_enterMode {s : Station ε} {mode : Mode} (h : s.router.mode ≠ mode) :
    ledger.history (s.enterMode board mode) =
      ledger.history s ++ [.told (.modeChanged s.router.mode mode)] := by
  simp only [Station.enterMode, h, if_false, history]
  rw [(resetUnlessBusy_of_pending rfl).2]
  exact ledger.entries_write _ _

lemma history_start {s t : Station ε} (h : s.start board = (.ok (), t)) :
    ledger.history t = ledger.history s ++ [.told .routerStarted] := by
  simp only [Station.start] at h
  split at h
  · cases h
  · obtain ⟨-, rfl⟩ := Prod.mk.inj h
    rw [history_tell, history, (resetUnlessBusy_of_pending rfl).2]
    rfl

/-- The first thing that is written down about a frame is the frame. -/
lemma history_acceptFrame (hboard : board.CallbacksAre ledger.Passes) (now : Nat)
    (frame : List UInt8) (s : Station ε) : ∃ remark later, remark.frame? = some frame ∧
      ledger.history (s.acceptFrame board now frame) =
        ledger.history s ++ .told remark :: later := by
  obtain ⟨router, remark, -, hremark, hdeeds⟩ :=
    Station.exists_registers board now frame s
  obtain ⟨later, hhistory, -⟩ := hdeeds.moves.passes hboard
  refine ⟨remark, later, hremark, ?_⟩
  rw [hhistory, history_tell, List.append_assoc]
  rfl

end Ledger

/--
  **Behind a cut everything is new.**  Start from any session, and let anything happen in any order:
  operations and actions, bytes that arrive, and callbacks that do any of this, also in the middle
  of an operation.  Behind a change of mode or a start, each frame that is acted on is a block of
  the bytes that have arrived since, with the earlier frames in front of it; and what may become
  part of a later frame are the last of the bytes that have arrived since.
-/
theorem frames_behind_cut {ledger : Ledger board} (hboard : ledger.Nests board) {s t : Session ε}
    (hrun : ledger.Runs board s t) :
    (∃ new, ledger.history t.station = ledger.history s.station ++ new ∧
      t.station.router.mode = new.foldl Entry.mode s.station.router.mode ∧
      ∀ past cut later, new = past ++ .told cut :: later → cut.isCut = true →
        t.station.unread <:+ Entry.bytes later ∧
        ∀ between remark frame after, later = between ++ .told remark :: after →
          remark.frame? = some frame →
          Frame.Carved (Entry.frames between ++ [frame]) (Entry.bytes between)) ∧
      (∀ (u : Station ε) mode, u.router.mode ≠ mode → ledger.history (u.enterMode board mode) =
        ledger.history u ++ [.told (.modeChanged u.router.mode mode)]) ∧
      (∀ u v : Station ε, u.start board = (.ok (), v) →
        ledger.history v = ledger.history u ++ [.told .routerStarted]) ∧
      ∀ (u : Station ε) now frame, ∃ remark later, remark.frame? = some frame ∧
        ledger.history (u.acceptFrame board now frame) =
          ledger.history u ++ .told remark :: later := by
  refine ⟨?_, fun _ _ => Ledger.history_enterMode, fun _ _ => Ledger.history_start, ?_⟩
  · obtain ⟨new, hhistory, hfollows⟩ := hrun.passes hboard
    refine ⟨new, hhistory, hfollows.mode, ?_⟩
    rintro past cut later rfl hcut
    have hfresh : Reading [] later t.station.unread := hfollows.reading.behind_cut hcut
    constructor
    · obtain ⟨consumed, hbytes, -⟩ := hfresh.carved
      exact ⟨consumed, hbytes.symm⟩
    · rintro between remark frame after rfl hframe
      exact hfresh.at_frame hframe
  · exact fun u now frame => Ledger.history_acceptFrame hboard.passes now frame u

/-! ## A consumer that ends inventory -/

/-- A board on which whoever gets a tag ends inventory, and a byte arrives in the meantime. -/
def Board.meddling : Board (List Entry) :=
  { Board.chronicle with
    deliver := fun _ s => (.ok (), Ledger.chronicle.receive [0x05] (s.enterMode .chronicle .idle)) }

lemma Board.sameDevices_meddling : Board.meddling.SameDevices .chronicle :=
  ⟨rfl, rfl, rfl, rfl, rfl⟩

def Ledger.meddling : Ledger .meddling := Ledger.chronicle.onto Board.sameDevices_meddling

lemma Ledger.nests_meddling : Ledger.meddling.Nests .meddling := by
  refine .of_inner (Board.nestsBy_chronicle _) ⟨rfl, rfl, rfl, rfl, rfl⟩ ⟨?_, ?_, ?_, ?_, ?_⟩
  · intro _ s
    have hended : Ledger.meddling.Event .chronicle s (s.enterMode .chronicle .idle) :=
      .operate (.enterMode .idle)
    exact .inr (.tail (.single hended) (.operate (.receive [0x05])))
  · intro s
    exact .inl rfl
  · intro _ s
    exact .inl rfl
  · intro _ s
    exact .inl rfl
  · intro _ s
    exact .inl rfl

/-- A frame whose checksum does not match. -/
def damagedFrame : List UInt8 := [0x05, 0x00, 0x74, 0x00, 0x00, 0x00]

/--
  A tag comes in with the beginning of another frame behind it, and its consumer ends inventory.
  The frame that comes later is made of what has arrived since.
-/
theorem frames_behind_cut_meddling :
    let start : Session (List Entry) := .unconnected .meddling (.fresh .standard [])
    let actions : List Action := [.onRouter .start, .onRouter (.enterMode .inventory),
      .onRouter (.receive (Frame.ofBody [0x00, 0xEE, 0x00, 0x01, 0x02, 0xAA, 0xBB, 0x50] ++ [0x05])),
      .onRouter .process, .onRouter (.receive damagedFrame), .onRouter .process]
    let last := actions.foldl (Ledger.meddling.act .meddling) start
    let since : List Entry := [.came [0x05] [], .came damagedFrame []]
    last.station.surroundings = last.station.surroundings.take 5 ++
        .told (.modeChanged .inventory .idle) :: (since ++ [.told (.damaged damagedFrame)]) ∧
      Frame.Carved [damagedFrame] (Entry.bytes since) := by
  intro start actions last since
  obtain ⟨⟨new, hhistory, -, hcuts⟩, -⟩ := frames_behind_cut (t := last) Ledger.nests_meddling
    (Ledger.meddling.runs_foldl .meddling actions start)
  have hread (s : Station (List Entry)) : Ledger.meddling.history s = s.surroundings := rfl
  have hstart : start.station.surroundings = [] := rfl
  rw [hread, hread, hstart, List.nil_append] at hhistory
  have hlast : last.station.surroundings = last.station.surroundings.take 5 ++
      .told (.modeChanged .inventory .idle) :: (since ++ [.told (.damaged damagedFrame)]) := by
    decide +kernel
  refine ⟨hlast, ?_⟩
  obtain ⟨-, hframes⟩ := hcuts _ _ _ (hhistory.symm.trans hlast) rfl
  exact hframes since _ damagedFrame [] rfl rfl

end RfidLink
