import RfidLink.Proofs.IdleProcessing
import RfidLink.Proofs.Reporting

/-!
# How inventory ends while received bytes are processed

A frame can end inventory in two ways: because of the antenna, or because it ends the only round of
an inventory that is to have one.  Everything else that is received leaves inventory going.

* `Frame.ending?` reads off a frame whether and how it ends inventory under a strategy.
* `Station.Carries` says that inventory goes on, and `Station.Ended` that it has ended in one of
  these ways.  Both follow some part of the surroundings, such as a record of what was queued or
  shown, and `Board.Heeds` says what callbacks do to this part.
* `Station.carries_acceptFrame` and `Station.ended_acceptFrame` are the step for one frame.
* **`Station.proceeds_acceptFrames`** is the loop: either no frame ends inventory and it goes on, or
  the last frame ends it.  There is no frame behind the one that ends inventory, because the change
  of mode throws away what was received.
* **`Station.heedsAntenna_acceptFrames`** is the loop for a router of which only the mode is known.
  Its schedule may not have begun, and then nothing ends inventory but an error of the antenna.
-/

namespace RfidLink

variable {ε α : Type} {board : Board ε}

/-! ## Frames that end inventory -/

/-- How inventory can end because of a frame. -/
inductive Ending where
  | antenna
  | onlyRound
deriving DecidableEq

/-- How inventory ends by the status of a response to a round. -/
def Strategy.ending? (strategy : Strategy) (status : Status) : Option Ending :=
  if status = .antennaError then some .antenna
  else if status.endsRound && strategy == .singleShot then some .onlyRound
  else none

/-- How a frame ends inventory. -/
def Frame.ending? (strategy : Strategy) (frame : List UInt8) : Option Ending :=
  (roundStatus? frame).bind strategy.ending?

/-- Whether a frame is a response to an inventory round with an error of the antenna. -/
def Frame.isAntennaError (frame : List UInt8) : Bool := roundStatus? frame == some .antennaError

lemma Frame.isAntennaError_iff (strategy : Strategy) (frame : List UInt8) :
    isAntennaError frame = true ↔ ending? strategy frame = some .antenna := by
  simp only [isAntennaError, ending?, beq_iff_eq]
  cases roundStatus? frame with
  | none => simp
  | some status =>
      simp only [Option.some.injEq, Option.bind_some, Strategy.ending?]
      by_cases h : status = .antennaError
      · simp only [h, if_true]
      · simp only [h, if_false, false_iff]
        split <;> simp

/-! ## What the surroundings see of it -/

/--
  A part of the surroundings that hears of no tag and of no remark but those about queued commands.
  What an antenna error does to it is given.
-/
structure Board.Heeds (board : Board ε) (part : ε → α) (onError : α → α) : Prop where
  write : ∀ remark e, remark.call? = none → part (board.write remark e) = part e
  deliver : ∀ text (s : Station ε),
    part (board.deliver text s).2.surroundings = part s.surroundings
  notifyRead : ∀ s : Station ε, part (board.notifyRead s).surroundings = part s.surroundings
  notifyError : ∀ s : Station ε,
    part (board.notifyError true s).surroundings = onError (part s.surroundings)

/-- What a router is configured to do, whether it is notifying anybody, and the error it shows. -/
def Router.signals (r : Router) : Config × Bool × Bool := (r.config, r.notifying, r.errorShown)

/-- What decides whether there is inventory. -/
def Router.footing (r : Router) : Mode × Bool × Bool := (r.mode, r.running, r.inventoryActive)

namespace Station

variable {s t u : Station ε} {part : ε → α} {onError : α → α}

/-- No error was shown or taken back, and the part of the surroundings is as it was. -/
structure Hushed (part : ε → α) (s t : Station ε) : Prop where
  signals : t.router.signals = s.router.signals
  part_eq : part t.surroundings = part s.surroundings

namespace Hushed

lemma refl (s : Station ε) : s.Hushed part s := ⟨rfl, rfl⟩

lemma trans (hst : s.Hushed part t) (htu : t.Hushed part u) : s.Hushed part u :=
  ⟨htu.signals.trans hst.signals, htu.part_eq.trans hst.part_eq⟩

lemma config (h : s.Hushed part t) : t.router.config = s.router.config :=
  congrArg (·.1) h.signals

lemma notifying (h : s.Hushed part t) : t.router.notifying = s.router.notifying :=
  congrArg (·.2.1) h.signals

lemma errorShown (h : s.Hushed part t) : t.router.errorShown = s.router.errorShown :=
  congrArg (·.2.2) h.signals

end Hushed

/-- Inventory goes on as it is; if it has a single round, its schedule is what it was. -/
structure Carries (part : ε → α) (s t : Station ε) : Prop extends Hushed part s t where
  footing : t.router.footing = s.router.footing
  schedule : s.router.config.strategy = .singleShot → t.router.schedule = s.router.schedule

namespace Carries

lemma refl (s : Station ε) : s.Carries part s := ⟨.refl s, rfl, fun _ => rfl⟩

lemma of_router (hrouter : t.router = s.router)
    (hpart : part t.surroundings = part s.surroundings) : s.Carries part t :=
  ⟨⟨by rw [hrouter], hpart⟩, by rw [hrouter], fun _ => by rw [hrouter]⟩

lemma mode (h : s.Carries part t) : t.router.mode = s.router.mode :=
  congrArg (·.1) h.footing

lemma running (h : s.Carries part t) : t.router.running = s.router.running :=
  congrArg (·.2.1) h.footing

lemma active (h : s.Carries part t) : t.router.inventoryActive = s.router.inventoryActive :=
  congrArg (·.2.2) h.footing

lemma trans (hst : s.Carries part t) (htu : t.Carries part u) : s.Carries part u where
  toHushed := hst.toHushed.trans htu.toHushed
  footing := htu.footing.trans hst.footing
  schedule h := (htu.schedule (by rw [hst.config]; exact h)).trans (hst.schedule h)

end Carries

lemma carries_count (f : Counters → Counters) (s : Station ε) : s.Carries part (s.count f) :=
  ⟨⟨rfl, rfl⟩, rfl, fun _ => rfl⟩

/-- There is inventory, and nobody is being notified. -/
structure Underway (s : Station ε) : Prop where
  mode : s.router.mode = .inventory
  active : s.router.inventoryActive = true
  free : s.router.notifying = false

lemma Carries.underway (h : s.Carries part t) (hs : s.Underway) : t.Underway :=
  ⟨h.mode.trans hs.mode, h.active.trans hs.active, h.notifying.trans hs.free⟩

/-- Inventory has ended: the router is idle, its schedule is off, and an antenna error was shown. -/
structure Ended (ending : Ending) (part : ε → α) (onError : α → α) (s t : Station ε) : Prop where
  stance : t.router.stance = (.idle, s.router.running, .off)
  signals : t.router.signals =
    (s.router.config, s.router.notifying, ending == .antenna || s.router.errorShown)
  part_eq : part t.surroundings =
    if ending = .antenna then onError (part s.surroundings) else part s.surroundings

namespace Ended

variable {ending : Ending}

lemma mode (h : s.Ended ending part onError t) : t.router.mode = .idle :=
  congrArg (·.1) h.stance

lemma inactive (h : s.Ended ending part onError t) : t.router.inventoryActive = false :=
  congrArg (·.2.2.active) h.stance

lemma config (h : s.Ended ending part onError t) : t.router.config = s.router.config :=
  congrArg (·.1) h.signals

lemma notifying (h : s.Ended ending part onError t) : t.router.notifying = s.router.notifying :=
  congrArg (·.2.1) h.signals

lemma errorShown (h : s.Ended ending part onError t) :
    t.router.errorShown = (ending == .antenna || s.router.errorShown) :=
  congrArg (·.2.2) h.signals

/-- Only an error of the antenna is shown. -/
lemma hushed (h : s.Ended .onlyRound part onError t) : s.Hushed part t := ⟨h.signals, h.part_eq⟩

end Ended

/--
  What frames make of inventory: it goes on with each of them, or the last one ends it and is what
  is left of what was received.
-/
inductive Proceeds (part : ε → α) (onError : α → α) (s : Station ε) (frames : List (List UInt8))
    (t : Station ε) : Prop
  | goes (h : ∀ frame ∈ frames, Frame.ending? s.router.config.strategy frame = none)
      (hst : s.Carries part t)
  | ends (init : List (List UInt8)) (last : List UInt8) (ending : Ending)
      (hframes : frames = init ++ [last])
      (hinit : ∀ frame ∈ init, Frame.ending? s.router.config.strategy frame = none)
      (hlast : Frame.ending? s.router.config.strategy last = some ending)
      (hst : s.Ended ending part onError t)

variable {ending : Ending}

section

variable {frame : List UInt8} {frames : List (List UInt8)}

lemma Proceeds.carries (h : s.Proceeds part onError frames t)
    (hframes : ∀ frame ∈ frames, Frame.ending? s.router.config.strategy frame = none) :
    s.Carries part t := by
  cases h with
  | goes _ hst => exact hst
  | ends init last ending hlist _ hlast _ =>
      have hmem : last ∈ frames := by simp [hlist]
      cases (hframes last hmem).symm.trans hlast

/-- A frame that ends inventory ends it, and no other is acted on behind it. -/
lemma Proceeds.ended {init rest : List (List UInt8)} (h : s.Proceeds part onError frames t)
    (hframes : frames = init ++ frame :: rest)
    (hframe : Frame.ending? s.router.config.strategy frame = some ending) :
    s.Ended ending part onError t ∧ rest = [] := by
  cases h with
  | goes h _ => cases (h frame (by simp [hframes])).symm.trans hframe
  | ends earlier last ending' hlist hearlier hlast hst =>
      rw [hframes] at hlist
      rcases List.eq_nil_or_concat rest with rfl | ⟨others, other, rfl⟩
      · obtain ⟨-, hsame⟩ := List.append_inj' hlist rfl
        obtain rfl := List.singleton_inj.mp hsame
        cases hlast.symm.trans hframe
        exact ⟨hst, rfl⟩
      · rw [List.concat_eq_append, ← List.cons_append, ← List.append_assoc] at hlist
        obtain ⟨rfl, -⟩ := List.append_inj' hlist rfl
        cases (hearlier frame (by simp)).symm.trans hframe

end

lemma Carries.ended (hst : s.Carries part t) (htu : t.Ended ending part onError u) :
    s.Ended ending part onError u where
  stance := by rw [htu.stance, hst.running]
  signals := by rw [htu.signals, hst.config, hst.notifying, hst.errorShown]
  part_eq := by rw [htu.part_eq, hst.part_eq]

/-- What happens after inventory has gone on for a while happens from its beginning. -/
lemma Proceeds.of_carries {frames : List (List UInt8)} (hst : s.Carries part t)
    (h : t.Proceeds part onError frames u) : s.Proceeds part onError frames u := by
  cases h with
  | goes h htu =>
      rw [hst.config] at h
      exact .goes h (hst.trans htu)
  | ends init last ending hframes hinit hlast htu =>
      rw [hst.config] at hinit hlast
      exact .ends init last ending hframes hinit hlast (hst.ended htu)

/-- A frame with which inventory goes on may come before others. -/
lemma Proceeds.cons {frame : List UInt8} {frames : List (List UInt8)}
    (hframe : Frame.ending? s.router.config.strategy frame = none)
    (h : s.Proceeds part onError frames t) : s.Proceeds part onError (frame :: frames) t := by
  cases h with
  | goes h hst => exact .goes (List.forall_mem_cons.mpr ⟨hframe, h⟩) hst
  | ends init last ending hframes hinit hlast hst =>
      exact .ends (frame :: init) last ending (by rw [hframes]; rfl)
        (List.forall_mem_cons.mpr ⟨hframe, hinit⟩) hlast hst

lemma Carries.of_touches (hpart : board.Heeds part onError) (h : s.Touches board t)
    (hsignals : t.router.signals = s.router.signals)
    (hstance : t.router.stance = s.router.stance) : s.Carries part t := by
  simp only [Router.stance, Prod.mk.injEq] at hstance
  obtain ⟨hmode, hrunning, hschedule⟩ := hstance
  refine ⟨⟨hsignals, part_of_touches hpart.write h⟩, ?_, fun _ => hschedule⟩
  simp only [Router.footing, Router.inventoryActive, hmode, hrunning, hschedule]

/-- What a router does with itself shows nothing. -/
lemma Inward.signals (h : s.Inward board t) : t.router.signals = s.router.signals := by
  have houtlook := h.outlook
  simp only [Router.outlook, Prod.mk.injEq] at houtlook
  obtain ⟨-, hconfig, -, -, hshown, hnotifying⟩ := houtlook
  simp only [Router.signals, hconfig, hnotifying, hshown]

lemma Carries.of_inward (hpart : board.Heeds part onError) (h : s.Inward board t) :
    s.Carries part t :=
  .of_touches hpart h.touches h.signals (Router.stance_of_outlook h.outlook)

/-- Once inventory has ended, what a router does with itself does not change that. -/
lemma Ended.inward (hpart : board.Heeds part onError) (hst : s.Ended ending part onError t)
    (htu : t.Inward board u) : s.Ended ending part onError u where
  stance := (Router.stance_of_outlook htu.outlook).trans hst.stance
  signals := htu.signals.trans hst.signals
  part_eq := (part_of_touches hpart.write htu.touches).trans hst.part_eq

/-- Frames with an error of the antenna among them end inventory, and others show nothing. -/
def HeedsAntenna (part : ε → α) (onError : α → α) (s : Station ε) (frames : List (List UInt8))
    (t : Station ε) : Prop :=
  if frames.any Frame.isAntennaError then s.Ended .antenna part onError t else s.Hushed part t

namespace HeedsAntenna

variable {frames : List (List UInt8)}

lemma ended (h : s.HeedsAntenna part onError frames t)
    (hany : frames.any Frame.isAntennaError = true) : s.Ended .antenna part onError t := by
  rwa [HeedsAntenna, if_pos hany] at h

lemma hushed (h : s.HeedsAntenna part onError frames t)
    (hnone : frames.any Frame.isAntennaError = false) : s.Hushed part t := by
  rwa [HeedsAntenna, if_neg (by rw [hnone]; exact Bool.false_ne_true)] at h

lemma notifying (h : s.HeedsAntenna part onError frames t) :
    t.router.notifying = s.router.notifying := by
  cases hany : frames.any Frame.isAntennaError with
  | true => exact (h.ended hany).notifying
  | false => exact (h.hushed hany).notifying

lemma of_carries (hst : s.Carries part t) (h : t.HeedsAntenna part onError frames u) :
    s.HeedsAntenna part onError frames u := by
  rw [HeedsAntenna]
  split
  · rename_i hany
    exact hst.ended (h.ended hany)
  · rename_i hnone
    exact hst.toHushed.trans (h.hushed (Bool.not_eq_true _ ▸ hnone))

end HeedsAntenna

section

variable (hrouter : board.CallbacksAre fun s t => t.router = s.router)
  (hpart : board.Heeds part onError)

/-! ## The end -/

variable (board) in
/-- What was received does not survive the end of inventory. -/
lemma cleared_enterIdle (hmode : s.router.mode = .inventory) :
    (s.enterMode board .idle).performReset.line.inbound = [] := by
  set noted := (s.onRouter fun r => { r with mode := .idle, resetPending := true }).tell board
    (.modeChanged s.router.mode .idle) with hnoted
  have hentered : s.enterMode board .idle = noted.resetUnlessBusy := by
    rw [enterMode, if_neg (by rw [hmode]; decide)]
  have hpending : noted.router.resetPending = true := rfl
  have hperformed : noted.performReset.line.inbound = [] := by
    simp only [performReset, hpending, if_true]
    rfl
  rw [hentered, resetUnlessBusy]
  split
  · exact hperformed
  · rw [performReset_of_not_pending (resetPending_performReset noted)]
    exact hperformed

/-- A status that ends nothing is followed by nothing but a new date for the next round. -/
lemma carries_followRound (now : Nat) {status : Status}
    (h : s.router.config.strategy.ending? status = none) :
    s.Carries part (s.followRound board now status) := by
  simp only [Strategy.ending?] at h
  simp only [followRound]
  split
  · exact .refl s
  · split
    · rename_i hantenna
      rw [if_pos hantenna] at h
      cases h
    · rename_i hother
      rw [if_neg hother] at h
      split
      · exact .refl s
      · rename_i hopen
        have hends : status.endsRound = true := by
          cases hends : status.endsRound with
          | true => rfl
          | false => simp [hends] at hopen
        split
        · exact .refl s
        · rename_i intervalMs hstrategy
          refine ⟨⟨rfl, rfl⟩, rfl, fun hsingle => ?_⟩
          cases hstrategy.symm.trans hsingle
        · rename_i hstrategy
          rw [hends, hstrategy] at h
          cases h

include hpart

lemma carries_tell {remark : Remark} (h : remark.call? = none) (s : Station ε) :
    s.Carries part (s.tell board remark) := .of_touches hpart (touches_tell h s) rfl rfl

/-- At the end the mode changes, once schedule and indication are as they should be. -/
lemma Ended.of_enterIdle {router : Router}
    (hended : t.router = { router with schedule := .off })
    (hrunning : router.running = s.router.running)
    (hsignals : router.signals =
      (s.router.config, s.router.notifying, ending == .antenna || s.router.errorShown))
    (hheard : part t.surroundings =
      if ending = .antenna then onError (part s.surroundings) else part s.surroundings) :
    s.Ended ending part onError (t.enterMode board .idle) := by
  obtain ⟨_, _, hentered⟩ := router_enterMode board .idle t
  rw [hended] at hentered
  have htouches : t.Touches board (t.enterMode board .idle) := touches_enterMode .idle t
  refine ⟨?_, ?_, (part_of_touches hpart.write htouches).trans hheard⟩
  · rw [Router.stance, hentered, ← hrunning]
  · rw [← hsignals, hentered]
    rfl

lemma ended_endOnlyRound (s : Station ε) :
    s.Ended .onlyRound part onError (s.endOnlyRound board) := by
  have htouches : s.Touches board (s.endSchedule.reportTotals board).2 :=
    (touches_onRouter Router.endSchedule s).trans (touches_reportTotals _)
  have hended : (s.endSchedule.reportTotals board).2.router = { s.router with schedule := .off } :=
    router_tellAll board _ _
  exact .of_enterIdle hpart hended rfl rfl (part_of_touches hpart.write htouches)

include hrouter

lemma ended_stopForAntenna (hfree : s.router.notifying = false) :
    s.Ended .antenna part onError (s.stopForAntenna board) := by
  set told := (s.tell board .antennaError).onRouter fun r => { r with errorShown := true }
    with htold
  have hkept : (told.notify (board.notifyError true)).router = told.router :=
    router_notify (hrouter.notifyError true) told
  have hheard : part (told.notify (board.notifyError true)).surroundings =
      onError (part s.surroundings) := by
    have htoldFree : told.router.notifying = false := hfree
    have hsame : part told.surroundings = part s.surroundings :=
      hpart.write .antennaError s.surroundings rfl
    simp only [notify, htoldFree, Bool.false_eq_true, if_false]
    exact (hpart.notifyError _).trans (congrArg onError hsame)
  have hended : (told.notify (board.notifyError true)).endSchedule.router =
      { told.router with schedule := .off } := by
    rw [endSchedule, onRouter, hkept]
    rfl
  exact .of_enterIdle hpart hended rfl rfl hheard

/-! ## What a frame says -/

lemma carries_notifyRead (s : Station ε) : s.Carries part (s.notify board.notifyRead) := by
  refine .of_router (router_notify hrouter.notifyRead s) ?_
  simp only [notify]
  split
  · rfl
  · exact hpart.notifyRead _

lemma carries_passOn (tag : Sighting) (s : Station ε) : s.Carries part (s.passOn board tag) := by
  set text := tag.text s.router.config.epcGroupBytes.toNat with htext
  have htold : s.Carries part (s.tell board (.tag text tag)) := carries_tell hpart rfl s
  have hdelivered := htold.trans
    (.of_router (hrouter.deliver text _) (hpart.deliver text (s.tell board (.tag text tag))))
  simp only [passOn, ← htext]
  split <;> rename_i heq <;> rw [heq] at hdelivered
  · exact (hdelivered.trans (carries_count _ _)).trans (carries_notifyRead hrouter hpart _)
  · exact (hdelivered.trans (carries_count _ _)).trans (carries_tell hpart rfl _)

lemma carries_offer (now : Nat) (tag : Sighting) (s : Station ε) :
    s.Carries part (s.offer board now tag) := by
  have hcounted : s.Carries part (s.count fun c => { c with tagsRead := c.tagsRead + 1 }) :=
    carries_count _ s
  simp only [offer]
  split
  · exact hcounted.trans (carries_tell hpart rfl _)
  · split
    · refine hcounted.trans (.trans ?_ (carries_passOn hrouter hpart tag _))
      exact ⟨⟨rfl, rfl⟩, rfl, fun _ => rfl⟩
    · refine hcounted.trans (.trans ?_ (carries_count _ _))
      exact ⟨⟨rfl, rfl⟩, rfl, fun _ => rfl⟩

lemma carries_offers (now : Nat) (tags : List Sighting) (s : Station ε) :
    s.Carries part (tags.foldl (offer board now) s) := by
  induction tags generalizing s with
  | nil => exact .refl s
  | cons tag rest ih => exact (carries_offer hrouter hpart now tag s).trans (ih _)

lemma carries_useContent (now : Nat) (content : Content) (s : Station ε) :
    s.Carries part (s.useContent board now content) := by
  cases content with
  | autoUpload tag => exact carries_offer hrouter hpart now tag s
  | inventory report => exact carries_offers hrouter hpart now report.sightings s
  | statistics _ => exact carries_tell hpart rfl s
  | profile p => exact (carries_tell hpart rfl s).trans ⟨⟨rfl, rfl⟩, rfl, fun _ => rfl⟩
  | tagCount _ => exact ⟨⟨rfl, rfl⟩, rfl, fun _ => rfl⟩
  | temperature _ => exact ⟨⟨rfl, rfl⟩, rfl, fun _ => rfl⟩
  | readData _ => exact carries_tell hpart rfl s
  | gpioState _ => exact carries_tell hpart rfl s
  | other _ _ _ => exact .refl s

/-- Until the status of a round is looked at, inventory goes on. -/
lemma carries_readFrame (now : Nat) (frame : List UInt8) (s : Station ε) :
    s.Carries part (s.readFrame board now frame) := by
  have hcounted : s.Carries part (s.count fun c =>
      { c with framesReceived := c.framesReceived + 1 }) := carries_count _ s
  simp only [readFrame]
  split
  · exact (hcounted.trans (carries_count _ _)).trans (carries_tell hpart rfl _)
  · split
    · exact (hcounted.trans (carries_count _ _)).trans (carries_tell hpart rfl _)
    · rename_i response _
      have hremark : (Remark.received frame response).call? = none := rfl
      obtain ⟨answers, hkept, -⟩ := exists_kept (answerOf response.head (responsePayload frame))
        ((s.count fun c => { c with framesReceived := c.framesReceived + 1 }).tell board
          (.received frame response))
      have htold := hcounted.trans (carries_tell hpart hremark _)
      rw [hkept]
      refine htold.trans (.trans ?_ (carries_useContent hrouter hpart now _ _))
      exact ⟨⟨rfl, rfl⟩, rfl, fun _ => rfl⟩

/-! ## What its status says -/

/-- An error of the antenna ends inventory, whether its schedule has begun or not. -/
lemma ended_followRound_antennaError (now : Nat) (hmode : s.router.mode = .inventory)
    (hfree : s.router.notifying = false) :
    s.Ended .antenna part onError (s.followRound board now .antennaError) ∧
      (s.followRound board now .antennaError).performReset.line.inbound = [] := by
  have hopen : ¬ s.router.mode = .idle := by
    rw [hmode]
    decide
  have hstopped : s.followRound board now .antennaError = s.stopForAntenna board := by
    rw [followRound, if_neg hopen, if_pos rfl]
  rw [hstopped]
  refine ⟨ended_stopForAntenna hrouter hpart hfree, cleared_enterIdle board ?_⟩
  have hkept := router_notify (hrouter.notifyError true)
    ((s.tell board .antennaError).onRouter fun r => { r with errorShown := true })
  exact (congrArg Router.mode hkept).trans hmode

/-- A status that ends inventory ends it, and what was received is thrown away. -/
lemma ended_followRound (now : Nat) {status : Status} (hmode : s.router.mode = .inventory)
    (hactive : s.router.inventoryActive = true) (hfree : s.router.notifying = false)
    (h : s.router.config.strategy.ending? status = some ending) :
    s.Ended ending part onError (s.followRound board now status) ∧
      (s.followRound board now status).performReset.line.inbound = [] := by
  have hopen : ¬ s.router.mode = .idle := by
    rw [hmode]
    decide
  simp only [Strategy.ending?] at h
  by_cases hantenna : status = .antennaError
  · rw [if_pos hantenna] at h
    cases h
    rw [hantenna]
    exact ended_followRound_antennaError hrouter hpart now hmode hfree
  · rw [if_neg hantenna] at h
    split at h
    · rename_i hlast
      cases h
      rw [Bool.and_eq_true, beq_iff_eq] at hlast
      have hended : s.followRound board now status = s.endOnlyRound board := by
        simp only [followRound, if_neg hopen, if_neg hantenna, hlast.1, hactive, hlast.2,
          Bool.not_true, Bool.or_self, Bool.false_eq_true, if_false]
      rw [hended]
      refine ⟨ended_endOnlyRound hpart s, cleared_enterIdle board ?_⟩
      exact (congrArg Router.mode (router_tellAll board _ s.endSchedule)).trans hmode
    · cases h

/-! ## One frame after the other -/

lemma carries_acceptFrame (now : Nat) {frame : List UInt8}
    (h : Frame.ending? s.router.config.strategy frame = none) :
    s.Carries part (s.acceptFrame board now frame) := by
  have hread := carries_readFrame hrouter hpart now frame s
  rw [acceptFrame_eq]
  cases hstatus : Frame.roundStatus? frame with
  | none => exact hread
  | some status =>
      rw [Frame.ending?, hstatus, Option.bind_some, ← hread.config] at h
      exact hread.trans (carries_followRound now h)

lemma ended_acceptFrame (now : Nat) {frame : List UInt8} (hs : s.Underway)
    (h : Frame.ending? s.router.config.strategy frame = some ending) :
    s.Ended ending part onError (s.acceptFrame board now frame) ∧
      (s.acceptFrame board now frame).performReset.line.inbound = [] := by
  have hread := carries_readFrame hrouter hpart now frame s
  rw [acceptFrame_eq]
  cases hstatus : Frame.roundStatus? frame with
  | none =>
      rw [Frame.ending?, hstatus] at h
      cases h
  | some status =>
      rw [Frame.ending?, hstatus, Option.bind_some, ← hread.config] at h
      have hgoing := hread.underway hs
      obtain ⟨hended, hcleared⟩ :=
        ended_followRound hrouter hpart now hgoing.mode hgoing.active hgoing.free h
      exact ⟨hread.ended hended, hcleared⟩

omit hrouter in
/-- Behind the frame with which inventory has ended there is no other. -/
lemma acceptFrames_of_ended {ending : Ending} (now turns : Nat)
    (h : s.Ended ending part onError t) (hcleared : t.performReset.line.inbound = []) :
    (t.performReset.acceptFrames board now turns).1 = [] ∧
      s.Ended ending part onError (t.performReset.acceptFrames board now turns).2 := by
  have hreset := h.inward hpart (inward_performReset t)
  exact ⟨acceptFrames_of_empty board now hcleared,
    hreset.inward hpart (inward_acceptFrames now turns hreset.mode)⟩

/-- **All frames of a loop**: inventory goes on with each of them, or the last one ends it. -/
theorem proceeds_acceptFrames (now turns : Nat) (hs : s.Underway) :
    s.Proceeds part onError (s.acceptFrames board now turns).1
      (s.acceptFrames board now turns).2 := by
  induction turns generalizing s with
  | zero => exact .goes (List.forall_mem_nil _) (.refl s)
  | succ turns ih =>
      have hpulled : s.Carries part (s.pullFrame board now).2 :=
        .of_inward hpart (inward_pullFrame now s)
      rcases hpull : s.pullFrame board now with ⟨_ | frame, pulled⟩ <;> rw [hpull] at hpulled
      · simp only [acceptFrames, hpull]
        exact .goes (List.forall_mem_nil _) hpulled
      · have hgoing := hpulled.underway hs
        simp only [acceptFrames, hpull]
        set next := pulled.acceptFrame board now frame with hnext
        cases hending : Frame.ending? s.router.config.strategy frame with
        | none =>
            rw [← hpulled.config] at hending
            have haccepted := hpulled.trans (carries_acceptFrame hrouter hpart now hending)
            have hreset := haccepted.trans (.of_inward hpart (inward_performReset next))
            rw [hpulled.config] at hending
            exact ((ih (hreset.underway hs)).of_carries hreset).cons hending
        | some ending =>
            rw [← hpulled.config] at hending
            obtain ⟨hended, hcleared⟩ := ended_acceptFrame hrouter hpart now hgoing hending
            rw [hpulled.config] at hending
            -- nothing is left to be acted on
            obtain ⟨hrest, hlast⟩ := acceptFrames_of_ended hpart now turns hended hcleared
            rw [hrest]
            exact .ends [] frame ending rfl (List.forall_mem_nil _) hending
              (hpulled.ended hlast)

/-- What the frames of a call make of inventory, before the schedule is looked at. -/
lemma proceeds_accepted (hrunning : s.router.running = true) (hidle : s.router.busy = false)
    (hs : s.Underway) :
    s.Proceeds part onError (s.dispatched board) (s.accepted board) := by
  have hready : s.Carries part (s.ready board) := .of_inward hpart (inward_ready s)
  rw [dispatched_eq hrunning hidle]
  exact (proceeds_acceptFrames hrouter hpart (s.now board) _ (hready.underway hs)).of_carries hready

omit hrouter in
/-- Once inventory has ended, the rest of a call changes nothing about it. -/
lemma ended_process (hrunning : s.router.running = true) (hidle : s.router.busy = false)
    (h : s.Ended ending part onError (s.accepted board)) :
    s.Ended ending part onError (s.process board).2 := by
  rw [process_eq hrunning hidle, keepSchedule_idle _ h.mode]
  exact h.inward hpart (inward_onRouter rfl)

/-!
## Errors of the antenna

Whoever sets the mode by hand has inventory without a schedule.
-/

/-- A status without a schedule ends nothing but for the antenna. -/
lemma carries_acceptFrame_of_inactive (now : Nat) (hactive : s.router.inventoryActive = false)
    (h : Frame.isAntennaError frame = false) : s.Carries part (s.acceptFrame board now frame) := by
  have hread := carries_readFrame hrouter hpart now frame s
  rw [acceptFrame_eq]
  cases hstatus : Frame.roundStatus? frame with
  | none => exact hread
  | some status =>
      have hother : status ≠ .antennaError := by
        rintro rfl
        rw [Frame.isAntennaError, hstatus] at h
        cases h
      have hstill : (s.readFrame board now frame).router.inventoryActive = false :=
        hread.active.trans hactive
      have hsame : (s.readFrame board now frame).followRound board now status =
          s.readFrame board now frame := by
        simp only [followRound, if_neg hother, hstill, Bool.not_false, Bool.or_true, if_true,
          ite_self]
      rw [Option.elim_some, hsame]
      exact hread

/-- Any other frame leaves inventory going, or it ends the only round and all that was received. -/
lemma acceptFrame_cases_of_no_error (now : Nat) (hmode : s.router.mode = .inventory)
    (hfree : s.router.notifying = false) (h : Frame.isAntennaError frame = false) :
    s.Carries part (s.acceptFrame board now frame) ∨
      (s.Ended .onlyRound part onError (s.acceptFrame board now frame) ∧
        (s.acceptFrame board now frame).performReset.line.inbound = []) := by
  cases hactive : s.router.inventoryActive with
  | false => exact .inl (carries_acceptFrame_of_inactive hrouter hpart now hactive h)
  | true =>
      cases hending : Frame.ending? s.router.config.strategy frame with
      | none => exact .inl (carries_acceptFrame hrouter hpart now hending)
      | some ending =>
          cases ending with
          | onlyRound =>
              exact .inr (ended_acceptFrame hrouter hpart now ⟨hmode, hactive, hfree⟩ hending)
          | antenna =>
              rw [← Frame.isAntennaError_iff] at hending
              cases h.symm.trans hending

/-- An error of the antenna ends inventory, whether its schedule has begun or not. -/
lemma ended_acceptFrame_of_error (now : Nat) (hmode : s.router.mode = .inventory)
    (hfree : s.router.notifying = false) (h : Frame.isAntennaError frame = true) :
    s.Ended .antenna part onError (s.acceptFrame board now frame) ∧
      (s.acceptFrame board now frame).performReset.line.inbound = [] := by
  have hread := carries_readFrame hrouter hpart now frame s
  have hstatus : Frame.roundStatus? frame = some .antennaError := beq_iff_eq.mp h
  obtain ⟨hended, hcleared⟩ := ended_followRound_antennaError hrouter hpart now
    (hread.mode.trans hmode) (hread.notifying.trans hfree)
  rw [acceptFrame_eq, hstatus, Option.elim_some]
  exact ⟨hread.ended hended, hcleared⟩

/-- **All frames of a loop.** -/
theorem heedsAntenna_acceptFrames (now turns : Nat) (hmode : s.router.mode = .inventory)
    (hfree : s.router.notifying = false) :
    s.HeedsAntenna part onError (s.acceptFrames board now turns).1
      (s.acceptFrames board now turns).2 := by
  induction turns generalizing s with
  | zero => exact Hushed.refl s
  | succ turns ih =>
      have hpulled : s.Carries part (s.pullFrame board now).2 :=
        .of_inward hpart (inward_pullFrame now s)
      rcases hpull : s.pullFrame board now with ⟨_ | frame, pulled⟩ <;> rw [hpull] at hpulled
      · simp only [acceptFrames, hpull]
        exact hpulled.toHushed
      · simp only [acceptFrames, hpull]
        refine .of_carries hpulled ?_
        have hstill : pulled.router.mode = .inventory := hpulled.mode.trans hmode
        have hunheard : pulled.router.notifying = false := hpulled.notifying.trans hfree
        set next := pulled.acceptFrame board now frame with hnext
        cases herror : Frame.isAntennaError frame with
        | true =>
            obtain ⟨hended, hcleared⟩ :=
              ended_acceptFrame_of_error hrouter hpart now hstill hunheard herror
            obtain ⟨hrest, hlast⟩ := acceptFrames_of_ended hpart now turns hended hcleared
            rw [HeedsAntenna, hrest, List.any_cons, herror]
            exact hlast
        | false =>
            -- the mode is still inventory, or there is no other frame
            rcases acceptFrame_cases_of_no_error hrouter hpart now hstill hunheard herror with
              hgoing | ⟨hended, hcleared⟩
            · have hreset := hgoing.trans (.of_inward hpart (inward_performReset next))
              have hlater := ih (hreset.mode.trans hstill) (hreset.notifying.trans hunheard)
              rw [HeedsAntenna, List.any_cons, herror, Bool.false_or]
              exact hlater.of_carries hreset
            · obtain ⟨hrest, hlast⟩ := acceptFrames_of_ended hpart now turns hended hcleared
              rw [HeedsAntenna, hrest, List.any_cons, herror]
              exact hlast.hushed

end

end Station

end RfidLink
