import RfidLink.Proofs.Clock
import RfidLink.Proofs.FirstSightings
import RfidLink.Proofs.Tasks

/-!
# What stands behind a tag that is held back

A tag is held back because it was let through a short time ago.  Being let through is not being
delivered: the filter records that a tag goes to the consumer before the consumer is asked, and
the consumer may refuse.

**Events.**  `TagEvent` is what happens to the tags that are read, with the time.  `Station.Offers`
are the runs inside one call to process received bytes, all of whose tags are read when it begins,
and `TagRuns` the runs of a station, on which the clock does not go back.

**The account.**  `Station.Accounted` says that every entry of the filter goes back to an offer
since the tags were last forgotten, and `Accounted.offer` that one more tag keeps it so.  The runs
follow by induction (`Offers.accounted`, `TagRuns.accounted`).

**`heldBack_only_after_offer`**: behind a tag that is held back stands an offer of the same tag,
within the window and since the tags were last forgotten.  Nothing else can be said of this offer;
`heldBack_without_delivery` is a run in which the consumer has refused it.
-/

namespace RfidLink

variable {ε : Type} {board : Board ε}

/-! ## Events -/

/-- What happens to the tags that are read, and when. -/
inductive TagEvent where
  /-- A tag was let through, and the consumer has taken it or refused it. -/
  | offered (epc : Epc) (time : Nat) (isTaken : Bool)
  /-- A tag was held back, because it came within a window. -/
  | heldBack (epc : Epc) (time window : Nat)
  /-- All tags are forgotten. -/
  | forgotten
  /-- The counters start again at zero. -/
  | recounted
deriving DecidableEq

/-- How many tags were held back, how many were delivered, and how many were refused. -/
structure TagCounts where
  heldBack : UInt32
  passedOn : UInt32
  undelivered : UInt32
deriving DecidableEq

namespace TagEvent

/-- What an event does to the counts. -/
def count (counts : TagCounts) : TagEvent → TagCounts
  | offered _ _ true => { counts with passedOn := counts.passedOn + 1 }
  | offered _ _ false => { counts with undelivered := counts.undelivered + 1 }
  | heldBack .. => { counts with heldBack := counts.heldBack + 1 }
  | forgotten => counts
  | recounted => { heldBack := 0, passedOn := 0, undelivered := 0 }

/-- A tag was offered at some time, and the tags have not been forgotten since. -/
def OfferedAt (events : List TagEvent) (epc : Epc) (time : Nat) (isTaken : Bool) : Prop :=
  ∃ before after, events = before ++ offered epc time isTaken :: after ∧ forgotten ∉ after

/--
  Before every tag that was held back, the same tag was offered, no longer ago than the window and
  since the tags were last forgotten.
-/
def Backed (events : List TagEvent) : Prop :=
  ∀ before epc time window after, events = before ++ heldBack epc time window :: after →
    ∃ offeredAt isTaken, OfferedAt before epc offeredAt isTaken ∧ offeredAt ≤ time ∧
      time < offeredAt + window

variable {events : List TagEvent} {event : TagEvent} {epc : Epc} {time : Nat} {isTaken : Bool}

lemma OfferedAt.concat (h : OfferedAt events epc time isTaken) (hevent : event ≠ forgotten) :
    OfferedAt (events ++ [event]) epc time isTaken := by
  obtain ⟨before, after, rfl, hafter⟩ := h
  refine ⟨before, after ++ [event], by simp, ?_⟩
  simpa [hafter] using hevent.symm

lemma offeredAt_concat : OfferedAt (events ++ [offered epc time isTaken]) epc time isTaken :=
  ⟨events, [], rfl, List.not_mem_nil⟩

lemma backed_nil : Backed [] := by
  intro before epc time window after h
  cases before <;> cases h

/-- One more event is backed if it is, should it be a tag that is held back. -/
lemma Backed.concat (h : Backed events)
    (hevent : ∀ epc time window, event = heldBack epc time window →
      ∃ offeredAt isTaken, OfferedAt events epc offeredAt isTaken ∧ offeredAt ≤ time ∧
        time < offeredAt + window) :
    Backed (events ++ [event]) := by
  intro before epc time window after heq
  rcases List.eq_nil_or_concat after with rfl | ⟨between, last, rfl⟩
  · obtain ⟨rfl, hlast⟩ := List.append_inj' heq rfl
    exact hevent epc time window (List.singleton_inj.mp hlast)
  · rw [List.concat_eq_append, ← List.cons_append, ← List.append_assoc] at heq
    obtain ⟨hfront, -⟩ := List.append_inj' heq rfl
    exact h before epc time window between hfront

/-- If no tag is refused, the one that stands behind a tag held back was delivered. -/
lemma Backed.delivered (h : Backed events) (htaken : ∀ epc time, offered epc time false ∉ events)
    {before after : List TagEvent} {window : Nat}
    (heq : events = before ++ heldBack epc time window :: after) :
    ∃ offeredAt, OfferedAt before epc offeredAt true ∧ offeredAt ≤ time ∧
      time < offeredAt + window := by
  obtain ⟨offeredAt, isTaken, hoffered, hwithin⟩ := h before epc time window after heq
  cases isTaken with
  | true => exact ⟨offeredAt, hoffered, hwithin⟩
  | false =>
      obtain ⟨front, rest, rfl, -⟩ := hoffered
      exact absurd (by simp [heq]) (htaken epc offeredAt)

end TagEvent

/-! ## One read of a tag -/

namespace RepeatFilter

variable {filter : RepeatFilter} {bytes : List UInt8} {rssi : UInt8} {now : Nat}

/-- After a read, an entry tells of it or was there before. -/
lemma mem_entries_record {entry : TagHistory}
    (h : entry ∈ (filter.record bytes rssi now).2.entries) :
    (∃ old ∈ filter.entries, entry.epc = old.epc ∧ entry.lastSentAt = old.lastSentAt) ∨
      (filter.record bytes rssi now).1 = true ∧ entry.epc = .truncate bytes ∧
        entry.lastSentAt = now := by
  cases hfind : filter.entries.find? (·.epc = .truncate bytes) with
  | some found =>
      simp only [record, hfind] at h ⊢
      obtain hkept | ⟨old, hold, rfl⟩ := mem_change h
      · exact .inl ⟨entry, hkept, rfl, rfl⟩
      · obtain rfl : old = found := Option.some.inj (hold.symm.trans hfind)
        have hepc : old.epc = .truncate bytes := by simpa using List.find?_some hfind
        cases hback : old.isHeldBack filter.window now with
        | true =>
            have hsame : (old.again filter.window rssi now).lastSentAt = old.lastSentAt := by
              simp only [TagHistory.again, hback, if_true]
            exact .inl ⟨old, List.mem_of_find?_eq_some hfind, rfl, hsame⟩
        | false =>
            have hnew : (old.again filter.window rssi now).lastSentAt = now := by
              simp only [TagHistory.again, hback, Bool.false_eq_true, if_false]
            exact .inr ⟨rfl, hepc, hnew⟩
  | none =>
      simp only [record, hfind, insert] at h ⊢
      have hmem : entry ∈ filter.entries ∨ entry = .first (.truncate bytes) rssi now := by
        split at h
        · exact List.mem_or_eq_of_mem_set h
        · simpa using h
      obtain hold | rfl := hmem
      · exact .inl ⟨entry, hold, rfl, rfl⟩
      · exact .inr ⟨trivial, rfl, rfl⟩

/-- What is held back was let through within the window, as far as the filter knows. -/
lemma exists_of_record_eq_false (h : (filter.record bytes rssi now).1 = false) :
    ∃ entry ∈ filter.entries, entry.epc = .truncate bytes ∧
      now - entry.lastSentAt < filter.window := by
  cases hfind : filter.entries.find? (·.epc = .truncate bytes) with
  | none => simp [record, hfind] at h
  | some entry =>
      refine ⟨entry, List.mem_of_find?_eq_some hfind, by simpa using List.find?_some hfind, ?_⟩
      simpa [record, hfind, TagHistory.isHeldBack] using h

end RepeatFilter

/-! ## What has nothing to do with tags -/

def Router.tagCounts (r : Router) : TagCounts :=
  { heldBack := r.counters.tagsHeldBack, passedOn := r.counters.tagsPassedOn,
    undelivered := r.counters.tagsUndelivered }

namespace Station

variable {s t u : Station ε}

/-- Nothing has happened to the tags; the window may have been changed. -/
structure TagsKept (s t : Station ε) : Prop where
  filter : ∃ window, t.router.filter = { s.router.filter with window }
  tagCounts : t.router.tagCounts = s.router.tagCounts

lemma TagsKept.of_eq (hfilter : t.router.filter = s.router.filter)
    (hcounts : t.router.tagCounts = s.router.tagCounts) : s.TagsKept t :=
  ⟨⟨s.router.filter.window, hfilter⟩, hcounts⟩

lemma TagsKept.of_router (h : t.router = s.router) : s.TagsKept t :=
  .of_eq (congrArg Router.filter h) (congrArg Router.tagCounts h)

lemma TagsKept.refl (s : Station ε) : s.TagsKept s := .of_router rfl

lemma TagsKept.trans (hst : s.TagsKept t) (htu : t.TagsKept u) : s.TagsKept u := by
  obtain ⟨window, hfilter⟩ := hst.filter
  obtain ⟨window', hfilter'⟩ := htu.filter
  exact ⟨⟨window', by rw [hfilter', hfilter]⟩, htu.tagCounts.trans hst.tagCounts⟩

variable (board) in
lemma tagsKept_tell (remark : Remark) (s : Station ε) : s.TagsKept (s.tell board remark) :=
  .of_router rfl

variable (board) in
lemma tagsKept_sendTo (address : UInt8) (command : Command) (s : Station ε) :
    s.TagsKept (s.sendTo board address command).2 := by
  obtain ⟨_, hrouter⟩ := router_sendTo board address command s
  exact .of_eq (by rw [hrouter]) (by rw [hrouter]; rfl)

variable (board) in
lemma tagsKept_pullFrame (now : Nat) (s : Station ε) :
    s.TagsKept (s.pullFrame board now).2 := by
  refine .of_eq ?_ ?_
  · rw [pullFrame, router_tellAll]
    rfl
  · rw [pullFrame, router_tellAll]
    rfl

lemma tagsKept_performReset (s : Station ε) : s.TagsKept s.performReset := by
  obtain ⟨_, hrouter⟩ := router_performReset s
  exact .of_eq (by rw [hrouter]) (by rw [hrouter]; rfl)

lemma tagsKept_resetUnlessBusy (s : Station ε) : s.TagsKept s.resetUnlessBusy := by
  obtain ⟨_, _, hrouter⟩ := router_resetUnlessBusy s
  exact .of_eq (by rw [hrouter]) (by rw [hrouter]; rfl)

variable (board) in
lemma tagsKept_discardAfterOverrun (s : Station ε) :
    s.TagsKept (s.discardAfterOverrun board) := by
  obtain ⟨_, hrouter⟩ := router_discardAfterOverrun board s
  exact .of_eq (by rw [hrouter]) (by rw [hrouter]; rfl)

variable (board) in
lemma tagsKept_enterMode (mode : Mode) (s : Station ε) : s.TagsKept (s.enterMode board mode) := by
  obtain ⟨_, _, hrouter⟩ := router_enterMode board mode s
  exact .of_eq (by rw [hrouter]) (by rw [hrouter]; rfl)

variable (board) in
lemma tagsKept_tellAll (remarks : List Remark) (s : Station ε) :
    s.TagsKept (s.tellAll board remarks) := .of_router (router_tellAll board remarks s)

variable (board) in
lemma tagsKept_endOnlyRound (s : Station ε) : s.TagsKept (s.endOnlyRound board) := by
  have hended : s.TagsKept s.endSchedule := .of_eq rfl rfl
  exact (hended.trans (tagsKept_tellAll board _ _)).trans (tagsKept_enterMode board .idle _)

lemma tagsKept_start (s : Station ε) : s.TagsKept (s.start board).2 := by
  simp only [start]
  split
  · exact .refl s
  · have hset : s.TagsKept (s.onRouter fun r =>
        { r with running := true, mode := .idle, resetPending := true }) := .of_eq rfl rfl
    exact (hset.trans (tagsKept_resetUnlessBusy _)).trans (tagsKept_tell board _ _)

lemma tagsKept_stop (s : Station ε) : s.TagsKept (s.stop board).2 := by
  simp only [stop]
  split
  · have hset : s.TagsKept
        (s.onRouter fun r => ({ r with running := false } : Router).endSchedule) := .of_eq rfl rfl
    exact (hset.trans (tagsKept_enterMode board .idle _)).trans (tagsKept_tell board _ _)
  · exact .refl s

lemma tagsKept_keepAnswer (answer : Answer) (s : Station ε) : s.TagsKept (s.keepAnswer answer) := by
  simp only [keepAnswer]
  split
  · exact .refl s
  · exact .of_eq rfl rfl

/-! ### The schedule -/

variable (board) in
lemma tagsKept_startRound (now : Nat) (s : Station ε) : s.TagsKept (s.startRound board now) := by
  have hsent := tagsKept_sendTo board s.router.address s.router.config.strategy.openingCommand s
  simp only [startRound, send]
  split <;> rename_i heq <;> rw [heq] at hsent
  · exact hsent.trans (.of_eq rfl rfl)
  · split
    · exact hsent.trans (.of_eq rfl rfl)
    · exact hsent.trans (.of_eq rfl rfl)

variable (board) in
lemma tagsKept_keepSchedule (now : Nat) (s : Station ε) :
    s.TagsKept (s.keepSchedule board now) := by
  simp only [keepSchedule]
  split
  · exact .refl s
  · split
    · split
      · exact .refl s
      · have htold : s.TagsKept ((s.tell board .roundAbandoned).count fun c =>
            { c with roundsAbandoned := c.roundsAbandoned + 1 }) := .of_eq rfl rfl
        simp only [abandonRound]
        split
        · exact htold.trans (tagsKept_endOnlyRound board _)
        · have hdue := htold.trans (.of_eq (t := ((s.tell board .roundAbandoned).count fun c =>
            { c with roundsAbandoned := c.roundsAbandoned + 1 }).onRouter
              (·.reschedule (·.dueAt now))) rfl rfl)
          exact hdue.trans (tagsKept_startRound board now _)
    · split
      · exact .refl s
      · exact tagsKept_startRound board now s

section

variable (hboard : board.CallbacksAre fun s t => t.router = s.router)

include hboard

lemma tagsKept_followRound (now : Nat) (status : Status) (s : Station ε) :
    s.TagsKept (s.followRound board now status) := by
  simp only [followRound]
  split
  · exact .refl s
  · split
    · have hnotified : s.TagsKept (((s.tell board .antennaError).onRouter fun r =>
          { r with errorShown := true }).notify (board.notifyError true)).endSchedule := by
        have hrouter := router_notify (hboard.notifyError true)
          ((s.tell board .antennaError).onRouter fun r => { r with errorShown := true })
        have hshown : s.TagsKept ((s.tell board .antennaError).onRouter fun r =>
          { r with errorShown := true }) := .of_eq rfl rfl
        exact (hshown.trans (.of_router hrouter)).trans (.of_eq rfl rfl)
      exact hnotified.trans (tagsKept_enterMode board .idle _)
    · split
      · exact .refl s
      · split
        · exact .refl s
        · exact .of_eq rfl rfl
        · exact tagsKept_endOnlyRound board s

lemma tagsKept_beginSchedule (s : Station ε) : s.TagsKept (s.beginSchedule board) := by
  have hback (t : Station ε) : t.TagsKept (if t.router.errorShown then
      (t.onRouter fun r => { r with errorShown := false }).notify (board.notifyError false)
      else t) := by
    split
    · have hhidden : t.TagsKept (t.onRouter fun r => { r with errorShown := false }) :=
        .of_eq rfl rfl
      exact hhidden.trans (.of_router (router_notify (hboard.notifyError false) _))
    · exact .refl t
  refine TagsKept.trans ?_ (hback _)
  split
  · exact .of_eq rfl rfl
  · exact .of_eq rfl rfl

end

/-! ## Offering a tag -/

variable (board) in
/-- Whether the consumer takes a tag. -/
def takes (tag : Sighting) (s : Station ε) : Bool :=
  let text := tag.text s.router.config.epcGroupBytes.toNat
  (board.deliver text (s.tell board (.tag text tag))).1.isOk

variable (board) in
/-- What happens to a tag that is read at `now` during inventory. -/
def offerEvent (now : Nat) (tag : Sighting) (s : Station ε) : TagEvent :=
  let (isLetThrough, filter) := s.router.filter.record tag.epc.toList tag.rssi now
  if isLetThrough then
    let recorded := (s.count fun c => { c with tagsRead := c.tagsRead + 1 }).onRouter
      fun r => { r with filter }
    .offered tag.epc now (recorded.takes board tag)
  else .heldBack tag.epc now s.router.filter.window

/-- To pass a tag on is to count it, as delivered or as refused. -/
lemma passOn_counts (hboard : board.CallbacksAre fun s t => t.router = s.router) (tag : Sighting)
    (now : Nat) (s : Station ε) :
    (s.passOn board tag).router.filter = s.router.filter ∧
      (s.passOn board tag).router.tagCounts =
        TagEvent.count s.router.tagCounts (.offered tag.epc now (s.takes board tag)) := by
  have hdelivered := hboard.deliver (tag.text s.router.config.epcGroupBytes.toNat)
    (s.tell board (.tag (tag.text s.router.config.epcGroupBytes.toNat) tag))
  simp only [passOn, takes]
  split <;> rename_i t heq <;> rw [heq] at hdelivered ⊢
  · rw [router_notify hboard.notifyRead]
    have hrouter : t.router = s.router := hdelivered
    exact ⟨by rw [← hrouter]; rfl, by rw [← hrouter]; rfl⟩
  · have hrouter : t.router = s.router := hdelivered
    exact ⟨by rw [← hrouter]; rfl, by rw [← hrouter]; rfl⟩

/-- **What an offer does**: the filter records the tag, and the event is counted. -/
lemma offer_counts (hboard : board.CallbacksAre fun s t => t.router = s.router) (now : Nat)
    (tag : Sighting) (hmode : s.router.mode = .inventory) :
    (s.offer board now tag).router.filter =
        (s.router.filter.record tag.epc.toList tag.rssi now).2 ∧
      (s.offer board now tag).router.tagCounts =
        TagEvent.count s.router.tagCounts (s.offerEvent board now tag) := by
  have hread : (s.count fun c => { c with tagsRead := c.tagsRead + 1 }).router.mode ≠ .idle := by
    intro hidle
    cases hidle.symm.trans hmode
  simp only [offer, offerEvent]
  rw [if_neg hread]
  cases hrecord : (s.router.filter.record tag.epc.toList tag.rssi now).1 with
  | true =>
      have hthrough : ((s.count fun c => { c with tagsRead := c.tagsRead + 1 }).router.filter.record
          tag.epc.toList tag.rssi now).1 = true := hrecord
      rw [if_pos hthrough, if_pos rfl]
      exact passOn_counts hboard tag now _
  | false =>
      have hback : ((s.count fun c => { c with tagsRead := c.tagsRead + 1 }).router.filter.record
          tag.epc.toList tag.rssi now).1 = false := hrecord
      rw [hback, if_neg Bool.false_ne_true, if_neg Bool.false_ne_true]
      exact ⟨rfl, rfl⟩

/-! ## Inside a call -/

/--
  The runs inside a call to process received bytes that began at `now`, with what happens to the
  tags.  Tags are offered during inventory only.
-/
inductive Offers (board : Board ε) (now : Nat) (s : Station ε) :
    List TagEvent → Station ε → Prop
  | refl : Offers board now s [] s
  | kept {events t u} (h : Offers board now s events t) (htu : t.TagsKept u) :
      Offers board now s events u
  | offer {events t} (h : Offers board now s events t) (tag : Sighting)
      (hmode : t.router.mode = .inventory) :
      Offers board now s (events ++ [t.offerEvent board now tag]) (t.offer board now tag)

/-- Runs inside a call, with whatever has happened to the tags. -/
def OffersTo (board : Board ε) (now : Nat) (s t : Station ε) : Prop :=
  ∃ events, s.Offers board now events t

section

variable {now : Nat} {events new : List TagEvent}

lemma Offers.trans (hst : s.Offers board now events t) (htu : t.Offers board now new u) :
    s.Offers board now (events ++ new) u := by
  induction htu with
  | refl => rwa [List.append_nil]
  | kept _ htu ih => exact ih.kept htu
  | offer _ tag hmode ih =>
      rw [← List.append_assoc]
      exact ih.offer tag hmode

lemma OffersTo.refl (s : Station ε) : s.OffersTo board now s := ⟨[], .refl⟩

lemma OffersTo.trans (hst : s.OffersTo board now t) (htu : t.OffersTo board now u) :
    s.OffersTo board now u := by
  obtain ⟨_, hst⟩ := hst
  obtain ⟨_, htu⟩ := htu
  exact ⟨_, hst.trans htu⟩

lemma TagsKept.offersTo (h : s.TagsKept t) : s.OffersTo board now t := ⟨[], .kept .refl h⟩

lemma OffersTo.of_eq (hfilter : t.router.filter = s.router.filter)
    (hcounts : t.router.tagCounts = s.router.tagCounts) : s.OffersTo board now t :=
  (TagsKept.of_eq hfilter hcounts).offersTo

lemma offersTo_offer (tag : Sighting) (s : Station ε) :
    s.OffersTo board now (s.offer board now tag) := by
  cases hmode : s.router.mode with
  | inventory => exact ⟨_, Offers.refl.offer tag hmode⟩
  | idle =>
      have hidle : (s.count fun c => { c with tagsRead := c.tagsRead + 1 }).router.mode = .idle :=
        hmode
      simp only [offer]
      rw [if_pos hidle]
      exact .of_eq rfl rfl

lemma offersTo_offers (tags : List Sighting) (s : Station ε) :
    s.OffersTo board now (tags.foldl (offer board now) s) := by
  induction tags generalizing s with
  | nil => exact .refl s
  | cons tag rest ih => exact (offersTo_offer tag s).trans (ih _)

lemma offersTo_useContent (content : Content) (s : Station ε) :
    s.OffersTo board now (s.useContent board now content) := by
  cases content with
  | autoUpload tag => exact offersTo_offer tag s
  | inventory report => exact offersTo_offers report.sightings s
  | other _ _ _ => exact .refl s
  | _ => exact .of_eq rfl rfl

variable (hboard : board.CallbacksAre fun s t => t.router = s.router)

include hboard

lemma offersTo_acceptResponse (frame : List UInt8) (response : Response) (s : Station ε) :
    s.OffersTo board now (s.acceptResponse board now frame response) := by
  have htold := tagsKept_tell board (.received frame response) s
  have hkept : s.TagsKept ((answerOf response.head (responsePayload frame)).elim
      (s.tell board (.received frame response))
      (s.tell board (.received frame response)).keepAnswer) := by
    cases answerOf response.head (responsePayload frame) with
    | none => exact htold
    | some answer => exact htold.trans (tagsKept_keepAnswer answer _)
  have hkeeping : s.OffersTo board now _ := hkept.offersTo
  have hused := hkeeping.trans (offersTo_useContent response.content _)
  simp only [acceptResponse]
  split
  · exact hused.trans (tagsKept_followRound hboard now response.head.status _).offersTo
  · exact hused

lemma offersTo_acceptFrame (frame : List UInt8) (s : Station ε) :
    s.OffersTo board now (s.acceptFrame board now frame) := by
  simp only [acceptFrame]
  split
  · exact .of_eq rfl rfl
  · split
    · exact .of_eq rfl rfl
    · have hcounted : s.OffersTo board now
          (s.count fun c => { c with framesReceived := c.framesReceived + 1 }) := .of_eq rfl rfl
      exact hcounted.trans (offersTo_acceptResponse hboard frame _ _)

lemma offersTo_acceptFrames (turns : Nat) (s : Station ε) :
    s.OffersTo board now (s.acceptFrames board now turns).2 := by
  induction turns generalizing s with
  | zero => exact .refl s
  | succ turns ih =>
      have hpulled := tagsKept_pullFrame board now s
      simp only [acceptFrames]
      split <;> rename_i heq <;> rw [heq] at hpulled
      · exact hpulled.offersTo
      · rename_i frame pulled
        have haccepted : s.OffersTo board now (pulled.acceptFrame board now frame) :=
          hpulled.offersTo.trans (offersTo_acceptFrame hboard frame pulled)
        exact (haccepted.trans (tagsKept_performReset _).offersTo).trans (ih _)

/-- **A call to process received bytes offers tags, and otherwise keeps them.** -/
lemma offersTo_process (s : Station ε) : s.OffersTo board (s.now board) (s.process board).2 := by
  simp only [process]
  split
  · exact .refl s
  · split
    · exact .refl s
    · set busy := s.onRouter fun r => { r with busy := true } with hbusy
      have hset : s.TagsKept busy := .of_eq rfl rfl
      have hready : s.TagsKept (busy.discardAfterOverrun board).performReset :=
        (hset.trans (tagsKept_discardAfterOverrun board busy)).trans (tagsKept_performReset _)
      have haccepted : s.OffersTo board (s.now board) _ :=
        hready.offersTo.trans (offersTo_acceptFrames hboard
          ((busy.discardAfterOverrun board).performReset.frameTurns board) _)
      have hkept : s.OffersTo board (s.now board) _ :=
        haccepted.trans (tagsKept_keepSchedule board (s.now board) _).offersTo
      exact hkept.trans (.of_eq rfl rfl)

end

/-! ## The account -/

/--
  Every entry of the filter goes back to an offer, every tag that was held back is backed, and
  nothing has happened to the tags but the events.
-/
structure Accounted (start : TagCounts) (events : List TagEvent) (clock : Nat) (s : Station ε) :
    Prop where
  entries : ∀ entry ∈ s.router.filter.entries,
    (∃ isTaken, TagEvent.OfferedAt events entry.epc entry.lastSentAt isTaken) ∧
      entry.lastSentAt ≤ clock
  backed : TagEvent.Backed events
  tagCounts : s.router.tagCounts = events.foldl TagEvent.count start

section

variable {start : TagCounts} {clock later now : Nat} {events new : List TagEvent}

lemma Accounted.kept (h : s.Accounted start events clock) (hst : s.TagsKept t)
    (hclock : clock ≤ later) : t.Accounted start events later := by
  obtain ⟨window, hfilter⟩ := hst.filter
  refine ⟨?_, h.backed, hst.tagCounts.trans h.tagCounts⟩
  intro entry hentry
  rw [hfilter] at hentry
  obtain ⟨hoffered, hbefore⟩ := h.entries entry hentry
  exact ⟨hoffered, Nat.le_trans hbefore hclock⟩

lemma Accounted.forget (h : s.Accounted start events clock) :
    (s.onRouter Router.forgetTags).Accounted start (events ++ [.forgotten]) clock := by
  refine ⟨nofun, h.backed.concat nofun, ?_⟩
  rw [List.foldl_append]
  exact h.tagCounts

lemma Accounted.recount (h : s.Accounted start events clock) :
    s.resetStatistics.Accounted start (events ++ [.recounted]) clock := by
  refine ⟨?_, h.backed.concat nofun, ?_⟩
  · intro entry hentry
    obtain ⟨⟨isTaken, hoffered⟩, hbefore⟩ := h.entries entry hentry
    exact ⟨⟨isTaken, hoffered.concat nofun⟩, hbefore⟩
  · rw [List.foldl_append]
    rfl

variable (hboard : board.CallbacksAre fun s t => t.router = s.router)

include hboard

/-- **One more tag keeps the account.** -/
lemma Accounted.offer (h : s.Accounted start events now) (tag : Sighting)
    (hmode : s.router.mode = .inventory) :
    (s.offer board now tag).Accounted start (events ++ [s.offerEvent board now tag]) now := by
  obtain ⟨hfilter, hcounts⟩ := offer_counts hboard now tag hmode
  have hepc : (.truncate tag.epc.toList : Epc) = tag.epc := BoundedBytes.truncate_toList tag.epc
  have hevent : s.offerEvent board now tag ≠ .forgotten := by
    simp only [offerEvent]
    split <;> nofun
  refine ⟨?_, h.backed.concat ?_, ?_⟩
  · intro entry hentry
    rw [hfilter] at hentry
    obtain ⟨old, hold, hsame, hsent⟩ | ⟨hthrough, hnew, hsent⟩ :=
      RepeatFilter.mem_entries_record hentry
    · obtain ⟨⟨isTaken, hoffered⟩, hbefore⟩ := h.entries old hold
      rw [hsame, hsent]
      exact ⟨⟨isTaken, hoffered.concat hevent⟩, hbefore⟩
    · rw [hnew, hepc, hsent]
      simp only [offerEvent, hthrough, if_true]
      exact ⟨⟨_, TagEvent.offeredAt_concat⟩, Nat.le_refl now⟩
  · -- the entry that held the tag back tells of the offer behind it
    intro epc time window hback
    cases hrecord : (s.router.filter.record tag.epc.toList tag.rssi now).1 with
    | true => simp [offerEvent, hrecord] at hback
    | false =>
        simp only [offerEvent, hrecord, Bool.false_eq_true, if_false,
          TagEvent.heldBack.injEq] at hback
        obtain ⟨rfl, rfl, rfl⟩ := hback
        obtain ⟨entry, hentry, hsame, hwithin⟩ := RepeatFilter.exists_of_record_eq_false hrecord
        obtain ⟨⟨isTaken, hoffered⟩, hbefore⟩ := h.entries entry hentry
        rw [hsame, hepc] at hoffered
        exact ⟨entry.lastSentAt, isTaken, hoffered, hbefore, by omega⟩
  · rw [hcounts, h.tagCounts, List.foldl_append]
    rfl

lemma Offers.accounted (h : s.Accounted start events now) (hst : s.Offers board now new t) :
    t.Accounted start (events ++ new) now := by
  induction hst with
  | refl => rwa [List.append_nil]
  | kept _ htu ih => exact ih.kept htu (Nat.le_refl now)
  | offer _ tag hmode ih =>
      rw [← List.append_assoc]
      exact ih.offer hboard tag hmode

end

end Station

/-! ## Whole runs -/

/--
  The runs of a station on which the clock does not go back, with what happens to the tags.  Tags
  are offered or held back in calls to process received bytes, all of them at the time when the
  call begins.
-/
inductive TagRuns (board : Board ε) (s : Station ε) : List TagEvent → Station ε → Prop
  | refl : TagRuns board s [] s
  | kept {events t u} (h : TagRuns board s events t) (htu : t.TagsKept u)
      (hclock : t.now board ≤ u.now board) : TagRuns board s events u
  | forget {events t} (h : TagRuns board s events t) :
      TagRuns board s (events ++ [.forgotten]) (t.onRouter Router.forgetTags)
  | recount {events t} (h : TagRuns board s events t) :
      TagRuns board s (events ++ [.recounted]) t.resetStatistics
  | process {events new t} (h : TagRuns board s events t)
      (hoffers : t.Offers board (t.now board) new (t.process board).2)
      (hclock : t.now board ≤ (t.process board).2.now board) :
      TagRuns board s (events ++ new) (t.process board).2

/-- Runs on which the clock does not go back, with whatever has happened to the tags. -/
def Station.RunsTo (board : Board ε) (s t : Station ε) : Prop :=
  ∃ events, TagRuns board s events t

section

open Station

variable {s t u : Station ε} {events new : List TagEvent}

lemma TagRuns.trans (hst : TagRuns board s events t) (htu : TagRuns board t new u) :
    TagRuns board s (events ++ new) u := by
  induction htu with
  | refl => rwa [List.append_nil]
  | kept _ htu hclock ih => exact ih.kept htu hclock
  | forget _ ih =>
      rw [← List.append_assoc]
      exact ih.forget
  | recount _ ih =>
      rw [← List.append_assoc]
      exact ih.recount
  | process _ hoffers hclock ih =>
      rw [← List.append_assoc]
      exact ih.process hoffers hclock

namespace Station

lemma RunsTo.refl (s : Station ε) : s.RunsTo board s := ⟨[], .refl⟩

lemma RunsTo.trans (hst : s.RunsTo board t) (htu : t.RunsTo board u) : s.RunsTo board u := by
  obtain ⟨_, hst⟩ := hst
  obtain ⟨_, htu⟩ := htu
  exact ⟨_, hst.trans htu⟩

lemma TagsKept.runsTo (h : s.TagsKept t) (hclock : s.now board ≤ t.now board) :
    s.RunsTo board t := ⟨[], .kept .refl h hclock⟩

lemma RunsTo.of_eq (hfilter : t.router.filter = s.router.filter)
    (hcounts : t.router.tagCounts = s.router.tagCounts) (hclock : s.now board ≤ t.now board) :
    s.RunsTo board t := (TagsKept.of_eq hfilter hcounts).runsTo hclock

end Station

variable (hboard : board.CallbacksAre fun s t => t.router = s.router)

include hboard

/-- **A run keeps the account.** -/
lemma TagRuns.accounted (hempty : s.router.filter.entries = [])
    (h : TagRuns board s events t) : t.Accounted s.router.tagCounts events (t.now board) := by
  induction h with
  | refl =>
      refine ⟨fun entry hentry => ?_, TagEvent.backed_nil, rfl⟩
      rw [hempty] at hentry
      cases hentry
  | kept _ htu hclock ih => exact ih.kept htu hclock
  | forget _ ih => exact ih.forget
  | recount _ ih => exact ih.recount
  | process _ hoffers hclock ih => exact (hoffers.accounted hboard ih).kept (.refl _) hclock

variable (hforward : board.Forward)

include hforward

namespace Station

/-! ### Everything is such a run -/

omit hboard in
lemma runsTo_tell (remark : Remark) (s : Station ε) : s.RunsTo board (s.tell board remark) :=
  (tagsKept_tell board remark s).runsTo (hforward.ticks.tell remark s)

omit hboard in
lemma runsTo_enterMode (mode : Mode) (s : Station ε) : s.RunsTo board (s.enterMode board mode) :=
  (tagsKept_enterMode board mode s).runsTo (hforward.ticks.touches (touches_enterMode mode s))

omit hboard in
lemma runsTo_sendTo (address : UInt8) (command : Command) (s : Station ε) :
    s.RunsTo board (s.sendTo board address command).2 :=
  (tagsKept_sendTo board address command s).runsTo (hforward.ticks.sendTo address command s)

lemma runsTo_beginSchedule (s : Station ε) : s.RunsTo board (s.beginSchedule board) :=
  (tagsKept_beginSchedule hboard s).runsTo ((moves_beginSchedule s).now_le hforward)

lemma runsTo_process (s : Station ε) : s.RunsTo board (s.process board).2 := by
  obtain ⟨_, hoffers⟩ := offersTo_process hboard s
  exact ⟨_, TagRuns.refl.process hoffers (hforward.ticks.process s)⟩

lemma Chore.runsTo {occasions : List (Occasion ε)} (h : Chore board s occasions t) :
    s.RunsTo board t := by
  cases h with
  | process => exact runsTo_process hboard hforward s
  | tell remark _ => exact runsTo_tell hforward remark s
  | setAddress address => exact .of_eq rfl rfl (Nat.le_refl _)
  | forget answers awaiting _ => exact .of_eq rfl rfl (Nat.le_refl _)
  | sendTo address command => exact runsTo_sendTo hforward address command s
  | wait ms =>
      exact (TagsKept.of_router (hboard.wait ms s)).runsTo (Nat.le_of_lt (hforward.wait ms s))

lemma Steps.runsTo {occasions : List (Occasion ε)} (h : s.ChoresOn board occasions t) :
    s.RunsTo board t := by
  induction h with
  | refl => exact .refl s
  | tail _ hstep ih => exact ih.trans (hstep.runsTo hboard hforward)

lemma runsTo_operation (operation : Operation) (s : Station ε) :
    s.RunsTo board (operation.run board s) := by
  cases operation with
  | start => exact (tagsKept_start s).runsTo (hforward.ticks.touches (touches_start s))
  | stop => exact (tagsKept_stop s).runsTo (hforward.ticks.touches (touches_stop s))
  | process => exact runsTo_process hboard hforward s
  | enterMode mode => exact runsTo_enterMode hforward mode s
  | beginSchedule => exact runsTo_beginSchedule hboard hforward s
  | endSchedule => exact .of_eq rfl rfl (Nat.le_refl _)
  | setConfig config =>
      have hkept : s.TagsKept (s.onRouter (·.setConfig config)) := ⟨⟨_, rfl⟩, rfl⟩
      exact hkept.runsTo (Nat.le_refl _)
  | setDebounceSeconds seconds =>
      have hkept : s.TagsKept (s.onRouter (·.setDebounceSeconds seconds)) := ⟨⟨_, rfl⟩, rfl⟩
      exact hkept.runsTo (Nat.le_refl _)
  | setAddress address => exact .of_eq rfl rfl (Nat.le_refl _)
  | forgetTags => exact ⟨_, TagRuns.refl.forget⟩
  | reportTotals => exact (chores_reportTotals s).runsTo hboard hforward
  | resetStatistics => exact ⟨_, TagRuns.refl.recount⟩
  | takeOverrun => exact .of_eq rfl rfl (Nat.le_refl _)
  | send command => exact runsTo_sendTo hforward _ command s
  | sendRaw code args =>
      show s.RunsTo board (s.sendRaw board code args).2
      simp only [sendRaw]
      split
      · exact .refl s
      · exact runsTo_sendTo hforward _ _ s
  | sendTo address command => exact runsTo_sendTo hforward address command s
  | ask address command timeoutMs =>
      exact (chores_ask address command timeoutMs s).runsTo hboard hforward
  | receive bytes => exact .of_eq rfl rfl (Nat.le_refl _)
  | transmit => exact .of_eq rfl rfl (hforward.ticks.transmit s)

end Station

namespace Session

lemma runsTo_reportRunning (isOn : Bool) (s : Session ε) :
    s.station.RunsTo board (s.reportRunning board isOn).station := by
  simp only [reportRunning]
  split
  · exact .refl s.station
  · exact (TagsKept.of_router (hboard.notifyRunning isOn s.station)).runsTo
      (hforward.notifyRunning isOn s.station)

/-- Before inventory starts, all tags are forgotten. -/
lemma runsTo_startConnected (s : Session ε) :
    s.station.RunsTo board (s.startConnected board).2.station := by
  unfold startConnected
  split
  · exact runsTo_tell hforward _ s.station
  · have hforgot : s.station.RunsTo board (s.station.onRouter Router.forgetTags) :=
      ⟨_, TagRuns.refl.forget⟩
    have hsent := (hforgot.trans (runsTo_enterMode hforward .inventory _)).trans
      (runsTo_sendTo hforward s.address s.station.router.config.strategy.openingCommand _)
    dsimp only
    split <;> rename_i t heq <;> rw [heq] at hsent
    · exact (hsent.trans (runsTo_enterMode hforward .idle t)).trans (runsTo_tell hforward _ _)
    · have hbegun := hsent.trans (runsTo_beginSchedule hboard hforward t)
      have hreported := hbegun.trans (runsTo_reportRunning hboard hforward true
        { s with station := t.beginSchedule board })
      exact hreported.trans (runsTo_tell hforward _ _)

lemma runsTo_startInventory (s : Session ε) :
    s.station.RunsTo board (s.startInventory board).2.station := by
  have hconnected := (chores_connect s).runsTo hboard hforward
  simp only [startInventory]
  split
  · exact runsTo_startConnected hboard hforward s
  · split <;> rename_i heq <;> rw [heq] at hconnected
    · exact hconnected
    · exact hconnected.trans (runsTo_startConnected hboard hforward _)

lemma runsTo_stopInventory (s : Session ε) :
    s.station.RunsTo board (s.stopInventory board).2.station := by
  have hended : s.station.RunsTo board s.station.endSchedule := .of_eq rfl rfl (Nat.le_refl _)
  have hreported := hended.trans
    ((chores_reportTotals s.station.endSchedule).runsTo hboard hforward)
  have hsent := hreported.trans
    (runsTo_sendTo hforward s.address s.station.router.config.strategy.closingCommand _)
  have hidle := (hsent.trans (runsTo_enterMode hforward .idle _)).trans
    (runsTo_reportRunning hboard hforward false { s with station := _ })
  simp only [stopInventory]
  split
  · exact hidle.trans (runsTo_tell hforward _ _)
  · exact hidle.trans (runsTo_tell hforward _ _)

end Session

/-- Whatever is asked of a session, its station runs on. -/
lemma Action.runsTo (action : Action) (s : Session ε) :
    s.station.RunsTo board (action.run board s).station := by
  cases action with
  | onRouter operation => exact runsTo_operation hboard hforward operation s.station
  | connect => exact (Session.chores_connect s).runsTo hboard hforward
  | startInventory => exact Session.runsTo_startInventory hboard hforward s
  | stopInventory => exact Session.runsTo_stopInventory hboard hforward s
  | toggleInventory =>
      show s.station.RunsTo board (s.toggleInventory board).2.station
      simp only [Session.toggleInventory]
      split
      · exact Session.runsTo_stopInventory hboard hforward s
      · exact Session.runsTo_startInventory hboard hforward s
  | command c => exact (Session.chores_command c s).runsTo hboard hforward
  | poll =>
      show s.station.RunsTo board (s.poll board).2.station
      have hprocessed := runsTo_process hboard hforward s.station
      simp only [Session.poll]
      split
      · exact hprocessed
      · exact hprocessed.trans (Session.runsTo_reportRunning hboard hforward _
          { s with station := (s.station.process board).2 })

lemma Session.Runs.runsTo {allowed : Action → Prop} {s t : Session ε}
    (h : s.Runs board allowed (fun e e' => board.now e ≤ board.now e') t) :
    s.station.RunsTo board t.station := by
  induction h with
  | refl => exact .refl s.station
  | tail _ hstep ih =>
      cases hstep with
      | act action _ => exact ih.trans (action.runsTo hboard hforward _)
      | drift e hclock => exact ih.trans (.of_eq rfl rfl hclock)

end

/--
  **A tag is held back only after an offer.**  Take a session whose filter remembers nothing, with
  callbacks that leave the router alone and a clock that does not go back.  Whatever is asked of the
  session in whatever order is a run whose events can be written down.  In every such run

  * before a tag is held back, the same tag was offered to the consumer, less than the window ago
    and since the tags were last forgotten;
  * if the consumer refuses nothing, it was delivered then;
  * the counters say how many tags were held back, how many the consumer has taken, and how many
    it has refused.
-/
theorem heldBack_only_after_offer {s : Session ε}
    (hboard : board.CallbacksAre fun s t => t.router = s.router) (hforward : board.Forward)
    (hempty : s.station.router.filter.entries = []) :
    (∀ t : Session ε,
      s.Runs board (fun _ => True) (fun e e' => board.now e ≤ board.now e') t →
        ∃ events, TagRuns board s.station events t.station) ∧
    ∀ events t, TagRuns board s.station events t →
      TagEvent.Backed events ∧
      ((∀ epc time, .offered epc time false ∉ events) →
        ∀ before epc time window after, events = before ++ .heldBack epc time window :: after →
          ∃ offeredAt, TagEvent.OfferedAt before epc offeredAt true ∧ offeredAt ≤ time ∧
            time < offeredAt + window) ∧
      t.router.tagCounts = events.foldl TagEvent.count s.station.router.tagCounts := by
  refine ⟨fun t hrun => Session.Runs.runsTo hboard hforward hrun, ?_⟩
  intro events t hrun
  have haccounted := hrun.accounted hboard hempty
  exact ⟨haccounted.backed, fun htaken _ _ _ _ _ => haccounted.backed.delivered htaken,
    haccounted.tagCounts⟩

/-! ## A consumer that refuses -/

/-- A clock, and how many tags the consumer is still going to refuse. -/
structure Counterpart where
  time : Nat
  refusals : Nat
deriving DecidableEq

/-- A board whose consumer refuses the first tags; time passes while somebody waits. -/
def Board.refusing : Board Counterpart :=
  { Board.still 0 { rfPower := 0, address := 0, antenna := 0 } with
    now := Counterpart.time
    deliver := fun _ s =>
      if s.surroundings.refusals = 0 then (.ok (), s)
      else (.error .busy,
        { s with surroundings := { s.surroundings with refusals := s.surroundings.refusals - 1 } })
    wait := fun ms s =>
      { s with surroundings := { s.surroundings with time := s.surroundings.time + ms + 1 } } }

lemma Board.callbacks_refusing : Board.refusing.CallbacksAre fun s t => t.router = s.router where
  deliver text s := by
    simp only [Board.refusing]
    split <;> rfl
  notifyRead _ := rfl
  notifyError _ _ := rfl
  notifyRunning _ _ := rfl
  wait _ _ := rfl

lemma Board.forward_refusing : Board.refusing.Forward where
  write _ _ := Nat.le_refl _
  emit _ _ := Nat.le_refl _
  interrupts _ := Nat.le_refl _
  deliver text s := by
    simp only [Board.refusing, Station.now]
    split <;> exact Nat.le_refl _
  notifyRead _ := Nat.le_refl _
  notifyError _ _ := Nat.le_refl _
  notifyRunning _ _ := Nat.le_refl _
  wait ms s := by
    simp only [Board.refusing, Station.now]
    omega

/-- A new session whose consumer refuses one tag. -/
def refusedStart : Session Counterpart :=
  .unconnected .refusing (.fresh .standard { time := 0, refusals := 1 })

/-- The frame of a single tag that the reader sends on its own. -/
def singleTagFrame : List UInt8 := Frame.ofBody [0x00, 0xEE, 0x00, 0x01, 0x02, 0xAA, 0xBB, 0x50]

/-- During inventory one tag is read twice. -/
def twiceReadActions : List Action :=
  [.onRouter .start, .onRouter (.enterMode .inventory), .onRouter (.receive singleTagFrame),
    .onRouter .process, .onRouter (.receive singleTagFrame), .onRouter .process]

/-- The second read is held back for the sake of the first, which was refused. -/
theorem heldBack_only_after_offer_refused :
    let t := twiceReadActions.foldl (fun s action => action.run .refusing s) refusedStart
    ∃ events, TagRuns .refusing refusedStart.station events t.station ∧ TagEvent.Backed events ∧
      events.foldl TagEvent.count refusedStart.station.router.tagCounts =
        { heldBack := 1, passedOn := 0, undelivered := 1 } := by
  intro t
  obtain ⟨hruns, hall⟩ := heldBack_only_after_offer (s := refusedStart) Board.callbacks_refusing
    Board.forward_refusing rfl
  obtain ⟨events, hevents⟩ := hruns t
    (Session.runs_foldl twiceReadActions (fun _ _ => trivial) refusedStart)
  obtain ⟨hbacked, -, hcounts⟩ := hall events t.station hevents
  refine ⟨events, hevents, hbacked, ?_⟩
  rw [← hcounts]
  decide +kernel

/--
  **A tag can be held back that was never delivered.**  The consumer refuses the only tag that is
  offered to it, and the next read of this tag is held back all the same.
-/
theorem heldBack_without_delivery :
    let t := twiceReadActions.foldl (fun s action => action.run .refusing s) refusedStart
    (Board.refusing.CallbacksAre fun s t => t.router = s.router) ∧ Board.refusing.Forward ∧
      refusedStart.Runs .refusing (fun _ => True)
        (fun e e' => Board.refusing.now e ≤ Board.refusing.now e') t ∧
      t.station.router.tagCounts = { heldBack := 1, passedOn := 0, undelivered := 1 } := by
  intro t
  refine ⟨Board.callbacks_refusing, Board.forward_refusing,
    Session.runs_foldl twiceReadActions (fun _ _ => trivial) refusedStart, ?_⟩
  decide +kernel

end RfidLink
