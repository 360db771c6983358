import Mathlib.Algebra.GroupWithZero.Nat
import Mathlib.Data.Finset.Card
import RfidLink.Proofs.RecentTags

/-!
# Tags are let through a window apart

As long as no tag loses its place, a filter is as good as one without a bound.  It is 32 tags that
have a place: with one more the filter forgets a tag, and lets it through too soon.

* `Unbounded` is a filter that forgets nothing.  It keeps no counts and no table, but when every tag
  was let through last.
* `Mirrors` ties a table to it.  A tag that is read again has an entry and a tag that is new finds
  room (`Mirrors.record_old`, `Mirrors.record_new`).
* `Spaced` is what the unbounded filter guarantees while its window stays the same and the clock does
  not go back.
* **`answers_eq_unbounded`** puts the two together for whole runs.
-/

namespace RfidLink.RepeatFilter

/-! ## A filter without a bound -/

/-- A filter that remembers of every tag when it was let through last. -/
structure Unbounded where
  lastSent : Epc → Option Nat
  window : Nat
  /-- What it has said, read by read, in the order of the reads. -/
  answers : List Bool

namespace Unbounded

def begin (window : Nat) : Unbounded := { lastSent := fun _ => none, window, answers := [] }

/-- A tag is let through when it is read first, and when the window has passed since. -/
def letsThrough (m : Unbounded) (epc : Epc) (now : Nat) : Bool :=
  match m.lastSent epc with
  | none => true
  | some last => m.window ≤ now - last

/-- Let a tag through, or hold it back. -/
def answer (m : Unbounded) (epc : Epc) (now : Nat) : Unbounded :=
  let isLetThrough := m.letsThrough epc now
  { m with
    lastSent := if isLetThrough then Function.update m.lastSent epc (some now) else m.lastSent
    answers := m.answers ++ [isLetThrough] }

def after (m : Unbounded) : Step → Unbounded
  | .record bytes _ now => m.answer (.truncate bytes) now
  | .clear => { m with lastSent := fun _ => none }
  | .setWindowMs windowMs => { m with window := windowMs.toNat }
  | .setWindowSeconds seconds => { m with window := seconds.toNat * 1000 }

def run (steps : List Step) (m : Unbounded) : Unbounded := steps.foldl after m

lemma run_concat (steps : List Step) (step : Step) (m : Unbounded) :
    m.run (steps ++ [step]) = (m.run steps).after step := by
  rw [run, List.foldl_append]
  rfl

end Unbounded

/-- The window that a step sets. -/
def Step.window? : Step → Option Nat
  | .setWindowMs windowMs => some windowMs.toNat
  | .setWindowSeconds seconds => some (seconds.toNat * 1000)
  | .record .. | .clear => none

/-- A filter that was just made, or just cleared. -/
def IsFresh (filter : RepeatFilter) : Prop :=
  (∃ windowMs, filter = withWindow windowMs) ∨ ∃ before : RepeatFilter, filter = before.clear

lemma Watched.run_concat (steps : List Step) (step : Step) (w : Watched) :
    w.run (steps ++ [step]) = (w.run steps).after step := by
  rw [run, List.foldl_append]
  rfl

/-- Only a step that clears the filter forgets a read. -/
lemma Watched.prefix_reads_after {step : Step} (h : step ≠ .clear) (w : Watched) :
    w.reads <+: (w.after step).reads := by
  cases step with
  | record bytes rssi now => exact List.prefix_append _ _
  | clear => exact absurd rfl h
  | setWindowMs windowMs => exact List.prefix_rfl
  | setWindowSeconds seconds => exact List.prefix_rfl

/-- So the tags that are read become no fewer. -/
lemma Watched.card_tags_le {step : Step} (h : step ≠ .clear) (w : Watched) :
    (w.reads.map (·.epc)).toFinset.card ≤ ((w.after step).reads.map (·.epc)).toFinset.card := by
  refine Finset.card_le_card ?_
  intro epc hepc
  rw [List.mem_toFinset] at hepc ⊢
  exact ((w.prefix_reads_after h).map _).subset hepc

/-! ## The table -/

variable {entries : List TagHistory} {epc : Epc}

/-- The entry that is found for a tag, after that of one tag has changed. -/
lemma find?_change {f : TagHistory → TagHistory} (hf : ∀ entry, (f entry).epc = entry.epc)
    (epc other : Epc) (entries : List TagHistory) :
    (change epc f entries).find? (·.epc = other) =
      if other = epc then (entries.find? (·.epc = epc)).map f
      else entries.find? (·.epc = other) := by
  induction entries with
  | nil => simp [change]
  | cons entry rest ih =>
      by_cases hsame : entry.epc = epc
      · by_cases hother : other = epc
        · simp [change, hother, hsame, hf]
        · have hne : entry.epc ≠ other := fun heq => hother (heq.symm.trans hsame)
          simp [change, hsame, hother, hf, Ne.symm hother]
      · by_cases hother : other = epc
        · subst hother
          simpa [change, hsame] using ih
        · by_cases hfound : entry.epc = other
          · simp [change, hother, hfound]
          · simpa [change, hsame, hother, hfound] using ih

/-- One more on both sides, where all that is beyond a bound is the same. -/
lemma min_succ_congr {a b most : Nat} (h : min a most = min b most) :
    min (a + 1) most = min (b + 1) most := by
  omega

/-- The reads that a table has counted. -/
def readsCounted (entries : List TagHistory) : Nat := (entries.map (·.readCount.toNat)).sum

lemma toNat_foldl_saturatingAdd (counts : List UInt32) (start : UInt32) :
    (counts.foldl saturatingAdd start).toNat =
      min (start.toNat + (counts.map (·.toNat)).sum) (UInt32.size - 1) := by
  induction counts generalizing start with
  | nil =>
      have hbound : start.toNat < UInt32.size := start.toNat_lt
      rw [List.foldl_nil, List.map_nil, List.sum_nil]
      omega
  | cons count rest ih =>
      rw [List.foldl_cons, ih, toNat_saturatingAdd, List.map_cons, List.sum_cons]
      omega

lemma toNat_totalReads (filter : RepeatFilter) :
    filter.totals.totalReads.toNat = min (readsCounted filter.entries) (UInt32.size - 1) := by
  have hzero : (0 : UInt32).toNat = 0 := rfl
  rw [totals, toNat_foldl_saturatingAdd, List.map_map, hzero, Nat.zero_add]
  rfl

/-- One more read of a tag counts one, unless the total is at its largest value already. -/
lemma readsCounted_change (window : Nat) (rssi : UInt8) (now : Nat)
    (h : epc ∈ entries.map (·.epc)) :
    min (readsCounted (change epc (·.again window rssi now) entries)) (UInt32.size - 1) =
      min (readsCounted entries + 1) (UInt32.size - 1) := by
  induction entries with
  | nil => cases h
  | cons entry rest ih =>
      by_cases hsame : entry.epc = epc
      · have hone : (1 : UInt32).toNat = 1 := rfl
        simp only [change, if_pos hsame, readsCounted, List.map_cons, List.sum_cons, TagHistory.again,
          toNat_saturatingAdd, hone]
        omega
      · have hrest : epc ∈ rest.map (·.epc) := by
          rw [List.map_cons, List.mem_cons] at h
          exact h.resolve_left (Ne.symm hsame)
        have ih := ih hrest
        simp only [change, if_neg hsame, readsCounted, List.map_cons, List.sum_cons] at ih ⊢
        omega

/-! ## The two side by side -/

/--
  A filter that has forgotten no tag, beside one that forgets none.  Both give the same answers, and
  the totals are those of all reads.
-/
structure Mirrors (w : Watched) (m : Unbounded) : Prop where
  window : m.window = w.filter.window
  answers : m.answers = w.reads.map (·.isLetThrough)
  lastSent : ∀ epc, m.lastSent epc = (w.filter.entries.find? (·.epc = epc)).map (·.lastSentAt)
  tags : (w.filter.entries.map (·.epc)).toFinset = (w.reads.map (·.epc)).toFinset
  counted : min (readsCounted w.filter.entries) (UInt32.size - 1) =
    min w.reads.length (UInt32.size - 1)

variable {w : Watched} {m : Unbounded} {bytes : List UInt8} {rssi : UInt8} {now : Nat}

lemma IsFresh.mirrors (h : w.filter.IsFresh) (hreads : w.reads = []) :
    Mirrors w (.begin w.filter.window) := by
  have hentries : w.filter.entries = [] := by
    rcases h with ⟨windowMs, h⟩ | ⟨before, h⟩ <;> rw [h] <;> rfl
  constructor
  · rfl
  · rw [hreads]
    rfl
  · intro epc
    rw [hentries]
    rfl
  · rw [hentries, hreads]
    rfl
  · rw [hentries, hreads]
    rfl

/-- An entry that is found says when the tag was let through last, and so does the other filter. -/
lemma Mirrors.record_old (h : Mirrors w m) {entry : TagHistory}
    (hfind : w.filter.entries.find? (·.epc = .truncate bytes) = some entry) :
    Mirrors (w.after (.record bytes rssi now)) (m.after (.record bytes rssi now)) := by
  set epc : Epc := .truncate bytes with hepc
  have hlast : m.lastSent epc = some entry.lastSentAt := by
    rw [h.lastSent epc, hfind]
    rfl
  have hpasses : m.letsThrough epc now = !entry.isHeldBack w.filter.window now := by
    simp only [Unbounded.letsThrough, hlast, TagHistory.isHeldBack, h.window, ← decide_not,
      Nat.not_lt]
  have hthrough : (w.filter.readOf bytes rssi now).isLetThrough = m.letsThrough epc now := by
    simp only [readOf, record, ← hepc, hfind, hpasses]
  have hentries : (w.after (.record bytes rssi now)).filter.entries =
      change epc (·.again w.filter.window rssi now) w.filter.entries := by
    simp only [Watched.after, record, ← hepc, hfind]
  have hwindow : (w.after (.record bytes rssi now)).filter.window = w.filter.window := by
    simp only [Watched.after, record, ← hepc, hfind]
  have hmem : epc ∈ w.filter.entries.map (·.epc) := by
    have hfound : entry.epc = epc := by simpa using List.find?_some hfind
    exact List.mem_map.mpr ⟨entry, List.mem_of_find?_eq_some hfind, hfound⟩
  constructor
  · rw [hwindow]
    exact h.window
  · simp only [Unbounded.after, Unbounded.answer, Watched.after, List.map_append,
      List.map_singleton, h.answers, hthrough, ← hepc]
  · intro other
    have hfound := find?_change (f := (·.again w.filter.window rssi now)) (fun _ => rfl) epc other
      w.filter.entries
    rw [hentries, hfound, hfind]
    by_cases hother : other = epc
    · rw [if_pos hother, hother]
      cases hback : entry.isHeldBack w.filter.window now with
      | true =>
          simp [Unbounded.after, Unbounded.answer, ← hepc, hpasses, hback, hlast, TagHistory.again]
      | false => simp [Unbounded.after, Unbounded.answer, ← hepc, hpasses, hback, TagHistory.again]
    · rw [if_neg hother, ← h.lastSent other]
      cases hback : entry.isHeldBack w.filter.window now with
      | true => simp [Unbounded.after, Unbounded.answer, ← hepc, hpasses, hback]
      | false =>
          simp [Unbounded.after, Unbounded.answer, ← hepc, hpasses, hback,
            Function.update_of_ne hother]
  · have hepcs := map_epc_change (f := (·.again w.filter.window rssi now)) (fun _ => rfl) epc
      w.filter.entries
    rw [hentries, hepcs, h.tags]
    have hread : epc ∈ (w.reads.map (·.epc)).toFinset := by
      rw [← h.tags, List.mem_toFinset]
      exact hmem
    simp only [Watched.after, List.map_append, List.toFinset_append, List.map_singleton,
      List.toFinset_cons, List.toFinset_nil, insert_empty_eq]
    rw [Finset.union_eq_left.mpr]
    rwa [Finset.singleton_subset_iff]
  · have hlength : (w.after (.record bytes rssi now)).reads.length = w.reads.length + 1 :=
      List.length_append
    rw [hentries, readsCounted_change w.filter.window rssi now hmem, hlength]
    exact min_succ_congr h.counted

/-- A tag that has no entry was never read, and takes a place that was free. -/
lemma Mirrors.record_new (h : Mirrors w m)
    (hfind : w.filter.entries.find? (·.epc = .truncate bytes) = none)
    (hroom : w.filter.entries.length < capacity) :
    Mirrors (w.after (.record bytes rssi now)) (m.after (.record bytes rssi now)) := by
  set epc : Epc := .truncate bytes with hepc
  have hlast : m.lastSent epc = none := by
    rw [h.lastSent epc, hfind]
    rfl
  have hpasses : m.letsThrough epc now = true := by
    simp only [Unbounded.letsThrough, hlast]
  have hthrough : (w.filter.readOf bytes rssi now).isLetThrough = true := by
    simp only [readOf, record, ← hepc, hfind]
  have hentries : (w.after (.record bytes rssi now)).filter.entries =
      w.filter.entries ++ [.first epc rssi now] := by
    simp only [Watched.after, record, ← hepc, hfind, insert, Nat.not_le_of_lt hroom, if_false]
  have hwindow : (w.after (.record bytes rssi now)).filter.window = w.filter.window := by
    simp only [Watched.after, record, ← hepc, hfind, insert]
  constructor
  · rw [hwindow]
    exact h.window
  · simp only [Unbounded.after, Unbounded.answer, Watched.after, List.map_append,
      List.map_singleton, h.answers, hthrough, ← hepc, hpasses]
  · intro other
    rw [hentries, List.find?_append]
    by_cases hother : other = epc
    · rw [hother, hfind]
      simp [Unbounded.after, Unbounded.answer, ← hepc, hpasses, TagHistory.first]
    · have hfirst : (TagHistory.first epc rssi now).epc ≠ other := fun heq => hother heq.symm
      simp [Unbounded.after, Unbounded.answer, ← hepc, hpasses, Function.update_of_ne hother,
        h.lastSent other, hfirst]
  · rw [hentries, List.map_append, List.toFinset_append, h.tags]
    simp only [Watched.after, List.map_append, List.toFinset_append]
    rfl
  · have hsum : readsCounted (w.filter.entries ++ [.first epc rssi now]) =
        readsCounted w.filter.entries + 1 := by
      rw [readsCounted, List.map_append, List.sum_append, List.map_singleton, List.sum_singleton]
      rfl
    have hlength : (w.after (.record bytes rssi now)).reads.length = w.reads.length + 1 :=
      List.length_append
    rw [hentries, hsum, hlength]
    exact min_succ_congr h.counted

/-- The number of tags that a table holds is the number of tags that were read. -/
lemma Mirrors.length_entries (h : Mirrors w m) (hdistinct : (w.filter.entries.map (·.epc)).Nodup) :
    w.filter.entries.length = (w.reads.map (·.epc)).toFinset.card := by
  rw [← h.tags, List.toFinset_card_of_nodup hdistinct, List.length_map]

/-- **What one step does.**  Room for all tags that are read is room for every new one. -/
theorem Mirrors.after (h : Mirrors w m) (hremembers : Remembers w.reads w.filter) {step : Step}
    (hclear : step ≠ .clear)
    (hfew : ((w.after step).reads.map (·.epc)).toFinset.card ≤ capacity) :
    Mirrors (w.after step) (m.after step) := by
  cases step with
  | record bytes rssi now =>
      cases hfind : w.filter.entries.find? (·.epc = .truncate bytes) with
      | some entry => exact h.record_old hfind
      | none =>
          have hdistinct : (w.filter.entries.map (·.epc)).Nodup :=
            (w.filter.inOrder_perm.map _).nodup_iff.mp hremembers.distinct
          have hnew : BoundedBytes.truncate bytes ∉ (w.reads.map (·.epc)).toFinset := by
            rw [← h.tags, List.mem_toFinset, List.mem_map]
            rintro ⟨entry, hentry, hepc⟩
            simpa [hepc] using List.find?_eq_none.mp hfind entry hentry
          have hmore : ((w.after (.record bytes rssi now)).reads.map (·.epc)).toFinset =
              (w.reads.map (·.epc)).toFinset ∪ {.truncate bytes} := by
            simp only [Watched.after, readOf, List.map_append, List.toFinset_append,
              List.map_singleton]
            rfl
          rw [hmore, Finset.card_union_of_disjoint (Finset.disjoint_singleton_right.mpr hnew),
            Finset.card_singleton, ← h.length_entries hdistinct] at hfew
          exact h.record_new hfind hfew
  | clear => exact absurd rfl hclear
  | setWindowMs windowMs => exact ⟨rfl, h.answers, h.lastSent, h.tags, h.counted⟩
  | setWindowSeconds seconds => exact ⟨rfl, h.answers, h.lastSent, h.tags, h.counted⟩

/-! ## The times between reads -/

/-- Of one tag no two reads are let through less than a window apart. -/
def AreApart (window : Nat) (reads : List TagRead) : Prop :=
  (reads.filter (·.isLetThrough)).Pairwise fun a b => a.epc = b.epc → a.now + window ≤ b.now

/-- A read is held back less than a window after one of the same tag that was let through. -/
def AreHeldBackWithin (window : Nat) (reads : List TagRead) : Prop :=
  ∀ before read after, reads = before ++ read :: after → read.isLetThrough = false →
    ∃ sent ∈ before, sent.isLetThrough = true ∧ sent.epc = read.epc ∧
      read.now < sent.now + window

/-- What is true of the reads that a filter without a bound has answered, while time went on. -/
structure Spaced (window : Nat) (reads : List TagRead) (m : Unbounded) : Prop where
  window_eq : m.window = window
  sent : ∀ epc last, m.lastSent epc = some last →
    ∃ read ∈ reads, read.isLetThrough = true ∧ read.epc = epc ∧ read.now = last
  latest : ∀ read ∈ reads, read.isLetThrough = true →
    ∃ last, m.lastSent read.epc = some last ∧ read.now ≤ last
  apart : AreApart window reads
  heldBack : AreHeldBackWithin window reads

lemma spaced_nil (window : Nat) : Spaced window [] (.begin window) where
  window_eq := rfl
  sent := fun _ _ h => nomatch h
  latest := fun _ h => nomatch h
  apart := List.Pairwise.nil
  heldBack := fun before _ _ h => by cases before <;> cases h

section
variable {window : Nat} {reads : List TagRead} {read : TagRead}

lemma AreApart.concat (h : AreApart window reads)
    (hread : read.isLetThrough = true → ∀ sent ∈ reads, sent.isLetThrough = true →
      sent.epc = read.epc → sent.now + window ≤ read.now) : AreApart window (reads ++ [read]) := by
  rw [AreApart, List.filter_append, List.pairwise_append]
  refine ⟨h, ?_, ?_⟩
  · exact (List.pairwise_singleton _ read).filter _
  · intro sent hsent last hlast
    rw [List.mem_filter, List.mem_singleton] at hlast
    obtain ⟨rfl, hthrough⟩ := hlast
    rw [List.mem_filter] at hsent
    exact hread hthrough sent hsent.1 hsent.2

lemma AreHeldBackWithin.concat (h : AreHeldBackWithin window reads)
    (hread : read.isLetThrough = false → ∃ sent ∈ reads, sent.isLetThrough = true ∧
      sent.epc = read.epc ∧ read.now < sent.now + window) :
    AreHeldBackWithin window (reads ++ [read]) := by
  intro before last after hsplit hback
  rcases List.eq_nil_or_concat' after with rfl | ⟨after, final, rfl⟩
  · obtain ⟨rfl, hlast⟩ := List.append_inj' hsplit rfl
    obtain rfl : read = last := List.singleton_inj.mp hlast
    exact hread hback
  · rw [← List.cons_append, ← List.append_assoc] at hsplit
    exact h before last after (List.append_inj' hsplit rfl).1 hback

/-- A tag that is let through was let through before, if it was, a window ago. -/
lemma Spaced.answer_through (h : Spaced window reads m) (hthrough : read.isLetThrough = true)
    (hanswer : m.letsThrough read.epc read.now = true)
    (hlater : ∀ earlier ∈ reads, earlier.now ≤ read.now) :
    Spaced window (reads ++ [read]) (m.answer read.epc read.now) := by
  have hupdate : (m.answer read.epc read.now).lastSent =
      Function.update m.lastSent read.epc (some read.now) := by
    simp only [Unbounded.answer, hanswer, if_true]
  refine ⟨h.window_eq, ?_, ?_, ?_, ?_⟩
  · intro epc last hlast
    rw [hupdate] at hlast
    by_cases hepc : epc = read.epc
    · rw [hepc, Function.update_self, Option.some.injEq] at hlast
      exact ⟨read, List.mem_concat_self, hthrough, hepc.symm, hlast⟩
    · rw [Function.update_of_ne hepc] at hlast
      obtain ⟨sent, hmem, hsent⟩ := h.sent epc last hlast
      exact ⟨sent, List.mem_append_left _ hmem, hsent⟩
  · intro sent hsent hsentThrough
    rw [hupdate]
    rcases List.mem_append.mp hsent with hold | hnew
    · by_cases hepc : sent.epc = read.epc
      · rw [hepc, Function.update_self]
        exact ⟨read.now, rfl, hlater sent hold⟩
      · rw [Function.update_of_ne hepc]
        exact h.latest sent hold hsentThrough
    · rw [List.mem_singleton.mp hnew, Function.update_self]
      exact ⟨read.now, rfl, Nat.le_refl _⟩
  · refine h.apart.concat ?_
    intro _ sent hsent hsentThrough hepc
    obtain ⟨last, hlast, hle⟩ := h.latest sent hsent hsentThrough
    rw [hepc] at hlast
    have hpassed : m.window ≤ read.now - last := by
      simpa [Unbounded.letsThrough, hlast] using hanswer
    have hwindow := h.window_eq
    have := hlater sent hsent
    omega
  · refine h.heldBack.concat ?_
    intro hback
    rw [hthrough] at hback
    cases hback

/-- A tag that is held back was let through less than a window ago, and nothing changes. -/
lemma Spaced.answer_back (h : Spaced window reads m) (hback : read.isLetThrough = false)
    (hanswer : m.letsThrough read.epc read.now = false) :
    Spaced window (reads ++ [read]) (m.answer read.epc read.now) := by
  have hsame : (m.answer read.epc read.now).lastSent = m.lastSent := by
    simp [Unbounded.answer, hanswer]
  refine ⟨h.window_eq, ?_, ?_, ?_, ?_⟩
  · intro epc last hlast
    rw [hsame] at hlast
    obtain ⟨sent, hmem, hsent⟩ := h.sent epc last hlast
    exact ⟨sent, List.mem_append_left _ hmem, hsent⟩
  · intro sent hsent hsentThrough
    rw [hsame]
    rcases List.mem_append.mp hsent with hold | hnew
    · exact h.latest sent hold hsentThrough
    · rw [List.mem_singleton.mp hnew, hback] at hsentThrough
      cases hsentThrough
  · refine h.apart.concat ?_
    intro hlet
    rw [hback] at hlet
    cases hlet
  · refine h.heldBack.concat ?_
    intro _
    cases hlast : m.lastSent read.epc with
    | none => simp [Unbounded.letsThrough, hlast] at hanswer
    | some last =>
        obtain ⟨sent, hmem, hsent, hepc, hnow⟩ := h.sent read.epc last hlast
        have hshort : read.now - last < m.window := by
          simpa [Unbounded.letsThrough, hlast] using hanswer
        refine ⟨sent, hmem, hsent, hepc, ?_⟩
        rw [hnow, ← h.window_eq]
        omega

/-- **What one read does.**  The tag was let through last at the latest of the times it was. -/
theorem Spaced.answer (h : Spaced window reads m)
    (hanswer : read.isLetThrough = m.letsThrough read.epc read.now)
    (hlater : ∀ earlier ∈ reads, earlier.now ≤ read.now) :
    Spaced window (reads ++ [read]) (m.answer read.epc read.now) := by
  cases hthrough : read.isLetThrough with
  | true => exact h.answer_through hthrough (hanswer.symm.trans hthrough) hlater
  | false => exact h.answer_back hthrough (hanswer.symm.trans hthrough)

end

/-! ## Whole runs -/

variable {start : RepeatFilter}

lemma IsFresh.remembers (h : start.IsFresh) : Remembers [] start := by
  rcases h with ⟨windowMs, rfl⟩ | ⟨before, rfl⟩
  · exact remembers_nil windowMs.toNat
  · exact remembers_nil before.window

/-- As long as there is room for all tags, the filter and the one without a bound stay in step. -/
theorem mirrors_run (hfresh : start.IsFresh) {steps : List Step} (hclear : Step.clear ∉ steps)
    (hfew : (((Watched.begin start).run steps).reads.map (·.epc)).toFinset.card ≤ capacity) :
    Mirrors ((Watched.begin start).run steps) ((Unbounded.begin start.window).run steps) := by
  induction steps using List.reverseRecOn with
  | nil => exact IsFresh.mirrors (w := .begin start) hfresh rfl
  | append_singleton steps step ih =>
      rw [List.mem_append, List.mem_singleton, not_or] at hclear
      have hstep : step ≠ .clear := Ne.symm hclear.2
      rw [Watched.run_concat] at hfew
      rw [Watched.run_concat, Unbounded.run_concat]
      have hbefore := ih hclear.1 ((Watched.card_tags_le hstep _).trans hfew)
      exact hbefore.after (Watched.remembers_run hfresh.remembers steps) hstep hfew

/-- One more step, while the window stays the same and the clock does not go back. -/
lemma Spaced.after {window : Nat} {step : Step} (h : Spaced window w.reads m)
    (hbefore : Mirrors w m) (hafter : Mirrors (w.after step) (m.after step))
    (hclear : step ≠ .clear) (hwindow : ∀ other, step.window? = some other → other = window)
    (htimes : (w.after step).reads.Pairwise fun a b => a.now ≤ b.now) :
    Spaced window (w.after step).reads (m.after step) := by
  cases step with
  | record bytes rssi now =>
      have hanswer : (w.filter.readOf bytes rssi now).isLetThrough =
          m.letsThrough (.truncate bytes) now := by
        have hanswers := hafter.answers
        simp only [Unbounded.after, Unbounded.answer, Watched.after, List.map_append,
          List.map_singleton, hbefore.answers, List.append_cancel_left_eq,
          List.singleton_inj] at hanswers
        exact hanswers.symm
      have hlater : ∀ earlier ∈ w.reads, earlier.now ≤ now := by
        intro earlier hearlier
        exact (List.pairwise_append.mp htimes).2.2 earlier hearlier _ (List.mem_singleton_self _)
      have hread : Spaced window (w.reads ++ [w.filter.readOf bytes rssi now])
          (m.answer (.truncate bytes) now) := h.answer hanswer hlater
      exact hread
  | clear => exact absurd rfl hclear
  | setWindowMs windowMs => exact ⟨hwindow _ rfl, h.sent, h.latest, h.apart, h.heldBack⟩
  | setWindowSeconds seconds => exact ⟨hwindow _ rfl, h.sent, h.latest, h.apart, h.heldBack⟩

lemma spaced_run (hfresh : start.IsFresh) {steps : List Step} (hclear : Step.clear ∉ steps)
    (hfew : (((Watched.begin start).run steps).reads.map (·.epc)).toFinset.card ≤ capacity)
    (hwindow : ∀ window ∈ steps.filterMap Step.window?, window = start.window)
    (htimes : ((Watched.begin start).run steps).reads.Pairwise fun a b => a.now ≤ b.now) :
    Spaced start.window ((Watched.begin start).run steps).reads
      ((Unbounded.begin start.window).run steps) := by
  induction steps using List.reverseRecOn with
  | nil => exact spaced_nil start.window
  | append_singleton steps step ih =>
      have hafter := mirrors_run hfresh hclear hfew
      rw [List.mem_append, List.mem_singleton, not_or] at hclear
      have hstep : step ≠ .clear := Ne.symm hclear.2
      rw [Watched.run_concat] at hfew htimes
      rw [Watched.run_concat, Unbounded.run_concat] at hafter ⊢
      have hfew' := (Watched.card_tags_le hstep _).trans hfew
      rw [List.filterMap_append] at hwindow
      have hwindow' := fun window hmem => hwindow window (List.mem_append_left _ hmem)
      have hlast : ∀ window, step.window? = some window → window = start.window := by
        intro window hset
        refine hwindow window (List.mem_append_right _ ?_)
        exact List.mem_filterMap.mpr ⟨step, List.mem_singleton_self step, hset⟩
      have htimes' := htimes.sublist (Watched.prefix_reads_after hstep _).sublist
      exact (ih hclear.1 hfew' hwindow' htimes').after (mirrors_run hfresh hclear.1 hfew') hafter
        hstep hlast htimes

/--
  **A filter is as good as one without a bound** as long as no more than 32 tags are read.  From a
  filter that was just made or just cleared, whatever is read and however the window is set, its
  answers are those of the unbounded filter, and its totals are the number of tags and the number of
  reads.  If the window stays the same and the clock does not go back, then no two reads of one tag
  are let through less than a window apart, and a read is held back only if one of the same tag was
  let through less than a window before it.
-/
theorem answers_eq_unbounded (hfresh : start.IsFresh) {steps : List Step}
    (hclear : Step.clear ∉ steps)
    (hfew : (((Watched.begin start).run steps).reads.map (·.epc)).toFinset.card ≤ capacity) :
    let w := (Watched.begin start).run steps
    w.reads.map (·.isLetThrough) = ((Unbounded.begin start.window).run steps).answers ∧
      w.filter.totals.uniqueTags = (w.reads.map (·.epc)).toFinset.card ∧
      w.filter.totals.totalReads.toNat = min w.reads.length (UInt32.size - 1) ∧
      ((∀ window ∈ steps.filterMap Step.window?, window = start.window) →
        (w.reads.Pairwise fun a b => a.now ≤ b.now) →
          AreApart start.window w.reads ∧ AreHeldBackWithin start.window w.reads) := by
  intro w
  have hmirrors := mirrors_run hfresh hclear hfew
  have hremembers : Remembers w.reads w.filter :=
    Watched.remembers_run (w := .begin start) hfresh.remembers steps
  have hdistinct : (w.filter.entries.map (·.epc)).Nodup :=
    (w.filter.inOrder_perm.map _).nodup_iff.mp hremembers.distinct
  refine ⟨hmirrors.answers.symm, hmirrors.length_entries hdistinct, ?_, ?_⟩
  · rw [toNat_totalReads]
    exact hmirrors.counted
  · intro hwindow htimes
    have hspaced := spaced_run hfresh hclear hfew hwindow htimes
    exact ⟨hspaced.apart, hspaced.heldBack⟩

/-- Two tags by turns: either is held back when it comes a millisecond too soon. -/
theorem answers_eq_unbounded_turns :
    let steps : List Step := [.record [1] 50 0, .record [2] 60 400, .record [1] 40 999,
      .setWindowMs 1000, .record [1] 70 1000, .record [2] 60 1399, .record [2] 60 1400]
    let w := (Watched.begin (withWindow 1000)).run steps
    w.reads.map (·.isLetThrough) = [true, true, false, true, false, true] ∧
      w.filter.totals = { uniqueTags := 2, totalReads := 6 } ∧
      AreApart 1000 w.reads ∧ AreHeldBackWithin 1000 w.reads := by
  intro steps w
  have hfresh : (withWindow 1000).IsFresh := .inl ⟨1000, rfl⟩
  have hclear : Step.clear ∉ steps := by decide
  obtain ⟨hanswers, htags, hreads, htimes⟩ := answers_eq_unbounded hfresh hclear (by decide)
  have hunbounded : ((Unbounded.begin 1000).run steps).answers =
      [true, true, false, true, false, true] := by decide
  have htotal : w.filter.totals.totalReads = 6 := UInt32.toNat_inj.mp hreads
  refine ⟨hanswers.trans hunbounded, ?_, ?_⟩
  · rw [← htotal]
    exact congrArg (ReadTotals.mk · w.filter.totals.totalReads) htags
  · exact htimes (by decide) (by decide)

/-- The 33rd tag takes the place of the first one, which is let through again at once. -/
example :
    let tags := (List.range 33).map fun i => Step.record [UInt8.ofNat i] 50 0
    let w := (Watched.begin (withWindow 1000)).run (tags ++ [.record [0] 50 1])
    (w.reads.map (·.isLetThrough)).getLast? = some true := by
  decide +kernel

end RfidLink.RepeatFilter
