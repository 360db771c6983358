import Mathlib.Data.List.Nodup
import RfidLink.Proofs.FirstSightings

/-!
# Which tags a filter remembers

The table of a filter is filled first and overwritten afterwards, entries are changed where they
are, and a tag that has lost its place may come back.  What comes of all this is simple: the filter
remembers the 32 tags that were inserted last, and of each of them the reads since then.

* `TagRead` is a read with what the filter made of it, and `Watched` is a filter with the reads since
  it was last cleared.
* `RepeatFilter.inOrder` reads the table in the order of insertion, wherever its turn stands, and
  `inOrder_insert` says that a new entry comes last and costs a full table its first one.
* `TagHistory.SumsUp` says what an entry tells about reads.
* `Remembers` is what every step keeps, and **`inOrder_eq_last_inserted`** is the run.
-/

namespace RfidLink

/-! ## Reads -/

/-- A read of a tag, and what a filter made of it. -/
structure TagRead where
  epc : Epc
  rssi : UInt8
  now : Nat
  /-- Whether the filter had no entry for the tag. -/
  isNew : Bool
  isLetThrough : Bool
deriving DecidableEq

namespace TagRead

/-- The tags that were inserted by some reads, in the order of their insertion. -/
def inserted (reads : List TagRead) : List Epc := (reads.filter (·.isNew)).map (·.epc)

/-- The reads of a tag since it was last inserted, beginning with the read that did so. -/
def sinceInserted (epc : Epc) (reads : List TagRead) : List TagRead :=
  reads.foldl (fun since read =>
    if read.epc = epc then if read.isNew then [read] else since ++ [read] else since) []

lemma inserted_append_new {read : TagRead} (h : read.isNew = true) (reads : List TagRead) :
    inserted (reads ++ [read]) = inserted reads ++ [read.epc] := by
  simp [inserted, h]

lemma inserted_append_old {read : TagRead} (h : read.isNew = false) (reads : List TagRead) :
    inserted (reads ++ [read]) = inserted reads := by
  simp [inserted, h]

lemma sinceInserted_append_new {read : TagRead} (h : read.isNew = true) (reads : List TagRead) :
    sinceInserted read.epc (reads ++ [read]) = [read] := by
  simp [sinceInserted, h]

lemma sinceInserted_append_old {read : TagRead} (h : read.isNew = false) (reads : List TagRead) :
    sinceInserted read.epc (reads ++ [read]) = sinceInserted read.epc reads ++ [read] := by
  simp [sinceInserted, h]

lemma sinceInserted_append_other {read : TagRead} {epc : Epc} (h : read.epc ≠ epc)
    (reads : List TagRead) : sinceInserted epc (reads ++ [read]) = sinceInserted epc reads := by
  simp [sinceInserted, h]

end TagRead

/-! ## What an entry tells -/

lemma toNat_saturatingAdd (a b : UInt32) :
    (saturatingAdd a b).toNat = min (a.toNat + b.toNat) (UInt32.size - 1) := by
  have hsize : min (a.toNat + b.toNat) (UInt32.size - 1) < 2 ^ 32 := by
    have : UInt32.size = 2 ^ 32 := rfl
    omega
  rw [saturatingAdd, UInt32.toNat_ofNat', Nat.mod_eq_of_lt hsize]

lemma min?_concat {bytes : List UInt8} {least : UInt8} (h : some least = bytes.min?) (byte : UInt8) :
    some (min least byte) = (bytes ++ [byte]).min? := by
  cases bytes with
  | nil => cases h
  | cons first rest =>
      obtain rfl : least = rest.foldl min first := Option.some.inj h
      rw [List.cons_append, List.min?_cons', List.foldl_append]
      rfl

lemma max?_concat {bytes : List UInt8} {most : UInt8} (h : some most = bytes.max?) (byte : UInt8) :
    some (max most byte) = (bytes ++ [byte]).max? := by
  cases bytes with
  | nil => cases h
  | cons first rest =>
      obtain rfl : most = rest.foldl max first := Option.some.inj h
      rw [List.cons_append, List.max?_cons', List.foldl_append]
      rfl

/--
  An entry sums up some reads: how many there were, how strong the weakest and the strongest was,
  when the last one was, and when the last one that was let through.
-/
structure TagHistory.SumsUp (entry : TagHistory) (reads : List TagRead) : Prop where
  readCount : entry.readCount.toNat = min reads.length (UInt32.size - 1)
  rssiMin : some entry.rssiMin = (reads.map (·.rssi)).min?
  rssiMax : some entry.rssiMax = (reads.map (·.rssi)).max?
  lastSeenAt : some entry.lastSeenAt = (reads.map (·.now)).getLast?
  lastSentAt : some entry.lastSentAt = ((reads.filter (·.isLetThrough)).map (·.now)).getLast?

namespace TagHistory

lemma sumsUp_first {read : TagRead} (h : read.isLetThrough = true) :
    (first read.epc read.rssi read.now).SumsUp [read] where
  readCount := rfl
  rssiMin := rfl
  rssiMax := rfl
  lastSeenAt := rfl
  lastSentAt := by simp [first, h]

/-- One more read is summed up with those before it. -/
lemma SumsUp.again {entry : TagHistory} {reads : List TagRead} (h : entry.SumsUp reads)
    {window : Nat} {read : TagRead}
    (hthrough : read.isLetThrough = !entry.isHeldBack window read.now) :
    (entry.again window read.rssi read.now).SumsUp (reads ++ [read]) where
  readCount := by
    have hone : (1 : UInt32).toNat = 1 := rfl
    rw [TagHistory.again, toNat_saturatingAdd, h.readCount, List.length_append, hone,
      List.length_singleton]
    omega
  rssiMin := by
    rw [List.map_append, List.map_singleton]
    exact min?_concat h.rssiMin read.rssi
  rssiMax := by
    rw [List.map_append, List.map_singleton]
    exact max?_concat h.rssiMax read.rssi
  lastSeenAt := by
    simp [TagHistory.again]
  lastSentAt := by
    cases hback : entry.isHeldBack window read.now with
    | true =>
        rw [hback] at hthrough
        simp [TagHistory.again, hback, hthrough, h.lastSentAt]
    | false =>
        rw [hback] at hthrough
        simp [TagHistory.again, hback, hthrough]

end TagHistory

namespace RepeatFilter

variable {filter : RepeatFilter} {reads : List TagRead}

/-! ## The order of insertion -/

/--
  What is remembered, in the order of insertion.  A table that is full has the oldest entry in the
  place whose turn it is.
-/
def inOrder (filter : RepeatFilter) : List TagHistory :=
  if filter.entries.length < capacity then filter.entries
  else filter.entries.drop filter.next ++ filter.entries.take filter.next

lemma inOrder_perm (filter : RepeatFilter) : filter.inOrder.Perm filter.entries := by
  simp only [inOrder]
  split
  · exact .refl _
  · have hswapped : (filter.entries.drop filter.next ++ filter.entries.take filter.next).Perm
        (filter.entries.take filter.next ++ filter.entries.drop filter.next) :=
      List.perm_append_comm
    rwa [List.take_append_drop] at hswapped

/-- The table is no longer than it may be, and its places are taken in turn. -/
structure InTurn (filter : RepeatFilter) : Prop where
  length_le : filter.entries.length ≤ capacity
  next_lt : filter.next < capacity
  next_eq : filter.entries.length < capacity → filter.next = filter.entries.length

/-- A list whose places are overwritten in turn, read from the place whose turn it is. -/
lemma rotate_set {α : Type} {places : List α} {next : Nat} (h : next < places.length) (new : α) :
    (places.set next new).drop ((next + 1) % places.length) ++
        (places.set next new).take ((next + 1) % places.length) =
      (places.drop next ++ places.take next).tail ++ [new] := by
  have hold : (places.drop next ++ places.take next).tail =
      places.drop (next + 1) ++ places.take next := by
    rw [List.drop_eq_getElem_cons h, List.cons_append, List.tail_cons]
  have hbehind : (places.set next new).drop (next + 1) = places.drop (next + 1) := by
    rw [List.drop_set_of_lt (Nat.lt_succ_self next)]
  have hfront : (places.set next new).take (next + 1) = places.take next ++ [new] := by
    rw [List.take_add_one, List.take_set_of_le (Nat.le_refl next), List.getElem?_set_self h]
    rfl
  rw [hold, List.append_assoc, ← hfront]
  by_cases hlast : next + 1 = places.length
  · have hall : (places.set next new).take (next + 1) = places.set next new :=
      List.take_of_length_le (Nat.le_of_eq (by rw [List.length_set, hlast]))
    rw [hall, hlast, Nat.mod_self, List.drop_length, List.drop_zero, List.take_zero,
      List.append_nil, List.nil_append]
  · rw [Nat.mod_eq_of_lt (by omega), hbehind]

/-- **A new entry comes last**, and a full table loses its first one for it. -/
theorem inOrder_insert (h : filter.InTurn) (entry : TagHistory) :
    (filter.insert entry).inOrder =
        (filter.inOrder ++ [entry]).drop (filter.inOrder.length + 1 - capacity) ∧
      (filter.insert entry).InTurn := by
  have hlength : filter.inOrder.length = filter.entries.length := filter.inOrder_perm.length_eq
  rw [hlength]
  by_cases hfull : capacity ≤ filter.entries.length
  · have hsame : filter.entries.length = capacity := Nat.le_antisymm h.length_le hfull
    have hroom : ¬ filter.entries.length < capacity := Nat.not_lt_of_le hfull
    have hnext : filter.next < filter.entries.length := hsame ▸ h.next_lt
    have hset : (filter.entries.set filter.next entry).length = capacity := by
      rw [List.length_set, hsame]
    constructor
    · have hone : filter.entries.length + 1 - capacity = 1 := by omega
      have hne : filter.entries.drop filter.next ++ filter.entries.take filter.next ≠ [] := by
        rw [← List.length_pos_iff, List.length_append, List.length_drop]
        omega
      rw [hone, List.drop_one]
      simp only [inOrder, insert, hfull, hroom, if_true, if_false, hset, Nat.lt_irrefl]
      rw [List.tail_append_of_ne_nil hne, ← hsame]
      exact rotate_set hnext entry
    · refine ⟨?_, Nat.mod_lt _ (by decide), ?_⟩
      · simp only [insert, hfull, if_true, hset, Nat.le_refl]
      · intro hshort
        simp only [insert, hfull, if_true, hset, Nat.lt_irrefl] at hshort
  · have hroom : filter.entries.length < capacity := Nat.lt_of_not_le hfull
    have hnext := h.next_eq hroom
    constructor
    · have hzero : filter.entries.length + 1 - capacity = 0 := by omega
      rw [hzero, List.drop_zero]
      simp only [inOrder, insert, hfull, hroom, if_true, if_false, hnext]
      split
      · rfl
      · rename_i hlast
        rw [List.length_append, List.length_singleton] at hlast
        have hwrap : filter.entries.length + 1 = capacity := by omega
        rw [hwrap, Nat.mod_self, List.drop_zero, List.take_zero, List.append_nil]
    · refine ⟨?_, Nat.mod_lt _ (by decide), ?_⟩
      · simp only [insert, hfull, if_false, List.length_append, List.length_singleton]
        omega
      · intro hshort
        simp only [insert, hfull, if_false, List.length_append, List.length_singleton] at hshort ⊢
        rw [hnext, Nat.mod_eq_of_lt hshort]

/-! ## One read -/

/-- Where every tag has one entry, to change the first of a tag is to change all of it. -/
lemma change_eq_map (epc : Epc) (f : TagHistory → TagHistory) {entries : List TagHistory}
    (h : (entries.map (·.epc)).Nodup) :
    change epc f entries = entries.map fun entry => if entry.epc = epc then f entry else entry := by
  induction entries with
  | nil => rfl
  | cons entry rest ih =>
      rw [List.map_cons, List.nodup_cons] at h
      by_cases hsame : entry.epc = epc
      · have hothers : rest.map (fun e => if e.epc = epc then f e else e) = rest := by
          have hmap : rest.map (fun e => if e.epc = epc then f e else e) = rest.map id := by
            refine List.map_congr_left ?_
            intro e he
            have hother : e.epc ≠ epc := by
              intro heq
              exact h.1 (List.mem_map.mpr ⟨e, he, heq.trans hsame.symm⟩)
            rw [if_neg hother, id]
          rw [hmap, List.map_id]
        rw [change, if_pos hsame, List.map_cons, if_pos hsame, hothers]
      · rw [change, if_neg hsame, List.map_cons, if_neg hsame, ih h.2]

/-- The read that a filter is asked to record, and what it makes of it. -/
def readOf (bytes : List UInt8) (rssi : UInt8) (now : Nat) (filter : RepeatFilter) : TagRead :=
  { epc := .truncate bytes
    rssi
    now
    isNew := (filter.entries.find? (·.epc = .truncate bytes)).isNone
    isLetThrough := (filter.record bytes rssi now).1 }

/--
  What a filter remembers of some reads: the tags inserted last, in the order of their insertion,
  each of them once, and of every tag the reads since then.
-/
structure Remembers (reads : List TagRead) (filter : RepeatFilter) : Prop where
  inTurn : filter.InTurn
  order : filter.inOrder.map (·.epc) =
    (TagRead.inserted reads).drop ((TagRead.inserted reads).length - capacity)
  distinct : (filter.inOrder.map (·.epc)).Nodup
  sumsUp : ∀ entry ∈ filter.inOrder, entry.SumsUp (TagRead.sinceInserted entry.epc reads)

lemma remembers_nil (window : Nat) : Remembers [] { entries := [], next := 0, window } :=
  ⟨⟨Nat.zero_le _, Nat.zero_lt_succ _, fun _ => rfl⟩, rfl, List.nodup_nil, fun _ h => nomatch h⟩

/-- The window has nothing to do with what is remembered. -/
lemma Remembers.of_window (h : Remembers reads filter) (window : Nat) :
    Remembers reads { filter with window } where
  inTurn := ⟨h.inTurn.length_le, h.inTurn.next_lt, h.inTurn.next_eq⟩
  order := h.order
  distinct := h.distinct
  sumsUp := h.sumsUp

lemma Remembers.length_inOrder (h : Remembers reads filter) :
    filter.inOrder.length =
      (TagRead.inserted reads).length - ((TagRead.inserted reads).length - capacity) := by
  have hlength := congrArg List.length h.order
  rwa [List.length_map, List.length_drop] at hlength

/-- What is done to every entry leaves them in their order. -/
lemma inOrder_map (f : TagHistory → TagHistory) :
    inOrder { filter with entries := filter.entries.map f } = filter.inOrder.map f := by
  simp only [inOrder, List.length_map]
  split
  · rfl
  · rw [List.map_append, List.map_drop, List.map_take]

/-- A read of a tag that is remembered changes its entry where it is. -/
lemma Remembers.record_old (h : Remembers reads filter) {bytes : List UInt8} {rssi : UInt8}
    {now : Nat} {entry : TagHistory}
    (hfind : filter.entries.find? (·.epc = .truncate bytes) = some entry) :
    Remembers (reads ++ [filter.readOf bytes rssi now]) (filter.record bytes rssi now).2 := by
  set epc : Epc := .truncate bytes with hepc
  set read := filter.readOf bytes rssi now with hread
  have hnew : read.isNew = false := by
    rw [hread, readOf, ← hepc, hfind]
    rfl
  have hnodup : (filter.entries.map (·.epc)).Nodup :=
    (filter.inOrder_perm.map _).nodup_iff.mp h.distinct
  set touch : TagHistory → TagHistory := fun e =>
    if e.epc = epc then e.again filter.window rssi now else e with htouch
  have hrecord : (filter.record bytes rssi now).2 =
      { filter with entries := filter.entries.map touch } := by
    simp only [record, ← hepc, hfind, change_eq_map epc _ hnodup, htouch]
  have hinOrder : (filter.record bytes rssi now).2.inOrder = filter.inOrder.map touch := by
    rw [hrecord]
    exact inOrder_map touch
  have htouched : ∀ e, (touch e).epc = e.epc := by
    intro e
    simp only [htouch]
    split <;> rfl
  have hsame : (filter.inOrder.map touch).map (·.epc) = filter.inOrder.map (·.epc) := by
    rw [List.map_map]
    exact List.map_congr_left fun e _ => htouched e
  refine ⟨?_, ?_, ?_, ?_⟩
  · rw [hrecord]
    exact ⟨by rw [List.length_map]; exact h.inTurn.length_le, h.inTurn.next_lt,
      by rw [List.length_map]; exact h.inTurn.next_eq⟩
  · rw [hinOrder, hsame, TagRead.inserted_append_old hnew]
    exact h.order
  · rw [hinOrder, hsame]
    exact h.distinct
  · intro e he
    rw [hinOrder] at he
    obtain ⟨before, hbefore, rfl⟩ := List.mem_map.mp he
    have hsums := h.sumsUp before hbefore
    rw [htouched before]
    by_cases hread' : before.epc = epc
    · -- this is the entry that was found, so it decided whether the read was let through
      have hfound : before = entry := by
        have hmem : before ∈ filter.entries := filter.inOrder_perm.mem_iff.mp hbefore
        have hmem' := List.mem_of_find?_eq_some hfind
        have hepc' : entry.epc = epc := by simpa using List.find?_some hfind
        exact List.inj_on_of_nodup_map hnodup hmem hmem' (hread'.trans hepc'.symm)
      have hthrough : read.isLetThrough = !before.isHeldBack filter.window now := by
        rw [hread, hfound]
        simp only [readOf, record, ← hepc, hfind]
      have htouch' : touch before = before.again filter.window rssi now := by
        simp only [htouch, hread', if_true]
      have hsince : TagRead.sinceInserted before.epc (reads ++ [read]) =
          TagRead.sinceInserted before.epc reads ++ [read] := by
        rw [hread']
        exact TagRead.sinceInserted_append_old hnew reads
      rw [htouch', hsince]
      exact hsums.again hthrough
    · have hother : read.epc ≠ before.epc := fun heq => hread' heq.symm
      rw [TagRead.sinceInserted_append_other hother]
      simp only [htouch, hread', if_false]
      exact hsums

/-- A tag that is not remembered is inserted. -/
lemma Remembers.record_new (h : Remembers reads filter) {bytes : List UInt8} {rssi : UInt8}
    {now : Nat} (hfind : filter.entries.find? (·.epc = .truncate bytes) = none) :
    Remembers (reads ++ [filter.readOf bytes rssi now]) (filter.record bytes rssi now).2 := by
  set epc : Epc := .truncate bytes with hepc
  set read := filter.readOf bytes rssi now with hread
  have hnew : read.isNew = true := by
    rw [hread, readOf, ← hepc, hfind]
    rfl
  have hthrough : read.isLetThrough = true := by
    rw [hread]
    simp only [readOf, record, ← hepc, hfind]
  have hrecord : (filter.record bytes rssi now).2 = filter.insert (.first epc rssi now) := by
    simp only [record, ← hepc, hfind]
  obtain ⟨hinOrder, hinTurn⟩ := inOrder_insert h.inTurn (.first epc rssi now)
  have hothers : ∀ e ∈ filter.inOrder, e.epc ≠ epc := by
    intro e he
    have hmem : e ∈ filter.entries := filter.inOrder_perm.mem_iff.mp he
    simpa using List.find?_eq_none.mp hfind e hmem
  have hlength := h.length_inOrder
  rw [hrecord]
  refine ⟨hinTurn, ?_, ?_, ?_⟩
  · have hcut : (TagRead.inserted reads).length - capacity +
        (filter.inOrder.length + 1 - capacity) = (TagRead.inserted reads).length + 1 - capacity := by
      omega
    rw [hinOrder, List.map_drop, List.map_append, h.order, TagRead.inserted_append_new hnew,
      List.map_singleton, ← List.drop_append_of_le_length (Nat.sub_le _ _), List.drop_drop, hcut,
      List.length_append, List.length_singleton]
    rfl
  · rw [hinOrder, List.map_drop, List.map_append]
    refine List.Nodup.sublist (List.drop_sublist _ _) ?_
    rw [List.nodup_append]
    refine ⟨h.distinct, List.nodup_singleton _, ?_⟩
    intro a ha b hb
    obtain ⟨e, he, rfl⟩ := List.mem_map.mp ha
    rw [List.map_singleton, List.mem_singleton] at hb
    rw [hb]
    exact hothers e he
  · intro e he
    rw [hinOrder] at he
    rcases List.mem_append.mp (List.mem_of_mem_drop he) with hold | hlast
    · have hother : read.epc ≠ e.epc := fun heq => hothers e hold heq.symm
      rw [TagRead.sinceInserted_append_other hother]
      exact h.sumsUp e hold
    · rw [List.mem_singleton.mp hlast]
      have hsums : (TagHistory.first read.epc read.rssi read.now).SumsUp
          (TagRead.sinceInserted read.epc (reads ++ [read])) := by
        rw [TagRead.sinceInserted_append_new hnew]
        exact TagHistory.sumsUp_first hthrough
      exact hsums

/-- **What one read does** to what is remembered. -/
theorem Remembers.record (h : Remembers reads filter) (bytes : List UInt8) (rssi : UInt8)
    (now : Nat) :
    Remembers (reads ++ [filter.readOf bytes rssi now]) (filter.record bytes rssi now).2 := by
  cases hfind : filter.entries.find? (·.epc = .truncate bytes) with
  | some entry => exact h.record_old hfind
  | none => exact h.record_new hfind

/-! ## Whole runs -/

/-- What a filter can be asked for. -/
inductive Step where
  | record (bytes : List UInt8) (rssi : UInt8) (now : Nat)
  | clear
  | setWindowMs (windowMs : UInt32)
  | setWindowSeconds (seconds : UInt32)
deriving DecidableEq

/-- A filter, and the reads it has recorded since it was last cleared. -/
structure Watched where
  filter : RepeatFilter
  reads : List TagRead
deriving DecidableEq

namespace Watched

/-- A filter that begins to be watched. -/
def begin (filter : RepeatFilter) : Watched := { filter, reads := [] }

def after (w : Watched) : Step → Watched
  | .record bytes rssi now =>
    { filter := (w.filter.record bytes rssi now).2
      reads := w.reads ++ [w.filter.readOf bytes rssi now] }
  | .clear => { filter := w.filter.clear, reads := [] }
  | .setWindowMs windowMs => { w with filter := w.filter.setWindowMs windowMs }
  | .setWindowSeconds seconds => { w with filter := w.filter.setWindowSeconds seconds }

def run (steps : List Step) (w : Watched) : Watched := steps.foldl after w

/-- Every step keeps what a filter remembers in accord with what it has read. -/
lemma remembers_after {w : Watched} (h : Remembers w.reads w.filter) (step : Step) :
    Remembers (w.after step).reads (w.after step).filter := by
  cases step with
  | record bytes rssi now => exact h.record bytes rssi now
  | clear => exact remembers_nil w.filter.window
  | setWindowMs windowMs => exact h.of_window windowMs.toNat
  | setWindowSeconds seconds => exact h.of_window (seconds.toNat * 1000)

lemma remembers_run {w : Watched} (h : Remembers w.reads w.filter) (steps : List Step) :
    Remembers (w.run steps).reads (w.run steps).filter := by
  induction steps generalizing w with
  | nil => exact h
  | cons step rest ih => exact ih (remembers_after h step)

end Watched

/--
  **A filter remembers the tags inserted last.**  Whatever a new filter is asked for, its entries
  are those of the last 32 tags inserted since it was last cleared, or of all of them if there are
  fewer, in the order of their insertion, and no tag has two.  An entry counts the reads of its tag
  since it was inserted, gives the range of their signal strengths, and says when the tag was last
  read and when it was last let through.
-/
theorem inOrder_eq_last_inserted (windowMs : UInt32) (steps : List Step) :
    let w := (Watched.begin (.withWindow windowMs)).run steps
    let inserted := TagRead.inserted w.reads
    w.filter.inOrder.map (·.epc) = inserted.drop (inserted.length - capacity) ∧
      (w.filter.entries.map (·.epc)).Nodup ∧
      ∀ entry ∈ w.filter.entries, entry.SumsUp (TagRead.sinceInserted entry.epc w.reads) := by
  intro w inserted
  have hnew : Remembers [] (withWindow windowMs) := remembers_nil windowMs.toNat
  have h : Remembers w.reads w.filter :=
    Watched.remembers_run (w := .begin (.withWindow windowMs)) hnew steps
  have hperm := w.filter.inOrder_perm
  exact ⟨h.order, (hperm.map _).nodup_iff.mp h.distinct,
    fun entry hentry => h.sumsUp entry (hperm.mem_iff.mpr hentry)⟩

end RepeatFilter

end RfidLink
