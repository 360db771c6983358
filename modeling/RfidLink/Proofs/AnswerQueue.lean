import Mathlib.Tactic.Lemma
import RfidLink.Router.Answer

/-!
# What the queue of answers holds

The queue has four places, and a running inventory may send any number of answers through it
while somebody waits for one.

* `Answer.Oldest` says which answer of some kind is the oldest in a queue, and what is left without
  it.  `Answer.Pushed` and `Answer.Taken` say with it what one more answer does to the queue and
  what is taken out of it.
* `Answer.Holds` says what is left in the queue of the answers to the awaited request: the last of
  those that came in, and at least three of them if it is not all.
* **`Answer.Holds.push`**: every answer that comes in keeps this up, whether it is one of
  them or not.  Others are pushed out first; an answer to the request has to go only when it is
  the oldest of four.
* `Answer.Holds.take`: if any came in one is found, and it is the first of them if there were no
  more than three.
-/

namespace RfidLink.Answer

variable {request : Request} {awaiting : Option Request} {answer : Answer}
  {kind : Answer → Bool} {queue queue' rest answers : List Answer}

/-! ## The oldest answer of a kind -/

/-- An answer is the oldest of its kind in a queue, and the rest is the queue without it. -/
inductive Oldest (kind : Answer → Bool) : List Answer → Answer → List Answer → Prop
  | mk {older newer : List Answer} {answer : Answer} (hkind : kind answer = true)
      (holder : ∀ a ∈ older, kind a = false) :
      Oldest kind (older ++ answer :: newer) answer (older ++ newer)

lemma oldest_of_find? (h : queue.find? kind = some answer) :
    Oldest kind queue answer (queue.eraseP kind) := by
  obtain ⟨hkind, older, newer, rfl, holder⟩ := List.find?_eq_some_iff_append.mp h
  have hother : ∀ a ∈ older, kind a = false := fun a ha => by simpa using holder a ha
  have herase : (older ++ answer :: newer).eraseP kind = older ++ newer := by
    rw [List.eraseP_append_right _ fun a ha => by simp [hother a ha],
      List.eraseP_cons_of_pos hkind]
  rw [herase]
  exact .mk hkind hother

namespace Oldest

lemma sublist (h : Oldest kind queue answer rest) : rest.Sublist queue := by
  cases h with
  | @mk older newer _ _ _ =>
      exact (List.Sublist.refl older).append (List.sublist_cons_self answer newer)

lemma length (h : Oldest kind queue answer rest) : rest.length + 1 = queue.length := by
  cases h with
  | mk _ _ =>
      simp only [List.length_append, List.length_cons]
      omega

/-- Every answer in the queue is left, except this one. -/
lemma mem {a : Answer} (h : Oldest kind queue answer rest) (ha : a ∈ queue) :
    a ∈ rest ∨ a = answer := by
  cases h with
  | mk _ _ =>
      rcases List.mem_append.mp ha with hold | hrest
      · exact .inl (List.mem_append_left _ hold)
      · rcases List.mem_cons.mp hrest with heq | hnew
        · exact .inr heq
        · exact .inl (List.mem_append_right _ hnew)

/-- Whoever does not look at the answer sees no difference. -/
lemma filter {looked : Answer → Bool} (h : Oldest kind queue answer rest)
    (hother : looked answer = false) : rest.filter looked = queue.filter looked := by
  cases h with
  | mk _ _ => simp [hother]

end Oldest

/-! ## What one more answer does -/

lemma isAwaited_some (request : Request) : isAwaited (some request) = isFor request := rfl

/-- One more answer has come into a queue. -/
inductive Pushed (awaiting : Option Request) (answer : Answer) : List Answer → List Answer → Prop
  /-- There was room for it. -/
  | roomy {queue : List Answer} (hroom : queue.length < queueCapacity) :
      Pushed awaiting answer queue (queue ++ [answer])
  /-- The oldest answer that nobody waits for has gone. -/
  | unawaited {queue rest : List Answer} {old : Answer} (hfull : queueCapacity ≤ queue.length)
      (hold : Oldest (fun a => !a.isAwaited awaiting) queue old rest) :
      Pushed awaiting answer queue (rest ++ [answer])
  /-- Somebody waits for all of them, and the oldest of all has gone. -/
  | allAwaited {rest : List Answer} {old : Answer} (hfull : queueCapacity ≤ (old :: rest).length)
      (hall : ∀ a ∈ old :: rest, a.isAwaited awaiting = true) :
      Pushed awaiting answer (old :: rest) (rest ++ [answer])

/-- **Every way an answer can come in.** -/
lemma pushed_push (awaiting : Option Request) (answer : Answer) (queue : List Answer) :
    Pushed awaiting answer queue (push awaiting answer queue) := by
  rw [push]
  by_cases hfull : queueCapacity ≤ queue.length
  · rw [if_pos hfull, evict]
    cases hall : queue.all (isAwaited awaiting) with
    | true =>
        cases queue with
        | nil => exact absurd hfull (by decide)
        | cons old rest => exact .allAwaited hfull (List.all_eq_true.mp hall)
    | false =>
        obtain ⟨a, ha, hother⟩ := List.all_eq_false.mp hall
        have hsome : (queue.find? fun a => !a.isAwaited awaiting).isSome = true :=
          List.find?_isSome.mpr ⟨a, ha, by simpa using hother⟩
        obtain ⟨old, hfind⟩ := Option.isSome_iff_exists.mp hsome
        exact .unawaited hfull (oldest_of_find? hfind)
  · rw [if_neg hfull]
    exact .roomy (Nat.lt_of_not_le hfull)

namespace Pushed

/-- No answer is moved past another one, and the new one comes last. -/
lemma sublist (h : Pushed awaiting answer queue queue') : queue'.Sublist (queue ++ [answer]) := by
  cases h with
  | roomy _ => exact .refl _
  | unawaited _ hold => exact hold.sublist.append (.refl _)
  | allAwaited _ _ => exact (List.sublist_cons_self _ _).append (.refl _)

lemma length_le (h : Pushed awaiting answer queue queue') (hle : queue.length ≤ queueCapacity) :
    queue'.length ≤ queueCapacity := by
  cases h with
  | roomy hroom =>
      rw [List.length_append, List.length_singleton]
      exact hroom
  | unawaited _ hold =>
      rw [List.length_append, List.length_singleton, hold.length]
      exact hle
  | allAwaited _ _ =>
      rw [List.length_append, List.length_singleton]
      exact hle

/--
  Room is made either without touching the answers to the request, or by dropping the oldest
  of at least four.
-/
lemma filter (h : Pushed (some request) answer queue queue') :
    queue'.filter (isFor request) =
        queue.filter (isFor request) ++ [answer].filter (isFor request) ∨
      (queue'.filter (isFor request) =
          (queue.filter (isFor request)).tail ++ [answer].filter (isFor request) ∧
        queueCapacity ≤ (queue.filter (isFor request)).length) := by
  cases h with
  | roomy _ => exact .inl (List.filter_append ..)
  | @unawaited _ rest old _ hold =>
      have hother : isFor request old = false := by
        cases hold with
        | mk hkind _ => simpa [isAwaited_some] using hkind
      exact .inl (by rw [List.filter_append, hold.filter hother])
  | @allAwaited rest old hfull hall =>
      rw [isAwaited_some] at hall
      have hrest : ∀ a ∈ rest, isFor request a = true :=
        fun a ha => hall a (List.mem_cons_of_mem old ha)
      refine .inr ⟨?_, ?_⟩
      · rw [List.filter_append, List.filter_eq_self.mpr hrest, List.filter_eq_self.mpr hall,
          List.tail_cons]
      · rw [List.filter_eq_self.mpr hall]
        exact hfull

/-- While nobody waits for anything, the oldest of all has to go. -/
lemma eq_tail (h : Pushed none answer queue queue') (hfull : queue.length = queueCapacity) :
    queue' = queue.tail ++ [answer] := by
  cases h with
  | roomy hroom => omega
  | @unawaited _ _ old _ hold =>
      cases hold with
      | @mk older newer _ _ holder =>
          cases older with
          | nil => rfl
          | cons first _ => exact absurd (holder first List.mem_cons_self) (by simp [isAwaited])
  | @allAwaited _ old _ hall => exact absurd (hall old List.mem_cons_self) (by simp [isAwaited])

/-- If there is an answer to the awaited request, one more answer does not push out the last one. -/
lemma exists_isFor (h : Pushed (some request) answer queue queue')
    (hany : ∃ a ∈ queue, a.isFor request = true) : ∃ a ∈ queue', a.isFor request = true := by
  simp only [← List.length_filter_pos_iff] at hany ⊢
  rcases h.filter with hkept | ⟨htail, hfour⟩
  · rw [hkept, List.length_append]
    omega
  · have hcapacity : queueCapacity = 4 := rfl
    rw [htail, List.length_append, List.length_tail]
    omega

end Pushed

/-- The queue never holds more than it can. -/
lemma length_push {queue : List Answer} (awaiting : Option Request) (answer : Answer)
    (h : queue.length ≤ queueCapacity) : (push awaiting answer queue).length ≤ queueCapacity :=
  (pushed_push awaiting answer queue).length_le h

/-- Whatever is pushed out or not, the queue gets no other answer than the new one. -/
lemma mem_push {a : Answer} (h : a ∈ push awaiting answer queue) : a ∈ queue ∨ a = answer := by
  have hmem := (pushed_push awaiting answer queue).sublist.subset h
  rwa [List.mem_append, List.mem_singleton] at hmem

/-! ## What is taken out -/

/-- Somebody has looked for an answer to a request, and has it if there was one. -/
inductive Taken (request : Request) : List Answer → Option Answer → List Answer → Prop
  | found {queue rest : List Answer} {answer : Answer}
      (h : Oldest (isFor request) queue answer rest) : Taken request queue (some answer) rest
  | missing {queue : List Answer} (h : ∀ a ∈ queue, isFor request a = false) :
      Taken request queue none queue

/-- Where there is no answer, none is found and the queue stays as it is. -/
lemma take_of_missing (h : ∀ a ∈ queue, ¬isFor request a = true) :
    take request queue = (none, queue) := by
  simp only [take, List.find?_eq_none.mpr h, List.eraseP_of_forall_not h]

/-- **Every way a look for an answer can end.** -/
lemma taken_take (request : Request) (queue : List Answer) :
    Taken request queue (take request queue).1 (take request queue).2 := by
  cases hfind : queue.find? (isFor request) with
  | some answer =>
      rw [take, hfind]
      exact .found (oldest_of_find? hfind)
  | none =>
      have hother := List.find?_eq_none.mp hfind
      rw [take_of_missing hother]
      exact .missing fun a ha => by simpa using hother a ha

lemma Taken.sublist {taken : Option Answer} (h : Taken request queue taken rest) :
    rest.Sublist queue := by
  cases h with
  | found hold => exact hold.sublist
  | missing _ => exact .refl _

/-- No answer is lost. -/
lemma Taken.mem {taken : Option Answer} {a : Answer} (h : Taken request queue taken rest)
    (ha : a ∈ queue) : a ∈ rest ∨ taken = some a := by
  cases h with
  | found hold => exact (hold.mem ha).imp_right fun heq => congrArg some heq.symm
  | missing _ => exact .inl ha

lemma take_fst (request : Request) (queue : List Answer) :
    (Answer.take request queue).1 = (queue.filter (isFor request)).head? := by
  rw [List.head?_filter]
  rfl

/-- What is taken was in the queue, and is an answer to the request. -/
lemma mem_of_take {answer : Answer} (h : (Answer.take request queue).1 = some answer) :
    answer ∈ queue ∧ isFor request answer = true := by
  rw [take_fst] at h
  exact List.mem_filter.mp (List.mem_of_head? h)

/-! ## The answers to the awaited request -/

/-- The queue holds the last of the answers to a request, and all or at least three of them. -/
structure Holds (request : Request) (queue answers : List Answer) : Prop where
  suffix : queue.filter (isFor request) <:+ answers
  all_or_three : queue.filter (isFor request) = answers ∨
    3 ≤ (queue.filter (isFor request)).length

/-- With the answers to a request discarded, the queue holds all of the none that came in. -/
lemma Holds.discard (request : Request) (queue : List Answer) :
    Holds request (discard request queue) [] := by
  have hnone : (Answer.discard request queue).filter (isFor request) = [] := by
    simp only [Answer.discard, List.filter_filter, List.filter_eq_nil_iff]
    intro answer _
    simp
  exact ⟨List.suffix_nil.mpr hnone, .inl hnone⟩

/-- **What one more answer does to the queue.**  Its answers to the request stay the last ones. -/
theorem Holds.push (h : Holds request queue answers) (answer : Answer) :
    Holds request (push (some request) answer queue)
      (answers ++ [answer].filter (isFor request)) := by
  rcases (pushed_push (some request) answer queue).filter with hkept | ⟨htail, hfour⟩
  · constructor
    · rw [hkept]
      obtain ⟨before, hbefore⟩ := h.suffix
      exact ⟨before, by rw [← hbefore, List.append_assoc]⟩
    · rw [hkept]
      rcases h.all_or_three with hall | hthree
      · exact .inl (by rw [hall])
      · refine .inr ?_
        rw [List.length_append]
        omega
  · constructor
    · rw [htail]
      obtain ⟨before, hbefore⟩ := (List.tail_suffix _).trans h.suffix
      exact ⟨before, by rw [← hbefore, List.append_assoc]⟩
    · refine .inr ?_
      have hcapacity : queueCapacity = 4 := rfl
      rw [htail, List.length_append, List.length_tail]
      omega

/-- If any answer came in one is found, and the first of them if there were at most three. -/
lemma Holds.take (h : Holds request queue answers) (hanswers : answers ≠ []) :
    ∃ answer, (Answer.take request queue).1 = some answer ∧ answer ∈ answers ∧
      (answers.length ≤ 3 → answers.head? = some answer) := by
  have hne : queue.filter (isFor request) ≠ [] := by
    rcases h.all_or_three with hall | hthree
    · rw [hall]
      exact hanswers
    · intro hnil
      rw [hnil] at hthree
      simp at hthree
  obtain ⟨answer, rest, hfilter⟩ := List.exists_cons_of_ne_nil hne
  refine ⟨answer, ?_, ?_, ?_⟩
  · rw [take_fst, hfilter, List.head?_cons]
  · refine h.suffix.subset ?_
    rw [hfilter]
    exact List.mem_cons_self
  · intro hfew
    rcases h.all_or_three with hall | hthree
    · rw [← hall, hfilter, List.head?_cons]
    · have hsame : queue.filter (isFor request) = answers :=
        h.suffix.eq_of_length_le (by omega)
      rw [← hsame, hfilter, List.head?_cons]

/-- If no answer came in, none is found and the queue stays as it is. -/
lemma Holds.take_nil (h : Holds request queue []) :
    Answer.take request queue = (none, queue) := by
  have hnil : queue.filter (isFor request) = [] := List.suffix_nil.mp h.suffix
  exact take_of_missing (List.filter_eq_nil_iff.mp hnil)

end RfidLink.Answer
