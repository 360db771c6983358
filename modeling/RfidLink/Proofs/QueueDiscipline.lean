import RfidLink.Proofs.AnswerQueue
import RfidLink.Router.Ask

/-!
# The discipline of the queue

An answer in the middle of a queue that is open at its ends only is reached by a **turn**: every
answer goes once from the front to the back, except the one that is wanted.

* `Answer.turn` makes a turn, place by place.  `turn_eq` says that a whole turn takes out the oldest
  answer of a kind and leaves the others in their order, wherever it stood and however many there
  are.  `pushTurning` and `takeTurning` push and take answers in this way, and no answer gets lost
  on the way while the queue holds no more than it can.
* `QueueStep` is what happens to the queue of a router, and `Router.attendAll` a run of such steps.
  A station pushes in `keepAnswer` and takes in `takeAnswer`.  To discard the answers to an earlier
  request, as `ask` does, is to look for them until there are none (`attendAll_takes`, `ask_eq`).
* `Router.InOrder` is what every step keeps: the queue holds no more than it can, and what it holds
  came in in this order.  `Router.Guards` says that an answer to the awaited request is there.
* **`queue_discipline`** puts it together for every run of a new router.
-/

namespace RfidLink

namespace Answer

/-! ## Turning the queue -/

/-- Put an answer at the end of a queue.  One that finds no room is lost. -/
def put (answer : Answer) (queue : List Answer) : List Answer :=
  if queue.length < queueCapacity then queue ++ [answer] else queue

/--
  Take answers from the front, as many as the given number, and put each of them back at the end,
  except the first one of a kind.
-/
def turn (kind : Answer → Bool) : Nat → Option Answer → List Answer → Option Answer × List Answer
  | 0, found, queue => (found, queue)
  | _ + 1, found, [] => (found, [])
  | turns + 1, found, answer :: rest =>
    if found.isNone && kind answer then turn kind turns (some answer) rest
    else turn kind turns found (put answer rest)

/-- The oldest answer to a request by a whole turn, and the queue without it. -/
def takeTurning (request : Request) (queue : List Answer) : Option Answer × List Answer :=
  turn (isFor request) queue.length none queue

/-- Make room by a whole turn, or by taking out the oldest answer of all. -/
def evictTurning (awaiting : Option Request) (queue : List Answer) : List Answer :=
  let (found, queue) := turn (fun a => !a.isAwaited awaiting) queue.length none queue
  if found.isSome then queue else queue.tail

/-- Add an answer at the end, after making room for it by a turn if the queue is full. -/
def pushTurning (awaiting : Option Request) (answer : Answer) (queue : List Answer) : List Answer :=
  put answer (if queue.length = queueCapacity then evictTurning awaiting queue else queue)

variable {queue : List Answer}

lemma put_eq (answer : Answer) (h : queue.length < queueCapacity) :
    put answer queue = queue ++ [answer] := if_pos h

/-- An answer that is not taken out goes to the end. -/
lemma turn_put (kind : Answer → Bool) (found : Option Answer) {answer : Answer}
    (hput : (found.isNone && kind answer) = false) (front back : List Answer)
    (h : front.length + 1 + back.length ≤ queueCapacity) :
    turn kind (front.length + 1) found (answer :: front ++ back) =
      turn kind front.length found (front ++ (back ++ [answer])) := by
  have hroom : (front ++ back).length < queueCapacity := by
    rw [List.length_append]
    omega
  rw [List.cons_append, turn, hput, if_neg Bool.false_ne_true, put_eq answer hroom,
    List.append_assoc]

/-- Once the answer is found, the others are put back in their order. -/
lemma turn_some (kind : Answer → Bool) (found : Answer) (front back : List Answer)
    (h : front.length + back.length ≤ queueCapacity) :
    turn kind front.length (some found) (front ++ back) = (some found, back ++ front) := by
  induction front generalizing back with
  | nil => rw [List.length_nil, turn, List.nil_append, List.append_nil]
  | cons answer rest ih =>
      rw [List.length_cons] at h
      have hrest := ih (back ++ [answer]) (by rw [List.length_append, List.length_singleton]; omega)
      rw [List.length_cons, turn_put kind (some found) rfl rest back h, hrest, List.append_assoc,
        List.singleton_append]

/-- **A turn past the front of a queue** takes out the oldest answer of a kind in it. -/
lemma turn_eq (kind : Answer → Bool) (front back : List Answer)
    (h : front.length + back.length ≤ queueCapacity) :
    turn kind front.length none (front ++ back) =
      (front.find? kind, back ++ front.eraseP kind) := by
  induction front generalizing back with
  | nil => rw [List.length_nil, turn, List.nil_append, List.find?_nil, List.eraseP_nil,
      List.append_nil]
  | cons answer rest ih =>
      rw [List.length_cons] at h
      rw [List.length_cons]
      cases hkind : kind answer with
      | true =>
          rw [List.cons_append, turn, Option.isNone_none, hkind, Bool.true_and, if_pos rfl,
            turn_some kind answer rest back (by omega), List.find?_cons_of_pos hkind,
            List.eraseP_cons_of_pos hkind]
      | false =>
          have hother : ¬kind answer = true := by rw [hkind]; exact Bool.false_ne_true
          have hrest := ih (back ++ [answer])
            (by rw [List.length_append, List.length_singleton]; omega)
          rw [turn_put kind none hkind rest back h, hrest, List.find?_cons_of_neg hother,
            List.eraseP_cons_of_neg hother, List.append_assoc, List.singleton_append]

lemma turn_whole (kind : Answer → Bool) (h : queue.length ≤ queueCapacity) :
    turn kind queue.length none queue = (queue.find? kind, queue.eraseP kind) := by
  have hturned := turn_eq kind queue [] h
  rwa [List.append_nil, List.nil_append] at hturned

lemma takeTurning_eq (request : Request) (h : queue.length ≤ queueCapacity) :
    takeTurning request queue = take request queue := turn_whole (isFor request) h

lemma evictTurning_eq (awaiting : Option Request) (h : queue.length ≤ queueCapacity) :
    evictTurning awaiting queue = evict awaiting queue := by
  rw [evictTurning, turn_whole _ h, evict]
  cases hall : queue.all (isAwaited awaiting) with
  | true =>
      have hnone : ∀ a ∈ queue, ¬(!a.isAwaited awaiting) = true := by
        simpa using hall
      simp only [List.find?_eq_none.mpr hnone, List.eraseP_of_forall_not hnone]
      rfl
  | false =>
      obtain ⟨a, ha, hother⟩ := List.all_eq_false.mp hall
      have hsome : (queue.find? fun a => !a.isAwaited awaiting).isSome = true :=
        List.find?_isSome.mpr ⟨a, ha, by simpa using hother⟩
      simp only [hsome]
      rfl

lemma pushTurning_eq (awaiting : Option Request) (answer : Answer)
    (h : queue.length ≤ queueCapacity) :
    pushTurning awaiting answer queue = push awaiting answer queue := by
  have hpushed := length_push awaiting answer h
  rw [push, List.length_append, List.length_singleton] at hpushed
  rw [pushTurning, push, evictTurning_eq awaiting h]
  by_cases hfull : queue.length = queueCapacity
  · rw [if_pos (Nat.le_of_eq hfull.symm)] at hpushed ⊢
    rw [if_pos hfull, put_eq answer hpushed]
  · have hroom : ¬queueCapacity ≤ queue.length := by omega
    rw [if_neg hroom] at hpushed ⊢
    rw [if_neg hfull, put_eq answer hpushed]

end Answer

/-! ## What happens to a queue -/

/-- A step that concerns the queue of answers of a router. -/
inductive QueueStep where
  /-- From now on another request is awaited, or none. -/
  | await (awaiting : Option Request)
  | push (answer : Answer)
  /-- Somebody looks for an answer to a request, and takes it if there is one. -/
  | take (request : Request)
deriving DecidableEq

/-- The answers that come in by some steps, in the order of their arrival. -/
def QueueStep.arrivals (steps : List QueueStep) : List Answer :=
  steps.filterMap fun
    | .push answer => some answer
    | _ => none

lemma QueueStep.arrivals_cons (step : QueueStep) (rest : List QueueStep) :
    arrivals (step :: rest) = arrivals [step] ++ arrivals rest :=
  List.filterMap_append (l := [step])

namespace Router

/-- What a step does to the router, as `Station.keepAnswer` and `Station.takeAnswer` do it. -/
def attend (r : Router) : QueueStep → Router
  | .await awaiting => { r with awaiting }
  | .push answer => { r with answers := Answer.push r.awaiting answer r.answers }
  | .take request => { r with answers := (Answer.take request r.answers).2 }

/-- The answer that somebody gets by a step. -/
def handedOut (r : Router) : QueueStep → Option Answer
  | .take request => (Answer.take request r.answers).1
  | _ => none

def attendAll (steps : List QueueStep) (r : Router) : Router := steps.foldl attend r

/-- The answers that somebody gets by some steps, one after the other. -/
def allHandedOut : List QueueStep → Router → List Answer
  | [], _ => []
  | step :: rest, r => (r.handedOut step).toList ++ allHandedOut rest (r.attend step)

end Router

/-! ## Discarding by taking -/

namespace Answer

variable {request : Request} {queue rest : List Answer} {taken : Option Answer}

/-- Whoever discards the answers to a request does not mind that one of them was taken. -/
lemma Taken.discard (h : Taken request queue taken rest) :
    discard request rest = discard request queue := by
  cases h with
  | found hold =>
      refine hold.filter ?_
      cases hold with
      | mk hkind _ => rw [hkind]; rfl
  | missing _ => rfl

/-- As long as there are answers to a request, one is taken. -/
lemma Taken.length_filter (h : Taken request queue taken rest) :
    (rest.filter (isFor request)).length = (queue.filter (isFor request)).length - 1 := by
  cases h with
  | found hold =>
      cases hold with
      | mk hkind _ => simp [hkind]
  | missing hother =>
      have hnil : queue.filter (isFor request) = [] :=
        List.filter_eq_nil_iff.mpr fun a ha => by simp [hother a ha]
      rw [hnil]
      rfl

end Answer

/-- **Whoever takes the answers to a request until there are none has discarded them.** -/
lemma Router.attendAll_takes (request : Request) (r : Router) {looks : Nat}
    (h : (r.answers.filter (Answer.isFor request)).length ≤ looks) :
    r.attendAll (List.replicate looks (.take request)) =
      { r with answers := Answer.discard request r.answers } := by
  induction looks generalizing r with
  | zero =>
      have hnil := List.length_eq_zero_iff.mp (Nat.le_zero.mp h)
      have hall : Answer.discard request r.answers = r.answers :=
        List.filter_eq_self.mpr fun a ha => by simpa using List.filter_eq_nil_iff.mp hnil a ha
      rw [hall]
      rfl
  | succ looks ih =>
      have htaken := Answer.taken_take request r.answers
      have hfewer : ((r.attend (.take request)).answers.filter (Answer.isFor request)).length ≤
          looks := by
        have hlength := htaken.length_filter
        simp only [Router.attend]
        omega
      have hrest := ih _ hfewer
      simp only [Router.attend, htaken.discard] at hrest
      exact hrest

/--
  **What asking does to the queue.**  Whoever asks looks for earlier answers first, and awaits the
  answer until the end.  Looks beyond the last of the earlier answers change nothing.
-/
lemma Station.ask_eq {ε : Type} (board : Board ε) (address : UInt8) (command : Command)
    (timeoutMs : UInt32) (s : Station ε) : s.ask board address command timeoutMs =
      let request : Request := { address, command := command.code }
      let looks := List.replicate s.router.answers.length (.take request)
      let waiting := s.onRouter fun r => (r.attendAll looks).attend (.await (some request))
      let (answer, s) := waiting.sendAndWait board address command timeoutMs
      (answer, s.onRouter (·.attend (.await none))) := by
  have hlooked := Router.attendAll_takes { address, command := command.code } s.router
    (List.length_filter_le _ _)
  simp only [Station.ask, Station.onRouter, hlooked]
  rfl

namespace Router

variable {r : Router} {arrivals : List Answer} {request : Request}

/-! ## Order of arrival -/

/-- The queue holds no more than it can, and its answers came in in this order. -/
structure InOrder (arrivals : List Answer) (r : Router) : Prop where
  length_le : r.answers.length ≤ Answer.queueCapacity
  sublist : r.answers.Sublist arrivals

lemma inOrder_stopped (config : Config) : (stopped config).InOrder [] :=
  ⟨Nat.zero_le _, .refl _⟩

/-- **Every step keeps the order of arrival**, whoever is awaited. -/
lemma InOrder.attend (h : r.InOrder arrivals) (step : QueueStep) :
    (r.attend step).InOrder (arrivals ++ QueueStep.arrivals [step]) := by
  cases step with
  | await awaiting => exact ⟨h.length_le, h.sublist.trans (List.sublist_append_left ..)⟩
  | push answer =>
      have hpushed := Answer.pushed_push r.awaiting answer r.answers
      exact ⟨hpushed.length_le h.length_le,
        hpushed.sublist.trans (h.sublist.append (.refl [answer]))⟩
  | take request =>
      have htaken := (Answer.taken_take request r.answers).sublist
      exact ⟨Nat.le_trans htaken.length_le h.length_le,
        (htaken.trans h.sublist).trans (List.sublist_append_left ..)⟩

lemma InOrder.attendAll (h : r.InOrder arrivals) (steps : List QueueStep) :
    (r.attendAll steps).InOrder (arrivals ++ QueueStep.arrivals steps) := by
  induction steps generalizing r arrivals with
  | nil => exact ⟨h.length_le, h.sublist.trans (List.sublist_append_left ..)⟩
  | cons step rest ih =>
      rw [QueueStep.arrivals_cons, ← List.append_assoc]
      exact ih (h.attend step)

/-! ## The awaited request -/

/-- A request is awaited, and an answer to it is in the queue. -/
structure Guards (request : Request) (r : Router) : Prop where
  awaiting : r.awaiting = some request
  exists_isFor : ∃ a ∈ r.answers, a.isFor request = true

/-- **No step loses the last answer to a request that stays awaited**, but it may be handed out. -/
lemma Guards.attend (h : r.Guards request) {step : QueueStep}
    (hstep : ∀ awaiting, step = .await awaiting → awaiting = some request) :
    (r.attend step).Guards request ∨ ∃ a, r.handedOut step = some a ∧ a.isFor request = true := by
  cases step with
  | await awaiting => exact .inl ⟨hstep awaiting rfl, h.exists_isFor⟩
  | push answer =>
      have hpushed : Answer.Pushed (some request) answer r.answers
          (r.attend (.push answer)).answers := by
        rw [← h.awaiting]
        exact Answer.pushed_push r.awaiting answer r.answers
      exact .inl ⟨h.awaiting, hpushed.exists_isFor h.exists_isFor⟩
  | take other =>
      obtain ⟨a, ha, hfor⟩ := h.exists_isFor
      rcases (Answer.taken_take other r.answers).mem ha with hleft | htaken
      · exact .inl ⟨h.awaiting, a, hleft, hfor⟩
      · exact .inr ⟨a, htaken, hfor⟩

lemma Guards.attendAll (h : r.Guards request) {steps : List QueueStep}
    (hsteps : ∀ awaiting, .await awaiting ∈ steps → awaiting = some request) :
    (r.attendAll steps).Guards request ∨
      ∃ a ∈ r.allHandedOut steps, a.isFor request = true := by
  induction steps generalizing r with
  | nil => exact .inl h
  | cons step rest ih =>
      have hfirst : ∀ awaiting, step = .await awaiting → awaiting = some request :=
        fun awaiting heq => hsteps awaiting (heq ▸ List.mem_cons_self)
      rcases h.attend hfirst with hnext | ⟨a, hout, hfor⟩
      · have hrest := ih hnext fun awaiting ha => hsteps awaiting (List.mem_cons_of_mem step ha)
        refine hrest.imp_right ?_
        rintro ⟨a, ha, hfor⟩
        exact ⟨a, List.mem_append_right _ ha, hfor⟩
      · exact .inr ⟨a, List.mem_append_left _ (by rw [hout]; exact List.mem_cons_self), hfor⟩

/--
  **The discipline of the queue.**  Whatever happens to the queue of a new router, it never holds
  more than it can, and what it holds is part of what came in, in the order of arrival.  In every
  state that is reached:

  * One more answer comes last.  It costs a full queue the oldest answer that nobody waits for, the
    oldest of all if somebody waits for all of them, and any other queue nothing.  While nobody
    waits for anything, it is always the oldest of all that goes.
  * Whoever looks for an answer to a request gets the oldest one, and the others stay in their
    order; if there is none, nothing changes.
  * Both are done by turning the queue around, answer by answer.
  * If an answer to the awaited request is in the queue, there is one as long as that request stays
    awaited and none was handed out, whatever else happens.
-/
theorem queue_discipline (config : Config) (steps : List QueueStep) :
    let r := (stopped config).attendAll steps
    r.answers.length ≤ Answer.queueCapacity ∧
      r.answers.Sublist (QueueStep.arrivals steps) ∧
      (∀ answer, Answer.Pushed r.awaiting answer r.answers (r.attend (.push answer)).answers ∧
        (r.attend (.push answer)).answers = Answer.pushTurning r.awaiting answer r.answers ∧
        (r.awaiting = none → r.answers.length = Answer.queueCapacity →
          (r.attend (.push answer)).answers = r.answers.tail ++ [answer])) ∧
      (∀ request, Answer.Taken request r.answers (r.handedOut (.take request))
          (r.attend (.take request)).answers ∧
        (r.handedOut (.take request), (r.attend (.take request)).answers) =
          Answer.takeTurning request r.answers) ∧
      ∀ request later, r.awaiting = some request → (∃ a ∈ r.answers, a.isFor request = true) →
        (∀ awaiting, .await awaiting ∈ later → awaiting = some request) →
        (∃ a ∈ (r.attendAll later).answers, a.isFor request = true) ∨
          ∃ a ∈ r.allHandedOut later, a.isFor request = true := by
  intro r
  have hinOrder : r.InOrder (QueueStep.arrivals steps) := (inOrder_stopped config).attendAll steps
  refine ⟨hinOrder.length_le, hinOrder.sublist, fun answer => ⟨?_, ?_, ?_⟩,
    fun request => ⟨?_, ?_⟩, ?_⟩
  · exact Answer.pushed_push r.awaiting answer r.answers
  · exact (Answer.pushTurning_eq r.awaiting answer hinOrder.length_le).symm
  · intro hnobody hfull
    have hpushed : Answer.Pushed none answer r.answers (r.attend (.push answer)).answers := by
      rw [← hnobody]
      exact Answer.pushed_push r.awaiting answer r.answers
    exact hpushed.eq_tail hfull
  · exact Answer.taken_take request r.answers
  · exact (Answer.takeTurning_eq request hinOrder.length_le).symm
  · intro request later hawaiting hany hlater
    have hguards : r.Guards request := ⟨hawaiting, hany⟩
    exact (hguards.attendAll hlater).imp_left Guards.exists_isFor

/--
  An answer from any reader is awaited.  It stays in the queue while five others come in and
  somebody looks for answers that are not there and for one of the others.
-/
theorem queue_discipline_crowded :
    let request : Request := { address := 0xFF, command := 0x74 }
    let wanted : Answer :=
      { address := 0x07, command := 0x74, status := .success, payload := .empty }
    let other : Answer :=
      { address := 0x00, command := 0x93, status := .success, payload := .empty }
    let r := (stopped .standard).attendAll [.push other, .await (some request), .push wanted]
    let later : List QueueStep :=
      List.replicate 3 (.push other) ++ [.take { address := 0x05, command := 0x74 },
        .take { address := 0x00, command := 0x93 }, .push other, .push other]
    r.awaiting = some request ∧ (∃ a ∈ r.answers, a.isFor request = true) ∧
      (∀ awaiting, .await awaiting ∈ later → awaiting = some request) ∧
      ∃ a ∈ (r.attendAll later).answers, a.isFor request = true := by
  intro request wanted other r later
  have hany : ∃ a ∈ r.answers, a.isFor request = true := ⟨wanted, by decide, rfl⟩
  have hlater : ∀ awaiting, .await awaiting ∈ later → awaiting = some request := by
    simp [later]
  have hnone : ¬∃ a ∈ r.allHandedOut later, a.isFor request = true := by decide
  obtain ⟨-, -, -, -, hguarded⟩ := queue_discipline .standard
    [.push other, .await (some request), .push wanted]
  exact ⟨rfl, hany, hlater, (hguarded request later rfl hany hlater).resolve_right hnone⟩

end Router

end RfidLink
