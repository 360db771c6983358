import RfidLink.Proofs.Tasks

/-!
# Histories

What a statement about inventory has to know of a run is which calls were made, in which order, and
what each of them found.  These are the occasions of the run.

* `Session.Traced` are the runs of a session with their occasions: every action adds its own, as
  `Action.occasions` computes them, and nothing else adds any.  Every run that follows the rules of
  inventory is one (`Session.Runs.traced`).
* `Station.History` is what such a run means for the station: tasks, bytes that arrive, and changes
  of the surroundings (`Session.Traced.history`).
* **`Station.Steps.found`**: a call to process received bytes finds the station to which the
  occasions before it have led.  So what is shown of all histories holds at every such call, also of
  those that are made while somebody waits for an answer.
-/

namespace RfidLink

variable {ε : Type} {board : Board ε} {drift : ε → ε → Prop}

namespace Station

/-- A task, bytes that arrive, or a change of the surroundings by themselves. -/
inductive Incident (board : Board ε) (drift : ε → ε → Prop) :
    Station ε → List (Occasion ε) → Station ε → Prop
  | task {s occasions t} (h : Task board s occasions t) : Incident board drift s occasions t
  | arrival (s) (bytes : List UInt8) : Incident board drift s [] (s.receive bytes)
  | drift (s) (e : ε) (h : drift s.surroundings e) :
      Incident board drift s [] { s with surroundings := e }

/-- Any number of incidents, one after the other, with their occasions. -/
abbrev History (board : Board ε) (drift : ε → ε → Prop) :
    Station ε → List (Occasion ε) → Station ε → Prop :=
  Steps (Incident board drift)

variable {s t u : Station ε} {occasions before after : List (Occasion ε)}

lemma Steps.history (h : s.TasksOn board occasions t) : s.History board drift occasions t :=
  h.lift fun _ _ _ => .task

/-- An incident is one occasion at most, and a call to process is made to the station it finds. -/
lemma Incident.single_or_none (h : Incident board drift s occasions t) :
    occasions = [] ∨ ∃ occasion, occasions = [occasion] ∧ ∀ u, occasion = .process u → u = s := by
  cases h with
  | arrival bytes => exact .inl rfl
  | drift e _ => exact .inl rfl
  | task h =>
      cases h with
      | process => exact .inr ⟨_, rfl, fun u h => by cases h; rfl⟩
      | resetStatistics => exact .inr ⟨_, rfl, fun u h => nomatch h⟩
      | stop => exact .inr ⟨_, rfl, fun u h => nomatch h⟩
      | begin => exact .inr ⟨_, rfl, fun u h => nomatch h⟩
      | endSending => exact .inr ⟨_, rfl, fun u h => nomatch h⟩
      | _ => exact .inl rfl

/-- **Every call to process received bytes is made to the station that the history before it has
led to.** -/
theorem Steps.found (h : s.History board drift occasions t)
    (hsplit : occasions = before ++ .process u :: after) : s.History board drift before u := by
  induction h generalizing after with
  | refl => simp at hsplit
  | @tail t _ occasions _ hbefore hstep ih =>
      obtain rfl | ⟨occasion, rfl, hfound⟩ := hstep.single_or_none
      · rw [List.append_nil] at hsplit
        exact ih hsplit
      · rcases List.eq_nil_or_concat after with rfl | ⟨rest, last, rfl⟩
        · obtain ⟨hoccasions, hlast⟩ := List.append_inj' hsplit rfl
          rw [hfound u (List.singleton_inj.mp hlast), ← hoccasions]
          exact hbefore
        · rw [List.concat_eq_append, ← List.cons_append, ← List.append_assoc] at hsplit
          exact ih (List.append_inj' hsplit rfl).1

end Station

namespace Session

/--
  The runs of a session that follow the rules of inventory under one configuration, with their
  occasions.  An action adds those that come up in it by itself.
-/
inductive Traced (board : Board ε) (drift : ε → ε → Prop) (s : Session ε) :
    List (Occasion ε) → Session ε → Prop
  | refl : Traced board drift s [] s
  | act {occasions t} (h : Traced board drift s occasions t) (action : Action)
      (hallowed : action.isRaw = false ∧ action.isConfiguring = false) :
      Traced board drift s (occasions ++ action.occasions board t) (action.run board t)
  | drift {occasions t} (h : Traced board drift s occasions t) (e : ε)
      (hdrift : drift t.station.surroundings e) :
      Traced board drift s occasions (t.onStation fun u => { u with surroundings := e })

variable {s t : Session ε} {occasions : List (Occasion ε)}

/-- The occasions of every run can be written down. -/
lemma Runs.traced (h : s.Runs board
    (fun action => action.isRaw = false ∧ action.isConfiguring = false) drift t) :
    ∃ occasions, s.Traced board drift occasions t := by
  induction h with
  | refl => exact ⟨[], .refl⟩
  | tail _ hevent ih =>
      obtain ⟨_, htraced⟩ := ih
      cases hevent with
      | act action hallowed => exact ⟨_, htraced.act action hallowed⟩
      | drift e hdrift => exact ⟨_, htraced.drift e hdrift⟩

/-- **What is asked of a session is a history of its station**, with the same occasions. -/
theorem Traced.history (h : s.Traced board drift occasions t) :
    s.station.History board drift occasions t.station := by
  induction h with
  | refl => exact .refl s.station
  | drift _ e hdrift ih => exact ih.aside (.drift _ e hdrift)
  | @act _ t _ action hallowed ih =>
      cases harrival : action.isArrival with
      | false => exact ih.trans (action.own_tasks hallowed.1 harrival hallowed.2 t).history
      | true =>
          cases action with
          | onRouter operation =>
              cases operation with
              | receive bytes => exact ih.tail (.arrival t.station bytes)
              | _ => cases harrival
          | _ => cases harrival

end Session

end RfidLink
