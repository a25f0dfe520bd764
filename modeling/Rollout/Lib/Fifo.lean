import Mathlib.Data.List.Basic

/-!
# A first-in first-out queue

* `Fifo.Event` — a push, or a pop with what it answered; `Fifo.run` replays events and stops at an
  answer that is not the head of the queue.
* `pushed_of_run` — what was pushed is what was popped, in that order, and then what still waits.
-/

namespace Rollout.Lib

namespace Fifo

/-- What happens to a queue. Source: none: infrastructure. Kind: D -/
inductive Event (α : Type)
  | push (a : α)
  | pop (answer : Option α)

variable {α : Type} [DecidableEq α]

/-- One event on what waits. Source: none: infrastructure. Kind: D -/
def step (q : List α) : Event α → Option (List α)
  | .push a => some (q ++ [a])
  | .pop answer => if answer = q.head? then some q.tail else none

/-- A run of events. Source: none: infrastructure. Kind: D -/
def run (q : List α) : List (Event α) → Option (List α)
  | [] => some q
  | e :: es => (step q e).bind fun q' => run q' es

/-- What a run pushes. Source: none: infrastructure. Kind: D -/
def pushed : List (Event α) → List α
  | [] => []
  | .push a :: es => a :: pushed es
  | .pop _ :: es => pushed es

/-- What a run pops. Source: none: infrastructure. Kind: D -/
def popped : List (Event α) → List α
  | [] => []
  | .push _ :: es => popped es
  | .pop answer :: es => answer.toList ++ popped es

theorem run_snoc {q q' q'' : List α} {es : List (Event α)} {e : Event α} (h : run q es = some q')
    (hstep : step q' e = some q'') : run q (es ++ [e]) = some q'' := by
  induction es generalizing q with
  | nil =>
      obtain rfl := Option.some.inj h
      show (step q e).bind _ = _
      rw [hstep]
      rfl
  | cons d es ih =>
      obtain ⟨q₁, hd, hrest⟩ := Option.bind_eq_some_iff.mp h
      show (step q d).bind _ = _
      rw [hd]
      exact ih hrest

/-- **What was pushed is what was popped, and then what waits.** Induction on the events.
Source: none: infrastructure. Kind: P -/
theorem pushed_of_run {q q' : List α} {es : List (Event α)} (h : run q es = some q') :
    q ++ pushed es = popped es ++ q' := by
  induction es generalizing q with
  | nil =>
      obtain rfl := Option.some.inj h
      exact List.append_nil q
  | cons e es ih =>
      obtain ⟨q₁, he, hrest⟩ := Option.bind_eq_some_iff.mp h
      have hq := ih hrest
      rcases e with a | answer
      · obtain rfl := Option.some.inj he
        rw [List.append_assoc] at hq
        exact hq
      · obtain ⟨hanswer, htail⟩ := Option.ite_none_right_eq_some.mp he
        obtain rfl := Option.some.inj htail
        have hsplit : answer.toList ++ q.tail = q := by
          rw [hanswer]
          rcases q with _ | ⟨a, q⟩ <;> rfl
        rw [pushed, popped, List.append_assoc, ← hq, ← List.append_assoc, hsplit]

/-- Source: none: infrastructure. Kind: L -/
theorem popped_prefix_pushed {q : List α} {es : List (Event α)} (h : run [] es = some q) :
    popped es <+: pushed es :=
  ⟨q, (pushed_of_run h).symm⟩

end Fifo

end Rollout.Lib
