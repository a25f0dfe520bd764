import Mathlib.Algebra.BigOperators.Group.List.Basic
import Mathlib.Algebra.GroupWithZero.Nat
import Mathlib.Logic.Function.Iterate
import Mathlib.Tactic.SplitIfs

/-!
# A writer on bounded pipes

* `Writer` — a process that writes items to pipes, each after some time of its own, and ends some time
  after the last one. `tick` is one unit of time: on a full pipe the writer waits.
* `done_run_iff` — with nobody reading it ends exactly when all it writes fits in the pipes, and then
  as soon as it can; `done_drainedRun_iff` — with a reader that keeps draining it always does.
-/

namespace Rollout.Lib

/-- An item on its way to a pipe, after some time. Source: none: infrastructure. Kind: D -/
structure Send (ι α : Type) where
  /-- The time before it is written. -/
  after : ℕ
  /-- Where to. -/
  pipe : ι
  /-- What. -/
  item : α
deriving DecidableEq

/-- A writer and what waits in its pipes. Source: none: infrastructure. Kind: D -/
structure Writer (ι α : Type) where
  /-- What is still to be written. -/
  left : List (Send ι α)
  /-- The time after the last item. -/
  last : ℕ
  /-- What has been written and not been read. -/
  pipes : ι → List α

namespace Writer

variable {ι α : Type} [DecidableEq ι]

/-- The items for one pipe. Source: none: infrastructure. Kind: D -/
def itemsTo (i : ι) (sends : List (Send ι α)) : List α :=
  (sends.filter fun s => s.pipe = i).map Send.item

/-- One unit of time. A full pipe keeps the writer where it is.
Source: none: infrastructure. Kind: D -/
def tick (capacity : ℕ) (w : Writer ι α) : Writer ι α :=
  match w.left with
  | [] => { w with last := w.last - 1 }
  | ⟨0, i, a⟩ :: rest =>
      if (w.pipes i).length < capacity then
        { w with left := rest, pipes := Function.update w.pipes i (w.pipes i ++ [a]) }
      else w
  | ⟨n + 1, i, a⟩ :: rest => { w with left := ⟨n, i, a⟩ :: rest }

/-- Everything is read from the pipes. Source: none: infrastructure. Kind: D -/
def drain (w : Writer ι α) : Writer ι α := { w with pipes := fun _ => [] }

/-- The writer with nobody reading. Source: none: infrastructure. Kind: D -/
def run (capacity n : ℕ) (w : Writer ι α) : Writer ι α := (tick capacity)^[n] w

/-- The writer with a reader that keeps draining. Source: none: infrastructure. Kind: D -/
def drainedRun (capacity n : ℕ) (w : Writer ι α) : Writer ι α :=
  (fun w => tick capacity (drain w))^[n] w

/-- The writer has ended. Source: none: infrastructure. Kind: D -/
def Done (w : Writer ι α) : Prop := w.left = [] ∧ w.last = 0

instance (w : Writer ι α) : Decidable w.Done :=
  decidable_of_iff (w.left.isEmpty = true ∧ w.last = 0) (by rw [List.isEmpty_iff]; exact Iff.rfl)

/-- The time a writer needs when it never waits. Source: none: infrastructure. Kind: D -/
def due (w : Writer ι α) : ℕ := (w.left.map fun s => s.after + 1).sum + w.last

/-- All of one pipe, written and still to be. Source: none: infrastructure. Kind: D -/
def total (w : Writer ι α) (i : ι) : List α := w.pipes i ++ itemsTo i w.left

/-- Each pipe has room for all that goes to it. Source: none: infrastructure. Kind: D -/
def Fits (capacity : ℕ) (w : Writer ι α) : Prop := ∀ i, (w.total i).length ≤ capacity

/-- No pipe holds more than it can. Source: none: infrastructure. Kind: D -/
def Bounded (capacity : ℕ) (w : Writer ι α) : Prop := ∀ i, (w.pipes i).length ≤ capacity

section run

variable {capacity n : ℕ} {w : Writer ι α}

omit [DecidableEq ι] in
theorem done_iff_due : w.Done ↔ w.due = 0 := by
  obtain ⟨left, last, pipes⟩ := w
  cases left with
  | nil => simp [Done, due]
  | cons s left => simp [Done, due]

theorem itemsTo_cons (i : ι) (s : Send ι α) (rest : List (Send ι α)) :
    itemsTo i (s :: rest) = if s.pipe = i then s.item :: itemsTo i rest else itemsTo i rest := by
  unfold itemsTo
  by_cases h : s.pipe = i <;> simp [h]

/-- A tick moves at most one item, and loses none. Source: none: infrastructure. Kind: L -/
theorem total_tick (capacity : ℕ) (w : Writer ι α) : (w.tick capacity).total = w.total := by
  funext i
  unfold tick
  split
  · rfl
  · next j a rest hleft =>
    split
    · unfold total
      rw [hleft, itemsTo_cons]
      by_cases h : j = i
      · subst h
        simp
      · simp [h, Function.update_of_ne (Ne.symm h)]
    · rfl
  · next k j a rest hleft =>
    unfold total
    rw [hleft, itemsTo_cons, itemsTo_cons]

theorem bounded_tick (h : w.Bounded capacity) : (w.tick capacity).Bounded capacity := by
  intro i
  unfold tick
  split
  · exact h i
  · next j a rest hleft =>
    split
    · next hroom =>
      by_cases hij : i = j
      · subst hij
        simp only [Function.update_self, List.length_append, List.length_singleton]
        exact hroom
      · simpa [Function.update_of_ne hij] using h i
    · exact h i
  · exact h i

/-- A tick without waiting brings the end closer by one. Source: none: infrastructure. Kind: L -/
theorem due_tick (hroom : ∀ i a rest, w.left = ⟨0, i, a⟩ :: rest → (w.pipes i).length < capacity) :
    (w.tick capacity).due = w.due - 1 := by
  unfold tick
  split
  · next hleft => simp [due, hleft]
  · next i a rest hleft =>
    rw [if_pos (hroom i a rest hleft)]
    simp only [due, hleft, List.map_cons, List.sum_cons]
    omega
  · next k i a rest hleft =>
    simp only [due, hleft, List.map_cons, List.sum_cons]
    omega

theorem room_of_fits (h : w.Fits capacity) (i : ι) (a : α) (rest : List (Send ι α))
    (hleft : w.left = ⟨0, i, a⟩ :: rest) : (w.pipes i).length < capacity := by
  have hi := h i
  unfold total at hi
  rw [hleft, itemsTo_cons, if_pos rfl, List.length_append, List.length_cons] at hi
  omega

theorem total_run (capacity n : ℕ) (w : Writer ι α) : (w.run capacity n).total = w.total := by
  induction n with
  | zero => rfl
  | succ n ih => rw [run, Function.iterate_succ_apply', total_tick, ← run, ih]

theorem bounded_run (h : w.Bounded capacity) (n : ℕ) : (w.run capacity n).Bounded capacity := by
  induction n with
  | zero => exact h
  | succ n ih =>
      rw [run, Function.iterate_succ_apply']
      exact bounded_tick ih

theorem due_run (h : w.Fits capacity) (n : ℕ) : (w.run capacity n).due = w.due - n := by
  induction n with
  | zero => rfl
  | succ n ih =>
      have hfits : (w.run capacity n).Fits capacity := by
        unfold Fits
        rw [total_run]
        exact h
      rw [run, Function.iterate_succ_apply', ← run, due_tick (room_of_fits hfits), ih, Nat.sub_sub]

/-- A writer that has ended left all it wrote in the pipes. Source: none: infrastructure. Kind: L -/
theorem pipes_of_done (h : (w.run capacity n).Done) : (w.run capacity n).pipes = w.total := by
  funext i
  rw [← total_run capacity n w, total, h.1]
  simp [itemsTo]

/-- **With nobody reading** a writer ends when all of it fits, as soon as it can.
Source: none: infrastructure. Kind: P -/
theorem done_run_iff (h : w.Bounded capacity) :
    (w.run capacity n).Done ↔ w.Fits capacity ∧ w.due ≤ n := by
  constructor
  · intro hdone
    have hfits : w.Fits capacity := by
      intro i
      rw [← pipes_of_done hdone]
      exact bounded_run h n i
    have hdue := done_iff_due.mp hdone
    rw [due_run hfits] at hdue
    exact ⟨hfits, by omega⟩
  · rintro ⟨hfits, hdue⟩
    rw [done_iff_due, due_run hfits]
    omega

/-- **With a reader that keeps draining** a writer ends as soon as it can.
Source: none: infrastructure. Kind: P -/
theorem done_drainedRun_iff (hcapacity : 0 < capacity) :
    (w.drainedRun capacity n).Done ↔ w.due ≤ n := by
  have hdue : (w.drainedRun capacity n).due = w.due - n := by
    induction n with
    | zero => rfl
    | succ n ih =>
        rw [drainedRun, Function.iterate_succ_apply', ← drainedRun,
          due_tick fun i a rest _ => hcapacity]
        rw [show (w.drainedRun capacity n).drain.due = (w.drainedRun capacity n).due from rfl, ih,
          Nat.sub_sub]
  rw [done_iff_due, hdue]
  omega

end run

end Writer

end Rollout.Lib
