import Mathlib.Data.List.Basic
import Mathlib.Data.List.Induction
import Mathlib.Data.List.Nodup

/-!
# Items in groups

* `Mark ι α` — a group opens, or an item of a group appears.
* `Led ms` — whenever an item appears, its own group is the last one that opened.
* `items_eq_flatMap` — then the items are those of the first group, those of the second, and so on.
-/

set_option linter.unusedSectionVars false

namespace Rollout.Lib

/-- A group opens, or an item of a group appears. Source: none: infrastructure. Kind: D -/
inductive Mark (ι α : Type)
  | start (i : ι)
  | item (i : ι) (a : α)

namespace Mark

variable {ι α : Type}

/-- The group a mark opens. Source: none: infrastructure. Kind: D -/
def opened : Mark ι α → Option ι
  | start i => some i
  | item _ _ => none

/-- The item of a mark. Source: none: infrastructure. Kind: D -/
def payload : Mark ι α → Option α
  | start _ => none
  | item _ a => some a

/-- The item of a mark of one group. Source: none: infrastructure. Kind: D -/
def payloadOf [DecidableEq ι] (i : ι) : Mark ι α → Option α
  | start _ => none
  | item j a => if j = i then some a else none

end Mark

variable {ι α : Type}

/-- The groups in the order they open. Source: none: infrastructure. Kind: D -/
def starts (ms : List (Mark ι α)) : List ι := ms.filterMap Mark.opened

/-- The items in order. Source: none: infrastructure. Kind: D -/
def items (ms : List (Mark ι α)) : List α := ms.filterMap Mark.payload

/-- The items of one group. Source: none: infrastructure. Kind: D -/
def itemsOf [DecidableEq ι] (ms : List (Mark ι α)) (i : ι) : List α :=
  ms.filterMap (Mark.payloadOf i)

/-- Whenever an item appears, its group is the last one that opened.
Source: none: infrastructure. Kind: D -/
def Led (ms : List (Mark ι α)) : Prop :=
  ∀ ms₁ i a ms₂, ms = ms₁ ++ .item i a :: ms₂ → (starts ms₁).getLast? = some i

theorem Led.init {ms : List (Mark ι α)} {m : Mark ι α} (h : Led (ms ++ [m])) : Led ms := by
  intro ms₁ i a ms₂ hms
  exact h ms₁ i a (ms₂ ++ [m]) (by rw [hms]; simp)

@[simp] theorem starts_append (ms ms' : List (Mark ι α)) :
    starts (ms ++ ms') = starts ms ++ starts ms' := List.filterMap_append ..

@[simp] theorem starts_start (i : ι) : starts [(.start i : Mark ι α)] = [i] := rfl

@[simp] theorem starts_item (i : ι) (a : α) : starts [Mark.item i a] = [] := rfl

@[simp] theorem items_append (ms ms' : List (Mark ι α)) :
    items (ms ++ ms') = items ms ++ items ms' := List.filterMap_append ..

@[simp] theorem items_start (i : ι) : items [(.start i : Mark ι α)] = [] := rfl

@[simp] theorem items_item (i : ι) (a : α) : items [Mark.item i a] = [a] := rfl

theorem led_nil : Led ([] : List (Mark ι α)) := by
  intro ms₁ i a ms₂ hms
  simp at hms

theorem Led.append {ms : List (Mark ι α)} (h : Led ms) {m : Mark ι α}
    (hm : ∀ i a, m = .item i a → (starts ms).getLast? = some i) : Led (ms ++ [m]) := by
  intro ms₁ i a ms₂ hms
  rcases List.eq_nil_or_concat ms₂ with rfl | ⟨ms₃, m', rfl⟩
  · obtain ⟨rfl, hlast⟩ := List.append_inj' hms rfl
    exact hm i a (List.cons.inj hlast).1
  · rw [List.concat_eq_append, ← List.cons_append, ← List.append_assoc] at hms
    exact h ms₁ i a ms₃ (List.append_inj' hms rfl).1

variable [DecidableEq ι]

@[simp] theorem itemsOf_append (ms ms' : List (Mark ι α)) (i : ι) :
    itemsOf (ms ++ ms') i = itemsOf ms i ++ itemsOf ms' i := List.filterMap_append ..

@[simp] theorem itemsOf_start (i j : ι) : itemsOf [(.start j : Mark ι α)] i = [] := rfl

@[simp] theorem itemsOf_item_self (i : ι) (a : α) : itemsOf [Mark.item i a] i = [a] := by
  simp [itemsOf, Mark.payloadOf]

@[simp] theorem itemsOf_item_of_ne {i j : ι} (h : j ≠ i) (a : α) : itemsOf [Mark.item j a] i = [] := by
  simp [itemsOf, Mark.payloadOf, h]

/-- A group without items yet. Source: none: infrastructure. Kind: L -/
theorem itemsOf_eq_nil {ms : List (Mark ι α)} (h : Led ms) {i : ι} (hi : i ∉ starts ms) :
    itemsOf ms i = [] := by
  refine List.filterMap_eq_nil_iff.mpr fun m hm => ?_
  obtain ⟨ms₁, ms₂, rfl⟩ := List.append_of_mem hm
  rcases m with j | ⟨j, a⟩
  · rfl
  · refine if_neg ?_
    rintro rfl
    refine hi ?_
    rw [starts_append]
    exact List.mem_append_left _ (List.mem_of_getLast? (h ms₁ j a ms₂ rfl))

/-- **The items come group by group.** Source: none: infrastructure. Kind: P -/
theorem items_eq_flatMap {ms : List (Mark ι α)} (hled : Led ms) (hnodup : (starts ms).Nodup) :
    items ms = (starts ms).flatMap (itemsOf ms) := by
  induction ms using List.reverseRecOn with
  | nil => rfl
  | append_singleton ms m ih =>
      rcases m with i | ⟨i, a⟩
      · have hstarts : starts (ms ++ [.start i]) = starts ms ++ [i] := by simp
        have hsame : itemsOf (ms ++ [.start i]) = itemsOf ms := by
          funext j
          simp
        rw [hstarts] at hnodup ⊢
        have hnew : i ∉ starts ms := fun hi =>
          (List.nodup_append.mp hnodup).2.2 i hi i (List.mem_singleton.mpr rfl) rfl
        rw [hsame, List.flatMap_append, List.flatMap_singleton, itemsOf_eq_nil hled.init hnew,
          List.append_nil, ← ih hled.init (List.nodup_append.mp hnodup).1]
        simp
      · have hstarts : starts (ms ++ [.item i a]) = starts ms := by simp
        rw [hstarts] at hnodup ⊢
        -- the group of the item is the last one
        obtain ⟨before, hbefore⟩ := List.getLast?_eq_some_iff.mp (hled ms i a [] rfl)
        have hitems : items (ms ++ [.item i a]) = items ms ++ [a] := by simp
        have hown : itemsOf (ms ++ [.item i a]) i = itemsOf ms i ++ [a] := by simp
        have hothers : ∀ j ∈ before, itemsOf (ms ++ [.item i a]) j = itemsOf ms j := by
          intro j hj
          rw [hbefore] at hnodup
          have hne : i ≠ j := fun hij =>
            (List.nodup_append.mp hnodup).2.2 j hj i (List.mem_singleton.mpr rfl) hij.symm
          simp [hne]
        rw [hitems, ih hled.init hnodup, hbefore, List.flatMap_append, List.flatMap_append,
          List.flatMap_singleton, List.flatMap_singleton, hown, List.flatMap_congr hothers,
          List.append_assoc]

end Rollout.Lib
