import Mathlib.Data.List.Nodup
import Mathlib.Data.List.Sort
import Mathlib.Data.Set.Card

/-!
# Stable sorting and ranks

* `pairwise_mergeSort_stable` — a stable sort of a list keeps the order in which the list stands
  among elements the sort does not tell apart; `mergeSort_eq_insertionSort` — it is their insertion
  one by one, which evaluates.
* `filter_eq_of_pairwise` — in a list that stands in a strict order, what comes before an element in
  the list is what comes before it in the order.
* `length_filter_eq_ncard` — counted in a list or in the set of its elements.
-/

set_option linter.unusedSectionVars false

namespace Rollout.Lib

variable {α : Type}

/-- **A stable sort orders by `le`, and by the place in the list where `le` does not decide.**
Source: none: infrastructure. Kind: L -/
theorem pairwise_mergeSort_stable {le : α → α → Bool} (htrans : ∀ a b c, le a b → le b c → le a c)
    (htotal : ∀ a b, le a b || le b a) {lt : α → α → Prop} {l : List α} (hl : l.Pairwise lt) :
    (l.mergeSort le).Pairwise fun a b => le a b ∧ (le b a → lt a b) := by
  -- the sort is that of the elements with their places, which decide where `le` does not
  have hsorted := List.pairwise_mergeSort (List.zipIdxLE_trans htrans) (List.zipIdxLE_total htotal)
    l.zipIdx
  have hnodup : (l.zipIdx.mergeSort (List.zipIdxLE le)).Nodup := by
    rw [(List.mergeSort_perm _ _).nodup_iff]
    refine List.Nodup.of_map Prod.snd ?_
    rw [List.zipIdx_map_snd]
    exact List.nodup_range'
  rw [← List.mergeSort_zipIdx, List.pairwise_map]
  refine (hsorted.and hnodup).imp_of_mem ?_
  rintro ⟨a, i⟩ ⟨b, j⟩ ha hb ⟨hle, hne⟩
  rw [List.mem_mergeSort, List.mk_mem_zipIdx_iff_getElem?] at ha hb
  simp only [List.zipIdxLE] at hle
  split at hle
  · next hab =>
    refine ⟨hab, fun hba => ?_⟩
    rw [if_pos hba, decide_eq_true_eq] at hle
    obtain ⟨hi, rfl⟩ := List.getElem?_eq_some_iff.mp ha
    obtain ⟨hj, rfl⟩ := List.getElem?_eq_some_iff.mp hb
    have hij : i ≠ j := by
      rintro rfl
      exact hne rfl
    exact List.pairwise_iff_getElem.mp hl i j hi hj (by omega)
  · cases hle

/-- **A stable sort is the insertion of its elements**, each in front of those it does not tell apart.
Source: none: infrastructure. Kind: L -/
theorem mergeSort_eq_insertionSort {le : α → α → Bool} (htrans : ∀ a b c, le a b → le b c → le a c)
    (htotal : ∀ a b, le a b || le b a) (l : List α) :
    l.mergeSort le = l.insertionSort fun a b => le a b = true := by
  induction l with
  | nil => exact List.mergeSort_nil
  | cons a l ih =>
      obtain ⟨before, after, hcons, hrest, hbefore⟩ := List.mergeSort_cons htrans htotal a l
      have hsorted := List.pairwise_mergeSort htrans htotal (a :: l)
      rw [hcons] at hsorted ⊢
      rw [List.insertionSort_cons, ← ih, hrest]
      clear hcons hrest
      induction before with
      | nil =>
          cases after with
          | nil => rfl
          | cons b after =>
              have hab := (List.pairwise_cons.mp hsorted).1 b List.mem_cons_self
              exact (List.orderedInsert_cons_of_le _ after hab).symm
      | cons b before ih =>
          have hb : ¬ le a b = true := by simpa using hbefore b List.mem_cons_self
          rw [List.cons_append, List.cons_append, List.orderedInsert_cons, if_neg hb, ← ih]
          · exact fun x hx => hbefore x (List.mem_cons_of_mem _ hx)
          · exact (List.pairwise_cons.mp hsorted).2
/-- What comes before an element. Source: none: infrastructure. Kind: L -/
theorem filter_eq_of_pairwise {r : α → α → Prop} [DecidableRel r] (hirrefl : ∀ a, ¬ r a a)
    (hasymm : ∀ a b, r a b → ¬ r b a) {before after : List α} {a : α}
    (h : (before ++ a :: after).Pairwise r) :
    ((before ++ a :: after).filter fun b => decide (r b a)) = before := by
  rw [List.pairwise_append, List.pairwise_cons] at h
  obtain ⟨-, ⟨hafter, -⟩, hbefore⟩ := h
  have h₁ : before.filter (fun b => decide (r b a)) = before :=
    List.filter_eq_self.mpr fun b hb => decide_eq_true (hbefore b hb a (List.mem_cons_self ..))
  have h₂ : (a :: after).filter (fun b => decide (r b a)) = [] := by
    rw [List.filter_eq_nil_iff]
    intro b hb
    rw [decide_eq_true_eq]
    rcases List.mem_cons.mp hb with rfl | hb
    · exact hirrefl b
    · exact hasymm a b (hafter b hb)
  rw [List.filter_append, h₁, h₂, List.append_nil]

/-- The elements of a list without repetitions that satisfy a predicate, counted.
Source: none: infrastructure. Kind: L -/
theorem length_filter_eq_ncard {l : List α} (hl : l.Nodup) {p : α → Bool} {s : Set α}
    (hs : ∀ a, a ∈ s ↔ a ∈ l ∧ p a = true) : (l.filter p).length = s.ncard := by
  classical
  have hset : s = ((l.filter p).toFinset : Set α) := by
    ext a
    rw [hs, List.coe_toFinset, Set.mem_ofPred_eq, List.mem_filter]
  rw [hset, Set.ncard_coe_finset, List.toFinset_card_of_nodup (hl.filter p)]

end Rollout.Lib
