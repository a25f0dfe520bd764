import Mathlib.Data.List.Basic

/-!
# Lists joined by a separator

* `joinParts`, `splitParts` — parts with a separator between them, and the parts of a list that may
  be empty: no parts and one empty part are joined alike, and are read back as no parts.
* `splitParts_joinParts_iff` — which parts are read back; `splitParts_take_iff` — the same when the
  joined list is cut off.
-/

set_option linter.unusedSectionVars false

namespace Rollout.Lib

variable {α : Type} [DecidableEq α] {sep : α}

/-- Parts with a separator between them. Source: none: infrastructure. Kind: D -/
def joinParts (sep : α) (parts : List (List α)) : List α := [sep].intercalate parts

/-- The parts between separators; the empty list has none.
Source: none: infrastructure. Kind: D -/
def splitParts (sep : α) (xs : List α) : List (List α) := if xs = [] then [] else xs.splitOn sep

/-- Parts that are read back: none holds the separator, and there is not just an empty one.
Source: none: infrastructure. Kind: D -/
def Separable (sep : α) (parts : List (List α)) : Prop := (∀ p ∈ parts, sep ∉ p) ∧ parts ≠ [[]]

instance (sep : α) (parts : List (List α)) : Decidable (Separable sep parts) :=
  inferInstanceAs (Decidable (_ ∧ _))

theorem sep_not_mem_splitOn (xs : List α) : ∀ p ∈ xs.splitOn sep, sep ∉ p := by
  induction xs with
  | nil => simp
  | cons x xs ih =>
      rw [List.splitOn_cons_eq_if_modifyHead]
      split
      · simpa using ih
      · next hx =>
        rcases hsplit : xs.splitOn sep with - | ⟨p, parts⟩
        · exact absurd hsplit (List.splitOn_ne_nil sep xs)
        · rw [hsplit] at ih
          have hne : sep ≠ x := fun h => hx (by simp [h])
          simpa [hne] using ih

theorem joinParts_eq_nil {parts : List (List α)} :
    joinParts sep parts = [] ↔ parts = [] ∨ parts = [[]] := by
  unfold joinParts
  rcases parts with - | ⟨p, - | ⟨q, parts⟩⟩
  · simp
  · simp
  · simp

/-- What is split is joined again. Source: none: infrastructure. Kind: L -/
theorem joinParts_splitParts (xs : List α) : joinParts sep (splitParts sep xs) = xs := by
  unfold splitParts
  split
  · next h => rw [h]; rfl
  · exact List.intercalate_splitOn sep

/-- **Which parts are read back.** Source: none: infrastructure. Kind: P -/
theorem splitParts_joinParts_iff {parts : List (List α)} :
    splitParts sep (joinParts sep parts) = parts ↔ Separable sep parts := by
  constructor
  · intro h
    rw [← h]
    unfold splitParts
    split
    · exact ⟨by simp, by simp⟩
    · next hne =>
      refine ⟨sep_not_mem_splitOn _, fun hone => hne ?_⟩
      have hjoin : [sep].intercalate ((joinParts sep parts).splitOn sep) = joinParts sep parts :=
        List.intercalate_splitOn sep
      rw [hone] at hjoin
      simpa using hjoin.symm
  · rintro ⟨hsep, hone⟩
    by_cases hnil : parts = []
    · subst hnil
      rfl
    · have hjoin : joinParts sep parts ≠ [] := fun h => (joinParts_eq_nil.mp h).elim hnil hone
      rw [splitParts, if_neg hjoin]
      exact List.splitOn_intercalate sep hsep hnil

/-- **Which parts are read back from what is left after a cut**: those that are read back and fit.
Source: none: infrastructure. Kind: P -/
theorem splitParts_take_iff {parts : List (List α)} {n : Nat} :
    splitParts sep ((joinParts sep parts).take n) = parts ↔
      Separable sep parts ∧ (joinParts sep parts).length ≤ n := by
  constructor
  · intro h
    have hjoin : joinParts sep (splitParts sep ((joinParts sep parts).take n)) =
        (joinParts sep parts).take n := joinParts_splitParts _
    rw [h] at hjoin
    rw [← hjoin] at h
    refine ⟨splitParts_joinParts_iff.mp h, ?_⟩
    rw [hjoin]
    exact List.length_take_le n _
  · rintro ⟨hsep, hlength⟩
    rw [List.take_of_length_le hlength]
    exact splitParts_joinParts_iff.mpr hsep

end Rollout.Lib
