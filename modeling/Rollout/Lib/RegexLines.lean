import Mathlib.Data.List.TakeWhile
import Rollout.Lib.Regex

/-!
# Patterns of lines

* `joinTail` — the lines after the first one; `eq_append_joinTail` — a text from its lines.
* `Regex.onLine` — a line that starts with a character of a class, after white space that may hold
  newlines; `countFrom_line`, `countFrom_blank`, `countFrom_joinTail` — the rules for counting it line
  by line.
-/

namespace Rollout.Lib

/-- The lines that follow another one, each after its newline. Source: none: infrastructure.
Kind: D -/
def joinTail : List (List Char) → List Char
  | [] => []
  | line :: lines => '\n' :: (line ++ joinTail lines)

theorem eq_append_joinTail {s line : List Char} {lines : List (List Char)}
    (h : s.splitOn '\n' = line :: lines) : s = line ++ joinTail lines := by
  have hjoin : ∀ line lines, ['\n'].intercalate (line :: lines) = line ++ joinTail lines := by
    intro line lines
    induction lines generalizing line with
    | nil => simp [joinTail]
    | cons next lines ih =>
        rw [joinTail, ← ih]
        simp [List.intercalate]
  have hs : ['\n'].intercalate (s.splitOn '\n') = s := List.intercalate_splitOn '\n'
  rw [← hs, h, hjoin]

namespace Regex

/-! ## Patterns -/

/-- A line that starts with a character of a class, after white space.
Source: none: infrastructure. Kind: D -/
def onLine (sp x : Char → Bool) (k : Regex) : Regex :=
  .seq .lineStart (.seq (.run true sp) (.seq (.char x) k))

/-- The rest of the line. Source: none: infrastructure. Kind: D -/
def toLineEnd : Regex := .seq (.run true fun c => c != '\n') .lineEnd

/-- What is found from the next line on. Source: none: infrastructure. Kind: D -/
def countNext (r : Regex) : List (List Char) → Nat
  | [] => 0
  | line :: lines => r.countFrom ⟨some '\n', line ++ joinTail lines⟩

theorem head?_ends_toLineEnd {m : List Char} (hm : '\n' ∉ m) (prev : Option Char)
    (lines : List (List Char)) :
    (toLineEnd.ends ⟨prev, m ++ joinTail lines⟩).head? = some ⟨lastChar prev m, joinTail lines⟩ := by
  have hend : runEnd (fun c => c != '\n') prev (m ++ joinTail lines) =
      ⟨lastChar prev m, joinTail lines⟩ := by
    rw [runEnd_append fun c hc => bne_iff_ne.mpr (ne_of_mem_of_not_mem hc hm)]
    cases lines with
    | nil => rfl
    | cons line lines => exact runEnd_cons_of_not (by simp)
  refine head?_flatMap_runs ?_
  rw [hend]
  cases lines with
  | nil => rfl
  | cons line lines => rfl

section onLine

variable {sp x : Char → Bool} {k : Regex} {prev : Option Char} {m : List Char}
variable {lines : List (List Char)}

theorem ends_onLine_of_not {a : Place} (ha : ¬ a.startsLine = true) :
    (onLine sp x k).ends a = [] := by
  simp [onLine, ends, ha]

theorem ends_onLine (hx : ∀ c, sp c = true → ¬ x c = true) {a : Place} (ha : a.startsLine = true) :
    (onLine sp x k).ends a = (Regex.seq (.char x) k).ends (runEnd sp a.prev a.rest) := by
  have hk : ∀ prev c cs, sp c = true → (Regex.seq (.char x) k).ends ⟨prev, c :: cs⟩ = [] := by
    intro prev c cs hc
    simp [ends, hx c hc]
  rw [← flatMap_runs_reverse hk]
  simp [onLine, ends, ha]

/-- The pattern at the start of a line that is not blank. Source: none: infrastructure. Kind: L -/
theorem ends_onLine_of_dropWhile (hx : ∀ c, sp c = true → ¬ x c = true)
    (hprev : prev = none ∨ prev = some '\n') {c : Char} {cs : List Char}
    (hm : m.dropWhile sp = c :: cs) (rest : List Char) :
    (onLine sp x k).ends ⟨prev, m ++ rest⟩ =
      (Regex.seq (.char x) k).ends ⟨lastChar prev (m.takeWhile sp), c :: (cs ++ rest)⟩ := by
  have hc : ¬ sp c = true := by
    have hhead := List.head_dropWhile_not sp (l := m) (by simp [hm])
    simpa [hm] using hhead
  have hrun : runEnd sp prev (m ++ rest) =
      ⟨lastChar prev (m.takeWhile sp), c :: (cs ++ rest)⟩ := by
    have hsplit : m ++ rest = m.takeWhile sp ++ c :: (cs ++ rest) := by
      rw [← List.cons_append, ← hm, ← List.append_assoc, List.takeWhile_append_dropWhile]
    rw [hsplit, runEnd_append fun d hd => List.mem_takeWhile_imp hd]
    exact runEnd_cons_of_not hc
  rw [ends_onLine hx, hrun]
  rcases hprev with rfl | rfl <;> rfl

/-- Nothing is found on a line where nothing is found at its start.
Source: none: infrastructure. Kind: L -/
theorem countFrom_line (hm : '\n' ∉ m)
    (h : ((onLine sp x k).ends ⟨prev, m ++ joinTail lines⟩).head? = none) :
    (onLine sp x k).countFrom ⟨prev, m ++ joinTail lines⟩ = (onLine sp x k).countNext lines := by
  induction m generalizing prev with
  | nil =>
      cases lines with
      | nil => rfl
      | cons line lines => exact countFrom_of_none h
  | cons c m ih =>
      have hc : c ≠ '\n' := fun hc => hm (hc ▸ List.mem_cons_self)
      rw [List.cons_append] at h ⊢
      rw [countFrom_of_none h]
      refine ih (fun h => hm (List.mem_cons_of_mem _ h)) ?_
      rw [ends_onLine_of_not]
      · rfl
      · simp [Place.startsLine, hc]

theorem lt_of_mem_ends {e a : Place} (h : e ∈ (Regex.seq (.char x) k).ends a) :
    e.rest.length < a.rest.length := by
  obtain ⟨b, hb, he⟩ := List.mem_flatMap.mp h
  rcases a with ⟨prev, - | ⟨c, cs⟩⟩
  · cases hb
  · unfold ends at hb
    split at hb
    · obtain rfl := List.mem_singleton.mp hb
      exact Nat.lt_succ_of_le (leads_of_mem_ends he).length_le
    · cases hb

/-- A line of white space is skipped: what is found at its start is what is found at the start of
the next one. Source: none: infrastructure. Kind: L -/
theorem countFrom_blank (hx : ∀ c, sp c = true → ¬ x c = true) (hnl : sp '\n' = true)
    (hprev : prev = none ∨ prev = some '\n') (hm : '\n' ∉ m) (hblank : ∀ c ∈ m, sp c = true) :
    (onLine sp x k).countFrom ⟨prev, m ++ joinTail lines⟩ = (onLine sp x k).countNext lines := by
  have hstart : Place.startsLine ⟨prev, m ++ joinTail lines⟩ = true := by
    rcases hprev with rfl | rfl <;> rfl
  have hhere := ends_onLine (k := k) hx hstart
  cases lines with
  | nil =>
      refine countFrom_line hm ?_
      rw [hhere, runEnd_append hblank]
      rfl
  | cons line lines =>
      have hnext : (onLine sp x k).ends ⟨some '\n', line ++ joinTail lines⟩ =
          (Regex.seq (.char x) k).ends (runEnd sp (some '\n') (line ++ joinTail lines)) :=
        ends_onLine hx rfl
      have hsame : (onLine sp x k).ends ⟨prev, m ++ joinTail (line :: lines)⟩ =
          (onLine sp x k).ends ⟨some '\n', line ++ joinTail lines⟩ := by
        rw [hhere, hnext, runEnd_append hblank, joinTail, runEnd, if_pos hnl]
      cases hfirst : ((onLine sp x k).ends ⟨some '\n', line ++ joinTail lines⟩).head? with
      | none => exact countFrom_line hm ((congrArg List.head? hsame).trans hfirst)
      | some e =>
          have hlt : e.rest.length < (line ++ joinTail lines).length := by
            have hmem := List.mem_of_head? hfirst
            rw [hnext] at hmem
            exact Nat.lt_of_lt_of_le (lt_of_mem_ends hmem) (leads_runEnd ..).length_le
          have hlonger : (line ++ joinTail lines).length <
              (m ++ joinTail (line :: lines)).length := by
            simp only [joinTail, List.length_append, List.length_cons]
            omega
          rw [countFrom_of_match ((congrArg List.head? hsame).trans hfirst)
            (Nat.lt_trans hlt hlonger)]
          exact (countFrom_of_match hfirst hlt).symm

/-- What is found from the end of a line on. Source: none: infrastructure. Kind: L -/
theorem countFrom_joinTail (hx : ∀ c, sp c = true → ¬ x c = true) (hnl : sp '\n' = true) :
    (onLine sp x k).countFrom ⟨prev, joinTail lines⟩ = (onLine sp x k).countNext lines := by
  by_cases hprev : prev = none ∨ prev = some '\n'
  · exact countFrom_blank (m := []) hx hnl hprev (by simp) (by simp)
  · refine countFrom_line (m := []) (by simp) ?_
    rw [ends_onLine_of_not]
    · rfl
    · simpa [Place.startsLine] using hprev

end onLine

end Regex

end Rollout.Lib
