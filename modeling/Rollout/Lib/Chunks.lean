import Mathlib.Algebra.Order.Ring.Nat
import Mathlib.Data.List.Basic
import Mathlib.Tactic.Linarith
import Mathlib.Tactic.Ring

/-!
# Reading in chunks

* `fullChunks`, `lastChunk` — a list cut into pieces of one length and what is left over.
* `Reader` — a source that gives some items at each read, how many is its choice, and then ends or
  breaks off.
* `fillLoop` — a buffer is filled by reads and handed on whenever it is full, and once more at the
  end. What it hands on is the cut of the list (`fillLoop_eq`): the reads do not matter.
-/

namespace Rollout.Lib

variable {α β : Type} {m : Type → Type}

/-! ## The cut of a list -/

/-- The pieces of length `c`. Source: none: infrastructure. Kind: D -/
def fullChunks (c : ℕ) (l : List α) : List (List α) :=
  (List.range (l.length / c)).map fun i => (l.drop (c * i)).take c

/-- What is left over. Source: none: infrastructure. Kind: D -/
def lastChunk (c : ℕ) (l : List α) : List α := l.drop (c * (l.length / c))

section cut

variable {c : ℕ} {l : List α}

@[simp] theorem length_fullChunks (c : ℕ) (l : List α) : (fullChunks c l).length = l.length / c := by
  simp [fullChunks]

@[simp] theorem length_lastChunk (c : ℕ) (l : List α) : (lastChunk c l).length = l.length % c := by
  rw [lastChunk, List.length_drop, Nat.mod_def]

theorem fullChunks_of_lt (h : l.length < c) : fullChunks c l = [] := by
  simp [fullChunks, Nat.div_eq_of_lt h]

theorem lastChunk_of_lt (h : l.length < c) : lastChunk c l = l := by
  simp [lastChunk, Nat.div_eq_of_lt h]

theorem length_div_append {p : List α} (hp : p.length = c) (hc : 0 < c) (l : List α) :
    (p ++ l).length / c = l.length / c + 1 := by
  rw [List.length_append, hp, Nat.add_div_left _ hc]

theorem fullChunks_append {p : List α} (hp : p.length = c) (hc : 0 < c) (l : List α) :
    fullChunks c (p ++ l) = p :: fullChunks c l := by
  unfold fullChunks
  rw [length_div_append hp hc, List.range_succ_eq_map, List.map_cons, List.map_map, Nat.mul_zero,
    List.drop_zero, ← hp, List.take_left]
  congr 1
  refine List.map_congr_left fun i _ => ?_
  show ((p ++ l).drop (p.length * (i + 1))).take p.length = _
  rw [Nat.mul_succ, Nat.add_comm, ← List.drop_drop, List.drop_left]

theorem lastChunk_append {p : List α} (hp : p.length = c) (hc : 0 < c) (l : List α) :
    lastChunk c (p ++ l) = lastChunk c l := by
  unfold lastChunk
  rw [length_div_append hp hc, Nat.mul_succ, Nat.add_comm, ← List.drop_drop, ← hp, List.drop_left]

/-- Every piece has its length. Source: none: infrastructure. Kind: L -/
theorem length_of_mem_fullChunks {p : List α} (h : p ∈ fullChunks c l) : p.length = c := by
  obtain ⟨i, hi, rfl⟩ := List.mem_map.mp h
  have hlt := List.mem_range.mp hi
  have hle : c * (i + 1) ≤ c * (l.length / c) := Nat.mul_le_mul_left c hlt
  have hlen := Nat.mul_div_le l.length c
  rw [Nat.mul_succ] at hle
  rw [List.length_take, List.length_drop]
  omega

/-- The pieces and what is left over are the list. Source: none: infrastructure. Kind: L -/
theorem flatten_fullChunks (c : ℕ) (l : List α) :
    (fullChunks c l).flatten ++ lastChunk c l = l := by
  have htake : ∀ n, n ≤ l.length / c →
      ((List.range n).map fun i => (l.drop (c * i)).take c).flatten = l.take (c * n) := by
    intro n
    induction n with
    | zero => simp
    | succ n ih =>
        intro hn
        rw [List.range_succ, List.map_append, List.flatten_append, ih (by omega), Nat.mul_succ,
          List.take_add]
        simp
  unfold fullChunks lastChunk
  rw [htake _ le_rfl, List.take_append_drop]

theorem lastChunk_eq_nil : lastChunk c l = [] ↔ c ∣ l.length := by
  rw [← List.length_eq_zero_iff, length_lastChunk, Nat.dvd_iff_mod_eq_zero]

end cut

/-! ## Readers -/

/-- A source of items: the items, how many each coming read gives at most beyond one, and why it
breaks off after them. Source: none: infrastructure. Kind: D -/
structure Reader (α : Type) where
  /-- What is still to come. -/
  rest : List α
  /-- How many the coming reads give at most, beyond one. -/
  wishes : ℕ → ℕ
  /-- Why it breaks off. -/
  ending : Option String

namespace Reader

/-- Read into some space: nothing only at the end. Source: none: infrastructure. Kind: D -/
def read (r : Reader α) (space : ℕ) : Except String (List α × Reader α) :=
  match r.rest, r.ending with
  | [], some e => .error e
  | rest, _ =>
      let n := min space (r.wishes 0 + 1)
      .ok (rest.take n, { r with rest := rest.drop n, wishes := fun i => r.wishes (i + 1) })

theorem read_more {r : Reader α} (hne : r.rest ≠ []) {space : ℕ} (hspace : 0 < space) : ∃ piece r',
    r.read space = .ok (piece, r') ∧ piece ≠ [] ∧ piece.length ≤ space ∧
      piece ++ r'.rest = r.rest ∧ r'.ending = r.ending := by
  obtain ⟨rest, wishes, ending⟩ := r
  cases rest with
  | nil => exact absurd rfl hne
  | cons x rest =>
      refine ⟨_, _, rfl, ?_, ?_, List.take_append_drop _ _, rfl⟩
      · have hn : 0 < min space (wishes 0 + 1) := by omega
        intro h
        have hlen := congrArg List.length h
        simp only [List.length_take, List.length_cons, List.length_nil] at hlen
        omega
      · rw [List.length_take]
        omega

theorem read_eof {r : Reader α} (hnil : r.rest = []) (hend : r.ending = none) (space : ℕ) :
    ∃ r', r.read space = .ok ([], r') := by
  unfold read
  rw [hnil, hend]
  exact ⟨_, by simp only [List.take_nil]; rfl⟩

theorem read_broken {r : Reader α} (hnil : r.rest = []) {e : String} (hend : r.ending = some e)
    (space : ℕ) : r.read space = .error e := by
  unfold read
  rw [hnil, hend]

theorem read_length {r r' : Reader α} {space : ℕ} {x : α} {piece : List α}
    (h : r.read space = .ok (x :: piece, r')) : r'.rest.length < r.rest.length := by
  have hne : r.rest ≠ [] := by
    intro hnil
    cases hend : r.ending with
    | some e =>
        rw [read_broken hnil hend] at h
        cases h
    | none =>
        obtain ⟨_, hread⟩ := read_eof hnil hend space
        rw [hread] at h
        cases h
  have hspace : 0 < space := by
    by_contra hzero
    obtain rfl : space = 0 := by omega
    unfold read at h
    split at h
    · cases h
    · simp at h
  obtain ⟨piece', r'', hread, hpiece, -, happend, -⟩ := read_more hne hspace
  rw [hread] at h
  cases h
  rw [← happend, List.length_append, List.length_cons]
  omega

end Reader

/-! ## The loop -/

/-- Fill a buffer of `c` items, hand it on when it is full, and hand on what there is at the end.
Source: none: infrastructure. Kind: D -/
def fillLoop [Monad m] (c : ℕ) (full : List α → m Unit) (last : List α → m β)
    (broken : String → m β) (r : Reader α) (filled : List α) : m β :=
  match _h : r.read (c - filled.length) with
  | .error e => broken e
  | .ok ([], _) => last filled
  | .ok (x :: piece, r') =>
      if (filled ++ x :: piece).length = c then do
        full (filled ++ x :: piece)
        fillLoop c full last broken r' []
      else fillLoop c full last broken r' (filled ++ x :: piece)
termination_by r.rest.length
decreasing_by all_goals exact Reader.read_length _h

/-- **The loop hands on the cut of the list**, whatever the reads give.
Source: none: infrastructure. Kind: P -/
theorem fillLoop_eq [Monad m] [LawfulMonad m] {c : ℕ} {full : List α → m Unit}
    {last : List α → m β} {broken : String → m β} (r : Reader α) {filled : List α}
    (hfilled : filled.length < c) : fillLoop c full last broken r filled = (do
      forM (fullChunks c (filled ++ r.rest)) full
      match r.ending with
      | none => last (lastChunk c (filled ++ r.rest))
      | some e => broken e) := by
  -- by induction on what is still to come
  induction hn : r.rest.length using Nat.strong_induction_on generalizing r filled with
  | _ n ih =>
      subst hn
      by_cases hnil : r.rest = []
      · rw [hnil, List.append_nil, fullChunks_of_lt hfilled, lastChunk_of_lt hfilled, fillLoop]
        cases hend : r.ending with
        | some e =>
            have hread := Reader.read_broken hnil hend (c - filled.length)
            split
            · next heq => rw [hread] at heq; cases heq; simp
            · next heq => rw [hread] at heq; cases heq
            · next heq => rw [hread] at heq; cases heq
        | none =>
            obtain ⟨r', hread⟩ := Reader.read_eof hnil hend (c - filled.length)
            split
            · next heq => rw [hread] at heq; cases heq
            · simp
            · next heq => rw [hread] at heq; cases heq
      · obtain ⟨piece, r', hread, hpiece, hle, happend, hending⟩ :=
          Reader.read_more hnil (show 0 < c - filled.length by omega)
        have hless : r'.rest.length < r.rest.length := by
          rw [← happend, List.length_append]
          have := List.length_pos_of_ne_nil hpiece
          omega
        rw [fillLoop]
        split
        · next heq => rw [hread] at heq; cases heq
        · next heq => rw [hread] at heq; cases heq; exact absurd rfl hpiece
        · next x piece' r'' heq =>
            rw [hread] at heq
            cases heq
            have hlist : filled ++ r.rest = (filled ++ x :: piece') ++ r'.rest := by
              rw [List.append_assoc, happend]
            rw [hlist]
            by_cases hfull : (filled ++ x :: piece').length = c
            · rw [if_pos hfull, ih _ hless r' (show [].length < c from by simp; omega) rfl,
                List.nil_append, fullChunks_append hfull (by omega),
                lastChunk_append hfull (by omega), List.forM_cons, hending, bind_assoc]
            · rw [if_neg hfull, ih _ hless r' ?_ rfl, hending]
              have hlen : (filled ++ x :: piece').length = filled.length + (x :: piece').length :=
                List.length_append
              omega

end Rollout.Lib
