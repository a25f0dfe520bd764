import Mathlib.Data.List.Induction
import Rollout.Coordinator.Steal

/-!
# The busiest worker

* `tally` — how many items each worker owns, as `busiest` counts them; `tally_spec` says that these
  are the counts.
* `BacklogLe` — the order by backlog and then by id; `foldl_busier_eq_some` and
  `foldl_busier_perm`: `busiest` finds the greatest worker, in whatever order the counts come.
-/

set_option linter.unusedSectionVars false

namespace Rollout.Coordinator.Ledger

open Rollout.Lib Rollout.Core Rollout.Coordinator.WorkItem

/-! ## Counting -/

/-- The owners of the items that others than `exclude` run.
Source: `rollout-coordinator/src/ledger.rs` `busiest`. Kind: D -/
def ownersBut (recs : List WorkItemRecord) (exclude : WorkerId) : List WorkerId :=
  (recs.filterMap fun rec => rec.state.owner).filter fun w => w ≠ exclude

/-- The counts. Source: `rollout-coordinator/src/ledger.rs` `busiest` (`counts`). Kind: D -/
def tally (owners : List WorkerId) : List (WorkerId × Nat) :=
  owners.foldl (fun counts w => bump w counts) []

theorem busiestOf_eq (recs : List WorkItemRecord) (exclude : WorkerId) :
    busiestOf recs exclude = (tally (ownersBut recs exclude)).foldl busier none := rfl

theorem map_fst_bump (w : WorkerId) (counts : List (WorkerId × Nat)) :
    (bump w counts).map Prod.fst =
      if w ∈ counts.map Prod.fst then counts.map Prod.fst else counts.map Prod.fst ++ [w] := by
  induction counts with
  | nil => rfl
  | cons x counts ih =>
      obtain ⟨v, n⟩ := x
      rw [bump]
      by_cases hv : v = w
      · simp [hv]
      · rw [if_neg hv, List.map_cons, ih]
        simp only [List.map_cons, List.mem_cons, Ne.symm hv, false_or]
        split <;> rfl

/-- One more item for `w`. Source: `rollout-coordinator/src/ledger.rs` `busiest`. Kind: L -/
theorem mem_bump {w : WorkerId} {counts : List (WorkerId × Nat)}
    (hnodup : (counts.map Prod.fst).Nodup) {x : WorkerId × Nat} :
    x ∈ bump w counts ↔ x ∈ counts ∧ x.1 ≠ w ∨
      x.1 = w ∧ ((∃ n, (w, n) ∈ counts ∧ x.2 = n + 1) ∨ w ∉ counts.map Prod.fst ∧ x.2 = 1) := by
  induction counts with
  | nil => simp [bump, Prod.ext_iff]
  | cons y counts ih =>
      obtain ⟨v, n⟩ := y
      rw [List.map_cons, List.nodup_cons] at hnodup
      rw [bump]
      by_cases hv : v = w
      · subst hv
        have hrest : ∀ z ∈ counts, z.1 ≠ v := by
          rintro z hz rfl
          exact hnodup.1 (List.mem_map.mpr ⟨z, hz, rfl⟩)
        rw [if_pos rfl, List.mem_cons]
        constructor
        · rintro (rfl | hx)
          · exact .inr ⟨rfl, .inl ⟨n, List.mem_cons_self, rfl⟩⟩
          · exact .inl ⟨List.mem_cons_of_mem _ hx, hrest x hx⟩
        · rintro (⟨hx, hne⟩ | ⟨hw, ⟨m, hm, hx⟩ | ⟨hnot, -⟩⟩)
          · rcases List.mem_cons.mp hx with rfl | hx
            · exact absurd rfl hne
            · exact .inr hx
          · rcases List.mem_cons.mp hm with heq | hm
            · exact .inl (Prod.ext hw (hx.trans (by rw [(Prod.mk.inj heq).2])))
            · exact absurd rfl (hrest _ hm)
          · exact absurd List.mem_cons_self hnot
      · rw [if_neg hv, List.mem_cons, ih hnodup.2, List.mem_cons]
        have hhead : ∀ m, (w, m) ∈ (v, n) :: counts ↔ (w, m) ∈ counts := by
          intro m
          rw [List.mem_cons, or_iff_right]
          exact fun h => hv (Prod.mk.inj h).1.symm
        simp only [hhead, List.map_cons, List.mem_cons, Ne.symm hv, false_or]
        constructor
        · rintro (rfl | ⟨hx, hne⟩ | hw)
          · exact .inl ⟨.inl rfl, hv⟩
          · exact .inl ⟨.inr hx, hne⟩
          · exact .inr hw
        · rintro (⟨rfl | hx, hne⟩ | hw)
          · exact .inl rfl
          · exact .inr (.inl ⟨hx, hne⟩)
          · exact .inr (.inr hw)

/-- **The counts count.** Source: `rollout-coordinator/src/ledger.rs` `busiest`. Kind: P -/
theorem tally_spec (owners : List WorkerId) : ((tally owners).map Prod.fst).Nodup ∧
    ∀ x, x ∈ tally owners ↔ x.2 = owners.count x.1 ∧ x.1 ∈ owners := by
  induction owners using List.reverseRecOn with
  | nil => simp [tally]
  | append_singleton owners w ih =>
      obtain ⟨hnodup, hmem⟩ := ih
      have hstep : tally (owners ++ [w]) = bump w (tally owners) := by
        rw [tally, List.foldl_append]
        rfl
      have hfst : w ∈ (tally owners).map Prod.fst ↔ w ∈ owners := by
        rw [List.mem_map]
        constructor
        · rintro ⟨x, hx, rfl⟩
          exact ((hmem x).mp hx).2
        · intro hw
          exact ⟨(w, owners.count w), (hmem _).mpr ⟨rfl, hw⟩, rfl⟩
      rw [hstep]
      constructor
      · rw [map_fst_bump]
        split
        · exact hnodup
        · next hnot =>
          rw [List.nodup_append]
          refine ⟨hnodup, List.nodup_singleton w, ?_⟩
          rintro a ha b hb rfl
          exact hnot (List.mem_singleton.mp hb ▸ ha)
      · intro x
        obtain ⟨v, k⟩ := x
        rw [mem_bump hnodup, hfst]
        simp only [hmem, List.count_append, List.count_singleton, List.mem_append,
          List.mem_singleton]
        by_cases hv : v = w
        · subst hv
          by_cases hin : v ∈ owners
          · simp [hin]
          · have hzero := List.count_eq_zero_of_not_mem hin
            simp [hin, hzero]
        · simp [hv, Ne.symm hv]

/-! ## The greatest -/

/-- Backlogs in order, ties broken on the worker id.
Source: `rollout-coordinator/src/ledger.rs` `busiest` (`max_by`). Kind: D -/
def BacklogLe (x y : WorkerId × Nat) : Prop :=
  x.2 < y.2 ∨ x.2 = y.2 ∧ x.1.ulid.bits ≤ y.1.ulid.bits

theorem BacklogLe.refl (x : WorkerId × Nat) : BacklogLe x x := .inr ⟨rfl, BitVec.le_refl _⟩

theorem BacklogLe.trans {x y z : WorkerId × Nat} (hxy : BacklogLe x y) (hyz : BacklogLe y z) :
    BacklogLe x z := by
  unfold BacklogLe at *
  rcases hxy with hxy | ⟨hxy, hbits⟩ <;> rcases hyz with hyz | ⟨hyz, hbits'⟩
  · exact .inl (hxy.trans hyz)
  · exact .inl (hyz ▸ hxy)
  · exact .inl (hxy ▸ hyz)
  · exact .inr ⟨hxy.trans hyz, BitVec.le_trans hbits hbits'⟩

theorem BacklogLe.antisymm {x y : WorkerId × Nat} (hxy : BacklogLe x y) (hyx : BacklogLe y x) :
    x = y := by
  unfold BacklogLe at *
  have hbacklog : x.2 = y.2 := by omega
  have hbits : x.1.ulid.bits = y.1.ulid.bits := by
    rcases hxy with h | ⟨-, h⟩
    · omega
    · rcases hyx with h' | ⟨-, h'⟩
      · omega
      · exact BitVec.le_antisymm h h'
  obtain ⟨⟨⟨u⟩⟩, n⟩ := x
  obtain ⟨⟨⟨v⟩⟩, m⟩ := y
  simp only at hbacklog hbits
  rw [hbacklog, hbits]

/-- The larger of two backlogs. Source: `rollout-coordinator/src/ledger.rs` `busiest` (`max_by`).
Kind: L -/
theorem busier_spec (b x : WorkerId × Nat) :
    ∃ m, busier (some b) x = some m ∧ (m = b ∨ m = x) ∧ BacklogLe b m ∧ BacklogLe x m := by
  unfold busier
  simp only
  split
  · next h =>
    refine ⟨b, rfl, .inl rfl, .refl b, ?_⟩
    rcases h with h | ⟨h, hbits⟩
    · exact .inl h
    · exact .inr ⟨h.symm, BitVec.le_of_lt hbits⟩
  · next h =>
    rw [not_or, not_and] at h
    refine ⟨x, rfl, .inr rfl, ?_, .refl x⟩
    by_cases heq : b.2 = x.2
    · exact .inr ⟨heq, BitVec.not_lt.mp (h.2 heq)⟩
    · exact .inl (by omega)

theorem foldl_busier_some (counts : List (WorkerId × Nat)) (b : WorkerId × Nat) :
    ∃ m, counts.foldl busier (some b) = some m ∧ (m = b ∨ m ∈ counts) ∧ BacklogLe b m ∧
      ∀ x ∈ counts, BacklogLe x m := by
  induction counts generalizing b with
  | nil => exact ⟨b, rfl, .inl rfl, .refl b, by simp⟩
  | cons x counts ih =>
      obtain ⟨m, hm, hcase, hb, hx⟩ := busier_spec b x
      obtain ⟨m', hm', hcase', hle, hall⟩ := ih m
      refine ⟨m', by rw [List.foldl_cons, hm, hm'], ?_, hb.trans hle, ?_⟩
      · rcases hcase' with rfl | hmem
        · rcases hcase with rfl | rfl
          · exact .inl rfl
          · exact .inr List.mem_cons_self
        · exact .inr (List.mem_cons_of_mem _ hmem)
      · intro y hy
        rcases List.mem_cons.mp hy with rfl | hy
        · exact hx.trans hle
        · exact hall y hy

/-- The maximum of some counts is their greatest element.
Source: `rollout-coordinator/src/ledger.rs` `busiest` (`max_by`). Kind: P -/
theorem foldl_busier_eq_some {counts : List (WorkerId × Nat)} {m : WorkerId × Nat} :
    counts.foldl busier none = some m ↔ m ∈ counts ∧ ∀ x ∈ counts, BacklogLe x m := by
  cases counts with
  | nil => simp
  | cons x counts =>
      obtain ⟨m', hm', hcase, hx, hall⟩ := foldl_busier_some counts x
      have hmem : m' ∈ x :: counts := List.mem_cons.mpr hcase
      have hmax : ∀ y ∈ x :: counts, BacklogLe y m' := by
        intro y hy
        rcases List.mem_cons.mp hy with rfl | hy
        · exact hx
        · exact hall y hy
      have hfold : (x :: counts).foldl busier none = some m' := hm'
      rw [hfold, Option.some.injEq]
      constructor
      · rintro rfl
        exact ⟨hmem, hmax⟩
      · rintro ⟨hm, hle⟩
        exact (hle m' hmem).antisymm (hmax m hm)

theorem foldl_busier_eq_none {counts : List (WorkerId × Nat)} :
    counts.foldl busier none = none ↔ counts = [] := by
  cases counts with
  | nil => simp
  | cons x counts =>
      obtain ⟨m, hm, -⟩ := foldl_busier_some counts x
      have hfold : (x :: counts).foldl busier none = some m := hm
      simp [hfold]

/-- **The maximum does not depend on the order of the counts.**
Source: `rollout-coordinator/src/ledger.rs` `busiest` (`HashMap`). Kind: P -/
theorem foldl_busier_perm {counts order : List (WorkerId × Nat)} (h : order.Perm counts) :
    order.foldl busier none = counts.foldl busier none := by
  apply Option.ext
  intro m
  rw [foldl_busier_eq_some, foldl_busier_eq_some]
  simp only [h.mem_iff]

end Rollout.Coordinator.Ledger
