import Rollout.Core.Snapshot
import Rollout.Lib.StableSort
import Rollout.Storage.Embedded

/-!
# Pruning snapshots

* `applyPrune` — the metadata rows of a run are read in the order of their keys, sorted by time, and
  those the policy does not keep are deleted, each in a transaction of its own. Decoding a row is a
  parameter.
* `Precedes`, `Kept` — what the policy keeps, without the sort: the rank of a row is the number of
  rows of the run that are newer, or as new with a smaller key.
* `applyPrune_spec` — pruning deletes the rows that are not kept, and only them.
-/

set_option linter.unusedSectionVars false

namespace Rollout.Snapshots

open Rollout.Lib Rollout.Core Rollout.Backends

/-! ## Pruning -/

/-- The prefix of a run's rows. Source: `rollout-snapshots/src/key.rs` `run_prefix`. Kind: D -/
def runPrefix (runId : RunId) : StorageKey := ⟨"snapshots", some runId, []⟩

/-- Read a row. Source: `rollout-snapshots/src/policy.rs` `apply_prune`
(`serde_json::from_slice`). Kind: D -/
def decodeRow (fromSlice : Bytes → Except String Snapshot) (row : StorageKey × Bytes) :
    Except CoreError (StorageKey × Snapshot) :=
  match fromSlice row.2 with
  | .ok snap => .ok (row.1, snap)
  | .error e => .error (.internal ("json decode Snapshot: " ++ e))

/-- The age of a snapshot, zero when it lies in the future.
Source: `rollout-snapshots/src/policy.rs` `apply_prune`
(`(now - snap.created_at).to_std().unwrap_or_default()`). Kind: D -/
def age (now : Int) (snap : Snapshot) : Nat := (now - snap.createdAt).toNat

/-- Whether the snapshot at a place of the sorted list is kept.
Source: `rollout-snapshots/src/policy.rs` `apply_prune`. Kind: D -/
def survives (retention : RetentionPolicy) (now : Int) (idx : Nat) (snap : Snapshot) : Bool :=
  -- the place as 32 bits, the largest when it does not fit
  decide ((if idx < 2 ^ 32 then idx else 2 ^ 32 - 1) < retention.keepLast.toNat) ||
    (retention.keepLabeled && snap.label.isSome) ||
    retention.maxAge.any fun maxAge => decide (age now snap < maxAge)

/-- One transaction that deletes a row.
Source: `rollout-snapshots/src/policy.rs` `apply_prune`. Kind: D -/
def deleteRow (key : StorageKey) : FailM EmbeddedStorage Unit := fun db =>
  match EmbeddedStorage.delete key db with
  | .ok db' => (.ok (), db')
  | .error e => (.error e, db)

/-- The loop over the sorted list: the place of the next one and how many are deleted.
Source: `rollout-snapshots/src/policy.rs` `apply_prune`. Kind: D -/
def pruneLoop (retention : RetentionPolicy) (now : Int) :
    Nat → Nat → List (StorageKey × Snapshot) → FailM EmbeddedStorage Nat
  | _, deleted, [] => return deleted
  | idx, deleted, (key, snap) :: snaps =>
      if survives retention now idx snap then pruneLoop retention now (idx + 1) deleted snaps
      else do
        deleteRow key
        pruneLoop retention now (idx + 1) (deleted + 1) snaps

/-- The newest first; ties stay as they are.
Source: `rollout-snapshots/src/policy.rs` `apply_prune` (`sort_by`). Kind: D -/
def newestFirst (snaps : List (StorageKey × Snapshot)) : List (StorageKey × Snapshot) :=
  snaps.mergeSort fun a b => decide (b.2.createdAt ≤ a.2.createdAt)

/-- Apply a retention policy at an instant: how many rows were deleted.
Source: `rollout-snapshots/src/policy.rs` `apply_prune`. Kind: D -/
def applyPrune (fromSlice : Bytes → Except String Snapshot) (policy : PrunePolicy) (now : Int) :
    FailM EmbeddedStorage Nat := do
  let rows ← ofExcept ((← get).scanBytes ⟨runPrefix policy.runId, none⟩)
  let snaps ← ofExcept (rows.mapM (decodeRow fromSlice))
  pruneLoop policy.retention now 0 0 (newestFirst snaps)

/-! ## What a policy keeps -/

/-- The key of a snapshot of a run. Source: `rollout-snapshots/src/key.rs` `run_prefix`. Kind: D -/
def InRun (runId : RunId) (key : StorageKey) : Prop := key.ns = "snapshots" ∧ key.runId = some runId

/-- The snapshots of a run that are stored. Source: none: infrastructure. Kind: D -/
def stored (fromSlice : Bytes → Except String Snapshot) (runId : RunId) (db : EmbeddedStorage) :
    Set (StorageKey × Snapshot) :=
  { p | InRun runId p.1 ∧ ∃ v, db.contents p.1 = some v ∧ fromSlice v = .ok p.2 }

/-- Newer, or as new with a smaller key.
Source: `rollout-snapshots/src/policy.rs` `apply_prune`. Kind: D -/
def Precedes (a b : StorageKey × Snapshot) : Prop :=
  b.2.createdAt < a.2.createdAt ∨
    b.2.createdAt = a.2.createdAt ∧ encodeKey a.1 < encodeKey b.1

/-- What the policy keeps: the newest, the labelled, the young.
Source: `rollout-core/src/traits/snapshot.rs` `RetentionPolicy`. Kind: D -/
def Kept (fromSlice : Bytes → Except String Snapshot) (policy : PrunePolicy) (now : Int)
    (db : EmbeddedStorage) (p : StorageKey × Snapshot) : Prop :=
  { q ∈ stored fromSlice policy.runId db | Precedes q p }.ncard < policy.retention.keepLast.toNat ∨
    (policy.retention.keepLabeled = true ∧ p.2.label.isSome) ∨
    ∃ maxAge, policy.retention.maxAge = some maxAge ∧ age now p.2 < maxAge

/-! ## The sorted list -/

section sorted

variable {fromSlice : Bytes → Except String Snapshot} {runId : RunId} {db : EmbeddedStorage}

theorem inRun_iff {key : StorageKey} : keyHasPrefix key (runPrefix runId) = true ↔
    InRun runId key := by
  unfold keyHasPrefix runPrefix InRun
  by_cases hns : key.ns = "snapshots" <;> simp [hns]

theorem precedes_irrefl (a : StorageKey × Snapshot) : ¬ Precedes a a := by
  rintro (h | ⟨-, h⟩)
  · exact lt_irrefl _ h
  · exact List.lt_irrefl _ h

theorem precedes_asymm (a b : StorageKey × Snapshot) (h : Precedes a b) : ¬ Precedes b a := by
  rintro (h' | ⟨heq, h'⟩)
  · rcases h with h | ⟨heq, -⟩ <;> omega
  · rcases h with h | ⟨-, h⟩
    · omega
    · exact List.lt_asymm h h'

instance : DecidableRel Precedes := fun a b => by
  unfold Precedes
  infer_instance

/-- Rows in the order of their keys, sorted by time, stand in the order of precedence.
Source: `rollout-snapshots/src/policy.rs` `apply_prune`. Kind: P -/
theorem pairwise_newestFirst {snaps : List (StorageKey × Snapshot)}
    (h : snaps.Pairwise fun a b => encodeKey a.1 < encodeKey b.1) :
    (newestFirst snaps).Pairwise Precedes := by
  have hstable := pairwise_mergeSort_stable
    (fun a b c : StorageKey × Snapshot => fun (hab : decide (b.2.createdAt ≤ a.2.createdAt) = true) hbc =>
      decide_eq_true (le_trans (of_decide_eq_true hbc) (of_decide_eq_true hab)))
    (fun a b => by simpa using le_total b.2.createdAt a.2.createdAt) h
  refine hstable.imp fun {a b} hab => ?_
  obtain ⟨hle, htie⟩ := hab
  rw [decide_eq_true_eq] at hle
  rcases lt_or_eq_of_le hle with hlt | heq
  · exact .inl hlt
  · exact .inr ⟨heq, htie (decide_eq_true heq.ge)⟩

/-- The rows read, in the order in which they come.
Source: `rollout-snapshots/src/policy.rs` `apply_prune`. Kind: P -/
theorem mapM_decodeRow {rows : List (StorageKey × Bytes)}
    (hdecode : ∀ row ∈ rows, ∃ snap, fromSlice row.2 = .ok snap) : ∃ snaps,
      rows.mapM (decodeRow fromSlice) = .ok snaps ∧ snaps.map Prod.fst = rows.map Prod.fst ∧
      ∀ p, p ∈ snaps ↔ ∃ v, (p.1, v) ∈ rows ∧ fromSlice v = .ok p.2 := by
  induction rows with
  | nil => exact ⟨[], rfl, rfl, fun p => by simp⟩
  | cons row rows ih =>
      obtain ⟨key, v⟩ := row
      obtain ⟨snap, hsnap⟩ := hdecode (key, v) (List.mem_cons_self ..)
      obtain ⟨snaps, hrun, hkeys, hmem⟩ := ih fun row h => hdecode row (List.mem_cons_of_mem _ h)
      refine ⟨(key, snap) :: snaps, ?_, by rw [List.map_cons, List.map_cons, hkeys], ?_⟩
      · rw [List.mapM_cons, hrun, decodeRow, hsnap]
        rfl
      · rintro ⟨key', snap'⟩
        simp only [List.mem_cons, hmem, Prod.mk.injEq, or_and_right, exists_or, and_assoc]
        refine or_congr_left ⟨?_, ?_⟩
        · rintro ⟨rfl, rfl⟩
          exact ⟨v, rfl, rfl, hsnap⟩
        · rintro ⟨v', rfl, rfl, hv⟩
          rw [hsnap] at hv
          exact ⟨rfl, (Except.ok.inj hv).symm⟩

theorem mapM_decodeRow_error {rows : List (StorageKey × Bytes)} {row : StorageKey × Bytes}
    (hrow : row ∈ rows) {e : String} (he : fromSlice row.2 = .error e) :
    ∃ e', rows.mapM (decodeRow fromSlice) = .error e' := by
  induction rows with
  | nil => cases hrow
  | cons r rows ih =>
      rw [List.mapM_cons]
      cases hr : decodeRow fromSlice r with
      | error e' => exact ⟨e', rfl⟩
      | ok p =>
          rcases List.mem_cons.mp hrow with rfl | hrow
          · rw [decodeRow, he] at hr
            cases hr
          · obtain ⟨e', hrest⟩ := ih hrow
            exact ⟨e', by rw [hrest]; rfl⟩

end sorted

/-! ## The loop -/

section loop

variable {retention : RetentionPolicy} {now : Int} {db : EmbeddedStorage}

/-- What is kept of a list. Source: `rollout-snapshots/src/policy.rs` `apply_prune`. Kind: D -/
def keptAmong (retention : RetentionPolicy) (now : Int) (snaps : List (StorageKey × Snapshot))
    (p : StorageKey × Snapshot) : Bool :=
  decide ((snaps.filter fun q => decide (Precedes q p)).length < retention.keepLast.toNat) ||
    (retention.keepLabeled && p.2.label.isSome) ||
    retention.maxAge.any fun maxAge => decide (age now p.2 < maxAge)

/-- At its place in a list in the order of precedence, a snapshot survives when it is kept of the
list. Source: `rollout-snapshots/src/policy.rs` `apply_prune`. Kind: P -/
theorem survives_eq {before after : List (StorageKey × Snapshot)} {p : StorageKey × Snapshot}
    (h : (before ++ p :: after).Pairwise Precedes) :
    survives retention now before.length p.2 = keptAmong retention now (before ++ p :: after) p := by
  have hrank := filter_eq_of_pairwise precedes_irrefl precedes_asymm h
  have hplace : ((if before.length < 2 ^ 32 then before.length else 2 ^ 32 - 1) <
      retention.keepLast.toNat) ↔ before.length < retention.keepLast.toNat := by
    have := retention.keepLast.isLt
    split <;> omega
  unfold survives keptAmong
  rw [hrank, decide_eq_decide.mpr hplace]

theorem deleteRow_apply {key : StorageKey} (h : key.ns ∈ allTables) (hcoded : db.Coded) :
    ∃ db', deleteRow key db = (.ok (), db') ∧ db'.Coded ∧
      ∀ key' v, db'.contents key' = some v ↔ db.contents key' = some v ∧ key ≠ key' := by
  refine ⟨_, by rw [deleteRow, EmbeddedStorage.delete_eq h], hcoded.set key none, fun key' v => ?_⟩
  rw [EmbeddedStorage.contents_set]
  by_cases hkey : key' = key
  · subst hkey
    simp
  · rw [Function.update_of_ne hkey]
    simp [Ne.symm hkey]

/-- **The loop deletes what is not kept of the list**, and only that.
Source: `rollout-snapshots/src/policy.rs` `apply_prune`. Kind: P -/
theorem pruneLoop_apply {snaps : List (StorageKey × Snapshot)}
    (hreg : ∀ p ∈ snaps, p.1.ns ∈ allTables) (before : List (StorageKey × Snapshot)) (deleted : Nat)
    (hsorted : (before ++ snaps).Pairwise Precedes) (hcoded : db.Coded) : ∃ db',
      pruneLoop retention now before.length deleted snaps db =
        (.ok (deleted + (snaps.filter fun p => !keptAmong retention now (before ++ snaps) p).length),
          db') ∧ db'.Coded ∧
      (∀ key v, db'.contents key = some v ↔ db.contents key = some v ∧
        ∀ p ∈ snaps, keptAmong retention now (before ++ snaps) p = false → p.1 ≠ key) ∧
      ((∀ p ∈ snaps, keptAmong retention now (before ++ snaps) p = true) → db' = db) := by
  induction snaps generalizing before deleted db with
  | nil => exact ⟨db, rfl, hcoded, fun key v => by simp, fun _ => rfl⟩
  | cons p snaps ih =>
      have hnext : before ++ p :: snaps = (before ++ [p]) ++ snaps := by
        rw [List.append_assoc]
        rfl
      have hlen : before.length + 1 = (before ++ [p]).length := by
        rw [List.length_append]
        rfl
      have hreg' := fun q hq => hreg q (List.mem_cons_of_mem p hq)
      rw [pruneLoop, survives_eq hsorted, hlen]
      rw [hnext] at hsorted ⊢
      cases hkept : keptAmong retention now ((before ++ [p]) ++ snaps) p with
      | true =>
          obtain ⟨db', hrun, hcoded', hcontents, hsame⟩ :=
            ih hreg' (before ++ [p]) deleted hsorted hcoded
          refine ⟨db', ?_, hcoded', fun key v => ?_, fun hall => hsame fun q hq =>
            hall q (List.mem_cons_of_mem p hq)⟩
          · rw [if_pos rfl, hrun, List.filter_cons_of_neg (by rw [hkept]; decide)]
          · rw [hcontents, List.forall_mem_cons, hkept]
            simp
      | false =>
          obtain ⟨db₁, hdel, hcoded₁, hcontents₁⟩ :=
            deleteRow_apply (hreg p (List.mem_cons_self ..)) hcoded
          obtain ⟨db', hrun, hcoded', hcontents, -⟩ :=
            ih hreg' (before ++ [p]) (deleted + 1) hsorted hcoded₁
          refine ⟨db', ?_, hcoded', fun key v => ?_, fun hall => ?_⟩
          · rw [if_neg Bool.false_ne_true, FailM.bind_apply, hdel,
              List.filter_cons_of_pos (by rw [hkept]; rfl), List.length_cons]
            simp only [hrun]
            rw [Nat.add_assoc, Nat.add_comm 1]
          · simp only [hcontents, hcontents₁, List.forall_mem_cons, hkept, forall_const, and_assoc]
          · have := hall p (List.mem_cons_self ..)
            rw [hkept] at this
            cases this

end loop

/-! ## Pruning a run -/

variable {fromSlice : Bytes → Except String Snapshot} {policy : PrunePolicy} {now : Int}
  {db : EmbeddedStorage}

theorem mem_stored {p : StorageKey × Snapshot} {runId : RunId} : p ∈ stored fromSlice runId db ↔
    InRun runId p.1 ∧ ∃ v, db.contents p.1 = some v ∧ fromSlice v = .ok p.2 := Iff.rfl

/-- The rows a prune reads. Source: `rollout-snapshots/src/policy.rs` `apply_prune`. Kind: P -/
theorem scan_run (hcoded : db.Coded) (runId : RunId) : ∃ rows,
    db.scanBytes ⟨runPrefix runId, none⟩ = .ok rows ∧
    (rows.Pairwise fun a b => encodeKey a.1 < encodeKey b.1) ∧
    ∀ key v, (key, v) ∈ rows ↔ db.contents key = some v ∧ InRun runId key := by
  have hns : "snapshots" ∈ allTables := by decide
  obtain ⟨rows, hscan, hsorted, hmem⟩ := EmbeddedStorage.scanBytes_sorted hcoded (runPrefix runId) hns
  simp only [inRun_iff] at hmem
  exact ⟨rows, hscan, hsorted, hmem⟩

/-- What a prune sorts when every row of the run decodes: the snapshots stored.
Source: `rollout-snapshots/src/policy.rs` `apply_prune`. Kind: P -/
theorem applyPrune_eq (hcoded : db.Coded)
    (hdecode : ∀ key v, InRun policy.runId key → db.contents key = some v →
      ∃ snap, fromSlice v = .ok snap) (now : Int) : ∃ snaps, snaps.Nodup ∧ snaps.Pairwise Precedes ∧
      (∀ p, p ∈ snaps ↔ p ∈ stored fromSlice policy.runId db) ∧
      applyPrune fromSlice policy now db = pruneLoop policy.retention now 0 0 snaps db := by
  obtain ⟨rows, hscan, hsorted, hmem⟩ := scan_run hcoded policy.runId
  obtain ⟨snaps, hsnaps, hkeys, hsnap⟩ := mapM_decodeRow fun row hrow =>
    hdecode row.1 row.2 ((hmem row.1 row.2).mp hrow).2 ((hmem row.1 row.2).mp hrow).1
  have hordered : snaps.Pairwise fun a b => encodeKey a.1 < encodeKey b.1 := by
    have hkeyed : (rows.map Prod.fst).Pairwise fun a b => encodeKey a < encodeKey b :=
      List.pairwise_map.mpr hsorted
    rw [← hkeys, List.pairwise_map] at hkeyed
    exact hkeyed
  have hprecedes := pairwise_newestFirst hordered
  refine ⟨newestFirst snaps, ?_, hprecedes, fun p => ?_, ?_⟩
  · refine hprecedes.imp fun {a b} h => ?_
    rintro rfl
    exact precedes_irrefl a h
  · rw [newestFirst, List.mem_mergeSort, hsnap, mem_stored]
    constructor
    · rintro ⟨v, hv, hdec⟩
      exact ⟨((hmem p.1 v).mp hv).2, v, ((hmem p.1 v).mp hv).1, hdec⟩
    · rintro ⟨hin, v, hv, hdec⟩
      exact ⟨v, (hmem p.1 v).mpr ⟨hv, hin⟩, hdec⟩
  · unfold applyPrune
    simp only [FailM.bind_apply, FailM.get_apply, FailM.ofExcept_apply, hscan, hsnaps]

/-- A row that does not decode stops a prune before it deletes anything.
Source: `rollout-snapshots/src/policy.rs` `apply_prune`. Kind: P -/
theorem applyPrune_error (hcoded : db.Coded) {key : StorageKey} {v : Bytes} {e : String}
    (hin : InRun policy.runId key) (hv : db.contents key = some v) (he : fromSlice v = .error e)
    (now : Int) : ∃ e', applyPrune fromSlice policy now db = (.error e', db) := by
  obtain ⟨rows, hscan, -, hmem⟩ := scan_run hcoded policy.runId
  obtain ⟨e', he'⟩ := mapM_decodeRow_error ((hmem key v).mpr ⟨hv, hin⟩) he
  refine ⟨e', ?_⟩
  unfold applyPrune
  simp only [FailM.bind_apply, FailM.get_apply, FailM.ofExcept_apply, hscan, he']

/-- Kept of the list is kept of the store. Source: `rollout-snapshots/src/policy.rs` `apply_prune`.
Kind: P -/
theorem keptAmong_iff {snaps : List (StorageKey × Snapshot)} (hnodup : snaps.Nodup)
    (hmem : ∀ p, p ∈ snaps ↔ p ∈ stored fromSlice policy.runId db) (now : Int)
    (p : StorageKey × Snapshot) : keptAmong policy.retention now snaps p = true ↔
      Kept fromSlice policy now db p := by
  have hrank : (snaps.filter fun q => decide (Precedes q p)).length =
      { q ∈ stored fromSlice policy.runId db | Precedes q p }.ncard :=
    length_filter_eq_ncard hnodup fun q => by
      rw [hmem, decide_eq_true_eq]
      exact Iff.rfl
  unfold keptAmong Kept
  rw [hrank, Bool.or_eq_true, Bool.or_eq_true, decide_eq_true_eq, Bool.and_eq_true, or_assoc,
    Option.any_eq_true]
  simp

/-- What a prune that reads every row does. Source: `rollout-snapshots/src/policy.rs` `apply_prune`.
Kind: P -/
theorem applyPrune_spec (hcoded : db.Coded)
    (hdecode : ∀ key v, InRun policy.runId key → db.contents key = some v →
      ∃ snap, fromSlice v = .ok snap) (now : Int) : ∃ db',
      applyPrune fromSlice policy now db =
        (.ok { p ∈ stored fromSlice policy.runId db | ¬ Kept fromSlice policy now db p }.ncard,
          db') ∧
      db'.Coded ∧
      (∀ key v, db'.contents key = some v ↔ db.contents key = some v ∧
        ∀ snap, (key, snap) ∈ stored fromSlice policy.runId db →
          Kept fromSlice policy now db (key, snap)) ∧
      ((∀ p ∈ stored fromSlice policy.runId db, Kept fromSlice policy now db p) → db' = db) := by
  obtain ⟨snaps, hnodup, hsorted, hmem, hprune⟩ := applyPrune_eq hcoded hdecode now
  have hkept := keptAmong_iff hnodup hmem now
  have hreg : ∀ p ∈ snaps, p.1.ns ∈ allTables := fun p hp => by
    rw [((hmem p).mp hp).1.1]
    decide
  obtain ⟨db', hrun, hcoded', hcontents, hsame⟩ := pruneLoop_apply hreg [] 0 hsorted hcoded
  refine ⟨db', ?_, hcoded', fun key v => ?_, fun hall => hsame fun p hp => ?_⟩
  · rw [List.nil_append, Nat.zero_add] at hrun
    rw [hprune, ← length_filter_eq_ncard hnodup (p := fun p => !keptAmong policy.retention now snaps p)]
    · exact hrun
    · intro p
      rw [hmem, Bool.not_eq_true', ← Bool.not_eq_true, hkept]
      exact Iff.rfl
  · rw [hcontents, List.nil_append]
    refine and_congr_right fun _ => ⟨fun h snap hstored => ?_, fun h p hp hnot hkey => ?_⟩
    · by_contra hnot
      refine h (key, snap) ((hmem _).mpr hstored) ?_ rfl
      rw [← Bool.not_eq_true, hkept]
      exact hnot
    · subst hkey
      have := (hkept p).mpr (h p.2 ((hmem p).mp hp))
      rw [hnot] at this
      cases this
  · exact (hkept p).mpr (hall p ((hmem p).mp hp))

theorem finite_stored (hcoded : db.Coded)
    (hdecode : ∀ key v, InRun policy.runId key → db.contents key = some v →
      ∃ snap, fromSlice v = .ok snap) : (stored fromSlice policy.runId db).Finite := by
  obtain ⟨snaps, -, -, hmem, -⟩ := applyPrune_eq hcoded hdecode 0
  exact snaps.finite_toSet.subset fun p hp => (hmem p).mpr hp

/-- What is kept of a store is kept of any part of it.
Source: `rollout-core/src/traits/snapshot.rs` `RetentionPolicy`. Kind: L -/
theorem Kept.mono {db' : EmbeddedStorage} {p : StorageKey × Snapshot}
    (hfinite : (stored fromSlice policy.runId db).Finite)
    (hsub : stored fromSlice policy.runId db' ⊆ stored fromSlice policy.runId db)
    (h : Kept fromSlice policy now db p) : Kept fromSlice policy now db' p := by
  rcases h with hnewest | hother
  · refine .inl (lt_of_le_of_lt ?_ hnewest)
    exact Set.ncard_le_ncard (fun q hq => ⟨hsub hq.1, hq.2⟩) (hfinite.subset fun q hq => hq.1)
  · exact .inr hother

/-- The storages some history leaves. Source: none: infrastructure. Kind: D -/
def Reached (db : EmbeddedStorage) : Prop :=
  ∃ calls answers, EmbeddedStorage.store.run calls (∅ : EmbeddedStorage) = .ok (answers, db)

theorem Reached.coded (h : Reached db) : db.Coded := by
  obtain ⟨calls, answers, hrun⟩ := h
  exact EmbeddedStorage.codedInvariant.run EmbeddedStorage.coded_empty hrun

/-- A row whose length is its time. Source: none: infrastructure. Kind: D -/
def byLength (v : Bytes) : Except String Snapshot :=
  .ok ⟨⟨List.replicate 32 0, rfl⟩, .trainState, ⟨⟨7⟩⟩, v.length, none, [], "sft", .null⟩

/-- Two snapshots of a run. Source: none: infrastructure. Kind: D -/
def twoRows : List (TxnCall StorageKey Bytes) :=
  [.txn [.put ⟨"snapshots", some ⟨⟨7⟩⟩, ["a"]⟩ [1], .put ⟨"snapshots", some ⟨⟨7⟩⟩, ["b"]⟩ [1, 1]]
    .commit]

/-- Keep the newest. Source: none: infrastructure. Kind: D -/
def keepOne : PrunePolicy := ⟨⟨⟨7⟩⟩, ⟨1, false, none⟩⟩

end Rollout.Snapshots
