import Mathlib.Data.List.AList

/-!
# A key-value store with transactions

* `KV κ ν` — a finite map: `get`, `put`, `putNew`, `del` and `scan`, with a lemma for each pair.
* `Txn κ ν` — a transaction in progress: the store as it would be left if the transaction ended
  now, and the working copy its own statements see. Dropping a transaction keeps the former.
* `TxnM κ ν` — programs over one transaction; `atomically` runs one on a store, which is all a
  serializable execution lets the other processes observe.
-/

set_option linter.unusedSectionVars false

namespace Rollout.Lib

/-- A finite map. Source: none: infrastructure. Kind: D -/
abbrev KV (κ ν : Type) := AList fun _ : κ => ν

namespace KV

variable {κ ν : Type} [DecidableEq κ]

/-- The value at a key. Source: none: infrastructure. Kind: D -/
def get (s : KV κ ν) (k : κ) : Option ν := s.lookup k

/-- Set the value at a key. Source: none: infrastructure. Kind: D -/
def put (s : KV κ ν) (k : κ) (v : ν) : KV κ ν := s.insert k v

/-- Remove a key. Source: none: infrastructure. Kind: D -/
def del (s : KV κ ν) (k : κ) : KV κ ν := s.erase k

/-- Set or remove. Source: none: infrastructure. Kind: D -/
def set (s : KV κ ν) (k : κ) : Option ν → KV κ ν
  | some v => s.put k v
  | none => s.del k

/-- Set the value at a key that has none. Source: none: infrastructure. Kind: D -/
def putNew (s : KV κ ν) (k : κ) (v : ν) : KV κ ν :=
  match s.get k with
  | some _ => s
  | none => s.put k v

/-- The entries whose keys satisfy `p`. Source: none: infrastructure. Kind: D -/
def scan (s : KV κ ν) (p : κ → Bool) : List (κ × ν) :=
  (s.entries.filter fun e => p e.1).map fun e => (e.1, e.2)

variable (s : KV κ ν) (k k' : κ) (v : ν)

@[simp] theorem get_empty : (∅ : KV κ ν).get k = none := AList.lookup_empty k

@[simp] theorem get_put_self : (s.put k v).get k = some v := AList.lookup_insert s

@[simp] theorem get_put_of_ne (h : k' ≠ k) : (s.put k v).get k' = s.get k' :=
  AList.lookup_insert_ne h

@[simp] theorem get_del_self : (s.del k).get k = none := AList.lookup_erase k s

@[simp] theorem get_del_of_ne (h : k' ≠ k) : (s.del k).get k' = s.get k' :=
  AList.lookup_erase_ne h

@[simp] theorem put_put (v' : ν) : (s.put k v).put k v' = s.put k v' := AList.insert_insert s

@[simp] theorem set_some : KV.set s k (some v) = s.put k v := rfl

theorem get_put : (s.put k v).get k' = if k' = k then some v else s.get k' := by
  by_cases h : k' = k
  · subst h
    simp
  · simp [h]

theorem get_del : (s.del k).get k' = if k' = k then none else s.get k' := by
  by_cases h : k' = k
  · subst h
    simp
  · simp [h]

theorem get_set (o : Option ν) : (s.set k o).get k' = if k' = k then o else s.get k' := by
  cases o with
  | none => exact get_del s k k'
  | some v => exact get_put s k k' v

@[simp] theorem get_set_self (o : Option ν) : (s.set k o).get k = o := by
  rw [get_set, if_pos rfl]

@[simp] theorem get_set_of_ne (o : Option ν) (h : k' ≠ k) : (s.set k o).get k' = s.get k' := by
  rw [get_set, if_neg h]

theorem get_putNew : (s.putNew k v).get k' = if k' = k then some ((s.get k).getD v) else s.get k' := by
  unfold putNew
  split
  · next w hw =>
    by_cases h : k' = k
    · subst h
      rw [if_pos rfl, hw]
      rfl
    · rw [if_neg h]
  · next hw =>
    rw [get_put, hw]
    rfl

/-- A scan lists the entries of the keys it ranges over. Source: none: infrastructure. Kind: L -/
theorem mem_scan {p : κ → Bool} {e : κ × ν} : e ∈ s.scan p ↔ s.get e.1 = some e.2 ∧ p e.1 = true := by
  obtain ⟨k, v⟩ := e
  simp only [scan, List.mem_map, List.mem_filter, Prod.mk.injEq]
  constructor
  · rintro ⟨⟨k', v'⟩, ⟨hmem, hp⟩, rfl, rfl⟩
    exact ⟨AList.mem_lookup_iff.mpr hmem, hp⟩
  · rintro ⟨hget, hp⟩
    exact ⟨⟨k, v⟩, ⟨AList.mem_lookup_iff.mp hget, hp⟩, rfl, rfl⟩

/-- A scan lists a key once. Source: none: infrastructure. Kind: L -/
theorem nodup_scan (p : κ → Bool) : ((s.scan p).map Prod.fst).Nodup := by
  have hkeys : ((s.scan p).map Prod.fst).Sublist (s.entries.map Sigma.fst) := by
    unfold scan
    rw [List.map_map]
    exact (List.filter_sublist).map Sigma.fst
  exact hkeys.nodup s.nodupKeys

end KV

/-! ## Transactions -/

/-- A transaction in progress. Source: none: infrastructure. Kind: D -/
structure Txn (κ ν : Type) where
  /-- The store as dropping the transaction now would leave it. -/
  committed : KV κ ν
  /-- What its own statements see. -/
  work : KV κ ν

/-- Programs over one transaction. Source: none: infrastructure. Kind: D -/
abbrev TxnM (κ ν : Type) := StateM (Txn κ ν)

/-- **One transaction on a store**: its result and the store it leaves.
Source: none: infrastructure. Kind: D -/
def atomically {κ ν α : Type} (t : TxnM κ ν α) (s : KV κ ν) : α × KV κ ν :=
  let r := (t.run ⟨s, s⟩).run
  (r.1, r.2.committed)

end Rollout.Lib
