import Rollout.Core.Storage
import Rollout.Lib.RowLocks

/-!
# The two storage backends

The storage interfaces over a database whose transactions interleave statement by statement.

* `embedded` — one writing transaction at a time; `postgres` — many, at read committed. They refuse
  different keys and read a prefix without a run differently.
* `casBytes` reads the row for update, compares, and then writes or deletes: three statements, so
  another transaction may come between the comparison and the write unless the row is locked.
-/

set_option linter.unusedSectionVars false

namespace Rollout.Backends

open Rollout.Lib Rollout.Core

/-- A storage backend. Source: `rollout-core/src/traits/storage.rs` `Storage`. Kind: D -/
structure StorageBackend extends Backend StorageKey CoreError where
  /-- Whether a key is in the range of a prefix. -/
  inRange : StorageKey → StorageKey → Bool
  ns_of_inRange : ∀ key pfx, inRange key pfx = true → key.ns = pfx.ns
  /-- How many entries a limit leaves. -/
  cutOff : Nat → Nat

/-- The namespaces with a table.
Source: `rollout-storage/src/embedded/tables.rs` `all_tables`. Kind: D -/
def allTables : List String :=
  ["runs", "workers", "heartbeats", "queue", "plugins", "cloudlocal_queue", "infer", "snapshots",
    "coordinator_lease", "epoch", "work", "queue_items", "eval_reports"]

/-- Source: `rollout-storage/src/embedded/tables.rs` `table_for`. Kind: D -/
def tableFor (ns : String) : Except CoreError Unit :=
  if ns ∈ allTables then .ok ()
  else .error (.fatal (.configInvalid ("unknown storage namespace: " ++ ns)))

theorem ns_of_keyHasPrefix {key pfx : StorageKey} (h : keyHasPrefix key pfx = true) :
    key.ns = pfx.ns := by
  unfold keyHasPrefix at h
  split at h
  · cases h
  · next hns => exact Decidable.not_not.mp hns

/-- The embedded backend: its write transactions exclude each other.
Source: `rollout-storage/src/embedded/mod.rs` `EmbeddedStorage`. Kind: D -/
def embedded : StorageBackend where
  singleWriter := true
  check key := tableFor key.ns
  inRange := keyHasPrefix
  ns_of_inRange _ _ := ns_of_keyHasPrefix
  -- the limit is tested after an entry has been taken
  cutOff n := max n 1

/-- Whether a row is selected by a prefix; a prefix without a run selects the rows without one.
Source: `rollout-storage/src/postgres/mod.rs` `scan_bytes`. Kind: D -/
def rowHasPrefix (key pfx : StorageKey) : Bool :=
  decide (key.ns = pfx.ns) && decide (key.runId = pfx.runId) && pfx.path.isPrefixOf key.path

/-- The Postgres backend. Source: `rollout-storage/src/postgres/mod.rs` `PostgresStorage`.
Kind: D -/
def postgres : StorageBackend where
  singleWriter := false
  check := StorageKey.validateForPostgres
  inRange := rowHasPrefix
  ns_of_inRange key pfx h := by
    unfold rowHasPrefix at h
    rw [Bool.and_eq_true, Bool.and_eq_true, decide_eq_true_eq] at h
    exact h.1.1
  cutOff n := n

/-- Programs over a backend. Source: none: infrastructure. Kind: D -/
abbrev BackendM (B : StorageBackend) := RowLocks.DbM B.toBackend Bytes

/-- The state under them. Source: none: infrastructure. Kind: D -/
abbrev Database (ι : Type) := RowLocks.Db StorageKey Bytes ι

/-- The machine that runs them. Source: none: infrastructure. Kind: D -/
abbrev machine (B : StorageBackend) (ι : Type) [DecidableEq ι] :=
  RowLocks.machine B.toBackend Bytes ι

/-- A statement that was issued. Source: none: infrastructure. Kind: D -/
abbrev BackendEvent (B : StorageBackend) (ι : Type) :=
  Event ((RowLocks.requests B.toBackend Bytes).iface CoreError) ι (Database ι)

section statements

variable {B : StorageBackend}

/-- Open a transaction. Source: `rollout-core/src/traits/storage.rs` `Storage::begin`. Kind: D -/
def begin : BackendM B Unit := RowLocks.ask .begin

/-- The write of a swap that found what it expected.
Source: `rollout-storage/src/postgres/mod.rs` `cas_bytes`. Kind: D -/
def applySwap (key : StorageKey) : (expected new : Option Bytes) → BackendM B Unit
  | _, some value => RowLocks.ask (.upsert key value)
  | some _, none => RowLocks.ask (.delete key)
  | none, none => return ()

/-- Compare-and-swap. Source: `rollout-storage/src/postgres/mod.rs` `cas_bytes`,
`embedded/txn.rs` `cas_bytes`. Kind: D -/
def casBytes (key : StorageKey) (expected new : Option Bytes) : BackendM B Bool := do
  Prog.ofExcept (B.check key)
  let current ← RowLocks.ask (B := B.toBackend) (.selectForUpdate key)
  if current ≠ expected then
    return false
  applySwap key expected new
  return true

instance : StorageTxn (BackendM B) where
  putBytes key value := do
    Prog.ofExcept (B.check key)
    RowLocks.ask (.upsert key value)
  delete key := do
    Prog.ofExcept (B.check key)
    RowLocks.ask (.delete key)
  casBytes := casBytes
  commit := RowLocks.ask .commit
  abort := RowLocks.ask .rollback

instance : Storage (BackendM B) where
  getBytes key := do
    Prog.ofExcept (B.check key)
    RowLocks.ask (.get key)
  scanBytes range := do
    Prog.ofExcept (B.check range.pfx)
    let entries ← RowLocks.ask (B := B.toBackend) (.scan fun key => B.inRange key range.pfx)
    return match range.limit with
      | none => entries
      | some n => entries.take (B.cutOff n)

end statements

end Rollout.Backends
