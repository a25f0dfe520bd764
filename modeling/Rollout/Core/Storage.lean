import Rollout.Core.Errors
import Rollout.Core.Ids
import Rollout.Lib.Store

/-!
# Storage keys and the storage interface

* `StorageKey`, `KeyRange`, `keyHasPrefix`, `StorageKey.validateForPostgres` — keys, ranges and
  the check the Postgres backend makes first.
* `Storage m`, `StorageTxn m` — the two interfaces the code is written against: reads through the
  shared handle, and the statements of one transaction.
* The instances for `TxnM StorageKey Bytes` and for programs over `Store.iface` are the
  serializable storage: a compare-and-swap compares bytes, `commit` publishes the working copy and
  a transaction that is aborted or dropped leaves the store alone.
-/

set_option linter.unusedSectionVars false

namespace Rollout.Core

open Rollout.Lib

/-! ## Keys -/

/-- A structured key. Source: `rollout-core/src/traits/storage.rs` `StorageKey`. Kind: D -/
structure StorageKey where
  /-- Top-level namespace. -/
  ns : String
  /-- Run scope of a run-local key. -/
  runId : Option RunId
  /-- Path segments inside the namespace. -/
  path : List String
deriving DecidableEq

/-- A prefix scan, optionally limited.
Source: `rollout-core/src/traits/storage.rs` `KeyRange`. Kind: D -/
structure KeyRange where
  /-- What the keys must extend. -/
  pfx : StorageKey
  /-- The maximum number of entries. -/
  limit : Option Nat
deriving DecidableEq

/-- What a watcher is told.
Source: `rollout-core/src/traits/storage.rs` `StorageEvent`. Kind: D -/
inductive StorageEvent
  | put (key : StorageKey)
  | delete (key : StorageKey)
deriving DecidableEq

/-- The key that changed. Source: `rollout-core/src/traits/storage.rs` `StorageEvent`. Kind: D -/
def StorageEvent.key : StorageEvent → StorageKey
  | .put key => key
  | .delete key => key

/-- Whether `candidate` extends `pfx`; a prefix without a run matches every run.
Source: `rollout-storage/src/encoding.rs` `key_has_prefix`. Kind: D -/
def keyHasPrefix (candidate pfx : StorageKey) : Bool :=
  if candidate.ns ≠ pfx.ns then false
  else
    let runIdOk :=
      match pfx.runId with
      | none => true
      | some _ => decide (candidate.runId = pfx.runId)
    runIdOk && pfx.path.isPrefixOf candidate.path

/-- The two hexadecimal digits of a byte.
Source: `rollout-core/src/traits/storage.rs` `validate_for_postgres` (`{b:02x}`). Kind: D -/
def hex02 (b : UInt8) : String := asciiString (base16.render 2 b.toNat)

/-- The first byte of a path component outside printable ASCII, with the component's index.
Source: `rollout-core/src/traits/storage.rs` `validate_for_postgres`. Kind: D -/
def firstUnprintable : Nat → List String → Option (Nat × UInt8)
  | _, [] => none
  | idx, component :: rest =>
      match component.toUTF8.data.toList.find? fun b => ¬ (0x20 ≤ b ∧ b ≤ 0x7E) with
      | some b => some (idx, b)
      | none => firstUnprintable (idx + 1) rest

/-- Reject path components that cannot round-trip through a Postgres `TEXT[]`.
Source: `rollout-core/src/traits/storage.rs` `validate_for_postgres`. Kind: D -/
def StorageKey.validateForPostgres (key : StorageKey) : Except CoreError Unit :=
  match firstUnprintable 0 key.path with
  | none => .ok ()
  | some (idx, b) => .error (.fatal (.configInvalid
      ("StorageKey path[" ++ toString idx ++ "] contains byte 0x" ++ hex02 b ++
        " outside printable ASCII (0x20-0x7E); hex-encode binary IDs for the Postgres backend " ++
        "(see rollout-core::traits::storage StorageKey rustdoc)")))

/-! ## The interfaces -/

/-- Reads through the shared handle.
Source: `rollout-core/src/traits/storage.rs` `Storage`. Kind: D -/
class Storage (m : Type → Type) where
  /-- The value at a key. -/
  getBytes : StorageKey → m (Option Bytes)
  /-- The entries in a range, in no particular order. -/
  scanBytes : KeyRange → m (List (StorageKey × Bytes))

/-- The statements of one transaction.
Source: `rollout-core/src/traits/storage.rs` `StorageTxn`. Kind: D -/
class StorageTxn (m : Type → Type) where
  /-- Stage a put. -/
  putBytes : StorageKey → Bytes → m Unit
  /-- Stage a delete. -/
  delete : StorageKey → m Unit
  /-- Succeeds only if the current value matches `expected`. -/
  casBytes (key : StorageKey) (expected new : Option Bytes) : m Bool
  /-- Commit the transaction. -/
  commit : m Unit
  /-- Roll the transaction back. -/
  abort : m Unit

/-! ## The serializable storage -/

/-- The rows of a storage. Source: none: infrastructure. Kind: D -/
abbrev Rows := KV StorageKey Bytes

instance : StorageTxn (TxnM StorageKey Bytes) where
  putBytes key value := modify fun t => { t with work := t.work.put key value }
  delete key := modify fun t => { t with work := t.work.del key }
  casBytes key expected new := do
    let t ← get
    if t.work.get key = expected then
      set { t with work := KV.set t.work key new }
      return true
    else return false
  commit := modify fun t => { t with committed := t.work }
  abort := modify fun t => { t with work := t.committed }

/-- The entries of a scan, cut off as the storage cuts it off: the limit is tested after an entry
has been taken. Source: `rollout-storage/src/embedded/mod.rs` `scan_bytes`. Kind: D -/
def cutOff {α : Type} (limit : Option Nat) (entries : List α) : List α :=
  match limit with
  | none => entries
  | some n => entries.take (max n 1)

instance {T : Txns StorageKey Bytes} : Storage (Prog (Store.iface T CoreError) CoreError) where
  getBytes key := Store.ask (.get key)
  scanBytes range :=
    cutOff range.limit <$> Store.ask (T := T) (.scan fun key => keyHasPrefix key range.pfx)

section

variable {T : Txns StorageKey Bytes}

theorem getBytes_eq (key : StorageKey) :
    (Storage.getBytes key : Prog (Store.iface T CoreError) CoreError (Option Bytes)) =
      Store.ask (.get key) := rfl

theorem scanBytes_eq (pfx : StorageKey) :
    (Storage.scanBytes ⟨pfx, none⟩ :
        Prog (Store.iface T CoreError) CoreError (List (StorageKey × Bytes))) =
      Store.ask (.scan fun key => keyHasPrefix key pfx) :=
  Prog.bind_ret (Store.ask (T := T) (.scan fun key => keyHasPrefix key pfx))

end

namespace TxnM

variable {α : Type} (t : Txn StorageKey Bytes) (key : StorageKey)

@[simp] theorem run_putBytes (value : Bytes) :
    (StorageTxn.putBytes key value : TxnM StorageKey Bytes Unit).run t =
      pure ((), { t with work := t.work.put key value }) := rfl

@[simp] theorem run_delete :
    (StorageTxn.delete key : TxnM StorageKey Bytes Unit).run t =
      pure ((), { t with work := t.work.del key }) := rfl

@[simp] theorem run_casBytes (expected new : Option Bytes) :
    (StorageTxn.casBytes key expected new : TxnM StorageKey Bytes Bool).run t =
      pure (if t.work.get key = expected then (true, { t with work := KV.set t.work key new })
        else (false, t)) := by
  by_cases h : t.work.get key = expected
  · rw [if_pos h]
    simp only [StorageTxn.casBytes, StateT.run_bind, StateT.run_get, pure_bind, h, if_true]
    rfl
  · rw [if_neg h]
    simp only [StorageTxn.casBytes, StateT.run_bind, StateT.run_get, pure_bind, h, if_false]
    rfl

@[simp] theorem run_commit :
    (StorageTxn.commit : TxnM StorageKey Bytes Unit).run t =
      pure ((), { t with committed := t.work }) := rfl

@[simp] theorem run_abort :
    (StorageTxn.abort : TxnM StorageKey Bytes Unit).run t =
      pure ((), { t with work := t.committed }) := rfl

end TxnM

end Rollout.Core
