import Rollout.Core.Ids

/-!
# Snapshots and their retention

The metadata row of a snapshot, the JSON it carries, and the retention policy. Times are counted in
nanoseconds.
-/

set_option linter.unusedSectionVars false

namespace Rollout.Core

/-- The JSON an algorithm keeps in a snapshot. Source: `rollout-core/src/traits/snapshot.rs`
(`serde_json::Value`). Kind: D -/
inductive Json
  | null
  | bool (b : Bool)
  | u64 (n : BitVec 64)
  | string (s : String)
  | object (fields : List (String × Json))

namespace Json

/-- The field of an object. Source: `rollout-algo-sft/src/algo.rs` `snapshot_restore` (`get`).
Kind: D -/
def get (key : String) : Json → Option Json
  | .object fields => fields.lookup key
  | _ => none

/-- Source: `rollout-algo-sft/src/algo.rs` `snapshot_restore` (`as_u64`). Kind: D -/
def asU64 : Json → Option (BitVec 64)
  | .u64 n => some n
  | _ => none

end Json

/-- Source: `rollout-core/src/traits/snapshot.rs` `SnapshotKind`. Kind: D -/
inductive SnapshotKind
  | trainState
  | buffer
  | process
  | episodicMemory
deriving DecidableEq

/-- Source: `rollout-core/src/traits/snapshot.rs` `SnapshotPart`. Kind: D -/
structure SnapshotPart where
  /-- What it is. -/
  role : String
  /-- Its digest. -/
  content : ContentId
  /-- Its size in bytes. -/
  size : BitVec 64
deriving DecidableEq

/-- A metadata row. Source: `rollout-core/src/traits/snapshot.rs` `Snapshot`. Kind: D -/
structure Snapshot where
  /-- Its id. -/
  id : ContentId
  /-- Its kind. -/
  kind : SnapshotKind
  /-- The run it belongs to. -/
  runId : RunId
  /-- When it was taken. -/
  createdAt : Int
  /-- An optional label. -/
  label : Option String
  /-- Its parts. -/
  parts : List SnapshotPart
  /-- The algorithm that wrote it. -/
  algorithmId : String
  /-- What the algorithm keeps. -/
  metadata : Json

/-- A request to save. Source: `rollout-core/src/traits/snapshot.rs` `SnapshotRequest`. Kind: D -/
structure SnapshotRequest where
  /-- The run it belongs to. -/
  runId : RunId
  /-- The algorithm that asks. -/
  algorithmId : String
  /-- The kind asked for. -/
  kind : SnapshotKind
  /-- An optional label. -/
  label : Option String
  /-- What the algorithm keeps. -/
  metadata : Json

/-- Source: `rollout-core/src/traits/snapshot.rs` `RetentionPolicy`. Kind: D -/
structure RetentionPolicy where
  /-- How many of the most recent are kept. -/
  keepLast : BitVec 32
  /-- Whether labelled ones are kept. -/
  keepLabeled : Bool
  /-- The age from which the others are deleted. -/
  maxAge : Option Nat

/-- Source: `rollout-core/src/traits/snapshot.rs` `PrunePolicy`. Kind: D -/
structure PrunePolicy where
  /-- The run to prune. -/
  runId : RunId
  /-- What is kept. -/
  retention : RetentionPolicy

end Rollout.Core
