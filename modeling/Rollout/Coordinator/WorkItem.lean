import Rollout.Core.Storage

/-!
# Work items

The ledger row of a work item and its compare-and-swap transitions: `pending → running → done |
failed`, each on the exact bytes of the prior record.

* `WorkItemRecord.codec` — the row on the wire; `workKey` — where it is stored. Rows of distinct
  items have distinct keys (`workKey_inj`).
* `tryClaim`, `tryComplete`, `tryRepending` — the transitions, each over any store with a
  compare-and-swap.
-/

set_option linter.unusedSectionVars false

namespace Rollout.Coordinator

open Rollout.Lib Rollout.Core

/-! ## Records -/

/-- Lifecycle of a work item.
Source: `rollout-coordinator/src/work_item.rs` `WorkState`. Kind: D -/
inductive WorkState
  | pending
  | running (workerId : WorkerId) (startedAtMs : BitVec 128)
  | done (resultId : ContentId)
  | failed (reason : Text)
deriving DecidableEq

/-- The ledger row of a work item.
Source: `rollout-coordinator/src/work_item.rs` `WorkItemRecord`. Kind: D -/
structure WorkItemRecord where
  /-- Deterministic work identity. -/
  id : ContentId
  /-- Lifecycle state. -/
  state : WorkState
deriving DecidableEq

namespace WorkState

/-- The worker a state names as owner.
Source: `rollout-coordinator/src/work_item.rs` `WorkState::Running`. Kind: D -/
def owner : WorkState → Option WorkerId
  | .running w _ => some w
  | _ => none

theorem owner_eq_some {st : WorkState} {w : WorkerId} :
    st.owner = some w ↔ ∃ t, st = .running w t := by
  cases st <;> simp [owner]

/-- Whether a state is `running`, as the transitions test it.
Source: `rollout-coordinator/src/work_item.rs` (`matches!`). Kind: D -/
def isRunning : WorkState → Bool
  | .running .. => true
  | _ => false

/-- Whether a state is terminal. Source: `rollout-coordinator/src/run.rs` (documentation of the
replay: "`Done`/`Failed` rows are terminal"). Kind: D -/
def isTerminal : WorkState → Bool
  | .done _ => true
  | .failed _ => true
  | _ => false

/-- A state on the wire: the number of the variant, then its fields.
Source: `rollout-coordinator/src/work_item.rs` `WorkState`. Kind: D -/
def codec : Codec WorkState where
  enc
    | .pending => Codec.tag.enc 0
    | .running w t => Codec.tag.enc 1 ++ (WorkerId.codec.prod Codec.u128).enc (w, t)
    | .done r => Codec.tag.enc 2 ++ ContentId.codec.enc r
    | .failed r => Codec.tag.enc 3 ++ Text.codec.enc r
  dec bs := (Codec.tag.dec bs).bind fun x =>
    if x.1 = 0 then some (.pending, x.2)
    else if x.1 = 1 then
      ((WorkerId.codec.prod Codec.u128).dec x.2).map fun y => (.running y.1.1 y.1.2, y.2)
    else if x.1 = 2 then (ContentId.codec.dec x.2).map fun y => (.done y.1, y.2)
    else if x.1 = 3 then (Text.codec.dec x.2).map fun y => (.failed y.1, y.2)
    else none
  dec_enc := by
    intro st rest
    cases st with
    | pending => simp
    | running w t => rw [List.append_assoc, Codec.dec_enc, Option.bind_some]; simp
    | done r => rw [List.append_assoc, Codec.dec_enc, Option.bind_some]; simp
    | failed r => rw [List.append_assoc, Codec.dec_enc, Option.bind_some]; simp

end WorkState

namespace WorkItem

/-- A row on the wire. Source: `rollout-coordinator/src/work_item.rs` `WorkItemRecord`.
Kind: D -/
def codec : Codec WorkItemRecord :=
  (ContentId.codec.prod WorkState.codec).refine (fun x => some ⟨x.1, x.2⟩)
    (fun r => (r.id, r.state)) fun _ => rfl

/-- Source: `rollout-coordinator/src/work_item.rs` `encode_record`. Kind: D -/
def encodeRecord (rec : WorkItemRecord) : Bytes := codec.enc rec

@[simp] theorem encodeRecord_inj {a b : WorkItemRecord} :
    encodeRecord a = encodeRecord b ↔ a = b :=
  Codec.enc_inj codec

/-- The row of a work item. Source: `rollout-coordinator/src/work_item.rs` `work_key`. Kind: D -/
def workKey (runId : RunId) (workId : ContentId) : StorageKey :=
  ⟨"work", some runId, ["item", workId.display]⟩

/-- The whole ledger of a run.
Source: `rollout-coordinator/src/work_item.rs` `work_prefix`. Kind: D -/
def workPrefix (runId : RunId) : KeyRange := ⟨⟨"work", some runId, ["item"]⟩, none⟩

@[simp] theorem workKey_inj {runId : RunId} {a b : ContentId} :
    workKey runId a = workKey runId b ↔ a = b := by
  simp [workKey]

/-! ## Transitions -/

section transitions

variable {m : Type → Type} [Monad m] [StorageTxn m] (runId : RunId)

/-- Claim a pending item. Source: `rollout-coordinator/src/work_item.rs` `try_claim`. Kind: D -/
def tryClaim (record : WorkItemRecord) (workerId : WorkerId) (nowMs : BitVec 128) : m Bool := do
  if record.state ≠ .pending then
    return false
  let expected := encodeRecord record
  let next := { record with state := .running workerId nowMs }
  StorageTxn.casBytes (workKey runId record.id) (some expected) (some (encodeRecord next))

/-- Complete a running item.
Source: `rollout-coordinator/src/work_item.rs` `try_complete`. Kind: D -/
def tryComplete (runningRecord : WorkItemRecord) (resultId : ContentId) : m Bool := do
  if !runningRecord.state.isRunning then
    return false
  let expected := encodeRecord runningRecord
  let next := { runningRecord with state := .done resultId }
  StorageTxn.casBytes (workKey runId runningRecord.id) (some expected) (some (encodeRecord next))

/-- Put a running item back. Source: `rollout-coordinator/src/work_item.rs` `try_repending`.
Kind: D -/
def tryRepending (runningRecord : WorkItemRecord) : m Bool := do
  if !runningRecord.state.isRunning then
    return false
  let expected := encodeRecord runningRecord
  let next := { runningRecord with state := .pending }
  StorageTxn.casBytes (workKey runId runningRecord.id) (some expected) (some (encodeRecord next))

end transitions

end WorkItem

end Rollout.Coordinator
