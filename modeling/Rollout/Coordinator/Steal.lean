import Rollout.Coordinator.Ledger

/-!
# Work stealing

An idle worker is handed half of the busiest worker's items, one transaction per item: the row is
put back to pending and claimed for the thief, both compare-and-swaps in the same transaction.
-/

set_option linter.unusedSectionVars false

namespace Rollout.Coordinator.Steal

open Rollout.Lib Rollout.Core Rollout.Coordinator.WorkItem Rollout.Coordinator.Ledger

/-- Maximum items reassigned in a single steal.
Source: `rollout-coordinator/src/steal.rs` `MAX_STEAL_BATCH`. Kind: D -/
def maxStealBatch : Nat := 32

/-- Reassign one item: put it back, claim it for the thief; a lost swap rolls back.
Source: `rollout-coordinator/src/steal.rs` `handle_steal_request` (step 4). Kind: D -/
def stealItem {m : Type → Type} [Monad m] [StorageTxn m] (runId : RunId)
    (running : WorkItemRecord) (thief : WorkerId) (nowMs : BitVec 128) : m Bool := do
  if !(← tryRepending runId running) then
    StorageTxn.abort
    return false
  let pending : WorkItemRecord := ⟨running.id, .pending⟩
  if ← tryClaim runId pending thief nowMs then
    StorageTxn.commit
    return true
  else
    StorageTxn.abort
    return false

/-- Order of the items of a victim. Source: `rollout-coordinator/src/steal.rs`
(`victim_items.sort_by`). Kind: D -/
def idLe (a b : WorkItemRecord) : Prop := a.id.raw.1 ≤ b.id.raw.1

instance : DecidableRel idLe := fun a b => inferInstanceAs (Decidable (a.id.raw.1 ≤ b.id.raw.1))

/-- The running items of the victim in a scan, in the order of their ids; rows that do not decode
are skipped. Source: `rollout-coordinator/src/steal.rs` (`victim_items`). Kind: D -/
def victimItems (entries : List (StorageKey × Bytes)) (victim : WorkerId) :
    List WorkItemRecord :=
  ((entries.filterMap fun e => (decode e.2).toOption).filter fun rec =>
    rec.state.owner = some victim).insertionSort idLe

/-- How many items a steal takes. Source: `rollout-coordinator/src/steal.rs` (step 3). Kind: D -/
def stealCount (victimBacklog : Nat) : Nat := min ((victimBacklog + 1) / 2) maxStealBatch

/-- The loop over the chosen items; `reassign` is the transaction of one item.
Source: `rollout-coordinator/src/steal.rs` `handle_steal_request` (step 4). Kind: D -/
def stealItems {m : Type → Type} [Monad m] (reassign : WorkItemRecord → m Bool) :
    List WorkItemRecord → List ContentId → m (List ContentId)
  | [], stolen => return stolen
  | running :: rest, stolen => do
      if ← reassign running then
        stealItems reassign rest (stolen ++ [running.id])
      else stealItems reassign rest stolen

theorem stealItems_cons {m : Type → Type} [Monad m] (reassign : WorkItemRecord → m Bool)
    (running : WorkItemRecord) (rest : List WorkItemRecord) (stolen : List ContentId) :
    stealItems reassign (running :: rest) stolen =
      reassign running >>= fun ok =>
        if ok = true then stealItems reassign rest (stolen ++ [running.id])
        else stealItems reassign rest stolen := rfl

/-- Handle a steal request from an idle thief.
Source: `rollout-coordinator/src/steal.rs` `handle_steal_request`. Kind: D -/
def handleStealRequest {I : Iface} [Storage (Prog I CoreError)] (runId : RunId) (thief : WorkerId)
    (reassign : WorkItemRecord → Prog I CoreError Bool) :
    Prog I CoreError (List ContentId) := do
  if 0 < (← backlog runId thief) then
    return []
  match ← busiest runId thief with
  | none => return []
  | some (victim, victimBacklog) =>
      let n := stealCount victimBacklog
      if n = 0 then
        return []
      let entries ← Storage.scanBytes (workPrefix runId)
      stealItems reassign ((victimItems entries victim).take n) []

theorem owner_of_mem_victimItems {entries : List (StorageKey × Bytes)} {victim : WorkerId}
    {rec : WorkItemRecord} (h : rec ∈ victimItems entries victim) :
    rec.state.owner = some victim := by
  unfold victimItems at h
  rw [List.mem_insertionSort, List.mem_filter] at h
  simpa using h.2

end Rollout.Coordinator.Steal
