import Rollout.Coordinator.WorkItem
import Rollout.Lib.Returns

/-!
# Eval jobs

* `JobTxn` — the transactions of a job; `atomically_seed` and its siblings say what each does.
* `runExampleJob` — one call: read the row, seed it, claim it, store the result, complete it, each
  in an operation of its own; `system` is any number of calls for one job.
-/

set_option linter.unusedSectionVars false

namespace Rollout.Eval

open Rollout.Lib Rollout.Core Rollout.Coordinator Rollout.Coordinator.WorkItem

/-! ## Results -/

/-- The scored result of one example; the score is the eight bytes of the float.
Source: `rollout-harness-eval/src/job.rs` `ExampleResult`. Kind: D -/
structure ExampleResult where
  /-- The index of the example in its suite. -/
  idx : BitVec 64
  /-- The score. -/
  score : { bs : Bytes // bs.length = 8 }

/-- A result on the wire. Source: `rollout-harness-eval/src/job.rs` `ExampleResult`. Kind: D -/
def ExampleResult.codec : Codec ExampleResult :=
  (Codec.u64.prod (Codec.fixed 8)).refine (fun x => some ⟨x.1, x.2⟩)
    (fun r => (r.idx, r.score)) fun _ => rfl

/-- Source: `rollout-harness-eval/src/job.rs` (`postcard::from_bytes`), `decode_err`. Kind: D -/
def decodeRec (bytes : Bytes) : Except CoreError WorkItemRecord :=
  match WorkItem.codec.fromBytes bytes with
  | some rec => .ok rec
  | none => .error (.internal "postcard decode: ")

/-! ## Transactions -/

/-- The transactions of a job. Source: `rollout-harness-eval/src/job.rs` `run_example_job`.
Kind: D -/
inductive JobTxn
  | seed (pending : WorkItemRecord)
  | claim (pending : WorkItemRecord) (workerId : WorkerId) (nowMs : BitVec 128)
  | complete (running : WorkItemRecord) (resultId : ContentId)

/-- What each returns. Source: `rollout-harness-eval/src/job.rs` `run_example_job`. Kind: D -/
@[reducible] def JobTxn.Resp : JobTxn → Type
  | .seed _ => Unit
  | .claim .. => Bool
  | .complete .. => Bool

/-- What each runs. Source: `rollout-harness-eval/src/job.rs` `run_example_job`. Kind: D -/
def JobTxn.body {m : Type → Type} [Monad m] [StorageTxn m] (runId : RunId) : (t : JobTxn) → m t.Resp
  | .seed pending => do
      StorageTxn.putBytes (workKey runId pending.id) (encodeRecord pending)
      StorageTxn.commit
  | .claim pending workerId nowMs => do
      let claimed ← tryClaim runId pending workerId nowMs
      if claimed then
        StorageTxn.commit
      else
        StorageTxn.abort
      return claimed
  | .complete running resultId => do
      let completed ← tryComplete runId running resultId
      if completed then
        StorageTxn.commit
      else
        StorageTxn.abort
      return completed

/-- The transactions of the jobs of a run. Source: none: infrastructure. Kind: D -/
@[reducible] def jobTxns (runId : RunId) : Txns StorageKey Bytes where
  Name := JobTxn
  Resp := JobTxn.Resp
  body := JobTxn.body runId

section effects

variable (runId : RunId) (s : Rows)

@[simp] theorem atomically_seed (pending : WorkItemRecord) :
    atomically (JobTxn.body runId (.seed pending)) s =
      ((), s.put (workKey runId pending.id) (encodeRecord pending)) := rfl

@[simp] theorem atomically_claim (pending : WorkItemRecord) (workerId : WorkerId)
    (nowMs : BitVec 128) :
    atomically (JobTxn.body runId (.claim pending workerId nowMs)) s =
      if pending.state = .pending ∧ s.get (workKey runId pending.id) = some (encodeRecord pending) then
        (true, s.put (workKey runId pending.id) (encodeRecord ⟨pending.id, .running workerId nowMs⟩))
      else (false, s) := by
  by_cases hst : pending.state = .pending
  · by_cases hrow : s.get (workKey runId pending.id) = some (encodeRecord pending)
    · simp [atomically, JobTxn.body, tryClaim, hst, hrow]
    · simp [atomically, JobTxn.body, tryClaim, hst, hrow]
  · simp [atomically, JobTxn.body, tryClaim, hst]

@[simp] theorem atomically_complete (running : WorkItemRecord) (resultId : ContentId) :
    atomically (JobTxn.body runId (.complete running resultId)) s =
      if running.state.isRunning = true ∧
          s.get (workKey runId running.id) = some (encodeRecord running) then
        (true, s.put (workKey runId running.id) (encodeRecord ⟨running.id, .done resultId⟩))
      else (false, s) := by
  by_cases hrun : running.state.isRunning = true
  · by_cases hrow : s.get (workKey runId running.id) = some (encodeRecord running)
    · simp [atomically, JobTxn.body, tryComplete, hrun, hrow]
    · simp [atomically, JobTxn.body, tryComplete, hrun, hrow]
  · simp [atomically, JobTxn.body, tryComplete, hrun]

end effects

/-! ## Operations -/

/-- What the calls share: the rows of the storage and the objects.
Source: `rollout-harness-eval/src/job.rs` `run_example_job` (its two `Arc`s). Kind: D -/
structure World where
  /-- The rows of the storage. -/
  rows : Rows
  /-- The objects of the object store. -/
  objects : KV ContentId Bytes

/-- What a call asks for. Source: `rollout-harness-eval/src/job.rs` `run_example_job`. Kind: D -/
inductive Op (runId : RunId)
  | store (o : Store.Op (jobTxns runId))
  | putObject (blob : Bytes)

variable {runId : RunId}

/-- What it is answered. Source: `rollout-core/src/traits`. Kind: D -/
@[reducible] def Op.Out : Op runId → Type
  | .store o => o.Out
  | .putObject _ => ContentId

/-- The operations as requests. Source: none: infrastructure. Kind: D -/
@[reducible] def requests (runId : RunId) : Requests where
  Op := Op runId
  Out := Op.Out

/-- Their interface. Source: none: infrastructure. Kind: D -/
@[reducible] def iface (runId : RunId) : Iface := (requests runId).iface CoreError

/-- Programs of a job. Source: none: infrastructure. Kind: D -/
abbrev JobM (runId : RunId) := Prog (iface runId) CoreError

/-- Issue an operation; its failure ends the program. Source: none: infrastructure. Kind: D -/
@[reducible] def ask (o : Op runId) : JobM runId o.Out := Lib.ask (R := requests runId) o

variable [Blake3]

/-- The effect of an operation. Source: `rollout-cloud-local/src/object_store.rs` `put_bytes`.
Kind: D -/
def perform : (o : Op runId) → World → o.Out × World
  | .store o, w => ((Store.perform o w.rows).1, { w with rows := (Store.perform o w.rows).2 })
  | .putObject blob, w => (.of blob, { w with objects := w.objects.putNew (.of blob) blob })

/-- **The two stores as a service.** A failed operation changes nothing.
Source: none: infrastructure. Kind: D -/
@[reducible] def service (runId : RunId) (ι : Type) : Service (requests runId) ι World where
  Choice := Unit
  perform _ _ o w := some (perform o w)
  fail _ w := w
  Tick := Empty
  tick t := t.elim

/-- Their machine. Source: none: infrastructure. Kind: D -/
@[reducible] def machine (runId : RunId) (ι : Type) : Machine (iface runId) ι World :=
  (service runId ι).machine CoreError

instance {ι : Type} : IsEmpty (machine runId ι).Tick := ⟨fun t => Empty.elim t⟩

/-- Events of the jobs of a run. Source: none: infrastructure. Kind: D -/
abbrev JobEvent (runId : RunId) (ι : Type) := Event (iface runId) ι World

/-! ## Calls -/

/-- The part of a call after the row is there: claim it, store the result, complete it.
Source: `rollout-harness-eval/src/job.rs` `run_example_job` (from `Claim`). Kind: D -/
def claimAndComplete (workerId : WorkerId) (workId : ContentId) (result : ExampleResult)
    (nowMs : BitVec 128) : JobM runId ContentId := do
  let pending : WorkItemRecord := ⟨workId, .pending⟩
  let _claimed ← ask (.store (.txn (.claim pending workerId nowMs)))
  let resultId ← ask (.putObject (ExampleResult.codec.enc result))
  let running : WorkItemRecord := ⟨workId, .running workerId nowMs⟩
  let _completed ← ask (.store (.txn (.complete running resultId)))
  return resultId

/-- Run one eval example as a job.
Source: `rollout-harness-eval/src/job.rs` `run_example_job`. Kind: D -/
def runExampleJob (workerId : WorkerId) (workId : ContentId) (result : ExampleResult)
    (nowMs : BitVec 128) : JobM runId ContentId := do
  let key := workKey runId workId
  let row ← ask (.store (.get key))
  match row with
  | some bytes =>
      let rec ← Prog.ofExcept (decodeRec bytes)
      match rec.state with
      | .done resultId => return resultId
      | _ => claimAndComplete workerId workId result nowMs
  | none =>
      let pending : WorkItemRecord := ⟨workId, .pending⟩
      ask (.store (.txn (.seed pending)))
      claimAndComplete workerId workId result nowMs

/-- The arguments in which the calls for one job differ.
Source: `rollout-harness-eval/src/job.rs` `run_example_job`. Kind: D -/
structure JobCall where
  /-- The worker. -/
  workerId : WorkerId
  /-- Its result. -/
  result : ExampleResult
  /-- What its clock shows. -/
  nowMs : BitVec 128

/-- Any number of calls for one job. Source: none: infrastructure. Kind: D -/
def system {ι : Type} (runId : RunId) (workId : ContentId) (calls : ι → JobCall) (w : World) :
    Config (iface runId) CoreError World fun _ : ι => ContentId :=
  ⟨w, fun i => runExampleJob (calls i).workerId workId (calls i).result (calls i).nowMs⟩

end Rollout.Eval
