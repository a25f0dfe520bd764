import Rollout.Batch.System

/-!
# The coordinator, the workers and the pool

* `InMemQueue` — `openQueue`, `enqueue`, `dequeue`, `ack`: a deque whose entries are mirrored in the
  storage.
* `scanAndEnqueue` — the coordinator: one row and one queue entry for each input that has to run.
* `runOne`, `runLoop` — a worker: pull an entry, claim its sample, generate, store, acknowledge.
  `runLoop` is given fuel; `none` is its result when that is used up.
* `Job` — what `run_pool` is called with; `Job.startup`, `Job.worker` and `Job.collect` are its
  three phases.
* `oneJob` — a job of one empty prompt, for closed runs, with the digests it needs.
-/

set_option linter.unusedSectionVars false

namespace Rollout.Batch

open Rollout.Lib Rollout.Core

variable [Blake3] {runId : RunId}

/-! ## The queue -/

/-- A queue entry read back from its row; other rows are passed over.
Source: `rollout-cloud-local/src/queue.rs` `open` (its loop). Kind: D -/
def replayed (entry : StorageKey × Bytes) : Option (Ulid × Bytes) :=
  match entry.1.path.head? with
  | none => none
  | some seg => (Ulid.ofChars seg.toUTF8.data.toList).map fun id => (id, entry.2)

/-- Entries in the order of their ULIDs.
Source: `rollout-cloud-local/src/queue.rs` `open` (`sort_by_key`). Kind: D -/
def sortById (entries : List (Ulid × Bytes)) : List (Ulid × Bytes) :=
  entries.mergeSort fun a b => decide (a.1.bits ≤ b.1.bits)

/-- Replay what was not acknowledged.
Source: `rollout-cloud-local/src/queue.rs` `open`. Kind: D -/
def openQueue : BatchM runId Unit := do
  let entries ← Storage.scanBytes ⟨⟨"cloudlocal_queue", none, []⟩, none⟩
  ask (.openDeque (sortById (entries.filterMap replayed)))

/-- Source: `rollout-cloud-local/src/queue.rs` `enqueue`. Kind: D -/
def enqueue (payload : Bytes) : BatchM runId Ulid := do
  let id ← ask .generateUlid
  ask (.store (.txn (.enqueue id payload)))
  ask (.pushBack id payload)
  return id

/-- Source: `rollout-cloud-local/src/queue.rs` `ack`. Kind: D -/
def ack (id : Ulid) : BatchM runId Unit := ask (.store (.txn (.ack id)))

/-! ## The coordinator -/

/-- One input row. Source: `rollout-runtime-batch/src/coordinator.rs` `InputItem`. Kind: D -/
structure InputItem where
  /-- The ordinal in the input. -/
  inputIdx : BitVec 64
  /-- The prompt. -/
  prompt : Text
deriving DecidableEq

/-- A coordinator, with the model and the parameters it scans for.
Source: `rollout-runtime-batch/src/coordinator.rs` `BatchCoordinator`, `scan_and_enqueue`.
Kind: D -/
structure BatchCoordinator where
  /-- When a claim is stale. -/
  staleAfterMs : BitVec 64
  /-- The model. -/
  modelContentId : ContentId
  /-- The sampling parameters. -/
  sampling : SamplingParams

namespace BatchCoordinator

variable (coord : BatchCoordinator)

/-- The sample of an input.
Source: `rollout-runtime-batch/src/coordinator.rs` `scan_and_enqueue` (`sid`). Kind: D -/
def sid (item : InputItem) : ContentId :=
  sampleId coord.modelContentId item.prompt coord.sampling item.inputIdx

/-- A queue entry for a sample.
Source: `rollout-runtime-batch/src/coordinator.rs` (`sid.to_string().into_bytes()`). Kind: D -/
def enqueueSample (sid : ContentId) : BatchM runId Bool := do
  let _ ← enqueue sid.chars
  return true

/-- One input: create its row, put it back to pending or leave it, and whether it was enqueued.
Source: `rollout-runtime-batch/src/coordinator.rs` `scan_and_enqueue` (the body of its loop).
Kind: D -/
def scanItem (nowMs : BitVec 64) (item : InputItem) : BatchM runId Bool := do
  let existing ← Storage.getBytes (sampleKey runId (coord.sid item))
  match existing with
  | none =>
      let promptBlob ← ask (.putObject ⟨item.prompt.utf8, item.prompt.fits⟩)
      ask (.store (.txn (.create
        ⟨coord.sid item, promptBlob, .pending, nowMs, item.inputIdx⟩)))
      enqueueSample (coord.sid item)
  | some bytes =>
      let record ← Prog.ofExcept (decodeRecord bytes)
      match record.state with
      | .done .. => return false
      | .pending => enqueueSample (coord.sid item)
      | .failed .. => enqueueSample (coord.sid item)
      | .running _ startedAtMs =>
          if isStale nowMs startedAtMs coord.staleAfterMs then
            let applied ← ask (.store (.txn (.repending record)))
            if applied then
              enqueueSample (coord.sid item)
            else
              return false
          else
            return false

/-- The loop over the inputs.
Source: `rollout-runtime-batch/src/coordinator.rs` `scan_and_enqueue`. Kind: D -/
def scanItems (nowMs : BitVec 64) : Nat → List InputItem → BatchM runId Nat
  | enqueued, [] => return enqueued
  | enqueued, item :: items => do
      let added ← coord.scanItem nowMs item
      scanItems nowMs (if added then enqueued + 1 else enqueued) items

/-- Materialize the rows of the inputs and enqueue the samples that are not done.
Source: `rollout-runtime-batch/src/coordinator.rs` `scan_and_enqueue`. Kind: D -/
def scanAndEnqueue (inputs : List InputItem) : BatchM runId Nat := do
  let nowMs ← ask .nowMs
  coord.scanItems nowMs 0 inputs

end BatchCoordinator

/-! ## The workers -/

/-- What happened to one queue entry. Source: `rollout-runtime-batch/src/worker.rs` `RunOutcome`.
Kind: D -/
inductive RunOutcome
  | completed
  | failed
  | skipped
  | drained
deriving DecidableEq

/-- Source: `rollout-runtime-batch/src/worker.rs` `BatchWorker`. Kind: D -/
structure BatchWorker where
  /-- Its id. -/
  workerId : WorkerId
  /-- The sampling parameters. -/
  sampling : SamplingParams
  /-- When a claim is stale. -/
  staleAfterMs : BitVec 64

/-- The text of an error of `ContentId::from_str`; a panic ends the worker too.
Source: `rollout-runtime-batch/src/worker.rs` `parse_sample_id`. Kind: D -/
def parseFailed : ParseFailure → CoreError
  | .err msg => .internal ("parse ContentId: " ++ msg)
  | .panic => .internal "worker join: "

/-- Source: `rollout-runtime-batch/src/worker.rs` `parse_sample_id`. Kind: D -/
def parseSampleId (payload : Bytes) : Except CoreError ContentId :=
  if (ByteArray.mk payload.toArray).IsValidUTF8 then
    (ContentId.fromStr payload).mapError parseFailed
  else .error (.internal "queue payload not UTF-8: ")

/-- The payload of a queue entry is read back as the sample it was written for.
Source: `rollout-runtime-batch/src/worker.rs` `parse_sample_id`. Kind: L -/
@[simp] theorem parseSampleId_chars (sid : ContentId) : parseSampleId sid.chars = .ok sid := by
  have hbytes : ByteArray.mk sid.chars.toArray = sid.display.toUTF8 := by
    rw [← ContentId.utf8_display]
  have hvalid : (ByteArray.mk sid.chars.toArray).IsValidUTF8 := hbytes ▸ sid.display.isValidUTF8
  rw [parseSampleId, if_pos hvalid, ContentId.fromStr_chars]
  rfl

/-- Source: `rollout-runtime-batch/src/worker.rs` `run_one` (`String::from_utf8`). Kind: D -/
def promptText (bytes : Sized UInt8) : Except CoreError Text :=
  match Text.ofUtf8 bytes with
  | some text => .ok text
  | none => .error (.internal "prompt blob not UTF-8: ")

namespace BatchWorker

variable (worker : BatchWorker)

/-- The record a claim leaves. Source: `rollout-runtime-batch/src/worker.rs` `run_one` (`running`).
Kind: D -/
def running (record : SampleRecord) (claimNow : BitVec 64) : SampleRecord :=
  { record with state := .running worker.workerId claimNow }

/-- Store what the backend returned.
Source: `rollout-runtime-batch/src/worker.rs` `run_one` (`Ok(mut completions)`). Kind: D -/
def complete (running : SampleRecord) (completions : List Text) : BatchM runId RunOutcome := do
  let text ← Prog.ofExcept (match completions.getLast? with
    | some text => .ok text
    | none => .error (.internal "backend returned empty completion vec"))
  let completionBlob ← ask (.putObject ⟨text.utf8, text.fits⟩)
  let finishedAtMs ← ask .nowMs
  let applied ← ask (.store (.txn (.complete running completionBlob finishedAtMs)))
  if !applied then
    Prog.err (.internal ("CAS Running->Done lost for " ++ running.id.display))
  else
    return .completed

/-- Record that the backend failed.
Source: `rollout-runtime-batch/src/worker.rs` `run_one` (`Err(e)`). Kind: D -/
def recordFailure (running : SampleRecord) (reason : Text) : BatchM runId RunOutcome := do
  let failedAtMs ← ask .nowMs
  let _applied ← ask (.store (.txn (.fail running reason failedAtMs)))
  return .failed

/-- Generate for a claimed sample.
Source: `rollout-runtime-batch/src/worker.rs` `run_one` (after the claim). Kind: D -/
def process (running : SampleRecord) : BatchM runId RunOutcome := do
  let promptBytes ← ask (.getObject running.promptBlob)
  let prompt ← Prog.ofExcept (promptText promptBytes)
  let result ← ask (.generate running.id [prompt] worker.sampling)
  match result with
  | .ok completions => complete running completions
  | .error e => recordFailure running e

/-- The claim and what follows it.
Source: `rollout-runtime-batch/src/worker.rs` `run_one` (from `Try to claim`). Kind: D -/
def claimAndProcess (qid : Ulid) (record : SampleRecord) : BatchM runId RunOutcome := do
  let claimNow ← ask .nowMs
  let claimed ← ask (.store (.txn
    (.claim record worker.workerId claimNow worker.staleAfterMs)))
  if !claimed then
    ack qid
    return .skipped
  else
    let outcome ← worker.process (worker.running record claimNow)
    ack qid
    return outcome

/-- Process one queue entry. Source: `rollout-runtime-batch/src/worker.rs` `run_one`. Kind: D -/
def runOne : BatchM runId RunOutcome := do
  let entry ← ask .popFront
  match entry with
  | none => return .drained
  | some (qid, payload) =>
      let sid ← Prog.ofExcept (parseSampleId payload)
      let row ← Storage.getBytes (sampleKey runId sid)
      match row with
      | none =>
          ack qid
          return .skipped
      | some bytes =>
          let record ← Prog.ofExcept (decodeRecord bytes)
          if record.state.isTerminal then
            ack qid
            return .skipped
          else
            worker.claimAndProcess qid record

/-- Run until the queue drains; the number of samples completed.
Source: `rollout-runtime-batch/src/worker.rs` `run_loop`. Kind: D -/
def runLoop : Nat → Nat → BatchM runId (Option Nat)
  | 0, _ => return none
  | fuel + 1, completed => do
      let stop ← ask (.stopPull worker.workerId)
      if stop then
        return some completed
      else
        let outcome ← worker.runOne
        match outcome with
        | .drained => return some completed
        | .completed => runLoop fuel (completed + 1)
        | .failed => runLoop fuel completed
        | .skipped => runLoop fuel completed

end BatchWorker

/-! ## The pool -/

/-- What `run_pool` is called with. Source: `rollout-cli/src/infer.rs` `run_pool`. Kind: D -/
structure Job where
  /-- The inputs. -/
  inputs : List InputItem
  /-- The model the backend has loaded. -/
  modelContentId : ContentId
  /-- The sampling parameters. -/
  sampling : SamplingParams

/-- One line of the output.
Source: `rollout-cli/src/infer.rs` `run_pool` (`JsonlOutput`). Kind: D -/
structure OutputRow where
  /-- The sample. -/
  id : ContentId
  /-- The prompt. -/
  prompt : Text
  /-- The completion. -/
  completion : Text
  /-- Where the completion is. -/
  completionBlobId : ContentId
  /-- When it was generated. -/
  generatedAt : BitVec 64
deriving DecidableEq

namespace Job

variable (job : Job)

/-- The coordinator of a run; only tests change the window.
Source: `rollout-cli/src/infer.rs` `run_pool`. Kind: D -/
def coordinator (staleAfterMs : BitVec 64) : BatchCoordinator :=
  ⟨staleAfterMs, job.modelContentId, job.sampling⟩

/-- A worker of a run. Source: `rollout-cli/src/infer.rs` `run_pool`. Kind: D -/
def worker (workerId : WorkerId) : BatchWorker := ⟨workerId, job.sampling, defaultStaleAfterMs⟩

/-- Everything before the workers are spawned.
Source: `rollout-cli/src/infer.rs` `run_pool`. Kind: D -/
def startup (staleAfterMs : BitVec 64) : BatchM runId Nat := do
  openQueue
  (job.coordinator staleAfterMs).scanAndEnqueue job.inputs

/-- The done records, by input ordinal.
Source: `rollout-runtime-batch/src/coordinator.rs` `collect_done_records`. Kind: D -/
def collectDoneRecords : BatchM runId (List SampleRecord) := do
  let entries ← Storage.scanBytes ⟨⟨"infer", some runId, ["samples"]⟩, none⟩
  let records ← Prog.ofExcept (entries.mapM fun e => decodeRecord e.2)
  return (records.filter fun r => r.state.isDone).mergeSort
    fun a b => decide (a.inputIdx ≤ b.inputIdx)

/-- The output line of a done record.
Source: `rollout-cli/src/infer.rs` `run_pool` (the body of its last loop). Kind: D -/
def outputRow (record : SampleRecord) : BatchM runId (List OutputRow) := do
  let input ← Prog.ofExcept (match job.inputs[record.inputIdx.toNat]? with
    | some input => .ok input
    | none => .error (.internal ("Done record input_idx " ++ toString record.inputIdx.toNat ++
        " out of bounds (len=" ++ toString job.inputs.length ++ ")")))
  match record.state with
  | .done completionBlob finishedAtMs =>
      let completionBytes ← ask (.getObject completionBlob)
      let completion ← Prog.ofExcept (match Text.ofUtf8 completionBytes with
        | some text => .ok text
        | none => .error (.internal "completion blob not UTF-8: "))
      return [⟨record.id, input.prompt, completion, completionBlob, finishedAtMs⟩]
  | _ => return []

/-- The loop over the done records. Source: `rollout-cli/src/infer.rs` `run_pool`. Kind: D -/
def outputRows : List SampleRecord → BatchM runId (List OutputRow)
  | [] => return []
  | record :: records => do
      let row ← job.outputRow record
      let rows ← outputRows records
      return row ++ rows

/-- Everything after the workers have returned, up to writing the lines.
Source: `rollout-cli/src/infer.rs` `run_pool`. Kind: D -/
def collect : BatchM runId (List OutputRow) := do
  let done ← collectDoneRecords
  job.outputRows done

end Job

/-! ## A job of one empty prompt -/

omit [Blake3] in
theorem empty_fits : "".toUTF8.data.toList.length < 2 ^ 64 := by decide

/-- The empty text. Source: none: infrastructure. Kind: D -/
def emptyText : Text := ⟨"", empty_fits⟩

/-- One empty prompt, default parameters. Source: none: infrastructure. Kind: D -/
def oneJob : Job := ⟨[⟨0, emptyText⟩], ContentId.ofEmpty, SamplingParams.default⟩

/-- The digest of its only sample. Source: none: infrastructure. Kind: D -/
def oneSid : ContentId :=
  ⟨[0x45, 0x34, 0xe6, 0x0b, 0x54, 0xd7, 0x58, 0x06, 0xd4, 0x2e, 0xd6, 0xd5, 0x52, 0xaf, 0x38, 0x53,
    0x83, 0x98, 0x74, 0xf5, 0x0b, 0xc9, 0x95, 0x83, 0xdc, 0xaf, 0x25, 0x6c, 0x8d, 0xc8, 0x70, 0x22],
    rfl⟩

/-- A digest function that is right about the empty input and about that sample, for runs that
digest nothing else. Source: none: infrastructure. Kind: D -/
@[reducible] def oneBlake3 : Blake3 where
  hash data :=
    if data = sampleText ContentId.ofEmpty emptyText SamplingParams.default 0 then oneSid
    else ContentId.ofEmpty

end Rollout.Batch
