import Rollout.Batch.Runtime
import Rollout.Lib.Alone

/-!
# Runs of `rollout infer batch` over one output directory

* `globInputs` — the input rows, numbered; an input is found at its number.
* `Pass` — one run that went through: the scan, the workers until all have returned, the collection
  of the output. `Pass.Completes` says that it did what the programs say.
* `History` — passes over one output directory, from an empty one; the process ends between two.
* `Generation` — what the backend was asked and what it answered; `Pass.Faithful` — what an output
  should be; `Pass.Resumes` — every sample that is done at the start is one of the pass.
-/

set_option linter.unusedSectionVars false

namespace Rollout.Batch

open Rollout.Lib Rollout.Core

/-! ## Inputs -/

/-- The rows of the input files, one after the other, numbered.
Source: `rollout-cli/src/infer.rs` `glob_inputs`. Kind: D -/
def globInputs (rows : Sized Text) : List InputItem :=
  rows.1.mapIdx fun idx prompt => ⟨BitVec.ofNat 64 idx, prompt⟩

theorem getElem?_globInputs (rows : Sized Text) (idx : Nat) :
    (globInputs rows)[idx]? = rows.1[idx]?.map fun prompt => ⟨BitVec.ofNat 64 idx, prompt⟩ :=
  List.getElem?_mapIdx

/-- **An input is found at its number.** Source: `rollout-cli/src/infer.rs` `glob_inputs`.
Kind: L -/
theorem mem_globInputs {rows : Sized Text} {item : InputItem} :
    item ∈ globInputs rows ↔ rows.1[item.inputIdx.toNat]? = some item.prompt := by
  constructor
  · intro h
    obtain ⟨idx, hidx⟩ := List.mem_iff_getElem?.mp h
    rw [getElem?_globInputs] at hidx
    obtain ⟨prompt, hprompt, rfl⟩ := Option.map_eq_some_iff.mp hidx
    have hlt := (List.getElem?_eq_some_iff.mp hprompt).1.trans rows.2
    rwa [BitVec.toNat_ofNat, Nat.mod_eq_of_lt hlt]
  · intro h
    rw [List.mem_iff_getElem?]
    refine ⟨item.inputIdx.toNat, ?_⟩
    rw [getElem?_globInputs, h, Option.map_some, BitVec.ofNat_toNat, BitVec.setWidth_eq]

/-! ## Generations -/

/-- A prompt that was generated for, and the completion that was kept.
Source: `rollout-runtime-batch/src/worker.rs` `run_one`. Kind: D -/
structure Generation where
  /-- The sample. -/
  sample : ContentId
  /-- The prompt. -/
  prompt : Text
  /-- The sampling parameters. -/
  sampling : SamplingParams
  /-- The completion. -/
  text : Text

theorem scanBytes_eq (runId : RunId) (pfx : StorageKey) :
    (Storage.scanBytes ⟨pfx, none⟩ : BatchM runId (List (StorageKey × Bytes))) =
      ask (.store (.scan fun key => keyHasPrefix key pfx)) :=
  Prog.bind_ret (ask (.store (.scan fun key => keyHasPrefix key pfx)))

section passes

variable [Blake3] {runId : RunId} {ι : Type}

/-- The generation an operation is, with its answer.
Source: `rollout-runtime-batch/src/worker.rs` `run_one`. Kind: D -/
def generated : (o : Op runId) → o.Out → Option Generation
  | .generate sample [prompt] sampling, .ok completions =>
      completions.getLast?.map fun text => ⟨sample, prompt, sampling, text⟩
  | _, _ => none

/-- The generation an event is. Source: `rollout-runtime-batch/src/worker.rs` `run_one`. Kind: D -/
def generation (e : BatchEvent runId ι) : Option Generation :=
  match e with
  | ⟨_, o, .ok a, _, _⟩ => generated o a
  | ⟨_, _, .error _, _, _⟩ => none

/-- The bytes an event stores as an object.
Source: `rollout-runtime-batch/src/worker.rs` `run_one`. Kind: D -/
def storedBytes (e : BatchEvent runId ι) : Option Bytes :=
  match e with
  | ⟨_, .putObject bytes, .ok _, _, _⟩ => some bytes.1
  | _ => none

/-! ## Passes -/

/-- The samples of the done rows.
Source: `rollout-runtime-batch/src/coordinator.rs` `collect_done_records`. Kind: D -/
def World.doneRecords (w : World) (runId : RunId) : List SampleRecord :=
  ((w.rows.scan fun key => keyHasPrefix key ⟨"infer", some runId, ["samples"]⟩).filterMap
    fun entry => (decodeRecord entry.2).toOption).filter fun record => record.state.isDone

/-- One run that went through. Source: `rollout-cli/src/infer.rs` `run_pool`. Kind: D -/
structure Pass (runId : RunId) where
  /-- The prompts of the input rows. -/
  rows : Sized Text
  /-- The sampling parameters. -/
  sampling : SamplingParams
  /-- When the scan takes a claim for stale. -/
  staleAfterMs : BitVec 64
  /-- The number of workers beyond the first. -/
  others : Nat
  /-- The workers. -/
  ids : Fin (others + 1) → WorkerId
  /-- The output directory at the start. -/
  start : World
  /-- What the scan did. -/
  scanning : List (BatchEvent runId Unit)
  /-- The world the workers were spawned in. -/
  ready : World
  /-- What the workers did. -/
  working : List (BatchEvent runId (Fin (others + 1)))
  /-- The world the last worker left. -/
  finish : World
  /-- The lines of the output, or why there are none. -/
  output : Except CoreError (List OutputRow)

namespace Pass

variable (model : ContentId) (p : Pass runId)

/-- What the pass is called with. Source: `rollout-cli/src/infer.rs` `run_infer_batch`. Kind: D -/
def job : Job := ⟨globInputs p.rows, model, p.sampling⟩

/-- The sample of an input. Source: `rollout-runtime-batch/src/coordinator.rs` `scan_and_enqueue`
(`sid`). Kind: D -/
def sid (item : InputItem) : ContentId := sampleId model item.prompt p.sampling item.inputIdx

/-- **The pass does what its programs say**: the scan returns, every worker returns, and the output
is collected from what they left, with no operation failing on the way.
Source: `rollout-cli/src/infer.rs` `run_pool`. Kind: D -/
structure Completes : Prop where
  scans : ∃ enqueued, Run (machine runId Unit)
    ⟨p.start, fun _ => (p.job model).startup p.staleAfterMs⟩ p.scanning
    ⟨p.ready, fun _ => .ret enqueued⟩
  works : ∃ fuel, ∃ completed : Fin (p.others + 1) → Nat, Run (machine runId (Fin (p.others + 1)))
    ⟨p.ready, fun i => ((p.job model).worker (p.ids i)).runLoop fuel 0⟩ p.working
    ⟨p.finish, fun i => .ret (some (completed i))⟩
  collects : ∃ ch w, (service runId Unit).alone ch () (p.job model).collect p.finish =
    some (p.output, w)

/-- The generations of a pass. Source: `rollout-runtime-batch/src/worker.rs` `run_one`. Kind: D -/
def generations : List Generation := p.working.filterMap generation

/-- The bytes a pass digests for the object store: its prompts and what the workers store.
Source: `rollout-runtime-batch/src/coordinator.rs`, `worker.rs` (`put_bytes`). Kind: D -/
def digested : List Bytes := p.rows.1.map Text.utf8 ++ p.working.filterMap storedBytes

/-- The input an output line is for. Source: `rollout-cli/src/infer.rs` `run_pool` (`idx`).
Kind: D -/
def inputOf (row : OutputRow) : Option Nat :=
  (p.finish.sample runId row.id).map fun record => record.inputIdx.toNat

/-- **The output is faithful**: there is one, it has at most one line for each input, and a line has
the prompt of its input and the completion that was generated from it with the parameters of the
pass. Source: `rollout-cli/src/infer.rs` `run_pool`. Kind: D -/
structure Faithful (generated : List Generation) (rows : List OutputRow) : Prop where
  output : p.output = .ok rows
  once : rows.Pairwise fun a b => p.inputOf a ≠ p.inputOf b
  prompt : ∀ row ∈ rows, ∃ idx, p.inputOf row = some idx ∧ p.rows.1[idx]? = some row.prompt
  completion : ∀ row ∈ rows, ⟨row.id, row.prompt, p.sampling, row.completion⟩ ∈ generated

/-- Every sample that is done at the start is the sample of an input of the pass.
Source: `rollout-cli/src/infer.rs` `run_pool`. Kind: D -/
def Resumes : Prop :=
  ∀ record ∈ p.start.doneRecords runId, ∃ item ∈ globInputs p.rows, p.sid model item = record.id

instance : Decidable (p.Resumes model) :=
  inferInstanceAs (Decidable (∀ record ∈ p.start.doneRecords runId,
    ∃ item ∈ globInputs p.rows, p.sid model item = record.id))

end Pass

/-- **Passes over one output directory**, from an empty one, for one model. Between two of them the
process ends. Source: `rollout-cli/src/infer.rs` `run_pool`. Kind: D -/
inductive History (runId : RunId) (model : ContentId) : List (Pass runId) → World → Prop
  | nil : History runId model [] .fresh
  | snoc {ps : List (Pass runId)} {w : World} {p : Pass runId} (h : History runId model ps w)
      (hstart : p.start = w.crash) (hcompletes : p.Completes model) :
      History runId model (ps ++ [p]) p.finish

/-- Different samples of the passes have different ids.
Source: `rollout-runtime-batch/src/state.rs` `sample_id` (its documentation). Kind: D -/
def SamplesDiffer (model : ContentId) (ps : List (Pass runId)) : Prop :=
  ∀ p ∈ ps, ∀ q ∈ ps, ∀ item ∈ globInputs p.rows, ∀ other ∈ globInputs q.rows,
    p.sid model item = q.sid model other → item = other ∧ p.sampling = q.sampling

/-- Different bytes of the passes have different digests.
Source: `rollout-core/src/ids.rs` `ContentId::of`. Kind: D -/
def DigestsDiffer (ps : List (Pass runId)) : Prop :=
  ∀ p ∈ ps, ∀ q ∈ ps, ∀ bytes ∈ p.digested, ∀ other ∈ q.digested,
    ContentId.of bytes = ContentId.of other → bytes = other

end passes

end Rollout.Batch
