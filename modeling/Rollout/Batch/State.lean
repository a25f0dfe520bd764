import Rollout.Core.Storage

/-!
# Samples

The row of a sample and its compare-and-swap transitions: `pending → running → done | failed`, and
`running → pending` for a claim that has become stale.

* `SampleRecord.codec` — the row on the wire; `sampleKey` — where it is stored.
* `sampleId` — the digest of the schema version, the model, the prompt, the sampling parameters and
  the position in the input.
* `tryClaim`, `tryComplete`, `tryFail`, `tryRepending` — the transitions, each on the exact bytes of
  the prior record.
-/

set_option linter.unusedSectionVars false

namespace Rollout.Batch

open Rollout.Lib Rollout.Core

/-! ## Sampling parameters -/

/-- Sampling parameters; the floats are their bits.
Source: `rollout-core/src/traits/backend.rs` `SamplingParams`. Kind: D -/
structure SamplingParams where
  /-- Temperature. -/
  temperature : Fin 4 → UInt8
  /-- Nucleus top-p. -/
  topP : Fin 4 → UInt8
  /-- Top-k. -/
  topK : BitVec 32
  /-- Max new tokens. -/
  maxTokens : BitVec 32
  /-- Deterministic seed. -/
  seed : Option (BitVec 64)
  /-- Stop strings. -/
  stop : Sized Text
  /-- Streaming. -/
  stream : Bool

/-- A 32-bit float is its four bytes. Source: none: infrastructure. Kind: D -/
def f32 : Codec (Fin 4 → UInt8) :=
  (Codec.fixed 4).refine (fun bs => some fun i => bs.1.getD i 0) (fun f => ⟨List.ofFn f, by simp⟩)
    (by
      intro f
      refine congrArg some (funext fun i => ?_)
      show (List.ofFn f).getD i 0 = f i
      rw [List.getD_eq_getElem?_getD, List.getElem?_ofFn, dif_pos i.isLt]
      rfl)

/-- The bits of the float `1.0`.
Source: `rollout-core/src/traits/backend.rs` `defaults`. Kind: D -/
def f32One : Fin 4 → UInt8 := fun i => [0x00, 0x00, 0x80, 0x3f].getD i 0

/-- Source: `rollout-core/src/traits/backend.rs` `Default for SamplingParams`. Kind: D -/
def SamplingParams.default : SamplingParams where
  temperature := f32One
  topP := f32One
  topK := -1
  maxTokens := 16
  seed := none
  stop := ⟨[], by decide⟩
  stream := false

/-- Sampling parameters on the wire.
Source: `rollout-core/src/traits/backend.rs` `SamplingParams`. Kind: D -/
def SamplingParams.codec : Codec SamplingParams :=
  (f32.prod (f32.prod ((Codec.varsint 32 Codec.width32_pos).prod ((Codec.varint 32 Codec.width32_pos).prod
    (Codec.u64.option.prod ((Codec.seq Text.codec).prod Codec.bool)))))).refine
    (fun x => some ⟨x.1, x.2.1, x.2.2.1, x.2.2.2.1, x.2.2.2.2.1, x.2.2.2.2.2.1, x.2.2.2.2.2.2⟩)
    (fun p => (p.temperature, p.topP, p.topK, p.maxTokens, p.seed, p.stop, p.stream)) fun _ => rfl

/-! ## Records -/

/-- Lifecycle of a sample. Source: `rollout-runtime-batch/src/state.rs` `SampleState`. Kind: D -/
inductive SampleState
  | pending
  | running (workerId : WorkerId) (startedAtMs : BitVec 64)
  | done (completionBlob : ContentId) (finishedAtMs : BitVec 64)
  | failed (reason : Text) (failedAtMs : BitVec 64)
deriving DecidableEq

/-- The row of a sample. Source: `rollout-runtime-batch/src/state.rs` `SampleRecord`. Kind: D -/
structure SampleRecord where
  /-- Deterministic sample identity. -/
  id : ContentId
  /-- Where the prompt is. -/
  promptBlob : ContentId
  /-- Lifecycle state. -/
  state : SampleState
  /-- When it was first enqueued, Unix milliseconds. -/
  createdAtMs : BitVec 64
  /-- The ordinal in the input file. -/
  inputIdx : BitVec 64
deriving DecidableEq

namespace SampleState

/-- Whether a state is `done` or `failed`.
Source: `rollout-runtime-batch/src/worker.rs` `run_one` (`matches!`). Kind: D -/
def isTerminal : SampleState → Bool
  | .done .. => true
  | .failed .. => true
  | _ => false

/-- Whether a state is `done`.
Source: `rollout-runtime-batch/src/coordinator.rs` `collect_done_records` (`matches!`). Kind: D -/
def isDone : SampleState → Bool
  | .done .. => true
  | _ => false

theorem isTerminal_of_isDone {state : SampleState} (h : state.isDone = true) :
    state.isTerminal = true := by
  cases state with
  | done => rfl
  | _ => cases h

/-- A state on the wire. Source: `rollout-runtime-batch/src/state.rs` `SampleState`. Kind: D -/
def codec : Codec SampleState where
  enc
    | .pending => Codec.tag.enc 0
    | .running w t => Codec.tag.enc 1 ++ (WorkerId.codec.prod Codec.u64).enc (w, t)
    | .done b t => Codec.tag.enc 2 ++ (ContentId.codec.prod Codec.u64).enc (b, t)
    | .failed r t => Codec.tag.enc 3 ++ (Text.codec.prod Codec.u64).enc (r, t)
  dec bs := (Codec.tag.dec bs).bind fun x =>
    if x.1 = 0 then some (.pending, x.2)
    else if x.1 = 1 then
      ((WorkerId.codec.prod Codec.u64).dec x.2).map fun y => (.running y.1.1 y.1.2, y.2)
    else if x.1 = 2 then
      ((ContentId.codec.prod Codec.u64).dec x.2).map fun y => (.done y.1.1 y.1.2, y.2)
    else if x.1 = 3 then
      ((Text.codec.prod Codec.u64).dec x.2).map fun y => (.failed y.1.1 y.1.2, y.2)
    else none
  dec_enc := by
    intro st rest
    cases st with
    | pending => simp
    | running w t => rw [List.append_assoc, Codec.dec_enc, Option.bind_some]; simp
    | done b t => rw [List.append_assoc, Codec.dec_enc, Option.bind_some]; simp
    | failed r t => rw [List.append_assoc, Codec.dec_enc, Option.bind_some]; simp

end SampleState

namespace SampleRecord

/-- A row on the wire. Source: `rollout-runtime-batch/src/state.rs` `SampleRecord`. Kind: D -/
def codec : Codec SampleRecord :=
  (ContentId.codec.prod (ContentId.codec.prod (SampleState.codec.prod
    (Codec.u64.prod Codec.u64)))).refine
    (fun x => some ⟨x.1, x.2.1, x.2.2.1, x.2.2.2.1, x.2.2.2.2⟩)
    (fun r => (r.id, r.promptBlob, r.state, r.createdAtMs, r.inputIdx)) fun _ => rfl

end SampleRecord

/-- Source: `rollout-runtime-batch/src/state.rs` `encode_record`. Kind: D -/
def encodeRecord (rec : SampleRecord) : Bytes := SampleRecord.codec.enc rec

@[simp] theorem encodeRecord_inj {a b : SampleRecord} : encodeRecord a = encodeRecord b ↔ a = b :=
  Codec.enc_inj SampleRecord.codec

/-- Source: `rollout-runtime-batch/src/worker.rs`, `coordinator.rs` (`postcard::from_bytes`).
Kind: D -/
def decodeRecord (bytes : Bytes) : Except CoreError SampleRecord :=
  match SampleRecord.codec.fromBytes bytes with
  | some rec => .ok rec
  | none => .error (.postcardDecode "SampleRecord")

@[simp] theorem decodeRecord_encodeRecord (rec : SampleRecord) :
    decodeRecord (encodeRecord rec) = .ok rec := by
  unfold decodeRecord encodeRecord
  rw [Codec.fromBytes_enc]

/-- The row of a sample. Source: `rollout-runtime-batch/src/state.rs` `sample_key`. Kind: D -/
def sampleKey (runId : RunId) (sampleId : ContentId) : StorageKey :=
  ⟨"infer", some runId, ["samples", sampleId.display]⟩

@[simp] theorem sampleKey_inj {runId : RunId} {a b : ContentId} :
    sampleKey runId a = sampleKey runId b ↔ a = b := by
  simp [sampleKey]

/-! ## Sample ids -/

/-- Source: `rollout-runtime-batch/src/state.rs` `SAMPLING_PARAMS_SCHEMA_VERSION`. Kind: D -/
def samplingParamsSchemaVersion : UInt8 := 1

/-- Source: `rollout-runtime-batch/src/state.rs` `DEFAULT_STALE_AFTER_MS`. Kind: D -/
def defaultStaleAfterMs : BitVec 64 := 5 * 60000

/-- The little-endian bytes of a 64-bit integer.
Source: `rollout-runtime-batch/src/state.rs` `sample_id` (`to_le_bytes`). Kind: D -/
def leBytes (n : BitVec 64) : Bytes := List.ofFn fun i : Fin 8 => UInt8.ofNat (n.toNat >>> (8 * i.1))

/-- What the id of a sample is the digest of.
Source: `rollout-runtime-batch/src/state.rs` `sample_id`. Kind: D -/
def sampleText (modelContentId : ContentId) (prompt : Text) (params : SamplingParams)
    (idx : BitVec 64) : Bytes :=
  [samplingParamsSchemaVersion] ++ modelContentId.raw.1 ++ prompt.utf8 ++
    SamplingParams.codec.enc params ++ leBytes idx

/-- The id of a sample. Source: `rollout-runtime-batch/src/state.rs` `sample_id`. Kind: D -/
def sampleId [Blake3] (modelContentId : ContentId) (prompt : Text) (params : SamplingParams)
    (idx : BitVec 64) : ContentId :=
  .of (sampleText modelContentId prompt params idx)

/-! ## Transitions -/

section transitions

variable {m : Type → Type} [Monad m] [StorageTxn m]

/-- Whether a claim that was made at `startedAtMs` has become stale (`saturating_sub`).
Source: `rollout-runtime-batch/src/state.rs` `try_claim`, `coordinator.rs`. Kind: D -/
def isStale (nowMs startedAtMs staleAfterMs : BitVec 64) : Bool :=
  decide (staleAfterMs.toNat < nowMs.toNat - startedAtMs.toNat)

/-- Whether a claim may be made. Source: `rollout-runtime-batch/src/state.rs` `try_claim`.
Kind: D -/
def claimable (state : SampleState) (nowMs staleAfterMs : BitVec 64) : Bool :=
  match state with
  | .pending => true
  | .running _ startedAtMs => isStale nowMs startedAtMs staleAfterMs
  | .done .. => false
  | .failed .. => false

theorem isTerminal_of_claimable {state : SampleState} {nowMs staleAfterMs : BitVec 64}
    (h : claimable state nowMs staleAfterMs = true) : state.isTerminal = false := by
  cases state with
  | pending => rfl
  | running => rfl
  | done => cases h
  | failed => cases h

/-- Replace the row of a record by the same record in another state.
Source: `rollout-runtime-batch/src/state.rs` (`cas_bytes` of each transition). Kind: D -/
def casState (record : SampleRecord) (runId : RunId) (state : SampleState) : m Bool :=
  StorageTxn.casBytes (sampleKey runId record.id) (some (encodeRecord record))
    (some (encodeRecord { record with state }))

/-- Claim a pending sample, or one whose claim is stale.
Source: `rollout-runtime-batch/src/state.rs` `try_claim`. Kind: D -/
def tryClaim (record : SampleRecord) (runId : RunId) (workerId : WorkerId)
    (nowMs staleAfterMs : BitVec 64) : m Bool := do
  if !claimable record.state nowMs staleAfterMs then
    return false
  casState record runId (.running workerId nowMs)

/-- Source: `rollout-runtime-batch/src/state.rs` `try_complete`. Kind: D -/
def tryComplete (runningRecord : SampleRecord) (runId : RunId) (completionBlob : ContentId)
    (finishedAtMs : BitVec 64) : m Bool :=
  casState runningRecord runId (.done completionBlob finishedAtMs)

/-- Source: `rollout-runtime-batch/src/state.rs` `try_fail`. Kind: D -/
def tryFail (runningRecord : SampleRecord) (runId : RunId) (reason : Text)
    (failedAtMs : BitVec 64) : m Bool :=
  casState runningRecord runId (.failed reason failedAtMs)

/-- Source: `rollout-runtime-batch/src/state.rs` `try_repending`. Kind: D -/
def tryRepending (runningRecord : SampleRecord) (runId : RunId) : m Bool :=
  casState runningRecord runId .pending

end transitions

end Rollout.Batch
