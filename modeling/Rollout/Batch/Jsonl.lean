import Rollout.Batch.DoneAbsorbing
import Rollout.Batch.Infer
import Rollout.Cli.UnixTime
import Rollout.Lib.Json
import Rollout.Lib.Whitespace

/-!
# What becomes of the fields of an input row

* `SerdeJson` — the JSON library: how an object is written and read, and which number is read where
  one was written. `SerdeJson.Documented` says what its documentation promises.
* `JsonlInput`, `JsonlOutput` — the rows, with the rest of an object flattened into them;
  `readJsonl` — the rows of a file.
* `InferRun` — a completed run of `rollout infer batch`, from the lines of its input files to the
  lines it writes; `Survives` — the metadata of the user has come through.
  `metadata_survives_iff`: when.
* `oneJson` — a library that is right for the lines of a run of one empty prompt, with and without
  an id and a tag.
-/

set_option linter.unusedSectionVars false

namespace Rollout.Batch

open Rollout.Lib Rollout.Core

/-! ## JSON -/

theorem forall₂_getElem? {α β : Type} {R : α → β → Prop} {as : List α} {bs : List β}
    (h : List.Forall₂ R as bs) {k : Nat} {a : α} (ha : as[k]? = some a) :
    ∃ b, bs[k]? = some b ∧ R a b := by
  induction h generalizing k with
  | nil => cases ha
  | cons hab _ ih =>
      cases k with
      | zero =>
          cases ha
          exact ⟨_, rfl, hab⟩
      | succ k => exact ih ha

/-- The JSON library. Source: `rollout-runtime-batch/src/io.rs` (`serde_json`). Kind: D -/
structure SerdeJson where
  /-- Its numbers. -/
  Number : Type
  /-- An integer as a number. -/
  ofInt : Int → Number
  /-- A float as a number; none when it is not finite. -/
  ofF32 : (Fin 4 → UInt8) → Option Number
  /-- The text of an object with the given fields, in order. -/
  toString : Fields Number → Except String String
  /-- The fields of the object a text is, in order, with those that stand twice. -/
  fromStr : String → Except String (Fields Number)
  /-- What it says of an object that is no row. -/
  mismatch : String → String
  /-- The number that is read where one was written. -/
  back : Number → Number

/-- **What the library promises**: text, structure and integers are read as they were written;
without `float_roundtrip` other numbers may be read as a number close by.
Source: `rollout-runtime-batch/src/io.rs` (`serde_json`). Kind: D -/
structure SerdeJson.Documented (J : SerdeJson) : Prop where
  reads : ∀ fields text, J.toString fields = .ok text →
    J.fromStr text = .ok (JsonValue.mapFields J.back fields)
  ints : ∀ i, J.back (J.ofInt i) = J.ofInt i

/-- A map of field names, in their order. Source: `rollout-runtime-batch/src/io.rs`
(`serde_json::Map`). Kind: D -/
def insertField {N : Type} (k : String) (v : JsonValue N) : Fields N → Fields N
  | [] => [(k, v)]
  | (k', v') :: m =>
      if k < k' then (k, v) :: (k', v') :: m
      else if k = k' then (k, v) :: m
      else (k', v') :: insertField k v m

/-- The fields that are none of the given ones, the last one of a name.
Source: `rollout-runtime-batch/src/io.rs` (`serde(flatten)`). Kind: D -/
def flattened {N : Type} (known : List String) (fields : Fields N) : Fields N :=
  (fields.filter fun f => decide (f.1 ∉ known)).foldl (fun m f => insertField f.1 f.2 m) []

/-- The value of a field, which stands at most once.
Source: `rollout-runtime-batch/src/io.rs` (`derive(Deserialize)`). Kind: D -/
def fieldOf {N : Type} (name : String) (fields : Fields N) : Option (Option (JsonValue N)) :=
  match fields.filter fun f => decide (f.1 = name) with
  | [] => some none
  | [f] => some (some f.2)
  | _ => none

/-- The value of a field that is a text. Source: `rollout-runtime-batch/src/io.rs`
(`derive(Deserialize)`). Kind: D -/
def textField {N : Type} (name : String) (fields : Fields N) : Option String :=
  match fieldOf name fields with
  | some (some (.string s)) => some s
  | _ => none

/-! ## Rows -/

/-- One input row. Source: `rollout-runtime-batch/src/io.rs` `JsonlInput`. Kind: D -/
structure JsonlInput (N : Type) where
  /-- Optional caller-supplied id. -/
  id : Option String
  /-- Prompt text. -/
  prompt : String
  /-- Extra fields. -/
  extras : Fields N

/-- One output row. Source: `rollout-runtime-batch/src/io.rs` `JsonlOutput`. Kind: D -/
structure JsonlOutput (N : Type) where
  /-- Stable sample id. -/
  id : String
  /-- Original prompt text. -/
  prompt : String
  /-- Generated completion text. -/
  completion : String
  /-- The sampling parameters. -/
  samplingParams : JsonValue N
  /-- The model. -/
  modelUri : String
  /-- Why the completion ended. -/
  finishReason : String
  /-- The digest of the model. -/
  modelContentId : String
  /-- The digest of the completion. -/
  completionBlobId : String
  /-- When it was written. -/
  generatedAt : String
  /-- Extra fields. -/
  extras : Fields N

/-- Source: `rollout-runtime-batch/src/io.rs` `JsonlInput` (`derive(Deserialize)`). Kind: D -/
def JsonlInput.ofFields {N : Type} (fields : Fields N) : Option (JsonlInput N) := do
  let id ← match ← fieldOf "id" fields with
    | none => some none
    | some .null => some none
    | some (.string s) => some (some s)
    | some _ => none
  let prompt ← textField "prompt" fields
  return ⟨id, prompt, flattened ["id", "prompt"] fields⟩

namespace JsonlOutput

variable {N : Type}

/-- The fields of a row but for its extras. Source: `rollout-runtime-batch/src/io.rs` `JsonlOutput`.
Kind: D -/
def known : List String :=
  ["id", "prompt", "completion", "sampling_params", "model_uri", "finish_reason",
    "model_content_id", "completion_blob_id", "generated_at"]

/-- What is written of a row. Source: `rollout-runtime-batch/src/io.rs` `JsonlOutput`
(`derive(Serialize)`). Kind: D -/
def fields (row : JsonlOutput N) : Fields N :=
  [("id", .string row.id), ("prompt", .string row.prompt), ("completion", .string row.completion),
    ("sampling_params", row.samplingParams), ("model_uri", .string row.modelUri),
    ("finish_reason", .string row.finishReason),
    ("model_content_id", .string row.modelContentId),
    ("completion_blob_id", .string row.completionBlobId),
    ("generated_at", .string row.generatedAt)] ++ row.extras

/-- Source: `rollout-runtime-batch/src/io.rs` `JsonlOutput` (`derive(Deserialize)`). Kind: D -/
def ofFields (fields : Fields N) : Option (JsonlOutput N) := do
  let id ← textField "id" fields
  let prompt ← textField "prompt" fields
  let completion ← textField "completion" fields
  let samplingParams ← (← fieldOf "sampling_params" fields)
  let modelUri ← textField "model_uri" fields
  let finishReason ← textField "finish_reason" fields
  let modelContentId ← textField "model_content_id" fields
  let completionBlobId ← textField "completion_blob_id" fields
  let generatedAt ← textField "generated_at" fields
  return ⟨id, prompt, completion, samplingParams, modelUri, finishReason, modelContentId,
    completionBlobId, generatedAt, flattened known fields⟩

end JsonlOutput

namespace SerdeJson

variable (J : SerdeJson)

/-- One line of an input file. Source: `rollout-runtime-batch/src/io.rs` `read_jsonl`. Kind: D -/
def inputRow (text : String) : Except String (JsonlInput J.Number) :=
  match J.fromStr text with
  | .error e => .error e
  | .ok fields =>
      match JsonlInput.ofFields fields with
      | none => .error (J.mismatch text)
      | some row => .ok row

/-- The rows of the lines of a file, from a line on. Source: `rollout-runtime-batch/src/io.rs`
`read_jsonl`. Kind: D -/
def readJsonlFrom (path : String) : Nat → List String →
    Except CoreError (List (JsonlInput J.Number))
  | _, [] => .ok []
  | lineno, line :: lines =>
      match String.ofList (trim line.toList) with
      | "" => readJsonlFrom path (lineno + 1) lines
      | trimmed =>
          match J.inputRow trimmed with
          | .error e => .error (.fatal (.schemaViolation
              (path ++ ":" ++ ToString.toString (lineno + 1) ++ ": " ++ e)))
          | .ok row => (readJsonlFrom path (lineno + 1) lines).map (row :: ·)

/-- The rows of the input files, one after the other; a file is its path and its lines.
Source: `rollout-cli/src/infer.rs` `glob_inputs`. Kind: D -/
def readFiles : List (String × List String) → Except CoreError (List (JsonlInput J.Number))
  | [] => .ok []
  | (path, lines) :: files => do
      let rows ← J.readJsonlFrom path 0 lines
      let out ← readFiles files
      return rows ++ out

/-- A float as a value. Source: `rollout-cli/src/infer.rs` `run_pool` (`serde_json::to_value`).
Kind: D -/
def float (x : Fin 4 → UInt8) : JsonValue J.Number :=
  match J.ofF32 x with
  | none => .null
  | some n => .number n

/-- The sampling parameters as a value. Source: `rollout-cli/src/infer.rs` `run_pool`
(`sampling_json`). Kind: D -/
def samplingJson (sampling : SamplingParams) : JsonValue J.Number :=
  .object [("max_tokens", .number (J.ofInt sampling.maxTokens.toNat)),
    ("seed", match sampling.seed with
      | none => .null
      | some seed => .number (J.ofInt seed.toNat)),
    ("stop", .array (sampling.stop.1.map fun s => .string s.str)),
    ("stream", .bool sampling.stream), ("temperature", J.float sampling.temperature),
    ("top_k", .number (J.ofInt sampling.topK.toInt)), ("top_p", J.float sampling.topP)]

end SerdeJson

/-! ## Runs -/

/-- The line of an output row. Source: `rollout-cli/src/infer.rs` `run_pool` (`row`). Kind: D -/
def jsonlOutput (J : SerdeJson) (model : ContentId) (modelUri : String) (sampling : SamplingParams)
    (row : OutputRow) : JsonlOutput J.Number where
  id := row.id.display
  prompt := row.prompt.str
  completion := row.completion.str
  samplingParams := J.samplingJson sampling
  modelUri := modelUri
  finishReason := "stop"
  modelContentId := model.display
  completionBlobId := row.completionBlobId.display
  generatedAt := (Cli.formatUnixMs row.generatedAt).getD ""
  extras := []

section runs

variable [Blake3] {runId : RunId} {J : SerdeJson} {model : ContentId}

/-- **A completed run**, from the lines of its input files to the lines of its output.
Source: `rollout-cli/src/infer.rs` `run_infer_batch`, `run_pool`. Kind: D -/
structure InferRun (runId : RunId) (J : SerdeJson) (model : ContentId) where
  /-- The input files: their paths and lines. -/
  files : List (String × List String)
  /-- Their rows. -/
  inputs : List (JsonlInput J.Number)
  /-- The model, as configured. -/
  modelUri : String
  /-- What the run does with the prompts. -/
  pass : Pass runId
  /-- The done records it collects, and what it leaves then. -/
  done : List SampleRecord
  collected : World
  /-- What they become. -/
  rows : List OutputRow
  /-- What it writes. -/
  lines : List String
  reads : J.readFiles files = .ok inputs
  prompts : pass.rows.1.map Text.str = inputs.map JsonlInput.prompt
  completes : pass.Completes model
  output : pass.output = .ok rows
  collects : ∃ ch, (service runId Unit).alone ch () Job.collectDoneRecords pass.finish =
    some (.ok done, collected)
  assembles : ∃ ch w, (service runId Unit).alone ch () ((pass.job model).outputRows done) collected =
    some (.ok rows, w)
  writes : rows.Forall₂ (fun row line =>
    J.toString (jsonlOutput J model modelUri pass.sampling row).fields = .ok line) lines

/-- **The metadata of an input survives in a line**: the row has the id that was supplied and the
extra fields, no field stands twice in it, and it is read back as it was written.
Source: `rollout-runtime-batch/src/io.rs` `JsonlInput`, `JsonlOutput` (their documentation). Kind: D -/
structure RowSurvives (J : SerdeJson) (input : JsonlInput J.Number) (row : JsonlOutput J.Number)
    (line : String) : Prop where
  id : ∀ id, input.id = some id → row.id = id
  extras : ∀ f ∈ input.extras, f ∈ row.extras
  once : (row.fields.map Prod.fst).Nodup
  back : (J.fromStr line).toOption.bind JsonlOutput.ofFields = some row

/-- The two floats of the sampling parameters are read as they were written.
Source: `rollout-cli/src/infer.rs` `run_pool` (`sampling_json`). Kind: D -/
def SerdeJson.ReadsBack (J : SerdeJson) (sampling : SamplingParams) : Prop :=
  (∀ n, J.ofF32 sampling.temperature = some n → J.back n = n) ∧
    ∀ n, J.ofF32 sampling.topP = some n → J.back n = n

theorem mapNumber_samplingJson (hints : ∀ i, J.back (J.ofInt i) = J.ofInt i)
    (sampling : SamplingParams) :
    JsonValue.mapNumber J.back (J.samplingJson sampling) = J.samplingJson sampling ↔
      J.ReadsBack sampling := by
  have hstop : ∀ texts : List Text, JsonValue.mapItems J.back
      (texts.map fun s => JsonValue.string s.str) = texts.map fun s => JsonValue.string s.str := by
    intro texts
    induction texts with
    | nil => rfl
    | cons s texts ih =>
        rw [List.map_cons, JsonValue.mapItems, ih]
        rfl
  have hfloat : ∀ x, JsonValue.mapNumber J.back (J.float x) = J.float x ↔
      ∀ n, J.ofF32 x = some n → J.back n = n := by
    intro x
    unfold SerdeJson.float
    cases hx : J.ofF32 x with
    | none => simp [JsonValue.mapNumber]
    | some n => simp [JsonValue.mapNumber]
  have hseed : JsonValue.mapNumber J.back (match sampling.seed with
      | none => .null
      | some seed => .number (J.ofInt seed.toNat)) = (match sampling.seed with
      | none => .null
      | some seed => .number (J.ofInt seed.toNat)) := by
    cases sampling.seed with
    | none => rfl
    | some seed => rw [JsonValue.mapNumber, hints]
  unfold SerdeJson.samplingJson SerdeJson.ReadsBack
  rw [← hfloat, ← hfloat]
  simp [JsonValue.mapNumber, JsonValue.mapFields, hints, hstop, hseed]

theorem ofFields_mapFields (row : OutputRow) (modelUri : String) (sampling : SamplingParams) :
    JsonlOutput.ofFields (JsonValue.mapFields J.back
      (jsonlOutput J model modelUri sampling row).fields) =
      some { jsonlOutput J model modelUri sampling row with
        samplingParams := JsonValue.mapNumber J.back (J.samplingJson sampling) } := rfl

/-- **When the metadata survives in a line.** Source: `rollout-cli/src/infer.rs` `run_pool` (`row`).
Kind: P -/
theorem rowSurvives_iff (hdoc : J.Documented) {input : JsonlInput J.Number} {row : OutputRow}
    {modelUri line : String} {sampling : SamplingParams}
    (hline : J.toString (jsonlOutput J model modelUri sampling row).fields = .ok line) :
    RowSurvives J input (jsonlOutput J model modelUri sampling row) line ↔
      input.extras = [] ∧ (∀ id, input.id = some id → row.id.display = id) ∧
        J.ReadsBack sampling := by
  have hback : (J.fromStr line).toOption.bind JsonlOutput.ofFields =
      some (jsonlOutput J model modelUri sampling row) ↔ J.ReadsBack sampling := by
    rw [hdoc.reads _ _ hline]
    show JsonlOutput.ofFields _ = _ ↔ _
    rw [ofFields_mapFields, ← mapNumber_samplingJson hdoc.ints]
    refine ⟨fun h => congrArg JsonlOutput.samplingParams (Option.some.inj h), fun h => ?_⟩
    rw [h]
    rfl
  constructor
  · rintro ⟨hid, hextras, -, hread⟩
    exact ⟨List.eq_nil_iff_forall_not_mem.mpr fun f hf => List.not_mem_nil (hextras f hf), hid,
      hback.mp hread⟩
  · rintro ⟨hextras, hid, hread⟩
    refine ⟨hid, fun f hf => ?_, ?_, hback.mpr hread⟩
    · rw [hextras] at hf
      cases hf
    · show JsonlOutput.known.Nodup
      decide

/-- A row is that of its record. Source: `rollout-cli/src/infer.rs` `run_pool`. Kind: D -/
def JoinedTo (inputs : List InputItem) (record : SampleRecord) (row : OutputRow) : Prop :=
  row.id = record.id ∧ ∃ input, inputs[record.inputIdx.toNat]? = some input

theorem joined_of_outputRow {job : Job} {ch : (service runId Unit).Choice} {record : SampleRecord}
    (hdone : record.state.isDone = true) {row : List OutputRow} {w w' : World}
    (h : (service runId Unit).alone ch () (job.outputRow record : BatchM runId _) w =
      some (.ok row, w')) : ∃ r, row = [r] ∧ JoinedTo job.inputs record r := by
  unfold Job.outputRow at h
  cases hinput : job.inputs[record.inputIdx.toNat]? with
  | none =>
      rw [hinput] at h
      cases h
  | some input =>
      cases hstate : record.state with
      | done blob finishedAtMs =>
          rw [hinput, hstate] at h
          obtain ⟨⟨bytes, w₁⟩, -, h⟩ := Option.bind_eq_some_iff.mp h
          cases htext : Text.ofUtf8 bytes with
          | none =>
              simp only [Prog.bind, htext] at h
              cases h
          | some completion =>
              simp only [Prog.bind, htext] at h
              cases h
              exact ⟨_, rfl, rfl, input, hinput⟩
      | pending => simp [hstate, SampleState.isDone] at hdone
      | running worker at_ => simp [hstate, SampleState.isDone] at hdone
      | failed reason at_ => simp [hstate, SampleState.isDone] at hdone

/-- **The rows of done records**, one for each. Source: `rollout-cli/src/infer.rs` `run_pool`.
Kind: P -/
theorem joined_of_outputRows {job : Job} {ch : (service runId Unit).Choice}
    {records : List SampleRecord} (hdone : ∀ record ∈ records, record.state.isDone = true)
    {rows : List OutputRow} {w w' : World}
    (h : (service runId Unit).alone ch () (job.outputRows records : BatchM runId _) w =
      some (.ok rows, w')) : List.Forall₂ (JoinedTo job.inputs) records rows := by
  induction records generalizing rows w w' with
  | nil =>
      cases h
      exact .nil
  | cons record records ih =>
      rw [Job.outputRows, Service.alone_bind] at h
      obtain ⟨⟨first, w₁⟩, hfirst, h⟩ := Option.bind_eq_some_iff.mp h
      cases first with
      | error e => cases h
      | ok row =>
          dsimp only at h
          rw [Service.alone_bind] at h
          obtain ⟨⟨rest, w₂⟩, hrest, h⟩ := Option.bind_eq_some_iff.mp h
          cases rest with
          | error e => cases h
          | ok out =>
              cases h
              obtain ⟨r, rfl, hjoined⟩ := joined_of_outputRow (hdone record List.mem_cons_self) hfirst
              exact .cons hjoined (ih (fun x hx => hdone x (List.mem_cons_of_mem _ hx)) hrest)

theorem isDone_of_collected {ch : (service runId Unit).Choice} {done : List SampleRecord} {w w' : World}
    (h : (service runId Unit).alone ch () (Job.collectDoneRecords : BatchM runId _) w =
      some (.ok done, w')) {record : SampleRecord} (hmem : record ∈ done) :
    record.state.isDone = true := by
  unfold Job.collectDoneRecords at h
  rw [Service.alone_bind] at h
  obtain ⟨⟨entries, w₁⟩, -, h⟩ := Option.bind_eq_some_iff.mp h
  cases entries with
  | error e => cases h
  | ok entries =>
      dsimp only at h
      cases hdecode : entries.mapM fun e => decodeRecord e.2 with
      | error e =>
          rw [hdecode] at h
          cases h
      | ok records =>
          rw [hdecode] at h
          cases h
          exact (List.mem_filter.mp (List.mem_mergeSort.mp hmem)).2

namespace InferRun

variable (r : InferRun runId J model)

/-- **The metadata survives a run**: in the line of each row that is assembled from a done record.
Source: `rollout-runtime-batch/src/io.rs` (its documentation). Kind: D -/
def Survives : Prop :=
  ∀ (k : Nat) (record : SampleRecord) (row : OutputRow) (line : String), r.done[k]? = some record →
    r.rows[k]? = some row → r.lines[k]? = some line → ∃ input,
      r.inputs[record.inputIdx.toNat]? = some input ∧
        RowSurvives J input (jsonlOutput J model r.modelUri r.pass.sampling row) line

/-- **What has to be lost**: an input with a done record has no extra fields and no id but the one of
the record, and the sampling parameters are read back. Source: `rollout-cli/src/infer.rs`
`glob_inputs`, `run_pool`. Kind: D -/
def NothingToLose : Prop :=
  ∀ record ∈ r.done, ∃ input, r.inputs[record.inputIdx.toNat]? = some input ∧ input.extras = [] ∧
    (∀ id, input.id = some id → record.id.display = id) ∧ J.ReadsBack r.pass.sampling

/-- The rows are those of the done records. Source: `rollout-cli/src/infer.rs` `run_pool`. Kind: L -/
theorem joined : List.Forall₂ (JoinedTo (globInputs r.pass.rows)) r.done r.rows := by
  obtain ⟨ch, hcollects⟩ := r.collects
  obtain ⟨ch', w, hassembles⟩ := r.assembles
  exact joined_of_outputRows (fun record h => isDone_of_collected hcollects h) hassembles

/-- **When the metadata survives a run.** Source: `rollout-cli/src/infer.rs` `glob_inputs`,
`run_pool`. Kind: C -/
theorem metadata_survives_iff (hdoc : J.Documented) : r.Survives ↔ r.NothingToLose := by
  constructor
  · intro h record hrecord
    obtain ⟨k, hk⟩ := List.mem_iff_getElem?.mp hrecord
    obtain ⟨row, hrow, hjoin⟩ := forall₂_getElem? r.joined hk
    obtain ⟨line, hline, hwrite⟩ := forall₂_getElem? r.writes hrow
    obtain ⟨input, hinput, hsurvives⟩ := h k record row line hk hrow hline
    rw [rowSurvives_iff hdoc hwrite, hjoin.1] at hsurvives
    exact ⟨input, hinput, hsurvives⟩
  · intro h k record row line hk hrow hline
    obtain ⟨input, hinput, hlose⟩ := h record (List.mem_of_getElem? hk)
    obtain ⟨row', hrow', hjoin⟩ := forall₂_getElem? r.joined hk
    obtain rfl := Option.some.inj (hrow.symm.trans hrow')
    obtain ⟨line', hline', hwrite⟩ := forall₂_getElem? r.writes hrow
    obtain rfl := Option.some.inj (hline.symm.trans hline')
    refine ⟨input, hinput, ?_⟩
    rw [rowSurvives_iff hdoc hwrite, hjoin.1]
    exact hlose

end InferRun

end runs

/-! ## A run of one empty prompt -/

section one

local instance rowBlake3 : Blake3 := oneBlake3

/-- The done record of the job. Source: none: infrastructure. Kind: D -/
def oneDone : SampleRecord := ⟨oneSid, .ofEmpty, .done .ofEmpty 200, 200, 0⟩

/-- Its row. Source: none: infrastructure. Kind: D -/
def oneRow : OutputRow := ⟨oneSid, emptyText, emptyText, .ofEmpty, 200⟩

/-- The job from an empty directory: the scan, one worker, the done records and their rows.
Source: none: infrastructure. Kind: D -/
def playOne : Option (World × World × World × List SampleRecord × List OutputRow) := do
  let (scanned, ready) ←
    (service ⟨⟨7⟩⟩ Unit).alone answered () (oneJob.startup defaultStaleAfterMs) World.fresh
  let (worked, finish) ←
    (service ⟨⟨7⟩⟩ (Fin 1)).alone answered 0 ((oneJob.worker ⟨⟨1⟩⟩).runLoop 3 0) ready
  let (done, collected) ← (service ⟨⟨7⟩⟩ Unit).alone answered () Job.collectDoneRecords finish
  let done ← done.toOption
  let (rows, _) ← (service ⟨⟨7⟩⟩ Unit).alone answered () (oneJob.outputRows done) collected
  guard (scanned.toOption = some 1 ∧ worked.toOption = some (some 1))
  return (ready, finish, collected, done, ← rows.toOption)

theorem playOne_eq : playOne.map (fun x => decide (x.2.2.2.1 = [oneDone] ∧ x.2.2.2.2 = [oneRow])) =
    some true := by
  decide +kernel

/-- A pass over the job. Source: `rollout-cli/src/infer.rs` `run_pool`. Kind: L -/
theorem pass_one : ∃ p : Pass ⟨⟨7⟩⟩, ∃ collected,
    p.rows = ⟨[emptyText], by decide⟩ ∧ p.sampling = .default ∧ p.Completes .ofEmpty ∧
      p.output = .ok [oneRow] ∧
      (service ⟨⟨7⟩⟩ Unit).alone answered () Job.collectDoneRecords p.finish =
        some (.ok [oneDone], collected) ∧
      ∃ w, (service ⟨⟨7⟩⟩ Unit).alone answered () ((p.job .ofEmpty).outputRows [oneDone]) collected =
        some (.ok [oneRow], w) := by
  obtain ⟨⟨ready, finish, collected, done, rows⟩, hplay, hend⟩ := Option.map_eq_some_iff.mp playOne_eq
  obtain ⟨hdone, hrows⟩ := of_decide_eq_true hend
  obtain rfl : done = _ := hdone
  obtain rfl : rows = _ := hrows
  unfold playOne at hplay
  obtain ⟨⟨scanned, ready'⟩, hscan, hplay⟩ := Option.bind_eq_some_iff.mp hplay
  obtain ⟨⟨worked, finish'⟩, hwork, hplay⟩ := Option.bind_eq_some_iff.mp hplay
  obtain ⟨⟨done, collected'⟩, hcollect, hplay⟩ := Option.bind_eq_some_iff.mp hplay
  obtain ⟨records, hrecords, hplay⟩ := Option.bind_eq_some_iff.mp hplay
  obtain ⟨⟨rows, w⟩, hrows, hplay⟩ := Option.bind_eq_some_iff.mp hplay
  obtain ⟨⟨⟩, hguard, hplay⟩ := Option.bind_eq_some_iff.mp hplay
  obtain ⟨out, hout, hplay⟩ := Option.bind_eq_some_iff.mp hplay
  cases hplay
  obtain ⟨hscanned, hworked⟩ : scanned.toOption = some 1 ∧ worked.toOption = some (some 1) := by
    by_contra h
    rw [guard, if_neg h] at hguard
    cases hguard
  cases scanned with
  | error e => cases hscanned
  | ok n =>
  cases worked with
  | error e => cases hworked
  | ok completed =>
  cases done with
  | error e => cases hrecords
  | ok records =>
  cases rows with
  | error e => cases hout
  | ok rows =>
  obtain rfl := Option.some.inj hworked
  obtain rfl := Option.some.inj hrecords
  obtain rfl := Option.some.inj hout
  obtain ⟨scanning, hscans⟩ := Service.run_of_alone hscan
  obtain ⟨working, hworks⟩ := Service.run_of_alone hwork
  refine ⟨⟨⟨[emptyText], by decide⟩, .default, defaultStaleAfterMs, 0, fun _ => ⟨⟨1⟩⟩, World.fresh,
    scanning, ready, working, finish, .ok [oneRow]⟩, collected, rfl, rfl,
    ⟨⟨n, hscans⟩, ⟨3, fun _ => 1, hworks⟩, answered, w, ?_⟩, rfl, hcollect, w, hrows⟩
  show (service ⟨⟨7⟩⟩ Unit).alone answered () (Job.collectDoneRecords >>= oneJob.outputRows) finish =
    some (.ok [oneRow], w)
  rw [Service.alone_bind, hcollect]
  exact hrows

/-! ## Its rows -/

/-- A row of the empty prompt. Source: `rollout-runtime-batch/src/io.rs` `JsonlInput`. Kind: D -/
def plainLine : String := "\x7b\"prompt\":\"\"\x7d"

/-- The same with an id and a tag. Source: `rollout-runtime-batch/src/io.rs` `JsonlInput`. Kind: D -/
def taggedLine : String := "\x7b\"id\":\"row-1\",\"prompt\":\"\",\"tag\":7\x7d"

/-- The fields that are written of the row.
Source: `rollout-runtime-batch/src/io.rs` `JsonlOutput`. Kind: D -/
def oneFields : Fields (Int ⊕ (Fin 4 → UInt8)) :=
  [("id", .string oneSid.display), ("prompt", .string ""), ("completion", .string ""),
    ("sampling_params", .object [("max_tokens", .number (.inl 16)), ("seed", .null),
      ("stop", .array []), ("stream", .bool false), ("temperature", .number (.inr f32One)),
      ("top_k", .number (.inl (-1))), ("top_p", .number (.inr f32One))]),
    ("model_uri", .string "mock://tiny"), ("finish_reason", .string "stop"),
    ("model_content_id", .string ContentId.ofEmpty.display),
    ("completion_blob_id", .string ContentId.ofEmpty.display),
    ("generated_at", .string "1970-01-01T00:00:00.200Z")]

/-- Their line. Source: `rollout-runtime-batch/src/io.rs` `write_jsonl`. Kind: D -/
def oneLine : String :=
  "\x7b\"id\":\"" ++ oneSid.display ++ "\",\"prompt\":\"\",\"completion\":\"\"," ++
  "\"sampling_params\":\x7b\"max_tokens\":16,\"seed\":null,\"stop\":[],\"stream\":false," ++
  "\"temperature\":1.0,\"top_k\":-1,\"top_p\":1.0\x7d,\"model_uri\":\"mock://tiny\"," ++
  "\"finish_reason\":\"stop\",\"model_content_id\":\"" ++ ContentId.ofEmpty.display ++
  "\",\"completion_blob_id\":\"" ++ ContentId.ofEmpty.display ++
  "\",\"generated_at\":\"1970-01-01T00:00:00.200Z\"\x7d"

open Classical in
/-- What is written. Source: none: infrastructure. Kind: D -/
noncomputable def oneToString (fields : Fields (Int ⊕ (Fin 4 → UInt8))) : Except String String :=
  if fields = oneFields then .ok oneLine else .error "recursion limit exceeded"

/-- What is read. Source: none: infrastructure. Kind: D -/
def oneFromStr (text : String) : Except String (Fields (Int ⊕ (Fin 4 → UInt8))) :=
  if text = oneLine then .ok oneFields
  else if text = plainLine then .ok [("prompt", .string "")]
  else if text = taggedLine then
    .ok [("id", .string "row-1"), ("prompt", .string ""), ("tag", .number (.inl 7))]
  else .error "expected value at line 1 column 1"

/-- A library that is right for these lines. Source: none: infrastructure. Kind: D -/
noncomputable def oneJson : SerdeJson where
  Number := Int ⊕ (Fin 4 → UInt8)
  ofInt := .inl
  ofF32 x := some (.inr x)
  toString := oneToString
  fromStr := oneFromStr
  mismatch _ := "invalid type"
  back := id

theorem documented_oneJson : oneJson.Documented := by
  have hreads : ∀ fields text, oneToString fields = .ok text →
      oneFromStr text = .ok (JsonValue.mapFields id fields) := by
    intro fields text h
    unfold oneToString at h
    by_cases hfields : fields = oneFields
    · rw [if_pos hfields] at h
      obtain rfl := Except.ok.inj h
      rw [oneFromStr, if_pos rfl, hfields]
      rfl
    · rw [if_neg hfields] at h
      cases h
  exact ⟨hreads, fun _ => rfl⟩

theorem fields_oneRow : (jsonlOutput oneJson .ofEmpty "mock://tiny" .default oneRow).fields =
    oneFields := by
  have htime : Cli.formatUnixMs 200 = some "1970-01-01T00:00:00.200Z" := by decide +kernel
  have hfields : (jsonlOutput oneJson .ofEmpty "mock://tiny" .default oneRow).fields =
      oneFields.dropLast ++ [("generated_at", .string ((Cli.formatUnixMs 200).getD ""))] := rfl
  rw [hfields, htime]
  rfl

theorem fromStr_plainLine : oneJson.fromStr plainLine = .ok [("prompt", .string "")] := by
  have hne : plainLine ≠ oneLine := by decide +kernel
  have hread : oneFromStr plainLine = .ok [("prompt", .string "")] := by
    rw [oneFromStr, if_neg hne, if_pos rfl]
  exact hread

theorem fromStr_taggedLine : oneJson.fromStr taggedLine =
    .ok [("id", .string "row-1"), ("prompt", .string ""), ("tag", .number (.inl 7))] := by
  have hone : taggedLine ≠ oneLine := by decide +kernel
  have hplain : taggedLine ≠ plainLine := by decide +kernel
  have hread : oneFromStr taggedLine =
      .ok [("id", .string "row-1"), ("prompt", .string ""), ("tag", .number (.inl 7))] := by
    rw [oneFromStr, if_neg hone, if_neg hplain, if_pos rfl]
  exact hread

/-- A file of one line. Source: `rollout-cli/src/infer.rs` `glob_inputs`. Kind: L -/
theorem readFiles_one {J : SerdeJson} {line : String} {fields : Fields J.Number}
    {row : JsonlInput J.Number} (htrim : String.ofList (trim line.toList) = line) (hne : line ≠ "")
    (hread : J.fromStr line = .ok fields) (hrow : JsonlInput.ofFields fields = some row) :
    J.readFiles [("in.jsonl", [line])] = .ok [row] := by
  have hlines : J.readJsonlFrom "in.jsonl" 0 [line] = .ok [row] := by
    unfold SerdeJson.readJsonlFrom
    rw [htrim]
    split
    · exact absurd ‹_› hne
    · unfold SerdeJson.inputRow
      rw [hread]
      simp only [hrow]
      rfl
  unfold SerdeJson.readFiles
  rw [hlines]
  rfl

/-- A run over a file whose only row has the empty prompt.
Source: `rollout-cli/src/infer.rs` `run_infer_batch`. Kind: L -/
theorem run_one {line : String} {row : JsonlInput oneJson.Number}
    (hread : oneJson.readFiles [("in.jsonl", [line])] = .ok [row]) (hprompt : row.prompt = "") :
    ∃ r : InferRun ⟨⟨7⟩⟩ oneJson .ofEmpty, r.inputs = [row] ∧ r.done = [oneDone] ∧
      r.pass.sampling = .default := by
  obtain ⟨p, collected, hrows, hsampling, hcompletes, houtput, hcollect, w, hassemble⟩ := pass_one
  refine ⟨⟨[("in.jsonl", [line])], [row], "mock://tiny", p, [oneDone], collected, [oneRow], [oneLine],
    hread, ?_, hcompletes, houtput, ⟨answered, hcollect⟩, ⟨answered, w, hassemble⟩, ?_⟩, rfl, rfl,
    hsampling⟩
  · rw [hrows]
    exact congrArg (fun s => [s]) hprompt.symm
  · rw [hsampling]
    refine .cons ?_ .nil
    rw [fields_oneRow]
    exact if_pos rfl

/-- A row of a prompt alone loses nothing. Source: `rollout-cli/src/infer.rs` `run_pool`. Kind: C -/
theorem plain_survives : ∃ r : InferRun ⟨⟨7⟩⟩ oneJson .ofEmpty,
    r.inputs = [⟨none, "", []⟩] ∧ r.done = [oneDone] ∧ r.Survives := by
  have hread : oneJson.readFiles [("in.jsonl", [plainLine])] = .ok [⟨none, "", []⟩] :=
    readFiles_one (by decide +kernel) (by decide +kernel) fromStr_plainLine rfl
  obtain ⟨r, hinputs, hdone, -⟩ := run_one hread rfl
  refine ⟨r, hinputs, hdone, (r.metadata_survives_iff documented_oneJson).mpr fun record hrecord => ?_⟩
  rw [hdone] at hrecord
  obtain rfl := List.mem_singleton.mp hrecord
  rw [hinputs]
  refine ⟨_, rfl, rfl, fun id h => ?_, fun _ _ => rfl, fun _ _ => rfl⟩
  cases h

/-- **The id and the tag of a row are lost.** Source: `rollout-cli/src/infer.rs` `glob_inputs`,
`run_pool`. Kind: C -/
theorem tagged_lost : oneJson.Documented ∧ ∃ r : InferRun ⟨⟨7⟩⟩ oneJson .ofEmpty,
    r.inputs = [⟨some "row-1", "", [("tag", .number (.inl 7))]⟩] ∧ r.done = [oneDone] ∧
      ¬ r.Survives := by
  have hread : oneJson.readFiles [("in.jsonl", [taggedLine])] =
      .ok [⟨some "row-1", "", [("tag", .number (.inl 7))]⟩] :=
    readFiles_one (by decide +kernel) (by decide +kernel) fromStr_taggedLine rfl
  obtain ⟨r, hinputs, hdone, -⟩ := run_one hread rfl
  refine ⟨documented_oneJson, r, hinputs, hdone, fun h => ?_⟩
  obtain ⟨row, hrow, -⟩ := forall₂_getElem? r.joined (k := 0) (by rw [hdone]; rfl)
  obtain ⟨line, hline, -⟩ := forall₂_getElem? r.writes hrow
  obtain ⟨input, hinput, hsurvives⟩ := h 0 oneDone row line (by rw [hdone]; rfl) hrow hline
  rw [hinputs] at hinput
  obtain rfl := Option.some.inj hinput
  exact List.not_mem_nil (hsurvives.extras _ List.mem_cons_self)

end one

end Rollout.Batch
