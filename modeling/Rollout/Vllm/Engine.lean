import Rollout.Batch.State
import Rollout.Lib.Mailbox

/-!
# The Python thread of the vLLM backend

One thread owns the Python engine. It takes tasks from a channel, imports the Python module at the
first one that needs it, and answers each on a channel of its own.

* `Python` — what the thread calls: the interpreter, the module and its results.
* `runInit`, `runGenerate` — one call, with every way it can fail.
* `importInference` — the import, which is tried once.
* `workerMainVllm`, `workerMainStub` — the thread of a build with the engine, and of the default one.
-/

set_option linter.unusedSectionVars false

namespace Rollout.Vllm

open Rollout.Lib Rollout.Core
open Rollout.Batch (SamplingParams)

/-! ## Errors -/

/-- Source: `rollout-backend-vllm/src/errors.rs` `PLUGIN`. Kind: D -/
def plugin : String := "rollout-backend-vllm"

/-- A Python exception is given by its text.
Source: `rollout-backend-vllm/src/errors.rs` `py_to_core`. Kind: D -/
def pyToCore (e : String) : CoreError := .fatal (.pluginContract plugin e)

/-- Source: `rollout-backend-vllm/src/errors.rs` `transient`. Kind: D -/
def transient (msg : String) : CoreError := .recoverable (.transient msg .never)

/-- Source: `rollout-backend-vllm/src/errors.rs` `wave2_stub`. Kind: D -/
def wave2Stub : CoreError := .fatal (.pluginContract plugin
  ("vllm engine not wired in default features (Wave 2 stub); rebuild with " ++
    "--features vllm and set ROLLOUT_VLLM_AVAILABLE=1 for the live AsyncLLMEngine"))

/-- Source: `rollout-backend-vllm/src/errors.rs` `streaming_rejected`. Kind: D -/
def streamingRejected : CoreError :=
  .fatal (.configInvalid "streaming generation is Phase 8 (INFER-01); set stream = false")

/-! ## Tasks -/

/-- Source: `rollout-core/src/traits/backend.rs` `Completion`. Kind: D -/
structure Completion where
  /-- What the model returned. -/
  text : String
  /-- Why it stopped. -/
  finishReason : String
  /-- The tokens of the prompt. -/
  promptTokens : BitVec 32
  /-- The tokens of the completion. -/
  completionTokens : BitVec 32
deriving DecidableEq

/-- Source: `rollout-core/src/traits/backend.rs` `ModelRef`. Kind: D -/
structure ModelRef where
  /-- Where the model is. -/
  uri : String
  /-- A pin. -/
  contentId : Option ContentId
  /-- Another tokenizer. -/
  tokenizer : Option String
deriving DecidableEq

/-- The tasks of a build for inference.
Source: `rollout-backend-vllm/src/engine.rs` `VllmTask`. Kind: D -/
inductive VllmTask
  | init (model : ModelRef)
  | generate (prompt : String) (params : SamplingParams) (requestId : String)
  | shutdown

/-- What a reply channel carries. Source: `rollout-backend-vllm/src/engine.rs` `VllmTask`. Kind: D -/
inductive VllmShape
  | sha
  | completion
  | nothing
deriving DecidableEq

/-- Source: `rollout-backend-vllm/src/engine.rs` `VllmTask`. Kind: D -/
@[reducible] def VllmShape.Answer : VllmShape → Type
  | .sha => Except CoreError String
  | .completion => Except CoreError Completion
  | .nothing => Empty

/-- Source: `rollout-backend-vllm/src/engine.rs` `VllmTask`. Kind: D -/
@[reducible] def VllmTask.shape : VllmTask → VllmShape
  | .init _ => .sha
  | .generate .. => .completion
  | .shutdown => .nothing

/-- The channel of the thread. Source: `rollout-backend-vllm/src/engine.rs` `VllmTask`. Kind: D -/
@[reducible] def vllm : Mailbox.Protocol := ⟨VllmTask, VllmShape, VllmShape.Answer, VllmTask.shape⟩

/-! ## Python -/

/-- A value that is handed to Python; the floats are their bits.
Source: `rollout-backend-vllm/src/python_glue.rs` `samplingparams_to_pydict`. Kind: D -/
inductive PyArg
  | f32 (bits : Fin 4 → UInt8)
  | i32 (n : BitVec 32)
  | u32 (n : BitVec 32)
  | u64 (n : BitVec 64)
  | str (s : String)
  | strs (ss : List Text)

/-- A call into Python; an exception is given by its text. Source: none: infrastructure. Kind: D -/
abbrev PyResult (α : Type) := Except String α

/-- **The interpreter**, with its state `W`.
Source: `rollout-backend-vllm/src/engine.rs`, the calls of `pyo3`. Kind: D -/
structure Python (W : Type) where
  /-- What the environment decides. -/
  Choice : Type
  /-- Modules. -/
  Module : Type
  /-- Objects. -/
  Obj : Type
  /-- Dictionaries. -/
  Dict : Type
  /-- Writes `HF_TOKEN` into `os.environ`. -/
  setHfToken : Choice → String → W → PyResult Unit × W
  /-- Imports `rollout.backends.vllm.engine`. -/
  importEngine : Choice → W → PyResult Module × W
  /-- Calls `init(model_uri, **engine_args)`. -/
  init : Choice → Module → String → List (String × PyArg) → W → PyResult Obj × W
  /-- Calls `generate_one_sync(prompt, request_id, **sampling)`. -/
  generateOneSync : Choice → Module → String → String → List (String × PyArg) → W → PyResult Obj × W
  /-- Calls `shutdown()`. -/
  shutdown : Choice → Module → W → W
  /-- A string of Python. -/
  extractString : Obj → PyResult String
  /-- An integer of Python. -/
  extractU32 : Obj → PyResult (BitVec 32)
  /-- A dictionary of Python. -/
  castDict : Obj → PyResult Dict
  /-- An item of a dictionary. -/
  getItem : Dict → String → PyResult (Option Obj)

/-- Source: `rollout-backend-vllm/src/python_glue.rs` `samplingparams_to_pydict`. Kind: D -/
def samplingparamsToPydict (p : SamplingParams) : List (String × PyArg) :=
  [("temperature", .f32 p.temperature), ("top_p", .f32 p.topP), ("top_k", .i32 p.topK),
    ("max_tokens", .u32 p.maxTokens)] ++
  (p.seed.map fun seed => ("seed", PyArg.u64 seed)).toList ++ [("stop", .strs p.stop.1)]

variable {W : Type} (py : Python W)

/-- Source: `rollout-backend-vllm/src/engine.rs` `run_init`. Kind: D -/
def runInit (ch : py.Choice) (module : py.Module) (model : ModelRef) (w : W) :
    Except CoreError String × W :=
  let kwargs := (model.tokenizer.map fun tok => ("tokenizer", PyArg.str tok)).toList
  let res := py.init ch module model.uri kwargs w
  ((res.1 >>= py.extractString).mapError pyToCore, res.2)

/-- An item of what a generation returned.
Source: `rollout-backend-vllm/src/engine.rs` `run_generate`. Kind: D -/
def item {α : Type} (dict : py.Dict) (name : String) (extract : py.Obj → PyResult α) :
    Except CoreError α :=
  match py.getItem dict name with
  | .error e => .error (pyToCore e)
  | .ok none => .error (.internal ("generate_one returned dict without `" ++ name ++ "`"))
  | .ok (some obj) => (extract obj).mapError pyToCore

/-- Source: `rollout-backend-vllm/src/engine.rs` `run_generate`. Kind: D -/
def completionOf (obj : py.Obj) : Except CoreError Completion := do
  let dict ← (py.castDict obj).mapError pyToCore
  let text ← item py dict "text" py.extractString
  let finishReason ← item py dict "finish_reason" py.extractString
  let promptTokens ← item py dict "prompt_tokens" py.extractU32
  let completionTokens ← item py dict "completion_tokens" py.extractU32
  return ⟨text, finishReason, promptTokens, completionTokens⟩

/-- Source: `rollout-backend-vllm/src/engine.rs` `run_generate`. Kind: D -/
def runGenerate (ch : py.Choice) (module : py.Module) (prompt : String) (params : SamplingParams)
    (requestId : String) (w : W) : Except CoreError Completion × W :=
  let out := py.generateOneSync ch module prompt requestId (samplingparamsToPydict params) w
  (out.1.mapError pyToCore >>= completionOf py, out.2)

/-! ## The thread -/

/-- The variables of the thread.
Source: `rollout-backend-vllm/src/engine.rs` `worker_main_vllm`. Kind: D -/
structure WorkerVars where
  /-- The module, once it is imported. -/
  inferenceModule : Option py.Module
  /-- Why it could not be. -/
  inferenceImportErr : Option String
  /-- The interpreter. -/
  world : W

/-- The variables of a thread that starts.
Source: `rollout-backend-vllm/src/engine.rs` `worker_main_vllm`. Kind: D -/
def WorkerVars.start (w : W) : WorkerVars py := ⟨none, none, w⟩

/-- The token is set before the module is imported.
Source: `rollout-backend-vllm/src/engine.rs` `worker_main_vllm`. Kind: D -/
def importEngine (secretToken : Option String) (ch : py.Choice) (w : W) : PyResult py.Module × W :=
  match secretToken with
  | none => py.importEngine ch w
  | some token =>
      match py.setHfToken ch token w with
      | (.error e, w) => (.error e, w)
      | (.ok (), w) => py.importEngine ch w

/-- Source: `rollout-backend-vllm/src/engine.rs` `worker_main_vllm`, `import_inference`. Kind: D -/
def importInference (secretToken : Option String) (ch : py.Choice) (v : WorkerVars py) : WorkerVars py :=
  if v.inferenceModule.isSome || v.inferenceImportErr.isSome then v
  else match importEngine py secretToken ch v.world with
    | (.ok m, w) => { v with inferenceModule := some m, world := w }
    | (.error e, w) => { v with inferenceImportErr := some e, world := w }

/-- Source: `rollout-backend-vllm/src/engine.rs` `worker_main_vllm`. Kind: D -/
def importFailed (e : String) : CoreError := transient ("vllm module import failed: " ++ e)

/-- A call of the module; without one and without a reason the thread would panic.
Source: `rollout-backend-vllm/src/engine.rs` `worker_main_vllm`. Kind: D -/
def callModule {α : Type} (v : WorkerVars py) (run : py.Module → W → Except CoreError α × W) :
    Option (Except CoreError α) × WorkerVars py :=
  match v.inferenceModule, v.inferenceImportErr with
  | some m, _ => (some (run m v.world).1, { v with world := (run m v.world).2 })
  | none, some e => (some (.error (importFailed e)), v)
  | none, none => (none, v)

/-- A task that needs the module.
Source: `rollout-backend-vllm/src/engine.rs` `worker_main_vllm`. Kind: D -/
def withModule {α : Type} (secretToken : Option String) (ch : py.Choice) (v : WorkerVars py)
    (run : py.Module → W → Except CoreError α × W) : Option (Except CoreError α) × WorkerVars py :=
  callModule py (importInference py secretToken ch v) run

/-- **The thread of a build with the engine.**
Source: `rollout-backend-vllm/src/engine.rs` `worker_main_vllm`. Kind: D -/
@[reducible] def workerMainVllm (secretToken : Option String) : Mailbox.Worker vllm (WorkerVars py) where
  Choice := py.Choice
  handle ch t v := match t with
    | .shutdown => (none, { v with
        world := v.inferenceModule.elim v.world fun m => py.shutdown ch m v.world })
    | .init model => withModule py secretToken ch v fun m w => runInit py ch m model w
    | .generate prompt params requestId =>
        withModule py secretToken ch v fun m w => runGenerate py ch m prompt params requestId w

/-- **The thread of the default build.**
Source: `rollout-backend-vllm/src/engine.rs` `worker_main_stub`. Kind: D -/
@[reducible] def workerMainStub : Mailbox.Worker vllm Unit where
  Choice := Unit
  handle _ t v := match t with
    | .shutdown => (none, v)
    | .init model => (some (.ok model.uri), v)
    | .generate .. => (some (.error wave2Stub), v)

/-- How many tasks the channel holds.
Source: `rollout-backend-vllm/src/engine.rs` `VllmEngine::spawn`. Kind: D -/
def channelCapacity : Nat := 64

/-- Source: `rollout-backend-vllm/src/engine.rs` `VllmTask::Shutdown`. Kind: D -/
def VllmTask.isShutdown : VllmTask → Bool
  | .shutdown => true
  | _ => false

/-! ## What the thread does -/

variable {py} {secretToken : Option String} {ch : py.Choice} {v : WorkerVars py}

/-- **After the import was tried there is a module or a reason**, and what there was stays.
Source: `rollout-backend-vllm/src/engine.rs` `worker_main_vllm`, `import_inference`. Kind: L -/
theorem importInference_cases (secretToken : Option String) (ch : py.Choice) (v : WorkerVars py) :
    (v.inferenceModule.isSome || v.inferenceImportErr.isSome) = true ∧
        importInference py secretToken ch v = v ∨
      v.inferenceModule = none ∧ v.inferenceImportErr = none ∧
        ((∃ m w, importInference py secretToken ch v = ⟨some m, none, w⟩) ∨
          ∃ e w, importInference py secretToken ch v = ⟨none, some e, w⟩) := by
  unfold importInference
  split
  · next h => exact .inl ⟨h, rfl⟩
  · next h =>
    rw [Bool.or_eq_true, not_or, Bool.not_eq_true, Bool.not_eq_true, Option.isSome_eq_false_iff,
      Option.isSome_eq_false_iff, Option.isNone_iff_eq_none, Option.isNone_iff_eq_none] at h
    obtain ⟨hmodule, herr⟩ := h
    refine .inr ⟨hmodule, herr, ?_⟩
    split
    · next m w _ => exact .inl ⟨m, w, by rw [herr]⟩
    · next e w _ => exact .inr ⟨e, w, by rw [hmodule]⟩

/-- The import was tried and left a module. Source: none: infrastructure. Kind: D -/
def WorkerVars.Loaded (v : WorkerVars py) : Prop :=
  v.inferenceModule.isSome = true ∧ v.inferenceImportErr = none

/-- The import was tried and failed for a reason. Source: none: infrastructure. Kind: D -/
def WorkerVars.Failed (v : WorkerVars py) (e : String) : Prop :=
  v.inferenceModule = none ∧ v.inferenceImportErr = some e

/-- It was not tried. Source: none: infrastructure. Kind: D -/
def WorkerVars.Untried (v : WorkerVars py) : Prop :=
  v.inferenceModule = none ∧ v.inferenceImportErr = none

/-- **A task that needs the module** is a call of it, or is told why it could not be imported.
Source: `rollout-backend-vllm/src/engine.rs` `worker_main_vllm`. Kind: L -/
theorem withModule_cases {α : Type} (run : py.Module → W → Except CoreError α × W)
    (h : v.Untried ∨ v.Loaded ∨ ∃ e, v.Failed e) :
    (∃ m w v', withModule py secretToken ch v run = (some (run m w).1, v') ∧ v'.Loaded ∧
        (v.Untried ∨ v.Loaded)) ∨
      ∃ e v', withModule py secretToken ch v run = (some (.error (importFailed e)), v') ∧ v'.Failed e ∧
        (v.Untried ∨ v.Failed e) := by
  unfold withModule
  rcases importInference_cases secretToken ch v with ⟨htried, heq⟩ | ⟨hmodule, herr, ⟨m, w, heq⟩ | ⟨e, w, heq⟩⟩
  · rw [heq]
    obtain ⟨inferenceModule, inferenceImportErr, w⟩ := v
    rcases h with ⟨rfl, rfl⟩ | ⟨hmodule, rfl⟩ | ⟨e, rfl, rfl⟩
    · cases htried
    · obtain ⟨m, rfl⟩ := Option.isSome_iff_exists.mp hmodule
      exact .inl ⟨m, w, _, rfl, ⟨rfl, rfl⟩, .inr ⟨rfl, rfl⟩⟩
    · exact .inr ⟨e, _, rfl, ⟨rfl, rfl⟩, .inr ⟨rfl, rfl⟩⟩
  · rw [heq]
    exact .inl ⟨m, w, _, rfl, ⟨rfl, rfl⟩, .inl ⟨hmodule, herr⟩⟩
  · rw [heq]
    exact .inr ⟨e, _, rfl, ⟨rfl, rfl⟩, .inl ⟨hmodule, herr⟩⟩

/-- The thread never panics.
Source: `rollout-backend-vllm/src/engine.rs` `worker_main_vllm`. Kind: L -/
theorem withModule_ne_none {α : Type} (run : py.Module → W → Except CoreError α × W) :
    (withModule py secretToken ch v run).1 ≠ none := by
  unfold withModule callModule
  rcases importInference_cases secretToken ch v with ⟨h, heq⟩ | ⟨-, -, ⟨m, w, heq⟩ | ⟨e, w, heq⟩⟩
  · rw [heq]
    split
    · simp
    · simp
    · next hmodule herr => simp [hmodule, herr] at h
  · simp [heq]
  · simp [heq]

/-- **The thread ends at a shutdown and nowhere else.**
Source: `rollout-backend-vllm/src/engine.rs` `worker_main_vllm`. Kind: L -/
theorem handle_eq_none_iff (ch : py.Choice) (t : VllmTask) (v : WorkerVars py) :
    ((workerMainVllm py secretToken).handle ch t v).1 = none ↔ t.isShutdown = true := by
  cases t with
  | shutdown => exact ⟨fun _ => rfl, fun _ => rfl⟩
  | init model =>
      refine iff_of_false ?_ Bool.false_ne_true
      exact withModule_ne_none fun m w => runInit py ch m model w
  | generate prompt params requestId =>
      refine iff_of_false ?_ Bool.false_ne_true
      exact withModule_ne_none fun m w => runGenerate py ch m prompt params requestId w

/-! ## One import -/

/-- The failure in a reply. Source: `rollout-backend-vllm/src/engine.rs` `VllmTask`. Kind: D -/
def failure : vllm.Reply → Option CoreError
  | ⟨.sha, .error e⟩ => some e
  | ⟨.completion, .error e⟩ => some e
  | _ => none

/-- It fails for good if it fails. Source: none: infrastructure. Kind: D -/
def Fatal {α : Type} (r : Except CoreError α) : Prop := ∀ e, r = .error e → ∃ f, e = .fatal f

theorem fatal_ok {α : Type} (a : α) : Fatal (.ok a : Except CoreError α) := fun _ h => nomatch h

theorem fatal_mapError {α : Type} (r : PyResult α) : Fatal (r.mapError pyToCore) := by
  intro e h
  cases r with
  | ok a => cases h
  | error e' => exact ⟨_, (Except.error.inj h).symm⟩

theorem Fatal.bind {α β : Type} {r : Except CoreError α} {f : α → Except CoreError β} (hr : Fatal r)
    (hf : ∀ a, Fatal (f a)) : Fatal (r >>= f) := by
  intro e h
  cases r with
  | ok a => exact hf a e h
  | error e' =>
      cases h
      exact hr e rfl

theorem fatal_item {α : Type} (dict : py.Dict) (name : String) (extract : py.Obj → PyResult α) :
    Fatal (item py dict name extract) := by
  unfold item
  split
  · exact fun _ h => ⟨_, (Except.error.inj h).symm⟩
  · exact fun _ h => ⟨_, (Except.error.inj h).symm⟩
  · exact fatal_mapError _

/-- **What Python reports is never worth another try.**
Source: `rollout-backend-vllm/src/engine.rs` `run_init`, `run_generate`. Kind: L -/
theorem fatal_runInit (m : py.Module) (model : ModelRef) (w : W) :
    Fatal (runInit py ch m model w).1 := fatal_mapError _

theorem fatal_runGenerate (m : py.Module) (prompt : String) (params : SamplingParams)
    (requestId : String) (w : W) : Fatal (runGenerate py ch m prompt params requestId w).1 := by
  refine (fatal_mapError _).bind fun obj => (fatal_mapError _).bind fun dict => ?_
  exact (fatal_item _ _ _).bind fun _ => (fatal_item _ _ _).bind fun _ =>
    (fatal_item _ _ _).bind fun _ => (fatal_item _ _ _).bind fun _ => fatal_ok _

/-- A task that needs the module, and the import.
Source: `rollout-backend-vllm/src/engine.rs` `worker_main_vllm`. Kind: L -/
theorem handle_cases {t : VllmTask} {a : t.shape.Answer} {v' : WorkerVars py}
    (h : (workerMainVllm py secretToken).handle ch t v = (some a, v'))
    (hv : v.Untried ∨ v.Loaded ∨ ∃ e, v.Failed e) :
    v'.Loaded ∧ (v.Untried ∨ v.Loaded) ∧ (∀ e, failure ⟨t.shape, a⟩ ≠ some (importFailed e)) ∨
      ∃ e, v'.Failed e ∧ (v.Untried ∨ v.Failed e) ∧ failure ⟨t.shape, a⟩ = some (importFailed e) := by
  have hfatal : ∀ f e, importFailed e ≠ .fatal f := fun f e => nofun
  cases t with
  | shutdown => exact a.elim
  | init model =>
      rcases withModule_cases (fun m w => runInit py ch m model w) hv with
        ⟨m, w, v'', heq, hv'', hbefore⟩ | ⟨e, v'', heq, hv'', hbefore⟩
      · obtain ⟨hinit, rfl⟩ := Prod.mk.inj (heq.symm.trans h)
        refine .inl ⟨hv'', hbefore, fun e hfail => ?_⟩
        cases a with
        | ok sha => cases hfail
        | error e' =>
            obtain ⟨f, rfl⟩ := fatal_runInit m model w e' (Option.some.inj hinit)
            exact hfatal f e (Option.some.inj hfail).symm
      · obtain ⟨hinit, rfl⟩ := Prod.mk.inj (heq.symm.trans h)
        obtain rfl := Option.some.inj hinit
        exact .inr ⟨e, hv'', hbefore, rfl⟩
  | generate prompt params requestId =>
      rcases withModule_cases (fun m w => runGenerate py ch m prompt params requestId w) hv with
        ⟨m, w, v'', heq, hv'', hbefore⟩ | ⟨e, v'', heq, hv'', hbefore⟩
      · obtain ⟨hgen, rfl⟩ := Prod.mk.inj (heq.symm.trans h)
        refine .inl ⟨hv'', hbefore, fun e hfail => ?_⟩
        cases a with
        | ok completion => cases hfail
        | error e' =>
            obtain ⟨f, rfl⟩ := fatal_runGenerate m prompt params requestId w e' (Option.some.inj hgen)
            exact hfatal f e (Option.some.inj hfail).symm
      · obtain ⟨hgen, rfl⟩ := Prod.mk.inj (heq.symm.trans h)
        obtain rfl := Option.some.inj hgen
        exact .inr ⟨e, hv'', hbefore, rfl⟩

/-- **One import decides**: what was handled by a thread was answered by the module, or each time
with the same reason. Source: `rollout-backend-vllm/src/engine.rs` `worker_main_vllm`. Kind: P -/
theorem import_decides {w₀ : W} {log : List (vllm.Task × vllm.Reply)}
    (h : Mailbox.Served (workerMainVllm py secretToken) (.start py w₀) log v) :
    v.Untried ∧ log = [] ∨
      v.Loaded ∧ (∀ p ∈ log, ∀ e, failure p.2 ≠ some (importFailed e)) ∨
      ∃ e, v.Failed e ∧ ∀ p ∈ log, failure p.2 = some (importFailed e) := by
  induction h with
  | nil => exact .inl ⟨⟨rfl, rfl⟩, rfl⟩
  | @snoc log v v' ch t a _ hhandle ih =>
      have hv : v.Untried ∨ v.Loaded ∨ ∃ e, v.Failed e :=
        ih.imp And.left (Or.imp And.left fun ⟨e, h⟩ => ⟨e, h.1⟩)
      have hlast : ∀ {φ : vllm.Task × vllm.Reply → Prop}, (∀ p ∈ log, φ p) → φ (t, ⟨_, a⟩) →
          ∀ p ∈ log ++ [(t, ⟨_, a⟩)], φ p := fun hlog hnew p hp =>
        (List.mem_append.mp hp).elim (hlog p) fun hp => List.mem_singleton.mp hp ▸ hnew
      rcases handle_cases hhandle hv with ⟨hv', hbefore, hnew⟩ | ⟨e, hv', hbefore, hnew⟩
      · refine .inr (.inl ⟨hv', hlast ?_ hnew⟩)
        rcases ih with ⟨-, rfl⟩ | ⟨-, hlog⟩ | ⟨e, hfailed, -⟩
        · exact fun p hp => absurd hp List.not_mem_nil
        · exact hlog
        · have herr : v.inferenceImportErr = none := hbefore.elim And.right And.right
          cases hfailed.2.symm.trans herr
      · refine .inr (.inr ⟨e, hv', hlast ?_ hnew⟩)
        rcases ih with ⟨-, rfl⟩ | ⟨hloaded, -⟩ | ⟨e', hfailed, hlog⟩
        · exact fun p hp => absurd hp List.not_mem_nil
        · have hmodule : v.inferenceModule = none := hbefore.elim And.left And.left
          rw [WorkerVars.Loaded, hmodule] at hloaded
          cases hloaded.1
        · have herr := hfailed.2
          rcases hbefore with huntried | hsame
          · cases herr.symm.trans huntried.2
          · obtain rfl := Option.some.inj (herr.symm.trans hsame.2)
            exact hlog

end Rollout.Vllm
