import Rollout.Core.Errors
import Rollout.Core.Snapshot

/-!
# Supervised and reward-model training

Both algorithms drive a trainable backend through the same loop; they differ in the batch they
synthesize, in the tokens that count and in their names.

* `Backend` — the backend, as functions of its state. `Backend.Total` says that no call fails.
* `Algo` — one algorithm with its settings; `sftAlgo` and `rmAlgo` are the two. `stepOnce`, `run`,
  `snapshotSave`, `snapshotRestore` are their methods on a `Learner`: the backend's state and the
  step counter.
* `resumed` — a run cut off after some steps, saved, restored over a fresh learner and run again.
-/

set_option linter.unusedSectionVars false

namespace Rollout.Training

open Rollout.Lib Rollout.Core

/-! ## The backend -/

/-- Source: `rollout-core/src/traits/backend.rs` `GradHandle`. Kind: D -/
structure GradHandle where
  /-- The step it belongs to. -/
  step : BitVec 64
deriving DecidableEq

/-- Source: `rollout-core/src/traits/backend.rs` `TrainBatch`. Kind: D -/
structure TrainBatch where
  /-- Number of sequences. -/
  nSequences : BitVec 32
  /-- Number of tokens. -/
  nTokens : BitVec 32
  /-- The rows. -/
  rows : List String
deriving DecidableEq

/-- Which tokens count. Source: `rollout-core/src/traits/backend.rs` `LossScope`. Kind: D -/
inductive LossScope
  | assistantOnly
  | full
  | custom
deriving DecidableEq

/-- A trainable backend with states `σ` and optimizer settings `ω`; each method is a function of the
state. Source: `rollout-core/src/traits/backend.rs` `TrainableBackend`. Kind: D -/
structure Backend (σ ω : Type) where
  /-- Forward and loss of a batch; the rest of the loss output is not read. -/
  forwardWithLoss : TrainBatch → LossScope → σ → Except CoreError GradHandle × σ
  /-- One step of the optimizer. -/
  optimizerStep : GradHandle → ω → σ → Except CoreError Unit × σ
  /-- The id of the current weights. -/
  saveWeights : σ → Except CoreError ContentId

variable {σ ω : Type}

namespace Backend

/-- No method fails: the backend is made of functions of its state.
Source: none: infrastructure. Kind: D -/
structure Total (b : Backend σ ω) : Prop where
  forward : ∀ batch scope s, ∃ g, (b.forwardWithLoss batch scope s).1 = .ok g
  optimizer : ∀ g opt s, (b.optimizerStep g opt s).1 = .ok ()
  save : ∀ s, ∃ id, b.saveWeights s = .ok id

/-- The same backend, counting its optimizer steps. Source: none: infrastructure. Kind: D -/
def counting (b : Backend σ ω) : Backend (σ × Nat) ω where
  forwardWithLoss batch scope s :=
    ((b.forwardWithLoss batch scope s.1).1, ((b.forwardWithLoss batch scope s.1).2, s.2))
  optimizerStep g opt s :=
    ((b.optimizerStep g opt s.1).1, ((b.optimizerStep g opt s.1).2, s.2 + 1))
  saveWeights s := b.saveWeights s.1

theorem Total.counting {b : Backend σ ω} (h : b.Total) : b.counting.Total where
  forward batch scope s := h.forward batch scope s.1
  optimizer g opt s := h.optimizer g opt s.1
  save s := h.save s.1

end Backend

/-! ## The algorithms -/

/-- Where the rows come from. Source: `rollout-core/src/config/training.rs` `DatasetRef`. Kind: D -/
inductive DatasetRef
  | jsonlPath (path : String)
  | other (name : String)
deriving DecidableEq

/-- The path of a dataset. Source: `rollout-algo-sft/src/algo.rs`, `rollout-algo-rm/src/algo.rs`
`run`. Kind: D -/
def DatasetRef.path : DatasetRef → Except CoreError String
  | .jsonlPath path => .ok path
  | .other _ => .error (.fatal (.configInvalid "DatasetRef::Other lands in Phase 7 (HARNESS-*)"))

/-- Source: `rollout-core/src/traits/algorithm.rs` `RunOutcome`. Kind: D -/
inductive RunOutcome
  | completed
  | preempted
deriving DecidableEq

/-- An algorithm with its settings.
Source: `rollout-algo-sft/src/algo.rs` `SftAlgo`, `rollout-algo-rm/src/algo.rs` `RmAlgo`. Kind: D -/
structure Algo (ω : Type) where
  /-- Stable identifier. -/
  id : String
  /-- The crate, in messages. -/
  plugin : String
  /-- The batch every step synthesizes. -/
  batch : TrainBatch
  /-- Which tokens count. -/
  lossOn : LossScope
  /-- Optimizer settings. -/
  optimizer : ω
  /-- The dataset. -/
  dataset : DatasetRef
  /-- The step budget. -/
  maxSteps : Option (BitVec 32)

/-- Source: `rollout-core/src/config/training.rs` `SftSettings`. Kind: D -/
structure SftSettings (ω : Type) where
  /-- Optimizer. -/
  optimizer : ω
  /-- The step budget. -/
  maxSteps : Option (BitVec 32)
  /-- Training dataset. -/
  dataset : DatasetRef
  /-- Which tokens contribute to loss. -/
  lossOn : LossScope

/-- Source: `rollout-core/src/config/training.rs` `RmSettings`. Kind: D -/
structure RmSettings (ω : Type) where
  /-- Optimizer. -/
  optimizer : ω
  /-- The step budget. -/
  maxSteps : Option (BitVec 32)
  /-- Pairwise dataset. -/
  dataset : DatasetRef

/-- Source: `rollout-algo-sft/src/algo.rs` `SftAlgo`. Kind: D -/
def sftAlgo (settings : SftSettings ω) : Algo ω where
  id := "sft"
  plugin := "rollout-algo-sft"
  batch := ⟨1, 16, ["[mock-row]"]⟩
  lossOn := settings.lossOn
  optimizer := settings.optimizer
  dataset := settings.dataset
  maxSteps := settings.maxSteps

/-- Source: `rollout-algo-rm/src/algo.rs` `RmAlgo`. Kind: D -/
def rmAlgo (settings : RmSettings ω) : Algo ω where
  id := "rm"
  plugin := "rollout-algo-rm"
  batch := ⟨2, 32, ["[chosen]", "[rejected]"]⟩
  lossOn := .full
  optimizer := settings.optimizer
  dataset := settings.dataset
  maxSteps := settings.maxSteps

/-- What an algorithm changes: the state of its backend and its step counter.
Source: `rollout-algo-sft/src/algo.rs` `SftAlgo`. Kind: D -/
structure Learner (σ : Type) where
  /-- The backend's state. -/
  backend : σ
  /-- The step counter. -/
  step : BitVec 64
deriving DecidableEq

/-- Methods of an algorithm. Source: none: infrastructure. Kind: D -/
abbrev TrainM (σ : Type) := FailM (Learner σ)

/-- Call the backend. Source: none: infrastructure. Kind: D -/
def onBackend {α : Type} (f : σ → Except CoreError α × σ) : TrainM σ α :=
  fun l => ((f l.backend).1, { l with backend := (f l.backend).2 })

/-- What a run is given: whether its `j`-th look at the token finds it cancelled, and whether a
dataset can be read. Source: `rollout-core/src/traits/algorithm.rs` `AlgoContext`,
`rollout-algo-sft/src/data.rs` `load_jsonl`, `rollout-algo-rm/src/data.rs` `load_pairs`. Kind: D -/
structure AlgoContext where
  /-- The cancellation token. -/
  isCancelled : Nat → Bool
  /-- Read the rows; they are not used. -/
  load : String → Except CoreError Unit

namespace Algo

variable (algo : Algo ω) (b : Backend σ ω)

/-- A fresh algorithm over a backend. Source: `rollout-algo-sft/src/algo.rs`,
`rollout-algo-rm/src/algo.rs` `from_settings`. Kind: D -/
def fromSettings (s : σ) : Learner σ := ⟨s, 0⟩

/-- One optimizer step. Source: `rollout-algo-sft/src/algo.rs`, `rollout-algo-rm/src/algo.rs`
`step_once`. Kind: D -/
def stepOnce : TrainM σ Unit := do
  let grads ← onBackend (b.forwardWithLoss algo.batch algo.lossOn)
  onBackend (b.optimizerStep grads algo.optimizer)
  modify fun l => { l with step := l.step + 1 }

/-- The loop of a run: the remaining iterations and the number of the next one.
Source: `rollout-algo-sft/src/algo.rs`, `rollout-algo-rm/src/algo.rs` `run`. Kind: D -/
def steps (ctx : AlgoContext) : Nat → Nat → TrainM σ RunOutcome
  | 0, _ => return .completed
  | n + 1, j =>
      if ctx.isCancelled j then return .preempted
      else do
        algo.stepOnce b
        steps ctx n (j + 1)

/-- The step budget; none is no step. Source: `rollout-algo-sft/src/algo.rs`,
`rollout-algo-rm/src/algo.rs` `run` (`unwrap_or(0)`). Kind: D -/
def budget : Nat := (algo.maxSteps.getD 0).toNat

/-- Run to the budget or until cancelled.
Source: `rollout-algo-sft/src/algo.rs`, `rollout-algo-rm/src/algo.rs` `run`. Kind: D -/
def run (ctx : AlgoContext) : TrainM σ RunOutcome := do
  let path ← ofExcept algo.dataset.path
  ofExcept (ctx.load path)
  algo.steps b ctx algo.budget 0

/-- Capture the step counter; the run id and the time are the caller's.
Source: `rollout-algo-sft/src/algo.rs`, `rollout-algo-rm/src/algo.rs` `snapshot_save`. Kind: D -/
def snapshotSave (runId : RunId) (now : Int) (l : Learner σ) : Except CoreError Snapshot := do
  let weightsId ← b.saveWeights l.backend
  return { id := weightsId
           kind := .trainState
           runId
           createdAt := now
           label := none
           parts := [⟨"weights", weightsId, 0⟩]
           algorithmId := algo.id
           metadata := .object [("step", .u64 l.step), ("weights_id", .string weightsId.display)] }

/-- Restore the step counter. Source: `rollout-algo-sft/src/algo.rs`,
`rollout-algo-rm/src/algo.rs` `snapshot_restore`. Kind: D -/
def snapshotRestore (snapshot : Snapshot) (l : Learner σ) : Except CoreError (Learner σ) :=
  match (snapshot.metadata.get "step").bind Json.asU64 with
  | some step => .ok { l with step }
  | none => .error (.fatal (.pluginContract algo.plugin "snapshot.meta.step missing or not a u64: "))

theorem snapshotRestore_of_save {runId : RunId} {now : Int} {l l' : Learner σ} {snap : Snapshot}
    (h : algo.snapshotSave b runId now l = .ok snap) :
    algo.snapshotRestore snap l' = .ok { l' with step := l.step } := by
  unfold snapshotSave at h
  cases hw : b.saveWeights l.backend with
  | error e =>
      rw [hw] at h
      cases h
  | ok id =>
      rw [hw] at h
      rw [← Except.ok.inj h]
      rfl

/-- Where the weights can be saved, a snapshot can be taken, and restored over a fresh algorithm
with the saved backend it gives the learner back.
Source: `rollout-algo-sft/tests/snapshot_resume.rs`. Kind: P -/
theorem saved {b : Backend σ ω} (hsave : ∀ s, ∃ id, b.saveWeights s = .ok id) (runId : RunId)
    (now : Int) (l : Learner σ) : ∃ snap, algo.snapshotSave b runId now l = .ok snap ∧
      algo.snapshotRestore snap (fromSettings l.backend) = .ok l := by
  obtain ⟨id, hid⟩ := hsave l.backend
  have hsnap : ∃ snap, algo.snapshotSave b runId now l = .ok snap := by
    rw [snapshotSave, hid]
    exact ⟨_, rfl⟩
  obtain ⟨snap, hsnap⟩ := hsnap
  exact ⟨snap, hsnap, algo.snapshotRestore_of_save b hsnap⟩

/-! ## What a run does -/

/-- The backend after one step. Source: `rollout-algo-sft/src/algo.rs`,
`rollout-algo-rm/src/algo.rs` `step_once`. Kind: D -/
def trained (s : σ) : σ :=
  match b.forwardWithLoss algo.batch algo.lossOn s with
  | (.ok grads, s') => (b.optimizerStep grads algo.optimizer s').2
  | (.error _, s') => s'

section Total

variable {b} (hb : b.Total)
include hb

theorem stepOnce_apply (l : Learner σ) :
    algo.stepOnce b l = (.ok (), ⟨algo.trained b l.backend, l.step + 1⟩) := by
  obtain ⟨grads, hg⟩ := hb.forward algo.batch algo.lossOn l.backend
  have hfwd : b.forwardWithLoss algo.batch algo.lossOn l.backend =
      (.ok grads, (b.forwardWithLoss algo.batch algo.lossOn l.backend).2) := Prod.ext hg rfl
  unfold stepOnce trained
  rw [FailM.bind_apply]
  unfold onBackend
  rw [hfwd]
  simp only
  rw [FailM.bind_apply, hb.optimizer]
  rfl

/-- `n` steps that are not cancelled. Source: `rollout-algo-sft/src/algo.rs`,
`rollout-algo-rm/src/algo.rs` `run`. Kind: P -/
theorem steps_apply {ctx : AlgoContext} {n m j : Nat} (l : Learner σ)
    (hctx : ∀ i, j ≤ i → i < j + n → ctx.isCancelled i = false)
    (hend : m = 0 ∨ ctx.isCancelled (j + n) = true) :
    ∃ o, algo.steps b ctx (n + m) j l =
      (.ok o, ⟨(algo.trained b)^[n] l.backend, l.step + BitVec.ofNat 64 n⟩) := by
  induction n generalizing j l with
  | zero =>
      rw [Nat.zero_add]
      rcases hend with rfl | hcancel
      · exact ⟨.completed, by simp [steps]; rfl⟩
      · cases m with
        | zero => exact ⟨.completed, by simp [steps]; rfl⟩
        | succ m =>
            rw [Nat.add_zero] at hcancel
            exact ⟨.preempted, by simp [steps, hcancel]; rfl⟩
  | succ n ih =>
      have hnow := hctx j (Nat.le_refl j) (by omega)
      obtain ⟨o, ho⟩ := ih (j := j + 1) ⟨algo.trained b l.backend, l.step + 1⟩
        (fun i hi hlt => hctx i (by omega) (by omega))
        (by rw [Nat.add_right_comm, Nat.add_assoc]; exact hend)
      refine ⟨o, ?_⟩
      rw [Nat.add_right_comm n 1 m, steps, hnow, if_neg Bool.false_ne_true, FailM.bind_apply,
        stepOnce_apply algo hb]
      simp only [ho, Function.iterate_succ, Function.comp_apply]
      have hstep : (1 : BitVec 64) + BitVec.ofNat 64 n = BitVec.ofNat 64 (n + 1) := by
        apply BitVec.eq_of_toNat_eq
        simp
        omega
      rw [BitVec.add_assoc, hstep]

end Total

/-! ## A run cut off and resumed -/

/-- A run from a learner: the optimizer steps it takes and the learner it leaves.
Source: `rollout-algo-sft/src/algo.rs`, `rollout-algo-rm/src/algo.rs` `run`. Kind: D -/
def counted (ctx : AlgoContext) (l : Learner σ) : Except CoreError (Nat × Learner σ) :=
  match algo.run b.counting ctx ⟨(l.backend, 0), l.step⟩ with
  | (.ok _, l') => .ok (l'.backend.2, ⟨l'.backend.1, l'.step⟩)
  | (.error e, _) => .error e

variable (load : String → Except CoreError Unit)

/-- One run that is never cancelled. Source: `rollout-algo-sft/tests/snapshot_resume.rs` (run A).
Kind: D -/
def uninterrupted (s : σ) : Except CoreError (Nat × Learner σ) :=
  algo.counted b ⟨fun _ => false, load⟩ (fromSettings s)

/-- A run cancelled once `k` steps are done, saved, restored over a fresh algorithm with the saved
backend, and run again. Source: `rollout-algo-sft/tests/snapshot_resume.rs` (run B). Kind: D -/
def resumed (k : Nat) (runId : RunId) (now : Int) (s : σ) :
    Except CoreError (Nat × Learner σ) := do
  let (_, l) ← algo.counted b ⟨fun j => decide (k ≤ j), load⟩ (fromSettings s)
  let snapshot ← algo.snapshotSave b runId now l
  let fresh ← algo.snapshotRestore snapshot (fromSettings l.backend)
  algo.counted b ⟨fun _ => false, load⟩ fresh

/-- The resumed run takes the steps that were left and ends where the uninterrupted one does.
Source: `rollout-algo-sft/tests/snapshot_resume.rs` (`assert_eq`). Kind: D -/
def Resumes (k : Nat) (runId : RunId) (now : Int) (s : σ) : Prop :=
  ∃ n u, algo.uninterrupted b load s = .ok (n, u) ∧
    algo.resumed b load k runId now s = .ok (algo.budget - k, u)

variable {b load}

/-- A step that succeeds counts one. Source: `rollout-algo-sft/src/algo.rs`,
`rollout-algo-rm/src/algo.rs` `step_once`. Kind: P -/
theorem stepOnce_counts {l l' : Learner (σ × Nat)} (h : algo.stepOnce b.counting l = (.ok (), l')) :
    l'.backend.2 = l.backend.2 + 1 := by
  unfold stepOnce at h
  rw [FailM.bind_apply] at h
  unfold onBackend Backend.counting at h
  rcases hfwd : b.forwardWithLoss algo.batch algo.lossOn l.backend.1 with ⟨_ | grads, s'⟩
  · simp only [hfwd] at h
    cases h
  · simp only [hfwd] at h
    rw [FailM.bind_apply] at h
    rcases hopt : b.optimizerStep grads algo.optimizer s' with ⟨_ | u, s''⟩
    · simp only [hopt] at h
      cases h
    · simp only [hopt] at h
      have hl := congrArg (fun r => r.2.backend.2) h
      exact hl.symm

/-- A run that is never cancelled and does not fail takes all its steps.
Source: `rollout-algo-sft/src/algo.rs`, `rollout-algo-rm/src/algo.rs` `run`. Kind: P -/
theorem steps_counts {ctx : AlgoContext} (hctx : ∀ j, ctx.isCancelled j = false) {n j : Nat}
    {l l' : Learner (σ × Nat)} {o : RunOutcome} (h : algo.steps b.counting ctx n j l = (.ok o, l')) :
    l'.backend.2 = l.backend.2 + n := by
  induction n generalizing j l with
  | zero =>
      cases h
      rfl
  | succ n ih =>
      rw [steps, hctx j, if_neg Bool.false_ne_true, FailM.bind_apply] at h
      rcases hone : algo.stepOnce b.counting l with ⟨_ | u, l₁⟩
      · rw [hone] at h
        cases h
      · rw [hone] at h
        have hcount := algo.stepOnce_counts hone
        have hrest := ih h
        omega

theorem run_of_path {path : String} (hpath : algo.dataset.path = .ok path) (ctx : AlgoContext) :
    algo.run b ctx = (do ofExcept (ctx.load path); algo.steps b ctx algo.budget 0) := by
  rw [run, hpath]
  rfl

theorem run_of_load {path : String} (hpath : algo.dataset.path = .ok path) {ctx : AlgoContext}
    (hload : ctx.load path = .ok ()) : algo.run b ctx = algo.steps b ctx algo.budget 0 := by
  rw [algo.run_of_path hpath, hload]
  rfl

/-- What is read before the loop does not touch the learner.
Source: `rollout-algo-sft/src/algo.rs`, `rollout-algo-rm/src/algo.rs` `run`. Kind: P -/
theorem run_eq (ctx : AlgoContext) (l : Learner σ) :
    algo.run b ctx l = algo.steps b ctx algo.budget 0 l ∨
      ∃ e, ∀ ctx' : AlgoContext, ctx'.load = ctx.load → ∀ l', algo.run b ctx' l' = (.error e, l') := by
  cases hpath : algo.dataset.path with
  | error e =>
      refine .inr ⟨e, fun ctx' _ l' => ?_⟩
      rw [run, hpath]
      rfl
  | ok path =>
      cases hload : ctx.load path with
      | error e =>
          refine .inr ⟨e, fun ctx' hctx l' => ?_⟩
          rw [algo.run_of_path hpath, hctx, hload]
          rfl
      | ok u => exact .inl (by rw [algo.run_of_load hpath hload])

/-- A whole run that is never cancelled takes the whole budget, wherever its counter stood.
Source: `rollout-algo-sft/src/algo.rs`, `rollout-algo-rm/src/algo.rs` `run`. Kind: P -/
theorem counted_never {l l' : Learner σ} {n : Nat}
    (h : algo.counted b ⟨fun _ => false, load⟩ l = .ok (n, l')) : n = algo.budget := by
  unfold counted at h
  rcases algo.run_eq (b := b.counting) ⟨fun _ => false, load⟩ ⟨(l.backend, 0), l.step⟩ with
    hrun | ⟨e, herr⟩
  · rw [hrun] at h
    rcases hs : algo.steps b.counting ⟨fun _ => false, load⟩ algo.budget 0 ⟨(l.backend, 0), l.step⟩
      with ⟨_ | o, l₁⟩
    · rw [hs] at h
      cases h
    · rw [hs] at h
      cases h
      have hcount := algo.steps_counts (fun _ => rfl) hs
      simpa using hcount
  · rw [herr _ rfl] at h
    cases h

/-- A run that is cancelled before its first step leaves its learner.
Source: `rollout-algo-sft/src/algo.rs`, `rollout-algo-rm/src/algo.rs` `run`. Kind: P -/
theorem counted_cancelled {l : Learner σ} {r : Nat × Learner σ}
    (h : algo.counted b ⟨fun _ => false, load⟩ l = .ok r) :
    algo.counted b ⟨fun j => decide (0 ≤ j), load⟩ l = .ok (0, l) := by
  unfold counted at h ⊢
  rcases algo.run_eq (b := b.counting) ⟨fun j => decide (0 ≤ j), load⟩ ⟨(l.backend, 0), l.step⟩ with
    hrun | ⟨e, herr⟩
  · rw [hrun]
    cases algo.budget with
    | zero => rfl
    | succ n => rfl
  · rw [herr ⟨fun _ => false, load⟩ rfl] at h
    cases h

theorem resumes_iff_uncut (hsave : ∀ s, ∃ id, b.saveWeights s = .ok id) {k : Nat} {s : σ}
    (hk : k ≤ algo.budget) (hrun : ∃ r, algo.uninterrupted b load s = .ok r) (runId : RunId)
    (now : Int) : algo.Resumes b load k runId now s ↔ k = 0 := by
  obtain ⟨⟨n, u⟩, hu⟩ := hrun
  constructor
  · rintro ⟨n', u', -, hres⟩
    unfold resumed at hres
    rcases hfirst : algo.counted b ⟨fun j => decide (k ≤ j), load⟩ (fromSettings s) with _ | ⟨m, l⟩
    · rw [hfirst] at hres
      cases hres
    · obtain ⟨snap, hsnap, hrest⟩ := algo.saved hsave runId now l
      rw [hfirst] at hres
      simp only [bind, Except.bind, hsnap, hrest] at hres
      have hbudget := algo.counted_never hres
      omega
  · rintro rfl
    have hn : n = algo.budget := algo.counted_never hu
    obtain ⟨snap, hsnap, hrest⟩ := algo.saved hsave runId now (fromSettings s)
    refine ⟨n, u, hu, ?_⟩
    unfold resumed
    rw [algo.counted_cancelled hu]
    simp only [bind, Except.bind, hsnap, hrest]
    rw [Nat.sub_zero, ← hn]
    exact hu

/-- Training counts its steps. Source: none: infrastructure. Kind: L -/
theorem trained_counting (n : Nat) (s : σ × Nat) (hb : b.Total) :
    (algo.trained b.counting)^[n] s = ((algo.trained b)^[n] s.1, s.2 + n) := by
  induction n generalizing s with
  | zero => rfl
  | succ n ih =>
      have hstep : algo.trained b.counting s = (algo.trained b s.1, s.2 + 1) := by
        obtain ⟨grads, hg⟩ := hb.forward algo.batch algo.lossOn s.1
        have hfwd : b.forwardWithLoss algo.batch algo.lossOn s.1 =
            (.ok grads, (b.forwardWithLoss algo.batch algo.lossOn s.1).2) := Prod.ext hg rfl
        have hcount : b.counting.forwardWithLoss algo.batch algo.lossOn s =
            (.ok grads, ((b.forwardWithLoss algo.batch algo.lossOn s.1).2, s.2)) := by
          simp only [Backend.counting, hg]
        unfold trained
        rw [hcount, hfwd]
        rfl
      rw [Function.iterate_succ_apply, Function.iterate_succ_apply, hstep, ih, Nat.add_assoc,
        Nat.add_comm 1 n]

theorem counted_apply (hb : b.Total) {path : String} (hpath : algo.dataset.path = .ok path)
    (ctx : AlgoContext) (hload : ctx.load path = .ok ()) {k : Nat} (hk : k ≤ algo.budget)
    (hctx : ∀ i < k, ctx.isCancelled i = false)
    (hend : k = algo.budget ∨ ctx.isCancelled k = true) (l : Learner σ) :
    algo.counted b ctx l =
      .ok (k, ⟨(algo.trained b)^[k] l.backend, l.step + BitVec.ofNat 64 k⟩) := by
  obtain ⟨m, hm⟩ := Nat.exists_eq_add_of_le hk
  have hend' : m = 0 ∨ ctx.isCancelled (0 + k) = true := by
    rw [Nat.zero_add]
    exact hend.imp_left fun h => by omega
  obtain ⟨o, ho⟩ := algo.steps_apply hb.counting ⟨(l.backend, 0), l.step⟩
    (fun i _ hi => hctx i (by omega)) hend'
  unfold counted
  rw [algo.run_of_load hpath hload, hm, ho, algo.trained_counting k _ hb]
  simp

/-- What resuming does: the whole budget again, on top of the steps done before the cut.
Source: `rollout-algo-sft/src/algo.rs`, `rollout-algo-rm/src/algo.rs` `run`. Kind: P -/
theorem resumed_apply (hb : b.Total) {path : String} (hpath : algo.dataset.path = .ok path)
    (hload : load path = .ok ()) {k : Nat} (hk : k ≤ algo.budget) (runId : RunId) (now : Int)
    (s : σ) : algo.resumed b load k runId now s = .ok (algo.budget,
      ⟨(algo.trained b)^[algo.budget + k] s, BitVec.ofNat 64 (k + algo.budget)⟩) := by
  have hfirst := algo.counted_apply hb hpath ⟨fun j => decide (k ≤ j), load⟩ hload hk
    (fun i hi => decide_eq_false (by omega)) (.inr (by simp)) (fromSettings s)
  obtain ⟨snap, hsnap, hrest⟩ := algo.saved hb.save runId now
    ⟨(algo.trained b)^[k] s, 0 + BitVec.ofNat 64 k⟩
  have hagain := algo.counted_apply hb hpath ⟨fun _ => false, load⟩ hload (Nat.le_refl _)
    (fun _ _ => rfl) (.inl rfl) ⟨(algo.trained b)^[k] s, 0 + BitVec.ofNat 64 k⟩
  unfold resumed
  rw [hfirst]
  simp only [bind, Except.bind, fromSettings, hsnap] at hrest ⊢
  rw [hrest]
  simp only [hagain, Function.iterate_add_apply, BitVec.ofNat_add]
  simp

end Algo

/-! ## Resumed training -/

variable {b : Backend σ ω}

/-- **Resuming takes the whole budget again**, on top of the steps done before the cut: the loop
counts its own iterations and never looks at the restored counter. A resumed run continues the
first exactly when that was cut off before its first step.
Source: `rollout-algo-sft/src/algo.rs`, `rollout-algo-rm/src/algo.rs` `run`, `snapshot_restore`.
Kind: C -/
theorem resume_continues_iff (hsave : ∀ s, ∃ id, b.saveWeights s = .ok id)
    (load : String → Except CoreError Unit) (k : Nat) (s : σ) (runId : RunId) (now : Int) :
    (∀ settings : SftSettings ω, k ≤ (sftAlgo settings).budget →
      (∃ r, (sftAlgo settings).uninterrupted b load s = .ok r) →
      ((sftAlgo settings).Resumes b load k runId now s ↔ k = 0)) ∧
    (∀ settings : RmSettings ω, k ≤ (rmAlgo settings).budget →
      (∃ r, (rmAlgo settings).uninterrupted b load s = .ok r) →
      ((rmAlgo settings).Resumes b load k runId now s ↔ k = 0)) :=
  ⟨fun settings hk hrun => (sftAlgo settings).resumes_iff_uncut hsave hk hrun runId now,
    fun settings hk hrun => (rmAlgo settings).resumes_iff_uncut hsave hk hrun runId now⟩

/-- A backend whose weights are a number that every step increments.
Source: none: infrastructure. Kind: D -/
def tally : Backend Nat Unit where
  forwardWithLoss _ _ s := (.ok ⟨0⟩, s)
  optimizerStep _ _ s := (.ok (), s + 1)
  saveWeights _ := .ok ContentId.ofEmpty

/-- Two steps over a file. Source: none: infrastructure. Kind: D -/
def twoSteps : SftSettings Unit := ⟨(), some 2, .jsonlPath "train.jsonl", .full⟩

theorem resume_continues_at_start :
    (sftAlgo twoSteps).Resumes tally (fun _ => .ok ()) 0 ⟨⟨7⟩⟩ 0 5 :=
  ((resume_continues_iff (fun s => ⟨_, rfl⟩) (fun _ => .ok ()) 0 5 ⟨⟨7⟩⟩ 0).1 twoSteps
    (Nat.zero_le _) ⟨(2, ⟨7, 2⟩), by decide⟩).mpr rfl

/-- Cut off after one step of two, a resumed run takes two more and ends with three.
Source: `rollout-algo-sft/src/algo.rs` `run`. Kind: C -/
theorem resumed_overruns :
    (sftAlgo twoSteps).uninterrupted tally (fun _ => .ok ()) 5 = .ok (2, ⟨7, 2⟩) ∧
      ¬ (sftAlgo twoSteps).Resumes tally (fun _ => .ok ()) 1 ⟨⟨7⟩⟩ 0 5 := by
  refine ⟨rfl, ?_⟩
  rintro ⟨n, u, -, hres⟩
  have hthree : (sftAlgo twoSteps).resumed tally (fun _ => .ok ()) 1 ⟨⟨7⟩⟩ 0 5 =
      .ok (2, ⟨8, 3⟩) := by
    rfl
  rw [hthree] at hres
  have htwo : (2 : Nat) = 2 - 1 := congrArg Prod.fst (Except.ok.inj hres)
  omega

end Rollout.Training
