import Rollout.Eval.Job

/-!
# One result per eval job

* `Admissible` — what a call asks for; `announced` — what it returns right after an operation.
* `event_kept_iff`, `event_agreed_iff` — one operation: it keeps a done row exactly when it does not
  seed over one, and what the call returns right after it is in the row exactly when the completion
  found its own claim or its own result.
* `one_result_iff` — the same over runs. A call returns the id of its own result whether it has
  completed the row or not: `loser_returns_own`.
-/

set_option linter.unusedSectionVars false

namespace Rollout.Eval

open Rollout.Lib Rollout.Core Rollout.Coordinator Rollout.Coordinator.WorkItem

/-! ## The result in the row -/

/-- The result id in the bytes of a done row. Source: `rollout-harness-eval/src/job.rs`
`run_example_job` (its first `if`). Kind: D -/
def readResult (bytes : Bytes) : Option ContentId :=
  match WorkItem.codec.fromBytes bytes with
  | some ⟨_, .done resultId⟩ => some resultId
  | _ => none

@[simp] theorem readResult_encodeRecord (record : WorkItemRecord) :
    readResult (encodeRecord record) = match record.state with
      | .done resultId => some resultId
      | _ => none := by
  unfold readResult encodeRecord
  rw [Codec.fromBytes_enc]
  rcases record with ⟨_, - | _ | _ | _⟩ <;> rfl

/-- The result id of the row of a job, when it is done. Source: `rollout-harness-eval/src/job.rs`
`run_example_job`. Kind: D -/
def storedResult (runId : RunId) (w : World) (workId : ContentId) : Option ContentId :=
  (w.rows.get (workKey runId workId)).bind readResult

/-- The row of the job stays as it is once it is done.
Source: `rollout-harness-eval/src/job.rs` `run_example_job`. Kind: D -/
def DoneKept (runId : RunId) (workId : ContentId) (w w' : World) : Prop :=
  storedResult runId w workId ≠ none →
    w'.rows.get (workKey runId workId) = w.rows.get (workKey runId workId)

section kept

variable {runId : RunId} {workId : ContentId} {w w' w'' : World}

theorem storedResult_congr
    (h : w'.rows.get (workKey runId workId) = w.rows.get (workKey runId workId)) :
    storedResult runId w' workId = storedResult runId w workId := by
  unfold storedResult
  rw [h]

theorem storedResult_of_get {record : WorkItemRecord}
    (h : w.rows.get (workKey runId workId) = some (encodeRecord record)) :
    storedResult runId w workId = match record.state with
      | .done resultId => some resultId
      | _ => none := by
  unfold storedResult
  rw [h, Option.bind_some, readResult_encodeRecord]

/-- The row after a transition. Source: none: infrastructure. Kind: L -/
theorem storedResult_put (record : WorkItemRecord)
    (h : w'.rows = w.rows.put (workKey runId record.id) (encodeRecord record)) :
    storedResult runId w' record.id = match record.state with
      | .done resultId => some resultId
      | _ => none :=
  storedResult_of_get (by rw [h, KV.get_put_self])

theorem DoneKept.refl (w : World) : DoneKept runId workId w w := fun _ => rfl

theorem DoneKept.storedResult_eq (h : DoneKept runId workId w w')
    (hdone : storedResult runId w workId ≠ none) :
    storedResult runId w' workId = storedResult runId w workId :=
  storedResult_congr (h hdone)

theorem DoneKept.trans (h : DoneKept runId workId w w') (h' : DoneKept runId workId w' w'') :
    DoneKept runId workId w w'' := by
  intro hdone
  have hdone' : storedResult runId w' workId ≠ none := by rwa [h.storedResult_eq hdone]
  exact (h' hdone').trans (h hdone)

end kept

section jobs

variable [Blake3] {runId : RunId} {ι : Type} {workId : ContentId}

/-! ## What the calls ask for and return -/

/-- The operations of the calls for a job.
Source: `rollout-harness-eval/src/job.rs` `run_example_job`. Kind: D -/
def Admissible (workId : ContentId) : Op runId → Prop
  | .store (.get key) => key = workKey runId workId
  | .store (.scan _) => False
  | .store (.txn (.seed pending)) => pending = ⟨workId, .pending⟩
  | .store (.txn (.claim pending _ _)) => pending = ⟨workId, .pending⟩
  | .store (.txn (.complete running _)) => ∃ w t, running = ⟨workId, .running w t⟩
  | .putObject _ => True

/-- What a call returns right after an operation: the result of a done row it has read, and its own
result after the completion. Source: `rollout-harness-eval/src/job.rs` `run_example_job`. Kind: D -/
def announced : (o : Op runId) → Except CoreError o.Out → Option ContentId
  | .store (.get _), .ok (some bytes) => readResult bytes
  | .store (.txn (.complete _ resultId)), .ok _ => some resultId
  | _, _ => none

@[simp] theorem announced_error (o : Op runId) (err : CoreError) :
    announced o (.error err) = none := by
  rcases o with (key | range | (pending | ⟨pending, w, t⟩ | ⟨running, r⟩)) | blob <;> rfl

section programs

variable {i : ι} {workerId : WorkerId} {result : ExampleResult} {nowMs : BitVec 128}

/-- The rule for one operation. Source: none: infrastructure. Kind: L -/
theorem issues_ask {β : Type} {o : Op runId} {f : o.Out → JobM runId β} {φ : Op runId → Prop}
    (ho : φ o) (hf : ∀ a, (f a).Issues (machine runId ι) i φ) :
    (ask o >>= f).Issues (machine runId ι) i φ :=
  Service.issues_ask (S := service runId ι) ho fun _ _ a _ _ => hf a

/-- The rule for one operation. Source: none: infrastructure. Kind: L -/
theorem returns_ask {o : Op runId} {f : o.Out → JobM runId ContentId}
    (h : ∀ a, (f a).returned = announced o (.ok a) ∧ (f a).Returns (machine runId ι) i announced) :
    (ask o >>= f).Returns (machine runId ι) i announced :=
  Service.returns_ask (S := service runId ι) (announced_error o) fun _ _ a _ _ => h a

theorem issues_claimAndComplete :
    (claimAndComplete workerId workId result nowMs : JobM runId ContentId).Issues (machine runId ι) i
      (Admissible workId) := by
  refine issues_ask rfl fun _ => ?_
  refine issues_ask trivial fun _ => ?_
  exact issues_ask ⟨workerId, nowMs, rfl⟩ fun _ => trivial

/-- **A call only asks for what it may.** Source: `rollout-harness-eval/src/job.rs`
`run_example_job`. Kind: P -/
theorem issues_runExampleJob :
    (runExampleJob workerId workId result nowMs : JobM runId ContentId).Issues (machine runId ι) i
      (Admissible workId) := by
  refine issues_ask rfl fun row => ?_
  rcases row with - | bytes
  · exact issues_ask rfl fun _ => issues_claimAndComplete
  · apply (Prog.Issues.ofExcept (decodeRec bytes)).bind
    rintro ⟨_, - | _ | resultId | _⟩
    · exact issues_claimAndComplete
    · exact issues_claimAndComplete
    · trivial
    · exact issues_claimAndComplete

theorem returns_claimAndComplete :
    (claimAndComplete workerId workId result nowMs : JobM runId ContentId).Returns (machine runId ι) i
      announced := by
  apply returns_ask
  intro _
  refine ⟨rfl, returns_ask fun resultId => ⟨rfl, ?_⟩⟩
  apply returns_ask
  intro _
  exact ⟨rfl, trivial⟩

/-- **A call returns what its last operation announces.** Source: `rollout-harness-eval/src/job.rs`
`run_example_job`. Kind: P -/
theorem returns_runExampleJob :
    (runExampleJob workerId workId result nowMs : JobM runId ContentId).Returns (machine runId ι) i
      announced := by
  apply returns_ask
  intro row
  rcases row with - | bytes
  · refine ⟨rfl, ?_⟩
    apply returns_ask
    intro _
    exact ⟨rfl, returns_claimAndComplete⟩
  · show (Prog.ofExcept (decodeRec bytes) >>= _).returned = readResult bytes ∧
      (Prog.ofExcept (decodeRec bytes) >>= _).Returns _ _ _
    unfold decodeRec readResult
    rcases WorkItem.codec.fromBytes bytes with - | ⟨_, - | _ | resultId | _⟩
    · exact ⟨rfl, trivial⟩
    · exact ⟨rfl, returns_claimAndComplete⟩
    · exact ⟨rfl, returns_claimAndComplete⟩
    · exact ⟨rfl, trivial⟩
    · exact ⟨rfl, returns_claimAndComplete⟩

end programs

/-! ## One operation -/

/-- The operation seeds no row over a done one.
Source: `rollout-harness-eval/src/job.rs` `run_example_job` (its `else`). Kind: D -/
def SeedsFresh (e : JobEvent runId ι) : Prop :=
  match e with
  | ⟨_, .store (.txn (.seed pending)), .ok _, w, _⟩ => storedResult runId w pending.id = none
  | _ => True

instance (e : JobEvent runId ι) : Decidable (SeedsFresh e) := by
  unfold SeedsFresh
  split <;> infer_instance

/-- A completion finds the claim of its own call, or its own result.
Source: `rollout-harness-eval/src/job.rs` `run_example_job` (from `Complete`). Kind: D -/
def FindsOwn (e : JobEvent runId ι) : Prop :=
  match e with
  | ⟨_, .store (.txn (.complete running resultId)), .ok _, w, _⟩ =>
      w.rows.get (workKey runId running.id) = some (encodeRecord running) ∨
        storedResult runId w running.id = some resultId
  | _ => True

instance (e : JobEvent runId ι) : Decidable (FindsOwn e) := by
  unfold FindsOwn
  split <;> infer_instance

section events

variable {i : ι} {o : Op runId} {r : Except CoreError o.Out} {w w' : World}

/-- All an operation can do. Source: none: infrastructure. Kind: L -/
theorem does_cases (h : (machine runId ι).Does ⟨i, o, r, w, w'⟩) :
    (∃ err, r = .error err ∧ w' = w) ∨ r = .ok (perform o w).1 ∧ w' = (perform o w).2 := by
  rcases Service.does_iff.mp h with herr | ⟨_, a, hperf, rfl⟩
  · exact .inl herr
  · obtain ⟨rfl, rfl⟩ := Prod.mk.inj (Option.some.inj hperf)
    exact .inr ⟨rfl, rfl⟩

/-- A transaction that writes nothing or finds a record that is not done keeps a done row.
Source: `rollout-coordinator/src/work_item.rs` `try_claim`, `try_complete`. Kind: L -/
theorem doneKept_of_swap (record : WorkItemRecord) (hopen : ∀ x, record.state ≠ .done x)
    (h : w.rows.get (workKey runId workId) = some (encodeRecord record) ∨ w'.rows = w.rows) :
    DoneKept runId workId w w' := by
  intro hdone
  rcases h with hrow | hsame
  · rw [storedResult_of_get hrow] at hdone
    split at hdone
    · next x hx => exact absurd hx (hopen x)
    · exact absurd rfl hdone
  · rw [hsame]

/-- Seeding keeps a done row exactly when there is none. Source: `rollout-harness-eval/src/job.rs`
`run_example_job` (its `else`). Kind: L -/
theorem doneKept_seed_iff
    (hpost : w'.rows = w.rows.put (workKey runId workId) (encodeRecord ⟨workId, .pending⟩)) :
    DoneKept runId workId w w' ↔ storedResult runId w workId = none := by
  have hnew : storedResult runId w' workId = none :=
    storedResult_put ⟨workId, .pending⟩ hpost
  constructor
  · intro hkept
    by_contra hdone
    rw [← hkept.storedResult_eq hdone] at hdone
    exact hdone hnew
  · exact fun hnone hdone => absurd hnone hdone

/-- **One operation keeps a done row exactly when it does not seed over one.**
Source: `rollout-harness-eval/src/job.rs` `run_example_job`. Kind: P -/
theorem event_kept_iff {e : JobEvent runId ι} (hd : (machine runId ι).Does e)
    (hadm : Admissible workId e.op) : DoneKept runId workId e.pre e.post ↔ SeedsFresh e := by
  rcases e with ⟨i, o, r, w, w'⟩
  rcases does_cases hd with ⟨err, rfl, rfl⟩ | ⟨rfl, rfl⟩
  · exact iff_of_true (DoneKept.refl w') (by rcases o with (_ | _ | (_ | _ | _)) | _ <;> trivial)
  · rcases o with (key | range | (pending | ⟨pending, worker, now⟩ | ⟨running, x⟩)) | blob
    · exact iff_of_true (DoneKept.refl w) trivial
    · exact iff_of_true (DoneKept.refl w) trivial
    · obtain rfl : pending = ⟨workId, .pending⟩ := hadm
      exact doneKept_seed_iff rfl
    · obtain rfl : pending = ⟨workId, .pending⟩ := hadm
      refine iff_of_true (doneKept_of_swap ⟨workId, .pending⟩ (by simp) ?_) trivial
      have hrows := congrArg Prod.snd (atomically_claim runId w.rows ⟨workId, .pending⟩ worker now)
      split at hrows
      · next hclaim => exact .inl hclaim.2
      · exact .inr hrows
    · obtain ⟨worker, now, rfl⟩ := hadm
      refine iff_of_true (doneKept_of_swap ⟨workId, .running worker now⟩ (by simp) ?_) trivial
      have hrows := congrArg Prod.snd
        (atomically_complete runId w.rows ⟨workId, .running worker now⟩ x)
      split at hrows
      · next hcomplete => exact .inl hcomplete.2
      · exact .inr hrows
    · exact iff_of_true (fun _ => rfl) trivial

/-- A completion leaves its result in the row exactly when it found its own claim, or that result.
Source: `rollout-harness-eval/src/job.rs` `run_example_job` (from `Complete`). Kind: L -/
theorem stored_complete_iff {worker : WorkerId} {now : BitVec 128} {resultId : ContentId}
    (hpost : w'.rows = (atomically
      (JobTxn.body runId (.complete ⟨workId, .running worker now⟩ resultId)) w.rows).2) :
    storedResult runId w' workId = some resultId ↔
      w.rows.get (workKey runId workId) = some (encodeRecord ⟨workId, .running worker now⟩) ∨
        storedResult runId w workId = some resultId := by
  rw [atomically_complete] at hpost
  by_cases hrow : w.rows.get (workKey runId workId) =
      some (encodeRecord ⟨workId, .running worker now⟩)
  · rw [if_pos ⟨rfl, hrow⟩] at hpost
    exact iff_of_true (storedResult_put ⟨workId, .done resultId⟩ hpost) (.inl hrow)
  · rw [if_neg fun h => hrow h.2] at hpost
    rw [storedResult_congr (w := w) (by rw [hpost])]
    exact ⟨.inr, fun h => h.resolve_left hrow⟩

/-- **What a call returns right after an operation is in the row exactly when a completion found its
own claim or its own result.** Source: `rollout-harness-eval/src/job.rs` `run_example_job`.
Kind: P -/
theorem event_agreed_iff {e : JobEvent runId ι} (hd : (machine runId ι).Does e)
    (hadm : Admissible workId e.op) :
    (∀ x, announced e.op e.resp = some x → storedResult runId e.post workId = some x) ↔
      FindsOwn e := by
  rcases e with ⟨i, o, r, w, w'⟩
  rcases does_cases hd with ⟨err, rfl, rfl⟩ | ⟨rfl, rfl⟩
  · refine iff_of_true (fun x hx => ?_) (by rcases o with (_ | _ | (_ | _ | _)) | _ <;> trivial)
    rw [announced_error] at hx
    cases hx
  · rcases o with (key | range | (pending | ⟨pending, worker, now⟩ | ⟨running, x⟩)) | blob
    · obtain rfl : key = workKey runId workId := hadm
      refine iff_of_true (fun x hx => ?_) trivial
      show (w.rows.get (workKey runId workId)).bind readResult = some x
      rw [← hx]
      show _ = announced (.store (.get _)) (.ok (w.rows.get (workKey runId workId)))
      cases w.rows.get (workKey runId workId) <;> rfl
    · exact iff_of_true (by rintro _ ⟨⟩) trivial
    · exact iff_of_true (by rintro _ ⟨⟩) trivial
    · exact iff_of_true (by rintro _ ⟨⟩) trivial
    · obtain ⟨worker, now, rfl⟩ := hadm
      refine Iff.trans ⟨fun h => h x rfl, ?_⟩ (stored_complete_iff rfl)
      intro h y hy
      rwa [← Option.some.inj hy]
    · exact iff_of_true (by rintro _ ⟨⟩) trivial

end events

/-! ## Runs -/

/-- The operation makes the row done. Source: `rollout-harness-eval/src/job.rs` `run_example_job`.
Kind: D -/
def BecomesDone (workId : ContentId) (e : JobEvent runId ι) : Prop :=
  storedResult runId e.pre workId = none ∧ storedResult runId e.post workId ≠ none

variable [DecidableEq ι]

/-- **The job has one agreed result**: its row becomes done at most once and stays as it is then,
and whenever a call has returned an id, that is the id in the row.
Source: `rollout-harness-eval/src/job.rs` `run_example_job` (its documentation). Kind: D -/
structure OneResult (workId : ContentId) (c : Config (iface runId) CoreError World fun _ : ι => ContentId)
    (tr : List (JobEvent runId ι)) : Prop where
  once : tr.Pairwise fun e e' => BecomesDone workId e → ¬ BecomesDone workId e'
  kept : (states c tr).Pairwise (DoneKept runId workId)
  agreed : ∀ tr₁ tr₂ d, tr = tr₁ ++ tr₂ → Run (machine runId ι) c tr₁ d →
    ∀ i x, (d.progs i).returned = some x → storedResult runId d.shared workId = some x

section runs

variable {calls : ι → JobCall} {w₀ : World} {tr : List (JobEvent runId ι)}
  {d : Config (iface runId) CoreError World fun _ : ι => ContentId}

/-- A row that stays as it is once it is done becomes done once.
Source: `rollout-harness-eval/src/job.rs` `run_example_job`. Kind: L -/
theorem once_of_kept {c : Config (iface runId) CoreError World fun _ : ι => ContentId}
    (hrun : Run (machine runId ι) c tr d)
    (hkept : ∀ e ∈ tr, DoneKept runId workId e.pre e.post) :
    tr.Pairwise fun e e' => BecomesDone workId e → ¬ BecomesDone workId e' := by
  refine (hrun.pairwise_events DoneKept.refl DoneKept.trans hkept).imp ?_
  intro e e' hle hdone hdone'
  apply hdone.2
  rw [← hle.storedResult_eq hdone.2]
  exact hdone'.1

/-- **Exactly when the calls for a job agree on one result**: when no call seeds the row over a done
one and each completion finds the claim of its own call, or its own result.
Source: `rollout-harness-eval/src/job.rs` `run_example_job`. Kind: C -/
theorem one_result_iff
    (hrun : Run (machine runId ι) (system runId workId calls w₀) tr d) :
    OneResult workId (system runId workId calls w₀) tr ↔ ∀ e ∈ tr, SeedsFresh e ∧ FindsOwn e := by
  have hadm := hrun.issued (φ := fun _ => Admissible workId) fun _ => issues_runExampleJob
  have hstart : ∀ i, ((system runId workId calls w₀).progs i).returned = none := fun _ => rfl
  have hreturns : ∀ i, ((system runId workId calls w₀).progs i).Returns (machine runId ι) i
      announced := fun _ => returns_runExampleJob
  constructor
  · intro h e he
    have hkept := (hrun.pairwise_iff DoneKept.refl DoneKept.trans).mp h.kept
    have hagreed := hrun.events_of_returned hstart hreturns
      (P := fun x w => storedResult runId w workId = some x) h.agreed
    exact ⟨(event_kept_iff (hrun.does e he) (hadm e he)).mp (hkept e he),
      (event_agreed_iff (hrun.does e he) (hadm e he)).mp (hagreed e he)⟩
  · intro h
    have hkept : ∀ e ∈ tr, DoneKept runId workId e.pre e.post := fun e he =>
      (event_kept_iff (hrun.does e he) (hadm e he)).mpr (h e he).1
    have hagreed : ∀ e ∈ tr, ∀ x, announced e.op e.resp = some x →
        storedResult runId e.post workId = some x := fun e he =>
      (event_agreed_iff (hrun.does e he) (hadm e he)).mpr (h e he).2
    refine ⟨once_of_kept hrun hkept, (hrun.pairwise_iff DoneKept.refl DoneKept.trans).mpr hkept, ?_⟩
    rintro tr₁ tr₂ d₁ rfl hrun₁ i x hret
    apply hrun₁.returned_of_events hstart hreturns
      (P := fun x w => storedResult runId w workId = some x) ?_ ?_ hret
    · intro e he y hy
      have hstay := hkept e (List.mem_append_left _ he)
      rwa [hstay.storedResult_eq (by rw [hy]; simp)]
    · exact fun e he => hagreed e (List.mem_append_left _ he)

end runs

end jobs

/-! ## Concrete runs -/

/-- The digest of a passed example. Source: none: infrastructure. Kind: D -/
def passedId : ContentId :=
  ⟨[0xa2, 0xb1, 0xab, 0xf6, 0x81, 0xb2, 0xea, 0xd8, 0xa8, 0xb3, 0x65, 0xbd, 0xd3, 0x09, 0xf7, 0xfa,
    0x52, 0x62, 0x54, 0xe2, 0x2b, 0x4e, 0x9d, 0x7b, 0xda, 0xa7, 0x18, 0xf8, 0x50, 0x6f, 0xbd, 0x12],
    rfl⟩

/-- The digest of a failed example. Source: none: infrastructure. Kind: D -/
def failedId : ContentId :=
  ⟨[0x9d, 0x15, 0x37, 0x2b, 0x18, 0x30, 0x73, 0x5a, 0x0a, 0x2d, 0x05, 0x21, 0x46, 0x69, 0xe3, 0x27,
    0x1a, 0x75, 0x4a, 0xac, 0x46, 0xfe, 0x30, 0x3b, 0x68, 0xbb, 0x30, 0x46, 0x01, 0x3a, 0x05, 0x74],
    rfl⟩

/-- The first example with the score `1.0`. Source: none: infrastructure. Kind: D -/
def passed : ExampleResult := ⟨0, ⟨[0, 0, 0, 0, 0, 0, 0xf0, 0x3f], rfl⟩⟩

/-- The first example with the score `0.0`. Source: none: infrastructure. Kind: D -/
def failed : ExampleResult := ⟨0, ⟨[0, 0, 0, 0, 0, 0, 0, 0], rfl⟩⟩

/-- A digest function that is right about those two results, for runs that digest nothing else.
Source: none: infrastructure. Kind: D -/
@[reducible] def scoreBlake3 : Blake3 where
  hash data := if data = ExampleResult.codec.enc passed then passedId else failedId

/-- Two workers for one example, with different scores. Source: none: infrastructure. Kind: D -/
def twoCalls : Fin 2 → JobCall := fun i =>
  if i = 0 then ⟨⟨⟨1⟩⟩, passed, 100⟩ else ⟨⟨⟨2⟩⟩, failed, 200⟩

section concrete

local instance : Blake3 := scoreBlake3

/-- Their calls, on stores with nothing in them. Source: none: infrastructure. Kind: D -/
abbrev twoSystem : Config (iface ⟨⟨7⟩⟩) CoreError World fun _ : Fin 2 => ContentId :=
  system ⟨⟨7⟩⟩ ContentId.ofEmpty twoCalls ⟨∅, ∅⟩

/-- `one_result_iff` at one call after the other: the second returns what the first has stored.
Source: `rollout-harness-eval/src/job.rs` `example_job_is_idempotent`. Kind: C -/
theorem one_result_in_turn :
    ∃ tr d, Run (machine ⟨⟨7⟩⟩ (Fin 2)) twoSystem tr d ∧
      (d.progs 0).returned = some passedId ∧ (d.progs 1).returned = some passedId ∧
      OneResult ContentId.ofEmpty twoSystem tr := by
  have hplay : ((twoSystem.play (inTurn (machine ⟨⟨7⟩⟩ (Fin 2)) (.ok ()) [0, 0, 0, 0, 0, 1])).map
      fun x => decide ((x.2.progs 0).returned = some passedId ∧
        (x.2.progs 1).returned = some passedId ∧ ∀ e ∈ x.1, SeedsFresh e ∧ FindsOwn e)) =
      some true := by
    decide +kernel
  obtain ⟨⟨tr, d⟩, hrun, hend⟩ := Option.map_eq_some_iff.mp hplay
  obtain ⟨hfirst, hsecond, hev⟩ := of_decide_eq_true hend
  exact ⟨tr, d, Config.play_run hrun, hfirst, hsecond,
    (one_result_iff (Config.play_run hrun)).mpr hev⟩

/-- **A call that has lost the claim returns the id of its own result.** The first call is between
its claim and its completion while the second runs through.
Source: `rollout-harness-eval/src/job.rs` `run_example_job` (`completed` is not looked at).
Kind: C -/
theorem loser_returns_own :
    ∃ tr d, Run (machine ⟨⟨7⟩⟩ (Fin 2)) twoSystem tr d ∧
      (d.progs 0).returned = some passedId ∧ (d.progs 1).returned = some failedId ∧
      storedResult ⟨⟨7⟩⟩ d.shared ContentId.ofEmpty = some passedId ∧
      ¬ OneResult ContentId.ofEmpty twoSystem tr := by
  have hplay : ((twoSystem.play
      (inTurn (machine ⟨⟨7⟩⟩ (Fin 2)) (.ok ()) [0, 0, 0, 1, 1, 1, 1, 0, 0])).map fun x =>
        decide ((x.2.progs 0).returned = some passedId ∧ (x.2.progs 1).returned = some failedId ∧
          storedResult ⟨⟨7⟩⟩ x.2.shared ContentId.ofEmpty = some passedId)) = some true := by
    decide +kernel
  obtain ⟨⟨tr, d⟩, hrun, hend⟩ := Option.map_eq_some_iff.mp hplay
  obtain ⟨hfirst, hsecond, hstored⟩ := of_decide_eq_true hend
  refine ⟨tr, d, Config.play_run hrun, hfirst, hsecond, hstored, fun h => ?_⟩
  have hagreed := h.agreed tr [] d (by simp) (Config.play_run hrun) 1 failedId hsecond
  rw [hstored] at hagreed
  exact absurd hagreed (by decide)

end concrete

end Rollout.Eval
