import Rollout.Batch.Runtime

/-!
# Done rows under concurrent coordinators

* `BatchCall` — one call: a scan or the processing of one queue entry; `system` is any number of
  them over one world.
* `rows_cases` — all an operation can do to the rows; `Admissible` — what the calls ask for.
* `done_permanent_iff` — the done rows of a run are permanent exactly when every row a scan creates
  is created where there is no done row. A scan that has read `None` before another scan created
  the row and a worker finished it resets the row: `stale_scan_resets_done`.
-/

set_option linter.unusedSectionVars false

namespace Rollout.Batch

open Rollout.Lib Rollout.Core

section calls

variable [Blake3] {runId : RunId} {ι : Type}

/-! ## Calls -/

/-- One call of a coordinator or of a worker.
Source: `rollout-runtime-batch/src/coordinator.rs` `scan_and_enqueue`, `worker.rs` `run_one`.
Kind: D -/
inductive BatchCall
  | scan (coord : BatchCoordinator) (inputs : List InputItem)
  | runOne (worker : BatchWorker)

namespace BatchCall

/-- What a call returns. Source: `rollout-runtime-batch/src/coordinator.rs`, `worker.rs`. Kind: D -/
@[reducible] def Out : BatchCall → Type
  | .scan .. => Nat
  | .runOne _ => RunOutcome

/-- What a call runs. Source: `rollout-runtime-batch/src/coordinator.rs`, `worker.rs`. Kind: D -/
def prog : (c : BatchCall) → BatchM runId c.Out
  | .scan coord inputs => coord.scanAndEnqueue inputs
  | .runOne worker => worker.runOne

/-- Any number of calls over one world. Source: none: infrastructure. Kind: D -/
def system (runId : RunId) (calls : ι → BatchCall) (w : World) :
    Config (iface runId) CoreError World fun i => (calls i).Out :=
  ⟨w, fun i => (calls i).prog⟩

end BatchCall

/-! ## What the calls ask for -/

/-- The operations of the calls: a row is created pending, and only running records are completed,
failed or put back. Source: `rollout-runtime-batch/src/coordinator.rs`, `worker.rs`. Kind: D -/
def Admissible : Op runId → Prop
  | .store (.txn (.create record)) => record.state.isDone = false
  | .store (.txn (.repending running)) => running.state.isDone = false
  | .store (.txn (.complete running _ _)) => running.state.isDone = false
  | .store (.txn (.fail running _ _)) => running.state.isDone = false
  | _ => True

section issues

variable {i : ι} {β : Type}

/-- The rule for one operation. Source: none: infrastructure. Kind: L -/
theorem issues_ask {o : Op runId} {f : o.Out → BatchM runId β} (ho : Admissible o)
    (hf : ∀ a, (f a).Issues (machine runId ι) i Admissible) :
    (ask o >>= f).Issues (machine runId ι) i Admissible :=
  Service.issues_ask (S := service runId ι) ho fun _ _ a _ _ => hf a

theorem issues_ask_ret {o : Op runId} (ho : Admissible o) :
    (ask o).Issues (machine runId ι) i Admissible := by
  rw [← Prog.bind_ret (ask o)]
  exact issues_ask ho fun _ => trivial

theorem issues_ofExcept {r : Except CoreError β} :
    (Prog.ofExcept r : BatchM runId β).Issues (machine runId ι) i Admissible :=
  Prog.Issues.ofExcept r

theorem issues_enqueueSample (sid : ContentId) :
    (BatchCoordinator.enqueueSample sid : BatchM runId Bool).Issues (machine runId ι) i
      Admissible := by
  refine Prog.Issues.bind ?_ fun _ => trivial
  refine issues_ask trivial fun _ => ?_
  refine issues_ask trivial fun _ => ?_
  exact issues_ask trivial fun _ => trivial

theorem issues_scanItem (coord : BatchCoordinator) (nowMs : BitVec 64) (item : InputItem) :
    (coord.scanItem nowMs item : BatchM runId Bool).Issues (machine runId ι) i Admissible := by
  unfold BatchCoordinator.scanItem
  refine issues_ask trivial fun existing => ?_
  cases existing with
  | none =>
      refine issues_ask trivial fun _ => ?_
      refine issues_ask rfl fun _ => ?_
      exact issues_enqueueSample _
  | some bytes =>
      refine Prog.Issues.bind issues_ofExcept fun record => ?_
      rcases record with ⟨id, blob, state, created, idx⟩
      cases state with
      | pending => exact issues_enqueueSample _
      | done => trivial
      | failed => exact issues_enqueueSample _
      | running w startedAtMs =>
          dsimp only
          split
          · refine issues_ask rfl fun applied => ?_
            cases applied with
            | false => trivial
            | true => exact issues_enqueueSample _
          · trivial

theorem issues_scanItems (coord : BatchCoordinator) (nowMs : BitVec 64) (enqueued : Nat)
    (items : List InputItem) :
    (coord.scanItems nowMs enqueued items : BatchM runId Nat).Issues (machine runId ι) i
      Admissible := by
  induction items generalizing enqueued with
  | nil => trivial
  | cons item items ih => exact (issues_scanItem coord nowMs item).bind fun _ => ih _

theorem issues_ack (qid : Ulid) :
    (ack qid : BatchM runId Unit).Issues (machine runId ι) i Admissible := issues_ask_ret trivial

theorem issues_process (worker : BatchWorker) {running : SampleRecord}
    (hrunning : running.state.isDone = false) :
    (worker.process running : BatchM runId RunOutcome).Issues (machine runId ι) i Admissible := by
  refine issues_ask trivial fun _ => ?_
  refine Prog.Issues.bind issues_ofExcept fun _ => ?_
  refine issues_ask trivial fun result => ?_
  cases result with
  | ok completions =>
      refine Prog.Issues.bind issues_ofExcept fun _ => ?_
      refine issues_ask trivial fun _ => ?_
      refine issues_ask trivial fun _ => ?_
      refine issues_ask hrunning fun applied => ?_
      cases applied <;> trivial
  | error e =>
      refine issues_ask trivial fun _ => ?_
      exact issues_ask hrunning fun _ => trivial

theorem issues_runOne (worker : BatchWorker) :
    (worker.runOne : BatchM runId RunOutcome).Issues (machine runId ι) i Admissible := by
  refine issues_ask trivial fun entry => ?_
  rcases entry with - | ⟨qid, payload⟩
  · trivial
  · refine Prog.Issues.bind issues_ofExcept fun _ => ?_
    refine issues_ask trivial fun row => ?_
    cases row with
    | none => exact (issues_ack qid).bind fun _ => trivial
    | some bytes =>
        refine Prog.Issues.bind issues_ofExcept fun record => ?_
        split
        · exact (issues_ack qid).bind fun _ => trivial
        · refine issues_ask trivial fun _ => ?_
          refine issues_ask trivial fun claimed => ?_
          cases claimed with
          | false => exact (issues_ack qid).bind fun _ => trivial
          | true =>
              refine (issues_process worker rfl).bind fun _ => ?_
              exact (issues_ack qid).bind fun _ => trivial

/-- **A call only asks for what it may.** Source: `rollout-runtime-batch/src/coordinator.rs`,
`worker.rs`. Kind: P -/
theorem issues_call (c : BatchCall) :
    (c.prog : BatchM runId c.Out).Issues (machine runId ι) i Admissible := by
  cases c with
  | scan coord inputs =>
      exact issues_ask trivial fun nowMs => issues_scanItems coord nowMs 0 inputs
  | runOne worker => exact issues_runOne worker

end issues

/-! ## What an operation does to a done row -/

/-- A done row is still the same row. Source: none: infrastructure. Kind: D -/
def DoneKept (runId : RunId) (w w' : World) : Prop :=
  ∀ sid bytes record, w.rows.get (sampleKey runId sid) = some bytes →
    decodeRecord bytes = .ok record → record.state.isDone = true →
      w'.rows.get (sampleKey runId sid) = some bytes

theorem DoneKept.refl (w : World) : DoneKept runId w w := fun _ _ _ h _ _ => h

theorem DoneKept.trans {w w' w'' : World} (h : DoneKept runId w w') (h' : DoneKept runId w' w'') :
    DoneKept runId w w'' :=
  fun sid bytes record hget hdec hdone =>
    h' sid bytes record (h sid bytes record hget hdec hdone) hdec hdone

theorem DoneKept.sample {w w' : World} (h : DoneKept runId w w') {sid : ContentId}
    {record : SampleRecord} (hs : w.sample runId sid = some record)
    (hdone : record.state.isDone = true) : w'.sample runId sid = some record := by
  obtain ⟨bytes, hget, hdec⟩ := World.sample_eq_some.mp hs
  exact World.sample_eq_some.mpr ⟨bytes, h sid bytes record hget hdec hdone, hdec⟩

/-- A transition from a record that is not done keeps the done rows.
Source: `rollout-runtime-batch/src/state.rs`. Kind: L -/
theorem doneKept_swap {w w' : World} {record : SampleRecord} {state : SampleState}
    (hrec : record.state.isDone = false)
    (h : w'.rows = (swap runId w.rows record state).2) : DoneKept runId w w' := by
  intro sid bytes r hget hdec hdone
  rw [h]
  rcases swap_cases runId w.rows record state with ⟨hrow, hswap⟩ | ⟨-, hswap⟩
  · rw [hswap]
    rw [KV.get_put_of_ne _ _ _ _ ?_]
    · exact hget
    · intro hkey
      rw [← hkey, hget] at hrow
      rw [Option.some.inj hrow, decodeRecord_encodeRecord] at hdec
      rw [← Except.ok.inj hdec, hrec] at hdone
      cases hdone
  · rw [hswap]
    exact hget

/-- The other rows do not matter. Source: none: infrastructure. Kind: L -/
theorem doneKept_of_get {w w' : World}
    (h : ∀ sid, w'.rows.get (sampleKey runId sid) = w.rows.get (sampleKey runId sid)) :
    DoneKept runId w w' :=
  fun sid _ _ hget _ _ => (h sid).trans hget

/-- What a scan found where it created a row, when there was a row.
Source: `rollout-runtime-batch/src/coordinator.rs` `scan_and_enqueue` (the `None` branch).
Kind: D -/
def overwritten {ι : Type} (e : BatchEvent runId ι) : Option SampleRecord :=
  match e with
  | ⟨_, .store (.txn (.create record)), .ok _, w, _⟩ => w.sample runId record.id
  | _ => none

/-- The event creates no row over a done one.
Source: `rollout-runtime-batch/src/coordinator.rs` `scan_and_enqueue` (the `None` branch).
Kind: D -/
def FreshCreate {ι : Type} (e : BatchEvent runId ι) : Prop :=
  ∀ record ∈ overwritten e, record.state.isDone = false

instance {ι : Type} (e : BatchEvent runId ι) : Decidable (FreshCreate e) :=
  inferInstanceAs (Decidable (∀ record ∈ overwritten e, record.state.isDone = false))

/-- Creating a row keeps the done rows exactly when there is no done row at its key.
Source: `rollout-runtime-batch/src/coordinator.rs` `scan_and_enqueue` (the `None` branch).
Kind: L -/
theorem doneKept_create_iff {w w' : World} {record : SampleRecord}
    (hrec : record.state.isDone = false)
    (h : w'.rows = w.rows.put (sampleKey runId record.id) (encodeRecord record)) :
    DoneKept runId w w' ↔ ∀ r ∈ w.sample runId record.id, r.state.isDone = false := by
  constructor
  · intro hkept r hr
    by_contra hdone
    rw [Bool.not_eq_false] at hdone
    have hpost := hkept.sample hr hdone
    rw [World.sample_put h, if_pos rfl] at hpost
    rw [← Option.some.inj hpost, hrec] at hdone
    cases hdone
  · intro hfresh sid bytes r hget hdec hdone
    rw [h, KV.get_put_of_ne _ _ _ _ ?_]
    · exact hget
    · intro hkey
      rw [sampleKey_inj] at hkey
      subst hkey
      rw [hfresh r (World.sample_of_decode hget hdec)] at hdone
      cases hdone

/-- **One step**: an operation of a call keeps the done rows exactly when it does not create a row
over one of them. Source: `rollout-runtime-batch/src/coordinator.rs`, `state.rs`, `worker.rs`.
Kind: P -/
theorem doneKept_iff {e : BatchEvent runId ι} (hd : (machine runId ι).Does e)
    (hadm : Admissible e.op) : DoneKept runId e.pre e.post ↔ FreshCreate e := by
  rcases event_cases hd with ⟨hsame, hne⟩ | ⟨i, t, a, w, w', rfl, hbody⟩
  · have hkept : DoneKept runId e.pre e.post := fun sid bytes record hget _ _ => by rw [hsame, hget]
    refine ⟨fun _ record hmem => ?_, fun _ => hkept⟩
    unfold overwritten at hmem
    split at hmem
    · exact absurd rfl (hne _ _ _ _ _)
    · cases hmem
  · have hrows : w'.rows = (atomically (SampleTxn.body runId t) w.rows).2 :=
      (congrArg Prod.snd hbody).symm
    show DoneKept runId w w' ↔ _
    cases t with
    | create record => exact doneKept_create_iff hadm hrows
    | repending running =>
        rw [atomically_repending] at hrows
        exact iff_of_true (doneKept_swap hadm hrows) (by rintro _ ⟨⟩)
    | claim record workerId nowMs staleAfterMs =>
        rw [atomically_claim] at hrows
        refine iff_of_true ?_ (by rintro _ ⟨⟩)
        split at hrows
        · next hclaim =>
          refine doneKept_swap ?_ hrows
          by_contra hdone
          rw [Bool.not_eq_false] at hdone
          have hterm := isTerminal_of_claimable hclaim
          rw [SampleState.isTerminal_of_isDone hdone] at hterm
          cases hterm
        · exact doneKept_of_get fun sid => by rw [hrows]
    | complete running blob finishedAtMs =>
        rw [atomically_complete] at hrows
        exact iff_of_true (doneKept_swap hadm hrows) (by rintro _ ⟨⟩)
    | fail running reason failedAtMs =>
        rw [atomically_fail] at hrows
        exact iff_of_true (doneKept_swap hadm hrows) (by rintro _ ⟨⟩)
    | enqueue id payload =>
        rw [atomically_enqueue] at hrows
        refine iff_of_true (doneKept_of_get fun sid => ?_) (by rintro _ ⟨⟩)
        rw [hrows, KV.get_put_of_ne _ _ _ _ (sampleKey_ne_keyFor runId sid id)]
    | ack id =>
        rw [atomically_ack] at hrows
        refine iff_of_true (doneKept_of_get fun sid => ?_) (by rintro _ ⟨⟩)
        rw [hrows, KV.get_del_of_ne _ _ _ (sampleKey_ne_keyFor runId sid id)]

/-! ## Runs -/

variable [DecidableEq ι] {calls : ι → BatchCall} {w₀ : World} {tr : List (BatchEvent runId ι)}
  {d : Config (iface runId) CoreError World fun i => (calls i).Out}

/-- **Exactly when the done rows of a run are permanent**: when no scan creates a row over a done
one. Source: `rollout-runtime-batch/src/coordinator.rs` `scan_and_enqueue`, `state.rs`,
`worker.rs`. Kind: C -/
theorem done_permanent_iff
    (hrun : Run (machine runId ι) (BatchCall.system runId calls w₀) tr d) :
    (states (BatchCall.system runId calls w₀) tr).Pairwise (DoneKept runId) ↔
      ∀ e ∈ tr, FreshCreate e := by
  rw [hrun.pairwise_iff DoneKept.refl DoneKept.trans]
  have hadm := hrun.issued fun i => issues_call (ι := ι) (i := i) (calls i)
  constructor
  · intro h e he
    exact (doneKept_iff (hrun.does e he) (hadm e he)).mp (h e he)
  · intro h e he
    exact (doneKept_iff (hrun.does e he) (hadm e he)).mpr (h e he)

end calls

/-! ## Concrete runs -/

/-- The batch of the concrete runs. Source: none: infrastructure. Kind: D -/
abbrev oneMachine := @machine oneBlake3 ⟨⟨7⟩⟩

/-- A scan of the job of one empty prompt. Source: none: infrastructure. Kind: D -/
def scanOne : BatchCall := .scan (oneJob.coordinator defaultStaleAfterMs) oneJob.inputs

/-- A worker of that job. Source: none: infrastructure. Kind: D -/
def workOne : BatchCall := .runOne (oneJob.worker ⟨⟨1⟩⟩)

/-- Two scans of one job and a worker.
Source: `rollout-runtime-batch/src/coordinator.rs` `scan_and_enqueue`. Kind: D -/
def scanScanWork : Fin 3 → BatchCall
  | 0 => scanOne
  | 1 => scanOne
  | 2 => workOne

/-- The backend completes the empty prompt with the empty text. Source: none: infrastructure.
Kind: D -/
def answered : Choice := { time := 200, answer := .ok [emptyText] }

/-- One scan and the worker, then the other scan. Source: none: infrastructure. Kind: D -/
def oneAfterTheOther : List (Move (oneMachine (Fin 3))) :=
  List.replicate 7 (.step 0 (.ok { time := 100 })) ++
    List.replicate 10 (.step 2 (.ok answered)) ++ List.replicate 2 (.step 1 (.ok { time := 300 }))

/-- `done_permanent_iff` at a run whose second scan starts when the sample is done.
Source: `rollout-runtime-batch/tests/resume_skips_done.rs`. Kind: C -/
theorem done_permanent_resumed :
    ∃ tr d, Run (oneMachine (Fin 3)) (@BatchCall.system oneBlake3 _ ⟨⟨7⟩⟩ scanScanWork .fresh) tr d ∧
      (d.shared.sample ⟨⟨7⟩⟩ oneSid).map SampleRecord.state =
        some (.done ContentId.ofEmpty 200) ∧
      (states (@BatchCall.system oneBlake3 _ ⟨⟨7⟩⟩ scanScanWork .fresh) tr).Pairwise
        (DoneKept ⟨⟨7⟩⟩) := by
  let _ := oneBlake3
  have hplay : (((BatchCall.system ⟨⟨7⟩⟩ scanScanWork .fresh).play oneAfterTheOther).map fun x =>
      decide ((x.2.shared.sample ⟨⟨7⟩⟩ oneSid).map SampleRecord.state =
        some (.done ContentId.ofEmpty 200) ∧ ∀ e ∈ x.1, FreshCreate e)) = some true := by
    decide +kernel
  obtain ⟨⟨tr, d⟩, hrun, hend⟩ := Option.map_eq_some_iff.mp hplay
  obtain ⟨hdone, hfresh⟩ := of_decide_eq_true hend
  exact ⟨tr, d, Config.play_run hrun, hdone,
    (done_permanent_iff (Config.play_run hrun)).mpr hfresh⟩

/-- Both scans read the row before either has created it; the first one and the worker go on.
Source: none: infrastructure. Kind: D -/
def staleScan : List (Move (oneMachine (Fin 3))) :=
  List.replicate 2 (.step 1 (.ok { time := 100 })) ++ List.replicate 7 (.step 0 (.ok { time := 100 })) ++
    List.replicate 10 (.step 2 (.ok answered)) ++ List.replicate 2 (.step 1 (.ok { time := 300 }))

/-- **A scan that has read no row resets the row that is done by the time it writes.**
Source: `rollout-runtime-batch/src/coordinator.rs` `scan_and_enqueue` (the `None` branch).
Kind: C -/
theorem stale_scan_resets_done :
    ∃ tr d, Run (oneMachine (Fin 3)) (@BatchCall.system oneBlake3 _ ⟨⟨7⟩⟩ scanScanWork .fresh) tr d ∧
      (∃ e ∈ tr, e.who = 1 ∧
        (e.pre.sample ⟨⟨7⟩⟩ oneSid).map SampleRecord.state =
          some (.done ContentId.ofEmpty 200) ∧
        (e.post.sample ⟨⟨7⟩⟩ oneSid).map SampleRecord.state = some .pending) ∧
      ¬ (states (@BatchCall.system oneBlake3 _ ⟨⟨7⟩⟩ scanScanWork .fresh) tr).Pairwise
        (DoneKept ⟨⟨7⟩⟩) := by
  let _ := oneBlake3
  have hplay : (((BatchCall.system ⟨⟨7⟩⟩ scanScanWork .fresh).play staleScan).map fun x =>
      decide (∃ e ∈ x.1, e.who = 1 ∧
        (e.pre.sample ⟨⟨7⟩⟩ oneSid).map SampleRecord.state =
          some (.done ContentId.ofEmpty 200) ∧
        (e.post.sample ⟨⟨7⟩⟩ oneSid).map SampleRecord.state = some .pending)) = some true := by
    decide +kernel
  obtain ⟨⟨tr, d⟩, hrun, hend⟩ := Option.map_eq_some_iff.mp hplay
  obtain ⟨e, he, hwho, hpre, hpost⟩ := of_decide_eq_true hend
  refine ⟨tr, d, Config.play_run hrun, ⟨e, he, hwho, hpre, hpost⟩, ?_⟩
  rw [(Config.play_run hrun).pairwise_iff DoneKept.refl DoneKept.trans]
  intro hkept
  obtain ⟨record, hrec, hstate⟩ := Option.map_eq_some_iff.mp hpre
  have hsame := (hkept e he).sample hrec (by rw [hstate]; rfl)
  rw [hsame, Option.map_some, hstate] at hpost
  cases hpost

end Rollout.Batch
