import Rollout.Core.Cloud
import Rollout.Core.Errors
import Rollout.Core.Snapshot
import Rollout.Transport.Health

/-!
# The graceful drain

* `drain` — read the notice, stop pulling, hand every item back, save if the budget allows,
  deregister. A call is written down when it is made; the deadline may cut off any call inside the
  timeout.
* `drain_calls` — what it calls once the notice is read and the items are handed back in time.
* `Drained` — the calls a drain owes. `drained_iff`: they are made unless a snapshot is attempted
  and fails. `drain_shipped`: the shipped snapshotter always refuses.
-/

set_option linter.unusedSectionVars false

namespace Rollout.Coordinator

open Rollout.Core Rollout.Transport

/-! ## The snapshotter -/

/-- How a call inside the timeout ends without a result: an error, or the deadline.
Source: `rollout-coordinator/src/drain.rs` `drain` (`tokio::time::timeout`). Kind: D -/
inductive Halt
  | failed (e : CoreError)
  | elapsed
deriving DecidableEq

/-- A snapshotter, as the outcome of the one call the drain makes.
Source: `rollout-core/src/traits/snapshot.rs` `Snapshotter`. Kind: D -/
structure Snapshotter where
  /-- Save. -/
  save : SnapshotRequest → Except Halt Snapshot

/-- The trait's bare save of the shipped snapshotter.
Source: `rollout-snapshots/src/lib.rs` `SnapshotterImpl::save`. Kind: D -/
def SnapshotterImpl.save (request : SnapshotRequest) : Except CoreError Snapshot :=
  match request.kind with
  | .trainState => .error (.fatal (.pluginContract "rollout-snapshots"
      ("TrainState save requires save_train_state(request, accelerate_dir); the " ++
        "bare Snapshotter::save trait method has no place to source the directory " ++
        "from, and is reserved for dir-less kinds (Buffer / EpisodicMemory) — " ++
        "neither implemented in Phase 4.")))
  | .buffer => .error (.fatal (.pluginContract "rollout-snapshots" "Phase 9: SnapshotKind::Buffer"))
  | .process =>
      .error (.fatal (.pluginContract "rollout-snapshots" "Phase 11: SnapshotKind::Process"))
  | .episodicMemory =>
      .error (.fatal (.pluginContract "rollout-snapshots" "Phase 8: SnapshotKind::EpisodicMemory"))

/-- The shipped snapshotter; its save does not wait for anything.
Source: `rollout-snapshots/src/lib.rs` `SnapshotterImpl`. Kind: D -/
def SnapshotterImpl.snapshotter : Snapshotter :=
  ⟨fun request => (SnapshotterImpl.save request).mapError .failed⟩

/-! ## The drain -/

/-- The two spot numbers of a provider. Source: `rollout-coordinator/src/drain.rs` `DrainConfig`.
Kind: D -/
structure DrainConfig where
  /-- The notice the cloud gives. -/
  noticeLead : Duration
  /-- The budget of the drain. -/
  drainDeadline : Duration

/-- Source: `rollout-coordinator/src/drain.rs` `DrainConfig::aws`. Kind: D -/
def DrainConfig.aws : DrainConfig := ⟨.fromMillis 120000, .fromMillis 60000⟩

/-- Source: `rollout-coordinator/src/drain.rs` `DrainConfig::gcp`. Kind: D -/
def DrainConfig.gcp : DrainConfig := ⟨.fromMillis 30000, .fromMillis 15000⟩

/-- The opportunistic snapshot. Source: `rollout-coordinator/src/drain.rs` `SnapshotPlan`.
Kind: D -/
structure SnapshotPlan where
  /-- The snapshotter, if there is one. -/
  snapshotter : Option Snapshotter
  /-- Estimated remaining budget. -/
  remainingBudget : Duration
  /-- Estimated cost of the snapshot. -/
  snapshotCost : Duration
  /-- The run. -/
  runId : RunId
  /-- The algorithm. -/
  algorithmId : String

/-- What the drain asks a snapshotter for. Source: `rollout-coordinator/src/drain.rs` `drain`
(`SnapshotRequest`). Kind: D -/
def SnapshotPlan.request (snap : SnapshotPlan) : SnapshotRequest where
  runId := snap.runId
  algorithmId := snap.algorithmId
  kind := .trainState
  label := some "spot-drain"
  metadata := .null

/-- A call the drain makes. Source: `rollout-coordinator/src/drain.rs` `drain`. Kind: D -/
inductive DrainCall
  | preemptionSignal
  | storeStopPull (stop : Bool)
  | nack (id : QueueItemId)
  | save (request : SnapshotRequest)
  | deregister

/-- How the calls end: the notice, each item handed back by its place, the deregistration.
Source: `rollout-coordinator/src/drain.rs` `drain` (`ComputeHint`, `Queue`, `F`). Kind: D -/
structure DrainWorld where
  /-- The notice. -/
  preemptionSignal : Except CoreError (Option Duration)
  /-- Handing an item back. -/
  nack : Nat → QueueItemId → Except Halt Unit
  /-- The deregistration. -/
  deregister : Except Halt Unit

/-- Code that makes calls. Source: none: infrastructure. Kind: D -/
abbrev DrainM (ε : Type) := ExceptT ε (StateM (List DrainCall))

/-- Make a call. Source: none: infrastructure. Kind: D -/
def invoke {ε α : Type} (c : DrainCall) (outcome : Except ε α) : DrainM ε α :=
  fun calls => (outcome, calls ++ [c])

/-- A fraction of `width` digits, without the zeros at its end.
Source: none: the standard library's `Debug` of a `Duration`. Kind: D -/
def fmtFraction (width frac : Nat) : String :=
  let digits := Nat.toDigits 10 frac
  let padded := List.replicate (width - digits.length) '0' ++ digits
  match padded.reverse.dropWhile (· == '0') with
  | [] => ""
  | ds => "." ++ String.ofList ds.reverse

/-- A duration as a message shows it.
Source: `rollout-coordinator/src/drain.rs` `drain` (`{:?}` of a `Duration`). Kind: D -/
def debugDuration (d : Duration) : String :=
  let secs := d.nanos / 1000000000
  let nanos := d.nanos % 1000000000
  if 0 < secs then toString secs ++ fmtFraction 9 nanos ++ "s"
  else if 1000000 ≤ nanos then
    toString (nanos / 1000000) ++ fmtFraction 6 (nanos % 1000000) ++ "ms"
  else if 1000 ≤ nanos then toString (nanos / 1000) ++ fmtFraction 3 (nanos % 1000) ++ "µs"
  else toString nanos ++ "ns"

/-- The body under the deadline. Source: `rollout-coordinator/src/drain.rs` `drain`
(`tokio::time::timeout`, `map_err`). Kind: D -/
def withinDeadline (cfg : DrainConfig) (body : DrainM Halt Unit) : DrainM CoreError Unit :=
  fun calls =>
    match body calls with
    | (.ok a, calls') => (.ok a, calls')
    | (.error (.failed e), calls') => (.error e, calls')
    | (.error .elapsed, calls') =>
        (.error (.internal ("spot drain exceeded drain_deadline " ++ debugDuration cfg.drainDeadline
          ++ " (notice lead was " ++ debugDuration cfg.noticeLead ++ ")")), calls')

/-- Hand the items back, the first of them at a place.
Source: `rollout-coordinator/src/drain.rs` `drain` (step 2). Kind: D -/
def requeue (w : DrainWorld) : Nat → List QueueItemId → DrainM Halt Unit
  | _, [] => return ()
  | n, id :: ids => do
      invoke (.nack id) (w.nack n id)
      requeue w (n + 1) ids

/-- The opportunistic snapshot. Source: `rollout-coordinator/src/drain.rs` `drain` (step 3).
Kind: D -/
def saveOpportunistically (snap : SnapshotPlan) : DrainM Halt Unit :=
  match snap.snapshotter with
  | some snapshotter =>
      if snap.snapshotCost.nanos ≤ snap.remainingBudget.nanos then do
        let _ ← invoke (.save snap.request) (snapshotter.save snap.request)
        return ()
      else return ()
  | none => return ()

/-- Source: `rollout-coordinator/src/drain.rs` `drain`. Kind: D -/
def drain (w : DrainWorld) (inFlight : List QueueItemId) (snap : SnapshotPlan) (cfg : DrainConfig) :
    DrainM CoreError Unit := do
  let _observedLead ← invoke .preemptionSignal w.preemptionSignal
  withinDeadline cfg do
    invoke (.storeStopPull true) (.ok ())
    requeue w 0 inFlight
    saveOpportunistically snap
    invoke .deregister w.deregister

/-- The calls of a drain. Source: none: infrastructure. Kind: D -/
def drainCalls (w : DrainWorld) (inFlight : List QueueItemId) (snap : SnapshotPlan)
    (cfg : DrainConfig) : List DrainCall :=
  (drain w inFlight snap cfg []).2

/-! ## What it calls -/

/-- The items are handed back before the deadline.
Source: `rollout-coordinator/src/drain.rs` `drain`. Kind: D -/
def NacksSucceed (w : DrainWorld) (n : Nat) (ids : List QueueItemId) : Prop :=
  ∀ k id, ids[k]? = some id → w.nack (n + k) id = .ok ()

theorem NacksSucceed.tail {w : DrainWorld} {n : Nat} {id : QueueItemId} {ids : List QueueItemId}
    (h : NacksSucceed w n (id :: ids)) : NacksSucceed w (n + 1) ids := by
  intro k id' hk
  have hnext := h (k + 1) id' hk
  rwa [Nat.add_assoc, Nat.add_comm 1 k]

theorem requeue_apply {w : DrainWorld} {n : Nat} {ids : List QueueItemId}
    (h : NacksSucceed w n ids) (calls : List DrainCall) :
    requeue w n ids calls = (.ok (), calls ++ ids.map .nack) := by
  induction ids generalizing n calls with
  | nil =>
      rw [List.map_nil, List.append_nil]
      rfl
  | cons id ids ih =>
      have hid : w.nack n id = .ok () := h 0 id rfl
      rw [requeue, exceptT_bind_apply, invoke, hid]
      simp only [ih h.tail]
      simp

/-- The snapshot is attempted, and this is how it ends; `none` when it is skipped.
Source: `rollout-coordinator/src/drain.rs` `SnapshotPlan` ("iff `snapshotter` is present AND
`remaining_budget >= snapshot_cost`"). Kind: D -/
def SnapshotPlan.attempt (snap : SnapshotPlan) : Option (Except Halt Snapshot) :=
  match snap.snapshotter with
  | some snapshotter =>
      if snap.snapshotCost.nanos ≤ snap.remainingBudget.nanos then
        some (snapshotter.save snap.request)
      else none
  | none => none

/-- The calls of the opportunistic step. Source: none: infrastructure. Kind: D -/
def SnapshotPlan.calls (snap : SnapshotPlan) : List DrainCall :=
  if snap.attempt.isSome then [.save snap.request] else []

theorem saveOpportunistically_apply (snap : SnapshotPlan) (calls : List DrainCall) :
    saveOpportunistically snap calls =
      (match snap.attempt with
        | some (.error e) => .error e
        | _ => .ok (), calls ++ snap.calls) := by
  unfold saveOpportunistically SnapshotPlan.calls SnapshotPlan.attempt
  rcases snap.snapshotter with - | snapshotter
  · simp only [Option.isSome_none, Bool.false_eq_true, if_false, List.append_nil]
    rfl
  · by_cases hcost : snap.snapshotCost.nanos ≤ snap.remainingBudget.nanos
    · simp only [if_pos hcost]
      rw [exceptT_bind_apply, invoke]
      rcases snapshotter.save snap.request with e | s <;> rfl
    · simp only [if_neg hcost]
      simp only [Option.isSome_none, Bool.false_eq_true, if_false, List.append_nil]
      rfl

theorem withinDeadline_calls (cfg : DrainConfig) (body : DrainM Halt Unit)
    (calls : List DrainCall) :
    (withinDeadline cfg body calls).2 = (body calls).2 := by
  unfold withinDeadline
  rcases body calls with ⟨(e | e) | a, calls'⟩ <;> rfl

/-- **What a drain calls** once the notice is read and the items are handed back in time: the
deregistration is reached only when a save that is attempted succeeds.
Source: `rollout-coordinator/src/drain.rs` `drain`. Kind: L -/
theorem drain_calls {w : DrainWorld} {inFlight : List QueueItemId} (snap : SnapshotPlan)
    (cfg : DrainConfig) {lead : Option Duration} (hsignal : w.preemptionSignal = .ok lead)
    (hnacks : NacksSucceed w 0 inFlight) :
    drainCalls w inFlight snap cfg =
      .preemptionSignal :: .storeStopPull true :: (inFlight.map .nack ++ snap.calls ++
        match snap.attempt with
        | some (.error _) => []
        | _ => [.deregister]) := by
  unfold drainCalls drain
  rw [exceptT_bind_apply, invoke, hsignal]
  simp only [withinDeadline_calls, exceptT_bind_apply, invoke, requeue_apply hnacks,
    saveOpportunistically_apply]
  rcases snap.attempt with - | (e | s) <;> simp

/-! ## What it owes -/

/-- The item a call hands back. Source: none: infrastructure. Kind: D -/
def DrainCall.nacked : DrainCall → Option QueueItemId
  | .nack id => some id
  | _ => none

/-- A call is the deregistration. Source: none: infrastructure. Kind: D -/
def DrainCall.isDeregister : DrainCall → Bool
  | .deregister => true
  | _ => false

/-- The calls a drain owes: the flag is set before the first item goes back, every item goes back
once and in order, and the one deregistration comes after them.
Source: `rollout-coordinator/src/drain.rs` (the drain sequence). Kind: D -/
structure Drained (inFlight : List QueueItemId) (calls : List DrainCall) : Prop where
  stopped : ∃ before after, calls = before ++ .storeStopPull true :: after ∧
    before.filterMap DrainCall.nacked = []
  requeued : calls.filterMap DrainCall.nacked = inFlight
  deregistered : calls.countP DrainCall.isDeregister = 1
  last : ∃ before after, calls = before ++ .deregister :: after ∧
    after.filterMap DrainCall.nacked = []

@[simp] theorem nacked_comp_nack : DrainCall.nacked ∘ DrainCall.nack = some := rfl

@[simp] theorem isDeregister_comp_nack : DrainCall.isDeregister ∘ DrainCall.nack = fun _ => false :=
  rfl

namespace SnapshotPlan

theorem nacked_calls (snap : SnapshotPlan) : snap.calls.filterMap DrainCall.nacked = [] := by
  unfold SnapshotPlan.calls
  split <;> rfl

theorem deregister_calls (snap : SnapshotPlan) : snap.calls.countP DrainCall.isDeregister = 0 := by
  unfold SnapshotPlan.calls
  split <;> rfl

end SnapshotPlan

theorem drained_of_calls (inFlight : List QueueItemId) (snap : SnapshotPlan) :
    Drained inFlight
      (.preemptionSignal :: .storeStopPull true :: (inFlight.map .nack ++ snap.calls ++
        [.deregister])) where
  stopped := ⟨[.preemptionSignal], _, rfl, rfl⟩
  requeued := by
    simp [List.filterMap_cons, DrainCall.nacked, snap.nacked_calls]
  deregistered := by
    simp [List.countP_cons, DrainCall.isDeregister, snap.deregister_calls]
  last := ⟨.preemptionSignal :: .storeStopPull true :: (inFlight.map .nack ++ snap.calls), [],
    by simp, rfl⟩

/-- **A drain makes the calls it owes exactly when no snapshot that it attempts fails**, among the
drains that read the notice and hand every item back in time.
Source: `rollout-coordinator/src/drain.rs` `drain`. Kind: P -/
theorem drained_iff (w : DrainWorld) (inFlight : List QueueItemId) (snap : SnapshotPlan)
    (cfg : DrainConfig) (hsignal : ∃ lead, w.preemptionSignal = .ok lead)
    (hnacks : NacksSucceed w 0 inFlight) (hintime : snap.attempt ≠ some (.error .elapsed)) :
    Drained inFlight (drainCalls w inFlight snap cfg) ↔
      ∀ e, snap.attempt ≠ some (.error (.failed e)) := by
  obtain ⟨lead, hlead⟩ := hsignal
  rw [drain_calls snap cfg hlead hnacks]
  constructor
  · intro h e he
    have hone := h.deregistered
    rw [he] at hone
    simp [DrainCall.isDeregister, snap.deregister_calls] at hone
  · intro h
    rcases hat : snap.attempt with - | ((e | -) | s)
    · exact drained_of_calls inFlight snap
    · exact absurd hat (h e)
    · exact absurd hat hintime
    · exact drained_of_calls inFlight snap

/-- A worker whose one item is handed back and whose deregistration succeeds.
Source: none: infrastructure. Kind: D -/
def quietWorld : DrainWorld where
  preemptionSignal := .ok none
  nack _ _ := .ok ()
  deregister := .ok ()

/-- A plan with the shipped snapshotter and time to spare. Source: none: infrastructure. Kind: D -/
def shippedPlan : SnapshotPlan where
  snapshotter := some SnapshotterImpl.snapshotter
  remainingBudget := .fromMillis 40000
  snapshotCost := .fromMillis 10000
  runId := ⟨⟨0⟩⟩
  algorithmId := "sft"

/-- Without a snapshotter the drain deregisters. Source: none: infrastructure. Kind: C -/
theorem drained_without_snapshotter :
    (∀ e, { shippedPlan with snapshotter := none }.attempt ≠ some (.error (.failed e))) ∧
      Drained [⟨⟨7⟩⟩] (drainCalls quietWorld [⟨⟨7⟩⟩] { shippedPlan with snapshotter := none } .aws) := by
  have hskip : ∀ e, { shippedPlan with snapshotter := none }.attempt ≠ some (.error (.failed e)) := by
    intro e h
    cases h
  have hiff := drained_iff quietWorld [⟨⟨7⟩⟩] { shippedPlan with snapshotter := none } .aws ⟨none, rfl⟩
    (fun _ _ _ => rfl) (by intro h; cases h)
  exact ⟨hskip, hiff.mpr hskip⟩

/-- With the shipped snapshotter and time to spare the drain hands its item back and never
deregisters. Source: `rollout-snapshots/src/lib.rs` `SnapshotterImpl::save`. Kind: C -/
theorem shipped_snapshotter_blocks_deregister :
    ¬ Drained [⟨⟨7⟩⟩] (drainCalls quietWorld [⟨⟨7⟩⟩] shippedPlan .aws) := by
  intro h
  have hone := h.deregistered
  have hzero : (drainCalls quietWorld [⟨⟨7⟩⟩] shippedPlan .aws).countP DrainCall.isDeregister = 0 :=
    rfl
  omega

/-- Whatever the items are, a drain that attempts a snapshot with the shipped snapshotter
leaves the worker registered.
Source: `rollout-snapshots/src/lib.rs` `SnapshotterImpl::save`. Kind: L -/
theorem drain_shipped {w : DrainWorld} {inFlight : List QueueItemId} {snap : SnapshotPlan}
    (cfg : DrainConfig) {lead : Option Duration} (hsignal : w.preemptionSignal = .ok lead)
    (hnacks : NacksSucceed w 0 inFlight) (himpl : snap.snapshotter = some SnapshotterImpl.snapshotter)
    (hcost : snap.snapshotCost.nanos ≤ snap.remainingBudget.nanos) :
    (drainCalls w inFlight snap cfg).countP DrainCall.isDeregister = 0 := by
  have hat : snap.attempt = some (SnapshotterImpl.snapshotter.save snap.request) := by
    rw [SnapshotPlan.attempt, himpl]
    exact if_pos hcost
  have hfail : ∃ e, SnapshotterImpl.snapshotter.save snap.request = .error e := ⟨_, rfl⟩
  obtain ⟨e, he⟩ := hfail
  rw [drain_calls snap cfg hsignal hnacks, hat, he]
  simp [DrainCall.isDeregister, snap.deregister_calls]

end Rollout.Coordinator
