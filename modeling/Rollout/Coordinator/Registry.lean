import Rollout.Core.Storage
import Rollout.Transport.Health

/-!
# The worker registry and the heartbeat ledger

* `WorkerRegistryEntry`, `HeartbeatRecord` — the rows of the two namespaces; `workerKey`,
  `heartbeatKey` — where they are stored.
* `SystemTime.toMs`, `msToSystime` — a deadline is stored in milliseconds; `msToSystime_toMs` is
  what the round trip leaves of it.
* `HeartbeatRecord.isOverdue` — what the failure scan asks of a row. `self_fenced_before_failed`:
  under an accepted configuration a worker has fenced itself before a scan gives up on it.
-/

set_option linter.unusedSectionVars false

namespace Rollout.Coordinator

open Rollout.Lib Rollout.Core Rollout.Transport

/-! ## Milliseconds -/

/-- Milliseconds since the Unix epoch; a time before the epoch counts as the epoch.
Source: `rollout-coordinator/src/registry.rs` `now_ms`, `heartbeat.rs` `heartbeat`
(`duration_since(UNIX_EPOCH)`). Kind: D -/
def SystemTime.toMs (t : SystemTime) : BitVec 128 :=
  match t.durationSince .unixEpoch with
  | some d => BitVec.ofNat 128 (d.nanos / milliNanos)
  | none => 0

/-- The seconds of a number of milliseconds, as far as they fit in 64 bits.
Source: `rollout-coordinator/src/registry.rs` `ms_to_systime` (`secs`). Kind: D -/
def msSecs (ms : BitVec 128) : Nat := if ms.toNat / 1000 < 2 ^ 64 then ms.toNat / 1000 else 0

/-- The rest, as far as it fits in 32 bits.
Source: `rollout-coordinator/src/registry.rs` `ms_to_systime` (`sub_nanos`). Kind: D -/
def msSubNanos (ms : BitVec 128) : Nat :=
  if milliNanos * (ms.toNat % 1000) < 2 ^ 32 then milliNanos * (ms.toNat % 1000) else 0

theorem msSubNanos_eq (ms : BitVec 128) : msSubNanos ms = milliNanos * (ms.toNat % 1000) := by
  refine if_pos ?_
  have := Nat.mod_lt ms.toNat (by decide : 0 < 1000)
  unfold milliNanos
  omega

theorem msNanos_lt (ms : BitVec 128) : secNanos * msSecs ms + msSubNanos ms < 2 ^ 64 * secNanos := by
  have hsecs : msSecs ms < 2 ^ 64 := by
    unfold msSecs
    split
    · assumption
    · decide
  have := Nat.mod_lt ms.toNat (by decide : 0 < 1000)
  rw [msSubNanos_eq]
  unfold milliNanos secNanos
  omega

/-- Milliseconds since the epoch back as a time; a panic when it is out of range.
Source: `rollout-coordinator/src/registry.rs` `ms_to_systime`. Kind: D -/
def msToSystime (ms : BitVec 128) : Option SystemTime :=
  SystemTime.unixEpoch.add ⟨secNanos * msSecs ms + msSubNanos ms, msNanos_lt ms⟩

theorem toNat_toMs (t : SystemTime) : (SystemTime.toMs t).toNat = t.nanos.toNat / milliNanos := by
  unfold SystemTime.toMs SystemTime.durationSince
  by_cases h : SystemTime.unixEpoch.nanos ≤ t.nanos
  · have hlt := t.nanos_lt
    rw [if_pos h]
    simp only [SystemTime.unixEpoch, Int.sub_zero, BitVec.toNat_ofNat]
    unfold milliNanos secNanos at *
    omega
  · rw [if_neg h]
    have hneg : t.nanos.toNat = 0 := Int.toNat_of_nonpos (Int.le_of_lt (Int.not_le.mp h))
    rw [hneg]
    rfl

/-- **The stored milliseconds of a time are a time again**, the same up to less than a millisecond,
or the epoch. Source: `rollout-coordinator/src/registry.rs` `ms_to_systime`. Kind: L -/
theorem msToSystime_toMs (t : SystemTime) :
    ∃ u, msToSystime (SystemTime.toMs t) = some u ∧ t.nanos < u.nanos + milliNanos ∧
      u.nanos = (milliNanos * (t.nanos.toNat / milliNanos) : Nat) := by
  have hlt := t.nanos_lt
  have hms := toNat_toMs t
  have hnanos : secNanos * msSecs (SystemTime.toMs t) + msSubNanos (SystemTime.toMs t) =
      milliNanos * (t.nanos.toNat / milliNanos) := by
    have hsecs : (SystemTime.toMs t).toNat / 1000 < 2 ^ 64 := by
      rw [hms]
      unfold milliNanos secNanos at *
      omega
    rw [msSubNanos_eq, msSecs, if_pos hsecs, hms]
    unfold milliNanos secNanos at *
    omega
  unfold msToSystime SystemTime.add
  simp only [hnanos, SystemTime.unixEpoch, Int.zero_add]
  have hrange : ((milliNanos * (t.nanos.toNat / milliNanos) : Nat) : Int).toNat < 2 ^ 63 * secNanos := by
    unfold milliNanos secNanos at *
    omega
  refine ⟨_, dif_pos hrange, ?_, rfl⟩
  simp only
  unfold milliNanos
  omega

/-! ## Rows -/

/-- Worker lifecycle states. Source: `rollout-core/src/traits/worker.rs` `WorkerState`. Kind: D -/
inductive WorkerState
  | init
  | ready
  | running
  | draining
deriving DecidableEq

/-- A worker's "I am alive" assertion. Source: `rollout-core/src/traits/worker.rs` `Heartbeat`.
Kind: D -/
structure Heartbeat where
  /-- The worker. -/
  workerId : WorkerId
  /-- The run it is attached to. -/
  runId : RunId
  /-- Its lifecycle state. -/
  state : WorkerState
  /-- By when the next heartbeat must arrive. -/
  dueAt : SystemTime
deriving DecidableEq

/-- The row of a worker. Source: `rollout-coordinator/src/registry.rs` `WorkerRegistryEntry`.
Kind: D -/
structure WorkerRegistryEntry where
  /-- The worker, as text. -/
  workerId : String
  /-- The owning run, as text. -/
  runId : String
  /-- When it was registered, Unix milliseconds. -/
  registeredAtMs : BitVec 128
deriving DecidableEq

/-- The row of a worker's latest heartbeat.
Source: `rollout-coordinator/src/registry.rs` `HeartbeatRecord`. Kind: D -/
structure HeartbeatRecord where
  /-- The worker, as text. -/
  workerId : String
  /-- The run, as text. -/
  runId : String
  /-- The lifecycle state, as a number. -/
  state : BitVec 32
  /-- By when the next heartbeat must arrive, Unix milliseconds. -/
  dueAtMs : BitVec 128
  /-- When the coordinator received it, Unix milliseconds. -/
  receivedAtMs : BitVec 128
deriving DecidableEq

/-- Source: `rollout-coordinator/src/registry.rs` `WorkerRegistryEntry`. Kind: D -/
def WorkerRegistryEntry.codec : Codec WorkerRegistryEntry :=
  (Codec.string.prod (Codec.string.prod Codec.u128)).refine
    (fun x => some ⟨x.1, x.2.1, x.2.2⟩) (fun e => (e.workerId, e.runId, e.registeredAtMs))
    fun _ => rfl

/-- Source: `rollout-coordinator/src/registry.rs` `HeartbeatRecord`. Kind: D -/
def HeartbeatRecord.codec : Codec HeartbeatRecord :=
  (Codec.string.prod (Codec.string.prod ((Codec.varsint 32 Codec.width32_pos).prod
    (Codec.u128.prod Codec.u128)))).refine
    (fun x => some ⟨x.1, x.2.1, x.2.2.1, x.2.2.2.1, x.2.2.2.2⟩)
    (fun r => (r.workerId, r.runId, r.state, r.dueAtMs, r.receivedAtMs)) fun _ => rfl

/-- Source: `rollout-coordinator/src/registry.rs` `worker_key`. Kind: D -/
def workerKey (id : WorkerId) : StorageKey := ⟨"workers", none, [id.ulid.display]⟩

/-- Source: `rollout-coordinator/src/registry.rs` `heartbeat_key`. Kind: D -/
def heartbeatKey (id : WorkerId) : StorageKey := ⟨"heartbeats", none, [id.ulid.display]⟩

/-- What a failure scan ranges over.
Source: `rollout-coordinator/src/failure_scan.rs` `scan_once` (`prefix`). Kind: D -/
def heartbeatsPrefix : StorageKey := ⟨"heartbeats", none, []⟩

theorem WorkerId.ulid_inj {a b : WorkerId} : a.ulid = b.ulid ↔ a = b := by
  cases a
  cases b
  simp

@[simp] theorem workerKey_inj {a b : WorkerId} : workerKey a = workerKey b ↔ a = b := by
  simp [workerKey, WorkerId.ulid_inj]

@[simp] theorem heartbeatKey_inj {a b : WorkerId} : heartbeatKey a = heartbeatKey b ↔ a = b := by
  simp [heartbeatKey, WorkerId.ulid_inj]

@[simp] theorem workerKey_ne_heartbeatKey (a b : WorkerId) : workerKey a ≠ heartbeatKey b := by
  simp [workerKey, heartbeatKey]

@[simp] theorem heartbeatKey_ne_workerKey (a b : WorkerId) : heartbeatKey a ≠ workerKey b :=
  (workerKey_ne_heartbeatKey b a).symm

@[simp] theorem keyHasPrefix_heartbeatKey (id : WorkerId) :
    keyHasPrefix (heartbeatKey id) heartbeatsPrefix = true := by
  simp [keyHasPrefix, heartbeatKey, heartbeatsPrefix]

@[simp] theorem keyHasPrefix_workerKey (id : WorkerId) :
    keyHasPrefix (workerKey id) heartbeatsPrefix = false := by
  simp [keyHasPrefix, workerKey, heartbeatsPrefix]

/-- Source: `rollout-coordinator/src/registry.rs` `state_to_i32`. Kind: D -/
def stateToI32 : WorkerState → BitVec 32
  | .init => 1
  | .ready => 2
  | .running => 3
  | .draining => 4

/-- The row a heartbeat writes.
Source: `rollout-coordinator/src/heartbeat.rs` `heartbeat` (`rec`). Kind: D -/
def HeartbeatRecord.of (hb : Heartbeat) (receivedAt : SystemTime) : HeartbeatRecord where
  workerId := hb.workerId.ulid.display
  runId := hb.runId.ulid.display
  state := stateToI32 hb.state
  dueAtMs := SystemTime.toMs hb.dueAt
  receivedAtMs := SystemTime.toMs receivedAt

/-- Whether a scan at `now` finds the worker of a row overdue; a panic when the stored deadline is
no time. Source: `rollout-coordinator/src/failure_scan.rs` `scan_once`. Kind: D -/
def HeartbeatRecord.isOverdue (rec : HeartbeatRecord) (now : SystemTime)
    (skew coordTimeout : Duration) : Option Bool :=
  (msToSystime rec.dueAtMs).map fun due => isFailed now due skew coordTimeout

/-- The row of a heartbeat never ends a scan.
Source: `rollout-coordinator/src/failure_scan.rs` `scan_once`. Kind: L -/
theorem HeartbeatRecord.isOverdue_of (hb : Heartbeat) (receivedAt now : SystemTime)
    (skew coordTimeout : Duration) :
    ∃ due : SystemTime, hb.dueAt.nanos < due.nanos + milliNanos ∧
      (HeartbeatRecord.of hb receivedAt).isOverdue now skew coordTimeout =
        some (isFailed now due skew coordTimeout) := by
  obtain ⟨due, hdue, hlt, -⟩ := msToSystime_toMs hb.dueAt
  refine ⟨due, hlt, ?_⟩
  show (msToSystime (SystemTime.toMs hb.dueAt)).map _ = _
  rw [hdue]
  rfl

/-! ## Self-fencing comes first -/

/-- **A worker has fenced itself before the coordinator gives up on it**: under an accepted
configuration in whole milliseconds, with clocks that differ by no more than the budget, when a scan
finds the row of a worker's last heartbeat overdue, more than the self-fencing timeout has passed on
the worker's clock since it sent that heartbeat.
Source: `rollout-transport/src/config.rs` `validate_cross_fields`, `health.rs`,
`rollout-coordinator/src/heartbeat.rs` `heartbeat`, `failure_scan.rs` `scan_once`. Kind: C -/
theorem self_fenced_before_failed {T : Type} {cfg : TransportConfig} (hms : cfg.WholeMillis)
    (hvalid : cfg.validateCrossFields = some (.ok ())) {worker coord : T → SystemTime}
    (hskew : ∀ t, ((worker t).nanos - (coord t).nanos).natAbs ≤ cfg.clockSkewBudget.nanos)
    {sent scanned : T} {hb : Heartbeat} {receivedAt : SystemTime}
    (hdue : nextDueAt (worker sent) cfg.heartbeatInterval = some hb.dueAt)
    (hfailed : (HeartbeatRecord.of hb receivedAt).isOverdue (coord scanned) cfg.clockSkewBudget
      cfg.coordinatorFailureTimeout = some true) :
    (cfg.workerSelfFenceTimeout.nanos : Int) < (worker scanned).nanos - (worker sent).nanos := by
  obtain ⟨hfence, slack, hslack, hbudget⟩ := TransportConfig.validateCrossFields_ok hvalid
  -- the truncation of the stored deadline costs less than the millisecond the skew leaves
  have hgap := Duration.millis_gap hms.skew (hms.interval.mul hslack) hbudget
  have hslackNanos := Duration.mul_eq_some hslack
  obtain ⟨due, htrunc, hover⟩ := HeartbeatRecord.isOverdue_of hb receivedAt (coord scanned)
    cfg.clockSkewBudget cfg.coordinatorFailureTimeout
  rw [hfailed] at hover
  obtain ⟨-, hpast⟩ := isFailed_iff.mp (Option.some.inj hover).symm
  have hsent := nanos_nextDueAt hdue
  have hclocks := hskew scanned
  omega

/-- With the defaults, a heartbeat sent at the epoch and a scan seven seconds later.
Source: `rollout-transport/src/config.rs` `defaults`. Kind: L -/
theorem self_fenced_before_failed_default :
    (TransportConfig.default.workerSelfFenceTimeout.nanos : Int) <
      (SystemTime.ofSecs 7).nanos - (SystemTime.ofSecs 0).nanos :=
  @self_fenced_before_failed Bool .default ⟨by decide, by decide, by decide, by decide⟩ rfl
    (fun t => cond t (.ofSecs 7) (.ofSecs 0)) (fun t => cond t (.ofSecs 7) (.ofSecs 0)) (by decide)
    false true ⟨⟨⟨1⟩⟩, ⟨⟨7⟩⟩, .running, .ofSecs 1⟩ (.ofSecs 0) rfl rfl

end Rollout.Coordinator
