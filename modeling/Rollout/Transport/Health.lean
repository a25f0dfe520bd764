import Mathlib.Algebra.Group.Int.Defs
import Mathlib.Algebra.Group.Nat.Defs
import Mathlib.Logic.Basic

/-!
# Deadlines and the timing configuration

* `Duration`, `SystemTime` — nanoseconds, in the ranges of the platform's types. An operation that
  leaves its range is a panic, written `none`.
* `nextDueAt`, `isFailed` — the deadline a worker promises its next heartbeat by, and when the
  coordinator gives up on it.
* `TransportConfig.validateCrossFields` — the two inequalities between the timeouts.
  `Duration.millis_gap` is what the second one leaves in whole milliseconds.
-/

set_option linter.unusedSectionVars false

namespace Rollout.Transport

/-! ## Time -/

/-- Nanoseconds in a second. Source: none: infrastructure. Kind: D -/
abbrev secNanos : Nat := 1000000000

/-- Nanoseconds in a millisecond. Source: none: infrastructure. Kind: D -/
abbrev milliNanos : Nat := 1000000

/-- A span of time: 64-bit seconds and nanoseconds below a second.
Source: `rollout-transport/src/health.rs` (`std::time::Duration`). Kind: D -/
structure Duration where
  /-- Its nanoseconds. -/
  nanos : Nat
  nanos_lt : nanos < 2 ^ 64 * secNanos
deriving DecidableEq

namespace Duration

theorem millis_lt (ms : BitVec 64) : milliNanos * ms.toNat < 2 ^ 64 * secNanos := by
  have := ms.isLt
  unfold milliNanos secNanos
  omega

/-- Source: `rollout-transport/src/config.rs` (`Duration::from_millis`). Kind: D -/
def fromMillis (ms : BitVec 64) : Duration := ⟨milliNanos * ms.toNat, millis_lt ms⟩

/-- A multiple; a panic when it is out of range.
Source: `rollout-transport/src/health.rs` (`hb_interval * 2`). Kind: D -/
def mul (d : Duration) (n : Nat) : Option Duration :=
  if h : d.nanos * n < 2 ^ 64 * secNanos then some ⟨d.nanos * n, h⟩ else none

theorem mul_eq_some {d e : Duration} {n : Nat} (h : d.mul n = some e) : e.nanos = d.nanos * n := by
  unfold mul at h
  split at h
  · rw [← Option.some.inj h]
  · cases h

/-- The span is a whole number of milliseconds. Source: none: infrastructure. Kind: D -/
def WholeMillis (d : Duration) : Prop := milliNanos ∣ d.nanos

instance (d : Duration) : Decidable d.WholeMillis := inferInstanceAs (Decidable (_ ∣ _))

/-- Spans in whole milliseconds that differ, differ by a millisecond.
Source: none: infrastructure. Kind: L -/
theorem millis_gap {d e : Duration} (hd : d.WholeMillis) (he : e.WholeMillis)
    (h : d.nanos < e.nanos) : d.nanos + milliNanos ≤ e.nanos := by
  obtain ⟨a, ha⟩ := hd
  obtain ⟨b, hb⟩ := he
  unfold milliNanos at *
  omega

theorem WholeMillis.mul {d e : Duration} {n : Nat} (hd : d.WholeMillis) (h : d.mul n = some e) :
    e.WholeMillis := by
  unfold WholeMillis
  rw [mul_eq_some h]
  exact Nat.dvd_mul_right_of_dvd hd n

end Duration

/-- A point in time: nanoseconds since the Unix epoch, with 64-bit signed seconds.
Source: `rollout-transport/src/health.rs` (`std::time::SystemTime`). Kind: D -/
structure SystemTime where
  /-- Its nanoseconds since the epoch. -/
  nanos : Int
  le_nanos : -(2 ^ 63 * secNanos) ≤ nanos
  nanos_lt : nanos < 2 ^ 63 * secNanos
deriving DecidableEq

namespace SystemTime

theorem add_bounds {t : SystemTime} {d : Duration}
    (h : (t.nanos + d.nanos).toNat < 2 ^ 63 * secNanos) :
    -(2 ^ 63 * (secNanos : Int)) ≤ t.nanos + d.nanos ∧ t.nanos + d.nanos < 2 ^ 63 * secNanos := by
  have := t.le_nanos
  unfold secNanos at *
  omega

/-- A later point in time; a panic when it is out of range.
Source: `rollout-transport/src/health.rs` (`now + …`). Kind: D -/
def add (t : SystemTime) (d : Duration) : Option SystemTime :=
  if h : (t.nanos + d.nanos).toNat < 2 ^ 63 * secNanos then
    some ⟨t.nanos + d.nanos, (add_bounds h).1, (add_bounds h).2⟩
  else none

theorem add_eq_some {t u : SystemTime} {d : Duration} (h : t.add d = some u) :
    u.nanos = t.nanos + d.nanos := by
  unfold add at h
  split at h
  · rw [← Option.some.inj h]
  · cases h

theorem since_lt (t earlier : SystemTime) :
    (t.nanos - earlier.nanos).toNat < 2 ^ 64 * secNanos := by
  have := t.nanos_lt
  have := earlier.le_nanos
  unfold secNanos at *
  omega

/-- The time since an earlier point; an error, `none`, when it is later.
Source: `rollout-transport/src/health.rs` (`duration_since`). Kind: D -/
def durationSince (t earlier : SystemTime) : Option Duration :=
  if earlier.nanos ≤ t.nanos then
    some ⟨(t.nanos - earlier.nanos).toNat, since_lt t earlier⟩
  else none

theorem epoch_bounds : -(2 ^ 63 * (secNanos : Int)) ≤ 0 ∧ (0 : Int) < 2 ^ 63 * secNanos := by
  unfold secNanos
  omega

/-- Source: `rollout-coordinator/src/registry.rs` (`UNIX_EPOCH`). Kind: D -/
def unixEpoch : SystemTime := ⟨0, epoch_bounds.1, epoch_bounds.2⟩

end SystemTime

theorem ofSecs_bounds (s : BitVec 62) : -(2 ^ 63 * (secNanos : Int)) ≤ (secNanos * s.toNat : Nat) ∧
    ((secNanos * s.toNat : Nat) : Int) < 2 ^ 63 * secNanos := by
  have := s.isLt
  unfold secNanos
  omega

/-- Seconds after the epoch. Source: none: infrastructure. Kind: D -/
def SystemTime.ofSecs (s : BitVec 62) : SystemTime :=
  ⟨(secNanos * s.toNat : Nat), (ofSecs_bounds s).1, (ofSecs_bounds s).2⟩

/-! ## Health -/

/-- The next heartbeat deadline, with one period of slack.
Source: `rollout-transport/src/health.rs` `next_due_at`. Kind: D -/
def nextDueAt (now : SystemTime) (hbInterval : Duration) : Option SystemTime := do
  let slack ← hbInterval.mul 2
  now.add slack

/-- Whether a worker is marked failed given its last deadline.
Source: `rollout-transport/src/health.rs` `is_failed`. Kind: D -/
def isFailed (now dueAt : SystemTime) (skew coordTimeout : Duration) : Bool :=
  match now.durationSince dueAt with
  | none => false
  | some elapsedPastDue =>
      decide (skew.nanos < elapsedPastDue.nanos) && decide (coordTimeout.nanos < elapsedPastDue.nanos)

/-- Source: `rollout-transport/src/health.rs` `next_due_at`. Kind: L -/
theorem nanos_nextDueAt {now due : SystemTime} {hbInterval : Duration}
    (h : nextDueAt now hbInterval = some due) : due.nanos = now.nanos + 2 * hbInterval.nanos := by
  obtain ⟨slack, hslack, hdue⟩ := Option.bind_eq_some_iff.mp h
  rw [SystemTime.add_eq_some hdue, Duration.mul_eq_some hslack]
  omega

/-- A worker is failed when both thresholds have passed.
Source: `rollout-transport/src/health.rs` `is_failed`. Kind: L -/
theorem isFailed_iff {now dueAt : SystemTime} {skew coordTimeout : Duration} :
    isFailed now dueAt skew coordTimeout = true ↔
      dueAt.nanos + skew.nanos < now.nanos ∧ dueAt.nanos + coordTimeout.nanos < now.nanos := by
  unfold isFailed SystemTime.durationSince
  by_cases h : dueAt.nanos ≤ now.nanos
  · rw [if_pos h]
    simp only [Bool.and_eq_true, decide_eq_true_eq]
    omega
  · rw [if_neg h]
    simp only [Bool.false_eq_true, false_iff]
    omega

/-! ## The timing configuration -/

/-- The timeouts of the transport.
Source: `rollout-transport/src/config.rs` `TransportConfig`. Kind: D -/
structure TransportConfig where
  /-- Heartbeat publish interval. -/
  heartbeatInterval : Duration
  /-- The worker fences itself after this long without a heartbeat. -/
  workerSelfFenceTimeout : Duration
  /-- The coordinator marks a worker failed this long past its deadline. -/
  coordinatorFailureTimeout : Duration
  /-- Allowed clock skew between worker and coordinator. -/
  clockSkewBudget : Duration
deriving DecidableEq

namespace TransportConfig

/-- Source: `rollout-transport/src/config.rs` `defaults`. Kind: D -/
def default : TransportConfig where
  heartbeatInterval := .fromMillis 500
  workerSelfFenceTimeout := .fromMillis 4000
  coordinatorFailureTimeout := .fromMillis 5000
  clockSkewBudget := .fromMillis 250

/-- Source: `rollout-transport/src/config.rs` `validate_cross_fields`. Kind: D -/
def selfFenceMsg : String :=
  "transport.worker_self_fence_timeout must be strictly less than " ++
    "transport.coordinator_failure_timeout (split-brain prevention)"

/-- Source: `rollout-transport/src/config.rs` `validate_cross_fields`. Kind: D -/
def skewMsg : String :=
  "transport.clock_skew_budget must be less than 2 × transport.heartbeat_interval"

/-- Plan-time invariants. Source: `rollout-transport/src/config.rs` `validate_cross_fields`.
Kind: D -/
def validateCrossFields (cfg : TransportConfig) : Option (Except (List String) Unit) := do
  let errs := if cfg.workerSelfFenceTimeout.nanos ≥ cfg.coordinatorFailureTimeout.nanos then
    [selfFenceMsg] else []
  let slack ← cfg.heartbeatInterval.mul 2
  let errs := if cfg.clockSkewBudget.nanos ≥ slack.nanos then errs ++ [skewMsg] else errs
  if errs.isEmpty then return .ok () else return .error errs

/-- **An accepted configuration meets both inequalities.**
Source: `rollout-transport/src/config.rs` `validate_cross_fields`. Kind: L -/
theorem validateCrossFields_ok {cfg : TransportConfig}
    (h : cfg.validateCrossFields = some (.ok ())) :
    cfg.workerSelfFenceTimeout.nanos < cfg.coordinatorFailureTimeout.nanos ∧
      ∃ slack, cfg.heartbeatInterval.mul 2 = some slack ∧ cfg.clockSkewBudget.nanos < slack.nanos := by
  obtain ⟨slack, hslack, hrest⟩ := Option.bind_eq_some_iff.mp h
  by_cases hfence : cfg.workerSelfFenceTimeout.nanos ≥ cfg.coordinatorFailureTimeout.nanos
  · by_cases hskew : cfg.clockSkewBudget.nanos ≥ slack.nanos <;> simp [hfence, hskew] at hrest
  · by_cases hskew : cfg.clockSkewBudget.nanos ≥ slack.nanos
    · simp [hfence, hskew] at hrest
    · exact ⟨Nat.lt_of_not_le hfence, slack, hslack, Nat.lt_of_not_le hskew⟩

/-- The timeouts are whole numbers of milliseconds. Source: none: infrastructure. Kind: D -/
structure WholeMillis (cfg : TransportConfig) : Prop where
  interval : cfg.heartbeatInterval.WholeMillis
  fence : cfg.workerSelfFenceTimeout.WholeMillis
  failure : cfg.coordinatorFailureTimeout.WholeMillis
  skew : cfg.clockSkewBudget.WholeMillis

/-- The defaults are accepted. Source: `rollout-transport/src/config.rs` `defaults`. Kind: L -/
theorem default_valid : default.validateCrossFields = some (.ok ()) := rfl

end TransportConfig

end Rollout.Transport
