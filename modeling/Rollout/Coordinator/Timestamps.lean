import Rollout.Coordinator.Registry

/-!
# The time stamps of heartbeats

* `Timestamp` — what a peer sends; `prostToSystem`, `systemToProst` — from and to a time. A sum that
  leaves the range of the platform is a panic, written `none`.
* `Handled` — a deadline arrives and is stored, and a stored deadline is read, without a panic, and a
  valid deadline is read back to the millisecond. `handled_iff`: the deadlines for which this is so.
-/

set_option linter.unusedSectionVars false

namespace Rollout.Coordinator

open Rollout.Lib Rollout.Core Rollout.Transport

/-! ## Conversions -/

/-- Source: `rollout-transport/src/channels/heartbeat.rs` (`prost_types::Timestamp`). Kind: D -/
structure Timestamp where
  /-- Seconds since the epoch, an `i64`. -/
  seconds : BitVec 64
  /-- Nanoseconds, an `i32`. -/
  nanos : BitVec 32
deriving DecidableEq

/-- An unsigned number of a width. Source: `rollout-transport/src/channels/heartbeat.rs`
(`u64::try_from`, `u32::try_from`). Kind: D -/
def tryUnsigned (w : Nat) (x : Int) : Option (BitVec w) :=
  if 0 ≤ x ∧ x < 2 ^ w then some (BitVec.ofInt w x) else none

/-- A signed number of a width. Source: `rollout-transport/src/channels/heartbeat.rs`
(`i64::try_from`, `i32::try_from`). Kind: D -/
def trySigned (w n : Nat) : Option (BitVec w) :=
  if n < 2 ^ (w - 1) then some (BitVec.ofNat w n) else none

/-- A time span of seconds and nanoseconds; a panic when it is out of range.
Source: `rollout-transport/src/channels/heartbeat.rs` (`Duration::new`). Kind: D -/
def durationNew (secs : BitVec 64) (nanos : BitVec 32) : Option Duration :=
  if h : secNanos * secs.toNat + nanos.toNat < 2 ^ 64 * secNanos then
    some ⟨secNanos * secs.toNat + nanos.toNat, h⟩
  else none

/-- Source: `rollout-transport/src/channels/heartbeat.rs` `prost_to_system`. Kind: D -/
def prostToSystem (t : Timestamp) : Option SystemTime := do
  let secs := (tryUnsigned 64 (max t.seconds.toInt 0)).getD 0
  let nanos := (tryUnsigned 32 (max t.nanos.toInt 0)).getD 0
  SystemTime.unixEpoch.add (← durationNew secs nanos)

/-- Source: `rollout-transport/src/channels/heartbeat.rs` `system_to_prost`. Kind: D -/
def systemToProst (t : SystemTime) : Timestamp :=
  let d := (t.durationSince .unixEpoch).getD (.fromMillis 0)
  { seconds := (trySigned 64 (d.nanos / secNanos)).getD (BitVec.intMax 64)
    nanos := (trySigned 32 (d.nanos % secNanos)).getD 0 }

/-! ## Deadlines -/

/-- A deadline is valid: it is not before the epoch and has less than a second of nanoseconds.
Source: none: infrastructure. Kind: D -/
def Timestamp.Valid (t : Timestamp) : Prop :=
  0 ≤ t.seconds.toInt ∧ 0 ≤ t.nanos.toInt ∧ t.nanos.toInt < secNanos

/-- The deadline as sent, to the millisecond. Source: none: infrastructure. Kind: D -/
def Timestamp.toMillis (t : Timestamp) : Timestamp :=
  { t with nanos := BitVec.ofInt 32 (t.nanos.toInt / milliNanos * milliNanos) }

/-- **A deadline is read back to the millisecond.** Source: `rollout-coordinator/src/heartbeat.rs`
`heartbeat` (`due_at_ms`), `registry.rs` `ms_to_systime`. Kind: D -/
def Lossless (t : Timestamp) : Prop :=
  ∃ u v, prostToSystem t = some u ∧ u.nanos = secNanos * t.seconds.toInt + t.nanos.toInt ∧
    msToSystime (SystemTime.toMs u) = some v ∧ v.nanos / milliNanos = u.nanos / milliNanos ∧
    systemToProst v = t.toMillis

/-- **Deadlines are handled**: the one that is sent becomes a time and its milliseconds are exact,
and the one that is stored becomes a time; a valid one is read back to the millisecond.
Source: `rollout-transport/src/channels/heartbeat.rs` `prost_to_system`,
`rollout-coordinator/src/heartbeat.rs` `heartbeat` (`due_at_ms`), `registry.rs` `ms_to_systime`.
Kind: D -/
def Handled (sent : Timestamp) (stored : BitVec 128) : Prop :=
  (∃ u, prostToSystem sent = some u ∧ (SystemTime.toMs u).toNat = u.nanos.toNat / milliNanos) ∧
    (∃ v, msToSystime stored = some v) ∧ (sent.Valid → Lossless sent)

/-- The deadline as sent is in the range of the platform: its seconds, with those among its
nanoseconds, are an `i64`. Source: `rollout-transport/src/channels/heartbeat.rs` `prost_to_system`.
Kind: D -/
def Timestamp.Fits (t : Timestamp) : Prop :=
  max t.seconds.toInt 0 + max t.nanos.toInt 0 / secNanos < 2 ^ 63

/-- A number of milliseconds has seconds that are an `i64`, or more than 64 bits of them, which are
taken to be none. Source: `rollout-coordinator/src/registry.rs` `ms_to_systime`. Kind: D -/
def MsFits (ms : BitVec 128) : Prop := ms.toNat / 1000 < 2 ^ 63 ∨ 2 ^ 64 ≤ ms.toNat / 1000

section conversions

variable {t : Timestamp}

theorem toNat_tryUnsigned {w : Nat} {x : Int} (h0 : 0 ≤ x) (h : x < 2 ^ w) :
    ((tryUnsigned w x).getD 0).toNat = x.toNat := by
  rw [tryUnsigned, if_pos ⟨h0, h⟩, Option.getD_some, BitVec.toNat_ofInt]
  have hcast : ((2 ^ w : Nat) : Int) = 2 ^ w := by push_cast; rfl
  rw [hcast, Int.emod_eq_of_lt h0 h]

theorem seconds_bounds (t : Timestamp) : -2 ^ 63 ≤ t.seconds.toInt ∧ t.seconds.toInt < 2 ^ 63 :=
  ⟨BitVec.le_toInt t.seconds, BitVec.toInt_lt⟩

theorem nanos_bounds (t : Timestamp) : -2 ^ 31 ≤ t.nanos.toInt ∧ t.nanos.toInt < 2 ^ 31 :=
  ⟨BitVec.le_toInt t.nanos, BitVec.toInt_lt⟩

theorem toInt_of_nonneg {w : Nat} {x : BitVec w} (h : 0 ≤ x.toInt) : x.toInt = x.toNat := by
  have hlt := x.isLt
  rw [BitVec.toInt_eq_toNat_cond] at h ⊢
  split at h
  · next hsmall => rw [if_pos hsmall]
  · have hcast : ((2 ^ w : Nat) : Int) = 2 ^ w := by push_cast; rfl
    omega

/-- **When a deadline becomes a time**, and which. Source:
`rollout-transport/src/channels/heartbeat.rs` `prost_to_system`. Kind: P -/
theorem prostToSystem_eq (t : Timestamp) :
    (t.Fits ∧ ∃ u, prostToSystem t = some u ∧
      u.nanos = secNanos * max t.seconds.toInt 0 + max t.nanos.toInt 0) ∨
    ¬ t.Fits ∧ prostToSystem t = none := by
  obtain ⟨hs0, hs1⟩ := seconds_bounds t
  obtain ⟨hn0, hn1⟩ := nanos_bounds t
  have hsecs := toNat_tryUnsigned (w := 64) (x := max t.seconds.toInt 0) (by omega) (by omega)
  have hnanos := toNat_tryUnsigned (w := 32) (x := max t.nanos.toInt 0) (by omega) (by omega)
  have hrange : secNanos * ((tryUnsigned 64 (max t.seconds.toInt 0)).getD 0).toNat +
      ((tryUnsigned 32 (max t.nanos.toInt 0)).getD 0).toNat < 2 ^ 64 * secNanos := by
    rw [hsecs, hnanos]
    unfold secNanos
    omega
  have hsum : (SystemTime.unixEpoch.nanos +
      (secNanos * (max t.seconds.toInt 0).toNat + (max t.nanos.toInt 0).toNat : Nat) : Int) =
      secNanos * max t.seconds.toInt 0 + max t.nanos.toInt 0 := by
    unfold secNanos SystemTime.unixEpoch
    dsimp only
    omega
  unfold prostToSystem durationNew
  dsimp only
  rw [dif_pos hrange, Option.bind_eq_bind, Option.bind_some]
  unfold SystemTime.add
  simp only [hsecs, hnanos, hsum]
  unfold Timestamp.Fits
  by_cases hfits : max t.seconds.toInt 0 + max t.nanos.toInt 0 / secNanos < 2 ^ 63
  · refine .inl ⟨hfits, _, dif_pos ?_, rfl⟩
    unfold secNanos at *
    omega
  · refine .inr ⟨hfits, dif_neg ?_⟩
    unfold secNanos at *
    omega

/-- **When a number of milliseconds becomes a time.** Source: `rollout-coordinator/src/registry.rs`
`ms_to_systime`. Kind: P -/
theorem msToSystime_iff (ms : BitVec 128) : (∃ v, msToSystime ms = some v) ↔ MsFits ms := by
  have hmod := Nat.mod_lt ms.toNat (by decide : 0 < 1000)
  have hsecs : msSecs ms < 2 ^ 63 ↔ MsFits ms := by
    unfold msSecs MsFits
    split <;> omega
  unfold msToSystime SystemTime.add
  simp only [msSubNanos_eq, SystemTime.unixEpoch, Int.zero_add, Int.toNat_natCast]
  rw [← hsecs]
  by_cases hrange : msSecs ms < 2 ^ 63
  · refine iff_of_true ⟨_, dif_pos ?_⟩ hrange
    unfold secNanos milliNanos
    omega
  · refine iff_of_false ?_ hrange
    rintro ⟨v, hv⟩
    rw [dif_neg] at hv
    · cases hv
    · unfold secNanos milliNanos
      omega

/-- **A valid deadline is read back to the millisecond.** Source:
`rollout-transport/src/channels/heartbeat.rs` `prost_to_system`, `system_to_prost`,
`rollout-coordinator/src/registry.rs` `ms_to_systime`. Kind: P -/
theorem lossless_of_valid (h : t.Valid) : Lossless t := by
  obtain ⟨hs0, hs1⟩ := seconds_bounds t
  obtain ⟨hsec, hn0, hn1⟩ := h
  have hfits : t.Fits := by
    unfold Timestamp.Fits secNanos at *
    omega
  rcases prostToSystem_eq t with ⟨-, u, hu, hnanos⟩ | ⟨hnot, -⟩
  · rw [max_eq_left hsec, max_eq_left hn0] at hnanos
    obtain ⟨v, hv, -, hvnanos⟩ := msToSystime_toMs u
    refine ⟨u, v, hu, hnanos, hv, ?_, ?_⟩
    · rw [hvnanos]
      unfold secNanos milliNanos at *
      omega
    · have hv0 : 0 ≤ v.nanos := by
        rw [hvnanos]
        exact Int.natCast_nonneg _
      have hseconds : v.nanos.toNat / secNanos = t.seconds.toNat := by
        have hnat := toInt_of_nonneg hsec
        rw [hvnanos]
        unfold secNanos milliNanos at *
        omega
      have hrest : v.nanos.toNat % secNanos = t.nanos.toInt.toNat / milliNanos * milliNanos := by
        rw [hvnanos]
        unfold secNanos milliNanos at *
        omega
      have hnat := toInt_of_nonneg hsec
      unfold systemToProst SystemTime.durationSince
      rw [if_pos (show SystemTime.unixEpoch.nanos ≤ v.nanos from hv0)]
      simp only [Option.getD_some, SystemTime.unixEpoch, Int.sub_zero, hseconds, hrest]
      rw [trySigned, if_pos (by omega), trySigned, if_pos (by unfold secNanos milliNanos at *; omega)]
      unfold Timestamp.toMillis
      rw [Option.getD_some, Option.getD_some, BitVec.ofNat_toNat, BitVec.setWidth_eq,
        ← BitVec.ofInt_natCast]
      congr 2
      unfold milliNanos
      omega
  · exact absurd hfits hnot

/-- **When deadlines are handled.** Source: `rollout-transport/src/channels/heartbeat.rs`
`prost_to_system`, `rollout-coordinator/src/heartbeat.rs` `heartbeat` (`due_at_ms`), `registry.rs`
`ms_to_systime`. Kind: C -/
theorem handled_iff (sent : Timestamp) (stored : BitVec 128) :
    Handled sent stored ↔ sent.Fits ∧ MsFits stored := by
  constructor
  · rintro ⟨⟨u, hu, -⟩, hstored, -⟩
    refine ⟨?_, (msToSystime_iff stored).mp hstored⟩
    rcases prostToSystem_eq sent with ⟨hfits, -⟩ | ⟨-, hnone⟩
    · exact hfits
    · rw [hu] at hnone
      cases hnone
  · rintro ⟨hfits, hstored⟩
    refine ⟨?_, (msToSystime_iff stored).mpr hstored, lossless_of_valid⟩
    rcases prostToSystem_eq sent with ⟨-, u, hu, -⟩ | ⟨hnot, -⟩
    · exact ⟨u, hu, toNat_toMs u⟩
    · exact absurd hfits hnot

end conversions

/-- The last second, and a second of nanoseconds. Source: none: infrastructure. Kind: D -/
def lastSecond : Timestamp := ⟨BitVec.intMax 64, 1000000000#32⟩

/-- **A peer can send a deadline that ends the handler with a panic**, and a stored one can end the
scan with a panic. Source: `rollout-transport/src/channels/heartbeat.rs` `prost_to_system`,
`rollout-coordinator/src/registry.rs` `ms_to_systime`. Kind: C -/
theorem lastSecond_panics : prostToSystem lastSecond = none ∧
    msToSystime 9223372036854775808000#128 = none ∧ ¬ ∀ t ms, Handled t ms := by
  have hnone : prostToSystem lastSecond = none := by decide +kernel
  refine ⟨hnone, by decide +kernel, fun h => ?_⟩
  obtain ⟨⟨u, hu, -⟩, -⟩ := h lastSecond 0
  rw [hnone] at hu
  cases hu

end Rollout.Coordinator
