import Rollout.Core.Storage

/-!
# The coordinator lease

`StorageLease` over the generic storage: a single `coordinator_lease` row taken and renewed by
compare-and-swap on its exact bytes, and the authoritative `epoch` row stamped in the same
transaction on every win.

* `tryAcquire`, `renew`, `current` — the operations, as programs: the row is read through the
  handle, the claim is one transaction (`commitClaim`). The clock value is an argument.
* `currentEpoch` — what a restarting coordinator reads.
* `LeaseCall` — one call by one coordinator; a system is any number of them.
-/

set_option linter.unusedSectionVars false

namespace Rollout.Coordinator

open Rollout.Lib Rollout.Core

/-! ## Records and rows -/

/-- Monotonic epoch. Source: `rollout-core/src/traits/lease.rs` `CoordEpoch`. Kind: D -/
structure CoordEpoch where
  /-- The raw counter. -/
  raw : BitVec 64
deriving DecidableEq

/-- The lease row. Source: `rollout-core/src/traits/lease.rs` `LeaseRecord`. Kind: D -/
structure LeaseRecord where
  /-- The coordinator that holds the lease. -/
  holder : WorkerId
  /-- The epoch it holds. -/
  epoch : CoordEpoch
  /-- Wall-clock deadline, Unix milliseconds. -/
  expiresAtMs : BitVec 128
deriving DecidableEq

/-- An epoch on the wire. Source: `rollout-core/src/traits/lease.rs` `CoordEpoch`. Kind: D -/
def CoordEpoch.codec : Codec CoordEpoch :=
  Codec.u64.refine (fun x => some ⟨x⟩) CoordEpoch.raw fun _ => rfl

/-- A lease record on the wire.
Source: `rollout-core/src/traits/lease.rs` `LeaseRecord`. Kind: D -/
def LeaseRecord.codec : Codec LeaseRecord :=
  (WorkerId.codec.prod (CoordEpoch.codec.prod Codec.u128)).refine
    (fun x => some ⟨x.1, x.2.1, x.2.2⟩) (fun r => (r.holder, r.epoch, r.expiresAtMs)) fun _ => rfl

namespace Lease

/-- The row of the lease. Source: `rollout-coordinator/src/lease.rs` `lease_key`. Kind: D -/
def leaseKey (runId : RunId) : StorageKey := ⟨"coordinator_lease", some runId, []⟩

/-- The authoritative epoch row.
Source: `rollout-coordinator/src/lease.rs` `epoch_key`. Kind: D -/
def epochKey (runId : RunId) : StorageKey := ⟨"epoch", some runId, []⟩

theorem epochKey_ne_leaseKey (runId : RunId) : epochKey runId ≠ leaseKey runId := by
  simp [epochKey, leaseKey]

/-- Source: `rollout-coordinator/src/lease.rs` `encode`. Kind: D -/
def encode (rec : LeaseRecord) : Bytes := LeaseRecord.codec.enc rec

/-- Source: `rollout-coordinator/src/lease.rs` `decode`. Kind: D -/
def decode (bytes : Bytes) : Except CoreError LeaseRecord :=
  match LeaseRecord.codec.fromBytes bytes with
  | some rec => .ok rec
  | none => .error (.internal "")

@[simp] theorem decode_encode (rec : LeaseRecord) : decode (encode rec) = .ok rec := by
  unfold decode encode
  rw [Codec.fromBytes_enc]

@[simp] theorem encode_inj {a b : LeaseRecord} : encode a = encode b ↔ a = b :=
  Codec.enc_inj LeaseRecord.codec

/-! ## Operations -/

/-- Swap the lease row and, on a win, stamp the epoch row in the same transaction.
Source: `rollout-coordinator/src/lease.rs` `commit_claim`. Kind: D -/
def commitClaim {m : Type → Type} [Monad m] [StorageTxn m] (runId : RunId)
    (expected : Option Bytes) (next : LeaseRecord) : m Bool := do
  let new := encode next
  let won ← StorageTxn.casBytes (leaseKey runId) expected (some new)
  if won then
    StorageTxn.putBytes (epochKey runId) (CoordEpoch.codec.enc next.epoch)
    StorageTxn.commit
  else
    StorageTxn.abort
  return won

/-- The one transaction of the lease. Source: `rollout-coordinator/src/lease.rs`. Kind: D -/
structure Claim where
  /-- The exact prior bytes, or none for a fresh row. -/
  expected : Option Bytes
  /-- The record to write. -/
  next : LeaseRecord

/-- The transactions of the lease of a run.
Source: `rollout-coordinator/src/lease.rs` `commit_claim`. Kind: D -/
@[reducible] def txns (runId : RunId) : Txns StorageKey Bytes where
  Name := Claim
  Resp _ := Bool
  body c := commitClaim runId c.expected c.next

/-- Programs of the lease. Source: none: infrastructure. Kind: D -/
abbrev LeaseM (runId : RunId) := Prog (Store.iface (txns runId) CoreError) CoreError

/-- Run the claim. Source: `rollout-coordinator/src/lease.rs` `commit_claim`. Kind: D -/
def claim (runId : RunId) (expected : Option Bytes) (next : LeaseRecord) : LeaseM runId Bool :=
  Store.ask (T := txns runId) (.txn ⟨expected, next⟩)

/-- Acquire a fresh lease or steal an expired one; `claim` runs the transaction.
Source: `rollout-coordinator/src/lease.rs` `try_acquire`. Kind: D -/
def tryAcquire {I : Iface} [Storage (Prog I CoreError)] (runId : RunId)
    (claim : Option Bytes → LeaseRecord → Prog I CoreError Bool) (me : WorkerId)
    (ttlMs now : BitVec 128) : Prog I CoreError (Option LeaseRecord) := do
  match ← Storage.getBytes (leaseKey runId) with
  | none =>
      let next : LeaseRecord := ⟨me, ⟨0⟩, now + ttlMs⟩
      let won ← claim none next
      return if won then some next else none
  | some prior =>
      let cur ← Prog.ofExcept (decode prior)
      if cur.expiresAtMs < now then
        let next : LeaseRecord := ⟨me, ⟨cur.epoch.raw + 1⟩, now + ttlMs⟩
        let won ← claim (some prior) next
        return if won then some next else none
      else return none

/-- The incumbent's heartbeat. Source: `rollout-coordinator/src/lease.rs` `renew`. Kind: D -/
def renew (runId : RunId) (held : LeaseRecord) (ttlMs now : BitVec 128) : LeaseM runId Bool :=
  let next : LeaseRecord := ⟨held.holder, held.epoch, now + ttlMs⟩
  claim runId (some (encode held)) next

/-- Source: `rollout-coordinator/src/lease.rs` `current`. Kind: D -/
def current (runId : RunId) : LeaseM runId (Option LeaseRecord) := do
  match ← Storage.getBytes (leaseKey runId) with
  | some bytes => some <$> Prog.ofExcept (decode bytes)
  | none => return none

/-- The authoritative epoch; zero when nobody has claimed the lease.
Source: `rollout-coordinator/src/epoch.rs` `current_epoch`. Kind: D -/
def currentEpoch (runId : RunId) : LeaseM runId CoordEpoch := do
  match ← Storage.getBytes (epochKey runId) with
  | some bytes =>
      match CoordEpoch.codec.fromBytes bytes with
      | some epoch => return epoch
      | none => .err (.postcardDecode "CoordEpoch")
  | none => return ⟨0⟩

/-! ## Calls -/

/-- One call by one coordinator, with what its clock shows.
Source: `rollout-coordinator/src/lease.rs` `CoordinatorLease`. Kind: D -/
inductive LeaseCall
  | tryAcquire (me : WorkerId) (ttlMs now : BitVec 128)
  | renew (held : LeaseRecord) (ttlMs now : BitVec 128)
  | current
  | currentEpoch
deriving DecidableEq

/-- What a call returns. Source: `rollout-coordinator/src/lease.rs`. Kind: D -/
def LeaseCall.Out : LeaseCall → Type
  | .tryAcquire .. => Option LeaseRecord
  | .renew .. => Bool
  | .current => Option LeaseRecord
  | .currentEpoch => CoordEpoch

/-- The code a call runs. Source: `rollout-coordinator/src/lease.rs`. Kind: D -/
def LeaseCall.prog (runId : RunId) : (c : LeaseCall) → LeaseM runId c.Out
  | .tryAcquire me ttlMs now => Lease.tryAcquire runId (claim runId) me ttlMs now
  | .renew held ttlMs now => Lease.renew runId held ttlMs now
  | .current => Lease.current runId
  | .currentEpoch => Lease.currentEpoch runId

end Lease

end Rollout.Coordinator
