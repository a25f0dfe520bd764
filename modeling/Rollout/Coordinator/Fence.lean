import Rollout.Coordinator.Replay
import Rollout.Lib.Embed

/-!
# Coordinators that are fenced

A coordinator boots, then renews its lease in a loop while it writes the ledger. When a renewal
shows that it was deposed, it emits one event and aborts.

* `Fleet` — the rows they share, what each has adopted and which have aborted. `FleetOp` — the
  operations of a coordinator; one that has aborted performs none.
* `leaseRenewLoop` — the loop, a tick at a time; `Member` — what one is given; `deploy` — any
  number of them, each with its boot, its loop and its calls side by side.
* `Fenced` — nothing a coordinator writes commits once the lease was stolen from the epoch it
  adopted. No write of the ledger looks at the lease, so this holds exactly of the runs in which
  every write finds the adopted epoch still stored (`fenced_iff_held`).
-/

set_option linter.unusedSectionVars false

namespace Rollout.Coordinator.Fence

open Rollout.Lib Rollout.Core Rollout.Coordinator.Boot

section fleet

variable [Blake3] (runId : RunId) {κ : Type}

/-! ## Operations -/

/-- An event of a coordinator. Source: `rollout-coordinator/src/fence.rs` (`Event`). Kind: D -/
structure CoordinatorEvent where
  /-- Its topic. -/
  topic : String
  /-- The run. -/
  runId : RunId
  /-- Who emits it. -/
  workerId : WorkerId
  /-- What it says. -/
  message : String
  /-- The attribute `stale_epoch`. -/
  staleEpoch : CoordEpoch
  /-- The attribute `observed_epoch`. -/
  observedEpoch : CoordEpoch

/-- What a coordinator does. Source: `rollout-coordinator/src/run.rs`. Kind: D -/
inductive FleetOp
  /-- An operation on the storage by the lease. -/
  | lease (o : Store.Op (Lease.txns runId))
  /-- An operation on the storage by the ledger. -/
  | ledger (o : Store.Op (Ledger.txns runId))
  /-- Go on to serve under an epoch. -/
  | adopt (epoch : CoordEpoch)
  /-- Start a task once the coordinator serves. -/
  | serving
  /-- Wait for the next tick. -/
  | tick
  /-- Emit an event. -/
  | emit (event : CoordinatorEvent)
  /-- End the process. -/
  | abort

/-- What each answers. Source: `rollout-coordinator/src/run.rs`. Kind: D -/
@[reducible] def FleetOp.Resp : FleetOp runId → Type
  | .lease o => Except CoreError o.Out
  | .ledger o => Except CoreError o.Out
  | .adopt _ => Unit
  | .serving => CoordEpoch
  | .tick => Unit
  | .emit _ => Unit
  | .abort => Unit

/-- A transaction of the ledger. Source: none: infrastructure. Kind: D -/
def FleetOp.isLedger : FleetOp runId → Bool
  | .ledger (.txn _) => true
  | _ => false

/-- The interface of a coordinator. Source: none: infrastructure. Kind: D -/
@[reducible] def fleetIface : Iface := ⟨FleetOp runId, FleetOp.Resp runId⟩

/-- Programs of a coordinator. Source: none: infrastructure. Kind: D -/
abbrev FleetM := Prog (fleetIface runId) CoreError

/-- Programs of the lease among them. Source: none: infrastructure. Kind: D -/
def leaseEmbedding : Iface.Embedding (Store.iface (Lease.txns runId) CoreError) (fleetIface runId) where
  op o := .lease o
  resp _ r := r

/-- Programs of the ledger among them. Source: none: infrastructure. Kind: D -/
def ledgerEmbedding :
    Iface.Embedding (Store.iface (Ledger.txns runId) CoreError) (fleetIface runId) where
  op o := .ledger o
  resp _ r := r

/-! ## The code -/

/-- What a fenced coordinator should do.
Source: `rollout-coordinator/src/fence.rs` `FenceDecision`. Kind: D -/
inductive FenceDecision
  | abort

/-- Emit one event and decide to abort; whether it was emitted is ignored.
Source: `rollout-coordinator/src/fence.rs` `fence_old_coordinator`. Kind: D -/
def fenceOldCoordinator (coordId : WorkerId) (stale observed : CoordEpoch) :
    FleetM runId FenceDecision := do
  Prog.op (I := fleetIface runId) (.emit ⟨"coordinator_fenced", runId, coordId,
    "coordinator fenced: stale_epoch=" ++ toString stale.raw.toNat ++ " < observed_epoch=" ++
      toString observed.raw.toNat, stale, observed⟩)
  return .abort

/-- Fence and end the process. Source: `rollout-coordinator/src/run.rs` `spawn_lease_renew_loop`
(`std::process::abort`). Kind: D -/
def fenceAndAbort (coordId : WorkerId) (stale observed : CoordEpoch) : FleetM runId Unit := do
  match ← fenceOldCoordinator runId coordId stale observed with
  | .abort => Prog.op (I := fleetIface runId) .abort

/-- The epoch that is reported when a renewal was refused.
Source: `rollout-coordinator/src/run.rs` `spawn_lease_renew_loop` (`observed`). Kind: D -/
def observedEpoch (held : LeaseRecord) : Except CoreError (Option LeaseRecord) → CoordEpoch
  | .ok (some rec) => rec.epoch
  | _ => held.epoch

/-- The loop, as many ticks as the clock is read for. What cannot be read, or finds no lease, waits
for the next tick; a renewal that fails only warns.
Source: `rollout-coordinator/src/run.rs` `spawn_lease_renew_loop`. Kind: D -/
def leaseRenewLoop (me : WorkerId) (ttlMs : BitVec 128) (startEpoch : CoordEpoch) :
    List (BitVec 128) → FleetM runId Unit
  | [] => return ()
  | now :: nows => do
      Prog.op (I := fleetIface runId) .tick
      match ← ((Lease.current runId).embed (leaseEmbedding runId)).attempt with
      | .error _ => leaseRenewLoop me ttlMs startEpoch nows
      | .ok none => leaseRenewLoop me ttlMs startEpoch nows
      | .ok (some held) =>
          if held.holder ≠ me then fenceAndAbort runId me startEpoch held.epoch
          else
            match ← ((Lease.renew runId held ttlMs now).embed (leaseEmbedding runId)).attempt with
            | .ok true => leaseRenewLoop me ttlMs startEpoch nows
            | .ok false =>
                let seen ← ((Lease.current runId).embed (leaseEmbedding runId)).attempt
                fenceAndAbort runId me held.epoch (observedEpoch held seen)
            | .error _ => leaseRenewLoop me ttlMs startEpoch nows

/-! ## Coordinators -/

/-- What a coordinator is given: its identity, what its clock shows at boot and at each tick, and
what it is asked to write. Source: `rollout-coordinator/src/run.rs` `run`. Kind: D -/
structure Member where
  /-- Its identity. -/
  me : WorkerId
  /-- How long a lease runs. -/
  ttlMs : BitVec 128
  /-- The clock at boot. -/
  bootMs : BitVec 128
  /-- The clock at each tick. -/
  ticksMs : List (BitVec 128)
  /-- The calls it makes on the ledger. -/
  calls : ℕ → Ledger.LedgerCall

/-- What runs side by side in a coordinator. Source: `rollout-coordinator/src/run.rs` `run`.
Kind: D -/
inductive Role
  | boot
  | renew
  | call (n : ℕ)
deriving DecidableEq

/-- What each returns. Source: `rollout-coordinator/src/run.rs` `run`. Kind: D -/
@[reducible] def Member.Out (c : Member) : Role → Type
  | .boot => Option ReplayState
  | .renew => Unit
  | .call n => (c.calls n).Out

/-- Win the lease, replay the ledger and go on to serve.
Source: `rollout-coordinator/src/run.rs` `run`. Kind: D -/
def Member.boot (c : Member) : FleetM runId (Option ReplayState) := do
  match ← (replayAndServe runId (Lease.claim runId) c.me c.ttlMs c.bootMs).embed
      (leaseEmbedding runId) with
  | none => return none
  | some replayed =>
      Prog.op (I := fleetIface runId) (.adopt replayed.epoch)
      return some replayed

/-- The code of each. Source: `rollout-coordinator/src/run.rs` `run`. Kind: D -/
def Member.prog (c : Member) : (role : Role) → FleetM runId (c.Out role)
  | .boot => c.boot runId
  | .renew => do
      let startEpoch ← Prog.op (I := fleetIface runId) .serving
      leaseRenewLoop runId c.me c.ttlMs startEpoch c.ticksMs
  | .call n => do
      let _ ← Prog.op (I := fleetIface runId) .serving
      ((c.calls n).prog runId).embed (ledgerEmbedding runId)

/-! ## The fleet -/

/-- The storage the coordinators share, and what each of them is at. Source: none: infrastructure.
Kind: D -/
structure Fleet (κ : Type) where
  /-- The rows. -/
  rows : Rows
  /-- The epoch each serves under. -/
  adopted : κ → Option CoordEpoch
  /-- The coordinators that have ended. -/
  aborted : κ → Bool

/-- What becomes of an operation on the storage; `lost` is an error of one that took effect.
Source: `rollout-core/src/traits/storage.rs` `StorageTxn::commit`. Kind: D -/
inductive Outcome
  | done
  | failed (e : CoreError)
  | lost (e : CoreError)

/-- What the caller is told. Source: `rollout-core/src/traits/storage.rs` `StorageTxn::commit`.
Kind: D -/
def Outcome.answer {α : Type} (a : α) : Outcome → Except CoreError α
  | .done => .ok a
  | .failed e => .error e
  | .lost e => .error e

/-- The rows that are left. Source: `rollout-core/src/traits/storage.rs` `StorageTxn::commit`.
Kind: D -/
def Outcome.leaves (before after : Rows) : Outcome → Rows
  | .failed _ => before
  | _ => after

variable [DecidableEq κ]

/-- **The fleet.** The environment decides which operations on the storage fail; the tasks of a
coordinator that has ended do nothing. Source: none: infrastructure. Kind: D -/
@[reducible] def fleetMachine (κ : Type) [DecidableEq κ] :
    Machine (fleetIface runId) (κ × Role) (Fleet κ) where
  Choice := Outcome
  exec ch i o s :=
    if s.aborted i.1 = true then none
    else
      match o with
      | .lease o =>
          let done := Store.perform o s.rows
          some (ch.answer done.1, { s with rows := ch.leaves s.rows done.2 })
      | .ledger o =>
          let done := Store.perform o s.rows
          some (ch.answer done.1, { s with rows := ch.leaves s.rows done.2 })
      | .adopt epoch =>
          some ((), { s with adopted := Function.update s.adopted i.1 (some epoch) })
      | .serving => (s.adopted i.1).map fun epoch => (epoch, s)
      | .tick => some ((), s)
      | .emit _ => some ((), s)
      | .abort => some ((), { s with aborted := Function.update s.aborted i.1 true })
  Tick := Empty
  tick t := t.elim

/-- Any number of coordinators over some rows.
Source: `rollout-coordinator/src/run.rs` `run`. Kind: D -/
def deploy (fleet : κ → Member) (s : Rows) :
    Config (fleetIface runId) CoreError (Fleet κ) fun i : κ × Role => (fleet i.1).Out i.2 :=
  ⟨⟨s, fun _ => none, fun _ => false⟩, fun i => (fleet i.1).prog runId i.2⟩

/-- An operation of a coordinator and what it did. Source: none: infrastructure. Kind: D -/
abbrev FleetEvent (κ : Type) := Event (fleetIface runId) (κ × Role) (Fleet κ)

/-! ## What is claimed -/

/-- The event takes the lease to an epoch it did not carry.
Source: `rollout-coordinator/src/lease.rs` `try_acquire`. Kind: D -/
def Takes (epoch : CoordEpoch) (e : FleetEvent runId κ) : Prop :=
  (∃ rec, Lease.stored runId e.post.rows = some rec ∧ rec.epoch = epoch) ∧
    ∀ rec, Lease.stored runId e.pre.rows = some rec → rec.epoch ≠ epoch

/-- The event commits a write of the ledger or of the queue, as its answer or the rows show.
Source: `rollout-coordinator/src/ledger.rs`, `work_item.rs`, `steal.rs`. Kind: D -/
def Commits (e : FleetEvent runId κ) : Prop :=
  match e with
  | ⟨_, .ledger (.txn t), r, s, s'⟩ =>
      Ledger.Effect runId t s.rows s'.rows ∧ ((∃ a, r = .ok a) ∨ s'.rows ≠ s.rows)
  | _ => False

/-- **A deposed coordinator writes nothing**: no write commits of a coordinator whose adopted epoch
is below one the lease was taken to before.
Source: `rollout-coordinator/src/fence.rs` (module documentation). Kind: D -/
def Fenced (tr : List (FleetEvent runId κ)) : Prop :=
  ∀ tr₁ w tr₂, tr = tr₁ ++ w :: tr₂ → Commits runId w → ∀ x ∈ tr₁, ∀ epoch, Takes runId epoch x →
    ∀ adopted, w.pre.adopted w.who.1 = some adopted → ¬ adopted.raw < epoch.raw

/-- The lease still carries the epoch the coordinator adopted. Source: none: infrastructure.
Kind: D -/
def StillHeld (s : Fleet κ) (c : κ) : Prop :=
  ∀ adopted, s.adopted c = some adopted →
    ∃ rec, Lease.stored runId s.rows = some rec ∧ rec.epoch = adopted

end fleet

/-! ## The epoch only advances -/

section advance

variable [Blake3] {runId : RunId}

/-- The stored epoch of `s'` is not below that of `s`. Source: none: infrastructure. Kind: D -/
def Advances (runId : RunId) (s s' : Rows) : Prop :=
  ∀ rec, Lease.stored runId s = some rec →
    ∃ rec', Lease.stored runId s' = some rec' ∧ rec.epoch.raw ≤ rec'.epoch.raw

theorem advances_of_stored {s s' : Rows} (h : Lease.stored runId s' = Lease.stored runId s) :
    Advances runId s s' := by
  intro rec hrec
  exact ⟨rec, h.trans hrec, BitVec.le_refl _⟩

/-- What a claim starts from: no row, or a record whose epoch it keeps or follows.
Source: `rollout-coordinator/src/lease.rs` `try_acquire`, `renew`. Kind: D -/
def Legit (t : Lease.Claim) : Prop :=
  t.expected = none ∨ ∃ prior cur, t.expected = some prior ∧ Lease.decode prior = .ok cur ∧
    (t.next.epoch.raw = cur.epoch.raw + 1 ∨ t.next.epoch = cur.epoch)

theorem fromBytes_of_decode {prior : Bytes} {cur : LeaseRecord} (h : Lease.decode prior = .ok cur) :
    LeaseRecord.codec.fromBytes prior = some cur := by
  unfold Lease.decode at h
  split at h
  · next rec hrec => rw [hrec, Except.ok.inj h]
  · cases h

/-- **A claim advances the epoch**, short of the end of its width.
Source: `rollout-coordinator/src/lease.rs` `commit_claim`. Kind: L -/
theorem advances_claim {t : Lease.Claim} (ht : Legit t) {s : Rows}
    (hfits : Lease.EpochFits runId s) :
    Advances runId s (atomically (Lease.commitClaim runId t.expected t.next) s).2 := by
  rw [Lease.atomically_commitClaim]
  split
  · next hwon =>
    intro rec hrec
    refine ⟨t.next, Lease.stored_of_row runId (Lease.rows_after_win runId s t.next).1, ?_⟩
    rcases ht with hnone | ⟨prior, cur, hprior, hdec, hnext⟩
    · rw [Lease.stored_of_none runId (hwon.trans hnone)] at hrec
      cases hrec
    · have hcur : Lease.stored runId s = some cur := by
        unfold Lease.stored
        rw [hwon, hprior, Option.bind_some, fromBytes_of_decode hdec]
      obtain rfl : cur = rec := Option.some.inj (hcur.symm.trans hrec)
      rcases hnext with hsucc | hsame
      · have hlt := hfits cur hcur
        have hone : (1 : BitVec 64).toNat = 1 := rfl
        rw [hsucc, BitVec.le_def, BitVec.toNat_add, hone, Nat.mod_eq_of_lt hlt]
        exact Nat.le_succ _
      · rw [hsame]
        exact BitVec.le_refl _
  · exact advances_of_stored rfl

theorem leaseKey_not_inQueue : Ledger.inQueue runId (Lease.leaseKey runId) = false := by
  simp [Ledger.inQueue, keyHasPrefix, Lease.leaseKey, Ledger.queuePrefix]

theorem stored_congr {s s' : Rows}
    (h : s'.get (Lease.leaseKey runId) = s.get (Lease.leaseKey runId)) :
    Lease.stored runId s' = Lease.stored runId s := by
  unfold Lease.stored
  rw [h]

theorem leaseKey_ne_workKey (id : ContentId) : Lease.leaseKey runId ≠ WorkItem.workKey runId id := by
  simp [Lease.leaseKey, WorkItem.workKey]

/-- The ledger leaves the lease alone. Source: `rollout-coordinator/src/ledger.rs`, `work_item.rs`,
`steal.rs`. Kind: L -/
theorem stored_ledger {c : Ledger.LedgerCall} {t : Ledger.LedgerTxn} (hmay : c.MayRun runId t)
    (s : Rows) :
    Lease.stored runId (atomically (Ledger.LedgerTxn.body runId t) s).2 = Lease.stored runId s := by
  rcases Ledger.effect_of_body runId t s with hsame | heff
  · rw [hsame]
  · refine stored_congr ?_
    generalize (atomically (Ledger.LedgerTxn.body runId t) s).2 = s' at heff
    cases heff with
    | enqueue ulid payload =>
        refine KV.get_put_of_ne _ _ _ _ ?_
        simp [Lease.leaseKey, Ledger.queueKey]
    | dispatch entryKey payload w now =>
        have hne : Lease.leaseKey runId ≠ entryKey := by
          rintro rfl
          have hqueue := (Ledger.mayRun_dispatch.mp hmay).2
          rw [leaseKey_not_inQueue] at hqueue
          cases hqueue
        rw [KV.get_del_of_ne _ _ _ hne, KV.get_put_of_ne _ _ _ _ (leaseKey_ne_workKey _)]
    | complete rec resultId => exact KV.get_put_of_ne _ _ _ _ (leaseKey_ne_workKey _)
    | steal rec thief now => exact KV.get_put_of_ne _ _ _ _ (leaseKey_ne_workKey _)

end advance

/-! ## The agreement between the coordinators -/

section accord

variable [Blake3] {runId : RunId} {κ : Type} [DecidableEq κ]

/-- **The epochs that were taken are not past the stored one**, which was taken itself once any was;
what a coordinator adopted was taken.
Source: `rollout-coordinator/src/run.rs` `replay_and_serve`. Kind: D -/
structure Inv (runId : RunId) (s : Fleet κ) (taken : CoordEpoch → Prop) : Prop where
  stored : ∀ epoch, taken epoch →
    ∃ rec, Lease.stored runId s.rows = some rec ∧ epoch.raw ≤ rec.epoch.raw ∧ taken rec.epoch
  adopted : ∀ c epoch, s.adopted c = some epoch → taken epoch

/-- The epochs taken after one more event. Source: none: infrastructure. Kind: D -/
def takenAfter (runId : RunId) (taken : CoordEpoch → Prop) (e : FleetEvent runId κ) :
    CoordEpoch → Prop :=
  fun epoch => taken epoch ∨ Takes runId epoch e

/-- **An event that advances the epoch keeps the invariant.**
Source: `rollout-coordinator/src/lease.rs` `try_acquire`. Kind: L -/
theorem Inv.after {e : FleetEvent runId κ} {taken : CoordEpoch → Prop} (h : Inv runId e.pre taken)
    (hadv : Advances runId e.pre.rows e.post.rows)
    (hadopted : ∀ c epoch, e.post.adopted c = some epoch → taken epoch) :
    Inv runId e.post (takenAfter runId taken e) := by
  refine ⟨?_, fun c epoch hc => .inl (hadopted c epoch hc)⟩
  rintro epoch (htaken | ⟨⟨rec, hrec, rfl⟩, hnew⟩)
  · obtain ⟨rec, hrec, hle, hself⟩ := h.stored epoch htaken
    obtain ⟨rec', hrec', hle'⟩ := hadv rec hrec
    refine ⟨rec', hrec', BitVec.le_trans hle hle', ?_⟩
    by_cases heq : rec.epoch = rec'.epoch
    · rw [← heq]
      exact .inl hself
    · refine .inr ⟨⟨rec', hrec', rfl⟩, fun rec'' hrec'' => ?_⟩
      rw [← Option.some.inj (hrec.symm.trans hrec'')]
      exact heq
  · exact ⟨rec, hrec, BitVec.le_refl _, .inr ⟨⟨rec, hrec, rfl⟩, hnew⟩⟩

/-- What a task may do. Source: `rollout-coordinator/src/run.rs` `run`. Kind: D -/
def May (runId : RunId) (o : FleetOp runId) (taken : CoordEpoch → Prop) : Prop :=
  match o with
  | .lease (.txn t) => Legit t
  | .ledger (.txn t) => ∃ c : Ledger.LedgerCall, c.MayRun runId t
  | .adopt epoch => taken epoch
  | _ => True

section does

variable {i : κ × Role} {s s' : Fleet κ}

theorem of_alive {α : Type} {ended : Bool} {x : Option α} {y : α}
    (h : (if ended = true then none else x) = some y) : x = some y := by
  split at h
  · cases h
  · exact h

/-- An operation of the lease. Source: none: infrastructure. Kind: L -/
theorem does_lease {o : Store.Op (Lease.txns runId)} {r : Except CoreError o.Out}
    (hd : (fleetMachine runId κ).Does ⟨i, .lease o, r, s, s'⟩) :
    ∃ ch : Outcome, r = ch.answer (Store.perform o s.rows).1 ∧
      s' = { s with rows := ch.leaves s.rows (Store.perform o s.rows).2 } := by
  obtain ⟨ch, hexec⟩ := hd
  obtain ⟨hr, hs⟩ := Prod.mk.inj (Option.some.inj (of_alive hexec))
  exact ⟨ch, hr.symm, hs.symm⟩

/-- An operation of the ledger. Source: none: infrastructure. Kind: L -/
theorem does_ledger {o : Store.Op (Ledger.txns runId)} {r : Except CoreError o.Out}
    (hd : (fleetMachine runId κ).Does ⟨i, .ledger o, r, s, s'⟩) :
    ∃ ch : Outcome, r = ch.answer (Store.perform o s.rows).1 ∧
      s' = { s with rows := ch.leaves s.rows (Store.perform o s.rows).2 } := by
  obtain ⟨ch, hexec⟩ := hd
  obtain ⟨hr, hs⟩ := Prod.mk.inj (Option.some.inj (of_alive hexec))
  exact ⟨ch, hr.symm, hs.symm⟩

/-- What a storage operation of the fleet answers, the store alone may answer too.
Source: none: infrastructure. Kind: L -/
theorem does_of_answer {T : Txns StorageKey Bytes} {ι : Type} {i : ι} (o : Store.Op T)
    (s : Rows) (ch : Outcome) : ∃ t t',
      (Store.machine T CoreError ι).Does ⟨i, o, ch.answer (Store.perform o s).1, t, t'⟩ := by
  cases ch with
  | done => exact ⟨s, (Store.perform o s).2, Store.does_iff.mpr (.inr ⟨rfl, rfl⟩)⟩
  | failed e => exact ⟨s, s, Store.does_iff.mpr (.inl ⟨e, rfl, rfl⟩)⟩
  | lost e => exact ⟨s, s, Store.does_iff.mpr (.inl ⟨e, rfl, rfl⟩)⟩

/-- The others leave the rows, and but for `adopt` what was adopted.
Source: none: infrastructure. Kind: L -/
theorem does_control {o : FleetOp runId} {r : o.Resp runId}
    (hd : (fleetMachine runId κ).Does ⟨i, o, r, s, s'⟩) (hlease : ∀ p, o ≠ .lease p)
    (hledger : ∀ p, o ≠ .ledger p) :
    s'.rows = s.rows ∧ ∀ c epoch, s'.adopted c = some epoch →
      s.adopted c = some epoch ∨ o = .adopt epoch := by
  obtain ⟨ch, hexec⟩ := hd
  replace hexec : (fleetMachine runId κ).exec ch i o s = some (r, s') := hexec
  cases o with
  | lease p => exact absurd rfl (hlease p)
  | ledger p => exact absurd rfl (hledger p)
  | adopt epoch =>
      obtain ⟨-, rfl⟩ := Prod.mk.inj (Option.some.inj (of_alive hexec))
      refine ⟨rfl, fun c epoch' hc => ?_⟩
      have hc : Function.update s.adopted i.1 (some epoch) c = some epoch' := hc
      rw [Function.update_apply] at hc
      split at hc
      · exact .inr (congrArg _ (Option.some.inj hc))
      · exact .inl hc
  | serving =>
      obtain ⟨epoch, -, hres⟩ := Option.map_eq_some_iff.mp (of_alive hexec)
      obtain ⟨-, rfl⟩ := Prod.mk.inj hres
      exact ⟨rfl, fun _ _ => .inl⟩
  | _ =>
      obtain ⟨-, rfl⟩ := Prod.mk.inj (Option.some.inj (of_alive hexec))
      exact ⟨rfl, fun _ _ => .inl⟩

end does

theorem advances_leaves {s after : Rows} (h : Advances runId s after) (ch : Outcome) :
    Advances runId s (ch.leaves s after) := by
  cases ch with
  | failed e => exact advances_of_stored rfl
  | done => exact h
  | lost e => exact h

/-- **An operation keeps the invariant.** Source: `rollout-coordinator/src/run.rs`. Kind: P -/
theorem Inv.event {e : FleetEvent runId κ} {taken : CoordEpoch → Prop} (h : Inv runId e.pre taken)
    (hd : (fleetMachine runId κ).Does e) (hmay : May runId e.op taken)
    (hfits : Lease.EpochFits runId e.pre.rows) :
    Inv runId e.post (takenAfter runId taken e) := by
  obtain ⟨i, o, r, s, s'⟩ := e
  cases o with
  | lease o =>
      obtain ⟨ch, -, rfl⟩ := does_lease hd
      refine h.after (advances_leaves ?_ ch) fun c epoch hc => h.adopted c epoch hc
      cases o with
      | txn t => exact advances_claim hmay hfits
      | get k => exact advances_of_stored rfl
      | scan p => exact advances_of_stored rfl
  | ledger o =>
      obtain ⟨ch, -, rfl⟩ := does_ledger hd
      refine h.after (advances_leaves ?_ ch) fun c epoch hc => h.adopted c epoch hc
      cases o with
      | txn t =>
          obtain ⟨c, hmay⟩ := hmay
          exact advances_of_stored (stored_ledger hmay s.rows)
      | get k => exact advances_of_stored rfl
      | scan p => exact advances_of_stored rfl
  | _ =>
      obtain ⟨hrows, hadopted⟩ := does_control hd (fun _ => nofun) (fun _ => nofun)
      refine h.after (advances_of_stored (congrArg _ hrows)) fun c epoch hc => ?_
      rcases hadopted c epoch hc with hold | hnew
      · exact h.adopted c epoch hold
      · cases hnew <;> exact hmay

/-- **The agreement between the tasks of all coordinators.** Source: none: infrastructure.
Kind: D -/
def fleetRules (runId : RunId) (κ : Type) [DecidableEq κ] :
    Accord (fleetMachine runId κ) (CoordEpoch → Prop) where
  upd := takenAfter runId
  inv := Inv runId
  rely _ _ taken _ taken' := ∀ epoch, taken epoch → taken' epoch
  pre _ o _ taken := May runId o taken
  assume _ e := Lease.EpochFits runId e.pre.rows
  rely_refl _ _ _ _ h := h
  rely_trans _ _ _ _ _ _ _ h h' epoch ht := h' epoch (h epoch ht)
  step _ _ hd hfits hinv hmay := ⟨hinv.event hd hmay hfits, fun _ _ _ => .inl⟩
  tick t := t.elim

/-! ## The tasks keep to it -/

section tasks

variable {i : κ × Role} {s : Fleet κ} {taken : CoordEpoch → Prop}

/-- An operation of the lease that a task may issue. Source: none: infrastructure. Kind: D -/
def LegitOp (o : Store.Op (Lease.txns runId)) : Prop :=
  match o with
  | .txn t => Legit t
  | _ => True

/-- An operation every task may issue at any time. Source: none: infrastructure. Kind: D -/
def Always (runId : RunId) (i : κ × Role) (o : FleetOp runId) : Prop :=
  ∀ s g, (fleetRules runId κ).inv s g → (fleetRules runId κ).pre i o s g

theorem issues_lease {β : Type} {p : Lease.LeaseM runId β}
    (h : p.Issues (Store.machine (Lease.txns runId) CoreError (κ × Role)) i LegitOp) :
    (p.embed (leaseEmbedding runId)).Issues (fleetMachine runId κ) i (Always runId i) := by
  refine Prog.Issues.embed (fun o ho s g _ => ?_) (fun o r s s' hd => ?_) h
  · cases o with
    | txn t => exact ho
    | get k => trivial
    | scan p => trivial
  · obtain ⟨ch, rfl, -⟩ := does_lease hd
    exact does_of_answer o s.rows ch

theorem issues_ledger (c : Ledger.LedgerCall) :
    ((c.prog runId).embed (ledgerEmbedding runId)).Issues (fleetMachine runId κ) i
      (Always runId i) := by
  refine Prog.Issues.embed (fun o ho s g _ => ?_) (fun o r s s' hd => ?_) (Ledger.issues_call c)
  · cases o with
    | txn t => exact ⟨c, ho⟩
    | get k => trivial
    | scan p => trivial
  · obtain ⟨ch, rfl, -⟩ := does_ledger hd
    exact does_of_answer o s.rows ch

theorem issues_current :
    (Lease.current runId).Issues (Store.machine (Lease.txns runId) CoreError (κ × Role)) i
      LegitOp := by
  unfold Lease.current
  rw [getBytes_eq]
  apply Store.issues_ask trivial
  intro s
  cases (Store.perform (T := Lease.txns runId) (.get (Lease.leaseKey runId)) s).1 with
  | none => trivial
  | some bytes =>
      show (some <$> Prog.ofExcept (Lease.decode bytes) : Lease.LeaseM runId _).Issues _ i LegitOp
      cases Lease.decode bytes <;> trivial

theorem issues_renew (held : LeaseRecord) (ttlMs now : BitVec 128) :
    (Lease.renew runId held ttlMs now).Issues
      (Store.machine (Lease.txns runId) CoreError (κ × Role)) i LegitOp := by
  unfold Lease.renew Lease.claim
  rw [← Prog.bind_ret (Store.ask _)]
  refine Store.issues_ask ?_ fun _ => trivial
  exact .inr ⟨_, held, rfl, Lease.decode_encode held, .inr rfl⟩

theorem issues_fenceAndAbort (coordId : WorkerId) (stale observed : CoordEpoch) :
    (fenceAndAbort runId coordId stale observed).Issues (fleetMachine runId κ) i
      (Always runId i) :=
  ⟨fun _ _ _ => trivial, fun _ _ _ _ => ⟨fun _ _ _ => trivial, fun _ _ _ _ => trivial⟩⟩

/-- The loop, a tick at a time. Source: `rollout-coordinator/src/run.rs` `spawn_lease_renew_loop`.
Kind: L -/
theorem issues_leaseRenewLoop (me : WorkerId) (ttlMs : BitVec 128) (startEpoch : CoordEpoch)
    (nows : List (BitVec 128)) :
    (leaseRenewLoop runId me ttlMs startEpoch nows).Issues (fleetMachine runId κ) i
      (Always runId i) := by
  induction nows with
  | nil => trivial
  | cons now nows ih =>
      refine Prog.Issues.bind (p := Prog.op (I := fleetIface runId) .tick)
        ⟨fun _ _ _ => trivial, fun _ _ _ _ => trivial⟩ fun _ => ?_
      refine Prog.Issues.bind (issues_lease issues_current).attempt fun read => ?_
      split
      · exact ih
      · exact ih
      · next held =>
        split
        · exact issues_fenceAndAbort ..
        · refine Prog.Issues.bind (issues_lease (issues_renew held ttlMs now)).attempt fun renewed => ?_
          split
          · exact ih
          · refine Prog.Issues.bind (issues_lease issues_current).attempt fun seen => ?_
            exact issues_fenceAndAbort ..
          · exact ih

/-- **The rule for an operation of the lease** that the task goes on from when it took effect.
Source: none: infrastructure. Kind: L -/
theorem safe_lease {β : Type} {o : Store.Op (Lease.txns runId)} {f : o.Out → Lease.LeaseM runId β}
    {post : Except CoreError β → Fleet κ → (CoordEpoch → Prop) → Prop}
    (herr : ∀ e s g, post (.error e) s g) (hmay : LegitOp o)
    (hf : ∀ s' s'' g r, (∀ epoch, taken epoch → g epoch) → s''.rows = (Store.perform o s'.rows).2 →
      (fleetRules runId κ).Safe i post ((f (Store.perform o s'.rows).1).embed (leaseEmbedding runId))
        s'' (takenAfter runId g ⟨i, .lease o, r, s', s''⟩)) :
    (fleetRules runId κ).Safe i post ((Store.ask o >>= f).embed (leaseEmbedding runId)) s taken := by
  rw [Prog.embed_bind]
  apply Accord.safe_call
  intro s' g' hrely _
  refine ⟨?_, fun r s'' hd _ _ => ?_⟩
  · cases o with
    | txn t => exact hmay
    | get k => trivial
    | scan p => trivial
  · obtain ⟨ch, rfl, rfl⟩ := does_lease hd
    cases ch with
    | done => exact hf s' _ g' _ hrely rfl
    | failed e => exact Accord.safe_err fun s g _ _ => herr e s g
    | lost e => exact Accord.safe_err fun s g _ _ => herr e s g

/-- A claim that follows a record, or starts afresh, takes its epoch when it wins.
Source: `rollout-coordinator/src/lease.rs` `commit_claim`. Kind: L -/
theorem safe_claim {expected : Option Bytes} {next : LeaseRecord}
    (hnew : expected = none ∨ ∃ prior cur, expected = some prior ∧ Lease.decode prior = .ok cur ∧
      next.epoch.raw = cur.epoch.raw + 1) :
    (fleetRules runId κ).Safe i (fun r _ g => ∀ held, r = .ok (some held) → g held.epoch)
      ((Lease.claim runId expected next >>= fun won => .ret (if won then some next else none)).embed
        (leaseEmbedding runId)) s taken := by
  have hlegit : Legit ⟨expected, next⟩ := by
    rcases hnew with hnone | ⟨prior, cur, hprior, hdec, hsucc⟩
    · exact .inl hnone
    · exact .inr ⟨prior, cur, hprior, hdec, .inl hsucc⟩
  apply safe_lease (o := .txn ⟨expected, next⟩) (fun _ _ _ _ => by simp) hlegit
  intro s' s'' g r _ hrows
  have hatom := Lease.atomically_commitClaim runId expected next s'.rows
  split at hatom
  · next hwon =>
    have hperf : Store.perform (T := Lease.txns runId) (.txn ⟨expected, next⟩) s'.rows = (true, _) :=
      hatom
    rw [hperf] at hrows ⊢
    refine Accord.safe_ret fun _ g' hr _ held hheld => hr _ ?_
    obtain rfl := Option.some.inj (Except.ok.inj hheld)
    refine .inr ⟨⟨next, ?_, rfl⟩, fun rec hrec => ?_⟩
    · show Lease.stored runId s''.rows = some next
      rw [hrows]
      exact Lease.stored_of_row runId (Lease.rows_after_win runId s'.rows next).1
    · have hrec : Lease.stored runId s'.rows = some rec := hrec
      rcases hnew with hnone | ⟨prior, cur, hprior, hdec, hsucc⟩
      · rw [Lease.stored_of_none runId (hwon.trans hnone)] at hrec
        cases hrec
      · have hcur : Lease.stored runId s'.rows = some cur := by
          unfold Lease.stored
          rw [hwon, hprior, Option.bind_some, fromBytes_of_decode hdec]
        obtain rfl : cur = rec := Option.some.inj (hcur.symm.trans hrec)
        intro heq
        rw [heq] at hsucc
        exact absurd hsucc (by grind)
  · have hperf : Store.perform (T := Lease.txns runId) (.txn ⟨expected, next⟩) s'.rows =
      (false, _) := hatom
    rw [hperf]
    exact Accord.safe_ret fun _ _ _ _ _ => by simp

/-- Replaying rows keeps the epoch. Source: `rollout-coordinator/src/run.rs` `replay_and_serve`.
Kind: L -/
theorem foldl_replayEntry_epoch (state : ReplayState) (entries : List (StorageKey × Bytes)) :
    (entries.foldl replayEntry state).epoch = state.epoch := by
  refine List.foldlRecOn (motive := fun st : ReplayState => st.epoch = state.epoch) entries
    replayEntry rfl fun st hst entry _ => ?_
  rw [← hst]
  unfold replayEntry
  split
  · unfold replayRecord
    split <;> rfl
  · rfl

/-- **A coordinator adopts an epoch it took.**
Source: `rollout-coordinator/src/run.rs` `replay_and_serve`. Kind: P -/
theorem safe_boot (c : Member) :
    (fleetRules runId κ).Safe i (fun _ _ _ => True) (c.boot runId) s taken := by
  have hacquire : ∀ s g, (fleetRules runId κ).Safe i
      (fun r _ g => ∀ held, r = .ok (some held) → g held.epoch)
      ((Lease.tryAcquire runId (Lease.claim runId) c.me c.ttlMs c.bootMs).embed
        (leaseEmbedding runId)) s g := by
    intro s g
    unfold Lease.tryAcquire
    rw [getBytes_eq]
    apply safe_lease (o := .get _) (fun _ _ _ _ => by simp) trivial
    intro s' s'' g' r _ _
    simp only [Store.perform]
    cases s'.rows.get (Lease.leaseKey runId) with
    | none => exact safe_claim (.inl rfl)
    | some prior =>
        cases hdec : Lease.decode prior with
        | error e =>
            simp only [hdec]
            exact Accord.safe_err fun _ _ _ _ _ => by simp
        | ok cur =>
            simp only [hdec, Prog.ofExcept_ok, Prog.ret_bind]
            split
            · exact safe_claim (.inr ⟨prior, cur, rfl, hdec, rfl⟩)
            · exact Accord.safe_ret fun _ _ _ _ _ => by simp
  have hreplay : (fleetRules runId κ).Safe i
      (fun r _ g => ∀ state : ReplayState, r = .ok (some state) → g state.epoch)
      ((replayAndServe runId (Lease.claim runId) c.me c.ttlMs c.bootMs).embed
        (leaseEmbedding runId)) s taken := by
    unfold replayAndServe
    rw [Prog.embed_bind]
    refine Accord.safe_bind (Accord.safe_weaken (fun r s g hr => ?_) (hacquire s taken))
    cases r with
    | error e => exact fun _ => by simp
    | ok held =>
        cases held with
        | none => exact Accord.safe_ret fun _ _ _ _ _ => by simp
        | some held =>
            have hheld := hr held rfl
            show (fleetRules runId κ).Safe i _ (Prog.embed (leaseEmbedding runId)
              (Storage.scanBytes (WorkItem.workPrefix runId) >>= _)) s g
            unfold WorkItem.workPrefix
            rw [scanBytes_eq]
            refine safe_lease (o := .scan _) (fun _ _ _ _ => by simp) trivial ?_
            intro s' s'' g' r hkept _
            refine Accord.safe_ret fun _ g'' hr _ state hstate => ?_
            obtain rfl := Option.some.inj (Except.ok.inj hstate)
            rw [foldl_replayEntry_epoch]
            exact hr _ (.inl (hkept _ hheld))
  unfold Member.boot
  refine Accord.safe_bind (Accord.safe_weaken (fun r s g hr => ?_) hreplay)
  cases r with
  | error e => trivial
  | ok out =>
      cases out with
      | none => exact Accord.safe_ret fun _ _ _ _ => trivial
      | some state =>
          apply Accord.safe_call
          intro s' g' hrely _
          refine ⟨hrely _ (hr state rfl), fun _ _ _ _ _ => ?_⟩
          exact Accord.safe_ret fun _ _ _ _ => trivial

/-- **Every task keeps to the agreement.** Source: `rollout-coordinator/src/run.rs` `run`.
Kind: P -/
theorem safe_role (c : Member) (role : Role) :
    (fleetRules runId κ).Safe i (fun _ _ _ => True) (c.prog runId role) s taken := by
  have hserving : (Prog.op (I := fleetIface runId) (ε := CoreError) .serving).Issues
      (fleetMachine runId κ) i (Always runId i) :=
    ⟨fun _ _ _ => trivial, fun _ _ _ _ => trivial⟩
  cases role with
  | boot => exact safe_boot c
  | renew =>
      refine Accord.safe_of_issues ?_ s taken
      exact hserving.bind fun startEpoch => issues_leaseRenewLoop c.me c.ttlMs startEpoch c.ticksMs
  | call n =>
      refine Accord.safe_of_issues ?_ s taken
      exact hserving.bind fun _ => issues_ledger (c.calls n)

end tasks

/-- The history is what was taken. Source: none: infrastructure. Kind: L -/
theorem foldl_takenAfter (tr : List (FleetEvent runId κ)) (taken : CoordEpoch → Prop)
    (epoch : CoordEpoch) :
    tr.foldl (takenAfter runId) taken epoch ↔ taken epoch ∨ ∃ x ∈ tr, Takes runId epoch x := by
  induction tr generalizing taken with
  | nil => simp
  | cons e tr ih =>
      rw [List.foldl_cons, ih]
      simp only [takenAfter, List.mem_cons, exists_eq_or_imp, or_assoc]

variable {fleet : κ → Member} {s : Rows} {tr : List (FleetEvent runId κ)}
  {d : Config (fleetIface runId) CoreError (Fleet κ) fun i : κ × Role => (fleet i.1).Out i.2}

/-- **What every run of a fleet keeps.** Source: `rollout-coordinator/src/run.rs`. Kind: P -/
theorem inv_of_run (h : Run (fleetMachine runId κ) (deploy runId fleet s) tr d)
    (hfits : ∀ e ∈ tr, Lease.EpochFits runId e.pre.rows) :
    Inv runId d.shared (tr.foldl (takenAfter runId) fun _ => False) := by
  refine (Accord.sound (A := fleetRules runId κ) (fun _ _ _ _ => True) h ?_ ?_ ?_).1
  · exact ⟨fun _ => False.elim, fun _ _ => nofun⟩
  · exact fun i => safe_role (fleet i.1) i.2
  · rintro tr₁ e tr₂ rfl
    exact hfits e (List.mem_append_right _ (List.mem_cons_self ..))

theorem FleetOp.exists_of_isLedger {o : FleetOp runId} (h : o.isLedger = true) :
    ∃ t, o = .ledger (.txn t) := by
  unfold FleetOp.isLedger at h
  split at h
  · exact ⟨_, rfl⟩
  · cases h

theorem Commits.isLedger {e : FleetEvent runId κ} (h : Commits runId e) : e.op.isLedger = true := by
  unfold Commits at h
  split at h
  · rfl
  · exact h.elim

/-- A write of the ledger that changes rows commits. Source: `rollout-coordinator/src/ledger.rs`.
Kind: L -/
theorem commits_of_changed {e : FleetEvent runId κ} (hd : (fleetMachine runId κ).Does e)
    (hledger : e.op.isLedger = true) (hchanged : e.post.rows ≠ e.pre.rows) : Commits runId e := by
  obtain ⟨i, o, r, s, s'⟩ := e
  obtain ⟨t, rfl⟩ := FleetOp.exists_of_isLedger hledger
  obtain ⟨ch, -, rfl⟩ := does_ledger hd
  refine ⟨?_, .inr hchanged⟩
  cases ch with
  | failed e => exact absurd rfl hchanged
  | done => exact (Ledger.effect_of_body runId t s.rows).resolve_left hchanged
  | lost e => exact (Ledger.effect_of_body runId t s.rows).resolve_left hchanged

end accord

/-! ## Concrete fleets -/

/-- A queue of one payload. Source: none: infrastructure. Kind: D -/
def oneQueued : Rows := (∅ : Rows).put (Ledger.queueKey ⟨⟨7⟩⟩ ⟨10⟩) []

/-- Two coordinators; the second boots at the given time, and each is asked to dispatch.
Source: none: infrastructure. Kind: D -/
def two (later : BitVec 128) : Fin 2 → Member
  | 0 => ⟨⟨⟨1⟩⟩, 100, 1000, [1030], fun _ => .dispatch ⟨⟨3⟩⟩ 1010⟩
  | 1 => ⟨⟨⟨2⟩⟩, 100, later, [], fun _ => .dispatch ⟨⟨4⟩⟩ later⟩

section concrete

local instance : Blake3 := emptyBlake3

/-- A transaction of the ledger that uses the queue. Source: none: infrastructure. Kind: D -/
def Shown (e : FleetEvent ⟨⟨7⟩⟩ (Fin 2)) : Prop :=
  e.op.isLedger = true ∧ e.post.rows.get (Ledger.queueKey ⟨⟨7⟩⟩ ⟨10⟩) ≠
    e.pre.rows.get (Ledger.queueKey ⟨⟨7⟩⟩ ⟨10⟩)
deriving Decidable

theorem Shown.commits {e : FleetEvent ⟨⟨7⟩⟩ (Fin 2)} (h : Shown e)
    (hd : (fleetMachine ⟨⟨7⟩⟩ (Fin 2)).Does e) : Commits ⟨⟨7⟩⟩ e :=
  commits_of_changed hd h.1 fun heq => h.2 (congrArg (KV.get · _) heq)

end concrete

end Rollout.Coordinator.Fence
