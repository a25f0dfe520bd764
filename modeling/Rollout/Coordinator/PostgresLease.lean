import Rollout.Coordinator.Lease
import Rollout.Storage.CasExclusion

/-!
# A fresh lease on Postgres

A fresh run has no lease row to lock, so two coordinators that race for the first lease can both
win it, both at epoch zero.
-/

set_option linter.unusedSectionVars false

namespace Rollout.Coordinator.Lease

open Rollout.Lib Rollout.Core Rollout.Backends

/-- The claim, statement by statement.
Source: `rollout-coordinator/src/lease.rs` `commit_claim`. Kind: D -/
def claimStatements {B : StorageBackend} (runId : RunId) (expected : Option Bytes)
    (next : LeaseRecord) : BackendM B Bool := do
  begin
  commitClaim runId expected next

/-- Any number of coordinators that acquire the lease of a run; each has its id and its clock.
Source: `rollout-coordinator/src/lease.rs` `try_acquire`. Kind: D -/
def acquirers {ι : Type} (B : StorageBackend) (runId : RunId) (ttlMs : BitVec 128)
    (who : ι → WorkerId × BitVec 128) (s : Rows) :
    Config ((RowLocks.requests B.toBackend Bytes).iface CoreError) CoreError (Database ι)
      fun _ : ι => Option LeaseRecord :=
  ⟨RowLocks.Db.rest s, fun i =>
    tryAcquire runId (claimStatements runId) (who i).1 ttlMs (who i).2⟩

/-- The two coordinators of a fresh run. Source: `rollout-storage/tests/postgres_lease.rs`
`pg_lease_single_winner`. Kind: D -/
def contender (i : Fin 2) : WorkerId × BitVec 128 := (⟨⟨BitVec.ofNat 128 (i.1 + 1)⟩⟩, 1000)

/-- **Two winners of a fresh lease**: both transactions report the swap, and both coordinators hold
epoch zero. Source: `rollout-storage/src/postgres/mod.rs` `cas_bytes`,
`rollout-coordinator/src/lease.rs` `try_acquire`. Kind: C -/
theorem fresh_lease_two_winners :
    (∃ tr d, Run (machine postgres (Fin 2)) (race (leaseKey ⟨⟨7⟩⟩) none
        (fun i => some (encode ⟨(contender i).1, ⟨0⟩, 1050⟩)) ∅) tr d ∧
      d.progs 0 = .ret true ∧ d.progs 1 = .ret true) ∧
    ∃ tr d, Run (machine postgres (Fin 2)) (acquirers postgres ⟨⟨7⟩⟩ 50 contender ∅) tr d ∧
      d.progs 0 = .ret (some ⟨⟨⟨1⟩⟩, ⟨0⟩, 1050⟩) ∧ d.progs 1 = .ret (some ⟨⟨⟨2⟩⟩, ⟨0⟩, 1050⟩) := by
  constructor
  · exact cas_both_win (by decide +kernel) rfl (fun i => by simp) (by decide)
  · -- both read before either writes; then one writes and commits, and then the other
    have hplay : ((acquirers postgres ⟨⟨7⟩⟩ 50 contender ∅).play (inTurn (machine postgres (Fin 2))
        (.ok ()) [0, 1, 0, 1, 0, 1, 0, 0, 0, 1, 1, 1])).map (fun x =>
        ((x.2.progs 0).result?, (x.2.progs 1).result?)) =
        some (some (.ok (some ⟨⟨⟨1⟩⟩, ⟨0⟩, 1050⟩)), some (.ok (some ⟨⟨⟨2⟩⟩, ⟨0⟩, 1050⟩))) := by
      decide +kernel
    obtain ⟨⟨tr, d⟩, hrun, hend⟩ := Option.map_eq_some_iff.mp hplay
    obtain ⟨hfst, hsnd⟩ := Prod.mk.inj hend
    exact ⟨tr, d, Config.play_run hrun, Prog.eq_ret_of_result? hfst, Prog.eq_ret_of_result? hsnd⟩

end Rollout.Coordinator.Lease
