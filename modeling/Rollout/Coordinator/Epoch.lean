import Mathlib.Order.Bounds.Basic
import Rollout.Coordinator.LeaseSafety

/-!
# Stamped responses and the guard of a worker

A coordinator stamps each response with the epoch it reads when it responds (`stampEpoch`,
`currentEpoch`), and a worker takes a response only when its epoch is not below the highest it has
seen (`EpochGuard`).

* `EpochGuard.receive` — what a guard takes of any sequence of responses, in any order and with any
  repetition; `receive_spec` is all that can be said of it alone.
* A coordinator reads the stored epoch, whoever holds it. `StampedByHolder` is what a response has
  to satisfy for the guard to tell the coordinators apart: then equal epochs come from one
  coordinator (`guard_tells_coordinators_apart`), because each epoch has one winner and its renewals
  keep the holder. A deposed coordinator's response is not so (`deposed_stamps_new_epoch`).
-/

set_option linter.unusedSectionVars false

namespace Rollout.Coordinator.Lease

open Rollout.Lib Rollout.Core

/-! ## The guard -/

/-- Tag a response with an epoch. Source: `rollout-coordinator/src/epoch.rs` `stamp_epoch`.
Kind: D -/
def stampEpoch {α : Type} (resp : α) (epoch : CoordEpoch) : α × CoordEpoch := (resp, epoch)

/-- The highest epoch a worker has seen. Source: `rollout-coordinator/src/epoch.rs` `EpochGuard`.
Kind: D -/
structure EpochGuard where
  /-- The highest epoch accepted so far. -/
  seenMax : CoordEpoch

namespace EpochGuard

/-- Source: `rollout-coordinator/src/epoch.rs` `EpochGuard::default`. Kind: D -/
def default : EpochGuard := ⟨⟨0⟩⟩

/-- Accept or reject the epoch of a response.
Source: `rollout-coordinator/src/epoch.rs` `EpochGuard::accept`. Kind: D -/
def accept (guard : EpochGuard) (respEpoch : CoordEpoch) : Except CoreError Unit × EpochGuard :=
  if respEpoch.raw < guard.seenMax.raw then
    (.error (.recoverable (.transient
      ("stale coord_epoch " ++ toString respEpoch.raw.toNat ++ " < seen_max " ++
        toString guard.seenMax.raw.toNat ++ " (deposed coordinator)") .never)), guard)
  else (.ok (), ⟨if guard.seenMax.raw ≤ respEpoch.raw then respEpoch else guard.seenMax⟩)

/-- A rejected response leaves the guard as it is; an accepted one is its new maximum.
Source: `rollout-coordinator/src/epoch.rs` `EpochGuard::accept`. Kind: L -/
theorem accept_cases (guard : EpochGuard) (respEpoch : CoordEpoch) :
    (∃ err, guard.accept respEpoch = (.error err, guard)) ∨
      (guard.seenMax.raw ≤ respEpoch.raw ∧ guard.accept respEpoch = (.ok (), ⟨respEpoch⟩)) := by
  unfold accept
  by_cases h : respEpoch.raw < guard.seenMax.raw
  · rw [if_pos h]
    exact .inl ⟨_, rfl⟩
  · have hle : guard.seenMax.raw ≤ respEpoch.raw := BitVec.not_lt.mp h
    rw [if_neg h, if_pos hle]
    exact .inr ⟨hle, rfl⟩

variable {α : Type}

/-- What a guard takes of the responses it is given, and the guard after them.
Source: `rollout-coordinator/src/epoch.rs` `EpochGuard`. Kind: D -/
def receive : EpochGuard → List (α × CoordEpoch) → List (α × CoordEpoch) × EpochGuard
  | guard, [] => ([], guard)
  | guard, resp :: resps =>
      match guard.accept resp.2 with
      | (.ok _, guard') => (resp :: (guard'.receive resps).1, (guard'.receive resps).2)
      | (.error _, guard') => guard'.receive resps

/-- What a guard takes was given to it. Source: none: infrastructure. Kind: L -/
theorem receive_sublist (guard : EpochGuard) (resps : List (α × CoordEpoch)) :
    (guard.receive resps).1.Sublist resps := by
  induction resps generalizing guard with
  | nil => exact List.Sublist.refl _
  | cons resp resps ih =>
      rw [receive]
      split
      · exact (ih _).cons_cons resp
      · exact (ih _).cons resp

/-- **The epochs a guard takes do not decrease, and its maximum is the largest of them and of the
value it started with.** Source: `rollout-coordinator/src/epoch.rs` `EpochGuard`. Kind: P -/
theorem receive_spec (guard : EpochGuard) (resps : List (α × CoordEpoch)) :
    (guard.receive resps).1.Pairwise (fun x y => x.2.raw ≤ y.2.raw) ∧
      IsGreatest (insert guard.seenMax.raw.toNat
        {n | ∃ x ∈ (guard.receive resps).1, x.2.raw.toNat = n})
        (guard.receive resps).2.seenMax.raw.toNat ∧
      ∀ x ∈ (guard.receive resps).1, guard.seenMax.raw ≤ x.2.raw := by
  induction resps generalizing guard with
  | nil =>
      refine ⟨List.Pairwise.nil, ⟨.inl rfl, ?_⟩, fun _ => nofun⟩
      rintro n (rfl | ⟨x, hx, -⟩)
      · exact Nat.le_refl _
      · cases hx
  | cons resp resps ih =>
      rcases guard.accept_cases resp.2 with ⟨err, hacc⟩ | ⟨hle, hacc⟩
      · rw [receive, hacc]
        exact ih guard
      · obtain ⟨hsorted, ⟨hmem, hupper⟩, habove⟩ := ih ⟨resp.2⟩
        rw [receive, hacc]
        refine ⟨List.pairwise_cons.mpr ⟨habove, hsorted⟩, ⟨?_, ?_⟩, fun x hx => ?_⟩
        · rcases hmem with heq | ⟨x, hx, hn⟩
          · exact .inr ⟨resp, List.mem_cons_self, heq.symm⟩
          · exact .inr ⟨x, List.mem_cons_of_mem _ hx, hn⟩
        · rintro n (rfl | ⟨x, hx, rfl⟩)
          · exact Nat.le_trans hle (hupper (.inl rfl))
          · rcases List.mem_cons.mp hx with rfl | hx
            · exact hupper (.inl rfl)
            · exact hupper (.inr ⟨x, hx, rfl⟩)
        · rcases List.mem_cons.mp hx with rfl | hx
          · exact hle
          · exact BitVec.le_trans hle (habove x hx)

end EpochGuard

/-! ## Who holds an epoch -/

variable {ι : Type} {runId : RunId} {calls : ι → LeaseCall}

/-- The holder of the stored lease is the coordinator that won its epoch.
Source: `rollout-coordinator/src/lease.rs` `try_acquire`, `renew`. Kind: D -/
def HolderWon (runId : RunId) (calls : ι → LeaseCall) (s : Rows) (wins : List (ι × CoordEpoch)) :
    Prop :=
  ∀ rec, stored runId s = some rec →
    ∃ i ttlMs now, (i, rec.epoch) ∈ wins ∧ calls i = .tryAcquire rec.holder ttlMs now

/-- **An event keeps the holder the winner**: a win puts the winner in, a renewal keeps it.
Source: `rollout-coordinator/src/lease.rs` `try_acquire`, `renew`. Kind: P -/
theorem HolderWon.event {e : LeaseEvent runId ι} {wins wins' : List (ι × CoordEpoch)}
    (h : HolderWon runId calls e.pre wins) (hd : (Store.machine (txns runId) CoreError ι).Does e)
    (hpre : (leaseRules runId calls).before e.who e.op e.pre wins') :
    HolderWon runId calls e.post (wins ++ (winOf runId calls e).toList) := by
  have hkeep : e.post = e.pre →
      HolderWon runId calls e.post (wins ++ (winOf runId calls e).toList) := by
    intro hsame rec hrec
    rw [hsame] at hrec
    obtain ⟨i, ttlMs, now, hi, hc⟩ := h rec hrec
    exact ⟨i, ttlMs, now, List.mem_append_left _ hi, hc⟩
  obtain ⟨i, o, r, s, s'⟩ := e
  rcases Store.does_iff.mp hd with ⟨err, -, hs⟩ | ⟨hr, hs⟩
  · exact hkeep hs
  · cases o with
    | get k => exact hkeep hs
    | scan p => exact hkeep hs
    | txn t =>
        have hatom := atomically_commitClaim runId t.expected t.next s
        have hs : s' = (atomically (commitClaim runId t.expected t.next) s).2 := hs
        have hr : r = .ok (atomically (commitClaim runId t.expected t.next) s).1 := hr
        by_cases hwon : s.get (leaseKey runId) = t.expected
        · rw [if_pos hwon] at hatom
          rw [hatom] at hs hr
          have hnext : stored runId s' = some t.next := by
            rw [hs]
            exact stored_of_row runId (rows_after_win runId s t.next).1
          subst hr
          intro rec hrec
          obtain rfl : t.next = rec := Option.some.inj (hnext.symm.trans hrec)
          have hj : Justified (calls i) t := hpre
          cases hc : calls i with
          | tryAcquire me ttlMs now =>
              rw [hc] at hj
              have hme : t.next.holder = me := by
                rcases hj with rfl | ⟨cur, -, rfl⟩
                · rfl
                · rfl
              refine ⟨i, ttlMs, now, List.mem_append_right _ ?_, by rw [hme]; exact hc⟩
              show (i, t.next.epoch) ∈ (if (calls i).isAcquire then some (i, t.next.epoch) else none).toList
              rw [hc]
              exact List.mem_singleton.mpr rfl
          | renew held ttlMs now =>
              rw [hc] at hj
              have ht : t = ⟨some (encode held), ⟨held.holder, held.epoch, now + ttlMs⟩⟩ := hj
              subst ht
              obtain ⟨j, ttlMs', now', hj, hcj⟩ := h held (stored_of_row runId hwon)
              exact ⟨j, ttlMs', now', List.mem_append_left _ hj, hcj⟩
          | current =>
              rw [hc] at hj
              exact hj.elim
          | currentEpoch =>
              rw [hc] at hj
              exact hj.elim
        · rw [if_neg hwon] at hatom
          rw [hatom] at hs
          exact hkeep hs

variable [DecidableEq ι] {s₀ : Rows} {tr : List (LeaseEvent runId ι)}
  {d : Config (Store.iface (txns runId) CoreError) CoreError Rows fun i => (calls i).Out}

theorem assumed_of_fits (hfits : ∀ e ∈ tr, EpochFits runId e.pre) :
    ∀ e ∈ tr, (leaseRules runId calls).assumed e := by
  intro e he
  unfold Store.Rules.assumed
  split
  · exact hfits _ he
  · trivial

/-- **In every state of a run the holder is the winner.**
Source: `rollout-coordinator/src/lease.rs`. Kind: P -/
theorem holder_run (hrun : Run (Store.machine (txns runId) CoreError ι) (system runId calls s₀) tr d)
    (hlease : s₀.get (leaseKey runId) = none) (hepoch : s₀.get (epochKey runId) = none)
    (hfits : ∀ e ∈ tr, EpochFits runId e.pre) :
    LeaseInv runId d.shared (tr.filterMap (winOf runId calls)) ∧
      HolderWon runId calls d.shared (tr.filterMap (winOf runId calls)) := by
  have hinit : LeaseInv runId s₀ ([] : List (ι × CoordEpoch)) := .inl ⟨hlease, hepoch, rfl⟩
  have hsafe : ∀ i, (leaseRules runId calls).Safe i ((calls i).prog runId) s₀ [] :=
    fun i => safe_call i s₀ []
  have hend := (leaseRules runId calls).run hrun hinit hsafe (assumed_of_fits hfits)
  rw [foldl_extend, List.nil_append] at hend
  refine ⟨hend, ?_⟩
  clear hend
  induction hrun with
  | refl =>
      intro rec hrec
      rw [show (system runId calls s₀).shared = s₀ from rfl, stored_of_none runId hlease] at hrec
      cases hrec
  | tick _ t => exact t.elim
  | @step tr d i o k r s' hrun hp hd ih =>
      have ih := ih fun e he => hfits e (List.mem_append_left _ he)
      obtain ⟨-, wins, -, hpre, -⟩ := (leaseRules runId calls).run_event (hrun.step hp hd) hinit
        hsafe (assumed_of_fits hfits) _ (List.mem_append_right _ (List.mem_singleton.mpr rfl))
      have hheld := ih.event hd hpre
      rw [List.filterMap_append]
      cases hwin : winOf runId calls ⟨i, o, r, d.shared, s'⟩ with
      | none =>
          rw [hwin] at hheld
          rw [List.filterMap_cons_none hwin]
          exact hheld
      | some w =>
          rw [hwin] at hheld
          rw [List.filterMap_cons_some hwin]
          exact hheld

/-! ## Stamped responses -/

/-- The epoch a finished response is stamped with.
Source: `rollout-coordinator/src/heartbeat.rs` `CoordinatorImpl::current_epoch`. Kind: D -/
def LeaseCall.stamped : (c : LeaseCall) → LeaseM runId c.Out → Option CoordEpoch
  | .currentEpoch, .ret epoch => some epoch
  | _, _ => none

/-- The response is stamped while the lease row names its own coordinator. `owner` is who makes a
call. Source: `rollout-coordinator/src/heartbeat.rs` `CoordinatorImpl::current_epoch`. Kind: D -/
def StampedByHolder (runId : RunId) (calls : ι → LeaseCall) (owner : ι → WorkerId)
    (e : LeaseEvent runId ι) : Prop :=
  calls e.who = .currentEpoch → ∃ rec ∈ stored runId e.pre, rec.holder = owner e.who

instance (owner : ι → WorkerId) (e : LeaseEvent runId ι) :
    Decidable (StampedByHolder runId calls owner e) :=
  inferInstanceAs (Decidable (_ → _))

/-- A finished response has read the epoch row. Source: `rollout-coordinator/src/epoch.rs`
`current_epoch`. Kind: L -/
theorem exec_currentEpoch {i : ι} {es : List (LeaseEvent runId ι)} {epoch : CoordEpoch}
    (h : Prog.Exec (Store.machine (txns runId) CoreError ι) i (currentEpoch runId) es
      (.ret epoch)) :
    ∃ e ∈ es, ∀ n : CoordEpoch,
      e.pre.get (epochKey runId) = some (CoordEpoch.codec.enc n) → epoch = n := by
  unfold currentEpoch at h
  rw [getBytes_eq] at h
  obtain ⟨s, es', rfl, h'⟩ := Store.exec_ask_ret h
  refine ⟨_, List.mem_cons_self, fun n hrow => ?_⟩
  have hrow : s.get (epochKey runId) = some (CoordEpoch.codec.enc n) := hrow
  simp only [Store.perform, hrow, Codec.fromBytes_enc] at h'
  have hret := (Prog.Exec.of_ret h').2
  exact Prog.ret.inj hret

/-- **A response stamped by the holder carries the epoch its coordinator won.**
Source: `rollout-coordinator/src/epoch.rs` `current_epoch`. Kind: P -/
theorem stamped_won {owner : ι → WorkerId}
    (hrun : Run (Store.machine (txns runId) CoreError ι) (system runId calls s₀) tr d)
    (hlease : s₀.get (leaseKey runId) = none) (hepoch : s₀.get (epochKey runId) = none)
    (hfits : ∀ e ∈ tr, EpochFits runId e.pre)
    (hstamped : ∀ e ∈ tr, StampedByHolder runId calls owner e) {i : ι} {epoch : CoordEpoch}
    (hresp : LeaseCall.stamped (calls i) (d.progs i) = some epoch) :
    ∃ j ttlMs now, (j, epoch) ∈ tr.filterMap (winOf runId calls) ∧
      calls j = .tryAcquire (owner i) ttlMs now := by
  have hexec := hrun.exec i
  have hcall : calls i = .currentEpoch ∧ ∃ e ∈ own i tr, ∀ n : CoordEpoch,
      e.pre.get (epochKey runId) = some (CoordEpoch.codec.enc n) → epoch = n := by
    revert hexec hresp
    show _ → Prog.Exec _ _ ((calls i).prog runId) _ (d.progs i) → _
    generalize d.progs i = q
    revert q
    cases calls i with
    | currentEpoch =>
        intro q hq hexec
        obtain rfl : q = .ret epoch := by
          cases q with
          | ret n => exact congrArg Prog.ret (Option.some.inj hq)
          | err e => cases hq
          | call o k => cases hq
        exact ⟨rfl, exec_currentEpoch hexec⟩
    | tryAcquire me ttlMs now => exact fun _ hq => nomatch hq
    | renew held ttlMs now => exact fun _ hq => nomatch hq
    | current => exact fun _ hq => nomatch hq
  obtain ⟨hcall, e, he, hread⟩ := hcall
  obtain ⟨hmem, rfl⟩ := mem_own.mp he
  obtain ⟨rec, hrec, hholder⟩ := hstamped e hmem hcall
  obtain ⟨tr₁, tr₂, rfl⟩ := List.append_of_mem hmem
  obtain ⟨d₁, hrun₁, hshared⟩ := hrun.before rfl
  obtain ⟨hinv, hheld⟩ := holder_run hrun₁ hlease hepoch fun e he =>
    hfits e (List.mem_append_left _ he)
  rw [hshared] at hinv hheld
  have hrow := hinv.epochRow
  rw [hrec] at hrow
  rw [hread rec.epoch hrow, ← hholder]
  obtain ⟨j, ttlMs, now, hj, hc⟩ := hheld rec hrec
  rw [List.filterMap_append]
  exact ⟨j, ttlMs, now, List.mem_append_left _ hj, hc⟩

/-- **A worker's guard**, for every interleaving of lease calls from a fresh run and every sequence
of finished responses, in any order and with any repetition. What it takes does not decrease, its
maximum is the largest epoch it has taken or its start value, and a rejected response leaves it as
it is; and as long as every response is stamped while the lease row names its own coordinator and no
acquire starts at the end of the epoch's width, it takes responses of one coordinator only under
each epoch. Source: `rollout-coordinator/src/epoch.rs` `EpochGuard::accept`, `current_epoch`,
`rollout-coordinator/src/lease.rs` `try_acquire`, `renew`. Kind: C -/
theorem guard_tells_coordinators_apart (owner : ι → WorkerId)
    (hrun : Run (Store.machine (txns runId) CoreError ι) (system runId calls s₀) tr d)
    (hlease : s₀.get (leaseKey runId) = none) (hepoch : s₀.get (epochKey runId) = none)
    (guard : EpochGuard) {resps : List (ι × CoordEpoch)}
    (hresps : ∀ x ∈ resps, ∃ epoch, LeaseCall.stamped (calls x.1) (d.progs x.1) = some epoch ∧
      x = stampEpoch x.1 epoch) :
    (guard.receive resps).1.Pairwise (fun x y => x.2.raw ≤ y.2.raw) ∧
    IsGreatest (insert guard.seenMax.raw.toNat
      {n | ∃ x ∈ (guard.receive resps).1, x.2.raw.toNat = n})
      (guard.receive resps).2.seenMax.raw.toNat ∧
    (∀ (guard guard' : EpochGuard) (epoch : CoordEpoch) (err : CoreError),
      guard.accept epoch = (.error err, guard') → guard' = guard) ∧
    ((∀ e ∈ tr, EpochFits runId e.pre) → (∀ e ∈ tr, StampedByHolder runId calls owner e) →
      ∀ x ∈ (guard.receive resps).1, ∀ y ∈ (guard.receive resps).1, x.2 = y.2 →
        owner x.1 = owner y.1) := by
  obtain ⟨hsorted, hgreatest, -⟩ := guard.receive_spec resps
  refine ⟨hsorted, hgreatest, fun guard guard' epoch err hacc => ?_, ?_⟩
  · rcases guard.accept_cases epoch with ⟨err', hcase⟩ | ⟨-, hcase⟩
    · rw [hcase] at hacc
      exact (Prod.mk.inj hacc).2.symm
    · rw [hcase] at hacc
      cases (Prod.mk.inj hacc).1
  · intro hfits hstamped x hx y hy hsame
    have hwon : ∀ x ∈ (guard.receive resps).1, ∃ j ttlMs now,
        (j, x.2) ∈ tr.filterMap (winOf runId calls) ∧
          calls j = .tryAcquire (owner x.1) ttlMs now := by
      intro x hx
      obtain ⟨epoch, hresp, heq⟩ := hresps x ((guard.receive_sublist resps).subset hx)
      rw [heq]
      exact stamped_won hrun hlease hepoch hfits hstamped hresp
    obtain ⟨hinv, -⟩ := holder_run hrun hlease hepoch hfits
    obtain ⟨j, ttlMs, now, hj, hcj⟩ := hwon x hx
    obtain ⟨k, ttlMs', now', hk, hck⟩ := hwon y hy
    obtain ⟨rec, hrec, hle⟩ := hinv.won_le hj
    rw [← hsame] at hk
    obtain rfl : j = k := (hinv.unique_win hrec hle).unique hj hk
    rw [hcj] at hck
    exact (LeaseCall.tryAcquire.inj hck).1

/-- A fresh acquire, a steal, and a response of each of the two coordinators.
Source: `rollout-coordinator/src/heartbeat.rs` `CoordinatorImpl::current_epoch`. Kind: D -/
def respondingCalls : Fin 4 → LeaseCall
  | 0 => .tryAcquire ⟨⟨1⟩⟩ 50 1000
  | 1 => .tryAcquire ⟨⟨2⟩⟩ 50 1100
  | 2 => .currentEpoch
  | 3 => .currentEpoch

/-- Who makes the calls. Source: none: infrastructure. Kind: D -/
def respondingOwner : Fin 4 → WorkerId
  | 0 => ⟨⟨1⟩⟩
  | 1 => ⟨⟨2⟩⟩
  | 2 => ⟨⟨2⟩⟩
  | 3 => ⟨⟨1⟩⟩

/-- The calls under a schedule. Source: none: infrastructure. Kind: D -/
def respond (callers : List (Fin 4)) :
    Option (List (LeaseEvent ⟨⟨7⟩⟩ (Fin 4)) × Config (Store.iface (txns ⟨⟨7⟩⟩) CoreError) CoreError
      Rows fun i => (respondingCalls i).Out) :=
  (system ⟨⟨7⟩⟩ respondingCalls ∅).play
    (inTurn (Store.machine (txns ⟨⟨7⟩⟩) CoreError (Fin 4)) (.ok ()) callers)

/-- `guard_tells_coordinators_apart` where the first coordinator responds before it is deposed, and
its response is delivered again after that of the second.
Source: `rollout-coordinator/src/epoch.rs` `worker_rejects_stale_epoch`. Kind: C -/
theorem guard_tells_coordinators_apart_takeover :
    ∃ tr d, Run (Store.machine (txns ⟨⟨7⟩⟩) CoreError (Fin 4)) (system ⟨⟨7⟩⟩ respondingCalls ∅) tr d ∧
      (EpochGuard.default.receive [stampEpoch 3 ⟨0⟩, stampEpoch 2 ⟨1⟩, stampEpoch 3 ⟨0⟩]).1 =
        [((3 : Fin 4), ⟨0⟩), (2, ⟨1⟩)] ∧
      ∀ x ∈ (EpochGuard.default.receive
          [stampEpoch (3 : Fin 4) ⟨0⟩, stampEpoch 2 ⟨1⟩, stampEpoch 3 ⟨0⟩]).1,
        ∀ y ∈ (EpochGuard.default.receive
          [stampEpoch (3 : Fin 4) ⟨0⟩, stampEpoch 2 ⟨1⟩, stampEpoch 3 ⟨0⟩]).1,
          x.2 = y.2 → respondingOwner x.1 = respondingOwner y.1 := by
  have hplay : (respond [0, 0, 3, 1, 1, 2]).map (fun x => decide (
      (∀ e ∈ x.1, EpochFits ⟨⟨7⟩⟩ e.pre) ∧
      (∀ e ∈ x.1, StampedByHolder ⟨⟨7⟩⟩ respondingCalls respondingOwner e) ∧
      LeaseCall.stamped .currentEpoch (x.2.progs 3) = some ⟨0⟩ ∧
      LeaseCall.stamped .currentEpoch (x.2.progs 2) = some ⟨1⟩)) = some true := by decide +kernel
  obtain ⟨⟨tr, d⟩, hrun, hfacts⟩ := Option.map_eq_some_iff.mp hplay
  obtain ⟨hfits, hstamped, hthree, htwo⟩ := of_decide_eq_true hfacts
  have hresps : ∀ x ∈ [stampEpoch (3 : Fin 4) ⟨0⟩, stampEpoch 2 ⟨1⟩, stampEpoch 3 ⟨0⟩],
      ∃ epoch, LeaseCall.stamped (respondingCalls x.1) (d.progs x.1) = some epoch ∧
        x = stampEpoch x.1 epoch := by
    intro x hx
    simp only [List.mem_cons, List.not_mem_nil, or_false] at hx
    rcases hx with rfl | rfl | rfl
    · exact ⟨⟨0⟩, hthree, rfl⟩
    · exact ⟨⟨1⟩, htwo, rfl⟩
    · exact ⟨⟨0⟩, hthree, rfl⟩
  have hapart := guard_tells_coordinators_apart respondingOwner (Config.play_run hrun) rfl rfl
    .default hresps
  exact ⟨tr, d, Config.play_run hrun, by decide, hapart.2.2.2 hfits hstamped⟩

/-- **A deposed coordinator stamps the new epoch**: it reads the epoch row that its successor wrote,
and a guard that has taken a response of the successor takes its response under the same epoch.
Source: `rollout-coordinator/src/heartbeat.rs` `CoordinatorImpl::current_epoch`. Kind: C -/
theorem deposed_stamps_new_epoch :
    ∃ tr d, Run (Store.machine (txns ⟨⟨7⟩⟩) CoreError (Fin 4)) (system ⟨⟨7⟩⟩ respondingCalls ∅) tr d ∧
      stored ⟨⟨7⟩⟩ d.shared = some ⟨⟨⟨2⟩⟩, ⟨1⟩, 1150⟩ ∧
      LeaseCall.stamped (respondingCalls 2) (d.progs 2) = some ⟨1⟩ ∧
      LeaseCall.stamped (respondingCalls 3) (d.progs 3) = some ⟨1⟩ ∧
      (EpochGuard.default.receive [stampEpoch (2 : Fin 4) ⟨1⟩, stampEpoch 3 ⟨1⟩]).1 =
        [(2, ⟨1⟩), (3, ⟨1⟩)] ∧
      respondingOwner 2 ≠ respondingOwner 3 := by
  have hplay : (respond [0, 0, 1, 1, 2, 3]).map (fun x => decide (
      stored ⟨⟨7⟩⟩ x.2.shared = some ⟨⟨⟨2⟩⟩, ⟨1⟩, 1150⟩ ∧
      LeaseCall.stamped .currentEpoch (x.2.progs 2) = some ⟨1⟩ ∧
      LeaseCall.stamped .currentEpoch (x.2.progs 3) = some ⟨1⟩)) = some true := by decide +kernel
  obtain ⟨⟨tr, d⟩, hrun, hfacts⟩ := Option.map_eq_some_iff.mp hplay
  obtain ⟨hstored, htwo, hthree⟩ := of_decide_eq_true hfacts
  exact ⟨tr, d, Config.play_run hrun, hstored, htwo, hthree, by decide, by decide⟩

end Rollout.Coordinator.Lease
