import Mathlib.Data.List.Induction
import Rollout.Coordinator.LeaseSafety
import Rollout.Coordinator.LedgerSystem

/-!
# Booting a coordinator

* `replayAndServe` — win the lease, adopt its epoch and sort the rows of the ledger into those in
  flight, those pending and those that are over. `bootSequence` is what `run` does before it serves:
  it only logs what was replayed.
* `Recovered` — what the replayed state says about the rows, each row in one of the three places.
* `CanBeDispatched` — that some later dispatch can return an item, without a new enqueue of it;
  `canBeDispatched_iff`: exactly when the queue holds a payload of that item. So a pending row is
  only served when its queue entry is still there (`boot_recovers_iff`).
-/

set_option linter.unusedSectionVars false

namespace Rollout.Coordinator

open Rollout.Lib Rollout.Core Rollout.Coordinator.WorkItem Rollout.Coordinator.Ledger

namespace Boot

/-! ## The boot sequence -/

/-- What a fresh coordinator reconstructs.
Source: `rollout-coordinator/src/run.rs` `ReplayState`. Kind: D -/
structure ReplayState where
  /-- The adopted epoch. -/
  epoch : CoordEpoch
  /-- The items in flight, with their workers. -/
  inFlight : KV ContentId WorkerId
  /-- The items found pending. -/
  pending : List ContentId
  /-- How many items were found terminal. -/
  terminal : Nat

/-- One row of the ledger.
Source: `rollout-coordinator/src/run.rs` `replay_and_serve` (its `match`). Kind: D -/
def replayRecord (state : ReplayState) (rec : WorkItemRecord) : ReplayState :=
  match rec.state with
  | .running workerId _ => { state with inFlight := state.inFlight.put rec.id workerId }
  | .pending => { state with pending := state.pending ++ [rec.id] }
  | .done _ => { state with terminal := state.terminal + 1 }
  | .failed _ => { state with terminal := state.terminal + 1 }

/-- One entry of the scan; what does not decode is passed over.
Source: `rollout-coordinator/src/run.rs` `replay_and_serve` (its loop). Kind: D -/
def replayEntry (state : ReplayState) (entry : StorageKey × Bytes) : ReplayState :=
  match Ledger.decode entry.2 with
  | .ok rec => replayRecord state rec
  | .error _ => state

section boot

variable {I : Iface} [Storage (Prog I CoreError)] (runId : RunId)
  (claim : Option Bytes → LeaseRecord → Prog I CoreError Bool)

/-- Win the lease, adopt its epoch and replay the ledger; none for the loser.
Source: `rollout-coordinator/src/run.rs` `replay_and_serve`. Kind: D -/
def replayAndServe (me : WorkerId) (ttlMs now : BitVec 128) :
    Prog I CoreError (Option ReplayState) := do
  match ← Lease.tryAcquire runId claim me ttlMs now with
  | none => return none
  | some held =>
      let entries ← Storage.scanBytes (workPrefix runId)
      return some (entries.foldl replayEntry ⟨held.epoch, ∅, [], 0⟩)

/-- What `run` does before it serves; what was replayed is logged and dropped.
Source: `rollout-coordinator/src/run.rs` `run`. Kind: D -/
def bootSequence (me : WorkerId) (ttlMs now : BitVec 128) :
    Prog I CoreError (Option ReplayState) := do
  match ← replayAndServe runId claim me ttlMs now with
  | none => return none
  | some replayed => return some replayed

end boot

/-! ## What was replayed -/

/-- The rows of a ledger that decode, in the order of the scan. Source: none: infrastructure.
Kind: D -/
def decodable (entries : List (StorageKey × Bytes)) : List WorkItemRecord :=
  entries.filterMap fun e => (Ledger.decode e.2).toOption

/-- The worker of the last row in flight under an id.
Source: `rollout-coordinator/src/run.rs` `replay_and_serve` (`in_flight.insert`). Kind: D -/
def lastOwner (recs : List WorkItemRecord) (id : ContentId) : Option WorkerId :=
  (recs.filterMap fun rec => if rec.id = id then rec.state.owner else none).getLast?

/-- **The three places**, with each row in one of them.
Source: `rollout-coordinator/src/run.rs` `ReplayState`. Kind: D -/
structure Recovered (recs : List WorkItemRecord) (state : ReplayState) : Prop where
  pending : state.pending = (recs.filter fun rec => rec.state = .pending).map WorkItemRecord.id
  terminal : state.terminal = recs.countP fun rec => rec.state.isTerminal
  inFlight : ∀ id, state.inFlight.get id = lastOwner recs id

theorem lastOwner_snoc (recs : List WorkItemRecord) (rec : WorkItemRecord) (id : ContentId) :
    lastOwner (recs ++ [rec]) id =
      (if rec.id = id then rec.state.owner else none).or (lastOwner recs id) := by
  unfold lastOwner
  rw [List.filterMap_append, List.getLast?_append]
  congr 1
  cases hown : (if rec.id = id then rec.state.owner else none) with
  | none =>
      simp only [List.filterMap_cons, List.filterMap_nil, hown]
      rfl
  | some w =>
      simp only [List.filterMap_cons, List.filterMap_nil, hown]
      rfl

/-- One more row. Source: `rollout-coordinator/src/run.rs` `replay_and_serve`. Kind: L -/
theorem Recovered.snoc {recs : List WorkItemRecord} {state : ReplayState}
    (h : Recovered recs state) (rec : WorkItemRecord) :
    Recovered (recs ++ [rec]) (replayRecord state rec) := by
  obtain ⟨id, st⟩ := rec
  have hkeep : st.owner = none → ∀ id', state.inFlight.get id' = lastOwner (recs ++ [⟨id, st⟩]) id' := by
    intro hnone id'
    rw [lastOwner_snoc, hnone, ite_self, Option.none_or]
    exact h.inFlight id'
  cases st with
  | running w t =>
      refine ⟨?_, ?_, fun id' => ?_⟩
      · simpa [replayRecord] using h.pending
      · simpa [replayRecord, WorkState.isTerminal] using h.terminal
      · rw [lastOwner_snoc, ← h.inFlight]
        show (state.inFlight.put id w).get id' = _
        rw [KV.get_put]
        by_cases hid : id' = id
        · rw [if_pos hid, if_pos hid.symm]
          rfl
        · rw [if_neg hid, if_neg (Ne.symm hid), Option.none_or]
  | pending =>
      refine ⟨?_, ?_, hkeep rfl⟩
      · simpa [replayRecord] using h.pending
      · simpa [replayRecord, WorkState.isTerminal] using h.terminal
  | done r =>
      refine ⟨?_, ?_, hkeep rfl⟩
      · simpa [replayRecord] using h.pending
      · simpa [replayRecord, WorkState.isTerminal] using h.terminal
  | failed r =>
      refine ⟨?_, ?_, hkeep rfl⟩
      · simpa [replayRecord] using h.pending
      · simpa [replayRecord, WorkState.isTerminal] using h.terminal

theorem foldl_replayEntry (state : ReplayState) (entries : List (StorageKey × Bytes)) :
    entries.foldl replayEntry state = (decodable entries).foldl replayRecord state := by
  induction entries generalizing state with
  | nil => rfl
  | cons e entries ih =>
      rw [List.foldl_cons, ih, decodable, decodable, replayEntry]
      cases hdec : Ledger.decode e.2 with
      | error err => rw [List.filterMap_cons_none (by rw [hdec]; rfl)]
      | ok rec => rw [List.filterMap_cons_some (by rw [hdec]; rfl)]; rfl

/-- **The replay recovers the rows that decode.**
Source: `rollout-coordinator/src/run.rs` `replay_and_serve`. Kind: P -/
theorem recovered_foldl (epoch : CoordEpoch) (entries : List (StorageKey × Bytes)) :
    Recovered (decodable entries) (entries.foldl replayEntry ⟨epoch, ∅, [], 0⟩) := by
  rw [foldl_replayEntry]
  induction decodable entries using List.reverseRecOn with
  | nil => exact ⟨rfl, rfl, fun _ => rfl⟩
  | append_singleton recs rec ih =>
      rw [List.foldl_append]
      exact ih.snoc rec

/-- Every row is counted once. Source: `rollout-coordinator/src/run.rs` `replay_and_serve`.
Kind: L -/
theorem Recovered.total {recs : List WorkItemRecord} {state : ReplayState}
    (h : Recovered recs state) :
    recs.countP (fun rec => rec.state.isRunning) + state.pending.length + state.terminal =
      recs.length := by
  rw [h.pending, h.terminal, List.length_map, ← List.countP_eq_length_filter]
  clear h
  induction recs with
  | nil => rfl
  | cons rec recs ih =>
      have hone : (if rec.state.isRunning = true then 1 else 0) +
          (if decide (rec.state = .pending) = true then 1 else 0) +
          (if rec.state.isTerminal = true then 1 else 0) = 1 := by
        cases rec.state <;> rfl
      simp only [List.countP_cons, List.length_cons]
      omega

/-- The owner found under the id of a row that no other row carries.
Source: `rollout-coordinator/src/run.rs` `replay_and_serve`. Kind: L -/
theorem lastOwner_of_nodup {recs : List WorkItemRecord} (hids : (recs.map WorkItemRecord.id).Nodup)
    {rec : WorkItemRecord} (hrec : rec ∈ recs) : lastOwner recs rec.id = rec.state.owner := by
  obtain ⟨front, rest, rfl⟩ := List.append_of_mem hrec
  rw [List.map_append, List.map_cons, List.nodup_middle, List.nodup_cons] at hids
  have hothers : ∀ other ∈ front ++ rest, other.id ≠ rec.id := by
    intro other hother heq
    refine hids.1 ?_
    rw [← List.map_append, ← heq]
    exact List.mem_map_of_mem hother
  have hnone : ∀ part : List WorkItemRecord, (∀ other ∈ part, other.id ≠ rec.id) →
      part.filterMap (fun r => if r.id = rec.id then r.state.owner else none) = [] := by
    intro part hpart
    refine List.filterMap_eq_nil_iff.mpr fun other hother => ?_
    rw [if_neg (hpart other hother)]
  unfold lastOwner
  rw [List.filterMap_append, hnone front fun o ho => hothers o (List.mem_append_left _ ho),
    List.nil_append]
  cases hown : rec.state.owner with
  | none =>
      rw [List.filterMap_cons_none (by rw [if_pos rfl, hown]),
        hnone rest fun o ho => hothers o (List.mem_append_right _ ho)]
      rfl
  | some w =>
      rw [List.filterMap_cons_some (by rw [if_pos rfl, hown]),
        hnone rest fun o ho => hothers o (List.mem_append_right _ ho)]
      rfl

/-- **The places are apart**: an id is in flight with its worker when its row is running, and among
the pending ones when its row is pending.
Source: `rollout-coordinator/src/run.rs` `replay_and_serve`. Kind: L -/
theorem Recovered.apart {recs : List WorkItemRecord} {state : ReplayState}
    (h : Recovered recs state) (hids : (recs.map WorkItemRecord.id).Nodup) {rec : WorkItemRecord}
    (hrec : rec ∈ recs) :
    state.inFlight.get rec.id = rec.state.owner ∧
      (rec.id ∈ state.pending ↔ rec.state = .pending) := by
  refine ⟨(h.inFlight rec.id).trans (lastOwner_of_nodup hids hrec), ?_⟩
  rw [h.pending]
  constructor
  · intro hmem
    obtain ⟨other, hother, heq⟩ := List.mem_map.mp hmem
    obtain ⟨hother, hpend⟩ := List.mem_filter.mp hother
    obtain rfl := List.inj_on_of_nodup_map hids hother hrec heq
    exact of_decide_eq_true hpend
  · intro hpend
    exact List.mem_map_of_mem (List.mem_filter.mpr ⟨hrec, decide_eq_true hpend⟩)

/-! ## What booting does to the storage -/

section exec

variable {ι : Type} {i : ι} {runId : RunId} {me : WorkerId} {ttlMs now : BitVec 128}

/-- Events of the lease. Source: none: infrastructure. Kind: D -/
abbrev BootEvent (runId : RunId) (ι : Type) := Lease.LeaseEvent runId ι

/-- An event that leaves all rows but those of the lease alone.
Source: `rollout-coordinator/src/run.rs` `replay_and_serve`. Kind: D -/
def LeaseOnly (runId : RunId) (e : BootEvent runId ι) : Prop :=
  ∀ key, key ≠ Lease.leaseKey runId → key ≠ Lease.epochKey runId →
    e.post.get key = e.pre.get key

/-- A claim, seen from its own event. Source: `rollout-coordinator/src/lease.rs` `commit_claim`.
Kind: L -/
theorem exec_claim {expected : Option Bytes} {next : LeaseRecord}
    {es : List (BootEvent runId ι)} {r : Option LeaseRecord}
    (h : Prog.Exec (Store.machine (Lease.txns runId) CoreError ι) i
      (Lease.claim runId expected next >>= fun won => .ret (if won then some next else none)) es
      (.ret r)) :
    (∀ e ∈ es, LeaseOnly runId e) ∧ (r = none → ∀ e ∈ es, e.post = e.pre) := by
  obtain ⟨s, es', rfl, h'⟩ := Store.exec_ask_ret h
  obtain ⟨rfl, hr⟩ := Prog.Exec.of_ret h'
  have hatom := Lease.atomically_commitClaim runId expected next s
  by_cases hwon : s.get (Lease.leaseKey runId) = expected
  · rw [if_pos hwon] at hatom
    have hperf : Store.perform (T := Lease.txns runId) (.txn ⟨expected, next⟩) s = (true, _) :=
      hatom
    rw [hperf] at hr ⊢
    refine ⟨fun e he key hlease hepoch => ?_, fun hnone => ?_⟩
    · rw [List.mem_singleton.mp he]
      show ((s.put _ _).put _ _).get key = s.get key
      rw [KV.get_put_of_ne _ _ _ _ hepoch, KV.get_put_of_ne _ _ _ _ hlease]
    · rw [hnone] at hr
      cases hr
  · rw [if_neg hwon] at hatom
    have hperf : Store.perform (T := Lease.txns runId) (.txn ⟨expected, next⟩) s = (false, s) :=
      hatom
    rw [hperf]
    refine ⟨fun e he => ?_, fun _ e he => ?_⟩
    · rw [List.mem_singleton.mp he]
      exact fun _ _ _ => rfl
    · rw [List.mem_singleton.mp he]

/-- Source: `rollout-coordinator/src/lease.rs` `try_acquire`. Kind: L -/
theorem exec_tryAcquire {es : List (BootEvent runId ι)} {r : Option LeaseRecord}
    (h : Prog.Exec (Store.machine (Lease.txns runId) CoreError ι) i
      (Lease.tryAcquire runId (Lease.claim runId) me ttlMs now) es (.ret r)) :
    (∀ e ∈ es, LeaseOnly runId e) ∧ (r = none → ∀ e ∈ es, e.post = e.pre) := by
  unfold Lease.tryAcquire at h
  rw [getBytes_eq] at h
  obtain ⟨s, es', rfl, h'⟩ := Store.exec_ask_ret h
  have hrest : (∀ e ∈ es', LeaseOnly runId e) ∧ (r = none → ∀ e ∈ es', e.post = e.pre) := by
    simp only [Store.perform] at h'
    cases hrow : s.get (Lease.leaseKey runId) with
    | none =>
        rw [hrow] at h'
        exact exec_claim h'
    | some prior =>
        rw [hrow] at h'
        cases hdec : Lease.decode prior with
        | error e =>
            simp only [hdec] at h'
            cases (Prog.Exec.of_err h').2
        | ok cur =>
            simp only [hdec, Prog.ofExcept_ok, Prog.ret_bind] at h'
            split at h'
            · exact exec_claim h'
            · obtain ⟨rfl, -⟩ := Prog.Exec.of_ret h'
              exact ⟨List.forall_mem_nil _, fun _ => List.forall_mem_nil _⟩
  refine ⟨fun e he => ?_, fun hnone e he => ?_⟩
  · rcases List.mem_cons.mp he with rfl | he
    · exact fun _ _ _ => rfl
    · exact hrest.1 e he
  · rcases List.mem_cons.mp he with rfl | he
    · rfl
    · exact hrest.2 hnone e he

/-- **What booting does**: only the rows of the lease are written, a loser writes nothing, and the
winner's last operation is the scan it replays.
Source: `rollout-coordinator/src/run.rs` `replay_and_serve`, `run`. Kind: P -/
theorem exec_bootSequence {es : List (BootEvent runId ι)} {out : Option ReplayState}
    (h : Prog.Exec (Store.machine (Lease.txns runId) CoreError ι) i
      (bootSequence runId (Lease.claim runId) me ttlMs now) es (.ret out)) :
    (∀ e ∈ es, LeaseOnly runId e) ∧ (out = none → ∀ e ∈ es, e.post = e.pre) ∧
      ∀ state, out = some state → ∃ e, es.getLast? = some e ∧
        Recovered (decodable (e.post.scan (inLedger runId))) state := by
  have hlog : bootSequence runId (Lease.claim runId) me ttlMs now =
      replayAndServe runId (Lease.claim runId) me ttlMs now := by
    refine Eq.trans ?_ (Prog.bind_ret _)
    unfold bootSequence
    congr 1
    funext r
    cases r <;> rfl
  rw [hlog] at h
  obtain ⟨held, es₁, es₂, rfl, h₁, h₂⟩ := Prog.Exec.of_bind h
  obtain ⟨honly, hloser⟩ := exec_tryAcquire h₁
  cases held with
  | none =>
      obtain ⟨rfl, hout⟩ := Prog.Exec.of_ret h₂
      obtain rfl := Prog.ret.inj hout
      rw [List.append_nil]
      exact ⟨honly, fun _ => hloser rfl, fun _ => nofun⟩
  | some held =>
      unfold workPrefix at h₂
      rw [scanBytes_eq] at h₂
      obtain ⟨s, es', rfl, h₃⟩ := Store.exec_ask_ret h₂
      obtain ⟨rfl, hout⟩ := Prog.Exec.of_ret h₃
      obtain rfl := Prog.ret.inj hout
      refine ⟨fun e he => ?_, nofun, fun state hstate => ?_⟩
      · rcases List.mem_append.mp he with he | he
        · exact honly e he
        · rw [List.mem_singleton.mp he]
          exact fun _ _ _ => rfl
      · obtain rfl := Option.some.inj hstate
        refine ⟨_, List.getLast?_concat .., ?_⟩
        exact recovered_foldl held.epoch (s.scan (inLedger runId))

end exec

/-! ## What a dispatch can return -/

section dispatch

variable [Blake3] (runId : RunId)

/-- The item a finished dispatch returned.
Source: `rollout-coordinator/src/ledger.rs` `dispatch`. Kind: D -/
def dispatched : (c : LedgerCall) → LedgerM runId c.Out → Option ContentId
  | .dispatch .., .ret id => id
  | _, _ => none

/-- Whether a call puts something into the queue. Source: none: infrastructure. Kind: D -/
def isEnqueue : LedgerCall → Bool
  | .enqueue .. => true
  | _ => false

/-- **Some later dispatch can return the item**, in some run of calls that enqueue nothing.
Source: `rollout-coordinator/src/run.rs` (module documentation). Kind: D -/
def CanBeDispatched (s : Rows) (id : ContentId) : Prop :=
  ∃ calls : ℕ → LedgerCall, (∀ i, isEnqueue (calls i) = false) ∧
    ∃ tr d, Run (store runId ℕ) (system runId calls s) tr d ∧
      ∃ i, dispatched runId (calls i) (d.progs i) = some id

/-- The queue holds a payload of the item.
Source: `rollout-coordinator/src/ledger.rs` `dispatch` (`ContentId::of(&payload)`). Kind: D -/
def Queued (s : Rows) (id : ContentId) : Prop :=
  ∃ key payload, s.get key = some payload ∧ inQueue runId key = true ∧ ContentId.of payload = id

variable {runId}

/-- Nothing new is in the queue. Source: none: infrastructure. Kind: D -/
def QueueShrinks (runId : RunId) (s s' : Rows) : Prop :=
  ∀ key payload, inQueue runId key = true → s'.get key = some payload → s.get key = some payload

theorem queueShrinks_event {calls : ℕ → LedgerCall} {s₀ : Rows} {tr : List (LedgerEvent runId ℕ)}
    {d : Config (Store.iface (txns runId) CoreError) CoreError Rows fun i => (calls i).Out}
    (hcalls : ∀ i, isEnqueue (calls i) = false)
    (hrun : Run (store runId ℕ) (system runId calls s₀) tr d) {e : LedgerEvent runId ℕ}
    (he : e ∈ tr) : QueueShrinks runId e.pre e.post := by
  have hput : ∀ (s : Rows) (id : ContentId) (b : Bytes),
      QueueShrinks runId s (s.put (workKey runId id) b) := by
    intro s id b key payload hkey hget
    rw [KV.get_put_of_ne] at hget
    · exact hget
    · rintro rfl
      rw [inQueue_workKey] at hkey
      cases hkey
  rcases event_cases hrun he with hsame | ⟨i, t, r, s, s', rfl, hmay, heff⟩
  · rw [hsame]
    exact fun _ _ _ hget => hget
  · cases heff with
    | enqueue ulid payload =>
        have hcall := hcalls i
        rw [mayRun_enqueue.mp hmay] at hcall
        cases hcall
    | dispatch entryKey payload w t =>
        intro key p hkey hget
        have hget : ((s.put _ _).del entryKey).get key = some p := hget
        rw [KV.get_del] at hget
        split at hget
        · cases hget
        · exact hput s _ _ key p hkey hget
    | complete rec resultId hrun hrow => exact hput s _ _
    | steal rec thief t hrun hrow => exact hput s _ _

/-- **Only what is queued is dispatched.** Source: `rollout-coordinator/src/ledger.rs` `dispatch`.
Kind: P -/
theorem queued_of_canBeDispatched {s : Rows} {id : ContentId} (h : CanBeDispatched runId s id) :
    Queued runId s id := by
  obtain ⟨calls, hcalls, tr, d, hrun, i, hret⟩ := h
  have hexec := hrun.exec i
  have hscan : ∃ e ∈ own i tr, ∃ key payload, e.pre.get key = some payload ∧
      inQueue runId key = true ∧ ContentId.of payload = id := by
    revert hexec hret
    show _ → Prog.Exec _ _ ((calls i).prog runId) _ (d.progs i) → _
    generalize d.progs i = q
    revert q
    cases calls i with
    | enqueue ulid payload => exact fun q hq => nomatch hq
    | tryComplete running resultId => exact fun q hq => nomatch hq
    | handleStealRequest thief nowMs => exact fun q hq => nomatch hq
    | dispatch w now =>
        intro q hq hexec
        obtain rfl : q = .ret (some id) := by
          cases q with
          | ret r => exact congrArg Prog.ret hq
          | err e => cases hq
          | call o k => cases hq
        have hexec : Prog.Exec (store runId ℕ) i (dispatchCall runId w now) (own i tr) (.ret (some id)) := hexec
        unfold dispatchCall at hexec
        rw [nextPendingEntry_bind] at hexec
        obtain ⟨s₁, es', hes, hexec⟩ := Store.exec_ask_ret hexec
        rw [hes]
        refine ⟨_, List.mem_cons_self, ?_⟩
        cases hleast : leastEntry (Store.perform (T := txns runId) (.scan (inQueue runId)) s₁).1 with
        | none =>
            simp only [hleast] at hexec
            cases (Prog.Exec.of_ret hexec).2
        | some e =>
            simp only [hleast] at hexec
            obtain ⟨hget, hkey⟩ := (KV.mem_scan s₁).mp (mem_of_leastEntry hleast)
            refine ⟨e.1, e.2, hget, hkey, ?_⟩
            rw [← Prog.bind_ret (run runId _)] at hexec
            obtain ⟨s₂, es'', -, hexec⟩ := Store.exec_ask_ret hexec
            have hid := Prog.ret.inj (Prog.Exec.of_ret hexec).2
            have hatom := congrArg Prod.fst (atomically_dispatchTxn runId e.1 e.2 w now s₂)
            exact Option.some.inj (hatom.symm.trans hid.symm)
  obtain ⟨e, he, key, payload, hget, hkey, hid⟩ := hscan
  obtain ⟨hmem, -⟩ := mem_own.mp he
  obtain ⟨tr₁, tr₂, rfl⟩ := List.append_of_mem hmem
  obtain ⟨d₁, hrun₁, hshared⟩ := hrun.before rfl
  have hshrinks : QueueShrinks runId s d₁.shared :=
    hrun₁.le_of_events (R := QueueShrinks runId) (fun _ _ _ _ h => h)
      (fun h h' key p hkey hget => h key p hkey (h' key p hkey hget)) (fun (t : Empty) => t.elim)
      fun e he => queueShrinks_event hcalls hrun₁ he
  rw [hshared] at hshrinks
  exact ⟨key, payload, hshrinks key payload hkey hget, hkey, hid⟩

/-- One dispatch call after another. Source: `rollout-coordinator/src/ledger.rs` `dispatch`.
Kind: D -/
def dispatches (w : WorkerId) (now : BitVec 128) : ℕ → LedgerCall := fun _ => .dispatch w now

/-- How many entries wait. Source: none: infrastructure. Kind: D -/
def waiting (runId : RunId) (s : Rows) : Nat := (s.scan (inQueue runId)).length

/-- The rows after the head of the queue was dispatched.
Source: `rollout-coordinator/src/ledger.rs` `dispatch`. Kind: D -/
def afterDispatch (runId : RunId) (s : Rows) (e : StorageKey × Bytes) (w : WorkerId)
    (now : BitVec 128) : Rows :=
  (s.put (workKey runId (ContentId.of e.2))
    (encodeRecord ⟨ContentId.of e.2, .running w now⟩)).del e.1

theorem get_afterDispatch {s : Rows} {e : StorageKey × Bytes} {w : WorkerId} {now : BitVec 128}
    {key : StorageKey} (hkey : inQueue runId key = true) (hne : key ≠ e.1) :
    (afterDispatch runId s e w now).get key = s.get key := by
  unfold afterDispatch
  rw [KV.get_del_of_ne _ _ _ hne, KV.get_put_of_ne]
  rintro rfl
  rw [inQueue_workKey] at hkey
  cases hkey

/-- A dispatch takes an entry out. Source: `rollout-coordinator/src/ledger.rs` `dispatch`.
Kind: L -/
theorem waiting_afterDispatch {s : Rows} {e : StorageKey × Bytes} {w : WorkerId}
    {now : BitVec 128} (hmem : e ∈ s.scan (inQueue runId)) :
    waiting runId (afterDispatch runId s e w now) < waiting runId s := by
  have hkeys : ((afterDispatch runId s e w now).scan (inQueue runId)).map Prod.fst ⊆
      ((s.scan (inQueue runId)).map Prod.fst).erase e.1 := by
    intro key hkey
    obtain ⟨x, hx, rfl⟩ := List.mem_map.mp hkey
    obtain ⟨hget, hq⟩ := (KV.mem_scan _).mp hx
    have hne : x.1 ≠ e.1 := by
      intro heq
      have hnone : (afterDispatch runId s e w now).get e.1 = none := KV.get_del_self ..
      rw [heq, hnone] at hget
      cases hget
    rw [get_afterDispatch hq hne] at hget
    refine (List.mem_erase_of_ne hne).mpr ?_
    exact List.mem_map_of_mem (f := Prod.fst) ((KV.mem_scan s).mpr ⟨hget, hq⟩)
  have hle := (List.subperm_of_subset (KV.nodup_scan _ _) hkeys).length_le
  have hin : e.1 ∈ (s.scan (inQueue runId)).map Prod.fst := List.mem_map_of_mem (f := Prod.fst) hmem
  have hpos := List.length_pos_of_mem hin
  rw [List.length_erase_of_mem hin] at hle
  simp only [List.length_map] at hle hpos
  unfold waiting
  omega

/-- **One more dispatch** takes the head of the queue.
Source: `rollout-coordinator/src/ledger.rs` `dispatch`. Kind: L -/
theorem run_dispatch {w : WorkerId} {now : BitVec 128} {s₀ : Rows}
    {tr : List (LedgerEvent runId ℕ)}
    {d : Config (Store.iface (txns runId) CoreError) CoreError Rows
      fun i => (dispatches w now i).Out}
    (hrun : Run (store runId ℕ) (system runId (dispatches w now) s₀) tr d) {k : ℕ}
    (hwaits : d.progs k = dispatchCall runId w now) {e : StorageKey × Bytes}
    (hhead : leastEntry (d.shared.scan (inQueue runId)) = some e) :
    ∃ tr' d', Run (store runId ℕ) (system runId (dispatches w now) s₀) tr' d' ∧
      d'.shared = afterDispatch runId d.shared e w now ∧
      dispatched runId (dispatches w now k) (d'.progs k) = some (ContentId.of e.2) ∧
      ∀ j, j ≠ k → d'.progs j = d.progs j := by
  unfold dispatchCall at hwaits
  rw [nextPendingEntry_bind] at hwaits
  obtain ⟨tr₁, d₁, hrun₁, hs₁, hp₁, ho₁⟩ := Service.run_ask hrun hwaits () rfl
  have hp₁ : d₁.progs k = Ledger.run runId (.dispatch e.1 e.2 w now) >>= Prog.ret := by
    rw [hp₁, Prog.bind_ret]
    simp only [hhead]
    rfl
  have hatom := atomically_dispatchTxn runId e.1 e.2 w now d₁.shared
  obtain ⟨tr₂, d₂, hrun₂, hs₂, hp₂, ho₂⟩ := Service.run_ask hrun₁ hp₁ () (congrArg some hatom)
  refine ⟨tr₂, d₂, hrun₂, ?_, ?_, fun j hj => (ho₂ j hj).trans (ho₁ j hj)⟩
  · rw [hs₂, hs₁]
    rfl
  · rw [hp₂]
    rfl

/-- The head of a queue that is not empty. Source: none: infrastructure. Kind: L -/
theorem leastEntry_isSome {entries : List (StorageKey × Bytes)} {x : StorageKey × Bytes}
    (h : x ∈ entries) : ∃ e, leastEntry entries = some e := by
  unfold leastEntry
  cases hsort : entries.insertionSort lastSegmentLe with
  | nil =>
      have hmem := (List.mem_insertionSort lastSegmentLe).mpr h
      rw [hsort] at hmem
      cases hmem
  | cons e rest => exact ⟨e, rfl⟩

/-- **As many dispatches as entries wait reach every entry.** The induction is on how many wait;
each dispatch takes one. Source: `rollout-coordinator/src/ledger.rs` `dispatch`. Kind: P -/
theorem reach_entry (w : WorkerId) (now : BitVec 128) (s₀ : Rows) {key : StorageKey}
    {payload : Bytes} (hkey : inQueue runId key = true) (n : ℕ) :
    ∀ (tr : List (LedgerEvent runId ℕ))
      (d : Config (Store.iface (txns runId) CoreError) CoreError Rows
        fun i => (dispatches w now i).Out) (k : ℕ),
      Run (store runId ℕ) (system runId (dispatches w now) s₀) tr d →
      (∀ j, k ≤ j → d.progs j = dispatchCall runId w now) → d.shared.get key = some payload →
      waiting runId d.shared ≤ n →
      ∃ tr' d', Run (store runId ℕ) (system runId (dispatches w now) s₀) tr' d' ∧
        ∃ i, dispatched runId (dispatches w now i) (d'.progs i) = some (ContentId.of payload) := by
  induction n with
  | zero =>
      intro tr d k _ _ hget hle
      have hmem := (KV.mem_scan d.shared (e := (key, payload))).mpr ⟨hget, hkey⟩
      have hpos := List.length_pos_of_mem hmem
      unfold waiting at hle
      omega
  | succ n ih =>
      intro tr d k hrun hwaits hget hle
      have hmem := (KV.mem_scan d.shared (e := (key, payload))).mpr ⟨hget, hkey⟩
      obtain ⟨e, hhead⟩ := leastEntry_isSome hmem
      obtain ⟨tr', d', hrun', hshared, hret, hothers⟩ :=
        run_dispatch hrun (hwaits k (Nat.le_refl k)) hhead
      by_cases heq : key = e.1
      · obtain ⟨hget', -⟩ := (KV.mem_scan d.shared).mp (mem_of_leastEntry hhead)
        rw [← heq, hget] at hget'
        rw [← Option.some.inj hget'] at hret
        exact ⟨tr', d', hrun', k, hret⟩
      · refine ih tr' d' (k + 1) hrun' (fun j hj => ?_) ?_ ?_
        · rw [hothers j (by omega)]
          exact hwaits j (by omega)
        · rw [hshared, get_afterDispatch hkey heq]
          exact hget
        · have hless : waiting runId (afterDispatch runId d.shared e w now) < waiting runId d.shared :=
            waiting_afterDispatch (mem_of_leastEntry hhead)
          rw [hshared]
          omega

/-- **An item can be dispatched exactly when the queue holds a payload of it.**
Source: `rollout-coordinator/src/ledger.rs` `dispatch`. Kind: P -/
theorem canBeDispatched_iff {s : Rows} {id : ContentId} :
    CanBeDispatched runId s id ↔ Queued runId s id := by
  refine ⟨queued_of_canBeDispatched, ?_⟩
  rintro ⟨key, payload, hget, hkey, rfl⟩
  obtain ⟨tr, d, hrun, hret⟩ := reach_entry ⟨⟨0⟩⟩ 0 s hkey (waiting runId s) [] _ 0 Run.refl
    (fun _ _ => rfl) hget (Nat.le_refl _)
  exact ⟨dispatches ⟨⟨0⟩⟩ 0, fun _ => rfl, tr, d, hrun, hret⟩

/-- What is reported pending, by the rows. Source: `rollout-coordinator/src/run.rs`
`replay_and_serve`. Kind: L -/
theorem Recovered.forall_pending {recs : List WorkItemRecord} {state : ReplayState}
    (h : Recovered recs state) {P : ContentId → Prop} :
    (∀ id ∈ state.pending, P id) ↔ ∀ rec ∈ recs, rec.state = .pending → P rec.id := by
  rw [h.pending, List.forall_mem_map]
  constructor
  · intro hall rec hrec hpend
    exact hall rec (List.mem_filter.mpr ⟨hrec, decide_eq_true hpend⟩)
  · intro hall rec hrec
    obtain ⟨hrec, hpend⟩ := List.mem_filter.mp hrec
    exact hall rec hrec (of_decide_eq_true hpend)

/-- **What a boot recovers**: only the lease is written, the loser changes nothing, and the winner
puts each row that decodes in one place. What it reports pending can be dispatched exactly when the
queue still holds a payload of every pending row: booting puts nothing there.
Source: `rollout-coordinator/src/run.rs` `replay_and_serve`, `run`. Kind: P -/
theorem boot_recovers_iff {ι : Type} {i : ι} {me : WorkerId} {ttlMs now : BitVec 128}
    {es : List (BootEvent runId ι)} {out : Option ReplayState}
    (h : Prog.Exec (Store.machine (Lease.txns runId) CoreError ι) i
      (bootSequence runId (Lease.claim runId) me ttlMs now) es (.ret out)) :
    (∀ e ∈ es, LeaseOnly runId e) ∧ (out = none → ∀ e ∈ es, e.post = e.pre) ∧
      ∀ state, out = some state → ∃ e recs, es.getLast? = some e ∧
        recs = decodable (e.post.scan (inLedger runId)) ∧ Recovered recs state ∧
        recs.countP (fun rec => rec.state.isRunning) + state.pending.length + state.terminal =
          recs.length ∧
        ((recs.map WorkItemRecord.id).Nodup → ∀ rec ∈ recs,
          state.inFlight.get rec.id = rec.state.owner ∧
            (rec.id ∈ state.pending ↔ rec.state = .pending)) ∧
        ((∀ id ∈ state.pending, CanBeDispatched runId e.post id) ↔
          ∀ rec ∈ recs, rec.state = .pending → Queued runId e.post rec.id) := by
  obtain ⟨honly, hloser, hwinner⟩ := exec_bootSequence h
  refine ⟨honly, hloser, fun state hstate => ?_⟩
  obtain ⟨e, hlast, hrec⟩ := hwinner state hstate
  refine ⟨e, _, hlast, rfl, hrec, hrec.total, fun hids rec hmem => hrec.apart hids hmem, ?_⟩
  simp only [canBeDispatched_iff]
  exact hrec.forall_pending

end dispatch

/-! ## Concrete boots -/

/-- A ledger with one pending row. Source: none: infrastructure. Kind: D -/
def onePending : Rows :=
  (∅ : Rows).put (workKey ⟨⟨7⟩⟩ ContentId.ofEmpty) (encodeRecord ⟨ContentId.ofEmpty, .pending⟩)

/-- The only coordinator, booting. Source: `rollout-coordinator/src/run.rs` `run`. Kind: D -/
def booting (s : Rows) : Config (Store.iface (Lease.txns ⟨⟨7⟩⟩) CoreError) CoreError Rows
    fun _ : Fin 1 => Option ReplayState :=
  ⟨s, fun _ => bootSequence ⟨⟨7⟩⟩ (Lease.claim ⟨⟨7⟩⟩) ⟨⟨1⟩⟩ 100 1000⟩

/-- What was replayed. Source: none: infrastructure. Kind: D -/
def replayed? {I : Iface} : Prog I CoreError (Option ReplayState) → Option ReplayState
  | .ret out => out
  | _ => none

theorem eq_ret_of_replayed? {I : Iface} {p : Prog I CoreError (Option ReplayState)}
    {state : ReplayState} (h : replayed? p = some state) : p = .ret (some state) := by
  cases p with
  | ret out => exact congrArg Prog.ret h
  | err e => cases h
  | call o k => cases h

/-- A boot that takes all its steps.
Source: `rollout-coordinator/src/run.rs` `run`. Kind: L -/
theorem exec_booting (s : Rows) (facts : List (BootEvent ⟨⟨7⟩⟩ (Fin 1)) → ReplayState → Bool)
    (h : ((booting s).play (M := Store.machine (Lease.txns ⟨⟨7⟩⟩) CoreError (Fin 1))
      (inTurn _ (.ok ()) [0, 0, 0])).bind
        (fun x => (replayed? (x.2.progs 0)).map (facts (own 0 x.1))) = some true) :
    ∃ es state, Prog.Exec (Store.machine (Lease.txns ⟨⟨7⟩⟩) CoreError (Fin 1)) 0
      (bootSequence ⟨⟨7⟩⟩ (Lease.claim ⟨⟨7⟩⟩) ⟨⟨1⟩⟩ 100 1000) es (.ret (some state)) ∧
        facts es state = true := by
  obtain ⟨⟨tr, d⟩, hplay, hmap⟩ := Option.bind_eq_some_iff.mp h
  obtain ⟨state, hstate, hfacts⟩ := Option.map_eq_some_iff.mp hmap
  refine ⟨own 0 tr, state, ?_, hfacts⟩
  rw [← eq_ret_of_replayed? hstate]
  exact (Config.play_run hplay).exec 0

section concrete

local instance : Blake3 := emptyBlake3

/-- `boot_recovers_iff` where the queue still holds the payload of the pending row.
Source: `rollout-coordinator/src/run.rs` `replay_and_serve`. Kind: C -/
theorem boot_recovers_iff_queued :
    ∃ es state e, Prog.Exec (Store.machine (Lease.txns ⟨⟨7⟩⟩) CoreError (Fin 1)) 0
      (bootSequence ⟨⟨7⟩⟩ (Lease.claim ⟨⟨7⟩⟩) ⟨⟨1⟩⟩ 100 1000) es (.ret (some state)) ∧
      es.getLast? = some e ∧ state.pending = [ContentId.ofEmpty] ∧
      ∀ id ∈ state.pending, CanBeDispatched ⟨⟨7⟩⟩ e.post id := by
  obtain ⟨es, state, hexec, hfacts⟩ := exec_booting
    (onePending.put (queueKey ⟨⟨7⟩⟩ ⟨10⟩) []) (fun es state => decide (
      state.pending = [ContentId.ofEmpty] ∧ ∀ e ∈ es,
        e.post.get (queueKey ⟨⟨7⟩⟩ ⟨10⟩) = some [] ∧
        decodable (e.post.scan (inLedger ⟨⟨7⟩⟩)) = [⟨ContentId.ofEmpty, .pending⟩]))
    (by decide +kernel)
  obtain ⟨hpending, hes⟩ := of_decide_eq_true hfacts
  obtain ⟨e, recs, hlast, rfl, -, -, -, hiff⟩ := (boot_recovers_iff hexec).2.2 state rfl
  obtain ⟨hqueue, hrecs⟩ := hes e (List.mem_of_getLast? hlast)
  refine ⟨es, state, e, hexec, hlast, hpending, hiff.mpr fun rec hrec _ => ?_⟩
  rw [hrecs, List.mem_singleton] at hrec
  rw [hrec]
  exact ⟨_, [], hqueue, inQueue_queueKey _ _, rfl⟩

/-- **A pending row whose queue entry is gone is never served again**: it is reported pending, and
no dispatch returns it. Source: `rollout-coordinator/src/run.rs` `run`. Kind: C -/
theorem pending_row_stranded :
    ∃ es state e, Prog.Exec (Store.machine (Lease.txns ⟨⟨7⟩⟩) CoreError (Fin 1)) 0
      (bootSequence ⟨⟨7⟩⟩ (Lease.claim ⟨⟨7⟩⟩) ⟨⟨1⟩⟩ 100 1000) es (.ret (some state)) ∧
      es.getLast? = some e ∧ state.pending = [ContentId.ofEmpty] ∧
      ¬ CanBeDispatched ⟨⟨7⟩⟩ e.post ContentId.ofEmpty := by
  obtain ⟨es, state, hexec, hfacts⟩ := exec_booting onePending
    (fun es state => decide (state.pending = [ContentId.ofEmpty] ∧ es ≠ [] ∧ ∀ e ∈ es,
      e.post.scan (inQueue ⟨⟨7⟩⟩) = [])) (by decide +kernel)
  obtain ⟨hpending, hne, hes⟩ := of_decide_eq_true hfacts
  obtain ⟨e, hlast⟩ := Option.isSome_iff_exists.mp (List.getLast?_isSome.mpr hne)
  refine ⟨es, state, e, hexec, hlast, hpending, fun hcan => ?_⟩
  obtain ⟨key, payload, hget, hkey, -⟩ := queued_of_canBeDispatched hcan
  have hmem := (KV.mem_scan e.post (e := (key, payload))).mpr ⟨hget, hkey⟩
  rw [hes e (List.mem_of_getLast? hlast)] at hmem
  cases hmem

end concrete

end Boot

end Rollout.Coordinator
