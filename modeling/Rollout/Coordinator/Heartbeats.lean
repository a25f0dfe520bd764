import Rollout.Coordinator.FailureScan

/-!
# Registration and heartbeats under concurrent calls

* `CoordTxn` — the transactions of the coordinator; `Op` — what a call may ask for: the storage,
  the clock and the event emitter.
* `register`, `deregister`, `heartbeat`, `scanOnce` — the calls; `system` is any number of them over
  one storage.
* `Backed` — every heartbeat row belongs to a registered worker. `heartbeats_backed_iff`: it holds
  along a run exactly when every heartbeat row is written while its worker is registered, and then a
  scan reports no worker that has left. A heartbeat that found its worker registered writes the row
  after the worker has left: `heartbeat_outlives_registration`.
-/

set_option linter.unusedSectionVars false

namespace Rollout.Coordinator

open Rollout.Lib Rollout.Core Rollout.Transport

/-! ## Transactions -/

/-- The transactions of the coordinator.
Source: `rollout-coordinator/src/heartbeat.rs`. Kind: D -/
inductive CoordTxn
  | register (worker : WorkerId) (entry : WorkerRegistryEntry)
  | deregister (worker : WorkerId)
  | heartbeat (worker : WorkerId) (rec : HeartbeatRecord)

/-- What each runs. Source: `rollout-coordinator/src/heartbeat.rs`. Kind: D -/
def CoordTxn.body {m : Type → Type} [Monad m] [StorageTxn m] : CoordTxn → m Unit
  | .register worker entry => do
      StorageTxn.putBytes (workerKey worker) (WorkerRegistryEntry.codec.enc entry)
      StorageTxn.commit
  | .deregister worker => do
      StorageTxn.delete (workerKey worker)
      StorageTxn.delete (heartbeatKey worker)
      StorageTxn.commit
  | .heartbeat worker rec => do
      StorageTxn.putBytes (heartbeatKey worker) (HeartbeatRecord.codec.enc rec)
      StorageTxn.commit

/-- The transactions as a component. Source: none: infrastructure. Kind: D -/
@[reducible] def coordTxns : Txns StorageKey Bytes where
  Name := CoordTxn
  Resp _ := Unit
  body := CoordTxn.body

@[simp] theorem atomically_register (worker : WorkerId) (entry : WorkerRegistryEntry) (s : Rows) :
    atomically (CoordTxn.body (.register worker entry)) s =
      ((), s.put (workerKey worker) (WorkerRegistryEntry.codec.enc entry)) := rfl

@[simp] theorem atomically_deregister (worker : WorkerId) (s : Rows) :
    atomically (CoordTxn.body (.deregister worker)) s =
      ((), (s.del (workerKey worker)).del (heartbeatKey worker)) := rfl

@[simp] theorem atomically_heartbeat (worker : WorkerId) (rec : HeartbeatRecord) (s : Rows) :
    atomically (CoordTxn.body (.heartbeat worker rec)) s =
      ((), s.put (heartbeatKey worker) (HeartbeatRecord.codec.enc rec)) := rfl

/-! ## Operations -/

/-- What a call asks for. Source: `rollout-coordinator/src/heartbeat.rs`, `failure_scan.rs`.
Kind: D -/
inductive CoordOp
  | store (o : Store.Op coordTxns)
  | now
  | emit (ev : DomainEvent)

/-- What it is answered. Source: `rollout-coordinator/src/heartbeat.rs`, `failure_scan.rs`.
Kind: D -/
@[reducible] def CoordOp.Out : CoordOp → Type
  | .store o => o.Out
  | .now => SystemTime
  | .emit _ => Unit

/-- The operations as requests. Source: none: infrastructure. Kind: D -/
@[reducible] def coordRequests : Requests where
  Op := CoordOp
  Out := CoordOp.Out

/-- Programs of the coordinator. Source: none: infrastructure. Kind: D -/
abbrev CoordM := Prog (coordRequests.iface CoreError) CoreError

/-- Issue an operation; its failure ends the program. Source: none: infrastructure. Kind: D -/
@[reducible] def coordAsk (o : CoordOp) : CoordM o.Out := Lib.ask (R := coordRequests) o

instance : Storage CoordM where
  getBytes key := coordAsk (.store (.get key))
  scanBytes range :=
    cutOff range.limit <$> coordAsk (.store (.scan fun key => keyHasPrefix key range.pfx))

theorem coordScan_eq (pfx : StorageKey) :
    (Storage.scanBytes ⟨pfx, none⟩ : CoordM (List (StorageKey × Bytes))) =
      coordAsk (.store (.scan fun key => keyHasPrefix key pfx)) :=
  Prog.bind_ret (coordAsk (.store (.scan fun key => keyHasPrefix key pfx)))

/-- Run a transaction. Source: none: infrastructure. Kind: D -/
def runTxn (t : CoordTxn) : CoordM Unit := coordAsk (.store (.txn t))

/-- **The storage, the clock and the emitter.** Source: none: infrastructure. Kind: D -/
@[reducible] def coordService (ι : Type) : Service coordRequests ι Rows where
  Choice := SystemTime
  perform time _ o s :=
    match o with
    | .store o => some (Store.perform o s)
    | .now => some (time, s)
    | .emit _ => some ((), s)
  fail _ s := s
  Tick := Empty
  tick t := t.elim

/-- Its machine. Source: none: infrastructure. Kind: D -/
@[reducible] def coordMachine (ι : Type) : Machine (coordRequests.iface CoreError) ι Rows :=
  (coordService ι).machine CoreError

instance {ι : Type} : IsEmpty (coordMachine ι).Tick := ⟨fun t => Empty.elim t⟩

/-! ## Calls -/

section calls

variable (runId : RunId)

/-- Source: `rollout-coordinator/src/heartbeat.rs` `make_event`. Kind: D -/
def makeEvent (worker : WorkerId) (topic : String) : DomainEvent :=
  ⟨topic, .info, some runId, some worker, none⟩

/-- Source: `rollout-coordinator/src/heartbeat.rs` `register`. Kind: D -/
def register (worker : WorkerId) : CoordM Unit := do
  let registeredAt ← coordAsk .now
  runTxn (.register worker ⟨worker.ulid.display, runId.ulid.display, SystemTime.toMs registeredAt⟩)
  coordAsk (.emit (makeEvent runId worker "worker_registered"))

/-- Source: `rollout-coordinator/src/heartbeat.rs` `deregister`. Kind: D -/
def deregister (worker : WorkerId) : CoordM Unit := do
  runTxn (.deregister worker)
  coordAsk (.emit (makeEvent runId worker "worker_deregistered"))

/-- Register a worker that is not known.
Source: `rollout-coordinator/src/heartbeat.rs` `heartbeat` (`existing.is_none`). Kind: D -/
def registerUnknown (worker : WorkerId) : Option Bytes → CoordM Unit
  | none => register runId worker
  | some _ => return ()

/-- Source: `rollout-coordinator/src/heartbeat.rs` `heartbeat`. Kind: D -/
def heartbeat (hb : Heartbeat) : CoordM Unit := do
  let existing ← Storage.getBytes (workerKey hb.workerId)
  registerUnknown runId hb.workerId existing
  let receivedAt ← coordAsk .now
  runTxn (.heartbeat hb.workerId (.of hb receivedAt))
  coordAsk (.emit (makeEvent runId hb.workerId "worker_heartbeat"))

/-- Emit events, whatever the emitter answers.
Source: `rollout-coordinator/src/failure_scan.rs` `scan_once` (`let _ = emitter.emit`). Kind: D -/
def emitAll : List DomainEvent → CoordM Unit
  | [] => return ()
  | ev :: events => do
      let _ ← Prog.op (I := coordRequests.iface CoreError) (CoordOp.emit ev)
      emitAll events

/-- A failure scan: the workers reported so far, `none` after a panic.
Source: `rollout-coordinator/src/failure_scan.rs` `scan_once`. Kind: D -/
def scanOnce (skew coordTimeout : Duration) (alreadyFailed : List String) :
    CoordM (Option (List String)) := do
  let now ← coordAsk .now
  let entries ← Storage.scanBytes ⟨heartbeatsPrefix, none⟩
  let scan := scanEntries now skew coordTimeout entries alreadyFailed
  emitAll scan.events
  return scan.alreadyFailed

/-- One call. Source: `rollout-coordinator/src/heartbeat.rs`, `failure_scan.rs`. Kind: D -/
inductive CoordCall
  | register (worker : WorkerId)
  | deregister (worker : WorkerId)
  | heartbeat (hb : Heartbeat)
  | scan (skew coordTimeout : Duration) (alreadyFailed : List String)

/-- What it returns. Source: `rollout-coordinator/src/heartbeat.rs`, `failure_scan.rs`. Kind: D -/
@[reducible] def CoordCall.Out : CoordCall → Type
  | .scan .. => Option (List String)
  | _ => Unit

/-- What it runs. Source: `rollout-coordinator/src/heartbeat.rs`, `failure_scan.rs`. Kind: D -/
def CoordCall.prog : (c : CoordCall) → CoordM c.Out
  | .register worker => Coordinator.register runId worker
  | .deregister worker => Coordinator.deregister runId worker
  | .heartbeat hb => Coordinator.heartbeat runId hb
  | .scan skew coordTimeout alreadyFailed => scanOnce skew coordTimeout alreadyFailed

/-- Any number of calls over one storage. Source: none: infrastructure. Kind: D -/
def coordSystem {ι : Type} (calls : ι → CoordCall) (s : Rows) :
    Config (coordRequests.iface CoreError) CoreError Rows fun i => (calls i).Out :=
  ⟨s, fun i => (calls i).prog runId⟩

end calls

/-! ## What the calls ask for -/

/-- The heartbeat rows the calls write name their own worker.
Source: `rollout-coordinator/src/heartbeat.rs` `heartbeat`. Kind: D -/
def Named : CoordOp → Prop
  | .store (.txn (.heartbeat worker rec)) => rec.workerId = worker.ulid.display
  | _ => True

section issues

variable {ι : Type} {i : ι} {β : Type}

/-- The rule for one operation. Source: none: infrastructure. Kind: L -/
theorem named_ask {o : CoordOp} {f : o.Out → CoordM β} (ho : Named o)
    (hf : ∀ a, (f a).Issues (coordMachine ι) i Named) :
    (coordAsk o >>= f).Issues (coordMachine ι) i Named :=
  Service.issues_ask (S := coordService ι) ho fun _ _ a _ _ => hf a

theorem named_emit (ev : DomainEvent) :
    (coordAsk (.emit ev)).Issues (coordMachine ι) i Named := by
  rw [← Prog.bind_ret (coordAsk (.emit ev))]
  exact named_ask trivial fun _ => trivial

theorem named_register (runId : RunId) (worker : WorkerId) :
    (register runId worker).Issues (coordMachine ι) i Named := by
  refine named_ask trivial fun _ => ?_
  exact named_ask trivial fun _ => named_emit _

theorem named_emitAll (events : List DomainEvent) :
    (emitAll events).Issues (coordMachine ι) i Named := by
  induction events with
  | nil => trivial
  | cons ev events ih => exact ⟨trivial, fun _ _ _ _ => ih⟩

/-- **A call writes heartbeat rows that name their worker.**
Source: `rollout-coordinator/src/heartbeat.rs` `heartbeat`. Kind: L -/
theorem named_call (runId : RunId) (c : CoordCall) :
    (c.prog runId).Issues (coordMachine ι) i Named := by
  cases c with
  | register worker => exact named_register runId worker
  | deregister worker => exact named_ask trivial fun _ => named_emit _
  | heartbeat hb =>
      refine named_ask trivial fun existing => Prog.Issues.bind ?_ fun _ => ?_
      · cases existing with
        | none => exact named_register runId hb.workerId
        | some _ => trivial
      · refine named_ask trivial fun _ => ?_
        exact named_ask rfl fun _ => named_emit _
  | scan skew coordTimeout alreadyFailed =>
      refine named_ask trivial fun _ => ?_
      rw [coordScan_eq]
      refine named_ask trivial fun _ => ?_
      exact (named_emitAll _).bind fun _ => trivial

end issues

/-! ## Heartbeat rows belong to registered workers -/

/-- Every heartbeat row is that of a worker that has a worker row.
Source: `rollout-coordinator/src/heartbeat.rs` `deregister`. Kind: D -/
def Backed (s : Rows) : Prop :=
  ∀ key bytes, keyHasPrefix key heartbeatsPrefix = true → s.get key = some bytes →
    ∃ worker rec, key = heartbeatKey worker ∧ HeartbeatRecord.codec.fromBytes bytes = some rec ∧
      rec.workerId = worker.ulid.display ∧ (s.get (workerKey worker)).isSome = true

theorem backed_empty : Backed ∅ := by
  intro key bytes _ hget
  rw [KV.get_empty] at hget
  cases hget

theorem Backed.register {s : Rows} (h : Backed s) (worker : WorkerId) (bytes : Bytes) :
    Backed (s.put (workerKey worker) bytes) := by
  intro key value hpfx hget
  have hkey : key ≠ workerKey worker := by
    rintro rfl
    simp at hpfx
  rw [KV.get_put_of_ne _ _ _ _ hkey] at hget
  obtain ⟨w, rec, rfl, hdec, hname, hrow⟩ := h key value hpfx hget
  refine ⟨w, rec, rfl, hdec, hname, ?_⟩
  rw [KV.get_put]
  split
  · rfl
  · exact hrow

theorem Backed.deregister {s : Rows} (h : Backed s) (worker : WorkerId) :
    Backed ((s.del (workerKey worker)).del (heartbeatKey worker)) := by
  intro key value hpfx hget
  rw [KV.get_del] at hget
  split at hget
  · cases hget
  · next hkey =>
    rw [KV.get_del] at hget
    split at hget
    · cases hget
    · obtain ⟨w, rec, rfl, hdec, hname, hrow⟩ := h key value hpfx hget
      have hw : w ≠ worker := fun hw => hkey (congrArg heartbeatKey hw)
      refine ⟨w, rec, rfl, hdec, hname, ?_⟩
      rw [KV.get_del_of_ne _ _ _ (by simp), KV.get_del_of_ne _ _ _ (by simpa using hw)]
      exact hrow

/-- Writing the heartbeat row of a worker keeps every row backed exactly when the worker is
registered. Source: `rollout-coordinator/src/heartbeat.rs` `heartbeat`. Kind: L -/
theorem Backed.heartbeat_iff {s : Rows} (h : Backed s) {worker : WorkerId} {rec : HeartbeatRecord}
    (hname : rec.workerId = worker.ulid.display) :
    Backed (s.put (heartbeatKey worker) (HeartbeatRecord.codec.enc rec)) ↔
      (s.get (workerKey worker)).isSome = true := by
  constructor
  · intro hpost
    obtain ⟨w, -, hkey, -, -, hrow⟩ := hpost (heartbeatKey worker) _ (by simp) (KV.get_put_self ..)
    rw [heartbeatKey_inj] at hkey
    subst hkey
    rwa [KV.get_put_of_ne _ _ _ _ (by simp)] at hrow
  · intro hreg key value hpfx hget
    rw [KV.get_put] at hget
    split at hget
    · next hkey =>
      obtain rfl := Option.some.inj hget
      refine ⟨worker, rec, hkey, Codec.fromBytes_enc _ rec, hname, ?_⟩
      rwa [KV.get_put_of_ne _ _ _ _ (by simp)]
    · obtain ⟨w, rec', rfl, hdec, hname', hrow⟩ := h key value hpfx hget
      refine ⟨w, rec', rfl, hdec, hname', ?_⟩
      rwa [KV.get_put_of_ne _ _ _ _ (by simp)]

/-! ## Steps -/

section steps

variable {ι : Type}

/-- Events of the coordinator's calls. Source: none: infrastructure. Kind: D -/
abbrev CoordEvent (ι : Type) := Event (coordRequests.iface CoreError) ι Rows

/-- **All an event can do to the rows**: what a transaction that took effect does, or nothing.
Source: none: infrastructure. Kind: L -/
theorem coordEvent_cases {e : CoordEvent ι} (h : (coordMachine ι).Does e) :
    (e.post = e.pre ∧ ∀ i t s s', e ≠ ⟨i, .store (.txn t), .ok (), s, s'⟩) ∨
      ∃ i t s s', e = ⟨i, .store (.txn t), .ok (), s, s'⟩ ∧
        s' = (atomically (CoordTxn.body t) s).2 := by
  obtain ⟨i, o, r, s, s'⟩ := e
  rcases Service.does_iff.mp h with ⟨err, rfl, rfl⟩ | ⟨time, a, hperf, rfl⟩
  · exact .inl ⟨rfl, by intro _ _ _ _ he; cases he⟩
  · cases o with
    | store o =>
        obtain ⟨rfl, rfl⟩ := Prod.mk.inj (Option.some.inj hperf)
        cases o with
        | get k => exact .inl ⟨rfl, by simp⟩
        | scan p => exact .inl ⟨rfl, by simp⟩
        | txn t => exact .inr ⟨i, t, s, _, rfl, rfl⟩
    | now =>
        obtain ⟨-, rfl⟩ := Prod.mk.inj (Option.some.inj hperf)
        exact .inl ⟨rfl, by simp⟩
    | emit ev =>
        obtain ⟨-, rfl⟩ := Prod.mk.inj (Option.some.inj hperf)
        exact .inl ⟨rfl, by simp⟩

/-- A heartbeat row is written while its worker is registered.
Source: `rollout-coordinator/src/heartbeat.rs` `heartbeat`. Kind: D -/
def OnRegistered (e : CoordEvent ι) : Prop :=
  match e with
  | ⟨_, .store (.txn (.heartbeat worker _)), .ok _, s, _⟩ => (s.get (workerKey worker)).isSome = true
  | _ => True

theorem onRegistered_of_ne {e : CoordEvent ι}
    (h : ∀ i t s s', e ≠ ⟨i, .store (.txn t), .ok (), s, s'⟩) : OnRegistered e := by
  unfold OnRegistered
  split
  · exact absurd rfl (h _ _ _ _)
  · trivial

/-- **One step**: rows that are backed stay so exactly when no heartbeat row is written for a worker
that is not registered. Source: `rollout-coordinator/src/heartbeat.rs`. Kind: P -/
theorem backed_step_iff {e : CoordEvent ι} (hd : (coordMachine ι).Does e) (hnamed : Named e.op)
    (hpre : Backed e.pre) : Backed e.post ↔ OnRegistered e := by
  rcases coordEvent_cases hd with ⟨hsame, hne⟩ | ⟨i, t, s, s', rfl, hpost⟩
  · rw [hsame]
    exact iff_of_true hpre (onRegistered_of_ne hne)
  · show Backed s' ↔ _
    rw [hpost]
    cases t with
    | register worker entry => exact iff_of_true (hpre.register worker _) trivial
    | deregister worker => exact iff_of_true (hpre.deregister worker) trivial
    | heartbeat worker rec => exact hpre.heartbeat_iff hnamed

/-! ## Departures -/

/-- A worker was deregistered. Source: `rollout-coordinator/src/heartbeat.rs` `deregister`.
Kind: D -/
def Departed (worker : WorkerId) (e : CoordEvent ι) : Prop :=
  ∃ i s s', e = ⟨i, .store (.txn (.deregister worker)), .ok (), s, s'⟩

/-- A worker was registered. Source: `rollout-coordinator/src/heartbeat.rs` `register`. Kind: D -/
def Joined (worker : WorkerId) (e : CoordEvent ι) : Prop :=
  ∃ i entry s s', e = ⟨i, .store (.txn (.register worker entry)), .ok (), s, s'⟩

/-- From the rows that were read, some scan would report the worker.
Source: `rollout-coordinator/src/failure_scan.rs` `scan_once`. Kind: D -/
def Reportable (worker : WorkerId) (e : CoordEvent ι) : Prop :=
  ∃ i entries s s', e = ⟨i, .store (.scan fun key => keyHasPrefix key heartbeatsPrefix),
      .ok entries, s, s'⟩ ∧
    ∃ now skew coordTimeout alreadyFailed, ∃ ev ∈
      (scanEntries now skew coordTimeout entries alreadyFailed).events, ev.workerId = some worker

/-- After a worker was deregistered no scan can report it unless it was registered again.
Source: `rollout-coordinator/src/heartbeat.rs` `deregister`, `failure_scan.rs` `scan_once`.
Kind: D -/
def DepartedUnreported (tr : List (CoordEvent ι)) : Prop :=
  ∀ worker tr₁ left tr₂ scan tr₃, tr = tr₁ ++ left :: (tr₂ ++ scan :: tr₃) → Departed worker left →
    Reportable worker scan → ∃ e ∈ tr₂, Joined worker e

/-- Only a registration gives a worker a row.
Source: `rollout-coordinator/src/heartbeat.rs` `register`. Kind: L -/
theorem unregistered_step {e : CoordEvent ι} (hd : (coordMachine ι).Does e) {worker : WorkerId}
    (hpre : e.pre.get (workerKey worker) = none) (hjoin : ¬ Joined worker e) :
    e.post.get (workerKey worker) = none := by
  rcases coordEvent_cases hd with ⟨hsame, -⟩ | ⟨i, t, s, s', rfl, hpost⟩
  · rw [hsame, hpre]
  · show s'.get (workerKey worker) = none
    rw [hpost]
    cases t with
    | register w entry =>
        have hw : worker ≠ w := by
          rintro rfl
          exact hjoin ⟨i, entry, s, s', rfl⟩
        rw [atomically_register, KV.get_put_of_ne _ _ _ _ (by simpa using hw)]
        exact hpre
    | deregister w =>
        rw [atomically_deregister, KV.get_del_of_ne _ _ _ (by simp), KV.get_del]
        split
        · rfl
        · exact hpre
    | heartbeat w rec =>
        rw [atomically_heartbeat, KV.get_put_of_ne _ _ _ _ (by simp)]
        exact hpre

/-- What a scan can report is registered, when every row is backed.
Source: `rollout-coordinator/src/failure_scan.rs` `scan_once`. Kind: L -/
theorem registered_of_reportable {e : CoordEvent ι} (hd : (coordMachine ι).Does e)
    {worker : WorkerId} (hrep : Reportable worker e) (hpre : Backed e.pre) :
    (e.pre.get (workerKey worker)).isSome = true := by
  obtain ⟨i, entries, s, s', rfl, now, skew, coordTimeout, alreadyFailed, ev, hev, hworker⟩ := hrep
  rcases Service.does_iff.mp hd with ⟨err, herr, -⟩ | ⟨time, a, hperf, hres⟩
  · cases herr
  · obtain ⟨rfl, -⟩ := Prod.mk.inj (Option.some.inj hperf)
    obtain rfl := Except.ok.inj hres
    obtain ⟨⟨key, bytes⟩, hmem, rec, hdec, rfl⟩ := mem_scanEntries hev
    obtain ⟨hget, hpfx⟩ := (KV.mem_scan _).mp hmem
    obtain ⟨w, rec', rfl, hdec', hname, hrow⟩ := hpre key bytes hpfx hget
    obtain rfl := Option.some.inj (hdec'.symm.trans hdec)
    have hw : some w = some worker := by
      rw [← hworker]
      show some w = (parseUlid rec'.workerId).map WorkerId.mk
      rw [hname, parseUlid_display]
      rfl
    rw [← Option.some.inj hw]
    exact hrow

end steps

/-! ## Runs -/

section runs

variable {ι : Type} [DecidableEq ι] {runId : RunId} {calls : ι → CoordCall} {s₀ : Rows}
  {tr : List (CoordEvent ι)}
  {d : Config (coordRequests.iface CoreError) CoreError Rows fun i => (calls i).Out}

/-- A worker that was deregistered and not registered since has no row.
Source: `rollout-coordinator/src/heartbeat.rs` `deregister`. Kind: L -/
theorem unregistered_of_departed (hrun : Run (coordMachine ι) (coordSystem runId calls s₀) tr d)
    {worker : WorkerId} {tr₁ tr₂ : List (CoordEvent ι)} {left : CoordEvent ι}
    (htr : tr = tr₁ ++ left :: tr₂) (hleft : Departed worker left)
    (hjoin : ∀ e ∈ tr₂, ¬ Joined worker e) : d.shared.get (workerKey worker) = none := by
  induction hrun generalizing tr₂ with
  | refl => simp at htr
  | tick _ t => exact isEmptyElim t
  | @step tr d i o k r s' _ _ hd ih =>
      rcases List.eq_nil_or_concat tr₂ with rfl | ⟨tr₃, e, rfl⟩
      · obtain ⟨-, hlast⟩ := List.append_inj' htr rfl
        obtain ⟨j, s, u, hj⟩ := hleft
        have hevent : (⟨i, o, r, d.shared, s'⟩ : CoordEvent ι) =
            ⟨j, .store (.txn (.deregister worker)), .ok (), s, u⟩ :=
              (List.cons.inj hlast).1.trans hj
        rw [hevent] at hd
        obtain rfl : s' = u := congrArg Event.post hevent
        rcases coordEvent_cases hd with ⟨-, hne⟩ | ⟨_, t, _, _, heq, hpost⟩
        · exact absurd rfl (hne _ _ _ _)
        · cases heq
          show s'.get (workerKey worker) = none
          rw [hpost, atomically_deregister, KV.get_del_of_ne _ _ _ (by simp), KV.get_del_self]
      · rw [List.concat_eq_append, ← List.cons_append, ← List.append_assoc] at htr
        obtain ⟨hinit, hlast⟩ := List.append_inj' htr rfl
        have he : e = ⟨i, o, r, d.shared, s'⟩ := (List.cons.inj hlast).1.symm
        have hnone := ih hinit fun e' he' => hjoin e' (by simp [he'])
        have hnot : ¬ Joined worker (⟨i, o, r, d.shared, s'⟩ : CoordEvent ι) :=
          he ▸ hjoin e (by simp)
        exact unregistered_step hd hnone hnot

/-- **Exactly when heartbeats do not outlive registration**: when every heartbeat row is written
while its worker is registered. Then every row is backed in every state, and no scan can report a
worker that has left and not come back.
Source: `rollout-coordinator/src/heartbeat.rs`, `failure_scan.rs` `scan_once`. Kind: C -/
theorem heartbeats_backed_iff (hinit : Backed s₀)
    (hrun : Run (coordMachine ι) (coordSystem runId calls s₀) tr d) :
    ((∀ s ∈ states (coordSystem runId calls s₀) tr, Backed s) ∧ DepartedUnreported tr) ↔
      ∀ e ∈ tr, OnRegistered e := by
  have hnamed := hrun.issued fun i => named_call (ι := ι) (i := i) runId (calls i)
  have halways := hrun.always_iff (P := Backed) (Q := OnRegistered) hinit
    fun e he hpre => backed_step_iff (hrun.does e he) (hnamed e he) hpre
  refine ⟨fun h => halways.mp h.1, fun h => ⟨halways.mpr h, ?_⟩⟩
  intro worker tr₁ left tr₂ scan tr₃ htr hleft hrep
  by_contra hnone
  rw [← List.cons_append, ← List.append_assoc] at htr
  have hmem : scan ∈ tr := by simp [htr]
  obtain ⟨d₁, hbefore, hstate⟩ := hrun.before htr
  have hrow := registered_of_reportable (hrun.does scan hmem) hrep
    (halways.mpr h _ (hrun.pre_mem_states scan hmem))
  rw [← hstate, unregistered_of_departed hbefore rfl hleft fun e he hj => hnone ⟨e, he, hj⟩] at hrow
  cases hrow

end runs

/-! ## Concrete runs -/

/-- A heartbeat of one worker. Source: none: infrastructure. Kind: D -/
def oneBeat : Heartbeat := ⟨⟨⟨1⟩⟩, ⟨⟨7⟩⟩, .running, .ofSecs 1⟩

/-- The worker sends a heartbeat and leaves. Source: none: infrastructure. Kind: D -/
def beatAndLeave : Fin 2 → CoordCall
  | 0 => .heartbeat oneBeat
  | 1 => .deregister oneBeat.workerId

/-- `heartbeats_backed_iff` where the worker leaves after its heartbeat.
Source: `rollout-coordinator/src/heartbeat.rs`. Kind: L -/
theorem heartbeats_backed_iff_in_order : ∃ tr d,
    Run (coordMachine (Fin 2)) (coordSystem ⟨⟨7⟩⟩ beatAndLeave ∅) tr d ∧ tr.length = 9 ∧
      (((∀ s ∈ states (coordSystem ⟨⟨7⟩⟩ beatAndLeave ∅) tr, Backed s) ∧ DepartedUnreported tr) ↔
        ∀ e ∈ tr, OnRegistered e) := by
  have hplay : ((coordSystem ⟨⟨7⟩⟩ beatAndLeave ∅).play
      (inTurn (coordMachine (Fin 2)) (.ok (.ofSecs 0)) [0, 0, 0, 0, 0, 0, 0, 1, 1])).map
        (fun x => x.1.length) = some 9 := by decide +kernel
  obtain ⟨⟨tr, d⟩, hrun, hlength⟩ := Option.map_eq_some_iff.mp hplay
  exact ⟨tr, d, Config.play_run hrun, hlength,
    heartbeats_backed_iff backed_empty (Config.play_run hrun)⟩

/-- **A heartbeat outlives its worker's registration**: the handler finds the worker registered, the
worker leaves, and the handler writes the row; the next scan reports the worker.
Source: `rollout-coordinator/src/heartbeat.rs` `heartbeat`, `deregister`. Kind: C -/
theorem heartbeat_outlives_registration : ∃ tr d,
    Run (coordMachine (Fin 2)) (coordSystem ⟨⟨7⟩⟩ beatAndLeave ∅) tr d ∧ Backed ∅ ∧
      ¬ Backed d.shared := by
  have hplay : ((coordSystem ⟨⟨7⟩⟩ beatAndLeave ∅).play
      (inTurn (coordMachine (Fin 2)) (.ok (.ofSecs 0)) [0, 0, 0, 0, 1, 0, 0])).map (fun x =>
        decide ((x.2.shared.get (heartbeatKey oneBeat.workerId)).isSome = true ∧
          x.2.shared.get (workerKey oneBeat.workerId) = none)) = some true := by decide +kernel
  obtain ⟨⟨tr, d⟩, hrun, hend⟩ := Option.map_eq_some_iff.mp hplay
  obtain ⟨hbeat, hnone⟩ := of_decide_eq_true hend
  refine ⟨tr, d, Config.play_run hrun, backed_empty, fun hbacked => ?_⟩
  obtain ⟨bytes, hbytes⟩ := Option.isSome_iff_exists.mp hbeat
  obtain ⟨w, -, hkey, -, -, hrow⟩ := hbacked _ bytes (keyHasPrefix_heartbeatKey _) hbytes
  rw [← heartbeatKey_inj.mp hkey, hnone] at hrow
  cases hrow

end Rollout.Coordinator
