import Rollout.Batch.State

/-!
# What a batch runs on

* `World` — the rows of the storage, the objects, the in-memory queue and the workers' stop flags;
  `World.crash` is what the end of the process leaves of it.
* `SampleTxn` — the transactions of the batch; `atomically_create` and its siblings say what each
  does.
* `Op` — everything a coordinator or a worker may ask for: reads and transactions, the clock, the
  queue, the object store and the backend. The clock, fresh ULIDs and the backend's answers are the
  environment's.
* `World.sample` — the decoded row of a sample, which is what the claims are about; `World.Rowed`
  says that every sample row encodes a record under its own id.
-/

set_option linter.unusedSectionVars false

namespace Rollout.Batch

open Rollout.Lib Rollout.Core

/-! ## Transactions -/

/-- The transactions of a batch and of its queue.
Source: `rollout-runtime-batch/src/coordinator.rs`, `worker.rs`, `rollout-cloud-local/src/queue.rs`.
Kind: D -/
inductive SampleTxn
  | create (record : SampleRecord)
  | repending (running : SampleRecord)
  | claim (record : SampleRecord) (workerId : WorkerId) (nowMs staleAfterMs : BitVec 64)
  | complete (running : SampleRecord) (completionBlob : ContentId) (finishedAtMs : BitVec 64)
  | fail (running : SampleRecord) (reason : Text) (failedAtMs : BitVec 64)
  | enqueue (id : Ulid) (payload : Bytes)
  | ack (id : Ulid)

/-- What each returns. Source: `rollout-runtime-batch/src/coordinator.rs`, `worker.rs`. Kind: D -/
@[reducible] def SampleTxn.Resp : SampleTxn → Type
  | .create .. => Unit
  | .repending .. => Bool
  | .claim .. => Bool
  | .complete .. => Bool
  | .fail .. => Bool
  | .enqueue .. => Unit
  | .ack .. => Unit

/-- The row a queue entry is mirrored in.
Source: `rollout-cloud-local/src/queue.rs` `key_for`. Kind: D -/
def keyFor (id : Ulid) : StorageKey := ⟨"cloudlocal_queue", none, [id.display]⟩

@[simp] theorem keyFor_inj {a b : Ulid} : keyFor a = keyFor b ↔ a = b := by
  simp [keyFor]

@[simp] theorem sampleKey_ne_keyFor (runId : RunId) (sid : ContentId) (id : Ulid) :
    sampleKey runId sid ≠ keyFor id := by
  simp [sampleKey, keyFor]

section bodies

variable {m : Type → Type} [Monad m] [StorageTxn m] (runId : RunId)

/-- Commit when the compare-and-swap was applied, else abort.
Source: `rollout-runtime-batch/src/coordinator.rs`, `worker.rs` (around each `try_*`). Kind: D -/
def commitIf (cas : m Bool) : m Bool := do
  let applied ← cas
  if applied then
    StorageTxn.commit
    return true
  else
    StorageTxn.abort
    return false

/-- What each transaction runs.
Source: `rollout-runtime-batch/src/coordinator.rs`, `worker.rs`, `rollout-cloud-local/src/queue.rs`.
Kind: D -/
def SampleTxn.body : (t : SampleTxn) → m t.Resp
  | .create record => do
      StorageTxn.putBytes (sampleKey runId record.id) (encodeRecord record)
      StorageTxn.commit
  | .repending running => commitIf (tryRepending running runId)
  | .claim record workerId nowMs staleAfterMs =>
      commitIf (tryClaim record runId workerId nowMs staleAfterMs)
  | .complete running completionBlob finishedAtMs =>
      commitIf (tryComplete running runId completionBlob finishedAtMs)
  | .fail running reason failedAtMs => do
      let applied ← tryFail running runId reason failedAtMs
      StorageTxn.commit
      return applied
  | .enqueue id payload => do
      StorageTxn.putBytes (keyFor id) payload
      StorageTxn.commit
  | .ack id => do
      StorageTxn.delete (keyFor id)
      StorageTxn.commit

end bodies

/-- The transactions of a batch over one run.
Source: `rollout-runtime-batch/src/coordinator.rs`, `worker.rs`. Kind: D -/
@[reducible] def sampleTxns (runId : RunId) : Txns StorageKey Bytes where
  Name := SampleTxn
  Resp := SampleTxn.Resp
  body := SampleTxn.body runId

/-! ## What the transactions do -/

section effects

variable (runId : RunId) (s : Rows)

/-- Replace the row of a record by the same record in another state, if it is still that.
Source: none: infrastructure. Kind: D -/
def swap (record : SampleRecord) (state : SampleState) : Bool × Rows :=
  if s.get (sampleKey runId record.id) = some (encodeRecord record) then
    (true, s.put (sampleKey runId record.id) (encodeRecord { record with state }))
  else (false, s)

theorem run_casState (record : SampleRecord) (state : SampleState) (t : Txn StorageKey Bytes) :
    (casState record runId state : TxnM StorageKey Bytes Bool).run t =
      pure ((swap runId t.work record state).1,
        { t with work := (swap runId t.work record state).2 }) := by
  unfold casState swap
  rw [TxnM.run_casBytes]
  split <;> rfl

theorem atomically_commitIf_casState (record : SampleRecord) (state : SampleState) :
    atomically (commitIf (casState record runId state)) s = swap runId s record state := by
  unfold atomically commitIf
  simp only [StateT.run_bind, run_casState, pure_bind]
  unfold swap
  split <;> rfl

@[simp] theorem atomically_create (record : SampleRecord) :
    atomically (SampleTxn.body runId (.create record)) s =
      ((), s.put (sampleKey runId record.id) (encodeRecord record)) := rfl

@[simp] theorem atomically_repending (running : SampleRecord) :
    atomically (SampleTxn.body runId (.repending running)) s =
      swap runId s running .pending :=
  atomically_commitIf_casState runId s running .pending

@[simp] theorem atomically_complete (running : SampleRecord) (blob : ContentId)
    (finishedAtMs : BitVec 64) :
    atomically (SampleTxn.body runId (.complete running blob finishedAtMs)) s =
      swap runId s running (.done blob finishedAtMs) :=
  atomically_commitIf_casState runId s running _

@[simp] theorem atomically_fail (running : SampleRecord) (reason : Text)
    (failedAtMs : BitVec 64) :
    atomically (SampleTxn.body runId (.fail running reason failedAtMs)) s =
      swap runId s running (.failed reason failedAtMs) := by
  unfold atomically SampleTxn.body tryFail
  simp only [StateT.run_bind, run_casState, pure_bind]
  unfold swap
  split <;> rfl

@[simp] theorem atomically_claim (record : SampleRecord) (workerId : WorkerId)
    (nowMs staleAfterMs : BitVec 64) :
    atomically (SampleTxn.body runId (.claim record workerId nowMs staleAfterMs)) s =
      if claimable record.state nowMs staleAfterMs then
        swap runId s record (.running workerId nowMs)
      else (false, s) := by
  show atomically (commitIf (tryClaim record runId workerId nowMs staleAfterMs)) s = _
  unfold tryClaim
  cases claimable record.state nowMs staleAfterMs with
  | false => rfl
  | true => exact atomically_commitIf_casState runId s record _

/-- Whether a swap is applied is whether the row is still the record.
Source: none: infrastructure. Kind: L -/
theorem swap_cases (record : SampleRecord) (state : SampleState) :
    (s.get (sampleKey runId record.id) = some (encodeRecord record) ∧
        swap runId s record state =
          (true, s.put (sampleKey runId record.id) (encodeRecord { record with state }))) ∨
      (s.get (sampleKey runId record.id) ≠ some (encodeRecord record) ∧
        swap runId s record state = (false, s)) := by
  by_cases h : s.get (sampleKey runId record.id) = some (encodeRecord record)
  · exact .inl ⟨h, if_pos h⟩
  · exact .inr ⟨h, if_neg h⟩

@[simp] theorem atomically_enqueue (id : Ulid) (payload : Bytes) :
    atomically (SampleTxn.body runId (.enqueue id payload)) s = ((), s.put (keyFor id) payload) :=
  rfl

@[simp] theorem atomically_ack (id : Ulid) :
    atomically (SampleTxn.body runId (.ack id)) s = ((), s.del (keyFor id)) := rfl

end effects

/-! ## The world -/

/-- What the coordinators and workers of a batch share.
Source: `rollout-cli/src/infer.rs` `run_pool` (its `Arc`s). Kind: D -/
structure World where
  /-- The rows of the storage. -/
  rows : Rows
  /-- The objects of the object store. -/
  objects : KV ContentId (Sized UInt8)
  /-- The in-memory queue. -/
  deque : List (Ulid × Bytes)
  /-- The stop-pull flag of each worker. -/
  stopPull : WorkerId → Bool

namespace World

/-- An output directory nothing has been written to. Source: none: infrastructure. Kind: D -/
def fresh : World := ⟨∅, ∅, [], fun _ => false⟩

/-- What the end of the process leaves: the rows and the objects.
Source: none: infrastructure. Kind: D -/
def crash (w : World) : World := { w with deque := [], stopPull := fun _ => false }

/-- The decoded row of a sample.
Source: `rollout-runtime-batch/src/coordinator.rs` `load_sample`. Kind: D -/
def sample (w : World) (runId : RunId) (sid : ContentId) : Option SampleRecord :=
  (w.rows.get (sampleKey runId sid)).bind fun bytes => (decodeRecord bytes).toOption

/-- Every sample row encodes a record under its own id. Source: none: infrastructure. Kind: D -/
def Rowed (w : World) (runId : RunId) : Prop :=
  ∀ sid bytes, w.rows.get (sampleKey runId sid) = some bytes →
    ∃ record : SampleRecord, record.id = sid ∧ bytes = encodeRecord record

variable {w w' : World} {runId : RunId} {sid : ContentId} {record : SampleRecord}

theorem sample_congr (h : w'.rows.get (sampleKey runId sid) = w.rows.get (sampleKey runId sid)) :
    w'.sample runId sid = w.sample runId sid := by
  unfold sample
  rw [h]

theorem sample_eq_some :
    w.sample runId sid = some record ↔
      ∃ bytes, w.rows.get (sampleKey runId sid) = some bytes ∧ decodeRecord bytes = .ok record := by
  unfold sample
  rw [Option.bind_eq_some_iff]
  refine exists_congr fun bytes => and_congr_right fun _ => ?_
  cases decodeRecord bytes with
  | error e => exact iff_of_false (by rintro ⟨⟩) (by rintro ⟨⟩)
  | ok r => exact ⟨fun h => congrArg _ (Option.some.inj h), fun h => congrArg _ (Except.ok.inj h)⟩

theorem sample_of_get (h : w.rows.get (sampleKey runId sid) = some (encodeRecord record)) :
    w.sample runId sid = some record :=
  sample_eq_some.mpr ⟨_, h, decodeRecord_encodeRecord record⟩

theorem sample_of_decode {bytes : Bytes} (h : w.rows.get (sampleKey runId sid) = some bytes)
    (hdec : decodeRecord bytes = .ok record) : w.sample runId sid = some record :=
  sample_eq_some.mpr ⟨bytes, h, hdec⟩

theorem sample_of_none (h : w.rows.get (sampleKey runId sid) = none) :
    w.sample runId sid = none := by
  unfold sample
  rw [h]
  rfl

namespace Rowed

theorem get_eq (h : w.Rowed runId) :
    w.rows.get (sampleKey runId sid) = (w.sample runId sid).map encodeRecord := by
  cases hget : w.rows.get (sampleKey runId sid) with
  | none => rw [sample_of_none hget, Option.map_none]
  | some bytes =>
      obtain ⟨record, -, rfl⟩ := h sid bytes hget
      rw [sample_of_get hget, Option.map_some]

/-- A row is a record exactly when it is its encoding. Source: none: infrastructure. Kind: L -/
theorem get_iff (h : w.Rowed runId) :
    w.rows.get (sampleKey runId sid) = some (encodeRecord record) ↔
      w.sample runId sid = some record := by
  rw [h.get_eq, Option.map_eq_some_iff]
  constructor
  · rintro ⟨r, hr, henc⟩
    rw [hr, encodeRecord_inj.mp henc]
  · intro hr
    exact ⟨record, hr, rfl⟩

theorem id_eq (h : w.Rowed runId) (hs : w.sample runId sid = some record) : record.id = sid := by
  obtain ⟨r, hid, henc⟩ := h sid _ (h.get_iff.mpr hs)
  rw [encodeRecord_inj.mp henc, hid]

/-- Rows that are written one at a time, each under its own id, stay so.
Source: none: infrastructure. Kind: L -/
theorem put (h : w.Rowed runId)
    (hput : w'.rows = w.rows.put (sampleKey runId record.id) (encodeRecord record)) :
    w'.Rowed runId := by
  intro sid bytes hget
  rw [hput, KV.get_put] at hget
  split at hget
  · next hsid =>
    exact ⟨record, (sampleKey_inj.mp hsid).symm, (Option.some.inj hget).symm⟩
  · exact h sid bytes hget

/-- Rows other than those of samples do not matter. Source: none: infrastructure. Kind: L -/
theorem congr (h : w.Rowed runId)
    (hget : ∀ sid, w'.rows.get (sampleKey runId sid) = w.rows.get (sampleKey runId sid)) :
    w'.Rowed runId := by
  intro sid bytes hb
  exact h sid bytes (hget sid ▸ hb)

end Rowed

/-- The samples after one row was written. Source: none: infrastructure. Kind: L -/
theorem sample_put
    (hput : w'.rows = w.rows.put (sampleKey runId record.id) (encodeRecord record)) :
    w'.sample runId sid = if sid = record.id then some record else w.sample runId sid := by
  split
  · next hsid =>
    subst hsid
    exact sample_of_get (by rw [hput, KV.get_put_self])
  · next hsid =>
    exact sample_congr (by rw [hput, KV.get_put_of_ne _ _ _ _ (by simpa using hsid)])

end World

/-! ## Operations -/

/-- What a coordinator or a worker asks for. `sample` names the sample a generation is for; the
backend does not see it. Source: `rollout-runtime-batch/src/coordinator.rs`, `worker.rs`,
`rollout-cloud-local/src/queue.rs`. Kind: D -/
inductive Op (runId : RunId)
  | store (o : Store.Op (sampleTxns runId))
  | nowMs
  | generateUlid
  | openDeque (entries : List (Ulid × Bytes))
  | pushBack (id : Ulid) (payload : Bytes)
  | popFront
  | putObject (bytes : Sized UInt8)
  | getObject (id : ContentId)
  | generate (sample : ContentId) (prompts : List Text) (sampling : SamplingParams)
  | stopPull (workerId : WorkerId)

variable {runId : RunId}

/-- What an operation answers when it does not fail; the backend's own failure is an answer.
Source: `rollout-core/src/traits`. Kind: D -/
@[reducible] def Op.Out : Op runId → Type
  | .store o => o.Out
  | .nowMs => BitVec 64
  | .generateUlid => Ulid
  | .openDeque _ => Unit
  | .pushBack .. => Unit
  | .popFront => Option (Ulid × Bytes)
  | .putObject _ => ContentId
  | .getObject _ => Sized UInt8
  | .generate .. => Except Text (List Text)
  | .stopPull _ => Bool

/-- The operations as requests. Source: none: infrastructure. Kind: D -/
@[reducible] def requests (runId : RunId) : Requests where
  Op := Op runId
  Out := Op.Out

/-- Their interface. Source: none: infrastructure. Kind: D -/
@[reducible] def iface (runId : RunId) : Iface := (requests runId).iface CoreError

/-- Programs of a batch. Source: none: infrastructure. Kind: D -/
abbrev BatchM (runId : RunId) := Prog (iface runId) CoreError

/-- Issue an operation; its failure ends the program. Source: none: infrastructure. Kind: D -/
@[reducible] def ask (o : Op runId) : BatchM runId o.Out := Lib.ask (R := requests runId) o

instance : Storage (BatchM runId) where
  getBytes key := ask (.store (.get key))
  scanBytes range :=
    cutOff range.limit <$>
      ask (.store (.scan fun key => keyHasPrefix key range.pfx) : Op runId)

/-- What the environment decides: the clock, a fresh ULID, the backend's answer.
Source: none: infrastructure. Kind: D -/
structure Choice where
  /-- The clock, in Unix milliseconds. -/
  time : BitVec 64 := 0
  /-- The next ULID. -/
  ulid : Ulid := ⟨0⟩
  /-- What the backend returns. -/
  answer : Except Text (List Text) := .ok []

variable [Blake3]

/-- The effect of an operation; only reading an object that is not there has none.
Source: `rollout-cloud-local/src/queue.rs`, `object_store.rs`. Kind: D -/
def perform (ch : Choice) : (o : Op runId) → World → Option (o.Out × World)
  | .store o, w => some ((Store.perform o w.rows).1, { w with rows := (Store.perform o w.rows).2 })
  | .nowMs, w => some (ch.time, w)
  | .generateUlid, w => some (ch.ulid, w)
  | .openDeque entries, w => some ((), { w with deque := entries })
  | .pushBack id payload, w => some ((), { w with deque := w.deque ++ [(id, payload)] })
  | .popFront, w => some (w.deque.head?, { w with deque := w.deque.tail })
  | .putObject bytes, w =>
      some (.of bytes.1, { w with objects := w.objects.putNew (.of bytes.1) bytes })
  | .getObject id, w => (w.objects.get id).map fun bytes => (bytes, w)
  | .generate .., w => some (ch.answer, w)
  | .stopPull workerId, w => some (w.stopPull workerId, w)

/-- **The world as a service.** A failed operation changes nothing.
Source: none: infrastructure. Kind: D -/
@[reducible] def service (runId : RunId) (ι : Type) : Service (requests runId) ι World where
  Choice := Choice
  perform ch _ o w := perform ch o w
  fail _ w := w
  Tick := Empty
  tick t := t.elim

/-- Its machine. Source: none: infrastructure. Kind: D -/
@[reducible] def machine (runId : RunId) (ι : Type) : Machine (iface runId) ι World :=
  (service runId ι).machine CoreError

instance {ι : Type} : IsEmpty (machine runId ι).Tick := ⟨fun t => Empty.elim t⟩

/-- Events of a batch. Source: none: infrastructure. Kind: D -/
abbrev BatchEvent (runId : RunId) (ι : Type) := Event (iface runId) ι World

/-- **All an event can do to the rows**: what a transaction that took effect does, or nothing.
Source: none: infrastructure. Kind: L -/
theorem event_cases {ι : Type} {e : BatchEvent runId ι} (h : (machine runId ι).Does e) :
    (e.post.rows = e.pre.rows ∧ ∀ i t a w w', e ≠ ⟨i, .store (.txn t), .ok a, w, w'⟩) ∨
      ∃ i t a w w', e = ⟨i, .store (.txn t), .ok a, w, w'⟩ ∧
        atomically (SampleTxn.body runId t) w.rows = (a, w'.rows) := by
  obtain ⟨i, o, r, w, w'⟩ := e
  rcases Service.does_iff.mp h with ⟨err, rfl, rfl⟩ | ⟨ch, a, hperf, rfl⟩
  · exact .inl ⟨rfl, by intro _ _ _ _ _ he; cases he⟩
  · cases o with
    | store o =>
        obtain ⟨rfl, rfl⟩ := Prod.mk.inj (Option.some.inj hperf)
        cases o with
        | get k => exact .inl ⟨rfl, by intro _ _ _ _ _ he; cases he⟩
        | scan p => exact .inl ⟨rfl, by intro _ _ _ _ _ he; cases he⟩
        | txn t => exact .inr ⟨i, t, _, w, _, rfl, rfl⟩
    | getObject id =>
        obtain ⟨bytes, -, hres⟩ := Option.map_eq_some_iff.mp hperf
        obtain ⟨-, rfl⟩ := Prod.mk.inj hres
        exact .inl ⟨rfl, by intro _ _ _ _ _ he; cases he⟩
    | _ =>
        obtain ⟨-, rfl⟩ := Prod.mk.inj (Option.some.inj hperf)
        exact .inl ⟨rfl, by intro _ _ _ _ _ he; cases he⟩

end Rollout.Batch
