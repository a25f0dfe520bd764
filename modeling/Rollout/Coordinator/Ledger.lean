import Mathlib.Data.List.Sort
import Rollout.Coordinator.WorkItem

/-!
# Dispatch queue and ledger

* `enqueue` puts a payload under a fresh ULID; `dispatch` takes the entry with the least key, puts
  a pending ledger row under the digest of the payload, claims it and deletes the entry.
* The head of the queue is read through the storage handle (`nextPendingEntry`); the three writes
  are statements of the caller's transaction (`dispatchEntry`).
* `backlog`, `busiest` — who runs how much, from a scan of the ledger.
-/

set_option linter.unusedSectionVars false

namespace Rollout.Coordinator.Ledger

open Rollout.Lib Rollout.Core Rollout.Coordinator.WorkItem

/-! ## Keys -/

/-- A dispatch-queue entry. Source: `rollout-coordinator/src/ledger.rs` `queue_key`. Kind: D -/
def queueKey (runId : RunId) (ulid : Ulid) : StorageKey :=
  ⟨"queue_items", some runId, ["q", ulid.display]⟩

/-- The whole queue of a run.
Source: `rollout-coordinator/src/ledger.rs` `queue_prefix`. Kind: D -/
def queuePrefix (runId : RunId) : KeyRange := ⟨⟨"queue_items", some runId, ["q"]⟩, none⟩

@[simp] theorem queueKey_inj {runId : RunId} {a b : Ulid} :
    queueKey runId a = queueKey runId b ↔ a = b := by
  simp [queueKey]

theorem queueKey_ne_workKey (runId : RunId) (ulid : Ulid) (id : ContentId) :
    queueKey runId ulid ≠ workKey runId id := by
  simp [queueKey, workKey]

/-- Whether a key is one of the queue. Source: none: infrastructure. Kind: D -/
abbrev inQueue (runId : RunId) (key : StorageKey) : Bool :=
  keyHasPrefix key (queuePrefix runId).pfx

/-- Whether a key is one of the ledger. Source: none: infrastructure. Kind: D -/
abbrev inLedger (runId : RunId) (key : StorageKey) : Bool :=
  keyHasPrefix key (workPrefix runId).pfx

@[simp] theorem inQueue_queueKey (runId : RunId) (ulid : Ulid) :
    inQueue runId (queueKey runId ulid) = true := by
  simp [inQueue, keyHasPrefix, queueKey, queuePrefix]

@[simp] theorem inQueue_workKey (runId : RunId) (id : ContentId) :
    inQueue runId (workKey runId id) = false := by
  simp [inQueue, keyHasPrefix, workKey, queuePrefix]

@[simp] theorem inLedger_workKey (runId : RunId) (id : ContentId) :
    inLedger runId (workKey runId id) = true := by
  simp [inLedger, keyHasPrefix, workKey, workPrefix]

theorem not_inLedger_of_inQueue {runId : RunId} {key : StorageKey}
    (h : inQueue runId key = true) : inLedger runId key = false := by
  unfold inQueue keyHasPrefix at h
  unfold inLedger keyHasPrefix
  split at h
  · simp at h
  · next hns =>
    have hqueue : key.ns = "queue_items" := Decidable.not_not.mp hns
    rw [if_pos]
    rw [hqueue]
    show "queue_items" ≠ "work"
    decide

/-! ## The queue -/

/-- Write a queue row keyed by a fresh ULID.
Source: `rollout-coordinator/src/ledger.rs` `enqueue`. Kind: D -/
def enqueue {m : Type → Type} [Monad m] [StorageTxn m] (runId : RunId) (ulid : Ulid)
    (payload : Bytes) : m Unit :=
  StorageTxn.putBytes (queueKey runId ulid) payload

/-- Comparison of two entries on the last path segment, `none` first.
Source: `rollout-coordinator/src/ledger.rs` `next_pending_entry` (`sort_by`). Kind: D -/
def lastSegmentLe (a b : StorageKey × Bytes) : Prop :=
  match a.1.path.getLast?, b.1.path.getLast? with
  | none, _ => True
  | some _, none => False
  | some x, some y => x ≤ y

instance : DecidableRel lastSegmentLe := fun a b => by
  unfold lastSegmentLe
  split <;> infer_instance

/-- The entry with the least key. Source: `rollout-coordinator/src/ledger.rs`
`next_pending_entry`. Kind: D -/
def leastEntry (entries : List (StorageKey × Bytes)) : Option (StorageKey × Bytes) :=
  (entries.insertionSort lastSegmentLe).head?

theorem mem_of_leastEntry {entries : List (StorageKey × Bytes)} {e : StorageKey × Bytes}
    (h : leastEntry entries = some e) : e ∈ entries := by
  have hmem := List.mem_of_head? h
  rwa [List.mem_insertionSort] at hmem

section dispatch

variable [Blake3] {I : Iface}

/-- The oldest pending entry. Source: `rollout-coordinator/src/ledger.rs` `next_pending_entry`.
Kind: D -/
def nextPendingEntry [Storage (Prog I CoreError)] (runId : RunId) :
    Prog I CoreError (Option (StorageKey × Bytes)) := do
  let entries ← Storage.scanBytes (queuePrefix runId)
  return leastEntry entries

/-- The oldest pending payload with its work id.
Source: `rollout-coordinator/src/ledger.rs` `next_pending`. Kind: D -/
def nextPending [Storage (Prog I CoreError)] (runId : RunId) :
    Prog I CoreError (Option (ContentId × Bytes)) := do
  let entries ← Storage.scanBytes (queuePrefix runId)
  return (leastEntry entries).map fun e => (ContentId.of e.2, e.2)

/-- The writes of a dispatch: a pending row, the claim, and on a win the delete of the entry.
Source: `rollout-coordinator/src/ledger.rs` `dispatch`. Kind: D -/
def dispatchEntry {m : Type → Type} [Monad m] [StorageTxn m] (runId : RunId)
    (entryKey : StorageKey) (payload : Bytes) (workerId : WorkerId) (nowMs : BitVec 128) :
    m (Option ContentId) := do
  let workId := ContentId.of payload
  let record : WorkItemRecord := ⟨workId, .pending⟩
  StorageTxn.putBytes (workKey runId workId) (encodeRecord record)
  if ← tryClaim runId record workerId nowMs then
    StorageTxn.delete entryKey
    return some workId
  else return none

/-- Pop the next pending payload and assign it to a worker, in the caller's transaction.
Source: `rollout-coordinator/src/ledger.rs` `dispatch`. Kind: D -/
def dispatch [Storage (Prog I CoreError)] [StorageTxn (Prog I CoreError)] (runId : RunId)
    (workerId : WorkerId) (nowMs : BitVec 128) : Prog I CoreError (Option ContentId) := do
  match ← nextPendingEntry runId with
  | none => return none
  | some (entryKey, payload) => dispatchEntry runId entryKey payload workerId nowMs

end dispatch

/-! ## The ledger -/

/-- Source: `rollout-coordinator/src/ledger.rs` `decode`. Kind: D -/
def decode (bytes : Bytes) : Except CoreError WorkItemRecord :=
  match WorkItem.codec.fromBytes bytes with
  | some rec => .ok rec
  | none => .error (.postcardDecode "WorkItemRecord")

@[simp] theorem decode_encodeRecord (rec : WorkItemRecord) : decode (encodeRecord rec) = .ok rec := by
  unfold decode encodeRecord
  rw [Codec.fromBytes_enc]

section ledger

variable {I : Iface} [Storage (Prog I CoreError)]

/-- The decoded ledger; one row that does not decode fails the scan.
Source: `rollout-coordinator/src/ledger.rs` `backlog`, `busiest` (their loops). Kind: D -/
def scanLedger (runId : RunId) : Prog I CoreError (List WorkItemRecord) := do
  let entries ← Storage.scanBytes (workPrefix runId)
  Prog.ofExcept (entries.mapM fun e => decode e.2)

/-- How many items a worker runs. Source: `rollout-coordinator/src/ledger.rs` `backlog`.
Kind: D -/
def backlog (runId : RunId) (workerId : WorkerId) : Prog I CoreError Nat := do
  let recs ← scanLedger runId
  return recs.countP fun rec => rec.state.owner = some workerId

/-- One more item for `w`. Source: `rollout-coordinator/src/ledger.rs` `busiest`
(`counts.entry(w).or_insert(0) += 1`). Kind: D -/
def bump (w : WorkerId) : List (WorkerId × Nat) → List (WorkerId × Nat)
  | [] => [(w, 1)]
  | (v, n) :: rest => if v = w then (v, n + 1) :: rest else (v, n) :: bump w rest

/-- The larger of two backlogs, ties broken on the worker id.
Source: `rollout-coordinator/src/ledger.rs` `busiest` (`max_by`). Kind: D -/
def busier (best : Option (WorkerId × Nat)) (x : WorkerId × Nat) : Option (WorkerId × Nat) :=
  match best with
  | none => some x
  | some b =>
      if x.2 < b.2 ∨ (b.2 = x.2 ∧ x.1.ulid.bits < b.1.ulid.bits) then some b else some x

/-- The busiest worker of a decoded ledger but `exclude`.
Source: `rollout-coordinator/src/ledger.rs` `busiest`. Kind: D -/
def busiestOf (recs : List WorkItemRecord) (exclude : WorkerId) : Option (WorkerId × Nat) :=
  let owners := (recs.filterMap fun rec => rec.state.owner).filter fun w => w ≠ exclude
  (owners.foldl (fun counts w => bump w counts) []).foldl busier none

/-- The busiest worker but `exclude`. Source: `rollout-coordinator/src/ledger.rs` `busiest`.
Kind: D -/
def busiest (runId : RunId) (exclude : WorkerId) :
    Prog I CoreError (Option (WorkerId × Nat)) := do
  let recs ← scanLedger runId
  return busiestOf recs exclude

end ledger

/-! ## The reads, on a serializable storage -/

section reads

variable {T : Txns StorageKey Bytes} {β : Type}

theorem nextPendingEntry_bind (runId : RunId)
    (f : Option (StorageKey × Bytes) → Prog (Store.iface T CoreError) CoreError β) :
    nextPendingEntry runId >>= f =
      Store.ask (.scan (inQueue runId)) >>= fun entries => f (leastEntry entries) := by
  unfold nextPendingEntry
  rw [Prog.bind_assoc]
  unfold queuePrefix
  rw [scanBytes_eq]
  rfl

theorem scanLedger_bind (runId : RunId)
    (f : List WorkItemRecord → Prog (Store.iface T CoreError) CoreError β) :
    scanLedger runId >>= f =
      Store.ask (.scan (inLedger runId)) >>= fun entries =>
        Prog.ofExcept (entries.mapM fun e => decode e.2) >>= f := by
  unfold scanLedger
  rw [Prog.bind_assoc]
  unfold workPrefix
  rw [scanBytes_eq]
  rfl

end reads

/-! ## The busiest worker -/

theorem fst_mem_of_mem_bump {w : WorkerId} {counts : List (WorkerId × Nat)} {x : WorkerId × Nat}
    (h : x ∈ bump w counts) : x.1 = w ∨ ∃ n, (x.1, n) ∈ counts := by
  induction counts with
  | nil =>
      rw [bump, List.mem_singleton] at h
      rw [h]
      exact .inl rfl
  | cons y rest ih =>
      obtain ⟨v, n⟩ := y
      rw [bump] at h
      split at h
      · next hv =>
        rcases List.mem_cons.mp h with rfl | h
        · exact .inl hv
        · exact .inr ⟨x.2, List.mem_cons_of_mem _ h⟩
      · rcases List.mem_cons.mp h with rfl | h
        · exact .inr ⟨n, List.mem_cons_self⟩
        · rcases ih h with hw | ⟨k, hk⟩
          · exact .inl hw
          · exact .inr ⟨k, List.mem_cons_of_mem _ hk⟩

theorem fst_mem_of_mem_foldl_bump {owners : List WorkerId} {counts : List (WorkerId × Nat)}
    {x : WorkerId × Nat} (h : x ∈ owners.foldl (fun counts w => bump w counts) counts) :
    x.1 ∈ owners ∨ ∃ n, (x.1, n) ∈ counts := by
  induction owners generalizing counts x with
  | nil => exact .inr ⟨x.2, h⟩
  | cons w owners ih =>
      rw [List.foldl_cons] at h
      rcases ih h with hmem | ⟨n, hn⟩
      · exact .inl (List.mem_cons_of_mem _ hmem)
      · rcases fst_mem_of_mem_bump hn with rfl | hmem
        · exact .inl List.mem_cons_self
        · exact .inr hmem

theorem mem_of_foldl_busier {counts : List (WorkerId × Nat)} {best : Option (WorkerId × Nat)}
    {x : WorkerId × Nat} (h : counts.foldl busier best = some x) : x ∈ counts ∨ best = some x := by
  induction counts generalizing best with
  | nil => exact .inr h
  | cons y counts ih =>
      rw [List.foldl_cons] at h
      rcases ih h with hmem | hbest
      · exact .inl (List.mem_cons_of_mem _ hmem)
      · unfold busier at hbest
        split at hbest
        · exact .inl (by rw [Option.some.inj hbest]; exact List.mem_cons_self)
        · split at hbest
          · exact .inr hbest
          · exact .inl (by rw [Option.some.inj hbest]; exact List.mem_cons_self)

/-- **The busiest worker is not the excluded one**, so a thief never robs itself.
Source: `rollout-coordinator/src/ledger.rs` `busiest`. Kind: P -/
theorem ne_of_busiestOf {recs : List WorkItemRecord} {exclude : WorkerId} {x : WorkerId × Nat}
    (h : busiestOf recs exclude = some x) : x.1 ≠ exclude := by
  unfold busiestOf at h
  rcases mem_of_foldl_busier h with hmem | hnone
  · rcases fst_mem_of_mem_foldl_bump hmem with howner | ⟨n, hn⟩
    · simpa using (List.mem_filter.mp howner).2
    · simp at hn
  · simp at hnone

end Rollout.Coordinator.Ledger
