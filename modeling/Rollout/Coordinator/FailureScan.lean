import Rollout.Coordinator.Registry

/-!
# The failure scan

* `scanEntries` — the loop of a scan over the heartbeat rows, with the set of workers it has
  reported before.
* `mem_scanEntries` — an event is about a row; `scanEntries_beats` — over the rows of heartbeats a
  scan reports the overdue workers it has not reported before, each once, and remembers them.
-/

set_option linter.unusedSectionVars false

namespace Rollout.Coordinator

open Rollout.Lib Rollout.Core Rollout.Transport

/-! ## Events -/

/-- Log levels. Source: `rollout-core/src/traits/observability.rs` `Level`. Kind: D -/
inductive Level
  | info
  | warn
deriving DecidableEq

/-- A domain event, less its timestamp.
Source: `rollout-core/src/traits/observability.rs` `Event`. Kind: D -/
structure DomainEvent where
  /-- The topic. -/
  topic : String
  /-- The log level. -/
  level : Level
  /-- Run scope. -/
  runId : Option RunId
  /-- Worker scope. -/
  workerId : Option WorkerId
  /-- The deadline among the attributes. -/
  dueAtMs : Option (BitVec 128)
deriving DecidableEq

/-- A ULID read from text. Source: `rollout-coordinator/src/failure_scan.rs` (`parse::<Ulid>`).
Kind: D -/
def parseUlid (text : String) : Option Ulid := Ulid.ofChars text.toUTF8.data.toList

@[simp] theorem parseUlid_display (u : Ulid) : parseUlid u.display = some u := by
  unfold parseUlid
  rw [Ulid.utf8_display, Ulid.ofChars_chars]

/-- Source: `rollout-coordinator/src/failure_scan.rs` `scan_once` (`emitter.emit`). Kind: D -/
def failedEvent (rec : HeartbeatRecord) : DomainEvent where
  topic := "worker_failed"
  level := .warn
  runId := (parseUlid rec.runId).map RunId.mk
  workerId := (parseUlid rec.workerId).map WorkerId.mk
  dueAtMs := some rec.dueAtMs

/-! ## The loop -/

/-- What a scan has done so far: the events it has emitted, and the workers reported, `none` after
a panic. Source: `rollout-coordinator/src/failure_scan.rs` `scan_once`. Kind: D -/
structure Scan where
  /-- The events. -/
  events : List DomainEvent
  /-- The workers that are not reported again. -/
  alreadyFailed : Option (List String)

section scan

variable (now : SystemTime) (skew coordTimeout : Duration)

/-- One turn of the loop; what the emitter answers is ignored.
Source: `rollout-coordinator/src/failure_scan.rs` `scan_once`. Kind: D -/
def scanRow (acc : Scan) (entry : StorageKey × Bytes) : Scan :=
  match acc.alreadyFailed with
  | none => acc
  | some alreadyFailed =>
      match HeartbeatRecord.codec.fromBytes entry.2 with
      | none => acc
      | some rec =>
          match rec.isOverdue now skew coordTimeout with
          | none => ⟨acc.events, none⟩
          | some overdue =>
              if overdue = true ∧ rec.workerId ∉ alreadyFailed then
                ⟨acc.events ++ [failedEvent rec], some (rec.workerId :: alreadyFailed)⟩
              else acc

/-- The loop of a scan. Source: `rollout-coordinator/src/failure_scan.rs` `scan_once`. Kind: D -/
def scanEntries (entries : List (StorageKey × Bytes)) (alreadyFailed : List String) : Scan :=
  entries.foldl (scanRow now skew coordTimeout) ⟨[], some alreadyFailed⟩

variable {now skew coordTimeout}

/-- What a turn of the loop does with a row that was read.
Source: `rollout-coordinator/src/failure_scan.rs` `scan_once`. Kind: L -/
theorem scanRow_of_row {acc : Scan} {entry : StorageKey × Bytes} {failed : List String}
    {rec : HeartbeatRecord} {overdue : Bool} (hfailed : acc.alreadyFailed = some failed)
    (hdec : HeartbeatRecord.codec.fromBytes entry.2 = some rec)
    (hover : rec.isOverdue now skew coordTimeout = some overdue) :
    scanRow now skew coordTimeout acc entry =
      if overdue = true ∧ rec.workerId ∉ failed then
        ⟨acc.events ++ [failedEvent rec], some (rec.workerId :: failed)⟩
      else acc := by
  unfold scanRow
  rw [hfailed]
  simp only
  rw [hdec]
  simp only
  rw [hover]

/-- A turn of the loop emits at most the event of its row.
Source: `rollout-coordinator/src/failure_scan.rs` `scan_once`. Kind: L -/
theorem scanRow_events (acc : Scan) (entry : StorageKey × Bytes) :
    (∃ failed, scanRow now skew coordTimeout acc entry = ⟨acc.events, failed⟩) ∨
      ∃ rec failed, HeartbeatRecord.codec.fromBytes entry.2 = some rec ∧
        scanRow now skew coordTimeout acc entry = ⟨acc.events ++ [failedEvent rec], failed⟩ := by
  unfold scanRow
  split
  · exact .inl ⟨_, rfl⟩
  · split
    · exact .inl ⟨_, rfl⟩
    · next rec hdec =>
      split
      · exact .inl ⟨_, rfl⟩
      · split
        · exact .inr ⟨rec, _, hdec, rfl⟩
        · exact .inl ⟨_, rfl⟩

/-- **An event of a scan is about one of its rows.**
Source: `rollout-coordinator/src/failure_scan.rs` `scan_once`. Kind: L -/
theorem mem_scanEntries {entries : List (StorageKey × Bytes)} {alreadyFailed : List String}
    {ev : DomainEvent} (h : ev ∈ (scanEntries now skew coordTimeout entries alreadyFailed).events) :
    ∃ entry ∈ entries, ∃ rec, HeartbeatRecord.codec.fromBytes entry.2 = some rec ∧
      ev = failedEvent rec := by
  have hfold : ∀ acc : Scan, ev ∈ (entries.foldl (scanRow now skew coordTimeout) acc).events →
      ev ∈ acc.events ∨ ∃ entry ∈ entries, ∃ rec,
        HeartbeatRecord.codec.fromBytes entry.2 = some rec ∧ ev = failedEvent rec := by
    clear h
    induction entries with
    | nil => exact fun acc h => .inl h
    | cons entry entries ih =>
        intro acc h
        rcases ih _ h with h | ⟨entry', hmem, hev⟩
        · rcases scanRow_events acc entry with ⟨failed, heq⟩ | ⟨rec, failed, hdec, heq⟩
          · rw [heq] at h
            exact .inl h
          · rw [heq] at h
            rcases List.mem_append.mp h with h | h
            · exact .inl h
            · exact .inr ⟨entry, List.mem_cons_self, rec, hdec, List.mem_singleton.mp h⟩
        · exact .inr ⟨entry', List.mem_cons_of_mem _ hmem, hev⟩
  rcases hfold _ h with h | h
  · cases h
  · exact h

end scan

/-! ## Scans over the rows of heartbeats -/

/-- A heartbeat and when it was received.
Source: `rollout-coordinator/src/heartbeat.rs` `heartbeat`. Kind: D -/
abbrev Beat := Heartbeat × SystemTime

namespace Beat

/-- The worker that sent it. Source: `rollout-core/src/traits/worker.rs` `Heartbeat`. Kind: D -/
def worker (b : Beat) : WorkerId := b.1.workerId

/-- The row it is recorded in. Source: `rollout-coordinator/src/heartbeat.rs` `heartbeat`.
Kind: D -/
def entry (b : Beat) : StorageKey × Bytes :=
  (heartbeatKey b.worker, HeartbeatRecord.codec.enc (.of b.1 b.2))

/-- The number of events about a worker. Source: none: infrastructure. Kind: D -/
def reportsOf (worker : WorkerId) (events : List DomainEvent) : Nat :=
  events.countP fun ev => decide (ev.workerId = some worker)

@[simp] theorem reportsOf_append (worker : WorkerId) (xs ys : List DomainEvent) :
    reportsOf worker (xs ++ ys) = reportsOf worker xs + reportsOf worker ys :=
  List.countP_append ..

/-- The event about the row of a heartbeat is about its worker and its run.
Source: `rollout-coordinator/src/failure_scan.rs` `scan_once`. Kind: L -/
theorem failedEvent_of (hb : Heartbeat) (receivedAt : SystemTime) :
    failedEvent (.of hb receivedAt) = ⟨"worker_failed", .warn, some hb.runId, some hb.workerId,
      some (SystemTime.toMs hb.dueAt)⟩ := by
  unfold failedEvent HeartbeatRecord.of
  simp only [parseUlid_display, Option.map_some]

theorem reportsOf_failedEvent (worker : WorkerId) (b : Beat) :
    reportsOf worker [failedEvent (.of b.1 b.2)] = if b.worker = worker then 1 else 0 := by
  rw [failedEvent_of]
  by_cases h : b.worker = worker
  · rw [if_pos h]
    exact List.countP_eq_length.mpr fun ev hev => by
      rw [List.mem_singleton.mp hev]
      exact decide_eq_true (congrArg some h)
  · rw [if_neg h]
    exact List.countP_eq_zero.mpr fun ev hev => by
      rw [List.mem_singleton.mp hev]
      exact fun hdec => h (Option.some.inj (of_decide_eq_true hdec))

variable (now : SystemTime) (skew coordTimeout : Duration)

theorem workerId_of (b : Beat) : (HeartbeatRecord.of b.1 b.2).workerId = b.worker.ulid.display :=
  rfl

/-- Whether a scan finds its worker overdue.
Source: `rollout-coordinator/src/failure_scan.rs` `scan_once`. Kind: D -/
def overdue (b : Beat) : Bool :=
  ((HeartbeatRecord.of b.1 b.2).isOverdue now skew coordTimeout).getD false

variable {now skew coordTimeout}

theorem isOverdue_eq (b : Beat) : (HeartbeatRecord.of b.1 b.2).isOverdue now skew coordTimeout =
    some (b.overdue now skew coordTimeout) := by
  obtain ⟨due, -, hover⟩ := HeartbeatRecord.isOverdue_of b.1 b.2 now skew coordTimeout
  unfold overdue
  rw [hover]
  rfl

theorem scanRow_entry {acc : Scan} {failed : List String}
    (hfailed : acc.alreadyFailed = some failed)
    (b : Beat) : scanRow now skew coordTimeout acc b.entry =
      if b.overdue now skew coordTimeout = true ∧ b.worker.ulid.display ∉ failed then
        ⟨acc.events ++ [failedEvent (.of b.1 b.2)], some (b.worker.ulid.display :: failed)⟩
      else acc := by
  have hdec : HeartbeatRecord.codec.fromBytes b.entry.2 = some (.of b.1 b.2) :=
    Codec.fromBytes_enc HeartbeatRecord.codec _
  rw [scanRow_of_row hfailed hdec b.isOverdue_eq, b.workerId_of]

/-- Some heartbeat of the worker among `beats` is overdue. Source: none: infrastructure. Kind: D -/
def AnyOverdue (now : SystemTime) (skew coordTimeout : Duration) (worker : WorkerId)
    (beats : List Beat) : Prop :=
  ∃ b ∈ beats, b.worker = worker ∧ b.overdue now skew coordTimeout = true

instance (worker : WorkerId) (beats : List Beat) :
    Decidable (AnyOverdue now skew coordTimeout worker beats) :=
  inferInstanceAs (Decidable (∃ b ∈ beats, _))

theorem anyOverdue_cons {worker : WorkerId} {b : Beat} {beats : List Beat} :
    AnyOverdue now skew coordTimeout worker (b :: beats) ↔
      (b.worker = worker ∧ b.overdue now skew coordTimeout = true) ∨
        AnyOverdue now skew coordTimeout worker beats := by
  simp [AnyOverdue]

/-- The loop from any point of a scan on.
Source: `rollout-coordinator/src/failure_scan.rs` `scan_once`. Kind: L -/
theorem foldl_scanRow (beats : List Beat) {acc : Scan} {failed : List String}
    (hfailed : acc.alreadyFailed = some failed) :
    ∃ new failed', (beats.map entry).foldl (scanRow now skew coordTimeout) acc =
        ⟨acc.events ++ new, some failed'⟩ ∧
      ∀ worker : WorkerId, (worker.ulid.display ∈ failed' ↔
          worker.ulid.display ∈ failed ∨ AnyOverdue now skew coordTimeout worker beats) ∧
        reportsOf worker new = if worker.ulid.display ∉ failed ∧
          AnyOverdue now skew coordTimeout worker beats then 1 else 0 := by
  induction beats generalizing acc failed with
  | nil =>
      refine ⟨[], failed, ?_, fun worker => ⟨by simp [AnyOverdue], ?_⟩⟩
      · obtain ⟨events, alreadyFailed⟩ := acc
        obtain rfl : alreadyFailed = some failed := hfailed
        simp
      · simp [AnyOverdue, reportsOf]
  | cons b beats ih =>
      rw [List.map_cons, List.foldl_cons, scanRow_entry hfailed]
      by_cases hnew : b.overdue now skew coordTimeout = true ∧ b.worker.ulid.display ∉ failed
      · rw [if_pos hnew]
        obtain ⟨new, failed', hfold, hspec⟩ := @ih ⟨acc.events ++ [failedEvent (.of b.1 b.2)],
          some (b.worker.ulid.display :: failed)⟩ _ rfl
        refine ⟨failedEvent (.of b.1 b.2) :: new, failed', by rw [hfold]; simp, fun worker => ?_⟩
        obtain ⟨hmem, hcount⟩ := hspec worker
        simp only [anyOverdue_cons]
        rw [← List.singleton_append, reportsOf_append, reportsOf_failedEvent]
        by_cases hworker : b.worker = worker
        · subst hworker
          simp only [hmem, hcount, hnew]
          simp
        · have hname : worker.ulid.display ≠ b.worker.ulid.display := by
            simpa [WorkerId.ulid_inj] using Ne.symm hworker
          simp only [hmem, hcount, hworker, List.mem_cons, hname]
          simp
      · rw [if_neg hnew]
        obtain ⟨new, failed', hfold, hspec⟩ := ih hfailed
        refine ⟨new, failed', hfold, fun worker => ?_⟩
        obtain ⟨hmem, hcount⟩ := hspec worker
        -- a row that adds nothing is not overdue, or its worker was reported before
        have hold : b.worker = worker ∧ b.overdue now skew coordTimeout = true →
            worker.ulid.display ∈ failed := by
          rintro ⟨rfl, hover⟩
          by_contra hnot
          exact hnew ⟨hover, hnot⟩
        simp only [anyOverdue_cons, hmem, hcount]
        by_cases hname : worker.ulid.display ∈ failed
        · simp [hname]
        · have hnot : ¬ (b.worker = worker ∧ b.overdue now skew coordTimeout = true) :=
            mt hold hname
          simp only [hnot, false_or]
          simp

/-- **What a scan does** over the rows of heartbeats: it reports the overdue workers it has not
reported before, each once, and remembers them.
Source: `rollout-coordinator/src/failure_scan.rs` `scan_once`. Kind: P -/
theorem scanEntries_beats (beats : List Beat) (failed : List String) :
    ∃ failed', (scanEntries now skew coordTimeout (beats.map entry) failed).alreadyFailed =
        some failed' ∧
      ∀ worker : WorkerId, (worker.ulid.display ∈ failed' ↔
          worker.ulid.display ∈ failed ∨ AnyOverdue now skew coordTimeout worker beats) ∧
        reportsOf worker (scanEntries now skew coordTimeout (beats.map entry) failed).events =
          if worker.ulid.display ∉ failed ∧ AnyOverdue now skew coordTimeout worker beats then 1
          else 0 := by
  obtain ⟨new, failed', hfold, hspec⟩ :=
    @foldl_scanRow now skew coordTimeout beats ⟨[], some failed⟩ failed rfl
  unfold scanEntries
  rw [hfold]
  exact ⟨failed', rfl, hspec⟩

end Beat

end Rollout.Coordinator
