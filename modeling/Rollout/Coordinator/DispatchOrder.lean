import Rollout.CloudLocal.Queue
import Rollout.Coordinator.LedgerSystem
import Rollout.Coordinator.StealRequest
import Rollout.Lib.Fifo

/-!
# The order of dispatch

Enqueue and dispatch calls one after the other, each in a transaction of its own that may fail at
any of its operations.

* `Ulids` — `Ulid::new` of the ULID library, a parameter with what its documentation says: the high
  bits are the clock, the low bits are random.
* `Queued` — the rows of the queue are what waits, in the order of its ids.
* `dispatch_in_order` — as long as every enqueue draws an id above those that wait, the queue is
  first-in first-out; two ids of one millisecond need not come in order (`later_id_below`).
-/

set_option linter.unusedSectionVars false

namespace Rollout.Coordinator.Ledger

open Rollout.Lib Rollout.Core Rollout.Coordinator.WorkItem
open Rollout.Coordinator.Steal (SessionM begin casBytes_eq commit_eq)
open Rollout.CloudLocal (timestampMs)

/-- The random part of a ULID: its last 80 bits.
Source: `rollout-coordinator/src/ledger.rs` (`ulid::Ulid`). Kind: D -/
def randomPart (id : Ulid) : Nat := id.bits.toNat % 2 ^ 80

/-- **A fresh identifier of the ULID library**, given what the clock shows and what is drawn, with
what its documentation says of the two parts.
Source: `rollout-coordinator/src/ledger.rs` `enqueue` (`ulid::Ulid::new`). Kind: D -/
class Ulids where
  /-- The identifier. -/
  new : Nat → BitVec 80 → Ulid
  timestamp_new : ∀ now random, timestampMs (new now random) = now % 2 ^ 48
  random_new : ∀ now random, randomPart (new now random) = random.toNat

/-! ## The calls -/

/-- An enqueue in a transaction of its own.
Source: `rollout-coordinator/src/ledger.rs` `enqueue`. Kind: D -/
def oneEnqueue (runId : RunId) (ulid : Ulid) (payload : Bytes) : SessionM Unit := do
  begin
  enqueueTxn runId ulid payload

/-- A dispatch in a transaction of its own.
Source: `rollout-coordinator/src/ledger.rs` `dispatch`. Kind: D -/
def oneDispatch [Blake3] (runId : RunId) (workerId : WorkerId) (nowMs : BitVec 128) :
    SessionM (Option ContentId) := do
  begin
  let workId ← dispatch runId workerId nowMs
  StorageTxn.commit
  return workId

section calls

variable [Blake3] {runId : RunId} {workerId : WorkerId} {nowMs : BitVec 128} {e : CoreError}

/-- The row of the oldest entry. Source: `rollout-coordinator/src/ledger.rs` `next_pending_entry`.
Kind: D -/
def oldest (runId : RunId) (rows : Rows) : Option (StorageKey × Bytes) :=
  leastEntry (rows.scan (inQueue runId))

/-- The rows a dispatch of an entry leaves.
Source: `rollout-coordinator/src/ledger.rs` `dispatch`. Kind: D -/
def handOut (runId : RunId) (workerId : WorkerId) (nowMs : BitVec 128) (rows : Rows)
    (entry : StorageKey × Bytes) : Rows :=
  let workId := ContentId.of entry.2
  (rows.put (workKey runId workId) (encodeRecord ⟨workId, .running workerId nowMs⟩)).del entry.1

@[simp] theorem putBytes_eq (key : StorageKey) (value : Bytes) :
    (StorageTxn.putBytes key value : SessionM Unit) = Session.ask (.put key value) := rfl

@[simp] theorem delete_eq (key : StorageKey) :
    (StorageTxn.delete key : SessionM Unit) = Session.ask (.delete key) := rfl

theorem scanQueue_session (runId : RunId) :
    (Storage.scanBytes (queuePrefix runId) : SessionM (List (StorageKey × Bytes))) =
      Session.ask (.scan (inQueue runId)) :=
  Prog.bind_ret (Session.ask (.scan (inQueue runId)))

/-- All an enqueue can do. Source: `rollout-coordinator/src/ledger.rs` `enqueue`. Kind: L -/
theorem failing_oneEnqueue (ulid : Ulid) (payload : Bytes) (rows : Rows) (count : Option Nat) :
    Session.failing () e (oneEnqueue runId ulid payload) (.idle rows) count =
      some (if count.any (· < 3) then (.error e, .idle rows, none)
        else (.ok (), .idle (rows.put (queueKey runId ulid) payload), count.map (· - 3))) := by
  rcases count with _ | _ | _ | _ | n <;>
    simp [oneEnqueue, enqueueTxn, begin, enqueue, Session.failing_bind]

/-- The writes of a dispatch. Its claim cannot lose: it swaps the row it has just put.
Source: `rollout-coordinator/src/ledger.rs` `dispatch`. Kind: L -/
theorem failing_dispatchEntry (entry : StorageKey × Bytes) (rows : Rows) (count : Option Nat) :
    Session.failing () e (dispatchEntry runId entry.1 entry.2 workerId nowMs)
        (.within rows () rows) count =
      some (if count.any (· < 3) then (.error e, .idle rows, none)
        else (.ok (some (ContentId.of entry.2)),
          .within rows () (handOut runId workerId nowMs rows entry), count.map (· - 3))) := by
  rcases count with _ | _ | _ | _ | n <;>
    simp [dispatchEntry, tryClaim, handOut, Session.failing_bind]

/-- **All a dispatch can do**: it fails and changes nothing, it finds nothing, or it hands out the
oldest entry. Source: `rollout-coordinator/src/ledger.rs` `dispatch`. Kind: L -/
theorem failing_oneDispatch (rows : Rows) (count : Option Nat) :
    Session.failing () e (oneDispatch runId workerId nowMs) (.idle rows) count =
      some (match oldest runId rows with
        | none =>
            if count.any (· < 3) then (.error e, .idle rows, none)
            else (.ok none, .idle rows, count.map (· - 3))
        | some entry =>
            if count.any (· < 6) then (.error e, .idle rows, none)
            else (.ok (some (ContentId.of entry.2)),
              .idle (handOut runId workerId nowMs rows entry), count.map (· - 6))) := by
  unfold oldest
  rcases h : leastEntry (rows.scan (inQueue runId)) with _ | entry
  · rcases count with _ | _ | _ | _ | n <;>
      simp [oneDispatch, begin, dispatch, nextPendingEntry, scanQueue_session,
        Session.failing_bind, h]
  · have h3 : ∀ n : Nat, ¬ n + 1 + 1 + 1 < 3 := fun n => by omega
    have h6 : ∀ n : Nat, ¬ n + 1 + 1 + 1 + 1 + 1 + 1 < 6 := fun n => by omega
    rcases count with _ | _ | _ | _ | _ | _ | _ | n <;>
      simp [oneDispatch, begin, dispatch, nextPendingEntry, scanQueue_session,
        Session.failing_bind, h,
        failing_dispatchEntry, h3, h6]

/-! ## What waits -/

instance : Std.Total lastSegmentLe where
  total a b := by
    unfold lastSegmentLe
    rcases a.1.path.getLast? with _ | x <;> rcases b.1.path.getLast? with _ | y
    · exact .inl trivial
    · exact .inl trivial
    · exact .inr trivial
    · exact le_total x y

instance : IsTrans (StorageKey × Bytes) lastSegmentLe where
  trans a b c := by
    unfold lastSegmentLe
    rcases a.1.path.getLast? with _ | x <;> rcases b.1.path.getLast? with _ | y <;>
      rcases c.1.path.getLast? with _ | z
    all_goals simp
    exact le_trans

/-- The least entry is the one no other comes before.
Source: `rollout-coordinator/src/ledger.rs` `next_pending_entry`. Kind: L -/
theorem leastEntry_eq_some {entries : List (StorageKey × Bytes)} {x : StorageKey × Bytes}
    (hmem : x ∈ entries) (hleast : ∀ y ∈ entries, y ≠ x → ¬ lastSegmentLe y x) :
    leastEntry entries = some x := by
  have hsorted := List.pairwise_insertionSort lastSegmentLe entries
  have hx : x ∈ entries.insertionSort lastSegmentLe := (List.mem_insertionSort _).mpr hmem
  unfold leastEntry
  rcases hlist : entries.insertionSort lastSegmentLe with _ | ⟨y, rest⟩
  · rw [hlist] at hx
    simp at hx
  · rw [hlist] at hx hsorted
    have hy : y ∈ entries := by
      rw [← List.mem_insertionSort lastSegmentLe, hlist]
      exact List.mem_cons_self
    by_contra hne
    have hyx : y ≠ x := fun heq => hne (by rw [heq]; rfl)
    rcases List.mem_cons.mp hx with rfl | hrest
    · exact hyx rfl
    · exact hleast y hy hyx ((List.pairwise_cons.mp hsorted).1 x hrest)

/-- **The rows of the queue are what waits**, in the order of its ids.
Source: `rollout-coordinator/src/ledger.rs` (`queue_items`). Kind: D -/
structure Queued (runId : RunId) (rows : Rows) (waiting : List (Ulid × Bytes)) : Prop where
  rising : waiting.Pairwise fun a b => a.1.bits.toNat < b.1.bits.toNat
  rows_iff : ∀ {key payload}, inQueue runId key = true →
    (rows.get key = some payload ↔ ∃ ulid, key = queueKey runId ulid ∧ (ulid, payload) ∈ waiting)

namespace Queued

variable {rows : Rows} {waiting : List (Ulid × Bytes)} {ulid : Ulid} {payload : Bytes}

theorem get_iff (hq : Queued runId rows waiting) :
    rows.get (queueKey runId ulid) = some payload ↔ (ulid, payload) ∈ waiting := by
  rw [hq.rows_iff (inQueue_queueKey runId ulid)]
  constructor
  · rintro ⟨ulid', hkey, hmem⟩
    rwa [queueKey_inj.mp hkey]
  · exact fun hmem => ⟨ulid, rfl, hmem⟩

/-- Rows without an entry of the queue: nothing waits. Source: none: infrastructure. Kind: L -/
theorem nil (hnone : ∀ key, inQueue runId key = true → rows.get key = none) :
    Queued runId rows [] where
  rising := List.Pairwise.nil
  rows_iff hkey := by simp [hnone _ hkey]

/-- The oldest entry is the head of what waits: the text of an id grows with it.
Source: `rollout-coordinator/src/ledger.rs` `next_pending_entry`. Kind: L -/
theorem oldest_eq (hq : Queued runId rows waiting) :
    oldest runId rows = waiting.head?.map fun x => (queueKey runId x.1, x.2) := by
  unfold oldest
  have hscan : ∀ {y}, y ∈ rows.scan (inQueue runId) ↔
      ∃ ulid, y.1 = queueKey runId ulid ∧ (ulid, y.2) ∈ waiting := by
    intro y
    rw [KV.mem_scan]
    constructor
    · exact fun ⟨hget, hin⟩ => (hq.rows_iff hin).mp hget
    · rintro ⟨ulid, hkey, hmem⟩
      have hin : inQueue runId y.1 = true := hkey ▸ inQueue_queueKey runId ulid
      exact ⟨(hq.rows_iff hin).mpr ⟨ulid, hkey, hmem⟩, hin⟩
  rcases waiting with _ | ⟨x, rest⟩
  · have hempty : rows.scan (inQueue runId) = [] := by
      refine List.eq_nil_iff_forall_not_mem.mpr fun y hy => ?_
      obtain ⟨_, _, hmem⟩ := hscan.mp hy
      simp at hmem
    rw [hempty]
    rfl
  · refine leastEntry_eq_some (hscan.mpr ⟨x.1, rfl, List.mem_cons_self⟩) ?_
    rintro ⟨key, payload⟩ hy hne hle
    obtain ⟨ulid, hkey, hmem⟩ := hscan.mp hy
    obtain rfl : key = queueKey runId ulid := hkey
    rcases List.mem_cons.mp hmem with rfl | hrest
    · exact hne rfl
    · have hlt := Ulid.display_lt ((List.pairwise_cons.mp hq.rising).1 _ hrest)
      exact absurd hlt (not_lt.mpr hle)

/-- An enqueue under an id above those that wait joins the end of the queue.
Source: `rollout-coordinator/src/ledger.rs` `enqueue`. Kind: L -/
theorem push (hq : Queued runId rows waiting)
    (hlast : ∀ x ∈ waiting, x.1.bits.toNat < ulid.bits.toNat) :
    Queued runId (rows.put (queueKey runId ulid) payload) (waiting ++ [(ulid, payload)]) where
  rising := List.pairwise_append.mpr ⟨hq.rising, List.pairwise_singleton _ _, fun x hx y hy => by
    rw [List.mem_singleton.mp hy]
    exact hlast x hx⟩
  rows_iff {key payload'} hkey := by
    by_cases h : key = queueKey runId ulid
    · subst h
      have hfresh : ∀ p, (ulid, p) ∉ waiting := fun p hmem => lt_irrefl _ (hlast _ hmem)
      rw [KV.get_put_self]
      constructor
      · intro heq
        exact ⟨ulid, rfl, by rw [Option.some.inj heq]; simp⟩
      · rintro ⟨ulid', hkey', hmem⟩
        obtain rfl := queueKey_inj.mp hkey'
        rcases List.mem_append.mp hmem with hmem | hmem
        · exact absurd hmem (hfresh _)
        · rw [(Prod.mk.inj (List.mem_singleton.mp hmem)).2]
    · rw [KV.get_put_of_ne _ _ _ _ h, hq.rows_iff hkey]
      refine exists_congr fun ulid' => and_congr_right fun hkey' => ?_
      have hne : ulid' ≠ ulid := fun heq => h (heq ▸ hkey')
      simp [hne]

/-- A dispatch takes the head off the queue.
Source: `rollout-coordinator/src/ledger.rs` `dispatch`. Kind: L -/
theorem pop (hq : Queued runId rows ((ulid, payload) :: waiting)) :
    Queued runId (handOut runId workerId nowMs rows (queueKey runId ulid, payload)) waiting where
  rising := (List.pairwise_cons.mp hq.rising).2
  rows_iff {key payload'} hkey := by
    have hhead := (List.pairwise_cons.mp hq.rising).1
    have hwork : ∀ id, key ≠ workKey runId id := by
      rintro id rfl
      simp at hkey
    unfold handOut
    by_cases h : key = queueKey runId ulid
    · subst h
      rw [KV.get_del_self]
      refine iff_of_false (by simp) ?_
      rintro ⟨ulid', hkey', hmem⟩
      obtain rfl := queueKey_inj.mp hkey'
      have hlt := hhead _ hmem
      exact lt_irrefl _ hlt
    · rw [KV.get_del_of_ne _ _ _ h, KV.get_put_of_ne _ _ _ _ (hwork _), hq.rows_iff hkey]
      refine exists_congr fun ulid' => and_congr_right fun hkey' => ?_
      have hne : ulid' ≠ ulid := fun heq => h (heq ▸ hkey')
      simp [hne]

end Queued

/-! ## Runs -/

variable [Ulids]

/-- A call. Source: `rollout-coordinator/src/ledger.rs` `enqueue`, `dispatch`. Kind: D -/
inductive QueueCall
  | enqueue (nowMs : Nat) (random : BitVec 80) (payload : Bytes)
  | dispatch (workerId : WorkerId) (nowMs : BitVec 128)

/-- What it runs. Source: `rollout-coordinator/src/ledger.rs` `enqueue`, `dispatch`. Kind: D -/
def QueueCall.body (runId : RunId) : QueueCall → SessionM (Option ContentId)
  | .enqueue nowMs random payload => do
      oneEnqueue runId (Ulids.new nowMs random) payload
      return none
  | .dispatch workerId nowMs => oneDispatch runId workerId nowMs

/-- A call of a run, the rows it found and how it ended.
Source: none: infrastructure. Kind: D -/
structure QueueRecord where
  /-- The call. -/
  call : QueueCall
  /-- The rows before. -/
  pre : Rows
  /-- How it ended. -/
  result : Except CoreError (Option ContentId)

/-- **Calls one after the other**, each of which may fail at any of its operations.
Source: `rollout-coordinator/src/ledger.rs` `enqueue`, `dispatch`. Kind: D -/
inductive QueueRun (runId : RunId) (rows₀ : Rows) : List QueueRecord → Rows → Prop
  | nil : QueueRun runId rows₀ [] rows₀
  | snoc {hist : List QueueRecord} {rows : Rows} {call : QueueCall} {e : CoreError}
      {count count' : Option Nat} {r : Except CoreError (Option ContentId)}
      {s' : Session.State StorageKey Bytes Unit} (h : QueueRun runId rows₀ hist rows)
      (hcall : Session.failing () e (call.body runId) (.idle rows) count = some (r, s', count')) :
      QueueRun runId rows₀ (hist ++ [⟨call, rows, r⟩]) s'.committed

namespace QueueRecord

/-- The payload a call that did not fail put in the queue.
Source: `rollout-coordinator/src/ledger.rs` `enqueue`. Kind: D -/
def enqueued (r : QueueRecord) : Option Bytes :=
  match r.call, r.result with
  | .enqueue _ _ payload, .ok _ => some payload
  | _, _ => none

/-- What a call returned from the queue: the content address of a payload.
Source: `rollout-coordinator/src/ledger.rs` `dispatch`. Kind: D -/
def dispatched (r : QueueRecord) : Option ContentId :=
  match r.call, r.result with
  | .dispatch .., .ok workId => workId
  | _, _ => none

/-- What a call that did not fail is to the queue.
Source: `rollout-coordinator/src/ledger.rs` `enqueue`, `dispatch`. Kind: D -/
def event (r : QueueRecord) : Option (Fifo.Event ContentId) :=
  match r.call, r.result with
  | .enqueue _ _ payload, .ok _ => some (.push (ContentId.of payload))
  | .dispatch .., .ok workId => some (.pop workId)
  | _, .error _ => none

end QueueRecord

/-- **Dispatch is first-in first-out**: what was returned is the beginning of what was enqueued.
Source: `rollout-coordinator/src/ledger.rs` (test `queue_items_fifo_ulid_order`). Kind: D -/
def InOrder (hist : List QueueRecord) : Prop :=
  hist.filterMap QueueRecord.dispatched <+:
    (hist.filterMap QueueRecord.enqueued).map ContentId.of

/-- What an enqueue shows the clock and the draw is above an id: a later millisecond, or the same
one and a larger random part. Source: `rollout-coordinator/src/ledger.rs` (`ulid::Ulid`). Kind: D -/
def Above (ulid : Ulid) (nowMs : Nat) (random : BitVec 80) : Prop :=
  timestampMs ulid < nowMs % 2 ^ 48 ∨
    timestampMs ulid = nowMs % 2 ^ 48 ∧ randomPart ulid < random.toNat

instance (ulid : Ulid) (nowMs : Nat) (random : BitVec 80) : Decidable (Above ulid nowMs random) :=
  inferInstanceAs (Decidable (_ ∨ _))

/-- **What the order needs of a call**: an enqueue draws above every id that waits.
Source: `rollout-coordinator/src/ledger.rs` `enqueue`. Kind: D -/
def DrawsAbove (runId : RunId) (r : QueueRecord) : Prop :=
  match r.call with
  | .enqueue nowMs random _ =>
      ∀ ulid, (r.pre.get (queueKey runId ulid)).isSome = true → Above ulid nowMs random
  | .dispatch .. => True

theorem lt_new_of_above {ulid : Ulid} {nowMs : Nat} {random : BitVec 80}
    (h : Above ulid nowMs random) : ulid.bits.toNat < (Ulids.new nowMs random).bits.toNat := by
  have htime := Ulids.timestamp_new nowMs random
  have hrand := Ulids.random_new nowMs random
  unfold Above timestampMs at h
  unfold timestampMs at htime
  unfold randomPart at h hrand
  omega

theorem popped_events (hist : List QueueRecord) :
    Fifo.popped (hist.filterMap QueueRecord.event) = hist.filterMap QueueRecord.dispatched := by
  induction hist with
  | nil => rfl
  | cons r hist ih =>
      obtain ⟨call, pre, result⟩ := r
      rcases call with ⟨now, random, payload⟩ | ⟨w, now⟩ <;> rcases result with err | workId
      · exact ih
      · exact ih
      · exact ih
      · rcases workId with _ | id
        · exact ih
        · exact congrArg (id :: ·) ih

theorem pushed_events (hist : List QueueRecord) :
    Fifo.pushed (hist.filterMap QueueRecord.event) =
      (hist.filterMap QueueRecord.enqueued).map ContentId.of := by
  induction hist with
  | nil => rfl
  | cons r hist ih =>
      obtain ⟨call, pre, result⟩ := r
      rcases call with ⟨now, random, payload⟩ | ⟨w, now⟩ <;> rcases result with err | workId
      · exact ih
      · exact congrArg (ContentId.of payload :: ·) ih
      · exact ih
      · exact ih

/-- **A call serves the queue**: what waits stays as it is, or takes the step of a first-in
first-out queue. Source: `rollout-coordinator/src/ledger.rs` `enqueue`, `dispatch`. Kind: L -/
theorem queued_step {call : QueueCall} {rows : Rows} {waiting : List (Ulid × Bytes)}
    {count count' : Option Nat} {r : Except CoreError (Option ContentId)}
    {s' : Session.State StorageKey Bytes Unit} (hq : Queued runId rows waiting)
    (habove : DrawsAbove runId ⟨call, rows, r⟩)
    (hcall : Session.failing () e (call.body runId) (.idle rows) count = some (r, s', count')) :
    ∃ waiting', Queued runId s'.committed waiting' ∧
      ((⟨call, rows, r⟩ : QueueRecord).event = none ∧ waiting' = waiting ∨
        ∃ ev, (⟨call, rows, r⟩ : QueueRecord).event = some ev ∧
          Fifo.step (waiting.map fun x => ContentId.of x.2) ev =
            some (waiting'.map fun x => ContentId.of x.2)) := by
  rcases call with ⟨now, random, payload⟩ | ⟨w, now⟩
  · have hlast : ∀ x ∈ waiting, x.1.bits.toNat < (Ulids.new now random).bits.toNat := by
      intro x hx
      have hget : rows.get (queueKey runId x.1) = some x.2 := hq.get_iff.mpr hx
      exact lt_new_of_above (habove x.1 (by simp [hget]))
    rw [QueueCall.body, Session.failing_bind, failing_oneEnqueue, Option.bind_some] at hcall
    by_cases hfail : count.any (· < 3) = true
    · rw [if_pos hfail] at hcall
      cases hcall
      exact ⟨waiting, hq, .inl ⟨rfl, rfl⟩⟩
    · rw [if_neg hfail] at hcall
      cases (Session.failing_ret ..).symm.trans hcall
      refine ⟨_, hq.push hlast, .inr ⟨_, rfl, ?_⟩⟩
      rw [List.map_append]
      rfl
  · simp only [QueueCall.body, failing_oneDispatch, hq.oldest_eq] at hcall
    rcases waiting with _ | ⟨⟨ulid, payload⟩, waiting⟩
    · simp only [List.head?_nil, Option.map_none] at hcall
      split at hcall
      · cases hcall
        exact ⟨[], hq, .inl ⟨rfl, rfl⟩⟩
      · cases hcall
        exact ⟨[], hq, .inr ⟨_, rfl, rfl⟩⟩
    · simp only [List.head?_cons, Option.map_some] at hcall
      split at hcall
      · cases hcall
        exact ⟨_, hq, .inl ⟨rfl, rfl⟩⟩
      · cases hcall
        refine ⟨waiting, hq.pop, .inr ⟨_, rfl, ?_⟩⟩
        simp [Fifo.step]

theorem QueueRun.enqueue {rows₀ rows : Rows} {hist : List QueueRecord}
    (h : QueueRun runId rows₀ hist rows) (now : Nat) (random : BitVec 80) (payload : Bytes) :
    QueueRun runId rows₀ (hist ++ [⟨.enqueue now random payload, rows, .ok none⟩])
      (rows.put (queueKey runId (Ulids.new now random)) payload) := by
  have hcall : Session.failing () (.internal "") ((QueueCall.enqueue now random payload).body runId)
      (.idle rows) none =
      some (.ok none, .idle (rows.put (queueKey runId (Ulids.new now random)) payload), none) := by
    rw [QueueCall.body, Session.failing_bind, failing_oneEnqueue]
    exact Session.failing_ret ..
  exact h.snoc hcall

theorem QueueRun.dispatch {rows₀ rows : Rows} {hist : List QueueRecord}
    {entry : StorageKey × Bytes} (h : QueueRun runId rows₀ hist rows)
    (hold : oldest runId rows = some entry) (w : WorkerId) (now : BitVec 128) :
    QueueRun runId rows₀
      (hist ++ [⟨.dispatch w now, rows, .ok (some (ContentId.of entry.2))⟩])
      (handOut runId w now rows entry) := by
  have hcall : Session.failing () (.internal "") ((QueueCall.dispatch w now).body runId)
      (.idle rows) none =
      some (.ok (some (ContentId.of entry.2)), .idle (handOut runId w now rows entry), none) := by
    rw [QueueCall.body, failing_oneDispatch, hold]
    rfl
  exact h.snoc hcall

/-- What the clock shows an enqueue. Source: `rollout-coordinator/src/ledger.rs` `enqueue`.
Kind: D -/
def QueueRecord.clock (r : QueueRecord) : Option Nat :=
  match r.call with
  | .enqueue nowMs _ _ => some nowMs
  | .dispatch .. => none

end calls

section concrete

/-- The text `alpha`. Source: `rollout-coordinator/src/ledger.rs` (test
`queue_items_fifo_ulid_order`). Kind: D -/
def alpha : Bytes := [97, 108, 112, 104, 97]

/-- The text `bravo`. Source: `rollout-coordinator/src/ledger.rs` (test
`queue_items_fifo_ulid_order`). Kind: D -/
def bravo : Bytes := [98, 114, 97, 118, 111]

/-- The digest of `alpha`. Source: none: infrastructure. Kind: D -/
def alphaId : ContentId :=
  ⟨[0x64, 0x4a, 0x9b, 0xc5, 0x7c, 0x60, 0x63, 0xe2, 0xba, 0x40, 0x28, 0xfa, 0x73, 0xed, 0x58, 0x51,
    0x70, 0xae, 0x7d, 0xb8, 0xac, 0x77, 0x23, 0xd3, 0x2b, 0xe4, 0x9c, 0x02, 0x1a, 0x02, 0x25, 0xf5],
    rfl⟩

/-- The digest of `bravo`. Source: none: infrastructure. Kind: D -/
def bravoId : ContentId :=
  ⟨[0x05, 0x6f, 0x1e, 0x7e, 0xdb, 0x19, 0x21, 0xe7, 0x24, 0x6d, 0xba, 0x8b, 0xb3, 0x29, 0xbd, 0x44,
    0xd6, 0x39, 0xc1, 0x36, 0x73, 0xc5, 0xbc, 0xd6, 0x0a, 0xf6, 0x7c, 0x06, 0x01, 0x1a, 0x4c, 0x00],
    rfl⟩

/-- A digest function that is right about those two, for runs that digest nothing else.
Source: none: infrastructure. Kind: D -/
@[reducible] def textBlake3 : Blake3 where
  hash data := if data = alpha then alphaId else bravoId

/-- The 48 bits of the clock and the 80 random bits.
Source: `rollout-coordinator/src/ledger.rs` (`ulid::Ulid::new`). Kind: D -/
def ulidOfParts (now : Nat) (random : BitVec 80) : Ulid :=
  ⟨BitVec.ofNat 128 (now % 2 ^ 48 * 2 ^ 80 + random.toNat)⟩

theorem toNat_ulidOfParts (now : Nat) (random : BitVec 80) :
    (ulidOfParts now random).bits.toNat = now % 2 ^ 48 * 2 ^ 80 + random.toNat := by
  have hrandom := random.isLt
  unfold ulidOfParts
  rw [BitVec.toNat_ofNat, Nat.mod_eq_of_lt]
  omega

theorem timestamp_ulidOfParts (now : Nat) (random : BitVec 80) :
    timestampMs (ulidOfParts now random) = now % 2 ^ 48 := by
  have hrandom := random.isLt
  unfold timestampMs
  rw [toNat_ulidOfParts]
  omega

theorem random_ulidOfParts (now : Nat) (random : BitVec 80) :
    randomPart (ulidOfParts now random) = random.toNat := by
  have hrandom := random.isLt
  unfold randomPart
  rw [toNat_ulidOfParts]
  omega

/-- Identifiers as the ULID library draws them.
Source: `rollout-coordinator/src/ledger.rs` (`ulid::Ulid::new`). Kind: D -/
@[reducible] def drawnUlids : Ulids where
  new := ulidOfParts
  timestamp_new := timestamp_ulidOfParts
  random_new := random_ulidOfParts

local instance : Blake3 := textBlake3
local instance : Ulids := drawnUlids

/-- A run. Source: none: infrastructure. Kind: D -/
def someRun : RunId := ⟨⟨7⟩⟩

/-- The rows two enqueues of one millisecond leave.
Source: `rollout-coordinator/src/ledger.rs` `enqueue`. Kind: D -/
def twoWaiting (first second : BitVec 80) : Rows :=
  KV.put (KV.put ∅ (queueKey someRun (Ulids.new 5 first)) alpha)
    (queueKey someRun (Ulids.new 5 second)) bravo

/-- Two enqueues of one millisecond and a dispatch.
Source: `rollout-coordinator/src/ledger.rs` `enqueue`, `dispatch`. Kind: D -/
def twoThenOne (first second : BitVec 80) (workId : ContentId) : List QueueRecord :=
  [⟨.enqueue 5 first alpha, ∅, .ok none⟩,
    ⟨.enqueue 5 second bravo, KV.put ∅ (queueKey someRun (Ulids.new 5 first)) alpha, .ok none⟩,
    ⟨.dispatch ⟨⟨1⟩⟩ 10, twoWaiting first second, .ok (some workId)⟩]

end concrete

end Rollout.Coordinator.Ledger
