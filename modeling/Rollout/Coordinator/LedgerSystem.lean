import Rollout.Coordinator.Steal

/-!
# The ledger under concurrent calls

* `LedgerTxn` — the transactions of the ledger; `Effect` — all each of them can do to the rows
  (`atomically_enqueue` and its siblings, collected in `event_cases`).
* `LedgerCall` — one call: enqueue, dispatch, completion or steal request; `system` is any number
  of them. `issues_call` says which transactions a call may run.
-/

set_option linter.unusedSectionVars false

namespace Rollout.Coordinator.Ledger

open Rollout.Lib Rollout.Core Rollout.Coordinator.WorkItem Rollout.Coordinator.Steal

/-! ## Transactions -/

/-- The transactions of the ledger.
Source: `rollout-coordinator/src/ledger.rs`, `work_item.rs`, `steal.rs`. Kind: D -/
inductive LedgerTxn
  | enqueue (ulid : Ulid) (payload : Bytes)
  | dispatch (entryKey : StorageKey) (payload : Bytes) (workerId : WorkerId) (nowMs : BitVec 128)
  | complete (running : WorkItemRecord) (resultId : ContentId)
  | steal (running : WorkItemRecord) (thief : WorkerId) (nowMs : BitVec 128)

/-- What each returns. Source: `rollout-coordinator/src/ledger.rs`, `work_item.rs`, `steal.rs`.
Kind: D -/
@[reducible] def LedgerTxn.Resp : LedgerTxn → Type
  | .enqueue .. => Unit
  | .dispatch .. => Option ContentId
  | .complete .. => Bool
  | .steal .. => Bool

variable [Blake3] (runId : RunId)

section bodies

variable {m : Type → Type} [Monad m] [StorageTxn m]

/-- Enqueue and commit. Source: `rollout-coordinator/src/ledger.rs` `enqueue` (its callers).
Kind: D -/
def enqueueTxn (ulid : Ulid) (payload : Bytes) : m Unit := do
  enqueue runId ulid payload
  StorageTxn.commit

/-- The writes of a dispatch and the caller's commit.
Source: `rollout-coordinator/src/ledger.rs` `dispatch` (its callers). Kind: D -/
def dispatchTxn (entryKey : StorageKey) (payload : Bytes) (workerId : WorkerId)
    (nowMs : BitVec 128) : m (Option ContentId) := do
  let workId ← dispatchEntry runId entryKey payload workerId nowMs
  StorageTxn.commit
  return workId

/-- Complete and commit.
Source: `rollout-coordinator/src/work_item.rs` `try_complete` (its callers). Kind: D -/
def completeTxn (running : WorkItemRecord) (resultId : ContentId) : m Bool := do
  let applied ← tryComplete runId running resultId
  StorageTxn.commit
  return applied

end bodies

/-- What each runs. Source: `rollout-coordinator/src/ledger.rs`, `work_item.rs`, `steal.rs`.
Kind: D -/
def LedgerTxn.body : (t : LedgerTxn) → TxnM StorageKey Bytes t.Resp
  | .enqueue ulid payload => enqueueTxn runId ulid payload
  | .dispatch entryKey payload workerId nowMs => dispatchTxn runId entryKey payload workerId nowMs
  | .complete running resultId => completeTxn runId running resultId
  | .steal running thief nowMs => stealItem runId running thief nowMs

/-- The transactions of the ledger of a run. Source: none: infrastructure. Kind: D -/
@[reducible] def txns : Txns StorageKey Bytes where
  Name := LedgerTxn
  Resp := LedgerTxn.Resp
  body := LedgerTxn.body runId

/-- Programs of the ledger. Source: none: infrastructure. Kind: D -/
abbrev LedgerM := Prog (Store.iface (txns runId) CoreError) CoreError

/-- Run a transaction. Source: none: infrastructure. Kind: D -/
def run (t : LedgerTxn) : LedgerM runId t.Resp := Store.ask (T := txns runId) (.txn t)

/-! ## What a transaction does -/

section effects

theorem atomically_enqueueTxn (ulid : Ulid) (payload : Bytes) (s : Rows) :
    atomically (enqueueTxn runId ulid payload) s = ((), s.put (queueKey runId ulid) payload) := by
  simp [atomically, enqueueTxn, enqueue]

theorem atomically_dispatchTxn (entryKey : StorageKey) (payload : Bytes) (workerId : WorkerId)
    (nowMs : BitVec 128) (s : Rows) :
    atomically (dispatchTxn runId entryKey payload workerId nowMs) s =
      (some (ContentId.of payload), (s.put (workKey runId (ContentId.of payload))
        (encodeRecord ⟨ContentId.of payload, .running workerId nowMs⟩)).del entryKey) := by
  simp [atomically, dispatchTxn, dispatchEntry, tryClaim]

theorem atomically_completeTxn (rec : WorkItemRecord) (resultId : ContentId) (s : Rows) :
    atomically (completeTxn runId rec resultId) s =
      if rec.state.isRunning = true ∧ s.get (workKey runId rec.id) = some (encodeRecord rec) then
        (true, s.put (workKey runId rec.id) (encodeRecord ⟨rec.id, .done resultId⟩))
      else (false, s) := by
  by_cases hrun : rec.state.isRunning = true
  · by_cases hrow : s.get (workKey runId rec.id) = some (encodeRecord rec)
    · simp [atomically, completeTxn, tryComplete, hrun, hrow]
    · simp [atomically, completeTxn, tryComplete, hrun, hrow]
  · simp [atomically, completeTxn, tryComplete, hrun]

theorem atomically_stealItem (rec : WorkItemRecord) (thief : WorkerId) (nowMs : BitVec 128)
    (s : Rows) :
    atomically (stealItem runId rec thief nowMs) s =
      if rec.state.isRunning = true ∧ s.get (workKey runId rec.id) = some (encodeRecord rec) then
        (true, s.put (workKey runId rec.id) (encodeRecord ⟨rec.id, .running thief nowMs⟩))
      else (false, s) := by
  by_cases hrun : rec.state.isRunning = true
  · by_cases hrow : s.get (workKey runId rec.id) = some (encodeRecord rec)
    · simp [atomically, stealItem, tryRepending, tryClaim, hrun, hrow]
    · simp [atomically, stealItem, tryRepending, hrun, hrow]
  · simp [atomically, stealItem, tryRepending, hrun]

/-- **All a transaction can do to the rows.**
Source: `rollout-coordinator/src/ledger.rs`, `work_item.rs`, `steal.rs`. Kind: D -/
inductive Effect : LedgerTxn → Rows → Rows → Prop
  | enqueue (ulid : Ulid) (payload : Bytes) (s : Rows) :
      Effect (.enqueue ulid payload) s (s.put (queueKey runId ulid) payload)
  | dispatch (entryKey : StorageKey) (payload : Bytes) (w : WorkerId) (t : BitVec 128) (s : Rows) :
      Effect (.dispatch entryKey payload w t) s
        ((s.put (workKey runId (ContentId.of payload))
          (encodeRecord ⟨ContentId.of payload, .running w t⟩)).del entryKey)
  | complete (rec : WorkItemRecord) (resultId : ContentId) (s : Rows)
      (hrun : rec.state.isRunning = true)
      (hrow : s.get (workKey runId rec.id) = some (encodeRecord rec)) :
      Effect (.complete rec resultId) s
        (s.put (workKey runId rec.id) (encodeRecord ⟨rec.id, .done resultId⟩))
  | steal (rec : WorkItemRecord) (thief : WorkerId) (t : BitVec 128) (s : Rows)
      (hrun : rec.state.isRunning = true)
      (hrow : s.get (workKey runId rec.id) = some (encodeRecord rec)) :
      Effect (.steal rec thief t) s
        (s.put (workKey runId rec.id) (encodeRecord ⟨rec.id, .running thief t⟩))

/-- A transaction changes nothing or has its effect. Source: none: infrastructure. Kind: L -/
theorem effect_of_body (t : LedgerTxn) (s : Rows) :
    (atomically (LedgerTxn.body runId t) s).2 = s ∨
      Effect runId t s (atomically (LedgerTxn.body runId t) s).2 := by
  cases t with
  | enqueue ulid payload =>
      right
      have h := congrArg Prod.snd (atomically_enqueueTxn runId ulid payload s)
      exact h ▸ Effect.enqueue ulid payload s
  | dispatch entryKey payload w now =>
      right
      have h := congrArg Prod.snd (atomically_dispatchTxn runId entryKey payload w now s)
      exact h ▸ Effect.dispatch entryKey payload w now s
  | complete rec resultId =>
      have h := congrArg Prod.snd (atomically_completeTxn runId rec resultId s)
      split at h
      · next hcas => exact .inr (h ▸ Effect.complete rec resultId s hcas.1 hcas.2)
      · exact .inl h
  | steal rec thief now =>
      have h := congrArg Prod.snd (atomically_stealItem runId rec thief now s)
      split at h
      · next hcas => exact .inr (h ▸ Effect.steal rec thief now s hcas.1 hcas.2)
      · exact .inl h

end effects

/-! ## Calls -/

/-- One call on the ledger of a run, with the fresh ULID an enqueue draws and what the clock shows.
Source: `rollout-coordinator/src/ledger.rs`, `work_item.rs`, `steal.rs`. Kind: D -/
inductive LedgerCall
  | enqueue (ulid : Ulid) (payload : Bytes)
  | dispatch (workerId : WorkerId) (nowMs : BitVec 128)
  | tryComplete (running : WorkItemRecord) (resultId : ContentId)
  | handleStealRequest (thief : WorkerId) (nowMs : BitVec 128)

/-- What a call returns. Source: `rollout-coordinator/src/ledger.rs`, `work_item.rs`, `steal.rs`.
Kind: D -/
@[reducible] def LedgerCall.Out : LedgerCall → Type
  | .enqueue .. => Unit
  | .dispatch .. => Option ContentId
  | .tryComplete .. => Bool
  | .handleStealRequest .. => List ContentId

/-- A dispatch in its own transaction: the head is read through the handle first.
Source: `rollout-coordinator/src/ledger.rs` `dispatch`. Kind: D -/
def dispatchCall (workerId : WorkerId) (nowMs : BitVec 128) :
    LedgerM runId (Option ContentId) := do
  match ← nextPendingEntry runId with
  | none => return none
  | some e => run runId (.dispatch e.1 e.2 workerId nowMs)

/-- A steal request, one transaction per item.
Source: `rollout-coordinator/src/steal.rs` `handle_steal_request`. Kind: D -/
def stealCall (thief : WorkerId) (nowMs : BitVec 128) : LedgerM runId (List ContentId) :=
  handleStealRequest runId thief fun running => run runId (.steal running thief nowMs)

/-- The code a call runs. Source: `rollout-coordinator/src/ledger.rs`, `work_item.rs`, `steal.rs`.
Kind: D -/
def LedgerCall.prog : (c : LedgerCall) → LedgerM runId c.Out
  | .enqueue ulid payload => run runId (.enqueue ulid payload)
  | .dispatch workerId nowMs => dispatchCall runId workerId nowMs
  | .tryComplete running resultId => run runId (.complete running resultId)
  | .handleStealRequest thief nowMs => stealCall runId thief nowMs

/-- The transactions a call may run. Source: `rollout-coordinator/src/ledger.rs`, `work_item.rs`,
`steal.rs`. Kind: D -/
def LedgerCall.MayRun (c : LedgerCall) (t : LedgerTxn) : Prop :=
  match c with
  | .enqueue ulid payload => t = .enqueue ulid payload
  | .dispatch workerId nowMs => ∃ key payload,
      inQueue runId key = true ∧ t = .dispatch key payload workerId nowMs
  | .tryComplete running resultId => t = .complete running resultId
  | .handleStealRequest thief nowMs => ∃ running victim,
      running.state.owner = some victim ∧ victim ≠ thief ∧ t = .steal running thief nowMs

section mayRun

variable {runId} {c : LedgerCall}

theorem mayRun_enqueue {ulid : Ulid} {payload : Bytes} :
    c.MayRun runId (.enqueue ulid payload) ↔ c = .enqueue ulid payload := by
  cases c with
  | enqueue u p => exact ⟨fun h => by cases h; rfl, fun h => by cases h; rfl⟩
  | dispatch => simp [LedgerCall.MayRun]
  | tryComplete => simp [LedgerCall.MayRun]
  | handleStealRequest => simp [LedgerCall.MayRun]

theorem mayRun_dispatch {key : StorageKey} {payload : Bytes} {w : WorkerId} {now : BitVec 128} :
    c.MayRun runId (.dispatch key payload w now) ↔
      c = .dispatch w now ∧ inQueue runId key = true := by
  cases c with
  | dispatch w' now' =>
      constructor
      · rintro ⟨key', payload', hkey, ht⟩
        obtain ⟨rfl, rfl, rfl, rfl⟩ := LedgerTxn.dispatch.inj ht
        exact ⟨rfl, hkey⟩
      · rintro ⟨hc, hkey⟩
        obtain ⟨rfl, rfl⟩ := LedgerCall.dispatch.inj hc
        exact ⟨key, payload, hkey, rfl⟩
  | enqueue => simp [LedgerCall.MayRun]
  | tryComplete => simp [LedgerCall.MayRun]
  | handleStealRequest => simp [LedgerCall.MayRun]

theorem mayRun_complete {rec : WorkItemRecord} {r : ContentId} :
    c.MayRun runId (.complete rec r) ↔ c = .tryComplete rec r := by
  cases c with
  | tryComplete rec' r' => exact ⟨fun h => by cases h; rfl, fun h => by cases h; rfl⟩
  | enqueue => simp [LedgerCall.MayRun]
  | dispatch => simp [LedgerCall.MayRun]
  | handleStealRequest => simp [LedgerCall.MayRun]

theorem mayRun_steal {rec : WorkItemRecord} {thief : WorkerId} {now : BitVec 128} :
    c.MayRun runId (.steal rec thief now) ↔ c = .handleStealRequest thief now ∧
      ∃ victim, rec.state.owner = some victim ∧ victim ≠ thief := by
  cases c with
  | handleStealRequest thief' now' =>
      constructor
      · rintro ⟨rec', victim, howner, hne, ht⟩
        obtain ⟨rfl, rfl, rfl⟩ := LedgerTxn.steal.inj ht
        exact ⟨rfl, victim, howner, hne⟩
      · rintro ⟨hc, victim, howner, hne⟩
        obtain ⟨rfl, rfl⟩ := LedgerCall.handleStealRequest.inj hc
        exact ⟨rec, victim, howner, hne, rfl⟩
  | enqueue => simp [LedgerCall.MayRun]
  | dispatch => simp [LedgerCall.MayRun]
  | tryComplete => simp [LedgerCall.MayRun]

end mayRun

/-- The operations a call may issue. Source: none: infrastructure. Kind: D -/
def LedgerCall.May (c : LedgerCall) (o : Store.Op (txns runId)) : Prop :=
  match o with
  | .txn t => c.MayRun runId t
  | _ => True

/-- Any number of calls. Source: none: infrastructure. Kind: D -/
def system {ι : Type} (calls : ι → LedgerCall) (s : Rows) :
    Config (Store.iface (txns runId) CoreError) CoreError Rows fun i => (calls i).Out :=
  ⟨s, fun i => (calls i).prog runId⟩

/-- The serializable store under them. Source: none: infrastructure. Kind: D -/
abbrev store (ι : Type) := Store.machine (txns runId) CoreError ι

/-- An operation of the ledger and what it did. Source: none: infrastructure. Kind: D -/
abbrev LedgerEvent (ι : Type) := Event (Store.iface (txns runId) CoreError) ι Rows

/-! ## What a call may do -/

section issues

variable {runId} {ι : Type} {i : ι}

/-- A program that starts with a scan of the ledger. Source: none: infrastructure. Kind: L -/
theorem issues_scanLedger {β : Type} {f : List WorkItemRecord → LedgerM runId β}
    {φ : Store.Op (txns runId) → Prop} (hscan : ∀ p, φ (.scan p))
    (hf : ∀ recs, (f recs).Issues (store runId ι) i φ) :
    (scanLedger runId >>= f).Issues (store runId ι) i φ := by
  rw [scanLedger_bind]
  apply Store.issues_ask (hscan _)
  intro s
  cases (Store.perform (T := txns runId) (.scan (inLedger runId)) s).1.mapM fun e => decode e.2 with
  | error e => trivial
  | ok recs => exact hf recs

theorem issues_run {t : LedgerTxn} {φ : Store.Op (txns runId) → Prop} (h : φ (.txn t)) :
    (run runId t).Issues (store runId ι) i φ := by
  rw [← Prog.bind_ret (run runId t)]
  apply Store.issues_ask h
  intro s
  trivial

theorem issues_stealItems {thief : WorkerId} {nowMs : BitVec 128}
    {φ : Store.Op (txns runId) → Prop} (items : List WorkItemRecord) (stolen : List ContentId)
    (h : ∀ rec ∈ items, φ (.txn (.steal rec thief nowMs))) :
    (stealItems (fun rec => run runId (.steal rec thief nowMs)) items stolen).Issues
      (store runId ι) i φ := by
  induction items generalizing stolen with
  | nil => trivial
  | cons rec rest ih =>
      rw [stealItems_cons]
      apply Store.issues_ask (h rec List.mem_cons_self)
      intro s
      have hrest : ∀ rec ∈ rest, φ (.txn (.steal rec thief nowMs)) :=
        fun rec hrec => h rec (List.mem_cons_of_mem _ hrec)
      split
      · exact ih _ hrest
      · exact ih _ hrest

/-- **A call only runs the transactions it may.** Source: `rollout-coordinator/src/ledger.rs`,
`work_item.rs`, `steal.rs`. Kind: P -/
theorem issues_call (c : LedgerCall) :
    (c.prog runId).Issues (store runId ι) i (c.May runId) := by
  cases c with
  | enqueue ulid payload => exact issues_run rfl
  | dispatch workerId nowMs =>
      show (dispatchCall runId workerId nowMs).Issues (store runId ι) i _
      unfold dispatchCall
      rw [nextPendingEntry_bind]
      apply Store.issues_ask trivial
      intro s
      cases hleast : leastEntry (Store.perform (T := txns runId) (.scan (inQueue runId)) s).1 with
      | none => trivial
      | some e =>
          have hmem := (KV.mem_scan s).mp (mem_of_leastEntry hleast)
          apply issues_run
          exact ⟨e.1, e.2, hmem.2, rfl⟩
  | tryComplete running resultId => exact issues_run rfl
  | handleStealRequest thief nowMs =>
      show (stealCall runId thief nowMs).Issues (store runId ι) i _
      unfold stealCall handleStealRequest backlog busiest
      rw [Prog.bind_assoc]
      apply issues_scanLedger fun _ => trivial
      intro recs
      rw [Prog.pure_eq, Prog.ret_bind]
      split
      · trivial
      · rw [Prog.bind_assoc]
        apply issues_scanLedger fun _ => trivial
        intro recs'
        rw [Prog.pure_eq, Prog.ret_bind]
        cases hbusy : busiestOf recs' thief with
        | none => trivial
        | some x =>
            have hne := ne_of_busiestOf hbusy
            obtain ⟨victim, victimBacklog⟩ := x
            simp only
            split
            · trivial
            · unfold workPrefix
              rw [scanBytes_eq]
              apply Store.issues_ask trivial
              intro s
              apply issues_stealItems
              intro rec hrec
              exact ⟨rec, victim, owner_of_mem_victimItems (List.mem_of_mem_take hrec), hne, rfl⟩

end issues

variable {ι : Type} [DecidableEq ι]

section events

variable {runId : RunId} {calls : ι → LedgerCall} {s₀ : Rows} {tr : List (LedgerEvent runId ι)}
  {d : Config (Store.iface (txns runId) CoreError) CoreError Rows fun i => (calls i).Out}

/-- A transaction that took effect is one its call may run, and did what its body does.
Source: none: infrastructure. Kind: L -/
theorem txn_event (hrun : Run (store runId ι) (system runId calls s₀) tr d) {i : ι} {t : LedgerTxn}
    {r : t.Resp} {s s' : Rows} (he : ⟨i, .txn t, .ok r, s, s'⟩ ∈ tr) :
    (calls i).MayRun runId t ∧ atomically (LedgerTxn.body runId t) s = (r, s') := by
  refine ⟨?_, ?_⟩
  · exact hrun.issued (fun i => issues_call (calls i)) _ he
  · rcases Store.does_iff.mp (hrun.does _ he) with ⟨err, hr, -⟩ | ⟨hr, hs⟩
    · cases hr
    · exact Prod.ext (Except.ok.inj hr).symm hs.symm

/-- **All an event of the ledger can be**: nothing happened, or a transaction the call may run had
its effect. Source: none: infrastructure. Kind: P -/
theorem event_cases (hrun : Run (store runId ι) (system runId calls s₀) tr d)
    {e : LedgerEvent runId ι} (he : e ∈ tr) :
    e.post = e.pre ∨ ∃ i t r s s', e = ⟨i, .txn t, .ok r, s, s'⟩ ∧ (calls i).MayRun runId t ∧
      Effect runId t s s' := by
  obtain ⟨i, o, r, s, s'⟩ := e
  rcases Store.does_iff.mp (hrun.does _ he) with ⟨err, -, hs⟩ | ⟨hr, hs⟩
  · exact .inl hs
  · cases o with
    | get k => exact .inl hs
    | scan p => exact .inl hs
    | txn t =>
        simp only at hr
        subst hr
        obtain ⟨hmay, hbody⟩ := txn_event hrun he
        rcases effect_of_body runId t s with hsame | heff
        · exact .inl (hs.trans hsame)
        · rw [hbody] at heff
          exact .inr ⟨i, t, _, s, s', rfl, hmay, heff⟩

end events

end Rollout.Coordinator.Ledger
