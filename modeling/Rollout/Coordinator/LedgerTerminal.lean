import Rollout.Coordinator.LedgerSystem

/-!
# Terminal ledger rows

`done` and `failed` rows are meant to be absorbing and a running row to change hands only through
a steal. `dispatch` puts its pending row without looking at what the ledger holds, so a second
queue entry with a payload that is already known breaks both.

* `rowState_step` — all a transaction can do to the state of one row.
* `terminal_absorbing_iff` — a run keeps its terminal rows and owners exactly when every dispatch
  that takes effect finds no row, a pending row, or the very row it writes.
-/

set_option linter.unusedSectionVars false

namespace Rollout.Coordinator.Ledger

open Rollout.Lib Rollout.Core Rollout.Coordinator.WorkItem

section states

variable (runId : RunId)

/-! ## Row states -/

/-- The state the ledger holds for a work item. Source: none: infrastructure. Kind: D -/
def rowState (s : Rows) (id : ContentId) : Option WorkState :=
  (s.get (workKey runId id)).bind fun b => (WorkItem.codec.fromBytes b).map WorkItemRecord.state

variable {runId}

theorem rowState_congr {s s' : Rows} {id : ContentId}
    (h : s'.get (workKey runId id) = s.get (workKey runId id)) :
    rowState runId s' id = rowState runId s id := by
  unfold rowState
  rw [h]

theorem rowState_of_row {s : Rows} {id : ContentId} {rec : WorkItemRecord}
    (h : s.get (workKey runId id) = some (encodeRecord rec)) :
    rowState runId s id = some rec.state := by
  unfold rowState encodeRecord at *
  rw [h, Option.bind_some, Codec.fromBytes_enc, Option.map_some]

theorem rowState_put_workKey (s : Rows) (id : ContentId) (rec : WorkItemRecord) (id' : ContentId) :
    rowState runId (s.put (workKey runId id) (encodeRecord rec)) id' =
      if id' = id then some rec.state else rowState runId s id' := by
  by_cases h : id' = id
  · subst h
    rw [if_pos rfl]
    exact rowState_of_row (KV.get_put_self _ _ _)
  · rw [if_neg h]
    apply rowState_congr
    exact KV.get_put_of_ne _ _ _ _ fun hk => h (workKey_inj.mp hk)

theorem rowState_put_queueKey (s : Rows) (ulid : Ulid) (payload : Bytes) (id : ContentId) :
    rowState runId (s.put (queueKey runId ulid) payload) id = rowState runId s id := by
  apply rowState_congr
  exact KV.get_put_of_ne _ _ _ _ (queueKey_ne_workKey runId ulid id).symm

theorem rowState_del_of_inQueue (s : Rows) {key : StorageKey} (hkey : inQueue runId key = true)
    (id : ContentId) : rowState runId (s.del key) id = rowState runId s id := by
  apply rowState_congr
  apply KV.get_del_of_ne
  rintro rfl
  rw [inQueue_workKey] at hkey
  simp at hkey

end states

section absorbing

variable [Blake3] {runId : RunId}

/-- **All a transaction can do to the state of one row**: leave it, dispatch over it whatever it
is, complete it, or steal it. Source: `rollout-coordinator/src/ledger.rs`, `work_item.rs`,
`steal.rs`. Kind: P -/
theorem rowState_step {c : LedgerCall} {t : LedgerTxn} {s s' : Rows} (hmay : c.MayRun runId t)
    (h : Effect runId t s s') (id : ContentId) :
    rowState runId s' id = rowState runId s id ∨
      (∃ k p w now, t = .dispatch k p w now ∧ id = ContentId.of p ∧
        rowState runId s' id = some (.running w now)) ∨
      (∃ rec r, t = .complete rec r ∧ id = rec.id ∧ rec.state.isRunning = true ∧
        rowState runId s id = some rec.state ∧ rowState runId s' id = some (.done r)) ∨
      (∃ rec w now, t = .steal rec w now ∧ id = rec.id ∧ rec.state.isRunning = true ∧
        rowState runId s id = some rec.state ∧ rowState runId s' id = some (.running w now)) := by
  cases h with
  | enqueue ulid payload => exact .inl (rowState_put_queueKey s ulid payload id)
  | dispatch key payload w now =>
      rw [rowState_del_of_inQueue _ (mayRun_dispatch.mp hmay).2, rowState_put_workKey]
      by_cases hid : id = ContentId.of payload
      · rw [if_pos hid]
        exact .inr (.inl ⟨key, payload, w, now, rfl, hid, rfl⟩)
      · rw [if_neg hid]
        exact .inl rfl
  | complete rec r _ hrun hrow =>
      rw [rowState_put_workKey]
      by_cases hid : id = rec.id
      · rw [if_pos hid, hid]
        exact .inr (.inr (.inl ⟨rec, r, rfl, rfl, hrun, rowState_of_row hrow, rfl⟩))
      · rw [if_neg hid]
        exact .inl rfl
  | steal rec w now _ hrun hrow =>
      rw [rowState_put_workKey]
      by_cases hid : id = rec.id
      · rw [if_pos hid, hid]
        exact .inr (.inr (.inr ⟨rec, w, now, rfl, rfl, hrun, rowState_of_row hrow, rfl⟩))
      · rw [if_neg hid]
        exact .inl rfl

/-! ## What a run should keep -/

variable {ι : Type} (calls : ι → LedgerCall)

/-- **Terminal rows are absorbing**, and running rows change hands only through a steal.
Source: `rollout-coordinator/src/run.rs` (documentation of the replay), `ledger.rs` `dispatch`.
Kind: D -/
structure TerminalAbsorbing (ss : List Rows) (tr : List (LedgerEvent runId ι)) : Prop where
  /-- Once terminal, a row holds no other state in any later state of the run. -/
  terminal : ss.Pairwise fun s s' => ∀ id st, rowState runId s id = some st →
    st.isTerminal = true → rowState runId s' id = some st
  /-- A running row gets another owner only from a steal request. -/
  owner : ∀ e ∈ tr, ∀ id w t w' t', rowState runId e.pre id = some (.running w t) →
    rowState runId e.post id = some (.running w' t') → w' ≠ w →
      ∃ thief now, calls e.who = .handleStealRequest thief now
  /-- A dispatch leaves every row that is running, done or failed as it is. -/
  dispatch : ∀ e ∈ tr, ∀ w now, calls e.who = .dispatch w now → ∀ id st,
    rowState runId e.pre id = some st → st ≠ .pending → rowState runId e.post id = some st

/-- What a dispatch that took effect found in the ledger, and what it wrote there.
Source: `rollout-coordinator/src/ledger.rs` `dispatch`. Kind: D -/
def overwritten (e : LedgerEvent runId ι) : Option (WorkState × WorkState) :=
  match e with
  | ⟨_, .txn (.dispatch _ payload w now), .ok _, s, _⟩ =>
      (rowState runId s (ContentId.of payload)).map fun st => (st, .running w now)
  | _ => none

/-- The event is no dispatch over a row that is running, done or failed, unless it is the very row
the dispatch writes. Source: `rollout-coordinator/src/ledger.rs` `dispatch`. Kind: D -/
def FreshDispatch (e : LedgerEvent runId ι) : Prop :=
  ∀ x ∈ overwritten e, x.1 = .pending ∨ x.1 = x.2

instance (e : LedgerEvent runId ι) : Decidable (FreshDispatch e) :=
  inferInstanceAs (Decidable (∀ x ∈ overwritten e, x.1 = .pending ∨ x.1 = x.2))

variable {calls} [DecidableEq ι] {s₀ : Rows} {tr : List (LedgerEvent runId ι)}
  {d : Config (Store.iface (txns runId) CoreError) CoreError Rows fun i => (calls i).Out}

/-- A fresh dispatch leaves a row that is not pending as it is.
Source: none: infrastructure. Kind: L -/
theorem FreshDispatch.keeps {e : LedgerEvent runId ι} (hf : FreshDispatch e) {i : ι}
    {key : StorageKey} {payload : Bytes} {w : WorkerId} {now : BitVec 128} {r : Option ContentId}
    {s s' : Rows} (he : e = ⟨i, .txn (.dispatch key payload w now), .ok r, s, s'⟩) {st : WorkState}
    (hst : rowState runId s (ContentId.of payload) = some st) (hp : st ≠ .pending) :
    st = .running w now := by
  subst he
  have hmem : (st, WorkState.running w now) ∈
      overwritten (⟨i, .txn (.dispatch key payload w now), .ok r, s, s'⟩ : LedgerEvent runId ι) := by
    simp [overwritten, hst]
  rcases hf _ hmem with h | h
  · exact absurd h hp
  · exact h

/-- **One step**: an event that is no dispatch over a known row keeps what is not pending, but for
a running row that is completed or stolen. Source: `rollout-coordinator/src/ledger.rs`,
`work_item.rs`, `steal.rs`. Kind: P -/
theorem step_of_fresh (hrun : Run (store runId ι) (system runId calls s₀) tr d)
    {e : LedgerEvent runId ι} (he : e ∈ tr) (hf : FreshDispatch e) {id : ContentId}
    {st : WorkState} (hst : rowState runId e.pre id = some st) (hp : st ≠ .pending) :
    rowState runId e.post id = some st ∨ (st.isRunning = true ∧
      ((∃ rec r, calls e.who = .tryComplete rec r ∧ rowState runId e.post id = some (.done r)) ∨
        ∃ thief now, calls e.who = .handleStealRequest thief now)) := by
  rcases event_cases hrun he with hsame | ⟨i, t, r, s, s', rfl, hmay, heff⟩
  · rw [hsame]
    exact .inl hst
  · simp only at hst ⊢
    rcases rowState_step hmay heff id with h | ⟨k, p, w, now, rfl, rfl, h⟩ |
      ⟨rec, r', rfl, rfl, hrec, hpre, h⟩ | ⟨rec, w, now, rfl, rfl, hrec, hpre, h⟩
    · rw [h]
      exact .inl hst
    · rw [h, hf.keeps rfl hst hp]
      exact .inl rfl
    · rw [hst] at hpre
      obtain rfl := Option.some.inj hpre
      exact .inr ⟨hrec, .inl ⟨rec, r', mayRun_complete.mp hmay, h⟩⟩
    · rw [hst] at hpre
      obtain rfl := Option.some.inj hpre
      exact .inr ⟨hrec, .inr ⟨w, now, (mayRun_steal.mp hmay).1⟩⟩

/-- A dispatch that took effect left its running row. Source:
`rollout-coordinator/src/ledger.rs` `dispatch`. Kind: L -/
theorem rowState_after_dispatch (hrun : Run (store runId ι) (system runId calls s₀) tr d) {i : ι}
    {key : StorageKey} {payload : Bytes} {w : WorkerId} {now : BitVec 128} {r : Option ContentId}
    {s s' : Rows} (he : ⟨i, .txn (.dispatch key payload w now), .ok r, s, s'⟩ ∈ tr) :
    calls i = .dispatch w now ∧
      rowState runId s' (ContentId.of payload) = some (.running w now) := by
  obtain ⟨hmay, hbody⟩ := txn_event hrun he
  obtain ⟨hcall, hkey⟩ := mayRun_dispatch.mp hmay
  refine ⟨hcall, ?_⟩
  have hs : s' = _ := (congrArg Prod.snd hbody).symm.trans
    (congrArg Prod.snd (atomically_dispatchTxn runId key payload w now s))
  rw [hs, rowState_del_of_inQueue _ hkey, rowState_put_workKey, if_pos rfl]

/-- **Exactly when a run keeps its terminal rows and owners**: when every dispatch that takes
effect finds no ledger row for its payload, a pending one, or the very row it writes.
Source: `rollout-coordinator/src/ledger.rs` `dispatch`, `work_item.rs`, `steal.rs`. Kind: C -/
theorem terminal_absorbing_iff (hrun : Run (store runId ι) (system runId calls s₀) tr d) :
    TerminalAbsorbing calls (states (system runId calls s₀) tr) tr ↔
      ∀ e ∈ tr, FreshDispatch e := by
  constructor
  · intro h e he x hx
    unfold overwritten at hx
    split at hx
    · next i key payload w now r s s' =>
      obtain ⟨st, hst, rfl⟩ := Option.map_eq_some_iff.mp hx
      obtain ⟨hcall, hpost⟩ := rowState_after_dispatch hrun he
      by_cases hp : st = .pending
      · exact .inl hp
      · have hkept := h.dispatch _ he w now hcall _ st hst hp
        rw [hpost] at hkept
        exact .inr (Option.some.inj hkept).symm
    · cases hx
  · intro hf
    refine ⟨?_, ?_, ?_⟩
    · rw [hrun.pairwise_iff (fun s id st hst _ => hst)
        (fun hst htu id st hs hterm => htu id st (hst id st hs hterm) hterm)]
      intro e he id st hst hterm
      have hp : st ≠ .pending := by rintro rfl; simp [WorkState.isTerminal] at hterm
      rcases step_of_fresh hrun he (hf e he) hst hp with h | ⟨hrunning, -⟩
      · exact h
      · cases st <;> simp [WorkState.isTerminal, WorkState.isRunning] at hterm hrunning
    · intro e he id w t w' t' hpre hpost hne
      rcases step_of_fresh hrun he (hf e he) hpre (by simp) with h | ⟨-, hwho⟩
      · rw [hpost] at h
        cases h
        exact absurd rfl hne
      · rcases hwho with ⟨rec, r, -, hdone⟩ | hsteal
        · rw [hpost] at hdone
          cases hdone
        · exact hsteal
    · intro e he w now hcall id st hst hp
      rcases step_of_fresh hrun he (hf e he) hst hp with h | ⟨-, hwho⟩
      · exact h
      · rw [hcall] at hwho
        rcases hwho with ⟨rec, r, hc, -⟩ | ⟨thief, now', hc⟩ <;> cases hc

end absorbing

/-! ## Concrete runs -/

/-- The store of the concrete runs, whose only payload is empty.
Source: none: infrastructure. Kind: D -/
abbrev emptyStore := @store emptyBlake3 ⟨⟨7⟩⟩

/-- A payload that is enqueued once. Source: `rollout-coordinator/src/ledger.rs`
`dispatch_claims_pending`. Kind: D -/
def singleCalls : Fin 3 → LedgerCall
  | 0 => .enqueue ⟨10⟩ []
  | 1 => .dispatch ⟨⟨1⟩⟩ 100
  | 2 => .tryComplete ⟨ContentId.ofEmpty, .running ⟨⟨1⟩⟩ 100⟩ ContentId.ofEmpty

/-- `terminal_absorbing_iff` at a run that enqueues its payload once and completes it.
Source: `rollout-coordinator/src/ledger.rs` `dispatch_claims_pending`. Kind: C -/
theorem terminal_absorbing_single :
    ∃ tr d, Run (emptyStore (Fin 3)) (@system emptyBlake3 ⟨⟨7⟩⟩ _ singleCalls ∅) tr d ∧
      rowState ⟨⟨7⟩⟩ d.shared ContentId.ofEmpty = some (.done ContentId.ofEmpty) ∧
      @TerminalAbsorbing emptyBlake3 ⟨⟨7⟩⟩ _ singleCalls
        (states (@system emptyBlake3 ⟨⟨7⟩⟩ _ singleCalls ∅) tr) tr := by
  let _ := emptyBlake3
  have hplay : (((system ⟨⟨7⟩⟩ singleCalls ∅).play
      (inTurn (emptyStore (Fin 3)) (.ok ()) [0, 1, 1, 2])).map fun x =>
      (rowState ⟨⟨7⟩⟩ x.2.shared ContentId.ofEmpty, decide (∀ e ∈ x.1, FreshDispatch e))) =
      some (some (.done ContentId.ofEmpty), true) := by decide +kernel
  obtain ⟨⟨tr, d⟩, hrun, hend⟩ := Option.map_eq_some_iff.mp hplay
  simp only [Prod.mk.injEq, decide_eq_true_eq] at hend
  exact ⟨tr, d, Config.play_run hrun, hend.1,
    (terminal_absorbing_iff (Config.play_run hrun)).mpr hend.2⟩

/-- The empty payload is enqueued twice, dispatched to worker 1 and completed; then worker 2 asks.
Source: `rollout-coordinator/src/ledger.rs` `enqueue`, `dispatch`. Kind: D -/
def duplicateCalls : Fin 5 → LedgerCall
  | 0 => .enqueue ⟨10⟩ []
  | 1 => .enqueue ⟨11⟩ []
  | 2 => .dispatch ⟨⟨1⟩⟩ 100
  | 3 => .tryComplete ⟨ContentId.ofEmpty, .running ⟨⟨1⟩⟩ 100⟩ ContentId.ofEmpty
  | 4 => .dispatch ⟨⟨2⟩⟩ 200

/-- **A duplicate payload resets a done row** and hands it to a second worker.
Source: `rollout-coordinator/src/ledger.rs` `dispatch`. Kind: C -/
theorem duplicate_payload_resets_done :
    ∃ tr d, Run (emptyStore (Fin 5)) (@system emptyBlake3 ⟨⟨7⟩⟩ _ duplicateCalls ∅) tr d ∧
      ¬ @TerminalAbsorbing emptyBlake3 ⟨⟨7⟩⟩ _ duplicateCalls
        (states (@system emptyBlake3 ⟨⟨7⟩⟩ _ duplicateCalls ∅) tr) tr := by
  let _ := emptyBlake3
  have hplay : (((system ⟨⟨7⟩⟩ duplicateCalls ∅).play
      (inTurn (emptyStore (Fin 5)) (.ok ()) [0, 1, 2, 2, 3, 4, 4])).bind fun x =>
      x.1.getLast?.map fun e => (e.who, rowState ⟨⟨7⟩⟩ e.pre ContentId.ofEmpty,
        rowState ⟨⟨7⟩⟩ e.post ContentId.ofEmpty)) =
      some (4, some (.done ContentId.ofEmpty), some (.running ⟨⟨2⟩⟩ 200)) := by decide +kernel
  obtain ⟨⟨tr, d⟩, hrun, hlast⟩ := Option.bind_eq_some_iff.mp hplay
  obtain ⟨e, he, hrows⟩ := Option.map_eq_some_iff.mp hlast
  simp only [Prod.mk.injEq] at hrows
  obtain ⟨hwho, hpre, hpost⟩ := hrows
  refine ⟨tr, d, Config.play_run hrun, ?_⟩
  intro h
  have hcall : duplicateCalls e.who = .dispatch ⟨⟨2⟩⟩ 200 := by rw [hwho]; rfl
  have hkept := h.dispatch e (List.mem_of_getLast? he) _ _ hcall ContentId.ofEmpty _ hpre (by simp)
  rw [hpost] at hkept
  cases hkept

end Rollout.Coordinator.Ledger
