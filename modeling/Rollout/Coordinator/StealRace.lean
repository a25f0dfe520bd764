import Rollout.Coordinator.LedgerTerminal

/-!
# Completions against steals

Any number of completions, with whatever records the workers hold, and of steal requests, from any
ledger:

* a swap out of a running row changes its bytes, so it can succeed once for each version of the row;
* a done row is written once and then left alone;
* a completion by a worker the row does not name as owner is refused and changes nothing;
* a steal request that ends well returns the ids it moved, in the order it moved them, each from
  the victim to the thief, and changes no other row.
-/

set_option linter.unusedSectionVars false

namespace Rollout.Coordinator.Ledger

open Rollout.Lib Rollout.Core Rollout.Coordinator.WorkItem Rollout.Coordinator.Steal

section race

variable [Blake3] {ι : Type} {runId : RunId}

/-! ## What an event moved -/

/-- The item whose running row a swap replaced. Source: `rollout-coordinator/src/work_item.rs`
`try_complete`, `try_repending`. Kind: D -/
def swappedOf (e : LedgerEvent runId ι) : Option ContentId :=
  match e with
  | ⟨_, .txn (.complete rec _), .ok true, _, _⟩ => some rec.id
  | ⟨_, .txn (.steal rec _ _), .ok true, _, _⟩ => some rec.id
  | _ => none

/-- The item an event completed. Source: `rollout-coordinator/src/work_item.rs` `try_complete`.
Kind: D -/
def completedOf (e : LedgerEvent runId ι) : Option ContentId :=
  match e with
  | ⟨_, .txn (.complete rec _), .ok true, _, _⟩ => some rec.id
  | _ => none

/-- The item an event stole. Source: `rollout-coordinator/src/steal.rs` `handle_steal_request`.
Kind: D -/
def stolenOf (e : LedgerEvent runId ι) : Option ContentId :=
  match e with
  | ⟨_, .txn (.steal rec _ _), .ok true, _, _⟩ => some rec.id
  | _ => none

/-- How often the row of an item has been rewritten. Source: none: infrastructure. Kind: D -/
def version (tr : List (LedgerEvent runId ι)) (id : ContentId) : Nat :=
  tr.countP fun e => e.post.get (workKey runId id) ≠ e.pre.get (workKey runId id)

/-- How a completion ended. Source: none: infrastructure. Kind: D -/
def LedgerCall.completion : (c : LedgerCall) → LedgerM runId c.Out → Option (Except CoreError Bool)
  | .tryComplete .., p => p.result?
  | _, _ => none

/-- What a steal request that ended well returned. Source: none: infrastructure. Kind: D -/
def LedgerCall.stole : (c : LedgerCall) → LedgerM runId c.Out → Option (List ContentId)
  | .handleStealRequest .., .ret ids => some ids
  | _, _ => none

variable {calls : ι → LedgerCall} [DecidableEq ι] {s₀ : Rows} {tr : List (LedgerEvent runId ι)}
  {d : Config (Store.iface (txns runId) CoreError) CoreError Rows fun i => (calls i).Out}

/-- A completion that succeeded found the running row of its record and left it done.
Source: `rollout-coordinator/src/work_item.rs` `try_complete`. Kind: L -/
theorem complete_event (hrun : Run (store runId ι) (system runId calls s₀) tr d) {i : ι}
    {rec : WorkItemRecord} {x : ContentId} {s s' : Rows}
    (he : ⟨i, .txn (.complete rec x), .ok true, s, s'⟩ ∈ tr) :
    rec.state.isRunning = true ∧ s.get (workKey runId rec.id) = some (encodeRecord rec) ∧
      s' = s.put (workKey runId rec.id) (encodeRecord ⟨rec.id, .done x⟩) := by
  have hbody := (txn_event hrun he).2
  have hatom := (atomically_completeTxn runId rec x s).symm.trans hbody
  split at hatom
  · next hcas => exact ⟨hcas.1, hcas.2, (Prod.mk.inj hatom).2.symm⟩
  · exact absurd (Prod.mk.inj hatom).1 (by simp)

/-- A steal that succeeded found the running row of the victim and left the thief's.
Source: `rollout-coordinator/src/steal.rs` `handle_steal_request`. Kind: L -/
theorem steal_event (hrun : Run (store runId ι) (system runId calls s₀) tr d) {i : ι}
    {rec : WorkItemRecord} {thief : WorkerId} {now : BitVec 128} {s s' : Rows}
    (he : ⟨i, .txn (.steal rec thief now), .ok true, s, s'⟩ ∈ tr) :
    (∃ victim, rec.state.owner = some victim ∧ victim ≠ thief) ∧
      s.get (workKey runId rec.id) = some (encodeRecord rec) ∧
      s' = s.put (workKey runId rec.id) (encodeRecord ⟨rec.id, .running thief now⟩) := by
  obtain ⟨hmay, hbody⟩ := txn_event hrun he
  have hatom := (atomically_stealItem runId rec thief now s).symm.trans hbody
  split at hatom
  · next hcas => exact ⟨(mayRun_steal.mp hmay).2, hcas.2, (Prod.mk.inj hatom).2.symm⟩
  · exact absurd (Prod.mk.inj hatom).1 (by simp)

/-- **A swap out of a running row changes its bytes**: a done row differs from a running one, and
the thief from the victim. Source: `rollout-coordinator/src/work_item.rs` `try_complete`,
`try_repending`, `ledger.rs` `busiest`. Kind: P -/
theorem row_ne_of_swapped (hrun : Run (store runId ι) (system runId calls s₀) tr d)
    {e : LedgerEvent runId ι} (he : e ∈ tr) {id : ContentId} (hid : swappedOf e = some id) :
    e.post.get (workKey runId id) ≠ e.pre.get (workKey runId id) := by
  unfold swappedOf at hid
  split at hid
  · next i rec x s s' =>
    obtain rfl := Option.some.inj hid
    obtain ⟨hrunning, hrow, hs⟩ := complete_event hrun he
    simp only
    rw [hs, KV.get_put_self, hrow]
    intro heq
    have hrec := encodeRecord_inj.mp (Option.some.inj heq)
    rw [← hrec] at hrunning
    cases hrunning
  · next i rec thief now s s' =>
    obtain rfl := Option.some.inj hid
    obtain ⟨⟨victim, howner, hne⟩, hrow, hs⟩ := steal_event hrun he
    simp only
    rw [hs, KV.get_put_self, hrow]
    intro heq
    have hrec := encodeRecord_inj.mp (Option.some.inj heq)
    rw [← hrec] at howner
    exact hne (Option.some.inj howner).symm
  · cases hid

/-! ## Done rows -/

/-- The calls of this race: completions and steal requests. Source: none: infrastructure.
Kind: D -/
def OnlyRace (calls : ι → LedgerCall) : Prop :=
  ∀ i, (∃ rec x, calls i = .tryComplete rec x) ∨ ∃ thief now, calls i = .handleStealRequest thief now

/-- No event of the race touches a done row. Source: `rollout-coordinator/src/work_item.rs`
`try_complete`, `try_repending`. Kind: L -/
theorem done_kept (hrun : Run (store runId ι) (system runId calls s₀) tr d)
    (hrace : OnlyRace calls) {e : LedgerEvent runId ι} (he : e ∈ tr) {id x : ContentId}
    (hdone : rowState runId e.pre id = some (.done x)) :
    e.post.get (workKey runId id) = e.pre.get (workKey runId id) := by
  rcases event_cases hrun he with hsame | ⟨i, t, r, s, s', rfl, hmay, heff⟩
  · rw [hsame]
  · simp only at hdone ⊢
    have hother : ∀ (rec : WorkItemRecord) (b : Bytes), rec.state.isRunning = true →
        s.get (workKey runId rec.id) = some (encodeRecord rec) →
        (s.put (workKey runId rec.id) b).get (workKey runId id) = s.get (workKey runId id) := by
      intro rec b hrunning hrow
      apply KV.get_put_of_ne
      intro hk
      obtain rfl := workKey_inj.mp hk
      rw [rowState_of_row hrow] at hdone
      rw [Option.some.inj hdone] at hrunning
      cases hrunning
    cases heff with
    | enqueue u p =>
        rcases hrace i with ⟨rec, y, hc⟩ | ⟨thief, now, hc⟩ <;>
          cases hc.symm.trans (mayRun_enqueue.mp hmay)
    | dispatch key p w now =>
        rcases hrace i with ⟨rec, y, hc⟩ | ⟨thief, now', hc⟩ <;>
          cases hc.symm.trans (mayRun_dispatch.mp hmay).1
    | complete rec y _ hrunning hrow => exact hother rec _ hrunning hrow
    | steal rec w now _ hrunning hrow => exact hother rec _ hrunning hrow

/-! ## Refused completions -/

/-- A completion ends as its one transaction does: it is refused, with nothing changed, whenever
the row is not the running row of its record. Source: `rollout-coordinator/src/work_item.rs`
`try_complete`. Kind: L -/
theorem exec_tryComplete {c : LedgerCall} {rec : WorkItemRecord} {x : ContentId}
    (hc : c = .tryComplete rec x) {i : ι} {es : List (LedgerEvent runId ι)}
    {q : LedgerM runId c.Out} (h : Prog.Exec (store runId ι) i (c.prog runId) es q)
    {e : LedgerEvent runId ι} (he : e ∈ es)
    (hrow : e.pre.get (workKey runId rec.id) ≠ some (encodeRecord rec)) :
    e.post = e.pre ∧ ∀ b, c.completion q = some (.ok b) → b = false := by
  subst hc
  have hask : Prog.Exec (store runId ι) i (run runId (.complete rec x) >>= Prog.ret) es q := by
    rw [Prog.bind_ret]
    exact h
  rcases Store.exec_ask hask with ⟨rfl, -⟩ | ⟨err, s, rfl, rfl⟩ | ⟨s, es', rfl, h'⟩
  · cases he
  · rw [List.mem_singleton.mp he]
    refine ⟨rfl, ?_⟩
    intro b hb
    cases hb
  · obtain ⟨rfl, rfl⟩ := h'.of_ret
    rw [List.mem_singleton.mp he] at hrow ⊢
    have hbody : Store.perform (T := txns runId) (.txn (.complete rec x)) s = (false, s) := by
      have hatom := atomically_completeTxn runId rec x s
      rw [if_neg fun hcas => hrow hcas.2] at hatom
      exact hatom
    refine ⟨congrArg Prod.snd hbody, ?_⟩
    intro b hb
    have hres := Except.ok.inj (Option.some.inj hb)
    rw [← hres]
    exact congrArg Prod.fst hbody

/-! ## What a steal request returns -/

/-- The row of the item passes from the victim to the thief, and no other row changes.
Source: `rollout-coordinator/src/steal.rs` `handle_steal_request` (step 4). Kind: D -/
def Moved (runId : RunId) (victim thief : WorkerId) (now : BitVec 128) (id : ContentId)
    (s s' : Rows) : Prop :=
  (∃ t, rowState runId s id = some (.running victim t)) ∧
    rowState runId s' id = some (.running thief now) ∧
    ∀ k, k ≠ workKey runId id → s'.get k = s.get k

/-- The loop returns what it was given and the ids its own transactions stole, in order.
Source: `rollout-coordinator/src/steal.rs` `handle_steal_request` (step 4). Kind: L -/
theorem exec_stealItems {i : ι} {thief : WorkerId} {now : BitVec 128}
    (items : List WorkItemRecord) {stolen ids : List ContentId}
    {es : List (LedgerEvent runId ι)}
    (h : Prog.Exec (store runId ι) i
      (stealItems (fun rec => run runId (.steal rec thief now)) items stolen) es (.ret ids)) :
    ids = stolen ++ es.filterMap stolenOf := by
  induction items generalizing stolen es with
  | nil =>
      obtain ⟨rfl, hret⟩ := h.of_ret
      simpa using Prog.ret.inj hret
  | cons rec rest ih =>
      rw [stealItems_cons] at h
      obtain ⟨s, es', rfl, h'⟩ := Store.exec_ask_ret h
      generalize Store.perform (T := txns runId) (.txn (.steal rec thief now)) s = res at h' ⊢
      obtain ⟨won, s'⟩ := res
      cases won with
      | true =>
          rw [if_pos rfl] at h'
          have hstole : stolenOf (⟨i, .txn (.steal rec thief now), .ok true, s, s'⟩ :
              LedgerEvent runId ι) = some rec.id := rfl
          rw [List.filterMap_cons_some hstole, ih h', List.append_assoc]
          rfl
      | false =>
          rw [if_neg (by simp)] at h'
          rw [List.filterMap_cons_none rfl]
          exact ih h'

/-- A finished program that starts with a scan of the ledger.
Source: none: infrastructure. Kind: L -/
theorem exec_scanLedger_ret {β : Type} {i : ι} {f : List WorkItemRecord → LedgerM runId β}
    {es : List (LedgerEvent runId ι)} {b : β}
    (h : Prog.Exec (store runId ι) i (scanLedger runId >>= f) es (.ret b)) :
    ∃ e es' recs, es = e :: es' ∧ e.op = .scan (inLedger runId) ∧
      Prog.Exec (store runId ι) i (f recs) es' (.ret b) := by
  rw [scanLedger_bind] at h
  obtain ⟨s, es', rfl, h'⟩ := Store.exec_ask_ret h
  generalize (Store.perform (T := txns runId) (.scan (inLedger runId)) s).1.mapM
    (fun e => decode e.2) = decoded at h'
  cases decoded with
  | error err => cases h'.of_err.2
  | ok recs => exact ⟨_, es', recs, rfl, rfl, h'⟩

/-- A finished steal request scanned, chose running items of one victim, and looped over them.
Source: `rollout-coordinator/src/steal.rs` `handle_steal_request`. Kind: L -/
theorem exec_stealCall {i : ι} {thief : WorkerId} {now : BitVec 128} {ids : List ContentId}
    {es : List (LedgerEvent runId ι)}
    (h : Prog.Exec (store runId ι) i (stealCall runId thief now) es (.ret ids)) :
    ∃ scans loop items victim, es = scans ++ loop ∧
      (∀ e ∈ scans, e.op = .scan (inLedger runId)) ∧
      (∀ rec ∈ items, rec.state.owner = some victim ∧ victim ≠ thief) ∧
      Prog.Exec (store runId ι) i
        (stealItems (fun rec => run runId (.steal rec thief now)) items []) loop (.ret ids) := by
  unfold stealCall handleStealRequest backlog busiest at h
  rw [Prog.bind_assoc] at h
  obtain ⟨e₁, es₁, recs, rfl, hop₁, h⟩ := exec_scanLedger_ret h
  rw [Prog.pure_eq, Prog.ret_bind] at h
  split at h
  · exact ⟨[e₁], es₁, [], thief, rfl, by simpa using hop₁, by simp, h⟩
  · rw [Prog.bind_assoc] at h
    obtain ⟨e₂, es₂, recs', rfl, hop₂, h⟩ := exec_scanLedger_ret h
    rw [Prog.pure_eq, Prog.ret_bind] at h
    have hops : ∀ e ∈ [e₁, e₂], e.op = .scan (inLedger runId) := by
      simpa using ⟨hop₁, hop₂⟩
    cases hbusy : busiestOf recs' thief with
    | none =>
        rw [hbusy] at h
        exact ⟨[e₁, e₂], es₂, [], thief, rfl, hops, by simp, h⟩
    | some x =>
        have hne := ne_of_busiestOf hbusy
        obtain ⟨victim, victimBacklog⟩ := x
        rw [hbusy] at h
        simp only at h
        split at h
        · exact ⟨[e₁, e₂], es₂, [], thief, rfl, hops, by simp, h⟩
        · unfold workPrefix at h
          rw [scanBytes_eq] at h
          obtain ⟨s, es₃, rfl, h'⟩ := Store.exec_ask_ret h
          refine ⟨[e₁, e₂, _], es₃, _, victim, rfl, ?_, ?_, h'⟩
          · intro e he
            simp only [List.mem_cons, List.not_mem_nil, or_false] at he
            rcases he with rfl | rfl | rfl
            · exact hop₁
            · exact hop₂
            · rfl
          · intro rec hrec
            exact ⟨owner_of_mem_victimItems (List.mem_of_mem_take hrec), hne⟩

/-- An event of a steal request that stole nothing changed nothing.
Source: `rollout-coordinator/src/steal.rs` `handle_steal_request` (step 4). Kind: L -/
theorem same_of_not_stolen (hrun : Run (store runId ι) (system runId calls s₀) tr d) {i : ι}
    {thief : WorkerId} {now : BitVec 128} (hc : calls i = .handleStealRequest thief now)
    {e : LedgerEvent runId ι} (he : e ∈ tr) (hi : e.who = i) (hnone : stolenOf e = none) :
    e.post = e.pre := by
  rcases event_cases hrun he with hsame | ⟨j, t, r, s, s', rfl, hmay, -⟩
  · exact hsame
  · simp only at hi
    subst hi
    rw [hc] at hmay
    obtain ⟨rec, victim, -, -, rfl⟩ := hmay
    have hatom := (atomically_stealItem runId rec thief now s).symm.trans (txn_event hrun he).2
    have hr : r = false := by
      cases r with
      | true => cases hnone
      | false => rfl
    rw [hr] at hatom
    split at hatom
    · exact absurd (Prod.mk.inj hatom).1 (by simp)
    · exact (Prod.mk.inj hatom).2.symm

/-- What a successful steal moved. Source: `rollout-coordinator/src/steal.rs`
`handle_steal_request` (step 4). Kind: L -/
theorem moved_of_stolen (hrun : Run (store runId ι) (system runId calls s₀) tr d)
    {e : LedgerEvent runId ι} (he : e ∈ tr) {rec : WorkItemRecord} {victim thief : WorkerId}
    {now : BitVec 128} (hop : e.op = .txn (.steal rec thief now))
    (howner : rec.state.owner = some victim) {id : ContentId} (hid : stolenOf e = some id) :
    Moved runId victim thief now id e.pre e.post := by
  unfold stolenOf at hid
  split at hid
  · next i rec' thief' now' s s' =>
    obtain rfl := Option.some.inj hid
    obtain ⟨rfl, rfl, rfl⟩ := LedgerTxn.steal.inj (Store.Op.txn.inj hop)
    obtain ⟨-, hrow, hs⟩ := steal_event hrun he
    simp only
    have hpre := rowState_of_row hrow
    refine ⟨?_, ?_, ?_⟩
    · obtain ⟨t, hst⟩ := WorkState.owner_eq_some.mp howner
      exact ⟨t, hpre.trans (congrArg some hst)⟩
    · rw [hs, rowState_put_workKey, if_pos rfl]
    · intro k hk
      rw [hs, KV.get_put_of_ne _ _ _ _ hk]
  · cases hid

theorem stolenOf_of_scan {e : LedgerEvent runId ι} {p : StorageKey → Bool}
    (h : e.op = .scan p) : stolenOf e = none := by
  unfold stolenOf
  split
  · cases h
  · rfl

/-- **A steal request that ends well returns what it moved.** Source:
`rollout-coordinator/src/steal.rs` `handle_steal_request`. Kind: P -/
theorem stole_eq (hrun : Run (store runId ι) (system runId calls s₀) tr d) {c : LedgerCall}
    {i : ι} {q : LedgerM runId c.Out} (hexec : Prog.Exec (store runId ι) i (c.prog runId) (own i tr) q)
    {thief : WorkerId} {now : BitVec 128} (hc : c = .handleStealRequest thief now)
    {ids : List ContentId} (hids : c.stole q = some ids) :
    ids = (own i tr).filterMap stolenOf ∧
      ∃ victim, ∀ e ∈ own i tr, ∀ id, stolenOf e = some id →
        victim ≠ thief ∧ Moved runId victim thief now id e.pre e.post := by
  subst hc
  cases q with
  | err e => cases hids
  | call o k => cases hids
  | ret ids' =>
      obtain rfl : ids' = ids := Option.some.inj hids
      obtain ⟨scans, loop, items, victim, hown, hscans, hitems, hloop⟩ := exec_stealCall hexec
      have hnone : scans.filterMap stolenOf = [] :=
        List.filterMap_eq_nil_iff.mpr fun e he => stolenOf_of_scan (hscans e he)
      have hsteals : ∀ e ∈ loop, ∃ rec ∈ items, e.op = .txn (.steal rec thief now) :=
        hloop.issued (issues_stealItems (φ := fun o => ∃ rec ∈ items, o = .txn (.steal rec thief now))
          items [] fun rec hrec => ⟨rec, hrec, rfl⟩)
      refine ⟨?_, victim, ?_⟩
      · rw [hown, List.filterMap_append, hnone, exec_stealItems items hloop]
      · intro e he id hid
        have htr := (mem_own.mp he).1
        rw [hown] at he
        rcases List.mem_append.mp he with he | he
        · rw [stolenOf_of_scan (hscans e he)] at hid
          cases hid
        · obtain ⟨rec, hrec, hop⟩ := hsteals e he
          obtain ⟨howner, hne⟩ := hitems rec hrec
          exact ⟨hne, moved_of_stolen hrun htr hop howner hid⟩

/-! ## The race -/

/-- **What a race of completions and steal requests keeps.** Source:
`rollout-coordinator/src/steal.rs` `handle_steal_request`, `work_item.rs`. Kind: D -/
structure RaceSafe (calls : ι → LedgerCall) (s₀ : Rows) (tr : List (LedgerEvent runId ι))
    (d : Config (Store.iface (txns runId) CoreError) CoreError Rows fun i => (calls i).Out) :
    Prop where
  /-- Two swaps out of the running row of one item are out of different versions of it. -/
  swap_once : ∀ tr₁ e tr₂ e' tr₃ id, tr = tr₁ ++ e :: tr₂ ++ e' :: tr₃ → swappedOf e = some id →
    swappedOf e' = some id → version tr₁ id < version (tr₁ ++ e :: tr₂) id
  /-- A done row is never overwritten. -/
  done_stays : (states (system runId calls s₀) tr).Pairwise fun s s' => ∀ id x,
    rowState runId s id = some (.done x) → s'.get (workKey runId id) = s.get (workKey runId id)
  /-- It is written at most once. -/
  done_once : ∀ id, (tr.countP fun e => completedOf e = some id) ≤ 1
  /-- A completion by a worker the row does not name as owner is refused. -/
  refused : ∀ i rec x w, calls i = .tryComplete rec x → rec.state.owner = some w →
    ∀ e ∈ own i tr, (∀ t, rowState runId e.pre rec.id ≠ some (.running w t)) →
      e.post = e.pre ∧ ∀ b, (calls i).completion (d.progs i) = some (.ok b) → b = false
  /-- A steal request that ends well returns exactly what it moved. -/
  stole : ∀ i thief now ids, calls i = .handleStealRequest thief now →
    (calls i).stole (d.progs i) = some ids → ids = (own i tr).filterMap stolenOf ∧
      ∃ victim, ∀ e ∈ own i tr, match stolenOf e with
        | none => e.post = e.pre
        | some id => victim ≠ thief ∧ Moved runId victim thief now id e.pre e.post

/-- A completed item was running and is done. Source: `rollout-coordinator/src/work_item.rs`
`try_complete`. Kind: L -/
theorem state_of_completed (hrun : Run (store runId ι) (system runId calls s₀) tr d)
    {e : LedgerEvent runId ι} (he : e ∈ tr) {id : ContentId} (hid : completedOf e = some id) :
    ∃ st x, st.isRunning = true ∧ rowState runId e.pre id = some st ∧
      rowState runId e.post id = some (.done x) := by
  unfold completedOf at hid
  split at hid
  · next i rec x s s' =>
    obtain rfl := Option.some.inj hid
    obtain ⟨hrunning, hrow, hs⟩ := complete_event hrun he
    refine ⟨rec.state, x, hrunning, rowState_of_row hrow, ?_⟩
    simp only
    rw [hs, rowState_put_workKey, if_pos rfl]
  · cases hid

/-- An item is completed at most once, and is done from then on.
Source: `rollout-coordinator/src/work_item.rs` `try_complete`. Kind: L -/
theorem completed_once (hrun : Run (store runId ι) (system runId calls s₀) tr d)
    (hrace : OnlyRace calls) (id : ContentId) :
    (tr.countP fun e => completedOf e = some id) ≤ 1 ∧
      (0 < (tr.countP fun e => completedOf e = some id) →
        ∃ x, rowState runId d.shared id = some (.done x)) := by
  induction hrun with
  | refl => simp
  | tick _ t => exact isEmptyElim t
  | @step tr d i o k r s' h hp hd ih =>
      have hrun' := h.step hp hd
      have hlast := List.mem_append_right tr (List.mem_singleton.mpr
        (rfl : (⟨i, o, r, d.shared, s'⟩ : LedgerEvent runId ι) = _))
      obtain ⟨hone, hdone⟩ := ih
      rw [List.countP_append, List.countP_singleton]
      by_cases hnew : completedOf (⟨i, o, r, d.shared, s'⟩ : LedgerEvent runId ι) = some id
      · rw [if_pos (by simpa using hnew)]
        obtain ⟨st, x, hrunning, hpre, hpost⟩ := state_of_completed hrun' hlast hnew
        -- the row was running, so nothing was completed before
        have hnone : (tr.countP fun e => completedOf e = some id) = 0 := by
          by_contra hne
          obtain ⟨y, hy⟩ := hdone (Nat.pos_of_ne_zero hne)
          obtain rfl := Option.some.inj (hy.symm.trans hpre)
          cases hrunning
        rw [hnone]
        exact ⟨le_rfl, fun _ => ⟨x, hpost⟩⟩
      · rw [if_neg (by simpa using hnew), Nat.add_zero]
        refine ⟨hone, fun hpos => ?_⟩
        obtain ⟨x, hx⟩ := hdone hpos
        refine ⟨x, ?_⟩
        show rowState runId s' id = _
        rw [rowState_congr (done_kept hrun' hrace hlast hx)]
        exact hx

/-- **The race is safe**, from any ledger. Source: `rollout-coordinator/src/steal.rs`
`handle_steal_request`, `work_item.rs` `try_complete`. Kind: C -/
theorem steal_race_safe (hrun : Run (store runId ι) (system runId calls s₀) tr d)
    (hrace : OnlyRace calls) : RaceSafe calls s₀ tr d := by
  refine ⟨?_, ?_, ?_, ?_, ?_⟩
  · rintro tr₁ e tr₂ e' tr₃ id rfl he -
    have hne := row_ne_of_swapped hrun (by simp) he
    unfold version
    rw [List.countP_append, List.countP_cons_of_pos (by simpa using hne)]
    omega
  · rw [hrun.pairwise_iff (fun s id x _ => rfl)]
    · intro e he id x hx
      exact done_kept hrun hrace he hx
    · intro s t u hst htu id x hx
      have hkept := hst id x hx
      rw [htu id x ((rowState_congr hkept).trans hx), hkept]
  · exact fun id => (completed_once hrun hrace id).1
  · intro i rec x w hc howner e he hne
    apply exec_tryComplete hc (hrun.exec i) he
    intro hrow
    obtain ⟨t, hst⟩ := WorkState.owner_eq_some.mp howner
    exact hne t ((rowState_of_row hrow).trans (congrArg some hst))
  · intro i thief now ids hc hids
    obtain ⟨heq, victim, hmoved⟩ := stole_eq hrun (hrun.exec i) hc hids
    refine ⟨heq, victim, ?_⟩
    intro e he
    split
    · next hnone => exact same_of_not_stolen hrun hc (mem_own.mp he).1 (mem_own.mp he).2 hnone
    · next id hid => exact hmoved e he id hid

end race

/-! ## A concrete race -/

/-- Worker 1 acks the item it holds while workers 2 and 3 both ask to steal it.
Source: `rollout-coordinator/tests/steal_dedup.rs`
`concurrent_ack_and_steal_no_double_execute`. Kind: D -/
def raceCalls : Fin 3 → LedgerCall
  | 0 => .tryComplete ⟨ContentId.ofEmpty, .running ⟨⟨1⟩⟩ 100⟩ ContentId.ofEmpty
  | 1 => .handleStealRequest ⟨⟨2⟩⟩ 200
  | 2 => .handleStealRequest ⟨⟨3⟩⟩ 200

/-- The item runs on worker 1. Source: `rollout-coordinator/tests/steal_dedup.rs`. Kind: D -/
def raceRows : Rows :=
  (∅ : Rows).put (workKey ⟨⟨7⟩⟩ ContentId.ofEmpty)
    (encodeRecord ⟨ContentId.ofEmpty, .running ⟨⟨1⟩⟩ 100⟩)

/-- `steal_race_safe` at a race that one thief wins and the owner loses.
Source: `rollout-coordinator/tests/steal_dedup.rs`. Kind: C -/
theorem steal_race_safe_thief :
    ∃ tr d, Run (emptyStore (Fin 3)) (@system emptyBlake3 ⟨⟨7⟩⟩ _ raceCalls raceRows) tr d ∧
      rowState ⟨⟨7⟩⟩ d.shared ContentId.ofEmpty = some (.running ⟨⟨2⟩⟩ 200) ∧
      @LedgerCall.completion emptyBlake3 ⟨⟨7⟩⟩ (raceCalls 0) (d.progs 0) = some (.ok false) ∧
      @LedgerCall.stole emptyBlake3 ⟨⟨7⟩⟩ (raceCalls 1) (d.progs 1) = some [ContentId.ofEmpty] ∧
      @LedgerCall.stole emptyBlake3 ⟨⟨7⟩⟩ (raceCalls 2) (d.progs 2) = some [] ∧
      @RaceSafe emptyBlake3 _ ⟨⟨7⟩⟩ _ raceCalls raceRows tr d := by
  let _ := emptyBlake3
  -- both thieves have scanned before worker 2 steals
  have hplay : (((system ⟨⟨7⟩⟩ raceCalls raceRows).play
      (inTurn (emptyStore (Fin 3)) (.ok ()) [1, 2, 1, 2, 1, 2, 1, 2, 0])).map fun x =>
      (rowState ⟨⟨7⟩⟩ x.2.shared ContentId.ofEmpty, decide ((raceCalls 0).completion (x.2.progs 0) =
        some (.ok false)), (raceCalls 1).stole (x.2.progs 1), (raceCalls 2).stole (x.2.progs 2))) =
      some (some (.running ⟨⟨2⟩⟩ 200), true, some [ContentId.ofEmpty], some []) := by
    decide +kernel
  obtain ⟨⟨tr, d⟩, hrun, hend⟩ := Option.map_eq_some_iff.mp hplay
  simp only [Prod.mk.injEq, decide_eq_true_eq] at hend
  obtain ⟨hrow, hack, hwon, hlost⟩ := hend
  have hrace : OnlyRace raceCalls := by
    intro i
    match i with
    | 0 => exact .inl ⟨_, _, rfl⟩
    | 1 => exact .inr ⟨_, _, rfl⟩
    | 2 => exact .inr ⟨_, _, rfl⟩
  exact ⟨tr, d, Config.play_run hrun, hrow, hack, hwon, hlost,
    steal_race_safe (Config.play_run hrun) hrace⟩

end Rollout.Coordinator.Ledger
