import Rollout.Coordinator.LedgerTerminal

/-!
# No work is lost between queue and ledger

From an empty queue and ledger, whatever calls run, fail or are cut off: every payload whose
enqueue committed is still queued or has a ledger row that is not pending, no committed row is
pending, and every row belongs to a payload that was enqueued.

The history is the list of committed enqueues. A dispatch knows that the entry it read was enqueued
under that key, which no other call can make untrue; that is the only thing the processes ask of
each other.
-/

set_option linter.unusedSectionVars false

namespace Rollout.Coordinator.Ledger

open Rollout.Lib Rollout.Core Rollout.Coordinator.WorkItem

section conservation

variable [Blake3] {ι : Type} (runId : RunId) (calls : ι → LedgerCall)

/-! ## The invariant -/

/-- **Queue and ledger against the committed enqueues.** Source: none: infrastructure. Kind: D -/
structure Conserved (s : Rows) (g : List (Ulid × Bytes)) : Prop where
  /-- Every queue entry was enqueued under its key. -/
  queue : ∀ key p, s.get key = some p → inQueue runId key = true →
    ∃ u, key = queueKey runId u ∧ (u, p) ∈ g
  /-- Every ledger row is the encoded row of an enqueued payload, and not pending. -/
  rows : ∀ key b, s.get key = some b → inLedger runId key = true →
    ∃ id st, key = workKey runId id ∧ b = encodeRecord ⟨id, st⟩ ∧ st ≠ .pending ∧
      ∃ u p, (u, p) ∈ g ∧ ContentId.of p = id
  /-- Every enqueued payload is queued or has a row. -/
  live : ∀ u p, (u, p) ∈ g → s.get (queueKey runId u) = some p ∨
    ∃ b, s.get (workKey runId (ContentId.of p)) = some b
  /-- Every committed enqueue is a call's. -/
  issued : ∀ u p, (u, p) ∈ g → ∃ i, calls i = .enqueue u p

/-- No two enqueues draw the same ULID. Source: `rollout-coordinator/src/ledger.rs` `enqueue`
(`Ulid::new`). Kind: D -/
def FreshUlids : Prop :=
  ∀ i j u p p', calls i = .enqueue u p → calls j = .enqueue u p' → i = j

/-- The committed enqueues after a transaction. Source: none: infrastructure. Kind: D -/
def recordEnqueue (g : List (Ulid × Bytes)) (t : LedgerTxn) : List (Ulid × Bytes) :=
  match t with
  | .enqueue u p => (u, p) :: g
  | _ => g

/-- A dispatch writes over an entry that was enqueued. Source: none: infrastructure. Kind: D -/
def KnownEntry (t : LedgerTxn) (g : List (Ulid × Bytes)) : Prop :=
  match t with
  | .dispatch key p _ _ => ∃ u, key = queueKey runId u ∧ (u, p) ∈ g
  | _ => True

variable {runId calls}

/-- Two committed enqueues under one ULID are the same. Source: none: infrastructure. Kind: L -/
theorem Conserved.payload_unique {s : Rows} {g : List (Ulid × Bytes)}
    (h : Conserved runId calls s g) (hfresh : FreshUlids calls) {u : Ulid} {p p' : Bytes}
    (hp : (u, p) ∈ g) (hp' : (u, p') ∈ g) : p = p' := by
  obtain ⟨i, hi⟩ := h.issued u p hp
  obtain ⟨j, hj⟩ := h.issued u p' hp'
  obtain rfl := hfresh i j u p p' hi hj
  rw [hi] at hj
  exact (LedgerCall.enqueue.inj hj).2

theorem Conserved.enqueue {s : Rows} {g : List (Ulid × Bytes)} (h : Conserved runId calls s g)
    (hfresh : FreshUlids calls) {i : ι} {u : Ulid} {p : Bytes} (hi : calls i = .enqueue u p) :
    Conserved runId calls (s.put (queueKey runId u) p) ((u, p) :: g) := by
  refine ⟨?_, ?_, ?_, ?_⟩
  · intro key p' hget hkey
    by_cases hk : key = queueKey runId u
    · subst hk
      rw [KV.get_put_self, Option.some.injEq] at hget
      subst hget
      exact ⟨u, rfl, List.mem_cons_self⟩
    · rw [KV.get_put_of_ne _ _ _ _ hk] at hget
      obtain ⟨u', hu', hmem⟩ := h.queue key p' hget hkey
      exact ⟨u', hu', List.mem_cons_of_mem _ hmem⟩
  · intro key b hget hkey
    have hk : key ≠ queueKey runId u := by
      rintro rfl
      rw [not_inLedger_of_inQueue (inQueue_queueKey runId u)] at hkey
      simp at hkey
    rw [KV.get_put_of_ne _ _ _ _ hk] at hget
    obtain ⟨id, st, hid, hb, hst, u', p', hmem, hof⟩ := h.rows key b hget hkey
    exact ⟨id, st, hid, hb, hst, u', p', List.mem_cons_of_mem _ hmem, hof⟩
  · intro u' p' hmem
    rw [KV.get_put_of_ne _ _ _ _ (queueKey_ne_workKey runId u _).symm]
    by_cases hu : u' = u
    · subst hu
      rw [KV.get_put_self]
      rcases List.mem_cons.mp hmem with heq | hmem
      · rw [(Prod.mk.inj heq).2]
        exact .inl rfl
      · obtain ⟨j, hj⟩ := h.issued u' p' hmem
        obtain rfl := hfresh i j u' p p' hi hj
        rw [hi] at hj
        rw [(LedgerCall.enqueue.inj hj).2]
        exact .inl rfl
    · rw [KV.get_put_of_ne _ _ _ _ fun hk => hu (queueKey_inj.mp hk)]
      rcases List.mem_cons.mp hmem with heq | hmem
      · exact absurd (Prod.mk.inj heq).1 hu
      · exact h.live u' p' hmem
  · intro u' p' hmem
    rcases List.mem_cons.mp hmem with heq | hmem
    · obtain ⟨rfl, rfl⟩ := Prod.mk.inj heq
      exact ⟨i, hi⟩
    · exact h.issued u' p' hmem

/-- Writing a row that is not pending for an enqueued payload. Source: none: infrastructure.
Kind: L -/
theorem Conserved.put_row {s : Rows} {g : List (Ulid × Bytes)} (h : Conserved runId calls s g)
    (id : ContentId) {st : WorkState} (hst : st ≠ .pending)
    (hknown : ∃ u p, (u, p) ∈ g ∧ ContentId.of p = id) :
    Conserved runId calls (s.put (workKey runId id) (encodeRecord ⟨id, st⟩)) g := by
  refine ⟨?_, ?_, ?_, h.issued⟩
  · intro key p hget hkey
    have hk : key ≠ workKey runId id := by
      rintro rfl
      rw [inQueue_workKey] at hkey
      simp at hkey
    rw [KV.get_put_of_ne _ _ _ _ hk] at hget
    exact h.queue key p hget hkey
  · intro key b hget hkey
    by_cases hk : key = workKey runId id
    · subst hk
      rw [KV.get_put_self, Option.some.injEq] at hget
      exact ⟨id, st, rfl, hget.symm, hst, hknown⟩
    · rw [KV.get_put_of_ne _ _ _ _ hk] at hget
      exact h.rows key b hget hkey
  · intro u p hmem
    rw [KV.get_put_of_ne _ _ _ _ (queueKey_ne_workKey runId u id)]
    rcases h.live u p hmem with hq | ⟨b, hb⟩
    · exact .inl hq
    · by_cases hid : ContentId.of p = id
      · rw [hid, KV.get_put_self]
        exact .inr ⟨_, rfl⟩
      · rw [KV.get_put_of_ne _ _ _ _ fun hk => hid (workKey_inj.mp hk)]
        exact .inr ⟨b, hb⟩

/-- Deleting the entry of a payload that has a row. Source: none: infrastructure. Kind: L -/
theorem Conserved.del_entry {s : Rows} {g : List (Ulid × Bytes)} (h : Conserved runId calls s g)
    (hfresh : FreshUlids calls) {u : Ulid} {p : Bytes} (hmem : (u, p) ∈ g)
    (hrow : ∃ b, s.get (workKey runId (ContentId.of p)) = some b) :
    Conserved runId calls (s.del (queueKey runId u)) g := by
  refine ⟨?_, ?_, ?_, h.issued⟩
  · intro key p' hget hkey
    by_cases hk : key = queueKey runId u
    · subst hk
      rw [KV.get_del_self] at hget
      cases hget
    · rw [KV.get_del_of_ne _ _ _ hk] at hget
      exact h.queue key p' hget hkey
  · intro key b hget hkey
    have hk : key ≠ queueKey runId u := by
      rintro rfl
      rw [not_inLedger_of_inQueue (inQueue_queueKey runId u)] at hkey
      simp at hkey
    rw [KV.get_del_of_ne _ _ _ hk] at hget
    exact h.rows key b hget hkey
  · intro u' p' hmem'
    rw [KV.get_del_of_ne _ _ _ (queueKey_ne_workKey runId u _).symm]
    by_cases hu : u' = u
    · subst hu
      rw [h.payload_unique hfresh hmem' hmem]
      exact .inr hrow
    · rw [KV.get_del_of_ne _ _ _ fun hk => hu (queueKey_inj.mp hk)]
      exact h.live u' p' hmem'

/-- **One transaction keeps queue and ledger together.** Source:
`rollout-coordinator/src/ledger.rs`, `work_item.rs`, `steal.rs`. Kind: P -/
theorem Conserved.step {s : Rows} {g : List (Ulid × Bytes)} (h : Conserved runId calls s g)
    (hfresh : FreshUlids calls) {i : ι} {t : LedgerTxn} (hmay : (calls i).MayRun runId t)
    (hknown : KnownEntry runId t g) :
    Conserved runId calls (atomically (LedgerTxn.body runId t) s).2 (recordEnqueue g t) := by
  have hrow : ∀ {id : ContentId} {b : Bytes}, s.get (workKey runId id) = some b →
      ∃ u p, (u, p) ∈ g ∧ ContentId.of p = id := by
    intro id b hget
    obtain ⟨id', st, hid, -, -, hknown⟩ := h.rows _ b hget (inLedger_workKey runId id)
    rw [workKey_inj.mp hid]
    exact hknown
  rcases effect_of_body runId t s with hsame | heff
  · cases t with
    | enqueue u p =>
        have hs := congrArg Prod.snd (atomically_enqueueTxn runId u p s)
        exact hs ▸ h.enqueue hfresh (mayRun_enqueue.mp hmay)
    | dispatch => rw [hsame]; exact h
    | complete => rw [hsame]; exact h
    | steal => rw [hsame]; exact h
  · generalize (atomically (LedgerTxn.body runId t) s).2 = s' at heff
    cases heff with
    | enqueue u p => exact h.enqueue hfresh (mayRun_enqueue.mp hmay)
    | dispatch key p w now =>
        obtain ⟨u, rfl, hmem⟩ := hknown
        have hst : WorkState.running w now ≠ .pending := by simp
        have hput := h.put_row (ContentId.of p) hst ⟨u, p, hmem, rfl⟩
        exact hput.del_entry hfresh hmem ⟨_, KV.get_put_self _ _ _⟩
    | complete rec r _ _ hget => exact h.put_row rec.id (by simp) (hrow hget)
    | steal rec w now _ _ hget => exact h.put_row rec.id (by simp) (hrow hget)

/-! ## The agreement between calls -/

variable (runId calls)

/-- The agreement of the ledger calls: what has been enqueued stays known.
Source: none: infrastructure. Kind: D -/
def conservationRules (hfresh : FreshUlids calls) :
    Store.Rules (txns runId) ι (List (Ulid × Bytes)) where
  upd g _ t _ := recordEnqueue g t
  inv := Conserved runId calls
  rely _ _ g _ g' := g ⊆ g'
  pre i t _ g := (calls i).MayRun runId t ∧ KnownEntry runId t g
  assume _ _ _ := True
  rely_refl _ _ g := List.Subset.refl g
  rely_trans _ _ _ _ _ _ _ h h' := List.Subset.trans h h'
  step i t s g _ hinv hpre := by
    refine ⟨hinv.step hfresh hpre.1 hpre.2, ?_⟩
    intro j _
    cases t with
    | enqueue u p => exact List.subset_cons_self _ _
    | dispatch => exact List.Subset.refl _
    | complete => exact List.Subset.refl _
    | steal => exact List.Subset.refl _

variable {runId calls}

/-- A call that runs no dispatch is justified whatever was enqueued.
Source: none: infrastructure. Kind: L -/
theorem safe_of_not_dispatch (hfresh : FreshUlids calls) {i : ι}
    (hc : ∀ w now, calls i ≠ .dispatch w now) (s : Rows) (g : List (Ulid × Bytes)) :
    (conservationRules runId calls hfresh).Safe i ((calls i).prog runId) s g := by
  apply Store.Rules.Safe.of_issues
  apply (issues_call (calls i)).mono
  intro o hmay s' g' _
  cases o with
  | get k => trivial
  | scan p => trivial
  | txn t =>
      refine ⟨hmay, ?_⟩
      cases t with
      | dispatch key p w now => exact absurd (mayRun_dispatch.mp hmay).1 (hc w now)
      | enqueue => trivial
      | complete => trivial
      | steal => trivial

/-- **Every call keeps to the agreement**: the entry a dispatch has read was enqueued.
Source: `rollout-coordinator/src/ledger.rs`, `work_item.rs`, `steal.rs`. Kind: P -/
theorem conservation_safe (hfresh : FreshUlids calls) (i : ι) (s : Rows)
    (g : List (Ulid × Bytes)) :
    (conservationRules runId calls hfresh).Safe i ((calls i).prog runId) s g := by
  by_cases hdispatch : ∃ w now, calls i = .dispatch w now
  · obtain ⟨w, now, hc⟩ := hdispatch
    rw [hc]
    show (conservationRules runId calls hfresh).Safe i (dispatchCall runId w now) s g
    unfold dispatchCall
    rw [nextPendingEntry_bind]
    apply Store.Rules.Safe.scan
    intro s' g' _ hinv
    cases hleast : leastEntry (s'.scan (inQueue runId)) with
    | none => exact Store.Rules.Safe.ret _
    | some e =>
        obtain ⟨hget, hkey⟩ := (KV.mem_scan s').mp (mem_of_leastEntry hleast)
        obtain ⟨u, hu, hmem⟩ := hinv.queue e.1 e.2 hget hkey
        simp only
        rw [← Prog.bind_ret (run runId _)]
        apply Store.Rules.Safe.txn
        intro s'' g'' hsub _
        refine ⟨⟨?_, u, hu, hsub hmem⟩, fun _ _ => Store.Rules.Safe.ret _⟩
        rw [hc]
        exact mayRun_dispatch.mpr ⟨rfl, hkey⟩
  · apply safe_of_not_dispatch
    intro w now hc
    exact hdispatch ⟨w, now, hc⟩

/-! ## Conservation -/

/-- The enqueue an event committed. Source: none: infrastructure. Kind: D -/
def enqueueOf (e : LedgerEvent runId ι) : Option (Ulid × Bytes) :=
  match e with
  | ⟨_, .txn (.enqueue u p), .ok _, _, _⟩ => some (u, p)
  | _ => none

theorem mem_extend (hfresh : FreshUlids calls) {g : List (Ulid × Bytes)}
    {e : LedgerEvent runId ι} {x : Ulid × Bytes} :
    x ∈ (conservationRules runId calls hfresh).extend g e ↔ x ∈ g ∨ enqueueOf e = some x := by
  obtain ⟨i, o, r, s, s'⟩ := e
  cases o with
  | get k => simp [Store.Rules.extend, enqueueOf]
  | scan p => simp [Store.Rules.extend, enqueueOf]
  | txn t =>
      rcases r with err | out
      · simp [Store.Rules.extend, enqueueOf]
      · show x ∈ recordEnqueue g t ↔ _
        cases t with
        | enqueue u p =>
            simp only [recordEnqueue, enqueueOf, List.mem_cons, Option.some.injEq]
            rw [or_comm, eq_comm]
        | dispatch => simp [recordEnqueue, enqueueOf]
        | complete => simp [recordEnqueue, enqueueOf]
        | steal => simp [recordEnqueue, enqueueOf]

/-- The history of a run is its committed enqueues. Source: none: infrastructure. Kind: L -/
theorem mem_foldl_extend (hfresh : FreshUlids calls) {tr : List (LedgerEvent runId ι)}
    {g : List (Ulid × Bytes)} {x : Ulid × Bytes} :
    x ∈ tr.foldl (conservationRules runId calls hfresh).extend g ↔
      x ∈ g ∨ ∃ e ∈ tr, enqueueOf e = some x := by
  induction tr generalizing g with
  | nil => simp
  | cons e tr ih =>
      rw [List.foldl_cons, ih, mem_extend, or_assoc]
      simp

variable [DecidableEq ι] {s₀ : Rows} {tr : List (LedgerEvent runId ι)}
  {d : Config (Store.iface (txns runId) CoreError) CoreError Rows fun i => (calls i).Out}

/-- **No work is lost between queue and ledger.** In every state a run from an empty queue and
ledger can reach, with any operation failing and any call cut off: every payload whose enqueue
committed is queued or has a row that is running, done or failed; no row is pending; and every row
of the ledger belongs to a payload that was enqueued. Source: `rollout-coordinator/src/ledger.rs`
`enqueue`, `dispatch`, `work_item.rs`, `steal.rs` `handle_steal_request`. Kind: C -/
theorem ledger_conserves (hrun : Run (store runId ι) (system runId calls s₀) tr d)
    (hqueue : ∀ key, inQueue runId key = true → s₀.get key = none)
    (hledger : ∀ key, inLedger runId key = true → s₀.get key = none)
    (hfresh : FreshUlids calls) :
    (∀ e ∈ tr, ∀ u p, enqueueOf e = some (u, p) →
      d.shared.get (queueKey runId u) = some p ∨
        ∃ st, rowState runId d.shared (ContentId.of p) = some st ∧ st ≠ .pending) ∧
    (∀ id, rowState runId d.shared id ≠ some .pending) ∧
    (∀ key b, d.shared.get key = some b → inLedger runId key = true →
      ∃ e ∈ tr, ∃ u p, enqueueOf e = some (u, p) ∧ key = workKey runId (ContentId.of p)) := by
  have hinit : Conserved runId calls s₀ [] := by
    refine ⟨?_, ?_, by simp, by simp⟩
    · intro key p hget hkey
      rw [hqueue key hkey] at hget
      cases hget
    · intro key b hget hkey
      rw [hledger key hkey] at hget
      cases hget
  have hend := (conservationRules runId calls hfresh).run hrun hinit
    (fun i => conservation_safe hfresh i s₀ []) (by
      intro e _
      unfold Store.Rules.assumed
      split <;> trivial)
  have hstate : ∀ id b, d.shared.get (workKey runId id) = some b →
      ∃ st, rowState runId d.shared id = some st ∧ st ≠ .pending := by
    intro id b hget
    obtain ⟨id', st, hid, hb, hst, -⟩ := hend.rows _ b hget (inLedger_workKey runId id)
    obtain rfl := workKey_inj.mp hid
    rw [hb] at hget
    exact ⟨st, rowState_of_row hget, hst⟩
  refine ⟨?_, ?_, ?_⟩
  · intro e he u p henq
    have hmem := (mem_foldl_extend hfresh (g := [])).mpr (.inr ⟨e, he, henq⟩)
    rcases hend.live u p hmem with hq | ⟨b, hb⟩
    · exact .inl hq
    · exact .inr (hstate _ b hb)
  · intro id hpending
    unfold rowState at hpending
    obtain ⟨b, hb, -⟩ := Option.bind_eq_some_iff.mp hpending
    obtain ⟨st, hst, hne⟩ := hstate id b hb
    unfold rowState at hst
    rw [hpending] at hst
    exact hne (Option.some.inj hst).symm
  · intro key b hget hkey
    obtain ⟨id, st, rfl, -, -, u, p, hmem, rfl⟩ := hend.rows key b hget hkey
    rcases (mem_foldl_extend hfresh).mp hmem with hnil | ⟨e, he, henq⟩
    · cases hnil
    · exact ⟨e, he, u, p, henq, rfl⟩

end conservation

/-- A payload that is dispatched to worker 1 and stolen by worker 2.
Source: `rollout-coordinator/src/steal.rs` `steal_reassigns_via_cas`. Kind: D -/
def stolenCalls : Fin 3 → LedgerCall
  | 0 => .enqueue ⟨10⟩ []
  | 1 => .dispatch ⟨⟨1⟩⟩ 100
  | 2 => .handleStealRequest ⟨⟨2⟩⟩ 200

/-- `ledger_conserves` at a run that is cut off after a steal: the row is the thief's, not pending.
Source: `rollout-coordinator/src/steal.rs` `steal_reassigns_via_cas`. Kind: C -/
theorem ledger_conserves_stolen :
    ∃ tr d, Run (emptyStore (Fin 3)) (@system emptyBlake3 ⟨⟨7⟩⟩ _ stolenCalls ∅) tr d ∧
      rowState ⟨⟨7⟩⟩ d.shared ContentId.ofEmpty = some (.running ⟨⟨2⟩⟩ 200) ∧
      ∀ id, rowState ⟨⟨7⟩⟩ d.shared id ≠ some .pending := by
  let _ := emptyBlake3
  have hplay : (((system ⟨⟨7⟩⟩ stolenCalls ∅).play
      (inTurn (emptyStore (Fin 3)) (.ok ()) [0, 1, 1, 2, 2, 2, 2])).map fun x =>
      rowState ⟨⟨7⟩⟩ x.2.shared ContentId.ofEmpty) = some (some (.running ⟨⟨2⟩⟩ 200)) := by
    decide +kernel
  obtain ⟨⟨tr, d⟩, hrun, hend⟩ := Option.map_eq_some_iff.mp hplay
  have hfresh : FreshUlids stolenCalls := by
    intro i j u p p' hi hj
    have hzero : ∀ k q, stolenCalls k = .enqueue u q → k = 0 := by
      intro k q hk
      obtain rfl | rfl | rfl : k = 0 ∨ k = 1 ∨ k = 2 := by omega
      · rfl
      · cases hk
      · cases hk
    rw [hzero i p hi, hzero j p' hj]
  exact ⟨tr, d, Config.play_run hrun, hend,
    (ledger_conserves (Config.play_run hrun) (fun _ _ => rfl) (fun _ _ => rfl) hfresh).2.1⟩

end Rollout.Coordinator.Ledger
