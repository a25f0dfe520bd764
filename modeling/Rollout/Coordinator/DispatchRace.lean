import Rollout.Coordinator.Ledger
import Rollout.Storage.Backends

/-!
# Dispatches statement by statement

Any number of transactions, each with any number of dispatches, on either backend. A dispatch reads
the head of the queue through the storage handle, so neither the other transactions nor its own see
the entry leave before the commit; what protects an entry is its ledger row alone.

* `FreshPut` — the pending row is put where the transaction sees no row.
* `DispatchInv` — what then holds of every state: the running rows a transaction has written are of
  distinct items nobody has committed, and the committed ones are as their winner wrote them.
* `dispatch_once` — every item is returned by at most one dispatch that committed, and its row is
  that of this dispatch.
* `dispatched_twice` — both backends dispatch one entry twice otherwise.
-/

set_option linter.unusedSectionVars false

namespace Rollout.Coordinator.Ledger

open Rollout.Lib Rollout.Core Rollout.Backends Rollout.Coordinator.WorkItem

/-- What a dispatch is called with: the worker and the clock.
Source: `rollout-coordinator/src/ledger.rs` `dispatch`. Kind: D -/
abbrev Order := WorkerId × BitVec 128

section dispatches

variable [Blake3] {B : StorageBackend} (runId : RunId)

/-- Dispatches one after the other. Source: `rollout-coordinator/src/ledger.rs` `dispatch` (its
callers). Kind: D -/
def dispatchAll : List Order → BackendM B (List (Option ContentId))
  | [] => return []
  | o :: rest => do
      let r ← dispatch runId o.1 o.2
      let rs ← dispatchAll rest
      return r :: rs

/-- Dispatches in one transaction. Source: `rollout-coordinator/src/mock_run.rs`. Kind: D -/
def dispatchTransaction (orders : List Order) : BackendM B (List (Option ContentId)) := do
  begin
  let rs ← dispatchAll runId orders
  StorageTxn.commit
  return rs

variable {ι : Type} [DecidableEq ι] (orders : ι → List Order)

/-- Any number of such transactions.
Source: `rollout-coordinator/src/ledger.rs` `dispatch`. Kind: D -/
def dispatchers (B : StorageBackend) (s : Rows) :
    Config ((RowLocks.requests B.toBackend Bytes).iface CoreError) CoreError (Database ι)
      fun _ : ι => List (Option ContentId) :=
  ⟨RowLocks.Db.rest s, fun i => dispatchTransaction runId (orders i)⟩

/-! ## Fresh puts -/

/-- Whether the bytes are those of a pending row. Source: none: infrastructure. Kind: D -/
def isPendingRow (b : Bytes) : Bool :=
  match WorkItem.codec.fromBytes b with
  | some ⟨_, .pending⟩ => true
  | _ => false

/-- A statement that puts a pending row finds no row, committed or of its own transaction.
Source: `rollout-coordinator/src/ledger.rs` `dispatch`. Kind: D -/
def FreshPut (e : BackendEvent B ι) : Prop :=
  match e with
  | ⟨i, .upsert k b, .ok _, db, _⟩ => isPendingRow b = true → db.view i k = none
  | _ => True

instance (e : BackendEvent B ι) : Decidable (FreshPut e) := by
  unfold FreshPut
  split
  · infer_instance
  · infer_instance

/-! ## Claims -/

/-- The running row a write leaves. Source: none: infrastructure. Kind: D -/
def runningRow (w : StorageKey × Option Bytes) : Option WorkItemRecord :=
  match w.2.bind WorkItem.codec.fromBytes with
  | some ⟨id, .running v t⟩ => some ⟨id, .running v t⟩
  | _ => none

/-- The running rows among the writes of a transaction, in their order.
Source: none: infrastructure. Kind: D -/
def claims (ws : List (StorageKey × Option Bytes)) : List WorkItemRecord :=
  (ws.filterMap runningRow).reverse

/-- What a dispatch claimed. Source: `rollout-coordinator/src/ledger.rs` `dispatch`. Kind: D -/
def outcome (o : Order) (r : Option ContentId) : List WorkItemRecord :=
  match r with
  | none => []
  | some id => [⟨id, .running o.1 o.2⟩]

/-- What dispatches claimed. Source: none: infrastructure. Kind: D -/
def outcomes : List Order → List (Option ContentId) → List WorkItemRecord
  | o :: orders, r :: rs => outcome o r ++ outcomes orders rs
  | _, _ => []

/-- The claims that were committed, with who committed them. Source: none: infrastructure.
Kind: D -/
def committedClaims (g : List (ι × WorkItemRecord)) (e : BackendEvent B ι) :
    List (ι × WorkItemRecord) :=
  match e with
  | ⟨i, .commit, .ok _, db, _⟩ => g ++ (claims (db.writes i)).map fun rec => (i, rec)
  | _ => g

/-- The claims of one transaction. Source: none: infrastructure. Kind: D -/
structure ClaimsOk (committed : Rows) (ws : List (StorageKey × Option Bytes)) : Prop where
  /-- They are of distinct items. -/
  nodup : ((claims ws).map WorkItemRecord.id).Nodup
  /-- The row of each is the one that was claimed. -/
  row : ∀ rec ∈ claims ws,
    RowLocks.Db.lastWrite ws (workKey runId rec.id) = some (some (encodeRecord rec))
  /-- A ledger row that was written is not deleted. -/
  kept : ∀ id, RowLocks.Db.lastWrite ws (workKey runId id) ≠ some none
  /-- It was not there before. -/
  absent : ∀ id, RowLocks.Db.lastWrite ws (workKey runId id) ≠ none →
    committed.get (workKey runId id) = none

/-- **What fresh puts keep.** Source: `rollout-coordinator/src/ledger.rs` `dispatch`. Kind: D -/
structure DispatchInv (db : Database ι) (g : List (ι × WorkItemRecord)) : Prop where
  /-- Written rows are locked. -/
  wf : db.WF
  /-- The uncommitted claims. -/
  claims : ∀ i, ClaimsOk runId db.committed (db.writes i)
  /-- No item has been committed twice. -/
  nodup : (g.map fun x => x.2.id).Nodup
  /-- Committed claims are as they were written. -/
  row : ∀ x ∈ g, db.committed.get (workKey runId x.2.id) = some (encodeRecord x.2)

/-- What a transaction knows when it writes: a pending row, the claim of the pending row it has just
put, or no ledger row at all. Source: `rollout-coordinator/src/ledger.rs` `dispatch`. Kind: D -/
def dispatchKnows (i : ι) (o : RowLocks.Stmt B.toBackend Bytes) (db : Database ι) : Prop :=
  match o with
  | .upsert k b => ∃ id, k = workKey runId id ∧ (b = encodeRecord ⟨id, .pending⟩ ∨
      ∃ w t, b = encodeRecord ⟨id, .running w t⟩ ∧
        RowLocks.Db.lastWrite (db.writes i) k = some (some (encodeRecord ⟨id, .pending⟩)))
  | .delete k => ∀ id, k ≠ workKey runId id
  | _ => True

/-! ## The claims of one transaction -/

section claims

variable {runId} {committed : Rows} {ws : List (StorageKey × Option Bytes)} {id : ContentId}
  {k : StorageKey} {o : Option Bytes}

@[simp] theorem isPendingRow_pending (id : ContentId) :
    isPendingRow (encodeRecord ⟨id, .pending⟩) = true := by
  unfold isPendingRow encodeRecord
  rw [Codec.fromBytes_enc]

theorem runningRow_encodeRecord (k : StorageKey) (rec : WorkItemRecord) :
    runningRow (k, some (encodeRecord rec)) = if rec.state.isRunning then some rec else none := by
  obtain ⟨id, st⟩ := rec
  unfold runningRow encodeRecord
  simp only [Option.bind_some, Codec.fromBytes_enc]
  cases st <;> rfl

theorem claims_cons_none {w : StorageKey × Option Bytes} (h : runningRow w = none) :
    claims (w :: ws) = claims ws := by
  unfold claims
  rw [List.filterMap_cons_none h]

theorem claims_cons_some {w : StorageKey × Option Bytes} {rec : WorkItemRecord}
    (h : runningRow w = some rec) : claims (w :: ws) = claims ws ++ [rec] := by
  unfold claims
  rw [List.filterMap_cons_some h, List.reverse_cons]

theorem lastWrite_cons_of_ne {k' : StorageKey} (h : k ≠ k') :
    RowLocks.Db.lastWrite ((k, o) :: ws) k' = RowLocks.Db.lastWrite ws k' := if_neg h

theorem lastWrite_cons_self : RowLocks.Db.lastWrite ((k, o) :: ws) k = some o := if_pos rfl

theorem claimsOk_nil : ClaimsOk runId committed [] :=
  ⟨List.nodup_nil, fun _ h => absurd h List.not_mem_nil, fun _ => by simp [RowLocks.Db.lastWrite],
    fun _ h => absurd rfl h⟩

/-- Other rows may be committed. Source: none: infrastructure. Kind: L -/
theorem ClaimsOk.congr {committed' : Rows} (h : ClaimsOk runId committed ws)
    (hc : ∀ id, RowLocks.Db.lastWrite ws (workKey runId id) ≠ none →
      committed'.get (workKey runId id) = committed.get (workKey runId id)) :
    ClaimsOk runId committed' ws :=
  ⟨h.nodup, h.row, h.kept, fun id hw => (hc id hw).trans (h.absent id hw)⟩

/-- Anything may be written outside the ledger. Source: none: infrastructure. Kind: L -/
theorem ClaimsOk.other (h : ClaimsOk runId committed ws) (hk : ∀ id, k ≠ workKey runId id) :
    ClaimsOk runId committed ((k, none) :: ws) := by
  have hclaims : claims ((k, none) :: ws) = claims ws := claims_cons_none rfl
  refine ⟨?_, ?_, ?_, ?_⟩
  · rw [hclaims]
    exact h.nodup
  · intro rec hrec
    rw [hclaims] at hrec
    rw [lastWrite_cons_of_ne (hk rec.id)]
    exact h.row rec hrec
  · intro id
    rw [lastWrite_cons_of_ne (hk id)]
    exact h.kept id
  · intro id hw
    rw [lastWrite_cons_of_ne (hk id)] at hw
    exact h.absent id hw

/-- A claimed item has been written. Source: none: infrastructure. Kind: L -/
theorem ClaimsOk.id_ne (h : ClaimsOk runId committed ws) {rec : WorkItemRecord}
    (hrec : rec ∈ claims ws)
    (hid : RowLocks.Db.lastWrite ws (workKey runId id) ≠ some (some (encodeRecord rec))) :
    rec.id ≠ id := by
  rintro rfl
  exact hid (h.row rec hrec)

/-- A row written in the ledger, where none was committed. Source: none: infrastructure. Kind: L -/
theorem ClaimsOk.ledger (h : ClaimsOk runId committed ws) {b : Bytes}
    (hc : committed.get (workKey runId id) = none)
    (hnodup : ((claims ((workKey runId id, some b) :: ws)).map WorkItemRecord.id).Nodup)
    (hrow : ∀ rec ∈ claims ((workKey runId id, some b) :: ws),
      RowLocks.Db.lastWrite ((workKey runId id, some b) :: ws) (workKey runId rec.id) =
        some (some (encodeRecord rec))) :
    ClaimsOk runId committed ((workKey runId id, some b) :: ws) := by
  refine ⟨hnodup, hrow, ?_, ?_⟩
  · intro id'
    by_cases hid : id = id'
    · subst hid
      rw [lastWrite_cons_self]
      simp
    · rw [lastWrite_cons_of_ne fun hk => hid (workKey_inj.mp hk)]
      exact h.kept id'
  · intro id' hw'
    by_cases hid : id = id'
    · subst hid
      exact hc
    · rw [lastWrite_cons_of_ne fun hk => hid (workKey_inj.mp hk)] at hw'
      exact h.absent id' hw'

/-- A fresh pending row. Source: `rollout-coordinator/src/ledger.rs` `dispatch`. Kind: L -/
theorem ClaimsOk.pending (h : ClaimsOk runId committed ws)
    (hw : RowLocks.Db.lastWrite ws (workKey runId id) = none)
    (hc : committed.get (workKey runId id) = none) :
    ClaimsOk runId committed ((workKey runId id, some (encodeRecord ⟨id, .pending⟩)) :: ws) := by
  have hclaims : claims ((workKey runId id, some (encodeRecord ⟨id, .pending⟩)) :: ws) = claims ws :=
    claims_cons_none (runningRow_encodeRecord _ _)
  apply h.ledger hc
  · rw [hclaims]
    exact h.nodup
  · intro rec hrec
    rw [hclaims] at hrec
    have hne : rec.id ≠ id := h.id_ne hrec (by rw [hw]; simp)
    rw [lastWrite_cons_of_ne fun hk => hne (workKey_inj.mp hk).symm]
    exact h.row rec hrec

/-- The claim of a pending row of the same transaction.
Source: `rollout-coordinator/src/work_item.rs` `try_claim`. Kind: L -/
theorem ClaimsOk.claim (h : ClaimsOk runId committed ws) (w : WorkerId) (t : BitVec 128)
    (hw : RowLocks.Db.lastWrite ws (workKey runId id) = some (some (encodeRecord ⟨id, .pending⟩))) :
    ClaimsOk runId committed
      ((workKey runId id, some (encodeRecord ⟨id, .running w t⟩)) :: ws) := by
  have hclaims : claims ((workKey runId id, some (encodeRecord ⟨id, .running w t⟩)) :: ws) =
      claims ws ++ [⟨id, .running w t⟩] := claims_cons_some (runningRow_encodeRecord _ _)
  have hne : ∀ rec ∈ claims ws, rec.id ≠ id := by
    intro rec hrec
    apply h.id_ne hrec
    rw [hw]
    intro heq
    obtain rfl := encodeRecord_inj.mp (Option.some.inj (Option.some.inj heq))
    obtain ⟨w, -, hrow⟩ := List.mem_filterMap.mp (List.mem_reverse.mp hrec)
    unfold runningRow at hrow
    split at hrow
    · cases hrow
    · cases hrow
  apply h.ledger (h.absent id (by rw [hw]; simp))
  · rw [hclaims, List.map_append, List.nodup_append]
    refine ⟨h.nodup, List.nodup_singleton _, ?_⟩
    intro id₁ hid₁ id₂ hid₂
    obtain ⟨rec, hrec, rfl⟩ := List.mem_map.mp hid₁
    rw [List.map_singleton, List.mem_singleton] at hid₂
    rw [hid₂]
    exact hne rec hrec
  · intro rec hrec
    rw [hclaims] at hrec
    rcases List.mem_append.mp hrec with hrec | hrec
    · rw [lastWrite_cons_of_ne fun hk => hne rec hrec (workKey_inj.mp hk).symm]
      exact h.row rec hrec
    · rw [List.mem_singleton.mp hrec]
      exact lastWrite_cons_self

end claims

/-! ## The agreement -/

section agreement

variable {runId} {i j : ι} {db db' : Database ι} {g : List (ι × WorkItemRecord)}

/-- The committed claims of one transaction. Source: none: infrastructure. Kind: D -/
def claimsOf (i : ι) (g : List (ι × WorkItemRecord)) : List WorkItemRecord :=
  (g.filter fun x => x.1 = i).map Prod.snd

theorem claimsOf_append_self (recs : List WorkItemRecord) :
    claimsOf i (g ++ recs.map fun rec => (i, rec)) = claimsOf i g ++ recs := by
  have hall : (recs.map fun rec => (i, rec)).filter (fun x => x.1 = i) =
      recs.map fun rec => (i, rec) := List.filter_eq_self.mpr (by simp)
  unfold claimsOf
  rw [List.filter_append, List.map_append, hall, List.map_map]
  simp

theorem claimsOf_append_of_ne (hj : j ≠ i) (recs : List WorkItemRecord) :
    claimsOf j (g ++ recs.map fun rec => (i, rec)) = claimsOf j g := by
  have hnone : (recs.map fun rec => (i, rec)).filter (fun x => x.1 = j) = [] :=
    List.filter_eq_nil_iff.mpr (by simp [Ne.symm hj])
  unfold claimsOf
  rw [List.filter_append, hnone, List.append_nil]

/-- A step that neither writes nor commits. Source: none: infrastructure. Kind: L -/
theorem DispatchInv.same (h : DispatchInv runId db g) (hwf : db'.WF)
    (hc : db'.committed = db.committed) (hw : db'.writes = db.writes) : DispatchInv runId db' g where
  wf := hwf
  claims i := by
    rw [hc, hw]
    exact h.claims i
  nodup := h.nodup
  row := by
    rw [hc]
    exact h.row

/-- A rolled back transaction. Source: none: infrastructure. Kind: L -/
theorem DispatchInv.rollback (h : DispatchInv runId db g) (i : ι) :
    DispatchInv runId (db.rollback i) g where
  wf := RowLocks.Db.wf_rollback h.wf
  claims j := by
    by_cases hj : j = i
    · subst hj
      rw [RowLocks.Db.writes_rollback_self]
      exact claimsOk_nil
    · rw [RowLocks.Db.writes_rollback_of_ne hj]
      exact h.claims j
  nodup := h.nodup
  row := h.row

/-- One write. Source: none: infrastructure. Kind: L -/
theorem DispatchInv.write (h : DispatchInv runId db g) {k : StorageKey} {o : Option Bytes}
    (hfree : db.Free i k) (hok : ClaimsOk runId db.committed ((k, o) :: db.writes i)) :
    DispatchInv runId (db.write i k o) g where
  wf := RowLocks.Db.wf_write h.wf hfree
  claims j := by
    by_cases hj : j = i
    · subst hj
      rw [RowLocks.Db.writes_write_self]
      exact hok
    · rw [RowLocks.Db.writes_write_of_ne hj]
      exact h.claims j
  nodup := h.nodup
  row := h.row

/-- **A commit** adds the claims of the transaction to those that were committed; none of their
items had a committed row. Source: none: infrastructure. Kind: L -/
theorem DispatchInv.commit (h : DispatchInv runId db g) (i : ι) :
    DispatchInv runId (db.commit i) (g ++ (Ledger.claims (db.writes i)).map fun rec => (i, rec)) where
  wf := RowLocks.Db.wf_rollback h.wf
  claims j := by
    by_cases hj : j = i
    · subst hj
      rw [RowLocks.Db.writes_commit, RowLocks.Db.writes_rollback_self]
      exact claimsOk_nil
    · rw [RowLocks.Db.writes_commit, RowLocks.Db.writes_rollback_of_ne hj]
      apply (h.claims j).congr
      intro id hw
      exact (RowLocks.Db.keeps_commit h.wf hj).committed _ (h.wf j _ hw)
  nodup := by
    rw [List.map_append, List.map_map, List.nodup_append]
    refine ⟨h.nodup, (h.claims i).nodup, ?_⟩
    intro id₁ hid₁ id₂ hid₂
    obtain ⟨x, hx, rfl⟩ := List.mem_map.mp hid₁
    obtain ⟨rec, hrec, rfl⟩ := List.mem_map.mp hid₂
    intro heq
    have habsent := (h.claims i).absent rec.id (by rw [(h.claims i).row rec hrec]; simp)
    have hrow := h.row x hx
    have heq : x.2.id = rec.id := heq
    rw [heq, habsent] at hrow
    cases hrow
  row := by
    intro x hx
    rw [RowLocks.Db.get_commit]
    unfold RowLocks.Db.view
    rcases List.mem_append.mp hx with hx | hx
    · have hnone : RowLocks.Db.lastWrite (db.writes i) (workKey runId x.2.id) = none := by
        by_contra hw
        have hrow := h.row x hx
        rw [(h.claims i).absent x.2.id hw] at hrow
        cases hrow
      rw [hnone]
      exact h.row x hx
    · obtain ⟨rec, hrec, rfl⟩ := List.mem_map.mp hx
      rw [(h.claims i).row rec hrec]
      rfl

theorem DispatchInv.rest (s : Rows) : DispatchInv runId (RowLocks.Db.rest s : Database ι) [] where
  wf := RowLocks.Db.wf_rest s
  claims _ := claimsOk_nil
  nodup := List.nodup_nil
  row _ h := absurd h List.not_mem_nil

/-- A fresh put finds neither an own write nor a committed row.
Source: none: infrastructure. Kind: L -/
theorem absent_of_view (h : ClaimsOk runId db.committed (db.writes i)) {id : ContentId}
    (hview : db.view i (workKey runId id) = none) :
    RowLocks.Db.lastWrite (db.writes i) (workKey runId id) = none ∧
      db.committed.get (workKey runId id) = none := by
  unfold RowLocks.Db.view at hview
  cases hw : RowLocks.Db.lastWrite (db.writes i) (workKey runId id) with
  | none =>
      rw [hw] at hview
      exact ⟨rfl, hview⟩
  | some o =>
      rw [hw, Option.getD_some] at hview
      exact absurd (hw.trans (congrArg some hview)) (h.kept id)

/-- **One statement** of a transaction that knows what it should. Source:
`rollout-coordinator/src/ledger.rs` `dispatch`. Kind: P -/
theorem DispatchInv.step (h : DispatchInv runId db g) {o : RowLocks.Stmt B.toBackend Bytes}
    {a : o.Out} (hperf : RowLocks.perform i o db = some (a, db'))
    (hfresh : FreshPut (⟨i, o, .ok a, db, db'⟩ : BackendEvent B ι))
    (hknows : dispatchKnows runId i o db) :
    DispatchInv runId db' (committedClaims g (⟨i, o, .ok a, db, db'⟩ : BackendEvent B ι)) := by
  have hwf := RowLocks.perform_wf h.wf hperf
  cases o with
  | commit =>
      obtain ⟨rfl, rfl⟩ := Prod.mk.inj (Option.some.inj hperf)
      exact h.commit i
  | rollback =>
      obtain ⟨rfl, rfl⟩ := Prod.mk.inj (Option.some.inj hperf)
      exact h.rollback i
  | upsert k b =>
      obtain ⟨hfree, rfl⟩ := RowLocks.perform_upsert.mp hperf
      obtain ⟨id, rfl, rfl | ⟨w, t, rfl, hw⟩⟩ := hknows
      · obtain ⟨hw, hc⟩ := absent_of_view (h.claims i) (hfresh (isPendingRow_pending id))
        exact h.write hfree ((h.claims i).pending hw hc)
      · exact h.write hfree ((h.claims i).claim w t hw)
  | delete k =>
      rcases RowLocks.perform_delete hperf with ⟨-, rfl⟩ | ⟨hfree, rfl⟩
      · exact h
      · exact h.write hfree ((h.claims i).other hknows)
  | get k =>
      obtain ⟨rfl, rfl⟩ := Prod.mk.inj (Option.some.inj hperf)
      exact h
  | scan p =>
      obtain ⟨rfl, rfl⟩ := Prod.mk.inj (Option.some.inj hperf)
      exact h
  | begin =>
      obtain ⟨hc, hw, -⟩ := RowLocks.perform_begin hperf
      exact h.same hwf hc hw
  | selectForUpdate k =>
      obtain ⟨-, hc, hw, -⟩ := RowLocks.perform_selectForUpdate hperf
      exact h.same hwf hc hw

/-- **The agreement as a discipline**: puts are fresh in the runs it speaks about.
Source: none: infrastructure. Kind: D -/
def dispatchDiscipline (runId : RunId) (B : StorageBackend) (ι : Type) [DecidableEq ι] :
    Discipline (machine B ι) (List (ι × WorkItemRecord)) where
  upd := committedClaims
  inv := DispatchInv runId
  rely i db g db' g' := RowLocks.Db.Keeps i db db' ∧ claimsOf i g' = claimsOf i g
  pre i o db _ := dispatchKnows runId i o db
  assume := FreshPut
  rely_refl i db _ := ⟨RowLocks.Db.Keeps.refl i db, rfl⟩
  rely_trans _ _ _ _ _ _ _ h h' := ⟨h.1.trans h'.1, h'.2.trans h.2⟩
  step := by
    rintro ⟨i, o, r, db, db'⟩ g hd hfresh hinv hpre
    rcases Service.does_iff.mp hd with ⟨err, rfl, rfl⟩ | ⟨ch, a, hperf, rfl⟩
    · have hg : committedClaims g (⟨i, o, .error err, db, db.rollback i⟩ : BackendEvent B ι) = g := by
        cases o <;> rfl
      rw [hg]
      exact ⟨hinv.rollback i, fun j hj => ⟨RowLocks.Db.keeps_rollback hj, rfl⟩⟩
    · refine ⟨hinv.step hperf hfresh hpre,
      fun j hj => ⟨RowLocks.perform_keeps hinv.wf hperf hj, ?_⟩⟩
      cases o with
      | commit => exact claimsOf_append_of_ne hj _
      | _ => rfl
  tick t := t.elim

end agreement

/-! ## The programs -/

section programs

variable {runId}

theorem nextPendingEntry_statements {β : Type}
    (f : Option (StorageKey × Bytes) → BackendM B β) :
    (nextPendingEntry runId : BackendM B _) >>= f =
      Prog.ofExcept (B.check (queuePrefix runId).pfx) >>= fun _ =>
        RowLocks.ask (.scan fun key => B.inRange key (queuePrefix runId).pfx) >>= fun entries =>
          f (leastEntry entries) := by
  unfold nextPendingEntry
  show (Prog.ofExcept _ >>= _) >>= _ >>= _ = _
  rw [Prog.bind_assoc, Prog.bind_assoc]
  congr 1
  funext _
  rw [Prog.bind_assoc]
  rfl

/-- The writes of a dispatch, statement by statement.
Source: `rollout-coordinator/src/ledger.rs` `dispatch`, `work_item.rs` `try_claim`. Kind: L -/
theorem dispatchEntry_statements (entryKey : StorageKey) (payload : Bytes) (o : Order) :
    (dispatchEntry runId entryKey payload o.1 o.2 : BackendM B _) =
      Prog.ofExcept (B.check (workKey runId (ContentId.of payload))) >>= fun _ =>
        RowLocks.ask (.upsert (workKey runId (ContentId.of payload))
          (encodeRecord ⟨ContentId.of payload, .pending⟩)) >>= fun _ =>
        RowLocks.ask (.selectForUpdate (workKey runId (ContentId.of payload))) >>= fun current =>
          if current ≠ some (encodeRecord ⟨ContentId.of payload, .pending⟩) then .ret none
          else RowLocks.ask (.upsert (workKey runId (ContentId.of payload))
            (encodeRecord ⟨ContentId.of payload, .running o.1 o.2⟩)) >>= fun _ =>
              Prog.ofExcept (B.check entryKey) >>= fun _ =>
                RowLocks.ask (.delete entryKey) >>= fun _ => .ret (some (ContentId.of payload)) := by
  have hclaim : (tryClaim runId ⟨ContentId.of payload, .pending⟩ o.1 o.2 : BackendM B Bool) =
      casBytes (workKey runId (ContentId.of payload))
        (some (encodeRecord ⟨ContentId.of payload, .pending⟩))
        (some (encodeRecord ⟨ContentId.of payload, .running o.1 o.2⟩)) := rfl
  unfold dispatchEntry
  dsimp only
  rw [hclaim]
  show (Prog.ofExcept _ >>= _) >>= (fun _ => casBytes _ _ _ >>= _) = _
  unfold casBytes
  cases hcheck : B.check (workKey runId (ContentId.of payload)) with
  | error e => rfl
  | ok u =>
      simp only [Prog.ofExcept_ok, Prog.ret_bind, Prog.bind_assoc]
      congr 1
      funext _
      congr 1
      funext current
      split
      · rfl
      · show (RowLocks.ask _ >>= _) >>= _ = _
        rw [Prog.bind_assoc]
        congr 1
        funext _
        show (Prog.ofExcept _ >>= _) >>= _ = _
        rw [Prog.bind_assoc]
        rfl

variable {i : ι} {db : Database ι} {g : List (ι × WorkItemRecord)} {c : List WorkItemRecord}

/-- The claims a transaction has written so far, none of them committed.
Source: none: infrastructure. Kind: D -/
def Wrote (i : ι) (c : List WorkItemRecord) (db : Database ι) (g : List (ι × WorkItemRecord)) :
    Prop :=
  claims (db.writes i) = c ∧ claimsOf i g = []

theorem Wrote.keeps {db' : Database ι} {g' : List (ι × WorkItemRecord)} (h : Wrote i c db g)
    (hr : RowLocks.Db.Keeps i db db' ∧ claimsOf i g' = claimsOf i g) : Wrote i c db' g' :=
  ⟨(congrArg claims hr.1.writes).trans h.1, hr.2.trans h.2⟩

/-- A program whose result says what it has claimed. Source: none: infrastructure. Kind: D -/
def Claiming {α : Type} (i : ι) (f : α → List WorkItemRecord) (r : Except CoreError α)
    (db : Database ι) (g : List (ι × WorkItemRecord)) : Prop :=
  match r with
  | .ok x => Wrote i (f x) db g
  | .error _ => True

theorem claiming_error {α : Type} {f : α → List WorkItemRecord} (e : CoreError) (db : Database ι)
    (g : List (ι × WorkItemRecord)) : Claiming i f (.error e) db g := trivial

/-- The rule for a result. Source: none: infrastructure. Kind: L -/
theorem safe_ret_claiming {α : Type} {f : α → List WorkItemRecord} {x : α}
    (h : Wrote i (f x) db g) : (Prog.ret x : BackendM B α).Safe (dispatchDiscipline runId B ι) i
      (Claiming i f) db g :=
  fun _ _ hr _ => h.keeps hr

/-- **The writes of one dispatch.** Source: `rollout-coordinator/src/ledger.rs` `dispatch`,
`work_item.rs` `try_claim`. Kind: P -/
theorem safe_dispatchEntry {entryKey : StorageKey} {payload : Bytes} (o : Order)
    (hkey : ∀ id, entryKey ≠ workKey runId id) (h : Wrote i c db g) :
    (dispatchEntry runId entryKey payload o.1 o.2 : BackendM B _).Safe
      (dispatchDiscipline runId B ι) i (Claiming i fun r => c ++ outcome o r) db g := by
  rw [dispatchEntry_statements]
  apply Prog.Safe.ofExcept_bind claiming_error
  intro _ _
  apply Service.safe_ask claiming_error
  intro db₁ g₁ hr₁ _
  refine ⟨⟨_, rfl, .inl rfl⟩, ?_⟩
  intro _ _ db₂ hput _ _
  obtain ⟨-, rfl⟩ := RowLocks.perform_upsert.mp hput
  apply Service.safe_ask claiming_error
  intro db₃ g₃ hr₃ _
  refine ⟨trivial, ?_⟩
  intro _ current db₄ hselect _ _
  obtain ⟨-, -, hw, -⟩ := RowLocks.perform_selectForUpdate hselect
  have hwrites : db₄.writes i = (workKey runId (ContentId.of payload),
      some (encodeRecord ⟨ContentId.of payload, .pending⟩)) :: db₁.writes i := by
    rw [hw, hr₃.1.writes, RowLocks.Db.writes_write_self]
  have hput : Wrote i c db₄ g₃ := by
    refine ⟨?_, hr₃.2.trans (hr₁.2.trans h.2)⟩
    rw [hwrites, claims_cons_none (runningRow_encodeRecord _ _), hr₁.1.writes]
    exact h.1
  split
  · apply safe_ret_claiming
    show Wrote i (c ++ []) db₄ g₃
    rw [List.append_nil]
    exact hput
  · apply Service.safe_ask claiming_error
    intro db₅ g₅ hr₅ _
    -- the row to claim is the one this transaction has just put
    refine ⟨⟨_, rfl, .inr ⟨_, _, rfl, ?_⟩⟩, ?_⟩
    · rw [hr₅.1.writes, hwrites]
      exact lastWrite_cons_self
    intro _ _ db₆ hclaim _ _
    obtain ⟨-, rfl⟩ := RowLocks.perform_upsert.mp hclaim
    have hclaimed : Wrote i (c ++ outcome o (some (ContentId.of payload)))
        (db₅.write i (workKey runId (ContentId.of payload))
          (some (encodeRecord ⟨ContentId.of payload, .running o.1 o.2⟩))) g₅ := by
      obtain ⟨hclaims, hnone⟩ := hput.keeps hr₅
      refine ⟨?_, hnone⟩
      rw [RowLocks.Db.writes_write_self, claims_cons_some (runningRow_encodeRecord _ _), hclaims]
      rfl
    apply Prog.Safe.ofExcept_bind claiming_error
    intro _ _
    apply Service.safe_ask claiming_error
    intro db₇ g₇ hr₇ _
    refine ⟨hkey, ?_⟩
    intro _ _ db₈ hdelete _ _
    apply safe_ret_claiming
    have hlast := hclaimed.keeps hr₇
    rcases RowLocks.perform_delete hdelete with ⟨-, rfl⟩ | ⟨-, rfl⟩
    · exact hlast
    · refine ⟨?_, hlast.2⟩
      rw [RowLocks.Db.writes_write_self, claims_cons_none rfl]
      exact hlast.1

/-- **One dispatch.** Source: `rollout-coordinator/src/ledger.rs` `dispatch`. Kind: P -/
theorem safe_dispatch (o : Order) (h : Wrote i c db g) :
    (dispatch runId o.1 o.2 : BackendM B _).Safe (dispatchDiscipline runId B ι) i
      (Claiming i fun r => c ++ outcome o r) db g := by
  unfold dispatch
  rw [nextPendingEntry_statements]
  apply Prog.Safe.ofExcept_bind claiming_error
  intro _ _
  apply Service.safe_ask claiming_error
  intro db₁ g₁ hr₁ _
  refine ⟨trivial, ?_⟩
  intro _ entries db₂ hscan _ _
  obtain ⟨rfl, rfl⟩ := Prod.mk.inj (Option.some.inj hscan)
  have hwrote := h.keeps hr₁
  cases hleast : leastEntry (db₁.committed.scan fun key => B.inRange key (queuePrefix runId).pfx) with
  | none =>
      apply safe_ret_claiming
      show Wrote i (c ++ []) db₁ _
      rw [List.append_nil]
      exact hwrote
  | some e =>
      apply safe_dispatchEntry o _ hwrote
      intro id hid
      have hrange := ((KV.mem_scan _).mp (mem_of_leastEntry hleast)).2
      have hns : e.1.ns = "queue_items" := B.ns_of_inRange _ _ hrange
      rw [hid] at hns
      exact absurd hns (by show "work" ≠ "queue_items"; decide)

/-- **Dispatches one after the other**, by induction on the orders.
Source: `rollout-coordinator/src/ledger.rs` `dispatch` (its callers). Kind: P -/
theorem safe_dispatchAll (os : List Order) (h : Wrote i c db g) :
    (dispatchAll runId os : BackendM B _).Safe (dispatchDiscipline runId B ι) i
      (Claiming i fun rs => c ++ outcomes os rs) db g := by
  induction os generalizing c db g with
  | nil =>
      apply safe_ret_claiming
      show Wrote i (c ++ []) db g
      rw [List.append_nil]
      exact h
  | cons o rest ih =>
      apply Prog.Safe.bind
      apply (safe_dispatch o h).weaken
      intro r db₁ g₁ hr
      cases r with
      | error e => trivial
      | ok x =>
          apply Prog.Safe.bind
          apply (ih hr).weaken
          intro rs db₂ g₂ hrs
          cases rs with
          | error e => trivial
          | ok xs =>
              apply safe_ret_claiming
              show Wrote i (c ++ (outcome o x ++ outcomes rest xs)) db₂ g₂
              rw [← List.append_assoc]
              exact hrs

/-- **A whole transaction** reports what it has committed. Source:
`rollout-coordinator/src/mock_run.rs`. Kind: P -/
theorem safe_dispatchTransaction (os : List Order) (h : Wrote i [] db g) :
    (dispatchTransaction runId os : BackendM B _).Safe (dispatchDiscipline runId B ι) i
      (fun r _ g => ∀ rs, r = .ok rs → claimsOf i g = outcomes os rs) db g := by
  have herr : ∀ (e : CoreError) (_ : Database ι) (g : List (ι × WorkItemRecord)),
      ∀ rs, (Except.error e : Except CoreError (List (Option ContentId))) = .ok rs →
        claimsOf i g = outcomes os rs := fun _ _ _ _ h => by cases h
  unfold dispatchTransaction begin
  apply Service.safe_ask herr
  intro db₁ g₁ hr₁ _
  refine ⟨trivial, ?_⟩
  intro _ _ db₂ hbegin _ _
  obtain ⟨-, hw, -⟩ := RowLocks.perform_begin hbegin
  have hwrote : Wrote i [] db₂ g₁ := ⟨(congrArg (fun ws => claims (ws i)) hw).trans
    (h.keeps hr₁).1, (h.keeps hr₁).2⟩
  apply Prog.Safe.bind
  apply (safe_dispatchAll os hwrote).weaken
  intro r db₃ g₃ hr
  cases r with
  | error e => exact herr e db₃ g₃
  | ok rs =>
      apply Service.safe_ask herr
      intro db₄ g₄ hr₄ _
      refine ⟨trivial, ?_⟩
      intro _ _ db₅ _ _ _ db₆ g₆ hr₆ _ rs' hrs'
      obtain rfl := Except.ok.inj hrs'
      obtain ⟨hclaims, hnone⟩ := Wrote.keeps hr hr₄
      rw [hr₆.2]
      show claimsOf i (g₄ ++ (claims (db₄.writes i)).map fun rec => (i, rec)) = _
      rw [claimsOf_append_self, hnone, hclaims]
      rfl

theorem length_dispatchAll {os : List Order} {es : List (BackendEvent B ι)}
    {rs : List (Option ContentId)}
    (h : Prog.Exec (machine B ι) i (dispatchAll runId os) es (.ret rs)) : rs.length = os.length := by
  induction os generalizing es rs with
  | nil => rw [Prog.ret.inj h.of_ret.2]; rfl
  | cons o rest ih =>
      obtain ⟨r, es₁, es₂, -, -, h⟩ := Prog.Exec.of_bind h
      obtain ⟨rs', es₃, es₄, -, hrest, h⟩ := Prog.Exec.of_bind h
      rw [Prog.ret.inj h.of_ret.2, List.length_cons, List.length_cons, ih hrest]

/-- A transaction answers each of its dispatches. Source: none: infrastructure. Kind: L -/
theorem length_dispatchTransaction {os : List Order} {es : List (BackendEvent B ι)}
    {rs : List (Option ContentId)}
    (h : Prog.Exec (machine B ι) i (dispatchTransaction runId os) es (.ret rs)) :
    rs.length = os.length := by
  obtain ⟨_, es₁, es₂, -, -, h⟩ := Prog.Exec.of_bind h
  obtain ⟨rs', es₃, es₄, -, hall, h⟩ := Prog.Exec.of_bind h
  obtain ⟨_, es₅, es₆, -, -, h⟩ := Prog.Exec.of_bind h
  rw [Prog.ret.inj h.of_ret.2]
  exact length_dispatchAll hall

end programs

/-! ## One winner for each entry -/

theorem mem_outcomes {os : List Order} {rs : List (Option ContentId)} {k : Nat} {o : Order}
    {id : ContentId} (ho : os[k]? = some o) (hr : rs[k]? = some (some id)) :
    (⟨id, .running o.1 o.2⟩ : WorkItemRecord) ∈ outcomes os rs := by
  induction os generalizing rs k with
  | nil => simp at ho
  | cons o' os ih =>
      cases rs with
      | nil => simp at hr
      | cons r rs =>
          rw [outcomes, List.mem_append]
          cases k with
          | zero =>
              rw [List.getElem?_cons_zero] at ho hr
              obtain rfl := Option.some.inj ho
              obtain rfl := Option.some.inj hr
              exact .inl (List.mem_singleton.mpr rfl)
          | succ k =>
              rw [List.getElem?_cons_succ] at ho hr
              exact .inr (ih ho hr)

theorem id_mem_outcomes {os : List Order} {rs : List (Option ContentId)}
    (hlen : rs.length = os.length) {k : Nat} {id : ContentId} (hr : rs[k]? = some (some id)) :
    id ∈ (outcomes os rs).map WorkItemRecord.id := by
  obtain ⟨hk, -⟩ := List.getElem?_eq_some_iff.mp hr
  rw [hlen] at hk
  exact List.mem_map.mpr ⟨_, mem_outcomes (List.getElem?_eq_getElem hk) hr, rfl⟩

/-- An item that is claimed once is the answer to one dispatch. Source: none: infrastructure.
Kind: L -/
theorem index_eq_of_nodup {os : List Order} {rs : List (Option ContentId)}
    (hlen : rs.length = os.length) (h : ((outcomes os rs).map WorkItemRecord.id).Nodup) {k l : Nat}
    {id : ContentId} (hk : rs[k]? = some (some id)) (hl : rs[l]? = some (some id)) : k = l := by
  induction os generalizing rs k l with
  | nil =>
      rw [List.length_eq_zero_iff.mp hlen] at hk
      simp at hk
  | cons o os ih =>
      cases rs with
      | nil => simp at hk
      | cons r rs =>
          have hrest : rs.length = os.length := Nat.succ.inj hlen
          rw [outcomes, List.map_append, List.nodup_append] at h
          obtain ⟨-, htail, hdisj⟩ := h
          have hhead : r = some id → ∀ {m : Nat}, rs[m]? ≠ some (some id) := by
            rintro rfl m hm
            exact hdisj id (List.mem_singleton.mpr rfl) id (id_mem_outcomes hrest hm) rfl
          cases k with
          | zero =>
              cases l with
              | zero => rfl
              | succ l => exact absurd hl (hhead (Option.some.inj hk))
          | succ k =>
              cases l with
              | zero => exact absurd hk (hhead (Option.some.inj hl))
              | succ l => rw [ih hrest htail hk hl]

section winners

variable {runId} {orders} {s : Rows} {tr : List (BackendEvent B ι)}
  {d : Config ((RowLocks.requests B.toBackend Bytes).iface CoreError) CoreError (Database ι)
    fun _ : ι => List (Option ContentId)}

/-- **Single-winner dispatch.** Source: `rollout-coordinator/src/ledger.rs` `dispatch` (its
documentation). Kind: D -/
structure SingleWinner (runId : RunId) (orders : ι → List Order)
    (d : Config ((RowLocks.requests B.toBackend Bytes).iface CoreError) CoreError (Database ι)
      fun _ : ι => List (Option ContentId)) : Prop where
  /-- An item is the answer to at most one dispatch of the transactions that committed. -/
  once : ∀ i j rs rs' (k l : Nat) id, d.progs i = .ret rs → d.progs j = .ret rs' →
    rs[k]? = some (some id) → rs'[l]? = some (some id) → i = j ∧ k = l
  /-- Its committed row is the one this dispatch wrote. -/
  row : ∀ i rs (k : Nat) id o, d.progs i = .ret rs → rs[k]? = some (some id) → (orders i)[k]? = some o →
    d.shared.committed.get (workKey runId id) = some (encodeRecord ⟨id, .running o.1 o.2⟩)

/-- **Fresh puts make dispatch single-winner**, on either backend, from any rows, in every state
the transactions reach. Source: `rollout-coordinator/src/ledger.rs` `dispatch`. Kind: C -/
theorem dispatch_single_winner (hrun : Run (machine B ι) (dispatchers runId orders B s) tr d)
    (hfresh : ∀ e ∈ tr, FreshPut e) : SingleWinner runId orders d := by
  have hsafe : ∀ i, ((dispatchers runId orders B s).progs i).Safe (dispatchDiscipline runId B ι) i
      (fun r _ g => ∀ rs, r = .ok rs → claimsOf i g = outcomes (orders i) rs)
      (RowLocks.Db.rest s) [] := fun i => safe_dispatchTransaction (orders i) ⟨rfl, rfl⟩
  have hinv := (hrun.sound (dispatchDiscipline runId B ι) _ (DispatchInv.rest s) hsafe hfresh).1
  have hclaims : ∀ i rs, d.progs i = .ret rs →
      claimsOf i (tr.foldl committedClaims []) = outcomes (orders i) rs := fun i rs hi =>
    hrun.sound_ret (dispatchDiscipline runId B ι) _ (DispatchInv.rest s) hsafe hfresh hi rs rfl
  have hlen : ∀ i rs, d.progs i = .ret rs → rs.length = (orders i).length := by
    intro i rs hi
    have hexec := hrun.exec i
    rw [hi] at hexec
    exact length_dispatchTransaction hexec
  have hmem : ∀ {i rec}, rec ∈ claimsOf i (tr.foldl committedClaims []) →
      (i, rec) ∈ tr.foldl committedClaims [] := by
    intro i rec hrec
    obtain ⟨x, hx, rfl⟩ := List.mem_map.mp hrec
    obtain ⟨hmem, hi⟩ := List.mem_filter.mp hx
    obtain rfl : x.1 = i := of_decide_eq_true hi
    exact hmem
  refine ⟨?_, ?_⟩
  · intro i j rs rs' k l id hi hj hk hl
    obtain ⟨rec, hrec, rfl⟩ := List.mem_map.mp (id_mem_outcomes (hlen i rs hi) hk)
    obtain ⟨rec', hrec', hid⟩ := List.mem_map.mp (id_mem_outcomes (hlen j rs' hj) hl)
    rw [← hclaims i rs hi] at hrec
    rw [← hclaims j rs' hj] at hrec'
    have heq := List.inj_on_of_nodup_map hinv.nodup (hmem hrec) (hmem hrec') hid.symm
    obtain rfl : i = j := congrArg Prod.fst heq
    obtain rfl : rs = rs' := Prog.ret.inj (hi.symm.trans hj)
    refine ⟨rfl, index_eq_of_nodup (hlen i rs hi) ?_ hk hl⟩
    rw [← hclaims i rs hi]
    unfold claimsOf
    rw [List.map_map]
    exact hinv.nodup.sublist (List.filter_sublist.map _)
  · intro i rs k id o hi hk ho
    have hrec := mem_outcomes ho hk
    rw [← hclaims i rs hi] at hrec
    exact hinv.row _ (hmem hrec)

end winners

end dispatches

/-! ## Concrete runs -/

/-- A queue with one entry. Source: `rollout-coordinator/src/ledger.rs` `dispatch_claims_pending`.
Kind: D -/
def oneEntry : Rows := (∅ : Rows).put (queueKey ⟨⟨7⟩⟩ ⟨10⟩) []

/-- Every worker dispatches once. Source: none: infrastructure. Kind: D -/
def onceEach (i : Fin 2) : List Order := [(⟨⟨BitVec.ofNat 128 (i.1 + 1)⟩⟩, 100)]

/-- `dispatch_single_winner` where one worker asks after the other.
Source: `rollout-coordinator/src/ledger.rs` `dispatch_claims_pending`. Kind: C -/
theorem dispatch_single_winner_sequential :
    ∃ tr d, Run (machine postgres (Fin 2))
        (@dispatchers emptyBlake3 ⟨⟨7⟩⟩ _ onceEach postgres oneEntry) tr d ∧
      d.progs 0 = .ret [some ContentId.ofEmpty] ∧ d.progs 1 = .ret [none] ∧
      SingleWinner ⟨⟨7⟩⟩ onceEach d := by
  let _ := emptyBlake3
  have hplay : ((dispatchers ⟨⟨7⟩⟩ onceEach postgres oneEntry).play
      (inTurn (machine postgres (Fin 2)) (.ok ()) [0, 0, 0, 0, 0, 0, 0, 1, 1, 1])).map (fun x =>
        decide ((x.2.progs 0).result? = some (.ok [some ContentId.ofEmpty]) ∧
          (x.2.progs 1).result? = some (.ok [none]) ∧ ∀ e ∈ x.1, FreshPut e)) = some true := by
    decide +kernel
  obtain ⟨⟨tr, d⟩, hrun, hend⟩ := Option.map_eq_some_iff.mp hplay
  obtain ⟨hfst, hsnd, hfresh⟩ := of_decide_eq_true hend
  exact ⟨tr, d, Config.play_run hrun, Prog.eq_ret_of_result? hfst, Prog.eq_ret_of_result? hsnd,
    dispatch_single_winner (Config.play_run hrun) hfresh⟩

/-- **One entry dispatched twice**: on Postgres by two transactions, the second of which waits for
the first and then overwrites its row; on the embedded backend by one transaction whose second
dispatch reads the head of the queue as it was.
Source: `rollout-coordinator/src/ledger.rs` `dispatch`. Kind: C -/
theorem dispatched_twice :
    (∃ tr d, Run (machine postgres (Fin 2))
        (@dispatchers emptyBlake3 ⟨⟨7⟩⟩ _ onceEach postgres oneEntry) tr d ∧
      d.progs 0 = .ret [some ContentId.ofEmpty] ∧ d.progs 1 = .ret [some ContentId.ofEmpty] ∧
      d.shared.committed.get (workKey ⟨⟨7⟩⟩ ContentId.ofEmpty) =
        some (encodeRecord ⟨ContentId.ofEmpty, .running ⟨⟨2⟩⟩ 100⟩) ∧
      ¬ SingleWinner ⟨⟨7⟩⟩ onceEach d) ∧
    ∃ tr d, Run (machine embedded (Fin 1))
        (@dispatchers emptyBlake3 ⟨⟨7⟩⟩ _ (fun _ => onceEach 0 ++ onceEach 1) embedded oneEntry) tr d ∧
      d.progs 0 = .ret [some ContentId.ofEmpty, some ContentId.ofEmpty] ∧
      ¬ SingleWinner ⟨⟨7⟩⟩ (fun _ => onceEach 0 ++ onceEach 1) d := by
  let _ := emptyBlake3
  constructor
  · have hplay : ((dispatchers ⟨⟨7⟩⟩ onceEach postgres oneEntry).play
        (inTurn (machine postgres (Fin 2)) (.ok ())
          [0, 1, 0, 1, 0, 0, 0, 0, 0, 1, 1, 1, 1, 1])).map (fun x =>
          decide ((x.2.progs 0).result? = some (.ok [some ContentId.ofEmpty]) ∧
            (x.2.progs 1).result? = some (.ok [some ContentId.ofEmpty]) ∧
            x.2.shared.committed.get (workKey ⟨⟨7⟩⟩ ContentId.ofEmpty) =
              some (encodeRecord ⟨ContentId.ofEmpty, .running ⟨⟨2⟩⟩ 100⟩))) = some true := by
      decide +kernel
    obtain ⟨⟨tr, d⟩, hrun, hend⟩ := Option.map_eq_some_iff.mp hplay
    obtain ⟨hfst, hsnd, hrow⟩ := of_decide_eq_true hend
    have hfst := Prog.eq_ret_of_result? hfst
    have hsnd := Prog.eq_ret_of_result? hsnd
    refine ⟨tr, d, Config.play_run hrun, hfst, hsnd, hrow, ?_⟩
    intro h
    exact absurd (h.once 0 1 _ _ 0 0 _ hfst hsnd rfl rfl).1 (by decide)
  · have hplay : ((dispatchers ⟨⟨7⟩⟩ (fun _ : Fin 1 => onceEach 0 ++ onceEach 1) embedded oneEntry).play
        (inTurn (machine embedded (Fin 1)) (.ok ()) (List.replicate 12 0))).map (fun x => (x.2.progs 0).result?) =
        some (some (.ok [some ContentId.ofEmpty, some ContentId.ofEmpty])) := by decide +kernel
    obtain ⟨⟨tr, d⟩, hrun, hend⟩ := Option.map_eq_some_iff.mp hplay
    have hret := Prog.eq_ret_of_result? hend
    refine ⟨tr, d, Config.play_run hrun, hret, ?_⟩
    intro h
    exact absurd (h.once 0 0 _ _ 0 1 _ hret hret rfl rfl).2 (by decide)

end Rollout.Coordinator.Ledger
