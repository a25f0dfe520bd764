import Rollout.Coordinator.LedgerTerminal
import Rollout.Lib.Session

/-!
# A steal request, statement by statement

`handle_steal_request` alone on the storage, with every operation of its transactions on its own, so
that each of them may fail.

* `reassign` — the transaction of one item; `failing_reassign` is all it can do.
* `chosen` — the items a request goes for, read off the rows.
* `failed_steal_moves_nothing_iff` — a request that fails leaves the rows alone exactly when the
  operation that fails comes no later than the first commit.
-/

set_option linter.unusedSectionVars false

namespace Rollout.Coordinator.Steal

open Rollout.Lib Rollout.Core Rollout.Coordinator.WorkItem Rollout.Coordinator.Ledger

/-! ## The storage, statement by statement -/

/-- Programs over a storage whose operations fail one by one.
Source: `rollout-core/src/traits/storage.rs` `Storage`, `StorageTxn`. Kind: D -/
abbrev SessionM := Prog (Session.iface StorageKey Bytes CoreError) CoreError

instance : Storage SessionM where
  getBytes key := Session.ask (.get key)
  scanBytes range :=
    cutOff range.limit <$> Session.ask (ν := Bytes) (.scan fun key => keyHasPrefix key range.pfx)

instance : StorageTxn SessionM where
  putBytes key value := Session.ask (.put key value)
  delete key := Session.ask (.delete key)
  casBytes key expected new := Session.ask (.cas key expected new)
  commit := Session.ask .commit
  abort := Session.ask .abort

/-- Source: `rollout-core/src/traits/storage.rs` `begin`. Kind: D -/
def begin : SessionM Unit := Session.ask .begin

@[simp] theorem casBytes_eq (key : StorageKey) (expected new : Option Bytes) :
    (StorageTxn.casBytes key expected new : SessionM Bool) = Session.ask (.cas key expected new) :=
      rfl

@[simp] theorem commit_eq : (StorageTxn.commit : SessionM Unit) = Session.ask .commit := rfl

@[simp] theorem abort_eq : (StorageTxn.abort : SessionM Unit) = Session.ask .abort := rfl

/-- The transaction of one item. Source: `rollout-coordinator/src/steal.rs`
`handle_steal_request` (step 4). Kind: D -/
def reassign (runId : RunId) (thief : WorkerId) (nowMs : BitVec 128) (running : WorkItemRecord) :
    SessionM Bool := do
  begin
  stealItem runId running thief nowMs

/-- A steal request with its transactions. Source: `rollout-coordinator/src/steal.rs`
`handle_steal_request`. Kind: D -/
def stealRequest (runId : RunId) (thief : WorkerId) (nowMs : BitVec 128) :
    SessionM (List ContentId) :=
  handleStealRequest runId thief (reassign runId thief nowMs)

/-! ## One item -/

variable {runId : RunId} {thief : WorkerId} {now : BitVec 128}

/-- Whether the row of an item is what its swap expects.
Source: `rollout-coordinator/src/work_item.rs` `try_repending` (`expected`). Kind: D -/
def hasRow (runId : RunId) (rows : Rows) (rec : WorkItemRecord) : Bool :=
  rows.get (workKey runId rec.id) = some (encodeRecord rec)

/-- The rows with an item in the hands of the thief.
Source: `rollout-coordinator/src/work_item.rs` `try_claim` (`next`). Kind: D -/
def moveTo (runId : RunId) (thief : WorkerId) (nowMs : BitVec 128) (rows : Rows)
    (rec : WorkItemRecord) : Rows :=
  rows.put (workKey runId rec.id) (encodeRecord ⟨rec.id, .running thief nowMs⟩)

/-- The operations of the transaction of one item.
Source: `rollout-coordinator/src/steal.rs` `handle_steal_request` (step 4). Kind: D -/
def stepsOf (runId : RunId) (rows : Rows) (rec : WorkItemRecord) : Nat :=
  if hasRow runId rows rec then 4 else 3

/-- **All the transaction of one item can do**: it fails and changes nothing, it moves the item, or
it passes it over. Source: `rollout-coordinator/src/steal.rs` `handle_steal_request` (step 4).
Kind: L -/
theorem failing_reassign {e : CoreError} {rec : WorkItemRecord} (hrun : rec.state.isRunning = true)
    (rows : Rows) (count : Option Nat) :
    Session.failing () e (reassign runId thief now rec) (.idle rows) count =
      some (if count.any (· < stepsOf runId rows rec) then (.error e, .idle rows, none)
        else (.ok (hasRow runId rows rec),
          .idle (if hasRow runId rows rec then moveTo runId thief now rows rec else rows),
          count.map (· - stepsOf runId rows rec))) := by
  unfold stepsOf
  by_cases hrow : rows.get (workKey runId rec.id) = some (encodeRecord rec)
  · have hhas : hasRow runId rows rec = true := decide_eq_true hrow
    rcases count with _ | _ | _ | _ | _ | n <;>
      simp [reassign, begin, stealItem, tryRepending, tryClaim, Session.failing_bind, hrun, hrow,
        hhas, moveTo]
  · have hhas : hasRow runId rows rec = false := decide_eq_false hrow
    rcases count with _ | _ | _ | _ | n <;>
      simp [reassign, begin, stealItem, tryRepending, Session.failing_bind, hrun, hrow, hhas]

theorem isRunning_of_owner {rec : WorkItemRecord} {w : WorkerId} (h : rec.state.owner = some w) :
    rec.state.isRunning = true := by
  obtain ⟨t, ht⟩ := WorkState.owner_eq_some.mp h
  rw [ht]
  rfl

/-! ## The loop -/

section loop

variable {e err : CoreError} {items : List WorkItemRecord} {stolen : List ContentId} {rows : Rows}
  {s' : Session.State StorageKey Bytes Unit}

/-- Every item is run by another worker than the thief.
Source: `rollout-coordinator/src/steal.rs` (`victim_items`). Kind: D -/
def OthersItems (thief : WorkerId) (items : List WorkItemRecord) : Prop :=
  ∀ rec ∈ items, ∃ w, rec.state.owner = some w ∧ w ≠ thief

theorem failing_stealItems_cons {rec : WorkItemRecord} (hrun : rec.state.isRunning = true)
    (count : Option Nat) :
    Session.failing () e (stealItems (reassign runId thief now) (rec :: items) stolen)
        (.idle rows) count =
      if count.any (· < stepsOf runId rows rec) then some (.error e, .idle rows, none)
      else Session.failing () e (stealItems (reassign runId thief now) items
          (if hasRow runId rows rec then stolen ++ [rec.id] else stolen))
        (.idle (if hasRow runId rows rec then moveTo runId thief now rows rec else rows))
        (count.map (· - stepsOf runId rows rec)) := by
  rw [stealItems_cons, Session.failing_bind, failing_reassign hrun, Option.bind_some]
  by_cases hfail : count.any (· < stepsOf runId rows rec) = true
  · rw [if_pos hfail, if_pos hfail]
  · rw [if_neg hfail, if_neg hfail]
    by_cases hhas : hasRow runId rows rec = true
    · simp [hhas]
    · simp [hhas]

/-- What the thief holds, the rest of the request leaves to it.
Source: `rollout-coordinator/src/steal.rs` `handle_steal_request` (step 4). Kind: L -/
theorem stealItems_keeps (hitems : OthersItems thief items) {count count' : Option Nat}
    {r : Except CoreError (List ContentId)}
    (h : Session.failing () e (stealItems (reassign runId thief now) items stolen) (.idle rows)
      count = some (r, s', count')) {id : ContentId} {t : BitVec 128}
    (hrow : rows.get (workKey runId id) = some (encodeRecord ⟨id, .running thief t⟩)) :
    s'.committed.get (workKey runId id) = some (encodeRecord ⟨id, .running thief t⟩) := by
  induction items generalizing stolen rows count with
  | nil =>
      have hs : some (Except.ok stolen, Session.State.idle rows, count) = some (r, s', count') :=
        (Session.failing_ret () e stolen _ count).symm.trans h
      obtain ⟨-, hs⟩ := Prod.mk.inj (Option.some.inj hs)
      rw [← (Prod.mk.inj hs).1]
      exact hrow
  | cons rec items ih =>
      obtain ⟨w, howner, hw⟩ := hitems rec List.mem_cons_self
      have hrest : OthersItems thief items := fun r hr => hitems r (List.mem_cons_of_mem _ hr)
      rw [failing_stealItems_cons (isRunning_of_owner howner)] at h
      split at h
      · obtain ⟨-, hs⟩ := Prod.mk.inj (Option.some.inj h)
        rw [← (Prod.mk.inj hs).1]
        exact hrow
      · refine ih hrest h ?_
        split
        · next hhas =>
          unfold moveTo
          rw [KV.get_put_of_ne]
          · exact hrow
          · intro hkey
            obtain rfl := workKey_inj.mp hkey
            have hrec := encodeRecord_inj.mp (Option.some.inj (hrow.symm.trans (of_decide_eq_true hhas)))
            rw [← hrec] at howner
            exact hw (Option.some.inj howner).symm
        · exact hrow

/-- **A loop that fails leaves the rows alone exactly when the operation that fails comes no later
than the first commit.** Induction on the items: those passed over take three operations each and
change nothing. Source: `rollout-coordinator/src/steal.rs` `handle_steal_request` (step 4).
Kind: L -/
theorem failing_stealItems (hitems : OthersItems thief items) {n : Nat} {count' : Option Nat}
    (h : Session.failing () e (stealItems (reassign runId thief now) items stolen) (.idle rows)
      (some n) = some (.error err, s', count')) :
    s'.committed = rows ↔ ∀ j, items.findIdx? (hasRow runId rows) = some j → n ≤ 3 * j + 3 := by
  induction items generalizing stolen n with
  | nil =>
      have hs := (Session.failing_ret () e stolen _ (some n)).symm.trans h
      exact absurd (Prod.mk.inj (Option.some.inj hs)).1 (by simp)
  | cons rec items ih =>
      obtain ⟨w, howner, hw⟩ := hitems rec List.mem_cons_self
      have hrest : OthersItems thief items := fun r hr => hitems r (List.mem_cons_of_mem _ hr)
      rw [failing_stealItems_cons (isRunning_of_owner howner)] at h
      rw [List.findIdx?_cons]
      by_cases hhas : hasRow runId rows rec = true
      · rw [if_pos hhas]
        have hfirst : (∀ j, some 0 = some j → n ≤ 3 * j + 3) ↔ n ≤ 3 := by
          constructor
          · exact fun hj => hj 0 rfl
          · rintro hn j hj
            obtain rfl := Option.some.inj hj
            exact hn
        rw [hfirst]
        simp only [stepsOf, hhas, if_true, Option.any_some, decide_eq_true_eq] at h
        split at h
        · next hn =>
          obtain ⟨-, hs⟩ := Prod.mk.inj (Option.some.inj h)
          rw [← (Prod.mk.inj hs).1]
          exact iff_of_true rfl (by omega)
        · next hn =>
          have hkept := stealItems_keeps hrest h (KV.get_put_self rows (workKey runId rec.id)
            (encodeRecord ⟨rec.id, .running thief now⟩))
          refine iff_of_false ?_ (by omega)
          intro hsame
          rw [hsame, of_decide_eq_true hhas] at hkept
          have hrec := encodeRecord_inj.mp (Option.some.inj hkept)
          rw [hrec] at howner
          exact hw (Option.some.inj howner).symm
      · have hnot : hasRow runId rows rec = false := by simpa using hhas
        rw [if_neg hhas]
        simp only [stepsOf, hnot, Bool.false_eq_true, if_false, Option.any_some,
          decide_eq_true_eq] at h
        have hnext : (∀ j, (items.findIdx? (hasRow runId rows)).map (· + 1) = some j →
            n ≤ 3 * j + 3) ↔
            ∀ j, items.findIdx? (hasRow runId rows) = some j → n ≤ 3 * j + 6 := by
          constructor
          · intro hj j hfind
            have := hj (j + 1) (by rw [hfind]; rfl)
            omega
          · intro hj j hfind
            obtain ⟨j', hfind', rfl⟩ := Option.map_eq_some_iff.mp hfind
            have := hj j' hfind'
            omega
        rw [hnext]
        split at h
        · next hn =>
          obtain ⟨-, hs⟩ := Prod.mk.inj (Option.some.inj h)
          rw [← (Prod.mk.inj hs).1]
          refine iff_of_true rfl ?_
          intro j hj
          omega
        · next hn =>
          have hiff : s'.committed = rows ↔
              ∀ j, items.findIdx? (hasRow runId rows) = some j → n - 3 ≤ 3 * j + 3 := ih hrest h
          rw [hiff]
          constructor
          · intro hj j hfind
            have := hj j hfind
            omega
          · intro hj j hfind
            have := hj j hfind
            omega

end loop

/-! ## The request -/

/-- The decoded ledger. Source: `rollout-coordinator/src/ledger.rs` `backlog`, `busiest` (their
loops). Kind: D -/
def ledgerOf (runId : RunId) (rows : Rows) : Except CoreError (List WorkItemRecord) :=
  (rows.scan (inLedger runId)).mapM fun e => decode e.2

/-- The items a steal request goes for: none when the thief runs something, when nobody else does or
when a row does not decode; otherwise the first ones of the busiest other worker.
Source: `rollout-coordinator/src/steal.rs` `handle_steal_request`. Kind: D -/
def chosen (runId : RunId) (thief : WorkerId) (rows : Rows) : List WorkItemRecord :=
  match ledgerOf runId rows with
  | .error _ => []
  | .ok recs =>
      if 0 < recs.countP fun rec => rec.state.owner = some thief then []
      else
        match busiestOf recs thief with
        | none => []
        | some (victim, victimBacklog) =>
            (victimItems (rows.scan (inLedger runId)) victim).take (stealCount victimBacklog)

/-- Which of the chosen items moves first. Source: `rollout-coordinator/src/steal.rs`
`handle_steal_request` (step 4). Kind: D -/
def firstMove (runId : RunId) (thief : WorkerId) (rows : Rows) : Option Nat :=
  (chosen runId thief rows).findIdx? (hasRow runId rows)

theorem scanBytes_session (runId : RunId) :
    (Storage.scanBytes (workPrefix runId) : SessionM (List (StorageKey × Bytes))) =
      Session.ask (.scan (inLedger runId)) :=
  Prog.bind_ret (Session.ask (.scan (inLedger runId)))

theorem failing_scanLedger (e : CoreError) (rows : Rows) (count : Option Nat) :
    Session.failing () e (scanLedger runId) (.idle rows) count =
      some (if count = some 0 then (.error e, .idle rows, none)
        else (ledgerOf runId rows, .idle rows, count.map Nat.pred)) := by
  unfold scanLedger
  rw [scanBytes_session, Session.failing_bind, Session.failing_scan, Option.bind_some]
  by_cases hcount : count = some 0
  · rw [if_pos hcount, if_pos hcount]
  · rw [if_neg hcount, if_neg hcount]
    exact Session.failing_ofExcept ..

/-- What is computed from the ledger alone costs one scan.
Source: `rollout-coordinator/src/ledger.rs` `backlog`, `busiest`. Kind: L -/
theorem failing_ledger {α : Type} (f : List WorkItemRecord → α) (e : CoreError) (rows : Rows)
    (count : Option Nat) :
    Session.failing () e (scanLedger runId >>= fun recs => pure (f recs)) (.idle rows) count =
      some (if count = some 0 then (.error e, .idle rows, none)
        else ((ledgerOf runId rows).map f, .idle rows, count.map Nat.pred)) := by
  rw [Session.failing_bind, failing_scanLedger, Option.bind_some]
  by_cases hcount : count = some 0
  · rw [if_pos hcount, if_pos hcount]
  · rw [if_neg hcount, if_neg hcount]
    cases ledgerOf runId rows with
    | error err => rfl
    | ok recs => exact Session.failing_ret ..

theorem failing_backlog (e : CoreError) (rows : Rows) (count : Option Nat) :
    Session.failing () e (backlog runId thief) (.idle rows) count =
      some (if count = some 0 then (.error e, .idle rows, none)
        else ((ledgerOf runId rows).map fun recs =>
          recs.countP fun rec => rec.state.owner = some thief, .idle rows,
            count.map Nat.pred)) :=
  failing_ledger _ e rows count

theorem failing_busiest (e : CoreError) (rows : Rows) (count : Option Nat) :
    Session.failing () e (busiest runId thief) (.idle rows) count =
      some (if count = some 0 then (.error e, .idle rows, none)
        else ((ledgerOf runId rows).map fun recs => busiestOf recs thief, .idle rows,
          count.map Nat.pred)) :=
  failing_ledger _ e rows count

/-- A chosen item is run by another worker than the thief.
Source: `rollout-coordinator/src/ledger.rs` `busiest`. Kind: L -/
theorem othersItems_chosen (runId : RunId) (thief : WorkerId) (rows : Rows) :
    OthersItems thief (chosen runId thief rows) := by
  intro rec hrec
  unfold chosen at hrec
  split at hrec
  · simp at hrec
  · split at hrec
    · simp at hrec
    · split at hrec
      · simp at hrec
      · next victim victimBacklog hbusiest =>
        exact ⟨victim, owner_of_mem_victimItems (List.mem_of_mem_take hrec),
          ne_of_busiestOf hbusiest⟩

/-- **All a request can do**: one of its scans fails or reads a row that does not decode, it has
nothing to do, or it comes to the loop over the chosen items. Source:
`rollout-coordinator/src/steal.rs` `handle_steal_request`. Kind: L -/
theorem failing_stealRequest {e : CoreError} {rows : Rows} {count count' : Option Nat}
    {r : Except CoreError (List ContentId)} {s' : Session.State StorageKey Bytes Unit}
    (h : Session.failing () e (stealRequest runId thief now) (.idle rows) count =
      some (r, s', count')) :
    (s' = .idle rows ∧ (∃ err, r = .error err) ∧
        (chosen runId thief rows = [] ∨ count.any (· < 3))) ∨
      (s' = .idle rows ∧ r = .ok [] ∧ chosen runId thief rows = []) ∨
      ¬ count.any (· < 3) ∧
        Session.failing () e (stealItems (reassign runId thief now) (chosen runId thief rows) [])
          (.idle rows) (count.map (· - 3)) = some (r, s', count') := by
  unfold stealRequest handleStealRequest at h
  rw [Session.failing_bind, failing_backlog, Option.bind_some] at h
  unfold chosen
  by_cases h0 : count = some 0
  · rw [if_pos h0] at h
    cases h
    exact .inl ⟨rfl, ⟨e, rfl⟩, .inr (by rw [h0]; rfl)⟩
  rw [if_neg h0] at h
  cases hledger : ledgerOf runId rows with
  | error err =>
      rw [hledger] at h
      cases h
      exact .inl ⟨rfl, ⟨err, rfl⟩, .inl rfl⟩
  | ok recs =>
      simp only [hledger, Except.map] at h ⊢
      split at h
      · next hbusy =>
        rw [if_pos hbusy]
        cases (Session.failing_ret ..).symm.trans h
        exact .inr (.inl ⟨rfl, rfl, rfl⟩)
      next hidle =>
      rw [if_neg hidle]
      rw [Session.failing_bind, failing_busiest, Option.bind_some, hledger] at h
      by_cases h1 : count.map Nat.pred = some 0
      · rw [if_pos h1] at h
        cases h
        obtain ⟨n, rfl, hn⟩ := Option.map_eq_some_iff.mp h1
        refine .inl ⟨rfl, ⟨e, rfl⟩, .inr ?_⟩
        have hpred : n - 1 = 0 := hn
        rw [Option.any_some, decide_eq_true_eq]
        omega
      rw [if_neg h1] at h
      simp only [Except.map] at h
      cases hbusiest : busiestOf recs thief with
      | none =>
          rw [hbusiest] at h
          cases (Session.failing_ret ..).symm.trans h
          exact .inr (.inl ⟨rfl, rfl, rfl⟩)
      | some best =>
          obtain ⟨victim, victimBacklog⟩ := best
          rw [hbusiest] at h
          simp only at h ⊢
          split at h
          · next hnone =>
            cases (Session.failing_ret ..).symm.trans h
            exact .inr (.inl ⟨rfl, rfl, by rw [hnone, List.take_zero]⟩)
          rw [scanBytes_session, Session.failing_bind, Session.failing_scan, Option.bind_some] at h
          by_cases h2 : (count.map Nat.pred).map Nat.pred = some 0
          · rw [if_pos h2] at h
            cases h
            rw [Option.map_map] at h2
            obtain ⟨n, rfl, hn⟩ := Option.map_eq_some_iff.mp h2
            refine .inl ⟨rfl, ⟨e, rfl⟩, .inr ?_⟩
            have hpred : n - 1 - 1 = 0 := hn
            rw [Option.any_some, decide_eq_true_eq]
            omega
          rw [if_neg h2] at h
          refine .inr (.inr ⟨?_, ?_⟩)
          · rcases count with _ | _ | _ | _ | n <;> simp at h0 h1 h2 ⊢
          · rw [← h]
            congr 1
            rw [Option.map_map, Option.map_map]
            rfl

/-- Some ids. Source: none: infrastructure. Kind: D -/
def itemId (n : UInt8) : ContentId := ⟨List.replicate 32 n, List.length_replicate⟩

/-- Worker 1 runs three items. Source: `rollout-coordinator/src/steal.rs` (`seed_running`).
Kind: D -/
def threeRunning : Rows :=
  [itemId 1, itemId 2, itemId 3].foldl
    (fun rows id => rows.put (workKey ⟨⟨7⟩⟩ id) (encodeRecord ⟨id, .running ⟨⟨1⟩⟩ 100⟩)) ∅

/-- The second of the two transactions of worker 2 cannot begin.
Source: `rollout-coordinator/src/steal.rs` `handle_steal_request`. Kind: L -/
theorem failing_threeRunning : ∃ s' count',
    Session.failing () (.internal "begin") (stealRequest ⟨⟨7⟩⟩ ⟨⟨2⟩⟩ 200) (.idle threeRunning)
        (some 7) = some (.error (.internal "begin"), s', count') ∧
      rowState ⟨⟨7⟩⟩ s'.committed (itemId 1) = some (.running ⟨⟨2⟩⟩ 200) := by
  have hplay : (Session.failing () (.internal "begin") (stealRequest ⟨⟨7⟩⟩ ⟨⟨2⟩⟩ 200)
      (.idle threeRunning) (some 7)).map (fun x => (match x.1 with
        | .ok _ => none
        | .error err => some err, rowState ⟨⟨7⟩⟩ x.2.1.committed (itemId 1))) =
      some (some (.internal "begin"), some (.running ⟨⟨2⟩⟩ 200)) := by
    decide +kernel
  obtain ⟨⟨r, s', count'⟩, hres, hend⟩ := Option.map_eq_some_iff.mp hplay
  obtain ⟨hr, hrow⟩ := Prod.mk.inj hend
  refine ⟨s', count', ?_, hrow⟩
  rw [hres]
  cases r with
  | ok ids => cases hr
  | error err => rw [Option.some.inj hr]

end Rollout.Coordinator.Steal
