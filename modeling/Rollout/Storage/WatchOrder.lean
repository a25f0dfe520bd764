import Rollout.Lib.Grouped
import Rollout.Lib.RelyGuarantee
import Rollout.Storage.Watch

/-!
# What a subscriber receives of concurrent transactions

* `WatchState` — the tables, the one write transaction in progress, the router, and the transactions
  that have committed, in order. A commit releases the writer; what it publishes comes afterwards.
* `EmbeddedTxn` — the local part of a transaction: whether it still has its write transaction, and
  the events it keeps. `runScript` is a caller that issues statements and then commits, aborts or
  drops the transaction.
* `effective`, `effects` — the mutations of a transaction that change its rows or rewrite them.
* `watch_in_commit_order` — a subscriber receives the mutations of the committed transactions,
  grouped and in the order of the commits, when a transaction publishes only while it is the last
  one that has committed and no commit is reported as failed after it took effect.
* `publishes_out_of_order` — a second transaction commits and publishes before the first publishes.
-/

set_option linter.unusedSectionVars false

namespace Rollout.Backends

open Rollout.Lib Rollout.Core

/-! ## Statements -/

/-- A statement of a transaction. Source: `rollout-storage/src/embedded/txn.rs` `EmbeddedTxn`.
Kind: D -/
inductive Statement
  | put (key : StorageKey) (value : Bytes)
  | delete (key : StorageKey)
  | cas (key : StorageKey) (expected new : Option Bytes)

namespace Statement

/-- The key it is about. Source: none: infrastructure. Kind: D -/
def key : Statement → StorageKey
  | put key _ => key
  | delete key => key
  | cas key _ _ => key

/-- What the closure on the write transaction returns: whether a key was removed; whether the swap
was applied, and whether it removed the key.
Source: `rollout-storage/src/embedded/txn.rs` `StageResult`. Kind: D -/
@[reducible] def Out : Statement → Type
  | put .. => Unit
  | delete _ => Bool
  | cas .. => Bool × Bool

/-- Remove a key: whether it was there.
Source: `rollout-storage/src/embedded/txn.rs` `delete`. Kind: D -/
def removeFrom (key : StorageKey) (work : EmbeddedStorage) : Bool × EmbeddedStorage :=
  match KV.get work key.ns with
  | none => (false, work)
  | some table =>
      ((table.get (encodeKey key)).isSome, KV.put work key.ns (table.del (encodeKey key)))

/-- Compare and swap: whether it was applied, and whether it removed the key.
Source: `rollout-storage/src/embedded/txn.rs` `cas_bytes`. Kind: D -/
def swapIn (key : StorageKey) (expected new : Option Bytes) (work : EmbeddedStorage) :
    (Bool × Bool) × EmbeddedStorage :=
  let table := work.openTable key.ns
  let current := table.get (encodeKey key)
  if current ≠ expected then ((false, false), KV.put work key.ns table)
  else
    match new with
    | some value => ((true, false), KV.put work key.ns (table.put (encodeKey key) value))
    | none =>
        if current.isSome then ((true, true), KV.put work key.ns (table.del (encodeKey key)))
        else ((true, false), KV.put work key.ns table)

/-- The closure on the write transaction.
Source: `rollout-storage/src/embedded/txn.rs` `put_bytes`, `delete`, `cas_bytes`. Kind: D -/
def apply : (stmt : Statement) → EmbeddedStorage → stmt.Out × EmbeddedStorage
  | put key value, work =>
      ((), KV.put work key.ns ((work.openTable key.ns).put (encodeKey key) value))
  | delete key, work => removeFrom key work
  | cas key expected new, work => swapIn key expected new work

/-- The event a transaction keeps after a statement.
Source: `rollout-storage/src/embedded/txn.rs` (`self.pending.push`). Kind: D -/
def event : (stmt : Statement) → stmt.Out → Option StorageEvent
  | put key _, () => some (.put key)
  | delete key, removed => if removed then some (.delete key) else none
  | cas key _ new, (applied, wasDelete) =>
      if applied then
        if wasDelete then some (.delete key)
        else if new.isSome then some (.put key) else none
      else none

/-- The mutation a statement makes of the rows: a put writes, a delete removes a row that is there,
and a swap does one of these when the row is as expected.
Source: `rollout-core/src/traits/storage.rs` `StorageTxn`. Kind: D -/
def effective (m : StorageKey → Option Bytes) : Statement → Option StorageEvent
  | put key _ => some (.put key)
  | delete key => if (m key).isSome then some (.delete key) else none
  | cas key expected new =>
      if m key ≠ expected then none
      else
        match new with
        | some _ => some (.put key)
        | none => if (m key).isSome then some (.delete key) else none

theorem removeFrom_fst (key : StorageKey) (work : EmbeddedStorage) :
    (removeFrom key work).1 = (work.contents key).isSome := by
  unfold removeFrom EmbeddedStorage.contents
  rcases KV.get work key.ns with - | table <;> rfl

theorem swapIn_fst (key : StorageKey) (expected new : Option Bytes) (work : EmbeddedStorage) :
    (swapIn key expected new work).1 =
      if work.contents key ≠ expected then (false, false)
      else (true, new.isNone && (work.contents key).isSome) := by
  unfold swapIn
  simp only [EmbeddedStorage.get_openTable]
  by_cases hcur : work.contents key = expected
  · rcases new with - | value
    · by_cases hsome : expected.isSome = true <;> simp [hcur, hsome]
    · simp [hcur]
  · simp [hcur]

/-- **A transaction keeps an event for each effective mutation.**
Source: `rollout-storage/src/embedded/txn.rs` `put_bytes`, `delete`, `cas_bytes`. Kind: L -/
theorem event_apply (stmt : Statement) (work : EmbeddedStorage) :
    stmt.event (stmt.apply work).1 = stmt.effective work.contents := by
  rcases stmt with ⟨key, value⟩ | key | ⟨key, expected, new⟩
  · rfl
  · show event (.delete key) (removeFrom key work).1 = _
    rw [removeFrom_fst]
    rfl
  · show event (.cas key expected new) (swapIn key expected new work).1 = _
    rw [swapIn_fst]
    by_cases hcur : work.contents key = expected
    · rcases new with - | value
      · by_cases hsome : expected.isSome = true <;> simp [event, effective, hcur, hsome]
      · simp [event, effective, hcur]
    · simp [event, effective, hcur]

end Statement

/-! ## Operations -/

/-- How a task on the write transaction ends: done, failed with the transaction handed back, or
failed to be joined. Source: `rollout-storage/src/embedded/txn.rs` `StageResult`. Kind: D -/
inductive Staged (α : Type)
  | ok (a : α)
  | err (e : CoreError)
  | lost (e : CoreError)

/-- What a transaction asks for. Source: `rollout-storage/src/embedded/txn.rs`,
`rollout-storage/src/embedded/mod.rs` `begin`. Kind: D -/
inductive WatchOp
  | begin
  | stage (stmt : Statement)
  | commit
  | dropTxn
  | publish (ev : StorageEvent)

/-- What it is answered. Source: `rollout-storage/src/embedded/txn.rs`. Kind: D -/
@[reducible] def WatchOp.Resp : WatchOp → Type
  | .begin => Except CoreError Unit
  | .stage stmt => Staged stmt.Out
  | .commit => Staged Unit
  | .dropTxn => Except CoreError Unit
  | .publish _ => Unit

/-- The interface of a transaction. Source: none: infrastructure. Kind: D -/
@[reducible] def watchIface : Iface := ⟨WatchOp, WatchOp.Resp⟩

/-- Programs of a transaction. Source: none: infrastructure. Kind: D -/
abbrev WatchM := Prog watchIface CoreError

/-- The tables, the write transaction in progress, the router and who has committed.
Source: `rollout-storage/src/embedded/mod.rs` `EmbeddedStorage`. Kind: D -/
structure WatchState (ι : Type) where
  /-- The committed tables. -/
  db : EmbeddedStorage
  /-- The write transaction: whose it is and its working copy. -/
  writer : Option (ι × EmbeddedStorage)
  /-- The router. -/
  router : WatchRouter
  /-- The transactions that have committed, in order. -/
  commits : List ι

/-- What the environment decides about an operation; a commit that cannot be joined has taken effect
or has not. Source: none: infrastructure. Kind: D -/
inductive WatchChoice
  | ok
  | err (e : CoreError)
  | lost (e : CoreError) (took : Bool)

namespace WatchState

variable {ι : Type} [DecidableEq ι] (s : WatchState ι) (i : ι)

/-- The working copy of a process that has the writer. Source: none: infrastructure. Kind: D -/
def work? : Option EmbeddedStorage :=
  match s.writer with
  | some (j, work) => if j = i then some work else none
  | none => none

/-- The writer is released. Source: none: infrastructure. Kind: D -/
def release : WatchState ι := { s with writer := none }

/-- The working copy is published and the writer released.
Source: `rollout-storage/src/embedded/txn.rs` `commit` (`txn.commit()`). Kind: D -/
def commitWork (work : EmbeddedStorage) : WatchState ι :=
  { s with db := work, writer := none, commits := s.commits ++ [i] }

/-- Source: `rollout-storage/src/embedded/mod.rs` `begin`. Kind: D -/
def begin : WatchChoice → Option (Except CoreError Unit × WatchState ι)
  | .ok =>
      match s.writer with
      | none => some (.ok (), { s with writer := some (i, s.db) })
      | some _ => none
  | .err e => some (.error e, s)
  | .lost e _ => some (.error e, s)

/-- Source: `rollout-storage/src/embedded/txn.rs` `put_bytes`, `delete`, `cas_bytes`. Kind: D -/
def stage (stmt : Statement) (work : EmbeddedStorage) :
    WatchChoice → Staged stmt.Out × WatchState ι
  | .ok => (.ok (stmt.apply work).1, { s with writer := some (i, (stmt.apply work).2) })
  | .err e => (.err e, s)
  | .lost e _ => (.lost e, s.release)

/-- Source: `rollout-storage/src/embedded/txn.rs` `commit`. Kind: D -/
def commit (work : EmbeddedStorage) : WatchChoice → Staged Unit × WatchState ι
  | .ok => (.ok (), s.commitWork i work)
  | .err e => (.err e, s.release)
  | .lost e took => (.lost e, if took then s.commitWork i work else s.release)

/-- Source: `rollout-storage/src/embedded/txn.rs` `abort` (`drop(txn)`). Kind: D -/
def dropTxn : WatchChoice → Except CoreError Unit × WatchState ι
  | .ok => (.ok (), s.release)
  | .err e => (.error e, s.release)
  | .lost e _ => (.error e, s.release)

end WatchState

/-- **The storage.** One write transaction at a time. Source: none: infrastructure. Kind: D -/
@[reducible] def watchMachine (ι : Type) [DecidableEq ι] : Machine watchIface ι (WatchState ι) where
  Choice := WatchChoice
  exec ch i o s :=
    match o with
    | .begin => s.begin i ch
    | .stage stmt => (s.work? i).map fun work => s.stage i stmt work ch
    | .commit => (s.work? i).map fun work => s.commit i work ch
    | .dropTxn => (s.work? i).map fun _ => s.dropTxn ch
    | .publish ev => some ((), { s with router := s.router.publish ev })
  Tick := Empty
  tick t := t.elim

/-! ## Transactions -/

/-- A transaction: whether it has its write transaction, and the events it keeps.
Source: `rollout-storage/src/embedded/txn.rs` `EmbeddedTxn`. Kind: D -/
structure EmbeddedTxn where
  /-- It has its write transaction. -/
  live : Bool
  /-- The events it keeps. -/
  pending : List StorageEvent

/-- Source: `rollout-storage/src/embedded/txn.rs` (`ok_or_else`). Kind: D -/
def consumed : CoreError := .internal "txn already consumed"

/-- A statement: its result, and the transaction afterwards.
Source: `rollout-storage/src/embedded/txn.rs` `put_bytes`, `delete`, `cas_bytes`. Kind: D -/
def EmbeddedTxn.stage (t : EmbeddedTxn) (stmt : Statement) :
    WatchM (Except CoreError stmt.Out × EmbeddedTxn) :=
  match tableFor stmt.key.ns with
  | .error e => return (.error e, t)
  | .ok () =>
      if t.live then do
        let outcome ← Prog.op (I := watchIface) (.stage stmt)
        match outcome with
        | .ok out => return (.ok out, ⟨true, t.pending ++ (stmt.event out).toList⟩)
        | .err e => return (.error e, t)
        | .lost e => return (.error e, ⟨false, t.pending⟩)
      else return (.error consumed, t)

/-- The loop over the events. Source: `rollout-storage/src/embedded/txn.rs` `commit`. Kind: D -/
def publishAll : List StorageEvent → WatchM Unit
  | [] => return ()
  | ev :: evs => do
      Prog.op (I := watchIface) (.publish ev)
      publishAll evs

/-- Source: `rollout-storage/src/embedded/txn.rs` `commit`. Kind: D -/
def EmbeddedTxn.commit (t : EmbeddedTxn) : WatchM Unit :=
  if t.live then do
    let outcome ← Prog.op (I := watchIface) .commit
    match outcome with
    | .ok () => publishAll t.pending
    | .err e => Prog.err e
    | .lost e => Prog.err e
  else Prog.err consumed

/-- Source: `rollout-storage/src/embedded/txn.rs` `abort`. Kind: D -/
def EmbeddedTxn.abort (t : EmbeddedTxn) : WatchM Unit :=
  if t.live then do
    let dropped ← Prog.op (I := watchIface) .dropTxn
    Prog.ofExcept dropped
  else return ()

/-- How a caller ends a transaction. Source: `rollout-core/src/traits/storage.rs` `StorageTxn`.
Kind: D -/
inductive Ending
  | commit
  | abort
  | drop

/-- A caller: the statements it issues, whatever their results, and how it ends.
Source: none: infrastructure. Kind: D -/
structure Script where
  /-- The statements. -/
  stmts : List Statement
  /-- The end. -/
  ending : Ending

/-- The statements of a caller. Source: none: infrastructure. Kind: D -/
def EmbeddedTxn.stageAll (t : EmbeddedTxn) : List Statement → WatchM EmbeddedTxn
  | [] => return t
  | stmt :: stmts => do
      let x ← t.stage stmt
      x.2.stageAll stmts

/-- The end of a transaction; dropping it is an abort nobody waits for.
Source: `rollout-storage/src/embedded/txn.rs` `EmbeddedTxn`. Kind: D -/
def EmbeddedTxn.finish (t : EmbeddedTxn) : Ending → WatchM Unit
  | .commit => t.commit
  | .abort => t.abort
  | .drop => t.abort

/-- A transaction of one caller. Source: `rollout-storage/src/embedded/mod.rs` `begin`. Kind: D -/
def runScript (sc : Script) : WatchM Unit := do
  let begun ← Prog.op (I := watchIface) .begin
  Prog.ofExcept begun
  let t ← (EmbeddedTxn.mk true []).stageAll sc.stmts
  t.finish sc.ending

/-- Any number of transactions. Source: none: infrastructure. Kind: D -/
def watchSystem {ι : Type} (scripts : ι → Script) (s : WatchState ι) :
    Config watchIface CoreError (WatchState ι) fun (_ : ι) => Unit :=
  ⟨s, fun i => runScript (scripts i)⟩

/-! ## What happened -/

section history

variable {ι : Type} [DecidableEq ι]

instance : IsEmpty (watchMachine ι).Tick := ⟨fun t => Empty.elim t⟩

/-- Events of the transactions. Source: none: infrastructure. Kind: D -/
abbrev WatchEvent (ι : Type) := Event watchIface ι (WatchState ι)

/-- A commit that took effect opens a group; what is published is its items.
Source: none: infrastructure. Kind: D -/
def mark : WatchEvent ι → Option (Mark ι StorageEvent)
  | ⟨i, .commit, _, s, s'⟩ => if s'.commits = s.commits then none else some (.start i)
  | ⟨i, .publish ev, _, _, _⟩ => some (.item i ev)
  | _ => none

/-- The commits and what is published. Source: none: infrastructure. Kind: D -/
def marks (tr : List (WatchEvent ι)) : List (Mark ι StorageEvent) := tr.filterMap mark

/-- The mutation an event makes of the working copy. Source: none: infrastructure. Kind: D -/
def mutation : WatchEvent ι → Option StorageEvent
  | ⟨i, .stage stmt, .ok _, s, _⟩ => (s.work? i).bind fun work => stmt.effective work.contents
  | _ => none

/-- The effective mutations of a transaction, in order. Source: none: infrastructure. Kind: D -/
def effects (i : ι) (tr : List (WatchEvent ι)) : List StorageEvent := (own i tr).filterMap mutation

/-- A commit that took effect is not reported as failed, and a transaction publishes while it is the
last one that has committed. Source: `rollout-storage/src/embedded/txn.rs` `commit`. Kind: D -/
def InOrder : WatchEvent ι → Prop
  | ⟨_, .commit, .lost _, s, s'⟩ => s'.commits = s.commits
  | ⟨i, .publish _, _, s, _⟩ => s.commits.getLast? = some i
  | _ => True

instance : DecidablePred (InOrder (ι := ι))
  | ⟨_, .commit, .lost _, s, s'⟩ => inferInstanceAs (Decidable (s'.commits = s.commits))
  | ⟨i, .publish _, _, s, _⟩ => inferInstanceAs (Decidable (s.commits.getLast? = some i))
  | ⟨_, .commit, .ok _, _, _⟩ => isTrue trivial
  | ⟨_, .commit, .err _, _, _⟩ => isTrue trivial
  | ⟨_, .begin, _, _, _⟩ => isTrue trivial
  | ⟨_, .stage _, _, _, _⟩ => isTrue trivial
  | ⟨_, .dropTxn, _, _, _⟩ => isTrue trivial

theorem marks_append (tr tr' : List (WatchEvent ι)) : marks (tr ++ tr') = marks tr ++ marks tr' :=
  List.filterMap_append ..

/-- The marks of an event are those of its own transaction. Source: none: infrastructure. Kind: L -/
theorem opened_mark {e : WatchEvent ι} {m : Mark ι StorageEvent} {j : ι} (h : mark e = some m)
    (hm : m.opened = some j) : j = e.who := by
  unfold mark at h
  split at h
  · split at h
    · cases h
    · cases h
      exact (Option.some.inj hm).symm
  · cases h
    cases hm
  · cases h

theorem payloadOf_mark {e : WatchEvent ι} {i : ι} (hi : e.who ≠ i) :
    (mark e).bind (Mark.payloadOf i) = none := by
  unfold mark
  split
  · split <;> rfl
  · exact if_neg hi
  · rfl

theorem starts_own {i : ι} {tr : List (WatchEvent ι)} :
    i ∈ starts (marks (own i tr)) ↔ i ∈ starts (marks tr) := by
  simp only [starts, marks, List.mem_filterMap]
  constructor
  · rintro ⟨m, ⟨e, he, hm⟩, hi⟩
    exact ⟨m, ⟨e, (mem_own.mp he).1, hm⟩, hi⟩
  · rintro ⟨m, ⟨e, he, hm⟩, hi⟩
    exact ⟨m, ⟨e, mem_own.mpr ⟨he, (opened_mark hm hi).symm⟩, hm⟩, hi⟩

theorem itemsOf_own (i : ι) (tr : List (WatchEvent ι)) :
    itemsOf (marks (own i tr)) i = itemsOf (marks tr) i := by
  simp only [itemsOf, marks, own, List.filterMap_filterMap, List.filterMap_filter]
  refine List.filterMap_congr fun e _ => ?_
  by_cases hi : e.who = i
  · simp [hi]
  · simp [hi, payloadOf_mark hi]

theorem own_append_self {i : ι} {tr : List (WatchEvent ι)} {e : WatchEvent ι} (h : e.who = i) :
    own i (tr ++ [e]) = own i tr ++ [e] := by
  simp [own, h]

theorem own_append_of_ne {i : ι} {tr : List (WatchEvent ι)} {e : WatchEvent ι} (h : e.who ≠ i) :
    own i (tr ++ [e]) = own i tr := by
  simp [own, h]

end history

/-! ## Steps -/

section steps

variable {ι : Type} [DecidableEq ι] {i : ι} {s s' : WatchState ι}

theorem does_publish {ev : StorageEvent} {u : Unit}
    (h : (watchMachine ι).Does ⟨i, .publish ev, u, s, s'⟩) :
    s' = { s with router := s.router.publish ev } := by
  obtain ⟨ch, hexec⟩ := h
  exact (congrArg Prod.snd (Option.some.inj hexec)).symm

/-- A commit takes effect or does not; only one that cannot be joined does not say.
Source: `rollout-storage/src/embedded/txn.rs` `commit`. Kind: L -/
theorem does_commit {a : Staged Unit} (h : (watchMachine ι).Does ⟨i, .commit, a, s, s'⟩) :
    s'.router = s.router ∧
      ((s'.commits = s.commits ++ [i] ∧ ∀ e, a ≠ .err e) ∨
        (s'.commits = s.commits ∧ a ≠ .ok ())) := by
  obtain ⟨ch, hexec⟩ := h
  obtain ⟨work, -, hres⟩ := Option.map_eq_some_iff.mp hexec
  have hres : s.commit i work ch = (a, s') := hres
  rcases ch with - | e | ⟨e, took⟩
  · obtain ⟨rfl, rfl⟩ := Prod.mk.inj hres
    simp [WatchState.commitWork]
  · obtain ⟨rfl, rfl⟩ := Prod.mk.inj hres
    simp [WatchState.release]
  · obtain ⟨rfl, rfl⟩ := Prod.mk.inj hres
    rcases took with - | -
    · simp [WatchState.release]
    · simp [WatchState.commitWork]

theorem does_stage {stmt : Statement} {a : Staged stmt.Out}
    (h : (watchMachine ι).Does ⟨i, .stage stmt, a, s, s'⟩) :
    ∃ work, s.work? i = some work ∧ ∀ out, a = .ok out → out = (stmt.apply work).1 := by
  obtain ⟨ch, hexec⟩ := h
  obtain ⟨work, hwork, hres⟩ := Option.map_eq_some_iff.mp hexec
  have hres : s.stage i stmt work ch = (a, s') := hres
  refine ⟨work, hwork, fun out hout => ?_⟩
  have hans : (s.stage i stmt work ch).1 = .ok out := by rw [hres, hout]
  rcases ch with - | e | ⟨e, took⟩
  · exact (Staged.ok.inj hans).symm
  · cases hans
  · cases hans

/-- Other operations leave the router and the commits alone. Source: none: infrastructure.
Kind: L -/
theorem does_other {e : WatchEvent ι} (h : (watchMachine ι).Does e) (hcommit : e.op ≠ .commit)
    (hpublish : ∀ ev, e.op ≠ .publish ev) :
    e.post.router = e.pre.router ∧ e.post.commits = e.pre.commits ∧ mark e = none := by
  obtain ⟨i, o, a, s, s'⟩ := e
  obtain ⟨ch, hexec⟩ := h
  rcases o with - | stmt | - | - | ev
  · have hexec : s.begin i ch = some (a, s') := hexec
    unfold WatchState.begin at hexec
    split at hexec
    · split at hexec
      · obtain ⟨-, rfl⟩ := Prod.mk.inj (Option.some.inj hexec)
        exact ⟨rfl, rfl, rfl⟩
      · cases hexec
    · obtain ⟨-, rfl⟩ := Prod.mk.inj (Option.some.inj hexec)
      exact ⟨rfl, rfl, rfl⟩
    · obtain ⟨-, rfl⟩ := Prod.mk.inj (Option.some.inj hexec)
      exact ⟨rfl, rfl, rfl⟩
  · obtain ⟨work, -, hres⟩ := Option.map_eq_some_iff.mp hexec
    have hpost : (s.stage i stmt work ch).2 = s' := congrArg Prod.snd hres
    rw [← hpost]
    rcases ch with - | e | ⟨e, took⟩ <;> exact ⟨rfl, rfl, rfl⟩
  · exact absurd rfl hcommit
  · obtain ⟨work, -, hres⟩ := Option.map_eq_some_iff.mp hexec
    have hpost : (s.dropTxn ch).2 = s' := congrArg Prod.snd hres
    rw [← hpost]
    rcases ch with - | e | ⟨e, took⟩ <;> exact ⟨rfl, rfl, rfl⟩
  · exact absurd rfl (hpublish ev)

end steps

/-! ## The discipline -/

section discipline

variable {ι : Type} [DecidableEq ι] {r : Receiver} {base : List StorageEvent}

/-- The subscriber has received what was published, and whoever publishes is the last one that has
committed. Source: `rollout-storage/src/embedded/watch.rs`. Kind: D -/
structure Follows (r : Receiver) (base : List StorageEvent) (s : WatchState ι)
    (g : List (WatchEvent ι)) : Prop where
  commits : starts (marks g) = s.commits
  once : s.commits.Nodup
  led : Led (marks g)
  subscribed : s.router.Subscribed r
  received : s.router.received r =
    base ++ (items (marks g)).filter fun ev => prefixMatches r.pfx ev.key

theorem marks_publish {i : ι} {ev : StorageEvent} {u : Unit} {s s' : WatchState ι} :
    marks [⟨i, .publish ev, u, s, s'⟩] = [.item i ev] := rfl

theorem marks_singleton {e : WatchEvent ι} {m : Mark ι StorageEvent} (h : mark e = some m) :
    marks [e] = [m] := by
  simp [marks, h]

theorem Follows.publish {i : ι} {ev : StorageEvent} {u : Unit} {s : WatchState ι}
    {g : List (WatchEvent ι)} (h : Follows r base s g) (hlast : s.commits.getLast? = some i) :
    Follows r base { s with router := s.router.publish ev }
      (g ++ [⟨i, .publish ev, u, s, { s with router := s.router.publish ev }⟩]) where
  commits := by
    rw [marks_append, marks_publish]
    simpa using h.commits
  once := h.once
  led := by
    rw [marks_append]
    refine h.led.append fun j a hj => ?_
    rw [h.commits, hlast, (Mark.item.inj hj).1]
  subscribed := h.subscribed.publish ev
  received := by
    rw [WatchRouter.received_publish h.subscribed, h.received, marks_append, marks_publish,
      List.append_assoc]
    by_cases hm : prefixMatches r.pfx ev.key = true <;> simp [hm]

theorem Follows.commit {e : WatchEvent ι} {g : List (WatchEvent ι)} (h : Follows r base e.pre g)
    (hmark : mark e = some (.start e.who)) (hrouter : e.post.router = e.pre.router)
    (hcommits : e.post.commits = e.pre.commits ++ [e.who]) (hnew : e.who ∉ starts (marks g)) :
    Follows r base e.post (g ++ [e]) where
  commits := by
    rw [marks_append, marks_singleton hmark, hcommits, ← h.commits]
    simp
  once := by
    rw [hcommits, List.nodup_append]
    refine ⟨h.once, List.nodup_singleton _, ?_⟩
    rintro j hj _ hk rfl
    rw [List.mem_singleton] at hk
    exact hnew (h.commits ▸ hk ▸ hj)
  led := by
    rw [marks_append, marks_singleton hmark]
    exact h.led.append fun j a hj => nomatch hj
  subscribed := hrouter ▸ h.subscribed
  received := by
    rw [hrouter, h.received, marks_append, marks_singleton hmark]
    simp

theorem Follows.quiet {e : WatchEvent ι} {g : List (WatchEvent ι)} (h : Follows r base e.pre g)
    (hmark : mark e = none) (hrouter : e.post.router = e.pre.router)
    (hcommits : e.post.commits = e.pre.commits) : Follows r base e.post (g ++ [e]) := by
  have hsame : marks (g ++ [e]) = marks g := by simp [marks, hmark]
  exact ⟨by rw [hsame, hcommits, h.commits], hcommits ▸ h.once, hsame ▸ h.led,
    hrouter ▸ h.subscribed, by rw [hrouter, hsame, h.received]⟩

theorem mark_commit {i : ι} {a : Staged Unit} {s s' : WatchState ι} :
    mark ⟨i, .commit, a, s, s'⟩ = if s'.commits = s.commits then none else some (.start i) := rfl

/-- **One step.** Source: `rollout-storage/src/embedded/txn.rs` `commit`. Kind: L -/
theorem Follows.step {e : WatchEvent ι} {g : List (WatchEvent ι)} (h : Follows r base e.pre g)
    (hd : (watchMachine ι).Does e) (horder : InOrder e)
    (honce : e.op = .commit → e.who ∉ starts (marks g)) : Follows r base e.post (g ++ [e]) := by
  by_cases hcommit : e.op = .commit
  · obtain ⟨i, o, a, s, s'⟩ := e
    obtain rfl : o = .commit := hcommit
    obtain ⟨hrouter, ⟨hcommits, -⟩ | ⟨hcommits, -⟩⟩ := does_commit hd
    · refine h.commit ?_ hrouter hcommits (honce rfl)
      rw [mark_commit, if_neg (by simp [hcommits])]
    · exact h.quiet (by rw [mark_commit, if_pos hcommits]) hrouter hcommits
  · by_cases hpublish : ∃ ev, e.op = .publish ev
    · obtain ⟨i, o, a, s, s'⟩ := e
      obtain ⟨ev, hop⟩ := hpublish
      obtain rfl : o = .publish ev := hop
      obtain rfl := does_publish hd
      exact h.publish horder
    · obtain ⟨hrouter, hcommits, hmark⟩ :=
        does_other hd hcommit fun ev hev => hpublish ⟨ev, hev⟩
      exact h.quiet hmark hrouter hcommits

/-- A transaction commits once; the history is what happened so far.
Source: none: infrastructure. Kind: D -/
def watchDiscipline (r : Receiver) (base : List StorageEvent) :
    Discipline (watchMachine ι) (List (WatchEvent ι)) where
  upd g e := g ++ [e]
  inv s g := Follows r base s g
  rely i _ g _ g' := own i g = own i g'
  pre i o _ g := o = .commit → i ∉ starts (marks g)
  assume := InOrder
  rely_refl _ _ _ := rfl
  rely_trans _ _ _ _ _ _ _ h h' := h.trans h'
  step _ _ hd ha hinv hpre :=
    ⟨hinv.step hd ha hpre, fun _ hj => (own_append_of_ne (Ne.symm hj)).symm⟩
  tick t := t.elim

theorem foldl_watch (tr : List (WatchEvent ι)) :
    tr.foldl (watchDiscipline r base).upd [] = tr := by
  have hall : ∀ g, tr.foldl (watchDiscipline r base).upd g = g ++ tr := by
    induction tr with
    | nil => intro g; exact (List.append_nil g).symm
    | cons e tr ih =>
        intro g
        rw [List.foldl_cons, ih]
        exact List.append_assoc g [e] tr
  exact hall []

end discipline

/-! ## Transactions under it -/

section safe

variable {ι : Type} [DecidableEq ι] {r : Receiver} {base : List StorageEvent} {i : ι}
  {s : WatchState ι} {g : List (WatchEvent ι)}

/-- A transaction that has committed has published its mutations.
Source: `rollout-storage/src/embedded/txn.rs` `commit`. Kind: D -/
def Published (i : ι) (l : List (WatchEvent ι)) : Prop :=
  i ∈ starts (marks l) → itemsOf (marks l) i = l.filterMap mutation

/-- A transaction that has neither committed nor published, and keeps its mutations.
Source: `rollout-storage/src/embedded/txn.rs` `EmbeddedTxn`. Kind: D -/
structure Staging (t : EmbeddedTxn) (l : List (WatchEvent ι)) : Prop where
  idle : marks l = []
  kept : t.pending = l.filterMap mutation

theorem Staging.published {t : EmbeddedTxn} {l : List (WatchEvent ι)} (h : Staging t l) :
    Published i l := by
  intro hi
  rw [h.idle] at hi
  cases hi

/-- What a transaction ends with. Source: none: infrastructure. Kind: D -/
abbrev Ends {β : Type} (i : ι) : Except CoreError β → WatchState ι → List (WatchEvent ι) → Prop :=
  fun _ _ g => Published i (own i g)

/-- A program that ends well. Source: none: infrastructure. Kind: D -/
abbrev Well {β : Type} (r : Receiver) (base : List StorageEvent) (i : ι) (p : WatchM β)
    (s : WatchState ι) (g : List (WatchEvent ι)) : Prop :=
  p.Safe (watchDiscipline r base) i (Ends i) s g

theorem well_ret {β : Type} {b : β} (h : Published i (own i g)) : Well r base i (.ret b) s g := by
  intro s' g' hown _
  rwa [Ends, ← show own i g = own i g' from hown]

theorem well_err {β : Type} {e : CoreError} (h : Published i (own i g)) :
    Well r base i (.err e : WatchM β) s g := by
  intro s' g' hown _
  rwa [Ends, ← show own i g = own i g' from hown]

/-- The rule for one operation. Source: none: infrastructure. Kind: L -/
theorem well_op {β : Type} {o : WatchOp} {f : WatchOp.Resp o → WatchM β}
    {post : Except CoreError β → WatchState ι → List (WatchEvent ι) → Prop}
    (hpre : o = .commit → i ∉ starts (marks (own i g)))
    (hf : ∀ a s s' g', (watchMachine ι).Does ⟨i, o, a, s, s'⟩ → InOrder ⟨i, o, a, s, s'⟩ →
      own i g' = own i g ++ [⟨i, o, a, s, s'⟩] →
      (f a).Safe (watchDiscipline r base) i post s' g') :
    (Prog.op (I := watchIface) o >>= f).Safe (watchDiscipline r base) i post s g := by
  intro s' g' hown _
  have hown : own i g = own i g' := hown
  refine ⟨fun ho => starts_own.not.mp (hown ▸ hpre ho), fun a s'' hd ha _ => ?_⟩
  refine hf a s' s'' _ hd ha ?_
  rw [hown]
  exact own_append_self rfl

theorem well_publishAll {evs : List StorageEvent} (hcommit : i ∈ starts (marks (own i g)))
    (hrest : itemsOf (marks (own i g)) i ++ evs = (own i g).filterMap mutation) :
    Well r base i (publishAll evs) s g := by
  induction evs generalizing s g with
  | nil =>
      rw [List.append_nil] at hrest
      exact well_ret fun _ => hrest
  | cons ev evs ih =>
      refine well_op (fun h => nomatch h) fun a s s' g' _ _ hown => ?_
      have hmarks : marks (own i g') = marks (own i g) ++ [.item i ev] := by
        rw [hown, marks_append, marks_publish]
      refine ih ?_ ?_
      · rw [hmarks, starts_append]
        exact List.mem_append_left _ hcommit
      · rw [hmarks, itemsOf_append, hown, List.filterMap_append, ← hrest]
        simp [mutation]

theorem well_commit {t : EmbeddedTxn} (h : Staging t (own i g)) :
    Well r base i t.commit s g := by
  unfold EmbeddedTxn.commit
  split
  · refine well_op (fun _ => by simp [h.idle, starts]) fun a s s' g' hd horder hown => ?_
    have hquiet : s'.commits = s.commits → Published i (own i g') := by
      intro hsame hi
      have hnone : marks (own i g') = [] := by
        rw [hown, marks_append, h.idle]
        simp [marks, mark_commit, hsame]
      rw [hnone] at hi
      cases hi
    obtain ⟨-, ⟨hcommits, hne⟩ | ⟨hcommits, hne⟩⟩ := does_commit hd
    · have hmarks : marks (own i g') = [.start i] := by
        rw [hown, marks_append, h.idle]
        simp [marks, mark_commit, hcommits]
      rcases a with u | e | e
      · refine well_publishAll (by simp [hmarks]) ?_
        have hnone : [(⟨i, .commit, .ok u, s, s'⟩ : WatchEvent ι)].filterMap mutation = [] := rfl
        rw [hmarks, hown, List.filterMap_append, ← h.kept, hnone]
        simp
      · exact absurd rfl (hne e)
      · exact well_err (hquiet horder)
    · rcases a with u | e | e
      · exact absurd rfl hne
      · exact well_err (hquiet hcommits)
      · exact well_err (hquiet hcommits)
  · exact well_err h.published

/-- An operation that is neither a commit nor a publication leaves a transaction that keeps its
mutations so. Source: none: infrastructure. Kind: L -/
theorem Staging.append {t t' : EmbeddedTxn} {l : List (WatchEvent ι)} {e : WatchEvent ι}
    (h : Staging t l) (hmark : mark e = none)
    (hpending : t'.pending = t.pending ++ (mutation e).toList) : Staging t' (l ++ [e]) where
  idle := by
    rw [marks_append, h.idle]
    simp [marks, hmark]
  kept := by
    rw [hpending, h.kept, List.filterMap_append]
    rcases hm : mutation e with - | ev <;> simp [hm]

theorem well_abort {t : EmbeddedTxn} (h : Staging t (own i g)) : Well r base i t.abort s g := by
  unfold EmbeddedTxn.abort
  split
  · refine well_op (fun h => nomatch h) fun a s s' g' hd _ hown => ?_
    have hstaging : Staging t (own i g') := hown ▸ h.append rfl (by simp [mutation])
    rcases a with e | u
    · exact well_err hstaging.published
    · exact well_ret hstaging.published
  · exact well_ret h.published

/-- What staging ends with. Source: none: infrastructure. Kind: D -/
abbrev Stages {β : Type} (i : ι) (txn : β → EmbeddedTxn) :
    Except CoreError β → WatchState ι → List (WatchEvent ι) → Prop
  | .ok b, _, g => Staging (txn b) (own i g)
  | .error _, _, g => Published i (own i g)

theorem stages_ret {β : Type} {txn : β → EmbeddedTxn} {b : β} (h : Staging (txn b) (own i g)) :
    (Prog.ret b : WatchM β).Safe (watchDiscipline r base) i (Stages i txn) s g := by
  intro s' g' hown _
  rwa [Stages, ← show own i g = own i g' from hown]

/-- A statement leaves a transaction that keeps its mutations.
Source: `rollout-storage/src/embedded/txn.rs` `put_bytes`, `delete`, `cas_bytes`. Kind: L -/
theorem stages_stage {t : EmbeddedTxn} (stmt : Statement) (h : Staging t (own i g)) :
    (t.stage stmt).Safe (watchDiscipline r base) i (Stages i Prod.snd) s g := by
  unfold EmbeddedTxn.stage
  rcases tableFor stmt.key.ns with e | -
  · exact stages_ret h
  · dsimp only
    split
    · refine well_op (fun h => nomatch h) fun a s s' g' hd _ hown => ?_
      obtain ⟨work, hwork, hout⟩ := does_stage hd
      rcases a with out | e | e
      · refine stages_ret (hown ▸ h.append rfl ?_)
        rw [hout out rfl, Statement.event_apply]
        simp [mutation, hwork]
      · exact stages_ret (hown ▸ h.append rfl (by simp [mutation]))
      · exact stages_ret (hown ▸ h.append rfl (by simp [mutation]))
    · exact stages_ret h

theorem stages_stageAll {t : EmbeddedTxn} (stmts : List Statement) (h : Staging t (own i g)) :
    (t.stageAll stmts).Safe (watchDiscipline r base) i (Stages i id) s g := by
  induction stmts generalizing t s g with
  | nil => exact stages_ret h
  | cons stmt stmts ih =>
      refine Prog.Safe.bind (Prog.Safe.weaken ?_ (stages_stage stmt h))
      rintro (e | x) s g hx
      · exact hx
      · exact ih hx

/-- **A transaction that commits publishes its mutations.**
Source: `rollout-storage/src/embedded/txn.rs` `EmbeddedTxn`. Kind: L -/
theorem well_runScript (sc : Script) (s : WatchState ι) : Well r base i (runScript sc) s [] := by
  refine well_op (fun h => nomatch h) fun begun s s' g' hd _ hown => ?_
  have hstaging : Staging ⟨true, []⟩ (own i g') := by
    rw [hown]
    exact ⟨rfl, rfl⟩
  rcases begun with e | -
  · exact well_err hstaging.published
  · rw [Prog.ofExcept_ok, Prog.ret_bind]
    refine Prog.Safe.bind (Prog.Safe.weaken ?_ (stages_stageAll sc.stmts hstaging))
    rintro (e | t) s g ht
    · exact ht
    · have ht : Staging t (own i g) := ht
      rcases hend : sc.ending with - | - | -
      · exact well_commit ht
      · exact well_abort ht
      · exact well_abort ht

end safe

/-! ## Runs -/

/-- **A subscriber receives the mutations of the committed transactions, grouped and in the order of
the commits**, when every transaction publishes while it is the last one that has committed and no
commit is reported as failed after it took effect.
Source: `rollout-storage/src/embedded/txn.rs` `EmbeddedTxn`,
`rollout-storage/src/embedded/watch.rs` `publish`. Kind: P -/
theorem watch_in_commit_order {ι : Type} [DecidableEq ι] (scripts : ι → Script) {s₀ : WatchState ι}
    {r : Receiver} {tr : List (WatchEvent ι)}
    {d : Config watchIface CoreError (WatchState ι) fun (_ : ι) => Unit}
    (hsub : s₀.router.Subscribed r) (hstart : s₀.commits = [])
    (hrun : Run (watchMachine ι) (watchSystem scripts s₀) tr d)
    (hdone : ∀ i, (d.progs i).result?.isSome = true) (horder : ∀ e ∈ tr, InOrder e) :
    d.shared.router.received r = s₀.router.received r ++
      d.shared.commits.flatMap fun i =>
        (effects i tr).filter fun ev => prefixMatches r.pfx ev.key := by
  have hinit : Follows r (s₀.router.received r) s₀ [] :=
    ⟨hstart.symm, hstart ▸ List.nodup_nil, led_nil, hsub, (List.append_nil _).symm⟩
  obtain ⟨hfollows, hsafe⟩ := hrun.sound (watchDiscipline r (s₀.router.received r))
    (fun i => Ends i) hinit (fun i => well_runScript (scripts i) s₀) horder
  rw [foldl_watch] at hfollows hsafe
  have hpublished : ∀ i ∈ d.shared.commits, itemsOf (marks tr) i = effects i tr := by
    intro i hi
    have hpost : Published i (own i tr) := by
      have hsi := hsafe i
      rcases hp : d.progs i with b | e | ⟨o, k⟩
      · rw [hp] at hsi
        exact hsi d.shared tr rfl hfollows
      · rw [hp] at hsi
        exact hsi d.shared tr rfl hfollows
      · have hres := hdone i
        rw [hp] at hres
        cases hres
    rw [← hfollows.commits] at hi
    rw [← itemsOf_own, hpost (starts_own.mpr hi)]
    rfl
  rw [hfollows.received, items_eq_flatMap hfollows.led (hfollows.commits ▸ hfollows.once),
    List.filter_flatMap, hfollows.commits]
  congr 1
  exact List.flatMap_congr fun i hi => by rw [hpublished i hi]

/-! ## Concrete runs -/

/-- A key of one component. Source: none: infrastructure. Kind: D -/
def workKey (c : String) : StorageKey := ⟨"work", none, [c]⟩

/-- The first writes a row and removes one that is not there; the second removes the row.
Source: none: infrastructure. Kind: D -/
def writeThenRemove : Fin 2 → Script
  | 0 => ⟨[.put (workKey "a") [1], .delete (workKey "c")], .commit⟩
  | 1 => ⟨[.cas (workKey "a") (some [1]) none], .commit⟩

/-- A subscriber of the namespace. Source: none: infrastructure. Kind: D -/
def workReceiver : Receiver := (WatchRouter.empty.subscribe ⟨"work", none, []⟩).1

/-- An empty storage with that subscriber. Source: none: infrastructure. Kind: D -/
def watchedEmpty : WatchState (Fin 2) :=
  ⟨∅, none, (WatchRouter.empty.subscribe ⟨"work", none, []⟩).2, []⟩

/-- `watch_in_commit_order` where the second transaction starts after the first has published.
Source: none: infrastructure. Kind: L -/
theorem watch_in_commit_order_one_by_one : ∃ tr d,
    Run (watchMachine (Fin 2)) (watchSystem writeThenRemove watchedEmpty) tr d ∧ tr.length = 9 ∧
      d.shared.router.received workReceiver = watchedEmpty.router.received workReceiver ++
        d.shared.commits.flatMap fun i =>
          (effects i tr).filter fun ev => prefixMatches workReceiver.pfx ev.key := by
  have hplay : ((watchSystem writeThenRemove watchedEmpty).play
      (inTurn (watchMachine (Fin 2)) .ok [0, 0, 0, 0, 0, 1, 1, 1, 1])).map (fun x => decide
        (x.1.length = 9 ∧ (∀ i, (x.2.progs i).result?.isSome = true) ∧ ∀ e ∈ x.1, InOrder e)) =
      some true := by decide +kernel
  obtain ⟨⟨tr, d⟩, hrun, hend⟩ := Option.map_eq_some_iff.mp hplay
  obtain ⟨hlength, hdone, horder⟩ := of_decide_eq_true hend
  exact ⟨tr, d, Config.play_run hrun, hlength, watch_in_commit_order writeThenRemove
    (WatchRouter.subscribed_subscribe _ _) rfl (Config.play_run hrun) hdone horder⟩

/-- **The events of two transactions are published in the other order**: the second commits and
publishes between the commit of the first and its publication, and the subscriber is told last of
the put of a row that is gone. Source: `rollout-storage/src/embedded/txn.rs` `commit`. Kind: C -/
theorem publishes_out_of_order : ∃ tr d,
    Run (watchMachine (Fin 2)) (watchSystem writeThenRemove watchedEmpty) tr d ∧
      watchedEmpty.router.Subscribed workReceiver ∧
      (∀ i, (d.progs i).result?.isSome = true) ∧
      d.shared.router.received workReceiver ≠ watchedEmpty.router.received workReceiver ++
        d.shared.commits.flatMap fun i =>
          (effects i tr).filter fun ev => prefixMatches workReceiver.pfx ev.key := by
  have hplay : ((watchSystem writeThenRemove watchedEmpty).play
      (inTurn (watchMachine (Fin 2)) .ok [0, 0, 0, 0, 1, 1, 1, 1, 0])).map (fun x => decide
        ((∀ i, (x.2.progs i).result?.isSome = true) ∧
          x.2.shared.router.received workReceiver ≠ watchedEmpty.router.received workReceiver ++
            x.2.shared.commits.flatMap fun i =>
              (effects i x.1).filter fun ev => prefixMatches workReceiver.pfx ev.key)) =
      some true := by decide +kernel
  obtain ⟨⟨tr, d⟩, hrun, hend⟩ := Option.map_eq_some_iff.mp hplay
  obtain ⟨hdone, hne⟩ := of_decide_eq_true hend
  exact ⟨tr, d, Config.play_run hrun, WatchRouter.subscribed_subscribe _ _, hdone, hne⟩

end Rollout.Backends
