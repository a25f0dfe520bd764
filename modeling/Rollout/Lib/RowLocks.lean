import Mathlib.Logic.Function.Basic
import Rollout.Lib.KV
import Rollout.Lib.Service

/-!
# Transactions statement by statement

A database whose transactions interleave statement by statement at the isolation level read
committed: a statement sees the last committed rows under the transaction's own writes, and row
locks are held to the end of the transaction.

* `Stmt B ν` — the statements. `selectForUpdate` locks a row that exists and locks nothing when it
  does not; `upsert` waits for whoever holds the row, also for the uncommitted insert of another
  transaction, and then overwrites; `delete` of a row that is not there does nothing.
* `Backend` — which keys a backend refuses, and whether it admits one writing transaction at a time
  (`begin` then waits for the other to end).
* `Db` — committed rows, and for every process its uncommitted writes and row locks; `Db.view` is
  what its statements see.
* `Db.WF` — a written row is locked by its writer; `perform_wf`, `perform_keeps` and their siblings
  for failures: every step keeps it, and changes neither the writes of another process nor the rows
  the other has locked.
-/

set_option linter.unusedSectionVars false

namespace Rollout.Lib

/-- What sets the backends apart. Source: none: infrastructure. Kind: D -/
structure Backend (κ ε : Type) where
  /-- Whether a transaction that writes excludes all others. -/
  singleWriter : Bool
  /-- The keys the backend refuses. -/
  check : κ → Except ε Unit

namespace RowLocks

variable {κ ν ε ι : Type}

/-- The statements; `get` and `scan` are outside any transaction.
Source: none: infrastructure. Kind: D -/
inductive Stmt (B : Backend κ ε) (ν : Type)
  | get (k : κ)
  | scan (p : κ → Bool)
  | begin
  | selectForUpdate (k : κ)
  | upsert (k : κ) (v : ν)
  | delete (k : κ)
  | commit
  | rollback

/-- What a statement answers. Source: none: infrastructure. Kind: D -/
@[reducible] def Stmt.Out {B : Backend κ ε} : Stmt B ν → Type
  | .get _ => Option ν
  | .scan _ => List (κ × ν)
  | .begin => Unit
  | .selectForUpdate _ => Option ν
  | .upsert .. => Unit
  | .delete _ => Unit
  | .commit => Unit
  | .rollback => Unit

/-- The statements of a backend. Source: none: infrastructure. Kind: D -/
@[reducible] def requests (B : Backend κ ε) (ν : Type) : Requests where
  Op := Stmt B ν
  Out := Stmt.Out

/-- Programs that issue statements. Source: none: infrastructure. Kind: D -/
abbrev DbM (B : Backend κ ε) (ν : Type) := Prog ((requests B ν).iface ε) ε

/-- Issue a statement. Source: none: infrastructure. Kind: D -/
@[reducible] def ask {B : Backend κ ε} (o : Stmt B ν) : DbM B ν o.Out :=
  Lib.ask (R := requests B ν) o

/-! ## States -/

/-- Committed rows and transactions in progress. Source: none: infrastructure. Kind: D -/
structure Db (κ ν ι : Type) where
  /-- The committed rows. -/
  committed : KV κ ν
  /-- The uncommitted writes of each process, the last one first. -/
  writes : ι → List (κ × Option ν)
  /-- Who holds the lock of a row. -/
  holder : κ → Option ι
  /-- The one writing transaction, where there is only one. -/
  writer : Option ι

namespace Db

variable [DecidableEq κ]

/-- The last write of a key. Source: none: infrastructure. Kind: D -/
def lastWrite : List (κ × Option ν) → κ → Option (Option ν)
  | [], _ => none
  | w :: ws, k => if w.1 = k then some w.2 else lastWrite ws k

/-- The rows with the writes applied, the last one first in the list.
Source: none: infrastructure. Kind: D -/
def apply (ws : List (κ × Option ν)) (s : KV κ ν) : KV κ ν := ws.foldr (fun w s => s.set w.1 w.2) s

theorem get_apply (ws : List (κ × Option ν)) (s : KV κ ν) (k : κ) :
    (apply ws s).get k = (lastWrite ws k).getD (s.get k) := by
  induction ws with
  | nil => rfl
  | cons w ws ih =>
      show ((apply ws s).set w.1 w.2).get k = _
      rw [KV.get_set, lastWrite]
      by_cases h : w.1 = k
      · rw [if_pos h.symm, if_pos h, Option.getD_some]
      · rw [if_neg (Ne.symm h), if_neg h, ih]

/-- A database at rest. Source: none: infrastructure. Kind: D -/
def rest (s : KV κ ν) : Db κ ν ι := ⟨s, fun _ => [], fun _ => none, none⟩

/-- What the statements of a process see. Source: none: infrastructure. Kind: D -/
def view (db : Db κ ν ι) (i : ι) (k : κ) : Option ν :=
  (lastWrite (db.writes i) k).getD (db.committed.get k)

variable [DecidableEq ι]

/-- Whether no other process holds the row. Source: none: infrastructure. Kind: D -/
def Free (db : Db κ ν ι) (i : ι) (k : κ) : Prop := db.holder k = none ∨ db.holder k = some i

instance (db : Db κ ν ι) (i : ι) (k : κ) : Decidable (db.Free i k) :=
  inferInstanceAs (Decidable (_ ∨ _))

/-- Take the lock of a row. Source: none: infrastructure. Kind: D -/
def lock (db : Db κ ν ι) (i : ι) (k : κ) : Db κ ν ι :=
  { db with holder := Function.update db.holder k (some i) }

/-- Write a row, in the transaction only. Source: none: infrastructure. Kind: D -/
def write (db : Db κ ν ι) (i : ι) (k : κ) (o : Option ν) : Db κ ν ι :=
  { db.lock i k with writes := Function.update db.writes i ((k, o) :: db.writes i) }

/-- End the transaction of a process: its writes and its locks are gone.
Source: none: infrastructure. Kind: D -/
def rollback (db : Db κ ν ι) (i : ι) : Db κ ν ι where
  committed := db.committed
  writes := Function.update db.writes i []
  holder k := if db.holder k = some i then none else db.holder k
  writer := if db.writer = some i then none else db.writer

/-- Publish the writes and end the transaction. Source: none: infrastructure. Kind: D -/
def commit (db : Db κ ν ι) (i : ι) : Db κ ν ι :=
  { db.rollback i with committed := apply (db.writes i) db.committed }

end Db

/-! ## Statements -/

variable [DecidableEq κ] [DecidableEq ι]

/-- The effect of a statement that does not fail; `none` when it waits.
Source: none: infrastructure. Kind: D -/
def perform {B : Backend κ ε} (i : ι) : (o : Stmt B ν) → Db κ ν ι → Option (o.Out × Db κ ν ι)
  | .get k, db => some (db.committed.get k, db)
  | .scan p, db => some (db.committed.scan p, db)
  | .begin, db =>
      if B.singleWriter = false then some ((), db)
      else if db.writer = none then some ((), { db with writer := some i })
      else none
  | .selectForUpdate k, db =>
      match db.view i k with
      | none => some (none, db)
      | some v => if db.Free i k then some (some v, db.lock i k) else none
  | .upsert k v, db => if db.Free i k then some ((), db.write i k (some v)) else none
  | .delete k, db =>
      match db.view i k with
      | none => some ((), db)
      | some _ => if db.Free i k then some ((), db.write i k none) else none
  | .commit, db => some ((), db.commit i)
  | .rollback, db => some ((), db.rollback i)

/-- **The database.** A failed statement rolls its transaction back.
Source: none: infrastructure. Kind: D -/
@[reducible] def service (B : Backend κ ε) (ν ι : Type) [DecidableEq ι] :
    Service (requests B ν) ι (Db κ ν ι) where
  Choice := Unit
  perform _ := perform
  fail i db := db.rollback i
  Tick := Empty
  tick t := t.elim

/-- Its machine. Source: none: infrastructure. Kind: D -/
@[reducible] def machine (B : Backend κ ε) (ν ι : Type) [DecidableEq ι] :
    Machine ((requests B ν).iface ε) ι (Db κ ν ι) :=
  (service B ν ι).machine ε

instance {B : Backend κ ε} : IsEmpty (machine B ν ι).Tick := ⟨fun t => Empty.elim t⟩

/-! ## What a step leaves alone -/

namespace Db

/-- A written row is locked by its writer. Source: none: infrastructure. Kind: D -/
def WF (db : Db κ ν ι) : Prop := ∀ i k, lastWrite (db.writes i) k ≠ none → db.holder k = some i

/-- Nothing process `i` has written or locked has changed. Source: none: infrastructure. Kind: D -/
structure Keeps (i : ι) (db db' : Db κ ν ι) : Prop where
  /-- Its writes are the same. -/
  writes : db'.writes i = db.writes i
  /-- It holds the same locks. -/
  holder : ∀ k, db.holder k = some i → db'.holder k = some i
  /-- The rows it holds are committed as they were. -/
  committed : ∀ k, db.holder k = some i → db'.committed.get k = db.committed.get k

theorem Keeps.refl (i : ι) (db : Db κ ν ι) : Keeps i db db :=
  ⟨rfl, fun _ h => h, fun _ _ => rfl⟩

theorem Keeps.trans {i : ι} {db db' db'' : Db κ ν ι} (h : Keeps i db db') (h' : Keeps i db' db'') :
    Keeps i db db'' where
  writes := h'.writes.trans h.writes
  holder k hk := h'.holder k (h.holder k hk)
  committed k hk := (h'.committed k (h.holder k hk)).trans (h.committed k hk)

theorem wf_rest (s : KV κ ν) : (rest s : Db κ ν ι).WF := by
  intro i k h
  exact absurd rfl h

variable {db : Db κ ν ι} {i j : ι} {k k' : κ} {o : Option ν}

@[simp] theorem committed_lock : (db.lock i k).committed = db.committed := rfl

@[simp] theorem writes_lock : (db.lock i k).writes = db.writes := rfl

@[simp] theorem committed_write : (db.write i k o).committed = db.committed := rfl

@[simp] theorem holder_write : (db.write i k o).holder = (db.lock i k).holder := rfl

@[simp] theorem committed_rollback : (db.rollback i).committed = db.committed := rfl

@[simp] theorem writes_commit : (db.commit i).writes = (db.rollback i).writes := rfl

@[simp] theorem holder_commit : (db.commit i).holder = (db.rollback i).holder := rfl

@[simp] theorem holder_lock_self : (db.lock i k).holder k = some i := Function.update_self ..

@[simp] theorem writes_write_self : (db.write i k o).writes i = (k, o) :: db.writes i :=
  Function.update_self ..

@[simp] theorem writes_rollback_self : (db.rollback i).writes i = [] := Function.update_self ..

theorem writes_write_of_ne (h : j ≠ i) : (db.write i k o).writes j = db.writes j :=
  Function.update_of_ne h ..

theorem writes_rollback_of_ne (h : j ≠ i) : (db.rollback i).writes j = db.writes j :=
  Function.update_of_ne h ..

theorem holder_lock_of_ne (h : k' ≠ k) : (db.lock i k).holder k' = db.holder k' :=
  Function.update_of_ne h ..

/-- A process publishes what it sees. Source: none: infrastructure. Kind: L -/
theorem get_commit : (db.commit i).committed.get k = db.view i k := get_apply _ _ _

theorem view_write : (db.write i k o).view i k' = if k = k' then o else db.view i k' := by
  unfold view
  rw [writes_write_self, committed_write, lastWrite]
  by_cases h : k = k'
  · rw [if_pos h, if_pos h, Option.getD_some]
  · rw [if_neg h, if_neg h]

theorem view_of_writes_nil (h : db.writes i = []) : db.view i k = db.committed.get k := by
  unfold view
  rw [h]
  rfl

theorem Keeps.view (h : Keeps i db db') (hk : db.holder k = some i) :
    db'.view i k = db.view i k := by
  unfold Db.view
  rw [h.writes, h.committed k hk]

/-- The holder of a row that is free to another process is that process.
Source: none: infrastructure. Kind: L -/
theorem Free.holder_ne (h : db.Free i k) (hj : j ≠ i) : db.holder k ≠ some j := by
  intro hk
  rcases h with h | h
  · rw [h] at hk
    cases hk
  · rw [h] at hk
    exact hj (Option.some.inj hk).symm

theorem keeps_lock (h : db.Free i k) (hj : j ≠ i) : Keeps j db (db.lock i k) where
  writes := rfl
  holder k' hk' := by
    rw [holder_lock_of_ne]
    · exact hk'
    · rintro rfl
      exact h.holder_ne hj hk'
  committed _ _ := rfl

theorem keeps_write (h : db.Free i k) (hj : j ≠ i) : Keeps j db (db.write i k o) where
  writes := writes_write_of_ne hj
  holder := (keeps_lock h hj).holder
  committed _ _ := rfl

theorem keeps_rollback (hj : j ≠ i) : Keeps j db (db.rollback i) where
  writes := writes_rollback_of_ne hj
  holder k hk := by
    show (if db.holder k = some i then none else db.holder k) = some j
    rw [hk, if_neg fun h => hj (Option.some.inj h)]
  committed _ _ := rfl

theorem keeps_commit (hwf : db.WF) (hj : j ≠ i) : Keeps j db (db.commit i) where
  writes := writes_rollback_of_ne hj
  holder := (keeps_rollback hj).holder
  committed k hk := by
    rw [get_commit]
    unfold view
    have hnone : lastWrite (db.writes i) k = none := by
      by_contra h
      rw [hwf i k h] at hk
      exact hj (Option.some.inj hk).symm
    rw [hnone]
    rfl

theorem wf_lock (hwf : db.WF) (h : db.Free i k) : (db.lock i k).WF := by
  intro j k' hw
  by_cases hk : k' = k
  · subst hk
    rw [holder_lock_self]
    rcases h with h | h
    · rw [hwf j k' hw] at h
      cases h
    · rw [hwf j k' hw] at h
      exact h.symm
  · rw [holder_lock_of_ne hk]
    exact hwf j k' hw

theorem wf_write (hwf : db.WF) (h : db.Free i k) : (db.write i k o).WF := by
  intro j k' hw
  rw [holder_write]
  by_cases hj : j = i
  · subst hj
    rw [writes_write_self, lastWrite] at hw
    by_cases hk : k = k'
    · subst hk
      exact holder_lock_self
    · rw [if_neg hk] at hw
      rw [holder_lock_of_ne (Ne.symm hk)]
      exact hwf j k' hw
  · rw [writes_write_of_ne hj] at hw
    exact wf_lock hwf h j k' hw

theorem wf_rollback (hwf : db.WF) : (db.rollback i).WF := by
  intro j k hw
  by_cases hj : j = i
  · subst hj
    rw [writes_rollback_self] at hw
    exact absurd rfl hw
  · rw [writes_rollback_of_ne hj] at hw
    exact (keeps_rollback hj).holder k (hwf j k hw)

end Db

/-! ## One statement -/

variable {B : Backend κ ε} {i j : ι} {o : Stmt B ν} {a : o.Out} {db db' : Db κ ν ι}

theorem perform_begin {u : Unit} (h : perform (B := B) (ν := ν) i .begin db = some (u, db')) :
    db'.committed = db.committed ∧ db'.writes = db.writes ∧ db'.holder = db.holder := by
  simp only [perform] at h
  split at h
  · obtain ⟨-, rfl⟩ := Prod.mk.inj (Option.some.inj h)
    exact ⟨rfl, rfl, rfl⟩
  · split at h
    · obtain ⟨-, rfl⟩ := Prod.mk.inj (Option.some.inj h)
      exact ⟨rfl, rfl, rfl⟩
    · cases h

/-- Reading a row for update answers what the process sees, and locks a row that is there.
Source: none: infrastructure. Kind: L -/
theorem perform_selectForUpdate {k : κ} {a : Option ν}
    (h : perform (B := B) i (.selectForUpdate k) db = some (a, db')) :
    a = db.view i k ∧ db'.committed = db.committed ∧ db'.writes = db.writes ∧
      (a ≠ none → db'.holder k = some i) := by
  simp only [perform] at h
  split at h
  · next hview =>
    obtain ⟨rfl, rfl⟩ := Prod.mk.inj (Option.some.inj h)
    exact ⟨hview.symm, rfl, rfl, fun hne => absurd rfl hne⟩
  · next v hview =>
    split at h
    · obtain ⟨rfl, rfl⟩ := Prod.mk.inj (Option.some.inj h)
      exact ⟨hview.symm, rfl, rfl, fun _ => Db.holder_lock_self⟩
    · cases h

theorem perform_upsert {k : κ} {v : ν} {u : Unit} :
    perform (B := B) i (.upsert k v) db = some (u, db') ↔
      db.Free i k ∧ db' = db.write i k (some v) := by
  simp only [perform]
  split
  · next hfree =>
    constructor
    · intro h
      exact ⟨hfree, (congrArg Prod.snd (Option.some.inj h)).symm⟩
    · rintro ⟨-, rfl⟩
      rfl
  · next hfree =>
    constructor
    · intro h
      cases h
    · intro h
      exact absurd h.1 hfree

theorem perform_delete {k : κ} {u : Unit}
    (h : perform (B := B) i (.delete k) db = some (u, db')) :
    (db.view i k = none ∧ db' = db) ∨ (db.Free i k ∧ db' = db.write i k none) := by
  simp only [perform] at h
  split at h
  · next hview => exact .inl ⟨hview, (congrArg Prod.snd (Option.some.inj h)).symm⟩
  · split at h
    · next hfree => exact .inr ⟨hfree, (congrArg Prod.snd (Option.some.inj h)).symm⟩
    · cases h

/-- A statement that took effect changed nothing, or took the lock of a free row, wrote a free row,
or ended its transaction. Source: none: infrastructure. Kind: P -/
theorem perform_cases (h : perform i o db = some (a, db')) :
    (db'.committed = db.committed ∧ db'.writes = db.writes ∧ db'.holder = db.holder) ∨
      (∃ k, db.Free i k ∧ db' = db.lock i k) ∨ (∃ k v, db.Free i k ∧ db' = db.write i k v) ∨
      db' = db.commit i ∨ db' = db.rollback i := by
  cases o with
  | get k => exact .inl (by cases h; exact ⟨rfl, rfl, rfl⟩)
  | scan p => exact .inl (by cases h; exact ⟨rfl, rfl, rfl⟩)
  | begin => exact .inl (perform_begin h)
  | selectForUpdate k =>
      simp only [perform] at h
      split at h
      · exact .inl (by cases h; exact ⟨rfl, rfl, rfl⟩)
      · split at h
        · next hfree => exact .inr (.inl ⟨k, hfree, by cases h; rfl⟩)
        · cases h
  | upsert k v =>
      obtain ⟨hfree, rfl⟩ := perform_upsert.mp h
      exact .inr (.inr (.inl ⟨k, some v, hfree, rfl⟩))
  | delete k =>
      rcases perform_delete h with ⟨-, rfl⟩ | ⟨hfree, rfl⟩
      · exact .inl ⟨rfl, rfl, rfl⟩
      · exact .inr (.inr (.inl ⟨k, none, hfree, rfl⟩))
  | commit => exact .inr (.inr (.inr (.inl (by cases h; rfl))))
  | rollback => exact .inr (.inr (.inr (.inr (by cases h; rfl))))

/-- **Written rows stay locked.** Source: none: infrastructure. Kind: P -/
theorem perform_wf (hwf : db.WF) (h : perform i o db = some (a, db')) : db'.WF := by
  rcases perform_cases h with ⟨-, hw, hh⟩ | ⟨k, hfree, rfl⟩ | ⟨k, v, hfree, rfl⟩ | rfl | rfl
  · unfold Db.WF
    rw [hw, hh]
    exact hwf
  · exact Db.wf_lock hwf hfree
  · exact Db.wf_write hwf hfree
  · exact Db.wf_rollback hwf
  · exact Db.wf_rollback hwf

/-- **A statement leaves what another process has written or locked alone.**
Source: none: infrastructure. Kind: P -/
theorem perform_keeps (hwf : db.WF) (h : perform i o db = some (a, db')) (hj : j ≠ i) :
    Db.Keeps j db db' := by
  rcases perform_cases h with ⟨hc, hw, hh⟩ | ⟨k, hfree, rfl⟩ | ⟨k, v, hfree, rfl⟩ | rfl | rfl
  · exact ⟨congrFun hw j, fun k hk => (congrFun hh k).trans hk, fun k _ => by rw [hc]⟩
  · exact Db.keeps_lock hfree hj
  · exact Db.keeps_write hfree hj
  · exact Db.keeps_commit hwf hj
  · exact Db.keeps_rollback hj

/-- Only a commit changes the committed rows. Source: none: infrastructure. Kind: L -/
theorem committed_of_ne_commit (h : perform i o db = some (a, db')) (ho : o ≠ .commit) :
    db'.committed = db.committed := by
  cases o with
  | commit => exact absurd rfl ho
  | begin => exact (perform_begin h).1
  | selectForUpdate k => exact (perform_selectForUpdate h).2.1
  | upsert k v =>
      obtain ⟨-, rfl⟩ := perform_upsert.mp h
      rfl
  | delete k =>
      rcases perform_delete h with ⟨-, rfl⟩ | ⟨-, rfl⟩
      · rfl
      · rfl
  | get k => cases h; rfl
  | scan p => cases h; rfl
  | rollback => cases h; rfl

/-- One more statement of one process. Source: none: infrastructure. Kind: L -/
theorem run_statement {α : ι → Type} {c d : Config ((requests B ν).iface ε) ε (Db κ ν ι) α}
    {tr : List (Event ((requests B ν).iface ε) ι (Db κ ν ι))} (h : Run (machine B ν ι) c tr d)
    {f : o.Out → DbM B ν (α i)} (hp : d.progs i = ask o >>= f)
    (hperf : perform i o d.shared = some (a, db)) :
    ∃ tr' d', Run (machine B ν ι) c tr' d' ∧ d'.shared = db ∧ d'.progs i = f a ∧
      ∀ j, j ≠ i → d'.progs j = d.progs j :=
  Service.run_ask h hp () hperf

end RowLocks

end Rollout.Lib
