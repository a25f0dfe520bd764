import Rollout.Lib.Alone
import Rollout.Lib.KV

/-!
# A store whose transactions are issued statement by statement

* `Session.Op` — reads through the store's handle, and the operations of a transaction: `begin`,
  its statements, `commit` and `abort`, each of which may fail on its own.
* `Session.service` — one transaction is open at a time: `begin` waits for the one in progress, a
  commit publishes its working copy, and an operation that fails drops the transaction of its
  process.
* `Session.perform_begin` and its siblings — what each operation of the process that holds the
  transaction does.
-/

set_option linter.unusedSectionVars false

namespace Rollout.Lib

namespace Session

variable {κ ν : Type}

/-- The operations. Source: none: infrastructure. Kind: D -/
inductive Op (κ ν : Type)
  | get (k : κ)
  | scan (p : κ → Bool)
  | begin
  | put (k : κ) (v : ν)
  | delete (k : κ)
  | cas (k : κ) (expected new : Option ν)
  | commit
  | abort

/-- What an operation answers when it does not fail. Source: none: infrastructure. Kind: D -/
@[reducible] def Op.Out : Op κ ν → Type
  | .get _ => Option ν
  | .scan _ => List (κ × ν)
  | .cas .. => Bool
  | _ => Unit

/-- The operations as requests. Source: none: infrastructure. Kind: D -/
@[reducible] def requests (κ ν : Type) : Requests where
  Op := Op κ ν
  Out := Op.Out

/-- Operations each of which may fail. Source: none: infrastructure. Kind: D -/
@[reducible] def iface (κ ν ε : Type) : Iface := (requests κ ν).iface ε

/-- Issue an operation; its failure ends the program. Source: none: infrastructure. Kind: D -/
@[reducible] def ask {ε : Type} (o : Op κ ν) : Prog (iface κ ν ε) ε o.Out :=
  Lib.ask (R := requests κ ν) o

/-- The store, and the transaction in progress with the process it belongs to.
Source: none: infrastructure. Kind: D -/
structure State (κ ν ι : Type) where
  /-- What is committed. -/
  committed : KV κ ν
  /-- The process that holds the transaction, and its working copy. -/
  work : Option (ι × KV κ ν)

variable {ι : Type} [DecidableEq κ] [DecidableEq ν] [DecidableEq ι]

namespace State

/-- The working copy of a process. Source: none: infrastructure. Kind: D -/
def workOf (s : State κ ν ι) (i : ι) : Option (KV κ ν) :=
  s.work.bind fun x => if x.1 = i then some x.2 else none

/-- The store outside any transaction. Source: none: infrastructure. Kind: D -/
def idle (rows : KV κ ν) : State κ ν ι := ⟨rows, none⟩

/-- The store in a transaction of `i`. Source: none: infrastructure. Kind: D -/
def within (rows : KV κ ν) (i : ι) (work : KV κ ν) : State κ ν ι := ⟨rows, some (i, work)⟩

@[simp] theorem committed_idle (rows : KV κ ν) : (idle rows : State κ ν ι).committed = rows := rfl

@[simp] theorem workOf_within (rows work : KV κ ν) (i : ι) : (within rows i work).workOf i = some work :=
  if_pos rfl

end State

/-- The effect of an operation that does not fail. Source: none: infrastructure. Kind: D -/
def perform (i : ι) : (o : Op κ ν) → State κ ν ι → Option (o.Out × State κ ν ι)
  | .get k, s => some (s.committed.get k, s)
  | .scan p, s => some (s.committed.scan p, s)
  | .begin, s =>
      match s.work with
      | none => some ((), .within s.committed i s.committed)
      | some _ => none
  | .put k v, s => (s.workOf i).map fun w => ((), .within s.committed i (w.put k v))
  | .delete k, s => (s.workOf i).map fun w => ((), .within s.committed i (w.del k))
  | .cas k expected new, s => (s.workOf i).map fun w =>
      if w.get k = expected then (true, .within s.committed i (KV.set w k new))
      else (false, .within s.committed i w)
  | .commit, s => (s.workOf i).map fun w => ((), .idle w)
  | .abort, s => (s.workOf i).map fun _ => ((), .idle s.committed)

/-- **The store.** Source: none: infrastructure. Kind: D -/
@[reducible] def service (κ ν ι : Type) [DecidableEq κ] [DecidableEq ν] [DecidableEq ι] :
    Service (requests κ ν) ι (State κ ν ι) where
  Choice := Unit
  perform _ := perform
  fail i s := if (s.workOf i).isSome then .idle s.committed else s
  Tick := Empty
  tick t := t.elim

section

variable (i : ι) (rows work : KV κ ν)

@[simp] theorem perform_scan (p : κ → Bool) (s : State κ ν ι) :
    perform i (.scan p) s = some (s.committed.scan p, s) := rfl

@[simp] theorem perform_begin :
    perform i .begin (State.idle rows : State κ ν ι) = some ((), State.within rows i rows) := rfl

@[simp] theorem perform_put (k : κ) (v : ν) :
    perform i (.put k v) (State.within rows i work) = some ((), State.within rows i (work.put k v)) := by
  rw [perform, State.workOf_within]
  rfl

@[simp] theorem perform_delete (k : κ) :
    perform i (.delete k) (State.within rows i work) = some ((), State.within rows i (work.del k)) := by
  rw [perform, State.workOf_within]
  rfl

@[simp] theorem perform_cas (k : κ) (expected new : Option ν) :
    perform i (.cas k expected new) (State.within rows i work) =
      some (if work.get k = expected then (true, State.within rows i (KV.set work k new))
        else (false, State.within rows i work)) := by
  rw [perform, State.workOf_within]
  rfl

@[simp] theorem perform_commit :
    perform i .commit (State.within rows i work) = some ((), State.idle work) := by
  rw [perform, State.workOf_within]
  rfl

@[simp] theorem perform_abort :
    perform i .abort (State.within rows i work) = some ((), State.idle rows) := by
  rw [perform, State.workOf_within]
  rfl

@[simp] theorem fail_idle : (service κ ν ι).fail i (State.idle rows) = State.idle rows := rfl

@[simp] theorem fail_within :
    (service κ ν ι).fail i (State.within rows i work) = State.idle rows := by
  show (if ((State.within rows i work).workOf i).isSome then _ else _) = _
  rw [State.workOf_within]
  rfl

end

/-! ## One failure -/

section failing

variable {ε α β : Type} (i : ι) (e : ε)

/-- What a program of `i` returns alone when the operation with the given number fails.
Source: none: infrastructure. Kind: D -/
def failing (p : Prog (iface κ ν ε) ε α) (s : State κ ν ι) (count : Option Nat) :
    Option (Except ε α × State κ ν ι × Option Nat) :=
  (service κ ν ι).failing () i e p (s, count)

@[simp] theorem failing_ret (a : α) (s : State κ ν ι) (count : Option Nat) :
    failing i e (.ret a) s count = some (.ok a, s, count) := Service.failing_ret a (s, count)

@[simp] theorem failing_err (e' : ε) (s : State κ ν ι) (count : Option Nat) :
    failing i e (.err e' : Prog (iface κ ν ε) ε α) s count = some (.error e', s, count) :=
  Service.failing_err e' (s, count)

@[simp] theorem failing_ofExcept (r : Except ε α) (s : State κ ν ι) (count : Option Nat) :
    failing i e (Prog.ofExcept r) s count = some (r, s, count) := by
  cases r with
  | ok a => exact failing_ret i e a s count
  | error e' => exact failing_err i e e' s count

/-- The rule for sequencing. Source: none: infrastructure. Kind: L -/
theorem failing_bind (p : Prog (iface κ ν ε) ε α) (f : α → Prog (iface κ ν ε) ε β)
    (s : State κ ν ι) (count : Option Nat) :
    failing i e (p >>= f) s count = (failing i e p s count).bind fun y => match y.1 with
      | .ok a => failing i e (f a) y.2.1 y.2.2
      | .error e' => some (.error e', y.2) :=
  Service.failing_bind p f (s, count)

variable (rows work : KV κ ν) (count : Option Nat)

@[simp] theorem failing_scan (p : κ → Bool) :
    failing (α := List (κ × ν)) i e (ask (.scan p)) (.idle rows) count =
      some (if count = some 0 then (.error e, .idle rows, none)
        else (.ok (rows.scan p), .idle rows, count.map Nat.pred)) :=
  Service.failing_ask (perform_scan i p (State.idle rows)) count

@[simp] theorem failing_scan_within (p : κ → Bool) :
    failing (α := List (κ × ν)) i e (ask (.scan p)) (.within rows i work) count =
      some (if count = some 0 then (.error e, .idle rows, none)
        else (.ok (rows.scan p), .within rows i work, count.map Nat.pred)) := by
  rw [← fail_within i rows work]
  exact Service.failing_ask (perform_scan i p (State.within rows i work)) count

@[simp] theorem failing_begin :
    failing (α := Unit) i e (ask .begin) (.idle rows) count =
      some (if count = some 0 then (.error e, .idle rows, none)
        else (.ok (), .within rows i rows, count.map Nat.pred)) :=
  Service.failing_ask (perform_begin i rows) count

@[simp] theorem failing_put (k : κ) (v : ν) :
    failing (α := Unit) i e (ask (.put k v)) (.within rows i work) count =
      some (if count = some 0 then (.error e, .idle rows, none)
        else (.ok (), .within rows i (work.put k v), count.map Nat.pred)) := by
  rw [← fail_within i rows work]
  exact Service.failing_ask (perform_put i rows work k v) count

@[simp] theorem failing_delete (k : κ) :
    failing (α := Unit) i e (ask (.delete k)) (.within rows i work) count =
      some (if count = some 0 then (.error e, .idle rows, none)
        else (.ok (), .within rows i (work.del k), count.map Nat.pred)) := by
  rw [← fail_within i rows work]
  exact Service.failing_ask (perform_delete i rows work k) count

@[simp] theorem failing_cas (k : κ) (expected new : Option ν) :
    failing (α := Bool) i e (ask (.cas k expected new)) (.within rows i work) count =
      some (if count = some 0 then (.error e, .idle rows, none)
        else (.ok (decide (work.get k = expected)),
          .within rows i (if work.get k = expected then KV.set work k new else work),
          count.map Nat.pred)) := by
  rw [← fail_within i rows work]
  by_cases h : work.get k = expected
  · rw [if_pos h, decide_eq_true h]
    exact Service.failing_ask ((perform_cas i rows work k expected new).trans (by rw [if_pos h])) count
  · rw [if_neg h, decide_eq_false h]
    exact Service.failing_ask ((perform_cas i rows work k expected new).trans (by rw [if_neg h])) count

@[simp] theorem failing_commit :
    failing (α := Unit) i e (ask .commit) (.within rows i work) count =
      some (if count = some 0 then (.error e, .idle rows, none)
        else (.ok (), .idle work, count.map Nat.pred)) := by
  rw [← fail_within i rows work]
  exact Service.failing_ask (perform_commit i rows work) count

@[simp] theorem failing_abort :
    failing (α := Unit) i e (ask .abort) (.within rows i work) count =
      some (if count = some 0 then (.error e, .idle rows, none)
        else (.ok (), .idle rows, count.map Nat.pred)) := by
  have hperf : (service κ ν ι).perform () i .abort (State.within rows i work) =
      some ((), State.idle rows) := perform_abort i rows work
  have hrule := Service.failing_ask (e := e) hperf count
  rw [fail_within] at hrule
  exact hrule

end failing

/-! ## No failure -/

/-- What a program of `i` returns alone when no operation fails.
Source: none: infrastructure. Kind: D -/
def alone {ε α : Type} (i : ι) (p : Prog (iface κ ν ε) ε α) (s : State κ ν ι) :
    Option (Except ε α × State κ ν ι) :=
  (service κ ν ι).alone () i p s

theorem alone_of_failing {ε α : Type} {i : ι} {e : ε} {p : Prog (iface κ ν ε) ε α}
    {s s' : State κ ν ι} {r : Except ε α} {count : Option Nat}
    (h : failing i e p s none = some (r, s', count)) : alone i p s = some (r, s') := by
  have hres : ((service κ ν ι).alone () i p s).map (fun x => (x.1, x.2, none)) = some (r, s', count) :=
    (Service.failing_none p s).symm.trans h
  obtain ⟨⟨r', t⟩, halone, heq⟩ := Option.map_eq_some_iff.mp hres
  obtain ⟨rfl, ht⟩ := Prod.mk.inj heq
  rw [← (Prod.mk.inj ht).1]
  exact halone

end Session

end Rollout.Lib
