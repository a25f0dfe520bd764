import Mathlib.Logic.Function.Basic
import Mathlib.Tactic.TypeStar

/-!
# Transactional maps

* `TxnStore κ ν ε` — a store whose transactions run one after another: what begins a transaction,
  its statements, its commit, and the reads between transactions.
* `TxnStore.Invariant` — what every operation keeps, every history keeps (`Invariant.run`).
* `TxnStore.plain` — the plain map: a transaction works on a copy, reads its own writes, and a
  commit publishes the copy.
* `TxnStore.Refines` — a representation of maps that every operation respects; `Refines.run_eq`:
  such a store answers every history of calls as the plain map does.
-/

set_option linter.unusedSectionVars false

namespace Rollout.Lib

variable {κ ν ε : Type}

theorem bind_eq_ok {α β : Type} {x : Except ε α} {f : α → Except ε β} {b : β}
    (h : x.bind f = .ok b) : ∃ a, x = .ok a ∧ f a = .ok b := by
  cases x with
  | error e => cases h
  | ok a => exact ⟨a, rfl, h⟩

theorem map_eq_ok {α β : Type} {x : Except ε α} {f : α → β} {b : β} (h : x.map f = .ok b) :
    ∃ a, x = .ok a ∧ f a = b := by
  cases x with
  | error e => cases h
  | ok a => exact ⟨a, rfl, Except.ok.inj h⟩

/-- A statement of a transaction. Source: none: infrastructure. Kind: D -/
inductive TxnOp (κ ν : Type)
  | put (k : κ) (v : ν)
  | delete (k : κ)
  | cas (k : κ) (expected new : Option ν)

/-- The key of a statement. Source: none: infrastructure. Kind: D -/
def TxnOp.key : TxnOp κ ν → κ
  | .put k _ => k
  | .delete k => k
  | .cas k _ _ => k

/-- How a transaction ends. Source: none: infrastructure. Kind: D -/
inductive TxnEnd
  | commit
  | abort
  | drop
deriving DecidableEq

/-- What is asked of a store: a whole transaction, or a read between transactions.
Source: none: infrastructure. Kind: D -/
inductive TxnCall (κ ν : Type)
  | txn (ops : List (TxnOp κ ν)) (fin : TxnEnd)
  | get (k : κ)
  | getMany (ks : List κ)

/-- What it answers; a transaction answers the outcomes of its swaps.
Source: none: infrastructure. Kind: D -/
inductive TxnAnswer (ν : Type)
  | txn (swaps : List Bool)
  | get (value : Option ν)
  | getMany (values : List (Option ν))
deriving DecidableEq

/-- A store. Source: none: infrastructure. Kind: D -/
structure TxnStore (κ ν ε : Type) where
  /-- What is committed. -/
  State : Type
  /-- A transaction in progress. -/
  Work : Type
  /-- Open a transaction. -/
  begin : State → Work
  /-- Stage a put. -/
  put : κ → ν → Work → Except ε Work
  /-- Stage a delete. -/
  delete : κ → Work → Except ε Work
  /-- Compare and swap. -/
  cas : κ → (expected new : Option ν) → Work → Except ε (Bool × Work)
  /-- Publish. -/
  commit : Work → State
  /-- Read. -/
  get : κ → State → Except ε (Option ν)
  /-- Read several. -/
  getMany : List κ → State → Except ε (List (Option ν))

namespace TxnStore

/-- A transaction's statements one after another: the outcomes of the swaps and what is staged.
Source: none: infrastructure. Kind: D -/
def stage (S : TxnStore κ ν ε) : List (TxnOp κ ν) → S.Work → Except ε (List Bool × S.Work)
  | [], w => .ok ([], w)
  | .put k v :: ops, w => (S.put k v w).bind (stage S ops)
  | .delete k :: ops, w => (S.delete k w).bind (stage S ops)
  | .cas k expected new :: ops, w => (S.cas k expected new w).bind fun r =>
      (stage S ops r.2).map fun rest => (r.1 :: rest.1, rest.2)

/-- One call; a transaction that is aborted or dropped leaves the store alone.
Source: none: infrastructure. Kind: D -/
def call (S : TxnStore κ ν ε) : TxnCall κ ν → S.State → Except ε (TxnAnswer ν × S.State)
  | .txn ops fin, s => (S.stage ops (S.begin s)).map fun r =>
      (.txn r.1, match fin with
        | .commit => S.commit r.2
        | .abort => s
        | .drop => s)
  | .get k, s => (S.get k s).map fun v => (.get v, s)
  | .getMany ks, s => (S.getMany ks s).map fun vs => (.getMany vs, s)

/-- A history of calls. Source: none: infrastructure. Kind: D -/
def run (S : TxnStore κ ν ε) : List (TxnCall κ ν) → S.State →
    Except ε (List (TxnAnswer ν) × S.State)
  | [], s => .ok ([], s)
  | c :: calls, s => (S.call c s).bind fun r =>
      (run S calls r.2).map fun rest => (r.1 :: rest.1, rest.2)

/-- The keys of a call satisfy `ok`, those read together also `many`.
Source: none: infrastructure. Kind: D -/
def Accepts (ok many : κ → Prop) : TxnCall κ ν → Prop
  | .txn ops _ => ∀ op ∈ ops, ok op.key
  | .get k => ok k
  | .getMany ks => ∀ k ∈ ks, ok k ∧ many k

/-! ## Invariants -/

/-- What every operation keeps. Source: none: infrastructure. Kind: D -/
structure Invariant (S : TxnStore κ ν ε) where
  /-- Of what is committed. -/
  state : S.State → Prop
  /-- Of a transaction in progress. -/
  work : S.Work → Prop
  begin : ∀ {s}, state s → work (S.begin s)
  put : ∀ {w w' k v}, work w → S.put k v w = .ok w' → work w'
  delete : ∀ {w w' k}, work w → S.delete k w = .ok w' → work w'
  cas : ∀ {w w' k e n b}, work w → S.cas k e n w = .ok (b, w') → work w'
  commit : ∀ {w}, work w → state (S.commit w)

namespace Invariant

variable {S : TxnStore κ ν ε} (I : S.Invariant)
include I

theorem stage {ops : List (TxnOp κ ν)} {w w' : S.Work} {swaps : List Bool} (hw : I.work w)
    (h : S.stage ops w = .ok (swaps, w')) : I.work w' := by
  induction ops generalizing w swaps with
  | nil =>
      cases h
      exact hw
  | cons op ops ih =>
      cases op with
      | put k v =>
          obtain ⟨w₁, hput, hrest⟩ := bind_eq_ok h
          exact ih (I.put hw hput) hrest
      | delete k =>
          obtain ⟨w₁, hdel, hrest⟩ := bind_eq_ok h
          exact ih (I.delete hw hdel) hrest
      | cas k expected new =>
          obtain ⟨⟨b, w₁⟩, hcas, h⟩ := bind_eq_ok h
          obtain ⟨⟨swaps', w₂⟩, hrest, heq⟩ := map_eq_ok h
          cases heq
          exact ih (I.cas hw hcas) hrest

theorem call {c : TxnCall κ ν} {s s' : S.State} {a : TxnAnswer ν} (hs : I.state s)
    (h : S.call c s = .ok (a, s')) : I.state s' := by
  cases c with
  | txn ops fin =>
      obtain ⟨⟨swaps, w⟩, hrun, heq⟩ := map_eq_ok h
      cases fin with
      | commit =>
          cases heq
          exact I.commit (I.stage (I.begin hs) hrun)
      | abort =>
          cases heq
          exact hs
      | drop =>
          cases heq
          exact hs
  | get k =>
      obtain ⟨v, -, heq⟩ := map_eq_ok h
      cases heq
      exact hs
  | getMany ks =>
      obtain ⟨vs, -, heq⟩ := map_eq_ok h
      cases heq
      exact hs

/-- **Every history keeps the invariant.** Source: none: infrastructure. Kind: L -/
theorem run {calls : List (TxnCall κ ν)} {s s' : S.State} {answers : List (TxnAnswer ν)}
    (hs : I.state s) (h : S.run calls s = .ok (answers, s')) : I.state s' := by
  induction calls generalizing s answers with
  | nil =>
      cases h
      exact hs
  | cons c calls ih =>
      obtain ⟨⟨a, s₁⟩, hcall, h⟩ := bind_eq_ok h
      obtain ⟨⟨answers', s₂⟩, hrest, heq⟩ := map_eq_ok h
      cases heq
      exact ih (I.call hs hcall) hrest

end Invariant

section plain

variable [DecidableEq κ] [DecidableEq ν]

/-- **The plain map.** Source: none: infrastructure. Kind: D -/
@[reducible] def plain (κ ν ε : Type) [DecidableEq κ] [DecidableEq ν] : TxnStore κ ν ε where
  State := κ → Option ν
  Work := κ → Option ν
  begin m := m
  put k v m := .ok (Function.update m k (some v))
  delete k m := .ok (Function.update m k none)
  cas k expected new m :=
    .ok (if m k = expected then (true, Function.update m k new) else (false, m))
  commit m := m
  get k m := .ok (m k)
  getMany ks m := .ok (ks.map m)

theorem plain_swap {k : κ} {n : Option ν} (m : κ → Option ν) :
    (plain κ ν ε).cas k (m k) n m = .ok (true, Function.update m k n) :=
  congrArg Except.ok (if_pos rfl)

theorem plain_keep {k : κ} {e n : Option ν} {m : κ → Option ν} (h : m k ≠ e) :
    (plain κ ν ε).cas k e n m = .ok (false, m) :=
  congrArg Except.ok (if_neg h)

/-- **A store that represents maps**, on the keys that satisfy `ok`; reads of several keys are
about keys that satisfy `many` too. Source: none: infrastructure. Kind: D -/
structure Refines (S : TxnStore κ ν ε) (ok many : κ → Prop) where
  /-- The map a state represents. -/
  rep : S.State → (κ → Option ν) → Prop
  /-- The map a transaction in progress represents. -/
  work : S.Work → (κ → Option ν) → Prop
  begin : ∀ {s m}, rep s m → work (S.begin s) m
  put : ∀ {w m k v}, work w m → ok k →
    ∃ w', S.put k v w = .ok w' ∧ work w' (Function.update m k (some v))
  delete : ∀ {w m k}, work w m → ok k →
    ∃ w', S.delete k w = .ok w' ∧ work w' (Function.update m k none)
  swap : ∀ {w m k n}, work w m → ok k →
    ∃ w', S.cas k (m k) n w = .ok (true, w') ∧ work w' (Function.update m k n)
  keep : ∀ {w m k e n}, work w m → ok k → m k ≠ e →
    ∃ w', S.cas k e n w = .ok (false, w') ∧ work w' m
  commit : ∀ {w m}, work w m → rep (S.commit w) m
  get : ∀ {s m k}, rep s m → ok k → S.get k s = .ok (m k)
  getMany : ∀ {s m ks}, rep s m → (∀ k ∈ ks, ok k ∧ many k) → S.getMany ks s = .ok (ks.map m)

namespace Refines

variable {S : TxnStore κ ν ε} {ok many : κ → Prop} (R : S.Refines ok many)
include R

theorem stage_eq {ops : List (TxnOp κ ν)} {w : S.Work} {m : κ → Option ν} (hw : R.work w m)
    (hok : ∀ op ∈ ops, ok op.key) : ∃ swaps w' m', S.stage ops w = .ok (swaps, w') ∧
      (plain κ ν ε).stage ops m = .ok (swaps, m') ∧ R.work w' m' := by
  induction ops generalizing w m with
  | nil => exact ⟨[], w, m, rfl, rfl, hw⟩
  | cons op ops ih =>
      have hhead := hok op (List.mem_cons_self ..)
      have htail := fun op' h => hok op' (List.mem_cons_of_mem op h)
      cases op with
      | put k v =>
          obtain ⟨w₁, hput, hw₁⟩ := R.put (k := k) (v := v) hw hhead
          obtain ⟨swaps, w', m', hrun, hplain, hw'⟩ := ih hw₁ htail
          refine ⟨swaps, w', m', ?_, hplain, hw'⟩
          rw [stage, hput]
          exact hrun
      | delete k =>
          obtain ⟨w₁, hdel, hw₁⟩ := R.delete (k := k) hw hhead
          obtain ⟨swaps, w', m', hrun, hplain, hw'⟩ := ih hw₁ htail
          refine ⟨swaps, w', m', ?_, hplain, hw'⟩
          rw [stage, hdel]
          exact hrun
      | cas k expected new =>
          by_cases hm : m k = expected
          · subst hm
            obtain ⟨w₁, hcas, hw₁⟩ := R.swap (k := k) (n := new) hw hhead
            obtain ⟨swaps, w', m', hrun, hplain, hw'⟩ := ih hw₁ htail
            refine ⟨true :: swaps, w', m', ?_, ?_, hw'⟩
            · rw [stage, hcas]
              simp only [Except.bind, hrun, Except.map]
            · rw [stage, plain_swap]
              simp only [Except.bind, hplain, Except.map]
          · obtain ⟨w₁, hcas, hw₁⟩ := R.keep (k := k) (n := new) hw hhead hm
            obtain ⟨swaps, w', m', hrun, hplain, hw'⟩ := ih hw₁ htail
            refine ⟨false :: swaps, w', m', ?_, ?_, hw'⟩
            · rw [stage, hcas]
              simp only [Except.bind, hrun, Except.map]
            · rw [stage, plain_keep hm]
              simp only [Except.bind, hplain, Except.map]

theorem call_eq {c : TxnCall κ ν} {s : S.State} {m : κ → Option ν} (hs : R.rep s m)
    (hok : Accepts ok many c) : ∃ a s' m', S.call c s = .ok (a, s') ∧
      (plain κ ν ε).call c m = .ok (a, m') ∧ R.rep s' m' := by
  cases c with
  | txn ops fin =>
      obtain ⟨swaps, w', m', hrun, hplain, hw'⟩ := R.stage_eq (R.begin hs) hok
      have hplain' : (plain κ ν ε).stage ops ((plain κ ν ε).begin m) = .ok (swaps, m') := hplain
      cases fin with
      | commit =>
          refine ⟨.txn swaps, S.commit w', m', ?_, ?_, R.commit hw'⟩
          · rw [call, hrun]; rfl
          · rw [call, hplain']; rfl
      | abort =>
          refine ⟨.txn swaps, s, m, ?_, ?_, hs⟩
          · rw [call, hrun]; rfl
          · rw [call, hplain']; rfl
      | drop =>
          refine ⟨.txn swaps, s, m, ?_, ?_, hs⟩
          · rw [call, hrun]; rfl
          · rw [call, hplain']; rfl
  | get k =>
      refine ⟨.get (m k), s, m, ?_, rfl, hs⟩
      rw [call, R.get hs hok]
      rfl
  | getMany ks =>
      refine ⟨.getMany (ks.map m), s, m, ?_, rfl, hs⟩
      rw [call, R.getMany hs hok]
      rfl

/-- **A store that represents maps answers as the plain map does**, and what it leaves represents
what the plain map leaves. Source: none: infrastructure. Kind: L -/
theorem run_eq {calls : List (TxnCall κ ν)} {s : S.State} {m : κ → Option ν} (hs : R.rep s m)
    (hok : ∀ c ∈ calls, Accepts ok many c) : ∃ answers s' m', S.run calls s = .ok (answers, s') ∧
      (plain κ ν ε).run calls m = .ok (answers, m') ∧ R.rep s' m' := by
  induction calls generalizing s m with
  | nil => exact ⟨[], s, m, rfl, rfl, hs⟩
  | cons c calls ih =>
      obtain ⟨a, s₁, m₁, hcall, hplain, hs₁⟩ := R.call_eq hs (hok c (List.mem_cons_self ..))
      obtain ⟨answers, s', m', hrun, hrun', hs'⟩ :=
        ih hs₁ fun c' h => hok c' (List.mem_cons_of_mem c h)
      refine ⟨a :: answers, s', m', ?_, ?_, hs'⟩
      · rw [run, hcall]
        simp only [Except.bind, hrun, Except.map]
      · rw [run, hplain]
        simp only [Except.bind, hrun', Except.map]

end Refines

end plain

end TxnStore

end Rollout.Lib
