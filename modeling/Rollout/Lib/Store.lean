import Rollout.Lib.KV
import Rollout.Lib.Service

/-!
# Processes over a serializable store

* `Txns κ ν` — the transactions the processes of a component run, each with its body.
* `Store.iface` — reads through the store's handle (`get`, `scan`) and whole transactions (`txn`).
  Every operation may fail; a transaction that fails, is aborted or is cut off leaves nothing.
* `Store.machine` — the store under them: a transaction takes effect at once, a read sees the
  last committed state and may be stale by the time it is used.
* `Store.does_iff` — all an operation can do; `Store.exec_ask` — the same from the side of one
  program.
* `Store.Rules` — rely–guarantee for such processes: an invariant, a history that transactions
  extend, and for each transaction what its issuer knows; `Rules.run` and `Rules.run_event` carry
  them along every run.
-/

set_option linter.unusedSectionVars false

namespace Rollout.Lib

/-- The transactions of a component. Source: none: infrastructure. Kind: D -/
structure Txns (κ ν : Type) where
  /-- The transactions. -/
  Name : Type
  /-- What each returns. -/
  Resp : Name → Type
  /-- What each runs. -/
  body : (t : Name) → TxnM κ ν (Resp t)

namespace Store

variable {κ ν ε : Type}

/-- The operations on a store. Source: none: infrastructure. Kind: D -/
inductive Op (T : Txns κ ν)
  | get (k : κ)
  | scan (p : κ → Bool)
  | txn (t : T.Name)

/-- What an operation answers when it does not fail. Source: none: infrastructure. Kind: D -/
@[reducible] def Op.Out {T : Txns κ ν} : Op T → Type
  | .get _ => Option ν
  | .scan _ => List (κ × ν)
  | .txn t => T.Resp t

/-- A store as a service. Source: none: infrastructure. Kind: D -/
@[reducible] def requests (T : Txns κ ν) : Requests where
  Op := Op T
  Out := Op.Out

/-- Operations on a store, each of which may fail. Source: none: infrastructure. Kind: D -/
@[reducible] def iface (T : Txns κ ν) (ε : Type) : Iface := (requests T).iface ε

variable {T : Txns κ ν} {ι : Type}

/-- Issue an operation; its failure ends the program. Source: none: infrastructure. Kind: D -/
@[reducible] def ask (o : Op T) : Prog (iface T ε) ε o.Out := Lib.ask (R := requests T) o

variable [DecidableEq κ]

/-- The effect of an operation that does not fail. Source: none: infrastructure. Kind: D -/
def perform : (o : Op T) → KV κ ν → o.Out × KV κ ν
  | .get k, s => (s.get k, s)
  | .scan p, s => (s.scan p, s)
  | .txn t, s => atomically (T.body t) s

/-- **The serializable store.** The environment decides only whether an operation fails.
Source: none: infrastructure. Kind: D -/
@[reducible] def service (T : Txns κ ν) (ι : Type) : Service (requests T) ι (KV κ ν) where
  Choice := Unit
  perform _ _ o s := some (perform o s)
  fail _ s := s
  Tick := Empty
  tick t := t.elim

/-- Its machine. Source: none: infrastructure. Kind: D -/
@[reducible] def machine (T : Txns κ ν) (ε ι : Type) : Machine (iface T ε) ι (KV κ ν) :=
  (service T ι).machine ε

instance : IsEmpty (machine T ε ι).Tick := ⟨fun t => Empty.elim t⟩

/-- All an operation can do: fail and change nothing, or take effect.
Source: none: infrastructure. Kind: L -/
theorem does_iff {e : Event (iface T ε) ι (KV κ ν)} :
    (machine T ε ι).Does e ↔
      (∃ err, e.resp = .error err ∧ e.post = e.pre) ∨
        (e.resp = .ok (perform e.op e.pre).1 ∧ e.post = (perform e.op e.pre).2) := by
  obtain ⟨i, o, r, s, s'⟩ := e
  refine Service.does_iff.trans (or_congr Iff.rfl ?_)
  show (∃ _ a, some (perform o s) = some (a, s') ∧ r = .ok a) ↔
    r = .ok (perform o s).1 ∧ s' = (perform o s).2
  constructor
  · rintro ⟨-, a, h, rfl⟩
    have hperf := Option.some.inj h
    rw [hperf]
    exact ⟨rfl, rfl⟩
  · rintro ⟨rfl, rfl⟩
    exact ⟨(), _, rfl, rfl⟩

/-- The rule for one operation. Source: none: infrastructure. Kind: L -/
theorem issues_ask {β : Type} {i : ι} {φ : Op T → Prop} {o : Op T}
    {f : o.Out → Prog (iface T ε) ε β} (ho : φ o)
    (hf : ∀ s, (f (perform o s).1).Issues (machine T ε ι) i φ) :
    (ask o >>= f).Issues (machine T ε ι) i φ := by
  apply Service.issues_ask ho
  intro ch s a s' hperf
  have hs := hf s
  rw [Option.some.inj hperf] at hs
  exact hs

/-- A program that starts with an operation, seen from its own events: nothing yet, the failed
operation alone, or the operation and then the rest. Source: none: infrastructure. Kind: L -/
theorem exec_ask {β : Type} {i : ι} {o : Op T} {f : o.Out → Prog (iface T ε) ε β}
    {es : List (Event (iface T ε) ι (KV κ ν))} {q : Prog (iface T ε) ε β}
    (h : Prog.Exec (machine T ε ι) i (ask o >>= f) es q) :
    (es = [] ∧ q.result? = none) ∨
      (∃ err s, es = [⟨i, o, .error err, s, s⟩] ∧ q = .err err) ∨
      ∃ s es', es = ⟨i, o, .ok (perform o s).1, s, (perform o s).2⟩ :: es' ∧
        Prog.Exec (machine T ε ι) i (f (perform o s).1) es' q := by
  rcases Service.exec_ask h with hnil | ⟨err, s, rfl, rfl⟩ | ⟨ch, a, s, s', es', rfl, hperf, h'⟩
  · exact .inl hnil
  · exact .inr (.inl ⟨err, s, rfl, rfl⟩)
  · obtain ⟨rfl, rfl⟩ := Prod.mk.inj (Option.some.inj hperf)
    exact .inr (.inr ⟨s, es', rfl, h'⟩)

/-- The same for a program that ended with a result. Source: none: infrastructure. Kind: L -/
theorem exec_ask_ret {β : Type} {i : ι} {o : Op T} {f : o.Out → Prog (iface T ε) ε β}
    {es : List (Event (iface T ε) ι (KV κ ν))} {b : β}
    (h : Prog.Exec (machine T ε ι) i (ask o >>= f) es (.ret b)) :
    ∃ s es', es = ⟨i, o, .ok (perform o s).1, s, (perform o s).2⟩ :: es' ∧
      Prog.Exec (machine T ε ι) i (f (perform o s).1) es' (.ret b) := by
  rcases exec_ask h with ⟨-, hq⟩ | ⟨err, s, -, hq⟩ | hrest
  · cases hq
  · cases hq
  · exact hrest

/-! ## Rely–guarantee over a store -/

/-- **An agreement between the processes of a store**: only transactions need a justification, and
only a transaction that took effect extends the history.
Source: none: infrastructure. Kind: D -/
structure Rules (T : Txns κ ν) (ι γ : Type) where
  /-- The history after a transaction with its result. -/
  upd : γ → ι → (t : T.Name) → T.Resp t → γ
  /-- The invariant. -/
  inv : KV κ ν → γ → Prop
  /-- What a process expects of the others. -/
  rely : ι → KV κ ν → γ → KV κ ν → γ → Prop
  /-- What a process knows when its transaction takes effect. -/
  pre : ι → T.Name → KV κ ν → γ → Prop
  /-- What is assumed of a run whenever a transaction takes effect. -/
  assume : ι → T.Name → KV κ ν → Prop
  rely_refl : ∀ i s g, rely i s g s g
  rely_trans : ∀ i s g s' g' s'' g'', rely i s g s' g' → rely i s' g' s'' g'' →
    rely i s g s'' g''
  step : ∀ i t s g, assume i t s → inv s g → pre i t s g →
    inv (atomically (T.body t) s).2 (upd g i t (atomically (T.body t) s).1) ∧
      ∀ j, j ≠ i → rely j s g (atomically (T.body t) s).2 (upd g i t (atomically (T.body t) s).1)

namespace Rules

variable {γ : Type} (R : Rules T ι γ)

/-- The history after an event. Source: none: infrastructure. Kind: D -/
def extend (g : γ) (e : Event (iface T ε) ι (KV κ ν)) : γ :=
  match e with
  | ⟨i, .txn t, .ok r, _, _⟩ => R.upd g i t r
  | _ => g

/-- What is assumed of an event. Source: none: infrastructure. Kind: D -/
def assumed (e : Event (iface T ε) ι (KV κ ν)) : Prop :=
  match e with
  | ⟨i, .txn t, .ok _, s, _⟩ => R.assume i t s
  | _ => True

/-- What the issuer of an operation knows. Source: none: infrastructure. Kind: D -/
def before (i : ι) (o : Op T) (s : KV κ ν) (g : γ) : Prop :=
  match o with
  | .txn t => R.pre i t s g
  | _ => True

/-- The agreement as a discipline of the machine. Source: none: infrastructure. Kind: D -/
def discipline (ε : Type) : Discipline (machine T ε ι) γ where
  upd := R.extend
  inv := R.inv
  rely := R.rely
  pre := R.before
  assume := R.assumed
  rely_refl := R.rely_refl
  rely_trans := R.rely_trans
  step := by
    rintro ⟨i, o, r, s, s'⟩ g hd ha hi hp
    rcases does_iff.mp hd with ⟨err, hr, hs⟩ | ⟨hr, hs⟩
    · simp only at hr hs
      subst hr hs
      have hg : R.extend g ⟨i, o, .error err, s', s'⟩ = g := by cases o <;> rfl
      rw [hg]
      exact ⟨hi, fun j _ => R.rely_refl j s' g⟩
    · simp only at hr hs
      subst hr hs
      cases o with
      | get k => exact ⟨hi, fun j _ => R.rely_refl j s g⟩
      | scan p => exact ⟨hi, fun j _ => R.rely_refl j s g⟩
      | txn t => exact R.step i t s g ha hi hp
  tick t := t.elim

/-- The program keeps to the agreement. Source: none: infrastructure. Kind: D -/
def Safe (i : ι) {β : Type} (p : Prog (iface T ε) ε β) (s : KV κ ν) (g : γ) : Prop :=
  p.Safe (R.discipline ε) i (fun _ _ _ => True) s g

variable {R} {i : ι} {β : Type} {s : KV κ ν} {g : γ}

theorem Safe.ret (b : β) : R.Safe (ε := ε) i (.ret b) s g := fun _ _ _ _ => trivial

theorem Safe.err (e : ε) : R.Safe (β := β) i (.err e) s g := fun _ _ _ _ => trivial

/-- The rule for reads through the handle. Source: none: infrastructure. Kind: L -/
theorem Safe.get {k : κ} {f : Option ν → Prog (iface T ε) ε β}
    (h : ∀ s' g', R.rely i s g s' g' → R.inv s' g' → R.Safe i (f (s'.get k)) s' g') :
    R.Safe i (ask (.get k) >>= f) s g := by
  intro s' g' hr hinv
  refine ⟨trivial, ?_⟩
  intro r s'' hd _ _
  rcases does_iff.mp hd with ⟨err, hr', hs⟩ | ⟨hr', hs⟩
  · simp only at hr' hs
    subst hr' hs
    exact Safe.err err
  · simp only at hr' hs
    subst hr' hs
    exact h s'' g' hr hinv

/-- The rule for scans. Source: none: infrastructure. Kind: L -/
theorem Safe.scan {p : κ → Bool} {f : List (κ × ν) → Prog (iface T ε) ε β}
    (h : ∀ s' g', R.rely i s g s' g' → R.inv s' g' → R.Safe i (f (s'.scan p)) s' g') :
    R.Safe i (ask (.scan p) >>= f) s g := by
  intro s' g' hr hinv
  refine ⟨trivial, ?_⟩
  intro r s'' hd _ _
  rcases does_iff.mp hd with ⟨err, hr', hs⟩ | ⟨hr', hs⟩
  · simp only at hr' hs
    subst hr' hs
    exact Safe.err err
  · simp only at hr' hs
    subst hr' hs
    exact h s'' g' hr hinv

/-- The rule for transactions. Source: none: infrastructure. Kind: L -/
theorem Safe.txn {t : T.Name} {f : T.Resp t → Prog (iface T ε) ε β}
    (h : ∀ s' g', R.rely i s g s' g' → R.inv s' g' → R.pre i t s' g' ∧
      (R.assume i t s' → R.inv (atomically (T.body t) s').2
        (R.upd g' i t (atomically (T.body t) s').1) →
        R.Safe i (f (atomically (T.body t) s').1) (atomically (T.body t) s').2
          (R.upd g' i t (atomically (T.body t) s').1))) :
    R.Safe i (ask (.txn t) >>= f) s g := by
  intro s' g' hr hinv
  obtain ⟨hpre, hf⟩ := h s' g' hr hinv
  refine ⟨hpre, ?_⟩
  intro r s'' hd ha hinv'
  rcases does_iff.mp hd with ⟨err, hr', hs⟩ | ⟨hr', hs⟩
  · simp only at hr' hs
    subst hr' hs
    exact Safe.err err
  · simp only at hr' hs
    subst hr' hs
    exact hf ha hinv'

/-- A program whose transactions are justified by the invariant alone is safe.
Source: none: infrastructure. Kind: L -/
theorem Safe.of_issues {p : Prog (iface T ε) ε β}
    (h : p.Issues (machine T ε ι) i fun o => ∀ s g, R.inv s g → R.before i o s g)
    (s : KV κ ν) (g : γ) : R.Safe i p s g := by
  induction p generalizing s g with
  | ret b => exact Safe.ret b
  | err e => exact Safe.err e
  | call o k ih =>
      intro s' g' _ hinv
      exact ⟨h.1 s' g' hinv, fun r s'' hd _ _ => ih r (h.2 r s' s'' hd) _ _⟩

/-- A safe program stays safe whatever the others do. Source: none: infrastructure. Kind: L -/
theorem Safe.mono {p : Prog (iface T ε) ε β} (h : R.Safe i p s g) {s' : KV κ ν} {g' : γ}
    (hr : R.rely i s g s' g') : R.Safe i p s' g' :=
  Prog.Safe.mono (D := R.discipline ε) h hr

variable [DecidableEq ι] {α : ι → Type} {c d : Config (iface T ε) ε (KV κ ν) α}
  {tr : List (Event (iface T ε) ι (KV κ ν))}

/-- **The agreement holds along every run.** Source: none: infrastructure. Kind: P -/
theorem run (h : Run (machine T ε ι) c tr d) (hinv : R.inv c.shared g)
    (hsafe : ∀ i, R.Safe i (c.progs i) c.shared g) (hass : ∀ e ∈ tr, R.assumed e) :
    R.inv d.shared (tr.foldl R.extend g) :=
  (h.sound (R.discipline ε) (fun _ _ _ _ => True) hinv hsafe hass).1

/-- Every transaction of a run took effect under the agreement.
Source: none: infrastructure. Kind: P -/
theorem run_event (h : Run (machine T ε ι) c tr d) (hinv : R.inv c.shared g)
    (hsafe : ∀ i, R.Safe i (c.progs i) c.shared g) (hass : ∀ e ∈ tr, R.assumed e) :
    ∀ e ∈ tr, (machine T ε ι).Does e ∧
      ∃ g', R.inv e.pre g' ∧ R.before e.who e.op e.pre g' ∧ R.inv e.post (R.extend g' e) := by
  intro e he
  obtain ⟨hd, -, h'⟩ := h.sound_event (R.discipline ε) (fun _ _ _ _ => True) hinv hsafe hass e he
  exact ⟨hd, h'⟩

end Rules

end Store

end Rollout.Lib
