import Rollout.Lib.RelyGuarantee

/-!
# Services whose operations may fail

* `Requests` — the operations of a service and what each answers when it does not fail; a program
  issues one with `ask`, and the failure of an operation ends the program.
* `Service R ι σ` — the effect of an operation on the shared state. It is partial (an operation
  without an effect in a state waits there), the environment decides what the operation leaves
  open, and a failed operation leaves behind what `fail` says.
* `Service.does_iff` — all an event of a service can be; `exec_ask`, `issues_ask` and `Safe.ask` are
  the rules for a program that starts with one operation.
-/

set_option linter.unusedSectionVars false

namespace Rollout.Lib

/-- The operations of a service. Source: none: infrastructure. Kind: D -/
structure Requests where
  /-- The operations. -/
  Op : Type
  /-- What an operation answers when it does not fail. -/
  Out : Op → Type

/-- The interface to a service with failures `ε`. Source: none: infrastructure. Kind: D -/
@[reducible] def Requests.iface (R : Requests) (ε : Type) : Iface where
  Op := R.Op
  Resp o := Except ε (R.Out o)

/-- Issue an operation; its failure ends the program. Source: none: infrastructure. Kind: D -/
def ask {R : Requests} {ε : Type} (o : R.Op) : Prog (R.iface ε) ε (R.Out o) :=
  .call o fun r => match r with
    | .ok a => .ret a
    | .error e => .err e

/-- What the operations do. Source: none: infrastructure. Kind: D -/
structure Service (R : Requests) (ι σ : Type) where
  /-- What the environment decides about an operation that does not fail. -/
  Choice : Type
  /-- The answer and the effect of an operation; `none` when it has to wait. -/
  perform : Choice → ι → (o : R.Op) → σ → Option (R.Out o × σ)
  /-- What a failed operation of a process leaves. -/
  fail : ι → σ → σ
  /-- What happens without any process. -/
  Tick : Type
  /-- The effect of a tick. -/
  tick : Tick → σ → σ

namespace Service

variable {R : Requests} {ε ι σ : Type}

/-- The machine of a service: an operation fails or takes effect.
Source: none: infrastructure. Kind: D -/
def machine (S : Service R ι σ) (ε : Type) : Machine (R.iface ε) ι σ where
  Choice := Except ε S.Choice
  exec ch i o s :=
    match ch with
    | .error e => some (.error e, S.fail i s)
    | .ok ch => (S.perform ch i o s).map fun x => (.ok x.1, x.2)
  Tick := S.Tick
  tick := S.tick

variable {S : Service R ι σ}

instance [IsEmpty S.Tick] : IsEmpty (S.machine ε).Tick := inferInstanceAs (IsEmpty S.Tick)

/-- **All an event of a service can be.** Source: none: infrastructure. Kind: L -/
theorem does_iff {i : ι} {o : R.Op} {r : Except ε (R.Out o)} {s s' : σ} :
    (S.machine ε).Does ⟨i, o, r, s, s'⟩ ↔
      (∃ err, r = .error err ∧ s' = S.fail i s) ∨
        ∃ ch a, S.perform ch i o s = some (a, s') ∧ r = .ok a := by
  constructor
  · rintro ⟨ch, h⟩
    cases ch with
    | error err =>
        obtain ⟨hr, hs⟩ := Prod.mk.inj (Option.some.inj h)
        exact .inl ⟨err, hr.symm, hs.symm⟩
    | ok ch =>
        have h : (S.perform ch i o s).map (fun x => (Except.ok x.1, x.2)) = some (r, s') := h
        obtain ⟨⟨a, t⟩, hperf, hres⟩ := Option.map_eq_some_iff.mp h
        obtain ⟨rfl, rfl⟩ := Prod.mk.inj hres
        exact .inr ⟨ch, a, hperf, rfl⟩
  · rintro (⟨err, rfl, rfl⟩ | ⟨ch, a, hperf, rfl⟩)
    · exact ⟨.error err, rfl⟩
    · refine ⟨.ok ch, ?_⟩
      show (S.perform ch i o s).map _ = _
      rw [hperf]
      rfl

variable {β : Type} {i : ι} {o : R.Op} {f : R.Out o → Prog (R.iface ε) ε β}

/-- The rule for one operation. Source: none: infrastructure. Kind: L -/
theorem issues_ask {φ : R.Op → Prop} (ho : φ o)
    (hf : ∀ ch s a s', S.perform ch i o s = some (a, s') → (f a).Issues (S.machine ε) i φ) :
    (ask o >>= f).Issues (S.machine ε) i φ := by
  refine ⟨ho, ?_⟩
  intro r s s' hd
  rcases does_iff.mp hd with ⟨err, rfl, -⟩ | ⟨ch, a, hperf, rfl⟩
  · trivial
  · exact hf ch s a s' hperf

/-- A program that starts with an operation, seen from its own events: nothing yet, the failed
operation alone, or the operation and then the rest. Source: none: infrastructure. Kind: L -/
theorem exec_ask {es : List (Event (R.iface ε) ι σ)} {q : Prog (R.iface ε) ε β}
    (h : Prog.Exec (S.machine ε) i (ask o >>= f) es q) :
    (es = [] ∧ q.result? = none) ∨
      (∃ err s, es = [⟨i, o, .error err, s, S.fail i s⟩] ∧ q = .err err) ∨
      ∃ ch a s s' es', es = ⟨i, o, .ok a, s, s'⟩ :: es' ∧
        S.perform ch i o s = some (a, s') ∧ Prog.Exec (S.machine ε) i (f a) es' q := by
  rcases Prog.Exec.of_call h with ⟨rfl, rfl⟩ | ⟨r, s, s', es', rfl, hd, h'⟩
  · exact .inl ⟨rfl, rfl⟩
  · rcases does_iff.mp hd with ⟨err, rfl, rfl⟩ | ⟨ch, a, hperf, rfl⟩
    · obtain ⟨rfl, rfl⟩ := Prog.Exec.of_err h'
      exact .inr (.inl ⟨err, s, rfl, rfl⟩)
    · exact .inr (.inr ⟨ch, a, s, s', es', rfl, hperf, h'⟩)

/-- The same for a program that ended with a result. Source: none: infrastructure. Kind: L -/
theorem exec_ask_ret {es : List (Event (R.iface ε) ι σ)} {b : β}
    (h : Prog.Exec (S.machine ε) i (ask o >>= f) es (.ret b)) :
    ∃ ch a s s' es', es = ⟨i, o, .ok a, s, s'⟩ :: es' ∧
      S.perform ch i o s = some (a, s') ∧ Prog.Exec (S.machine ε) i (f a) es' (.ret b) := by
  rcases exec_ask h with ⟨-, hq⟩ | ⟨err, s, -, hq⟩ | hrest
  · cases hq
  · cases hq
  · exact hrest

/-- **The rule for one operation under a discipline.** The program goes on only when the operation
took effect. Source: none: infrastructure. Kind: L -/
theorem safe_ask {γ : Type} {D : Discipline (S.machine ε) γ} {s : σ} {g : γ}
    {post : Except ε β → σ → γ → Prop} (herr : ∀ e s g, post (.error e) s g)
    (h : ∀ s' g', D.rely i s g s' g' → D.inv s' g' → D.pre i o s' g' ∧
      ∀ ch a s'', S.perform ch i o s' = some (a, s'') → D.assume ⟨i, o, .ok a, s', s''⟩ →
        D.inv s'' (D.upd g' ⟨i, o, .ok a, s', s''⟩) →
        (f a).Safe D i post s'' (D.upd g' ⟨i, o, .ok a, s', s''⟩)) :
    (ask o >>= f).Safe D i post s g := by
  intro s' g' hr hinv
  obtain ⟨hpre, hf⟩ := h s' g' hr hinv
  refine ⟨hpre, ?_⟩
  intro r s'' hd ha hinv'
  rcases does_iff.mp hd with ⟨err, rfl, -⟩ | ⟨ch, a, hperf, rfl⟩
  · exact fun s g _ _ => herr err s g
  · exact hf ch a s'' hperf ha hinv'

/-- One more operation of one process. Source: none: infrastructure. Kind: L -/
theorem run_ask [DecidableEq ι] {α : ι → Type} {c d : Config (R.iface ε) ε σ α}
    {tr : List (Event (R.iface ε) ι σ)} (h : Run (S.machine ε) c tr d) {i : ι} {o : R.Op}
    {f : R.Out o → Prog (R.iface ε) ε (α i)} (hp : d.progs i = ask o >>= f) (ch : S.Choice)
    {a : R.Out o} {s' : σ} (hperf : S.perform ch i o d.shared = some (a, s')) :
    ∃ tr' d', Run (S.machine ε) c tr' d' ∧ d'.shared = s' ∧ d'.progs i = f a ∧
      ∀ j, j ≠ i → d'.progs j = d.progs j := by
  refine ⟨_, _, h.step hp (does_iff.mpr (.inr ⟨ch, a, hperf, rfl⟩)), rfl, ?_, ?_⟩
  · exact Function.update_self ..
  · intro j hj
    exact Function.update_of_ne hj ..

/-! ## Rely–guarantee over a service -/

/-- **An agreement between the processes of a service.** Source: none: infrastructure. Kind: D -/
structure Rules (S : Service R ι σ) (γ : Type) where
  /-- The history after an operation with its answer. -/
  upd : γ → ι → (o : R.Op) → R.Out o → γ
  /-- The invariant. -/
  inv : σ → γ → Prop
  /-- What a process expects of the others. -/
  rely : ι → σ → γ → σ → γ → Prop
  /-- What the issuer of an operation knows when it takes effect. -/
  pre : ι → R.Op → σ → γ → Prop
  /-- What is assumed of the operations of a run that take effect. -/
  assume : R.Op → Prop
  rely_refl : ∀ i s g, rely i s g s g
  rely_trans : ∀ i s g s' g' s'' g'', rely i s g s' g' → rely i s' g' s'' g'' →
    rely i s g s'' g''
  step : ∀ i o ch a s s' g, S.perform ch i o s = some (a, s') → assume o → inv s g →
    pre i o s g → inv s' (upd g i o a) ∧ ∀ j, j ≠ i → rely j s g s' (upd g i o a)
  fail : ∀ i s g, inv s g → inv (S.fail i s) g ∧ ∀ j, j ≠ i → rely j s g (S.fail i s) g
  tick : ∀ t s g, inv s g → inv (S.tick t s) g ∧ ∀ j, rely j s g (S.tick t s) g

namespace Rules

variable {γ : Type} (A : Rules S γ)

/-- The history after an event. Source: none: infrastructure. Kind: D -/
def extend (g : γ) (e : Event (R.iface ε) ι σ) : γ :=
  match e with
  | ⟨i, o, .ok a, _, _⟩ => A.upd g i o a
  | ⟨_, _, .error _, _, _⟩ => g

/-- What is assumed of an event. Source: none: infrastructure. Kind: D -/
def assumed (e : Event (R.iface ε) ι σ) : Prop :=
  match e with
  | ⟨_, o, .ok _, _, _⟩ => A.assume o
  | ⟨_, _, .error _, _, _⟩ => True

/-- The agreement as a discipline of the machine. Source: none: infrastructure. Kind: D -/
def discipline (ε : Type) : Discipline (S.machine ε) γ where
  upd := A.extend
  inv := A.inv
  rely := A.rely
  pre := A.pre
  assume := A.assumed
  rely_refl := A.rely_refl
  rely_trans := A.rely_trans
  step := by
    rintro ⟨i, o, r, s, s'⟩ g hd ha hi hp
    rcases does_iff.mp hd with ⟨err, rfl, rfl⟩ | ⟨ch, a, hperf, rfl⟩
    · exact A.fail i s g hi
    · exact A.step i o ch a s s' g hperf ha hi hp
  tick := A.tick

variable {A} {g : γ} {s : σ} {post : Except ε β → σ → γ → Prop}

/-- **The rule for one operation.** Source: none: infrastructure. Kind: L -/
theorem safe_ask (herr : ∀ e s g, post (.error e) s g)
    (h : ∀ s' g', A.rely i s g s' g' → A.inv s' g' → A.pre i o s' g' ∧
      ∀ ch a s'', S.perform ch i o s' = some (a, s'') → A.assume o →
        A.inv s'' (A.upd g' i o a) → (f a).Safe (A.discipline ε) i post s'' (A.upd g' i o a)) :
    (ask o >>= f).Safe (A.discipline ε) i post s g :=
  Service.safe_ask herr h

/-- A result that is at hand. Source: none: infrastructure. Kind: L -/
theorem safe_ret {b : β}
    (h : ∀ s' g', A.rely i s g s' g' → A.inv s' g' → post (.ok b) s' g') :
    (Prog.ret b : Prog (R.iface ε) ε β).Safe (A.discipline ε) i post s g := h

/-- A failure that is at hand. Source: none: infrastructure. Kind: L -/
theorem safe_err (herr : ∀ e s g, post (.error e) s g) (e : ε) :
    (Prog.err e : Prog (R.iface ε) ε β).Safe (A.discipline ε) i post s g :=
  fun s g _ _ => herr e s g

end Rules

end Service

end Rollout.Lib
