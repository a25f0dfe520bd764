import Rollout.Lib.Accord

/-!
# A component's programs inside a larger system

* `Iface.Embedding I J` — the operations of `I` are operations of `J`, with the same answers;
  `Prog.embed` runs a program of the component in the system, and `Issues.embed` carries over what
  it may issue.
* `Prog.attempt` — a program whose failure is a result.
-/

set_option linter.unusedSectionVars false

namespace Rollout.Lib

/-- The operations of one interface among those of another. Source: none: infrastructure. Kind: D -/
structure Iface.Embedding (I J : Iface) where
  /-- The operation it is. -/
  op : I.Op → J.Op
  /-- Its answer. -/
  resp : (o : I.Op) → J.Resp (op o) → I.Resp o

namespace Prog

variable {I J : Iface} {ε α β : Type}

/-- A program of the component, in the system. Source: none: infrastructure. Kind: D -/
def embed (E : Iface.Embedding I J) : Prog I ε α → Prog J ε α
  | ret a => ret a
  | err e => err e
  | call o k => call (E.op o) fun r => (k (E.resp o r)).embed E

/-- Sequencing is kept. Source: none: infrastructure. Kind: L -/
theorem embed_bind (E : Iface.Embedding I J) (p : Prog I ε α) (f : α → Prog I ε β) :
    (p >>= f).embed E = p.embed E >>= fun a => (f a).embed E := by
  induction p with
  | ret a => rfl
  | err e => rfl
  | call o k ih => exact congrArg (call (E.op o)) (funext fun r => ih (E.resp o r))

/-- A program whose failure is a result. Source: none: infrastructure. Kind: D -/
def attempt : Prog I ε α → Prog I ε (Except ε α)
  | ret a => ret (.ok a)
  | err e => ret (.error e)
  | call o k => call o fun r => (k r).attempt

variable {ι σ τ : Type} {M : Machine I ι σ} {N : Machine J ι τ} {i : ι}

/-- What the component may issue, it may issue in the system, when the system answers nothing that
the component's own machine never answers. Source: none: infrastructure. Kind: L -/
theorem Issues.embed {E : Iface.Embedding I J} {φ : I.Op → Prop} {ψ : J.Op → Prop}
    (hφ : ∀ o, φ o → ψ (E.op o))
    (hdoes : ∀ o r s s', N.Does ⟨i, E.op o, r, s, s'⟩ →
      ∃ t t', M.Does ⟨i, o, E.resp o r, t, t'⟩) {p : Prog I ε α} (h : p.Issues M i φ) : (p.embed E).Issues N i ψ := by
  induction p with
  | ret a => trivial
  | err e => trivial
  | call o k ih =>
      refine ⟨hφ o h.1, fun r s s' hd => ?_⟩
      obtain ⟨t, t', hd'⟩ := hdoes o r s s' hd
      exact ih _ (h.2 _ t t' hd')

theorem Issues.attempt {φ : I.Op → Prop} {p : Prog I ε α} (h : p.Issues M i φ) :
    p.attempt.Issues M i φ := by
  induction p with
  | ret a => trivial
  | err e => trivial
  | call o k ih => exact ⟨h.1, fun r s s' hd => ih r (h.2 r s s' hd)⟩

end Prog

/-- A program whose operations the invariant alone justifies keeps to the agreement.
Source: none: infrastructure. Kind: L -/
theorem Accord.safe_of_issues {I : Iface} {ε σ ι γ β : Type} {M : Machine I ι σ} {A : Accord M γ}
    {i : ι} {p : Prog I ε β} (h : p.Issues M i fun o => ∀ s g, A.inv s g → A.pre i o s g) (s : σ)
    (g : γ) : A.Safe i (fun _ _ _ => True) p s g := by
  induction p generalizing s g with
  | ret b => exact Accord.safe_ret fun _ _ _ _ => trivial
  | err e => exact Accord.safe_err fun _ _ _ _ => trivial
  | call o k ih =>
      apply Accord.safe_call
      intro s' g' _ hinv
      exact ⟨h.1 s' g' hinv, fun r s'' hd _ _ => ih r (h.2 r s' s'' hd) _ _⟩

end Rollout.Lib
