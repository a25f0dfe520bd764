import Rollout.Lib.Interleave

/-!
# A program against an arbitrary environment

* `Prog.Dialogue p ds` — an exchange the program can have with an environment that answers its
  operations as it likes, cut off anywhere.
* `Prog.Guarded φ post h p` — after the history `h`, each operation the program issues is one `φ`
  allows after what was said before it, and when it returns, `post` holds of the whole history.
  `Prog.Guarded.sound` reads it off every dialogue; `Prog.Guarded.bind` is the rule for sequencing.
-/

set_option linter.unusedSectionVars false

namespace Rollout.Lib

/-- An operation and its answer. Source: none: infrastructure. Kind: D -/
structure Said (I : Iface) where
  /-- The operation. -/
  op : I.Op
  /-- The answer. -/
  resp : I.Resp op

namespace Prog

variable {I : Iface} {ε α β : Type}

/-- What the program and an environment say to each other.
Source: none: infrastructure. Kind: D -/
inductive Dialogue : Prog I ε α → List (Said I) → Prop
  | nil (p : Prog I ε α) : Dialogue p []
  | cons {o : I.Op} {k : I.Resp o → Prog I ε α} {r : I.Resp o} {ds : List (Said I)}
      (h : Dialogue (k r) ds) : Dialogue (.call o k) (⟨o, r⟩ :: ds)

/-- Every operation is allowed after what was said before it.
Source: none: infrastructure. Kind: D -/
def Guarded (φ : List (Said I) → I.Op → Prop) (post : List (Said I) → α → Prop) :
    List (Said I) → Prog I ε α → Prop
  | h, .ret a => post h a
  | _, .err _ => True
  | h, .call o k => φ h o ∧ ∀ r, Guarded φ post (h ++ [⟨o, r⟩]) (k r)

variable {φ : List (Said I) → I.Op → Prop}

/-- Whether the program issues these operations when it gets these answers.
Source: none: infrastructure. Kind: D -/
def follows [DecidableEq I.Op] : Prog I ε α → List (Said I) → Bool
  | _, [] => true
  | .call o k, d :: ds => if h : d.op = o then (k (h ▸ d.resp)).follows ds else false
  | _, _ :: _ => false

theorem Dialogue.of_follows [DecidableEq I.Op] {p : Prog I ε α} {ds : List (Said I)}
    (h : p.follows ds = true) : p.Dialogue ds := by
  induction ds generalizing p with
  | nil => exact .nil p
  | cons d ds ih =>
      cases p with
      | ret a => exact absurd h Bool.false_ne_true
      | err e => exact absurd h Bool.false_ne_true
      | call o k =>
          obtain ⟨op, r⟩ := d
          rw [follows] at h
          split at h
          · next hop =>
            obtain rfl : op = o := hop
            exact .cons (ih h)
          · exact absurd h Bool.false_ne_true

/-- **In every dialogue every operation is allowed.** Source: none: infrastructure. Kind: L -/
theorem Guarded.sound {post : List (Said I) → α → Prop} {p : Prog I ε α} {h : List (Said I)}
    (hp : Guarded φ post h p) {ds : List (Said I)} (hd : p.Dialogue ds) {before after : List (Said I)}
    {e : Said I} (hds : ds = before ++ e :: after) : φ (h ++ before) e.op := by
  induction hd generalizing h before with
  | nil p => simp at hds
  | @cons o k r ds hd ih =>
      cases before with
      | nil =>
          rw [List.nil_append, List.cons.injEq] at hds
          rw [← hds.1, List.append_nil]
          exact hp.1
      | cons d before =>
          rw [List.cons_append, List.cons.injEq] at hds
          have hnext := ih (hp.2 r) hds.2
          rw [List.append_assoc, hds.1] at hnext
          exact hnext

theorem Guarded.bind {mid : List (Said I) → α → Prop} {post : List (Said I) → β → Prop}
    {p : Prog I ε α} {f : α → Prog I ε β} {h : List (Said I)} (hp : Guarded φ mid h p)
    (hf : ∀ h' a, mid h' a → Guarded φ post h' (f a)) : Guarded φ post h (p >>= f) := by
  induction p generalizing h with
  | ret a => exact hf h a hp
  | err e => trivial
  | call o k ih => exact ⟨hp.1, fun r => ih r (hp.2 r)⟩

theorem Guarded.ofExcept_bind {post : List (Said I) → β → Prop} {r : Except ε α}
    {f : α → Prog I ε β} {h : List (Said I)} (hr : ∀ a, r = .ok a → Guarded φ post h (f a)) :
    Guarded φ post h (Prog.ofExcept r >>= f) := by
  cases r with
  | ok a => exact hr a rfl
  | error e => trivial

theorem Guarded.op_bind {post : List (Said I) → β → Prop} {o : I.Op} {f : I.Resp o → Prog I ε β}
    {h : List (Said I)} (ho : φ h o) (hf : ∀ r, Guarded φ post (h ++ [⟨o, r⟩]) (f r)) :
    Guarded φ post h (Prog.op o >>= f) :=
  ⟨ho, hf⟩

end Prog

end Rollout.Lib
