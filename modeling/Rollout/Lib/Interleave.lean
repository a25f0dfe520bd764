import Mathlib.Logic.Function.Basic
import Mathlib.Data.List.Basic

/-!
# Interleaved programs over a shared state

* `Iface` — the operations a program may issue, each with its response type.
* `Prog I ε α` — a sequential program: it returns, fails with an error, or issues one operation and
  continues with the response. The monad of programs is the notation in which code is written.
* `Machine I ι σ` — what an operation issued by the process `i : ι` does to the shared state `σ`.
  `exec` is partial: an operation that answers `none` is blocked in that state. What the program
  does not decide (an arbitrary clock value, an outcome of an external call) is the `Choice`; what
  happens without any process is a `Tick`.
* `Run M c tr c'` — any finite interleaving of the processes of `c`, with the trace `tr` of its
  operations. A process that is never scheduled again has been cut off, so runs also cover every
  crash of a subset of the processes between two operations.
* `Prog.Exec M i p es q` — the same seen from one process: its own operations `es`, each in a state
  the others were free to choose; `Run.exec` projects a run to it.
* `Config.play` — a schedule executed, for closed runs.
-/

set_option linter.unusedSectionVars false

namespace Rollout.Lib

/-! ## Programs -/

/-- The operations a program may issue and what each answers.
Source: none: infrastructure. Kind: D -/
structure Iface where
  /-- The operations. -/
  Op : Type
  /-- The response to an operation. -/
  Resp : Op → Type

/-- A sequential program over an interface.
Source: none: infrastructure. Kind: D -/
inductive Prog (I : Iface) (ε α : Type) : Type
  | ret (a : α)
  | err (e : ε)
  | call (o : I.Op) (k : I.Resp o → Prog I ε α)

namespace Prog

variable {I : Iface} {ε α β : Type}

/-- Run `p`, then `f` on its result; an error ends the program.
Source: none: infrastructure. Kind: D -/
def bind : Prog I ε α → (α → Prog I ε β) → Prog I ε β
  | ret a, f => f a
  | err e, _ => err e
  | call o k, f => call o fun r => (k r).bind f

instance : Monad (Prog I ε) where
  pure := ret
  bind := bind

/-- The program that issues one operation. Source: none: infrastructure. Kind: D -/
def op (o : I.Op) : Prog I ε (I.Resp o) := call o ret

/-- A result that is at hand. Source: none: infrastructure. Kind: D -/
def ofExcept : Except ε α → Prog I ε α
  | .ok a => ret a
  | .error e => err e

/-- The result of a finished program. Source: none: infrastructure. Kind: D -/
def result? : Prog I ε α → Option (Except ε α)
  | ret a => some (.ok a)
  | err e => some (.error e)
  | call _ _ => none

theorem eq_ret_of_result? {p : Prog I ε α} {a : α} (h : p.result? = some (.ok a)) : p = ret a := by
  cases p with
  | ret b => exact congrArg ret (Except.ok.inj (Option.some.inj h))
  | err e => cases h
  | call o k => cases h

theorem eq_err_of_result? {p : Prog I ε α} {e : ε} (h : p.result? = some (.error e)) : p = err e := by
  cases p with
  | ret b => cases h
  | err e' => exact congrArg err (Except.error.inj (Option.some.inj h))
  | call o k => cases h

@[simp] theorem pure_eq (a : α) : (pure a : Prog I ε α) = ret a := rfl

@[simp] theorem ret_bind (a : α) (f : α → Prog I ε β) : ret a >>= f = f a := rfl

@[simp] theorem err_bind (e : ε) (f : α → Prog I ε β) : err e >>= f = err e := rfl

@[simp] theorem call_bind (o : I.Op) (k : I.Resp o → Prog I ε α) (f : α → Prog I ε β) :
    call o k >>= f = call o fun r => k r >>= f := rfl

@[simp] theorem map_ret (f : α → β) (a : α) : f <$> (ret a : Prog I ε α) = ret (f a) := rfl

@[simp] theorem map_err (f : α → β) (e : ε) : f <$> (err e : Prog I ε α) = err e := rfl

/-- A program whose result is returned. Source: none: infrastructure. Kind: L -/
theorem bind_ret (p : Prog I ε α) : p >>= ret = p := by
  induction p with
  | ret a => rfl
  | err e => rfl
  | call o k ih =>
      rw [call_bind]
      congr 1
      funext r
      exact ih r

theorem bind_assoc {δ : Type} (p : Prog I ε α) (f : α → Prog I ε β) (g : β → Prog I ε δ) :
    p >>= f >>= g = p >>= fun a => f a >>= g := by
  induction p with
  | ret a => rfl
  | err e => rfl
  | call o k ih =>
      rw [call_bind, call_bind, call_bind]
      congr 1
      funext r
      exact ih r

@[simp] theorem ofExcept_ok (a : α) : (ofExcept (.ok a) : Prog I ε α) = ret a := rfl

@[simp] theorem ofExcept_error (e : ε) : (ofExcept (.error e) : Prog I ε α) = err e := rfl

@[simp] theorem op_bind (o : I.Op) (f : I.Resp o → Prog I ε β) : op o >>= f = call o f := rfl

end Prog

/-! ## Machines and configurations -/

/-- One operation issued in a run: by whom, what it answered, the state before and after.
Source: none: infrastructure. Kind: D -/
structure Event (I : Iface) (ι σ : Type) where
  /-- The process. -/
  who : ι
  /-- The operation. -/
  op : I.Op
  /-- Its response. -/
  resp : I.Resp op
  /-- The shared state it was issued in. -/
  pre : σ
  /-- The shared state it left. -/
  post : σ

/-- What the operations of an interface do to a shared state.
Source: none: infrastructure. Kind: D -/
structure Machine (I : Iface) (ι σ : Type) where
  /-- What the environment decides about one operation. -/
  Choice : Type
  /-- The effect of an operation; `none` when it cannot proceed. -/
  exec : Choice → ι → (o : I.Op) → σ → Option (I.Resp o × σ)
  /-- What happens without any process. -/
  Tick : Type
  /-- The effect of a tick. -/
  tick : Tick → σ → σ

/-- The event is one the machine can perform. Source: none: infrastructure. Kind: D -/
def Machine.Does {I : Iface} {ι σ : Type} (M : Machine I ι σ) (e : Event I ι σ) : Prop :=
  ∃ ch, M.exec ch e.who e.op e.pre = some (e.resp, e.post)

/-- The shared state and what every process still has to run; process `i` returns an `α i`.
Source: none: infrastructure. Kind: D -/
structure Config (I : Iface) (ε σ : Type) {ι : Type} (α : ι → Type) where
  /-- The shared state. -/
  shared : σ
  /-- The rest of each process. -/
  progs : (i : ι) → Prog I ε (α i)

variable {I : Iface} {ε σ ι : Type} {α : ι → Type}

/-! ## One process -/

/-- Every operation the program can issue satisfies `φ`, whatever the machine answers it.
Source: none: infrastructure. Kind: D -/
def Prog.Issues (M : Machine I ι σ) (i : ι) (φ : I.Op → Prop) {β : Type} : Prog I ε β → Prop
  | .ret _ => True
  | .err _ => True
  | .call o k => φ o ∧ ∀ r s s', M.Does ⟨i, o, r, s, s'⟩ → (k r).Issues M i φ

/-- A program that issues less. Source: none: infrastructure. Kind: L -/
theorem Prog.Issues.mono {M : Machine I ι σ} {i : ι} {φ ψ : I.Op → Prop} {β : Type}
    {p : Prog I ε β} (h : p.Issues M i φ) (hφ : ∀ o, φ o → ψ o) : p.Issues M i ψ := by
  induction p with
  | ret b => trivial
  | err e => trivial
  | call o k ih => exact ⟨hφ o h.1, fun r s s' hd => ih r (h.2 r s s' hd)⟩

theorem Prog.Issues.ofExcept {M : Machine I ι σ} {i : ι} {φ : I.Op → Prop} {β : Type}
    (r : Except ε β) : (Prog.ofExcept r : Prog I ε β).Issues M i φ := by
  cases r <;> trivial

/-- The rule for sequencing. Source: none: infrastructure. Kind: L -/
theorem Prog.Issues.bind {M : Machine I ι σ} {i : ι} {φ : I.Op → Prop} {β δ : Type}
    {p : Prog I ε β} {f : β → Prog I ε δ} (hp : p.Issues M i φ) (hf : ∀ b, (f b).Issues M i φ) :
    (p >>= f).Issues M i φ := by
  induction p with
  | ret b => exact hf b
  | err e => trivial
  | call o k ih => exact ⟨hp.1, fun r s s' hd => ih r (hp.2 r s s' hd)⟩

/-- One process: from `p`, its own operations `es`, to the rest `q`. Between two operations the
shared state is arbitrary. Source: none: infrastructure. Kind: D -/
inductive Prog.Exec (M : Machine I ι σ) (i : ι) {β : Type} :
    Prog I ε β → List (Event I ι σ) → Prog I ε β → Prop
  | nil (p : Prog I ε β) : Exec M i p [] p
  | cons {o : I.Op} {k : I.Resp o → Prog I ε β} {r : I.Resp o} {s s' : σ}
      {es : List (Event I ι σ)} {q : Prog I ε β} (hd : M.Does ⟨i, o, r, s, s'⟩)
      (h : Exec M i (k r) es q) : Exec M i (.call o k) (⟨i, o, r, s, s'⟩ :: es) q

namespace Prog.Exec

variable {M : Machine I ι σ} {i : ι} {β δ : Type}

/-- One more operation at the end. Source: none: infrastructure. Kind: L -/
theorem snoc {p : Prog I ε β} {es : List (Event I ι σ)} {o : I.Op} {k : I.Resp o → Prog I ε β}
    (h : Exec M i p es (.call o k)) {r : I.Resp o} {s s' : σ} (hd : M.Does ⟨i, o, r, s, s'⟩) :
    Exec M i p (es ++ [⟨i, o, r, s, s'⟩]) (k r) := by
  generalize hq : Prog.call o k = q at h
  induction h with
  | nil p =>
      subst hq
      exact .cons hd (.nil _)
  | cons hd' _ ih => exact .cons hd' (ih hq)

/-- The operations of a process are its own. Source: none: infrastructure. Kind: L -/
theorem who {p q : Prog I ε β} {es : List (Event I ι σ)} (h : Exec M i p es q) :
    ∀ e ∈ es, e.who = i := by
  induction h with
  | nil => simp
  | cons _ _ ih =>
      intro e he
      rcases List.mem_cons.mp he with rfl | he
      · rfl
      · exact ih e he

/-- A finished program issues nothing. Source: none: infrastructure. Kind: L -/
theorem of_ret {a : β} {es : List (Event I ι σ)} {q : Prog I ε β} (h : Exec M i (.ret a) es q) :
    es = [] ∧ q = .ret a := by
  cases h
  exact ⟨rfl, rfl⟩

/-- A failed program issues nothing. Source: none: infrastructure. Kind: L -/
theorem of_err {e : ε} {es : List (Event I ι σ)} {q : Prog I ε β} (h : Exec M i (.err e) es q) :
    es = [] ∧ q = .err e := by
  cases h
  exact ⟨rfl, rfl⟩

/-- The first operation of a program that has one and is no longer at its start.
Source: none: infrastructure. Kind: L -/
theorem of_call {o : I.Op} {k : I.Resp o → Prog I ε β} {es : List (Event I ι σ)}
    {q : Prog I ε β} (h : Exec M i (.call o k) es q) :
    (es = [] ∧ q = .call o k) ∨
      ∃ r s s' es', es = ⟨i, o, r, s, s'⟩ :: es' ∧ M.Does ⟨i, o, r, s, s'⟩ ∧
        Exec M i (k r) es' q := by
  cases h with
  | nil => exact .inl ⟨rfl, rfl⟩
  | cons hd h => exact .inr ⟨_, _, _, _, rfl, hd, h⟩

/-- **Sequencing**: the operations of `p >>= f` that ends with a result are those of `p` and then
those of `f` on its result. Source: none: infrastructure. Kind: L -/
theorem of_bind {p : Prog I ε β} {f : β → Prog I ε δ} {es : List (Event I ι σ)} {b : δ}
    (h : Exec M i (p >>= f) es (.ret b)) :
    ∃ a es₁ es₂, es = es₁ ++ es₂ ∧ Exec M i p es₁ (.ret a) ∧ Exec M i (f a) es₂ (.ret b) := by
  induction p generalizing es with
  | ret a => exact ⟨a, [], es, rfl, .nil _, h⟩
  | err e => exact absurd h.of_err.2 (by simp)
  | call o k ih =>
      rcases Exec.of_call h with ⟨-, hq⟩ | ⟨r, s, s', es', rfl, hd, h'⟩
      · simp at hq
      · obtain ⟨a, es₁, es₂, rfl, h₁, h₂⟩ := ih r h'
        exact ⟨a, _ :: es₁, es₂, rfl, .cons hd h₁, h₂⟩

/-- A program whose result is changed, seen from its own events. Source: none: infrastructure.
Kind: L -/
theorem of_map {p : Prog I ε β} {g : β → δ} {es : List (Event I ι σ)} {q : Prog I ε δ}
    (h : Exec M i (p >>= fun b => .ret (g b)) es q) :
    ∃ q', Exec M i p es q' ∧ q = q' >>= fun b => .ret (g b) := by
  induction p generalizing es with
  | ret b =>
      obtain ⟨rfl, rfl⟩ := of_ret h
      exact ⟨.ret b, .nil _, rfl⟩
  | err e =>
      obtain ⟨rfl, rfl⟩ := of_err h
      exact ⟨.err e, .nil _, rfl⟩
  | call o k ih =>
      rcases of_call h with ⟨rfl, rfl⟩ | ⟨r, s, s', es', rfl, hd, h'⟩
      · exact ⟨.call o k, .nil _, rfl⟩
      · obtain ⟨q', hq', rfl⟩ := ih r h'
        exact ⟨q', .cons hd hq', rfl⟩

/-- A program only issues what it may. Source: none: infrastructure. Kind: L -/
theorem issued {φ : I.Op → Prop} {p q : Prog I ε β} {es : List (Event I ι σ)}
    (h : Exec M i p es q) (hp : p.Issues M i φ) : ∀ e ∈ es, φ e.op := by
  induction h with
  | nil => simp
  | cons hd _ ih =>
      intro e he
      rcases List.mem_cons.mp he with rfl | he
      · exact hp.1
      · exact ih (hp.2 _ _ _ hd) e he

end Prog.Exec

/-! ## Runs -/

variable [DecidableEq ι]

/-- **Runs**: any finite interleaving of the processes, one operation at a time.
Source: none: infrastructure. Kind: D -/
inductive Run (M : Machine I ι σ) (c : Config I ε σ α) :
    List (Event I ι σ) → Config I ε σ α → Prop
  | refl : Run M c [] c
  | tick {tr : List (Event I ι σ)} {d : Config I ε σ α} (h : Run M c tr d) (t : M.Tick) :
      Run M c tr { d with shared := M.tick t d.shared }
  | step {tr : List (Event I ι σ)} {d : Config I ε σ α} {i : ι} {o : I.Op}
      {k : I.Resp o → Prog I ε (α i)} {r : I.Resp o} {s' : σ} (h : Run M c tr d)
      (hp : d.progs i = .call o k) (hd : M.Does ⟨i, o, r, d.shared, s'⟩) :
      Run M c (tr ++ [⟨i, o, r, d.shared, s'⟩]) ⟨s', Function.update d.progs i (k r)⟩

namespace Run

variable {M : Machine I ι σ} {c d e : Config I ε σ α} {tr tr' : List (Event I ι σ)}

/-- Runs compose. Source: none: infrastructure. Kind: L -/
theorem trans (h : Run M c tr d) (h' : Run M d tr' e) : Run M c (tr ++ tr') e := by
  induction h' with
  | refl => simpa using h
  | tick _ t ih => exact ih.tick t
  | step _ hp hd ih =>
      rw [← List.append_assoc]
      exact ih.step hp hd

/-- A run stood in the state an event of it was issued in. Source: none: infrastructure. Kind: L -/
theorem before (h : Run M c tr d) {tr₁ tr₂ : List (Event I ι σ)} {x : Event I ι σ}
    (htr : tr = tr₁ ++ x :: tr₂) : ∃ d₁, Run M c tr₁ d₁ ∧ d₁.shared = x.pre := by
  induction h generalizing tr₂ with
  | refl => simp at htr
  | tick _ _ ih => exact ih htr
  | @step tr d i o k r s' h _ _ ih =>
      rcases List.eq_nil_or_concat tr₂ with rfl | ⟨tr₃, y, rfl⟩
      · obtain ⟨rfl, heq⟩ := List.append_inj' htr rfl
        rw [← (List.cons.inj heq).1]
        exact ⟨d, h, rfl⟩
      · rw [List.concat_eq_append, ← List.cons_append, ← List.append_assoc] at htr
        exact ih (List.append_inj' htr rfl).1

/-- Every event of a run is one the machine can perform. Source: none: infrastructure. Kind: L -/
theorem does (h : Run M c tr d) : ∀ e ∈ tr, M.Does e := by
  induction h with
  | refl => simp
  | tick _ _ ih => exact ih
  | step _ _ hd ih =>
      intro e he
      rcases List.mem_append.mp he with he | he
      · exact ih e he
      · rw [List.mem_singleton.mp he]
        exact hd

/-- A preorder on states that every operation and every tick respects holds from the first to the
last state of a run. Source: none: infrastructure. Kind: L -/
theorem le_of_events {R : σ → σ → Prop} (hrefl : ∀ s, R s s)
    (htrans : ∀ {s t u}, R s t → R t u → R s u) (htick : ∀ t s, R s (M.tick t s))
    (h : Run M c tr d) (hev : ∀ e ∈ tr, R e.pre e.post) : R c.shared d.shared := by
  induction h with
  | refl => exact hrefl _
  | tick _ t ih => exact htrans (ih hev) (htick t _)
  | step _ _ _ ih =>
      have hpre := ih fun e he => hev e (List.mem_append_left _ he)
      exact htrans hpre (hev _ (List.mem_append_right _ (List.mem_singleton.mpr rfl)))

end Run

/-- The events of one process. Source: none: infrastructure. Kind: D -/
def own (i : ι) (tr : List (Event I ι σ)) : List (Event I ι σ) := tr.filter fun e => e.who = i

@[simp] theorem mem_own {i : ι} {tr : List (Event I ι σ)} {e : Event I ι σ} :
    e ∈ own i tr ↔ e ∈ tr ∧ e.who = i := by
  simp [own]

theorem own_split (tr₁ : List (Event I ι σ)) (e : Event I ι σ) (tr₂ : List (Event I ι σ)) :
    own e.who (tr₁ ++ e :: tr₂) = own e.who tr₁ ++ e :: own e.who tr₂ := by
  simp [own]

theorem own_filter_ne (i j : ι) (tr : List (Event I ι σ)) :
    own j (tr.filter fun e => e.who ≠ i) = if j = i then [] else own j tr := by
  unfold own
  rw [List.filter_filter]
  split
  · next h => simp [h]
  · next h =>
    refine List.filter_congr fun e _ => ?_
    by_cases hj : e.who = j
    · simp [hj, h]
    · simp [hj]

/-- What every process does no more often than another thing, all of them together do no more often.
The induction takes the events of one process away. Source: none: infrastructure. Kind: L -/
theorem countP_le_of_own {p q : Event I ι σ → Bool} {tr : List (Event I ι σ)}
    (h : ∀ i, (own i tr).countP p ≤ (own i tr).countP q) : tr.countP p ≤ tr.countP q := by
  induction hn : tr.length using Nat.strongRecOn generalizing tr with
  | _ n ih =>
      cases tr with
      | nil => exact Nat.le_refl _
      | cons e tr =>
          have hrest : ((e :: tr).filter fun x => x.who ≠ e.who).length < n := by
            rw [← hn, List.filter_cons_of_neg (by simp), List.length_cons]
            exact Nat.lt_succ_of_le (List.length_filter_le _ _)
          have hothers : ∀ j, (own j ((e :: tr).filter fun x => x.who ≠ e.who)).countP p ≤
              (own j ((e :: tr).filter fun x => x.who ≠ e.who)).countP q := by
            intro j
            rw [own_filter_ne]
            split
            · exact Nat.le_refl _
            · exact h j
          have hown := h e.who
          have hsplit : ∀ f : Event I ι σ → Bool, (e :: tr).countP f = (own e.who (e :: tr)).countP f +
              ((e :: tr).filter fun x => x.who ≠ e.who).countP f := by
            intro f
            rw [List.countP_eq_countP_filter_add (e :: tr) f fun x => decide (x.who = e.who)]
            simp [own]
          rw [hsplit p, hsplit q]
          exact Nat.add_le_add hown (ih _ hrest hothers rfl)

/-- **Projection**: a run, seen from one process. Source: none: infrastructure. Kind: L -/
theorem Run.exec {M : Machine I ι σ} {c d : Config I ε σ α} {tr : List (Event I ι σ)}
    (h : Run M c tr d) (i : ι) : Prog.Exec M i (c.progs i) (own i tr) (d.progs i) := by
  induction h with
  | refl => exact .nil _
  | tick _ _ ih => exact ih
  | @step tr d j o k r s' h hp hd ih =>
      by_cases hj : j = i
      · subst hj
        rw [hp] at ih
        simpa [own, Function.update_self] using ih.snoc hd
      · simpa [own, hj, Function.update_of_ne (Ne.symm hj)] using ih

/-- Every event of a run is one its process may issue. Source: none: infrastructure. Kind: L -/
theorem Run.issued {M : Machine I ι σ} {c d : Config I ε σ α} {tr : List (Event I ι σ)}
    (h : Run M c tr d) {φ : ι → I.Op → Prop} (hp : ∀ i, (c.progs i).Issues M i (φ i)) :
    ∀ e ∈ tr, φ e.who e.op := by
  intro e he
  exact (h.exec e.who).issued (hp e.who) e (mem_own.mpr ⟨he, rfl⟩)

/-- The states of a run. Source: none: infrastructure. Kind: D -/
def states (c : Config I ε σ α) (tr : List (Event I ι σ)) : List σ :=
  c.shared :: tr.map Event.post

theorem mem_states_last {M : Machine I ι σ} [IsEmpty M.Tick] {c d : Config I ε σ α}
    {tr : List (Event I ι σ)} (h : Run M c tr d) : d.shared ∈ states c tr := by
  cases h with
  | refl => exact List.mem_cons_self
  | tick _ t => exact isEmptyElim t
  | step _ _ _ => simp [states]

/-- A preorder that every event respects holds from any state of a run to the last one.
Source: none: infrastructure. Kind: L -/
theorem Run.le_last {M : Machine I ι σ} [IsEmpty M.Tick] {c d : Config I ε σ α}
    {tr : List (Event I ι σ)} (h : Run M c tr d) {R : σ → σ → Prop} (hrefl : ∀ s, R s s)
    (htrans : ∀ {s t u}, R s t → R t u → R s u) (hev : ∀ e ∈ tr, R e.pre e.post) :
    ∀ s ∈ states c tr, R s d.shared := by
  induction h with
  | refl =>
      intro s hs
      rw [states, List.map_nil, List.mem_singleton] at hs
      rw [hs]
      exact hrefl _
  | tick _ t => exact isEmptyElim t
  | @step tr d i o k r s' h hp hd ih =>
      intro s hs
      have hlast := hev ⟨i, o, r, d.shared, s'⟩ (List.mem_append_right _ (List.mem_singleton.mpr rfl))
      rw [states, List.map_append, ← List.cons_append, List.mem_append] at hs
      rcases hs with hs | hs
      · exact htrans (ih (fun e he => hev e (List.mem_append_left _ he)) s hs) hlast
      · rw [List.map_singleton, List.mem_singleton] at hs
        rw [hs]
        exact hrefl _

/-- **The states of a run are related pairwise exactly when its events relate the states around
them**, for a machine that does nothing by itself. Source: none: infrastructure. Kind: P -/
theorem Run.pairwise_iff {M : Machine I ι σ} [IsEmpty M.Tick] {c d : Config I ε σ α}
    {tr : List (Event I ι σ)} (h : Run M c tr d) {R : σ → σ → Prop} (hrefl : ∀ s, R s s)
    (htrans : ∀ {s t u}, R s t → R t u → R s u) :
    (states c tr).Pairwise R ↔ ∀ e ∈ tr, R e.pre e.post := by
  induction h with
  | refl => simp [states]
  | tick _ t => exact isEmptyElim t
  | @step tr d i o k r s' h hp hd ih =>
      rw [states, List.map_append, ← List.cons_append, List.pairwise_append]
      constructor
      · rintro ⟨htr, -, hend⟩ e he
        rcases List.mem_append.mp he with he | he
        · exact ih.mp htr e he
        · rw [List.mem_singleton.mp he]
          exact hend _ (mem_states_last h) s' (List.mem_singleton.mpr rfl)
      · intro hev
        have htr : ∀ e ∈ tr, R e.pre e.post := fun e he => hev e (List.mem_append_left _ he)
        have hlast := hev ⟨i, o, r, d.shared, s'⟩
          (List.mem_append_right _ (List.mem_singleton.mpr rfl))
        refine ⟨ih.mpr htr, List.pairwise_singleton _ _, ?_⟩
        intro s hs u hu
        rw [List.map_singleton, List.mem_singleton] at hu
        rw [hu]
        exact htrans (h.le_last hrefl htrans htr s hs) hlast

/-- The state an event of a run was issued in is one of its states.
Source: none: infrastructure. Kind: L -/
theorem Run.pre_mem_states {M : Machine I ι σ} [IsEmpty M.Tick] {c d : Config I ε σ α}
    {tr : List (Event I ι σ)} (h : Run M c tr d) : ∀ e ∈ tr, e.pre ∈ states c tr := by
  intro e he
  obtain ⟨tr₁, tr₂, rfl⟩ := List.append_of_mem he
  obtain ⟨d₁, hrun, hpre⟩ := h.before rfl
  rw [← hpre, states, List.map_append, ← List.cons_append]
  exact List.mem_append_left _ (mem_states_last hrun)

/-- **A property holds in every state of a run exactly when `Q` holds of its events**, where `Q` is
what keeps the property, for a machine that does nothing by itself.
Source: none: infrastructure. Kind: P -/
theorem Run.always_iff {M : Machine I ι σ} [IsEmpty M.Tick] {c d : Config I ε σ α}
    {tr : List (Event I ι σ)} (h : Run M c tr d) {P : σ → Prop} {Q : Event I ι σ → Prop}
    (hinit : P c.shared) (hstep : ∀ e ∈ tr, P e.pre → (P e.post ↔ Q e)) :
    (∀ s ∈ states c tr, P s) ↔ ∀ e ∈ tr, Q e := by
  constructor
  · intro hall e he
    refine (hstep e he (hall _ (h.pre_mem_states e he))).mp (hall _ ?_)
    exact List.mem_cons_of_mem _ (List.mem_map_of_mem he)
  · intro hev
    suffices hboth : P d.shared ∧ ∀ s ∈ states c tr, P s from hboth.2
    induction h with
    | refl => exact ⟨hinit, fun s hs => List.mem_singleton.mp hs ▸ hinit⟩
    | tick _ t => exact isEmptyElim t
    | @step tr d i o k r s' h hp hd ih =>
        obtain ⟨hlast, hall⟩ := ih (fun e he => hstep e (List.mem_append_left _ he))
          fun e he => hev e (List.mem_append_left _ he)
        have hmem : (⟨i, o, r, d.shared, s'⟩ : Event I ι σ) ∈ tr ++ [⟨i, o, r, d.shared, s'⟩] := by
          simp
        have hpost : P s' := (hstep _ hmem hlast).mpr (hev _ hmem)
        refine ⟨hpost, fun s hs => ?_⟩
        rw [states, List.map_append, ← List.cons_append] at hs
        rcases List.mem_append.mp hs with hs | hs
        · exact hall s hs
        · rw [List.mem_singleton.mp hs]
          exact hpost

/-! ## Schedules -/

/-- One step of a schedule. Source: none: infrastructure. Kind: D -/
inductive Move (M : Machine I ι σ) : Type
  | step (i : ι) (ch : M.Choice)
  | tick (t : M.Tick)

/-- One scheduled step; `none` when the process has finished or is blocked.
Source: none: infrastructure. Kind: D -/
def Config.move {M : Machine I ι σ} (c : Config I ε σ α) :
    Move M → Option (List (Event I ι σ) × Config I ε σ α)
  | .tick t => some ([], { c with shared := M.tick t c.shared })
  | .step i ch =>
      match c.progs i with
      | .ret _ => none
      | .err _ => none
      | .call o k =>
          match M.exec ch i o c.shared with
          | none => none
          | some (r, s') =>
              some ([⟨i, o, r, c.shared, s'⟩], ⟨s', Function.update c.progs i (k r)⟩)

/-- A schedule executed: the trace and the last configuration.
Source: none: infrastructure. Kind: D -/
def Config.play {M : Machine I ι σ} :
    Config I ε σ α → List (Move M) → Option (List (Event I ι σ) × Config I ε σ α)
  | c, [] => some ([], c)
  | c, m :: ms =>
      match c.move m with
      | none => none
      | some (es, d) => (d.play ms).map fun x => (es ++ x.1, x.2)

/-- Steps of the given processes, all with one choice. Source: none: infrastructure. Kind: D -/
def inTurn (M : Machine I ι σ) (ch : M.Choice) (who : List ι) : List (Move M) :=
  who.map fun i => .step i ch

/-- A scheduled step is a run. Source: none: infrastructure. Kind: L -/
theorem Config.move_run {M : Machine I ι σ} {c d : Config I ε σ α} {m : Move M}
    {es : List (Event I ι σ)} (h : c.move m = some (es, d)) : Run M c es d := by
  cases m with
  | tick t =>
      simp only [Config.move, Option.some.injEq, Prod.mk.injEq] at h
      obtain ⟨rfl, rfl⟩ := h
      exact Run.refl.tick t
  | step i ch =>
      simp only [Config.move] at h
      split at h
      · simp at h
      · simp at h
      · rename_i o k hp
        split at h
        · simp at h
        · rename_i r s' hexec
          simp only [Option.some.injEq, Prod.mk.injEq] at h
          obtain ⟨rfl, rfl⟩ := h
          have hrun := (Run.refl (M := M)).step hp ⟨ch, hexec⟩
          exact hrun

/-- **A schedule that can be executed is a run.** Source: none: infrastructure. Kind: L -/
theorem Config.play_run {M : Machine I ι σ} {ms : List (Move M)} {c d : Config I ε σ α}
    {tr : List (Event I ι σ)} (h : c.play ms = some (tr, d)) : Run M c tr d := by
  induction ms generalizing c tr with
  | nil =>
      simp only [Config.play, Option.some.injEq, Prod.mk.injEq] at h
      obtain ⟨rfl, rfl⟩ := h
      exact .refl
  | cons m ms ih =>
      simp only [Config.play] at h
      split at h
      · simp at h
      · rename_i es d' hm
        simp only [Option.map_eq_some_iff, Prod.mk.injEq] at h
        obtain ⟨⟨tr', d''⟩, hplay, rfl, rfl⟩ := h
        exact (move_run hm).trans (ih hplay)

end Rollout.Lib
