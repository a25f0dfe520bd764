import Rollout.Lib.Service

/-!
# What programs return

* `Prog.returned` — what a program has returned; `Prog.Returns M i ann` — the program returns right
  after an operation exactly what `ann` reads off the operation and its response.
* `Run.returned_eq` — in a run of such programs, what a process has returned is what `ann` reads off
  its last operation.
* `Run.returned_of_events`, `Run.events_of_returned` — what is returned keeps its meaning `P` in
  every configuration of a run exactly when it has it where it is returned, for a `P` that the
  events keep.
* `Run.pairwise_events` — a preorder that every event respects, between two events of a run.
-/

set_option linter.unusedSectionVars false

namespace Rollout.Lib

variable {I : Iface} {ε σ ι β : Type} {M : Machine I ι σ} {i : ι}
  {ann : (o : I.Op) → I.Resp o → Option β}

/-! ## One program -/

/-- What a program has returned. Source: none: infrastructure. Kind: D -/
def Prog.returned : Prog I ε β → Option β
  | .ret b => some b
  | .err _ => none
  | .call _ _ => none

@[simp] theorem Prog.returned_ret (b : β) : (Prog.ret b : Prog I ε β).returned = some b := rfl

@[simp] theorem Prog.returned_err (e : ε) : (Prog.err e : Prog I ε β).returned = none := rfl

theorem Prog.eq_ret_of_returned {p : Prog I ε β} {b : β} (h : p.returned = some b) : p = .ret b := by
  rcases p with b' | e | ⟨o, k⟩
  · exact congrArg Prog.ret (Option.some.inj h)
  · simp at h
  · exact absurd h (Option.some_ne_none b).symm

/-- The program returns right after an operation what `ann` says of it, and goes on where `ann` says
nothing. Source: none: infrastructure. Kind: D -/
def Prog.Returns (M : Machine I ι σ) (i : ι) (ann : (o : I.Op) → I.Resp o → Option β) :
    Prog I ε β → Prop
  | .ret _ => True
  | .err _ => True
  | .call o k => ∀ r s s', M.Does ⟨i, o, r, s, s'⟩ →
      (k r).returned = ann o r ∧ (k r).Returns M i ann

/-- What a program has returned is what its last operation says.
Source: none: infrastructure. Kind: L -/
theorem Prog.Exec.returned_eq {p q : Prog I ε β} {es : List (Event I ι σ)}
    (h : Prog.Exec M i p es q) (hp : p.Returns M i ann) :
    q.returned = es.getLast?.elim p.returned fun e => ann e.op e.resp := by
  induction h with
  | nil p => rfl
  | @cons o k r s s' es q hd h ih =>
      obtain ⟨hret, hk⟩ := hp r s s' hd
      rw [ih hk]
      cases hlast : es.getLast? with
      | none =>
          rw [List.getLast?_eq_none_iff] at hlast
          rw [hlast]
          exact hret
      | some e =>
          rw [List.getLast?_cons, hlast]
          rfl

/-- The rule for one operation of a service. Source: none: infrastructure. Kind: L -/
theorem Service.returns_ask {R : Requests} {S : Service R ι σ} {o : R.Op}
    {f : R.Out o → Prog (R.iface ε) ε β} {ann : (o : R.Op) → Except ε (R.Out o) → Option β}
    (herr : ∀ err, ann o (.error err) = none)
    (h : ∀ ch s a s', S.perform ch i o s = some (a, s') →
      (f a).returned = ann o (.ok a) ∧ (f a).Returns (S.machine ε) i ann) :
    (ask o >>= f).Returns (S.machine ε) i ann := by
  intro r s s' hd
  rcases Service.does_iff.mp hd with ⟨err, rfl, -⟩ | ⟨ch, a, hperf, rfl⟩
  · exact ⟨(herr err).symm, trivial⟩
  · exact h ch s a s' hperf

/-! ## Runs -/

variable [DecidableEq ι] {c d : Config I ε σ fun _ : ι => β} {tr : List (Event I ι σ)}

/-- **What a process has returned is what its last operation says.**
Source: none: infrastructure. Kind: P -/
theorem Run.returned_eq (h : Run M c tr d) (hc : ∀ i, (c.progs i).returned = none)
    (hp : ∀ i, (c.progs i).Returns M i ann) (i : ι) :
    (d.progs i).returned = (own i tr).getLast?.bind fun e => ann e.op e.resp := by
  rw [(h.exec i).returned_eq (hp i), hc]
  cases (own i tr).getLast? <;> rfl

/-- A run stands in the state an event of it left. Source: none: infrastructure. Kind: L -/
theorem Run.after {α : ι → Type} {c d : Config I ε σ α} (h : Run M c tr d)
    {tr₁ tr₂ : List (Event I ι σ)} {x : Event I ι σ} (htr : tr = tr₁ ++ x :: tr₂) :
    ∃ d₁, Run M c (tr₁ ++ [x]) d₁ ∧ d₁.shared = x.post := by
  induction h generalizing tr₂ with
  | refl => simp at htr
  | tick _ _ ih => exact ih htr
  | @step tr d i o k r s' h hp hd ih =>
      rcases List.eq_nil_or_concat tr₂ with rfl | ⟨tr₃, y, rfl⟩
      · obtain ⟨rfl, heq⟩ := List.append_inj' htr rfl
        rw [← (List.cons.inj heq).1]
        exact ⟨_, h.step hp hd, rfl⟩
      · rw [List.concat_eq_append, ← List.cons_append, ← List.append_assoc] at htr
        exact ih (List.append_inj' htr rfl).1

/-- What is returned with its meaning keeps it. Source: none: infrastructure. Kind: P -/
theorem Run.returned_of_events [IsEmpty M.Tick] (h : Run M c tr d)
    (hc : ∀ i, (c.progs i).returned = none) (hp : ∀ i, (c.progs i).Returns M i ann)
    {P : β → σ → Prop} (hkeep : ∀ e ∈ tr, ∀ b, P b e.pre → P b e.post)
    (hev : ∀ e ∈ tr, ∀ b, ann e.op e.resp = some b → P b e.post) {b : β}
    (hret : (d.progs i).returned = some b) : P b d.shared := by
  rw [h.returned_eq hc hp] at hret
  obtain ⟨e, hlast, hann⟩ := Option.bind_eq_some_iff.mp hret
  have he := (mem_own.mp (List.mem_of_getLast? hlast)).1
  have hpost : e.post ∈ states c tr := List.mem_cons_of_mem _ (List.mem_map_of_mem he)
  have hle := h.le_last (R := fun s s' => ∀ b, P b s → P b s') (fun _ _ hs => hs)
    (fun h₁ h₂ b hs => h₂ b (h₁ b hs)) hkeep
  exact hle e.post hpost b (hev e he b hann)

/-- What has its meaning whenever it is returned has it where it is returned.
Source: none: infrastructure. Kind: P -/
theorem Run.events_of_returned (h : Run M c tr d) (hc : ∀ i, (c.progs i).returned = none)
    (hp : ∀ i, (c.progs i).Returns M i ann) {P : β → σ → Prop}
    (hall : ∀ tr₁ tr₂ d₁, tr = tr₁ ++ tr₂ → Run M c tr₁ d₁ →
      ∀ i b, (d₁.progs i).returned = some b → P b d₁.shared) :
    ∀ e ∈ tr, ∀ b, ann e.op e.resp = some b → P b e.post := by
  intro e he b hann
  obtain ⟨tr₁, tr₂, rfl⟩ := List.append_of_mem he
  obtain ⟨d₁, hrun, hshared⟩ := h.after rfl
  rw [← hshared]
  apply hall (tr₁ ++ [e]) tr₂ d₁ (by simp) hrun e.who b
  rw [hrun.returned_eq hc hp]
  simpa [own] using hann

/-- What one event leaves is related to what any later one finds.
Source: none: infrastructure. Kind: L -/
theorem Run.pairwise_events [IsEmpty M.Tick] {α : ι → Type} {c d : Config I ε σ α}
    (h : Run M c tr d) {R : σ → σ → Prop} (hrefl : ∀ s, R s s)
    (htrans : ∀ {s t u}, R s t → R t u → R s u) (hev : ∀ e ∈ tr, R e.pre e.post) :
    tr.Pairwise fun e e' => R e.post e'.pre := by
  induction h with
  | refl => exact List.Pairwise.nil
  | tick _ t => exact isEmptyElim t
  | @step tr d i o k r s' h hp hd ih =>
      have htr : ∀ e ∈ tr, R e.pre e.post := fun e he => hev e (List.mem_append_left _ he)
      refine List.pairwise_append.mpr ⟨ih htr, List.pairwise_singleton _ _, ?_⟩
      intro e he e' he'
      rw [List.mem_singleton.mp he']
      exact h.le_last hrefl htrans htr e.post
        (List.mem_cons_of_mem _ (List.mem_map_of_mem he))

end Rollout.Lib
