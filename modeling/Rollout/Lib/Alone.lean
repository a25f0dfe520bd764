import Rollout.Lib.Service

/-!
# A program that runs alone

* `Prog.Yields M i upd Q p s g` — from the state `s` with history `g`, every result the program `p`
  returns meets `Q`, when nothing happens between its operations.
* `Service.yields_ask` and `Prog.Yields.bind` are its rules; `Run.yields` reads it off a run of the
  only process.
* `Prog.Throughout M i J Q p s` — `J` holds after every operation; `Run.throughout` reads it off a run
  that may be cut off.
* `Service.alone S ch i p s` — the result of such a program when no operation fails;
  `Service.alone_run` — the run that has it.
* `Service.failing S ch i e p (s, n)` — its result when the operation number `n` fails.
-/

set_option linter.unusedSectionVars false

namespace Rollout.Lib

section yields

variable {I : Iface} {ε σ ι γ : Type}

/-- Every result of the program meets `Q`, when it runs alone. Source: none: infrastructure.
Kind: D -/
def Prog.Yields (M : Machine I ι σ) (i : ι) (upd : γ → Event I ι σ → γ) {β : Type}
    (Q : β → σ → γ → Prop) : Prog I ε β → σ → γ → Prop
  | .ret b, s, g => Q b s g
  | .err _, _, _ => True
  | .call o k, s, g => ∀ r s', M.Does ⟨i, o, r, s, s'⟩ →
      (k r).Yields M i upd Q s' (upd g ⟨i, o, r, s, s'⟩)

variable {M : Machine I ι σ} {i : ι} {upd : γ → Event I ι σ → γ} {β δ : Type} {s : σ} {g : γ}

/-- The rule for sequencing. Source: none: infrastructure. Kind: L -/
theorem Prog.Yields.bind {Q : δ → σ → γ → Prop} {p : Prog I ε β} {f : β → Prog I ε δ}
    (h : p.Yields M i upd (fun b s g => (f b).Yields M i upd Q s g) s g) :
    (p >>= f).Yields M i upd Q s g := by
  induction p generalizing s g with
  | ret b => exact h
  | err e => trivial
  | call o k ih => exact fun r s' hd => ih r (h r s' hd)

theorem Prog.Yields.weaken {Q Q' : β → σ → γ → Prop} (hQ : ∀ b s g, Q b s g → Q' b s g)
    {p : Prog I ε β} (h : p.Yields M i upd Q s g) : p.Yields M i upd Q' s g := by
  induction p generalizing s g with
  | ret b => exact hQ b s g h
  | err e => trivial
  | call o k ih => exact fun r s' hd => ih r (h r s' hd)

theorem Prog.Yields.ofExcept {Q : δ → σ → γ → Prop} {r : Except ε β} {f : β → Prog I ε δ}
    (h : ∀ b, r = .ok b → (f b).Yields M i upd Q s g) :
    (Prog.ofExcept r >>= f).Yields M i upd Q s g := by
  cases r with
  | error e => trivial
  | ok b => exact h b rfl

/-- Two facts about the result. Source: none: infrastructure. Kind: L -/
theorem Prog.Yields.and {Q Q' : β → σ → γ → Prop} {p : Prog I ε β} (h : p.Yields M i upd Q s g)
    (h' : p.Yields M i upd Q' s g) : p.Yields M i upd (fun b s g => Q b s g ∧ Q' b s g) s g := by
  induction p generalizing s g with
  | ret b => exact ⟨h, h'⟩
  | err e => trivial
  | call o k ih => exact fun r s' hd => ih r (h r s' hd) (h' r s' hd)

/-- A history that is read off another. Source: none: infrastructure. Kind: L -/
theorem Prog.Yields.of_map {δ : Type} {φ : δ → γ} {upd' : δ → Event I ι σ → δ}
    (hφ : ∀ x e, φ (upd' x e) = upd (φ x) e) {Q : β → σ → γ → Prop} {p : Prog I ε β} {x : δ}
    (h : p.Yields M i upd Q s (φ x)) : p.Yields M i upd' (fun b s x => Q b s (φ x)) s x := by
  induction p generalizing s x with
  | ret b => exact h
  | err e => trivial
  | call o k ih =>
      intro r s' hd
      refine ih r ?_
      rw [hφ]
      exact h r s' hd

/-- A program adds to its events. Source: none: infrastructure. Kind: L -/
theorem Prog.Yields.extends (p : Prog I ε β) (es : List (Event I ι σ)) :
    p.Yields M i (fun es e => es ++ [e]) (fun _ _ es' => es ⊆ es') s es := by
  suffices hall : ∀ es' : List (Event I ι σ), es ⊆ es' →
      p.Yields M i (fun es e => es ++ [e]) (fun _ _ es' => es ⊆ es') s es' from
    hall es (List.Subset.refl _)
  induction p generalizing s with
  | ret b => exact fun es' h => h
  | err e => exact fun _ _ => trivial
  | call o k ih => exact fun es' h r s' hd => ih r _ (List.subset_append_of_subset_left _ h)

variable [DecidableEq ι] [Subsingleton ι] [IsEmpty M.Tick] {α : ι → Type} {c d : Config I ε σ α}
  {tr : List (Event I ι σ)}

/-- **What the only process of a run returned meets `Q`.** Source: none: infrastructure. Kind: P -/
theorem Run.yields (h : Run M c tr d) {Q : α i → σ → γ → Prop}
    (hyields : (c.progs i).Yields M i upd Q c.shared g) {b : α i} (hret : d.progs i = .ret b) :
    Q b d.shared (tr.foldl upd g) := by
  have hall : (d.progs i).Yields M i upd Q d.shared (tr.foldl upd g) := by
    clear hret
    induction h with
    | refl => exact hyields
    | tick _ t _ => exact isEmptyElim t
    | @step tr d j o k r s' _ hp hd ih =>
        obtain rfl := Subsingleton.elim j i
        rw [hp] at ih
        simp only [List.foldl_append, List.foldl_cons, List.foldl_nil, Function.update_self]
        exact ih r s' hd
  rw [hret] at hall
  exact hall

/-- The same with the events of the run as the history. Source: none: infrastructure. Kind: P -/
theorem Run.yields_events (h : Run M c tr d) {Q : α i → σ → List (Event I ι σ) → Prop}
    (hyields : (c.progs i).Yields M i (fun es e => es ++ [e]) Q c.shared []) {b : α i}
    (hret : d.progs i = .ret b) : Q b d.shared tr := by
  have hfold : ∀ es : List (Event I ι σ), tr.foldl (fun es e => es ++ [e]) es = es ++ tr := by
    clear h
    induction tr with
    | nil => simp
    | cons e tr ih => simp [ih]
  have hall := h.yields hyields hret
  rwa [hfold, List.nil_append] at hall

end yields

/-- The only process has returned. Source: none: infrastructure. Kind: L -/
theorem Config.eq_of_ret {I : Iface} {ε σ ι β : Type} [Subsingleton ι]
    {d : Config I ε σ fun _ : ι => β} {i : ι} {b : β} (h : d.progs i = .ret b) :
    d = ⟨d.shared, fun _ => .ret b⟩ := by
  obtain ⟨shared, progs⟩ := d
  refine congrArg (Config.mk shared) (funext fun j => ?_)
  rw [Subsingleton.elim j i]
  exact h

/-- The rule for one operation of a service. Source: none: infrastructure. Kind: L -/
theorem Service.yields_ask {R : Requests} {ε ι σ γ β : Type} {S : Service R ι σ} {i : ι} {o : R.Op}
    {f : R.Out o → Prog (R.iface ε) ε β} {upd : γ → Event (R.iface ε) ι σ → γ}
    {Q : β → σ → γ → Prop} {s : σ} {g : γ}
    (h : ∀ ch a s', S.perform ch i o s = some (a, s') →
      (f a).Yields (S.machine ε) i upd Q s' (upd g ⟨i, o, .ok a, s, s'⟩)) :
    (ask o >>= f).Yields (S.machine ε) i upd Q s g := by
  intro r s' hd
  rcases Service.does_iff.mp hd with ⟨err, rfl, -⟩ | ⟨ch, a, hperf, rfl⟩
  · trivial
  · exact h ch a s' hperf

/-! ## At every step -/

section throughout

variable {I : Iface} {ε σ ι : Type}

/-- `J` holds after every operation of the program, and `Q` of what it returns, when it runs alone.
Source: none: infrastructure. Kind: D -/
def Prog.Throughout (M : Machine I ι σ) (i : ι) (J : σ → Prop) {β : Type} (Q : β → σ → Prop) :
    Prog I ε β → σ → Prop
  | .ret b, s => Q b s
  | .err _, _ => True
  | .call o k, s => ∀ r s', M.Does ⟨i, o, r, s, s'⟩ → J s' ∧ (k r).Throughout M i J Q s'

variable {M : Machine I ι σ} {i : ι} {J : σ → Prop} {β δ : Type} {s : σ}

/-- The rule for sequencing. Source: none: infrastructure. Kind: L -/
theorem Prog.Throughout.bind {Q : δ → σ → Prop} {p : Prog I ε β} {f : β → Prog I ε δ}
    (h : p.Throughout M i J (fun b s => (f b).Throughout M i J Q s) s) :
    (p >>= f).Throughout M i J Q s := by
  induction p generalizing s with
  | ret b => exact h
  | err e => trivial
  | call o k ih => exact fun r s' hd => ⟨(h r s' hd).1, ih r (h r s' hd).2⟩

theorem Prog.Throughout.weaken {Q Q' : β → σ → Prop} (hQ : ∀ b s, Q b s → Q' b s)
    {p : Prog I ε β} (h : p.Throughout M i J Q s) : p.Throughout M i J Q' s := by
  induction p generalizing s with
  | ret b => exact hQ b s h
  | err e => trivial
  | call o k ih => exact fun r s' hd => ⟨(h r s' hd).1, ih r (h r s' hd).2⟩

theorem Prog.Throughout.ofExcept {Q : δ → σ → Prop} {r : Except ε β} {f : β → Prog I ε δ}
    (h : ∀ b, r = .ok b → (f b).Throughout M i J Q s) :
    (Prog.ofExcept r >>= f).Throughout M i J Q s := by
  cases r with
  | error e => trivial
  | ok b => exact h b rfl

/-- **A run of the only process, cut off anywhere.** Source: none: infrastructure. Kind: P -/
theorem Run.throughout [DecidableEq ι] [Subsingleton ι] [IsEmpty M.Tick] {α : ι → Type}
    {c d : Config I ε σ α} {tr : List (Event I ι σ)} (h : Run M c tr d) {Q : α i → σ → Prop}
    (hp : (c.progs i).Throughout M i J Q c.shared) (hJ : J c.shared) : J d.shared := by
  suffices hall : J d.shared ∧ (d.progs i).Throughout M i J Q d.shared from hall.1
  induction h with
  | refl => exact ⟨hJ, hp⟩
  | tick _ t _ => exact isEmptyElim t
  | @step tr d j o k r s' _ hcall hd ih =>
      obtain rfl := Subsingleton.elim j i
      have hk := ih.2
      rw [hcall] at hk
      simp only [Function.update_self]
      exact hk r s' hd

/-- The rule for one operation of a service whose failures change nothing that matters.
Source: none: infrastructure. Kind: L -/
theorem Service.throughout_ask {R : Requests} {S : Service R ι σ} {o : R.Op}
    {f : R.Out o → Prog (R.iface ε) ε β} {Q : β → σ → Prop} (hfail : J (S.fail i s))
    (h : ∀ ch a s', S.perform ch i o s = some (a, s') →
      J s' ∧ (f a).Throughout (S.machine ε) i J Q s') :
    (ask o >>= f).Throughout (S.machine ε) i J Q s := by
  intro r s' hd
  rcases Service.does_iff.mp hd with ⟨err, rfl, rfl⟩ | ⟨ch, a, hperf, rfl⟩
  · exact ⟨hfail, trivial⟩
  · exact h ch a s' hperf

end throughout

/-! ## Without failures -/

namespace Service

variable {R : Requests} {ε ι σ β δ : Type} (S : Service R ι σ) (ch : S.Choice) (i : ι)

/-- What the program returns, or the failure it ends in by itself, when it runs alone and no
operation fails; `none` when it has to wait. Source: none: infrastructure. Kind: D -/
def alone : Prog (R.iface ε) ε β → σ → Option (Except ε β × σ)
  | .ret b, s => some (.ok b, s)
  | .err e, s => some (.error e, s)
  | .call o k, s => (S.perform ch i o s).bind fun x => alone (k (.ok x.1)) x.2

@[simp] theorem alone_ret (b : β) (s : σ) :
    S.alone ch i (.ret b : Prog (R.iface ε) ε β) s = some (.ok b, s) := rfl

@[simp] theorem alone_err (e : ε) (s : σ) :
    S.alone ch i (.err e : Prog (R.iface ε) ε β) s = some (.error e, s) := rfl

@[simp] theorem alone_ask (o : R.Op) (f : R.Out o → Prog (R.iface ε) ε β) (s : σ) :
    S.alone ch i (ask o >>= f) s = (S.perform ch i o s).bind fun x => S.alone ch i (f x.1) x.2 :=
  rfl

/-- The rule for sequencing. Source: none: infrastructure. Kind: L -/
theorem alone_bind (p : Prog (R.iface ε) ε β) (f : β → Prog (R.iface ε) ε δ) (s : σ) :
    S.alone ch i (p >>= f) s = (S.alone ch i p s).bind fun x => match x.1 with
      | .ok b => S.alone ch i (f b) x.2
      | .error e => some (.error e, x.2) := by
  induction p generalizing s with
  | ret b => rfl
  | err e => rfl
  | call o k ih =>
      show (S.perform ch i o s).bind _ = ((S.perform ch i o s).bind _).bind _
      rw [Option.bind_assoc]
      exact Option.bind_congr fun x _ => ih (.ok x.1) x.2

variable {S ch i}

/-- The rule for one operation. Source: none: infrastructure. Kind: L -/
theorem alone_of_perform {o : R.Op} {f : R.Out o → Prog (R.iface ε) ε β} {s s' : σ} {a : R.Out o}
    (hperf : S.perform ch i o s = some (a, s')) :
    S.alone ch i (ask o >>= f) s = S.alone ch i (f a) s' := by
  rw [alone_ask, hperf]
  rfl

variable (S ch i) in
/-- The program returns, when it runs alone and no operation fails.
Source: none: infrastructure. Kind: D -/
def Finishes (p : Prog (R.iface ε) ε β) (s : σ) : Prop :=
  ∃ b s', S.alone ch i p s = some (.ok b, s')

theorem Finishes.ret (b : β) (s : σ) : S.Finishes ch i (.ret b : Prog (R.iface ε) ε β) s :=
  ⟨b, s, rfl⟩

theorem Finishes.ask {o : R.Op} {f : R.Out o → Prog (R.iface ε) ε β} {s s' : σ} {a : R.Out o}
    (hperf : S.perform ch i o s = some (a, s')) (h : S.Finishes ch i (f a) s') :
    S.Finishes ch i (ask o >>= f) s := by
  obtain ⟨b, t, hb⟩ := h
  exact ⟨b, t, (alone_of_perform hperf).trans hb⟩

theorem Finishes.bind {p : Prog (R.iface ε) ε β} {f : β → Prog (R.iface ε) ε δ} {s : σ}
    (hp : S.Finishes ch i p s) (hf : ∀ b s, S.Finishes ch i (f b) s) :
    S.Finishes ch i (p >>= f) s := by
  obtain ⟨b, t, hb⟩ := hp
  obtain ⟨d, t', hd⟩ := hf b t
  refine ⟨d, t', ?_⟩
  rw [alone_bind, hb]
  exact hd

/-- What a program returns when no operation fails, it returns in a run of its own.
Source: none: infrastructure. Kind: L -/
theorem alone_run [DecidableEq ι] {α : ι → Type} {c : Config (R.iface ε) ε σ α} {b : α i} {s' : σ}
    (h : S.alone ch i (c.progs i) c.shared = some (.ok b, s')) :
    ∃ tr d, Run (S.machine ε) c tr d ∧ d.progs i = .ret b ∧ d.shared = s' := by
  have hall : ∀ (p : Prog (R.iface ε) ε (α i)) (c' : Config (R.iface ε) ε σ α)
      (tr : List (Event (R.iface ε) ι σ)), Run (S.machine ε) c tr c' → c'.progs i = p →
      S.alone ch i p c'.shared = some (.ok b, s') →
      ∃ tr d, Run (S.machine ε) c tr d ∧ d.progs i = .ret b ∧ d.shared = s' := by
    intro p
    induction p with
    | ret a =>
        intro c' tr hrun hp hres
        obtain ⟨hb, hs⟩ := Prod.mk.inj (Option.some.inj hres)
        obtain rfl := Except.ok.inj hb
        exact ⟨tr, c', hrun, hp, hs⟩
    | err e =>
        intro c' tr _ _ hres
        cases (Prod.mk.inj (Option.some.inj hres)).1
    | call o k ih =>
        intro c' tr hrun hp hres
        obtain ⟨⟨a, s₁⟩, hperf, hres⟩ := Option.bind_eq_some_iff.mp hres
        have hdoes : (S.machine ε).Does ⟨i, o, .ok a, c'.shared, s₁⟩ :=
          does_iff.mpr (.inr ⟨ch, a, hperf, rfl⟩)
        exact ih (.ok a) _ _ (hrun.step hp hdoes) (Function.update_self ..) hres
  exact hall _ c [] .refl rfl h

/-- The only process of a run. Source: none: infrastructure. Kind: L -/
theorem run_of_alone [DecidableEq ι] [Subsingleton ι] {p : Prog (R.iface ε) ε β} {b : β} {s s' : σ}
    (h : S.alone ch i p s = some (.ok b, s')) :
    ∃ tr, Run (S.machine ε) (⟨s, fun _ => p⟩ : Config (R.iface ε) ε σ fun _ : ι => β) tr
      ⟨s', fun _ => .ret b⟩ := by
  obtain ⟨tr, d, hrun, hret, rfl⟩ :=
    alone_run (c := (⟨s, fun _ => p⟩ : Config (R.iface ε) ε σ fun _ : ι => β)) h
  exact ⟨tr, Config.eq_of_ret hret ▸ hrun⟩

/-! ## One failure -/

section failing

variable (S ch i) in
/-- What the program returns when it runs alone and one of its operations fails, counted from the
next one; without a count none fails. What is left of the count is part of the state.
Source: none: infrastructure. Kind: D -/
def failing (e : ε) : Prog (R.iface ε) ε β → σ × Option Nat → Option (Except ε β × σ × Option Nat)
  | .ret b, x => some (.ok b, x)
  | .err e', x => some (.error e', x)
  | .call _ k, (s, some 0) => failing e (k (.error e)) (S.fail i s, none)
  | .call o k, (s, count) => (S.perform ch i o s).bind fun x =>
      failing e (k (.ok x.1)) (x.2, count.map Nat.pred)

variable {e : ε}

@[simp] theorem failing_ret (b : β) (x : σ × Option Nat) :
    S.failing ch i e (.ret b : Prog (R.iface ε) ε β) x = some (.ok b, x) := by
  unfold failing
  rfl

@[simp] theorem failing_err (e' : ε) (x : σ × Option Nat) :
    S.failing ch i e (.err e' : Prog (R.iface ε) ε β) x = some (.error e', x) := by
  unfold failing
  rfl

/-- The rule for one operation. Source: none: infrastructure. Kind: L -/
theorem failing_ask {o : R.Op} {s s' : σ} {a : R.Out o} (hperf : S.perform ch i o s = some (a, s'))
    (count : Option Nat) :
    S.failing ch i e (Lib.ask o : Prog (R.iface ε) ε (R.Out o)) (s, count) =
      some (if count = some 0 then (.error e, S.fail i s, none)
        else (.ok a, s', count.map Nat.pred)) := by
  by_cases hcount : count = some 0
  · subst hcount
    rw [Lib.ask, failing, if_pos rfl]
    exact failing_err e _
  · rw [Lib.ask, failing, hperf, if_neg hcount]
    · show S.failing ch i e (.ret a) _ = _
      rw [failing_ret]
    · exact hcount

/-- The rule for sequencing. Source: none: infrastructure. Kind: L -/
theorem failing_bind (p : Prog (R.iface ε) ε β) (f : β → Prog (R.iface ε) ε δ)
    (x : σ × Option Nat) :
    S.failing ch i e (p >>= f) x = (S.failing ch i e p x).bind fun y => match y.1 with
      | .ok b => S.failing ch i e (f b) y.2
      | .error e' => some (.error e', y.2) := by
  induction p generalizing x with
  | ret b => rw [failing_ret]; rfl
  | err e' => rw [failing_err]; exact failing_err e' x
  | call o k ih =>
      obtain ⟨s, count⟩ := x
      show S.failing ch i e (.call o fun r => k r >>= f) (s, count) = _
      by_cases hcount : count = some 0
      · subst hcount
        rw [failing, failing]
        exact ih _ _
      · rw [failing, failing]
        · rw [Option.bind_assoc]
          exact Option.bind_congr fun y _ => ih _ _
        · exact hcount
        · exact hcount

/-- Without a count the program returns what it returns when no operation fails.
Source: none: infrastructure. Kind: L -/
theorem failing_none (p : Prog (R.iface ε) ε β) (s : σ) :
    S.failing ch i e p (s, none) = (S.alone ch i p s).map fun x => (x.1, x.2, none) := by
  induction p generalizing s with
  | ret b => exact failing_ret b _
  | err e' => exact failing_err e' _
  | call o k ih =>
      rw [failing]
      · show (S.perform ch i o s).bind _ = ((S.perform ch i o s).bind _).map _
        rw [Option.map_bind]
        exact Option.bind_congr fun x _ => ih (.ok x.1) x.2
      · simp

end failing

end Service

end Rollout.Lib
