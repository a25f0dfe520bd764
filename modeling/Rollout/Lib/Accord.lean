import Rollout.Lib.RelyGuarantee

/-!
# Agreements that remember

* `Machine.recorded` — a machine with a history beside its state, which its events extend;
  `Run.recorded` turns a run into one of the recorded machine.
* `Accord M γ` — an agreement as in `Discipline`, where what a run is assumed to satisfy at an event
  may depend on what happened before it. `Accord.sound` carries it along every run.
-/

set_option linter.unusedSectionVars false

namespace Rollout.Lib

variable {I : Iface} {ε σ ι γ : Type}

/-- The machine with a history beside its state. Source: none: infrastructure. Kind: D -/
def Machine.recorded (M : Machine I ι σ) (upd : γ → Event I ι σ → γ) : Machine I ι (σ × γ) where
  Choice := M.Choice
  exec ch i o s := (M.exec ch i o s.1).map fun x => (x.1, x.2, upd s.2 ⟨i, o, x.1, s.1, x.2⟩)
  Tick := M.Tick
  tick t s := (M.tick t s.1, s.2)

variable {M : Machine I ι σ} (upd : γ → Event I ι σ → γ)

/-- An event of the recorded machine extends the history by itself.
Source: none: infrastructure. Kind: L -/
theorem Machine.recorded_does {i : ι} {o : I.Op} {r : I.Resp o} {s s' : σ × γ} :
    (M.recorded upd).Does ⟨i, o, r, s, s'⟩ ↔
      M.Does ⟨i, o, r, s.1, s'.1⟩ ∧ s'.2 = upd s.2 ⟨i, o, r, s.1, s'.1⟩ := by
  constructor
  · rintro ⟨ch, h⟩
    have h : (M.exec ch i o s.1).map (fun x => (x.1, x.2, upd s.2 ⟨i, o, x.1, s.1, x.2⟩)) =
      some (r, s') := h
    obtain ⟨⟨r', t⟩, hexec, hres⟩ := Option.map_eq_some_iff.mp h
    simp only [Prod.mk.injEq] at hres
    obtain ⟨rfl, rfl⟩ := hres
    exact ⟨⟨ch, hexec⟩, rfl⟩
  · rintro ⟨⟨ch, hexec⟩, hupd⟩
    obtain ⟨t, g⟩ := s'
    refine ⟨ch, Option.map_eq_some_iff.mpr ⟨_, hexec, ?_⟩⟩
    simp only at hupd
    rw [hupd]

section recorded

variable [DecidableEq ι] {α : ι → Type} {c d : Config I ε σ α} {tr : List (Event I ι σ)}

/-- **A run, with its history beside it.** Source: none: infrastructure. Kind: P -/
theorem Run.recorded (h : Run M c tr d) (g : γ) :
    ∃ tr', Run (M.recorded upd) ⟨(c.shared, g), c.progs⟩ tr' ⟨(d.shared, tr.foldl upd g), d.progs⟩ ∧
      ∀ e' ∈ tr', ∃ tr₁ e tr₂, tr = tr₁ ++ e :: tr₂ ∧
        e' = ⟨e.who, e.op, e.resp, (e.pre, tr₁.foldl upd g),
          (e.post, upd (tr₁.foldl upd g) e)⟩ := by
  induction h with
  | refl => exact ⟨[], .refl, fun _ => nofun⟩
  | tick _ t ih =>
      obtain ⟨tr', hrun, hev⟩ := ih
      exact ⟨tr', hrun.tick (M := M.recorded upd) t, hev⟩
  | @step tr d i o k r s' _ hp hd ih =>
      obtain ⟨tr', hrun, hev⟩ := ih
      have hdoes : (M.recorded upd).Does ⟨i, o, r, (d.shared, tr.foldl upd g),
          (s', upd (tr.foldl upd g) ⟨i, o, r, d.shared, s'⟩)⟩ :=
        (Machine.recorded_does _).mpr ⟨hd, rfl⟩
      have hstep := hrun.step (M := M.recorded upd) hp hdoes
      rw [List.foldl_append]
      refine ⟨_, hstep, fun e' he' => ?_⟩
      rcases List.mem_append.mp he' with he' | he'
      · obtain ⟨tr₁, e, tr₂, rfl, rfl⟩ := hev e' he'
        exact ⟨tr₁, e, tr₂ ++ [⟨i, o, r, d.shared, s'⟩], by simp, rfl⟩
      · exact ⟨tr, ⟨i, o, r, d.shared, s'⟩, [], rfl, List.mem_singleton.mp he'⟩

end recorded

/-- **An agreement between processes that remember.** Source: none: infrastructure. Kind: D -/
structure Accord (M : Machine I ι σ) (γ : Type) where
  /-- The history after one more event. -/
  upd : γ → Event I ι σ → γ
  /-- The invariant. -/
  inv : σ → γ → Prop
  /-- What a process expects the others to do. -/
  rely : ι → σ → γ → σ → γ → Prop
  /-- What the issuer of an operation knows when it is performed. -/
  pre : ι → I.Op → σ → γ → Prop
  /-- What is assumed of each event of a run, given what happened before it. -/
  assume : γ → Event I ι σ → Prop
  rely_refl : ∀ i s g, rely i s g s g
  rely_trans : ∀ i s g s' g' s'' g'', rely i s g s' g' → rely i s' g' s'' g'' →
    rely i s g s'' g''
  step : ∀ e g, M.Does e → assume g e → inv e.pre g → pre e.who e.op e.pre g →
    inv e.post (upd g e) ∧ ∀ j, j ≠ e.who → rely j e.pre g e.post (upd g e)
  tick : ∀ t s g, inv s g → inv (M.tick t s) g ∧ ∀ j, rely j s g (M.tick t s) g

namespace Accord

variable (A : Accord M γ)

/-- The agreement over the recorded machine. Source: none: infrastructure. Kind: D -/
def discipline : Discipline (M.recorded A.upd) Unit where
  upd _ _ := ()
  inv s _ := A.inv s.1 s.2
  rely i s _ s' _ := A.rely i s.1 s.2 s'.1 s'.2
  pre i o s _ := A.pre i o s.1 s.2
  assume e := A.assume e.pre.2 ⟨e.who, e.op, e.resp, e.pre.1, e.post.1⟩
  rely_refl i s _ := A.rely_refl i s.1 s.2
  rely_trans _ _ _ _ _ _ _ h h' := A.rely_trans _ _ _ _ _ _ _ h h'
  step := by
    rintro ⟨i, o, r, s, s'⟩ _ hd ha hinv hpre
    obtain ⟨hdoes, hupd⟩ := (Machine.recorded_does _).mp hd
    have hstep := A.step ⟨i, o, r, s.1, s'.1⟩ s.2 hdoes ha hinv hpre
    rw [← hupd] at hstep
    exact hstep
  tick t s _ hinv := A.tick t s.1 s.2 hinv

/-- The program keeps to the agreement and ends in `post`.
Source: none: infrastructure. Kind: D -/
def Safe (i : ι) {β : Type} (post : Except ε β → σ → γ → Prop) (p : Prog I ε β) (s : σ) (g : γ) :
    Prop :=
  p.Safe A.discipline i (fun r s _ => post r s.1 s.2) (s, g) ()

variable {A} {i : ι} {β δ : Type} {s : σ} {g : γ} {post : Except ε β → σ → γ → Prop}

/-- The rule for a result that is at hand. Source: none: infrastructure. Kind: L -/
theorem safe_ret {b : β} (h : ∀ s' g', A.rely i s g s' g' → A.inv s' g' → post (.ok b) s' g') :
    A.Safe i post (.ret b : Prog I ε β) s g :=
  fun s' _ hr hinv => h s'.1 s'.2 hr hinv

/-- The rule for a failure that is at hand. Source: none: infrastructure. Kind: L -/
theorem safe_err {e : ε} (h : ∀ s' g', A.rely i s g s' g' → A.inv s' g' → post (.error e) s' g') :
    A.Safe i post (.err e : Prog I ε β) s g :=
  fun s' _ hr hinv => h s'.1 s'.2 hr hinv

/-- **The rule for one operation.** Source: none: infrastructure. Kind: L -/
theorem safe_call {o : I.Op} {k : I.Resp o → Prog I ε β}
    (h : ∀ s' g', A.rely i s g s' g' → A.inv s' g' → A.pre i o s' g' ∧
      ∀ r s'', M.Does ⟨i, o, r, s', s''⟩ → A.assume g' ⟨i, o, r, s', s''⟩ →
        A.inv s'' (A.upd g' ⟨i, o, r, s', s''⟩) →
        A.Safe i post (k r) s'' (A.upd g' ⟨i, o, r, s', s''⟩)) :
    A.Safe i post (.call o k) s g := by
  rintro ⟨s', g'⟩ _ hr hinv
  obtain ⟨hpre, hk⟩ := h s' g' hr hinv
  refine ⟨hpre, ?_⟩
  rintro r ⟨s'', g''⟩ hd ha hinv'
  obtain ⟨hdoes, hupd⟩ := (Machine.recorded_does _).mp hd
  have hupd : g'' = A.upd g' ⟨i, o, r, s', s''⟩ := hupd
  subst hupd
  exact hk r s'' hdoes ha hinv'

/-- **The rule for sequencing.** Source: none: infrastructure. Kind: L -/
theorem safe_bind {post : Except ε δ → σ → γ → Prop} {p : Prog I ε β} {f : β → Prog I ε δ}
    (h : A.Safe i (fun b s g => match b with
      | .ok b => A.Safe i post (f b) s g
      | .error e => post (.error e) s g) p s g) :
    A.Safe i post (p >>= f) s g := by
  refine Prog.Safe.bind (Prog.Safe.weaken (fun b s' _ hb => ?_) h)
  cases b with
  | ok b => exact hb
  | error e => exact hb

/-- A weaker postcondition. Source: none: infrastructure. Kind: L -/
theorem safe_weaken {post' : Except ε β → σ → γ → Prop} {p : Prog I ε β}
    (hpost : ∀ b s g, post b s g → post' b s g) (h : A.Safe i post p s g) :
    A.Safe i post' p s g :=
  Prog.Safe.weaken (fun b s' _ hb => hpost b s'.1 s'.2 hb) h

variable [DecidableEq ι] {α : ι → Type} {c d : Config I ε σ α} {tr : List (Event I ι σ)}

/-- **Soundness**: in a run of safe processes whose events satisfy `assume`, the invariant holds and
what a finished process returned meets its postcondition. Source: none: infrastructure. Kind: P -/
theorem sound (post : (i : ι) → Except ε (α i) → σ → γ → Prop) (h : Run M c tr d)
    (hinv : A.inv c.shared g) (hsafe : ∀ i, A.Safe i (post i) (c.progs i) c.shared g)
    (hass : ∀ tr₁ e tr₂, tr = tr₁ ++ e :: tr₂ → A.assume (tr₁.foldl A.upd g) e) :
    A.inv d.shared (tr.foldl A.upd g) ∧
      ∀ i r, (d.progs i).result? = some r → post i r d.shared (tr.foldl A.upd g) := by
  obtain ⟨tr', hrun, hev⟩ := h.recorded A.upd g
  have hass' : ∀ e' ∈ tr', A.discipline.assume e' := by
    intro e' he'
    obtain ⟨tr₁, e, tr₂, htr, rfl⟩ := hev e' he'
    exact hass tr₁ e tr₂ htr
  obtain ⟨hinv', hsafe'⟩ := hrun.sound A.discipline (fun i r s _ => post i r s.1 s.2) (g := ())
    hinv hsafe hass'
  refine ⟨hinv', fun i r hres => ?_⟩
  have hlast := hsafe' i
  revert hlast hres
  show (d.progs i).result? = some r → Prog.Safe _ _ _ (d.progs i) _ _ → _
  cases d.progs i with
  | ret b =>
      intro hres hlast
      rw [← Option.some.inj hres]
      exact hlast _ () (A.rely_refl ..) hinv'
  | err e =>
      intro hres hlast
      rw [← Option.some.inj hres]
      exact hlast _ () (A.rely_refl ..) hinv'
  | call o k => exact fun hres => nomatch hres

end Accord

end Rollout.Lib
