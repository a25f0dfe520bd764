import Rollout.Lib.Interleave

/-!
# Rely–guarantee for interleaved programs

* `Discipline M γ` — what the processes of a machine agree on: an invariant of the shared state
  and of a history `γ` that the events extend, for each process the changes it must expect from
  the others (`rely`), and for each operation what its issuer must know (`pre`). The structure
  carries the proof that an operation issued under `pre` keeps the invariant and only makes changes
  the other processes rely on; `assume` is what a run is assumed to satisfy at each event.
* `Prog.Safe D i post p s g` — from the state `s` with history `g`, whatever the others do within
  their rely, the program `p` issues every operation under its `pre` and ends in `post`.
* `Run.sound` — in every run of safe processes whose events satisfy `assume`, the invariant holds
  and what is left of every process is safe; `Run.sound_event` reads it at every event.
-/

set_option linter.unusedSectionVars false

namespace Rollout.Lib

variable {I : Iface} {ε σ ι : Type}

/-- **An agreement between processes**, with the proof that the operations keep to it.
Source: none: infrastructure. Kind: D -/
structure Discipline (M : Machine I ι σ) (γ : Type) where
  /-- The history after one more event. -/
  upd : γ → Event I ι σ → γ
  /-- The invariant. -/
  inv : σ → γ → Prop
  /-- What a process expects the others to do. -/
  rely : ι → σ → γ → σ → γ → Prop
  /-- What the issuer of an operation knows when it is performed. -/
  pre : ι → I.Op → σ → γ → Prop
  /-- What is assumed of each event of a run. -/
  assume : Event I ι σ → Prop
  rely_refl : ∀ i s g, rely i s g s g
  rely_trans : ∀ i s g s' g' s'' g'', rely i s g s' g' → rely i s' g' s'' g'' →
    rely i s g s'' g''
  step : ∀ e g, M.Does e → assume e → inv e.pre g → pre e.who e.op e.pre g →
    inv e.post (upd g e) ∧ ∀ j, j ≠ e.who → rely j e.pre g e.post (upd g e)
  tick : ∀ t s g, inv s g → inv (M.tick t s) g ∧ ∀ j, rely j s g (M.tick t s) g

variable {M : Machine I ι σ} {γ : Type}

/-- Whatever the others do from here, `P` holds. Source: none: infrastructure. Kind: D -/
def Discipline.Stable (D : Discipline M γ) (i : ι) (P : σ → γ → Prop) (s : σ) (g : γ) : Prop :=
  ∀ s' g', D.rely i s g s' g' → D.inv s' g' → P s' g'

/-- **Safety of a program** under a discipline: every operation is issued under its `pre` and the
result meets `post`, whatever the other processes do in between.
Source: none: infrastructure. Kind: D -/
def Prog.Safe (D : Discipline M γ) (i : ι) {β : Type} (post : Except ε β → σ → γ → Prop) :
    Prog I ε β → σ → γ → Prop
  | .ret b, s, g => D.Stable i (post (.ok b)) s g
  | .err e, s, g => D.Stable i (post (.error e)) s g
  | .call o k, s, g => D.Stable i (fun s g => D.pre i o s g ∧
      ∀ r s', M.Does ⟨i, o, r, s, s'⟩ → D.assume ⟨i, o, r, s, s'⟩ →
        D.inv s' (D.upd g ⟨i, o, r, s, s'⟩) →
        Prog.Safe D i post (k r) s' (D.upd g ⟨i, o, r, s, s'⟩)) s g

namespace Discipline.Stable

variable {D : Discipline M γ} {i : ι} {P Q : σ → γ → Prop} {s : σ} {g : γ}

/-- A stable fact holds now. Source: none: infrastructure. Kind: L -/
theorem now (h : D.Stable i P s g) (hinv : D.inv s g) : P s g := h s g (D.rely_refl i s g) hinv

/-- A stable fact stays stable. Source: none: infrastructure. Kind: L -/
theorem mono (h : D.Stable i P s g) {s' : σ} {g' : γ} (hr : D.rely i s g s' g') :
    D.Stable i P s' g' :=
  fun s'' g'' hr' hinv => h s'' g'' (D.rely_trans i _ _ _ _ _ _ hr hr') hinv

theorem imp (h : D.Stable i P s g) (hPQ : ∀ s g, P s g → Q s g) : D.Stable i Q s g :=
  fun s' g' hr hinv => hPQ s' g' (h s' g' hr hinv)

end Discipline.Stable

namespace Prog.Safe

variable {D : Discipline M γ} {i : ι} {β δ : Type} {s : σ} {g : γ}

/-- The others cannot make a safe program unsafe. Source: none: infrastructure. Kind: L -/
theorem mono {post : Except ε β → σ → γ → Prop} {p : Prog I ε β} (h : p.Safe D i post s g)
    {s' : σ} {g' : γ} (hr : D.rely i s g s' g') : p.Safe D i post s' g' := by
  cases p <;> exact Discipline.Stable.mono h hr

/-- The rule for one operation. Source: none: infrastructure. Kind: L -/
theorem call {post : Except ε β → σ → γ → Prop} {o : I.Op} {k : I.Resp o → Prog I ε β}
    (h : D.Stable i (fun s g => D.pre i o s g ∧
      ∀ r s', M.Does ⟨i, o, r, s, s'⟩ → D.assume ⟨i, o, r, s, s'⟩ →
        D.inv s' (D.upd g ⟨i, o, r, s, s'⟩) →
        (k r).Safe D i post s' (D.upd g ⟨i, o, r, s, s'⟩)) s g) :
    (Prog.call o k).Safe D i post s g := h

/-- The rule for a result that is at hand. Source: none: infrastructure. Kind: L -/
theorem ofExcept_bind {post : Except ε δ → σ → γ → Prop} (herr : ∀ e s g, post (.error e) s g)
    {r : Except ε β} {f : β → Prog I ε δ} (h : ∀ b, r = .ok b → (f b).Safe D i post s g) :
    (Prog.ofExcept r >>= f).Safe D i post s g := by
  cases r with
  | error e => exact fun s g _ _ => herr e s g
  | ok b => exact h b rfl

/-- A postcondition that the invariant makes weaker. Source: none: infrastructure. Kind: L -/
theorem weaken_inv {post post' : Except ε β → σ → γ → Prop}
    (hpost : ∀ b s g, D.inv s g → post b s g → post' b s g) {p : Prog I ε β}
    (h : p.Safe D i post s g) : p.Safe D i post' s g := by
  induction p generalizing s g with
  | ret b => exact fun s' g' hr hinv => hpost (.ok b) s' g' hinv (h s' g' hr hinv)
  | err e => exact fun s' g' hr hinv => hpost (.error e) s' g' hinv (h s' g' hr hinv)
  | call o k ih =>
      exact Discipline.Stable.imp h fun s g hs =>
        ⟨hs.1, fun r s' hd ha hinv => ih r (hs.2 r s' hd ha hinv)⟩

/-- A weaker postcondition. Source: none: infrastructure. Kind: L -/
theorem weaken {post post' : Except ε β → σ → γ → Prop} (hpost : ∀ b s g, post b s g → post' b s g)
    {p : Prog I ε β} (h : p.Safe D i post s g) : p.Safe D i post' s g :=
  h.weaken_inv fun b s g _ => hpost b s g

/-- What is safe whatever the others do first is safe now.
Source: none: infrastructure. Kind: L -/
theorem of_stable {post : Except ε β → σ → γ → Prop} {p : Prog I ε β}
    (h : D.Stable i (p.Safe D i post) s g) : p.Safe D i post s g := by
  cases p <;> exact fun s' g' hr hinv => (h s' g' hr hinv).now hinv

/-- **The rule for sequencing.** Source: none: infrastructure. Kind: L -/
theorem bind {post : Except ε δ → σ → γ → Prop} {p : Prog I ε β} {f : β → Prog I ε δ}
    (h : p.Safe D i (fun b s g => match b with
      | .ok b => (f b).Safe D i post s g
      | .error e => post (.error e) s g) s g) :
    (p >>= f).Safe D i post s g := by
  induction p generalizing s g with
  | ret b => exact of_stable h
  | err e => exact h
  | call o k ih =>
      intro s' g' hr hinv
      obtain ⟨hpre, hk⟩ := h s' g' hr hinv
      exact ⟨hpre, fun r s'' hd ha hinv' => ih r (hk r s'' hd ha hinv')⟩

/-- What a finished program has brought. Source: none: infrastructure. Kind: L -/
theorem result {post : Except ε β → σ → γ → Prop} {p : Prog I ε β} (h : p.Safe D i post s g)
    (hinv : D.inv s g) {r : Except ε β} (hr : p.result? = some r) : post r s g := by
  cases p with
  | ret b => exact Option.some.inj hr ▸ Discipline.Stable.now h hinv
  | err e => exact Option.some.inj hr ▸ Discipline.Stable.now h hinv
  | call o k => cases hr

/-- The rule for a result that is changed. Source: none: infrastructure. Kind: L -/
theorem map {post : Except ε β → σ → γ → Prop} {p : Prog I ε β} (f : β → δ)
    (h : p.Safe D i post s g) :
    (f <$> p).Safe D i (fun r s g => ∃ r', r = r'.map f ∧ post r' s g) s g := by
  induction p generalizing s g with
  | ret b => exact fun s' g' hr hinv => ⟨.ok b, rfl, h s' g' hr hinv⟩
  | err e => exact fun s' g' hr hinv => ⟨.error e, rfl, h s' g' hr hinv⟩
  | call o k ih =>
      intro s' g' hr hinv
      obtain ⟨hpre, hk⟩ := h s' g' hr hinv
      exact ⟨hpre, fun r s'' hd ha hinv' => ih r (hk r s'' hd ha hinv')⟩

/-- A program whose operations the invariant alone justifies is safe.
Source: none: infrastructure. Kind: L -/
theorem of_issues {p : Prog I ε β}
    (h : p.Issues M i fun o => ∀ s g, D.inv s g → D.pre i o s g) :
    p.Safe D i (fun _ _ _ => True) s g := by
  induction p generalizing s g with
  | ret b => exact fun _ _ _ _ => trivial
  | err e => exact fun _ _ _ _ => trivial
  | call o k ih =>
      exact fun s' g' _ hinv => ⟨h.1 s' g' hinv, fun r s'' hd _ _ => ih r (h.2 r s' s'' hd)⟩

end Prog.Safe

variable [DecidableEq ι] {α : ι → Type} {c d : Config I ε σ α} {tr : List (Event I ι σ)}

/-- **Soundness of the discipline**: in a run of safe processes whose events satisfy `assume`, the
invariant holds at the end and the rest of every process is safe.
Source: none: infrastructure. Kind: P -/
theorem Run.sound (D : Discipline M γ) (post : (i : ι) → Except ε (α i) → σ → γ → Prop) {g : γ}
    (h : Run M c tr d) (hinv : D.inv c.shared g)
    (hsafe : ∀ i, (c.progs i).Safe D i (post i) c.shared g) (hass : ∀ e ∈ tr, D.assume e) :
    D.inv d.shared (tr.foldl D.upd g) ∧
      ∀ i, (d.progs i).Safe D i (post i) d.shared (tr.foldl D.upd g) := by
  induction h with
  | refl => exact ⟨hinv, hsafe⟩
  | tick _ t ih =>
      obtain ⟨hi, hs⟩ := ih hass
      obtain ⟨hi', hr⟩ := D.tick t _ _ hi
      exact ⟨hi', fun i => (hs i).mono (hr i)⟩
  | @step tr d i o k r s' h hp hd ih =>
      obtain ⟨hi, hs⟩ := ih fun e he => hass e (List.mem_append_left _ he)
      have ha := hass _ (List.mem_append_right tr (List.mem_singleton.mpr rfl))
      have hsi := hs i
      rw [hp] at hsi
      obtain ⟨hpre, hk⟩ := Discipline.Stable.now hsi hi
      obtain ⟨hi', hr⟩ := D.step _ _ hd ha hi hpre
      rw [List.foldl_append]
      refine ⟨hi', fun j => ?_⟩
      by_cases hj : j = i
      · subst hj
        simpa using hk r s' hd ha hi'
      · simpa [Function.update_of_ne hj] using (hs j).mono (hr j hj)

/-- Every event of such a run was issued under the invariant and its `pre`, and left the invariant.
Source: none: infrastructure. Kind: P -/
theorem Run.sound_event (D : Discipline M γ) (post : (i : ι) → Except ε (α i) → σ → γ → Prop)
    {g : γ} (h : Run M c tr d) (hinv : D.inv c.shared g)
    (hsafe : ∀ i, (c.progs i).Safe D i (post i) c.shared g) (hass : ∀ e ∈ tr, D.assume e) :
    ∀ e ∈ tr, M.Does e ∧ D.assume e ∧
      ∃ g', D.inv e.pre g' ∧ D.pre e.who e.op e.pre g' ∧ D.inv e.post (D.upd g' e) := by
  induction h with
  | refl => simp
  | tick _ _ ih => exact ih hass
  | @step tr d i o k r s' h hp hd ih =>
      have hass' : ∀ e ∈ tr, D.assume e := fun e he => hass e (List.mem_append_left _ he)
      intro e he
      rcases List.mem_append.mp he with he | he
      · exact ih hass' e he
      · obtain ⟨hi, hs⟩ := h.sound D post hinv hsafe hass'
        have hsi := hs i
        rw [hp] at hsi
        rw [List.mem_singleton.mp he]
        have ha := hass _ (List.mem_append_right tr (List.mem_singleton.mpr rfl))
        have hpre := (Discipline.Stable.now hsi hi).1
        exact ⟨hd, ha, _, hi, hpre, (D.step _ _ hd ha hi hpre).1⟩

/-- The result of a finished process meets its postcondition.
Source: none: infrastructure. Kind: P -/
theorem Run.sound_ret (D : Discipline M γ) (post : (i : ι) → Except ε (α i) → σ → γ → Prop) {g : γ}
    (h : Run M c tr d) (hinv : D.inv c.shared g)
    (hsafe : ∀ i, (c.progs i).Safe D i (post i) c.shared g) (hass : ∀ e ∈ tr, D.assume e)
    {i : ι} {a : α i} (hret : d.progs i = .ret a) :
    post i (.ok a) d.shared (tr.foldl D.upd g) := by
  obtain ⟨hi, hs⟩ := h.sound D post hinv hsafe hass
  have hsi := hs i
  rw [hret] at hsi
  exact Discipline.Stable.now hsi hi

end Rollout.Lib
