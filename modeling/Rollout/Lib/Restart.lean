import Rollout.Lib.RelyGuarantee

/-!
# Processes that stop and start again

* `Reboot M ε κ` — the programs of one life, and how a state that was left is started from again.
* `Reboot.Lives` — any number of lives, each cut off anywhere, with the trace of each.
* `Reboot.Keeps` — an agreement for each life and what a stop keeps of its invariant;
  `Lives.sound` carries it over all lives.
-/

set_option linter.unusedSectionVars false

namespace Rollout.Lib

variable {I : Iface} {ε σ ι : Type} {M : Machine I ι σ} {κ γ : Type}

/-- What is run in one life, and what the next one starts from.
Source: none: infrastructure. Kind: D -/
structure Reboot (M : Machine I ι σ) (ε κ : Type) where
  /-- What the processes of a life return. -/
  Out : κ → ι → Type
  /-- What the processes of a life run. -/
  progs : (k : κ) → (i : ι) → Prog I ε (Out k i)
  /-- How a state that was left is started from again. -/
  Reopens : σ → σ → Prop

namespace Reboot

variable [DecidableEq ι] (B : Reboot M ε κ)

/-- **The lives up to a stop**, each with what its processes were asked to run and what they did.
Source: none: infrastructure. Kind: D -/
inductive Lives (s₀ : σ) : List (κ × List (Event I ι σ)) → σ → Prop
  | nil : Lives s₀ [] s₀
  | snoc {ls : List (κ × List (Event I ι σ))} {s s' : σ} {k : κ} {tr : List (Event I ι σ)}
      {d : Config I ε σ (B.Out k)} (h : Lives s₀ ls s) (hre : B.Reopens s s')
      (hrun : Run M ⟨s', B.progs k⟩ tr d) : Lives s₀ (ls ++ [(k, tr)]) d.shared

/-- An agreement for each life, and what a stop keeps of its invariant.
Source: none: infrastructure. Kind: D -/
structure Keeps (γ : Type) where
  /-- The agreement of a life. -/
  agreed : κ → Discipline M γ
  /-- What holds after a stop. -/
  durable : σ → γ → Prop
  /-- The history at the start of the next life. -/
  reset : γ → γ
  boot : ∀ s s' g k, durable s g → B.Reopens s s' →
    (agreed k).inv s' (reset g) ∧
      ∀ i, (B.progs k i).Safe (agreed k) i (fun _ _ _ => True) s' (reset g)
  stop : ∀ s g k, (agreed k).inv s g → durable s g

namespace Keeps

variable {B} (K : Keeps B γ)

/-- The history after one more life. Source: none: infrastructure. Kind: D -/
def after (g : γ) (life : κ × List (Event I ι σ)) : γ :=
  life.2.foldl (K.agreed life.1).upd (K.reset g)

/-- The history of all lives. Source: none: infrastructure. Kind: D -/
def history (g : γ) (ls : List (κ × List (Event I ι σ))) : γ := ls.foldl K.after g

theorem history_snoc (g : γ) (ls : List (κ × List (Event I ι σ)))
    (life : κ × List (Event I ι σ)) :
    K.history g (ls ++ [life]) = K.after (K.history g ls) life := by
  rw [history, List.foldl_append]
  rfl

/-- **What a stop keeps holds after every life.** Source: none: infrastructure. Kind: P -/
theorem sound {s₀ s : σ} {g : γ} {ls : List (κ × List (Event I ι σ))} (h : B.Lives s₀ ls s)
    (h₀ : K.durable s₀ g) (hass : ∀ life ∈ ls, ∀ e ∈ life.2, (K.agreed life.1).assume e) :
    K.durable s (K.history g ls) := by
  induction h with
  | nil => exact h₀
  | @snoc ls s s' k tr d _ hre hrun ih =>
      have hdur := ih fun life hl => hass life (List.mem_append_left _ hl)
      obtain ⟨hinv, hsafe⟩ := K.boot s s' _ k hdur hre
      have hlast := hass (k, tr) (List.mem_append_right _ (List.mem_singleton.mpr rfl))
      rw [history_snoc]
      exact K.stop _ _ k (hrun.sound (K.agreed k) (fun _ _ _ _ => True) hinv hsafe hlast).1

end Keeps

end Reboot

end Rollout.Lib
