import Rollout.Lib.Interleave
import Rollout.Lib.KV

/-!
# Machines whose operations touch one key each

* `Keyed I κ ν` — for each operation the key it touches, what it does to the value there and what it
  answers from it. `Keyed.machine` — its machine over a store; an operation without a key is answered
  by the environment.
* `Keyed.locals k tr` — what the events of a trace did at one key; `Keyed.replay` — the same on a
  value of its own.
* `Keyed.get_of_run` — **projection**: a run does to the value at a key what its operations at that
  key do, whatever happens at the others. `Keyed.resp_of_run` — so do the answers.
-/

set_option linter.unusedSectionVars false

namespace Rollout.Lib

/-- Operations that touch at most one key. Source: none: infrastructure. Kind: D -/
structure Keyed (I : Iface) (κ ν : Type) where
  /-- What is done at one key. -/
  Local : Type
  /-- The key an operation touches, and what it does there. -/
  touches : I.Op → Option (κ × Local)
  /-- The value at the key afterwards. -/
  next : Local → Option ν → Option ν
  /-- The answer, from what the environment decides and the value at the key. -/
  answer : (o : I.Op) → I.Resp o → Option ν → I.Resp o

namespace Keyed

variable {I : Iface} {κ ν ι ε : Type} [DecidableEq κ]

/-- The machine over a store. Source: none: infrastructure. Kind: D -/
def machine (K : Keyed I κ ν) (ι : Type) : Machine I ι (KV κ ν) where
  Choice := (o : I.Op) → I.Resp o
  exec ch _ o s :=
    match K.touches o with
    | none => some (ch o, s)
    | some (k, l) => some (K.answer o (ch o) (s.get k), s.set k (K.next l (s.get k)))
  Tick := Empty
  tick t := t.elim

variable {K : Keyed I κ ν} {k : κ} {l : K.Local} {o : I.Op} {i : ι} {r : I.Resp o} {s s' : KV κ ν}

instance : IsEmpty (K.machine ι).Tick := inferInstanceAs (IsEmpty Empty)

/-- An operation at a key. Source: none: infrastructure. Kind: L -/
theorem does_of_touches (ho : K.touches o = some (k, l)) (h : (K.machine ι).Does ⟨i, o, r, s, s'⟩) :
    s' = s.set k (K.next l (s.get k)) ∧ ∃ a, r = K.answer o a (s.get k) := by
  obtain ⟨ch, h⟩ := h
  simp only [machine, ho] at h
  obtain ⟨hr, hs⟩ := Prod.mk.inj (Option.some.inj h)
  exact ⟨hs.symm, ch o, hr.symm⟩

/-- An operation without a key. Source: none: infrastructure. Kind: L -/
theorem does_of_untouched (ho : K.touches o = none) (h : (K.machine ι).Does ⟨i, o, r, s, s'⟩) :
    s' = s := by
  obtain ⟨ch, h⟩ := h
  simp only [machine, ho] at h
  exact (Prod.mk.inj (Option.some.inj h)).2.symm

variable (K) in
/-- What an operation does at a key. Source: none: infrastructure. Kind: D -/
def localAt (k : κ) (o : I.Op) : Option K.Local :=
  (K.touches o).bind fun x => if x.1 = k then some x.2 else none

variable (K) in
/-- What the events of a trace did at a key. Source: none: infrastructure. Kind: D -/
def locals (k : κ) (tr : List (Event I ι (KV κ ν))) : List K.Local :=
  tr.filterMap fun e => K.localAt k e.op

variable (K) in
/-- The same on a value. Source: none: infrastructure. Kind: D -/
def replay (v : Option ν) (ls : List K.Local) : Option ν := ls.foldl (fun v l => K.next l v) v

theorem localAt_of_touches (ho : K.touches o = some (k, l)) : K.localAt k o = some l := by
  simp [localAt, ho]

theorem localAt_eq_some_iff : K.localAt k o = some l ↔ K.touches o = some (k, l) := by
  constructor
  · intro h
    obtain ⟨⟨k', l'⟩, htouches, hl⟩ := Option.bind_eq_some_iff.mp h
    dsimp only at hl
    split at hl
    · next hk => rw [htouches, hk, Option.some.inj hl]
    · cases hl
  · exact localAt_of_touches

/-- **One operation, seen at a key.** Source: none: infrastructure. Kind: L -/
theorem get_does (h : (K.machine ι).Does ⟨i, o, r, s, s'⟩) (k : κ) :
    s'.get k = K.replay (s.get k) (K.localAt k o).toList := by
  unfold localAt
  cases ho : K.touches o with
  | none =>
      rw [does_of_untouched ho h]
      rfl
  | some x =>
      obtain ⟨k', l⟩ := x
      rw [(does_of_touches ho h).1, KV.get_set]
      by_cases hk : k = k'
      · subst hk
        simp [replay]
      · simp [replay, hk, Ne.symm hk]

section run

variable [DecidableEq ι] {α : ι → Type} {c d : Config I ε (KV κ ν) α}
  {tr tr₁ tr₂ : List (Event I ι (KV κ ν))} {x : Event I ι (KV κ ν)}

/-- **Projection**: a run does to the value at a key what its operations at that key do.
Source: none: infrastructure. Kind: P -/
theorem get_of_run (h : Run (K.machine ι) c tr d) (k : κ) :
    d.shared.get k = K.replay (c.shared.get k) (K.locals k tr) := by
  induction h with
  | refl => rfl
  | tick _ t => exact t.elim
  | @step tr d i o l r s' _ _ hd ih =>
      show s'.get k = _
      rw [get_does hd k, ih]
      cases hl : K.localAt k o <;> simp [locals, replay, hl]

/-- An event of a run finds at a key what the ones before it made.
Source: none: infrastructure. Kind: L -/
theorem get_pre (h : Run (K.machine ι) c tr d) (htr : tr = tr₁ ++ x :: tr₂) (k : κ) :
    x.pre.get k = K.replay (c.shared.get k) (K.locals k tr₁) := by
  obtain ⟨d₁, hrun, hpre⟩ := h.before htr
  rw [← hpre]
  exact get_of_run hrun k

/-- **The answer of an event is one to its own key.** Source: none: infrastructure. Kind: P -/
theorem resp_of_run (h : Run (K.machine ι) c tr d) (htr : tr = tr₁ ++ x :: tr₂)
    (hx : K.localAt k x.op = some l) :
    ∃ a, x.resp = K.answer x.op a (K.replay (c.shared.get k) (K.locals k tr₁)) := by
  have hdoes : (K.machine ι).Does x := h.does x (by simp [htr])
  obtain ⟨a, ha⟩ := (does_of_touches (localAt_eq_some_iff.mp hx) hdoes).2
  exact ⟨a, by rw [ha, get_pre h htr]⟩

end run

@[simp] theorem locals_append (k : κ) (a b : List (Event I ι (KV κ ν))) :
    K.locals k (a ++ b) = K.locals k a ++ K.locals k b := List.filterMap_append

@[simp] theorem replay_append (v : Option ν) (a b : List K.Local) :
    K.replay v (a ++ b) = K.replay (K.replay v a) b := List.foldl_append

@[simp] theorem replay_cons (v : Option ν) (l : K.Local) (ls : List K.Local) :
    K.replay v (l :: ls) = K.replay (K.next l v) ls := rfl

end Keyed

end Rollout.Lib
