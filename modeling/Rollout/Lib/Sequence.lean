import Rollout.Lib.Dialogue
import Rollout.Lib.Embed

/-!
# Programs one after another against an arbitrary environment

* `Prog.Completes p ds r` — a whole exchange of the program, and what it ends with.
* `Prog.outcome` — a program whose failure is a result, of any error type.
* `Prog.each f as` — `f` on every item in turn, the results in order. `Dialogue.each`: every
  operation of it is one of an item, after that item's own operations; `Completes.each`: the whole
  exchange is one of each item, one after another.
* `Guarded.embed`, `Guarded.outcome`, `Guarded.bind_outcome` — the rules of `Guarded` for a
  component's program, read through a `view` of what was said, and for a caught failure.
-/

set_option linter.unusedSectionVars false

namespace Rollout.Lib

namespace Prog

variable {I J : Iface} {ε ε' α β : Type}

/-- A whole exchange of a program with an environment, and its result.
Source: none: infrastructure. Kind: D -/
inductive Completes : Prog I ε α → List (Said I) → Except ε α → Prop
  | ret (a : α) : Completes (.ret a) [] (.ok a)
  | err (e : ε) : Completes (.err e) [] (.error e)
  | call {o : I.Op} {k : I.Resp o → Prog I ε α} {r : I.Resp o} {ds : List (Said I)}
      {x : Except ε α} (h : Completes (k r) ds x) : Completes (.call o k) (⟨o, r⟩ :: ds) x

theorem Completes.dialogue {p : Prog I ε α} {ds : List (Said I)} {x : Except ε α}
    (h : p.Completes ds x) : p.Dialogue ds := by
  induction h with
  | ret a => exact .nil _
  | err e => exact .nil _
  | call _ ih => exact .cons ih

/-- Whether the program returns after issuing these operations and getting these answers.
Source: none: infrastructure. Kind: D -/
def ends [DecidableEq I.Op] : Prog I ε α → List (Said I) → Bool
  | .ret _, [] => true
  | .call o k, d :: ds => if h : d.op = o then (k (h ▸ d.resp)).ends ds else false
  | _, _ => false

theorem Completes.of_ends [DecidableEq I.Op] {p : Prog I ε α} {ds : List (Said I)}
    (h : p.ends ds = true) : ∃ a, p.Completes ds (.ok a) := by
  induction ds generalizing p with
  | nil =>
      cases p with
      | ret a => exact ⟨a, .ret a⟩
      | _ => exact absurd h Bool.false_ne_true
  | cons d ds ih =>
      cases p with
      | call o k =>
          obtain ⟨op, r⟩ := d
          rw [ends] at h
          split at h
          · next hop =>
            obtain rfl : op = o := hop
            obtain ⟨a, ha⟩ := ih h
            exact ⟨a, .call ha⟩
          · exact absurd h Bool.false_ne_true
      | _ => exact absurd h Bool.false_ne_true

/-- A program whose failure is a result. Source: none: infrastructure. Kind: D -/
def outcome : Prog I ε α → Prog I ε' (Except ε α)
  | ret a => ret (.ok a)
  | err e => ret (.error e)
  | call o k => call o fun r => (k r).outcome

/-- `f` on every item in turn. Source: none: infrastructure. Kind: D -/
def each (f : α → Prog I ε β) : List α → Prog I ε (List β)
  | [] => ret []
  | a :: as => do
      let b ← f a
      let bs ← each f as
      return b :: bs

/-! ## Where an operation belongs -/

/-- An exchange of two programs in turn is one of the first, or a whole one of the first and then
one of the second. Source: none: infrastructure. Kind: L -/
theorem Dialogue.bind {p : Prog I ε α} {f : α → Prog I ε β} {ds : List (Said I)}
    (h : (p >>= f).Dialogue ds) : p.Dialogue ds ∨
      ∃ own rest a, ds = own ++ rest ∧ p.Completes own (.ok a) ∧ (f a).Dialogue rest := by
  induction p generalizing ds with
  | ret a => exact .inr ⟨[], ds, a, rfl, .ret a, h⟩
  | err e =>
      left
      rw [err_bind] at h
      cases h
      exact .nil _
  | call o k ih =>
      rw [call_bind] at h
      cases h with
      | nil => exact .inl (.nil _)
      | cons h =>
          rcases ih _ h with hfirst | ⟨own, rest, a, rfl, hown, hrest⟩
          · exact .inl (.cons hfirst)
          · exact .inr ⟨_ :: own, rest, a, rfl, .call hown, hrest⟩

theorem Completes.bind {p : Prog I ε α} {f : α → Prog I ε β} {ds : List (Said I)} {b : β}
    (h : (p >>= f).Completes ds (.ok b)) :
    ∃ own rest a, ds = own ++ rest ∧ p.Completes own (.ok a) ∧ (f a).Completes rest (.ok b) := by
  induction p generalizing ds with
  | ret a => exact ⟨[], ds, a, rfl, .ret a, h⟩
  | err e => cases h
  | call o k ih =>
      rw [call_bind] at h
      cases h with
      | call h =>
          obtain ⟨own, rest, a, rfl, hown, hrest⟩ := ih _ h
          exact ⟨_ :: own, rest, a, rfl, .call hown, hrest⟩

/-- What a sequence returns is put together without a word. Source: none: infrastructure. Kind: L -/
theorem Dialogue.of_bind_ret {p : Prog I ε α} {g : α → β} {ds : List (Said I)}
    (h : (p >>= fun a => ret (g a)).Dialogue ds) : p.Dialogue ds := by
  rcases Dialogue.bind h with hp | ⟨own, rest, a, rfl, hown, hrest⟩
  · exact hp
  · generalize hret : ret (I := I) (ε := ε) (g a) = q at hrest
    cases hrest with
    | nil =>
        rw [List.append_nil]
        exact hown.dialogue
    | cons h => cases hret

/-- Where an item of two lists appended stands. Source: none: infrastructure. Kind: L -/
theorem split_append {δ : Type} {own rest before after : List δ} {e : δ}
    (h : own ++ rest = before ++ e :: after) :
    (∃ l, own = before ++ e :: l) ∨ ∃ l, before = own ++ l ∧ rest = l ++ e :: after := by
  rcases List.append_eq_append_iff.mp h with ⟨l, hbefore, hrest⟩ | ⟨l, hown, htail⟩
  · exact .inr ⟨l, hbefore, hrest⟩
  · cases l with
    | nil =>
        rw [List.append_nil] at hown
        exact .inr ⟨[], by rw [hown, List.append_nil], htail.symm⟩
    | cons d l =>
        rw [List.cons_append, List.cons.injEq] at htail
        exact .inl ⟨l, by rw [hown, htail.1]⟩

/-- **Every operation of a sequence is one of an item**, after what was said for that item before.
Source: none: infrastructure. Kind: L -/
theorem Dialogue.each {f : α → Prog I ε β} {as : List α} {before after : List (Said I)} {e : Said I}
    (h : (each f as).Dialogue (before ++ e :: after)) :
    ∃ a ∈ as, ∃ earlier own rest, before = earlier ++ own ∧ (f a).Dialogue (own ++ e :: rest) := by
  induction as generalizing before with
  | nil =>
      generalize hds : before ++ e :: after = ds at h
      cases h with
      | nil => simp at hds
  | cons a as ih =>
      rcases Dialogue.bind h with hfirst | ⟨own, rest, b, hsplit, hown, hrest⟩
      · exact ⟨a, .head _, [], before, after, rfl, hfirst⟩
      · rcases split_append hsplit.symm with ⟨l, rfl⟩ | ⟨l, rfl, rfl⟩
        · exact ⟨a, .head _, [], before, l, rfl, hown.dialogue⟩
        · obtain ⟨a', ha', earlier, own', more, rfl, hmore⟩ := ih (Dialogue.of_bind_ret hrest)
          exact ⟨a', .tail _ ha', own ++ earlier, own', more, (List.append_assoc ..).symm, hmore⟩

/-- **A whole exchange of a sequence is one of each item**, one after another.
Source: none: infrastructure. Kind: L -/
theorem Completes.each {f : α → Prog I ε β} {as : List α} {ds : List (Said I)} {bs : List β}
    (h : (each f as).Completes ds (.ok bs)) :
    ∃ parts : List (List (Said I) × β), ds = (parts.map Prod.fst).flatten ∧
      bs = parts.map Prod.snd ∧ List.Forall₂ (fun a x => (f a).Completes x.1 (.ok x.2)) as parts := by
  induction as generalizing ds bs with
  | nil =>
      cases h
      exact ⟨[], rfl, rfl, .nil⟩
  | cons a as ih =>
      obtain ⟨own, rest, b, rfl, hown, hrest⟩ := Completes.bind h
      obtain ⟨own', rest', bs', rfl, hown', hret⟩ := Completes.bind hrest
      cases hret
      obtain ⟨parts, rfl, rfl, hparts⟩ := ih hown'
      exact ⟨(own, b) :: parts, by simp, rfl, .cons hown hparts⟩

theorem Completes.each_at {f : α → Prog I ε β} {as : List α} {ds : List (Said I)} {bs : List β}
    (h : (Prog.each f as).Completes ds (.ok bs)) {i : Nat} {a : α} {b : β} (ha : as[i]? = some a)
    (hb : bs[i]? = some b) :
    ∃ earlier own later, ds = earlier ++ own ++ later ∧ (f a).Completes own (.ok b) := by
  induction as generalizing ds bs i with
  | nil => cases ha
  | cons a' as ih =>
      obtain ⟨own, rest, b', rfl, hown, hrest⟩ := Completes.bind h
      obtain ⟨own', rest', bs', rfl, hown', hret⟩ := Completes.bind hrest
      cases hret
      cases i with
      | zero =>
          cases ha
          cases hb
          exact ⟨[], own, own' ++ [], rfl, hown⟩
      | succ i =>
          obtain ⟨earlier, mine, later, rfl, hmine⟩ := ih hown' ha hb
          exact ⟨own ++ earlier, mine, later, by simp, hmine⟩

/-! ## Rules -/

variable {φ : List (Said I) → I.Op → Prop}

theorem Guarded.completes {post : List (Said I) → α → Prop} {p : Prog I ε α} {h ds : List (Said I)}
    {a : α} (hp : Guarded φ post h p) (hds : p.Completes ds (.ok a)) : post (h ++ ds) a := by
  generalize hx : Except.ok (ε := ε) a = x at hds
  induction hds generalizing h with
  | ret b =>
      cases hx
      rw [List.append_nil]
      exact hp
  | err e => cases hx
  | call _ ih =>
      have hnext := ih (hp.2 _) hx
      rwa [List.append_assoc] at hnext

/-- Weaker demands, as far as the exchange goes on from `h`. Source: none: infrastructure. Kind: L -/
theorem Guarded.imp {ψ : List (Said I) → I.Op → Prop} {post post' : List (Said I) → α → Prop}
    {p : Prog I ε α} {h : List (Said I)} (hp : Guarded φ post h p)
    (hφ : ∀ h' o, h <+: h' → φ h' o → ψ h' o) (hpost : ∀ h' a, h <+: h' → post h' a → post' h' a) :
    Guarded ψ post' h p := by
  induction p generalizing h with
  | ret a => exact hpost h a List.prefix_rfl hp
  | err e => trivial
  | call o k ih =>
      refine ⟨hφ h o List.prefix_rfl hp.1, fun r => ih r (hp.2 r) ?_ ?_⟩
      · exact fun h' o hle => hφ h' o ((List.prefix_append _ _).trans hle)
      · exact fun h' a hle => hpost h' a ((List.prefix_append _ _).trans hle)

/-- Two judgements of one program. Source: none: infrastructure. Kind: L -/
theorem Guarded.and {ψ : List (Said I) → I.Op → Prop} {post post' : List (Said I) → α → Prop}
    {p : Prog I ε α} {h : List (Said I)} (hp : Guarded φ post h p) (hp' : Guarded ψ post' h p) :
    Guarded φ (fun h' a => post h' a ∧ post' h' a) h p := by
  induction p generalizing h with
  | ret a => exact ⟨hp, hp'⟩
  | err e => trivial
  | call o k ih => exact ⟨hp.1, fun r => ih r (hp.2 r) (hp'.2 r)⟩

/-- A failure caught. Source: none: infrastructure. Kind: L -/
theorem Guarded.bind_outcome {mid : List (Said I) → α → Prop} {post : List (Said I) → β → Prop}
    {p : Prog I ε α} {f : Except ε α → Prog I ε' β} {h : List (Said I)} (hp : Guarded φ mid h p)
    (hok : ∀ h' a, h <+: h' → mid h' a → Guarded φ post h' (f (.ok a)))
    (herror : ∀ h' e, h <+: h' → Guarded φ post h' (f (.error e))) :
    Guarded φ post h (p.outcome >>= f) := by
  induction p generalizing h with
  | ret a => exact hok h a List.prefix_rfl hp
  | err e => exact herror h e List.prefix_rfl
  | call o k ih =>
      refine ⟨hp.1, fun r => ih r (hp.2 r) (fun h' a hle => hok h' a ?_) fun h' e hle => herror h' e ?_⟩
      · exact (List.prefix_append _ _).trans hle
      · exact (List.prefix_append _ _).trans hle

/-- What every allowed operation keeps is kept. Source: none: infrastructure. Kind: L -/
theorem Guarded.keeps (keep : List (Said I) → Prop) {post : List (Said I) → α → Prop}
    {p : Prog I ε α} {h : List (Said I)} (hp : Guarded φ post h p)
    (hkeep : ∀ h o r, φ h o → keep h → keep (h ++ [⟨o, r⟩])) (hh : keep h) :
    Guarded φ (fun h' a => post h' a ∧ keep h') h p := by
  induction p generalizing h with
  | ret a => exact ⟨hp, hh⟩
  | err e => trivial
  | call o k ih => exact ⟨hp.1, fun r => ih r (hp.2 r) (hkeep h o r hp.1 hh)⟩

/-- A component's program, judged by what it hears of the exchange.
Source: none: infrastructure. Kind: L -/
theorem Guarded.embed {E : Iface.Embedding I J} {view : List (Said J) → List (Said I)}
    {ψ : List (Said J) → J.Op → Prop} {post : List (Said I) → α → Prop}
    (hview : ∀ h o r, view (h ++ [⟨E.op o, r⟩]) = view h ++ [⟨o, E.resp o r⟩])
    (hφ : ∀ h o, φ (view h) o → ψ h (E.op o)) {p : Prog I ε α} {h : List (Said J)}
    (hp : Guarded φ post (view h) p) :
    Guarded ψ (fun h' a => post (view h') a) h (p.embed E) := by
  induction p generalizing h with
  | ret a => exact hp
  | err e => trivial
  | call o k ih =>
      refine ⟨hφ h o hp.1, fun r => ih _ ?_⟩
      rw [hview]
      exact hp.2 _

end Prog

end Rollout.Lib
