import Mathlib.Data.List.Basic
import Mathlib.Tactic.Ring

/-!
# Fixed-width numerals

* `Radix γ` — a positional system over the digits `γ`; that a digit is read back as the value it
  was written for is a field.
* `Radix.render k n` — the `k` digits of `n`, most significant first; `Radix.parse` reads them
  back (`parse_render`), so numerals of one width are equal only when the numbers are
  (`render_inj`), and ordered as the numbers when the digits are (`render_lt`).
-/

set_option linter.unusedSectionVars false

namespace Rollout.Lib

theorem append_lt_append_of_lt {γ : Type} [LT γ] {xs ys : List γ} (h : xs < ys)
    (hlen : xs.length = ys.length) (zs ws : List γ) : xs ++ zs < ys ++ ws := by
  induction h with
  | nil => simp at hlen
  | rel h => exact .rel h
  | cons _ ih => exact .cons (ih (Nat.succ.inj hlen))

/-- A positional system: a base, how a digit is written and how it is read.
Source: none: infrastructure. Kind: D -/
structure Radix (γ : Type) where
  /-- The base. -/
  base : Nat
  /-- How the digit of a value is written. -/
  digit : Nat → γ
  /-- The value of a digit. -/
  value : γ → Option Nat
  value_digit : ∀ d, d < base → value (digit d) = some d

namespace Radix

variable {γ : Type} (R : Radix γ)

/-- The `k` least significant digits of `n`, most significant first.
Source: none: infrastructure. Kind: D -/
def render : Nat → Nat → List γ
  | 0, _ => []
  | k + 1, n => render k (n / R.base) ++ [R.digit (n % R.base)]

/-- The number a digit string denotes after the digits read so far, which denote `acc`.
Source: none: infrastructure. Kind: D -/
def parseFrom : Nat → List γ → Option Nat
  | acc, [] => some acc
  | acc, c :: cs => (R.value c).bind fun d => parseFrom (acc * R.base + d) cs

/-- The number a digit string denotes. Source: none: infrastructure. Kind: D -/
def parse (cs : List γ) : Option Nat := R.parseFrom 0 cs

@[simp] theorem length_render (k n : Nat) : (R.render k n).length = k := by
  induction k generalizing n with
  | zero => rfl
  | succ k ih => simp [render, ih]

theorem mem_render {k n : Nat} (hb : 0 < R.base) {c : γ} (h : c ∈ R.render k n) :
    ∃ d, d < R.base ∧ c = R.digit d := by
  induction k generalizing n with
  | zero => cases h
  | succ k ih =>
      rcases List.mem_append.mp h with h | h
      · exact ih h
      · exact ⟨n % R.base, Nat.mod_lt _ hb, List.mem_singleton.mp h⟩

theorem parseFrom_append (acc : Nat) (cs ds : List γ) :
    R.parseFrom acc (cs ++ ds) = (R.parseFrom acc cs).bind fun a => R.parseFrom a ds := by
  induction cs generalizing acc with
  | nil => rfl
  | cons c cs ih => simp [parseFrom, ih, Option.bind_assoc]

/-- Source: none: infrastructure. Kind: L -/
theorem parseFrom_render (acc k : Nat) {n : Nat} (hn : n < R.base ^ k) :
    R.parseFrom acc (R.render k n) = some (acc * R.base ^ k + n) := by
  induction k generalizing n with
  | zero =>
      have : n = 0 := by simpa using hn
      simp [render, parseFrom, this]
  | succ k ih =>
      have hb : 0 < R.base := by
        by_contra h0
        have : R.base = 0 := by omega
        rw [this] at hn
        simp at hn
      have hdiv : n / R.base < R.base ^ k := by
        rw [Nat.div_lt_iff_lt_mul hb, ← pow_succ]
        exact hn
      rw [render, parseFrom_append, ih hdiv, Option.bind_some]
      simp only [parseFrom, R.value_digit _ (Nat.mod_lt n hb), Option.bind_some, Option.some.injEq]
      calc (acc * R.base ^ k + n / R.base) * R.base + n % R.base
          = acc * R.base ^ (k + 1) + (R.base * (n / R.base) + n % R.base) := by ring
        _ = acc * R.base ^ (k + 1) + n := by rw [Nat.div_add_mod]

/-- **Numerals are read back.** Source: none: infrastructure. Kind: P -/
theorem parse_render (k : Nat) {n : Nat} (hn : n < R.base ^ k) :
    R.parse (R.render k n) = some n := by
  unfold parse
  rw [parseFrom_render R 0 k hn, Nat.zero_mul, Nat.zero_add]

/-- Numerals of one width are equal only when the numbers are.
Source: none: infrastructure. Kind: P -/
theorem render_inj (k : Nat) {m n : Nat} (hm : m < R.base ^ k) (hn : n < R.base ^ k)
    (h : R.render k m = R.render k n) : m = n := by
  have hp := R.parse_render k hm
  rw [h, R.parse_render k hn] at hp
  exact (Option.some.inj hp).symm

/-- Numerals of one width are ordered as the numbers. Source: none: infrastructure. Kind: P -/
theorem render_lt [LT γ] (hdigit : ∀ d d', d < d' → d' < R.base → R.digit d < R.digit d') (k : Nat)
    {m n : Nat} (hn : n < R.base ^ k) (h : m < n) : R.render k m < R.render k n := by
  induction k generalizing m n with
  | zero => simp at hn; omega
  | succ k ih =>
      have hb : 0 < R.base := Nat.pos_of_ne_zero fun h0 => by simp [h0] at hn
      rw [render, render]
      rcases (Nat.div_le_div_right (c := R.base) h.le).lt_or_eq with hlt | heq
      · have hdiv : n / R.base < R.base ^ k := by
          rw [Nat.div_lt_iff_lt_mul hb, ← pow_succ]
          exact hn
        exact append_lt_append_of_lt (ih hdiv hlt) (by simp) _ _
      · rw [heq]
        refine List.append_left_lt (.rel (hdigit _ _ ?_ (Nat.mod_lt n hb)))
        have hm := Nat.div_add_mod m R.base
        have hn' := Nat.div_add_mod n R.base
        rw [heq] at hm
        omega

end Radix

end Rollout.Lib
