import Mathlib.Logic.Basic

/-!
# The error taxonomy

`CoreError` splits into errors a worker may retry and errors an operator must look at. Durations
are counted in nanoseconds. The text a third-party decoder adds to a message is left out.
-/

set_option linter.unusedSectionVars false

namespace Rollout.Core

/-- When and how to retry; durations in nanoseconds.
Source: `rollout-core/src/errors.rs` `RetryHint`. Kind: D -/
inductive RetryHint
  | never
  | after (delay : Nat)
  | backoff (base max : Nat)
deriving DecidableEq, Repr

/-- Failures that are safe to retry.
Source: `rollout-core/src/errors.rs` `RecoverableError`. Kind: D -/
inductive RecoverableError
  | throttled (hint : RetryHint)
  | transient (msg : String) (hint : RetryHint)
  | preempted (hint : RetryHint)
deriving DecidableEq, Repr

/-- Failures that are not.
Source: `rollout-core/src/errors.rs` `FatalError`. Kind: D -/
inductive FatalError
  | configInvalid (msg : String)
  | schemaViolation (msg : String)
  | pluginContract (plugin msg : String)
  | internal (msg : String)
deriving DecidableEq, Repr

/-- The framework's error. Source: `rollout-core/src/errors.rs` `CoreError`. Kind: D -/
inductive CoreError
  | recoverable (e : RecoverableError)
  | fatal (e : FatalError)
deriving DecidableEq, Repr

/-- An internal invariant was violated.
Source: `rollout-coordinator/src/lease.rs` `internal`. Kind: D -/
def CoreError.internal (msg : String) : CoreError := .fatal (.internal msg)

/-- A stored row does not decode.
Source: `rollout-coordinator/src/work_item.rs`, `rollout-runtime-batch/src/coordinator.rs`,
the `map_err` of `postcard::from_bytes`. Kind: D -/
def CoreError.postcardDecode (what : String) : CoreError :=
  .internal ("postcard " ++ what ++ " decode: ")

/-- Code that may fail: a failure leaves the state as it is then.
Source: none: infrastructure. Kind: D -/
abbrev FailM (σ : Type) := ExceptT CoreError (StateM σ)

theorem exceptT_bind_apply {ε σ α β : Type} (x : ExceptT ε (StateM σ) α)
    (f : α → ExceptT ε (StateM σ) β) (s : σ) :
    (x >>= f) s = match x s with
      | (.ok a, s') => f a s'
      | (.error e, s') => (Except.error e, s') := by
  have hbind : (x >>= f) s = ExceptT.bindCont f (x s).1 (x s).2 := rfl
  rw [hbind]
  rcases x s with ⟨e | a, s'⟩ <;> rfl

theorem FailM.bind_apply {σ α β : Type} (x : FailM σ α) (f : α → FailM σ β) (s : σ) :
    (x >>= f) s = match x s with
      | (.ok a, s') => f a s'
      | (.error e, s') => (Except.error e, s') := by
  rw [exceptT_bind_apply]
  rcases x s with ⟨e | a, s'⟩ <;> rfl

theorem FailM.bind_of_ok {σ α β : Type} {x : FailM σ α} {s s' : σ} {a : α} (h : x s = (.ok a, s'))
    (f : α → FailM σ β) : (x >>= f) s = f a s' := by
  rw [FailM.bind_apply, h]

theorem FailM.bind_of_error {σ α β : Type} {x : FailM σ α} {s s' : σ} {e : CoreError}
    (h : x s = (.error e, s')) (f : α → FailM σ β) : (x >>= f) s = (.error e, s') := by
  rw [FailM.bind_apply, h]

theorem FailM.get_apply {σ : Type} (s : σ) : (get : FailM σ σ) s = (.ok s, s) := rfl

theorem FailM.ofExcept_apply {σ α : Type} (x : Except CoreError α) (s : σ) :
    (ofExcept x : FailM σ α) s = (x, s) := by
  cases x <;> rfl

end Rollout.Core
