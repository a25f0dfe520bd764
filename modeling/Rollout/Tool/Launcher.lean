import Mathlib.Data.Nat.Basic
import Rollout.Core.Errors
import Rollout.Lib.PipeWriter

/-!
# Waiting for a tool

The parent's side of a sandboxed tool: it polls until the child has ended, kills it at the deadline,
and reads the child's pipes afterwards.

* `Child` — what the child writes and when, as a writer on two pipes. Instants are nanoseconds since
  it was started.
* `Parent` — when the parent polls, reads the clock and kills, and how its calls fail.
* `captured_iff` — the child's whole output and its exit code come back without a timeout exactly when
  both outputs fit in their pipes and the parent is prompt.
-/

namespace Rollout.Tool

open Rollout.Core Rollout.Lib

/-! ## The child -/

/-- Source: `rollout-harness-tool/src/sandbox/launcher.rs` `launch`. Kind: D -/
inductive Stream
  | stdout
  | stderr
deriving DecidableEq

/-- A process with its output piped. Source: `rollout-harness-tool/src/sandbox/launcher.rs` `launch`
(`Command`). Kind: D -/
structure Child where
  /-- What it writes. -/
  writes : List (Send Stream UInt8)
  /-- The time from the last write to its exit. -/
  last : ℕ
  /-- Its exit code; none when a signal of its own ends it. -/
  code : Option ℤ

/-- Source: `rollout-harness-tool/src/sandbox/launcher.rs` `ExecResult`. Kind: D -/
structure ExecResult where
  /-- Process exit code. -/
  exitCode : ℤ
  /-- Captured stdout. -/
  stdout : List UInt8
  /-- Captured stderr. -/
  stderr : List UInt8
  /-- Whether the timeout fired. -/
  timedOut : Bool

namespace Child

/-- Source: `rollout-harness-tool/src/sandbox/launcher.rs` `launch` (`spawn`). Kind: D -/
def spawn (child : Child) : Lib.Writer Stream UInt8 := ⟨child.writes, child.last, fun _ => []⟩

/-- All the child writes to a stream. Source: `rollout-harness-tool/src/sandbox/launcher.rs`
`wait_with_timeout`. Kind: D -/
def bytes (child : Child) (s : Stream) : List UInt8 := Writer.itemsTo s child.writes

/-- With a reader that keeps draining, the child exits before the deadline.
Source: `rollout-harness-tool/src/sandbox/launcher.rs` `wait_with_timeout`. Kind: D -/
def WellBehaved (capacity deadline : ℕ) (child : Child) : Prop :=
  ∃ n < deadline, (child.spawn.drainedRun capacity n).Done

end Child

/-! ## The parent -/

/-- The pause between two polls: five milliseconds. Source:
`rollout-harness-tool/src/sandbox/launcher.rs` `wait_with_timeout`. Kind: D -/
def pollPause : ℕ := 5000000

/-- When the parent does what, round by round, and which of its calls fail.
Source: `rollout-harness-tool/src/sandbox/launcher.rs` `wait_with_timeout`. Kind: D -/
structure Parent where
  /-- When the deadline is set. -/
  entered : ℕ
  /-- When the child is polled. -/
  poll : ℕ → ℕ
  /-- When the clock is read. -/
  clock : ℕ → ℕ
  /-- When the child would be killed. -/
  kill : ℕ → ℕ
  /-- How a poll fails. -/
  tryWaitError : ℕ → Option String
  /-- How the wait after the kill fails. -/
  waitError : Option String
  entered_le : entered ≤ poll 0
  poll_le : ∀ i, poll i ≤ clock i
  clock_le : ∀ i, clock i ≤ kill i
  sleeps : ∀ i, clock i + pollPause ≤ poll (i + 1)

/-- Source: `rollout-harness-tool/src/sandbox/launcher.rs` `fatal`. Kind: D -/
def fatal (msg : String) : CoreError := .fatal (.configInvalid msg)

section wait

variable (parent : Parent) (capacity deadline : ℕ) (child : Child)

/-- The child killed: one that has exited keeps its code. Source:
`rollout-harness-tool/src/sandbox/launcher.rs` `wait_with_timeout` (`kill`, `wait`). Kind: D -/
def killedAt (instant : ℕ) : Option ℤ :=
  if (child.spawn.run capacity instant).Done then child.code else none

/-- The loop of `wait_with_timeout` from one round on: the exit code, the pipes and whether the timeout
fired. Nothing is read from the pipes in it. Source:
`rollout-harness-tool/src/sandbox/launcher.rs` `wait_with_timeout`. Kind: D -/
def waitLoop : ℕ → ℕ → Option (Except CoreError (Option ℤ × (Stream → List UInt8) × Bool))
  | 0, _ => none
  | fuel + 1, i =>
      match parent.tryWaitError i with
      | some e => some (.error (fatal ("try_wait: " ++ e)))
      | none =>
          if (child.spawn.run capacity (parent.poll i)).Done then
            some (.ok (child.code, (child.spawn.run capacity (parent.poll i)).pipes, false))
          else if deadline ≤ parent.clock i then
            match parent.waitError with
            | some e => some (.error (fatal ("wait after kill: " ++ e)))
            | none => some (.ok (killedAt capacity child (parent.kill i),
                (child.spawn.run capacity (parent.kill i)).pipes, true))
          else waitLoop fuel (i + 1)

/-- Wait for the child, killing it if the timeout fires, then read its pipes to the end.
Source: `rollout-harness-tool/src/sandbox/launcher.rs` `wait_with_timeout`. Kind: D -/
def waitWithTimeout (timeout fuel : ℕ) : Option (Except CoreError ExecResult) :=
  (waitLoop parent capacity (parent.entered + timeout) child fuel 0).map fun waited =>
    waited.map fun (status, pipes, timedOut) =>
      ⟨status.getD (-1), pipes .stdout, pipes .stderr, timedOut⟩

/-- The child's whole output and its exit code come back, without a timeout.
Source: `rollout-harness-tool/src/sandbox/launcher.rs` `wait_with_timeout`. Kind: D -/
def Captured (timeout : ℕ) : Prop :=
  ∃ fuel, waitWithTimeout parent capacity child timeout fuel = some (.ok
    ⟨child.code.getD (-1), child.bytes .stdout, child.bytes .stderr, false⟩)

end wait

/-- Up to the first poll after the exit none fails, and the clock is read before the deadline after
each poll before the exit. Source: `rollout-harness-tool/src/sandbox/launcher.rs`
`wait_with_timeout`. Kind: D -/
def Parent.Prompt (parent : Parent) (deadline exit : ℕ) : Prop :=
  ∀ i, (∀ j < i, parent.poll j < exit) → parent.tryWaitError i = none ∧
    (parent.poll i < exit → parent.clock i < deadline)

/-! ## What comes back -/

section captured

variable {parent : Parent} {capacity deadline timeout : ℕ} {child : Child}

theorem Child.bounded_spawn (child : Child) (capacity : ℕ) : child.spawn.Bounded capacity :=
  fun _ => Nat.zero_le _

theorem poll_lt_succ (parent : Parent) (i : ℕ) : parent.poll i < parent.poll (i + 1) := by
  have hle := parent.poll_le i
  have hsleep := parent.sleeps i
  have hpause : 0 < pollPause := by decide
  omega

theorem le_poll (parent : Parent) (i : ℕ) : i ≤ parent.poll i := by
  induction i with
  | zero => exact Nat.zero_le _
  | succ i ih => exact Nat.succ_le_of_lt (lt_of_le_of_lt ih (poll_lt_succ parent i))

/-- The loop ends: the clock passes every deadline. Source:
`rollout-harness-tool/src/sandbox/launcher.rs` `wait_with_timeout`. Kind: P -/
theorem waitLoop_ends (fuel i : ℕ) (h : deadline ≤ fuel + i) :
    ∃ waited, waitLoop parent capacity deadline child (fuel + 1) i = some waited := by
  induction fuel generalizing i with
  | zero =>
      unfold waitLoop
      split
      · exact ⟨_, rfl⟩
      · split
        · exact ⟨_, rfl⟩
        · have hpoll := le_poll parent i
          have hclock := parent.poll_le i
          rw [if_pos (by omega)]
          split <;> exact ⟨_, rfl⟩
  | succ fuel ih =>
      unfold waitLoop
      split
      · exact ⟨_, rfl⟩
      · split
        · exact ⟨_, rfl⟩
        · split
          · split <;> exact ⟨_, rfl⟩
          · exact ih (i + 1) (by omega)

/-- A prompt parent finds a child that does not wait for it. Source:
`rollout-harness-tool/src/sandbox/launcher.rs` `wait_with_timeout`. Kind: L -/
theorem waitLoop_of_prompt (hfits : child.spawn.Fits capacity)
    (hprompt : parent.Prompt deadline child.spawn.due) (fuel i : ℕ)
    (h : child.spawn.due ≤ fuel + i) (hbefore : ∀ j < i, parent.poll j < child.spawn.due) :
    ∃ n, (child.spawn.run capacity n).Done ∧
      waitLoop parent capacity deadline child (fuel + 1) i =
        some (.ok (child.code, (child.spawn.run capacity n).pipes, false)) := by
  have hdone : ∀ n, (child.spawn.run capacity n).Done ↔ child.spawn.due ≤ n := fun n =>
    (Writer.done_run_iff (child.bounded_spawn capacity)).trans (and_iff_right hfits)
  induction fuel generalizing i with
  | zero =>
      have hpoll : (child.spawn.run capacity (parent.poll i)).Done :=
        (hdone _).mpr ((Nat.zero_add i ▸ h).trans (le_poll parent i))
      refine ⟨_, hpoll, ?_⟩
      unfold waitLoop
      rw [(hprompt i hbefore).1]
      exact if_pos hpoll
  | succ fuel ih =>
      obtain ⟨herror, hclock⟩ := hprompt i hbefore
      unfold waitLoop
      rw [herror]
      by_cases hpoll : (child.spawn.run capacity (parent.poll i)).Done
      · exact ⟨_, hpoll, if_pos hpoll⟩
      · have hlate : parent.poll i < child.spawn.due := by
          rw [hdone] at hpoll
          omega
        have hearly := hclock hlate
        dsimp only
        rw [if_neg hpoll, if_neg (by omega)]
        refine ih (i + 1) (by omega) fun j hj => ?_
        rcases Nat.lt_succ_iff_lt_or_eq.mp hj with hj | rfl
        · exact hbefore j hj
        · exact hlate

/-- A child found without a timeout has exited by some poll, and the rounds before it passed.
Source: `rollout-harness-tool/src/sandbox/launcher.rs` `wait_with_timeout`. Kind: L -/
theorem exists_poll_of_waitLoop {status : Option ℤ} {pipes : Stream → List UInt8} (fuel i : ℕ)
    (h : waitLoop parent capacity deadline child fuel i = some (.ok (status, pipes, false))) :
    ∃ k, i ≤ k ∧ (child.spawn.run capacity (parent.poll k)).Done ∧
      ∀ j, i ≤ j → j ≤ k → parent.tryWaitError j = none ∧ (j < k → parent.clock j < deadline) := by
  induction fuel generalizing i with
  | zero => cases h
  | succ fuel ih =>
      unfold waitLoop at h
      split at h
      · cases h
      · next herror =>
        split at h
        · next hdone =>
          refine ⟨i, le_rfl, hdone, fun j hij hji => ?_⟩
          obtain rfl := le_antisymm hji hij
          exact ⟨herror, fun hlt => absurd hlt (lt_irrefl j)⟩
        · split at h
          · split at h <;> cases h
          · next hclock =>
            obtain ⟨k, hik, hdone, hrounds⟩ := ih (i + 1) h
            refine ⟨k, by omega, hdone, fun j hij hjk => ?_⟩
            rcases eq_or_lt_of_le hij with rfl | hij
            · exact ⟨herror, fun _ => by omega⟩
            · exact hrounds j hij hjk

/-- What a captured child and its parent were like. Source:
`rollout-harness-tool/src/sandbox/launcher.rs` `wait_with_timeout`. Kind: L -/
theorem fits_and_prompt_of_captured (h : Captured parent capacity child timeout) :
    (∀ s, (child.bytes s).length ≤ capacity) ∧
      parent.Prompt (parent.entered + timeout) child.spawn.due := by
  obtain ⟨fuel, hwait⟩ := h
  obtain ⟨waited, hloop, hresult⟩ := Option.map_eq_some_iff.mp hwait
  cases waited with
  | error e => cases hresult
  | ok found =>
      obtain ⟨status, pipes, timedOut⟩ := found
      obtain rfl : timedOut = false := congrArg ExecResult.timedOut (Except.ok.inj hresult)
      obtain ⟨k, -, hdone, hrounds⟩ := exists_poll_of_waitLoop fuel 0 hloop
      obtain ⟨hfits, hdue⟩ := (Writer.done_run_iff (child.bounded_spawn capacity)).mp hdone
      refine ⟨hfits, fun i hbefore => ?_⟩
      have hik : i ≤ k := by
        by_contra hlt
        have hpoll := hbefore k (by omega)
        omega
      obtain ⟨herror, hclock⟩ := hrounds i (Nat.zero_le i) hik
      refine ⟨herror, fun hpoll => hclock (lt_of_le_of_ne hik ?_)⟩
      rintro rfl
      omega

/-- **The tools whose output is captured.** The child's whole output and its exit code come back
without a timeout exactly when what it writes to each stream fits in the pipe, which nobody reads
while it runs, and the parent is prompt. Source: `rollout-harness-tool/src/sandbox/launcher.rs`
`wait_with_timeout`. Kind: C -/
theorem captured_iff (parent : Parent) (capacity timeout : ℕ) (child : Child) :
    Captured parent capacity child timeout ↔
      (∀ s, (child.bytes s).length ≤ capacity) ∧
        parent.Prompt (parent.entered + timeout) child.spawn.due := by
  refine ⟨fits_and_prompt_of_captured, ?_⟩
  rintro ⟨hfits, hprompt⟩
  obtain ⟨n, hdone, hloop⟩ := waitLoop_of_prompt hfits hprompt child.spawn.due 0 (Nat.le_refl _)
    fun j hj => absurd hj (Nat.not_lt_zero j)
  refine ⟨child.spawn.due + 1, ?_⟩
  rw [waitWithTimeout, hloop, Writer.pipes_of_done hdone]
  rfl

end captured

/-! ## Two tools that are killed -/

/-- A child that prints and exits, a nanosecond for each byte. Source: none: infrastructure.
Kind: D -/
def printing (n : ℕ) : Child := ⟨List.replicate n ⟨0, .stdout, 0⟩, 0, some 0⟩

/-- A parent that loses no time. Source: none: infrastructure. Kind: D -/
def promptParent : Parent where
  entered := 0
  poll i := i * pollPause
  clock i := i * pollPause
  kill i := i * pollPause
  tryWaitError _ := none
  waitError := none
  entered_le := Nat.zero_le _
  poll_le _ := Nat.le_refl _
  clock_le _ := Nat.le_refl _
  sleeps i := Nat.le_of_eq (Nat.succ_mul i pollPause).symm

/-- A parent held up for a second between each poll and the clock. Source: none: infrastructure.
Kind: D -/
def heldUpParent : Parent where
  entered := 0
  poll i := i * 2000000000
  clock i := i * 2000000000 + 1000000000
  kill i := i * 2000000000 + 1000000000
  tryWaitError _ := none
  waitError := none
  entered_le := Nat.zero_le _
  poll_le _ := Nat.le_add_right _ _
  clock_le _ := Nat.le_refl _
  sleeps i := by
    unfold pollPause
    omega

theorem due_printing (n : ℕ) : (printing n).spawn.due = n := by
  simp [Writer.due, Child.spawn, printing]

theorem length_bytes_printing (n : ℕ) : ((printing n).bytes .stdout).length = n := by
  simp [Child.bytes, Writer.itemsTo, printing]

theorem wellBehaved_printing {n capacity deadline : ℕ} (hcapacity : 0 < capacity)
    (hdeadline : n < deadline) : (printing n).WellBehaved capacity deadline :=
  ⟨n, hdeadline, (Writer.done_drainedRun_iff hcapacity).mpr (due_printing n).le⟩

/-- **A tool that prints more than its pipe holds** is killed by a prompt parent, and one that prints
a byte by a parent held up. Source: `rollout-harness-tool/src/sandbox/launcher.rs`
`wait_with_timeout`. Kind: C -/
theorem printing_not_captured :
    ((printing 65537).WellBehaved 65536 1000000000 ∧
      ¬ Captured promptParent 65536 (printing 65537) 1000000000) ∧
    ((printing 1).WellBehaved 65536 1000000000 ∧
      ¬ Captured heldUpParent 65536 (printing 1) 1000000000) := by
  refine ⟨⟨wellBehaved_printing (by omega) (by omega), fun h => ?_⟩,
    ⟨wellBehaved_printing (by omega) (by omega), fun h => ?_⟩⟩
  · have hfits := (fits_and_prompt_of_captured h).1 .stdout
    rw [length_bytes_printing] at hfits
    omega
  · have hprompt := (fits_and_prompt_of_captured h).2 0 fun j hj => absurd hj (Nat.not_lt_zero j)
    rw [due_printing] at hprompt
    exact absurd (hprompt.2 (by decide)) (by decide)

end Rollout.Tool
