import Rollout.Batch.Runtime
import Rollout.Lib.Alone

/-!
# What a scan leaves behind

* `Due` — a scan has to run a sample that has no row, a pending one, or one whose claim is stale.
* `Scanned` — the due samples are pending and queued, and every other row is as it was. A scan runs
  before the workers are spawned, alone; `Scanned.next` is one more input, a duplicate or not.
* `yields_ask`, `yields_enqueueSample` — the rules for such a program.
-/

set_option linter.unusedSectionVars false

namespace Rollout.Batch

open Rollout.Lib Rollout.Core

/-! ## Pending and queued samples -/

/-- The row of the sample is pending. Source: `rollout-runtime-batch/src/state.rs` `SampleState`.
Kind: D -/
def World.Pending (w : World) (runId : RunId) (sid : ContentId) : Prop :=
  ∃ record, w.sample runId sid = some record ∧ record.state = .pending

/-- The deque holds an entry for the sample. Source: `rollout-cloud-local/src/queue.rs`. Kind: D -/
def World.Queued (w : World) (sid : ContentId) : Prop := ∃ x ∈ w.deque, x.2 = sid.chars

/-- Whether a scan has to enqueue a sample.
Source: `rollout-runtime-batch/src/coordinator.rs` `scan_and_enqueue`. Kind: D -/
def Due (nowMs staleAfterMs : BitVec 64) : Option SampleRecord → Bool
  | none => true
  | some record => claimable record.state nowMs staleAfterMs

section scan

variable [Blake3] {runId : RunId}

/-- The last reading of the clock. Source: `rollout-runtime-batch/src/state.rs` `now_ms`. Kind: D -/
def readClock {ι : Type} (clock : Option (BitVec 64)) (e : BatchEvent runId ι) :
    Option (BitVec 64) :=
  match e with
  | ⟨_, .nowMs, .ok t, _, _⟩ => some t
  | _ => clock

variable {coord : BatchCoordinator} {nowMs : BitVec 64} {items : List InputItem} {w₀ w : World}

/-- **What a scan has done** once it is through with `items`.
Source: `rollout-runtime-batch/src/coordinator.rs` `scan_and_enqueue`. Kind: D -/
structure Scanned (runId : RunId) (coord : BatchCoordinator) (nowMs : BitVec 64)
    (items : List InputItem) (w₀ w : World) : Prop where
  rowed : w.Rowed runId
  due : ∀ item ∈ items, Due nowMs coord.staleAfterMs (w₀.sample runId (coord.sid item)) = true →
    w.Pending runId (coord.sid item) ∧ w.Queued (coord.sid item)
  kept : ∀ sid, ¬ (sid ∈ items.map coord.sid ∧
    Due nowMs coord.staleAfterMs (w₀.sample runId sid) = true) →
      w.sample runId sid = w₀.sample runId sid
  stopPull : w.stopPull = w₀.stopPull

namespace Scanned

/-- A row that is not pending is as it was. Source: none: infrastructure. Kind: L -/
theorem start_eq (h : Scanned runId coord nowMs items w₀ w) {sid : ContentId}
    (hnot : ¬ w.Pending runId sid) : w₀.sample runId sid = w.sample runId sid := by
  refine (h.kept sid ?_).symm
  rintro ⟨hmem, hdue⟩
  obtain ⟨item, hitem, rfl⟩ := List.mem_map.mp hmem
  exact hnot (h.due item hitem hdue).1

/-- A pending row was due if any input of it was scanned.
Source: `rollout-runtime-batch/src/coordinator.rs` `scan_and_enqueue`. Kind: L -/
theorem due_of_pending (h : Scanned runId coord nowMs items w₀ w) {sid : ContentId}
    (hpending : w.Pending runId sid) :
    Due nowMs coord.staleAfterMs (w₀.sample runId sid) = true := by
  by_contra hdue
  obtain ⟨record, hrecord, hstate⟩ := hpending
  rw [h.kept sid fun hboth => hdue hboth.2] at hrecord
  rw [hrecord, Due, hstate] at hdue
  exact hdue rfl

/-- **One more input.** Source: `rollout-runtime-batch/src/coordinator.rs` `scan_and_enqueue`.
Kind: L -/
theorem next (h : Scanned runId coord nowMs items w₀ w) {item : InputItem} {w' : World}
    (hrowed : w'.Rowed runId) (hstop : w'.stopPull = w.stopPull) (hdeque : w.deque ⊆ w'.deque)
    (hother : ∀ sid, sid ≠ coord.sid item → w'.sample runId sid = w.sample runId sid)
    (hdue : Due nowMs coord.staleAfterMs (w₀.sample runId (coord.sid item)) = true →
      w'.Pending runId (coord.sid item) ∧ w'.Queued (coord.sid item))
    (hnot : Due nowMs coord.staleAfterMs (w₀.sample runId (coord.sid item)) ≠ true →
      w'.sample runId (coord.sid item) = w.sample runId (coord.sid item)) :
    Scanned runId coord nowMs (items ++ [item]) w₀ w' := by
  refine ⟨hrowed, fun other hmem hother_due => ?_, fun sid hsid => ?_, hstop.trans h.stopPull⟩
  · by_cases heq : coord.sid other = coord.sid item
    · rw [heq] at hother_due ⊢
      exact hdue hother_due
    · have hitems : other ∈ items := by
        rcases List.mem_append.mp hmem with hitems | hlast
        · exact hitems
        · exact absurd (congrArg coord.sid (List.mem_singleton.mp hlast)) heq
      obtain ⟨⟨record, hrecord, hstate⟩, x, hx, hpayload⟩ := h.due other hitems hother_due
      exact ⟨⟨record, (hother _ heq).trans hrecord, hstate⟩, x, hdeque hx, hpayload⟩
  · by_cases heq : sid = coord.sid item
    · subst heq
      have hnotdue : Due nowMs coord.staleAfterMs (w₀.sample runId (coord.sid item)) ≠ true :=
        fun hd => hsid ⟨by simp, hd⟩
      exact (hnot hnotdue).trans (h.kept _ fun hboth => hnotdue hboth.2)
    · refine (hother sid heq).trans (h.kept sid fun hboth => hsid ⟨?_, hboth.2⟩)
      rw [List.map_append]
      exact List.mem_append_left _ hboth.1

end Scanned

/-! ## The programs -/

section yields

variable {ι γ : Type} {i : ι} {upd : γ → BatchEvent runId ι → γ} {g : γ}

/-- The rule for one operation. Source: none: infrastructure. Kind: L -/
theorem yields_ask {β : Type} {o : Op runId} {f : o.Out → BatchM runId β}
    {Q : β → World → γ → Prop}
    (h : ∀ ch a w', perform ch o w = some (a, w') →
      (f a).Yields (machine runId ι) i upd Q w' (upd g ⟨i, o, .ok a, w, w'⟩)) :
    (ask o >>= f).Yields (machine runId ι) i upd Q w g :=
  Service.yields_ask (S := service runId ι) h

/-- The world after a payload has been enqueued. Source: `rollout-cloud-local/src/queue.rs`
`enqueue`. Kind: D -/
def World.enqueued (w : World) (id : Ulid) (payload : Bytes) : World :=
  { w with rows := w.rows.put (keyFor id) payload, deque := w.deque ++ [(id, payload)] }

theorem yields_enqueueSample {sid : ContentId} {Q : Bool → World → γ → Prop}
    (h : ∀ id w₁, Q true (w.enqueued id sid.chars) (upd (upd (upd g ⟨i, .generateUlid, .ok id, w, w⟩)
      ⟨i, .store (.txn (.enqueue id sid.chars)), .ok (), w, w₁⟩)
      ⟨i, .pushBack id sid.chars, .ok (), w₁, w.enqueued id sid.chars⟩)) :
    (BatchCoordinator.enqueueSample sid : BatchM runId Bool).Yields (machine runId ι) i upd Q w g := by
  refine Prog.Yields.bind (yields_ask fun ch id w₁ hid => ?_)
  obtain ⟨rfl, rfl⟩ := Prod.mk.inj (Option.some.inj hid)
  refine yields_ask fun _ _ w₂ hput => ?_
  obtain ⟨-, rfl⟩ := Prod.mk.inj (Option.some.inj hput)
  refine yields_ask fun _ _ w₃ hpush => ?_
  obtain ⟨-, rfl⟩ := Prod.mk.inj (Option.some.inj hpush)
  exact h _ _

end yields

end scan

end Rollout.Batch
