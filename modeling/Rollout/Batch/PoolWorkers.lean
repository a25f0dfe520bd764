import Rollout.Batch.Pool

/-!
# The workers of a pool

* `Attends` — what a worker knows when it asks for something; `Awaits` — what it expects of the
  others.
* `pool` — their agreement, with `Pooled` as its invariant.
* `pool_runOne`, `pool_runLoop` — the programs keep to it, whatever the backend, the clock and the
  other workers do.
-/

set_option linter.unusedSectionVars false

namespace Rollout.Batch

open Rollout.Lib Rollout.Core

variable [Blake3] {runId : RunId} {ι : Type} [DecidableEq ι]

/-! ## The agreement -/

section pool

variable {staleAfterMs : BitVec 64} {cur : ContentId → Prop} {w₀ w w' w'' : World}
  {g g' g'' : Tally ι} {i j : ι}

/-- What a worker knows when it asks for something.
Source: `rollout-runtime-batch/src/worker.rs` `run_one`. Kind: D -/
def Attends (w₀ : World) (i : ι) (o : Op runId) (w : World) (g : Tally ι) : Prop :=
  match o with
  | .store (.txn (.create _)) => False
  | .store (.txn (.repending _)) => False
  | .store (.txn (.enqueue ..)) => False
  | .store (.txn (.claim record _ nowMs staleAfterMs)) => ∃ q payload,
      g.hand i = some ⟨q, .taken payload⟩ ∧
      (∀ sid, payload = ContentId.chars sid → sid = record.id) ∧
      (claimable record.state nowMs staleAfterMs = true → w.sample runId record.id = some record →
        g.timely → w₀.sample runId record.id = some record)
  | .store (.txn (.complete running ..)) => ∃ q, g.hand i = some ⟨q, .claimed running true⟩
  | .store (.txn (.fail running ..)) => ∃ q, g.hand i = some ⟨q, .claimed running true⟩
  | .store (.txn (.ack id)) => ∃ stage, g.hand i = some ⟨id, stage⟩ ∧
      (∀ r c, stage ≠ .claimed r c) ∧
      ∀ sid, stage = .taken (ContentId.chars sid) → ¬ w.Pending runId sid
  | .openDeque _ => False
  | .pushBack .. => False
  | .popFront => g.hand i = none
  | .generate sample .. => ∃ q record, g.hand i = some ⟨q, .claimed record false⟩ ∧ record.id = sample
  | _ => True

/-- What a worker expects of the others: its entry is its own, the rows advance, and while no claim
of the pass has become stale, a row that is running since the workers were spawned is only completed
or failed. Source: `rollout-runtime-batch/src/worker.rs` `run_one`. Kind: D -/
structure Awaits (runId : RunId) (w₀ : World) (i : ι) (w : World) (g : Tally ι) (w' : World)
    (g' : Tally ι) : Prop where
  hand : g'.hand i = g.hand i
  rows : ∀ sid, Advances (w.sample runId sid) (w'.sample runId sid)
  deque : w.deque = [] → w'.deque = []
  timely : g'.timely → g.timely
  kept : g'.timely → ∀ sid record, w.sample runId sid = some record →
    record.state.isRunning = true → w₀.sample runId sid ≠ some record →
      w'.sample runId sid = some record ∨
        ∃ r, w'.sample runId sid = some r ∧ r.state.isTerminal = true

theorem Awaits.refl (w₀ : World) (i : ι) (w : World) (g : Tally ι) : Awaits runId w₀ i w g w g :=
  ⟨rfl, fun _ => .refl _, id, id, fun _ _ _ hr _ _ => .inl hr⟩

theorem Awaits.trans (h : Awaits runId w₀ i w g w' g') (h' : Awaits runId w₀ i w' g' w'' g'') :
    Awaits runId w₀ i w g w'' g'' := by
  refine ⟨h'.hand.trans h.hand, fun sid => (h.rows sid).trans (h'.rows sid), h'.deque ∘ h.deque,
    h.timely ∘ h'.timely, fun ht sid r hr hrunning hnew => ?_⟩
  rcases h.kept (h'.timely ht) sid r hr hrunning hnew with hkept | ⟨t, ht', hterminal⟩
  · exact h'.kept ht sid r hkept hrunning hnew
  · exact .inr ⟨t, (ht' ▸ h'.rows sid).of_terminal hterminal, hterminal⟩

/-- A row that is not pending does not become so. Source: `rollout-runtime-batch/src/state.rs`.
Kind: L -/
theorem Awaits.not_pending (h : Awaits runId w₀ i w g w' g') {sid : ContentId}
    (hnot : ¬ w.Pending runId sid) : ¬ w'.Pending runId sid := by
  rintro ⟨r, hr, hstate⟩
  exact hnot ⟨r, (hr ▸ h.rows sid).of_pending hstate, hstate⟩

/-- An event that leaves the rows of the samples alone. Source: none: infrastructure. Kind: L -/
theorem Awaits.of_sample {o : Op runId} {r : Except CoreError o.Out} (hj : j ≠ i)
    (hsample : ∀ sid, w'.sample runId sid = w.sample runId sid)
    (hdeque : w.deque = [] → w'.deque = []) :
    Awaits runId w₀ j w g w' (g.next staleAfterMs w₀ ⟨i, o, r, w, w'⟩) := by
  refine ⟨Function.update_of_ne hj _ _, fun sid => ?_, hdeque, And.left, fun _ sid r hr _ _ => ?_⟩
  · rw [hsample]
    exact .refl _
  · exact .inl ((hsample sid).trans hr)

/-- A swap of a row that is not terminal. Source: `rollout-runtime-batch/src/state.rs`. Kind: L -/
theorem Awaits.of_swap {o : Op runId} {r : Except CoreError o.Out} (hj : j ≠ i)
    (hrowed : w.Rowed runId) {record : SampleRecord} {state : SampleState}
    (hfrom : record.state.isTerminal = false) (hto : state ≠ .pending)
    (hkept : g.timely → w.sample runId record.id = some record → state.isTerminal = false →
      w₀.sample runId record.id = some record) :
    Awaits runId w₀ j w g { w with rows := (swap runId w.rows record state).2 }
      (g.next staleAfterMs w₀ ⟨i, o, r, w, { w with rows := (swap runId w.rows record state).2 }⟩) := by
  refine ⟨Function.update_of_ne hj _ _, hrowed.advances_swap hfrom hto, id, And.left,
    fun ht sid r hr hrunning hnew => ?_⟩
  · rw [hrowed.sample_swap]
    split
    · next hboth =>
      obtain ⟨rfl, hrow⟩ := hboth
      obtain rfl := Option.some.inj (hr.symm.trans hrow)
      cases hterminal : state.isTerminal with
      | true => exact .inr ⟨_, rfl, hterminal⟩
      | false => exact absurd (hkept ht.1 hrow hterminal) hnew
    · exact .inl hr

/-- An operation that changes no row, and not the workers. Source: none: infrastructure. Kind: L -/
theorem Pooled.step_frame (h : Pooled runId cur w₀ w g) {o : Op runId} {r : Except CoreError o.Out}
    (hrows : w'.rows = w.rows) (hdeque : w'.deque = w.deque) (hstop : w'.stopPull = w.stopPull)
    (hmove : g.move ⟨i, o, r, w, w'⟩ = g.hand i)
    (hcalls : ∀ sid, isCall sid (⟨i, o, r, w, w'⟩ : BatchEvent runId ι) = false) :
    Pooled runId cur w₀ w' (g.next staleAfterMs w₀ ⟨i, o, r, w, w'⟩) ∧
      ∀ j, j ≠ i → Awaits runId w₀ j w g w' (g.next staleAfterMs w₀ ⟨i, o, r, w, w'⟩) := by
  refine ⟨h.frame hrows hdeque hstop ?_ ?_ And.left, fun j hj => .of_sample hj ?_ ?_⟩
  · show Function.update g.hand i (g.move ⟨i, o, r, w, w'⟩) = g.hand
    rw [hmove, Function.update_eq_self]
  · funext sid
    show g.calls sid + (isCall sid (⟨i, o, r, w, w'⟩ : BatchEvent runId ι)).toNat = g.calls sid
    rw [hcalls]
    rfl
  · exact fun sid => World.sample_congr (by rw [hrows])
  · rw [hdeque]
    exact id

/-- The backend is called. Source: `rollout-runtime-batch/src/worker.rs` `run_one`. Kind: L -/
theorem Pooled.step_call (h : Pooled runId cur w₀ w g) {sample : ContentId} {prompts : List Text}
    {sampling : SamplingParams} {r : Except CoreError (Except Text (List Text))}
    (hknows : Attends w₀ i (.generate sample prompts sampling : Op runId) w g) :
    Pooled runId cur w₀ w
        (g.next staleAfterMs w₀ ⟨i, (.generate sample prompts sampling : Op runId), r, w, w⟩) ∧
      ∀ j, j ≠ i → Awaits runId w₀ j w g w
        (g.next staleAfterMs w₀ ⟨i, (.generate sample prompts sampling : Op runId), r, w, w⟩) := by
  obtain ⟨q, record, hi, rfl⟩ := hknows
  refine ⟨h.call hi ?_ (fun sid => ?_) And.left, fun j hj => .of_sample hj (fun _ => rfl) id⟩
  · show Function.update g.hand i ((g.hand i).map Hand.call) = _
    rw [hi]
    rfl
  · show g.calls sid + (decide (record.id = sid)).toNat = _
    by_cases hid : record.id = sid <;> simp [hid]

/-- A sample is claimed, or its row has changed. Source: `rollout-runtime-batch/src/state.rs`
`try_claim`. Kind: L -/
theorem Pooled.step_claim (h : Pooled runId cur w₀ w g) {record : SampleRecord} {workerId : WorkerId}
    {nowMs stale : BitVec 64} (hclaimable : claimable record.state nowMs stale = true)
    (hknows : Attends w₀ i (.store (.txn (.claim record workerId nowMs stale)) : Op runId) w g)
    {x : Bool × Rows} (hx : x = swap runId w.rows record (.running workerId nowMs)) :
    Pooled runId cur w₀ { w with rows := x.2 } (g.next staleAfterMs w₀
        ⟨i, (.store (.txn (.claim record workerId nowMs stale)) : Op runId), .ok x.1, w,
          { w with rows := x.2 }⟩) ∧
      ∀ j, j ≠ i → Awaits runId w₀ j w g { w with rows := x.2 } (g.next staleAfterMs w₀
        ⟨i, (.store (.txn (.claim record workerId nowMs stale)) : Op runId), .ok x.1, w,
          { w with rows := x.2 }⟩) := by
  obtain ⟨q, payload, hi, hpayload, hstart⟩ := hknows
  have hopen := isTerminal_of_claimable hclaimable
  rcases swap_cases runId w.rows record (.running workerId nowMs) with ⟨hget, hswap⟩ | ⟨-, hswap⟩
  · have hrow := h.rowed.get_iff.mp hget
    subst hx
    refine ⟨?_, fun j hj => .of_swap hj h.rowed hopen (by simp) fun ht hrow _ =>
      hstart hclaimable hrow ht⟩
    rw [show (swap runId w.rows record (.running workerId nowMs)).1 = true from
      congrArg Prod.fst hswap]
    refine h.claim hi hpayload hrow hclaimable (fun ht => hstart hclaimable hrow ht.1) ?_ rfl And.left
    show Function.update g.hand i ((g.hand i).map _) = _
    rw [hi]
    rfl
  · obtain rfl := hx.trans hswap
    exact h.step_frame rfl rfl rfl rfl fun _ => rfl

/-- A sample is completed or failed. Source: `rollout-runtime-batch/src/state.rs` `try_complete`,
`try_fail`. Kind: L -/
theorem Pooled.step_settle (h : Pooled runId cur w₀ w g) {o : Op runId} {r : Except CoreError o.Out}
    {record : SampleRecord} {state : SampleState} {q : Ulid} {x : Bool × Rows}
    (hx : x = swap runId w.rows record state) (hto : state.isTerminal = true)
    (hi : g.hand i = some ⟨q, .claimed record true⟩)
    (hmove : g.move ⟨i, o, r, w, { w with rows := x.2 }⟩ =
      (g.hand i).map fun hand => ⟨hand.entry, .settled⟩)
    (hcalls : ∀ sid, isCall sid (⟨i, o, r, w, { w with rows := x.2 }⟩ : BatchEvent runId ι) = false) :
    Pooled runId cur w₀ { w with rows := x.2 }
        (g.next staleAfterMs w₀ ⟨i, o, r, w, { w with rows := x.2 }⟩) ∧
      ∀ j, j ≠ i → Awaits runId w₀ j w g { w with rows := x.2 }
        (g.next staleAfterMs w₀ ⟨i, o, r, w, { w with rows := x.2 }⟩) := by
  subst hx
  have hopen := SampleState.isTerminal_of_isRunning (h.begun i record true ⟨q, hi⟩).1
  refine ⟨h.settle hto hi ?_ ?_ And.left, fun j hj => .of_swap hj h.rowed hopen ?_ ?_⟩
  · refine congrArg (Function.update g.hand i) (hmove.trans ?_)
    rw [hi]
    rfl
  · funext sid
    show g.calls sid + (isCall sid _).toNat = g.calls sid
    rw [hcalls]
    rfl
  · rintro rfl
    cases hto
  · intro _ _ hstate
    rw [hto] at hstate
    cases hstate

/-- **An operation of a worker keeps to the agreement.**
Source: `rollout-runtime-batch/src/worker.rs`, `rollout-cloud-local/src/queue.rs`. Kind: L -/
theorem Pooled.step (h : Pooled runId cur w₀ w g) {o : Op runId} {r : Except CoreError o.Out}
    (hdoes : (machine runId ι).Does ⟨i, o, r, w, w'⟩) (hknows : Attends w₀ i o w g) :
    Pooled runId cur w₀ w' (g.next staleAfterMs w₀ ⟨i, o, r, w, w'⟩) ∧
      ∀ j, j ≠ i → Awaits runId w₀ j w g w' (g.next staleAfterMs w₀ ⟨i, o, r, w, w'⟩) := by
  rcases Service.does_iff.mp hdoes with ⟨err, rfl, rfl⟩ | ⟨ch, a, hperf, rfl⟩
  · cases o with
    | generate sample prompts sampling => exact h.step_call hknows
    | store o =>
        cases o with
        | txn t => cases t <;> exact h.step_frame rfl rfl rfl rfl fun _ => rfl
        | _ => exact h.step_frame rfl rfl rfl rfl fun _ => rfl
    | _ => exact h.step_frame rfl rfl rfl rfl fun _ => rfl
  · cases o with
    | store o =>
        obtain ⟨rfl, rfl⟩ := Prod.mk.inj (Option.some.inj hperf)
        cases o with
        | get k => exact h.step_frame rfl rfl rfl rfl fun _ => rfl
        | scan p => exact h.step_frame rfl rfl rfl rfl fun _ => rfl
        | txn t =>
            cases t with
            | create record => exact hknows.elim
            | repending record => exact hknows.elim
            | enqueue id payload => exact hknows.elim
            | claim record workerId nowMs stale =>
                have hclaim := atomically_claim runId w.rows record workerId nowMs stale
                cases hclaimable : claimable record.state nowMs stale with
                | false =>
                    rw [hclaimable] at hclaim
                    dsimp only [Store.perform]
                    rw [hclaim]
                    exact h.step_frame rfl rfl rfl rfl fun _ => rfl
                | true =>
                    rw [hclaimable] at hclaim
                    exact h.step_claim hclaimable hknows hclaim
            | complete record blob t =>
                obtain ⟨q, hi⟩ := hknows
                exact h.step_settle (atomically_complete runId w.rows record blob t) rfl hi rfl
                  fun _ => rfl
            | fail record reason t =>
                obtain ⟨q, hi⟩ := hknows
                exact h.step_settle (atomically_fail runId w.rows record reason t) rfl hi rfl
                  fun _ => rfl
            | ack id =>
                obtain ⟨stage, hi, hclaimed, hdone⟩ := hknows
                exact ⟨h.acked hi hclaimed hdone rfl rfl And.left, fun j hj => .of_sample hj
                  (fun sid => World.sample_congr
                    (KV.get_del_of_ne _ _ _ (sampleKey_ne_keyFor runId sid id))) fun hempty => hempty⟩
    | openDeque entries => exact hknows.elim
    | pushBack id payload => exact hknows.elim
    | popFront =>
        obtain ⟨rfl, rfl⟩ := Prod.mk.inj (Option.some.inj hperf)
        cases hdeque : w.deque with
        | nil => exact h.step_frame rfl hdeque.symm rfl rfl fun _ => rfl
        | cons entry rest =>
            refine ⟨h.take hknows hdeque rfl rfl And.left, fun j hj => .of_sample hj (fun _ => rfl) ?_⟩
            intro hempty
            rw [hdeque] at hempty
            cases hempty
    | getObject id =>
        obtain ⟨bytes, -, hres⟩ := Option.map_eq_some_iff.mp hperf
        obtain ⟨rfl, rfl⟩ := Prod.mk.inj hres
        exact h.step_frame rfl rfl rfl rfl fun _ => rfl
    | generate sample prompts sampling =>
        obtain ⟨rfl, rfl⟩ := Prod.mk.inj (Option.some.inj hperf)
        exact h.step_call hknows
    | _ =>
        obtain ⟨rfl, rfl⟩ := Prod.mk.inj (Option.some.inj hperf)
        exact h.step_frame rfl rfl rfl rfl fun _ => rfl

/-- **The agreement of the workers of a pool.** Source: `rollout-cli/src/infer.rs` `run_pool`.
Kind: D -/
def pool (runId : RunId) (ι : Type) [DecidableEq ι] (staleAfterMs : BitVec 64)
    (cur : ContentId → Prop) (w₀ : World) : Discipline (machine runId ι) (Tally ι) where
  upd := Tally.next staleAfterMs w₀
  inv := Pooled runId cur w₀
  rely := Awaits runId w₀
  pre := Attends w₀
  assume _ := True
  rely_refl := Awaits.refl w₀
  rely_trans _ _ _ _ _ _ _ h h' := h.trans h'
  step := by
    rintro ⟨i, o, r, w, w'⟩ g hdoes - h hknows
    exact h.step hdoes hknows
  tick t := t.elim

/-! ## The programs -/

variable {qid : Ulid} {running record : SampleRecord} {worker : BatchWorker}

/-- What a worker leaves when it is through with an entry.
Source: `rollout-runtime-batch/src/worker.rs` `run_one`. Kind: D -/
def Ends (i : ι) (hand : Option Hand) : Except CoreError RunOutcome → World → Tally ι → Prop
  | .ok outcome, w, g => g.hand i = hand ∧ (outcome = .drained → w.deque = [])
  | .error _, _, _ => True

/-- The entry of the worker itself after an event. Source: none: infrastructure. Kind: L -/
theorem Tally.hand_next (g : Tally ι) {o : Op runId} {r : Except CoreError o.Out} :
    (g.next staleAfterMs w₀ ⟨i, o, r, w, w'⟩).hand i = g.move ⟨i, o, r, w, w'⟩ :=
  Function.update_self _ _ _

/-- **An entry is acknowledged, and the program returns.** Source: `rollout-cloud-local/src/queue.rs`
`ack`. Kind: L -/
theorem pool_ack {stage : Stage} (hi : g.hand i = some ⟨qid, stage⟩)
    (hclaimed : ∀ r c, stage ≠ .claimed r c)
    (hdone : ∀ sid, stage = .taken (ContentId.chars sid) → ¬ w.Pending runId sid)
    {outcome : RunOutcome} (hdrained : outcome = .drained → w.deque = []) :
    (ack qid >>= fun _ => pure outcome : BatchM runId RunOutcome).Safe
      (pool runId ι staleAfterMs cur w₀) i (Ends i none) w g := by
  refine Service.safe_ask (fun _ _ _ => trivial) fun w₁ g₁ (hrely : Awaits runId w₀ i w g w₁ g₁) _ =>
    ⟨⟨stage, hrely.hand.trans hi, hclaimed, fun sid hsid => hrely.not_pending (hdone sid hsid)⟩, ?_⟩
  intro ch a w₂ hperf _ _
  obtain ⟨-, rfl⟩ := Prod.mk.inj (Option.some.inj hperf)
  exact fun w₃ g₃ (hrely₃ : Awaits runId w₀ i _ _ w₃ g₃) _ =>
    ⟨hrely₃.hand.trans g₁.hand_next, fun hout => hrely₃.deque (hrely.deque (hdrained hout))⟩

/-- **What the backend returned is stored.** Source: `rollout-runtime-batch/src/worker.rs` `run_one`
(`Ok(mut completions)`). Kind: L -/
theorem pool_complete (hi : g.hand i = some ⟨qid, .claimed running true⟩) (completions : List Text) :
    (BatchWorker.complete running completions : BatchM runId RunOutcome).Safe
      (pool runId ι staleAfterMs cur w₀) i (Ends i (some ⟨qid, .settled⟩)) w g := by
  unfold BatchWorker.complete
  refine Prog.Safe.ofExcept_bind (fun _ _ _ => trivial) fun text _ => ?_
  refine Service.safe_ask (fun _ _ _ => trivial) fun w₁ g₁ (hrely : Awaits runId w₀ i w g w₁ g₁) _ =>
    ⟨trivial, ?_⟩
  intro ch blob w₂ _ _ _
  refine Service.safe_ask (fun _ _ _ => trivial) fun w₃ g₃ (hrely₃ : Awaits runId w₀ i w₂ _ w₃ g₃) _ =>
    ⟨trivial, ?_⟩
  intro ch finishedAtMs w₄ _ _ _
  refine Service.safe_ask (fun _ _ _ => trivial) fun w₅ g₅ (hrely₅ : Awaits runId w₀ i w₄ _ w₅ g₅) _ => ?_
  have hi₅ : g₅.hand i = some ⟨qid, .claimed running true⟩ :=
    hrely₅.hand.trans (g₃.hand_next.trans (hrely₃.hand.trans (g₁.hand_next.trans
      (hrely.hand.trans hi))))
  refine ⟨⟨qid, hi₅⟩, ?_⟩
  intro ch applied w₆ _ _ _
  split
  · exact fun _ _ _ _ => trivial
  · intro w₇ g₇ hrely₇ _
    refine ⟨(show Awaits runId w₀ i w₆ _ w₇ g₇ from hrely₇).hand.trans ?_, by rintro ⟨⟩⟩
    refine g₅.hand_next.trans ?_
    rw [Tally.move, hi₅]
    rfl

/-- **The backend's failure is recorded.** Source: `rollout-runtime-batch/src/worker.rs` `run_one`
(`Err(e)`). Kind: L -/
theorem pool_recordFailure (hi : g.hand i = some ⟨qid, .claimed running true⟩) (reason : Text) :
    (BatchWorker.recordFailure running reason : BatchM runId RunOutcome).Safe
      (pool runId ι staleAfterMs cur w₀) i (Ends i (some ⟨qid, .settled⟩)) w g := by
  unfold BatchWorker.recordFailure
  refine Service.safe_ask (fun _ _ _ => trivial) fun w₁ g₁ (hrely : Awaits runId w₀ i w g w₁ g₁) _ =>
    ⟨trivial, ?_⟩
  intro ch failedAtMs w₂ _ _ _
  refine Service.safe_ask (fun _ _ _ => trivial) fun w₃ g₃ (hrely₃ : Awaits runId w₀ i w₂ _ w₃ g₃) _ => ?_
  have hi₃ : g₃.hand i = some ⟨qid, .claimed running true⟩ :=
    hrely₃.hand.trans (g₁.hand_next.trans (hrely.hand.trans hi))
  refine ⟨⟨qid, hi₃⟩, ?_⟩
  intro ch applied w₄ _ _ _ w₅ g₅ hrely₅ _
  refine ⟨(show Awaits runId w₀ i w₄ _ w₅ g₅ from hrely₅).hand.trans ?_, by rintro ⟨⟩⟩
  refine g₃.hand_next.trans ?_
  rw [Tally.move, hi₃]
  rfl

/-- **A claimed sample is generated for.** Source: `rollout-runtime-batch/src/worker.rs` `run_one`
(after the claim). Kind: L -/
theorem pool_process (hi : g.hand i = some ⟨qid, .claimed running false⟩) :
    (worker.process running : BatchM runId RunOutcome).Safe
      (pool runId ι staleAfterMs cur w₀) i (Ends i (some ⟨qid, .settled⟩)) w g := by
  unfold BatchWorker.process
  refine Service.safe_ask (fun _ _ _ => trivial) fun w₁ g₁ (hrely : Awaits runId w₀ i w g w₁ g₁) _ =>
    ⟨trivial, ?_⟩
  intro ch promptBytes w₂ _ _ _
  refine Prog.Safe.ofExcept_bind (fun _ _ _ => trivial) fun prompt _ => ?_
  refine Service.safe_ask (fun _ _ _ => trivial) fun w₃ g₃ (hrely₃ : Awaits runId w₀ i w₂ _ w₃ g₃) _ => ?_
  have hi₃ : g₃.hand i = some ⟨qid, .claimed running false⟩ :=
    hrely₃.hand.trans (g₁.hand_next.trans (hrely.hand.trans hi))
  refine ⟨⟨qid, running, hi₃, rfl⟩, ?_⟩
  intro ch result w₄ _ _ _
  have hi₄ : (g₃.next staleAfterMs w₀ ⟨i, (.generate running.id [prompt] worker.sampling : Op runId),
      .ok result, w₃, w₄⟩).hand i = some ⟨qid, .claimed running true⟩ := by
    refine g₃.hand_next.trans ?_
    rw [Tally.move, hi₃]
    rfl
  cases result with
  | ok completions => exact pool_complete hi₄ completions
  | error e => exact pool_recordFailure hi₄ e

/-- While no claim of the pass has become stale, a row that was read and can still be claimed is as
it was when the workers were spawned: what the pass itself has claimed since is not stale.
Source: `rollout-runtime-batch/src/state.rs` `try_claim`. Kind: L -/
theorem start_of_claimable {w₁ w₂ : World} {g₁ g₂ : Tally ι} {nowMs : BitVec 64}
    (hrow : w.sample runId record.id = some record) (hopen : record.state.isTerminal = false)
    (hrely : Awaits runId w₀ i w g w₁ g₁) (hclock : g₂.timely → g₁.timely ∧
      Timely runId staleAfterMs w₀ w₁ nowMs)
    (hrows : ∀ sid, Advances (w₁.sample runId sid) (w₂.sample runId sid))
    (hinv : Pooled runId cur w₀ w₂ g₂)
    (hclaimable : claimable record.state nowMs staleAfterMs = true)
    (hrow₂ : w₂.sample runId record.id = some record) (ht : g₂.timely) :
    w₀.sample runId record.id = some record := by
  by_contra hnew
  rcases record.state.cases_kind with hpending | hrunning | hterminal
  · exact hnew ((hrow₂ ▸ hinv.since record.id).of_pending hpending)
  · obtain ⟨ht₁, htimely⟩ := hclock ht
    rcases hrely.kept ht₁ record.id record hrow hrunning hnew with hrow₁ | ⟨r, hr, hterminal⟩
    · cases hstate : record.state with
      | running workerId startedAtMs =>
          have hfresh := htimely record.id record workerId startedAtMs hrow₁ hstate hnew
          rw [hstate] at hclaimable
          exact Bool.false_ne_true (hfresh.symm.trans hclaimable)
      | _ => rw [hstate] at hrunning; cases hrunning
    · have hsame := (hr ▸ hrows record.id).of_terminal hterminal
      obtain rfl := Option.some.inj (hrow₂.symm.trans hsame)
      rw [hopen] at hterminal
      cases hterminal
  · rw [hopen] at hterminal
    cases hterminal

/-- A claim that was refused is of a row that is not pending.
Source: `rollout-runtime-batch/src/state.rs` `try_claim`. Kind: L -/
theorem not_pending_of_refused {nowMs stale : BitVec 64} {workerId : WorkerId} {x : Bool × Rows}
    (hrowed : w.Rowed runId)
    (hrow : w.Pending runId record.id → w.sample runId record.id = some record)
    (hx : x = if claimable record.state nowMs stale then
      swap runId w.rows record (.running workerId nowMs) else (false, w.rows)) (hfalse : x.1 = false) :
    ¬ ({ w with rows := x.2 } : World).Pending runId record.id := by
  have hrows : x.2 = w.rows ∧ ¬ w.Pending runId record.id := by
    cases hclaimable : claimable record.state nowMs stale with
    | false =>
        rw [hclaimable] at hx
        refine ⟨congrArg Prod.snd hx, fun hpending => ?_⟩
        have hs := hrow hpending
        obtain ⟨r, hr, hstate⟩ := hpending
        obtain rfl := Option.some.inj (hr.symm.trans hs)
        rw [hstate] at hclaimable
        cases hclaimable
    | true =>
        rw [hclaimable, if_pos rfl] at hx
        rcases swap_cases runId w.rows record (.running workerId nowMs) with ⟨-, hswap⟩ | ⟨hget, hswap⟩
        · rw [hx, hswap] at hfalse
          cases hfalse
        · refine ⟨congrArg Prod.snd (hx.trans hswap), fun hpending => ?_⟩
          exact hget (hrowed.get_iff.mpr (hrow hpending))
  rw [hrows.1]
  exact hrows.2

/-- **A sample is claimed, and what follows.** Source: `rollout-runtime-batch/src/worker.rs` `run_one`
(from `Try to claim`). Kind: L -/
theorem pool_claimAndProcess {payload : Bytes} (hstale : worker.staleAfterMs = staleAfterMs)
    (hi : g.hand i = some ⟨qid, .taken payload⟩)
    (hpayload : ∀ sid, payload = ContentId.chars sid → sid = record.id)
    (hrow : w.sample runId record.id = some record) (hopen : record.state.isTerminal = false) :
    (worker.claimAndProcess qid record : BatchM runId RunOutcome).Safe
      (pool runId ι staleAfterMs cur w₀) i (Ends i none) w g := by
  subst hstale
  unfold BatchWorker.claimAndProcess
  refine Service.safe_ask (fun _ _ _ => trivial) fun w₁ g₁ (hrely : Awaits runId w₀ i w g w₁ g₁) _ =>
    ⟨trivial, ?_⟩
  intro ch nowMs w₁' hperf _ _
  obtain ⟨-, rfl⟩ := Prod.mk.inj (Option.some.inj hperf)
  refine Service.safe_ask (fun _ _ _ => trivial) fun w₂ g₂ (hrely₂ : Awaits runId w₀ i w₁ _ w₂ g₂)
    (hinv : Pooled runId cur w₀ w₂ g₂) => ?_
  have hi₂ : g₂.hand i = some ⟨qid, .taken payload⟩ :=
    hrely₂.hand.trans (g₁.hand_next.trans (hrely.hand.trans hi))
  refine ⟨⟨qid, payload, hi₂, hpayload, start_of_claimable hrow hopen hrely hrely₂.timely hrely₂.rows
    hinv⟩, ?_⟩
  intro ch claimed w₃ hperf _ _
  have hclaim := atomically_claim runId w₂.rows record worker.workerId nowMs worker.staleAfterMs
  obtain ⟨hclaimed, hw₃⟩ := Prod.mk.inj (Option.some.inj hperf)
  have hnext : (g₂.next worker.staleAfterMs w₀ ⟨i, (.store (.txn (.claim record worker.workerId nowMs
      worker.staleAfterMs)) : Op runId), .ok claimed, w₂, w₃⟩).hand i = some ⟨qid, if claimed then
        .claimed (worker.running record nowMs) false else .taken payload⟩ := by
    refine g₂.hand_next.trans ?_
    cases claimed with
    | false => exact hi₂
    | true =>
        rw [Tally.move, hi₂]
        rfl
  cases claimed with
  | false =>
      refine pool_ack hnext (fun _ _ h => nomatch h) (fun sid hsid => ?_) (by rintro ⟨⟩)
      obtain rfl := hpayload sid (Stage.taken.inj hsid)
      have hbefore : w₂.Pending runId record.id → w₂.sample runId record.id = some record := by
        rintro ⟨r, hr, hstate⟩
        have hread := (hr ▸ (hrely.rows record.id).trans (hrely₂.rows record.id)).of_pending hstate
        exact hr.trans (hread.symm.trans hrow)
      exact hw₃ ▸ not_pending_of_refused hinv.rowed hbefore hclaim hclaimed
  | true =>
      refine Prog.Safe.bind ((pool_process hnext).weaken ?_)
      rintro (e | outcome) w₄ g₄ hends
      · trivial
      · exact pool_ack hends.1 (fun _ _ h => nomatch h) (fun _ h => nomatch h) hends.2

/-- **One entry of the queue.** Source: `rollout-runtime-batch/src/worker.rs` `run_one`. Kind: L -/
theorem pool_runOne (hstale : worker.staleAfterMs = staleAfterMs) (hi : g.hand i = none) :
    (worker.runOne : BatchM runId RunOutcome).Safe
      (pool runId ι staleAfterMs cur w₀) i (Ends i none) w g := by
  unfold BatchWorker.runOne
  refine Service.safe_ask (fun _ _ _ => trivial) fun w₁ g₁ (hrely : Awaits runId w₀ i w g w₁ g₁) _ =>
    ⟨hrely.hand.trans hi, ?_⟩
  intro ch entry w₂ hperf _ _
  obtain ⟨rfl, rfl⟩ := Prod.mk.inj (Option.some.inj hperf)
  cases hdeque : w₁.deque with
  | nil =>
      intro w₃ g₃ hrely₃ _
      have hrely₃ : Awaits runId w₀ i _ _ w₃ g₃ := hrely₃
      exact ⟨hrely₃.hand.trans (g₁.hand_next.trans (hrely.hand.trans hi)), fun _ => hrely₃.deque rfl⟩
  | cons entry rest =>
      obtain ⟨qid, payload⟩ := entry
      refine Prog.Safe.ofExcept_bind (fun _ _ _ => trivial) fun sid hparse => ?_
      have hpayload : ∀ sid', payload = ContentId.chars sid' → sid' = sid := by
        rintro sid' rfl
        rw [parseSampleId_chars] at hparse
        exact Except.ok.inj hparse
      refine Service.safe_ask (fun _ _ _ => trivial) fun w₃ g₃ (hrely₃ : Awaits runId w₀ i _ _ w₃ g₃)
        (hinv₃ : Pooled runId cur w₀ w₃ g₃) => ⟨trivial, ?_⟩
      intro ch row w₄ hperf _ _
      obtain ⟨rfl, rfl⟩ := Prod.mk.inj (Option.some.inj hperf)
      have hi₃ : (g₃.next staleAfterMs w₀ ⟨i, (.store (.get (sampleKey runId sid)) : Op runId),
          .ok (w₃.rows.get (sampleKey runId sid)), w₃, w₃⟩).hand i = some ⟨qid, .taken payload⟩ :=
        g₃.hand_next.trans (hrely₃.hand.trans g₁.hand_next)
      dsimp only [Store.perform]
      cases hget : w₃.rows.get (sampleKey runId sid) with
      | none =>
          rw [hget] at hi₃
          refine pool_ack hi₃ (fun _ _ h => nomatch h) (fun sid' hsid => ?_) (by rintro ⟨⟩)
          obtain rfl := hpayload sid' (Stage.taken.inj hsid)
          rintro ⟨r, hr, -⟩
          rw [World.sample_of_none hget] at hr
          cases hr
      | some bytes =>
          refine Prog.Safe.ofExcept_bind (fun _ _ _ => trivial) fun record hdec => ?_
          have hrow := World.sample_of_decode hget hdec
          obtain rfl := hinv₃.rowed.id_eq hrow
          rw [hget] at hi₃
          split
          · next hterminal =>
            refine pool_ack hi₃ (fun _ _ h => nomatch h) (fun sid' hsid => ?_) (by rintro ⟨⟩)
            obtain rfl := hpayload sid' (Stage.taken.inj hsid)
            rintro ⟨r, hr, hstate⟩
            obtain rfl := Option.some.inj (hr.symm.trans hrow)
            rw [hstate] at hterminal
            cases hterminal
          · next hopen =>
            exact pool_claimAndProcess hstale hi₃ hpayload hrow (Bool.not_eq_true _ ▸ hopen)

/-- What a worker leaves when it returns. Source: `rollout-runtime-batch/src/worker.rs` `run_loop`.
Kind: D -/
def Quits (i : ι) : Except CoreError (Option Nat) → World → Tally ι → Prop
  | .ok (some _), w, g => g.hand i = none ∧ w.deque = []
  | _, _, _ => True

/-- **A worker.** Source: `rollout-runtime-batch/src/worker.rs` `run_loop`. Kind: L -/
theorem pool_runLoop (hstale : worker.staleAfterMs = staleAfterMs) (fuel completed : Nat)
    (hi : g.hand i = none) :
    (worker.runLoop fuel completed : BatchM runId (Option Nat)).Safe
      (pool runId ι staleAfterMs cur w₀) i (Quits i) w g := by
  induction fuel generalizing completed w g with
  | zero => exact fun _ _ _ _ => trivial
  | succ fuel ih =>
      refine Service.safe_ask (fun _ _ _ => trivial) fun w₁ g₁ (hrely : Awaits runId w₀ i w g w₁ g₁)
        (hinv : Pooled runId cur w₀ w₁ g₁) => ⟨trivial, ?_⟩
      intro ch stop w₂ hperf _ _
      obtain ⟨rfl, rfl⟩ := Prod.mk.inj (Option.some.inj hperf)
      rw [if_neg (by rw [hinv.stopPull]; decide)]
      refine Prog.Safe.bind ((pool_runOne hstale ?_).weaken ?_)
      · exact g₁.hand_next.trans (hrely.hand.trans hi)
      · rintro (e | outcome) w₃ g₃ hends
        · trivial
        · cases outcome with
          | drained =>
              intro w₄ g₄ hrely₄ _
              have hrely₄ : Awaits runId w₀ i w₃ g₃ w₄ g₄ := hrely₄
              exact ⟨hrely₄.hand.trans hends.1, hrely₄.deque (hends.2 rfl)⟩
          | completed => exact ih _ hends.1
          | failed => exact ih _ hends.1
          | skipped => exact ih _ hends.1

end pool

end Rollout.Batch
