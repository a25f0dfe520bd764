import Rollout.Batch.Working

/-!
# The pool

* `Advances` — how a row changes while the workers run: from pending or running to running or
  terminal, and never back.
* `Tally` — the entry each worker has taken and how far it is with it, how often the backend was
  called for each sample, and whether no clock reading has found a claim of the pass stale.
* `Pooled` — what holds while the workers run; `Once` is the part that rests on the clock.
* `Pooled.take`, `Pooled.claim`, `Pooled.call`, `Pooled.settle`, `Pooled.acked` — what each step of
  a worker keeps of it.
-/

set_option linter.unusedSectionVars false

namespace Rollout.Batch

open Rollout.Lib Rollout.Core

variable [Blake3] {runId : RunId} {ι : Type} [DecidableEq ι]

/-! ## Rows that advance -/

/-- How a row changes while the workers run. Source: `rollout-runtime-batch/src/state.rs`
`try_claim`, `try_complete`, `try_fail`. Kind: D -/
inductive Advances : Option SampleRecord → Option SampleRecord → Prop
  | refl (row : Option SampleRecord) : Advances row row
  | move (a b : SampleRecord) (hfrom : a.state.isTerminal = false) (hto : b.state ≠ .pending) :
      Advances (some a) (some b)

namespace Advances

variable {a b c : Option SampleRecord} {record : SampleRecord}

theorem trans (h : Advances a b) (h' : Advances b c) : Advances a c := by
  cases h with
  | refl => exact h'
  | move x y hfrom hto =>
      cases h' with
      | refl => exact .move x y hfrom hto
      | move _ z _ hto' => exact .move x z hfrom hto'

/-- A terminal row stays. Source: `rollout-runtime-batch/src/state.rs`. Kind: L -/
theorem of_terminal (h : Advances (some record) b) (hterminal : record.state.isTerminal = true) :
    b = some record := by
  cases h with
  | refl => rfl
  | move _ _ hfrom => rw [hterminal] at hfrom; cases hfrom

/-- A row that is pending was so before. Source: `rollout-runtime-batch/src/state.rs`. Kind: L -/
theorem of_pending (h : Advances a (some record)) (hpending : record.state = .pending) :
    a = some record := by
  cases h with
  | refl => rfl
  | move _ _ _ hto => exact absurd hpending hto

/-- A row that has changed was not terminal. Source: `rollout-runtime-batch/src/state.rs`.
Kind: L -/
theorem start_open (h : Advances a (some record)) (hopen : record.state.isTerminal = false) :
    ∃ r, a = some r ∧ r.state.isTerminal = false := by
  cases h with
  | refl => exact ⟨record, rfl, hopen⟩
  | move x _ hfrom => exact ⟨x, rfl, hfrom⟩

theorem isSome_eq (h : Advances a b) : a.isSome = b.isSome := by
  cases h <;> rfl

end Advances

/-- Whether a state is `running`. Source: `rollout-runtime-batch/src/state.rs` `SampleState`.
Kind: D -/
def SampleState.isRunning : SampleState → Bool
  | .running .. => true
  | _ => false

theorem SampleState.isTerminal_of_isRunning {state : SampleState} (h : state.isRunning = true) :
    state.isTerminal = false := by
  cases state with
  | running => rfl
  | _ => cases h

/-- A state is pending, running or terminal. Source: `rollout-runtime-batch/src/state.rs`
`SampleState`. Kind: L -/
theorem SampleState.cases_kind (state : SampleState) :
    state = .pending ∨ state.isRunning = true ∨ state.isTerminal = true := by
  cases state with
  | pending => exact .inl rfl
  | running => exact .inr (.inl rfl)
  | done => exact .inr (.inr rfl)
  | failed => exact .inr (.inr rfl)

/-- A claim changes the state: a stale claim is not made anew at its own time.
Source: `rollout-runtime-batch/src/state.rs` `try_claim`. Kind: L -/
theorem running_ne_of_claimable {state : SampleState} {nowMs staleAfterMs : BitVec 64}
    (h : claimable state nowMs staleAfterMs = true) (workerId : WorkerId) :
    SampleState.running workerId nowMs ≠ state := by
  rintro rfl
  have hstale : staleAfterMs.toNat < nowMs.toNat - nowMs.toNat := of_decide_eq_true h
  rw [Nat.sub_self] at hstale
  exact absurd hstale (Nat.not_lt_zero _)

/-- The samples after a swap. Source: none: infrastructure. Kind: L -/
theorem World.Rowed.sample_swap {w : World} (h : w.Rowed runId) (record : SampleRecord)
    (state : SampleState) (sid : ContentId) :
    ({ w with rows := (swap runId w.rows record state).2 } : World).sample runId sid =
      if sid = record.id ∧ w.sample runId record.id = some record then some { record with state }
      else w.sample runId sid := by
  rcases swap_cases runId w.rows record state with ⟨hrow, hswap⟩ | ⟨hrow, hswap⟩
  · have hput : (Batch.swap runId w.rows record state).2 =
        w.rows.put (sampleKey runId ({ record with state } : SampleRecord).id)
          (encodeRecord { record with state }) := congrArg Prod.snd hswap
    rw [World.sample_put (w := w) hput]
    have hs := h.get_iff.mp hrow
    simp [hs]
  · rw [if_neg fun hboth => hrow (h.get_iff.mpr hboth.2)]
    exact World.sample_congr (by rw [hswap])

theorem World.Rowed.swap {w : World} (h : w.Rowed runId) (record : SampleRecord)
    (state : SampleState) :
    ({ w with rows := (Batch.swap runId w.rows record state).2 } : World).Rowed runId := by
  rcases swap_cases runId w.rows record state with ⟨-, hswap⟩ | ⟨-, hswap⟩
  · have hput : (Batch.swap runId w.rows record state).2 =
        w.rows.put (sampleKey runId ({ record with state } : SampleRecord).id)
          (encodeRecord { record with state }) := congrArg Prod.snd hswap
    exact h.put hput
  · exact h.congr fun sid => by rw [hswap]

/-- Whether a swap is applied is whether the row is still the record.
Source: none: infrastructure. Kind: L -/
theorem World.Rowed.swap_applied {w : World} (h : w.Rowed runId) (record : SampleRecord)
    (state : SampleState) :
    (Batch.swap runId w.rows record state).1 = true ↔ w.sample runId record.id = some record := by
  rw [← h.get_iff]
  unfold Batch.swap
  split
  · next hrow => exact iff_of_true rfl hrow
  · next hrow => exact iff_of_false Bool.false_ne_true hrow

/-- A swap of a row that is not terminal advances it. Source: `rollout-runtime-batch/src/state.rs`.
Kind: L -/
theorem World.Rowed.advances_swap {w : World} (h : w.Rowed runId) {record : SampleRecord}
    {state : SampleState} (hfrom : record.state.isTerminal = false) (hto : state ≠ .pending)
    (sid : ContentId) : Advances (w.sample runId sid)
      (({ w with rows := (Batch.swap runId w.rows record state).2 } : World).sample runId sid) := by
  rw [h.sample_swap]
  split
  · next hboth =>
    rw [hboth.1, hboth.2]
    exact .move _ _ hfrom hto
  · exact .refl _

/-! ## What the workers are at -/

/-- How far a worker is with the entry it has taken.
Source: `rollout-runtime-batch/src/worker.rs` `run_one`. Kind: D -/
inductive Stage
  | taken (payload : Bytes)
  | claimed (running : SampleRecord) (called : Bool)
  | settled

/-- The entry a worker has taken. Source: `rollout-runtime-batch/src/worker.rs` `run_one`. Kind: D -/
structure Hand where
  /-- The entry. -/
  entry : Ulid
  /-- How far the worker is with it. -/
  stage : Stage

/-- The backend has been called. Source: `rollout-runtime-batch/src/worker.rs` `run_one`. Kind: D -/
def Hand.call (hand : Hand) : Hand where
  entry := hand.entry
  stage := match hand.stage with
    | .claimed running _ => .claimed running true
    | stage => stage

/-- What the workers are at, how often the backend was called for each sample, and whether the clock
has found no claim of the pass stale. Source: none: infrastructure. Kind: D -/
structure Tally (ι : Type) where
  /-- The entries the workers have taken. -/
  hand : ι → Option Hand
  /-- The calls of the backend. -/
  calls : ContentId → Nat
  /-- Whether no claim of the pass was found stale. -/
  timely : Prop

/-- The tally when the workers are spawned. Source: none: infrastructure. Kind: D -/
def Tally.start (ι : Type) : Tally ι := ⟨fun _ => none, fun _ => 0, True⟩

/-- A clock reading finds no claim stale that was made after `w₀`.
Source: `rollout-runtime-batch/src/state.rs` `try_claim`. Kind: D -/
def Timely (runId : RunId) (staleAfterMs : BitVec 64) (w₀ w : World) (nowMs : BitVec 64) : Prop :=
  ∀ sid record workerId startedAtMs, w.sample runId sid = some record →
    record.state = .running workerId startedAtMs → w₀.sample runId sid ≠ some record →
      isStale nowMs startedAtMs staleAfterMs = false

/-- The event is no clock reading that finds a claim stale that was made after `w₀`.
Source: `rollout-runtime-batch/src/worker.rs` `run_one` (`now_ms`). Kind: D -/
def OnTime (staleAfterMs : BitVec 64) (w₀ : World) (e : BatchEvent runId ι) : Prop :=
  match e with
  | ⟨_, .nowMs, .ok nowMs, w, _⟩ => Timely runId staleAfterMs w₀ w nowMs
  | _ => True

/-- The event is a call of the backend for the sample.
Source: `rollout-runtime-batch/src/worker.rs` `run_one` (`generate`). Kind: D -/
def isCall (sid : ContentId) (e : BatchEvent runId ι) : Bool :=
  match e with
  | ⟨_, .generate sample .., _, _, _⟩ => sample = sid
  | _ => false

/-- The entry of a worker after an event. Source: none: infrastructure. Kind: D -/
def Tally.move (g : Tally ι) (e : BatchEvent runId ι) : Option Hand :=
  match e with
  | ⟨_, .popFront, .ok (some entry), _, _⟩ => some ⟨entry.1, .taken entry.2⟩
  | ⟨i, .store (.txn (.claim record workerId nowMs _)), .ok true, _, _⟩ =>
      (g.hand i).map fun hand => ⟨hand.entry,
        .claimed { record with state := .running workerId nowMs } false⟩
  | ⟨i, .generate .., _, _, _⟩ => (g.hand i).map Hand.call
  | ⟨i, .store (.txn (.complete ..)), .ok _, _, _⟩ =>
      (g.hand i).map fun hand => ⟨hand.entry, .settled⟩
  | ⟨i, .store (.txn (.fail ..)), .ok _, _, _⟩ =>
      (g.hand i).map fun hand => ⟨hand.entry, .settled⟩
  | ⟨_, .store (.txn (.ack _)), .ok _, _, _⟩ => none
  | e => g.hand e.who

/-- The tally after an event. Source: none: infrastructure. Kind: D -/
def Tally.next (staleAfterMs : BitVec 64) (w₀ : World) (g : Tally ι) (e : BatchEvent runId ι) :
    Tally ι where
  hand := Function.update g.hand e.who (g.move e)
  calls sid := g.calls sid + (isCall sid e).toNat
  timely := g.timely ∧ OnTime staleAfterMs w₀ e

namespace Tally

variable {g g' : Tally ι} {i j : ι} {record : SampleRecord} {called : Bool} {sid : ContentId}

/-- The worker has claimed the record. Source: `rollout-runtime-batch/src/worker.rs` `run_one`.
Kind: D -/
def Claims (g : Tally ι) (i : ι) (record : SampleRecord) (called : Bool) : Prop :=
  ∃ q, g.hand i = some ⟨q, .claimed record called⟩

/-- The worker has taken an entry of the sample.
Source: `rollout-runtime-batch/src/worker.rs` `run_one`. Kind: D -/
def Takes (g : Tally ι) (i : ι) (sid : ContentId) : Prop :=
  ∃ q, g.hand i = some ⟨q, .taken sid.chars⟩

/-- The entry of each worker. Source: none: infrastructure. Kind: D -/
def entries (g : Tally ι) (i : ι) : Option Ulid := (g.hand i).map Hand.entry

theorem Claims.unique {record' : SampleRecord} {called' : Bool} (h : g.Claims i record called)
    (h' : g.Claims i record' called') : record = record' ∧ called = called' := by
  obtain ⟨q, hq⟩ := h
  obtain ⟨q', hq'⟩ := h'
  rw [hq] at hq'
  cases hq'
  exact ⟨rfl, rfl⟩

theorem claims_of_ne {x : Option Hand} (hhand : g'.hand = Function.update g.hand i x) (hj : j ≠ i) :
    g'.Claims j record called ↔ g.Claims j record called := by
  unfold Claims
  rw [hhand, Function.update_of_ne hj]

theorem takes_of_ne {x : Option Hand} (hhand : g'.hand = Function.update g.hand i x) (hj : j ≠ i) :
    g'.Takes j sid ↔ g.Takes j sid := by
  unfold Takes
  rw [hhand, Function.update_of_ne hj]

/-- A worker goes on with its entry. Source: none: infrastructure. Kind: L -/
theorem entries_eq {q : Ulid} {stage stage' : Stage}
    (hhand : g'.hand = Function.update g.hand i (some ⟨q, stage'⟩))
    (hi : g.hand i = some ⟨q, stage⟩) : g'.entries = g.entries := by
  funext j
  unfold entries
  rw [hhand]
  by_cases hj : j = i
  · rw [hj, Function.update_self, hi]
    rfl
  · rw [Function.update_of_ne hj]

end Tally

/-! ## What holds while the workers run -/

/-- The row of the sample is there and not terminal. Source: none: infrastructure. Kind: D -/
def World.Open (w : World) (runId : RunId) (sid : ContentId) : Prop :=
  ∃ record, w.sample runId sid = some record ∧ record.state.isTerminal = false

/-- **Nobody works on what another has claimed**: a claimed row is still what its worker wrote, no
two workers have claimed one sample, and a sample that nobody has claimed was called for once when
its row has changed and never when it has not. Source: `rollout-runtime-batch/src/worker.rs`
`run_one`. Kind: D -/
structure Once (runId : RunId) (w₀ w : World) (g : Tally ι) : Prop where
  owns : ∀ i record called, g.Claims i record called → w.sample runId record.id = some record ∧
    w₀.sample runId record.id ≠ some record ∧ g.calls record.id = called.toNat
  unique : ∀ i j record record' called called', g.Claims i record called →
    g.Claims j record' called' → record.id = record'.id → i = j
  unchanged : ∀ sid, (∀ i record called, g.Claims i record called → record.id ≠ sid) →
    w.sample runId sid = w₀.sample runId sid → g.calls sid = 0
  changed : ∀ sid, (∀ i record called, g.Claims i record called → record.id ≠ sid) →
    w.sample runId sid ≠ w₀.sample runId sid → g.calls sid = 1

/-- **What holds while the workers run**, from the world `w₀` they were spawned in.
Source: `rollout-cli/src/infer.rs` `run_pool`. Kind: D -/
structure Pooled (runId : RunId) (cur : ContentId → Prop) (w₀ w : World) (g : Tally ι) : Prop where
  rowed : w.Rowed runId
  stopPull : ∀ id, w.stopPull id = false
  since : ∀ sid, Advances (w₀.sample runId sid) (w.sample runId sid)
  pending : ∀ sid, cur sid → w.Pending runId sid → w.Queued sid ∨ ∃ i, g.Takes i sid
  owned : ∀ sid record, w.sample runId sid = some record → record.state.isRunning = true →
    w₀.sample runId sid = some record ∨ ∃ i called, g.Claims i record called
  begun : ∀ i record called, g.Claims i record called →
    record.state.isRunning = true ∧ w₀.Open runId record.id
  called : ∀ sid, g.calls sid ≠ 0 → w₀.Open runId sid
  held : w.Held g.entries
  once : g.timely → Once runId w₀ w g

namespace Pooled

variable {cur : ContentId → Prop} {w₀ w w' : World} {g g' : Tally ι} {i : ι} {qid : Ulid}
  {record : SampleRecord}

/-- What leaves the rows of the samples and the claims alone.
Source: `rollout-cloud-local/src/queue.rs`. Kind: L -/
theorem requeue (h : Pooled runId cur w₀ w g)
    (hsample : ∀ sid, w'.rows.get (sampleKey runId sid) = w.rows.get (sampleKey runId sid))
    (hstop : w'.stopPull = w.stopPull)
    (hclaims : ∀ j r c, g'.Claims j r c ↔ g.Claims j r c) (hcalls : g'.calls = g.calls)
    (htimely : g'.timely → g.timely)
    (hpending : ∀ sid, cur sid → w.Pending runId sid → w'.Queued sid ∨ ∃ j, g'.Takes j sid)
    (hheld : w'.Held g'.entries) : Pooled runId cur w₀ w' g' := by
  have hsame : ∀ sid, w'.sample runId sid = w.sample runId sid := fun sid =>
    World.sample_congr (hsample sid)
  refine ⟨h.rowed.congr hsample, by rw [hstop]; exact h.stopPull, fun sid => by
    rw [hsame]; exact h.since sid, ?_, ?_, ?_, by rw [hcalls]; exact h.called, hheld, ?_⟩
  · rintro sid hcur ⟨r, hr, hstate⟩
    exact hpending sid hcur ⟨r, (hsame sid).symm.trans hr, hstate⟩
  · intro sid r hr hrunning
    rw [hsame] at hr
    refine (h.owned sid r hr hrunning).imp_right ?_
    rintro ⟨j, c, hj⟩
    exact ⟨j, c, (hclaims j r c).mpr hj⟩
  · intro j r c hj
    exact h.begun j r c ((hclaims j r c).mp hj)
  · intro ht
    have honce := h.once (htimely ht)
    refine ⟨?_, ?_, ?_, ?_⟩
    · intro j r c hj
      rw [hsame, hcalls]
      exact honce.owns j r c ((hclaims j r c).mp hj)
    · intro j k r r' c c' hj hk
      exact honce.unique j k r r' c c' ((hclaims j r c).mp hj) ((hclaims k r' c').mp hk)
    · intro sid hnone
      rw [hsame, hcalls]
      exact honce.unchanged sid fun j r c hj => hnone j r c ((hclaims j r c).mpr hj)
    · intro sid hnone
      rw [hsame, hcalls]
      exact honce.changed sid fun j r c hj => hnone j r c ((hclaims j r c).mpr hj)

/-- What leaves the rows, the queue and the workers alone. Source: none: infrastructure. Kind: L -/
theorem frame (h : Pooled runId cur w₀ w g) (hrows : w'.rows = w.rows) (hdeque : w'.deque = w.deque)
    (hstop : w'.stopPull = w.stopPull) (hhand : g'.hand = g.hand) (hcalls : g'.calls = g.calls)
    (htimely : g'.timely → g.timely) : Pooled runId cur w₀ w' g' := by
  refine h.requeue (fun _ => by rw [hrows]) hstop (fun j r c => ?_) hcalls htimely ?_ ?_
  · unfold Tally.Claims
    rw [hhand]
  · intro sid hcur hpending
    have hwhere := h.pending sid hcur hpending
    unfold World.Queued Tally.Takes at hwhere ⊢
    rwa [hdeque, hhand]
  · have hheld := h.held
    unfold World.Held Tally.entries at hheld ⊢
    rwa [hrows, hdeque, hhand]

/-- **An entry is taken.** Source: `rollout-cloud-local/src/queue.rs` `dequeue`. Kind: L -/
theorem take (h : Pooled runId cur w₀ w g) (hfree : g.hand i = none) {entry : Ulid × Bytes}
    {rest : List (Ulid × Bytes)} (hdeque : w.deque = entry :: rest)
    (hhand : g'.hand = Function.update g.hand i (some ⟨entry.1, .taken entry.2⟩))
    (hcalls : g'.calls = g.calls) (htimely : g'.timely → g.timely) :
    Pooled runId cur w₀ { w with deque := rest } g' := by
  have hother : ∀ {j : ι} {x : Hand}, g.hand j = some x → j ≠ i := by
    rintro j x hj rfl
    rw [hfree] at hj
    cases hj
  refine h.requeue (fun _ => rfl) rfl (fun j r c => ?_) hcalls htimely ?_ ?_
  · by_cases hj : j = i
    · subst hj
      refine iff_of_false ?_ fun ⟨q, hq⟩ => hother hq rfl
      rintro ⟨q, hq⟩
      rw [hhand, Function.update_self] at hq
      cases hq
    · exact Tally.claims_of_ne hhand hj
  · intro sid hcur hpending
    rcases h.pending sid hcur hpending with ⟨x, hx, hpayload⟩ | ⟨j, q, hq⟩
    · rw [hdeque] at hx
      rcases List.mem_cons.mp hx with rfl | hx
      · refine .inr ⟨i, x.1, ?_⟩
        rw [hhand, Function.update_self, hpayload]
      · exact .inl ⟨x, hx, hpayload⟩
    · exact .inr ⟨j, (Tally.takes_of_ne hhand (hother hq)).mpr ⟨q, hq⟩⟩
  · intro id hget
    unfold Tally.entries
    rw [hhand]
    rcases h.held id hget with ⟨x, hx, hid⟩ | ⟨j, hj⟩
    · rw [hdeque] at hx
      rcases List.mem_cons.mp hx with rfl | hx
      · refine .inr ⟨i, ?_⟩
        rw [Function.update_self]
        exact congrArg some hid
      · exact .inl ⟨x, hx, hid⟩
    · obtain ⟨x, hx, rfl⟩ := Option.map_eq_some_iff.mp hj
      refine .inr ⟨j, ?_⟩
      rw [Function.update_of_ne (hother hx), hx]
      rfl

/-- **An entry is acknowledged**: its sample is not pending. Source: `rollout-cloud-local/src/queue.rs`
`ack`. Kind: L -/
theorem acked (h : Pooled runId cur w₀ w g) {stage : Stage} (hi : g.hand i = some ⟨qid, stage⟩)
    (hclaimed : ∀ r c, stage ≠ .claimed r c)
    (hdone : ∀ sid, stage = .taken (ContentId.chars sid) → ¬ w.Pending runId sid)
    (hhand : g'.hand = Function.update g.hand i none)
    (hcalls : g'.calls = g.calls) (htimely : g'.timely → g.timely) :
    Pooled runId cur w₀ { w with rows := w.rows.del (keyFor qid) } g' := by
  refine h.requeue (fun sid => ?_) rfl (fun j r c => ?_) hcalls htimely ?_ ?_
  · exact KV.get_del_of_ne _ _ _ (sampleKey_ne_keyFor runId sid qid)
  · by_cases hj : j = i
    · subst hj
      refine iff_of_false ?_ ?_
      · rintro ⟨q, hq⟩
        rw [hhand, Function.update_self] at hq
        cases hq
      · rintro ⟨q, hq⟩
        rw [hi] at hq
        cases hq
        exact hclaimed r c rfl
    · exact Tally.claims_of_ne hhand hj
  · intro sid hcur hpending
    refine (h.pending sid hcur hpending).imp_right ?_
    rintro ⟨j, q, hq⟩
    refine ⟨j, (Tally.takes_of_ne hhand ?_).mpr ⟨q, hq⟩⟩
    rintro rfl
    rw [hi] at hq
    cases hq
    exact hdone sid rfl hpending
  · intro id hget
    have hne : id ≠ qid := by
      rintro rfl
      exact hget (KV.get_del_self _ _)
    have hrow : w.rows.get (keyFor id) ≠ none := by
      rwa [← KV.get_del_of_ne w.rows (keyFor qid) _ (by simpa using hne)]
    refine (h.held id hrow).imp_right ?_
    rintro ⟨j, hj⟩
    refine ⟨j, ?_⟩
    unfold Tally.entries at hj ⊢
    rw [hhand, Function.update_of_ne ?_]
    · exact hj
    · rintro rfl
      rw [hi] at hj
      exact hne (Option.some.inj hj).symm

/-- The entries of the queue after a swap. Source: none: infrastructure. Kind: L -/
theorem held_swap {entries : ι → Option Ulid} (h : w.Held entries) (record : SampleRecord)
    (state : SampleState) :
    ({ w with rows := (swap runId w.rows record state).2 } : World).Held entries := by
  intro id hget
  rw [show ({ w with rows := (swap runId w.rows record state).2 } : World).rows.get (keyFor id) =
    w.rows.get (keyFor id) from get_keyFor_swap _ _ _ id] at hget
  exact h id hget

/-- A pending sample after a swap to another state was pending. Source: none: infrastructure.
Kind: L -/
theorem pending_of_swap (h : Pooled runId cur w₀ w g) {state : SampleState} (hto : state ≠ .pending)
    {sid : ContentId}
    (hpending : ({ w with rows := (swap runId w.rows record state).2 } : World).Pending runId sid) :
    w.Pending runId sid ∧ ¬ (sid = record.id ∧ w.sample runId record.id = some record) := by
  obtain ⟨r, hr, hstate⟩ := hpending
  rw [h.rowed.sample_swap] at hr
  split at hr
  · rw [← Option.some.inj hr] at hstate
    exact absurd hstate hto
  · next hnot => exact ⟨⟨r, hr, hstate⟩, hnot⟩

/-- Nobody has claimed a sample whose row is as it was. Source: none: infrastructure. Kind: L -/
theorem unclaimed_of_unchanged (honce : Once runId w₀ w g) {sid : ContentId} {r : SampleRecord}
    (hr : w.sample runId sid = some r) (hr₀ : w₀.sample runId sid = some r) :
    ∀ i record called, g.Claims i record called → record.id ≠ sid := by
  rintro i record called hi rfl
  obtain ⟨hs, hs₀, -⟩ := honce.owns i record called hi
  rw [hs] at hr
  rw [hr] at hs₀
  exact hs₀ hr₀

/-- **A sample is claimed.** While no claim of the pass has become stale, its row is as it was when
the workers were spawned. Source: `rollout-runtime-batch/src/state.rs` `try_claim`. Kind: L -/
theorem claim (h : Pooled runId cur w₀ w g) {payload : Bytes} {workerId : WorkerId}
    {nowMs staleAfterMs : BitVec 64} (hi : g.hand i = some ⟨qid, .taken payload⟩)
    (hpayload : ∀ sid, payload = ContentId.chars sid → sid = record.id)
    (hrow : w.sample runId record.id = some record)
    (hclaimable : claimable record.state nowMs staleAfterMs = true)
    (hstart : g'.timely → w₀.sample runId record.id = some record)
    (hhand : g'.hand = Function.update g.hand i
      (some ⟨qid, .claimed { record with state := .running workerId nowMs } false⟩))
    (hcalls : g'.calls = g.calls) (htimely : g'.timely → g.timely) :
    Pooled runId cur w₀
      { w with rows := (swap runId w.rows record (.running workerId nowMs)).2 } g' := by
  have hopen := isTerminal_of_claimable hclaimable
  have hself : g'.Claims i { record with state := .running workerId nowMs } false :=
    ⟨qid, by rw [hhand, Function.update_self]⟩
  have hnot : ∀ r c, ¬ g.Claims i r c := by
    rintro r c ⟨q, hq⟩
    rw [hi] at hq
    cases hq
  have hcases : ∀ {j r c}, g'.Claims j r c → j ≠ i ∧ g.Claims j r c ∨
      j = i ∧ r = { record with state := .running workerId nowMs } ∧ c = false := by
    intro j r c hj
    by_cases heq : j = i
    · subst heq
      exact .inr ⟨rfl, hj.unique hself⟩
    · exact .inl ⟨heq, (Tally.claims_of_ne hhand heq).mp hj⟩
  have hsample : ∀ sid, ({ w with
      rows := (swap runId w.rows record (.running workerId nowMs)).2 } : World).sample runId sid =
        if sid = record.id then some { record with state := .running workerId nowMs }
        else w.sample runId sid := by
    intro sid
    rw [h.rowed.sample_swap]
    simp only [hrow, and_true]
  refine ⟨h.rowed.swap _ _, h.stopPull, fun sid => (h.since sid).trans
    (h.rowed.advances_swap hopen (by simp) sid), ?_, ?_, ?_, by rw [hcalls]; exact h.called, ?_, ?_⟩
  · intro sid hcur hpending
    obtain ⟨hbefore, hother⟩ := h.pending_of_swap (by simp) hpending
    refine (h.pending sid hcur hbefore).imp_right ?_
    rintro ⟨j, q, hq⟩
    refine ⟨j, (Tally.takes_of_ne hhand ?_).mpr ⟨q, hq⟩⟩
    rintro rfl
    rw [hi] at hq
    cases hq
    exact hother ⟨hpayload sid rfl, hrow⟩
  · intro sid r hr hrunning
    rw [hsample] at hr
    split at hr
    · rw [← Option.some.inj hr]
      exact .inr ⟨i, false, hself⟩
    · refine (h.owned sid r hr hrunning).imp_right ?_
      rintro ⟨j, c, hj⟩
      refine ⟨j, c, (Tally.claims_of_ne hhand ?_).mpr hj⟩
      rintro rfl
      exact hnot r c hj
  · intro j r c hj
    rcases hcases hj with ⟨-, hj⟩ | ⟨-, rfl, -⟩
    · exact h.begun j r c hj
    · refine ⟨rfl, (hrow ▸ h.since record.id).start_open hopen⟩
  · rw [Tally.entries_eq hhand hi]
    exact held_swap h.held _ _
  · intro ht
    have honce := h.once (htimely ht)
    have hfree := unclaimed_of_unchanged honce hrow (hstart ht)
    refine ⟨?_, ?_, ?_, ?_⟩
    · intro j r c hj
      rw [hsample, hcalls]
      rcases hcases hj with ⟨-, hj⟩ | ⟨-, rfl, rfl⟩
      · rw [if_neg (hfree j r c hj)]
        exact honce.owns j r c hj
      · refine ⟨if_pos rfl, ?_, honce.unchanged _ hfree (hrow.trans (hstart ht).symm)⟩
        rw [hstart ht]
        intro heq
        exact running_ne_of_claimable hclaimable workerId
          (congrArg SampleRecord.state (Option.some.inj heq)).symm
    · intro j k r r' c c' hj hk hid
      rcases hcases hj with ⟨-, hj⟩ | ⟨rfl, rfl, -⟩ <;> rcases hcases hk with ⟨-, hk⟩ | ⟨rfl, rfl, -⟩
      · exact honce.unique j k r r' c c' hj hk hid
      · exact absurd hid (hfree j r c hj)
      · exact absurd hid.symm (hfree k r' c' hk)
      · rfl
    · intro sid hnone hsame
      have hne : sid ≠ record.id := fun hsid => hnone i _ _ hself hsid.symm
      rw [hsample, if_neg hne] at hsame
      rw [hcalls]
      exact honce.unchanged sid (fun j r c hj => hnone j r c
        ((Tally.claims_of_ne hhand (fun heq => hnot r c (heq ▸ hj))).mpr hj)) hsame
    · intro sid hnone hchanged
      have hne : sid ≠ record.id := fun hsid => hnone i _ _ hself hsid.symm
      rw [hsample, if_neg hne] at hchanged
      rw [hcalls]
      exact honce.changed sid (fun j r c hj => hnone j r c
        ((Tally.claims_of_ne hhand (fun heq => hnot r c (heq ▸ hj))).mpr hj)) hchanged

/-- **The backend is called** for a sample the worker has claimed.
Source: `rollout-runtime-batch/src/worker.rs` `run_one`. Kind: L -/
theorem call (h : Pooled runId cur w₀ w g) (hi : g.hand i = some ⟨qid, .claimed record false⟩)
    (hhand : g'.hand = Function.update g.hand i (some ⟨qid, .claimed record true⟩))
    (hcalls : ∀ sid, g'.calls sid = g.calls sid + if record.id = sid then 1 else 0)
    (htimely : g'.timely → g.timely) : Pooled runId cur w₀ w g' := by
  have hown : g.Claims i record false := ⟨qid, hi⟩
  have hself : g'.Claims i record true := ⟨qid, by rw [hhand, Function.update_self]⟩
  have hcases : ∀ {j r c}, g'.Claims j r c →
      j ≠ i ∧ g.Claims j r c ∨ j = i ∧ r = record ∧ c = true := by
    intro j r c hj
    by_cases heq : j = i
    · subst heq
      exact .inr ⟨rfl, hj.unique hself⟩
    · exact .inl ⟨heq, (Tally.claims_of_ne hhand heq).mp hj⟩
  have hback : ∀ {j r c}, g.Claims j r c → ∃ c', g'.Claims j r c' := by
    intro j r c hj
    by_cases heq : j = i
    · subst heq
      obtain ⟨rfl, -⟩ := hj.unique hown
      exact ⟨true, hself⟩
    · exact ⟨c, (Tally.claims_of_ne hhand heq).mpr hj⟩
  have hunclaimed : ∀ {sid}, (∀ j r c, g'.Claims j r c → r.id ≠ sid) →
      ∀ j r c, g.Claims j r c → r.id ≠ sid := by
    intro sid hnone j r c hj
    obtain ⟨c', hj'⟩ := hback hj
    exact hnone j r c' hj'
  refine ⟨h.rowed, h.stopPull, h.since, ?_, ?_, ?_, ?_, ?_, ?_⟩
  · intro sid hcur hpending
    refine (h.pending sid hcur hpending).imp_right ?_
    rintro ⟨j, q, hq⟩
    refine ⟨j, (Tally.takes_of_ne hhand ?_).mpr ⟨q, hq⟩⟩
    rintro rfl
    rw [hi] at hq
    cases hq
  · intro sid r hr hrunning
    refine (h.owned sid r hr hrunning).imp_right ?_
    rintro ⟨j, c, hj⟩
    exact ⟨j, hback hj⟩
  · intro j r c hj
    rcases hcases hj with ⟨-, hj⟩ | ⟨-, rfl, -⟩
    · exact h.begun j r c hj
    · exact h.begun i r false hown
  · intro sid hne
    rw [hcalls] at hne
    split at hne
    · next hid => exact hid ▸ (h.begun i record false hown).2
    · exact h.called sid hne
  · rw [Tally.entries_eq hhand hi]
    exact h.held
  · intro ht
    have honce := h.once (htimely ht)
    refine ⟨?_, ?_, ?_, ?_⟩
    · intro j r c hj
      rcases hcases hj with ⟨hne, hj⟩ | ⟨-, rfl, rfl⟩
      · rw [hcalls, if_neg fun hid => hne (honce.unique i j record r _ _ hown hj hid).symm]
        exact honce.owns j r c hj
      · obtain ⟨hs, hs₀, hcount⟩ := honce.owns i r false hown
        refine ⟨hs, hs₀, ?_⟩
        rw [hcalls, if_pos rfl, hcount]
        rfl
    · intro j k r r' c c' hj hk hid
      rcases hcases hj with ⟨-, hj⟩ | ⟨rfl, rfl, -⟩ <;> rcases hcases hk with ⟨-, hk⟩ | ⟨rfl, rfl, -⟩
      · exact honce.unique j k r r' c c' hj hk hid
      · exact honce.unique _ _ _ _ _ _ hj hown hid
      · exact honce.unique _ _ _ _ _ _ hown hk hid
      · rfl
    · intro sid hnone hsame
      rw [hcalls, if_neg (hnone i record true hself)]
      exact honce.unchanged sid (hunclaimed hnone) hsame
    · intro sid hnone hchanged
      rw [hcalls, if_neg (hnone i record true hself)]
      exact honce.changed sid (hunclaimed hnone) hchanged

/-- **A sample is settled**: completed or failed. Source: `rollout-runtime-batch/src/state.rs`
`try_complete`, `try_fail`. Kind: L -/
theorem settle (h : Pooled runId cur w₀ w g) {state : SampleState} (hto : state.isTerminal = true)
    (hi : g.hand i = some ⟨qid, .claimed record true⟩)
    (hhand : g'.hand = Function.update g.hand i (some ⟨qid, .settled⟩))
    (hcalls : g'.calls = g.calls) (htimely : g'.timely → g.timely) :
    Pooled runId cur w₀ { w with rows := (swap runId w.rows record state).2 } g' := by
  have hown : g.Claims i record true := ⟨qid, hi⟩
  obtain ⟨hrunning, r₀, hr₀, hopen₀⟩ := h.begun i record true hown
  have hpending : state ≠ .pending := by
    rintro rfl
    cases hto
  have hclaims : ∀ {j r c}, g'.Claims j r c → j ≠ i ∧ g.Claims j r c := by
    intro j r c hj
    have hne : j ≠ i := by
      rintro rfl
      obtain ⟨q, hq⟩ := hj
      rw [hhand, Function.update_self] at hq
      cases hq
    exact ⟨hne, (Tally.claims_of_ne hhand hne).mp hj⟩
  refine ⟨h.rowed.swap _ _, h.stopPull, fun sid => (h.since sid).trans
    (h.rowed.advances_swap (SampleState.isTerminal_of_isRunning hrunning) hpending sid), ?_, ?_, ?_,
    by rw [hcalls]; exact h.called, ?_, ?_⟩
  · intro sid hcur hp
    refine (h.pending sid hcur (h.pending_of_swap hpending hp).1).imp_right ?_
    rintro ⟨j, q, hq⟩
    refine ⟨j, (Tally.takes_of_ne hhand ?_).mpr ⟨q, hq⟩⟩
    rintro rfl
    rw [hi] at hq
    cases hq
  · intro sid r hr hrun
    rw [h.rowed.sample_swap] at hr
    split at hr
    · rw [← Option.some.inj hr] at hrun
      rw [SampleState.isTerminal_of_isRunning hrun] at hto
      cases hto
    · next hnot =>
      refine (h.owned sid r hr hrun).imp_right ?_
      rintro ⟨j, c, hj⟩
      refine ⟨j, c, (Tally.claims_of_ne hhand ?_).mpr hj⟩
      rintro rfl
      obtain ⟨rfl, -⟩ := hj.unique hown
      have hid := h.rowed.id_eq hr
      exact hnot ⟨hid.symm, hid ▸ hr⟩
  · intro j r c hj
    exact h.begun j r c (hclaims hj).2
  · rw [Tally.entries_eq hhand hi]
    exact held_swap h.held _ _
  · intro ht
    have honce := h.once (htimely ht)
    obtain ⟨hs, hs₀, hcount⟩ := honce.owns i record true hown
    have hsample : ∀ sid, ({ w with
        rows := (swap runId w.rows record state).2 } : World).sample runId sid =
          if sid = record.id then some { record with state } else w.sample runId sid := by
      intro sid
      rw [h.rowed.sample_swap]
      simp only [hs, and_true]
    have hunclaimed : ∀ {sid}, sid ≠ record.id → (∀ j r c, g'.Claims j r c → r.id ≠ sid) →
        ∀ j r c, g.Claims j r c → r.id ≠ sid := by
      intro sid hne hnone j r c hj
      by_cases heq : j = i
      · subst heq
        obtain ⟨rfl, -⟩ := hj.unique hown
        exact hne.symm
      · exact hnone j r c ((Tally.claims_of_ne hhand heq).mpr hj)
    refine ⟨?_, ?_, ?_, ?_⟩
    · intro j r c hj
      obtain ⟨hne, hj⟩ := hclaims hj
      have hid : r.id ≠ record.id := fun hid => hne (honce.unique j i r record _ _ hj hown hid)
      rw [hsample, if_neg hid, hcalls]
      exact honce.owns j r c hj
    · intro j k r r' c c' hj hk hid
      exact honce.unique j k r r' c c' (hclaims hj).2 (hclaims hk).2 hid
    · intro sid hnone hsame
      rw [hsample] at hsame
      rw [hcalls]
      split at hsame
      · next hsid =>
        rw [hsid, hr₀] at hsame
        rw [← Option.some.inj hsame] at hopen₀
        rw [show ({ record with state } : SampleRecord).state.isTerminal = true from hto] at hopen₀
        cases hopen₀
      · next hne => exact honce.unchanged sid (hunclaimed hne hnone) hsame
    · intro sid hnone hchanged
      rw [hsample] at hchanged
      rw [hcalls]
      split at hchanged
      · next hsid => rw [hsid, hcount]; rfl
      · next hne => exact honce.changed sid (hunclaimed hne hnone) hchanged

end Pooled

end Rollout.Batch
