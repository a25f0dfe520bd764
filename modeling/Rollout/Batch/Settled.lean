import Rollout.Batch.EnqueuedRuns
import Rollout.Batch.PoolWorkers
import Rollout.Batch.Reruns

/-!
# What a pass does to its samples

* `startup_scanned` — what the scan leaves, whatever an earlier run has left in the queue.
* `pool_sound` — `Pooled` holds throughout a run of the workers.
* `pass_settles` — when a pass has gone through, every sample of it is done or failed, or it still has
  the claim of an earlier run that was too fresh for the scan.
* `pass_calls_once` — while the clock finds no claim of the pass stale, the backend is called at most
  once for each sample, never for one that was settled before, and exactly once for every sample that
  was due when all workers have returned.
-/

set_option linter.unusedSectionVars false

namespace Rollout.Batch

open Rollout.Lib Rollout.Core

/-- The row of the sample is done or failed.
Source: `rollout-runtime-batch/src/state.rs` `SampleState`. Kind: D -/
def World.Settled (w : World) (runId : RunId) (sid : ContentId) : Prop :=
  ∃ record, w.sample runId sid = some record ∧ record.state.isTerminal = true

section settled

variable [Blake3] {runId : RunId} {ι : Type}

/-! ## The scan -/

section scan

variable {γ : Type} {i : ι} {upd : γ → BatchEvent runId ι → γ} {g : γ} {w : World}
  {coord : BatchCoordinator} {nowMs : BitVec 64}

theorem World.Mirrored.enqueued (h : w.Mirrored) (id : Ulid) (payload : Bytes) :
    (w.enqueued id payload).Mirrored := by
  intro other hget
  by_cases hother : other = id
  · exact ⟨_, List.mem_append_right _ (List.mem_singleton.mpr rfl), hother.symm⟩
  · unfold World.enqueued at hget
    rw [KV.get_put_of_ne _ _ _ _ (by simpa using hother)] at hget
    obtain ⟨x, hx, hid⟩ := h other hget
    exact ⟨x, List.mem_append_left _ hx, hid⟩

theorem yields_mirrored_enqueue (h : w.Mirrored) (sid : ContentId) :
    (BatchCoordinator.enqueueSample sid : BatchM runId Bool).Yields (machine runId ι) i upd
      (fun _ w' _ => w'.Mirrored) w g :=
  yields_enqueueSample fun id _ => h.enqueued id sid.chars

/-- One input leaves the rows of the queue in the deque. Source: `rollout-runtime-batch/src/coordinator.rs`
`scan_and_enqueue`. Kind: L -/
theorem yields_mirrored_item (h : w.Mirrored) (item : InputItem) :
    (coord.scanItem nowMs item : BatchM runId Bool).Yields (machine runId ι) i upd
      (fun _ w' _ => w'.Mirrored) w g := by
  apply yields_ask
  intro _ existing _ hget
  obtain ⟨rfl, rfl⟩ := Prod.mk.inj (Option.some.inj hget)
  dsimp only [Store.perform]
  cases w.rows.get (sampleKey runId (coord.sid item)) with
  | none =>
      apply yields_ask
      intro _ _ _ hput
      obtain ⟨rfl, rfl⟩ := Prod.mk.inj (Option.some.inj hput)
      apply yields_ask
      intro _ _ _ hcreate
      obtain ⟨-, rfl⟩ := Prod.mk.inj (Option.some.inj hcreate)
      refine yields_mirrored_enqueue ?_ _
      exact h.congr (fun id => get_keyFor_put_sample _ _ _ id) rfl
  | some bytes =>
      apply Prog.Yields.ofExcept
      rintro ⟨id, blob, state, created, idx⟩ _
      cases state with
      | pending => exact yields_mirrored_enqueue h _
      | done => exact h
      | failed => exact yields_mirrored_enqueue h _
      | running worker startedAtMs =>
          dsimp only
          split
          · apply yields_ask
            intro _ applied _ hswap
            obtain ⟨rfl, rfl⟩ := Prod.mk.inj (Option.some.inj hswap)
            have hmirrored : World.Mirrored { w with rows := (atomically (SampleTxn.body runId
                (.repending ⟨id, blob, .running worker startedAtMs, created, idx⟩)) w.rows).2 } :=
              h.congr (fun id => by rw [atomically_repending]; exact get_keyFor_swap _ _ _ id) rfl
            split
            · exact yields_mirrored_enqueue hmirrored _
            · exact hmirrored
          · exact h

theorem yields_mirrored_items (h : w.Mirrored) (enqueued : Nat) (items : List InputItem) :
    (coord.scanItems nowMs enqueued items : BatchM runId Nat).Yields (machine runId ι) i upd
      (fun _ w' _ => w'.Mirrored) w g := by
  induction items generalizing enqueued w g with
  | nil => exact h
  | cons item items ih =>
      exact Prog.Yields.bind ((yields_mirrored_item h item).weaken fun _ _ _ hnext => ih hnext _)

/-- The world after the queue has been opened. Source: `rollout-cloud-local/src/queue.rs` `open`.
Kind: D -/
def World.opened (w : World) : World where
  rows := w.rows
  objects := w.objects
  deque := sortById
    ((w.rows.scan fun key => keyHasPrefix key ⟨"cloudlocal_queue", none, []⟩).filterMap replayed)
  stopPull := w.stopPull

/-- What is replayed has every row of the queue. Source: `rollout-cloud-local/src/queue.rs` `open`.
Kind: L -/
theorem World.mirrored_opened (w : World) : w.opened.Mirrored := by
  intro id hget
  obtain ⟨payload, hpayload⟩ := Option.ne_none_iff_exists'.mp hget
  refine ⟨(id, payload), ?_, rfl⟩
  unfold World.opened sortById
  rw [List.mem_mergeSort, List.mem_filterMap]
  refine ⟨(keyFor id, payload), (KV.mem_scan w.rows).mpr ⟨hpayload, ?_⟩, ?_⟩
  · simp [keyHasPrefix, keyFor]
  · unfold replayed
    show (Ulid.ofChars id.display.toUTF8.data.toList).map (fun id => (id, payload)) = _
    rw [Ulid.utf8_display, Ulid.ofChars_chars]
    rfl

end scan

/-- The clock was read. Source: `rollout-runtime-batch/src/state.rs` `now_ms`. Kind: D -/
def ReadsClock (tr : List (BatchEvent runId ι)) (nowMs : BitVec 64) : Prop :=
  ∃ i w w', ⟨i, .nowMs, .ok nowMs, w, w'⟩ ∈ tr

/-- **What the scan leaves**, whatever was left in the queue. Source: `rollout-cli/src/infer.rs`
`run_pool` (up to the workers). Kind: P -/
theorem startup_scanned {job : Job} {staleAfterMs : BitVec 64} {start : World}
    (hrowed : start.Rowed runId) {tr : List (BatchEvent runId Unit)}
    {d : Config (iface runId) CoreError World fun _ : Unit => Nat}
    (hrun : Run (machine runId Unit) ⟨start, fun _ => job.startup staleAfterMs⟩ tr d) {n : Nat}
    (hret : d.progs () = .ret n) :
    ∃ nowMs, ReadsClock tr nowMs ∧
      Scanned runId (job.coordinator staleAfterMs) nowMs job.inputs start d.shared ∧
      d.shared.Mirrored := by
  have hyields : (job.startup staleAfterMs : BatchM runId Nat).Yields (machine runId Unit) () snoc
      (fun _ w es => ∃ nowMs, ReadsClock es nowMs ∧
        Scanned runId (job.coordinator staleAfterMs) nowMs job.inputs start w ∧ w.Mirrored)
      start [] := by
    apply Prog.Yields.bind
    unfold openQueue
    rw [scanBytes_eq]
    apply yields_ask
    intro _ _ _ hscan
    obtain ⟨rfl, rfl⟩ := Prod.mk.inj (Option.some.inj hscan)
    rw [← Prog.bind_ret (ask _)]
    apply yields_ask
    intro _ _ w hopen
    obtain ⟨-, hw⟩ := Prod.mk.inj (Option.some.inj hopen)
    obtain rfl : start.opened = w := hw
    apply yields_ask
    intro _ nowMs w hnow
    obtain ⟨-, rfl⟩ := Prod.mk.inj (Option.some.inj hnow)
    have hbegin : Enqueues runId (job.coordinator staleAfterMs) nowMs [] start.opened start.opened
        [] 0 := ⟨scanned_nil hrowed, rfl, by simp⟩
    have hfold : ∀ (es : List (BatchEvent runId Unit)) e,
        (snoc es e).foldl pushed [] = pushed (es.foldl pushed []) e := fun es e => List.foldl_append ..
    refine (((Prog.Yields.of_map hfold (yields_enqueues_items hbegin)).and (yields_mirrored_items
      start.mirrored_opened 0 job.inputs)).and (Prog.Yields.extends _ _)).weaken ?_
    rintro n w es ⟨⟨henqueues, hmirrored⟩, hsub⟩
    exact ⟨nowMs, ⟨(), _, _, hsub (List.mem_append_right _ List.mem_cons_self)⟩, ⟨henqueues.scanned.rowed,
      henqueues.scanned.due, henqueues.scanned.kept, henqueues.scanned.stopPull⟩, hmirrored⟩
  exact hrun.yields_events hyields hret

/-! ## The workers -/

section workers

variable [DecidableEq ι] {w₀ : World} {staleAfterMs : BitVec 64} {cur : ContentId → Prop}
  {workers : ι → BatchWorker} {fuel : Nat} {tr : List (BatchEvent runId ι)}
  {d : Config (iface runId) CoreError World fun _ : ι => Option Nat}

/-- The workers are spawned. Source: `rollout-cli/src/infer.rs` `run_pool`. Kind: L -/
theorem pooled_start (hrowed : w₀.Rowed runId) (hstop : ∀ id, w₀.stopPull id = false)
    (hmirrored : w₀.Mirrored) (hcur : ∀ sid, cur sid → w₀.Pending runId sid → w₀.Queued sid) :
    Pooled runId cur w₀ w₀ (Tally.start ι) := by
  have hnone : ∀ i record called, ¬ (Tally.start ι).Claims i record called := by
    rintro i record called ⟨q, hq⟩
    cases hq
  refine ⟨hrowed, hstop, fun _ => .refl _, fun sid hc hp => .inl (hcur sid hc hp),
    fun _ _ hr _ => .inl hr, fun i r c hi => absurd hi (hnone i r c), fun _ hne => absurd rfl hne,
    fun id hget => .inl (hmirrored id hget), fun _ => ⟨?_, ?_, fun _ _ _ => rfl, ?_⟩⟩
  · exact fun i r c hi => absurd hi (hnone i r c)
  · exact fun i _ r _ c _ hi _ _ => absurd hi (hnone i r c)
  · exact fun sid _ hne => absurd rfl hne

theorem calls_foldl (g : Tally ι) (sid : ContentId) :
    (tr.foldl (Tally.next staleAfterMs w₀) g).calls sid = g.calls sid + tr.countP (isCall sid) := by
  induction tr generalizing g with
  | nil => rfl
  | cons e tr ih =>
      rw [List.foldl_cons, ih, List.countP_cons]
      show g.calls sid + (isCall sid e).toNat + _ = _
      cases isCall sid e with
      | false => rfl
      | true => exact Nat.add_right_comm _ 1 _

theorem timely_foldl {g : Tally ι} (hg : g.timely) (h : ∀ e ∈ tr, OnTime staleAfterMs w₀ e) :
    (tr.foldl (Tally.next staleAfterMs w₀) g).timely := by
  induction tr generalizing g with
  | nil => exact hg
  | cons e tr ih =>
      exact ih ⟨hg, h e List.mem_cons_self⟩ fun e' he' => h e' (List.mem_cons_of_mem _ he')

/-- **The invariant of the pool in a run of the workers**, and what those leave that have returned.
Source: `rollout-cli/src/infer.rs` `run_pool`. Kind: P -/
theorem pool_sound (hrun : Run (machine runId ι) ⟨w₀, fun i => (workers i).runLoop fuel 0⟩ tr d)
    (hstale : ∀ i, (workers i).staleAfterMs = staleAfterMs)
    (hstart : Pooled runId cur w₀ w₀ (Tally.start ι)) :
    Pooled runId cur w₀ d.shared (tr.foldl (Tally.next staleAfterMs w₀) (Tally.start ι)) ∧
      ∀ i completed, d.progs i = .ret (some completed) → d.shared.deque = [] ∧
        (tr.foldl (Tally.next staleAfterMs w₀) (Tally.start ι)).hand i = none := by
  have hsafe : ∀ i, ((workers i).runLoop fuel 0 : BatchM runId (Option Nat)).Safe
      (pool runId ι staleAfterMs cur w₀) i (Quits i) w₀ (Tally.start ι) :=
    fun i => pool_runLoop (hstale i) fuel 0 rfl
  refine ⟨(hrun.sound (pool runId ι staleAfterMs cur w₀) Quits hstart hsafe fun _ _ => trivial).1,
    fun i completed hret => ?_⟩
  exact (hrun.sound_ret (pool runId ι staleAfterMs cur w₀) Quits hstart hsafe
    (fun _ _ => trivial) hret).symm

/-- The backend is called at most once. Source: `rollout-runtime-batch/src/worker.rs` `run_one`.
Kind: L -/
theorem Once.calls_le_one {w : World} {g : Tally ι} (h : Once runId w₀ w g) (sid : ContentId) :
    g.calls sid ≤ 1 := by
  by_cases hclaimed : ∃ i record called, g.Claims i record called ∧ record.id = sid
  · obtain ⟨i, record, called, hi, rfl⟩ := hclaimed
    rw [(h.owns i record called hi).2.2]
    exact Bool.toNat_le called
  · have hnone : ∀ i record called, g.Claims i record called → record.id ≠ sid :=
      fun i record called hi hid => hclaimed ⟨i, record, called, hi, hid⟩
    by_cases hsame : w.sample runId sid = w₀.sample runId sid
    · rw [h.unchanged sid hnone hsame]
      exact Nat.zero_le 1
    · exact (h.changed sid hnone hsame).le

/-- The row of a sample of the pass when nobody holds an entry any more.
Source: `rollout-cli/src/infer.rs` `run_pool`. Kind: L -/
theorem Pooled.final {w : World} {g : Tally ι} (h : Pooled runId cur w₀ w g) (hdeque : w.deque = [])
    (hhand : ∀ i, g.hand i = none) {sid : ContentId} (hcur : cur sid)
    (hrow : w₀.sample runId sid ≠ none) :
    w.Settled runId sid ∨ ∃ record, record.state.isRunning = true ∧
      w₀.sample runId sid = some record ∧ w.sample runId sid = some record := by
  have hsome : (w.sample runId sid).isSome = true := by
    rw [← (h.since sid).isSome_eq]
    exact Option.isSome_iff_ne_none.mpr hrow
  obtain ⟨record, hrecord⟩ := Option.isSome_iff_exists.mp hsome
  have hidle : ∀ {i x}, g.hand i ≠ some x := by
    intro i x hi
    rw [hhand] at hi
    cases hi
  rcases record.state.cases_kind with hpending | hrunning | hterminal
  · rcases h.pending sid hcur ⟨record, hrecord, hpending⟩ with ⟨x, hx, -⟩ | ⟨i, q, hq⟩
    · rw [hdeque] at hx
      cases hx
    · exact absurd hq hidle
  · rcases h.owned sid record hrecord hrunning with hsame | ⟨i, called, q, hq⟩
    · exact .inr ⟨record, hrunning, hsame, hrecord⟩
    · exact absurd hq hidle
  · exact .inl ⟨record, hrecord, hterminal⟩

/-- No row of the queue is left when nobody holds an entry any more.
Source: `rollout-cloud-local/src/queue.rs`. Kind: L -/
theorem Pooled.queueEmpty {w : World} {g : Tally ι} (h : Pooled runId cur w₀ w g)
    (hdeque : w.deque = []) (hhand : ∀ i, g.hand i = none) : w.QueueEmpty := by
  intro id
  by_contra hget
  rcases h.held id hget with ⟨x, hx, -⟩ | ⟨i, hi⟩
  · rw [hdeque] at hx
    cases hx
  · unfold Tally.entries at hi
    rw [hhand] at hi
    cases hi

end workers

/-! ## Passes -/

/-- What the workers of a pass start from. Source: `rollout-cli/src/infer.rs` `run_pool`. Kind: L -/
theorem Scanned.pooled [DecidableEq ι] {coord : BatchCoordinator} {nowMs : BitVec 64}
    {items : List InputItem} {start ready : World}
    (h : Scanned runId coord nowMs items start ready) (hstop : ∀ id, start.stopPull id = false)
    (hmirrored : ready.Mirrored) :
    Pooled runId (fun sid => sid ∈ items.map coord.sid) ready ready (Tally.start ι) := by
  refine pooled_start h.rowed (fun id => by rw [h.stopPull]; exact hstop id) hmirrored ?_
  intro sid hsid hpending
  obtain ⟨item, hitem, rfl⟩ := List.mem_map.mp hsid
  exact (h.due item hitem (h.due_of_pending hpending)).2

/-- A sample that the scan did not have to enqueue is as it was: settled, or its claim is fresh.
Source: `rollout-runtime-batch/src/coordinator.rs` `scan_and_enqueue`. Kind: L -/
theorem Scanned.ready_cases {coord : BatchCoordinator} {nowMs : BitVec 64} {items : List InputItem}
    {start ready : World} (h : Scanned runId coord nowMs items start ready) {item : InputItem}
    (hitem : item ∈ items) :
    ready.Pending runId (coord.sid item) ∨ ∃ record, start.sample runId (coord.sid item) = some record ∧
      ready.sample runId (coord.sid item) = some record ∧
        claimable record.state nowMs coord.staleAfterMs = false := by
  cases hdue : Due nowMs coord.staleAfterMs (start.sample runId (coord.sid item)) with
  | true => exact .inl (h.due item hitem hdue).1
  | false =>
      have hsame := h.kept (coord.sid item) fun hboth => Bool.false_ne_true (hdue.symm.trans hboth.2)
      cases hstart : start.sample runId (coord.sid item) with
      | none =>
          rw [hstart] at hdue
          cases hdue
      | some record =>
          rw [hstart] at hdue
          exact .inr ⟨record, rfl, hsame.trans hstart, hdue⟩

/-- **A pass that went through has settled its samples**: whatever an earlier run has left, every
sample of the pass is done or failed at its end, or it is still running with the very claim it had at
the start, which was not stale when the scan read the clock; and nothing is left in the queue.
Source: `rollout-cli/src/infer.rs` `run_pool`. Kind: P -/
theorem pass_settles {model : ContentId} {p : Pass runId} (hrowed : p.start.Rowed runId)
    (hstop : ∀ id, p.start.stopPull id = false) (h : p.Completes model) :
    p.finish.QueueEmpty ∧ ∃ nowMs, ReadsClock p.scanning nowMs ∧ ∀ item ∈ globInputs p.rows,
      p.finish.Settled runId (p.sid model item) ∨
        ∃ record workerId startedAtMs, record.state = .running workerId startedAtMs ∧
          isStale nowMs startedAtMs p.staleAfterMs = false ∧
          p.start.sample runId (p.sid model item) = some record ∧
          p.finish.sample runId (p.sid model item) = some record := by
  obtain ⟨enqueued, hscans⟩ := h.scans
  obtain ⟨fuel, completed, hworks⟩ := h.works
  obtain ⟨nowMs, hreads, hscanned, hmirrored⟩ := startup_scanned hrowed hscans rfl
  have hstale : ∀ i, ((p.job model).worker (p.ids i)).staleAfterMs = defaultStaleAfterMs := fun _ => rfl
  obtain ⟨hpooled, hquits⟩ := pool_sound hworks hstale (hscanned.pooled hstop hmirrored)
  have hdeque := (hquits 0 (completed 0) rfl).1
  have hhand := fun i => (hquits i (completed i) rfl).2
  refine ⟨hpooled.queueEmpty hdeque hhand, nowMs, hreads, fun item hitem => ?_⟩
  have hcur : p.sid model item ∈ (p.job model).inputs.map
    ((p.job model).coordinator p.staleAfterMs).sid := List.mem_map_of_mem hitem
  have hready := hscanned.ready_cases hitem
  have hrow : p.ready.sample runId (p.sid model item) ≠ none := by
    rcases hready with ⟨record, hr, -⟩ | ⟨record, -, hr, -⟩
    · rw [show p.ready.sample runId (p.sid model item) = some record from hr]
      simp
    · rw [show p.ready.sample runId (p.sid model item) = some record from hr]
      simp
  refine (hpooled.final hdeque hhand hcur hrow).imp_right ?_
  rintro ⟨record, hrunning, hbefore, hafter⟩
  rcases hready with ⟨r, hr, hpending⟩ | ⟨r, hstart, hr, hfresh⟩
  · obtain rfl := Option.some.inj (hr.symm.trans hbefore)
    rw [hpending] at hrunning
    cases hrunning
  · obtain rfl := Option.some.inj (hr.symm.trans hbefore)
    cases hstate : r.state with
    | running workerId startedAtMs =>
        rw [hstate] at hfresh
        exact ⟨r, workerId, startedAtMs, hstate, hfresh, hstart, hafter⟩
    | _ => rw [hstate] at hrunning; cases hrunning

/-- A settled row changes the sample's calls no more. Source: `rollout-runtime-batch/src/worker.rs`
`run_one`. Kind: L -/
theorem Pooled.calls_of_settled [DecidableEq ι] {cur : ContentId → Prop} {w₀ w : World} {g : Tally ι}
    (h : Pooled runId cur w₀ w g) {sid : ContentId} (hsettled : w₀.Settled runId sid) :
    g.calls sid = 0 := by
  by_contra hne
  obtain ⟨r, hr, hopen⟩ := h.called sid hne
  obtain ⟨s, hs, hterminal⟩ := hsettled
  obtain rfl := Option.some.inj (hr.symm.trans hs)
  rw [hopen] at hterminal
  cases hterminal

/-- **What was settled before a scan is not generated again.** Source:
`rollout-runtime-batch/src/worker.rs` `run_one`. Kind: P -/
theorem not_called_of_settled [DecidableEq ι] {job : Job} {staleAfterMs : BitVec 64}
    {start ready : World} {scanning : List (BatchEvent runId Unit)} {enqueued fuel : Nat}
    {ids : ι → WorkerId} {working : List (BatchEvent runId ι)}
    {d : Config (iface runId) CoreError World fun _ : ι => Option Nat}
    (hrowed : start.Rowed runId) (hstop : ∀ id, start.stopPull id = false)
    (hscans : Run (machine runId Unit) ⟨start, fun _ => job.startup staleAfterMs⟩ scanning
      ⟨ready, fun _ => .ret enqueued⟩)
    (hworks : Run (machine runId ι) ⟨ready, fun i => (job.worker (ids i)).runLoop fuel 0⟩ working d)
    {sid : ContentId} (hsettled : start.Settled runId sid) : working.countP (isCall sid) = 0 := by
  obtain ⟨nowMs, -, hscanned, hmirrored⟩ := startup_scanned hrowed hscans rfl
  have hstale : ∀ i, (job.worker (ids i)).staleAfterMs = defaultStaleAfterMs := fun _ => rfl
  obtain ⟨hpooled, -⟩ := pool_sound hworks hstale (hscanned.pooled hstop hmirrored)
  obtain ⟨record, hrecord, hterminal⟩ := hsettled
  rw [← Nat.zero_add (working.countP (isCall sid))]
  refine (calls_foldl _ sid).symm.trans (hpooled.calls_of_settled ⟨record, ?_, hterminal⟩)
  refine (hscanned.kept sid ?_).trans hrecord
  rintro ⟨-, hdue⟩
  rw [hrecord] at hdue
  rw [isTerminal_of_claimable hdue] at hterminal
  cases hterminal

/-- **The backend is called once.** In every run of the workers after a scan, finished or cut off
anywhere, it is called at most once for each sample and never for one that was done or failed before
the scan, as long as no reading of the clock finds a claim of this pass stale; and when all workers
have returned, exactly once for every sample that the scan found absent, pending or stale.
Source: `rollout-runtime-batch/src/worker.rs` `run_loop`. Kind: P -/
theorem pass_calls_once [DecidableEq ι] [Nonempty ι] {job : Job} {staleAfterMs : BitVec 64}
    {start ready : World} {scanning : List (BatchEvent runId Unit)} {enqueued fuel : Nat}
    {ids : ι → WorkerId} {working : List (BatchEvent runId ι)}
    {d : Config (iface runId) CoreError World fun _ : ι => Option Nat}
    (hrowed : start.Rowed runId) (hstop : ∀ id, start.stopPull id = false)
    (hscans : Run (machine runId Unit) ⟨start, fun _ => job.startup staleAfterMs⟩ scanning
      ⟨ready, fun _ => .ret enqueued⟩)
    (hworks : Run (machine runId ι) ⟨ready, fun i => (job.worker (ids i)).runLoop fuel 0⟩ working d)
    (htimely : ∀ e ∈ working, OnTime defaultStaleAfterMs ready e) :
    (∀ sid, working.countP (isCall sid) ≤ 1) ∧
      (∀ sid, start.Settled runId sid → working.countP (isCall sid) = 0) ∧
      ∃ nowMs, ReadsClock scanning nowMs ∧
        ((∀ i, ∃ completed, d.progs i = .ret (some completed)) → ∀ item ∈ job.inputs,
          Due nowMs staleAfterMs (start.sample runId ((job.coordinator staleAfterMs).sid item)) = true →
            working.countP (isCall ((job.coordinator staleAfterMs).sid item)) = 1) := by
  obtain ⟨nowMs, hreads, hscanned, hmirrored⟩ := startup_scanned hrowed hscans rfl
  have hstale : ∀ i, (job.worker (ids i)).staleAfterMs = defaultStaleAfterMs := fun _ => rfl
  obtain ⟨hpooled, hquits⟩ := pool_sound hworks hstale (hscanned.pooled hstop hmirrored)
  have hcalls : ∀ sid, (working.foldl (Tally.next defaultStaleAfterMs ready) (Tally.start ι)).calls sid =
      working.countP (isCall sid) := fun sid => (calls_foldl _ sid).trans (Nat.zero_add _)
  have honce := hpooled.once (timely_foldl trivial htimely)
  refine ⟨fun sid => hcalls sid ▸ honce.calls_le_one sid,
    fun sid hsettled => not_called_of_settled hrowed hstop hscans hworks hsettled, nowMs, hreads, ?_⟩
  intro hreturned item hitem hdue
  have hhand := fun i => (hquits i _ (hreturned i).choose_spec).2
  have hdeque := (hquits _ _ (hreturned (Classical.arbitrary ι)).choose_spec).1
  obtain ⟨⟨record, hrecord, hpending⟩, -⟩ := hscanned.due item hitem hdue
  rw [← hcalls]
  refine honce.changed _ (fun i r c ⟨q, hq⟩ => ?_) fun hsame => ?_
  · rw [hhand] at hq
    cases hq
  · have hfinal := hpooled.final hdeque hhand (List.mem_map_of_mem hitem) (by rw [hrecord]; simp)
    rw [hrecord] at hsame
    rcases hfinal with ⟨r, hr, hterminal⟩ | ⟨r, hrunning, hr, -⟩
    · obtain rfl := Option.some.inj (hr.symm.trans hsame)
      rw [hpending] at hterminal
      cases hterminal
    · obtain rfl := Option.some.inj (hr.symm.trans hrecord)
      rw [hpending] at hrunning
      cases hrunning

end settled

/-! ## A pass of one worker -/

section play

local instance settledBlake3 : Blake3 := twoBlake3

theorem rowed_fresh_of (runId : RunId) : World.fresh.Rowed runId := by
  rintro sid bytes ⟨⟩

/-- A reading of the clock within the window finds no claim stale.
Source: `rollout-runtime-batch/src/state.rs` `try_claim` (`saturating_sub`). Kind: L -/
theorem onTime_of_early {runId : RunId} {ι : Type} {staleAfterMs : BitVec 64} {w₀ : World}
    {e : BatchEvent runId ι} (h : ∀ t ∈ readClock none e, t.toNat ≤ staleAfterMs.toNat) :
    OnTime staleAfterMs w₀ e := by
  unfold OnTime
  split
  · intro sid record workerId startedAtMs _ _ _
    exact decide_eq_false (Nat.not_lt.mpr ((Nat.sub_le _ _).trans (h _ rfl)))
  · trivial

/-- The pass over two empty prompts, with the clock at 200. Source: none: infrastructure. Kind: L -/
theorem play_two : ∃ p, playPass twoPrompts .fresh 15 24 = some p ∧
    ∀ e ∈ p.working, ∀ t ∈ readClock none e, t.toNat ≤ 300000 := by
  have hplay : (playPass twoPrompts .fresh 15 24).map (fun p => p.working.all fun e =>
      (readClock none e).all fun t => decide (t.toNat ≤ 300000)) = some true := by
    decide +kernel
  obtain ⟨p, hp, hclock⟩ := Option.map_eq_some_iff.mp hplay
  simp only [List.all_eq_true, Option.all_eq_true, decide_eq_true_eq] at hclock
  exact ⟨p, hp, hclock⟩

/-- `pass_settles` at a pass over two prompts that starts with nothing.
Source: `rollout-cli/src/infer.rs` `run_pool`. Kind: C -/
theorem two_prompts_settled : ∃ p : Pass ⟨⟨7⟩⟩, p.rows = twoPrompts ∧ p.start = .fresh ∧
    ∀ item ∈ globInputs twoPrompts, p.finish.Settled ⟨⟨7⟩⟩ (p.sid .ofEmpty item) := by
  obtain ⟨p, hplay, -⟩ := play_two
  obtain ⟨hrows, -, hstart, hcompletes⟩ := completes_of_playPass hplay
  obtain ⟨-, nowMs, -, hsettled⟩ := pass_settles (hstart ▸ rowed_fresh_of _)
    (fun _ => by rw [hstart]; rfl) hcompletes
  refine ⟨p, hrows, hstart, fun item hitem => (hsettled item (hrows ▸ hitem)).resolve_right ?_⟩
  rintro ⟨record, workerId, startedAtMs, -, -, hbefore, -⟩
  rw [hstart] at hbefore
  cases hbefore

/-- `pass_calls_once` at that pass: one call for each of the two samples.
Source: `rollout-runtime-batch/src/worker.rs` `run_loop`. Kind: C -/
theorem two_prompts_called_once : ∃ p : Pass ⟨⟨7⟩⟩, p.rows = twoPrompts ∧ p.start = .fresh ∧
    ∀ item ∈ globInputs twoPrompts, p.working.countP (isCall (p.sid .ofEmpty item)) = 1 := by
  obtain ⟨p, hplay, hclock⟩ := play_two
  obtain ⟨hrows, -, hstart, hcompletes⟩ := completes_of_playPass hplay
  obtain ⟨enqueued, hscans⟩ := hcompletes.scans
  obtain ⟨fuel, completed, hworks⟩ := hcompletes.works
  obtain ⟨-, -, nowMs, -, honce⟩ := pass_calls_once (hstart ▸ rowed_fresh_of _)
    (fun _ => by rw [hstart]; rfl) hscans hworks fun e he => onTime_of_early (hclock e he)
  refine ⟨p, hrows, hstart, fun item hitem => honce (fun i => ⟨completed i, rfl⟩) item ?_ ?_⟩
  · show item ∈ globInputs p.rows
    rwa [hrows]
  · rw [hstart]
    rfl

end play

end Rollout.Batch
