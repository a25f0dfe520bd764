import Rollout.Batch.Provenance

/-!
# The scan of a pass

* `Ready` — the invariant of a pass while it is scanned: besides `InPass`, the rows of the queue are
  the entries of the deque.
* `yields_startup` — a scan that starts where no entry is left in the queue keeps it.
-/

set_option linter.unusedSectionVars false

namespace Rollout.Batch

open Rollout.Lib Rollout.Core

variable [Blake3] {runId : RunId} {ι : Type} {i : ι}

/-- The rows of the queue are the entries of the deque.
Source: `rollout-cloud-local/src/queue.rs`. Kind: D -/
def World.Mirrored (w : World) : Prop :=
  ∀ id, w.rows.get (keyFor id) ≠ none → ∃ x ∈ w.deque, x.1 = id

/-- Nothing is left in the queue. Source: `rollout-cloud-local/src/queue.rs`. Kind: D -/
def World.QueueEmpty (w : World) : Prop := ∀ id, w.rows.get (keyFor id) = none

section scan

variable {coord : BatchCoordinator} {C : Catalog coord.modelContentId} {cur : Sample → Prop}
  {w₀ w : World} {gens : List Generation} {clock : Option (BitVec 64)} {nowMs : BitVec 64}
  {item : InputItem} {items : List InputItem}

/-- **What holds while a pass is scanned.**
Source: `rollout-runtime-batch/src/coordinator.rs` `scan_and_enqueue`. Kind: D -/
structure Ready (C : Catalog coord.modelContentId) (runId : RunId) (cur : Sample → Prop)
    (w₀ : World) (gens : List Generation) (w : World) : Prop where
  inPass : InPass C runId cur w₀ gens w
  mirrored : w.Mirrored

/-- **A sample is enqueued.** Source: `rollout-cloud-local/src/queue.rs` `enqueue`. Kind: L -/
theorem Ready.enqueue (h : Ready C runId cur w₀ gens w) {s : Sample} (hcur : cur s) (id : Ulid) :
    Ready C runId cur w₀ gens (w.enqueued id (s.id coord.modelContentId).chars) := by
  refine ⟨h.inPass.queueRow ?_ rfl rfl ?_, ?_⟩
  · intro key hkey
    exact KV.get_put_of_ne _ _ _ _ (hkey id)
  · intro x hx
    rcases List.mem_append.mp hx with hx | hx
    · exact .inl hx
    · rw [List.mem_singleton.mp hx]
      exact .inr ⟨s, hcur, rfl⟩
  · intro other hget
    by_cases hother : other = id
    · exact ⟨_, List.mem_append_right _ (List.mem_singleton.mpr rfl), hother.symm⟩
    · unfold World.enqueued at hget
      rw [KV.get_put_of_ne _ _ _ _ (by simpa using hother)] at hget
      obtain ⟨x, hx, hid⟩ := h.mirrored other hget
      exact ⟨x, List.mem_append_left _ hx, hid⟩

/-- The rows of the queue are left alone. Source: `rollout-cloud-local/src/queue.rs`. Kind: L -/
theorem World.Mirrored.congr {w' : World} (h : w.Mirrored)
    (hrows : ∀ id, w'.rows.get (keyFor id) = w.rows.get (keyFor id)) (hdeque : w'.deque = w.deque) :
    w'.Mirrored := by
  intro id hget
  rw [hrows] at hget
  rw [hdeque]
  exact h id hget

theorem get_keyFor_put_sample (rows : Rows) (sid : ContentId) (bytes : Bytes) (id : Ulid) :
    (rows.put (sampleKey runId sid) bytes).get (keyFor id) = rows.get (keyFor id) :=
  KV.get_put_of_ne _ _ _ _ (sampleKey_ne_keyFor runId sid id).symm

theorem get_keyFor_swap (rows : Rows) (record : SampleRecord) (state : SampleState) (id : Ulid) :
    (swap runId rows record state).2.get (keyFor id) = rows.get (keyFor id) := by
  rcases swap_cases runId rows record state with ⟨-, hswap⟩ | ⟨-, hswap⟩
  · rw [hswap, get_keyFor_put_sample]
  · rw [hswap]

/-- **A row is created.** Source: `rollout-runtime-batch/src/coordinator.rs` `scan_and_enqueue` (the
`None` branch). Kind: L -/
theorem Ready.create (h : Ready C runId cur w₀ gens w) (hcur : cur ⟨item, coord.sampling⟩)
    (hholds : ∀ s, cur s → C.holds s)
    (hnone : w.rows.get (sampleKey runId (coord.sid item)) = none) :
    Ready C runId cur w₀ gens { w with
      objects := w.objects.putNew (.of item.prompt.utf8) ⟨item.prompt.utf8, item.prompt.fits⟩
      rows := w.rows.put (sampleKey runId (coord.sid item)) (encodeRecord
        ⟨coord.sid item, .of item.prompt.utf8, .pending, nowMs, item.inputIdx⟩) } := by
  have hheld := hholds _ hcur
  have hprompt := C.prompts _ hheld
  have hstored := h.inPass.storeObject ⟨item.prompt.utf8, item.prompt.fits⟩ hprompt
  have hbacked : Backed C (w.objects.putNew (.of item.prompt.utf8)
      ⟨item.prompt.utf8, item.prompt.fits⟩) gens
      ⟨coord.sid item, .of item.prompt.utf8, .pending, nowMs, item.inputIdx⟩ :=
    ⟨⟨⟨item, coord.sampling⟩, hheld, rfl, rfl, rfl, h.inPass.stores_putNew hprompt⟩,
      by rintro _ _ ⟨⟩⟩
  refine ⟨hstored.write _ hbacked rfl rfl rfl rfl ?_ (by rintro ⟨⟩),
    h.mirrored.congr (fun id => get_keyFor_put_sample _ _ _ id) rfl⟩
  intro r hr
  have hr : w.sample runId (coord.sid item) = some r := hr
  rw [World.sample_of_none hnone] at hr
  cases hr

/-- **A row is put back to pending.** Source: `rollout-runtime-batch/src/coordinator.rs`
`scan_and_enqueue` (`try_repending`). Kind: L -/
theorem Ready.repending (h : Ready C runId cur w₀ gens w) (record : SampleRecord)
    (hrecord : record.state.isDone = false) :
    Ready C runId cur w₀ gens { w with
      rows := (atomically (SampleTxn.body runId (.repending record)) w.rows).2 } := by
  rw [atomically_repending]
  exact ⟨h.inPass.swap record .pending hrecord (by rintro _ _ ⟨⟩) (by rintro ⟨⟩),
    h.mirrored.congr (fun id => get_keyFor_swap _ _ _ id) rfl⟩

/-! ## The programs -/

theorem yields_enqueue_item (h : Ready C runId cur w₀ gens w) (hcur : cur ⟨item, coord.sampling⟩) :
    (BatchCoordinator.enqueueSample (coord.sid item) : BatchM runId Bool).Yields (machine runId ι) i
      readClock (fun _ w' _ => Ready C runId cur w₀ gens w') w clock :=
  yields_enqueueSample fun id _ => h.enqueue hcur id

/-- **One input.** Source: `rollout-runtime-batch/src/coordinator.rs` `scan_and_enqueue`. Kind: L -/
theorem yields_scanItem (h : Ready C runId cur w₀ gens w) (hholds : ∀ s, cur s → C.holds s)
    (hcur : cur ⟨item, coord.sampling⟩) :
    (coord.scanItem nowMs item : BatchM runId Bool).Yields (machine runId ι) i readClock
      (fun _ w' _ => Ready C runId cur w₀ gens w') w clock := by
  apply yields_ask
  intro _ existing _ hget
  obtain ⟨rfl, rfl⟩ := Prod.mk.inj (Option.some.inj hget)
  dsimp only [Store.perform]
  rcases hexisting : w.rows.get (sampleKey runId (coord.sid item)) with _ | bytes
  · apply yields_ask
    intro _ _ _ hput
    obtain ⟨rfl, rfl⟩ := Prod.mk.inj (Option.some.inj hput)
    apply yields_ask
    intro _ _ _ hcreate
    obtain ⟨-, rfl⟩ := Prod.mk.inj (Option.some.inj hcreate)
    exact yields_enqueue_item (h.create hcur hholds hexisting) hcur
  · apply Prog.Yields.ofExcept
    intro record hdec
    have hs := World.sample_of_decode hexisting hdec
    rcases record with ⟨id, blob, state, created, idx⟩
    cases state with
    | pending => exact yields_enqueue_item h hcur
    | done => exact h
    | failed => exact yields_enqueue_item h hcur
    | running worker startedAtMs =>
        dsimp only
        split
        · apply yields_ask
          intro _ applied _ hswap
          obtain ⟨rfl, rfl⟩ := Prod.mk.inj (Option.some.inj hswap)
          have hready := h.repending ⟨id, blob, .running worker startedAtMs, created, idx⟩ rfl
          split
          · exact yields_enqueue_item hready hcur
          · exact hready
        · exact h

theorem yields_scanItems (hholds : ∀ s, cur s → C.holds s)
    (hcur : ∀ item ∈ items, cur ⟨item, coord.sampling⟩) (enqueued : Nat)
    (h : Ready C runId cur w₀ gens w) :
    (coord.scanItems nowMs enqueued items : BatchM runId Nat).Yields (machine runId ι) i readClock
      (fun _ w' _ => Ready C runId cur w₀ gens w') w clock := by
  induction items generalizing enqueued w clock with
  | nil => exact h
  | cons item items ih =>
      apply Prog.Yields.bind
      refine (yields_scanItem h hholds (hcur item List.mem_cons_self)).weaken ?_
      intro _ _ _ hnext
      exact ih (fun other hother => hcur other (List.mem_cons_of_mem _ hother)) _ hnext

/-- A store without rows of the queue has no entries to replay.
Source: `rollout-cloud-local/src/queue.rs` `open`. Kind: L -/
theorem scan_queue_eq_nil {model : ContentId} {C : Catalog model}
    (h : InPass C runId cur w₀ gens w) (hempty : w.QueueEmpty) :
    (w.rows.scan fun key => keyHasPrefix key ⟨"cloudlocal_queue", none, []⟩) = [] := by
  rw [List.eq_nil_iff_forall_not_mem]
  intro entry hentry
  obtain ⟨hget, hpfx⟩ := (KV.mem_scan w.rows).mp hentry
  rcases h.rows _ _ hget with ⟨id, hkey⟩ | ⟨record, hkey, -, -⟩
  · rw [hkey, hempty id] at hget
    cases hget
  · rw [hkey] at hpfx
    cases hpfx

/-- **The scan of a pass**, where nothing is left in the queue.
Source: `rollout-cli/src/infer.rs` `run_pool` (up to the workers). Kind: P -/
theorem yields_startup (job : Job) {staleAfterMs : BitVec 64} {C : Catalog job.modelContentId}
    (hholds : ∀ s, cur s → C.holds s) (hcur : ∀ item ∈ job.inputs, cur ⟨item, job.sampling⟩)
    (h : InPass C runId cur w₀ gens w) (hempty : w.QueueEmpty) :
    (job.startup staleAfterMs : BatchM runId Nat).Yields (machine runId ι) i readClock
      (fun _ w' _ => @Ready _ (job.coordinator staleAfterMs) C runId cur w₀ gens w') w clock := by
  apply Prog.Yields.bind
  unfold openQueue
  rw [scanBytes_eq]
  apply yields_ask
  intro _ _ _ hscan
  obtain ⟨rfl, rfl⟩ := Prod.mk.inj (Option.some.inj hscan)
  simp only [Store.perform]
  have hsorted : sortById (List.filterMap replayed []) = [] := by simp [sortById]
  rw [scan_queue_eq_nil h hempty, hsorted, ← Prog.bind_ret (ask _)]
  apply yields_ask
  intro _ _ _ hopen
  obtain ⟨-, rfl⟩ := Prod.mk.inj (Option.some.inj hopen)
  apply yields_ask
  intro _ nowMs _ hnow
  obtain ⟨-, rfl⟩ := Prod.mk.inj (Option.some.inj hnow)
  have hready : @Ready _ (job.coordinator staleAfterMs) C runId cur w₀ gens { w with deque := [] } :=
    ⟨h.queueRow (fun _ _ => rfl) rfl rfl (by rintro _ ⟨⟩), fun id hget => absurd (hempty id) hget⟩
  exact yields_scanItems hholds hcur 0 hready

end scan

end Rollout.Batch
