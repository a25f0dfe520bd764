import Rollout.Batch.Scanning

/-!
# The workers of a pass

* `Trail` — what was generated so far, and the queue entry each worker holds.
* `working` — the agreement of the workers: rows stay backed, a completion is written for a sample
  only after it was generated, an entry that was taken is acknowledged by the worker that took it.
* `safe_runOne`, `safe_runLoop` — the programs keep to it; `works_sound` — what the workers leave when
  all have returned.
-/

set_option linter.unusedSectionVars false

namespace Rollout.Batch

open Rollout.Lib Rollout.Core

variable [Blake3] {runId : RunId} {ι : Type} [DecidableEq ι]

/-! ## The agreement -/

/-- What was generated so far, and the entry of the queue each worker holds.
Source: none: infrastructure. Kind: D -/
structure Trail (ι : Type) where
  /-- The generations. -/
  gens : List Generation
  /-- The entries. -/
  held : ι → Option Ulid

/-- The trail when the workers are spawned. Source: none: infrastructure. Kind: D -/
def Trail.start (ι : Type) (gens : List Generation) : Trail ι := ⟨gens, fun _ => none⟩

/-- The trail after an operation with its answer. Source: none: infrastructure. Kind: D -/
def Trail.next (g : Trail ι) (i : ι) (o : Op runId) (a : o.Out) : Trail ι where
  gens := g.gens ++ (generated o a).toList
  held := match o, a with
    | .popFront, some (id, _) => Function.update g.held i (some id)
    | .store (.txn (.ack _)), _ => Function.update g.held i none
    | _, _ => g.held

/-- An operation that is no generation and takes or acknowledges no entry.
Source: none: infrastructure. Kind: L -/
theorem Trail.next_eq {g : Trail ι} {i : ι} {o : Op runId} {a : o.Out} (hgen : generated o a = none)
    (hheld : (g.next i o a).held = g.held) : g.next i o a = g := by
  have hgens : (g.next i o a).gens = g.gens := by
    show g.gens ++ (generated o a).toList = g.gens
    rw [hgen]
    exact List.append_nil _
  calc g.next i o a = ⟨(g.next i o a).gens, (g.next i o a).held⟩ := rfl
    _ = ⟨g.gens, g.held⟩ := by rw [hgens, hheld]

/-- The entries of the others. Source: none: infrastructure. Kind: L -/
theorem Trail.held_next {g : Trail ι} {i j : ι} {o : Op runId} {a : o.Out} (hj : j ≠ i) :
    (g.next i o a).held j = g.held j := by
  unfold Trail.next
  dsimp only
  split
  · exact Function.update_of_ne hj _ _
  · exact Function.update_of_ne hj _ _
  · rfl

/-- Every row of the queue is in the deque or held by a worker.
Source: `rollout-cloud-local/src/queue.rs`. Kind: D -/
def World.Held (w : World) (held : ι → Option Ulid) : Prop :=
  ∀ id, w.rows.get (keyFor id) ≠ none → (∃ x ∈ w.deque, x.1 = id) ∨ ∃ i, held i = some id

section working

variable {model : ContentId} {C : Catalog model} {cur : Sample → Prop} {w₀ : World}

/-- What a worker knows when it asks for something.
Source: `rollout-runtime-batch/src/worker.rs` `run_one`. Kind: D -/
def Knows (model : ContentId) (cur : Sample → Prop) (i : ι) (o : Op runId) (w : World)
    (g : Trail ι) : Prop :=
  match o with
  | .store (.txn (.create _)) => False
  | .store (.txn (.repending _)) => False
  | .store (.txn (.enqueue ..)) => False
  | .store (.txn (.complete running blob _)) => running.state.isDone = false ∧
      GeneratedFor w.objects g.gens running.id blob ∧ ∃ s, cur s ∧ running.id = s.id model
  | .store (.txn (.fail running _ _)) => running.state.isDone = false
  | .store (.txn (.ack id)) => g.held i = some id
  | .openDeque _ => False
  | .pushBack .. => False
  | .popFront => g.held i = none
  | .generate sample prompts sampling => ∃ s, cur s ∧ sample = s.id model ∧
      prompts = [s.item.prompt] ∧ sampling = s.sampling
  | _ => True

/-- What a worker expects of the others. Source: none: infrastructure. Kind: D -/
structure Expects (i : ι) (w : World) (g : Trail ι) (w' : World) (g' : Trail ι) : Prop where
  gens : g.gens ⊆ g'.gens
  held : g'.held i = g.held i
  objects : ObjectsGrow w.objects w'.objects
  deque : w.deque = [] → w'.deque = []

theorem Expects.refl (i : ι) (w : World) (g : Trail ι) : Expects i w g w g :=
  ⟨List.Subset.refl _, rfl, ObjectsGrow.refl _, id⟩

theorem Expects.trans {i : ι} {w w' w'' : World} {g g' g'' : Trail ι} (h : Expects i w g w' g')
    (h' : Expects i w' g' w'' g'') : Expects i w g w'' g'' :=
  ⟨fun _ hmem => h'.gens (h.gens hmem), h'.held.trans h.held, h.objects.trans h'.objects, h'.deque ∘ h.deque⟩

/-- **What holds while the workers run.** Source: `rollout-cli/src/infer.rs` `run_pool`. Kind: D -/
structure Worked (C : Catalog model) (runId : RunId) (cur : Sample → Prop) (w₀ w : World)
    (g : Trail ι) : Prop where
  inPass : InPass C runId cur w₀ g.gens w
  held : w.Held g.held

/-- An operation that leaves the rows, the deque and the entries alone.
Source: none: infrastructure. Kind: L -/
theorem World.Held.congr {w w' : World} {held : ι → Option Ulid} (h : w.Held held)
    (hrows : ∀ id, w'.rows.get (keyFor id) = w.rows.get (keyFor id)) (hdeque : w'.deque = w.deque) :
    w'.Held held := by
  intro id hget
  rw [hrows] at hget
  rw [hdeque]
  exact h id hget

variable {i : ι} {w : World} {g : Trail ι}

/-- **A row moves on.** Source: `rollout-runtime-batch/src/state.rs`. Kind: L -/
theorem Worked.swap (h : Worked C runId cur w₀ w g) (record : SampleRecord) (state : SampleState)
    (hrecord : record.state.isDone = false)
    (hgen : ∀ blob t, state = .done blob t → GeneratedFor w.objects g.gens record.id blob)
    (hdone : state.isDone = true → ∃ s, cur s ∧ record.id = s.id model) :
    Worked C runId cur w₀ { w with rows := (Batch.swap runId w.rows record state).2 } g :=
  ⟨h.inPass.swap record state hrecord hgen hdone,
    h.held.congr (fun id => get_keyFor_swap _ _ _ id) rfl⟩

/-- **An entry is taken.** Source: `rollout-cloud-local/src/queue.rs` `dequeue`. Kind: L -/
theorem Worked.popFront (h : Worked C runId cur w₀ w g) (hfree : g.held i = none) :
    Worked C runId cur w₀ { w with deque := w.deque.tail }
      (g.next i (.popFront : Op runId) w.deque.head?) := by
  have hgens : (g.next i (.popFront : Op runId) w.deque.head?).gens = g.gens := List.append_nil _
  refine ⟨?_, ?_⟩
  · rw [hgens]
    exact h.inPass.queueRow (fun _ _ => rfl) rfl rfl fun x hx => .inl (List.mem_of_mem_tail hx)
  · intro id hget
    cases hdeque : w.deque with
    | nil =>
        rcases h.held id hget with ⟨x, hx, -⟩ | hheld
        · rw [hdeque] at hx
          cases hx
        · exact .inr hheld
    | cons entry rest =>
        obtain ⟨qid, payload⟩ := entry
        show (∃ x ∈ rest, x.1 = id) ∨ ∃ j, Function.update g.held i (some qid) j = some id
        rcases h.held id hget with ⟨x, hx, hid⟩ | ⟨j, hj⟩
        · rw [hdeque] at hx
          rcases List.mem_cons.mp hx with rfl | hx
          · exact .inr ⟨i, by rw [Function.update_self, ← hid]⟩
          · exact .inl ⟨x, hx, hid⟩
        · refine .inr ⟨j, ?_⟩
          rw [Function.update_of_ne ?_]
          · exact hj
          · rintro rfl
            rw [hfree] at hj
            cases hj

/-- **An entry is acknowledged.** Source: `rollout-cloud-local/src/queue.rs` `ack`. Kind: L -/
theorem Worked.ack (h : Worked C runId cur w₀ w g) {qid : Ulid} (hheld : g.held i = some qid) :
    Worked C runId cur w₀ { w with rows := w.rows.del (keyFor qid) }
      (g.next i (.store (.txn (.ack qid)) : Op runId) ()) := by
  have hgens : (g.next i (.store (.txn (.ack qid)) : Op runId) ()).gens = g.gens := List.append_nil _
  refine ⟨?_, ?_⟩
  · rw [hgens]
    refine h.inPass.queueRow (fun key hkey => ?_) rfl rfl fun x hx => .inl hx
    exact KV.get_del_of_ne _ _ _ (hkey qid)
  · intro id hget
    have hne : id ≠ qid := by
      rintro rfl
      exact hget (KV.get_del_self _ _)
    have hrow : w.rows.get (keyFor id) ≠ none := by
      rwa [← KV.get_del_of_ne w.rows (keyFor qid) _ (by simpa using hne)]
    rcases h.held id hrow with hentry | ⟨j, hj⟩
    · exact .inl hentry
    · refine .inr ⟨j, ?_⟩
      show Function.update g.held i none j = some id
      rw [Function.update_of_ne ?_]
      · exact hj
      · rintro rfl
        rw [hheld] at hj
        exact hne (Option.some.inj hj).symm

/-- **The backend answers.** Source: `rollout-runtime-batch/src/worker.rs` `run_one`. Kind: L -/
theorem Worked.generate (h : Worked C runId cur w₀ w g) (hholds : ∀ s, cur s → C.holds s)
    {s : Sample} (hcur : cur s) (answer : Except Text (List Text)) :
    Worked C runId cur w₀ w (g.next i (.generate (s.id model) [s.item.prompt] s.sampling : Op runId)
      answer) := by
  refine ⟨h.inPass.generate (List.subset_append_left _ _) ?_, h.held⟩
  intro gen hmem hnew
  rcases List.mem_append.mp hmem with hold | hmem
  · exact absurd hold hnew
  · refine ⟨s, hholds s hcur, ?_⟩
    cases answer with
    | error e => cases hmem
    | ok completions =>
        obtain ⟨text, -, rfl⟩ := Option.map_eq_some_iff.mp (Option.mem_toList.mp hmem)
        exact ⟨rfl, rfl, rfl⟩

/-- An operation of a worker leaves what it must. Source: `rollout-runtime-batch/src/worker.rs`,
`rollout-cloud-local/src/queue.rs`. Kind: L -/
theorem Worked.step (h : Worked C runId cur w₀ w g) (hholds : ∀ s, cur s → C.holds s)
    {o : Op runId} {ch : Choice} {a : o.Out} {w' : World} (hperf : perform ch o w = some (a, w'))
    (hbytes : ∀ bytes, o = .putObject bytes → C.digests bytes.1)
    (hknows : Knows model cur i o w g) :
    Worked C runId cur w₀ w' (g.next i o a) ∧ ObjectsGrow w.objects w'.objects ∧
      (w.deque = [] → w'.deque = []) := by
  have still : ∀ {o' : Op runId} {a' : o'.Out}, g.next i o' a' = g → Worked C runId cur w₀ w
      (g.next i o' a') ∧ ObjectsGrow w.objects w.objects ∧ (w.deque = [] → w.deque = []) := by
    intro o' a' hnext
    rw [hnext]
    exact ⟨h, ObjectsGrow.refl _, id⟩
  have moved : ∀ {o' : Op runId} {a' : o'.Out}, g.next i o' a' = g → ∀ record state,
      record.state.isDone = false →
      (∀ blob t, state = .done blob t → GeneratedFor w.objects g.gens record.id blob) →
      (state.isDone = true → ∃ s, cur s ∧ record.id = s.id model) →
      Worked C runId cur w₀ { w with rows := (Batch.swap runId w.rows record state).2 }
        (g.next i o' a') ∧ ObjectsGrow w.objects w.objects ∧ (w.deque = [] → w.deque = []) := by
    intro o' a' hnext record state hrecord hgen hdone
    rw [hnext]
    exact ⟨h.swap record state hrecord hgen hdone, ObjectsGrow.refl _, id⟩
  have rows_eq : ∀ {α : Type} {r r' : α × Rows}, r = r' →
      ({ w with rows := r.2 } : World) = { w with rows := r'.2 } := fun heq => heq ▸ rfl
  cases o with
  | store o =>
      obtain ⟨-, hw⟩ := Prod.mk.inj (Option.some.inj hperf)
      cases o with
      | get k =>
          obtain rfl := hw
          exact still (Trail.next_eq rfl rfl)
      | scan p =>
          obtain rfl := hw
          exact still (Trail.next_eq rfl rfl)
      | txn t =>
          cases t with
          | create record => exact hknows.elim
          | repending record => exact hknows.elim
          | enqueue id payload => exact hknows.elim
          | claim record worker nowMs staleAfterMs =>
              have hclaim := atomically_claim runId w.rows record worker nowMs staleAfterMs
              cases hclaimable : claimable record.state nowMs staleAfterMs with
              | false =>
                  rw [hclaimable] at hclaim
                  obtain rfl : w = w' := (rows_eq hclaim).symm.trans hw
                  exact still (Trail.next_eq rfl rfl)
              | true =>
                  rw [hclaimable] at hclaim
                  have hterminal := isTerminal_of_claimable hclaimable
                  have hdone : record.state.isDone = false := by
                    cases hisDone : record.state.isDone with
                    | true => rw [SampleState.isTerminal_of_isDone hisDone] at hterminal; cases hterminal
                    | false => rfl
                  obtain rfl := (rows_eq hclaim).symm.trans hw
                  exact moved (Trail.next_eq rfl rfl) record (.running worker nowMs) hdone
                    (by rintro _ _ ⟨⟩) (by rintro ⟨⟩)
          | complete record blob t =>
              obtain ⟨hrecord, hgen, hcur⟩ := hknows
              obtain rfl := (rows_eq (atomically_complete runId w.rows record blob t)).symm.trans hw
              exact moved (Trail.next_eq rfl rfl) record (.done blob t) hrecord
                (by rintro _ _ ⟨⟩; exact hgen) fun _ => hcur
          | fail record reason t =>
              obtain rfl := (rows_eq (atomically_fail runId w.rows record reason t)).symm.trans hw
              exact moved (Trail.next_eq rfl rfl) record (.failed reason t) hknows
                (by rintro _ _ ⟨⟩) (by rintro ⟨⟩)
          | ack id =>
              obtain rfl := hw
              exact ⟨h.ack hknows, ObjectsGrow.refl _, fun hempty => hempty⟩
  | nowMs =>
      obtain ⟨rfl, rfl⟩ := Prod.mk.inj (Option.some.inj hperf)
      exact still (Trail.next_eq rfl rfl)
  | generateUlid =>
      obtain ⟨rfl, rfl⟩ := Prod.mk.inj (Option.some.inj hperf)
      exact still (Trail.next_eq rfl rfl)
  | openDeque entries => exact hknows.elim
  | pushBack id payload => exact hknows.elim
  | popFront =>
      obtain ⟨rfl, rfl⟩ := Prod.mk.inj (Option.some.inj hperf)
      exact ⟨h.popFront hknows, ObjectsGrow.refl _, fun hempty => by
        show w.deque.tail = []
        rw [hempty]
        rfl⟩
  | putObject bytes =>
      obtain ⟨rfl, rfl⟩ := Prod.mk.inj (Option.some.inj hperf)
      rw [Trail.next_eq rfl rfl]
      exact ⟨⟨h.inPass.storeObject bytes (hbytes bytes rfl), h.held.congr (fun _ => rfl) rfl⟩,
        ObjectsGrow.putNew _ _ _, id⟩
  | getObject id =>
      obtain ⟨bytes, -, hres⟩ := Option.map_eq_some_iff.mp hperf
      obtain ⟨rfl, rfl⟩ := Prod.mk.inj hres
      exact still (Trail.next_eq rfl rfl)
  | generate sample prompts sampling =>
      obtain ⟨rfl, rfl⟩ := Prod.mk.inj (Option.some.inj hperf)
      obtain ⟨s, hcur, rfl, rfl, rfl⟩ := hknows
      exact ⟨h.generate hholds hcur ch.answer, ObjectsGrow.refl _, id⟩
  | stopPull worker =>
      obtain ⟨rfl, rfl⟩ := Prod.mk.inj (Option.some.inj hperf)
      exact still (Trail.next_eq rfl rfl)

/-- **The agreement of the workers of a pass.** Source: `rollout-cli/src/infer.rs` `run_pool`.
Kind: D -/
def working (C : Catalog model) (runId : RunId) (ι : Type) [DecidableEq ι] (cur : Sample → Prop)
    (hholds : ∀ s, cur s → C.holds s) (w₀ : World) :
    Service.Rules (service runId ι) (Trail ι) where
  upd := Trail.next
  inv w g := Worked C runId cur w₀ w g
  rely := Expects
  pre i o w g := Knows model cur i o w g
  assume o := ∀ bytes, o = .putObject bytes → C.digests bytes.1
  rely_refl := Expects.refl
  rely_trans _ _ _ _ _ _ _ h h' := h.trans h'
  step := by
    intro i o ch a w w' g hperf hbytes hinv hknows
    obtain ⟨hworked, hobjects, hdeque⟩ := hinv.step hholds hperf hbytes hknows
    exact ⟨hworked, fun j hj => ⟨List.subset_append_left _ _, Trail.held_next hj, hobjects, hdeque⟩⟩
  fail _ _ _ hinv := ⟨hinv, fun _ _ => Expects.refl _ _ _⟩
  tick t := t.elim

/-! ## The programs -/

variable {hholds : ∀ s, cur s → C.holds s} {qid : Ulid} {s : Sample} {running : SampleRecord}

/-- What a worker leaves when it is through with an entry: the entry it holds, and nothing in the
queue when it found nothing there. Source: `rollout-runtime-batch/src/worker.rs` `run_one`. Kind: D -/
def Leaves (i : ι) (entry : Option Ulid) : Except CoreError RunOutcome → World → Trail ι → Prop
  | .ok outcome, w, g => g.held i = entry ∧ (outcome = .drained → w.deque = [])
  | .error _, _, _ => True

/-- **An entry is acknowledged, and the program returns.**
Source: `rollout-cloud-local/src/queue.rs` `ack`. Kind: L -/
theorem safe_ack (hheld : g.held i = some qid) {outcome : RunOutcome}
    (hdrained : outcome = .drained → w.deque = []) :
    (ack qid >>= fun _ => pure outcome : BatchM runId RunOutcome).Safe
      ((working C runId ι cur hholds w₀).discipline CoreError) i (Leaves i none) w g := by
  refine Service.Rules.safe_ask (fun _ _ _ => trivial) fun w' g' (hrely : Expects i w g w' g') _ => ?_
  refine ⟨hrely.held.trans hheld, fun _ _ w'' hperf _ _ => ?_⟩
  obtain ⟨-, rfl⟩ := Prod.mk.inj (Option.some.inj hperf)
  refine Service.Rules.safe_ret fun w₁ g₁ (hrely' : Expects i _ _ w₁ g₁) _ => ?_
  exact ⟨hrely'.held.trans (Function.update_self ..), fun h => hrely'.deque (hrely.deque (hdrained h))⟩

/-- **What the backend returned is stored.** Source: `rollout-runtime-batch/src/worker.rs` `run_one`
(`Ok(mut completions)`). Kind: L -/
theorem safe_complete (hheld : g.held i = some qid) (hcur : cur s)
    (hrunning : running.state.isDone = false) (hid : running.id = s.id model) {completions : List Text}
    (hgens : ∀ text, completions.getLast? = some text →
      ⟨s.id model, s.item.prompt, s.sampling, text⟩ ∈ g.gens) :
    (BatchWorker.complete running completions : BatchM runId RunOutcome).Safe
      ((working C runId ι cur hholds w₀).discipline CoreError) i (Leaves i (some qid)) w g := by
  unfold BatchWorker.complete
  refine Prog.Safe.ofExcept_bind (fun _ _ _ => trivial) fun text htext => ?_
  have hmem : ⟨s.id model, s.item.prompt, s.sampling, text⟩ ∈ g.gens := by
    cases hlast : completions.getLast? with
    | none =>
        rw [hlast] at htext
        cases htext
    | some text' =>
        rw [hlast] at htext
        cases htext
        exact hgens text hlast
  refine Service.Rules.safe_ask (fun _ _ _ => trivial) fun w₁ g₁ (hrely : Expects i w g w₁ g₁) hinv => ⟨trivial, ?_⟩
  intro ch blob w₂ hperf hdigests _
  obtain ⟨rfl, rfl⟩ := Prod.mk.inj (Option.some.inj hperf)
  rw [show (working C runId ι cur hholds w₀).upd g₁ i (.putObject ⟨text.utf8, text.fits⟩) _ = g₁ from
    Trail.next_eq (i := i) rfl rfl]
  have hgenerated : GeneratedFor (w₁.objects.putNew (.of text.utf8) ⟨text.utf8, text.fits⟩) g₁.gens
      running.id (.of text.utf8) :=
    ⟨_, hrely.gens hmem, hid.symm, rfl, hinv.inPass.stores_putNew (hdigests _ rfl)⟩
  refine Service.Rules.safe_ask (fun _ _ _ => trivial) fun w₃ g₃ (hrely₃ : Expects i _ g₁ w₃ g₃) _ => ⟨trivial, ?_⟩
  intro ch finishedAtMs w₄ hperf _ _
  obtain ⟨-, rfl⟩ := Prod.mk.inj (Option.some.inj hperf)
  rw [show (working C runId ι cur hholds w₀).upd g₃ i .nowMs _ = g₃ from Trail.next_eq (i := i) rfl rfl]
  refine Service.Rules.safe_ask (fun _ _ _ => trivial) fun w₅ g₅ (hrely₅ : Expects i w₃ g₃ w₅ g₅) _ => ?_
  have hbefore := hrely₃.trans hrely₅
  refine ⟨⟨hrunning, hgenerated.mono hbefore.objects hbefore.gens, s, hcur, hid⟩, ?_⟩
  intro ch applied w₆ _ _ _
  rw [show (working C runId ι cur hholds w₀).upd g₅ i _ applied = g₅ from Trail.next_eq (i := i) rfl rfl]
  have hheld₅ : g₅.held i = some qid := hbefore.held.trans (hrely.held.trans hheld)
  split
  · exact Service.Rules.safe_err (fun _ _ _ => trivial) _
  · exact Service.Rules.safe_ret fun w₇ g₇ (hrely' : Expects i w₆ g₅ w₇ g₇) _ =>
      ⟨hrely'.held.trans hheld₅, by rintro ⟨⟩⟩

/-- **The backend's failure is recorded.** Source: `rollout-runtime-batch/src/worker.rs` `run_one`
(`Err(e)`). Kind: L -/
theorem safe_recordFailure (hheld : g.held i = some qid) (hrunning : running.state.isDone = false)
    (reason : Text) :
    (BatchWorker.recordFailure running reason : BatchM runId RunOutcome).Safe
      ((working C runId ι cur hholds w₀).discipline CoreError) i (Leaves i (some qid)) w g := by
  unfold BatchWorker.recordFailure
  refine Service.Rules.safe_ask (fun _ _ _ => trivial) fun w₁ g₁ (hrely : Expects i w g w₁ g₁) _ =>
    ⟨trivial, ?_⟩
  intro ch failedAtMs w₂ hperf _ _
  obtain ⟨-, rfl⟩ := Prod.mk.inj (Option.some.inj hperf)
  rw [show (working C runId ι cur hholds w₀).upd g₁ i .nowMs _ = g₁ from
    Trail.next_eq (i := i) rfl rfl]
  refine Service.Rules.safe_ask (fun _ _ _ => trivial) fun w₃ g₃ (hrely₃ : Expects i w₁ g₁ w₃ g₃) _ =>
    ⟨hrunning, ?_⟩
  intro ch applied w₄ _ _ _
  rw [show (working C runId ι cur hholds w₀).upd g₃ i _ applied = g₃ from
    Trail.next_eq (i := i) rfl rfl]
  exact Service.Rules.safe_ret fun w₅ g₅ (hrely₅ : Expects i w₄ g₃ w₅ g₅) _ =>
    ⟨hrely₅.held.trans (hrely₃.held.trans (hrely.held.trans hheld)), by rintro ⟨⟩⟩

variable {worker : BatchWorker}

/-- The record of a sample was made for it. Source: `rollout-runtime-batch/src/coordinator.rs`
`scan_and_enqueue`. Kind: L -/
theorem InPass.madeFor {gens : List Generation} {record : SampleRecord}
    (h : InPass C runId cur w₀ gens w) (hholds : C.holds s)
    (hs : w.sample runId (s.id model) = some record) : MadeFor C w.objects record s := by
  obtain ⟨s', hmade⟩ := (h.backed hs).made
  obtain rfl := C.ids s' s hmade.holds hholds (hmade.id.symm.trans (h.rowed.id_eq hs))
  exact hmade

/-- **A claimed sample is generated for.** Source: `rollout-runtime-batch/src/worker.rs` `run_one`
(after the claim). Kind: L -/
theorem safe_process (hheld : g.held i = some qid) (hcur : cur s) (hsampling : worker.sampling = s.sampling)
    (hrunning : running.state.isDone = false) (hmade : MadeFor C w.objects running s) :
    (worker.process running : BatchM runId RunOutcome).Safe
      ((working C runId ι cur hholds w₀).discipline CoreError) i (Leaves i (some qid)) w g := by
  unfold BatchWorker.process
  refine Service.Rules.safe_ask (fun _ _ _ => trivial) fun w₁ g₁ (hrely : Expects i w g w₁ g₁) _ =>
    ⟨trivial, ?_⟩
  intro ch promptBytes w₂ hperf _ _
  obtain ⟨bytes, hget, hres⟩ := Option.map_eq_some_iff.mp hperf
  obtain ⟨rfl, rfl⟩ := Prod.mk.inj hres
  rw [show (working C runId ι cur hholds w₀).upd g₁ i (.getObject running.promptBlob) _ = g₁ from
    Trail.next_eq (i := i) rfl rfl]
  rw [(hmade.mono hrely.objects).promptText hget]
  refine Prog.Safe.ofExcept_bind (fun _ _ _ => trivial) fun prompt hprompt => ?_
  obtain rfl := Except.ok.inj hprompt
  refine Service.Rules.safe_ask (fun _ _ _ => trivial) fun w₃ g₃ (hrely₃ : Expects i w₁ g₁ w₃ g₃) _ =>
    ⟨⟨s, hcur, hmade.id, rfl, hsampling⟩, ?_⟩
  intro ch result w₄ hperf _ _
  obtain ⟨rfl, rfl⟩ := Prod.mk.inj (Option.some.inj hperf)
  have hheld₃ : (g₃.next i (.generate running.id [s.item.prompt] worker.sampling : Op runId)
      ch.answer).held i = some qid := hrely₃.held.trans (hrely.held.trans hheld)
  show Prog.Safe _ i _ _ _ (g₃.next i (.generate running.id [s.item.prompt] worker.sampling : Op runId)
      ch.answer)
  generalize hanswer : ch.answer = answer at hheld₃ ⊢
  cases answer with
  | error e => exact safe_recordFailure hheld₃ hrunning e
  | ok completions =>
      refine safe_complete hheld₃ hcur hrunning hmade.id fun text htext => ?_
      refine List.mem_append_right _ ?_
      rw [hmade.id, hsampling]
      simp [generated, htext]

/-- **A sample is claimed, and what follows.** Source: `rollout-runtime-batch/src/worker.rs` `run_one`
(from `Try to claim`). Kind: L -/
theorem safe_claimAndProcess {record : SampleRecord} (hheld : g.held i = some qid) (hcur : cur s)
    (hsampling : worker.sampling = s.sampling) (hmade : MadeFor C w.objects record s) :
    (worker.claimAndProcess qid record : BatchM runId RunOutcome).Safe
      ((working C runId ι cur hholds w₀).discipline CoreError) i (Leaves i none) w g := by
  unfold BatchWorker.claimAndProcess
  refine Service.Rules.safe_ask (fun _ _ _ => trivial) fun w₁ g₁ (hrely : Expects i w g w₁ g₁) _ =>
    ⟨trivial, ?_⟩
  intro ch claimNow w₂ hperf _ _
  obtain ⟨-, rfl⟩ := Prod.mk.inj (Option.some.inj hperf)
  rw [show (working C runId ι cur hholds w₀).upd g₁ i .nowMs _ = g₁ from
    Trail.next_eq (i := i) rfl rfl]
  refine Service.Rules.safe_ask (fun _ _ _ => trivial) fun w₃ g₃ (hrely₃ : Expects i w₁ g₁ w₃ g₃) _ =>
    ⟨trivial, ?_⟩
  intro ch claimed w₄ hperf _ _
  have hobjects : w₄.objects = w₃.objects := by
    obtain ⟨-, rfl⟩ := Prod.mk.inj (Option.some.inj hperf)
    rfl
  rw [show (working C runId ι cur hholds w₀).upd g₃ i _ claimed = g₃ from
    Trail.next_eq (i := i) rfl rfl]
  have hbefore := hrely.trans hrely₃
  have hheld₃ : g₃.held i = some qid := hbefore.held.trans hheld
  split
  · exact safe_ack hheld₃ (by rintro ⟨⟩)
  · have hmade₄ : MadeFor C w₄.objects (worker.running record claimNow) s :=
      ⟨hmade.holds, hmade.id, hmade.inputIdx, hmade.promptBlob,
        hobjects ▸ hbefore.objects _ _ hmade.stored⟩
    refine Prog.Safe.bind ((safe_process hheld₃ hcur hsampling rfl hmade₄).weaken ?_)
    rintro (e | outcome) w₅ g₅ hleaves
    · trivial
    · exact safe_ack hleaves.1 hleaves.2

/-- **One entry of the queue.** Source: `rollout-runtime-batch/src/worker.rs` `run_one`. Kind: L -/
theorem safe_runOne (hheld : g.held i = none) (hsampling : ∀ s, cur s → worker.sampling = s.sampling) :
    (worker.runOne : BatchM runId RunOutcome).Safe
      ((working C runId ι cur hholds w₀).discipline CoreError) i (Leaves i none) w g := by
  unfold BatchWorker.runOne
  refine Service.Rules.safe_ask (fun _ _ _ => trivial) fun w₁ g₁ (hrely : Expects i w g w₁ g₁) hinv =>
    ⟨hrely.held.trans hheld, ?_⟩
  intro ch entry w₂ hperf _ _
  obtain ⟨rfl, rfl⟩ := Prod.mk.inj (Option.some.inj hperf)
  cases hdeque : w₁.deque with
  | nil =>
      refine Service.Rules.safe_ret fun w₃ g₃ (hrely₃ : Expects i _ _ w₃ g₃) _ => ⟨?_, fun _ => ?_⟩
      · exact hrely₃.held.trans (hrely.held.trans hheld)
      · exact hrely₃.deque rfl
  | cons entry rest =>
      obtain ⟨qid, payload⟩ := entry
      obtain ⟨s, hcur, hpayload⟩ := hinv.inPass.deque _ (hdeque ▸ List.mem_cons_self)
      obtain rfl : payload = _ := hpayload
      refine Prog.Safe.ofExcept_bind (fun _ _ _ => trivial) fun sid hsid => ?_
      rw [parseSampleId_chars] at hsid
      obtain rfl := Except.ok.inj hsid
      refine Service.Rules.safe_ask (fun _ _ _ => trivial) fun w₃ g₃ (hrely₃ : Expects i _ _ w₃ g₃) hinv₃ =>
        ⟨trivial, ?_⟩
      intro ch row w₄ hperf _ _
      obtain ⟨rfl, rfl⟩ := Prod.mk.inj (Option.some.inj hperf)
      rw [show (working C runId ι cur hholds w₀).upd g₃ i _ _ = g₃ from
        Trail.next_eq (i := i) rfl rfl]
      have hheld₃ : g₃.held i = some qid := hrely₃.held.trans (Function.update_self ..)
      dsimp only [Store.perform]
      cases hrow : w₃.rows.get (sampleKey runId (s.id model)) with
      | none => exact safe_ack hheld₃ (by rintro ⟨⟩)
      | some bytes =>
          refine Prog.Safe.ofExcept_bind (fun _ _ _ => trivial) fun record hdec => ?_
          split
          · exact safe_ack hheld₃ (by rintro ⟨⟩)
          · exact safe_claimAndProcess hheld₃ hcur (hsampling s hcur)
              (hinv₃.inPass.madeFor (hholds s hcur) (World.sample_of_decode hrow hdec))

/-- What a worker leaves when it returns. Source: `rollout-runtime-batch/src/worker.rs` `run_loop`.
Kind: D -/
def Returned (i : ι) : Except CoreError (Option Nat) → World → Trail ι → Prop
  | .ok (some _), w, g => g.held i = none ∧ w.deque = []
  | _, _, _ => True

/-- **A worker.** Source: `rollout-runtime-batch/src/worker.rs` `run_loop`. Kind: L -/
theorem safe_runLoop (hsampling : ∀ s, cur s → worker.sampling = s.sampling) (fuel completed : Nat)
    (hheld : g.held i = none) :
    (worker.runLoop fuel completed : BatchM runId (Option Nat)).Safe
      ((working C runId ι cur hholds w₀).discipline CoreError) i (Returned i) w g := by
  induction fuel generalizing completed w g with
  | zero => exact Service.Rules.safe_ret fun _ _ _ _ => trivial
  | succ fuel ih =>
      refine Service.Rules.safe_ask (fun _ _ _ => trivial) fun w₁ g₁ (hrely : Expects i w g w₁ g₁) hinv =>
        ⟨trivial, ?_⟩
      intro ch stop w₂ hperf _ _
      obtain ⟨rfl, rfl⟩ := Prod.mk.inj (Option.some.inj hperf)
      rw [show (working C runId ι cur hholds w₀).upd g₁ i _ _ = g₁ from
        Trail.next_eq (i := i) rfl rfl, if_neg (by rw [hinv.inPass.running]; decide)]
      refine Prog.Safe.bind ((safe_runOne (hrely.held.trans hheld) hsampling).weaken ?_)
      rintro (e | outcome) w₃ g₃ hleaves
      · trivial
      · cases outcome with
        | drained =>
            exact Service.Rules.safe_ret fun w₄ g₄ (hrely₄ : Expects i w₃ g₃ w₄ g₄) _ =>
              ⟨hrely₄.held.trans hleaves.1, hrely₄.deque (hleaves.2 rfl)⟩
        | completed => exact ih _ hleaves.1
        | failed => exact ih _ hleaves.1
        | skipped => exact ih _ hleaves.1

/-! ## Runs of the workers -/

/-- What was generated in a run of the workers. Source: none: infrastructure. Kind: L -/
theorem gens_foldl_extend (tr : List (BatchEvent runId ι)) (g : Trail ι) :
    (tr.foldl ((working C runId ι cur hholds w₀).extend (ε := CoreError)) g).gens =
      g.gens ++ tr.filterMap generation := by
  induction tr generalizing g with
  | nil => exact (List.append_nil _).symm
  | cons e tr ih =>
      have hcons : (e :: tr).filterMap generation =
          (generation e).toList ++ tr.filterMap generation := by
        rw [List.filterMap_cons]
        cases generation e <;> rfl
      have hextend : ((working C runId ι cur hholds w₀).extend (ε := CoreError) g e).gens =
          g.gens ++ (generation e).toList := by
        obtain ⟨i, o, r, w, w'⟩ := e
        cases r with
        | error e => exact (List.append_nil _).symm
        | ok a => rfl
      rw [List.foldl_cons, ih, hextend, hcons, List.append_assoc]

/-- **What the workers leave when all have returned**: the invariant of the pass, and nothing in the
queue. Source: `rollout-cli/src/infer.rs` `run_pool`. Kind: P -/
theorem works_sound [Nonempty ι] {workers : ι → BatchWorker} {completed : ι → Nat} {fuel : Nat}
    {gens : List Generation} {tr : List (BatchEvent runId ι)} {w' : World}
    (hsampling : ∀ i s, cur s → (workers i).sampling = s.sampling)
    (hrun : Run (machine runId ι) ⟨w, fun i => (workers i).runLoop fuel 0⟩ tr
      ⟨w', fun i => .ret (some (completed i))⟩)
    (hinv : InPass C runId cur w₀ gens w) (hmirrored : w.Mirrored)
    (hbytes : ∀ bytes ∈ tr.filterMap storedBytes, C.digests bytes) (hholds : ∀ s, cur s → C.holds s) :
    InPass C runId cur w₀ (gens ++ tr.filterMap generation) w' ∧ w'.QueueEmpty := by
  have hworked : Worked C runId cur w₀ w (Trail.start ι gens) :=
    ⟨hinv, fun id hget => .inl (hmirrored id hget)⟩
  have hassumed : ∀ e ∈ tr, (working C runId ι cur hholds w₀).assumed (ε := CoreError) e := by
    rintro ⟨i, o, r, u, u'⟩ he
    cases r with
    | error e => trivial
    | ok a =>
        rintro bytes rfl
        exact hbytes _ (List.mem_filterMap.mpr ⟨_, he, rfl⟩)
  have hsafe : ∀ i, ((workers i).runLoop fuel 0 : BatchM runId (Option Nat)).Safe
      ((working C runId ι cur hholds w₀).discipline CoreError) i (Returned i) w
        (Trail.start ι gens) :=
    fun i => safe_runLoop (hsampling i) fuel 0 rfl
  have hreturned := fun i =>
    hrun.sound_ret ((working C runId ι cur hholds w₀).discipline CoreError) Returned hworked hsafe
      hassumed (i := i) rfl
  have hend := (hrun.sound ((working C runId ι cur hholds w₀).discipline CoreError) Returned hworked
    hsafe hassumed).1
  have hgens : (tr.foldl ((working C runId ι cur hholds w₀).extend (ε := CoreError))
      (Trail.start ι gens)).gens = gens ++ tr.filterMap generation := gens_foldl_extend tr _
  refine ⟨hgens ▸ hend.inPass, fun id => ?_⟩
  by_contra hget
  rcases hend.held id hget with ⟨x, hx, -⟩ | ⟨i, hi⟩
  · rw [(hreturned (Classical.arbitrary ι)).2] at hx
    cases hx
  · rw [(hreturned i).1] at hi
    cases hi

end working

end Rollout.Batch
