import Rollout.Batch.Scan

/-!
# Whether what a scan enqueues is run

* `pushed` — the payloads a scan has enqueued, in order; `Enqueues` — what a scan has done, with
  what it enqueued and why.
* `RunsWhenDequeued` — a worker that takes the sample's entry while its row is as the scan left it
  claims the sample and calls the backend.
* `enqueued_runs_iff` — a sample that was enqueued runs exactly when it had not failed: a scan
  enqueues failed samples and a worker passes them over.
-/

set_option linter.unusedSectionVars false

namespace Rollout.Batch

open Rollout.Lib Rollout.Core

section enqueued

variable [Blake3] {runId : RunId}

/-- The row of the sample is failed. Source: `rollout-runtime-batch/src/state.rs` `SampleState`.
Kind: D -/
def World.Failed (w : World) (runId : RunId) (sid : ContentId) : Prop :=
  ∃ record reason failedAtMs,
    w.sample runId sid = some record ∧ record.state = .failed reason failedAtMs

/-- The payloads that have been enqueued. Source: `rollout-cloud-local/src/queue.rs` `enqueue`.
Kind: D -/
def pushed {ι : Type} (payloads : List Bytes) (e : BatchEvent runId ι) : List Bytes :=
  match e with
  | ⟨_, .pushBack _ payload, .ok _, _, _⟩ => payloads ++ [payload]
  | _ => payloads

/-- The world after the row of a record has been replaced. Source: none: infrastructure. Kind: D -/
def World.put (w : World) (runId : RunId) (record : SampleRecord) : World :=
  { w with rows := w.rows.put (sampleKey runId record.id) (encodeRecord record) }

theorem perform_repending {w : World} {record : SampleRecord}
    (h : w.rows.get (sampleKey runId record.id) = some (encodeRecord record)) (ch : Choice) :
    perform ch (.store (.txn (.repending record)) : Op runId) w =
      some (true, w.put runId { record with state := .pending }) := by
  have heff := (atomically_repending runId w.rows record).trans (if_pos h)
  exact congrArg (fun x => some (x.1, { w with rows := x.2 })) heff

theorem perform_claim {w : World} {record : SampleRecord} {worker : WorkerId}
    {nowMs staleAfterMs : BitVec 64} (hstate : claimable record.state nowMs staleAfterMs = true)
    (h : w.rows.get (sampleKey runId record.id) = some (encodeRecord record)) (ch : Choice) :
    perform ch (.store (.txn (.claim record worker nowMs staleAfterMs)) : Op runId) w =
      some (true, w.put runId { record with state := .running worker nowMs }) := by
  have heff := (atomically_claim runId w.rows record worker nowMs staleAfterMs).trans
    ((if_pos hstate).trans (if_pos h))
  exact congrArg (fun x => some (x.1, { w with rows := x.2 })) heff

theorem perform_complete {w : World} {record : SampleRecord} {blob : ContentId}
    {finishedAtMs : BitVec 64}
    (h : w.rows.get (sampleKey runId record.id) = some (encodeRecord record)) (ch : Choice) :
    perform ch (.store (.txn (.complete record blob finishedAtMs)) : Op runId) w =
      some (true, w.put runId { record with state := .done blob finishedAtMs }) := by
  have heff := (atomically_complete runId w.rows record blob finishedAtMs).trans (if_pos h)
  exact congrArg (fun x => some (x.1, { w with rows := x.2 })) heff

/-! ## The scan -/

section scan

variable {ι : Type} {i : ι} {coord : BatchCoordinator} {nowMs : BitVec 64} {items : List InputItem}
  {item : InputItem} {w₀ w : World} {payloads : List Bytes} {enqueued : Nat}

/-- **What a scan has enqueued** once it is through with `items`.
Source: `rollout-runtime-batch/src/coordinator.rs` `scan_and_enqueue`. Kind: D -/
structure Enqueues (runId : RunId) (coord : BatchCoordinator) (nowMs : BitVec 64)
    (items : List InputItem) (w₀ w : World) (payloads : List Bytes) (enqueued : Nat) : Prop where
  scanned : Scanned runId coord nowMs items w₀ w
  count : payloads.length = enqueued
  cause : ∀ payload ∈ payloads, ∃ item ∈ items, payload = (coord.sid item).chars ∧
    (Due nowMs coord.staleAfterMs (w₀.sample runId (coord.sid item)) = true ∨
      w₀.Failed runId (coord.sid item))

theorem scanned_nil (hrowed : w₀.Rowed runId) : Scanned runId coord nowMs [] w₀ w₀ :=
  ⟨hrowed, by simp, fun _ _ => rfl, rfl⟩

/-- An input that is not enqueued. Source: `rollout-runtime-batch/src/coordinator.rs`
`scan_and_enqueue`. Kind: L -/
theorem Enqueues.pass (h : Enqueues runId coord nowMs items w₀ w payloads enqueued)
    (hnot : Due nowMs coord.staleAfterMs (w₀.sample runId (coord.sid item)) ≠ true) :
    Enqueues runId coord nowMs (items ++ [item]) w₀ w payloads enqueued := by
  refine ⟨h.scanned.next h.scanned.rowed rfl (fun _ hx => hx) (fun _ _ => rfl)
    (fun hdue => absurd hdue hnot) (fun _ => rfl), h.count, fun payload hpayload => ?_⟩
  obtain ⟨other, hother, hcause⟩ := h.cause payload hpayload
  exact ⟨other, List.mem_append_left _ hother, hcause⟩

theorem sample_enqueued (w : World) (id : Ulid) (payload : Bytes) (sid : ContentId) :
    (w.enqueued id payload).sample runId sid = w.sample runId sid :=
  World.sample_congr (KV.get_put_of_ne _ _ _ _ (sampleKey_ne_keyFor runId sid id))

/-- An input that is enqueued, after its row has become that of `w'`.
Source: `rollout-runtime-batch/src/coordinator.rs` `scan_and_enqueue`. Kind: L -/
theorem Enqueues.enqueue (h : Enqueues runId coord nowMs items w₀ w payloads enqueued)
    {w' : World} (hrowed : w'.Rowed runId) (hstop : w'.stopPull = w.stopPull)
    (hdeque : w'.deque = w.deque)
    (hother : ∀ sid, sid ≠ coord.sid item → w'.sample runId sid = w.sample runId sid)
    (hdue : Due nowMs coord.staleAfterMs (w₀.sample runId (coord.sid item)) = true →
      w'.Pending runId (coord.sid item))
    (hnot : Due nowMs coord.staleAfterMs (w₀.sample runId (coord.sid item)) ≠ true →
      w'.sample runId (coord.sid item) = w.sample runId (coord.sid item) ∧
        w₀.Failed runId (coord.sid item)) (id : Ulid) :
    Enqueues runId coord nowMs (items ++ [item]) w₀ (w'.enqueued id (coord.sid item).chars)
      (payloads ++ [(coord.sid item).chars]) (enqueued + 1) := by
  refine ⟨h.scanned.next ?_ hstop ?_ ?_ ?_ ?_, ?_, ?_⟩
  · exact hrowed.congr fun sid => KV.get_put_of_ne _ _ _ _ (sampleKey_ne_keyFor runId sid id)
  · intro x hx
    exact List.mem_append_left _ (hdeque ▸ hx)
  · intro sid hsid
    exact (sample_enqueued w' id _ sid).trans (hother sid hsid)
  · intro hd
    obtain ⟨record, hrecord, hstate⟩ := hdue hd
    refine ⟨⟨record, (sample_enqueued w' id _ _).trans hrecord, hstate⟩, ?_⟩
    exact ⟨(id, (coord.sid item).chars), List.mem_append_right _ List.mem_cons_self, rfl⟩
  · intro hd
    exact (sample_enqueued w' id _ _).trans (hnot hd).1
  · rw [List.length_append, List.length_singleton, h.count]
  · intro payload hpayload
    rcases List.mem_append.mp hpayload with hpayload | hpayload
    · obtain ⟨other, hmem, hcause⟩ := h.cause payload hpayload
      exact ⟨other, List.mem_append_left _ hmem, hcause⟩
    · refine ⟨item, by simp, List.mem_singleton.mp hpayload, ?_⟩
      by_cases hd : Due nowMs coord.staleAfterMs (w₀.sample runId (coord.sid item)) = true
      · exact .inl hd
      · exact .inr (hnot hd).2

/-- **One input.** Source: `rollout-runtime-batch/src/coordinator.rs` `scan_and_enqueue`. Kind: L -/
theorem yields_enqueues (h : Enqueues runId coord nowMs items w₀ w payloads enqueued) :
    (coord.scanItem nowMs item : BatchM runId Bool).Yields (machine runId ι) i pushed
      (fun added w' payloads' => Enqueues runId coord nowMs (items ++ [item]) w₀ w' payloads'
        (if added then enqueued + 1 else enqueued)) w payloads := by
  apply yields_ask
  intro _ existing _ hget
  obtain ⟨rfl, rfl⟩ := Prod.mk.inj (Option.some.inj hget)
  dsimp only [Store.perform]
  rcases hexisting : w.rows.get (sampleKey runId (coord.sid item)) with _ | bytes
  · have hsample := World.sample_of_none hexisting
    have hstart : w₀.sample runId (coord.sid item) = none := by
      rw [h.scanned.start_eq, hsample]
      rintro ⟨record, hrecord, -⟩
      rw [hsample] at hrecord
      cases hrecord
    apply yields_ask
    intro _ _ _ hput
    obtain ⟨rfl, rfl⟩ := Prod.mk.inj (Option.some.inj hput)
    apply yields_ask
    intro _ _ _ hcreate
    obtain ⟨-, rfl⟩ := Prod.mk.inj (Option.some.inj hcreate)
    apply yields_enqueueSample
    intro id _
    apply h.enqueue
    · exact h.scanned.rowed.put rfl
    · rfl
    · rfl
    · intro sid hsid
      rw [World.sample_put (w := w) rfl, if_neg hsid]
    · intro _
      exact ⟨_, (World.sample_put (w := w) rfl).trans (if_pos rfl), rfl⟩
    · intro hnot
      rw [hstart] at hnot
      exact absurd rfl hnot
  · apply Prog.Yields.ofExcept
    intro record hdec
    have hs := World.sample_of_decode hexisting hdec
    have hstart : record.state ≠ .pending →
        w₀.sample runId (coord.sid item) = some record := by
      intro hne
      rw [h.scanned.start_eq, hs]
      rintro ⟨other, hother, hstate⟩
      rw [hs] at hother
      obtain rfl := Option.some.inj hother
      exact hne hstate
    rcases hrec : record with ⟨id, blob, state, created, idx⟩
    subst hrec
    cases state with
    | pending =>
        have hpending : w.Pending runId (coord.sid item) := ⟨_, hs, rfl⟩
        apply yields_enqueueSample
        intro id _
        apply h.enqueue h.scanned.rowed rfl rfl (fun _ _ => rfl) fun _ => hpending
        intro hnot
        exact absurd (h.scanned.due_of_pending hpending) hnot
    | done blob' finishedAtMs =>
        refine h.pass ?_
        rw [hstart (by simp)]
        exact Bool.false_ne_true
    | failed reason failedAtMs =>
        have hfailed := hstart (by simp)
        apply yields_enqueueSample
        intro id _
        apply h.enqueue h.scanned.rowed rfl rfl fun _ _ => rfl
        · intro hdue
          rw [hfailed] at hdue
          exact absurd hdue Bool.false_ne_true
        · intro _
          exact ⟨rfl, _, _, _, hfailed, rfl⟩
    | running worker startedAtMs =>
        have hrunning := hstart (by simp)
        dsimp only
        split
        · next hstale =>
          apply yields_ask
          intro _ applied _ hswap
          have hid : id = coord.sid item := h.scanned.rowed.id_eq hs
          subst hid
          have hrow := h.scanned.rowed.get_iff.mpr hs
          obtain ⟨rfl, rfl⟩ :=
            Prod.mk.inj (Option.some.inj (hswap.symm.trans (perform_repending hrow _)))
          apply yields_enqueueSample
          intro id _
          apply h.enqueue
          · exact h.scanned.rowed.put rfl
          · rfl
          · rfl
          · intro sid hsid
            rw [World.sample_put (w := w) rfl, if_neg hsid]
          · intro _
            exact ⟨_, (World.sample_put (w := w) rfl).trans (if_pos rfl), rfl⟩
          · intro hnot
            rw [hrunning] at hnot
            exact absurd hstale hnot
        · next hfresh =>
          refine h.pass ?_
          rw [hrunning]
          exact hfresh

theorem yields_enqueues_items {rest : List InputItem}
    (h : Enqueues runId coord nowMs items w₀ w payloads enqueued) :
    (coord.scanItems nowMs enqueued rest : BatchM runId Nat).Yields (machine runId ι) i pushed
      (fun n w' payloads' => Enqueues runId coord nowMs (items ++ rest) w₀ w' payloads' n) w
      payloads := by
  induction rest generalizing items enqueued w payloads with
  | nil =>
      rw [List.append_nil]
      exact h
  | cons item rest ih =>
      apply Prog.Yields.bind
      refine (yields_enqueues h).weaken fun added w' payloads' hnext => ?_
      rw [List.append_cons]
      exact ih hnext

/-- **The scan of a run**, alone. Source: `rollout-runtime-batch/src/coordinator.rs`
`scan_and_enqueue`. Kind: P -/
theorem enqueues_of_run (hrowed : w₀.Rowed runId) {inputs : List InputItem}
    {tr : List (BatchEvent runId Unit)}
    {d : Config (iface runId) CoreError World fun _ : Unit => Nat}
    (hrun : Run (machine runId Unit) ⟨w₀, fun _ => coord.scanAndEnqueue inputs⟩ tr d) {n : Nat}
    (hret : d.progs () = .ret n) :
    ∃ nowMs, Enqueues runId coord nowMs inputs w₀ d.shared (tr.foldl pushed []) n := by
  have hyields : (coord.scanAndEnqueue inputs : BatchM runId Nat).Yields (machine runId Unit) ()
      pushed (fun n w payloads => ∃ nowMs,
        Enqueues runId coord nowMs inputs w₀ w payloads n) w₀ [] := by
    refine yields_ask fun _ nowMs _ hnow => ?_
    obtain ⟨-, rfl⟩ := Prod.mk.inj (Option.some.inj hnow)
    have hstart : Enqueues runId coord nowMs [] w₀ w₀ [] 0 := ⟨scanned_nil hrowed, rfl, by simp⟩
    exact (yields_enqueues_items hstart).weaken fun _ _ _ h => ⟨nowMs, h⟩
  exact hrun.yields hyields hret

end scan

/-! ## The worker -/

section worker

variable {worker : BatchWorker} {sid : ContentId} {w w' : World}
  {es : List (BatchEvent runId Unit)}

/-- The worker claimed the sample. Source: `rollout-runtime-batch/src/worker.rs` `run_one`.
Kind: D -/
def Claimed (worker : BatchWorker) (sid : ContentId) (es : List (BatchEvent runId Unit)) : Prop :=
  ∃ record nowMs staleAfterMs w w', record.id = sid ∧
    ⟨(), .store (.txn (.claim record worker.workerId nowMs staleAfterMs)), .ok true, w, w'⟩ ∈ es

/-- The worker called the backend for the sample.
Source: `rollout-runtime-batch/src/worker.rs` `run_one`. Kind: D -/
def Generated (sid : ContentId) (es : List (BatchEvent runId Unit)) : Prop :=
  ∃ prompts sampling answer w w', ⟨(), .generate sid prompts sampling, .ok answer, w, w'⟩ ∈ es

/-- The worker claimed the sample and called the backend for it.
Source: `rollout-runtime-batch/src/worker.rs` `run_one`. Kind: D -/
def Ran (worker : BatchWorker) (sid : ContentId) (es : List (BatchEvent runId Unit)) : Prop :=
  Claimed worker sid es ∧ Generated sid es

theorem Claimed.snoc (h : Claimed worker sid es) (e : BatchEvent runId Unit) :
    Claimed worker sid (es ++ [e]) := by
  obtain ⟨record, now, stale, w, w', hid, hclaim⟩ := h
  exact ⟨record, now, stale, w, w', hid, List.mem_append_left _ hclaim⟩

theorem Ran.snoc (h : Ran worker sid es) (e : BatchEvent runId Unit) :
    Ran worker sid (es ++ [e]) := by
  obtain ⟨hclaimed, prompts, sampling, answer, w, w', hgen⟩ := h
  exact ⟨hclaimed.snoc e, prompts, sampling, answer, w, w', List.mem_append_left _ hgen⟩

/-- What the outcome of a worker is to be. Source: `rollout-runtime-batch/src/worker.rs` `run_one`.
Kind: D -/
def Processed (worker : BatchWorker) (sid : ContentId) (outcome : RunOutcome) (_ : World)
    (es : List (BatchEvent runId Unit)) : Prop :=
  outcome ≠ .skipped ∧ Ran worker sid es

/-- The history of a run is its events. Source: none: infrastructure. Kind: D -/
abbrev snoc (es : List (BatchEvent runId Unit)) (e : BatchEvent runId Unit) :
    List (BatchEvent runId Unit) := es ++ [e]

theorem yields_complete (h : Ran worker sid es) (running : SampleRecord)
    (completions : List Text) :
    (BatchWorker.complete running completions : BatchM runId RunOutcome).Yields
      (machine runId Unit) () snoc (Processed worker sid) w es := by
  apply Prog.Yields.ofExcept
  intro text _
  refine yields_ask fun _ blob w₁ _ => yields_ask fun _ now w₂ _ => yields_ask fun _ applied w₃ _ => ?_
  dsimp only
  split
  · trivial
  · exact ⟨by simp, ((h.snoc _).snoc _).snoc _⟩

theorem yields_recordFailure (h : Ran worker sid es) (running : SampleRecord) (reason : Text) :
    (BatchWorker.recordFailure running reason : BatchM runId RunOutcome).Yields
      (machine runId Unit) () snoc (Processed worker sid) w es := by
  refine yields_ask fun _ now w₁ _ => yields_ask fun _ applied w₂ _ => ?_
  exact ⟨by simp, (h.snoc _).snoc _⟩

/-- A claimed sample is generated, whatever the backend answers.
Source: `rollout-runtime-batch/src/worker.rs` `run_one` (after the claim). Kind: L -/
theorem yields_process (h : Claimed worker sid es) {running : SampleRecord}
    (hid : running.id = sid) :
    (worker.process running : BatchM runId RunOutcome).Yields (machine runId Unit) () snoc
      (Processed worker sid) w es := by
  subst hid
  refine yields_ask fun _ bytes w₁ _ => ?_
  apply Prog.Yields.ofExcept
  intro prompt _
  refine yields_ask fun _ answer w₂ _ => ?_
  have hgen : Generated running.id (snoc (snoc es ⟨(), .getObject running.promptBlob, .ok bytes, w, w₁⟩)
      ⟨(), .generate running.id [prompt] worker.sampling, .ok answer, w₁, w₂⟩) :=
    ⟨_, _, _, _, _, List.mem_append_right _ List.mem_cons_self⟩
  cases answer with
  | ok completions => exact yields_complete ⟨(h.snoc _).snoc _, hgen⟩ running completions
  | error reason => exact yields_recordFailure ⟨(h.snoc _).snoc _, hgen⟩ running reason

/-- **A worker that takes the entry of a pending sample processes it.**
Source: `rollout-runtime-batch/src/worker.rs` `run_one`. Kind: P -/
theorem yields_runOne {record : SampleRecord} (hid : record.id = sid)
    (hstate : record.state = .pending)
    (hrow : w.rows.get (sampleKey runId sid) = some (encodeRecord record)) {qid : Ulid}
    (hhead : w.deque.head? = some (qid, sid.chars)) :
    (worker.runOne : BatchM runId RunOutcome).Yields (machine runId Unit) () snoc
      (Processed worker sid) w [] := by
  subst hid
  refine yields_ask fun _ entry w₁ hpop => ?_
  obtain ⟨rfl, rfl⟩ := Prod.mk.inj (Option.some.inj hpop)
  simp only [hhead]
  apply Prog.Yields.ofExcept
  intro sid hsid
  rw [parseSampleId_chars] at hsid
  obtain rfl := Except.ok.inj hsid
  refine yields_ask fun _ row w₂ hget => ?_
  obtain ⟨rfl, rfl⟩ := Prod.mk.inj (Option.some.inj hget)
  simp only [Store.perform, hrow]
  apply Prog.Yields.ofExcept
  intro record' hdec
  rw [decodeRecord_encodeRecord] at hdec
  obtain rfl := Except.ok.inj hdec
  have hterminal : record.state.isTerminal = false := by rw [hstate]; rfl
  simp only [hterminal, Bool.false_eq_true, if_false]
  refine yields_ask fun _ claimNow w₃ hnow => ?_
  obtain ⟨-, rfl⟩ := Prod.mk.inj (Option.some.inj hnow)
  refine yields_ask fun _ claimed w₄ hclaim => ?_
  have hclaimable : claimable record.state claimNow worker.staleAfterMs = true := by
    rw [hstate]
    rfl
  rw [perform_claim (w := { w with deque := w.deque.tail }) hclaimable hrow] at hclaim
  obtain ⟨rfl, rfl⟩ := Prod.mk.inj (Option.some.inj hclaim)
  simp only [Bool.not_true, Bool.false_eq_true, if_false]
  apply Prog.Yields.bind
  refine (yields_process ?_ rfl).weaken fun outcome w' es h => ?_
  · exact ⟨record, claimNow, worker.staleAfterMs, _, _, rfl,
      List.mem_append_right _ List.mem_cons_self⟩
  · exact yields_ask fun _ _ _ _ => ⟨h.1, h.2.snoc _⟩

/-! ### Without failures -/

/-- The prompt of the sample can be read. Source: `rollout-runtime-batch/src/worker.rs` `run_one`.
Kind: D -/
def World.Readable (w : World) (runId : RunId) (sid : ContentId) : Prop :=
  ∃ record bytes prompt, w.sample runId sid = some record ∧
    w.objects.get record.promptBlob = some bytes ∧ promptText bytes = .ok prompt

/-- The steps of a worker up to the row of the sample.
Source: `rollout-runtime-batch/src/worker.rs` `run_one`. Kind: L -/
theorem alone_runOne {record : SampleRecord} {ch : Choice} {qid : Ulid}
    (hrow : w.rows.get (sampleKey runId sid) = some (encodeRecord record))
    (hhead : w.deque.head? = some (qid, sid.chars)) :
    (service runId Unit).alone ch () worker.runOne w = (service runId Unit).alone ch ()
      (if record.state.isTerminal then (do ack qid; return .skipped)
        else worker.claimAndProcess qid record) { w with deque := w.deque.tail } := by
  have hpop : perform ch (.popFront : Op runId) w =
      some (some (qid, sid.chars), { w with deque := w.deque.tail }) := by
    rw [← hhead]
    rfl
  have hget : perform ch (.store (.get (sampleKey runId sid)) : Op runId)
      { w with deque := w.deque.tail } =
      some (some (encodeRecord record), { w with deque := w.deque.tail }) := by
    rw [← hrow]
    rfl
  refine (Service.alone_of_perform (S := service runId Unit) hpop).trans ?_
  simp only [parseSampleId_chars]
  refine (Service.alone_of_perform (S := service runId Unit) hget).trans ?_
  simp only [decodeRecord_encodeRecord]
  rfl

/-- A failed sample is acknowledged and passed over.
Source: `rollout-runtime-batch/src/worker.rs` `run_one`. Kind: P -/
theorem alone_skips {record : SampleRecord} {ch : Choice} {qid : Ulid}
    (hterminal : record.state.isTerminal = true)
    (hrow : w.rows.get (sampleKey runId sid) = some (encodeRecord record))
    (hhead : w.deque.head? = some (qid, sid.chars)) :
    ∃ w', (service runId Unit).alone ch () worker.runOne w = some (.ok .skipped, w') := by
  rw [alone_runOne hrow hhead, if_pos hterminal]
  exact ⟨_, rfl⟩

theorem finishes_complete {running : SampleRecord} {text : Text} {rest : List Text} {ch : Choice}
    (hrow : w.rows.get (sampleKey runId running.id) = some (encodeRecord running)) :
    (service runId Unit).Finishes ch ()
      (BatchWorker.complete running (rest ++ [text]) : BatchM runId RunOutcome) w := by
  unfold BatchWorker.complete
  rw [List.getLast?_concat]
  refine .ask rfl (.ask rfl (.ask (perform_complete ?_ ch) (.ret _ _)))
  exact hrow

/-- A pending sample whose prompt can be read is processed, whatever the clock shows and the backend
answers. Source: `rollout-runtime-batch/src/worker.rs` `run_one`. Kind: P -/
theorem finishes_runOne {record : SampleRecord} {ch : Choice} {qid : Ulid} (hid : record.id = sid)
    (hstate : record.state = .pending)
    (hrow : w.rows.get (sampleKey runId sid) = some (encodeRecord record))
    (hhead : w.deque.head? = some (qid, sid.chars)) (hread : w.Readable runId sid)
    (hanswer : ch.answer ≠ .ok []) :
    (service runId Unit).Finishes ch () (worker.runOne : BatchM runId RunOutcome) w := by
  subst hid
  obtain ⟨record', bytes, prompt, hsample, hobject, hprompt⟩ := hread
  rw [World.sample_of_get hrow] at hsample
  obtain rfl := Option.some.inj hsample
  have hterminal : record.state.isTerminal ≠ true := by
    rw [hstate]
    exact Bool.false_ne_true
  have hclaimable : claimable record.state ch.time worker.staleAfterMs = true := by
    rw [hstate]
    rfl
  unfold Service.Finishes
  rw [alone_runOne hrow hhead, if_neg hterminal]
  change (service runId Unit).Finishes ch () (worker.claimAndProcess qid record) _
  refine .ask rfl (.ask (perform_claim hclaimable ?_ ch) ?_)
  · exact hrow
  refine .bind (p := worker.process _) ?_ fun _ _ => .ask rfl (.ret _ _)
  have hget : ∀ v : World, v.objects = w.objects →
      perform ch (.getObject record.promptBlob : Op runId) v = some (bytes, v) := by
    intro v hv
    rw [perform, hv, hobject]
    rfl
  refine .ask (hget _ rfl) ?_
  rw [hprompt]
  refine .ask rfl ?_
  cases hch : ch.answer with
  | error reason => exact .ask rfl (.ask rfl (.ret _ _))
  | ok completions =>
      rw [hch] at hanswer
      obtain ⟨rest, text, hlast⟩ := (List.eq_nil_or_concat completions).resolve_left
        fun hnil => hanswer (congrArg _ hnil)
      rw [List.concat_eq_append] at hlast
      subst hlast
      apply finishes_complete
      exact KV.get_put_self ..

/-! ## What is enqueued is run -/

/-- Whichever worker takes the sample's entry, while the row of the sample is that of `w`, claims it
and calls the backend when it returns; and it returns when nothing fails.
Source: `rollout-runtime-batch/src/worker.rs` `run_one`. Kind: D -/
def RunsWhenDequeued (runId : RunId) (w : World) (sid : ContentId) : Prop :=
  ∀ (worker : BatchWorker) (w' : World) (qid : Ulid),
    w'.rows.get (sampleKey runId sid) = w.rows.get (sampleKey runId sid) →
    w'.deque.head? = some (qid, sid.chars) →
    (∀ tr (d : Config (iface runId) CoreError World fun _ : Unit => RunOutcome) outcome,
      Run (machine runId Unit) ⟨w', fun _ => worker.runOne⟩ tr d → d.progs () = .ret outcome →
      outcome ≠ .skipped ∧ Ran worker sid tr) ∧
    ∀ ch : Choice, ch.answer ≠ .ok [] → w'.Readable runId sid →
      (service runId Unit).Finishes ch () (worker.runOne : BatchM runId RunOutcome) w'

theorem runsWhenDequeued_of_pending (hrowed : w.Rowed runId) (h : w.Pending runId sid) :
    RunsWhenDequeued runId w sid := by
  intro worker w' qid hrow hhead
  obtain ⟨record, hrecord, hstate⟩ := h
  have hid := hrowed.id_eq hrecord
  rw [hrowed.get_iff.mpr hrecord] at hrow
  constructor
  · intro tr d outcome hrun hret
    exact hrun.yields_events (i := ()) (Q := Processed worker sid)
      (yields_runOne hid hstate hrow hhead) hret
  · intro ch hanswer hread
    exact finishes_runOne hid hstate hrow hhead hread hanswer

theorem not_runsWhenDequeued_of_failed (hrowed : w.Rowed runId) (h : w.Failed runId sid) :
    ¬ RunsWhenDequeued runId w sid := by
  intro hruns
  obtain ⟨record, reason, failedAtMs, hrecord, hstate⟩ := h
  have hterminal : record.state.isTerminal = true := by rw [hstate]; rfl
  obtain ⟨hskip, -⟩ := hruns ⟨⟨⟨0⟩⟩, .default, 0⟩ { w with deque := [(⟨0⟩, sid.chars)] } ⟨0⟩ rfl rfl
  obtain ⟨w', halone⟩ : ∃ w', (service runId Unit).alone {} ()
      (BatchWorker.runOne ⟨⟨⟨0⟩⟩, .default, 0⟩) { w with deque := [(⟨0⟩, sid.chars)] } =
        some (.ok .skipped, w') :=
    alone_skips hterminal (hrowed.get_iff.mpr hrecord) rfl
  let c : Config (iface runId) CoreError World fun _ : Unit => RunOutcome :=
    ⟨{ w with deque := [(⟨0⟩, sid.chars)] }, fun _ => BatchWorker.runOne ⟨⟨⟨0⟩⟩, .default, 0⟩⟩
  obtain ⟨tr, d, hrun, hret, -⟩ := Service.alone_run (S := service runId Unit) (c := c) halone
  exact (hskip tr d _ hrun hret).1 rfl

end worker

/-- What was enqueued is run unless it had failed.
Source: `rollout-runtime-batch/src/coordinator.rs` `scan_and_enqueue`, `worker.rs` `run_one`.
Kind: L -/
theorem Enqueues.runs_iff {coord : BatchCoordinator} {nowMs : BitVec 64} {inputs : List InputItem}
    {w₀ w : World} {payloads : List Bytes} {n : Nat}
    (h : Enqueues runId coord nowMs inputs w₀ w payloads n) {sid : ContentId}
    (hsid : sid.chars ∈ payloads) : RunsWhenDequeued runId w sid ↔ ¬ w₀.Failed runId sid := by
  obtain ⟨item, hitem, hchars, hcause⟩ := h.cause _ hsid
  obtain rfl := ContentId.chars_inj.mp hchars
  constructor
  · intro hruns hfailed
    obtain ⟨record, reason, failedAtMs, hrecord, hstate⟩ := hfailed
    refine not_runsWhenDequeued_of_failed h.scanned.rowed
      ⟨record, reason, failedAtMs, ?_, hstate⟩ hruns
    rw [h.scanned.kept, hrecord]
    rintro ⟨-, hdue⟩
    rw [hrecord, Due, hstate] at hdue
    exact Bool.false_ne_true hdue
  · intro hfailed
    have hdue := hcause.resolve_right hfailed
    exact runsWhenDequeued_of_pending h.scanned.rowed (h.scanned.due item hitem hdue).1

/-- **An enqueued sample is run exactly when it had not failed.** A scan enqueues what it has to run
and what has failed; a worker takes up the first and passes over the second.
Source: `rollout-runtime-batch/src/coordinator.rs` `scan_and_enqueue`, `worker.rs` `run_one`.
Kind: P -/
theorem enqueued_runs_iff {coord : BatchCoordinator} {inputs : List InputItem} {w₀ : World}
    (hrowed : w₀.Rowed runId) {tr : List (BatchEvent runId Unit)}
    {d : Config (iface runId) CoreError World fun _ : Unit => Nat} {n : Nat}
    (hrun : Run (machine runId Unit) ⟨w₀, fun _ => coord.scanAndEnqueue inputs⟩ tr d)
    (hret : d.progs () = .ret n) :
    n = (tr.foldl pushed []).length ∧ ∀ sid : ContentId, sid.chars ∈ tr.foldl pushed [] →
      (RunsWhenDequeued runId d.shared sid ↔ ¬ w₀.Failed runId sid) := by
  obtain ⟨nowMs, h⟩ := enqueues_of_run hrowed hrun hret
  exact ⟨h.count.symm, fun sid hsid => h.runs_iff hsid⟩

end enqueued

section concrete

local instance : Blake3 := oneBlake3

/-- The storage after the only sample of the job has failed. Source: none: infrastructure.
Kind: D -/
def failedWorld : World :=
  World.fresh.put ⟨⟨7⟩⟩ ⟨oneSid, .ofEmpty, .failed emptyText 0, 0, 0⟩

theorem scan_fresh : ((service ⟨⟨7⟩⟩ Unit).alone {} ()
    ((oneJob.coordinator 0).scanAndEnqueue oneJob.inputs) World.fresh).bind
      (fun x => x.1.toOption) = some 1 := by
  decide +kernel

theorem scan_failed : ((service ⟨⟨7⟩⟩ Unit).alone {} ()
    ((oneJob.coordinator 0).scanAndEnqueue oneJob.inputs) failedWorld).bind
      (fun x => x.1.toOption) = some 1 := by
  decide +kernel

/-- A scan that counts one sample, as a run; the sample is that of the job.
Source: none: infrastructure. Kind: L -/
theorem run_of_scan {w₀ : World} (hrowed : w₀.Rowed ⟨⟨7⟩⟩)
    (hscan : ((service ⟨⟨7⟩⟩ Unit).alone {} ()
      ((oneJob.coordinator 0).scanAndEnqueue oneJob.inputs) w₀).bind
        (fun x => x.1.toOption) = some 1) :
    ∃ tr, ∃ d : Config (iface ⟨⟨7⟩⟩) CoreError World fun _ : Unit => Nat,
      Run (machine ⟨⟨7⟩⟩ Unit)
        ⟨w₀, fun _ => (oneJob.coordinator 0).scanAndEnqueue oneJob.inputs⟩ tr d ∧
      d.progs () = .ret 1 ∧ oneSid.chars ∈ tr.foldl pushed [] := by
  obtain ⟨⟨res, w⟩, halone, hres⟩ := Option.bind_eq_some_iff.mp hscan
  cases res with
  | error e => cases hres
  | ok n =>
      obtain rfl := Option.some.inj hres
      let c : Config (iface ⟨⟨7⟩⟩) CoreError World fun _ : Unit => Nat :=
        ⟨w₀, fun _ => (oneJob.coordinator 0).scanAndEnqueue oneJob.inputs⟩
      obtain ⟨tr, d, hrun, hret, -⟩ := Service.alone_run (S := service ⟨⟨7⟩⟩ Unit) (c := c) halone
      obtain ⟨nowMs, h⟩ := enqueues_of_run hrowed hrun hret
      refine ⟨tr, d, hrun, hret, ?_⟩
      obtain ⟨payload, hpayload⟩ := List.length_eq_one_iff.mp h.count
      have hmem : payload ∈ tr.foldl pushed [] := hpayload ▸ List.mem_cons_self
      obtain ⟨item, hitem, rfl, -⟩ := h.cause payload hmem
      obtain rfl := List.mem_singleton.mp hitem
      exact hmem

theorem rowed_fresh : World.fresh.Rowed ⟨⟨7⟩⟩ := by
  intro sid bytes hget
  cases hget

/-- A sample without a row is enqueued and run. -/
theorem fresh_enqueued_runs :
    ∃ tr, ∃ d : Config (iface ⟨⟨7⟩⟩) CoreError World fun _ : Unit => Nat,
      Run (machine ⟨⟨7⟩⟩ Unit)
        ⟨World.fresh, fun _ => (oneJob.coordinator 0).scanAndEnqueue oneJob.inputs⟩ tr d ∧
      RunsWhenDequeued ⟨⟨7⟩⟩ d.shared oneSid := by
  obtain ⟨tr, d, hrun, hret, hsid⟩ := run_of_scan rowed_fresh scan_fresh
  refine ⟨tr, d, hrun, ((enqueued_runs_iff rowed_fresh hrun hret).2 oneSid hsid).mpr ?_⟩
  rintro ⟨record, reason, failedAtMs, hrecord, -⟩
  cases hrecord

/-- A failed sample is enqueued and passed over. -/
theorem failed_enqueued_skipped :
    ∃ tr, ∃ d : Config (iface ⟨⟨7⟩⟩) CoreError World fun _ : Unit => Nat,
      Run (machine ⟨⟨7⟩⟩ Unit)
        ⟨failedWorld, fun _ => (oneJob.coordinator 0).scanAndEnqueue oneJob.inputs⟩ tr d ∧
      d.progs () = .ret 1 ∧ oneSid.chars ∈ tr.foldl pushed [] ∧
      ¬ RunsWhenDequeued ⟨⟨7⟩⟩ d.shared oneSid := by
  have hrowed : failedWorld.Rowed ⟨⟨7⟩⟩ := rowed_fresh.put rfl
  obtain ⟨tr, d, hrun, hret, hsid⟩ := run_of_scan hrowed scan_failed
  obtain ⟨nowMs, h⟩ := enqueues_of_run hrowed hrun hret
  refine ⟨tr, d, hrun, hret, hsid, fun hruns => (h.runs_iff hsid).mp hruns ?_⟩
  exact ⟨_, _, _, World.sample_of_get (KV.get_put_self ..), rfl⟩

end concrete

end Rollout.Batch
