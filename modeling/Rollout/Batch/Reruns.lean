import Mathlib.Data.List.Induction
import Rollout.Batch.DoneAbsorbing
import Rollout.Batch.Working
import Rollout.Lib.StableSort

/-!
# Reruns over one output directory

* `InPass.crash`, `Pass.sound` — the invariant from the end of one pass to the end of the next;
  `History.sound` — at the end of every history.
* `LineOf` — the line of a done record; `Pass.collects_sound` — what the collection makes of what
  the workers left.
* `rerun_faithful_iff` — the output of a pass is faithful exactly when every sample that was done at
  its start is one of the pass.
-/

set_option linter.unusedSectionVars false

namespace Rollout.Batch

open Rollout.Lib Rollout.Core

section reruns

variable [Blake3] {runId : RunId} {model : ContentId}

/-! ## From pass to pass -/

/-- A sample of the pass. Source: `rollout-cli/src/infer.rs` `run_pool`. Kind: D -/
def Pass.Scans (p : Pass runId) (s : Sample) : Prop :=
  s.item ∈ globInputs p.rows ∧ s.sampling = p.sampling

section pass

variable {C : Catalog model} {cur : Sample → Prop} {w₀ w : World} {gens : List Generation}

/-- **The process ends.** Source: `rollout-cli/src/infer.rs` `run_pool`. Kind: L -/
theorem InPass.crash (h : InPass C runId cur w₀ gens w) (cur' : Sample → Prop) :
    InPass C runId cur' w.crash gens w.crash :=
  ⟨h.objects, h.rows, h.asked, by rintro x ⟨⟩, fun _ => rfl, fun _ _ hr _ => hr,
    fun _ _ hr _ => .inl hr⟩

/-- Nothing has been written. Source: none: infrastructure. Kind: L -/
theorem inPass_fresh (C : Catalog model) (cur : Sample → Prop) :
    InPass C runId cur .fresh [] .fresh :=
  ⟨by rintro _ _ ⟨⟩, by rintro _ _ ⟨⟩, by rintro _ ⟨⟩, by rintro _ ⟨⟩, fun _ => rfl,
    fun _ _ hr _ => hr, fun _ _ hr _ => .inl hr⟩

/-- **A pass, from its start to the end of its workers.** Source: `rollout-cli/src/infer.rs`
`run_pool`. Kind: P -/
theorem Pass.sound {p : Pass runId} (hcompletes : p.Completes model)
    (hstart : InPass C runId p.Scans p.start gens p.start) (hempty : p.start.QueueEmpty)
    (hholds : ∀ s, p.Scans s → C.holds s) (hbytes : ∀ bytes ∈ p.digested, C.digests bytes) :
    InPass C runId p.Scans p.start (gens ++ p.generations) p.finish ∧ p.finish.QueueEmpty := by
  obtain ⟨enqueued, hscans⟩ := hcompletes.scans
  obtain ⟨fuel, completed, hworks⟩ := hcompletes.works
  have hready := hscans.yields (i := ()) (g := none) (yields_startup (p.job model) hholds
    (fun item hitem => ⟨hitem, rfl⟩) hstart hempty) rfl
  exact works_sound (fun _ s hs => hs.2.symm) hworks hready.inPass hready.mirrored
    (fun bytes hmem => hbytes bytes (List.mem_append_right _ hmem)) hholds

end pass

/-- **A history.** Source: `rollout-cli/src/infer.rs` `run_pool`. Kind: P -/
theorem History.sound {C : Catalog model} {ps : List (Pass runId)} {w : World}
    (h : History runId model ps w) (hholds : ∀ p ∈ ps, ∀ s, p.Scans s → C.holds s)
    (hbytes : ∀ p ∈ ps, ∀ bytes ∈ p.digested, C.digests bytes) :
    (∃ cur w₀, InPass C runId cur w₀ (ps.flatMap Pass.generations) w) ∧ w.QueueEmpty := by
  induction h with
  | nil => exact ⟨⟨fun _ => False, .fresh, inPass_fresh C _⟩, fun _ => rfl⟩
  | @snoc ps w p _ hstart hcompletes ih =>
      obtain ⟨⟨cur, w₀, hbefore⟩, hempty⟩ := ih (fun q hq => hholds q (List.mem_append_left _ hq))
        (fun q hq => hbytes q (List.mem_append_left _ hq))
      have hp : p ∈ ps ++ [p] := List.mem_append_right _ List.mem_cons_self
      have hpass := Pass.sound hcompletes (hstart ▸ hbefore.crash p.Scans) (hstart ▸ hempty)
        (hholds p hp) (hbytes p hp)
      rw [List.flatMap_append, List.flatMap_singleton]
      exact ⟨⟨_, _, hpass.1⟩, hpass.2⟩

/-- The last pass of a history. Source: none: infrastructure. Kind: L -/
theorem History.of_snoc {ps : List (Pass runId)} {p : Pass runId} {w : World}
    (h : History runId model (ps ++ [p]) w) :
    ∃ w₀, History runId model ps w₀ ∧ p.start = w₀.crash ∧ p.Completes model ∧ w = p.finish := by
  generalize hall : ps ++ [p] = all at h
  cases h with
  | nil => exact absurd hall (by simp)
  | snoc h hstart hcompletes =>
      obtain ⟨rfl, hlast⟩ := List.append_inj' hall rfl
      obtain rfl := (List.cons.inj hlast).1
      exact ⟨_, h, hstart, hcompletes, rfl⟩

/-- A history up to one of its passes. Source: none: infrastructure. Kind: L -/
theorem History.upTo {before after : List (Pass runId)} {p : Pass runId} {w : World}
    (h : History runId model (before ++ p :: after) w) :
    History runId model (before ++ [p]) p.finish := by
  induction after using List.reverseRecOn generalizing w with
  | nil =>
      obtain ⟨_, hbefore, hstart, hcompletes, -⟩ := h.of_snoc
      exact hbefore.snoc hstart hcompletes
  | append_singleton after q ih =>
      rw [← List.cons_append, ← List.append_assoc] at h
      obtain ⟨_, hbefore, -⟩ := h.of_snoc
      exact ih hbefore

/-! ## The collection -/

section collect

variable {C : Catalog model} {cur : Sample → Prop} {w₀ w : World} {gens : List Generation}
  {record : SampleRecord} {p : Pass runId}

/-- A row that is scanned. Source: `rollout-runtime-batch/src/coordinator.rs`
`collect_done_records`. Kind: L -/
theorem InPass.scanned (h : InPass C runId cur w₀ gens w) {entry : StorageKey × Bytes}
    (hentry : entry ∈ w.rows.scan fun key => keyHasPrefix key ⟨"infer", some runId, ["samples"]⟩) :
    ∃ record, entry = (sampleKey runId record.id, encodeRecord record) ∧
      w.sample runId record.id = some record := by
  obtain ⟨hget, hpfx⟩ := (KV.mem_scan w.rows).mp hentry
  rcases h.rows _ _ hget with ⟨id, hkey⟩ | ⟨record, hkey, hbytes, -⟩
  · rw [hkey] at hpfx
    cases hpfx
  · refine ⟨record, Prod.ext hkey hbytes, World.sample_of_get ?_⟩
    rw [← hkey, hget, hbytes]

/-- **The done records.** Source: `rollout-runtime-batch/src/coordinator.rs` `collect_done_records`.
Kind: L -/
theorem InPass.mem_doneRecords (h : InPass C runId cur w₀ gens w) :
    record ∈ w.doneRecords runId ↔
      w.sample runId record.id = some record ∧ record.state.isDone = true := by
  unfold World.doneRecords
  rw [List.mem_filter, List.mem_filterMap]
  refine and_congr_left fun _ => ⟨?_, fun hs => ?_⟩
  · rintro ⟨entry, hentry, hdecode⟩
    obtain ⟨other, rfl, hother⟩ := h.scanned hentry
    rw [decodeRecord_encodeRecord] at hdecode
    obtain rfl := Option.some.inj hdecode
    exact hother
  · refine ⟨(sampleKey runId record.id, encodeRecord record), (KV.mem_scan w.rows).mpr ⟨?_, ?_⟩, ?_⟩
    · exact h.rowed.get_iff.mpr hs
    · simp [keyHasPrefix, sampleKey]
    · exact congrArg Except.toOption (decodeRecord_encodeRecord record)

/-- They are of different samples. Source: `rollout-runtime-batch/src/coordinator.rs`
`collect_done_records`. Kind: L -/
theorem InPass.pairwise_doneRecords (h : InPass C runId cur w₀ gens w) :
    (w.doneRecords runId).Pairwise fun a b => a.id ≠ b.id := by
  unfold World.doneRecords
  refine List.Pairwise.filter _ (List.pairwise_filterMap.mpr ?_)
  have hnodup := List.pairwise_map.mp (KV.nodup_scan w.rows fun key =>
    keyHasPrefix key ⟨"infer", some runId, ["samples"]⟩)
  refine hnodup.imp_of_mem fun {a b} ha hb hne r hr r' hr' hid => hne ?_
  obtain ⟨s, rfl, -⟩ := h.scanned ha
  obtain ⟨s', rfl, -⟩ := h.scanned hb
  rw [decodeRecord_encodeRecord] at hr hr'
  obtain rfl := Option.some.inj hr
  obtain rfl := Option.some.inj hr'
  exact congrArg (sampleKey runId) hid

theorem mapM_filterMap {ε α β : Type} {f : α → Except ε β} {l : List α}
    (h : ∀ a ∈ l, ∃ b, f a = .ok b) : l.mapM f = .ok (l.filterMap fun a => (f a).toOption) := by
  induction l with
  | nil => rfl
  | cons a l ih =>
      obtain ⟨b, hb⟩ := h a List.mem_cons_self
      rw [List.mapM_cons, ih fun x hx => h x (List.mem_cons_of_mem _ hx), List.filterMap_cons, hb]
      rfl

/-- **What is collected.** Source: `rollout-runtime-batch/src/coordinator.rs`
`collect_done_records`. Kind: L -/
theorem InPass.alone_collectDoneRecords (h : InPass C runId cur w₀ gens w) (ch : Choice) :
    (service runId Unit).alone ch () (Job.collectDoneRecords : BatchM runId _) w =
      some (.ok ((w.doneRecords runId).mergeSort fun a b => decide (a.inputIdx ≤ b.inputIdx)), w) := by
  have hdecode : (w.rows.scan fun key => keyHasPrefix key ⟨"infer", some runId, ["samples"]⟩).mapM
      (fun entry => decodeRecord entry.2) = .ok ((w.rows.scan fun key =>
        keyHasPrefix key ⟨"infer", some runId, ["samples"]⟩).filterMap
          fun entry => (decodeRecord entry.2).toOption) := by
    refine mapM_filterMap fun entry hentry => ?_
    obtain ⟨record, rfl, -⟩ := h.scanned hentry
    exact ⟨record, decodeRecord_encodeRecord record⟩
  unfold Job.collectDoneRecords
  rw [scanBytes_eq, Service.alone_ask]
  simp only [perform, Store.perform, Option.bind_some]
  rw [hdecode]
  rfl

/-- **The line of a done record**: it has the prompt that stands at the index of the record, and
the completion that was generated for its sample.
Source: `rollout-cli/src/infer.rs` `run_pool` (the body of its last loop). Kind: D -/
structure LineOf (p : Pass runId) (gens : List Generation) (record : SampleRecord)
    (row : OutputRow) : Prop where
  id : row.id = record.id
  prompt : p.rows.1[record.inputIdx.toNat]? = some row.prompt
  completion : ∃ gen ∈ gens, gen.sample = record.id ∧ gen.text = row.completion

/-- **One done record**: its line, or no input stands at its index.
Source: `rollout-cli/src/infer.rs` `run_pool` (the body of its last loop). Kind: L -/
theorem InPass.outputRow_cases (h : InPass C runId cur w₀ gens w)
    (hs : w.sample runId record.id = some record) (hdone : record.state.isDone = true) {ch : Choice}
    {res : Except CoreError (List OutputRow)} {w' : World}
    (hres : (service runId Unit).alone ch () ((p.job model).outputRow record : BatchM runId _) w =
      some (res, w')) :
    w' = w ∧ ((∃ row, res = .ok [row] ∧ LineOf p gens record row) ∨
      p.rows.1[record.inputIdx.toNat]? = none ∧ ∃ e, res = .error e) := by
  have hinput : (p.job model).inputs[record.inputIdx.toNat]? =
      p.rows.1[record.inputIdx.toNat]?.map fun prompt =>
        ⟨BitVec.ofNat 64 record.inputIdx.toNat, prompt⟩ := getElem?_globInputs _ _
  unfold Job.outputRow at hres
  rw [hinput] at hres
  cases hprompt : p.rows.1[record.inputIdx.toNat]? with
  | none =>
      rw [hprompt] at hres
      cases hres
      exact ⟨rfl, .inr ⟨rfl, _, rfl⟩⟩
  | some prompt =>
      rw [hprompt] at hres
      cases hstate : record.state with
      | done blob finishedAtMs =>
          obtain ⟨gen, hgen, hid, rfl, hstored⟩ := (h.backed hs).done blob finishedAtMs hstate
          rw [hstate] at hres
          have hread : perform ch (.getObject (.of gen.text.utf8) : Op runId) w =
              some (⟨gen.text.utf8, gen.text.fits⟩, w) := by
            rw [perform, show w.objects.get _ = _ from hstored]
            rfl
          have hres : (service runId Unit).alone ch () (ask (.getObject (.of gen.text.utf8)) >>=
              _ : BatchM runId _) w = some (res, w') := hres
          rw [Service.alone_of_perform hread, Text.ofUtf8_utf8] at hres
          cases hres
          exact ⟨rfl, .inl ⟨_, rfl, rfl, hprompt, gen, hgen, hid, rfl⟩⟩
      | pending => simp [hstate, SampleState.isDone] at hdone
      | running worker startedAtMs => simp [hstate, SampleState.isDone] at hdone
      | failed reason failedAtMs => simp [hstate, SampleState.isDone] at hdone

/-- **The done records**: a line for each, or the index of one of them has no input.
Source: `rollout-cli/src/infer.rs` `run_pool` (its last loop). Kind: L -/
theorem InPass.outputRows_cases (h : InPass C runId cur w₀ gens w) {records : List SampleRecord}
    (hrecords : ∀ record ∈ records,
      w.sample runId record.id = some record ∧ record.state.isDone = true) {ch : Choice}
    {res : Except CoreError (List OutputRow)} {w' : World}
    (hres : (service runId Unit).alone ch () ((p.job model).outputRows records : BatchM runId _) w =
      some (res, w')) :
    w' = w ∧ ((∃ rows, res = .ok rows ∧ List.Forall₂ (LineOf p gens) records rows) ∨
      (∃ record ∈ records, p.rows.1[record.inputIdx.toNat]? = none) ∧ ∃ e, res = .error e) := by
  induction records generalizing res w' with
  | nil =>
      cases hres
      exact ⟨rfl, .inl ⟨[], rfl, .nil⟩⟩
  | cons record records ih =>
      rw [Job.outputRows, Service.alone_bind] at hres
      obtain ⟨⟨first, w₁⟩, hfirst, hres⟩ := Option.bind_eq_some_iff.mp hres
      obtain ⟨hs, hdone⟩ := hrecords record List.mem_cons_self
      obtain ⟨rfl, ⟨row, rfl, hline⟩ | ⟨hnone, e, rfl⟩⟩ := h.outputRow_cases hs hdone hfirst
      · dsimp only at hres
        rw [Service.alone_bind] at hres
        obtain ⟨⟨rest, w₂⟩, hrest, hres⟩ := Option.bind_eq_some_iff.mp hres
        obtain ⟨rfl, ⟨rows, rfl, hlines⟩ | ⟨⟨r, hr, hnone⟩, e, rfl⟩⟩ :=
          ih (fun r hr => hrecords r (List.mem_cons_of_mem _ hr)) hrest
        · cases hres
          exact ⟨rfl, .inl ⟨_, rfl, .cons hline hlines⟩⟩
        · cases hres
          exact ⟨rfl, .inr ⟨⟨r, List.mem_cons_of_mem _ hr, hnone⟩, _, rfl⟩⟩
      · cases hres
        exact ⟨rfl, .inr ⟨⟨record, List.mem_cons_self, hnone⟩, _, rfl⟩⟩

/-- **The output of a pass**: a line for each done record, or the index of one of them has no input.
Source: `rollout-cli/src/infer.rs` `run_pool`. Kind: P -/
theorem Pass.output_cases (h : InPass C runId cur w₀ gens p.finish) (hcompletes : p.Completes model) :
    ∃ done : List SampleRecord, done.Perm (p.finish.doneRecords runId) ∧
      ((∃ rows, p.output = .ok rows ∧ List.Forall₂ (LineOf p gens) done rows) ∨
        (∃ record ∈ done, p.rows.1[record.inputIdx.toNat]? = none) ∧ ∃ e, p.output = .error e) := by
  obtain ⟨ch, w', hcollects⟩ := hcompletes.collects
  unfold Job.collect at hcollects
  rw [Service.alone_bind, h.alone_collectDoneRecords] at hcollects
  have hperm := List.mergeSort_perm (p.finish.doneRecords runId) fun a b =>
    decide (a.inputIdx ≤ b.inputIdx)
  exact ⟨_, hperm, (h.outputRows_cases (fun record hrecord =>
    h.mem_doneRecords.mp (hperm.subset hrecord)) hcollects).2⟩

/-! ## When the output is faithful -/

/-- The record is of a sample of the pass. Source: `rollout-cli/src/infer.rs` `run_pool`. Kind: D -/
def Pass.Covers (model : ContentId) (p : Pass runId) (record : SampleRecord) : Prop :=
  ∃ item ∈ globInputs p.rows, p.sid model item = record.id

/-- A record of a sample of the pass. Source: `rollout-runtime-batch/src/coordinator.rs`
`scan_and_enqueue`. Kind: L -/
theorem Pass.Covers.made (h : InPass C runId cur w₀ gens w) (hholds : ∀ s, p.Scans s → C.holds s)
    (hs : w.sample runId record.id = some record) (hcovers : p.Covers model record) :
    ∃ item ∈ globInputs p.rows, MadeFor C w.objects record ⟨item, p.sampling⟩ := by
  obtain ⟨item, hitem, hsid⟩ := hcovers
  refine ⟨item, hitem, h.madeFor (hholds ⟨item, p.sampling⟩ ⟨hitem, rfl⟩) ?_⟩
  rw [← hsid] at hs
  exact hs

/-- Two records of the pass at one index are of one sample.
Source: `rollout-cli/src/infer.rs` `run_pool` (`idx`). Kind: L -/
theorem Pass.Covers.id_eq (h : InPass C runId cur w₀ gens w) (hholds : ∀ s, p.Scans s → C.holds s)
    {a b : SampleRecord} (ha : w.sample runId a.id = some a) (hb : w.sample runId b.id = some b)
    (hcovera : p.Covers model a) (hcoverb : p.Covers model b) (hidx : a.inputIdx = b.inputIdx) :
    a.id = b.id := by
  obtain ⟨item, hitem, hmade⟩ := hcovera.made h hholds ha
  obtain ⟨item', hitem', hmade'⟩ := hcoverb.made h hholds hb
  have hitems : item = item' := by
    have hat := mem_globInputs.mp hitem
    have hat' := mem_globInputs.mp hitem'
    have heq : item.inputIdx = item'.inputIdx := hmade.inputIdx.symm.trans (hidx.trans hmade'.inputIdx)
    rw [heq, hat'] at hat
    obtain ⟨idx, prompt⟩ := item
    obtain ⟨idx', prompt'⟩ := item'
    obtain rfl : idx = idx' := heq
    obtain rfl : prompt' = prompt := Option.some.inj hat
    rfl
  rw [hmade.id, hmade'.id, hitems]

theorem exists_of_forall₂ {α β : Type} {R : α → β → Prop} {as : List α} {bs : List β}
    (h : List.Forall₂ R as bs) {a : α} (ha : a ∈ as) : ∃ b ∈ bs, R a b := by
  induction h with
  | nil => cases ha
  | @cons _ b _ bs hab _ ih =>
      rcases List.mem_cons.mp ha with rfl | ha
      · exact ⟨b, List.mem_cons_self, hab⟩
      · obtain ⟨b', hb', hR⟩ := ih ha
        exact ⟨b', List.mem_cons_of_mem _ hb', hR⟩

theorem pairwise_of_forall₂ {α β : Type} {R : α → β → Prop} {P : α → α → Prop} {Q : β → β → Prop}
    {as : List α} {bs : List β} (h : List.Forall₂ R as bs) (hP : as.Pairwise P)
    (hQ : ∀ a ∈ as, ∀ a' ∈ as, ∀ b b', R a b → R a' b' → P a a' → Q b b') : bs.Pairwise Q := by
  induction h with
  | nil => exact .nil
  | @cons a b as bs hab hrest ih =>
      obtain ⟨hhead, htail⟩ := List.pairwise_cons.mp hP
      refine List.pairwise_cons.mpr ⟨fun b' hb' => ?_, ih htail fun x hx y hy =>
        hQ x (List.mem_cons_of_mem _ hx) y (List.mem_cons_of_mem _ hy)⟩
      obtain ⟨a', ha', hR⟩ := exists_of_forall₂ hrest.flip hb'
      exact hQ a List.mem_cons_self a' (List.mem_cons_of_mem _ ha') b b' hab hR (hhead a' ha')

/-- A faithful output has no line of another sample. Source: `rollout-cli/src/infer.rs` `run_pool`.
Kind: L -/
theorem Pass.covers_of_faithful (h : InPass C runId cur w₀ gens p.finish)
    (hcompletes : p.Completes model) {rows : List OutputRow} (hfaithful : p.Faithful gens rows)
    (hrecord : record ∈ p.finish.doneRecords runId) : p.Covers model record := by
  obtain ⟨done, hperm, ⟨rows', hok, hlines⟩ | ⟨-, e, herror⟩⟩ := Pass.output_cases h hcompletes
  · obtain rfl := Except.ok.inj (hfaithful.output.symm.trans hok)
    obtain ⟨row, hrow, hline⟩ := exists_of_forall₂ hlines (hperm.symm.subset hrecord)
    obtain ⟨s, hs, hid, hprompt, hsampling⟩ := h.asked _ (hfaithful.completion row hrow)
    have hsample := (h.mem_doneRecords.mp hrecord).1
    have hsid : record.id = s.id model := hline.id.symm.trans hid
    rw [hsid] at hsample
    have hmade := h.madeFor hs hsample
    have hat := hline.prompt
    refine ⟨s.item, mem_globInputs.mpr ?_, ?_⟩
    · rw [← hmade.inputIdx, hat]
      exact congrArg some hprompt
    · rw [hsid, Pass.sid, Sample.id]
      exact congrArg (fun sampling => sampleId model s.item.prompt sampling s.item.inputIdx) hsampling
  · rw [hfaithful.output] at herror
    cases herror

/-- The line of a sample of the pass. Source: `rollout-cli/src/infer.rs` `run_pool`. Kind: L -/
theorem LineOf.faithful (h : InPass C runId cur w₀ gens p.finish)
    (hholds : ∀ s, p.Scans s → C.holds s) (hrecord : record ∈ p.finish.doneRecords runId)
    (hcovers : p.Covers model record) {row : OutputRow} (hline : LineOf p gens record row) :
    p.inputOf row = some record.inputIdx.toNat ∧
      ⟨row.id, row.prompt, p.sampling, row.completion⟩ ∈ gens := by
  have hsample := (h.mem_doneRecords.mp hrecord).1
  constructor
  · rw [Pass.inputOf, hline.id, hsample]
    rfl
  · obtain ⟨item, hitem, hmade⟩ := hcovers.made h hholds hsample
    obtain ⟨gen, hgen, hid, htext⟩ := hline.completion
    obtain ⟨s, hs, hsid, hprompt, hsampling⟩ := h.asked gen hgen
    obtain rfl := C.ids s ⟨item, p.sampling⟩ hs (hholds _ ⟨hitem, rfl⟩)
      (hsid.symm.trans (hid.trans hmade.id))
    have hat := hline.prompt
    rw [hmade.inputIdx, mem_globInputs.mp hitem] at hat
    have hgen' : gen = ⟨row.id, row.prompt, p.sampling, row.completion⟩ := by
      obtain ⟨sample, prompt, sampling, text⟩ := gen
      rw [← Option.some.inj hat, hline.id]
      exact congr (congr (congr (congrArg Generation.mk hid) hprompt) hsampling) htext
    exact hgen' ▸ hgen

/-- **The output is faithful when every done record is of a sample of the pass.**
Source: `rollout-cli/src/infer.rs` `run_pool`. Kind: L -/
theorem Pass.faithful_of_covers (h : InPass C runId cur w₀ gens p.finish)
    (hholds : ∀ s, p.Scans s → C.holds s) (hcompletes : p.Completes model)
    (hcovers : ∀ record ∈ p.finish.doneRecords runId, p.Covers model record) :
    ∃ rows, p.Faithful gens rows := by
  obtain ⟨done, hperm, ⟨rows, hok, hlines⟩ | ⟨⟨record, hrecord, hnone⟩, -⟩⟩ :=
    Pass.output_cases h hcompletes
  · have hmem : ∀ record ∈ done, record ∈ p.finish.doneRecords runId := fun _ hr => hperm.subset hr
    have hline : ∀ row ∈ rows, ∃ record ∈ p.finish.doneRecords runId, LineOf p gens record row := by
      intro row hrow
      obtain ⟨record, hrecord, hline⟩ := exists_of_forall₂ hlines.flip hrow
      exact ⟨record, hmem record hrecord, hline⟩
    refine ⟨rows, hok, ?_, ?_, ?_⟩
    · have hids : done.Pairwise fun a b => a.id ≠ b.id :=
        (hperm.pairwise_iff fun hne => hne.symm).mpr h.pairwise_doneRecords
      refine pairwise_of_forall₂ hlines hids fun a ha b hb x y hx hy hne heq => hne ?_
      have ha := hmem a ha
      have hb := hmem b hb
      rw [(hx.faithful h hholds ha (hcovers a ha)).1, (hy.faithful h hholds hb (hcovers b hb)).1] at heq
      exact Pass.Covers.id_eq h hholds (h.mem_doneRecords.mp ha).1 (h.mem_doneRecords.mp hb).1
        (hcovers a ha) (hcovers b hb) (BitVec.eq_of_toNat_eq (Option.some.inj heq))
    · intro row hrow
      obtain ⟨record, hrecord, hline⟩ := hline row hrow
      exact ⟨_, (hline.faithful h hholds hrecord (hcovers record hrecord)).1, hline.prompt⟩
    · intro row hrow
      obtain ⟨record, hrecord, hline⟩ := hline row hrow
      exact (hline.faithful h hholds hrecord (hcovers record hrecord)).2
  · have hrecord := hperm.subset hrecord
    obtain ⟨item, hitem, hmade⟩ := (hcovers record hrecord).made h hholds (h.mem_doneRecords.mp hrecord).1
    rw [hmade.inputIdx, mem_globInputs.mp hitem] at hnone
    cases hnone

/-- **What is done at the end is of the pass when what was done at its start is.**
Source: `rollout-cli/src/infer.rs` `run_pool`. Kind: L -/
theorem Pass.covers_iff_resumes {gens₀ : List Generation} (hstart : InPass C runId cur w₀ gens₀ p.start)
    (h : InPass C runId p.Scans p.start gens p.finish) :
    (∀ record ∈ p.finish.doneRecords runId, p.Covers model record) ↔ p.Resumes model := by
  constructor
  · intro hcovers record hrecord
    obtain ⟨hs, hdone⟩ := hstart.mem_doneRecords.mp hrecord
    exact hcovers record (h.mem_doneRecords.mpr ⟨h.kept _ _ hs hdone, hdone⟩)
  · intro hresumes record hrecord
    obtain ⟨hs, hdone⟩ := h.mem_doneRecords.mp hrecord
    rcases h.new _ _ hs hdone with hold | ⟨s, ⟨hitem, hsampling⟩, hid⟩
    · exact hresumes record (hstart.mem_doneRecords.mpr ⟨hold, hdone⟩)
    · refine ⟨s.item, hitem, ?_⟩
      rw [hid, Pass.sid, Sample.id, hsampling]

end collect

/-! ## Histories -/

/-- The samples of some passes and the bytes they digest. Source: none: infrastructure. Kind: D -/
def catalog {ps : List (Pass runId)} (hsamples : SamplesDiffer model ps) (hdigests : DigestsDiffer ps) :
    Catalog model where
  holds s := ∃ p ∈ ps, p.Scans s
  digests bytes := ∃ p ∈ ps, bytes ∈ p.digested
  ids := by
    rintro ⟨item, sampling⟩ ⟨other, sampling'⟩ ⟨p, hp, hitem, rfl⟩ ⟨q, hq, hother, rfl⟩ hid
    obtain ⟨rfl, hsampling⟩ := hsamples p hp q hq item hitem other hother hid
    exact congrArg (Sample.mk item) hsampling
  digest_inj := by
    rintro b b' ⟨p, hp, hb⟩ ⟨q, hq, hb'⟩ heq
    exact hdigests p hp q hq b hb b' hb' heq
  prompts := by
    rintro ⟨item, sampling⟩ ⟨p, hp, hitem, rfl⟩
    exact ⟨p, hp, List.mem_append_left _ (List.mem_map_of_mem
      (List.mem_of_getElem? (mem_globInputs.mp hitem)))⟩

/-- **When the output of a pass is faithful**: in a history of passes over one output directory, one
of its passes writes a faithful output exactly when every sample that was done at its start is one of
the pass. Source: `rollout-cli/src/infer.rs` `run_pool`. Kind: C -/
theorem rerun_faithful_iff {ps before after : List (Pass runId)} {p : Pass runId} {w : World}
    (h : History runId model ps w) (hps : ps = before ++ p :: after)
    (hsamples : SamplesDiffer model ps) (hdigests : DigestsDiffer ps) :
    (∃ rows, p.Faithful ((before ++ [p]).flatMap Pass.generations) rows) ↔ p.Resumes model := by
  have hmem : ∀ q ∈ before ++ [p], q ∈ ps := by
    intro q hq
    rw [hps]
    rcases List.mem_append.mp hq with hq | hq
    · exact List.mem_append_left _ hq
    · exact List.mem_append_right _ (List.mem_singleton.mp hq ▸ List.mem_cons_self)
  have hp := hmem p (List.mem_append_right _ List.mem_cons_self)
  subst hps
  obtain ⟨w₀, hbefore, hstart, hcompletes, -⟩ := h.upTo.of_snoc
  obtain ⟨⟨cur, w₁, hinv⟩, hempty⟩ := hbefore.sound (C := catalog hsamples hdigests)
    (fun q hq s hs => ⟨q, hmem q (List.mem_append_left _ hq), hs⟩)
    (fun q hq bytes hb => ⟨q, hmem q (List.mem_append_left _ hq), hb⟩)
  have hholds : ∀ s, p.Scans s → (catalog hsamples hdigests).holds s := fun s hs => ⟨p, hp, hs⟩
  have hinPass : InPass (catalog hsamples hdigests) runId p.Scans p.start
      (before.flatMap Pass.generations) p.start := hstart ▸ hinv.crash p.Scans
  have hfinish := (Pass.sound hcompletes hinPass (hstart ▸ hempty) hholds
    fun bytes hb => ⟨p, hp, hb⟩).1
  rw [List.flatMap_append, List.flatMap_singleton, ← Pass.covers_iff_resumes hinPass hfinish]
  exact ⟨fun ⟨_, hfaithful⟩ _ hrecord => Pass.covers_of_faithful hfinish hcompletes hfaithful hrecord,
    Pass.faithful_of_covers hfinish hholds hcompletes⟩

end reruns

/-! ## Two passes of one worker -/

section play

/-- The digest of the second of two samples of the empty prompt. Source: none: infrastructure.
Kind: D -/
def twoSid : ContentId :=
  ⟨[0xf6, 0x21, 0x94, 0x61, 0xbd, 0x7e, 0xf3, 0x90, 0x54, 0x21, 0xb7, 0x4e, 0x25, 0x89, 0xd7, 0xe5,
    0x0d, 0xb9, 0xaf, 0xb0, 0x56, 0x65, 0x93, 0x3f, 0x2e, 0xe3, 0xd7, 0xc9, 0x50, 0x5e, 0x2f, 0x5f],
    rfl⟩

/-- A digest function that is right about the empty input and about the two samples.
Source: none: infrastructure. Kind: D -/
@[reducible] def twoBlake3 : Blake3 where
  hash data :=
    if data = sampleText .ofEmpty emptyText .default 0 then oneSid
    else if data = sampleText .ofEmpty emptyText .default 1 then twoSid
    else .ofEmpty

local instance playBlake3 : Blake3 := twoBlake3

/-- One empty prompt. Source: none: infrastructure. Kind: D -/
def onePrompt : Sized Text := ⟨[emptyText], by decide⟩

/-- Two empty prompts. Source: none: infrastructure. Kind: D -/
def twoPrompts : Sized Text := ⟨[emptyText, emptyText], by decide⟩

/-- The steps of the only process, each with another ULID at hand. Source: none: infrastructure.
Kind: D -/
def steps {ι : Type} (i : ι) (n : Nat) : List (Move (machine ⟨⟨7⟩⟩ ι)) :=
  (List.range n).map fun k => .step i (.ok { answered with ulid := ⟨BitVec.ofNat 128 k⟩ })

/-- The collection, with the records inserted one by one.
Source: `rollout-runtime-batch/src/coordinator.rs` `collect_done_records`. Kind: D -/
def insertDone (job : Job) : BatchM ⟨⟨7⟩⟩ (List OutputRow) := do
  let entries ← Storage.scanBytes ⟨⟨"infer", some ⟨⟨7⟩⟩, ["samples"]⟩, none⟩
  let records ← Prog.ofExcept (entries.mapM fun e => decodeRecord e.2)
  job.outputRows ((records.filter fun r => r.state.isDone).insertionSort
    fun a b => decide (a.inputIdx ≤ b.inputIdx) = true)

theorem insertDone_eq (job : Job) : insertDone job = job.collect := by
  have hsort : ∀ records : List SampleRecord,
      records.mergeSort (fun a b => decide (a.inputIdx ≤ b.inputIdx)) =
        records.insertionSort fun a b => decide (a.inputIdx ≤ b.inputIdx) = true :=
    mergeSort_eq_insertionSort (by simp only [decide_eq_true_eq]; exact fun _ _ _ => BitVec.le_trans)
      (by simp only [Bool.or_eq_true, decide_eq_true_eq]; exact fun _ _ => BitVec.le_total _ _)
  unfold insertDone Job.collect Job.collectDoneRecords
  simp only [hsort, Prog.bind_assoc]
  rfl

/-- A pass with one worker, from `start`: the steps of the scan and of the worker, and what is
collected. Source: none: infrastructure. Kind: D -/
def playPass (rows : Sized Text) (start : World) (scans works : Nat) : Option (Pass ⟨⟨7⟩⟩) := do
  let job : Job := ⟨globInputs rows, .ofEmpty, .default⟩
  let scan ← (⟨start, fun _ => job.startup defaultStaleAfterMs⟩ :
    Config (iface ⟨⟨7⟩⟩) CoreError World fun _ : Unit => Nat).play (steps () scans)
  let work ← (⟨scan.2.shared, fun _ => (job.worker ⟨⟨1⟩⟩).runLoop 3 0⟩ :
    Config (iface ⟨⟨7⟩⟩) CoreError World fun _ : Fin 1 => Option Nat).play (steps (Fin.last 0) works)
  let collected ← (service ⟨⟨7⟩⟩ Unit).alone answered () (insertDone job) work.2.shared
  let _ ← (scan.2.progs ()).result?.bind Except.toOption
  let _ ← (work.2.progs (Fin.last 0)).result?.bind fun res => res.toOption.join
  return ⟨rows, .default, defaultStaleAfterMs, 0, fun _ => ⟨⟨1⟩⟩, start, scan.1, scan.2.shared,
    work.1, work.2.shared, collected.1⟩

/-- It is a pass that went through. Source: `rollout-cli/src/infer.rs` `run_pool`. Kind: L -/
theorem completes_of_playPass {rows : Sized Text} {start : World} {scans works : Nat}
    {p : Pass ⟨⟨7⟩⟩} (h : playPass rows start scans works = some p) :
    p.rows = rows ∧ p.sampling = .default ∧ p.start = start ∧ p.Completes .ofEmpty := by
  unfold playPass at h
  obtain ⟨scan, hscan, h⟩ := Option.bind_eq_some_iff.mp h
  obtain ⟨work, hwork, h⟩ := Option.bind_eq_some_iff.mp h
  obtain ⟨collected, hcollect, h⟩ := Option.bind_eq_some_iff.mp h
  obtain ⟨enqueued, henqueued, h⟩ := Option.bind_eq_some_iff.mp h
  obtain ⟨completed, hcompleted, h⟩ := Option.bind_eq_some_iff.mp h
  cases h
  obtain ⟨res, hres, hok⟩ := Option.bind_eq_some_iff.mp henqueued
  obtain ⟨res', hres', hok'⟩ := Option.bind_eq_some_iff.mp hcompleted
  cases res with
  | error e => cases hok
  | ok n =>
  cases res' with
  | error e => cases hok'
  | ok fuelled =>
  obtain rfl : fuelled = some completed := hok'
  have hscans := Config.play_run hscan
  have hworks := Config.play_run hwork
  rw [Config.eq_of_ret (Prog.eq_ret_of_result? hres)] at hscans
  rw [Config.eq_of_ret (Prog.eq_ret_of_result? hres')] at hworks
  exact ⟨rfl, rfl, rfl, ⟨n, hscans⟩, ⟨3, fun _ => completed, hworks⟩, answered, collected.2,
    insertDone_eq _ ▸ hcollect⟩

/-- Two passes, one after the other. Source: `rollout-cli/src/infer.rs` `run_pool`. Kind: L -/
theorem history_of_play {rows rows' : Sized Text} {scans works scans' works' : Nat}
    {p q : Pass ⟨⟨7⟩⟩} (hp : playPass rows .fresh scans works = some p)
    (hq : playPass rows' p.finish.crash scans' works' = some q) :
    History ⟨⟨7⟩⟩ .ofEmpty [p, q] q.finish := by
  obtain ⟨-, -, hstart, hcompletes⟩ := completes_of_playPass hp
  obtain ⟨-, -, hstart', hcompletes'⟩ := completes_of_playPass hq
  have hfirst : History ⟨⟨7⟩⟩ .ofEmpty ([] ++ [p]) p.finish := .snoc .nil hstart hcompletes
  exact hfirst.snoc hstart' hcompletes'

/-- Passes over the empty prompt, at most twice. Source: none: infrastructure. Kind: L -/
theorem samplesDiffer_of_items {ps : List (Pass ⟨⟨7⟩⟩)} (hsampling : ∀ p ∈ ps, p.sampling = .default)
    (hitems : ∀ p ∈ ps, ∀ item ∈ globInputs p.rows, item ∈ globInputs twoPrompts) :
    SamplesDiffer .ofEmpty ps := by
  have hids : ∀ item ∈ globInputs twoPrompts, ∀ other ∈ globInputs twoPrompts,
      sampleId .ofEmpty item.prompt .default item.inputIdx =
        sampleId .ofEmpty other.prompt .default other.inputIdx → item = other := by
    decide +kernel
  intro p hp q hq item hitem other hother heq
  unfold Pass.sid at heq
  rw [hsampling p hp, hsampling q hq] at heq ⊢
  exact ⟨hids item (hitems p hp item hitem) other (hitems q hq other hother) heq, rfl⟩

/-- Passes that digest the empty text alone. Source: none: infrastructure. Kind: L -/
theorem digestsDiffer_of_empty {ps : List (Pass ⟨⟨7⟩⟩)}
    (hdigested : ∀ p ∈ ps, ∀ bytes ∈ p.digested, bytes = []) : DigestsDiffer ps := by
  intro p hp q hq bytes hb other hother _
  rw [hdigested p hp bytes hb, hdigested q hq other hother]

/-- What a pass over two empty prompts and a second one leave. Source: none: infrastructure.
Kind: L -/
theorem two_passes {rows : Sized Text} (hrows : ∀ item ∈ globInputs rows, item ∈ globInputs twoPrompts)
    (scans works : Nat) (P : Pass ⟨⟨7⟩⟩ → Prop) [DecidablePred P]
    (h : ((playPass twoPrompts .fresh 15 24).bind fun p =>
      (playPass rows p.finish.crash scans works).map fun q =>
        decide ((∀ bytes ∈ p.digested ++ q.digested, bytes = []) ∧ P q)) = some true) :
    ∃ p q : Pass ⟨⟨7⟩⟩, p.rows = twoPrompts ∧ q.rows = rows ∧ q.sampling = p.sampling ∧
      History ⟨⟨7⟩⟩ .ofEmpty [p, q] q.finish ∧ SamplesDiffer .ofEmpty [p, q] ∧
      DigestsDiffer [p, q] ∧ P q := by
  obtain ⟨p, hp, h⟩ := Option.bind_eq_some_iff.mp h
  obtain ⟨q, hq, h⟩ := Option.map_eq_some_iff.mp h
  obtain ⟨hdigested, hP⟩ := of_decide_eq_true h
  obtain ⟨htwo, hdefault, -⟩ := completes_of_playPass hp
  obtain ⟨hrows', hdefault', -⟩ := completes_of_playPass hq
  have both : ∀ {Q : Pass ⟨⟨7⟩⟩ → Prop}, Q p → Q q → ∀ x ∈ [p, q], Q x := fun hp hq =>
    List.forall_mem_cons.mpr ⟨hp, List.forall_mem_singleton.mpr hq⟩
  refine ⟨p, q, htwo, hrows', hdefault'.trans hdefault.symm, history_of_play hp hq, ?_, ?_, hP⟩
  · exact samplesDiffer_of_items (both hdefault hdefault')
      (both (htwo ▸ fun _ hitem => hitem) (hrows' ▸ hrows))
  · exact digestsDiffer_of_empty (both (fun bytes hb => hdigested bytes (List.mem_append_left _ hb))
      fun bytes hb => hdigested bytes (List.mem_append_right _ hb))

/-- `rerun_faithful_iff` at a second pass over the same input.
Source: `rollout-runtime-batch/tests/resume_skips_done.rs`. Kind: C -/
theorem same_rerun_faithful : ∃ p q : Pass ⟨⟨7⟩⟩, p.rows = twoPrompts ∧ q.rows = twoPrompts ∧
    (q.start.doneRecords ⟨⟨7⟩⟩).length = 2 ∧
      ∃ rows, q.Faithful ([p, q].flatMap Pass.generations) rows := by
  obtain ⟨p, q, hp, hq, -, hhistory, hsamples, hdigests, hdone, hresumes⟩ :=
    two_passes (fun _ hitem => hitem) 5 2
      (fun q => (q.start.doneRecords ⟨⟨7⟩⟩).length = 2 ∧ q.Resumes .ofEmpty) (by decide +kernel)
  exact ⟨p, q, hp, hq, hdone,
    (rerun_faithful_iff hhistory (show [p, q] = [p] ++ q :: [] from rfl) hsamples hdigests).mpr
      hresumes⟩

/-- **A second pass over the first of two inputs fails.** Source: `rollout-cli/src/infer.rs`
`run_pool` (`Done record input_idx`). Kind: C -/
theorem shortened_rerun_fails : ∃ p q : Pass ⟨⟨7⟩⟩, p.rows = twoPrompts ∧ q.rows = onePrompt ∧
    q.sampling = p.sampling ∧ History ⟨⟨7⟩⟩ .ofEmpty [p, q] q.finish ∧ SamplesDiffer .ofEmpty [p, q] ∧
    DigestsDiffer [p, q] ∧
    q.output = .error (.internal "Done record input_idx 1 out of bounds (len=1)") ∧
    ¬ ∃ rows, q.Faithful ([p, q].flatMap Pass.generations) rows := by
  obtain ⟨p, q, hp, hq, hsampling, hhistory, hsamples, hdigests, hfails⟩ :=
    two_passes (show ∀ item ∈ globInputs onePrompt, item ∈ globInputs twoPrompts by decide) 4 2
      (fun q => q.output = .error (.internal "Done record input_idx 1 out of bounds (len=1)"))
      (by decide +kernel)
  refine ⟨p, q, hp, hq, hsampling, hhistory, hsamples, hdigests, hfails, ?_⟩
  rintro ⟨rows, hfaithful⟩
  rw [hfaithful.output] at hfails
  cases hfails

end play

end Rollout.Batch
