import Rollout.Batch.Infer
import Rollout.Batch.Scan

/-!
# Where the rows of a batch come from

* `Catalog` — the samples of a history and the bytes it digests, different ones with different ids
  and digests.
* `Backed` — a record was made for a sample of the catalog, its prompt is stored, and when it is
  done, so is the completion that was generated for it.
* `InPass` — the invariant of a pass: every row is backed, and what was done at its start still is.
  `InPass.write`, `InPass.storeObject`, `InPass.queueRow` — what the operations keep of it.
-/

set_option linter.unusedSectionVars false

namespace Rollout.Batch

open Rollout.Lib Rollout.Core

/-! ## Samples -/

/-- An input and the parameters it is scanned with.
Source: `rollout-runtime-batch/src/coordinator.rs` `scan_and_enqueue`. Kind: D -/
structure Sample where
  /-- The input. -/
  item : InputItem
  /-- The sampling parameters. -/
  sampling : SamplingParams

variable [Blake3] {runId : RunId} {model : ContentId}

/-- The id of a sample. Source: `rollout-runtime-batch/src/state.rs` `sample_id`. Kind: D -/
def Sample.id (model : ContentId) (s : Sample) : ContentId :=
  sampleId model s.item.prompt s.sampling s.item.inputIdx

/-- **The samples of a history and the bytes it digests**, different ones with different ids and
digests. Source: none: infrastructure. Kind: D -/
structure Catalog (model : ContentId) where
  /-- The samples. -/
  holds : Sample → Prop
  /-- The bytes that are digested. -/
  digests : Bytes → Prop
  ids : ∀ s s', holds s → holds s' → s.id model = s'.id model → s = s'
  digest_inj : ∀ b b', digests b → digests b' → ContentId.of b = ContentId.of b' → b = b'
  prompts : ∀ s, holds s → digests s.item.prompt.utf8

/-! ## Records -/

/-- The text is stored. Source: `rollout-core/src/traits` `ObjectStore`. Kind: D -/
def Stores (objects : KV ContentId (Sized UInt8)) (text : Text) : Prop :=
  objects.get (.of text.utf8) = some ⟨text.utf8, text.fits⟩

/-- The record was made for a sample of the catalog, whose prompt is stored.
Source: `rollout-runtime-batch/src/coordinator.rs` `scan_and_enqueue` (the `None` branch).
Kind: D -/
structure MadeFor (C : Catalog model) (objects : KV ContentId (Sized UInt8))
    (record : SampleRecord) (s : Sample) : Prop where
  holds : C.holds s
  id : record.id = s.id model
  inputIdx : record.inputIdx = s.item.inputIdx
  promptBlob : record.promptBlob = .of s.item.prompt.utf8
  stored : Stores objects s.item.prompt

/-- The completion in the blob was generated for the sample, and is stored.
Source: `rollout-runtime-batch/src/worker.rs` `run_one`. Kind: D -/
def GeneratedFor (objects : KV ContentId (Sized UInt8)) (gens : List Generation)
    (id blob : ContentId) : Prop :=
  ∃ gen ∈ gens, gen.sample = id ∧ blob = .of gen.text.utf8 ∧ Stores objects gen.text

/-- **Where a record comes from.** Source: `rollout-runtime-batch/src/coordinator.rs`, `worker.rs`.
Kind: D -/
structure Backed (C : Catalog model) (objects : KV ContentId (Sized UInt8))
    (gens : List Generation) (record : SampleRecord) : Prop where
  made : ∃ s, MadeFor C objects record s
  done : ∀ blob finishedAtMs, record.state = .done blob finishedAtMs →
    GeneratedFor objects gens record.id blob

/-- The second store has every object of the first. Source: `rollout-core/src/traits`
`ObjectStore`. Kind: D -/
def ObjectsGrow (objects objects' : KV ContentId (Sized UInt8)) : Prop :=
  ∀ id bytes, objects.get id = some bytes → objects'.get id = some bytes

section records

variable {C : Catalog model} {objects objects' : KV ContentId (Sized UInt8)}
  {gens gens' : List Generation} {record : SampleRecord} {s : Sample}

theorem ObjectsGrow.refl (objects : KV ContentId (Sized UInt8)) : ObjectsGrow objects objects :=
  fun _ _ h => h

theorem ObjectsGrow.trans {objects'' : KV ContentId (Sized UInt8)}
    (h : ObjectsGrow objects objects') (h' : ObjectsGrow objects' objects'') :
    ObjectsGrow objects objects'' :=
  fun id bytes hget => h' id bytes (h id bytes hget)

theorem ObjectsGrow.putNew (objects : KV ContentId (Sized UInt8)) (id : ContentId)
    (bytes : Sized UInt8) : ObjectsGrow objects (objects.putNew id bytes) := by
  intro id' bytes' hget
  rw [KV.get_putNew]
  split
  · next heq => rw [heq] at hget; rw [hget]; rfl
  · exact hget

theorem MadeFor.mono (h : MadeFor C objects record s) (hgrow : ObjectsGrow objects objects') :
    MadeFor C objects' record s :=
  { h with stored := hgrow _ _ h.stored }

theorem GeneratedFor.mono {id blob : ContentId} (h : GeneratedFor objects gens id blob)
    (hgrow : ObjectsGrow objects objects') (hgens : gens ⊆ gens') :
    GeneratedFor objects' gens' id blob := by
  obtain ⟨gen, hmem, hid, hblob, hstored⟩ := h
  exact ⟨gen, hgens hmem, hid, hblob, hgrow _ _ hstored⟩

theorem Backed.mono (h : Backed C objects gens record) (hgrow : ObjectsGrow objects objects')
    (hgens : gens ⊆ gens') : Backed C objects' gens' record :=
  ⟨h.made.imp fun _ hs => hs.mono hgrow,
    fun blob t hdone => (h.done blob t hdone).mono hgrow hgens⟩

/-- The same record in another state. Source: `rollout-runtime-batch/src/state.rs`. Kind: L -/
theorem Backed.moved (h : Backed C objects gens record) {state : SampleState}
    (hdone : ∀ blob t, state = .done blob t → GeneratedFor objects gens record.id blob) :
    Backed C objects gens { record with state } :=
  ⟨h.made.imp fun _ hs => ⟨hs.holds, hs.id, hs.inputIdx, hs.promptBlob, hs.stored⟩, hdone⟩

/-- The prompt of a record, read back. Source: `rollout-runtime-batch/src/worker.rs` `run_one`.
Kind: L -/
theorem MadeFor.promptText (h : MadeFor C objects record s) {bytes : Sized UInt8}
    (hget : objects.get record.promptBlob = some bytes) :
    Batch.promptText bytes = .ok s.item.prompt := by
  rw [h.promptBlob, show objects.get _ = _ from h.stored] at hget
  rw [← Option.some.inj hget]
  unfold Batch.promptText
  rw [Text.ofUtf8_utf8]

end records

/-! ## The invariant of a pass -/

/-- **What holds throughout a pass** that started in `w₀` and whose samples are `cur`.
Source: `rollout-cli/src/infer.rs` `run_pool`. Kind: D -/
structure InPass (C : Catalog model) (runId : RunId) (cur : Sample → Prop) (w₀ : World)
    (gens : List Generation) (w : World) : Prop where
  objects : ∀ id bytes, w.objects.get id = some bytes → id = .of bytes.1 ∧ C.digests bytes.1
  rows : ∀ key bytes, w.rows.get key = some bytes → (∃ id, key = keyFor id) ∨
    ∃ record, key = sampleKey runId record.id ∧ bytes = encodeRecord record ∧
      Backed C w.objects gens record
  asked : ∀ gen ∈ gens, ∃ s, C.holds s ∧ gen.sample = s.id model ∧ gen.prompt = s.item.prompt ∧
    gen.sampling = s.sampling
  deque : ∀ x ∈ w.deque, ∃ s, cur s ∧ x.2 = (s.id model).chars
  running : ∀ id, w.stopPull id = false
  kept : ∀ sid record, w₀.sample runId sid = some record → record.state.isDone = true →
    w.sample runId sid = some record
  new : ∀ sid record, w.sample runId sid = some record → record.state.isDone = true →
    w₀.sample runId sid = some record ∨ ∃ s, cur s ∧ sid = s.id model

namespace InPass

variable {C : Catalog model} {cur : Sample → Prop} {w₀ w w' : World} {gens gens' : List Generation}
  {sid : ContentId} {record : SampleRecord}

/-- The row of a sample. Source: none: infrastructure. Kind: L -/
theorem row (h : InPass C runId cur w₀ gens w) {bytes : Bytes}
    (hget : w.rows.get (sampleKey runId sid) = some bytes) :
    ∃ record, record.id = sid ∧ bytes = encodeRecord record ∧ Backed C w.objects gens record := by
  rcases h.rows _ _ hget with ⟨id, hkey⟩ | ⟨record, hkey, hbytes, hbacked⟩
  · exact absurd hkey (sampleKey_ne_keyFor runId sid id)
  · exact ⟨record, (sampleKey_inj.mp hkey).symm, hbytes, hbacked⟩

theorem rowed (h : InPass C runId cur w₀ gens w) : w.Rowed runId := by
  intro sid bytes hget
  obtain ⟨record, hid, hbytes, -⟩ := h.row hget
  exact ⟨record, hid, hbytes⟩

theorem backed (h : InPass C runId cur w₀ gens w) (hs : w.sample runId sid = some record) :
    Backed C w.objects gens record := by
  obtain ⟨other, -, hbytes, hbacked⟩ := h.row (h.rowed.get_iff.mpr hs)
  rwa [encodeRecord_inj.mp hbytes]

/-- **A row of a sample is written.** Source: `rollout-runtime-batch/src/coordinator.rs`,
`state.rs`. Kind: L -/
theorem write (h : InPass C runId cur w₀ gens w) (record : SampleRecord)
    (hbacked : Backed C w.objects gens record)
    (hrows : w'.rows = w.rows.put (sampleKey runId record.id) (encodeRecord record))
    (hobjects : w'.objects = w.objects) (hdeque : w'.deque = w.deque)
    (hstop : w'.stopPull = w.stopPull)
    (hopen : ∀ r, w.sample runId record.id = some r → r.state.isDone = false)
    (hdone : record.state.isDone = true → ∃ s, cur s ∧ record.id = s.id model) :
    InPass C runId cur w₀ gens w' := by
  refine ⟨by rw [hobjects]; exact h.objects, ?_, h.asked, by rw [hdeque]; exact h.deque,
    by rw [hstop]; exact h.running, ?_, ?_⟩
  · intro key bytes hget
    rw [hrows, KV.get_put] at hget
    rw [hobjects]
    split at hget
    · next hkey => exact .inr ⟨record, hkey, (Option.some.inj hget).symm, hbacked⟩
    · exact h.rows key bytes hget
  · intro sid r hr hrdone
    have hpre := h.kept sid r hr hrdone
    rw [World.sample_put hrows, if_neg ?_]
    · exact hpre
    · intro hsid
      rw [hsid] at hpre
      rw [hopen r hpre] at hrdone
      cases hrdone
  · intro sid r hr hrdone
    rw [World.sample_put hrows] at hr
    split at hr
    · next hsid =>
      obtain rfl := Option.some.inj hr
      rw [hsid]
      exact .inr (hdone hrdone)
    · exact h.new sid r hr hrdone

/-- A swap of a record that is not done. Source: `rollout-runtime-batch/src/state.rs`. Kind: L -/
theorem swap (h : InPass C runId cur w₀ gens w) (record : SampleRecord) (state : SampleState)
    (hrecord : record.state.isDone = false)
    (hgen : ∀ blob t, state = .done blob t → GeneratedFor w.objects gens record.id blob)
    (hdone : state.isDone = true → ∃ s, cur s ∧ record.id = s.id model) :
    InPass C runId cur w₀ gens { w with rows := (Batch.swap runId w.rows record state).2 } := by
  rcases swap_cases runId w.rows record state with ⟨hrow, hswap⟩ | ⟨-, hswap⟩
  · have hs := World.sample_of_get hrow
    refine h.write { record with state } ((h.backed hs).moved hgen) (by rw [hswap]) rfl rfl rfl ?_
      hdone
    intro r hr
    have heq : some r = some record := hr.symm.trans hs
    rwa [Option.some.inj heq]
  · rw [hswap]
    exact h

/-- **An object is stored.** Source: `rollout-cloud-local/src/object_store.rs` `put_bytes`.
Kind: L -/
theorem storeObject (h : InPass C runId cur w₀ gens w) (bytes : Sized UInt8)
    (hbytes : C.digests bytes.1) :
    InPass C runId cur w₀ gens
      { w with objects := w.objects.putNew (.of bytes.1) bytes } := by
  have hgrow := ObjectsGrow.putNew w.objects (.of bytes.1) bytes
  refine ⟨?_, ?_, h.asked, h.deque, h.running, h.kept, h.new⟩
  · intro id b hget
    rw [KV.get_putNew] at hget
    split at hget
    · next hid =>
      cases hpre : w.objects.get (.of bytes.1) with
      | none =>
          rw [hpre] at hget
          rw [← Option.some.inj hget]
          exact ⟨hid, hbytes⟩
      | some b' =>
          rw [hpre] at hget
          rw [← Option.some.inj hget, hid]
          exact h.objects _ b' hpre
    · exact h.objects id b hget
  · intro key b hget
    rcases h.rows key b hget with hqueue | ⟨r, hkey, hb, hbacked⟩
    · exact .inl hqueue
    · exact .inr ⟨r, hkey, hb, hbacked.mono hgrow (List.Subset.refl _)⟩

/-- What has been stored can be read. Source: `rollout-cloud-local/src/object_store.rs`
`put_bytes`. Kind: L -/
theorem stores_putNew (h : InPass C runId cur w₀ gens w) {text : Text}
    (htext : C.digests text.utf8) :
    Stores (w.objects.putNew (.of text.utf8) ⟨text.utf8, text.fits⟩) text := by
  unfold Stores
  rw [KV.get_putNew, if_pos rfl]
  cases hpre : w.objects.get (.of text.utf8) with
  | none => rfl
  | some b =>
      obtain ⟨hid, hb⟩ := h.objects _ b hpre
      exact congrArg some (Subtype.ext (C.digest_inj _ _ hb htext hid.symm))

/-- **A row of the queue changes, and with it the deque.**
Source: `rollout-cloud-local/src/queue.rs`. Kind: L -/
theorem queueRow (h : InPass C runId cur w₀ gens w)
    (hrows : ∀ key, (∀ id, key ≠ keyFor id) → w'.rows.get key = w.rows.get key)
    (hobjects : w'.objects = w.objects) (hstop : w'.stopPull = w.stopPull)
    (hdeque : ∀ x ∈ w'.deque, x ∈ w.deque ∨ ∃ s, cur s ∧ x.2 = (s.id model).chars) :
    InPass C runId cur w₀ gens w' := by
  have hsample : ∀ sid, w'.sample runId sid = w.sample runId sid := fun sid =>
    World.sample_congr (hrows _ (sampleKey_ne_keyFor runId sid))
  refine ⟨by rw [hobjects]; exact h.objects, ?_, h.asked, ?_, by rw [hstop]; exact h.running, ?_,
    ?_⟩
  · intro key bytes hget
    by_cases hqueue : ∃ id, key = keyFor id
    · exact .inl hqueue
    · rw [hrows key fun id hkey => hqueue ⟨id, hkey⟩] at hget
      rw [hobjects]
      exact h.rows key bytes hget
  · intro x hx
    exact (hdeque x hx).elim (h.deque x) id
  · intro sid r hr hrdone
    rw [hsample]
    exact h.kept sid r hr hrdone
  · intro sid r hr hrdone
    rw [hsample] at hr
    exact h.new sid r hr hrdone

/-- **The backend answers.** Source: `rollout-runtime-batch/src/worker.rs` `run_one`. Kind: L -/
theorem generate (h : InPass C runId cur w₀ gens w) (hgens : gens ⊆ gens')
    (hasked : ∀ gen ∈ gens', gen ∉ gens → ∃ s, C.holds s ∧ gen.sample = s.id model ∧
      gen.prompt = s.item.prompt ∧ gen.sampling = s.sampling) :
    InPass C runId cur w₀ gens' w := by
  refine ⟨h.objects, ?_, ?_, h.deque, h.running, h.kept, h.new⟩
  · intro key b hget
    exact (h.rows key b hget).imp_right fun ⟨r, hkey, hb, hbacked⟩ =>
      ⟨r, hkey, hb, hbacked.mono (ObjectsGrow.refl _) hgens⟩
  · intro gen hmem
    by_cases hold : gen ∈ gens
    · exact h.asked gen hold
    · exact hasked gen hmem hold

end InPass

end Rollout.Batch
