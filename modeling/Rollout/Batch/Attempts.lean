import Rollout.Batch.Settled

/-!
# Attempts that are cut off

* `Attempt` — one attempt at a job, stopped between any two operations of its scan or of its workers;
  `Attempts` — any number of them over one output directory.
* `Stocked` — the invariant of all attempts: `InPass`, and what is left in the queue is of the job.
* `throughout_startup` — the scan keeps it at every step; `Attempt.sound` — an attempt does.
* `attempts_safe` — what is done after any number of attempts was generated for its prompt and is
  stored, stays, and is generated no more; the attempt that goes through settles every sample.
-/

set_option linter.unusedSectionVars false

namespace Rollout.Batch

open Rollout.Lib Rollout.Core

section attempts

variable [Blake3] {runId : RunId} {ι : Type}

/-! ## The scan, cut off anywhere -/

/-- Every row of the queue is of a sample of the job.
Source: `rollout-runtime-batch/src/coordinator.rs` `scan_and_enqueue`. Kind: D -/
def World.QueueOf (w : World) (model : ContentId) (cur : Sample → Prop) : Prop :=
  ∀ id bytes, w.rows.get (keyFor id) = some bytes → ∃ s, cur s ∧ bytes = (s.id model).chars

/-- **What holds at every step of every attempt.** Source: `rollout-cli/src/infer.rs` `run_pool`.
Kind: D -/
structure Stocked {model : ContentId} (C : Catalog model) (runId : RunId) (cur : Sample → Prop)
    (w₀ : World) (gens : List Generation) (w : World) : Prop where
  inPass : InPass C runId cur w₀ gens w
  queueOf : w.QueueOf model cur

section scan

variable {coord : BatchCoordinator} {C : Catalog coord.modelContentId} {cur : Sample → Prop}
  {w₀ w : World} {gens : List Generation} {i : ι} {nowMs : BitVec 64} {item : InputItem}

theorem World.QueueOf.congr {model : ContentId} {w w' : World} (h : w.QueueOf model cur)
    (hrows : ∀ id, w'.rows.get (keyFor id) = w.rows.get (keyFor id)) : w'.QueueOf model cur := by
  intro id bytes hget
  rw [hrows] at hget
  exact h id bytes hget

/-- The rule for one operation of a scan. Source: none: infrastructure. Kind: L -/
theorem throughout_ask {β : Type} {J : World → Prop} {o : Op runId} {f : o.Out → BatchM runId β}
    {Q : β → World → Prop} (hJ : J w) (h : ∀ ch a w', perform ch o w = some (a, w') →
      J w' ∧ (f a).Throughout (machine runId ι) i J Q w') :
    (ask o >>= f).Throughout (machine runId ι) i J Q w :=
  Service.throughout_ask (S := service runId ι) hJ h

/-- **A sample is enqueued.** Source: `rollout-cloud-local/src/queue.rs` `enqueue`. Kind: L -/
theorem throughout_enqueueSample (h : Stocked C runId cur w₀ gens w)
    (hcur : cur ⟨item, coord.sampling⟩) :
    (BatchCoordinator.enqueueSample (coord.sid item) : BatchM runId Bool).Throughout
      (machine runId ι) i (Stocked C runId cur w₀ gens) (fun _ w' => Stocked C runId cur w₀ gens w')
      w := by
  refine Prog.Throughout.bind (throughout_ask h fun _ id _ hid => ?_)
  obtain ⟨-, rfl⟩ := Prod.mk.inj (Option.some.inj hid)
  refine ⟨h, throughout_ask h fun _ _ _ hput => ?_⟩
  obtain ⟨-, rfl⟩ := Prod.mk.inj (Option.some.inj hput)
  have hrow : Stocked C runId cur w₀ gens
      { w with rows := w.rows.put (keyFor id) (coord.sid item).chars } := by
    refine ⟨h.inPass.queueRow (fun key hkey => KV.get_put_of_ne _ _ _ _ (hkey id)) rfl rfl
      fun x hx => .inl hx, fun other bytes hget => ?_⟩
    rw [KV.get_put] at hget
    split at hget
    · exact ⟨_, hcur, (Option.some.inj hget).symm⟩
    · exact h.queueOf other bytes hget
  refine ⟨hrow, throughout_ask hrow fun _ _ _ hpush => ?_⟩
  obtain ⟨-, rfl⟩ := Prod.mk.inj (Option.some.inj hpush)
  have hpushed : Stocked C runId cur w₀ gens (w.enqueued id (coord.sid item).chars) := by
    refine ⟨hrow.inPass.queueRow (fun _ _ => rfl) rfl rfl fun x hx => ?_, hrow.queueOf⟩
    rcases List.mem_append.mp hx with hx | hx
    · exact .inl hx
    · rw [List.mem_singleton.mp hx]
      exact .inr ⟨_, hcur, rfl⟩
  exact ⟨hpushed, hpushed⟩

/-- **One input.** Source: `rollout-runtime-batch/src/coordinator.rs` `scan_and_enqueue`. Kind: L -/
theorem throughout_scanItem (h : Stocked C runId cur w₀ gens w) (hholds : ∀ s, cur s → C.holds s)
    (hcur : cur ⟨item, coord.sampling⟩) :
    (coord.scanItem nowMs item : BatchM runId Bool).Throughout (machine runId ι) i
      (Stocked C runId cur w₀ gens) (fun _ w' => Stocked C runId cur w₀ gens w') w := by
  refine throughout_ask h fun _ existing _ hget => ?_
  obtain ⟨rfl, rfl⟩ := Prod.mk.inj (Option.some.inj hget)
  refine ⟨h, ?_⟩
  dsimp only [Store.perform]
  rcases hexisting : w.rows.get (sampleKey runId (coord.sid item)) with _ | bytes
  · have hprompt := C.prompts _ (hholds _ hcur)
    refine throughout_ask h fun _ _ _ hput => ?_
    obtain ⟨rfl, rfl⟩ := Prod.mk.inj (Option.some.inj hput)
    have hstored : Stocked C runId cur w₀ gens { w with
        objects := w.objects.putNew (.of item.prompt.utf8) ⟨item.prompt.utf8, item.prompt.fits⟩ } :=
      ⟨h.inPass.storeObject ⟨item.prompt.utf8, item.prompt.fits⟩ hprompt, h.queueOf⟩
    refine ⟨hstored, throughout_ask hstored fun _ _ _ hcreate => ?_⟩
    obtain ⟨-, rfl⟩ := Prod.mk.inj (Option.some.inj hcreate)
    have hcreated : Stocked C runId cur w₀ gens { w with
        objects := w.objects.putNew (.of item.prompt.utf8) ⟨item.prompt.utf8, item.prompt.fits⟩
        rows := w.rows.put (sampleKey runId (coord.sid item)) (encodeRecord
          ⟨coord.sid item, .of item.prompt.utf8, .pending, nowMs, item.inputIdx⟩) } := by
      refine ⟨hstored.inPass.write
        ⟨coord.sid item, .of item.prompt.utf8, .pending, nowMs, item.inputIdx⟩ ?_ rfl rfl rfl rfl ?_
        (by rintro ⟨⟩), hstored.queueOf.congr fun id => get_keyFor_put_sample _ _ _ id⟩
      · exact ⟨⟨⟨item, coord.sampling⟩, hholds _ hcur, rfl, rfl, rfl,
          h.inPass.stores_putNew hprompt⟩, by rintro _ _ ⟨⟩⟩
      · intro r hr
        have hr : w.sample runId (coord.sid item) = some r := hr
        rw [World.sample_of_none hexisting] at hr
        cases hr
    exact ⟨hcreated, throughout_enqueueSample hcreated hcur⟩
  · apply Prog.Throughout.ofExcept
    rintro ⟨id, blob, state, created, idx⟩ -
    cases state with
    | pending => exact throughout_enqueueSample h hcur
    | done => exact h
    | failed => exact throughout_enqueueSample h hcur
    | running worker startedAtMs =>
        dsimp only
        split
        · refine throughout_ask h fun _ applied _ hswap => ?_
          obtain ⟨rfl, rfl⟩ := Prod.mk.inj (Option.some.inj hswap)
          have hrepended : Stocked C runId cur w₀ gens { w with rows := (atomically
              (SampleTxn.body runId (.repending ⟨id, blob, .running worker startedAtMs, created, idx⟩))
                w.rows).2 } := by
            rw [atomically_repending]
            exact ⟨h.inPass.swap _ .pending rfl (by rintro _ _ ⟨⟩) (by rintro ⟨⟩),
              h.queueOf.congr fun id => get_keyFor_swap _ _ _ id⟩
          refine ⟨hrepended, ?_⟩
          split
          · exact throughout_enqueueSample hrepended hcur
          · exact hrepended
        · exact h

theorem throughout_scanItems {items : List InputItem} (hholds : ∀ s, cur s → C.holds s)
    (hcur : ∀ item ∈ items, cur ⟨item, coord.sampling⟩) (enqueued : Nat)
    (h : Stocked C runId cur w₀ gens w) :
    (coord.scanItems nowMs enqueued items : BatchM runId Nat).Throughout (machine runId ι) i
      (Stocked C runId cur w₀ gens) (fun _ w' => Stocked C runId cur w₀ gens w') w := by
  induction items generalizing enqueued w with
  | nil => exact h
  | cons item items ih =>
      apply Prog.Throughout.bind
      refine (throughout_scanItem h hholds (hcur item List.mem_cons_self)).weaken ?_
      exact fun _ _ hnext => ih (fun other hother => hcur other (List.mem_cons_of_mem _ hother)) _ hnext

/-- The entries that are replayed are of the job. Source: `rollout-cloud-local/src/queue.rs` `open`.
Kind: L -/
theorem Stocked.opened {model : ContentId} {C : Catalog model} (h : Stocked C runId cur w₀ gens w) :
    Stocked C runId cur w₀ gens w.opened := by
  refine ⟨h.inPass.queueRow (fun _ _ => rfl) rfl rfl fun x hx => .inr ?_, h.queueOf⟩
  unfold World.opened sortById at hx
  rw [List.mem_mergeSort, List.mem_filterMap] at hx
  obtain ⟨⟨key, bytes⟩, hentry, hreplayed⟩ := hx
  obtain ⟨hget, hpfx⟩ := (KV.mem_scan w.rows).mp hentry
  have hpayload : x.2 = bytes := by
    unfold replayed at hreplayed
    split at hreplayed
    · cases hreplayed
    · obtain ⟨id, -, rfl⟩ := Option.map_eq_some_iff.mp hreplayed
      rfl
  rcases h.inPass.rows _ _ hget with ⟨id, hkey⟩ | ⟨record, hkey, -, -⟩
  · rw [hpayload]
    exact h.queueOf id bytes (hkey ▸ hget)
  · rw [show key = _ from hkey] at hpfx
    cases hpfx

end scan

/-- **The scan keeps the invariant at every step**, whatever was left in the queue.
Source: `rollout-cli/src/infer.rs` `run_pool` (up to the workers). Kind: P -/
theorem throughout_startup {job : Job} {staleAfterMs : BitVec 64} {C : Catalog job.modelContentId}
    {cur : Sample → Prop} {w₀ w : World} {gens : List Generation} {i : ι}
    (hholds : ∀ s, cur s → C.holds s) (hcur : ∀ item ∈ job.inputs, cur ⟨item, job.sampling⟩)
    (h : Stocked C runId cur w₀ gens w) :
    (job.startup staleAfterMs : BatchM runId Nat).Throughout (machine runId ι) i
      (Stocked C runId cur w₀ gens) (fun _ w' => Stocked C runId cur w₀ gens w') w := by
  apply Prog.Throughout.bind
  unfold openQueue
  rw [scanBytes_eq]
  refine throughout_ask h fun _ _ _ hscan => ?_
  obtain ⟨rfl, rfl⟩ := Prod.mk.inj (Option.some.inj hscan)
  rw [← Prog.bind_ret (ask _)]
  refine ⟨h, throughout_ask h fun _ _ w' hopen => ?_⟩
  obtain ⟨-, hw⟩ := Prod.mk.inj (Option.some.inj hopen)
  obtain rfl : w.opened = w' := hw
  have hopened := h.opened
  refine ⟨hopened, throughout_ask hopened fun _ nowMs _ hnow => ?_⟩
  obtain ⟨-, rfl⟩ := Prod.mk.inj (Option.some.inj hnow)
  exact ⟨hopened, @throughout_scanItems _ runId ι (job.coordinator staleAfterMs) C cur w₀ w.opened gens
    i nowMs job.inputs hholds hcur 0 hopened⟩

/-! ## The workers, cut off anywhere -/

section workers

variable [DecidableEq ι] {model : ContentId} {C : Catalog model} {cur : Sample → Prop} {w₀ w : World}
  {gens : List Generation}

/-- A worker writes no row of the queue. Source: `rollout-runtime-batch/src/worker.rs`. Kind: L -/
theorem queueRow_of_knows {e : BatchEvent runId ι} (hdoes : (machine runId ι).Does e) {g : Trail ι}
    (hknows : Knows model cur e.who e.op e.pre g) (id : Ulid) (bytes : Bytes)
    (hget : e.post.rows.get (keyFor id) = some bytes) : e.pre.rows.get (keyFor id) = some bytes := by
  rcases event_cases hdoes with ⟨hsame, -⟩ | ⟨i, t, a, w, w', rfl, hbody⟩
  · rwa [hsame] at hget
  · have hrows : w'.rows = (atomically (SampleTxn.body runId t) w.rows).2 :=
      (congrArg Prod.snd hbody).symm
    have hget : w'.rows.get (keyFor id) = some bytes := hget
    rw [hrows] at hget
    show w.rows.get (keyFor id) = some bytes
    cases t with
    | create record => exact hknows.elim
    | repending running => exact hknows.elim
    | enqueue id payload => exact hknows.elim
    | claim record workerId nowMs staleAfterMs =>
        rw [atomically_claim] at hget
        split at hget
        · rwa [get_keyFor_swap] at hget
        · exact hget
    | complete running blob finishedAtMs => rwa [atomically_complete, get_keyFor_swap] at hget
    | fail running reason failedAtMs => rwa [atomically_fail, get_keyFor_swap] at hget
    | ack qid =>
        rw [atomically_ack, KV.get_del] at hget
        split at hget
        · cases hget
        · exact hget

/-- **The workers keep the invariant at every step.** Source: `rollout-cli/src/infer.rs` `run_pool`.
Kind: P -/
theorem Stocked.works {workers : ι → BatchWorker} {fuel : Nat} {tr : List (BatchEvent runId ι)}
    {d : Config (iface runId) CoreError World fun _ : ι => Option Nat}
    (h : Stocked C runId cur w₀ gens w) (hmirrored : w.Mirrored)
    (hsampling : ∀ i s, cur s → (workers i).sampling = s.sampling)
    (hrun : Run (machine runId ι) ⟨w, fun i => (workers i).runLoop fuel 0⟩ tr d)
    (hbytes : ∀ bytes ∈ tr.filterMap storedBytes, C.digests bytes)
    (hholds : ∀ s, cur s → C.holds s) :
    Stocked C runId cur w₀ (gens ++ tr.filterMap generation) d.shared := by
  have hworked : Worked C runId cur w₀ w (Trail.start ι gens) :=
    ⟨h.inPass, fun id hget => .inl (hmirrored id hget)⟩
  have hassumed : ∀ e ∈ tr, (working C runId ι cur hholds w₀).assumed (ε := CoreError) e := by
    rintro ⟨i, o, r, u, u'⟩ he
    cases r with
    | error e => trivial
    | ok a =>
        rintro bytes rfl
        exact hbytes _ (List.mem_filterMap.mpr ⟨_, he, rfl⟩)
  have hsafe : ∀ i, ((workers i).runLoop fuel 0 : BatchM runId (Option Nat)).Safe
      ((working C runId ι cur hholds w₀).discipline CoreError) i (Returned i) w
        (Trail.start ι gens) :=
    fun i => safe_runLoop (hsampling i) fuel 0 rfl
  have hend := (hrun.sound ((working C runId ι cur hholds w₀).discipline CoreError) Returned hworked
    hsafe hassumed).1
  have hevents := hrun.sound_event ((working C runId ι cur hholds w₀).discipline CoreError) Returned
    hworked hsafe hassumed
  have hgens : (tr.foldl ((working C runId ι cur hholds w₀).extend (ε := CoreError))
      (Trail.start ι gens)).gens = gens ++ tr.filterMap generation := gens_foldl_extend tr _
  have hrows := hrun.le_of_events (R := fun s s' : World => ∀ id bytes,
      s'.rows.get (keyFor id) = some bytes → s.rows.get (keyFor id) = some bytes)
    (fun _ _ _ hget => hget) (fun hst htu id bytes hget => hst id bytes (htu id bytes hget))
    (fun t => isEmptyElim t) fun e he => by
      obtain ⟨hdoes, -, g, -, hknows, -⟩ := hevents e he
      exact queueRow_of_knows hdoes hknows
  exact ⟨hgens ▸ hend.inPass, fun id bytes hget => h.queueOf id bytes (hrows id bytes hget)⟩

end workers

/-! ## Attempts -/

/-- One attempt at a job. Source: `rollout-cli/src/infer.rs` `run_pool`. Kind: D -/
structure Attempt (runId : RunId) where
  /-- When the scan takes a claim for stale. -/
  staleAfterMs : BitVec 64
  /-- The number of workers beyond the first. -/
  others : Nat
  /-- The workers. -/
  ids : Fin (others + 1) → WorkerId
  /-- The output directory at the start. -/
  start : World
  /-- What the scan did. -/
  scanning : List (BatchEvent runId Unit)
  /-- What the workers did. -/
  working : List (BatchEvent runId (Fin (others + 1)))
  /-- The world when the process ended. -/
  finish : World

namespace Attempt

variable (job : Job) (a : Attempt runId)

/-- **The attempt does what its programs say, and ends anywhere**: in the scan, or, when the scan has
returned, while the workers run. Source: `rollout-cli/src/infer.rs` `run_pool`. Kind: D -/
def Stops : Prop :=
  (a.working = [] ∧ ∃ d, d.shared = a.finish ∧
    Run (machine runId Unit) ⟨a.start, fun _ => job.startup a.staleAfterMs⟩ a.scanning d) ∨
  ∃ ready enqueued fuel d, d.shared = a.finish ∧
    Run (machine runId Unit) ⟨a.start, fun _ => job.startup a.staleAfterMs⟩ a.scanning
      ⟨ready, fun _ => .ret enqueued⟩ ∧
    Run (machine runId (Fin (a.others + 1))) ⟨ready, fun i => (job.worker (a.ids i)).runLoop fuel 0⟩
      a.working d

/-- The generations of an attempt. Source: `rollout-runtime-batch/src/worker.rs` `run_one`. Kind: D -/
def generations : List Generation := a.working.filterMap generation

end Attempt

/-- The sample of an input. Source: `rollout-runtime-batch/src/coordinator.rs` `scan_and_enqueue`
(`sid`). Kind: D -/
def Job.sid (job : Job) (item : InputItem) : ContentId :=
  sampleId job.modelContentId item.prompt job.sampling item.inputIdx

/-- The samples of a job. Source: `rollout-cli/src/infer.rs` `run_pool`. Kind: D -/
def Job.Scans (job : Job) (s : Sample) : Prop := s.item ∈ job.inputs ∧ s.sampling = job.sampling

/-- The bytes that are digested for the object store.
Source: `rollout-runtime-batch/src/coordinator.rs`, `worker.rs` (`put_bytes`). Kind: D -/
def Job.digested (job : Job) (as : List (Attempt runId)) : List Bytes :=
  job.inputs.map (fun item => item.prompt.utf8) ++ as.flatMap fun a => a.working.filterMap storedBytes

/-- **Any number of attempts over one output directory**, from an empty one. Between two of them the
process ends. Source: `rollout-cli/src/infer.rs` `run_pool`. Kind: D -/
inductive Attempts (runId : RunId) (job : Job) : List (Attempt runId) → World → Prop
  | nil : Attempts runId job [] .fresh
  | snoc {as : List (Attempt runId)} {w : World} {a : Attempt runId} (h : Attempts runId job as w)
      (hstart : a.start = w.crash) (hstops : a.Stops job) : Attempts runId job (as ++ [a]) a.finish

variable {job : Job} {C : Catalog job.modelContentId} {w : World} {gens : List Generation}
  {as : List (Attempt runId)} {a : Attempt runId}

/-- **One attempt.** Source: `rollout-cli/src/infer.rs` `run_pool`. Kind: P -/
theorem Attempt.sound (hstops : a.Stops job) (h : Stocked C runId job.Scans a.start gens a.start)
    (hholds : ∀ s, job.Scans s → C.holds s)
    (hbytes : ∀ bytes ∈ a.working.filterMap storedBytes, C.digests bytes) :
    Stocked C runId job.Scans a.start (gens ++ a.generations) a.finish := by
  have hkeeps : (job.startup a.staleAfterMs : BatchM runId Nat).Throughout (machine runId Unit) ()
      (Stocked C runId job.Scans a.start gens)
      (fun _ w' => Stocked C runId job.Scans a.start gens w') a.start :=
    throughout_startup hholds (fun item hitem => ⟨hitem, rfl⟩) h
  rcases hstops with ⟨hnil, d, hfinish, hscans⟩ | ⟨ready, enqueued, fuel, d, hfinish, hscans, hworks⟩
  · have hstocked := hscans.throughout hkeeps h
    rw [Attempt.generations, hnil, List.filterMap_nil, List.append_nil, ← hfinish]
    exact hstocked
  · have hready : Stocked C runId job.Scans a.start gens ready := hscans.throughout hkeeps h
    obtain ⟨-, -, -, hmirrored⟩ := startup_scanned h.inPass.rowed hscans rfl
    rw [← hfinish]
    exact hready.works hmirrored (fun _ s hs => hs.2.symm) hworks hbytes hholds

theorem Stocked.crash {cur : Sample → Prop} {w₀ : World} (h : Stocked C runId cur w₀ gens w) :
    Stocked C runId cur w.crash gens w.crash :=
  ⟨h.inPass.crash cur, h.queueOf⟩

/-- **Any number of attempts.** Source: `rollout-cli/src/infer.rs` `run_pool`. Kind: P -/
theorem Attempts.sound (h : Attempts runId job as w) (hholds : ∀ s, job.Scans s → C.holds s)
    (hbytes : ∀ a ∈ as, ∀ bytes ∈ a.working.filterMap storedBytes, C.digests bytes) :
    ∃ w₀, Stocked C runId job.Scans w₀ (as.flatMap Attempt.generations) w := by
  induction h with
  | nil => exact ⟨.fresh, inPass_fresh C _, by rintro id bytes ⟨⟩⟩
  | @snoc as w a _ hstart hstops ih =>
      obtain ⟨w₀, hbefore⟩ := ih fun a ha => hbytes a (List.mem_append_left _ ha)
      have hlast := hbytes a (List.mem_append_right _ List.mem_cons_self)
      rw [List.flatMap_append, List.flatMap_singleton]
      exact ⟨a.start, Attempt.sound hstops (hstart ▸ hbefore.crash) hholds hlast⟩

/-- The last of some attempts. Source: none: infrastructure. Kind: L -/
theorem Attempts.of_snoc (h : Attempts runId job (as ++ [a]) w) :
    ∃ w₀, Attempts runId job as w₀ ∧ a.start = w₀.crash ∧ a.Stops job ∧ w = a.finish := by
  generalize hall : as ++ [a] = all at h
  cases h with
  | nil => exact absurd hall (by simp)
  | snoc h hstart hstops =>
      obtain ⟨rfl, hlast⟩ := List.append_inj' hall rfl
      obtain rfl := (List.cons.inj hlast).1
      exact ⟨_, h, hstart, hstops, rfl⟩

/-- **What is done at the start of an attempt stays, and is not generated again in it.**
Source: `rollout-cli/src/infer.rs` `run_pool`. Kind: P -/
theorem Attempts.done_kept {before after : List (Attempt runId)}
    (h : Attempts runId job (before ++ a :: after) w) (hholds : ∀ s, job.Scans s → C.holds s)
    (hbytes : ∀ x ∈ before ++ a :: after, ∀ bytes ∈ x.working.filterMap storedBytes, C.digests bytes)
    {sid : ContentId} {record : SampleRecord} (hrecord : a.start.sample runId sid = some record)
    (hdone : record.state.isDone = true) :
    w.sample runId sid = some record ∧ a.working.countP (isCall sid) = 0 := by
  induction after using List.reverseRecOn generalizing w with
  | nil =>
      obtain ⟨w₀, hbefore, hstart, hstops, rfl⟩ := h.of_snoc
      obtain ⟨_, hstocked⟩ := hbefore.sound hholds fun x hx => hbytes x (List.mem_append_left _ hx)
      have hbegin : Stocked C runId job.Scans a.start (before.flatMap Attempt.generations) a.start :=
        hstart ▸ hstocked.crash
      refine ⟨(Attempt.sound hstops hbegin hholds (hbytes a (by simp))).inPass.kept sid record hrecord
        hdone, ?_⟩
      rcases hstops with ⟨hnil, -⟩ | ⟨ready, enqueued, fuel, d, -, hscans, hworks⟩
      · rw [hnil]
        rfl
      · exact not_called_of_settled hbegin.inPass.rowed hbegin.inPass.running hscans hworks
          ⟨record, hrecord, SampleState.isTerminal_of_isDone hdone⟩
  | append_singleton after b ih =>
      rw [← List.cons_append, ← List.append_assoc] at h hbytes
      obtain ⟨w₀, hbefore, hstart, hstops, rfl⟩ := h.of_snoc
      have hbytes' := fun x hx => hbytes x (List.mem_append_left [b] hx)
      obtain ⟨hkept, hcalls⟩ := ih hbefore hbytes'
      obtain ⟨_, hstocked⟩ := hbefore.sound hholds hbytes'
      have hend := Attempt.sound hstops (hstart ▸ hstocked.crash) hholds
        (hbytes b (List.mem_append_right _ List.mem_cons_self))
      refine ⟨hend.inPass.kept sid record ?_ hdone, hcalls⟩
      rw [hstart]
      exact hkept

/-- The samples of a job and the bytes its attempts digest. Source: none: infrastructure. Kind: D -/
def Job.catalog (job : Job) (as : List (Attempt runId))
    (hsamples : ∀ item ∈ job.inputs, ∀ other ∈ job.inputs, job.sid item = job.sid other →
      item = other)
    (hdigests : ∀ bytes ∈ job.digested as, ∀ other ∈ job.digested as,
      ContentId.of bytes = ContentId.of other → bytes = other) : Catalog job.modelContentId where
  holds := job.Scans
  digests bytes := bytes ∈ job.digested as
  ids := by
    rintro ⟨item, sampling⟩ ⟨other, sampling'⟩ ⟨hitem, rfl⟩ ⟨hother, rfl⟩ hid
    rw [hsamples item hitem other hother hid]
  digest_inj bytes other hb ho := hdigests bytes hb other ho
  prompts s hs := List.mem_append_left _ (List.mem_map_of_mem hs.1)

/-- **Attempts may be cut off anywhere.** After any number of them, each stopped between any two
operations of its scan or of its workers: what is done is of an input of the job, and its completion
is stored and was generated from that input's prompt; what was done at the start of an attempt is
still done with the same completion and was not generated again; and an attempt that goes through,
when every claim that was left is stale at its scan, leaves every sample done or failed.
Source: `rollout-cli/src/infer.rs` `run_pool`. Kind: P -/
theorem attempts_safe (h : Attempts runId job as w)
    (hsamples : ∀ item ∈ job.inputs, ∀ other ∈ job.inputs, job.sid item = job.sid other →
      item = other)
    (hdigests : ∀ bytes ∈ job.digested as, ∀ other ∈ job.digested as,
      ContentId.of bytes = ContentId.of other → bytes = other) :
    (∀ sid record blob finishedAtMs, w.sample runId sid = some record →
      record.state = .done blob finishedAtMs → ∃ item ∈ job.inputs, sid = job.sid item ∧
        record.inputIdx = item.inputIdx ∧ ∃ text, (⟨sid, item.prompt, job.sampling, text⟩ : Generation) ∈
          as.flatMap Attempt.generations ∧ blob = .of text.utf8 ∧ Stores w.objects text) ∧
    (∀ before a after, as = before ++ a :: after → ∀ sid record,
      a.start.sample runId sid = some record → record.state.isDone = true →
        w.sample runId sid = some record ∧ a.working.countP (isCall sid) = 0) ∧
    ∀ p : Pass runId, p.job job.modelContentId = job → p.start = w.crash →
      p.Completes job.modelContentId → (∀ nowMs, ReadsClock p.scanning nowMs →
        ∀ sid record workerId startedAtMs, w.sample runId sid = some record →
          record.state = .running workerId startedAtMs →
            isStale nowMs startedAtMs p.staleAfterMs = true) →
        ∀ item ∈ job.inputs, p.finish.Settled runId (job.sid item) := by
  have hbytes : ∀ a ∈ as, ∀ bytes ∈ a.working.filterMap storedBytes,
      (job.catalog as hsamples hdigests).digests bytes := fun a ha bytes hb =>
    List.mem_append_right _ (List.mem_flatMap.mpr ⟨a, ha, hb⟩)
  obtain ⟨w₀, hstocked⟩ := h.sound (C := job.catalog as hsamples hdigests) (fun _ hs => hs) hbytes
  refine ⟨fun sid record blob finishedAtMs hrecord hdone => ?_, fun before a after has sid record hr
    hdone => ?_, fun p hjob hstart hcompletes hstale item hitem => ?_⟩
  · have hbacked := hstocked.inPass.backed hrecord
    have hid := hstocked.inPass.rowed.id_eq hrecord
    obtain ⟨s, hmade⟩ := hbacked.made
    obtain ⟨gen, hgen, hsample, hblob, hstored⟩ := hbacked.done blob finishedAtMs hdone
    obtain ⟨s', hs', hsid, hprompt, hsampling⟩ := hstocked.inPass.asked gen hgen
    obtain rfl := (job.catalog as hsamples hdigests).ids s' s hs' hmade.holds
      (hsid.symm.trans (hsample.trans hmade.id))
    obtain ⟨hitem, hparams⟩ := hmade.holds
    have hjobsid : sid = job.sid s'.item := by
      rw [← hid, hmade.id, Sample.id, hparams]
      rfl
    refine ⟨s'.item, hitem, hjobsid, hmade.inputIdx, gen.text, ?_, hblob, hstored⟩
    rw [← hprompt, ← hparams, ← hsampling, ← hid, ← hsample]
    exact hgen
  · subst has
    exact h.done_kept (C := job.catalog _ hsamples hdigests) (fun _ hs => hs) hbytes hr hdone
  · have hinputs : globInputs p.rows = job.inputs := congrArg Job.inputs hjob
    have hsampling : p.sampling = job.sampling := congrArg Job.sampling hjob
    have hsid : p.sid job.modelContentId item = job.sid item := by
      rw [Pass.sid, hsampling]
      rfl
    obtain ⟨-, nowMs, hreads, hsettled⟩ := pass_settles
      (hstart ▸ hstocked.crash.inPass.rowed) (hstart ▸ hstocked.crash.inPass.running) hcompletes
    rw [← hsid]
    refine (hsettled item (hinputs ▸ hitem)).resolve_right ?_
    rintro ⟨record, workerId, startedAtMs, hstate, hfresh, hbefore, -⟩
    rw [hstart] at hbefore
    rw [hstale nowMs hreads _ record workerId startedAtMs hbefore hstate] at hfresh
    cases hfresh

end attempts

/-! ## Two attempts of one worker -/

section play

local instance attemptsBlake3 : Blake3 := twoBlake3

/-- A job of two empty prompts. Source: none: infrastructure. Kind: D -/
def twoJob : Job := ⟨globInputs twoPrompts, .ofEmpty, .default⟩

/-- An attempt at that job, cut off after so many steps of its scan and of its worker.
Source: none: infrastructure. Kind: D -/
def playAttempt (start : World) (scans works : Nat) : Option (Attempt ⟨⟨7⟩⟩) := do
  let scan ← (⟨start, fun _ => twoJob.startup defaultStaleAfterMs⟩ :
    Config (iface ⟨⟨7⟩⟩) CoreError World fun _ : Unit => Nat).play (steps () scans)
  let work ← (⟨scan.2.shared, fun _ => (twoJob.worker ⟨⟨1⟩⟩).runLoop 3 0⟩ :
    Config (iface ⟨⟨7⟩⟩) CoreError World fun _ : Fin 1 => Option Nat).play (steps (Fin.last 0) works)
  let _ ← (scan.2.progs ()).result?.bind Except.toOption
  return ⟨defaultStaleAfterMs, 0, fun _ => ⟨⟨1⟩⟩, start, scan.1, work.1, work.2.shared⟩

/-- It is an attempt that was cut off. Source: `rollout-cli/src/infer.rs` `run_pool`. Kind: L -/
theorem stops_of_playAttempt {start : World} {scans works : Nat} {a : Attempt ⟨⟨7⟩⟩}
    (h : playAttempt start scans works = some a) : a.start = start ∧ a.Stops twoJob := by
  unfold playAttempt at h
  obtain ⟨scan, hscan, h⟩ := Option.bind_eq_some_iff.mp h
  obtain ⟨work, hwork, h⟩ := Option.bind_eq_some_iff.mp h
  obtain ⟨enqueued, henqueued, h⟩ := Option.bind_eq_some_iff.mp h
  cases h
  obtain ⟨res, hres, hok⟩ := Option.bind_eq_some_iff.mp henqueued
  cases res with
  | error e => cases hok
  | ok n =>
      have hscans := Config.play_run hscan
      rw [Config.eq_of_ret (Prog.eq_ret_of_result? hres)] at hscans
      exact ⟨rfl, .inr ⟨scan.2.shared, n, 3, work.2, rfl, hscans, Config.play_run hwork⟩⟩

/-- `attempts_safe` after an attempt that ends with one of two samples done, and a second one.
Source: `rollout-cli/src/infer.rs` `run_pool`. Kind: C -/
theorem second_attempt_keeps : ∃ a b : Attempt ⟨⟨7⟩⟩, Attempts ⟨⟨7⟩⟩ twoJob [a, b] b.finish ∧
    (b.start.doneRecords ⟨⟨7⟩⟩).length = 1 ∧ (b.finish.doneRecords ⟨⟨7⟩⟩).length = 2 ∧
    ∀ sid record, b.start.sample ⟨⟨7⟩⟩ sid = some record → record.state.isDone = true →
      b.finish.sample ⟨⟨7⟩⟩ sid = some record ∧ b.working.countP (isCall sid) = 0 := by
  have hplay : ((playAttempt .fresh 15 13).bind fun a => (playAttempt a.finish.crash 8 14).map fun b =>
      decide ((∀ bytes ∈ twoJob.digested [a, b], bytes = []) ∧ (b.start.doneRecords ⟨⟨7⟩⟩).length = 1 ∧
        (b.finish.doneRecords ⟨⟨7⟩⟩).length = 2)) = some true := by
    decide +kernel
  obtain ⟨a, ha, hplay⟩ := Option.bind_eq_some_iff.mp hplay
  obtain ⟨b, hb, hplay⟩ := Option.map_eq_some_iff.mp hplay
  obtain ⟨hdigested, hone, htwo⟩ := of_decide_eq_true hplay
  obtain ⟨hstart, hstops⟩ := stops_of_playAttempt ha
  obtain ⟨hstart', hstops'⟩ := stops_of_playAttempt hb
  have hfirst : Attempts ⟨⟨7⟩⟩ twoJob ([] ++ [a]) a.finish := .snoc .nil hstart hstops
  have hattempts : Attempts ⟨⟨7⟩⟩ twoJob [a, b] b.finish := hfirst.snoc hstart' hstops'
  refine ⟨a, b, hattempts, hone, htwo, ?_⟩
  exact (attempts_safe hattempts (by decide +kernel) fun bytes hbytes other hother _ =>
    (hdigested bytes hbytes).trans (hdigested other hother).symm).2.1 [a] b [] rfl

end play

end Rollout.Batch
