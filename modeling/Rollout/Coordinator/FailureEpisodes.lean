import Rollout.Coordinator.Heartbeats
import Rollout.Lib.Alone
import Mathlib.Data.List.Induction

/-!
# Heartbeats and failure scans one after the other

* `Act`, `Monitor` — recorded heartbeats and scans, and the state they act on: the rows and the set
  of reported workers, which the scan loop keeps from one scan to the next. `yields_heartbeat` and
  `yields_scanOnce` say that an act is what the call does when it runs alone.
* `Tracked` — what the rows and the set say about the acts so far.
* `one_event_per_worker` — a worker is reported once, by the first scan that finds it overdue, and
  never again: `second_episode_unreported` is a worker that recovers and fails a second time.
-/

set_option linter.unusedSectionVars false

namespace Rollout.Coordinator

open Rollout.Lib Rollout.Core Rollout.Transport

/-! ## Acts -/

/-- A heartbeat that is recorded, or a turn of the scan loop.
Source: `rollout-coordinator/src/heartbeat.rs` `heartbeat`, `failure_scan.rs` `failure_scan_loop`.
Kind: D -/
inductive Act
  | beat (b : Beat)
  | scan (now : SystemTime)
deriving DecidableEq

/-- The rows after a heartbeat; `registered` is the row of a worker that had none.
Source: `rollout-coordinator/src/heartbeat.rs` `heartbeat`. Kind: D -/
def recordBeat (s : Rows) (registered : Bytes) (b : Beat) : Rows :=
  (s.putNew (workerKey b.worker) registered).put b.entry.1 b.entry.2

/-- What the scan loop and the heartbeats act on; `none` after the loop has panicked.
Source: `rollout-coordinator/src/failure_scan.rs` `failure_scan_loop`. Kind: D -/
structure Monitor where
  /-- The rows of the storage. -/
  rows : Rows
  /-- The workers the loop does not report again. -/
  alreadyFailed : Option (List String)

namespace Monitor

/-- Nothing has happened yet. Source: `rollout-coordinator/src/failure_scan.rs`
`failure_scan_loop`. Kind: D -/
def start : Monitor := ⟨∅, some []⟩

variable (skew coordTimeout : Duration)

/-- A scan of the rows. Source: `rollout-coordinator/src/failure_scan.rs` `scan_once`. Kind: D -/
def scanAt (m : Monitor) (now : SystemTime) : Scan :=
  match m.alreadyFailed with
  | none => ⟨[], none⟩
  | some failed =>
      scanEntries now skew coordTimeout
        (m.rows.scan fun key => keyHasPrefix key heartbeatsPrefix) failed

/-- The events of an act. Source: `rollout-coordinator/src/failure_scan.rs` `scan_once`. Kind: D -/
def emitted (m : Monitor) : Act → List DomainEvent
  | .beat _ => []
  | .scan now => (m.scanAt skew coordTimeout now).events

/-- What an act leaves. Source: `rollout-coordinator/src/heartbeat.rs` `heartbeat`,
`failure_scan.rs` `scan_once`. Kind: D -/
def step (m : Monitor) : Act → Monitor
  | .beat b => { m with rows := recordBeat m.rows (WorkerRegistryEntry.codec.enc
      ⟨b.worker.ulid.display, b.1.runId.ulid.display, SystemTime.toMs b.2⟩) b }
  | .scan now => { m with alreadyFailed := (m.scanAt skew coordTimeout now).alreadyFailed }

/-- What a sequence of acts leaves. Source: none: infrastructure. Kind: D -/
def after (acts : List Act) : Monitor := acts.foldl (step skew coordTimeout) start

/-- The events of a sequence of acts. Source: none: infrastructure. Kind: D -/
def events (m : Monitor) : List Act → List DomainEvent
  | [] => []
  | a :: acts => m.emitted skew coordTimeout a ++ (m.step skew coordTimeout a).events acts

variable {skew coordTimeout}

@[simp] theorem after_snoc (acts : List Act) (a : Act) : after skew coordTimeout (acts ++ [a]) =
    (after skew coordTimeout acts).step skew coordTimeout a := by
  simp [after]

theorem events_append (m : Monitor) (xs ys : List Act) :
    m.events skew coordTimeout (xs ++ ys) = m.events skew coordTimeout xs ++
      (xs.foldl (step skew coordTimeout) m).events skew coordTimeout ys := by
  induction xs generalizing m with
  | nil => rfl
  | cons a xs ih => rw [List.cons_append, events, ih, events, List.append_assoc, List.foldl_cons]

@[simp] theorem events_snoc (acts : List Act) (a : Act) :
    start.events skew coordTimeout (acts ++ [a]) = start.events skew coordTimeout acts ++
      (after skew coordTimeout acts).emitted skew coordTimeout a := by
  rw [events_append, events, events, List.append_nil]
  rfl

end Monitor

/-! ## An act is the call that runs alone -/

/-- The events a process has handed to the emitter. Source: none: infrastructure. Kind: D -/
def handed {ι : Type} (g : List DomainEvent) (e : CoordEvent ι) : List DomainEvent :=
  match e with
  | ⟨_, .emit ev, _, _, _⟩ => g ++ [ev]
  | _ => g

section alone

variable {ι : Type} {i : ι} {s : Rows} {g : List DomainEvent}

/-- The rule for one operation. Source: none: infrastructure. Kind: L -/
theorem yields_coordAsk {β : Type} {o : CoordOp} {f : o.Out → CoordM β}
    {Q : β → Rows → List DomainEvent → Prop}
    (h : ∀ time a s', (coordService ι).perform time i o s = some (a, s') →
      (f a).Yields (coordMachine ι) i handed Q s' (handed g ⟨i, o, .ok a, s, s'⟩)) :
    (coordAsk o >>= f).Yields (coordMachine ι) i handed Q s g :=
  Service.yields_ask (S := coordService ι) h

theorem yields_emit {ev : DomainEvent} {Q : Unit → Rows → List DomainEvent → Prop}
    (h : Q () s (g ++ [ev])) : (coordAsk (.emit ev)).Yields (coordMachine ι) i handed Q s g := by
  rw [← Prog.bind_ret (coordAsk (.emit ev))]
  refine yields_coordAsk fun time a s' hperf => ?_
  obtain ⟨rfl, rfl⟩ := Prod.mk.inj (Option.some.inj hperf)
  exact h

theorem yields_runTxn {β : Type} {t : CoordTxn} {f : Unit → CoordM β}
    {Q : β → Rows → List DomainEvent → Prop}
    (h : (f ()).Yields (coordMachine ι) i handed Q (atomically (CoordTxn.body t) s).2 g) :
    (runTxn t >>= f).Yields (coordMachine ι) i handed Q s g := by
  refine yields_coordAsk fun time a s' hperf => ?_
  obtain ⟨-, rfl⟩ := Prod.mk.inj (Option.some.inj hperf)
  exact h

theorem yields_emitAll (events : List DomainEvent) {Q : Unit → Rows → List DomainEvent → Prop}
    (h : Q () s (g ++ events)) :
    (emitAll events).Yields (coordMachine ι) i handed Q s g := by
  induction events generalizing g with
  | nil =>
      rw [List.append_nil] at h
      exact h
  | cons ev events ih =>
      rw [← List.singleton_append, ← List.append_assoc] at h
      intro r s' hd
      have hs : s' = s := by
        rcases Service.does_iff.mp hd with ⟨err, -, rfl⟩ | ⟨time, a, hperf, -⟩
        · rfl
        · exact (Prod.mk.inj (Option.some.inj hperf)).2.symm
      rw [hs]
      exact ih h

/-- **A scan that runs alone** emits the events of the loop over the rows, for some clock.
Source: `rollout-coordinator/src/failure_scan.rs` `scan_once`. Kind: P -/
theorem yields_scanOnce (skew coordTimeout : Duration) (failed : List String) :
    (scanOnce skew coordTimeout failed).Yields (coordMachine ι) i handed (fun left s' g' =>
      s' = s ∧ ∃ now, left = ((⟨s, some failed⟩ : Monitor).scanAt skew coordTimeout now).alreadyFailed ∧
        g' = g ++ (⟨s, some failed⟩ : Monitor).emitted skew coordTimeout (.scan now)) s g := by
  refine yields_coordAsk fun now a s' hperf => ?_
  obtain ⟨rfl, rfl⟩ := Prod.mk.inj (Option.some.inj hperf)
  rw [coordScan_eq]
  refine yields_coordAsk fun _ entries s' hscan => ?_
  obtain ⟨rfl, rfl⟩ := Prod.mk.inj (Option.some.inj hscan)
  exact Prog.Yields.bind (yields_emitAll _ ⟨rfl, now, rfl, rfl⟩)

/-- **A heartbeat that runs alone** records it, for some clock.
Source: `rollout-coordinator/src/heartbeat.rs` `heartbeat`. Kind: P -/
theorem yields_heartbeat (runId : RunId) (hb : Heartbeat) :
    (heartbeat runId hb).Yields (coordMachine ι) i handed (fun _ s' _ =>
      ∃ registered receivedAt, s' = recordBeat s registered (hb, receivedAt)) s g := by
  refine yields_coordAsk fun _ existing s' hget => ?_
  obtain ⟨rfl, rfl⟩ := Prod.mk.inj (Option.some.inj hget)
  -- what remains once the worker is registered
  have hrest : ∀ registered g', Prog.Yields (coordMachine ι) i handed (fun _ s' _ =>
      ∃ registered receivedAt, s' = recordBeat s registered (hb, receivedAt)) (do
        let receivedAt ← coordAsk .now
        runTxn (.heartbeat hb.workerId (.of hb receivedAt))
        coordAsk (.emit (makeEvent runId hb.workerId "worker_heartbeat")))
      (s.putNew (workerKey hb.workerId) registered) g' := by
    intro registered g'
    refine yields_coordAsk fun receivedAt a s' hnow => ?_
    obtain ⟨rfl, rfl⟩ := Prod.mk.inj (Option.some.inj hnow)
    refine yields_runTxn ?_
    rw [atomically_heartbeat]
    exact yields_emit ⟨registered, receivedAt, by simp only [recordBeat, Beat.entry, Beat.worker]⟩
  cases hrow : s.get (workerKey hb.workerId) with
  | some bytes =>
      have hput : s.putNew (workerKey hb.workerId) [] = s := by
        unfold KV.putNew
        rw [hrow]
      have hdone := hrest [] g
      rw [hput] at hdone
      exact hdone
  | none =>
      refine Prog.Yields.bind (yields_coordAsk fun registeredAt a s' hnow => ?_)
      obtain ⟨rfl, rfl⟩ := Prod.mk.inj (Option.some.inj hnow)
      refine yields_runTxn ?_
      rw [atomically_register]
      refine yields_emit ?_
      have hdone := hrest (WorkerRegistryEntry.codec.enc
        ⟨hb.workerId.ulid.display, runId.ulid.display, SystemTime.toMs registeredAt⟩)
      unfold KV.putNew at hdone
      rw [hrow] at hdone
      exact hdone _

end alone

/-! ## What the acts say -/

/-- The last heartbeat of a worker. Source: `rollout-coordinator/src/heartbeat.rs` `heartbeat`
(one row a worker). Kind: D -/
def lastBeat (worker : WorkerId) (acts : List Act) : Option Beat :=
  acts.foldl (fun last a => match a with
    | .beat b => if b.worker = worker then some b else last
    | .scan _ => last) none

@[simp] theorem lastBeat_beat (worker : WorkerId) (acts : List Act) (b : Beat) :
    lastBeat worker (acts ++ [.beat b]) =
      if b.worker = worker then some b else lastBeat worker acts := by
  simp [lastBeat]

@[simp] theorem lastBeat_scan (worker : WorkerId) (acts : List Act) (now : SystemTime) :
    lastBeat worker (acts ++ [.scan now]) = lastBeat worker acts := by
  simp [lastBeat]

theorem worker_lastBeat {worker : WorkerId} {acts : List Act} {b : Beat}
    (h : lastBeat worker acts = some b) : b.worker = worker := by
  induction acts using List.reverseRecOn with
  | nil => cases h
  | append_singleton acts a ih =>
      cases a with
      | beat b' =>
          rw [lastBeat_beat] at h
          split at h
          · next hb =>
            rw [← Option.some.inj h]
            exact hb
          · exact ih h
      | scan now =>
          rw [lastBeat_scan] at h
          exact ih h

section tracked

variable (skew coordTimeout : Duration)

/-- A scan at `now` after `acts` finds the worker overdue.
Source: `rollout-transport/src/health.rs` `is_failed`. Kind: D -/
def OverdueAt (worker : WorkerId) (acts : List Act) (now : SystemTime) : Prop :=
  ∃ b, lastBeat worker acts = some b ∧ b.overdue now skew coordTimeout = true

/-- Some scan has found the worker overdue. Source: none: infrastructure. Kind: D -/
def FoundOverdue (worker : WorkerId) (acts : List Act) : Prop :=
  ∃ pre now post, acts = pre ++ .scan now :: post ∧ OverdueAt skew coordTimeout worker pre now

variable {skew coordTimeout}

theorem foundOverdue_beat {worker : WorkerId} {acts : List Act} {b : Beat} :
    FoundOverdue skew coordTimeout worker (acts ++ [.beat b]) ↔
      FoundOverdue skew coordTimeout worker acts := by
  constructor
  · rintro ⟨pre, now, post, heq, hover⟩
    rcases List.eq_nil_or_concat post with rfl | ⟨post, a, rfl⟩
    · cases (List.cons.inj (List.append_inj' heq rfl).2).1
    · rw [List.concat_eq_append, ← List.cons_append, ← List.append_assoc] at heq
      exact ⟨pre, now, post, (List.append_inj' heq rfl).1, hover⟩
  · rintro ⟨pre, now, post, rfl, hover⟩
    exact ⟨pre, now, post ++ [.beat b], by simp, hover⟩

theorem foundOverdue_scan {worker : WorkerId} {acts : List Act} {now : SystemTime} :
    FoundOverdue skew coordTimeout worker (acts ++ [.scan now]) ↔
      FoundOverdue skew coordTimeout worker acts ∨ OverdueAt skew coordTimeout worker acts now := by
  constructor
  · rintro ⟨pre, now', post, heq, hover⟩
    rcases List.eq_nil_or_concat post with rfl | ⟨post, a, rfl⟩
    · obtain ⟨rfl, hlast⟩ := List.append_inj' heq rfl
      obtain rfl := Act.scan.inj (List.cons.inj hlast).1
      exact .inr hover
    · rw [List.concat_eq_append, ← List.cons_append, ← List.append_assoc] at heq
      exact .inl ⟨pre, now', post, (List.append_inj' heq rfl).1, hover⟩
  · rintro (⟨pre, now', post, rfl, hover⟩ | hover)
    · exact ⟨pre, now', post ++ [.scan now], by simp, hover⟩
    · exact ⟨acts, now, [], rfl, hover⟩

/-- **What the monitor knows**: the rows are those of the last heartbeats, and the workers that are
not reported again are those some scan has found overdue.
Source: `rollout-coordinator/src/failure_scan.rs` `failure_scan_loop`. Kind: D -/
structure Tracked (skew coordTimeout : Duration) (acts : List Act) (m : Monitor) : Prop where
  row : ∀ key bytes, keyHasPrefix key heartbeatsPrefix = true → (m.rows.get key = some bytes ↔
    ∃ b : Beat, lastBeat b.worker acts = some b ∧ b.entry = (key, bytes))
  failed : ∃ failed, m.alreadyFailed = some failed ∧ ∀ worker : WorkerId,
    worker.ulid.display ∈ failed ↔ FoundOverdue skew coordTimeout worker acts

theorem tracked_start : Tracked skew coordTimeout [] .start := by
  refine ⟨fun key bytes _ => iff_of_false ?_ ?_, [], rfl, fun worker => iff_of_false ?_ ?_⟩
  · simp [Monitor.start]
  · rintro ⟨b, hb, -⟩
    cases hb
  · simp
  · rintro ⟨pre, now, post, heq, -⟩
    simp at heq

/-- A heartbeat replaces the row of its worker.
Source: `rollout-coordinator/src/heartbeat.rs` `heartbeat`. Kind: L -/
theorem Tracked.beat {acts : List Act} {m : Monitor} (h : Tracked skew coordTimeout acts m)
    (b : Beat) : Tracked skew coordTimeout (acts ++ [.beat b])
      (m.step skew coordTimeout (.beat b)) := by
  refine ⟨fun key bytes hpfx => ?_, ?_⟩
  · show (recordBeat m.rows _ b).get key = some bytes ↔ _
    have hkey : key ≠ workerKey b.worker := by
      rintro rfl
      simp at hpfx
    unfold recordBeat
    rw [KV.get_put, KV.get_putNew, if_neg hkey]
    split
    · next hentry =>
      subst hentry
      constructor
      · intro hbytes
        exact ⟨b, by simp, Prod.ext rfl (Option.some.inj hbytes)⟩
      · rintro ⟨b', hlast, hentry⟩
        obtain ⟨hkey', rfl⟩ := Prod.mk.inj hentry
        rw [lastBeat_beat, if_pos (heartbeatKey_inj.mp hkey').symm] at hlast
        rw [Option.some.inj hlast]
        rfl
    · next hentry =>
      rw [h.row key bytes hpfx]
      refine exists_congr fun b' => and_congr_left fun hb' => ?_
      have hworker : b.worker ≠ b'.worker := by
        intro hw
        obtain ⟨rfl, -⟩ := Prod.mk.inj hb'
        exact hentry (congrArg heartbeatKey hw.symm)
      rw [lastBeat_beat, if_neg hworker]
  · obtain ⟨failed, hfailed, hmem⟩ := h.failed
    exact ⟨failed, hfailed, fun worker => (hmem worker).trans foundOverdue_beat.symm⟩

/-- A list whose elements are all values of a function. Source: none: infrastructure. Kind: L -/
theorem exists_map_of_forall {α β : Type} {f : β → α} {P : β → Prop} {l : List α}
    (h : ∀ a ∈ l, ∃ b, f b = a ∧ P b) : ∃ bs : List β, bs.map f = l ∧ ∀ b ∈ bs, P b := by
  induction l with
  | nil => exact ⟨[], rfl, by simp⟩
  | cons a l ih =>
      obtain ⟨b, rfl, hb⟩ := h a List.mem_cons_self
      obtain ⟨bs, rfl, hbs⟩ := ih fun a ha => h a (List.mem_cons_of_mem _ ha)
      exact ⟨b :: bs, rfl, List.forall_mem_cons.mpr ⟨hb, hbs⟩⟩

/-- What a scan reads are the rows of the last heartbeats.
Source: `rollout-coordinator/src/failure_scan.rs` `scan_once`. Kind: L -/
theorem Tracked.entries {acts : List Act} {m : Monitor} (h : Tracked skew coordTimeout acts m)
    (now : SystemTime) :
    ∃ beats : List Beat, beats.map Beat.entry = (m.rows.scan fun key => keyHasPrefix key heartbeatsPrefix) ∧
      ∀ worker, Beat.AnyOverdue now skew coordTimeout worker beats ↔
        OverdueAt skew coordTimeout worker acts now := by
  obtain ⟨beats, hbeats, hlast⟩ := @exists_map_of_forall _ _ Beat.entry
    (fun b => lastBeat b.worker acts = some b)
    (m.rows.scan fun key => keyHasPrefix key heartbeatsPrefix) fun e he => by
      obtain ⟨hget, hpfx⟩ := (KV.mem_scan _).mp he
      obtain ⟨b, hb, hentry⟩ := (h.row e.1 e.2 hpfx).mp hget
      exact ⟨b, hentry, hb⟩
  refine ⟨beats, hbeats, fun worker => ⟨?_, ?_⟩⟩
  · rintro ⟨b, hmem, rfl, hover⟩
    exact ⟨b, hlast b hmem, hover⟩
  · rintro ⟨b, hb, hover⟩
    obtain rfl := worker_lastBeat hb
    have hrow : b.entry ∈ beats.map Beat.entry := by
      rw [hbeats, KV.mem_scan]
      have hpfx := keyHasPrefix_heartbeatKey b.worker
      exact ⟨(h.row _ _ hpfx).mpr ⟨b, hb, rfl⟩, hpfx⟩
    obtain ⟨b', hmem, hentry⟩ := List.mem_map.mp hrow
    have hworker : b'.worker = b.worker := heartbeatKey_inj.mp (Prod.mk.inj hentry).1
    have hsame := hlast b' hmem
    rw [hworker, hb] at hsame
    obtain rfl := Option.some.inj hsame
    exact ⟨b, hmem, rfl, hover⟩

/-- **One scan**: it reports the workers it finds overdue that no scan has found overdue before, and
remembers them. Source: `rollout-coordinator/src/failure_scan.rs` `scan_once`. Kind: P -/
theorem Tracked.scan {acts : List Act} {m : Monitor} (h : Tracked skew coordTimeout acts m)
    (now : SystemTime) :
    Tracked skew coordTimeout (acts ++ [.scan now]) (m.step skew coordTimeout (.scan now)) ∧
      ∀ worker,
        (OverdueAt skew coordTimeout worker acts now ∧
          ¬ FoundOverdue skew coordTimeout worker acts →
          Beat.reportsOf worker (m.emitted skew coordTimeout (.scan now)) = 1) ∧
        (¬ (OverdueAt skew coordTimeout worker acts now ∧
            ¬ FoundOverdue skew coordTimeout worker acts) →
          Beat.reportsOf worker (m.emitted skew coordTimeout (.scan now)) = 0) := by
  obtain ⟨failed, hfailed, hmem⟩ := h.failed
  obtain ⟨beats, hbeats, hover⟩ := h.entries now
  obtain ⟨failed', hfailed', hspec⟩ :=
    @Beat.scanEntries_beats now skew coordTimeout beats failed
  have hscan : m.scanAt skew coordTimeout now =
      scanEntries now skew coordTimeout (beats.map Beat.entry) failed := by
    unfold Monitor.scanAt
    rw [hfailed, hbeats]
  refine ⟨⟨fun key bytes hpfx => ?_, failed', ?_, fun worker => ?_⟩, fun worker => ?_⟩
  · rw [show (m.step skew coordTimeout (.scan now)).rows = m.rows from rfl, h.row key bytes hpfx]
    simp only [lastBeat_scan]
  · show (m.scanAt skew coordTimeout now).alreadyFailed = _
    rw [hscan, hfailed']
  · rw [(hspec worker).1, hmem, hover, foundOverdue_scan]
  · have hcount : Beat.reportsOf worker (m.emitted skew coordTimeout (.scan now)) =
        if worker.ulid.display ∉ failed ∧ Beat.AnyOverdue now skew coordTimeout worker beats then 1
        else 0 := by
      show Beat.reportsOf worker (m.scanAt skew coordTimeout now).events = _
      rw [hscan, (hspec worker).2]
    have hcond : (worker.ulid.display ∉ failed ∧
      Beat.AnyOverdue now skew coordTimeout worker beats) ↔
        OverdueAt skew coordTimeout worker acts now ∧
          ¬ FoundOverdue skew coordTimeout worker acts := by
      rw [hmem, hover, and_comm]
    rw [hcount, ← hcond]
    exact ⟨fun hyes => if_pos hyes, fun hno => if_neg hno⟩

theorem tracked_after (acts : List Act) :
    Tracked skew coordTimeout acts (.after skew coordTimeout acts) := by
  induction acts using List.reverseRecOn with
  | nil => exact tracked_start
  | append_singleton acts a ih =>
      rw [Monitor.after_snoc]
      cases a with
      | beat b => exact ih.beat b
      | scan now => exact (ih.scan now).1

end tracked

/-! ## One event for each worker -/

section results

variable (skew coordTimeout : Duration)

/-- One event for each failure episode: between two heartbeats of a worker there is one event about
it when some scan finds it overdue there. Source: none: the statement that is compared with
`rollout-coordinator/src/failure_scan.rs`. Kind: D -/
def OneEventPerEpisode (worker : WorkerId) (acts : List Act) : Prop :=
  ∀ pre b mid post, acts = pre ++ .beat b :: (mid ++ post) → b.worker = worker →
    (∀ b', .beat b' ∈ mid → b'.worker ≠ worker) →
    (post = [] ∨ ∃ b' rest, post = .beat b' :: rest ∧ b'.worker = worker) →
    ((∃ now, .scan now ∈ mid ∧ b.overdue now skew coordTimeout = true) →
      Beat.reportsOf worker ((Monitor.after skew coordTimeout (pre ++ [.beat b])).events skew
        coordTimeout mid) = 1)

/-- The scans are in the order of their times. Source: none: infrastructure. Kind: D -/
def InOrder (acts : List Act) : Prop :=
  (acts.filterMap fun a => match a with
    | .scan now => some now.nanos
    | .beat _ => none).Pairwise fun s t => s ≤ t

instance (acts : List Act) : Decidable (InOrder acts) :=
  inferInstanceAs (Decidable (List.Pairwise _ _))

variable {skew coordTimeout}

/-- **A worker is reported once**: in every sequence of heartbeats and scans there is one event
about a worker that some scan finds overdue and none about the others, and it is emitted by the
first such scan. Source: `rollout-coordinator/src/failure_scan.rs` `failure_scan_loop`. Kind: C -/
theorem one_event_per_worker (worker : WorkerId) (acts : List Act) :
    ((FoundOverdue skew coordTimeout worker acts →
        Beat.reportsOf worker (Monitor.start.events skew coordTimeout acts) = 1) ∧
      (¬ FoundOverdue skew coordTimeout worker acts →
        Beat.reportsOf worker (Monitor.start.events skew coordTimeout acts) = 0)) ∧
    ∀ pre now post, acts = pre ++ .scan now :: post →
      (OverdueAt skew coordTimeout worker pre now ∧ ¬ FoundOverdue skew coordTimeout worker pre →
        Beat.reportsOf worker
          ((Monitor.after skew coordTimeout pre).emitted skew coordTimeout (.scan now)) = 1) ∧
      (¬ (OverdueAt skew coordTimeout worker pre now ∧
          ¬ FoundOverdue skew coordTimeout worker pre) →
        Beat.reportsOf worker
          ((Monitor.after skew coordTimeout pre).emitted skew coordTimeout (.scan now)) = 0) := by
  refine ⟨?_, fun pre now post _ => ((tracked_after pre).scan now).2 worker⟩
  induction acts using List.reverseRecOn with
  | nil =>
      refine ⟨?_, fun _ => rfl⟩
      rintro ⟨pre, now, post, heq, -⟩
      simp at heq
  | append_singleton acts a ih =>
      rw [Monitor.events_snoc, Beat.reportsOf_append]
      cases a with
      | beat b =>
          rw [foundOverdue_beat]
          exact ih
      | scan now =>
          rw [foundOverdue_scan]
          obtain ⟨hnew, hold⟩ := ((@tracked_after skew coordTimeout acts).scan now).2 worker
          by_cases hfound : FoundOverdue skew coordTimeout worker acts
          · have hevents := ih.1 hfound
            have hlast := hold fun h => h.2 hfound
            exact ⟨fun _ => by omega, fun hnot => absurd (.inl hfound) hnot⟩
          · have hevents := ih.2 hfound
            by_cases hover : OverdueAt skew coordTimeout worker acts now
            · have hlast := hnew ⟨hover, hfound⟩
              exact ⟨fun _ => by omega, fun hnot => absurd (.inr hover) hnot⟩
            · have hlast := hold fun h => hover h.1
              exact ⟨fun h => absurd h (by simp [hfound, hover]), fun _ => by omega⟩

end results

/-- A worker fails, recovers and fails again. Source: none: infrastructure. Kind: D -/
def failTwice : List Act :=
  [.beat (oneBeat, .ofSecs 0), .scan (.ofSecs 100),
    .beat ({ oneBeat with dueAt := .ofSecs 200 }, .ofSecs 199), .scan (.ofSecs 300)]

/-- **The second failure of a worker that recovered is not reported.**
Source: `rollout-coordinator/src/failure_scan.rs` `failure_scan_loop`. Kind: C -/
theorem second_episode_unreported : InOrder failTwice ∧
    ¬ OneEventPerEpisode (.fromMillis 250) (.fromMillis 5000) oneBeat.workerId failTwice := by
  refine ⟨by decide, fun h => ?_⟩
  have hsecond := h [.beat (oneBeat, .ofSecs 0), .scan (.ofSecs 100)]
    ({ oneBeat with dueAt := .ofSecs 200 }, .ofSecs 199) [.scan (.ofSecs 300)] [] rfl rfl (by simp)
    (.inl rfl) ⟨.ofSecs 300, by simp, by decide +kernel⟩
  exact absurd hsecond (by decide +kernel)

end Rollout.Coordinator
