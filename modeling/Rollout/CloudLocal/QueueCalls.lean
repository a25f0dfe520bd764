import Rollout.CloudLocal.QueueRestart

/-!
# Repeated acks and nacks

Any calls on a local queue one after another, each with what becomes of its operations and cut off
between any two of them.

* `runOps` — a program of the queue that runs alone; `CallSeq` — calls one after another.
* `enqueue_cases`, `ack_cases`, `nack_cases` — all a call can do.
* `Sound` — every ready item is ready once and has its row; `Gone` — an item that was acknowledged.
* `careful_calls_idempotent` — an item is ready once and is not delivered after its ack, when no
  ack or nack names an item that is ready.
-/

set_option linter.unusedSectionVars false

namespace Rollout.CloudLocal

open Rollout.Lib Rollout.Core
open Rollout.Batch (keyFor keyFor_inj replayed sortById)

section calls

variable [UlidGenerator]

/-! ## Calls one after another -/

/-- A program of the queue that runs alone, given what becomes of its operations; it is cut off
where there is no more of that. Source: `rollout-cloud-local/src/queue.rs`. Kind: D -/
def runOps {α : Type} : QueueM α → List Outcome → QueueState Unit →
    Option (Except CoreError α) × QueueState Unit
  | .ret a, _, s => (some (.ok a), s)
  | .err e, _, s => (some (.error e), s)
  | .call _ _, [], s => (none, s)
  | .call o k, outcome :: rest, s =>
      runOps (k (perform outcome () s o).1) rest (perform outcome () s o).2

/-- Such a program is a run of the machine under the queue.
Source: `rollout-cloud-local/src/queue.rs`. Kind: L -/
theorem run_runOps {α : Type} (p : QueueM α) (outcomes : List Outcome) (s : QueueState Unit) :
    ∃ tr d, Run (queueMachine Unit) (⟨s, fun _ => p⟩ : Config queueIface CoreError _ fun _ => α) tr d ∧
      d.shared = (runOps p outcomes s).2 ∧ ∀ r, (runOps p outcomes s).1 = some r →
        (d.progs ()).result? = some r := by
  have hall : ∀ (q : QueueM α) (outcomes : List Outcome) (tr : List (QueueEvent Unit))
      (c : Config queueIface CoreError (QueueState Unit) fun _ => α),
      Run (queueMachine Unit) ⟨s, fun _ => p⟩ tr c → c.progs () = q →
      ∃ tr d, Run (queueMachine Unit) (⟨s, fun _ => p⟩ : Config queueIface CoreError _ fun _ => α) tr d ∧
        d.shared = (runOps q outcomes c.shared).2 ∧
        ∀ r, (runOps q outcomes c.shared).1 = some r → (d.progs ()).result? = some r := by
    intro q
    induction q with
    | ret a =>
        intro outcomes tr c hrun hq
        refine ⟨tr, c, hrun, rfl, fun r hr => ?_⟩
        rw [hq]
        exact hr
    | err e =>
        intro outcomes tr c hrun hq
        refine ⟨tr, c, hrun, rfl, fun r hr => ?_⟩
        rw [hq]
        exact hr
    | call o k ih =>
        intro outcomes tr c hrun hq
        rcases outcomes with - | ⟨outcome, outcomes⟩
        · exact ⟨tr, c, hrun, rfl, fun r hr => nomatch hr⟩
        · have hdoes : (queueMachine Unit).Does ⟨(), o, (perform outcome () c.shared o).1, c.shared,
              (perform outcome () c.shared o).2⟩ := ⟨outcome, rfl⟩
          refine ih _ outcomes _ _ (hrun.step hq hdoes) ?_
          exact Function.update_self () _ c.progs
  exact hall p outcomes [] _ .refl rfl

/-- A call that was made, what became of its operations, and the queue before it.
Source: `rollout-cloud-local/src/queue.rs` `InMemQueue`. Kind: D -/
structure CallRecord where
  /-- The call. -/
  call : QueueCall
  /-- What became of its operations. -/
  outcomes : List Outcome
  /-- The queue before it. -/
  pre : QueueState Unit

namespace CallRecord

variable (r : CallRecord)

/-- The queue after it. Source: `rollout-cloud-local/src/queue.rs` `InMemQueue`. Kind: D -/
def post : QueueState Unit := (runOps r.call.prog r.outcomes r.pre).2

/-- It delivered an item. Source: `rollout-cloud-local/src/queue.rs` `dequeue`. Kind: D -/
def Delivers (id : Ulid) (payload : Bytes) : Prop :=
  r.call = .dequeue ∧ (runOps dequeue r.outcomes r.pre).1 = some (.ok (some (id, payload)))

/-- It acknowledged an item that was there. Source: `rollout-cloud-local/src/queue.rs` `ack`.
Kind: D -/
def Acks (id : Ulid) : Prop :=
  r.call = .ack id ∧ (runOps (ack id) r.outcomes r.pre).1 = some (.ok ()) ∧
    (r.pre.store.get (keyFor id)).isSome

end CallRecord

/-- Calls one after another. Source: `rollout-cloud-local/src/queue.rs` `InMemQueue`. Kind: D -/
inductive CallSeq (s₀ : QueueState Unit) : List CallRecord → QueueState Unit → Prop
  | nil : CallSeq s₀ [] s₀
  | snoc {hist : List CallRecord} {s : QueueState Unit} (h : CallSeq s₀ hist s) (call : QueueCall)
      (outcomes : List Outcome) :
      CallSeq s₀ (hist ++ [⟨call, outcomes, s⟩]) (runOps call.prog outcomes s).2

/-! ## What a call can do -/

/-- The rows, the deque and the generator are as before. Source: none: infrastructure. Kind: D -/
structure Same (s s' : QueueState Unit) : Prop where
  store : s'.store = s.store
  ready : s'.ready = s.ready
  gen : s'.gen = s.gen

variable {s : QueueState Unit} {outcomes : List Outcome} {id : Ulid}

/-- Source: `rollout-cloud-local/src/queue.rs` `dequeue`. Kind: L -/
theorem dequeue_cases (outcomes : List Outcome) (s : QueueState Unit) :
    runOps dequeue outcomes s = (none, s) ∨
      runOps dequeue outcomes s = (some (.ok s.ready.head?), { s with ready := s.ready.tail }) := by
  rcases outcomes with - | ⟨outcome, rest⟩
  · exact .inl rfl
  · exact .inr rfl

theorem runOps_getBytes {α : Type} (key : StorageKey)
    (f : Except CoreError (Option Bytes) → QueueM α)
    (rest : List Outcome) (s : QueueState Unit) :
    runOps (Prog.op (I := queueIface) (.getBytes key) >>= f) (.done :: rest) s =
      runOps (f (.ok (s.store.get key))) rest s := rfl

/-- Source: `rollout-cloud-local/src/queue.rs` `nack`. Kind: L -/
theorem nack_cases (id : Ulid) (outcomes : List Outcome) (s : QueueState Unit) :
    (runOps (nack id) outcomes s).2 = s ∨
      ∃ payload, s.store.get (keyFor id) = some payload ∧
        (runOps (nack id) outcomes s).2 = { s with ready := (id, payload) :: s.ready } := by
  rcases outcomes with - | ⟨- | e | e, rest⟩
  · exact .inl rfl
  · unfold nack
    rw [runOps_getBytes]
    rcases hrow : s.store.get (keyFor id) with - | payload
    · exact .inl rfl
    · rcases rest with - | ⟨outcome, rest⟩
      · exact .inl rfl
      · exact .inr ⟨payload, rfl, rfl⟩
  · exact .inl rfl
  · exact .inl rfl

/-- Source: `rollout-cloud-local/src/queue.rs` `ack`. Kind: L -/
theorem ack_cases (id : Ulid) (outcomes : List Outcome) (s : QueueState Unit) :
    Same s (runOps (ack id) outcomes s).2 ∧ (runOps (ack id) outcomes s).1 ≠ some (.ok ()) ∨
      (runOps (ack id) outcomes s).2.store = s.store.del (keyFor id) ∧
        (runOps (ack id) outcomes s).2.ready = s.ready ∧
        (runOps (ack id) outcomes s).2.gen = s.gen := by
  rcases outcomes with - | ⟨- | e | e, - | ⟨- | e | e, - | ⟨- | e | e, rest⟩⟩⟩
  all_goals first
    | exact .inl ⟨⟨rfl, rfl, rfl⟩, nofun⟩
    | exact .inr ⟨rfl, rfl, rfl⟩

/-- How far an enqueue came once it had drawn its identifier.
Source: `rollout-cloud-local/src/queue.rs` `enqueue`. Kind: D -/
inductive Stored (id : Ulid) (payload : Bytes) (s s' : QueueState Unit) : Prop
  | drawn (store : s'.store = s.store) (ready : s'.ready = s.ready)
  | written (store : s'.store = s.store.put (keyFor id) payload) (ready : s'.ready = s.ready)
  | pushed (store : s'.store = s.store.put (keyFor id) payload)
      (ready : s'.ready = s.ready ++ [(id, payload)])

/-- An enqueue once it has drawn its identifier. Source: `rollout-cloud-local/src/queue.rs`
`enqueue`. Kind: D -/
def enqueueAs (id : Ulid) (payload : Bytes) : QueueM Ulid := do
  let begun ← Prog.op (I := queueIface) .begin
  Prog.ofExcept begun
  let staged ← Prog.op (I := queueIface) (.putBytes (keyFor id) payload)
  Prog.ofExcept staged
  let committed ← Prog.op (I := queueIface) .commit
  Prog.ofExcept (committed.toExcept ())
  Prog.op (I := queueIface) (.pushBack id payload)
  return id

/-- Source: `rollout-cloud-local/src/queue.rs` `enqueue`. Kind: L -/
theorem enqueueAs_cases (id : Ulid) (payload : Bytes) (outcomes : List Outcome)
    (s : QueueState Unit) :
    (runOps (enqueueAs id payload) outcomes s).2.gen = s.gen ∧
      Stored id payload s (runOps (enqueueAs id payload) outcomes s).2 := by
  rcases outcomes with - | ⟨- | e | e, - | ⟨- | e | e, - | ⟨- | e | e, - | ⟨outcome, rest⟩⟩⟩⟩
  all_goals first
    | exact ⟨rfl, .drawn rfl rfl⟩
    | exact ⟨rfl, .written rfl rfl⟩
    | exact ⟨rfl, .pushed rfl rfl⟩

/-- Source: `rollout-cloud-local/src/queue.rs` `enqueue`. Kind: L -/
theorem enqueue_cases (now : Nat) (src : UlidGenerator.Source) (payload : Bytes)
    (outcomes : List Outcome) (s : QueueState Unit) :
    (runOps (enqueue now src payload) outcomes s).2 = s ∨
      ∃ id gen, UlidGenerator.generate now src s.gen = .ok (id, gen) ∧
        (runOps (enqueue now src payload) outcomes s).2.gen = gen ∧
        Stored id payload s (runOps (enqueue now src payload) outcomes s).2 := by
  rcases outcomes with - | ⟨outcome, outcomes⟩
  · exact .inl rfl
  rcases hgen : UlidGenerator.generate now src s.gen with e | ⟨id, gen⟩
  · left
    have hfail : perform outcome () s (.generate now src) = (.error e, s) := by
      rw [perform, hgen]
    show (runOps (Prog.ofExcept _ >>= _) outcomes _).2 = s
    rw [hfail]
    rfl
  · right
    have hdraw : perform outcome () s (.generate now src) = (.ok id, { s with gen }) := by
      rw [perform, hgen]
    have hrest : runOps (enqueue now src payload) (outcome :: outcomes) s =
        runOps (enqueueAs id payload) outcomes { s with gen } := by
      show runOps (Prog.ofExcept _ >>= _) outcomes _ = _
      rw [hdraw]
      rfl
    rw [hrest]
    obtain ⟨hgen', hstored⟩ := enqueueAs_cases id payload outcomes { s with gen }
    refine ⟨id, gen, rfl, hgen', ?_⟩
    rcases hstored with ⟨hstore, hready⟩ | ⟨hstore, hready⟩ | ⟨hstore, hready⟩
    · exact .drawn hstore hready
    · exact .written hstore hready
    · exact .pushed hstore hready

/-! ## The invariant -/

variable {s₀ s' : QueueState Unit}

/-- The identifiers there have been: those the queue was opened with and those it drew.
Source: `rollout-cloud-local/src/queue.rs` `InMemQueue`. Kind: D -/
def Known (s₀ s : QueueState Unit) (id : Ulid) : Prop :=
  id ∈ s₀.ready.map Prod.fst ∨ id.bits.toNat ≤ (UlidGenerator.previous s.gen).bits.toNat

/-- A ready item is ready once and has its row, and rows are of known identifiers.
Source: `rollout-cloud-local/src/queue.rs` `InMemQueue`. Kind: D -/
structure Sound (s₀ s : QueueState Unit) : Prop where
  /-- No item is ready twice. -/
  once : (s.ready.map Prod.fst).Nodup
  /-- A ready item has its row. -/
  backed : ∀ x ∈ s.ready, s.store.get (keyFor x.1) = some x.2
  /-- A row is of a known identifier. -/
  known : ∀ id, (s.store.get (keyFor id)).isSome → Known s₀ s id

/-- The row of an item is gone, and the identifier will not be drawn again.
Source: `rollout-cloud-local/src/queue.rs` `ack`. Kind: D -/
structure Gone (s₀ s : QueueState Unit) (id : Ulid) : Prop where
  /-- There is no row. -/
  row : s.store.get (keyFor id) = none
  /-- There has been one. -/
  known : Known s₀ s id

theorem Gone.not_ready (h : Gone s₀ s id) (hsound : Sound s₀ s) : id ∉ s.ready.map Prod.fst := by
  intro hmem
  obtain ⟨x, hx, rfl⟩ := List.mem_map.mp hmem
  have hrow := hsound.backed x hx
  rw [h.row] at hrow
  cases hrow

/-- **What a caller has to see to**: an ack or a nack names no item that is ready, and the clock of
an enqueue fits a ULID and is past the items the queue was opened with.
Source: `rollout-coordinator/src/drain.rs` `drain` (`in_flight`). Kind: D -/
def Careful (s₀ : QueueState Unit) (r : CallRecord) : Prop :=
  match r.call with
  | .enqueue now _ _ => now < 2 ^ 48 ∧ ∀ x ∈ s₀.ready, timestampMs x.1 < now
  | .dequeue => True
  | .ack id => id ∉ r.pre.ready.map Prod.fst
  | .nack id => id ∉ r.pre.ready.map Prod.fst

instance (s₀ : QueueState Unit) (r : CallRecord) : Decidable (Careful s₀ r) := by
  unfold Careful
  split <;> infer_instance

section draw

variable {now : Nat} {src : UlidGenerator.Source} {gen : UlidGenerator.Gen}

/-- A draw is not of a known identifier. Source: `rollout-cloud-local/src/queue.rs`
(`ulid::Generator`). Kind: L -/
theorem not_known_of_draw (hgen : UlidGenerator.generate now src s.gen = .ok (id, gen))
    (hfits : now < 2 ^ 48) (hpast : ∀ x ∈ s₀.ready, timestampMs x.1 < now) : ¬ Known s₀ s id := by
  rintro (hmem | hle)
  · obtain ⟨x, hx, rfl⟩ := List.mem_map.mp hmem
    have htime := UlidGenerator.timestamp hgen hfits
    have hlt := hpast x hx
    rw [htime] at hlt
    exact absurd hlt (Nat.not_lt_of_le (le_max_right _ _))
  · exact absurd (UlidGenerator.increasing hgen hfits) (Nat.not_lt_of_le hle)

theorem known_of_draw (hgen : UlidGenerator.generate now src s.gen = .ok (id, gen))
    (hfits : now < 2 ^ 48) (hgen' : s'.gen = gen) {other : Ulid} (h : Known s₀ s other) :
    Known s₀ s' other := by
  refine h.imp_right fun hle => ?_
  rw [hgen', UlidGenerator.previous_generate hgen]
  exact hle.trans (UlidGenerator.increasing hgen hfits).le

theorem known_self (hgen : UlidGenerator.generate now src s.gen = .ok (id, gen))
    (hgen' : s'.gen = gen) : Known s₀ s' id := by
  right
  rw [hgen', UlidGenerator.previous_generate hgen]

end draw

theorem Known.congr (hgen : s'.gen = s.gen) (h : Known s₀ s id) : Known s₀ s' id := by
  unfold Known at *
  rwa [hgen]

/-- Fewer ready items are no harm. Source: `rollout-cloud-local/src/queue.rs` `dequeue`. Kind: L -/
theorem Sound.sublist (h : Sound s₀ s) (hstore : s'.store = s.store) (hgen : s'.gen = s.gen)
    (hready : s'.ready.Sublist s.ready) : Sound s₀ s' := by
  refine ⟨(hready.map Prod.fst).nodup h.once, ?_, ?_⟩
  · intro x hx
    rw [hstore]
    exact h.backed x (hready.subset hx)
  · intro id hrow
    rw [hstore] at hrow
    exact (h.known id hrow).congr hgen

theorem Gone.congr (h : Gone s₀ s id) (hstore : s'.store = s.store) (hgen : s'.gen = s.gen) :
    Gone s₀ s' id :=
  ⟨by rw [hstore]; exact h.row, h.known.congr hgen⟩

/-- An enqueue under a new identifier keeps the invariant, however far it came.
Source: `rollout-cloud-local/src/queue.rs` `enqueue`. Kind: L -/
theorem Sound.stored {payload : Bytes} (h : Sound s₀ s) (hnew : ¬ Known s₀ s id)
    (hknown : ∀ other, Known s₀ s other → Known s₀ s' other) (hself : Known s₀ s' id)
    (hstored : Stored id payload s s') :
    Sound s₀ s' ∧ ∀ other, Gone s₀ s other → Gone s₀ s' other := by
  have hrow : s.store.get (keyFor id) = none := by
    rw [← Option.not_isSome_iff_eq_none]
    exact fun hrow => hnew (h.known id hrow)
  have hready : ∀ x ∈ s.ready, keyFor x.1 ≠ keyFor id := by
    intro x hx hkey
    have hbacked := h.backed x hx
    rw [hkey, hrow] at hbacked
    cases hbacked
  have hgone : ∀ other, Gone s₀ s other → keyFor other ≠ keyFor id := by
    intro other hother hkey
    rw [keyFor_inj.mp hkey] at hother
    exact hnew hother.known
  have hput : ∀ other, s'.store = s.store.put (keyFor id) payload →
      (s'.store.get (keyFor other)).isSome → Known s₀ s' other := by
    intro other hstore hrow
    by_cases hother : other = id
    · rw [hother]
      exact hself
    · rw [hstore, KV.get_put_of_ne _ _ _ _ (mt keyFor_inj.mp hother)] at hrow
      exact hknown other (h.known other hrow)
  rcases hstored with ⟨hstore, hr⟩ | ⟨hstore, hr⟩ | ⟨hstore, hr⟩
  · refine ⟨⟨by rw [hr]; exact h.once, ?_, ?_⟩, fun other hother => ⟨?_, hknown _ hother.known⟩⟩
    · rw [hr, hstore]
      exact h.backed
    · rw [hstore]
      exact fun other hrow => hknown other (h.known other hrow)
    · rw [hstore]
      exact hother.row
  · refine ⟨⟨by rw [hr]; exact h.once, ?_, fun other => hput other hstore⟩,
      fun other hother => ⟨?_, hknown _ hother.known⟩⟩
    · intro x hx
      rw [hr] at hx
      rw [hstore, KV.get_put_of_ne _ _ _ _ (hready x hx)]
      exact h.backed x hx
    · rw [hstore, KV.get_put_of_ne _ _ _ _ (hgone other hother)]
      exact hother.row
  · refine ⟨⟨?_, ?_, fun other => hput other hstore⟩,
      fun other hother => ⟨?_, hknown _ hother.known⟩⟩
    · rw [hr, List.map_append, List.nodup_append]
      refine ⟨h.once, List.nodup_singleton id, ?_⟩
      rintro a ha b hb rfl
      obtain rfl : a = id := List.mem_singleton.mp hb
      obtain ⟨x, hx, rfl⟩ := List.mem_map.mp ha
      exact hready x hx rfl
    · intro x hx
      rw [hr] at hx
      rw [hstore]
      rcases List.mem_append.mp hx with hx | hx
      · rw [KV.get_put_of_ne _ _ _ _ (hready x hx)]
        exact h.backed x hx
      · rw [List.mem_singleton.mp hx]
        exact KV.get_put_self ..
    · rw [hstore, KV.get_put_of_ne _ _ _ _ (hgone other hother)]
      exact hother.row

/-- An ack of an item that is not ready keeps the invariant.
Source: `rollout-cloud-local/src/queue.rs` `ack`. Kind: L -/
theorem Sound.acked (h : Sound s₀ s) (hid : id ∉ s.ready.map Prod.fst)
    (hstore : s'.store = s.store.del (keyFor id)) (hready : s'.ready = s.ready)
    (hgen : s'.gen = s.gen) : Sound s₀ s' ∧ ∀ other, Gone s₀ s other → Gone s₀ s' other := by
  refine ⟨⟨by rw [hready]; exact h.once, ?_, ?_⟩, ?_⟩
  · intro x hx
    rw [hready] at hx
    have hne : keyFor x.1 ≠ keyFor id := by
      intro hkey
      exact hid (List.mem_map.mpr ⟨x, hx, keyFor_inj.mp hkey⟩)
    rw [hstore, KV.get_del_of_ne _ _ _ hne]
    exact h.backed x hx
  · intro other hrow
    rw [hstore, KV.get_del] at hrow
    split at hrow
    · simp at hrow
    · exact (h.known other hrow).congr hgen
  · intro other hother
    refine ⟨?_, hother.known.congr hgen⟩
    rw [hstore, KV.get_del]
    split
    · rfl
    · exact hother.row

/-- A nack of an item that is not ready keeps the invariant.
Source: `rollout-cloud-local/src/queue.rs` `nack`. Kind: L -/
theorem Sound.nacked {payload : Bytes} (h : Sound s₀ s) (hid : id ∉ s.ready.map Prod.fst)
    (hrow : s.store.get (keyFor id) = some payload) :
    Sound s₀ { s with ready := (id, payload) :: s.ready } := by
  refine ⟨?_, ?_, h.known⟩
  · rw [List.map_cons, List.nodup_cons]
    exact ⟨hid, h.once⟩
  · intro x hx
    rcases List.mem_cons.mp hx with rfl | hx
    · exact hrow
    · exact h.backed x hx

/-- **A careful call keeps the invariant, and what is gone stays gone.** One case for each thing a
call can do. Source: `rollout-cloud-local/src/queue.rs` `InMemQueue`. Kind: P -/
theorem careful_step {r : CallRecord} (h : Sound s₀ r.pre) (hcareful : Careful s₀ r) :
    Sound s₀ r.post ∧ ∀ id, Gone s₀ r.pre id → Gone s₀ r.post id := by
  obtain ⟨call, outcomes, s⟩ := r
  rcases call with ⟨now, src, payload⟩ | - | id | id
  · show Sound s₀ (runOps (enqueue now src payload) outcomes s).2 ∧ ∀ id, Gone s₀ s id →
      Gone s₀ (runOps (enqueue now src payload) outcomes s).2 id
    rcases enqueue_cases now src payload outcomes s with hsame | ⟨id, gen, hgen, hgen', hstored⟩
    · rw [hsame]
      exact ⟨h, fun _ hgone => hgone⟩
    · exact h.stored (not_known_of_draw hgen hcareful.1 hcareful.2)
        (fun _ => known_of_draw hgen hcareful.1 hgen') (known_self hgen hgen') hstored
  · show Sound s₀ (runOps dequeue outcomes s).2 ∧ ∀ id, Gone s₀ s id →
      Gone s₀ (runOps dequeue outcomes s).2 id
    rcases dequeue_cases outcomes s with hcut | hpop
    · rw [hcut]
      exact ⟨h, fun _ hgone => hgone⟩
    · rw [hpop]
      exact ⟨h.sublist rfl rfl (List.tail_sublist s.ready), fun _ hgone => hgone.congr rfl rfl⟩
  · show Sound s₀ (runOps (ack id) outcomes s).2 ∧ ∀ other, Gone s₀ s other →
      Gone s₀ (runOps (ack id) outcomes s).2 other
    rcases ack_cases id outcomes s with ⟨hsame, -⟩ | ⟨hstore, hready, hgen⟩
    · exact ⟨h.sublist hsame.store hsame.gen (by rw [hsame.ready]),
        fun _ hgone => hgone.congr hsame.store hsame.gen⟩
    · exact h.acked hcareful hstore hready hgen
  · show Sound s₀ (runOps (nack id) outcomes s).2 ∧ ∀ other, Gone s₀ s other →
      Gone s₀ (runOps (nack id) outcomes s).2 other
    rcases nack_cases id outcomes s with hsame | ⟨payload, hrow, hpush⟩
    · rw [hsame]
      exact ⟨h, fun _ hgone => hgone⟩
    · rw [hpush]
      exact ⟨h.nacked hcareful hrow, fun _ hgone => hgone.congr rfl rfl⟩

/-- An item that was acknowledged is gone. Source: `rollout-cloud-local/src/queue.rs` `ack`.
Kind: L -/
theorem gone_of_acks {r : CallRecord} (h : Sound s₀ r.pre) (hack : r.Acks id) :
    Gone s₀ r.post id := by
  obtain ⟨call, outcomes, s⟩ := r
  obtain ⟨rfl, hok, hrow⟩ := hack
  rcases ack_cases id outcomes s with ⟨-, hnot⟩ | ⟨hstore, -, hgen⟩
  · exact absurd hok hnot
  · refine ⟨?_, (h.known id hrow).congr hgen⟩
    show (runOps (ack id) outcomes s).2.store.get (keyFor id) = none
    rw [hstore]
    exact KV.get_del_self ..

theorem not_delivers_of_gone {r : CallRecord} (h : Sound s₀ r.pre) (hgone : Gone s₀ r.pre id)
    (payload : Bytes) : ¬ r.Delivers id payload := by
  rintro ⟨-, hres⟩
  rcases dequeue_cases r.outcomes r.pre with hcut | hpop
  · rw [hcut] at hres
    cases hres
  · rw [hpop] at hres
    have hhead := Except.ok.inj (Option.some.inj hres)
    exact hgone.not_ready h (List.mem_map.mpr ⟨_, List.mem_of_head? hhead, rfl⟩)

/-! ## Opening -/

/-- Nothing but items of the queue is in its namespace.
Source: `rollout-cloud-local/src/queue.rs` (`NAMESPACE`). Kind: D -/
def OnlyItems (store : Rows) : Prop :=
  ∀ key value, store.get key = some value → key.ns = "cloudlocal_queue" → ∃ id, key = keyFor id

/-- The items in the rows. Source: `rollout-cloud-local/src/queue.rs` `open`. Kind: D -/
def itemsIn (store : Rows) : List (Ulid × Bytes) :=
  (store.scan fun key => keyHasPrefix key openPrefix).filterMap replayed

theorem mem_itemsIn {store : Rows} (h : OnlyItems store) {payload : Bytes} :
    (id, payload) ∈ itemsIn store ↔ store.get (keyFor id) = some payload := by
  unfold itemsIn
  rw [List.mem_filterMap]
  constructor
  · rintro ⟨⟨key, value⟩, hmem, hread⟩
    rw [KV.mem_scan, keyHasPrefix_openPrefix] at hmem
    obtain ⟨id', rfl⟩ := h key value hmem.1 hmem.2
    obtain ⟨rfl, rfl⟩ := Prod.mk.inj (Option.some.inj ((replayed_keyFor (id', value)).symm.trans hread))
    exact hmem.1
  · intro hrow
    refine ⟨(keyFor id, payload), ?_, replayed_keyFor (id, payload)⟩
    rw [KV.mem_scan, keyHasPrefix_openPrefix]
    exact ⟨hrow, rfl⟩

theorem nodup_itemsIn {store : Rows} (h : OnlyItems store) :
    ((itemsIn store).map Prod.fst).Nodup := by
  unfold itemsIn List.Nodup
  rw [List.pairwise_map, List.pairwise_filterMap]
  refine (List.pairwise_map.mp (KV.nodup_scan store _)).imp_of_mem ?_
  rintro ⟨key, value⟩ ⟨key', value'⟩ hmem hmem' hne x hx y hy hid
  rw [KV.mem_scan, keyHasPrefix_openPrefix] at hmem hmem'
  obtain ⟨id, rfl⟩ := h key value hmem.1 hmem.2
  obtain ⟨id', rfl⟩ := h key' value' hmem'.1 hmem'.2
  obtain rfl := Option.some.inj ((replayed_keyFor (id, value)).symm.trans hx)
  obtain rfl := Option.some.inj ((replayed_keyFor (id', value')).symm.trans hy)
  exact hne (congrArg keyFor hid)

/-- A queue that was just opened is sound. Source: `rollout-cloud-local/src/queue.rs` `open`.
Kind: L -/
theorem sound_of_reopens (hitems : OnlyItems s.store) (hre : Reopens s s₀) : Sound s₀ s₀ := by
  have hrec : Recorded s (⟨fun _ => none, (itemsIn s.store).map Prod.fst, itemsIn s.store⟩ :
      Books Unit) :=
    ⟨fun _ _ => (mem_itemsIn hitems).symm, hitems, nodup_itemsIn hitems,
      fun _ hx => List.mem_map_of_mem hx⟩
  have hperm := hrec.replay hre
  have hstore : s₀.store = s.store := by
    obtain ⟨entries, -, rfl⟩ := hre
    rfl
  refine ⟨(hperm.map Prod.fst).nodup_iff.mpr hrec.once, ?_, ?_⟩
  · intro x hx
    rw [hstore]
    exact (hrec.rows x.1 x.2).mpr (hperm.mem_iff.mp hx)
  · intro id hrow
    rw [hstore] at hrow
    obtain ⟨payload, hget⟩ := Option.isSome_iff_exists.mp hrow
    left
    exact List.mem_map.mpr ⟨(id, payload), hperm.mem_iff.mpr ((hrec.rows id payload).mp hget), rfl⟩

/-! ## The calls -/

/-- **Acks and nacks are idempotent** in a history of calls.
Source: `rollout-coordinator/src/drain.rs` `drain` ("nack is idempotent"). Kind: D -/
structure Idempotent (hist : List CallRecord) : Prop where
  /-- No item is ever ready twice. -/
  once : ∀ r ∈ hist, (r.pre.ready.map Prod.fst).Nodup ∧ (r.post.ready.map Prod.fst).Nodup
  /-- An item that was acknowledged is not delivered again. -/
  never_again : hist.Pairwise fun r r' => ∀ id, r.Acks id → ∀ payload, ¬ r'.Delivers id payload
  /-- A nack of an item that is ready changes nothing. -/
  ready_nack : ∀ r ∈ hist, ∀ id, r.call = .nack id → id ∈ r.pre.ready.map Prod.fst →
    r.post = r.pre

/-- **Careful calls are idempotent.** For any calls one after another on a queue that was opened on
rows of its own, each with any outcome of its operations and cut off anywhere: when no ack or nack
names an item that is ready, and the clock of every enqueue fits a ULID and is past the items the
queue was opened with, no item is ever ready twice, none is delivered after its ack, and a nack of a
ready item changes nothing.
Source: `rollout-cloud-local/src/queue.rs` `dequeue`, `ack`, `nack`. Kind: P -/
theorem careful_calls_idempotent (hitems : OnlyItems s.store) (hre : Reopens s s₀)
    {hist : List CallRecord} (hseq : CallSeq s₀ hist s')
    (hcareful : ∀ r ∈ hist, Careful s₀ r) : Idempotent hist := by
  have hall : Sound s₀ s' ∧ (∀ r ∈ hist, ∀ id, r.Acks id → Gone s₀ s' id) ∧ Idempotent hist := by
    induction hseq with
    | nil =>
        exact ⟨sound_of_reopens hitems hre, fun _ h => absurd h List.not_mem_nil,
          fun _ h => absurd h List.not_mem_nil, List.Pairwise.nil,
            fun _ h => absurd h List.not_mem_nil⟩
    | @snoc hist s hseq call outcomes ih =>
        obtain ⟨hsound, hgone, hidem⟩ := ih fun r hr => hcareful r (List.mem_append_left _ hr)
        let last : CallRecord := ⟨call, outcomes, s⟩
        have hlast : Careful s₀ last :=
          hcareful last (List.mem_append_right _ (List.mem_singleton.mpr rfl))
        obtain ⟨hsound', hkeeps⟩ := careful_step (r := last) hsound hlast
        refine ⟨hsound', ?_, ?_, ?_, ?_⟩
        · intro r hr id hack
          rcases List.mem_append.mp hr with hr | hr
          · exact hkeeps id (hgone r hr id hack)
          · obtain rfl := List.mem_singleton.mp hr
            exact gone_of_acks hsound hack
        · intro r hr
          rcases List.mem_append.mp hr with hr | hr
          · exact hidem.once r hr
          · obtain rfl := List.mem_singleton.mp hr
            exact ⟨hsound.once, hsound'.once⟩
        · rw [List.pairwise_append]
          refine ⟨hidem.never_again, List.pairwise_singleton _ _, ?_⟩
          intro r hr r' hr' id hack payload
          obtain rfl := List.mem_singleton.mp hr'
          exact not_delivers_of_gone (r := last) hsound (hgone r hr id hack) payload
        · intro r hr id hcall hready
          rcases List.mem_append.mp hr with hr | hr
          · exact hidem.ready_nack r hr id hcall hready
          · obtain rfl := List.mem_singleton.mp hr
            obtain rfl : call = .nack id := hcall
            exact absurd hready hlast
  exact hall.2.2

end calls

/-! ## A second nack -/

section concrete

local instance : UlidGenerator := monotonicUlids

/-- Calls one after another whose operations all take effect.
Source: `rollout-cloud-local/src/queue.rs` `InMemQueue`. Kind: D -/
def callAll : List QueueCall → QueueState Unit → List CallRecord × QueueState Unit
  | [], s => ([], s)
  | call :: calls, s =>
      let outcomes := List.replicate 5 Outcome.done
      let rest := callAll calls (runOps call.prog outcomes s).2
      (⟨call, outcomes, s⟩ :: rest.1, rest.2)

theorem callSeq_callAll {s₀ s : QueueState Unit} {hist : List CallRecord} (h : CallSeq s₀ hist s)
    (calls : List QueueCall) :
    CallSeq s₀ (hist ++ (callAll calls s).1) (callAll calls s).2 := by
  induction calls generalizing hist s with
  | nil =>
      rw [callAll, List.append_nil]
      exact h
  | cons call calls ih =>
      rw [callAll, List.append_cons]
      exact ih (h.snoc call _)

/-- An empty queue. Source: `rollout-cloud-local/src/queue.rs` `open`. Kind: D -/
def emptyQueue : QueueState Unit := ⟨∅, fun _ => [], [], ⟨0⟩⟩

theorem reopens_emptyQueue : Reopens emptyQueue emptyQueue := by
  refine ⟨[], List.Perm.refl _, ?_⟩
  rw [replay, List.filterMap_nil, sortById, List.mergeSort_nil]
  rfl

theorem onlyItems_emptyQueue : OnlyItems emptyQueue.store := by
  intro key value hget
  rw [emptyQueue, KV.get_empty] at hget
  cases hget

/-- The identifier of an item enqueued at 5 ms. Source: none: infrastructure. Kind: D -/
def firstId : Ulid := ⟨BitVec.ofNat 128 (5 * 2 ^ 80)⟩

/-- An item is taken, given back and taken again before it is acknowledged.
Source: none: infrastructure. Kind: D -/
def carefulCalls : List QueueCall :=
  [.enqueue 5 (0 : BitVec 80) [1], .dequeue, .nack firstId, .dequeue, .ack firstId, .nack firstId,
    .dequeue]

/-- `careful_calls_idempotent` at these calls. Source: `rollout-cloud-local/src/queue.rs` `nack`.
Kind: C -/
theorem careful_calls_idempotent_taken_twice :
    (callAll carefulCalls emptyQueue).1.length = 7 ∧
      Idempotent (callAll carefulCalls emptyQueue).1 := by
  refine ⟨rfl, careful_calls_idempotent onlyItems_emptyQueue reopens_emptyQueue
    (callSeq_callAll .nil carefulCalls) ?_⟩
  have hcareful : ((callAll carefulCalls emptyQueue).1.all fun r => Careful emptyQueue r) = true := by
    decide +kernel
  exact fun r hr => of_decide_eq_true (List.all_eq_true.mp hcareful r hr)

/-- An item that is given back twice, as by a drain that nacks what has been nacked already.
Source: `rollout-coordinator/src/drain.rs` `drain` (`in_flight`). Kind: D -/
def doubleNack : List QueueCall :=
  [.enqueue 5 (0 : BitVec 80) [1], .dequeue, .nack firstId, .nack firstId, .dequeue, .ack firstId,
    .dequeue]

/-- A second nack makes an item ready twice, and the copy is delivered after the ack.
Source: `rollout-cloud-local/src/queue.rs` `nack`. Kind: C -/
theorem second_nack_delivers_again :
    ∃ (s s₀ s' : QueueState Unit) (hist : List CallRecord), OnlyItems s.store ∧ Reopens s s₀ ∧
      CallSeq s₀ hist s' ∧ (∃ r ∈ hist, ¬ (r.post.ready.map Prod.fst).Nodup) ∧
      ∃ before r r' id payload, hist = before ++ [r, r'] ∧ r.Acks id ∧ r'.Delivers id payload := by
  refine ⟨_, _, _, _, onlyItems_emptyQueue, reopens_emptyQueue,
    callSeq_callAll .nil doubleNack, ?_, ?_⟩
  · have htwice : ((callAll doubleNack emptyQueue).1.any
        fun r => ¬ (r.post.ready.map Prod.fst).Nodup) = true := by
      decide +kernel
    obtain ⟨r, hr, hnot⟩ := List.any_eq_true.mp htwice
    exact ⟨r, hr, of_decide_eq_true hnot⟩
  · refine ⟨(callAll doubleNack emptyQueue).1.take 5, _, _, firstId, [1], rfl, ⟨rfl, ?_, ?_⟩, rfl,
    ?_⟩
    · decide +kernel
    · decide +kernel
    · decide +kernel

end concrete

end Rollout.CloudLocal
