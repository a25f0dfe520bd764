import Rollout.CloudLocal.Queue
import Rollout.Lib.StableSort

/-!
# The local queue over restarts

Over any number of lives, each with any calls in any interleaving and cut off between any two
operations:

* the ready deque of a reopened queue holds what was enqueued and not acknowledged since, each item
  once and with its payload;
* under a clock that does not go back and that advances over a restart, in the order the enqueues
  drew their identifiers.

`Books` keeps the account of a history by the calls alone: what was drawn, and what is enqueued and
not acknowledged. `Recorded` ties it to the rows. An identifier is put only by the one caller that
drew it (`Books.apart`), which is what a caller needs to know of the others.
-/

set_option linter.unusedSectionVars false

namespace Rollout.CloudLocal

open Rollout.Lib Rollout.Core
open Rollout.Batch (keyFor keyFor_inj replayed sortById)

section generator

variable [UlidGenerator] {ι : Type} [DecidableEq ι]

/-! ## The account of a history -/

/-- What was drawn, and what was enqueued and not acknowledged since.
Source: `rollout-cloud-local/src/queue.rs` `InMemQueue`. Kind: D -/
structure Books (ι : Type) where
  /-- What each caller of this life has drawn. -/
  drawn : ι → Option Ulid
  /-- All that was drawn, in order. -/
  ids : List Ulid
  /-- What was enqueued and not acknowledged, in the order of the commits. -/
  items : List (Ulid × Bytes)

namespace Books

/-- Nothing has happened. Source: none: infrastructure. Kind: D -/
def empty : Books ι := ⟨fun _ => none, [], []⟩

/-- A caller has drawn an identifier. Source: none: infrastructure. Kind: D -/
def draw (b : Books ι) (i : ι) (id : Ulid) : Books ι :=
  { b with drawn := Function.update b.drawn i (some id), ids := b.ids ++ [id] }

/-- A commit of a caller took effect. Source: none: infrastructure. Kind: D -/
def book (b : Books ι) (i : ι) : QueueCall → Books ι
  | .enqueue _ _ payload =>
      match b.drawn i with
      | some id => { b with items := b.items ++ [(id, payload)] }
      | none => b
  | .dequeue => b
  | .ack id => { b with items := b.items.filter fun x => x.1 ≠ id }
  | .nack _ => b

/-- The account after an event of a life with these calls.
Source: none: infrastructure. Kind: D -/
def extend (calls : ι → QueueCall) (b : Books ι) : QueueEvent ι → Books ι
  | ⟨i, .generate .., .ok id, _, _⟩ => b.draw i id
  | ⟨i, .commit, .done, _, _⟩ => b.book i (calls i)
  | ⟨i, .commit, .lost _, _, _⟩ => b.book i (calls i)
  | _ => b

/-- A new life: nobody has drawn anything in it. Source: none: infrastructure. Kind: D -/
def restart (b : Books ι) : Books ι := { b with drawn := fun _ => none }

end Books

/-- The account of some lives. Source: none: infrastructure. Kind: D -/
def booked (lives : List ((ι → QueueCall) × List (QueueEvent ι))) : Books ι :=
  lives.foldl (fun b life => life.2.foldl (Books.extend life.1) b.restart) .empty

/-! ## The rows -/

/-- **The rows are the items of the account**, and nothing else is in their namespace.
Source: `rollout-cloud-local/src/queue.rs`. Kind: D -/
structure Recorded (s : QueueState ι) (b : Books ι) : Prop where
  rows : ∀ id payload, s.store.get (keyFor id) = some payload ↔ (id, payload) ∈ b.items
  only : ∀ key value, s.store.get key = some value → key.ns = "cloudlocal_queue" →
    ∃ id, key = keyFor id
  once : (b.items.map Prod.fst).Nodup
  known : ∀ x ∈ b.items, x.1 ∈ b.ids

/-- What the callers of a life have drawn is their own. Source: none: infrastructure. Kind: D -/
structure Books.Apart (b : Books ι) : Prop where
  mem : ∀ i id, b.drawn i = some id → id ∈ b.ids
  inj : ∀ i j id, b.drawn i = some id → b.drawn j = some id → i = j

/-- A caller has drawn `id` and nobody has enqueued it. Source: none: infrastructure. Kind: D -/
def Books.Fresh (b : Books ι) (id : Ulid) : Prop := id ∉ b.items.map Prod.fst

/-- What a caller has staged when it commits.
Source: `rollout-cloud-local/src/queue.rs` `enqueue`, `ack`. Kind: D -/
def Staged (call : QueueCall) (i : ι) (s : QueueState ι) (b : Books ι) : Prop :=
  match call with
  | .enqueue _ _ payload =>
      ∃ id, b.drawn i = some id ∧ s.staged i = [(keyFor id, some payload)] ∧
        (b.ids.Nodup → b.Fresh id)
  | .dequeue => False
  | .ack id => s.staged i = [(keyFor id, none)]
  | .nack _ => False

theorem ns_keyFor (id : Ulid) : (keyFor id).ns = "cloudlocal_queue" := rfl

/-- Rows of other namespaces do not matter. Source: none: infrastructure. Kind: L -/
theorem Recorded.congr {s s' : QueueState ι} {b b' : Books ι} (h : Recorded s b)
    (hstore : ∀ key, key.ns = "cloudlocal_queue" → s'.store.get key = s.store.get key)
    (hitems : b'.items = b.items) (hids : ∀ id ∈ b.ids, id ∈ b'.ids) : Recorded s' b' := by
  refine ⟨fun id payload => ?_, fun key value hget hns => ?_, ?_, fun x hx => ?_⟩
  · rw [hstore _ (ns_keyFor id), hitems]
    exact h.rows id payload
  · rw [hstore _ hns] at hget
    exact h.only key value hget hns
  · rw [hitems]
    exact h.once
  · rw [hitems] at hx
    exact hids _ (h.known x hx)

/-- **A commit keeps the rows and the account together.**
Source: `rollout-cloud-local/src/queue.rs` `enqueue`, `ack`. Kind: P -/
theorem Recorded.commit {s : QueueState ι} {b : Books ι} {i : ι} {call : QueueCall}
    (h : Recorded s b) (hnodup : b.ids.Nodup) (hapart : b.Apart) (hstaged : Staged call i s b) :
    Recorded (s.commit i) (b.book i call) := by
  cases call with
  | enqueue now src payload =>
      obtain ⟨id, hdrawn, hst, hfresh⟩ := hstaged
      have hfresh := hfresh hnodup
      have hbook : b.book i (.enqueue now src payload) = { b with items := b.items ++ [(id, payload)] } := by
        simp only [Books.book, hdrawn]
      have hstore : (s.commit i).store = s.store.put (keyFor id) payload := by
        simp only [QueueState.commit, hst]
        rfl
      rw [hbook]
      refine ⟨fun id' p => ?_, fun key value hget hns => ?_, ?_, fun x hx => ?_⟩
      · rw [hstore, KV.get_put, List.mem_append, List.mem_singleton, Prod.mk.injEq]
        by_cases hid : id' = id
        · subst hid
          have hnot : (id', p) ∉ b.items := fun hmem => hfresh (List.mem_map_of_mem hmem)
          rw [if_pos rfl, Option.some.injEq]
          exact ⟨fun hp => .inr ⟨rfl, hp.symm⟩, fun hp => (hp.resolve_left hnot).2.symm⟩
        · rw [if_neg (by simpa using hid), h.rows]
          exact ⟨.inl, fun hp => hp.resolve_right fun hp => hid hp.1⟩
      · rw [hstore, KV.get_put] at hget
        split at hget
        · next hkey => exact ⟨id, hkey⟩
        · exact h.only key value hget hns
      · rw [List.map_append, List.nodup_append]
        refine ⟨h.once, List.nodup_singleton _, fun a ha c hc => ?_⟩
        rintro rfl
        obtain rfl : a = id := List.mem_singleton.mp hc
        exact hfresh ha
      · rcases List.mem_append.mp hx with hx | hx
        · exact h.known x hx
        · rw [List.mem_singleton.mp hx]
          exact hapart.mem i id hdrawn
  | dequeue => exact hstaged.elim
  | ack id =>
      have hstaged : s.staged i = [(keyFor id, none)] := hstaged
      have hstore : (s.commit i).store = s.store.del (keyFor id) := by
        simp only [QueueState.commit, hstaged]
        rfl
      refine ⟨fun id' p => ?_, fun key value hget hns => ?_, ?_, fun x hx => ?_⟩
      · rw [hstore, KV.get_del, Books.book, List.mem_filter, decide_eq_true_eq]
        by_cases hid : id' = id
        · rw [if_pos (by rw [hid])]
          exact ⟨fun hp => (by cases hp), fun hp => absurd hid hp.2⟩
        · rw [if_neg (by simpa using hid), h.rows]
          exact ⟨fun hp => ⟨hp, hid⟩, And.left⟩
      · rw [hstore, KV.get_del] at hget
        split at hget
        · cases hget
        · exact h.only key value hget hns
      · exact h.once.sublist ((List.filter_sublist).map Prod.fst)
      · exact h.known x (List.mem_filter.mp hx).1
  | nack id => exact hstaged.elim

/-! ## Every life -/

/-- What a caller expects of the others: they leave its transaction and its draw alone, and do not
enqueue its identifier. Source: none: infrastructure. Kind: D -/
structure Others (i : ι) (s : QueueState ι) (b : Books ι) (s' : QueueState ι) (b' : Books ι) :
    Prop where
  staged : s'.staged i = s.staged i
  drawn : b'.drawn i = b.drawn i
  ids : b.ids <+: b'.ids
  fresh : b'.ids.Nodup → ∀ id, b.drawn i = some id → b.Fresh id → b'.Fresh id

theorem Others.refl (i : ι) (s : QueueState ι) (b : Books ι) : Others i s b s b :=
  ⟨rfl, rfl, List.prefix_rfl, fun _ _ _ h => h⟩

theorem Others.trans {i : ι} {s s' s'' : QueueState ι} {b b' b'' : Books ι}
    (h : Others i s b s' b') (h' : Others i s' b' s'' b'') : Others i s b s'' b'' where
  staged := h'.staged.trans h.staged
  drawn := h'.drawn.trans h.drawn
  ids := h.ids.trans h'.ids
  fresh hnodup id hid hfresh :=
    h'.fresh hnodup id (h.drawn.trans hid) (h.fresh (hnodup.sublist h'.ids.sublist) id hid hfresh)

/-- The invariant of a life, as long as no identifier was drawn twice.
Source: none: infrastructure. Kind: D -/
def QueueInv (s : QueueState ι) (b : Books ι) : Prop := b.ids.Nodup → b.Apart ∧ Recorded s b

theorem Books.Apart.draw {b : Books ι} {i : ι} {id : Ulid} (h : b.Apart) (hid : id ∉ b.ids) :
    (b.draw i id).Apart := by
  have hdraw : ∀ j, j ≠ i → (b.draw i id).drawn j = b.drawn j := fun j hj =>
    Function.update_of_ne hj ..
  have hself : (b.draw i id).drawn i = some id := Function.update_self ..
  have hother : ∀ j, j ≠ i → (b.draw i id).drawn j ≠ some id := by
    intro j hj hsome
    rw [hdraw j hj] at hsome
    exact hid (h.mem j id hsome)
  refine ⟨fun j id' hj => ?_, fun j k id' hj hk => ?_⟩
  · by_cases hji : j = i
    · subst hji
      rw [hself, Option.some.injEq] at hj
      exact List.mem_append_right _ (List.mem_singleton.mpr hj.symm)
    · rw [hdraw j hji] at hj
      exact List.mem_append_left _ (h.mem j id' hj)
  · by_cases hji : j = i
    · subst hji
      by_contra hne
      obtain rfl : id = id' := Option.some.inj (hself.symm.trans hj)
      exact hother k (Ne.symm hne) hk
    · by_cases hki : k = i
      · subst hki
        obtain rfl : id = id' := Option.some.inj (hself.symm.trans hk)
        exact absurd hj (hother j hji)
      · rw [hdraw j hji] at hj
        rw [hdraw k hki] at hk
        exact h.inj j k id' hj hk

theorem Books.book_drawn (b : Books ι) (i : ι) (call : QueueCall) :
    (b.book i call).drawn = b.drawn ∧ (b.book i call).ids = b.ids := by
  cases call with
  | enqueue now src payload =>
      simp only [Books.book]
      split
      · exact ⟨rfl, rfl⟩
      · exact ⟨rfl, rfl⟩
  | _ => exact ⟨rfl, rfl⟩

/-- **All an event can be**: a draw, a commit that took effect, or nothing for the account.
Source: `rollout-cloud-local/src/queue.rs`. Kind: L -/
theorem event_cases (calls : ι → QueueCall) {e : QueueEvent ι} (h : (queueMachine ι).Does e)
    (b : Books ι) :
    (∃ id, b.extend calls e = b.draw e.who id ∧ e.post.store = e.pre.store ∧
      e.post.staged = e.pre.staged) ∨
    (e.op = .commit ∧ b.extend calls e = b.book e.who (calls e.who) ∧
      e.post = e.pre.commit e.who) ∨
    (b.extend calls e = b ∧ e.post.store = e.pre.store ∧
      ∀ j, j ≠ e.who → e.post.staged j = e.pre.staged j) := by
  obtain ⟨i, o, r, s, s'⟩ := e
  obtain ⟨outcome, hperf⟩ := h
  have hperf : perform outcome i s o = (r, s') := Option.some.inj hperf
  have hstage : ∀ writes, ∀ j, j ≠ i → (outcome.after s (s.stage i writes)).staged j = s.staged j := by
    intro writes j hj
    cases outcome with
    | done => exact Function.update_of_ne hj ..
    | failed e => rfl
    | lost e => rfl
  have hstore : ∀ writes, (outcome.after s (s.stage i writes)).store = s.store := by
    intro writes
    cases outcome <;> rfl
  cases o with
  | generate now src =>
      simp only [perform] at hperf
      split at hperf
      · next id gen _ =>
        obtain ⟨rfl, rfl⟩ := Prod.mk.inj hperf
        exact .inl ⟨id, rfl, rfl, rfl⟩
      · obtain ⟨rfl, rfl⟩ := Prod.mk.inj hperf
        exact .inr (.inr ⟨rfl, rfl, fun _ _ => rfl⟩)
  | commit =>
      obtain ⟨rfl, rfl⟩ := Prod.mk.inj hperf
      cases outcome with
      | failed e => exact .inr (.inr ⟨rfl, rfl, fun _ _ => rfl⟩)
      | done => exact .inr (.inl ⟨rfl, rfl, rfl⟩)
      | lost e => exact .inr (.inl ⟨rfl, rfl, rfl⟩)
  | begin =>
      obtain ⟨rfl, rfl⟩ := Prod.mk.inj hperf
      exact .inr (.inr ⟨rfl, hstore _, hstage _⟩)
  | putBytes key value =>
      obtain ⟨rfl, rfl⟩ := Prod.mk.inj hperf
      exact .inr (.inr ⟨rfl, hstore _, hstage _⟩)
  | delete key =>
      obtain ⟨rfl, rfl⟩ := Prod.mk.inj hperf
      exact .inr (.inr ⟨rfl, hstore _, hstage _⟩)
  | _ =>
      obtain ⟨rfl, rfl⟩ := Prod.mk.inj hperf
      exact .inr (.inr ⟨rfl, rfl, fun _ _ => rfl⟩)

/-- What a caller may issue. Source: `rollout-cloud-local/src/queue.rs`. Kind: D -/
def Allowed (calls : ι → QueueCall) (i : ι) (o : QueueOp) (s : QueueState ι) (b : Books ι) : Prop :=
  o = .commit → Staged (calls i) i s b

/-- What a commit leaves to the others. Source: `rollout-cloud-local/src/queue.rs` `enqueue`, `ack`.
Kind: L -/
theorem Staged.others {call : QueueCall} {i j : ι} {s : QueueState ι} {b : Books ι}
    (h : Staged call i s b) (hinv : QueueInv s b) (hj : j ≠ i) :
    Others j s b (s.commit i) (b.book i call) := by
  obtain ⟨hdrawn, hids⟩ := b.book_drawn i call
  refine ⟨rfl, by rw [hdrawn], by rw [hids], fun hnodup id hid hfresh => ?_⟩
  rw [hids] at hnodup
  cases call with
  | enqueue now src payload =>
      obtain ⟨id', hdrawn', -, -⟩ := h
      simp only [Books.book, hdrawn', Books.Fresh, List.map_append, List.map_singleton,
        List.mem_append, List.mem_singleton]
      rintro (hmem | rfl)
      · exact hfresh hmem
      · exact hj ((hinv hnodup).1.inj j i id hid hdrawn')
  | dequeue => exact h.elim
  | ack id' => exact fun hmem => hfresh (((List.filter_sublist).map Prod.fst).subset hmem)
  | nack id' => exact h.elim

/-- **The agreement between the callers of one life.** Source: none: infrastructure. Kind: D -/
def queueRules (calls : ι → QueueCall) : Discipline (queueMachine ι) (Books ι) where
  upd := Books.extend calls
  inv := QueueInv
  rely := Others
  pre := Allowed calls
  assume _ := True
  rely_refl := Others.refl
  rely_trans _ _ _ _ _ _ _ := Others.trans
  step := by
    intro e b hd _ hinv hpre
    rcases event_cases calls hd b with
      ⟨id, hb, hstore, hstaged⟩ | ⟨hop, hb, hpost⟩ | ⟨hb, hstore, hstaged⟩
    · rw [hb]
      refine ⟨fun hnodup => ?_, fun j hj => ?_⟩
      · obtain ⟨hids, -, hid⟩ := List.nodup_append.mp hnodup
        obtain ⟨hapart, hrec⟩ := hinv hids
        refine ⟨hapart.draw fun hmem => hid id hmem id (List.mem_singleton.mpr rfl) rfl, ?_⟩
        exact hrec.congr (fun key _ => by rw [hstore]) rfl fun _ => List.mem_append_left _
      · exact ⟨by rw [hstaged], Function.update_of_ne hj .., List.prefix_append ..,
        fun _ _ _ h => h⟩
    · have hstaged := hpre hop
      rw [hb, hpost]
      refine ⟨fun hnodup => ?_, fun j hj => hstaged.others hinv hj⟩
      obtain ⟨hdrawn, hids⟩ := b.book_drawn e.who (calls e.who)
      rw [hids] at hnodup
      obtain ⟨hapart, hrec⟩ := hinv hnodup
      refine ⟨⟨?_, ?_⟩, hrec.commit hnodup hapart hstaged⟩
      · rw [hdrawn, hids]
        exact hapart.mem
      · rw [hdrawn]
        exact hapart.inj
    · rw [hb]
      refine ⟨fun hnodup => ?_, fun j hj => ⟨hstaged j hj, rfl, List.prefix_rfl, fun _ _ _ h => h⟩⟩
      obtain ⟨hapart, hrec⟩ := hinv hnodup
      exact ⟨hapart, hrec.congr (fun key _ => by rw [hstore]) rfl fun _ h => h⟩
  tick := by
    rintro ⟨w, hw⟩ s b hinv
    refine ⟨fun hnodup => ?_, fun j => ⟨rfl, rfl, List.prefix_rfl, fun _ _ _ h => h⟩⟩
    obtain ⟨hapart, hrec⟩ := hinv hnodup
    refine ⟨hapart, hrec.congr (fun key hkey => ?_) rfl fun _ h => h⟩
    exact KV.get_set_of_ne _ _ _ _ fun heq => hw (heq ▸ hkey)

/-- A caller has drawn the identifier it is about to enqueue, and nobody has enqueued it.
Source: `rollout-cloud-local/src/queue.rs` `enqueue`. Kind: D -/
structure Mine (i : ι) (id : Ulid) (b : Books ι) : Prop where
  drawn : b.drawn i = some id
  fresh : b.ids.Nodup → b.Fresh id

theorem Mine.others {i : ι} {id : Ulid} {s s' : QueueState ι} {b b' : Books ι} (h : Mine i id b)
    (hr : Others i s b s' b') : Mine i id b' :=
  ⟨hr.drawn.trans h.drawn, fun hnodup =>
    hr.fresh hnodup id h.drawn (h.fresh (hnodup.sublist hr.ids.sublist))⟩

section statements

variable {i : ι} {s s' : QueueState ι}

theorem staged_of_ok {outcome : Outcome} {writes : List (StorageKey × Option Bytes)}
    (h : outcome.toExcept () = .ok ()) :
    (outcome.after s (s.stage i writes)).staged i = writes := by
  cases outcome with
  | done => exact Function.update_self ..
  | failed e => cases h
  | lost e => cases h

theorem staged_of_begin (h : (queueMachine ι).Does ⟨i, .begin, .ok (), s, s'⟩) :
    s'.staged i = [] := by
  obtain ⟨outcome, hperf⟩ := h
  obtain ⟨hr, hs⟩ := Prod.mk.inj (Option.some.inj hperf)
  exact (congrArg (fun s => s.staged i) hs).symm.trans (staged_of_ok hr)

theorem staged_of_put {key : StorageKey} {value : Bytes}
    (h : (queueMachine ι).Does ⟨i, .putBytes key value, .ok (), s, s'⟩) :
    s'.staged i = s.staged i ++ [(key, some value)] := by
  obtain ⟨outcome, hperf⟩ := h
  obtain ⟨hr, hs⟩ := Prod.mk.inj (Option.some.inj hperf)
  exact (congrArg (fun s => s.staged i) hs).symm.trans (staged_of_ok hr)

theorem staged_of_delete {key : StorageKey}
    (h : (queueMachine ι).Does ⟨i, .delete key, .ok (), s, s'⟩) :
    s'.staged i = s.staged i ++ [(key, none)] := by
  obtain ⟨outcome, hperf⟩ := h
  obtain ⟨hr, hs⟩ := Prod.mk.inj (Option.some.inj hperf)
  exact (congrArg (fun s => s.staged i) hs).symm.trans (staged_of_ok hr)

/-- What was drawn is new. Source: `rollout-cloud-local/src/queue.rs` `enqueue`. Kind: L -/
theorem mine_of_draw {b : Books ι} {id : Ulid} (hinv : QueueInv s b) : Mine i id (b.draw i id) := by
  refine ⟨Function.update_self .., fun hnodup hmem => ?_⟩
  obtain ⟨hids, -, hid⟩ := List.nodup_append.mp hnodup
  obtain ⟨x, hx, hxid⟩ := List.mem_map.mp hmem
  have hknown := (hinv hids).2.known x hx
  rw [hxid] at hknown
  exact hid id hknown id (List.mem_singleton.mpr rfl) rfl

end statements

variable {calls : ι → QueueCall} {i : ι}

/-- Source: `rollout-cloud-local/src/queue.rs` `enqueue`. Kind: P -/
theorem enqueue_safe {now : Nat} {src : UlidGenerator.Source} {payload : Bytes}
    (hcall : calls i = .enqueue now src payload) (s : QueueState ι) (b : Books ι) :
    (enqueue now src payload).Safe (queueRules calls) i (fun _ _ _ => True) s b := by
  refine Prog.Safe.call fun s b _ hinv => ⟨nofun, fun drawn s₁ _ _ _ => ?_⟩
  refine Prog.Safe.ofExcept_bind (fun _ _ _ => trivial) fun id hid => ?_
  obtain rfl : drawn = .ok id := by
    cases drawn with
    | ok id' => exact congrArg Except.ok (Except.ok.inj hid)
    | error e => cases hid
  have hmine : Mine i id (b.draw i id) := mine_of_draw hinv
  refine Prog.Safe.call fun s₂ b₂ hr₂ _ => ⟨nofun, fun begun s₃ hd₃ _ _ => ?_⟩
  have hmine := hmine.others hr₂
  refine Prog.Safe.ofExcept_bind (fun _ _ _ => trivial) fun _ hok => ?_
  subst hok
  have hstaged := staged_of_begin hd₃
  refine Prog.Safe.call fun s₄ b₄ hr₄ _ => ⟨nofun, fun staged s₅ hd₅ _ _ => ?_⟩
  have hmine := hmine.others hr₄
  refine Prog.Safe.ofExcept_bind (fun _ _ _ => trivial) fun _ hok => ?_
  subst hok
  have hstaged : s₅.staged i = [(keyFor id, some payload)] := by
    rw [staged_of_put hd₅, hr₄.staged, hstaged]
    rfl
  refine Prog.Safe.call fun s₆ b₆ hr₆ _ => ⟨fun _ => ?_, fun committed s₇ _ _ _ => ?_⟩
  · have hmine := hmine.others hr₆
    show Staged (calls i) i s₆ b₆
    rw [hcall]
    exact ⟨id, hmine.drawn, hr₆.staged.trans hstaged, hmine.fresh⟩
  · refine Prog.Safe.ofExcept_bind (fun _ _ _ => trivial) fun _ _ => ?_
    exact Prog.Safe.call fun _ _ _ _ => ⟨nofun, fun _ _ _ _ _ _ _ _ _ => trivial⟩

/-- Source: `rollout-cloud-local/src/queue.rs` `ack`. Kind: P -/
theorem ack_safe {id : Ulid} (hcall : calls i = .ack id) (s : QueueState ι) (b : Books ι) :
    (ack id).Safe (queueRules calls) i (fun _ _ _ => True) s b := by
  refine Prog.Safe.call fun s₂ b₂ _ _ => ⟨nofun, fun begun s₃ hd₃ _ _ => ?_⟩
  refine Prog.Safe.ofExcept_bind (fun _ _ _ => trivial) fun _ hok => ?_
  subst hok
  have hstaged := staged_of_begin hd₃
  refine Prog.Safe.call fun s₄ b₄ hr₄ _ => ⟨nofun, fun staged s₅ hd₅ _ _ => ?_⟩
  refine Prog.Safe.ofExcept_bind (fun _ _ _ => trivial) fun _ hok => ?_
  subst hok
  have hstaged : s₅.staged i = [(keyFor id, none)] := by
    rw [staged_of_delete hd₅, hr₄.staged, hstaged]
    rfl
  refine Prog.Safe.call fun s₆ b₆ hr₆ _ => ⟨fun _ => ?_, fun committed s₇ _ _ _ => ?_⟩
  · show Staged (calls i) i s₆ b₆
    rw [hcall]
    exact hr₆.staged.trans hstaged
  · exact Prog.Safe.of_issues (Prog.Issues.ofExcept (committed.toExcept ()))

/-- Source: `rollout-cloud-local/src/queue.rs` `InMemQueue`. Kind: P -/
theorem call_safe (calls : ι → QueueCall) (i : ι) (s : QueueState ι) (b : Books ι) :
    ((calls i).prog).Safe (queueRules calls) i (fun _ _ _ => True) s b := by
  cases hcall : calls i with
  | enqueue now src payload => exact enqueue_safe hcall s b
  | ack id => exact ack_safe hcall s b
  | dequeue =>
      refine Prog.Safe.of_issues ⟨fun _ _ _ => nofun, fun _ _ _ _ => trivial⟩
  | nack id =>
      refine Prog.Safe.of_issues ⟨fun _ _ _ => nofun, fun read _ _ _ => ?_⟩
      refine Prog.Issues.bind (p := Prog.ofExcept read) (Prog.Issues.ofExcept read) fun row => ?_
      cases row with
      | none => trivial
      | some payload => exact ⟨fun _ _ _ => nofun, fun _ _ _ _ => trivial⟩

/-! ## Opening the queue -/

theorem replayed_keyFor (x : Ulid × Bytes) : replayed (keyFor x.1, x.2) = some x := by
  have hread : Ulid.ofChars x.1.display.toUTF8.data.toList = some x.1 := by
    rw [Ulid.utf8_display, Ulid.ofChars_chars]
  simp only [replayed, keyFor, List.head?_cons, hread, Option.map_some]

theorem keyHasPrefix_openPrefix (key : StorageKey) :
    keyHasPrefix key openPrefix = true ↔ key.ns = "cloudlocal_queue" := by
  unfold keyHasPrefix openPrefix
  by_cases hns : key.ns = "cloudlocal_queue"
  · simp [hns]
  · simp [hns]

/-- The rows `open` scans are those of the items. Source: `rollout-cloud-local/src/queue.rs` `open`.
Kind: L -/
theorem Recorded.scan {s : QueueState ι} {b : Books ι} (h : Recorded s b) :
    (s.store.scan fun key => keyHasPrefix key openPrefix).Perm
      (b.items.map fun x => (keyFor x.1, x.2)) := by
  have hitems : (b.items.map fun x => (keyFor x.1, x.2)).Nodup := by
    refine List.Nodup.of_map Prod.fst ?_
    rw [List.map_map]
    have hkeys := h.once.map (f := keyFor) fun a c hac => keyFor_inj.mp hac
    rw [List.map_map] at hkeys
    exact hkeys
  refine (List.perm_ext_iff_of_nodup (List.Nodup.of_map _ (s.store.nodup_scan _)) hitems).mpr ?_
  rintro ⟨key, value⟩
  rw [KV.mem_scan, keyHasPrefix_openPrefix, List.mem_map]
  constructor
  · rintro ⟨hget, hns⟩
    obtain ⟨id, rfl⟩ := h.only key value hget hns
    exact ⟨(id, value), (h.rows id value).mp hget, rfl⟩
  · rintro ⟨⟨id, payload⟩, hmem, heq⟩
    obtain ⟨rfl, rfl⟩ := Prod.mk.inj heq
    exact ⟨(h.rows id payload).mpr hmem, rfl⟩

/-- **What `open` replays is what was enqueued and not acknowledged.**
Source: `rollout-cloud-local/src/queue.rs` `open`. Kind: P -/
theorem Recorded.replay {s s' : QueueState ι} {b : Books ι} (h : Recorded s b)
    (hre : Reopens s s') : s'.ready.Perm b.items := by
  obtain ⟨entries, hperm, rfl⟩ := hre
  have hall : (b.items.map fun x => (keyFor x.1, x.2)).filterMap replayed = b.items := by
    have hrow : replayed ∘ (fun x : Ulid × Bytes => (keyFor x.1, x.2)) = some := by
      funext x
      rw [Function.comp_apply, replayed_keyFor]
    rw [List.filterMap_map, hrow, List.filterMap_some]
  have hread := (hperm.trans h.scan).filterMap replayed
  rw [hall] at hread
  have hsort : (sortById (entries.filterMap replayed)).Perm (entries.filterMap replayed) :=
    List.mergeSort_perm ..
  exact hsort.trans hread

/-- **Lives keep the rows and the account together.** Source: none: infrastructure. Kind: D -/
def queueKeeps (ι : Type) [DecidableEq ι] : Reboot.Keeps (queueReboot ι) (Books ι) where
  agreed := queueRules
  durable s b := b.ids.Nodup → Recorded s b
  reset := Books.restart
  boot := by
    rintro s s' b calls hdur ⟨entries, -, rfl⟩
    refine ⟨fun hnodup => ⟨?_, ?_⟩, fun i => call_safe calls i _ _⟩
    · exact ⟨fun _ _ => nofun, fun _ _ _ => nofun⟩
    · exact (hdur hnodup).congr (fun _ _ => rfl) rfl fun _ h => h
  stop _ _ _ hinv hnodup := (hinv hnodup).2

/-! ## The order of the items -/

/-- The draw an event is: what the clock showed, and the identifier.
Source: `rollout-cloud-local/src/queue.rs` `enqueue`. Kind: D -/
def drawOf : QueueEvent ι → Option (Nat × Ulid)
  | ⟨_, .generate now _, .ok id, _, _⟩ => some (now, id)
  | _ => none

/-- The draws of a trace. Source: `rollout-cloud-local/src/queue.rs` `enqueue`. Kind: D -/
def draws (tr : List (QueueEvent ι)) : List (Nat × Ulid) := tr.filterMap drawOf

/-- **The clock** does not go back within a life, has advanced when the next one starts, and fits
the timestamp of a ULID. Source: none: infrastructure. Kind: D -/
structure ClockAdvances (lives : List ((ι → QueueCall) × List (QueueEvent ι))) : Prop where
  steady : ∀ life ∈ lives, ((draws life.2).map Prod.fst).Pairwise (· ≤ ·)
  onward : lives.Pairwise fun life later =>
    ∀ x ∈ draws life.2, ∀ y ∈ draws later.2, x.1 < y.1
  fits : ∀ life ∈ lives, ∀ x ∈ draws life.2, x.1 < 2 ^ 48

/-- The order of identifiers. Source: `rollout-cloud-local/src/queue.rs` (`ulid::Ulid`). Kind: D -/
def Below (a b : Ulid) : Prop := a.bits.toNat < b.bits.toNat

theorem below_of_timestamp {a b : Ulid} (h : timestampMs a < timestampMs b) : Below a b := by
  by_contra hle
  exact absurd (Nat.div_le_div_right (Nat.le_of_not_lt hle)) (Nat.not_le_of_lt h)

theorem gen_of_event {e : QueueEvent ι} (h : (queueMachine ι).Does e) :
    (∃ now src id, drawOf e = some (now, id) ∧
      UlidGenerator.generate now src e.pre.gen = .ok (id, e.post.gen)) ∨
    (drawOf e = none ∧ e.post.gen = e.pre.gen) := by
  obtain ⟨i, o, r, s, s'⟩ := e
  obtain ⟨outcome, hperf⟩ := h
  have hperf : perform outcome i s o = (r, s') := Option.some.inj hperf
  have hafter : ∀ t : QueueState ι, t.gen = s.gen → (outcome.after s t).gen = s.gen := by
    intro t ht
    cases outcome with
    | done => exact ht
    | failed e => rfl
    | lost e => rfl
  cases o with
  | generate now src =>
      simp only [perform] at hperf
      split at hperf
      · next id gen hgen =>
        obtain ⟨rfl, rfl⟩ := Prod.mk.inj hperf
        exact .inl ⟨now, src, id, rfl, hgen⟩
      · obtain ⟨rfl, rfl⟩ := Prod.mk.inj hperf
        exact .inr ⟨rfl, rfl⟩
  | commit =>
      obtain ⟨rfl, rfl⟩ := Prod.mk.inj hperf
      refine .inr ⟨rfl, ?_⟩
      cases outcome <;> rfl
  | begin =>
      obtain ⟨rfl, rfl⟩ := Prod.mk.inj hperf
      exact .inr ⟨rfl, hafter _ rfl⟩
  | putBytes key value =>
      obtain ⟨rfl, rfl⟩ := Prod.mk.inj hperf
      exact .inr ⟨rfl, hafter _ rfl⟩
  | delete key =>
      obtain ⟨rfl, rfl⟩ := Prod.mk.inj hperf
      exact .inr ⟨rfl, hafter _ rfl⟩
  | _ =>
      obtain ⟨rfl, rfl⟩ := Prod.mk.inj hperf
      exact .inr ⟨rfl, rfl⟩

/-- **What one generator has drawn so far**: it increases, and carries the time of the clock as long
as that does not go back. Source: `rollout-cloud-local/src/queue.rs` (`ulid::Generator`). Kind: D -/
structure Drew (xs : List (Nat × Ulid)) (g : UlidGenerator.Gen) : Prop where
  rising : (xs.map Prod.snd).Pairwise Below
  last : ∀ x ∈ xs, x.2.bits.toNat ≤ (UlidGenerator.previous g).bits.toNat
  timed : (xs.map Prod.fst).Pairwise (· ≤ ·) → (∀ x ∈ xs, timestampMs x.2 = x.1) ∧
      ∀ now, (∀ x ∈ xs, x.1 ≤ now) → timestampMs (UlidGenerator.previous g) ≤ now

theorem Drew.new : Drew [] UlidGenerator.new := by
  refine ⟨List.Pairwise.nil, fun _ => nofun, fun _ => ⟨fun _ => nofun, fun now _ => ?_⟩⟩
  unfold timestampMs
  rw [UlidGenerator.previous_new, Nat.zero_div]
  exact Nat.zero_le now

/-- One more draw. Source: `rollout-cloud-local/src/queue.rs` (`ulid::Generator`). Kind: L -/
theorem Drew.snoc {xs : List (Nat × Ulid)} {g g' : UlidGenerator.Gen} (h : Drew xs g) {now : Nat}
    {src : UlidGenerator.Source} {id : Ulid} (hfits : now < 2 ^ 48)
    (hgen : UlidGenerator.generate now src g = .ok (id, g')) : Drew (xs ++ [(now, id)]) g' := by
  have hprev := UlidGenerator.previous_generate hgen
  have hinc := UlidGenerator.increasing hgen hfits
  refine ⟨?_, fun x hx => ?_, fun hsteady => ?_⟩
  · rw [List.map_append, List.pairwise_append]
    refine ⟨h.rising, List.pairwise_singleton .., fun a ha c hc => ?_⟩
    obtain ⟨x, hx, rfl⟩ := List.mem_map.mp ha
    rw [List.mem_singleton.mp hc]
    exact Nat.lt_of_le_of_lt (h.last x hx) hinc
  · rw [hprev]
    rcases List.mem_append.mp hx with hx | hx
    · exact ((h.last x hx).trans_lt hinc).le
    · rw [List.mem_singleton.mp hx]
  · rw [List.map_append, List.pairwise_append] at hsteady
    obtain ⟨hbefore, hlast⟩ := h.timed hsteady.1
    have hself : (now, id) ∈ xs ++ [(now, id)] :=
      List.mem_append_right _ (List.mem_singleton.mpr rfl)
    have hreached := hlast now fun x hx =>
      hsteady.2.2 x.1 (List.mem_map_of_mem hx) now (List.mem_singleton.mpr rfl)
    have htime : timestampMs id = now := by
      rw [UlidGenerator.timestamp hgen hfits, max_eq_right hreached]
    refine ⟨fun x hx => ?_, fun bound hbound => ?_⟩
    · rcases List.mem_append.mp hx with hx | hx
      · exact hbefore x hx
      · rw [List.mem_singleton.mp hx]
        exact htime
    · rw [hprev, htime]
      exact hbound _ hself

/-- Source: `rollout-cloud-local/src/queue.rs` (`ulid::Generator`). Kind: P -/
theorem drew_run {calls : ι → QueueCall} {s : QueueState ι} {tr : List (QueueEvent ι)}
    {d : Config queueIface CoreError (QueueState ι) fun i => (calls i).Out}
    (hgen : s.gen = UlidGenerator.new)
    (h : Run (queueMachine ι) ⟨s, fun i => (calls i).prog⟩ tr d)
    (hfits : ∀ x ∈ draws tr, x.1 < 2 ^ 48) : Drew (draws tr) d.shared.gen := by
  induction h with
  | refl =>
      rw [hgen]
      exact Drew.new
  | tick _ _ ih => exact ih hfits
  | @step tr d i o k r s' _ _ hd ih =>
      unfold draws at hfits ⊢
      rw [List.filterMap_append] at hfits ⊢
      have ih := ih fun x hx => hfits x (List.mem_append_left _ hx)
      rcases gen_of_event hd with ⟨now, src, id, hdraw, hgen⟩ | ⟨hdraw, hgen⟩
      · rw [List.filterMap_cons_some hdraw] at hfits ⊢
        exact ih.snoc (hfits _ (List.mem_append_right _ List.mem_cons_self)) hgen
      · rw [List.filterMap_cons_none hdraw, List.filterMap_nil, List.append_nil]
        exact hgen ▸ ih

/-- The account of an event lists its draw. Source: none: infrastructure. Kind: L -/
theorem extend_ids (calls : ι → QueueCall) (b : Books ι) (e : QueueEvent ι) :
    (b.extend calls e).ids = b.ids ++ ((drawOf e).map Prod.snd).toList := by
  have hbook : ∀ i, (b.book i (calls i)).ids = b.ids ++ [] := fun i => by
    rw [List.append_nil]
    exact (b.book_drawn i _).2
  obtain ⟨i, o, r, s, s'⟩ := e
  cases o with
  | generate now src =>
      cases r with
      | ok id => rfl
      | error e => exact (List.append_nil _).symm
  | commit =>
      cases r with
      | failed e => exact (List.append_nil _).symm
      | done => exact hbook i
      | lost e => exact hbook i
  | _ => exact (List.append_nil _).symm

theorem foldl_ids (calls : ι → QueueCall) (b : Books ι) (tr : List (QueueEvent ι)) :
    (tr.foldl (Books.extend calls) b).ids = b.ids ++ (draws tr).map Prod.snd := by
  induction tr generalizing b with
  | nil => exact (List.append_nil _).symm
  | cons e tr ih =>
      rw [List.foldl_cons, ih, extend_ids, List.append_assoc]
      congr 1
      unfold draws
      cases hdraw : drawOf e with
      | none => rw [List.filterMap_cons_none hdraw]; rfl
      | some x => rw [List.filterMap_cons_some hdraw]; rfl

theorem booked_snoc (lives : List ((ι → QueueCall) × List (QueueEvent ι)))
    (life : (ι → QueueCall) × List (QueueEvent ι)) :
    (booked (lives ++ [life])).ids = (booked lives).ids ++ (draws life.2).map Prod.snd := by
  unfold booked
  rw [List.foldl_append]
  exact foldl_ids life.1 _ life.2

/-- **Over all lives, identifiers increase in the order they were drawn.**
Source: `rollout-cloud-local/src/queue.rs` `open`. Kind: P -/
theorem ids_rising {s₀ s : QueueState ι} {lives : List ((ι → QueueCall) × List (QueueEvent ι))}
    (h : (queueReboot ι).Lives s₀ lives s) (hclock : ClockAdvances lives) :
    (booked lives).ids.Pairwise Below ∧
      ∀ id ∈ (booked lives).ids, ∃ life ∈ lives, (timestampMs id, id) ∈ draws life.2 := by
  induction h with
  | nil => exact ⟨List.Pairwise.nil, fun _ => nofun⟩
  | @snoc lives s s' calls tr d _ hre hrun ih =>
      obtain ⟨entries, -, rfl⟩ := hre
      have honward := List.pairwise_append.mp hclock.onward
      have hself : (calls, tr) ∈ lives ++ [(calls, tr)] :=
        List.mem_append_right _ (List.mem_singleton.mpr rfl)
      obtain ⟨hrising, hdrawn⟩ := ih
        ⟨fun life hl => hclock.steady life (List.mem_append_left _ hl), honward.1,
          fun life hl => hclock.fits life (List.mem_append_left _ hl)⟩
      have hdrew := drew_run rfl hrun (hclock.fits _ hself)
      obtain ⟨htimed, -⟩ := hdrew.timed (hclock.steady _ hself)
      have hnew : ∀ id ∈ (draws tr).map Prod.snd, (timestampMs id, id) ∈ draws tr := by
        intro id hid
        obtain ⟨x, hx, rfl⟩ := List.mem_map.mp hid
        rw [htimed x hx]
        exact hx
      rw [booked_snoc, List.pairwise_append]
      refine ⟨⟨hrising, hdrew.rising, fun a ha c hc => ?_⟩, fun id hid => ?_⟩
      · obtain ⟨life, hlife, hmem⟩ := hdrawn a ha
        exact below_of_timestamp
          (honward.2.2 life hlife (calls, tr) (List.mem_singleton.mpr rfl) _ hmem _ (hnew c hc))
      · rcases List.mem_append.mp hid with hid | hid
        · obtain ⟨life, hlife, hmem⟩ := hdrawn id hid
          exact ⟨life, List.mem_append_left _ hlife, hmem⟩
        · exact ⟨_, hself, hnew id hid⟩

/-- The deque of a reopened queue is sorted. Source: `rollout-cloud-local/src/queue.rs` `open`
(`sort_by_key`). Kind: L -/
theorem Reopens.sorted {s s' : QueueState ι} (h : Reopens s s') :
    (s'.ready.map Prod.fst).Pairwise fun a b => a.bits.toNat ≤ b.bits.toNat := by
  obtain ⟨entries, -, rfl⟩ := h
  have htrans : ∀ a b c : Ulid × Bytes, decide (a.1.bits ≤ b.1.bits) = true →
      decide (b.1.bits ≤ c.1.bits) = true → decide (a.1.bits ≤ c.1.bits) = true := by
    intro a b c hab hbc
    exact decide_eq_true (BitVec.le_trans (of_decide_eq_true hab) (of_decide_eq_true hbc))
  have htotal : ∀ a b : Ulid × Bytes,
      (decide (a.1.bits ≤ b.1.bits) || decide (b.1.bits ≤ a.1.bits)) = true := by
    intro a b
    rw [Bool.or_eq_true, decide_eq_true_eq, decide_eq_true_eq]
    exact Nat.le_total ..
  rw [List.pairwise_map]
  exact (List.pairwise_mergeSort htrans htotal (entries.filterMap replayed)).imp of_decide_eq_true

/-- **The local queue survives restarts.** Over any number of lives that start on a storage without
rows of the queue, in each of which any calls run in any interleaving and are cut off between any
two operations, and whatever the storage answers: the deque of the reopened queue holds the items
whose enqueue committed and that no later committed acknowledgement removed, each once and with its
payload. Under a clock that does not go back and that advances over a restart they are in the order
in which their enqueues drew an identifier. It is taken that no ULID is drawn twice.
Source: `rollout-cloud-local/src/queue.rs` `open`, `enqueue`, `dequeue`, `ack`, `nack`. Kind: P -/
theorem queue_survives_restarts {s₀ s s' : QueueState ι}
    {lives : List ((ι → QueueCall) × List (QueueEvent ι))}
    (hempty : ∀ key, key.ns = "cloudlocal_queue" → s₀.store.get key = none)
    (hlives : (queueReboot ι).Lives s₀ lives s) (hre : Reopens s s')
    (hdistinct : (booked lives).ids.Nodup) :
    s'.ready.Perm (booked lives).items ∧ (s'.ready.map Prod.fst).Nodup ∧
      (ClockAdvances lives → (s'.ready.map Prod.fst).Sublist (booked lives).ids) := by
  have hstart : Recorded s₀ (Books.empty : Books ι) := by
    refine ⟨fun id payload => ?_, fun key value hget hns => ?_, List.nodup_nil, fun _ => nofun⟩
    · rw [hempty _ (ns_keyFor id)]
      exact ⟨nofun, nofun⟩
    · rw [hempty key hns] at hget
      cases hget
  have hrec : Recorded s (booked lives) :=
    (queueKeeps ι).sound hlives (fun _ => hstart) (fun _ _ _ _ => trivial) hdistinct
  have hperm := hrec.replay hre
  have honce : (s'.ready.map Prod.fst).Nodup := (hperm.map Prod.fst).nodup_iff.mpr hrec.once
  refine ⟨hperm, honce, fun hclock => ?_⟩
  have hknown : s'.ready.map Prod.fst ⊆ (booked lives).ids := by
    intro id hid
    obtain ⟨x, hx, rfl⟩ := List.mem_map.mp hid
    exact hrec.known x (hperm.mem_iff.mp hx)
  have : Std.Antisymm fun a b : Ulid => a.bits.toNat ≤ b.bits.toNat := by
    refine ⟨fun a b hab hba => ?_⟩
    exact congrArg Ulid.mk (BitVec.eq_of_toNat_eq (Nat.le_antisymm hab hba))
  exact List.sublist_of_subperm_of_pairwise (List.subperm_of_subset honce hknown) hre.sorted
    ((ids_rising hlives hclock).1.imp Nat.le_of_lt)

end generator

/-! ## Two lives -/

/-- The next identifier after `before`: one more as long as the clock has not passed it.
Source: `rollout-cloud-local/src/queue.rs` (`ulid::Generator::generate`). Kind: D -/
def nextUlid (now : Nat) (src : BitVec 80) (before : Ulid) : Except String (Ulid × Ulid) :=
  if now ≤ timestampMs before then
    if before.bits.toNat % 2 ^ 80 + 1 < 2 ^ 80 then
      .ok (⟨before.bits + 1⟩, ⟨before.bits + 1⟩)
    else .error "Ulid random bits would overflow"
  else
    let id : Ulid := ⟨BitVec.ofNat 128 (now % 2 ^ 48 * 2 ^ 80 + src.toNat)⟩
    .ok (id, id)

/-- Source: `rollout-cloud-local/src/queue.rs` (`ulid::Generator::generate`). Kind: L -/
theorem nextUlid_eq_ok {now : Nat} {src : BitVec 80} {before id after : Ulid}
    (h : nextUlid now src before = .ok (id, after)) :
    after = id ∧ (now < 2 ^ 48 → before.bits.toNat < id.bits.toNat ∧
      timestampMs id = max (timestampMs before) now) := by
  have hbefore := before.bits.isLt
  have hsrc := src.isLt
  unfold nextUlid at h
  split at h
  · next hle =>
    split at h
    · next hroom =>
      obtain ⟨rfl, rfl⟩ := Prod.mk.inj (Except.ok.inj h)
      have hnext : (before.bits + 1).toNat = before.bits.toNat + 1 := by
        rw [BitVec.toNat_add]
        exact Nat.mod_eq_of_lt (by show before.bits.toNat + 1 < 2 ^ 128; omega)
      refine ⟨rfl, fun _ => ⟨by rw [hnext]; omega, ?_⟩⟩
      rw [max_eq_left hle]
      unfold timestampMs
      rw [hnext]
      omega
    · cases h
  · next hlt =>
    obtain ⟨rfl, rfl⟩ := Prod.mk.inj (Except.ok.inj h)
    refine ⟨rfl, fun hfits => ?_⟩
    rw [max_eq_right (Nat.le_of_not_le hlt)]
    unfold timestampMs at hlt ⊢
    rw [BitVec.toNat_ofNat, Nat.mod_eq_of_lt hfits, Nat.mod_eq_of_lt (by omega)]
    omega

/-- The generator of the library. Source: `rollout-cloud-local/src/queue.rs` (`ulid::Generator`).
Kind: D -/
@[reducible] def monotonicUlids : UlidGenerator where
  Gen := Ulid
  Source := BitVec 80
  new := ⟨0⟩
  generate := nextUlid
  previous before := before
  previous_new := rfl
  previous_generate h := (nextUlid_eq_ok h).1
  increasing h hfits := ((nextUlid_eq_ok h).2 hfits).1
  timestamp h hfits := ((nextUlid_eq_ok h).2 hfits).2

section restarted

local instance : UlidGenerator := monotonicUlids

/-- The deque of a queue opened on what is left. Source: `rollout-cloud-local/src/queue.rs` `open`.
Kind: D -/
def reopened (s : QueueState (Fin 4)) : QueueState (Fin 4) :=
  ⟨s.store, fun _ => [], replay (s.store.scan fun key => keyHasPrefix key openPrefix), ⟨0⟩⟩

theorem reopens_reopened (s : QueueState (Fin 4)) : Reopens s (reopened s) :=
  ⟨_, List.Perm.refl _, rfl⟩

/-- Two enqueues in one millisecond, and the first item taken and acknowledged.
Source: none: infrastructure. Kind: D -/
def firstCalls : Fin 4 → QueueCall
  | 0 => .enqueue 5 (0 : BitVec 80) [1]
  | 1 => .enqueue 5 (0 : BitVec 80) [2]
  | 2 => .dequeue
  | 3 => .ack ⟨BitVec.ofNat 128 (5 * 2 ^ 80)⟩

/-- Two more enqueues. Source: none: infrastructure. Kind: D -/
def secondCalls : Fin 4 → QueueCall
  | 0 => .enqueue 6 (7 : BitVec 80) [3]
  | 1 => .enqueue 6 (0 : BitVec 80) [4]
  | _ => .dequeue

/-- One life under a schedule. Source: none: infrastructure. Kind: D -/
def live (s : QueueState (Fin 4)) (calls : Fin 4 → QueueCall) (callers : List (Fin 4)) :
    Option (List (QueueEvent (Fin 4)) × QueueState (Fin 4)) :=
  ((⟨reopened s, fun i => (calls i).prog⟩ :
    Config queueIface CoreError (QueueState (Fin 4)) fun i => (calls i).Out).play
      (callers.map fun i => (.step i .done : Move (queueMachine (Fin 4))))).map
    fun x => (x.1, x.2.shared)

theorem lives_live {s₀ s s' : QueueState (Fin 4)} {calls : Fin 4 → QueueCall}
    {callers : List (Fin 4)} {tr : List (QueueEvent (Fin 4))}
    {lives : List ((Fin 4 → QueueCall) × List (QueueEvent (Fin 4)))}
    (h : (queueReboot (Fin 4)).Lives s₀ lives s) (hlive : live s calls callers = some (tr, s')) :
    (queueReboot (Fin 4)).Lives s₀ (lives ++ [(calls, tr)]) s' := by
  obtain ⟨⟨tr', d⟩, hplay, heq⟩ := Option.map_eq_some_iff.mp hlive
  obtain ⟨rfl, rfl⟩ := Prod.mk.inj heq
  exact h.snoc (reopens_reopened s) (Config.play_run hplay)

/-- The second life is cut off before the commit of its second enqueue.
Source: none: infrastructure. Kind: D -/
def restarted : Option (List ((Fin 4 → QueueCall) × List (QueueEvent (Fin 4))) ×
    QueueState (Fin 4)) :=
  (live ⟨∅, fun _ => [], [], ⟨0⟩⟩ firstCalls [0, 0, 0, 0, 0, 1, 1, 1, 1, 1, 2, 3, 3, 3]).bind
    fun first => (live first.2 secondCalls [0, 0, 0, 0, 1, 1, 1, 0]).map
      fun second => ([(firstCalls, first.1), (secondCalls, second.1)], second.2)

theorem queue_survives_two_lives :
    ∃ (lives : List ((Fin 4 → QueueCall) × List (QueueEvent (Fin 4))))
      (s : QueueState (Fin 4)), (booked lives).ids.length = 4 ∧
      (booked lives).items.map Prod.snd = [[2], [3]] ∧
      (reopened s).ready.Perm (booked lives).items ∧
      ((reopened s).ready.map Prod.fst).Nodup ∧
      (ClockAdvances lives → ((reopened s).ready.map Prod.fst).Sublist (booked lives).ids) := by
  have hrestarted : restarted.map (fun x => decide ((booked x.1).ids.Nodup ∧
      (booked x.1).ids.length = 4 ∧ (booked x.1).items.map Prod.snd = [[2], [3]])) = some true := by
    decide +kernel
  obtain ⟨⟨lives, s⟩, hlived, hfacts⟩ := Option.map_eq_some_iff.mp hrestarted
  obtain ⟨hnodup, hlength, hitems⟩ := of_decide_eq_true hfacts
  obtain ⟨⟨tr, s₁⟩, hfirst, hrest⟩ := Option.bind_eq_some_iff.mp hlived
  obtain ⟨⟨tr', s₂⟩, hsecond, heq⟩ := Option.map_eq_some_iff.mp hrest
  obtain ⟨rfl, rfl⟩ := Prod.mk.inj heq
  have hlives := lives_live (lives_live (.nil) hfirst) hsecond
  exact ⟨_, _, hlength, hitems,
    queue_survives_restarts (fun _ _ => rfl) hlives (reopens_reopened _) hnodup⟩

end restarted

end Rollout.CloudLocal
