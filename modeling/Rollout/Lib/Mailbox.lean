import Mathlib.Data.List.Forall2
import Rollout.Lib.RelyGuarantee

/-!
# A worker behind a mailbox

* `Protocol` — the tasks clients send and what kind of answer each expects; `Worker` — what is done
  with a task: it is answered, or the worker ends.
* `State` — a bounded first-in first-out mailbox, and one reply channel for each task that was
  accepted. `perform` is what clients do: they send, and wait for the reply to what they sent. `turn`
  is what the worker does on its own: it takes the next task, and finishes the one it has. When it
  ends, what still waits is dropped.
* `Served` — a worker without a mailbox: tasks handled one after the other.
* `Sound` — the mailbox does to its clients what `Served` says: the tasks handled so far are the
  first ones that were accepted, each reply is on the channel of its own task, and everything else
  still waits, or is dropped. `served_of_run` says so of every interleaving.
* `sendAll`, `awaitAll` — a client that sends several tasks before it waits for the first reply.
* `finishes_of_run` — no client waits forever: the worker alone lets it go on.
* `ends_iff` — a worker that is left alone ends exactly when it has not handled a task that ends it.
-/

set_option linter.unusedSectionVars false

namespace Rollout.Lib.Mailbox

/-! ## Clients and the worker -/

/-- What clients may ask. Source: none: infrastructure. Kind: D -/
structure Protocol where
  /-- The tasks. -/
  Task : Type
  /-- The kinds of answers. -/
  Shape : Type
  /-- The answers of a kind. -/
  Answer : Shape → Type
  /-- The kind of answer a task is given. -/
  shape : Task → Shape

/-- An answer of some kind. Source: none: infrastructure. Kind: D -/
abbrev Protocol.Reply (P : Protocol) : Type := (sh : P.Shape) × P.Answer sh

/-- What the worker does with a task in its own state; without an answer it ends.
Source: none: infrastructure. Kind: D -/
structure Worker (P : Protocol) (σ : Type) where
  /-- What the environment decides. -/
  Choice : Type
  /-- The answer and the state after it. -/
  handle : Choice → (t : P.Task) → σ → Option (P.Answer (P.shape t)) × σ

variable {P : Protocol} {σ ι : Type}

/-- A reply channel, which is used once. Source: none: infrastructure. Kind: D -/
inductive Cell (P : Protocol)
  | waiting
  | answered (r : P.Reply)
  | dropped

/-- The mailbox, its reply channels and its worker. Source: none: infrastructure. Kind: D -/
structure State (P : Protocol) (σ : Type) where
  /-- How many tasks were accepted; the number of the next reply channel. -/
  next : Nat
  /-- The tasks that were not taken yet, each with its reply channel. -/
  queue : List (P.Task × Nat)
  /-- The task the worker has taken. -/
  busy : Option (P.Task × Nat)
  /-- The reply channels. -/
  cells : Nat → Cell P
  /-- The worker has ended. -/
  closed : Bool
  /-- What the worker works on. -/
  world : σ

/-- An empty mailbox. Source: none: infrastructure. Kind: D -/
def State.fresh (w : σ) : State P σ := ⟨0, [], none, fun _ => .waiting, false, w⟩

/-- A task is put into the mailbox. Source: none: infrastructure. Kind: D -/
def State.push (s : State P σ) (t : P.Task) : State P σ :=
  { s with next := s.next + 1, queue := s.queue ++ [(t, s.next)] }

/-- What was accepted and is not answered. Source: none: infrastructure. Kind: D -/
def State.pending (s : State P σ) : List (P.Task × Nat) := s.busy.toList ++ s.queue

/-- What clients do. Source: none: infrastructure. Kind: D -/
inductive Op (P : Protocol)
  | send (t : P.Task)
  | await (sh : P.Shape) (k : Nat)

/-- What they get: the reply channel of the task, and from a reply channel the answer, unless it was
dropped. Source: none: infrastructure. Kind: D -/
@[reducible] def Op.Resp : Op P → Type
  | .send _ => Option Nat
  | .await sh _ => Option (P.Answer sh)

/-- Their interface. Source: none: infrastructure. Kind: D -/
@[reducible] def iface (P : Protocol) : Iface := ⟨Op P, Op.Resp⟩

/-- The answer in a reply of this kind. Source: none: infrastructure. Kind: D -/
def answerOf [DecidableEq P.Shape] (r : P.Reply) (sh : P.Shape) : Option (P.Answer sh) :=
  if h : r.1 = sh then some (h ▸ r.2) else none

theorem answerOf_eq_some [DecidableEq P.Shape] {r : P.Reply} {sh : P.Shape} {a : P.Answer sh} :
    answerOf r sh = some a ↔ r = ⟨sh, a⟩ := by
  obtain ⟨sh', a'⟩ := r
  unfold answerOf
  constructor
  · intro h
    split at h
    · next hsh =>
      subst hsh
      exact congrArg (Sigma.mk sh') (Option.some.inj h)
    · cases h
  · intro h
    cases h
    exact dif_pos rfl

/-- The effect of what a client does. A send waits for room and a wait for its reply, unless the
worker has ended. Source: none: infrastructure. Kind: D -/
def perform [DecidableEq P.Shape] (capacity : Nat) :
    (o : Op P) → State P σ → Option (o.Resp × State P σ)
  | .send t, s =>
      if s.closed then some (none, s)
      else if s.queue.length < capacity then some (some s.next, s.push t)
      else none
  | .await sh k, s =>
      match s.cells k with
      | .waiting => none
      | .answered r => (answerOf r sh).map fun a => (some a, s)
      | .dropped => some (none, s)

/-- What the worker does. Source: none: infrastructure. Kind: D -/
inductive Turn (Choice : Type)
  | take
  | finish (ch : Choice)

/-- Some reply channels are dropped. Source: none: infrastructure. Kind: D -/
def drop (cells : Nat → Cell P) (ks : List Nat) : Nat → Cell P :=
  fun k => if k ∈ ks then .dropped else cells k

/-- The worker takes the next task, unless it has one. Source: none: infrastructure. Kind: D -/
def State.take (s : State P σ) : State P σ :=
  match s.busy, s.queue with
  | none, m :: rest => { s with busy := some m, queue := rest }
  | _, _ => s

/-- The worker finishes the task it has, if any. When it ends, what waits is dropped.
Source: none: infrastructure. Kind: D -/
def State.finish (W : Worker P σ) (ch : W.Choice) (s : State P σ) : State P σ :=
  match s.busy with
  | none => s
  | some (t, k) =>
      match W.handle ch t s.world with
      | (some a, w) =>
          { s with busy := none, cells := Function.update s.cells k (.answered ⟨_, a⟩), world := w }
      | (none, w) =>
          { s with
            busy := none
            queue := []
            cells := drop s.cells (k :: s.queue.map Prod.snd)
            closed := true
            world := w }

/-- The effect of what the worker does. Source: none: infrastructure. Kind: D -/
def turn (W : Worker P σ) : Turn W.Choice → State P σ → State P σ
  | .take, s => s.take
  | .finish ch, s => s.finish W ch

/-- **The mailbox as a machine.** The worker needs no client to act. Source: none: infrastructure.
Kind: D -/
@[reducible] def machine [DecidableEq P.Shape] (W : Worker P σ) (capacity : Nat) (ι : Type) :
    Machine (iface P) ι (State P σ) where
  Choice := Unit
  exec _ _ := perform capacity
  Tick := Turn W.Choice
  tick := turn W

/-! ## What the mailbox stands for -/

/-- **Tasks handled one after the other**, with the replies. Source: none: infrastructure. Kind: D -/
inductive Served (W : Worker P σ) (w₀ : σ) : List (P.Task × P.Reply) → σ → Prop
  | nil : Served W w₀ [] w₀
  | snoc {log : List (P.Task × P.Reply)} {w w' : σ} {ch : W.Choice} {t : P.Task}
      {a : P.Answer (P.shape t)} (h : Served W w₀ log w) (hhandle : W.handle ch t w = (some a, w')) :
      Served W w₀ (log ++ [(t, ⟨P.shape t, a⟩)]) w'

variable {W : Worker P σ} {w₀ : σ}

/-- A reply is of the kind of its task. Source: none: infrastructure. Kind: L -/
theorem Served.shape_eq {log : List (P.Task × P.Reply)} {w : σ} (h : Served W w₀ log w) :
    ∀ p ∈ log, p.2.1 = P.shape p.1 := by
  induction h with
  | nil => exact fun p hp => absurd hp List.not_mem_nil
  | snoc _ _ ih =>
      intro p hp
      rcases List.mem_append.mp hp with hp | hp
      · exact ih p hp
      · rw [List.mem_singleton.mp hp]

/-- What the worker did with a task it has handled. Source: none: infrastructure. Kind: L -/
theorem Served.handled {log : List (P.Task × P.Reply)} {w : σ} (h : Served W w₀ log w) {k : Nat}
    {t : P.Task} {r : P.Reply} (hk : log[k]? = some (t, r)) :
    ∃ w₁ ch a w₂, Served W w₀ (log.take k) w₁ ∧ W.handle ch t w₁ = (some a, w₂) ∧
      r = ⟨P.shape t, a⟩ := by
  induction h with
  | nil => cases hk
  | @snoc log w w' ch t' a hserved hhandle ih =>
      rcases Nat.lt_trichotomy k log.length with hlt | rfl | hgt
      · rw [List.getElem?_append_left hlt] at hk
        rw [List.take_append_of_le_length (Nat.le_of_lt hlt)]
        exact ih hk
      · rw [List.getElem?_concat_length] at hk
        obtain ⟨rfl, rfl⟩ := Prod.mk.inj (Option.some.inj hk)
        rw [List.take_left]
        exact ⟨w, ch, a, w', hserved, hhandle, rfl⟩
      · rw [List.getElem?_eq_none (by rw [List.length_append]; exact hgt)] at hk
        cases hk

/-- **What a mailbox is** after the tasks `g` were accepted, each with its sender, and those of `log`
were handled. Source: none: infrastructure. Kind: D -/
structure Sound (W : Worker P σ) (w₀ : σ) (s : State P σ) (g : List (ι × P.Task))
    (log : List (P.Task × P.Reply)) : Prop where
  /-- A reply channel for each task. -/
  next_eq : s.next = g.length
  /-- The tasks are handled in the order in which they were accepted. -/
  handled : log.map Prod.fst <+: g.map Prod.snd
  /-- Each reply is on the channel of its task. -/
  answered : ∀ k r, s.cells k = .answered r ↔ ∃ t, log[k]? = some (t, r)
  /-- Nothing is dropped while the worker runs; then everything is. -/
  dropped : ∀ k, s.cells k = .dropped ↔ s.closed = true ∧ log.length ≤ k ∧ k < s.next
  /-- While it runs, what is not handled waits. -/
  running : s.closed = false →
    s.pending = (g.map Prod.snd).zipIdx.drop log.length ∧ Served W w₀ log s.world
  /-- It ends at a task without an answer. -/
  ended : s.closed = true → s.pending = [] ∧ ∃ p w ch, g[log.length]? = some p ∧
    Served W w₀ log w ∧ W.handle ch p.2 w = (none, s.world)

variable {s s' : State P σ} {g : List (ι × P.Task)} {log : List (P.Task × P.Reply)}

theorem sound_fresh : Sound W w₀ (.fresh w₀) ([] : List (ι × P.Task)) [] where
  next_eq := rfl
  handled := List.prefix_refl _
  answered k r := by simp [State.fresh]
  dropped k := by simp [State.fresh]
  running _ := ⟨rfl, .nil⟩
  ended h := absurd h Bool.false_ne_true

/-- The first of the numbered elements that are left. Source: none: infrastructure. Kind: L -/
theorem drop_zipIdx_eq_cons {α : Type} {l : List α} {n k : Nat} {x : α} {rest : List (α × Nat)}
    (h : l.zipIdx.drop n = (x, k) :: rest) :
    k = n ∧ l[n]? = some x ∧ rest = l.zipIdx.drop (n + 1) := by
  have hlt : n < l.zipIdx.length := by
    by_contra hge
    rw [List.drop_eq_nil_of_le (Nat.not_lt.mp hge)] at h
    cases h
  rw [List.drop_eq_getElem_cons hlt] at h
  obtain ⟨hhead, hrest⟩ := List.cons.inj h
  rw [List.getElem_zipIdx] at hhead
  obtain ⟨hx, hk⟩ := Prod.mk.inj hhead
  rw [List.length_zipIdx] at hlt
  exact ⟨by omega, by rw [List.getElem?_eq_getElem hlt, hx], hrest.symm⟩

namespace Sound

/-- Tasks are accepted before they are handled. Source: none: infrastructure. Kind: L -/
theorem log_le (h : Sound W w₀ s g log) : log.length ≤ g.length := by
  have := h.handled.length_le
  rwa [List.length_map, List.length_map] at this

theorem served (h : Sound W w₀ s g log) : ∃ w, Served W w₀ log w := by
  cases hclosed : s.closed with
  | true =>
      obtain ⟨-, p, w, ch, -, hserved, -⟩ := h.ended hclosed
      exact ⟨w, hserved⟩
  | false => exact ⟨s.world, (h.running hclosed).2⟩

/-- A handled task and who sent it. Source: none: infrastructure. Kind: L -/
theorem sender (h : Sound W w₀ s g log) {k : Nat} {t : P.Task} {r : P.Reply}
    (hk : log[k]? = some (t, r)) {i : ι} {t' : P.Task} (hg : g[k]? = some (i, t')) : t' = t := by
  have hlog : (log.map Prod.fst)[k]? = some t := by rw [List.getElem?_map, hk]; rfl
  have hgot := List.prefix_iff_getElem?.mp h.handled
  obtain ⟨hlt, -⟩ := List.getElem?_eq_some_iff.mp hlog
  have hget := hgot k hlt
  rw [List.getElem?_map, hg] at hget
  rw [List.getElem?_eq_getElem hlt] at hlog
  exact Option.some.inj (hget.trans hlog)

/-- A task is accepted. Source: none: infrastructure. Kind: L -/
theorem push (h : Sound W w₀ s g log) (hopen : s.closed = false) (i : ι) (t : P.Task) :
    Sound W w₀ (s.push t) (g ++ [(i, t)]) log where
  next_eq := by
    rw [List.length_append]
    exact congrArg (· + 1) h.next_eq
  handled := by
    rw [List.map_append]
    exact h.handled.trans (List.prefix_append _ _)
  answered := h.answered
  dropped k := by
    rw [show (s.push t).cells k = s.cells k from rfl, h.dropped k,
      show (s.push t).closed = s.closed from rfl, hopen]
    simp
  running _ := by
    obtain ⟨hpending, hserved⟩ := h.running hopen
    refine ⟨?_, hserved⟩
    rw [List.map_append, List.zipIdx_append, List.drop_append_of_le_length, ← hpending]
    · show s.busy.toList ++ (s.queue ++ [(t, s.next)]) = _
      rw [← List.append_assoc, h.next_eq, List.length_map, Nat.zero_add]
      rfl
    · rw [List.length_zipIdx, List.length_map]
      exact h.log_le
  ended hclosed := absurd (hopen.symm.trans hclosed) Bool.false_ne_true

/-- The task the worker has is the first one that is not handled.
Source: none: infrastructure. Kind: L -/
theorem first (h : Sound W w₀ s g log) {t : P.Task} {k : Nat} {rest : List (P.Task × Nat)}
    (hpending : s.pending = (t, k) :: rest) :
    s.closed = false ∧ k = log.length ∧ (∃ i, g[log.length]? = some (i, t)) ∧
      rest = (g.map Prod.snd).zipIdx.drop (log.length + 1) := by
  cases hopen : s.closed with
  | true =>
      rw [(h.ended hopen).1] at hpending
      cases hpending
  | false =>
      obtain ⟨hk, ht, hrest⟩ := drop_zipIdx_eq_cons ((h.running hopen).1.symm.trans hpending)
      refine ⟨rfl, hk, ?_, hrest⟩
      rw [List.getElem?_map] at ht
      obtain ⟨⟨i, t'⟩, hget, rfl⟩ := Option.map_eq_some_iff.mp ht
      exact ⟨i, hget⟩

theorem take (h : Sound W w₀ s g log) : Sound W w₀ s.take g log := by
  unfold State.take
  split
  · next m rest hbusy hqueue =>
    have hpending : s.pending = m :: rest := by
      rw [State.pending, hbusy, hqueue]
      rfl
    exact ⟨h.next_eq, h.handled, h.answered, h.dropped,
      fun hopen => ⟨hpending.symm.trans (h.running hopen).1, (h.running hopen).2⟩,
      fun hclosed => ⟨hpending.symm.trans (h.ended hclosed).1, (h.ended hclosed).2⟩⟩
  · exact h

/-- A task is answered. Source: none: infrastructure. Kind: L -/
theorem answer (h : Sound W w₀ s g log) {ch : W.Choice} {t : P.Task} {k : Nat}
    (hbusy : s.busy = some (t, k)) {a : P.Answer (P.shape t)} {w : σ}
    (hhandle : W.handle ch t s.world = (some a, w)) :
    Sound W w₀ { s with
      busy := none
      cells := Function.update s.cells k (.answered ⟨_, a⟩)
      world := w } g (log ++ [(t, ⟨_, a⟩)]) := by
  have hpending : s.pending = (t, k) :: s.queue := by
    rw [State.pending, hbusy]
    rfl
  obtain ⟨hopen, rfl, ⟨i, hget⟩, hqueue⟩ := h.first hpending
  refine ⟨h.next_eq, ?_, fun k r => ?_, fun k => ?_, fun _ => ⟨?_, ?_⟩,
    fun hclosed => absurd (hopen.symm.trans hclosed) Bool.false_ne_true⟩
  · have htake := List.prefix_iff_eq_take.mp h.handled
    rw [List.length_map] at htake
    rw [List.map_append, htake, List.prefix_iff_eq_take, List.length_append, List.length_take,
      List.length_map, Nat.min_eq_left h.log_le]
    show _ = List.take (log.length + 1) _
    rw [List.take_add_one, List.getElem?_map, hget]
    rfl
  · show Function.update s.cells _ _ k = _ ↔ _
    rcases eq_or_ne k log.length with rfl | hk
    · rw [Function.update_self, List.getElem?_concat_length]
      constructor
      · intro heq
        exact ⟨t, by rw [Cell.answered.inj heq]⟩
      · rintro ⟨t', heq⟩
        rw [(Prod.mk.inj (Option.some.inj heq)).2]
    · rw [Function.update_of_ne hk, h.answered]
      have hsame : (log ++ [(t, (⟨P.shape t, a⟩ : P.Reply))])[k]? = log[k]? := by
        rcases Nat.lt_or_gt_of_ne hk with hlt | hgt
        · exact List.getElem?_append_left hlt
        · rw [List.getElem?_eq_none (Nat.le_of_lt hgt), List.getElem?_eq_none]
          rw [List.length_append]
          exact hgt
      rw [hsame]
  · show Function.update s.cells _ _ k = _ ↔ s.closed = true ∧ _
    rw [hopen]
    rcases eq_or_ne k log.length with rfl | hk
    · rw [Function.update_self]
      simp
    · rw [Function.update_of_ne hk, h.dropped, hopen]
      simp
  · rw [List.length_append]
    exact hqueue
  · exact (h.running hopen).2.snoc hhandle

/-- The worker ends. Source: none: infrastructure. Kind: L -/
theorem ending (h : Sound W w₀ s g log) {ch : W.Choice} {t : P.Task} {k : Nat}
    (hbusy : s.busy = some (t, k)) {w : σ} (hhandle : W.handle ch t s.world = (none, w)) :
    Sound W w₀ { s with
      busy := none
      queue := []
      cells := drop s.cells (k :: s.queue.map Prod.snd)
      closed := true
      world := w } g log := by
  have hpending : s.pending = (t, k) :: s.queue := by
    rw [State.pending, hbusy]
    rfl
  obtain ⟨hopen, rfl, ⟨i, hget⟩, hqueue⟩ := h.first hpending
  have hmem : ∀ k, k ∈ log.length :: s.queue.map Prod.snd ↔ log.length ≤ k ∧ k < s.next := by
    intro k
    rw [← List.map_cons (f := Prod.snd) (a := (t, log.length)), ← hpending, (h.running hopen).1,
      List.map_drop, List.zipIdx_map_snd, List.length_map, h.next_eq, List.drop_range']
    simp [List.mem_range'_1]
    have := h.log_le
    omega
  refine ⟨h.next_eq, h.handled, fun k r => ?_, fun k => ?_, fun hfalse => absurd hfalse (by simp),
    fun _ => ⟨rfl, (i, t), s.world, ch, hget, (h.running hopen).2, hhandle⟩⟩
  · show drop s.cells _ k = _ ↔ _
    unfold drop
    split
    · next hin =>
      have hle := ((hmem k).mp hin).1
      rw [List.getElem?_eq_none hle]
      simp
    · exact h.answered k r
  · show drop s.cells _ k = _ ↔ _
    unfold drop
    split
    · next hin => simp [(hmem k).mp hin]
    · next hout =>
      rw [h.dropped, hopen]
      simpa using fun hle => Nat.not_lt.mp fun hlt => hout ((hmem k).mpr ⟨hle, hlt⟩)

/-- **What the worker does keeps the mailbox sound.** Source: none: infrastructure. Kind: L -/
theorem turn (h : Sound W w₀ s g log) (t : Turn W.Choice) :
    ∃ log', Sound W w₀ (turn W t s) g log' ∧ log <+: log' := by
  cases t with
  | take => exact ⟨log, h.take, List.prefix_refl _⟩
  | finish ch =>
      rw [Mailbox.turn, State.finish]
      split
      · exact ⟨log, h, List.prefix_refl _⟩
      · next t k hbusy =>
        split
        · next a w hhandle => exact ⟨_, h.answer hbusy hhandle, List.prefix_append _ _⟩
        · next w hhandle => exact ⟨log, h.ending hbusy hhandle, List.prefix_refl _⟩

end Sound

/-! ## What clients agree on -/

/-- The task that an event puts into the mailbox, with its sender.
Source: none: infrastructure. Kind: D -/
def accepted (e : Event (iface P) ι (State P σ)) : Option (ι × P.Task) :=
  match e with
  | ⟨i, .send t, some _, _, _⟩ => some (i, t)
  | _ => none

/-- What becomes of a mailbox: tasks are added, an answer stays, and the worker does not come back.
Source: none: infrastructure. Kind: D -/
structure Later (s : State P σ) (g : List (ι × P.Task)) (s' : State P σ) (g' : List (ι × P.Task)) :
    Prop where
  tasks : g <+: g'
  answered : ∀ k r, s.cells k = .answered r → s'.cells k = .answered r
  closed : s.closed = true → s'.closed = true

/-- What stays true. Source: none: infrastructure. Kind: D -/
def Lasting (φ : State P σ → List (ι × P.Task) → Prop) : Prop :=
  ∀ s g s' g', Later s g s' g' → φ s g → φ s' g'

variable {g' : List (ι × P.Task)} {i : ι} {capacity : Nat}

theorem Later.refl (s : State P σ) (g : List (ι × P.Task)) : Later s g s g :=
  ⟨List.prefix_refl _, fun _ _ h => h, id⟩

theorem Later.trans {s'' : State P σ} {g'' : List (ι × P.Task)} (h : Later s g s' g')
    (h' : Later s' g' s'' g'') : Later s g s'' g'' :=
  ⟨h.tasks.trans h'.tasks, fun k r hk => h'.answered k r (h.answered k r hk),
    fun hclosed => h'.closed (h.closed hclosed)⟩

theorem later_push (s : State P σ) (g : List (ι × P.Task)) (i : ι) (t : P.Task) :
    Later s g (s.push t) (g ++ [(i, t)]) :=
  ⟨List.prefix_append _ _, fun _ _ h => h, id⟩

theorem Later.get (h : Later s g s' g') {k : Nat} {p : ι × P.Task} (hk : g[k]? = some p) :
    g'[k]? = some p := by
  obtain ⟨more, rfl⟩ := h.tasks
  rw [List.getElem?_append_left (List.getElem?_eq_some_iff.mp hk).1, hk]

/-- A reply is never taken back. Source: none: infrastructure. Kind: L -/
theorem Sound.later {log log' : List (P.Task × P.Reply)} (h : Sound W w₀ s g log)
    (h' : Sound W w₀ s' g log') (hlog : log <+: log') (hclosed : s.closed = true → s'.closed = true) :
    Later s g s' g where
  tasks := List.prefix_refl _
  answered k r hk := by
    obtain ⟨t, ht⟩ := (h.answered k r).mp hk
    obtain ⟨more, rfl⟩ := hlog
    rw [h'.answered]
    exact ⟨t, by rw [List.getElem?_append_left (List.getElem?_eq_some_iff.mp ht).1, ht]⟩
  closed := hclosed

theorem closed_turn (t : Turn W.Choice) (h : s.closed = true) : (turn W t s).closed = true := by
  cases t with
  | take =>
      rw [turn, State.take]
      split <;> exact h
  | finish ch =>
      rw [turn, State.finish]
      split
      · exact h
      · split
        · exact h
        · rfl

section machine

variable [DecidableEq P.Shape]

/-- All a send can be. Source: none: infrastructure. Kind: L -/
theorem does_send {t : P.Task} {r : Option Nat}
    (h : (machine W capacity ι).Does ⟨i, .send t, r, s, s'⟩) :
    r = none ∧ s.closed = true ∧ s' = s ∨
      r = some s.next ∧ s.closed = false ∧ s' = s.push t := by
  obtain ⟨_, hexec⟩ := h
  replace hexec : perform capacity (.send t) s = some (r, s') := hexec
  rw [perform] at hexec
  split at hexec
  · next hclosed =>
    obtain ⟨rfl, rfl⟩ := Prod.mk.inj (Option.some.inj hexec)
    exact .inl ⟨rfl, hclosed, rfl⟩
  · next hopen =>
    obtain ⟨-, hexec⟩ := Option.ite_none_right_eq_some.mp hexec
    obtain ⟨rfl, rfl⟩ := Prod.mk.inj (Option.some.inj hexec)
    exact .inr ⟨rfl, Bool.not_eq_true _ ▸ hopen, rfl⟩

/-- All a wait can be. Source: none: infrastructure. Kind: L -/
theorem does_await {sh : P.Shape} {k : Nat} {r : Option (P.Answer sh)}
    (h : (machine W capacity ι).Does ⟨i, .await sh k, r, s, s'⟩) :
    s' = s ∧ s.cells k = r.elim .dropped fun a => .answered ⟨sh, a⟩ := by
  obtain ⟨_, hexec⟩ := h
  replace hexec : perform capacity (.await sh k) s = some (r, s') := hexec
  rw [perform] at hexec
  split at hexec
  · cases hexec
  · next r' hcell =>
    obtain ⟨a, ha, heq⟩ := Option.map_eq_some_iff.mp hexec
    obtain ⟨rfl, rfl⟩ := Prod.mk.inj heq
    exact ⟨rfl, hcell.trans (congrArg Cell.answered (answerOf_eq_some.mp ha))⟩
  · next hcell =>
    obtain ⟨rfl, rfl⟩ := Prod.mk.inj (Option.some.inj hexec)
    exact ⟨rfl, hcell⟩

/-- **All a client can do**: it puts a task into the mailbox, or leaves it as it is.
Source: none: infrastructure. Kind: L -/
theorem does_cases {e : Event (iface P) ι (State P σ)} (h : (machine W capacity ι).Does e) :
    (∃ t, accepted e = some (e.who, t) ∧ e.pre.closed = false ∧ e.post = e.pre.push t) ∨
      accepted e = none ∧ e.post = e.pre := by
  obtain ⟨i, o, r, s, s'⟩ := e
  cases o with
  | send t =>
      rcases does_send h with ⟨rfl, -, rfl⟩ | ⟨rfl, hopen, rfl⟩
      · exact .inr ⟨rfl, rfl⟩
      · exact .inl ⟨t, rfl, hopen, rfl⟩
  | await sh k => exact .inr ⟨rfl, (does_await h).1⟩

theorem later_event {e : Event (iface P) ι (State P σ)} (h : (machine W capacity ι).Does e) :
    Later e.pre g e.post (g ++ (accepted e).toList) := by
  rcases does_cases h with ⟨t, hacc, -, hpost⟩ | ⟨hacc, hpost⟩
  · rw [hacc, hpost]
    exact later_push ..
  · rw [hacc, hpost, Option.toList_none, List.append_nil]
    exact .refl ..

variable (ι W w₀ capacity) in
/-- **The agreement of the clients**: each waits for replies to its own tasks only.
Source: none: infrastructure. Kind: D -/
def agreement : Discipline (machine W capacity ι) (List (ι × P.Task)) where
  upd g e := g ++ (accepted e).toList
  inv s g := ∃ log, Sound W w₀ s g log
  rely _ := Later
  pre i o _ g := ∀ sh k, o = .await sh k → ∃ t, g[k]? = some (i, t) ∧ P.shape t = sh
  assume _ := True
  rely_refl _ := Later.refl
  rely_trans _ _ _ _ _ _ _ := Later.trans
  step e g hd _ hinv _ := by
    obtain ⟨log, hsound⟩ := hinv
    refine ⟨⟨log, ?_⟩, fun _ _ => later_event hd⟩
    rcases does_cases hd with ⟨t, hacc, hopen, hpost⟩ | ⟨hacc, hpost⟩
    · rw [hacc, hpost]
      exact hsound.push hopen _ t
    · rw [hacc, hpost, Option.toList_none, List.append_nil]
      exact hsound
  tick t s g hinv := by
    obtain ⟨log, hsound⟩ := hinv
    obtain ⟨log', hsound', hlog⟩ := hsound.turn t
    exact ⟨⟨log', hsound'⟩, fun _ => hsound.later hsound' hlog (closed_turn t)⟩

/-! ## The programs of clients -/

section clients

variable {ε α β : Type} {post : Except ε β → State P σ → List (ι × P.Task) → Prop}

/-- Send a task. Source: none: infrastructure. Kind: D -/
def sendOr (gone : ε) (t : P.Task) : Prog (iface P) ε Nat :=
  .call (.send t) fun r => match r with
    | some k => .ret k
    | none => .err gone

/-- Wait for a reply. Source: none: infrastructure. Kind: D -/
def awaitOr (lost : ε) (sh : P.Shape) (k : Nat) : Prog (iface P) ε (P.Answer sh) :=
  .call (.await sh k) fun r => match r with
    | some a => .ret a
    | none => .err lost

/-- Send a task and wait for its reply, which may be a failure. Source: none: infrastructure.
Kind: D -/
def request (gone lost : ε) (t : P.Task) (sh : P.Shape) (read : P.Answer sh → Except ε β) :
    Prog (iface P) ε β := do
  let k ← sendOr gone t
  let a ← awaitOr lost sh k
  Prog.ofExcept (read a)

/-- Send several tasks. Source: none: infrastructure. Kind: D -/
def sendAll (gone : ε) : List P.Task → Prog (iface P) ε (List Nat)
  | [] => return []
  | t :: ts => do
      let k ← sendOr gone t
      let ks ← sendAll gone ts
      return k :: ks

/-- Wait for several replies; the first answer that is a failure ends the program.
Source: none: infrastructure. Kind: D -/
def awaitAll (lost : ε) (sh : P.Shape) (read : P.Answer sh → Except ε β) :
    List Nat → Prog (iface P) ε (List β)
  | [] => return []
  | k :: ks => do
      let a ← awaitOr lost sh k
      let b ← Prog.ofExcept (read a)
      let bs ← awaitAll lost sh read ks
      return b :: bs

/-- A result is at hand. Source: none: infrastructure. Kind: L -/
theorem safe_ret {b : β} (hlasting : Lasting (post (.ok b))) (h : post (.ok b) s g) :
    (Prog.ret b : Prog (iface P) ε β).Safe (agreement ι W w₀ capacity) i post s g :=
  fun _ _ hl _ => hlasting _ _ _ _ hl h

theorem safe_err {e : ε} (hlasting : Lasting (post (.error e))) (h : post (.error e) s g) :
    (Prog.err e : Prog (iface P) ε β).Safe (agreement ι W w₀ capacity) i post s g :=
  fun _ _ hl _ => hlasting _ _ _ _ hl h

/-- A fact that lasts is still there when the program returns. Source: none: infrastructure. Kind: L -/
theorem safe_keep {φ : State P σ → List (ι × P.Task) → Prop} (hφ : Lasting φ) (h : φ s g)
    {p : Prog (iface P) ε β} (hp : p.Safe (agreement ι W w₀ capacity) i post s g) :
    p.Safe (agreement ι W w₀ capacity) i (fun r s g => post r s g ∧ φ s g) s g := by
  induction p generalizing s g with
  | ret b => exact fun s' g' hl hinv => ⟨hp s' g' hl hinv, hφ _ _ _ _ hl h⟩
  | err e => exact fun s' g' hl hinv => ⟨hp s' g' hl hinv, hφ _ _ _ _ hl h⟩
  | call o k ih =>
      intro s' g' hl hinv
      obtain ⟨hpre, hk⟩ := hp s' g' hl hinv
      exact ⟨hpre, fun r s'' hd ha hinv' =>
        ih r (hφ _ _ _ _ (later_event hd) (hφ _ _ _ _ hl h)) (hk r s'' hd ha hinv')⟩

/-- The task of client `i` is the number `k` of those that were accepted.
Source: none: infrastructure. Kind: D -/
def Asked (i : ι) (g : List (ι × P.Task)) (t : P.Task) (k : Nat) : Prop := g[k]? = some (i, t)

/-- Two lists at one position. Source: none: infrastructure. Kind: L -/
theorem forall₂_at {as : List α} {bs : List β} {R : α → β → Prop} (h : List.Forall₂ R as bs) {j : Nat}
    {a : α} (ha : as[j]? = some a) : ∃ b, bs[j]? = some b ∧ R a b := by
  induction h generalizing j with
  | nil => cases ha
  | cons hab _ ih =>
      cases j with
      | zero => exact ⟨_, rfl, Option.some.inj ha ▸ hab⟩
      | succ j => exact ih ha

theorem exists_of_forall₂ {as : List α} {bs : List β} {R : α → β → Prop} (h : List.Forall₂ R as bs)
    {b : β} (hb : b ∈ bs) : ∃ a ∈ as, R a b := by
  obtain ⟨j, hj⟩ := List.mem_iff_getElem?.mp hb
  obtain ⟨a, ha, hab⟩ := forall₂_at h.flip hj
  exact ⟨a, List.mem_of_getElem? ha, hab⟩

/-- What the client knows after it has sent the tasks `ts`: they were accepted in this order, after
`start` others. Source: none: infrastructure. Kind: D -/
def Sent (gone : ε) (i : ι) (start : Nat) (ts : List P.Task) :
    Except ε (List Nat) → State P σ → List (ι × P.Task) → Prop
  | .ok ks, _, g => List.Forall₂ (Asked i g) ts ks ∧ ks.Pairwise (· < ·) ∧ ∀ k ∈ ks, start ≤ k
  | .error e, s, _ => e = gone ∧ s.closed = true

theorem asked_lasting (i : ι) (t : P.Task) (k : Nat) :
    Lasting fun (_ : State P σ) (g : List (ι × P.Task)) => Asked i g t k :=
  fun _ _ _ _ hl h => hl.get h

theorem sent_lasting (gone : ε) (i : ι) (start : Nat) (ts : List P.Task) (r : Except ε (List Nat)) :
    Lasting (Sent gone i start ts r : State P σ → List (ι × P.Task) → Prop) := by
  intro s g s' g' hl h
  cases r with
  | ok ks => exact ⟨h.1.imp fun _ _ hk => hl.get hk, h.2⟩
  | error e => exact ⟨h.1, hl.closed h.2⟩

/-- **Sending.** By induction on the tasks: what is sent later has a larger number.
Source: none: infrastructure. Kind: L -/
theorem safe_sendAll (gone : ε) (ts : List P.Task) {start : Nat} (hstart : start ≤ g.length) :
    (sendAll gone ts).Safe (agreement ι W w₀ capacity) i (Sent gone i start ts) s g := by
  induction ts generalizing s g start with
  | nil =>
      exact safe_ret (sent_lasting gone i start [] _) ⟨.nil, .nil, fun _ hk => absurd hk List.not_mem_nil⟩
  | cons t ts ih =>
      refine Prog.Safe.call fun s g₁ hl hinv => ⟨fun sh k ho => (nomatch ho), fun r s' hd _ _ => ?_⟩
      obtain ⟨log, hsound⟩ := hinv
      have hstart₁ : start ≤ g₁.length := Nat.le_trans hstart hl.tasks.length_le
      rcases does_send hd with ⟨rfl, hclosed, rfl⟩ | ⟨rfl, -, rfl⟩
      · exact safe_err (sent_lasting gone i start _ _) ⟨rfl, hclosed⟩
      · have hnumber : Asked i (g₁ ++ [(i, t)]) t s.next := by
          rw [Asked, hsound.next_eq]
          exact List.getElem?_concat_length
        have hlength : g₁.length + 1 ≤ (g₁ ++ [(i, t)]).length := by
          rw [List.length_append]
          exact Nat.le_refl _
        have hrest := ih (s := s.push t) hlength
        refine Prog.Safe.bind (p := sendAll gone ts)
          ((safe_keep (asked_lasting i t s.next) hnumber hrest).weaken fun r s' g' h => ?_)
        obtain ⟨h, hfirst⟩ := h
        cases r with
        | error e => exact h
        | ok ks =>
            obtain ⟨hasked, hordered, hlater⟩ := h
            refine safe_ret (sent_lasting gone i start _ _) ⟨.cons hfirst hasked, .cons ?_ hordered, ?_⟩
            · exact fun k hk => hsound.next_eq ▸ hlater k hk
            · intro k hk
              rcases List.mem_cons.mp hk with rfl | hk
              · exact hsound.next_eq ▸ hstart₁
              · exact Nat.le_trans hstart₁ (Nat.le_trans (Nat.le_succ _) (hlater k hk))

/-- The answer on a channel is read as `b`. Source: none: infrastructure. Kind: D -/
def ReadAs {sh : P.Shape} (read : P.Answer sh → Except ε β) (s : State P σ) (k : Nat)
    (b : Except ε β) : Prop := ∃ a, s.cells k = .answered ⟨sh, a⟩ ∧ read a = b

/-- What a client has read is in the history. Source: none: infrastructure. Kind: L -/
theorem Sound.of_readAs (h : Sound W w₀ s g log) {t : P.Task} {k : Nat} (hasked : Asked i g t k)
    {sh : P.Shape} {read : P.Answer sh → Except ε β} {b : Except ε β} (hread : ReadAs read s k b) :
    ∃ a, log[k]? = some (t, ⟨sh, a⟩) ∧ read a = b := by
  obtain ⟨a, hcell, hb⟩ := hread
  obtain ⟨t', hlog⟩ := (h.answered k _).mp hcell
  obtain rfl := h.sender hlog hasked
  exact ⟨a, hlog, hb⟩

/-- What the client knows after a request: its task was answered so, or the worker has ended.
Source: none: infrastructure. Kind: D -/
def Requested (gone lost : ε) (i : ι) (t : P.Task) {sh : P.Shape} (read : P.Answer sh → Except ε β)
    (r : Except ε β) (s : State P σ) (g : List (ι × P.Task)) : Prop :=
  (r = .error gone ∨ r = .error lost) ∧ s.closed = true ∨ ∃ k, Asked i g t k ∧ ReadAs read s k r

/-- What the client knows after it has waited for the replies `ks`: it was answered in this order, up
to the first failure. Source: none: infrastructure. Kind: D -/
def Awaited (lost : ε) {sh : P.Shape} (read : P.Answer sh → Except ε β) (ks : List Nat) :
    Except ε (List β) → State P σ → List (ι × P.Task) → Prop
  | .ok bs, s, _ => List.Forall₂ (fun k b => ReadAs read s k (.ok b)) ks bs
  | .error e, s, _ => e = lost ∧ s.closed = true ∨ ∃ before k after bs, ks = before ++ k :: after ∧
      List.Forall₂ (fun k b => ReadAs read s k (.ok b)) before bs ∧ ReadAs read s k (.error e)

theorem readAs_lasting {sh : P.Shape} (read : P.Answer sh → Except ε β) (k : Nat) (b : Except ε β) :
    Lasting fun (s : State P σ) (_ : List (ι × P.Task)) => ReadAs read s k b := by
  rintro s g s' g' hl ⟨a, ha, hread⟩
  exact ⟨a, hl.answered _ _ ha, hread⟩

theorem awaited_lasting (lost : ε) {sh : P.Shape} (read : P.Answer sh → Except ε β) (ks : List Nat)
    (r : Except ε (List β)) :
    Lasting (Awaited lost read ks r : State P σ → List (ι × P.Task) → Prop) := by
  intro s g s' g' hl h
  have hread : ∀ k b, ReadAs read s k b → ReadAs read s' k b :=
    fun k b hb => readAs_lasting read k b s g s' g' hl hb
  cases r with
  | ok bs => exact h.imp fun _ _ hb => hread _ _ hb
  | error e =>
      rcases h with ⟨he, hclosed⟩ | ⟨before, k, after, bs, hks, hbefore, hk⟩
      · exact .inl ⟨he, hl.closed hclosed⟩
      · exact .inr ⟨before, k, after, bs, hks, hbefore.imp fun _ _ hb => hread _ _ hb, hread _ _ hk⟩

theorem requested_lasting (gone lost : ε) (i : ι) (t : P.Task) {sh : P.Shape}
    (read : P.Answer sh → Except ε β) (r : Except ε β) :
    Lasting (Requested gone lost i t read r : State P σ → List (ι × P.Task) → Prop) := by
  rintro s g s' g' hl (⟨hr, hclosed⟩ | ⟨k, hasked, hread⟩)
  · exact .inl ⟨hr, hl.closed hclosed⟩
  · exact .inr ⟨k, hl.get hasked, readAs_lasting read k r s g s' g' hl hread⟩

/-- **A request.** Source: none: infrastructure. Kind: L -/
theorem safe_request (gone lost : ε) (t : P.Task) {sh : P.Shape} (read : P.Answer sh → Except ε β)
    (hshape : P.shape t = sh) :
    (request gone lost t sh read).Safe (agreement ι W w₀ capacity) i (Requested gone lost i t read) s g := by
  refine Prog.Safe.call fun s g₁ _ hinv => ⟨fun sh k ho => (nomatch ho), fun r s' hd _ _ => ?_⟩
  obtain ⟨log, hsound⟩ := hinv
  rcases does_send hd with ⟨rfl, hclosed, rfl⟩ | ⟨rfl, -, rfl⟩
  · exact safe_err (requested_lasting gone lost i t read _) (.inl ⟨.inl rfl, hclosed⟩)
  · have hasked : Asked i (g₁ ++ [(i, t)]) t s.next := by
      rw [Asked, hsound.next_eq]
      exact List.getElem?_concat_length
    refine Prog.Safe.call fun s' g₂ hl hinv => ⟨fun sh' k' ho => ?_, fun r s'' hd _ _ => ?_⟩
    · cases ho
      exact ⟨t, hl.get hasked, hshape⟩
    · obtain ⟨log', hsound'⟩ := hinv
      obtain ⟨rfl, hcell⟩ := does_await hd
      cases r with
      | none =>
          exact safe_err (requested_lasting gone lost i t read _)
            (.inl ⟨.inr rfl, ((hsound'.dropped _).mp hcell).1⟩)
      | some a =>
          show (Prog.ofExcept (read a)).Safe _ i _ s'' (g₂ ++ [])
          rw [List.append_nil]
          have hknown : Requested gone lost i t read (read a) s'' g₂ :=
            .inr ⟨s.next, hl.get hasked, a, hcell, rfl⟩
          cases hread : read a with
          | error e =>
              rw [hread] at hknown
              exact safe_err (requested_lasting gone lost i t read _) hknown
          | ok b =>
              rw [hread] at hknown
              exact safe_ret (requested_lasting gone lost i t read _) hknown

/-- **Waiting** for the replies to tasks of one's own. Source: none: infrastructure. Kind: L -/
theorem safe_awaitAll (lost : ε) {sh : P.Shape} (read : P.Answer sh → Except ε β) (ks : List Nat)
    (hasked : ∀ k ∈ ks, ∃ t, Asked i g t k ∧ P.shape t = sh) :
    (awaitAll lost sh read ks).Safe (agreement ι W w₀ capacity) i (Awaited lost read ks) s g := by
  induction ks generalizing s g with
  | nil => exact safe_ret (awaited_lasting lost read [] _) .nil
  | cons k ks ih =>
      refine Prog.Safe.call fun s g₁ hl hinv => ⟨fun sh' k' ho => ?_, fun r s' hd _ _ => ?_⟩
      · cases ho
        obtain ⟨t, ht, hsh⟩ := hasked k List.mem_cons_self
        exact ⟨t, hl.get ht, hsh⟩
      · obtain ⟨log, hsound⟩ := hinv
        obtain ⟨rfl, hcell⟩ := does_await hd
        cases r with
        | none =>
            exact safe_err (awaited_lasting lost read _ _) (.inl ⟨rfl, ((hsound.dropped k).mp hcell).1⟩)
        | some a =>
            show (Prog.ofExcept (read a) >>= fun b => awaitAll lost sh read ks >>= fun bs =>
              Prog.ret (b :: bs)).Safe _ i _ s' (g₁ ++ [])
            rw [List.append_nil]
            cases hread : read a with
            | error e =>
                exact safe_err (awaited_lasting lost read _ _)
                  (.inr ⟨[], k, ks, [], rfl, .nil, a, hcell, hread⟩)
            | ok b =>
                have hfirst : ReadAs read s' k (.ok b) := ⟨a, hcell, hread⟩
                have hrest := ih (s := s') (g := g₁) fun k hk => by
                  obtain ⟨t, ht, hsh⟩ := hasked k (List.mem_cons_of_mem _ hk)
                  exact ⟨t, hl.get ht, hsh⟩
                refine Prog.Safe.bind (p := awaitAll lost sh read ks)
                  ((safe_keep (readAs_lasting read k (.ok b)) hfirst hrest).weaken fun r s g h => ?_)
                obtain ⟨h, hfirst⟩ := h
                cases r with
                | ok bs => exact safe_ret (awaited_lasting lost read _ _) (.cons hfirst h)
                | error e =>
                    rcases h with hlost | ⟨before, k', after, bs, rfl, hbefore, hk⟩
                    · exact .inl hlost
                    · exact .inr ⟨k :: before, k', after, b :: bs, rfl, .cons hfirst hbefore, hk⟩

end clients

/-! ## Runs -/

section runs

variable [DecidableEq ι] {ε : Type} {α : ι → Type} {c d : Config (iface P) ε (State P σ) α}
  {tr : List (Event (iface P) ι (State P σ))}

/-- **Every run is one of the worker alone**: what clients were answered is what it would have
answered without a mailbox, had it been handed the tasks in the order in which they were accepted.
Source: none: infrastructure. Kind: P -/
theorem served_of_run {post : (i : ι) → Except ε (α i) → State P σ → List (ι × P.Task) → Prop}
    (h : Run (machine W capacity ι) c tr d) (hstart : c.shared = .fresh w₀)
    (hsafe : ∀ i s g, (c.progs i).Safe (agreement ι W w₀ capacity) i (post i) s g) :
    ∃ log, Sound W w₀ d.shared (tr.filterMap accepted) log ∧
      ∀ i, (d.progs i).Safe (agreement ι W w₀ capacity) i (post i) d.shared (tr.filterMap accepted) := by
  have hfold : ∀ (tr : List (Event (iface P) ι (State P σ))) (g : List (ι × P.Task)),
      tr.foldl (agreement ι W w₀ capacity).upd g = g ++ tr.filterMap accepted := by
    intro tr
    induction tr with
    | nil => exact fun g => (List.append_nil g).symm
    | cons e tr ih =>
        intro g
        rw [List.foldl_cons, ih]
        show (g ++ (accepted e).toList) ++ _ = _
        rw [List.append_assoc]
        cases hacc : accepted e <;> simp [hacc]
  have hinv : (agreement ι W w₀ capacity).inv c.shared [] := ⟨[], hstart ▸ sound_fresh⟩
  have hend := h.sound (agreement ι W w₀ capacity) post hinv (fun i => hsafe i _ _) fun _ _ => trivial
  rw [hfold, List.nil_append] at hend
  obtain ⟨⟨log, hsound⟩, hsafe'⟩ := hend
  exact ⟨log, hsound, hsafe'⟩

end runs

end machine

/-! ## The worker alone -/

/-- The worker takes the next task if it has none, and finishes it. Source: none: infrastructure.
Kind: D -/
def State.round (W : Worker P σ) (s : State P σ) (ch : W.Choice) : State P σ := s.take.finish W ch

/-- It goes on. Source: none: infrastructure. Kind: D -/
def State.rounds (W : Worker P σ) (s : State P σ) (chs : List W.Choice) : State P σ :=
  chs.foldl (State.round W) s

theorem take_eq (s : State P σ) :
    s.take = { s with busy := s.pending.head?, queue := s.pending.tail } := by
  obtain ⟨next, queue, busy, cells, closed, world⟩ := s
  cases busy with
  | none => cases queue <;> rfl
  | some m => rfl

/-- A round without a task. Source: none: infrastructure. Kind: L -/
theorem round_of_nil (ch : W.Choice) (h : s.pending = []) : s.round W ch = s := by
  have hbusy : s.busy = none := Option.toList_eq_nil_iff.mp (List.append_eq_nil_iff.mp h).1
  have hqueue := (List.append_eq_nil_iff.mp h).2
  rw [State.round, take_eq, h, State.finish]
  obtain ⟨next, queue, busy, cells, closed, world⟩ := s
  subst hbusy hqueue
  rfl

/-- A round at which a task is answered. Source: none: infrastructure. Kind: L -/
theorem pending_round {ch : W.Choice} {t : P.Task} {k : Nat} {rest : List (P.Task × Nat)}
    (h : s.pending = (t, k) :: rest) {a : P.Answer (P.shape t)} {w : σ}
    (hhandle : W.handle ch t s.world = (some a, w)) :
    (s.round W ch).pending = rest ∧ (s.round W ch).closed = s.closed := by
  rw [State.round, take_eq, h, State.finish]
  simp only [List.head?_cons, List.tail_cons, hhandle]
  exact ⟨rfl, trivial⟩

/-- A round at which the worker ends. Source: none: infrastructure. Kind: L -/
theorem ended_round {ch : W.Choice} {t : P.Task} {k : Nat} {rest : List (P.Task × Nat)}
    (h : s.pending = (t, k) :: rest) {w : σ} (hhandle : W.handle ch t s.world = (none, w)) :
    (s.round W ch).pending = [] ∧ (s.round W ch).closed = true := by
  rw [State.round, take_eq, h, State.finish]
  simp only [List.head?_cons, List.tail_cons, hhandle]
  exact ⟨rfl, trivial⟩

theorem Sound.round (h : Sound W w₀ s g log) (ch : W.Choice) :
    ∃ log', Sound W w₀ (s.round W ch) g log' ∧ log <+: log' :=
  h.take.turn (.finish ch)

/-- After as many rounds as there are tasks, nothing waits. Source: none: infrastructure. Kind: L -/
theorem pending_rounds (chs : List W.Choice) (hlength : s.pending.length ≤ chs.length) :
    (s.rounds W chs).pending = [] := by
  induction chs generalizing s with
  | nil => exact List.length_eq_zero_iff.mp (Nat.le_zero.mp hlength)
  | cons ch chs ih =>
      refine ih (s := s.round W ch) ?_
      cases hpending : s.pending with
      | nil =>
          rw [round_of_nil ch hpending, hpending]
          exact Nat.zero_le _
      | cons m rest =>
          rw [hpending] at hlength
          cases hhandle : W.handle ch m.1 s.world with
          | mk a w =>
              cases a with
              | some a =>
                  rw [(pending_round hpending hhandle).1]
                  exact Nat.le_of_succ_le_succ hlength
              | none =>
                  rw [(ended_round hpending hhandle).1]
                  exact Nat.zero_le _

theorem closed_rounds (chs : List W.Choice) (h : s.closed = true) : (s.rounds W chs).closed = true := by
  induction chs generalizing s with
  | nil => exact h
  | cons ch chs ih =>
      refine ih (s := s.round W ch) ?_
      have htake : s.take.closed = true := by
        rw [take_eq]
        exact h
      exact closed_turn (.finish ch) htake

variable {stops : P.Task → Bool}

/-- A task that ends the worker is reached after a round for each task that waits.
Source: none: infrastructure. Kind: L -/
theorem ends_of_pending (hstops : ∀ ch t w, (W.handle ch t w).1 = none ↔ stops t = true)
    (chs : List W.Choice) (hlength : s.pending.length ≤ chs.length)
    (h : s.closed = true ∨ ∃ m ∈ s.pending, stops m.1 = true) : (s.rounds W chs).closed = true := by
  induction chs generalizing s with
  | nil =>
      rw [List.length_eq_zero_iff.mp (Nat.le_zero.mp hlength)] at h
      exact h.resolve_right (by simp)
  | cons ch chs ih =>
      by_cases hclosed : s.closed = true
      · exact closed_rounds _ hclosed
      obtain ⟨m, hm, hstop⟩ := h.resolve_left hclosed
      obtain ⟨first, rest, hpending⟩ := List.exists_cons_of_ne_nil (List.ne_nil_of_mem hm)
      obtain ⟨t, k⟩ := first
      rcases hhandle : W.handle ch t s.world with ⟨_ | a, w⟩
      · exact closed_rounds chs (ended_round hpending hhandle).2
      · obtain ⟨hrest, hsame⟩ := pending_round hpending hhandle
        refine ih (s := s.round W ch) ?_ (.inr ⟨m, ?_, hstop⟩)
        · rw [hpending] at hlength
          rw [hrest]
          exact Nat.le_of_succ_le_succ hlength
        · rw [hrest]
          rw [hpending] at hm
          refine (List.mem_cons.mp hm).resolve_left ?_
          rintro rfl
          have hnone := (hstops ch t s.world).mpr hstop
          rw [hhandle] at hnone
          cases hnone

/-- Without such a task it goes on. Source: none: infrastructure. Kind: L -/
theorem lasts_turn (hstops : ∀ ch t w, (W.handle ch t w).1 = none ↔ stops t = true)
    (h : s.closed = false ∧ ∀ m ∈ s.pending, stops m.1 = false) (t : Turn W.Choice) :
    (turn W t s).closed = false ∧ ∀ m ∈ (turn W t s).pending, stops m.1 = false := by
  cases t with
  | take =>
      rw [turn, take_eq]
      refine ⟨h.1, fun m hm => h.2 m ?_⟩
      cases hpending : s.pending with
      | nil =>
          rw [hpending] at hm
          exact hm
      | cons m' rest =>
          rw [hpending] at hm
          exact hm
  | finish ch =>
      rw [turn, State.finish]
      split
      · exact h
      · next t k hbusy =>
        have hpending : s.pending = (t, k) :: s.queue := by
          rw [State.pending, hbusy]
          rfl
        rw [hpending] at h
        split
        · exact ⟨h.1, fun m hm => h.2 m (List.mem_cons_of_mem _ hm)⟩
        · next w hhandle =>
          have hstop := (hstops ch t s.world).mp (congrArg Prod.fst hhandle)
          rw [h.2 (t, k) List.mem_cons_self] at hstop
          cases hstop

/-- **When a worker ends that is left alone**: when it has ended, or a task that ends it waits.
Source: none: infrastructure. Kind: P -/
theorem ends_iff [Nonempty W.Choice]
    (hstops : ∀ ch t w, (W.handle ch t w).1 = none ↔ stops t = true) :
    (∃ ts : List (Turn W.Choice), (ts.foldl (fun s t => turn W t s) s).closed = true) ↔
      s.closed = true ∨ ∃ m ∈ s.pending, stops m.1 = true := by
  constructor
  · rintro ⟨ts, hclosed⟩
    by_contra hnot
    rw [not_or, not_exists] at hnot
    have hlasts : ∀ (ts : List (Turn W.Choice)) (s : State P σ),
        (s.closed = false ∧ ∀ m ∈ s.pending, stops m.1 = false) →
          (ts.foldl (fun s t => turn W t s) s).closed = false := by
      intro ts
      induction ts with
      | nil => exact fun s h => h.1
      | cons t ts ih => exact fun s h => ih _ (lasts_turn hstops h t)
    rw [hlasts ts s ⟨Bool.not_eq_true _ ▸ hnot.1, fun m hm =>
      Bool.not_eq_true _ ▸ fun hstop => hnot.2 m ⟨hm, hstop⟩⟩] at hclosed
    cases hclosed
  · intro h
    obtain ⟨ch⟩ := ‹Nonempty W.Choice›
    have hends := ends_of_pending hstops (List.replicate s.pending.length ch) (by simp) h
    refine ⟨(List.replicate s.pending.length ch).flatMap fun ch => [.take, .finish ch], ?_⟩
    rw [List.foldl_flatMap]
    exact hends

/-! ## No client waits forever -/

section finishing

variable [DecidableEq P.Shape] [DecidableEq ι] [Nonempty W.Choice] {ε : Type} {α : ι → Type}
  {d : Config (iface P) ε (State P σ) α}

/-- A handled task was answered in its kind. Source: none: infrastructure. Kind: L -/
theorem Sound.reply (h : Sound W w₀ s g log) {t : P.Task} {k : Nat} (ht : Asked i g t k)
    (hk : k < log.length) :
    ∃ a, log[k]? = some (t, ⟨P.shape t, a⟩) ∧ s.cells k = .answered ⟨P.shape t, a⟩ := by
  have hget := List.getElem?_eq_getElem hk
  generalize log[k] = p at hget
  obtain ⟨t', sh, a⟩ := p
  obtain rfl := h.sender hget ht
  obtain ⟨w, hserved⟩ := h.served
  obtain rfl : sh = P.shape t := hserved.shape_eq _ (List.mem_of_getElem? hget)
  exact ⟨a, hget, (h.answered k _).mpr ⟨t, hget⟩⟩

/-- When nothing waits in the mailbox, every client can go on.
Source: none: infrastructure. Kind: L -/
theorem Sound.enabled (h : Sound W w₀ s g log) (hpending : s.pending = []) (hcapacity : 0 < capacity)
    {o : Op P} (hpre : (agreement ι W w₀ capacity).pre i o s g) :
    ∃ r s', (machine W capacity ι).Does ⟨i, o, r, s, s'⟩ := by
  cases o with
  | send t =>
      have hqueue := (List.append_eq_nil_iff.mp hpending).2
      by_cases hclosed : s.closed = true
      · exact ⟨none, s, (), if_pos hclosed⟩
      · refine ⟨some s.next, s.push t, (), (if_neg hclosed).trans (if_pos ?_)⟩
        rw [hqueue]
        exact hcapacity
  | await sh k =>
      obtain ⟨t, ht, rfl⟩ := hpre sh k rfl
      have hk : k < g.length := (List.getElem?_eq_some_iff.mp ht).1
      rcases Nat.lt_or_ge k log.length with hlt | hge
      · obtain ⟨a, -, hcell⟩ := h.reply ht hlt
        refine ⟨some a, s, (), ?_⟩
        show perform capacity (.await (P.shape t) k) s = _
        rw [perform, hcell]
        exact congrArg (Option.map _) (answerOf_eq_some.mpr rfl)
      · cases hclosed : s.closed with
        | true =>
            have hcell := (h.dropped k).mpr ⟨hclosed, hge, h.next_eq ▸ hk⟩
            refine ⟨none, s, (), ?_⟩
            show perform capacity (.await (P.shape t) k) s = _
            rw [perform, hcell]
        | false =>
            have hnil := (h.running hclosed).1.symm.trans hpending
            rw [List.drop_eq_nil_iff, List.length_zipIdx, List.length_map] at hnil
            exact absurd (Nat.lt_of_lt_of_le hk hnil) (Nat.not_lt.mpr hge)

/-- The worker goes on in a run. Source: none: infrastructure. Kind: L -/
theorem run_rounds {c : Config (iface P) ε (State P σ) α} {tr : List (Event (iface P) ι (State P σ))}
    (h : Run (machine W capacity ι) c tr d) (chs : List W.Choice) :
    Run (machine W capacity ι) c tr ⟨d.shared.rounds W chs, d.progs⟩ := by
  induction chs generalizing d with
  | nil => exact h
  | cons ch chs ih => exact ih ((h.tick .take).tick (.finish ch))

theorem Sound.rounds (h : Sound W w₀ s g log) (chs : List W.Choice) :
    ∃ log', Sound W w₀ (s.rounds W chs) g log' ∧ log <+: log' := by
  induction chs generalizing s log with
  | nil => exact ⟨log, h, List.prefix_refl _⟩
  | cons ch chs ih =>
      obtain ⟨log₁, h₁, hlog₁⟩ := h.round ch
      obtain ⟨log₂, h₂, hlog₂⟩ := ih h₁
      exact ⟨log₂, h₂, hlog₁.trans hlog₂⟩

/-- **No client waits forever**: whatever state the others and the worker have reached, the worker
and the client alone can go on until the client has its result. By induction on what is left of the
client: before each operation the worker finishes what waits. Source: none: infrastructure. Kind: P -/
theorem finishes (hcapacity : 0 < capacity) {i : ι}
    {post : Except ε (α i) → State P σ → List (ι × P.Task) → Prop}
    (hsound : Sound W w₀ d.shared g log)
    (hsafe : (d.progs i).Safe (agreement ι W w₀ capacity) i post d.shared g) :
    ∃ tr e, Run (machine W capacity ι) d tr e ∧ ((e.progs i).result?).isSome = true ∧
      ∀ j, j ≠ i → e.progs j = d.progs j := by
  generalize hp : d.progs i = p at hsafe
  induction p generalizing d g log with
  | ret b => exact ⟨[], d, .refl, by rw [hp]; rfl, fun _ _ => rfl⟩
  | err e => exact ⟨[], d, .refl, by rw [hp]; rfl, fun _ _ => rfl⟩
  | call o k ih =>
      obtain ⟨ch⟩ := ‹Nonempty W.Choice›
      have hnil := pending_rounds (W := W) (s := d.shared)
        (List.replicate d.shared.pending.length ch) (by simp)
      obtain ⟨log₁, hsound₁, hlog₁⟩ := hsound.rounds (List.replicate d.shared.pending.length ch)
      have hrun := run_rounds (Run.refl (M := machine W capacity ι) (c := d))
        (List.replicate d.shared.pending.length ch)
      have hlater := hsound.later hsound₁ hlog₁ (closed_rounds _)
      obtain ⟨hpre, hk⟩ := Discipline.Stable.now (Prog.Safe.mono hsafe hlater) ⟨log₁, hsound₁⟩
      obtain ⟨r, s', hdoes⟩ := hsound₁.enabled hnil hcapacity hpre
      have hinv := ((agreement ι W w₀ capacity).step _ _ hdoes trivial ⟨log₁, hsound₁⟩ hpre).1
      obtain ⟨log₂, hsound₂⟩ := hinv
      obtain ⟨tr, e, hrest, hdone, hsame⟩ := ih r
        (d := ⟨s', Function.update d.progs i (k r)⟩) hsound₂ (Function.update_self ..)
        (hk r s' hdoes trivial ⟨log₂, hsound₂⟩)
      refine ⟨_, e, (hrun.step hp hdoes).trans hrest, hdone, fun j hj => ?_⟩
      rw [hsame j hj]
      exact Function.update_of_ne hj ..

end finishing

/-! ## A full mailbox -/

section full

variable [DecidableEq P.Shape] [DecidableEq ι] {ε β : Type} {α : ι → Type}
  {d : Config (iface P) ε (State P σ) α}

/-- A client that sends several tasks, while the worker does nothing, has put in as many as there is
room for. Source: none: infrastructure. Kind: L -/
theorem run_sendAll (gone : ε) {i : ι} {n : Nat} {ts : List P.Task} {f : List Nat → Prog (iface P) ε (α i)}
    (hp : d.progs i = sendAll gone ts >>= f) (hopen : d.shared.closed = false) (hn : n ≤ ts.length)
    (hroom : d.shared.queue.length + n ≤ capacity) :
    ∃ tr e, Run (machine W capacity ι) d tr e ∧ e.shared.closed = false ∧
      e.shared.busy = d.shared.busy ∧ e.shared.queue.length = d.shared.queue.length + n ∧
      ∀ m ∈ e.shared.queue, m ∈ d.shared.queue ∨ m.1 ∈ ts := by
  induction n generalizing d ts f with
  | zero => exact ⟨[], d, .refl, hopen, rfl, rfl, fun m hm => .inl hm⟩
  | succ n ih =>
      obtain ⟨t, ts, rfl⟩ := List.exists_cons_of_length_pos (Nat.lt_of_lt_of_le (Nat.succ_pos n) hn)
      have hlt : d.shared.queue.length < capacity := by omega
      have hdoes : (machine W capacity ι).Does
          ⟨i, .send t, some d.shared.next, d.shared, d.shared.push t⟩ := by
        refine ⟨(), (if_neg ?_).trans (if_pos hlt)⟩
        rw [hopen]
        exact Bool.false_ne_true
      change d.progs i = .call (.send t) _ at hp
      have hstep := Run.step (.refl : Run (machine W capacity ι) d [] d) hp hdoes
      have hlength : (d.shared.push t).queue.length = d.shared.queue.length + 1 := by
        rw [State.push, List.length_append, List.length_singleton]
      obtain ⟨tr, e, hrun, hopen', hbusy, hqueue, hmem⟩ := ih
        (d := ⟨d.shared.push t, Function.update d.progs i
          (sendAll gone ts >>= (fun ks => .ret (d.shared.next :: ks)) >>= f)⟩)
        (f := fun ks => f (d.shared.next :: ks))
        ((Function.update_self ..).trans (Prog.bind_assoc (sendAll gone ts) _ f)) hopen
        (Nat.le_of_succ_le_succ hn) (by rw [hlength]; omega)
      refine ⟨_, e, hstep.trans hrun, hopen', hbusy, by rw [hqueue, hlength]; omega, fun m hm => ?_⟩
      rcases hmem m hm with hm | hm
      · rcases List.mem_append.mp hm with hm | hm
        · exact .inl hm
        · exact .inr (List.mem_singleton.mp hm ▸ List.mem_cons_self)
      · exact .inr (List.mem_cons_of_mem _ hm)

end full

end Rollout.Lib.Mailbox
