import Mathlib.Data.List.Nodup
import Rollout.Lib.KV
import Rollout.Lib.RelyGuarantee

/-!
# A table of bounded streams

* `Stream` — a bounded channel: what was accepted and by whom, how much of it the reader has taken,
  and who holds a sender of it. `none` among the holders is the sender in the table.
* `State` — the streams by number, and a table with one sender for each key.
* `perform` — a reader opens a stream and registers it, which drops the sender it replaces; a writer
  clones the sender of a key, offers it one item without waiting and drops the clone. A stream with
  nothing left to read ends when no sender is left, and makes its reader wait otherwise.
* `Inv` — the table has the sender of a stream exactly when the stream says so, no stream holds more
  than its capacity, and every item is under a key its writer wanted it under.
* `discipline` — nobody touches the items, the senders or the reading of another.
-/

set_option linter.unusedSectionVars false

namespace Rollout.Lib.Hub

variable {κ α ι : Type}

/-! ## Streams and the table -/

/-- A bounded channel. Source: none: infrastructure. Kind: D -/
structure Stream (κ α ι : Type) where
  /-- The key it is registered under. -/
  key : Option κ
  /-- Who opened it, and reads it. -/
  opener : Option ι
  /-- What was accepted, and from whom. -/
  sent : List (ι × α)
  /-- How much of it was read. -/
  read : Nat
  /-- Who holds a sender; `none` is the table. -/
  holders : List (Option ι)
  /-- The reader is gone. -/
  dropped : Bool

/-- The items of one writer. Source: none: infrastructure. Kind: D -/
def Stream.own [DecidableEq ι] (x : Stream κ α ι) (i : ι) : List (ι × α) :=
  x.sent.filter fun e => e.1 = i

/-- A stream that is not open. Source: none: infrastructure. Kind: D -/
def Stream.unopened : Stream κ α ι := ⟨none, none, [], 0, [], false⟩

/-- The streams and the table. Source: none: infrastructure. Kind: D -/
structure State (κ α ι : Type) where
  /-- The sender of each key. -/
  table : KV κ Nat
  /-- The number of the next stream. -/
  next : Nat
  /-- The streams. -/
  stream : Nat → Stream κ α ι

/-- Nothing is open. Source: none: infrastructure. Kind: D -/
def State.empty : State κ α ι := ⟨∅, 0, fun _ => .unopened⟩

/-- One stream changed. Source: none: infrastructure. Kind: D -/
def State.on (s : State κ α ι) (n : Nat) (f : Stream κ α ι → Stream κ α ι) : State κ α ι :=
  { s with stream := Function.update s.stream n (f (s.stream n)) }

@[simp] theorem State.on_table (s : State κ α ι) (n : Nat) (f : Stream κ α ι → Stream κ α ι) :
    (s.on n f).table = s.table := rfl

@[simp] theorem State.on_next (s : State κ α ι) (n : Nat) (f : Stream κ α ι → Stream κ α ι) :
    (s.on n f).next = s.next := rfl

theorem State.on_stream (s : State κ α ι) (n m : Nat) (f : Stream κ α ι → Stream κ α ι) :
    (s.on n f).stream m = if m = n then f (s.stream m) else s.stream m := by
  refine (Function.update_apply ..).trans ?_
  split
  · next h => rw [h]
  · rfl

/-- One more stream, with its opener as the only sender. Source: none: infrastructure. Kind: D -/
def State.opened (s : State κ α ι) (i : ι) : State κ α ι :=
  { s with
    next := s.next + 1
    stream := Function.update s.stream s.next ⟨none, some i, [], 0, [some i], false⟩ }

@[simp] theorem State.opened_table (s : State κ α ι) (i : ι) : (s.opened i).table = s.table := rfl

@[simp] theorem State.opened_next (s : State κ α ι) (i : ι) : (s.opened i).next = s.next + 1 := rfl

theorem State.opened_stream (s : State κ α ι) (i : ι) (n : Nat) :
    (s.opened i).stream n =
      if n = s.next then ⟨none, some i, [], 0, [some i], false⟩ else s.stream n :=
  Function.update_apply ..

/-! ## What can be done -/

/-- What readers and writers do. Source: none: infrastructure. Kind: D -/
inductive Op (κ α : Type)
  | open_
  | register (k : κ) (n : Nat)
  | lookup (k : κ)
  | remove (k : κ)
  | trySend (n : Nat) (a : α)
  | release (n : Nat)
  | recv (n : Nat)
  | disconnect (n : Nat)

/-- What they get. Source: none: infrastructure. Kind: D -/
@[reducible] def Op.Resp : Op κ α → Type
  | .open_ => Nat
  | .lookup _ => Option Nat
  | .trySend _ _ => Bool
  | .recv _ => Option α
  | _ => Unit

/-- Their interface. Source: none: infrastructure. Kind: D -/
@[reducible] def iface (κ α : Type) : Iface := ⟨Op κ α, Op.Resp⟩

variable [DecidableEq κ] [DecidableEq ι] (capacity : Nat)

/-- The stream takes another item. Source: none: infrastructure. Kind: D -/
def Stream.accepts (x : Stream κ α ι) : Bool :=
  !x.dropped && decide (x.sent.length < x.read + capacity)

/-- The table drops its sender of a key. Source: none: infrastructure. Kind: D -/
def State.unlist (s : State κ α ι) (k : κ) : State κ α ι :=
  match s.table.get k with
  | none => s
  | some n => s.on n fun x => { x with holders := x.holders.erase none }

@[simp] theorem State.unlist_table (s : State κ α ι) (k : κ) : (s.unlist k).table = s.table := by
  unfold State.unlist
  split <;> rfl

@[simp] theorem State.unlist_next (s : State κ α ι) (k : κ) : (s.unlist k).next = s.next := by
  unfold State.unlist
  split <;> rfl

theorem State.unlist_stream (s : State κ α ι) (k : κ) (n : Nat) :
    (s.unlist k).stream n = { s.stream n with
      holders := if s.table.get k = some n then (s.stream n).holders.erase none
        else (s.stream n).holders } := by
  unfold State.unlist
  split
  · next h => simp [h]
  · next m h =>
    rw [State.on_stream, h]
    by_cases hn : n = m
    · simp [hn]
    · simp [hn, Ne.symm hn]

/-- The table without a key. Source: none: infrastructure. Kind: D -/
def State.removed (s : State κ α ι) (k : κ) : State κ α ι :=
  { s.unlist k with table := s.table.del k }

/-- The opener of a stream gives its sender to the table.
Source: none: infrastructure. Kind: D -/
def Stream.enlist (i : ι) (k : κ) (x : Stream κ α ι) : Stream κ α ι :=
  { x with key := some k, holders := none :: x.holders.erase (some i) }

/-- The table with a stream at a key. Source: none: infrastructure. Kind: D -/
def State.registered (s : State κ α ι) (i : ι) (k : κ) (n : Nat) : State κ α ι :=
  { (s.unlist k).on n (Stream.enlist i k) with table := s.table.put k n }

theorem State.registered_stream (s : State κ α ι) (i : ι) (k : κ) (n m : Nat) :
    (s.registered i k n).stream m =
      if m = n then ((s.unlist k).stream m).enlist i k else (s.unlist k).stream m :=
  State.on_stream (s.unlist k) n m _

/-- The effect of what is done; only a reader with nothing to read waits, while there is a sender.
Source: none: infrastructure. Kind: D -/
def perform (i : ι) : (o : Op κ α) → State κ α ι → Option (o.Resp × State κ α ι)
  | .open_, s => some (s.next, s.opened i)
  | .register k n, s => some ((), s.registered i k n)
  | .lookup k, s =>
      match s.table.get k with
      | none => some (none, s)
      | some n => some (some n, s.on n fun x => { x with holders := some i :: x.holders })
  | .remove k, s => some ((), s.removed k)
  | .trySend n a, s =>
      if (s.stream n).accepts capacity then
        some (true, s.on n fun x => { x with sent := x.sent ++ [(i, a)] })
      else some (false, s)
  | .release n, s => some ((), s.on n fun x => { x with holders := x.holders.erase (some i) })
  | .recv n, s =>
      match (s.stream n).sent[(s.stream n).read]? with
      | some a => some (some a.2, s.on n fun x => { x with read := x.read + 1 })
      | none => if (s.stream n).holders = [] then some (none, s) else none
  | .disconnect n, s => some ((), s.on n fun x => { x with dropped := true })

/-- **The table and its streams as a machine.** Source: none: infrastructure. Kind: D -/
@[reducible] def machine : Machine (iface κ α) ι (State κ α ι) where
  Choice := Unit
  exec _ i o s := perform capacity i o s
  Tick := Empty
  tick t _ := t.elim

/-! ## What holds of them -/

section discipline

variable (wants : ι → κ → α → Prop) (reads : ι → κ → Prop)

/-- **What holds in every state.** Source: none: infrastructure. Kind: D -/
structure Inv (s : State κ α ι) : Prop where
  /-- Streams are opened in order. -/
  unopened : ∀ n, s.next ≤ n → s.stream n = .unopened
  /-- The table has the sender that a stream says it has. -/
  listed : ∀ k n, s.table.get k = some n ↔
    (s.stream n).key = some k ∧ none ∈ (s.stream n).holders
  keyed : ∀ n, none ∈ (s.stream n).holders → ∃ k, (s.stream n).key = some k
  /-- Nobody holds two senders of a stream. -/
  nodup : ∀ n, (s.stream n).holders.Nodup
  read_le : ∀ n, (s.stream n).read ≤ (s.stream n).sent.length
  bounded : ∀ n, (s.stream n).sent.length ≤ (s.stream n).read + capacity
  /-- Every stream is under a key its opener reads. -/
  readers : ∀ n k, (s.stream n).key = some k → ∃ j, (s.stream n).opener = some j ∧ reads j k
  /-- Every item is under a key its writer wanted it under. -/
  routed : ∀ n x, x ∈ (s.stream n).sent → ∃ k, (s.stream n).key = some k ∧ wants x.1 k x.2

/-- What the others leave of a stream to `i`: its own items, its sender, and if it is the reader all
but new items and senders. A stream without senders gets no more. Source: none: infrastructure.
Kind: D -/
structure Kept (i : ι) (x y : Stream κ α ι) : Prop where
  sent : x.sent <+: y.sent
  own : y.own i = x.own i
  key : ∀ k, x.key = some k → y.key = some k
  holds : some i ∈ y.holders ↔ some i ∈ x.holders
  reader : x.opener = some i → y.opener = some i ∧ y.key = x.key ∧ y.read = x.read
  ended : x.key ≠ none → x.holders = [] → y.holders = [] ∧ y.sent = x.sent

theorem Kept.refl (i : ι) (x : Stream κ α ι) : Kept i x x where
  sent := List.prefix_rfl
  own := rfl
  key _ h := h
  holds := Iff.rfl
  reader h := ⟨h, rfl, rfl⟩
  ended _ h := ⟨h, rfl⟩

theorem Kept.trans {i : ι} {x y z : Stream κ α ι} (h : Kept i x y) (h' : Kept i y z) :
    Kept i x z where
  sent := h.sent.trans h'.sent
  own := h'.own.trans h.own
  key k hk := h'.key k (h.key k hk)
  holds := h'.holds.trans h.holds
  reader hx := by
    obtain ⟨hy, hkey, hread⟩ := h.reader hx
    obtain ⟨hz, hkey', hread'⟩ := h'.reader hy
    exact ⟨hz, hkey'.trans hkey, hread'.trans hread⟩
  ended hkey hx := by
    obtain ⟨hy, hsent⟩ := h.ended hkey hx
    obtain ⟨k, hk⟩ := Option.ne_none_iff_exists'.mp hkey
    obtain ⟨hz, hsent'⟩ := h'.ended (by simp [h.key k hk]) hy
    exact ⟨hz, hsent'.trans hsent⟩

/-- The senders of the others are theirs. Source: none: infrastructure. Kind: L -/
theorem Kept.holders {i : ι} {x : Stream κ α ι} {l : List (Option ι)}
    (h : some i ∈ l ↔ some i ∈ x.holders) (hnil : x.holders = [] → l = []) :
    Kept i x { x with holders := l } where
  sent := List.prefix_rfl
  own := rfl
  key _ hk := hk
  holds := h
  reader hx := ⟨hx, rfl, rfl⟩
  ended _ hx := ⟨hnil hx, rfl⟩

/-- What the others leave of all streams. Source: none: infrastructure. Kind: D -/
def Rely (i : ι) (s s' : State κ α ι) : Prop := ∀ n, Kept i (s.stream n) (s'.stream n)

theorem rely_on {i : ι} {s : State κ α ι} {n : Nat} {f : Stream κ α ι → Stream κ α ι}
    (h : Kept i (s.stream n) (f (s.stream n))) : Rely i s (s.on n f) := by
  intro m
  rw [State.on_stream]
  split
  · next hm => exact hm ▸ h
  · exact .refl i _

theorem rely_unlist {i : ι} {s : State κ α ι} {k : κ} : Rely i s (s.unlist k) := by
  unfold State.unlist
  split
  · exact fun m => .refl i _
  · exact rely_on (.holders (List.mem_erase_of_ne (by simp)) fun h => by simp [h])

/-- What its issuer knows of an operation. Source: none: infrastructure. Kind: D -/
def Pre (i : ι) : Op κ α → State κ α ι → Prop
  | .register k n, s => (s.stream n).opener = some i ∧ (s.stream n).key = none ∧ reads i k
  | .lookup _, s => ∀ n, some i ∉ (s.stream n).holders ∧ (s.stream n).own i = []
  | .trySend n a, s => some i ∈ (s.stream n).holders ∧
      ∃ k, (s.stream n).key = some k ∧ wants i k a
  | .recv n, s => (s.stream n).opener = some i ∧ (s.stream n).key ≠ none ∧
      ∀ m, some i ∉ (s.stream m).holders
  | .disconnect n, s => (s.stream n).opener = some i
  | _, _ => True

theorem inv_empty : Inv capacity wants reads (State.empty : State κ α ι) where
  unopened _ _ := rfl
  listed k n := by simp [State.empty, Stream.unopened]
  keyed n h := by simp [State.empty, Stream.unopened] at h
  nodup n := List.nodup_nil
  read_le n := Nat.le_refl 0
  bounded n := Nat.zero_le _
  readers n k h := by simp [State.empty, Stream.unopened] at h
  routed n x h := by simp [State.empty, Stream.unopened] at h

variable {capacity wants reads} {i : ι} {s : State κ α ι}

/-- An open stream has a number that was given out. Source: none: infrastructure. Kind: L -/
theorem Inv.lt_next (hinv : Inv capacity wants reads s) {n : Nat} (h : s.stream n ≠ .unopened) :
    n < s.next :=
  Nat.lt_of_not_le fun hle => h (hinv.unopened n hle)

/-- A change of one stream that leaves the table right. Source: none: infrastructure. Kind: L -/
theorem Inv.on (hinv : Inv capacity wants reads s) {n : Nat} {f : Stream κ α ι → Stream κ α ι}
    (hopen : s.stream n = .unopened → f .unopened = .unopened)
    (hkey : (f (s.stream n)).key = (s.stream n).key)
    (hopener : (f (s.stream n)).opener = (s.stream n).opener)
    (hlisted : none ∈ (f (s.stream n)).holders ↔ none ∈ (s.stream n).holders)
    (hnodup : (f (s.stream n)).holders.Nodup)
    (hread : (f (s.stream n)).read ≤ (f (s.stream n)).sent.length)
    (hbound : (f (s.stream n)).sent.length ≤ (f (s.stream n)).read + capacity)
    (hrouted : ∀ x ∈ (f (s.stream n)).sent, ∃ k, (s.stream n).key = some k ∧ wants x.1 k x.2) :
    Inv capacity wants reads (s.on n f) where
  unopened m hm := by
    have hm' := hinv.unopened m hm
    rw [State.on_stream]
    split
    · next h =>
      subst h
      rw [hm', hopen hm']
    · exact hm'
  listed k m := by
    rw [State.on_table, State.on_stream, hinv.listed]
    split
    · next h =>
      subst h
      rw [hkey, hlisted]
    · rfl
  keyed m := by
    rw [State.on_stream]
    split
    · next h =>
      subst h
      rw [hkey, hlisted]
      exact hinv.keyed m
    · exact hinv.keyed m
  nodup m := by
    rw [State.on_stream]
    split
    · next h => exact h ▸ hnodup
    · exact hinv.nodup m
  read_le m := by
    rw [State.on_stream]
    split
    · next h => exact h ▸ hread
    · exact hinv.read_le m
  bounded m := by
    rw [State.on_stream]
    split
    · next h => exact h ▸ hbound
    · exact hinv.bounded m
  readers m k := by
    rw [State.on_stream]
    split
    · next h =>
      subst h
      rw [hkey, hopener]
      exact hinv.readers m k
    · exact hinv.readers m k
  routed m := by
    rw [State.on_stream]
    split
    · next h =>
      subst h
      rw [hkey]
      exact hrouted
    · exact hinv.routed m

/-- The table without a key. Source: none: infrastructure. Kind: L -/
theorem Inv.removed (hinv : Inv capacity wants reads s) (k : κ) : Inv capacity wants reads (s.removed k) where
  unopened n hn := by
    have hn' := hinv.unopened n (by simpa [State.removed] using hn)
    simp [State.removed, State.unlist_stream, hn', Stream.unopened]
  listed k' n := by
    have h := hinv.listed k' n
    have hk := hinv.listed k n
    simp only [State.removed, State.unlist_stream, KV.get_del]
    by_cases hkk : k' = k
    · subst hkk
      rw [if_pos rfl]
      split
      · simp [(hinv.nodup n).not_mem_erase]
      · next hne => simpa using fun hkey hmem => hne (hk.mpr ⟨hkey, hmem⟩)
    · rw [if_neg hkk, h]
      split
      · next heq =>
        have := (hk.mp heq).1
        simp [this, Ne.symm hkk]
      · rfl
  keyed n hn := by
    simp only [State.removed, State.unlist_stream] at hn ⊢
    apply hinv.keyed n
    split at hn
    · exact List.mem_of_mem_erase hn
    · exact hn
  nodup n := by
    simp only [State.removed, State.unlist_stream]
    split
    · exact (hinv.nodup n).erase _
    · exact hinv.nodup n
  read_le n := by simpa [State.removed, State.unlist_stream] using hinv.read_le n
  bounded n := by simpa [State.removed, State.unlist_stream] using hinv.bounded n
  readers n k' := by simpa [State.removed, State.unlist_stream] using hinv.readers n k'
  routed n := by simpa [State.removed, State.unlist_stream] using hinv.routed n

/-- The table with another stream at a key. Source: none: infrastructure. Kind: L -/
theorem Inv.registered (hinv : Inv capacity wants reads s) (k : κ) {n : Nat}
    (hopener : (s.stream n).opener = some i) (hkey : (s.stream n).key = none) (hreads : reads i k) :
    Inv capacity wants reads (s.registered i k n) := by
  have hlt : n < s.next := hinv.lt_next fun h => by simp [h, Stream.unopened] at hopener
  have hsent : (s.stream n).sent = [] := by
    refine List.eq_nil_iff_forall_not_mem.mpr fun x hx => ?_
    obtain ⟨k', hk', -⟩ := hinv.routed n x hx
    simp [hkey] at hk'
  have hnone : none ∉ (s.stream n).holders := fun h => by
    obtain ⟨k', hk'⟩ := hinv.keyed n h
    simp [hkey] at hk'
  have hself : (s.unlist k).stream n = s.stream n := by
    have hget : s.table.get k ≠ some n := fun h => hnone ((hinv.listed k n).mp h).2
    rw [State.unlist_stream, if_neg hget]
  have hrest := hinv.removed k
  have hstream : ∀ m, (s.registered i k n).stream m =
      if m = n then (s.stream n).enlist i k else (s.removed k).stream m := by
    intro m
    rw [State.registered_stream]
    split
    · next h => rw [h, hself]
    · rfl
  constructor
  case unopened =>
    intro m hm
    have hm' : s.next ≤ m := by simpa [State.registered] using hm
    rw [hstream, if_neg (by omega)]
    exact hrest.unopened m (by simpa [State.removed] using hm')
  case listed =>
    intro k' m
    have hold := hrest.listed k' m
    rw [hstream]
    simp only [State.registered, State.removed, KV.get_put] at hold ⊢
    by_cases hm : m = n
    · subst hm
      by_cases hk : k' = k
      · simp [hk, Stream.enlist]
      · simpa [hk, Ne.symm hk, hkey, Stream.enlist] using fun h => ((hinv.listed k' m).mp h).1
    · rw [if_neg hm]
      by_cases hk : k' = k
      · subst hk
        rw [if_pos rfl, ← hold]
        simp [Ne.symm hm]
      · rw [if_neg hk, ← hold, KV.get_del_of_ne _ _ _ hk]
  case keyed =>
    intro m
    rw [hstream]
    split
    · exact fun _ => ⟨k, rfl⟩
    · exact hrest.keyed m
  case nodup =>
    intro m
    rw [hstream]
    split
    · exact List.nodup_cons.mpr ⟨fun h => hnone (List.mem_of_mem_erase h), (hinv.nodup n).erase _⟩
    · exact hrest.nodup m
  case read_le =>
    intro m
    rw [hstream]
    split
    · exact hinv.read_le n
    · exact hrest.read_le m
  case bounded =>
    intro m
    rw [hstream]
    split
    · exact hinv.bounded n
    · exact hrest.bounded m
  case readers =>
    intro m k'
    rw [hstream]
    split
    · intro hk'
      obtain rfl := Option.some.inj hk'
      exact ⟨i, hopener, hreads⟩
    · exact hrest.readers m k'
  case routed =>
    intro m
    rw [hstream]
    split
    · simp [hsent, Stream.enlist]
    · exact hrest.routed m

/-- One more stream. Source: none: infrastructure. Kind: L -/
theorem Inv.opened (hinv : Inv capacity wants reads s) (i : ι) : Inv capacity wants reads (s.opened i) := by
  have hold := hinv.unopened s.next (Nat.le_refl _)
  refine ⟨fun n hn => ?_, fun k n => ?_, fun n => ?_, fun n => ?_, fun n => ?_, fun n => ?_,
    fun n k => ?_, fun n => ?_⟩ <;> rw [State.opened_stream]
  · rw [State.opened_next] at hn
    rw [if_neg (by omega)]
    exact hinv.unopened n (by omega)
  · rw [State.opened_table, hinv.listed]
    split
    · next h => simp [h, hold, Stream.unopened]
    · rfl
  · split
    · simp
    · exact hinv.keyed n
  · split
    · exact List.nodup_singleton _
    · exact hinv.nodup n
  · split
    · exact Nat.le_refl _
    · exact hinv.read_le n
  · split
    · exact Nat.zero_le _
    · exact hinv.bounded n
  · split
    · simp
    · exact hinv.readers n k
  · split
    · simp
    · exact hinv.routed n

/-! ## The discipline -/

/-- What is done keeps `Inv`. Source: none: infrastructure. Kind: L -/
theorem Inv.step (hinv : Inv capacity wants reads s) {o : Op κ α} (hpre : Pre wants reads i o s) {r : o.Resp}
    {s' : State κ α ι} (h : perform capacity i o s = some (r, s')) : Inv capacity wants reads s' := by
  cases o with
  | open_ =>
      obtain ⟨-, rfl⟩ := by simpa [perform] using h
      exact hinv.opened i
  | register k n =>
      obtain rfl := by simpa [perform] using h
      exact hinv.registered k hpre.1 hpre.2.1 hpre.2.2
  | lookup k =>
      simp only [perform] at h
      split at h
      · obtain ⟨-, rfl⟩ := by simpa using h
        exact hinv
      · next n hget =>
        obtain ⟨-, rfl⟩ := by simpa using h
        obtain ⟨hkey, -⟩ := (hinv.listed k n).mp hget
        refine hinv.on (fun hun => ?_) rfl rfl (by simp) ?_ (hinv.read_le n) (hinv.bounded n)
          (hinv.routed n)
        · simp [hun, Stream.unopened] at hkey
        · exact List.nodup_cons.mpr ⟨(hpre n).1, hinv.nodup n⟩
  | remove k =>
      obtain rfl := by simpa [perform] using h
      exact hinv.removed k
  | trySend n a =>
      simp only [perform] at h
      obtain ⟨-, k, hkey, hwants⟩ := hpre
      split at h
      · next hacc =>
        obtain ⟨-, rfl⟩ := by simpa using h
        have hroom := (by simpa [Stream.accepts] using hacc : _ ∧ _).2
        refine hinv.on (fun hun => ?_) rfl rfl Iff.rfl (hinv.nodup n) ?_ ?_ fun x hx => ?_
        · simp [hun, Stream.unopened] at hkey
        · have := hinv.read_le n
          simp only [List.length_append, List.length_singleton]
          omega
        · simp only [List.length_append, List.length_singleton]
          omega
        · rcases List.mem_append.mp hx with hx | hx
          · exact hinv.routed n x hx
          · rw [List.mem_singleton.mp hx]
            exact ⟨k, hkey, hwants⟩
      · obtain ⟨-, rfl⟩ := by simpa using h
        exact hinv
  | release n =>
      obtain rfl := by simpa [perform] using h
      exact hinv.on (fun _ => rfl) rfl rfl (List.mem_erase_of_ne (by simp)) ((hinv.nodup n).erase _)
        (hinv.read_le n) (hinv.bounded n) (hinv.routed n)
  | recv n =>
      simp only [perform] at h
      split at h
      · next a ha =>
        obtain ⟨-, rfl⟩ := by simpa using h
        obtain ⟨hlt, -⟩ := List.getElem?_eq_some_iff.mp ha
        refine hinv.on (fun hun => ?_) rfl rfl Iff.rfl (hinv.nodup n) hlt ?_ (hinv.routed n)
        · simp [hun, Stream.unopened] at hlt
        · have := hinv.bounded n
          dsimp only
          omega
      · split at h
        · obtain ⟨-, rfl⟩ := by simpa using h
          exact hinv
        · cases h
  | disconnect n =>
      obtain rfl := by simpa [perform] using h
      refine hinv.on (fun hun => ?_) rfl rfl Iff.rfl (hinv.nodup n) (hinv.read_le n) (hinv.bounded n)
        (hinv.routed n)
      have hopener : (s.stream n).opener = some i := hpre
      simp [hun, Stream.unopened] at hopener

/-- What is done leaves to the others what is theirs. Source: none: infrastructure. Kind: L -/
theorem rely_of_perform (hinv : Inv capacity wants reads s) {o : Op κ α} (hpre : Pre wants reads i o s)
    {r : o.Resp} {s' : State κ α ι} (h : perform capacity i o s = some (r, s')) {j : ι}
    (hj : j ≠ i) : Rely j s s' := by
  have hnot : ∀ {n}, (s.stream n).opener = some i → (s.stream n).opener ≠ some j :=
    fun h h' => hj (Option.some.inj (h'.symm.trans h))
  cases o with
  | open_ =>
      obtain ⟨-, rfl⟩ := by simpa [perform] using h
      intro n
      rw [State.opened_stream]
      split
      · next hn =>
        rw [hinv.unopened n (Nat.le_of_eq hn.symm)]
        constructor <;> simp [Stream.unopened, Stream.own, hj]
      · exact .refl j _
  | register k n =>
      obtain rfl := by simpa [perform] using h
      have hunlist : Rely j s (s.unlist k) := rely_unlist
      refine fun m => (hunlist m).trans ?_
      rw [State.registered_stream]
      split
      · next hm =>
        subst hm
        have hkey : ((s.unlist k).stream m).key = none := by
          rw [State.unlist_stream]
          exact hpre.2.1
        refine ⟨List.prefix_rfl, rfl, fun k' hk' => ?_, ?_, fun hopener => ?_, fun hne => ?_⟩
        · simp [hkey] at hk'
        · simp [Stream.enlist, List.mem_erase_of_ne, hj]
        · rw [State.unlist_stream] at hopener
          exact absurd hopener (hnot hpre.1)
        · exact absurd hkey hne
      · exact .refl j _
  | lookup k =>
      simp only [perform] at h
      split at h
      · obtain ⟨-, rfl⟩ := by simpa using h
        exact fun m => .refl j _
      · next n hget =>
        obtain ⟨-, rfl⟩ := by simpa using h
        refine rely_on (.holders (by simp [hj]) fun hnil => ?_)
        have hlisted := ((hinv.listed k n).mp hget).2
        simp [hnil] at hlisted
  | remove k =>
      obtain rfl := by simpa [perform] using h
      exact rely_unlist (s := s)
  | trySend n a =>
      simp only [perform] at h
      split at h
      · obtain ⟨-, rfl⟩ := by simpa using h
        refine rely_on ⟨List.prefix_append _ _, ?_, fun _ hk => hk, Iff.rfl,
          fun hx => ⟨hx, rfl, rfl⟩, fun _ hnil => ?_⟩
        · simp [Stream.own, List.filter_append, Ne.symm hj]
        · have hholds := hpre.1
          simp [hnil] at hholds
      · obtain ⟨-, rfl⟩ := by simpa using h
        exact fun m => .refl j _
  | release n =>
      obtain rfl := by simpa [perform] using h
      exact rely_on (.holders (List.mem_erase_of_ne (by simp [hj])) fun hnil => by simp [hnil])
  | recv n =>
      simp only [perform] at h
      split at h
      · obtain ⟨-, rfl⟩ := by simpa using h
        exact rely_on ⟨List.prefix_rfl, rfl, fun _ hk => hk, Iff.rfl,
          fun hx => absurd hx (hnot hpre.1), fun _ hnil => ⟨hnil, rfl⟩⟩
      · split at h
        · obtain ⟨-, rfl⟩ := by simpa using h
          exact fun m => .refl j _
        · cases h
  | disconnect n =>
      obtain rfl := by simpa [perform] using h
      exact rely_on ⟨List.prefix_rfl, rfl, fun _ hk => hk, Iff.rfl,
        fun hx => ⟨hx, rfl, rfl⟩, fun _ hnil => ⟨hnil, rfl⟩⟩

variable (capacity wants reads)

/-- **Nobody touches what is another's.** Source: none: infrastructure. Kind: D -/
def discipline : Discipline (machine (κ := κ) (α := α) (ι := ι) capacity) Unit where
  upd _ _ := ()
  inv s _ := Inv capacity wants reads s
  rely i s _ s' _ := Rely i s s'
  pre i o s _ := Pre wants reads i o s
  assume _ := True
  rely_refl _ _ _ := fun _ => .refl _ _
  rely_trans _ _ _ _ _ _ _ h h' := fun n => (h n).trans (h' n)
  step e _ hdoes _ hinv hpre := by
    obtain ⟨_, hexec⟩ := hdoes
    exact ⟨hinv.step hpre hexec, fun j hj => rely_of_perform hinv hpre hexec hj⟩
  tick t := t.elim

/-! ## What one process knows -/

/-- The process has no sender and has sent nothing. Source: none: infrastructure. Kind: D -/
def Idle (i : ι) (s : State κ α ι) : Prop :=
  ∀ n, some i ∉ (s.stream n).holders ∧ (s.stream n).own i = []

/-- The process has one sender, and all it has sent went there.
Source: none: infrastructure. Kind: D -/
structure Holding (i : ι) (k : κ) (n : Nat) (sent : List (ι × α)) (s : State κ α ι) : Prop where
  key : (s.stream n).key = some k
  holds : some i ∈ (s.stream n).holders
  own : (s.stream n).own i = sent
  others : ∀ m, m ≠ n → some i ∉ (s.stream m).holders ∧ (s.stream m).own i = []

/-- The process has given its sender back. Source: none: infrastructure. Kind: D -/
structure Placed (i : ι) (k : κ) (n : Nat) (sent : List (ι × α)) (s : State κ α ι) : Prop where
  key : (s.stream n).key = some k
  free : ∀ m, some i ∉ (s.stream m).holders
  own : (s.stream n).own i = sent
  others : ∀ m, m ≠ n → (s.stream m).own i = []

/-- The process has a stream it has not registered. Source: none: infrastructure. Kind: D -/
structure Opened (i : ι) (n : Nat) (s : State κ α ι) : Prop where
  opener : (s.stream n).opener = some i
  key : (s.stream n).key = none
  others : ∀ m, m ≠ n → some i ∉ (s.stream m).holders

/-- The process reads a stream, and these are the items it has got.
Source: none: infrastructure. Kind: D -/
structure Reading (i : ι) (k : κ) (n : Nat) (got : List α) (s : State κ α ι) : Prop where
  opener : (s.stream n).opener = some i
  key : (s.stream n).key = some k
  free : ∀ m, some i ∉ (s.stream m).holders
  got : ((s.stream n).sent.take (s.stream n).read).map Prod.snd = got
  /-- There is as much to read as was read. -/
  read_le : (s.stream n).read ≤ (s.stream n).sent.length

/-- A stream is read to its end. Source: none: infrastructure. Kind: D -/
def Ended (n : Nat) (s : State κ α ι) : Prop :=
  (s.stream n).holders = [] ∧ (s.stream n).read = (s.stream n).sent.length

section knows

variable {capacity : Nat} {wants : ι → κ → α → Prop} {reads : ι → κ → Prop} {i : ι} {k : κ}
  {n : Nat}  {sent : List (ι × α)} {got : List α} {s s' : State κ α ι}

theorem Idle.mono (h : Idle i s) (hr : Rely i s s') : Idle i s' := by
  intro n
  rw [(hr n).holds, (hr n).own]
  exact h n

theorem Holding.mono (h : Holding i k n sent s) (hr : Rely i s s') : Holding i k n sent s' where
  key := (hr n).key k h.key
  holds := (hr n).holds.mpr h.holds
  own := (hr n).own.trans h.own
  others m hm := by
    rw [(hr m).holds, (hr m).own]
    exact h.others m hm

theorem Placed.mono (h : Placed i k n sent s) (hr : Rely i s s') : Placed i k n sent s' where
  key := (hr n).key k h.key
  free m := mt (hr m).holds.mp (h.free m)
  own := (hr n).own.trans h.own
  others m hm := (hr m).own.trans (h.others m hm)

theorem Opened.mono (h : Opened i n s) (hr : Rely i s s') : Opened i n s' := by
  obtain ⟨hopener, hkey, -⟩ := (hr n).reader h.opener
  exact ⟨hopener, hkey.trans h.key, fun m hm => mt (hr m).holds.mp (h.others m hm)⟩

theorem Reading.mono (h : Reading i k n got s) (hr : Rely i s s') : Reading i k n got s' := by
  obtain ⟨hopener, -, hread⟩ := (hr n).reader h.opener
  obtain ⟨rest, hsent⟩ := (hr n).sent
  refine ⟨hopener, (hr n).key k h.key, fun m => mt (hr m).holds.mp (h.free m), ?_, ?_⟩
  · rw [hread, ← hsent, List.take_append_of_le_length h.read_le]
    exact h.got
  · rw [hread, ← hsent, List.length_append]
    exact Nat.le_add_right_of_le h.read_le

theorem Reading.ended_mono (h : Reading i k n got s) (he : Ended n s) (hr : Rely i s s') :
    Ended n s' := by
  obtain ⟨hnil, hsent⟩ := (hr n).ended (by simp [h.key]) he.1
  obtain ⟨-, -, hread⟩ := (hr n).reader h.opener
  refine ⟨hnil, ?_⟩
  rw [hread, hsent]
  exact he.2

/-- The reader has these items, and the stream has ended if it says so.
Source: none: infrastructure. Kind: D -/
def ReadTo (i : ι) (k : κ) (n : Nat) (got : List α) (ended : Bool) (s : State κ α ι) : Prop :=
  Reading i k n got s ∧ (ended = true → Ended n s)

theorem ReadTo.mono {ended : Bool} (h : ReadTo i k n got ended s) (hr : Rely i s s') :
    ReadTo i k n got ended s' :=
  ⟨h.1.mono hr, fun he => h.1.ended_mono (h.2 he) hr⟩

/-- The reader of an ended stream has got everything. Source: none: infrastructure. Kind: L -/
theorem Reading.got_of_ended (h : Reading i k n got s) (he : Ended n s) :
    got = (s.stream n).sent.map Prod.snd := by
  rw [← h.got, he.2, List.take_length]

/-- A sender of the stream under a key. Source: none: infrastructure. Kind: L -/
theorem Idle.lookup (h : Idle i s) (hinv : Inv capacity wants reads s) {r : Option Nat}
    (hp : perform capacity i (.lookup k) s = some (r, s')) :
    (r = none ∧ Idle i s') ∨ ∃ n, r = some n ∧ Holding i k n [] s' := by
  simp only [perform] at hp
  split at hp
  · obtain ⟨rfl, rfl⟩ := by simpa using hp
    exact .inl ⟨rfl, h⟩
  · next n hget =>
    obtain ⟨rfl, rfl⟩ := by simpa using hp
    refine .inr ⟨n, rfl, ?_, ?_, ?_, fun m hm => ?_⟩
    · simpa [State.on_stream] using ((hinv.listed k n).mp hget).1
    · simp [State.on_stream]
    · simpa [State.on_stream, Stream.own] using (h n).2
    · rw [State.on_stream, if_neg hm]
      exact h m

/-- The stream takes an item, or it does not. Source: none: infrastructure. Kind: L -/
theorem Holding.trySend (h : Holding i k n sent s) {a : α} {r : Bool}
    (hp : perform capacity i (.trySend n a) s = some (r, s')) :
    Holding i k n (if r then sent ++ [(i, a)] else sent) s' := by
  simp only [perform] at hp
  split at hp
  · obtain ⟨rfl, rfl⟩ := by simpa using hp
    refine ⟨?_, ?_, ?_, fun m hm => ?_⟩
    · simpa [State.on_stream] using h.key
    · simpa [State.on_stream] using h.holds
    · simpa [State.on_stream, Stream.own] using h.own
    · rw [State.on_stream, if_neg hm]
      exact h.others m hm
  · obtain ⟨rfl, rfl⟩ := by simpa using hp
    exact h

/-- The sender is dropped. Source: none: infrastructure. Kind: L -/
theorem Holding.release (h : Holding i k n sent s) (hinv : Inv capacity wants reads s) {r : Unit}
    (hp : perform capacity i (.release n) s = some (r, s')) : Placed i k n sent s' := by
  obtain rfl := by simpa [perform] using hp
  refine ⟨?_, fun m => ?_, ?_, fun m hm => ?_⟩
  · simpa [State.on_stream] using h.key
  · rw [State.on_stream]
    split
    · next hm =>
      subst hm
      exact (hinv.nodup m).not_mem_erase
    · next hm => exact (h.others m hm).1
  · simpa [State.on_stream, Stream.own] using h.own
  · rw [State.on_stream, if_neg hm]
    exact (h.others m hm).2

/-- A sender is taken out of the table. Source: none: infrastructure. Kind: L -/
theorem Idle.remove (h : Idle i s) {r : Unit}
    (hp : perform capacity i (.remove k) s = some (r, s')) : Idle i s' := by
  obtain rfl := by simpa [perform] using hp
  exact h.mono (rely_unlist (s := s))

/-- A stream is opened. Source: none: infrastructure. Kind: L -/
theorem Idle.open_ (h : Idle i s) {r : Nat} (hp : perform capacity i .open_ s = some (r, s')) :
    Opened i r s' := by
  obtain ⟨rfl, rfl⟩ := by simpa [perform] using hp
  constructor
  case others =>
    intro m hm
    rw [State.opened_stream, if_neg hm]
    exact (h m).1
  all_goals rw [State.opened_stream, if_pos rfl]

/-- A stream is put into the table. Source: none: infrastructure. Kind: L -/
theorem Opened.register (h : Opened i n s) (hinv : Inv capacity wants reads s) (k : κ) {r : Unit}
    (hp : perform capacity i (.register k n) s = some (r, s')) : Reading i k n [] s' := by
  obtain rfl := by simpa [perform] using hp
  have hsent : (s.stream n).sent = [] := by
    refine List.eq_nil_iff_forall_not_mem.mpr fun x hx => ?_
    obtain ⟨k', hk', -⟩ := hinv.routed n x hx
    simp [h.key] at hk'
  have hread : (s.stream n).read = 0 := by simpa [hsent] using hinv.read_le n
  constructor
  case free =>
    intro m
    rw [State.registered_stream, State.unlist_stream]
    split
    · next hm =>
      subst hm
      simp only [Stream.enlist, List.mem_cons, reduceCtorEq, false_or]
      split
      · exact ((hinv.nodup m).erase _).not_mem_erase
      · exact (hinv.nodup m).not_mem_erase
    · next hm =>
      dsimp only
      split
      · exact mt List.mem_of_mem_erase (h.others m hm)
      · exact h.others m hm
  all_goals
    rw [State.registered_stream, State.unlist_stream, if_pos rfl]
    simp [Stream.enlist, h.opener, hsent, hread]

/-- One more item, or the end. Source: none: infrastructure. Kind: L -/
theorem Reading.recv (h : Reading i k n got s) {r : Option α}
    (hp : perform capacity i (.recv n) s = some (r, s')) :
    (∃ a, r = some a ∧ Reading i k n (got ++ [a]) s') ∨
      r = none ∧ Reading i k n got s' ∧ Ended n s' := by
  simp only [perform] at hp
  split at hp
  · next a ha =>
    obtain ⟨rfl, rfl⟩ := by simpa using hp
    obtain ⟨hlt, hget⟩ := List.getElem?_eq_some_iff.mp ha
    refine .inl ⟨a.2, rfl, ?_, ?_, fun m => ?_, ?_, ?_⟩ <;> rw [State.on_stream]
    · simpa using h.opener
    · simpa using h.key
    · split
      · next hm => exact hm ▸ h.free n
      · exact h.free m
    · rw [if_pos rfl]
      dsimp only
      rw [List.take_add_one, ha, List.map_append, h.got]
      rfl
    · rw [if_pos rfl]
      exact hlt
  · next hnone =>
    split at hp
    · next hnil =>
      obtain ⟨rfl, rfl⟩ := by simpa using hp
      exact .inr ⟨rfl, h, hnil, Nat.le_antisymm h.read_le (List.getElem?_eq_none_iff.mp hnone)⟩
    · cases hp

/-- The reader goes. Source: none: infrastructure. Kind: L -/
theorem ReadTo.disconnect {ended : Bool} (h : ReadTo i k n got ended s) {r : Unit}
    (hp : perform capacity i (.disconnect n) s = some (r, s')) : ReadTo i k n got ended s' := by
  obtain rfl := by simpa [perform] using hp
  have hstream : ∀ m, (s.on n fun x => { x with dropped := true }).stream m =
      { s.stream m with dropped := if m = n then true else (s.stream m).dropped } := by
    intro m
    rw [State.on_stream]
    split <;> rfl
  refine ⟨⟨?_, ?_, fun m => ?_, ?_, ?_⟩, fun he => ?_⟩
  all_goals simp only [Ended, hstream]
  · exact h.1.opener
  · exact h.1.key
  · exact h.1.free m
  · exact h.1.got
  · exact h.1.read_le
  · exact h.2 he

/-! ## Runs -/

/-- Only a reader waits. Source: none: infrastructure. Kind: L -/
theorem waits_of_perform {o : Op κ α} (h : perform capacity i o s = none) : ∃ n, o = .recv n ∧
    (s.stream n).holders ≠ [] ∧ (s.stream n).sent.length ≤ (s.stream n).read := by
  cases o with
  | recv n =>
      simp only [perform] at h
      split at h
      · cases h
      · next hnone =>
        split at h
        · cases h
        · next hne => exact ⟨n, rfl, hne, List.getElem?_eq_none_iff.mp hnone⟩
  | lookup k =>
      simp only [perform] at h
      split at h <;> cases h
  | trySend n a =>
      simp only [perform] at h
      split at h <;> cases h
  | _ => cases h

/-- No item is taken back. Source: none: infrastructure. Kind: L -/
theorem sent_of_perform (hinv : Inv capacity wants reads s) {o : Op κ α} {r : o.Resp}
    (h : perform capacity i o s = some (r, s')) (m : Nat) :
    (s.stream m).sent <+: (s'.stream m).sent := by
  cases o with
  | open_ =>
      obtain ⟨-, rfl⟩ := by simpa [perform] using h
      rw [State.opened_stream]
      split
      · next hm => simp [hinv.unopened m (Nat.le_of_eq hm.symm), Stream.unopened]
      · exact List.prefix_rfl
  | register k n =>
      obtain rfl := by simpa [perform] using h
      rw [State.registered_stream, State.unlist_stream]
      split <;> exact List.prefix_rfl
  | remove k =>
      obtain rfl := by simpa [perform] using h
      have hsame : ((s.unlist k).stream m).sent = (s.stream m).sent := by rw [State.unlist_stream]
      show (s.stream m).sent <+: ((s.unlist k).stream m).sent
      simp [hsame]
  | lookup k =>
      simp only [perform] at h
      split at h
      all_goals obtain ⟨-, rfl⟩ := by simpa using h
      · exact List.prefix_rfl
      · rw [State.on_stream]
        split <;> exact List.prefix_rfl
  | trySend n a =>
      simp only [perform] at h
      split at h
      all_goals obtain ⟨-, rfl⟩ := by simpa using h
      · rw [State.on_stream]
        split
        · exact List.prefix_append _ _
        · exact List.prefix_rfl
      · exact List.prefix_rfl
  | recv n =>
      simp only [perform] at h
      split at h
      · obtain ⟨-, rfl⟩ := by simpa using h
        rw [State.on_stream]
        split <;> exact List.prefix_rfl
      · split at h
        · obtain ⟨-, rfl⟩ := by simpa using h
          exact List.prefix_rfl
        · cases h
  | release n =>
      obtain rfl := by simpa [perform] using h
      rw [State.on_stream]
      split <;> exact List.prefix_rfl
  | disconnect n =>
      obtain rfl := by simpa [perform] using h
      rw [State.on_stream]
      split <;> exact List.prefix_rfl

section rules

variable {ε β : Type} {post : Except ε β → State κ α ι → Unit → Prop} {P : State κ α ι → Prop}

/-- The rule for one operation. Source: none: infrastructure. Kind: L -/
theorem safe_call {o : Op κ α} {f : o.Resp → Prog (iface κ α) ε β} (h : P s)
    (hmono : ∀ {s s'}, P s → Rely i s s' → P s') (hpre : ∀ {s}, P s → Pre wants reads i o s)
    (hk : ∀ s r s', Inv capacity wants reads s → P s → perform capacity i o s = some (r, s') →
      (f r).Safe (discipline capacity wants reads) i post s' ()) :
    (Prog.call o f).Safe (discipline capacity wants reads) i post s () := by
  apply Prog.Safe.call
  intro t _ hrely hinv
  have ht := hmono h hrely
  refine ⟨hpre ht, fun r t' hdoes _ _ => ?_⟩
  obtain ⟨_, hexec⟩ := hdoes
  exact hk t r t' hinv ht hexec

/-- The rule for a result. Source: none: infrastructure. Kind: L -/
theorem safe_ret {b : β} (h : P s) (hmono : ∀ {s s'}, P s → Rely i s s' → P s')
    (hpost : ∀ {s}, P s → post (.ok b) s ()) :
    (Prog.ret b : Prog (iface κ α) ε β).Safe (discipline capacity wants reads) i post s () :=
  fun _ _ hrely _ => hpost (hmono h hrely)

end rules

section runs

variable {ε : Type} {τ : ι → Type} {post : (j : ι) → Except ε (τ j) → State κ α ι → Unit → Prop}
  {c d : Config (iface κ α) ε (State κ α ι) τ} {tr : List (Event (iface κ α) ι (State κ α ι))}

/-- **When nobody can go on, only readers are left**, and each waits at the stream that is in the
table, with nothing to read. Every holder of another sender could go on.
Source: none: infrastructure. Kind: P -/
theorem waits_of_stuck (hinv : Inv capacity wants reads d.shared)
    (hsafe : ∀ j, (d.progs j).Safe (discipline capacity wants reads) j (post j) d.shared ())
    (hfree : ∀ j r s, post j r s () → ∀ m, some j ∉ (s.stream m).holders)
    (hstuck : ∀ j o f, d.progs j = .call o f → perform capacity j o d.shared = none)
    {j : ι} (hret : (d.progs j).result? = none) :
    ∃ k n f, d.progs j = .call (.recv n) f ∧ (d.shared.stream n).opener = some j ∧
      d.shared.table.get k = some n ∧ reads j k ∧
      (d.shared.stream n).read = (d.shared.stream n).sent.length := by
  have hwaits : ∀ {j o f}, d.progs j = .call o f → ∃ n, o = .recv n ∧
      Pre wants reads j (.recv n : Op κ α) d.shared ∧ (d.shared.stream n).holders ≠ [] ∧
      (d.shared.stream n).sent.length ≤ (d.shared.stream n).read := by
    intro j o f hprog
    obtain ⟨n, rfl, hne, hle⟩ := waits_of_perform (hstuck j o f hprog)
    have hj := hsafe j
    rw [hprog] at hj
    exact ⟨n, rfl, (Discipline.Stable.now hj hinv).1, hne, hle⟩
  have hnone : ∀ j m, some j ∉ (d.shared.stream m).holders := by
    intro j m
    have hj := hsafe j
    cases hprog : d.progs j with
    | ret b =>
        rw [hprog] at hj
        exact hfree j _ _ (Discipline.Stable.now hj hinv) m
    | err e =>
        rw [hprog] at hj
        exact hfree j _ _ (Discipline.Stable.now hj hinv) m
    | call o f =>
        obtain ⟨n, -, hpre, -⟩ := hwaits hprog
        exact hpre.2.2 m
  cases hprog : d.progs j with
  | ret b => simp [hprog, Prog.result?] at hret
  | err e => simp [hprog, Prog.result?] at hret
  | call o f =>
      obtain ⟨n, rfl, hpre, hne, hle⟩ := hwaits hprog
      obtain ⟨x, hx⟩ := List.exists_mem_of_ne_nil _ hne
      cases x with
      | some j' => exact absurd hx (hnone j' n)
      | none =>
          obtain ⟨k, hkey⟩ := hinv.keyed n hx
          obtain ⟨j', hopener, hreads⟩ := hinv.readers n k hkey
          obtain rfl := Option.some.inj (hopener.symm.trans hpre.1)
          exact ⟨k, n, f, rfl, hpre.1, (hinv.listed k n).mpr ⟨hkey, hx⟩, hreads,
            Nat.le_antisymm (hinv.read_le n) hle⟩

/-- Items are only added, at the end. Source: none: infrastructure. Kind: P -/
theorem sent_of_run (hrun : Run (machine capacity) c tr d) (hinv : Inv capacity wants reads c.shared)
    (hsafe : ∀ j, (c.progs j).Safe (discipline capacity wants reads) j (post j) c.shared ()) (n : Nat) :
    (c.shared.stream n).sent <+: (d.shared.stream n).sent := by
  apply hrun.le_of_events (R := fun s s' => (s.stream n).sent <+: (s'.stream n).sent)
  · exact fun _ => List.prefix_rfl
  · exact List.IsPrefix.trans
  · exact fun t => t.elim
  · intro e he
    obtain ⟨⟨_, hexec⟩, -, _, hinv', -, -⟩ :=
      hrun.sound_event (discipline capacity wants reads) post hinv hsafe (fun _ _ => trivial) e he
    exact sent_of_perform hinv' hexec n

end runs

end knows

end discipline

end Rollout.Lib.Hub
