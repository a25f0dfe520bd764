import Rollout.Batch.Runtime
import Rollout.Lib.Restart

/-!
# The local queue

`InMemQueue` as it runs on a durable storage, one storage or deque operation at a time.

* `UlidGenerator` — the generator of the ULID library, a parameter with what its documentation says.
* `QueueOp` — what the queue does: draw an identifier, the statements of a transaction, a read, and
  the two ends of the deque. A commit may take effect and still answer an error.
* `enqueue`, `dequeue`, `ack`, `nack` — the queue, as programs. `replay` is what `open` makes of the
  rows it has scanned; `Reopens` is a stop of the process and an `open` after it.
* `queueReboot` — any number of lives, in each of which any number of calls run side by side.
-/

set_option linter.unusedSectionVars false

namespace Rollout.CloudLocal

open Rollout.Lib Rollout.Core
open Rollout.Batch (keyFor keyFor_inj replayed sortById)

/-- The timestamp part of a ULID: its first 48 bits.
Source: `rollout-cloud-local/src/queue.rs` (`ulid::Ulid`). Kind: D -/
def timestampMs (id : Ulid) : Nat := id.bits.toNat / 2 ^ 80

/-- **The monotonic generator of the ULID library**, given what the clock shows, with what its
documentation promises as long as the clock fits the timestamp: identifiers increase, and carry the
time of the clock, or that of the identifier before when the clock has not passed it.
Source: `rollout-cloud-local/src/queue.rs` (`ulid::Generator`). Kind: D -/
class UlidGenerator where
  /-- What a generator remembers. -/
  Gen : Type
  /-- What it draws its random part from. -/
  Source : Type
  /-- A fresh generator. -/
  new : Gen
  /-- The next identifier. -/
  generate : Nat → Source → Gen → Except String (Ulid × Gen)
  /-- The identifier before. -/
  previous : Gen → Ulid
  previous_new : (previous new).bits.toNat = 0
  previous_generate : ∀ {now src g id g'}, generate now src g = .ok (id, g') → previous g' = id
  increasing : ∀ {now src g id g'}, generate now src g = .ok (id, g') → now < 2 ^ 48 →
    (previous g).bits.toNat < id.bits.toNat
  timestamp : ∀ {now src g id g'}, generate now src g = .ok (id, g') → now < 2 ^ 48 →
    timestampMs id = max (timestampMs (previous g)) now

variable [UlidGenerator]

/-! ## Operations -/

/-- What the queue does. Source: `rollout-cloud-local/src/queue.rs`. Kind: D -/
inductive QueueOp
  /-- Draw an identifier. -/
  | generate (now : Nat) (src : UlidGenerator.Source)
  /-- Start a transaction. -/
  | begin
  /-- Stage a put. -/
  | putBytes (key : StorageKey) (value : Bytes)
  /-- Stage a delete. -/
  | delete (key : StorageKey)
  /-- Commit the transaction. -/
  | commit
  /-- Read a row. -/
  | getBytes (key : StorageKey)
  /-- Put an item behind the others. -/
  | pushBack (id : Ulid) (payload : Bytes)
  /-- Take the first item. -/
  | popFront
  /-- Put an item before the others. -/
  | pushFront (id : Ulid) (payload : Bytes)

/-- What becomes of a statement; `lost` is the error of a commit that took effect.
Source: `rollout-core/src/traits/storage.rs` `StorageTxn::commit`. Kind: D -/
inductive Outcome
  | done
  | failed (e : CoreError)
  | lost (e : CoreError)

/-- What the caller is told. Source: `rollout-core/src/traits/storage.rs` `StorageTxn::commit`.
Kind: D -/
def Outcome.toExcept {α : Type} (a : α) : Outcome → Except CoreError α
  | .done => .ok a
  | .failed e => .error e
  | .lost e => .error e

/-- What an operation answers. Source: `rollout-cloud-local/src/queue.rs`. Kind: D -/
@[reducible] def QueueOp.Resp : QueueOp → Type
  | .generate .. => Except String Ulid
  | .begin => Except CoreError Unit
  | .putBytes .. => Except CoreError Unit
  | .delete _ => Except CoreError Unit
  | .commit => Outcome
  | .getBytes _ => Except CoreError (Option Bytes)
  | .pushBack .. => Unit
  | .popFront => Option (Ulid × Bytes)
  | .pushFront .. => Unit

/-- The interface of the queue. Source: none: infrastructure. Kind: D -/
@[reducible] def queueIface : Iface := ⟨QueueOp, QueueOp.Resp⟩

/-- Programs of the queue. Source: none: infrastructure. Kind: D -/
abbrev QueueM := Prog queueIface CoreError

/-! ## The queue -/

/-- Source: `rollout-cloud-local/src/queue.rs` `enqueue`. Kind: D -/
def enqueue (now : Nat) (src : UlidGenerator.Source) (payload : Bytes) : QueueM Ulid := do
  let drawn ← Prog.op (I := queueIface) (.generate now src)
  let id ← Prog.ofExcept (drawn.mapError fun e => .internal ("ulid monotonic overflow: " ++ e))
  let begun ← Prog.op (I := queueIface) .begin
  Prog.ofExcept begun
  let staged ← Prog.op (I := queueIface) (.putBytes (keyFor id) payload)
  Prog.ofExcept staged
  let committed ← Prog.op (I := queueIface) .commit
  Prog.ofExcept (committed.toExcept ())
  Prog.op (I := queueIface) (.pushBack id payload)
  return id

/-- Source: `rollout-cloud-local/src/queue.rs` `dequeue`. Kind: D -/
def dequeue : QueueM (Option (Ulid × Bytes)) := Prog.op (I := queueIface) .popFront

/-- Source: `rollout-cloud-local/src/queue.rs` `ack`. Kind: D -/
def ack (id : Ulid) : QueueM Unit := do
  let begun ← Prog.op (I := queueIface) .begin
  Prog.ofExcept begun
  let staged ← Prog.op (I := queueIface) (.delete (keyFor id))
  Prog.ofExcept staged
  let committed ← Prog.op (I := queueIface) .commit
  Prog.ofExcept (committed.toExcept ())

/-- An item as an error names it. Source: `rollout-cloud-local/src/queue.rs` `nack` (`{id:?}`).
Kind: D -/
def debugId (id : Ulid) : String := "QueueItemId(Ulid(" ++ toString id.bits.toNat ++ "))"

/-- Source: `rollout-cloud-local/src/queue.rs` `nack`. Kind: D -/
def nack (id : Ulid) : QueueM Unit := do
  let read ← Prog.op (I := queueIface) (.getBytes (keyFor id))
  let row ← Prog.ofExcept read
  match row with
  | none => Prog.err (.internal ("nack: queue item " ++ debugId id ++ " absent from storage"))
  | some payload => Prog.op (I := queueIface) (.pushFront id payload)

/-- The deque `open` builds from the rows it scanned.
Source: `rollout-cloud-local/src/queue.rs` `open`. Kind: D -/
def replay (entries : List (StorageKey × Bytes)) : List (Ulid × Bytes) :=
  sortById (entries.filterMap replayed)

/-- What `open` scans. Source: `rollout-cloud-local/src/queue.rs` `open` (`prefix`). Kind: D -/
def openPrefix : StorageKey := ⟨"cloudlocal_queue", none, []⟩

/-! ## Calls -/

/-- One call, with what the clock and the randomness show it.
Source: `rollout-cloud-local/src/queue.rs` `InMemQueue`. Kind: D -/
inductive QueueCall
  | enqueue (now : Nat) (src : UlidGenerator.Source) (payload : Bytes)
  | dequeue
  | ack (id : Ulid)
  | nack (id : Ulid)

/-- What a call returns. Source: `rollout-cloud-local/src/queue.rs` `InMemQueue`. Kind: D -/
def QueueCall.Out : QueueCall → Type
  | .enqueue .. => Ulid
  | .dequeue => Option (Ulid × Bytes)
  | .ack _ => Unit
  | .nack _ => Unit

/-- The code a call runs. Source: `rollout-cloud-local/src/queue.rs` `InMemQueue`. Kind: D -/
def QueueCall.prog : (call : QueueCall) → QueueM call.Out
  | .enqueue now src payload => CloudLocal.enqueue now src payload
  | .dequeue => CloudLocal.dequeue
  | .ack id => CloudLocal.ack id
  | .nack id => CloudLocal.nack id

/-! ## The process and its storage -/

/-- The storage, what each caller has staged, the deque and the generator.
Source: `rollout-cloud-local/src/queue.rs` `InMemQueue`. Kind: D -/
structure QueueState (ι : Type) where
  /-- The committed rows. -/
  store : Rows
  /-- The transaction of each caller. -/
  staged : ι → List (StorageKey × Option Bytes)
  /-- The ready deque. -/
  ready : List (Ulid × Bytes)
  /-- The generator. -/
  gen : UlidGenerator.Gen

/-- Staged writes applied to the rows. Source: none: infrastructure. Kind: D -/
def applyAll (store : Rows) (writes : List (StorageKey × Option Bytes)) : Rows :=
  writes.foldl (fun store w => store.set w.1 w.2) store

variable {ι : Type} [DecidableEq ι]

namespace QueueState

/-- Replace what a caller has staged. Source: none: infrastructure. Kind: D -/
def stage (s : QueueState ι) (i : ι) (writes : List (StorageKey × Option Bytes)) : QueueState ι :=
  { s with staged := Function.update s.staged i writes }

/-- The effect of a commit. Source: none: infrastructure. Kind: D -/
def commit (s : QueueState ι) (i : ι) : QueueState ι :=
  { s with store := applyAll s.store (s.staged i) }

end QueueState

/-- The state after a statement: a staged statement that fails is not staged.
Source: none: infrastructure. Kind: D -/
def Outcome.after (s s' : QueueState ι) : Outcome → QueueState ι
  | .done => s'
  | .failed _ => s
  | .lost _ => s

/-- The state after a commit. Source: none: infrastructure. Kind: D -/
def Outcome.committed (s : QueueState ι) (i : ι) : Outcome → QueueState ι
  | .done => s.commit i
  | .failed _ => s
  | .lost _ => s.commit i

/-- The effect of an operation. Source: `rollout-cloud-local/src/queue.rs`. Kind: D -/
def perform (outcome : Outcome) (i : ι) (s : QueueState ι) :
    (o : QueueOp) → o.Resp × QueueState ι
  | .generate now src =>
      match UlidGenerator.generate now src s.gen with
      | .ok (id, gen) => (.ok id, { s with gen })
      | .error e => (.error e, s)
  | .begin => (outcome.toExcept (), outcome.after s (s.stage i []))
  | .putBytes key value =>
      (outcome.toExcept (), outcome.after s (s.stage i (s.staged i ++ [(key, some value)])))
  | .delete key =>
      (outcome.toExcept (), outcome.after s (s.stage i (s.staged i ++ [(key, none)])))
  | .commit => (outcome, outcome.committed s i)
  | .getBytes key => (outcome.toExcept (s.store.get key), s)
  | .pushBack id payload => ((), { s with ready := s.ready ++ [(id, payload)] })
  | .popFront => (s.ready.head?, { s with ready := s.ready.tail })
  | .pushFront id payload => ((), { s with ready := (id, payload) :: s.ready })

/-- **The machine under the queue.** What happens by itself is that others write rows of other
namespaces. Source: none: infrastructure. Kind: D -/
def queueMachine (ι : Type) [DecidableEq ι] : Machine queueIface ι (QueueState ι) where
  Choice := Outcome
  exec outcome i o s := some (perform outcome i s o)
  Tick := { w : StorageKey × Option Bytes // w.1.ns ≠ "cloudlocal_queue" }
  tick w s := { s with store := s.store.set w.1.1 w.1.2 }

/-- **The process stops and the queue is opened again**; the scan gives the rows in any order.
Source: `rollout-cloud-local/src/queue.rs` `open`. Kind: D -/
def Reopens (s s' : QueueState ι) : Prop :=
  ∃ entries : List (StorageKey × Bytes),
    entries.Perm (s.store.scan fun key => keyHasPrefix key openPrefix) ∧
      s' = ⟨s.store, fun _ => [], replay entries, UlidGenerator.new⟩

/-- Lives of the queue: in each, any number of calls, side by side or one after another.
Source: `rollout-cloud-local/src/queue.rs` `InMemQueue`. Kind: D -/
@[reducible] def queueReboot (ι : Type) [DecidableEq ι] :
    Reboot (queueMachine ι) CoreError (ι → QueueCall) where
  Out calls i := (calls i).Out
  progs calls i := (calls i).prog
  Reopens := Reopens

/-- Events of the queue. Source: none: infrastructure. Kind: D -/
abbrev QueueEvent (ι : Type) := Event queueIface ι (QueueState ι)

end Rollout.CloudLocal
