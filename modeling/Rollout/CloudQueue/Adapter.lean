import Rollout.Core.Cloud
import Rollout.Core.Errors
import Rollout.Lib.KV
import Rollout.Lib.RelyGuarantee
import Rollout.Transport.Health

/-!
# The cloud queues

* `CloudState` — what the service keeps (every delivery with its receipt, which messages are still
  queued, which deliveries hold a lease) and the adapter's table of receipts. Only the newest
  delivery's receipt of a message has an effect. Messages that arrive later are as good as there
  from the start: a receive may find nothing.
* `Sqs.dequeueInternal`, `PubSub.pullOne`, `ackViaInflightTable`, `nackViaInflightTable` — the
  adapters' code; `Adapter.prog` is one call.
* `cloudMachine` — any call may fail, before or after its effect.
-/

set_option linter.unusedSectionVars false

namespace Rollout.CloudQueue

open Rollout.Lib Rollout.Core Rollout.Transport

/-! ## The service -/

/-- A message handed out to a call. Source: none: infrastructure. Kind: D -/
structure Delivery (ι : Type) where
  /-- The service's id of the message. -/
  message : String
  /-- The receipt of this delivery. -/
  receipt : String
  /-- The call it was handed to. -/
  call : ι
deriving DecidableEq

/-- The service and the adapter's table. Source: `rollout-cloud-aws/src/sqs/mod.rs` `SqsQueue`,
`rollout-cloud-gcp/src/pubsub/mod.rs` `PubSubQueue`. Kind: D -/
structure CloudState (ι : Type) where
  /-- Every delivery, the newest first. -/
  issued : List (Delivery ι)
  /-- The messages that are not deleted. -/
  queued : String → Bool
  /-- The messages whose newest delivery holds a lease. -/
  held : String → Bool
  /-- The adapter's table of receipts. -/
  inflight : KV QueueItemId String

namespace CloudState

variable {ι : Type} [DecidableEq ι] (s : CloudState ι)

/-- The newest delivery of a message. Source: none: infrastructure. Kind: D -/
def newest (m : String) : Option (Delivery ι) := s.issued.find? fun d => d.message = m

/-- The message a receipt stands for; only a newest receipt does.
Source: none: the service's assumed behaviour. Kind: D -/
def current (receipt : String) : Option String :=
  match s.issued.find? fun d => d.receipt = receipt with
  | some d => if s.newest d.message = some d then some d.message else none
  | none => none

/-- A message may be handed out again once no lease holds it, under a receipt that is new.
Source: none: the service's assumed behaviour. Kind: D -/
def canHandOut (m receipt : String) : Bool :=
  s.queued m && !s.held m && s.issued.all fun d => d.receipt ≠ receipt

/-- Hand a message out. Source: none: the service's assumed behaviour. Kind: D -/
def handOut (i : ι) (m receipt : String) : CloudState ι :=
  { s with issued := ⟨m, receipt, i⟩ :: s.issued, held := Function.update s.held m true }

/-- Acknowledge: the message is gone. Source: none: the service's assumed behaviour. Kind: D -/
def delete (receipt : String) : CloudState ι :=
  match s.current receipt with
  | some m => { s with
      queued := Function.update s.queued m false, held := Function.update s.held m false }
  | none => s

/-- Set the lease anew; without time it is released.
Source: none: the service's assumed behaviour. Kind: D -/
def deadline (receipt : String) (secs : Nat) : CloudState ι :=
  match s.current receipt with
  | some m => if secs = 0 then { s with held := Function.update s.held m false } else s
  | none => s

/-- A lease runs out. Source: none: the service's assumed behaviour. Kind: D -/
def expire (m : String) : CloudState ι := { s with held := Function.update s.held m false }

@[simp] theorem issued_handOut (i : ι) (m receipt : String) :
    (s.handOut i m receipt).issued = ⟨m, receipt, i⟩ :: s.issued := rfl

@[simp] theorem issued_delete (receipt : String) : (s.delete receipt).issued = s.issued := by
  unfold delete
  split <;> rfl

@[simp] theorem issued_deadline (receipt : String) (secs : Nat) :
    (s.deadline receipt secs).issued = s.issued := by
  unfold deadline
  split
  · split <;> rfl
  · rfl

end CloudState

/-! ## Operations -/

/-- A message of SQS. Source: `rollout-cloud-aws/src/sqs/mod.rs` `dequeue_internal` (`msg`).
Kind: D -/
structure SqsMessage where
  /-- The receipt handle. -/
  receiptHandle : Option String
  /-- The message id. -/
  messageId : Option String
  /-- The body. -/
  body : Option String

/-- A message of Pub/Sub. Source: `rollout-cloud-gcp/src/pubsub/mod.rs` `pull_one` (`msg`).
Kind: D -/
structure ReceivedMessage where
  /-- The ack id. -/
  ackId : String
  /-- The message id. -/
  messageId : String
  /-- The payload. -/
  data : Bytes

/-- What a call asks for: the service, or the table under its lock.
Source: `rollout-cloud-aws/src/sqs/lease.rs`, `rollout-cloud-gcp/src/pubsub/lease.rs`. Kind: D -/
inductive CloudOp
  | receiveMessage (visibilitySecs : Nat)
  | pull
  | delete (receipt : String)
  | deadline (receipt : String) (secs : Nat)
  | register (id : QueueItemId) (receipt : String)
  | take (id : QueueItemId)

/-- What it is answered. Source: `rollout-cloud-aws/src/sqs/lease.rs`,
`rollout-cloud-gcp/src/pubsub/lease.rs`. Kind: D -/
@[reducible] def CloudOp.Resp : CloudOp → Type
  | .receiveMessage _ => Except CoreError (Option SqsMessage)
  | .pull => Except CoreError (Option ReceivedMessage)
  | .delete _ => Except CoreError Unit
  | .deadline .. => Except CoreError Unit
  | .register .. => Unit
  | .take _ => Option String

/-- The interface of an adapter. Source: none: infrastructure. Kind: D -/
@[reducible] def cloudIface : Iface := ⟨CloudOp, CloudOp.Resp⟩

/-- Programs of an adapter. Source: none: infrastructure. Kind: D -/
abbrev CloudM := Prog cloudIface CoreError

/-- How a request ends: done, failed, or failed after it took effect.
Source: none: infrastructure. Kind: D -/
inductive Fate
  | done
  | failed (e : CoreError)
  | lost (e : CoreError)

/-- The answer to a request and the state it leaves. Source: none: infrastructure. Kind: D -/
def Fate.answer {ι α : Type} (f : Fate) (a : α) (s s' : CloudState ι) :
    Except CoreError α × CloudState ι :=
  match f with
  | .done => (.ok a, s')
  | .failed e => (.error e, s)
  | .lost e => (.error e, s')

/-- A message the service hands out, and how it is shown.
Source: none: infrastructure. Kind: D -/
structure Offer where
  /-- The message id. -/
  message : String
  /-- The new receipt. -/
  receipt : String
  /-- Whether the response names the receipt. -/
  namesReceipt : Bool
  /-- Whether the response names the message. -/
  namesMessage : Bool
  /-- The body, as SQS shows it. -/
  body : Option String
  /-- The payload, as Pub/Sub shows it. -/
  data : Bytes

/-- Source: `rollout-cloud-aws/src/sqs/mod.rs` `dequeue_internal` (`resp.messages`). Kind: D -/
def Offer.sqs (o : Offer) : SqsMessage where
  receiptHandle := if o.namesReceipt then some o.receipt else none
  messageId := if o.namesMessage then some o.message else none
  body := o.body

/-- Source: `rollout-cloud-gcp/src/pubsub/mod.rs` `pull_one` (`sub.pull`). Kind: D -/
def Offer.pubSub (o : Offer) : ReceivedMessage := ⟨o.receipt, o.message, o.data⟩

/-- What the service decides about a request. Source: none: infrastructure. Kind: D -/
structure CloudChoice where
  /-- How it ends. -/
  fate : Fate
  /-- What a receive finds. -/
  offer : Option Offer

/-- A receive. Source: none: the service's assumed behaviour. Kind: D -/
def receive {ι α : Type} (ch : CloudChoice) (i : ι) (shape : Offer → α) (s : CloudState ι) :
    Option (Except CoreError (Option α) × CloudState ι) :=
  match ch.offer with
  | none => some (ch.fate.answer none s s)
  | some o =>
      if s.canHandOut o.message o.receipt then
        some (ch.fate.answer (some (shape o)) s (s.handOut i o.message o.receipt))
      else none

/-- **The service and the table.** Leases run out by themselves.
Source: none: infrastructure. Kind: D -/
@[reducible] def cloudMachine (ι : Type) [DecidableEq ι] : Machine cloudIface ι (CloudState ι) where
  Choice := CloudChoice
  exec ch i o s :=
    match o with
    | .receiveMessage _ => receive ch i Offer.sqs s
    | .pull => receive ch i Offer.pubSub s
    | .delete receipt => some (ch.fate.answer () s (s.delete receipt))
    | .deadline receipt secs => some (ch.fate.answer () s (s.deadline receipt secs))
    | .register id receipt => some ((), { s with inflight := s.inflight.put id receipt })
    | .take id => some (s.inflight.get id, { s with inflight := s.inflight.del id })
  Tick := String
  tick m s := s.expire m

/-! ## The adapters -/

/-- Acknowledge. Source: `rollout-cloud-aws/src/sqs/lease.rs` (`delete_message`),
`rollout-cloud-gcp/src/pubsub/lease.rs` (`msg.ack`). Kind: D -/
def deleteMessage (receipt : String) : CloudM Unit := do
  let sent ← Prog.op (I := cloudIface) (.delete receipt)
  Prog.ofExcept sent

/-- Set the lease. Source: `rollout-cloud-aws/src/sqs/lease.rs` (`change_message_visibility`),
`rollout-cloud-gcp/src/pubsub/lease.rs` (`modify_ack_deadline`). Kind: D -/
def modifyDeadline (receipt : String) (secs : Nat) : CloudM Unit := do
  let sent ← Prog.op (I := cloudIface) (.deadline receipt secs)
  Prog.ofExcept sent

/-- Source: `rollout-cloud-aws/src/sqs/lease.rs`, `rollout-cloud-gcp/src/pubsub/lease.rs`
`not_in_flight`. Kind: D -/
def notInFlight (op : String) (id : QueueItemId) : CoreError :=
  .recoverable (.transient
    (op ++ ": QueueItemId " ++ id.debug ++ " not in-flight (lease expired or never dequeued)")
    .never)

/-- Take the receipt out of the table and use it.
Source: `rollout-cloud-aws/src/sqs/lease.rs`, `rollout-cloud-gcp/src/pubsub/lease.rs`. Kind: D -/
def viaInflightTable (op : String) (id : QueueItemId) (use : String → CloudM Unit) : CloudM Unit :=
  Prog.op (I := cloudIface) (.take id) >>= fun receipt =>
    match receipt with
    | none => Prog.err (notInFlight op id)
    | some receipt => use receipt

/-- Source: `rollout-cloud-aws/src/sqs/lease.rs`, `rollout-cloud-gcp/src/pubsub/lease.rs`
`ack_via_inflight_table`. Kind: D -/
def ackViaInflightTable (id : QueueItemId) : CloudM Unit :=
  viaInflightTable "ack" id deleteMessage

/-- Source: `rollout-cloud-aws/src/sqs/lease.rs`, `rollout-cloud-gcp/src/pubsub/lease.rs`
`nack_via_inflight_table`. Kind: D -/
def nackViaInflightTable (id : QueueItemId) : CloudM Unit :=
  viaInflightTable "nack" id fun receipt => modifyDeadline receipt 0

/-- Source: `rollout-cloud-aws/src/sqs/lease.rs`, `rollout-cloud-gcp/src/pubsub/lease.rs`
`register_inflight`. Kind: D -/
def registerInflight (id : QueueItemId) (receipt : String) : CloudM Unit :=
  Prog.op (I := cloudIface) (.register id receipt)

/-- A field the response has to have.
Source: `rollout-cloud-aws/src/sqs/mod.rs` `dequeue_internal` (`ok_or_else`). Kind: D -/
def orFatal {α : Type} (field : Option α) (msg : String) : Except CoreError α :=
  match field with
  | some a => .ok a
  | none => .error (.internal msg)

section adapters

variable [Blake3]

/-- What a dequeue returns: the item, its payload and the lease token.
Source: `rollout-core/src/traits/cloud.rs` `Queue`. Kind: D -/
abbrev Leased := Option (QueueItemId × Bytes × String)

/-- The received message becomes an item; `decode` is the base 64 of the body.
Source: `rollout-cloud-aws/src/sqs/mod.rs` `dequeue_internal`. Kind: D -/
def Sqs.accept (decode : String → Except String Bytes) (msg : SqsMessage) : CloudM Leased := do
  let receipt ← Prog.ofExcept (orFatal msg.receiptHandle "ReceiveMessage missing receipt_handle")
  let mid ← Prog.ofExcept (orFatal msg.messageId "ReceiveMessage missing message_id")
  let bodyB64 ← Prog.ofExcept (orFatal msg.body "ReceiveMessage missing body")
  let payload ← Prog.ofExcept ((decode bodyB64).mapError fun e => .internal ("base64 decode: " ++ e))
  let id := QueueItemId.fromMessageIdString mid
  registerInflight id receipt
  return some (id, payload, receipt)

/-- Source: `rollout-cloud-aws/src/sqs/mod.rs` `dequeue_internal`. Kind: D -/
def Sqs.dequeueInternal (decode : String → Except String Bytes) (visibilitySecs : Nat) :
    CloudM Leased := do
  let resp ← Prog.op (I := cloudIface) (.receiveMessage visibilitySecs)
  let received ← Prog.ofExcept resp
  match received with
  | none => return none
  | some msg => Sqs.accept decode msg

/-- Set the lease that was asked for.
Source: `rollout-cloud-gcp/src/pubsub/mod.rs` `pull_one`. Kind: D -/
def PubSub.applyLease (defaultAckDeadlineSecs leaseSecs : Nat) (msg : ReceivedMessage) :
    CloudM Unit :=
  if leaseSecs ≠ defaultAckDeadlineSecs then modifyDeadline msg.ackId leaseSecs
  else return ()

/-- Source: `rollout-cloud-gcp/src/pubsub/mod.rs` `pull_one`. Kind: D -/
def PubSub.pullOne (defaultAckDeadlineSecs leaseSecs : Nat) : CloudM Leased := do
  let pulled ← Prog.op (I := cloudIface) .pull
  let received ← Prog.ofExcept pulled
  match received with
  | none => return none
  | some msg => do
      PubSub.applyLease defaultAckDeadlineSecs leaseSecs msg
      let id := QueueItemId.fromMessageIdString msg.messageId
      registerInflight id msg.ackId
      return some (id, msg.data, msg.ackId)

/-- Seconds as a signed 32-bit number, a default when they do not fit.
Source: `rollout-cloud-aws/src/sqs/mod.rs`, `rollout-cloud-gcp/src/pubsub/mod.rs`
(`i32::try_from`). Kind: D -/
def asI32 (secs default : Nat) : Nat := if secs < 2 ^ 31 then secs else default

/-- An adapter with its default lease; SQS with the base 64 it reads.
Source: `rollout-cloud-aws/src/sqs/mod.rs` `SqsQueue`, `rollout-cloud-gcp/src/pubsub/mod.rs`
`PubSubQueue`. Kind: D -/
inductive Adapter
  | sqs (decode : String → Except String Bytes) (defaultVisibilityTimeoutSecs : Nat)
  | pubSub (defaultAckDeadlineSecs : Nat)

namespace Adapter

/-- Source: `rollout-cloud-aws/src/sqs/mod.rs` `SqsQueue::new`. Kind: D -/
def newSqs (decode : String → Except String Bytes) (defaultVisibilityTimeoutSecs : BitVec 32) :
    Adapter := .sqs decode (asI32 defaultVisibilityTimeoutSecs.toNat 300)

/-- Source: `rollout-cloud-gcp/src/pubsub/mod.rs` `PubSubQueue::new`. Kind: D -/
def newPubSub (defaultAckDeadlineSecs : BitVec 32) : Adapter :=
  .pubSub (asI32 defaultAckDeadlineSecs.toNat 30)

/-- The default lease. Source: `rollout-cloud-aws/src/sqs/mod.rs` `SqsQueue`,
`rollout-cloud-gcp/src/pubsub/mod.rs` `PubSubQueue`. Kind: D -/
def defaultSecs : Adapter → Nat
  | .sqs _ secs => secs
  | .pubSub secs => secs

/-- Source: `rollout-cloud-aws/src/sqs/mod.rs` `dequeue_internal`,
`rollout-cloud-gcp/src/pubsub/mod.rs` `pull_one`. Kind: D -/
def dequeueFor : Adapter → Nat → CloudM Leased
  | .sqs decode _ => Sqs.dequeueInternal decode
  | .pubSub default => PubSub.pullOne default

end Adapter

/-- One call. Source: `rollout-core/src/traits/cloud.rs` `Queue`. Kind: D -/
inductive CloudCall
  | dequeue
  | dequeueWithLease (lease : Duration)
  | ack (id : QueueItemId)
  | nack (id : QueueItemId)

/-- What it returns. Source: `rollout-core/src/traits/cloud.rs` `Queue`. Kind: D -/
@[reducible] def CloudCall.Out : CloudCall → Type
  | .dequeue => Option (QueueItemId × Bytes)
  | .dequeueWithLease _ => Leased
  | .ack _ => Unit
  | .nack _ => Unit

/-- What it runs. Source: `rollout-cloud-aws/src/sqs/mod.rs`,
`rollout-cloud-gcp/src/pubsub/mod.rs`. Kind: D -/
def Adapter.prog (a : Adapter) : (c : CloudCall) → CloudM c.Out
  | .dequeue => do
      let leased ← a.dequeueFor a.defaultSecs
      return leased.map fun x => (x.1, x.2.1)
  | .dequeueWithLease lease => a.dequeueFor (asI32 (lease.nanos / secNanos) a.defaultSecs)
  | .ack id => ackViaInflightTable id
  | .nack id => nackViaInflightTable id

/-- Any number of calls on one adapter. Source: none: infrastructure. Kind: D -/
def cloudSystem {ι : Type} (a : Adapter) (calls : ι → CloudCall) (s : CloudState ι) :
    Config cloudIface CoreError (CloudState ι) fun i => (calls i).Out :=
  ⟨s, fun i => a.prog (calls i)⟩

end adapters

end Rollout.CloudQueue
