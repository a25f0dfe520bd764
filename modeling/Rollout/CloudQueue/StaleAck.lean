import Rollout.CloudQueue.Adapter

/-!
# Acknowledgements after a redelivery

* `Isolated` — an event of one consumer does not settle a later delivery, held by another, of a
  message it was handed before. `OwnEntry` — an ack or nack finds in the table a receipt that was
  handed to its own consumer, or none.
* `cloud_acks_isolated` — in every run whose acks and nacks find their own entries, every event is
  isolated: a receipt that was taken stays the consumer's own, and once the message is redelivered
  it has no effect.
* `stale_ack_takes_redelivery` — after a redelivery the table holds the new receipt under the same
  item, and the first consumer's ack uses it.
-/

set_option linter.unusedSectionVars false

namespace Rollout.CloudQueue

open Rollout.Lib Rollout.Core

variable {ι κ : Type} [DecidableEq ι] {consumer : ι → κ}

/-! ## What a consumer may settle -/

/-- Receipts are not used twice. Source: none: the service's assumed behaviour. Kind: D -/
def ReceiptsUnique (s : CloudState ι) : Prop :=
  (s.issued.map Delivery.receipt).Nodup

/-- The receipt was handed to a call of this consumer. Source: none: infrastructure. Kind: D -/
def Owned (consumer : ι → κ) (c : κ) (receipt : String) (s : CloudState ι) : Prop :=
  ∃ d ∈ s.issued, d.receipt = receipt ∧ consumer d.call = c

/-- Events of an adapter's calls. Source: none: infrastructure. Kind: D -/
abbrev CloudEvent (ι : Type) := Event cloudIface ι (CloudState ι)

/-- The event acknowledges a message or releases its lease.
Source: none: the service's assumed behaviour. Kind: D -/
def Settles (m : String) (e : CloudEvent ι) : Prop :=
  (e.pre.queued m = true ∧ e.post.queued m = false) ∨
    (e.pre.held m = true ∧ e.post.held m = false)

/-- The event does not settle a delivery another consumer was handed of a message whose earlier
delivery its own consumer was handed.
Source: `rollout-cloud-aws/src/sqs/lease.rs`, `rollout-cloud-gcp/src/pubsub/lease.rs`. Kind: D -/
def Isolated (consumer : ι → κ) (e : CloudEvent ι) : Prop :=
  ∀ m later, e.pre.newest m = some later → consumer later.call ≠ consumer e.who → Settles m e →
    ∀ earlier ∈ e.pre.issued, earlier.message = m → earlier ≠ later →
      consumer earlier.call ≠ consumer e.who

/-- What an ack or nack finds in the table was handed to its own consumer.
Source: `rollout-cloud-aws/src/sqs/lease.rs`, `rollout-cloud-gcp/src/pubsub/lease.rs`
(`inflight.remove`). Kind: D -/
def OwnEntry (consumer : ι → κ) (e : CloudEvent ι) : Prop :=
  match e with
  | ⟨i, .take id, _, s, _⟩ =>
      ∀ receipt ∈ s.inflight.get id, Owned consumer (consumer i) receipt s
  | _ => True

instance [DecidableEq κ] (c : κ) (receipt : String) (s : CloudState ι) :
    Decidable (Owned consumer c receipt s) :=
  inferInstanceAs (Decidable (∃ d ∈ s.issued, d.receipt = receipt ∧ consumer d.call = c))

instance [DecidableEq κ] : DecidablePred (OwnEntry (ι := ι) consumer)
  | ⟨i, .take id, _, s, _⟩ =>
      inferInstanceAs (Decidable (∀ r ∈ s.inflight.get id, Owned consumer (consumer i) r s))
  | ⟨_, .receiveMessage _, _, _, _⟩ => isTrue trivial
  | ⟨_, .pull, _, _, _⟩ => isTrue trivial
  | ⟨_, .delete _, _, _, _⟩ => isTrue trivial
  | ⟨_, .deadline _ _, _, _, _⟩ => isTrue trivial
  | ⟨_, .register _ _, _, _, _⟩ => isTrue trivial

/-! ## The service -/

theorem receipt_inj {s : CloudState ι} (h : ReceiptsUnique s) {d d' : Delivery ι}
    (hd : d ∈ s.issued) (hd' : d' ∈ s.issued) (heq : d.receipt = d'.receipt) : d = d' :=
  List.inj_on_of_nodup_map h hd hd' heq

theorem CloudState.newest_some {s : CloudState ι} {m : String} {d : Delivery ι}
    (h : s.newest m = some d) : d ∈ s.issued ∧ d.message = m :=
  ⟨List.mem_of_find?_eq_some h, by simpa using List.find?_some h⟩

/-- Only the receipt of a newest delivery stands for a message.
Source: none: infrastructure. Kind: L -/
theorem CloudState.current_some {s : CloudState ι} {receipt m : String}
    (h : s.current receipt = some m) : ∃ d, s.newest m = some d ∧ d.receipt = receipt := by
  unfold CloudState.current at h
  split at h
  · next d hfind =>
    split at h
    · next hnew =>
      obtain rfl := Option.some.inj h
      exact ⟨d, hnew, by simpa using List.find?_some hfind⟩
    · cases h
  · cases h

/-- What an answer leaves. Source: none: infrastructure. Kind: L -/
theorem Fate.answer_state {α : Type} (f : Fate) (a : α) (s s' : CloudState ι) :
    (f.answer a s s').2 = s ∨ (f.answer a s s').2 = s' := by
  rcases f with - | e | e
  · exact .inr rfl
  · exact .inl rfl
  · exact .inr rfl

/-- All an event can do to the service.
Source: none: infrastructure. Kind: D -/
def Effect (e : CloudEvent ι) : Prop :=
  (e.post.issued = e.pre.issued ∧ e.post.queued = e.pre.queued ∧ e.post.held = e.pre.held) ∨
    (∃ m receipt, e.pre.canHandOut m receipt = true ∧ e.post = e.pre.handOut e.who m receipt) ∨
    (∃ receipt, e.op = .delete receipt ∧ e.post = e.pre.delete receipt) ∨
    ∃ receipt secs, e.op = .deadline receipt secs ∧ e.post = e.pre.deadline receipt secs

theorem effect_receive {α : Type} {ch : CloudChoice} {i : ι} {shape : Offer → α}
    {s s' : CloudState ι} {r : Except CoreError (Option α)}
    (h : receive ch i shape s = some (r, s')) :
    s' = s ∨ ∃ m receipt, s.canHandOut m receipt = true ∧ s' = s.handOut i m receipt := by
  unfold receive at h
  split at h
  · left
    have hs := congrArg Prod.snd (Option.some.inj h)
    exact hs.symm.trans ((ch.fate.answer_state _ s s).elim id id)
  · next o ho =>
    split at h
    · next hcan =>
      have hs := congrArg Prod.snd (Option.some.inj h)
      rcases ch.fate.answer_state (some (shape o)) s (s.handOut i o.message o.receipt) with hst | hst
      · exact .inl (hs.symm.trans hst)
      · exact .inr ⟨_, _, hcan, hs.symm.trans hst⟩
    · cases h

/-- **All an event can do.** Source: none: infrastructure. Kind: L -/
theorem effect_of_does {e : CloudEvent ι} (h : (cloudMachine ι).Does e) : Effect e := by
  obtain ⟨i, o, r, s, s'⟩ := e
  obtain ⟨ch, hexec⟩ := h
  have table : ∀ t, s' = { s with inflight := t } → Effect ⟨i, o, r, s, s'⟩ := by
    rintro t rfl
    exact .inl ⟨rfl, rfl, rfl⟩
  rcases o with secs | _ | receipt | ⟨receipt, secs⟩ | ⟨id, receipt⟩ | id
  · rcases effect_receive hexec with hs | hs
    · exact table s.inflight hs
    · exact .inr (.inl hs)
  · rcases effect_receive hexec with hs | hs
    · exact table s.inflight hs
    · exact .inr (.inl hs)
  · have hs : (ch.fate.answer () s (s.delete receipt)).2 = s' :=
      congrArg Prod.snd (Option.some.inj hexec)
    rcases ch.fate.answer_state () s (s.delete receipt) with hst | hst
    · exact table s.inflight (hs.symm.trans hst)
    · exact .inr (.inr (.inl ⟨receipt, rfl, hs.symm.trans hst⟩))
  · have hs : (ch.fate.answer () s (s.deadline receipt secs)).2 = s' :=
      congrArg Prod.snd (Option.some.inj hexec)
    rcases ch.fate.answer_state () s (s.deadline receipt secs) with hst | hst
    · exact table s.inflight (hs.symm.trans hst)
    · exact .inr (.inr (.inr ⟨receipt, secs, rfl, hs.symm.trans hst⟩))
  · exact table (s.inflight.put id receipt) (congrArg Prod.snd (Option.some.inj hexec)).symm
  · exact table (s.inflight.del id) (congrArg Prod.snd (Option.some.inj hexec)).symm

/-- Deliveries are only added, each under a new receipt. Source: none: infrastructure. Kind: L -/
theorem issued_step {e : CloudEvent ι} (h : Effect e) (hinv : ReceiptsUnique e.pre) :
    ReceiptsUnique e.post ∧ ∀ d ∈ e.pre.issued, d ∈ e.post.issued := by
  rcases h with ⟨hissued, -, -⟩ | ⟨m, receipt, hcan, hpost⟩ | ⟨receipt, -, hpost⟩ |
    ⟨receipt, secs, -, hpost⟩
  · exact ⟨by rwa [ReceiptsUnique, hissued], fun d hd => hissued ▸ hd⟩
  · have hnew : receipt ∉ e.pre.issued.map Delivery.receipt := by
      simp only [CloudState.canHandOut, Bool.and_eq_true, List.all_eq_true,
        decide_eq_true_eq] at hcan
      rintro hmem
      obtain ⟨d, hd, hreceipt⟩ := List.mem_map.mp hmem
      exact hcan.2 d hd hreceipt
    rw [ReceiptsUnique, hpost, CloudState.issued_handOut]
    exact ⟨List.nodup_cons.mpr ⟨hnew, hinv⟩, fun d hd => List.mem_cons_of_mem _ hd⟩
  · rw [ReceiptsUnique, hpost, CloudState.issued_delete]
    exact ⟨hinv, fun _ hd => hd⟩
  · rw [ReceiptsUnique, hpost, CloudState.issued_deadline]
    exact ⟨hinv, fun _ hd => hd⟩

/-- What settles a message is a request with the receipt of its newest delivery.
Source: none: infrastructure. Kind: L -/
theorem settles_current {e : CloudEvent ι} (h : Effect e) {m : String} (hset : Settles m e) :
    ∃ receipt, (e.op = .delete receipt ∨ ∃ secs, e.op = .deadline receipt secs) ∧
      e.pre.current receipt = some m := by
  have differs : e.post.queued m ≠ e.pre.queued m ∨
      (e.pre.held m = true ∧ e.post.held m = false) := by
    rcases hset with ⟨hpre, hpost⟩ | hheld
    · exact .inl (by simp [hpre, hpost])
    · exact .inr hheld
  rcases h with ⟨-, hqueued, hheld⟩ | ⟨m', receipt, -, hpost⟩ | ⟨receipt, hop, hpost⟩ |
    ⟨receipt, secs, hop, hpost⟩
  · simp [hqueued, hheld] at differs
  · rw [hpost] at differs
    by_cases hm : m = m' <;> simp [CloudState.handOut, hm] at differs
  · refine ⟨receipt, .inl hop, ?_⟩
    rw [hpost] at differs
    unfold CloudState.delete at differs
    split at differs
    · next m' hcur =>
      by_cases hm : m = m'
      · rw [hcur, hm]
      · simp [Function.update_of_ne hm] at differs
    · simp at differs
  · refine ⟨receipt, .inr ⟨secs, hop⟩, ?_⟩
    rw [hpost] at differs
    unfold CloudState.deadline at differs
    split at differs
    · next m' hcur =>
      by_cases hm : m = m'
      · rw [hcur, hm]
      · split at differs <;> simp [Function.update_of_ne hm] at differs
    · simp at differs

/-! ## The discipline -/

/-- What the issuer of a request knows: the receipt it uses was handed to its consumer.
Source: `rollout-cloud-aws/src/sqs/lease.rs`, `rollout-cloud-gcp/src/pubsub/lease.rs`. Kind: D -/
def UsesOwn (consumer : ι → κ) (i : ι) (o : CloudOp) (s : CloudState ι) : Prop :=
  match o with
  | .delete receipt => Owned consumer (consumer i) receipt s
  | .deadline receipt _ => Owned consumer (consumer i) receipt s
  | _ => True

/-- **Receipts are only used by the consumer they were handed to.**
Source: none: infrastructure. Kind: D -/
def receiptDiscipline (consumer : ι → κ) : Discipline (cloudMachine ι) Unit where
  upd _ _ := ()
  inv s _ := ReceiptsUnique s
  rely _ s _ s' _ := ∀ d ∈ s.issued, d ∈ s'.issued
  pre i o s _ := UsesOwn consumer i o s
  assume := OwnEntry consumer
  rely_refl _ _ _ := fun _ hd => hd
  rely_trans _ _ _ _ _ _ _ h h' := fun d hd => h' d (h d hd)
  step _ _ hd _ hinv _ :=
    have hstep := issued_step (effect_of_does hd) hinv
    ⟨hstep.1, fun _ _ => hstep.2⟩
  tick _ _ _ hinv := ⟨hinv, fun _ _ hd => hd⟩

theorem Owned.mono {c : κ} {receipt : String} {s s' : CloudState ι} (h : Owned consumer c receipt s)
    (hgrow : ∀ d ∈ s.issued, d ∈ s'.issued) : Owned consumer c receipt s' := by
  obtain ⟨d, hd, hreceipt, hc⟩ := h
  exact ⟨d, hgrow d hd, hreceipt, hc⟩

section safe

variable {β : Type} {i : ι} {s : CloudState ι}

/-- A call that uses only receipts of its own consumer. Source: none: infrastructure. Kind: D -/
abbrev Own (consumer : ι → κ) (i : ι) (p : CloudM β) (s : CloudState ι) : Prop :=
  p.Safe (receiptDiscipline consumer) i (fun _ _ _ => True) s ()

theorem own_ret (b : β) : Own consumer i (.ret b) s := fun _ _ _ _ => trivial

theorem own_err (e : CoreError) : Own consumer i (.err e : CloudM β) s := fun _ _ _ _ => trivial

theorem own_ofExcept (r : Except CoreError β) : Own consumer i (Prog.ofExcept r) s := by
  cases r <;> exact fun _ _ _ _ => trivial

/-- The rule for an operation without a receipt. Source: none: infrastructure. Kind: L -/
theorem own_op {o : CloudOp} {f : CloudOp.Resp o → CloudM β} (ho : ∀ s, UsesOwn consumer i o s)
    (hf : ∀ r s, Own consumer i (f r) s) : Own consumer i (Prog.op (I := cloudIface) o >>= f) s :=
  fun s' _ _ _ => ⟨ho s', fun r s'' _ _ _ => hf r s''⟩

theorem own_ofExcept_bind {α : Type} {r : Except CoreError α} {f : α → CloudM β}
    (hf : ∀ a, r = .ok a → Own consumer i (f a) s) :
    Own consumer i (Prog.ofExcept r >>= f) s :=
  Prog.Safe.ofExcept_bind (fun _ _ _ => trivial) hf

/-- The rule for a request with a receipt. Source: none: infrastructure. Kind: L -/
theorem own_request {o : CloudOp} {f : CloudOp.Resp o → CloudM β} {receipt : String}
    (hown : Owned consumer (consumer i) receipt s)
    (ho : ∀ s, Owned consumer (consumer i) receipt s → UsesOwn consumer i o s)
    (hf : ∀ r s, Own consumer i (f r) s) :
    Own consumer i (Prog.op (I := cloudIface) o >>= f) s :=
  fun s' _ hgrow _ => ⟨ho s' (hown.mono hgrow), fun r s'' _ _ _ => hf r s''⟩

theorem own_viaInflightTable {op : String} {id : QueueItemId} {use : String → CloudM Unit}
    (huse : ∀ receipt s, Owned consumer (consumer i) receipt s → Own consumer i (use receipt) s) :
    Own consumer i (viaInflightTable op id use) s := by
  intro s' _ _ hinv
  refine ⟨trivial, fun r s'' hd hown _ => ?_⟩
  have hgrow := (issued_step (effect_of_does hd) hinv).2
  obtain ⟨ch, hexec⟩ := hd
  obtain ⟨hget, -⟩ := Prod.mk.inj (Option.some.inj hexec)
  rcases r with - | receipt
  · exact own_err _
  · exact huse receipt s'' ((hown receipt hget).mono hgrow)

theorem own_deleteMessage {receipt : String} (hown : Owned consumer (consumer i) receipt s) :
    Own consumer i (deleteMessage receipt) s :=
  own_request hown (fun _ h => h) fun r _ => own_ofExcept r

theorem own_modifyDeadline {receipt : String} {secs : Nat}
    (hown : Owned consumer (consumer i) receipt s) :
    Own consumer i (modifyDeadline receipt secs) s :=
  own_request hown (fun _ h => h) fun r _ => own_ofExcept r

variable [Blake3]

theorem own_accept (decode : String → Except String Bytes) (msg : SqsMessage) :
    Own consumer i (Sqs.accept decode msg) s := by
  refine own_ofExcept_bind fun _ _ => own_ofExcept_bind fun _ _ => own_ofExcept_bind fun _ _ =>
    own_ofExcept_bind fun _ _ => ?_
  exact own_op (fun _ => trivial) fun _ _ => own_ret _

theorem own_sqs (decode : String → Except String Bytes) (secs : Nat) :
    Own consumer i (Sqs.dequeueInternal decode secs) s := by
  refine own_op (fun _ => trivial) fun resp s => own_ofExcept_bind fun received _ => ?_
  rcases received with - | msg
  · exact own_ret _
  · exact own_accept decode msg

/-- A pull that answers hands its message to the call. Source: none: infrastructure. Kind: L -/
theorem owned_pull {s s' : CloudState ι} {msg : ReceivedMessage}
    (h : (cloudMachine ι).Does ⟨i, .pull, .ok (some msg), s, s'⟩) :
    Owned consumer (consumer i) msg.ackId s' := by
  obtain ⟨ch, hexec⟩ := h
  have hexec : receive ch i Offer.pubSub s = some (.ok (some msg), s') := hexec
  unfold receive at hexec
  rcases hoffer : ch.offer with - | o
  · rw [hoffer] at hexec
    rcases hfate : ch.fate with - | e | e <;> simp [hfate, Fate.answer] at hexec
  · simp only [hoffer] at hexec
    split at hexec
    · rcases hfate : ch.fate with - | e | e <;> simp [hfate, Fate.answer] at hexec
      obtain ⟨rfl, rfl⟩ := hexec
      exact ⟨_, List.mem_cons_self, rfl, rfl⟩
    · cases hexec

theorem own_pullOne (default secs : Nat) : Own consumer i (PubSub.pullOne default secs) s := by
  intro s' _ _ _
  refine ⟨trivial, fun resp s'' hd _ _ => own_ofExcept_bind fun received hresp => ?_⟩
  subst hresp
  rcases received with - | msg
  · exact own_ret _
  · have hlease : Own consumer i (PubSub.applyLease default secs msg) s'' := by
      unfold PubSub.applyLease
      split
      · exact own_modifyDeadline (owned_pull hd)
      · exact own_ret _
    refine Prog.Safe.bind (hlease.weaken ?_)
    rintro (e | -) s g -
    · trivial
    · exact own_op (fun _ => trivial) fun _ _ => own_ret _

/-- **A call uses only receipts of its own consumer**, when its ack or nack finds one of these.
Source: `rollout-cloud-aws/src/sqs`, `rollout-cloud-gcp/src/pubsub`. Kind: L -/
theorem own_call (a : Adapter) (c : CloudCall) : Own consumer i (a.prog c) s := by
  have hdequeue : ∀ secs s, Own consumer i (a.dequeueFor secs) s := by
    intro secs s
    rcases a with ⟨decode, default⟩ | default
    · exact own_sqs decode secs
    · exact own_pullOne default secs
  rcases c with - | lease | id | id
  · refine Prog.Safe.bind ((hdequeue _ s).weaken ?_)
    rintro (e | leased) s g -
    · trivial
    · exact own_ret _
  · exact hdequeue _ s
  · exact own_viaInflightTable fun receipt s hown => own_deleteMessage hown
  · exact own_viaInflightTable fun receipt s hown => own_modifyDeadline hown

end safe

/-! ## Runs -/

/-- What uses only receipts of its own consumer settles no delivery of another.
Source: none: infrastructure. Kind: L -/
theorem isolated_of_usesOwn {e : CloudEvent ι} (hd : (cloudMachine ι).Does e)
    (hinv : ReceiptsUnique e.pre) (hown : UsesOwn consumer e.who e.op e.pre) :
    Isolated consumer e := by
  intro m later hlater hother hset
  obtain ⟨receipt, hop, hcur⟩ := settles_current (effect_of_does hd) hset
  obtain ⟨d, hnew, hreceipt⟩ := CloudState.current_some hcur
  obtain rfl := Option.some.inj (hnew.symm.trans hlater)
  have hmine : Owned consumer (consumer e.who) receipt e.pre := by
    rcases hop with hop | ⟨secs, hop⟩ <;> rwa [hop] at hown
  obtain ⟨d', hmem, hreceipt', hconsumer⟩ := hmine
  obtain rfl := receipt_inj hinv (CloudState.newest_some hnew).1 hmem (hreceipt.trans hreceipt'.symm)
  exact absurd hconsumer hother

/-- **Stale acknowledgements are isolated as long as every ack and nack finds, in the table, a
receipt of its own consumer or none.** Source: `rollout-cloud-aws/src/sqs/lease.rs`,
`rollout-cloud-gcp/src/pubsub/lease.rs`. Kind: P -/
theorem cloud_acks_isolated [Blake3] (a : Adapter) (consumer : ι → κ) (calls : ι → CloudCall)
    {s₀ : CloudState ι} {tr : List (CloudEvent ι)}
    {d : Config cloudIface CoreError (CloudState ι) fun i => (calls i).Out}
    (hinit : ReceiptsUnique s₀) (hrun : Run (cloudMachine ι) (cloudSystem a calls s₀) tr d)
    (hown : ∀ e ∈ tr, OwnEntry consumer e) : ∀ e ∈ tr, Isolated consumer e := by
  intro e he
  obtain ⟨hd, -, g, hinv, hpre, -⟩ := hrun.sound_event (receiptDiscipline consumer)
    (fun _ _ _ _ => True) (g := ()) hinit (fun i => own_call a (calls i)) hown e he
  exact isolated_of_usesOwn hd hinv hpre

/-! ## Concrete runs -/

/-- A message id. Source: none: infrastructure. Kind: D -/
def someMid : String := "5fea7756-0ea4-451a-a703-a558b933e274"

/-- Its digest, for runs that digest nothing else. Source: none: infrastructure. Kind: D -/
@[reducible] def midBlake3 : Blake3 := ⟨fun _ =>
  ⟨[0x03, 0x38, 0x84, 0x2a, 0x1b, 0x50, 0x7e, 0x38, 0x50, 0x1e, 0x35, 0xed, 0x33, 0xa1, 0x65, 0x68,
    0x60, 0xd0, 0xb5, 0x91, 0xb5, 0xdc, 0xd0, 0x15, 0x54, 0x8a, 0x36, 0x98, 0xe5, 0x3b, 0x0a, 0xd2],
    rfl⟩⟩

/-- Its item. Source: none: infrastructure. Kind: D -/
def someItem : QueueItemId := @QueueItemId.fromMessageIdString midBlake3 someMid

/-- The base 64 of one body. Source: none: infrastructure. Kind: D -/
def decodeOne (body : String) : Except String Bytes :=
  if body = "AA==" then .ok [0] else .error "Invalid symbol"

/-- One queued message. Source: none: infrastructure. Kind: D -/
def oneQueued : CloudState (Fin 4) := ⟨[], fun m => m = someMid, fun _ => false, ∅⟩

theorem unique_oneQueued : ReceiptsUnique oneQueued := List.nodup_nil

/-- Two consumers: each dequeues, then the second and the first acknowledge.
Source: none: infrastructure. Kind: D -/
def twoConsumers : Fin 4 → CloudCall
  | 0 => .dequeue
  | 1 => .dequeue
  | 2 => .ack someItem
  | 3 => .ack someItem

/-- Whose calls they are. Source: none: infrastructure. Kind: D -/
def whose : Fin 4 → Bool
  | 0 => false
  | 1 => true
  | 2 => true
  | 3 => false

/-- The message under a receipt. Source: none: infrastructure. Kind: D -/
def handsOut (receipt : String) : CloudChoice :=
  ⟨.done, some ⟨someMid, receipt, true, true, some "AA==", [0]⟩⟩

/-- Nothing is handed out. Source: none: infrastructure. Kind: D -/
def handsNothing : CloudChoice := ⟨.done, none⟩

/-- The first consumer's lease runs out and the second is handed the message; then these go on.
Source: none: infrastructure. Kind: D -/
def redelivered (first second : Fin 4) (who : List (Fin 4)) : List (Move (cloudMachine (Fin 4))) :=
  [.step first (handsOut "first"), .step first handsNothing, .tick someMid,
    .step second (handsOut "second"), .step second handsNothing] ++ inTurn (cloudMachine (Fin 4)) handsNothing who

/-- `cloud_acks_isolated` where the second consumer acknowledges before the first one does.
Source: `rollout-cloud-aws/src/sqs/lease.rs`. Kind: L -/
theorem cloud_acks_isolated_in_order : ∃ tr d,
    Run (cloudMachine (Fin 4)) (@cloudSystem midBlake3 _ (.sqs decodeOne 300) twoConsumers oneQueued)
      tr d ∧ tr.length = 7 ∧ ∀ e ∈ tr, Isolated whose e := by
  have hplay : ((@cloudSystem midBlake3 _ (.sqs decodeOne 300) twoConsumers oneQueued).play
      (redelivered 0 1 [2, 2, 3])).map
        (fun x => decide (x.1.length = 7 ∧ ∀ e ∈ x.1, OwnEntry whose e)) = some true := by
    decide +kernel
  obtain ⟨⟨tr, d⟩, hrun, hend⟩ := Option.map_eq_some_iff.mp hplay
  obtain ⟨hlength, hown⟩ := of_decide_eq_true hend
  exact ⟨tr, d, Config.play_run hrun, hlength,
    @cloud_acks_isolated _ _ _ midBlake3 (.sqs decodeOne 300) whose twoConsumers _ _ _ unique_oneQueued
      (Config.play_run hrun) hown⟩

/-- The stale ack in a played run. Source: none: infrastructure. Kind: D -/
def takesRedelivery (first second acker : Fin 4) (tr : List (CloudEvent (Fin 4))) : Bool :=
  tr.any fun e => decide (e.who = acker ∧ e.pre.newest someMid = some ⟨someMid, "second", second⟩ ∧
    e.pre.queued someMid = true ∧ e.post.queued someMid = false ∧
    ⟨someMid, "first", first⟩ ∈ e.pre.issued)

theorem not_isolated_of_takesRedelivery {tr : List (CloudEvent (Fin 4))}
    (h : takesRedelivery 0 1 3 tr = true) : ¬ ∀ e ∈ tr, Isolated whose e := by
  intro hall
  obtain ⟨e, he, hcheck⟩ := List.any_eq_true.mp h
  obtain ⟨hwho, hlater, hqueued, hgone, hearlier⟩ := of_decide_eq_true hcheck
  have hiso := hall e he someMid _ hlater (by rw [hwho]; decide) (.inl ⟨hqueued, hgone⟩) _ hearlier rfl
    (by decide)
  exact hiso (by rw [hwho]; rfl)

/-- **A stale ack acknowledges the redelivery**, with either adapter: the first consumer's lease has
run out, the second holds the message, and the first consumer's ack deletes it.
Source: `rollout-cloud-aws/src/sqs/lease.rs`, `rollout-cloud-gcp/src/pubsub/lease.rs`
`ack_via_inflight_table`. Kind: C -/
theorem stale_ack_takes_redelivery :
    (∃ tr d, Run (cloudMachine (Fin 4))
      (@cloudSystem midBlake3 _ (.sqs decodeOne 300) twoConsumers oneQueued) tr d ∧
        ¬ ∀ e ∈ tr, Isolated whose e) ∧
      ∃ tr d, Run (cloudMachine (Fin 4))
        (@cloudSystem midBlake3 _ (.pubSub 30) twoConsumers oneQueued) tr d ∧
          ¬ ∀ e ∈ tr, Isolated whose e := by
  have hsqs : ((@cloudSystem midBlake3 _ (.sqs decodeOne 300) twoConsumers oneQueued).play
      (redelivered 0 1 [3, 3])).map (fun x => takesRedelivery 0 1 3 x.1) = some true := by decide +kernel
  have hpubSub : ((@cloudSystem midBlake3 _ (.pubSub 30) twoConsumers oneQueued).play
      (redelivered 0 1 [3, 3])).map (fun x => takesRedelivery 0 1 3 x.1) = some true := by decide +kernel
  obtain ⟨⟨tr, d⟩, hrun, htaken⟩ := Option.map_eq_some_iff.mp hsqs
  obtain ⟨⟨tr', d'⟩, hrun', htaken'⟩ := Option.map_eq_some_iff.mp hpubSub
  exact ⟨⟨tr, d, Config.play_run hrun, not_isolated_of_takesRedelivery htaken⟩,
    tr', d', Config.play_run hrun', not_isolated_of_takesRedelivery htaken'⟩

end Rollout.CloudQueue
