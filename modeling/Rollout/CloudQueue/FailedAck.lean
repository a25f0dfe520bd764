import Mathlib.Data.Set.Insert
import Rollout.CloudQueue.StaleAck

/-!
# Acknowledgements that fail

* `RemoteFailed` — the service refuses the request of an ack or nack. `KeepsEntry` — the table then
  still holds the receipt, so that the call can be made again.
* `failed_acks_kept_iff` — in every run the entries are kept exactly when no such request fails: the
  receipt is taken out of the table first, and no receipt is registered twice.
* `failed_ack_refused` — the call made again is refused as not in flight.
-/

set_option linter.unusedSectionVars false

namespace Rollout.CloudQueue

open Rollout.Lib Rollout.Core

variable {ι : Type} [DecidableEq ι] {calls : ι → CloudCall}

/-! ## What a failed call should leave -/

/-- The remote call of an ack or nack of an item failed.
Source: `rollout-cloud-aws/src/sqs/lease.rs`, `rollout-cloud-gcp/src/pubsub/lease.rs` (`map_err`).
Kind: D -/
def RemoteFailed (calls : ι → CloudCall) (id : QueueItemId) (receipt : String) :
    CloudEvent ι → Prop
  | ⟨i, .delete r, .error _, _, _⟩ => calls i = .ack id ∧ r = receipt
  | ⟨i, .deadline r _, .error _, _, _⟩ => calls i = .nack id ∧ r = receipt
  | _ => False

/-- A call whose remote call failed finds its entry when it returns.
Source: `rollout-cloud-aws/src/sqs/lease.rs`, `rollout-cloud-gcp/src/pubsub/lease.rs`. Kind: D -/
def KeepsEntry (calls : ι → CloudCall) (e : CloudEvent ι) : Prop :=
  ∀ id receipt, RemoteFailed calls id receipt e → e.post.inflight.get id = some receipt

/-- The receipts of the table were handed out. Source: `rollout-cloud-aws/src/sqs/lease.rs`,
`rollout-cloud-gcp/src/pubsub/lease.rs` (their documentation). Kind: D -/
def TableIssued (s : CloudState ι) : Prop :=
  ∀ id receipt, s.inflight.get id = some receipt → ∃ d ∈ s.issued, d.receipt = receipt

/-! ## The table -/

theorem inflight_receive {α : Type} {ch : CloudChoice} {i : ι} {shape : Offer → α}
    {s s' : CloudState ι} {r : Except CoreError (Option α)}
    (h : receive ch i shape s = some (r, s')) : s'.inflight = s.inflight := by
  unfold receive at h
  split at h
  · have hs : (ch.fate.answer (none : Option α) s s).2 = s' := congrArg Prod.snd (Option.some.inj h)
    rw [← hs]
    exact (ch.fate.answer_state _ s s).elim (congrArg _) (congrArg _)
  · next o ho =>
    split at h
    · have hs : (ch.fate.answer (some (shape o)) s (s.handOut i o.message o.receipt)).2 = s' :=
        congrArg Prod.snd (Option.some.inj h)
      rw [← hs]
      exact (ch.fate.answer_state _ s _).elim (congrArg _) (congrArg _)
    · cases h

theorem inflight_delete (s : CloudState ι) (receipt : String) :
    (s.delete receipt).inflight = s.inflight := by
  unfold CloudState.delete
  split <;> rfl

theorem inflight_deadline (s : CloudState ι) (receipt : String) (secs : Nat) :
    (s.deadline receipt secs).inflight = s.inflight := by
  unfold CloudState.deadline
  split
  · split <;> rfl
  · rfl

/-- **What an event does to the table.** Source: `rollout-cloud-aws/src/sqs/lease.rs`,
`rollout-cloud-gcp/src/pubsub/lease.rs` (`inflight`). Kind: L -/
theorem inflight_of_does {e : CloudEvent ι} (h : (cloudMachine ι).Does e) :
    e.post.inflight = match e.op with
      | .register id receipt => e.pre.inflight.put id receipt
      | .take id => e.pre.inflight.del id
      | _ => e.pre.inflight := by
  obtain ⟨i, o, r, s, s'⟩ := e
  obtain ⟨ch, hexec⟩ := h
  rcases o with secs | _ | receipt | ⟨receipt, secs⟩ | ⟨id, receipt⟩ | id
  · exact inflight_receive hexec
  · exact inflight_receive hexec
  · have hs : (ch.fate.answer () s (s.delete receipt)).2 = s' :=
      congrArg Prod.snd (Option.some.inj hexec)
    rcases ch.fate.answer_state () s (s.delete receipt) with hst | hst
    · exact congrArg _ (hs.symm.trans hst)
    · exact (congrArg _ (hs.symm.trans hst)).trans (inflight_delete s receipt)
  · have hs : (ch.fate.answer () s (s.deadline receipt secs)).2 = s' :=
      congrArg Prod.snd (Option.some.inj hexec)
    rcases ch.fate.answer_state () s (s.deadline receipt secs) with hst | hst
    · exact congrArg _ (hs.symm.trans hst)
    · exact (congrArg _ (hs.symm.trans hst)).trans (inflight_deadline s receipt secs)
  · exact congrArg (fun x => x.2.inflight) (Option.some.inj hexec).symm
  · exact congrArg (fun x => x.2.inflight) (Option.some.inj hexec).symm

/-! ## The discipline -/

/-- Handed to the call, and never in the table. Source: none: infrastructure. Kind: D -/
structure Fresh (i : ι) (receipt : String) (s : CloudState ι) (seen : Set String) : Prop where
  unseen : receipt ∉ seen
  issued : ∃ d ∈ s.issued, d.receipt = receipt ∧ d.call = i

/-- It was in the table and is no longer under the item. Source: none: infrastructure. Kind: D -/
structure Gone (id : QueueItemId) (receipt : String) (s : CloudState ι) (seen : Set String) :
    Prop where
  seen : receipt ∈ seen
  absent : s.inflight.get id ≠ some receipt

/-- The receipts that were ever in the table. Source: none: infrastructure. Kind: D -/
structure Seen (s : CloudState ι) (seen : Set String) : Prop where
  unique : ReceiptsUnique s
  listed : ∀ id receipt, s.inflight.get id = some receipt → receipt ∈ seen
  issued : ∀ receipt ∈ seen, ∃ d ∈ s.issued, d.receipt = receipt

/-- What the calls expect of each other: no receipt comes back to the table, and what was handed to a
call is registered by no other. Source: none: infrastructure. Kind: D -/
structure Once (i : ι) (s : CloudState ι) (seen : Set String) (s' : CloudState ι)
    (seen' : Set String) : Prop where
  fresh : ∀ receipt, Fresh i receipt s seen → Fresh i receipt s' seen'
  gone : ∀ id receipt, Gone id receipt s seen → Gone id receipt s' seen'

/-- What the issuer of a request knows: a call registers what it was handed, and an ack or nack uses
what it took. Source: `rollout-cloud-aws/src/sqs`, `rollout-cloud-gcp/src/pubsub`. Kind: D -/
def UsesOnce (calls : ι → CloudCall) (i : ι) (o : CloudOp) (s : CloudState ι) (seen : Set String) :
    Prop :=
  match o with
  | .register _ receipt => Fresh i receipt s seen
  | .delete receipt => ∀ id, calls i = .ack id → Gone id receipt s seen
  | .deadline receipt _ => ∀ id, calls i = .nack id → Gone id receipt s seen
  | _ => True

/-- What was in the table after an event. Source: none: infrastructure. Kind: D -/
def seenAfter (seen : Set String) (e : CloudEvent ι) : Set String :=
  match e.op with
  | .register _ receipt => insert receipt seen
  | _ => seen

/-- An event that registers nothing. Source: none: infrastructure. Kind: L -/
theorem once_of_not_register {e : CloudEvent ι} {seen : Set String}
    (htable : ∀ id receipt, e.post.inflight.get id = some receipt →
      e.pre.inflight.get id = some receipt)
    (hunique : ReceiptsUnique e.post) (hgrow : ∀ d ∈ e.pre.issued, d ∈ e.post.issued)
    (h : Seen e.pre seen) : Seen e.post seen ∧ ∀ j, Once j e.pre seen e.post seen := by
  refine ⟨⟨hunique, fun id receipt hget => h.listed id receipt (htable id receipt hget),
    fun receipt hr => ?_⟩, fun j => ⟨fun receipt hf => ⟨hf.unseen, ?_⟩, fun id receipt hg =>
      ⟨hg.seen, fun hget => hg.absent (htable id receipt hget)⟩⟩⟩
  · obtain ⟨d, hd, hreceipt⟩ := h.issued receipt hr
    exact ⟨d, hgrow d hd, hreceipt⟩
  · obtain ⟨d, hd, hreceipt⟩ := hf.issued
    exact ⟨d, hgrow d hd, hreceipt⟩

/-- **No receipt comes back to the table.** Source: `rollout-cloud-aws/src/sqs`,
`rollout-cloud-gcp/src/pubsub`. Kind: L -/
theorem once_step (e : CloudEvent ι) (seen : Set String) (hd : (cloudMachine ι).Does e)
    (h : Seen e.pre seen) (hpre : UsesOnce calls e.who e.op e.pre seen) :
    Seen e.post (seenAfter seen e) ∧ ∀ j, j ≠ e.who → Once j e.pre seen e.post (seenAfter seen e) := by
  obtain ⟨hunique, hgrow⟩ := issued_step (effect_of_does hd) h.unique
  have htable := inflight_of_does hd
  obtain ⟨i, o, r, s, s'⟩ := e
  have hsame : s'.inflight = s.inflight → Seen s' seen ∧ ∀ j, j ≠ i → Once j s seen s' seen := by
    intro heq
    have hall := once_of_not_register (e := ⟨i, o, r, s, s'⟩) (fun id receipt hget => heq ▸ hget)
      hunique hgrow h
    exact ⟨hall.1, fun j _ => hall.2 j⟩
  rcases o with secs | _ | receipt | ⟨receipt, secs⟩ | ⟨id, receipt⟩ | id
  · exact hsame htable
  · exact hsame htable
  · exact hsame htable
  · exact hsame htable
  · -- what is registered was never in the table
    have hget : ∀ id' receipt', s'.inflight.get id' = some receipt' →
        receipt' = receipt ∨ s.inflight.get id' = some receipt' := by
      intro id' receipt' hget
      rw [show s'.inflight = s.inflight.put id receipt from htable, KV.get_put] at hget
      split at hget
      · exact .inl (Option.some.inj hget).symm
      · exact .inr hget
    obtain ⟨d, hdmem, hdreceipt, hdcall⟩ := hpre.issued
    refine ⟨⟨hunique, fun id' receipt' h' => ?_, fun receipt' h' => ?_⟩,
      fun j hj => ⟨fun receipt' hf => ?_, fun id' receipt' hg => ⟨Set.mem_insert_of_mem _ hg.seen, ?_⟩⟩⟩
    · rcases hget id' receipt' h' with rfl | hold
      · exact Set.mem_insert _ _
      · exact Set.mem_insert_of_mem _ (h.listed id' receipt' hold)
    · rcases Set.mem_insert_iff.mp h' with rfl | hold
      · exact ⟨d, hgrow d hdmem, hdreceipt⟩
      · obtain ⟨d', hd', hreceipt'⟩ := h.issued receipt' hold
        exact ⟨d', hgrow d' hd', hreceipt'⟩
    · obtain ⟨d', hd', hreceipt', hcall'⟩ := hf.issued
      refine ⟨fun hmem => ?_, d', hgrow d' hd', hreceipt', hcall'⟩
      rcases Set.mem_insert_iff.mp hmem with rfl | hold
      · obtain rfl := receipt_inj h.unique hdmem hd' (hdreceipt.trans hreceipt'.symm)
        exact hj (hcall'.symm.trans hdcall)
      · exact hf.unseen hold
    · intro hnow
      rcases hget id' receipt' hnow with rfl | hold
      · exact hpre.unseen hg.seen
      · exact hg.absent hold
  · have hall := once_of_not_register (e := ⟨i, .take id, r, s, s'⟩) (fun id' receipt hget => ?_)
      hunique hgrow h
    · exact ⟨hall.1, fun j _ => hall.2 j⟩
    · rw [show (⟨i, .take id, r, s, s'⟩ : CloudEvent ι).post.inflight = s.inflight.del id from htable,
        KV.get_del] at hget
      split at hget
      · cases hget
      · exact hget

/-- **Receipts are in the table once.** Source: none: infrastructure. Kind: D -/
def onceDiscipline (calls : ι → CloudCall) : Discipline (cloudMachine ι) (Set String) where
  upd := seenAfter
  inv := Seen
  rely := Once
  pre := UsesOnce calls
  assume _ := True
  rely_refl _ _ _ := ⟨fun _ h => h, fun _ _ h => h⟩
  rely_trans _ _ _ _ _ _ _ h h' :=
    ⟨fun r hf => h'.fresh r (h.fresh r hf), fun id r hg => h'.gone id r (h.gone id r hg)⟩
  step e seen hd _ hinv hpre := once_step e seen hd hinv hpre
  tick _ _ _ h := ⟨⟨h.unique, h.listed, h.issued⟩,
    fun _ => ⟨fun _ hf => ⟨hf.unseen, hf.issued⟩, fun _ _ hg => ⟨hg.seen, hg.absent⟩⟩⟩

/-! ## The calls -/

section safe

variable {β : Type} {i : ι} {s : CloudState ι} {seen : Set String}

/-- A call that keeps to it. Source: none: infrastructure. Kind: D -/
abbrev TakesOnce (calls : ι → CloudCall) (i : ι) (p : CloudM β) (s : CloudState ι)
    (seen : Set String) : Prop :=
  p.Safe (onceDiscipline calls) i (fun _ _ _ => True) s seen

theorem once_ret (b : β) : TakesOnce calls i (.ret b) s seen := fun _ _ _ _ => trivial

theorem once_ofExcept (r : Except CoreError β) : TakesOnce calls i (Prog.ofExcept r) s seen := by
  cases r <;> exact fun _ _ _ _ => trivial

theorem once_ofExcept_bind {α : Type} {r : Except CoreError α} {f : α → CloudM β}
    (hf : ∀ a, r = .ok a → TakesOnce calls i (f a) s seen) :
    TakesOnce calls i (Prog.ofExcept r >>= f) s seen :=
  Prog.Safe.ofExcept_bind (fun _ _ _ => trivial) hf

/-- What a receive hands out is fresh. Source: none: infrastructure. Kind: L -/
theorem fresh_receive {α : Type} {ch : CloudChoice} {shape : Offer → α} {s' : CloudState ι} {a : α}
    (hinv : Seen s seen) (h : receive ch i shape s = some (.ok (some a), s')) :
    ∃ o, a = shape o ∧ Fresh i o.receipt s' seen := by
  unfold receive at h
  rcases hoffer : ch.offer with - | o
  · rw [hoffer] at h
    rcases hfate : ch.fate with - | e | e <;> simp [hfate, Fate.answer] at h
  · simp only [hoffer] at h
    split at h
    · next hcan =>
      rcases hfate : ch.fate with - | e | e <;> simp [hfate, Fate.answer] at h
      obtain ⟨rfl, rfl⟩ := h
      refine ⟨o, rfl, fun hmem => ?_, ⟨o.message, o.receipt, i⟩, List.mem_cons_self, rfl, rfl⟩
      obtain ⟨d, hd, hreceipt⟩ := hinv.issued _ hmem
      simp only [CloudState.canHandOut, Bool.and_eq_true, List.all_eq_true, decide_eq_true_eq] at hcan
      exact hcan.2 d hd hreceipt
    · cases h

/-- The rule for the registration. Source: none: infrastructure. Kind: L -/
theorem once_register {id : QueueItemId} {receipt : String} {f : Unit → CloudM β}
    (h : Fresh i receipt s seen) (hf : ∀ s seen, TakesOnce calls i (f ()) s seen) :
    TakesOnce calls i (registerInflight id receipt >>= f) s seen :=
  fun _ _ honce _ => ⟨honce.fresh receipt h, fun _ _ _ _ _ => hf _ _⟩

variable [Blake3]

theorem once_accept {decode : String → Except String Bytes} {o : Offer}
    (h : Fresh i o.receipt s seen) : TakesOnce calls i (Sqs.accept decode o.sqs) s seen := by
  refine once_ofExcept_bind fun receipt hreceipt => once_ofExcept_bind fun mid _ =>
    once_ofExcept_bind fun body _ => once_ofExcept_bind fun payload _ => ?_
  have heq : receipt = o.receipt := by
    unfold Offer.sqs at hreceipt
    by_cases hnames : o.namesReceipt = true
    · simp only [hnames, if_true, orFatal] at hreceipt
      exact (Except.ok.inj hreceipt).symm
    · simp [hnames, orFatal] at hreceipt
  subst heq
  exact once_register h fun _ _ => once_ret _

theorem once_sqs (decode : String → Except String Bytes) (secs : Nat) :
    TakesOnce calls i (Sqs.dequeueInternal decode secs) s seen := by
  intro s' seen' _ hinv
  refine ⟨trivial, fun resp s'' hd _ hinv' => once_ofExcept_bind fun received hresp => ?_⟩
  subst hresp
  rcases received with - | msg
  · exact once_ret _
  · obtain ⟨ch, hexec⟩ := hd
    obtain ⟨o, rfl, hfresh⟩ := fresh_receive hinv hexec
    exact once_accept hfresh

theorem once_pullOne {default secs : Nat} (hcall : ∀ id, calls i ≠ .nack id) :
    TakesOnce calls i (PubSub.pullOne default secs) s seen := by
  intro s' seen' _ hinv
  refine ⟨trivial, fun resp s'' hd _ hinv' => once_ofExcept_bind fun received hresp => ?_⟩
  subst hresp
  rcases received with - | msg
  · exact once_ret _
  · obtain ⟨ch, hexec⟩ := hd
    obtain ⟨o, rfl, hfresh⟩ := fresh_receive hinv hexec
    have hregister : ∀ s seen, Fresh i o.receipt s seen → TakesOnce calls i
        (registerInflight (QueueItemId.fromMessageIdString o.message) o.receipt >>= fun _ =>
          Prog.ret (some (QueueItemId.fromMessageIdString o.message, o.data, o.receipt))) s seen :=
      fun s seen h => once_register h fun _ _ => once_ret _
    show TakesOnce calls i (PubSub.applyLease default secs o.pubSub >>= fun _ => _) s'' seen'
    unfold PubSub.applyLease
    by_cases hlease : secs ≠ default
    · rw [if_pos hlease]
      intro s₁ seen₁ honce hinv₁
      refine ⟨fun id hid => absurd hid (hcall id), fun r s₂ hd₂ _ _ => ?_⟩
      have hmine := honce.fresh _ hfresh
      have hgrow := (issued_step (effect_of_does hd₂) hinv₁.unique).2
      rcases r with e | u
      · exact fun _ _ _ _ => trivial
      · refine hregister s₂ seen₁ ⟨hmine.unseen, ?_⟩
        obtain ⟨d, hdmem, hdreceipt⟩ := hmine.issued
        exact ⟨d, hgrow d hdmem, hdreceipt⟩
    · rw [if_neg hlease]
      exact hregister s'' seen' hfresh

omit [Blake3] in
/-- The rule for a receipt that is taken. Source: `rollout-cloud-aws/src/sqs/lease.rs`,
`rollout-cloud-gcp/src/pubsub/lease.rs` (`inflight.remove`). Kind: L -/
theorem once_viaInflightTable {op : String} {id : QueueItemId} {use : String → CloudM Unit}
    (huse : ∀ receipt s seen, Gone id receipt s seen → TakesOnce calls i (use receipt) s seen) :
    TakesOnce calls i (viaInflightTable op id use) s seen := by
  intro s' seen' _ hinv
  refine ⟨trivial, fun r s'' hd _ _ => ?_⟩
  have hafter : s''.inflight = s'.inflight.del id := inflight_of_does hd
  obtain ⟨ch, hexec⟩ := hd
  obtain ⟨hget, -⟩ := Prod.mk.inj (Option.some.inj hexec)
  rcases r with - | receipt
  · exact fun _ _ _ _ => trivial
  · refine huse receipt s'' seen' ⟨hinv.listed id receipt hget, ?_⟩
    rw [hafter, KV.get_del_self]
    exact (Option.some_ne_none receipt).symm

omit [Blake3] in
theorem once_deleteMessage {id : QueueItemId} {receipt : String} (hcall : calls i = .ack id)
    (h : Gone id receipt s seen) : TakesOnce calls i (deleteMessage receipt) s seen := by
  intro s' seen' honce _
  refine ⟨fun id' hid => ?_, fun r _ _ _ _ => once_ofExcept r⟩
  obtain rfl := CloudCall.ack.inj (hcall.symm.trans hid)
  exact honce.gone id receipt h

omit [Blake3] in
theorem once_modifyDeadline {id : QueueItemId} {receipt : String} {secs : Nat}
    (hcall : calls i = .nack id) (h : Gone id receipt s seen) :
    TakesOnce calls i (modifyDeadline receipt secs) s seen := by
  intro s' seen' honce _
  refine ⟨fun id' hid => ?_, fun r _ _ _ _ => once_ofExcept r⟩
  obtain rfl := CloudCall.nack.inj (hcall.symm.trans hid)
  exact honce.gone id receipt h

/-- **Every call keeps to it.** Source: `rollout-cloud-aws/src/sqs`, `rollout-cloud-gcp/src/pubsub`.
Kind: L -/
theorem once_call (a : Adapter) {c : CloudCall} (hc : calls i = c) :
    TakesOnce calls i (a.prog c) s seen := by
  have hdequeue : (∀ id, calls i ≠ .nack id) → ∀ secs s seen,
      TakesOnce calls i (a.dequeueFor secs) s seen := by
    intro hcall secs s seen
    rcases a with ⟨decode, default⟩ | default
    · exact once_sqs decode secs
    · exact once_pullOne hcall
  rcases c with - | lease | id | id
  · refine Prog.Safe.bind ((hdequeue (fun id h => by rw [hc] at h; cases h) _ s seen).weaken ?_)
    rintro (e | leased) s seen -
    · trivial
    · exact once_ret _
  · exact hdequeue (fun id h => by rw [hc] at h; cases h) _ s seen
  · exact once_viaInflightTable fun receipt s seen h => once_deleteMessage hc h
  · exact once_viaInflightTable fun receipt s seen h => once_modifyDeadline hc h

end safe

/-! ## Runs -/

section runs

variable [Blake3] {s₀ : CloudState ι} {tr : List (CloudEvent ι)}

/-- An entry whose remote call failed is gone. Source: `rollout-cloud-aws/src/sqs/lease.rs`,
`rollout-cloud-gcp/src/pubsub/lease.rs`. Kind: P -/
theorem failed_entry_gone {a : Adapter}
    {d : Config cloudIface CoreError (CloudState ι) fun i => (calls i).Out}
    (hunique : ReceiptsUnique s₀) (htable : TableIssued s₀)
    (hrun : Run (cloudMachine ι) (cloudSystem a calls s₀) tr d) {e : CloudEvent ι} (he : e ∈ tr)
    {id : QueueItemId} {receipt : String} (hfailed : RemoteFailed calls id receipt e) :
    e.post.inflight.get id ≠ some receipt := by
  have hstart : Seen s₀ { receipt | ∃ d ∈ s₀.issued, d.receipt = receipt } :=
    ⟨hunique, htable, fun receipt h => h⟩
  obtain ⟨hd, -, seen, -, hpre, -⟩ := hrun.sound_event (onceDiscipline calls)
    (fun _ _ _ _ => True) hstart (fun i => once_call a rfl) (fun _ _ => trivial) e he
  have htable := inflight_of_does hd
  obtain ⟨i, o, r, s, s'⟩ := e
  rcases o with secs | _ | receipt' | ⟨receipt', secs⟩ | ⟨id', receipt'⟩ | id'
  · exact hfailed.elim
  · exact hfailed.elim
  · rcases r with err | u
    · obtain ⟨hcall, rfl⟩ := hfailed
      rw [htable]
      exact (hpre id hcall).absent
    · exact hfailed.elim
  · rcases r with err | u
    · obtain ⟨hcall, rfl⟩ := hfailed
      rw [htable]
      exact (hpre id hcall).absent
    · exact hfailed.elim
  · exact hfailed.elim
  · exact hfailed.elim

/-- **Failed acks and nacks keep their entries exactly when none fails**: whatever else runs on the
adapter, the entry of a call whose remote call fails is not in the table when the call returns.
Source: `rollout-cloud-aws/src/sqs/lease.rs`, `rollout-cloud-gcp/src/pubsub/lease.rs`. Kind: C -/
theorem failed_acks_kept_iff (a : Adapter) (calls : ι → CloudCall)
    {d : Config cloudIface CoreError (CloudState ι) fun i => (calls i).Out}
    (hunique : ReceiptsUnique s₀) (htable : TableIssued s₀)
    (hrun : Run (cloudMachine ι) (cloudSystem a calls s₀) tr d) :
    (∀ e ∈ tr, KeepsEntry calls e) ↔ ∀ e ∈ tr, ∀ id receipt, ¬ RemoteFailed calls id receipt e := by
  constructor
  · intro h e he id receipt hfailed
    exact failed_entry_gone hunique htable hrun he hfailed (h e he id receipt hfailed)
  · intro h e he id receipt hfailed
    exact absurd hfailed (h e he id receipt)

end runs

/-! ## A refused request -/

deriving instance DecidableEq for CloudCall

instance (calls : ι → CloudCall) (id : QueueItemId) (receipt : String) :
    DecidablePred (RemoteFailed calls id receipt)
  | ⟨i, .delete r, .error _, _, _⟩ => inferInstanceAs (Decidable (calls i = .ack id ∧ r = receipt))
  | ⟨i, .deadline r _, .error _, _, _⟩ =>
      inferInstanceAs (Decidable (calls i = .nack id ∧ r = receipt))
  | ⟨_, .delete _, .ok _, _, _⟩ => isFalse fun h => h
  | ⟨_, .deadline _ _, .ok _, _, _⟩ => isFalse fun h => h
  | ⟨_, .receiveMessage _, _, _, _⟩ => isFalse fun h => h
  | ⟨_, .pull, _, _, _⟩ => isFalse fun h => h
  | ⟨_, .register _ _, _, _, _⟩ => isFalse fun h => h
  | ⟨_, .take _, _, _, _⟩ => isFalse fun h => h

/-- The calls: one that gets a message, and two that answer it. Source: none: infrastructure.
Kind: D -/
inductive Caller
  | gets
  | first
  | second
deriving DecidableEq

/-- A message is handed out, and the same call on it is made twice.
Source: none: infrastructure. Kind: D -/
def madeTwice (again : CloudCall) : Caller → CloudCall
  | .gets => .dequeue
  | .first => again
  | .second => again

/-- One message waits. Source: none: infrastructure. Kind: D -/
def oneWaits : CloudState Caller := ⟨[], fun m => m = someMid, fun _ => false, ∅⟩

/-- The service throttles the request. Source: none: infrastructure. Kind: D -/
def throttles : CloudChoice :=
  ⟨.failed (.recoverable (.throttled (.backoff 200000000 30000000000))), none⟩

/-- The message is handed out, and the first call's request answered.
Source: none: infrastructure. Kind: D -/
def answered (answer : CloudChoice) : List (Move (cloudMachine Caller)) :=
  [.step .gets (handsOut "first"), .step .gets handsNothing, .step .first handsNothing,
    .step .first answer]

/-- A request of a call failed and its entry is gone. Source: none: infrastructure. Kind: D -/
def lostEntry (calls : Caller → CloudCall) (tr : List (CloudEvent Caller)) : Bool :=
  tr.any fun e => decide (RemoteFailed calls someItem "first" e ∧
    e.post.inflight.get someItem ≠ some "first")

/-- The second call is refused. Source: none: infrastructure. Kind: D -/
def refusedAs {β : Type} (e : CoreError) : CloudM β → Bool
  | .err e' => decide (e' = e)
  | _ => false

theorem not_kept_of_lostEntry {calls : Caller → CloudCall} {tr : List (CloudEvent Caller)}
    (h : lostEntry calls tr = true) : ¬ ∀ e ∈ tr, KeepsEntry calls e := by
  intro hall
  obtain ⟨e, he, hcheck⟩ := List.any_eq_true.mp h
  obtain ⟨hfailed, hgone⟩ := of_decide_eq_true hcheck
  exact hgone (hall e he someItem "first" hfailed)

theorem eq_err_of_refusedAs {β : Type} {e : CoreError} {p : CloudM β} (h : refusedAs e p = true) :
    p = .err e := by
  cases p with
  | err e' => rw [of_decide_eq_true h]
  | ret b => cases h
  | call o k => cases h

/-- **An ack or nack that is throttled cannot be made again**: with SQS an ack, with Pub/Sub a nack.
Source: `rollout-cloud-aws/src/sqs/lease.rs`, `rollout-cloud-gcp/src/pubsub/lease.rs`. Kind: C -/
theorem failed_ack_refused :
    (∃ tr d, Run (cloudMachine Caller)
      (@cloudSystem midBlake3 _ (.sqs decodeOne 300) (madeTwice (.ack someItem)) oneWaits) tr d ∧
        (¬ ∀ e ∈ tr, KeepsEntry (madeTwice (.ack someItem)) e) ∧
        d.progs .second = .err (notInFlight "ack" someItem)) ∧
      ∃ tr d, Run (cloudMachine Caller)
        (@cloudSystem midBlake3 _ (.pubSub 30) (madeTwice (.nack someItem)) oneWaits) tr d ∧
          (¬ ∀ e ∈ tr, KeepsEntry (madeTwice (.nack someItem)) e) ∧
          d.progs .second = .err (notInFlight "nack" someItem) := by
  have hsqs : ((@cloudSystem midBlake3 _ (.sqs decodeOne 300) (madeTwice (.ack someItem))
      oneWaits).play (answered throttles ++ [.step .second handsNothing])).map
        (fun x => lostEntry (madeTwice (.ack someItem)) x.1 &&
          refusedAs (notInFlight "ack" someItem) (x.2.progs .second)) = some true := by decide +kernel
  have hpubSub : ((@cloudSystem midBlake3 _ (.pubSub 30) (madeTwice (.nack someItem))
      oneWaits).play (answered throttles ++ [.step .second handsNothing])).map
        (fun x => lostEntry (madeTwice (.nack someItem)) x.1 &&
          refusedAs (notInFlight "nack" someItem) (x.2.progs .second)) = some true := by decide +kernel
  obtain ⟨⟨tr, d⟩, hrun, hend⟩ := Option.map_eq_some_iff.mp hsqs
  obtain ⟨⟨tr', d'⟩, hrun', hend'⟩ := Option.map_eq_some_iff.mp hpubSub
  obtain ⟨hlost, hrefused⟩ := Bool.and_eq_true_iff.mp hend
  obtain ⟨hlost', hrefused'⟩ := Bool.and_eq_true_iff.mp hend'
  exact ⟨⟨tr, d, Config.play_run hrun, not_kept_of_lostEntry hlost, eq_err_of_refusedAs hrefused⟩,
    tr', d', Config.play_run hrun', not_kept_of_lostEntry hlost', eq_err_of_refusedAs hrefused'⟩

/-- No request was refused. Source: none: infrastructure. Kind: D -/
def allAnswered (tr : List (CloudEvent Caller)) : Bool :=
  tr.all fun e => match e with
    | ⟨_, .delete _, .error _, _, _⟩ => false
    | ⟨_, .deadline _ _, .error _, _, _⟩ => false
    | _ => true

theorem not_remoteFailed_of_allAnswered {calls : Caller → CloudCall}
    {tr : List (CloudEvent Caller)} (h : allAnswered tr = true) :
    ∀ e ∈ tr, ∀ id receipt, ¬ RemoteFailed calls id receipt e := by
  intro e he id receipt hfailed
  have hall := List.all_eq_true.mp h e he
  obtain ⟨i, o, r, s, s'⟩ := e
  rcases o with secs | _ | receipt' | ⟨receipt', secs⟩ | ⟨id', receipt'⟩ | id'
  · exact hfailed
  · exact hfailed
  · rcases r with err | u
    · cases hall
    · exact hfailed
  · rcases r with err | u
    · cases hall
    · exact hfailed
  · exact hfailed
  · exact hfailed

/-- `failed_acks_kept_iff` where the ack succeeds.
Source: `rollout-cloud-aws/src/sqs/lease.rs`. Kind: L -/
theorem failed_acks_kept_answered : ∃ tr d, Run (cloudMachine Caller)
    (@cloudSystem midBlake3 _ (.sqs decodeOne 300) (madeTwice (.ack someItem)) oneWaits) tr d ∧
      tr.length = 4 ∧ ∀ e ∈ tr, KeepsEntry (madeTwice (.ack someItem)) e := by
  have hplay : ((@cloudSystem midBlake3 _ (.sqs decodeOne 300) (madeTwice (.ack someItem))
      oneWaits).play (answered handsNothing)).map
        (fun x => decide (x.1.length = 4) && allAnswered x.1) = some true := by decide +kernel
  obtain ⟨⟨tr, d⟩, hrun, hend⟩ := Option.map_eq_some_iff.mp hplay
  obtain ⟨hlength, hall⟩ := Bool.and_eq_true_iff.mp hend
  have hunique : ReceiptsUnique oneWaits := List.nodup_nil
  have htable : TableIssued oneWaits := by
    intro id receipt hget
    rw [show oneWaits.inflight = ∅ from rfl, KV.get_empty] at hget
    cases hget
  exact ⟨tr, d, Config.play_run hrun, of_decide_eq_true hlength,
    (@failed_acks_kept_iff _ _ midBlake3 _ _ (.sqs decodeOne 300) (madeTwice (.ack someItem)) _
      hunique htable (Config.play_run hrun)).mpr (not_remoteFailed_of_allAnswered hall)⟩

end Rollout.CloudQueue
