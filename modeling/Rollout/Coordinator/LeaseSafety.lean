import Rollout.Coordinator.Lease

/-!
# Lease safety

For any interleaving of lease calls by any number of coordinators, whatever their clocks show:

* the stored epoch never decreases, and each epoch up to it was won by exactly one `tryAcquire`;
* a lease that has not expired on the caller's clock is not taken over;
* the epoch row carries the epoch of the lease row in every committed state;
* a `renew` whose record is no longer the stored one is refused and writes nothing.

The history of a run is the list of its wins. `LeaseInv` ties it to the two rows: the epochs won
so far are `0, 1, …` up to the stored one, in this order. What a transaction needs to know to keep
it (`Justified`) is fixed once the row has been read, so nothing is asked of the other processes.
-/

set_option linter.unusedSectionVars false

namespace Rollout.Coordinator.Lease

open Rollout.Lib Rollout.Core

variable {ι : Type} (runId : RunId)

/-- The lease record in the store. Source: none: infrastructure. Kind: D -/
def stored (s : Rows) : Option LeaseRecord :=
  (s.get (leaseKey runId)).bind LeaseRecord.codec.fromBytes

/-- What a claim does to the store. Source: `rollout-coordinator/src/lease.rs` `commit_claim`.
Kind: L -/
theorem atomically_commitClaim (expected : Option Bytes) (next : LeaseRecord) (s : Rows) :
    atomically (commitClaim runId expected next) s =
      if s.get (leaseKey runId) = expected then
        (true, (s.put (leaseKey runId) (encode next)).put (epochKey runId)
          (CoordEpoch.codec.enc next.epoch))
      else (false, s) := by
  unfold atomically commitClaim
  by_cases h : s.get (leaseKey runId) = expected
  · simp [h]
  · simp [h]

/-! ## The invariant -/

/-- **The rows and the wins of a run.** Source: none: infrastructure. Kind: D -/
def LeaseInv (s : Rows) (wins : List (ι × CoordEpoch)) : Prop :=
  (s.get (leaseKey runId) = none ∧ s.get (epochKey runId) = none ∧ wins = []) ∨
    ∃ rec, s.get (leaseKey runId) = some (encode rec) ∧
      s.get (epochKey runId) = some (CoordEpoch.codec.enc rec.epoch) ∧
      wins.map (fun w => w.2.raw.toNat) = List.range (rec.epoch.raw.toNat + 1)

/-- What a call may claim: a fresh row, a row it saw expired, or the record it holds.
Source: `rollout-coordinator/src/lease.rs` `try_acquire`, `renew`. Kind: D -/
def Justified (c : LeaseCall) (t : Claim) : Prop :=
  match c with
  | .tryAcquire me ttlMs now =>
      t = ⟨none, ⟨me, ⟨0⟩, now + ttlMs⟩⟩ ∨
        ∃ cur : LeaseRecord, cur.expiresAtMs < now ∧
          t = ⟨some (encode cur), ⟨me, ⟨cur.epoch.raw + 1⟩, now + ttlMs⟩⟩
  | .renew held ttlMs now => t = ⟨some (encode held), ⟨held.holder, held.epoch, now + ttlMs⟩⟩
  | .current => False
  | .currentEpoch => False

/-- Whether a call is an acquire. Source: none: infrastructure. Kind: D -/
def LeaseCall.isAcquire : LeaseCall → Bool
  | .tryAcquire .. => true
  | _ => false

/-- The stored epoch has not reached the end of its width.
Source: none: infrastructure. Kind: D -/
def EpochFits (s : Rows) : Prop :=
  ∀ rec, stored runId s = some rec → rec.epoch.raw.toNat + 1 < 2 ^ 64

instance (s : Rows) : Decidable (EpochFits runId s) :=
  inferInstanceAs (Decidable (∀ rec ∈ stored runId s, rec.epoch.raw.toNat + 1 < 2 ^ 64))

theorem stored_of_row {s : Rows} {rec : LeaseRecord}
    (h : s.get (leaseKey runId) = some (encode rec)) : stored runId s = some rec := by
  unfold stored
  rw [h, Option.bind_some]
  exact Codec.fromBytes_enc _ rec

theorem stored_of_none {s : Rows} (h : s.get (leaseKey runId) = none) : stored runId s = none := by
  unfold stored
  rw [h, Option.bind_none]

/-- The rows after a claim that won. Source: none: infrastructure. Kind: L -/
theorem rows_after_win (s : Rows) (next : LeaseRecord) :
    let s' := (s.put (leaseKey runId) (encode next)).put (epochKey runId)
      (CoordEpoch.codec.enc next.epoch)
    s'.get (leaseKey runId) = some (encode next) ∧
      s'.get (epochKey runId) = some (CoordEpoch.codec.enc next.epoch) := by
  refine ⟨?_, ?_⟩
  · rw [KV.get_put_of_ne _ _ _ _ (epochKey_ne_leaseKey runId).symm, KV.get_put_self]
  · rw [KV.get_put_self]

variable (calls : ι → LeaseCall)

/-- The wins after a claim. Source: none: infrastructure. Kind: D -/
def recordWin (wins : List (ι × CoordEpoch)) (i : ι) (t : Claim) (won : Bool) :
    List (ι × CoordEpoch) :=
  if won && (calls i).isAcquire then wins ++ [(i, t.next.epoch)] else wins

variable {runId calls}

/-- **One claim keeps the invariant.** Source: none: infrastructure. Kind: P -/
theorem LeaseInv.claim {s : Rows} {wins : List (ι × CoordEpoch)} {i : ι} {t : Claim}
    (hfits : EpochFits runId s) (h : LeaseInv runId s wins) (hj : Justified (calls i) t) :
    LeaseInv runId (atomically (commitClaim runId t.expected t.next) s).2
      (recordWin calls wins i t (atomically (commitClaim runId t.expected t.next) s).1) := by
  rw [atomically_commitClaim]
  by_cases hwon : s.get (leaseKey runId) = t.expected
  · rw [if_pos hwon]
    obtain ⟨hl, he⟩ := rows_after_win runId s t.next
    refine .inr ⟨t.next, hl, he, ?_⟩
    unfold recordWin
    cases hc : calls i with
    | tryAcquire me ttlMs now =>
        simp only [LeaseCall.isAcquire, Bool.and_self, if_true, List.map_append, List.map_cons,
          List.map_nil]
        rw [hc] at hj
        rcases hj with rfl | ⟨cur, -, rfl⟩
        · rcases h with ⟨-, -, rfl⟩ | ⟨rec, hrow, -, -⟩
          · rfl
          · rw [hrow] at hwon
            simp at hwon
        · rcases h with ⟨hrow, -, -⟩ | ⟨rec, hrow, -, hw⟩
          · rw [hrow] at hwon
            simp at hwon
          · have hcur : rec = cur := by
              rw [hrow] at hwon
              exact encode_inj.mp (Option.some.inj hwon)
            subst hcur
            have hlt := hfits rec (stored_of_row runId hrow)
            have hsucc : (rec.epoch.raw + 1).toNat = rec.epoch.raw.toNat + 1 := by
              rw [BitVec.toNat_add]
              exact Nat.mod_eq_of_lt hlt
            simp only [hsucc]
            rw [hw, List.range_succ (n := rec.epoch.raw.toNat + 1)]
    | renew held ttlMs now =>
        simp only [LeaseCall.isAcquire, Bool.and_false, Bool.false_eq_true, if_false]
        rw [hc] at hj
        have ht : t = ⟨some (encode held), ⟨held.holder, held.epoch, now + ttlMs⟩⟩ := hj
        subst ht
        rcases h with ⟨hrow, -, -⟩ | ⟨rec, hrow, -, hw⟩
        · rw [hrow] at hwon
          simp at hwon
        · rw [hrow] at hwon
          have hheld : rec = held := encode_inj.mp (Option.some.inj hwon)
          rw [hw, hheld]
    | current =>
        rw [hc] at hj
        exact hj.elim
    | currentEpoch =>
        rw [hc] at hj
        exact hj.elim
  · rw [if_neg hwon]
    exact h

/-! ## The agreement between coordinators -/

variable (runId calls)

/-- The agreement of the lease calls: every claim is justified.
Source: none: infrastructure. Kind: D -/
def leaseRules : Store.Rules (txns runId) ι (List (ι × CoordEpoch)) where
  upd wins i t won := recordWin calls wins i t won
  inv := LeaseInv runId
  rely _ _ _ _ _ := True
  pre i t _ _ := Justified (calls i) t
  assume _ _ s := EpochFits runId s
  rely_refl _ _ _ := trivial
  rely_trans _ _ _ _ _ _ _ _ _ := trivial
  step _ _ _ _ hfits hinv hj := ⟨hinv.claim hfits hj, fun _ _ => trivial⟩

variable {runId calls}

theorem safe_claim {i : ι} {expected : Option Bytes} {next : LeaseRecord} {β : Type}
    {f : Bool → LeaseM runId β} {s : Rows} {wins : List (ι × CoordEpoch)}
    (hj : Justified (calls i) ⟨expected, next⟩)
    (hf : ∀ won s wins, (leaseRules runId calls).Safe i (f won) s wins) :
    (leaseRules runId calls).Safe i (claim runId expected next >>= f) s wins := by
  apply Store.Rules.Safe.txn
  intro s' wins' _ _
  exact ⟨hj, fun _ _ => hf _ _ _⟩

/-- Every call claims only what it may. Source: none: infrastructure. Kind: L -/
theorem safe_call (i : ι) (s : Rows) (wins : List (ι × CoordEpoch)) :
    (leaseRules runId calls).Safe i ((calls i).prog runId) s wins := by
  cases hc : calls i with
  | tryAcquire me ttlMs now =>
      show (leaseRules runId calls).Safe i (tryAcquire runId (claim runId) me ttlMs now) s wins
      unfold tryAcquire
      rw [getBytes_eq]
      apply Store.Rules.Safe.get
      intro s' wins' _ hinv
      rcases hinv with ⟨hrow, -, -⟩ | ⟨rec, hrow, -, -⟩
      · rw [hrow]
        apply safe_claim
        · rw [hc]
          exact .inl rfl
        · intro won s wins
          exact Store.Rules.Safe.ret _
      · rw [hrow]
        simp only [decode_encode, Prog.ofExcept_ok, Prog.ret_bind]
        split
        · next hexp =>
          apply safe_claim
          · rw [hc]
            exact .inr ⟨rec, hexp, rfl⟩
          · intro won s wins
            exact Store.Rules.Safe.ret _
        · exact Store.Rules.Safe.ret _
  | renew held ttlMs now =>
      show (leaseRules runId calls).Safe i
        (claim runId (some (encode held)) ⟨held.holder, held.epoch, now + ttlMs⟩) s wins
      rw [← Prog.bind_ret (claim runId _ _)]
      apply safe_claim
      · rw [hc]
        exact rfl
      · intro won s wins
        exact Store.Rules.Safe.ret _
  | current =>
      show (leaseRules runId calls).Safe i (current runId) s wins
      unfold current
      rw [getBytes_eq]
      apply Store.Rules.Safe.get
      intro s' wins' _ _
      cases s'.get (leaseKey runId) with
      | none => exact Store.Rules.Safe.ret _
      | some bytes =>
          show (leaseRules runId calls).Safe i (some <$> Prog.ofExcept (decode bytes)) s' wins'
          cases decode bytes with
          | error e => exact Store.Rules.Safe.err e
          | ok rec => exact Store.Rules.Safe.ret _
  | currentEpoch =>
      show (leaseRules runId calls).Safe i (currentEpoch runId) s wins
      unfold currentEpoch
      rw [getBytes_eq]
      apply Store.Rules.Safe.get
      intro s' wins' _ _
      cases s'.get (epochKey runId) with
      | none => exact Store.Rules.Safe.ret _
      | some bytes =>
          cases hd : CoordEpoch.codec.fromBytes bytes with
          | none =>
              simp only [hd]
              exact Store.Rules.Safe.err _
          | some epoch =>
              simp only [hd]
              exact Store.Rules.Safe.ret _

/-! ## Wins and results -/

variable (runId calls)

/-- An event of the lease. Source: none: infrastructure. Kind: D -/
abbrev LeaseEvent (ι : Type) := Event (Store.iface (txns runId) CoreError) ι Rows

/-- The win an event is. Source: none: infrastructure. Kind: D -/
def winOf (e : LeaseEvent runId ι) : Option (ι × CoordEpoch) :=
  match e with
  | ⟨i, .txn t, .ok true, _, _⟩ => if (calls i).isAcquire then some (i, t.next.epoch) else none
  | _ => none

/-- The epoch a finished acquire won. Source: none: infrastructure. Kind: D -/
def acquired : LeaseM runId (Option LeaseRecord) → Option CoordEpoch
  | .ret (some rec) => some rec.epoch
  | _ => none

/-- The epoch a finished call won. Source: none: infrastructure. Kind: D -/
def LeaseCall.won : (c : LeaseCall) → LeaseM runId c.Out → Option CoordEpoch
  | .tryAcquire .., p => acquired runId p
  | _, _ => none

/-- How a renew ended. Source: none: infrastructure. Kind: D -/
def LeaseCall.renewed : (c : LeaseCall) → LeaseM runId c.Out → Option (Except CoreError Bool)
  | .renew .., p => p.result?
  | _, _ => none

variable {runId calls}

theorem extend_eq (g : List (ι × CoordEpoch)) (e : LeaseEvent runId ι) :
    (leaseRules runId calls).extend g e = g ++ (winOf runId calls e).toList := by
  obtain ⟨i, o, r, s, s'⟩ := e
  cases o with
  | get k => simp [Store.Rules.extend, winOf]
  | scan p => simp [Store.Rules.extend, winOf]
  | txn t =>
      rcases r with err | won
      · simp [Store.Rules.extend, winOf]
      · show recordWin calls g i t won = g ++ (winOf runId calls ⟨i, .txn t, .ok won, s, s'⟩).toList
        unfold recordWin
        cases won with
        | false => simp [winOf]
        | true => by_cases hc : (calls i).isAcquire = true <;> simp [winOf, hc]

/-- The history of a run is the list of its wins. Source: none: infrastructure. Kind: L -/
theorem foldl_extend (tr : List (LeaseEvent runId ι)) (g : List (ι × CoordEpoch)) :
    tr.foldl (leaseRules runId calls).extend g = g ++ tr.filterMap (winOf runId calls) := by
  induction tr generalizing g with
  | nil => simp
  | cons e tr ih =>
      rw [List.foldl_cons, ih, extend_eq, List.filterMap_cons]
      cases winOf runId calls e <;> simp

variable [DecidableEq ι]

/-- A claim in progress, seen from its own events. Source: none: infrastructure. Kind: L -/
theorem exec_claim {i : ι} {expected : Option Bytes} {next : LeaseRecord}
    (hacq : (calls i).isAcquire = true) {es : List (LeaseEvent runId ι)}
    {q : LeaseM runId (Option LeaseRecord)}
    (h : Prog.Exec (Store.machine (txns runId) CoreError ι) i
      (claim runId expected next >>= fun won => .ret (if won then some next else none)) es q) :
    es.filterMap (winOf runId calls) = (acquired runId q).toList.map fun n => (i, n) := by
  rcases Store.exec_ask h with ⟨rfl, hq⟩ | ⟨err, s, rfl, rfl⟩ | ⟨s, es', rfl, h'⟩
  · cases q with
    | ret a => simp [Prog.result?] at hq
    | err e => rfl
    | call o k => rfl
  · rfl
  · obtain ⟨rfl, rfl⟩ := Prog.Exec.of_ret h'
    have hatom := atomically_commitClaim runId expected next s
    by_cases hs : s.get (leaseKey runId) = expected
    · rw [if_pos hs] at hatom
      have hperf : Store.perform (T := txns runId) (.txn ⟨expected, next⟩) s = (true, _) := hatom
      simp [hperf, winOf, hacq, acquired]
    · rw [if_neg hs] at hatom
      have hperf : Store.perform (T := txns runId) (.txn ⟨expected, next⟩) s = (false, _) := hatom
      simp [hperf, winOf, acquired]

/-- A call that is not an acquire wins nothing. Source: none: infrastructure. Kind: L -/
theorem filterMap_winOf_of_not_acquire {i : ι} (hacq : (calls i).isAcquire = false)
    {es : List (LeaseEvent runId ι)} (hwho : ∀ e ∈ es, e.who = i) :
    es.filterMap (winOf runId calls) = [] := by
  rw [List.filterMap_eq_nil_iff]
  intro e he
  have hi := hwho e he
  obtain ⟨j, o, r, s, s'⟩ := e
  simp only at hi
  subst hi
  unfold winOf
  split
  · next heq =>
    cases heq
    rw [if_neg (by rw [hacq]; simp)]
  · rfl

/-- Seen from one call, its wins are what it returns. Source: none: infrastructure. Kind: L -/
theorem exec_call {i : ι} {c : LeaseCall} (hc : calls i = c) {es : List (LeaseEvent runId ι)}
    {q : LeaseM runId c.Out}
    (h : Prog.Exec (Store.machine (txns runId) CoreError ι) i (c.prog runId) es q) :
    es.filterMap (winOf runId calls) = (LeaseCall.won runId c q).toList.map fun n => (i, n) := by
  have hwho := h.who
  cases c with
  | tryAcquire me ttlMs now =>
      have hacq : (calls i).isAcquire = true := by rw [hc]; rfl
      show es.filterMap (winOf runId calls) = (acquired runId q).toList.map fun n => (i, n)
      have h' : Prog.Exec (Store.machine (txns runId) CoreError ι) i
        (tryAcquire runId (claim runId) me ttlMs now) es q := h
      unfold tryAcquire at h'
      rw [getBytes_eq] at h'
      rcases Store.exec_ask h' with ⟨rfl, hq⟩ | ⟨err, s, rfl, rfl⟩ | ⟨s, es', rfl, h''⟩
      · cases q with
        | ret a => simp [Prog.result?] at hq
        | err e => rfl
        | call o k => rfl
      · rfl
      · rw [List.filterMap_cons_none rfl]
        simp only [Store.perform] at h''
        cases hrow : s.get (leaseKey runId) with
        | none =>
            rw [hrow] at h''
            exact exec_claim hacq h''
        | some prior =>
            rw [hrow] at h''
            simp only at h''
            cases hd : decode prior with
            | error e =>
                rw [hd] at h''
                obtain ⟨rfl, rfl⟩ := Prog.Exec.of_err h''
                rfl
            | ok cur =>
                rw [hd, Prog.ofExcept_ok, Prog.ret_bind] at h''
                split at h''
                · exact exec_claim hacq h''
                · obtain ⟨rfl, rfl⟩ := Prog.Exec.of_ret h''
                  rfl
  | renew held ttlMs now =>
      exact filterMap_winOf_of_not_acquire (by rw [hc]; rfl) hwho
  | current => exact filterMap_winOf_of_not_acquire (by rw [hc]; rfl) hwho
  | currentEpoch => exact filterMap_winOf_of_not_acquire (by rw [hc]; rfl) hwho

variable (runId calls)

/-- Any number of coordinators, each about to make its call.
Source: `rollout-coordinator/src/lease.rs`. Kind: D -/
def system (s : Rows) :
    Config (Store.iface (txns runId) CoreError) CoreError Rows fun i => (calls i).Out :=
  ⟨s, fun i => (calls i).prog runId⟩

variable {runId calls}
variable {s₀ : Rows} {tr : List (LeaseEvent runId ι)}
  {d : Config (Store.iface (txns runId) CoreError) CoreError Rows fun i => (calls i).Out}

/-- **The wins of a run are the results of its acquires.**
Source: none: infrastructure. Kind: P -/
theorem mem_wins (hrun : Run (Store.machine (txns runId) CoreError ι) (system runId calls s₀) tr d)
    {i : ι} {n : CoordEpoch} :
    (i, n) ∈ tr.filterMap (winOf runId calls) ↔
      LeaseCall.won runId (calls i) (d.progs i) = some n := by
  have hown := exec_call rfl (hrun.exec i)
  have hmem : (i, n) ∈ tr.filterMap (winOf runId calls) ↔
      (i, n) ∈ (own i tr).filterMap (winOf runId calls) := by
    simp only [List.mem_filterMap, mem_own]
    constructor
    · rintro ⟨e, he, hw⟩
      refine ⟨e, ⟨he, ?_⟩, hw⟩
      unfold winOf at hw
      split at hw
      · split at hw
        · simp only [Option.some.injEq, Prod.mk.injEq] at hw
          exact hw.1
        · simp at hw
      · simp at hw
    · rintro ⟨e, ⟨he, -⟩, hw⟩
      exact ⟨e, he, hw⟩
  rw [hmem, hown]
  simp

/-! ## What one event can do -/

/-- In every state the epoch row carries the epoch of the lease row.
Source: `rollout-coordinator/src/lease.rs` (module documentation). Kind: P -/
theorem LeaseInv.epochRow {s : Rows} {wins : List (ι × CoordEpoch)}
    (h : LeaseInv runId s wins) :
    s.get (epochKey runId) = (stored runId s).map fun rec => CoordEpoch.codec.enc rec.epoch := by
  rcases h with ⟨hrow, hepoch, -⟩ | ⟨rec, hrow, hepoch, -⟩
  · rw [stored_of_none runId hrow, hepoch]
    rfl
  · rw [stored_of_row runId hrow, hepoch]
    rfl

/-- **What an event does to the lease**: nothing, or a fresh acquire, a steal of an expired lease,
or the renewal of the stored record. Source: `rollout-coordinator/src/lease.rs` `try_acquire`,
`renew`. Kind: P -/
theorem event_cases {e : LeaseEvent runId ι} {wins : List (ι × CoordEpoch)}
    (hd : (Store.machine (txns runId) CoreError ι).Does e) (hinv : LeaseInv runId e.pre wins)
    (hpre : (leaseRules runId calls).before e.who e.op e.pre wins) :
    e.post = e.pre ∨ ∃ next, stored runId e.post = some next ∧
      match calls e.who with
      | .tryAcquire _ _ now => stored runId e.pre = none ∨ ∃ cur, stored runId e.pre = some cur ∧
          cur.expiresAtMs < now ∧ next.epoch.raw = cur.epoch.raw + 1
      | .renew held _ _ => stored runId e.pre = some held ∧ next.epoch = held.epoch
      | .current => False
      | .currentEpoch => False := by
  obtain ⟨i, o, r, s, s'⟩ := e
  rcases Store.does_iff.mp hd with ⟨err, -, hs⟩ | ⟨-, hs⟩
  · exact .inl hs
  · cases o with
    | get k => exact .inl hs
    | scan p => exact .inl hs
    | txn t =>
        have hatom : s' = (atomically (commitClaim runId t.expected t.next) s).2 := hs
        rw [atomically_commitClaim] at hatom
        by_cases hwon : s.get (leaseKey runId) = t.expected
        · rw [if_pos hwon] at hatom
          refine .inr ⟨t.next, ?_, ?_⟩
          · rw [hatom]
            exact stored_of_row runId (rows_after_win runId s t.next).1
          · have hj : Justified (calls i) t := hpre
            show match calls i with
              | .tryAcquire _ _ now => stored runId s = none ∨ ∃ cur, stored runId s = some cur ∧
                  cur.expiresAtMs < now ∧ t.next.epoch.raw = cur.epoch.raw + 1
              | .renew held _ _ => stored runId s = some held ∧ t.next.epoch = held.epoch
              | .current => False
              | .currentEpoch => False
            cases hc : calls i with
            | tryAcquire me ttlMs now =>
                rw [hc] at hj
                rcases hj with rfl | ⟨cur, hexp, rfl⟩
                · exact .inl (stored_of_none runId hwon)
                · exact .inr ⟨cur, stored_of_row runId hwon, hexp, rfl⟩
            | renew held ttlMs now =>
                rw [hc] at hj
                have ht : t = ⟨some (encode held), ⟨held.holder, held.epoch, now + ttlMs⟩⟩ := hj
                subst ht
                exact ⟨stored_of_row runId hwon, rfl⟩
            | current =>
                rw [hc] at hj
                exact hj
            | currentEpoch =>
                rw [hc] at hj
                exact hj
        · rw [if_neg hwon] at hatom
          exact .inl hatom

/-- A renew whose record is not the stored one is refused. Source:
`rollout-coordinator/src/lease.rs` `renew`. Kind: L -/
theorem exec_renew {i : ι} {held : LeaseRecord} {ttlMs now : BitVec 128}
    {es : List (LeaseEvent runId ι)} {q : LeaseM runId Bool}
    (h : Prog.Exec (Store.machine (txns runId) CoreError ι) i (renew runId held ttlMs now) es q)
    {e : LeaseEvent runId ι} (he : e ∈ es) (hold : stored runId e.pre ≠ some held) :
    q.result? = some (.ok false) ∨ ∃ err, q.result? = some (.error err) := by
  have h' : Prog.Exec (Store.machine (txns runId) CoreError ι) i
      (claim runId (some (encode held)) ⟨held.holder, held.epoch, now + ttlMs⟩ >>= .ret) es q := by
    rw [Prog.bind_ret]
    exact h
  rcases Store.exec_ask h' with ⟨rfl, -⟩ | ⟨err, s, rfl, rfl⟩ | ⟨s, es', rfl, h''⟩
  · simp at he
  · exact .inr ⟨err, rfl⟩
  · obtain ⟨rfl, rfl⟩ := Prog.Exec.of_ret h''
    rw [List.mem_singleton.mp he] at hold
    have hrow : s.get (leaseKey runId) ≠ some (encode held) :=
      fun hrow => hold (stored_of_row runId hrow)
    have hatom := atomically_commitClaim runId (some (encode held))
      ⟨held.holder, held.epoch, now + ttlMs⟩ s
    rw [if_neg hrow] at hatom
    have hperf : (Store.perform (T := txns runId)
        (.txn ⟨some (encode held), held.holder, held.epoch, now + ttlMs⟩) s).1 = false :=
      congrArg Prod.fst hatom
    rw [hperf]
    exact .inl rfl

/-! ## Lease safety -/

/-- The epochs won so far are those up to the stored one, once each.
Source: none: infrastructure. Kind: L -/
theorem LeaseInv.unique_win {s : Rows} {wins : List (ι × CoordEpoch)} (h : LeaseInv runId s wins)
    {rec : LeaseRecord} (hrec : stored runId s = some rec) {n : BitVec 64}
    (hn : n ≤ rec.epoch.raw) : ∃! i, (i, (⟨n⟩ : CoordEpoch)) ∈ wins := by
  rcases h with ⟨hrow, -, -⟩ | ⟨rec', hrow, -, hw⟩
  · rw [stored_of_none runId hrow] at hrec
    simp at hrec
  · rw [stored_of_row runId hrow, Option.some.injEq] at hrec
    subst hrec
    have hmem : n.toNat ∈ wins.map fun w => w.2.raw.toNat := by
      rw [hw, List.mem_range]
      exact Nat.lt_succ_of_le hn
    have hnodup : (wins.map fun w => w.2.raw.toNat).Nodup := by
      rw [hw]
      exact List.nodup_range
    obtain ⟨⟨i, ⟨m⟩⟩, hi, hm⟩ := List.mem_map.mp hmem
    have hmn : m = n := BitVec.eq_of_toNat_eq hm
    subst hmn
    refine ⟨i, hi, ?_⟩
    intro j hj
    exact congrArg Prod.fst (List.inj_on_of_nodup_map hnodup hj hi rfl)

/-- No epoch above the stored one has been won. Source: none: infrastructure. Kind: L -/
theorem LeaseInv.won_le {s : Rows} {wins : List (ι × CoordEpoch)} (h : LeaseInv runId s wins)
    {i : ι} {n : CoordEpoch} (hn : (i, n) ∈ wins) :
    ∃ rec, stored runId s = some rec ∧ n.raw ≤ rec.epoch.raw := by
  rcases h with ⟨-, -, rfl⟩ | ⟨rec, hrow, -, hw⟩
  · simp at hn
  · refine ⟨rec, stored_of_row runId hrow, ?_⟩
    have hmem := List.mem_map_of_mem (f := fun w : ι × CoordEpoch => w.2.raw.toNat) hn
    rw [hw, List.mem_range] at hmem
    exact Nat.le_of_lt_succ hmem

/-- The epoch after an event is at least the one before.
Source: none: infrastructure. Kind: L -/
theorem epoch_le_of_event {e : LeaseEvent runId ι} {wins : List (ι × CoordEpoch)}
    (hd : (Store.machine (txns runId) CoreError ι).Does e) (hinv : LeaseInv runId e.pre wins)
    (hpre : (leaseRules runId calls).before e.who e.op e.pre wins) (hfits : EpochFits runId e.pre)
    {rec : LeaseRecord} (hrec : stored runId e.pre = some rec) :
    ∃ rec', stored runId e.post = some rec' ∧ rec.epoch.raw ≤ rec'.epoch.raw := by
  rcases event_cases hd hinv hpre with hsame | ⟨next, hnext, hcall⟩
  · rw [hsame]
    exact ⟨rec, hrec, BitVec.le_refl _⟩
  · refine ⟨next, hnext, ?_⟩
    rw [hrec] at hcall
    split at hcall
    · rcases hcall with hnone | ⟨cur, hcur, -, hepoch⟩
      · simp at hnone
      · obtain rfl := Option.some.inj hcur
        have hlt := hfits rec hrec
        rw [hepoch, BitVec.le_def, BitVec.toNat_add]
        show rec.epoch.raw.toNat ≤ (rec.epoch.raw.toNat + 1) % 2 ^ 64
        rw [Nat.mod_eq_of_lt hlt]
        omega
    · obtain ⟨hheld, hepoch⟩ := hcall
      obtain rfl := Option.some.inj hheld
      rw [hepoch]
      exact BitVec.le_refl _
    · exact hcall.elim
    · exact hcall.elim

/-- **Lease safety**, for every interleaving of any number of calls from a fresh run, whatever the
clocks show, as long as the epoch fits its width. Source: `rollout-coordinator/src/lease.rs`
`try_acquire`, `renew`, `current`, `commit_claim`. Kind: C -/
theorem lease_safety
    (hrun : Run (Store.machine (txns runId) CoreError ι) (system runId calls s₀) tr d)
    (hlease : s₀.get (leaseKey runId) = none) (hepoch : s₀.get (epochKey runId) = none)
    (hfits : ∀ e ∈ tr, EpochFits runId e.pre) :
    -- the stored epoch never decreases
    (∀ e ∈ tr, ∀ rec, stored runId e.pre = some rec →
      ∃ rec', stored runId e.post = some rec' ∧ rec.epoch.raw ≤ rec'.epoch.raw) ∧
    -- the epochs won are those up to the stored one, each by exactly one acquire
    (∀ rec, stored runId d.shared = some rec → ∀ n, n ≤ rec.epoch.raw →
      ∃! i, LeaseCall.won runId (calls i) (d.progs i) = some ⟨n⟩) ∧
    (∀ i n, LeaseCall.won runId (calls i) (d.progs i) = some n →
      ∃ rec, stored runId d.shared = some rec ∧ n.raw ≤ rec.epoch.raw) ∧
    -- a lease that has not expired on the caller's clock is left alone
    (∀ e ∈ tr, ∀ me ttlMs now, calls e.who = .tryAcquire me ttlMs now →
      ∀ rec, stored runId e.pre = some rec → ¬ rec.expiresAtMs < now → e.post = e.pre) ∧
    -- the two rows agree in every committed state
    (∀ s, s = d.shared ∨ (∃ e ∈ tr, s = e.pre ∨ s = e.post) →
      s.get (epochKey runId) = (stored runId s).map fun rec => CoordEpoch.codec.enc rec.epoch) ∧
    -- a renew that has been fenced is refused and writes nothing
    (∀ e ∈ tr, ∀ held ttlMs now, calls e.who = .renew held ttlMs now →
      stored runId e.pre ≠ some held → e.post = e.pre ∧
        (LeaseCall.renewed runId (calls e.who) (d.progs e.who) = some (.ok false) ∨
          ∃ err, LeaseCall.renewed runId (calls e.who) (d.progs e.who) = some (.error err))) := by
  have hinit : LeaseInv runId s₀ ([] : List (ι × CoordEpoch)) := .inl ⟨hlease, hepoch, rfl⟩
  have hsafe : ∀ i, (leaseRules runId calls).Safe i ((calls i).prog runId) s₀ [] :=
    fun i => safe_call i s₀ []
  have hass : ∀ e ∈ tr, (leaseRules runId calls).assumed e := by
    intro e he
    unfold Store.Rules.assumed
    split
    · exact hfits _ he
    · trivial
  have hend := (leaseRules runId calls).run hrun hinit hsafe hass
  rw [foldl_extend, List.nil_append] at hend
  have hevent := (leaseRules runId calls).run_event hrun hinit hsafe hass
  refine ⟨?_, ?_, ?_, ?_, ?_, ?_⟩
  · intro e he rec hrec
    obtain ⟨hd, wins, hinv, hpre, -⟩ := hevent e he
    exact epoch_le_of_event hd hinv hpre (hfits e he) hrec
  · intro rec hrec n hn
    obtain ⟨i, hi, huniq⟩ := hend.unique_win hrec hn
    exact ⟨i, (mem_wins hrun).mp hi, fun j hj => huniq j ((mem_wins hrun).mpr hj)⟩
  · intro i n hwon
    exact hend.won_le ((mem_wins hrun).mpr hwon)
  · intro e he me ttlMs now hc rec hrec hlive
    obtain ⟨hd, wins, hinv, hpre, -⟩ := hevent e he
    rcases event_cases hd hinv hpre with hsame | ⟨next, -, hcall⟩
    · exact hsame
    · rw [hc, hrec] at hcall
      rcases hcall with hnone | ⟨cur, hcur, hexp, -⟩
      · simp at hnone
      · obtain rfl := Option.some.inj hcur
        exact absurd hexp hlive
  · rintro s (rfl | ⟨e, he, hs⟩)
    · exact hend.epochRow
    · obtain ⟨-, wins, hinv, -, hinv'⟩ := hevent e he
      rcases hs with rfl | rfl
      · exact hinv.epochRow
      · exact LeaseInv.epochRow hinv'
  · intro e he held ttlMs now hc hold
    refine ⟨?_, ?_⟩
    · obtain ⟨hd, wins, hinv, hpre, -⟩ := hevent e he
      rcases event_cases hd hinv hpre with hsame | ⟨next, -, hcall⟩
      · exact hsame
      · rw [hc] at hcall
        exact absurd hcall.1 hold
    · have hexec := hrun.exec e.who
      have hown : e ∈ own e.who tr := mem_own.mpr ⟨he, rfl⟩
      revert hexec
      show Prog.Exec _ _ ((calls e.who).prog runId) _ (d.progs e.who) → _
      generalize d.progs e.who = q
      revert q
      rw [hc]
      intro q hexec
      exact exec_renew hexec hown hold

/-- A fresh acquire, a steal after the deadline has passed on the thief's clock, and the deposed
holder's renew. Source: `rollout-coordinator/src/lease.rs` `steal_advances_epoch`,
`renew_after_steal_fails`. Kind: D -/
def takeoverCalls : Fin 3 → LeaseCall
  | 0 => .tryAcquire ⟨⟨1⟩⟩ 50 1000
  | 1 => .tryAcquire ⟨⟨2⟩⟩ 50 1100
  | 2 => .renew ⟨⟨⟨1⟩⟩, ⟨0⟩, 1050⟩ 50 1020

/-- `lease_safety` at a takeover: both epochs have one winner and the deposed holder is refused.
Source: `rollout-coordinator/src/lease.rs` `renew_after_steal_fails`. Kind: C -/
theorem lease_safety_takeover :
    ∃ tr d, Run (Store.machine (txns ⟨⟨7⟩⟩) CoreError (Fin 3)) (system ⟨⟨7⟩⟩ takeoverCalls ∅) tr d ∧
      (∃! i, LeaseCall.won ⟨⟨7⟩⟩ (takeoverCalls i) (d.progs i) = some ⟨0⟩) ∧
      (∃! i, LeaseCall.won ⟨⟨7⟩⟩ (takeoverCalls i) (d.progs i) = some ⟨1⟩) := by
  have hplay : (((system ⟨⟨7⟩⟩ takeoverCalls ∅).play
      (inTurn (Store.machine (txns ⟨⟨7⟩⟩) CoreError (Fin 3)) (.ok ()) [0, 0, 1, 1, 2])).map fun x =>
      (decide (∀ e ∈ x.1, EpochFits ⟨⟨7⟩⟩ e.pre), stored ⟨⟨7⟩⟩ x.2.shared)) =
      some (true, some ⟨⟨⟨2⟩⟩, ⟨1⟩, 1150⟩) := by decide +kernel
  obtain ⟨⟨tr, d⟩, hrun, hend⟩ := Option.map_eq_some_iff.mp hplay
  simp only [Prod.mk.injEq, decide_eq_true_eq] at hend
  obtain ⟨hfits, hstored⟩ := hend
  have hsafe := lease_safety (Config.play_run hrun) rfl rfl hfits
  refine ⟨tr, d, Config.play_run hrun, ?_, ?_⟩
  · exact hsafe.2.1 _ hstored 0 (by decide)
  · exact hsafe.2.1 _ hstored 1 (by decide)

end Rollout.Coordinator.Lease
