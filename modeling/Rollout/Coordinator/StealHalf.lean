import Mathlib.Data.Finset.Card
import Rollout.Coordinator.Busiest
import Rollout.Coordinator.StealRequest

/-!
# What a steal request moves

A steal request alone on a ledger whose rows decode and stand under their own keys.

* `records`, `itemsWhere`, `runningItems` — the ledger as finite sets of items.
* `IsVictim` — the busiest worker but the thief, in whatever order the counts come.
* `HalfMoved` — the smaller half of the victim's items, at most thirty-two, is chosen; what is moved
  and returned are those of them whose row is the encoding of its record.
* `handleStealRequest_moves_half` — a request leaves the rows as `HalfMoved` says, or as they were.
-/

set_option linter.unusedSectionVars false

namespace Rollout.Coordinator.Steal

open Rollout.Lib Rollout.Core Rollout.Coordinator.WorkItem Rollout.Coordinator.Ledger

variable {runId : RunId} {thief victim : WorkerId} {now : BitVec 128} {rows : Rows}

/-! ## The ledger as sets of items -/

/-- Every row of the ledger decodes, and stands under the key of its own id.
Source: none: infrastructure. Kind: D -/
def Decodable (runId : RunId) (rows : Rows) : Prop :=
  ∀ key bytes, rows.get key = some bytes → inLedger runId key = true →
    ∃ rec, decode bytes = .ok rec ∧ key = workKey runId rec.id

/-- The decoded rows; those that do not decode are left out.
Source: `rollout-coordinator/src/steal.rs` (`filter_map`). Kind: D -/
def records (runId : RunId) (rows : Rows) : List WorkItemRecord :=
  (rows.scan (inLedger runId)).filterMap fun e => (decode e.2).toOption

/-- The items in a kind of state. Source: none: infrastructure. Kind: D -/
def itemsWhere (runId : RunId) (rows : Rows) (p : WorkState → Bool) : Finset ContentId :=
  (((records runId rows).filter fun rec => p rec.state).map WorkItemRecord.id).toFinset

/-- The items a worker runs. Source: none: infrastructure. Kind: D -/
def runningItems (runId : RunId) (rows : Rows) (w : WorkerId) : Finset ContentId :=
  itemsWhere runId rows fun st => st.owner = some w

/-- The items somebody runs. Source: none: infrastructure. Kind: D -/
def allRunning (runId : RunId) (rows : Rows) : Finset ContentId :=
  itemsWhere runId rows WorkState.isRunning

/-- How many items a worker runs. Source: none: infrastructure. Kind: D -/
def backlogOf (runId : RunId) (rows : Rows) (w : WorkerId) : Nat := (runningItems runId rows w).card

theorem toOption_eq_some {ε α : Type} {r : Except ε α} {a : α} : r.toOption = some a ↔ r = .ok a := by
  cases r <;> simp [Except.toOption]

theorem mem_records (hrows : Decodable runId rows) {rec : WorkItemRecord} :
    rec ∈ records runId rows ↔
      ∃ bytes, rows.get (workKey runId rec.id) = some bytes ∧ decode bytes = .ok rec := by
  unfold records
  rw [List.mem_filterMap]
  constructor
  · rintro ⟨⟨key, bytes⟩, hmem, hdec⟩
    rw [KV.mem_scan] at hmem
    rw [toOption_eq_some] at hdec
    obtain ⟨rec', hrec', rfl⟩ := hrows key bytes hmem.1 hmem.2
    obtain rfl := Except.ok.inj (hrec'.symm.trans hdec)
    exact ⟨bytes, hmem.1, hdec⟩
  · rintro ⟨bytes, hget, hdec⟩
    refine ⟨(workKey runId rec.id, bytes), ?_, toOption_eq_some.mpr hdec⟩
    rw [KV.mem_scan]
    exact ⟨hget, inLedger_workKey runId rec.id⟩

/-- An item has one record. Source: `rollout-coordinator/src/work_item.rs` `work_key`. Kind: L -/
theorem nodup_records (hrows : Decodable runId rows) :
    ((records runId rows).map WorkItemRecord.id).Nodup := by
  unfold records List.Nodup
  rw [List.pairwise_map, List.pairwise_filterMap]
  refine (List.pairwise_map.mp (KV.nodup_scan rows (inLedger runId))).imp_of_mem ?_
  rintro ⟨key, bytes⟩ ⟨key', bytes'⟩ hmem hmem' hne rec hrec rec' hrec' hid
  rw [KV.mem_scan] at hmem hmem'
  rw [toOption_eq_some] at hrec hrec'
  obtain ⟨r, hr, rfl⟩ := hrows key bytes hmem.1 hmem.2
  obtain ⟨r', hr', rfl⟩ := hrows key' bytes' hmem'.1 hmem'.2
  obtain rfl := Except.ok.inj (hr.symm.trans hrec)
  obtain rfl := Except.ok.inj (hr'.symm.trans hrec')
  exact hne (by rw [hid])

theorem decode_eq_ok {bytes : Bytes} {rec : WorkItemRecord} :
    decode bytes = .ok rec ↔ WorkItem.codec.fromBytes bytes = some rec := by
  unfold decode
  split
  · next r hr => rw [hr, Except.ok.injEq, Option.some.injEq]
  · next hr => simp [hr]

theorem mem_itemsWhere (hrows : Decodable runId rows) {p : WorkState → Bool} {id : ContentId} :
    id ∈ itemsWhere runId rows p ↔ ∃ st, rowState runId rows id = some st ∧ p st = true := by
  unfold itemsWhere
  simp only [List.mem_toFinset, List.mem_map, List.mem_filter, mem_records hrows]
  constructor
  · rintro ⟨rec, ⟨⟨bytes, hget, hdec⟩, hp⟩, rfl⟩
    refine ⟨rec.state, ?_, hp⟩
    rw [rowState, hget, Option.bind_some, decode_eq_ok.mp hdec]
    rfl
  · rintro ⟨st, hst, hp⟩
    obtain ⟨bytes, hget, hst⟩ := Option.bind_eq_some_iff.mp hst
    obtain ⟨rec, hdec, rfl⟩ := Option.map_eq_some_iff.mp hst
    obtain ⟨rec', hdec', hkey⟩ := hrows _ _ hget (inLedger_workKey runId id)
    obtain rfl := Option.some.inj ((decode_eq_ok.mp hdec').symm.trans hdec)
    obtain rfl := workKey_inj.mp hkey
    exact ⟨rec', ⟨⟨bytes, hget, hdec'⟩, hp⟩, rfl⟩

theorem mem_runningItems (hrows : Decodable runId rows) {w : WorkerId} {id : ContentId} :
    id ∈ runningItems runId rows w ↔ ∃ t, rowState runId rows id = some (.running w t) := by
  unfold runningItems
  rw [mem_itemsWhere hrows]
  simp only [decide_eq_true_eq, WorkState.owner_eq_some]
  constructor
  · rintro ⟨st, hst, t, rfl⟩
    exact ⟨t, hst⟩
  · rintro ⟨t, hst⟩
    exact ⟨_, hst, t, rfl⟩

/-- How many items there are in a kind of state. Source: `rollout-coordinator/src/ledger.rs`
`backlog`. Kind: L -/
theorem card_itemsWhere (hrows : Decodable runId rows) (p : WorkState → Bool) :
    (itemsWhere runId rows p).card = (records runId rows).countP fun rec => p rec.state := by
  have hnodup : (((records runId rows).filter fun rec => p rec.state).map WorkItemRecord.id).Nodup :=
    (List.filter_sublist.map WorkItemRecord.id).nodup (nodup_records hrows)
  unfold itemsWhere
  rw [List.toFinset_card_of_nodup hnodup, List.length_map, List.countP_eq_length_filter]

/-- The scan of a decodable ledger. Source: `rollout-coordinator/src/ledger.rs` `backlog`.
Kind: L -/
theorem ledgerOf_eq (hrows : Decodable runId rows) :
    ledgerOf runId rows = .ok (records runId rows) := by
  have hall : ∀ entries : List (StorageKey × Bytes), (∀ e ∈ entries, ∃ rec, decode e.2 = .ok rec) →
      entries.mapM (fun e => decode e.2) =
        .ok (entries.filterMap fun e => (decode e.2).toOption) := by
    intro entries
    induction entries with
    | nil => exact fun _ => rfl
    | cons e entries ih =>
        intro h
        obtain ⟨rec, hrec⟩ := h e List.mem_cons_self
        have hrest := ih fun e he => h e (List.mem_cons_of_mem _ he)
        rw [List.mapM_cons, hrec, hrest, List.filterMap_cons, hrec]
        rfl
  apply hall
  rintro ⟨key, bytes⟩ hmem
  rw [KV.mem_scan] at hmem
  obtain ⟨rec, hrec, -⟩ := hrows key bytes hmem.1 hmem.2
  exact ⟨rec, hrec⟩

/-! ## The victim -/

/-- The busiest worker but the thief, by backlog and then by id.
Source: `rollout-coordinator/src/ledger.rs` `busiest` (documentation). Kind: D -/
structure IsVictim (runId : RunId) (thief : WorkerId) (rows : Rows) (victim : WorkerId) : Prop where
  /-- It is another worker. -/
  other : victim ≠ thief
  /-- It runs something. -/
  runs : 0 < backlogOf runId rows victim
  /-- No other worker comes after it. -/
  most : ∀ w, w ≠ thief → BacklogLe (w, backlogOf runId rows w) (victim, backlogOf runId rows victim)
  /-- It is found in whatever order the counts come. -/
  anyOrder : ∀ order : List (WorkerId × Nat),
    order.Perm (tally (ownersBut (records runId rows) thief)) →
    order.foldl busier none = some (victim, backlogOf runId rows victim)

theorem backlogOf_eq (hrows : Decodable runId rows) (w : WorkerId) :
    backlogOf runId rows w = (records runId rows).countP fun rec => rec.state.owner = some w :=
  card_itemsWhere hrows _

theorem count_ownersBut (recs : List WorkItemRecord) {w : WorkerId} (hw : w ≠ thief) :
    (ownersBut recs thief).count w = recs.countP fun rec => rec.state.owner = some w := by
  unfold ownersBut
  rw [List.count_filter (by simpa using hw), List.count, List.countP_filterMap]
  refine List.countP_congr fun rec _ => ?_
  cases rec.state.owner <;> simp

theorem mem_ownersBut {recs : List WorkItemRecord} {w : WorkerId} (h : w ∈ ownersBut recs thief) :
    w ≠ thief := by
  simpa using (List.mem_filter.mp h).2

/-- **What `busiest` finds is the victim.** Source: `rollout-coordinator/src/ledger.rs` `busiest`.
Kind: P -/
theorem isVictim_of_busiestOf (hrows : Decodable runId rows) {b : Nat}
    (h : busiestOf (records runId rows) thief = some (victim, b)) :
    IsVictim runId thief rows victim ∧ b = backlogOf runId rows victim := by
  rw [busiestOf_eq] at h
  obtain ⟨hmem, hmost⟩ := foldl_busier_eq_some.mp h
  obtain ⟨-, htally⟩ := tally_spec (ownersBut (records runId rows) thief)
  obtain ⟨hb, howner⟩ := (htally _).mp hmem
  simp only at hb howner
  have hother := mem_ownersBut howner
  have hcount : ∀ w, w ≠ thief →
      (ownersBut (records runId rows) thief).count w = backlogOf runId rows w := by
    intro w hw
    rw [count_ownersBut _ hw, backlogOf_eq hrows]
  have hbacklog := hb.trans (hcount victim hother)
  have hruns : 0 < backlogOf runId rows victim := by
    rw [← hbacklog, hb]
    exact List.count_pos_iff.mpr howner
  refine ⟨⟨hother, hruns, ?_, ?_⟩, hbacklog⟩
  · intro w hw
    rw [← hbacklog]
    by_cases hin : w ∈ ownersBut (records runId rows) thief
    · rw [← hcount w hw]
      exact hmost _ ((htally _).mpr ⟨rfl, hin⟩)
    · left
      rw [← hcount w hw, List.count_eq_zero_of_not_mem hin, hbacklog]
      exact hruns
  · intro order hperm
    rw [foldl_busier_perm hperm, h, hbacklog]

theorem runningItems_eq_empty_of_busiestOf (hrows : Decodable runId rows)
    (h : busiestOf (records runId rows) thief = none) {w : WorkerId} (hw : w ≠ thief) :
    runningItems runId rows w = ∅ := by
  rw [busiestOf_eq, foldl_busier_eq_none] at h
  obtain ⟨-, htally⟩ := tally_spec (ownersBut (records runId rows) thief)
  have hnot : w ∉ ownersBut (records runId rows) thief := by
    intro hin
    have hmem := (htally (w, (ownersBut (records runId rows) thief).count w)).mpr ⟨rfl, hin⟩
    rw [h] at hmem
    exact absurd hmem List.not_mem_nil
  rw [← Finset.card_eq_zero]
  show backlogOf runId rows w = 0
  rw [backlogOf_eq hrows, ← count_ownersBut _ hw, List.count_eq_zero_of_not_mem hnot]

/-! ## The loop -/

section loop

variable {items : List WorkItemRecord}

/-- The loop on the rows: what it returns and what it leaves.
Source: `rollout-coordinator/src/steal.rs` `handle_steal_request` (step 4). Kind: D -/
def stealLoop (runId : RunId) (thief : WorkerId) (nowMs : BitVec 128) :
    List WorkItemRecord → Rows → List ContentId → List ContentId × Rows
  | [], rows, stolen => (stolen, rows)
  | rec :: rest, rows, stolen =>
      if hasRow runId rows rec then
        stealLoop runId thief nowMs rest (moveTo runId thief nowMs rows rec) (stolen ++ [rec.id])
      else stealLoop runId thief nowMs rest rows stolen

theorem failing_stealItems_none (hitems : OthersItems thief items) (e : CoreError) (rows : Rows)
    (stolen : List ContentId) :
    Session.failing () e (stealItems (reassign runId thief now) items stolen) (.idle rows) none =
      some (.ok (stealLoop runId thief now items rows stolen).1,
        .idle (stealLoop runId thief now items rows stolen).2, none) := by
  induction items generalizing rows stolen with
  | nil => exact Session.failing_ret () e stolen _ none
  | cons rec items ih =>
      obtain ⟨w, howner, -⟩ := hitems rec List.mem_cons_self
      have hrest : OthersItems thief items := fun r hr => hitems r (List.mem_cons_of_mem _ hr)
      rw [failing_stealItems_cons (isRunning_of_owner howner)]
      simp only [Option.any_none, Bool.false_eq_true, if_false, Option.map_none, ih hrest,
        stealLoop]
      split <;> rfl

theorem hasRow_moveTo {rec rec' : WorkItemRecord} (hne : rec'.id ≠ rec.id) :
    hasRow runId (moveTo runId thief now rows rec) rec' = hasRow runId rows rec' := by
  unfold hasRow moveTo
  rw [KV.get_put_of_ne]
  exact fun hkey => hne (workKey_inj.mp hkey)

/-- Items of distinct ids do not disturb each other.
Source: `rollout-coordinator/src/steal.rs` `handle_steal_request` (step 4). Kind: L -/
theorem stealLoop_eq (hnodup : (items.map WorkItemRecord.id).Nodup) (rows : Rows)
    (stolen : List ContentId) :
    stealLoop runId thief now items rows stolen =
      (stolen ++ (items.filter (hasRow runId rows)).map WorkItemRecord.id,
        (items.filter (hasRow runId rows)).foldl (moveTo runId thief now) rows) := by
  induction items generalizing rows stolen with
  | nil => rw [stealLoop, List.filter_nil, List.map_nil, List.append_nil, List.foldl_nil]
  | cons rec items ih =>
      rw [List.map_cons, List.nodup_cons] at hnodup
      rw [stealLoop, List.filter_cons]
      by_cases hhas : hasRow runId rows rec = true
      · rw [if_pos hhas, if_pos hhas, ih hnodup.2]
        have hsame : items.filter (hasRow runId (moveTo runId thief now rows rec)) =
            items.filter (hasRow runId rows) := by
          refine List.filter_congr fun rec' hrec' => hasRow_moveTo ?_
          exact fun hid => hnodup.1 (List.mem_map.mpr ⟨rec', hrec', hid⟩)
        rw [hsame, List.map_cons, List.foldl_cons, List.append_assoc, List.singleton_append]
      · rw [if_neg hhas, if_neg hhas, ih hnodup.2]

/-- The rows after some items have moved. Source: `rollout-coordinator/src/work_item.rs`
`try_claim`. Kind: L -/
theorem get_foldl_moveTo (runId : RunId) (rows : Rows) (key : StorageKey) :
    (∃ rec ∈ items, key = workKey runId rec.id ∧
        (items.foldl (moveTo runId thief now) rows).get key =
          some (encodeRecord ⟨rec.id, .running thief now⟩)) ∨
      (∀ rec ∈ items, key ≠ workKey runId rec.id) ∧
        (items.foldl (moveTo runId thief now) rows).get key = rows.get key := by
  induction items generalizing rows with
  | nil => exact .inr ⟨fun _ h => absurd h List.not_mem_nil, rfl⟩
  | cons rec items ih =>
      rw [List.foldl_cons]
      rcases ih (moveTo runId thief now rows rec) with ⟨rec', hrec', hkey, hget⟩ | ⟨hnone, hget⟩
      · exact .inl ⟨rec', List.mem_cons_of_mem _ hrec', hkey, hget⟩
      · by_cases hkey : key = workKey runId rec.id
        · refine .inl ⟨rec, List.mem_cons_self, hkey, ?_⟩
          rw [hget, hkey]
          exact KV.get_put_self ..
        · refine .inr ⟨?_, ?_⟩
          · intro rec' hrec'
            rcases List.mem_cons.mp hrec' with rfl | hrec'
            · exact hkey
            · exact hnone rec' hrec'
          · rw [hget]
            exact KV.get_put_of_ne _ _ _ _ hkey

end loop

/-! ## The choice -/

/-- The row of an item is the encoding of its record, as the ledger writes it.
Source: `rollout-coordinator/src/work_item.rs` `encode_record`. Kind: D -/
def Canonical (runId : RunId) (rows : Rows) (id : ContentId) : Prop :=
  ∃ rec, rows.get (workKey runId id) = some (encodeRecord rec)

theorem hasRow_iff (hrows : Decodable runId rows) {rec : WorkItemRecord}
    (hrec : rec ∈ records runId rows) :
    hasRow runId rows rec = true ↔ Canonical runId rows rec.id := by
  constructor
  · intro h
    exact ⟨rec, of_decide_eq_true h⟩
  · rintro ⟨rec', hget⟩
    obtain ⟨bytes, hget', hdec⟩ := (mem_records hrows).mp hrec
    obtain rfl := Option.some.inj (hget.symm.trans hget')
    obtain rfl := Except.ok.inj ((decode_encodeRecord rec').symm.trans hdec)
    exact decide_eq_true hget

/-- The items of the victim that a request goes for.
Source: `rollout-coordinator/src/steal.rs` `handle_steal_request` (step 4). Kind: D -/
def half (runId : RunId) (rows : Rows) (victim : WorkerId) : List WorkItemRecord :=
  (victimItems (rows.scan (inLedger runId)) victim).take (stealCount (backlogOf runId rows victim))

theorem victimItems_perm (runId : RunId) (rows : Rows) (victim : WorkerId) :
    (victimItems (rows.scan (inLedger runId)) victim).Perm
      ((records runId rows).filter fun rec => rec.state.owner = some victim) :=
  List.perm_insertionSort ..

theorem mem_runningItems_iff {w : WorkerId} {id : ContentId} :
    id ∈ runningItems runId rows w ↔
      ∃ rec ∈ victimItems (rows.scan (inLedger runId)) w, rec.id = id := by
  unfold runningItems itemsWhere
  simp only [List.mem_toFinset, List.mem_map, (victimItems_perm runId rows w).mem_iff]

theorem nodup_victimItems (hrows : Decodable runId rows) (victim : WorkerId) :
    ((victimItems (rows.scan (inLedger runId)) victim).map WorkItemRecord.id).Nodup := by
  rw [((victimItems_perm runId rows victim).map WorkItemRecord.id).nodup_iff]
  exact (List.filter_sublist.map WorkItemRecord.id).nodup (nodup_records hrows)

instance : Std.Total idLe := ⟨fun a b => List.le_total a.id.raw.1 b.id.raw.1⟩

instance : IsTrans WorkItemRecord idLe := ⟨fun _ _ _ hab hbc => List.le_trans hab hbc⟩

/-- The items of the victim come in the order of their ids.
Source: `rollout-coordinator/src/steal.rs` (`sort_by`). Kind: L -/
theorem sorted_victimItems (hrows : Decodable runId rows) (victim : WorkerId) :
    (victimItems (rows.scan (inLedger runId)) victim).Pairwise fun a b => a.id.raw.1 < b.id.raw.1 := by
  have hle : (victimItems (rows.scan (inLedger runId)) victim).Pairwise idLe :=
    List.pairwise_insertionSort idLe _
  have hne := List.pairwise_map.mp (nodup_victimItems hrows victim)
  refine (hle.and hne).imp ?_
  rintro a b ⟨hle, hne⟩
  refine Std.lt_of_le_of_ne hle fun heq => hne ?_
  exact congrArg ContentId.mk (Subtype.ext heq)

theorem length_half (hrows : Decodable runId rows) (victim : WorkerId) :
    (half runId rows victim).length = min ((backlogOf runId rows victim + 1) / 2) maxStealBatch := by
  have hlength : (victimItems (rows.scan (inLedger runId)) victim).length =
      backlogOf runId rows victim := by
    rw [(victimItems_perm runId rows victim).length_eq, backlogOf_eq hrows,
      List.countP_eq_length_filter]
  unfold half
  rw [List.length_take, hlength]
  unfold stealCount
  omega

/-! ## What is moved -/

/-- What a request leaves when there is somebody to steal from: `chosen` is the smaller half of the
victim's items, and `stolen` those of them that it moves and returns.
Source: `rollout-coordinator/src/steal.rs` (documentation, steps 2 to 4). Kind: D -/
structure HalfMoved (runId : RunId) (thief victim : WorkerId) (now : BitVec 128) (rows : Rows)
    (chosen : Finset ContentId) (stolen : List ContentId) (rows' : Rows) : Prop where
  /-- The victim runs the chosen items. -/
  subset : chosen ⊆ runningItems runId rows victim
  /-- They are half of its items, rounded up and capped. -/
  card : chosen.card = min ((backlogOf runId rows victim + 1) / 2) maxStealBatch
  /-- They are the ones with the smallest ids. -/
  least : ∀ a ∈ chosen, ∀ b ∈ runningItems runId rows victim, b ∉ chosen → a.raw.1 < b.raw.1
  /-- The ids are returned in order, each once. -/
  sorted : stolen.Pairwise fun a b => a.raw.1 < b.raw.1
  /-- Those chosen items move whose row is the encoding of its record. -/
  mem_stolen : ∀ id, id ∈ stolen ↔ id ∈ chosen ∧ Canonical runId rows id
  /-- They are the thief's now. -/
  moved : ∀ id ∈ stolen,
    rows'.get (workKey runId id) = some (encodeRecord ⟨id, .running thief now⟩)
  /-- No other row changes. -/
  kept : ∀ key, (∀ id ∈ stolen, key ≠ workKey runId id) → rows'.get key = rows.get key
  /-- The victim keeps the rest. -/
  victim_keeps : runningItems runId rows' victim = runningItems runId rows victim \ stolen.toFinset
  /-- The thief runs what was moved. -/
  thief_gets : runningItems runId rows' thief = stolen.toFinset
  /-- The others run what they ran. -/
  others : ∀ w, w ≠ victim → w ≠ thief → runningItems runId rows' w = runningItems runId rows w
  /-- As many items run as before. -/
  total : (allRunning runId rows').card = (allRunning runId rows).card
  /-- No backlog is larger than the largest was. -/
  largest : ∀ w, backlogOf runId rows' w ≤ backlogOf runId rows victim

section moved

variable {chosen : Finset ContentId} {stolen : List ContentId} {rows' : Rows}

/-- The rows with some items in the hands of the thief.
Source: `rollout-coordinator/src/steal.rs` `handle_steal_request` (step 4). Kind: D -/
structure Handed (runId : RunId) (thief : WorkerId) (now : BitVec 128) (rows : Rows)
    (stolen : List ContentId) (rows' : Rows) : Prop where
  /-- They are the thief's now. -/
  moved : ∀ id ∈ stolen,
    rows'.get (workKey runId id) = some (encodeRecord ⟨id, .running thief now⟩)
  /-- No other row changes. -/
  kept : ∀ key, (∀ id ∈ stolen, key ≠ workKey runId id) → rows'.get key = rows.get key

theorem handed_foldl (rows : Rows) (items : List WorkItemRecord) :
    Handed runId thief now rows (items.map WorkItemRecord.id)
      (items.foldl (moveTo runId thief now) rows) := by
  constructor
  · intro id hid
    obtain ⟨rec, hrec, rfl⟩ := List.mem_map.mp hid
    rcases get_foldl_moveTo runId rows (workKey runId rec.id) with
      ⟨rec', -, hkey, hget⟩ | ⟨hnone, -⟩
    · rw [hget, workKey_inj.mp hkey]
    · exact absurd rfl (hnone rec hrec)
  · intro key hkey
    rcases get_foldl_moveTo runId rows key with ⟨rec, hrec, rfl, -⟩ | ⟨-, hget⟩
    · exact absurd rfl (hkey rec.id (List.mem_map.mpr ⟨rec, hrec, rfl⟩))
    · exact hget

namespace Handed

variable (h : Handed runId thief now rows stolen rows')
include h

theorem decodable (hrows : Decodable runId rows) : Decodable runId rows' := by
  intro key bytes hget hin
  by_cases hkey : ∃ id ∈ stolen, key = workKey runId id
  · obtain ⟨id, hid, rfl⟩ := hkey
    obtain rfl := Option.some.inj ((h.moved id hid).symm.trans hget)
    exact ⟨_, decode_encodeRecord _, rfl⟩
  · rw [h.kept key fun id hid heq => hkey ⟨id, hid, heq⟩] at hget
    exact hrows key bytes hget hin

theorem rowState_stolen {id : ContentId} (hid : id ∈ stolen) :
    rowState runId rows' id = some (.running thief now) :=
  rowState_of_row (h.moved id hid)

theorem rowState_kept {id : ContentId} (hid : id ∉ stolen) :
    rowState runId rows' id = rowState runId rows id := by
  apply rowState_congr
  apply h.kept
  rintro id' hid' hkey
  obtain rfl := workKey_inj.mp hkey
  exact hid hid'

/-- Items in a kind of state that a steal does not touch stay in it.
Source: `rollout-coordinator/src/steal.rs` `handle_steal_request` (step 4). Kind: L -/
theorem mem_itemsWhere_iff (hrows : Decodable runId rows) {p : WorkState → Bool} {id : ContentId} :
    id ∈ itemsWhere runId rows' p ↔
      id ∈ stolen ∧ p (.running thief now) = true ∨ id ∉ stolen ∧ id ∈ itemsWhere runId rows p := by
  rw [mem_itemsWhere (h.decodable hrows), mem_itemsWhere hrows]
  by_cases hid : id ∈ stolen
  · simp [hid, h.rowState_stolen hid]
  · simp [hid, h.rowState_kept hid]

end Handed

/-- **Handing the chosen items over is a half moved.**
Source: `rollout-coordinator/src/steal.rs` `handle_steal_request`. Kind: L -/
theorem Handed.halfMoved (h : Handed runId thief now rows stolen rows')
    (hrows : Decodable runId rows)
    (hidle : runningItems runId rows thief = ∅) (hvictim : IsVictim runId thief rows victim)
    (hsubset : chosen ⊆ runningItems runId rows victim)
    (hcard : chosen.card = min ((backlogOf runId rows victim + 1) / 2) maxStealBatch)
    (hleast : ∀ a ∈ chosen, ∀ b ∈ runningItems runId rows victim, b ∉ chosen → a.raw.1 < b.raw.1)
    (hsorted : stolen.Pairwise fun a b => a.raw.1 < b.raw.1)
    (hmem : ∀ id, id ∈ stolen ↔ id ∈ chosen ∧ Canonical runId rows id) :
    HalfMoved runId thief victim now rows chosen stolen rows' := by
  have hstolen : ∀ id ∈ stolen, id ∈ runningItems runId rows victim :=
    fun id hid => hsubset ((hmem id).mp hid).1
  have hothers : ∀ w, w ≠ victim → w ≠ thief →
      runningItems runId rows' w = runningItems runId rows w := by
    intro w hw hthief
    ext id
    rw [runningItems, h.mem_itemsWhere_iff hrows, ← runningItems]
    simp only [WorkState.owner, Option.some.injEq, decide_eq_true_eq, Ne.symm hthief, and_false,
      false_or, and_iff_right_iff_imp]
    intro hin hid
    obtain ⟨t, ht⟩ := (mem_runningItems hrows).mp (hstolen id hid)
    obtain ⟨t', ht'⟩ := (mem_runningItems hrows).mp hin
    rw [ht] at ht'
    exact hw (WorkState.running.inj (Option.some.inj ht')).1.symm
  have hthief : runningItems runId rows' thief = stolen.toFinset := by
    ext id
    rw [runningItems, h.mem_itemsWhere_iff hrows, ← runningItems, hidle, List.mem_toFinset]
    simp [WorkState.owner]
  have hkeeps : runningItems runId rows' victim =
      runningItems runId rows victim \ stolen.toFinset := by
    ext id
    rw [runningItems, h.mem_itemsWhere_iff hrows, ← runningItems, Finset.mem_sdiff,
      List.mem_toFinset]
    simp [WorkState.owner, Ne.symm hvictim.other, and_comm]
  refine ⟨hsubset, hcard, hleast, hsorted, hmem, h.moved, h.kept, hkeeps, hthief, hothers, ?_, ?_⟩
  · congr 1
    ext id
    rw [allRunning, h.mem_itemsWhere_iff hrows, ← allRunning]
    simp only [WorkState.isRunning, and_true]
    refine ⟨?_, fun hin => (em (id ∈ stolen)).imp (fun hid => hid) fun hid => ⟨hid, hin⟩⟩
    rintro (hid | ⟨-, hin⟩)
    · obtain ⟨t, ht⟩ := (mem_runningItems hrows).mp (hstolen id hid)
      exact (mem_itemsWhere hrows).mpr ⟨_, ht, rfl⟩
    · exact hin
  · intro w
    unfold backlogOf
    by_cases hw : w = victim
    · subst hw
      rw [hkeeps]
      exact Finset.card_le_card Finset.sdiff_subset
    · by_cases hwt : w = thief
      · subst hwt
        rw [hthief]
        exact Finset.card_le_card fun id hid => hstolen id (List.mem_toFinset.mp hid)
      · rw [hothers w hw hwt]
        rcases hvictim.most w hwt with hlt | ⟨heq, -⟩
        · exact hlt.le
        · exact heq.le

end moved

/-! ## The request -/

theorem chosen_eq (hrows : Decodable runId rows) : chosen runId thief rows =
    if 0 < backlogOf runId rows thief then []
    else match busiestOf (records runId rows) thief with
      | none => []
      | some (victim, b) =>
          (victimItems (rows.scan (inLedger runId)) victim).take (stealCount b) := by
  unfold chosen
  rw [ledgerOf_eq hrows, backlogOf_eq hrows] <;> rfl

/-- A request without interference and without failures is the loop over the chosen items.
Source: `rollout-coordinator/src/steal.rs` `handle_steal_request`. Kind: L -/
theorem alone_stealRequest (hrows : Decodable runId rows) :
    Session.alone () (stealRequest runId thief now) (.idle rows) =
      some (.ok (stealLoop runId thief now (chosen runId thief rows) rows []).1,
        .idle (stealLoop runId thief now (chosen runId thief rows) rows []).2) := by
  apply Session.alone_of_failing (e := .internal "")
  · show _ = some (_, _, none)
    unfold stealRequest handleStealRequest
    rw [Session.failing_bind, failing_backlog, Option.bind_some, if_neg (by simp),
      ledgerOf_eq hrows]
    simp only [Except.map, ← backlogOf_eq hrows]
    rw [chosen_eq hrows]
    by_cases hbusy : 0 < backlogOf runId rows thief
    · rw [if_pos hbusy, if_pos hbusy]
      exact Session.failing_ret ..
    · rw [if_neg hbusy, if_neg hbusy]
      rw [Session.failing_bind, failing_busiest, Option.bind_some, if_neg (by simp),
        ledgerOf_eq hrows]
      simp only [Except.map]
      cases hbusiest : busiestOf (records runId rows) thief with
      | none => exact Session.failing_ret ..
      | some best =>
          obtain ⟨victim, b⟩ := best
          simp only
          by_cases hcount : stealCount b = 0
          · rw [if_pos hcount, hcount, List.take_zero]
            exact Session.failing_ret ..
          · rw [if_neg hcount, scanBytes_session, Session.failing_bind, Session.failing_scan,
              Option.bind_some, if_neg (by simp)]
            apply failing_stealItems_none
            intro rec hrec
            exact ⟨victim, owner_of_mem_victimItems (List.mem_of_mem_take hrec),
              ne_of_busiestOf hbusiest⟩

/-- The items of the smaller half. Source: `rollout-coordinator/src/steal.rs`
`handle_steal_request` (step 4). Kind: D -/
def halfItems (runId : RunId) (rows : Rows) (victim : WorkerId) : Finset ContentId :=
  ((half runId rows victim).map WorkItemRecord.id).toFinset

/-- **The loop over the smaller half moves it.**
Source: `rollout-coordinator/src/steal.rs` `handle_steal_request` (step 4). Kind: L -/
theorem halfMoved_stealLoop (hrows : Decodable runId rows)
    (hidle : runningItems runId rows thief = ∅) (hvictim : IsVictim runId thief rows victim) :
    HalfMoved runId thief victim now rows (halfItems runId rows victim)
      (stealLoop runId thief now (half runId rows victim) rows []).1
      (stealLoop runId thief now (half runId rows victim) rows []).2 := by
  have hsub : (half runId rows victim).Sublist (victimItems (rows.scan (inLedger runId)) victim) :=
    List.take_sublist _ _
  have hnodup := (hsub.map WorkItemRecord.id).nodup (nodup_victimItems hrows victim)
  have hrecords : ∀ rec ∈ half runId rows victim, rec ∈ records runId rows := by
    intro rec hrec
    have hmem := (victimItems_perm runId rows victim).mem_iff.mp (hsub.subset hrec)
    exact (List.mem_filter.mp hmem).1
  have hmem : ∀ {id}, id ∈ halfItems runId rows victim ↔ ∃ rec ∈ half runId rows victim, rec.id = id := by
    intro id
    rw [halfItems, List.mem_toFinset, List.mem_map]
  rw [stealLoop_eq hnodup, List.nil_append]
  refine (handed_foldl rows _).halfMoved hrows hidle hvictim ?_ ?_ ?_ ?_ ?_
  · intro id hid
    obtain ⟨rec, hrec, rfl⟩ := hmem.mp hid
    exact mem_runningItems_iff.mpr ⟨rec, hsub.subset hrec, rfl⟩
  · rw [halfItems, List.toFinset_card_of_nodup hnodup, List.length_map, length_half hrows]
  · intro a ha b hb hnot
    obtain ⟨rec, hrec, rfl⟩ := hmem.mp ha
    obtain ⟨rec', hrec', rfl⟩ := mem_runningItems_iff.mp hb
    have hsorted := sorted_victimItems hrows victim
    rw [← List.take_append_drop (stealCount (backlogOf runId rows victim))
      (victimItems (rows.scan (inLedger runId)) victim)] at hsorted hrec'
    rcases List.mem_append.mp hrec' with hin | hdrop
    · exact absurd (hmem.mpr ⟨rec', hin, rfl⟩) hnot
    · exact (List.pairwise_append.mp hsorted).2.2 rec hrec rec' hdrop
  · rw [List.pairwise_map]
    exact (sorted_victimItems hrows victim).sublist (List.filter_sublist.trans hsub)
  · intro id
    rw [hmem, List.mem_map]
    constructor
    · rintro ⟨rec, hrec, rfl⟩
      obtain ⟨hin, hhas⟩ := List.mem_filter.mp hrec
      exact ⟨⟨rec, hin, rfl⟩, (hasRow_iff hrows (hrecords rec hin)).mp hhas⟩
    · rintro ⟨⟨rec, hrec, rfl⟩, hcanon⟩
      exact ⟨rec, List.mem_filter.mpr ⟨hrec, (hasRow_iff hrows (hrecords rec hrec)).mpr hcanon⟩,
        rfl⟩

/-- **What a steal request does.** On a ledger whose rows decode and stand under their own keys, a
request that nothing interferes with always ends well. When the thief runs nothing and somebody
else does, the victim is the busiest other worker whatever the order of the counts, and half of its
items move as `HalfMoved` says; otherwise nothing does.
Source: `rollout-coordinator/src/steal.rs` `handle_steal_request`. Kind: P -/
theorem handleStealRequest_moves_half (hrows : Decodable runId rows) :
    ∃ stolen rows', Session.alone () (stealRequest runId thief now) (.idle rows) =
        some (.ok stolen, .idle rows') ∧
      (runningItems runId rows thief = ∅ → (∃ w, w ≠ thief ∧ runningItems runId rows w ≠ ∅) →
        ∃ victim chosen, IsVictim runId thief rows victim ∧
          HalfMoved runId thief victim now rows chosen stolen rows') ∧
      (runningItems runId rows thief ≠ ∅ ∨ (∀ w, w ≠ thief → runningItems runId rows w = ∅) →
        stolen = [] ∧ rows' = rows) := by
  refine ⟨_, _, alone_stealRequest hrows, ?_, ?_⟩
  · rintro hidle ⟨w, hw, hne⟩
    rw [chosen_eq hrows, if_neg (by rw [backlogOf, hidle]; simp)]
    cases hbusiest : busiestOf (records runId rows) thief with
    | none => exact absurd (runningItems_eq_empty_of_busiestOf hrows hbusiest hw) hne
    | some best =>
        obtain ⟨victim, b⟩ := best
        obtain ⟨hvictim, rfl⟩ := isVictim_of_busiestOf hrows hbusiest
        exact ⟨victim, _, hvictim, halfMoved_stealLoop hrows hidle hvictim⟩
  · rintro (hbusy | hnone)
    · have hpos : 0 < backlogOf runId rows thief :=
        Finset.card_pos.mpr (Finset.nonempty_iff_ne_empty.mpr hbusy)
      rw [chosen_eq hrows, if_pos hpos]
      exact ⟨rfl, rfl⟩
    · rw [chosen_eq hrows]
      split
      · exact ⟨rfl, rfl⟩
      · cases hbusiest : busiestOf (records runId rows) thief with
        | none => exact ⟨rfl, rfl⟩
        | some best =>
            obtain ⟨victim, b⟩ := best
            obtain ⟨hvictim, rfl⟩ := isVictim_of_busiestOf hrows hbusiest
            have hempty := hnone victim hvictim.other
            exact absurd hvictim.runs (by rw [backlogOf, hempty]; simp)

/-! ## Concrete ledgers -/

theorem decodable_empty (runId : RunId) : Decodable runId ∅ := by
  intro key bytes hget
  rw [KV.get_empty] at hget
  cases hget

theorem Decodable.put (hrows : Decodable runId rows) (rec : WorkItemRecord) {bytes : Bytes}
    (hdec : decode bytes = .ok rec) : Decodable runId (rows.put (workKey runId rec.id) bytes) := by
  intro key b hget hin
  rw [KV.get_put] at hget
  split at hget
  · next hkey =>
    obtain rfl := Option.some.inj hget
    exact ⟨rec, hdec, hkey⟩
  · exact hrows key b hget hin

/-- `handleStealRequest_moves_half` with three items on one worker.
Source: `rollout-coordinator/src/steal.rs` `steal_reassigns_via_cas`. Kind: C -/
theorem handleStealRequest_moves_half_threeRunning :
    ∃ stolen rows' victim chosen,
      Session.alone () (stealRequest ⟨⟨7⟩⟩ ⟨⟨2⟩⟩ 200) (.idle threeRunning) =
          some (.ok stolen, .idle rows') ∧
        IsVictim ⟨⟨7⟩⟩ ⟨⟨2⟩⟩ threeRunning victim ∧
        HalfMoved ⟨⟨7⟩⟩ ⟨⟨2⟩⟩ victim 200 threeRunning chosen stolen rows' := by
  have hrows : Decodable ⟨⟨7⟩⟩ threeRunning := by
    unfold threeRunning
    simp only [List.foldl_cons, List.foldl_nil]
    exact (((decodable_empty _).put ⟨itemId 1, _⟩ (decode_encodeRecord _)).put ⟨itemId 2, _⟩
      (decode_encodeRecord _)).put ⟨itemId 3, _⟩ (decode_encodeRecord _)
  obtain ⟨stolen, rows', hres, hmoves, -⟩ := @handleStealRequest_moves_half _ ⟨⟨2⟩⟩ 200 _ hrows
  obtain ⟨victim, chosen, hvictim, hhalf⟩ :=
    hmoves (by decide +kernel) ⟨⟨⟨1⟩⟩, by decide, by decide +kernel⟩
  exact ⟨stolen, rows', victim, chosen, hres, hvictim, hhalf⟩

/-- Worker 1 runs one item, whose row is followed by a byte that decoding ignores.
Source: `rollout-coordinator/src/work_item.rs` (`postcard::from_bytes`). Kind: D -/
def paddedRow : Rows :=
  (∅ : Rows).put (workKey ⟨⟨7⟩⟩ (itemId 1))
    (encodeRecord ⟨itemId 1, .running ⟨⟨1⟩⟩ 100⟩ ++ [0])

/-- The item of a padded row is counted and chosen, but its swap compares the bytes and it stays.
Source: `rollout-coordinator/src/work_item.rs` `try_repending`. Kind: C -/
theorem padded_row_stays :
    ¬ ∀ (runId : RunId) (thief : WorkerId) (now : BitVec 128) (rows : Rows), Decodable runId rows →
      runningItems runId rows thief = ∅ → (∃ w, w ≠ thief ∧ runningItems runId rows w ≠ ∅) →
      ∃ stolen rows' victim, Session.alone () (stealRequest runId thief now) (.idle rows) =
          some (.ok stolen, .idle rows') ∧ IsVictim runId thief rows victim ∧
        stolen.length = min ((backlogOf runId rows victim + 1) / 2) maxStealBatch := by
  intro h
  have hdec : decode (encodeRecord ⟨itemId 1, .running ⟨⟨1⟩⟩ 100⟩ ++ [0]) =
      .ok ⟨itemId 1, .running ⟨⟨1⟩⟩ 100⟩ := by
    rw [decode_eq_ok, Codec.fromBytes, encodeRecord, Codec.dec_enc]
    rfl
  obtain ⟨stolen, rows', victim, hres, hvictim, hlength⟩ :=
    h ⟨⟨7⟩⟩ ⟨⟨2⟩⟩ 200 paddedRow ((decodable_empty _).put ⟨itemId 1, _⟩ hdec) (by decide +kernel)
      ⟨⟨⟨1⟩⟩, by decide, by decide +kernel⟩
  have hplay : (Session.alone () (stealRequest ⟨⟨7⟩⟩ ⟨⟨2⟩⟩ 200) (.idle paddedRow)).map
      (fun x => x.1.toOption) = some (some []) := by
    decide +kernel
  rw [hres] at hplay
  have hnone : stolen = [] := Option.some.inj (Option.some.inj hplay)
  have hruns := hvictim.runs
  rw [hnone, List.length_nil] at hlength
  unfold maxStealBatch at hlength
  omega

end Rollout.Coordinator.Steal
