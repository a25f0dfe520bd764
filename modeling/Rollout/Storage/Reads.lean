import Rollout.Storage.Embedded

/-!
# Keys and reads of the embedded storage

* `encodeKey_code` — encoded keys are a prefix code for the run and the path.
* `EmbeddedStorage.getManyBytes_iff` — reads of several keys are the single reads exactly when no
  key is one of `eval_reports`, the namespace the grouping does not name.
* `EmbeddedStorage.scanBytes_limit_order_iff` — a limit cuts the scan off where it says unless it is
  zero, and the scan is in the order of the paths when their lengths are in that order too
  (`LengthsInOrder`): the keys in a table are compared behind their lengths.
-/

set_option linter.unusedSectionVars false

namespace Rollout.Backends

open Rollout.Lib Rollout.Core

/-! ## Encoded keys -/

/-- **Encoded keys are a prefix code**: a key is read back from its bytes, the bytes tell the runs
and the paths apart, and the bytes of one key never start those of another.
Source: `rollout-storage/src/encoding.rs` `encode_key`, `decode_key_payload`. Kind: P -/
theorem encodeKey_code (key other : StorageKey) :
    decodeKeyPayload (encodeKey key) = .ok (key.runId, key.path) ∧
      (encodeKey key = encodeKey other ↔ key.runId = other.runId ∧ key.path = other.path) ∧
      (encodeKey key <+: encodeKey other ↔ encodeKey key = encodeKey other) := by
  refine ⟨decodeKeyPayload_encodeKey key, ?_, ?_⟩
  · unfold encodeKey
    rw [Codec.enc_inj, Prod.mk.injEq]
  · unfold encodeKey
    rw [Codec.enc_prefix_iff, Codec.enc_inj]

/-! ## The order of encoded keys -/

/-- The bytes of a path segment. Source: `rollout-core/src/traits/storage.rs` `StorageKey`.
Kind: D -/
def utf8 (s : String) : Bytes := s.toUTF8.data.toList

theorem utf8_inj {x y : String} : utf8 x = utf8 y ↔ x = y := by
  constructor
  · intro h
    have henc : Codec.string.enc x = Codec.string.enc y := congrArg (Codec.list Codec.byte).enc h
    exact Codec.string.enc_injective henc
  · rintro rfl
    rfl

theorem string_enc (x : String) :
    Codec.string.enc x = Codec.nat.enc (utf8 x).length ++ utf8 x := by
  show Codec.nat.enc (utf8 x).length ++ (utf8 x).flatMap (fun b => [b]) = _
  rw [List.flatMap_singleton']

/-- Paths compared segment by segment, each segment by its bytes.
Source: `rollout-core/src/traits/storage.rs` `StorageKey` (`Ord` of its segments). Kind: D -/
def PathLt (a b : List String) : Prop := a.map utf8 < b.map utf8

instance : DecidableRel PathLt := fun a b => inferInstanceAs (Decidable (a.map utf8 < b.map utf8))

/-- Where two paths first differ, the first one's segment is not the longer one.
Source: `rollout-storage/src/encoding.rs` `encode_key`. Kind: D -/
def SegmentsInOrder : List String → List String → Prop
  | x :: xs, y :: ys =>
      if x = y then SegmentsInOrder xs ys
      else (utf8 x).length = (utf8 y).length ∨
        Codec.nat.enc (utf8 x).length < Codec.nat.enc (utf8 y).length
  | _, _ => True

/-- The lengths a key carries do not put the second path first.
Source: `rollout-storage/src/encoding.rs` `encode_key`. Kind: D -/
def LengthsInOrder (a b : List String) : Prop :=
  if a.length = b.length then SegmentsInOrder a b
  else Codec.nat.enc a.length < Codec.nat.enc b.length

theorem string_enc_lt {x y : String} (h : utf8 x < utf8 y) :
    Codec.string.enc x < Codec.string.enc y ↔ (utf8 x).length = (utf8 y).length ∨
      Codec.nat.enc (utf8 x).length < Codec.nat.enc (utf8 y).length := by
  rw [string_enc, string_enc]
  by_cases hlen : (utf8 x).length = (utf8 y).length
  · rw [hlen, Codec.append_lt_append_left]
    simp [h]
  · rw [Codec.enc_append_lt Codec.nat hlen]
    simp [hlen]

theorem flatMap_enc_lt {a b : List String} (hlen : a.length = b.length) (h : PathLt a b) :
    a.flatMap Codec.string.enc < b.flatMap Codec.string.enc ↔ SegmentsInOrder a b := by
  induction a generalizing b with
  | nil =>
      obtain rfl := List.length_eq_zero_iff.mp hlen.symm
      exact absurd h (List.not_lt_nil _)
  | cons x a ih =>
      obtain ⟨y, b, rfl⟩ := List.exists_cons_of_length_eq_add_one hlen.symm
      rw [List.flatMap_cons, List.flatMap_cons, SegmentsInOrder]
      rcases List.cons_lt_cons_iff.mp h with hxy | ⟨hxy, hrest⟩
      · have hne : x ≠ y := by
          rintro rfl
          exact List.lt_irrefl _ hxy
        rw [if_neg hne, Codec.enc_append_lt _ hne, string_enc_lt hxy]
      · obtain rfl := utf8_inj.mp hxy
        rw [if_pos rfl, Codec.append_lt_append_left]
        exact ih (Nat.succ.inj hlen) hrest

/-- **The keys of a run are stored in the order of their paths when the lengths agree with it.**
Source: `rollout-storage/src/encoding.rs` `encode_key`. Kind: P -/
theorem encodeKey_lt {a b : StorageKey} (hrun : a.runId = b.runId) (h : PathLt a.path b.path) :
    encodeKey a < encodeKey b ↔ LengthsInOrder a.path b.path := by
  show RunId.codec.option.enc a.runId ++ (Codec.list Codec.string).enc a.path <
    RunId.codec.option.enc b.runId ++ (Codec.list Codec.string).enc b.path ↔ _
  rw [hrun, Codec.append_lt_append_left]
  show Codec.nat.enc a.path.length ++ a.path.flatMap Codec.string.enc <
    Codec.nat.enc b.path.length ++ b.path.flatMap Codec.string.enc ↔ _
  unfold LengthsInOrder
  by_cases hlen : a.path.length = b.path.length
  · rw [if_pos hlen, hlen, Codec.append_lt_append_left, flatMap_enc_lt hlen h]
  · rw [if_neg hlen, Codec.enc_append_lt Codec.nat hlen]

namespace EmbeddedStorage

variable {db : EmbeddedStorage}

/-! ## Reads of several keys -/

theorem mem_manyNamespaces_iff :
    ∀ ns ∈ allTables, ns ∈ manyNamespaces ↔ ns ≠ "eval_reports" := by
  decide

/-- A key of a namespace the grouping does not name ends the task.
Source: `rollout-storage/src/embedded/mod.rs` `get_many_bytes` (`unreachable!`). Kind: P -/
theorem byTable_unnamed {keys : List StorageKey} (hreg : ∀ key ∈ keys, key.ns ∈ allTables)
    (hkey : ∃ key ∈ keys, key.ns ∉ manyNamespaces) (i : Nat) (groups : KV String (List Nat)) :
    byTable i keys groups = .error (.internal "join: ") := by
  induction keys generalizing i groups with
  | nil =>
      obtain ⟨key, hmem, -⟩ := hkey
      exact absurd hmem List.not_mem_nil
  | cons key keys ih =>
      rw [byTable, tableFor_ok (hreg key List.mem_cons_self)]
      by_cases hns : key.ns ∈ manyNamespaces
      · simp only [bind, Except.bind, if_pos hns]
        apply ih fun key hmem => hreg key (List.mem_cons_of_mem _ hmem)
        obtain ⟨key', hmem, hns'⟩ := hkey
        rcases List.mem_cons.mp hmem with rfl | hmem
        · exact absurd hns hns'
        · exact ⟨key', hmem, hns'⟩
      · simp only [bind, Except.bind, if_neg hns]
        rfl

theorem mapM_getBytes {keys : List StorageKey} (hreg : ∀ key ∈ keys, key.ns ∈ allTables)
    (db : EmbeddedStorage) :
    (keys.mapM fun key => getBytes key db) = .ok (keys.map db.contents) := by
  induction keys with
  | nil => rfl
  | cons key keys ih =>
      rw [List.mapM_cons, getBytes_eq (hreg key List.mem_cons_self),
        ih fun key hmem => hreg key (List.mem_cons_of_mem _ hmem)]
      rfl

/-- **Reads of several keys are the single reads exactly when none is of `eval_reports`.**
Source: `rollout-storage/src/embedded/mod.rs` `get_many_bytes`, `get_bytes`. Kind: P -/
theorem getManyBytes_iff {keys : List StorageKey} (hreg : ∀ key ∈ keys, key.ns ∈ allTables)
    (db : EmbeddedStorage) :
    getManyBytes keys db = (keys.mapM fun key => getBytes key db) ↔
      ∀ key ∈ keys, key.ns ≠ "eval_reports" := by
  rw [mapM_getBytes hreg]
  constructor
  · intro h key hmem heval
    have hkey : ∃ key ∈ keys, key.ns ∉ manyNamespaces :=
      ⟨key, hmem, fun hns => (mem_manyNamespaces_iff _ (hreg key hmem)).mp hns heval⟩
    unfold getManyBytes at h
    rw [byTable_unnamed hreg hkey] at h
    cases h
  · intro h
    apply getManyBytes_eq
    intro key hmem
    exact ⟨hreg key hmem, (mem_manyNamespaces_iff _ (hreg key hmem)).mpr (h key hmem)⟩

/-- Two keys of one registered namespace, the first of them twice. -/
theorem getManyBytes_work :
    getManyBytes [⟨"work", none, ["a"]⟩, ⟨"runs", none, []⟩, ⟨"work", none, ["a"]⟩]
        (KV.put ∅ "work" (KV.put ∅ (encodeKey ⟨"work", none, ["a"]⟩) [7])) =
      ([⟨"work", none, ["a"]⟩, ⟨"runs", none, []⟩, ⟨"work", none, ["a"]⟩] : List StorageKey).mapM
        fun key => getBytes key
          (KV.put ∅ "work" (KV.put ∅ (encodeKey ⟨"work", none, ["a"]⟩) [7])) :=
  (getManyBytes_iff (by decide) _).mpr (by decide)

/-- One key of `eval_reports` ends the read, in an empty storage already. -/
theorem getManyBytes_evalReports :
    ¬ ∀ (keys : List StorageKey) (db : EmbeddedStorage), (∀ key ∈ keys, key.ns ∈ allTables) →
      getManyBytes keys db = keys.mapM fun key => getBytes key db := by
  intro h
  have hkey := h [⟨"eval_reports", none, []⟩] ∅ (by decide)
  rw [mapM_getBytes (by decide), getManyBytes, byTable_unnamed (by decide) (by decide)] at hkey
  cases hkey

/-! ## Limits -/

theorem scanEntries_prefix {pfx : StorageKey} {entries : List (Bytes × Bytes)}
    {out all : List (StorageKey × Bytes)} (h : scanEntries pfx none entries out = .ok all) :
    out <+: all := by
  induction entries generalizing out with
  | nil =>
      obtain rfl := Except.ok.inj h
      exact List.prefix_rfl
  | cons entry entries ih =>
      rw [scanEntries] at h
      obtain ⟨payload, -, h⟩ := bind_eq_ok h
      simp only [Option.any_none, Bool.false_eq_true, if_false] at h
      split at h
      · exact (List.prefix_append _ _).trans (ih h)
      · exact ih h

/-- The loop stops behind the entry with which the limit is reached; the first entry in range is
taken before any limit is looked at. Source: `rollout-storage/src/embedded/mod.rs` `scan_bytes`.
Kind: P -/
theorem scanEntries_limit {pfx : StorageKey} {n : Nat} {entries : List (Bytes × Bytes)}
    {out all : List (StorageKey × Bytes)} (h : scanEntries pfx none entries out = .ok all)
    (hlen : out.length < max n 1) :
    scanEntries pfx (some n) entries out = .ok (all.take (max n 1)) := by
  induction entries generalizing out with
  | nil =>
      obtain rfl := Except.ok.inj h
      rw [List.take_of_length_le (Nat.le_of_lt hlen)]
      rfl
  | cons entry entries ih =>
      rw [scanEntries] at h
      obtain ⟨payload, hpayload, h⟩ := bind_eq_ok h
      rw [scanEntries, hpayload]
      simp only [Option.any_none, Option.any_some, Bool.false_eq_true, if_false, bind, Except.bind,
        decide_eq_true_eq] at h ⊢
      split at h
      · next hp =>
        rw [if_pos hp]
        split
        · next hfull =>
          -- the entry just taken is the last one
          rw [List.length_append, List.length_singleton] at hfull
          have hfill : max n 1 = out.length + 1 := by omega
          obtain ⟨rest, rfl⟩ := scanEntries_prefix h
          rw [hfill, List.take_append_of_le_length (by simp), List.take_of_length_le (by simp)]
          rfl
        · next hfull =>
          exact ih h (by rw [List.length_append, List.length_singleton] at hfull ⊢; omega)
      · next hp =>
        rw [if_neg hp]
        exact ih h hlen

/-! ## The order of a scan -/

/-- What a scan is taken to answer: the limit cuts the scan without it off, and the entries of a
run come in the order of their paths.
Source: `rollout-core/src/traits/storage.rs` `KeyRange`; `rollout-coordinator/src/ledger.rs`
`next_pending` ("scan_bytes returns keys in ascending order"). Kind: D -/
def LimitedAndOrdered (range : KeyRange) (db : EmbeddedStorage) : Prop :=
  (∀ n, range.limit = some n →
    scanBytes range db = (scanBytes ⟨range.pfx, none⟩ db).map (List.take n)) ∧
  ∀ all, scanBytes ⟨range.pfx, none⟩ db = .ok all →
    all.Pairwise fun a b => a.1.runId = b.1.runId → PathLt a.1.path b.1.path

/-- A stored key that a scan lists. Source: `rollout-storage/src/embedded/mod.rs` `scan_bytes`.
Kind: D -/
def InScan (db : EmbeddedStorage) (pfx key : StorageKey) : Prop :=
  pfx.ns ∈ allTables ∧ db.contents key ≠ none ∧ keyHasPrefix key pfx = true

theorem scanBytes_unregistered {range : KeyRange} (hns : range.pfx.ns ∉ allTables) :
    ∃ e, ∀ limit, scanBytes ⟨range.pfx, limit⟩ db = .error e := by
  obtain ⟨e, he⟩ : ∃ e, tableFor range.pfx.ns = .error e := ⟨_, if_neg hns⟩
  refine ⟨e, fun limit => ?_⟩
  unfold scanBytes
  rw [he]
  rfl

/-- A scan with a limit, against the scan without it.
Source: `rollout-storage/src/embedded/mod.rs` `scan_bytes`. Kind: P -/
theorem scanBytes_limit {pfx : StorageKey} {all : List (StorageKey × Bytes)}
    (h : scanBytes ⟨pfx, none⟩ db = .ok all) (n : Nat) :
    scanBytes ⟨pfx, some n⟩ db = .ok (all.take (max n 1)) := by
  unfold scanBytes at h ⊢
  obtain ⟨u, hns, h⟩ := bind_eq_ok h
  rw [hns]
  simp only [bind, Except.bind]
  cases ht : KV.get db pfx.ns with
  | none =>
      rw [ht] at h
      obtain rfl := Except.ok.inj h
      simp
      rfl
  | some table =>
      rw [ht] at h
      exact scanEntries_limit h (by simp)

/-- The limit is kept unless it is zero and there is something to list.
Source: `rollout-storage/src/embedded/mod.rs` `scan_bytes`. Kind: P -/
theorem scanBytes_limit_iff {range : KeyRange} {all : List (StorageKey × Bytes)}
    (h : scanBytes ⟨range.pfx, none⟩ db = .ok all) :
    (∀ n, range.limit = some n →
      scanBytes range db = (scanBytes ⟨range.pfx, none⟩ db).map (List.take n)) ↔
      (range.limit = some 0 → all = []) := by
  have hlimit : ∀ n, range.limit = some n → (scanBytes range db =
      (scanBytes ⟨range.pfx, none⟩ db).map (List.take n) ↔ all.take (max n 1) = all.take n) := by
    intro n hn
    have hrange : range = ⟨range.pfx, some n⟩ := by rw [← hn]
    rw [hrange, scanBytes_limit h n, h]
    exact Except.ok.injEq .. |>.to_iff
  constructor
  · intro hall hzero
    have hnil := (hlimit 0 hzero).mp (hall 0 hzero)
    simpa using hnil
  · intro hzero n hn
    rw [hlimit n hn]
    by_cases hn0 : n = 0
    · rw [hzero (hn0 ▸ hn), List.take_nil, List.take_nil]
    · rw [Nat.max_eq_left (Nat.one_le_iff_ne_zero.mpr hn0)]

theorem PathLt.trichotomy (a b : List String) : PathLt a b ∨ a = b ∨ PathLt b a := by
  rcases List.le_total (a.map utf8) (b.map utf8) with h | h
  all_goals rcases (List.le_iff_lt_or_eq ..).mp h with h | h
  · exact .inl h
  · exact .inr (.inl (List.map_injective_iff.mpr (fun _ _ => utf8_inj.mp) h))
  · exact .inr (.inr h)
  · exact .inr (.inl (List.map_injective_iff.mpr (fun _ _ => utf8_inj.mp) h.symm))

/-- A scan comes in the order of the paths exactly when the lengths agree with that order.
Source: `rollout-storage/src/embedded/mod.rs` `scan_bytes`. Kind: P -/
theorem ordered_iff {all : List (StorageKey × Bytes)}
    (hsorted : all.Pairwise fun a b => encodeKey a.1 < encodeKey b.1)
    {pfx : StorageKey} (hns : ∀ e ∈ all, e.1.ns = pfx.ns) :
    (all.Pairwise fun a b => a.1.runId = b.1.runId → PathLt a.1.path b.1.path) ↔
      ∀ a ∈ all, ∀ b ∈ all, a.1.runId = b.1.runId → PathLt a.1.path b.1.path →
        LengthsInOrder a.1.path b.1.path := by
  constructor
  · intro hordered
    refine List.Pairwise.forall_of_forall_of_flip ?_ ?_ ?_
    · intro a _ _ hlt
      exact absurd hlt (List.lt_irrefl _)
    · exact hsorted.imp fun hlt hrun hpath => (encodeKey_lt hrun hpath).mp hlt
    · refine hordered.imp fun hlt hrun hpath => ?_
      exact absurd hpath (List.lt_asymm (hlt hrun.symm))
  · intro hlengths
    refine hsorted.imp_of_mem fun {a b} ha hb hlt hrun => ?_
    rcases PathLt.trichotomy a.1.path b.1.path with h | h | h
    · exact h
    · have hkey : a.1 = b.1 := by
        rw [StorageKey.mk.injEq]
        exact ⟨(hns a ha).trans (hns b hb).symm, hrun, h⟩
      rw [hkey] at hlt
      exact absurd hlt (List.lt_irrefl _)
    · have hback := (encodeKey_lt hrun.symm h).mpr (hlengths b hb a ha hrun.symm h)
      exact absurd hback (List.lt_asymm hlt)

theorem mem_scan_iff {pfx key : StorageKey} {all : List (StorageKey × Bytes)}
    (hns : pfx.ns ∈ allTables)
    (hall : ∀ key v, (key, v) ∈ all ↔ db.contents key = some v ∧ keyHasPrefix key pfx = true) :
    (∃ v, (key, v) ∈ all) ↔ InScan db pfx key := by
  unfold InScan
  simp only [hall, exists_and_right, ← Option.ne_none_iff_exists']
  simp [hns]

/-- **A scan is cut off at its limit and in the order of the paths exactly when** the limit is not
zero or there is nothing to list, and the lengths of the stored paths of a run are in the order of
these paths. Source: `rollout-storage/src/embedded/mod.rs` `scan_bytes`. Kind: P -/
theorem scanBytes_limit_order_iff {calls : List (TxnCall StorageKey Bytes)}
    {answers : List (TxnAnswer Bytes)} (hrun : store.run calls ∅ = .ok (answers, db))
    (range : KeyRange) :
    LimitedAndOrdered range db ↔
      (range.limit = some 0 → ∀ key, ¬ InScan db range.pfx key) ∧
        ∀ a b, InScan db range.pfx a → InScan db range.pfx b → a.runId = b.runId →
          PathLt a.path b.path → LengthsInOrder a.path b.path := by
  by_cases hns : range.pfx.ns ∈ allTables
  · have hcoded : Coded db := codedInvariant.run coded_empty hrun
    obtain ⟨all, hscan, hsorted, hmem⟩ := scanBytes_sorted hcoded range.pfx hns
    have hin : ∀ e ∈ all, e.1.ns = range.pfx.ns :=
      fun e he => ns_of_keyHasPrefix ((hmem e.1 e.2).mp he).2
    have hstored : ∀ key, (∃ v, (key, v) ∈ all) ↔ InScan db range.pfx key :=
      fun _ => mem_scan_iff hns hmem
    unfold LimitedAndOrdered
    rw [scanBytes_limit_iff hscan]
    apply and_congr
    · apply imp_congr_right
      intro _
      rw [List.eq_nil_iff_forall_not_mem]
      constructor
      · intro hnil key hkey
        obtain ⟨v, hv⟩ := (hstored key).mpr hkey
        exact hnil (key, v) hv
      · intro hnone e he
        exact hnone e.1 ((hstored e.1).mp ⟨e.2, he⟩)
    · have hall : (∀ res, scanBytes ⟨range.pfx, none⟩ db = .ok res →
          res.Pairwise fun a b => a.1.runId = b.1.runId → PathLt a.1.path b.1.path) ↔
          all.Pairwise fun a b => a.1.runId = b.1.runId → PathLt a.1.path b.1.path := by
        simp [hscan]
      rw [hall, ordered_iff hsorted hin]
      constructor
      · intro h a b ha hb
        obtain ⟨v, hv⟩ := (hstored a).mpr ha
        obtain ⟨w, hw⟩ := (hstored b).mpr hb
        exact h (a, v) hv (b, w) hw
      · intro h a ha b hb
        exact h a.1 b.1 ((hstored a.1).mp ⟨a.2, ha⟩) ((hstored b.1).mp ⟨b.2, hb⟩)
  · -- an unregistered namespace fails every scan
    obtain ⟨e, he⟩ : ∃ e, ∀ limit, scanBytes ⟨range.pfx, limit⟩ db = .error e :=
      scanBytes_unregistered hns
    have hnone : ∀ key, ¬ InScan db range.pfx key := fun key hkey => hns hkey.1
    constructor
    · intro _
      exact ⟨fun _ => hnone, fun a b ha => absurd ha (hnone a)⟩
    · intro _
      refine ⟨fun n _ => ?_, fun all hall => ?_⟩
      · rw [he none, show scanBytes range db = .error e from he range.limit]
        rfl
      · rw [he none] at hall
        cases hall

/-- Segments of equal lengths are compared by their bytes.
Source: `rollout-storage/src/encoding.rs` `encode_key`. Kind: L -/
theorem lengthsInOrder_of_lengths {a b : List String}
    (h : a.map (fun x => (utf8 x).length) = b.map fun x => (utf8 x).length) :
    LengthsInOrder a b := by
  have hlen : a.length = b.length := by simpa using congrArg List.length h
  rw [LengthsInOrder, if_pos hlen]
  clear hlen
  induction a generalizing b with
  | nil => trivial
  | cons x a ih =>
      cases b with
      | nil => trivial
      | cons y b =>
          rw [List.map_cons, List.map_cons, List.cons.injEq] at h
          rw [SegmentsInOrder]
          split
          · exact ih h.2
          · exact .inl h.1

/-! ### Two rows of one table -/

/-- A row of `runs`. Source: none: infrastructure. Kind: D -/
def runsKey (segment : String) : StorageKey := ⟨"runs", none, [segment]⟩

/-- A storage with two rows. Source: none: infrastructure. Kind: D -/
def twoRows (a b : String) : EmbeddedStorage :=
  KV.put ∅ "runs" (KV.put (KV.put ∅ (encodeKey (runsKey a)) [1]) (encodeKey (runsKey b)) [2])

theorem run_twoRows (a b : String) :
    store.run [.txn [.put (runsKey a) [1], .put (runsKey b) [2]] .commit] ∅ =
      .ok ([.txn []], twoRows a b) := rfl

theorem contents_twoRows (a b : String) (key : StorageKey) : (twoRows a b).contents key =
    if key = runsKey b then some [2] else if key = runsKey a then some [1] else none := by
  unfold contents twoRows
  rw [KV.get_put]
  by_cases hns : key.ns = "runs"
  · rw [if_pos hns, Option.bind_some, KV.get_put, KV.get_put, KV.get_empty]
    have hkey : ∀ x, encodeKey key = encodeKey (runsKey x) ↔ key = runsKey x :=
      fun x => encodeKey_inj (b := runsKey x) hns
    simp only [hkey]
  · have hne : ∀ x, key ≠ runsKey x := fun x h => hns (h ▸ rfl)
    simp [hns, hne]

theorem inScan_twoRows {a b : String} {key : StorageKey} :
    InScan (twoRows a b) ⟨"runs", none, []⟩ key ↔ key = runsKey a ∨ key = runsKey b := by
  unfold InScan
  rw [contents_twoRows]
  constructor
  · rintro ⟨-, hstored, -⟩
    by_contra hne
    rw [not_or] at hne
    rw [if_neg hne.2, if_neg hne.1] at hstored
    exact hstored rfl
  · intro hkey
    refine ⟨by decide, ?_, ?_⟩
    · by_cases hb : key = runsKey b
      · rw [if_pos hb]
        simp
      · rw [if_neg hb, if_pos (hkey.resolve_right hb)]
        simp
    · rcases hkey with rfl | rfl <;> rfl

/-- Two rows of equal lengths and a limit of one. -/
theorem limitedAndOrdered_ba : LimitedAndOrdered ⟨⟨"runs", none, []⟩, some 1⟩ (twoRows "b" "a") := by
  rw [scanBytes_limit_order_iff (run_twoRows "b" "a")]
  refine ⟨fun h => absurd h (by decide), fun a b ha hb _ _ => lengthsInOrder_of_lengths ?_⟩
  rcases inScan_twoRows.mp ha with rfl | rfl <;> rcases inScan_twoRows.mp hb with rfl | rfl <;> rfl

/-- A limit of zero lists a row; the shorter segment comes first. -/
theorem not_limitedAndOrdered_baa :
    store.run [.txn [.put (runsKey "b") [1], .put (runsKey "aa") [2]] .commit] ∅ =
        .ok ([.txn []], twoRows "b" "aa") ∧
      (∃ rows, rows ≠ [] ∧
        scanBytes ⟨⟨"runs", none, []⟩, some 0⟩ (twoRows "b" "aa") = .ok rows) ∧
      ¬ LimitedAndOrdered ⟨⟨"runs", none, []⟩, some 0⟩ (twoRows "b" "aa") ∧
      ¬ LimitedAndOrdered ⟨⟨"runs", none, []⟩, none⟩ (twoRows "b" "aa") := by
  have hcoded : Coded (twoRows "b" "aa") :=
    codedInvariant.run coded_empty (run_twoRows "b" "aa")
  obtain ⟨all, hscan, hsorted, hmem⟩ :=
    scanBytes_sorted hcoded ⟨"runs", none, []⟩ (by decide)
  have hb : (runsKey "b", [1]) ∈ all := (hmem _ _).mpr (by decide)
  have haa : (runsKey "aa", [2]) ∈ all := (hmem _ _).mpr (by decide)
  have htake : all.take 1 ≠ [] := by
    intro h
    rw [List.take_eq_nil_iff] at h
    rcases h with h | rfl
    · cases h
    · exact List.not_mem_nil hb
  have hzero := scanBytes_limit hscan 0
  refine ⟨run_twoRows "b" "aa", ⟨all.take 1, htake, hzero⟩, ?_, ?_⟩
  · rintro ⟨hlimit, -⟩
    have h := hlimit 0 rfl
    rw [hzero, hscan] at h
    exact htake (Except.ok.inj h)
  · rintro ⟨-, hordered⟩
    have hin : ∀ e ∈ all, e.1.ns = (⟨"runs", none, []⟩ : StorageKey).ns :=
      fun e he => ns_of_keyHasPrefix ((hmem e.1 e.2).mp he).2
    have h : LengthsInOrder ["aa"] ["b"] :=
      (ordered_iff hsorted hin).mp (hordered all hscan) _ haa _ hb rfl (by decide)
    have hlen : ["aa"].length = ["b"].length := rfl
    have hne : "aa" ≠ "b" := by decide
    rw [LengthsInOrder, if_pos hlen, SegmentsInOrder, if_neg hne] at h
    exact absurd h (by decide)

end EmbeddedStorage

end Rollout.Backends
