import Rollout.Storage.Embedded

/-!
# The Postgres storage in its rows

One table with the columns of a key and its value, under an index that takes two absent runs for
equal.

* `Sql` — the predicates of the queries: comparison is three-valued, `IS NOT DISTINCT FROM` is not.
* `KvTable` — the rows; that the index is unique is a field.
* `PostgresStorage` — the queries. `PostgresStorage.refines`: they represent the plain map on the
  keys `validateForPostgres` accepts.
* `storages_agree` — the two backends answer every history alike, as the plain map does.
* `scans_agree_iff` — when their scans list the same entries: a prefix without a run matches every
  run on the embedded storage and only the rows without a run here.
-/

set_option linter.unusedSectionVars false

namespace Rollout.Backends

open Rollout.Lib Rollout.Core

/-! ## Predicates of a query -/

namespace Sql

variable {α : Type} [DecidableEq α]

/-- Comparison: unknown when a side is null. Source: none: infrastructure. Kind: D -/
def eq (a b : Option α) : Option Bool := a.bind fun x => b.map fun y => decide (x = y)

/-- Comparison that takes nulls for values.
Source: `rollout-storage/src/postgres/mod.rs` (`IS NOT DISTINCT FROM`). Kind: D -/
def isNotDistinctFrom (a b : Option α) : Option Bool := some (decide (a = b))

/-- Conjunction: false when a side is. Source: none: infrastructure. Kind: D -/
def and : Option Bool → Option Bool → Option Bool
  | some false, _ => some false
  | _, some false => some false
  | some true, some true => some true
  | _, _ => none

/-- The length of an array along its first dimension: an empty array has none.
Source: `rollout-storage/src/postgres/mod.rs` (`array_length($3, 1)`). Kind: D -/
def arrayLength (a : List α) : Option Nat := if a = [] then none else some a.length

/-- The first elements of an array; null when the bound is.
Source: `rollout-storage/src/postgres/mod.rs` (`path[1:n]`). Kind: D -/
def slice (a : List α) (upper : Option Nat) : Option (List α) := upper.map a.take

@[simp] theorem eq_some (a b : α) : eq (some a) (some b) = some (decide (a = b)) := rfl

@[simp] theorem and_some (a b : Bool) : and (some a) (some b) = some (a && b) := by
  cases a <;> cases b <;> rfl

end Sql

/-! ## The table -/

/-- The type of the run column. Source: `database/migrations/0001_init.sql` (`UUID`). Kind: D -/
structure Uuid where
  /-- Its sixteen bytes. -/
  bytes : BitVec 128
deriving DecidableEq

/-- Source: `rollout-storage/src/postgres/mod.rs` `ulid_to_uuid`. Kind: D -/
def ulidToUuid (id : RunId) : Uuid := ⟨id.ulid.bits⟩

/-- Source: `rollout-storage/src/postgres/mod.rs` `uuid_to_ulid`. Kind: D -/
def uuidToUlid (u : Uuid) : RunId := ⟨⟨u.bytes⟩⟩

@[simp] theorem uuidToUlid_ulidToUuid (id : RunId) : uuidToUlid (ulidToUuid id) = id := rfl

@[simp] theorem ulidToUuid_uuidToUlid (u : Uuid) : ulidToUuid (uuidToUlid u) = u := rfl

theorem ulidToUuid_injective : Function.Injective ulidToUuid :=
  Function.LeftInverse.injective uuidToUlid_ulidToUuid

/-- A row; its version and the time of its last change are read by nothing.
Source: `database/migrations/0001_init.sql` (`kv`). Kind: D -/
structure KvRow where
  /-- The namespace. -/
  ns : String
  /-- The run, or null. -/
  runId : Option Uuid
  /-- The path. -/
  path : List String
  /-- The value. -/
  value : Bytes
deriving DecidableEq

/-- The indexed columns; two nulls are equal.
Source: `database/migrations/0004_kv_nullable_run_id.sql` (`NULLS NOT DISTINCT`). Kind: D -/
def KvRow.index (row : KvRow) : String × Option Uuid × List String := (row.ns, row.runId, row.path)

/-- The table. Source: `database/migrations/0004_kv_nullable_run_id.sql` (`kv_pkey`). Kind: D -/
structure KvTable where
  /-- Its rows, in the order a query returns them. -/
  rows : List KvRow
  unique : (rows.map KvRow.index).Nodup

namespace KvTable

variable (t : KvTable)

/-- The rows for which a condition is true. Source: none: infrastructure. Kind: D -/
def select (cond : KvRow → Option Bool) : List KvRow :=
  t.rows.filter fun row => cond row == some true

/-- Insert a row, or update the value of the one it conflicts with.
Source: `rollout-storage/src/postgres/mod.rs` (`INSERT … ON CONFLICT … DO UPDATE`). Kind: D -/
def upsert (row : KvRow) : KvTable :=
  if h : ∃ r ∈ t.rows, r.index = row.index then
    { rows := t.rows.map fun r => if r.index = row.index then { r with value := row.value } else r
      unique := by
        have hindex : (KvRow.index ∘ fun r : KvRow =>
            if r.index = row.index then { r with value := row.value } else r) = KvRow.index := by
          funext r
          simp only [Function.comp_apply]
          split <;> rfl
        rw [List.map_map, hindex]
        exact t.unique }
  else
    { rows := t.rows ++ [row]
      unique := by
        rw [List.map_append, List.nodup_append]
        refine ⟨t.unique, List.nodup_singleton _, ?_⟩
        rintro _ hmem _ hrow rfl
        obtain ⟨r, hr, hri⟩ := List.mem_map.mp hmem
        rw [List.map_singleton, List.mem_singleton] at hrow
        exact h ⟨r, hr, hri.trans hrow⟩ }

/-- Delete the rows for which a condition is true.
Source: `rollout-storage/src/postgres/mod.rs` (`DELETE`). Kind: D -/
def deleteWhere (cond : KvRow → Option Bool) : KvTable where
  rows := t.rows.filter fun row => !(cond row == some true)
  unique := t.unique.sublist (List.filter_sublist.map KvRow.index)

instance : EmptyCollection KvTable := ⟨⟨[], List.nodup_nil⟩⟩

theorem mem_upsert {row r : KvRow} :
    r ∈ (t.upsert row).rows ↔ r = row ∨ r ∈ t.rows ∧ r.index ≠ row.index := by
  unfold upsert
  split
  · next h =>
    obtain ⟨r₀, hr₀, hindex⟩ := h
    have hrow : ({ r₀ with value := row.value } : KvRow) = row := by
      simp only [KvRow.index, Prod.mk.injEq] at hindex
      obtain ⟨h1, h2, h3⟩ := hindex
      cases r₀
      cases row
      simp_all
    simp only [List.mem_map]
    constructor
    · rintro ⟨r', hr', rfl⟩
      by_cases hi : r'.index = row.index
      · have hsame : r' = r₀ := List.inj_on_of_nodup_map t.unique hr' hr₀ (hi.trans hindex.symm)
        rw [if_pos hi, hsame]
        exact .inl hrow
      · rw [if_neg hi]
        exact .inr ⟨hr', hi⟩
    · rintro (rfl | ⟨hr, hi⟩)
      · exact ⟨r₀, hr₀, by rw [if_pos hindex, hrow]⟩
      · exact ⟨r, hr, if_neg hi⟩
  · next h =>
    rw [List.mem_append, List.mem_singleton, or_comm]
    refine or_congr_right ⟨fun hr => ⟨hr, fun hi => h ⟨r, hr, hi⟩⟩, And.left⟩

theorem mem_deleteWhere {cond : KvRow → Option Bool} {r : KvRow} :
    r ∈ (t.deleteWhere cond).rows ↔ r ∈ t.rows ∧ cond r ≠ some true := by
  simp [deleteWhere]

theorem mem_select {cond : KvRow → Option Bool} {r : KvRow} :
    r ∈ t.select cond ↔ r ∈ t.rows ∧ cond r = some true := by
  simp [select]

end KvTable

/-! ## The storage -/

/-- The table. Source: `rollout-storage/src/postgres/mod.rs` `PostgresStorage`. Kind: D -/
abbrev PostgresStorage := KvTable

/-- The row of a key. Source: `rollout-storage/src/postgres/mod.rs` `put_bytes`. Kind: D -/
def rowOf (key : StorageKey) (value : Bytes) : KvRow :=
  ⟨key.ns, key.runId.map ulidToUuid, key.path, value⟩

/-- The entry of a row. Source: `rollout-storage/src/postgres/mod.rs` `scan_bytes`. Kind: D -/
def entryOf (row : KvRow) : StorageKey × Bytes :=
  (⟨row.ns, row.runId.map uuidToUlid, row.path⟩, row.value)

/-- The condition that picks the row of a key. Source: `rollout-storage/src/postgres/mod.rs`
(`namespace = $1 AND run_id IS NOT DISTINCT FROM $2 AND path = $3`). Kind: D -/
def atKey (key : StorageKey) (row : KvRow) : Option Bool :=
  Sql.and (Sql.and (Sql.eq (some row.ns) (some key.ns))
    (Sql.isNotDistinctFrom row.runId (key.runId.map ulidToUuid)))
    (Sql.eq (some row.path) (some key.path))

namespace PostgresStorage

/-- Source: `rollout-storage/src/postgres/mod.rs` `put_bytes`. Kind: D -/
def putBytes (key : StorageKey) (value : Bytes) (t : PostgresStorage) :
    Except CoreError PostgresStorage := do
  key.validateForPostgres
  return t.upsert (rowOf key value)

/-- Source: `rollout-storage/src/postgres/mod.rs` `delete`. Kind: D -/
def delete (key : StorageKey) (t : PostgresStorage) : Except CoreError PostgresStorage := do
  key.validateForPostgres
  return t.deleteWhere (atKey key)

/-- The value of the row a key picks, if there is one.
Source: `rollout-storage/src/postgres/mod.rs` (`fetch_optional`). Kind: D -/
def fetchOptional (key : StorageKey) (t : PostgresStorage) : Option Bytes :=
  (t.select (atKey key)).head?.map KvRow.value

/-- Source: `rollout-storage/src/postgres/mod.rs` `cas_bytes`. Kind: D -/
def casBytes (key : StorageKey) (expected new : Option Bytes) (t : PostgresStorage) :
    Except CoreError (Bool × PostgresStorage) := do
  key.validateForPostgres
  let current := t.fetchOptional key
  if current ≠ expected then
    return (false, t)
  match expected, new with
  | _, some value => return (true, t.upsert (rowOf key value))
  | some _, none => return (true, t.deleteWhere (atKey key))
  | none, none => return (true, t)

/-- Source: `rollout-storage/src/postgres/mod.rs` `get_bytes`. Kind: D -/
def getBytes (key : StorageKey) (t : PostgresStorage) : Except CoreError (Option Bytes) := do
  key.validateForPostgres
  return t.fetchOptional key

/-- Source: `rollout-storage/src/postgres/mod.rs` `get_many_bytes`. Kind: D -/
def getManyBytes (keys : List StorageKey) (t : PostgresStorage) :
    Except CoreError (List (Option Bytes)) := do
  keys.forM StorageKey.validateForPostgres
  keys.mapM fun key => getBytes key t

/-- The condition of a scan; a prefix without segments does not compare paths.
Source: `rollout-storage/src/postgres/mod.rs` `scan_bytes`. Kind: D -/
def inRange (pfx : StorageKey) (row : KvRow) : Option Bool :=
  let scope := Sql.and (Sql.eq (some row.ns) (some pfx.ns))
    (Sql.isNotDistinctFrom row.runId (pfx.runId.map ulidToUuid))
  if pfx.path = [] then scope
  else Sql.and scope (Sql.eq (Sql.slice row.path (Sql.arrayLength pfx.path)) (some pfx.path))

/-- The number of rows asked for, a signed 64-bit integer.
Source: `rollout-storage/src/postgres/mod.rs` `scan_bytes` (`lim`). Kind: D -/
def rowLimit (limit : Option Nat) : Nat := min (limit.getD (2 ^ 63 - 1)) (2 ^ 63 - 1)

/-- Source: `rollout-storage/src/postgres/mod.rs` `scan_bytes`. Kind: D -/
def scanBytes (range : KeyRange) (t : PostgresStorage) :
    Except CoreError (List (StorageKey × Bytes)) := do
  range.pfx.validateForPostgres
  return ((t.select (inRange range.pfx)).take (rowLimit range.limit)).map entryOf

/-- The storage as a store of transactions.
Source: `rollout-storage/src/postgres/mod.rs` `PostgresStorage`, `PostgresTxn`. Kind: D -/
@[reducible] def store : TxnStore StorageKey Bytes CoreError where
  State := PostgresStorage
  Work := PostgresStorage
  begin t := t
  put := putBytes
  delete := delete
  cas := casBytes
  commit t := t
  get := getBytes
  getMany := getManyBytes

/-! ## What the rows hold -/

variable {t : PostgresStorage} {key : StorageKey} {row : KvRow}

theorem atKey_iff : atKey key row = some true ↔ row.index = (rowOf key []).index := by
  simp [atKey, Sql.isNotDistinctFrom, KvRow.index, rowOf, and_assoc]

theorem rowOf_inj {key' : StorageKey} {v v' : Bytes} :
    rowOf key v = rowOf key' v' ↔ key = key' ∧ v = v' := by
  obtain ⟨ns, run, path⟩ := key
  obtain ⟨ns', run', path'⟩ := key'
  simp [rowOf, (Option.map_injective ulidToUuid_injective).eq_iff, and_assoc]

theorem entryOf_rowOf (key : StorageKey) (v : Bytes) : entryOf (rowOf key v) = (key, v) := by
  simp [entryOf, rowOf, Function.comp_def]

theorem rowOf_entryOf (row : KvRow) : rowOf (entryOf row).1 (entryOf row).2 = row := by
  simp [entryOf, rowOf, Function.comp_def]

theorem index_rowOf {key' : StorageKey} {v v' : Bytes} :
    (rowOf key v).index = (rowOf key' v').index ↔ key = key' := by
  obtain ⟨ns, run, path⟩ := key
  obtain ⟨ns', run', path'⟩ := key'
  simp [rowOf, KvRow.index, (Option.map_injective ulidToUuid_injective).eq_iff]

/-- What a key reads. Source: `rollout-storage/src/postgres/mod.rs` `get_bytes`. Kind: P -/
theorem fetchOptional_iff {v : Bytes} : t.fetchOptional key = some v ↔ rowOf key v ∈ t.rows := by
  unfold fetchOptional
  rw [Option.map_eq_some_iff]
  constructor
  · rintro ⟨row, hrow, rfl⟩
    have hmem := (t.mem_select).mp (List.mem_of_mem_head? hrow)
    have hindex := atKey_iff.mp hmem.2
    have heq : row = rowOf key row.value := by
      simp only [KvRow.index, rowOf, Prod.mk.injEq] at hindex
      obtain ⟨h1, h2, h3⟩ := hindex
      cases row
      simp_all [rowOf]
    rw [← heq]
    exact hmem.1
  · intro hmem
    have hsel : rowOf key v ∈ t.select (atKey key) := t.mem_select.mpr ⟨hmem, atKey_iff.mpr rfl⟩
    cases hs : t.select (atKey key) with
    | nil => simp [hs] at hsel
    | cons row rest =>
        have hrow : row ∈ t.select (atKey key) := hs ▸ List.mem_cons_self ..
        obtain ⟨hin, hat⟩ := t.mem_select.mp hrow
        have hsame : row = rowOf key v :=
          List.inj_on_of_nodup_map t.unique hin hmem (atKey_iff.mp hat)
        exact ⟨row, rfl, by rw [hsame]; rfl⟩

theorem fetchOptional_upsert (value : Bytes) :
    (fun k => PostgresStorage.fetchOptional k (t.upsert (rowOf key value))) =
      Function.update (fun k => t.fetchOptional k) key (some value) := by
  funext k
  refine Option.ext fun v => ?_
  rw [fetchOptional_iff, t.mem_upsert, rowOf_inj, ne_eq, index_rowOf]
  by_cases hk : k = key
  · subst hk
    rw [Function.update_self]
    simp [eq_comm]
  · rw [Function.update_of_ne hk, fetchOptional_iff]
    simp [hk]

theorem fetchOptional_deleteWhere :
    (fun k => PostgresStorage.fetchOptional k (t.deleteWhere (atKey key))) =
      Function.update (fun k => t.fetchOptional k) key none := by
  funext k
  refine Option.ext fun v => ?_
  rw [fetchOptional_iff, t.mem_deleteWhere, ne_eq, atKey_iff, index_rowOf]
  by_cases hk : k = key
  · subst hk
    rw [Function.update_self]
    simp
  · rw [Function.update_of_ne hk, fetchOptional_iff]
    simp [hk]

/-! ## The representation -/

theorem casBytes_of_ne (h : key.validateForPostgres = .ok ()) {expected : Option Bytes}
    (hne : t.fetchOptional key ≠ expected) (new : Option Bytes) :
    casBytes key expected new t = .ok (false, t) := by
  unfold casBytes
  rw [h]
  simp only [bind, Except.bind, if_pos hne]
  rfl

theorem casBytes_self (h : key.validateForPostgres = .ok ()) (t : PostgresStorage)
    (new : Option Bytes) : ∃ t', casBytes key (t.fetchOptional key) new t = .ok (true, t') ∧
      (fun k => PostgresStorage.fetchOptional k t') =
        Function.update (fun k => t.fetchOptional k) key new := by
  unfold casBytes
  rw [h]
  simp only [bind, Except.bind, ne_eq, not_true_eq_false, if_false]
  cases new with
  | some value => exact ⟨_, rfl, fetchOptional_upsert value⟩
  | none =>
      cases hcur : t.fetchOptional key with
      | some value => exact ⟨_, rfl, fetchOptional_deleteWhere⟩
      | none => exact ⟨t, rfl, (Function.update_eq_self_iff.mpr hcur.symm).symm⟩

theorem getManyBytes_eq {keys : List StorageKey}
    (h : ∀ key ∈ keys, key.validateForPostgres = .ok ()) (t : PostgresStorage) :
    getManyBytes keys t = .ok (keys.map fun key => t.fetchOptional key) := by
  have hcheck : keys.forM StorageKey.validateForPostgres = .ok () := by
    induction keys with
    | nil => rfl
    | cons key keys ih =>
        have hhead := h key (List.mem_cons_self ..)
        have htail := ih fun k hk => h k (List.mem_cons_of_mem key hk)
        rw [List.forM, hhead]
        exact htail
  have hread : (keys.mapM fun key => getBytes key t) =
      .ok (keys.map fun key => t.fetchOptional key) := by
    clear hcheck
    induction keys with
    | nil => rfl
    | cons key keys ih =>
        rw [List.mapM_cons, getBytes, h key (List.mem_cons_self ..),
          ih fun k hk => h k (List.mem_cons_of_mem key hk)]
        rfl
  unfold getManyBytes
  rw [hcheck, hread]
  rfl

/-- The rows represent a map. Source: none: infrastructure. Kind: D -/
def Represents (t : PostgresStorage) (m : StorageKey → Option Bytes) : Prop :=
  (fun key => t.fetchOptional key) = m

/-- **The Postgres storage represents the plain map** on the keys it accepts.
Source: `rollout-storage/src/postgres/mod.rs`. Kind: P -/
def refines : store.Refines (fun key => key.validateForPostgres = .ok ()) (fun _ => True) where
  rep := Represents
  work := Represents
  begin h := h
  put {t m key v} h hok := by
    refine ⟨t.upsert (rowOf key v), ?_, h ▸ fetchOptional_upsert v⟩
    change putBytes key v t = _
    rw [putBytes, hok]
    rfl
  delete {t m key} h hok := by
    refine ⟨t.deleteWhere (atKey key), ?_, h ▸ fetchOptional_deleteWhere⟩
    change delete key t = _
    rw [delete, hok]
    rfl
  swap {t m key n} h hok := by
    subst h
    exact casBytes_self hok t n
  keep {t m key e n} h hok hne := by
    subst h
    exact ⟨t, casBytes_of_ne hok hne n, rfl⟩
  commit h := h
  get {t m key} h hok := by
    subst h
    change getBytes key t = _
    rw [getBytes, hok]
    rfl
  getMany h hok := by
    subst h
    exact getManyBytes_eq (fun key hkey => (hok key hkey).1) _

/-! ## Scans -/

theorem slice_iff {path p : List String} (hp : p ≠ []) :
    Sql.eq (Sql.slice path (Sql.arrayLength p)) (some p) = some (p.isPrefixOf path) := by
  have htake : (path.take p.length = p) ↔ p <+: path :=
    ⟨fun h => h ▸ List.take_prefix _ _, fun h => (List.prefix_iff_eq_take.mp h).symm⟩
  unfold Sql.slice Sql.arrayLength
  rw [if_neg hp, Option.map_some, Sql.eq_some, Option.some.injEq, Bool.eq_iff_iff,
    decide_eq_true_iff, htake, List.isPrefixOf_iff_prefix]

/-- The condition of a scan is the one rows are matched by.
Source: `rollout-storage/src/postgres/mod.rs` `scan_bytes`. Kind: P -/
theorem inRange_iff {pfx : StorageKey} {v : Bytes} :
    inRange pfx (rowOf key v) = some true ↔ rowHasPrefix key pfx = true := by
  have hrun : decide (key.runId.map ulidToUuid = pfx.runId.map ulidToUuid) =
      decide (key.runId = pfx.runId) :=
    decide_eq_decide.mpr (Option.map_injective ulidToUuid_injective).eq_iff
  unfold inRange rowHasPrefix rowOf Sql.isNotDistinctFrom
  by_cases hp : pfx.path = []
  · simp [hp, hrun]
  · simp [hp, hrun, slice_iff]

/-- **A scan lists the entries of the rows in range**, as long as the table has fewer rows than the
largest limit. Source: `rollout-storage/src/postgres/mod.rs` `scan_bytes`. Kind: P -/
theorem scanBytes_eq {m : StorageKey → Option Bytes} (h : t.Represents m) {pfx : StorageKey}
    (hpfx : pfx.validateForPostgres = .ok ()) (hrows : t.rows.length < 2 ^ 63) :
    ∃ res, scanBytes ⟨pfx, none⟩ t = .ok res ∧
      ∀ key v, (key, v) ∈ res ↔ m key = some v ∧ rowHasPrefix key pfx = true := by
  subst h
  have hlen : (t.select (inRange pfx)).length ≤ rowLimit none := by
    have := List.length_filter_le (fun row => inRange pfx row == some true) t.rows
    unfold KvTable.select rowLimit
    simp only [Option.getD_none, Nat.min_self]
    omega
  refine ⟨(t.select (inRange pfx)).map entryOf, ?_, fun key v => ?_⟩
  · unfold scanBytes
    rw [hpfx]
    simp only [bind, Except.bind, List.take_of_length_le hlen]
    rfl
  · rw [fetchOptional_iff, ← inRange_iff (v := v), ← t.mem_select, List.mem_map]
    constructor
    · rintro ⟨row, hrow, hentry⟩
      have := rowOf_entryOf row
      rw [hentry] at this
      exact this ▸ hrow
    · intro hrow
      exact ⟨rowOf key v, hrow, entryOf_rowOf key v⟩

end PostgresStorage

/-! ## The two storages -/

/-- The keys both storages take. Source: `rollout-storage/src/embedded/tables.rs` `table_for`,
`rollout-core/src/traits/storage.rs` `validate_for_postgres`. Kind: D -/
def Accepted (key : StorageKey) : Prop :=
  key.ns ∈ allTables ∧ key.validateForPostgres = .ok ()

/-- What is asked of both: transactions and reads over keys they take.
Source: none: infrastructure. Kind: D -/
def AcceptedCall (c : TxnCall StorageKey Bytes) : Prop :=
  TxnStore.Accepts Accepted (fun key => key.ns ∈ EmbeddedStorage.manyNamespaces) c

theorem acceptedCall_embedded {c : TxnCall StorageKey Bytes} (h : AcceptedCall c) :
    TxnStore.Accepts (fun key => key.ns ∈ allTables)
      (fun key => key.ns ∈ EmbeddedStorage.manyNamespaces) c := by
  cases c with
  | txn ops fin => exact fun op hop => (h op hop).1
  | get key => exact h.1
  | getMany keys => exact fun key hkey => ⟨(h key hkey).1.1, (h key hkey).2⟩

theorem acceptedCall_postgres {c : TxnCall StorageKey Bytes} (h : AcceptedCall c) :
    TxnStore.Accepts (fun key => key.validateForPostgres = .ok ()) (fun _ => True) c := by
  cases c with
  | txn ops fin => exact fun op hop => (h op hop).2
  | get key => exact h.2
  | getMany keys => exact fun key hkey => ⟨(h key hkey).1.2, trivial⟩

/-- The plain map of keys to values. Source: `rollout-core/src/traits/storage.rs` `Storage`.
Kind: D -/
abbrev plainMap := TxnStore.plain StorageKey Bytes CoreError

/-- What a history leaves on both storages represents what it leaves of the plain map, and all
three answer alike. Source: none: infrastructure. Kind: P -/
theorem runs_agree {calls : List (TxnCall StorageKey Bytes)}
    (hcalls : ∀ c ∈ calls, AcceptedCall c) :
    ∃ answers db t m, EmbeddedStorage.store.run calls (∅ : EmbeddedStorage) = .ok (answers, db) ∧
      PostgresStorage.store.run calls (∅ : KvTable) = .ok (answers, t) ∧
      plainMap.run calls (fun _ => none) = .ok (answers, m) ∧
      EmbeddedStorage.Represents db m ∧ PostgresStorage.Represents t m := by
  obtain ⟨answers, db, m, hdb, hplain, hrep⟩ :=
    EmbeddedStorage.refines.run_eq EmbeddedStorage.represents_empty fun c hc =>
      acceptedCall_embedded (hcalls c hc)
  obtain ⟨answers', t, m', ht, hplain', hrep'⟩ :=
    PostgresStorage.refines.run_eq (s := (∅ : KvTable)) (m := fun _ => none) rfl
      fun c hc => acceptedCall_postgres (hcalls c hc)
  rw [hplain] at hplain'
  cases hplain'
  exact ⟨answers, db, t, m, hdb, ht, hplain, hrep, hrep'⟩

/-- **Both storages implement the plain map**: whatever the transactions, one after another, their
swaps, the reads between them and the reads of several keys give what the plain map gives.
Source: `rollout-storage/src/embedded/txn.rs`, `rollout-storage/src/postgres/mod.rs`. Kind: C -/
theorem storages_agree {calls : List (TxnCall StorageKey Bytes)}
    (hcalls : ∀ c ∈ calls, AcceptedCall c) : ∃ answers,
      (EmbeddedStorage.store.run calls (∅ : EmbeddedStorage)).map Prod.fst = .ok answers ∧
      (PostgresStorage.store.run calls (∅ : KvTable)).map Prod.fst = .ok answers ∧
      (plainMap.run calls fun _ => none).map Prod.fst = .ok answers := by
  obtain ⟨answers, db, t, m, hdb, ht, hplain, -, -⟩ := runs_agree hcalls
  refine ⟨answers, ?_, ?_, ?_⟩
  · rw [hdb]; rfl
  · rw [ht]; rfl
  · rw [hplain]; rfl

/-- A row without a run. Source: none: infrastructure. Kind: D -/
def globalKey : StorageKey := ⟨"epoch", none, ["a"]⟩

/-- A row of a run, at the same path. Source: none: infrastructure. Kind: D -/
def runKey : StorageKey := ⟨"epoch", some ⟨⟨7⟩⟩, ["a"]⟩

theorem accepted_globalKey : Accepted globalKey := ⟨by decide, rfl⟩

theorem accepted_runKey : Accepted runKey := ⟨by decide, rfl⟩

theorem storages_agree_swapped : ∃ answers,
    (EmbeddedStorage.store.run [.txn [.put globalKey [1], .cas globalKey (some [1]) none] .commit,
      .getMany [globalKey]] (∅ : EmbeddedStorage)).map Prod.fst = .ok answers ∧
    (PostgresStorage.store.run [.txn [.put globalKey [1], .cas globalKey (some [1]) none] .commit,
      .getMany [globalKey]] (∅ : KvTable)).map Prod.fst = .ok answers ∧
    (plainMap.run [.txn [.put globalKey [1], .cas globalKey (some [1]) none] .commit,
      .getMany [globalKey]] fun _ => none).map Prod.fst = .ok answers := by
  refine storages_agree fun c hc => ?_
  simp only [List.mem_cons, List.not_mem_nil, or_false] at hc
  rcases hc with rfl | rfl
  · intro op hop
    simp only [List.mem_cons, List.not_mem_nil, or_false] at hop
    rcases hop with rfl | rfl
    · exact accepted_globalKey
    · exact accepted_globalKey
  · intro key hkey
    rw [List.mem_singleton.mp hkey]
    exact ⟨accepted_globalKey, by decide⟩

/-! ## Their scans -/

/-- Both scans succeed and list the same entries.
Source: `rollout-storage/tests/postgres_scan_bytes_parity.rs` `scan_bytes_wildcard_parity`.
Kind: D -/
def SameScan (pfx : StorageKey) (db : EmbeddedStorage) (t : PostgresStorage) : Prop :=
  ∃ es ps, db.scanBytes ⟨pfx, none⟩ = .ok es ∧ t.scanBytes ⟨pfx, none⟩ = .ok ps ∧
    ∀ e, e ∈ es ↔ e ∈ ps

/-- The rows in range are the keys in range whose run is the prefix's.
Source: `rollout-storage/src/postgres/mod.rs` `scan_bytes`. Kind: L -/
theorem rowHasPrefix_iff {key pfx : StorageKey} :
    rowHasPrefix key pfx = true ↔ keyHasPrefix key pfx = true ∧ key.runId = pfx.runId := by
  unfold rowHasPrefix keyHasPrefix
  by_cases hns : key.ns = pfx.ns
  · cases hrun : pfx.runId with
    | none => simp [hns, and_comm]
    | some r =>
        simp only [hns, decide_true, Bool.true_and, ne_eq, not_true_eq_false, if_false,
          Bool.and_eq_true, decide_eq_true_eq]
        exact ⟨fun h => ⟨h, h.1⟩, And.left⟩
  · simp [hns]

theorem runId_of_keyHasPrefix {key pfx : StorageKey} {r : RunId} (h : keyHasPrefix key pfx = true)
    (hrun : pfx.runId = some r) : key.runId = some r := by
  unfold keyHasPrefix at h
  simp only [hrun] at h
  split at h
  · cases h
  · rw [Bool.and_eq_true, decide_eq_true_eq] at h
    exact h.1

/-- When the scans of two storages that hold the same map agree.
Source: `rollout-storage/src/embedded/mod.rs`, `rollout-storage/src/postgres/mod.rs` `scan_bytes`.
Kind: P -/
theorem sameScan_iff {db : EmbeddedStorage} {t : PostgresStorage} {m : StorageKey → Option Bytes}
    (hdb : EmbeddedStorage.Represents db m) (ht : PostgresStorage.Represents t m)
    (hrows : t.rows.length < 2 ^ 63) (pfx : StorageKey) :
    SameScan pfx db t ↔ Accepted pfx ∧ (pfx.runId = none →
      ∀ key v, m key = some v → keyHasPrefix key pfx = true → key.runId = none) := by
  constructor
  · rintro ⟨es, ps, hes, hps, hsame⟩
    have hns : pfx.ns ∈ allTables := by
      by_contra hns
      rw [EmbeddedStorage.scanBytes, tableFor, if_neg hns] at hes
      cases hes
    have hvalid : pfx.validateForPostgres = .ok () := by
      cases hv : pfx.validateForPostgres with
      | ok u => rfl
      | error e =>
          rw [PostgresStorage.scanBytes, hv] at hps
          cases hps
    refine ⟨⟨hns, hvalid⟩, fun hrun key v hm hp => ?_⟩
    obtain ⟨es', hes', hmem⟩ := EmbeddedStorage.scanBytes_eq hdb hns
    obtain ⟨ps', hps', hmem'⟩ := PostgresStorage.scanBytes_eq ht hvalid hrows
    rw [hes] at hes'
    rw [hps] at hps'
    cases hes'
    cases hps'
    have hlisted := (hsame (key, v)).mp ((hmem key v).mpr ⟨hm, hp⟩)
    exact (rowHasPrefix_iff.mp ((hmem' key v).mp hlisted).2).2.trans hrun
  · rintro ⟨⟨hns, hvalid⟩, hrun⟩
    obtain ⟨es, hes, hmem⟩ := EmbeddedStorage.scanBytes_eq hdb hns
    obtain ⟨ps, hps, hmem'⟩ := PostgresStorage.scanBytes_eq ht hvalid hrows
    refine ⟨es, ps, hes, hps, Prod.forall.mpr fun key v => ?_⟩
    rw [hmem, hmem', rowHasPrefix_iff]
    refine and_congr_right fun hm => ⟨fun hp => ⟨hp, ?_⟩, And.left⟩
    cases hpfx : pfx.runId with
    | none => exact hrun hpfx key v hm hp
    | some r => exact runId_of_keyHasPrefix hp hpfx

/-- **The scans of the two storages list the same entries exactly when** both take the prefix and
it names a run, or no stored key of a run extends it.
Source: `rollout-storage/src/embedded/mod.rs`, `rollout-storage/src/postgres/mod.rs` `scan_bytes`,
`rollout-storage/src/encoding.rs` `key_has_prefix`. Kind: C -/
theorem scans_agree_iff {calls : List (TxnCall StorageKey Bytes)}
    (hcalls : ∀ c ∈ calls, AcceptedCall c) {answers : List (TxnAnswer Bytes)}
    {db : EmbeddedStorage} {t : PostgresStorage} {m : StorageKey → Option Bytes}
    (hdb : EmbeddedStorage.store.run calls (∅ : EmbeddedStorage) = .ok (answers, db))
    (ht : PostgresStorage.store.run calls (∅ : KvTable) = .ok (answers, t))
    (hm : plainMap.run calls (fun _ => none) = .ok (answers, m))
    (hrows : t.rows.length < 2 ^ 63) (pfx : StorageKey) :
    SameScan pfx db t ↔ Accepted pfx ∧ (pfx.runId = none →
      ∀ key v, m key = some v → keyHasPrefix key pfx = true → key.runId = none) := by
  obtain ⟨answers', db', t', m', hdb', ht', hm', hdbm, htm⟩ := runs_agree hcalls
  rw [hdb] at hdb'
  rw [ht] at ht'
  rw [hm] at hm'
  cases hdb'
  cases ht'
  cases hm'
  exact sameScan_iff hdbm htm hrows pfx

/-- One row of a run. Source: none: infrastructure. Kind: D -/
def oneRunRow : List (TxnCall StorageKey Bytes) := [.txn [.put runKey [1]] .commit]

theorem acceptedCall_oneRunRow : ∀ c ∈ oneRunRow, AcceptedCall c := by
  intro c hc
  rw [List.mem_singleton.mp hc]
  intro op hop
  rw [List.mem_singleton.mp hop]
  exact accepted_runKey

theorem scans_agree_in_run : ∃ db t,
    (EmbeddedStorage.store.run oneRunRow (∅ : EmbeddedStorage)).map Prod.snd = .ok db ∧
    (PostgresStorage.store.run oneRunRow (∅ : KvTable)).map Prod.snd = .ok t ∧
    SameScan runKey db t := by
  obtain ⟨answers, db, t, m, hdb, ht, hm, -, -⟩ := runs_agree acceptedCall_oneRunRow
  have hrows : t.rows.length < 2 ^ 63 := by
    cases ht
    decide
  exact ⟨db, t, by rw [hdb]; rfl, by rw [ht]; rfl,
    (scans_agree_iff acceptedCall_oneRunRow hdb ht hm hrows runKey).mpr
    ⟨accepted_runKey, fun h => nomatch h⟩⟩

/-- **A scan over all runs** finds the row of a run on the embedded storage and not on Postgres.
Source: `rollout-storage/src/postgres/mod.rs` `scan_bytes` (`IS NOT DISTINCT FROM`). Kind: C -/
theorem wildcard_scan_differs : ∃ db t,
    (EmbeddedStorage.store.run oneRunRow (∅ : EmbeddedStorage)).map Prod.snd = .ok db ∧
    (PostgresStorage.store.run oneRunRow (∅ : KvTable)).map Prod.snd = .ok t ∧
    Accepted globalKey ∧ ¬ SameScan globalKey db t := by
  obtain ⟨answers, db, t, m, hdb, ht, hm, hdbm, htm⟩ := runs_agree acceptedCall_oneRunRow
  have hrows : t.rows.length < 2 ^ 63 := by
    cases ht
    decide
  refine ⟨db, t, by rw [hdb]; rfl, by rw [ht]; rfl, accepted_globalKey, fun hsame => ?_⟩
  have hrun := ((sameScan_iff hdbm htm hrows globalKey).mp hsame).2 rfl runKey [1] (by cases hm; rfl)
    (by decide)
  cases hrun

end Rollout.Backends
