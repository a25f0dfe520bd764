import Rollout.Storage.Backends
import Rollout.Lib.TxnStore

/-!
# The embedded storage in its tables

One table per namespace, from encoded keys to values.

* `encodeKey`, `decodeKeyPayload` — the bytes under which a key is stored in its table.
* `EmbeddedStorage` — the statements and reads over the tables. `EmbeddedStorage.store` packs them
  up; `EmbeddedStorage.refines`: they represent the plain map on the keys of registered namespaces.
* `EmbeddedStorage.scanBytes` — a scan; `EmbeddedStorage.scanBytes_sorted`: it lists the entries of
  the keys that extend the prefix, in the order of the encoded keys.
-/

set_option linter.unusedSectionVars false

namespace Rollout.Backends

open Rollout.Lib Rollout.Core

/-! ## Keys in a table -/

/-- The run and the path of a key. Source: `rollout-storage/src/encoding.rs` `encode_key`.
Kind: D -/
def keyCodec : Codec (Option RunId × List String) :=
  RunId.codec.option.prod (Codec.list Codec.string)

/-- A key without its namespace, which picks the table.
Source: `rollout-storage/src/encoding.rs` `encode_key`. Kind: D -/
def encodeKey (key : StorageKey) : Bytes := keyCodec.enc (key.runId, key.path)

/-- The run and the path of an encoded key.
Source: `rollout-storage/src/encoding.rs` `decode_key_payload`. Kind: D -/
def decodeKeyPayload (bytes : Bytes) : Except CoreError (Option RunId × List String) :=
  match keyCodec.fromBytes bytes with
  | some payload => .ok payload
  | none => .error (.internal "postcard key: ")

@[simp] theorem decodeKeyPayload_encodeKey (key : StorageKey) :
    decodeKeyPayload (encodeKey key) = .ok (key.runId, key.path) := by
  unfold decodeKeyPayload encodeKey
  rw [Codec.fromBytes_enc]

theorem encodeKey_inj {a b : StorageKey} (hns : a.ns = b.ns) : encodeKey a = encodeKey b ↔ a = b := by
  obtain ⟨na, ra, pa⟩ := a
  obtain ⟨nb, rb, pb⟩ := b
  unfold encodeKey
  rw [Codec.enc_inj]
  simp only [StorageKey.mk.injEq, Prod.mk.injEq]
  exact ⟨fun h => ⟨hns, h⟩, fun h => h.2⟩

/-- A table. Source: `rollout-storage/src/embedded/tables.rs` `BytesTable`. Kind: D -/
abbrev BytesTable := KV Bytes Bytes

/-- The order of the keys. Source: `rollout-storage/src/embedded/mod.rs` `scan_bytes`. Kind: D -/
def keyLe (a b : Bytes × Bytes) : Bool := decide (a.1 ≤ b.1)

/-- The entries of a table in the order of their keys.
Source: `rollout-storage/src/embedded/mod.rs` `scan_bytes` (`table.iter`). Kind: D -/
def BytesTable.iter (t : BytesTable) : List (Bytes × Bytes) :=
  (t.scan fun _ => true).mergeSort keyLe

theorem BytesTable.mem_iter {t : BytesTable} {e : Bytes × Bytes} : e ∈ t.iter ↔ t.get e.1 = some e.2 := by
  unfold BytesTable.iter
  rw [List.mem_mergeSort, KV.mem_scan]
  simp

/-- The entries are in the order of their keys. Source: `rollout-storage/src/embedded/mod.rs`
`scan_bytes` (`table.iter`). Kind: L -/
theorem BytesTable.pairwise_iter (t : BytesTable) : t.iter.Pairwise fun a b => a.1 < b.1 := by
  unfold BytesTable.iter
  have hsorted := List.pairwise_mergeSort
    (fun a b c (hab : keyLe a b) hbc =>
      decide_eq_true (List.le_trans (of_decide_eq_true hab) (of_decide_eq_true hbc)))
    (fun a b => by simpa [keyLe] using List.le_total a.1 b.1) (t.scan fun _ => true)
  have hnodup : ((t.scan fun _ => true).mergeSort keyLe).Pairwise fun a b => a.1 ≠ b.1 := by
    have hperm := (List.mergeSort_perm (t.scan fun _ => true) keyLe).map Prod.fst
    exact List.pairwise_map.mp (hperm.nodup_iff.mpr (t.nodup_scan _))
  exact (hsorted.and hnodup).imp fun h => Std.lt_of_le_of_ne (of_decide_eq_true h.1) h.2

/-! ## The storage -/

/-- The tables by namespace; one that was never opened for writing is not there.
Source: `rollout-storage/src/embedded/mod.rs` `EmbeddedStorage`. Kind: D -/
abbrev EmbeddedStorage := KV String BytesTable

namespace EmbeddedStorage

/-- A table opened for writing. Source: `rollout-storage/src/embedded/txn.rs` (`open_table`).
Kind: D -/
def openTable (db : EmbeddedStorage) (ns : String) : BytesTable := (KV.get db ns).getD ∅

/-- Source: `rollout-storage/src/embedded/txn.rs` `put_bytes`. Kind: D -/
def putBytes (key : StorageKey) (value : Bytes) (db : EmbeddedStorage) :
    Except CoreError EmbeddedStorage := do
  tableFor key.ns
  return KV.put db key.ns ((db.openTable key.ns).put (encodeKey key) value)

/-- Source: `rollout-storage/src/embedded/txn.rs` `delete`. Kind: D -/
def delete (key : StorageKey) (db : EmbeddedStorage) : Except CoreError EmbeddedStorage := do
  tableFor key.ns
  return KV.put db key.ns ((db.openTable key.ns).del (encodeKey key))

/-- Source: `rollout-storage/src/embedded/txn.rs` `cas_bytes`. Kind: D -/
def casBytes (key : StorageKey) (expected new : Option Bytes) (db : EmbeddedStorage) :
    Except CoreError (Bool × EmbeddedStorage) := do
  tableFor key.ns
  let table := db.openTable key.ns
  let current := table.get (encodeKey key)
  if current ≠ expected then
    return (false, KV.put db key.ns table)
  match new with
  | some value => return (true, KV.put db key.ns (table.put (encodeKey key) value))
  | none =>
      if current.isSome then
        return (true, KV.put db key.ns (table.del (encodeKey key)))
      else
        return (true, KV.put db key.ns table)

/-- Source: `rollout-storage/src/embedded/mod.rs` `get_bytes`. Kind: D -/
def getBytes (key : StorageKey) (db : EmbeddedStorage) : Except CoreError (Option Bytes) := do
  tableFor key.ns
  return (KV.get db key.ns).bind fun table => table.get (encodeKey key)

/-- The namespaces reads of several keys name; the last registered one is missing.
Source: `rollout-storage/src/embedded/mod.rs` `get_many_bytes`. Kind: D -/
def manyNamespaces : List String :=
  ["runs", "workers", "heartbeats", "queue", "plugins", "cloudlocal_queue", "infer", "snapshots",
    "coordinator_lease", "epoch", "work", "queue_items"]

/-- The positions of the keys, by namespace; a registered namespace it does not name ends the task
that groups them. Source: `rollout-storage/src/embedded/mod.rs` `get_many_bytes`. Kind: D -/
def byTable : Nat → List StorageKey → KV String (List Nat) → Except CoreError (KV String (List Nat))
  | _, [], groups => .ok groups
  | i, key :: keys, groups => do
      tableFor key.ns
      if key.ns ∈ manyNamespaces then
        byTable (i + 1) keys (groups.put key.ns ((groups.get key.ns).getD [] ++ [i]))
      else throw (.internal "join: ")

/-- Read the keys at some positions from a table.
Source: `rollout-storage/src/embedded/mod.rs` `get_many_bytes`. Kind: D -/
def fill (table : BytesTable) (keys : List StorageKey) (out : List (Option Bytes))
    (idxs : List Nat) :
    List (Option Bytes) :=
  idxs.foldl (fun out i => match keys[i]?.bind fun key => table.get (encodeKey key) with
    | some value => out.set i (some value)
    | none => out) out

/-- Read several keys, opening each table once.
Source: `rollout-storage/src/embedded/mod.rs` `get_many_bytes`. Kind: D -/
def getManyBytes (keys : List StorageKey) (db : EmbeddedStorage) :
    Except CoreError (List (Option Bytes)) := do
  let groups ← byTable 0 keys ∅
  return (groups.scan fun _ => true).foldl (fun out group => match KV.get db group.1 with
    | some table => fill table keys out group.2
    | none => out) (List.replicate keys.length none)

/-- The loop of a scan: the entries to come and those taken; the limit is tested after an entry has
been taken. Source: `rollout-storage/src/embedded/mod.rs` `scan_bytes`. Kind: D -/
def scanEntries (pfx : StorageKey) (limit : Option Nat) :
    List (Bytes × Bytes) → List (StorageKey × Bytes) → Except CoreError (List (StorageKey × Bytes))
  | [], out => .ok out
  | entry :: entries, out => do
      let (runId, path) ← decodeKeyPayload entry.1
      let candidate : StorageKey := ⟨pfx.ns, runId, path⟩
      if keyHasPrefix candidate pfx then
        let out := out ++ [(candidate, entry.2)]
        if limit.any fun n => decide (out.length ≥ n) then return out
        else scanEntries pfx limit entries out
      else scanEntries pfx limit entries out

/-- Source: `rollout-storage/src/embedded/mod.rs` `scan_bytes`. Kind: D -/
def scanBytes (range : KeyRange) (db : EmbeddedStorage) :
    Except CoreError (List (StorageKey × Bytes)) := do
  tableFor range.pfx.ns
  match KV.get db range.pfx.ns with
  | none => return []
  | some table => scanEntries range.pfx range.limit table.iter []

/-- The storage as a store of transactions.
Source: `rollout-storage/src/embedded/mod.rs` `EmbeddedStorage`. Kind: D -/
@[reducible] def store : TxnStore StorageKey Bytes CoreError where
  State := EmbeddedStorage
  Work := EmbeddedStorage
  begin db := db
  put := putBytes
  delete := delete
  cas := casBytes
  commit db := db
  get := getBytes
  getMany := getManyBytes

/-! ## What the tables hold -/

/-- The value at a key. Source: none: infrastructure. Kind: D -/
def contents (db : EmbeddedStorage) (key : StorageKey) : Option Bytes :=
  (KV.get db key.ns).bind fun table => table.get (encodeKey key)

/-- Every entry is under the encoding of a key of its namespace.
Source: none: infrastructure. Kind: D -/
def Coded (db : EmbeddedStorage) : Prop :=
  ∀ ns table, KV.get db ns = some table → ∀ kb v, table.get kb = some v →
    ∃ key : StorageKey, key.ns = ns ∧ encodeKey key = kb

variable {db : EmbeddedStorage} {key : StorageKey}

theorem get_openTable (db : EmbeddedStorage) (key : StorageKey) :
    (db.openTable key.ns).get (encodeKey key) = db.contents key := by
  unfold openTable contents
  cases KV.get db key.ns <;> simp

theorem contents_put_table (db : EmbeddedStorage) (ns : String) (table : BytesTable)
    (key : StorageKey) : contents (KV.put db ns table) key =
      if key.ns = ns then table.get (encodeKey key) else db.contents key := by
  unfold contents
  rw [KV.get_put]
  by_cases h : key.ns = ns
  · rw [if_pos h, if_pos h]
    rfl
  · rw [if_neg h, if_neg h]

/-- Setting one entry of one table sets one key. Source: none: infrastructure. Kind: L -/
theorem contents_set (db : EmbeddedStorage) (key : StorageKey) (o : Option Bytes) :
    contents (KV.put db key.ns (KV.set (db.openTable key.ns) (encodeKey key) o)) =
      Function.update db.contents key o := by
  funext key'
  rw [contents_put_table]
  by_cases hns : key'.ns = key.ns
  · rw [if_pos hns, KV.get_set]
    by_cases hkey : key' = key
    · subst hkey
      rw [if_pos rfl, Function.update_self]
    · rw [if_neg (mt (encodeKey_inj hns).mp hkey), Function.update_of_ne hkey, ← hns, get_openTable]
  · have hkey : key' ≠ key := fun h => hns (congrArg StorageKey.ns h)
    rw [if_neg hns, Function.update_of_ne hkey]

theorem contents_open (db : EmbeddedStorage) (ns : String) :
    contents (KV.put db ns (db.openTable ns)) = db.contents := by
  funext key
  rw [contents_put_table]
  by_cases hns : key.ns = ns
  · subst hns
    rw [if_pos rfl, get_openTable]
  · rw [if_neg hns]

theorem Coded.openTable (h : Coded db) {ns : String} {kb v : Bytes}
    (hget : (db.openTable ns).get kb = some v) :
    ∃ key : StorageKey, key.ns = ns ∧ encodeKey key = kb := by
  unfold EmbeddedStorage.openTable at hget
  cases ht : KV.get db ns with
  | none => simp [ht] at hget
  | some table =>
      rw [ht] at hget
      exact h ns table ht kb v hget

theorem Coded.put_table (h : Coded db) {ns : String} {table : BytesTable}
    (htable : ∀ kb v, table.get kb = some v → ∃ key : StorageKey, key.ns = ns ∧ encodeKey key = kb) :
    Coded (KV.put db ns table) := by
  intro ns' table' ht kb v hget
  rw [KV.get_put] at ht
  by_cases hns : ns' = ns
  · subst hns
    rw [if_pos rfl] at ht
    cases ht
    exact htable kb v hget
  · rw [if_neg hns] at ht
    exact h ns' table' ht kb v hget

theorem Coded.set (h : Coded db) (key : StorageKey) (o : Option Bytes) :
    Coded (KV.put db key.ns (KV.set (db.openTable key.ns) (encodeKey key) o)) := by
  refine h.put_table fun kb v hget => ?_
  rw [KV.get_set] at hget
  by_cases hkb : kb = encodeKey key
  · exact ⟨key, rfl, hkb.symm⟩
  · rw [if_neg hkb] at hget
    exact h.openTable hget

theorem Coded.open (h : Coded db) (ns : String) : Coded (KV.put db ns (db.openTable ns)) :=
  h.put_table fun _ _ hget => h.openTable hget

theorem coded_empty : Coded ∅ := by
  intro ns table ht
  rw [KV.get_empty] at ht
  cases ht

/-- The tables represent a map. Source: none: infrastructure. Kind: D -/
def Represents (db : EmbeddedStorage) (m : StorageKey → Option Bytes) : Prop :=
  db.contents = m ∧ Coded db

theorem represents_empty : Represents ∅ fun _ => none := by
  refine ⟨funext fun key => ?_, coded_empty⟩
  rw [contents, KV.get_empty]
  rfl

theorem Represents.set {m : StorageKey → Option Bytes} (h : db.Represents m) (key : StorageKey)
    (o : Option Bytes) :
    Represents (KV.put db key.ns (KV.set (db.openTable key.ns) (encodeKey key) o))
      (Function.update m key o) := by
  obtain ⟨rfl, hcoded⟩ := h
  exact ⟨contents_set db key o, hcoded.set key o⟩

theorem Represents.open {m : StorageKey → Option Bytes} (h : db.Represents m) (ns : String) :
    Represents (KV.put db ns (db.openTable ns)) m := by
  obtain ⟨rfl, hcoded⟩ := h
  exact ⟨contents_open db ns, hcoded.open ns⟩

/-! ## Statements -/

theorem tableFor_ok {ns : String} (h : ns ∈ allTables) : tableFor ns = .ok () := if_pos h

theorem putBytes_eq (h : key.ns ∈ allTables) (value : Bytes) (db : EmbeddedStorage) :
    putBytes key value db =
      .ok (KV.put db key.ns (KV.set (db.openTable key.ns) (encodeKey key) (some value))) := by
  unfold putBytes
  rw [tableFor_ok h]
  rfl

theorem delete_eq (h : key.ns ∈ allTables) (db : EmbeddedStorage) : delete key db =
    .ok (KV.put db key.ns (KV.set (db.openTable key.ns) (encodeKey key) none)) := by
  unfold delete
  rw [tableFor_ok h]
  rfl

theorem casBytes_of_ne (h : key.ns ∈ allTables) {expected : Option Bytes}
    (hne : db.contents key ≠ expected) (new : Option Bytes) :
    casBytes key expected new db = .ok (false, KV.put db key.ns (db.openTable key.ns)) := by
  unfold casBytes
  rw [tableFor_ok h]
  simp only [get_openTable, bind, Except.bind, if_pos hne]
  rfl

theorem casBytes_some (h : key.ns ∈ allTables) (db : EmbeddedStorage) (value : Bytes) :
    casBytes key (db.contents key) (some value) db =
      .ok (true, KV.put db key.ns (KV.set (db.openTable key.ns) (encodeKey key) (some value))) := by
  unfold casBytes
  rw [tableFor_ok h]
  simp only [get_openTable, bind, Except.bind, ne_eq, not_true_eq_false, if_false]
  rfl

theorem casBytes_none (h : key.ns ∈ allTables) (db : EmbeddedStorage) :
    casBytes key (db.contents key) none db =
      .ok (true, if (db.contents key).isSome then
        KV.put db key.ns (KV.set (db.openTable key.ns) (encodeKey key) none)
        else KV.put db key.ns (db.openTable key.ns)) := by
  unfold casBytes
  rw [tableFor_ok h]
  simp only [get_openTable, bind, Except.bind, ne_eq, not_true_eq_false, if_false]
  split <;> rfl

theorem getBytes_eq (h : key.ns ∈ allTables) (db : EmbeddedStorage) :
    getBytes key db = .ok (db.contents key) := by
  unfold getBytes
  rw [tableFor_ok h]
  rfl

/-! ## Reads of several keys -/

section many

/-- The positions in `done` hold what `m` has at their keys, the others nothing yet.
Source: `rollout-storage/src/embedded/mod.rs` `get_many_bytes`. Kind: D -/
def Filled (keys : List StorageKey) (m : StorageKey → Option Bytes) (done : Nat → Prop)
    (out : List (Option Bytes)) : Prop :=
  ∀ j, (done j → out[j]? = keys[j]?.map m) ∧ (¬ done j → out[j]? = keys[j]?.map fun _ => none)

variable {keys : List StorageKey} {m : StorageKey → Option Bytes} {done : Nat → Prop}
  {out : List (Option Bytes)}

/-- One position is read. Source: `rollout-storage/src/embedded/mod.rs` `get_many_bytes`.
Kind: P -/
theorem Filled.step (h : Filled keys m done out) {i : Nat} {look : StorageKey → Option Bytes}
    (hlook : keys[i]?.bind look = keys[i]?.bind m) :
    Filled keys m (fun j => done j ∨ j = i) (match keys[i]?.bind look with
      | some value => out.set i (some value)
      | none => out) := by
  have hlen : out[i]?.isSome = keys[i]?.isSome := by
    by_cases hi : done i
    · rw [(h i).1 hi, Option.isSome_map]
    · rw [(h i).2 hi, Option.isSome_map]
  rw [hlook]
  cases hkey : keys[i]? with
  | none =>
      intro j
      refine ⟨fun hj => ?_, fun hj => (h j).2 fun hd => hj (.inl hd)⟩
      rcases hj with hd | rfl
      · exact (h j).1 hd
      · rw [hkey, Option.isSome_none, Option.isSome_eq_false_iff, Option.isNone_iff_eq_none] at hlen
        simp [hlen, hkey]
  | some key =>
      rw [hkey] at hlen
      obtain ⟨o, ho⟩ := Option.isSome_iff_exists.mp hlen
      simp only [Option.bind_some]
      cases hm : m key with
      | none =>
          intro j
          refine ⟨fun hj => ?_, fun hj => (h j).2 fun hd => hj (.inl hd)⟩
          by_cases hd : done j
          · exact (h j).1 hd
          · rcases hj with hd' | rfl
            · exact absurd hd' hd
            · rw [(h j).2 hd, hkey, Option.map_some, Option.map_some, hm]
      | some value =>
          intro j
          by_cases hji : j = i
          · subst hji
            refine ⟨fun _ => ?_, fun hj => absurd (.inr rfl) hj⟩
            have hlt : j < out.length := (List.getElem?_eq_some_iff.mp ho).1
            simp [hlt, hkey, hm]
          · have hset : (out.set i (some value))[j]? = out[j]? :=
              List.getElem?_set_ne (Ne.symm hji)
            simp only [hset]
            exact ⟨fun hj => (h j).1 (hj.resolve_right hji),
              fun hj => (h j).2 fun hd => hj (.inl hd)⟩

theorem Filled.congr (h : Filled keys m done out) {done' : Nat → Prop}
    (hiff : ∀ j, done j ↔ done' j) : Filled keys m done' out := by
  intro j
  rw [← hiff j]
  exact h j

/-- A table read for the positions of its namespace.
Source: `rollout-storage/src/embedded/mod.rs` `get_many_bytes`. Kind: P -/
theorem Filled.fill (table : BytesTable) {idxs : List Nat}
    (hlook : ∀ i ∈ idxs, keys[i]?.bind (fun key => table.get (encodeKey key)) = keys[i]?.bind m)
    (h : Filled keys m done out) :
    Filled keys m (fun j => done j ∨ j ∈ idxs) (EmbeddedStorage.fill table keys out idxs) := by
  induction idxs generalizing done out with
  | nil => exact h.congr fun j => by simp
  | cons i idxs ih =>
      have hstep := h.step (hlook i (List.mem_cons_self ..))
      have hrest := ih (fun i' hi' => hlook i' (List.mem_cons_of_mem i hi')) hstep
      exact hrest.congr fun j => by rw [List.mem_cons, or_assoc]

theorem fill_empty {idxs : List Nat} : EmbeddedStorage.fill ∅ keys out idxs = out := by
  induction idxs with
  | nil => rfl
  | cons i idxs ih =>
      have hnone : (keys[i]?.bind fun key => KV.get (∅ : BytesTable) (encodeKey key)) = none := by
        simp
      rw [EmbeddedStorage.fill, List.foldl_cons, hnone]
      exact ih

theorem getElem?_concat_eq_some {α : Type} {l : List α} {a b : α} {j : Nat} :
    (l ++ [a])[j]? = some b ↔ l[j]? = some b ∨ j = l.length ∧ a = b := by
  rw [List.getElem?_append]
  by_cases hj : j < l.length
  · simp [hj, Nat.ne_of_lt hj]
  · have hnone : l[j]? = none := List.getElem?_eq_none (by omega)
    rw [if_neg hj, hnone]
    rcases Nat.lt_or_ge l.length j with h | h
    · have hne : j ≠ l.length := by omega
      have hout : ([a] : List α)[j - l.length]? = none :=
        List.getElem?_eq_none (by rw [List.length_singleton]; omega)
      simp [hne, hout]
    · have heq : j = l.length := by omega
      simp [heq]

/-- The groups cover the positions of the keys.
Source: `rollout-storage/src/embedded/mod.rs` `get_many_bytes`. Kind: P -/
theorem byTable_spec {all : List StorageKey} (hok : ∀ key ∈ all, key.ns ∈ allTables ∧
    key.ns ∈ manyNamespaces) : ∃ groups, byTable 0 all ∅ = .ok groups ∧
      ∀ ns j, j ∈ (groups.get ns).getD [] ↔ ∃ key, all[j]? = some key ∧ key.ns = ns := by
  have hloop : ∀ (pre rest : List StorageKey) (groups : KV String (List Nat)), all = pre ++ rest →
      (∀ ns j, j ∈ (groups.get ns).getD [] ↔ ∃ key, pre[j]? = some key ∧ key.ns = ns) →
      ∃ groups', byTable pre.length rest groups = .ok groups' ∧
        ∀ ns j, j ∈ (groups'.get ns).getD [] ↔ ∃ key, all[j]? = some key ∧ key.ns = ns := by
    intro pre rest
    induction rest generalizing pre with
    | nil =>
        intro groups hall hgroups
        rw [List.append_nil] at hall
        exact ⟨groups, rfl, hall ▸ hgroups⟩
    | cons key rest ih =>
        intro groups hall hgroups
        have hkey := hok key (hall ▸ List.mem_append_right pre (List.mem_cons_self ..))
        have hnext := ih (pre ++ [key])
          (groups.put key.ns ((groups.get key.ns).getD [] ++ [pre.length]))
          (by rw [hall, List.append_assoc]; rfl) (fun ns j => by
            simp only [getElem?_concat_eq_some, or_and_right, exists_or]
            rw [KV.get_put, ← hgroups]
            by_cases hns : ns = key.ns
            · subst hns
              rw [if_pos rfl, Option.getD_some, List.mem_append, List.mem_singleton]
              exact or_congr_right ⟨fun hj => ⟨key, ⟨hj, rfl⟩, rfl⟩, fun ⟨_, hj, _⟩ => hj.1⟩
            · rw [if_neg hns, iff_self_or]
              rintro ⟨_, ⟨-, rfl⟩, h⟩
              exact absurd h.symm hns)
        rw [List.length_append, List.length_singleton] at hnext
        obtain ⟨groups', hrun, hspec⟩ := hnext
        refine ⟨groups', ?_, hspec⟩
        rw [byTable, tableFor_ok hkey.1]
        simp only [bind, Except.bind, if_pos hkey.2]
        exact hrun
  exact hloop [] all ∅ rfl fun ns j => by simp

/-- **Reads of several keys read each of them.**
Source: `rollout-storage/src/embedded/mod.rs` `get_many_bytes`. Kind: P -/
theorem getManyBytes_eq (hok : ∀ key ∈ keys, key.ns ∈ allTables ∧ key.ns ∈ manyNamespaces)
    (db : EmbeddedStorage) : getManyBytes keys db = .ok (keys.map db.contents) := by
  obtain ⟨groups, hgroups, hspec⟩ := byTable_spec hok
  -- each group is read from its table, or stays empty when there is no table
  have hfold : ∀ (gs : List (String × List Nat)) (done : Nat → Prop) (out : List (Option Bytes)),
      (∀ g ∈ gs, groups.get g.1 = some g.2) → Filled keys db.contents done out →
      Filled keys db.contents (fun j => done j ∨ ∃ g ∈ gs, j ∈ g.2)
        (gs.foldl (fun out group => match KV.get db group.1 with
          | some table => EmbeddedStorage.fill table keys out group.2
          | none => out) out) := by
    intro gs
    induction gs with
    | nil =>
        intro done out _ h
        exact h.congr fun j => by simp
    | cons g gs ih =>
        intro done out hgs h
        have hns : ∀ i ∈ g.2, ∃ key, keys[i]? = some key ∧ key.ns = g.1 := fun i hi => by
          rw [← hspec, hgs g (List.mem_cons_self ..)]
          exact hi
        have hread : Filled keys db.contents (fun j => done j ∨ j ∈ g.2)
            (match KV.get db g.1 with
              | some table => EmbeddedStorage.fill table keys out g.2
              | none => out) := by
          have hlook : ∀ table, (KV.get db g.1).getD ∅ = table → ∀ i ∈ g.2,
              keys[i]?.bind (fun key => table.get (encodeKey key)) = keys[i]?.bind db.contents := by
            rintro _ rfl i hi
            obtain ⟨key, hkey, hk⟩ := hns i hi
            rw [hkey, Option.bind_some, Option.bind_some, ← get_openTable, hk]
            rfl
          cases ht : KV.get db g.1 with
          | some table => exact Filled.fill table (hlook table (by rw [ht]; rfl)) h
          | none =>
              have hempty := Filled.fill ∅ (hlook ∅ (by rw [ht]; rfl)) h
              have hsame : EmbeddedStorage.fill ∅ keys out g.2 = out := fill_empty
              rwa [hsame] at hempty
        have hrest := ih _ _ (fun g' hg' => hgs g' (List.mem_cons_of_mem g hg')) hread
        exact hrest.congr fun j => by simp [or_assoc]
  have hstart : Filled keys db.contents (fun _ => False) (List.replicate keys.length none) := by
    intro j
    refine ⟨False.elim, fun _ => ?_⟩
    by_cases hj : j < keys.length <;> simp [hj]
  have hdone := hfold (groups.scan fun _ => true) _ _
    (fun g hg => ((KV.mem_scan groups).mp hg).1) hstart
  unfold getManyBytes
  rw [hgroups]
  simp only [bind, Except.bind, pure, Except.pure]
  congr 1
  refine List.ext_getElem? fun j => ?_
  rw [List.getElem?_map]
  by_cases hcover : ∃ g ∈ groups.scan fun _ => true, j ∈ g.2
  · exact (hdone j).1 (.inr hcover)
  · -- a position outside every group is outside the keys
    have hout : keys[j]? = none := by
      rw [Option.eq_none_iff_forall_ne_some]
      intro key hkey
      have hmem := (hspec key.ns j).mpr ⟨key, hkey, rfl⟩
      cases hg : groups.get key.ns with
      | none => simp [hg] at hmem
      | some idxs =>
          rw [hg] at hmem
          exact hcover ⟨(key.ns, idxs), (KV.mem_scan groups).mpr ⟨hg, rfl⟩, hmem⟩
    rw [(hdone j).2 (by simpa using hcover), hout]
    rfl

end many

/-! ## The representation -/

/-- **The embedded storage represents the plain map** on the keys of registered namespaces.
Source: `rollout-storage/src/embedded/mod.rs`, `embedded/txn.rs`. Kind: P -/
def refines : store.Refines (fun key => key.ns ∈ allTables) (fun key => key.ns ∈ manyNamespaces) where
  rep := Represents
  work := Represents
  begin h := h
  put h hok := ⟨_, putBytes_eq hok _ _, h.set _ _⟩
  delete h hok := ⟨_, delete_eq hok _, h.set _ _⟩
  swap {db m key n} h hok := by
    have hm : db.contents key = m key := congrFun h.1 key
    cases n with
    | some value =>
        refine ⟨_, ?_, h.set key (some value)⟩
        rw [← hm]
        exact casBytes_some hok db value
    | none =>
        have hcas := casBytes_none hok db
        rw [hm] at hcas
        cases hcur : m key with
        | some value =>
            rw [hcur] at hcas
            exact ⟨_, hcas, h.set key none⟩
        | none =>
            -- nothing there, nothing to remove
            have hsame : Function.update m key none = m := by
              rw [← hcur, Function.update_eq_self]
            rw [hcur] at hcas
            rw [hsame]
            exact ⟨_, hcas, h.open key.ns⟩
  keep {db m key e n} h hok hne := by
    have hm : db.contents key = m key := congrFun h.1 key
    exact ⟨_, casBytes_of_ne hok (hm ▸ hne) n, h.open key.ns⟩
  commit h := h
  get h hok := by
    obtain ⟨rfl, -⟩ := h
    exact getBytes_eq hok _
  getMany h hok := by
    obtain ⟨rfl, -⟩ := h
    exact getManyBytes_eq hok _

theorem registered_of_ok {ns : String} {α : Type} {f : Unit → Except CoreError α} {a : α}
    (h : (tableFor ns).bind f = .ok a) : ns ∈ allTables := by
  by_contra hns
  rw [tableFor, if_neg hns] at h
  cases h

/-- **The entries stay under encoded keys**, whatever the keys of the statements.
Source: `rollout-storage/src/embedded/txn.rs`. Kind: P -/
def codedInvariant : store.Invariant where
  state := Coded
  work := Coded
  begin h := h
  put {db db' key v} h hput := by
    change putBytes key v db = .ok db' at hput
    rw [putBytes_eq (registered_of_ok hput)] at hput
    cases hput
    exact h.set key (some v)
  delete {db db' key} h hdel := by
    change delete key db = .ok db' at hdel
    rw [delete_eq (registered_of_ok hdel)] at hdel
    cases hdel
    exact h.set key none
  cas {db db' key e n b} h hcas := by
    change casBytes key e n db = .ok (b, db') at hcas
    have hns : key.ns ∈ allTables := registered_of_ok hcas
    by_cases he : db.contents key = e
    · subst he
      cases n with
      | some value =>
          rw [casBytes_some hns] at hcas
          cases hcas
          exact h.set key (some value)
      | none =>
          rw [casBytes_none hns] at hcas
          cases hcas
          split
          · exact h.set key none
          · exact h.open key.ns
    · rw [casBytes_of_ne hns he] at hcas
      cases hcas
      exact h.open key.ns
  commit h := h

/-! ## Scans -/

/-- An entry of the table, as a key and as the bytes it is stored under.
Source: `rollout-storage/src/embedded/mod.rs` `scan_bytes`. Kind: D -/
def rawEntry (e : StorageKey × Bytes) : Bytes × Bytes := (encodeKey e.1, e.2)

/-- The loop of a scan takes the entries in range, in the order in which they come.
Source: `rollout-storage/src/embedded/mod.rs` `scan_bytes`. Kind: P -/
theorem scanEntries_spec {pfx : StorageKey} {entries : List (Bytes × Bytes)}
    (hcoded : ∀ e ∈ entries, ∃ key : StorageKey, key.ns = pfx.ns ∧ encodeKey key = e.1)
    (out : List (StorageKey × Bytes)) : ∃ taken,
      scanEntries pfx none entries out = .ok (out ++ taken) ∧
      (taken.map rawEntry).Sublist entries ∧
      ∀ e, e ∈ taken ↔ rawEntry e ∈ entries ∧ keyHasPrefix e.1 pfx = true := by
  induction entries generalizing out with
  | nil => exact ⟨[], by rw [List.append_nil]; rfl, List.Sublist.refl [], fun e => by simp⟩
  | cons e entries ih =>
      obtain ⟨kb, v⟩ := e
      obtain ⟨key, hns, rfl⟩ := hcoded (kb, v) (List.mem_cons_self ..)
      have hcand : (⟨pfx.ns, key.runId, key.path⟩ : StorageKey) = key := by rw [← hns]
      have hrest := fun out => ih (fun e he => hcoded e (List.mem_cons_of_mem _ he)) out
      rw [scanEntries, decodeKeyPayload_encodeKey]
      simp only [bind, Except.bind, hcand, Option.any_none, Bool.false_eq_true, if_false]
      -- an entry in range is the one at the head exactly when its key and value are
      have hhead : ∀ e', keyHasPrefix e'.1 pfx = true →
          (rawEntry e' = (encodeKey key, v) ↔ e' = (key, v)) := by
        intro e' hp
        rw [rawEntry, Prod.mk.injEq, encodeKey_inj ((ns_of_keyHasPrefix hp).trans hns.symm),
          Prod.ext_iff]
      by_cases hp : keyHasPrefix key pfx = true
      · rw [if_pos hp]
        obtain ⟨taken, hrun, hsub, hmem⟩ := hrest (out ++ [(key, v)])
        refine ⟨(key, v) :: taken, by rw [hrun, List.append_assoc]; rfl, hsub.cons_cons _,
          fun e' => ?_⟩
        rw [List.mem_cons, List.mem_cons, hmem]
        by_cases hp' : keyHasPrefix e'.1 pfx = true
        · rw [hhead e' hp', and_iff_left hp', and_iff_left hp']
        · have hne : e' ≠ (key, v) := fun h => hp' (h ▸ hp)
          simp [hp', hne]
      · rw [if_neg hp]
        obtain ⟨taken, hrun, hsub, hmem⟩ := hrest out
        refine ⟨taken, hrun, hsub.cons _, fun e' => ?_⟩
        rw [List.mem_cons, hmem]
        by_cases hp' : keyHasPrefix e'.1 pfx = true
        · have hne : e' ≠ (key, v) := by
            rintro rfl
            exact hp hp'
          rw [hhead e' hp', or_iff_right hne]
        · simp [hp']

/-- **A scan lists the entries of the keys that extend the prefix**, in the order of their keys.
Source: `rollout-storage/src/embedded/mod.rs` `scan_bytes`. Kind: P -/
theorem scanBytes_sorted (hcoded : Coded db) (pfx : StorageKey) (hns : pfx.ns ∈ allTables) :
    ∃ res, scanBytes ⟨pfx, none⟩ db = .ok res ∧
      (res.Pairwise fun a b => encodeKey a.1 < encodeKey b.1) ∧
      ∀ key v, (key, v) ∈ res ↔ db.contents key = some v ∧ keyHasPrefix key pfx = true := by
  unfold scanBytes
  rw [tableFor_ok hns]
  simp only [bind, Except.bind]
  cases ht : KV.get db pfx.ns with
  | none =>
      refine ⟨[], rfl, List.Pairwise.nil, fun key v => ?_⟩
      simp only [List.not_mem_nil, false_iff, not_and]
      intro hget hp
      rw [contents, ns_of_keyHasPrefix hp, ht] at hget
      cases hget
  | some table =>
      obtain ⟨res, hrun, hsub, hmem⟩ := scanEntries_spec
        (fun e he => hcoded pfx.ns table ht e.1 e.2 (BytesTable.mem_iter.mp he)) []
      have hsorted := table.pairwise_iter.sublist hsub
      rw [List.pairwise_map] at hsorted
      refine ⟨res, hrun, hsorted, fun key v => ?_⟩
      rw [hmem, BytesTable.mem_iter]
      refine and_congr_left fun hp => ?_
      rw [contents, ns_of_keyHasPrefix hp, ht]
      rfl

theorem scanBytes_eq {m : StorageKey → Option Bytes} (h : db.Represents m) {pfx : StorageKey}
    (hns : pfx.ns ∈ allTables) : ∃ res, scanBytes ⟨pfx, none⟩ db = .ok res ∧
      ∀ key v, (key, v) ∈ res ↔ m key = some v ∧ keyHasPrefix key pfx = true := by
  obtain ⟨rfl, hcoded⟩ := h
  obtain ⟨res, hrun, -, hmem⟩ := scanBytes_sorted hcoded pfx hns
  exact ⟨res, hrun, hmem⟩

end EmbeddedStorage

end Rollout.Backends
