import Rollout.CloudLocal.ObjectStore
import Rollout.Snapshots.Policy
import Rollout.Snapshots.TarComplete

/-!
# Saving a training state

* `saveTrainState` — the directory is archived, the archive put into the object store, and one row of
  metadata written under the run and the digest of the archive. The JSON codec, the object store, the
  clock and the failures of the storage are given by the world.
* `restoreTrainState` — the archive is fetched, its digest compared, and unpacked
  (`restore_of_save`).
* `Unharmed` — every row keeps its label and its time, and the labelled stay protected. A save writes
  its row whether or not there is one: `unharmed_save_iff`.
-/

set_option linter.unusedSectionVars false

namespace Rollout.Snapshots

open Rollout.Lib Rollout.Core Rollout.Backends
open Rollout.CloudLocal.ObjectStore (PutHint)

/-! ## The code -/

/-- How rows are encoded. Source: `rollout-snapshots/src/kind/train_state.rs` (`serde_json`).
Kind: D -/
structure SnapshotJson where
  /-- `serde_json::to_vec`. -/
  toVec : Snapshot → Except String Bytes
  /-- `serde_json::from_slice`. -/
  fromSlice : Bytes → Except String Snapshot

/-- What is encoded is read back. Source: none: the library's documented behaviour. Kind: D -/
def SnapshotJson.RoundTrips (json : SnapshotJson) : Prop :=
  ∀ snap v, json.toVec snap = .ok v → json.fromSlice v = .ok snap

/-- What a save meets. Source: `rollout-snapshots/src/kind/train_state.rs`. Kind: D -/
structure SaveWorld where
  /-- The tar library. -/
  tar : TarLib
  /-- How rows are encoded. -/
  json : SnapshotJson
  /-- Why the blocking task is lost. -/
  join : Option String
  /-- The answer of the object store to a put. -/
  putBytes : Bytes → PutHint → Except CoreError ContentId
  /-- The clock. -/
  now : Int
  /-- Why no transaction begins. -/
  begin : Option CoreError
  /-- Why the row is not written. -/
  put : Option CoreError
  /-- Why the transaction is not committed. -/
  commit : Option CoreError

/-- Source: `rollout-snapshots/src/kind/train_state.rs` `fatal_plugin`. Kind: D -/
def fatalPlugin (msg : String) : CoreError := .fatal (.pluginContract "rollout-snapshots" msg)

/-- A step that may fail. Source: none: infrastructure. Kind: D -/
def unlessFails : Option CoreError → Except CoreError Unit
  | some e => .error e
  | none => .ok ()

/-- A task on a blocking thread. Source: `rollout-snapshots/src/kind/train_state.rs`
(`spawn_blocking`). Kind: D -/
def blocking {α : Type} (join : Option String) (task : Except CoreError α) : Except CoreError α :=
  match join with
  | some e => .error (.internal ("join: " ++ e))
  | none => task

/-- The key of a snapshot. Source: `rollout-snapshots/src/key.rs` `snapshot_key`. Kind: D -/
def snapshotKey (runId : RunId) (id : ContentId) : StorageKey := ⟨"snapshots", some runId, [id.display]⟩

/-- What the object store is told. Source: `rollout-snapshots/src/kind/train_state.rs`
`save_train_state` (`PutHint`). Kind: D -/
def hintFor (tarBytes : Bytes) : PutHint :=
  ⟨some (BitVec.ofNat 64 tarBytes.length), some "application/x-tar"⟩

/-- The metadata of a snapshot. Source: `rollout-snapshots/src/kind/train_state.rs`
`save_train_state` (`Snapshot`). Kind: D -/
def snapshotFor (request : SnapshotRequest) (now : Int) (contentId : ContentId) (tarBytes : Bytes) :
    Snapshot where
  id := contentId
  kind := .trainState
  runId := request.runId
  createdAt := now
  label := request.label
  parts := [⟨"tar", contentId, BitVec.ofNat 64 tarBytes.length⟩]
  algorithmId := request.algorithmId
  metadata := request.metadata

/-- The transaction that writes the row.
Source: `rollout-snapshots/src/kind/train_state.rs` `save_train_state`. Kind: D -/
def persistRow (world : SaveWorld) (snapshot : Snapshot) : FailM EmbeddedStorage Unit := do
  ofExcept (unlessFails world.begin)
  let key := snapshotKey snapshot.runId snapshot.id
  let value ← ofExcept ((world.json.toVec snapshot).mapError fun e =>
    CoreError.internal ("json encode Snapshot: " ++ e))
  ofExcept (unlessFails world.put)
  let db ← ofExcept (EmbeddedStorage.putBytes key value (← get))
  ofExcept (unlessFails world.commit)
  set db

/-- **Save a directory as a snapshot.** That the kind asked for is this one is asserted in debug
builds only. Source: `rollout-snapshots/src/kind/train_state.rs` `save_train_state`. Kind: D -/
def saveTrainState [Blake3] (world : SaveWorld) (request : SnapshotRequest)
    (accelerateDir : SourceDir) : FailM EmbeddedStorage Snapshot := do
  let tarBytes ← ofExcept (blocking world.join (buildDeterministicTar world.tar accelerateDir))
  let expectedId := ContentId.of tarBytes
  let contentId ← ofExcept (world.putBytes tarBytes (hintFor tarBytes))
  if contentId ≠ expectedId then
    throw (fatalPlugin ("ObjectStore returned mismatched ContentId: expected " ++
      expectedId.display ++ " got " ++ contentId.display))
  let snapshot := snapshotFor request world.now contentId tarBytes
  persistRow world snapshot
  return snapshot

/-- **Unpack the archive of a snapshot.** Source: `rollout-snapshots/src/kind/train_state.rs`
`restore_train_state`. Kind: D -/
def restoreTrainState [Blake3] (tar : TarLib) (join : Option String)
    (getBytes : ContentId → Except CoreError Bytes) (snapshot : Snapshot) (dst : Tree) :
    Except CoreError Tree := do
  let tarPart ← match snapshot.parts.find? fun p => p.role = "tar" with
    | some p => .ok p
    | none => .error (fatalPlugin "missing 'tar' part on TrainState snapshot")
  let tarBytes ← getBytes tarPart.content
  let actual := ContentId.of tarBytes
  if actual ≠ tarPart.content then
    throw (fatalPlugin ("blake3 mismatch on restore: expected " ++ tarPart.content.display ++
      " got " ++ actual.display))
  blocking join (extractTar tar tarBytes dst)

/-! ## What a save writes -/

/-- The row goes through. Source: `rollout-snapshots/src/kind/train_state.rs` `save_train_state`.
Kind: D -/
structure Persists (world : SaveWorld) (snapshot : Snapshot) (value : Bytes) : Prop where
  begun : world.begin = none
  encoded : world.json.toVec snapshot = .ok value
  written : world.put = none
  committed : world.commit = none

/-- The archive goes through. Source: `rollout-snapshots/src/kind/train_state.rs` `save_train_state`.
Kind: D -/
structure Archives [Blake3] (world : SaveWorld) (accelerateDir : SourceDir) (tarBytes : Bytes) :
    Prop where
  joined : world.join = none
  built : buildDeterministicTar world.tar accelerateDir = .ok tarBytes
  kept : world.putBytes tarBytes (hintFor tarBytes) = .ok (ContentId.of tarBytes)

section save

variable [Blake3] {world : SaveWorld} {request : SnapshotRequest} {accelerateDir : SourceDir}
  {snapshot : Snapshot} {value tarBytes : Bytes} {db : EmbeddedStorage}

theorem unlessFails_none : unlessFails none = .ok () := rfl

theorem unlessFails_some {e : CoreError} : unlessFails (some e) = .error e := rfl

/-- The tables with the row. Source: `rollout-snapshots/src/kind/train_state.rs` `save_train_state`.
Kind: D -/
def withRow (db : EmbeddedStorage) (key : StorageKey) (value : Bytes) : EmbeddedStorage :=
  KV.put db key.ns (KV.set (db.openTable key.ns) (encodeKey key) (some value))

omit [Blake3] in
theorem persistRow_of_persists (h : Persists world snapshot value) :
    persistRow world snapshot db =
      (.ok (), withRow db (snapshotKey snapshot.runId snapshot.id) value) := by
  have hns : (snapshotKey snapshot.runId snapshot.id).ns ∈ allTables := by
    show "snapshots" ∈ allTables
    decide
  unfold persistRow
  simp only [h.begun, h.encoded, h.written, h.committed, unlessFails_none, Except.mapError,
    FailM.bind_apply, FailM.ofExcept_apply, FailM.get_apply, EmbeddedStorage.putBytes_eq hns]
  rfl

omit [Blake3] in
/-- A transaction that fails writes nothing. Source:
`rollout-snapshots/src/kind/train_state.rs` `save_train_state`. Kind: L -/
theorem persistRow_of_not (db : EmbeddedStorage) (h : ∀ value, ¬ Persists world snapshot value) :
    ∃ e, persistRow world snapshot db = (.error e, db) := by
  have hns : (snapshotKey snapshot.runId snapshot.id).ns ∈ allTables := by
    show "snapshots" ∈ allTables
    decide
  unfold persistRow
  cases hbegin : world.begin with
  | some e => exact ⟨e, rfl⟩
  | none =>
      cases henc : world.json.toVec snapshot with
      | error e => exact ⟨_, rfl⟩
      | ok value =>
          cases hput : world.put with
          | some e => exact ⟨e, rfl⟩
          | none =>
              cases hcommit : world.commit with
              | none => exact absurd ⟨hbegin, henc, hput, hcommit⟩ (h value)
              | some e =>
                  refine ⟨e, ?_⟩
                  simp only [unlessFails_none, unlessFails_some, Except.mapError, FailM.bind_apply,
                    FailM.ofExcept_apply, FailM.get_apply, EmbeddedStorage.putBytes_eq hns]

/-- What a save does when the archive is stored.
Source: `rollout-snapshots/src/kind/train_state.rs` `save_train_state`. Kind: L -/
theorem save_of_archives (h : Archives world accelerateDir tarBytes) :
    saveTrainState world request accelerateDir db =
      (do
        let snapshot := snapshotFor request world.now (ContentId.of tarBytes) tarBytes
        persistRow world snapshot
        return snapshot : FailM EmbeddedStorage Snapshot) db := by
  unfold saveTrainState blocking
  simp only [h.joined, h.built, h.kept, FailM.bind_apply, FailM.ofExcept_apply, ne_eq,
    not_true_eq_false, if_false]

theorem save_of_persists (harchive : Archives world accelerateDir tarBytes)
    (h : Persists world (snapshotFor request world.now (ContentId.of tarBytes) tarBytes) value) :
    saveTrainState world request accelerateDir db =
      (.ok (snapshotFor request world.now (ContentId.of tarBytes) tarBytes),
        withRow db (snapshotKey request.runId (ContentId.of tarBytes)) value) := by
  rw [save_of_archives harchive]
  simp only [FailM.bind_apply, persistRow_of_persists h]
  rfl

/-- A save that fails writes nothing. Source: `rollout-snapshots/src/kind/train_state.rs`
`save_train_state`. Kind: L -/
theorem save_of_not (db : EmbeddedStorage) (h : ∀ tarBytes value, Archives world accelerateDir tarBytes →
      ¬ Persists world (snapshotFor request world.now (ContentId.of tarBytes) tarBytes) value) :
    ∃ e, saveTrainState world request accelerateDir db = (.error e, db) := by
  by_cases harchives : ∃ tarBytes, Archives world accelerateDir tarBytes
  · obtain ⟨tarBytes, harchive⟩ := harchives
    obtain ⟨e, he⟩ := persistRow_of_not db fun value => h tarBytes value harchive
    refine ⟨e, ?_⟩
    rw [save_of_archives harchive]
    simp only [FailM.bind_apply, he]
  · unfold saveTrainState blocking
    cases hjoin : world.join with
    | some e => exact ⟨_, rfl⟩
    | none =>
        cases hbuild : buildDeterministicTar world.tar accelerateDir with
        | error e => exact ⟨e, rfl⟩
        | ok tarBytes =>
            cases hput : world.putBytes tarBytes (hintFor tarBytes) with
            | error e =>
                refine ⟨e, ?_⟩
                simp only [FailM.bind_apply, FailM.ofExcept_apply, hput]
            | ok contentId =>
                have hne : contentId ≠ ContentId.of tarBytes := by
                  rintro rfl
                  exact harchives ⟨tarBytes, hjoin, hbuild, hput⟩
                refine ⟨fatalPlugin ("ObjectStore returned mismatched ContentId: expected " ++
                  (ContentId.of tarBytes).display ++ " got " ++ contentId.display), ?_⟩
                simp only [FailM.bind_apply, FailM.ofExcept_apply, hput, if_pos hne]
                rfl

end save

/-! ## What a save leaves -/

/-- **No row is damaged**: each keeps its label and its time, and the labelled ones that a policy
protects stay protected. Source: `rollout-snapshots/src/policy.rs` `apply_prune` (`keep_labeled`).
Kind: D -/
structure Unharmed (fromSlice : Bytes → Except String Snapshot) (db db' : EmbeddedStorage) : Prop where
  rows : ∀ runId key snap, (key, snap) ∈ stored fromSlice runId db → ∃ snap',
    (key, snap') ∈ stored fromSlice runId db' ∧ snap'.label = snap.label ∧
      snap'.createdAt = snap.createdAt
  labelled : ∀ (policy : PrunePolicy) now key snap, (key, snap) ∈ stored fromSlice policy.runId db →
    policy.retention.keepLabeled = true → snap.label.isSome → ∃ snap',
      (key, snap') ∈ stored fromSlice policy.runId db' ∧
        Kept fromSlice policy now db' (key, snap')

section unharmed

variable {fromSlice : Bytes → Except String Snapshot} {db db' : EmbeddedStorage} {runId : RunId}
  {key : StorageKey} {snap : Snapshot} {value : Bytes}

/-- A row that keeps its label stays protected. Source: `rollout-snapshots/src/policy.rs`
`apply_prune`. Kind: L -/
theorem unharmed_of_rows (h : ∀ runId key snap, (key, snap) ∈ stored fromSlice runId db → ∃ snap',
    (key, snap') ∈ stored fromSlice runId db' ∧ snap'.label = snap.label ∧
      snap'.createdAt = snap.createdAt) : Unharmed fromSlice db db' where
  rows := h
  labelled policy now key snap hstored hkeep hlabel := by
    obtain ⟨snap', hstored', hsame, -⟩ := h policy.runId key snap hstored
    exact ⟨snap', hstored', .inr (.inl ⟨hkeep, hsame ▸ hlabel⟩)⟩

theorem contents_withRow (db : EmbeddedStorage) (key : StorageKey) (value : Bytes) :
    (withRow db key value).contents = Function.update db.contents key (some value) :=
  EmbeddedStorage.contents_set db key (some value)

theorem stored_withRow_self (hin : InRun runId key) (hvalue : fromSlice value = .ok snap)
    {snap' : Snapshot} :
    (key, snap') ∈ stored fromSlice runId (withRow db key value) ↔ snap' = snap := by
  rw [mem_stored, contents_withRow, Function.update_self]
  constructor
  · rintro ⟨-, v, hv, hdec⟩
    cases hv
    rw [hvalue] at hdec
    exact (Except.ok.inj hdec).symm
  · rintro rfl
    exact ⟨hin, value, rfl, hvalue⟩

theorem stored_withRow_of_ne {key' : StorageKey} (hne : key' ≠ key) {snap' : Snapshot} :
    (key', snap') ∈ stored fromSlice runId (withRow db key value) ↔
      (key', snap') ∈ stored fromSlice runId db := by
  rw [mem_stored, mem_stored, contents_withRow, Function.update_of_ne hne]

/-- One row written harms nothing exactly when it repeats the label and the time of the row before.
Source: `rollout-snapshots/src/kind/train_state.rs` `save_train_state`. Kind: P -/
theorem unharmed_withRow_iff (hin : InRun runId key) (hvalue : fromSlice value = .ok snap) :
    Unharmed fromSlice db (withRow db key value) ↔ ∀ old, (key, old) ∈ stored fromSlice runId db →
      old.label = snap.label ∧ old.createdAt = snap.createdAt := by
  constructor
  · intro h old hold
    obtain ⟨snap', hsnap', hlabel, htime⟩ := h.rows runId key old hold
    obtain rfl := (stored_withRow_self hin hvalue).mp hsnap'
    exact ⟨hlabel.symm, htime.symm⟩
  · intro h
    refine unharmed_of_rows fun runId' key' old hold => ?_
    by_cases hkey : key' = key
    · subst hkey
      obtain rfl : runId' = runId := Option.some.inj (hold.1.2.symm.trans hin.2)
      obtain ⟨hlabel, htime⟩ := h old hold
      exact ⟨snap, (stored_withRow_self hin hvalue).mpr rfl, hlabel.symm, htime.symm⟩
    · exact ⟨old, (stored_withRow_of_ne hkey).mpr hold, rfl, rfl⟩

end unharmed

section saved

variable [Blake3] {world : SaveWorld}

/-- **A save harms no row exactly when** it fails, or the run has no row under the digest of the
archive, or the row there has the same label and the same time. Source:
`rollout-snapshots/src/kind/train_state.rs` `save_train_state`. Kind: C -/
theorem unharmed_save_iff (hjson : world.json.RoundTrips) (request : SnapshotRequest)
    (accelerateDir : SourceDir) (db : EmbeddedStorage) :
    Unharmed world.json.fromSlice db (saveTrainState world request accelerateDir db).2 ↔
      ∀ tarBytes value, Archives world accelerateDir tarBytes →
        Persists world (snapshotFor request world.now (ContentId.of tarBytes) tarBytes) value →
          ∀ old, (snapshotKey request.runId (ContentId.of tarBytes), old) ∈
              stored world.json.fromSlice request.runId db →
            old.label = request.label ∧ old.createdAt = world.now := by
  by_cases hsave : ∃ tarBytes value, Archives world accelerateDir tarBytes ∧
      Persists world (snapshotFor request world.now (ContentId.of tarBytes) tarBytes) value
  · obtain ⟨tarBytes, value, harchive, hpersist⟩ := hsave
    have hin : InRun request.runId (snapshotKey request.runId (ContentId.of tarBytes)) := ⟨rfl, rfl⟩
    rw [save_of_persists harchive hpersist,
      unharmed_withRow_iff hin (hjson _ _ hpersist.encoded)]
    constructor
    · intro h tarBytes' value' harchive' _
      obtain rfl := Except.ok.inj (harchive.built.symm.trans harchive'.built)
      exact h
    · intro h
      exact h tarBytes value harchive hpersist
  · have hnone : ∀ tarBytes value, Archives world accelerateDir tarBytes →
        ¬ Persists world (snapshotFor request world.now (ContentId.of tarBytes) tarBytes) value :=
      fun tarBytes value harchive hpersist => hsave ⟨tarBytes, value, harchive, hpersist⟩
    obtain ⟨e, he⟩ := save_of_not db hnone
    rw [he]
    refine iff_of_true (unharmed_of_rows fun runId key snap h => ⟨snap, h, rfl, rfl⟩) ?_
    exact fun tarBytes value harchive hpersist => absurd hpersist (hnone tarBytes value harchive)

/-- **A saved directory is restored.** Source: `rollout-snapshots/src/kind/train_state.rs`
`restore_train_state`. Kind: P -/
theorem restore_of_save (htar : world.tar.Inverse) {request : SnapshotRequest}
    {accelerateDir : SourceDir} (hplain : accelerateDir.Plain) {db db' : EmbeddedStorage}
    {snapshot : Snapshot}
    (hsave : saveTrainState world request accelerateDir db = (.ok snapshot, db'))
    {getBytes : ContentId → Except CoreError Bytes}
    (hget : ∀ tarBytes, world.putBytes tarBytes (hintFor tarBytes) = .ok snapshot.id →
      getBytes snapshot.id = .ok tarBytes) :
    restoreTrainState world.tar none getBytes snapshot .empty = .ok accelerateDir.tree := by
  by_cases h : ∃ tarBytes value, Archives world accelerateDir tarBytes ∧
      Persists world (snapshotFor request world.now (ContentId.of tarBytes) tarBytes) value
  · obtain ⟨tarBytes, value, harchive, hpersist⟩ := h
    rw [save_of_persists harchive hpersist] at hsave
    obtain rfl := Except.ok.inj (Prod.mk.inj hsave).1
    have hbytes := hget tarBytes harchive.kept
    have hbuilt : tarBytes = world.tar.archive accelerateDir.tarEntries :=
      Except.ok.inj (harchive.built.symm.trans (hplain.build_eq htar))
    have hunpack : extractTar world.tar tarBytes .empty = .ok accelerateDir.tree := by
      rw [hbuilt, extractTar, htar.unpacks _ hplain.consistent, hplain.unpacked_eq]
      rfl
    unfold restoreTrainState blocking
    simp only [snapshotFor] at hbytes ⊢
    simp [hbytes, hunpack, bind, Except.bind]
  · obtain ⟨e, he⟩ := save_of_not db
      fun tarBytes value harchive hpersist => h ⟨tarBytes, value, harchive, hpersist⟩
    rw [he] at hsave
    cases hsave

end saved

/-! ## One directory saved twice -/

/-- The digest of the archive of one file. Source: none: infrastructure. Kind: D -/
def oneFileHash : Bytes :=
  [0x48, 0xbb, 0x3b, 0xe9, 0x19, 0xc4, 0xf3, 0x1f, 0x10, 0xc1, 0xa2, 0xd3, 0x63, 0x25, 0xe7, 0x31,
    0xab, 0xb2, 0x61, 0xa4, 0xe8, 0xa5, 0x17, 0xa0, 0xb9, 0xbd, 0xdd, 0x22, 0x5c, 0x26, 0x21, 0xcf]

/-- Its content id. Source: none: infrastructure. Kind: D -/
def oneFileId : ContentId := ⟨⟨oneFileHash, rfl⟩⟩

/-- A digest function that is right for that archive. Source: none: infrastructure. Kind: D -/
@[reducible] def oneFileBlake3 : Blake3 := ⟨fun _ => oneFileId⟩

/-- A request under a label. Source: none: infrastructure. Kind: D -/
def requestWith (label : Option String) : SnapshotRequest :=
  ⟨⟨⟨7⟩⟩, "sft", .trainState, label, .null⟩

/-- The snapshot labelled best, saved at midnight. Source: none: infrastructure. Kind: D -/
def bestSnapshot : Snapshot :=
  snapshotFor (requestWith (some "best")) 1767225600000000000 oneFileId oneFileTar

/-- The snapshot without a label, saved an hour later. Source: none: infrastructure. Kind: D -/
def laterSnapshot : Snapshot := snapshotFor (requestWith none) 1767229200000000000 oneFileId oneFileTar

/-- A digest as JSON. Source: none: the library's documented behaviour. Kind: D -/
def jsonBytes (bs : Bytes) : String :=
  "[" ++ ",".intercalate (bs.map fun b => toString b.toNat) ++ "]"

/-- What a row says before its time. Source: none: the library's documented behaviour. Kind: D -/
def rowHead : Bytes :=
  ("\x7b\"id\":" ++ jsonBytes oneFileHash ++ ",\"kind\":\"train_state\"," ++
    "\"run_id\":\"00000000000000000000000007\",\"created_at\":").toUTF8.data.toList

/-- What a row says after its label. Source: none: the library's documented behaviour. Kind: D -/
def rowTail : Bytes :=
  (",\"parts\":[\x7b\"role\":\"tar\",\"content\":" ++ jsonBytes oneFileHash ++
    ",\"size\":2048\x7d],\"algorithm_id\":\"sft\",\"meta\":null\x7d").toUTF8.data.toList

/-- The row labelled best. Source: none: the library's documented behaviour. Kind: D -/
def bestRow : Bytes :=
  rowHead ++ "\"2026-01-01T00:00:00Z\",\"label\":\"best\"".toUTF8.data.toList ++ rowTail

/-- The row without a label. Source: none: the library's documented behaviour. Kind: D -/
def laterRow : Bytes :=
  rowHead ++ "\"2026-01-01T01:00:00Z\",\"label\":null".toUTF8.data.toList ++ rowTail

theorem laterRow_ne : laterRow ≠ bestRow := by
  intro h
  have hlen := congrArg List.length h
  have hbest : "\"2026-01-01T00:00:00Z\",\"label\":\"best\"".toUTF8.data.toList.length = 37 := by
    decide
  have hlater : "\"2026-01-01T01:00:00Z\",\"label\":null".toUTF8.data.toList.length = 35 := by decide
  simp only [laterRow, bestRow, List.length_append, hbest, hlater] at hlen
  omega

open Classical in
/-- A codec that is right for the two rows. Source: none: infrastructure. Kind: D -/
noncomputable def rowsJson : SnapshotJson where
  toVec snap :=
    if snap = bestSnapshot then .ok bestRow
    else if snap = laterSnapshot then .ok laterRow else .error "key must be a string"
  fromSlice v :=
    if v = bestRow then .ok bestSnapshot
    else if v = laterRow then .ok laterSnapshot else .error "expected value at line 1 column 1"

theorem roundTrips_rowsJson : rowsJson.RoundTrips := by
  intro snap v h
  unfold rowsJson at h ⊢
  dsimp only at h ⊢
  by_cases hbest : snap = bestSnapshot
  · rw [if_pos hbest] at h
    obtain rfl := Except.ok.inj h
    rw [if_pos rfl, hbest]
  · rw [if_neg hbest] at h
    by_cases hlater : snap = laterSnapshot
    · rw [if_pos hlater] at h
      obtain rfl := Except.ok.inj h
      rw [if_neg laterRow_ne, if_pos rfl, hlater]
    · rw [if_neg hlater] at h
      cases h

/-- A world in which every step succeeds. Source: none: infrastructure. Kind: D -/
noncomputable def worldAt (now : Int) : SaveWorld where
  tar := oneFileLib
  json := rowsJson
  join := none
  putBytes _ _ := .ok oneFileId
  now := now
  begin := none
  put := none
  commit := none

section twice

local instance : Blake3 := oneFileBlake3

theorem archives_oneFile (now : Int) : Archives (worldAt now) oneFile oneFileTar :=
  ⟨rfl, build_oneFile, rfl⟩

theorem persists_best : Persists (worldAt 1767225600000000000) bestSnapshot bestRow :=
  ⟨rfl, if_pos rfl, rfl, rfl⟩

theorem persists_later : Persists (worldAt 1767229200000000000) laterSnapshot laterRow := by
  have hne : laterSnapshot ≠ bestSnapshot := fun h => by cases congrArg Snapshot.label h
  exact ⟨rfl, (if_neg hne).trans (if_pos rfl), rfl, rfl⟩

/-- The key of both. Source: none: infrastructure. Kind: D -/
def bestKey : StorageKey := snapshotKey ⟨⟨7⟩⟩ oneFileId

/-- The tables after the first save. Source: none: infrastructure. Kind: D -/
def bestSaved : EmbeddedStorage := withRow ∅ bestKey bestRow

theorem save_best : saveTrainState (worldAt 1767225600000000000) (requestWith (some "best")) oneFile
    (∅ : EmbeddedStorage) = (.ok bestSnapshot, bestSaved) :=
  save_of_persists (archives_oneFile _) persists_best

theorem fromSlice_bestRow : rowsJson.fromSlice bestRow = .ok bestSnapshot :=
  roundTrips_rowsJson _ _ persists_best.encoded

theorem fromSlice_laterRow : rowsJson.fromSlice laterRow = .ok laterSnapshot :=
  roundTrips_rowsJson _ _ persists_later.encoded

theorem stored_best {old : Snapshot} :
    (bestKey, old) ∈ stored rowsJson.fromSlice ⟨⟨7⟩⟩ bestSaved ↔ old = bestSnapshot :=
  stored_withRow_self ⟨rfl, rfl⟩ fromSlice_bestRow

/-- Saved again at the same instant under the same label. Source: none: infrastructure. Kind: L -/
theorem unharmed_save_again : Unharmed rowsJson.fromSlice bestSaved
    (saveTrainState (worldAt 1767225600000000000) (requestWith (some "best")) oneFile bestSaved).2 := by
  have hjson : (worldAt 1767225600000000000).json.RoundTrips := roundTrips_rowsJson
  refine (unharmed_save_iff hjson _ _ _).mpr ?_
  intro tarBytes value harchive hpersist old hold
  obtain rfl := stored_best.mp hold
  exact ⟨rfl, rfl⟩

/-- **A directory saved again loses its label**, and the policy that protected it.
Source: `rollout-snapshots/src/kind/train_state.rs` `save_train_state`. Kind: C -/
theorem save_again_unlabels : ∃ db,
    saveTrainState (worldAt 1767225600000000000) (requestWith (some "best")) oneFile
      (∅ : EmbeddedStorage) = (.ok bestSnapshot, db) ∧
    (bestKey, bestSnapshot) ∈ stored rowsJson.fromSlice ⟨⟨7⟩⟩ db ∧
    ∃ db', saveTrainState (worldAt 1767229200000000000) (requestWith none) oneFile db =
        (.ok laterSnapshot, db') ∧
      (∀ snap, (bestKey, snap) ∈ stored rowsJson.fromSlice ⟨⟨7⟩⟩ db' →
        ¬ Kept rowsJson.fromSlice ⟨⟨⟨7⟩⟩, ⟨0, true, none⟩⟩ 1767229200000000000 db' (bestKey, snap)) ∧
      ¬ Unharmed rowsJson.fromSlice db db' := by
  refine ⟨bestSaved, save_best, stored_best.mpr rfl, withRow bestSaved bestKey laterRow,
    save_of_persists (archives_oneFile _) persists_later, fun snap hsnap => ?_, fun h => ?_⟩
  · obtain rfl := (stored_withRow_self ⟨rfl, rfl⟩ fromSlice_laterRow).mp hsnap
    rintro (hnewest | ⟨-, hlabel⟩ | ⟨maxAge, hage, -⟩)
    · exact absurd hnewest (Nat.not_lt_zero _)
    · cases hlabel
    · cases hage
  · have hboth := (unharmed_withRow_iff ⟨rfl, rfl⟩ fromSlice_laterRow).mp h bestSnapshot
      (stored_best.mpr rfl)
    cases hboth.1

end twice

end Rollout.Snapshots
