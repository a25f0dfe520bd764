import Rollout.Plugin.Manifest
import Rollout.Storage.Embedded

/-!
# The plugin host

* `load`, `call`, `unload` — the operations on the table of loaded plugins, which is keyed by the name
  and the version of the manifest joined with a hyphen. What the loaders and the storage answer is
  given by the world.
* `HostOp.Kept` — a failed load leaves the table as it was, and an unload leaves the plugins of the
  other live handles as they were.
* `kept_of_careful` — in a run whose loads persist and take ids no live handle has, and whose unloads
  are of live handles or of ids without any, every step keeps it.
-/

set_option linter.unusedSectionVars false

namespace Rollout.Plugin

open Rollout.Lib Rollout.Core Rollout.Backends

/-! ## The host -/

/-- A loaded plugin, by its mode. Source: `rollout-plugin-host/src/handle.rs` `HandleState`.
Kind: D -/
inductive HandleState (C P S : Type)
  | cdylib (state : C)
  | pyo3 (state : P)
  | sidecar (state : S)
deriving DecidableEq

/-- Source: `rollout-core/src/traits/plugin.rs` `PluginHandle`. Kind: D -/
structure PluginHandle where
  /-- Identifier of the loaded plugin. -/
  id : String
  /-- Manifest used at load time. -/
  manifest : PluginManifest
deriving DecidableEq

/-- Source: `rollout-plugin-host/src/host.rs` `PluginHostImpl`. Kind: D -/
structure PluginHostImpl (C P S : Type) where
  /-- The loaded plugins. -/
  handles : KV String (HandleState C P S)
  /-- Where manifests are persisted. -/
  storage : Option EmbeddedStorage
  /-- Directories for in-process Python. -/
  pyo3PythonPath : List String
  /-- Where the sockets of sidecars are. -/
  sidecarRoot : String

/-- What a load meets. Source: `rollout-plugin-host/src/host.rs` `load`, `persist_manifest`.
Kind: D -/
structure LoadWorld (C P S : Type) where
  /-- Whether in-process Python is built in. -/
  pyo3Feature : Bool
  /-- The id of the process. -/
  pid : Nat
  /-- How a text is shown for debugging. -/
  debugStr : String → String
  /-- `CdylibState::load` at a path and a symbol. -/
  cdylibLoad : String → String → String → Except CoreError C
  /-- `Pyo3State::spawn` of a module and a factory. -/
  pyo3Spawn : String → String → List String → String → Except CoreError P
  /-- `SidecarState::spawn` of a command at a socket. -/
  sidecarSpawn : List String → String → String → Except CoreError S
  /-- `serde_json::to_vec`. -/
  toVec : PluginManifest → Except String Bytes
  /-- Whether a transaction begins. -/
  begin : Except CoreError Unit
  /-- Whether the row is written. -/
  put : Except CoreError Unit
  /-- Whether the transaction is committed. -/
  commit : Except CoreError Unit

/-- Source: `rollout-plugin-host/src/host.rs` `contract`. Kind: D -/
def contract (plugin msg : String) : CoreError := .fatal (.pluginContract plugin msg)

/-- Source: `rollout-core/src/traits/plugin.rs` `PluginMode` (`Debug`). Kind: D -/
def PluginMode.debug : PluginMode → String
  | .pyo3 => "Pyo3"
  | .sidecar => "Sidecar"
  | .rustCdylib => "RustCdylib"

/-- Source: `rollout-core/src/traits/plugin.rs` `SidecarProtocol` (`Debug`). Kind: D -/
def SidecarProtocol.debug : SidecarProtocol → String
  | .grpcUds => "GrpcUds"
  | .framedJsonUds => "FramedJsonUds"

/-- Source: `rollout-core/src/traits/plugin.rs` `EntrySpec` (`Debug`). Kind: D -/
def EntrySpec.debug (debugStr : String → String) : EntrySpec → String
  | .cdylib path symbol =>
      "Cdylib \x7b path: " ++ debugStr path ++ ", symbol: " ++ debugStr symbol ++ " \x7d"
  | .pyo3 module factory =>
      "Pyo3 \x7b module: " ++ debugStr module ++ ", factory: " ++ debugStr factory ++ " \x7d"
  | .sidecar command protocol socketTemplate =>
      "Sidecar \x7b command: [" ++ ", ".intercalate (command.map debugStr) ++ "], protocol: " ++
        protocol.debug ++ ", socket_template: " ++ debugStr socketTemplate ++ " \x7d"

/-- Source: `rollout-plugin-host/src/host.rs` `load` (`PathBuf::join`). Kind: D -/
def joinPath (root name : String) : String :=
  if name.startsWith "/" then name
  else if root = "" ∨ root.endsWith "/" then root ++ name
  else root ++ "/" ++ name

/-- The id of the plugin of a manifest. Source: `rollout-plugin-host/src/host.rs` `load`
(`PluginId`). Kind: D -/
def PluginManifest.id (manifest : PluginManifest) : String := manifest.name ++ "-" ++ manifest.version

section operations

variable {C P S : Type}

/-- Source: `rollout-plugin-host/src/host.rs` `persist_manifest`. Kind: D -/
def manifestKey (manifest : PluginManifest) : StorageKey := ⟨"plugins", none, [manifest.name]⟩

/-- Source: `rollout-plugin-host/src/host.rs` `persist_manifest`. Kind: D -/
def persistManifest (world : LoadWorld C P S) (manifest : PluginManifest) :
    FailM (PluginHostImpl C P S) Unit := do
  match (← get).storage with
  | none => return
  | some storage =>
      let bytes ← ofExcept ((world.toVec manifest).mapError fun e =>
        CoreError.internal ("persist manifest encode: " ++ e))
      ofExcept world.begin
      ofExcept world.put
      let db ← ofExcept (EmbeddedStorage.putBytes (manifestKey manifest) bytes storage)
      ofExcept world.commit
      modify fun host => { host with storage := some db }

/-- The plugin of a manifest, loaded by its mode. Source: `rollout-plugin-host/src/host.rs` `load`.
Kind: D -/
def loadState (world : LoadWorld C P S) (host : PluginHostImpl C P S) (manifest : PluginManifest) :
    Except CoreError (HandleState C P S) :=
  let name := manifest.name
  match manifest.mode, manifest.entry with
  | .rustCdylib, .cdylib path symbol => (world.cdylibLoad path symbol name).map .cdylib
  | .pyo3, entry =>
      if world.pyo3Feature then
        match entry with
        | .pyo3 module factory =>
            (world.pyo3Spawn module factory host.pyo3PythonPath name).map .pyo3
        | entry => .error (contract name ("manifest mode " ++ PluginMode.pyo3.debug ++
            " does not match entry " ++ entry.debug world.debugStr))
      else .error (contract name "pyo3 feature disabled")
  | .sidecar, .sidecar command _ _ =>
      let sock := joinPath host.sidecarRoot (name ++ "-" ++ toString world.pid ++ ".sock")
      (world.sidecarSpawn command sock name).map .sidecar
  | mode, entry => .error (contract name ("manifest mode " ++ mode.debug ++
      " does not match entry " ++ entry.debug world.debugStr))

/-- **Load a plugin.** It is in the table before its manifest is persisted.
Source: `rollout-plugin-host/src/host.rs` `load`. Kind: D -/
def load (world : LoadWorld C P S) (manifest : PluginManifest) :
    FailM (PluginHostImpl C P S) PluginHandle := do
  ofExcept (validateManifest manifest)
  let state ← ofExcept (loadState world (← get) manifest)
  modify fun host => { host with handles := host.handles.put manifest.id state }
  persistManifest world manifest
  return ⟨manifest.id, manifest⟩

/-- Call a method of a plugin, which answers and may change.
Source: `rollout-plugin-host/src/host.rs` `call`. Kind: D -/
def callPlugin (answer : HandleState C P S → String → Bytes → Except CoreError Bytes × HandleState C P S)
    (handle : PluginHandle) (method : String) (payload : Bytes) :
    FailM (PluginHostImpl C P S) Bytes := do
  match (← get).handles.get handle.id with
  | none => throw (contract handle.manifest.name "unknown handle")
  | some state =>
      let answered := answer state method payload
      modify fun host => { host with handles := host.handles.put handle.id answered.2 }
      ofExcept answered.1

/-- Unload a plugin; shutting it down is best effort. Source: `rollout-plugin-host/src/host.rs`
`unload`. Kind: D -/
def unload (handle : PluginHandle) : FailM (PluginHostImpl C P S) Unit :=
  modify fun host => { host with handles := host.handles.del handle.id }

end operations

/-! ## Sequences of operations -/

/-- One operation, with what it meets. Source: `rollout-plugin-host/src/host.rs` (`PluginHost`).
Kind: D -/
inductive HostOp (C P S : Type)
  | load (world : LoadWorld C P S) (manifest : PluginManifest)
  | call (answer : HandleState C P S → String → Bytes → Except CoreError Bytes × HandleState C P S)
      (handle : PluginHandle) (method : String) (payload : Bytes)
  | unload (handle : PluginHandle)

/-- A host and the handles it has returned that have not been unloaded.
Source: `rollout-plugin-host/src/host.rs` `PluginHostImpl`. Kind: D -/
structure Hosted (C P S : Type) where
  /-- The host. -/
  host : PluginHostImpl C P S
  /-- The live handles, in the order of their loads. -/
  live : List PluginHandle

section sequences

variable {C P S : Type}

/-- Source: `rollout-plugin-host/src/host.rs` `load`, `call`, `unload`. Kind: D -/
def HostOp.apply (s : Hosted C P S) : HostOp C P S → Hosted C P S
  | .load world manifest =>
      match Plugin.load world manifest s.host with
      | (.ok handle, host) => ⟨host, s.live ++ [handle]⟩
      | (.error _, host) => ⟨host, s.live⟩
  | .call answer handle method payload => ⟨(callPlugin answer handle method payload s.host).2, s.live⟩
  | .unload handle => ⟨(Plugin.unload handle s.host).2, s.live.erase handle⟩

/-- A host after operations. Source: none: infrastructure. Kind: D -/
def Hosted.run (s : Hosted C P S) (ops : List (HostOp C P S)) : Hosted C P S := ops.foldl HostOp.apply s

/-- **A failed load changes nothing**, and an unload nothing of the other live handles.
Source: `rollout-plugin-host/src/host.rs` `load`, `unload`. Kind: D -/
def HostOp.Kept (s : Hosted C P S) : HostOp C P S → Prop
  | .load world manifest => ∀ e host, Plugin.load world manifest s.host = (.error e, host) →
      ∀ id, host.handles.get id = s.host.handles.get id
  | .call _ _ _ _ => True
  | .unload handle => ∀ other ∈ s.live.erase handle,
      (Plugin.unload handle s.host).2.handles.get other.id = s.host.handles.get other.id

/-- The manifest is written, or there is nowhere to write it.
Source: `rollout-plugin-host/src/host.rs` `persist_manifest`. Kind: D -/
def Persists (world : LoadWorld C P S) (manifest : PluginManifest) (storage : Option EmbeddedStorage) :
    Prop :=
  storage = none ∨ (∃ bytes, world.toVec manifest = .ok bytes) ∧ world.begin = .ok () ∧
    world.put = .ok () ∧ world.commit = .ok ()

/-- A load that gets its plugin persists the manifest and takes an id no live handle has; what is
unloaded is a live handle, or its id is none of theirs.
Source: `rollout-plugin-host/src/host.rs` `load`, `unload`. Kind: D -/
def HostOp.Careful (s : Hosted C P S) : HostOp C P S → Prop
  | .load world manifest => validateManifest manifest = .ok () →
      (∃ state, loadState world s.host manifest = .ok state) →
      Persists world manifest s.host.storage ∧ ∀ other ∈ s.live, other.id ≠ manifest.id
  | .call _ _ _ _ => True
  | .unload handle => handle ∈ s.live ∨ ∀ other ∈ s.live, other.id ≠ handle.id

/-- The live handles have ids of their own, and a plugin each.
Source: `rollout-plugin-host/src/host.rs` `PluginHostImpl`. Kind: D -/
structure Hosted.Isolated (s : Hosted C P S) : Prop where
  distinct : (s.live.map PluginHandle.id).Nodup
  loaded : ∀ handle ∈ s.live, (s.host.handles.get handle.id).isSome

section steps

variable {s : Hosted C P S} {world : LoadWorld C P S}
  {manifest : PluginManifest}

theorem persistManifest_of_persists (host : PluginHostImpl C P S)
    (h : Persists world manifest host.storage) :
    ∃ host', persistManifest world manifest host = (.ok (), host') ∧ host'.handles = host.handles := by
  have hns : (manifestKey manifest).ns ∈ allTables := by
    show "plugins" ∈ allTables
    decide
  unfold persistManifest
  rw [FailM.bind_apply, FailM.get_apply]
  dsimp only
  rcases h with hnone | ⟨⟨bytes, hbytes⟩, hbegin, hput, hcommit⟩
  · rw [hnone]
    exact ⟨host, rfl, rfl⟩
  · cases hstorage : host.storage with
    | none => exact ⟨host, rfl, rfl⟩
    | some db =>
        simp only [hbytes, hbegin, hput, hcommit, Except.mapError, FailM.bind_apply,
          FailM.ofExcept_apply, EmbeddedStorage.putBytes_eq hns]
        exact ⟨_, rfl, rfl⟩

/-- What a load does. Source: `rollout-plugin-host/src/host.rs` `load`. Kind: L -/
theorem load_cases (world : LoadWorld C P S) (manifest : PluginManifest) (host : PluginHostImpl C P S) :
    (∃ e, load world manifest host = (.error e, host)) ∨
    validateManifest manifest = .ok () ∧ ∃ state, loadState world host manifest = .ok state ∧
      load world manifest host = (do
        persistManifest world manifest
        return ⟨manifest.id, manifest⟩ : FailM (PluginHostImpl C P S) PluginHandle)
          { host with handles := host.handles.put manifest.id state } := by
  cases hvalid : validateManifest manifest with
  | error e => exact .inl ⟨e, by simp only [load, hvalid, FailM.bind_apply, FailM.ofExcept_apply]⟩
  | ok _ =>
      cases hstate : loadState world host manifest with
      | error e =>
          refine .inl ⟨e, ?_⟩
          simp only [load, hvalid, hstate, FailM.bind_apply, FailM.ofExcept_apply, FailM.get_apply]
      | ok state =>
          refine .inr ⟨rfl, state, rfl, ?_⟩
          simp only [load, hvalid, hstate, FailM.bind_apply, FailM.ofExcept_apply, FailM.get_apply]
          rfl

/-- A call takes no plugin away. Source: `rollout-plugin-host/src/host.rs` `call`. Kind: L -/
theorem isSome_callPlugin {host : PluginHostImpl C P S}
    (answer : HandleState C P S → String → Bytes → Except CoreError Bytes × HandleState C P S)
    (handle : PluginHandle) (method : String) (payload : Bytes) {id : String}
    (h : (host.handles.get id).isSome) :
    ((callPlugin answer handle method payload host).2.handles.get id).isSome := by
  unfold callPlugin
  rw [FailM.bind_apply, FailM.get_apply]
  dsimp only
  cases hstate : host.handles.get handle.id with
  | none => exact h
  | some state =>
      have hput : ((host.handles.put handle.id (answer state method payload).2).get id).isSome := by
        rw [KV.get_put]
        split
        · rfl
        · exact h
      dsimp only
      cases (answer state method payload).1 with
      | error e => exact hput
      | ok bytes => exact hput

/-- A careful load fails before it touches the table, or returns a handle of a new id.
Source: `rollout-plugin-host/src/host.rs` `load`. Kind: L -/
theorem load_of_careful (hcareful : (HostOp.load world manifest).Careful s) :
    (∃ e, load world manifest s.host = (.error e, s.host)) ∨
    (∀ other ∈ s.live, other.id ≠ manifest.id) ∧ ∃ host state,
      load world manifest s.host = (.ok ⟨manifest.id, manifest⟩, host) ∧
      host.handles = s.host.handles.put manifest.id state := by
  rcases load_cases world manifest s.host with herror | ⟨hvalid, state, hstate, hload⟩
  · exact .inl herror
  · obtain ⟨hpersists, hfresh⟩ := hcareful hvalid ⟨state, hstate⟩
    obtain ⟨host, hpersist, hhandles⟩ := persistManifest_of_persists
      { s.host with handles := s.host.handles.put manifest.id state } hpersists
    refine .inr ⟨hfresh, host, state, ?_, hhandles⟩
    rw [hload, FailM.bind_apply, hpersist]
    rfl

/-- The other live handles have other ids. Source: none: infrastructure. Kind: L -/
theorem Hosted.Isolated.id_ne (h : s.Isolated) {handle other : PluginHandle} (hmem : handle ∈ s.live)
    (hother : other ∈ s.live.erase handle) : other.id ≠ handle.id := by
  have hnodup : s.live.Nodup := h.distinct.of_map
  obtain ⟨hne, hlive⟩ := hnodup.mem_erase_iff.mp hother
  exact fun hid => hne (List.inj_on_of_nodup_map h.distinct hlive hmem hid)

/-- The ids of the live handles but one. Source: `rollout-plugin-host/src/host.rs` `unload`.
Kind: L -/
theorem id_ne_of_careful (h : s.Isolated) {handle other : PluginHandle}
    (hcareful : (HostOp.unload handle : HostOp C P S).Careful s) (hother : other ∈ s.live.erase handle) :
    other.id ≠ handle.id := by
  rcases hcareful with hmem | hnone
  · exact h.id_ne hmem hother
  · exact hnone other (List.mem_of_mem_erase hother)

/-- One step keeps the live handles apart. The cases are the operations.
Source: `rollout-plugin-host/src/host.rs` `load`, `call`, `unload`. Kind: L -/
theorem Hosted.Isolated.apply (h : s.Isolated) {op : HostOp C P S} (hcareful : op.Careful s) :
    (op.apply s).Isolated := by
  cases op with
  | load world manifest =>
      rcases load_of_careful hcareful with ⟨e, hload⟩ | ⟨hfresh, host, state, hload, hhandles⟩
      · have happly : (HostOp.load world manifest).apply s = s := by simp only [HostOp.apply, hload]
        rw [happly]
        exact h
      · have happly : (HostOp.load world manifest).apply s =
            ⟨host, s.live ++ [⟨manifest.id, manifest⟩]⟩ := by simp only [HostOp.apply, hload]
        rw [happly]
        refine ⟨?_, fun handle hmem => ?_⟩
        · rw [List.map_append, List.map_singleton, ← List.concat_eq_append]
          refine List.Nodup.concat (fun hid => ?_) h.distinct
          obtain ⟨other, hother, hid⟩ := List.mem_map.mp hid
          exact hfresh other hother hid
        · dsimp only
          rw [hhandles, KV.get_put]
          split
          · rfl
          · next hne =>
            rcases List.mem_append.mp hmem with hmem | hmem
            · exact h.loaded handle hmem
            · exact absurd (congrArg PluginHandle.id (List.mem_singleton.mp hmem)) hne
  | call answer handle method payload =>
      refine ⟨h.distinct, fun other hmem => ?_⟩
      exact isSome_callPlugin answer handle method payload (h.loaded other hmem)
  | unload handle =>
      refine ⟨h.distinct.sublist (List.erase_sublist.map _), fun other hmem => ?_⟩
      have hne := id_ne_of_careful h hcareful hmem
      have hloaded := h.loaded other (List.mem_of_mem_erase hmem)
      show ((s.host.handles.del handle.id).get other.id).isSome
      rw [KV.get_del, if_neg hne]
      exact hloaded

/-- One step keeps what the others have. Source: `rollout-plugin-host/src/host.rs` `load`, `unload`.
Kind: L -/
theorem Hosted.Isolated.kept (h : s.Isolated) {op : HostOp C P S} (hcareful : op.Careful s) :
    op.Kept s := by
  cases op with
  | load world manifest =>
      intro e host hload id
      rcases load_of_careful hcareful with ⟨e', herror⟩ | ⟨-, host', state, hok, -⟩
      · rw [herror] at hload
        rw [← (Prod.mk.inj hload).2]
      · rw [hok] at hload
        cases (Prod.mk.inj hload).1
  | call answer handle method payload => trivial
  | unload handle =>
      intro other hother
      show (s.host.handles.del handle.id).get other.id = s.host.handles.get other.id
      rw [KV.get_del, if_neg (id_ne_of_careful h hcareful hother)]

/-- The live handles stay apart over a careful run. Induction on the operations.
Source: `rollout-plugin-host/src/host.rs` (`PluginHost`). Kind: P -/
theorem Hosted.Isolated.run (h : s.Isolated) (ops : List (HostOp C P S))
    (hcareful : ∀ front op rest, ops = front ++ op :: rest → op.Careful (s.run front)) :
    (s.run ops).Isolated := by
  induction ops generalizing s with
  | nil => exact h
  | cons op ops ih =>
      refine ih (h.apply (hcareful [] op ops rfl)) fun front op' rest hsplit => ?_
      exact hcareful (op :: front) op' rest (by rw [hsplit]; rfl)

end steps

/-- **Plugin loading in careful runs.** Every load that fails leaves the table as it was, and every
unload leaves the plugins of the other live handles as they were.
Source: `rollout-plugin-host/src/host.rs` `load`, `unload`. Kind: C -/
theorem kept_of_careful (host : PluginHostImpl C P S) (ops : List (HostOp C P S))
    (hcareful : ∀ front op rest, ops = front ++ op :: rest →
      op.Careful (Hosted.run ⟨host, []⟩ front)) :
    ∀ front op rest, ops = front ++ op :: rest → op.Kept (Hosted.run ⟨host, []⟩ front) := by
  intro front op rest hsplit
  have hstart : Hosted.Isolated (⟨host, []⟩ : Hosted C P S) := ⟨List.nodup_nil, by simp⟩
  refine (hstart.run front fun front' op' rest' hsplit' => ?_).kept (hcareful front op rest hsplit)
  exact hcareful front' op' (rest' ++ op :: rest) (by rw [hsplit, hsplit', List.append_assoc]; rfl)

end sequences

/-! ## Loads that clash and fail -/

/-- Source: none: infrastructure. Kind: D -/
def library (name version : String) : PluginManifest where
  name := name
  version := version
  kind := .rewardModel
  traitId := "rollout_core::RewardModel"
  mode := .rustCdylib
  runtime := ⟨none, false, 512⟩
  entry := .cdylib "libreward.so" "rollout_plugin_factory"
  configSchemaPath := none
  networkAllowlist := []

/-- The library that is found under a number. Source: none: infrastructure. Kind: D -/
def finding (n : Nat) : LoadWorld Nat Nat Nat where
  pyo3Feature := false
  pid := 1
  debugStr s := s
  cdylibLoad _ _ _ := .ok n
  pyo3Spawn _ _ _ _ := .ok n
  sidecarSpawn _ _ _ := .ok n
  toVec _ := .ok []
  begin := .ok ()
  put := .ok ()
  commit := .ok ()

/-- A host with a storage, and nothing loaded. Source: `rollout-plugin-host/src/host.rs`
`with_storage`. Kind: D -/
def emptyHost : PluginHostImpl Nat Nat Nat := ⟨∅, some ∅, ["python/examples"], "./data/sidecars"⟩

/-- Two plugins loaded and the first unloaded. Source: none: infrastructure. Kind: D -/
def twoLibraries : List (HostOp Nat Nat Nat) :=
  [.load (finding 1) (library "a" "1"), .load (finding 2) (library "b" "1"),
    .unload ⟨"a-1", library "a" "1"⟩]

theorem persists_finding (n : Nat) (manifest : PluginManifest) (storage : Option EmbeddedStorage) :
    Persists (finding n) manifest storage := .inr ⟨⟨[], rfl⟩, rfl, rfl, rfl⟩

theorem live_twoLibraries :
    ((⟨emptyHost, []⟩ : Hosted Nat Nat Nat).run (twoLibraries.take 1)).live =
      [⟨"a-1", library "a" "1"⟩] ∧
    ((⟨emptyHost, []⟩ : Hosted Nat Nat Nat).run (twoLibraries.take 2)).live =
      [⟨"a-1", library "a" "1"⟩, ⟨"b-1", library "b" "1"⟩] := by
  decide +kernel

theorem careful_twoLibraries : ∀ front op rest, twoLibraries = front ++ op :: rest →
    op.Careful (Hosted.run ⟨emptyHost, []⟩ front) := by
  intro front op rest hsplit
  obtain ⟨hone, htwo⟩ := live_twoLibraries
  unfold twoLibraries at hsplit
  rcases front with - | ⟨first, - | ⟨second, - | ⟨third, front⟩⟩⟩
  · cases hsplit
    exact fun _ _ => ⟨persists_finding _ _ _, by simp [Hosted.run]⟩
  · cases hsplit
    refine fun _ _ => ⟨persists_finding _ _ _, fun other hother => ?_⟩
    rw [show other = _ from List.mem_singleton.mp (hone ▸ hother)]
    decide
  · cases hsplit
    exact .inl (htwo ▸ List.mem_cons_self)
  · cases front <;> cases hsplit

/-- `kept_of_careful` where the first of two plugins is unloaded.
Source: `rollout-plugin-host/src/host.rs` `unload`. Kind: L -/
theorem kept_twoLibraries :
    (Hosted.run ⟨emptyHost, []⟩ (twoLibraries.take 2)).live =
      [⟨"a-1", library "a" "1"⟩, ⟨"b-1", library "b" "1"⟩] ∧
    (HostOp.unload ⟨"a-1", library "a" "1"⟩ : HostOp Nat Nat Nat).Kept
      (Hosted.run ⟨emptyHost, []⟩ (twoLibraries.take 2)) :=
  ⟨live_twoLibraries.2, kept_of_careful emptyHost twoLibraries careful_twoLibraries
    (twoLibraries.take 2) _ [] rfl⟩

/-- **A load that fails to persist stays loaded**, and unloading one of two plugins whose names and
versions join to one id removes the other. Source: `rollout-plugin-host/src/host.rs` `load`,
`unload`. Kind: C -/
theorem load_not_atomic :
    ¬ (HostOp.load { finding 1 with commit := .error (.internal "commit: disk full") }
        (library "a" "1")).Kept ⟨emptyHost, []⟩ ∧
    ¬ (HostOp.unload ⟨"a-b-c", library "a-b" "c"⟩).Kept
      ((⟨emptyHost, []⟩ : Hosted Nat Nat Nat).run
        [.load (finding 1) (library "a-b" "c"), .load (finding 2) (library "a" "b-c")]) := by
  constructor
  · intro h
    have hkept := h (.internal "commit: disk full") _ rfl "a-1"
    exact absurd hkept (by decide +kernel)
  · intro h
    have hkept := h ⟨"a-b-c", library "a" "b-c"⟩ (by decide +kernel)
    exact absurd hkept (by decide +kernel)

end Rollout.Plugin
