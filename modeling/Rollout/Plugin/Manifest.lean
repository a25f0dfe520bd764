import Mathlib.Algebra.Group.Nat.Defs
import Rollout.Core.Errors

/-!
# Plugin manifests

* `PluginManifest` — what a plugin declares of itself.
* `validateManifest` — the checks before anything is loaded.
-/

namespace Rollout.Plugin

open Rollout.Core

/-! ## The data -/

/-- Source: `rollout-core/src/traits/plugin.rs` `PluginKind`. Kind: D -/
inductive PluginKind
  | envHarness
  | toolHarness
  | evalHarness
  | rewardModel
  | inferenceBackend
  | storage
  | queue
  | objectStore
  | custom (id : String)
deriving DecidableEq

/-- Source: `rollout-core/src/traits/plugin.rs` `PluginMode`. Kind: D -/
inductive PluginMode
  | pyo3
  | sidecar
  | rustCdylib
deriving DecidableEq

/-- Source: `rollout-core/src/traits/plugin.rs` `SidecarProtocol`. Kind: D -/
inductive SidecarProtocol
  | grpcUds
  | framedJsonUds
deriving DecidableEq

/-- Source: `rollout-core/src/traits/plugin.rs` `RuntimeHints`. Kind: D -/
structure RuntimeHints where
  /-- Minimum required Python version. -/
  pythonMin : Option String
  /-- Whether the plugin needs a GPU. -/
  gpu : Bool
  /-- Estimated memory in MiB. -/
  memoryMib : BitVec 64
deriving DecidableEq

/-- Source: `rollout-core/src/traits/plugin.rs` `EntrySpec`. Kind: D -/
inductive EntrySpec
  | cdylib (path symbol : String)
  | pyo3 (module factory : String)
  | sidecar (command : List String) (protocol : SidecarProtocol) (socketTemplate : String)
deriving DecidableEq

/-- Source: `rollout-core/src/traits/plugin.rs` `PluginManifest`. Kind: D -/
structure PluginManifest where
  /-- Plugin name. -/
  name : String
  /-- Plugin version. -/
  version : String
  /-- Plugin role. -/
  kind : PluginKind
  /-- The trait this plugin implements. -/
  traitId : String
  /-- Selected loading mode. -/
  mode : PluginMode
  /-- Runtime resource hints. -/
  runtime : RuntimeHints
  /-- Entry-point selector. -/
  entry : EntrySpec
  /-- Path to the schema of its config. -/
  configSchemaPath : Option String
  /-- Network egress allowlist. -/
  networkAllowlist : List String
deriving DecidableEq

/-! ## Validation -/

/-- Source: `rollout-plugin-host/src/manifest.rs` `cfg_invalid`. Kind: D -/
def cfgInvalid (msg : String) : CoreError := .fatal (.configInvalid msg)

/-- Source: `rollout-plugin-host/src/manifest.rs` `validate_manifest` (`char::is_whitespace`).
Kind: D -/
def isWhitespace (c : Char) : Bool :=
  9 ≤ c.toNat ∧ c.toNat ≤ 13 ∨ c.toNat = 0x20 ∨ c.toNat = 0x85 ∨ c.toNat = 0xA0 ∨
    c.toNat = 0x1680 ∨ 0x2000 ≤ c.toNat ∧ c.toNat ≤ 0x200A ∨ c.toNat = 0x2028 ∨ c.toNat = 0x2029 ∨
    c.toNat = 0x202F ∨ c.toNat = 0x205F ∨ c.toNat = 0x3000

/-- Nothing is left of a text without the whitespace around it.
Source: `rollout-plugin-host/src/manifest.rs` `validate_manifest` (`trim`, `is_empty`). Kind: D -/
def isBlank (s : String) : Bool := s.toList.all isWhitespace

/-- Source: `rollout-plugin-host/src/manifest.rs` `require_python_311` (`parse::<u32>`). Kind: D -/
def parseU32 (text : List Char) : Option Nat :=
  let digits := if text.head? = some '+' then text.tail else text
  let value := digits.foldl (fun n c => 10 * n + (c.toNat - 48)) 0
  if digits ≠ [] ∧ digits.all Char.isDigit ∧ value < 2 ^ 32 then some value else none

/-- Source: `rollout-plugin-host/src/manifest.rs` `require_python_311`. Kind: D -/
def requirePython311 (v : String) : Except CoreError Unit := do
  let parts := v.toList.splitOn '.'
  let badVersion := cfgInvalid ("python_min: bad version " ++ v)
  let major ← match parts[0]?.bind parseU32 with
    | some n => .ok n
    | none => .error badVersion
  let minor ← match parts[1]?.bind parseU32 with
    | some n => .ok n
    | none => .error badVersion
  if major < 3 ∨ major = 3 ∧ minor < 11 then
    throw (cfgInvalid ("python_min " ++ v ++
      " below 3.11 (required for stdlib tomllib + PyO3 abi3)"))

/-- Source: `rollout-plugin-host/src/manifest.rs` `validate_manifest`. Kind: D -/
def validateManifest (m : PluginManifest) : Except CoreError Unit := do
  if isBlank m.name then throw (cfgInvalid "manifest.name must be non-empty")
  if isBlank m.version then throw (cfgInvalid "manifest.version must be non-empty")
  match m.mode with
  | .pyo3 =>
      match m.runtime.pythonMin with
      | none => throw (cfgInvalid "pyo3 plugins require runtime.python_min")
      | some py => requirePython311 py
  | .sidecar => return
  | .rustCdylib => return

end Rollout.Plugin
