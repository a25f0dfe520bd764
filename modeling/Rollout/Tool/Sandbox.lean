import Rollout.Http.Fetch
import Rollout.Lib.Json
import Rollout.Lib.Sequence
import Rollout.Tool.Launcher

/-!
# The tools and their sandbox

* `HostOp` — what the harness asks of its host, in its own process and in the child it forks. The
  host answers as it likes. `waitWithTimeout` is one operation here.
* `launch` — the launcher: the cgroup, the fork, the setup of the child and its `execve`. `layers` —
  the setup of the child forked last, in the order in which it came about. `launch_guarded`: no
  binary is run before the whole setup.
* `components`, `rejectEscape` — which paths the file tools take. `resolve` is where a path leads;
  `inside_of_rejectEscape`: never out of the root.
-/

set_option linter.unusedSectionVars false

namespace Rollout.Tool

open Rollout.Core Rollout.Lib Rollout.Http

/-! ## The host -/

/-- Source: `rollout-harness-tool/src/sandbox/launcher.rs` (`rustix::process::Resource`). Kind: D -/
inductive Resource
  | cpu
  | as
  | nofile
  | nproc
deriving DecidableEq

/-- Source: `rollout-harness-tool/src/sandbox/launcher.rs` `NAMESPACE_FLAGS`. Kind: D -/
inductive Namespace
  | user
  | pid
  | net
  | mount
  | uts
  | ipc
deriving DecidableEq

/-- The paths a landlock ruleset lets through. Source:
`rollout-harness-tool/src/sandbox/launcher.rs` `apply_landlock_inner`. Kind: D -/
structure Ruleset where
  /-- To read, write and execute. -/
  rw : List String
  /-- To read and execute. -/
  ro : List String
deriving DecidableEq

/-- What is asked of the host. Source: `rollout-harness-tool/src/lib.rs`,
`rollout-harness-tool/src/sandbox/launcher.rs`, `rollout-harness-tool/src/sandbox/cgroup.rs`,
`rollout-harness-tool/src/sandbox/capfs.rs`. Kind: D -/
inductive HostOp
  /-- Read the clock. -/
  | now
  /-- The id of this process. -/
  | processId
  /-- Make a temporary directory. -/
  | tempDir
  /-- Remove it with all it holds. -/
  | removeTempDir (root : String)
  /-- Open a directory as a capability root. -/
  | openRoot (root : String)
  /-- Read a file below a root. -/
  | read (root rel : String)
  /-- Write a file below a root. -/
  | write (root rel : String) (contents : List UInt8)
  /-- Whether a file opens for writing. -/
  | isWritable (path : String)
  /-- Make a directory and those above it. -/
  | createDirAll (dir : String)
  /-- Write a file anywhere. -/
  | writeFile (path text : String)
  /-- Remove an empty directory. -/
  | removeDir (dir : String)
  /-- Build the seccomp filter. -/
  | buildFilter
  /-- Fork, with the standard streams piped; what follows up to `execve` is done by the child. -/
  | fork
  /-- Change the working directory. -/
  | chdir (dir : String)
  /-- Leave namespaces. -/
  | unshare (namespaces : List Namespace)
  /-- Set a soft and a hard limit. -/
  | setrlimit (resource : Resource) (current maximum : Nat)
  /-- Enforce a ruleset. -/
  | restrictSelf (rules : Ruleset)
  /-- Install the seccomp filter. -/
  | applyFilter
  /-- Run a binary. -/
  | execve (path : String) (argv : List String) (env : List (String × String))
  /-- Wait for the child, as `waitWithTimeout` does. -/
  | wait (timeout : Nat)
  /-- What the HTTP client does. -/
  | net (o : NetOp)
deriving DecidableEq

/-- What the host answers; a failed system call has a number.
Source: `rollout-harness-tool/src/sandbox/launcher.rs`. Kind: D -/
@[reducible] def HostOp.Resp : HostOp → Type
  | .now => Nat
  | .processId => Nat
  | .tempDir => Except String String
  | .removeTempDir _ => Unit
  | .openRoot _ => Except String Unit
  | .read _ _ => Except String (List UInt8)
  | .write _ _ _ => Except String Unit
  | .isWritable _ => Bool
  | .createDirAll _ => Except String Unit
  | .writeFile _ _ => Except String Unit
  | .removeDir _ => Bool
  | .buildFilter => Except String Unit
  | .fork => Except String Nat
  | .chdir _ => Except Nat Unit
  | .unshare _ => Bool
  | .setrlimit _ _ _ => Except Nat Unit
  | .restrictSelf _ => Except String Unit
  | .applyFilter => Except String Unit
  | .execve _ _ _ => Except Nat Unit
  | .wait _ => Except CoreError ExecResult
  | .net o => o.Resp

/-- The host. Source: none: infrastructure. Kind: D -/
@[reducible] def host : Iface := ⟨HostOp, HostOp.Resp⟩

/-- Programs on the host. Source: none: infrastructure. Kind: D -/
abbrev HostM := Prog host CoreError

/-- Ask the host. Source: none: infrastructure. Kind: D -/
def ask {ε : Type} (o : HostOp) : Prog host ε o.Resp := Prog.op (I := host) o

/-- What the libraries decide: numbers in JSON, texts of errors, and text that is not UTF-8.
Source: `rollout-harness-tool/src/lib.rs` (`serde_json`, `std::io`). Kind: D -/
class ToolLib where
  /-- The numbers of JSON. -/
  Number : Type
  /-- An integer as a number. -/
  ofInt : ℤ → Number
  /-- Bytes as text. -/
  lossy : List UInt8 → String
  /-- The name of a failed system call's error. -/
  strerror : Nat → String
  /-- A hint as text. -/
  showHint : RetryHint → String
  /-- What is said of a value that is not the arguments of a tool. -/
  mismatch : JsonValue Number → String

section tools

variable [ToolLib]

/-- Source: `rollout-harness-tool/src/lib.rs` (`serde_json::Value`). Kind: D -/
abbrev Value := JsonValue ToolLib.Number

/-! ## The cgroup -/

/-- Source: `rollout-harness-tool/src/sandbox/cgroup.rs` `delegated_tree`. Kind: D -/
def delegatedTree : Prog host String (Option String) := do
  let writable ← ask (.isWritable "/sys/fs/cgroup/cgroup.subtree_control")
  return if writable then some "/sys/fs/cgroup" else none

/-- A limit written to a file of the subtree. Source:
`rollout-harness-tool/src/sandbox/cgroup.rs` `CgroupSubtree::create`. Kind: D -/
def writeLimit (dir file : String) : Option Nat → Prog host String Unit
  | none => return ()
  | some limit => do
      let written ← ask (.writeFile (dir ++ "/" ++ file) (toString limit))
      Prog.ofExcept written

/-- The subtree's directory; none where no delegated tree is writable.
Source: `rollout-harness-tool/src/sandbox/cgroup.rs` `CgroupSubtree::create`. Kind: D -/
def createCgroup (name : String) (memoryMax pidsMax : Option Nat) :
    Prog host String (Option String) := do
  match ← delegatedTree with
  | none => return none
  | some parent => do
      let dir := parent ++ "/rollout-tool-" ++ name
      let made ← ask (.createDirAll dir)
      Prog.ofExcept made
      writeLimit dir "memory.max" memoryMax
      writeLimit dir "pids.max" pidsMax
      return some dir

/-- Move a process into the subtree; a failure is ignored. Source:
`rollout-harness-tool/src/sandbox/cgroup.rs` `CgroupSubtree::join_pid`,
`rollout-harness-tool/src/sandbox/launcher.rs` `launch`. Kind: D -/
def joinPid (cgroup : Option String) (pid : Nat) : HostM Unit :=
  match cgroup with
  | none => return ()
  | some dir =>
      if pid < 2 ^ 31 then do
        let _ ← ask (.writeFile (dir ++ "/" ++ "cgroup.procs") (toString pid))
        return ()
      else return ()

/-- Source: `rollout-harness-tool/src/sandbox/cgroup.rs` `CgroupSubtree` (`Drop`). Kind: D -/
def dropCgroup : Option String → HostM Unit
  | none => return ()
  | some dir => do
      let _ ← ask (.removeDir dir)
      return ()

/-! ## The launcher -/

/-- Source: `rollout-harness-tool/src/sandbox/launcher.rs` `Rlimits`. Kind: D -/
structure Rlimits where
  /-- CPU time in seconds. -/
  cpuSecs : Nat
  /-- Address space in bytes. -/
  asBytes : Nat
  /-- Open files. -/
  nofile : Nat
  /-- Processes and threads. -/
  nproc : Nat
deriving DecidableEq

/-- Source: `rollout-harness-tool/src/sandbox/launcher.rs` `ExecRequest`. Kind: D -/
structure ExecRequest where
  /-- The full path of the binary. -/
  exactPath : String
  /-- The arguments, the program's name first. -/
  argv : List String
  /-- The budget, in nanoseconds. -/
  timeout : Nat
  /-- The directory of this invocation. -/
  tempdir : String
  /-- The limits. -/
  rlimits : Rlimits
  /-- `memory.max` of the cgroup. -/
  memoryMax : Option Nat
  /-- `pids.max` of the cgroup. -/
  pidsMax : Option Nat

/-- The text of a failed system call's error. Source:
`rollout-harness-tool/src/sandbox/launcher.rs` (`std::io::Error`, `Display`). Kind: D -/
def osError (errno : Nat) : String :=
  ToolLib.strerror errno ++ " (os error " ++ toString errno ++ ")"

/-- The number of an error that has none: `EINVAL`. Source:
`rollout-harness-tool/src/sandbox/launcher.rs` `launch` (`io::Error::other` in `pre_exec`).
Kind: D -/
def einval : Nat := 22

/-- Source: `rollout-harness-tool/src/sandbox/launcher.rs` `set_rlimit`. Kind: D -/
def setRlimit (resource : Resource) (limit : Nat) : Prog host Nat Unit := do
  let set ← ask (.setrlimit resource limit limit)
  Prog.ofExcept set

/-- Source: `rollout-harness-tool/src/sandbox/launcher.rs` `apply_landlock`,
`apply_landlock_inner`. Kind: D -/
def applyLandlock (tempdir binary : String) : Prog host Nat Unit := do
  let restricted ← ask (.restrictSelf ⟨[tempdir], [binary, "/usr"]⟩)
  Prog.ofExcept (restricted.mapError fun _ => einval)

/-- The hook of the child: namespaces, limits, landlock and seccomp last.
Source: `rollout-harness-tool/src/sandbox/launcher.rs` `launch` (`pre_exec`). Kind: D -/
def preExec (req : ExecRequest) : Prog host Nat Unit := do
  -- reduced isolation where user namespaces are not to be had
  let _ ← ask (.unshare [.user, .pid, .net, .mount, .uts, .ipc])
  setRlimit .cpu req.rlimits.cpuSecs
  setRlimit .as req.rlimits.asBytes
  setRlimit .nofile req.rlimits.nofile
  setRlimit .nproc req.rlimits.nproc
  applyLandlock req.tempdir req.exactPath
  let applied ← ask .applyFilter
  Prog.ofExcept (applied.mapError fun _ => einval)

/-- The command of a request: its own arguments and a cleared environment.
Source: `rollout-harness-tool/src/sandbox/launcher.rs` `launch` (`Command`). Kind: D -/
def command (req : ExecRequest) : HostOp :=
  .execve req.exactPath (req.exactPath :: req.argv.drop 1)
    [("HOME", req.tempdir), ("PATH", "/usr/bin:/bin"), ("TMPDIR", req.tempdir)]

/-- The child up to its binary. Source: `rollout-harness-tool/src/sandbox/launcher.rs` `launch`
(`Command::spawn`). Kind: D -/
def childMain (req : ExecRequest) : Prog host Nat Unit := do
  let moved ← ask (.chdir req.tempdir)
  Prog.ofExcept moved
  preExec req
  let ran ← ask (command req)
  Prog.ofExcept ran

/-- Fork and wait for the child to run its binary or to report the number of its failure.
Source: `rollout-harness-tool/src/sandbox/launcher.rs` `launch` (`Command::spawn`). Kind: D -/
def spawn (req : ExecRequest) : Prog host String Nat := do
  let forked ← ask .fork
  let pid ← Prog.ofExcept forked
  match ← (childMain req).outcome with
  | .error errno => Prog.err (osError errno)
  | .ok _ => return pid

/-- A failure of a step, under its name. Source: `rollout-harness-tool/src/sandbox/launcher.rs`
`launch` (`map_err`). Kind: D -/
def failing {α : Type} (what : String) (p : Prog host String α) : HostM α := do
  let r ← p.outcome
  Prog.ofExcept (r.mapError fun e => fatal (what ++ e))

/-- The steps with the cgroup at hand. Source: `rollout-harness-tool/src/sandbox/launcher.rs`
`launch`. Kind: D -/
def launchIn (req : ExecRequest) (cgroup : Option String) : HostM ExecResult := do
  let built ← ask .buildFilter
  Prog.ofExcept (built.mapError fatal)
  let pid ← failing ("spawn " ++ req.exactPath ++ ": ") (spawn req)
  joinPid cgroup pid
  let out ← ask (.wait req.timeout)
  Prog.ofExcept out

/-- Run a request in the sandbox. Source: `rollout-harness-tool/src/sandbox/launcher.rs` `launch`.
Kind: D -/
def launch (req : ExecRequest) : HostM ExecResult := do
  let id ← ask .processId
  let cgroup ← failing "cgroup setup: " (createCgroup (toString id) req.memoryMax req.pidsMax)
  let out ← (launchIn req cgroup).outcome
  dropCgroup cgroup
  Prog.ofExcept out

/-! ## Arguments -/

/-- The fields of a struct: those of an object by name, or those of an array in order.
Source: `rollout-harness-tool/src/tools/mod.rs` (`derive(Deserialize)`). Kind: D -/
def fieldsOf (names : List String) : Value → Option (List Value)
  | .object fields => names.mapM fun name => fields.lookup name
  | .array items => if items.length = names.length then some items else none
  | _ => none

/-- The arguments of a tool, or why they are not. Source:
`rollout-harness-tool/src/tools/mod.rs` (`serde_json::from_value`). Kind: D -/
def argsOf {α : Type} (tool : String) (names : List String) (read : List Value → Option α)
    (args : Value) : HostM α :=
  match (fieldsOf names args).bind read with
  | some a => return a
  | none => Prog.err (fatal (tool ++ " args: " ++ ToolLib.mismatch args))

/-- Source: `rollout-harness-tool/src/tools/python_exec.rs` `Args`. Kind: D -/
def codeArg : List Value → Option String
  | [code] => code.asStr
  | _ => none

/-- Source: `rollout-harness-tool/src/tools/shell.rs` `Args`. Kind: D -/
def argvArg : List Value → Option (List String)
  | [argv] => argv.asArray.bind (·.mapM JsonValue.asStr)
  | _ => none

/-- Source: `rollout-harness-tool/src/tools/file_read.rs` `Args`. Kind: D -/
def pathArg : List Value → Option String
  | [path] => path.asStr
  | _ => none

/-- Source: `rollout-harness-tool/src/tools/file_write.rs` `Args`. Kind: D -/
def pathContentsArg : List Value → Option (String × String)
  | [path, contents] => do return (← path.asStr, ← contents.asStr)
  | _ => none

/-! ## The tools that run a binary -/

/-- Source: `rollout-harness-tool/src/tools/python_exec.rs` `run`. Kind: D -/
def pythonExec (pythonPath : String) (args : Value) (timeout : Nat) (tempdir : String)
    (rlimits : Rlimits) (memoryMax pidsMax : Option Nat) : HostM ExecResult := do
  let code ← argsOf "python_exec" ["code"] codeArg args
  launch ⟨pythonPath, [pythonPath, "-I", "-c", code], timeout, tempdir, rlimits, memoryMax, pidsMax⟩

/-- Source: `rollout-harness-tool/src/tools/shell.rs` `run`. Kind: D -/
def shell (allowlist : List (String × String)) (args : Value) (timeout : Nat) (tempdir : String)
    (rlimits : Rlimits) (memoryMax pidsMax : Option Nat) : HostM ExecResult := do
  let argv ← argsOf "shell" ["argv"] argvArg args
  match argv with
  | [] => Prog.err (fatal "shell argv must be non-empty")
  | cmd :: rest =>
      match allowlist.lookup cmd with
      | none => Prog.err (fatal ("command not in allowlist: " ++ cmd))
      | some exactPath =>
          launch ⟨exactPath, exactPath :: rest, timeout, tempdir, rlimits, memoryMax, pidsMax⟩

/-! ## The tools on files -/

/-- Source: `rollout-harness-tool/src/sandbox/capfs.rs` (`std::path::Component`). Kind: D -/
inductive Component
  | rootDir
  | curDir
  | parentDir
  | normal (name : String)
deriving DecidableEq

/-- The names between the slashes. Source: `rollout-harness-tool/src/sandbox/capfs.rs`
(`std::path::Path`). Kind: D -/
def segments (path : String) : List String := (path.toList.splitOn '/').map String.ofList

/-- Source: `rollout-harness-tool/src/sandbox/capfs.rs` (`Path::is_absolute`). Kind: D -/
def isAbsolute (path : String) : Bool := path.toList.head? == some '/'

/-- What a name is as a component; one that is empty or a dot is none.
Source: `rollout-harness-tool/src/sandbox/capfs.rs` (`Path::components`). Kind: D -/
def component? (segment : String) : Option Component :=
  if segment = "" ∨ segment = "." then none
  else if segment = ".." then some .parentDir
  else some (.normal segment)

/-- The components of a path: a slash or a dot counts at the start.
Source: `rollout-harness-tool/src/sandbox/capfs.rs` (`Path::components`). Kind: D -/
def components (path : String) : List Component :=
  (if isAbsolute path then [.rootDir]
    else if (segments path).head? = some "." then [.curDir] else []) ++
    (segments path).filterMap component?

/-- Whether a component leads out. Source: `rollout-harness-tool/src/sandbox/capfs.rs`
`reject_escape`. Kind: D -/
def Component.escapes : Component → Bool
  | .parentDir => true
  | .rootDir => true
  | .normal _ => false
  | .curDir => false

/-- Source: `rollout-harness-tool/src/sandbox/capfs.rs` `reject_escape`. Kind: D -/
def rejectEscape (rel : String) : Except CoreError Unit :=
  if isAbsolute rel then .error (fatal ("absolute path rejected: " ++ rel))
  else if (components rel).any Component.escapes then
    .error (fatal ("path escape rejected: " ++ rel))
  else .ok ()

/-- Source: `rollout-harness-tool/src/sandbox/capfs.rs` `CapRoot::open`. Kind: D -/
def openCapRoot (root : String) : HostM Unit := do
  let opened ← ask (.openRoot root)
  Prog.ofExcept (opened.mapError fun e => fatal ("cap-std open root " ++ root ++ ": " ++ e))

/-- Source: `rollout-harness-tool/src/sandbox/capfs.rs` `CapRoot::read`. Kind: D -/
def capRead (root rel : String) : HostM (List UInt8) := do
  Prog.ofExcept (rejectEscape rel)
  let bytes ← ask (.read root rel)
  Prog.ofExcept (bytes.mapError fun e => fatal ("cap-std read " ++ rel ++ ": " ++ e))

/-- Source: `rollout-harness-tool/src/sandbox/capfs.rs` `CapRoot::write`. Kind: D -/
def capWrite (root rel : String) (contents : List UInt8) : HostM Unit := do
  Prog.ofExcept (rejectEscape rel)
  let written ← ask (.write root rel contents)
  Prog.ofExcept (written.mapError fun e => fatal ("cap-std write " ++ rel ++ ": " ++ e))

/-- Source: `rollout-harness-tool/src/tools/file_read.rs` `run`. Kind: D -/
def fileRead (root : String) (args : Value) : HostM String := do
  let path ← argsOf "file_read" ["path"] pathArg args
  openCapRoot root
  let bytes ← capRead root path
  return ToolLib.lossy bytes

/-- Source: `rollout-harness-tool/src/tools/file_write.rs` `run`. Kind: D -/
def fileWrite (root : String) (args : Value) : HostM Nat := do
  let args ← argsOf "file_write" ["path", "contents"] pathContentsArg args
  openCapRoot root
  let bytes := args.2.toUTF8.data.toList
  capWrite root args.1 bytes
  return bytes.length

/-! ## What the child has set up -/

/-- A part of the setup. Source: `rollout-harness-tool/src/sandbox/launcher.rs` `launch`. Kind: D -/
inductive Layer
  | cwd (dir : String)
  | limit (resource : Resource) (current maximum : Nat)
  | landlock (rules : Ruleset)
  | seccomp
deriving DecidableEq

/-- The setup of the child forked last, after one more answer.
Source: `rollout-harness-tool/src/sandbox/launcher.rs` `launch`. Kind: D -/
def hearLayer (set : List Layer) : Said host → List Layer
  | ⟨.fork, .ok _⟩ => []
  | ⟨.chdir dir, .ok _⟩ => set ++ [.cwd dir]
  | ⟨.setrlimit resource current maximum, .ok _⟩ => set ++ [.limit resource current maximum]
  | ⟨.restrictSelf rules, .ok _⟩ => set ++ [.landlock rules]
  | ⟨.applyFilter, .ok _⟩ => set ++ [.seccomp]
  | _ => set

/-- What is in force in the child forked last, in the order in which it was set up.
Source: `rollout-harness-tool/src/sandbox/launcher.rs` `launch`. Kind: D -/
def layers (said : List (Said host)) : List Layer := said.foldl hearLayer []

/-- The whole setup for a request. Source: `rollout-harness-tool/src/sandbox/launcher.rs` `launch`.
Kind: D -/
def sandbox (req : ExecRequest) : List Layer :=
  [.cwd req.tempdir,
    .limit .cpu req.rlimits.cpuSecs req.rlimits.cpuSecs,
    .limit .as req.rlimits.asBytes req.rlimits.asBytes,
    .limit .nofile req.rlimits.nofile req.rlimits.nofile,
    .limit .nproc req.rlimits.nproc req.rlimits.nproc,
    .landlock ⟨[req.tempdir], [req.exactPath, "/usr"]⟩,
    .seccomp]

/-- The directory of a process's cgroup. Source:
`rollout-harness-tool/src/sandbox/cgroup.rs` `CgroupSubtree::create`. Kind: D -/
def IsCgroup (dir : String) : Prop := ∃ id : Nat, dir = "/sys/fs/cgroup/rollout-tool-" ++ toString id

/-- What the launcher may ask: a binary is run in a child with the whole setup, and outside it only
a cgroup is touched. Source: `rollout-harness-tool/src/sandbox/launcher.rs` `launch`. Kind: D -/
def Confines (req : ExecRequest) (said : List (Said host)) : HostOp → Prop
  | .execve path argv env => command req = .execve path argv env ∧ layers said = sandbox req
  | .createDirAll dir => IsCgroup dir
  | .removeDir dir => IsCgroup dir
  | .writeFile path _ => ∃ dir file, path = dir ++ "/" ++ file ∧ IsCgroup dir
  | .wait timeout => timeout = req.timeout
  | .tempDir => False
  | .removeTempDir _ => False
  | .openRoot _ => False
  | .read _ _ => False
  | .write _ _ _ => False
  | .net _ => False
  | _ => True

@[simp] theorem layers_snoc (said : List (Said host)) (s : Said host) :
    layers (said ++ [s]) = hearLayer (layers said) s := by
  rw [layers, List.foldl_append]
  rfl

section launch

variable {req : ExecRequest}

theorem setRlimit_guarded {said : List (Said host)} (resource : Resource) (limit : Nat) :
    Prog.Guarded (Confines req)
      (fun said' _ => layers said' = layers said ++ [.limit resource limit limit]) said
      (setRlimit resource limit) := by
  refine Prog.Guarded.op_bind trivial fun r => ?_
  cases r with
  | ok _ => exact layers_snoc said _
  | error errno => trivial

theorem applyLandlock_guarded {said : List (Said host)} (tempdir binary : String) :
    Prog.Guarded (Confines req)
      (fun said' _ => layers said' = layers said ++ [.landlock ⟨[tempdir], [binary, "/usr"]⟩]) said
      (applyLandlock tempdir binary) := by
  refine Prog.Guarded.op_bind trivial fun r => ?_
  cases r with
  | ok _ => exact layers_snoc said _
  | error e => trivial

/-- The hook leaves the whole setup behind, or fails. Source:
`rollout-harness-tool/src/sandbox/launcher.rs` `launch` (`pre_exec`). Kind: L -/
theorem preExec_guarded {said : List (Said host)} (h : layers said = [.cwd req.tempdir]) :
    Prog.Guarded (Confines req) (fun said' _ => layers said' = sandbox req) said (preExec req) := by
  refine Prog.Guarded.op_bind trivial fun b => ?_
  have hleft : layers (said ++ [⟨.unshare [.user, .pid, .net, .mount, .uts, .ipc], b⟩]) =
      [.cwd req.tempdir] := (layers_snoc said _).trans h
  refine (setRlimit_guarded .cpu _).bind fun said₁ _ h₁ => ?_
  refine (setRlimit_guarded .as _).bind fun said₂ _ h₂ => ?_
  refine (setRlimit_guarded .nofile _).bind fun said₃ _ h₃ => ?_
  refine (setRlimit_guarded .nproc _).bind fun said₄ _ h₄ => ?_
  refine (applyLandlock_guarded _ _).bind fun said₅ _ h₅ => ?_
  refine Prog.Guarded.op_bind trivial fun r => ?_
  cases r with
  | error e => trivial
  | ok _ =>
      have hset : layers (said₅ ++ [⟨.applyFilter, .ok ()⟩]) = layers said₅ ++ [.seccomp] :=
        layers_snoc said₅ _
      show layers (said₅ ++ [⟨.applyFilter, .ok ()⟩]) = sandbox req
      rw [hset, h₅, h₄, h₃, h₂, h₁, hleft]
      rfl

/-- The child runs its binary with the whole setup. Source:
`rollout-harness-tool/src/sandbox/launcher.rs` `launch` (`Command::spawn`). Kind: L -/
theorem childMain_guarded {said : List (Said host)} (h : layers said = []) :
    Prog.Guarded (Confines req) (fun said' _ => ⟨command req, .ok ()⟩ ∈ said') said
      (childMain req) := by
  refine Prog.Guarded.op_bind trivial fun r => ?_
  cases r with
  | error errno => trivial
  | ok _ =>
      have hcwd : layers (said ++ [⟨.chdir req.tempdir, .ok ()⟩]) = [.cwd req.tempdir] := by
        rw [layers_snoc, h]
        rfl
      refine (preExec_guarded hcwd).bind fun said' _ hset => ?_
      refine Prog.Guarded.op_bind ⟨rfl, hset⟩ fun r => ?_
      cases r with
      | error errno => trivial
      | ok _ => exact List.mem_append_right _ (List.mem_singleton_self _)

theorem spawn_guarded (said : List (Said host)) :
    Prog.Guarded (Confines req) (fun said' _ => ⟨command req, .ok ()⟩ ∈ said') said (spawn req) := by
  refine Prog.Guarded.op_bind trivial fun forked => ?_
  cases forked with
  | error e => trivial
  | ok pid =>
      have hnone : layers (said ++ [⟨.fork, .ok pid⟩]) = [] := layers_snoc said _
      exact (childMain_guarded hnone).bind_outcome (fun said' _ _ hran => hran) fun _ _ _ => trivial

/-! ## What the launcher asks -/

theorem failing_guarded {α : Type} {what : String} {p : Prog host String α}
    {post : List (Said host) → α → Prop} {said : List (Said host)}
    (h : Prog.Guarded (Confines req) post said p) :
    Prog.Guarded (Confines req) post said (failing what p) :=
  h.bind_outcome (fun _ _ _ hpost => hpost) fun _ _ _ => trivial

theorem writeLimit_guarded {dir : String} (hdir : IsCgroup dir) (file : String) (limit : Option Nat)
    (said : List (Said host)) :
    Prog.Guarded (Confines req) (fun _ _ => True) said (writeLimit dir file limit) := by
  cases limit with
  | none => trivial
  | some limit =>
      refine Prog.Guarded.op_bind ⟨dir, file, rfl, hdir⟩ fun r => ?_
      cases r <;> trivial

/-- The cgroup is one of this process. Source: `rollout-harness-tool/src/sandbox/cgroup.rs`
`CgroupSubtree::create`. Kind: L -/
theorem createCgroup_guarded (id : Nat) (memoryMax pidsMax : Option Nat) (said : List (Said host)) :
    Prog.Guarded (Confines req) (fun _ cgroup => ∀ dir ∈ cgroup, IsCgroup dir) said
      (createCgroup (toString id) memoryMax pidsMax) := by
  refine Prog.Guarded.op_bind trivial fun writable => ?_
  cases writable with
  | false =>
      intro dir hdir
      cases hdir
  | true =>
      have hdir : IsCgroup ("/sys/fs/cgroup" ++ "/rollout-tool-" ++ toString id) := ⟨id, rfl⟩
      refine Prog.Guarded.op_bind hdir fun made => ?_
      refine Prog.Guarded.ofExcept_bind fun _ _ => ?_
      refine (writeLimit_guarded hdir _ memoryMax _).bind fun _ _ _ => ?_
      refine (writeLimit_guarded hdir _ pidsMax _).bind fun _ _ _ => ?_
      rintro dir hmem
      obtain rfl := Option.mem_some_iff.mp hmem
      exact hdir

theorem joinPid_guarded {cgroup : Option String} (hcgroup : ∀ dir ∈ cgroup, IsCgroup dir) (pid : Nat)
    {P : List (Said host) → Prop} {said : List (Said host)} (h : ∀ more, P (said ++ more)) :
    Prog.Guarded (Confines req) (fun said' _ => P said') said (joinPid cgroup pid) := by
  cases cgroup with
  | none => exact List.append_nil said ▸ h []
  | some dir =>
      unfold joinPid
      dsimp only
      split
      · exact Prog.Guarded.op_bind ⟨dir, _, rfl, hcgroup dir rfl⟩ fun r => h [_]
      · exact List.append_nil said ▸ h []

/-- What is asked with the cgroup at hand. Source:
`rollout-harness-tool/src/sandbox/launcher.rs` `launch`. Kind: L -/
theorem launchIn_guarded {cgroup : Option String} (hcgroup : ∀ dir ∈ cgroup, IsCgroup dir)
    (said : List (Said host)) :
    Prog.Guarded (Confines req) (fun said' out => ⟨command req, .ok ()⟩ ∈ said' ∧
      ⟨.wait req.timeout, .ok out⟩ ∈ said') said (launchIn req cgroup) := by
  refine Prog.Guarded.op_bind trivial fun built => ?_
  refine Prog.Guarded.ofExcept_bind fun _ _ => ?_
  refine (failing_guarded (spawn_guarded _)).bind fun said' pid hran => ?_
  refine (joinPid_guarded hcgroup pid (P := fun said' => ⟨command req, .ok ()⟩ ∈ said') fun more =>
    List.mem_append_left more hran).bind fun said'' _ hran => ?_
  refine Prog.Guarded.op_bind rfl fun out => ?_
  cases out with
  | error e => trivial
  | ok out =>
      exact ⟨List.mem_append_left _ hran, List.mem_append_right _ (List.mem_singleton_self _)⟩

/-- **The launcher runs its binary in the whole sandbox or not at all**, and a result is what was
waited for after the binary ran. Source: `rollout-harness-tool/src/sandbox/launcher.rs` `launch`.
Kind: L -/
theorem launch_guarded (req : ExecRequest) (said : List (Said host)) :
    Prog.Guarded (Confines req) (fun said' out => ⟨command req, .ok ()⟩ ∈ said' ∧
      ⟨.wait req.timeout, .ok out⟩ ∈ said') said (launch req) := by
  refine Prog.Guarded.op_bind trivial fun id => ?_
  refine (failing_guarded (createCgroup_guarded id _ _ _)).bind fun said' cgroup hcgroup => ?_
  refine (launchIn_guarded hcgroup said').bind_outcome (fun said'' out _ hout => ?_) fun _ e _ => ?_
  · cases cgroup with
    | none => exact hout
    | some dir =>
        exact Prog.Guarded.op_bind (hcgroup dir rfl) fun r =>
          ⟨List.mem_append_left _ hout.1, List.mem_append_left _ hout.2⟩
  · cases cgroup with
    | none => trivial
    | some dir => exact Prog.Guarded.op_bind (hcgroup dir rfl) fun r => trivial

end launch

/-! ## Where a path leads -/

/-- Where a name leads. Source: `rollout-harness-tool/src/sandbox/capfs.rs` (`openat`). Kind: D -/
def step (here : List String) (segment : String) : List String :=
  if segment = "" ∨ segment = "." then here
  else if segment = ".." then here.dropLast
  else here ++ [segment]

/-- Where a path leads from a directory, links apart. Source:
`rollout-harness-tool/src/sandbox/capfs.rs` (`openat`). Kind: D -/
def resolve (root : List String) (path : String) : List String :=
  (segments path).foldl step (if isAbsolute path then [] else root)

/-- The path stays below the root, wherever that is. Source:
`rollout-harness-tool/src/sandbox/capfs.rs` `reject_escape`. Kind: D -/
def Inside (rel : String) : Prop := ∀ root, root <+: resolve root rel

theorem prefix_foldl_step {root here : List String} {names : List String} (h : root <+: here)
    (hnames : ".." ∉ names) : root <+: names.foldl step here := by
  induction names generalizing here with
  | nil => exact h
  | cons name names ih =>
      rw [List.mem_cons, not_or] at hnames
      refine ih ?_ hnames.2
      unfold step
      split
      · exact h
      · rw [if_neg fun heq => hnames.1 heq.symm]
        exact h.trans (List.prefix_append _ _)

/-- A path that is let through does not lead out. Source:
`rollout-harness-tool/src/sandbox/capfs.rs` `reject_escape`. Kind: L -/
theorem inside_of_rejectEscape {rel : String} (h : rejectEscape rel = .ok ()) : Inside rel := by
  unfold rejectEscape at h
  split at h
  · cases h
  · next habsolute =>
    split at h
    · cases h
    · next hescape =>
      intro root
      rw [resolve, if_neg habsolute]
      refine prefix_foldl_step List.prefix_rfl fun hparent => hescape ?_
      refine List.any_eq_true.mpr ⟨.parentDir, List.mem_append_right _ ?_, rfl⟩
      exact List.mem_filterMap.mpr ⟨"..", hparent, rfl⟩

end tools

end Rollout.Tool
