import Mathlib.Data.List.TakeWhile
import Rollout.Core.Ids
import Rollout.Tool.Sandbox

/-!
# The tool harness

* `ToolSettings`, `ToolCall`, `ToolResult` — settings, calls and results; `specs` — the tools that
  are advertised.
* `dispatch`, `dispatchHttp`, `invoke` — a batch of calls, one after another, each of the first kind
  in a temporary directory of its own.
* `Allowed` — what the harness may ask of its host for a call; `invoke_asks`: it asks nothing else,
  whatever the calls are and whatever the host answers.
* `Did` — a result tells what the host has done; `invoke_answers`: every call is answered so, in
  order, and leaves no directory behind.
* `Fresh` — a host that reads only what was written; `file_read_fails`: on such a host no `file_read`
  succeeds, its directory being its own.
-/

set_option linter.unusedSectionVars false

namespace Rollout.Tool

open Rollout.Core Rollout.Lib Rollout.Http

/-! ## Settings -/

/-- Source: `rollout-harness-tool/src/lib.rs` `ToolSettings`. Kind: D -/
structure ToolSettings where
  /-- Enable `python_exec`. -/
  enablePythonExec : Bool := true
  /-- Enable `shell`. -/
  enableShell : Bool := true
  /-- Enable `file_read`. -/
  enableFileRead : Bool := true
  /-- Enable `file_write`. -/
  enableFileWrite : Bool := true
  /-- The full path of `python3`. -/
  pythonPath : String := "/usr/bin/python3"
  /-- The commands of `shell`, each with its full path. -/
  shellAllowlist : List (String × String) := []
  /-- The budget of a call, in seconds. -/
  timeoutSecs : Nat := 10
  /-- `RLIMIT_CPU` in seconds. -/
  rlimitCpuSecs : Nat := 10
  /-- `RLIMIT_AS` in bytes. -/
  rlimitAsBytes : Nat := 512 * 1024 * 1024
  /-- `RLIMIT_NOFILE`. -/
  rlimitNofile : Nat := 64
  /-- `RLIMIT_NPROC`. -/
  rlimitNproc : Nat := 64
  /-- `memory.max` of the cgroup. -/
  cgroupMemoryMax : Option Nat := some (512 * 1024 * 1024)
  /-- `pids.max` of the cgroup. -/
  cgroupPidsMax : Option Nat := some 64
  /-- Enable `http_get`. -/
  enableHttpGet : Bool := true
  /-- Enable `http_post`. -/
  enableHttpPost : Bool := true
  /-- The addresses the HTTP tools may reach. -/
  egressAllowlist : List IpAddr := []

namespace ToolSettings

variable (s : ToolSettings)

/-- The budget of a call, in nanoseconds. Source: `rollout-harness-tool/src/lib.rs` `timeout`.
Kind: D -/
def timeout : Nat := s.timeoutSecs * 1000000000

/-- Source: `rollout-harness-tool/src/lib.rs` `rlimits`. Kind: D -/
def rlimits : Rlimits := ⟨s.rlimitCpuSecs, s.rlimitAsBytes, s.rlimitNofile, s.rlimitNproc⟩

/-- Source: `rollout-harness-tool/src/lib.rs` `egress`. Kind: D -/
def egress : EgressConfig := ⟨s.egressAllowlist, false⟩

end ToolSettings

/-- Source: `rollout-core/src/traits/harness.rs` `SideEffectClass`. Kind: D -/
inductive SideEffectClass
  | filesystem
  | network
  | exec
deriving DecidableEq

/-- An advertised tool; the schema of its arguments is any object.
Source: `rollout-core/src/traits/harness.rs` `ToolSpec`. Kind: D -/
structure ToolSpec where
  /-- Name. -/
  name : String
  /-- Description. -/
  description : String
  /-- Declared side effects. -/
  sideEffects : SideEffectClass
  /-- The budget of a call. -/
  timeout : Nat

/-- The advertised tools. Source: `rollout-harness-tool/src/lib.rs` `specs`, `descriptor`. Kind: D -/
def specs (s : ToolSettings) : List ToolSpec :=
  (if s.enablePythonExec then
    [⟨"python_exec", "Run python3 -c <code> sandboxed", .exec, s.timeout⟩] else []) ++
  (if s.enableShell then
    [⟨"shell", "Run an allowlisted command (argv vector)", .exec, s.timeout⟩] else []) ++
  (if s.enableFileRead then
    [⟨"file_read", "Read a file within the sandbox tempdir", .filesystem, s.timeout⟩] else []) ++
  (if s.enableFileWrite then
    [⟨"file_write", "Write a file within the sandbox tempdir", .filesystem, s.timeout⟩] else []) ++
  (if s.enableHttpGet then
    [⟨"http_get", "HTTP GET via the SSRF-filtered connector", .network, s.timeout⟩] else []) ++
  (if s.enableHttpPost then
    [⟨"http_post", "HTTP POST via the SSRF-filtered connector", .network, s.timeout⟩] else [])

section harness

variable [ToolLib]

/-! ## Calls and results -/

/-- Source: `rollout-core/src/traits/harness.rs` `ToolCall`. Kind: D -/
structure ToolCall where
  /-- Call identity. -/
  callId : Ulid
  /-- Tool name. -/
  tool : String
  /-- Tool arguments. -/
  args : Value

/-- Source: `rollout-core/src/traits/harness.rs` `ToolOutcome`. Kind: D -/
inductive ToolOutcome
  | success
  | error
  | timedOut
deriving DecidableEq

/-- Source: `rollout-core/src/traits/harness.rs` `ToolResult`. Kind: D -/
structure ToolResult where
  /-- The call it answers. -/
  callId : Ulid
  /-- Outcome. -/
  outcome : ToolOutcome
  /-- Structured output. -/
  output : Value
  /-- Captured stderr, or the error. -/
  stderr : Option String
  /-- Duration, in nanoseconds. -/
  duration : Nat

/-- Source: `rollout-core/src/errors.rs` `FatalError` (`Display`). Kind: D -/
def displayFatal : FatalError → String
  | .configInvalid msg => "config invalid: " ++ msg
  | .schemaViolation msg => "schema violation: " ++ msg
  | .pluginContract plugin msg => "plugin contract violation: " ++ plugin ++ ": " ++ msg
  | .internal msg => "internal: " ++ msg

/-- Source: `rollout-core/src/errors.rs` `RecoverableError` (`Display`). Kind: D -/
def displayRecoverable : RecoverableError → String
  | .throttled hint => "throttled: retry " ++ ToolLib.showHint hint
  | .transient msg _ => "transient: " ++ msg
  | .preempted _ => "preempted"

/-- Source: `rollout-core/src/errors.rs` `CoreError` (`Display`). Kind: D -/
def displayError : CoreError → String
  | .recoverable e => "recoverable: " ++ displayRecoverable e
  | .fatal e => "fatal: " ++ displayFatal e

/-- Programs that do not fail. Source: none: infrastructure. Kind: D -/
abbrev HostAlways := Prog host Empty

/-- A result, timed from the start. Source: `rollout-harness-tool/src/lib.rs` `dispatch`,
`dispatch_http`. Kind: D -/
def finished (call : ToolCall) (outcome : ToolOutcome) (output : Value) (stderr : Option String)
    (started : Nat) : HostAlways ToolResult := do
  let ended ← ask .now
  return ⟨call.callId, outcome, output, stderr, ended - started⟩

/-- Source: `rollout-harness-tool/src/lib.rs` `errored`. Kind: D -/
def errored (call : ToolCall) (msg : String) (started : Nat) : HostAlways ToolResult :=
  finished call .error .null (some msg) started

/-- Source: `rollout-harness-tool/src/lib.rs` `exec_output`. Kind: D -/
def execOutput (run : ExecResult) : Value × Option String × Bool :=
  let stderr := ToolLib.lossy run.stderr
  (.object [("exit_code", .number (ToolLib.ofInt run.exitCode)),
      ("stdout", .string (ToolLib.lossy run.stdout))],
    if stderr = "" then none else some stderr, run.timedOut)

/-! ## The tools that run here -/

/-- The tool of a call, in its directory. Source: `rollout-harness-tool/src/lib.rs` `dispatch`.
Kind: D -/
def runTool (s : ToolSettings) (call : ToolCall) (root : String) :
    HostM (Value × Option String × Bool) :=
  if call.tool = "python_exec" ∧ s.enablePythonExec then
    execOutput <$> pythonExec s.pythonPath call.args s.timeout root s.rlimits s.cgroupMemoryMax
      s.cgroupPidsMax
  else if call.tool = "shell" ∧ s.enableShell then
    execOutput <$> shell s.shellAllowlist call.args s.timeout root s.rlimits s.cgroupMemoryMax
      s.cgroupPidsMax
  else if call.tool = "file_read" ∧ s.enableFileRead then
    (fun out => (.object [("contents", .string out)], none, false)) <$> fileRead root call.args
  else if call.tool = "file_write" ∧ s.enableFileWrite then
    (fun (n : Nat) => (.object [("bytes_written", .number (ToolLib.ofInt n))], none, false)) <$>
      fileWrite root call.args
  else Prog.err (fatal ("unknown or disabled tool: " ++ call.tool))

/-- Source: `rollout-harness-tool/src/lib.rs` `dispatch`. Kind: D -/
def dispatch (s : ToolSettings) (call : ToolCall) : HostAlways ToolResult := do
  let started ← ask .now
  match ← ask .tempDir with
  | .error e => errored call ("tempdir: " ++ e) started
  | .ok root => do
      let result ← match ← (runTool s call root).outcome with
        | .ok (output, stderr, timedOut) =>
            finished call (if timedOut then .timedOut else .success) output stderr started
        | .error e => errored call (displayError e) started
      -- the directory goes out of scope
      ask (.removeTempDir root)
      return result

/-! ## The tools on the network -/

variable [HttpLib]

/-- What the client does is done by this process. Source: none: infrastructure. Kind: D -/
def onNet : Iface.Embedding netIface host := ⟨.net, fun _ r => r⟩

/-- A response as output. Source: `rollout-harness-tool/src/tools/http_get.rs` `run`,
`rollout-harness-tool/src/tools/http_post.rs` `run`. Kind: D -/
def responseOutput (resp : HttpResponse) : Value :=
  .object [("body", .string (ToolLib.lossy resp.body)),
    ("status", .number (ToolLib.ofInt resp.status))]

/-- The URL of the arguments. Source: `rollout-harness-tool/src/tools/http_get.rs` `run`,
`rollout-harness-tool/src/tools/http_post.rs` `run`. Kind: D -/
def urlOf (args : Value) : Except HttpError String :=
  match (args.get "url").bind JsonValue.asStr with
  | some url => .ok url
  | none => .error (.badUrl "missing string field `url`")

/-- Source: `rollout-harness-tool/src/tools/http_get.rs` `run`. Kind: D -/
def httpGet (args : Value) (egress : EgressConfig) : NetM HttpResponse := do
  let url ← Prog.ofExcept (urlOf args)
  fetch .get url none egress

/-- Source: `rollout-harness-tool/src/tools/http_post.rs` `run`. Kind: D -/
def httpPost (args : Value) (egress : EgressConfig) : NetM HttpResponse := do
  let url ← Prog.ofExcept (urlOf args)
  let body := ((args.get "body").bind JsonValue.asStr).map fun text => text.toUTF8.data.toList
  fetch .post url body egress

/-- A fetch answered. Source: `rollout-harness-tool/src/lib.rs` `dispatch_http`. Kind: D -/
def fetched (call : ToolCall) (started : Nat) (p : NetM HttpResponse) : HostAlways ToolResult := do
  match ← (p.embed onNet).outcome with
  | .ok resp => finished call .success (responseOutput resp) none started
  | .error .timedOut => finished call .timedOut .null (some (HttpError.display .timedOut)) started
  | .error e => errored call e.display started

/-- Source: `rollout-harness-tool/src/lib.rs` `dispatch_http`. Kind: D -/
def dispatchHttp (s : ToolSettings) (call : ToolCall) : HostAlways ToolResult := do
  let started ← ask .now
  if call.tool = "http_get" ∧ s.enableHttpGet then fetched call started (httpGet call.args s.egress)
  else if call.tool = "http_post" ∧ s.enableHttpPost then
    fetched call started (httpPost call.args s.egress)
  else errored call ("unknown or disabled tool: " ++ call.tool) started

/-- One call of a batch. Source: `rollout-harness-tool/src/lib.rs` `invoke`. Kind: D -/
def invokeOne (s : ToolSettings) (call : ToolCall) : HostAlways ToolResult :=
  if call.tool = "http_get" ∨ call.tool = "http_post" then dispatchHttp s call else dispatch s call

/-- A batch of calls; it never fails as a whole. Source: `rollout-harness-tool/src/lib.rs` `invoke`.
Kind: D -/
def invoke (s : ToolSettings) (calls : List ToolCall) : HostAlways (List ToolResult) :=
  Prog.each (invokeOne s) calls

/-! ## What is asked for a call -/

/-- The tool is one of the advertised. Source: `rollout-harness-tool/src/lib.rs` `specs`. Kind: D -/
def Advertised (s : ToolSettings) (tool : String) : Prop := tool ∈ (specs s).map ToolSpec.name

/-- The directory made for a call. Source: `rollout-harness-tool/src/lib.rs` `dispatch`. Kind: D -/
def madeDir (said : List (Said host)) : Option String :=
  said.findSome? fun
    | ⟨.tempDir, .ok root⟩ => some root
    | _ => none

/-- What was said on the network. Source: `rollout-harness-tool/src/lib.rs` `dispatch_http`.
Kind: D -/
def heardNet (said : List (Said host)) : List (Said netIface) :=
  said.filterMap fun
    | ⟨.net o, r⟩ => some ⟨o, r⟩
    | _ => none

/-- What a call asks to be run: the interpreter on its code, or a command of the allowlist on its
arguments, within the limits of the settings. Source: `rollout-harness-tool/src/lib.rs` `dispatch`.
Kind: D -/
def Requests (s : ToolSettings) (call : ToolCall) (root : String) (req : ExecRequest) : Prop :=
  req.tempdir = root ∧ req.timeout = s.timeout ∧ req.rlimits = s.rlimits ∧
    ((call.tool = "python_exec" ∧ req.exactPath = s.pythonPath ∧
        ∃ code, (fieldsOf ["code"] call.args).bind codeArg = some code ∧
          req.argv.drop 1 = ["-I", "-c", code]) ∨
      (call.tool = "shell" ∧ ∃ cmd, s.shellAllowlist.lookup cmd = some req.exactPath ∧
        (fieldsOf ["argv"] call.args).bind argvArg = some (cmd :: req.argv.drop 1)))

/-- What the harness may ask of its host for a call, after what it has asked for it so far.
Source: `rollout-harness-tool/src/lib.rs` `dispatch`, `dispatch_http`. Kind: D -/
def Allowed (s : ToolSettings) (call : ToolCall) (own : List (Said host)) : HostOp → Prop
  | .now => True
  -- one directory for a call
  | .tempDir => madeDir own = none
  | .removeTempDir root => madeDir own = some root
  -- the file tools, below it
  | .openRoot root => Advertised s call.tool ∧ madeDir own = some root
  | .read root rel => call.tool = "file_read" ∧ Advertised s call.tool ∧
      madeDir own = some root ∧ Inside rel
  | .write root rel _ => call.tool = "file_write" ∧ Advertised s call.tool ∧
      madeDir own = some root ∧ Inside rel
  -- the HTTP tools, with safe targets
  | .net o => (call.tool = "http_get" ∨ call.tool = "http_post") ∧ Advertised s call.tool ∧
      ∃ url, urlOf call.args = .ok url ∧ Permitted s.egress url (heardNet own) o
  -- the others, in the sandbox
  | o => Advertised s call.tool ∧ ∃ root req, madeDir own = some root ∧ Requests s call root req ∧
      Confines req own o

theorem madeDir_extends {said said' : List (Said host)} {root : String} (h : said <+: said')
    (hmade : madeDir said = some root) : madeDir said' = some root := by
  obtain ⟨more, rfl⟩ := h
  rw [madeDir, List.findSome?_append]
  exact Option.or_eq_some_iff.mpr (.inl hmade)

/-- What is confined is allowed for the call that requests it. Source:
`rollout-harness-tool/src/lib.rs` `dispatch`. Kind: L -/
theorem allowed_of_confines {s : ToolSettings} {call : ToolCall} {root : String} {req : ExecRequest}
    {own : List (Said host)} (hadv : Advertised s call.tool) (hmade : madeDir own = some root)
    (hreq : Requests s call root req) {o : HostOp} (h : Confines req own o) : Allowed s call own o := by
  cases o with
  | now => trivial
  | tempDir => exact h.elim
  | removeTempDir root => exact h.elim
  | openRoot root => exact h.elim
  | read root rel => exact h.elim
  | write root rel contents => exact h.elim
  | net o => exact h.elim
  | _ => exact ⟨hadv, root, req, hmade, hreq, h⟩

/-! ## What a result tells -/

/-- An error and its text. Source: `rollout-harness-tool/src/lib.rs` `errored`. Kind: D -/
def Errored (outcome : ToolOutcome) (output : Value) (stderr : Option String) : Prop :=
  outcome = .error ∧ output = .null ∧ ∃ msg, stderr = some msg

/-- A hop as it was heard: the head of a response and its body right after it.
Source: `rollout-harness-tool/src/http/mod.rs` `drive`. Kind: D -/
def HopHeard (said : List (Said netIface)) (hop : Hop) : Prop :=
  ∃ req, [⟨.sendRequest req, .ok (hop.status, hop.location)⟩, ⟨.collect, .ok hop.body⟩] <:+: said

/-- What a result that is no error tells: what the host has done for the call.
Source: `rollout-harness-tool/src/lib.rs` `dispatch`, `dispatch_http`. Kind: D -/
inductive Did (s : ToolSettings) (call : ToolCall) (own : List (Said host)) :
    ToolOutcome → Value → Option String → Prop
  | ran {root : String} {req : ExecRequest} {out : ExecResult} (hreq : Requests s call root req)
      (hran : ⟨command req, .ok ()⟩ ∈ own) (hwaited : ⟨.wait s.timeout, .ok out⟩ ∈ own) :
      Did s call own (if out.timedOut then .timedOut else .success)
        (.object [("exit_code", .number (ToolLib.ofInt out.exitCode)),
          ("stdout", .string (ToolLib.lossy out.stdout))])
        (if ToolLib.lossy out.stderr = "" then none else some (ToolLib.lossy out.stderr))
  | read {root rel : String} {bytes : List UInt8} (htool : call.tool = "file_read")
      (hargs : (fieldsOf ["path"] call.args).bind pathArg = some rel)
      (hread : ⟨.read root rel, .ok bytes⟩ ∈ own) :
      Did s call own .success (.object [("contents", .string (ToolLib.lossy bytes))]) none
  | wrote {root rel contents : String} (htool : call.tool = "file_write")
      (hargs : (fieldsOf ["path", "contents"] call.args).bind pathContentsArg = some (rel, contents))
      (hwrote : ⟨.write root rel contents.toUTF8.data.toList, .ok ()⟩ ∈ own) :
      Did s call own .success
        (.object [("bytes_written", .number (ToolLib.ofInt contents.toUTF8.data.toList.length))]) none
  | fetched {hop : Hop} (htool : call.tool = "http_get" ∨ call.tool = "http_post")
      (hheard : HopHeard (heardNet own) hop) (hlast : redirectOf hop.status hop.location = none) :
      Did s call own .success (responseOutput ⟨hop.status, hop.body⟩) none
  | late (htool : call.tool = "http_get" ∨ call.tool = "http_post") :
      Did s call own .timedOut .null (some "request timed out")

/-- A result under the id of its call that is an error or tells what was done.
Source: `rollout-harness-tool/src/lib.rs` `dispatch`, `dispatch_http`. Kind: D -/
structure Tells (s : ToolSettings) (call : ToolCall) (own : List (Said host)) (result : ToolResult) :
    Prop where
  callId : result.callId = call.callId
  tells : Errored result.outcome result.output result.stderr ∨
    Did s call own result.outcome result.output result.stderr

/-- **A call answered**, with the directory made for it removed last.
Source: `rollout-harness-tool/src/lib.rs` `dispatch`, `dispatch_http`. Kind: D -/
structure Answers (s : ToolSettings) (call : ToolCall) (own : List (Said host)) (result : ToolResult) :
    Prop extends Tells s call own result where
  tidy : ∀ root, madeDir own = some root → own.getLast? = some ⟨.removeTempDir root, ()⟩

theorem Did.mono {s : ToolSettings} {call : ToolCall} {own own' : List (Said host)}
    {outcome : ToolOutcome} {output : Value} {stderr : Option String} (h : own <+: own')
    (hdid : Did s call own outcome output stderr) : Did s call own' outcome output stderr := by
  have hmem := h.subset
  cases hdid with
  | ran hreq hran hwaited => exact .ran hreq (hmem hran) (hmem hwaited)
  | read htool hargs hread => exact .read htool hargs (hmem hread)
  | wrote htool hargs hwrote => exact .wrote htool hargs (hmem hwrote)
  | fetched htool hheard hlast =>
      obtain ⟨req, hreq⟩ := hheard
      exact .fetched htool ⟨req, hreq.trans (h.filterMap _).isInfix⟩ hlast
  | late htool => exact .late htool

theorem Tells.mono {s : ToolSettings} {call : ToolCall} {own own' : List (Said host)}
    {result : ToolResult} (h : own <+: own') (htells : Tells s call own result) :
    Tells s call own' result :=
  ⟨htells.callId, htells.tells.imp_right (Did.mono h)⟩

section dispatch

variable {s : ToolSettings} {call : ToolCall} {said : List (Said host)} {root : String}

/-- The tools that are advertised are those that are enabled. Source:
`rollout-harness-tool/src/lib.rs` `specs`. Kind: L -/
theorem advertised_iff {tool : String} : Advertised s tool ↔
    (s.enablePythonExec ∧ tool = "python_exec") ∨ (s.enableShell ∧ tool = "shell") ∨
      (s.enableFileRead ∧ tool = "file_read") ∨ (s.enableFileWrite ∧ tool = "file_write") ∨
        (s.enableHttpGet ∧ tool = "http_get") ∨ (s.enableHttpPost ∧ tool = "http_post") := by
  unfold Advertised specs
  simp only [List.map_append, List.mem_append, or_assoc]
  refine or_congr ?_ (or_congr ?_ (or_congr ?_ (or_congr ?_ (or_congr ?_ ?_))))
  all_goals split <;> simp_all

theorem argsOf_guarded {α β : Type} {φ : List (Said host) → HostOp → Prop}
    {post : List (Said host) → β → Prop} {tool : String} {names : List String}
    {read : List Value → Option α} {args : Value} {f : α → HostM β}
    (h : ∀ a, (fieldsOf names args).bind read = some a → Prog.Guarded φ post said (f a)) :
    Prog.Guarded φ post said (argsOf tool names read args >>= f) := by
  unfold argsOf
  split
  · next a ha => exact h a ha
  · trivial

/-- A request that the call makes, run. Source: `rollout-harness-tool/src/lib.rs` `dispatch`.
Kind: L -/
theorem launch_allowed {req : ExecRequest} (hadv : Advertised s call.tool)
    (hmade : madeDir said = some root) (hreq : Requests s call root req) :
    Prog.Guarded (Allowed s call) (fun said' out => Did s call said'
      (if out.timedOut then .timedOut else .success) (execOutput out).1 (execOutput out).2.1) said
      (launch req) := by
  refine (launch_guarded req said).imp (fun own o hle h => ?_) fun own out _ h => ?_
  · exact allowed_of_confines hadv (madeDir_extends hle hmade) hreq h
  · exact .ran hreq h.1 (hreq.2.1 ▸ h.2)

theorem pythonExec_allowed (hadv : Advertised s call.tool) (htool : call.tool = "python_exec")
    (hmade : madeDir said = some root) :
    Prog.Guarded (Allowed s call) (fun said' out => Did s call said'
      (if out.timedOut then .timedOut else .success) (execOutput out).1 (execOutput out).2.1) said
      (pythonExec s.pythonPath call.args s.timeout root s.rlimits s.cgroupMemoryMax
        s.cgroupPidsMax) :=
  argsOf_guarded fun code hcode =>
    launch_allowed hadv hmade ⟨rfl, rfl, rfl, .inl ⟨htool, rfl, code, hcode, rfl⟩⟩

theorem shell_allowed (hadv : Advertised s call.tool) (htool : call.tool = "shell")
    (hmade : madeDir said = some root) :
    Prog.Guarded (Allowed s call) (fun said' out => Did s call said'
      (if out.timedOut then .timedOut else .success) (execOutput out).1 (execOutput out).2.1) said
      (shell s.shellAllowlist call.args s.timeout root s.rlimits s.cgroupMemoryMax
        s.cgroupPidsMax) := by
  refine argsOf_guarded fun argv hargv => ?_
  split
  · trivial
  · next cmd rest =>
    split
    · trivial
    · next exactPath hpath =>
      exact launch_allowed hadv hmade ⟨rfl, rfl, rfl, .inr ⟨htool, cmd, hpath, hargv⟩⟩

theorem capRead_allowed {rel : String} (hadv : Advertised s call.tool)
    (htool : call.tool = "file_read") (hmade : madeDir said = some root) :
    Prog.Guarded (Allowed s call) (fun said' bytes => ⟨.read root rel, .ok bytes⟩ ∈ said') said
      (capRead root rel) := by
  refine Prog.Guarded.ofExcept_bind fun _ hinside => ?_
  refine Prog.Guarded.op_bind ⟨htool, hadv, hmade, inside_of_rejectEscape hinside⟩ fun bytes => ?_
  cases bytes with
  | error e => trivial
  | ok bytes => exact List.mem_append_right _ (List.mem_singleton_self _)

theorem capWrite_allowed {rel : String} {contents : List UInt8} (hadv : Advertised s call.tool)
    (htool : call.tool = "file_write") (hmade : madeDir said = some root) :
    Prog.Guarded (Allowed s call) (fun said' _ => ⟨.write root rel contents, .ok ()⟩ ∈ said') said
      (capWrite root rel contents) := by
  refine Prog.Guarded.ofExcept_bind fun _ hinside => ?_
  refine Prog.Guarded.op_bind ⟨htool, hadv, hmade, inside_of_rejectEscape hinside⟩ fun written => ?_
  cases written with
  | error e => trivial
  | ok _ => exact List.mem_append_right _ (List.mem_singleton_self _)

theorem fileRead_allowed (hadv : Advertised s call.tool) (htool : call.tool = "file_read")
    (hmade : madeDir said = some root) :
    Prog.Guarded (Allowed s call) (fun said' out => Did s call said' .success
      (.object [("contents", .string out)]) none) said (fileRead root call.args) := by
  refine argsOf_guarded fun rel hrel => ?_
  refine Prog.Guarded.op_bind ⟨hadv, hmade⟩ fun opened => Prog.Guarded.ofExcept_bind fun _ _ => ?_
  have hmade' := madeDir_extends (List.prefix_append said [⟨.openRoot root, opened⟩]) hmade
  exact (capRead_allowed hadv htool hmade').bind fun _ _ hread => .read htool hrel hread

theorem fileWrite_allowed (hadv : Advertised s call.tool) (htool : call.tool = "file_write")
    (hmade : madeDir said = some root) :
    Prog.Guarded (Allowed s call) (fun said' (n : Nat) => Did s call said' .success
      (.object [("bytes_written", .number (ToolLib.ofInt n))]) none) said
      (fileWrite root call.args) := by
  refine argsOf_guarded fun args hargs => ?_
  refine Prog.Guarded.op_bind ⟨hadv, hmade⟩ fun opened => Prog.Guarded.ofExcept_bind fun _ _ => ?_
  have hmade' := madeDir_extends (List.prefix_append said [⟨.openRoot root, opened⟩]) hmade
  exact (capWrite_allowed hadv htool hmade').bind fun _ _ hwrote => .wrote htool hargs hwrote

/-- The tool of a call asks what is allowed, and what it puts out tells what was done.
Source: `rollout-harness-tool/src/lib.rs` `dispatch`. Kind: L -/
theorem runTool_allowed (hmade : madeDir said = some root) :
    Prog.Guarded (Allowed s call) (fun said' out => Did s call said'
      (if out.2.2 then .timedOut else .success) out.1 out.2.1) said (runTool s call root) := by
  unfold runTool
  split
  · next h =>
    have hadv : Advertised s call.tool := advertised_iff.mpr (.inl ⟨h.2, h.1⟩)
    exact (pythonExec_allowed hadv h.1 hmade).bind fun _ _ hout => hout
  split
  · next h =>
    have hadv : Advertised s call.tool := advertised_iff.mpr (.inr (.inl ⟨h.2, h.1⟩))
    exact (shell_allowed hadv h.1 hmade).bind fun _ _ hout => hout
  split
  · next h =>
    have hadv : Advertised s call.tool := advertised_iff.mpr (.inr (.inr (.inl ⟨h.2, h.1⟩)))
    exact (fileRead_allowed hadv h.1 hmade).bind fun _ _ hout => hout
  split
  · next h =>
    have hadv : Advertised s call.tool :=
      advertised_iff.mpr (.inr (.inr (.inr (.inl ⟨h.2, h.1⟩))))
    exact (fileWrite_allowed hadv h.1 hmade).bind fun _ _ hout => hout
  · trivial

end dispatch

/-! ## What the client hands back -/

section client

variable {said : List (Said netIface)}

theorem drive_heard (req : Request) :
    Prog.Guarded (fun _ _ => True) HopHeard said (drive req) := by
  refine Prog.Guarded.op_bind trivial fun sent => Prog.Guarded.ofExcept_bind fun head hhead => ?_
  refine Prog.Guarded.op_bind trivial fun collected => Prog.Guarded.ofExcept_bind fun body hbody => ?_
  rw [eq_ok_of_answered hhead, eq_ok_of_answered hbody]
  exact ⟨req, said, [], by simp⟩

theorem send_heard (method : Method) (uri : Uri) (name : String) (addr : SocketAddr)
    (body : Option (List UInt8)) :
    Prog.Guarded (fun _ _ => True) HopHeard said (sendHttp method uri name addr body) ∧
      Prog.Guarded (fun _ _ => True) HopHeard said (sendHttps method uri name addr body) := by
  constructor
  · refine Prog.Guarded.op_bind trivial fun opened => Prog.Guarded.ofExcept_bind fun _ _ => ?_
    refine Prog.Guarded.op_bind trivial fun shaken => Prog.Guarded.ofExcept_bind fun _ _ => ?_
    exact Prog.Guarded.ofExcept_bind fun req _ => drive_heard req
  · refine Prog.Guarded.op_bind trivial fun opened => Prog.Guarded.ofExcept_bind fun _ _ => ?_
    refine Prog.Guarded.ofExcept_bind fun _ _ => ?_
    refine Prog.Guarded.op_bind trivial fun secured => Prog.Guarded.ofExcept_bind fun _ _ => ?_
    refine Prog.Guarded.op_bind trivial fun shaken => Prog.Guarded.ofExcept_bind fun _ _ => ?_
    exact Prog.Guarded.ofExcept_bind fun req _ => drive_heard req

theorem oneHop_heard (method : Method) (url : String) (body : Option (List UInt8))
    (egress : EgressConfig) :
    Prog.Guarded (fun _ _ => True) HopHeard said (oneHop method url body egress) := by
  refine Prog.Guarded.ofExcept_bind fun uri _ => ?_
  simp only
  split
  · trivial
  · refine Prog.Guarded.ofExcept_bind fun name _ => ?_
    refine Prog.Guarded.op_bind trivial fun resolved => ?_
    refine Prog.Guarded.ofExcept_bind fun ips _ => ?_
    split
    · trivial
    · refine Prog.Guarded.ofExcept_bind fun pinned _ => ?_
      split
      · exact (send_heard method uri name _ body).2
      · exact (send_heard method uri name _ body).1

/-- A response is that of a hop that redirects nowhere. Source:
`rollout-harness-tool/src/http/mod.rs` `fetch`. Kind: L -/
theorem fetchFrom_heard (method : Method) (body : Option (List UInt8)) (egress : EgressConfig)
    (left : Nat) (url : String) :
    Prog.Guarded (fun _ _ => True) (fun said' resp => ∃ hop, HopHeard said' hop ∧
      redirectOf hop.status hop.location = none ∧ resp = ⟨hop.status, hop.body⟩) said
      (fetchFrom method body egress left url) := by
  induction left generalizing url said with
  | zero =>
      rw [fetchFrom]
      refine (oneHop_heard method url body egress).bind fun said' hop hheard => ?_
      split
      · next hlast => exact ⟨hop, hheard, hlast, rfl⟩
      · trivial
  | succ left ih =>
      rw [fetchFrom]
      refine (oneHop_heard method url body egress).bind fun said' hop hheard => ?_
      split
      · next hlast => exact ⟨hop, hheard, hlast, rfl⟩
      · exact Prog.Guarded.ofExcept_bind fun next _ => ih next

end client

/-! ## Calls -/

section calls

variable {s : ToolSettings} {call : ToolCall} {said : List (Said host)} {root : String}

theorem heardNet_net (o : NetOp) (r : o.Resp) :
    heardNet (said ++ [⟨.net o, r⟩]) = heardNet said ++ [⟨o, r⟩] := by
  rw [heardNet, List.filterMap_append]
  rfl

theorem heardNet_now (t : Nat) : heardNet (said ++ [⟨.now, t⟩]) = heardNet said := by
  rw [heardNet, List.filterMap_append]
  exact List.append_nil _

theorem madeDir_snoc (o : HostOp) (r : o.Resp) (h : o ≠ .tempDir) :
    madeDir (said ++ [⟨o, r⟩]) = madeDir said := by
  rw [madeDir, List.findSome?_append]
  cases o with
  | tempDir => exact absurd rfl h
  | _ => exact Option.or_none

/-- What is asked for a call that needs no directory. Source: `rollout-harness-tool/src/lib.rs`
`dispatch_http`. Kind: D -/
def AllowedHttp (s : ToolSettings) (call : ToolCall) (own : List (Said host)) (o : HostOp) : Prop :=
  o ≠ .tempDir ∧ Allowed s call own o

/-- A fetch for a call asks what is allowed. Source: `rollout-harness-tool/src/lib.rs`
`dispatch_http`. Kind: L -/
theorem fetch_allowed {method : Method} {url : String} {body : Option (List UInt8)}
    (htool : call.tool = "http_get" ∨ call.tool = "http_post") (hadv : Advertised s call.tool)
    (hurl : urlOf call.args = .ok url) (hfirst : heardNet said = []) :
    Prog.Guarded (AllowedHttp s call) (fun said' resp => Did s call said' .success
      (responseOutput resp) none) said ((fetch method url body s.egress).embed onNet) := by
  have hpermitted : Prog.Guarded (Permitted s.egress url) (fun _ _ => True) []
      (fetch method url body s.egress) := fetchFrom_guarded rfl rfl rfl
  have hboth := hpermitted.and (fetchFrom_heard method body s.egress maxRedirects url)
  rw [← hfirst] at hboth
  refine (hboth.embed (E := onNet) (fun h o r => heardNet_net o r) fun h o ho =>
    ⟨HostOp.noConfusion, htool, hadv, url, hurl, ho⟩).imp (fun _ _ _ ho => ho) fun said' resp _ h => ?_
  obtain ⟨-, hop, hheard, hlast, rfl⟩ := h
  exact .fetched htool hheard hlast

/-- The two HTTP tools ask what is allowed. Source: `rollout-harness-tool/src/tools/http_get.rs` `run`,
`rollout-harness-tool/src/tools/http_post.rs` `run`. Kind: L -/
theorem http_allowed (htool : call.tool = "http_get" ∨ call.tool = "http_post")
    (hadv : Advertised s call.tool) (hfirst : heardNet said = []) :
    Prog.Guarded (AllowedHttp s call) (fun said' resp => Did s call said' .success
        (responseOutput resp) none) said ((httpGet call.args s.egress).embed onNet) ∧
      Prog.Guarded (AllowedHttp s call) (fun said' resp => Did s call said' .success
        (responseOutput resp) none) said ((httpPost call.args s.egress).embed onNet) := by
  unfold httpGet httpPost
  cases hurl : urlOf call.args with
  | error e => exact ⟨trivial, trivial⟩
  | ok url => exact ⟨fetch_allowed htool hadv hurl hfirst, fetch_allowed htool hadv hurl hfirst⟩

/-- A result put together. Source: `rollout-harness-tool/src/lib.rs` `errored`. Kind: L -/
theorem finished_guarded {φ : List (Said host) → HostOp → Prop} (hnow : φ said .now)
    {outcome : ToolOutcome} {output : Value} {stderr : Option String} {started : Nat}
    (h : Errored outcome output stderr ∨ Did s call said outcome output stderr) :
    Prog.Guarded φ (fun said' result => Tells s call said' result ∧ madeDir said' = madeDir said) said
      (finished call outcome output stderr started) :=
  Prog.Guarded.op_bind hnow fun ended =>
    ⟨⟨rfl, h.imp_right (Did.mono (List.prefix_append _ _))⟩,
      madeDir_snoc .now ended HostOp.noConfusion⟩

theorem errored_guarded {φ : List (Said host) → HostOp → Prop} (hnow : φ said .now) {msg : String}
    {started : Nat} :
    Prog.Guarded φ (fun said' result => Tells s call said' result ∧ madeDir said' = madeDir said) said
      (errored call msg started) :=
  finished_guarded hnow (.inl ⟨rfl, rfl, msg, rfl⟩)

/-- The directory goes last. Source: `rollout-harness-tool/src/lib.rs` `dispatch`. Kind: L -/
theorem removed_guarded {result : ToolResult} (hmade : madeDir said = some root)
    (htells : Tells s call said result) :
    Prog.Guarded (Allowed s call) (Answers s call) said
      (ask (.removeTempDir root) >>= fun _ => (return result : HostAlways ToolResult)) := by
  refine Prog.Guarded.op_bind hmade fun _ => ⟨htells.mono (List.prefix_append _ _), fun root' h => ?_⟩
  rw [madeDir_snoc _ _ HostOp.noConfusion, hmade] at h
  obtain rfl := Option.some.inj h
  exact List.getLast?_concat

/-- **A call run here.** Source: `rollout-harness-tool/src/lib.rs` `dispatch`. Kind: L -/
theorem dispatch_guarded (s : ToolSettings) (call : ToolCall) :
    Prog.Guarded (Allowed s call) (Answers s call) [] (dispatch s call) := by
  refine Prog.Guarded.op_bind trivial fun started => Prog.Guarded.op_bind rfl fun made => ?_
  cases made with
  | error e =>
      refine (errored_guarded trivial).imp (fun _ _ _ ho => ho) fun said' result _ h =>
        ⟨h.1, fun root hroot => ?_⟩
      rw [h.2] at hroot
      cases hroot
  | ok root =>
      have hmade : madeDir [⟨.now, started⟩, ⟨.tempDir, .ok root⟩] = some root := rfl
      refine (runTool_allowed hmade).bind_outcome (fun said' out hle hdid => ?_) fun said' e hle => ?_
      · refine (finished_guarded trivial (.inr hdid)).bind fun said'' result h => ?_
        exact removed_guarded (h.2.trans (madeDir_extends hle hmade)) h.1
      · refine (errored_guarded (s := s) trivial).bind fun said'' result h => ?_
        exact removed_guarded (h.2.trans (madeDir_extends hle hmade)) h.1

/-- A fetch answered. Source: `rollout-harness-tool/src/lib.rs` `dispatch_http`. Kind: L -/
theorem fetched_guarded {started : Nat} {p : NetM HttpResponse}
    (htool : call.tool = "http_get" ∨ call.tool = "http_post")
    (h : Prog.Guarded (AllowedHttp s call) (fun said' resp => Did s call said' .success
      (responseOutput resp) none) said (p.embed onNet)) :
    Prog.Guarded (AllowedHttp s call) (fun said' result => Tells s call said' result) said
      (fetched call started p) := by
  have hnow : ∀ said', AllowedHttp s call said' .now := fun _ => ⟨HostOp.noConfusion, trivial⟩
  refine h.bind_outcome (fun said' resp _ hdid => ?_) fun said' e _ => ?_
  · exact (finished_guarded (hnow said') (.inr hdid)).imp (fun _ _ _ ho => ho) fun _ _ _ h => h.1
  · cases e with
    | timedOut =>
        refine (finished_guarded (hnow said') (.inr ?_)).imp (fun _ _ _ ho => ho) fun _ _ _ h => h.1
        exact .late htool
    | _ => exact (errored_guarded (hnow said')).imp (fun _ _ _ ho => ho) fun _ _ _ h => h.1

/-- **A call on the network.** Source: `rollout-harness-tool/src/lib.rs` `dispatch_http`. Kind: L -/
theorem dispatchHttp_guarded (s : ToolSettings) (call : ToolCall) :
    Prog.Guarded (Allowed s call) (Answers s call) [] (dispatchHttp s call) := by
  have hfetch : Prog.Guarded (AllowedHttp s call) (fun said' result => Tells s call said' result) []
      (dispatchHttp s call) := by
    refine Prog.Guarded.op_bind ⟨HostOp.noConfusion, trivial⟩ fun started => ?_
    split
    · next h =>
      have hadv := advertised_iff.mpr (.inr (.inr (.inr (.inr (.inl ⟨h.2, h.1⟩)))))
      exact fetched_guarded (.inl h.1) (http_allowed (.inl h.1) hadv rfl).1
    split
    · next h =>
      have hadv := advertised_iff.mpr (.inr (.inr (.inr (.inr (.inr ⟨h.2, h.1⟩)))))
      exact fetched_guarded (.inr h.1) (http_allowed (.inr h.1) hadv rfl).2
    · exact (errored_guarded ⟨HostOp.noConfusion, trivial⟩).imp (fun _ _ _ ho => ho) fun _ _ _ h => h.1
  have hkept := hfetch.keeps (fun said' => madeDir said' = none)
    (fun h o r ho hnone => (madeDir_snoc o r ho.1).trans hnone) rfl
  refine hkept.imp (fun _ _ _ ho => ho.2) fun said' result _ h => ⟨h.1, fun root hroot => ?_⟩
  rw [h.2] at hroot
  cases hroot

theorem invokeOne_guarded (s : ToolSettings) (call : ToolCall) :
    Prog.Guarded (Allowed s call) (Answers s call) [] (invokeOne s call) := by
  unfold invokeOne
  split
  · exact dispatchHttp_guarded s call
  · exact dispatch_guarded s call

end calls

/-! ## Batches -/

/-- **Every call is answered**, in order, by a result under its id that is an error or tells what the
host has done, and leaves no directory behind. Source: `rollout-harness-tool/src/lib.rs` `invoke`.
Kind: C -/
theorem invoke_answers (s : ToolSettings) (calls : List ToolCall) {said : List (Said host)}
    {results : List ToolResult} (hsaid : (invoke s calls).Completes said (.ok results)) :
    ∃ parts : List (List (Said host) × ToolResult), said = (parts.map Prod.fst).flatten ∧
      results = parts.map Prod.snd ∧
      List.Forall₂ (fun call part => Answers s call part.1 part.2) calls parts := by
  obtain ⟨parts, hparts, hresults, hall⟩ := Prog.Completes.each hsaid
  refine ⟨parts, hparts, hresults, hall.imp fun call part hpart => ?_⟩
  exact (invokeOne_guarded s call).completes hpart

/-! ## Nothing is carried over -/

/-- Whether a directory is made under this name. Source: `rollout-harness-tool/src/lib.rs` `dispatch`
(`TempDir::new`). Kind: D -/
def makes (root : String) : Said host → Bool
  | ⟨.tempDir, .ok dir⟩ => dir == root
  | _ => false

/-- What was said since a directory was last made under this name, the latest first.
Source: `rollout-harness-tool/src/lib.rs` `dispatch`. Kind: D -/
def since (root : String) (said : List (Said host)) : List (Said host) :=
  said.reverse.takeWhile fun s => !makes root s

/-- What may leave something in a directory: a file written below it, or a binary run.
Source: `rollout-harness-tool/src/lib.rs` `dispatch`. Kind: D -/
def Fills (root : String) : Said host → Prop
  | ⟨.write dir _ _, .ok _⟩ => dir = root
  | ⟨.execve _ _ _, .ok _⟩ => True
  | _ => False

/-- A host whose new directories are empty: a file read was put there since the directory was made.
Source: `rollout-harness-tool/src/lib.rs` `dispatch` (`TempDir::new`). Kind: D -/
def Fresh (said : List (Said host)) : Prop :=
  ∀ before root rel bytes after, said = before ++ ⟨.read root rel, .ok bytes⟩ :: after →
    ∃ e ∈ since root before, Fills root e

theorem exists_makes_of_madeDir {own : List (Said host)} {root : String}
    (h : madeDir own = some root) : ∃ e ∈ own, makes root e = true := by
  obtain ⟨e, he, hroot⟩ := List.exists_of_findSome?_eq_some h
  refine ⟨e, he, ?_⟩
  obtain ⟨op, r⟩ := e
  cases op with
  | tempDir =>
      cases r with
      | error e => cases hroot
      | ok dir =>
          obtain rfl := Option.some.inj hroot
          exact beq_self_eq_true dir
  | _ => cases hroot

/-- What was said since the directory of a call was made was said for the call.
Source: `rollout-harness-tool/src/lib.rs` `dispatch`. Kind: L -/
theorem mem_of_mem_since {earlier own : List (Said host)} {root : String}
    (h : madeDir own = some root) {e : Said host} (he : e ∈ since root (earlier ++ own)) : e ∈ own := by
  obtain ⟨made, hmade, hmakes⟩ := exists_makes_of_madeDir h
  unfold since at he
  rw [List.reverse_append, List.takeWhile_append] at he
  split at he
  · next hall =>
    have heq := List.takeWhile_eq_self_iff.mp
      ((List.takeWhile_prefix fun s => !makes root s).eq_of_length hall)
    have := heq made (List.mem_reverse.mpr hmade)
    rw [hmakes] at this
    cases this
  · exact List.mem_reverse.mp ((List.takeWhile_prefix _).subset he)

/-- Nothing a `file_read` asks leaves anything in a directory. Source:
`rollout-harness-tool/src/lib.rs` `dispatch`. Kind: L -/
theorem not_fills_of_allowed {s : ToolSettings} {call : ToolCall} {own : List (Said host)}
    {e : Said host} {root : String} (htool : call.tool = "file_read")
    (h : Allowed s call own e.op) : ¬ Fills root e := by
  obtain ⟨op, r⟩ := e
  cases op with
  | write dir rel contents =>
      have hwrite := htool.symm.trans h.1
      simp at hwrite
  | execve path argv env =>
      obtain ⟨-, root', req, -, ⟨-, -, -, ⟨hpython, -⟩ | ⟨hshell, -⟩⟩, -⟩ := h
      · have := htool.symm.trans hpython
        simp at this
      · have := htool.symm.trans hshell
        simp at this
  | _ => exact id

/-- A `file_read` that puts something out has read it. Source: `rollout-harness-tool/src/lib.rs`
`dispatch`. Kind: L -/
theorem Did.exists_read {s : ToolSettings} {call : ToolCall} {own : List (Said host)}
    {outcome : ToolOutcome} {output : Value} {stderr : Option String}
    (hdid : Did s call own outcome output stderr) (htool : call.tool = "file_read") :
    ∃ root rel bytes, ⟨.read root rel, .ok bytes⟩ ∈ own := by
  cases hdid with
  | read _ _ hread => exact ⟨_, _, _, hread⟩
  | ran hreq _ _ => rcases hreq.2.2.2 with ⟨hpython, -⟩ | ⟨hshell, -⟩ <;> simp_all
  | wrote hwrite _ _ => simp_all
  | fetched hhttp _ _ => simp_all
  | late hhttp => simp_all

/-- **No `file_read` succeeds** on a host whose new directories are empty, whatever was written for
the calls before it: each call has a directory of its own, and this one writes nothing.
Source: `rollout-harness-tool/src/lib.rs` `dispatch`, `invoke`. Kind: C -/
theorem file_read_fails (s : ToolSettings) (calls : List ToolCall) {said : List (Said host)}
    {results : List ToolResult} (hsaid : (invoke s calls).Completes said (.ok results))
    (hfresh : Fresh said) {i : Nat} {call : ToolCall} {result : ToolResult}
    (hcall : calls[i]? = some call) (hresult : results[i]? = some result)
    (htool : call.tool = "file_read") : result.outcome = .error := by
  obtain ⟨earlier, own, later, rfl, hown⟩ := Prog.Completes.each_at hsaid hcall hresult
  have hguarded := invokeOne_guarded s call
  rcases (hguarded.completes hown).tells with herror | hdid
  · exact herror.1
  · exfalso
    obtain ⟨root, rel, bytes, hread⟩ := hdid.exists_read htool
    obtain ⟨before, after, rfl⟩ := List.append_of_mem hread
    have hmade : madeDir before = some root := (hguarded.sound hown.dialogue rfl).2.2.1
    obtain ⟨e, he, hfills⟩ := hfresh (earlier ++ before) root rel bytes (after ++ later) (by simp)
    obtain ⟨l, l', rfl⟩ := List.append_of_mem (mem_of_mem_since hmade he)
    have hsplit : (l ++ e :: l') ++ ⟨.read root rel, .ok bytes⟩ :: after =
        l ++ e :: (l' ++ ⟨.read root rel, .ok bytes⟩ :: after) := by simp
    exact not_fills_of_allowed htool (hguarded.sound hown.dialogue hsplit) hfills

end harness

/-! ## Two batches -/

/-- Libraries that say nothing. Source: none: infrastructure. Kind: D -/
@[reducible] def plainTool : ToolLib where
  Number := ℤ
  ofInt := id
  lossy _ := ""
  strerror _ := ""
  showHint _ := ""
  mismatch _ := ""

/-- A call. Source: none: infrastructure. Kind: D -/
def plainCall (tool : String) (fields : List (String × String)) : @ToolCall plainTool :=
  @ToolCall.mk plainTool ⟨0⟩ tool (.object (fields.map fun f => (f.1, .string f.2)))

/-- A host that runs an interpreter up to its `execve`. Source: none: infrastructure. Kind: D -/
def setUp : List (Said host) :=
  [⟨.now, (0 : Nat)⟩, ⟨.tempDir, .ok "/tmp/a"⟩, ⟨.processId, (7 : Nat)⟩,
    ⟨.isWritable "/sys/fs/cgroup/cgroup.subtree_control", false⟩, ⟨.buildFilter, .ok ()⟩,
    ⟨.fork, .ok 9⟩, ⟨.chdir "/tmp/a", .ok ()⟩,
    ⟨.unshare [.user, .pid, .net, .mount, .uts, .ipc], false⟩,
    ⟨.setrlimit .cpu 10 10, .ok ()⟩, ⟨.setrlimit .as 536870912 536870912, .ok ()⟩,
    ⟨.setrlimit .nofile 64 64, .ok ()⟩, ⟨.setrlimit .nproc 64 64, .ok ()⟩,
    ⟨.restrictSelf ⟨["/tmp/a"], ["/usr/bin/python3", "/usr"]⟩, .ok ()⟩, ⟨.applyFilter, .ok ()⟩]

/-- Its `execve`. Source: none: infrastructure. Kind: D -/
def runsPython : Said host :=
  ⟨.execve "/usr/bin/python3" ["/usr/bin/python3", "-I", "-c", "pass"]
    [("HOME", "/tmp/a"), ("PATH", "/usr/bin:/bin"), ("TMPDIR", "/tmp/a")], .ok ()⟩

/-- A file written for one call and asked for by the next. Source: none: infrastructure. Kind: D -/
def noteCalls : List (@ToolCall plainTool) :=
  [plainCall "file_write" [("path", "note"), ("contents", "x")],
    plainCall "file_read" [("path", "note")]]

/-- What is said for them. Source: none: infrastructure. Kind: D -/
def noteSaid : List (Said host) :=
  [⟨.now, (0 : Nat)⟩, ⟨.tempDir, .ok "/tmp/a"⟩, ⟨.openRoot "/tmp/a", .ok ()⟩,
    ⟨.write "/tmp/a" "note" [120], .ok ()⟩, ⟨.now, (1 : Nat)⟩, ⟨.removeTempDir "/tmp/a", ()⟩,
    ⟨.now, (2 : Nat)⟩, ⟨.tempDir, .ok "/tmp/b"⟩, ⟨.openRoot "/tmp/b", .ok ()⟩,
    ⟨.read "/tmp/b" "note", .error "No such file"⟩, ⟨.now, (3 : Nat)⟩,
    ⟨.removeTempDir "/tmp/b", ()⟩]

theorem note_completes :
    ∃ results, (@invoke plainTool bareHttp {} noteCalls).Completes noteSaid (.ok results) := by
  let _ := plainTool
  let _ := bareHttp
  have hends : (invoke {} noteCalls).ends noteSaid = true := by decide +kernel
  exact Prog.Completes.of_ends hends

theorem note_answered : ∃ parts : List (List (Said host) × @ToolResult plainTool),
    noteSaid = (parts.map Prod.fst).flatten ∧ List.Forall₂ (fun call part =>
      @Answers plainTool {} call part.1 part.2) noteCalls parts := by
  let _ := plainTool
  let _ := bareHttp
  obtain ⟨results, hresults⟩ := note_completes
  obtain ⟨parts, hparts, -, hall⟩ := invoke_answers {} noteCalls hresults
  exact ⟨parts, hparts, hall⟩

theorem note_not_read : ∃ results, ∃ result : @ToolResult plainTool,
    (@invoke plainTool bareHttp {} noteCalls).Completes noteSaid (.ok results) ∧
      results[1]? = some result ∧ @ToolResult.outcome plainTool result = .error := by
  let _ := plainTool
  let _ := bareHttp
  obtain ⟨results, hresults⟩ := note_completes
  obtain ⟨parts, -, rfl, hall⟩ := Prog.Completes.each hresults
  have hone : 1 < (parts.map Prod.snd).length := by
    rw [List.length_map, ← hall.length_eq]
    decide
  have hresult := List.getElem?_eq_getElem hone
  refine ⟨_, _, hresults, hresult, ?_⟩
  refine file_read_fails {} noteCalls hresults ?_ (i := 1) rfl hresult rfl
  intro before root rel bytes after hsplit
  have hmem : ⟨.read root rel, .ok bytes⟩ ∈ noteSaid := hsplit ▸ List.mem_append_right _ (.head _)
  simp [noteSaid] at hmem

end Rollout.Tool
