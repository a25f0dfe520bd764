import Rollout.Lib.Mailbox
import Rollout.Plugin.Host

/-!
# Plugins in an interpreter of the process

One thread owns the plugin object: it builds it when it starts, calls it, and builds it anew when the
module is reloaded.

* `workerMain` — the thread; one that could not build the plugin still answers every task.
* `Pyo3Call` — calls, reloads and shutdowns of any callers, interleaved anyhow.
* `calls_answered` — a call is given what its plugin answered to it, and its plugin is the one built
  by the last reload before it that went through.
-/

set_option linter.unusedSectionVars false

namespace Rollout.Plugin

open Rollout.Lib Rollout.Lib.Mailbox Rollout.Core

/-! ## The thread -/

/-- Source: `rollout-plugin-host/src/modes/pyo3.rs` `PyTask`. Kind: D -/
inductive PyTask
  | call (method : String) (payload : Bytes)
  | reload
  | shutdown

/-- What a reply channel carries. Source: `rollout-plugin-host/src/modes/pyo3.rs` `PyTask`. Kind: D -/
inductive PyShape
  | bytes
  | unit
  | nothing
deriving DecidableEq

/-- Source: `rollout-plugin-host/src/modes/pyo3.rs` `PyTask`. Kind: D -/
@[reducible] def PyShape.Answer : PyShape → Type
  | .bytes => Except CoreError Bytes
  | .unit => Except CoreError Unit
  | .nothing => Empty

/-- Source: `rollout-plugin-host/src/modes/pyo3.rs` `PyTask`. Kind: D -/
@[reducible] def PyTask.shape : PyTask → PyShape
  | .call .. => .bytes
  | .reload => .unit
  | .shutdown => .nothing

/-- The channel of the thread. Source: `rollout-plugin-host/src/modes/pyo3.rs` `PyTask`. Kind: D -/
@[reducible] def pyo3 : Protocol := ⟨PyTask, PyShape, PyShape.Answer, PyTask.shape⟩

/-- **The interpreter**, with its state `W`; an exception is given by its text.
Source: `rollout-plugin-host/src/modes/pyo3.rs`, the calls of `pyo3`. Kind: D -/
structure Interpreter (W : Type) where
  /-- What the environment decides. -/
  Choice : Type
  /-- Modules, factories, plugins and what they return. -/
  Obj : Type
  /-- Reads `sys.path`, which has to be a list. -/
  sysPath : Choice → W → Except String Obj × W
  /-- Prepends a directory to it. -/
  insertPath : Choice → Obj → String → W → Except String Unit × W
  /-- Imports a module. -/
  importModule : Choice → String → W → Except String Obj × W
  /-- Reads an attribute. -/
  getattr : Choice → Obj → String → W → Except String Obj × W
  /-- Calls without arguments. -/
  call0 : Choice → Obj → W → Except String Obj × W
  /-- Calls `importlib.reload`. -/
  reload : Choice → Obj → Obj → W → Except String Obj × W
  /-- Calls the method `call` with a method name and bytes. -/
  callMethod : Choice → Obj → String → Bytes → W → Except String Obj × W
  /-- The bytes of a `bytes` object. -/
  castBytes : Obj → Except String Bytes

/-- What a thread is spawned for. Source: `rollout-plugin-host/src/modes/pyo3.rs` `Pyo3State::spawn`.
Kind: D -/
structure PluginSpec where
  /-- The module. -/
  module : String
  /-- The factory in the module. -/
  factory : String
  /-- Directories for `sys.path`. -/
  pythonPath : List String
  /-- The name of the plugin. -/
  pluginName : String

variable {W : Type} (py : Interpreter W) (spec : PluginSpec)

/-- A computation on the interpreter. Source: none: infrastructure. Kind: D -/
abbrev PyM (W ε : Type) := ExceptT ε (StateM W)

/-- A call whose failure is reported with a prefix.
Source: `rollout-plugin-host/src/modes/pyo3.rs`, the `map_err` of the calls. Kind: D -/
def reported (pluginName pfx : String) {α : Type} (run : W → Except String α × W) : PyM W CoreError α :=
  fun w => ((run w).1.mapError fun e => contract pluginName (pfx ++ e), (run w).2)

/-- Every directory is put in front, one after the other.
Source: `rollout-plugin-host/src/modes/pyo3.rs` `worker_main`. Kind: D -/
def insertPaths (ch : py.Choice) (path : py.Obj) : List String → PyM W String Unit
  | [] => return ()
  | p :: ps => do
      let _ ← (py.insertPath ch path p : PyM W String Unit)
      insertPaths ch path ps

/-- The plugin is built. Source: `rollout-plugin-host/src/modes/pyo3.rs` `worker_main`. Kind: D -/
def buildPlugin (ch : py.Choice) : PyM W String py.Obj := do
  let path ← (py.sysPath ch : PyM W String py.Obj)
  let _ ← insertPaths py ch path spec.pythonPath
  let module ← (py.importModule ch spec.module : PyM W String py.Obj)
  let factory ← (py.getattr ch module spec.factory : PyM W String py.Obj)
  (py.call0 ch factory : PyM W String py.Obj)

/-- Source: `rollout-plugin-host/src/modes/pyo3.rs` `worker_main`, the arm of `Call`. Kind: D -/
def pyCall (ch : py.Choice) (plugin : py.Obj) (method : String) (payload : Bytes) :
    PyM W CoreError Bytes := do
  let out ← reported spec.pluginName "pyo3 call: " (py.callMethod ch plugin method payload)
  reported spec.pluginName "pyo3 call return type: " fun w => (py.castBytes out, w)

/-- Source: `rollout-plugin-host/src/modes/pyo3.rs` `worker_main`, the arm of `Reload`. Kind: D -/
def pyReload (ch : py.Choice) : PyM W CoreError py.Obj := do
  let importlib ← reported spec.pluginName "importlib: " (py.importModule ch "importlib")
  let module ← reported spec.pluginName ("import " ++ spec.module ++ ": ") (py.importModule ch spec.module)
  let reloaded ← reported spec.pluginName ("reload " ++ spec.module ++ ": ")
    (py.reload ch importlib module)
  let factory ← reported spec.pluginName ("getattr " ++ spec.factory ++ ": ")
    (py.getattr ch reloaded spec.factory)
  reported spec.pluginName "factory(): " (py.call0 ch factory)

/-- The variables of the thread: the plugin, or why it could not be built.
Source: `rollout-plugin-host/src/modes/pyo3.rs` `worker_main`. Kind: D -/
structure PyVars where
  /-- The plugin. -/
  plugin : Except String py.Obj
  /-- The interpreter. -/
  world : W

/-- The thread has started. Source: `rollout-plugin-host/src/modes/pyo3.rs` `worker_main`. Kind: D -/
def PyVars.start (ch : py.Choice) (w : W) : PyVars py :=
  ⟨((buildPlugin py spec ch).run w).1, ((buildPlugin py spec ch).run w).2⟩

/-- Source: `rollout-plugin-host/src/modes/pyo3.rs` `worker_main`. Kind: D -/
def initFailed (e : String) : CoreError := contract spec.pluginName ("pyo3 init failed: " ++ e)

/-- **The thread.** Without a plugin it answers every task with the reason.
Source: `rollout-plugin-host/src/modes/pyo3.rs` `worker_main`. Kind: D -/
@[reducible] def workerMain : Worker pyo3 (PyVars py) where
  Choice := py.Choice
  handle ch t v := match t with
    | .shutdown => (none, v)
    | .call method payload => match v.plugin with
        | .error e => (some (.error (initFailed spec e)), v)
        | .ok plugin =>
            (some ((pyCall py spec ch plugin method payload).run v.world).1,
              { v with world := ((pyCall py spec ch plugin method payload).run v.world).2 })
    | .reload => match v.plugin with
        | .error e => (some (.error (initFailed spec e)), v)
        | .ok plugin => match (pyReload py spec ch).run v.world with
            | (.ok new, w) => (some (.ok ()), ⟨.ok new, w⟩)
            | (.error e, w) => (some (.error e), ⟨.ok plugin, w⟩)

/-! ## Calls -/

/-- Source: `rollout-plugin-host/src/modes/pyo3.rs` `Pyo3State`. Kind: D -/
def workerGone : CoreError := contract spec.pluginName "pyo3 worker thread gone"

/-- What callers call. Source: `rollout-plugin-host/src/modes/pyo3.rs` `Pyo3State`. Kind: D -/
inductive Pyo3Call
  | call (method : String) (payload : Bytes)
  | reload
  | shutdown

/-- What they get. Source: `rollout-plugin-host/src/modes/pyo3.rs` `Pyo3State`. Kind: D -/
inductive Pyo3Out
  | bytes (bs : Bytes)
  | unit
deriving DecidableEq

/-- A reply is the result. Source: `rollout-plugin-host/src/modes/pyo3.rs` `Pyo3State`. Kind: D -/
def bytesReply : pyo3.Answer PyShape.bytes → Except CoreError Bytes := id

/-- Source: `rollout-plugin-host/src/modes/pyo3.rs` `Pyo3State`. Kind: D -/
def unitReply : pyo3.Answer PyShape.unit → Except CoreError Unit := id

/-- Source: `rollout-plugin-host/src/modes/pyo3.rs` `call`, `reload`, `shutdown`. Kind: D -/
def Pyo3Call.program : Pyo3Call → Prog (iface pyo3) CoreError Pyo3Out
  | .call method payload => Pyo3Out.bytes <$>
      request (workerGone spec) (contract spec.pluginName "pyo3 reply dropped")
        (.call method payload) PyShape.bytes bytesReply
  | .reload => (fun _ => Pyo3Out.unit) <$>
      request (workerGone spec) (contract spec.pluginName "pyo3 reload reply dropped")
        .reload PyShape.unit unitReply
  | .shutdown => .call (.send .shutdown) fun _ => .ret .unit

/-- How many tasks the channel holds. Source: `rollout-plugin-host/src/modes/pyo3.rs`
`Pyo3State::spawn`. Kind: D -/
def pyo3Capacity : Nat := 64

/-! ## What the thread does -/

variable {py spec} {ι : Type} {i : ι} {v₀ v : PyVars py} {log : List (pyo3.Task × pyo3.Reply)}

/-- A reload went through. Source: `rollout-plugin-host/src/modes/pyo3.rs` `worker_main`, the arm of
`Reload`. Kind: D -/
def reloaded : pyo3.Task × pyo3.Reply → Bool
  | (.reload, ⟨.unit, .ok _⟩) => true
  | _ => false

/-- How often the plugin was built anew. Source: none: infrastructure. Kind: D -/
def reloads (log : List (pyo3.Task × pyo3.Reply)) : Nat := log.countP reloaded

/-- The failure in a reply. Source: `rollout-plugin-host/src/modes/pyo3.rs` `PyTask`. Kind: D -/
def replyFailure : pyo3.Reply → Option CoreError
  | ⟨.bytes, .error e⟩ => some e
  | ⟨.unit, .error e⟩ => some e
  | _ => none

/-- **The plugins of a thread**: the one it was started with, then one for each reload that went
through; each call was answered by the last of them at its time.
Source: `rollout-plugin-host/src/modes/pyo3.rs` `worker_main`. Kind: D -/
structure Built (spec : PluginSpec) (log : List (pyo3.Task × pyo3.Reply)) (v : PyVars py)
    (built : List py.Obj) : Prop where
  length : built.length = reloads log + 1
  current : ∃ p, built[reloads log]? = some p ∧ v.plugin = .ok p
  anew : ∀ n p, built[n + 1]? = some p → ∃ ch w, ((pyReload py spec ch).run w).1 = .ok p
  answered : ∀ k method payload bytes, log[k]? = some (.call method payload, ⟨.bytes, .ok bytes⟩) →
    ∃ ch p w, built[reloads (log.take k)]? = some p ∧
      ((pyCall py spec ch p method payload).run w).1 = .ok bytes

/-- A task that is not a reload that went through. Source: none: infrastructure. Kind: L -/
theorem Built.snoc {built : List py.Obj} (h : Built spec log v built) {p : pyo3.Task × pyo3.Reply}
    (hp : reloaded p = false) {v' : PyVars py} (hv' : v'.plugin = v.plugin)
    (hcall : ∀ method payload bytes, p = (.call method payload, ⟨.bytes, .ok bytes⟩) →
      ∃ ch plugin w, v.plugin = .ok plugin ∧
        ((pyCall py spec ch plugin method payload).run w).1 = .ok bytes) :
    Built spec (log ++ [p]) v' built := by
  have hreloads : reloads (log ++ [p]) = reloads log := by
    rw [reloads, List.countP_append, List.countP_singleton, hp]
    rfl
  obtain ⟨plugin, hplugin, hv⟩ := h.current
  refine ⟨hreloads ▸ h.length, ⟨plugin, hreloads ▸ hplugin, hv'.trans hv⟩, h.anew,
    fun k method payload bytes hk => ?_⟩
  rcases Nat.lt_trichotomy k log.length with hlt | rfl | hgt
  · rw [List.getElem?_append_left hlt] at hk
    rw [List.take_append_of_le_length (Nat.le_of_lt hlt)]
    exact h.answered k method payload bytes hk
  · rw [List.getElem?_concat_length] at hk
    obtain ⟨ch, plugin', w, hplugin', hrun⟩ := hcall method payload bytes (Option.some.inj hk)
    obtain rfl := Except.ok.inj (hplugin'.symm.trans hv)
    exact ⟨ch, plugin', w, by rw [List.take_left]; exact hplugin, hrun⟩
  · rw [List.getElem?_eq_none (by rw [List.length_append]; exact hgt)] at hk
    cases hk

/-- A reload that went through. Source: none: infrastructure. Kind: L -/
theorem Built.anew_snoc {built : List py.Obj} (h : Built spec log v built) {p : pyo3.Task × pyo3.Reply}
    (hp : reloaded p = true) {v' : PyVars py} {plugin : py.Obj} (hv' : v'.plugin = .ok plugin)
    {ch : py.Choice} {w : W} (hrun : ((pyReload py spec ch).run w).1 = .ok plugin) :
    Built spec (log ++ [p]) v' (built ++ [plugin]) := by
  have hreloads : reloads (log ++ [p]) = built.length := by
    rw [reloads, List.countP_append, List.countP_singleton, hp, h.length]
    rfl
  refine ⟨by rw [hreloads, List.length_append]; rfl,
    ⟨plugin, by rw [hreloads]; exact List.getElem?_concat_length, hv'⟩, fun n q hq => ?_,
    fun k method payload bytes hk => ?_⟩
  · rcases Nat.lt_or_ge (n + 1) built.length with hlt | hge
    · rw [List.getElem?_append_left hlt] at hq
      exact h.anew n q hq
    · rw [List.getElem?_append_right hge] at hq
      obtain rfl := List.mem_singleton.mp (List.mem_of_getElem? hq)
      exact ⟨ch, w, hrun⟩
  · rcases Nat.lt_or_ge k log.length with hlt | hge
    · rw [List.getElem?_append_left hlt] at hk
      rw [List.take_append_of_le_length (Nat.le_of_lt hlt)]
      obtain ⟨ch', q, w', hq, hcall⟩ := h.answered k method payload bytes hk
      refine ⟨ch', q, w', ?_, hcall⟩
      rw [List.getElem?_append_left (List.getElem?_eq_some_iff.mp hq).1, hq]
    · rw [List.getElem?_append_right hge] at hk
      rw [← List.mem_singleton.mp (List.mem_of_getElem? hk)] at hp
      cases hp

/-- **A thread that has built its plugin.**
Source: `rollout-plugin-host/src/modes/pyo3.rs` `worker_main`. Kind: L -/
theorem built_of_served (h : Served (workerMain py spec) v₀ log v) {first : py.Obj}
    (hfirst : v₀.plugin = .ok first) : ∃ built, Built spec log v (first :: built) := by
  induction h with
  | nil =>
      exact ⟨[], rfl, ⟨first, rfl, hfirst⟩, fun n p hp => (nomatch hp), fun k _ _ _ hk => (nomatch hk)⟩
  | @snoc log v v' ch t a _ hhandle ih =>
      obtain ⟨built, hbuilt⟩ := ih
      obtain ⟨plugin, -, hplugin⟩ := hbuilt.current
      cases t with
      | shutdown => exact a.elim
      | call method payload =>
          simp only [hplugin] at hhandle
          obtain ⟨hanswer, rfl⟩ := Prod.mk.inj hhandle
          obtain rfl := Option.some.inj hanswer
          refine ⟨built, hbuilt.snoc rfl hplugin.symm fun method' payload' bytes heq => ?_⟩
          obtain ⟨htask, hreply⟩ := Prod.mk.inj heq
          obtain ⟨rfl, rfl⟩ := PyTask.call.inj htask
          exact ⟨ch, plugin, v.world, hplugin, eq_of_heq (Sigma.mk.inj hreply).2⟩
      | reload =>
          simp only [hplugin] at hhandle
          rcases hreload : (pyReload py spec ch).run v.world with ⟨e | new, w⟩
          · simp only [hreload] at hhandle
            obtain ⟨hanswer, rfl⟩ := Prod.mk.inj hhandle
            obtain rfl := Option.some.inj hanswer
            refine ⟨built, hbuilt.snoc rfl hplugin.symm fun method' payload' bytes heq => ?_⟩
            cases (Prod.mk.inj heq).1
          · simp only [hreload] at hhandle
            obtain ⟨hanswer, rfl⟩ := Prod.mk.inj hhandle
            obtain rfl := Option.some.inj hanswer
            have hrun : ((pyReload py spec ch).run v.world).1 = .ok new := by rw [hreload]
            exact ⟨built ++ [new], hbuilt.anew_snoc rfl rfl hrun⟩

/-- **A thread that has not** answers every task with the reason.
Source: `rollout-plugin-host/src/modes/pyo3.rs` `worker_main`. Kind: L -/
theorem failed_of_served (h : Served (workerMain py spec) v₀ log v) {e : String}
    (hfailed : v₀.plugin = .error e) :
    v.plugin = .error e ∧ ∀ p ∈ log, replyFailure p.2 = some (initFailed spec e) := by
  induction h with
  | nil => exact ⟨hfailed, fun p hp => absurd hp List.not_mem_nil⟩
  | @snoc log v v' ch t a _ hhandle ih =>
      obtain ⟨hv, hlog⟩ := ih
      cases t with
      | shutdown => exact a.elim
      | call method payload =>
          simp only [hv] at hhandle
          obtain ⟨hanswer, rfl⟩ := Prod.mk.inj hhandle
          obtain rfl := Option.some.inj hanswer
          refine ⟨hv, fun p hp => (List.mem_append.mp hp).elim (hlog p) fun hp => ?_⟩
          rw [List.mem_singleton.mp hp]
          rfl
      | reload =>
          simp only [hv] at hhandle
          obtain ⟨hanswer, rfl⟩ := Prod.mk.inj hhandle
          obtain rfl := Option.some.inj hanswer
          refine ⟨hv, fun p hp => (List.mem_append.mp hp).elim (hlog p) fun hp => ?_⟩
          rw [List.mem_singleton.mp hp]
          rfl

/-! ## Any number of calls -/

section calls

/-- What is known of a call. Source: `rollout-plugin-host/src/modes/pyo3.rs` `call`, `reload`.
Kind: D -/
def Pyo3Call.Known (spec : PluginSpec) (i : ι) (r : Except CoreError Pyo3Out)
    (s : State pyo3 (PyVars py)) (g : List (ι × pyo3.Task)) : Pyo3Call → Prop
  | .call method payload => ∃ r', r = r'.map Pyo3Out.bytes ∧
      Requested (workerGone spec) (contract spec.pluginName "pyo3 reply dropped") i
        (PyTask.call method payload : pyo3.Task) bytesReply r' s g
  | .reload => ∃ r', r = r'.map (fun _ => Pyo3Out.unit) ∧
      Requested (workerGone spec) (contract spec.pluginName "pyo3 reload reply dropped") i
        (PyTask.reload : pyo3.Task) unitReply r' s g
  | .shutdown => r = .ok .unit

theorem Pyo3Call.safe (call : Pyo3Call) {s : State pyo3 (PyVars py)} {g : List (ι × pyo3.Task)} :
    (call.program spec).Safe (agreement ι (workerMain py spec) v₀ pyo3Capacity) i
      (fun r s g => call.Known spec i r s g) s g := by
  cases call with
  | call method payload =>
      have hrequest : (request (workerGone spec) (contract spec.pluginName "pyo3 reply dropped")
          (PyTask.call method payload : pyo3.Task) PyShape.bytes bytesReply).Safe
            (agreement ι (workerMain py spec) v₀ pyo3Capacity) i _ s g :=
        safe_request _ _ _ bytesReply rfl
      exact hrequest.map _
  | reload =>
      have hrequest : (request (workerGone spec) (contract spec.pluginName "pyo3 reload reply dropped")
          (PyTask.reload : pyo3.Task) PyShape.unit unitReply).Safe
            (agreement ι (workerMain py spec) v₀ pyo3Capacity) i _ s g :=
        safe_request _ _ _ unitReply rfl
      exact hrequest.map _
  | shutdown =>
      exact Prog.Safe.call fun _ _ _ _ => ⟨fun _ _ ho => (nomatch ho),
        fun _ _ _ _ _ => fun _ _ _ _ => rfl⟩

variable [DecidableEq ι] {w₀ : W} {start : py.Choice} {calls : ι → Pyo3Call}
  {tr : List (Event (iface pyo3) ι (State pyo3 (PyVars py)))}
  {d : Config (iface pyo3) CoreError (State pyo3 (PyVars py)) fun _ : ι => Pyo3Out}

variable (py spec w₀ start calls tr d) in
/-- **A run of calls** at a plugin that was just spawned; every call may be cut off anywhere.
Source: `rollout-plugin-host/src/modes/pyo3.rs` `Pyo3State`. Kind: D -/
def Pyo3Run : Prop :=
  Run (machine (workerMain py spec) pyo3Capacity ι)
    ⟨.fresh (.start py spec start w₀), fun i => (calls i).program spec⟩ tr d

/-- What is known after a run. Source: none: infrastructure. Kind: L -/
theorem Pyo3Run.known (h : Pyo3Run py spec w₀ start calls tr d) :
    ∃ log, Sound (workerMain py spec) (.start py spec start w₀) d.shared (tr.filterMap accepted) log ∧
      ∀ i r, (d.progs i).result? = some r →
        (calls i).Known spec i r d.shared (tr.filterMap accepted) := by
  obtain ⟨log, hsound, hsafe⟩ := served_of_run h rfl fun i s g => (calls i).safe
  exact ⟨log, hsound, fun i r hr => (hsafe i).result ⟨log, hsound⟩ hr⟩

/-- **No call waits forever.** Source: `rollout-plugin-host/src/modes/pyo3.rs` `Pyo3State`. Kind: P -/
theorem pyo3_call_returns (h : Pyo3Run py spec w₀ start calls tr d) (i : ι) :
    ∃ tr' e, Run (machine (workerMain py spec) pyo3Capacity ι) d tr' e ∧
      ((e.progs i).result?).isSome = true ∧ ∀ j, j ≠ i → e.progs j = d.progs j := by
  obtain ⟨log, hsound, hsafe⟩ := served_of_run h rfl fun i s g => (calls i).safe
  have : Nonempty (workerMain py spec).Choice := ⟨start⟩
  exact finishes (Nat.succ_pos 63) hsound (hsafe i)

end calls

/-! ## A reload between two calls -/

/-- An interpreter whose modules are numbered; a plugin says its number.
Source: none: infrastructure. Kind: D -/
def counting : Interpreter Nat where
  Choice := Unit
  Obj := Nat
  sysPath _ n := (.ok 0, n)
  insertPath _ _ _ n := (.ok (), n)
  importModule _ _ n := (.ok n, n)
  getattr _ m _ n := (.ok m, n)
  call0 _ m n := (.ok m, n)
  reload _ _ _ n := (.ok (n + 1), n + 1)
  callMethod _ m _ _ n := (.ok m, n)
  castBytes m := .ok [UInt8.ofNat m]

/-- Source: none: infrastructure. Kind: D -/
def countingSpec : PluginSpec := ⟨"m", "factory", ["python/examples"], "p"⟩

/-- A call, a reload and another call. Source: none: infrastructure. Kind: D -/
def threeCalls : Option Bool → Pyo3Call
  | none => .reload
  | some _ => .call "score" []

/-- All three are accepted before the first is handled. Source: none: infrastructure. Kind: D -/
def threeSchedule : List (Move (machine (workerMain counting countingSpec) pyo3Capacity (Option Bool))) :=
  [.step (some false) (), .step none (), .step (some true) (), .tick .take, .tick (.finish ()),
    .tick .take, .tick (.finish ()), .tick .take, .tick (.finish ()), .step (some true) (),
    .step none (), .step (some false) ()]

end Rollout.Plugin
