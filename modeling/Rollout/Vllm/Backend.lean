import Rollout.Vllm.Engine

/-!
# The vLLM backend

* `init`, `generate`, `shutdown` — what callers do with the thread. A generation sends a task for
  each prompt and then waits for the replies in order.
* `BackendCall` — any number of calls of any callers at one thread, interleaved anyhow, each cut off
  anywhere.
* `generate_answers` — a generation is given, in order, what the engine answered to its own prompts.
* `one_import` — either no call meets a failed import, or no call gets anything from a model.
* `call_returns` — no call waits forever.
* `drop_joins_iff` — when the thread of a backend that is dropped can be joined.
-/

set_option linter.unusedSectionVars false

namespace Rollout.Vllm

open Rollout.Lib Rollout.Lib.Mailbox Rollout.Core
open Rollout.Batch (SamplingParams)

/-! ## Calls -/

/-- Programs of a caller. Source: none: infrastructure. Kind: D -/
abbrev BackendM := Prog (iface vllm) CoreError

/-- Source: `rollout-backend-vllm/src/backend.rs`, the `map_err` of `send`. Kind: D -/
def engineClosed : CoreError := transient "vllm engine thread closed"

/-- Source: `rollout-backend-vllm/src/backend.rs` `init`. Kind: D -/
def initDropped : CoreError := transient "vllm init reply dropped"

/-- Source: `rollout-backend-vllm/src/backend.rs` `generate`. Kind: D -/
def generateDropped : CoreError := transient "vllm generate reply dropped"

/-- A reply to an initialisation is its result.
Source: `rollout-backend-vllm/src/backend.rs` `init`. Kind: D -/
def shaReply : vllm.Answer VllmShape.sha → Except CoreError String := id

/-- The new id of the model. Source: `rollout-backend-vllm/src/backend.rs` `init`. Kind: D -/
def init [Blake3] (model : ModelRef) : BackendM ContentId :=
  (fun sha => ContentId.of sha.toUTF8.data.toList) <$>
    request engineClosed initDropped (.init model) VllmShape.sha shaReply

/-- Source: `rollout-backend-vllm/src/backend.rs` `generate`. Kind: D -/
def requestId (i : Nat) : String := "req-" ++ toString i ++ "-0"

/-- The tasks of a generation. Source: `rollout-backend-vllm/src/backend.rs` `generate`. Kind: D -/
def generateTasks (prompts : List String) (params : SamplingParams) : List VllmTask :=
  prompts.zipIdx.map fun p => .generate p.1 params (requestId p.2)

/-- A reply to a generation is its result.
Source: `rollout-backend-vllm/src/backend.rs` `generate`. Kind: D -/
def completionReply : vllm.Answer VllmShape.completion → Except CoreError Completion := id

/-- Source: `rollout-backend-vllm/src/backend.rs` `generate`. Kind: D -/
def generate (prompts : List String) (params : SamplingParams) : BackendM (List Completion) :=
  if params.stream then .err streamingRejected
  else do
    let handles ← sendAll engineClosed (generateTasks prompts params)
    awaitAll generateDropped VllmShape.completion completionReply handles

/-- Source: `rollout-backend-vllm/src/backend.rs` `shutdown`. Kind: D -/
def shutdown : BackendM Unit := .call (.send .shutdown) fun _ => .ret ()

/-- What callers call. Source: `rollout-core/src/traits/backend.rs` `InferenceBackend`. Kind: D -/
inductive BackendCall
  | init (model : ModelRef)
  | generate (prompts : List String) (params : SamplingParams)
  | shutdown

/-- What they get. Source: `rollout-core/src/traits/backend.rs` `InferenceBackend`. Kind: D -/
inductive BackendOut
  | modelId (id : ContentId)
  | completions (out : List Completion)
  | unit
deriving DecidableEq

/-- Source: `rollout-backend-vllm/src/backend.rs` `InferenceBackend for VllmBackend`. Kind: D -/
def BackendCall.program [Blake3] : BackendCall → BackendM BackendOut
  | .init model => BackendOut.modelId <$> Vllm.init model
  | .generate prompts params => BackendOut.completions <$> Vllm.generate prompts params
  | .shutdown => (fun _ => BackendOut.unit) <$> Vllm.shutdown

/-! ## One call -/

variable {W ι : Type} {py : Python W} {secretToken : Option String} {v₀ : WorkerVars py}
  {i : ι} {s : State vllm (WorkerVars py)} {g : List (ι × VllmTask)}

variable (ι py secretToken v₀) in
/-- The agreement of the callers. Source: none: infrastructure. Kind: D -/
abbrev calling : Discipline (machine (workerMainVllm py secretToken) channelCapacity ι)
    (List (ι × vllm.Task)) :=
  agreement ι (workerMainVllm py secretToken) v₀ channelCapacity

/-- What is known of a generation: it was refused, or its tasks were accepted in order and then
answered in order, up to the first failure.
Source: `rollout-backend-vllm/src/backend.rs` `generate`. Kind: D -/
def Generates (i : ι) (prompts : List String) (params : SamplingParams)
    (r : Except CoreError (List Completion)) (s : State vllm (WorkerVars py))
    (g : List (ι × vllm.Task)) : Prop :=
  params.stream = true ∧ r = .error streamingRejected ∨
    params.stream = false ∧ (r = .error engineClosed ∧ s.closed = true ∨
      ∃ ks, List.Forall₂ (Asked i g) (generateTasks prompts params) ks ∧ ks.Pairwise (· < ·) ∧
        Awaited generateDropped completionReply ks r s g)

theorem generates_lasting (i : ι) (prompts : List String) (params : SamplingParams)
    (r : Except CoreError (List Completion)) :
    Lasting (Generates i prompts params r : State vllm (WorkerVars py) → List (ι × vllm.Task) → Prop) := by
  rintro s g s' g' hl (h | ⟨hstream, ⟨hr, hclosed⟩ | ⟨ks, hasked, hordered, hawaited⟩⟩)
  · exact .inl h
  · exact .inr ⟨hstream, .inl ⟨hr, hl.closed hclosed⟩⟩
  · exact .inr ⟨hstream, .inr ⟨ks, hasked.imp fun _ _ hk => hl.get hk, hordered,
      awaited_lasting generateDropped completionReply ks r s g s' g' hl hawaited⟩⟩

/-- **A generation.** Source: `rollout-backend-vllm/src/backend.rs` `generate`. Kind: L -/
theorem safe_generate (prompts : List String) (params : SamplingParams) :
    (generate prompts params).Safe (calling ι py secretToken v₀) i (Generates i prompts params) s g := by
  unfold generate
  split
  · next hstream => exact safe_err (generates_lasting i prompts params _) (.inl ⟨hstream, rfl⟩)
  · next hstream =>
    rw [Bool.not_eq_true] at hstream
    refine Prog.Safe.bind ((safe_sendAll (P := vllm) engineClosed _ (Nat.zero_le _)).weaken
      fun r s g h => ?_)
    cases r with
    | error e => exact .inr ⟨hstream, .inl ⟨congrArg _ h.1, h.2⟩⟩
    | ok ks =>
        obtain ⟨hasked, hordered, -⟩ := h
        have hown : ∀ k ∈ ks, ∃ t, Asked i g t k ∧ vllm.shape t = VllmShape.completion := by
          intro k hk
          obtain ⟨t, ht, hk⟩ := exists_of_forall₂ hasked hk
          obtain ⟨p, -, rfl⟩ := List.mem_map.mp ht
          exact ⟨_, hk, rfl⟩
        have hkeep : Lasting fun (_ : State vllm (WorkerVars py)) (g : List (ι × vllm.Task)) =>
            List.Forall₂ (Asked i g) (generateTasks prompts params) ks :=
          fun _ _ _ _ hl h => h.imp fun _ _ hk => hl.get hk
        refine (safe_keep hkeep hasked
          (safe_awaitAll generateDropped completionReply ks hown)).weaken fun r s g h => ?_
        exact .inr ⟨hstream, .inr ⟨ks, h.2, hordered, h.1⟩⟩

/-- What is known of a call. Source: `rollout-backend-vllm/src/backend.rs`. Kind: D -/
def BackendCall.Known [Blake3] (i : ι) (r : Except CoreError BackendOut)
    (s : State vllm (WorkerVars py)) (g : List (ι × vllm.Task)) : BackendCall → Prop
  | .init model => ∃ r', r = r'.map BackendOut.modelId ∧ ∃ r'',
      r' = r''.map (fun sha => ContentId.of sha.toUTF8.data.toList) ∧
        Requested engineClosed initDropped i (VllmTask.init model : vllm.Task) shaReply r'' s g
  | .generate prompts params => ∃ r', r = r'.map BackendOut.completions ∧
      Generates i prompts params r' s g
  | .shutdown => r = .ok .unit

theorem BackendCall.safe [Blake3] (call : BackendCall) :
    call.program.Safe (calling ι py secretToken v₀) i (fun r s g => call.Known i r s g) s g := by
  cases call with
  | init model =>
      have hrequest : (request engineClosed initDropped (VllmTask.init model : vllm.Task) VllmShape.sha
          shaReply).Safe (calling ι py secretToken v₀) i _ s g :=
        safe_request engineClosed initDropped _ shaReply rfl
      exact (hrequest.map _).map _
  | generate prompts params => exact (safe_generate prompts params).map _
  | shutdown =>
      exact Prog.Safe.call fun _ _ _ _ => ⟨fun _ _ ho => (nomatch ho),
        fun _ _ _ _ _ => fun _ _ _ _ => rfl⟩

/-! ## Any number of calls -/

section calls

variable [Blake3] [DecidableEq ι] {w₀ : W} {calls : ι → BackendCall}
  {tr : List (Event (iface vllm) ι (State vllm (WorkerVars py)))}
  {d : Config (iface vllm) CoreError (State vllm (WorkerVars py)) fun _ : ι => BackendOut}

variable (py secretToken w₀ calls tr d) in
/-- **A run of calls** at a backend that was just created; every call may be cut off anywhere.
Source: `rollout-backend-vllm/src/backend.rs`. Kind: D -/
def CallsRun : Prop :=
  Run (machine (workerMainVllm py secretToken) channelCapacity ι)
    ⟨.fresh (.start py w₀), fun i => (calls i).program⟩ tr d

/-- What is known after a run. Source: none: infrastructure. Kind: L -/
theorem CallsRun.known (h : CallsRun py secretToken w₀ calls tr d) :
    ∃ log, Sound (workerMainVllm py secretToken) (.start py w₀) d.shared (tr.filterMap accepted) log ∧
      ∀ i r, (d.progs i).result? = some r →
        (calls i).Known i r d.shared (tr.filterMap accepted) := by
  obtain ⟨log, hsound, hsafe⟩ := served_of_run h rfl fun i s g => (calls i).safe
  exact ⟨log, hsound, fun i r hr => (hsafe i).result ⟨log, hsound⟩ hr⟩

/-- The prompt number `j` of a call was task number `k`, and was answered with `r`.
Source: `rollout-backend-vllm/src/backend.rs` `generate`. Kind: D -/
def Answered (g : List (ι × vllm.Task)) (log : List (vllm.Task × vllm.Reply)) (i : ι) (prompt : String)
    (params : SamplingParams) (j k : Nat) (r : Except CoreError Completion) : Prop :=
  g[k]? = some (i, .generate prompt params (requestId j)) ∧
    log[k]? = some (.generate prompt params (requestId j), ⟨.completion, r⟩)

theorem getElem?_generateTasks (prompts : List String) (params : SamplingParams) {j : Nat}
    {prompt : String} (h : prompts[j]? = some prompt) :
    (generateTasks prompts params)[j]? = some (.generate prompt params (requestId j)) := by
  rw [generateTasks, List.getElem?_map, List.getElem?_zipIdx, h, Nat.zero_add]
  rfl

theorem of_getElem?_generateTasks (prompts : List String) (params : SamplingParams) {j : Nat}
    {t : VllmTask} (h : (generateTasks prompts params)[j]? = some t) :
    ∃ prompt, prompts[j]? = some prompt ∧ t = .generate prompt params (requestId j) := by
  rw [generateTasks, List.getElem?_map] at h
  obtain ⟨⟨prompt, n⟩, hget, rfl⟩ := Option.map_eq_some_iff.mp h
  rw [List.getElem?_zipIdx] at hget
  obtain ⟨prompt', hprompt, hpair⟩ := Option.map_eq_some_iff.mp hget
  obtain ⟨rfl, rfl⟩ := Prod.mk.inj hpair
  exact ⟨prompt', hprompt, by rw [Nat.zero_add]⟩

/-- The answers to a generation so far, in the history of the worker.
Source: `rollout-backend-vllm/src/backend.rs` `generate`. Kind: L -/
theorem answered_of_forall₂ {log : List (vllm.Task × vllm.Reply)} {v : WorkerVars py}
    (hsound : Sound (workerMainVllm py secretToken) v s g log) {prompts : List String}
    {params : SamplingParams} {ks before after : List Nat} {cs : List Completion}
    (hasked : List.Forall₂ (Asked (P := vllm) i g) (generateTasks prompts params) ks)
    (hks : ks = before ++ after)
    (hread : List.Forall₂ (fun k c => ReadAs completionReply s k (.ok c)) before cs) {j : Nat}
    {prompt : String} (hj : j < cs.length) (hprompt : prompts[j]? = some prompt) :
    ∃ k c, ks[j]? = some k ∧ cs[j]? = some c ∧ Answered g log i prompt params j k (.ok c) := by
  obtain ⟨k, hk, htask⟩ := forall₂_at hasked (getElem?_generateTasks prompts params hprompt)
  have hbefore : before[j]? = some k := by
    rw [hks, List.getElem?_append_left (hread.length_eq ▸ hj)] at hk
    exact hk
  obtain ⟨c, hc, hread⟩ := forall₂_at hread hbefore
  obtain ⟨a, hlog, rfl⟩ := hsound.of_readAs htask hread
  exact ⟨k, c, hk, hc, htask, hlog⟩

/-- A reply without a failure is what the engine has returned.
Source: `rollout-backend-vllm/src/engine.rs` `run_generate`. Kind: L -/
theorem Answered.generated {log : List (vllm.Task × vllm.Reply)} {v : WorkerVars py}
    (hserved : Served (workerMainVllm py secretToken) (.start py w₀) log v) {prompt : String}
    {params : SamplingParams} {j k : Nat} {c : Completion}
    (h : Answered g log i prompt params j k (.ok c)) :
    ∃ ch m w, (runGenerate py ch m prompt params (requestId j) w).1 = .ok c := by
  obtain ⟨v₁, ch, a, v₂, hbefore, hhandle, hreply⟩ := hserved.handled h.2
  obtain rfl : .ok c = a := eq_of_heq (Sigma.mk.inj hreply).2
  have hv : v₁.Untried ∨ v₁.Loaded ∨ ∃ e, v₁.Failed e :=
    (import_decides hbefore).imp And.left (Or.imp And.left fun ⟨e, h⟩ => ⟨e, h.1⟩)
  rcases withModule_cases (fun m w => runGenerate py ch m prompt params (requestId j) w) hv with
    ⟨m, w, v', heq, -⟩ | ⟨e, v', heq, -⟩
  · obtain ⟨hgen, -⟩ := Prod.mk.inj (heq.symm.trans hhandle)
    exact ⟨ch, m, w, Option.some.inj hgen⟩
  · obtain ⟨hgen, -⟩ := Prod.mk.inj (heq.symm.trans hhandle)
    cases Option.some.inj hgen

/-- **A generation is given the answers to its own prompts.** However calls are interleaved and
wherever they are cut off, the thread has worked through the tasks in the order in which they were
accepted; a generation that succeeds has an answer for each of its prompts, in their order, each what
the engine returned for that prompt, these parameters and this request; one that fails was not
allowed, or came after a shutdown, or failed at the first prompt the engine failed at.
Source: `rollout-backend-vllm/src/backend.rs` `generate`. Kind: P -/
theorem generate_answers (h : CallsRun py secretToken w₀ calls tr d) :
    ∃ log v, Served (workerMainVllm py secretToken) (.start py w₀) log v ∧
      log.map Prod.fst <+: (tr.filterMap accepted).map Prod.snd ∧
      ∀ i prompts params, calls i = .generate prompts params →
        (∀ cs, d.progs i = .ret (.completions cs) →
          params.stream = false ∧ cs.length = prompts.length ∧ ∃ ks : List Nat, ks.Pairwise (· < ·) ∧
            ∀ j prompt, prompts[j]? = some prompt → ∃ k c, ks[j]? = some k ∧ cs[j]? = some c ∧
              Answered (tr.filterMap accepted) log i prompt params j k (.ok c) ∧
              ∃ ch m w, (runGenerate py ch m prompt params (requestId j) w).1 = .ok c) ∧
        ∀ e, d.progs i = .err e →
          params.stream = true ∧ e = streamingRejected ∨
          (e = engineClosed ∨ e = generateDropped) ∧
            (∃ (other : ι) (k : Nat), (tr.filterMap accepted)[k]? = some (other, VllmTask.shutdown)) ∨
          ∃ j k prompt, prompts[j]? = some prompt ∧
            Answered (tr.filterMap accepted) log i prompt params j k (.error e) ∧
            ∀ j' prompt', j' < j → prompts[j']? = some prompt' → ∃ k' c,
              Answered (tr.filterMap accepted) log i prompt' params j' k' (.ok c) := by
  obtain ⟨log, hsound, hknown⟩ := h.known
  obtain ⟨v, hserved⟩ := hsound.served
  have hshut : d.shared.closed = true →
      ∃ (other : ι) (k : Nat), (tr.filterMap accepted)[k]? = some (other, VllmTask.shutdown) := by
    intro hclosed
    obtain ⟨-, ⟨other, t⟩, w, ch, hget, -, hhandle⟩ := hsound.ended hclosed
    have ht := (handle_eq_none_iff ch t w).mp (congrArg Prod.fst hhandle)
    cases t with
    | shutdown => exact ⟨other, _, hget⟩
    | init model => cases ht
    | generate prompt params requestId => cases ht
  refine ⟨log, v, hserved, hsound.handled, fun i prompts params hcall => ⟨fun cs hret => ?_,
    fun e herr => ?_⟩⟩
  · have hi := hknown i _ (by rw [hret]; rfl)
    rw [hcall] at hi
    obtain ⟨r', hr', hgenerates⟩ := hi
    cases r' with
    | error e => cases hr'
    | ok cs' =>
        obtain rfl : cs = cs' := BackendOut.completions.inj (Except.ok.inj hr')
        rcases hgenerates with ⟨-, hr⟩ | ⟨hstream, ⟨hr, -⟩ | ⟨ks, hasked, hordered, hawaited⟩⟩
        · cases hr
        · cases hr
        · have hlength : cs.length = prompts.length := by
            have := hasked.length_eq.trans hawaited.length_eq
            rw [generateTasks, List.length_map, List.length_zipIdx] at this
            exact this.symm
          refine ⟨hstream, hlength, ks, hordered, fun j prompt hprompt => ?_⟩
          have hj : j < cs.length := hlength ▸ (List.getElem?_eq_some_iff.mp hprompt).1
          obtain ⟨k, c, hk, hc, hanswered⟩ :=
            answered_of_forall₂ hsound hasked (List.append_nil ks).symm hawaited hj hprompt
          exact ⟨k, c, hk, hc, hanswered, hanswered.generated hserved⟩
  · have hi := hknown i _ (by rw [herr]; rfl)
    rw [hcall] at hi
    obtain ⟨r', hr', hgenerates⟩ := hi
    cases r' with
    | ok cs => cases hr'
    | error e' =>
        obtain rfl : e = e' := Except.error.inj hr'
        rcases hgenerates with ⟨hstream, hr⟩ | ⟨hstream, ⟨hr, hclosed⟩ | ⟨ks, hasked, hordered, hawaited⟩⟩
        · exact .inl ⟨hstream, Except.error.inj hr⟩
        · exact .inr (.inl ⟨.inl (Except.error.inj hr), hshut hclosed⟩)
        · rcases hawaited with ⟨hr, hclosed⟩ | ⟨before, k, after, cs, hks, hread, hfailed⟩
          · exact .inr (.inl ⟨.inr hr, hshut hclosed⟩)
          · have hk : ks[before.length]? = some k := by
              rw [hks, List.getElem?_append_right (Nat.le_refl _), Nat.sub_self]
              rfl
            obtain ⟨t, ht, htask⟩ := forall₂_at hasked.flip hk
            obtain ⟨prompt, hprompt, rfl⟩ := of_getElem?_generateTasks prompts params ht
            obtain ⟨a, hlog, rfl⟩ := hsound.of_readAs htask hfailed
            refine .inr (.inr ⟨before.length, k, prompt, hprompt, ⟨htask, hlog⟩, fun j' prompt' hj' hp => ?_⟩)
            obtain ⟨k', c, -, -, hanswered⟩ :=
              answered_of_forall₂ hsound hasked hks hread (hread.length_eq ▸ hj') hp
            exact ⟨k', c, hanswered⟩

/-! ## The import -/

/-- A result that does not depend on a reply. Source: `rollout-backend-vllm/src/backend.rs`. Kind: D -/
def Unreplied (r : Except CoreError BackendOut) : Prop :=
  r = .ok .unit ∨ r = .ok (.completions []) ∨
    ∃ e ∈ [streamingRejected, engineClosed, initDropped, generateDropped], r = .error e

/-- The failure of a call. Source: none: infrastructure. Kind: D -/
def callFailure : Except CoreError BackendOut → Option CoreError
  | .ok _ => none
  | .error e => some e

/-- Every other result is that of a reply.
Source: `rollout-backend-vllm/src/backend.rs`. Kind: L -/
theorem BackendCall.Known.replied {log : List (vllm.Task × vllm.Reply)} {v : WorkerVars py}
    (hsound : Sound (workerMainVllm py secretToken) v s g log) {call : BackendCall}
    {r : Except CoreError BackendOut} (h : call.Known i r s g) :
    Unreplied r ∨ ∃ p ∈ log, failure p.2 = callFailure r := by
  cases call with
  | init model =>
      obtain ⟨r', rfl, r'', rfl, ⟨hr | hr, -⟩ | ⟨k, hasked, hread⟩⟩ := h
      · exact .inl (.inr (.inr ⟨engineClosed, by simp, by rw [hr]; rfl⟩))
      · exact .inl (.inr (.inr ⟨initDropped, by simp, by rw [hr]; rfl⟩))
      · obtain ⟨a, hlog, rfl⟩ := hsound.of_readAs hasked hread
        refine .inr ⟨_, List.mem_of_getElem? hlog, ?_⟩
        cases a <;> rfl
  | generate prompts params =>
      obtain ⟨r', rfl, ⟨-, rfl⟩ | ⟨-, ⟨rfl, -⟩ | ⟨ks, hasked, -, hawaited⟩⟩⟩ := h
      · exact .inl (.inr (.inr ⟨streamingRejected, by simp, rfl⟩))
      · exact .inl (.inr (.inr ⟨engineClosed, by simp, rfl⟩))
      · have hreply : ∀ k r, k ∈ ks → ReadAs completionReply s k r →
            ∃ p ∈ log, failure p.2 = failure ⟨.completion, r⟩ := by
          intro k r hk hread
          obtain ⟨t, -, hasked⟩ := exists_of_forall₂ hasked hk
          obtain ⟨a, hlog, rfl⟩ := hsound.of_readAs hasked hread
          exact ⟨_, List.mem_of_getElem? hlog, rfl⟩
        cases r' with
        | ok cs =>
            cases hawaited with
            | nil => exact .inl (.inr (.inl rfl))
            | cons hread _ => exact .inr (hreply _ _ List.mem_cons_self hread)
        | error e =>
            rcases hawaited with ⟨rfl, -⟩ | ⟨before, k, after, cs, rfl, -, hread⟩
            · exact .inl (.inr (.inr ⟨generateDropped, by simp, rfl⟩))
            · exact .inr (hreply k _ (List.mem_append_right _ List.mem_cons_self) hread)
  | shutdown => exact .inl (.inl h)

/-- A failed import is told apart from the failures of the channel. Source: none: infrastructure.
Kind: L -/
theorem Unreplied.ne_importFailed (e : String) : ¬ Unreplied (.error (importFailed e)) := by
  have htext : ∀ msg, ("vllm module import failed: ".toList <+: msg.toList) = False →
      importFailed e ≠ transient msg := by
    intro msg hmsg heq
    have hsame := RecoverableError.transient.inj (CoreError.recoverable.inj heq)
    rw [← hmsg, ← hsame.1, String.toList_append]
    exact List.prefix_append _ _
  rintro (h | h | ⟨e', he', h⟩)
  · cases h
  · cases h
  · rw [← Except.error.inj h] at he'
    simp only [List.mem_cons, List.not_mem_nil, or_false] at he'
    rcases he' with he | he | he | he
    · cases he
    · exact htext _ (by decide) he
    · exact htext _ (by decide) he
    · exact htext _ (by decide) he

/-- **One import decides for every caller.** In every run either no call fails because the module
could not be imported, or no call is given a model or a completion, and each that fails for this
reason is told the same. Source: `rollout-backend-vllm/src/engine.rs` `worker_main_vllm`. Kind: P -/
theorem one_import (h : CallsRun py secretToken w₀ calls tr d) :
    (∀ i e, d.progs i ≠ .err (importFailed e)) ∨
      ∃ e, ∀ i, (∀ id, d.progs i ≠ .ret (.modelId id)) ∧
        (∀ c cs, d.progs i ≠ .ret (.completions (c :: cs))) ∧
          ∀ e', d.progs i = .err (importFailed e') → e' = e := by
  obtain ⟨log, hsound, hknown⟩ := h.known
  obtain ⟨v, hserved⟩ := hsound.served
  have hreplied : ∀ i r, (d.progs i).result? = some r →
      Unreplied r ∨ ∃ p ∈ log, failure p.2 = callFailure r :=
    fun i r hr => (hknown i r hr).replied hsound
  have hfailed : ∀ i e, d.progs i = .err (importFailed e) →
      ∃ p ∈ log, failure p.2 = some (importFailed e) := fun i e herr =>
    (hreplied i (.error (importFailed e)) (by rw [herr]; rfl)).resolve_left (Unreplied.ne_importFailed e)
  rcases import_decides hserved with ⟨-, rfl⟩ | ⟨-, hnone⟩ | ⟨e, -, hall⟩
  · refine .inl fun i e herr => ?_
    obtain ⟨p, hp, -⟩ := hfailed i e herr
    exact absurd hp List.not_mem_nil
  · refine .inl fun i e herr => ?_
    obtain ⟨p, hp, hfail⟩ := hfailed i e herr
    exact hnone p hp e hfail
  · have hgiven : ∀ i out, d.progs i = .ret out → Unreplied (.ok out) := by
      intro i out hret
      refine (hreplied i (.ok out) (by rw [hret]; rfl)).resolve_right ?_
      rintro ⟨p, hp, hfail⟩
      rw [hall p hp] at hfail
      cases hfail
    refine .inr ⟨e, fun i => ⟨fun id hret => ?_, fun c cs hret => ?_, fun e' herr => ?_⟩⟩
    · rcases hgiven i _ hret with h | h | ⟨e', -, h⟩ <;> cases h
    · rcases hgiven i _ hret with h | h | ⟨e', -, h⟩ <;> cases h
    · obtain ⟨p, hp, hfail⟩ := hfailed i e' herr
      rw [hall p hp] at hfail
      have htext := RecoverableError.transient.inj (CoreError.recoverable.inj (Option.some.inj hfail))
      exact ((String.append_right_inj _).mp htext.1).symm

/-! ## Waiting and leaving -/

/-- **No call waits forever**: whatever was reached, the thread and the caller alone go on until the
call has its result. Source: `rollout-backend-vllm/src/backend.rs`. Kind: P -/
theorem call_returns (ch : py.Choice) (h : CallsRun py secretToken w₀ calls tr d) (i : ι) :
    ∃ tr' e, Run (machine (workerMainVllm py secretToken) channelCapacity ι) d tr' e ∧
      ((e.progs i).result?).isSome = true ∧ ∀ j, j ≠ i → e.progs j = d.progs j := by
  obtain ⟨log, hsound, hsafe⟩ := served_of_run h rfl fun i s g => (calls i).safe
  have : Nonempty (workerMainVllm py secretToken).Choice := ⟨ch⟩
  exact finishes (Nat.succ_pos 63) hsound (hsafe i)

/-- What becomes of the channel when the engine is dropped: a shutdown is sent if there is room.
Source: `rollout-backend-vllm/src/engine.rs` `Drop for VllmEngine`. Kind: D -/
def dropEngine (s : State vllm (WorkerVars py)) : State vllm (WorkerVars py) :=
  if s.closed = false ∧ s.queue.length < channelCapacity then s.push VllmTask.shutdown else s

variable (secretToken) in
/-- The thread ends, so that it can be joined. Until then the sender is kept, and nobody sends
anything.
Source: `rollout-backend-vllm/src/engine.rs` `Drop for VllmEngine`. Kind: D -/
def Joins (s : State vllm (WorkerVars py)) : Prop :=
  ∃ ts : List (Turn py.Choice),
    (ts.foldl (fun s t => turn (workerMainVllm py secretToken) t s) s).closed = true

/-- **When a dropped engine is joined**: exactly when its thread has ended, a shutdown is on its way,
or the channel is not full. Source: `rollout-backend-vllm/src/engine.rs` `Drop for VllmEngine`.
Kind: P -/
theorem drop_joins_iff (ch : py.Choice) (s : State vllm (WorkerVars py)) :
    Joins secretToken (dropEngine s) ↔ s.closed = true ∨ s.queue.length < channelCapacity ∨
      ∃ m ∈ s.pending, m.1.isShutdown = true := by
  have : Nonempty (workerMainVllm py secretToken).Choice := ⟨ch⟩
  have hends : ∀ s : State vllm (WorkerVars py), Joins secretToken s ↔
      s.closed = true ∨ ∃ m ∈ s.pending, m.1.isShutdown = true :=
    fun s => ends_iff (W := workerMainVllm py secretToken) handle_eq_none_iff
  rw [hends, dropEngine]
  split
  · next hroom =>
    refine iff_of_true (.inr ⟨(.shutdown, s.next), ?_, rfl⟩) (.inr (.inl hroom.2))
    exact List.mem_append_right _ (List.mem_append_right _ (List.mem_singleton.mpr rfl))
  · next hfull =>
    constructor
    · exact Or.imp_right .inr
    · rintro (h | h | h)
      · exact .inl h
      · cases hclosed : s.closed with
        | true => exact .inl rfl
        | false => exact absurd ⟨hclosed, h⟩ hfull
      · exact .inr h

/-- **A generation that is cut off can leave a channel that is full**: then the thread waits for more
tasks, and the drop for the thread.
Source: `rollout-backend-vllm/src/engine.rs` `Drop for VllmEngine`. Kind: P -/
theorem cut_off_generation_hangs (ch : py.Choice) {prompts : List String} {params : SamplingParams}
    (hstream : params.stream = false) (hlength : channelCapacity ≤ prompts.length) :
    ∃ tr d, CallsRun py secretToken w₀ (fun _ : Unit => .generate prompts params) tr d ∧
      ¬ Joins secretToken (dropEngine d.shared) := by
  have hstart : (BackendCall.generate prompts params).program = sendAll engineClosed
      (generateTasks prompts params) >>= fun handles => BackendOut.completions <$>
        awaitAll generateDropped VllmShape.completion completionReply handles := by
    rw [BackendCall.program, generate, hstream, if_neg Bool.false_ne_true]
    exact Prog.bind_assoc _ _ _
  have htasks : (generateTasks prompts params).length = prompts.length := by
    rw [generateTasks, List.length_map, List.length_zipIdx]
  obtain ⟨tr, d, hrun, hopen, hbusy, hqueue, hmem⟩ := run_sendAll (W := workerMainVllm py secretToken)
    (i := ()) (n := channelCapacity) (d := ⟨.fresh (.start py w₀), fun _ => _⟩) engineClosed hstart rfl
    (htasks ▸ hlength) (Nat.zero_add _).le
  refine ⟨tr, d, hrun, fun hjoins => ?_⟩
  rcases (drop_joins_iff ch d.shared).mp hjoins with h | h | ⟨m, hm, hstop⟩
  · rw [hopen] at h
    cases h
  · rw [hqueue] at h
    exact absurd h (Nat.not_lt.mpr (Nat.le_add_left _ _))
  · rw [State.pending, hbusy] at hm
    have hgenerate := (hmem m hm).resolve_left List.not_mem_nil
    obtain ⟨p, -, hp⟩ := List.mem_map.mp hgenerate
    rw [← hp] at hstop
    cases hstop

end calls

/-! ## Two generations -/

section play

local instance callsBlake3 : Blake3 := ⟨fun _ => .ofEmpty⟩

/-- An engine that repeats its prompt. Source: none: infrastructure. Kind: D -/
def echo : Python Unit where
  Choice := Unit
  Module := Unit
  Obj := String
  Dict := String
  setHfToken _ _ w := (.ok (), w)
  importEngine _ w := (.ok (), w)
  init _ _ uri _ w := (.ok uri, w)
  generateOneSync _ _ prompt _ _ w := (.ok prompt, w)
  shutdown _ _ w := w
  extractString := .ok
  extractU32 _ := .ok 1
  castDict := .ok
  getItem dict _ := .ok (some dict)

/-- Two callers, and how their calls are interleaved. Source: none: infrastructure. Kind: D -/
def twoCalls (first : Bool) : BackendCall :=
  .generate (if first then ["one", "two"] else ["three"]) .default

/-- Source: none: infrastructure. Kind: D -/
def twoSchedule : List (Move (machine (workerMainVllm echo none) channelCapacity Bool)) :=
  [.step true (), .step false (), .step true (), .tick .take, .tick (.finish ()), .tick .take,
    .tick (.finish ()), .tick .take, .tick (.finish ()), .step true (), .step true (), .step false ()]

/-- What the repeating engine says. Source: none: infrastructure. Kind: D -/
def said (prompt : String) : Completion := ⟨prompt, prompt, 1, 1⟩

theorem play_two : ∃ tr d, CallsRun echo none () twoCalls tr d ∧
    d.progs true = .ret (.completions [said "one", said "two"]) ∧
    d.progs false = .ret (.completions [said "three"]) := by
  have hplay : ((⟨.fresh (.start echo ()), fun i => (twoCalls i).program⟩ : Config (iface vllm) CoreError
      (State vllm (WorkerVars echo)) fun _ : Bool => BackendOut).play twoSchedule).map
        (fun x => ((x.2.progs true).result?, (x.2.progs false).result?)) =
      some (some (.ok (.completions [said "one", said "two"])),
        some (.ok (.completions [said "three"]))) := by
    decide +kernel
  obtain ⟨⟨tr, d⟩, hrun, hresults⟩ := Option.map_eq_some_iff.mp hplay
  obtain ⟨hfirst, hsecond⟩ := Prod.mk.inj hresults
  exact ⟨tr, d, Config.play_run hrun, Prog.eq_ret_of_result? hfirst, Prog.eq_ret_of_result? hsecond⟩

/-- `generate_answers` at these calls: they use one request id, and get their own answers.
Source: `rollout-backend-vllm/src/backend.rs` `generate`. Kind: C -/
theorem two_generations_answered : ∃ tr d, CallsRun echo none () twoCalls tr d ∧
    d.progs true = .ret (.completions [said "one", said "two"]) ∧
    d.progs false = .ret (.completions [said "three"]) ∧ ∃ log k k',
      Answered (tr.filterMap accepted) log true "one" .default 0 k (.ok (said "one")) ∧
        Answered (tr.filterMap accepted) log false "three" .default 0 k' (.ok (said "three")) := by
  obtain ⟨tr, d, hrun, hfirst, hsecond⟩ := play_two
  obtain ⟨log, v, -, -, hcalls⟩ := generate_answers hrun
  obtain ⟨-, -, ks, -, hone⟩ := (hcalls true ["one", "two"] .default rfl).1 _ hfirst
  obtain ⟨-, -, ks', -, hthree⟩ := (hcalls false ["three"] .default rfl).1 _ hsecond
  obtain ⟨k, c, -, hc, hanswered, -⟩ := hone 0 "one" rfl
  obtain ⟨k', c', -, hc', hanswered', -⟩ := hthree 0 "three" rfl
  obtain rfl := Option.some.inj hc
  obtain rfl := Option.some.inj hc'
  exact ⟨tr, d, hrun, hfirst, hsecond, log, k, k', hanswered, hanswered'⟩

/-- An interpreter without the module. Source: none: infrastructure. Kind: D -/
def broken : Python Unit := { echo with importEngine := fun _ w => (.error "No module named 'vllm'", w) }

/-- Source: none: infrastructure. Kind: D -/
def brokenSchedule : List (Move (machine (workerMainVllm broken none) channelCapacity Bool)) :=
  [.step true (), .step false (), .step true (), .tick .take, .tick (.finish ()), .tick .take,
    .tick (.finish ()), .step true (), .step false ()]

/-- `one_import` without the module: both callers are told the same.
Source: `rollout-backend-vllm/src/engine.rs` `worker_main_vllm`. Kind: C -/
theorem broken_import_told : ∃ tr d e, CallsRun broken none () twoCalls tr d ∧
    d.progs true = .err (importFailed e) ∧ d.progs false = .err (importFailed e) ∧
    ∀ e', d.progs false = .err (importFailed e') → e' = e := by
  have hplay : ((⟨.fresh (.start broken ()), fun i => (twoCalls i).program⟩ : Config (iface vllm) CoreError
      (State vllm (WorkerVars broken)) fun _ : Bool => BackendOut).play brokenSchedule).map
        (fun x => ((x.2.progs true).result?, (x.2.progs false).result?)) =
      some (some (.error (importFailed "No module named 'vllm'")),
        some (.error (importFailed "No module named 'vllm'"))) := by
    decide +kernel
  obtain ⟨⟨tr, d⟩, hrun, hresults⟩ := Option.map_eq_some_iff.mp hplay
  obtain ⟨hfirst, hsecond⟩ := Prod.mk.inj hresults
  have hfirst := Prog.eq_err_of_result? hfirst
  have hsecond := Prog.eq_err_of_result? hsecond
  rcases one_import (Config.play_run hrun) with hnone | ⟨e, hall⟩
  · exact absurd hfirst (hnone true _)
  · have hsame := (hall true).2.2 _ hfirst
    exact ⟨tr, d, e, Config.play_run hrun, hsame ▸ hfirst, hsame ▸ hsecond, (hall false).2.2⟩

/-- `call_returns` at two calls nobody has begun.
Source: `rollout-backend-vllm/src/backend.rs`. Kind: C -/
theorem two_generations_return : ∃ tr e,
    Run (machine (workerMainVllm echo none) channelCapacity Bool)
        ⟨.fresh (.start echo ()), fun i => (twoCalls i).program⟩ tr e ∧
      ((e.progs true).result?).isSome = true ∧ e.progs false = (twoCalls false).program := by
  have hstart : CallsRun echo none () twoCalls []
      ⟨.fresh (.start echo ()), fun i => (twoCalls i).program⟩ := .refl
  obtain ⟨tr, e, hrun, hdone, hsame⟩ := call_returns () hstart true
  exact ⟨tr, e, hrun, hdone, hsame false Bool.false_ne_true⟩

/-- `cut_off_generation_hangs` at as many prompts as the channel holds.
Source: `rollout-backend-vllm/src/engine.rs` `Drop for VllmEngine`. Kind: C -/
theorem full_channel_hangs : ∃ tr d, CallsRun echo none ()
    (fun _ : Unit => .generate (List.replicate 64 "one") .default) tr d ∧
      ¬ Joins none (dropEngine d.shared) :=
  cut_off_generation_hangs () rfl (Nat.le_of_eq List.length_replicate.symm)

end play

end Rollout.Vllm
