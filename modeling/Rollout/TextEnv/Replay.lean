import Rollout.TextEnv.Env

/-!
# Episodes do not interfere

* `May` — the operations each call may issue; `Draws` — what a reset does.
* `Life` — a run of the environment and one episode in it: where in its batch it was reset, with what
  prompt, and what happened since.
* `solo` — what an episode of its own shows for a step, from the steps and closings before it.
  `Life.seen_eq`: the results of a run are those of `solo`, whatever happens around the episode.
* `same_view` — so two runs show the same, except where a batch with the episode in it was dropped for
  a reward that failed.
-/

set_option linter.unusedSectionVars false

namespace Rollout.TextEnv

open Rollout.Lib Rollout.Core

/-! ## Resets -/

/-- Source: `rollout-harness-text/src/lib.rs` `reset` (`Ulid::new`). Kind: D -/
def drawn {ι : Type} : EnvEvent ι → Option EpisodeId
  | ⟨_, .newUlid, id, _, _⟩ => some id
  | _ => none

/-- Source: `rollout-harness-text/src/lib.rs` `reset` (`insert`). Kind: D -/
def inserted {ι : Type} (x : EnvEvent ι) : Option EpisodeId :=
  match x.op with
  | .insert id _ => some id
  | _ => none

/-- Source: `rollout-harness-text/src/lib.rs` `step` (`with_episode`). Kind: D -/
def entered {ι : Type} (x : EnvEvent ι) : Option EpisodeStep :=
  match x.op with
  | .withEpisode entry => some entry
  | _ => none

/-- The events of a reset, from an index on, and the episodes when it is over: an identifier is drawn
and the episode inserted, for one prompt after the other. Source: `rollout-harness-text/src/lib.rs`
`reset`. Kind: D -/
inductive Draws {ι : Type} (env : TextCompletionEnv) :
    Nat → List String → List (EnvEvent ι) → Option (List Episode) → Prop
  | stop {idx : Nat} {prompts : List String} : Draws env idx prompts [] none
  | done {idx : Nat} : Draws env idx [] [] (some [])
  | half {idx : Nat} {text : String} {prompts : List String} {i : ι} {id : EpisodeId}
      {s s' : KV EpisodeId EpisodeState} :
      Draws env idx (text :: prompts) [⟨i, .newUlid, id, s, s'⟩] none
  | cons {idx : Nat} {text : String} {prompts : List String} {i : ι} {id : EpisodeId}
      {s s' t t' : KV EpisodeId EpisodeState} {es : List (EnvEvent ι)} {out : Option (List Episode)}
      (h : Draws env (idx + 1) prompts es out) : Draws env idx (text :: prompts)
        (⟨i, .newUlid, id, s, s'⟩ :: ⟨i, .insert id (env.fresh idx text), (), t, t'⟩ :: es)
        (out.map (⟨id, text⟩ :: ·))

section events

variable {ι : Type} {i : ι} {id : EpisodeId} {s s' : KV EpisodeId EpisodeState}

@[simp] theorem inserted_newUlid : inserted ⟨i, .newUlid, id, s, s'⟩ = none := rfl

@[simp] theorem inserted_insert {state : EpisodeState} :
    inserted ⟨i, .insert id state, (), s, s'⟩ = some id := rfl

@[simp] theorem drawn_newUlid : drawn ⟨i, .newUlid, id, s, s'⟩ = some id := rfl

@[simp] theorem drawn_insert {state : EpisodeState} :
    drawn ⟨i, .insert id state, (), s, s'⟩ = none := rfl

end events

section draws

variable {ι : Type} {env : TextCompletionEnv} {idx : Nat} {prompts : List String}
  {es : List (EnvEvent ι)} {out : Option (List Episode)} {i : ι}

/-- **What a reset does**, by induction on its prompts; it does not fail.
Source: `rollout-harness-text/src/lib.rs` `reset`. Kind: P -/
theorem exec_resetFrom {q : EnvM (List Episode)}
    (h : Prog.Exec (envMachine ι) i (resetFrom env idx prompts) es q) :
    ∃ out, Draws env idx prompts es out ∧
      ∀ r, q.result? = some r → ∃ episodes, q = .ret episodes ∧ out = some episodes := by
  induction prompts generalizing idx es q with
  | nil =>
      obtain ⟨rfl, rfl⟩ := h.of_ret
      exact ⟨_, .done, fun r _ => ⟨[], rfl, rfl⟩⟩
  | cons text prompts ih =>
      rcases Prog.Exec.of_call h with ⟨rfl, rfl⟩ | ⟨id, s, s', es, rfl, -, h⟩
      · exact ⟨_, .stop, fun r hr => by cases hr⟩
      rcases Prog.Exec.of_call h with ⟨rfl, rfl⟩ | ⟨u, t, t', es, rfl, -, h⟩
      · exact ⟨_, .half, fun r hr => by cases hr⟩
      obtain ⟨q, hq, rfl⟩ := Prog.Exec.of_map h
      obtain ⟨out, hdraws, hout⟩ := ih hq
      refine ⟨_, .cons hdraws, fun r hr => ?_⟩
      cases q with
      | ret rest =>
          obtain ⟨episodes, hret, rfl⟩ := hout _ rfl
          cases hret
          exact ⟨_, rfl, rfl⟩
      | err e =>
          obtain ⟨episodes, hret, -⟩ := hout _ rfl
          cases hret
      | call o k => cases hr

/-- An episode is inserted under an identifier that was drawn for it.
Source: `rollout-harness-text/src/lib.rs` `reset`. Kind: L -/
theorem Draws.countP_le (h : Draws env idx prompts es out) (id : EpisodeId) :
    es.countP (fun x => inserted x = some id) ≤ es.countP (fun x => drawn x = some id) := by
  induction h with
  | stop => exact Nat.le_refl _
  | done => exact Nat.le_refl _
  | half => simp
  | @cons idx text prompts i id' s s' t t' es out _ ih =>
      by_cases hid : id' = id
      · simpa [hid] using ih
      · simpa [hid] using ih

/-- **The state an episode is inserted with** is that of its place in the batch.
Source: `rollout-harness-text/src/lib.rs` `reset`, `episode_seed`. Kind: L -/
theorem Draws.state_eq (h : Draws env idx prompts es out) {es₁ es₂ : List (EnvEvent ι)}
    {x : EnvEvent ι} (hes : es = es₁ ++ x :: es₂) {id : EpisodeId} {state : EpisodeState}
    (hx : x.op = .insert id state) {text : String}
    (htext : prompts[es₁.countP (fun y => (inserted y).isSome)]? = some text) :
    state = env.fresh (idx + es₁.countP fun y => (inserted y).isSome) text := by
  induction h generalizing es₁ with
  | stop => simp at hes
  | done => simp at hes
  | half =>
      rcases es₁ with - | ⟨y, es₁⟩
      · cases hes
        cases hx
      · simp at hes
  | @cons idx text' prompts i id' s s' t t' es out _ ih =>
      rcases es₁ with - | ⟨y, es₁⟩
      · cases hes
        cases hx
      obtain ⟨rfl, hrest⟩ := List.cons.inj hes
      rcases es₁ with - | ⟨z, es₁⟩
      · obtain ⟨rfl, -⟩ := List.cons.inj hrest
        cases hx
        rw [List.countP_singleton, inserted_newUlid] at htext ⊢
        rw [show text' = text from Option.some.inj htext]
        rfl
      · obtain ⟨rfl, rfl⟩ := List.cons.inj hrest
        simp only [List.countP_cons, inserted_newUlid, inserted_insert, Option.isSome_none,
          Option.isSome_some, if_true, Bool.false_eq_true, if_false, Nat.add_zero,
          List.getElem?_cons_succ] at htext ⊢
        rw [ih rfl htext]
        congr 1
        omega

/-- The observations of a finished reset are its prompts. Source: `rollout-harness-text/src/lib.rs`
`reset`. Kind: L -/
theorem Draws.observations (h : Draws env idx prompts es out) {episodes : List Episode}
    (hout : out = some episodes) : episodes.map Episode.observation = prompts := by
  induction h generalizing episodes with
  | stop => cases hout
  | done =>
      cases hout
      rfl
  | half => cases hout
  | cons h ih =>
      obtain ⟨rest, rfl, rfl⟩ := Option.map_eq_some_iff.mp hout
      rw [List.map_cons, ih rfl]

end draws

/-! ## What a call may do -/

/-- Source: `rollout-harness-text/src/lib.rs` `reset`, `step`, `close`. Kind: D -/
def EnvCall.May : EnvCall → EnvOp → Prop
  | .reset _, .newUlid => True
  | .reset _, .insert _ _ => True
  | .step batch, .withEpisode entry => entry ∈ batch
  | .step _, .score _ _ _ => True
  | .close episodeIds, .remove id => id ∈ episodeIds
  | _, _ => False

section may

variable {ι : Type} {env : TextCompletionEnv} {i : ι}

theorem issues_resetFrom (idx : Nat) (prompts : List String) :
    (resetFrom env idx prompts).Issues (envMachine ι) i fun o => o = .newUlid ∨
      ∃ id state, o = .insert id state := by
  induction prompts generalizing idx with
  | nil => trivial
  | cons text prompts ih =>
      refine ⟨.inl rfl, fun id _ _ _ => ⟨.inr ⟨_, _, rfl⟩, fun _ _ _ _ => ?_⟩⟩
      exact (ih (idx + 1)).bind fun _ => trivial

theorem issues_step (batch : List EpisodeStep) :
    (step env batch).Issues (envMachine ι) i fun o =>
      (∃ entry ∈ batch, o = .withEpisode entry) ∨ ∃ h p c, o = .score h p c := by
  induction batch with
  | nil => trivial
  | cons entry batch ih =>
      have hrest : (step env batch).Issues (envMachine ι) i fun o =>
          (∃ e ∈ entry :: batch, o = .withEpisode e) ∨ ∃ h p c, o = .score h p c := by
        refine ih.mono fun o ho => ho.imp_left ?_
        rintro ⟨e, he, rfl⟩
        exact ⟨e, List.mem_cons_of_mem _ he, rfl⟩
      have hone : (stepOne env entry).Issues (envMachine ι) i fun o =>
          (∃ e ∈ entry :: batch, o = .withEpisode e) ∨ ∃ h p c, o = .score h p c := by
        unfold stepOne
        rw [Prog.op_bind]
        refine ⟨.inl ⟨entry, List.mem_cons_self, rfl⟩, fun r _ _ _ => ?_⟩
        cases r with
        | none => trivial
        | some snap =>
            refine Prog.Issues.bind ?_ fun _ => trivial
            unfold computeReward
            cases env.rewardHandle with
            | none => trivial
            | some handle =>
                refine ⟨.inr ⟨_, _, _, rfl⟩, fun answer _ _ _ => ?_⟩
                exact (Prog.Issues.ofExcept answer).bind fun _ => trivial
      exact hone.bind fun _ => hrest.bind fun _ => trivial

theorem issues_close (episodeIds : List EpisodeId) :
    (close episodeIds).Issues (envMachine ι) i fun o => ∃ id ∈ episodeIds, o = .remove id := by
  induction episodeIds with
  | nil => trivial
  | cons id episodeIds ih =>
      refine ⟨⟨id, List.mem_cons_self, rfl⟩, fun _ _ _ _ => ih.mono ?_⟩
      rintro o ⟨id', hid, rfl⟩
      exact ⟨id', List.mem_cons_of_mem _ hid, rfl⟩

/-- A call issues its own operations. Source: `rollout-harness-text/src/lib.rs` `reset`, `step`,
`close`. Kind: L -/
theorem issues_prog (call : EnvCall) : (call.prog env).Issues (envMachine ι) i call.May := by
  cases call with
  | reset prompts =>
      refine Prog.Issues.bind ((issues_resetFrom 0 prompts).mono ?_) fun _ => trivial
      rintro o (rfl | ⟨id, state, rfl⟩) <;> trivial
  | step batch =>
      refine Prog.Issues.bind ((issues_step batch).mono ?_) fun _ => trivial
      rintro o (⟨entry, hentry, rfl⟩ | ⟨h, p, c, rfl⟩)
      · exact hentry
      · trivial
  | close episodeIds =>
      refine Prog.Issues.bind ((issues_close episodeIds).mono ?_) fun _ => trivial
      rintro o ⟨id, hid, rfl⟩
      exact hid

theorem locals_of_entered {x : EnvEvent ι} {entry : EpisodeStep} (h : entered x = some entry)
    {id : EpisodeId} (hid : entry.episodeId = id) (tr : List (EnvEvent ι)) :
    episodeStore.locals id (x :: tr) = .step entry.action :: episodeStore.locals id tr := by
  obtain ⟨i, o, r, s, s'⟩ := x
  cases o <;> cases h
  refine List.filterMap_cons_some (Keyed.localAt_of_touches ?_)
  rw [← hid]
  rfl

theorem op_of_touches {o : EnvOp} {id : EpisodeId} {state : EpisodeState}
    (h : episodeStore.touches o = some (id, .insert state)) : o = .insert id state := by
  cases o <;> cases h
  rfl

/-- Only a reset inserts episodes. Source: `rollout-harness-text/src/lib.rs` `reset`. Kind: L -/
theorem EnvCall.May.reset {call : EnvCall} {x : EnvEvent ι} (h : call.May x.op) {id : EpisodeId}
    (hx : inserted x = some id) : ∃ prompts, call = .reset prompts := by
  obtain ⟨i, o, r, s, s'⟩ := x
  cases o <;> cases hx
  cases call with
  | reset prompts => exact ⟨prompts, rfl⟩
  | step batch => exact h.elim
  | close episodeIds => exact h.elim

end may

/-! ## The life of an episode -/

/-- What a result shows but the reward. Source: `rollout-core/src/traits/harness.rs` `StepResult`.
Kind: D -/
structure StepView where
  /-- Next observation. -/
  observation : String
  /-- Whether the episode terminated. -/
  done : Bool
  /-- The turn and the nonce, or the error. -/
  info : StepInfo
deriving DecidableEq

/-- Source: `rollout-core/src/traits/harness.rs` `StepResult`. Kind: D -/
def StepResult.view (r : StepResult) : StepView := ⟨r.observation, r.done, r.info⟩

/-- What a step shows, from what it reads of the episode. Source: `rollout-harness-text/src/lib.rs`
`step`. Kind: D -/
def shown (action : String) : Option Snap → StepView
  | none => ⟨"", true, .error "unknown or closed episode"⟩
  | some snap => ⟨action, decide (snap.maxTurns ≤ snap.turn), .turn snap.turn snap.nonce⟩

/-- **An episode of its own**: what it shows for an action after the given operations.
Source: `rollout-harness-text/src/lib.rs` `step`, `close`. Kind: D -/
def solo (start : EpisodeState) (ops : List EpisodeOp) (action : String) : StepView :=
  shown action ((episodeStore.replay (some start) ops).map fun state => state.advance.1)

@[simp] theorem view_unknownResult (entry : EpisodeStep) :
    (unknownResult entry).view = shown entry.action none := rfl

@[simp] theorem view_turnResult (entry : EpisodeStep) (snap : Snap) (reward : Option Reward) :
    (turnResult entry snap reward).view = shown entry.action (some snap) := rfl

/-- **The result of an entry shows what was read for it.** Source: `rollout-harness-text/src/lib.rs`
`step`. Kind: L -/
theorem Answers.view {ι : Type} {env : TextCompletionEnv} {batch : List EpisodeStep}
    {es es₁ es₂ : List (EnvEvent ι)} {results : List StepResult} (h : Answers env batch es results)
    {i : ι} {entry : EpisodeStep} {r : Option Snap} {s s' : KV EpisodeId EpisodeState}
    (hes : es = es₁ ++ ⟨i, .withEpisode entry, r, s, s'⟩ :: es₂) :
    results[es₁.countP fun y => (entered y).isSome]?.map StepResult.view =
      some (shown entry.action r) := by
  induction h generalizing es₁ with
  | nil => simp at hes
  | closed h ih =>
      rcases es₁ with - | ⟨y, es₁⟩
      · cases hes
        rfl
      · obtain ⟨rfl, hrest⟩ := List.cons.inj hes
        rw [List.countP_cons_of_pos rfl, List.getElem?_cons_succ]
        exact ih hrest
  | echoed hecho h ih =>
      rcases es₁ with - | ⟨y, es₁⟩
      · cases hes
        rfl
      · obtain ⟨rfl, hrest⟩ := List.cons.inj hes
        rw [List.countP_cons_of_pos rfl, List.getElem?_cons_succ]
        exact ih hrest
  | scored hhandle h ih =>
      rcases es₁ with - | ⟨y, es₁⟩
      · cases hes
        rfl
      · obtain ⟨rfl, hrest⟩ := List.cons.inj hes
        rcases es₁ with - | ⟨z, es₁⟩
        · cases hrest
        · obtain ⟨rfl, htail⟩ := List.cons.inj hrest
          rw [List.countP_cons_of_pos rfl, List.countP_cons_of_neg Bool.false_ne_true,
            List.getElem?_cons_succ]
          exact ih htail

/-- What the call of a step returned for it, once the call is over, after the given events.
Source: `rollout-harness-text/src/lib.rs` `step`. Kind: D -/
def returned {ι : Type} [DecidableEq ι]
    (final : Config envIface CoreError (KV EpisodeId EpisodeState) fun _ : ι => EnvReply)
    (front : List (EnvEvent ι)) (x : EnvEvent ι) : Option (Option StepView) :=
  match (final.progs x.who).result? with
  | none => none
  | some (.ok (.step results)) =>
      some (results[(own x.who front).countP fun y => (entered y).isSome]?.map StepResult.view)
  | some _ => some none

/-- An operation an episode is given by the callers. Source: `rollout-harness-text/src/lib.rs` `step`,
`close`. Kind: D -/
def EpisodeOp.given : EpisodeOp → Bool
  | .insert _ => false
  | .step _ => true
  | .remove => true

/-- **An episode in a run of the environment**, which starts without episodes: it is inserted by a
reset of its prompt at a place in the batch. No identifier is drawn twice.
Source: `rollout-harness-text/src/lib.rs` `TextCompletionEnv`. Kind: D -/
structure Life (ι : Type) [DecidableEq ι] (settings : TextEnvSettings) (place : Nat)
    (prompt : String) where
  /-- The environment. -/
  env : TextCompletionEnv
  /-- The calls of the run. -/
  calls : ι → EnvCall
  /-- The events before the episode is inserted. -/
  before : List (EnvEvent ι)
  /-- Its insertion. -/
  birth : EnvEvent ι
  /-- The events since. -/
  after : List (EnvEvent ι)
  /-- The end of the run. -/
  final : Config envIface CoreError (KV EpisodeId EpisodeState) fun _ : ι => EnvReply
  /-- The episode. -/
  id : EpisodeId
  same : env.settings = settings
  run : Run (envMachine ι) (envSystem env calls ∅) (before ++ birth :: after) final
  unique : ((before ++ birth :: after).filterMap drawn).Nodup
  inserts : ∃ state, birth.op = .insert id state
  reset : ∃ prompts, calls birth.who = .reset prompts ∧ prompts[place]? = some prompt
  position : (own birth.who before).countP (fun x => (inserted x).isSome) = place

namespace Life

variable {ι : Type} [DecidableEq ι] {settings : TextEnvSettings} {place : Nat} {prompt : String}
  (L : Life ι settings place prompt)

/-- The steps and closings the episode is given. Source: `rollout-harness-text/src/lib.rs` `step`,
`close`. Kind: D -/
def actions : List EpisodeOp := (episodeStore.locals L.id L.after).filter EpisodeOp.given

/-- The observation the reset returned for the episode, once it returned.
Source: `rollout-harness-text/src/lib.rs` `reset`. Kind: D -/
def opened : Option (Option String) :=
  match (L.final.progs L.birth.who).result? with
  | none => none
  | some (.ok (.reset episodes)) => some (episodes[place]?.map Episode.observation)
  | some _ => some none

/-- What the call of a step returned for it, once the call is over; nothing if it failed. The events
are those between the insertion and the step. Source: `rollout-harness-text/src/lib.rs` `step`.
Kind: D -/
def seen (pre : List (EnvEvent ι)) (x : EnvEvent ι) : Option (Option StepView) :=
  returned L.final (L.before ++ L.birth :: pre) x

/-- No reward fails in a batch that has the episode in it. Source: `rollout-harness-text/src/lib.rs`
`step`. Kind: D -/
def Unbroken : Prop :=
  ∀ x ∈ L.before ++ L.birth :: L.after, ScoreFailed x → ∀ batch, L.calls x.who = .step batch →
    ∀ entry ∈ batch, entry.episodeId ≠ L.id

variable {L} in
/-- The run starts without episodes. Source: none: infrastructure. Kind: L -/
theorem exec (i : ι) : Prog.Exec (envMachine ι) i ((L.calls i).prog L.env)
    (own i (L.before ++ L.birth :: L.after)) (L.final.progs i) := L.run.exec i

theorem split {pre post : List (EnvEvent ι)} {x : EnvEvent ι} (h : L.after = pre ++ x :: post) :
    L.before ++ L.birth :: L.after = (L.before ++ L.birth :: pre) ++ x :: post := by
  rw [h, List.append_assoc, List.cons_append]

/-- An event is one of its call. Source: `rollout-harness-text/src/lib.rs` `reset`, `step`, `close`.
Kind: L -/
theorem may {x : EnvEvent ι} (hx : x ∈ L.before ++ L.birth :: L.after) : (L.calls x.who).May x.op :=
  L.run.issued (fun i => issues_prog (L.calls i)) x hx

/-- Every process inserts an episode no more often than it draws its identifier.
Source: `rollout-harness-text/src/lib.rs` `reset`. Kind: L -/
theorem countP_own_le (i : ι) (id : EpisodeId) :
    (own i (L.before ++ L.birth :: L.after)).countP (fun x => inserted x = some id) ≤
      (own i (L.before ++ L.birth :: L.after)).countP (fun x => drawn x = some id) := by
  by_cases hreset : ∃ prompts, L.calls i = .reset prompts
  · obtain ⟨prompts, hcall⟩ := hreset
    have hexec := L.exec i
    rw [hcall] at hexec
    obtain ⟨q, hq, -⟩ := Prog.Exec.of_map hexec
    obtain ⟨out, hdraws, -⟩ := exec_resetFrom hq
    exact hdraws.countP_le id
  · refine (List.countP_eq_zero.mpr fun x hx hinserted => hreset ?_).trans_le (Nat.zero_le _)
    obtain ⟨hmem, rfl⟩ := mem_own.mp hx
    exact (L.may hmem).reset (of_decide_eq_true hinserted)

/-- **The episode is inserted once.** Source: `rollout-harness-text/src/lib.rs` `reset`
(`Ulid::new`). Kind: L -/
theorem inserted_ne {x : EnvEvent ι} (hx : x ∈ L.after) : inserted x ≠ some L.id := by
  intro hinserted
  have hdrawn : (L.before ++ L.birth :: L.after).countP (fun x => drawn x = some L.id) ≤ 1 := by
    have hcount := List.nodup_iff_count_le_one.mp L.unique L.id
    rw [List.count_filterMap] at hcount
    refine (Nat.le_of_eq (List.countP_congr fun y _ => ?_)).trans hcount
    simp
  have hle := (countP_le_of_own fun i => L.countP_own_le i L.id).trans hdrawn
  obtain ⟨state, hstate⟩ := L.inserts
  have hbirth : inserted L.birth = some L.id := by rw [inserted, hstate]
  have hafter : 0 < L.after.countP (fun x => inserted x = some L.id) :=
    List.countP_pos_iff.mpr ⟨x, hx, decide_eq_true hinserted⟩
  rw [List.countP_append, List.countP_cons_of_pos (p := fun x => inserted x = some L.id)
    (decide_eq_true hbirth)] at hle
  omega

/-- What is done to the episode is what it is given. Source: `rollout-harness-text/src/lib.rs`
`reset`. Kind: L -/
theorem given_of_mem {op : EpisodeOp} (h : op ∈ episodeStore.locals L.id L.after) :
    op.given = true := by
  obtain ⟨x, hx, hlocal⟩ := List.mem_filterMap.mp h
  cases op with
  | insert state =>
      refine absurd ?_ (L.inserted_ne hx)
      rw [inserted, op_of_touches (Keyed.localAt_eq_some_iff.mp hlocal)]
  | step action => rfl
  | remove => rfl

theorem actions_eq : L.actions = episodeStore.locals L.id L.after :=
  List.filter_eq_self.mpr fun _ => L.given_of_mem

/-- **The state the episode is inserted with.** Source: `rollout-harness-text/src/lib.rs` `reset`.
Kind: L -/
theorem birth_op : L.birth.op = .insert L.id (L.env.fresh place prompt) := by
  obtain ⟨state, hstate⟩ := L.inserts
  obtain ⟨prompts, hcall, hprompt⟩ := L.reset
  have hexec := L.exec L.birth.who
  rw [hcall] at hexec
  obtain ⟨q, hq, -⟩ := Prog.Exec.of_map hexec
  obtain ⟨out, hdraws, -⟩ := exec_resetFrom hq
  rw [hstate, hdraws.state_eq (own_split L.before L.birth L.after) hstate (by rw [L.position]; exact hprompt), L.position,
    Nat.zero_add]

/-- What a reset returned for the episode is its prompt. Source: `rollout-harness-text/src/lib.rs`
`reset`. Kind: L -/
theorem opened_eq {v : Option String} (h : L.opened = some v) : v = some prompt := by
  obtain ⟨prompts, hcall, hprompt⟩ := L.reset
  have hexec := L.exec L.birth.who
  rw [hcall] at hexec
  obtain ⟨q, hq, hprog⟩ := Prog.Exec.of_map hexec
  obtain ⟨out, hdraws, hout⟩ := exec_resetFrom hq
  rw [opened, hprog] at h
  cases q with
  | ret episodes =>
      obtain ⟨episodes', hret, rfl⟩ := hout _ rfl
      cases hret
      rw [← Option.some.inj h, ← List.getElem?_map, hdraws.observations rfl, hprompt]
  | err e =>
      obtain ⟨episodes', hret, -⟩ := hout _ rfl
      cases hret
  | call o k => cases h

/-- What a step of the episode reads. Source: `rollout-harness-text/src/lib.rs` `step`
(`with_episode`). Kind: L -/
theorem resp_eq {pre post : List (EnvEvent ι)} {i : ι} {entry : EpisodeStep} {r : Option Snap}
    {s s' : KV EpisodeId EpisodeState}
    (hafter : L.after = pre ++ ⟨i, .withEpisode entry, r, s, s'⟩ :: post)
    (hid : entry.episodeId = L.id) :
    r = (episodeStore.replay (some (L.env.fresh place prompt))
      (episodeStore.locals L.id pre)).map fun state => state.advance.1 := by
  have htouches : episodeStore.touches (.withEpisode entry) = some (L.id, .step entry.action) := by
    rw [← hid]
    rfl
  obtain ⟨a, ha⟩ := Keyed.resp_of_run L.run (L.split hafter) (Keyed.localAt_of_touches htouches)
  have hbirth : episodeStore.locals L.id (L.birth :: pre) =
      .insert (L.env.fresh place prompt) :: episodeStore.locals L.id pre := by
    refine List.filterMap_cons_some (Keyed.localAt_of_touches ?_)
    rw [L.birth_op]
    rfl
  rw [Keyed.locals_append, hbirth, Keyed.replay_append] at ha
  exact ha

/-- **What an unbroken life shows for a step** is what the episode shows on its own.
Source: `rollout-harness-text/src/lib.rs` `step`. Kind: P -/
theorem seen_eq (hunbroken : L.Unbroken) {pre post : List (EnvEvent ι)} {x : EnvEvent ι}
    (hafter : L.after = pre ++ x :: post) {entry : EpisodeStep} (hentered : entered x = some entry)
    (hid : entry.episodeId = L.id) {v : Option StepView} (h : L.seen pre x = some v) :
    v = some (solo (L.env.fresh place prompt) (episodeStore.locals L.id pre) entry.action) := by
  obtain ⟨i, o, r, s, s'⟩ := x
  cases o <;> cases hentered
  have hmem : (⟨i, .withEpisode entry, r, s, s'⟩ : EnvEvent ι) ∈ L.before ++ L.birth :: L.after := by
    simp [hafter]
  have hmay := L.may hmem
  have hexec := L.exec i
  cases hcall : L.calls i with
  | reset prompts => simp [hcall, EnvCall.May] at hmay
  | close episodeIds => simp [hcall, EnvCall.May] at hmay
  | step batch =>
      have hbatch : entry ∈ batch := by simpa [hcall, EnvCall.May] using hmay
      rw [hcall] at hexec
      obtain ⟨q, hq, hprog⟩ := Prog.Exec.of_map hexec
      rw [seen, returned, hprog] at h
      rcases exec_step hq with ⟨results, rfl, hanswers⟩ | ⟨e, rfl, -, y, hy, hfail⟩ | ⟨hnone, -⟩
      · have hown := own_split (L.before ++ L.birth :: pre) ⟨i, .withEpisode entry, r, s, s'⟩ post
        rw [← L.split hafter] at hown
        have hview := hanswers.view hown
        rw [L.resp_eq hafter hid] at hview
        rw [← Option.some.inj h, hview]
        rfl
      · obtain ⟨hfailed, rfl⟩ := mem_own.mp hy
        exact absurd hid (hunbroken y hfailed hfail batch hcall entry hbatch)
      · cases q with
        | ret a => cases hnone
        | err e => cases hnone
        | call o k => cases h

end Life

/-- **Two runs show the same of an episode**: its first observation, and for each of its steps the
observation, whether it is done, the turn and the nonce, as far as the calls are over.
Source: `rollout-harness-text/src/lib.rs` (`env_deterministic_replay`). Kind: D -/
def SameView {ι κ : Type} [DecidableEq ι] [DecidableEq κ] {settings : TextEnvSettings} {place : Nat}
    {prompt : String} (L : Life ι settings place prompt) (R : Life κ settings place prompt) : Prop :=
  (∀ v w, L.opened = some v → R.opened = some w → v = w) ∧
  ∀ pre x post pre' x' post' entry entry', L.after = pre ++ x :: post → R.after = pre' ++ x' :: post' →
    entered x = some entry → entry.episodeId = L.id → entered x' = some entry' →
    entry'.episodeId = R.id →
    (episodeStore.locals L.id pre).length = (episodeStore.locals R.id pre').length →
    ∀ v w, L.seen pre x = some v → R.seen pre' x' = some w → v = w

/-- A fresh episode depends on the settings only. Source: `rollout-harness-text/src/lib.rs` `reset`,
`episode_seed`. Kind: L -/
theorem fresh_congr {env env' : TextCompletionEnv} (h : env.settings = env'.settings) (idx : Nat)
    (text : String) : env.fresh idx text = env'.fresh idx text := by
  rw [TextCompletionEnv.fresh, TextCompletionEnv.fresh, TextCompletionEnv.episodeSeed,
    TextCompletionEnv.episodeSeed, h]

/-- **Episodes do not interfere**, as long as no reward fails in a batch with the episode in it: two
runs with the same actions of it show the same. Source: `rollout-harness-text/src/lib.rs` `reset`,
`step`, `close`. Kind: C -/
theorem same_view {ι κ : Type} [DecidableEq ι] [DecidableEq κ] {settings : TextEnvSettings}
    {place : Nat} {prompt : String} (L : Life ι settings place prompt)
    (R : Life κ settings place prompt) (hactions : L.actions = R.actions) (hL : L.Unbroken)
    (hR : R.Unbroken) : SameView L R := by
  refine ⟨fun v w hv hw => (L.opened_eq hv).trans (R.opened_eq hw).symm, ?_⟩
  intro pre x post pre' x' post' entry entry' hafter hafter' hx hid hx' hid' hlength v w hv hw
  rw [L.seen_eq hL hafter hx hid hv, R.seen_eq hR hafter' hx' hid' hw,
    fresh_congr (L.same.trans R.same.symm)]
  -- the step and what was done before it stand at the same place of the actions
  rw [L.actions_eq, R.actions_eq, hafter, hafter', Keyed.locals_append, Keyed.locals_append]
    at hactions
  obtain ⟨hpre, hrest⟩ := List.append_inj hactions hlength
  rw [locals_of_entered hx hid, locals_of_entered hx' hid'] at hrest
  obtain ⟨haction, -⟩ := List.cons.inj hrest
  rw [hpre, EpisodeOp.step.inj haction]

/-! ## Two runs with one episode -/

section played

/-- Who calls. Source: none: infrastructure. Kind: D -/
inductive Caller
  | resets
  | others
  | steps
deriving DecidableEq

/-- Source: none: infrastructure. Kind: D -/
abbrev EnvConfig := Config envIface CoreError (KV EpisodeId EpisodeState) fun _ : Caller => EnvReply

/-- One reset of an episode, one of another, and a step. Source: none: infrastructure. Kind: D -/
def threeCalls (batch : List EpisodeStep) : Caller → EnvCall
  | .resets => .reset ["p"]
  | .others => .reset ["q"]
  | .steps => .step batch

/-- A run in which the episode is the first of its reset and the next event is its only step, with
what the step returned. Source: none: infrastructure. Kind: D -/
def playedStep (id : EpisodeId) (n : Nat) (v : Option StepView)
    (x : List (EnvEvent Caller) × EnvConfig) : Bool :=
  decide ((x.1.filterMap drawn).Nodup) &&
  decide ((x.1.take n).countP (fun y => (inserted y).isSome && decide (y.who = .resets)) = 0) &&
  match x.1.drop n with
  | birth :: y :: after =>
      decide (inserted birth = some id ∧ birth.who = .resets ∧ entered y = some ⟨id, "a"⟩) &&
        decide ((episodeStore.locals id (y :: after)).filter EpisodeOp.given = [.step "a"]) &&
        decide (returned x.2 (x.1.take n ++ [birth]) y = some v)
  | _ => false

theorem exists_life {env : TextCompletionEnv} {batch : List EpisodeStep}
    {tr : List (EnvEvent Caller)} {d : EnvConfig}
    (hrun : Run (envMachine Caller) (envSystem env (threeCalls batch) ∅) tr d) {id : EpisodeId}
    {n : Nat} {v : Option StepView} (h : playedStep id n v (tr, d) = true) :
    ∃ L : Life Caller env.settings 0 "p", L.calls = threeCalls batch ∧ L.actions = [.step "a"] ∧
      L.before ++ L.birth :: L.after = tr ∧ ∃ x post, L.after = [] ++ x :: post ∧
        entered x = some ⟨L.id, "a"⟩ ∧ L.seen [] x = some v := by
  unfold playedStep at h
  obtain ⟨h, hrest⟩ := Bool.and_eq_true_iff.mp h
  obtain ⟨hunique, hcount⟩ := Bool.and_eq_true_iff.mp h
  rcases hdrop : tr.drop n with - | ⟨birth, - | ⟨x, post⟩⟩
  · simp [hdrop] at hrest
  · simp [hdrop] at hrest
  simp only [hdrop, Bool.and_eq_true, decide_eq_true_eq] at hrest hunique hcount
  obtain ⟨⟨⟨hinserted, hwho, hentered⟩, hactions⟩, hreturned⟩ := hrest
  have htr : tr.take n ++ birth :: x :: post = tr := by rw [← hdrop, List.take_append_drop]
  have hinserts : ∃ state, birth.op = .insert id state := by
    obtain ⟨w, o, r, s, s'⟩ := birth
    cases o <;> cases hinserted
    exact ⟨_, rfl⟩
  have hposition : (own birth.who (tr.take n)).countP (fun y => (inserted y).isSome) = 0 := by
    rw [own, List.countP_filter, hwho]
    exact hcount
  let L : Life Caller env.settings 0 "p" :=
    { env := env, calls := threeCalls batch, before := tr.take n, birth := birth, after := x :: post,
      final := d, id := id, same := rfl, run := htr.symm ▸ hrun, unique := htr.symm ▸ hunique,
      inserts := hinserts, reset := ⟨["p"], by rw [hwho]; rfl, rfl⟩, position := hposition }
  exact ⟨L, rfl, hactions, htr, x, post, rfl, hentered, hreturned⟩

/-- A move of a caller, with what is left to the environment. Source: none: infrastructure. Kind: D -/
def moveOf (who : Caller) (n : Nat) (r : Except CoreError Reward) : Move (envMachine Caller) :=
  .step who (answering n r)

/-- The episode alone. Source: none: infrastructure. Kind: D -/
def aloneMoves : List (Move (envMachine Caller)) :=
  [moveOf .resets 1 (.ok rewardOne), moveOf .resets 1 (.ok rewardOne),
    moveOf .steps 0 (.ok rewardOne), moveOf .steps 0 (.ok rewardOne)]

/-- The episode with another one, whose reward is given. Source: none: infrastructure. Kind: D -/
def togetherMoves (r : Except CoreError Reward) : List (Move (envMachine Caller)) :=
  [moveOf .others 2 (.ok rewardOne), moveOf .others 2 (.ok rewardOne),
    moveOf .resets 1 (.ok rewardOne), moveOf .resets 1 (.ok rewardOne),
    moveOf .steps 0 (.ok rewardOne), moveOf .steps 0 (.ok rewardOne), moveOf .steps 0 r,
    moveOf .steps 0 r]

/-- What the episode shows on its own. Source: none: infrastructure. Kind: D -/
def aloneView : StepView := solo (rewardEnv.fresh 0 "p") [] "a"

theorem alone_plays : ((envSystem rewardEnv (threeCalls [⟨episodeNo 1, "a"⟩]) ∅).play
    aloneMoves).map (fun x => playedStep (episodeNo 1) 1 (some aloneView) x &&
      x.1.all fun e => decide (¬ ScoreFailed e)) = some true := by
  decide +kernel

/-- `same_view` where both rewards are there. Source: `rollout-harness-text/src/lib.rs` `step`.
Kind: L -/
theorem same_view_together : ∃ L R : Life Caller rewardEnv.settings 0 "p",
    L.calls .steps = .step [⟨episodeNo 1, "a"⟩] ∧ R.calls .steps = .step bothStep ∧
      L.actions = [.step "a"] ∧ SameView L R := by
  have hplay : ((envSystem rewardEnv (threeCalls bothStep) ∅).play
      (togetherMoves (.ok rewardOne))).map (fun x => playedStep (episodeNo 1) 3 (some aloneView) x &&
        x.1.all fun e => decide (¬ ScoreFailed e)) = some true := by decide +kernel
  obtain ⟨⟨tr, d⟩, hrun, hend⟩ := Option.map_eq_some_iff.mp alone_plays
  obtain ⟨⟨tr', d'⟩, hrun', hend'⟩ := Option.map_eq_some_iff.mp hplay
  obtain ⟨hstep, hall⟩ := Bool.and_eq_true_iff.mp hend
  obtain ⟨hstep', hall'⟩ := Bool.and_eq_true_iff.mp hend'
  obtain ⟨L, hcalls, hactions, htr, -⟩ := exists_life (Config.play_run hrun) hstep
  obtain ⟨R, hcalls', hactions', htr', -⟩ := exists_life (Config.play_run hrun') hstep'
  refine ⟨L, R, congrFun hcalls _, congrFun hcalls' _, hactions,
    same_view L R (hactions.trans hactions'.symm) (fun x hx hfail => ?_) fun x hx hfail => ?_⟩
  · exact absurd hfail (of_decide_eq_true (List.all_eq_true.mp hall x (htr ▸ hx)))
  · exact absurd hfail (of_decide_eq_true (List.all_eq_true.mp hall' x (htr' ▸ hx)))

/-- **A reward of another episode that fails hides a step**: alone the step shows its turn, in a
batch with the other one nothing. Source: `rollout-harness-text/src/lib.rs` `step`. Kind: C -/
theorem failedReward_hides : ∃ L R : Life Caller rewardEnv.settings 0 "p",
    L.actions = R.actions ∧ ¬ SameView L R := by
  have hplay : ((envSystem rewardEnv (threeCalls bothStep) ∅).play
      (togetherMoves (.error pluginGone))).map (playedStep (episodeNo 1) 3 none) = some true := by
    decide +kernel
  obtain ⟨⟨tr, d⟩, hrun, hend⟩ := Option.map_eq_some_iff.mp alone_plays
  obtain ⟨⟨tr', d'⟩, hrun', hstep'⟩ := Option.map_eq_some_iff.mp hplay
  obtain ⟨hstep, -⟩ := Bool.and_eq_true_iff.mp hend
  obtain ⟨L, -, hactions, -, x, post, hafter, hx, hseen⟩ := exists_life (Config.play_run hrun) hstep
  obtain ⟨R, -, hactions', -, y, rest, hafter', hy, hseen'⟩ :=
    exists_life (Config.play_run hrun') hstep'
  refine ⟨L, R, hactions.trans hactions'.symm, fun h => ?_⟩
  exact absurd (h.2 [] x post [] y rest _ _ hafter hafter' hx rfl hy rfl rfl _ _ hseen hseen')
    (Option.some_ne_none _)

end played

end Rollout.TextEnv
