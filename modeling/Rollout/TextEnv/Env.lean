import Rollout.Core.Errors
import Rollout.Core.Ids
import Rollout.Lib.Keyed

/-!
# The text environment

* `SplitMix64`, `EpisodeState` — the generator and the state of one episode.
* `reset`, `step`, `close` — the calls of the environment as programs over its store of episodes,
  one operation for each time the lock is held; `advance` is what `step` does under it. What the
  reward plugin answers and which identifiers are drawn is left to the environment.
* `Isolated` — a call of `step` returns one result for each of its entries, or fails and has advanced
  no episode. `isolated_iff`: it does so exactly when no reward it asks for fails.
-/

namespace Rollout.TextEnv

open Rollout.Lib Rollout.Core

/-! ## Episodes -/

/-- Source: `rollout-core/src/traits/harness.rs` `EpisodeId`. Kind: D -/
structure EpisodeId where
  /-- Underlying ULID. -/
  ulid : Ulid
deriving DecidableEq

/-- Source: `rollout-harness-text/src/episode.rs` `SplitMix64`. Kind: D -/
structure SplitMix64 where
  /-- The state. -/
  state : BitVec 64
deriving DecidableEq

/-- Draw the next value. Source: `rollout-harness-text/src/episode.rs` `next_u64`. Kind: D -/
def SplitMix64.nextU64 (rng : SplitMix64) : BitVec 64 × SplitMix64 :=
  let state := rng.state + 0x9E3779B97F4A7C15#64
  let z := state
  let z := (z ^^^ (z >>> 30)) * 0xBF58476D1CE4E5B9#64
  let z := (z ^^^ (z >>> 27)) * 0x94D049BB133111EB#64
  (z ^^^ (z >>> 31), ⟨state⟩)

/-- The live state of one episode. Source: `rollout-harness-text/src/episode.rs` `EpisodeState`.
Kind: D -/
structure EpisodeState where
  /-- Originating prompt text. -/
  prompt : String
  /-- Steps taken so far. -/
  turn : BitVec 32
  /-- Turn budget. -/
  maxTurns : BitVec 32
  /-- Seeded generator. -/
  rng : SplitMix64
deriving DecidableEq

/-- What a step reads of an episode. Source: `rollout-harness-text/src/lib.rs` `step` (`snap`).
Kind: D -/
structure Snap where
  /-- The turn of the step. -/
  turn : BitVec 32
  /-- Turn budget. -/
  maxTurns : BitVec 32
  /-- Originating prompt text. -/
  prompt : String
  /-- The value drawn. -/
  nonce : BitVec 64
deriving DecidableEq

/-- One turn of an episode; in a release build the counter wraps.
Source: `rollout-harness-text/src/lib.rs` `step` (`with_episode`). Kind: D -/
def EpisodeState.advance (state : EpisodeState) : Snap × EpisodeState :=
  let turn := state.turn + 1
  let (nonce, rng) := state.rng.nextU64
  (⟨turn, state.maxTurns, state.prompt, nonce⟩, { state with turn := turn, rng := rng })

/-! ## Settings and results -/

/-- The bits of a number. Source: `rollout-core/src/traits/harness.rs` `Reward`. Kind: D -/
abbrev Reward := BitVec 32

/-- Source: `rollout-harness-text/src/lib.rs` `TextEnvSettings`. Kind: D -/
structure TextEnvSettings where
  /-- Per-episode turn budget. -/
  maxTurns : BitVec 32
  /-- Canned reward. -/
  echoReward : Option Reward
  /-- Deterministic seed. -/
  seed : Option (BitVec 64)
deriving DecidableEq

/-- The environment but for its store, which the runs share; the reward plugin is known by its
handle. Source: `rollout-harness-text/src/lib.rs` `TextCompletionEnv`. Kind: D -/
structure TextCompletionEnv where
  /-- Its settings. -/
  settings : TextEnvSettings
  /-- The id of the reward plugin. -/
  rewardHandle : Option String
deriving DecidableEq

/-- Source: `rollout-core/src/traits/harness.rs` `EpisodeStep`. Kind: D -/
structure EpisodeStep where
  /-- Episode this action belongs to. -/
  episodeId : EpisodeId
  /-- Action to apply. -/
  action : String
deriving DecidableEq

/-- Source: `rollout-core/src/traits/harness.rs` `Episode`. Kind: D -/
structure Episode where
  /-- Episode id. -/
  id : EpisodeId
  /-- Initial observation. -/
  observation : String
deriving DecidableEq

/-- The metadata of a step. Source: `rollout-harness-text/src/lib.rs` `step` (`info`). Kind: D -/
inductive StepInfo
  | error (msg : String)
  | turn (turn : BitVec 32) (nonce : BitVec 64)
deriving DecidableEq

/-- Source: `rollout-core/src/traits/harness.rs` `StepResult`. Kind: D -/
structure StepResult where
  /-- Episode this result belongs to. -/
  episodeId : EpisodeId
  /-- Next observation. -/
  observation : String
  /-- Reward for this transition. -/
  reward : Option Reward
  /-- Whether the episode terminated. -/
  done : Bool
  /-- Free-form metadata. -/
  info : StepInfo
deriving DecidableEq

/-- Seed for the episode at an index. Source: `rollout-harness-text/src/lib.rs` `episode_seed`.
Kind: D -/
def TextCompletionEnv.episodeSeed (env : TextCompletionEnv) (idx : Nat) : BitVec 64 :=
  env.settings.seed.getD 0 ^^^ BitVec.ofNat 64 idx

/-- A fresh episode. Source: `rollout-harness-text/src/lib.rs` `reset`. Kind: D -/
def TextCompletionEnv.fresh (env : TextCompletionEnv) (idx : Nat) (text : String) : EpisodeState :=
  ⟨text, 0, env.settings.maxTurns, ⟨env.episodeSeed idx⟩⟩

/-! ## Operations -/

/-- What the calls do one at a time: draw an identifier, use the store under its lock, ask the reward
plugin. Source: `rollout-harness-text/src/episode.rs` `EpisodeStore`,
`rollout-harness-text/src/lib.rs` `compute_reward`. Kind: D -/
inductive EnvOp
  | newUlid
  | insert (id : EpisodeId) (state : EpisodeState)
  | withEpisode (entry : EpisodeStep)
  | remove (id : EpisodeId)
  | score (handle prompt completion : String)
deriving DecidableEq

/-- Source: `rollout-harness-text/src/episode.rs` `EpisodeStore`. Kind: D -/
def EnvOp.Resp : EnvOp → Type
  | newUlid => EpisodeId
  | insert _ _ => Unit
  | withEpisode _ => Option Snap
  | remove _ => Bool
  | score _ _ _ => Except CoreError Reward

/-- Source: none: infrastructure. Kind: D -/
@[reducible] def envIface : Iface := ⟨EnvOp, EnvOp.Resp⟩

/-- What is done to one episode. Source: `rollout-harness-text/src/episode.rs` `EpisodeStore`.
Kind: D -/
inductive EpisodeOp
  | insert (state : EpisodeState)
  | step (action : String)
  | remove
deriving DecidableEq

/-- The store of episodes. Source: `rollout-harness-text/src/episode.rs` `EpisodeStore`. Kind: D -/
def episodeStore : Keyed envIface EpisodeId EpisodeState where
  Local := EpisodeOp
  touches
    | .newUlid => none
    | .insert id state => some (id, .insert state)
    | .withEpisode entry => some (entry.episodeId, .step entry.action)
    | .remove id => some (id, .remove)
    | .score _ _ _ => none
  next
    | .insert state, _ => some state
    | .step _, v => v.map fun state => state.advance.2
    | .remove, _ => none
  answer
    | .newUlid, id, _ => id
    | .insert _ _, _, _ => ()
    | .withEpisode _, _, v => v.map fun state => state.advance.1
    | .remove _, _, v => v.isSome
    | .score _ _ _, r, _ => r

/-- Source: none: infrastructure. Kind: D -/
abbrev EnvM := Prog envIface CoreError

/-- The machine. Source: `rollout-harness-text/src/lib.rs` `TextCompletionEnv`. Kind: D -/
abbrev envMachine (ι : Type) : Machine envIface ι (KV EpisodeId EpisodeState) :=
  episodeStore.machine ι

/-- Source: none: infrastructure. Kind: D -/
abbrev EnvEvent (ι : Type) := Event envIface ι (KV EpisodeId EpisodeState)

/-! ## Calls -/

/-- The episodes of a reset from an index on. Source: `rollout-harness-text/src/lib.rs` `reset`.
Kind: D -/
def resetFrom (env : TextCompletionEnv) : Nat → List String → EnvM (List Episode)
  | _, [] => return []
  | idx, text :: prompts => do
      let id ← Prog.op (I := envIface) .newUlid
      Prog.op (I := envIface) (.insert id (env.fresh idx text))
      let out ← resetFrom env (idx + 1) prompts
      return ⟨id, text⟩ :: out

/-- Source: `rollout-harness-text/src/lib.rs` `reset`. Kind: D -/
def reset (env : TextCompletionEnv) (prompts : List String) : EnvM (List Episode) :=
  resetFrom env 0 prompts

/-- The reward for one transition. Source: `rollout-harness-text/src/lib.rs` `compute_reward`.
Kind: D -/
def computeReward (env : TextCompletionEnv) (prompt completion : String) :
    EnvM (Option Reward) :=
  match env.rewardHandle with
  | some handle => do
      let answer ← Prog.op (I := envIface) (.score handle prompt completion)
      let r ← Prog.ofExcept answer
      return some r
  | none => return env.settings.echoReward

/-- The result for an episode that is not there. Source: `rollout-harness-text/src/lib.rs` `step`.
Kind: D -/
def unknownResult (entry : EpisodeStep) : StepResult :=
  ⟨entry.episodeId, "", none, true, .error "unknown or closed episode"⟩

/-- The result of a turn. Source: `rollout-harness-text/src/lib.rs` `step`. Kind: D -/
def turnResult (entry : EpisodeStep) (snap : Snap) (reward : Option Reward) : StepResult :=
  ⟨entry.episodeId, entry.action, reward, decide (snap.maxTurns ≤ snap.turn),
    .turn snap.turn snap.nonce⟩

/-- One entry of a batch. Source: `rollout-harness-text/src/lib.rs` `step`. Kind: D -/
def stepOne (env : TextCompletionEnv) (entry : EpisodeStep) : EnvM StepResult := do
  match ← Prog.op (I := envIface) (.withEpisode entry) with
  | none => return unknownResult entry
  | some snap =>
      let reward ← computeReward env snap.prompt entry.action
      return turnResult entry snap reward

/-- **A batch of steps**, one entry after the other. Source: `rollout-harness-text/src/lib.rs` `step`.
Kind: D -/
def step (env : TextCompletionEnv) : List EpisodeStep → EnvM (List StepResult)
  | [] => return []
  | entry :: batch => do
      let result ← stepOne env entry
      let out ← step env batch
      return result :: out

/-- Source: `rollout-harness-text/src/lib.rs` `close`. Kind: D -/
def close : List EpisodeId → EnvM Unit
  | [] => return ()
  | id :: episodeIds => do
      let _ ← Prog.op (I := envIface) (.remove id)
      close episodeIds

/-- Source: `rollout-harness-text/src/lib.rs` (`EnvHarness for TextCompletionEnv`). Kind: D -/
inductive EnvCall
  | reset (prompts : List String)
  | step (batch : List EpisodeStep)
  | close (episodeIds : List EpisodeId)
deriving DecidableEq

/-- What a call returns. Source: `rollout-harness-text/src/lib.rs`
(`EnvHarness for TextCompletionEnv`). Kind: D -/
inductive EnvReply
  | reset (episodes : List Episode)
  | step (results : List StepResult)
  | close
deriving DecidableEq

/-- What a call runs. Source: `rollout-harness-text/src/lib.rs` (`EnvHarness for TextCompletionEnv`).
Kind: D -/
def EnvCall.prog (env : TextCompletionEnv) : EnvCall → EnvM EnvReply
  | reset prompts => TextEnv.reset env prompts >>= fun episodes => .ret (.reset episodes)
  | step batch => TextEnv.step env batch >>= fun results => .ret (.step results)
  | close episodeIds => TextEnv.close episodeIds >>= fun _ => .ret .close

/-- An environment with calls in progress. Source: `rollout-harness-text/src/lib.rs`
`TextCompletionEnv`. Kind: D -/
def envSystem {ι : Type} (env : TextCompletionEnv) (calls : ι → EnvCall)
    (store : KV EpisodeId EpisodeState) :
    Config envIface CoreError (KV EpisodeId EpisodeState) fun _ : ι => EnvReply :=
  ⟨store, fun i => (calls i).prog env⟩

/-! ## What a step does -/

section steps

variable {ι : Type}

/-- An episode is advanced. Source: `rollout-harness-text/src/lib.rs` `step` (`with_episode`).
Kind: D -/
def Advanced : EnvEvent ι → Prop
  | ⟨_, .withEpisode _, some _, _, _⟩ => True
  | _ => False

/-- A reward cannot be had. Source: `rollout-harness-text/src/lib.rs` `compute_reward`. Kind: D -/
def ScoreFailed : EnvEvent ι → Prop
  | ⟨_, .score _ _ _, .error _, _, _⟩ => True
  | _ => False

/-- **One result per entry**: an entry whose episode is not there is marked, and any other carries
the reward that was computed for it. The events are those of the call.
Source: `rollout-harness-text/src/lib.rs` `step`. Kind: D -/
inductive Answers (env : TextCompletionEnv) :
    List EpisodeStep → List (EnvEvent ι) → List StepResult → Prop
  | nil : Answers env [] [] []
  | closed {entry : EpisodeStep} {batch : List EpisodeStep} {es : List (EnvEvent ι)}
      {results : List StepResult} {i : ι} {s s' : KV EpisodeId EpisodeState}
      (h : Answers env batch es results) : Answers env (entry :: batch)
        (⟨i, .withEpisode entry, none, s, s'⟩ :: es) (unknownResult entry :: results)
  | echoed {entry : EpisodeStep} {batch : List EpisodeStep} {es : List (EnvEvent ι)}
      {results : List StepResult} {i : ι} {s s' : KV EpisodeId EpisodeState} {snap : Snap}
      (hecho : env.rewardHandle = none) (h : Answers env batch es results) :
      Answers env (entry :: batch) (⟨i, .withEpisode entry, some snap, s, s'⟩ :: es)
        (turnResult entry snap env.settings.echoReward :: results)
  | scored {entry : EpisodeStep} {batch : List EpisodeStep} {es : List (EnvEvent ι)}
      {results : List StepResult} {i : ι} {s s' t t' : KV EpisodeId EpisodeState} {snap : Snap}
      {handle : String} {r : Reward} (hhandle : env.rewardHandle = some handle)
      (h : Answers env batch es results) : Answers env (entry :: batch)
        (⟨i, .withEpisode entry, some snap, s, s'⟩ ::
          ⟨i, .score handle snap.prompt entry.action, .ok r, t, t'⟩ :: es)
        (turnResult entry snap (some r) :: results)

/-- **Errors are isolated**: a call that returns has one result per entry, and a call that fails has
advanced no episode. Source: `rollout-harness-text/src/lib.rs` `step` ("Per-episode error isolation",
"other episodes unaffected"). Kind: D -/
def Isolated (env : TextCompletionEnv) (batch : List EpisodeStep) (es : List (EnvEvent ι))
    (q : EnvM EnvReply) : Prop :=
  match q.result? with
  | some (.ok (.step results)) => Answers env batch es results
  | some (.ok _) => False
  | some (.error _) => ∀ x ∈ es, ¬ Advanced x
  | none => True

variable {env : TextCompletionEnv} {entry : EpisodeStep} {batch : List EpisodeStep}
  {es : List (EnvEvent ι)} {results : List StepResult} {i : ι}

theorem Answers.length (h : Answers env batch es results) : results.length = batch.length := by
  induction h with
  | nil => rfl
  | closed _ ih => exact congrArg Nat.succ ih
  | echoed _ _ ih => exact congrArg Nat.succ ih
  | scored _ _ ih => exact congrArg Nat.succ ih

/-- A call that returns its results has all its rewards. Source: `rollout-harness-text/src/lib.rs`
`step`. Kind: L -/
theorem Answers.not_scoreFailed (h : Answers env batch es results) :
    ∀ x ∈ es, ¬ ScoreFailed x := by
  induction h with
  | nil => simp
  | closed _ ih => exact List.forall_mem_cons.mpr ⟨fun h => h, ih⟩
  | echoed _ _ ih => exact List.forall_mem_cons.mpr ⟨fun h => h, ih⟩
  | scored _ _ ih =>
      exact List.forall_mem_cons.mpr ⟨fun h => h, List.forall_mem_cons.mpr ⟨fun h => h, ih⟩⟩

/-- What the events of a batch may be: all its entries are answered; one was advanced and its reward
failed; or the call goes on. Source: `rollout-harness-text/src/lib.rs` `step`. Kind: D -/
def Outcome (env : TextCompletionEnv) (batch : List EpisodeStep) (es : List (EnvEvent ι))
    (q : EnvM (List StepResult)) : Prop :=
  (∃ results, q = .ret results ∧ Answers env batch es results) ∨
  (∃ e, q = .err e ∧ (∃ x ∈ es, Advanced x) ∧ ∃ x ∈ es, ScoreFailed x) ∨
  q.result? = none ∧ ∀ x ∈ es, ¬ ScoreFailed x

/-- The rule for an entry: what the rest of the batch does, with the events of the entry before it.
Source: `rollout-harness-text/src/lib.rs` `step`. Kind: L -/
theorem Outcome.cons {result : StepResult} {q : EnvM (List StepResult)} (h : Outcome env batch es q)
    (front : List (EnvEvent ι)) (hfront : ∀ x ∈ front, ¬ ScoreFailed x)
    (hanswers : ∀ results, Answers env batch es results →
      Answers env (entry :: batch) (front ++ es) (result :: results)) :
    Outcome env (entry :: batch) (front ++ es) (q >>= fun out => .ret (result :: out)) := by
  rcases h with ⟨results, rfl, h⟩ | ⟨e, rfl, ⟨x, hx, hadv⟩, y, hy, hfail⟩ | ⟨hq, hok⟩
  · exact .inl ⟨_, rfl, hanswers results h⟩
  · exact .inr (.inl ⟨e, rfl, ⟨x, List.mem_append_right _ hx, hadv⟩, y,
      List.mem_append_right _ hy, hfail⟩)
  · refine .inr (.inr ⟨?_, fun x hx => (List.mem_append.mp hx).elim (hfront x) (hok x)⟩)
    cases q with
    | ret a => cases hq
    | err e => cases hq
    | call o k => rfl

/-- **What a batch does**, by induction on its entries. Source: `rollout-harness-text/src/lib.rs`
`step`. Kind: P -/
theorem exec_step {q : EnvM (List StepResult)}
    (h : Prog.Exec (envMachine ι) i (step env batch) es q) : Outcome env batch es q := by
  induction batch generalizing es q with
  | nil =>
      obtain ⟨rfl, rfl⟩ := h.of_ret
      exact .inl ⟨[], rfl, .nil⟩
  | cons entry batch ih =>
      rcases Prog.Exec.of_call h with ⟨rfl, rfl⟩ | ⟨r, s, s', es, rfl, -, h⟩
      · exact .inr (.inr ⟨rfl, by simp⟩)
      cases r with
      | none =>
          obtain ⟨q, hq, rfl⟩ := Prog.Exec.of_map h
          exact (ih hq).cons [_] (by simp [ScoreFailed]) fun _ => .closed
      | some snap =>
          unfold computeReward at h
          cases hhandle : env.rewardHandle with
          | none =>
              rw [hhandle] at h
              obtain ⟨q, hq, rfl⟩ := Prog.Exec.of_map h
              exact (ih hq).cons [_] (by simp [ScoreFailed]) fun _ => .echoed hhandle
          | some handle =>
              rw [hhandle] at h
              rcases Prog.Exec.of_call h with ⟨rfl, rfl⟩ | ⟨answer, t, t', es, rfl, -, h⟩
              · exact .inr (.inr ⟨rfl, by simp [ScoreFailed]⟩)
              cases answer with
              | error e =>
                  obtain ⟨rfl, rfl⟩ := Prog.Exec.of_err h
                  refine .inr (.inl ⟨e, rfl, ⟨_, List.mem_cons_self, trivial⟩, ?_⟩)
                  exact ⟨_, List.mem_cons_of_mem _ List.mem_cons_self, trivial⟩
              | ok r =>
                  obtain ⟨q, hq, rfl⟩ := Prog.Exec.of_map h
                  exact (ih hq).cons [_, _] (by simp [ScoreFailed]) fun _ =>
                    .scored hhandle

/-- **When errors are isolated**: exactly when no reward the call asks for fails.
Source: `rollout-harness-text/src/lib.rs` `step`. Kind: C -/
theorem isolated_iff [DecidableEq ι] {calls : ι → EnvCall} {store : KV EpisodeId EpisodeState}
    {tr : List (EnvEvent ι)} {d : Config envIface CoreError (KV EpisodeId EpisodeState) fun _ : ι =>
      EnvReply} (hrun : Run (envMachine ι) (envSystem env calls store) tr d)
    (hi : calls i = .step batch) :
    Isolated env batch (own i tr) (d.progs i) ↔ ∀ x ∈ own i tr, ¬ ScoreFailed x := by
  have hexec := hrun.exec i
  rw [show (envSystem env calls store).progs i = (calls i).prog env from rfl, hi] at hexec
  obtain ⟨q, hq, hprog⟩ := Prog.Exec.of_map hexec
  rw [hprog]
  rcases exec_step hq with ⟨results, rfl, h⟩ | ⟨e, rfl, ⟨x, hx, hadv⟩, hfail⟩ | ⟨hq, hok⟩
  · exact iff_of_true h h.not_scoreFailed
  · refine iff_of_false (fun h => h x hx hadv) fun h => ?_
    obtain ⟨y, hy, hfail⟩ := hfail
    exact h y hy hfail
  · refine iff_of_true ?_ hok
    cases q with
    | ret a => cases hq
    | err e => cases hq
    | call o k => trivial

end steps

/-! ## A reward that fails -/

instance {ι : Type} : DecidablePred (Advanced : EnvEvent ι → Prop)
  | ⟨_, .withEpisode _, some _, _, _⟩ => isTrue trivial
  | ⟨_, .withEpisode _, none, _, _⟩ => isFalse fun h => h
  | ⟨_, .newUlid, _, _, _⟩ => isFalse fun h => h
  | ⟨_, .insert _ _, _, _, _⟩ => isFalse fun h => h
  | ⟨_, .remove _, _, _, _⟩ => isFalse fun h => h
  | ⟨_, .score _ _ _, _, _, _⟩ => isFalse fun h => h

instance {ι : Type} : DecidablePred (ScoreFailed : EnvEvent ι → Prop)
  | ⟨_, .score _ _ _, .error _, _, _⟩ => isTrue trivial
  | ⟨_, .score _ _ _, .ok _, _, _⟩ => isFalse fun h => h
  | ⟨_, .newUlid, _, _, _⟩ => isFalse fun h => h
  | ⟨_, .insert _ _, _, _, _⟩ => isFalse fun h => h
  | ⟨_, .remove _, _, _, _⟩ => isFalse fun h => h
  | ⟨_, .withEpisode _, _, _, _⟩ => isFalse fun h => h

/-- Source: none: infrastructure. Kind: D -/
def rewardEnv : TextCompletionEnv := ⟨⟨3, none, some 7⟩, some "reward-1"⟩

/-- Source: none: infrastructure. Kind: D -/
def episodeNo (n : Nat) : EpisodeId := ⟨⟨BitVec.ofNat 128 n⟩⟩

/-- What is left to the environment: the next identifier and the next reward.
Source: none: infrastructure. Kind: D -/
def answering (n : Nat) (r : Except CoreError Reward) : (o : EnvOp) → o.Resp
  | .newUlid => episodeNo n
  | .insert _ _ => ()
  | .withEpisode _ => none
  | .remove _ => false
  | .score _ _ _ => r

/-- The number one. Source: none: infrastructure. Kind: D -/
def rewardOne : Reward := 0x3F800000#32

/-- A plugin that is gone. Source: none: infrastructure. Kind: D -/
def pluginGone : CoreError := .fatal (.pluginContract "reward-1" "unknown handle")

/-- Two episodes. Source: none: infrastructure. Kind: D -/
def twoEpisodes : KV EpisodeId EpisodeState :=
  ((∅ : KV EpisodeId EpisodeState).put (episodeNo 1) (rewardEnv.fresh 0 "p")).put (episodeNo 2)
    (rewardEnv.fresh 1 "q")

/-- A step of both. Source: none: infrastructure. Kind: D -/
def bothStep : List EpisodeStep := [⟨episodeNo 1, "a"⟩, ⟨episodeNo 2, "b"⟩]

/-- The step of both, with the second reward. Source: none: infrastructure. Kind: D -/
def bothStepped (r : Except CoreError Reward) : List (Move (envMachine Unit)) :=
  [.step () (answering 0 (.ok rewardOne)), .step () (answering 0 (.ok rewardOne)),
    .step () (answering 0 r), .step () (answering 0 r)]

/-- `isolated_iff` where both rewards are there. Source: `rollout-harness-text/src/lib.rs` `step`.
Kind: L -/
theorem isolated_both : ∃ tr d,
    Run (envMachine Unit) (envSystem rewardEnv (fun _ => .step bothStep) twoEpisodes) tr d ∧
      tr.length = 4 ∧ Isolated rewardEnv bothStep (own () tr) (d.progs ()) := by
  have hplay : ((envSystem rewardEnv (fun _ : Unit => .step bothStep) twoEpisodes).play
      (bothStepped (.ok rewardOne))).map (fun x => decide (x.1.length = 4) &&
        (own () x.1).all fun e => decide (¬ ScoreFailed e)) = some true := by decide +kernel
  obtain ⟨⟨tr, d⟩, hrun, hend⟩ := Option.map_eq_some_iff.mp hplay
  obtain ⟨hlength, hall⟩ := Bool.and_eq_true_iff.mp hend
  have hrun := Config.play_run hrun
  refine ⟨tr, d, hrun, of_decide_eq_true hlength, (isolated_iff hrun rfl).mpr fun x hx => ?_⟩
  exact of_decide_eq_true (List.all_eq_true.mp hall x hx)

/-- **A reward that fails takes the results of the batch with it**, whose episodes have been advanced.
Source: `rollout-harness-text/src/lib.rs` `step`. Kind: C -/
theorem failedReward_drops : ∃ tr d,
    Run (envMachine Unit) (envSystem rewardEnv (fun _ => .step bothStep) twoEpisodes) tr d ∧
      ¬ Isolated rewardEnv bothStep (own () tr) (d.progs ()) := by
  have hplay : ((envSystem rewardEnv (fun _ : Unit => .step bothStep) twoEpisodes).play
      (bothStepped (.error pluginGone))).map (fun x =>
        ((x.2.progs ()).result?.map fun r => match r with
          | .ok _ => false
          | .error _ => true) == some true &&
        (own () x.1).any fun e => decide (Advanced e)) = some true := by decide +kernel
  obtain ⟨⟨tr, d⟩, hrun, hend⟩ := Option.map_eq_some_iff.mp hplay
  obtain ⟨herror, hadvanced⟩ := Bool.and_eq_true_iff.mp hend
  obtain ⟨x, hx, hadv⟩ := List.any_eq_true.mp hadvanced
  refine ⟨tr, d, Config.play_run hrun, fun h => ?_⟩
  obtain ⟨r, hr, hkind⟩ := Option.map_eq_some_iff.mp (eq_of_beq herror)
  cases r with
  | ok a => cases hkind
  | error e =>
      unfold Isolated at h
      dsimp only at hr
      rw [hr] at h
      exact h x hx (of_decide_eq_true hadv)

end Rollout.TextEnv
