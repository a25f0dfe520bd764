import Rollout.Lib.Hub

/-!
# The control channel

* `push`, `close`, `subscribe` — the router of control pushes: a table of one sender for each worker
  id, each with a stream of 64 pushes. A push clones the sender under the lock and offers the push
  outside it; a subscription replaces the sender in the table.
* `Call` — a push, a close, or the connection of a worker, which subscribes, reads its stream until it
  ends or the connection is given up, and drops it.
* `pushes_delivered` — whatever interleaves, a push that was answered `true` is once in one stream of
  its worker and nowhere else, and one that was answered `false` is nowhere; a stream that ends has
  been read to its last push.
* `pushes_ordered` — a push that is made after another one has returned comes after it.
* `waits_subscribed` — when nobody can go on, only connections are left, and each is the one that is
  subscribed: a worker that subscribes again, or is closed, gets the end of its old stream.
-/

set_option linter.unusedSectionVars false

namespace Rollout.Transport.Control

open Lib Lib.Hub

/-! ## The messages -/

/-- A span of time on the wire. Source: `rollout-proto/proto/transport.proto`
(`google.protobuf.Duration`). Kind: D -/
structure ProtoDuration where
  /-- Seconds. -/
  seconds : BitVec 64
  /-- Nanoseconds. -/
  nanos : BitVec 32
deriving DecidableEq

/-- Source: `rollout-proto/proto/transport.proto` (`ControlPush.event`). Kind: D -/
inductive ControlEvent
  | drain (deadline : Option ProtoDuration)
  | snapshot (snapshotKind : String)
  | cancel (reason : String)
deriving DecidableEq

/-- Source: `rollout-proto/proto/transport.proto` `ControlPush`. Kind: D -/
structure ControlPush where
  /-- The event. -/
  event : Option ControlEvent
deriving DecidableEq

/-- Source: `rollout-proto/proto/transport.proto` `ControlSubscribeRequest`. Kind: D -/
structure ControlSubscribeRequest where
  /-- The worker. -/
  workerId : String
  /-- The run. -/
  runId : String

/-! ## The router -/

/-- How many pushes a stream holds. Source: `rollout-transport/src/channels/control.rs` `subscribe`.
Kind: D -/
abbrev capacity : Nat := 64

/-- Programs over the router and its streams. Source: none: infrastructure. Kind: D -/
abbrev RouterM := Prog (iface String ControlPush) Empty

/-- Issue one operation. Source: none: infrastructure. Kind: D -/
@[reducible] def op (o : Op String ControlPush) : RouterM o.Resp := Prog.op (I := iface _ _) o

/-- The lock is held while the sender is cloned, and not while the push is offered.
Source: `rollout-transport/src/channels/control.rs` `ControlRouter::push`. Kind: D -/
def push (workerId : String) (p : ControlPush) : RouterM Bool := do
  let some tx ← op (.lookup workerId) | return false
  let accepted ← op (.trySend tx p)
  -- The clone goes out of scope.
  op (.release tx)
  return accepted

/-- Source: `rollout-transport/src/channels/control.rs` `ControlRouter::close`. Kind: D -/
def close (workerId : String) : RouterM Unit := op (.remove workerId)

/-- Source: `rollout-transport/src/channels/control.rs` `ControlRouter::register`. Kind: D -/
def register (workerId : String) (tx : Nat) : RouterM Unit := op (.register workerId tx)

/-- Source: `rollout-transport/src/channels/control.rs` `subscribe`. Kind: D -/
def subscribe (req : ControlSubscribeRequest) : RouterM Nat := do
  let stream ← op .open_
  register req.workerId stream
  return stream

/-- The stream is polled so many times, or to its end; what it gave, and whether it ended.
Source: `rollout-transport/src/channels/control.rs` (`ReceiverStream`). Kind: D -/
def poll (stream : Nat) : Nat → RouterM (List ControlPush × Bool)
  | 0 => return ([], false)
  | n + 1 => do
      let some p ← op (.recv stream) | return ([], true)
      let rest ← poll stream n
      return (p :: rest.1, rest.2)

/-- A worker's connection: it is given up after so many pushes, and its stream is dropped.
Source: `rollout-transport/src/channels/control.rs` (`SubscribeStream`). Kind: D -/
def connection (req : ControlSubscribeRequest) (n : Nat) : RouterM (List ControlPush × Bool) := do
  let stream ← subscribe req
  let got ← poll stream n
  op (.disconnect stream)
  return got

/-- What is done with the router. Source: `rollout-transport/src/channels/control.rs`. Kind: D -/
inductive Call
  | push (workerId : String) (p : ControlPush)
  | close (workerId : String)
  | connection (req : ControlSubscribeRequest) (n : Nat)

/-- What it brings. Source: none: infrastructure. Kind: D -/
inductive Outcome
  | pushed (accepted : Bool)
  | closed
  | received (pushes : List ControlPush) (ended : Bool)
deriving DecidableEq

/-- Source: none: infrastructure. Kind: D -/
def Call.prog : Call → RouterM Outcome
  | .push workerId p => do
      let accepted ← Control.push workerId p
      return .pushed accepted
  | .close workerId => do
      Control.close workerId
      return .closed
  | .connection req n => do
      let got ← Control.connection req n
      return .received got.1 got.2

variable {ι : Type} [DecidableEq ι]

/-- The router and the streams. Source: `rollout-transport/src/channels/control.rs`
(`ControlRouter`). Kind: D -/
abbrev Router (ι : Type) := State String ControlPush ι

/-- Every call at its start, and nobody subscribed. Source: none: infrastructure. Kind: D -/
def start (calls : ι → Call) : Config (iface String ControlPush) Empty (Router ι) fun _ : ι => Outcome :=
  ⟨State.empty, fun i => (calls i).prog⟩

/-- A push of a call to a worker. Source: none: infrastructure. Kind: D -/
def Call.Wants (calls : ι → Call) (i : ι) (workerId : String) (p : ControlPush) : Prop :=
  calls i = .push workerId p

/-- A connection of a call as a worker. Source: none: infrastructure. Kind: D -/
def Call.Reads (calls : ι → Call) (i : ι) (workerId : String) : Prop :=
  ∃ req m, calls i = .connection req m ∧ req.workerId = workerId

/-- The push is once in one stream of the worker, and nowhere else.
Source: none: infrastructure. Kind: D -/
def Delivered (i : ι) (workerId : String) (p : ControlPush) (s : Router ι) : Prop :=
  ∃ n, (s.stream n).key = some workerId ∧ (s.stream n).own i = [(i, p)] ∧
    ∀ m, m ≠ n → (s.stream m).own i = []

/-- The push is nowhere. Source: none: infrastructure. Kind: D -/
def Refused (i : ι) (s : Router ι) : Prop := ∀ m, (s.stream m).own i = []

/-- The connection has these pushes from the front of its stream, and all of them if it has ended.
Source: none: infrastructure. Kind: D -/
def Received (i : ι) (workerId : String) (pushes : List ControlPush) (ended : Bool) (s : Router ι) :
    Prop :=
  ∃ n, (s.stream n).opener = some i ∧ (s.stream n).key = some workerId ∧
    pushes <+: (s.stream n).sent.map Prod.snd ∧
    (ended = true → (s.stream n).holders = [] ∧ pushes = (s.stream n).sent.map Prod.snd)

/-- What a call that has returned has brought about. Source: none: infrastructure. Kind: D -/
def Answers (i : ι) : Call → Outcome → Router ι → Prop
  | .push workerId p, .pushed true, s => Delivered i workerId p s
  | .push _ _, .pushed false, s => Refused i s
  | .close _, .closed, _ => True
  | .connection req _, .received pushes ended, s => Received i req.workerId pushes ended s
  | _, _, _ => False

/-! ## One call -/

section call

variable {calls : ι → Call} {i : ι} {s : Router ι}

theorem delivered_of_placed {workerId : String} {p : ControlPush} {n : Nat}
    (h : Placed i workerId n [(i, p)] s) : Delivered i workerId p s :=
  ⟨n, h.key, h.own, h.others⟩

theorem refused_of_placed {workerId : String} {n : Nat} (h : Placed i workerId n [] s) :
    Refused i s := by
  intro m
  by_cases hm : m = n
  · exact hm ▸ h.own
  · exact h.others m hm

theorem received_of_reading {workerId : String} {n : Nat} {pushes : List ControlPush}
    {ended : Bool} (h : ReadTo i workerId n pushes ended s) : Received i workerId pushes ended s := by
  refine ⟨n, h.1.opener, h.1.key, ?_, fun he => ⟨(h.2 he).1, h.1.got_of_ended (h.2 he)⟩⟩
  rw [← h.1.got]
  exact (List.take_prefix _ _).map _

/-- What a call leaves. Source: none: infrastructure. Kind: D -/
def Leaves (calls : ι → Call) (i : ι) (r : Except Empty Outcome) (s : Router ι) (_ : Unit) : Prop :=
  (∀ m, some i ∉ (s.stream m).holders) ∧ ∃ outcome, r = .ok outcome ∧ Answers i (calls i) outcome s

/-- What the calls keep to. Source: none: infrastructure. Kind: D -/
abbrev keeping (calls : ι → Call) :
    Discipline (machine (κ := String) (α := ControlPush) (ι := ι) capacity) Unit :=
  discipline capacity (Call.Wants calls) (Call.Reads calls)

/-- Source: `rollout-transport/src/channels/control.rs` `ControlRouter::push`. Kind: L -/
theorem safe_push {workerId : String} {p : ControlPush} (hcall : calls i = .push workerId p)
    (h : Idle i s) : (Call.push workerId p).prog.Safe (keeping calls) i (Leaves calls i) s () := by
  refine safe_call h Idle.mono id fun s r s' hinv h hp => ?_
  rcases h.lookup hinv hp with ⟨rfl, h⟩ | ⟨n, rfl, h⟩
  · refine safe_ret h Idle.mono fun h => ⟨fun m => (h m).1, _, rfl, ?_⟩
    rw [hcall]
    exact fun m => (h m).2
  · refine safe_call h Holding.mono (fun h => ⟨h.holds, workerId, h.key, hcall⟩)
      fun s accepted s' _ h hp => ?_
    refine safe_call (h.trySend hp) Holding.mono (fun _ => trivial) fun s r s' hinv h hp => ?_
    refine safe_ret (h.release hinv hp) Placed.mono fun h => ⟨h.free, _, rfl, ?_⟩
    rw [hcall]
    cases accepted with
    | true => exact delivered_of_placed h
    | false => exact refused_of_placed h

/-- Source: `rollout-transport/src/channels/control.rs` `ControlRouter::close`. Kind: L -/
theorem safe_close {workerId : String} (hcall : calls i = .close workerId) (h : Idle i s) :
    (Call.close workerId).prog.Safe (keeping calls) i (Leaves calls i) s () := by
  refine safe_call h Idle.mono (fun _ => trivial) fun s r s' hinv h hp => ?_
  refine safe_ret (h.remove hp) Idle.mono fun h => ⟨fun m => (h m).1, _, rfl, ?_⟩
  rw [hcall]
  trivial

/-- A stream that is polled so many times, or to its end.
Source: `rollout-transport/src/channels/control.rs` (`ReceiverStream`). Kind: L -/
theorem safe_poll {post : Except Empty Outcome → Router ι → Unit → Prop} {workerId : String}
    {n : Nat} {f : List ControlPush × Bool → RouterM Outcome} (m : Nat) {got : List ControlPush}
    (h : Reading i workerId n got s)
    (hf : ∀ s pushes ended, ReadTo i workerId n (got ++ pushes) ended s →
      (f (pushes, ended)).Safe (keeping calls) i post s ()) :
    (poll n m >>= f).Safe (keeping calls) i post s () := by
  induction m generalizing s got f with
  | zero =>
      apply hf s [] false
      rw [List.append_nil]
      exact ⟨h, fun he => absurd he Bool.false_ne_true⟩
  | succ m ih =>
      refine safe_call h Reading.mono (fun h => ⟨h.opener, by simp [h.key], h.free⟩)
        fun s r s' _ h hp => ?_
      rcases h.recv hp with ⟨p, rfl, h⟩ | ⟨rfl, h, he⟩
      · show (poll n m >>= _ >>= f).Safe (keeping calls) i post s' ()
        rw [Prog.bind_assoc]
        refine ih h fun s pushes ended h => ?_
        apply hf s (p :: pushes) ended
        rw [← List.append_cons] at h
        exact h
      · apply hf s' [] true
        rw [List.append_nil]
        exact ⟨h, fun _ => he⟩

/-- Source: `rollout-transport/src/channels/control.rs` `subscribe`. Kind: L -/
theorem safe_connection {req : ControlSubscribeRequest} {m : Nat}
    (hcall : calls i = .connection req m) (h : Idle i s) :
    (Call.connection req m).prog.Safe (keeping calls) i (Leaves calls i) s () := by
  refine safe_call h Idle.mono (fun _ => trivial) fun s n s' _ h hp => ?_
  refine safe_call (h.open_ hp) Opened.mono
    (fun h => ⟨h.opener, h.key, req, m, hcall, rfl⟩) fun s r s' hinv h hp => ?_
  show ((poll n m >>= _) >>= _).Safe (keeping calls) i (Leaves calls i) s' ()
  rw [Prog.bind_assoc]
  refine safe_poll m (h.register hinv req.workerId hp) fun s pushes ended h => ?_
  refine safe_call h ReadTo.mono (fun h => h.1.opener) fun s r s' _ h hp => ?_
  refine safe_ret (h.disconnect hp) ReadTo.mono fun h => ⟨h.1.free, _, rfl, ?_⟩
  rw [hcall]
  exact received_of_reading h

theorem safe_prog (h : Idle i s) : (calls i).prog.Safe (keeping calls) i (Leaves calls i) s () := by
  cases hcall : calls i with
  | push workerId p => exact safe_push hcall h
  | close workerId => exact safe_close hcall h
  | connection req m => exact safe_connection hcall h

end call

/-! ## All calls -/

section runs

variable {calls : ι → Call} {tr tr' : List (Event (iface String ControlPush) ι (Router ι))}
  {d e : Config (iface String ControlPush) Empty (Router ι) fun _ : ι => Outcome}

/-- Every call keeps to the discipline from the start. Source:
`rollout-transport/src/channels/control.rs`. Kind: L -/
theorem safe_start (i : ι) :
    ((start calls).progs i).Safe (keeping calls) i (Leaves calls i) (start calls).shared () :=
  safe_prog fun _ => ⟨List.not_mem_nil, rfl⟩

theorem sound (hrun : Run (machine capacity) (start calls) tr d) :
    Inv capacity (Call.Wants calls) (Call.Reads calls) d.shared ∧
      ∀ i, (d.progs i).Safe (keeping calls) i (Leaves calls i) d.shared () :=
  hrun.sound (keeping calls) (Leaves calls) (inv_empty capacity _ _) safe_start fun _ _ => trivial

theorem answers_of_ret (hrun : Run (machine capacity) (start calls) tr d) {i : ι} {outcome : Outcome}
    (hret : d.progs i = .ret outcome) : Answers i (calls i) outcome d.shared := by
  obtain ⟨-, _, hout, hanswers⟩ := hrun.sound_ret (keeping calls) (Leaves calls)
    (inv_empty capacity _ _) safe_start (fun _ _ => trivial) hret
  exact Except.ok.inj hout ▸ hanswers

/-- **Pushes are delivered as they were answered**, whatever interleaves: one that was answered `true`
is once in one stream of its worker and nowhere else, and one that was answered `false` is nowhere.
Nothing else is in a stream, which never holds more than 64 unread pushes; a connection gets the
front of one stream of its worker, and all of it if the stream has ended.
Source: `rollout-transport/src/channels/control.rs` `ControlRouter::push`. Kind: P -/
theorem pushes_delivered (hrun : Run (machine capacity) (start calls) tr d) :
    (∀ i outcome, d.progs i = .ret outcome → Answers i (calls i) outcome d.shared) ∧
      ∀ n, (d.shared.stream n).sent.length ≤ (d.shared.stream n).read + capacity ∧
        ∀ i p, (i, p) ∈ (d.shared.stream n).sent →
          ∃ workerId, calls i = .push workerId p ∧ (d.shared.stream n).key = some workerId := by
  refine ⟨fun i outcome hret => answers_of_ret hrun hret, fun n => ?_⟩
  obtain ⟨hinv, -⟩ := sound hrun
  refine ⟨hinv.bounded n, fun i p hp => ?_⟩
  obtain ⟨workerId, hkey, hcall⟩ := hinv.routed n (i, p) hp
  exact ⟨workerId, hcall, hkey⟩

/-- A worker that connects twice, and two pushes to it. Source:
`rollout-transport/tests/control_stream.rs`. Kind: D -/
def scene : Fin 4 → Call
  | 0 => .connection ⟨"worker-a", "run-1"⟩ 3
  | 1 => .push "worker-a" ⟨some (.drain none)⟩
  | 2 => .push "worker-a" ⟨some (.cancel "stop")⟩
  | 3 => .connection ⟨"worker-a", "run-1"⟩ 3

/-- `pushes_delivered` at one push to a connected worker. Source:
`rollout-transport/tests/control_stream.rs`. Kind: C -/
theorem drain_delivered :
    ∃ tr d, Run (machine capacity) (start scene) tr d ∧ d.progs 1 = .ret (.pushed true) ∧
      Delivered 1 "worker-a" ⟨some (.drain none)⟩ d.shared := by
  obtain ⟨tr, d, hplay, hret⟩ : ∃ tr d, (start scene).play
      (inTurn (machine capacity) () [0, 0, 1, 1, 1]) = some (tr, d) ∧
        d.progs 1 = .ret (.pushed true) := ⟨_, _, rfl, rfl⟩
  have hrun := Config.play_run hplay
  exact ⟨tr, d, hrun, hret, (pushes_delivered hrun).1 1 _ hret⟩

theorem mem_own {i j : ι} {p : ControlPush} {x : Stream String ControlPush ι} :
    (j, p) ∈ x.own i ↔ (j, p) ∈ x.sent ∧ j = i := by
  simp [Stream.own]

/-- A push that was answered `true` is where it is found later.
Source: `rollout-transport/src/channels/control.rs` `ControlRouter::push`. Kind: L -/
theorem mem_sent_of_returned (hrun : Run (machine capacity) (start calls) tr d)
    (hrun' : Run (machine capacity) d tr' e) {i : ι} (hret : d.progs i = .ret (.pushed true)) {n : Nat}
    {p : ControlPush} (hmem : (i, p) ∈ (e.shared.stream n).sent) :
    (i, p) ∈ (d.shared.stream n).sent := by
  obtain ⟨hinv, hsafe⟩ := sound hrun
  obtain ⟨hinv', -⟩ := sound (hrun.trans hrun')
  obtain ⟨workerId, -, hcall⟩ := hinv'.routed n (i, p) hmem
  have hexec := hrun'.exec i
  rw [hret] at hexec
  have hbefore := answers_of_ret hrun hret
  have hafter := answers_of_ret (hrun.trans hrun') hexec.of_ret.2
  rw [hcall] at hbefore hafter
  obtain ⟨m, -, hown, -⟩ := hbefore
  obtain ⟨m', -, hown', hothers⟩ := hafter
  have hthere : (i, p) ∈ (d.shared.stream m).sent :=
    (mem_own.mp (hown ▸ List.mem_singleton.mpr rfl)).1
  have hlater : (i, p) ∈ (e.shared.stream m).own i :=
    mem_own.mpr ⟨(sent_of_run hrun' hinv hsafe m).subset hthere, rfl⟩
  have heq : ∀ {a}, (i, p) ∈ (e.shared.stream a).own i → a = m' := by
    intro a ha
    by_contra hne
    rw [hothers a hne] at ha
    cases ha
  rw [heq (mem_own.mpr ⟨hmem, rfl⟩), ← heq hlater]
  exact hthere

/-- **A push made after another one has returned comes after it**, in every stream that has both.
Source: `rollout-transport/src/channels/control.rs` `ControlRouter::push`. Kind: P -/
theorem pushes_ordered (hrun : Run (machine capacity) (start calls) tr d)
    (hrun' : Run (machine capacity) d tr' e) {i j : ι} (hret : d.progs i = .ret (.pushed true))
    (hstart : d.progs j = (calls j).prog) {n : Nat} {p q : ControlPush}
    (hi : (i, p) ∈ (e.shared.stream n).sent) (hj : (j, q) ∈ (e.shared.stream n).sent) :
    [(i, p), (j, q)].Sublist (e.shared.stream n).sent := by
  obtain ⟨hinv, hsafe⟩ := sound hrun
  obtain ⟨hinv', -⟩ := sound (hrun.trans hrun')
  have hfirst := mem_sent_of_returned hrun hrun' hret hi
  obtain ⟨workerId, -, hcall⟩ := hinv'.routed n (j, q) hj
  have hnew : (d.shared.stream n).own j = [] := by
    have hsafej := hsafe j
    rw [hstart, hcall] at hsafej
    exact ((Discipline.Stable.now hsafej hinv).1 n).2
  obtain ⟨rest, hsent⟩ := sent_of_run hrun' hinv hsafe n
  rw [← hsent] at hj ⊢
  rcases List.mem_append.mp hj with hj | hj
  · have := mem_own.mpr ⟨hj, rfl⟩
    rw [hnew] at this
    cases this
  · exact (List.singleton_sublist.mpr hfirst).append (List.singleton_sublist.mpr hj)

/-- `pushes_ordered` at a push after another one. Source:
`rollout-transport/tests/control_stream.rs`. Kind: C -/
theorem drain_before_cancel :
    ∃ tr tr' d e, Run (machine capacity) (start scene) tr d ∧ Run (machine capacity) d tr' e ∧
      [((1 : Fin 4), (⟨some (.drain none)⟩ : ControlPush)),
        (2, ⟨some (.cancel "stop")⟩)].Sublist (e.shared.stream 0).sent := by
  obtain ⟨tr, d, hplay, hret, hstart, tr', e, hplay', hi, hj⟩ : ∃ tr d, (start scene).play
      (inTurn (machine capacity) () [0, 0, 1, 1, 1]) = some (tr, d) ∧
        d.progs 1 = .ret (.pushed true) ∧ d.progs 2 = (scene 2).prog ∧
        ∃ tr' e, d.play (inTurn (machine capacity) () [2, 2, 2]) = some (tr', e) ∧
          (1, ⟨some (.drain none)⟩) ∈ (e.shared.stream 0).sent ∧
          (2, ⟨some (.cancel "stop")⟩) ∈ (e.shared.stream 0).sent :=
    ⟨_, _, rfl, rfl, rfl, _, _, rfl, by decide, by decide⟩
  have hrun := Config.play_run hplay
  have hrun' := Config.play_run hplay'
  exact ⟨tr, tr', d, e, hrun, hrun', pushes_ordered hrun hrun' hret hstart hi hj⟩

/-- **Only a subscribed worker waits**: when nobody can go on, every push and every close has
returned, and each connection that has not is the one in the table for its worker, with everything
read. A connection that was replaced by a later one, or closed, has got the end of its stream.
Source: `rollout-transport/src/channels/control.rs` `ControlRouter::close`. Kind: P -/
theorem waits_subscribed (hrun : Run (machine capacity) (start calls) tr d)
    (hstuck : ∀ i o f, d.progs i = .call o f → ∀ ch, (machine capacity).exec ch i o d.shared = none)
    {i : ι} (hret : ∀ outcome, d.progs i ≠ .ret outcome) :
    ∃ req m n, calls i = .connection req m ∧ d.shared.table.get req.workerId = some n ∧
      (d.shared.stream n).opener = some i ∧
      (d.shared.stream n).read = (d.shared.stream n).sent.length := by
  obtain ⟨hinv, hsafe⟩ := sound hrun
  have hnone : (d.progs i).result? = none := by
    cases hprog : d.progs i with
    | ret outcome => exact absurd hprog (hret outcome)
    | err x => exact x.elim
    | call o f => rfl
  obtain ⟨workerId, n, f, -, hopener, htable, ⟨req, m, hcall, rfl⟩, hread⟩ :=
    waits_of_stuck hinv hsafe (fun _ _ _ h => h.1) (fun j o f hprog => hstuck j o f hprog ()) hnone
  exact ⟨req, m, n, hcall, htable, hopener, hread⟩

/-- `waits_subscribed` when a worker has connected again: its first connection has both pushes and
the end. Source: `rollout-transport/src/channels/control.rs` `ControlRouter::register`. Kind: C -/
theorem first_connection_ends :
    ∃ tr d, Run (machine capacity) (start scene) tr d ∧
      d.progs 0 = .ret (.received [⟨some (.drain none)⟩, ⟨some (.cancel "stop")⟩] true) ∧
      ∃ req m n, scene 3 = .connection req m ∧ d.shared.table.get req.workerId = some n ∧
        (d.shared.stream n).opener = some 3 ∧
        (d.shared.stream n).read = (d.shared.stream n).sent.length := by
  obtain ⟨tr, d, f, hplay, h0, h1, h2, h3, hwaits⟩ : ∃ tr d f, (start scene).play (inTurn
      (machine capacity) () [0, 0, 1, 1, 1, 2, 2, 2, 3, 3, 0, 0, 0, 0]) = some (tr, d) ∧
        d.progs 0 = .ret (.received [⟨some (.drain none)⟩, ⟨some (.cancel "stop")⟩] true) ∧
        d.progs 1 = .ret (.pushed true) ∧ d.progs 2 = .ret (.pushed true) ∧
        d.progs 3 = .call (.recv 1) f ∧ perform capacity 3 (.recv 1) d.shared = none :=
    ⟨_, _, _, rfl, rfl, rfl, rfl, rfl, rfl⟩
  have hrun := Config.play_run hplay
  refine ⟨tr, d, hrun, h0, waits_subscribed hrun (fun i o f hi _ => ?_) fun outcome h => ?_⟩
  · match i with
    | 0 => exact nomatch h0.symm.trans hi
    | 1 => exact nomatch h1.symm.trans hi
    | 2 => exact nomatch h2.symm.trans hi
    | 3 =>
        obtain ⟨rfl, -⟩ := Prog.call.inj (h3.symm.trans hi)
        exact hwaits
  · exact nomatch h3.symm.trans h

end runs

end Rollout.Transport.Control
