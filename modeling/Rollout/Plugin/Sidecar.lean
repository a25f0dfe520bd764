import Rollout.CloudLocal.ObjectStore
import Rollout.Lib.Exchange
import Rollout.Lib.Returns

/-!
# Calls to a sidecar

A plugin in a process of its own, behind a Unix socket: requests and responses are JSON, each behind
its length in four bytes. The host holds the lock on its handles for the whole of a call, so calls
come one after the other; any of them may fail, or be dropped where it awaits the socket.

* `call`, `hostCall` — one call, byte by byte.
* `CallSeq` — calls one after the other on one connection, with the sidecar running all the while.
* `OwnResponse` — what was returned is the sidecar's answer to the request of that very call.
* `returned_own_response` — this holds as long as no call before was broken off after it had begun
  to write; the call after a broken one gets the answer to it (`next_call_gets_previous_response`).
-/

set_option linter.unusedSectionVars false

namespace Rollout.Plugin

open Rollout.Lib Rollout.Lib.Framed Rollout.Lib.Exchange Rollout.Core
open Rollout.CloudLocal.ObjectStore (jsonString)

/-! ## The request -/

/-- How many bytes follow the first byte of a character, and what the next of them ranges over.
Source: `rollout-plugin-host/src/modes/sidecar.rs` `call` (`String::from_utf8_lossy`). Kind: D -/
def leadByte (b : Nat) : Option (Nat × Nat × Nat) :=
  if 0xC2 ≤ b ∧ b ≤ 0xDF then some (1, 0x80, 0xBF)
  else if b = 0xE0 then some (2, 0xA0, 0xBF)
  else if b = 0xED then some (2, 0x80, 0x9F)
  else if 0xE1 ≤ b ∧ b ≤ 0xEF then some (2, 0x80, 0xBF)
  else if b = 0xF0 then some (3, 0x90, 0xBF)
  else if 0xF1 ≤ b ∧ b ≤ 0xF3 then some (3, 0x80, 0xBF)
  else if b = 0xF4 then some (3, 0x80, 0x8F)
  else none

/-- The code a character goes on to, and the bytes after it or after what is not one.
Source: `rollout-plugin-host/src/modes/sidecar.rs` `call` (`String::from_utf8_lossy`). Kind: D -/
def continuation (code : Nat) : Nat → Nat → Nat → Bytes → Option Nat × Bytes
  | 0, _, _, bs => (some code, bs)
  | _ + 1, _, _, [] => (none, [])
  | k + 1, lo, hi, b :: bs =>
      if lo ≤ b.toNat ∧ b.toNat ≤ hi then
        continuation (code * 64 + (b.toNat - 0x80)) k 0x80 0xBF bs
      else (none, b :: bs)

/-- The characters of a text, with U+FFFD for what is not one.
Source: `rollout-plugin-host/src/modes/sidecar.rs` `call` (`String::from_utf8_lossy`). Kind: D -/
def lossyChars : Nat → Bytes → List Char
  | 0, _ => []
  | _ + 1, [] => []
  | n + 1, b :: bs =>
      if b.toNat < 0x80 then Char.ofNat b.toNat :: lossyChars n bs
      else
        match leadByte b.toNat with
        | none => Char.ofNat 0xFFFD :: lossyChars n bs
        | some (k, lo, hi) =>
            match continuation (b.toNat % 2 ^ (6 - k)) k lo hi bs with
            | (some code, rest) => Char.ofNat code :: lossyChars n rest
            | (none, rest) => Char.ofNat 0xFFFD :: lossyChars n rest

/-- Source: `rollout-plugin-host/src/modes/sidecar.rs` `call` (`String::from_utf8_lossy`).
Kind: D -/
def fromUtf8Lossy (bs : Bytes) : String := String.ofList (lossyChars bs.length bs)

example : fromUtf8Lossy [0x61, 0xE2, 0x82, 0x62, 0xC3, 0xA9, 0xFF] =
    String.ofList ['a', Char.ofNat 0xFFFD, 'b', Char.ofNat 0xE9, Char.ofNat 0xFFFD] := by
  decide +kernel

/-- The body of a request. Source: `rollout-plugin-host/src/modes/sidecar.rs` `call` (`req`).
Kind: D -/
def requestBody (method : String) (payload : Bytes) : Bytes :=
  ("\x7b\"method\":" ++ jsonString method ++ ",\"payload\":" ++ jsonString (fromUtf8Lossy payload) ++
    "\x7d").toUTF8.data.toList

/-! ## A call -/

/-- Programs on the stream of a sidecar.
Source: `rollout-plugin-host/src/modes/sidecar.rs` (`tokio::net::UnixStream`). Kind: D -/
abbrev SidecarM := ClientM CoreError

/-- A failed operation. Source: `rollout-plugin-host/src/modes/sidecar.rs` `call` (`map_err`).
Kind: D -/
def failed (doing : String) (e : String) : CoreError := .internal ("sidecar " ++ doing ++ ": " ++ e)

/-- Write a request behind its length and read a response behind its own.
Source: `rollout-plugin-host/src/modes/sidecar.rs` `call`. Kind: D -/
def exchange (body : Bytes) : SidecarM Bytes := do
  writeAll (failed "write len") (bytes256.render 4 body.length)
  writeAll (failed "write body") body
  attempt (failed "flush") .flush
  let hdr ← readExact (failed "read len") 4
  readExact (failed "read body") (lengthOf hdr)

/-- Send a request and read the response.
Source: `rollout-plugin-host/src/modes/sidecar.rs` `call`. Kind: D -/
def call (connected : Bool) (method : String) (payload : Bytes) : SidecarM Bytes :=
  if !connected then Prog.err (.internal "sidecar stream not connected")
  else if 2 ^ 32 ≤ (requestBody method payload).length then
    Prog.err (.internal "sidecar request too large")
  else exchange (requestBody method payload)

/-- What the host has under the id of a handle.
Source: `rollout-plugin-host/src/handle.rs` `HandleState`, `rollout-plugin-host/src/host.rs` `call`.
Kind: D -/
inductive HandleSlot
  | absent
  | sidecar (connected : Bool)

/-- A call through the host. Source: `rollout-plugin-host/src/host.rs` `call`. Kind: D -/
def hostCall (slot : HandleSlot) (plugin method : String) (payload : Bytes) : SidecarM Bytes :=
  match slot with
  | .absent => Prog.err (.fatal (.pluginContract plugin "unknown handle"))
  | .sidecar connected => call connected method payload

/-! ## Calls one after the other -/

/-- A call and what it was asked for. Source: `rollout-plugin-host/src/host.rs` `call`. Kind: D -/
structure SidecarCall where
  /-- What the host has under the id. -/
  slot : HandleSlot
  /-- The name of the plugin. -/
  plugin : String
  /-- The method. -/
  method : String
  /-- The payload. -/
  payload : Bytes

/-- What it runs. Source: `rollout-plugin-host/src/host.rs` `call`. Kind: D -/
def SidecarCall.prog (c : SidecarCall) : SidecarM Bytes :=
  hostCall c.slot c.plugin c.method c.payload

/-- A call of a run, with the streams it found, what was left of it when it was left alone and the
streams then. Source: none: infrastructure. Kind: D -/
structure CallRecord where
  /-- The call. -/
  call : SidecarCall
  /-- The streams before. -/
  pre : Streams
  /-- What was left of it: a result, a failure, or where it was dropped. -/
  rest : SidecarM Bytes
  /-- The streams after. -/
  post : Streams

/-- **Calls one after the other.** Each is run to any point; the sidecar takes its turns in between.
Source: `rollout-plugin-host/src/host.rs` `call`. Kind: D -/
inductive CallSeq : List CallRecord → Streams → Prop
  | nil : CallSeq [] .fresh
  | snoc {hist : List CallRecord} {s : Streams} {c : SidecarCall}
      {tr : List (Event (requests.iface String) Unit Streams)}
      {d : Config (requests.iface String) CoreError Streams fun _ : Unit => Bytes}
      (h : CallSeq hist s) (hrun : Run ((service 4).machine String) ⟨s, fun _ => c.prog⟩ tr d) :
      CallSeq (hist ++ [⟨c, s, d.progs (), d.shared⟩]) d.shared

/-- **The answer to that very call**: it is the answer to the request that the sidecar finds where
the call began to write, and that request is the call's.
Source: `rollout-plugin-host/src/modes/sidecar.rs` `call` ("read a length-prefixed JSON response").
Kind: D -/
def CallRecord.OwnResponse (r : CallRecord) (resp : Bytes) : Prop :=
  ∃ k, framed 4 ((complete 4 r.post.sent).take k) = r.pre.sent ∧
    (complete 4 r.post.sent)[k]? = some (requestBody r.call.method r.call.payload) ∧
    r.post.answers[k]? = some resp

/-- The call wrote nothing, or it returned. Source: `rollout-plugin-host/src/modes/sidecar.rs`
`call`. Kind: D -/
def CallRecord.Unbroken (r : CallRecord) : Prop :=
  r.post.sent = r.pre.sent ∨ ∃ resp, r.rest = .ret resp

variable {s₀ s : Streams} {done : List Bytes}

/-- **A request on settled streams reads its own answer.**
Source: `rollout-plugin-host/src/modes/sidecar.rs` `call`. Kind: L -/
theorem safe_exchange (hsettled : Settled 4 s₀ done) {body : Bytes}
    (hfits : body.length < 256 ^ 4) :
    (exchange body).Safe (agreement 4 s₀) () (Yields (Exchanged 4 s₀ body)) s₀ () := by
  refine Prog.Safe.bind (Prog.Safe.weaken ?_ (safe_writeAll _))
  rintro (err | _) s₁ _ h₁
  · trivial
  refine Prog.Safe.bind (Prog.Safe.weaken ?_ (safe_writeAll _))
  rintro (err | _) s₂ _ h₂
  · trivial
  refine safe_attempt fun s₃ hr _ => ⟨trivial, fun a s₃' hperf _ => ?_⟩
  obtain ⟨-, rfl⟩ := Prod.mk.inj (Option.some.inj hperf)
  have hsent : s₃.sent = s₀.sent ++ frame 4 body := by
    rw [hr.sent, h₂.1, h₁.1, List.append_assoc]
    rfl
  have htaken : s₃.taken = s₀.taken := by rw [hr.taken, h₂.2, h₁.2]
  have hlonger : s₀.sent.length < s₃.sent.length := by
    rw [hsent, List.length_append, length_frame]
    omega
  refine Prog.Safe.bind (Prog.Safe.weaken ?_ (safe_readExact hlonger 4))
  rintro (err | hdr) s₄ _ hhead
  · trivial
  have hhead : HasRead 4 s₃ 4 hdr s₄ := hhead
  have hlonger₄ : s₀.sent.length < s₄.sent.length := by
    rw [hhead.sent]
    exact hlonger
  refine Prog.Safe.weaken_inv ?_ (safe_readExact hlonger₄ (lengthOf hdr))
  rintro (err | resp) s₅ _ hsince hbody
  · trivial
  · exact exchanged_of_read (by decide) hsettled hfits hsince hsent htaken hhead hbody

/-- Source: `rollout-plugin-host/src/host.rs` `call`. Kind: L -/
theorem safe_prog (hsettled : Settled 4 s₀ done) (c : SidecarCall) :
    c.prog.Safe (agreement 4 s₀) () (Yields fun resp s =>
      (requestBody c.method c.payload).length < 256 ^ 4 ∧
        Exchanged 4 s₀ (requestBody c.method c.payload) resp s) s₀ () := by
  unfold SidecarCall.prog hostCall
  split
  · exact fun _ _ _ _ => trivial
  unfold call
  split
  · exact fun _ _ _ _ => trivial
  split
  · exact fun _ _ _ _ => trivial
  next hfits =>
  have hfits : (requestBody c.method c.payload).length < 256 ^ 4 := not_le.mp hfits
  refine Prog.Safe.weaken ?_ (safe_exchange hsettled hfits)
  rintro (err | resp) s _ h
  · trivial
  · exact ⟨hfits, h⟩

/-- **A call that is not broken off leaves settled streams settled**, and what it returns is the
answer to its own request. Source: `rollout-plugin-host/src/modes/sidecar.rs` `call`. Kind: L -/
theorem settled_step {c : SidecarCall} {tr : List (Event (requests.iface String) Unit Streams)}
    {d : Config (requests.iface String) CoreError Streams fun _ : Unit => Bytes}
    (hsettled : Settled 4 s₀ done) (hwell : WellFormed 4 s₀)
    (hrun : Run ((service 4).machine String) ⟨s₀, fun _ => c.prog⟩ tr d) :
    WellFormed 4 d.shared ∧
      (∀ resp, d.progs () = .ret resp → (requestBody c.method c.payload).length < 256 ^ 4 ∧
        Exchanged 4 s₀ (requestBody c.method c.payload) resp d.shared) ∧
      (d.shared.sent = s₀.sent → Settled 4 d.shared done) := by
  have hsafe := fun _ : Unit => safe_prog hsettled c
  obtain ⟨hsince, -⟩ := hrun.sound (agreement 4 s₀) _ (Since.refl hwell) hsafe fun e _ => agreement_assume e
  have hsince : Since 4 s₀ d.shared := hsince
  refine ⟨hsince.wellFormed, fun resp hret => ?_,
    fun hsent => hsettled.unwritten (by decide) hsince hsent⟩
  exact hrun.sound_ret (agreement 4 s₀) _ (Since.refl hwell) hsafe
    (fun e _ => agreement_assume e) hret

/-- As long as no call is broken off, the streams are settled between calls. Induction on the calls.
Source: `rollout-plugin-host/src/modes/sidecar.rs` `call`. Kind: L -/
theorem settled_of_unbroken {hist : List CallRecord} (h : CallSeq hist s)
    (hunbroken : ∀ r ∈ hist, r.Unbroken) : WellFormed 4 s ∧ ∃ done, Settled 4 s done := by
  induction h with
  | nil => exact ⟨wellFormed_fresh, [], settled_fresh⟩
  | @snoc hist s c tr d h hrun ih =>
      obtain ⟨hwell, done, hsettled⟩ := ih fun r hr => hunbroken r (List.mem_append_left _ hr)
      obtain ⟨hwell', hret, hunwritten⟩ := settled_step hsettled hwell hrun
      refine ⟨hwell', ?_⟩
      rcases hunbroken _ (List.mem_append_right _ List.mem_cons_self) with hsent | ⟨resp, hresp⟩
      · exact ⟨done, hunwritten hsent⟩
      · obtain ⟨hfits, hex⟩ := hret resp hresp
        exact ⟨_, hsettled.exchanged hfits hex⟩

/-- The calls up to one of them. Source: none: infrastructure. Kind: L -/
theorem CallSeq.before {hist : List CallRecord} (h : CallSeq hist s)
    {before after : List CallRecord}
    {r : CallRecord} (hhist : hist = before ++ r :: after) :
    CallSeq before r.pre ∧ ∃ tr d, Run ((service 4).machine String) ⟨r.pre, fun _ => r.call.prog⟩ tr d ∧
      r.rest = d.progs () ∧ r.post = d.shared := by
  induction h generalizing after with
  | nil => simp at hhist
  | @snoc hist s c tr d h hrun ih =>
      rcases List.eq_nil_or_concat after with rfl | ⟨after, r', rfl⟩
      · obtain ⟨rfl, heq⟩ := List.append_inj' hhist rfl
        rw [← (List.cons.inj heq).1]
        exact ⟨h, tr, d, hrun, rfl, rfl⟩
      · rw [List.concat_eq_append, ← List.cons_append, ← List.append_assoc] at hhist
        exact ih (List.append_inj' hhist rfl).1

/-- **A call returns the sidecar's answer to that very call, as long as no call before it was broken
off after it had begun to write.** Source: `rollout-plugin-host/src/modes/sidecar.rs` `call`,
`rollout-plugin-host/src/host.rs` `call`. Kind: P -/
theorem returned_own_response {hist before after : List CallRecord} {r : CallRecord} {resp : Bytes}
    (h : CallSeq hist s) (hhist : hist = before ++ r :: after)
    (hunbroken : ∀ r' ∈ before, r'.Unbroken) (hret : r.rest = .ret resp) : r.OwnResponse resp := by
  obtain ⟨hbefore, tr, d, hrun, hrest, hpost⟩ := h.before hhist
  obtain ⟨hwell, done, hsettled⟩ := settled_of_unbroken hbefore hunbroken
  obtain ⟨-, hall, -⟩ := settled_step hsettled hwell hrun
  obtain ⟨hfits, hex⟩ := hall resp (hrest.symm.trans hret)
  rw [← hpost] at hex
  have hcomplete : complete 4 r.post.sent = done ++ [requestBody r.call.method r.call.payload] := by
    rw [hex.sent]
    exact complete_of_settled (by decide) hsettled hfits
  refine ⟨done.length, ?_, ?_, ?_⟩
  · rw [hcomplete, List.take_left' rfl, hsettled.sent_eq]
  · rw [hcomplete, List.getElem?_concat_length]
  · rw [hex.answers, ← hsettled.answered, List.getElem?_concat_length]

/-! ## A call that is dropped -/

section concrete

/-- An echo of a text by the sample sidecar.
Source: `rollout-plugin-host/tests/sidecar_load.rs` (`host.call`). Kind: D -/
def echo (payload : Bytes) : SidecarCall := ⟨.sidecar true, "sample-sidecar", "echo", payload⟩

/-- What the sample sidecar answers to it.
Source: `rollout-plugin-host/tests/sidecar_load.rs` (`v["payload"]`). Kind: D -/
def echoed (payload : String) : Bytes :=
  ("\x7b\"payload\": \"" ++ payload ++ "\"\x7d").toUTF8.data.toList

/-- The host writes a request of 31 bytes, the sidecar answers it, and the host reads so many bytes.
Source: `rollout-plugin-host/src/modes/sidecar.rs` `call`. Kind: D -/
def served (resp : Bytes) (reads : Nat) : List (Move ((service 4).machine String)) :=
  inTurn _ (Except.ok () : Except String Unit) (List.replicate 36 ()) ++
    [.tick (Turn.hear 35), .tick (Turn.answer resp), .tick (Turn.say 20)] ++
    inTurn _ (Except.ok () : Except String Unit) (List.replicate reads ())

/-- A call run to where the schedule ends. Source: none: infrastructure. Kind: D -/
def runCall (s : Streams) (c : SidecarCall) (moves : List (Move ((service 4).machine String))) :
    Option CallRecord :=
  let start : Config (requests.iface String) CoreError Streams fun _ : Unit => Bytes :=
    ⟨s, fun _ => c.prog⟩
  (start.play moves).map fun x => ⟨c, s, x.2.progs (), x.2.shared⟩

theorem CallSeq.runCall {hist : List CallRecord} (h : CallSeq hist s) {c : SidecarCall}
    {moves : List (Move ((service 4).machine String))} {r : CallRecord}
    (hr : runCall s c moves = some r) : CallSeq (hist ++ [r]) r.post := by
  obtain ⟨⟨tr, d⟩, hplay, rfl⟩ := Option.map_eq_some_iff.mp hr
  exact h.snoc (Config.play_run hplay)

/-- Two echoes; the first is dropped when it has read so many bytes of its response.
Source: `rollout-plugin-host/src/host.rs` `call`. Kind: D -/
def twoEchoes (reads : Nat) : Option (CallRecord × CallRecord) :=
  (runCall .fresh (echo [97]) (served (echoed "a") reads)).bind fun r =>
    (runCall r.post (echo [98]) (served (echoed "b") 20)).map fun r' => (r, r')

theorem callSeq_twoEchoes {reads : Nat} {r r' : CallRecord} (h : twoEchoes reads = some (r, r')) :
    CallSeq [r, r'] r'.post := by
  obtain ⟨r₁, hfst, hrest⟩ := Option.bind_eq_some_iff.mp h
  obtain ⟨r₂, hsnd, heq⟩ := Option.map_eq_some_iff.mp hrest
  obtain ⟨rfl, rfl⟩ := Prod.mk.inj heq
  have hseq := (CallSeq.nil.runCall hfst).runCall hsnd
  exact hseq

/-- **The call after a dropped one gets the response to that one.** The first is dropped while it
waits for its response. Source: `rollout-plugin-host/src/modes/sidecar.rs` `call`. Kind: C -/
theorem next_call_gets_previous_response :
    ∃ (r r' : CallRecord) (resp : Bytes), CallSeq [r, r'] r'.post ∧ r'.rest = .ret resp ∧
      ¬ r'.OwnResponse resp := by
  have hplay : (twoEchoes 0).map (fun x => decide (x.2.rest.returned = some (echoed "a") ∧
      complete 4 x.2.post.sent = [requestBody "echo" [97], requestBody "echo" [98]] ∧
      x.2.post.answers = [echoed "a", echoed "b"] ∧ x.2.call.method = "echo" ∧
      x.2.call.payload = [98])) = some true := by
    decide +kernel
  obtain ⟨⟨r, r'⟩, htwo, hend⟩ := Option.map_eq_some_iff.mp hplay
  obtain ⟨hret, hcomplete, hanswers, hmethod, hpayload⟩ := of_decide_eq_true hend
  refine ⟨r, r', echoed "a", callSeq_twoEchoes htwo, Prog.eq_ret_of_returned hret, ?_⟩
  rintro ⟨k, -, hbody, hresp⟩
  rw [hcomplete, hmethod, hpayload] at hbody
  rw [hanswers] at hresp
  rcases k with _ | _ | k
  · exact absurd hbody (by decide +kernel)
  · exact absurd hresp (by decide +kernel)
  · simp at hresp

/-- `returned_own_response` where the first echo reads its response.
Source: `rollout-plugin-host/src/host.rs` `call`. Kind: C -/
theorem returned_own_response_twoEchoes :
    ∃ r r' : CallRecord, CallSeq [r, r'] r'.post ∧ r'.rest = .ret (echoed "b") ∧
      r'.OwnResponse (echoed "b") := by
  have hplay : (twoEchoes 20).map (fun x => decide (x.1.rest.returned = some (echoed "a") ∧
      x.2.rest.returned = some (echoed "b"))) = some true := by
    decide +kernel
  obtain ⟨⟨r, r'⟩, htwo, hend⟩ := Option.map_eq_some_iff.mp hplay
  obtain ⟨hfst, hsnd⟩ := of_decide_eq_true hend
  have hseq := callSeq_twoEchoes htwo
  have hret : r'.rest = .ret (echoed "b") := Prog.eq_ret_of_returned hsnd
  refine ⟨r, r', hseq, hret, @returned_own_response _ _ [r] [] _ _ hseq rfl ?_ hret⟩
  intro r₁ hr₁
  rw [List.mem_singleton.mp hr₁]
  exact .inr ⟨_, Prog.eq_ret_of_returned hfst⟩

end concrete

end Rollout.Plugin
