import Rollout.Plugin.Manifest
import Rollout.Plugin.Utf8Lossy

/-!
# Reward inputs on their way to a plugin

A reward input is encoded as bytes and given to a plugin by way of the host. In-process plugins get
the bytes; a sidecar gets a JSON request with the bytes as text.

* `computeReward` — the caller. `delivered` — what a plugin of each mode gets as payload.
* `readRequest` — a request as JSON reads it; it reads back what was written
  (`readRequest_requestText`).
* `survives_iff` — a reward input is decoded by the plugin as it was, except where the length in front
  of one of its texts is not UTF-8.
-/

namespace Rollout.Plugin

open Rollout.Lib Rollout.Core
open Rollout.CloudLocal.ObjectStore (jsonString jsonChar)

/-! ## The caller -/

/-- Source: `rollout-harness-text/src/reward.rs` `RewardInput`. Kind: D -/
structure RewardInput where
  /-- Originating prompt text. -/
  prompt : Text
  /-- Policy completion. -/
  completion : Text

/-- A reward, by the bits of its number. Source: `rollout-core/src/traits/harness.rs` `Reward`.
Kind: D -/
abbrev Reward := { bytes : Bytes // bytes.length = 4 }

/-- Source: `rollout-harness-text/src/reward.rs` `compute_reward` (`postcard::to_stdvec`). Kind: D -/
def RewardInput.codec : Codec RewardInput :=
  (Text.codec.prod Text.codec).refine (fun x => some ⟨x.1, x.2⟩) (fun r => (r.prompt, r.completion))
    fun _ => rfl

/-- The reward in a response. Source: `rollout-harness-text/src/reward.rs` `compute_reward`
(`postcard::from_bytes`). Kind: D -/
def decodeReward (plugin : String) (bytes : Bytes) : Except CoreError Reward :=
  match (Codec.fixed 4).fromBytes bytes with
  | some reward => .ok reward
  | none => .error (.fatal (.pluginContract plugin
      "decode Reward: Hit the end of buffer, expected more data"))

/-- Ask the reward plugin behind a handle. Source: `rollout-harness-text/src/reward.rs`
`compute_reward`. Kind: D -/
def computeReward (slot : HandleSlot) (plugin : String) (prompt completion : Text) :
    SidecarM Reward := do
  let payload := RewardInput.codec.enc ⟨prompt, completion⟩
  let bytes ← hostCall slot plugin "score" payload
  Prog.ofExcept (decodeReward plugin bytes)

/-! ## The plugin -/

/-- A hexadecimal digit. Source: none: infrastructure. Kind: D -/
def hexValue (c : Char) : Option Nat :=
  if '0' ≤ c ∧ c ≤ '9' then some (c.toNat - 48)
  else if 'a' ≤ c ∧ c ≤ 'f' then some (c.toNat - 87)
  else if 'A' ≤ c ∧ c ≤ 'F' then some (c.toNat - 55)
  else none

/-- Source: `python/examples/sample_sidecar/__main__.py` `serve` (`json.loads`). Kind: D -/
def hexCode (a b c d : Char) : Option Nat := do
  let a ← hexValue a
  let b ← hexValue b
  let c ← hexValue c
  let d ← hexValue d
  return ((a * 16 + b) * 16 + c) * 16 + d

/-- The character behind a backslash, and what follows it.
Source: `python/examples/sample_sidecar/__main__.py` `serve` (`json.loads`). Kind: D -/
def unescape : List Char → Option (Char × List Char)
  | '"' :: rest => some ('"', rest)
  | '\\' :: rest => some ('\\', rest)
  | '/' :: rest => some ('/', rest)
  | 'b' :: rest => some (Char.ofNat 8, rest)
  | 'f' :: rest => some (Char.ofNat 12, rest)
  | 'n' :: rest => some (Char.ofNat 10, rest)
  | 'r' :: rest => some (Char.ofNat 13, rest)
  | 't' :: rest => some (Char.ofNat 9, rest)
  | 'u' :: a :: b :: c :: d :: rest => (hexCode a b c d).map fun n => (Char.ofNat n, rest)
  | _ => none

/-- The rest of a string, up to the quote that ends it.
Source: `python/examples/sample_sidecar/__main__.py` `serve` (`json.loads`). Kind: D -/
def readString : Nat → List Char → Option (List Char × List Char)
  | 0, _ => none
  | _ + 1, [] => none
  | n + 1, c :: rest =>
      if c = '"' then some ([], rest)
      else if c = '\\' then
        (unescape rest).bind fun e => (readString n e.2).map fun r => (e.1 :: r.1, r.2)
      else (readString n rest).map fun r => (c :: r.1, r.2)

/-- What follows an expected text. Source: none: infrastructure. Kind: D -/
def expect (text input : List Char) : Option (List Char) :=
  if text <+: input then some (input.drop text.length) else none

/-- The method and the payload of a request.
Source: `python/examples/sample_sidecar/__main__.py` `serve`, `_handle`. Kind: D -/
def readRequest (text : List Char) : Option (List Char × List Char) := do
  let rest ← expect "\x7b\"method\":\"".toList text
  let (method, rest) ← readString (rest.length + 1) rest
  let rest ← expect ",\"payload\":\"".toList rest
  let (payload, rest) ← readString (rest.length + 1) rest
  if rest = ['\x7d'] then some (method, payload) else none

section read

variable {text rest cs : List Char}

theorem expect_append (text rest : List Char) : expect text (text ++ rest) = some rest := by
  unfold expect
  rw [if_pos (List.prefix_append text rest), List.drop_left]

/-- The two last digits of an escaped control character.
Source: `rollout-plugin-host/src/modes/sidecar.rs` `call` (`serde_json::to_vec`). Kind: L -/
theorem escape_control : ∀ k < 32,
    ("\\u00" ++ asciiString (base16.render 2 k)).toList =
      ['\\', 'u', '0', '0', Char.ofNat (base16.digit (k / 16 % 16)).toNat,
        Char.ofNat (base16.digit (k % 16)).toNat] ∧
    hexCode '0' '0' (Char.ofNat (base16.digit (k / 16 % 16)).toNat)
      (Char.ofNat (base16.digit (k % 16)).toNat) = some k := by
  decide +kernel

/-- A character stands for itself, or is escaped. The cases are those of its escapes.
Source: `rollout-plugin-host/src/modes/sidecar.rs` `call` (`serde_json::to_vec`). Kind: L -/
theorem jsonChar_cases (c : Char) : (c ≠ '"' ∧ c ≠ '\\' ∧ (jsonChar c).toList = [c]) ∨
    ∃ escaped, (jsonChar c).toList = '\\' :: escaped ∧
      ∀ rest, unescape (escaped ++ rest) = some (c, rest) := by
  have hchar : ∀ k, c.toNat = k → c = Char.ofNat k := fun k hk => by rw [← hk, Char.ofNat_toNat]
  unfold jsonChar
  by_cases hquote : c = '"'
  · rw [if_pos hquote, hquote]
    exact .inr ⟨['"'], rfl, fun rest => rfl⟩
  by_cases hback : c = '\\'
  · rw [if_neg hquote, if_pos hback, hback]
    exact .inr ⟨['\\'], rfl, fun rest => rfl⟩
  -- what is left are the control characters
  rw [if_neg hquote, if_neg hback]
  split
  · next h => exact .inr ⟨['b'], rfl, fun rest => by rw [hchar 8 h]; rfl⟩
  split
  · next h => exact .inr ⟨['t'], rfl, fun rest => by rw [hchar 9 h]; rfl⟩
  split
  · next h => exact .inr ⟨['n'], rfl, fun rest => by rw [hchar 10 h]; rfl⟩
  split
  · next h => exact .inr ⟨['f'], rfl, fun rest => by rw [hchar 12 h]; rfl⟩
  split
  · next h => exact .inr ⟨['r'], rfl, fun rest => by rw [hchar 13 h]; rfl⟩
  split
  · next h =>
    obtain ⟨htext, hvalue⟩ := escape_control c.toNat h
    refine .inr ⟨_, htext, fun rest => ?_⟩
    show (hexCode _ _ _ _).map _ = _
    rw [hvalue, Option.map_some, Char.ofNat_toNat]
    rfl
  · exact .inl ⟨hquote, hback, String.toList_singleton c⟩

/-- A character is read back, in one step. Source: `python/examples/sample_sidecar/__main__.py`
`serve` (`json.loads`). Kind: L -/
theorem readString_jsonChar (c : Char) (n : Nat) (rest : List Char) :
    readString (n + 1) ((jsonChar c).toList ++ rest) =
      (readString n rest).map fun r => (c :: r.1, r.2) := by
  rcases jsonChar_cases c with ⟨hquote, hback, htext⟩ | ⟨escaped, htext, hread⟩
  · rw [htext, List.singleton_append, readString, if_neg hquote, if_neg hback]
  · rw [htext, List.cons_append, readString, if_neg (by decide), if_pos rfl, hread]
    rfl

theorem readString_jsonChars (cs rest : List Char) {n : Nat} (hn : cs.length < n) :
    readString n (cs.flatMap (fun c => (jsonChar c).toList) ++ '"' :: rest) = some (cs, rest) := by
  induction cs generalizing n with
  | nil =>
      obtain ⟨n, rfl⟩ := Nat.exists_eq_succ_of_ne_zero (by simpa using hn.ne')
      rfl
  | cons c cs ih =>
      obtain ⟨n, rfl⟩ := Nat.exists_eq_succ_of_ne_zero (Nat.ne_zero_of_lt hn)
      rw [List.flatMap_cons, List.append_assoc, readString_jsonChar,
        ih (Nat.lt_of_succ_lt_succ hn)]
      rfl

theorem jsonChar_ne_nil (c : Char) : (jsonChar c).toList ≠ [] := by
  rcases jsonChar_cases c with ⟨_, _, htext⟩ | ⟨escaped, htext, _⟩
  · rw [htext]
    exact List.cons_ne_nil _ _
  · rw [htext]
    exact List.cons_ne_nil _ _

/-- An escape is no shorter than its character.
Source: `rollout-plugin-host/src/modes/sidecar.rs` `call` (`serde_json::to_vec`). Kind: L -/
theorem length_le_jsonChars (cs : List Char) :
    cs.length ≤ (cs.flatMap fun c => (jsonChar c).toList).length := by
  induction cs with
  | nil => exact Nat.zero_le _
  | cons c cs ih =>
      have hpos := List.length_pos_iff.mpr (jsonChar_ne_nil c)
      rw [List.flatMap_cons, List.length_append, List.length_cons]
      omega

theorem toList_jsonString (s : String) : (jsonString s).toList =
    '"' :: (s.toList.flatMap (fun c => (jsonChar c).toList) ++ ['"']) := by
  unfold jsonString
  rw [String.toList_append, String.toList_append, String.toList_join, List.flatMap_map]
  rfl

/-- A string is read back up to its quote. Source: `python/examples/sample_sidecar/__main__.py`
`serve` (`json.loads`). Kind: L -/
theorem readString_chars (cs rest : List Char) {text : List Char}
    (h : text = cs.flatMap (fun c => (jsonChar c).toList) ++ '"' :: rest) :
    readString (text.length + 1) text = some (cs, rest) := by
  have hlong := length_le_jsonChars cs
  rw [h]
  refine readString_jsonChars cs rest ?_
  rw [List.length_append]
  omega

end read

/-- The text of a request. Source: `rollout-plugin-host/src/modes/sidecar.rs` `call` (`req`).
Kind: D -/
def requestText (method payload : String) : String :=
  "\x7b\"method\":" ++ jsonString method ++ ",\"payload\":" ++ jsonString payload ++ "\x7d"

/-- **A request is read back.** Source: `rollout-plugin-host/src/modes/sidecar.rs` `call`,
`python/examples/sample_sidecar/__main__.py` `serve`. Kind: P -/
theorem readRequest_requestText (method payload : String) :
    readRequest (requestText method payload).toList = some (method.toList, payload.toList) := by
  have hpayload := readString_chars payload.toList ['\x7d'] rfl
  have hmethod := readString_chars method.toList (",\"payload\":\"".toList ++
    (payload.toList.flatMap (fun c => (jsonChar c).toList) ++ '"' :: ['\x7d'])) rfl
  have htext : (requestText method payload).toList = "\x7b\"method\":\"".toList ++
      (method.toList.flatMap (fun c => (jsonChar c).toList) ++ '"' :: (",\"payload\":\"".toList ++
        (payload.toList.flatMap (fun c => (jsonChar c).toList) ++ '"' :: ['\x7d']))) := by
    unfold requestText
    simp only [String.toList_append, toList_jsonString]
    simp
  unfold readRequest
  rw [htext, expect_append]
  simp only [Option.bind_eq_bind, Option.bind_some, hmethod, expect_append, hpayload]
  rfl

/-! ## What is delivered -/

/-- The request a call writes, if it writes one. Source: `rollout-plugin-host/src/modes/sidecar.rs`
`call`. Kind: D -/
def sentRequest (method : String) (payload : Bytes) : Option Bytes :=
  if 2 ^ 32 ≤ (requestBody method payload).length then none else some (requestBody method payload)

/-- The payload in a request, as bytes. Source: `python/examples/sample_sidecar/__main__.py` `serve`,
`_handle`. Kind: D -/
def payloadOf (body : Bytes) : Option Bytes :=
  if h : (ByteArray.mk body.toArray).IsValidUTF8 then
    (readRequest (String.ofByteArray (ByteArray.mk body.toArray) h).toList).map fun r =>
      utf8 (String.ofList r.2)
  else none

/-- The payload a plugin gets, if it gets one: in-process plugins get the bytes of the call.
Source: `rollout-plugin-host/src/host.rs` `call`. Kind: D -/
def delivered (mode : PluginMode) (method : String) (payload : Bytes) : Option Bytes :=
  match mode with
  | .rustCdylib => some payload
  | .pyo3 => some payload
  | .sidecar => (sentRequest method payload).bind payloadOf

/-- What the plugin gets from `computeReward` it decodes to the input there was.
Source: `rollout-harness-text/src/reward.rs` `compute_reward`. Kind: D -/
def Survives (mode : PluginMode) (input : RewardInput) : Prop :=
  ∀ bytes, delivered mode "score" (RewardInput.codec.enc input) = some bytes →
    RewardInput.codec.fromBytes bytes = some input

/-- The length in front of a text. Source: `rollout-harness-text/src/reward.rs` `compute_reward`
(`postcard::to_stdvec`). Kind: D -/
def lengthBytes (t : Text) : Bytes := Codec.usize.enc (BitVec.ofNat 64 t.utf8.length)

section delivered

variable {method : String} {payload : Bytes}

/-- A connected call is the exchange of its request.
Source: `rollout-plugin-host/src/modes/sidecar.rs` `call`. Kind: P -/
theorem call_eq_exchange {body : Bytes} (h : sentRequest method payload = some body) :
    call true method payload = exchange body := by
  unfold sentRequest at h
  split at h
  · cases h
  · next hfits =>
    cases h
    unfold call
    rw [if_neg (by decide), if_neg hfits]

/-- A reward is asked for by the exchange of one request, and decoded from what comes back.
Source: `rollout-harness-text/src/reward.rs` `compute_reward`. Kind: P -/
theorem computeReward_eq_exchange {body : Bytes} (plugin : String) {prompt completion : Text}
    (h : sentRequest "score" (RewardInput.codec.enc ⟨prompt, completion⟩) = some body) :
    computeReward (.sidecar true) plugin prompt completion =
      exchange body >>= fun bytes => Prog.ofExcept (decodeReward plugin bytes) := by
  unfold computeReward hostCall
  dsimp only
  rw [call_eq_exchange h]

theorem payloadOf_requestBody (method : String) (payload : Bytes) :
    payloadOf (requestBody method payload) = some (repair payload) := by
  have hvalid : (ByteArray.mk (requestBody method payload).toArray).IsValidUTF8 :=
    (requestText method (fromUtf8Lossy payload)).isValidUTF8
  have htext : String.ofByteArray (ByteArray.mk (requestBody method payload).toArray) hvalid =
      requestText method (fromUtf8Lossy payload) := rfl
  unfold payloadOf
  rw [dif_pos hvalid, htext, readRequest_requestText, Option.map_some, String.ofList_toList]
  rfl

theorem delivered_sidecar (method : String) (payload : Bytes) :
    delivered .sidecar method payload =
      if 2 ^ 32 ≤ (requestBody method payload).length then none else some (repair payload) := by
  unfold delivered sentRequest
  dsimp only
  split
  · rfl
  · rw [Option.bind_some, payloadOf_requestBody]

end delivered

/-! ## What is decoded -/

section decode

variable {t : Text} {input : RewardInput}

theorem text_enc (t : Text) : Text.codec.enc t = lengthBytes t ++ t.utf8 := by
  show Codec.usize.enc _ ++ t.utf8.flatMap (fun b => [b]) = _
  rw [List.flatMap_singleton']
  rfl

theorem isUtf8_text (t : Text) : IsUtf8 t.utf8 := ⟨t.str, rfl⟩

/-- A length is repaired on its own, to minimal groups again.
Source: `rollout-plugin-host/src/modes/sidecar.rs` `call` (`String::from_utf8_lossy`). Kind: L -/
theorem repair_lengthBytes (t : Text) : ∃ front last, Codec.Groups front last ∧
    repair (lengthBytes t) = front ++ [last] ∧
    ∀ rest, repair (lengthBytes t ++ rest) = front ++ last :: repair rest := by
  obtain ⟨front, last, henc, hgroups⟩ := Codec.groups_usize (BitVec.ofNat 64 t.utf8.length)
  obtain ⟨front', hhigh, hrepair⟩ := repair_high hgroups.low hgroups.high
  have henc' : lengthBytes t = front ++ [last] := henc
  refine ⟨front', last, ⟨hhigh, hgroups.low, ?_⟩, ?_, fun rest => ?_⟩
  · rcases hgroups.minimal with rfl | hlast
    · have hascii : repair [last] = [last] := by
        refine (repair_eq_self_iff _).mpr ⟨asciiString [last], ?_⟩
        exact utf8_asciiString fun b hb => List.mem_singleton.mp hb ▸ hgroups.low
      have hself := hrepair []
      rw [List.nil_append, hascii, repair_nil] at hself
      exact .inl (List.append_left_eq_self.mp hself.symm)
    · exact .inr hlast
  · rw [henc', hrepair, repair_nil]
  · rw [henc', List.append_assoc, List.singleton_append, hrepair]

theorem repair_enc (input : RewardInput) : repair (RewardInput.codec.enc input) =
    repair (lengthBytes input.prompt) ++ (input.prompt.utf8 ++
      (repair (lengthBytes input.completion) ++ input.completion.utf8)) := by
  obtain ⟨front, last, -, hself, hrest⟩ := repair_lengthBytes input.prompt
  obtain ⟨front', last', -, hself', hrest'⟩ := repair_lengthBytes input.completion
  have hcompletion : repair input.completion.utf8 = input.completion.utf8 :=
    (repair_eq_self_iff _).mpr (isUtf8_text _)
  have henc : RewardInput.codec.enc input = lengthBytes input.prompt ++ (input.prompt.utf8 ++
      (lengthBytes input.completion ++ input.completion.utf8)) := by
    show Text.codec.enc input.prompt ++ Text.codec.enc input.completion = _
    rw [text_enc, text_enc, List.append_assoc]
  rw [henc, hrest, repair_append_of_isUtf8 (isUtf8_text _), hrest', hcompletion, hself, hself',
    List.append_assoc, List.append_assoc]
  rfl

/-- A text behind its repaired length is read as it was when the length was kept.
Source: `rollout-harness-text/src/reward.rs` `RewardInput` (`Deserialize`). Kind: L -/
theorem isUtf8_of_dec {rest rest' : Bytes}
    (h : Text.codec.dec (repair (lengthBytes t) ++ (t.utf8 ++ rest)) = some (t, rest')) :
    IsUtf8 (lengthBytes t) ∧ rest' = rest := by
  obtain ⟨n, hdec, rfl⟩ := Text.exists_of_codec_dec h
  obtain ⟨front, last, hgroups, hself, -⟩ := repair_lengthBytes t
  have hread := hdec
  rw [hself, List.append_assoc, List.singleton_append] at hread
  obtain ⟨henc, hrest⟩ := Codec.usize_enc_of_dec hgroups hread
  refine ⟨(repair_eq_self_iff _).mp (hself.trans henc.symm), ?_⟩
  exact List.append_cancel_left hrest

theorem exists_of_dec {bs rest : Bytes} (h : RewardInput.codec.dec bs = some (input, rest)) :
    ∃ rest₁, Text.codec.dec bs = some (input.prompt, rest₁) ∧
      Text.codec.dec rest₁ = some (input.completion, rest) := by
  obtain ⟨⟨⟨prompt, completion⟩, rest'⟩, hboth, hvalue⟩ := Option.bind_eq_some_iff.mp h
  obtain ⟨⟨prompt', rest₁⟩, hprompt, hrest⟩ := Option.bind_eq_some_iff.mp hboth
  obtain ⟨⟨completion', rest₂⟩, hcompletion, hpair⟩ := Option.map_eq_some_iff.mp hrest
  cases hpair
  cases hvalue
  exact ⟨rest₁, hprompt, hcompletion⟩

theorem fromBytes_repair_iff (input : RewardInput) :
    RewardInput.codec.fromBytes (repair (RewardInput.codec.enc input)) = some input ↔
      IsUtf8 (lengthBytes input.prompt) ∧ IsUtf8 (lengthBytes input.completion) := by
  constructor
  · intro h
    obtain ⟨⟨input', rest⟩, hdec, hinput⟩ := Option.map_eq_some_iff.mp h
    obtain rfl : input' = input := hinput
    obtain ⟨rest₁, hprompt, hcompletion⟩ := exists_of_dec hdec
    rw [repair_enc] at hprompt
    obtain ⟨hutf8, hrest⟩ := isUtf8_of_dec hprompt
    rw [hrest, ← List.append_nil input'.completion.utf8] at hcompletion
    exact ⟨hutf8, (isUtf8_of_dec hcompletion).1⟩
  · rintro ⟨hprompt, hcompletion⟩
    have hself : repair (RewardInput.codec.enc input) = RewardInput.codec.enc input := by
      rw [repair_enc, (repair_eq_self_iff _).mpr hprompt, (repair_eq_self_iff _).mpr hcompletion]
      show _ = Text.codec.enc input.prompt ++ Text.codec.enc input.completion
      rw [text_enc, text_enc, List.append_assoc]
    rw [hself, Codec.fromBytes_enc]

end decode

/-- **The reward inputs that survive.** A plugin of any mode decodes the payload it gets to the input
there was; a sidecar does so exactly when the request is not sent for its size, or the lengths in
front of both texts are UTF-8. Source: `rollout-plugin-host/src/modes/sidecar.rs` `call`,
`rollout-harness-text/src/reward.rs` `compute_reward`. Kind: C -/
theorem survives_iff (mode : PluginMode) (input : RewardInput) :
    Survives mode input ↔ mode ≠ .sidecar ∨
      2 ^ 32 ≤ (requestBody "score" (RewardInput.codec.enc input)).length ∨
      IsUtf8 (lengthBytes input.prompt) ∧ IsUtf8 (lengthBytes input.completion) := by
  cases mode with
  | pyo3 =>
      refine iff_of_true (fun bytes h => ?_) (.inl (by decide))
      rw [← Option.some.inj h, Codec.fromBytes_enc]
  | rustCdylib =>
      refine iff_of_true (fun bytes h => ?_) (.inl (by decide))
      rw [← Option.some.inj h, Codec.fromBytes_enc]
  | sidecar =>
      unfold Survives
      rw [delivered_sidecar]
      by_cases hlarge : 2 ^ 32 ≤ (requestBody "score" (RewardInput.codec.enc input)).length
      · rw [if_pos hlarge]
        exact iff_of_true (fun bytes h => by cases h) (.inr (.inl hlarge))
      · rw [if_neg hlarge, ← fromBytes_repair_iff]
        refine ⟨fun h => .inr (.inr (h _ rfl)), ?_⟩
        rintro (h | h | h) bytes hbytes
        · exact absurd rfl h
        · exact absurd h hlarge
        · rw [← Option.some.inj hbytes]
          exact h

theorem longText_fits :
    (String.ofList (List.replicate 128 'a')).toUTF8.data.toList.length < 2 ^ 64 := by
  decide +kernel

theorem noText_fits : "".toUTF8.data.toList.length < 2 ^ 64 := by decide

/-- A prompt of 128 bytes, and no completion. Source: none: infrastructure. Kind: D -/
def longPrompt : RewardInput :=
  ⟨⟨String.ofList (List.replicate 128 'a'), longText_fits⟩, ⟨"", noText_fits⟩⟩

theorem lengthBytes_longPrompt : lengthBytes longPrompt.prompt = [0x80, 0x01] := by decide +kernel

theorem length_longPrompt :
    (requestBody "score" (RewardInput.codec.enc longPrompt)).length < 2 ^ 32 := by
  decide +kernel

/-- **A prompt of 128 bytes does not survive**: its length is not UTF-8.
Source: `rollout-plugin-host/src/modes/sidecar.rs` `call`. Kind: C -/
theorem longPrompt_lost : ¬ Survives .sidecar longPrompt := by
  intro h
  unfold Survives at h
  rw [delivered_sidecar, if_neg (Nat.not_le_of_lt length_longPrompt)] at h
  have hutf8 := ((fromBytes_repair_iff longPrompt).mp (h _ rfl)).1
  rw [lengthBytes_longPrompt, ← repair_eq_self_iff] at hutf8
  exact absurd hutf8 (by decide +kernel)

end Rollout.Plugin
