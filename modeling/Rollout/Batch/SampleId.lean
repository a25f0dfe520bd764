import Mathlib.Data.List.OfFn
import Rollout.Batch.State

/-!
# What tells two samples apart

The id of a sample is the digest of a concatenation in which neither the prompt nor the sampling
parameters carry a length.

* `Request` — what the id is derived from; `Request.text` — the bytes that are hashed.
* `Absorbs` — the prompt of one request goes on with bytes that the parameters of another start
  with. `Request.text_ne_iff`: distinct requests are hashed from distinct bytes except when they
  absorb each other so, at the same model and the same position.
-/

set_option linter.unusedSectionVars false

namespace Rollout.Batch

open Rollout.Lib Rollout.Core

/-! ## Fields of a known width -/

theorem length_leBytes (n : BitVec 64) : (leBytes n).length = 8 := List.length_ofFn

/-- Source: `rollout-runtime-batch/src/state.rs` `sample_id` (`to_le_bytes`). Kind: L -/
theorem leBytes_injective : Function.Injective leBytes := by
  intro n m h
  have hbyte := List.ofFn_injective h
  apply BitVec.eq_of_getLsbD_eq
  intro k hk
  -- bit `k` is bit `k % 8` of byte `k / 8`
  have hbit : ∀ x : BitVec 64,
      x.getLsbD k = (UInt8.ofNat (x.toNat >>> (8 * (k / 8)))).toNat.testBit (k % 8) := by
    intro x
    have hlt : k % 8 < 8 := Nat.mod_lt k (by decide)
    have hpos : 8 * (k / 8) + k % 8 = k := Nat.div_add_mod k 8
    rw [UInt8.toNat_ofNat', Nat.testBit_mod_two_pow, Nat.testBit_shiftRight, hpos,
      BitVec.testBit_toNat]
    simp [hlt]
  have hk8 : k / 8 < 8 := by omega
  rw [hbit, hbit]
  exact congrArg (fun b : UInt8 => b.toNat.testBit (k % 8)) (congrFun hbyte ⟨k / 8, hk8⟩)

/-! ## Requests -/

/-- What the id of a sample is derived from.
Source: `rollout-runtime-batch/src/state.rs` `sample_id` (its arguments). Kind: D -/
structure Request where
  /-- The model. -/
  model : ContentId
  /-- The prompt. -/
  prompt : Text
  /-- The sampling parameters. -/
  params : SamplingParams
  /-- The ordinal in the input. -/
  idx : BitVec 64

/-- The sampling parameters of a request on the wire.
Source: `rollout-runtime-batch/src/state.rs` `sample_id` (`postcard::to_stdvec`). Kind: D -/
def SamplingParams.wire (params : SamplingParams) : Bytes := SamplingParams.codec.enc params

theorem SamplingParams.wire_inj {p q : SamplingParams} : p.wire = q.wire ↔ p = q :=
  SamplingParams.codec.enc_inj

namespace Request

/-- The bytes that are hashed. Source: `rollout-runtime-batch/src/state.rs` `sample_id`. Kind: D -/
def text (r : Request) : Bytes := sampleText r.model r.prompt r.params r.idx

/-- The prompt of `s` is that of `r` and then some bytes the parameters of `r` start with; the
parameters of `s` are the rest of those of `r`.
Source: `rollout-runtime-batch/src/state.rs` `sample_id`. Kind: D -/
def Absorbs (s r : Request) : Prop :=
  ∃ x, x ≠ [] ∧ s.prompt.utf8 = r.prompt.utf8 ++ x ∧ r.params.wire = x ++ s.params.wire

variable {r s : Request}

theorem text_eq_iff : r.text = s.text ↔ r.model = s.model ∧ r.idx = s.idx ∧
    r.prompt.utf8 ++ r.params.wire = s.prompt.utf8 ++ s.params.wire := by
  have htext : ∀ r : Request, r.text = samplingParamsSchemaVersion ::
      (r.model.raw.1 ++ ((r.prompt.utf8 ++ r.params.wire) ++ leBytes r.idx)) := by
    intro r
    simp [text, sampleText, SamplingParams.wire]
  rw [htext, htext]
  constructor
  · intro h
    have hraw : r.model.raw.1.length = s.model.raw.1.length :=
      r.model.raw.2.trans s.model.raw.2.symm
    have hidx : (leBytes r.idx).length = (leBytes s.idx).length := by
      rw [length_leBytes, length_leBytes]
    obtain ⟨hmodel, h⟩ := List.append_inj (List.cons.inj h).2 hraw
    obtain ⟨hmid, hle⟩ := List.append_inj' h hidx
    exact ⟨congrArg ContentId.mk (Subtype.ext hmodel), leBytes_injective hle, hmid⟩
  · rintro ⟨hmodel, hidx, hmid⟩
    rw [hmodel, hidx, hmid]

/-- **Distinct requests are hashed from distinct bytes, unless one absorbs the other.**
Source: `rollout-runtime-batch/src/state.rs` `sample_id`. Kind: P -/
theorem text_ne_iff (hne : r ≠ s) :
    r.text ≠ s.text ↔ ¬ (r.model = s.model ∧ r.idx = s.idx ∧ (s.Absorbs r ∨ r.Absorbs s)) := by
  rw [ne_eq, not_iff_not, text_eq_iff]
  apply and_congr_right
  intro hmodel
  apply and_congr_right
  intro hidx
  rw [List.append_eq_append_iff]
  -- an empty part between the two would make the requests equal
  have hnil : ∀ x : Bytes, r.prompt.utf8 = s.prompt.utf8 ++ x ∧ s.params.wire = x ++ r.params.wire ∨
      s.prompt.utf8 = r.prompt.utf8 ++ x ∧ r.params.wire = x ++ s.params.wire → x ≠ [] := by
    rintro x h rfl
    have hboth : r.prompt.utf8 = s.prompt.utf8 ∧ r.params.wire = s.params.wire := by
      rcases h with ⟨hp, hw⟩ | ⟨hp, hw⟩
      · exact ⟨by simpa using hp, by simpa using hw.symm⟩
      · exact ⟨by simpa using hp.symm, by simpa using hw⟩
    obtain ⟨m, p, q, i⟩ := r
    obtain ⟨m', p', q', i'⟩ := s
    obtain rfl : m = m' := hmodel
    obtain rfl : i = i' := hidx
    obtain rfl := Text.utf8_injective hboth.1
    obtain rfl := SamplingParams.wire_inj.mp hboth.2
    exact hne rfl
  apply or_congr
  · exact exists_congr fun x => ⟨fun h => ⟨hnil x (.inr h), h⟩, fun h => h.2⟩
  · exact exists_congr fun x => ⟨fun h => ⟨hnil x (.inl h), h⟩, fun h => h.2⟩

/-! ## Requests with equal bytes -/

/-- Requests with the same parameters, or with prompts of the same length, absorb nothing.
Source: `rollout-runtime-batch/src/state.rs` `sample_id`. Kind: L -/
theorem not_absorbs_of_params {s r : Request} (h : s.params = r.params) : ¬ s.Absorbs r := by
  rintro ⟨x, hx, -, hwire⟩
  rw [h] at hwire
  have hlen := congrArg List.length hwire
  rw [List.length_append] at hlen
  exact hx (List.length_eq_zero_iff.mp (by omega))

/-- Temperature and top-p of one half, and some stop strings.
Source: none: infrastructure. Kind: D -/
def halves (stop : Sized Text) : SamplingParams where
  temperature := fun i => [0x00, 0x00, 0x00, 0x3f].getD i 0
  topP := fun i => [0x00, 0x00, 0x00, 0x3f].getD i 0
  topK := -1
  maxTokens := 16
  seed := none
  stop := stop
  stream := false

/-- A model. Source: none: infrastructure. Kind: D -/
def zeroModel : ContentId := ⟨List.replicate 32 0, List.length_replicate⟩

/-- The parameters up to their stop strings, with none of them.
Source: none: infrastructure. Kind: D -/
def stopText : Text :=
  ⟨"\x00\x00\x00?\x00\x00\x00?\x01\x10\x00\x00", by decide +kernel⟩

/-- The parameters up to their stop strings, with one of twelve bytes.
Source: none: infrastructure. Kind: D -/
def promptText : Text :=
  ⟨"\x00\x00\x00?\x00\x00\x00?\x01\x10\x00\x01\x0c", by decide +kernel⟩

/-- An empty prompt and one stop string. Source: none: infrastructure. Kind: D -/
def stopping : Request := ⟨zeroModel, ⟨"", by decide +kernel⟩, halves ⟨[stopText], by decide⟩, 0⟩

theorem noStops_fits : ([] : List Text).length < 2 ^ 64 := by decide

/-- The prompt that is the beginning of these parameters. Source: none: infrastructure. Kind: D -/
def prompting : Request := ⟨zeroModel, promptText, halves ⟨[], noStops_fits⟩, 0⟩

/-- Two prompts under the same parameters. -/
theorem text_ne_prompts :
    prompting.text ≠ ({ prompting with prompt := stopText } : Request).text := by
  rw [text_ne_iff]
  · rintro ⟨-, -, habs | habs⟩ <;> exact absurd habs (not_absorbs_of_params rfl)
  · intro h
    exact absurd (congrArg (fun r => r.prompt.str) h) (by decide)

/-- A prompt that is the beginning of the parameters of another request. -/
theorem text_stopping_prompting : ¬ ∀ r s : Request, r ≠ s → r.text ≠ s.text := by
  intro h
  refine h stopping prompting ?_ ?_
  · intro heq
    exact absurd (congrArg (fun r => r.prompt.str) heq) (by decide)
  · decide +kernel

end Request

end Rollout.Batch
