import Rollout.Plugin.Sidecar

/-!
# What a text field keeps of bytes

A request carries its payload as text: what is UTF-8 in it is kept, and the rest is replaced.

* `lossyStep` — one character of `fromUtf8Lossy` and the bytes after it; `repair` — the bytes of the
  text a payload becomes.
* `repair_append_of_isUtf8` — text at the front stays as it is; `repair_high` — up to the next ASCII
  byte what is repaired depends on nothing else, and has no ASCII byte in it.
-/

namespace Rollout.Plugin

open Rollout.Lib Rollout.Core

/-! ## Characters -/

/-- The UTF-8 bytes of a text. Source: none: infrastructure. Kind: D -/
def utf8 (s : String) : Bytes := s.toUTF8.data.toList

/-- The bytes are those of a text. Source: none: infrastructure. Kind: D -/
def IsUtf8 (bs : Bytes) : Prop := ∃ s : String, utf8 s = bs

theorem utf8_ofList (cs : List Char) : utf8 (String.ofList cs) = cs.flatMap String.utf8EncodeChar := by
  have henc : (String.ofList cs).toUTF8 = cs.utf8Encode := String.toByteArray_ofList
  rw [utf8, henc, List.utf8Encode, List.data_toByteArray]

theorem utf8_eq (s : String) : utf8 s = s.toList.flatMap String.utf8EncodeChar := by
  rw [← utf8_ofList, String.ofList_toList]

/-- The first character and the bytes after it. Source: `rollout-plugin-host/src/modes/sidecar.rs`
`call` (`String::from_utf8_lossy`). Kind: D -/
def lossyStep (b : UInt8) (bs : Bytes) : Char × Bytes :=
  if b.toNat < 0x80 then (Char.ofNat b.toNat, bs)
  else
    match leadByte b.toNat with
    | none => (Char.ofNat 0xFFFD, bs)
    | some (k, lo, hi) =>
        match continuation (b.toNat % 2 ^ (6 - k)) k lo hi bs with
        | (some code, rest) => (Char.ofNat code, rest)
        | (none, rest) => (Char.ofNat 0xFFFD, rest)

theorem lossyChars_cons (n : ℕ) (b : UInt8) (bs : Bytes) :
    lossyChars (n + 1) (b :: bs) = (lossyStep b bs).1 :: lossyChars n (lossyStep b bs).2 := by
  unfold lossyStep
  rw [lossyChars]
  by_cases hascii : b.toNat < 128
  · rw [if_pos hascii, if_pos hascii]
  · rw [if_neg hascii, if_neg hascii]
    rcases leadByte b.toNat with - | ⟨k, lo, hi⟩
    · rfl
    · dsimp only
      rcases continuation (b.toNat % 2 ^ (6 - k)) k lo hi bs with ⟨_ | code, rest⟩
      · rfl
      · rfl

theorem continuation_suffix (code k lo hi : ℕ) (bs : Bytes) :
    (continuation code k lo hi bs).2 <:+ bs := by
  induction bs generalizing code k lo hi with
  | nil => cases k <;> exact List.suffix_refl _
  | cons b bs ih =>
      cases k with
      | zero => exact List.suffix_refl _
      | succ k =>
          unfold continuation
          split
          · exact (ih _ _ _ _).trans (List.suffix_cons b bs)
          · exact List.suffix_refl _

theorem lossyStep_suffix (b : UInt8) (bs : Bytes) : (lossyStep b bs).2 <:+ bs := by
  unfold lossyStep
  split
  · exact List.suffix_refl _
  · split
    · exact List.suffix_refl _
    · next k lo hi hlead =>
      have h := continuation_suffix (b.toNat % 2 ^ (6 - k)) k lo hi bs
      split <;> next hcont => rw [hcont] at h; exact h

theorem lossyChars_of_length_le {n : ℕ} {bs : Bytes} (h : bs.length ≤ n) :
    lossyChars n bs = lossyChars bs.length bs := by
  induction n using Nat.strong_induction_on generalizing bs with
  | h n ih =>
    cases bs with
    | nil => cases n <;> rfl
    | cons b bs =>
        cases n with
        | zero => cases h
        | succ n =>
            have hle := (lossyStep_suffix b bs).length_le
            rw [List.length_cons] at h
            rw [lossyChars_cons, List.length_cons, lossyChars_cons,
              ih n (Nat.lt_succ_self n) (hle.trans (Nat.le_of_succ_le_succ h)),
              ← ih bs.length (Nat.lt_of_succ_le h) hle]

/-- The text of bytes, character by character. Source: `rollout-plugin-host/src/modes/sidecar.rs`
`call` (`String::from_utf8_lossy`). Kind: L -/
theorem toList_fromUtf8Lossy_cons (b : UInt8) (bs : Bytes) : (fromUtf8Lossy (b :: bs)).toList =
    (lossyStep b bs).1 :: (fromUtf8Lossy (lossyStep b bs).2).toList := by
  unfold fromUtf8Lossy
  rw [String.toList_ofList, String.toList_ofList, List.length_cons, lossyChars_cons,
    lossyChars_of_length_le (lossyStep_suffix b bs).length_le]

/-! ## Text is kept -/

theorem toNat_ofNat_byte (n : ℕ) (h : n < 256) : (UInt8.ofNat n).toNat = n := by
  simp only [UInt8.toNat_ofNat']
  omega

theorem lossyStep_of_lead {b : UInt8} {bs rest : Bytes} {k lo hi code : ℕ}
    (hhigh : 0x80 ≤ b.toNat) (hlead : leadByte b.toNat = some (k, lo, hi))
    (hcont : continuation (b.toNat % 2 ^ (6 - k)) k lo hi bs = (some code, rest)) :
    lossyStep b bs = (Char.ofNat code, rest) := by
  unfold lossyStep
  rw [if_neg (by omega), hlead]
  dsimp only
  rw [hcont]

theorem continuation_succ {code k lo hi : ℕ} {b : UInt8} {bs : Bytes} (h : lo ≤ b.toNat ∧ b.toNat ≤ hi) :
    continuation code (k + 1) lo hi (b :: bs) =
      continuation (code * 64 + (b.toNat - 0x80)) k 0x80 0xBF bs := if_pos h

theorem continuation_zero (code lo hi : ℕ) (bs : Bytes) :
    continuation code 0 lo hi bs = (some code, bs) := by
  cases bs <;> rfl

theorem leadByte_two : ∀ a < 32, 2 ≤ a → leadByte (0xC0 + a) = some (1, 0x80, 0xBF) := by
  decide

theorem leadByte_three : ∀ a < 16, leadByte (0xE0 + a) =
    some (2, if a = 0 then 0xA0 else 0x80, if a = 13 then 0x9F else 0xBF) := by
  decide

theorem leadByte_four : ∀ a < 5, leadByte (0xF0 + a) =
    some (3, if a = 0 then 0x90 else 0x80, if a = 4 then 0x8F else 0xBF) := by
  decide

section characters

variable {b b₁ b₂ b₃ : UInt8} {a x y z : ℕ} (rest : Bytes)

theorem lossyStep_two (hb : b.toNat = 0xC0 + a) (ha : 2 ≤ a ∧ a < 32) (h₁ : b₁.toNat = 0x80 + x)
    (hx : x < 64) : lossyStep b (b₁ :: rest) = (Char.ofNat (a * 64 + x), rest) := by
  refine lossyStep_of_lead (by omega) (hb ▸ leadByte_two a ha.2 ha.1) ?_
  rw [continuation_succ (by omega), continuation_zero, hb, h₁, Nat.add_sub_cancel_left,
    show (0xC0 + a) % 2 ^ (6 - 1) = a by omega]

theorem lossyStep_three (hb : b.toNat = 0xE0 + a) (ha : a < 16) (h₁ : b₁.toNat = 0x80 + x)
    (hx : x < 64) (hlo : a = 0 → 32 ≤ x) (hhi : a = 13 → x < 32) (h₂ : b₂.toNat = 0x80 + y)
    (hy : y < 64) :
    lossyStep b (b₁ :: b₂ :: rest) = (Char.ofNat ((a * 64 + x) * 64 + y), rest) := by
  refine lossyStep_of_lead (by omega) (hb ▸ leadByte_three a ha) ?_
  rw [continuation_succ (by split <;> split <;> omega), continuation_succ (by omega),
    continuation_zero, hb, h₁, h₂, Nat.add_sub_cancel_left, Nat.add_sub_cancel_left,
    show (0xE0 + a) % 2 ^ (6 - 2) = a by omega]

theorem lossyStep_four (hb : b.toNat = 0xF0 + a) (ha : a < 5) (h₁ : b₁.toNat = 0x80 + x)
    (hx : x < 64) (hlo : a = 0 → 16 ≤ x) (hhi : a = 4 → x < 16) (h₂ : b₂.toNat = 0x80 + y)
    (hy : y < 64) (h₃ : b₃.toNat = 0x80 + z) (hz : z < 64) :
    lossyStep b (b₁ :: b₂ :: b₃ :: rest) =
      (Char.ofNat (((a * 64 + x) * 64 + y) * 64 + z), rest) := by
  refine lossyStep_of_lead (by omega) (hb ▸ leadByte_four a ha) ?_
  rw [continuation_succ (by split <;> split <;> omega), continuation_succ (by omega),
    continuation_succ (by omega), continuation_zero, hb, h₁, h₂, h₃, Nat.add_sub_cancel_left,
    Nat.add_sub_cancel_left, Nat.add_sub_cancel_left, show (0xF0 + a) % 2 ^ (6 - 3) = a by omega]

end characters

/-- A character is read back, whatever follows it. The cases are those of its encoding.
Source: `rollout-plugin-host/src/modes/sidecar.rs` `call` (`String::from_utf8_lossy`). Kind: L -/
theorem lossyStep_utf8EncodeChar (c : Char) : ∃ b bs, String.utf8EncodeChar c = b :: bs ∧
    ∀ rest, lossyStep b (bs ++ rest) = (c, rest) := by
  have hchar : Char.ofNat c.val.toNat = c := Char.ofNat_toNat c
  have hvalid : c.val.toNat < 0xD800 ∨ 0xDFFF < c.val.toNat ∧ c.val.toNat < 0x110000 := c.valid
  unfold String.utf8EncodeChar
  generalize c.val.toNat = v at hchar hvalid ⊢
  dsimp only
  split
  · next h =>
    refine ⟨_, _, rfl, fun rest => ?_⟩
    unfold lossyStep
    rw [toNat_ofNat_byte v (by omega), if_pos (by omega), hchar]
    rfl
  · split
    · next h =>
      refine ⟨_, _, rfl, fun rest => ?_⟩
      have h₀ := toNat_ofNat_byte (v / 64 % 0x20 + 0xc0) (by omega)
      have h₁ := toNat_ofNat_byte (v % 0x40 + 0x80) (by omega)
      have hstep := lossyStep_two rest (a := v / 64) (x := v % 64) (h₀.trans (by omega)) (by omega)
        (h₁.trans (by omega)) (by omega)
      rw [show v / 64 * 64 + v % 64 = v by omega, hchar] at hstep
      exact hstep
    · split
      · next h =>
        refine ⟨_, _, rfl, fun rest => ?_⟩
        have h₀ := toNat_ofNat_byte (v / 4096 % 0x10 + 0xe0) (by omega)
        have h₁ := toNat_ofNat_byte (v / 64 % 0x40 + 0x80) (by omega)
        have h₂ := toNat_ofNat_byte (v % 0x40 + 0x80) (by omega)
        have hstep := lossyStep_three rest (a := v / 4096) (x := v / 64 % 64) (y := v % 64)
          (h₀.trans (by omega)) (by omega) (h₁.trans (by omega)) (by omega) (by omega) (by omega)
          (h₂.trans (by omega)) (by omega)
        rw [show (v / 4096 * 64 + v / 64 % 64) * 64 + v % 64 = v by omega, hchar] at hstep
        exact hstep
      · next h =>
        refine ⟨_, _, rfl, fun rest => ?_⟩
        have h₀ := toNat_ofNat_byte (v / 262144 % 0x08 + 0xf0) (by omega)
        have h₁ := toNat_ofNat_byte (v / 4096 % 0x40 + 0x80) (by omega)
        have h₂ := toNat_ofNat_byte (v / 64 % 0x40 + 0x80) (by omega)
        have h₃ := toNat_ofNat_byte (v % 0x40 + 0x80) (by omega)
        have hstep := lossyStep_four rest (a := v / 262144) (x := v / 4096 % 64)
          (y := v / 64 % 64) (z := v % 64) (h₀.trans (by omega)) (by omega) (h₁.trans (by omega))
          (by omega) (by omega) (by omega) (h₂.trans (by omega)) (by omega) (h₃.trans (by omega))
          (by omega)
        rw [show ((v / 262144 * 64 + v / 4096 % 64) * 64 + v / 64 % 64) * 64 + v % 64 = v by omega,
          hchar] at hstep
        exact hstep

/-- Text at the front is read as it is. Source: `rollout-plugin-host/src/modes/sidecar.rs` `call`
(`String::from_utf8_lossy`). Kind: L -/
theorem toList_fromUtf8Lossy_append (cs : List Char) (rest : Bytes) :
    (fromUtf8Lossy (cs.flatMap String.utf8EncodeChar ++ rest)).toList =
      cs ++ (fromUtf8Lossy rest).toList := by
  induction cs with
  | nil => rfl
  | cons c cs ih =>
      obtain ⟨b, bs, henc, hstep⟩ := lossyStep_utf8EncodeChar c
      rw [List.flatMap_cons, henc, List.append_assoc, List.cons_append, toList_fromUtf8Lossy_cons,
        hstep, ih]
      rfl

/-! ## What stands before an ASCII byte -/

/-- Bytes outside of ASCII. Source: none: infrastructure. Kind: D -/
def High (bs : Bytes) : Prop := ∀ b ∈ bs, 0x80 ≤ b.toNat

section high

variable {hs : Bytes} {b : UInt8}

/-- Continuation bytes end at an ASCII byte, and hold six bits each.
Source: `rollout-plugin-host/src/modes/sidecar.rs` `call` (`String::from_utf8_lossy`). Kind: L -/
theorem continuation_high (hb : b.toNat < 0x80) (hs : Bytes) (code k : ℕ) : ∃ answer hs', hs' <:+ hs ∧
    (∀ c, answer = some c → code * 64 ^ k ≤ c ∧ c < (code + 1) * 64 ^ k) ∧
    ∀ rest, continuation code k 0x80 0xBF (hs ++ b :: rest) = (answer, hs' ++ b :: rest) := by
  induction hs generalizing code k with
  | nil =>
      cases k with
      | zero =>
          refine ⟨some code, [], List.suffix_refl _, ?_, fun rest => continuation_zero _ _ _ _⟩
          rintro c ⟨⟩
          omega
      | succ k =>
          refine ⟨none, [], List.suffix_refl _, by simp, fun rest => ?_⟩
          exact if_neg (by omega)
  | cons h hs ih =>
      cases k with
      | zero =>
          refine ⟨some code, h :: hs, List.suffix_refl _, ?_, fun rest => continuation_zero _ _ _ _⟩
          rintro c ⟨⟩
          omega
      | succ k =>
          by_cases hh : 0x80 ≤ h.toNat ∧ h.toNat ≤ 0xBF
          · obtain ⟨answer, hs', hsuffix, hbound, hcont⟩ := ih (code * 64 + (h.toNat - 0x80)) k
            refine ⟨answer, hs', hsuffix.trans (List.suffix_cons h hs), fun c hc => ?_, fun rest => ?_⟩
            · obtain ⟨hlo, hhi⟩ := hbound c hc
              constructor
              · calc code * 64 ^ (k + 1) = code * 64 * 64 ^ k := by ring
                  _ ≤ (code * 64 + (h.toNat - 0x80)) * 64 ^ k :=
                      Nat.mul_le_mul_right _ (Nat.le_add_right _ _)
                  _ ≤ c := hlo
              · calc c < (code * 64 + (h.toNat - 0x80) + 1) * 64 ^ k := hhi
                  _ ≤ (code + 1) * 64 * 64 ^ k := Nat.mul_le_mul_right _ (by omega)
                  _ = (code + 1) * 64 ^ (k + 1) := by ring
            · rw [List.cons_append, continuation_succ hh, hcont]
          · exact ⟨none, h :: hs, List.suffix_refl _, by simp, fun rest => if_neg hh⟩

theorem toNat_ofNat_code {code : ℕ} (h : code < 0xD800 ∨ 0xDFFF < code ∧ code < 0x110000) :
    (Char.ofNat code).toNat = code := by
  unfold Char.ofNat
  rw [dif_pos (show code.isValidChar from h)]
  rfl

/-- What a lead byte and its first continuation byte start lies outside of ASCII and is a character.
Source: `rollout-plugin-host/src/modes/sidecar.rs` `call` (`String::from_utf8_lossy`). Kind: L -/
theorem code_of_leadByte {n k lo hi : ℕ} (h : leadByte n = some (k, lo, hi)) :
    0x80 ≤ lo ∧ ∃ m, k = m + 1 ∧ ∀ x c, lo ≤ x → x ≤ hi →
      (n % 2 ^ (6 - k) * 64 + (x - 0x80)) * 64 ^ m ≤ c →
      c < (n % 2 ^ (6 - k) * 64 + (x - 0x80) + 1) * 64 ^ m →
      0x80 ≤ c ∧ (c < 0xD800 ∨ 0xDFFF < c ∧ c < 0x110000) := by
  unfold leadByte at h
  split_ifs at h <;> cases h
  · refine ⟨by omega, 0, rfl, fun x c hlo hhi hle hlt => ?_⟩
    omega
  · refine ⟨by omega, 1, rfl, fun x c hlo hhi hle hlt => ?_⟩
    omega
  · refine ⟨by omega, 1, rfl, fun x c hlo hhi hle hlt => ?_⟩
    omega
  · refine ⟨by omega, 1, rfl, fun x c hlo hhi hle hlt => ?_⟩
    omega
  · refine ⟨by omega, 2, rfl, fun x c hlo hhi hle hlt => ?_⟩
    omega
  · refine ⟨by omega, 2, rfl, fun x c hlo hhi hle hlt => ?_⟩
    omega
  · refine ⟨by omega, 2, rfl, fun x c hlo hhi hle hlt => ?_⟩
    omega

theorem lossyStep_none {h : UInt8} {bs : Bytes} (hh : 0x80 ≤ h.toNat)
    (hnone : leadByte h.toNat = none) : lossyStep h bs = (Char.ofNat 0xFFFD, bs) := by
  unfold lossyStep
  rw [if_neg (by omega), hnone]

theorem lossyStep_broken {h : UInt8} {bs rest : Bytes} {k lo hi : ℕ} (hh : 0x80 ≤ h.toNat)
    (hlead : leadByte h.toNat = some (k, lo, hi))
    (hcont : continuation (h.toNat % 2 ^ (6 - k)) k lo hi bs = (none, rest)) :
    lossyStep h bs = (Char.ofNat 0xFFFD, rest) := by
  unfold lossyStep
  rw [if_neg (by omega), hlead]
  dsimp only
  rw [hcont]

/-- Before an ASCII byte one character outside of ASCII is read. The cases are those of the byte
it starts with. Source: `rollout-plugin-host/src/modes/sidecar.rs` `call`
(`String::from_utf8_lossy`). Kind: L -/
theorem lossyStep_high {h : UInt8} (hh : 0x80 ≤ h.toNat) (hb : b.toNat < 0x80) (hs : Bytes) :
    ∃ c hs', 0x80 ≤ c.toNat ∧ hs' <:+ hs ∧
      ∀ rest, lossyStep h (hs ++ b :: rest) = (c, hs' ++ b :: rest) := by
  have hbroken : 0x80 ≤ (Char.ofNat 0xFFFD).toNat := by decide
  cases hlead : leadByte h.toNat with
  | none => exact ⟨_, hs, hbroken, List.suffix_refl _, fun rest => lossyStep_none hh hlead⟩
  | some lead =>
      obtain ⟨k, lo, hi⟩ := lead
      obtain ⟨hlo, m, rfl, hcode⟩ := code_of_leadByte hlead
      cases hs with
      | nil =>
          refine ⟨_, [], hbroken, List.suffix_refl _, fun rest => ?_⟩
          exact lossyStep_broken hh hlead (if_neg (by omega))
      | cons x hs =>
          by_cases hx : lo ≤ x.toNat ∧ x.toNat ≤ hi
          · obtain ⟨answer, hs', hsuffix, hbound, hcont⟩ :=
              continuation_high hb hs (h.toNat % 2 ^ (6 - (m + 1)) * 64 + (x.toNat - 0x80)) m
            have hall : ∀ rest, continuation (h.toNat % 2 ^ (6 - (m + 1))) (m + 1) lo hi
                (x :: hs ++ b :: rest) = (answer, hs' ++ b :: rest) := by
              intro rest
              rw [List.cons_append, continuation_succ hx, hcont]
            cases answer with
            | none =>
                exact ⟨_, hs', hbroken, hsuffix.trans (List.suffix_cons x hs),
                  fun rest => lossyStep_broken hh hlead (hall rest)⟩
            | some code =>
                obtain ⟨hle, hlt⟩ := hbound code rfl
                obtain ⟨hhigh, hvalid⟩ := hcode x.toNat code hx.1 hx.2 hle hlt
                refine ⟨Char.ofNat code, hs', ?_, hsuffix.trans (List.suffix_cons x hs),
                  fun rest => lossyStep_of_lead hh hlead (hall rest)⟩
                rw [toNat_ofNat_code hvalid]
                exact hhigh
          · exact ⟨_, x :: hs, hbroken, List.suffix_refl _,
              fun rest => lossyStep_broken hh hlead (if_neg hx)⟩

/-- Up to an ASCII byte only characters outside of ASCII are read, and they do not depend on what
follows it. Source: `rollout-plugin-host/src/modes/sidecar.rs` `call` (`String::from_utf8_lossy`).
Kind: L -/
theorem toList_fromUtf8Lossy_high (hb : b.toNat < 0x80) (hs : Bytes) (hhigh : High hs) :
    ∃ cs : List Char, (∀ c ∈ cs, 0x80 ≤ c.toNat) ∧ ∀ rest,
      (fromUtf8Lossy (hs ++ b :: rest)).toList =
        cs ++ Char.ofNat b.toNat :: (fromUtf8Lossy rest).toList := by
  induction hlength : hs.length using Nat.strong_induction_on generalizing hs with
  | h n ih =>
    cases hs with
    | nil =>
        refine ⟨[], by simp, fun rest => ?_⟩
        have hstep : lossyStep b rest = (Char.ofNat b.toNat, rest) := if_pos hb
        rw [List.nil_append, toList_fromUtf8Lossy_cons, hstep]
        rfl
    | cons h hs =>
        obtain ⟨c, hs', hc, hsuffix, hstep⟩ :=
          lossyStep_high (hhigh h List.mem_cons_self) hb hs
        have hhigh' : High hs' := fun x hx => hhigh x (List.mem_cons_of_mem _ (hsuffix.subset hx))
        have hshorter : hs'.length < n := by
          rw [← hlength, List.length_cons]
          exact Nat.lt_succ_of_le hsuffix.length_le
        obtain ⟨cs, hcs, hrest⟩ := ih _ hshorter hs' hhigh' rfl
        refine ⟨c :: cs, List.forall_mem_cons.mpr ⟨hc, hcs⟩, fun rest => ?_⟩
        rw [List.cons_append, toList_fromUtf8Lossy_cons, hstep, hrest]
        rfl

/-- A character outside of ASCII is written without ASCII bytes.
Source: none: infrastructure. Kind: L -/
theorem high_utf8EncodeChar {c : Char} (hc : 0x80 ≤ c.toNat) : High (String.utf8EncodeChar c) := by
  have hv : 0x80 ≤ c.val.toNat := hc
  have hbyte : ∀ n, 0x80 ≤ n → n < 256 → 0x80 ≤ (UInt8.ofNat n).toNat := by
    intro n hle hlt
    rw [toNat_ofNat_byte n hlt]
    exact hle
  unfold String.utf8EncodeChar
  intro b hb
  dsimp only at hb
  split_ifs at hb
  · omega
  · simp only [List.mem_cons, List.not_mem_nil, or_false] at hb
    rcases hb with rfl | rfl <;> exact hbyte _ (by omega) (by omega)
  · simp only [List.mem_cons, List.not_mem_nil, or_false] at hb
    rcases hb with rfl | rfl | rfl <;> exact hbyte _ (by omega) (by omega)
  · simp only [List.mem_cons, List.not_mem_nil, or_false] at hb
    rcases hb with rfl | rfl | rfl | rfl <;> exact hbyte _ (by omega) (by omega)

end high

/-! ## The bytes of the text -/

/-- The bytes of the text that bytes become. Source: `rollout-plugin-host/src/modes/sidecar.rs` `call`
(`String::from_utf8_lossy`). Kind: D -/
def repair (bs : Bytes) : Bytes := utf8 (fromUtf8Lossy bs)

/-- **Text at the front stays as it is.** Source: `rollout-plugin-host/src/modes/sidecar.rs` `call`
(`String::from_utf8_lossy`). Kind: P -/
theorem repair_append_of_isUtf8 {bs : Bytes} (h : IsUtf8 bs) (rest : Bytes) :
    repair (bs ++ rest) = bs ++ repair rest := by
  obtain ⟨s, rfl⟩ := h
  unfold repair
  rw [utf8_eq, utf8_eq (fromUtf8Lossy rest), utf8_eq s, toList_fromUtf8Lossy_append,
    List.flatMap_append]

theorem repair_nil : repair [] = [] := by decide

/-- **Up to an ASCII byte** what is put in place of the bytes has none of ASCII in it, and does not
depend on what follows. Source: `rollout-plugin-host/src/modes/sidecar.rs` `call`
(`String::from_utf8_lossy`). Kind: P -/
theorem repair_high {b : UInt8} (hb : b.toNat < 0x80) {hs : Bytes} (hhigh : High hs) :
    ∃ hs', High hs' ∧ ∀ rest, repair (hs ++ b :: rest) = hs' ++ b :: repair rest := by
  obtain ⟨cs, hcs, hrest⟩ := toList_fromUtf8Lossy_high hb hs hhigh
  refine ⟨cs.flatMap String.utf8EncodeChar, fun x hx => ?_, fun rest => ?_⟩
  · obtain ⟨c, hc, hxc⟩ := List.mem_flatMap.mp hx
    exact high_utf8EncodeChar (hcs c hc) x hxc
  · unfold repair
    rw [utf8_eq, utf8_eq (fromUtf8Lossy rest), hrest, List.flatMap_append, List.flatMap_cons,
      utf8EncodeChar_ascii hb]
    rfl

/-- The bytes that are kept are those of a text. Source: `rollout-plugin-host/src/modes/sidecar.rs`
`call` (`String::from_utf8_lossy`). Kind: P -/
theorem repair_eq_self_iff (bs : Bytes) : repair bs = bs ↔ IsUtf8 bs := by
  refine ⟨fun h => ⟨_, h⟩, fun h => ?_⟩
  have hnil := repair_append_of_isUtf8 h []
  rw [List.append_nil, repair_nil, List.append_nil] at hnil
  exact hnil

end Rollout.Plugin
