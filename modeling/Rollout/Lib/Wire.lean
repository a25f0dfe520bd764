import Mathlib.Data.List.Basic
import Mathlib.Tactic.Ring

/-!
# Prefix codecs for a compact binary wire format

* `Codec α` — an encoder and a decoder that reads one value off the front of a byte string; the
  law that decoding inverts encoding is a field, so a codec that is not a prefix code cannot be
  built. `Codec.enc_injective` and `Codec.enc_append_inj` are what storage keys and compare-and-swap
  on encoded rows rest on; `Codec.enc_append_lt` is what a scan in the order of encoded keys rests
  on.
* `Codec.byte`, `Codec.fixed`, `Codec.varint`, `Codec.varsint`, `Codec.option`, `Codec.seq`,
  `Text.codec`, `Codec.prod`, `Codec.refine` — the format: integers wider than a byte are
  little-endian groups of seven bits, text and sequences carry their length, fixed-size arrays do
  not, and what follows the value is left alone.
* `Codec.nat`, `Codec.list`, `Codec.string` — the same with lengths of any size;
  `Codec.nat_enc_eq_usize` says that the bytes are those of a 64-bit length where there is one.
-/

set_option linter.unusedSectionVars false

namespace Rollout.Lib

/-- Byte strings. Source: none: infrastructure. Kind: D -/
abbrev Bytes := List UInt8

/-- **A prefix codec.** Source: none: infrastructure. Kind: D -/
structure Codec (α : Type) where
  /-- The bytes of a value. -/
  enc : α → Bytes
  /-- The value at the front and what follows it. -/
  dec : Bytes → Option (α × Bytes)
  /-- Decoding inverts encoding, whatever follows. -/
  dec_enc : ∀ a rest, dec (enc a ++ rest) = some (a, rest)

namespace Codec

variable {α β : Type}

attribute [simp] dec_enc

/-- The value at the front; what follows it is ignored. Source: none: infrastructure. Kind: D -/
def fromBytes (c : Codec α) (bs : Bytes) : Option α := (c.dec bs).map Prod.fst

@[simp] theorem fromBytes_enc (c : Codec α) (a : α) : c.fromBytes (c.enc a) = some a := by
  unfold fromBytes
  rw [← List.append_nil (c.enc a), c.dec_enc]
  rfl

/-- Two encodings with anything after them are equal only when both parts are.
Source: none: infrastructure. Kind: L -/
theorem enc_append_inj (c : Codec α) {a b : α} {r s : Bytes} (h : c.enc a ++ r = c.enc b ++ s) :
    a = b ∧ r = s := by
  have hd := c.dec_enc a r
  rw [h, c.dec_enc] at hd
  simp only [Option.some.injEq, Prod.mk.injEq] at hd
  exact ⟨hd.1.symm, hd.2.symm⟩

/-- **Distinct values have distinct encodings.** Source: none: infrastructure. Kind: L -/
theorem enc_injective (c : Codec α) : Function.Injective c.enc := by
  intro a b h
  refine (c.enc_append_inj (r := []) (s := []) ?_).1
  rw [h]

@[simp] theorem enc_inj (c : Codec α) {a b : α} : c.enc a = c.enc b ↔ a = b :=
  c.enc_injective.eq_iff

/-- **No encoding starts another.** Source: none: infrastructure. Kind: L -/
@[simp] theorem enc_prefix_iff (c : Codec α) {a b : α} : c.enc a <+: c.enc b ↔ a = b := by
  constructor
  · rintro ⟨rest, h⟩
    refine (c.enc_append_inj (r := rest) (s := []) ?_).1
    rw [List.append_nil, h]
  · rintro rfl
    exact List.prefix_rfl

/-! ## The order of encodings -/

theorem append_lt_append_left (l : Bytes) {r s : Bytes} : l ++ r < l ++ s ↔ r < s := by
  induction l with
  | nil => rfl
  | cons b l ih => rw [List.cons_append, List.cons_append, List.cons_lt_cons_self, ih]

/-- What follows two byte strings counts for their order only when one of them starts the other.
Source: none: infrastructure. Kind: L -/
theorem append_lt_append {l l' : Bytes} (h : ¬ l <+: l') (h' : ¬ l' <+: l) (r s : Bytes) :
    l ++ r < l' ++ s ↔ l < l' := by
  induction l generalizing l' with
  | nil => exact absurd List.nil_prefix h
  | cons b l ih =>
      cases l' with
      | nil => exact absurd List.nil_prefix h'
      | cons b' l' =>
          rw [List.cons_prefix_cons] at h h'
          rw [List.cons_append, List.cons_append, List.cons_lt_cons_iff, List.cons_lt_cons_iff]
          apply or_congr_right
          apply and_congr_right
          rintro rfl
          exact ih (fun hl => h ⟨rfl, hl⟩) fun hl => h' ⟨rfl, hl⟩

/-- The order of two encodings does not depend on what follows them.
Source: none: infrastructure. Kind: L -/
theorem enc_append_lt (c : Codec α) {a b : α} (hne : a ≠ b) (r s : Bytes) :
    c.enc a ++ r < c.enc b ++ s ↔ c.enc a < c.enc b :=
  append_lt_append (by simpa using hne) (by simpa using Ne.symm hne) r s

/-! ## Bytes and byte strings of a known length -/

/-- One byte. Source: none: infrastructure. Kind: D -/
def byte : Codec UInt8 where
  enc b := [b]
  dec
    | [] => none
    | b :: bs => some (b, bs)
  dec_enc _ _ := rfl

/-- Exactly `n` bytes, without their length. Source: none: infrastructure. Kind: D -/
def fixed (n : Nat) : Codec { bs : Bytes // bs.length = n } where
  enc a := a.1
  dec bs := if h : n ≤ bs.length then
      some (⟨bs.take n, by rw [List.length_take, Nat.min_eq_left h]⟩, bs.drop n)
    else none
  dec_enc := by
    rintro ⟨a, rfl⟩ rest
    simp

/-! ## Composition -/

/-- One value after another. Source: none: infrastructure. Kind: D -/
def prod (ca : Codec α) (cb : Codec β) : Codec (α × β) where
  enc x := ca.enc x.1 ++ cb.enc x.2
  dec bs := (ca.dec bs).bind fun x => (cb.dec x.2).map fun y => ((x.1, y.1), y.2)
  dec_enc x rest := by simp

/-- The values of `β` written as those of `α` that `f` accepts.
Source: none: infrastructure. Kind: D -/
def refine (c : Codec α) (f : α → Option β) (g : β → α) (hfg : ∀ b, f (g b) = some b) :
    Codec β where
  enc b := c.enc (g b)
  dec bs := (c.dec bs).bind fun x => (f x.1).map fun b => (b, x.2)
  dec_enc b rest := by simp [hfg]

/-- A presence byte, then the value if there is one. Source: none: infrastructure. Kind: D -/
def option (c : Codec α) : Codec (Option α) where
  enc
    | none => [0]
    | some a => 1 :: c.enc a
  dec
    | 0 :: bs => some (none, bs)
    | 1 :: bs => (c.dec bs).map fun x => (some x.1, x.2)
    | _ => none
  dec_enc a rest := by cases a <;> simp

/-! ## Integers -/

/-- The little-endian groups of seven bits of `n`, at most `k` of them, each but the last with its
high bit set. Source: none: infrastructure. Kind: D -/
def varintEnc : Nat → Nat → Bytes
  | 0, _ => []
  | k + 1, n =>
      if n < 128 then [UInt8.ofNat n] else UInt8.ofNat (n % 128 + 128) :: varintEnc k (n / 128)

/-- Groups of seven bits read back: at most `k` of them, the `k`-th at most `last`.
Source: none: infrastructure. Kind: D -/
def varintDec (last : Nat) : Nat → Bytes → Option (Nat × Bytes)
  | 0, _ => none
  | _ + 1, [] => none
  | k + 1, b :: bs =>
      if b.toNat < 128 then
        if k = 0 ∧ last < b.toNat then none else some (b.toNat, bs)
      else (varintDec last k bs).map fun x => (b.toNat - 128 + 128 * x.1, x.2)

/-- Source: none: infrastructure. Kind: L -/
theorem varintDec_varintEnc {last : Nat} (hlast : last < 128) (k : Nat) {n : Nat}
    (hn : n < 128 ^ k * (last + 1)) (rest : Bytes) :
    varintDec last (k + 1) (varintEnc (k + 1) n ++ rest) = some (n, rest) := by
  induction k generalizing n with
  | zero =>
      have hn' : n < 128 := by omega
      have hb : (UInt8.ofNat n).toNat = n := by simp; omega
      simp only [varintEnc, hn', if_true, List.cons_append, List.nil_append, varintDec, hb]
      rw [if_neg (by omega)]
  | succ k ih =>
      unfold varintEnc
      split
      · next hlt =>
        have hb : (UInt8.ofNat n).toNat = n := by simp; omega
        simp [varintDec, hb, hlt]
      · next hge =>
        have hb : (UInt8.ofNat (n % 128 + 128)).toNat = n % 128 + 128 := by simp; omega
        have hdiv : n / 128 < 128 ^ k * (last + 1) := by
          rw [Nat.div_lt_iff_lt_mul (by omega)]
          calc n < 128 ^ (k + 1) * (last + 1) := hn
            _ = 128 ^ k * (last + 1) * 128 := by ring
        rw [List.cons_append, varintDec, hb, if_neg (by omega), ih hdiv]
        have hmod := Nat.mod_add_div n 128
        simp only [Option.map_some, Option.some.injEq, Prod.mk.injEq, and_true]
        omega

/-- Groups of seven bits: the high bit is set on all but the last, which is zero only alone.
Source: none: infrastructure. Kind: D -/
structure Groups (front : Bytes) (last : UInt8) : Prop where
  high : ∀ b ∈ front, 128 ≤ b.toNat
  low : last.toNat < 128
  minimal : front = [] ∨ last ≠ 0

theorem groups_varintEnc (k : Nat) {n : Nat} (hn : n < 128 ^ (k + 1)) :
    ∃ front last, varintEnc (k + 1) n = front ++ [last] ∧ Groups front last ∧
      (last = 0 → n = 0) := by
  have hone : ∀ n : Nat, n < 128 → ∃ front last, [UInt8.ofNat n] = front ++ [last] ∧
      Groups front last ∧ (last = 0 → n = 0) := by
    intro n hlt
    have hbyte : (UInt8.ofNat n).toNat = n := by simp; omega
    refine ⟨[], UInt8.ofNat n, rfl, ⟨by simp, by omega, .inl rfl⟩, fun h => ?_⟩
    rw [← hbyte, h]
    rfl
  induction k generalizing n with
  | zero =>
      have hlt : n < 128 := by omega
      rw [varintEnc, if_pos hlt]
      exact hone n hlt
  | succ k ih =>
      unfold varintEnc
      split
      · next hlt => exact hone n hlt
      · next hge =>
        have hdiv : n / 128 < 128 ^ (k + 1) := by
          rw [Nat.div_lt_iff_lt_mul (by omega), ← pow_succ]
          exact hn
        obtain ⟨front, last, henc, hgroups, hzero⟩ := ih hdiv
        have hbyte : (UInt8.ofNat (n % 128 + 128)).toNat = n % 128 + 128 := by simp; omega
        have hlast : last ≠ 0 := by
          intro h
          have hn0 := hzero h
          omega
        refine ⟨_ :: front, last, by rw [henc]; rfl, ⟨List.forall_mem_cons.mpr ⟨?_, hgroups.high⟩,
          hgroups.low, .inr hlast⟩, fun h => absurd h hlast⟩
        rw [hbyte]
        omega

/-- **Minimal groups are the encoding of what they are read as**, and what follows them is left.
Source: none: infrastructure. Kind: L -/
theorem varintEnc_of_varintDec {bound : Nat} {front : Bytes} {last : UInt8} (h : Groups front last)
    {k n : Nat} {rest rest' : Bytes}
    (hdec : varintDec bound k (front ++ last :: rest) = some (n, rest')) :
    varintEnc k n = front ++ [last] ∧ rest' = rest := by
  induction front generalizing k n with
  | nil =>
      cases k with
      | zero => cases hdec
      | succ k =>
          rw [List.nil_append, varintDec, if_pos h.low] at hdec
          split at hdec
          · cases hdec
          · cases hdec
            rw [varintEnc, if_pos h.low, UInt8.ofNat_toNat]
            exact ⟨rfl, rfl⟩
  | cons b front ih =>
      have hb : 128 ≤ b.toNat := h.high b List.mem_cons_self
      have hlast : last ≠ 0 := h.minimal.resolve_left (List.cons_ne_nil b front)
      have hfront : Groups front last :=
        ⟨fun x hx => h.high x (List.mem_cons_of_mem _ hx), h.low, .inr hlast⟩
      cases k with
      | zero => cases hdec
      | succ k =>
          rw [List.cons_append, varintDec, if_neg (by omega)] at hdec
          obtain ⟨⟨m, rest''⟩, hrec, hvalue⟩ := Option.map_eq_some_iff.mp hdec
          obtain ⟨rfl, rfl⟩ := Prod.mk.inj hvalue
          obtain ⟨henc, hrest⟩ := ih hfront hrec
          have hm : m ≠ 0 := by
            rintro rfl
            cases k with
            | zero => simp [varintEnc] at henc
            | succ k =>
                have hend := congrArg List.getLast? henc
                rw [List.getLast?_concat, varintEnc, if_pos (by omega)] at hend
                exact hlast (Option.some.inj hend).symm
          have hlt := b.toNat_lt
          have hmod : (b.toNat - 128 + 128 * m) % 128 + 128 = b.toNat := by omega
          have hdiv : (b.toNat - 128 + 128 * m) / 128 = m := by omega
          rw [varintEnc, if_neg (by omega), hmod, hdiv, henc, UInt8.ofNat_toNat]
          exact ⟨rfl, hrest⟩

theorem varintDec_lt {bound : Nat} {bs rest : Bytes} {k n : Nat}
    (h : varintDec bound (k + 1) bs = some (n, rest)) : n < 128 ^ k * (bound + 1) := by
  induction k generalizing n bs with
  | zero =>
      cases bs with
      | nil => cases h
      | cons b bs =>
          unfold varintDec at h
          split_ifs at h with hb hlast
          · cases h
            omega
          · simp [varintDec] at h
  | succ k ih =>
      cases bs with
      | nil => cases h
      | cons b bs =>
          unfold varintDec at h
          have hpow : 0 < 128 ^ k * (bound + 1) := Nat.mul_pos (Nat.pow_pos (by omega)) (Nat.succ_pos bound)
          have hsucc : 128 ^ (k + 1) * (bound + 1) = 128 * (128 ^ k * (bound + 1)) := by ring
          rw [hsucc]
          split_ifs at h with hb hlast
          · cases h
            omega
          · obtain ⟨⟨m, rest'⟩, hrec, hvalue⟩ := Option.map_eq_some_iff.mp h
            obtain ⟨rfl, rfl⟩ := Prod.mk.inj hvalue
            have hm := ih hrec
            have hlt := b.toNat_lt
            dsimp only
            omega

/-- How many groups of seven bits a `w`-bit integer takes at most.
Source: none: infrastructure. Kind: D -/
def varintMax (w : Nat) : Nat := (w + 6) / 7

/-- The largest last group of a `w`-bit integer. Source: none: infrastructure. Kind: D -/
def varintLast (w : Nat) : Nat := 2 ^ (w - 7 * (varintMax w - 1)) - 1

/-- **Unsigned integers of `w` bits.** Source: none: infrastructure. Kind: D -/
def varint (w : Nat) (hw : 0 < w) : Codec (BitVec w) where
  enc x := varintEnc (varintMax w) x.toNat
  dec bs := (varintDec (varintLast w) (varintMax w) bs).map fun x => (BitVec.ofNat w x.1, x.2)
  dec_enc x rest := by
    obtain ⟨k, hk⟩ : ∃ k, varintMax w = k + 1 := ⟨varintMax w - 1, by unfold varintMax; omega⟩
    have hpow : 2 ^ (w - 7 * k) - 1 + 1 = 2 ^ (w - 7 * k) :=
      Nat.sub_add_cancel Nat.one_le_two_pow
    have hle : w - 7 * k ≤ 7 := by unfold varintMax at hk; omega
    have hlast : varintLast w < 128 := by
      have : 2 ^ (w - 7 * k) ≤ 2 ^ 7 := Nat.pow_le_pow_right (by omega) hle
      unfold varintLast
      rw [hk]
      simp only [Nat.add_sub_cancel]
      omega
    have hx : x.toNat < 128 ^ k * (varintLast w + 1) := by
      unfold varintLast
      rw [hk, Nat.add_sub_cancel, hpow, show (128 : Nat) = 2 ^ 7 from rfl, ← pow_mul, ← pow_add]
      have : 7 * k + (w - 7 * k) = w := by unfold varintMax at hk; omega
      rw [this]
      exact x.isLt
    rw [hk, varintDec_varintEnc hlast k hx]
    simp

/-- A signed integer as an unsigned one, small magnitudes first: `0, -1, 1, -2, …`.
Source: none: infrastructure. Kind: D -/
def zigzag {w : Nat} (x : BitVec w) : BitVec w :=
  BitVec.ofInt w (if 0 ≤ x.toInt then 2 * x.toInt else -2 * x.toInt - 1)

/-- The inverse of `zigzag`. Source: none: infrastructure. Kind: D -/
def unzigzag {w : Nat} (z : BitVec w) : BitVec w :=
  BitVec.ofInt w (if z.toNat % 2 = 0 then (z.toNat / 2 : Int) else -(z.toNat / 2 : Int) - 1)

theorem unzigzag_zigzag {w : Nat} (x : BitVec w) : unzigzag (zigzag x) = x := by
  have hlt := BitVec.two_mul_toInt_lt (x := x)
  have hle := BitVec.le_two_mul_toInt (x := x)
  have hz : ((zigzag x).toNat : Int) = if 0 ≤ x.toInt then 2 * x.toInt else -2 * x.toInt - 1 := by
    unfold zigzag
    rw [BitVec.toNat_ofInt, Int.toNat_of_nonneg (Int.emod_nonneg _ (by simp))]
    rw [Int.emod_eq_of_lt]
    · split <;> omega
    · push_cast
      split <;> omega
  unfold unzigzag
  conv_rhs => rw [← BitVec.ofInt_toInt (x := x)]
  congr 1
  split at hz <;> split <;> omega

/-- Signed integers of `w` bits. Source: none: infrastructure. Kind: D -/
def varsint (w : Nat) (hw : 0 < w) : Codec (BitVec w) :=
  (varint w hw).refine (fun z => some (unzigzag z)) zigzag fun x => by rw [unzigzag_zigzag]

/-- 64-bit unsigned integers. Source: none: infrastructure. Kind: D -/
def u64 : Codec (BitVec 64) := varint 64 (by decide)

/-- 128-bit unsigned integers. Source: none: infrastructure. Kind: D -/
def u128 : Codec (BitVec 128) := varint 128 (by decide)

/-- Lengths and element counts of a 64-bit machine. Source: none: infrastructure. Kind: D -/
def usize : Codec (BitVec 64) := u64

/-- A length is written on minimal groups. Source: none: infrastructure. Kind: L -/
theorem groups_usize (x : BitVec 64) : ∃ front last, usize.enc x = front ++ [last] ∧
    Groups front last := by
  obtain ⟨front, last, henc, hgroups, -⟩ := groups_varintEnc 9 (x.isLt.trans (by decide))
  exact ⟨front, last, henc, hgroups⟩

/-- Minimal groups that are read as a length are how it is written.
Source: none: infrastructure. Kind: L -/
theorem usize_enc_of_dec {front : Bytes} {last : UInt8} (h : Groups front last) {x : BitVec 64}
    {rest rest' : Bytes} (hdec : usize.dec (front ++ last :: rest) = some (x, rest')) :
    usize.enc x = front ++ [last] ∧ rest' = rest := by
  obtain ⟨⟨n, rest''⟩, hgroups, hvalue⟩ := Option.map_eq_some_iff.mp hdec
  obtain ⟨rfl, rfl⟩ := Prod.mk.inj hvalue
  obtain ⟨henc, hrest⟩ := varintEnc_of_varintDec h hgroups
  have hn : n < 2 ^ 64 := (varintDec_lt (k := 9) hgroups).trans_le (by decide)
  refine ⟨?_, hrest⟩
  rw [← henc]
  show varintEnc 10 (BitVec.ofNat 64 n).toNat = varintEnc 10 n
  rw [BitVec.toNat_ofNat, Nat.mod_eq_of_lt hn]

theorem width32_pos : 0 < 32 := by decide

/-- Variant numbers. Source: none: infrastructure. Kind: D -/
def tag : Codec (BitVec 32) := varint 32 width32_pos

/-- A truth value is one byte. Source: none: infrastructure. Kind: D -/
def bool : Codec Bool :=
  byte.refine (fun b => if b = 0 then some false else if b = 1 then some true else none)
    (fun b => if b then 1 else 0) (by decide)

/-- The groups of seven bits of a number of any size.
Source: none: infrastructure. Kind: D -/
def natEnc (n : Nat) : Bytes := varintEnc (n + 1) n

/-- Groups of seven bits read back, as many as there are. Source: none: infrastructure. Kind: D -/
def natDec : Bytes → Option (Nat × Bytes)
  | [] => none
  | b :: bs =>
      if b.toNat < 128 then some (b.toNat, bs)
      else (natDec bs).map fun x => (b.toNat - 128 + 128 * x.1, x.2)

theorem natDec_varintEnc (k : Nat) {n : Nat} (hn : n < 128 ^ (k + 1)) (rest : Bytes) :
    natDec (varintEnc (k + 1) n ++ rest) = some (n, rest) := by
  induction k generalizing n with
  | zero =>
      have hb : (UInt8.ofNat n).toNat = n := by simp; omega
      have hlt : n < 128 := by omega
      simp [varintEnc, natDec, hb, hlt]
  | succ k ih =>
      unfold varintEnc
      split
      · next hlt =>
        have hb : (UInt8.ofNat n).toNat = n := by simp; omega
        simp [natDec, hb, hlt]
      · next hge =>
        have hb : (UInt8.ofNat (n % 128 + 128)).toNat = n % 128 + 128 := by simp; omega
        have hdiv : n / 128 < 128 ^ (k + 1) := by
          rw [Nat.div_lt_iff_lt_mul (by omega), ← pow_succ]
          exact hn
        rw [List.cons_append, natDec, hb, if_neg (by omega), ih hdiv]
        have hmod := Nat.mod_add_div n 128
        simp only [Option.map_some, Option.some.injEq, Prod.mk.injEq, and_true]
        omega

/-- **Natural numbers**: a counter without its width. Source: none: infrastructure. Kind: D -/
def nat : Codec Nat where
  enc := natEnc
  dec := natDec
  dec_enc n rest := natDec_varintEnc n (Nat.lt_pow_self (by omega) |>.trans
    (Nat.pow_lt_pow_right (by omega) (Nat.lt_succ_self n))) rest

/-- The width of a counter does not show in the bytes of its values.
Source: none: infrastructure. Kind: L -/
theorem varintEnc_eq_natEnc (k : Nat) {n : Nat} (hn : n < 128 ^ (k + 1)) :
    varintEnc (k + 1) n = natEnc n := by
  have hdec : ∀ k m : Nat, n < 128 ^ (k + 1) → k ≤ m → varintEnc (k + 1) n = varintEnc (m + 1) n := by
    clear hn
    intro k
    induction k generalizing n with
    | zero =>
        intro m hn _
        have hlt : n < 128 := by omega
        simp [varintEnc, hlt]
    | succ k ih =>
        intro m hn hm
        obtain ⟨m, rfl⟩ : ∃ m', m = m' + 1 := ⟨m - 1, by omega⟩
        rw [varintEnc, varintEnc.eq_def (m + 1 + 1)]
        simp only
        split
        · rfl
        · have hdiv : n / 128 < 128 ^ (k + 1) := by
            rw [Nat.div_lt_iff_lt_mul (by omega), ← pow_succ]
            exact hn
          rw [ih m hdiv (by omega)]
  have hself : n < 128 ^ (n + 1) := (Nat.lt_pow_self (by omega)).trans
    (Nat.pow_lt_pow_right (by omega) (Nat.lt_succ_self n))
  rw [natEnc]
  rcases Nat.le_total k n with h | h
  · exact hdec k n hn h
  · exact (hdec n k hself h).symm

/-- A natural number below `2 ^ 64` is written as a 64-bit integer is.
Source: none: infrastructure. Kind: L -/
theorem nat_enc_eq_usize {n : Nat} (hn : n < 2 ^ 64) : nat.enc n = usize.enc (BitVec.ofNat 64 n) := by
  have hmod : (BitVec.ofNat 64 n).toNat = n := by
    rw [BitVec.toNat_ofNat, Nat.mod_eq_of_lt hn]
  have hlt : n < 128 ^ 10 := hn.trans (by decide)
  exact (varintEnc_eq_natEnc 9 hlt).symm.trans (congrArg (varintEnc 10) hmod.symm)

end Codec

/-! ## Sequences, byte strings and text -/

/-- A sequence that fits in memory. Source: none: infrastructure. Kind: D -/
abbrev Sized (α : Type) := { l : List α // l.length < 2 ^ 64 }

namespace Codec

variable {α : Type}

/-- `n` values one after another. Source: none: infrastructure. Kind: D -/
def seqDec (c : Codec α) : Nat → Bytes → Option (List α × Bytes)
  | 0, bs => some ([], bs)
  | n + 1, bs => (c.dec bs).bind fun x => (seqDec c n x.2).map fun y => (x.1 :: y.1, y.2)

/-- Source: none: infrastructure. Kind: L -/
@[simp] theorem seqDec_flatMap (c : Codec α) (l : List α) (rest : Bytes) :
    seqDec c l.length (l.flatMap c.enc ++ rest) = some (l, rest) := by
  induction l with
  | nil => rfl
  | cons a l ih =>
      rw [List.flatMap_cons, List.append_assoc, List.length_cons, seqDec, c.dec_enc]
      simp [ih]

/-- Bytes are read as they stand. Source: none: infrastructure. Kind: L -/
theorem seqDec_byte {n : Nat} {bs l rest : Bytes} (h : seqDec byte n bs = some (l, rest)) :
    bs = l ++ rest ∧ l.length = n := by
  induction n generalizing bs l with
  | zero =>
      cases h
      exact ⟨rfl, rfl⟩
  | succ n ih =>
      cases bs with
      | nil => cases h
      | cons b bs =>
          obtain ⟨⟨l', rest'⟩, hrec, hvalue⟩ := Option.map_eq_some_iff.mp h
          obtain ⟨rfl, rfl⟩ := Prod.mk.inj hvalue
          obtain ⟨hbs, hlength⟩ := ih hrec
          exact ⟨congrArg (List.cons b) hbs, congrArg Nat.succ hlength⟩

/-- **A sequence behind its number of elements.** Source: none: infrastructure. Kind: D -/
def seq (c : Codec α) : Codec (Sized α) where
  enc l := usize.enc (BitVec.ofNat 64 l.1.length) ++ l.1.flatMap c.enc
  dec bs := (usize.dec bs).bind fun n =>
    (seqDec c n.1.toNat n.2).bind fun x =>
      if h : x.1.length < 2 ^ 64 then some (⟨x.1, h⟩, x.2) else none
  dec_enc := by
    rintro ⟨l, hl⟩ rest
    have hn : (BitVec.ofNat 64 l.length).toNat = l.length := by
      rw [BitVec.toNat_ofNat, Nat.mod_eq_of_lt hl]
    rw [List.append_assoc, dec_enc, Option.bind_some, hn, seqDec_flatMap]
    exact dif_pos hl

/-- A byte string behind its length. Source: none: infrastructure. Kind: D -/
def bytes : Codec (Sized UInt8) := seq byte

/-- A sequence of any length behind its number of elements.
Source: none: infrastructure. Kind: D -/
def list (c : Codec α) : Codec (List α) where
  enc l := nat.enc l.length ++ l.flatMap c.enc
  dec bs := (nat.dec bs).bind fun n => seqDec c n.1 n.2
  dec_enc l rest := by
    rw [List.append_assoc, dec_enc, Option.bind_some, seqDec_flatMap]

/-- UTF-8 text of any length behind its length in bytes. Source: none: infrastructure. Kind: D -/
def string : Codec String :=
  (list byte).refine
    (fun bs => if h : (ByteArray.mk bs.toArray).IsValidUTF8 then
      some (String.ofByteArray (ByteArray.mk bs.toArray) h) else none)
    (fun s => s.toUTF8.data.toList)
    fun s => by
      have h : (ByteArray.mk s.toUTF8.data.toList.toArray).IsValidUTF8 := s.isValidUTF8
      rw [dif_pos h]
      rfl

end Codec

/-- **Text that fits in memory.** Source: none: infrastructure. Kind: D -/
structure Text where
  /-- The text. -/
  str : String
  fits : str.toUTF8.data.toList.length < 2 ^ 64
deriving DecidableEq

namespace Text

/-- The UTF-8 bytes of a text. Source: none: infrastructure. Kind: D -/
def utf8 (t : Text) : Bytes := t.str.toUTF8.data.toList

/-- The text with the given UTF-8 bytes. Source: none: infrastructure. Kind: D -/
def ofUtf8 (bs : Sized UInt8) : Option Text :=
  if h : (ByteArray.mk bs.1.toArray).IsValidUTF8 then
    some ⟨String.ofByteArray (ByteArray.mk bs.1.toArray) h, bs.2⟩
  else none

@[simp] theorem ofUtf8_utf8 (t : Text) : ofUtf8 ⟨t.utf8, t.fits⟩ = some t := by
  have h : (ByteArray.mk t.utf8.toArray).IsValidUTF8 := t.str.isValidUTF8
  unfold ofUtf8
  rw [dif_pos h]
  rfl

theorem utf8_injective : Function.Injective utf8 := by
  rintro ⟨s, hs⟩ ⟨t, ht⟩ h
  have hst : ofUtf8 ⟨utf8 ⟨s, hs⟩, hs⟩ = ofUtf8 ⟨utf8 ⟨t, ht⟩, ht⟩ := by
    congr 2
  rw [ofUtf8_utf8, ofUtf8_utf8] at hst
  exact Option.some.inj hst

/-- UTF-8 text behind its length in bytes. Source: none: infrastructure. Kind: D -/
def codec : Codec Text :=
  Codec.bytes.refine ofUtf8 (fun t => ⟨t.utf8, t.fits⟩) ofUtf8_utf8

theorem utf8_of_ofUtf8 {bs : Sized UInt8} {t : Text} (h : ofUtf8 bs = some t) : t.utf8 = bs.1 := by
  unfold ofUtf8 at h
  split at h
  · cases h
    rfl
  · cases h

/-- A text read stands behind a length that is its own. Source: none: infrastructure. Kind: L -/
theorem exists_of_codec_dec {bs rest : Bytes} {t : Text} (h : codec.dec bs = some (t, rest)) :
    ∃ n, Codec.usize.dec bs = some (n, t.utf8 ++ rest) ∧ n = BitVec.ofNat 64 t.utf8.length := by
  obtain ⟨⟨⟨l, hl⟩, rest'⟩, hbytes, htext⟩ := Option.bind_eq_some_iff.mp h
  obtain ⟨t', ht', hvalue⟩ := Option.map_eq_some_iff.mp htext
  obtain ⟨rfl, rfl⟩ := Prod.mk.inj hvalue
  obtain ⟨⟨n, body⟩, hn, hseq⟩ := Option.bind_eq_some_iff.mp hbytes
  obtain ⟨⟨l', rest''⟩, hread, hsized⟩ := Option.bind_eq_some_iff.mp hseq
  split at hsized
  · cases hsized
    obtain ⟨hbody, hlength⟩ := Codec.seqDec_byte hread
    have hutf8 := utf8_of_ofUtf8 ht'
    refine ⟨n, ?_, ?_⟩
    · rw [hn, hutf8]
      exact congrArg (fun rest => some (n, rest)) hbody
    · rw [hutf8, hlength, BitVec.ofNat_toNat, BitVec.setWidth_eq]
  · cases hsized

end Text

end Rollout.Lib
