import Rollout.Core.Ids

/-!
# Which texts are read as content ids

* `ContentId.ofText` — `ContentId::from_str` of a text; `Exact` — it reads 64 hexadecimal digits and
  nothing else, as the id that is displayed in lower case, and it ends without a panic.
* `afterUnread` — what stands behind the first two bytes that the loop does not read: it reads two
  digits, and also a plus sign and a digit.
* `exact_iff` — the texts at which the parser is exact.
-/

set_option linter.unusedSectionVars false

namespace Rollout.Core

open Rollout.Lib

namespace ContentId

/-! ## Texts -/

/-- A content id read from a text. Source: `rollout-core/src/ids.rs` `FromStr`. Kind: D -/
def ofText (s : String) : Except ParseFailure ContentId := fromStr s.toUTF8.data.toList

/-- A hexadecimal digit, in either case. Source: none: infrastructure. Kind: D -/
def HexDigit (c : Char) : Prop :=
  48 ≤ c.toNat ∧ c.toNat ≤ 57 ∨ 97 ≤ c.toNat ∧ c.toNat ≤ 102 ∨ 65 ≤ c.toNat ∧ c.toNat ≤ 70

/-- 64 hexadecimal digits. Source: `rollout-core/src/ids.rs` `FromStr` ("expected 64 hex chars").
Kind: D -/
def Hex64 (s : String) : Prop := s.toList.length = 64 ∧ ∀ c ∈ s.toList, HexDigit c

/-- **The parser is exact at a text**: it does not panic, it accepts the text exactly when it is 64
hexadecimal digits, and an id it reads is displayed as the text in lower case.
Source: `rollout-core/src/ids.rs` `FromStr` ("expected 64 hex chars"), `Display`. Kind: D -/
def Exact (s : String) : Prop :=
  ofText s ≠ .error .panic ∧ ((∃ id, ofText s = .ok id) ↔ Hex64 s) ∧
    ∀ id, ofText s = .ok id → id.display = s.toLower

/-- A byte that is a hexadecimal digit. Source: none: infrastructure. Kind: D -/
def HexByte (b : UInt8) : Prop :=
  48 ≤ b.toNat ∧ b.toNat ≤ 57 ∨ 97 ≤ b.toNat ∧ b.toNat ≤ 102 ∨ 65 ≤ b.toNat ∧ b.toNat ≤ 70

instance : DecidablePred HexByte := fun _ => inferInstanceAs (Decidable (_ ∨ _))

/-- Two bytes the loop reads: two digits, or a plus sign and a digit.
Source: `rollout-core/src/ids.rs` `FromStr` (`u8::from_str_radix`). Kind: D -/
def PairRead (a b : UInt8) : Prop := (HexByte a ∨ a = 43) ∧ HexByte b

instance (a b : UInt8) : Decidable (PairRead a b) := inferInstanceAs (Decidable (_ ∧ _))

/-- The bytes behind the first two that are not read. Source: `rollout-core/src/ids.rs` `FromStr`.
Kind: D -/
def afterUnread : Bytes → Option Bytes
  | a :: b :: rest => if PairRead a b then afterUnread rest else some rest
  | _ => none

/-- A character ends where the bytes begin. Source: none: infrastructure. Kind: D -/
def AtBoundary (bs : Bytes) : Prop := bs.head?.map isContinuation ≠ some true

instance (bs : Bytes) : Decidable (AtBoundary bs) := inferInstanceAs (Decidable (_ ≠ _))

/-- **Where the parser is exact**: the text is not 64 bytes long, or it is 64 hexadecimal digits, or
a character ends behind the first two bytes that are not two digits, or a plus sign and a digit.
Source: `rollout-core/src/ids.rs` `FromStr`. Kind: D -/
def ReadExactly (s : String) : Prop :=
  s.toUTF8.data.toList.length ≠ 64 ∨ Hex64 s ∨
    ∃ rest, afterUnread s.toUTF8.data.toList = some rest ∧ AtBoundary rest

/-! ## The bytes of a text -/

theorem utf8EncodeChar_cases (c : Char) :
    (∃ b, b.toNat < 128 ∧ String.utf8EncodeChar c = [b] ∧ c.toNat = b.toNat) ∨
      ∃ b bs, 192 ≤ b.toNat ∧ String.utf8EncodeChar c = b :: bs := by
  have hbyte : ∀ n < 256, (UInt8.ofNat n).toNat = n := fun n hn => by
    rw [UInt8.toNat_ofNat', Nat.mod_eq_of_lt hn]
  have hvalid : c.val.toNat < 0xD800 ∨ 0xDFFF < c.val.toNat ∧ c.val.toNat < 0x110000 := c.valid
  unfold String.utf8EncodeChar
  dsimp only
  split
  · refine .inl ⟨_, ?_, rfl, ?_⟩
    · rw [hbyte _ (by omega)]
      omega
    · rw [hbyte _ (by omega)]
      rfl
  · split
    · exact .inr ⟨_, _, by rw [hbyte _ (by omega)]; omega, rfl⟩
    · split
      · exact .inr ⟨_, _, by rw [hbyte _ (by omega)]; omega, rfl⟩
      · exact .inr ⟨_, _, by rw [hbyte _ (by omega)]; omega, rfl⟩

/-- The bytes of some characters. Source: none: infrastructure. Kind: D -/
def IsText (bs : Bytes) : Prop := ∃ cs : List Char, cs.flatMap String.utf8EncodeChar = bs

theorem toUTF8_eq (s : String) :
    s.toUTF8.data.toList = s.toList.flatMap String.utf8EncodeChar := by
  have henc : (String.ofList s.toList).toUTF8 = s.toList.utf8Encode := String.toByteArray_ofList
  rw [String.ofList_toList] at henc
  rw [henc, List.utf8Encode, List.data_toByteArray]

theorem isText_toUTF8 (s : String) : IsText s.toUTF8.data.toList := ⟨s.toList, (toUTF8_eq s).symm⟩

theorem IsText.atBoundary {bs : Bytes} (h : IsText bs) : AtBoundary bs := by
  obtain ⟨cs, rfl⟩ := h
  cases cs with
  | nil => exact nofun
  | cons c cs =>
      unfold AtBoundary
      rcases utf8EncodeChar_cases c with ⟨b, hb, henc, -⟩ | ⟨b, bs, hb, henc⟩
      · simp [henc, isContinuation_ascii hb]
      · simp [henc, isContinuation]
        omega

/-- Behind an ASCII byte a character begins. Source: none: infrastructure. Kind: L -/
theorem IsText.tail {b : UInt8} {bs : Bytes} (h : IsText (b :: bs)) (hb : b.toNat < 128) :
    IsText bs := by
  obtain ⟨cs, hcs⟩ := h
  cases cs with
  | nil => cases hcs
  | cons c cs =>
      rcases utf8EncodeChar_cases c with ⟨x, -, henc, -⟩ | ⟨x, xs, hx, henc⟩
      · rw [List.flatMap_cons, henc] at hcs
        exact ⟨cs, (List.cons.inj hcs).2⟩
      · rw [List.flatMap_cons, henc] at hcs
        have heq : x = b := (List.cons.inj hcs).1
        rw [heq] at hx
        omega

/-! ## Pairs -/

/-- The lower case of a byte. Source: none: infrastructure. Kind: D -/
def lowerByte (b : UInt8) : UInt8 := if 65 ≤ b.toNat ∧ b.toNat ≤ 70 then b + 32 else b

theorem value_of_hexByte {b : UInt8} (h : HexByte b) :
    ∃ x < 16, base16.value b = some x ∧ base16.digit x = lowerByte b := by
  have hall : ∀ n < 256, HexByte (UInt8.ofNat n) → ∃ x < 16,
      base16.value (UInt8.ofNat n) = some x ∧ base16.digit x = lowerByte (UInt8.ofNat n) := by
    decide +kernel
  have hbyte := hall b.toNat b.toNat_lt
  rw [UInt8.ofNat_toNat] at hbyte
  exact hbyte h

theorem value_of_not_hexByte {b : UInt8} (h : ¬ HexByte b) : base16.value b = none := by
  unfold HexByte at h
  show (if _ then _ else if _ then _ else if _ then _ else none) = none
  rw [if_neg (by omega), if_neg (by omega), if_neg (by omega)]

theorem not_hexByte_plus : ¬ HexByte 43 := by decide

variable {a b : UInt8}

/-- Two digits are read as the byte that is displayed by them, in lower case.
Source: `rollout-core/src/ids.rs` `FromStr`, `Display`. Kind: L -/
theorem hexByte_digits (ha : HexByte a) (hb : HexByte b) :
    ∃ v, hexByte a b = some v ∧ base16.render 2 v.toNat = [lowerByte a, lowerByte b] := by
  obtain ⟨x, hx, hxa, hdx⟩ := value_of_hexByte ha
  obtain ⟨y, hy, hyb, hdy⟩ := value_of_hexByte hb
  have hplus : a ≠ 43 := fun h => not_hexByte_plus (h ▸ ha)
  have hparse : base16.parse [a, b] = some (x * 16 + y) := by
    have hbase : base16.base = 16 := rfl
    simp [Radix.parse, Radix.parseFrom, hxa, hyb, hbase]
  refine ⟨UInt8.ofNat (x * 16 + y), ?_, ?_⟩
  · rw [hexByte, if_neg hplus, hparse]
    rfl
  · have hval : (UInt8.ofNat (x * 16 + y)).toNat = x * 16 + y := by
      rw [UInt8.toNat_ofNat', Nat.mod_eq_of_lt (by omega)]
    rw [hval, ← hdx, ← hdy]
    show [base16.digit ((x * 16 + y) / 16 % 16), base16.digit ((x * 16 + y) % 16)] = _
    rw [show (x * 16 + y) / 16 % 16 = x by omega, show (x * 16 + y) % 16 = y by omega]

theorem hexByte_of_pairRead (h : PairRead a b) : ∃ v, hexByte a b = some v := by
  obtain ⟨ha | rfl, hb⟩ := h
  · obtain ⟨v, hv, -⟩ := hexByte_digits ha hb
    exact ⟨v, hv⟩
  · obtain ⟨y, -, hyb, -⟩ := value_of_hexByte hb
    exact ⟨UInt8.ofNat y, by rw [hexByte, if_pos rfl, hyb]; rfl⟩

theorem hexByte_of_not_pairRead (h : ¬ PairRead a b) : hexByte a b = none := by
  unfold PairRead at h
  unfold hexByte
  split
  · next hplus =>
    have hb : ¬ HexByte b := fun hb => h ⟨.inr hplus, hb⟩
    rw [value_of_not_hexByte hb]
    rfl
  · next hplus =>
    by_cases ha : HexByte a
    · have hb : ¬ HexByte b := fun hb => h ⟨.inl ha, hb⟩
      simp [Radix.parse, Radix.parseFrom, value_of_not_hexByte hb]
    · simp [Radix.parse, Radix.parseFrom, value_of_not_hexByte ha]

theorem HexByte.ascii (h : HexByte b) : b.toNat < 128 := by
  unfold HexByte at h
  omega

theorem PairRead.ascii (h : PairRead a b) : a.toNat < 128 ∧ b.toNat < 128 := by
  obtain ⟨ha | rfl, hb⟩ := h
  · exact ⟨ha.ascii, hb.ascii⟩
  · exact ⟨by decide, hb.ascii⟩

/-! ## The loop -/

/-- The loop where a character begins. Source: `rollout-core/src/ids.rs` `FromStr`. Kind: L -/
theorem parsePairs_cons {rest : Bytes} (h : AtBoundary (a :: b :: rest)) :
    parsePairs (a :: b :: rest) =
      if ¬ AtBoundary rest then .error .panic
      else match hexByte a b with
        | none => .error (.err "invalid digit found in string")
        | some v => (parsePairs rest).map (v :: ·) := by
  have ha : isContinuation a = false := by simpa [AtBoundary] using h
  rw [parsePairs, ha, Bool.false_or]
  by_cases hb : AtBoundary rest
  · have hnext : (rest.head?.map isContinuation).getD false = false := by
      unfold AtBoundary at hb
      cases hhead : rest.head?.map isContinuation with
      | none => rfl
      | some c =>
          cases c with
          | false => rfl
          | true => exact absurd hhead hb
    rw [if_neg (not_not.mpr hb), hnext]
    rfl
  · have hnext : rest.head?.map isContinuation = some true := not_not.mp hb
    rw [if_pos hb, hnext]
    rfl

/-- **What the loop does**: it reads all the bytes, or it ends at the first two that it does not
read, with an error or, inside a character, with a panic. The induction is on the pairs.
Source: `rollout-core/src/ids.rs` `FromStr`. Kind: P -/
theorem parsePairs_text {n : Nat} {bs : Bytes} (h : IsText bs) (hlen : bs.length = 2 * n) :
    (afterUnread bs = none ∧ ∃ out, parsePairs bs = .ok out ∧ out.length = n) ∨
      ∃ rest, afterUnread bs = some rest ∧ parsePairs bs =
        .error (if AtBoundary rest then .err "invalid digit found in string" else .panic) := by
  induction n generalizing bs with
  | zero =>
      rw [List.length_eq_zero_iff.mp hlen]
      exact .inl ⟨rfl, [], rfl, rfl⟩
  | succ n ih =>
      rcases bs with - | ⟨a, - | ⟨b, rest⟩⟩
      · simp at hlen
      · simp at hlen
        omega
      have hcons := parsePairs_cons h.atBoundary
      by_cases hread : PairRead a b
      · obtain ⟨ha, hb⟩ := hread.ascii
        have hrest : IsText rest := (h.tail ha).tail hb
        obtain ⟨v, hv⟩ := hexByte_of_pairRead hread
        rw [if_neg (not_not.mpr hrest.atBoundary), hv] at hcons
        rw [afterUnread, if_pos hread, hcons]
        have hlength : rest.length = 2 * n := by
          simp only [List.length_cons] at hlen
          omega
        rcases ih hrest hlength with ⟨hunread, out, hout, hn⟩ | ⟨rest', hunread, herr⟩
        · exact .inl ⟨hunread, v :: out, by rw [hout]; rfl, by rw [List.length_cons, hn]⟩
        · exact .inr ⟨rest', hunread, by rw [herr]; rfl⟩
      · rw [hexByte_of_not_pairRead hread] at hcons
        refine .inr ⟨rest, by rw [afterUnread, if_neg hread], ?_⟩
        rw [hcons]
        by_cases hb : AtBoundary rest
        · rw [if_neg (not_not.mpr hb), if_pos hb]
        · rw [if_pos hb, if_neg hb]

/-! ## Digits -/

theorem asciiString_toLower {bs : Bytes} (h : ∀ b ∈ bs, HexByte b) :
    (asciiString bs).toLower = asciiString (bs.map lowerByte) := by
  have hall : ∀ n < 256, HexByte (UInt8.ofNat n) → (Char.ofNat (UInt8.ofNat n).toNat).toLower =
      Char.ofNat (lowerByte (UInt8.ofNat n)).toNat := by decide +kernel
  unfold asciiString String.toLower
  rw [String.map_eq_internal, String.toList_ofList, List.map_map, List.map_map]
  refine congrArg String.ofList (List.map_congr_left fun b hb => ?_)
  have hbyte := hall b.toNat b.toNat_lt
  rw [UInt8.ofNat_toNat] at hbyte
  exact hbyte (h b hb)

/-- A text of digits is its bytes. Source: none: infrastructure. Kind: L -/
theorem asciiString_of_hexDigits {s : String} (h : ∀ c ∈ s.toList, HexDigit c) :
    asciiString (s.toList.map fun c => UInt8.ofNat c.toNat) = s ∧
      ∀ b ∈ s.toList.map fun c => UInt8.ofNat c.toNat, HexByte b := by
  have hnat : ∀ c ∈ s.toList, (UInt8.ofNat c.toNat).toNat = c.toNat := by
    intro c hc
    have hdigit := h c hc
    unfold HexDigit at hdigit
    rw [UInt8.toNat_ofNat', Nat.mod_eq_of_lt (by omega)]
  constructor
  · unfold asciiString
    rw [List.map_map, List.map_congr_left (g := id), List.map_id, String.ofList_toList]
    intro c hc
    rw [Function.comp_apply, hnat c hc, Char.ofNat_toNat]
    rfl
  · intro b hb
    obtain ⟨c, hc, rfl⟩ := List.mem_map.mp hb
    have hdigit := h c hc
    unfold HexDigit at hdigit
    unfold HexByte
    rw [hnat c hc]
    exact hdigit

theorem toUTF8_of_hexDigits {s : String} (h : ∀ c ∈ s.toList, HexDigit c) :
    s.toUTF8.data.toList = s.toList.map fun c => UInt8.ofNat c.toNat := by
  obtain ⟨htext, hhex⟩ := asciiString_of_hexDigits h
  have hutf8 := utf8_asciiString fun b hb => (hhex b hb).ascii
  rwa [htext] at hutf8

/-- **64 digits are 64 bytes that are digits.** Source: none: infrastructure. Kind: L -/
theorem hex64_iff (s : String) : Hex64 s ↔ s.toUTF8.data.toList.length = 64 ∧
    ∀ b ∈ s.toUTF8.data.toList, HexByte b := by
  constructor
  · rintro ⟨hlen, hdigits⟩
    rw [toUTF8_of_hexDigits hdigits, List.length_map]
    exact ⟨hlen, (asciiString_of_hexDigits hdigits).2⟩
  · rintro ⟨hlen, hhex⟩
    have hdigits : ∀ c ∈ s.toList, HexDigit c := by
      intro c hc
      rw [toUTF8_eq] at hhex
      rcases utf8EncodeChar_cases c with ⟨b, -, henc, hcb⟩ | ⟨b, bs, hb, henc⟩
      · have hmem := hhex b (List.mem_flatMap.mpr ⟨c, hc, henc ▸ List.mem_singleton_self b⟩)
        unfold HexByte at hmem
        unfold HexDigit
        rw [hcb]
        exact hmem
      · have hmem := hhex b (List.mem_flatMap.mpr ⟨c, hc, henc ▸ List.mem_cons_self⟩)
        have hlt := hmem.ascii
        omega
    rw [toUTF8_of_hexDigits hdigits, List.length_map] at hlen
    exact ⟨hlen, hdigits⟩

theorem Hex64.toLower {s : String} (h : Hex64 s) :
    asciiString (s.toUTF8.data.toList.map lowerByte) = s.toLower := by
  obtain ⟨htext, hhex⟩ := asciiString_of_hexDigits h.2
  rw [toUTF8_of_hexDigits h.2, ← asciiString_toLower hhex, htext]

/-- Digits are read. Source: `rollout-core/src/ids.rs` `FromStr`. Kind: L -/
theorem afterUnread_of_hexByte {n : Nat} {bs : Bytes} (hlen : bs.length = 2 * n)
    (h : ∀ b ∈ bs, HexByte b) : afterUnread bs = none := by
  induction n generalizing bs with
  | zero =>
      rw [List.length_eq_zero_iff.mp hlen]
      rfl
  | succ n ih =>
      rcases bs with - | ⟨a, - | ⟨b, rest⟩⟩
      · rfl
      · rfl
      have hread : PairRead a b := ⟨.inl (h a (by simp)), h b (by simp)⟩
      rw [afterUnread, if_pos hread]
      refine ih ?_ fun c hc => h c (by simp [hc])
      simp only [List.length_cons] at hlen
      omega

/-- **What is read from digits is displayed by them**, in lower case.
Source: `rollout-core/src/ids.rs` `FromStr`, `Display`. Kind: L -/
theorem render_parsePairs {n : Nat} {bs out : Bytes} (hlen : bs.length = 2 * n)
    (h : ∀ b ∈ bs, HexByte b) (hout : parsePairs bs = .ok out) :
    (out.flatMap fun b => base16.render 2 b.toNat) = bs.map lowerByte := by
  induction n generalizing bs out with
  | zero =>
      rw [List.length_eq_zero_iff.mp hlen] at hout ⊢
      cases hout
      rfl
  | succ n ih =>
      rcases bs with - | ⟨a, - | ⟨b, rest⟩⟩
      · simp at hlen
      · simp at hlen
        omega
      obtain ⟨v, hv, hrender⟩ := hexByte_digits (h a (by simp)) (h b (by simp))
      have hrest : ∀ c ∈ rest, HexByte c := fun c hc => h c (by simp [hc])
      simp only [parsePairs, hv] at hout
      split at hout
      · cases hout
      cases hparse : parsePairs rest with
      | error e =>
          rw [hparse] at hout
          cases hout
      | ok out' =>
          rw [hparse] at hout
          cases hout
          have hlength : rest.length = 2 * n := by
            simp only [List.length_cons] at hlen
            omega
          rw [List.flatMap_cons, hrender, ih hlength hrest hparse]
          rfl

/-! ## The parser -/

/-- A content id is read back from what it displays. Source: `rollout-core/src/ids.rs` `Display`,
`FromStr`. Kind: L -/
theorem ofText_display (id : ContentId) : ofText id.display = .ok id := by
  rw [ofText, utf8_display, fromStr_chars]

/-- **Where the parser is exact.** The ids are read back from what they display; and a text is read
exactly unless the loop reads a plus sign in it or cuts a character in two.
Source: `rollout-core/src/ids.rs` `FromStr`, `Display`. Kind: C -/
theorem exact_iff (id : ContentId) (s : String) :
    ofText id.display = .ok id ∧ (Exact s ↔ ReadExactly s) := by
  refine ⟨ofText_display id, ?_⟩
  have htext := isText_toUTF8 s
  have hhex := hex64_iff s
  have hlower := Hex64.toLower (s := s)
  unfold Exact ReadExactly ofText fromStr
  generalize s.toUTF8.data.toList = bs at htext hhex hlower ⊢
  by_cases hlen : bs.length = 64
  · rw [if_neg (not_not.mpr hlen)]
    rcases parsePairs_text htext (n := 32) hlen with ⟨hread, out, hout, hn⟩ | ⟨rest, hunread, herr⟩
    · have hid : ((parsePairs bs).bind fun out => if h : out.length = 32 then
          (.ok ⟨out, h⟩ : Except ParseFailure ContentId) else .error .panic) = .ok ⟨out, hn⟩ := by
        rw [hout]
        exact dif_pos hn
      rw [hid]
      constructor
      · rintro ⟨-, haccept, -⟩
        exact .inr (.inl (haccept.mp ⟨_, rfl⟩))
      · intro h
        have hdigits : Hex64 s := by
          rcases h with hshort | hdigits | ⟨rest, hrest, -⟩
          · exact absurd hlen hshort
          · exact hdigits
          · rw [hread] at hrest
            cases hrest
        refine ⟨nofun, iff_of_true ⟨_, rfl⟩ hdigits, fun id hok => ?_⟩
        cases hok
        have hrender := render_parsePairs (n := 32) hlen (hhex.mp hdigits).2 hout
        rw [← hlower hdigits, ← hrender]
        rfl
    · have hnot : ¬ Hex64 s := by
        intro hdigits
        have hread := afterUnread_of_hexByte (n := 32) hlen (hhex.mp hdigits).2
        rw [hunread] at hread
        cases hread
      rw [herr]
      by_cases hb : AtBoundary rest
      · rw [if_pos hb]
        refine iff_of_true ⟨nofun, iff_of_false ?_ hnot, nofun⟩ (.inr (.inr ⟨rest, hunread, hb⟩))
        rintro ⟨id, hid⟩
        cases hid
      · rw [if_neg hb]
        refine iff_of_false (fun h => h.1 rfl) ?_
        rintro (hshort | hdigits | ⟨rest', hrest', hb'⟩)
        · exact hshort hlen
        · exact hnot hdigits
        · rw [hunread] at hrest'
          cases hrest'
          exact hb hb'
  · have hnot : ¬ Hex64 s := fun h => hlen (hhex.mp h).1
    rw [if_pos hlen]
    refine iff_of_true ⟨nofun, iff_of_false ?_ hnot, nofun⟩ (.inl hlen)
    rintro ⟨id, hid⟩
    cases hid

/-- A plus sign and 63 digits. Source: none: infrastructure. Kind: D -/
def plusText : String := String.ofList ('+' :: List.replicate 63 '0')

/-- A digit, a character of two bytes and 61 digits. Source: none: infrastructure. Kind: D -/
def cutText : String := String.ofList ('0' :: 'é' :: List.replicate 61 '0')

/-- **A plus sign is read as a digit, and a character across two of the slices ends in a panic.**
Source: `rollout-core/src/ids.rs` `FromStr`. Kind: C -/
theorem plusText_read : (∃ id, ofText plusText = .ok id) ∧ ¬ Hex64 plusText ∧
    ofText cutText = .error .panic ∧ ¬ ∀ s, Exact s := by
  have hread : (ofText plusText).isOk = true := by decide +kernel
  have hcut : ofText cutText = .error .panic := by decide +kernel
  have hbytes : ¬ ∀ b ∈ plusText.toUTF8.data.toList, HexByte b := by decide +kernel
  have hplus : ¬ Hex64 plusText := fun h => hbytes ((hex64_iff plusText).mp h).2
  refine ⟨?_, hplus, hcut, fun h => (h cutText).1 hcut⟩
  cases hid : ofText plusText with
  | error e =>
      rw [hid] at hread
      cases hread
  | ok id => exact ⟨id, rfl⟩

end ContentId

end Rollout.Core
