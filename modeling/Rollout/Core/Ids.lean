import Mathlib.Data.String.Basic
import Rollout.Lib.Digits
import Rollout.Lib.Wire

/-!
# Identifiers

* `Ulid` — 128 bits, displayed as 26 Crockford base-32 digits; `RunId` and `WorkerId` wrap one.
  On the wire a ULID is its text, behind the length.
* `ContentId` — a 32-byte digest, displayed as 64 hexadecimal digits; on the wire it is the bare
  bytes. The digest function is a parameter (`Blake3`): nothing here needs more of it than that it
  is a function.
* Displays are injective (`Ulid.display_inj`, `ContentId.display_inj`), which is what keeps the
  storage keys of distinct identifiers apart, and ULIDs are displayed in their order
  (`Ulid.display_lt`).
-/

set_option linter.unusedSectionVars false

namespace Rollout.Core

open Rollout.Lib

/-- ASCII digits as text. Source: none: infrastructure. Kind: D -/
def asciiString (bs : Bytes) : String := String.ofList (bs.map fun b => Char.ofNat b.toNat)

theorem toNat_ofNat_toNat (c : UInt8) : (Char.ofNat c.toNat).toNat = c.toNat := by
  have hc : c.toNat.isValidChar := by
    have := c.toNat_lt
    unfold Nat.isValidChar
    omega
  rw [Char.ofNat, dif_pos hc]
  rfl

theorem ascii_injective : Function.Injective fun b : UInt8 => Char.ofNat b.toNat := by
  intro a b h
  have := congrArg Char.toNat h
  simp only [toNat_ofNat_toNat] at this
  exact UInt8.toNat_inj.mp this

@[simp] theorem asciiString_inj {a b : Bytes} : asciiString a = asciiString b ↔ a = b := by
  unfold asciiString
  rw [String.ofList_inj]
  exact (List.map_injective_iff.mpr ascii_injective).eq_iff

theorem asciiString_lt {a b : Bytes} (h : a < b) : asciiString a < asciiString b := by
  unfold asciiString
  rw [String.lt_iff_toList_lt, String.toList_ofList, String.toList_ofList]
  refine List.map_lt (fun x y hxy => ?_) h
  show (Char.ofNat x.toNat).toNat < (Char.ofNat y.toNat).toNat
  rw [toNat_ofNat_toNat, toNat_ofNat_toNat]
  exact hxy

theorem utf8EncodeChar_ascii {b : UInt8} (hb : b.toNat < 128) :
    String.utf8EncodeChar (Char.ofNat b.toNat) = [b] := by
  have hall : ∀ n < 128, String.utf8EncodeChar (Char.ofNat n) = [UInt8.ofNat n] := by
    decide +kernel
  rw [hall b.toNat hb, UInt8.ofNat_toNat]

/-- ASCII text in UTF-8 is its bytes. Source: none: infrastructure. Kind: L -/
theorem utf8_asciiString {bs : Bytes} (h : ∀ b ∈ bs, b.toNat < 128) :
    (asciiString bs).toUTF8.data.toList = bs := by
  have henc : (asciiString bs).toUTF8 = (bs.map fun b => Char.ofNat b.toNat).utf8Encode :=
    String.toByteArray_ofList
  have hself : (bs.flatMap fun b => String.utf8EncodeChar (Char.ofNat b.toNat)) = bs := by
    rw [← List.flatMap_singleton' bs, List.flatMap_assoc]
    refine List.flatMap_congr fun b hb => ?_
    rw [List.flatMap_singleton, utf8EncodeChar_ascii (h b hb)]
  rw [henc, List.utf8Encode, List.flatMap_map, hself, List.data_toByteArray]

/-! ## ULIDs -/

/-- The ASCII codes of the Crockford base-32 digits, in order of value.
Source: none: infrastructure. Kind: D -/
def crockford : Bytes := "0123456789ABCDEFGHJKMNPQRSTVWXYZ".toList.map fun c => c.toNat.toUInt8

/-- Crockford base 32; either case is read. Source: none: infrastructure. Kind: D -/
def base32 : Radix UInt8 where
  base := 32
  digit d := crockford.getD d 0
  value c :=
    let u := if 97 ≤ c.toNat ∧ c.toNat ≤ 122 then c - 32 else c
    if u ∈ crockford then some (crockford.idxOf u) else none
  value_digit := by decide

/-- A 128-bit lexicographically sortable identifier.
Source: `rollout-core/src/ids.rs` (the `ulid::Ulid` it wraps). Kind: D -/
structure Ulid where
  /-- Its bits. -/
  bits : BitVec 128
deriving DecidableEq

namespace Ulid

/-- The 26 characters of a ULID. Source: `rollout-core/src/ids.rs` `Display`. Kind: D -/
def chars (u : Ulid) : Bytes := base32.render 26 u.bits.toNat

/-- A ULID as text. Source: `rollout-core/src/ids.rs` `Display`. Kind: D -/
def display (u : Ulid) : String := asciiString u.chars

/-- A ULID read from 26 characters. Source: `rollout-core/src/ids.rs` `FromStr`. Kind: D -/
def ofChars (cs : Bytes) : Option Ulid :=
  if cs.length = 26 then (base32.parse cs).map fun n => ⟨BitVec.ofNat 128 n⟩ else none

theorem toNat_lt (u : Ulid) : u.bits.toNat < base32.base ^ 26 :=
  lt_trans u.bits.isLt (by decide)

@[simp] theorem length_chars (u : Ulid) : u.chars.length = 26 := base32.length_render _ _

@[simp] theorem ofChars_chars (u : Ulid) : ofChars u.chars = some u := by
  unfold ofChars
  rw [if_pos u.length_chars]
  unfold chars
  rw [base32.parse_render 26 u.toNat_lt]
  simp

theorem chars_inj {u v : Ulid} : u.chars = v.chars ↔ u = v := by
  constructor
  · intro h
    have hu := u.ofChars_chars
    rw [h, ofChars_chars] at hu
    exact (Option.some.inj hu).symm
  · rintro rfl
    rfl

theorem digit_ascii : ∀ d < 32, (base32.digit d).toNat < 128 := by decide

theorem utf8_display (u : Ulid) : u.display.toUTF8.data.toList = u.chars := by
  unfold display
  refine utf8_asciiString fun b hb => ?_
  obtain ⟨d, hd, rfl⟩ := base32.mem_render (by decide) hb
  exact digit_ascii d hd

/-- **Distinct ULIDs are displayed differently.** Source: none: infrastructure. Kind: L -/
@[simp] theorem display_inj {u v : Ulid} : u.display = v.display ↔ u = v := by
  unfold display
  rw [asciiString_inj, chars_inj]

theorem digit_lt : ∀ d' < 32, ∀ d < d', base32.digit d < base32.digit d' := by decide

/-- **ULIDs are displayed in their order.** Source: none: infrastructure. Kind: L -/
theorem display_lt {u v : Ulid} (h : u.bits.toNat < v.bits.toNat) : u.display < v.display :=
  asciiString_lt (base32.render_lt (fun d d' hd hd' => digit_lt d' hd' d hd) 26 v.toNat_lt h)

/-- On the wire a ULID is its text. Source: `rollout-core/src/ids.rs` `Serialize`. Kind: D -/
def codec : Codec Ulid :=
  Codec.bytes.refine (fun b => ofChars b.1) (fun u => ⟨u.chars, by simp⟩) (by simp)

end Ulid

/-- Identifier of a run. Source: `rollout-core/src/ids.rs` `RunId`. Kind: D -/
structure RunId where
  /-- The wrapped ULID. -/
  ulid : Ulid
deriving DecidableEq

/-- Transparent over the ULID. Source: `rollout-core/src/ids.rs` `RunId`. Kind: D -/
def RunId.codec : Codec RunId :=
  Ulid.codec.refine (fun u => some ⟨u⟩) RunId.ulid fun _ => rfl

/-- Identifier of a worker process. Source: `rollout-core/src/ids.rs` `WorkerId`. Kind: D -/
structure WorkerId where
  /-- The wrapped ULID. -/
  ulid : Ulid
deriving DecidableEq

/-- Transparent over the ULID. Source: `rollout-core/src/ids.rs` `WorkerId`. Kind: D -/
def WorkerId.codec : Codec WorkerId :=
  Ulid.codec.refine (fun u => some ⟨u⟩) WorkerId.ulid fun _ => rfl

/-! ## Content ids -/

/-- Lower-case hexadecimal digits; either case is read. Source: none: infrastructure. Kind: D -/
def base16 : Radix UInt8 where
  base := 16
  digit d := if d < 10 then UInt8.ofNat (48 + d) else UInt8.ofNat (87 + d)
  value c :=
    if 48 ≤ c.toNat ∧ c.toNat ≤ 57 then some (c.toNat - 48)
    else if 97 ≤ c.toNat ∧ c.toNat ≤ 102 then some (c.toNat - 87)
    else if 65 ≤ c.toNat ∧ c.toNat ≤ 70 then some (c.toNat - 55)
    else none
  value_digit := by decide

/-- A digest of some bytes. Source: `rollout-core/src/ids.rs` `ContentId`. Kind: D -/
structure ContentId where
  /-- Its 32 bytes. -/
  raw : { bs : Bytes // bs.length = 32 }
deriving DecidableEq

/-- The digest function. Source: `rollout-core/src/ids.rs` `ContentId::of`. Kind: D -/
class Blake3 where
  /-- The digest of some bytes. -/
  hash : Bytes → ContentId

/-- Why a text is not a content id; `panic` is a slice that cuts a character in two.
Source: `rollout-core/src/ids.rs` `FromStr`. Kind: D -/
inductive ParseFailure
  | err (msg : String)
  | panic
deriving DecidableEq, Repr

namespace ContentId

/-- The digest of `data`. Source: `rollout-core/src/ids.rs` `ContentId::of`. Kind: D -/
def of [Blake3] (data : Bytes) : ContentId := Blake3.hash data

/-- The 64 characters of a content id. Source: `rollout-core/src/ids.rs` `Display`. Kind: D -/
def chars (c : ContentId) : Bytes := c.raw.1.flatMap fun b => base16.render 2 b.toNat

/-- A content id as text. Source: `rollout-core/src/ids.rs` `Display`. Kind: D -/
def display (c : ContentId) : String := asciiString c.chars

theorem hexPairs_injective :
    Function.Injective fun bs : Bytes => bs.flatMap fun b => base16.render 2 b.toNat := by
  intro xs
  induction xs with
  | nil =>
      intro ys h
      cases ys with
      | nil => rfl
      | cons y ys =>
          have hlen := congrArg List.length h
          simp only [List.flatMap_nil, List.length_nil, List.flatMap_cons, List.length_append,
            Radix.length_render] at hlen
          omega
  | cons x xs ih =>
      intro ys h
      cases ys with
      | nil =>
          have hlen := congrArg List.length h
          simp only [List.flatMap_nil, List.length_nil, List.flatMap_cons, List.length_append,
            Radix.length_render] at hlen
          omega
      | cons y ys =>
          simp only [List.flatMap_cons] at h
          obtain ⟨hhead, htail⟩ := List.append_inj h (by simp)
          have hxy := base16.render_inj 2 (m := x.toNat) (n := y.toNat)
            (x.toNat_lt.trans_eq rfl) (y.toNat_lt.trans_eq rfl) hhead
          rw [UInt8.toNat_inj.mp hxy, ih htail]

@[simp] theorem chars_inj {a b : ContentId} : a.chars = b.chars ↔ a = b := by
  obtain ⟨⟨a, ha⟩⟩ := a
  obtain ⟨⟨b, hb⟩⟩ := b
  unfold chars
  rw [ContentId.mk.injEq, Subtype.mk.injEq]
  exact hexPairs_injective.eq_iff

/-- **Distinct content ids are displayed differently.** Source: none: infrastructure. Kind: L -/
@[simp] theorem display_inj {a b : ContentId} : a.display = b.display ↔ a = b := by
  unfold display
  rw [asciiString_inj, chars_inj]

/-- The bare bytes. Source: `rollout-core/src/ids.rs` `ContentId`. Kind: D -/
def codec : Codec ContentId := (Codec.fixed 32).refine (fun b => some ⟨b⟩) raw fun _ => rfl

/-- One byte of a UTF-8 text that continues a character. Source: none: infrastructure. Kind: D -/
def isContinuation (b : UInt8) : Bool := decide (128 ≤ b.toNat ∧ b.toNat < 192)

/-- `u8::from_str_radix` of two characters: a leading plus sign is accepted.
Source: `rollout-core/src/ids.rs` `FromStr`. Kind: D -/
def hexByte (a b : UInt8) : Option UInt8 :=
  if a = 43 then (base16.value b).map UInt8.ofNat else (base16.parse [a, b]).map UInt8.ofNat

/-- The loop of `from_str` over the two-byte slices of the text.
Source: `rollout-core/src/ids.rs` `FromStr`. Kind: D -/
def parsePairs : Bytes → Except ParseFailure Bytes
  | a :: b :: rest =>
      if isContinuation a || (rest.head?.map isContinuation).getD false then .error .panic
      else
        match hexByte a b with
        | none => .error (.err "invalid digit found in string")
        | some v => (parsePairs rest).map (v :: ·)
  | _ => .ok []

/-- A content id read from the UTF-8 bytes of a text.
Source: `rollout-core/src/ids.rs` `FromStr`. Kind: D -/
def fromStr (s : Bytes) : Except ParseFailure ContentId :=
  if s.length ≠ 64 then
    .error (.err ("ContentId: expected 64 hex chars, got " ++ toString s.length))
  else
    (parsePairs s).bind fun out =>
      if h : out.length = 32 then .ok ⟨out, h⟩ else .error .panic

/-- The two characters of a byte. Source: `rollout-core/src/ids.rs` `Display`. Kind: L -/
theorem hexPair (b : UInt8) : ∃ x y, base16.render 2 b.toNat = [x, y] ∧ x.toNat < 128 ∧
    y.toNat < 128 ∧ hexByte x y = some b := by
  have hall : ∀ n < 256, (base16.digit (n / 16 % 16)).toNat < 128 ∧
      (base16.digit (n % 16)).toNat < 128 ∧
      hexByte (base16.digit (n / 16 % 16)) (base16.digit (n % 16)) = some (UInt8.ofNat n) := by
    decide +kernel
  obtain ⟨hx, hy, hbyte⟩ := hall b.toNat b.toNat_lt
  rw [UInt8.ofNat_toNat] at hbyte
  exact ⟨_, _, rfl, hx, hy, hbyte⟩

theorem isContinuation_ascii {b : UInt8} (h : b.toNat < 128) : isContinuation b = false := by
  unfold isContinuation
  rw [decide_eq_false_iff_not]
  omega

theorem chars_ascii (c : ContentId) : ∀ b ∈ c.chars, b.toNat < 128 := by
  intro b hb
  obtain ⟨d, -, hd⟩ := List.mem_flatMap.mp hb
  obtain ⟨x, y, hpair, hx, hy, -⟩ := hexPair d
  rw [hpair] at hd
  rcases List.mem_cons.mp hd with rfl | hd
  · exact hx
  · rw [List.mem_singleton.mp hd]
    exact hy

theorem utf8_display (c : ContentId) : c.display.toUTF8.data.toList = c.chars :=
  utf8_asciiString c.chars_ascii

theorem parsePairs_hex (bs : Bytes) :
    parsePairs (bs.flatMap fun b => base16.render 2 b.toNat) = .ok bs := by
  induction bs with
  | nil => rfl
  | cons b bs ih =>
      obtain ⟨x, y, hpair, hx, hy, hbyte⟩ := hexPair b
      have hnext : ((bs.flatMap fun b => base16.render 2 b.toNat).head?.map isContinuation).getD
          false = false := by
        cases bs with
        | nil => rfl
        | cons d ds =>
            obtain ⟨x', y', hpair', hx', -, -⟩ := hexPair d
            rw [List.flatMap_cons, hpair']
            exact isContinuation_ascii hx'
      rw [List.flatMap_cons, hpair, List.cons_append, List.cons_append, List.nil_append, parsePairs,
        isContinuation_ascii hx, hnext]
      simp only [Bool.or_self, Bool.false_eq_true, if_false, hbyte, ih]
      rfl

/-- **A content id is read back from its text.** Source: `rollout-core/src/ids.rs` `FromStr`,
`Display`. Kind: P -/
@[simp] theorem fromStr_chars (c : ContentId) : fromStr c.chars = .ok c := by
  obtain ⟨⟨raw, hraw⟩⟩ := c
  have hlen : (raw.flatMap fun b => base16.render 2 b.toNat).length = 64 := by
    simp [List.length_flatMap, hraw]
  unfold fromStr chars
  rw [if_neg (not_not.mpr hlen), parsePairs_hex]
  exact dif_pos hraw

/-- The digest of the empty input. Source: none: infrastructure. Kind: D -/
def ofEmpty : ContentId :=
  ⟨[0xaf, 0x13, 0x49, 0xb9, 0xf5, 0xf9, 0xa1, 0xa6, 0xa0, 0x40, 0x4d, 0xea, 0x36, 0xdc, 0xc9, 0x49,
    0x9b, 0xcb, 0x25, 0xc9, 0xad, 0xc1, 0x12, 0xb7, 0xcc, 0x9a, 0x93, 0xca, 0xe4, 0x1f, 0x32, 0x62],
    rfl⟩

end ContentId

/-- A digest function that is right about the empty input, for runs that digest nothing else.
Source: none: infrastructure. Kind: D -/
@[reducible] def emptyBlake3 : Blake3 := ⟨fun _ => ContentId.ofEmpty⟩

end Rollout.Core
