import Rollout.Lib.Separated
import Rollout.Storage.Postgres

/-!
# Notifications of the Postgres storage

A trigger spells the key of a changed row as text, and a listener reads it back.

* `Uuid.text`, `Uuid.parseStr` — the text of the run column; `Uuid.parseStr_text`.
* `rolloutKvNotify` — the payload: the run, a bar, the path joined by slashes, cut off at 7999
  characters. `parsePayload` — the listener.
* `notifiedPath` — the path the listener reads; `parsePayload_rolloutKvNotify` says what it makes of
  a payload.
* `notified_iff` — a payload is read as an event for its own key exactly when the key is
  `Notifiable`: no component holds a slash, the path is not one empty component, and the text fits.
-/

set_option linter.unusedSectionVars false

namespace Rollout.Backends

open Rollout.Lib Rollout.Core

/-! ## The text of a run -/

/-- The ASCII code of a hyphen. Source: none: infrastructure. Kind: D -/
def hyphen : UInt8 := 45

namespace Uuid

/-- The 32 digits of a UUID. Source: `database/migrations/0001_init.sql` (`run_id::text`).
Kind: D -/
def digits (u : Uuid) : Bytes := base16.render 32 u.bytes.toNat

/-- Hyphens after the digits 8, 12, 16 and 20. Source: none: infrastructure. Kind: D -/
def hyphenate (ds : Bytes) : Bytes :=
  ds.take 8 ++ hyphen :: (ds.drop 8).take 4 ++ hyphen :: (ds.drop 12).take 4 ++
    hyphen :: (ds.drop 16).take 4 ++ hyphen :: ds.drop 20

/-- A UUID as text. Source: `database/migrations/0001_init.sql` (`run_id::text`). Kind: D -/
def text (u : Uuid) : String := asciiString (hyphenate u.digits)

/-- 32 hexadecimal digits. Source: `rollout-storage/src/postgres/listener.rs` `parse_payload`
(`uuid::Uuid::parse_str`). Kind: D -/
def parseSimple (bs : Bytes) : Option Uuid :=
  if bs.length = 32 then (base16.parse bs).map fun n => ⟨BitVec.ofNat 128 n⟩ else none

/-- The bytes without hyphens at the places 8, 13, 18 and 23, where they have to be.
Source: none: infrastructure. Kind: D -/
def dehyphenate (bs : Bytes) : Option Bytes :=
  if bs[8]? = some hyphen ∧ bs[13]? = some hyphen ∧ bs[18]? = some hyphen ∧ bs[23]? = some hyphen then
    some (bs.take 8 ++ (bs.drop 9).take 4 ++ (bs.drop 14).take 4 ++
      (bs.drop 19).take 4 ++ bs.drop 24)
  else none

/-- 32 hexadecimal digits with four hyphens.
Source: `rollout-storage/src/postgres/listener.rs` `parse_payload` (`uuid::Uuid::parse_str`).
Kind: D -/
def parseHyphenated (bs : Bytes) : Option Uuid := (dehyphenate bs).bind parseSimple

/-- A UUID read from text: plain, hyphenated, in braces or as a URN.
Source: `rollout-storage/src/postgres/listener.rs` `parse_payload` (`uuid::Uuid::parse_str`).
Kind: D -/
def parseStr (s : String) : Option Uuid :=
  let bs := s.toUTF8.data.toList
  if bs.length = 32 then parseSimple bs
  else if bs.length = 36 then parseHyphenated bs
  else if bs.length = 38 ∧ bs.head? = some 123 ∧ bs.getLast? = some 125 then
    parseHyphenated ((bs.drop 1).take 36)
  else if bs.length = 45 ∧ bs.take 9 = "urn:uuid:".toList.map fun c => c.toNat.toUInt8 then
    parseHyphenated (bs.drop 9)
  else none

@[simp] theorem length_digits (u : Uuid) : u.digits.length = 32 := base16.length_render _ _

theorem parseSimple_digits (u : Uuid) : parseSimple u.digits = some u := by
  have hlt : u.bytes.toNat < base16.base ^ 32 := lt_of_lt_of_eq u.bytes.isLt (by decide)
  rw [parseSimple, if_pos u.length_digits, digits, base16.parse_render 32 hlt]
  simp

theorem dehyphenate_append {a b c d : Bytes} (ha : a.length = 8) (hb : b.length = 4)
    (hc : c.length = 4) (hd : d.length = 4) (e : Bytes) :
    dehyphenate (a ++ hyphen :: b ++ hyphen :: c ++ hyphen :: d ++ hyphen :: e) =
      some (a ++ b ++ c ++ d ++ e) := by
  simp (disch := omega) [dehyphenate, List.getElem?_append, List.getElem?_cons_zero,
    List.drop_append, List.drop_of_length_le, ha, hb, hc, hd]

theorem dehyphenate_hyphenate {ds : Bytes} (h : ds.length = 32) :
    dehyphenate (hyphenate ds) = some ds := by
  have h8 : (ds.drop 8).take 4 ++ ds.drop 12 = ds.drop 8 := by
    simpa using List.take_append_drop 4 (ds.drop 8)
  have h12 : (ds.drop 12).take 4 ++ ds.drop 16 = ds.drop 12 := by
    simpa using List.take_append_drop 4 (ds.drop 12)
  have h16 : (ds.drop 16).take 4 ++ ds.drop 20 = ds.drop 16 := by
    simpa using List.take_append_drop 4 (ds.drop 16)
  rw [hyphenate, dehyphenate_append (by simp [h]) (by simp [h]) (by simp [h]) (by simp [h])]
  simp only [List.append_assoc, h16, h12, h8, List.take_append_drop]

theorem mem_hyphenate {ds : Bytes} {b : UInt8} (h : b ∈ hyphenate ds) : b = hyphen ∨ b ∈ ds := by
  simp only [hyphenate, List.mem_append, List.mem_cons] at h
  grind [List.mem_of_mem_take, List.mem_of_mem_drop]

theorem hex_ascii : ∀ d < 16, (base16.digit d).toNat < 124 := by decide

theorem mem_text_lt {u : Uuid} {b : UInt8} (h : b ∈ hyphenate u.digits) : b.toNat < 124 := by
  rcases mem_hyphenate h with rfl | hb
  · decide
  · obtain ⟨d, hd, rfl⟩ := base16.mem_render (by decide) hb
    exact hex_ascii d hd

/-- **The text of a UUID is read back.** Source: none: infrastructure. Kind: L -/
theorem parseStr_text (u : Uuid) : parseStr u.text = some u := by
  have hbytes : u.text.toUTF8.data.toList = hyphenate u.digits := by
    unfold text
    exact utf8_asciiString fun b hb => lt_trans (mem_text_lt hb) (by decide : 124 < 128)
  have hlen := u.length_digits
  have hparse : parseHyphenated (hyphenate u.digits) = some u := by
    rw [parseHyphenated, dehyphenate_hyphenate hlen, Option.bind_some, parseSimple_digits]
  have hlength : (hyphenate u.digits).length = 36 := by
    simp [hyphenate, hlen]
  rw [parseStr, hbytes]
  simp only [hlength]
  rw [if_neg (by decide), if_pos trivial, hparse]

end Uuid

/-! ## The payload -/

/-- The text of the run column, empty when it is null.
Source: `database/migrations/0001_init.sql` `rollout_kv_notify` (`COALESCE(…, '')`). Kind: D -/
def runText (runId : Option RunId) : String := (runId.map fun id => (ulidToUuid id).text).getD ""

/-- Components joined by a separator.
Source: `database/migrations/0001_init.sql` `rollout_kv_notify` (`array_to_string`). Kind: D -/
def arrayToString (path : List String) (sep : Char) : String :=
  String.ofList (joinParts sep (path.map String.toList))

/-- The payload before it is cut off.
Source: `database/migrations/0001_init.sql` `rollout_kv_notify`. Kind: D -/
def kvPayload (key : StorageKey) : String := runText key.runId ++ "|" ++ arrayToString key.path '/'

/-- The payload of a change of the row of a key.
Source: `database/migrations/0001_init.sql` `rollout_kv_notify` (`substring(payload, 1, 7999)`).
Kind: D -/
def rolloutKvNotify (key : StorageKey) : String := String.ofList ((kvPayload key).toList.take 7999)

/-- The text before and after the first occurrence of a character.
Source: `rollout-storage/src/postgres/listener.rs` `parse_payload` (`split_once`). Kind: D -/
def splitOnce (s : String) (sep : Char) : Option (String × String) :=
  match s.toList.dropWhile (· ≠ sep) with
  | [] => none
  | _ :: rest => some (String.ofList (s.toList.takeWhile (· ≠ sep)), String.ofList rest)

/-- Source: `rollout-storage/src/postgres/listener.rs` `parse_payload`. Kind: D -/
def parsePayload (payload : String) (pfx : StorageKey) : Option StorageEvent := do
  let (runIdStr, pathStr) ← splitOnce payload '|'
  let runId := if runIdStr = "" then none else (Uuid.parseStr runIdStr).map uuidToUlid
  let path := (splitParts '/' pathStr.toList).map String.ofList
  if pfx.runId.isSome ∧ pfx.runId ≠ runId then none
  else if ¬ pfx.path.isPrefixOf path then none
  else some (.put ⟨pfx.ns, runId, path⟩)

/-! ## What is read -/

theorem runText_some (id : RunId) : runText (some id) = (ulidToUuid id).text := rfl

theorem bar_not_mem_runText (runId : Option RunId) : '|' ∉ (runText runId).toList := by
  rcases runId with - | id
  · simp [runText]
  · intro h
    rw [runText_some, Uuid.text, asciiString, String.toList_ofList] at h
    obtain ⟨b, hb, hchar⟩ := List.mem_map.mp h
    have hlt := Uuid.mem_text_lt hb
    have hval : (Char.ofNat b.toNat).toNat = b.toNat := by
      rw [Char.ofNat, dif_pos (by unfold Nat.isValidChar; omega)]
      rfl
    rw [hchar] at hval
    have hbar : '|'.toNat = 124 := rfl
    omega

theorem length_runText_le (runId : Option RunId) : (runText runId).toList.length ≤ 36 := by
  rcases runId with - | id
  · simp [runText]
  · rw [runText_some, Uuid.text, asciiString, String.toList_ofList, List.length_map]
    simp [Uuid.hyphenate]

theorem splitOnce_ofList {a b : List Char} {sep : Char} (h : sep ∉ a) :
    splitOnce (String.ofList (a ++ sep :: b)) sep = some (String.ofList a, String.ofList b) := by
  have hne : ∀ c ∈ a, decide (c ≠ sep) = true := fun c hc => decide_eq_true fun heq => h (heq ▸ hc)
  unfold splitOnce
  simp only [String.toList_ofList]
  rw [List.dropWhile_append_of_pos hne, List.takeWhile_append_of_pos hne]
  simp

/-- The run of a payload is read back. Source: none: infrastructure. Kind: L -/
theorem runId_of_runText (runId : Option RunId) :
    (if runText runId = "" then none else (Uuid.parseStr (runText runId)).map uuidToUlid) = runId := by
  rcases runId with - | id
  · rfl
  · have hne : runText (some id) ≠ "" := by
      intro h
      have hparse := Uuid.parseStr_text (ulidToUuid id)
      have hempty : Uuid.parseStr "" = none := by decide
      rw [← runText_some, h, hempty] at hparse
      cases hparse
    rw [if_neg hne, runText_some, Uuid.parseStr_text]
    rfl

/-- How much of the joined path a payload has room for.
Source: `database/migrations/0001_init.sql` `rollout_kv_notify`. Kind: D -/
def pathRoom (key : StorageKey) : Nat := 7999 - ((runText key.runId).length + 1)

/-- The path the listener reads from the payload of a key.
Source: `rollout-storage/src/postgres/listener.rs` `parse_payload`. Kind: D -/
def notifiedPath (key : StorageKey) : List String :=
  (splitParts '/' ((arrayToString key.path '/').toList.take (pathRoom key))).map String.ofList

theorem toList_rolloutKvNotify (key : StorageKey) :
    (rolloutKvNotify key).toList = (runText key.runId).toList ++
      '|' :: (arrayToString key.path '/').toList.take (pathRoom key) := by
  have hrun := length_runText_le key.runId
  have hroom : pathRoom key = 7999 - ((runText key.runId).toList.length + 1) := by
    rw [pathRoom, String.length_toList]
  have hcut : 7999 - (runText key.runId).toList.length = pathRoom key + 1 := by omega
  rw [rolloutKvNotify, String.toList_ofList, kvPayload, String.toList_append, String.toList_append,
    List.append_assoc, List.take_append, List.take_of_length_le (by omega), hcut]
  rfl

/-- **What the listener makes of a payload.**
Source: `rollout-storage/src/postgres/listener.rs` `parse_payload`. Kind: L -/
theorem parsePayload_rolloutKvNotify (key pfx : StorageKey) :
    parsePayload (rolloutKvNotify key) pfx =
      if pfx.runId.isSome ∧ pfx.runId ≠ key.runId then none
      else if ¬ pfx.path.isPrefixOf (notifiedPath key) then none
      else some (.put ⟨pfx.ns, key.runId, notifiedPath key⟩) := by
  have hsplit : splitOnce (rolloutKvNotify key) '|' = some (runText key.runId,
      String.ofList ((arrayToString key.path '/').toList.take (pathRoom key))) := by
    have htext : rolloutKvNotify key = String.ofList (rolloutKvNotify key).toList :=
      String.ofList_toList.symm
    rw [htext, toList_rolloutKvNotify, splitOnce_ofList (bar_not_mem_runText key.runId),
      String.ofList_toList]
  unfold parsePayload
  rw [hsplit]
  simp only [Option.bind_eq_bind, Option.bind_some, runId_of_runText, String.toList_ofList]
  rfl

/-- A key whose payload says what the key is: no component holds a slash, the path is not one empty
component, and the payload is not cut off.
Source: `database/migrations/0001_init.sql` `rollout_kv_notify`. Kind: D -/
def Notifiable (key : StorageKey) : Prop :=
  (∀ c ∈ key.path, '/' ∉ c.toList) ∧ key.path ≠ [""] ∧ (kvPayload key).length ≤ 7999

instance (key : StorageKey) : Decidable (Notifiable key) := inferInstanceAs (Decidable (_ ∧ _ ∧ _))

theorem separable_path_iff {path : List String} :
    Separable '/' (path.map String.toList) ↔ (∀ c ∈ path, '/' ∉ c.toList) ∧ path ≠ [""] := by
  have hone : path.map String.toList = [[]] ↔ path = [""] := by
    rw [show ([[]] : List (List Char)) = [""].map String.toList from rfl]
    exact (List.map_injective_iff.mpr fun _ _ h => String.toList_inj.mp h).eq_iff
  unfold Separable
  rw [ne_eq, hone]
  simp

/-- **The listener reads the path of a key exactly when the key is notifiable.**
Source: `rollout-storage/src/postgres/listener.rs` `parse_payload`. Kind: L -/
theorem notifiedPath_eq_iff (key : StorageKey) : notifiedPath key = key.path ↔ Notifiable key := by
  have hmap : notifiedPath key = key.path ↔
      splitParts '/' ((joinParts '/' (key.path.map String.toList)).take (pathRoom key)) =
        key.path.map String.toList := by
    unfold notifiedPath arrayToString
    rw [String.toList_ofList]
    constructor
    · intro h
      simpa using congrArg (List.map String.toList) h
    · intro h
      rw [h]
      simp
  have hfits : (joinParts '/' (key.path.map String.toList)).length ≤ pathRoom key ↔
      (kvPayload key).length ≤ 7999 := by
    have hrun := length_runText_le key.runId
    rw [String.length_toList] at hrun
    simp only [kvPayload, pathRoom, String.length_append, arrayToString, String.length_ofList]
    have hbar : "|".length = 1 := rfl
    omega
  rw [hmap, splitParts_take_iff, separable_path_iff, hfits, Notifiable, and_assoc]

/-- **A payload is read as an event for its own key exactly when the key is notifiable**, by a
listener on the whole namespace.
Source: `rollout-storage/src/postgres/listener.rs` `parse_payload`. Kind: P -/
theorem notified_iff (key : StorageKey) :
    parsePayload (rolloutKvNotify key) ⟨key.ns, none, []⟩ = some (.put key) ↔ Notifiable key := by
  rw [parsePayload_rolloutKvNotify, ← notifiedPath_eq_iff]
  obtain ⟨ns, runId, path⟩ := key
  simp

/-- A component with a slash is read as two. Source: none: infrastructure. Kind: C -/
theorem slash_misread :
    StorageKey.validateForPostgres ⟨"work", none, ["a/b"]⟩ = .ok () ∧
      parsePayload (rolloutKvNotify ⟨"work", none, ["a/b"]⟩) ⟨"work", none, []⟩ ≠
        some (.put ⟨"work", none, ["a/b"]⟩) := by
  refine ⟨rfl, fun h => ?_⟩
  exact absurd ((notified_iff ⟨"work", none, ["a/b"]⟩).mp h).1 (by decide)

end Rollout.Backends
