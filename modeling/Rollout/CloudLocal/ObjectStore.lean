import Mathlib.Data.List.TakeWhile
import Rollout.Core.Errors
import Rollout.Core.Ids
import Rollout.Lib.Files

/-!
# The filesystem object store

`FsObjectStore`, one file operation at a time, on the paths under its root.

* `pathFor`, `metaPathFor`, `tempPathForPending` — where a blob, its sidecar and a stream in
  progress are kept; `put_bytes` stages next to the blob, under `withExtension`.
* `putBytes`, `putStream`, `getBytes`, `exists` — the operations, as programs. How a file is filled
  or read piece by piece is left open (`cuts`).
* `StoreCall` — one call; a system is any number of them on one disk, each of which may stop
  anywhere.
-/

set_option linter.unusedSectionVars false

namespace Rollout.CloudLocal

open Rollout.Lib Rollout.Core

/-- A path under the root of the store. Source: `rollout-cloud-local/src/object_store.rs`
(`std::path::PathBuf`). Kind: D -/
abbrev FsPath := List String

/-- Programs on files. Source: none: infrastructure. Kind: D -/
abbrev FsM := Prog (Files.iface FsPath) CoreError

namespace ObjectStore

/-! ## Paths -/

/-- The two directories of an id.
Source: `rollout-cloud-local/src/object_store.rs` `path_for`, `meta_path_for`. Kind: D -/
def shard (id : ContentId) : FsPath :=
  [asciiString (id.chars.take 2), asciiString ((id.chars.drop 2).take 2)]

/-- Source: `rollout-cloud-local/src/object_store.rs` `path_for`. Kind: D -/
def pathFor (id : ContentId) : FsPath := shard id ++ [id.display]

/-- Source: `rollout-cloud-local/src/object_store.rs` `meta_path_for`. Kind: D -/
def metaPathFor (id : ContentId) : FsPath := shard id ++ [id.display ++ ".meta.json"]

/-- The staging path of a stream, with the identifier it draws.
Source: `rollout-cloud-local/src/object_store.rs` `temp_path_for_pending`. Kind: D -/
def tempPathForPending (ulid : Ulid) : FsPath := ["pending", ulid.display]

/-- What stands before the last dot of a name, if something does.
Source: `rollout-cloud-local/src/object_store.rs` (`Path::with_extension`). Kind: D -/
def fileStem (name : String) : String :=
  let front := ((name.toList.reverse.dropWhile fun c => c ≠ '.').drop 1).reverse
  if front = [] then name else String.ofList front

/-- The path with another extension.
Source: `rollout-cloud-local/src/object_store.rs` (`Path::with_extension`). Kind: D -/
def withExtension (path : FsPath) (ext : String) : FsPath :=
  match path.getLast? with
  | none => path
  | some name => path.dropLast ++ [fileStem name ++ "." ++ ext]

/-- The directory of a path.
Source: `rollout-cloud-local/src/object_store.rs` (`Path::parent`). Kind: D -/
def parent (path : FsPath) : FsPath := path.dropLast

/-! ## Which paths are which -/

theorem dot_not_mem_display (id : ContentId) : '.' ∉ id.display.toList := by
  unfold ContentId.display ContentId.chars asciiString
  rw [String.toList_ofList]
  intro hmem
  obtain ⟨b, hb, hdot⟩ := List.mem_map.mp hmem
  obtain ⟨x, -, hx⟩ := List.mem_flatMap.mp hb
  obtain ⟨d, hd, rfl⟩ := base16.mem_render (by decide) hx
  have hall : ∀ d < 16, Char.ofNat (base16.digit d).toNat ≠ '.' := by decide
  exact hall d hd hdot

/-- A name without a dot is its own stem.
Source: `rollout-cloud-local/src/object_store.rs` (`Path::with_extension`). Kind: L -/
theorem fileStem_of_no_dot {name : String} (h : '.' ∉ name.toList) : fileStem name = name := by
  unfold fileStem
  have hall : name.toList.reverse.dropWhile (fun c => c ≠ '.') = [] := by
    rw [List.dropWhile_eq_nil_iff]
    intro c hc
    refine decide_eq_true ?_
    rintro rfl
    exact h (List.mem_reverse.mp hc)
  rw [hall]
  rfl

/-- Where `put_bytes` stages. Source: `rollout-cloud-local/src/object_store.rs` `put_bytes`.
Kind: L -/
theorem withExtension_pathFor (id : ContentId) :
    withExtension (pathFor id) "tmp" = shard id ++ [id.display ++ "." ++ "tmp"] := by
  unfold withExtension pathFor
  rw [List.getLast?_concat, List.dropLast_concat]
  simp only [fileStem_of_no_dot (dot_not_mem_display id)]

/-- A path of a blob. Source: `rollout-cloud-local/src/object_store.rs` `path_for`. Kind: D -/
def IsBlob (path : FsPath) : Prop := ∃ id, path = pathFor id

theorem pathFor_inj {a b : ContentId} : pathFor a = pathFor b ↔ a = b := by
  constructor
  · intro h
    have hlast := congrArg List.getLast? h
    rw [pathFor, pathFor, List.getLast?_concat, List.getLast?_concat] at hlast
    exact ContentId.display_inj.mp (Option.some.inj hlast)
  · rintro rfl
    rfl

/-- A path whose last name has a dot is not that of a blob.
Source: `rollout-cloud-local/src/object_store.rs` `path_for`. Kind: L -/
theorem not_isBlob_of_dot {dir : FsPath} {front ext : String} (h : '.' ∈ ext.toList) :
    ¬ IsBlob (dir ++ [front ++ ext]) := by
  rintro ⟨id, hid⟩
  have hlast := congrArg List.getLast? hid
  rw [pathFor, List.getLast?_concat, List.getLast?_concat] at hlast
  refine dot_not_mem_display id ?_
  rw [← Option.some.inj hlast, String.toList_append]
  exact List.mem_append_right _ h

theorem not_isBlob_tmp (id : ContentId) : ¬ IsBlob (withExtension (pathFor id) "tmp") := by
  rw [withExtension_pathFor, String.append_assoc]
  exact not_isBlob_of_dot (by decide)

theorem not_isBlob_meta (id : ContentId) : ¬ IsBlob (metaPathFor id) :=
  not_isBlob_of_dot (by decide)

theorem not_isBlob_pending (ulid : Ulid) : ¬ IsBlob (tempPathForPending ulid) := by
  rintro ⟨id, hid⟩
  have hlen := congrArg List.length hid
  simp [tempPathForPending, pathFor, shard] at hlen

/-- Sidecars are kept apart from what is staged.
Source: `rollout-cloud-local/src/object_store.rs` `meta_path_for`. Kind: L -/
theorem tmp_ne_meta (a b : ContentId) : withExtension (pathFor a) "tmp" ≠ metaPathFor b := by
  intro h
  rw [withExtension_pathFor, metaPathFor] at h
  have hlast := congrArg List.getLast? h
  rw [List.getLast?_concat, List.getLast?_concat] at hlast
  have hchars := congrArg (fun s => s.toList.getLast?) (Option.some.inj hlast)
  simp [String.toList_append] at hchars

theorem pending_ne_meta (ulid : Ulid) (id : ContentId) : tempPathForPending ulid ≠ metaPathFor id := by
  intro h
  have hlen := congrArg List.length h
  simp [tempPathForPending, metaPathFor, shard] at hlen

theorem pending_ne_tmp (ulid : Ulid) (id : ContentId) :
    tempPathForPending ulid ≠ withExtension (pathFor id) "tmp" := by
  intro h
  rw [withExtension_pathFor] at h
  have hlen := congrArg List.length h
  simp [tempPathForPending, shard] at hlen

theorem tempPathForPending_inj {a b : Ulid} :
    tempPathForPending a = tempPathForPending b ↔ a = b := by
  simp [tempPathForPending]

/-! ## The sidecar -/

/-- What the caller says about an object.
Source: `rollout-core/src/traits/cloud.rs` `PutHint`. Kind: D -/
structure PutHint where
  /-- The size, if known. -/
  expectedSize : Option (BitVec 64)
  /-- The MIME type, if applicable. -/
  contentType : Option String

/-- Source: `rollout-cloud-local/src/object_store.rs` `ObjectMeta`. Kind: D -/
structure ObjectMeta where
  /-- How many bytes. -/
  size : BitVec 64
  /-- The MIME type. -/
  contentType : Option String
  /-- When it was written, Unix milliseconds. -/
  createdAtMs : BitVec 128

/-- A character in a JSON string.
Source: `rollout-cloud-local/src/object_store.rs` (`serde_json::to_vec`). Kind: D -/
def jsonChar (c : Char) : String :=
  if c = '"' then "\\\""
  else if c = '\\' then "\\\\"
  else if c.toNat = 8 then "\\b"
  else if c.toNat = 9 then "\\t"
  else if c.toNat = 10 then "\\n"
  else if c.toNat = 12 then "\\f"
  else if c.toNat = 13 then "\\r"
  else if c.toNat < 32 then "\\u00" ++ asciiString (base16.render 2 c.toNat)
  else c.toString

/-- Source: `rollout-cloud-local/src/object_store.rs` (`serde_json::to_vec`). Kind: D -/
def jsonString (s : String) : String := "\"" ++ String.join (s.toList.map jsonChar) ++ "\""

/-- The sidecar as JSON. Source: `rollout-cloud-local/src/object_store.rs` (`serde_json::to_vec`).
Kind: D -/
def ObjectMeta.toJson (m : ObjectMeta) : Bytes :=
  let contentType := match m.contentType with
    | some s => jsonString s
    | none => "null"
  ("\x7b\"size\":" ++ toString m.size.toNat ++ ",\"content_type\":" ++ contentType ++
    ",\"created_at_ms\":" ++ toString m.createdAtMs.toNat ++ "\x7d").toUTF8.data.toList

/-! ## Errors -/

/-- Source: `rollout-cloud-local/src/object_store.rs` `internal`. Kind: D -/
def internal (e : IoError) : CoreError := .internal e.display

/-- Source: `rollout-cloud-local/src/object_store.rs` `transient`. Kind: D -/
def transient (e : IoError) : CoreError :=
  .recoverable (.transient ("fs object_store io: " ++ e.display) (.after 50000000))

/-! ## Operations -/

/-- One file operation; an error of it ends the program (`?` after `map_err`).
Source: `rollout-cloud-local/src/object_store.rs`. Kind: D -/
def io (wrap : IoError → CoreError) (o : FileOp FsPath) : FsM o.Out := do
  let answered ← Prog.op (I := Files.iface FsPath) o
  Prog.ofExcept (answered.mapError wrap)

/-- Fill an open file piece by piece.
Source: `rollout-cloud-local/src/object_store.rs` (`tokio::fs::write`, `write_all`). Kind: D -/
def writeAll (wrap : IoError → CoreError) (file : OpenFile FsPath) : Nat → List Bytes → FsM Unit
  | _, [] => return ()
  | offset, piece :: rest => do
      io wrap (.write file offset piece)
      writeAll wrap file (offset + piece.length) rest

/-- Cut a file to nothing and fill it.
Source: `rollout-cloud-local/src/object_store.rs` (`tokio::fs::write`). Kind: D -/
def fsWrite (wrap : IoError → CoreError) (path : FsPath) (bytes : Bytes) (cuts : List Nat) :
    FsM Unit := do
  let file ← io wrap (.create path)
  writeAll wrap file 0 (pieces cuts bytes)

/-- Read an open file to its end.
Source: `rollout-cloud-local/src/object_store.rs` (`tokio::fs::read`). Kind: D -/
def readToEnd (file : OpenFile FsPath) : Bytes → List Nat → FsM (Except IoError Bytes)
  | acc, [] => do
      match ← Prog.op (I := Files.iface FsPath) (.read file acc.length none) with
      | .error e => return .error e
      | .ok rest => return .ok (acc ++ rest)
  | acc, n :: cuts => do
      match ← Prog.op (I := Files.iface FsPath) (.read file acc.length (some (n + 1))) with
      | .error e => return .error e
      | .ok [] => return .ok acc
      | .ok (b :: piece) => readToEnd file (acc ++ b :: piece) cuts

/-- Source: `rollout-cloud-local/src/object_store.rs` (`tokio::fs::read`). Kind: D -/
def fsRead (path : FsPath) (cuts : List Nat) : FsM (Except IoError Bytes) := do
  match ← Prog.op (I := Files.iface FsPath) (.openRead path) with
  | .error e => return .error e
  | .ok file => readToEnd file [] cuts

variable [Blake3]

/-- The blob of `put_bytes`: staged next to its place and renamed, unless it is there.
Source: `rollout-cloud-local/src/object_store.rs` `put_bytes`. Kind: D -/
def putBlob (id : ContentId) (bytes : Bytes) (cuts : List Nat) : FsM Unit := do
  match ← io internal (.tryExists (pathFor id)) with
  | true => return ()
  | false =>
      let tmp := withExtension (pathFor id) "tmp"
      fsWrite internal tmp bytes cuts
      io internal (.rename tmp (pathFor id))

/-- Source: `rollout-cloud-local/src/object_store.rs` `put_bytes`. Kind: D -/
def putBytes (bytes : Bytes) (hint : PutHint) (nowMs : BitVec 128) (cuts metaCuts : List Nat) :
    FsM ContentId := do
  let id := ContentId.of bytes
  io internal (.createDirAll (parent (pathFor id)))
  putBlob id bytes cuts
  let sidecar : ObjectMeta := ⟨BitVec.ofNat 64 bytes.length, hint.contentType, nowMs⟩
  fsWrite internal (metaPathFor id) sidecar.toJson metaCuts
  return id

/-- Source: `rollout-cloud-local/src/object_store.rs` `get_bytes`. Kind: D -/
def getBytes (id : ContentId) (cuts : List Nat) : FsM Bytes := do
  match ← fsRead (pathFor id) cuts with
  | .ok bytes => return bytes
  | .error .notFound => .err (.internal ("object not found: " ++ id.display))
  | .error e => .err (internal e)

/-- Source: `rollout-cloud-local/src/object_store.rs` `exists`. Kind: D -/
def exists? (id : ContentId) : FsM Bool := io internal (.tryExists (pathFor id))

/-- What a stream gives: a buffer, with how it is cut when it is written, or an error.
Source: `rollout-cloud-local/src/object_store.rs` `put_stream` (`AsyncRead`). Kind: D -/
abbrev StreamRead := Except IoError (Bytes × List Nat)

/-- Store the stream up to its end, with what the hasher was fed.
Source: `rollout-cloud-local/src/object_store.rs` `put_stream` (its loop). Kind: D -/
def copyStream (file : OpenFile FsPath) : Bytes → List StreamRead → FsM Bytes
  | hashed, [] => return hashed
  | _, .error e :: _ => .err (transient e)
  | hashed, .ok (buf, cuts) :: reads =>
      if buf = [] then return hashed
      else do
        writeAll transient file hashed.length (pieces cuts buf)
        copyStream file (hashed ++ buf) reads

/-- The end of `put_stream`: rename the staged file, or discard it when the blob is there.
Source: `rollout-cloud-local/src/object_store.rs` `put_stream`. Kind: D -/
def publishStream (temp : FsPath) (id : ContentId) : FsM ContentId := do
  io transient (.createDirAll (parent (pathFor id)))
  match ← io transient (.tryExists (pathFor id)) with
  | true =>
      let _ ← Prog.op (I := Files.iface FsPath) (.removeFile temp)
      return id
  | false =>
      io transient (.rename temp (pathFor id))
      return id

/-- Source: `rollout-cloud-local/src/object_store.rs` `put_stream`. Kind: D -/
def putStream (ulid : Ulid) (reads : List StreamRead) : FsM ContentId := do
  let temp := tempPathForPending ulid
  io transient (.createDirAll (parent temp))
  let file ← io transient (.create temp)
  let hashed ← copyStream file [] reads
  io transient (.flush file)
  io transient (.syncAll file)
  publishStream temp (ContentId.of hashed)

/-! ## Calls -/

/-- One call, with the identifier it draws, what its clock shows and how its files are cut.
Source: `rollout-cloud-local/src/object_store.rs` `ObjectStore`. Kind: D -/
inductive StoreCall
  | putBytes (bytes : Bytes) (hint : PutHint) (nowMs : BitVec 128) (cuts metaCuts : List Nat)
  | putStream (ulid : Ulid) (reads : List StreamRead)
  | getBytes (id : ContentId) (cuts : List Nat)
  | exists (id : ContentId)

/-- What a call returns. Source: `rollout-cloud-local/src/object_store.rs`. Kind: D -/
@[reducible] def StoreCall.Out : StoreCall → Type
  | .putBytes .. => ContentId
  | .putStream .. => ContentId
  | .getBytes .. => Bytes
  | .exists _ => Bool

/-- The code a call runs. Source: `rollout-cloud-local/src/object_store.rs`. Kind: D -/
def StoreCall.prog : (c : StoreCall) → FsM c.Out
  | .putBytes bytes hint nowMs cuts metaCuts => ObjectStore.putBytes bytes hint nowMs cuts metaCuts
  | .putStream ulid reads => ObjectStore.putStream ulid reads
  | .getBytes id cuts => ObjectStore.getBytes id cuts
  | .exists id => exists? id

/-- Any number of calls on one disk. Source: none: infrastructure. Kind: D -/
def system {ι : Type} (calls : ι → StoreCall) (disk : Disk FsPath) :
    Config (Files.iface FsPath) CoreError (Disk FsPath) fun i => (calls i).Out :=
  ⟨disk, fun i => (calls i).prog⟩

end ObjectStore

end Rollout.CloudLocal
