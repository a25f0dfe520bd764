import Rollout.CloudLocal.ObjectStore
import Rollout.Lib.Chunks

/-!
# Resumable uploads

* `GcsObjectStore.putStreamImpl` — a stream is read in chunks, each hashed and uploaded under its
  byte range, the last one with the total size; then the object is copied to the key of its digest.
  The answers of the service and the reads of the stream are given by the world.
* `TilesStream` — the ranges tile the stream: `tilesStream_iff`. An empty last chunk is sent under a
  byte range.
-/

set_option linter.unusedSectionVars false

namespace Rollout.CloudStore

open Rollout.Lib Rollout.Core
open Rollout.CloudLocal.ObjectStore (PutHint)

/-- The key of an object. Source: `rollout-cloud-gcp/src/gcs/mod.rs`,
`rollout-cloud-aws/src/s3/mod.rs` `sharded_key`. Kind: D -/
def shardedKey (keyPrefix : String) (id : ContentId) : String :=
  let hex := id.chars
  keyPrefix ++ "cas/" ++ asciiString (hex.take 2) ++ "/" ++ asciiString ((hex.drop 2).take 2) ++ "/" ++
    asciiString hex

/-- The key of an upload in progress. Source: `rollout-cloud-gcp/src/gcs/put_stream.rs`,
`rollout-cloud-aws/src/s3/put_stream.rs` (`temp_key`). Kind: D -/
def tempKeyFor (keyPrefix : String) (ulid : Ulid) : String :=
  keyPrefix ++ "temp/pending-" ++ ulid.display

/-- A failure of the stream. Source: `rollout-cloud-gcp/src/error.rs`, `rollout-cloud-aws/src/error.rs`
`recoverable_transient`. Kind: D -/
def recoverableTransient (msg : String) : CoreError :=
  .recoverable (.transient msg (.backoff 200000000 30000000000))

namespace Gcs

/-- Source: `rollout-cloud-gcp/src/gcs/put_stream.rs` `RESUMABLE_MULTIPLE`. Kind: D -/
def resumableMultiple : ℕ := 256 * 1024

/-- Source: `rollout-cloud-gcp/src/gcs/mod.rs` `GcsObjectStore`. Kind: D -/
structure GcsObjectStore where
  /-- The bucket. -/
  bucket : String
  /-- What every key starts with. -/
  keyPrefix : String
  /-- The chunk size configured. -/
  resumableChunkBytes : ℕ

/-- Source: `rollout-cloud-gcp/src/gcs/put_stream.rs` (`UploadStatus`). Kind: D -/
inductive UploadStatus
  | ok
  | resumeIncomplete
deriving DecidableEq

/-- One chunk on the wire: the first and the last byte if the request names a range, the total size if
it does, and the body. Source: `rollout-cloud-gcp/src/gcs/put_stream.rs` (`upload_multiple_chunk`).
Kind: D -/
structure ChunkUpload where
  /-- The first and the last byte. -/
  range : Option (ℕ × ℕ)
  /-- The total size. -/
  total : Option ℕ
  /-- The bytes. -/
  body : Bytes

/-- A range of bytes, as the library sends it. Source: `rollout-cloud-gcp/src/gcs/put_stream.rs`
(`ChunkSize::new`). Kind: D -/
structure ChunkSize where
  /-- The first byte. -/
  firstByte : ℕ
  /-- The last byte. -/
  lastByte : ℕ
  /-- The total size. -/
  totalObjectSize : Option ℕ

/-- What the service answers. Source: `rollout-cloud-gcp/src/gcs/put_stream.rs`. Kind: D -/
structure World where
  /-- The id of the temporary key. -/
  ulid : Ulid
  /-- Why no session begins. -/
  prepareResumableUpload : (bucket key contentType : String) → Except CoreError Unit
  /-- The answer to each chunk, by the number of those before. -/
  uploadMultipleChunk : ℕ → Except CoreError UploadStatus
  /-- The answer to the copy. -/
  copyObject : (bucket source destination : String) → Except CoreError Unit
  /-- The answer to the removal. -/
  deleteObject : (bucket key : String) → Except CoreError Unit

/-- The variables of the call; the offset has 64 bits, more than any stream has bytes.
Source: `rollout-cloud-gcp/src/gcs/put_stream.rs` `put_stream_impl`. Kind: D -/
structure Locals where
  /-- What is hashed. -/
  hashed : Bytes
  /-- How much is uploaded. -/
  offset : ℕ
  /-- The chunks sent. -/
  sent : List ChunkUpload

/-- Send a chunk. Source: `rollout-cloud-gcp/src/gcs/put_stream.rs` `put_stream_impl`
(`upload_multiple_chunk`). Kind: D -/
def uploadMultipleChunk (world : World) (body : Bytes) (size : ChunkSize) :
    FailM Locals UploadStatus := do
  let answer := world.uploadMultipleChunk (← get).sent.length
  modify fun s => { s with sent := s.sent ++
    [⟨some (size.firstByte, size.lastByte), size.totalObjectSize, body⟩] }
  ofExcept answer

/-- A buffer that is full. Source: `rollout-cloud-gcp/src/gcs/put_stream.rs` `put_stream_impl`
(`filled == chunk_size`). Kind: D -/
def flushFull (world : World) (chunk : Bytes) : FailM Locals Unit := do
  modify fun s => { s with hashed := s.hashed ++ chunk }
  let offset := (← get).offset
  let _ ← uploadMultipleChunk world chunk ⟨offset, offset + chunk.length - 1, none⟩
  modify fun s => { s with offset := offset + chunk.length }

/-- The end of the stream. Source: `rollout-cloud-gcp/src/gcs/put_stream.rs` `put_stream_impl`
(`n == 0`). Kind: D -/
def flushLast (world : World) (chunk : Bytes) : FailM Locals Unit := do
  let offset := (← get).offset
  let total := offset + chunk.length
  modify fun s => { s with hashed := s.hashed ++ chunk }
  let lastByte := if total = 0 then 0 else total - 1
  let status ← uploadMultipleChunk world chunk ⟨offset, lastByte, some total⟩
  if status ≠ .ok then
    throw (.internal "resumable upload did not finalize after final chunk")

/-- The chunk size: a multiple of 256 KiB. Source: `rollout-cloud-gcp/src/gcs/put_stream.rs`
`put_stream_impl` (`chunk_size`). Kind: D -/
def chunkSize (store : GcsObjectStore) : ℕ :=
  max (store.resumableChunkBytes / resumableMultiple) 1 * resumableMultiple

/-- The object under the key of its digest. Source: `rollout-cloud-gcp/src/gcs/put_stream.rs`
`put_stream_impl` (`copy_object`, `delete_object`). Kind: D -/
def copyToFinal [Blake3] (world : World) (store : GcsObjectStore) (tempKey : String) :
    FailM Locals ContentId := do
  let contentId := ContentId.of (← get).hashed
  let finalKey := shardedKey store.keyPrefix contentId
  ofExcept (world.copyObject store.bucket tempKey finalKey)
  ofExcept (world.deleteObject store.bucket tempKey)
  return contentId

/-- **Upload a stream.** Source: `rollout-cloud-gcp/src/gcs/put_stream.rs` `put_stream_impl`.
Kind: D -/
def putStreamImpl [Blake3] (world : World) (store : GcsObjectStore) (stream : Reader UInt8)
    (hint : PutHint) : FailM Locals ContentId := do
  let tempKey := tempKeyFor store.keyPrefix world.ulid
  ofExcept (world.prepareResumableUpload store.bucket tempKey
    (hint.contentType.getD "application/octet-stream"))
  fillLoop (chunkSize store) (flushFull world) (flushLast world)
    (fun e => throw (recoverableTransient ("stream read: " ++ e))) stream []
  copyToFinal world store tempKey

/-- The call begins with nothing sent. Source: `rollout-cloud-gcp/src/gcs/put_stream.rs`
`put_stream_impl`. Kind: D -/
def Locals.start : Locals := ⟨[], 0, []⟩

@[simp] theorem Locals.start_hashed : Locals.start.hashed = [] := rfl

@[simp] theorem Locals.start_offset : Locals.start.offset = 0 := rfl

@[simp] theorem Locals.start_sent : Locals.start.sent = [] := rfl

/-! ## What is asked of the requests -/

/-- The byte range of a chunk; an empty one has none. Source:
`rollout-cloud-gcp/src/gcs/put_stream.rs` (its documentation). Kind: D -/
def rangeOf (offset : ℕ) (body : Bytes) : Option (ℕ × ℕ) :=
  if body = [] then none else some (offset, offset + body.length - 1)

/-- The ranges follow one another. Source: `rollout-cloud-gcp/src/gcs/put_stream.rs` (its
documentation). Kind: D -/
def Contiguous : ℕ → List ChunkUpload → Prop
  | _, [] => True
  | offset, u :: us => u.range = rangeOf offset u.body ∧ Contiguous (offset + u.body.length) us

/-- The bytes sent. Source: none: infrastructure. Kind: D -/
def bodies (sent : List ChunkUpload) : Bytes := sent.flatMap ChunkUpload.body

/-- **The requests tile the stream**: the ranges are contiguous from zero, every chunk but the last is
a multiple of 256 KiB, only the last request declares the size, and a call that succeeds has sent the
whole stream and returns its digest. Source: `rollout-cloud-gcp/src/gcs/put_stream.rs` (its
documentation). Kind: D -/
structure TilesStream [Blake3] (bytes : Bytes) (answer : Except CoreError ContentId)
    (sent : List ChunkUpload) : Prop where
  contiguous : Contiguous 0 sent
  part : bodies sent <+: bytes
  multiples : ∀ u ∈ sent.dropLast, resumableMultiple ∣ u.body.length
  undeclared : ∀ u ∈ sent.dropLast, u.total = none
  declared : ∀ u ∈ sent.getLast?, ∀ total, u.total = some total →
    total = bytes.length ∧ bodies sent = bytes
  finished : ∀ id, answer = .ok id → bodies sent = bytes ∧
    (∃ u ∈ sent.getLast?, u.total = some bytes.length) ∧ id = ContentId.of (bodies sent)

/-- The requests of full chunks. Source: `rollout-cloud-gcp/src/gcs/put_stream.rs`
`put_stream_impl`. Kind: D -/
def fullUploads : ℕ → List Bytes → List ChunkUpload
  | _, [] => []
  | offset, p :: ps =>
      ⟨some (offset, offset + p.length - 1), none, p⟩ :: fullUploads (offset + p.length) ps

section sent

variable {offset : ℕ} {ps : List Bytes} {u : ChunkUpload}

@[simp] theorem bodies_append (a b : List ChunkUpload) : bodies (a ++ b) = bodies a ++ bodies b :=
  List.flatMap_append

@[simp] theorem bodies_singleton (u : ChunkUpload) : bodies [u] = u.body := by
  simp [bodies]

@[simp] theorem bodies_fullUploads (offset : ℕ) (ps : List Bytes) :
    bodies (fullUploads offset ps) = ps.flatten := by
  induction ps generalizing offset with
  | nil => rfl
  | cons p ps ih =>
      show p ++ bodies (fullUploads (offset + p.length) ps) = _
      rw [ih, List.flatten_cons]

theorem contiguous_append (a b : List ChunkUpload) : Contiguous offset (a ++ b) ↔
    Contiguous offset a ∧ Contiguous (offset + (bodies a).length) b := by
  induction a generalizing offset with
  | nil => simp [Contiguous, bodies]
  | cons u a ih =>
      rw [List.cons_append, Contiguous, Contiguous, ih, and_assoc]
      simp [bodies, Nat.add_assoc]

/-- Full chunks follow one another. Source: `rollout-cloud-gcp/src/gcs/put_stream.rs`
`put_stream_impl`. Kind: L -/
theorem contiguous_fullUploads (hne : ∀ p ∈ ps, p ≠ []) : Contiguous offset (fullUploads offset ps) := by
  induction ps generalizing offset with
  | nil => trivial
  | cons p ps ih =>
      refine ⟨?_, ih fun q hq => hne q (List.mem_cons_of_mem _ hq)⟩
      exact (if_neg (hne p List.mem_cons_self)).symm

theorem of_mem_fullUploads (h : u ∈ fullUploads offset ps) : u.total = none ∧ u.body ∈ ps := by
  induction ps generalizing offset with
  | nil => cases h
  | cons p ps ih =>
      rcases List.mem_cons.mp h with rfl | h
      · exact ⟨rfl, List.mem_cons_self⟩
      · exact (ih h).imp_right (List.mem_cons_of_mem _)

end sent

/-! ## The run -/

section run

variable {world : World} {store : GcsObjectStore} {stream : Reader UInt8} {hint : PutHint}
  {chunk : Bytes} {s : Locals}

theorem resumableMultiple_dvd (store : GcsObjectStore) : resumableMultiple ∣ chunkSize store :=
  Nat.dvd_mul_left _ _

theorem chunkSize_pos (store : GcsObjectStore) : 0 < chunkSize store := by
  refine Nat.mul_pos ?_ (by decide)
  omega

/-- A full chunk is sent before it is known whether it arrives; only then is it counted.
Source: `rollout-cloud-gcp/src/gcs/put_stream.rs` `put_stream_impl`. Kind: L -/
theorem flushFull_apply (world : World) (chunk : Bytes) (s : Locals) : flushFull world chunk s =
    match world.uploadMultipleChunk s.sent.length with
    | .ok _ => (.ok (), ⟨s.hashed ++ chunk, s.offset + chunk.length,
        s.sent ++ fullUploads s.offset [chunk]⟩)
    | .error e => (.error e, ⟨s.hashed ++ chunk, s.offset, s.sent ++ fullUploads s.offset [chunk]⟩) := by
  have hrun : flushFull world chunk s = (do
      let _ ← (ofExcept (world.uploadMultipleChunk s.sent.length) : FailM Locals UploadStatus)
      modify fun s' => { s' with offset := s.offset + chunk.length } : FailM Locals Unit)
      ⟨s.hashed ++ chunk, s.offset, s.sent ++ fullUploads s.offset [chunk]⟩ := rfl
  rw [hrun]
  cases world.uploadMultipleChunk s.sent.length with
  | ok status => rfl
  | error e => rfl

/-- **The full chunks**: all are sent, or those up to the first one that fails.
Source: `rollout-cloud-gcp/src/gcs/put_stream.rs` `put_stream_impl`. Kind: P -/
theorem forM_flushFull (world : World) (ps : List Bytes) (s : Locals) :
    ((∀ k < ps.length, ∃ status, world.uploadMultipleChunk (s.sent.length + k) = .ok status) ∧
      forM ps (flushFull world) s = (.ok (), ⟨s.hashed ++ ps.flatten, s.offset + ps.flatten.length,
        s.sent ++ fullUploads s.offset ps⟩)) ∨
    ∃ k < ps.length, ∃ e s', world.uploadMultipleChunk (s.sent.length + k) = .error e ∧
      forM ps (flushFull world) s = (.error e, s') ∧
      s'.sent = s.sent ++ fullUploads s.offset (ps.take (k + 1)) := by
  induction ps generalizing s with
  | nil => exact .inl ⟨fun k hk => absurd hk (Nat.not_lt_zero k), by simp [fullUploads]; rfl⟩
  | cons p ps ih =>
      rw [List.forM_cons, FailM.bind_apply]
      cases hup : world.uploadMultipleChunk s.sent.length with
      | error e =>
          refine .inr ⟨0, Nat.succ_pos _, e, _, hup, by rw [flushFull_apply, hup], ?_⟩
          rfl
      | ok status =>
          rw [flushFull_apply, hup]
          have hlen : (s.sent ++ fullUploads s.offset [p]).length = s.sent.length + 1 := by
            simp [fullUploads]
          rcases ih ⟨s.hashed ++ p, s.offset + p.length, s.sent ++ fullUploads s.offset [p]⟩ with
            ⟨hall, hrun⟩ | ⟨k, hk, e, s', he, hrun, hsent⟩
          · refine .inl ⟨fun k hk => ?_, ?_⟩
            · cases k with
              | zero => exact ⟨status, hup⟩
              | succ k =>
                  have hnext := hall k (by simpa using hk)
                  rw [hlen, Nat.add_assoc, Nat.add_comm 1] at hnext
                  exact hnext
            · dsimp only
              rw [hrun]
              simp [fullUploads, Nat.add_assoc]
          · refine .inr ⟨k + 1, by simpa using hk, e, s', ?_, hrun, ?_⟩
            · rw [hlen, Nat.add_assoc, Nat.add_comm 1] at he
              exact he
            · rw [hsent]
              simp [fullUploads]

/-- The full chunks of a call. Source: `rollout-cloud-gcp/src/gcs/put_stream.rs` `put_stream_impl`.
Kind: L -/
theorem forM_flushFull_start (world : World) (ps : List Bytes) :
    ((∀ k < ps.length, ∃ status, world.uploadMultipleChunk k = .ok status) ∧
      forM ps (flushFull world) .start =
        (.ok (), ⟨ps.flatten, ps.flatten.length, fullUploads 0 ps⟩)) ∨
    ∃ k < ps.length, ∃ e s', world.uploadMultipleChunk k = .error e ∧
      forM ps (flushFull world) .start = (.error e, s') ∧
      s'.sent = fullUploads 0 (ps.take (k + 1)) := by
  simpa using forM_flushFull world ps .start

/-- The last chunk. Source: `rollout-cloud-gcp/src/gcs/put_stream.rs` `put_stream_impl`. Kind: L -/
theorem flushLast_apply (world : World) (chunk : Bytes) (s : Locals) : ∃ answer,
    flushLast world chunk s = (answer, ⟨s.hashed ++ chunk, s.offset, s.sent ++
      [⟨some (s.offset, if s.offset + chunk.length = 0 then 0 else s.offset + chunk.length - 1),
        some (s.offset + chunk.length), chunk⟩]⟩) := by
  have hrun : flushLast world chunk s = (do
      let status ← (ofExcept (world.uploadMultipleChunk s.sent.length) : FailM Locals UploadStatus)
      if status ≠ .ok then
        throw (.internal "resumable upload did not finalize after final chunk") :
          FailM Locals Unit)
      ⟨s.hashed ++ chunk, s.offset, s.sent ++
        [⟨some (s.offset, if s.offset + chunk.length = 0 then 0 else s.offset + chunk.length - 1),
          some (s.offset + chunk.length), chunk⟩]⟩ := rfl
  rw [hrun]
  cases world.uploadMultipleChunk s.sent.length with
  | error e => exact ⟨.error e, rfl⟩
  | ok status => cases status <;> exact ⟨_, rfl⟩

/-- A request that fails ends the call, and one that succeeds changes nothing of its own.
Source: none: infrastructure. Kind: L -/
theorem answer_ofExcept_bind {σ : Type} {x : Except CoreError Unit} {p : FailM σ ContentId} {s : σ}
    {c : ContentId} (h : ∃ answer, p s = (answer, s) ∧ ∀ id, answer = .ok id → id = c) :
    ∃ answer, (ofExcept x >>= fun _ => p) s = (answer, s) ∧ ∀ id, answer = .ok id → id = c := by
  cases x with
  | error e =>
      refine ⟨.error e, FailM.bind_of_error (FailM.ofExcept_apply _ _) _, fun id hid => ?_⟩
      cases hid
  | ok u =>
      obtain ⟨answer, hrun, hid⟩ := h
      exact ⟨answer, (FailM.bind_of_ok (FailM.ofExcept_apply _ _) _).trans hrun, hid⟩

theorem copyToFinal_apply [Blake3] (world : World) (store : GcsObjectStore) (tempKey : String)
    (s : Locals) : ∃ answer, copyToFinal world store tempKey s = (answer, s) ∧
      ∀ id, answer = .ok id → id = ContentId.of s.hashed := by
  have hrun : copyToFinal world store tempKey s = (do
      ofExcept (world.copyObject store.bucket tempKey
        (shardedKey store.keyPrefix (ContentId.of s.hashed)))
      ofExcept (world.deleteObject store.bucket tempKey)
      return ContentId.of s.hashed : FailM Locals ContentId) s := rfl
  rw [hrun]
  refine answer_ofExcept_bind (answer_ofExcept_bind ⟨.ok _, rfl, fun id hid => ?_⟩)
  exact (Except.ok.inj hid).symm

/-- The last request is sent. Source: `rollout-cloud-gcp/src/gcs/put_stream.rs` `put_stream_impl`.
Kind: D -/
structure Finalizes (world : World) (store : GcsObjectStore) (stream : Reader UInt8)
    (hint : PutHint) : Prop where
  prepared : world.prepareResumableUpload store.bucket (tempKeyFor store.keyPrefix world.ulid)
    (hint.contentType.getD "application/octet-stream") = .ok ()
  ended : stream.ending = none
  uploaded : ∀ k < stream.rest.length / chunkSize store, ∃ status,
    world.uploadMultipleChunk k = .ok status

/-- The last request. Source: `rollout-cloud-gcp/src/gcs/put_stream.rs` `put_stream_impl`. Kind: D -/
def lastUpload (store : GcsObjectStore) (bytes : Bytes) : ChunkUpload where
  range := some (chunkSize store * (bytes.length / chunkSize store),
    if bytes.length = 0 then 0 else bytes.length - 1)
  total := some bytes.length
  body := lastChunk (chunkSize store) bytes

theorem length_flatten_fullChunks (c : ℕ) (bytes : Bytes) :
    (fullChunks c bytes).flatten.length = c * (bytes.length / c) := by
  have hlen := congrArg List.length (flatten_fullChunks c bytes)
  rw [List.length_append, length_lastChunk] at hlen
  have hdiv := Nat.div_add_mod bytes.length c
  omega

/-- **What a call sends**: full chunks only, or all and the last request.
Source: `rollout-cloud-gcp/src/gcs/put_stream.rs` `put_stream_impl`. Kind: P -/
theorem putStreamImpl_apply [Blake3] (world : World) (store : GcsObjectStore) (stream : Reader UInt8)
    (hint : PutHint) :
    (¬ Finalizes world store stream hint ∧ ∃ n e s',
      putStreamImpl world store stream hint .start = (.error e, s') ∧
      s'.sent = fullUploads 0 ((fullChunks (chunkSize store) stream.rest).take n)) ∨
    (Finalizes world store stream hint ∧ ∃ answer s',
      putStreamImpl world store stream hint .start = (answer, s') ∧
      s'.sent = fullUploads 0 (fullChunks (chunkSize store) stream.rest) ++
        [lastUpload store stream.rest] ∧
      ∀ id, answer = .ok id → id = ContentId.of stream.rest) := by
  have hempty : ([] : Bytes).length < chunkSize store := chunkSize_pos store
  unfold putStreamImpl
  rw [fillLoop_eq stream hempty, List.nil_append]
  cases hprep : world.prepareResumableUpload store.bucket (tempKeyFor store.keyPrefix world.ulid)
      (hint.contentType.getD "application/octet-stream") with
  | error e =>
      refine .inl ⟨fun h => ?_, 0, e, .start, FailM.bind_of_error (FailM.ofExcept_apply _ _) _, rfl⟩
      cases hprep.symm.trans h.prepared
  | ok u =>
      rw [FailM.bind_of_ok (FailM.ofExcept_apply _ _)]
      rcases forM_flushFull_start world (fullChunks (chunkSize store) stream.rest) with
        ⟨hall, hrun⟩ | ⟨k, hk, e, s', he, hrun, hsent⟩
      · cases hend : stream.ending with
        | some e =>
            refine .inl ⟨fun h => ?_, (fullChunks (chunkSize store) stream.rest).length, _, _,
              FailM.bind_of_error (FailM.bind_of_ok hrun _) _, by rw [List.take_length]⟩
            cases hend.symm.trans h.ended
        | none =>
            have hfinal : Finalizes world store stream hint :=
              ⟨hprep, hend, fun k hk => hall k (by rwa [length_fullChunks])⟩
            refine .inr ⟨hfinal, ?_⟩
            obtain ⟨answer, hlast⟩ := flushLast_apply world (lastChunk (chunkSize store) stream.rest)
              ⟨(fullChunks (chunkSize store) stream.rest).flatten,
                (fullChunks (chunkSize store) stream.rest).flatten.length,
                fullUploads 0 (fullChunks (chunkSize store) stream.rest)⟩
            have hflat := flatten_fullChunks (chunkSize store) stream.rest
            have htotal : chunkSize store * (stream.rest.length / chunkSize store) +
                (lastChunk (chunkSize store) stream.rest).length = stream.rest.length := by
              rw [length_lastChunk, Nat.div_add_mod]
            have hsend := (FailM.bind_of_ok hrun fun _ =>
              flushLast world (lastChunk (chunkSize store) stream.rest)).trans hlast
            simp only [hflat, length_flatten_fullChunks, htotal] at hsend
            cases answer with
            | error e =>
                exact ⟨.error e, _, FailM.bind_of_error hsend _, rfl, fun id hid => by cases hid⟩
            | ok u =>
                obtain ⟨answer, hcopy, hid⟩ := copyToFinal_apply world store
                  (tempKeyFor store.keyPrefix world.ulid) ⟨stream.rest, _, _⟩
                exact ⟨answer, _, (FailM.bind_of_ok hsend _).trans hcopy, rfl, hid⟩
      · refine .inl ⟨fun h => ?_, k + 1, e, s',
          FailM.bind_of_error (FailM.bind_of_error hrun _) _, hsent⟩
        obtain ⟨status, hstatus⟩ := h.uploaded k (by rwa [length_fullChunks] at hk)
        cases hstatus.symm.trans he

/-- Full chunks are as they should be. Source: `rollout-cloud-gcp/src/gcs/put_stream.rs`
`put_stream_impl`. Kind: L -/
theorem tilesStream_full [Blake3] {bytes : Bytes} {e : CoreError} (n : ℕ) :
    TilesStream bytes (.error e) (fullUploads 0 ((fullChunks (chunkSize store) bytes).take n)) := by
  have hpart : ((fullChunks (chunkSize store) bytes).take n).flatten <+: bytes := by
    have htake := List.take_append_drop n (fullChunks (chunkSize store) bytes)
    refine ⟨((fullChunks (chunkSize store) bytes).drop n).flatten ++ lastChunk (chunkSize store) bytes,
      ?_⟩
    rw [← List.append_assoc, ← List.flatten_append, htake, flatten_fullChunks]
  have hmem : ∀ u ∈ fullUploads 0 ((fullChunks (chunkSize store) bytes).take n),
      u.total = none ∧ u.body.length = chunkSize store := by
    intro u hu
    obtain ⟨htotal, hbody⟩ := of_mem_fullUploads hu
    exact ⟨htotal, length_of_mem_fullChunks (List.mem_of_mem_take hbody)⟩
  refine ⟨contiguous_fullUploads fun p hp => ?_, ?_, fun u hu => ?_, fun u hu => ?_,
    fun u hu total htotal => ?_, fun id hid => by cases hid⟩
  · have hlen := length_of_mem_fullChunks (List.mem_of_mem_take hp)
    rintro rfl
    exact absurd hlen (chunkSize_pos store).ne
  · rw [bodies_fullUploads]
    exact hpart
  · rw [(hmem u (List.dropLast_subset _ hu)).2]
    exact resumableMultiple_dvd store
  · exact (hmem u (List.dropLast_subset _ hu)).1
  · rw [(hmem u (List.mem_of_getLast? hu)).1] at htotal
    cases htotal

/-- All chunks tile the stream exactly when the last is not empty.
Source: `rollout-cloud-gcp/src/gcs/put_stream.rs` `put_stream_impl`. Kind: P -/
theorem tilesStream_last [Blake3] {bytes : Bytes} {answer : Except CoreError ContentId}
    (hid : ∀ id, answer = .ok id → id = ContentId.of bytes) :
    TilesStream bytes answer (fullUploads 0 (fullChunks (chunkSize store) bytes) ++
      [lastUpload store bytes]) ↔ ¬ chunkSize store ∣ bytes.length := by
  have hbodies : bodies (fullUploads 0 (fullChunks (chunkSize store) bytes) ++
      [lastUpload store bytes]) = bytes := by
    rw [bodies_append, bodies_fullUploads, bodies_singleton]
    exact flatten_fullChunks (chunkSize store) bytes
  have hmem : ∀ u ∈ fullUploads 0 (fullChunks (chunkSize store) bytes),
      u.total = none ∧ u.body.length = chunkSize store := by
    intro u hu
    obtain ⟨htotal, hbody⟩ := of_mem_fullUploads hu
    exact ⟨htotal, length_of_mem_fullChunks hbody⟩
  have hranges : Contiguous 0 (fullUploads 0 (fullChunks (chunkSize store) bytes) ++
      [lastUpload store bytes]) ↔ ¬ chunkSize store ∣ bytes.length := by
    have hfull : Contiguous 0 (fullUploads 0 (fullChunks (chunkSize store) bytes)) := by
      refine contiguous_fullUploads fun p hp => ?_
      have hlen := length_of_mem_fullChunks hp
      rintro rfl
      exact absurd hlen (chunkSize_pos store).ne
    rw [contiguous_append, and_iff_right hfull, bodies_fullUploads, length_flatten_fullChunks,
      Nat.zero_add, ← lastChunk_eq_nil]
    constructor
    · rintro ⟨hrange, -⟩ hnil
      rw [lastUpload, hnil, rangeOf, if_pos rfl] at hrange
      cases hrange
    · intro hne
      refine ⟨?_, trivial⟩
      have hlast := length_lastChunk (chunkSize store) bytes
      have hdiv := Nat.div_add_mod bytes.length (chunkSize store)
      have hpos := List.length_pos_of_ne_nil hne
      have hzero : bytes.length ≠ 0 := by omega
      rw [lastUpload, rangeOf, if_neg hne, if_neg hzero, hlast, hdiv]
  constructor
  · exact fun h => hranges.mp h.contiguous
  · intro h
    refine ⟨hranges.mpr h, ?_, fun u hu => ?_, fun u hu => ?_, fun u hu total htotal => ?_,
      fun id hok => ⟨hbodies, ⟨lastUpload store bytes, ?_, rfl⟩, ?_⟩⟩
    · exact ⟨[], by rw [hbodies, List.append_nil]⟩
    · rw [List.dropLast_concat] at hu
      rw [(hmem u hu).2]
      exact resumableMultiple_dvd store
    · rw [List.dropLast_concat] at hu
      exact (hmem u hu).1
    · rw [List.getLast?_concat] at hu
      cases hu
      cases htotal
      exact ⟨rfl, hbodies⟩
    · rw [List.getLast?_concat]
      rfl
    · rw [hbodies]
      exact hid id hok

end run

/-! ## An empty stream -/

/-- A store with the smallest chunks. Source: none: infrastructure. Kind: D -/
def smallStore : GcsObjectStore := ⟨"b", "", 0⟩

/-- A service that accepts everything. Source: none: infrastructure. Kind: D -/
def acceptingWorld : World where
  ulid := ⟨7⟩
  prepareResumableUpload _ _ _ := .ok ()
  uploadMultipleChunk _ := .ok .ok
  copyObject _ _ _ := .ok ()
  deleteObject _ _ := .ok ()

section empty

local instance : Blake3 := emptyBlake3

/-- A stream that ends at once. Source: none: infrastructure. Kind: D -/
def emptyStream : Reader UInt8 := ⟨[], fun _ => 0, none⟩

theorem finalizes_emptyStream : Finalizes acceptingWorld smallStore emptyStream ⟨none, none⟩ :=
  ⟨rfl, rfl, fun _ _ => ⟨.ok, rfl⟩⟩

end empty

end Gcs

end Rollout.CloudStore
