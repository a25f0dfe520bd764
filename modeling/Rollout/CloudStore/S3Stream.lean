import Rollout.CloudStore.GcsStream

/-!
# Multipart uploads

* `S3ObjectStore.putStreamImpl` — a stream is read in chunks, each hashed and uploaded as a numbered
  part; the upload is completed with the list of the parts and the object copied to the key of its
  digest. The answers of the service and the reads of the stream are given by the world; the abort of
  an upload that is not completed is left out.
* `Reproduces` — the parts are the stream, numbered and sized as the service wants them:
  `reproduces_iff`. Nothing keeps their number below the service's limit.
-/

set_option linter.unusedSectionVars false

namespace Rollout.CloudStore.S3

open Rollout.Lib Rollout.Core
open Rollout.CloudLocal.ObjectStore (PutHint)

/-! ## The code -/

/-- Source: `rollout-cloud-aws/src/s3/mod.rs` `S3ObjectStore`. Kind: D -/
structure S3ObjectStore where
  /-- The bucket. -/
  bucket : String
  /-- What every key starts with. -/
  keyPrefix : String
  /-- The chunk size configured. -/
  multipartChunkBytes : ℕ

/-- Source: `rollout-cloud-aws/src/s3/put_stream.rs` (`CompletedPart`). Kind: D -/
structure CompletedPart where
  /-- The tag of the part. -/
  eTag : String
  /-- Its number. -/
  partNumber : ℕ
deriving DecidableEq

/-- One part on the wire. Source: `rollout-cloud-aws/src/s3/put_stream.rs` `upload_one_part`
(`upload_part`). Kind: D -/
structure PartUpload where
  /-- Its number. -/
  partNumber : ℕ
  /-- The bytes. -/
  body : Bytes
deriving DecidableEq

/-- What the service answers. Source: `rollout-cloud-aws/src/s3/put_stream.rs`. Kind: D -/
structure World where
  /-- The id of the temporary key. -/
  ulid : Ulid
  /-- The upload that is created. -/
  createMultipartUpload : (bucket key contentType : String) → Except CoreError (Option String)
  /-- The tag of each part, by the number of parts sent before. -/
  uploadPart : ℕ → Except CoreError (Option String)
  /-- The answer to the list of parts. -/
  completeMultipartUpload : List CompletedPart → Except CoreError Unit
  /-- The answer to the copy. -/
  copyObject : (bucket key copySource : String) → Except CoreError Unit
  /-- The answer to the removal. -/
  deleteObject : (bucket key : String) → Except CoreError Unit

/-- The variables of the call; part numbers have 32 bits, more than any upload has parts.
Source: `rollout-cloud-aws/src/s3/put_stream.rs` `put_stream_impl`. Kind: D -/
structure Locals where
  /-- What is hashed. -/
  hashed : Bytes
  /-- The parts that are uploaded. -/
  parts : List CompletedPart
  /-- The number of the next part. -/
  partNumber : ℕ
  /-- The parts sent. -/
  sent : List PartUpload
  /-- The list the upload is completed with. -/
  completed : Option (List CompletedPart)

/-- Hash a chunk and upload it. Source: `rollout-cloud-aws/src/s3/put_stream.rs` `upload_one_part`.
Kind: D -/
def uploadOnePart (world : World) (chunk : Bytes) : FailM Locals Unit := do
  modify fun s => { s with hashed := s.hashed ++ chunk }
  let partNumber := (← get).partNumber
  let answer := world.uploadPart (← get).sent.length
  modify fun s => { s with sent := s.sent ++ [⟨partNumber, chunk⟩] }
  let eTag ← ofExcept answer
  modify fun s => { s with parts := s.parts ++ [⟨eTag.getD "", partNumber⟩] }

/-- A buffer that is full. Source: `rollout-cloud-aws/src/s3/put_stream.rs` `put_stream_impl`
(`filled == chunk_size`). Kind: D -/
def flushFull (world : World) (chunk : Bytes) : FailM Locals Unit := do
  uploadOnePart world chunk
  modify fun s => { s with partNumber := s.partNumber + 1 }

/-- The end of the stream. Source: `rollout-cloud-aws/src/s3/put_stream.rs` `put_stream_impl`
(`n == 0`). Kind: D -/
def flushLast (world : World) (chunk : Bytes) : FailM Locals Unit := do
  if 0 < chunk.length ∨ (← get).partNumber = 1 then
    uploadOnePart world chunk

/-- Source: `rollout-cloud-aws/src/s3/put_stream.rs` `MultipartGuard::commit`. Kind: D -/
def commit (world : World) (parts : List CompletedPart) : FailM Locals Unit := do
  modify fun s => { s with completed := some parts }
  ofExcept (world.completeMultipartUpload parts)

/-- The upload is completed and the object put under the key of its digest.
Source: `rollout-cloud-aws/src/s3/put_stream.rs` `put_stream_impl` (after its loop). Kind: D -/
def finish [Blake3] (world : World) (store : S3ObjectStore) (tempKey : String) :
    FailM Locals ContentId := do
  let contentId := ContentId.of (← get).hashed
  commit world (← get).parts
  let finalKey := shardedKey store.keyPrefix contentId
  ofExcept (world.copyObject store.bucket finalKey (store.bucket ++ "/" ++ tempKey))
  ofExcept (world.deleteObject store.bucket tempKey)
  return contentId

/-- The chunk size: at least 5 MiB. Source: `rollout-cloud-aws/src/s3/put_stream.rs`
`put_stream_impl` (`chunk_size`). Kind: D -/
def chunkSize (store : S3ObjectStore) : ℕ := max store.multipartChunkBytes (5 * 1024 * 1024)

/-- An upload is created. Source: `rollout-cloud-aws/src/s3/put_stream.rs` `put_stream_impl`
(`create`, `upload_id`). Kind: D -/
def create (world : World) (store : S3ObjectStore) (hint : PutHint) : Except CoreError String := do
  let uploadId ← world.createMultipartUpload store.bucket (tempKeyFor store.keyPrefix world.ulid)
    (hint.contentType.getD "application/octet-stream")
  match uploadId with
  | some uploadId => return uploadId
  | none => throw (.internal "CreateMultipartUpload missing upload_id")

/-- **Upload a stream.** Source: `rollout-cloud-aws/src/s3/put_stream.rs` `put_stream_impl`.
Kind: D -/
def putStreamImpl [Blake3] (world : World) (store : S3ObjectStore) (stream : Reader UInt8)
    (hint : PutHint) : FailM Locals ContentId := do
  let _ ← ofExcept (create world store hint)
  fillLoop (chunkSize store) (flushFull world) (flushLast world)
    (fun e => throw (recoverableTransient ("stream read: " ++ e))) stream []
  finish world store (tempKeyFor store.keyPrefix world.ulid)

/-- The call begins with nothing sent. Source: `rollout-cloud-aws/src/s3/put_stream.rs`
`put_stream_impl`. Kind: D -/
def Locals.start : Locals := ⟨[], [], 1, [], none⟩

/-! ## What is asked of the parts -/

/-- The bytes sent. Source: none: infrastructure. Kind: D -/
def bodies (sent : List PartUpload) : Bytes := sent.flatMap PartUpload.body

/-- A part sent, with the tag it got. Source: `rollout-cloud-aws/src/s3/put_stream.rs`
`upload_one_part` (`CompletedPart::builder`). Kind: D -/
def completedPart (world : World) (k : ℕ) (u : PartUpload) : CompletedPart where
  eTag := ((world.uploadPart k).toOption.bind id).getD ""
  partNumber := u.partNumber

/-- The most parts an upload may have. Source: none: the service's documented limit. Kind: D -/
def maxParts : ℕ := 10000

/-- **The parts reproduce the stream**: they are numbered from one, within the service's limit, and
follow one another through the stream, every part but the last has the chunk size of at least 5 MiB,
none is empty unless the stream is, the completed list names exactly the parts sent, and a call that
succeeds has sent the whole stream and returns its digest.
Source: `rollout-cloud-aws/src/s3/put_stream.rs` (its documentation). Kind: D -/
structure Reproduces [Blake3] (world : World) (size : ℕ) (bytes : Bytes)
    (answer : Except CoreError ContentId) (sent : List PartUpload)
    (completed : Option (List CompletedPart)) : Prop where
  part : bodies sent <+: bytes
  numbered : sent.map PartUpload.partNumber = List.range' 1 sent.length
  limit : sent.length ≤ maxParts
  least : 5 * 1024 * 1024 ≤ size
  sizes : ∀ u ∈ sent.dropLast, u.body.length = size
  nonempty : ∀ u ∈ sent, u.body = [] → bytes = []
  listed : ∀ parts ∈ completed, bodies sent = bytes ∧ parts = sent.mapIdx (completedPart world)
  finished : ∀ id, answer = .ok id → completed.isSome ∧ id = ContentId.of bytes

/-- The chunks of a whole stream. Source: `rollout-cloud-aws/src/s3/put_stream.rs`
`put_stream_impl`. Kind: D -/
def chunksOf (size : ℕ) (bytes : Bytes) : List Bytes :=
  if lastChunk size bytes ≠ [] ∨ fullChunks size bytes = [] then
    fullChunks size bytes ++ [lastChunk size bytes]
  else fullChunks size bytes

/-- How many parts a call sends when all succeed. Source: `rollout-cloud-aws/src/s3/put_stream.rs`
`put_stream_impl`. Kind: D -/
def partCount (size : ℕ) (stream : Reader UInt8) : ℕ :=
  match stream.ending with
  | none => max 1 ((stream.rest.length + size - 1) / size)
  | some _ => stream.rest.length / size

/-- The parts are few enough, or an early one fails.
Source: `rollout-cloud-aws/src/s3/put_stream.rs` `put_stream_impl`. Kind: D -/
def WithinLimit (world : World) (store : S3ObjectStore) (stream : Reader UInt8) (hint : PutHint) :
    Prop :=
  (∃ e, create world store hint = .error e) ∨
    (∃ k < maxParts, ∃ e, world.uploadPart k = .error e) ∨
    partCount (chunkSize store) stream ≤ maxParts

/-! ## The run -/

section run

variable {world : World} {store : S3ObjectStore} {stream : Reader UInt8} {hint : PutHint}
  {chunk : Bytes} {tag : Option String} {s : Locals} {done ps : List Bytes}

theorem chunkSize_pos (store : S3ObjectStore) : 0 < chunkSize store := by
  unfold chunkSize
  omega

/-- The chunks a call has sent. Source: `rollout-cloud-aws/src/s3/put_stream.rs` `put_stream_impl`.
Kind: D -/
structure Progress (s : Locals) (done : List Bytes) : Prop where
  bodies : s.sent.map PartUpload.body = done
  numbered : s.sent.map PartUpload.partNumber = List.range' 1 s.sent.length
  hashed : s.hashed = done.flatten
  waiting : s.completed = none

/-- A call all of whose chunks were accepted. Source: `rollout-cloud-aws/src/s3/put_stream.rs`
`put_stream_impl`. Kind: D -/
structure Accepted (world : World) (s : Locals) (done : List Bytes) : Prop extends
    Progress s done where
  listed : s.parts = s.sent.mapIdx (completedPart world)

theorem Progress.length (h : Progress s done) : s.sent.length = done.length := by
  rw [← h.bodies, List.length_map]

/-- The call with a part sent. Source: `rollout-cloud-aws/src/s3/put_stream.rs` `upload_one_part`.
Kind: D -/
def Locals.sending (s : Locals) (chunk : Bytes) : Locals :=
  { s with hashed := s.hashed ++ chunk, sent := s.sent ++ [⟨s.partNumber, chunk⟩] }

theorem Progress.sending (h : Progress s done) (hnext : s.partNumber = done.length + 1)
    (chunk : Bytes) : Progress (s.sending chunk) (done ++ [chunk]) where
  bodies := by simp [Locals.sending, h.bodies]
  numbered := by
    simp [Locals.sending, h.numbered, h.length, hnext, List.range'_concat, Nat.add_comm]
  hashed := by simp [Locals.sending, h.hashed]
  waiting := h.waiting

/-- A part is sent before it is known whether it arrives. Source:
`rollout-cloud-aws/src/s3/put_stream.rs` `upload_one_part`. Kind: L -/
theorem uploadOnePart_apply (world : World) (chunk : Bytes) (s : Locals) :
    uploadOnePart world chunk s = match world.uploadPart s.sent.length with
      | .ok tag => (.ok (), { s.sending chunk with
          parts := s.parts ++ [⟨tag.getD "", s.partNumber⟩] })
      | .error e => (.error e, s.sending chunk) := by
  have hrun : uploadOnePart world chunk s = (do
      let eTag ← (ofExcept (world.uploadPart s.sent.length) : FailM Locals (Option String))
      modify fun s' => { s' with parts := s'.parts ++ [⟨eTag.getD "", s.partNumber⟩] } :
        FailM Locals Unit) (s.sending chunk) := rfl
  rw [hrun]
  cases world.uploadPart s.sent.length with
  | error e => rfl
  | ok tag => rfl

/-- One part more. Source: `rollout-cloud-aws/src/s3/put_stream.rs` `upload_one_part`. Kind: L -/
theorem Accepted.uploadOnePart (h : Accepted world s done) (hnext : s.partNumber = done.length + 1)
    (chunk : Bytes) :
    (∃ s', uploadOnePart world chunk s = (.ok (), s') ∧ Accepted world s' (done ++ [chunk]) ∧
      s'.partNumber = s.partNumber ∧ ∃ tag, world.uploadPart done.length = .ok tag) ∨
    ∃ e s', S3.uploadOnePart world chunk s = (.error e, s') ∧ Progress s' (done ++ [chunk]) ∧
      world.uploadPart done.length = .error e := by
  have hlen := h.length
  cases htag : world.uploadPart done.length with
  | error e =>
      rw [← hlen] at htag
      exact .inr ⟨e, _, by rw [uploadOnePart_apply, htag], h.toProgress.sending hnext chunk, rfl⟩
  | ok tag =>
      have hpart := htag
      rw [← hlen] at htag
      have hmore := h.toProgress.sending hnext chunk
      have hrun := uploadOnePart_apply world chunk s
      rw [htag] at hrun
      refine .inl ⟨_, hrun, ⟨⟨hmore.bodies, hmore.numbered, hmore.hashed,
        hmore.waiting⟩, ?_⟩, rfl, tag, rfl⟩
      show s.parts ++ [_] = (s.sent ++ [_]).mapIdx _
      rw [List.mapIdx_concat, h.listed, completedPart, htag]
      rfl

/-- **The full chunks**: all are sent, or those up to the first one that fails.
Source: `rollout-cloud-aws/src/s3/put_stream.rs` `put_stream_impl`. Kind: P -/
theorem forM_flushFull (h : Accepted world s done) (hnext : s.partNumber = done.length + 1)
    (ps : List Bytes) :
    (∃ s', forM ps (flushFull world) s = (.ok (), s') ∧ Accepted world s' (done ++ ps) ∧
      s'.partNumber = (done ++ ps).length + 1 ∧
      ∀ k < ps.length, ∃ tag, world.uploadPart (done.length + k) = .ok tag) ∨
    ∃ k < ps.length, ∃ e s', forM ps (flushFull world) s = (.error e, s') ∧
      Progress s' (done ++ ps.take (k + 1)) ∧ world.uploadPart (done.length + k) = .error e ∧
      ∀ j < k, ∃ tag, world.uploadPart (done.length + j) = .ok tag := by
  induction ps generalizing s done with
  | nil =>
      refine .inl ⟨s, rfl, by rwa [List.append_nil], by rwa [List.append_nil], fun k hk => ?_⟩
      exact absurd hk (Nat.not_lt_zero k)
  | cons p ps ih =>
      rw [List.forM_cons, FailM.bind_apply, flushFull, FailM.bind_apply]
      rcases h.uploadOnePart hnext p with ⟨s', hrun, hs', hnum, tag, htag⟩ | ⟨e, s', hrun, hs', htag⟩
      · rw [hrun]
        have hlen : (done ++ [p]).length = done.length + 1 := by simp
        have hmore : Accepted world { s' with partNumber := s'.partNumber + 1 } (done ++ [p]) :=
          ⟨⟨hs'.bodies, hs'.numbered, hs'.hashed, hs'.waiting⟩, hs'.listed⟩
        have hnext' : s'.partNumber + 1 = (done ++ [p]).length + 1 := by omega
        have hcons : ∀ qs : List Bytes, done ++ [p] ++ qs = done ++ p :: qs := fun qs => by simp
        have hshift : ∀ k, (done ++ [p]).length + k = done.length + (k + 1) := fun k => by omega
        rcases ih hmore hnext' with ⟨s'', hrest, hs'', hnum', hall⟩ |
          ⟨k, hk, e, s'', hrest, hs'', he, hall⟩
        · rw [hcons] at hs'' hnum'
          refine .inl ⟨s'', hrest, hs'', hnum', fun k hk => ?_⟩
          cases k with
          | zero => exact ⟨tag, htag⟩
          | succ k =>
              rw [← hshift]
              exact hall k (Nat.lt_of_succ_lt_succ hk)
        · rw [hcons] at hs''
          refine .inr ⟨k + 1, Nat.succ_lt_succ hk, e, s'', hrest, hs'', ?_, fun j hj => ?_⟩
          · rw [← hshift]
            exact he
          · cases j with
            | zero => exact ⟨tag, htag⟩
            | succ j =>
                rw [← hshift]
                exact hall j (Nat.lt_of_succ_lt_succ hj)
      · rw [hrun]
        refine .inr ⟨0, Nat.succ_pos _, e, s', rfl, hs', htag, fun j hj => ?_⟩
        exact absurd hj (Nat.not_lt_zero j)

/-- The upload is completed with the parts. Source: `rollout-cloud-aws/src/s3/put_stream.rs`
`put_stream_impl`. Kind: L -/
theorem finish_apply [Blake3] (world : World) (store : S3ObjectStore) (tempKey : String) (s : Locals) :
    ∃ answer, finish world store tempKey s = (answer, { s with completed := some s.parts }) ∧
      ∀ id, answer = .ok id → id = ContentId.of s.hashed := by
  have hrun : finish world store tempKey s = (do
      ofExcept (world.completeMultipartUpload s.parts)
      ofExcept (world.copyObject store.bucket (shardedKey store.keyPrefix (ContentId.of s.hashed))
        (store.bucket ++ "/" ++ tempKey))
      ofExcept (world.deleteObject store.bucket tempKey)
      return ContentId.of s.hashed : FailM Locals ContentId)
      { s with completed := some s.parts } := rfl
  rw [hrun]
  refine Gcs.answer_ofExcept_bind (Gcs.answer_ofExcept_bind (Gcs.answer_ofExcept_bind
    ⟨.ok _, rfl, fun id hid => ?_⟩))
  exact (Except.ok.inj hid).symm

end run

/-! ## The chunks of a stream -/

section chunks

variable {size : ℕ} {bytes : Bytes}

theorem flatten_chunksOf (size : ℕ) (bytes : Bytes) : (chunksOf size bytes).flatten = bytes := by
  have hflat := flatten_fullChunks size bytes
  unfold chunksOf
  by_cases h : lastChunk size bytes ≠ [] ∨ fullChunks size bytes = []
  · rw [if_pos h]
    simpa using hflat
  · rw [if_neg h]
    simp only [not_or, not_not] at h
    rw [h.1, List.append_nil] at hflat
    exact hflat

theorem length_chunksOf (hsize : 0 < size) (bytes : Bytes) :
    (chunksOf size bytes).length = max 1 ((bytes.length + size - 1) / size) := by
  have hdiv := Nat.div_add_mod bytes.length size
  have hmod := Nat.mod_lt bytes.length hsize
  have hround : (bytes.length + size - 1) / size =
      bytes.length / size + (bytes.length % size + size - 1) / size := by
    rw [← Nat.mul_add_div hsize]
    congr 1
    omega
  have hlast : lastChunk size bytes = [] ↔ bytes.length % size = 0 := by
    rw [← List.length_eq_zero_iff, length_lastChunk]
  have hfull : fullChunks size bytes = [] ↔ bytes.length / size = 0 := by
    rw [← List.length_eq_zero_iff, length_fullChunks]
  unfold chunksOf
  by_cases hrest : bytes.length % size = 0
  · have hzero : (bytes.length % size + size - 1) / size = 0 := by
      rw [hrest, Nat.div_eq_zero_iff]
      omega
    by_cases hnone : bytes.length / size = 0
    · rw [if_pos (.inr (hfull.mpr hnone)), List.length_append, length_fullChunks, hround, hzero, hnone]
      rfl
    · rw [if_neg (by simp [hlast, hfull, hrest, hnone]), length_fullChunks, hround, hzero]
      generalize bytes.length / size = q at hnone ⊢
      omega
  · have hone : (bytes.length % size + size - 1) / size = 1 := by
      rw [Nat.div_eq_iff hsize]
      omega
    rw [if_pos (.inl (mt hlast.mp hrest)), List.length_append, length_fullChunks, hround, hone,
      List.length_singleton]
    exact (max_eq_right (Nat.le_add_left 1 _)).symm

theorem fullChunks_part (size : ℕ) (bytes : Bytes) : fullChunks size bytes <+: chunksOf size bytes := by
  unfold chunksOf
  split
  · exact ⟨_, rfl⟩
  · exact ⟨[], List.append_nil _⟩

theorem take_chunksOf {n : ℕ} (hn : n ≤ (fullChunks size bytes).length) :
    (chunksOf size bytes).take n = (fullChunks size bytes).take n := by
  obtain ⟨more, hmore⟩ := fullChunks_part size bytes
  rw [← hmore, List.take_append_of_le_length hn]

/-- Every chunk but the last is full. Source: `rollout-cloud-aws/src/s3/put_stream.rs`
`put_stream_impl`. Kind: L -/
theorem length_of_mem_dropLast {n : ℕ} {p : Bytes} (h : p ∈ ((chunksOf size bytes).take n).dropLast) :
    p.length = size := by
  have hlast : p ∈ (chunksOf size bytes).dropLast := by
    by_cases hn : n < (chunksOf size bytes).length
    · have hmem := List.dropLast_subset _ h
      rw [List.dropLast_eq_take]
      exact (List.take_subset_take_left _ (by omega)) hmem
    · rwa [List.take_of_length_le (by omega)] at h
  have hfull : p ∈ fullChunks size bytes := by
    unfold chunksOf at hlast
    split at hlast
    · rwa [List.dropLast_concat] at hlast
    · exact List.dropLast_subset _ hlast
  exact length_of_mem_fullChunks hfull

/-- An empty chunk is the only one of an empty stream.
Source: `rollout-cloud-aws/src/s3/put_stream.rs` `put_stream_impl`. Kind: L -/
theorem nil_of_nil_mem (hsize : 0 < size) (h : [] ∈ chunksOf size bytes) : bytes = [] := by
  have hfull : [] ∉ fullChunks size bytes := fun hmem =>
    absurd (length_of_mem_fullChunks hmem) hsize.ne
  have hflat := flatten_fullChunks size bytes
  unfold chunksOf at h
  split at h
  · next hlast =>
    rcases List.mem_append.mp h with hmem | hmem
    · exact absurd hmem hfull
    · have hnil := List.mem_singleton.mp hmem
      rcases hlast with hne | hnone
      · exact absurd hnil.symm hne
      · rw [hnone, ← hnil] at hflat
        exact hflat.symm
  · exact absurd h hfull

end chunks

/-! ## What a call sends -/

section sends

variable {world : World} {store : S3ObjectStore} {stream : Reader UInt8} {hint : PutHint}

/-- How many parts are sent: all, or up to the first one that fails. Source: none: infrastructure.
Kind: L -/
theorem limit_iff {total n : ℕ} (hle : n ≤ total)
    (hok : ∀ k, k + 1 < n → ∃ tag, world.uploadPart k = .ok tag)
    (hend : n = total ∨ ∃ k e, n = k + 1 ∧ world.uploadPart k = .error e) :
    n ≤ maxParts ↔ (∃ k < maxParts, ∃ e, world.uploadPart k = .error e) ∨ total ≤ maxParts := by
  constructor
  · intro hn
    rcases hend with rfl | ⟨k, e, rfl, he⟩
    · exact .inr hn
    · exact .inl ⟨k, hn, e, he⟩
  · rintro (⟨k, hk, e, he⟩ | htotal)
    · by_contra hn
      obtain ⟨tag, htag⟩ := hok k (by omega)
      rw [he] at htag
      cases htag
    · omega

/-- A call that has sent some of its parts. Source: `rollout-cloud-aws/src/s3/put_stream.rs`
`put_stream_impl`. Kind: D -/
structure Sends [Blake3] (world : World) (store : S3ObjectStore) (bytes : Bytes)
    (answer : Except CoreError ContentId) (s : Locals) (n : ℕ) : Prop where
  chunks : s.sent.map PartUpload.body = (chunksOf (chunkSize store) bytes).take n
  few : n ≤ (chunksOf (chunkSize store) bytes).length
  numbered : s.sent.map PartUpload.partNumber = List.range' 1 s.sent.length
  listed : ∀ parts ∈ s.completed, bodies s.sent = bytes ∧ parts = s.sent.mapIdx (completedPart world)
  finished : ∀ id, answer = .ok id → s.completed.isSome ∧ id = ContentId.of bytes

theorem Progress.sends [Blake3] {bytes : Bytes} {s : Locals} {n : ℕ} {e : CoreError}
    (h : Progress s ((chunksOf (chunkSize store) bytes).take n))
    (hn : n ≤ (chunksOf (chunkSize store) bytes).length) :
    Sends world store bytes (.error e) s n where
  chunks := h.bodies
  few := hn
  numbered := h.numbered
  listed parts hparts := by
    rw [h.waiting] at hparts
    cases hparts
  finished id hid := by cases hid

/-- What a call that has sent all its parts finishes with.
Source: `rollout-cloud-aws/src/s3/put_stream.rs` `put_stream_impl`. Kind: L -/
theorem Accepted.sends [Blake3] {bytes : Bytes} {s : Locals}
    (h : Accepted world s (chunksOf (chunkSize store) bytes)) (tempKey : String) : ∃ answer s',
      finish world store tempKey s = (answer, s') ∧
      Sends world store bytes answer s' (chunksOf (chunkSize store) bytes).length := by
  obtain ⟨answer, hrun, hid⟩ := finish_apply world store tempKey s
  have hbytes : bodies s.sent = bytes := by
    rw [bodies, List.flatMap_def, h.bodies, flatten_chunksOf]
  refine ⟨answer, _, hrun, ⟨?_, le_rfl, h.numbered, fun parts hparts => ?_, fun id hok => ⟨rfl, ?_⟩⟩⟩
  · rw [List.take_length]
    exact h.bodies
  · cases hparts
    exact ⟨hbytes, h.listed⟩
  · rw [hid id hok, h.hashed, flatten_chunksOf]

theorem partCount_none (hend : stream.ending = none) : partCount (chunkSize store) stream =
    (chunksOf (chunkSize store) stream.rest).length := by
  rw [partCount, hend, length_chunksOf (chunkSize_pos store)]

theorem fullChunks_le_partCount (store : S3ObjectStore) (stream : Reader UInt8) :
    (fullChunks (chunkSize store) stream.rest).length ≤ partCount (chunkSize store) stream := by
  cases hend : stream.ending with
  | none =>
      rw [partCount_none hend]
      exact (fullChunks_part _ _).length_le
  | some e => rw [partCount, hend, length_fullChunks]

/-- The last chunk is a part of its own unless it is empty and not the only one.
Source: `rollout-cloud-aws/src/s3/put_stream.rs` `put_stream_impl`. Kind: L -/
theorem flushLast_apply (world : World) {s : Locals} {bytes : Bytes}
    (hnext : s.partNumber = (fullChunks (chunkSize store) bytes).length + 1) :
    (chunksOf (chunkSize store) bytes =
        fullChunks (chunkSize store) bytes ++ [lastChunk (chunkSize store) bytes] ∧
      flushLast world (lastChunk (chunkSize store) bytes) s =
        uploadOnePart world (lastChunk (chunkSize store) bytes) s) ∨
    (chunksOf (chunkSize store) bytes = fullChunks (chunkSize store) bytes ∧
      flushLast world (lastChunk (chunkSize store) bytes) s = (.ok (), s)) := by
  have hrun : flushLast world (lastChunk (chunkSize store) bytes) s =
      (if 0 < (lastChunk (chunkSize store) bytes).length ∨ s.partNumber = 1 then
        uploadOnePart world (lastChunk (chunkSize store) bytes)
      else pure () : FailM Locals Unit) s := rfl
  have hcond : (0 < (lastChunk (chunkSize store) bytes).length ∨ s.partNumber = 1) ↔
      (lastChunk (chunkSize store) bytes ≠ [] ∨ fullChunks (chunkSize store) bytes = []) := by
    rw [List.length_pos_iff, hnext, Nat.add_eq_right, List.length_eq_zero_iff]
  unfold chunksOf
  rw [hrun, if_congr hcond rfl rfl]
  by_cases h : lastChunk (chunkSize store) bytes ≠ [] ∨ fullChunks (chunkSize store) bytes = []
  · rw [if_pos h, if_pos h]
    exact .inl ⟨rfl, rfl⟩
  · rw [if_neg h, if_neg h]
    exact .inr ⟨rfl, rfl⟩

theorem accepted_start (world : World) : Accepted world .start [] := ⟨⟨rfl, rfl, rfl, rfl⟩, rfl⟩

/-- **What a call sends**: its parts up to the first one that fails.
Source: `rollout-cloud-aws/src/s3/put_stream.rs` `put_stream_impl`. Kind: P -/
theorem putStreamImpl_sends [Blake3] (world : World) (store : S3ObjectStore) (stream : Reader UInt8)
    (hint : PutHint) : ∃ answer s n,
      putStreamImpl world store stream hint .start = (answer, s) ∧
      Sends world store stream.rest answer s n ∧
      (n ≤ maxParts ↔ WithinLimit world store stream hint) := by
  have hsize := chunkSize_pos store
  unfold putStreamImpl WithinLimit
  rw [fillLoop_eq stream (show [].length < chunkSize store from hsize), List.nil_append,
    FailM.bind_apply, FailM.ofExcept_apply]
  cases hcreate : create world store hint with
  | error e =>
      have hstart : Progress Locals.start ((chunksOf (chunkSize store) stream.rest).take 0) :=
        (accepted_start world).toProgress
      exact ⟨.error e, .start, 0, rfl, hstart.sends (Nat.zero_le _),
        iff_of_true (Nat.zero_le _) (.inl ⟨e, rfl⟩)⟩
  | ok uploadId =>
      have hcreated : ¬ ∃ e, (Except.ok uploadId : Except CoreError String) = .error e := by
        rintro ⟨e, he⟩
        cases he
      rw [or_iff_right hcreated]
      simp only [FailM.bind_apply]
      have hfullLe : (fullChunks (chunkSize store) stream.rest).length ≤
          (chunksOf (chunkSize store) stream.rest).length := (fullChunks_part _ _).length_le
      rcases forM_flushFull (accepted_start world) rfl (fullChunks (chunkSize store) stream.rest) with
        ⟨s', hrun, hs', hnum, hall⟩ | ⟨k, hk, e, s', hrun, hs', he, hbefore⟩
      · simp only [List.nil_append, List.length_nil, Nat.zero_add] at hs' hnum hall
        rw [hrun]
        cases hend : stream.ending with
        | some e =>
            refine ⟨.error (recoverableTransient ("stream read: " ++ e)), s',
              (fullChunks (chunkSize store) stream.rest).length, rfl, Progress.sends ?_ hfullLe, ?_⟩
            · rw [take_chunksOf le_rfl, List.take_length]
              exact hs'.toProgress
            · refine limit_iff ?_ (fun k hk => hall k (by omega)) (.inl ?_)
              · rw [partCount, hend, length_fullChunks]
              · rw [partCount, hend, length_fullChunks]
        | none =>
            have hcount : partCount (chunkSize store) stream = (chunksOf (chunkSize store) stream.rest).length :=
              partCount_none hend
            dsimp only
            rcases flushLast_apply world hnum with ⟨hchunks, hlast⟩ | ⟨hchunks, hlast⟩
            · rw [hlast]
              have hok : ∀ k, k + 1 < (chunksOf (chunkSize store) stream.rest).length →
                  ∃ tag, world.uploadPart k = .ok tag := by
                intro k hk
                rw [hchunks, List.length_append, List.length_singleton] at hk
                exact hall k (Nat.lt_of_succ_lt_succ hk)
              rcases hs'.uploadOnePart hnum (lastChunk (chunkSize store) stream.rest) with
                ⟨s'', hup, hs'', -, -⟩ | ⟨e, s'', hup, hs'', -⟩
              · rw [← hchunks] at hs''
                obtain ⟨answer, s₃, hfinish, hsends⟩ :=
                  hs''.sends (tempKeyFor store.keyPrefix world.ulid)
                refine ⟨answer, s₃, _, ?_, hsends, limit_iff hcount.ge hok (.inl hcount.symm)⟩
                rw [hup]
                exact hfinish
              · rw [← hchunks] at hs''
                refine ⟨.error e, s'', _, by rw [hup], Progress.sends ?_ le_rfl,
                  limit_iff hcount.ge hok (.inl hcount.symm)⟩
                rw [List.take_length]
                exact hs''
            · rw [hlast]
              rw [← hchunks] at hs' hall
              obtain ⟨answer, s'', hfinish, hsends⟩ :=
                hs'.sends (tempKeyFor store.keyPrefix world.ulid)
              exact ⟨answer, s'', _, hfinish, hsends,
                limit_iff hcount.ge (fun k hk => hall k (by omega)) (.inl hcount.symm)⟩
      · simp only [List.nil_append, List.length_nil, Nat.zero_add] at hs' he hbefore
        rw [hrun]
        rw [← take_chunksOf hk] at hs'
        refine ⟨.error e, s', k + 1, rfl, hs'.sends (le_trans hk hfullLe),
          limit_iff (le_trans hk (fullChunks_le_partCount store stream))
            (fun j hj => hbefore j (by omega)) (.inr ⟨k, e, rfl, he⟩)⟩

/-- Parts that reproduce the stream are few enough.
Source: `rollout-cloud-aws/src/s3/put_stream.rs` `put_stream_impl`. Kind: L -/
theorem within_of_reproduces [Blake3]
    (h : Reproduces world (chunkSize store) stream.rest
      (putStreamImpl world store stream hint .start).1
      (putStreamImpl world store stream hint .start).2.sent
      (putStreamImpl world store stream hint .start).2.completed) :
    WithinLimit world store stream hint := by
  obtain ⟨answer, s, n, hrun, hsends, hlimit⟩ := putStreamImpl_sends world store stream hint
  have hlen := congrArg List.length hsends.chunks
  rw [List.length_map, List.length_take, min_eq_left hsends.few] at hlen
  rw [hrun] at h
  exact hlimit.mp (hlen ▸ h.limit)

/-- **The parts reproduce the stream exactly when** they are at most 10000, or an early one fails.
Source: `rollout-cloud-aws/src/s3/put_stream.rs` `put_stream_impl`. Kind: C -/
theorem reproduces_iff [Blake3] (world : World) (store : S3ObjectStore) (stream : Reader UInt8)
    (hint : PutHint) :
    Reproduces world (chunkSize store) stream.rest
        (putStreamImpl world store stream hint .start).1
        (putStreamImpl world store stream hint .start).2.sent
        (putStreamImpl world store stream hint .start).2.completed ↔
      WithinLimit world store stream hint := by
  refine ⟨within_of_reproduces, fun hwithin => ?_⟩
  obtain ⟨answer, s, n, hrun, hsends, hlimit⟩ := putStreamImpl_sends world store stream hint
  have hlen := congrArg List.length hsends.chunks
  rw [List.length_map, List.length_take, min_eq_left hsends.few] at hlen
  have hn := hlimit.mpr hwithin
  rw [hrun]
  refine ⟨?_, hsends.numbered, hlen ▸ hn, le_max_right _ _, fun u hu => ?_, fun u hu hnil => ?_,
    hsends.listed, hsends.finished⟩
  · refine ⟨((chunksOf (chunkSize store) stream.rest).drop n).flatten, ?_⟩
    rw [bodies, List.flatMap_def, hsends.chunks, ← List.flatten_append, List.take_append_drop,
      flatten_chunksOf]
  · have hmem := List.mem_map_of_mem (f := PartUpload.body) hu
    rw [List.map_dropLast, hsends.chunks] at hmem
    exact length_of_mem_dropLast hmem
  · have hmem := List.mem_map_of_mem (f := PartUpload.body) hu
    rw [hsends.chunks, hnil] at hmem
    exact nil_of_nil_mem (chunkSize_pos store) (List.mem_of_mem_take hmem)

end sends

/-! ## A large stream -/

/-- A store with the default chunks of 16 MiB. Source: `rollout-core/src/config/cloud.rs`
`default_multipart_chunk`. Kind: D -/
def defaultStore : S3ObjectStore := ⟨"b", "", 16 * 1024 * 1024⟩

/-- A service that accepts everything. Source: none: infrastructure. Kind: D -/
def acceptingWorld : World where
  ulid := ⟨7⟩
  createMultipartUpload _ _ _ := .ok (some "u")
  uploadPart _ := .ok (some "t")
  completeMultipartUpload _ := .ok ()
  copyObject _ _ _ := .ok ()
  deleteObject _ _ := .ok ()

/-- One byte more than fits. Source: none: infrastructure. Kind: D -/
def largeStream : Reader UInt8 where
  rest := List.replicate (10000 * (16 * 1024 * 1024) + 1) 0
  wishes _ := 16 * 1024 * 1024
  ending := none

theorem length_largeStream : largeStream.rest.length = 10000 * (16 * 1024 * 1024) + 1 :=
  List.length_replicate

theorem not_withinLimit_largeStream :
    ¬ WithinLimit acceptingWorld defaultStore largeStream ⟨none, none⟩ := by
  have hending : largeStream.ending = none := rfl
  have hsize : chunkSize defaultStore = 16 * 1024 * 1024 := rfl
  rintro (⟨e, he⟩ | ⟨k, -, e, he⟩ | hcount)
  · cases he
  · cases he
  · rw [partCount, hending, hsize, length_largeStream] at hcount
    exact absurd hcount (by decide)

/-- **A stream of 156.25 GiB and a byte is sent in 10001 parts.**
Source: `rollout-cloud-aws/src/s3/put_stream.rs` `put_stream_impl`. Kind: C -/
theorem largeStream_exceeds : largeStream.rest.length ≤ 5 * 1024 ^ 4 ∧
    ¬ ∃ _ : Blake3, Reproduces acceptingWorld (chunkSize defaultStore) largeStream.rest
      (putStreamImpl acceptingWorld defaultStore largeStream ⟨none, none⟩ .start).1
      (putStreamImpl acceptingWorld defaultStore largeStream ⟨none, none⟩ .start).2.sent
      (putStreamImpl acceptingWorld defaultStore largeStream ⟨none, none⟩ .start).2.completed := by
  refine ⟨?_, fun hex => hex.elim fun _ h => not_withinLimit_largeStream (within_of_reproduces h)⟩
  rw [length_largeStream]
  decide

end Rollout.CloudStore.S3
