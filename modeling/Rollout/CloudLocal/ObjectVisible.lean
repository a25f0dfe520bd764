import Mathlib.Data.List.Induction
import Rollout.CloudLocal.ObjectStore
import Rollout.Lib.Accord

/-!
# What the object store shows

Any number of calls on one disk, one file operation at a time, each of which may stop anywhere.

* `ContentTrue` — what stands under an id hashes to it.
* `StagesAlone` — a `put_bytes` fills and renames its staging file only as long as no other call has
  opened that file since. Two puts of one content stage under one name, so this is not assured.
* `Hands`, `Inv` — who opened which path last and what each call has open, filled how far; what the
  disk holds of it. `visible_of_stagesAlone` is what follows for every run.
-/

set_option linter.unusedSectionVars false

namespace Rollout.CloudLocal.ObjectStore

open Rollout.Lib Rollout.Core

section visible

variable [Blake3] {ι : Type}

/-- A file operation and what it did. Source: none: infrastructure. Kind: D -/
abbrev StoreEvent (ι : Type) := Event (Files.iface FsPath) ι (Disk FsPath)

/-! ## What is claimed -/

/-- **What stands under an id hashes to it.**
Source: `rollout-cloud-local/src/object_store.rs` (module documentation). Kind: D -/
def ContentTrue (s : Disk FsPath) : Prop :=
  ∀ id bytes, s.held (pathFor id) = some bytes → ContentId.of bytes = id

/-- Where `put_bytes` stages a content.
Source: `rollout-cloud-local/src/object_store.rs` `put_bytes`. Kind: D -/
def tmpFor (bytes : Bytes) : FsPath := withExtension (pathFor (ContentId.of bytes)) "tmp"

/-- The file an operation fills or renames. Source: none: infrastructure. Kind: D -/
def touched : FileOp FsPath → Option FsPath
  | .write file _ _ => some file.path
  | .rename source _ => some source
  | _ => none

/-- An event that opened the path for writing. Source: none: infrastructure. Kind: D -/
def opened (p : FsPath) (e : StoreEvent ι) : Bool :=
  match e with
  | ⟨_, .create q, .ok _, _, _⟩ => decide (p = q)
  | _ => false

/-- The call that opened a path for writing last. Source: none: infrastructure. Kind: D -/
def lastOpener (tr : List (StoreEvent ι)) (p : FsPath) : Option ι :=
  (tr.filter (opened p)).getLast?.map Event.who

/-- A call that acts on its staging file is the last one that opened it.
Source: `rollout-cloud-local/src/object_store.rs` `put_bytes`. Kind: D -/
def Alone (calls : ι → StoreCall) (opener : FsPath → Option ι) (i : ι) (o : FileOp FsPath) : Prop :=
  match calls i with
  | .putBytes bytes _ _ _ _ => touched o = some (tmpFor bytes) → opener (tmpFor bytes) = some i
  | _ => True

instance [DecidableEq ι] (calls : ι → StoreCall) (opener : FsPath → Option ι) (i : ι)
    (o : FileOp FsPath) : Decidable (Alone calls opener i o) := by
  unfold Alone
  split <;> infer_instance

/-- **No staging file is opened by another put while it is in use.**
Source: `rollout-cloud-local/src/object_store.rs` `put_bytes`. Kind: D -/
def StagesAlone (calls : ι → StoreCall) (tr : List (StoreEvent ι)) : Prop :=
  ∀ k (h : k < tr.length), Alone calls (lastOpener (tr.take k)) tr[k].who tr[k].op

instance [DecidableEq ι] (calls : ι → StoreCall) (tr : List (StoreEvent ι)) :
    Decidable (StagesAlone calls tr) := by
  unfold StagesAlone
  infer_instance

/-- Streams draw distinct identifiers.
Source: `rollout-cloud-local/src/object_store.rs` `temp_path_for_pending`. Kind: D -/
def FreshTemps (calls : ι → StoreCall) : Prop :=
  ∀ i j ulid reads reads', calls i = .putStream ulid reads → calls j = .putStream ulid reads' →
    i = j

/-- What a stream gives up to its end; none when it fails.
Source: `rollout-cloud-local/src/object_store.rs` `put_stream`. Kind: D -/
def streamed : List StreamRead → Option Bytes
  | [] => some []
  | .error _ :: _ => none
  | .ok (buf, _) :: reads => if buf = [] then some [] else (streamed reads).map (buf ++ ·)

/-- What a put stores; none for a stream that fails.
Source: `rollout-cloud-local/src/object_store.rs` `put_bytes`, `put_stream`. Kind: D -/
def StoreCall.content : StoreCall → Option Bytes
  | .putBytes bytes _ _ _ _ => some bytes
  | .putStream _ reads => streamed reads
  | _ => none

/-- What a put answered. Source: `rollout-cloud-local/src/object_store.rs` `put_bytes`,
`put_stream`. Kind: D -/
def StoreCall.putResult : (c : StoreCall) → Except CoreError c.Out →
    Option (Except CoreError ContentId)
  | .putBytes .., r => some r
  | .putStream .., r => some r
  | _, _ => none

/-- What a get answered. Source: `rollout-cloud-local/src/object_store.rs` `get_bytes`. Kind: D -/
def StoreCall.got : (c : StoreCall) → Except CoreError c.Out → Option (ContentId × Bytes)
  | .getBytes id _, .ok bytes => some (id, bytes)
  | _, _ => none

/-! ## What the calls have in hand -/

/-- Who opened what, and what each call has filled. Source: none: infrastructure. Kind: D -/
structure Hands (ι : Type) where
  /-- Who opened each path for writing last. -/
  opener : FsPath → Option ι
  /-- What each call has open, and what it has filled it with. -/
  stage : ι → Option (OpenFile FsPath × Bytes)
  /-- The files that were given the name of a blob. -/
  published : Nat → Prop
  /-- The calls whose operations were failed. -/
  faulty : ι → Prop

/-- A path a call opens for writing.
Source: `rollout-cloud-local/src/object_store.rs` `put_bytes`, `put_stream`. Kind: D -/
def StoreCall.Writes (c : StoreCall) (p : FsPath) : Prop :=
  match c with
  | .putBytes bytes _ _ _ _ => p = tmpFor bytes ∨ p = metaPathFor (ContentId.of bytes)
  | .putStream ulid _ => p = tempPathForPending ulid
  | _ => False

/-- The path of a sidecar. Source: `rollout-cloud-local/src/object_store.rs` `meta_path_for`.
Kind: D -/
def IsSidecar (p : FsPath) : Prop := ∃ id, p = metaPathFor id

theorem StoreCall.Writes.not_isBlob {c : StoreCall} {p : FsPath} (h : c.Writes p) : ¬ IsBlob p := by
  cases c with
  | putBytes bytes hint nowMs cuts metaCuts =>
      rcases h with rfl | rfl
      · exact not_isBlob_tmp _
      · exact not_isBlob_meta _
  | putStream ulid reads =>
      obtain rfl : p = tempPathForPending ulid := h
      exact not_isBlob_pending ulid
  | getBytes id cuts => exact h.elim
  | «exists» id => exact h.elim

section hands

variable [DecidableEq ι]

/-- The hands after an event. Source: none: infrastructure. Kind: D -/
def Hands.after (h : Hands ι) (e : StoreEvent ι) : Hands ι :=
  match e with
  | ⟨i, .create p, .ok file, _, _⟩ =>
      { h with
        opener := Function.update h.opener p (some i)
        stage := Function.update h.stage i (some (file, [])) }
  | ⟨i, .write _ _ piece, .ok _, _, _⟩ =>
      { h with stage := Function.update h.stage i ((h.stage i).map fun x => (x.1, x.2 ++ piece)) }
  | ⟨i, .rename p _, .ok _, s, _⟩ =>
      { h with
        stage := Function.update h.stage i none
        published := fun n => h.published n ∨ s.names.get p = some n }
  | ⟨i, .removeFile _, .ok _, _, _⟩ => { h with stage := Function.update h.stage i none }
  | ⟨i, o, .error _, s, _⟩ =>
      { h with faulty := fun j => h.faulty j ∨ (j = i ∧ ∃ a, (Files.perform o s).1 = .ok a) }
  | _ => h

theorem opener_after (h : Hands ι) (e : StoreEvent ι) (p : FsPath) :
    (h.after e).opener p = if opened p e = true then some e.who else h.opener p := by
  obtain ⟨i, o, r, s, s'⟩ := e
  cases r with
  | error err => cases o <;> rfl
  | ok a =>
      cases o with
      | create q =>
          show Function.update h.opener q (some i) p = _
          rw [Function.update_apply]
          simp only [opened, decide_eq_true_eq]
      | _ => rfl

/-- The openers are those of the trace. Source: none: infrastructure. Kind: L -/
theorem opener_foldl (tr : List (StoreEvent ι)) (h : Hands ι) (p : FsPath) :
    (tr.foldl Hands.after h).opener p = (lastOpener tr p).or (h.opener p) := by
  induction tr using List.reverseRecOn with
  | nil => rfl
  | append_singleton tr e ih =>
      rw [List.foldl_append, List.foldl_cons, List.foldl_nil, opener_after, ih]
      unfold lastOpener
      rw [List.filter_append]
      by_cases ho : opened p e = true
      · rw [if_pos ho, List.filter_cons_of_pos ho, List.filter_nil, List.getLast?_concat]
        rfl
      · rw [if_neg ho, List.filter_cons_of_neg ho, List.filter_nil, List.append_nil]

/-- A call is faulty when an operation of it was failed. Source: none: infrastructure. Kind: L -/
theorem fault_of_faulty {tr : List (StoreEvent ι)} {h : Hands ι} {i : ι}
    (hf : (tr.foldl Hands.after h).faulty i) :
    h.faulty i ∨ ∃ e ∈ own i tr, Files.fault e = true := by
  induction tr using List.reverseRecOn with
  | nil => exact .inl hf
  | append_singleton tr e ih =>
      rw [List.foldl_append, List.foldl_cons, List.foldl_nil] at hf
      have hlast : (tr.foldl Hands.after h).faulty i ∨ (i = e.who ∧ Files.fault e = true) := by
        obtain ⟨j, o, r, s, s'⟩ := e
        cases r with
        | error err =>
            have hf : (tr.foldl Hands.after h).faulty i ∨
                (i = j ∧ ∃ a, (Files.perform o s).1 = .ok a) := by
              cases o <;> exact hf
            rcases hf with hf | ⟨hi, a, ha⟩
            · exact .inl hf
            · exact .inr ⟨hi, Files.fault_of_error ha⟩
        | ok a => cases o <;> exact .inl hf
      rcases hlast with hf | ⟨rfl, hfault⟩
      · rcases ih hf with hf | ⟨e', he', hfault⟩
        · exact .inl hf
        · obtain ⟨hmem, hwho⟩ := mem_own.mp he'
          exact .inr ⟨e', mem_own.mpr ⟨List.mem_append_left _ hmem, hwho⟩, hfault⟩
      · exact .inr ⟨e, mem_own.mpr ⟨List.mem_append_right _ (List.mem_singleton.mpr rfl), rfl⟩,
        hfault⟩

end hands

/-! ## The invariant -/

/-- **What the disk holds of what the calls have in hand.** A staged file is what its call has
filled it with as long as the call is the last one that opened it; sidecars are left open.
Source: `rollout-cloud-local/src/object_store.rs` `put_bytes`, `put_stream`. Kind: D -/
structure Inv (calls : ι → StoreCall) (s : Disk FsPath) (h : Hands ι) : Prop where
  blob : ∀ id n, s.names.get (pathFor id) = some n → h.published n ∧ ContentId.of (s.data n) = id
  sealed : ∀ p n, h.published n → s.names.get p = some n → IsBlob p
  used : ∀ n, h.published n → n < s.next
  opener : ∀ p j, h.opener p = some j → (calls j).Writes p
  writes : ∀ i f w, h.stage i = some (f, w) → (calls i).Writes f.path
  isOpen : ∀ i f w, h.stage i = some (f, w) → (h.opener f.path).isSome
  live : ∀ i f w, h.stage i = some (f, w) → ¬ IsSidecar f.path → h.opener f.path = some i →
    s.names.get f.path = some f.inode ∧ s.data f.inode = w
  sidecar : ∀ i f w, h.stage i = some (f, w) → IsSidecar f.path →
    s.names.get f.path = some f.inode

/-- What the others leave alone. Source: none: infrastructure. Kind: D -/
structure Others (i : ι) (s : Disk FsPath) (h : Hands ι) (s' : Disk FsPath) (h' : Hands ι) : Prop where
  stage : h'.stage i = h.stage i
  faulty : h'.faulty i ↔ h.faulty i
  kept : ∀ n, h.published n → h'.published n ∧ s'.data n = s.data n

theorem Others.refl (i : ι) (s : Disk FsPath) (h : Hands ι) : Others i s h s h :=
  ⟨rfl, Iff.rfl, fun _ hn => ⟨hn, rfl⟩⟩

theorem Others.trans {i : ι} {s s' s'' : Disk FsPath} {h h' h'' : Hands ι} (a : Others i s h s' h')
    (b : Others i s' h' s'' h'') : Others i s h s'' h'' := by
  refine ⟨b.stage.trans a.stage, b.faulty.trans a.faulty, fun n hn => ?_⟩
  obtain ⟨hn', hdata⟩ := a.kept n hn
  obtain ⟨hn'', hdata'⟩ := b.kept n hn'
  exact ⟨hn'', hdata'.trans hdata⟩

/-- What a call knows of the operation it issues.
Source: `rollout-cloud-local/src/object_store.rs` `put_bytes`, `put_stream`. Kind: D -/
def May (calls : ι → StoreCall) (i : ι) (o : FileOp FsPath) (h : Hands ι) : Prop :=
  match o with
  | .create p => (calls i).Writes p
  | .write file offset _ => ∃ w, h.stage i = some (file, w) ∧ offset = w.length
  | .rename p q => ∃ f w, h.stage i = some (f, w) ∧ f.path = p ∧ ¬ IsSidecar p ∧
      q = pathFor (ContentId.of w)
  | .removeFile p => ∃ f w ulid, h.stage i = some (f, w) ∧ f.path = p ∧
      p = tempPathForPending ulid
  | _ => True

section steps

variable {calls : ι → StoreCall} {s s' : Disk FsPath} {h : Hands ι} {i : ι} {f : OpenFile FsPath}
  {w : Bytes}

theorem not_isSidecar_pending (ulid : Ulid) : ¬ IsSidecar (tempPathForPending ulid) := by
  rintro ⟨id, hid⟩
  exact pending_ne_meta ulid id hid

theorem not_isSidecar_tmp (bytes : Bytes) : ¬ IsSidecar (tmpFor bytes) := by
  rintro ⟨id, hid⟩
  exact tmp_ne_meta _ id hid

/-- **A call that acts on what it staged is the last one that opened it.** For a stream no other
call opens its path; for `put_bytes` it is what is assumed.
Source: `rollout-cloud-local/src/object_store.rs` `put_bytes`, `put_stream`. Kind: L -/
theorem Inv.acts (hinv : Inv calls s h) (hfresh : FreshTemps calls)
    (hstage : h.stage i = some (f, w)) (hside : ¬ IsSidecar f.path)
    (halone : ∀ bytes hint nowMs cuts metaCuts, calls i = .putBytes bytes hint nowMs cuts metaCuts →
      f.path = tmpFor bytes → h.opener f.path = some i) :
    h.opener f.path = some i := by
  obtain ⟨j, hj⟩ := Option.isSome_iff_exists.mp (hinv.isOpen i f w hstage)
  have hwrites := hinv.writes i f w hstage
  have hwrites' := hinv.opener f.path j hj
  cases hc : calls i with
  | putBytes bytes hint nowMs cuts metaCuts =>
      rw [hc] at hwrites
      rcases hwrites with htmp | hmeta
      · exact halone bytes hint nowMs cuts metaCuts hc htmp
      · exact absurd ⟨_, hmeta⟩ hside
  | putStream ulid reads =>
      rw [hc] at hwrites
      have hpath : f.path = tempPathForPending ulid := hwrites
      rw [hpath] at hwrites'
      cases hc' : calls j with
      | putBytes bytes hint nowMs cuts metaCuts =>
          rw [hc'] at hwrites'
          rcases hwrites' with htmp | hmeta
          · exact absurd htmp (pending_ne_tmp ulid _)
          · exact absurd hmeta (pending_ne_meta ulid _)
      | putStream ulid' reads' =>
          rw [hc'] at hwrites'
          obtain rfl : ulid = ulid' := tempPathForPending_inj.mp hwrites'
          rw [hfresh i j ulid reads reads' hc hc']
          exact hj
      | getBytes id cuts =>
          rw [hc'] at hwrites'
          exact hwrites'.elim
      | «exists» id =>
          rw [hc'] at hwrites'
          exact hwrites'.elim
  | getBytes id cuts =>
      rw [hc] at hwrites
      exact hwrites.elim
  | «exists» id =>
      rw [hc] at hwrites
      exact hwrites.elim

theorem Alone.opener {o : FileOp FsPath} (ha : Alone calls h.opener i o)
    (htouched : touched o = some f.path) (bytes : Bytes) (hint : PutHint) (nowMs : BitVec 128)
    (cuts metaCuts : List Nat) (hc : calls i = .putBytes bytes hint nowMs cuts metaCuts)
    (hpath : f.path = tmpFor bytes) : h.opener f.path = some i := by
  unfold Alone at ha
  rw [hc] at ha
  rw [hpath] at htouched ⊢
  exact ha htouched

/-- A staged file is no blob's. Source: `rollout-cloud-local/src/object_store.rs` `put_bytes`.
Kind: L -/
theorem Inv.stage_ne_blob (hinv : Inv calls s h) (hstage : h.stage i = some (f, w))
    (id : ContentId) : pathFor id ≠ f.path := by
  intro heq
  exact (hinv.writes i f w hstage).not_isBlob ⟨id, heq.symm⟩

/-- The files of two calls that are both the last openers of theirs are two.
Source: `rollout-cloud-local/src/object_store.rs` `put_bytes`, `put_stream`. Kind: L -/
theorem Inv.path_ne {p : FsPath} {j : ι} (hopen : h.opener p = some i) {q : FsPath}
    (hopen' : h.opener q = some j) (hj : j ≠ i) : q ≠ p := by
  rintro rfl
  exact hj (Option.some.inj (hopen'.symm.trans hopen))

variable [DecidableEq ι]

/-- **A fill keeps the invariant.**
Source: `rollout-cloud-local/src/object_store.rs` (`tokio::fs::write`, `write_all`). Kind: L -/
theorem Inv.write (hinv : Inv calls s h) (hstage : h.stage i = some (f, w))
    (hacts : ¬ IsSidecar f.path → h.opener f.path = some i) (piece : Bytes) (s' : Disk FsPath) :
    Inv calls (s.write f.inode w.length piece)
        (h.after ⟨i, .write f w.length piece, .ok (), s, s'⟩) ∧
      ∀ j, j ≠ i → Others j s h (s.write f.inode w.length piece)
        (h.after ⟨i, .write f w.length piece, .ok (), s, s'⟩) := by
  have hname : s.names.get f.path = some f.inode := by
    by_cases hside : IsSidecar f.path
    · exact hinv.sidecar i f w hstage hside
    · exact (hinv.live i f w hstage hside (hacts hside)).1
  have hself : (h.after ⟨i, .write f w.length piece, .ok (), s, s'⟩).stage i =
      some (f, w ++ piece) := by
    show Function.update h.stage i _ i = _
    rw [Function.update_self, hstage]
    rfl
  have hother : ∀ j, j ≠ i →
      (h.after ⟨i, .write f w.length piece, .ok (), s, s'⟩).stage j = h.stage j :=
    fun j hj => Function.update_of_ne hj ..
  refine ⟨⟨?_, hinv.sealed, hinv.used, hinv.opener, ?_, ?_, ?_, ?_⟩, fun j hj => ?_⟩
  · intro id n hn
    have hne : n ≠ f.inode := by
      rintro rfl
      exact hinv.stage_ne_blob hstage id (s.distinct _ _ _ hn hname)
    rw [Disk.data_write_of_ne _ _ hne]
    exact hinv.blob id n hn
  · intro j g v hj
    by_cases hji : j = i
    · rw [hji, hself] at hj
      obtain ⟨rfl, -⟩ := Prod.mk.inj (Option.some.inj hj)
      rw [hji]
      exact hinv.writes i f w hstage
    · rw [hother j hji] at hj
      exact hinv.writes j g v hj
  · intro j g v hj
    by_cases hji : j = i
    · rw [hji, hself] at hj
      obtain ⟨rfl, -⟩ := Prod.mk.inj (Option.some.inj hj)
      exact hinv.isOpen i f w hstage
    · rw [hother j hji] at hj
      exact hinv.isOpen j g v hj
  · intro j g v hj hside hopen
    by_cases hji : j = i
    · rw [hji, hself] at hj
      obtain ⟨rfl, rfl⟩ := Prod.mk.inj (Option.some.inj hj)
      refine ⟨hname, ?_⟩
      rw [Disk.data_write_self, (hinv.live i f w hstage hside (hacts hside)).2, splice_end]
    · rw [hother j hji] at hj
      obtain ⟨hname', hdata⟩ := hinv.live j g v hj hside hopen
      have hne : g.inode ≠ f.inode := by
        intro heq
        have hpath : g.path = f.path := s.distinct _ _ _ hname' (heq ▸ hname)
        rw [hpath] at hside
        exact Inv.path_ne (hacts hside) hopen hji hpath
      rw [Disk.data_write_of_ne _ _ hne]
      exact ⟨hname', hdata⟩
  · intro j g v hj hside
    by_cases hji : j = i
    · rw [hji, hself] at hj
      obtain ⟨rfl, -⟩ := Prod.mk.inj (Option.some.inj hj)
      exact hname
    · rw [hother j hji] at hj
      exact hinv.sidecar j g v hj hside
  · refine ⟨hother j hj, Iff.rfl, fun n hn => ⟨hn, Disk.data_write_of_ne _ _ ?_⟩⟩
    rintro rfl
    exact (hinv.writes i f w hstage).not_isBlob (hinv.sealed _ _ hn hname)

/-- **Opening a file keeps the invariant.** Its last opener is now this call.
Source: `rollout-cloud-local/src/object_store.rs` (`tokio::fs::write`, `File::create`). Kind: L -/
theorem Inv.create (hinv : Inv calls s h) {p : FsPath} (hwrites : (calls i).Writes p)
    (s' : Disk FsPath) :
    Inv calls (s.create p).2 (h.after ⟨i, .create p, .ok (s.create p).1, s, s'⟩) ∧
      ∀ j, j ≠ i → Others j s h (s.create p).2
        (h.after ⟨i, .create p, .ok (s.create p).1, s, s'⟩) := by
  have hself : (h.after ⟨i, .create p, .ok (s.create p).1, s, s'⟩).stage i =
      some ((s.create p).1, []) := Function.update_self ..
  have hother : ∀ j, j ≠ i →
      (h.after ⟨i, .create p, .ok (s.create p).1, s, s'⟩).stage j = h.stage j :=
    fun j hj => Function.update_of_ne hj ..
  have hopener : ∀ q, (h.after ⟨i, .create p, .ok (s.create p).1, s, s'⟩).opener q =
      if q = p then some i else h.opener q := fun q => Function.update_apply ..
  -- a file in use under another name is not the one that was opened
  have hkeep : ∀ q n, q ≠ p → s.names.get q = some n → n ≠ (s.create p).1.inode := by
    rintro q n hq hn rfl
    rcases s.create_inode p with hp | ⟨-, hnext⟩
    · exact hq (s.distinct _ _ _ hn hp)
    · exact absurd (s.bounded q _ hn) (by omega)
  have hpublished : ∀ n, h.published n → n ≠ (s.create p).1.inode := by
    rintro n hn rfl
    rcases s.create_inode p with hp | ⟨-, hnext⟩
    · exact hwrites.not_isBlob (hinv.sealed _ _ hn hp)
    · exact absurd (hinv.used _ hn) (by omega)
  have hblob : ∀ id, pathFor id ≠ p := by
    rintro id rfl
    exact hwrites.not_isBlob ⟨id, rfl⟩
  refine ⟨⟨?_, ?_, ?_, ?_, ?_, ?_, ?_, ?_⟩, fun j hj => ?_⟩
  · intro id n hn
    rw [Disk.names_create, if_neg (hblob id)] at hn
    rw [Disk.data_create, if_neg (hkeep _ n (hblob id) hn)]
    exact hinv.blob id n hn
  · intro q n hpub hn
    rw [Disk.names_create] at hn
    split at hn
    · exact absurd (Option.some.inj hn).symm (hpublished n hpub)
    · exact hinv.sealed q n hpub hn
  · intro n hn
    exact Nat.lt_of_lt_of_le (hinv.used n hn) (s.next_create p)
  · intro q j hq
    rw [hopener] at hq
    split at hq
    · next heq =>
      rw [heq, ← Option.some.inj hq]
      exact hwrites
    · exact hinv.opener q j hq
  · intro j g v hj
    by_cases hji : j = i
    · rw [hji, hself] at hj
      obtain ⟨rfl, -⟩ := Prod.mk.inj (Option.some.inj hj)
      rw [hji, Disk.create_path]
      exact hwrites
    · rw [hother j hji] at hj
      exact hinv.writes j g v hj
  · intro j g v hj
    rw [hopener]
    split
    · rfl
    · next hne =>
      by_cases hji : j = i
      · rw [hji, hself] at hj
        obtain ⟨rfl, -⟩ := Prod.mk.inj (Option.some.inj hj)
        exact absurd (s.create_path p) hne
      · rw [hother j hji] at hj
        exact hinv.isOpen j g v hj
  · intro j g v hj hside hopen
    rw [hopener] at hopen
    by_cases hji : j = i
    · rw [hji, hself] at hj
      obtain ⟨rfl, rfl⟩ := Prod.mk.inj (Option.some.inj hj)
      rw [Disk.names_create, if_pos (s.create_path p), Disk.data_create, if_pos rfl]
      exact ⟨rfl, rfl⟩
    · rw [hother j hji] at hj
      split at hopen
      · exact absurd (Option.some.inj hopen).symm hji
      · next hne =>
        obtain ⟨hname, hdata⟩ := hinv.live j g v hj hside hopen
        rw [Disk.names_create, if_neg hne, Disk.data_create, if_neg (hkeep _ _ hne hname)]
        exact ⟨hname, hdata⟩
  · intro j g v hj hside
    rw [Disk.names_create]
    by_cases hji : j = i
    · rw [hji, hself] at hj
      obtain ⟨rfl, -⟩ := Prod.mk.inj (Option.some.inj hj)
      rw [if_pos (s.create_path p)]
    · rw [hother j hji] at hj
      have hname := hinv.sidecar j g v hj hside
      split
      · next heq =>
        rw [heq] at hname
        rcases s.create_inode p with hp | ⟨hnone, -⟩
        · rw [← hp, hname]
        · rw [hnone] at hname
          cases hname
      · exact hname
  · refine ⟨hother j hj, Iff.rfl, fun n hn => ⟨hn, ?_⟩⟩
    rw [Disk.data_create, if_neg (hpublished n hn)]

/-- **A rename publishes what was staged.**
Source: `rollout-cloud-local/src/object_store.rs` `put_bytes`, `put_stream`. Kind: L -/
theorem Inv.rename (hinv : Inv calls s h) (hstage : h.stage i = some (f, w))
    (hside : ¬ IsSidecar f.path) (hopen : h.opener f.path = some i)
    (hname : s.names.get f.path = some f.inode) (s' : Disk FsPath) :
    Inv calls (s.move f.path (pathFor (ContentId.of w)) f.inode hname)
        (h.after ⟨i, .rename f.path (pathFor (ContentId.of w)), .ok (), s, s'⟩) ∧
      ∀ j, j ≠ i → Others j s h (s.move f.path (pathFor (ContentId.of w)) f.inode hname)
        (h.after ⟨i, .rename f.path (pathFor (ContentId.of w)), .ok (), s, s'⟩) := by
  have hdata := (hinv.live i f w hstage hside hopen).2
  have hself : (h.after ⟨i, .rename f.path (pathFor (ContentId.of w)), .ok (), s, s'⟩).stage i =
      none := Function.update_self ..
  have hother : ∀ j, j ≠ i →
      (h.after ⟨i, .rename f.path (pathFor (ContentId.of w)), .ok (), s, s'⟩).stage j = h.stage j :=
    fun j hj => Function.update_of_ne hj ..
  have hstaged : ∀ j g v, (h.after ⟨i, .rename f.path (pathFor (ContentId.of w)), .ok (), s, s'⟩).stage j =
      some (g, v) → j ≠ i ∧ h.stage j = some (g, v) := by
    intro j g v hj
    have hji : j ≠ i := by
      rintro rfl
      rw [hself] at hj
      cases hj
    rw [hother j hji] at hj
    exact ⟨hji, hj⟩
  refine ⟨⟨?_, ?_, ?_, hinv.opener, ?_, ?_, ?_, ?_⟩, fun j hj => ?_⟩
  · intro id n hn
    rw [Disk.names_move] at hn
    split at hn
    · next heq =>
      obtain rfl := Option.some.inj hn
      refine ⟨.inr hname, ?_⟩
      rw [pathFor_inj.mp heq]
      exact congrArg ContentId.of hdata
    · rw [if_neg (hinv.stage_ne_blob hstage id)] at hn
      obtain ⟨hpub, hof⟩ := hinv.blob id n hn
      exact ⟨.inl hpub, hof⟩
  · intro q n hpub hn
    rw [Disk.names_move] at hn
    split at hn
    · next heq => exact ⟨_, heq⟩
    · split at hn
      · cases hn
      · next hne =>
        rcases hpub with hpub | hpub
        · exact hinv.sealed q n hpub hn
        · exact absurd (s.distinct _ _ _ hn hpub) hne
  · intro n hn
    rcases hn with hn | hn
    · exact hinv.used n hn
    · exact s.bounded _ _ hn
  · intro j g v hj
    exact hinv.writes j g v (hstaged j g v hj).2
  · intro j g v hj
    exact hinv.isOpen j g v (hstaged j g v hj).2
  · intro j g v hj hside' hopen'
    obtain ⟨hji, hj⟩ := hstaged j g v hj
    obtain ⟨hname', hdata'⟩ := hinv.live j g v hj hside' hopen'
    rw [Disk.names_move, if_neg (hinv.stage_ne_blob hj _).symm,
      if_neg (Inv.path_ne hopen hopen' hji)]
    exact ⟨hname', hdata'⟩
  · intro j g v hj hside'
    obtain ⟨-, hj⟩ := hstaged j g v hj
    have hne : g.path ≠ f.path := by
      intro heq
      rw [heq] at hside'
      exact hside hside'
    rw [Disk.names_move, if_neg (hinv.stage_ne_blob hj _).symm, if_neg hne]
    exact hinv.sidecar j g v hj hside'
  · exact ⟨hother j hj, Iff.rfl, fun n hn => ⟨.inl hn, rfl⟩⟩

/-- **Discarding what was staged keeps the invariant.**
Source: `rollout-cloud-local/src/object_store.rs` `put_stream`. Kind: L -/
theorem Inv.unlink (hinv : Inv calls s h) (hstage : h.stage i = some (f, w))
    (hside : ¬ IsSidecar f.path) (hopen : h.opener f.path = some i) (s' : Disk FsPath) :
    Inv calls (s.unlink f.path) (h.after ⟨i, .removeFile f.path, .ok (), s, s'⟩) ∧
      ∀ j, j ≠ i → Others j s h (s.unlink f.path)
        (h.after ⟨i, .removeFile f.path, .ok (), s, s'⟩) := by
  have hself : (h.after ⟨i, .removeFile f.path, .ok (), s, s'⟩).stage i = none :=
    Function.update_self ..
  have hother : ∀ j, j ≠ i →
      (h.after ⟨i, .removeFile f.path, .ok (), s, s'⟩).stage j = h.stage j :=
    fun j hj => Function.update_of_ne hj ..
  have hstaged : ∀ j g v, (h.after ⟨i, .removeFile f.path, .ok (), s, s'⟩).stage j = some (g, v) →
      j ≠ i ∧ h.stage j = some (g, v) := by
    intro j g v hj
    have hji : j ≠ i := by
      rintro rfl
      rw [hself] at hj
      cases hj
    rw [hother j hji] at hj
    exact ⟨hji, hj⟩
  have hnames : ∀ q n, (s.unlink f.path).names.get q = some n → s.names.get q = some n := by
    intro q n hn
    rw [Disk.names_unlink] at hn
    split at hn
    · cases hn
    · exact hn
  refine ⟨⟨?_, ?_, hinv.used, hinv.opener, ?_, ?_, ?_, ?_⟩, fun j hj => ?_⟩
  · intro id n hn
    exact hinv.blob id n (hnames _ n hn)
  · intro q n hpub hn
    exact hinv.sealed q n hpub (hnames q n hn)
  · intro j g v hj
    exact hinv.writes j g v (hstaged j g v hj).2
  · intro j g v hj
    exact hinv.isOpen j g v (hstaged j g v hj).2
  · intro j g v hj hside' hopen'
    obtain ⟨hji, hj⟩ := hstaged j g v hj
    rw [Disk.names_unlink, if_neg (Inv.path_ne hopen hopen' hji)]
    exact hinv.live j g v hj hside' hopen'
  · intro j g v hj hside'
    obtain ⟨-, hj⟩ := hstaged j g v hj
    have hne : g.path ≠ f.path := by
      intro heq
      rw [heq] at hside'
      exact hside hside'
    rw [Disk.names_unlink, if_neg hne]
    exact hinv.sidecar j g v hj hside'
  · exact ⟨hother j hj, Iff.rfl, fun n hn => ⟨hn, rfl⟩⟩

/-- A failed operation changes nothing but that its call is faulty.
Source: none: infrastructure. Kind: L -/
theorem Inv.failed (hinv : Inv calls s h) (o : FileOp FsPath) (err : IoError) :
    Inv calls s (h.after ⟨i, o, .error err, s, s⟩) ∧
      ∀ j, j ≠ i → Others j s h s (h.after ⟨i, o, .error err, s, s⟩) := by
  have hafter : h.after ⟨i, o, .error err, s, s⟩ =
      { h with faulty := fun j => h.faulty j ∨ (j = i ∧ ∃ a, (Files.perform o s).1 = .ok a) } := by
    cases o <;> rfl
  rw [hafter]
  refine ⟨⟨hinv.blob, hinv.sealed, hinv.used, hinv.opener, hinv.writes, hinv.isOpen, hinv.live,
    hinv.sidecar⟩, fun j hj => ⟨rfl, ⟨?_, .inl⟩, fun _ hn => ⟨hn, rfl⟩⟩⟩
  rintro (hf | ⟨heq, -⟩)
  · exact hf
  · exact absurd heq hj

/-- **An operation that takes effect keeps the invariant.**
Source: `rollout-cloud-local/src/object_store.rs`. Kind: P -/
theorem Inv.performed (hinv : Inv calls s h) (hfresh : FreshTemps calls) {o : FileOp FsPath}
    {a : o.Out} (hmay : May calls i o h) (halone : Alone calls h.opener i o)
    (hperf : Files.perform o s = (.ok a, s')) :
    Inv calls s' (h.after ⟨i, o, .ok a, s, s'⟩) ∧
      ∀ j, j ≠ i → Others j s h s' (h.after ⟨i, o, .ok a, s, s'⟩) := by
  cases o with
  | create p =>
      obtain ⟨ha, rfl⟩ := Prod.mk.inj hperf
      obtain rfl := Except.ok.inj ha
      exact hinv.create hmay _
  | write f offset piece =>
      obtain ⟨w, hstage, rfl⟩ := hmay
      obtain ⟨-, rfl⟩ := Prod.mk.inj hperf
      exact hinv.write hstage (fun hside => hinv.acts hfresh hstage hside (halone.opener rfl)) piece _
  | rename p q =>
      obtain ⟨f, w, hstage, rfl, hside, rfl⟩ := hmay
      have hopen := hinv.acts hfresh hstage hside (halone.opener rfl)
      have hname := (hinv.live i f w hstage hside hopen).1
      have hmove : s' = s.move f.path (pathFor (ContentId.of w)) f.inode hname := by
        simp only [Files.perform] at hperf
        split at hperf
        · next n hn =>
          obtain rfl : n = f.inode := Option.some.inj (hn.symm.trans hname)
          exact (Prod.mk.inj hperf).2.symm
        · cases (Prod.mk.inj hperf).1
      rw [hmove]
      exact hinv.rename hstage hside hopen hname _
  | removeFile p =>
      obtain ⟨f, w, ulid, hstage, rfl, hpath⟩ := hmay
      have hside : ¬ IsSidecar f.path := hpath ▸ not_isSidecar_pending ulid
      have hopen := hinv.acts hfresh hstage hside fun bytes _ _ _ _ _ htmp =>
        absurd (hpath.symm.trans htmp) (pending_ne_tmp ulid _)
      simp only [Files.perform] at hperf
      split at hperf
      · obtain rfl := (Prod.mk.inj hperf).2
        exact hinv.unlink hstage hside hopen _
      · cases (Prod.mk.inj hperf).1
  | openRead p =>
      simp only [Files.perform] at hperf
      split at hperf
      · obtain rfl := (Prod.mk.inj hperf).2
        exact ⟨hinv, fun j _ => Others.refl j s h⟩
      · cases (Prod.mk.inj hperf).1
  | read f offset most =>
      simp only [Files.perform] at hperf
      split at hperf <;>
      · obtain rfl := (Prod.mk.inj hperf).2
        exact ⟨hinv, fun j _ => Others.refl j s h⟩
  | _ =>
      obtain rfl := (Prod.mk.inj hperf).2
      exact ⟨hinv, fun j _ => Others.refl j s h⟩

end steps

section programs

variable [DecidableEq ι] (calls : ι → StoreCall) (hfresh : FreshTemps calls)

/-- **The agreement between the calls.** Source: none: infrastructure. Kind: D -/
def storeRules : Accord (Files.machine FsPath ι) (Hands ι) where
  upd := Hands.after
  inv := Inv calls
  rely := Others
  pre i o _ h := May calls i o h
  assume h e := Alone calls h.opener e.who e.op
  rely_refl := Others.refl
  rely_trans _ _ _ _ _ _ _ := Others.trans
  step := by
    rintro ⟨i, o, r, s, s'⟩ h hd halone hinv hmay
    rcases Files.does_iff.mp hd with ⟨err, rfl, rfl⟩ | hperf
    · exact hinv.failed o err
    · cases r with
      | error err =>
          rw [Files.perform_error hperf]
          exact hinv.failed o err
      | ok a => exact hinv.performed hfresh hmay halone hperf
  tick t := t.elim

variable {calls hfresh} {i : ι} {s : Disk FsPath} {h : Hands ι} {β : Type}

/-- **The rule for one operation of a put.** The disk itself does not fail it, so a failure is a
fault. Source: `rollout-cloud-local/src/object_store.rs` `put_bytes`, `put_stream`. Kind: L -/
theorem safe_io {wrap : IoError → CoreError} {o : FileOp FsPath} {f : o.Out → FsM β}
    {post : Except CoreError β → Disk FsPath → Hands ι → Prop}
    (hfault : ∀ e s h, h.faulty i → post (.error e) s h)
    (hmay : ∀ s' h', Others i s h s' h' → Inv calls s' h' → May calls i o h' ∧
      (Alone calls h'.opener i o → ∃ a, (Files.perform o s').1 = .ok a) ∧
      ∀ a s'', Files.perform o s' = (.ok a, s'') →
        (storeRules calls hfresh).Safe i post (f a) s'' (h'.after ⟨i, o, .ok a, s', s''⟩)) :
    (storeRules calls hfresh).Safe i post (io wrap o >>= f) s h := by
  show (storeRules calls hfresh).Safe i post
    (.call o fun r => Prog.ofExcept (r.mapError wrap) >>= f) s h
  apply Accord.safe_call
  intro s' h' hr hinv
  obtain ⟨hmay', hok, hcont⟩ := hmay s' h' hr hinv
  refine ⟨hmay', ?_⟩
  intro r s'' hd halone _
  obtain ⟨a, ha⟩ := hok halone
  cases r with
  | error err =>
      apply Accord.safe_err
      intro t k hrest _
      refine hfault _ t k (hrest.faulty.mpr ?_)
      have hafter : h'.after ⟨i, o, .error err, s', s''⟩ =
          { h' with faulty := fun j => h'.faulty j ∨
            (j = i ∧ ∃ a, (Files.perform o s').1 = .ok a) } := by
        cases o <;> rfl
      show (h'.after ⟨i, o, .error err, s', s''⟩).faulty i
      rw [hafter]
      exact .inr ⟨rfl, a, ha⟩
  | ok a =>
      rcases Files.does_iff.mp hd with ⟨err, herr, -⟩ | hperf
      · cases herr
      · exact hcont a s'' hperf

section puts

variable {post : Except CoreError β → Disk FsPath → Hands ι → Prop} {wrap : IoError → CoreError}
  {f : Unit → FsM β} {file : OpenFile FsPath}

/-- An operation that leaves what the call has in hand. Source: none: infrastructure. Kind: L -/
theorem safe_io_same {o : FileOp FsPath} {f : o.Out → FsM β} {w : Bytes}
    (hfault : ∀ e s h, h.faulty i → post (.error e) s h)
    (hsame : ∀ (h' : Hands ι) a s' s'', h'.after ⟨i, o, .ok a, s', s''⟩ = h')
    (hmay : ∀ h', May calls i o h') (hok : ∀ s', ∃ a, (Files.perform o s').1 = .ok a)
    (hstage : h.stage i = some (file, w))
    (hf : ∀ a s' h', h'.stage i = some (file, w) →
      (storeRules calls hfresh).Safe i post (f a) s' h') :
    (storeRules calls hfresh).Safe i post (io wrap o >>= f) s h := by
  apply safe_io hfault
  intro s' h' hr _
  refine ⟨hmay h', fun _ => hok s', fun a s'' _ => ?_⟩
  rw [hsame]
  exact hf a s'' h' (hr.stage.trans hstage)

/-- Filling a file. Source: `rollout-cloud-local/src/object_store.rs` (`write_all`). Kind: L -/
theorem safe_writeAll (hfault : ∀ e s h, h.faulty i → post (.error e) s h) (ps : List Bytes)
    {w : Bytes} (hstage : h.stage i = some (file, w))
    (hf : ∀ s' h', h'.stage i = some (file, w ++ ps.flatten) →
      (storeRules calls hfresh).Safe i post (f ()) s' h') :
    (storeRules calls hfresh).Safe i post (writeAll wrap file w.length ps >>= f) s h := by
  induction ps generalizing w s h with
  | nil =>
      refine hf s h ?_
      rw [List.flatten_nil, List.append_nil]
      exact hstage
  | cons piece ps ih =>
      rw [writeAll, Prog.bind_assoc]
      apply safe_io hfault
      intro s' h' hr _
      have hstage' : h'.stage i = some (file, w) := hr.stage.trans hstage
      refine ⟨⟨w, hstage', rfl⟩, fun _ => ⟨(), rfl⟩, fun a s'' _ => ?_⟩
      rw [← List.length_append]
      apply ih
      · show Function.update h'.stage i _ i = _
        rw [Function.update_self, hstage']
        rfl
      · intro t k hk
        refine hf t k ?_
        rw [hk, List.flatten_cons, List.append_assoc]

/-- Writing a whole file. Source: `rollout-cloud-local/src/object_store.rs` (`tokio::fs::write`).
Kind: L -/
theorem safe_fsWrite (hfault : ∀ e s h, h.faulty i → post (.error e) s h) {path : FsPath}
    {bytes : Bytes} {cuts : List Nat} (hwrites : (calls i).Writes path)
    (hf : ∀ file s' h', file.path = path → h'.stage i = some (file, bytes) →
      (storeRules calls hfresh).Safe i post (f ()) s' h') :
    (storeRules calls hfresh).Safe i post (fsWrite wrap path bytes cuts >>= f) s h := by
  unfold fsWrite
  rw [Prog.bind_assoc]
  apply safe_io hfault
  intro s' h' _ _
  refine ⟨hwrites, fun _ => ⟨_, rfl⟩, fun file s'' hperf => ?_⟩
  have hpath : file.path = path := by
    rw [← Except.ok.inj (Prod.mk.inj hperf).1]
    exact s'.create_path path
  apply safe_writeAll (w := []) hfault (pieces cuts bytes) (Function.update_self ..)
  intro t k hk
  rw [flatten_pieces, List.nil_append] at hk
  exact hf file t k hpath hk

/-- Publishing what was staged.
Source: `rollout-cloud-local/src/object_store.rs` `put_bytes`, `put_stream`. Kind: L -/
theorem safe_rename (hfault : ∀ e s h, h.faulty i → post (.error e) s h) {bytes : Bytes}
    (hstage : h.stage i = some (file, bytes)) (hside : ¬ IsSidecar file.path)
    (hf : ∀ u s' h', (storeRules calls hfresh).Safe i post (f u) s' h') :
    (storeRules calls hfresh).Safe i post
      (io wrap (.rename file.path (pathFor (ContentId.of bytes))) >>= f) s h := by
  apply safe_io hfault
  intro s' h' hr hinv
  have hstage' : h'.stage i = some (file, bytes) := hr.stage.trans hstage
  refine ⟨⟨file, bytes, hstage', rfl, hside, rfl⟩, fun halone => ?_, fun a s'' _ => hf a _ _⟩
  have hopen := hinv.acts hfresh hstage' hside (halone.opener rfl)
  have hname := (hinv.live i file bytes hstage' hside hopen).1
  simp only [Files.perform]
  split
  · exact ⟨(), rfl⟩
  · next hnone =>
    rw [hname] at hnone
    cases hnone

/-- An operation before anything is staged. Source: none: infrastructure. Kind: L -/
theorem safe_io_any {o : FileOp FsPath} {f : o.Out → FsM β}
    (hfault : ∀ e s h, h.faulty i → post (.error e) s h) (hmay : ∀ h', May calls i o h')
    (hok : ∀ s', ∃ a, (Files.perform o s').1 = .ok a)
    (hf : ∀ a s' h', (storeRules calls hfresh).Safe i post (f a) s' h') :
    (storeRules calls hfresh).Safe i post (io wrap o >>= f) s h := by
  apply safe_io hfault
  intro s' h' _ _
  exact ⟨hmay h', fun _ => hok s', fun a s'' _ => hf a _ _⟩

end puts

/-- Source: `rollout-cloud-local/src/object_store.rs` `put_bytes`. Kind: P -/
theorem safe_putBytes {bytes : Bytes} {hint : PutHint} {nowMs : BitVec 128}
    {cuts metaCuts : List Nat}
    (hc : calls i = .putBytes bytes hint nowMs cuts metaCuts) :
    (storeRules calls hfresh).Safe i (fun r _ h => match r with
      | .ok id => id = ContentId.of bytes
      | .error _ => h.faulty i) (putBytes bytes hint nowMs cuts metaCuts) s h := by
  have hfault : ∀ (e : CoreError) (s : Disk FsPath) (h : Hands ι), h.faulty i → h.faulty i :=
    fun _ _ _ hf => hf
  have htmp : (calls i).Writes (tmpFor bytes) := by
    rw [hc]
    exact .inl rfl
  have hmeta : (calls i).Writes (metaPathFor (ContentId.of bytes)) := by
    rw [hc]
    exact .inr rfl
  have hrest : ∀ s' h', (storeRules calls hfresh).Safe i (fun r _ h => match r with
      | .ok id => id = ContentId.of bytes
      | .error _ => h.faulty i) (do
        fsWrite internal (metaPathFor (ContentId.of bytes))
          (ObjectMeta.toJson ⟨BitVec.ofNat 64 bytes.length, hint.contentType, nowMs⟩) metaCuts
        return ContentId.of bytes) s' h' := by
    intro s' h'
    apply safe_fsWrite hfault hmeta
    intro file s'' h'' _ _
    exact Accord.safe_ret fun _ _ _ _ => rfl
  unfold putBytes
  refine safe_io_any (o := .createDirAll _) hfault (fun _ => trivial) (fun _ => ⟨(), rfl⟩) ?_
  intro _ s' h'
  unfold putBlob
  rw [Prog.bind_assoc]
  refine safe_io_any (o := .tryExists _) hfault (fun _ => trivial) (fun _ => ⟨_, rfl⟩) ?_
  intro there s' h'
  cases there with
  | true => exact hrest s' h'
  | false =>
      rw [Prog.bind_assoc]
      apply safe_fsWrite hfault htmp
      intro file s'' h'' hpath hstage
      have hside : ¬ IsSidecar file.path := hpath ▸ not_isSidecar_tmp bytes
      have hname : withExtension (pathFor (ContentId.of bytes)) "tmp" = file.path := hpath.symm
      rw [hname]
      exact safe_rename hfault hstage hside fun _ => hrest

/-- Source: `rollout-cloud-local/src/object_store.rs` `put_stream` (its loop). Kind: L -/
theorem safe_copyStream {post : Except CoreError β → Disk FsPath → Hands ι → Prop}
    (hfault : ∀ e s h, h.faulty i → post (.error e) s h) {file : OpenFile FsPath}
    (reads : List StreamRead) (hashed : Bytes) {f : Bytes → FsM β}
    (hbroken : streamed reads = none → ∀ e s h, post (.error e) s h)
    (hstage : h.stage i = some (file, hashed))
    (hf : ∀ rest s' h', streamed reads = some rest → h'.stage i = some (file, hashed ++ rest) →
      (storeRules calls hfresh).Safe i post (f (hashed ++ rest)) s' h') :
    (storeRules calls hfresh).Safe i post (copyStream file hashed reads >>= f) s h := by
  induction reads generalizing hashed s h with
  | nil =>
      have hend := hf [] s h rfl
      rw [List.append_nil] at hend
      exact hend hstage
  | cons read reads ih =>
      cases read with
      | error e => exact Accord.safe_err fun s' h' _ _ => hbroken rfl _ s' h'
      | ok x =>
          obtain ⟨buf, cuts⟩ := x
          rw [copyStream]
          by_cases hbuf : buf = []
          · have hend := hf [] s h (by rw [streamed, if_pos hbuf])
            rw [List.append_nil] at hend
            rw [if_pos hbuf]
            exact hend hstage
          · rw [if_neg hbuf, Prog.bind_assoc]
            apply safe_writeAll hfault (pieces cuts buf) hstage
            intro s' h' hstage'
            rw [flatten_pieces] at hstage'
            apply ih _ _ hstage'
            · intro rest s'' h'' hrest hstage''
              rw [List.append_assoc] at hstage'' ⊢
              apply hf _ s'' h'' _ hstage''
              rw [streamed, if_neg hbuf, hrest]
              rfl
            · intro hnone
              apply hbroken
              rw [streamed, if_neg hbuf, hnone]
              rfl

/-- Source: `rollout-cloud-local/src/object_store.rs` `put_stream`. Kind: P -/
theorem safe_putStream {ulid : Ulid} {reads : List StreamRead}
    (hc : calls i = .putStream ulid reads) :
    (storeRules calls hfresh).Safe i (fun r _ h => match r with
      | .ok id => ∃ bytes, streamed reads = some bytes ∧ id = ContentId.of bytes
      | .error _ => h.faulty i ∨ streamed reads = none) (putStream ulid reads) s h := by
  have hfault : ∀ (e : CoreError) (s : Disk FsPath) (h : Hands ι), h.faulty i →
      h.faulty i ∨ streamed reads = none := fun _ _ _ => .inl
  have hwrites : (calls i).Writes (tempPathForPending ulid) := by
    rw [hc]
    exact rfl
  unfold putStream
  refine safe_io_any (o := .createDirAll _) hfault (fun _ => trivial) (fun _ => ⟨(), rfl⟩) ?_
  intro _ s h
  apply safe_io hfault
  intro s' h' _ _
  refine ⟨hwrites, fun _ => ⟨_, rfl⟩, fun file s'' hperf => ?_⟩
  have hpath : file.path = tempPathForPending ulid := by
    rw [← Except.ok.inj (Prod.mk.inj hperf).1]
    exact s'.create_path _
  have hside : ¬ IsSidecar file.path := hpath ▸ not_isSidecar_pending ulid
  apply safe_copyStream hfault reads [] (fun hnone _ _ _ => .inr hnone)
    (Function.update_self ..)
  intro bytes s h hbytes hstage
  rw [List.nil_append] at hstage ⊢
  refine safe_io_same (o := .flush _) hfault (fun _ _ _ _ => rfl) (fun _ => trivial)
    (fun _ => ⟨(), rfl⟩) hstage ?_
  intro _ s h hstage
  refine safe_io_same (o := .syncAll _) hfault (fun _ _ _ _ => rfl) (fun _ => trivial)
    (fun _ => ⟨(), rfl⟩) hstage ?_
  intro _ s h hstage
  unfold publishStream
  refine safe_io_same (o := .createDirAll _) hfault (fun _ _ _ _ => rfl) (fun _ => trivial)
    (fun _ => ⟨(), rfl⟩) hstage ?_
  intro _ s h hstage
  refine safe_io_same (o := .tryExists _) hfault (fun _ _ _ _ => rfl) (fun _ => trivial)
    (fun _ => ⟨_, rfl⟩) hstage ?_
  intro there s h hstage
  rw [← hpath]
  cases there with
  | true =>
      apply Accord.safe_call
      intro s' h' hr _
      refine ⟨⟨file, bytes, ulid, hr.stage.trans hstage, rfl, hpath⟩, ?_⟩
      intro _ _ _ _ _
      exact Accord.safe_ret fun _ _ _ _ => ⟨bytes, hbytes, rfl⟩
  | false =>
      apply safe_rename hfault hstage hside
      intro _ s' h'
      exact Accord.safe_ret fun _ _ _ _ => ⟨bytes, hbytes, rfl⟩

/-! ### Reads -/

theorem take_append_drop_take (l : Bytes) (n : Nat) : l.take n ++ l.drop (l.take n).length = l := by
  by_cases h : n ≤ l.length
  · rw [List.length_take_of_le h, List.take_append_drop]
  · rw [List.take_of_length_le (Nat.le_of_not_le h), List.drop_length, List.append_nil]

/-- **A published file is read as it is**, however many steps it takes.
Source: `rollout-cloud-local/src/object_store.rs` (`tokio::fs::read`). Kind: L -/
theorem safe_readToEnd {file : OpenFile FsPath} {held : Bytes} (cuts : List Nat) {acc : Bytes}
    (hpub : h.published file.inode) (hdata : s.data file.inode = held)
    (hacc : acc ++ held.drop acc.length = held) :
    (storeRules calls hfresh).Safe i (fun r _ _ => ∀ bytes, r = .ok (.ok bytes) → bytes = held)
      (readToEnd file acc cuts) s h := by
  induction cuts generalizing acc s h with
  | nil =>
      apply Accord.safe_call
      intro s' h' hr _
      refine ⟨trivial, fun r s'' hd _ _ => ?_⟩
      have hdata' := (hr.kept _ hpub).2.trans hdata
      cases r with
      | error e => exact Accord.safe_ret fun _ _ _ _ => nofun
      | ok rest =>
          rcases Files.does_iff.mp hd with ⟨err, herr, -⟩ | hperf
          · cases herr
          · apply Accord.safe_ret
            rintro _ _ _ _ bytes hbytes
            rw [← Except.ok.inj (Except.ok.inj hbytes), ← Except.ok.inj (Prod.mk.inj hperf).1,
              hdata', hacc]
  | cons n cuts ih =>
      apply Accord.safe_call
      intro s' h' hr _
      refine ⟨trivial, fun r s'' hd _ _ => ?_⟩
      obtain ⟨hpub', hdata'⟩ := hr.kept _ hpub
      rw [hdata] at hdata'
      cases r with
      | error e => exact Accord.safe_ret fun _ _ _ _ => nofun
      | ok piece =>
          rcases Files.does_iff.mp hd with ⟨err, herr, -⟩ | hperf
          · cases herr
          · obtain ⟨hpiece, rfl⟩ := Prod.mk.inj hperf
            have hpiece : (held.drop acc.length).take (n + 1) = piece := by
              rw [← hdata']
              exact Except.ok.inj hpiece
            cases piece with
            | nil =>
                apply Accord.safe_ret
                rintro _ _ _ _ bytes hbytes
                have hrest : held.drop acc.length = [] := by
                  rcases List.take_eq_nil_iff.mp hpiece with hzero | hnil
                  · cases hzero
                  · exact hnil
                rw [hrest, List.append_nil] at hacc
                rw [← Except.ok.inj (Except.ok.inj hbytes), hacc]
            | cons b piece =>
                refine ih hpub' hdata' ?_
                rw [← hpiece, List.append_assoc, List.length_append, ← List.drop_drop,
                  take_append_drop_take, hacc]

/-- Source: `rollout-cloud-local/src/object_store.rs` `get_bytes`. Kind: P -/
theorem safe_getBytes {id : ContentId} {cuts : List Nat} :
    (storeRules calls hfresh).Safe i (fun r _ _ => ∀ bytes, r = .ok bytes → ContentId.of bytes = id)
      (getBytes id cuts) s h := by
  have hread : (storeRules calls hfresh).Safe i
      (fun r _ _ => ∀ bytes, r = .ok (.ok bytes) → ContentId.of bytes = id)
      (fsRead (pathFor id) cuts) s h := by
    unfold fsRead
    apply Accord.safe_call
    intro s' h' _ hinv
    refine ⟨trivial, fun r s'' hd _ _ => ?_⟩
    cases r with
    | error e => exact Accord.safe_ret fun _ _ _ _ => nofun
    | ok file =>
        rcases Files.does_iff.mp hd with ⟨err, herr, -⟩ | hperf
        · cases herr
        · simp only [Files.perform] at hperf
          split at hperf
          · next n hn =>
            obtain ⟨hfile, rfl⟩ := Prod.mk.inj hperf
            obtain rfl := Except.ok.inj hfile
            obtain ⟨hpub, hof⟩ := hinv.blob id n hn
            refine Accord.safe_weaken (fun r _ _ hr bytes hbytes => ?_)
              (safe_readToEnd cuts hpub rfl (List.drop_zero (l := _)))
            rw [hr bytes hbytes]
            exact hof
          · cases (Prod.mk.inj hperf).1
  unfold getBytes
  refine Accord.safe_bind (Accord.safe_weaken (fun r s h hr => ?_) hread)
  cases r with
  | error e => exact fun _ => by simp
  | ok answered =>
      cases answered with
      | ok bytes =>
          apply Accord.safe_ret
          rintro _ _ _ _ bytes' hbytes
          rw [← Except.ok.inj hbytes]
          exact hr bytes rfl
      | error e =>
          cases e with
          | notFound => exact Accord.safe_err fun _ _ _ _ => by simp
          | other msg => exact Accord.safe_err fun _ _ _ _ => by simp

end programs

/-! ## All runs -/

section runs

variable [DecidableEq ι] {calls : ι → StoreCall} {disk : Disk FsPath} {tr : List (StoreEvent ι)}
  {d : Config (Files.iface FsPath) CoreError (Disk FsPath) fun i => (calls i).Out}

/-- Nothing in hand. Source: none: infrastructure. Kind: D -/
def Hands.none (disk : Disk FsPath) : Hands ι where
  opener _ := Option.none
  stage _ := Option.none
  published n := ∃ id, disk.names.get (pathFor id) = some n
  faulty _ := False

theorem inv_none (hdisk : ContentTrue disk) : Inv calls disk (Hands.none disk) where
  blob id n hn := by
    refine ⟨⟨id, hn⟩, hdisk id _ ?_⟩
    rw [Disk.held, hn]
    rfl
  sealed p n hpub hn := by
    obtain ⟨id, hid⟩ := hpub
    exact ⟨id, disk.distinct _ _ _ hn hid⟩
  used n hpub := by
    obtain ⟨id, hid⟩ := hpub
    exact disk.bounded _ _ hid
  opener _ _ h := nomatch h
  writes _ _ _ h := nomatch h
  isOpen _ _ _ h := nomatch h
  live _ _ _ h := nomatch h
  sidecar _ _ _ h := nomatch h

/-- What a call promises. Source: `rollout-cloud-local/src/object_store.rs`. Kind: D -/
def StoreCall.Promises (c : StoreCall) (faulty : Prop) (r : Except CoreError c.Out) : Prop :=
  (∀ bytes answer, c.content = some bytes → c.putResult r = some answer →
    faulty ∨ answer = .ok (ContentId.of bytes)) ∧
  ∀ id bytes, c.got r = some (id, bytes) → ContentId.of bytes = id

theorem safe_call (hfresh : FreshTemps calls) (i : ι) (s : Disk FsPath) (h : Hands ι) :
    (storeRules calls hfresh).Safe i (fun r _ h => (calls i).Promises (h.faulty i) r)
      (calls i).prog s h := by
  cases hc : calls i with
  | putBytes bytes hint nowMs cuts metaCuts =>
      refine Accord.safe_weaken (fun r s h hr => ⟨?_, fun _ _ => nofun⟩) (safe_putBytes hc)
      intro bytes' answer hbytes hanswer
      obtain rfl := Option.some.inj hbytes
      obtain rfl := Option.some.inj hanswer
      cases r with
      | ok id => exact .inr (congrArg Except.ok hr)
      | error e => exact .inl hr
  | putStream ulid reads =>
      refine Accord.safe_weaken (fun r s h hr => ⟨?_, fun _ _ => nofun⟩) (safe_putStream hc)
      intro bytes answer hbytes hanswer
      have hbytes : streamed reads = some bytes := hbytes
      obtain rfl := Option.some.inj hanswer
      cases r with
      | ok id =>
          obtain ⟨bytes', hbytes', rfl⟩ := hr
          rw [Option.some.inj (hbytes.symm.trans hbytes')]
          exact .inr rfl
      | error e =>
          rcases hr with hr | hr
          · exact .inl hr
          · rw [hbytes] at hr
            cases hr
  | getBytes id cuts =>
      refine Accord.safe_weaken (fun r s h hr => ⟨fun _ _ => nofun, ?_⟩) safe_getBytes
      intro id' bytes hgot
      cases r with
      | ok bytes' =>
          obtain ⟨rfl, rfl⟩ := Prod.mk.inj (Option.some.inj hgot)
          exact hr bytes' rfl
      | error e => cases hgot
  | «exists» id =>
      apply Accord.safe_call
      intro s' h' _ _
      refine ⟨trivial, fun r s'' _ _ _ => ?_⟩
      cases r with
      | ok there => exact Accord.safe_ret fun _ _ _ _ => ⟨fun _ _ => nofun, fun _ _ => nofun⟩
      | error e => exact Accord.safe_err fun _ _ _ _ => ⟨fun _ _ => nofun, fun _ _ => nofun⟩

/-- **What the store shows is complete and hashes to its id, and puts succeed**, in every run in
which no staging file is opened by another put while it is in use. Runs are any interleaving of
calls, each of which may stop anywhere, on any disk that started so.
Source: `rollout-cloud-local/src/object_store.rs`. Kind: P -/
theorem visible_of_stagesAlone (hfresh : FreshTemps calls) (hdisk : ContentTrue disk)
    (hrun : Run (Files.machine FsPath ι) (system calls disk) tr d)
    (hstages : StagesAlone calls tr) :
    ContentTrue d.shared ∧
      (∀ i r id bytes, (d.progs i).result? = some r → (calls i).got r = some (id, bytes) →
        ContentId.of bytes = id) ∧
      ∀ i r bytes answer, (d.progs i).result? = some r → (calls i).content = some bytes →
        (calls i).putResult r = some answer → (∀ e ∈ own i tr, Files.fault e = false) →
        answer = .ok (ContentId.of bytes) := by
  have hass : ∀ tr₁ e tr₂, tr = tr₁ ++ e :: tr₂ →
      Alone calls (tr₁.foldl Hands.after (Hands.none disk)).opener e.who e.op := by
    rintro tr₁ e tr₂ rfl
    have hopeners : (tr₁.foldl Hands.after (Hands.none disk)).opener = lastOpener tr₁ := by
      funext p
      rw [opener_foldl]
      exact Option.or_none
    have hlen : tr₁.length < (tr₁ ++ e :: tr₂).length := by
      rw [List.length_append, List.length_cons]
      omega
    have halone := hstages tr₁.length hlen
    simp only [List.take_left, List.getElem_append_right (Nat.le_refl _), Nat.sub_self,
      List.getElem_cons_zero] at halone
    rw [hopeners]
    exact halone
  obtain ⟨hinv, hpost⟩ := Accord.sound (A := storeRules calls hfresh)
    (fun i r _ h => (calls i).Promises (h.faulty i) r) hrun (inv_none hdisk)
    (fun i => safe_call hfresh i _ _) hass
  refine ⟨?_, ?_, ?_⟩
  · intro id bytes hheld
    obtain ⟨n, hn, rfl⟩ := Option.map_eq_some_iff.mp hheld
    exact (hinv.blob id n hn).2
  · intro i r id bytes hres hgot
    exact (hpost i r hres).2 id bytes hgot
  · intro i r bytes answer hres hcontent hanswer hnofault
    rcases (hpost i r hres).1 bytes answer hcontent hanswer with hfaulty | hok
    · rcases fault_of_faulty hfaulty with hnone | ⟨e, he, hfault⟩
      · exact hnone.elim
      · rw [hnofault e he] at hfault
        cases hfault
    · exact hok

end runs

end visible

/-! ## Concrete runs -/

section concrete

/-- The digest of three bytes. Source: none: infrastructure. Kind: D -/
def ofAbc : ContentId :=
  ⟨[0x64, 0x37, 0xb3, 0xac, 0x38, 0x46, 0x51, 0x33, 0xff, 0xb6, 0x3b, 0x75, 0x27, 0x3a, 0x8d, 0xb5,
    0x48, 0xc5, 0x58, 0x46, 0x5d, 0x79, 0xdb, 0x03, 0xfd, 0x35, 0x9c, 0x6c, 0xd5, 0xbd, 0x9d, 0x85],
    rfl⟩

/-- A digest function that is right about the empty input and about `abc`.
Source: none: infrastructure. Kind: D -/
@[reducible] def abcBlake3 : Blake3 := ⟨fun data => if data = [] then ContentId.ofEmpty else ofAbc⟩

/-- A put of `abc`. Source: `rollout-cloud-local/src/object_store.rs` `put_bytes`. Kind: D -/
def putAbc : StoreCall := .putBytes [97, 98, 99] ⟨none, none⟩ 0 [] []

/-- Two puts of one content, and a get of it. Source: none: infrastructure. Kind: D -/
def twoPuts : Fin 3 → StoreCall
  | 0 => putAbc
  | 1 => putAbc
  | 2 => .getBytes ofAbc [0]

theorem freshTemps_twoPuts : FreshTemps twoPuts := by
  intro i j ulid reads reads' hi
  match i with
  | 0 => cases hi
  | 1 => cases hi
  | 2 => cases hi

theorem contentTrue_empty [Blake3] : ContentTrue Disk.empty := by
  intro id bytes h
  cases h

/-- `visible_of_stagesAlone` where a put stops after it has opened its staging file, another put of
the same content goes through, and a get reads it in two steps.
Source: `rollout-cloud-local/src/object_store.rs` `put_bytes`. Kind: C -/
theorem visible_of_stagesAlone_stopped :
    ∃ tr d, Run (Files.machine FsPath (Fin 3)) (@system abcBlake3 _ twoPuts Disk.empty) tr d ∧
      d.shared.held (pathFor ofAbc) = some [97, 98, 99] ∧
      (d.progs 1).result?.bind (twoPuts 1).putResult = some (.ok ofAbc) ∧
      (d.progs 2).result?.bind (twoPuts 2).got = some (ofAbc, [97, 98, 99]) ∧
      @ContentTrue abcBlake3 d.shared := by
  let _ := abcBlake3
  have hplay : ((system twoPuts Disk.empty).play
      (inTurn (Files.machine FsPath (Fin 3)) none [0, 0, 0, 1, 1, 1, 1, 1, 1, 1, 2, 2, 2])).map (fun x => decide (
        StagesAlone twoPuts x.1 ∧ x.2.shared.held (pathFor ofAbc) = some [97, 98, 99] ∧
        (x.2.progs 1).result?.bind (twoPuts 1).putResult = some (.ok ofAbc) ∧
        (x.2.progs 2).result?.bind (twoPuts 2).got = some (ofAbc, [97, 98, 99]))) = some true := by decide +kernel
  obtain ⟨⟨tr, d⟩, hrun, hfacts⟩ := Option.map_eq_some_iff.mp hplay
  obtain ⟨hstages, hheld, hput, hget⟩ := of_decide_eq_true hfacts
  exact ⟨tr, d, Config.play_run hrun, hheld, hput, hget,
    (visible_of_stagesAlone freshTemps_twoPuts contentTrue_empty (Config.play_run hrun) hstages).1⟩

/-- **Two puts of one content**: one fills the staging file, the other opens it and so cuts it to
nothing, and the first renames it. The id stands for an empty blob, and the second put, whose file
is gone, fails although no operation was failed.
Source: `rollout-cloud-local/src/object_store.rs` `put_bytes`. Kind: C -/
theorem truncated_blob_published :
    (∃ tr d, Run (Files.machine FsPath (Fin 3)) (@system abcBlake3 _ twoPuts Disk.empty) tr d ∧
      d.shared.held (pathFor ofAbc) = some [] ∧
      (d.progs 2).result?.bind (twoPuts 2).got = some (ofAbc, []) ∧
        ¬ @ContentTrue abcBlake3 d.shared) ∧
    ∃ tr d, Run (Files.machine FsPath (Fin 3)) (@system abcBlake3 _ twoPuts Disk.empty) tr d ∧
      (d.progs 1).result?.bind (twoPuts 1).putResult = some (.error (internal .notFound)) ∧
      ∀ e ∈ tr, Files.fault e = false := by
  let _ := abcBlake3
  constructor
  · have hplay : ((system twoPuts Disk.empty).play
        (inTurn (Files.machine FsPath (Fin 3)) none [0, 1, 0, 1, 0, 0, 1, 0, 2, 2])).map (fun x => decide (
          x.2.shared.held (pathFor ofAbc) = some [] ∧
          (x.2.progs 2).result?.bind (twoPuts 2).got = some (ofAbc, []))) = some true := by decide +kernel
    obtain ⟨⟨tr, d⟩, hrun, hfacts⟩ := Option.map_eq_some_iff.mp hplay
    obtain ⟨hheld, hget⟩ := of_decide_eq_true hfacts
    refine ⟨tr, d, Config.play_run hrun, hheld, hget, fun htrue => ?_⟩
    exact absurd (htrue ofAbc [] hheld) (by decide)
  · have hplay : ((system twoPuts Disk.empty).play
        (inTurn (Files.machine FsPath (Fin 3)) none [0, 1, 0, 1, 0, 0, 1, 0, 1, 1])).map (fun x => decide (
          (x.2.progs 1).result?.bind (twoPuts 1).putResult = some (.error (internal .notFound)) ∧
          ∀ e ∈ x.1, Files.fault e = false)) = some true := by decide +kernel
    obtain ⟨⟨tr, d⟩, hrun, hfacts⟩ := Option.map_eq_some_iff.mp hplay
    obtain ⟨hput, hnofault⟩ := of_decide_eq_true hfacts
    exact ⟨tr, d, Config.play_run hrun, hput, hnofault⟩

end concrete

end Rollout.CloudLocal.ObjectStore
