import Rollout.Lib.Interleave
import Rollout.Lib.KV
import Rollout.Lib.Wire

/-!
# Files

* `Disk π` — names, each of which stands for one file, and what the files hold. That no two names
  stand for one file is a field.
* `FileOp` — the operations of a process, one system call each. Opening a file for writing cuts it
  to nothing; a write fills it at an offset; a rename replaces what the target stood for.
* `Files.machine` — the disk under any number of processes. The environment decides only whether an
  operation fails; a process that is cut off leaves what it has written.
-/

set_option linter.unusedSectionVars false

namespace Rollout.Lib

/-- The error of an operation. Source: none: infrastructure. Kind: D -/
inductive IoError
  | notFound
  | other (msg : String)
deriving DecidableEq, Repr

/-- An error as text. Source: none: infrastructure. Kind: D -/
def IoError.display : IoError → String
  | .notFound => "No such file or directory (os error 2)"
  | .other msg => msg

/-- What a file holds after `piece` was written at `offset`; a hole reads as zeros.
Source: none: infrastructure. Kind: D -/
def splice (held : Bytes) (offset : Nat) (piece : Bytes) : Bytes :=
  if piece = [] then held
  else held.take offset ++ List.replicate (offset - held.length) 0 ++ piece ++
    held.drop (offset + piece.length)

/-- A write at the end. Source: none: infrastructure. Kind: L -/
theorem splice_end (held piece : Bytes) : splice held held.length piece = held ++ piece := by
  unfold splice
  by_cases h : piece = []
  · rw [if_pos h, h, List.append_nil]
  · rw [if_neg h, List.take_length, Nat.sub_self, List.replicate_zero, List.append_nil,
      List.drop_eq_nil_of_le (Nat.le_add_right _ _), List.append_nil]

/-- Some bytes, cut into pieces: each cut takes one byte more than it says, as long as there are
any. Source: none: infrastructure. Kind: D -/
def pieces : List Nat → Bytes → List Bytes
  | [], bytes => [bytes]
  | n :: cuts, bytes => bytes.take (n + 1) :: pieces cuts (bytes.drop (n + 1))

@[simp] theorem flatten_pieces (cuts : List Nat) (bytes : Bytes) :
    (pieces cuts bytes).flatten = bytes := by
  induction cuts generalizing bytes with
  | nil => simp [pieces]
  | cons n cuts ih => rw [pieces, List.flatten_cons, ih, List.take_append_drop]

variable {π : Type} [DecidableEq π]

/-! ## Disks -/

/-- **A disk**: names and what their files hold. Source: none: infrastructure. Kind: D -/
structure Disk (π : Type) [DecidableEq π] where
  /-- The file each name stands for. -/
  names : KV π Nat
  /-- What each file holds. -/
  data : Nat → Bytes
  /-- The first file that was never used. -/
  next : Nat
  bounded : ∀ p n, names.get p = some n → n < next
  distinct : ∀ p q n, names.get p = some n → names.get q = some n → p = q

/-- An open file, with the name it was opened under. Source: none: infrastructure. Kind: D -/
structure OpenFile (π : Type) where
  /-- The name. -/
  path : π
  /-- The file. -/
  inode : Nat
deriving DecidableEq

namespace Disk

/-- An empty disk. Source: none: infrastructure. Kind: D -/
def empty : Disk π where
  names := ∅
  data _ := []
  next := 0
  bounded _ _ h := nomatch h
  distinct _ _ _ h := nomatch h

variable (s : Disk π)

/-- What a name stands for, and what that holds. Source: none: infrastructure. Kind: D -/
def held (p : π) : Option Bytes := (s.names.get p).map s.data

/-- Cut a file to nothing. Source: none: infrastructure. Kind: D -/
def cut (n : Nat) : Disk π := { s with data := Function.update s.data n [] }

/-- Give a name a fresh file. Source: none: infrastructure. Kind: D -/
def fresh (p : π) : Disk π where
  names := s.names.put p s.next
  data := Function.update s.data s.next []
  next := s.next + 1
  bounded q n h := by
    rw [KV.get_put] at h
    split at h
    · rw [← Option.some.inj h]
      exact Nat.lt_succ_self _
    · exact Nat.lt_succ_of_lt (s.bounded q n h)
  distinct q q' n h h' := by
    rw [KV.get_put] at h h'
    split at h
    · next hq =>
      split at h'
      · next hq' => rw [hq, hq']
      · rw [← Option.some.inj h] at h'
        exact absurd (s.bounded q' _ h') (Nat.lt_irrefl _)
    · split at h'
      · rw [← Option.some.inj h'] at h
        exact absurd (s.bounded q _ h) (Nat.lt_irrefl _)
      · exact s.distinct q q' n h h'

/-- Open a name for writing. Source: none: infrastructure. Kind: D -/
def create (p : π) : OpenFile π × Disk π :=
  match s.names.get p with
  | some n => (⟨p, n⟩, s.cut n)
  | none => (⟨p, s.next⟩, s.fresh p)

/-- Fill a file. Source: none: infrastructure. Kind: D -/
def write (n offset : Nat) (piece : Bytes) : Disk π :=
  { s with data := Function.update s.data n (splice (s.data n) offset piece) }

/-- Take a name away. Source: none: infrastructure. Kind: D -/
def unlink (p : π) : Disk π where
  names := s.names.del p
  data := s.data
  next := s.next
  bounded q n h := by
    rw [KV.get_del] at h
    split at h
    · cases h
    · exact s.bounded q n h
  distinct q q' n h h' := by
    rw [KV.get_del] at h h'
    split at h
    · cases h
    · split at h'
      · cases h'
      · exact s.distinct q q' n h h'

/-- Give the file of `p` the name `q` instead. Source: none: infrastructure. Kind: D -/
def move (p q : π) (n : Nat) (hp : s.names.get p = some n) : Disk π where
  names := (s.names.del p).put q n
  data := s.data
  next := s.next
  bounded x m h := by
    rw [KV.get_put] at h
    split at h
    · rw [← Option.some.inj h]
      exact s.bounded p n hp
    · exact (s.unlink p).bounded x m h
  distinct x y m h h' := by
    have hgone : ∀ z, (s.names.del p).get z ≠ some n := by
      intro z hz
      rw [KV.get_del] at hz
      split at hz
      · cases hz
      · next hne => exact hne (s.distinct z p n hz hp)
    rw [KV.get_put] at h h'
    split at h
    · next hx =>
      split at h'
      · next hy => rw [hx, hy]
      · rw [← Option.some.inj h] at h'
        exact absurd h' (hgone y)
    · split at h'
      · rw [← Option.some.inj h'] at h
        exact absurd h (hgone x)
      · exact (s.unlink p).distinct x y m h h'

variable {s}

/-! ### What the operations leave -/

@[simp] theorem create_path (p : π) : (s.create p).1.path = p := by
  unfold create
  split <;> rfl

/-- The file that is opened: the one the name stood for, or a fresh one.
Source: none: infrastructure. Kind: L -/
theorem create_inode (p : π) :
    s.names.get p = some (s.create p).1.inode ∨
      (s.names.get p = none ∧ (s.create p).1.inode = s.next) := by
  unfold create
  split
  · next n hn => exact .inl hn
  · next hn => exact .inr ⟨hn, rfl⟩

theorem names_create (p q : π) :
    (s.create p).2.names.get q = if q = p then some (s.create p).1.inode else s.names.get q := by
  unfold create
  split
  · next n hn =>
    by_cases h : q = p
    · rw [if_pos h, h]
      exact hn
    · rw [if_neg h]
      rfl
  · exact KV.get_put ..

theorem data_create (p : π) (n : Nat) :
    (s.create p).2.data n = if n = (s.create p).1.inode then [] else s.data n := by
  unfold create
  split
  · exact Function.update_apply ..
  · exact Function.update_apply ..

theorem next_create (p : π) : s.next ≤ (s.create p).2.next := by
  unfold create
  split
  · exact Nat.le_refl _
  · exact Nat.le_succ _

theorem data_write_self (n offset : Nat) (piece : Bytes) :
    (s.write n offset piece).data n = splice (s.data n) offset piece := Function.update_self ..

theorem data_write_of_ne {n m : Nat} (offset : Nat) (piece : Bytes) (h : m ≠ n) :
    (s.write n offset piece).data m = s.data m := Function.update_of_ne h ..

theorem names_move {p q : π} {n : Nat} (hp : s.names.get p = some n) (x : π) :
    (s.move p q n hp).names.get x =
      if x = q then some n else if x = p then none else s.names.get x := by
  have hmove : (s.move p q n hp).names.get x = ((s.names.del p).put q n).get x := rfl
  rw [hmove, KV.get_put, KV.get_del]

theorem names_unlink (p x : π) :
    (s.unlink p).names.get x = if x = p then none else s.names.get x := KV.get_del ..

end Disk

/-! ## Operations -/

/-- The operations on files. Source: none: infrastructure. Kind: D -/
inductive FileOp (π : Type)
  /-- Make a directory and those above it. -/
  | createDirAll (path : π)
  /-- Whether a name stands for something. -/
  | tryExists (path : π)
  /-- Open for writing; the file is cut to nothing. -/
  | create (path : π)
  /-- Fill an open file. -/
  | write (file : OpenFile π) (offset : Nat) (piece : Bytes)
  /-- Wait until what was written has reached the file. -/
  | flush (file : OpenFile π)
  /-- Wait until it has reached the medium. -/
  | syncAll (file : OpenFile π)
  /-- Rename, replacing the target. -/
  | rename (source target : π)
  /-- Remove a name. -/
  | removeFile (path : π)
  /-- Open for reading. -/
  | openRead (path : π)
  /-- Read on from an offset; no more than so much. -/
  | read (file : OpenFile π) (offset : Nat) (most : Option Nat)

/-- What an operation answers when it does not fail. Source: none: infrastructure. Kind: D -/
@[reducible] def FileOp.Out : FileOp π → Type
  | .createDirAll _ => Unit
  | .tryExists _ => Bool
  | .create _ => OpenFile π
  | .write .. => Unit
  | .flush _ => Unit
  | .syncAll _ => Unit
  | .rename .. => Unit
  | .removeFile _ => Unit
  | .openRead _ => OpenFile π
  | .read .. => Bytes

namespace Files

/-- The interface to a disk. Source: none: infrastructure. Kind: D -/
@[reducible] def iface (π : Type) : Iface := ⟨FileOp π, fun o => Except IoError o.Out⟩

/-- What an operation answers and does when the environment does not fail it. The directories are
not kept: nothing removes one. Source: none: infrastructure. Kind: D -/
def perform : (o : FileOp π) → Disk π → Except IoError o.Out × Disk π
  | .createDirAll _, s => (.ok (), s)
  | .tryExists p, s => (.ok (s.names.get p).isSome, s)
  | .create p, s => (.ok (s.create p).1, (s.create p).2)
  | .write file offset piece, s => (.ok (), s.write file.inode offset piece)
  | .flush _, s => (.ok (), s)
  | .syncAll _, s => (.ok (), s)
  | .rename p q, s =>
      match h : s.names.get p with
      | some n => (.ok (), s.move p q n h)
      | none => (.error .notFound, s)
  | .removeFile p, s =>
      match s.names.get p with
      | some _ => (.ok (), s.unlink p)
      | none => (.error .notFound, s)
  | .openRead p, s =>
      match s.names.get p with
      | some n => (.ok ⟨p, n⟩, s)
      | none => (.error .notFound, s)
  | .read file offset most, s =>
      match most with
      | some n => (.ok (((s.data file.inode).drop offset).take n), s)
      | none => (.ok ((s.data file.inode).drop offset), s)

/-- **The disk under the processes.** Source: none: infrastructure. Kind: D -/
@[reducible] def machine (π ι : Type) [DecidableEq π] : Machine (iface π) ι (Disk π) where
  Choice := Option IoError
  exec ch _ o s :=
    match ch with
    | some e => some (.error e, s)
    | none => some (perform o s)
  Tick := Empty
  tick t := t.elim

variable {ι : Type}

instance : IsEmpty (machine π ι).Tick := ⟨fun t => Empty.elim t⟩

/-- The environment failed an operation that would have taken effect.
Source: none: infrastructure. Kind: D -/
def fault (e : Event (iface π) ι (Disk π)) : Bool :=
  match e.resp, (perform e.op e.pre).1 with
  | .error _, .ok _ => true
  | _, _ => false

theorem fault_of_error {i : ι} {o : FileOp π} {err : IoError} {a : o.Out} {s s' : Disk π}
    (h : (perform o s).1 = .ok a) : fault ⟨i, o, .error err, s, s'⟩ = true := by
  unfold fault
  rw [h]

/-- **All an operation can do**: fail and change nothing, or take effect.
Source: none: infrastructure. Kind: L -/
theorem does_iff {i : ι} {o : FileOp π} {r : Except IoError o.Out} {s s' : Disk π} :
    (machine π ι).Does ⟨i, o, r, s, s'⟩ ↔
      (∃ err, r = .error err ∧ s' = s) ∨ perform o s = (r, s') := by
  constructor
  · rintro ⟨ch, h⟩
    cases ch with
    | some err =>
        obtain ⟨hr, hs⟩ := Prod.mk.inj (Option.some.inj h)
        exact .inl ⟨err, hr.symm, hs.symm⟩
    | none => exact .inr (Option.some.inj h)
  · rintro (⟨err, rfl, rfl⟩ | h)
    · exact ⟨some err, rfl⟩
    · exact ⟨none, congrArg some h⟩

/-- An operation that answers an error changes nothing. Source: none: infrastructure. Kind: L -/
theorem perform_error {o : FileOp π} {s s' : Disk π} {err : IoError}
    (h : perform o s = (.error err, s')) : s' = s := by
  cases o with
  | rename p q =>
      simp only [perform] at h
      split at h
      · cases h
      · exact (Prod.mk.inj h).2.symm
  | removeFile p =>
      simp only [perform] at h
      split at h
      · cases h
      · exact (Prod.mk.inj h).2.symm
  | openRead p =>
      simp only [perform] at h
      split at h
      · cases h
      · exact (Prod.mk.inj h).2.symm
  | read file offset most =>
      cases most with
      | none => cases h
      | some n => cases h
  | _ => cases h

end Files

end Rollout.Lib
