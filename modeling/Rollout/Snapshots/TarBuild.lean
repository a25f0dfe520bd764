import Mathlib.Data.Countable.Basic
import Mathlib.Data.List.Forall2
import Mathlib.Data.List.Lex
import Mathlib.Logic.Equiv.List
import Mathlib.Order.Basic
import Rollout.Core.Errors
import Rollout.Snapshots.DirTree

/-!
# The archive of a directory

* `TarLib` — the tar library; `TarLib.Inverse` is what is assumed of it: unpacking into an empty
  directory gives what the entries say.
* `buildDeterministicTar` — walk, drop the errors of the walk, sort, and append an entry for each path
  under a header of its own; `extractTar` unpacks.
* `tree` — the relative paths of a directory and the contents of its files. The archive of a directory
  without links and faults depends on its tree only, and unpacks to it (`tar_deterministic_faithful`).
-/

set_option linter.unusedSectionVars false

namespace Rollout.Snapshots

open Rollout.Lib Rollout.Core

/-! ## The tar library -/

/-- Source: `rollout-snapshots/src/tar_build.rs` `build_deterministic_tar` (`tar::EntryType`).
Kind: D -/
inductive EntryType
  | regular
  | directory
deriving DecidableEq

/-- A GNU header. Source: `rollout-snapshots/src/tar_build.rs` `build_deterministic_tar`
(`tar::Header::new_gnu`). Kind: D -/
structure TarHeader where
  /-- The length of the data. -/
  size : BitVec 64
  /-- The mode bits. -/
  mode : BitVec 32
  /-- The modification time. -/
  mtime : BitVec 64
  /-- The owner. -/
  uid : BitVec 64
  /-- The group. -/
  gid : BitVec 64
  /-- The type. -/
  entryType : EntryType
deriving DecidableEq

/-- What is appended. Source: `rollout-snapshots/src/tar_build.rs` `build_deterministic_tar`
(`append_data`). Kind: D -/
structure TarEntry where
  /-- The header. -/
  header : TarHeader
  /-- The path. -/
  path : RelPath
  /-- The data. -/
  data : Bytes
deriving DecidableEq

/-- What is at a path. Source: none: infrastructure. Kind: D -/
inductive Content
  | dir
  | file (contents : Bytes)
deriving DecidableEq

/-- The paths of a directory tree and what is there. Source: none: infrastructure. Kind: D -/
abbrev Tree := RelPath → Option Content

/-- An empty directory. Source: none: infrastructure. Kind: D -/
def Tree.empty : Tree := fun path => if path = [] then some .dir else none

/-- **The tar library.** Source: `rollout-snapshots/src/tar_build.rs` (`tar::Builder`,
`tar::Archive`). Kind: D -/
structure TarLib where
  /-- Why an entry cannot be appended. -/
  refuses : TarEntry → Option IoError
  /-- The finished archive of some entries. -/
  archive : List TarEntry → Bytes
  /-- Unpack into a directory. -/
  unpack : Bytes → Tree → Except IoError Tree

/-- What the entry says is at its path. Source: none: the library's documented behaviour.
Kind: D -/
def TarEntry.content (entry : TarEntry) : Content :=
  match entry.header.entryType with
  | .regular => .file entry.data
  | .directory => .dir

/-- An entry of GNU format: a relative path, and as much data as the header says.
Source: none: the library's documented behaviour. Kind: D -/
structure TarEntry.Gnu (entry : TarEntry) : Prop where
  path : entry.path ≠ []
  size : entry.header.size.toNat = entry.data.length
  dir : entry.header.entryType = .directory → entry.data = []

/-- One entry for a path, and nothing below a file.
Source: none: the library's documented behaviour. Kind: D -/
structure Consistent (entries : List TarEntry) : Prop where
  gnu : ∀ entry ∈ entries, entry.Gnu
  distinct : (entries.map TarEntry.path).Nodup
  above : ∀ a ∈ entries, ∀ b ∈ entries, a.path <+: b.path → a.path ≠ b.path →
    a.header.entryType = .directory

/-- **What the entries say**: each at its path, and directories above.
Source: none: the library's documented behaviour. Kind: D -/
def unpacked (entries : List TarEntry) : Tree := fun path =>
  match entries.find? fun entry => entry.path = path with
  | some entry => some entry.content
  | none => if path = [] ∨ ∃ entry ∈ entries, path <+: entry.path then some .dir else none

/-- **Appending and unpacking are inverse** on entries of GNU format.
Source: none: the library's documented behaviour. Kind: D -/
structure TarLib.Inverse (tar : TarLib) : Prop where
  accepts : ∀ entry : TarEntry, entry.Gnu → tar.refuses entry = none
  unpacks : ∀ entries, Consistent entries →
    tar.unpack (tar.archive entries) .empty = .ok (unpacked entries)

/-! ## The code -/

/-- Source: `rollout-snapshots/src/tar_build.rs` `io_err`. Kind: D -/
def ioErr (e : IoError) : CoreError := .recoverable (.transient e .never)

/-- The components of a path, as they are compared.
Source: `rollout-snapshots/src/tar_build.rs` (`PathBuf`). Kind: D -/
def components (path : RelPath) : List (List ℕ) :=
  path.map fun name => name.bytes.map UInt8.toNat

/-- The order of paths: component by component, byte by byte.
Source: `rollout-snapshots/src/tar_build.rs` `build_deterministic_tar` (`entries.sort`). Kind: D -/
def pathLe (a b : RelPath) : Bool := decide (components a ≤ components b)

/-- The paths that are archived, in order: those the walk yields without an error, but the directory
itself. Source: `rollout-snapshots/src/tar_build.rs` `build_deterministic_tar` (`entries`).
Kind: D -/
def archivedPaths (src : SourceDir) : List RelPath :=
  ((src.walkDir.filterMap Except.toOption).filter fun path => path ≠ []).mergeSort pathLe

/-- The header of an entry. Source: `rollout-snapshots/src/tar_build.rs` `build_deterministic_tar`
(`header`). Kind: D -/
def headerOf (md : Metadata) : TarHeader where
  size := if md.isDir then 0 else md.len
  mode := if md.isDir then 0o755 else 0o644
  mtime := 0
  uid := 0
  gid := 0
  entryType := if md.isDir then .directory else .regular

/-- The entry for a path. Source: `rollout-snapshots/src/tar_build.rs` `build_deterministic_tar` (the
body of its loop). Kind: D -/
def entryFor (src : SourceDir) (path : RelPath) : Except CoreError TarEntry := do
  let md ← (src.metadata path).mapError ioErr
  if md.isDir then
    return ⟨headerOf md, path, []⟩
  else
    let contents ← (src.read path).mapError ioErr
    return ⟨headerOf md, path, contents.1⟩

/-- Append an entry to those before. Source: `rollout-snapshots/src/tar_build.rs`
`build_deterministic_tar` (`append_data`). Kind: D -/
def appendData (tar : TarLib) (entries : List TarEntry) (entry : TarEntry) :
    Except CoreError (List TarEntry) :=
  match tar.refuses entry with
  | some e => .error (ioErr e)
  | none => .ok (entries ++ [entry])

/-- The loop over the paths. Source: `rollout-snapshots/src/tar_build.rs` `build_deterministic_tar`.
Kind: D -/
def appendAll (tar : TarLib) (src : SourceDir) :
    List TarEntry → List RelPath → Except CoreError (List TarEntry)
  | entries, [] => return entries
  | entries, path :: paths => do
      let entry ← entryFor src path
      let entries ← appendData tar entries entry
      appendAll tar src entries paths

/-- **The archive of a directory.** Source: `rollout-snapshots/src/tar_build.rs`
`build_deterministic_tar`. Kind: D -/
def buildDeterministicTar (tar : TarLib) (src : SourceDir) : Except CoreError Bytes := do
  let entries ← appendAll tar src [] (archivedPaths src)
  return tar.archive entries

/-- Unpack into a directory that is there. Source: `rollout-snapshots/src/tar_build.rs`
`extract_tar`. Kind: D -/
def extractTar (tar : TarLib) (tarBytes : Bytes) (dst : Tree) : Except CoreError Tree :=
  (tar.unpack tarBytes dst).mapError ioErr

/-! ## The order of the archive -/

theorem components_inj {a b : RelPath} (h : components a = components b) : a = b := by
  refine List.map_injective_iff.mpr (fun m n hmn => ?_) h
  obtain ⟨m, hm⟩ := m
  obtain ⟨n, hn⟩ := n
  rw [Name.mk.injEq]
  exact List.map_injective_iff.mpr (fun x y => UInt8.toNat_inj.mp) hmn

theorem pathLe_antisymm {a b : RelPath} (hab : pathLe a b) (hba : pathLe b a) : a = b :=
  components_inj (le_antisymm (of_decide_eq_true hab) (of_decide_eq_true hba))

/-- **A directory comes before what it holds.** Source: `rollout-snapshots/src/tar_build.rs` (its
documentation). Kind: L -/
theorem pathLe_of_above {a b : RelPath} (h : a <+: b) : pathLe a b :=
  decide_eq_true (not_lt.mp (h.map fun name : Name => name.bytes.map UInt8.toNat).le)

theorem pathLe_trans (a b c : RelPath) (hab : pathLe a b) (hbc : pathLe b c) : pathLe a c :=
  decide_eq_true (le_trans (of_decide_eq_true hab) (of_decide_eq_true hbc))

theorem pathLe_total (a b : RelPath) : pathLe a b || pathLe b a := by
  simpa [pathLe] using le_total (components a) (components b)

theorem pairwise_pathLe (paths : List RelPath) :
    (paths.mergeSort pathLe).Pairwise fun a b => pathLe a b = true :=
  List.pairwise_mergeSort pathLe_trans pathLe_total paths

section order

variable {src src' : SourceDir} {path : RelPath}

theorem mem_archivedPaths : path ∈ archivedPaths src ↔ .ok path ∈ src.walkDir ∧ path ≠ [] := by
  unfold archivedPaths
  rw [List.mem_mergeSort, List.mem_filter, Listing.mem_filterMap_toOption, decide_eq_true_eq]

theorem nodup_archivedPaths (src : SourceDir) : (archivedPaths src).Nodup := by
  unfold archivedPaths
  rw [(List.mergeSort_perm _ _).nodup_iff]
  refine List.Nodup.filter _ ?_
  unfold SourceDir.walkDir Listing.entered
  cases src.missing with
  | some e => exact List.nodup_nil
  | none =>
      refine List.nodup_cons.mpr ⟨fun h => ?_, ?_⟩
      · have hmem := (Listing.ok_mem_listed.mp (Listing.mem_filterMap_toOption.mp h)).2
        exact (Listing.find_of_mem_walk src.distinct hmem).1 rfl
      · cases src.unlistable with
        | some e => exact List.nodup_nil
        | none => exact Listing.nodup_walk src.distinct

/-- **Parents precede their children.** Source: `rollout-snapshots/src/tar_build.rs` (its
documentation). Kind: P -/
theorem parents_first (src : SourceDir) : (archivedPaths src).Pairwise fun a b => ¬ b <+: a := by
  have hsorted : (archivedPaths src).Pairwise fun a b => pathLe a b = true := pairwise_pathLe _
  refine (hsorted.and (nodup_archivedPaths src)).imp fun {a b} hab habove => ?_
  exact hab.2 (pathLe_antisymm hab.1 (pathLe_of_above habove))

/-- The order in which a directory is enumerated does not matter.
Source: `rollout-snapshots/src/tar_build.rs` (its documentation). Kind: P -/
theorem archivedPaths_eq (h : ∀ path, path ∈ archivedPaths src ↔ path ∈ archivedPaths src') :
    archivedPaths src = archivedPaths src' :=
  List.Perm.eq_of_pairwise (fun _ _ _ _ hab hba => pathLe_antisymm hab hba) (pairwise_pathLe _)
    (pairwise_pathLe _)
    ((List.perm_ext_iff_of_nodup (nodup_archivedPaths src) (nodup_archivedPaths src')).mpr h)

/-- What a walk yields is there. Source: `rollout-snapshots/src/tar_build.rs`
`build_deterministic_tar` (`WalkDir`). Kind: L -/
theorem find_of_mem_walkDir (h : .ok path ∈ src.walkDir) (hne : path ≠ []) :
    ∃ node, src.listing.find path = some node := by
  unfold SourceDir.walkDir at h
  rw [Listing.ok_mem_entered, Listing.ok_mem_listed, or_iff_right hne] at h
  exact (Listing.find_of_mem_walk src.distinct h.2.2).2

/-- A walk without errors yields all that is there. Source:
`rollout-snapshots/src/tar_build.rs` `build_deterministic_tar` (`WalkDir`). Kind: L -/
theorem mem_walkDir_of_find (hok : ∀ e, .error e ∉ src.walkDir) {node : Node}
    (h : src.listing.find path = some node) : .ok path ∈ src.walkDir := by
  unfold SourceDir.walkDir at hok ⊢
  have hmissing : src.missing = none := Option.eq_none_iff_forall_ne_some.mpr fun e he =>
    hok e (Listing.error_mem_entered.mpr (.inl he))
  have hlist : src.unlistable = none := Option.eq_none_iff_forall_ne_some.mpr fun e he =>
    hok e (Listing.error_mem_entered.mpr (.inr ⟨hmissing, Listing.error_mem_listed.mpr (.inl he)⟩))
  refine Listing.ok_mem_entered.mpr ⟨hmissing, .inr (Listing.ok_mem_listed.mpr ⟨hlist, ?_⟩)⟩
  refine Listing.mem_walk_of_find (fun e he => ?_) h
  exact hok e (Listing.error_mem_entered.mpr
    (.inr ⟨hmissing, Listing.error_mem_listed.mpr (.inr ⟨hlist, he⟩)⟩))

end order

/-! ## The loop -/

section loop

variable {tar : TarLib} {src src' : SourceDir} {paths : List RelPath} {entries : List TarEntry}

theorem appendAll_congr (h : ∀ path ∈ paths, entryFor src path = entryFor src' path) :
    appendAll tar src entries paths = appendAll tar src' entries paths := by
  induction paths generalizing entries with
  | nil => rfl
  | cons path paths ih =>
      rw [appendAll, appendAll, h path List.mem_cons_self]
      refine bind_congr fun entry => bind_congr fun entries' => ?_
      exact ih fun other hother => h other (List.mem_cons_of_mem _ hother)

/-- **What the loop appends**: an entry for each path, none of which fails.
Source: `rollout-snapshots/src/tar_build.rs` `build_deterministic_tar`. Kind: L -/
theorem appendAll_eq_ok {all : List TarEntry} : appendAll tar src entries paths = .ok all ↔
    ∃ more, all = entries ++ more ∧ List.Forall₂
      (fun path entry => entryFor src path = .ok entry ∧ tar.refuses entry = none) paths more := by
  induction paths generalizing entries with
  | nil =>
      rw [appendAll]
      constructor
      · intro h
        exact ⟨[], by rw [List.append_nil]; exact (Except.ok.inj h).symm, .nil⟩
      · rintro ⟨more, rfl, hmore⟩
        cases hmore
        rw [List.append_nil]
        rfl
  | cons path paths ih =>
      rw [appendAll]
      cases hentry : entryFor src path with
      | error e =>
          refine ⟨by rintro ⟨⟩, ?_⟩
          rintro ⟨more, -, hmore⟩
          cases hmore with
          | cons h _ => rw [h.1] at hentry; cases hentry
      | ok entry =>
          show appendData tar entries entry >>= _ = _ ↔ _
          cases hrefuses : tar.refuses entry with
          | some e =>
              rw [appendData, hrefuses]
              refine ⟨by rintro ⟨⟩, ?_⟩
              rintro ⟨more, -, hmore⟩
              cases hmore with
              | cons h _ =>
                  obtain rfl := Except.ok.inj (hentry.symm.trans h.1)
                  rw [h.2] at hrefuses
                  cases hrefuses
          | none =>
              rw [appendData, hrefuses]
              show appendAll tar src (entries ++ [entry]) paths = _ ↔ _
              rw [ih]
              constructor
              · rintro ⟨more, rfl, hmore⟩
                exact ⟨entry :: more, by rw [List.append_assoc]; rfl,
                  .cons ⟨hentry, hrefuses⟩ hmore⟩
              · rintro ⟨more, rfl, hmore⟩
                cases hmore with
                | cons h hmore =>
                    obtain rfl := Except.ok.inj (hentry.symm.trans h.1)
                    exact ⟨_, by rw [List.append_assoc]; rfl, hmore⟩

end loop

/-! ## The tree of a directory -/

/-- What there is, links followed. Source: none: infrastructure. Kind: D -/
def Node.content : Node → Option Content
  | .dir .. => some .dir
  | .leaf _ (.link (.dir ..)) => some .dir
  | .leaf _ lf => (lf.look []).map fun contents => .file contents.1

/-- **The relative paths of a directory and the contents of its files.**
Source: `rollout-snapshots/src/tar_build.rs` (its documentation). Kind: D -/
def SourceDir.tree (src : SourceDir) : Tree := fun path =>
  if path = [] then some .dir else (src.listing.find path).bind Node.content

/-- The entry of what is at a path. Source: `rollout-snapshots/src/tar_build.rs` (its documentation).
Kind: D -/
def entryOf (path : RelPath) : Content → TarEntry
  | .dir => ⟨⟨0, 0o755, 0, 0, 0, .directory⟩, path, []⟩
  | .file contents =>
      ⟨⟨BitVec.ofNat 64 contents.length, 0o644, 0, 0, 0, .regular⟩, path, contents⟩

@[simp] theorem path_entryOf (path : RelPath) (content : Content) :
    (entryOf path content).path = path := by
  cases content <;> rfl

@[simp] theorem content_entryOf (path : RelPath) (content : Content) :
    (entryOf path content).content = content := by
  cases content <;> rfl

/-- The entry for a path of a directory. Source: none: infrastructure. Kind: D -/
def SourceDir.entryAt (src : SourceDir) (path : RelPath) : TarEntry :=
  entryOf path ((src.tree path).getD .dir)

section plain

variable {src src' : SourceDir} {path : RelPath}

theorem SourceDir.tree_of_find {node : Node} (hne : path ≠ [])
    (h : src.listing.find path = some node) : src.tree path = node.content := by
  rw [SourceDir.tree, if_neg hne, h, Option.bind_some]

theorem SourceDir.Plain.no_error (h : src.Plain) (e : IoError) : .error e ∉ src.walkDir := by
  unfold SourceDir.walkDir
  rw [Listing.error_mem_entered, Listing.error_mem_listed, h.missing, h.unlistable]
  rintro (he | ⟨-, he | ⟨-, he⟩⟩)
  · cases he
  · cases he
  · exact h.listing.no_error e he

/-- **Each path of a plain directory is archived under a header of its own.**
Source: `rollout-snapshots/src/tar_build.rs` `build_deterministic_tar`. Kind: L -/
theorem SourceDir.Plain.entryFor_eq (h : src.Plain) (hne : path ≠ [])
    (hfind : ∃ node, src.listing.find path = some node) :
    (∃ content, src.tree path = some content) ∧ entryFor src path = .ok (src.entryAt path) ∧
      (src.entryAt path).Gnu := by
  obtain ⟨node, hfind⟩ := hfind
  have htree := SourceDir.tree_of_find hne hfind
  rcases h.listing.of_find hfind with ⟨attrs, contents, rfl⟩ | ⟨attrs, rfl⟩
  · have hat : src.entryAt path = entryOf path (.file contents.1) := by
      rw [SourceDir.entryAt, htree]
      rfl
    refine ⟨⟨_, htree⟩, ?_, ?_⟩
    · rw [hat, entryFor, SourceDir.metadata, SourceDir.read, hfind]
      rfl
    · rw [hat]
      refine ⟨hne, ?_, by rintro ⟨⟩⟩
      show (BitVec.ofNat 64 contents.1.length).toNat = contents.1.length
      rw [BitVec.toNat_ofNat, Nat.mod_eq_of_lt contents.2]
  · have hat : src.entryAt path = entryOf path .dir := by
      rw [SourceDir.entryAt, htree]
      rfl
    refine ⟨⟨_, htree⟩, ?_, ?_⟩
    · rw [hat, entryFor, SourceDir.metadata, hfind]
      rfl
    · rw [hat]
      exact ⟨hne, rfl, fun _ => rfl⟩

theorem SourceDir.Plain.mem_archivedPaths (h : src.Plain) :
    path ∈ archivedPaths src ↔ path ≠ [] ∧ ∃ content, src.tree path = some content := by
  rw [Snapshots.mem_archivedPaths, and_comm]
  refine and_congr_right fun hne => ⟨fun hmem => ?_, ?_⟩
  · exact (h.entryFor_eq hne (find_of_mem_walkDir hmem hne)).1
  · rintro ⟨content, hcontent⟩
    rw [SourceDir.tree, if_neg hne] at hcontent
    obtain ⟨node, hfind, -⟩ := Option.bind_eq_some_iff.mp hcontent
    exact mem_walkDir_of_find h.no_error hfind

theorem SourceDir.Plain.entry_archived (h : src.Plain) (hmem : path ∈ archivedPaths src) :
    entryFor src path = .ok (src.entryAt path) ∧ (src.entryAt path).Gnu := by
  obtain ⟨hwalk, hne⟩ := Snapshots.mem_archivedPaths.mp hmem
  exact (h.entryFor_eq hne (find_of_mem_walkDir hwalk hne)).2

/-- **The archive depends on the tree only.** Source: `rollout-snapshots/src/tar_build.rs` (its
documentation). Kind: P -/
theorem buildDeterministicTar_congr (tar : TarLib) (h : src.Plain) (h' : src'.Plain)
    (htree : src.tree = src'.tree) :
    buildDeterministicTar tar src = buildDeterministicTar tar src' := by
  have hpaths : archivedPaths src = archivedPaths src' := archivedPaths_eq fun path => by
    rw [h.mem_archivedPaths, h'.mem_archivedPaths, htree]
  have hentries : ∀ path ∈ archivedPaths src', entryFor src path = entryFor src' path := by
    intro path hpath
    rw [(h'.entry_archived hpath).1, (h.entry_archived (hpaths ▸ hpath)).1, SourceDir.entryAt,
      SourceDir.entryAt, htree]
  unfold buildDeterministicTar
  rw [hpaths, appendAll_congr hentries]

/-- What is above a path of the tree is a directory. Source: none: infrastructure. Kind: L -/
theorem SourceDir.tree_above {more : RelPath} {content : Content} (hmore : more ≠ [])
    (h : src.tree (path ++ more) = some content) : src.tree path = some .dir := by
  by_cases hpath : path = []
  · rw [SourceDir.tree, if_pos hpath]
  · rw [SourceDir.tree, if_neg (by simp [hmore])] at h
    obtain ⟨node, hfind, -⟩ := Option.bind_eq_some_iff.mp h
    obtain ⟨faults, attrs, hdir⟩ := Listing.find_above hpath hmore hfind
    rw [SourceDir.tree_of_find hpath hdir]
    rfl

/-- The entries of a plain directory. Source: none: infrastructure. Kind: D -/
def SourceDir.tarEntries (src : SourceDir) : List TarEntry :=
  (archivedPaths src).map src.entryAt

theorem path_entryAt (src : SourceDir) (path : RelPath) : (src.entryAt path).path = path :=
  path_entryOf ..

theorem SourceDir.map_path_tarEntries (src : SourceDir) :
    src.tarEntries.map TarEntry.path = archivedPaths src := by
  unfold SourceDir.tarEntries
  rw [List.map_map]
  exact (List.map_congr_left fun path _ => path_entryAt src path).trans (List.map_id _)

theorem SourceDir.Plain.consistent (h : src.Plain) : Consistent src.tarEntries where
  gnu entry hentry := by
    obtain ⟨path, hpath, rfl⟩ := List.mem_map.mp hentry
    exact (h.entry_archived hpath).2
  distinct := by
    rw [src.map_path_tarEntries]
    exact nodup_archivedPaths src
  above a ha b hb habove hne := by
    obtain ⟨p, hp, rfl⟩ := List.mem_map.mp ha
    obtain ⟨q, hq, rfl⟩ := List.mem_map.mp hb
    rw [path_entryAt, path_entryAt] at habove hne
    obtain ⟨more, rfl⟩ := habove
    obtain ⟨-, content, hcontent⟩ := h.mem_archivedPaths.mp hq
    have hmore : more ≠ [] := fun hnil => hne (by rw [hnil, List.append_nil])
    rw [SourceDir.entryAt, SourceDir.tree_above hmore hcontent]
    rfl

/-- What the entries of a plain directory say is its tree. Source: none: infrastructure. Kind: L -/
theorem SourceDir.Plain.unpacked_eq (h : src.Plain) : unpacked src.tarEntries = src.tree := by
  funext path
  unfold unpacked
  cases hfind : src.tarEntries.find? fun entry => entry.path = path with
  | some entry =>
      have hpath : entry.path = path := by simpa using List.find?_some hfind
      obtain ⟨q, hq, rfl⟩ := List.mem_map.mp (List.mem_of_find?_eq_some hfind)
      rw [path_entryAt] at hpath
      subst hpath
      obtain ⟨-, content, hcontent⟩ := h.mem_archivedPaths.mp hq
      simp only [SourceDir.entryAt, hcontent, Option.getD_some, content_entryOf]
  | none =>
      by_cases hpath : path = []
      · simp only [hpath, true_or, if_true]
        exact (if_pos rfl).symm
      · have hnone : src.tree path = none := by
          rw [Option.eq_none_iff_forall_ne_some]
          intro content hcontent
          have hmem := h.mem_archivedPaths.mpr ⟨hpath, content, hcontent⟩
          have hall := List.find?_eq_none.mp hfind _ (List.mem_map_of_mem hmem)
          rw [path_entryAt] at hall
          simp at hall
        rw [hnone]
        refine if_neg ?_
        rintro (hnil | ⟨entry, hentry, more, hmore⟩)
        · exact hpath hnil
        · obtain ⟨q, hq, rfl⟩ := List.mem_map.mp hentry
          rw [path_entryAt] at hmore
          obtain ⟨-, content, hcontent⟩ := h.mem_archivedPaths.mp hq
          rw [← hmore] at hcontent
          by_cases hnil : more = []
          · rw [hnil, List.append_nil, hnone] at hcontent
            cases hcontent
          · rw [SourceDir.tree_above hnil hcontent] at hnone
            cases hnone

/-- A plain directory is archived. Source: `rollout-snapshots/src/tar_build.rs`
`build_deterministic_tar`. Kind: L -/
theorem SourceDir.Plain.build_eq {tar : TarLib} (htar : tar.Inverse) (h : src.Plain) :
    buildDeterministicTar tar src = .ok (tar.archive src.tarEntries) := by
  have hentries : List.Forall₂ (fun path entry => entryFor src path = .ok entry ∧
      tar.refuses entry = none) (archivedPaths src) src.tarEntries := by
    rw [SourceDir.tarEntries, List.forall₂_map_right_iff, List.forall₂_same]
    exact fun path hpath => ⟨(h.entry_archived hpath).1, htar.accepts _ (h.entry_archived hpath).2⟩
  unfold buildDeterministicTar
  rw [appendAll_eq_ok.mpr ⟨_, rfl, hentries⟩]
  rfl

/-- **Archives are deterministic and faithful**: they depend on the relative paths and the contents
only, parents precede their children, and unpacked into an empty directory they give the same tree.
Source: `rollout-snapshots/src/tar_build.rs` `build_deterministic_tar`, `extract_tar`. Kind: C -/
theorem tar_deterministic_faithful (tar : TarLib) :
    (∀ src src' : SourceDir, src.Plain → src'.Plain → src.tree = src'.tree →
      buildDeterministicTar tar src = buildDeterministicTar tar src') ∧
    ∀ src : SourceDir, src.Plain → tar.Inverse → ∃ entries,
      buildDeterministicTar tar src = .ok (tar.archive entries) ∧
        entries.Pairwise (fun a b => ¬ b.path <+: a.path) ∧
        extractTar tar (tar.archive entries) .empty = .ok src.tree := by
  refine ⟨fun src src' h h' htree => buildDeterministicTar_congr tar h h' htree,
    fun src h htar => ⟨src.tarEntries, h.build_eq htar, ?_, ?_⟩⟩
  · have hfirst := parents_first src
    rw [← src.map_path_tarEntries, List.pairwise_map] at hfirst
    exact hfirst
  · rw [extractTar, htar.unpacks _ h.consistent, h.unpacked_eq]
    rfl

end plain

/-! ## A file in a directory -/

/-- The octal digits of a field of a header. Source: none: the library's documented behaviour.
Kind: D -/
def octalField (digits : List UInt8) : Bytes := digits.map (48 + ·) ++ [0]

/-- The header of an entry `a`: its mode, length, checksum and type.
Source: none: the library's documented behaviour. Kind: D -/
def headerBlock (mode size checksum : List UInt8) (typeflag : UInt8) : Bytes :=
  97 :: List.replicate 99 0 ++ octalField mode ++ octalField (List.replicate 7 0) ++
    octalField (List.replicate 7 0) ++ octalField size ++ octalField (List.replicate 11 0) ++
    octalField checksum ++ [typeflag] ++ List.replicate 100 0 ++
    [117, 115, 116, 97, 114, 32, 32, 0] ++ List.replicate 247 0

/-- The archive of one file `a` that holds a `b`: its header, its block, and the two blocks of zeros
at the end. Source: none: the library's documented behaviour. Kind: D -/
def oneFileTar : Bytes :=
  headerBlock [0, 0, 0, 0, 6, 4, 4] (List.replicate 10 0 ++ [1]) [0, 0, 0, 6, 0, 3, 7] 48 ++
    98 :: List.replicate 511 0 ++ List.replicate 1024 0

theorem name_a_valid : ([97] : Bytes) ≠ [] ∧ ([97] : Bytes) ≠ [46] ∧ ([97] : Bytes) ≠ [46, 46] ∧
    (47 : UInt8) ∉ ([97] : Bytes) ∧ (0 : UInt8) ∉ ([97] : Bytes) := by decide

theorem one_byte_fits (b : UInt8) : [b].length < 2 ^ 64 := Nat.one_lt_two_pow (by decide)

/-- The name of the file. Source: none: infrastructure. Kind: D -/
def nameA : Name := ⟨[97], name_a_valid⟩

/-- A directory with that file. Source: none: infrastructure. Kind: D -/
def oneFile : SourceDir where
  missing := none
  unlistable := none
  listing := .leaf nameA .none (.file ⟨0o600, 1700000000, 1000, 1000⟩ ⟨[98], one_byte_fits 98⟩) .nil
  distinct := ⟨List.not_mem_nil, trivial⟩

theorem plain_oneFile : oneFile.Plain := ⟨rfl, rfl, rfl, ⟨_, _, rfl⟩, trivial⟩

instance : Countable TarEntry := by
  refine Function.Injective.countable (f := fun e : TarEntry =>
    (e.header.size.toNat, e.header.mode.toNat, e.header.mtime.toNat, e.header.uid.toNat,
      e.header.gid.toNat, decide (e.header.entryType = .regular), components e.path,
      e.data.map UInt8.toNat)) ?_
  rintro ⟨⟨size, mode, mtime, uid, gid, entryType⟩, path, data⟩
    ⟨⟨size', mode', mtime', uid', gid', entryType'⟩, path', data'⟩ h
  simp only [Prod.mk.injEq, BitVec.toNat_inj] at h
  obtain ⟨rfl, rfl, rfl, rfl, rfl, htype, hpath, hdata⟩ := h
  obtain rfl := components_inj hpath
  obtain rfl := List.map_injective_iff.mpr (fun x y => UInt8.toNat_inj.mp) hdata
  cases entryType <;> cases entryType' <;> first | rfl | cases htype

/-- A number for each list of entries. Source: none: infrastructure. Kind: D -/
noncomputable def numberOf : List TarEntry → ℕ := Classical.choose (exists_injective_nat _)

/-- Archives that are right for some entries; the others are numbered.
Source: none: infrastructure. Kind: D -/
noncomputable def archiveFor (known : List TarEntry) (real : Bytes) (entries : List TarEntry) :
    Bytes :=
  if entries = known then real else List.replicate (numberOf entries) 0

theorem archiveFor_inj {known : List TarEntry} {real : Bytes} (hreal : 97 ∈ real) :
    Function.Injective (archiveFor known real) := by
  have hnumber : Function.Injective numberOf := Classical.choose_spec (exists_injective_nat _)
  have hne : ∀ n, real ≠ List.replicate n 0 := by
    intro n h
    exact absurd (List.eq_of_mem_replicate (h ▸ hreal)) (by decide)
  intro a b h
  unfold archiveFor at h
  split at h
  · next ha =>
    split at h
    · next hb => rw [ha, hb]
    · exact absurd h (hne _)
  · split at h
    · exact absurd h.symm (hne _)
    · exact hnumber (by simpa using congrArg List.length h)

open Classical in
/-- A tar library that is right for some entries. Source: none: infrastructure. Kind: D -/
noncomputable def libFor (known : List TarEntry) (real : Bytes) : TarLib where
  refuses entry := if entry.path = [] then some "paths in archives must not be empty" else none
  archive := archiveFor known real
  unpack bytes dst :=
    if h : ∃ entries, archiveFor known real entries = bytes then
      .ok (if dst = .empty then unpacked (Classical.choose h) else dst)
    else .error "failed to read entire block"

theorem inverse_libFor {known : List TarEntry} {real : Bytes} (hreal : 97 ∈ real) :
    (libFor known real).Inverse where
  accepts _ h := if_neg h.path
  unpacks entries _ := by
    have h : ∃ entries', archiveFor known real entries' = archiveFor known real entries :=
      ⟨entries, rfl⟩
    unfold libFor
    dsimp only
    rw [dif_pos h, if_pos rfl, archiveFor_inj hreal (Classical.choose_spec h)]

/-- The entry of that file. Source: none: infrastructure. Kind: D -/
def oneEntry : TarEntry := entryOf [nameA] (.file [98])

/-- A tar library that is right for that file. Source: none: infrastructure. Kind: D -/
noncomputable def oneFileLib : TarLib := libFor [oneEntry] oneFileTar

theorem inverse_oneFileLib : oneFileLib.Inverse :=
  inverse_libFor (List.mem_append_left _ (List.mem_append_left _ List.mem_cons_self))

theorem tarEntries_oneFile : oneFile.tarEntries = [oneEntry] := by
  have hpaths : archivedPaths oneFile = [[nameA]] := by
    unfold archivedPaths
    rw [show (oneFile.walkDir.filterMap Except.toOption).filter (fun path => path ≠ []) = [[nameA]] by
      decide, List.mergeSort_singleton]
  unfold SourceDir.tarEntries
  rw [hpaths]
  rfl

theorem build_oneFile : buildDeterministicTar oneFileLib oneFile = .ok oneFileTar := by
  rw [plain_oneFile.build_eq inverse_oneFileLib]
  exact congrArg Except.ok (if_pos tarEntries_oneFile)

theorem oneFile_archived : buildDeterministicTar oneFileLib oneFile = .ok oneFileTar ∧
    extractTar oneFileLib oneFileTar .empty = .ok oneFile.tree := by
  obtain ⟨entries, hbuild, -, hextract⟩ :=
    (tar_deterministic_faithful oneFileLib).2 oneFile plain_oneFile inverse_oneFileLib
  have hbytes : oneFileLib.archive entries = oneFileTar :=
    Except.ok.inj (hbuild.symm.trans build_oneFile)
  rw [hbytes] at hextract
  exact ⟨build_oneFile, hextract⟩

end Rollout.Snapshots
