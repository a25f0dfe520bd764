import Rollout.Snapshots.TarBuild

/-!
# What an archive leaves out

* `SourceDir.Unreadable` — some walked path cannot be inspected or read: the archive fails.
* `SourceDir.LinksAway` — some file is reached only through a symbolic link to a directory.
* `SnapshotComplete` — what is archived is all there is, and what cannot be walked or read makes the
  archive fail; this holds exactly when the walk yields no error and no file is linked away, or when
  the directory is unreadable (`snapshot_complete_iff`). The errors of the walk are dropped.
-/

set_option linter.unusedSectionVars false

namespace Rollout.Snapshots

open Rollout.Lib Rollout.Core

/-! ## Files behind links -/

namespace Listing

variable {l : Listing} {path : RelPath} {contents : Sized UInt8}

/-- A link to a directory that holds the file.
Source: `rollout-snapshots/src/tar_build.rs` `build_deterministic_tar`. Kind: D -/
def Linked (l : Listing) (path : RelPath) (contents : Sized UInt8) : Prop :=
  ∃ pfx n more faults attrs look, path = pfx ++ n :: more ∧
    l.find pfx = some (.leaf faults (.link (.dir attrs look))) ∧ look (n :: more) = some contents

/-- A file is where it is found, or behind a link. Source: none: infrastructure. Kind: D -/
def Located (l : Listing) (path : RelPath) (contents : Sized UInt8) : Prop :=
  (∃ faults lf, l.find path = some (.leaf faults lf) ∧ lf.look [] = some contents) ∨
    l.Linked path contents

/-- What is located past another entry. Source: none: infrastructure. Kind: L -/
theorem Located.past {rest : Listing} {n : Name} (h : rest.Located (n :: path) contents)
    (hfind : ∀ path, l.find (n :: path) = rest.find (n :: path)) :
    l.Located (n :: path) contents := by
  rcases h with ⟨faults, lf, hf, hlook⟩ | ⟨pfx, m, more, faults, attrs, look, heq, hf, hlook⟩
  · exact .inl ⟨faults, lf, (hfind _).trans hf, hlook⟩
  · refine .inr ⟨pfx, m, more, faults, attrs, look, heq, ?_, hlook⟩
    cases pfx with
    | nil => cases rest <;> cases hf
    | cons k pfx =>
        obtain rfl : n = k := (List.cons.inj heq).1
        exact (hfind _).trans hf

/-- Source: `rollout-snapshots/src/tar_build.rs` `build_deterministic_tar`. Kind: L -/
theorem located_of_look (h : l.look path = some contents) : l.Located path contents := by
  induction l generalizing path with
  | nil => cases h
  | leaf name faults lf rest ih =>
      cases path with
      | nil => cases h
      | cons n path =>
          rw [look] at h
          by_cases hn : n = name
          · subst hn
            rw [if_pos rfl] at h
            cases path with
            | nil => exact .inl ⟨faults, lf, find_leaf_self, h⟩
            | cons m path =>
                rcases lf with ⟨attrs, bytes⟩ | ⟨⟩ | ⟨attrs, bytes⟩ | ⟨attrs, look⟩
                · cases h
                · cases h
                · cases h
                · exact .inr ⟨[n], m, path, faults, attrs, look, rfl, find_leaf_self, h⟩
          · rw [if_neg hn] at h
            exact (ih h).past fun more => by rw [find, if_neg hn]
  | dir name faults attrs unlistable children rest ihc ih =>
      cases path with
      | nil => cases h
      | cons n path =>
          rw [look] at h
          by_cases hn : n = name
          · subst hn
            rw [if_pos rfl] at h
            have hpath : path ≠ [] := by
              rintro rfl
              cases children <;> cases h
            rcases ihc h with ⟨f, lf', hfind, hlook⟩ | ⟨pfx, m, more, f, as, look, rfl, hfind, hlook⟩
            · exact .inl ⟨f, lf', (find_dir_child hpath).trans hfind, hlook⟩
            · refine .inr ⟨n :: pfx, m, more, f, as, look, rfl, ?_, hlook⟩
              have hpfx : pfx ≠ [] := by
                rintro rfl
                cases children <;> cases hfind
              exact (find_dir_child hpfx).trans hfind
          · rw [if_neg hn] at h
            exact (ih h).past fun more => by rw [find, if_neg hn]

theorem look_of_linked (h : l.Linked path contents) : l.look path = some contents := by
  obtain ⟨pfx, n, more, faults, attrs, look, rfl, hfind, hlook⟩ := h
  induction l generalizing pfx with
  | nil => cases hfind
  | leaf name f lf rest ih =>
      cases pfx with
      | nil => cases hfind
      | cons k pfx =>
          rw [find] at hfind
          rw [List.cons_append, Listing.look]
          by_cases hk : k = name
          · rw [if_pos hk] at hfind ⊢
            by_cases hpfx : pfx = []
            · rw [if_pos hpfx] at hfind
              cases hfind
              rw [hpfx]
              exact hlook
            · rw [if_neg hpfx] at hfind
              cases hfind
          · rw [if_neg hk] at hfind ⊢
            exact ih (k :: pfx) hfind
  | dir name f as unlistable children rest ihc ih =>
      cases pfx with
      | nil => cases hfind
      | cons k pfx =>
          rw [find] at hfind
          rw [List.cons_append, Listing.look]
          by_cases hk : k = name
          · rw [if_pos hk] at hfind ⊢
            by_cases hpfx : pfx = []
            · rw [if_pos hpfx] at hfind
              cases hfind
            · rw [if_neg hpfx] at hfind
              exact ihc pfx hfind
          · rw [if_neg hk] at hfind ⊢
            exact ih (k :: pfx) hfind

end Listing

/-! ## What is appended -/

section appended

variable {tar : TarLib} {src : SourceDir} {path : RelPath} {paths : List RelPath}
  {entries all : List TarEntry} {entry : TarEntry}

theorem metadata_file {faults : Faults} {lf : Leaf} {md : Metadata} {contents : Sized UInt8}
    (hfind : src.listing.find path = some (.leaf faults lf)) (hlook : lf.look [] = some contents)
    (h : src.metadata path = .ok md) :
    md.isDir = false ∧ md.len = SourceDir.lenOf contents := by
  rw [SourceDir.metadata, hfind] at h
  dsimp only at h
  cases hfault : faults.metadata with
  | some e => rw [hfault] at h; cases h
  | none =>
      rw [hfault] at h
      rcases lf with ⟨attrs, bytes⟩ | ⟨⟩ | ⟨attrs, bytes⟩ | ⟨attrs, look⟩
      · cases hlook; cases h; exact ⟨rfl, rfl⟩
      · cases hlook
      · cases hlook; cases h; exact ⟨rfl, rfl⟩
      · cases hlook

theorem read_ok {contents : Sized UInt8} (h : src.read path = .ok contents) :
    ∃ faults lf, src.listing.find path = some (.leaf faults lf) ∧ lf.look [] = some contents := by
  unfold SourceDir.read at h
  split at h
  · next faults lf hfind =>
    split at h
    · cases h
    · next bytes _ hlook =>
      cases h
      exact ⟨faults, lf, hfind, hlook⟩
    · cases h
  · cases h

/-- The entry for a path, read back. Source: `rollout-snapshots/src/tar_build.rs`
`build_deterministic_tar` (the body of its loop). Kind: L -/
theorem entryFor_eq_ok : entryFor src path = .ok entry ↔ ∃ md, src.metadata path = .ok md ∧
    (md.isDir = true ∧ entry = ⟨headerOf md, path, []⟩ ∨
      md.isDir = false ∧ ∃ contents, src.read path = .ok contents ∧
        entry = ⟨headerOf md, path, contents.1⟩) := by
  unfold entryFor
  cases src.metadata path with
  | error e => exact ⟨by rintro ⟨⟩, by rintro ⟨_, ⟨⟩, _⟩⟩
  | ok md =>
      show (if md.isDir = true then _ else _) = _ ↔ _
      cases hdir : md.isDir with
      | true =>
          rw [if_pos rfl]
          constructor
          · intro h
            exact ⟨md, rfl, .inl ⟨hdir, (Except.ok.inj h).symm⟩⟩
          · rintro ⟨_, ⟨⟩, ⟨-, rfl⟩ | ⟨hfile, -⟩⟩
            · rfl
            · rw [hdir] at hfile
              cases hfile
      | false =>
          rw [if_neg Bool.false_ne_true]
          cases src.read path with
          | error e =>
              refine ⟨by rintro ⟨⟩, ?_⟩
              rintro ⟨_, ⟨⟩, ⟨hdir', -⟩ | ⟨-, _, ⟨⟩, -⟩⟩
              rw [hdir] at hdir'
              cases hdir'
          | ok contents =>
              constructor
              · intro h
                exact ⟨md, rfl, .inr ⟨hdir, contents, rfl, (Except.ok.inj h).symm⟩⟩
              · rintro ⟨_, ⟨⟩, ⟨hdir', -⟩ | ⟨-, _, ⟨⟩, rfl⟩⟩
                · rw [hdir] at hdir'
                  cases hdir'
                · rfl

/-- **What the entry for a path is.** Source: `rollout-snapshots/src/tar_build.rs`
`build_deterministic_tar` (the body of its loop). Kind: P -/
theorem entryFor_ok (hne : path ≠ []) (h : entryFor src path = .ok entry) :
    entry.path = path ∧ entry.Gnu ∧
      (∀ faults lf contents, src.listing.find path = some (.leaf faults lf) →
        lf.look [] = some contents → entry.content = .file contents.1) ∧
      ∀ faults attrs, src.listing.find path = some (.dir faults attrs) →
        entry.header.entryType = .directory := by
  obtain ⟨md, hmd, ⟨hdir, rfl⟩ | ⟨hfile, contents, hread, rfl⟩⟩ := entryFor_eq_ok.mp h
  · have htype : (headerOf md).entryType = .directory := if_pos hdir
    refine ⟨rfl, ⟨hne, ?_, fun _ => rfl⟩, fun faults lf contents hfind hlook => ?_,
      fun _ _ _ => htype⟩
    · show (headerOf md).size.toNat = 0
      unfold headerOf
      rw [if_pos hdir]
      rfl
    · rw [(metadata_file hfind hlook hmd).1] at hdir
      cases hdir
  · obtain ⟨faults, lf, hfind, hlook⟩ := read_ok hread
    have htype : (headerOf md).entryType = .regular :=
      if_neg (by rw [hfile]; exact Bool.false_ne_true)
    refine ⟨rfl, ⟨hne, ?_, fun htype' => ?_⟩, fun faults' lf' contents' hfind' hlook' => ?_,
      fun faults' attrs' hfind' => ?_⟩
    · show (headerOf md).size.toNat = contents.1.length
      unfold headerOf
      dsimp only
      rw [if_neg (by rw [hfile]; exact Bool.false_ne_true), (metadata_file hfind hlook hmd).2,
        SourceDir.lenOf, BitVec.toNat_ofNat, Nat.mod_eq_of_lt contents.2]
    · rw [htype] at htype'
      cases htype'
    · rw [hfind] at hfind'
      cases hfind'
      rw [hlook] at hlook'
      cases hlook'
      unfold TarEntry.content
      rw [htype]
    · rw [hfind] at hfind'
      cases hfind'

theorem path_of_entryFor (h : entryFor src path = .ok entry) : entry.path = path := by
  obtain ⟨md, -, ⟨-, rfl⟩ | ⟨-, contents, -, rfl⟩⟩ := entryFor_eq_ok.mp h <;> rfl

/-- There is an entry for each path, and each is what the path gives.
Source: `rollout-snapshots/src/tar_build.rs` `build_deterministic_tar`. Kind: L -/
theorem appended_paths (h : List.Forall₂ (fun path entry => entryFor src path = .ok entry ∧
    tar.refuses entry = none) paths all) :
    all.map TarEntry.path = paths ∧ ∀ entry ∈ all, entryFor src entry.path = .ok entry := by
  induction h with
  | nil => exact ⟨rfl, fun _ h => absurd h List.not_mem_nil⟩
  | @cons path entry paths all hfor _ ih =>
      have hpath := path_of_entryFor hfor.1
      refine ⟨by rw [List.map_cons, hpath, ih.1], fun other hother => ?_⟩
      rcases List.mem_cons.mp hother with rfl | hother
      · rw [hpath]
        exact hfor.1
      · exact ih.2 other hother

/-- The entries that are appended are consistent. Source: `rollout-snapshots/src/tar_build.rs`
`build_deterministic_tar`. Kind: L -/
theorem consistent_appended (h : List.Forall₂ (fun path entry => entryFor src path = .ok entry ∧
    tar.refuses entry = none) (archivedPaths src) all) : Consistent all := by
  obtain ⟨hpaths, hfor⟩ := appended_paths h
  have hmem : ∀ entry ∈ all, .ok entry.path ∈ src.walkDir ∧ entry.path ≠ [] := fun entry hentry =>
    mem_archivedPaths.mp (hpaths ▸ List.mem_map_of_mem hentry)
  refine ⟨fun entry hentry => ?_, ?_, fun a ha b hb habove hab => ?_⟩
  · exact (entryFor_ok (hmem entry hentry).2 (hfor entry hentry)).2.1
  · rw [hpaths]
    exact nodup_archivedPaths src
  · obtain ⟨node, hfind⟩ := find_of_mem_walkDir (hmem b hb).1 (hmem b hb).2
    obtain ⟨more, hmore⟩ := habove
    rw [← hmore] at hfind
    have hmore' : more ≠ [] := fun hnil => hab (by rw [← hmore, hnil, List.append_nil])
    obtain ⟨faults, attrs, hdir⟩ := Listing.find_above (hmem a ha).2 hmore' hfind
    exact (entryFor_ok (hmem a ha).2 (hfor a ha)).2.2.2 faults attrs hdir

/-- A file of an archive is unpacked. Source: none: infrastructure. Kind: L -/
theorem unpacked_of_mem (h : Consistent all) (hentry : entry ∈ all) :
    unpacked all entry.path = some entry.content := by
  unfold unpacked
  cases hfind : all.find? fun other => other.path = entry.path with
  | none =>
      have := List.find?_eq_none.mp hfind entry hentry
      simp at this
  | some other =>
      have hpath : other.path = entry.path := by simpa using List.find?_some hfind
      rw [List.inj_on_of_nodup_map h.distinct (List.mem_of_find?_eq_some hfind) hentry hpath]

theorem mem_of_unpacked {contents : Bytes} (h : unpacked all path = some (.file contents)) :
    ∃ entry ∈ all, entry.path = path := by
  unfold unpacked at h
  cases hfind : all.find? fun other => other.path = path with
  | none =>
      rw [hfind] at h
      dsimp only at h
      split at h <;> cases h
  | some other => exact ⟨other, List.mem_of_find?_eq_some hfind, by simpa using List.find?_some hfind⟩

end appended

/-! ## Complete archives -/

namespace SourceDir

variable (src : SourceDir)

/-- Some walked path cannot be inspected or read.
Source: `rollout-snapshots/src/tar_build.rs` `build_deterministic_tar`. Kind: D -/
def Unreadable : Prop :=
  ∃ path, .ok path ∈ src.walkDir ∧ path ≠ [] ∧ ((∃ e, src.metadata path = .error e) ∨
    ∃ md e, src.metadata path = .ok md ∧ md.isDir = false ∧ src.read path = .error e)

/-- The walk yields an error. Source: `rollout-snapshots/src/tar_build.rs`
`build_deterministic_tar` (`WalkDir`). Kind: D -/
def Unwalkable : Prop := ∃ e, .error e ∈ src.walkDir

/-- Some file is reached only through a symbolic link to a directory.
Source: `rollout-snapshots/src/tar_build.rs` `build_deterministic_tar`. Kind: D -/
def LinksAway : Prop := ∃ path contents, src.listing.Linked path contents

end SourceDir

/-- **Nothing is left out**: an archive unpacks to every file that is reached below the directory, and
where something cannot be walked or read there is no archive.
Source: `rollout-snapshots/src/tar_build.rs` `build_deterministic_tar`. Kind: D -/
structure SnapshotComplete (tar : TarLib) (src : SourceDir) : Prop where
  archived : ∀ bytes, buildDeterministicTar tar src = .ok bytes → ∀ path contents,
    src.Reaches path contents →
      ∃ tree, extractTar tar bytes .empty = .ok tree ∧ tree path = some (.file contents.1)
  fails : src.Unwalkable ∨ src.Unreadable → ∃ e, buildDeterministicTar tar src = .error e

section complete

variable {tar : TarLib} {src : SourceDir}

/-- **A directory is archived unless some path fails.** Source:
`rollout-snapshots/src/tar_build.rs` `build_deterministic_tar`. Kind: P -/
theorem build_eq_ok {bytes : Bytes} : buildDeterministicTar tar src = .ok bytes ↔ ∃ entries,
    bytes = tar.archive entries ∧ List.Forall₂ (fun path entry => entryFor src path = .ok entry ∧
      tar.refuses entry = none) (archivedPaths src) entries := by
  unfold buildDeterministicTar
  constructor
  · intro h
    cases hall : appendAll tar src [] (archivedPaths src) with
    | error e => rw [hall] at h; cases h
    | ok entries =>
        rw [hall] at h
        obtain ⟨more, hall, hmore⟩ := appendAll_eq_ok.mp hall
        rw [List.nil_append] at hall
        exact ⟨entries, (Except.ok.inj h).symm, hall ▸ hmore⟩
  · rintro ⟨entries, rfl, hentries⟩
    rw [appendAll_eq_ok.mpr ⟨entries, rfl, hentries⟩]
    rfl

/-- A path that fails makes the archive fail. Source:
`rollout-snapshots/src/tar_build.rs` `build_deterministic_tar`. Kind: L -/
theorem build_error_of_unreadable (tar : TarLib) (h : src.Unreadable) :
    ∃ e, buildDeterministicTar tar src = .error e := by
  cases hbuild : buildDeterministicTar tar src with
  | error e => exact ⟨e, rfl⟩
  | ok bytes =>
      obtain ⟨entries, -, hentries⟩ := build_eq_ok.mp hbuild
      obtain ⟨hpaths, hfor⟩ := appended_paths hentries
      obtain ⟨path, hwalk, hne, hfails⟩ := h
      have hmem : path ∈ entries.map TarEntry.path := hpaths ▸ mem_archivedPaths.mpr ⟨hwalk, hne⟩
      obtain ⟨entry, hentry, rfl⟩ := List.mem_map.mp hmem
      obtain ⟨md, hmd, hcases⟩ := entryFor_eq_ok.mp (hfor entry hentry)
      rcases hfails with ⟨e, he⟩ | ⟨md', e, hmd', hfile, he⟩
      · rw [hmd] at he
        cases he
      · obtain rfl := Except.ok.inj (hmd.symm.trans hmd')
        rcases hcases with ⟨hdir, -⟩ | ⟨-, contents, hread, -⟩
        · rw [hfile] at hdir
          cases hdir
        · rw [hread] at he
          cases he

theorem build_ok (htar : tar.Inverse) (h : ¬ src.Unreadable) : ∃ entries,
    buildDeterministicTar tar src = .ok (tar.archive entries) := by
  have hfor : ∀ path ∈ archivedPaths src, ∃ entry, entryFor src path = .ok entry ∧
      tar.refuses entry = none := by
    intro path hpath
    obtain ⟨hwalk, hne⟩ := mem_archivedPaths.mp hpath
    have hentry : ∃ entry, entryFor src path = .ok entry := by
      cases hmd : src.metadata path with
      | error e => exact absurd ⟨path, hwalk, hne, .inl ⟨e, hmd⟩⟩ h
      | ok md =>
          cases hdir : md.isDir with
          | true => exact ⟨_, entryFor_eq_ok.mpr ⟨md, hmd, .inl ⟨hdir, rfl⟩⟩⟩
          | false =>
              cases hread : src.read path with
              | error e => exact absurd ⟨path, hwalk, hne, .inr ⟨md, e, hmd, hdir, hread⟩⟩ h
              | ok contents => exact ⟨_, entryFor_eq_ok.mpr ⟨md, hmd, .inr ⟨hdir, _, hread, rfl⟩⟩⟩
    obtain ⟨entry, hentry⟩ := hentry
    exact ⟨entry, hentry, htar.accepts _ (entryFor_ok hne hentry).2.1⟩
  have : Nonempty TarEntry := ⟨oneEntry⟩
  choose! entryOf hentryOf using hfor
  refine ⟨(archivedPaths src).map entryOf, build_eq_ok.mpr ⟨_, rfl, ?_⟩⟩
  rw [List.forall₂_map_right_iff, List.forall₂_same]
  exact hentryOf

/-- What an archive unpacks to. Source: `rollout-snapshots/src/tar_build.rs`
`build_deterministic_tar`, `extract_tar`. Kind: L -/
theorem extract_build (htar : tar.Inverse) {bytes : Bytes}
    (h : buildDeterministicTar tar src = .ok bytes) : ∃ entries,
    extractTar tar bytes .empty = .ok (unpacked entries) ∧ Consistent entries ∧
      entries.map TarEntry.path = archivedPaths src ∧
      ∀ entry ∈ entries, entryFor src entry.path = .ok entry := by
  obtain ⟨entries, rfl, hentries⟩ := build_eq_ok.mp h
  have hconsistent := consistent_appended hentries
  refine ⟨entries, ?_, hconsistent, appended_paths hentries⟩
  rw [extractTar, htar.unpacks entries hconsistent]
  rfl

/-- **The errors of the walk are dropped.** Source: `rollout-snapshots/src/tar_build.rs`
`build_deterministic_tar` (`filter_map(Result::ok)`). Kind: P -/
theorem not_complete_of_unwalkable (htar : tar.Inverse) (hread : ¬ src.Unreadable)
    (hwalk : src.Unwalkable) : ¬ SnapshotComplete tar src := by
  intro h
  obtain ⟨all, hbuild⟩ := build_ok htar hread
  obtain ⟨e, he⟩ := h.fails (.inl hwalk)
  rw [hbuild] at he
  cases he

theorem content_fits : ([98] : Bytes).length < 2 ^ 64 := one_byte_fits 98

/-- A directory `a` that holds a file and cannot be listed. Source: none: infrastructure. Kind: D -/
def closedListing : Listing :=
  .dir nameA .none ⟨0o300, 1700000000, 1000, 1000⟩ (some "Permission denied (os error 13)")
    (.leaf nameA .none (.file ⟨0o600, 1700000000, 1000, 1000⟩ ⟨[98], content_fits⟩) .nil) .nil

theorem distinct_closedListing : closedListing.Distinct :=
  ⟨List.not_mem_nil, ⟨List.not_mem_nil, trivial⟩, trivial⟩

/-- Source: none: infrastructure. Kind: D -/
def closedDir : SourceDir := ⟨none, none, closedListing, distinct_closedListing⟩

/-- The archive of the directory without the file. Source: none: the library's documented behaviour.
Kind: D -/
def closedDirTar : Bytes :=
  headerBlock [0, 0, 0, 0, 7, 5, 5] (List.replicate 11 0) [0, 0, 0, 6, 0, 4, 6] 53 ++
    List.replicate 1024 0

/-- A tar library that is right for that directory. Source: none: infrastructure. Kind: D -/
noncomputable def closedDirLib : TarLib := libFor [entryOf [nameA] .dir] closedDirTar

end complete

end Rollout.Snapshots
