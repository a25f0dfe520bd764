import Mathlib.Data.List.Nodup
import Rollout.Lib.Wire

/-!
# A directory, as it is walked and read

* `Listing` — what a directory holds, in the order in which it is enumerated: files, symbolic links
  and directories, with the owners, modes and times that `metadata` shows and the faults that a
  walk, a `metadata` call or a read runs into.
* `SourceDir.walkDir` — the walk, which does not follow links; `metadata` and `read` follow them.
* `SourceDir.Reaches` — the files below a directory, links followed.
-/

set_option linter.unusedSectionVars false

namespace Rollout.Snapshots

open Rollout.Lib

/-- The text of an I/O error. Source: `rollout-snapshots/src/tar_build.rs` (`std::io::Error`).
Kind: D -/
abbrev IoError := String

/-- The name of a directory entry: neither empty nor `.` nor `..`, without a slash or a zero byte.
Source: `rollout-snapshots/src/tar_build.rs` (`Path::strip_prefix`). Kind: D -/
structure Name where
  /-- Its bytes. -/
  bytes : Bytes
  valid : bytes ≠ [] ∧ bytes ≠ [46] ∧ bytes ≠ [46, 46] ∧ 47 ∉ bytes ∧ 0 ∉ bytes
deriving DecidableEq

/-- A path below the directory. Source: `rollout-snapshots/src/tar_build.rs` (`rel`). Kind: D -/
abbrev RelPath := List Name

/-- What `metadata` shows besides the type and the length.
Source: `rollout-snapshots/src/tar_build.rs` (its module documentation). Kind: D -/
structure Attrs where
  /-- The mode bits. -/
  mode : BitVec 32
  /-- The modification time. -/
  mtime : Int
  /-- The owner. -/
  uid : BitVec 32
  /-- The group. -/
  gid : BitVec 32
deriving DecidableEq

/-- What goes wrong with an entry: in the walk, in `metadata`, in opening or reading it.
Source: `rollout-snapshots/src/tar_build.rs` `build_deterministic_tar`. Kind: D -/
structure Faults where
  /-- The walk cannot tell what it is. -/
  walk : Option IoError
  /-- It cannot be inspected, or is gone. -/
  metadata : Option IoError
  /-- It cannot be opened or read. -/
  read : Option IoError
deriving DecidableEq

/-- Nothing goes wrong. Source: none: infrastructure. Kind: D -/
def Faults.none : Faults := ⟨.none, .none, .none⟩

/-- What a symbolic link leads to; a directory by what can be read through it.
Source: `rollout-snapshots/src/tar_build.rs` (`std::fs::metadata`). Kind: D -/
inductive Target
  | broken
  | file (attrs : Attrs) (contents : Sized UInt8)
  | dir (attrs : Attrs) (look : RelPath → Option (Sized UInt8))

/-- An entry that is no directory.
Source: `rollout-snapshots/src/tar_build.rs` `build_deterministic_tar` (`WalkDir`). Kind: D -/
inductive Leaf
  | file (attrs : Attrs) (contents : Sized UInt8)
  | link (target : Target)

/-- What a directory holds, in the order of its enumeration.
Source: `rollout-snapshots/src/tar_build.rs` `build_deterministic_tar` (`WalkDir`). Kind: D -/
inductive Listing
  | nil
  | leaf (name : Name) (faults : Faults) (leaf : Leaf) (rest : Listing)
  | dir (name : Name) (faults : Faults) (attrs : Attrs) (unlistable : Option IoError)
      (children rest : Listing)

/-- What a path leads to, links not followed. Source: none: infrastructure. Kind: D -/
inductive Node
  | leaf (faults : Faults) (leaf : Leaf)
  | dir (faults : Faults) (attrs : Attrs)

/-- The file a link or a file is read as, and the files that are reached through it.
Source: `rollout-snapshots/src/tar_build.rs` `build_deterministic_tar`. Kind: D -/
def Leaf.look : Leaf → RelPath → Option (Sized UInt8)
  | .file _ contents, [] => some contents
  | .link (.file _ contents), [] => some contents
  | .link (.dir _ look), n :: path => look (n :: path)
  | _, _ => none

namespace Listing

/-- The names. Source: none: infrastructure. Kind: D -/
def names : Listing → List Name
  | nil => []
  | leaf name _ _ rest => name :: rest.names
  | dir name _ _ _ _ rest => name :: rest.names

/-- No name occurs twice in a directory. Source: none: infrastructure. Kind: D -/
def Distinct : Listing → Prop
  | nil => True
  | leaf name _ _ rest => name ∉ rest.names ∧ rest.Distinct
  | dir name _ _ _ children rest => name ∉ rest.names ∧ children.Distinct ∧ rest.Distinct

/-- What is found at a path, links not followed. Source: none: infrastructure. Kind: D -/
def find : Listing → RelPath → Option Node
  | nil, _ => none
  | _, [] => none
  | leaf name faults lf rest, n :: path =>
      if n = name then (if path = [] then some (.leaf faults lf) else none)
      else rest.find (n :: path)
  | dir name faults attrs _ children rest, n :: path =>
      if n = name then (if path = [] then some (.dir faults attrs) else children.find path)
      else rest.find (n :: path)

/-- What listing a directory yields. Source: `rollout-snapshots/src/tar_build.rs`
`build_deterministic_tar` (`WalkDir`). Kind: D -/
def listed (unlistable : Option IoError) (entries : List (Except IoError RelPath)) :
    List (Except IoError RelPath) :=
  match unlistable with
  | some e => [.error e]
  | none => entries

/-- What an entry and what is below it yield. Source: `rollout-snapshots/src/tar_build.rs`
`build_deterministic_tar` (`WalkDir`). Kind: D -/
def entered (faults : Faults) (path : RelPath) (below : List (Except IoError RelPath)) :
    List (Except IoError RelPath) :=
  match faults.walk with
  | some e => [.error e]
  | none => .ok path :: below

/-- **The walk**: every entry, and after a directory what it holds. An entry whose type is not known
and a directory that cannot be listed each yield an error.
Source: `rollout-snapshots/src/tar_build.rs` `build_deterministic_tar` (`WalkDir`). Kind: D -/
def walk : Listing → List (Except IoError RelPath)
  | nil => []
  | leaf name faults _ rest => entered faults [name] [] ++ rest.walk
  | dir name faults _ unlistable children rest =>
      entered faults [name]
        (listed unlistable (children.walk.map (Except.map (name :: ·)))) ++ rest.walk

/-- The file at a path, links followed.
Source: `rollout-snapshots/src/tar_build.rs` `build_deterministic_tar`. Kind: D -/
def look : Listing → RelPath → Option (Sized UInt8)
  | nil, _ => none
  | _, [] => none
  | leaf name _ lf rest, n :: path =>
      if n = name then lf.look path else rest.look (n :: path)
  | dir name _ _ _ children rest, n :: path =>
      if n = name then children.look path else rest.look (n :: path)

/-- Neither links nor faults. Source: none: infrastructure. Kind: D -/
def Plain : Listing → Prop
  | nil => True
  | leaf _ faults lf rest =>
      faults = .none ∧ (∃ attrs contents, lf = .file attrs contents) ∧ rest.Plain
  | dir _ faults _ unlistable children rest =>
      faults = .none ∧ unlistable = none ∧ children.Plain ∧ rest.Plain

end Listing

/-- A directory that is archived. Source: `rollout-snapshots/src/tar_build.rs`
`build_deterministic_tar` (`src_dir`). Kind: D -/
structure SourceDir where
  /-- It cannot be inspected, or is not there. -/
  missing : Option IoError
  /-- It cannot be listed. -/
  unlistable : Option IoError
  /-- What it holds. -/
  listing : Listing
  distinct : listing.Distinct

/-- Source: `rollout-snapshots/src/tar_build.rs` `build_deterministic_tar` (`meta`). Kind: D -/
structure Metadata where
  /-- Whether it is a directory. -/
  isDir : Bool
  /-- The length of a file. -/
  len : BitVec 64
  /-- The rest. -/
  attrs : Attrs
deriving DecidableEq

namespace SourceDir

variable (src : SourceDir)

/-- The walk from the directory on. Source: `rollout-snapshots/src/tar_build.rs`
`build_deterministic_tar` (`WalkDir::new`). Kind: D -/
def walkDir : List (Except IoError RelPath) :=
  Listing.entered ⟨src.missing, none, none⟩ [] (Listing.listed src.unlistable src.listing.walk)

/-- The text of an error for a path that leads nowhere.
Source: `rollout-snapshots/src/tar_build.rs` (`std::io::ErrorKind::NotFound`). Kind: D -/
def notFound : IoError := "No such file or directory (os error 2)"

/-- The length of a file. Source: `rollout-snapshots/src/tar_build.rs` (`meta.len`). Kind: D -/
def lenOf (contents : Sized UInt8) : BitVec 64 := BitVec.ofNat 64 contents.1.length

/-- Source: `rollout-snapshots/src/tar_build.rs` `build_deterministic_tar` (`std::fs::metadata`).
Kind: D -/
def metadata (path : RelPath) : Except IoError Metadata :=
  match src.listing.find path with
  | none => .error notFound
  | some (.leaf faults lf) =>
      match faults.metadata, lf with
      | some e, _ => .error e
      | none, .file attrs contents => .ok ⟨false, lenOf contents, attrs⟩
      | none, .link .broken => .error notFound
      | none, .link (.file attrs contents) => .ok ⟨false, lenOf contents, attrs⟩
      | none, .link (.dir attrs _) => .ok ⟨true, 0, attrs⟩
  | some (.dir faults attrs) =>
      match faults.metadata with
      | some e => .error e
      | none => .ok ⟨true, 0, attrs⟩

/-- Source: `rollout-snapshots/src/tar_build.rs` `build_deterministic_tar` (`File::open`,
`read_to_end`). Kind: D -/
def read (path : RelPath) : Except IoError (Sized UInt8) :=
  match src.listing.find path with
  | some (.leaf faults lf) =>
      match faults.read, lf.look [] with
      | some e, _ => .error e
      | none, some contents => .ok contents
      | none, none => .error notFound
  | _ => .error notFound

/-- The file is below the directory, links followed.
Source: `rollout-snapshots/src/tar_build.rs` `build_deterministic_tar`. Kind: D -/
def Reaches (path : RelPath) (contents : Sized UInt8) : Prop :=
  src.listing.look path = some contents

/-- Only regular files and directories, all of which can be listed and read.
Source: none: infrastructure. Kind: D -/
structure Plain : Prop where
  missing : src.missing = none
  unlistable : src.unlistable = none
  listing : src.listing.Plain

end SourceDir

/-! ## What the walk yields -/

namespace Listing

variable {name : Name} {faults : Faults} {attrs : Attrs} {lf : Leaf} {unlistable : Option IoError}
  {l children rest : Listing} {path : RelPath} {node : Node} {e : IoError}

theorem ok_mem_entered {below : List (Except IoError RelPath)} {path' : RelPath} :
    .ok path' ∈ entered faults path below ↔
      faults.walk = none ∧ (path' = path ∨ .ok path' ∈ below) := by
  unfold entered
  cases faults.walk <;> simp

theorem error_mem_entered {below : List (Except IoError RelPath)} :
    .error e ∈ entered faults path below ↔
      faults.walk = some e ∨ faults.walk = none ∧ .error e ∈ below := by
  unfold entered
  cases faults.walk <;> simp [eq_comm]

theorem ok_mem_listed {entries : List (Except IoError RelPath)} :
    .ok path ∈ listed unlistable entries ↔ unlistable = none ∧ .ok path ∈ entries := by
  cases unlistable <;> simp [listed]

theorem error_mem_listed {entries : List (Except IoError RelPath)} :
    .error e ∈ listed unlistable entries ↔
      unlistable = some e ∨ unlistable = none ∧ .error e ∈ entries := by
  cases unlistable <;> simp [listed, eq_comm]

theorem ok_mem_map {entries : List (Except IoError RelPath)} :
    .ok path ∈ entries.map (Except.map (name :: ·)) ↔
      ∃ path', .ok path' ∈ entries ∧ path = name :: path' := by
  rw [List.mem_map]
  constructor
  · rintro ⟨r, hr, hmap⟩
    cases r with
    | error e => cases hmap
    | ok path' => exact ⟨path', hr, (Except.ok.inj hmap).symm⟩
  · rintro ⟨path', hr, rfl⟩
    exact ⟨.ok path', hr, rfl⟩

theorem error_mem_map {entries : List (Except IoError RelPath)} :
    .error e ∈ entries.map (Except.map (name :: ·)) ↔ .error e ∈ entries := by
  rw [List.mem_map]
  constructor
  · rintro ⟨r, hr, hmap⟩
    cases r with
    | error e' =>
        cases hmap
        exact hr
    | ok path' => cases hmap
  · exact fun hr => ⟨.error e, hr, rfl⟩

theorem ok_mem_walk_leaf : .ok path ∈ (leaf name faults lf rest).walk ↔
    faults.walk = none ∧ path = [name] ∨ .ok path ∈ rest.walk := by
  rw [walk, List.mem_append, ok_mem_entered, or_iff_left List.not_mem_nil]

theorem error_mem_walk_leaf : .error e ∈ (leaf name faults lf rest).walk ↔
    faults.walk = some e ∨ .error e ∈ rest.walk := by
  rw [walk, List.mem_append, error_mem_entered]
  exact or_congr_left (or_iff_left fun h => List.not_mem_nil h.2)

theorem ok_mem_walk_dir :
    .ok path ∈ (dir name faults attrs unlistable children rest).walk ↔
      faults.walk = none ∧ (path = [name] ∨
        unlistable = none ∧ ∃ path', .ok path' ∈ children.walk ∧ path = name :: path') ∨
      .ok path ∈ rest.walk := by
  rw [walk, List.mem_append, ok_mem_entered, ok_mem_listed, ok_mem_map]

theorem error_mem_walk_dir :
    .error e ∈ (dir name faults attrs unlistable children rest).walk ↔
      (faults.walk = some e ∨ faults.walk = none ∧ (unlistable = some e ∨
        unlistable = none ∧ .error e ∈ children.walk)) ∨
      .error e ∈ rest.walk := by
  rw [walk, List.mem_append, error_mem_entered, error_mem_listed, error_mem_map]

/-- What is found is at a name of the directory. Source: none: infrastructure. Kind: L -/
theorem mem_names_of_find {n : Name} (h : l.find (n :: path) = some node) : n ∈ l.names := by
  induction l with
  | nil => cases h
  | leaf name faults lf rest ih =>
      rw [find] at h
      by_cases hn : n = name
      · exact hn ▸ List.mem_cons_self
      · rw [if_neg hn] at h
        exact List.mem_cons_of_mem _ (ih h)
  | dir name faults attrs unlistable children rest _ ih =>
      rw [find] at h
      by_cases hn : n = name
      · exact hn ▸ List.mem_cons_self
      · rw [if_neg hn] at h
        exact List.mem_cons_of_mem _ (ih h)

theorem find_leaf_self : (leaf name faults lf rest).find [name] = some (.leaf faults lf) := by
  rw [find, if_pos rfl, if_pos rfl]

theorem find_dir_self : (dir name faults attrs unlistable children rest).find [name] =
    some (.dir faults attrs) := by
  rw [find, if_pos rfl, if_pos rfl]

theorem find_dir_child (hpath : path ≠ []) :
    (dir name faults attrs unlistable children rest).find (name :: path) = children.find path := by
  rw [find, if_pos rfl, if_neg hpath]

/-- The rest of a directory is found past a name that does not occur there.
Source: none: infrastructure. Kind: L -/
theorem find_leaf_rest (hname : name ∉ rest.names) (h : rest.find path = some node) :
    (leaf name faults lf rest).find path = some node := by
  cases path with
  | nil => cases rest <;> cases h
  | cons n path =>
      rw [find, if_neg fun hn : n = name => hname (hn ▸ mem_names_of_find h)]
      exact h

theorem find_dir_rest (hname : name ∉ rest.names) (h : rest.find path = some node) :
    (dir name faults attrs unlistable children rest).find path = some node := by
  cases path with
  | nil => cases rest <;> cases h
  | cons n path =>
      rw [find, if_neg fun hn : n = name => hname (hn ▸ mem_names_of_find h)]
      exact h

/-- **What the walk yields is there.** Source: `rollout-snapshots/src/tar_build.rs`
`build_deterministic_tar` (`WalkDir`). Kind: P -/
theorem find_of_mem_walk (hd : l.Distinct) (h : .ok path ∈ l.walk) :
    path ≠ [] ∧ ∃ node, l.find path = some node := by
  induction l generalizing path with
  | nil => cases h
  | leaf name faults lf rest ih =>
      rcases ok_mem_walk_leaf.mp h with ⟨-, rfl⟩ | h
      · exact ⟨List.cons_ne_nil _ _, _, find_leaf_self⟩
      · obtain ⟨hne, node, hfind⟩ := ih hd.2 h
        exact ⟨hne, node, find_leaf_rest hd.1 hfind⟩
  | dir name faults attrs unlistable children rest ihc ih =>
      rcases ok_mem_walk_dir.mp h with ⟨-, rfl | ⟨-, path', h', rfl⟩⟩ | h
      · exact ⟨List.cons_ne_nil _ _, _, find_dir_self⟩
      · obtain ⟨hne, node, hfind⟩ := ihc hd.2.1 h'
        exact ⟨List.cons_ne_nil _ _, node, (find_dir_child hne).trans hfind⟩
      · obtain ⟨hne, node, hfind⟩ := ih hd.2.2 h
        exact ⟨hne, node, find_dir_rest hd.1 hfind⟩

/-- **A walk without errors yields all that is there.** Source:
`rollout-snapshots/src/tar_build.rs` `build_deterministic_tar` (`WalkDir`). Kind: P -/
theorem mem_walk_of_find (hok : ∀ e, .error e ∉ l.walk) (h : l.find path = some node) :
    .ok path ∈ l.walk := by
  induction l generalizing path with
  | nil => cases h
  | leaf name faults lf rest ih =>
      have hrest : ∀ e, .error e ∉ rest.walk := fun e he =>
        hok e (error_mem_walk_leaf.mpr (.inr he))
      have hwalk : faults.walk = none :=
        Option.eq_none_iff_forall_ne_some.mpr fun e he => hok e (error_mem_walk_leaf.mpr (.inl he))
      rw [ok_mem_walk_leaf]
      cases path with
      | nil => cases h
      | cons n path =>
          rw [find] at h
          by_cases hn : n = name
          · rw [if_pos hn] at h
            by_cases hp : path = []
            · exact .inl ⟨hwalk, by rw [hn, hp]⟩
            · rw [if_neg hp] at h
              cases h
          · rw [if_neg hn] at h
            exact .inr (ih hrest h)
  | dir name faults attrs unlistable children rest ihc ih =>
      have hrest : ∀ e, .error e ∉ rest.walk := fun e he => hok e (error_mem_walk_dir.mpr (.inr he))
      have hwalk : faults.walk = none := Option.eq_none_iff_forall_ne_some.mpr fun e he =>
        hok e (error_mem_walk_dir.mpr (.inl (.inl he)))
      have hlist : unlistable = none := Option.eq_none_iff_forall_ne_some.mpr fun e he =>
        hok e (error_mem_walk_dir.mpr (.inl (.inr ⟨hwalk, .inl he⟩)))
      have hchildren : ∀ e, .error e ∉ children.walk := fun e he =>
        hok e (error_mem_walk_dir.mpr (.inl (.inr ⟨hwalk, .inr ⟨hlist, he⟩⟩)))
      rw [ok_mem_walk_dir]
      cases path with
      | nil => cases h
      | cons n path =>
          rw [find] at h
          by_cases hn : n = name
          · rw [if_pos hn] at h
            by_cases hp : path = []
            · exact .inl ⟨hwalk, .inl (by rw [hn, hp])⟩
            · rw [if_neg hp] at h
              exact .inl ⟨hwalk, .inr ⟨hlist, path, ihc hchildren h, by rw [hn]⟩⟩
          · rw [if_neg hn] at h
            exact .inr (ih hrest h)

/-- What is below what is found is below a directory. Source: none: infrastructure. Kind: L -/
theorem find_above (hpath : path ≠ []) {more : RelPath} (hmore : more ≠ [])
    (h : l.find (path ++ more) = some node) :
    ∃ faults attrs, l.find path = some (.dir faults attrs) := by
  induction l generalizing path with
  | nil => cases h
  | leaf name faults lf rest ih =>
      cases path with
      | nil => exact absurd rfl hpath
      | cons n path =>
          rw [List.cons_append, find] at h
          rw [find]
          by_cases hn : n = name
          · rw [if_pos hn, if_neg (by simp [hmore])] at h
            cases h
          · rw [if_neg hn] at h ⊢
            exact ih (List.cons_ne_nil _ _) h
  | dir name faults attrs unlistable children rest ihc ih =>
      cases path with
      | nil => exact absurd rfl hpath
      | cons n path =>
          rw [List.cons_append, find] at h
          rw [find]
          by_cases hn : n = name
          · rw [if_pos hn, if_neg (by simp [hmore])] at h
            rw [if_pos hn]
            by_cases hp : path = []
            · exact ⟨faults, attrs, if_pos hp⟩
            · rw [if_neg hp]
              exact ihc hp h
          · rw [if_neg hn] at h ⊢
            exact ih (List.cons_ne_nil _ _) h

/-- What the walk yields starts with a name of the directory.
Source: none: infrastructure. Kind: L -/
theorem head_of_mem_walk (hd : l.Distinct) {n : Name} (h : .ok (n :: path) ∈ l.walk) :
    n ∈ l.names := by
  obtain ⟨-, node, hfind⟩ := find_of_mem_walk hd h
  exact mem_names_of_find hfind

theorem mem_filterMap_toOption {entries : List (Except IoError RelPath)} :
    path ∈ entries.filterMap Except.toOption ↔ .ok path ∈ entries := by
  rw [List.mem_filterMap]
  constructor
  · rintro ⟨r, hr, hopt⟩
    cases r with
    | error e => cases hopt
    | ok path' => exact Option.some.inj hopt ▸ hr
  · exact fun h => ⟨.ok path, h, rfl⟩

theorem filterMap_toOption_map (entries : List (Except IoError RelPath)) :
    (entries.map (Except.map (name :: ·))).filterMap Except.toOption =
      (entries.filterMap Except.toOption).map (name :: ·) := by
  rw [List.filterMap_map, List.map_filterMap]
  refine List.filterMap_congr fun r _ => ?_
  cases r <;> rfl

/-- What is yielded for an entry is disjoint from what the rest of the directory yields.
Source: none: infrastructure. Kind: L -/
theorem nodup_entered_append {below : List (Except IoError RelPath)} (hd : rest.Distinct)
    (hname : name ∉ rest.names) (hbelow : (below.filterMap Except.toOption).Nodup)
    (hsub : ∀ path', .ok path' ∈ below → ∃ more, more ≠ [] ∧ path' = name :: more)
    (hrest : (rest.walk.filterMap Except.toOption).Nodup) :
    ((entered faults [name] below ++ rest.walk).filterMap Except.toOption).Nodup := by
  have hhead : ∀ path', .ok path' ∈ entered faults [name] below → ∃ more, path' = name :: more := by
    intro path' h
    obtain ⟨-, rfl | h⟩ := ok_mem_entered.mp h
    · exact ⟨[], rfl⟩
    · obtain ⟨more, -, heq⟩ := hsub path' h
      exact ⟨more, heq⟩
  rw [List.filterMap_append, List.nodup_append']
  refine ⟨?_, hrest, fun path' hfirst hlast => ?_⟩
  · unfold entered
    cases faults.walk with
    | some e => exact List.nodup_nil
    | none =>
        refine List.nodup_cons.mpr ⟨fun h => ?_, hbelow⟩
        obtain ⟨more, hmore, heq⟩ := hsub _ (mem_filterMap_toOption.mp h)
        exact hmore (List.cons.inj heq).2.symm
  · obtain ⟨more, rfl⟩ := hhead path' (mem_filterMap_toOption.mp hfirst)
    exact hname (head_of_mem_walk hd (mem_filterMap_toOption.mp hlast))

/-- The walk yields no path twice. Source: `rollout-snapshots/src/tar_build.rs`
`build_deterministic_tar` (`WalkDir`). Kind: P -/
theorem nodup_walk (hd : l.Distinct) : (l.walk.filterMap Except.toOption).Nodup := by
  induction l with
  | nil => exact List.nodup_nil
  | leaf name faults lf rest ih =>
      exact nodup_entered_append hd.2 hd.1 List.nodup_nil (fun _ h => absurd h List.not_mem_nil)
        (ih hd.2)
  | dir name faults attrs unlistable children rest ihc ih =>
      refine nodup_entered_append hd.2.2 hd.1 ?_ ?_ (ih hd.2.2)
      · cases unlistable with
        | some e => exact List.nodup_nil
        | none =>
            rw [listed, filterMap_toOption_map]
            exact (ihc hd.2.1).map fun a b h => (List.cons.inj h).2
      · intro path' h
        obtain ⟨more, hmore, rfl⟩ := ok_mem_map.mp (ok_mem_listed.mp h).2
        exact ⟨more, (find_of_mem_walk hd.2.1 hmore).1, rfl⟩

/-- Without links and faults the walk yields no error. Source: none: infrastructure. Kind: L -/
theorem Plain.no_error (h : l.Plain) (e : IoError) : .error e ∉ l.walk := by
  induction l with
  | nil => exact List.not_mem_nil
  | leaf name faults lf rest ih =>
      obtain ⟨rfl, -, hrest⟩ := h
      rw [error_mem_walk_leaf]
      rintro (hw | hw)
      · cases hw
      · exact ih hrest hw
  | dir name faults attrs unlistable children rest ihc ih =>
      obtain ⟨rfl, rfl, hchildren, hrest⟩ := h
      rw [error_mem_walk_dir]
      rintro ((hw | ⟨-, hw | ⟨-, hw⟩⟩) | hw)
      · cases hw
      · cases hw
      · exact ihc hchildren hw
      · exact ih hrest hw

/-- Without links and faults there are only files and directories. Source: none: infrastructure.
Kind: L -/
theorem Plain.of_find (h : l.Plain) (hfind : l.find path = some node) :
    (∃ attrs contents, node = .leaf .none (.file attrs contents)) ∨
      ∃ attrs, node = .dir .none attrs := by
  induction l generalizing path with
  | nil => cases hfind
  | leaf name faults lf rest ih =>
      obtain ⟨rfl, ⟨attrs, contents, rfl⟩, hrest⟩ := h
      cases path with
      | nil => cases hfind
      | cons n path =>
          rw [find] at hfind
          split at hfind
          · split at hfind
            · exact .inl ⟨attrs, contents, (Option.some.inj hfind).symm⟩
            · cases hfind
          · exact ih hrest hfind
  | dir name faults attrs unlistable children rest ihc ih =>
      obtain ⟨rfl, rfl, hchildren, hrest⟩ := h
      cases path with
      | nil => cases hfind
      | cons n path =>
          rw [find] at hfind
          split at hfind
          · split at hfind
            · exact .inr ⟨attrs, (Option.some.inj hfind).symm⟩
            · exact ihc hchildren hfind
          · exact ih hrest hfind

end Listing

end Rollout.Snapshots
