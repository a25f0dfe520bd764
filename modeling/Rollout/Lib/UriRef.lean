import Mathlib.Data.List.DropRight
import Mathlib.Data.List.Flatten
import Rollout.Lib.Separated

/-!
# References and their resolution

The generic syntax of URI references, over characters.

* `removeDots` — a path without its dot segments: the segments are read from the left and moved to
  an output, from which `..` takes the last one back. A path is `DotFree` when it has none, and
  those are the paths left alone (`removeDots_eq_self_iff`).
* `UriRef` — scheme, authority, path, query and fragment; `UriRef.parse` reads any text, and
  `UriRef.resolve` is the target of a reference relative to a base.
* `UriRef.named` — what a target names: its scheme, host, port, path and query.
-/

namespace Rollout.Lib

/-! ## Segments -/

/-- Not a dot segment. Source: none: infrastructure. Kind: D -/
def Plain (name : List Char) : Prop := name ≠ ['.'] ∧ name ≠ ['.', '.']

instance : DecidablePred Plain := fun _ => inferInstanceAs (Decidable (_ ∧ _))

/-- No segment is a dot segment. Source: none: infrastructure. Kind: D -/
def DotFree (p : List Char) : Prop := ∀ name ∈ p.splitOn '/', Plain name

instance : DecidablePred DotFree := fun p =>
  inferInstanceAs (Decidable (∀ name ∈ p.splitOn '/', Plain name))

/-- Segments, each behind a slash. Source: none: infrastructure. Kind: D -/
def slashed (names : List (List Char)) : List Char := names.flatMap (List.cons '/')

section segments

variable {p q name : List Char} {names : List (List Char)}

@[simp] theorem slashed_nil : slashed [] = [] := rfl

@[simp] theorem slashed_cons : slashed (name :: names) = '/' :: (name ++ slashed names) := rfl

theorem dotFree_append_slash : DotFree (p ++ '/' :: q) ↔ DotFree p ∧ DotFree q := by
  simp only [DotFree, List.splitOn_append_cons_self, List.forall_mem_append]

theorem dotFree_nil : DotFree [] := by decide

theorem dotFree_slash : DotFree ('/' :: q) ↔ DotFree q := by
  have h := dotFree_append_slash (p := []) (q := q)
  rw [List.nil_append, and_iff_right dotFree_nil] at h
  exact h

theorem dotFree_of_plain (hslash : '/' ∉ name) (hplain : Plain name) : DotFree name := by
  intro n hn
  rw [List.splitOn_eq_singleton hslash, List.mem_singleton] at hn
  exact hn ▸ hplain

/-- A path is its segments with slashes between them. Source: none: infrastructure. Kind: L -/
theorem eq_append_slashed {name : List Char} {names : List (List Char)}
    (h : p.splitOn '/' = name :: names) : p = name ++ slashed names := by
  induction p generalizing name names with
  | nil =>
      rw [List.splitOn_nil] at h
      cases h
      rfl
  | cons c p ih =>
      obtain ⟨n, ns, hp⟩ := List.exists_cons_of_ne_nil (List.splitOn_ne_nil '/' p)
      rw [List.splitOn_cons_eq_if_modifyHead, hp] at h
      by_cases hc : c = '/'
      · rw [if_pos (by simpa using hc)] at h
        cases h
        rw [hc, ih hp, List.nil_append, slashed_cons]
      · rw [if_neg (by simpa using hc)] at h
        cases h
        rw [ih hp, List.cons_append]

end segments

/-! ## Dot segments -/

/-- One segment that others follow: a dot segment is dropped, `..` with the last of the output.
Source: none: infrastructure. Kind: D -/
def keep (out : List (List Char)) (name : List Char) : List (List Char) :=
  if name = ['.'] then out
  else if name = ['.', '.'] then out.dropLast
  else out ++ ['/' :: name]

/-- The last segment: a dot segment leaves its slash. Source: none: infrastructure. Kind: D -/
def keepLast (out : List (List Char)) (name : List Char) : List (List Char) :=
  if Plain name then out ++ ['/' :: name] else keep out name ++ [['/']]

/-- The segments of a path from a slash on. Source: none: infrastructure. Kind: D -/
def settle : List (List Char) → List (List Char) → List (List Char)
  | [], out => out
  | [name], out => keepLast out name
  | name :: next :: names, out => settle (next :: names) (keep out name)

/-- The segments of a path. Before the first slash there is a segment to keep, a dot segment that goes
with its slash, or nothing. Source: none: infrastructure. Kind: D -/
def settleFrom : List (List Char) → List (List Char)
  | [] => []
  | name :: names =>
      if name = [] then settle names []
      else if Plain name then settle names [name]
      else settleFrom names

/-- Source: none: infrastructure. Kind: D -/
def removeDots (p : List Char) : List Char := (settleFrom (p.splitOn '/')).flatten

/-- No text the output went through has a dot segment. Source: none: infrastructure. Kind: D -/
def Settled (out : List (List Char)) : Prop := ∀ front, front <+: out → DotFree front.flatten

section removeDots

variable {p q name : List Char} {names out : List (List Char)}

theorem settled_nil : Settled [] := by
  intro front hfront
  rw [List.prefix_nil.mp hfront]
  exact dotFree_nil

theorem Settled.dropLast (h : Settled out) : Settled out.dropLast :=
  fun front hfront => h front (hfront.trans (List.dropLast_prefix out))

theorem Settled.concat (h : Settled out) (hslash : '/' ∉ name) (hplain : Plain name) :
    Settled (out ++ ['/' :: name]) := by
  intro front hfront
  rcases List.prefix_concat_iff.mp hfront with rfl | hfront
  · rw [List.flatten_append, List.flatten_singleton]
    exact dotFree_append_slash.mpr ⟨h out List.prefix_rfl, dotFree_of_plain hslash hplain⟩
  · exact h front hfront

theorem Settled.keep (h : Settled out) (hslash : '/' ∉ name) : Settled (keep out name) := by
  unfold Lib.keep
  split
  · exact h
  · next hdot =>
    split
    · exact h.dropLast
    · next hdots => exact h.concat hslash ⟨hdot, hdots⟩

theorem Settled.keepLast (h : Settled out) (hslash : '/' ∉ name) : Settled (keepLast out name) := by
  unfold Lib.keepLast
  split
  · next hplain => exact h.concat hslash hplain
  · exact (h.keep hslash).concat List.not_mem_nil (by decide)

/-- Each segment leaves the output settled. Source: none: infrastructure. Kind: P -/
theorem Settled.settle (h : Settled out) (hslash : ∀ name ∈ names, '/' ∉ name) :
    Settled (settle names out) := by
  induction names, out using settle.induct with
  | case1 out => exact h
  | case2 name out => exact h.keepLast (hslash name List.mem_cons_self)
  | case3 name next names out ih =>
      exact ih (h.keep (hslash name List.mem_cons_self))
        fun n hn => hslash n (List.mem_cons_of_mem _ hn)

theorem settled_settleFrom (hslash : ∀ name ∈ names, '/' ∉ name) : Settled (settleFrom names) := by
  induction names with
  | nil => exact settled_nil
  | cons name names ih =>
      have hrest : ∀ n ∈ names, '/' ∉ n := fun n hn => hslash n (List.mem_cons_of_mem _ hn)
      unfold settleFrom
      split
      · exact settled_nil.settle hrest
      · split
        · next hplain =>
          refine Settled.settle (fun front hfront => ?_) hrest
          rcases List.prefix_cons_iff.mp hfront with rfl | ⟨rest, rfl, hnil⟩
          · exact dotFree_nil
          · rw [List.prefix_nil.mp hnil, List.flatten_singleton]
            exact dotFree_of_plain (hslash name List.mem_cons_self) hplain
        · exact ih hrest

/-- What is left has no dot segment. Source: none: infrastructure. Kind: P -/
theorem dotFree_removeDots (p : List Char) : DotFree (removeDots p) :=
  settled_settleFrom (sep_not_mem_splitOn p) _ List.prefix_rfl

theorem flatten_settle (hplain : ∀ name ∈ names, Plain name) :
    (settle names out).flatten = out.flatten ++ slashed names := by
  induction names, out using settle.induct with
  | case1 out => simp [settle]
  | case2 name out =>
      rw [settle, keepLast, if_pos (hplain name List.mem_cons_self)]
      simp
  | case3 name next names out ih =>
      obtain ⟨hdot, hdots⟩ := hplain name List.mem_cons_self
      have hkeep : (keep out name).flatten = out.flatten ++ '/' :: name := by
        rw [keep, if_neg hdot, if_neg hdots, List.flatten_append, List.flatten_singleton]
      calc (settle (next :: names) (keep out name)).flatten
          = (keep out name).flatten ++ slashed (next :: names) :=
            ih fun n hn => hplain n (List.mem_cons_of_mem _ hn)
        _ = out.flatten ++ slashed (name :: next :: names) := by
            rw [hkeep, List.append_assoc, List.cons_append]
            rfl

theorem settle_append {front : List (List Char)} (hne : names ≠ []) :
    settle (front ++ names) out = settle names (front.foldl keep out) := by
  induction front generalizing out with
  | nil => rfl
  | cons name front ih =>
      obtain ⟨next, rest, hrest⟩ := List.exists_cons_of_ne_nil (l := front ++ names) (by simp [hne])
      rw [List.cons_append, hrest, settle, ← hrest, ih, List.foldl_cons]

theorem removeDots_of_dotFree (h : DotFree p) : removeDots p = p := by
  obtain ⟨name, names, hp⟩ := List.exists_cons_of_ne_nil (List.splitOn_ne_nil '/' p)
  unfold DotFree at h
  rw [hp, List.forall_mem_cons] at h
  unfold removeDots
  rw [hp, settleFrom]
  split
  · next hname => rw [flatten_settle h.2, eq_append_slashed hp, hname]; rfl
  · rw [if_pos h.1, flatten_settle h.2, List.flatten_singleton, ← eq_append_slashed hp]

/-- The paths left alone are the ones without dot segments.
Source: none: infrastructure. Kind: P -/
theorem removeDots_eq_self_iff (p : List Char) : removeDots p = p ↔ DotFree p :=
  ⟨fun h => h ▸ dotFree_removeDots p, removeDots_of_dotFree⟩

/-- With a path from the root in front of a slash, what comes before it is left at the front.
Source: none: infrastructure. Kind: L -/
theorem removeDots_append_slash (hd : p = [] ∨ ∃ t, p = '/' :: t) :
    ∃ front, ∀ q, DotFree q → removeDots (p ++ '/' :: q) = front ++ '/' :: q := by
  obtain ⟨names, hp⟩ : ∃ names, p.splitOn '/' = [] :: names := by
    rcases hd with rfl | ⟨t, rfl⟩
    · exact ⟨[], rfl⟩
    · exact ⟨t.splitOn '/', List.splitOn_append_cons_self [] t⟩
  refine ⟨(names.foldl keep []).flatten, fun q hq => ?_⟩
  obtain ⟨n, ns, hqs⟩ := List.exists_cons_of_ne_nil (List.splitOn_ne_nil '/' q)
  unfold removeDots
  rw [List.splitOn_append_cons_self, hp, List.cons_append, settleFrom, if_pos rfl,
    settle_append (List.splitOn_ne_nil '/' q), flatten_settle hq, hqs, slashed_cons,
    eq_append_slashed hqs]

/-- A path behind a directory is all that is left when it has no dot segments and the directory comes
down to the root. Source: none: infrastructure. Kind: P -/
theorem removeDots_append_slash_eq_iff (hd : p = [] ∨ ∃ t, p = '/' :: t) :
    removeDots (p ++ '/' :: q) = '/' :: q ↔ DotFree q ∧ removeDots (p ++ ['/']) = ['/'] := by
  obtain ⟨front, hfront⟩ := removeDots_append_slash hd
  rw [hfront [] dotFree_nil]
  constructor
  · intro h
    have hq : DotFree q := dotFree_slash.mp (h ▸ dotFree_removeDots _)
    rw [hfront q hq] at h
    have hnil : front = [] := List.append_left_eq_self.mp h
    exact ⟨hq, by rw [hnil, List.nil_append]⟩
  · rintro ⟨hq, h⟩
    have hnil : front = [] := List.append_left_eq_self.mp h
    rw [hfront q hq, hnil, List.nil_append]

/-- A dot segment adds nothing, and it is not empty. Source: none: infrastructure. Kind: L -/
theorem length_keep_of_not_plain (h : ¬ Plain name) :
    (keep out name).flatten.length ≤ out.flatten.length ∧ 1 ≤ name.length := by
  unfold keep
  split
  · next hdot => exact ⟨le_rfl, by rw [hdot]; decide⟩
  · next hdot =>
    split
    · next hdots =>
      exact ⟨List.Sublist.length_le (List.dropLast_sublist out).flatten, by rw [hdots]; decide⟩
    · next hdots => exact absurd ⟨hdot, hdots⟩ h

/-- The directory of a path from the root ends in a slash. Source: none: infrastructure. Kind: L -/
theorem directory_of_rooted (t : List Char) : ∃ d, (d = [] ∨ ∃ u, d = '/' :: u) ∧
    ('/' :: t).rdropWhile (· ≠ '/') = d ++ ['/'] := by
  have hne : ('/' :: t).rdropWhile (· ≠ '/') ≠ [] := by
    intro h
    simpa using List.rdropWhile_eq_nil_iff.mp h '/' List.mem_cons_self
  have hlast : (('/' :: t).rdropWhile (· ≠ '/')).getLast hne = '/' := by
    simpa using List.rdropWhile_last_not _ _ hne
  refine ⟨_, ?_, (hlast ▸ List.dropLast_append_getLast hne).symm⟩
  have hprefix := (List.dropLast_prefix _).trans (List.rdropWhile_prefix (· ≠ '/') (l := '/' :: t))
  rcases List.prefix_cons_iff.mp hprefix with h | ⟨u, h, -⟩
  · exact .inl h
  · exact .inr ⟨u, h⟩

/-- A relative path is all that is left behind a directory when it has no dot segments and the
directory comes down to the root. Source: none: infrastructure. Kind: P -/
theorem removeDots_directory_iff (t : List Char) :
    removeDots (('/' :: t).rdropWhile (· ≠ '/') ++ q) = '/' :: q ↔
      DotFree q ∧ removeDots (('/' :: t).rdropWhile (· ≠ '/')) = ['/'] := by
  obtain ⟨d, hd, hdir⟩ := directory_of_rooted t
  rw [hdir, List.append_assoc, List.singleton_append]
  exact removeDots_append_slash_eq_iff hd

theorem length_flatten_concat (name : List Char) :
    (out ++ ['/' :: name]).flatten.length = out.flatten.length + (name.length + 1) := by
  rw [List.flatten_append, List.flatten_singleton, List.length_append, List.length_cons]

theorem length_keep_le :
    (keep out name).flatten.length ≤ out.flatten.length + (name.length + 1) := by
  by_cases h : Plain name
  · rw [keep, if_neg h.1, if_neg h.2, length_flatten_concat]
  · have hkeep : (keep out name).flatten.length ≤ out.flatten.length :=
      (length_keep_of_not_plain h).1
    omega

theorem length_keepLast_le :
    (keepLast out name).flatten.length ≤ out.flatten.length + (name.length + 1) := by
  unfold keepLast
  split
  · rw [length_flatten_concat]
  · next h =>
    have hkeep : (keep out name).flatten.length ≤ out.flatten.length ∧ 1 ≤ name.length :=
      length_keep_of_not_plain h
    rw [length_flatten_concat]
    simp only [List.length_nil]
    omega

/-- No segment gets longer. Source: none: infrastructure. Kind: L -/
theorem length_flatten_settle_le :
    (settle names out).flatten.length ≤ out.flatten.length + (slashed names).length := by
  induction names, out using settle.induct with
  | case1 out => exact Nat.le_add_right _ _
  | case2 name out =>
      simp only [settle, slashed_cons, slashed_nil, List.append_nil, List.length_cons]
      exact length_keepLast_le
  | case3 name next names out ih =>
      have h : (keep out name).flatten.length ≤ out.flatten.length + (name.length + 1) :=
        length_keep_le
      rw [settle, slashed_cons, List.length_cons, List.length_append]
      omega

theorem length_flatten_settleFrom_le (hne : names ≠ []) :
    (settleFrom names).flatten.length + 1 ≤ (slashed names).length := by
  induction names with
  | nil => exact absurd rfl hne
  | cons name names ih =>
      rw [slashed_cons, List.length_cons, List.length_append]
      unfold settleFrom
      split
      · have h : (settle names []).flatten.length ≤ 0 + (slashed names).length :=
          length_flatten_settle_le
        omega
      · split
        · have h : (settle names [name]).flatten.length ≤ [name].flatten.length + _ :=
            length_flatten_settle_le
          rw [List.flatten_singleton] at h
          omega
        · cases names with
          | nil => simp [settleFrom]
          | cons next names =>
              have h := ih (List.cons_ne_nil next names)
              omega

/-- A path only gets shorter. Source: none: infrastructure. Kind: P -/
theorem length_removeDots_le (p : List Char) : (removeDots p).length ≤ p.length := by
  obtain ⟨name, names, hp⟩ := List.exists_cons_of_ne_nil (List.splitOn_ne_nil '/' p)
  have h := length_flatten_settleFrom_le (List.splitOn_ne_nil '/' p)
  have hlength : (slashed (p.splitOn '/')).length = p.length + 1 := by
    rw [hp, slashed_cons, List.length_cons, ← eq_append_slashed hp]
  unfold removeDots
  omega

end removeDots

/-! ## References -/

/-- The text before the first `c`, and what follows it if there is one.
Source: none: infrastructure. Kind: D -/
def cutAt (c : Char) (text : List Char) : List Char × Option (List Char) :=
  (text.takeWhile (· ≠ c), match text.dropWhile (· ≠ c) with
    | [] => none
    | _ :: rest => some rest)

section cutAt

variable {c : Char} {text front rest : List Char}

theorem cutAt_append (h : c ∉ front) (text : List Char) :
    cutAt c (front ++ text) = (front ++ (cutAt c text).1, (cutAt c text).2) := by
  have hfront : ∀ d ∈ front, decide (d ≠ c) = true := by
    intro d hd
    exact decide_eq_true fun hdc => h (hdc ▸ hd)
  unfold cutAt
  rw [List.takeWhile_append_of_pos hfront, List.dropWhile_append_of_pos hfront]

theorem cutAt_self (c : Char) (text : List Char) : cutAt c (c :: text) = ([], some text) := by
  simp [cutAt]

theorem prefix_cutAt (c : Char) (text : List Char) : (cutAt c text).1 <+: text :=
  List.takeWhile_prefix _

theorem notMem_cutAt (c : Char) (text : List Char) : c ∉ (cutAt c text).1 := by
  intro h
  simpa using List.mem_takeWhile_imp h

theorem eq_of_cutAt (h : (cutAt c text).2 = some rest) : text = (cutAt c text).1 ++ c :: rest := by
  show text = text.takeWhile (· ≠ c) ++ c :: rest
  unfold cutAt at h
  dsimp only at h
  cases hdrop : text.dropWhile (· ≠ c) with
  | nil =>
      rw [hdrop] at h
      cases h
  | cons d t =>
      have hnot := List.head?_dropWhile_not (· ≠ c) text
      rw [hdrop] at h hnot
      have hd : d = c := by simpa using hnot
      rw [← Option.some.inj h, ← hd, ← hdrop, hd, List.takeWhile_append_dropWhile]

end cutAt

/-- A URI reference in its parts. Source: none: infrastructure. Kind: D -/
@[ext] structure UriRef where
  /-- Scheme. -/
  scheme : Option (List Char)
  /-- Authority. -/
  authority : Option (List Char)
  /-- Path. -/
  path : List Char
  /-- Query. -/
  query : Option (List Char)
  /-- Fragment. -/
  fragment : Option (List Char)
deriving DecidableEq

namespace UriRef

/-- Source: none: infrastructure. Kind: D -/
def isSchemeChar (c : Char) : Bool := c.isAlphanum || c = '+' || c = '-' || c = '.'

/-- A letter, then letters, digits, `+`, `-` and `.`. Source: none: infrastructure. Kind: D -/
def isScheme : List Char → Bool
  | [] => false
  | c :: rest => c.isAlpha && rest.all isSchemeChar

/-- The scheme before the first colon, if that is one, and the rest.
Source: none: infrastructure. Kind: D -/
def cutScheme (text : List Char) : Option (List Char) × List Char :=
  match cutAt ':' text with
  | (name, some rest) => if isScheme name then (some name, rest) else (none, text)
  | (_, none) => (none, text)

/-- The authority between two slashes and the next one, if there is one, and the rest.
Source: none: infrastructure. Kind: D -/
def cutAuthority : List Char → Option (List Char) × List Char
  | '/' :: '/' :: text => (some (text.takeWhile (· ≠ '/')), text.dropWhile (· ≠ '/'))
  | text => (none, text)

/-- What comes before the fragment, the query and the fragment.
Source: none: infrastructure. Kind: D -/
def hier (text : List Char) : List Char := (cutAt '?' (cutAt '#' text).1).1

/-- Read a reference: any text is one. Source: none: infrastructure. Kind: D -/
def parse (text : List Char) : UriRef where
  scheme := (cutScheme (hier text)).1
  authority := (cutAuthority (cutScheme (hier text)).2).1
  path := (cutAuthority (cutScheme (hier text)).2).2
  query := (cutAt '?' (cutAt '#' text).1).2
  fragment := (cutAt '#' text).2

/-- A relative path behind the directory of the base. Source: none: infrastructure. Kind: D -/
def merge (base : UriRef) (p : List Char) : List Char :=
  if base.authority.isSome ∧ base.path = [] then '/' :: p
  else base.path.rdropWhile (· ≠ '/') ++ p

/-- The target of a reference relative to a base. Source: none: infrastructure. Kind: D -/
def resolve (base ref : UriRef) : UriRef :=
  if ref.scheme.isSome then { ref with path := removeDots ref.path }
  else if ref.authority.isSome then
    { ref with scheme := base.scheme, path := removeDots ref.path }
  else if ref.path = [] then
    { base with query := ref.query.or base.query, fragment := ref.fragment }
  else if ref.path.head? = some '/' then
    { base with path := removeDots ref.path, query := ref.query, fragment := ref.fragment }
  else
    { base with path := removeDots (merge base ref.path), query := ref.query,
                fragment := ref.fragment }

theorem resolve_of_scheme (base : UriRef) {ref : UriRef} (h : ref.scheme.isSome) :
    base.resolve ref = { ref with path := removeDots ref.path } := if_pos h

/-- A reference with neither scheme nor authority. Source: none: infrastructure. Kind: L -/
theorem resolve_of_path (base : UriRef) {ref : UriRef} (hscheme : ref.scheme = none)
    (hauthority : ref.authority = none) : base.resolve ref =
      if ref.path = [] then
        { base with query := ref.query.or base.query, fragment := ref.fragment }
      else if ref.path.head? = some '/' then
        { base with path := removeDots ref.path, query := ref.query, fragment := ref.fragment }
      else
        { base with path := removeDots (merge base ref.path), query := ref.query,
                    fragment := ref.fragment } := by
  unfold resolve
  rw [if_neg (by simp [hscheme]), if_neg (by simp [hauthority])]

theorem resolve_scheme {base ref : UriRef} (h : ref.scheme = none) :
    (base.resolve ref).scheme = base.scheme := by
  unfold resolve
  rw [if_neg (by simp [h])]
  split_ifs <;> rfl

section parse

variable {text s a : List Char}

theorem parse_append (hfragment : '#' ∉ s) (hquery : '?' ∉ s) (text : List Char) :
    hier (s ++ text) = s ++ hier text ∧ (parse (s ++ text)).query = (parse text).query ∧
      (parse (s ++ text)).fragment = (parse text).fragment := by
  unfold parse hier
  rw [cutAt_append hfragment]
  dsimp only
  rw [cutAt_append hquery]
  exact ⟨rfl, rfl, rfl⟩

theorem prefix_hier (text : List Char) : hier text <+: text :=
  (prefix_cutAt _ _).trans (prefix_cutAt _ _)

theorem hier_slash (text : List Char) : hier ('/' :: text) = '/' :: hier text :=
  (parse_append (s := ['/']) (by decide) (by decide) text).1

theorem notMem_hier (text : List Char) : '#' ∉ hier text ∧ '?' ∉ hier text :=
  ⟨fun h => notMem_cutAt '#' text ((prefix_cutAt _ _).subset h), notMem_cutAt '?' _⟩

theorem notMem_of_isScheme (hs : isScheme s = true) {c : Char} (hc : isSchemeChar c = false) :
    c ∉ s := by
  cases s with
  | nil => exact List.not_mem_nil
  | cons d rest =>
      obtain ⟨hd, hrest⟩ := Bool.and_eq_true_iff.mp hs
      intro hmem
      rcases List.mem_cons.mp hmem with rfl | hmem
      · simp [isSchemeChar, Char.isAlphanum, hd] at hc
      · exact Bool.false_ne_true (hc.symm.trans (List.all_eq_true.mp hrest c hmem))

theorem cutScheme_colon (hs : isScheme s = true) (text : List Char) :
    cutScheme (s ++ ':' :: text) = (some s, text) := by
  unfold cutScheme
  rw [cutAt_append (notMem_of_isScheme hs (by decide)), cutAt_self, List.append_nil]
  exact if_pos hs

/-- With a scheme it stands before a colon, and without one nothing is cut off.
Source: none: infrastructure. Kind: L -/
theorem cutScheme_cases (text : List Char) : cutScheme text = (none, text) ∨
    ∃ s rest, cutScheme text = (some s, rest) ∧ isScheme s = true ∧ text = s ++ ':' :: rest := by
  unfold cutScheme
  split
  · next name rest hcut =>
    split
    · next hs =>
      have hrest : (cutAt ':' text).2 = some rest := by rw [hcut]
      have h := eq_of_cutAt hrest
      rw [hcut] at h
      exact .inr ⟨name, rest, rfl, hs, h⟩
    · exact .inl rfl
  · exact .inl rfl

theorem cutAuthority_cases (text : List Char) : cutAuthority text = (none, text) ∨
    ∃ rest, cutAuthority text = (some (rest.takeWhile (· ≠ '/')), rest.dropWhile (· ≠ '/')) ∧
      text = '/' :: '/' :: rest := by
  unfold cutAuthority
  split
  · next rest => exact .inr ⟨rest, rfl, rfl⟩
  · exact .inl rfl

theorem cutAuthority_slashes (ha : '/' ∉ a) (text : List Char) :
    cutAuthority ('/' :: '/' :: (a ++ '/' :: text)) = (some a, '/' :: text) := by
  have hall : ∀ c ∈ a, decide (c ≠ '/') = true :=
    fun c hc => decide_eq_true fun h => ha (h ▸ hc)
  show (some ((a ++ '/' :: text).takeWhile (· ≠ '/')), (a ++ '/' :: text).dropWhile (· ≠ '/')) = _
  rw [List.takeWhile_append_of_pos hall, List.dropWhile_append_of_pos hall]
  simp

/-- A target with a scheme and an authority in front of a rooted text.
Source: none: infrastructure. Kind: L -/
theorem parse_absolute (hs : isScheme s = true) (ha : ∀ c ∈ ['/', '?', '#'], c ∉ a)
    (text : List Char) :
    parse (s ++ ':' :: '/' :: '/' :: (a ++ '/' :: text)) =
      ⟨some s, some a, '/' :: hier text, (parse text).query, (parse text).fragment⟩ := by
  have hnot : ∀ c, isSchemeChar c = false → c ≠ ':' → c ≠ '/' → c ∉ a →
      c ∉ s ++ ':' :: '/' :: '/' :: a := by
    intro c hc hcolon hslash hca
    simp [notMem_of_isScheme hs hc, hcolon, hslash, hca]
  obtain ⟨hhier, hquery, hfragment⟩ := parse_append
    (hnot '#' (by decide) (by decide) (by decide) (ha '#' (by decide)))
    (hnot '?' (by decide) (by decide) (by decide) (ha '?' (by decide))) ('/' :: text)
  obtain ⟨-, hquery', hfragment'⟩ := parse_append (s := ['/']) (by decide) (by decide) text
  have hsplit : s ++ ':' :: '/' :: '/' :: (a ++ '/' :: text) =
      (s ++ ':' :: '/' :: '/' :: a) ++ '/' :: text := by simp
  have hcut : cutScheme (hier ((s ++ ':' :: '/' :: '/' :: a) ++ '/' :: text)) =
      (some s, '/' :: '/' :: (a ++ '/' :: hier text)) := by
    rw [hhier, hier_slash, ← cutScheme_colon hs]
    simp
  have hplace := cutAuthority_slashes (ha '/' (by decide)) (hier text)
  rw [hsplit]
  refine UriRef.ext ?_ ?_ ?_ (hquery.trans hquery') (hfragment.trans hfragment')
  · simp only [parse, hcut]
  · simp only [parse, hcut, hplace]
  · simp only [parse, hcut, hplace]

/-- Without a scheme and an authority all of it is path.
Source: none: infrastructure. Kind: L -/
theorem path_of_relative (hscheme : (parse text).scheme = none)
    (hauthority : (parse text).authority = none) : (parse text).path = hier text := by
  rcases cutScheme_cases (hier text) with h | ⟨s, rest, h, -, -⟩
  · rcases cutAuthority_cases (hier text) with h' | ⟨rest, h', -⟩
    · simp only [parse, h, h']
    · simp [parse, h, h'] at hauthority
  · simp [parse, h] at hscheme

/-- A scheme stands in front of a colon. Source: none: infrastructure. Kind: L -/
theorem exists_of_scheme (h : (parse text).scheme = some s) : isScheme s = true ∧
    ∃ rest, hier text = s ++ ':' :: rest ∧ (parse text).authority = (cutAuthority rest).1 := by
  rcases cutScheme_cases (hier text) with hcut | ⟨s', rest, hcut, hs, htext⟩
  · simp [parse, hcut] at h
  · obtain rfl : s' = s := by simpa [parse, hcut] using h
    exact ⟨hs, rest, htext, by simp only [parse, hcut]⟩

theorem exists_of_authority (h : (parse text).authority = some a) : ∃ rest,
    (cutScheme (hier text)).2 = '/' :: '/' :: rest ∧ a = rest.takeWhile (· ≠ '/') ∧
      (parse text).path = rest.dropWhile (· ≠ '/') := by
  rcases cutAuthority_cases (cutScheme (hier text)).2 with hcut | ⟨rest, hcut, htext⟩
  · simp [parse, hcut] at h
  · refine ⟨rest, htext, ?_, by simp only [parse, hcut]⟩
    simpa [parse, hcut] using h.symm

theorem cutScheme_suffix (text : List Char) : (cutScheme text).2 <:+ text := by
  rcases cutScheme_cases text with h | ⟨s, rest, h, -, htext⟩
  · simp [h]
  · rw [h, htext]
    exact (List.suffix_cons _ _).trans (List.suffix_append _ _)

/-- An authority ends before the path, the query and the fragment.
Source: none: infrastructure. Kind: L -/
theorem notMem_authority (h : (parse text).authority = some a) :
    ∀ c ∈ ['/', '?', '#'], c ∉ a := by
  obtain ⟨rest, htext, rfl, -⟩ := exists_of_authority h
  have hsub : ∀ c, c ∈ rest.takeWhile (· ≠ '/') → c ∈ hier text := by
    intro c hc
    refine (cutScheme_suffix _).subset ?_
    rw [htext]
    exact List.mem_cons_of_mem _ (List.mem_cons_of_mem _ ((List.takeWhile_prefix _).subset hc))
  intro c hc
  simp only [List.mem_cons, List.not_mem_nil, or_false] at hc
  rcases hc with rfl | rfl | rfl
  · intro h
    simpa using List.mem_takeWhile_imp h
  · exact fun h => (notMem_hier text).2 (hsub _ h)
  · exact fun h => (notMem_hier text).1 (hsub _ h)

/-- Behind an authority the path is empty or rooted. Source: none: infrastructure. Kind: L -/
theorem rooted_of_authority (h : (parse text).authority = some a) :
    (parse text).path = [] ∨ ∃ t, (parse text).path = '/' :: t := by
  obtain ⟨rest, -, -, hpath⟩ := exists_of_authority h
  rw [hpath]
  cases hdrop : rest.dropWhile (· ≠ '/') with
  | nil => exact .inl rfl
  | cons c t =>
      have hnot := List.head?_dropWhile_not (· ≠ '/') rest
      rw [hdrop] at hnot
      have hc : c = '/' := by simpa using hnot
      exact .inr ⟨t, by rw [hc]⟩

end parse

/-! ## What a target names -/

/-- Upper and lower case are one in schemes and hosts. Source: none: infrastructure. Kind: D -/
def lower (text : List Char) : List Char := text.map Char.toLower

/-- The host and what follows it: an address in brackets, or the text before the colon.
Source: none: infrastructure. Kind: D -/
def cutHost : List Char → List Char × List Char
  | '[' :: rest => ('[' :: rest.takeWhile (· ≠ ']') ++ [']'], (rest.dropWhile (· ≠ ']')).tail)
  | place => (place.takeWhile (· ≠ ':'), place.dropWhile (· ≠ ':'))

/-- The authority without its user. Source: none: infrastructure. Kind: D -/
def placeOf (authority : List Char) : List Char := (cutAt '@' authority).2.getD authority

/-- Source: none: infrastructure. Kind: D -/
def defaultPort (scheme : Option (List Char)) : Option Nat :=
  if scheme = some "http".toList then some 80
  else if scheme = some "https".toList then some 443
  else none

/-- The port that follows a host; none and an empty one are the scheme's own.
Source: none: infrastructure. Kind: D -/
def portOf (scheme : Option (List Char)) : List Char → Option Nat
  | ':' :: d :: digits =>
      if (d :: digits).all Char.isDigit then
        some ((d :: digits).foldl (fun n c => 10 * n + (c.toNat - 48)) 0)
      else none
  | _ => defaultPort scheme

/-- The empty path is the root. Source: none: infrastructure. Kind: D -/
def rootPath (p : List Char) : List Char := if p = [] then ['/'] else p

/-- Source: none: infrastructure. Kind: D -/
structure Named where
  /-- Scheme. -/
  scheme : Option (List Char)
  /-- Host. -/
  host : Option (List Char)
  /-- Port. -/
  port : Option Nat
  /-- Path. -/
  path : List Char
  /-- Query. -/
  query : Option (List Char)
deriving DecidableEq

/-- What a target names. Source: none: infrastructure. Kind: D -/
def named (ref : UriRef) : Named where
  scheme := ref.scheme.map lower
  host := ref.authority.map fun a => lower (cutHost (placeOf a)).1
  port := ref.authority.bind fun a => portOf (ref.scheme.map lower) (cutHost (placeOf a)).2
  path := rootPath ref.path
  query := ref.query

section named

variable {p : List Char} {r r' : UriRef}

theorem rootPath_cons_eq_iff {t : List Char} (ht : t ≠ []) :
    rootPath ('/' :: t) = rootPath p ↔ p = '/' :: t := by
  rw [rootPath, if_neg (List.cons_ne_nil _ _), eq_comm]
  unfold rootPath
  split
  · next hp => simp [hp, Ne.symm ht]
  · exact Iff.rfl

/-- A path and what is left of it are one place when there are no dot segments in it.
Source: none: infrastructure. Kind: L -/
theorem rootPath_removeDots_iff : rootPath p = rootPath (removeDots p) ↔ DotFree p := by
  refine ⟨fun h => ?_, fun h => by rw [removeDots_of_dotFree h]⟩
  unfold rootPath at h
  split at h
  · next hp => exact hp ▸ dotFree_nil
  · split at h
    · exact h ▸ by decide
    · exact (removeDots_eq_self_iff p).mp h.symm

/-- Targets at one authority of one scheme. Source: none: infrastructure. Kind: L -/
theorem named_eq_iff (hscheme : r.scheme.map lower = r'.scheme.map lower)
    (hauthority : r.authority = r'.authority) :
    r.named = r'.named ↔ rootPath r.path = rootPath r'.path ∧ r.query = r'.query := by
  unfold named
  rw [hscheme, hauthority, Named.mk.injEq]
  exact ⟨fun h => h.2.2.2, fun h => ⟨rfl, rfl, rfl, h⟩⟩

theorem named_removeDots_iff (r : UriRef) :
    r.named = named { r with path := removeDots r.path } ↔ DotFree r.path := by
  have h : r.named = named { r with path := removeDots r.path } ↔
      rootPath r.path = rootPath (removeDots r.path) ∧ r.query = r.query := named_eq_iff rfl rfl
  rw [h, rootPath_removeDots_iff, and_iff_left rfl]

end named

end UriRef

end Rollout.Lib
