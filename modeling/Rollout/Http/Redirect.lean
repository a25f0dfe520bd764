import Rollout.Http.Fetch
import Rollout.Lib.UriRef

/-!
# Where a redirect leads

The URL the client goes on to, beside the target of the `Location` relative to the URL it is at.

* `AbsoluteBase` — what is asked of the URL: scheme `http` or `https`, and the HTTP library reads the
  scheme and the authority that stand in it.
* `resolves_iff` — the client goes to the target exactly at the references of `Resolvable`: nothing
  but a scheme and the root of the authority is taken from the base, and dot segments stay.
-/

namespace Rollout.Http

open Rollout.Lib Rollout.Lib.UriRef

/-! ## The two targets -/

/-- An absolute URL the HTTP library reads. Source: `rollout-harness-tool/src/http/mod.rs`
`resolve_redirect` (`hyper::Uri`). Kind: D -/
structure AbsoluteBase [HttpLib] (current : String) (scheme authority : List Char) : Prop where
  scheme_eq : (parse current.toList).scheme.map lower = some scheme
  http : scheme = "http".toList ∨ scheme = "https".toList
  authority_eq : (parse current.toList).authority = some authority
  reads : ∃ uri, HttpLib.parse current = .ok uri ∧ uri.scheme = some (String.ofList scheme) ∧
    uri.authority = some (String.ofList authority)

/-- The client goes on to a URL that names what the target of the reference names.
Source: `rollout-harness-tool/src/http/mod.rs` `resolve_redirect`. Kind: D -/
def Resolves [HttpLib] (current location : String) : Prop :=
  ∃ url, resolveRedirect current location = .ok url ∧
    (parse url.toList).named =
      ((parse current.toList).resolve (parse location.toList)).named

/-- The references the client resolves. A location with `://` in it is taken as it is; another one is
a path behind the authority of the base. Source: `rollout-harness-tool/src/http/mod.rs`
`resolve_redirect`. Kind: D -/
def Resolvable (base ref : UriRef) (location : List Char) : Prop :=
  if "://".toList <:+: location then ref.scheme.isSome ∧ DotFree ref.path
  else if ref.scheme.isSome ∨ ref.authority.isSome then False
  else if ref.path = [] then rootPath base.path = ['/'] ∧ (ref.query.isSome ∨ base.query = none)
  else DotFree ref.path ∧ (ref.path.head? = some '/' ∨ base.path = [] ∨
    removeDots (base.path.rdropWhile (· ≠ '/')) = ['/'])

instance (base ref : UriRef) (location : List Char) : Decidable (Resolvable base ref location) :=
  inferInstanceAs (Decidable (ite _ _ _))

/-- A location without the slash it starts with. Source: `rollout-harness-tool/src/http/mod.rs`
`resolve_redirect`. Kind: D -/
def behindSlash : List Char → List Char
  | '/' :: location => location
  | location => location

theorem behindSlash_cases (location : List Char) :
    location = '/' :: behindSlash location ∨
      behindSlash location = location ∧ location.head? ≠ some '/' := by
  unfold behindSlash
  split
  · exact .inl rfl
  · next hnot =>
    refine .inr ⟨rfl, fun h => ?_⟩
    cases location with
    | nil => cases h
    | cons c t => exact hnot t (by rw [Option.some.inj h])

theorem startsWith_slash_iff (location : String) :
    location.startsWith "/" = true ↔ location.toList.head? = some '/' := by
  rw [String.startsWith_string_iff, show "/".toList = ['/'] from rfl]
  cases location.toList with
  | nil => simp
  | cons c t => simp [eq_comm]

section redirect

variable [HttpLib] {current location : String} {scheme authority : List Char}

theorem resolveRedirect_of_hasScheme (h : hasScheme location = true) :
    resolveRedirect current location = .ok location := by
  unfold resolveRedirect
  rw [if_pos h]
  rfl

/-- The URL of a location without `://`. Source: `rollout-harness-tool/src/http/mod.rs`
`resolve_redirect`. Kind: L -/
theorem resolveRedirect_relative (hbase : AbsoluteBase current scheme authority)
    (h : hasScheme location = false) : ∃ url, resolveRedirect current location = .ok url ∧
      url.toList =
        scheme ++ ':' :: '/' :: '/' :: (authority ++ '/' :: behindSlash location.toList) := by
  obtain ⟨uri, hread, hscheme, hauthority⟩ := hbase.reads
  have hparse : parseUri current = .ok uri := by
    unfold parseUri
    rw [hread]
    rfl
  have hrun : resolveRedirect current location =
      .ok (if location.startsWith "/" then
        String.ofList scheme ++ "://" ++ String.ofList authority ++ location
      else String.ofList scheme ++ "://" ++ String.ofList authority ++ "/" ++ location) := by
    simp only [resolveRedirect, h, hparse, hauthority, hscheme, bind, Except.bind, pure, Except.pure,
      Bool.false_eq_true, if_false, Option.getD_some]
    split
    · rfl
    · rfl
  refine ⟨_, hrun, ?_⟩
  rcases behindSlash_cases location.toList with hslash | ⟨hsame, hslash⟩
  · rw [if_pos ((startsWith_slash_iff location).mpr (by rw [hslash]; rfl)), ← hslash]
    simp
  · rw [if_neg fun h => hslash ((startsWith_slash_iff location).mp h), hsame]
    simp

/-- What that URL is read as. Source: `rollout-harness-tool/src/http/mod.rs` `resolve_redirect`.
Kind: L -/
theorem parse_behindSlash (hbase : AbsoluteBase current scheme authority) (text : List Char) :
    parse (scheme ++ ':' :: '/' :: '/' :: (authority ++ '/' :: behindSlash text)) =
      ⟨some scheme, some authority, '/' :: hier (behindSlash text), (parse text).query,
        (parse text).fragment⟩ := by
  have hs : isScheme scheme = true := by
    rcases hbase.http with h | h <;> rw [h] <;> decide
  rw [parse_absolute hs (notMem_authority hbase.authority_eq)]
  rcases behindSlash_cases text with hslash | ⟨hsame, -⟩
  · obtain ⟨-, hquery, hfragment⟩ := parse_append (s := ['/']) (by decide) (by decide) (behindSlash text)
    rw [← hquery, ← hfragment, List.singleton_append, ← hslash]
  · rw [hsame]

theorem lower_scheme (hbase : AbsoluteBase current scheme authority) : lower scheme = scheme := by
  rcases hbase.http with h | h <;> rw [h] <;> decide

omit [HttpLib] in
/-- A scheme in a location without `://` stands without an authority.
Source: `rollout-harness-tool/src/http/mod.rs` `resolve_redirect`. Kind: L -/
theorem authority_of_not_hasScheme (h : hasScheme location = false)
    (hscheme : (parse location.toList).scheme.isSome) :
    (parse location.toList).authority = none := by
  obtain ⟨s, hs⟩ := Option.isSome_iff_exists.mp hscheme
  obtain ⟨-, rest, hhier, hauthority⟩ := exists_of_scheme hs
  rw [hauthority]
  rcases cutAuthority_cases rest with hcut | ⟨t, hcut, rfl⟩
  · rw [hcut]
  · refine absurd ?_ (of_decide_eq_false h)
    have hinfix : "://".toList <:+: hier location.toList := ⟨s, t, by rw [hhier]; simp⟩
    exact hinfix.trans (prefix_hier _).isInfix

/-- A location with `://` in it. Source: `rollout-harness-tool/src/http/mod.rs` `resolve_redirect`.
Kind: L -/
theorem resolves_of_hasScheme (hbase : AbsoluteBase current scheme authority)
    (h : hasScheme location = true) : Resolves current location ↔
      (parse location.toList).scheme.isSome ∧ DotFree (parse location.toList).path := by
  have hresolves : Resolves current location ↔ (parse location.toList).named =
      ((parse current.toList).resolve (parse location.toList)).named := by
    unfold Resolves
    rw [resolveRedirect_of_hasScheme h]
    exact ⟨fun ⟨url, hok, hnamed⟩ => Except.ok.inj hok ▸ hnamed, fun hnamed => ⟨_, rfl, hnamed⟩⟩
  rw [hresolves]
  cases hscheme : (parse location.toList).scheme with
  | none =>
      refine iff_of_false (fun hnamed => ?_) (by simp)
      have hnone := congrArg Named.scheme hnamed
      simp only [named, resolve_scheme hscheme, hbase.scheme_eq, hscheme] at hnone
      cases hnone
  | some s =>
      rw [resolve_of_scheme _ (by rw [hscheme]; rfl), named_removeDots_iff]
      simp

/-- A location without `://`, from what its URL is read as.
Source: `rollout-harness-tool/src/http/mod.rs` `resolve_redirect`. Kind: L -/
theorem resolves_of_not_hasScheme (hbase : AbsoluteBase current scheme authority)
    (h : hasScheme location = false) : Resolves current location ↔
      UriRef.named ⟨some scheme, some authority, '/' :: hier (behindSlash location.toList),
        (parse location.toList).query, (parse location.toList).fragment⟩ =
        ((parse current.toList).resolve (parse location.toList)).named := by
  obtain ⟨url, hok, hurl⟩ := resolveRedirect_relative hbase h
  have hparse := parse_behindSlash hbase location.toList
  rw [← hurl] at hparse
  rw [← hparse]
  unfold Resolves
  rw [hok]
  exact ⟨fun ⟨url', hok', hnamed⟩ => Except.ok.inj hok' ▸ hnamed, fun hnamed => ⟨url, rfl, hnamed⟩⟩

omit [HttpLib] in
/-- Behind the slash the client puts in front, a location that is all path has one more at most.
Source: `rollout-harness-tool/src/http/mod.rs` `resolve_redirect`. Kind: L -/
theorem slash_hier_behindSlash (text : List Char) : '/' :: hier (behindSlash text) =
    if (hier text).head? = some '/' then hier text else '/' :: hier text := by
  rcases behindSlash_cases text with hslash | ⟨hsame, hslash⟩
  · have hhier : hier text = '/' :: hier (behindSlash text) := by
      conv_lhs => rw [hslash]
      exact hier_slash _
    rw [hhier]
    rfl
  · rw [hsame, if_neg]
    intro hhead
    obtain ⟨rest, hrest⟩ := prefix_hier text
    cases hhier : hier text with
    | nil => rw [hhier] at hhead; cases hhead
    | cons c t =>
        rw [hhier] at hhead hrest
        exact hslash (by rw [← hrest]; exact hhead)

/-- A scheme of its own is taken for a path. Source: `rollout-harness-tool/src/http/mod.rs`
`resolve_redirect`. Kind: L -/
theorem not_resolves_of_scheme (hbase : AbsoluteBase current scheme authority)
    (h : hasScheme location = false) (hscheme : (parse location.toList).scheme.isSome) :
    ¬ Resolves current location := by
  rw [resolves_of_not_hasScheme hbase h]
  intro hnamed
  have hhost := congrArg Named.host hnamed
  rw [resolve_of_scheme _ hscheme] at hhost
  simp [named, authority_of_not_hasScheme h hscheme] at hhost

/-- A host of its own is taken for a path: the path is longer than the target's.
Source: `rollout-harness-tool/src/http/mod.rs` `resolve_redirect`. Kind: L -/
theorem not_resolves_of_authority (hbase : AbsoluteBase current scheme authority)
    (h : hasScheme location = false) (hscheme : (parse location.toList).scheme = none)
    (hauthority : (parse location.toList).authority.isSome) : ¬ Resolves current location := by
  rw [resolves_of_not_hasScheme hbase h]
  intro hnamed
  obtain ⟨a, ha⟩ := Option.isSome_iff_exists.mp hauthority
  obtain ⟨rest, hrest, -, hpath⟩ := exists_of_authority ha
  have hhier : hier location.toList = '/' :: '/' :: rest := by
    rcases cutScheme_cases (hier location.toList) with hcut | ⟨s, t, hcut, -, -⟩
    · rw [← hrest, hcut]
    · simp [parse, hcut] at hscheme
  have htarget : rootPath ('/' :: '/' :: rest) = rootPath (removeDots (rest.dropWhile (· ≠ '/'))) := by
    have hpaths := congrArg Named.path hnamed
    unfold resolve at hpaths
    rw [if_neg (by simp [hscheme]), if_pos hauthority, slash_hier_behindSlash, hhier, hpath] at hpaths
    exact hpaths
  have hlong := congrArg List.length htarget
  have hshort := length_removeDots_le (rest.dropWhile (· ≠ '/'))
  have hdrop := List.length_dropWhile_le (· ≠ '/') rest
  unfold rootPath at hlong
  rw [if_neg (List.cons_ne_nil _ _)] at hlong
  split at hlong <;> simp only [List.length_cons, List.length_nil] at hlong <;> omega

/-- A location without `://`, a scheme and a host. Source: `rollout-harness-tool/src/http/mod.rs`
`resolve_redirect`. Kind: L -/
theorem resolves_of_path (hbase : AbsoluteBase current scheme authority)
    (h : hasScheme location = false) (hscheme : (parse location.toList).scheme = none)
    (hauthority : (parse location.toList).authority = none) : Resolves current location ↔
      if (parse location.toList).path = [] then
        rootPath (parse current.toList).path = ['/'] ∧
          ((parse location.toList).query.isSome ∨ (parse current.toList).query = none)
      else DotFree (parse location.toList).path ∧
        ((parse location.toList).path.head? = some '/' ∨ (parse current.toList).path = [] ∨
          removeDots ((parse current.toList).path.rdropWhile (· ≠ '/')) = ['/']) := by
  have hlower : (some scheme).map lower = (parse current.toList).scheme.map lower := by
    rw [hbase.scheme_eq, Option.map_some, lower_scheme hbase]
  have hauthority' : some authority = (parse current.toList).authority := hbase.authority_eq.symm
  rw [resolves_of_not_hasScheme hbase h, slash_hier_behindSlash,
    ← path_of_relative hscheme hauthority, resolve_of_path _ hscheme hauthority]
  by_cases hpath : (parse location.toList).path = []
  · rw [if_pos hpath, if_pos hpath, if_neg (by rw [hpath]; simp), hpath,
      named_eq_iff hlower hauthority']
    refine and_congr eq_comm ?_
    cases (parse location.toList).query with
    | none => simp [eq_comm]
    | some q => simp
  · rw [if_neg hpath, if_neg hpath]
    by_cases hhead : (parse location.toList).path.head? = some '/'
    · rw [if_pos hhead, if_pos hhead, named_eq_iff hlower hauthority', rootPath_removeDots_iff]
      simp [hhead]
    · rw [if_neg hhead, if_neg hhead, named_eq_iff hlower hauthority', and_iff_left rfl]
      dsimp only
      rw [rootPath_cons_eq_iff hpath]
      unfold merge
      rcases rooted_of_authority hbase.authority_eq with hbasePath | ⟨t, hbasePath⟩
      · rw [if_pos ⟨by rw [hbase.authority_eq]; rfl, hbasePath⟩, removeDots_eq_self_iff,
          dotFree_slash]
        simp [hbasePath]
      · rw [if_neg fun hnil => by simp [hbasePath] at hnil, hbasePath, removeDots_directory_iff]
        simp [hhead]

/-- **The redirects the client resolves.** From an absolute URL it goes on to what the target of the
location names exactly at the `Resolvable` ones.
Source: `rollout-harness-tool/src/http/mod.rs` `resolve_redirect`. Kind: C -/
theorem resolves_iff (hbase : AbsoluteBase current scheme authority) (location : String) :
    Resolves current location ↔
      Resolvable (parse current.toList) (parse location.toList) location.toList := by
  unfold Resolvable
  cases h : hasScheme location with
  | true =>
      rw [if_pos (of_decide_eq_true h)]
      exact resolves_of_hasScheme hbase h
  | false =>
      rw [if_neg (of_decide_eq_false h)]
      cases hscheme : (parse location.toList).scheme with
      | some s =>
          rw [if_pos (by simp)]
          exact iff_false_intro (not_resolves_of_scheme hbase h (by rw [hscheme]; rfl))
      | none =>
          cases hauthority : (parse location.toList).authority with
          | some a =>
              rw [if_pos (by simp)]
              exact iff_false_intro
                (not_resolves_of_authority hbase h hscheme (by rw [hauthority]; rfl))
          | none =>
              rw [if_neg (by simp)]
              exact resolves_of_path hbase h hscheme hauthority

end redirect

/-! ## Two redirects -/

/-- A library that reads a URL by its generic syntax. Source: none: infrastructure. Kind: D -/
@[reducible] def genericHttp : HttpLib where
  showAddr _ := ""
  parse url :=
    let ref := UriRef.parse url.toList
    .ok ⟨ref.scheme.map (String.ofList ∘ lower), ref.authority.map String.ofList, none,
      ref.authority.map String.ofList, some (String.ofList (rootPath ref.path))⟩
  serverName _ := .ok ()
  build _ := .ok ()

theorem absoluteBase_page :
    @AbsoluteBase genericHttp "http://a/b/c" "http".toList "a".toList := by
  refine @AbsoluteBase.mk genericHttp _ _ _ (by decide +kernel) (.inl rfl) (by decide +kernel) ⟨_, rfl, ?_, ?_⟩
  · decide +kernel
  · decide +kernel

theorem resolves_rooted : @Resolves genericHttp "http://a/b/c" "/d" := by
  let _ := genericHttp
  refine (resolves_iff absoluteBase_page "/d").mpr ?_
  decide +kernel

/-- **A sibling of the page is looked for at the root**, and another host in the page's own.
Source: `rollout-harness-tool/src/http/mod.rs` `resolve_redirect`. Kind: C -/
theorem sibling_astray : ¬ @Resolves genericHttp "http://a/b/c" "d" ∧
    ¬ @Resolves genericHttp "http://a/b/c" "//h/d" := by
  let _ := genericHttp
  constructor
  · rw [resolves_of_not_hasScheme absoluteBase_page (by decide +kernel)]
    decide +kernel
  · rw [resolves_of_not_hasScheme absoluteBase_page (by decide +kernel)]
    decide +kernel

end Rollout.Http
