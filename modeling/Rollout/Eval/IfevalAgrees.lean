import Mathlib.Algebra.Group.Nat.Defs
import Mathlib.Data.List.Chain
import Rollout.Eval.Ifeval
import Rollout.Lib.Separated

/-!
# When the checks agree with the reference

* `strayClosers`, `lostClosers` — the brackets only one of the two counts; `placeholders_iff`,
  `placeholders_iff_of_short`: a response with fewer than 2^31 brackets has none of the second kind.
* `BulletsPlain` — what lines with markers have to look like; `bullets_iff`.
* `WordsPlain` — words and the parts between white space come out even; `words_iff`.
* `agrees_iff` — the checks agree exactly on the responses that meet all three.
-/

namespace Rollout.Eval

open Rollout.Lib

/-! ## Placeholders -/

/-- There is a bracket to close on the line. Source: none: infrastructure. Kind: D -/
def nextOpen (isOpen : Bool) (c : Char) : Bool := c == '[' || (isOpen && c != '\n' && c != ']')

/-- How many characters have a property, given the depth and the bracket before them.
Source: none: infrastructure. Kind: D -/
def countClosers (f : BitVec 32 → Bool → Char → Bool) : BitVec 32 → Bool → List Char → Nat
  | _, _, [] => 0
  | depth, isOpen, c :: cs =>
      (if f depth isOpen c then 1 else 0) + countClosers f (nextDepth depth c) (nextOpen isOpen c) cs

/-- The brackets that close an open one, although none was opened since the last closing bracket or
newline. Source: `rollout-harness-eval/src/suites/ifeval.rs` `count_placeholders`. Kind: D -/
def strayClosers (s : List Char) : Nat :=
  countClosers (fun depth isOpen c => closes depth c && !isOpen) 0 false s

/-- The brackets after one that was opened since the last closing bracket or newline, at a depth that
has wrapped round. Source: `rollout-harness-eval/src/suites/ifeval.rs` `count_placeholders`.
Kind: D -/
def lostClosers (s : List Char) : Nat :=
  countClosers (fun depth isOpen c => isOpen && c == ']' && !closes depth c) 0 false s

theorem countPlaceholders_eq (s : List Char) :
    countPlaceholders s = countClosers (fun depth _ c => closes depth c) 0 false s := by
  have hfold : ∀ (s : List Char) (count : Nat) (depth : BitVec 32) (isOpen : Bool),
      (s.foldl placeholderStep (count, depth)).1 =
        count + countClosers (fun depth _ c => closes depth c) depth isOpen s := by
    intro s
    induction s with
    | nil => intro count depth isOpen; rfl
    | cons c cs ih =>
        intro count depth isOpen
        rw [List.foldl_cons, ih _ _ (nextOpen isOpen c), countClosers, placeholderStep]
        cases closes depth c with
        | true => simp [Nat.add_assoc]
        | false => simp
  rw [countPlaceholders, hfold s 0 0 false, Nat.zero_add]

theorem count_placeholder_eq (s : List Char) :
    PythonRe.placeholder.count s = countClosers (fun _ isOpen c => isOpen && c == ']') 0 false s := by
  have hclosing : ∀ (s : List Char) (depth : BitVec 32) (isOpen : Bool),
      countClosing (fun c => c == '[') (fun c => c != '\n') (fun c => c == ']') isOpen s =
        countClosers (fun _ isOpen c => isOpen && c == ']') depth isOpen s := by
    intro s
    induction s with
    | nil => intro depth isOpen; rfl
    | cons c cs ih =>
        intro depth isOpen
        rw [countClosing_cons, countClosers]
        by_cases hc : c = ']'
        · subst hc
          cases isOpen with
          | true => simpa [nextOpen] using ih _ _
          | false => simpa [nextOpen] using ih _ _
        · have hne : (c != ']') = true := bne_iff_ne.mpr hc
          simpa [nextOpen, hc, hne] using ih _ _
  rw [PythonRe.placeholder, Regex.count_between]
  exact hclosing s 0 false

theorem countClosers_both (f g : BitVec 32 → Bool → Char → Bool) (depth : BitVec 32) (isOpen : Bool)
    (s : List Char) :
    countClosers f depth isOpen s + countClosers (fun d o c => g d o c && !f d o c) depth isOpen s =
      countClosers g depth isOpen s +
        countClosers (fun d o c => f d o c && !g d o c) depth isOpen s := by
  induction s generalizing depth isOpen with
  | nil => rfl
  | cons c cs ih =>
      have hrest := ih (nextDepth depth c) (nextOpen isOpen c)
      have hhere : (if f depth isOpen c then 1 else 0) +
          (if g depth isOpen c && !f depth isOpen c then 1 else 0) =
          (if g depth isOpen c then 1 else 0) +
            if f depth isOpen c && !g depth isOpen c then 1 else 0 := by
        by_cases hf : f depth isOpen c = true
        · by_cases hg : g depth isOpen c = true <;> simp [hf, hg]
        · by_cases hg : g depth isOpen c = true <;> simp [hf, hg]
      simp only [countClosers]
      omega

/-- **When the placeholders agree.** Source: `rollout-harness-eval/src/suites/ifeval.rs`
`count_placeholders`. Kind: P -/
theorem placeholders_iff (s : List Char) :
    countPlaceholders s = PythonRe.placeholder.count s ↔ strayClosers s = lostClosers s := by
  have hboth := countClosers_both (fun depth _ c => closes depth c)
    (fun _ isOpen c => isOpen && c == ']') 0 false s
  have hstray : strayClosers s = countClosers (fun depth isOpen c =>
      closes depth c && !(isOpen && c == ']')) 0 false s := by
    unfold strayClosers
    congr
    funext depth isOpen c
    unfold closes
    cases c == ']' <;> simp
  rw [countPlaceholders_eq, count_placeholder_eq, hstray, lostClosers]
  omega

/-- A response in which the depth does not wrap round has no such brackets.
Source: `rollout-harness-eval/src/suites/ifeval.rs` `count_placeholders`. Kind: L -/
theorem lostClosers_eq_zero {s : List Char} (h : s.count '[' < 2 ^ 31) : lostClosers s = 0 := by
  have hfrom : ∀ (s : List Char) (depth : BitVec 32) (isOpen : Bool),
      depth.toNat + s.count '[' < 2 ^ 31 → (isOpen = true → 0 < depth.toNat) →
        countClosers (fun depth isOpen c => isOpen && c == ']' && !closes depth c) depth isOpen s = 0 := by
    intro s
    induction s with
    | nil => intro depth isOpen _ _; rfl
    | cons c cs ih =>
        intro depth isOpen hdepth hopen
        have hint : depth.toInt = depth.toNat := BitVec.toInt_eq_toNat_of_lt (by omega)
        have hhere : (isOpen && c == ']' && !closes depth c) = false := by
          by_cases hmark : isOpen = true ∧ c = ']'
          · have hpos : 0 < depth.toInt := by
              rw [hint]
              exact Int.natCast_pos.mpr (hopen hmark.1)
            simp [closes, hmark.2, hpos]
          · simpa using fun ho hc => absurd ⟨ho, hc⟩ hmark
        rw [countClosers, hhere, if_neg Bool.false_ne_true, Nat.zero_add]
        by_cases hc : c = '['
        · subst hc
          have hnext : (nextDepth depth '[').toNat = depth.toNat + 1 := by
            rw [nextDepth, if_pos rfl, BitVec.toNat_add, Nat.mod_eq_of_lt]
            · rfl
            · simp only [List.count_cons_self] at hdepth
              simp
              omega
          rw [List.count_cons_self] at hdepth
          exact ih _ _ (by omega) fun _ => by omega
        · rw [List.count_cons_of_ne hc] at hdepth
          cases hclose : closes depth c with
          | true =>
              have hmark : c = ']' ∧ 0 < depth.toInt := by simpa [closes] using hclose
              have hnext : nextDepth depth c = depth - 1 := by simp [nextDepth, hc, hclose]
              have hlt : (nextDepth depth c).toNat ≤ depth.toNat := by
                rw [hnext]
                bv_omega
              refine ih _ _ (by omega) fun ho => ?_
              simp [nextOpen, hmark.1] at ho
          | false =>
              have hnext : nextDepth depth c = depth := by simp [nextDepth, hc, hclose]
              rw [hnext]
              refine ih _ _ hdepth fun ho => hopen ?_
              have hopen' : isOpen = true ∧ c ≠ '\n' ∧ c ≠ ']' := by
                simpa [nextOpen, hc, and_assoc] using ho
              exact hopen'.1
  exact hfrom s 0 false (by simpa using h) (by simp)

theorem countClosers_eq_zero_iff {f : BitVec 32 → Bool → Char → Bool} {depth : BitVec 32}
    {isOpen : Bool} {s : List Char} :
    countClosers f depth isOpen s = 0 ↔ ∀ pre c post, s = pre ++ c :: post →
      f (pre.foldl nextDepth depth) (pre.foldl nextOpen isOpen) c = false := by
  induction s generalizing depth isOpen with
  | nil => simp [countClosers]
  | cons c cs ih =>
      rw [countClosers, Nat.add_eq_zero_iff, ih]
      constructor
      · rintro ⟨hhere, hrest⟩ pre d post heq
        rcases pre with - | ⟨x, pre⟩
        · obtain ⟨rfl, -⟩ := List.cons.inj heq
          simpa using hhere
        · obtain ⟨rfl, rfl⟩ := List.cons.inj heq
          exact hrest pre d post rfl
      · intro h
        refine ⟨?_, fun pre d post heq => h (c :: pre) d post (congrArg (c :: ·) heq)⟩
        have hhere : f depth isOpen c = false := h [] c cs rfl
        rw [hhere]
        rfl

/-- **When the placeholders of a response with fewer than 2^31 brackets agree**: each bracket that
closes an open one comes after one that was opened since the last closing bracket or newline.
Source: `rollout-harness-eval/src/suites/ifeval.rs` `count_placeholders`. Kind: P -/
theorem placeholders_iff_of_short {s : List Char} (h : s.count '[' < 2 ^ 31) :
    countPlaceholders s = PythonRe.placeholder.count s ↔ ∀ pre c post, s = pre ++ c :: post →
      closes (pre.foldl nextDepth 0) c = true → pre.foldl nextOpen false = true := by
  rw [placeholders_iff, lostClosers_eq_zero h, strayClosers, countClosers_eq_zero_iff]
  refine forall₃_congr fun pre c post => imp_congr_right fun _ => ?_
  cases closes (pre.foldl nextDepth 0) c with
  | true => simp
  | false => simp

/-! ## Lines -/

/-- The line starts with a star and a space. Source: `rollout-harness-eval/src/suites/ifeval.rs`
`check_instruction` (`bullets`). Kind: D -/
def isStar (line : List Char) : Bool := ['*', ' '].isPrefixOf (trimStart line)

/-- The line starts with a dash and a space. Source: `rollout-harness-eval/src/suites/ifeval.rs`
`check_instruction` (`bullets`). Kind: D -/
def isDash (line : List Char) : Bool := ['-', ' '].isPrefixOf (trimStart line)

/-- A carriage return at its end is no part of a bullet. Source: none: infrastructure. Kind: L -/
theorem isPrefixOf_trimStart_return (mark : Char) (line : List Char) :
    [mark, ' '].isPrefixOf (trimStart (line ++ ['\r'])) = [mark, ' '].isPrefixOf (trimStart line) := by
  unfold trimStart
  rw [List.dropWhile_append]
  rcases hdrop : line.dropWhile isWhitespace with - | ⟨c, - | ⟨d, cs⟩⟩
  · rfl
  · simp [List.isPrefixOf]
  · simp [List.isPrefixOf]

theorem isBullet_stripReturn (line : List Char) : isBullet (stripReturn line) = isBullet line := by
  unfold stripReturn stripSuffix
  split
  · next h =>
    obtain ⟨m, rfl⟩ := List.isSuffixOf_iff_suffix.mp h
    unfold isBullet
    rw [isPrefixOf_trimStart_return, isPrefixOf_trimStart_return]
    simp
  · rfl

/-- The bullets are those of the lines as they are.
Source: `rollout-harness-eval/src/suites/ifeval.rs` `check_instruction`. Kind: L -/
theorem countBullets_eq (response : List Char) :
    countBullets response =
      (response.splitOn '\n').countP isStar + (response.splitOn '\n').countP isDash := by
  have hboth : ∀ parts : List (List Char),
      parts.countP isBullet = parts.countP isStar + parts.countP isDash := by
    intro parts
    induction parts with
    | nil => rfl
    | cons line parts ih =>
        have hline : isBullet line = (isStar line || isDash line) := rfl
        have hnot : ¬ (isStar line = true ∧ isDash line = true) := by
          unfold isStar isDash
          rcases trimStart line with - | ⟨c, cs⟩
          · simp
          · rintro ⟨hstar, hdash⟩
            have hc : '*' = c ∧ '-' = c := by
              simp only [List.isPrefixOf, Bool.and_eq_true, beq_iff_eq] at hstar hdash
              exact ⟨hstar.1, hdash.1⟩
            exact absurd (hc.1.trans hc.2.symm) (by decide)
        rw [List.countP_cons, List.countP_cons, List.countP_cons, ih, hline]
        cases hstar : isStar line with
        | true =>
            cases hdash : isDash line with
            | true => exact absurd ⟨hstar, hdash⟩ hnot
            | false => simp; omega
        | false => simp; omega
  have hsplit : ∃ parts last, response.splitOn '\n' = parts ++ [last] :=
    ⟨_, _, (List.dropLast_append_getLast (List.splitOn_ne_nil '\n' response)).symm⟩
  obtain ⟨parts, last, hsplit⟩ := hsplit
  have hlast : ([last].filter fun last => !last.isEmpty).countP isBullet =
      [last].countP isBullet := by
    cases last with
    | nil => rfl
    | cons c cs => rfl
  rw [← hboth, countBullets, lines, hsplit]
  simp only [List.dropLast_concat, List.getLast?_concat, Option.toList_some, List.countP_append,
    List.countP_map, hlast]
  congr 1
  exact List.countP_congr fun line _ => by simp [isBullet_stripReturn]

section bullets

variable (re : PythonRe)

/-- The first character of the line is a star, with another character than a star after it.
Source: none: infrastructure. Kind: D -/
def starLine (line : List Char) : Bool :=
  match line.dropWhile re.isSpace with
  | '*' :: c :: _ => c != '*'
  | _ => false

/-- The line is a star. Source: none: infrastructure. Kind: D -/
def loneStar (line : List Char) : Bool := line.dropWhile re.isSpace == ['*']

/-- The first character of the line is a dash. Source: none: infrastructure. Kind: D -/
def dashLine (line : List Char) : Bool := (line.dropWhile re.isSpace).head? == some '-'

/-- **What the lines with markers look like**: a dash or a star is followed by a space, and after a
line that is a star alone comes a line with a star and a space.
Source: `rollout-harness-eval/src/suites/ifeval.rs` `check_instruction` (`bullets`). Kind: D -/
structure BulletsPlain (parts : List (List Char)) : Prop where
  dashes : ∀ line ∈ parts, dashLine re line = true → isDash line = true
  stars : ∀ line ∈ parts, starLine re line = true → isStar line = true
  lone : parts.IsChain fun line next => loneStar re line = true → isStar next = true

/-- The stars the reference counts, line by line; a star alone takes the next line with it.
Source: none: infrastructure. Kind: D -/
def countStars : List (List Char) → Nat
  | [] => 0
  | [line] => if starLine re line then 1 else 0
  | line :: next :: parts =>
      if loneStar re line then 1 + countStars parts
      else (if starLine re line then 1 else 0) + countStars (next :: parts)

variable {re}

/-- A marker that is found after the white space of the one is found after that of the other.
Source: none: infrastructure. Kind: L -/
theorem dropWhile_of_trimStart (hre : re.Documented) {mark : Char} (hmark : re.isSpace mark = false)
    {line : List Char} (h : [mark, ' '].isPrefixOf (trimStart line) = true) :
    ∃ cs, line.dropWhile re.isSpace = mark :: ' ' :: cs := by
  obtain ⟨cs, hcs⟩ := List.isPrefixOf_iff_prefix.mp h
  refine ⟨cs, ?_⟩
  clear h
  unfold trimStart at hcs
  induction line with
  | nil => cases hcs
  | cons c line ih =>
      rw [List.dropWhile_cons] at hcs
      by_cases hc : isWhitespace c = true
      · rw [if_pos hc] at hcs
        rw [List.dropWhile_cons_of_pos (hre.spaces c hc)]
        exact ih hcs
      · rw [if_neg hc] at hcs
        obtain ⟨rfl, rfl⟩ := List.cons.inj hcs
        rw [List.dropWhile_cons_of_neg (by simp [hmark])]
        rfl

theorem starLine_of_isStar (hre : re.Documented) {line : List Char} (h : isStar line = true) :
    starLine re line = true ∧ loneStar re line = false := by
  obtain ⟨cs, hcs⟩ := dropWhile_of_trimStart hre hre.star h
  exact ⟨by simp [starLine, hcs], by simp [loneStar, hcs]⟩

theorem dashLine_of_isDash (hre : re.Documented) {line : List Char} (h : isDash line = true) :
    dashLine re line = true := by
  obtain ⟨cs, hcs⟩ := dropWhile_of_trimStart hre hre.dash h
  simp [dashLine, hcs]

/-- The reference counts at least the stars that are followed by a space, and exactly them when the
lines are plain. Source: none: infrastructure. Kind: L -/
theorem countP_isStar (hre : re.Documented) (parts : List (List Char)) :
    parts.countP isStar ≤ countStars re parts ∧
      (parts.countP isStar = countStars re parts ↔
        (∀ line ∈ parts, starLine re line = true → isStar line = true) ∧
          parts.IsChain fun line next => loneStar re line = true → isStar next = true) := by
  induction parts using countStars.induct re with
  | case1 => simp [countStars]
  | case2 line hs =>
      cases hstar : isStar line with
      | true => simp [countStars, hstar, hs]
      | false => simp [countStars, hstar, hs]
  | case3 line hs =>
      have hstar : isStar line = false :=
        Bool.eq_false_iff.mpr fun h => hs (starLine_of_isStar hre h).1
      simp [countStars, hstar, hs]
  | case4 line next parts hlone ih =>
      -- The star alone counts, and takes the next line with it: that one has to count as well.
      have hline : isStar line = false :=
        Bool.eq_false_iff.mpr fun h => by simp [(starLine_of_isStar hre h).2] at hlone
      have hdrop : line.dropWhile re.isSpace = ['*'] := by simpa [loneStar] using hlone
      have hs : starLine re line = false := by simp [starLine, hdrop]
      obtain ⟨hle, hiff⟩ := ih
      cases hnext : isStar next with
      | true =>
          have hnextLine := starLine_of_isStar hre hnext
          have hchain : (next :: parts).IsChain
              (fun line next => loneStar re line = true → isStar next = true) ↔ parts.IsChain
                fun line next => loneStar re line = true → isStar next = true := by
            rw [List.isChain_cons]
            simp [hnextLine.2]
          rw [List.isChain_cons_cons, hchain]
          simp only [countStars, hlone, List.countP_cons, hline, hnext, List.forall_mem_cons, hs]
          simp only [if_true, Bool.false_eq_true, if_false, false_implies, true_and, implies_true,
            ← hiff]
          omega
      | false =>
          rw [List.isChain_cons_cons]
          simp only [countStars, hlone, List.countP_cons, hline, hnext, if_true, Bool.false_eq_true,
            if_false]
          refine ⟨by omega, fun h => by omega, fun h => absurd (h.2.1 trivial) id⟩
  | case5 line next parts hlone ih =>
      obtain ⟨hle, hiff⟩ := ih
      have hline : isStar line = true → starLine re line = true ∧ loneStar re line = false :=
        starLine_of_isStar hre
      rw [List.isChain_cons_cons, List.forall_mem_cons]
      have hcount : (line :: next :: parts).countP isStar =
          (next :: parts).countP isStar + if isStar line then 1 else 0 := List.countP_cons
      have hstars : countStars re (line :: next :: parts) =
          (if starLine re line then 1 else 0) + countStars re (next :: parts) := by
        rw [countStars, if_neg hlone]
      rw [hcount, hstars]
      have hpass : (loneStar re line = true → isStar next = true) ↔ True :=
        iff_true_intro fun h => absurd h hlone
      rw [hpass, true_and, and_assoc, ← hiff]
      cases hstar : isStar line with
      | true => simp [hline hstar]; omega
      | false =>
          cases hs : starLine re line with
          | true => simp; omega
          | false => simp; omega

/-- The reference counts at least the dashes that are followed by a space.
Source: none: infrastructure. Kind: L -/
theorem countP_isDash (hre : re.Documented) (parts : List (List Char)) :
    parts.countP isDash ≤ parts.countP (dashLine re) ∧
      (parts.countP isDash = parts.countP (dashLine re) ↔
        ∀ line ∈ parts, dashLine re line = true → isDash line = true) := by
  induction parts with
  | nil => simp
  | cons line parts ih =>
      obtain ⟨hle, hiff⟩ := ih
      rw [List.forall_mem_cons, ← hiff, List.countP_cons, List.countP_cons]
      cases hdash : isDash line with
      | true => simp [dashLine_of_isDash hre hdash, hle]
      | false =>
          cases hline : dashLine re line with
          | true => simp; omega
          | false => simp [hle]

/-! ## The patterns line by line -/

theorem isSpace_newline (hre : re.Documented) : re.isSpace '\n' = true := hre.spaces _ (by decide)

theorem isSpace_ne {mark : Char} (hmark : re.isSpace mark = false) :
    ∀ c, re.isSpace c = true → ¬ (c == mark) = true := by
  intro c hc hmark'
  obtain rfl := beq_iff_eq.mp hmark'
  rw [hmark] at hc
  cases hc

section patterns

variable {prev : Option Char} {line : List Char} {parts : List (List Char)}

theorem newline_notMem_of_dropWhile {c : Char} {cs : List Char} (hline : '\n' ∉ line)
    (hdrop : line.dropWhile re.isSpace = c :: cs) : '\n' ∉ cs := fun h =>
  hline ((List.dropWhile_sublist _).subset (hdrop ▸ List.mem_cons_of_mem _ h))

theorem joinTail_length_lt {c : Char} {cs : List Char}
    (hdrop : line.dropWhile re.isSpace = c :: cs) :
    (joinTail parts).length < (line ++ joinTail parts).length := by
  have hpos : line ≠ [] := fun h => by simp [h] at hdrop
  have hlength := List.length_pos_iff.mpr hpos
  rw [List.length_append]
  omega

/-- The dash on a line. Source: none: infrastructure. Kind: L -/
theorem countFrom_dash (hre : re.Documented) (hprev : prev = none ∨ prev = some '\n')
    (hline : '\n' ∉ line) :
    re.dash.countFrom ⟨prev, line ++ joinTail parts⟩ =
      (if dashLine re line then 1 else 0) + re.dash.countNext parts := by
  have hne := isSpace_ne hre.dash
  cases hdrop : line.dropWhile re.isSpace with
  | nil =>
      have hdash : dashLine re line = false := by simp [dashLine, hdrop]
      rw [hdash, PythonRe.dash, Regex.countFrom_blank hne (isSpace_newline hre) hprev hline
        (List.dropWhile_eq_nil_iff.mp hdrop)]
      simp
  | cons c cs =>
      have hends := Regex.ends_onLine_of_dropWhile (k := .toLineEnd) hne hprev hdrop (joinTail parts)
      have hcs := newline_notMem_of_dropWhile hline hdrop
      by_cases hc : c = '-'
      · subst hc
        have hfirst : (re.dash.ends ⟨prev, line ++ joinTail parts⟩).head? =
            some ⟨lastChar (some '-') cs, joinTail parts⟩ := by
          rw [PythonRe.dash, hends, ← Regex.head?_ends_toLineEnd hcs]
          simp [Regex.ends]
        have hdash : dashLine re line = true := by simp [dashLine, hdrop]
        rw [Regex.countFrom_of_match hfirst (joinTail_length_lt hdrop), hdash, PythonRe.dash,
          Regex.countFrom_joinTail hne (isSpace_newline hre)]
        rfl
      · have hdash : dashLine re line = false := by simp [dashLine, hdrop, hc]
        rw [hdash, PythonRe.dash, Regex.countFrom_line hline]
        · simp
        · rw [hends]
          simp [Regex.ends, hc]

/-- A line on which the star is not found. Source: none: infrastructure. Kind: L -/
theorem countFrom_star_of_none (hre : re.Documented) (hprev : prev = none ∨ prev = some '\n')
    (hline : '\n' ∉ line) (hstar : starLine re line = false)
    (hlone : loneStar re line = true → parts = []) :
    re.star.countFrom ⟨prev, line ++ joinTail parts⟩ = re.star.countNext parts := by
  have hne := isSpace_ne hre.star
  cases hdrop : line.dropWhile re.isSpace with
  | nil =>
      exact Regex.countFrom_blank hne (isSpace_newline hre) hprev hline
        (List.dropWhile_eq_nil_iff.mp hdrop)
  | cons c cs =>
      refine Regex.countFrom_line hline ?_
      rw [Regex.ends_onLine_of_dropWhile hne hprev hdrop]
      by_cases hc : c = '*'
      · subst hc
        rcases cs with - | ⟨d, cs⟩
        · obtain rfl := hlone (by simp [loneStar, hdrop])
          rfl
        · have hd : d = '*' := by simpa [starLine, hdrop] using hstar
          simp [Regex.ends, hd]
      · simp [Regex.ends, hc]

/-- A line on which the star is found. Source: none: infrastructure. Kind: L -/
theorem countFrom_star_of_starLine (hre : re.Documented) (hprev : prev = none ∨ prev = some '\n')
    (hline : '\n' ∉ line) (hstar : starLine re line = true) :
    re.star.countFrom ⟨prev, line ++ joinTail parts⟩ = 1 + re.star.countNext parts := by
  have hne := isSpace_ne hre.star
  unfold starLine at hstar
  split at hstar
  · next d cs hdrop =>
    have hd : ¬ d = '*' := bne_iff_ne.mp hstar
    have hcs : '\n' ∉ cs := fun h =>
      newline_notMem_of_dropWhile hline hdrop (List.mem_cons_of_mem _ h)
    have hfirst : (re.star.ends ⟨prev, line ++ joinTail parts⟩).head? =
        some ⟨lastChar (some d) cs, joinTail parts⟩ := by
      rw [PythonRe.star, Regex.ends_onLine_of_dropWhile hne hprev hdrop,
        ← Regex.head?_ends_toLineEnd hcs]
      simp [Regex.ends, hd]
    rw [Regex.countFrom_of_match hfirst (joinTail_length_lt hdrop), PythonRe.star,
      Regex.countFrom_joinTail hne (isSpace_newline hre)]
  · cases hstar

/-- A star alone on its line: the other character is the newline, and the match goes on to the end of
the next line. Source: none: infrastructure. Kind: L -/
theorem countFrom_star_of_loneStar (hre : re.Documented) (hprev : prev = none ∨ prev = some '\n')
    {next : List Char} (hnext : '\n' ∉ next) (hlone : loneStar re line = true) :
    re.star.countFrom ⟨prev, line ++ joinTail (next :: parts)⟩ = 1 + re.star.countNext parts := by
  have hne := isSpace_ne hre.star
  have hdrop : line.dropWhile re.isSpace = ['*'] := by simpa [loneStar] using hlone
  have hfirst : (re.star.ends ⟨prev, line ++ joinTail (next :: parts)⟩).head? =
      some ⟨lastChar (some '\n') next, joinTail parts⟩ := by
    rw [PythonRe.star, Regex.ends_onLine_of_dropWhile hne hprev hdrop,
      ← Regex.head?_ends_toLineEnd hnext]
    simp [Regex.ends, joinTail]
  have hlt : (joinTail parts).length < (line ++ joinTail (next :: parts)).length := by
    simp only [joinTail, List.length_append, List.length_cons]
    omega
  rw [Regex.countFrom_of_match hfirst hlt, PythonRe.star,
    Regex.countFrom_joinTail hne (isSpace_newline hre)]

/-- The stars line by line. Source: none: infrastructure. Kind: L -/
theorem countNext_star (hre : re.Documented) (hparts : ∀ line ∈ parts, '\n' ∉ line) :
    re.star.countNext parts = countStars re parts := by
  induction parts using countStars.induct re with
  | case1 => rfl
  | case2 line hs =>
      rw [Regex.countNext, countFrom_star_of_starLine hre (.inr rfl)
        (hparts _ List.mem_cons_self) hs, countStars, if_pos hs]
      rfl
  | case3 line hs =>
      rw [Regex.countNext, countFrom_star_of_none hre (.inr rfl) (hparts _ List.mem_cons_self)
        (Bool.eq_false_iff.mpr hs) fun _ => rfl, countStars, if_neg hs]
      rfl
  | case4 line next parts hlone ih =>
      rw [Regex.countNext, countFrom_star_of_loneStar hre (.inr rfl)
        (hparts _ (List.mem_cons_of_mem _ List.mem_cons_self)) hlone, countStars, if_pos hlone,
        ih fun x hx => hparts x (List.mem_cons_of_mem _ (List.mem_cons_of_mem _ hx))]
  | case5 line next parts hlone ih =>
      have hrest := ih fun x hx => hparts x (List.mem_cons_of_mem _ hx)
      have hline := hparts line List.mem_cons_self
      rw [Regex.countNext, countStars, if_neg hlone, ← hrest]
      cases hs : starLine re line with
      | true => exact countFrom_star_of_starLine hre (.inr rfl) hline hs
      | false =>
          rw [countFrom_star_of_none hre (.inr rfl) hline hs fun h => absurd h hlone]
          simp

theorem countNext_dash (hre : re.Documented) (hparts : ∀ line ∈ parts, '\n' ∉ line) :
    re.dash.countNext parts = parts.countP (dashLine re) := by
  induction parts with
  | nil => rfl
  | cons line parts ih =>
      rw [Regex.countNext, countFrom_dash hre (.inr rfl) (hparts _ List.mem_cons_self),
        ih fun x hx => hparts x (List.mem_cons_of_mem _ hx), List.countP_cons, Nat.add_comm]

/-- The start of the text is the start of a line. Source: none: infrastructure. Kind: L -/
theorem countFrom_star_start (hre : re.Documented) (hline : '\n' ∉ line)
    (hparts : ∀ line ∈ parts, '\n' ∉ line) :
    re.star.countFrom ⟨none, line ++ joinTail parts⟩ = re.star.countNext (line :: parts) := by
  by_cases hs : starLine re line = true
  · exact (countFrom_star_of_starLine hre (.inl rfl) hline hs).trans
      (countFrom_star_of_starLine hre (.inr rfl) hline hs).symm
  · have hnot := Bool.eq_false_iff.mpr hs
    by_cases hlone : loneStar re line = true
    · cases parts with
      | nil =>
          exact (countFrom_star_of_none hre (.inl rfl) hline hnot fun _ => rfl).trans
            (countFrom_star_of_none hre (.inr rfl) hline hnot fun _ => rfl).symm
      | cons next parts =>
          have hnext := hparts next List.mem_cons_self
          exact (countFrom_star_of_loneStar hre (.inl rfl) hnext hlone).trans
            (countFrom_star_of_loneStar hre (.inr rfl) hnext hlone).symm
    · exact (countFrom_star_of_none hre (.inl rfl) hline hnot fun h => absurd h hlone).trans
        (countFrom_star_of_none hre (.inr rfl) hline hnot fun h => absurd h hlone).symm

/-- What the reference counts, line by line. Source: none: infrastructure. Kind: L -/
theorem count_markers (hre : re.Documented) (s : List Char) :
    re.star.count s = countStars re (s.splitOn '\n') ∧
      re.dash.count s = (s.splitOn '\n').countP (dashLine re) := by
  have hlines : ∀ line ∈ s.splitOn '\n', '\n' ∉ line := sep_not_mem_splitOn s
  rcases hsplit : s.splitOn '\n' with - | ⟨line, parts⟩
  · exact absurd hsplit (List.splitOn_ne_nil '\n' s)
  · rw [hsplit] at hlines
    obtain ⟨hline, hparts⟩ := List.forall_mem_cons.mp hlines
    have htext := eq_append_joinTail hsplit
    constructor
    · rw [← countNext_star hre hlines, ← countFrom_star_start hre hline hparts, ← htext]
      rfl
    · rw [← countNext_dash hre hlines, Regex.countNext, countFrom_dash hre (.inr rfl) hline,
        ← countFrom_dash hre (.inl rfl) hline, ← htext]
      rfl

end patterns

/-- **When the bullets agree.** Source: `rollout-harness-eval/src/suites/ifeval.rs`
`check_instruction` (`bullets`). Kind: P -/
theorem bullets_iff (hre : re.Documented) (response : List Char) :
    countBullets response = re.star.count response + re.dash.count response ↔
      BulletsPlain re (response.splitOn '\n') := by
  obtain ⟨hstar, hdash⟩ := count_markers hre response
  obtain ⟨hle, hiff⟩ := countP_isStar hre (response.splitOn '\n')
  obtain ⟨hle', hiff'⟩ := countP_isDash hre (response.splitOn '\n')
  rw [countBullets_eq, hstar, hdash]
  constructor
  · intro h
    obtain ⟨hstars, hlone⟩ := hiff.mp (by omega)
    exact ⟨hiff'.mp (by omega), hstars, hlone⟩
  · rintro ⟨hdashes, hstars, hlone⟩
    rw [hiff.mpr ⟨hstars, hlone⟩, hiff'.mpr hdashes]

end bullets

/-! ## Words -/

/-- **Words and the parts between white space come out even**: as many parts end in a character of no
word as there are words before such a character.
Source: `rollout-harness-eval/src/suites/ifeval.rs` `check_instruction` (`words`). Kind: D -/
def WordsPlain (re : PythonRe) (response : List Char) : Prop :=
  countBefore (fun c => !isWhitespace c && !re.isWord c) (fun next => !next.any fun c => !isWhitespace c)
      response =
    countBefore re.isWord (fun next => next.any fun c => !isWhitespace c && !re.isWord c) response

/-- **When the words agree.** Source: `rollout-harness-eval/src/suites/ifeval.rs`
`check_instruction` (`words`). Kind: P -/
theorem words_iff {re : PythonRe} (hre : re.Documented) (response : List Char) :
    countWords response = re.word.count response ↔ WordsPlain re response := by
  have hwithin : ∀ c, re.isWord c = true → (!isWhitespace c) = true := by
    intro c hc
    have hspace := hre.words c hc
    cases hw : isWhitespace c with
    | true => rw [hre.spaces c hw] at hspace; cases hspace
    | false => rfl
  have hruns := countRuns_within hwithin response
  rw [countWords, countP_splitOnP, PythonRe.word, Regex.count_some1, WordsPlain]
  omega

/-! ## Together -/

theorem judged_of_counts {L : TextLib} {re : PythonRe} {response : List Char}
    (hplaceholders : countPlaceholders response = PythonRe.placeholder.count response)
    (hbullets : countBullets response = re.star.count response + re.dash.count response)
    (hwords : countWords response = re.word.count response) {id : String}
    {kwargs : JsonValue L.Number} {verdict : Bool}
    (h : referenceInstruction L re id kwargs response = some verdict) :
    checkInstruction L id kwargs response = verdict := by
  have hnumber : ∀ key n, (do L.asU64 (← (← kwargs.get key).asNumber)) = some n →
      kwUsize L kwargs key = n.toNat := by
    intro key n hn
    obtain ⟨v, hv, hn⟩ := Option.bind_eq_some_iff.mp hn
    obtain ⟨x, hx, hn⟩ := Option.bind_eq_some_iff.mp hn
    simp [kwUsize, hv, hx, hn]
  unfold referenceInstruction at h
  split at h
  · obtain ⟨n, hn, h⟩ := Option.bind_eq_some_iff.mp h
    obtain ⟨v, hv, h⟩ := Option.bind_eq_some_iff.mp h
    obtain ⟨relation, hrelation, h⟩ := Option.bind_eq_some_iff.mp h
    have hrel : relationOf L kwargs = relation := by simp [relationOf, hv, hrelation]
    simp only [checkInstruction, hrel, hnumber _ _ hn, hwords]
    split at h
    · cases h
      rfl
    · cases h
      rfl
    · cases h
  · obtain ⟨n, hn, h⟩ := Option.bind_eq_some_iff.mp h
    simp only [checkInstruction, hnumber _ _ hn, hbullets]
    exact Option.some.inj h
  · obtain ⟨n, hn, h⟩ := Option.bind_eq_some_iff.mp h
    simp only [checkInstruction, hnumber _ _ hn, hplaceholders]
    exact Option.some.inj h
  · cases h

/-- **When the checks agree with the reference.** Source: `rollout-harness-eval/src/suites/ifeval.rs`
`check_instruction`. Kind: C -/
theorem agrees_iff (L : TextLib) {re : PythonRe} (hre : re.Documented) (response : List Char) :
    Agrees L re response ↔ strayClosers response = lostClosers response ∧
      BulletsPlain re (response.splitOn '\n') ∧ WordsPlain re response := by
  rw [← placeholders_iff, ← bullets_iff hre, ← words_iff hre]
  constructor
  · rintro ⟨hplaceholders, hbullets, hwords, -⟩
    exact ⟨hplaceholders, hbullets, hwords⟩
  · rintro ⟨hplaceholders, hbullets, hwords⟩
    exact ⟨hplaceholders, hbullets, hwords, fun _ _ _ h =>
      judged_of_counts hplaceholders hbullets hwords h⟩

/-! ## Two responses -/

/-- The libraries on texts of ASCII characters that are no JSON. Source: none: infrastructure.
Kind: D -/
def asciiLib : TextLib where
  Number := BitVec 64
  asU64 := some
  isJson _ := false
  toLowercase := List.map Char.toLower
  isAlphabetic := Char.isAlpha
  isLowercase := Char.isLower
  isUppercase := Char.isUpper

/-- The classes on such texts. Source: none: infrastructure. Kind: D -/
def asciiRe : PythonRe where
  isSpace c := isWhitespace c || (28 ≤ c.toNat && c.toNat ≤ 31)
  isWord c := (48 ≤ c.toNat && c.toNat ≤ 57) || (65 ≤ c.toNat && c.toNat ≤ 90) ||
    c.toNat == 95 || (97 ≤ c.toNat && c.toNat ≤ 122)

theorem documented_asciiRe : asciiRe.Documented := by
  refine ⟨fun c hc => ?_, fun c hc => ?_, by decide, by decide⟩
  · simp [asciiRe, hc]
  · simp [asciiRe, isWhitespace] at hc ⊢
    omega

/-- A response with a list, a hyphen and a placeholder.
Source: `rollout-harness-eval/src/suites/ifeval.rs` `check_instruction`. Kind: C -/
theorem hyphen_agrees : Agrees asciiLib asciiRe "* a-b [c]".toList := by
  refine (agrees_iff asciiLib documented_asciiRe _).mpr ⟨by decide +kernel, ⟨?_, ?_, ?_⟩, ?_⟩
  · decide +kernel
  · decide +kernel
  · decide +kernel
  · unfold WordsPlain
    decide +kernel

/-- **A response on which all three counts differ**, and a list that is judged to be missing.
Source: `rollout-harness-eval/src/suites/ifeval.rs` `check_instruction`, `count_placeholders`.
Kind: C -/
theorem apostrophe_differs : asciiRe.Documented ∧
    (let response := "[[a]] -b\n-c don't".toList
    let kwargs : JsonValue asciiLib.Number := .object [("num_bullets", .number 1#64)]
    countPlaceholders response = 2 ∧ PythonRe.placeholder.count response = 1 ∧
    countBullets response = 0 ∧ asciiRe.star.count response + asciiRe.dash.count response = 1 ∧
    countWords response = 4 ∧ asciiRe.word.count response = 5 ∧
    checkInstruction asciiLib "detectable_format:number_bullet_lists" kwargs response = false ∧
    referenceInstruction asciiLib asciiRe "detectable_format:number_bullet_lists" kwargs response =
      some true ∧
    ¬ Agrees asciiLib asciiRe response) := by
  refine ⟨documented_asciiRe, by decide +kernel, by decide +kernel, by decide +kernel,
    by decide +kernel, by decide +kernel, by decide +kernel, by decide +kernel, by decide +kernel,
    fun h => ?_⟩
  have hplaceholders := h.placeholders
  revert hplaceholders
  decide +kernel

end Rollout.Eval
