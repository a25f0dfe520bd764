import Mathlib.Data.List.Basic

/-!
# Patterns over text

* `Place` — a place in a text; `Place.Leads` — one lies after another.
* `Regex` — a character of a class, a run of a class, preferably long or short, the start and the end
  of a line; `ends` — where its matches at a place end, in the order in which they are tried.
* `countMatches` — how often something is found from left to right, without overlaps;
  `Regex.countFrom_of_match`, `countFrom_of_none` — the rules for the count of a pattern.
* `Regex.some1` — a run of a class; `countRuns` counts the runs, as splitting at the other characters
  does. `Regex.between` — a stretch between two marks; `countClosing` counts the marks that close one.
-/

namespace Rollout.Lib

/-! ## Places -/

/-- A place in a text: the character before it and the text after it. Source: none: infrastructure.
Kind: D -/
structure Place where
  /-- The character before it; none at the start of the text. -/
  prev : Option Char
  /-- The text after it. -/
  rest : List Char

/-- The last character of a text that follows another one. Source: none: infrastructure. Kind: D -/
def lastChar (prev : Option Char) (m : List Char) : Option Char := m.foldl (fun _ c => some c) prev

@[simp] theorem lastChar_nil (prev : Option Char) : lastChar prev [] = prev := rfl

@[simp] theorem lastChar_cons (prev : Option Char) (c : Char) (m : List Char) :
    lastChar prev (c :: m) = lastChar (some c) m := rfl

theorem lastChar_append (prev : Option Char) (m n : List Char) :
    lastChar prev (m ++ n) = lastChar (lastChar prev m) n := List.foldl_append

namespace Place

/-- A place lies at another one or after it. Source: none: infrastructure. Kind: D -/
def Leads (a b : Place) : Prop := ∃ m, a.rest = m ++ b.rest ∧ b.prev = lastChar a.prev m

theorem Leads.refl (a : Place) : a.Leads a := ⟨[], rfl, rfl⟩

theorem Leads.trans {a b c : Place} (hab : a.Leads b) (hbc : b.Leads c) : a.Leads c := by
  obtain ⟨m, hm, hprev⟩ := hab
  obtain ⟨n, hn, hprev'⟩ := hbc
  refine ⟨m ++ n, ?_, ?_⟩
  · rw [hm, hn, List.append_assoc]
  · rw [hprev', hprev, lastChar_append]

theorem Leads.next {prev : Option Char} {c : Char} {cs : List Char} {b : Place}
    (h : Leads ⟨some c, cs⟩ b) : Leads ⟨prev, c :: cs⟩ b :=
  Leads.trans ⟨[c], rfl, rfl⟩ h

theorem Leads.length_le {a b : Place} (h : a.Leads b) : b.rest.length ≤ a.rest.length := by
  obtain ⟨m, hm, -⟩ := h
  rw [hm, List.length_append]
  exact Nat.le_add_left _ _

/-- A line starts here. Source: none: infrastructure. Kind: D -/
def startsLine (a : Place) : Bool := a.prev == none || a.prev == some '\n'

/-- A line ends here. Source: none: infrastructure. Kind: D -/
def endsLine (a : Place) : Bool := a.rest.head? == none || a.rest.head? == some '\n'

end Place

/-! ## Runs -/

/-- The places along the characters of a class, the first one first.
Source: none: infrastructure. Kind: D -/
def runs (p : Char → Bool) : Option Char → List Char → List Place
  | prev, [] => [⟨prev, []⟩]
  | prev, c :: cs => ⟨prev, c :: cs⟩ :: if p c then runs p (some c) cs else []

/-- The place after all characters of the class. Source: none: infrastructure. Kind: D -/
def runEnd (p : Char → Bool) : Option Char → List Char → Place
  | prev, [] => ⟨prev, []⟩
  | prev, c :: cs => if p c then runEnd p (some c) cs else ⟨prev, c :: cs⟩

section runs

variable {p : Char → Bool} {prev : Option Char} {cs : List Char}

theorem leads_of_mem_runs {e : Place} (h : e ∈ runs p prev cs) : Place.Leads ⟨prev, cs⟩ e := by
  induction cs generalizing prev with
  | nil =>
      obtain rfl := List.mem_singleton.mp h
      exact .refl _
  | cons c cs ih =>
      unfold runs at h
      by_cases hc : p c = true
      · rw [if_pos hc] at h
        rcases List.mem_cons.mp h with rfl | h
        · exact .refl _
        · exact (ih h).next
      · rw [if_neg hc] at h
        obtain rfl := List.mem_singleton.mp h
        exact .refl _

theorem leads_runEnd (p : Char → Bool) (prev : Option Char) (cs : List Char) :
    Place.Leads ⟨prev, cs⟩ (runEnd p prev cs) := by
  induction cs generalizing prev with
  | nil => exact .refl _
  | cons c cs ih =>
      unfold runEnd
      split
      · exact (ih _).next
      · exact .refl _

theorem runEnd_append {m : List Char} (hm : ∀ c ∈ m, p c = true) (rest : List Char) :
    runEnd p prev (m ++ rest) = runEnd p (lastChar prev m) rest := by
  induction m generalizing prev with
  | nil => rfl
  | cons c m ih =>
      rw [List.cons_append, runEnd, if_pos (hm c List.mem_cons_self)]
      exact ih fun x hx => hm x (List.mem_cons_of_mem _ hx)

theorem runEnd_cons_of_not {c : Char} (hc : ¬ p c = true) :
    runEnd p prev (c :: cs) = ⟨prev, c :: cs⟩ := if_neg hc

/-- The longest run comes first when it is preferred. Source: none: infrastructure. Kind: L -/
theorem runs_reverse (p : Char → Bool) (prev : Option Char) (cs : List Char) :
    ∃ tl, (runs p prev cs).reverse = runEnd p prev cs :: tl := by
  induction cs generalizing prev with
  | nil => exact ⟨[], rfl⟩
  | cons c cs ih =>
      unfold runs runEnd
      by_cases hc : p c = true
      · obtain ⟨tl, htl⟩ := ih (some c)
        rw [if_pos hc, if_pos hc, List.reverse_cons, htl]
        exact ⟨_, rfl⟩
      · rw [if_neg hc, if_neg hc]
        exact ⟨[], rfl⟩

/-- What succeeds after the longest run is the first to succeed.
Source: none: infrastructure. Kind: L -/
theorem head?_flatMap_runs {k : Place → List Place} {e : Place}
    (hk : (k (runEnd p prev cs)).head? = some e) :
    ((runs p prev cs).reverse.flatMap k).head? = some e := by
  obtain ⟨tl, htl⟩ := runs_reverse p prev cs
  rw [htl, List.flatMap_cons, List.head?_append, hk]
  rfl

/-- What fails before each character of the class is left with the longest run.
Source: none: infrastructure. Kind: L -/
theorem flatMap_runs_reverse {k : Place → List Place}
    (hk : ∀ prev c cs, p c = true → k ⟨prev, c :: cs⟩ = []) :
    (runs p prev cs).reverse.flatMap k = k (runEnd p prev cs) := by
  induction cs generalizing prev with
  | nil => simp [runs, runEnd]
  | cons c cs ih =>
      unfold runs runEnd
      by_cases hc : p c = true
      · rw [if_pos hc, if_pos hc, List.reverse_cons, List.flatMap_append, ih]
        simp [hk prev c cs hc]
      · rw [if_neg hc, if_neg hc]
        simp

/-- The place after the first character of a class, before which all are of another one.
Source: none: infrastructure. Kind: D -/
def firstAfter (q p : Char → Bool) : List Char → Option Place
  | [] => none
  | c :: cs => if p c then some ⟨some c, cs⟩ else if q c then firstAfter q p cs else none

end runs

/-! ## Patterns -/

/-- A pattern. Source: none: infrastructure. Kind: D -/
inductive Regex
  | char (p : Char → Bool)
  | run (long : Bool) (p : Char → Bool)
  | lineStart
  | lineEnd
  | seq (first second : Regex)

namespace Regex

/-- Where the matches at a place end, in the order in which they are tried.
Source: none: infrastructure. Kind: D -/
def ends : Regex → Place → List Place
  | char _, ⟨_, []⟩ => []
  | char p, ⟨_, c :: cs⟩ => if p c then [⟨some c, cs⟩] else []
  | run true p, ⟨prev, cs⟩ => (runs p prev cs).reverse
  | run false p, ⟨prev, cs⟩ => runs p prev cs
  | lineStart, a => if a.startsLine then [a] else []
  | lineEnd, a => if a.endsLine then [a] else []
  | seq r s, a => (r.ends a).flatMap s.ends

theorem leads_of_mem_ends {r : Regex} {a e : Place} (h : e ∈ r.ends a) : a.Leads e := by
  induction r generalizing a e with
  | char p =>
      rcases a with ⟨prev, - | ⟨c, cs⟩⟩
      · cases h
      · unfold ends at h
        split at h
        · obtain rfl := List.mem_singleton.mp h
          exact (Place.Leads.refl _).next
        · cases h
  | run long p =>
      cases long with
      | true => exact leads_of_mem_runs (List.mem_reverse.mp h)
      | false => exact leads_of_mem_runs h
  | lineStart =>
      unfold ends at h
      split at h
      · exact List.mem_singleton.mp h ▸ .refl _
      · cases h
  | lineEnd =>
      unfold ends at h
      split at h
      · exact List.mem_singleton.mp h ▸ .refl _
      · cases h
  | seq r s ihr ihs =>
      obtain ⟨b, hb, he⟩ := List.mem_flatMap.mp h
      exact (ihr hb).trans (ihs he)

end Regex

/-! ## Counting -/

/-- How often something is found from left to right, without overlaps; `find` says how many
characters it has at a place, at least one. Source: none: infrastructure. Kind: D -/
def countMatches (find : Place → Option Nat) : Nat → Option Char → List Char → Nat
  | _, _, [] => 0
  | skip + 1, _, c :: cs => countMatches find skip (some c) cs
  | 0, prev, c :: cs =>
      match find ⟨prev, c :: cs⟩ with
      | none => countMatches find 0 (some c) cs
      | some n => 1 + countMatches find (n - 1) (some c) cs

theorem countMatches_skip {find : Place → Option Nat} (m : List Char) (prev : Option Char)
    (rest : List Char) :
    countMatches find m.length prev (m ++ rest) = countMatches find 0 (lastChar prev m) rest := by
  induction m generalizing prev with
  | nil => rfl
  | cons c m ih => exact ih (some c)

namespace Regex

/-- The length of the match at a place. Source: none: infrastructure. Kind: D -/
def find (r : Regex) (a : Place) : Option Nat :=
  (r.ends a).head?.map fun e => a.rest.length - e.rest.length

/-- How often a pattern is found from a place on. Source: none: infrastructure. Kind: D -/
def countFrom (r : Regex) (a : Place) : Nat := countMatches r.find 0 a.prev a.rest

/-- How often a pattern is found in a text. Source: none: infrastructure. Kind: D -/
def count (r : Regex) (s : List Char) : Nat := r.countFrom ⟨none, s⟩

variable {r : Regex}

@[simp] theorem countFrom_nil {prev : Option Char} : r.countFrom ⟨prev, []⟩ = 0 := rfl

/-- Nothing is found here. Source: none: infrastructure. Kind: L -/
theorem countFrom_of_none {prev : Option Char} {c : Char} {cs : List Char}
    (h : (r.ends ⟨prev, c :: cs⟩).head? = none) :
    r.countFrom ⟨prev, c :: cs⟩ = r.countFrom ⟨some c, cs⟩ := by
  have hfind : r.find ⟨prev, c :: cs⟩ = none := by rw [find, h]; rfl
  show countMatches r.find 0 prev (c :: cs) = _
  rw [countMatches, hfind]
  rfl

/-- It is found here, and again from its end on. Source: none: infrastructure. Kind: L -/
theorem countFrom_of_match {prev : Option Char} {cs : List Char} {e : Place}
    (h : (r.ends ⟨prev, cs⟩).head? = some e) (hlt : e.rest.length < cs.length) :
    r.countFrom ⟨prev, cs⟩ = 1 + r.countFrom e := by
  obtain ⟨m, hm, hprev⟩ := leads_of_mem_ends (List.mem_of_head? h)
  rcases m with - | ⟨c, m⟩
  · rw [show cs = e.rest from hm] at hlt
    exact absurd hlt (Nat.lt_irrefl _)
  · obtain rfl : cs = c :: (m ++ e.rest) := hm
    have hfind : r.find ⟨prev, c :: (m ++ e.rest)⟩ = some (m.length + 1) := by
      simp only [find, h, Option.map_some, List.length_cons, List.length_append]
      congr 1
      omega
    show countMatches r.find 0 prev (c :: (m ++ e.rest)) = _
    rw [countMatches, hfind]
    show 1 + countMatches r.find m.length (some c) (m ++ e.rest) = _
    rw [countMatches_skip, ← lastChar_cons prev, ← hprev]
    rfl

/-- **The rule for counting a pattern**: a count by recursion on the text is that of the pattern when it
passes over a character where nothing is found, and counts one and goes on from the end where
something is. Source: none: infrastructure. Kind: L -/
theorem count_eq {tally : List Char → Nat} (hnil : tally [] = 0)
    (hnone : ∀ prev c cs, (r.ends ⟨prev, c :: cs⟩).head? = none → tally (c :: cs) = tally cs)
    (hmatch : ∀ prev c cs e, (r.ends ⟨prev, c :: cs⟩).head? = some e →
      e.rest.length ≤ cs.length ∧ tally (c :: cs) = 1 + tally e.rest) (s : List Char) :
    r.count s = tally s := by
  have hfrom : ∀ n prev s, s.length ≤ n → r.countFrom ⟨prev, s⟩ = tally s := by
    intro n
    induction n with
    | zero =>
        intro prev s hn
        obtain rfl := List.length_eq_zero_iff.mp (Nat.le_zero.mp hn)
        exact hnil.symm
    | succ n ih =>
        intro prev s hn
        cases s with
        | nil => exact hnil.symm
        | cons c cs =>
            have hcs : cs.length ≤ n := Nat.le_of_succ_le_succ hn
            cases hfirst : (r.ends ⟨prev, c :: cs⟩).head? with
            | none =>
                rw [countFrom_of_none hfirst, hnone _ _ _ hfirst]
                exact ih _ _ hcs
            | some e =>
                obtain ⟨hle, hcount⟩ := hmatch _ _ _ _ hfirst
                rw [countFrom_of_match hfirst (Nat.lt_succ_of_le hle), hcount]
                exact congrArg (1 + ·) (ih _ _ (Nat.le_trans hle hcs))
  exact hfrom _ _ _ (Nat.le_refl _)

/-! ## Runs of a class -/

/-- One or more characters of a class. Source: none: infrastructure. Kind: D -/
def some1 (p : Char → Bool) : Regex := .seq (.char p) (.run true p)

end Regex

/-- How many characters of a class stand before something. Source: none: infrastructure. Kind: D -/
def countBefore (p : Char → Bool) (q : Option Char → Bool) : List Char → Nat
  | [] => 0
  | c :: cs => (if p c && q cs.head? then 1 else 0) + countBefore p q cs

/-- How many runs of a class there are: how many characters end one.
Source: none: infrastructure. Kind: D -/
def countRuns (p : Char → Bool) (s : List Char) : Nat := countBefore p (fun next => !next.any p) s

theorem countRuns_cons_of_not {p : Char → Bool} {c : Char} (hc : ¬ p c = true) (cs : List Char) :
    countRuns p (c :: cs) = countRuns p cs := by
  simp [countRuns, countBefore, hc]

theorem countRuns_cons {p : Char → Bool} {c : Char} (hc : p c = true) (cs : List Char) :
    countRuns p (c :: cs) = 1 + countRuns p (runEnd p (some c) cs).rest := by
  induction cs generalizing c with
  | nil => simp [countRuns, countBefore, runEnd, hc]
  | cons d ds ih =>
      by_cases hd : p d = true
      · rw [runEnd, if_pos hd, ← ih hd]
        simp [countRuns, countBefore, hd]
      · rw [runEnd, if_neg hd]
        simp [countRuns, countBefore, hc, hd]

/-- **The pattern finds the runs of the class.** Source: none: infrastructure. Kind: P -/
theorem Regex.count_some1 (p : Char → Bool) (s : List Char) :
    (Regex.some1 p).count s = countRuns p s := by
  have hends : ∀ prev c cs, ((some1 p).ends ⟨prev, c :: cs⟩).head? =
      if p c then some (runEnd p (some c) cs) else none := by
    intro prev c cs
    obtain ⟨tl, htl⟩ := runs_reverse p (some c) cs
    by_cases hc : p c = true
    · simp [some1, ends, hc, htl]
    · simp [some1, ends, hc]
  refine count_eq rfl (fun prev c cs h => ?_) (fun prev c cs e h => ?_) s
  · rw [hends] at h
    by_cases hc : p c = true
    · rw [if_pos hc] at h
      cases h
    · exact countRuns_cons_of_not hc cs
  · rw [hends] at h
    by_cases hc : p c = true
    · rw [if_pos hc] at h
      obtain rfl := Option.some.inj h
      exact ⟨(leads_runEnd p (some c) cs).length_le, countRuns_cons hc cs⟩
    · rw [if_neg hc] at h
      cases h

/-- **Two classes, one within the other**: what tells their numbers of runs apart.
Source: none: infrastructure. Kind: P -/
theorem countRuns_within {w t : Char → Bool} (hwt : ∀ c, w c = true → t c = true) (s : List Char) :
    countRuns t s + countBefore w (fun next => next.any fun c => t c && !w c) s =
      countRuns w s + countBefore (fun c => t c && !w c) (fun next => !next.any t) s := by
  induction s with
  | nil => rfl
  | cons c cs ih =>
      have hhere : (if t c && !cs.head?.any t then 1 else 0) +
          (if w c && cs.head?.any fun c => t c && !w c then 1 else 0) =
          (if w c && !cs.head?.any w then 1 else 0) +
            if t c && !w c && !cs.head?.any t then 1 else 0 := by
        cases hnext : cs.head? with
        | none => cases hw : w c <;> cases ht : t c <;> simp_all
        | some d => 
          have hc := hwt c
          have hd := hwt d
          cases hw : w c <;> cases ht : t c <;> cases hw' : w d <;> cases ht' : t d <;> simp_all
      simp only [countRuns, countBefore] at ih ⊢
      omega

theorem isEmpty_of_splitOnP {p : Char → Bool} {cs part : List Char} {parts : List (List Char)}
    (h : cs.splitOnP p = part :: parts) : part.isEmpty = !cs.head?.any fun c => !p c := by
  rcases cs with - | ⟨d, ds⟩
  · obtain ⟨rfl, -⟩ := List.cons.inj h
    rfl
  · rw [List.splitOnP_cons_eq_if_modifyHead] at h
    by_cases hd : p d = true
    · rw [if_pos hd] at h
      obtain ⟨rfl, -⟩ := List.cons.inj h
      simp [hd]
    · rw [if_neg hd] at h
      rcases hsplit : ds.splitOnP p with - | ⟨first, rest⟩
      · exact absurd hsplit (List.splitOnP_ne_nil p ds)
      · rw [hsplit] at h
        obtain ⟨rfl, -⟩ := List.cons.inj h
        simp [hd]

/-- **The parts that are not empty**, when a text is split at the characters of a class, are the runs
of the other characters. Source: none: infrastructure. Kind: P -/
theorem countP_splitOnP (p : Char → Bool) (s : List Char) :
    ((s.splitOnP p).countP fun part => !part.isEmpty) = countRuns (fun c => !p c) s := by
  induction s with
  | nil => rfl
  | cons c cs ih =>
      rw [List.splitOnP_cons_eq_if_modifyHead]
      by_cases hc : p c = true
      · rw [if_pos hc, countRuns_cons_of_not (by simp [hc]), ← ih]
        simp
      · rw [if_neg hc]
        rcases hsplit : cs.splitOnP p with - | ⟨part, parts⟩
        · exact absurd hsplit (List.splitOnP_ne_nil p cs)
        · have hnext : (cs.head?.any fun c => !p c) = !part.isEmpty := by
            rw [isEmpty_of_splitOnP hsplit, Bool.not_not]
          rw [hsplit, List.countP_cons] at ih
          simp only [countRuns, countBefore] at ih ⊢
          rw [← ih]
          cases part with
          | nil => simp [hc, hnext, Nat.add_comm]
          | cons x xs => simp [hc, hnext, Nat.add_comm]

/-! ## A stretch between two marks -/

namespace Regex

/-- A mark, as few characters of a class as possible, and another mark.
Source: none: infrastructure. Kind: D -/
def between (o q p : Char → Bool) : Regex := .seq (.char o) (.seq (.run false q) (.char p))

end Regex

/-- How many marks end a stretch that is open. Source: none: infrastructure. Kind: D -/
def countClosing (o q p : Char → Bool) : Bool → List Char → Nat
  | _, [] => 0
  | isOpen, c :: cs =>
      if isOpen && p c then 1 + countClosing o q p false cs
      else countClosing o q p (o c || (isOpen && q c)) cs

theorem countClosing_cons (o q p : Char → Bool) (isOpen : Bool) (c : Char) (cs : List Char) :
    countClosing o q p isOpen (c :: cs) =
      if isOpen && p c then 1 + countClosing o q p false cs
      else countClosing o q p (o c || (isOpen && q c)) cs := rfl

theorem head?_flatMap_short {q p : Char → Bool} (prev : Option Char) (cs : List Char) :
    ((runs q prev cs).flatMap (Regex.char p).ends).head? = firstAfter q p cs := by
  induction cs generalizing prev with
  | nil => rfl
  | cons c cs ih =>
      rw [runs, List.flatMap_cons, firstAfter]
      by_cases hp : p c = true
      · simp [Regex.ends, hp]
      · by_cases hq : q c = true
        · rw [if_neg hp, if_pos hq, if_pos hq, ← ih (some c)]
          simp [Regex.ends, hp]
        · simp [Regex.ends, hp, hq]

section between

variable {o q p : Char → Bool}

theorem firstAfter_length_lt {cs : List Char} {e : Place} (h : firstAfter q p cs = some e) :
    e.rest.length < cs.length := by
  induction cs with
  | nil => cases h
  | cons c cs ih =>
      unfold firstAfter at h
      split at h
      · obtain rfl := Option.some.inj h
        exact Nat.lt_succ_self _
      · split at h
        · exact Nat.lt_succ_of_lt (ih h)
        · cases h

theorem countClosing_of_some {cs : List Char} {e : Place} (h : firstAfter q p cs = some e) :
    countClosing o q p true cs = 1 + countClosing o q p false e.rest := by
  induction cs with
  | nil => cases h
  | cons c cs ih =>
      unfold firstAfter at h
      rw [countClosing_cons]
      by_cases hp : p c = true
      · rw [if_pos hp] at h
        obtain rfl := Option.some.inj h
        simp [hp]
      · rw [if_neg hp] at h
        by_cases hq : q c = true
        · rw [if_pos hq] at h
          simpa [hp, hq] using ih h
        · rw [if_neg hq] at h
          cases h

theorem countClosing_of_none {cs : List Char} (h : firstAfter q p cs = none) :
    countClosing o q p true cs = countClosing o q p false cs := by
  induction cs with
  | nil => rfl
  | cons c cs ih =>
      unfold firstAfter at h
      rw [countClosing_cons, countClosing_cons]
      by_cases hp : p c = true
      · rw [if_pos hp] at h
        cases h
      · rw [if_neg hp] at h
        by_cases hq : q c = true
        · rw [if_pos hq] at h
          cases ho : o c with
          | true => simp [hp]
          | false => simpa [hp, hq] using ih h
        · simp [hp, hq]

/-- **The pattern finds the marks that close a stretch.** Source: none: infrastructure. Kind: P -/
theorem Regex.count_between (s : List Char) :
    (Regex.between o q p).count s = countClosing o q p false s := by
  have hends : ∀ prev c cs, ((between o q p).ends ⟨prev, c :: cs⟩).head? =
      if o c then firstAfter q p cs else none := by
    intro prev c cs
    rw [← head?_flatMap_short (some c)]
    by_cases ho : o c = true
    · simp [between, ends, ho]
    · simp [between, ends, ho]
  have hclosing : ∀ c cs, countClosing o q p false (c :: cs) = countClosing o q p (o c) cs := by
    intro c cs
    simp [countClosing_cons]
  refine count_eq rfl (fun prev c cs h => ?_) (fun prev c cs e h => ?_) s
  · rw [hends] at h
    rw [hclosing]
    by_cases ho : o c = true
    · rw [if_pos ho] at h
      rw [ho, countClosing_of_none h]
    · rw [Bool.eq_false_iff.mpr ho]
  · rw [hends] at h
    rw [hclosing]
    by_cases ho : o c = true
    · rw [if_pos ho] at h
      rw [ho, countClosing_of_some h]
      exact ⟨Nat.le_of_lt (firstAfter_length_lt h), rfl⟩
    · rw [if_neg ho] at h
      cases h

end between

end Rollout.Lib
