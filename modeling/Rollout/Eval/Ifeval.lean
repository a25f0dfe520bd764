import Rollout.Lib.Json
import Rollout.Lib.RegexLines
import Rollout.Lib.Whitespace

/-!
# The checks of IFEval

* `TextLib` — what the checks use of the standard library and the JSON library.
* `checkInstruction` — one instruction that can be verified.
* `PythonRe` — the character classes of the reference, with `PythonRe.Documented`;
  `referenceInstruction` — the three checks it makes with patterns.
* `Agrees` — both count the same, and judge the same.
-/

namespace Rollout.Eval

open Rollout.Lib

/-! ## Texts -/

/-- What the checks use of the libraries. Source: `rollout-harness-eval/src/suites/ifeval.rs`
(`str`, `char`, `serde_json`). Kind: D -/
structure TextLib where
  /-- The numbers of a JSON value. -/
  Number : Type
  /-- A number that is an unsigned integer. -/
  asU64 : Number → Option (BitVec 64)
  /-- The text is a JSON value. -/
  isJson : List Char → Bool
  /-- The text in lower case. -/
  toLowercase : List Char → List Char
  isAlphabetic : Char → Bool
  isLowercase : Char → Bool
  isUppercase : Char → Bool

/-- A text without a prefix. Source: `rollout-harness-eval/src/suites/ifeval.rs` (`strip_prefix`).
Kind: D -/
def stripPrefix (start s : List Char) : Option (List Char) :=
  if start.isPrefixOf s then some (s.drop start.length) else none

/-- A text without a suffix. Source: `rollout-harness-eval/src/suites/ifeval.rs` (`strip_suffix`).
Kind: D -/
def stripSuffix (finish s : List Char) : Option (List Char) :=
  if finish.isSuffixOf s then some (s.take (s.length - finish.length)) else none

/-- A line without the carriage return at its end.
Source: `rollout-harness-eval/src/suites/ifeval.rs` (`lines`). Kind: D -/
def stripReturn (line : List Char) : List Char := (stripSuffix ['\r'] line).getD line

/-- The lines of a text; the last one is none when it is empty, and keeps a carriage return.
Source: `rollout-harness-eval/src/suites/ifeval.rs` (`lines`). Kind: D -/
def lines (s : List Char) : List (List Char) :=
  let parts := s.splitOn '\n'
  parts.dropLast.map stripReturn ++ parts.getLast?.toList.filter fun last => !last.isEmpty

/-- Source: `rollout-harness-eval/src/suites/ifeval.rs` `strip_code_fence`. Kind: D -/
def stripCodeFence (s : List Char) : List Char :=
  let s := ((stripPrefix "```json".toList s).or (stripPrefix "```".toList s)).getD s
  trim ((stripSuffix "```".toList s).getD s)

/-- Source: `rollout-harness-eval/src/suites/ifeval.rs` `count_occurrences`. Kind: D -/
def countOccurrences (haystack needle : List Char) : Nat :=
  if needle.isEmpty then 0
  else countMatches (fun a => if needle.isPrefixOf a.rest then some needle.length else none) 0 none
    haystack

/-- A bracket closes an open one; the depth is an `i32`, which wraps round.
Source: `rollout-harness-eval/src/suites/ifeval.rs` `count_placeholders`. Kind: D -/
def closes (depth : BitVec 32) (c : Char) : Bool := c == ']' && decide (0 < depth.toInt)

/-- Source: `rollout-harness-eval/src/suites/ifeval.rs` `count_placeholders` (`depth`). Kind: D -/
def nextDepth (depth : BitVec 32) (c : Char) : BitVec 32 :=
  if c = '[' then depth + 1
  else if closes depth c then depth - 1
  else depth

/-- One character. Source: `rollout-harness-eval/src/suites/ifeval.rs` `count_placeholders`.
Kind: D -/
def placeholderStep (state : Nat × BitVec 32) (c : Char) : Nat × BitVec 32 :=
  (if closes state.2 c then state.1 + 1 else state.1, nextDepth state.2 c)

/-- Source: `rollout-harness-eval/src/suites/ifeval.rs` `count_placeholders`. Kind: D -/
def countPlaceholders (s : List Char) : Nat := (s.foldl placeholderStep (0, 0)).1

example : countPlaceholders "[a] [b[c]]".toList = 3 := by decide

/-- The line of a list. Source: `rollout-harness-eval/src/suites/ifeval.rs` `check_instruction`
(`bullets`). Kind: D -/
def isBullet (line : List Char) : Bool :=
  ['*', ' '].isPrefixOf (trimStart line) || ['-', ' '].isPrefixOf (trimStart line)

/-- Source: `rollout-harness-eval/src/suites/ifeval.rs` `check_instruction` (`bullets`). Kind: D -/
def countBullets (response : List Char) : Nat := (lines response).countP isBullet

/-- Source: `rollout-harness-eval/src/suites/ifeval.rs` `check_instruction` (`words`). Kind: D -/
def countWords (response : List Char) : Nat :=
  (response.splitOnP isWhitespace).countP fun word => !word.isEmpty

/-- Source: `rollout-harness-eval/src/suites/ifeval.rs` `check_instruction` (`sentences`). Kind: D -/
def countSentences (response : List Char) : Nat :=
  (response.splitOnP fun c => c == '.' || c == '!' || c == '?').countP fun s => !(trim s).isEmpty

/-! ## The check -/

section check

variable (L : TextLib)

/-- Source: `rollout-harness-eval/src/suites/ifeval.rs` `kw_usize`. Kind: D -/
def kwUsize (kwargs : JsonValue L.Number) (key : String) : Nat :=
  match (kwargs.get key).bind fun v => v.asNumber.bind L.asU64 with
  | none => 0
  | some n => n.toNat

/-- The relation of a check. Source: `rollout-harness-eval/src/suites/ifeval.rs` `check_instruction`
(`relation`). Kind: D -/
def relationOf (kwargs : JsonValue L.Number) : String :=
  ((kwargs.get "relation").bind JsonValue.asStr).getD "at least"

/-- A count is in a relation to a bound. Source: `rollout-harness-eval/src/suites/ifeval.rs`
`check_instruction` (`match relation`). Kind: D -/
def inRelation (relation : String) (count n : Nat) : Bool :=
  match relation with
  | "at least" => decide (n ≤ count)
  | "less than" => decide (count < n)
  | "at most" => decide (count ≤ n)
  | _ => false

/-- Source: `rollout-harness-eval/src/suites/ifeval.rs` `check_instruction`. Kind: D -/
def checkInstruction (id : String) (kwargs : JsonValue L.Number) (response : List Char) : Bool :=
  match id with
  | "length_constraints:number_words" =>
      inRelation (relationOf L kwargs) (countWords response) (kwUsize L kwargs "num_words")
  | "length_constraints:number_sentences" =>
      inRelation (relationOf L kwargs) (countSentences response) (kwUsize L kwargs "num_sentences")
  | "detectable_format:number_bullet_lists" =>
      countBullets response == kwUsize L kwargs "num_bullets"
  | "detectable_format:json_format" => L.isJson (stripCodeFence (trim response))
  | "keywords:existence" =>
      match (kwargs.get "keywords").bind JsonValue.asArray with
      | none => false
      | some kws =>
          let lower := L.toLowercase response
          (kws.filterMap JsonValue.asStr).all fun k =>
            lower.tails.any fun tail => (L.toLowercase k.toList).isPrefixOf tail
  | "keywords:frequency" =>
      let kw := ((kwargs.get "keyword").bind JsonValue.asStr).getD ""
      inRelation (relationOf L kwargs)
        (countOccurrences (L.toLowercase response) (L.toLowercase kw.toList))
        (kwUsize L kwargs "frequency")
  | "change_case:english_lowercase" => (response.filter L.isAlphabetic).all L.isLowercase
  | "change_case:english_capital" => (response.filter L.isAlphabetic).all L.isUppercase
  | "detectable_content:number_placeholders" =>
      decide (kwUsize L kwargs "num_placeholders" ≤ countPlaceholders response)
  | _ => false

end check

/-! ## The reference -/

/-- The classes of the reference's patterns. Source: `rollout-harness-eval/src/suites/ifeval.rs` (the
patterns of lm-evaluation-harness). Kind: D -/
structure PythonRe where
  /-- White space. -/
  isSpace : Char → Bool
  /-- A character of a word. -/
  isWord : Char → Bool

/-- What is documented of them. Source: `rollout-harness-eval/src/suites/ifeval.rs` (the patterns of
lm-evaluation-harness). Kind: D -/
structure PythonRe.Documented (re : PythonRe) : Prop where
  spaces : ∀ c, isWhitespace c = true → re.isSpace c = true
  words : ∀ c, re.isWord c = true → re.isSpace c = false
  star : re.isSpace '*' = false
  dash : re.isSpace '-' = false

namespace PythonRe

variable (re : PythonRe)

/-- A bracket, as little of the line as possible, and a bracket.
Source: `rollout-harness-eval/src/suites/ifeval.rs` (the patterns of lm-evaluation-harness).
Kind: D -/
def placeholder : Regex := .between (fun c => c == '[') (fun c => c != '\n') fun c => c == ']'

/-- White space at the start of a line, a star, something else, and the rest of the line.
Source: `rollout-harness-eval/src/suites/ifeval.rs` (the patterns of lm-evaluation-harness).
Kind: D -/
def star : Regex :=
  .onLine re.isSpace (fun c => c == '*') (.seq (.char fun c => c != '*') .toLineEnd)

/-- White space at the start of a line, a dash, and the rest of the line.
Source: `rollout-harness-eval/src/suites/ifeval.rs` (the patterns of lm-evaluation-harness).
Kind: D -/
def dash : Regex := .onLine re.isSpace (fun c => c == '-') .toLineEnd

/-- One or more characters of a word. Source: `rollout-harness-eval/src/suites/ifeval.rs` (the
patterns of lm-evaluation-harness). Kind: D -/
def word : Regex := .some1 re.isWord

end PythonRe

/-- The verdict of the reference where it makes its check with these patterns and the arguments are
given. Source: `rollout-harness-eval/src/suites/ifeval.rs` (lm-evaluation-harness). Kind: D -/
def referenceInstruction (L : TextLib) (re : PythonRe) (id : String) (kwargs : JsonValue L.Number)
    (response : List Char) : Option Bool := do
  let number (key : String) := do L.asU64 (← (← kwargs.get key).asNumber)
  match id with
  | "length_constraints:number_words" =>
      let n ← number "num_words"
      match (← (← kwargs.get "relation").asStr) with
      | "at least" => some (decide (n.toNat ≤ re.word.count response))
      | "less than" => some (decide (re.word.count response < n.toNat))
      | _ => none
  | "detectable_format:number_bullet_lists" =>
      let n ← number "num_bullets"
      some (re.star.count response + re.dash.count response == n.toNat)
  | "detectable_content:number_placeholders" =>
      let n ← number "num_placeholders"
      some (decide (n.toNat ≤ PythonRe.placeholder.count response))
  | _ => none

/-- **The checks agree with the reference** on a response: what they count, and their verdicts.
Source: `rollout-harness-eval/src/suites/ifeval.rs` (its documentation). Kind: D -/
structure Agrees (L : TextLib) (re : PythonRe) (response : List Char) : Prop where
  placeholders : countPlaceholders response = PythonRe.placeholder.count response
  bullets : countBullets response = re.star.count response + re.dash.count response
  words : countWords response = re.word.count response
  judged : ∀ id kwargs verdict, referenceInstruction L re id kwargs response = some verdict →
    checkInstruction L id kwargs response = verdict

end Rollout.Eval
