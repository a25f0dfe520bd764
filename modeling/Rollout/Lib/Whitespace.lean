import Mathlib.Data.List.Basic

/-!
# White space

* `isWhitespace` — the characters of the Unicode property White_Space.
* `trimStart`, `trim` — a text without the white space at its start, and at both ends.
-/

namespace Rollout.Lib

/-- White space. Source: none: infrastructure. Kind: D -/
def isWhitespace (c : Char) : Bool :=
  (9 ≤ c.toNat && c.toNat ≤ 13) || c.toNat == 0x20 || c.toNat == 0x85 || c.toNat == 0xA0 ||
    c.toNat == 0x1680 || (0x2000 ≤ c.toNat && c.toNat ≤ 0x200A) || c.toNat == 0x2028 ||
    c.toNat == 0x2029 || c.toNat == 0x202F || c.toNat == 0x205F || c.toNat == 0x3000

/-- A text without the white space at its start. Source: none: infrastructure. Kind: D -/
def trimStart (cs : List Char) : List Char := cs.dropWhile isWhitespace

/-- A text without the white space at its end. Source: none: infrastructure. Kind: D -/
def trimEnd (cs : List Char) : List Char := (cs.reverse.dropWhile isWhitespace).reverse

/-- A text without the white space at its ends. Source: none: infrastructure. Kind: D -/
def trim (cs : List Char) : List Char := trimEnd (trimStart cs)

end Rollout.Lib
