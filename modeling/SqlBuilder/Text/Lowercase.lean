import SqlBuilder.Text.CaseTable

/-!
# Small letters

`lowercase` replaces every capital of a text by its small letter. A character stands for itself in
all but two cases: a dotted capital I becomes two characters, and a capital sigma becomes the final
form `ς` at the end of a word, that is after a letter with case and before none, the characters that
only modify or join others being skipped on both sides.
-/

namespace SqlBuilder.Text

/-- Whether a code point lies in one of the inclusive ranges. -/
def inRanges (ranges : List (Nat × Nat)) (n : Nat) : Bool :=
  ranges.any fun (low, high) => low ≤ n && n ≤ high

/-- The code point of a letter in the small form. -/
def lowerPoint (n : Nat) : Nat :=
  let covers (r : CaseTable.Run) : Bool :=
    r.first ≤ n && n ≤ r.last && (n - r.first) % r.step == 0
  match CaseTable.capitals.find? covers with
  | some r => (n + r.shift).toNat
  | none => n

/-- A capital sigma, whose small form depends on its neighbours. -/
def capitalSigma : Char := 'Σ'

/-- The small form of a character other than a sigma. -/
def lowerChar (c : Char) : List Char :=
  if c = 'İ' then ['i', '\u0307'] else [Char.ofNat (lowerPoint c.toNat)]

/-- Whether the first character that the sigma rule does not skip has case. -/
def startsCased (cs : List Char) : Bool :=
  ((cs.dropWhile fun c => inRanges CaseTable.ignorable c.toNat).head?).any
    fun c => inRanges CaseTable.cased c.toNat

/-- The small form of a text that follows `before`, whose last character comes first. -/
def lowercaseAfter (before : List Char) : List Char → List Char
  | [] => []
  | c :: rest =>
    let small :=
      if c = capitalSigma then
        if startsCased before && !startsCased rest then ['ς'] else ['σ']
      else lowerChar c
    small ++ lowercaseAfter (c :: before) rest

def lowercase (cs : List Char) : List Char :=
  lowercaseAfter [] cs

example : lowercase "ΟΔΟΣ_ΣΑΣ".toList = "οδος_σας".toList := by decide +kernel

example : lowercase "x_\uA7CE\u03A3 \u0295\u03A3".toList = "x_\uA7CFς \u0295σ".toList := by
  decide +kernel

example : lowercase "Users-İd".toList = "users-i\u0307d".toList := by decide +kernel

end SqlBuilder.Text
