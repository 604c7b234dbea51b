import ProcessAccounting.Text.Pieces

/-!
# Blank characters

The characters with the Unicode property `White_Space`, and the two ways in which
the library uses them: `trim` drops them at both ends of a text, and `words` takes
the text apart at them.
-/

namespace ProcessAccounting.Text

/-- Whether a character has the Unicode property `White_Space`. -/
def isBlank (c : Char) : Bool :=
  let n := c.toNat
  (0x09 ≤ n && n ≤ 0x0D) || n == 0x20 || n == 0x85 || n == 0xA0 || n == 0x1680 ||
    (0x2000 ≤ n && n ≤ 0x200A) || n == 0x2028 || n == 0x2029 || n == 0x202F ||
    n == 0x205F || n == 0x3000

/-- The text without the blank characters at its start. -/
def trimStart (cs : List Char) : List Char := cs.dropWhile isBlank

/-- The text without the blank characters at its end. -/
def trimEnd (cs : List Char) : List Char := (trimStart cs.reverse).reverse

/-- The text without the blank characters at its two ends. -/
def trim (cs : List Char) : List Char := trimEnd (trimStart cs)

/-- The runs of characters that are not blank. -/
def words (cs : List Char) : List (List Char) := filledPieces isBlank cs

end ProcessAccounting.Text
