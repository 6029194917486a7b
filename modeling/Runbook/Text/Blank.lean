import Runbook.Text.Basic

/-!
# Blank characters

The Unicode property `White_Space`, and trimming by it.
-/

namespace Runbook.Text

/-- The characters of the property `White_Space`. -/
def isBlank (c : Char) : Bool :=
  let n := c.toNat
  (9 ≤ n && n ≤ 13) || n == 0x20 || n == 0x85 || n == 0xA0 || n == 0x1680 ||
    (0x2000 ≤ n && n ≤ 0x200A) || n == 0x2028 || n == 0x2029 || n == 0x202F ||
    n == 0x205F || n == 0x3000

/-- A text without the blanks at its start. -/
def trimLeft (text : List Char) : List Char :=
  text.dropWhile isBlank

/-- A text without the blanks at its end. -/
def trimRight (text : List Char) : List Char :=
  (text.reverse.dropWhile isBlank).reverse

/-- A text without the blanks at both ends. -/
def trim (text : List Char) : List Char :=
  trimRight (trimLeft text)

/-- Is the text blank from end to end? -/
def isAllBlank (text : List Char) : Bool :=
  text.all isBlank

/-- The items of a comma-separated list, trimmed, without the empty ones. -/
def commaItems (text : List Char) : List (List Char) :=
  ((splitOn ',' text).map trim).filter fun item => !item.isEmpty

end Runbook.Text
