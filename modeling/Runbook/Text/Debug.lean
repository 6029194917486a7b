import Runbook.Text.Category

/-!
# Texts shown for inspection

A text between double quotes, in which quotes, backslashes and characters that cannot be seen
on their own are escaped.
-/

namespace Runbook.Text

/-- The categories of characters without a visible form. -/
def hiddenCategories : List (String × List Run) :=
  categories.filter fun entry => ["Cc", "Cf", "Co", "Zl", "Zp", "Zs"].contains entry.1

/-- Spacing marks that extend the character before them. -/
def spacingExtenders : List Run :=
  [(2494, 1, 1), (2519, 1, 1), (2878, 1, 1), (2903, 1, 1), (3006, 1, 1), (3031, 1, 1),
    (3264, 1, 1), (3266, 1, 1), (3271, 2, 1), (3274, 2, 1), (3285, 2, 1), (3390, 1, 1),
    (3415, 1, 1), (3535, 1, 1), (3551, 1, 1), (5909, 1, 1), (5940, 1, 1), (6965, 1, 1),
    (6971, 1, 1), (6973, 1, 1), (6979, 2, 1), (7082, 1, 1), (7154, 2, 1), (12334, 2, 1),
    (43347, 1, 1), (43456, 1, 1), (65438, 2, 1), (70080, 1, 1), (70197, 1, 1),
    (70462, 1, 1), (70477, 1, 1), (70487, 1, 1), (70584, 1, 1), (70594, 1, 1),
    (70597, 1, 1), (70599, 3, 1), (70607, 1, 1), (70832, 1, 1), (70845, 1, 1),
    (71087, 1, 1), (71350, 1, 1), (71984, 1, 1), (71997, 1, 1), (73537, 1, 1),
    (94192, 2, 1), (119141, 2, 1), (119149, 6, 1)]

/-- Has the character a form of its own? A blank other than the space has none, and neither
has a mark that joins the character before it. -/
def isPlain (c : Char) : Bool :=
  c = ' ' || ((categories.any fun entry => inRuns entry.2 c)
    && !(hiddenCategories.any fun entry => inRuns entry.2 c)
    && !inRuns runsMn c && !inRuns runsMe c && !inRuns spacingExtenders c)

/-- A number in hexadecimal digits, without leading zeros. -/
def hexadecimal (n : Nat) : List Char := Nat.toDigits 16 n

/-- A character as it stands between the quotes. -/
def inspectChar (c : Char) : List Char :=
  if c = '"' then ['\\', '"']
  else if c = '\\' then ['\\', '\\']
  else if c = '\n' then ['\\', 'n']
  else if c = '\r' then ['\\', 'r']
  else if c = '\t' then ['\\', 't']
  else if c.toNat = 0 then ['\\', '0']
  else if isPlain c then [c]
  else "\\u\x7b".toList ++ hexadecimal c.toNat ++ "\x7d".toList

/-- A text between quotes. -/
def inspect (text : String) : String :=
  String.ofList ('"' :: text.toList.flatMap inspectChar ++ ['"'])

end Runbook.Text
