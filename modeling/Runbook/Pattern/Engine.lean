import Runbook.Pattern.Reader
import Runbook.Pattern.Search

/-!
# Engines for expressions

What a program asks of a library for regular expressions, and the library that stands for it here.
-/

namespace Runbook.Pattern

/-- A library for regular expressions: the expression that a text is, where it is one and within the
limits, and whether an expression matches some part of a text. -/
structure Engine where
  Expression : Type
  compile? : List Char → Option Expression
  isMatch : Expression → List Char → Bool

/-- The library with the expressions, the reader and the search of these modules. -/
def engine : Engine where
  Expression := Pattern
  compile? := parse?
  isMatch := occursIn

/-- A text in a group of its own, which captures nothing. -/
def group (source : List Char) : List Char := "(?:".toList ++ (source ++ [')'])

/-- A text in a group of its own between anchors. -/
def anchored (source : List Char) : List Char := '^' :: group source ++ ['$']

end Runbook.Pattern
