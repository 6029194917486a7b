import Runbook.Text.Basic

/-!
# Names of regions and buckets

A region is words of lower-case letters and a number at the end, with hyphens between, at least
three in all. A bucket's name has 3 to 63 bytes: lower-case letters, digits, hyphens and dots,
with a letter or digit at both ends and no two dots in a row.
-/

namespace Runbook

/-- Is it a word of lower-case letters? -/
def isRegionWord (word : List Char) : Bool := !word.isEmpty && word.all Text.isLower

/-- Is it a number? -/
def isRegionNumber (word : List Char) : Bool := !word.isEmpty && word.all Text.isDigit

/-- Does a text have the shape of a region's name? -/
def isRegionShaped (region : String) : Bool :=
  match (Text.splitOn '-' region.toList).reverse with
  | number :: words => 2 ≤ words.length && isRegionNumber number && words.all isRegionWord
  | [] => false

/-- Why a text is no bucket's name. -/
inductive BucketFault where
  | length
  | character
  | edge
  | dots
deriving DecidableEq, Repr

namespace BucketFault

/-- The display text of a fault. -/
def message : BucketFault → String
  | length => "must be 3 to 63 characters"
  | character => "only lower-case letters, digits, '-' and '.' are allowed"
  | edge => "must start and end with a letter or digit"
  | dots => "must not contain consecutive dots"

/-- Is it a lower-case letter or a digit? -/
def isPlain (c : Char) : Bool := Text.isLower c || Text.isDigit c

/-- May the character stand in a bucket's name? -/
def isAllowed (c : Char) : Bool := isPlain c || c = '-' || c = '.'

/-- The fewest bytes of a bucket's name. -/
def minBytes : Nat := 3

/-- The most bytes of a bucket's name. -/
def maxBytes : Nat := 63

/-- The first fault of a bucket's name. -/
def find? (bucket : String) : Option BucketFault :=
  let chars := bucket.toList
  if bucket.utf8ByteSize < minBytes || maxBytes < bucket.utf8ByteSize then some length
  else if !chars.all isAllowed then some character
  else if !(chars.head?.any isPlain && chars.getLast?.any isPlain) then some edge
  else if Text.contains ['.', '.'] chars then some dots
  else none

end BucketFault

end Runbook
