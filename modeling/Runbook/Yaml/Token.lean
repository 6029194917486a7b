import Runbook.Text.Basic

/-!
# YAML tokens

What the lexer finds in a text. Indentation has become tokens of its own: a block collection
has a start and an end, and the key of a mapping is marked even where the text marks only
the value.
-/

namespace Runbook.Yaml

/-- How a scalar is written. Only a plain one can be anything but a string. -/
inductive ScalarStyle where
  | plain
  | quoted
  | block
deriving DecidableEq, Repr

/-- A lexical unit. -/
inductive Token where
  | version (major minor : Nat)
  | tagHandle (handle lead : String)
  | documentStart
  | documentEnd
  | blockSequenceStart
  | blockMappingStart
  | blockEnd
  | flowSequenceStart
  | flowSequenceEnd
  | flowMappingStart
  | flowMappingEnd
  | blockEntry
  | flowEntry
  | key
  | value
  | reference (name : String)
  | anchor (name : String)
  | tag (handle suffix : String)
  | scalar (text : String) (style : ScalarStyle)
deriving DecidableEq, Repr

end Runbook.Yaml
