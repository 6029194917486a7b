import Runbook.Yaml.Node
import Runbook.Yaml.Scalar
import Runbook.Yaml.Token.Lexer

/-!
# Reading YAML

A text is one document. Plain scalars take their meaning from the core schema, tags of the
core types are obeyed, local tags are kept, and aliases become what they stand for, within
limits on depth and on the number of aliases followed.
-/

namespace Runbook.Yaml

/-- What is left of the aliases that may be followed. -/
abbrev Following := StateT Nat Option

/-- How deep collections may nest, aliases followed. -/
def maxDepth : Nat := 128

/-- A plain scalar without a tag. -/
def plainValue (text : String) : Option Yaml :=
  match meaning text with
  | .value value => some value
  | .outOfRange => none

/-- A scalar with a tag of the core types, or with any other tag that is not local: a string. -/
def coreValue (tag text : String) : Option Yaml :=
  if tag = "tag:yaml.org,2002:bool" then (boolWord? text).map .bool
  else if tag = "tag:yaml.org,2002:int" then
    match (integer? text.toList).filter fitsWide with
    | some i =>
        match ofInteger i with
        | .value value => some value
        | .outOfRange => none
    | none => none
  else if tag = "tag:yaml.org,2002:float" then
    (real? text.toList).map fun x => .number (.real x)
  else if tag = "tag:yaml.org,2002:null" then
    if text ≠ "" && isNullWord text then some .null else none
  else some (.string text)

/-- The name of a local tag: what follows its mark, or the mark itself. -/
def localName? (tag : String) : Option String :=
  match tag.toList with
  | ['!'] => some "!"
  | '!' :: name => some (String.ofList name)
  | _ => none

/-- A mapping with its keys pairwise different. -/
def distinctKeys : List (Yaml × Yaml) → Bool
  | [] => true
  | (key, _) :: entries => !(entries.any fun entry => key.same entry.1) && distinctKeys entries

/-- The value of a node. `depth` is how much deeper collections may nest, `fuel` bounds the
steps through collections, tags and aliases, which take turns. -/
def Node.value (anchors : Anchors) : Nat → Nat → Bool → Node → Following Yaml
  | 0, _, _, _ => failure
  | fuel + 1, depth, obeyTag, node =>
      let wrap (tag : Option String) (plain : Following Yaml) : Following Yaml :=
        match if obeyTag then tag.bind localName? else none with
        | some name => do
            let value ← Node.value anchors fuel depth false node
            return .tagged name value
        | none => plain
      match node with
      | .reference target => do
          let left ← get
          if left = 0 then failure
          else
            set (left - 1)
            match anchors.node? target with
            | some found => Node.value anchors fuel depth true found
            | none => failure
      | .scalar tag text style =>
          wrap tag <|
            match if obeyTag then tag else none with
            | some tag => (coreValue tag text : Option Yaml)
            | none =>
                if style = .plain then (plainValue text : Option Yaml)
                else return .string text
      | .sequence tag items =>
          wrap tag <|
            match depth with
            | 0 => failure
            | depth + 1 => do
                let values ← items.mapM fun item => Node.value anchors fuel depth true item
                return .sequence values
      | .mapping tag entries =>
          wrap tag <|
            match depth with
            | 0 => failure
            | depth + 1 => do
                let values ← entries.mapM fun entry => do
                  let key ← Node.value anchors fuel depth true entry.1
                  let value ← Node.value anchors fuel depth true entry.2
                  return (key, value)
                if distinctKeys values then return .mapping values else failure

/-- The value of a document. Each mark and scalar of it allows a hundred aliases. -/
def Document.value (document : Document) : Option Yaml :=
  (document.root.value document.anchors (3 * maxDepth + 3) maxDepth true
    (document.root.size * 100)).map (·.1)

/-- The value that a text denotes; nothing when it is not one well-formed document. The empty
text is null. -/
def parse? (text : String) : Option Yaml := do
  let tokens ← tokens? text.toList
  match ← document? tokens.toList with
  | some document => document.value
  | none => return .null

end Runbook.Yaml
