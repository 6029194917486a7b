import Runbook.Table
import Runbook.Text.Debug
import Runbook.Yaml.Printer

/-!
# Document builders

A builder stands in for a content file: it gives the text of a whole document, or says why it
cannot.
-/

namespace Runbook

/-- A builder, known by what it answers. -/
structure Builder where
  result : Except String String

/-- The builder that writes a fixed value. -/
def Builder.ofValue (document : Yaml) : Builder := ⟨.ok document.render⟩

/-- The builders known to a run, by identifier. -/
structure Builders where
  table : Table String Builder

namespace Builders

/-- No builders. -/
def empty : Builders := ⟨Table.empty⟩

/-- The builder of an identifier. -/
def get? (builders : Builders) (id : String) : Option Builder := builders.table.get? id

/-- The builders with one set. -/
def register (builders : Builders) (id : String) (builder : Builder) : Builders :=
  ⟨builders.table.insert id builder⟩

/-- The identifiers in order. -/
def ids (builders : Builders) : List String := builders.table.keys

/-- The builders shown for inspection. -/
def inspect (builders : Builders) : String :=
  "BuilderRegistry \x7b builders: [" ++ Text.commaJoin ", " (builders.ids.map Text.inspect)
    ++ "] \x7d"

end Builders

end Runbook
