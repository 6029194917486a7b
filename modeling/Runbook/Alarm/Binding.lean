import Runbook.Table
import Runbook.Text.Blank

/-!
# Bindings

A binding of a template's variable is written `NAME=VALUE`. The name ends at the first equals
sign and is trimmed; the value is taken as it is.
-/

namespace Runbook

/-- Why a text is no binding. -/
inductive BindingError where
  | unassigned (item : String)
  | unnamed (item : String)
deriving DecidableEq, Repr

/-- The display text of an error. -/
def BindingError.message : BindingError → String
  | .unassigned item => "invalid binding '" ++ item ++ "', expected NAME=VALUE"
  | .unnamed item => "invalid binding '" ++ item ++ "', name is empty"

namespace Binding

/-- The name and the value of a binding. -/
def parse (item : String) : Except BindingError (String × String) :=
  match Text.cutAt ['='] item.toList with
  | none => .error (.unassigned item)
  | some (name, value) =>
      if (Text.trim name).isEmpty then .error (.unnamed item)
      else .ok (String.ofList (Text.trim name), String.ofList value)

/-- The values by their names. Of several bindings of a name the last one counts. -/
def parseAll (items : List String) : Except BindingError (Table String String) :=
  (items.mapM parse).map Table.ofList

end Binding

end Runbook
