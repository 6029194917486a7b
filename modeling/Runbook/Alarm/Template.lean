import Runbook.Table
import Runbook.Text.Basic

/-!
# Alarm templates

A template is a text with variables, each the body between `${` and the next closing
brace. A body is never empty. Binding a variable replaces every occurrence of its token.
-/

namespace Runbook.AlarmTemplate

/-- A text up to its first closing brace, and what follows the brace. -/
def untilBrace : List Char → Option (List Char × List Char)
  | [] => none
  | c :: rest =>
      if c = '\x7d' then some ([], rest)
      else (untilBrace rest).map fun sides => (c :: sides.1, sides.2)

/-- What is read up to a closing brace stands before that brace, and the rest behind it. -/
theorem eq_append_of_untilBrace {text body after : List Char}
    (found : untilBrace text = some (body, after)) : text = body ++ '\x7d' :: after := by
  induction text generalizing body with
  | nil => simp [untilBrace] at found
  | cons c text ih =>
      simp only [untilBrace] at found
      split at found
      · rename_i closes
        simp only [Option.some.injEq, Prod.mk.injEq] at found
        simp [← found.1, found.2, closes]
      · simp only [Option.map_eq_some_iff, Prod.mk.injEq] at found
        obtain ⟨⟨inner, outer⟩, later, rfl, rfl⟩ := found
        simp [ih later]

/-- The bodies of a text's variables, from left to right and without overlap. -/
def bodies : List Char → List (List Char)
  | '$' :: '\x7b' :: rest =>
      match _found : untilBrace rest with
      | some (c :: body, after) => (c :: body) :: bodies after
      | _ => bodies ('\x7b' :: rest)
  | _ :: rest => bodies rest
  | [] => []
termination_by text => text.length
decreasing_by
  · have := congrArg List.length (eq_append_of_untilBrace _found)
    simp only [List.length_append, List.length_cons] at *
    omega
  · simp
  · simp

/-- The variables of a template in ascending order, each once. -/
def variableNames (template : String) : List String :=
  sortedDistinct ((bodies template.toList).map String.ofList)

/-- The token of a variable. -/
def token (name : String) : List Char := '$' :: '\x7b' :: name.toList ++ ['\x7d']

/-- A text with every occurrence of a variable's token replaced. -/
def bind (text : List Char) (binding : String × String) : List Char :=
  Text.replaceAll (token binding.1) binding.2.toList text

/-- A template with its variables replaced, one binding after the other. Variables without a
binding stay. -/
def render (template : String) (bindings : List (String × String)) : String :=
  String.ofList (bindings.foldl bind template.toList)

/-- The variables that have no binding. -/
def unbound (template : String) (bindings : Table String String) : List String :=
  (variableNames template).filter fun name => !bindings.contains name

end Runbook.AlarmTemplate
