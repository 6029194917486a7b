import Runbook.Json.Basic

/-!
# Where settings come from

A setting is a value with its source. The command line goes before the environment, and the
environment before what is built in.
-/

namespace Runbook

/-- Where a value came from. A value of the environment came from a variable. -/
inductive Source where
  | builtIn
  | environment (key : String)
  | commandLine
deriving DecidableEq, Repr

namespace Source

/-- The name of a source as people read it. -/
def name : Source → String
  | builtIn => "default"
  | environment _ => "environment"
  | commandLine => "command line"

/-- The name of a source in records. -/
def word : Source → String
  | builtIn => "default"
  | environment _ => "environment"
  | commandLine => "command_line"

/-- The variable that a value came from. -/
def key? : Source → Option String
  | environment key => some key
  | _ => none

/-- The display text of a source. -/
def text (source : Source) : String :=
  match source.key? with
  | some key => source.name ++ " (" ++ key ++ ")"
  | none => source.name

end Source

/-- A value with its source. -/
structure Sourced (α : Type) where
  value : α
  source : Source
deriving DecidableEq, Repr

namespace Sourced

/-- A value that gives way to one from the command line. -/
def overriddenBy (setting : Sourced α) : Option α → Sourced α
  | some value => ⟨value, .commandLine⟩
  | none => setting

/-- The setting as a JSON object. -/
def toJson (encode : α → Json) (setting : Sourced α) : Json :=
  Json.ofMembers
    [("value", encode setting.value),
      ("source", .string setting.source.word),
      ("var_name", Json.ofOption .string setting.source.key?)]

end Sourced

end Runbook
