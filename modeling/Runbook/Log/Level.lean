import Runbook.Text.Basic

/-!
# Levels of the log
-/

namespace Runbook

/-- How much is logged, from nothing to everything. -/
inductive LogLevel where
  | off
  | error
  | warn
  | info
  | debug
  | trace
deriving DecidableEq, Repr

namespace LogLevel

/-- The name of a level. -/
def name : LogLevel → String
  | off => "off"
  | error => "error"
  | warn => "warn"
  | info => "info"
  | debug => "debug"
  | trace => "trace"

/-- All levels, that of everything first. -/
def all : List LogLevel := [trace, debug, info, warn, error, off]

/-- The names of all levels. -/
def names : List String := all.map name

/-- The level that a word names in any case. -/
def ofWord? (text : List Char) : Option LogLevel :=
  let word := String.ofList (text.map Text.toLowerAscii)
  all.find? fun level => level.name = word

/-- The level of a number: nothing is logged at 0, everything at 5. -/
def ofNumber? : Nat → Option LogLevel
  | 0 => some off
  | 1 => some error
  | 2 => some warn
  | 3 => some info
  | 4 => some debug
  | 5 => some trace
  | _ => none

/-- The level that a text names or numbers. -/
def parse? (text : List Char) : Option LogLevel :=
  ((Text.natural? Text.maxWord text).bind ofNumber?).or (ofWord? text)

end LogLevel

end Runbook
