import Runbook.Json.Basic

/-!
# Logs of test scenarios

The log of a scenario begins when the scenario starts, and its last entry says how it ended.
-/

namespace Runbook

/-- The phases of a scenario. -/
inductive ScenarioPhase where
  | setup
  | execute
  | verify
  | teardown
deriving DecidableEq, Repr

namespace ScenarioPhase

/-- The name of a phase. -/
def name : ScenarioPhase → String
  | setup => "setup"
  | execute => "execute"
  | verify => "verify"
  | teardown => "teardown"

/-- All phases in order. -/
def all : List ScenarioPhase := [setup, execute, verify, teardown]

/-- The phase of a name. -/
def parse? (text : String) : Option ScenarioPhase := all.find? fun phase => phase.name = text

end ScenarioPhase

/-- An entry in the log of a scenario. -/
structure ScenarioEntry where
  phase : ScenarioPhase
  message : String
  data : Option Json

/-- The log of a scenario. -/
structure ScenarioLog where
  scenario : String
  entries : List ScenarioEntry

namespace ScenarioLog

/-- The log of a scenario that starts. -/
def start (scenario : String) : ScenarioLog := ⟨scenario, [⟨.setup, "TEST START", none⟩]⟩

/-- A log with one more entry. -/
def add (log : ScenarioLog) (phase : ScenarioPhase) (message : String) (data : Option Json) :
    ScenarioLog :=
  { log with entries := log.entries ++ [⟨phase, message, data⟩] }

/-- The log of a scenario that ends, well or not. -/
def finish (log : ScenarioLog) (failed : Bool) : ScenarioLog :=
  log.add .teardown (if failed then "TEST FAILED" else "TEST PASSED") none

/-- An entry of a log as a JSON object. -/
def entryJson (log : ScenarioLog) (entry : ScenarioEntry) : Json :=
  Json.ofMembers
    ([("test_name", .string log.scenario), ("phase", .string entry.phase.name),
      ("message", .string entry.message)]
      ++ (entry.data.map fun data => ("data", data)).toList)

end ScenarioLog

end Runbook
