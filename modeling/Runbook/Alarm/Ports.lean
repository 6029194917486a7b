import Runbook.Alarm.Metric
import Runbook.PortError

/-!
# What alarms are deployed with

The calls that a manager of alarms makes: to store a template, to create, look at and delete a
stack, and to count datapoints. The services are given by what they answer in each of their
states.
-/

namespace Runbook

/-- An event in the history of a stack. -/
structure StackEvent where
  resource : String
  status : String
  reason : Option String
deriving DecidableEq, Repr

namespace StackEvent

/-- What the status of a failure ends in. -/
def failureEnding : String := "_FAILED"

/-- Does the event tell of a failure? -/
def isFailure (event : StackEvent) : Bool := event.status.endsWith failureEnding

/-- One line about an event. -/
def text (event : StackEvent) : String :=
  event.resource ++ " " ++ event.status ++ ": " ++ event.reason.getD ""

end StackEvent

/-- The services behind alarms, with states of type `σ`. -/
structure AlarmPorts (σ : Type) where
  putObject (services : σ) (bucket key body : String) : Except PortError String × σ
  createStack (services : σ) (name url : String) : Except PortError Unit × σ
  stackStatus (services : σ) (name : String) : Except PortError (Option String) × σ
  stackEvents (services : σ) (name : String) : Except PortError (List StackEvent) × σ
  deleteStack (services : σ) (name : String) : Except PortError Unit × σ
  sampleCount (services : σ) (metric : Metric) (start stop : Int) : Except PortError Nat × σ

end Runbook
