import Runbook.Alarm.Ports

/-!
# Services with a record of their calls

`AlarmPorts.recorded` notes every call to the services together with its answer and lets the
services answer as before.
-/

namespace Runbook

variable {σ : Type}

/-- A call to the services with the answer to it. -/
inductive PortCall where
  | putObject (bucket key body : String) (answer : Except PortError String)
  | createStack (name url : String) (answer : Except PortError Unit)
  | stackStatus (name : String) (answer : Except PortError (Option String))
  | stackEvents (name : String) (answer : Except PortError (List StackEvent))
  | deleteStack (name : String) (answer : Except PortError Unit)
  | sampleCount (metric : Metric) (start stop : Int) (answer : Except PortError Nat)

/-- Services with all calls to them so far. -/
structure Recorded (σ : Type) where
  services : σ
  calls : List PortCall

/-- What the services answer to a call, with the call noted. -/
def Recorded.note {α : Type} (recorded : Recorded σ) (call : Except PortError α → PortCall)
    (result : Except PortError α × σ) : Except PortError α × Recorded σ :=
  (result.1, ⟨result.2, recorded.calls ++ [call result.1]⟩)

namespace AlarmPorts

/-- The services with a record of their calls. -/
def recorded (ports : AlarmPorts σ) : AlarmPorts (Recorded σ) where
  putObject recorded bucket key body :=
    recorded.note (.putObject bucket key body) (ports.putObject recorded.services bucket key body)
  createStack recorded name url :=
    recorded.note (.createStack name url) (ports.createStack recorded.services name url)
  stackStatus recorded name :=
    recorded.note (.stackStatus name) (ports.stackStatus recorded.services name)
  stackEvents recorded name :=
    recorded.note (.stackEvents name) (ports.stackEvents recorded.services name)
  deleteStack recorded name :=
    recorded.note (.deleteStack name) (ports.deleteStack recorded.services name)
  sampleCount recorded metric start stop :=
    recorded.note (.sampleCount metric start stop)
      (ports.sampleCount recorded.services metric start stop)

end AlarmPorts

end Runbook
