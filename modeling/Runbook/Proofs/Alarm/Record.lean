import Runbook.Alarm.Record

/-!
# Where calls to the services lead

`AlarmPorts.Trace` says which services a list of answered calls leads to.
-/

namespace Runbook

variable {σ : Type}

namespace AlarmPorts

/-- The services give an answer to a call, and are left as other services. -/
def Answers (ports : AlarmPorts σ) (before : σ) (after : σ) : PortCall → Prop
  | .putObject bucket key body answer => ports.putObject before bucket key body = (answer, after)
  | .createStack name url answer => ports.createStack before name url = (answer, after)
  | .stackStatus name answer => ports.stackStatus before name = (answer, after)
  | .stackEvents name answer => ports.stackEvents before name = (answer, after)
  | .deleteStack name answer => ports.deleteStack before name = (answer, after)
  | .sampleCount metric start stop answer =>
      ports.sampleCount before metric start stop = (answer, after)

/-- Answered calls lead from services to services. -/
inductive Trace (ports : AlarmPorts σ) : σ → List PortCall → σ → Prop where
  | none {services} : Trace ports services [] services
  | call {before between after call calls} (here : ports.Answers before between call)
      (later : Trace ports between calls after) : Trace ports before (call :: calls) after

end AlarmPorts

end Runbook
