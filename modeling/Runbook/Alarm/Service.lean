import Runbook.Alarm.Ports

/-!
# Alarm services in memory

Stacks, objects and datapoints kept as tables. Outcomes of stacks and failures of deletions can
be laid out in advance, and for single calls an answer can be queued that is given without
reaching the service.
-/

namespace Runbook

/-- A call that reached the stack service. -/
inductive StackCall where
  | create (name url : String)
  | status (name : String)
  | events (name : String)
  | delete (name : String)
deriving DecidableEq, Repr

/-- A query that reached the metric service. -/
structure MetricQuery where
  metric : Metric
  start : Int
  stop : Int

/-- What a stack came to: its status and its events. -/
structure StackOutcome where
  status : String
  events : List StackEvent
deriving DecidableEq, Repr

/-- The state of the services. -/
structure AlarmServices where
  live : Table String StackOutcome
  outcomes : List StackOutcome
  failingDeletes : List String
  objects : Table (String × String) String
  datapoints : Table (String × String) Nat
  calls : List StackCall
  queries : List MetricQuery

namespace AlarmServices

/-- Services that hold nothing. -/
def empty : AlarmServices :=
  ⟨Table.empty, [], [], Table.empty, Table.empty, [], []⟩

/-- Where an object can be read from. -/
def objectUrl (bucket key : String) : String :=
  "https://" ++ bucket ++ ".s3.amazonaws.com/" ++ key

/-- Store an object. -/
def putObject (services : AlarmServices) (bucket key body : String) :
    Except PortError String × AlarmServices :=
  if bucket.isEmpty then
    (.error (.invalidRequest "PutObject" key "bucket name is empty"), services)
  else
    (.ok (objectUrl bucket key),
      { services with objects := services.objects.insert (bucket, key) body })

/-- A call noted. -/
def note (services : AlarmServices) (call : StackCall) : AlarmServices :=
  { services with calls := services.calls ++ [call] }

/-- What a stack comes to where nothing else is laid out. -/
def success : StackOutcome := ⟨"CREATE_COMPLETE", []⟩

/-- Create a stack, which comes to the next outcome. -/
def createStack (services : AlarmServices) (name url : String) :
    Except PortError Unit × AlarmServices :=
  let services := services.note (.create name url)
  if services.live.contains name then
    (.error (.service "CreateStack" name "AlreadyExistsException"), services)
  else
    let outcome := services.outcomes.head?.getD success
    (.ok (),
      { services with
        outcomes := services.outcomes.drop 1
        live := services.live.insert name outcome })

/-- The status of a stack. -/
def stackStatus (services : AlarmServices) (name : String) :
    Except PortError (Option String) × AlarmServices :=
  let services := services.note (.status name)
  (.ok ((services.live.get? name).map StackOutcome.status), services)

/-- The history of a stack. -/
def stackEvents (services : AlarmServices) (name : String) :
    Except PortError (List StackEvent) × AlarmServices :=
  let services := services.note (.events name)
  match services.live.get? name with
  | some outcome => (.ok outcome.events, services)
  | none => (.error (.service "DescribeStackEvents" name "Stack does not exist"), services)

/-- Delete a stack. One that is not there counts as deleted. -/
def deleteStack (services : AlarmServices) (name : String) :
    Except PortError Unit × AlarmServices :=
  let services := services.note (.delete name)
  if services.failingDeletes.any fun lead => name.startsWith lead then
    (.error (.service "DeleteStack" name "DELETE_FAILED"), services)
  else (.ok (), { services with live := services.live.erase name })

/-- How many datapoints a metric has; the window does not matter here. -/
def sampleCount (services : AlarmServices) (metric : Metric) (start stop : Int) :
    Except PortError Nat × AlarmServices :=
  (.ok ((services.datapoints.get? (metric.space, metric.name)).getD 0),
    { services with queries := services.queries ++ [⟨metric, start, stop⟩] })

/-- The services as a manager calls them. -/
def ports : AlarmPorts AlarmServices where
  putObject := putObject
  createStack := createStack
  stackStatus := stackStatus
  stackEvents := stackEvents
  deleteStack := deleteStack
  sampleCount := sampleCount

/-- The services whose next stack comes to an outcome, after those that wait already. -/
def pushOutcome (services : AlarmServices) (outcome : StackOutcome) : AlarmServices :=
  { services with outcomes := services.outcomes ++ [outcome] }

/-- The services that cannot delete stacks whose names begin with a text. -/
def failDelete (services : AlarmServices) (lead : String) : AlarmServices :=
  { services with failingDeletes := services.failingDeletes ++ [lead] }

/-- The services with the datapoints of a metric set. -/
def setDatapoints (services : AlarmServices) (space name : String) (count : Nat) :
    AlarmServices :=
  { services with datapoints := services.datapoints.insert (space, name) count }

/-- A stored object. -/
def object? (services : AlarmServices) (bucket key : String) : Option String :=
  services.objects.get? (bucket, key)

end AlarmServices

/-- Queued answers to calls that do not reach the services. -/
structure QueuedAnswers where
  putObject : List PortError
  createStack : List PortError
  stackStatus : List (Except PortError (Option String))
  stackEvents : List PortError
  sampleCount : List PortError

/-- Services with queued answers in front of them. -/
structure ScriptedServices where
  services : AlarmServices
  queued : QueuedAnswers

namespace ScriptedServices

/-- Services that hold nothing, with nothing queued. -/
def empty : ScriptedServices := ⟨.empty, ⟨[], [], [], [], []⟩⟩

/-- A call that reaches the services. -/
def reach (scripted : ScriptedServices)
    (call : AlarmServices → Except PortError α × AlarmServices) :
    Except PortError α × ScriptedServices :=
  let (result, services) := call scripted.services
  (result, { scripted with services })

/-- Store an object. -/
def putObject (scripted : ScriptedServices) (bucket key body : String) :
    Except PortError String × ScriptedServices :=
  match scripted.queued.putObject with
  | error :: rest => (.error error, { scripted with queued.putObject := rest })
  | [] => scripted.reach fun services => services.putObject bucket key body

/-- Create a stack. -/
def createStack (scripted : ScriptedServices) (name url : String) :
    Except PortError Unit × ScriptedServices :=
  match scripted.queued.createStack with
  | error :: rest => (.error error, { scripted with queued.createStack := rest })
  | [] => scripted.reach fun services => services.createStack name url

/-- The status of a stack. -/
def stackStatus (scripted : ScriptedServices) (name : String) :
    Except PortError (Option String) × ScriptedServices :=
  match scripted.queued.stackStatus with
  | answer :: rest => (answer, { scripted with queued.stackStatus := rest })
  | [] => scripted.reach fun services => services.stackStatus name

/-- The history of a stack. -/
def stackEvents (scripted : ScriptedServices) (name : String) :
    Except PortError (List StackEvent) × ScriptedServices :=
  match scripted.queued.stackEvents with
  | error :: rest => (.error error, { scripted with queued.stackEvents := rest })
  | [] => scripted.reach fun services => services.stackEvents name

/-- Delete a stack. -/
def deleteStack (scripted : ScriptedServices) (name : String) :
    Except PortError Unit × ScriptedServices :=
  scripted.reach fun services => services.deleteStack name

/-- How many datapoints a metric has. -/
def sampleCount (scripted : ScriptedServices) (metric : Metric) (start stop : Int) :
    Except PortError Nat × ScriptedServices :=
  match scripted.queued.sampleCount with
  | error :: rest => (.error error, { scripted with queued.sampleCount := rest })
  | [] => scripted.reach fun services => services.sampleCount metric start stop

/-- The services as a manager calls them. -/
def ports : AlarmPorts ScriptedServices where
  putObject := putObject
  createStack := createStack
  stackStatus := stackStatus
  stackEvents := stackEvents
  deleteStack := deleteStack
  sampleCount := sampleCount

end ScriptedServices

end Runbook
