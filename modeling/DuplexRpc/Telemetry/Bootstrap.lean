import DuplexRpc.Telemetry.Config
import DuplexRpc.Telemetry.LogFilter
import DuplexRpc.Telemetry.Uri

/-!
Installing telemetry in a process. Four stages run in order: the exporter of traces, the exporter
of metrics, the log filter, and the subscriber. Each exporter takes its place in the process as
soon as it is built; the subscriber can be installed only once.

An exporter is known by the configuration that it was built from: one that replaces another of the
same configuration is not told apart from it, although it has a queue and a connection of its own.
The environment variables that can stand in for the log level or for the endpoint of a configuration
are not modelled; they are taken to be unset.
-/

namespace DuplexRpc.Telemetry

/-- What the exporters and the subscriber of a process were built from. -/
structure Installation where
  tracing : Option Config := none
  metering : Option Config := none
  subscriber : Option Config := none
  deriving DecidableEq, Repr

inductive BootstrapFault where
  | endpoint (text : String) (reason : UriFault)
  | filter (reason : FilterFault)
  | subscriberInstalled
  deriving DecidableEq, Repr

def BootstrapFault.message : BootstrapFault → String
  | .endpoint text reason => "invalid URI " ++ text ++ ". Reason " ++ reason.message
  | .filter reason => reason.message
  | .subscriberInstalled => "a global default trace dispatcher has already been set"

namespace Installation

private def checkEndpoint (c : Config) : Except BootstrapFault Unit :=
  match Uri.ofText c.endpoint with
  | .ok _ => .ok ()
  | .error reason => .error (.endpoint c.endpoint reason)

/-- What an exporter refuses of the endpoint. -/
def endpointFault? (c : Config) : Option BootstrapFault :=
  match Uri.ofText c.endpoint with
  | .ok _ => none
  | .error reason => some (.endpoint c.endpoint reason)

def installTraces (c : Config) (p : Installation) : Except BootstrapFault Installation :=
  if c.traces then do
    checkEndpoint c
    .ok { p with tracing := some c }
  else .ok p

def installMetrics (c : Config) (p : Installation) : Except BootstrapFault Installation :=
  if c.metrics then do
    checkEndpoint c
    .ok { p with metering := some c }
  else .ok p

theorem installTraces_eq (c : Config) (p : Installation) :
    p.installTraces c =
      if c.traces then
        match endpointFault? c with
        | some e => .error e
        | none => .ok { p with tracing := some c }
      else .ok p := by
  unfold installTraces checkEndpoint endpointFault?
  cases Uri.ofText c.endpoint <;> rfl

theorem installMetrics_eq (c : Config) (p : Installation) :
    p.installMetrics c =
      if c.metrics then
        match endpointFault? c with
        | some e => .error e
        | none => .ok { p with metering := some c }
      else .ok p := by
  unfold installMetrics checkEndpoint endpointFault?
  cases Uri.ofText c.endpoint <;> rfl

def installSubscriber (c : Config) (p : Installation) : Except BootstrapFault Installation :=
  match LogFilter.check c.logLevel with
  | .error reason => .error (.filter reason)
  | .ok () =>
    if p.subscriber.isSome then .error .subscriberInstalled
    else .ok { p with subscriber := some c }

/-- Runs the stages in order. What the stages before a failing one installed stays. -/
def install (p : Installation) (c : Config) : Except BootstrapFault Unit × Installation :=
  match p.installTraces c with
  | .error e => (.error e, p)
  | .ok p =>
    match p.installMetrics c with
    | .error e => (.error e, p)
    | .ok p =>
      match p.installSubscriber c with
      | .error e => (.error e, p)
      | .ok p => (.ok (), p)

/-- Values recorded on the instruments of a client can be seen until an exporter of metrics takes
them. -/
def showsReadings (p : Installation) : Bool := p.metering.isNone

end Installation
end DuplexRpc.Telemetry
