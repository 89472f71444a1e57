/-!
What is exported about a client, and where to.
-/

namespace DuplexRpc.Telemetry

structure Config where
  serviceName : String := "tether"
  serviceVersion : String := "0.1.0"
  endpoint : String := "http://localhost:4317"
  traces : Bool := true
  metrics : Bool := true
  logs : Bool := true
  logLevel : String := "info"
  deriving DecidableEq, Repr

inductive Config.Change where
  | endpoint (value : String)
  | logLevel (value : String)
  | version (value : String)
  | traces (enable : Bool)
  | metrics (enable : Bool)
  | logs (enable : Bool)
  deriving DecidableEq, Repr

def Config.apply (c : Config) : Config.Change → Config
  | .endpoint value => { c with endpoint := value }
  | .logLevel value => { c with logLevel := value }
  | .version value => { c with serviceVersion := value }
  | .traces enable => { c with traces := enable }
  | .metrics enable => { c with metrics := enable }
  | .logs enable => { c with logs := enable }

def Config.build (service : Option String) (changes : List Config.Change) : Config :=
  changes.foldl Config.apply { serviceName := service.getD "tether" }

end DuplexRpc.Telemetry
