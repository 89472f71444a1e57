import DuplexRpc.Backoff
import DuplexRpc.Client.Basic
import DuplexRpc.Decimal.Reading
import DuplexRpc.Telemetry.Bootstrap

/-!
How a client is set up. Settings are changed one at a time and the last change of each counts. A
strategy of the caller's own replaces the backoff, whatever else is set.
-/

namespace DuplexRpc

open DuplexRpc.Telemetry

inductive Backoff.Strategy where
  | exponential (curve : Backoff.Exponential Float)
  | never

/-- The delay before the next attempt. `drawn` is the jitter drawn for it, in milliseconds. -/
def Backoff.Strategy.nextDelay (drawn : UInt64) (attempt : Nat) :
    Backoff.Strategy → Option Backoff.Nanoseconds
  | .exponential curve => curve.nextDelay attempt drawn
  | .never => none

/-- Settings, with strategies of the caller's own of type `σ`. -/
structure Client.Settings (σ : Type) where
  curve : Backoff.Exponential Float := Backoff.Exponential.standard
  strategy : Option (Backoff.Strategy ⊕ σ) := none
  requestTimeout : Option Time := none
  policy : PendingPolicy := .keepAcrossReconnect
  telemetry : Option Config := none
  serviceName : Option String := none

inductive Client.Setting (σ : Type) where
  | baseInterval (delay : Backoff.Nanoseconds)
  | maxInterval (delay : Backoff.Nanoseconds)
  | decay (factor : Decimal.Binary64)
  | maxAttempts (attempts : Nat)
  | jitter
  | strategy (strategy : σ)
  | withoutReconnect
  | requestTimeout (timeout : Time)
  | policy (policy : PendingPolicy)
  | telemetry (config : Config)
  | serviceName (name : String)

namespace Client.Settings

variable {σ : Type}

def apply (s : Settings σ) : Setting σ → Settings σ
  | .baseInterval delay => { s with curve := { s.curve with base := delay } }
  | .maxInterval delay => { s with curve := { s.curve with ceiling := delay } }
  | .decay factor => { s with curve := { s.curve with decay := factor.toFloat } }
  | .maxAttempts attempts => { s with curve := { s.curve with maxAttempts := some attempts } }
  | .jitter => { s with curve := { s.curve with jitter := true } }
  | .strategy strategy => { s with strategy := some (.inr strategy) }
  | .withoutReconnect => { s with strategy := some (.inl .never) }
  | .requestTimeout timeout => { s with requestTimeout := some timeout }
  | .policy policy => { s with policy }
  | .telemetry config => { s with telemetry := some config }
  | .serviceName name => { s with serviceName := some name }

def chosenStrategy (s : Settings σ) : Backoff.Strategy ⊕ σ :=
  s.strategy.getD (.inl (.exponential s.curve))

/-- The telemetry to install, under the service name of the client if it has one. -/
def chosenTelemetry (s : Settings σ) : Option Config :=
  s.telemetry.map fun config =>
    match s.serviceName with
    | some name => { config with serviceName := name }
    | none => config

/-- Installs telemetry if asked for, and launches the client. The name under which its readings
are recorded comes with it; a client without telemetry records none. -/
def build {ω : Type} (s : Settings σ) (installed : Installation) :
    Except Fault (Client ω × Option String) × Installation :=
  let client : Client ω := Client.launch s.policy s.requestTimeout
  match s.chosenTelemetry with
  | none => (.ok (client, none), installed)
  | some config =>
    match installed.install config with
    | (.ok (), installed) => (.ok (client, some config.serviceName), installed)
    | (.error e, installed) =>
      (.error (.internal ("Failed to initialize observability: " ++ e.message)), installed)

end Client.Settings
end DuplexRpc
