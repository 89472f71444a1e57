import DuplexRpc.Client.Settings
import DuplexRpc.Proofs.Replay

/-!
# Installing telemetry

A failing stage ends the installation, and the exporters that the stages before it put in their
places stay there.  The subscriber is what decides over the outcome of later demands, and a failed
one leaves it alone; so only the exporters tell that it was made, until later ones replace them.
-/

namespace DuplexRpc.Telemetry

/-- What an exporter takes. -/
inductive Signal where
  | traces
  | metrics

def Signal.enabled : Signal → Config → Bool
  | .traces, c => c.traces
  | .metrics, c => c.metrics

namespace Installation

/-! ## One installation -/

def exporter (p : Installation) : Signal → Option Config
  | .traces => p.tracing
  | .metrics => p.metering

theorem ext_exporter {p q : Installation} (exporters : p.exporter = q.exporter)
    (subscriber : p.subscriber = q.subscriber) : p = q := by
  have traces := congrFun exporters .traces
  have metrics := congrFun exporters .metrics
  cases p
  cases q
  simp_all [exporter]

/-- The exporters that a configuration asks for, in their places. -/
def exporting (p : Installation) (c : Config) : Installation :=
  { p with
    tracing := if c.traces then some c else p.tracing
    metering := if c.metrics then some c else p.metering }

@[simp] theorem exporting_subscriber (p : Installation) (c : Config) :
    (p.exporting c).subscriber = p.subscriber := rfl

@[simp] theorem exporting_exporter (p : Installation) (c : Config) (signal : Signal) :
    (p.exporting c).exporter signal = if signal.enabled c then some c else p.exporter signal := by
  cases signal <;> rfl

/-- What is wrong with the endpoint, if an exporter is asked for. -/
def exporterFault? (c : Config) : Option BootstrapFault :=
  if c.traces || c.metrics then endpointFault? c else none

/-- What is wrong with the filter, or else with installing a subscriber at all. -/
def subscriberFault? (p : Installation) (c : Config) : Option BootstrapFault :=
  match LogFilter.check c.logLevel with
  | .error reason => some (.filter reason)
  | .ok () => if p.subscriber.isSome then some .subscriberInstalled else none

theorem subscriberFault?_congr {p q : Installation} (same : p.subscriber = q.subscriber)
    (c : Config) : p.subscriberFault? c = q.subscriberFault? c := by
  rw [subscriberFault?, subscriberFault?, same]

theorem installSubscriber_eq (c : Config) (p : Installation) :
    p.installSubscriber c =
      match p.subscriberFault? c with
      | some e => .error e
      | none => .ok { p with subscriber := some c } := by
  unfold installSubscriber subscriberFault?
  cases LogFilter.check c.logLevel with
  | error reason => rfl
  | ok => cases p.subscriber <;> rfl

theorem install_eq (p : Installation) (c : Config) :
    p.install c =
      match exporterFault? c with
      | some e => (.error e, p)
      | none =>
        match p.subscriberFault? c with
        | some e => (.error e, p.exporting c)
        | none => (.ok (), { p.exporting c with subscriber := some c }) := by
  have same (tracing metering : Option Config) :
      subscriberFault? { tracing, metering, subscriber := p.subscriber } c =
        p.subscriberFault? c := subscriberFault?_congr rfl c
  unfold install exporterFault? exporting
  rw [installTraces_eq]
  cases c.traces <;> cases metrics : c.metrics <;> cases fault : endpointFault? c <;>
    cases installing : p.subscriberFault? c <;>
    simp [installMetrics_eq, installSubscriber_eq, metrics, fault, same, installing]

theorem install_outcome (p : Installation) (c : Config) :
    (p.install c).1 =
      match (exporterFault? c).or (p.subscriberFault? c) with
      | some e => .error e
      | none => .ok () := by
  rw [install_eq]
  cases exporterFault? c <;> cases p.subscriberFault? c <;> rfl

theorem install_subscriber (p : Installation) (c : Config) :
    (p.install c).2.subscriber =
      if ((exporterFault? c).or (p.subscriberFault? c)).isNone then some c
      else p.subscriber := by
  rw [install_eq]
  cases exporterFault? c <;> cases p.subscriberFault? c <;> simp

theorem install_failed_subscriber {p : Installation} {c : Config} {e : BootstrapFault}
    (failed : (p.install c).1 = .error e) : (p.install c).2.subscriber = p.subscriber := by
  rw [install_outcome] at failed
  rw [install_subscriber]
  cases fault : (exporterFault? c).or (p.subscriberFault? c) with
  | none => simp [fault] at failed
  | some _ => rfl

/-- An exporter takes its place whatever the subscriber has to say. -/
theorem install_exporter (p : Installation) (c : Config) (signal : Signal) :
    (p.install c).2.exporter signal =
      if signal.enabled c && (exporterFault? c).isNone then some c else p.exporter signal := by
  rw [install_eq]
  cases exporterFault? c with
  | some _ => simp
  | none =>
      cases p.subscriberFault? c with
      | some _ => simp
      | none => cases signal <;> simp [exporter, exporting, Signal.enabled]

end Installation

/-! ## Demands -/

variable {σ ω : Type}

/-- What asks a process for telemetry. -/
inductive Demand (σ : Type) where
  | bootstrap (config : Config)
  | build (settings : Client.Settings σ)

namespace Demand

inductive Answer (ω : Type) where
  | bootstrapped (outcome : Except BootstrapFault Unit)
  | built (outcome : Except Fault (Client ω × Option String))

def config : Demand σ → Option Config
  | .bootstrap config => some config
  | .build settings => settings.chosenTelemetry

/-- The configuration that a demand gives an exporter, whatever else becomes of it. -/
def exported (signal : Signal) (d : Demand σ) : Option Config :=
  d.config.filter fun c => signal.enabled c && (Installation.exporterFault? c).isNone

/-- The configuration that the last of the demands to do so gives an exporter. -/
def lastExported (signal : Signal) (ds : List (Demand σ)) : Option Config :=
  ds.reverse.findSome? (exported signal)

theorem lastExported_cons (signal : Signal) (d : Demand σ) (ds : List (Demand σ)) :
    lastExported signal (d :: ds) = (lastExported signal ds).or (d.exported signal) := by
  simp [lastExported, List.findSome?_append]

end Demand

namespace Installation

def perform (p : Installation) : Demand σ → Installation × List (Demand.Answer ω)
  | .bootstrap config =>
    let (outcome, installed) := p.install config
    (installed, [.bootstrapped outcome])
  | .build settings =>
    let (outcome, installed) := settings.build p
    (installed, [.built outcome])

/-- A client is built as the installation turns out, and keeps what that left. -/
theorem build_eq (s : Client.Settings σ) (p : Installation) :
    (s.build p : Except Fault (Client ω × Option String) × Installation) =
      match s.chosenTelemetry with
      | none => (.ok (Client.launch s.policy s.requestTimeout, none), p)
      | some c =>
        (match (p.install c).1 with
          | .ok () => .ok (Client.launch s.policy s.requestTimeout, some c.serviceName)
          | .error e => .error (.internal ("Failed to initialize observability: " ++ e.message)),
        (p.install c).2) := by
  unfold Client.Settings.build
  cases s.chosenTelemetry with
  | none => rfl
  | some c =>
      dsimp only
      rcases p.install c with ⟨_ | _, _⟩ <;> rfl

theorem perform_installs (p : Installation) (d : Demand σ) :
    (p.perform d : Installation × List (Demand.Answer ω)).1 =
      match d.config with
      | none => p
      | some c => (p.install c).2 := by
  cases d with
  | bootstrap c => rfl
  | build s =>
      simp only [perform, build_eq, Demand.config]
      cases s.chosenTelemetry <;> rfl

theorem perform_exporter (p : Installation) (d : Demand σ) (signal : Signal) :
    (p.perform d : Installation × List (Demand.Answer ω)).1.exporter signal =
      (d.exported signal).or (p.exporter signal) := by
  rw [perform_installs, Demand.exported]
  cases d.config with
  | none => rfl
  | some c =>
      simp only [install_exporter, Option.filter]
      split <;> simp_all

section

variable {p q : Installation} (same : p.subscriber = q.subscriber)
include same

theorem perform_answers (d : Demand σ) :
    (p.perform d : Installation × List (Demand.Answer ω)).2 = (q.perform d).2 := by
  cases d with
  | bootstrap c => simp only [perform, install_outcome, subscriberFault?_congr same]
  | build s =>
      simp only [perform, build_eq]
      cases s.chosenTelemetry <;> simp only [install_outcome, subscriberFault?_congr same]

theorem perform_subscriber (d : Demand σ) :
    (p.perform d : Installation × List (Demand.Answer ω)).1.subscriber =
      (q.perform d : Installation × List (Demand.Answer ω)).1.subscriber := by
  rw [perform_installs, perform_installs]
  cases d.config with
  | none => exact same
  | some c => simp only [install_subscriber, subscriberFault?_congr same, same]

/-- Whatever the exporters are, demands are met alike under one subscriber. -/
theorem replay_same_subscriber (ds : List (Demand σ)) :
    (replay (perform (ω := ω)) p ds).2 = (replay perform q ds).2 ∧
      (replay (perform (ω := ω)) p ds).1.subscriber =
        (replay (perform (ω := ω)) q ds).1.subscriber := by
  induction ds generalizing p q with
  | nil => exact ⟨rfl, same⟩
  | cons d ds ih =>
      obtain ⟨answers, subscriber⟩ := ih (perform_subscriber same d)
      simp only [replay_cons]
      exact ⟨by rw [perform_answers same, answers], subscriber⟩

end

theorem replay_exporter (p : Installation) (ds : List (Demand σ)) (signal : Signal) :
    (replay (perform (ω := ω)) p ds).1.exporter signal =
      (Demand.lastExported signal ds).or (p.exporter signal) := by
  induction ds generalizing p with
  | nil => rfl
  | cons d ds ih =>
      rw [replay_cons, ih, perform_exporter, Demand.lastExported_cons, Option.or_assoc]

theorem replay_installed_eq_iff {p : Installation} {c : Config}
    (same : (p.install c).2.subscriber = p.subscriber) (ds : List (Demand σ)) :
    (replay (perform (ω := ω)) (p.install c).2 ds).1 = (replay (perform (ω := ω)) p ds).1 ↔
      (exporterFault? c = none → ∀ signal, signal.enabled c = true →
        Demand.lastExported signal ds = none → p.exporter signal = some c) := by
  constructor
  · intro alike exporters signal enabled kept
    have alike := congrArg (·.exporter signal) alike
    simp only [replay_exporter, kept, Option.none_or] at alike
    rw [← alike, install_exporter, enabled, exporters]
    rfl
  · intro before
    refine ext_exporter (funext fun signal => ?_) (replay_same_subscriber same ds).2
    rw [replay_exporter, replay_exporter, install_exporter]
    cases kept : Demand.lastExported signal ds with
    | some _ => rfl
    | none =>
        split
        · next exported =>
            simp only [Bool.and_eq_true, Option.isNone_iff_eq_none] at exported
            rw [before exported.2 signal exported.1 kept]
        · rfl

/-- A failed installation leaves the subscriber, but keeps every exporter that it asked for, unless
an exporter was what failed.  Later demands are met as if it had not been made.  As far as exporters
are told apart, by their configurations, the process is as if it had not been made exactly if each
of those exporters has been set again since or had this configuration before. -/
theorem failed_install_keeps_exporters {p : Installation} {c : Config} {e : BootstrapFault}
    (failed : (p.install c).1 = .error e) :
    let left := (p.install c).2
    left.subscriber = p.subscriber ∧
    (∀ signal, left.exporter signal =
      if signal.enabled c && (exporterFault? c).isNone then some c else p.exporter signal) ∧
    (∀ s : Client.Settings σ, s.chosenTelemetry = some c →
      (s.build p : Except Fault (Client ω × Option String) × Installation) =
        (.error (.internal ("Failed to initialize observability: " ++ e.message)), left)) ∧
    ∀ later : List (Demand σ),
      let made := replay (perform (ω := ω)) left later
      let unmade := replay (perform (ω := ω)) p later
      made.2 = unmade.2 ∧ made.1.subscriber = unmade.1.subscriber ∧
      (∀ signal,
        made.1.exporter signal = (Demand.lastExported signal later).or (left.exporter signal) ∧
        unmade.1.exporter signal = (Demand.lastExported signal later).or (p.exporter signal)) ∧
      (made.1 = unmade.1 ↔ exporterFault? c = none → ∀ signal, signal.enabled c = true →
        Demand.lastExported signal later = none → p.exporter signal = some c) := by
  intro left
  have subscriber : left.subscriber = p.subscriber := install_failed_subscriber failed
  refine ⟨subscriber, p.install_exporter c, fun s telemetry => ?_, fun later => ?_⟩
  · rw [build_eq, telemetry]
    simp only [failed, left]
  · obtain ⟨answers, same⟩ := replay_same_subscriber (ω := ω) subscriber later
    exact ⟨answers, same,
      fun signal => ⟨left.replay_exporter later signal, p.replay_exporter later signal⟩,
      replay_installed_eq_iff subscriber later⟩

/-- No exporters, only a subscriber. -/
def quiet : Config := { traces := false, metrics := false }

theorem second_install_takes_readings :
    let p := (({} : Installation).install quiet).2
    (p.install {}).1 = .error .subscriberInstalled ∧ p.exporter .metrics = none ∧
      (p.install {}).2.exporter .metrics = some {} := by
  have failed : ((({} : Installation).install quiet).2.install {}).1 =
      .error .subscriberInstalled := rfl
  have kept := (failed_install_keeps_exporters (σ := Unit) (ω := Unit) failed).2.1 .metrics
  refine ⟨failed, rfl, ?_⟩
  rw [kept]
  rfl

/-- Readings are to be exported, but the log filter is none. -/
def misfiltered : Config where
  endpoint := "http://127.0.0.1:1"
  traces := false
  logs := false
  logLevel := "a=b"

theorem misfiltered_takes_readings :
    (({} : Installation).install misfiltered).1 = .error (.filter .badLevel) ∧
      (({} : Installation).install misfiltered).2.subscriber = none ∧
      ({} : Installation).showsReadings = true ∧
      (({} : Installation).install misfiltered).2.showsReadings = false :=
  ⟨rfl, rfl, rfl, rfl⟩

end Installation

end DuplexRpc.Telemetry
