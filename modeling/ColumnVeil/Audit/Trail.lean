import ColumnVeil.Audit.Line
import ColumnVeil.Text.Case

/-!
# Audit trails

A trail keeps the events that its configuration lets through, in the order in which they
happened; the lines and the statistics of the log are functions of it.
-/

namespace ColumnVeil.Audit

/-- Which events are logged, and how. -/
structure Config where
  enabled : Bool := true
  /-- Write JSON lines instead of words. -/
  asJson : Bool := true
  /-- Keep the text of queries. -/
  logQueries : Bool := false
  /-- The least severity that is logged. -/
  threshold : Severity := .info
deriving DecidableEq, Repr

namespace Config

/-- Nothing is logged. -/
def disabled : Config := { enabled := false }

/-- A switch that is on if it says 1 or, in any case, true. -/
def isOn (text : String) : Bool :=
  text == "1" || Text.lowercase text == "true"

/-- The configuration under environment variables; a severity that is none is ignored. -/
def ofEnvironment (environment : List (String × String)) : Config :=
  let switch (name : String) (otherwise : Bool) : Bool :=
    ((environment.lookup name).map isOn).getD otherwise
  let named := (environment.lookup "PGTDE_AUDIT_MIN_SEVERITY").bind fun text =>
    Severity.ofWord? (Text.asciiCapitals text)
  let plain : Config := {}
  { enabled := switch "PGTDE_AUDIT_ENABLED" plain.enabled
    asJson := switch "PGTDE_AUDIT_JSON_FORMAT" plain.asJson
    logQueries := switch "PGTDE_AUDIT_LOG_QUERIES" plain.logQueries
    threshold := named.getD plain.threshold }

/-- What is kept of an event: nothing if it is below the threshold, and its query only if
queries are logged. -/
def admit? (config : Config) (event : Event) : Option Event :=
  if !config.enabled || event.severity.rank < config.threshold.rank then none
  else if config.logQueries then some event
  else some { event with query := none }

end Config

/-- The events that have been logged, the first of them first. -/
structure Trail where
  config : Config := {}
  events : List Event := []
deriving DecidableEq, Repr

/-- Numbers of events in a trail. -/
structure Statistics where
  total : Nat
  /-- Events that could not be written. -/
  unwritten : Nat
  bySeverity : List (String × Nat)
  byKind : List (String × Nat)
deriving DecidableEq, Repr

namespace Trail

/-- The trail after one more event. -/
def record (trail : Trail) (event : Event) : Trail :=
  { trail with events := trail.events ++ (trail.config.admit? event).toList }

/-- The lines of the events after the first `skipped`, without times. -/
def lines (trail : Trail) (skipped : Nat) : List Line :=
  (trail.events.drop skipped).map fun event => event.line trail.config.asJson none

/-- How many events there are under each of some names; names without events are left out. -/
def tally {α : Type} (events : List Event) (keys : List α) (name : α → String)
    (holds : Event → α → Bool) : List (String × Nat) :=
  (keys.map fun key => (name key, events.countP fun event => holds event key)).filter
    fun entry => entry.2 != 0

/-- The numbers of the events of a trail.  Every event has a line, so none is unwritten. -/
def statistics (trail : Trail) : Statistics where
  total := trail.events.length
  unwritten := 0
  bySeverity := tally trail.events Severity.all Severity.word fun event severity =>
    event.severity == severity
  byKind := tally trail.events EventKind.all EventKind.word fun event kind => event.kind == kind

end Trail

end ColumnVeil.Audit
