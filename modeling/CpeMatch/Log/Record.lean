import CpeMatch.Text.Basic

/-!
**Log records.**

Main definitions:

* `CpeMatch.Log.Level` — how grave a record is;
* `CpeMatch.Log.Record` — a message on a channel;
* `CpeMatch.Log.Channel` — the channels of the parts of this library.
-/

set_option autoImplicit false

namespace CpeMatch.Log

/-- How grave a record is. -/
inductive Level where
  | debug
  | info
  | warning
  | error
  | critical
  deriving DecidableEq, Inhabited

namespace Level

/-- The number that thresholds are compared with. -/
def value : Level → Int
  | debug => 10
  | info => 20
  | warning => 30
  | error => 40
  | critical => 50

/-- The name of a level. -/
def text : Level → String
  | debug => "DEBUG"
  | info => "INFO"
  | warning => "WARNING"
  | error => "ERROR"
  | critical => "CRITICAL"

end Level

/-- A message on a channel. -/
structure Record where
  level : Level
  channel : Text
  message : Text
  deriving DecidableEq, Inhabited

/-- The channels of the parts of this library. -/
inductive Channel where
  | matching
  | aggregation
  | lookup
  | store
  | console
  | document
  | command
  | timing
  deriving DecidableEq

namespace Channel

/-- The name of a channel. -/
def name : Channel → String
  | matching => "MatchingEngine"
  | aggregation => "Aggregator"
  | lookup => "VulnerabilityScanner"
  | store => "OfflineVulnerabilityStore"
  | console => "ConsoleFormatter"
  | document => "JSONFormatter"
  | command => "CLI"
  | timing => "Performance"

/-- The channels whose level is set when logging is set up. -/
def configured : List Channel := [matching, aggregation, lookup, store, console, document, command]

/-- A record on the channel. -/
def record (c : Channel) (level : Level) (message : Text) : Record := ⟨level, c.name, message⟩

end Channel

end CpeMatch.Log
