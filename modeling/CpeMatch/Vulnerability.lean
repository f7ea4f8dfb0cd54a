import CpeMatch.Entry

/-!
**Vulnerabilities.**

A vulnerability has an id, which is always given, and a description, a weakness, a score, a score vector,
references and the software it affects.  What a database supplies is kept as the values that it is.  A
vulnerability that has been found for a piece of software carries the match that found it.

Main definitions:

* `CpeMatch.Vulnerability`, `CpeMatch.Vulnerability.make` — the type, and how one is made;
* `CpeMatch.Severity`, `CpeMatch.Vulnerability.severity` — how grave a vulnerability is, by its score;
* `CpeMatch.Vulnerability.toJson` — what is reported of it.
-/

set_option autoImplicit false

namespace CpeMatch

/-- A reference to something said elsewhere about a vulnerability. -/
structure Reference where
  source : Json
  name : Json
  url : Json
  deriving Inhabited

/-- How grave a vulnerability is. -/
inductive Severity where
  | unknown
  | low
  | medium
  | high
  deriving DecidableEq

/-- The name of a severity. -/
def Severity.text : Severity → String
  | unknown => "UNKNOWN"
  | low => "LOW"
  | medium => "MEDIUM"
  | high => "HIGH"

/-- The severity of a score: high from seven on, medium from four on.  A score other than a number or
truth value cannot be compared. -/
def Severity.ofScore : Json → Except Fault Severity
  | .null => .ok unknown
  | v => match v.asNumber? with
    | none => .error .unordered
    | some n =>
      .ok (if n.atLeast (.whole 7) then high else if n.atLeast (.whole 4) then medium else low)

/-- A vulnerability. -/
structure Vulnerability where
  id : Json
  description : Json
  weakness : Json
  score : Json
  vector : Json
  references : List Reference
  software : List SoftwareRecord
  /-- The match that found it. -/
  found : Option Match
  deriving Inhabited

namespace Vulnerability

/-- The description of a vulnerability that is given none. -/
def noDescription : Text := "No description available"

/-- A vulnerability with the given parts, if its id is given. -/
def make (v : Vulnerability) : Except Fault Vulnerability :=
  if v.id.isTruthy then .ok { v with description := v.description.orElse (.string noDescription) }
  else .error .emptyId

/-- How grave the vulnerability is. -/
def severity (v : Vulnerability) : Except Fault Severity := Severity.ofScore v.score

/-- The vulnerability as found by a match. -/
def foundBy (v : Vulnerability) (m : Match) : Vulnerability := { v with found := some m }

/-- A reference as a value. -/
def referenceJson (r : Reference) : Json :=
  .object [("source", r.source), ("name", r.name), ("url", r.url)]

/-- What is reported of the vulnerability, if its severity can be told. -/
def toJson (v : Vulnerability) : Except Fault Json :=
  v.severity.map fun severity => .object
    [("id", v.id),
     ("description", v.description),
     ("cwe", v.weakness),
     ("cvss_score", v.score),
     ("cvss_vector", v.vector),
     ("severity", .string severity.text),
     ("references", .array (v.references.map referenceJson)),
     ("matched_cpe", (v.found.map (·.cpe)).getD .null),
     ("matched_version", (v.found.map (·.matchedVersion)).getD .null),
     ("affects_all_prior", (v.found.map (·.mark)).getD .null)]

end Vulnerability

end CpeMatch
