import CpeMatch.Files.Tree
import CpeMatch.Json.Writer
import CpeMatch.Timing.Monitor
import CpeMatch.Text.Utf8
import CpeMatch.Vulnerability

/-!
**Reports as documents.**

Main definitions:

* `CpeMatch.Report.lookupDocument` — the report of a lookup as a value;
* `CpeMatch.Report.summaryJson` — the times of operations as a value;
* `CpeMatch.Report.save` — writing a value to a file, and what is said about it.
-/

set_option autoImplicit false

namespace CpeMatch.Report

/-- A number with leading zeros up to a width. -/
def padded (width n : Nat) : String :=
  let digits := toString n
  String.ofList (List.replicate (width - digits.length) '0') ++ digits

/-- A date and time as documents bear it; a whole second has no decimals. -/
def momentText (year month day hour minute second microsecond : Nat) : String :=
  padded 4 year ++ "-" ++ padded 2 month ++ "-" ++ padded 2 day ++ "T" ++
    padded 2 hour ++ ":" ++ padded 2 minute ++ ":" ++ padded 2 second ++
    if microsecond = 0 then "" else "." ++ padded 6 microsecond

/-- The report of a lookup, if the severities of what has been found can be told.  Further members are
added if they are given. -/
def lookupDocument (cpe : Json) (found : List Vulnerability) (time : Json) (moment : String)
    (further : Json) : Except Fault Json := do
  let vulnerabilities ← found.mapM (·.toJson)
  let members : List (Text × Json) :=
    [("scan_summary", .object
      [("cpe", cpe),
       ("total_vulnerabilities", .int found.length),
       ("scan_time_seconds", time),
       ("timestamp", .string moment)]),
     ("vulnerabilities", .array vulnerabilities)]
  let added : List (Text × Json) := if further.isTruthy then [("metadata", further)] else []
  return .object (members ++ added)

/-- The totals of an operation as a value. -/
def totalsJson (t : Timing.OperationTotals Float) : Json :=
  .object
    [("calls", .int t.calls),
     ("total_time", .float t.time),
     ("max_time", .float t.greatest),
     ("items", .number t.items)]

/-- The times of operations as a value. -/
def summaryJson (summary : Option (Timing.Summary Float)) : Json :=
  match summary with
  | none => .object []
  | some s => .object
    [("total_executions", .int s.executions),
     ("total_time", .float s.time),
     ("average_time", .float s.average),
     ("operations", .object (s.operations.map fun (name, t) => (name, totalsJson t)))]

/-- The outcome of saving: the files, what is said, and the fault if there is one. -/
structure Saved where
  tree : Files.Tree
  log : List Log.Record
  fault : Option Fault

/-- What is said of a file that could not be opened: nothing of a path that the operating system does not
get to see. -/
def refusal (path : Text) (cause : FileFault) : List Log.Record :=
  if cause.isSystem then
    [Log.Channel.document.record .error
      ("Failed to save results to " ++ path ++ ": " ++ cause.message path)]
  else []

/-- Writes a value to the file at a path, as an indented document.  A document that cannot be written to
its end is left as far as it could be. -/
def save (tree : Files.Tree) (results : Json) (path : Option Files.Path) : Saved :=
  match path with
  | none => ⟨tree, [], some .noOutputPath⟩
  | some path =>
    let (bytes, rest) := results.octets
    match tree.write path bytes, rest with
    | .ok tree, none =>
      ⟨tree, [Log.Channel.document.record .info ("Results saved to " ++ path.text)], none⟩
    | .ok tree, some cause => ⟨tree, [], some (.unencodable cause)⟩
    | .error cause, _ => ⟨tree, refusal path.text cause, some (.file cause path.text)⟩

end CpeMatch.Report
