import CpeMatch.Number.Places
import CpeMatch.Report.Printed
import CpeMatch.Timing.Monitor
import CpeMatch.Vulnerability

/-!
**Reports for the console.**

What a console makes of a thing that it is handed is its own affair: reports and commands are written for any
console, and ask it only to escape text from elsewhere and to print.

Main definitions:

* `CpeMatch.Report.Console` — what a report and a command need of a console;
* `CpeMatch.Report.summaryPanel`, `CpeMatch.Report.findingsTable` — the two parts of the report of a
  lookup;
* `CpeMatch.Report.lookupReport` — the report of a lookup, as far as it can be shown;
* `CpeMatch.Report.comparison` — how two versions are read and ordered;
* `CpeMatch.Report.timings` — the times of operations.
-/

set_option autoImplicit false

namespace CpeMatch.Report

/-- A console: how text from elsewhere is escaped for it, and what keeps it from printing a thing, given what it
has printed and what it has refused before. -/
class Console where
  escape : Text → Text
  fault? : (printed refused : List Printed) → Printed → Option Fault

variable [Console]

/-- The number of characters of a description that are shown. -/
def previewLength : Nat := 60

/-- A number with fixed decimals, if it is not beyond their range. -/
def decimals (n : Number) (places : Nat) : Except Fault Text :=
  match n.toFloat? with
  | some x => .ok (Number.fixedText x places)
  | none => .error .beyondFloats

/-- A value with fixed decimals, which only numbers and truth values have. -/
def valueDecimals (v : Json) (places : Nat) : Except Fault Text :=
  match v with
  | .string _ => .error .textForDecimals
  | v => match v.asNumber? with
    | some n => decimals n places
    | none => .error .notShowable

/-- A value as text that is escaped for the console; only a text can be shown. -/
def escaped : Json → Except Fault Text
  | .string s => .ok (Console.escape s)
  | _ => .error .notShowable

/-- The panel above the findings of a lookup. -/
def summaryPanel (cpe : Json) (found : List Vulnerability) (time : Json) : Except Fault Printed := do
  let severities ← found.mapM (·.severity)
  let name ← escaped cpe
  let seconds ← valueDecimals time 3
  let content := "Software: " ++ name ++ "\n" ++
    "Vulnerabilities: " ++ toString found.length ++
      " (" ++ toString (severities.filter (· = .high)).length ++ " high)\n" ++
    "Lookup time: " ++ seconds ++ "s"
  return if found.isEmpty then .panel content (some "No vulnerabilities found") "green"
    else .panel content (some ("Found " ++ toString found.length ++ " vulnerabilities!")) "red"

/-- The style of a score. -/
def severityStyle : Severity → String
  | .high => "red bold"
  | .medium => "yellow"
  | .low => "blue"
  | .unknown => "white"

/-- As much of a text as is shown of a description. -/
def previewText (s : Text) : Text :=
  if previewLength < s.length then ⟨s.points.take previewLength⟩ ++ "..." else s

/-- As much of a description as is shown; one that has no length, or cannot be cut, is not. -/
def preview : Json → Except Fault Json
  | .string s => .ok (.string (previewText s))
  | .array items => if previewLength < items.length then .error .notShowable else .ok (.array items)
  | .object members =>
    if previewLength < members.length then .error .notShowable else .ok (.object members)
  | .null | .bool _ | .number _ => .error .notShowable

/-- A score as it is shown. -/
def scoreText : Json → Except Fault Text
  | .null => .ok "-"
  | v => valueDecimals v 1

/-- The row of a finding.  Its description is cut and its score written before any of it is shown. -/
def findingRow (v : Vulnerability) : Except Fault (List Cell) := do
  let description ← preview v.description
  let score ← scoreText v.score
  let id ← escaped v.id
  let cpe ← match v.found with
    | some m => escaped m.cpe
    | none => .ok "-"
  let severity ← v.severity
  let shown ← escaped description
  return [
    .text id,
    .text cpe,
    .text (if v.found.any (·.allPrior) then "Y" else Text.empty),
    .styled score (severityStyle severity),
    .text shown]

/-- The table of findings. -/
def findingsTable (found : List Vulnerability) : Except Fault Printed := do
  let rows ← found.mapM findingRow
  return .table "Vulnerabilities Found"
    [⟨"ID", .left, "red", true⟩, .styled "Matched CPE" "cyan", .aligned "All prior" .center,
      .aligned "CVSS" .right, .styled "Description" "white"]
    rows

/-- A report as far as it can be shown, and the fault that ends it. -/
structure Shown where
  printed : List Printed
  fault : Option Fault

/-- Prints a part of a report ahead of the rest, unless it cannot be shown. -/
def Shown.after (part : Except Fault Printed) (rest : Shown) : Shown :=
  match part with
  | .ok p => ⟨p :: rest.printed, rest.fault⟩
  | .error f => ⟨[], some f⟩

/-- The end of a report. -/
def Shown.done : Shown := ⟨[], none⟩

/-- The report of a lookup. -/
def lookupReport (cpe : Json) (found : List Vulnerability) (time : Json) : Shown :=
  Shown.after (summaryPanel cpe found time)
    (Shown.after
      (if found.isEmpty then .ok (.panel "No vulnerabilities found!" none "green")
        else findingsTable found)
      Shown.done)

/-! ### Versions -/

/-- The tokens of a version in one text. -/
def tokensText (v : Version) : Text :=
  if v.isUnspecified then "(unspecified)" else Text.intercalate " . " (v.tokens.map (·.text))

/-- The row of a version in a comparison. -/
def versionRow (v : Version) : List Cell :=
  [.text (Console.escape v.text), .text (tokensText v),
    .text ((v.major.map (·.text)).getD "-")]

/-- The sign between two versions. -/
def orderSign : Ordering → String
  | .lt => "<"
  | .eq => "=="
  | .gt => ">"

/-- How two versions are read and ordered. -/
def comparison (left right : Version) : List Printed :=
  [.table "Version Comparison"
    [.styled "Input" "cyan", .aligned "Tokens" .left, .aligned "Major" .right]
    [versionRow left, versionRow right],
   .line ("[bold]" ++ Console.escape left.text ++ " " ++ orderSign (left.compare right) ++ " " ++
     Console.escape right.text ++ "[/bold]")]

/-! ### Times -/

/-- Whether a number is an integer with too many digits to be written. -/
def isLongNumeral : Number → Bool
  | .whole n => Json.integerDigits < (toString n.natAbs).length
  | .binary _ => false

/-- A number as a text, if it can be written. -/
def numeral (n : Number) : Except Fault Text :=
  if isLongNumeral n then .error .longNumeral else .ok n.text

/-- The row of an operation. -/
def timingRow (name : Text) (t : Timing.OperationTotals Float) : Except Fault (List Cell) := do
  return [.text name, .text (toString t.calls), .text (← numeral t.items),
    .text (Number.fixedText t.time 4 ++ "s"), .text (Number.fixedText t.greatest 4 ++ "s")]

/-- The times of operations; nothing is printed where none are recorded. -/
def timings (summary : Option (Timing.Summary Float)) : Except Fault (List Printed) :=
  match summary with
  | none => .ok []
  | some s => do
    let rows ← s.operations.mapM fun (name, t) => timingRow name t
    return [.table "Performance Summary"
      [.styled "Operation" "cyan", .aligned "Calls" .right, .aligned "Items" .right,
        ⟨"Total", .right, "green", false⟩, .aligned "Max" .right]
      rows]

end CpeMatch.Report
