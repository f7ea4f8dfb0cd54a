import CpeMatch.Boundary
import CpeMatch.Entry
import CpeMatch.Json.Shown
import CpeMatch.Version.Ranking

/-!
**Matching a version against the entries of a vulnerability.**

The entries are looked at in the order given.  An entry for every version applies at once.  An unknown
version lies in the first open range.  Otherwise, if the version's release line has an open range of its
own and other lines have some too, only the entries of its line remain; among what remains an entry for
exactly this version comes first, then the first open range that reaches up to it, where a boundary rule
keeps ranges of other lines from counting.

What is decided is one value, from which both the match and the messages for the log are read.  Where no
other reason decides, the boundary rules are asked, and vendor or product may be such that they have no
answer.

Main definitions:

* `CpeMatch.Identified` — the version to be matched, as far as it is known;
* `CpeMatch.Engine`, `CpeMatch.Engine.decide` — the rules in force, and what they decide;
* `CpeMatch.Decision.found?` — the match;
* `CpeMatch.Decision.messages` — the messages.
-/

set_option autoImplicit false

namespace CpeMatch

/-- The version to be matched: a value as it was given, or a version. -/
inductive Identified where
  | given (v : Json)
  | version (v : Version)

namespace Identified

/-- The version that is meant; unspecified for a value that is no text. -/
def toVersion : Identified → Version
  | given v => Version.ofJson v
  | version v => v

/-- A version with an update behind it, from values.  A value other than a text stands in for neither;
an update counts only behind a version that has a value. -/
def ofValues (version update : Json) : Except Fault Version :=
  match version, update with
  | .null, _ => .ok Version.unspecified
  | .string v, .null => .ok (Version.ofParts (some v) none)
  | .string v, .string u => .ok (Version.ofParts (some v) (some u))
  | .string v, _ =>
    if Version.hasValue (Text.strip v) then .error .notText else .ok Version.unspecified
  | _, _ => .error .notText

/-- The version as a summary names it, `-` where there is none. -/
def label : Identified → Text
  | given v => if v.isTruthy then v.plain else "-"
  | version v => v.text

end Identified

/-- The entries of other release lines have been left out. -/
structure Restriction where
  entries : Nat
  major : Option Version.Token
  remaining : Nat

/-- Which entry applies, and why. -/
inductive Verdict where
  | everyVersion (e : Entry)
  | unknownInRange (e : Entry)
  | exact (e : Entry)
  | within (e : Entry)
  | nothing
  /-- A boundary rule would have to decide, and has no answer about such a vendor or product. -/
  | unanswered

/-- What has been decided about the entries of a vulnerability. -/
structure Decision where
  restriction : Option Restriction
  /-- The open ranges passed over because of a release boundary. -/
  heldBack : List Entry
  verdict : Verdict

/-- The boundary rules in force. -/
structure Engine where
  rules : List BoundaryRule

namespace Engine

/-- The engine with the rules in force where none are given. -/
def standard : Engine := ⟨BoundaryRule.standard⟩

/-- The engine with a further rule. -/
def addRule (engine : Engine) (rule : BoundaryRule) : Engine := ⟨engine.rules ++ [rule]⟩

/-- Whether one of the rules applies to a vendor and product.  They are asked in turn, up to the first
that applies or has no answer. -/
def anyApplies (vendor product : Json) : List BoundaryRule → Option Bool
  | [] => some false
  | rule :: rest => match rule.answer vendor product with
    | some false => anyApplies vendor product rest
    | answer => answer

/-- Whether open ranges of a product end at its major releases; nothing if the rules have no answer. -/
def keepsBoundary? (engine : Engine) (vendor product : Json) : Option Bool :=
  anyApplies vendor product engine.rules

/-- The rules have an answer wherever vendor and product are texts or unknown. -/
theorem isSome_keepsBoundary? (engine : Engine) (vendor product : Option Text) :
    (engine.keepsBoundary? (.ofText? vendor) (.ofText? product)).isSome = true := by
  obtain ⟨rules⟩ := engine
  simp only [keepsBoundary?]
  induction rules with
  | nil => rfl
  | cons rule rest ih =>
    obtain ⟨answer, h⟩ := Option.isSome_iff_exists.mp (rule.answers vendor product)
    cases answer <;> simp [anyApplies, h, ih]

end Engine

/-- The open ranges among entries. -/
def openRanges (entries : List Entry) : List Entry := entries.filter (·.allPrior)

/-- The greatest open range of the release line of `v`. -/
def anchor? (v : Version) (entries : List Entry) : Option Entry :=
  Version.greatestBy? (·.version) ((openRanges entries).filter (·.version.sameMajor v))

/-- The number of release lines that have open ranges. -/
def openLines (entries : List Entry) : Nat :=
  ((openRanges entries).map (·.version.major)).eraseDups.length

/-- The entries that remain when other release lines are left out, and that they are. -/
def restrict (v : Version) (entries : List Entry) : List Entry × Option Restriction :=
  match anchor? v entries with
  | some a =>
    if 1 < openLines entries then
      let remaining := entries.filter (·.version.sameMajor a.version)
      (remaining, some ⟨entries.length, a.version.major, remaining.length⟩)
    else (entries, none)
  | none => (entries, none)

/-- Looks for the first open range that reaches up to `v`; `bounded` keeps ranges of other release
lines from counting.  Also gives those passed over. -/
def firstReaching (bounded : Bool) (v : Version) : List Entry → List Entry × Verdict
  | [] => ([], .nothing)
  | e :: rest =>
    if !e.allPrior || e.version < v then firstReaching bounded v rest
    else if bounded && !e.version.sameMajor v then
      let (passed, verdict) := firstReaching bounded v rest
      (e :: passed, verdict)
    else ([], .within e)

/-- Decides which entry applies to a version of a product. -/
def Engine.decide (engine : Engine) (identified : Version) (entries : List Entry)
    (vendor product : Json) : Decision :=
  match entries.find? (·.isUnspecified) with
  | some e => ⟨none, [], .everyVersion e⟩
  | none =>
    if identified.isUnspecified then
      match entries.find? (·.allPrior) with
      | some e => ⟨none, [], .unknownInRange e⟩
      | none => ⟨none, [], .nothing⟩
    else
      let (remaining, restriction) := restrict identified entries
      match remaining.find? fun e => !e.allPrior && e.version == identified with
      | some e => ⟨restriction, [], .exact e⟩
      | none => match engine.keepsBoundary? vendor product with
        | none => ⟨restriction, [], .unanswered⟩
        | some bounded =>
          let (passed, verdict) := firstReaching bounded identified remaining
          ⟨restriction, passed, verdict⟩

namespace Verdict

/-- The entry that applies. -/
def entry? : Verdict → Option Entry
  | everyVersion e | unknownInRange e | exact e | within e => some e
  | nothing | unanswered => none

/-- The fault of a decision that could not be made. -/
def fault? : Verdict → Option Fault
  | unanswered => some .notText
  | everyVersion _ | unknownInRange _ | exact _ | within _ | nothing => none

end Verdict

/-- A release line in a message. -/
def majorText (major : Option Version.Token) : Text := (major.map (·.text)).getD "None"

namespace Decision

/-- The match that has been decided. -/
def found? (d : Decision) : Option Match := d.verdict.entry?.map Match.ofEntry

/-- The fault of a decision that could not be made. -/
def fault? (d : Decision) : Option Fault := d.verdict.fault?

/-- The messages that say how the decision was reached. -/
def messages (d : Decision) (identified : Version) (vendor product : Json) : List Text :=
  let restriction : List Text := match d.restriction with
    | none => []
    | some r => ["Restricting " ++ toString r.entries ++ " entries to major version " ++
        majorText r.major ++ " (" ++ toString r.remaining ++ " remain)"]
  let passed : List Text := d.heldBack.map fun e =>
    e.cpe ++ " does not cross into major version " ++ majorText identified.major
  let verdict : List Text := match d.verdict with
    | .everyVersion e =>
      [e.cpe ++ " covers all versions of " ++ vendor.plain ++ ":" ++ product.plain]
    | .unknownInRange e => ["Unknown version matched open range " ++ e.cpe]
    | .exact e => [identified.text ++ " equals " ++ e.cpe]
    | .within e => [identified.text ++ " is at or before " ++ e.cpe]
    | .nothing | .unanswered => []
  restriction ++ passed ++ verdict

end Decision

/-- The match of a version against the entries of a vulnerability. -/
def Engine.match? (engine : Engine) (identified : Version) (entries : List Entry)
    (vendor product : Json) : Option Match :=
  (engine.decide identified entries vendor product).found?

end CpeMatch
