import CpeMatch.Cpe
import CpeMatch.IdOrder

/-!
**Entries of affected software.**

A vulnerability lists the software it affects.  An entry is a single version, or the range of a version
and all earlier ones; an entry whose version is unspecified stands for every version of its product.
What a database says of a row is kept as the value that it is, and is read only when the entry is needed.

Main definitions:

* `CpeMatch.Entry` — an entry, and `CpeMatch.Entry.ofCpe`;
* `CpeMatch.SoftwareRecord` — a row of a database that lists one entry under an id;
* `CpeMatch.Match` — the entry that makes a vulnerability apply.
-/

set_option autoImplicit false

namespace CpeMatch

/-- One entry of affected software. -/
structure Entry where
  cpe : Text
  vendor : Text
  product : Text
  versionText : Text
  version : Version
  /-- The mark that the entry affects its version and all earlier ones, as it was given. -/
  mark : Json
  deriving Inhabited

namespace Entry

/-- The entry of the software that a CPE name says. -/
def ofCpe (c : Cpe) (mark : Json) : Entry :=
  { cpe := c.text
    vendor := c.vendor
    product := c.product
    versionText := c.versionText
    version := c.version
    mark }

/-- The entry that a value says, which has to be a CPE name if it is given. -/
def ofJson (name mark : Json) : Except Fault Entry := (Cpe.ofJson name).map (ofCpe · mark)

/-- Whether the entry affects all earlier versions. -/
def allPrior (e : Entry) : Bool := e.mark.isTruthy

/-- Whether the entry stands for every version. -/
def isUnspecified (e : Entry) : Bool := e.version.isUnspecified

@[simp] theorem ofJson_string (name : Text) (mark : Json) :
    ofJson (.string name) mark = .ok (ofCpe (Cpe.parse name) mark) := rfl

end Entry

/-- A row that lists a piece of software under the id of a vulnerability. -/
structure SoftwareRecord where
  id : Json
  cpe : Json
  /-- A mark that earlier versions are affected too, unless it says nothing. -/
  previous : Json
  deriving Inhabited

namespace SoftwareRecord

/-- A row under an id, which has to be given. -/
def make (id cpe previous : Json) : Except Fault SoftwareRecord :=
  if id.isTruthy then .ok ⟨id, cpe, previous⟩ else .error .emptyId

/-- Whether the row affects all earlier versions. -/
def allPrior (r : SoftwareRecord) : Bool := r.previous.isTruthy

/-- The entry that a row lists. -/
def toEntry (r : SoftwareRecord) : Except Fault Entry := Entry.ofJson r.cpe (.bool r.allPrior)

/-- The row as an item of a stream. -/
def toItem (r : SoftwareRecord) : Except Fault (Json × Entry) := r.toEntry.map (r.id, ·)

end SoftwareRecord

/-- The entry that makes a vulnerability apply to a version. -/
structure Match where
  cpe : Json
  versionText : Json
  mark : Json
  deriving Inhabited

namespace Match

/-- The match that an entry makes. -/
def ofEntry (e : Entry) : Match := ⟨.string e.cpe, .string e.versionText, e.mark⟩

/-- The version as the entry writes it, `-` where it writes none. -/
def matchedVersion (m : Match) : Json := m.versionText.orElse (.string "-")

/-- Whether the match is with a range of all earlier versions. -/
def allPrior (m : Match) : Bool := m.mark.isTruthy

end Match

end CpeMatch
