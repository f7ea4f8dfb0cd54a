import CpeMatch.Grouping
import CpeMatch.Store.Loading

/-!
**Sources of affected software.**

A lookup needs two things of the data it works on: the rows of a product as a stream ordered by id, and
the details of a vulnerability by its id.  A loaded store gives both, and so does a plain list of rows
that says the same of every product.

Main definitions:

* `CpeMatch.Source` — what a lookup needs;
* `CpeMatch.Store.source` — a store as a source;
* `CpeMatch.RowList`, `CpeMatch.RowList.source` — a list of rows as a source.
-/

set_option autoImplicit false

namespace CpeMatch

open Timing

/-- What a lookup needs of the data `S` it works on. -/
structure Source (S : Type) where
  rows : Text → Text → Task Float S Fault (Stream Json)
  details : Json → Task Float S Fault (Option Vulnerability)

/-- A store as a source; it is loaded when it is first asked. -/
def Store.source (tree : Files.Tree) : Source Store where
  rows vendor product := Store.ask tree fun s =>
    (s.records vendor product).map fun rows => rows.map (·.toItem)
  details id := Store.ask tree fun s => s.get? id

/-- A row of a list: a row of a database, or an entry that has been read already. -/
inductive Row where
  | record (r : SoftwareRecord)
  | entry (id : Json) (e : Entry)

/-- The row as an item of a stream. -/
def Row.toItem : Row → Except Fault (Json × Entry)
  | record r => r.toItem
  | entry id e => .ok (id, e)

/-- A list of rows that says the same of every product, with the details of some ids. -/
structure RowList where
  rows : List Row
  details : List (Json.Key × Vulnerability)

namespace RowList

/-- The details of vulnerabilities by their ids, of which none may be an array or object. -/
def detailsOf (vs : List Vulnerability) : Except Fault (List (Json.Key × Vulnerability)) :=
  vs.mapM fun v => match v.id.key? with
    | some key => .ok (key, v)
    | none => .error .noKey

/-- The details under an id, the last of them if there are several. -/
def get? (l : RowList) (id : Json) : Except Fault (Option Vulnerability) :=
  match id.key? with
  | some key => .ok (l.details.reverse.lookup key)
  | none => .error .noKey

/-- A list of rows as a source. -/
def source : Source RowList where
  rows _ _ := do return (← Task.state).rows.map Row.toItem
  details id := do settle ((← Task.state).get? id)

end RowList

end CpeMatch
