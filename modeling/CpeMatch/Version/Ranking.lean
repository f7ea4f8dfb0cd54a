import CpeMatch.Version.Basic

/-!
**Ranking versions.**

Main definitions:

* `CpeMatch.Version.sorted` — versions in ascending order, equal ones in the order given;
* `CpeMatch.Version.greatest?`, `CpeMatch.Version.least?` — the first of the greatest and of the least;
* `CpeMatch.Version.distinct` — one version of each class of equal ones;
* `CpeMatch.Version.greatestBy?` — the first item whose version is greatest.
-/

set_option autoImplicit false

namespace CpeMatch.Version

/-- The first item whose version is greatest. -/
def greatestBy? {α : Type} (version : α → Version) : List α → Option α
  | [] => none
  | x :: xs => some (xs.foldl (fun best y => if version best < version y then y else best) x)

/-- The first of the greatest versions. -/
def greatest? (vs : List Version) : Option Version := greatestBy? id vs

/-- The first of the least versions. -/
def least? : List Version → Option Version
  | [] => none
  | v :: vs => some (vs.foldl (fun best w => if w < best then w else best) v)

/-- The versions in ascending order, equal ones in the order given. -/
def sorted (vs : List Version) : List Version := vs.mergeSort fun v w => decide (v ≤ w)

/-- The first version of each class of equal ones. -/
def distinct (vs : List Version) : List Version := vs.eraseDups

end CpeMatch.Version
