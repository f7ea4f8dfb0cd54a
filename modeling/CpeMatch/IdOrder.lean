import CpeMatch.Json.Order

/-!
**The order of ids.**

Ids are opaque: nothing is asked of them but whether two of them are equal and, when rows or items are to
be sorted, which of two comes first.  Some pairs of ids have no order, and what holds such a pair cannot
be sorted.

Main definitions:

* `CpeMatch.IdOrder` — ids that can be sorted, some pairs of them at least;
* `CpeMatch.sortById?` — things in ascending order of their ids, if these can be sorted.
-/

set_option autoImplicit false

namespace CpeMatch

/-- Ids that can be sorted, some pairs of them at least. -/
class IdOrder (ι : Type) where
  /-- Whether the first id comes before the second; nothing if the two have no order. -/
  precedes? : ι → ι → Option Bool

instance : IdOrder Text := ⟨fun a b => some (a < b)⟩

instance : IdOrder Json := ⟨Json.precedes?⟩

section

variable {ι α : Type} [IdOrder ι]

/-- Whether every two of the ids have an order. -/
def allOrdered : List ι → Bool
  | [] => true
  | a :: rest => rest.all (fun b => (IdOrder.precedes? a b).isSome) && allOrdered rest

/-- The things in ascending order of their ids, those of equal ids in the order given; nothing if two
of the ids have no order. -/
def sortById? (id : α → ι) (things : List α) : Option (List α) :=
  if allOrdered (things.map id) then
    some (things.mergeSort fun a b => IdOrder.precedes? (id b) (id a) ≠ some true)
  else none

end

end CpeMatch
