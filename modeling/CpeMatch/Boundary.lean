import CpeMatch.Json.Basic
import CpeMatch.Text.Lower

/-!
**Release boundaries.**

Some products share no code between their major releases, so that a range of all earlier versions ends
where the major release begins.  A boundary rule says for which vendors and products that holds.  Vendor
and product are values: texts, or nothing where they are unknown.

Main definitions:

* `CpeMatch.BoundaryRule` — a rule;
* `CpeMatch.BoundaryRule.ofProduct` — the rule for one product;
* `CpeMatch.BoundaryRule.standard` — the rules in force where none are given.
-/

set_option autoImplicit false

namespace CpeMatch

/-- A rule that says for which vendor and product ranges end at a major release.  It has an answer
wherever each of the two is a text or unknown. -/
structure BoundaryRule where
  /-- The name of a rule for one product. -/
  label : Option Text
  answer : Json → Json → Option Bool
  answers : ∀ vendor product : Option Text,
    (answer (.ofText? vendor) (.ofText? product)).isSome = true

namespace BoundaryRule

/-- The name that a value gives in lower case, empty where it gives none; nothing for a value that is
given and no text. -/
def nameOf? : Json → Option Text
  | .string s => some (Text.lower s)
  | v => if v.isTruthy then none else some (Text.lower Text.empty)

theorem isSome_nameOf?_ofText? (name : Option Text) : (nameOf? (.ofText? name)).isSome = true := by
  cases name <;> rfl

/-- The answer about a vendor and product of the rule for the vendor and product with the given names.
The product is looked at only if the vendor is the right one. -/
def productAnswer (vendorName productName : Text) (vendor product : Json) : Option Bool :=
  match nameOf? vendor with
  | none => none
  | some v => if v = vendorName then (nameOf? product).map (· == productName) else some false

theorem isSome_productAnswer (vendorName productName : Text) (vendor product : Option Text) :
    (productAnswer vendorName productName (.ofText? vendor) (.ofText? product)).isSome = true := by
  obtain ⟨v, hv⟩ := Option.isSome_iff_exists.mp (isSome_nameOf?_ofText? vendor)
  simp only [productAnswer, hv]
  split
  · simp [isSome_nameOf?_ofText? product]
  · rfl

/-- The rule for one product, in any letter case. -/
def ofProduct (vendor product : Text) : BoundaryRule :=
  let vendor := Text.lower vendor
  let product := Text.lower product
  { label := some ("vendor_product_rule[" ++ vendor ++ ":" ++ product ++ "]")
    answer := productAnswer vendor product
    answers := isSome_productAnswer vendor product }

/-- The rule that gives the same answer for every product. -/
def constant (answer : Bool) : BoundaryRule := ⟨none, fun _ _ => some answer, fun _ _ => rfl⟩

/-- Struts 2 is another code base than Struts 1. -/
def standard : List BoundaryRule := [ofProduct "apache" "struts"]

end BoundaryRule

end CpeMatch
