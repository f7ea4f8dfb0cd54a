import CpeMatch.Number.Binary64

/-!
**Numbers with a fixed number of decimals.**

The exact binary value is rounded once, to the wanted decimal place, a half to the even neighbour.

Main definition: `CpeMatch.Number.fixedText`.
-/

set_option autoImplicit false

namespace CpeMatch.Number

/-- A natural number of units of `10 ^ -places`, written with that many decimals. -/
def unitsText (units places : Nat) : List Char :=
  let digits := Nat.toDigits 10 units
  let padded := List.replicate (places + 1 - digits.length) '0' ++ digits
  let whole := padded.take (padded.length - places)
  whole ++ if places = 0 then [] else '.' :: padded.drop (padded.length - places)

/-- The number `x` with `places` decimals. -/
def fixedText (x : Float) (places : Nat) : String :=
  let b := binaryOf x
  let body := match b.magnitude with
    | .nan => ['n', 'a', 'n']
    | .infinite => ['i', 'n', 'f']
    | .finite m e => unitsText (roundHalfEven (m * pow10 places * pow2 e) (pow2 (-e))) places
  let signed := match b.magnitude with
    | .nan => false
    | _ => b.negative
  String.ofList (if signed then '-' :: body else body)

end CpeMatch.Number
