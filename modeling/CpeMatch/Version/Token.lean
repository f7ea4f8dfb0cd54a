import CpeMatch.Text.Letter
import CpeMatch.Text.CaseFold

/-!
**Version tokens.**

The text of a version falls into maximal runs of decimal digits and maximal runs of letters; all
other code points only separate.  A run of digits is a token with its value, a run of letters one with
its case folding.

Main definitions:

* `CpeMatch.Version.Token` — the tokens, with their order: words by code points, numbers by value,
  and every word before every number;
* `CpeMatch.Version.runs` — the maximal runs of code points of one class;
* `CpeMatch.Version.scan` — the tokens of a text;
* `CpeMatch.Version.usableTokens` — the tokens of a text that can serve as a version.
-/

set_option autoImplicit false

namespace CpeMatch.Version

/-- A token of a version. -/
inductive Token where
  | number (n : Nat)
  | word (w : Text)
  deriving DecidableEq, Inhabited, Hashable

namespace Token

/-- The token as it is shown. -/
def text : Token → Text
  | number n => toString n
  | word w => w

/-- The order of tokens: a word comes before a number. -/
def compare : Token → Token → Ordering
  | word v, word w => Ord.compare v w
  | word _, number _ => .lt
  | number _, word _ => .gt
  | number m, number n => Ord.compare m n

instance : Ord Token := ⟨compare⟩

@[simp] theorem compare_word_word (v w : Text) :
    Ord.compare (word v) (word w) = Ord.compare v w := rfl

@[simp] theorem compare_word_number (v : Text) (n : Nat) :
    Ord.compare (word v) (number n) = .lt := rfl

@[simp] theorem compare_number_word (m : Nat) (w : Text) :
    Ord.compare (number m) (word w) = .gt := rfl

@[simp] theorem compare_number_number (m n : Nat) :
    Ord.compare (number m) (number n) = Ord.compare m n := rfl

end Token

/-- What a code point is to a version. -/
inductive CharClass where
  | digit
  | letter
  | separator
  deriving DecidableEq

/-- The class of a code point. -/
def classOf (c : CodePoint) : CharClass :=
  if Text.isDigit c then .digit else if Text.isLetter c then .letter else .separator

/-- Whether two code points are of one class. -/
def sameClass (a b : CodePoint) : Bool := classOf a = classOf b

/-- The maximal runs of code points of one class. -/
def runs (cs : List CodePoint) : List (List CodePoint) := cs.splitBy sameClass

/-- The token of a run; separators have none. -/
def tokenOf? (run : List CodePoint) : Option Token :=
  match run with
  | [] => none
  | c :: _ => match classOf c with
    | .digit => some (.number (Text.natOfDigits run))
    | .letter => some (.word ⟨Text.foldPoints run⟩)
    | .separator => none

/-- The tokens of a text, whether or not it can serve as a version. -/
def scan (cs : List CodePoint) : List Token := (runs cs).filterMap tokenOf?

/-- The greatest length of a run of digits whose value is computed. -/
def digitLimit : Nat := 4300

/-- Whether a run is one of digits and too long to be computed. -/
def isTooLong (run : List CodePoint) : Bool :=
  (run.head?.any fun c => classOf c = .digit) && digitLimit < run.length

/-- The tokens of a text that can serve as a version: it has a digit, and no run of digits is too
long.  Any other text has none. -/
def usableTokens (cs : List CodePoint) : List Token :=
  if cs.any Text.isDigit && !(runs cs).any isTooLong then scan cs else []

@[simp] theorem runs_nil : runs [] = [] := rfl

@[simp] theorem scan_nil : scan [] = [] := rfl

end CpeMatch.Version
