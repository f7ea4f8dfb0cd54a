import CpeMatch.Text.Basic

/-!
**Wildcards.**

A wildcard pattern describes names: `*` stands for any characters, `?` for one, and a bracket for one
character of a set.  In a set a hyphen between two characters makes a range; a range that runs backwards
is left out, and a `!` that the rest of the set begins with turns it into its complement.  A bracket that
is not closed stands for itself.

Main definitions:

* `CpeMatch.Files.Piece`, `CpeMatch.Files.piecesOf` — the pieces of a pattern;
* `CpeMatch.Files.Piece.take` — what a piece can leave of a name;
* `CpeMatch.Files.matchesPieces`, `CpeMatch.Files.matchesName` — whether a name fits.
-/

set_option autoImplicit false

namespace CpeMatch.Files

/-- A part of a set of characters. -/
inductive Span where
  | single (c : CodePoint)
  | range (first last : CodePoint)

/-- Whether a character belongs to a part of a set. -/
def Span.holds (c : CodePoint) : Span → Bool
  | single d => c = d
  | range first last => first ≤ c && c ≤ last

/-- A set of characters in brackets, or the complement of one. -/
structure Bracket where
  complement : Bool
  spans : List Span

/-- Whether a character is in a set. -/
def Bracket.holds (b : Bracket) (c : CodePoint) : Bool := b.spans.any (Span.holds c) != b.complement

/-- A piece of a pattern. -/
inductive Piece where
  | star
  | anyOne
  | one (c : CodePoint)
  | bracket (b : Bracket)

/-- Whether a pattern needs matching, rather than being a name. -/
def isWildcard (cs : List CodePoint) : Bool := cs.any fun c : CodePoint => c = '*' || c = '?' || c = '['

/-- Whether a code point does not close a bracket. -/
def isInside (c : CodePoint) : Bool := c ≠ ']'

/-- The text of a set at the start of a text that follows an opening bracket, and what follows its
closing bracket.  A closing bracket that comes first, or right after the mark of the complement, is part
of the set. -/
def bracketText (cs : List CodePoint) : Option (List CodePoint × List CodePoint) :=
  let (mark, rest) : List CodePoint × List CodePoint := match cs with
    | .char '!' :: r => ([.char '!'], r)
    | r => ([], r)
  let (first, rest) : List CodePoint × List CodePoint := match rest with
    | .char ']' :: r => ([.char ']'], r)
    | r => ([], r)
  let body := rest.takeWhile isInside
  match rest.dropWhile isInside with
  | [] => none
  | _ :: after => some (mark ++ first ++ body, after)

/-- Reads a set character by character.  The hyphen after a character makes a range with the one that
follows, unless that is the end of the set. -/
def spansOf : List CodePoint → List Span
  | c :: .char '-' :: d :: rest => if d < c then spansOf rest else .range c d :: spansOf rest
  | c :: rest => .single c :: spansOf rest
  | [] => []

/-- The set of the given parts.  A first `!` is the mark of the complement, also where it begins a
range, of which the hyphen and the end then remain. -/
def Bracket.ofSpans : List Span → Bracket
  | .single (.char '!') :: rest => ⟨true, rest⟩
  | .range (.char '!') last :: rest => ⟨true, .single (.char '-') :: .single last :: rest⟩
  | spans => ⟨false, spans⟩

/-- The set that the text between brackets describes. -/
def bracketOf (text : List CodePoint) : Bracket :=
  match text with
  | .char '!' :: rest => ⟨true, spansOf rest⟩
  | rest => Bracket.ofSpans (spansOf rest)

/-- The pieces of a pattern.  A piece takes a character at least. -/
def piecesFrom : Nat → List CodePoint → List Piece
  | 0, _ => []
  | _ + 1, [] => []
  | fuel + 1, c :: cs =>
    if c = '*' then .star :: piecesFrom fuel cs
    else if c = '?' then .anyOne :: piecesFrom fuel cs
    else if c = '[' then
      match bracketText cs with
      | some (text, rest) => .bracket (bracketOf text) :: piecesFrom fuel rest
      | none => .one c :: piecesFrom fuel cs
    else .one c :: piecesFrom fuel cs

/-- The pieces of a pattern. -/
def piecesOf (pattern : List CodePoint) : List Piece := piecesFrom pattern.length pattern

/-- Whether a piece other than a star stands for a character. -/
def Piece.admits (p : Piece) (c : CodePoint) : Bool :=
  match p with
  | star => false
  | anyOne => true
  | one d => c = d
  | bracket b => b.holds c

/-- The characters, and what is left of them after each. -/
def suffixes : List CodePoint → List (List CodePoint)
  | [] => [[]]
  | c :: cs => (c :: cs) :: suffixes cs

/-- What is left of a name once a piece has taken its characters, in every way in which it can, where the
pieces ahead of it have left what is given.  The longest comes first, and nothing comes twice: so there is
never more than there are ends of the name. -/
def Piece.take (p : Piece) (left : List (List CodePoint)) : List (List CodePoint) :=
  match p, left with
  | star, [] => []
  | star, longest :: _ => suffixes longest
  | p, left => left.filterMap fun
    | [] => none
    | c :: cs => if p.admits c then some cs else none

/-- Whether characters fit the pieces of a pattern. -/
def matchesPieces (ps : List Piece) (cs : List CodePoint) : Bool :=
  (ps.foldl (fun left p => p.take left) [cs]).any List.isEmpty

/-- Whether a name fits a pattern. -/
def matchesName (pattern name : Text) : Bool :=
  matchesPieces (piecesOf pattern.points) name.points

end CpeMatch.Files
