import CpeMatch.Text.Basic

/-!
**Console markup.**

On a console with markup a tag such as `[bold]` changes the style of what follows it.  Text that comes from
elsewhere is escaped before it is shown: a bracket that would open a tag gets a backslash, the
backslashes ahead of it are doubled, and a single backslash at the end of the text is doubled too.
Nothing else is escaped, be it a name between colons that a console may take for a pictograph.

Main definitions:

* `CpeMatch.Text.opensTag` — whether what follows an opening bracket makes it a tag;
* `CpeMatch.Text.escapeMarkup` — text with nothing in it that is taken for a tag;
* `CpeMatch.Text.withoutMarkup` — what is left to read of marked-up text.
-/

set_option autoImplicit false

namespace CpeMatch.Text

/-- Whether a character can come first in a tag. -/
def startsTag (c : CodePoint) : Bool :=
  c.isChar fun c => ('a' ≤ c && c ≤ 'z') || c = '#' || c = '/' || c = '@'

/-- Whether the text after an opening bracket makes it a tag: a first character of a tag, and a
closing bracket before any further opening one. -/
def opensTag : List CodePoint → Bool
  | [] => false
  | c :: cs => startsTag c && (cs.find? fun d : CodePoint => d = ']' || d = '[') == some (.char ']')

/-- Escapes the tags of a text that follows `slashes` backslashes. -/
def escapeTags (slashes : Nat) : List CodePoint → List CodePoint
  | [] => List.replicate slashes (.char '\\')
  | c :: cs =>
    if c = '\\' then escapeTags (slashes + 1) cs
    else if c = '[' && opensTag cs then
      List.replicate (2 * slashes + 1) (.char '\\') ++ c :: escapeTags 0 cs
    else List.replicate slashes (.char '\\') ++ c :: escapeTags 0 cs

/-- Doubles a backslash that stands alone at the end of a text. -/
def closeText (cs : List CodePoint) : List CodePoint :=
  match cs.reverse with
  | .char '\\' :: .char '\\' :: _ => cs
  | .char '\\' :: _ => cs ++ [.char '\\']
  | _ => cs

/-- The text with a backslash ahead of each tag in it. -/
def escapeMarkup (s : Text) : Text := ⟨closeText (escapeTags 0 s.points)⟩

/-- What is left to read of marked-up text that follows `slashes` backslashes; the flag tells that the
text is inside a tag.  Two backslashes ahead of a tag stand for one, and the last of an odd number keeps
the tag from being one. -/
def readMarkup (inTag : Bool) (slashes : Nat) : List CodePoint → List CodePoint
  | [] => List.replicate slashes (.char '\\')
  | c :: cs =>
    if inTag then readMarkup (c ≠ ']') 0 cs
    else if c = '\\' then readMarkup false (slashes + 1) cs
    else if c = '[' && opensTag cs then
      List.replicate (slashes / 2) (.char '\\') ++
        if slashes % 2 = 1 then c :: readMarkup false 0 cs else readMarkup true 0 cs
    else List.replicate slashes (.char '\\') ++ c :: readMarkup false 0 cs

/-- What is left to read of marked-up text where styles cannot be shown. -/
def withoutMarkup (s : Text) : Text := ⟨readMarkup false 0 s.points⟩

end CpeMatch.Text
