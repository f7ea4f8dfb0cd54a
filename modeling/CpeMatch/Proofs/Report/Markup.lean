import Mathlib.Data.List.Basic
import CpeMatch.Proofs.Text.Encodable
import CpeMatch.Report.Console
import CpeMatch.Text.Blank
import CpeMatch.Text.Markup

/-!
**What a console can be expected to print.**

A console is expected to escape text by putting backslashes into it, and to print whatever is free of mistakes:
text from elsewhere stands in it escaped and between text without markup, so that no tag is opened or closed but
those that are meant; and it can be written.  A console can write all characters at least; one that writes octets
cannot write half of a surrogate pair, and one that keeps what it is handed can.  Nothing is expected once the
console has refused a thing.

Main definitions:

* `CpeMatch.Text.IsWritable` — a text that a console can write;
* `CpeMatch.Text.AddsSlashes` — text with backslashes put into it;
* `CpeMatch.Report.Marked` — marked-up text around text from elsewhere;
* `CpeMatch.Report.Printed.IsPrintable`, `CpeMatch.Report.Printed.IsPlain` — a thing that is free of mistakes;
* `CpeMatch.Report.Console.Lawful` — what is expected of a console.

Main result: `CpeMatch.Text.addsSlashes_escapeMarkup` — **escaping tags puts backslashes in**.
-/

set_option autoImplicit false

namespace CpeMatch

namespace Text

/-! ### Texts that can be written -/

/-- The code points that stand in the text are among those that a console can write. -/
def IsWritable (writes : CodePoint → Bool) (s : Text) : Prop := ∀ c ∈ s.points, writes c = true

instance (writes : CodePoint → Bool) (s : Text) : Decidable (s.IsWritable writes) :=
  inferInstanceAs (Decidable (∀ c ∈ s.points, _))

section

variable {writes : CodePoint → Bool} {s t : Text}

@[simp] theorem isWritable_append : (s ++ t).IsWritable writes ↔ s.IsWritable writes ∧ t.IsWritable writes :=
  List.forall_mem_append

theorem isWritable_empty : empty.IsWritable writes := List.forall_mem_nil _

/-- What stands in a text that can be written can be written. -/
theorem IsWritable.of_subset (hs : s.IsWritable writes) (h : t.points ⊆ s.points) : t.IsWritable writes :=
  fun c hc => hs c (h hc)

theorem isWritable_strip (hs : s.IsWritable writes) : (strip s).IsWritable writes := by
  refine hs.of_subset fun c hc => ?_
  rw [strip, stripPoints, List.mem_reverse] at hc
  exact (List.dropWhile_sublist _).subset (List.mem_reverse.1 ((List.dropWhile_sublist _).subset hc))

/-- A text without halves can be written where all characters can. -/
theorem IsEncodable.isWritable (hs : s.IsEncodable) (hwrites : ∀ c : Char, writes (.char c) = true) :
    s.IsWritable writes := by
  intro c hc
  cases c with
  | char c => exact hwrites c
  | surrogate n => cases hs _ hc

end

/-! ### Texts without markup -/

/-- Whether a code point has a meaning in marked-up text. -/
def isMark (c : CodePoint) : Bool := c = '[' || c = ']' || c = '\\'

/-- No bracket and no backslash stands in the text. -/
def IsBare (s : Text) : Prop := ∀ c ∈ s.points, isMark c = false

instance (s : Text) : Decidable s.IsBare := inferInstanceAs (Decidable (∀ c ∈ s.points, _))

@[simp] theorem isBare_append {s t : Text} : (s ++ t).IsBare ↔ s.IsBare ∧ t.IsBare := List.forall_mem_append

theorem isBare_empty : empty.IsBare := by decide

/-! ### Backslashes -/

/-- The code points `ds` are `cs` with backslashes put in. -/
inductive AddsSlashes : List CodePoint → List CodePoint → Prop where
  | nil : AddsSlashes [] []
  | keep (c : CodePoint) {cs ds : List CodePoint} (h : AddsSlashes cs ds) : AddsSlashes (c :: cs) (c :: ds)
  | slash {cs ds : List CodePoint} (h : AddsSlashes cs ds) : AddsSlashes cs (.char '\\' :: ds)

namespace AddsSlashes

variable {cs ds es fs : List CodePoint}

theorem refl (cs : List CodePoint) : AddsSlashes cs cs := by
  induction cs with
  | nil => exact nil
  | cons c cs ih => exact ih.keep c

theorem append (h : AddsSlashes cs ds) (h' : AddsSlashes es fs) : AddsSlashes (cs ++ es) (ds ++ fs) := by
  induction h with
  | nil => exact h'
  | keep c _ ih => exact ih.keep c
  | slash _ ih => exact ih.slash

theorem trans (h : AddsSlashes cs ds) (h' : AddsSlashes ds es) : AddsSlashes cs es := by
  induction h' generalizing cs with
  | nil => exact h
  | keep c _ ih =>
      cases h with
      | keep _ h => exact (ih h).keep c
      | slash h => exact (ih h).slash
  | slash _ ih => exact (ih h).slash

theorem replicate (n : Nat) : AddsSlashes [] (List.replicate n (.char '\\')) := by
  induction n with
  | zero => exact nil
  | succ n ih => exact ih.slash

/-- Whatever stands in the text has been there, the backslashes apart. -/
theorem mem (h : AddsSlashes cs ds) {d : CodePoint} (hd : d ∈ ds) : d = '\\' ∨ d ∈ cs := by
  induction h with
  | nil => cases hd
  | keep c _ ih =>
      rcases List.mem_cons.1 hd with rfl | hd
      · exact Or.inr (List.mem_cons_self ..)
      · exact (ih hd).imp_right (List.mem_cons_of_mem c)
  | slash _ ih =>
      rcases List.mem_cons.1 hd with rfl | hd
      · exact Or.inl rfl
      · exact ih hd

/-- What can be written can be written with backslashes in it. -/
theorem isWritable {s t : Text} (h : AddsSlashes s.points t.points) {writes : CodePoint → Bool}
    (hwrites : ∀ c : Char, writes (.char c) = true) (hs : s.IsWritable writes) : t.IsWritable writes := by
  intro c hc
  rcases h.mem hc with rfl | hc
  · exact hwrites '\\'
  · exact hs c hc

end AddsSlashes

theorem addsSlashes_escapeTags (slashes : Nat) (cs : List CodePoint) :
    AddsSlashes (List.replicate slashes (.char '\\') ++ cs) (escapeTags slashes cs) := by
  induction cs generalizing slashes with
  | nil =>
      rw [List.append_nil]
      exact .refl _
  | cons c cs ih =>
      rw [escapeTags]
      split
      next hslash =>
        have hsplit := ih (slashes + 1)
        rw [hslash]
        rwa [List.replicate_succ', List.append_assoc, List.singleton_append] at hsplit
      next =>
        split
        next =>
          have hdoubled : List.replicate (2 * slashes + 1) (CodePoint.char '\\') =
              List.replicate slashes (.char '\\') ++ List.replicate (slashes + 1) (.char '\\') := by
            rw [List.replicate_append_replicate]
            congr 1
            omega
          rw [hdoubled, List.append_assoc]
          exact (AddsSlashes.refl _).append ((AddsSlashes.replicate _).append ((ih 0).keep c))
        next => exact (AddsSlashes.refl _).append ((ih 0).keep c)

/-- **Escaping the tags of a text puts backslashes in.** -/
theorem addsSlashes_escapeMarkup (s : Text) : AddsSlashes s.points (escapeMarkup s).points := by
  have hclose : ∀ cs : List CodePoint, AddsSlashes cs (closeText cs) := by
    intro cs
    rw [closeText]
    split
    · exact .refl cs
    · have hend := (AddsSlashes.refl cs).append (AddsSlashes.replicate 1)
      rwa [List.append_nil] at hend
    · exact .refl cs
  exact (addsSlashes_escapeTags 0 s.points).trans (hclose _)

end Text

namespace Report

/-! ### What is free of mistakes -/

/-- What stands in a cell. -/
def Cell.content : Cell → Text
  | text s => s
  | styled s _ => s

/-- All that is printed can be written. -/
def Printed.IsWritable (writes : CodePoint → Bool) : Printed → Prop
  | line s => s.IsWritable writes
  | panel content title _ => content.IsWritable writes ∧ ∀ t ∈ title, t.IsWritable writes
  | table _ _ rows => ∀ row ∈ rows, ∀ cell ∈ row, cell.content.IsWritable writes

variable [Console]

/-- Marked-up text in which text from elsewhere stands escaped, between text without markup. -/
inductive Marked : Text → Prop where
  | bare {s : Text} (h : s.IsBare) : Marked s
  | around {before after : Text} (hbefore : before.IsBare) (s : Text) (hafter : after.IsBare) :
      Marked (before ++ Console.escape s ++ after)
  | red {s : Text} (h : Marked s) : Marked ("[red]" ++ s ++ "[/red]")

/-- Escaped text alone. -/
theorem Marked.escape (s : Text) : Marked (Console.escape s) := by
  have halone := Marked.around Text.isBare_empty s Text.isBare_empty
  rwa [Text.empty_append, Text.append_empty] at halone

/-- The marked-up text in a cell is free of mistakes. -/
def Cell.IsMarked : Cell → Prop
  | text s => Marked s
  | styled _ _ => True

/-- The marked-up text in what is printed is free of mistakes. -/
def Printed.IsMarked : Printed → Prop
  | line s => Marked s
  | panel content title _ => Marked content ∧ ∀ t ∈ title, Marked t
  | table title columns rows => Text.IsBare title ∧ (∀ c ∈ columns, Text.IsBare c.header) ∧
      ∀ row ∈ rows, ∀ cell ∈ row, cell.IsMarked

/-- There is no reason to refuse it: it can be written, and its markup is free of mistakes. -/
structure Printed.IsPrintable (writes : CodePoint → Bool) (p : Printed) : Prop where
  marked : p.IsMarked
  writable : p.IsWritable writes

/-- There is no reason to refuse it wherever all characters can be written. -/
def Printed.IsPlain (p : Printed) : Prop :=
  ∀ writes : CodePoint → Bool, (∀ c : Char, writes (.char c) = true) → p.IsPrintable writes

/-- What is expected of a console that can write given code points: that all characters are among these, that it
escapes text by putting backslashes in, and that it prints what there is no reason to refuse, as long as it has
refused nothing. -/
structure Console.Lawful (writes : CodePoint → Bool) : Prop where
  characters : ∀ c : Char, writes (.char c) = true
  addsSlashes : ∀ s, Text.AddsSlashes s.points (Console.escape s).points
  prints : ∀ printed p, Printed.IsPrintable writes p → Console.fault? printed [] p = none

namespace Console.Lawful

variable {writes : CodePoint → Bool} (hconsole : Console.Lawful writes)

include hconsole

theorem isWritable_ofString (s : String) : (Text.ofString s).IsWritable writes :=
  (Text.isEncodable_ofString s).isWritable hconsole.characters

theorem isWritable_escape {s : Text} (hs : s.IsWritable writes) : (Console.escape s).IsWritable writes :=
  (hconsole.addsSlashes s).isWritable hconsole.characters hs

end Console.Lawful

end Report

end CpeMatch
