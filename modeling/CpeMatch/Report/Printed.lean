import CpeMatch.Text.Basic

/-!
**What is printed.**

A report is a list of things for the console: lines of marked-up text, panels and tables.  How they are
laid out is left to the console.

Main definitions: `CpeMatch.Report.Column`, `CpeMatch.Report.Cell`, `CpeMatch.Report.Printed`.
-/

set_option autoImplicit false

namespace CpeMatch.Report

/-- How the cells of a column are aligned. -/
inductive Alignment where
  | left
  | center
  | right
  deriving DecidableEq

/-- The name of an alignment. -/
def Alignment.text : Alignment → String
  | left => "left"
  | center => "center"
  | right => "right"

/-- A column of a table. -/
structure Column where
  header : String
  alignment : Alignment
  style : String
  /-- The cells are not broken into lines. -/
  unbroken : Bool
  deriving DecidableEq

/-- A column in a style, aligned to the left. -/
def Column.styled (header style : String) : Column := ⟨header, .left, style, false⟩

/-- A column without a style. -/
def Column.aligned (header : String) (alignment : Alignment) : Column :=
  ⟨header, alignment, "", false⟩

/-- A cell of a table. -/
inductive Cell where
  /-- Marked-up text. -/
  | text (s : Text)
  /-- Plain text in a style. -/
  | styled (s : Text) (style : String)
  deriving DecidableEq

/-- A thing that is printed. -/
inductive Printed where
  /-- A line of marked-up text. -/
  | line (s : Text)
  | panel (content : Text) (title : Option Text) (style : String)
  | table (title : String) (columns : List Column) (rows : List (List Cell))
  deriving DecidableEq

end CpeMatch.Report
