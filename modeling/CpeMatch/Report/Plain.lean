import CpeMatch.Report.Printed
import CpeMatch.Text.Markup

/-!
**Plain text.**

What is printed, as lines of plain text for a console that shows no styles.  The columns of a table are as
wide as their widest cell.  This stands for what a console makes of the things that it is handed, and only the
program that is run by hand uses it: nothing else depends on how they look.

Main definitions:

* `CpeMatch.Report.Alignment.fill` — a text in a column of a given width;
* `CpeMatch.Report.Printed.lines` — the lines of what is printed.
-/

set_option autoImplicit false

namespace CpeMatch.Report

/-- A text of blanks. -/
def blanks (n : Nat) : Text := .ofChars (List.replicate n ' ')

/-- A text filled up to a width. -/
def Alignment.fill (a : Alignment) (width : Nat) (s : Text) : Text :=
  let missing := width - s.length
  let before := match a with
    | left => 0
    | center => missing / 2
    | right => missing
  blanks before ++ s ++ blanks (missing - before)

/-- What there is to read in a cell. -/
def Cell.plain : Cell → Text
  | text s => Text.withoutMarkup s
  | styled s _ => s

/-- The width of each column, given the rows below the headers. -/
def columnWidths (columns : List Column) (rows : List (List Text)) : List Nat :=
  rows.foldl (fun widths row => widths.zipWith (fun w s => max w s.length) row)
    (columns.map (·.header.length))

/-- A row as a line, with two blanks between its cells. -/
def rowLine (columns : List Column) (widths : List Nat) (row : List Text) : Text :=
  Text.intercalate "  "
    ((columns.zip (widths.zip row)).map fun (c, w, s) => c.alignment.fill w s)

/-- The lines of what is printed. -/
def Printed.lines : Printed → List Text
  | line s => [Text.withoutMarkup s]
  | panel content title _ => title.toList ++ Text.split '\n' (Text.withoutMarkup content)
  | table title columns rows =>
    let shown := rows.map fun row => row.map Cell.plain
    let widths := columnWidths columns shown
    let headers := columns.map fun c => (c.header : Text)
    title :: rowLine columns widths headers :: shown.map (rowLine columns widths)

end CpeMatch.Report
