import CpeMatch.Command.Request
import CpeMatch.Log.Setup
import CpeMatch.Lookup
import CpeMatch.Report.Console
import CpeMatch.Report.Document
import CpeMatch.Text.Markup

/-!
**Running a command.**

A command works on files, prints, writes to the log and ends with a status.  A fault that is foreseen is
reported in one line and gives the status one; any other ends the command.  The console may refuse to print
a thing, and this is a fault like any other: it may be reported in its turn, on the same console.

Main definitions:

* `CpeMatch.Command.Setting`, `CpeMatch.Command.Ending` — what a command is run with, and how it ends;
* `CpeMatch.Command.check`, `CpeMatch.Command.products`, `CpeMatch.Command.stats` — the commands that
  work on a database;
* `CpeMatch.Command.run` — running a request;
* `CpeMatch.Command.plainConsole` — a console that prints whatever it is handed.
-/

set_option autoImplicit false

namespace CpeMatch.Command

open Timing Report

variable [Console]

/-- The version of this program. -/
def programVersion : String := "0.1.0"

/-- What a command is run with. -/
structure Setting where
  tree : Files.Tree
  clock : Clock Float
  /-- Timings are announced in the log. -/
  announcing : Bool
  /-- The date and time that documents bear. -/
  moment : String

/-- What a command works on: the files, what the console has printed and what it has refused, and the
lookups. -/
structure State where
  tree : Files.Tree
  printed : Array Printed
  refused : Array Printed
  lookups : LookupState Store

/-- A task of a command. -/
abbrev CommandTask (α : Type) := Task Float State Fault α

/-- Hands a thing over to the console. -/
def print (p : Printed) : CommandTask Unit := do
  let s ← Task.state
  match Console.fault? s.printed.toList s.refused.toList p with
  | none => Task.change fun s => { s with printed := s.printed.push p }
  | some f =>
    Task.change fun s => { s with refused := s.refused.push p }
    throw f

/-- Prints things one after another. -/
def printAll : List Printed → CommandTask Unit
  | [] => pure ()
  | p :: rest => do
    print p
    printAll rest

/-- Prints as much of a report as can be shown. -/
def present (r : Shown) : CommandTask Unit := do
  printAll r.printed
  match r.fault with
  | some f => throw f
  | none => return ()

/-- A task on what lookups work on. -/
def onLookups {α : Type} (t : Task Float (LookupState Store) Fault α) : CommandTask α :=
  t.within (·.lookups) fun lookups s => { s with lookups }

/-- Opens the database at a path and loads it. -/
def openStore (path : Text) : CommandTask Unit := do
  let tree := (← Task.state).tree
  match Store.configure tree path Store.defaultPattern with
  | .error f => throw f
  | .ok store =>
    onLookups (Task.setState ⟨store, Monitor.fresh true⟩)
    onLookups (Lookup.onData do
      let _ ← Store.load tree
      return ())

/-- The line that reports a fault. -/
def faultLine (f : Fault) : Printed :=
  .line ("[red]Error: " ++ Console.escape f.message ++ "[/red]")

/-- Runs a task and goes on with its result.  A fault of it that is foreseen is reported by what `report` says,
one line and the status one. -/
def reporting {α : Type} (report : Fault → CommandTask Unit) (task : CommandTask α)
    (next : α → CommandTask Nat) : CommandTask Nat := do
  match ← Task.attempt task with
  | .ok a => next a
  | .error f =>
    if f.isForeseen then
      report f
      print (faultLine f)
      return 1
    else throw f

/-- Saves the document of a lookup. -/
def saveDocument (setting : Setting) (options : CheckOptions) (found : List Vulnerability)
    (time : Float) (output : Text) : CommandTask Unit := do
  let further := Json.object
    [("database", .string (Files.Path.parse options.database).text),
     ("version", .string programVersion)]
  let document ← settle
    (lookupDocument (.string options.cpe) found (.float time) setting.moment further)
  let saved := save (← Task.state).tree document (some (Files.Path.parse output))
  Task.noteAll saved.log
  Task.change fun s => { s with tree := saved.tree }
  match saved.fault with
  | some f => throw f
  | none => return ()

/-- Looks software up, and reports what is found. -/
def checkSoftware (setting : Setting) (options : CheckOptions) : CommandTask Nat := do
  openStore options.database
  let entered ← Task.tick
  let lookup : Lookup := ⟨Engine.standard, !options.sortInput⟩
  let found ← onLookups (lookup.vulnerabilities (Store.source setting.tree) (.string options.cpe))
  let left ← Task.tick
  let time := left - entered
  present (lookupReport (.string options.cpe) found (.float time))
  match options.output with
  | some output => saveDocument setting options found time output
  | none => pure ()
  if options.performance then
    let printed ← settle ((← Task.state).lookups.monitor.summary >>= timings)
    present ⟨printed, none⟩
  return if options.failOnMatch && !found.isEmpty then 2 else 0

/-- The line that reports a name without vendor or product. -/
def invalidLine (cpe : Text) : Printed :=
  .line ("[red]Error: Not a CPE name with vendor and product: " ++ Console.escape cpe ++ "[/red]")

/-- Looks software up, if its name says vendor and product. -/
def check (setting : Setting) (options : CheckOptions) : CommandTask Nat := do
  if (Cpe.parse options.cpe).isValid then
    reporting
      (fun f => Task.note (Log.Channel.command.record .error ("Check failed: " ++ f.message)))
      (checkSoftware setting options) pure
  else
    print (invalidLine options.cpe)
    return 1

/-- The row of a product. -/
def productRow (s : Store) (product : Text × Text) : List Cell :=
  [.text (Console.escape product.1), .text (Console.escape product.2),
    .text (toString (s.cpes product.1 product.2).length)]

/-- The table of products. -/
def productsTable (s : Store) (products : List (Text × Text)) : Printed :=
  .table "Products"
    [.styled "Vendor" "cyan", .styled "Product" "green", .aligned "CPEs" .right]
    (products.map (productRow s))

/-- Lists the products in the database, all of them or those of a vendor. -/
def products (database : Text) (vendor : Option Text) : CommandTask Nat :=
  reporting (fun _ => pure ()) (openStore database) fun _ => do
    let store := (← Task.state).lookups.data
    let listed := match vendor.filter (· ≠ Text.empty) with
      | some v => store.products.filter (·.1 = Text.lower v)
      | none => store.products
    print (if listed.isEmpty then .line "[yellow]No products found[/yellow]"
      else productsTable store listed)
    return 0

/-- Tells the size of the database. -/
def stats (database : Text) : CommandTask Nat :=
  reporting (fun _ => pure ()) (openStore database) fun _ => do
    let store := (← Task.state).lookups.data
    if store.hasData then
      let size := store.stats
      print (.line "Database loaded successfully")
      print (.line ("   " ++ toString size.vulnerabilities ++ " vulnerabilities"))
      print (.line ("   " ++ toString size.products ++ " products"))
      print (.line ("   " ++ toString size.entries ++ " software entries"))
      return 0
    else
      print (.line "[yellow]Database contains no vulnerable software entries[/yellow]")
      return 1

/-- The panel that says what this program is. -/
def infoPanel : Printed :=
  .panel ("[bold blue]CPEShield[/bold blue] " ++ programVersion ++ "\n" ++
    "Checks CPE-identified software versions against\n" ++
    "vulnerable-software ranges from a local database") (some "Information") "none"

/-- The task of a request; a command line that is wrong has the status two. -/
def task (setting : Setting) : Request → CommandTask Nat
  | .check options => check setting options
  | .compare left right => do
    present ⟨comparison (Version.parse left) (Version.parse right), none⟩
    return 0
  | .products database vendor => products database vendor
  | .stats database => stats database
  | .info => do
    print infoPanel
    return 0
  | .help => return 0
  | .misuse => return 2

/-- The loggers as a request sets them up. -/
def registry : Request → Log.Registry
  | .check options => (Log.Registry.initial.setUp (Log.Setup.standard options.verbose)).1
  | _ => Log.Registry.initial

/-- How a command ends: its status or the fault that ended it, what it has printed and written to the
log, and the files. -/
structure Ending where
  status : Except Fault Nat
  printed : List Printed
  log : List Log.Record
  tree : Files.Tree

/-- Runs a request. -/
def run (setting : Setting) (request : Request) : Ending :=
  let start : Session Float State :=
    { clock := setting.clock
      announcing := setting.announcing
      log := #[]
      state := ⟨setting.tree, #[], #[], ⟨Store.empty none, Monitor.fresh true⟩⟩ }
  let (status, session) := (task setting request).start start
  { status
    printed := session.state.printed.toList
    log := session.log.toList.filter (registry request).admits
    tree := session.state.tree }

/-- A console that prints whatever it is handed, with backslashes ahead of tags. -/
instance plainConsole : Console where
  escape := Text.escapeMarkup
  fault? _ _ _ := none

end CpeMatch.Command
