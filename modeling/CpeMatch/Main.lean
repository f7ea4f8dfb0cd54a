import CpeMatch.Command.Run
import CpeMatch.Report.Plain
import Std.Time.Zoned

/-!
**The command line program.**

The files that a request names are read from disk, the request is run on them, and what it prints and
writes is passed on.  While a request runs its clock stands still.
-/

set_option autoImplicit false

namespace CpeMatch.Program

/-- What is at a path on disk, without what is inside a folder. -/
def glance (path : String) : IO Files.Node := do
  if ← (← IO.FS.realPath path).isDir then return .folder []
  else return .file (← IO.FS.readBinFile path).toList

/-- Adds what is on the way to a path, and the path itself, to a tree. -/
def addWay (tree : Files.Tree) (path : Files.Path) : IO Files.Tree :=
  path.stages.foldlM
    (fun tree stage => do
      match tree.follow stage with
      | .ok (place, none) =>
        try return tree.put place (← glance stage.text.toString) catch _ => return tree
      | _ => return tree)
    tree

/-- Everything inside a folder on disk.  Links are not followed further. -/
partial def gather (path : String) : IO Files.Contents := do
  let entries ← (← IO.FS.realPath path).readDir
  let nodes ← entries.toList.mapM fun entry => do
    let inner := path ++ "/" ++ entry.fileName
    let node? ← match (← entry.path.symlinkMetadata).type with
      | .dir => pure (some (Files.Node.folder (← gather inner)))
      | _ => try pure (some (← glance inner)) catch _ => pure none
    return node?.map fun node => ((entry.fileName : Text), node)
  return nodes.filterMap id

/-- The files that a request works on. -/
def filesOf (request : Command.Request) : IO Files.Tree := do
  let paths := (request.output?.toList ++ request.database?.toList).map Files.Path.parse
  let tree ← paths.foldlM addWay Files.Tree.empty
  match request.database?.map Files.Path.parse with
  | none => return tree
  | some path => match tree.find path with
    | .ok (place, .folder _) => return tree.put place (.folder (← gather path.text.toString))
    | _ => return tree

/-- The date and time. -/
def moment : IO String := do
  let now ← Std.Time.PlainDateTime.now
  return Report.momentText now.date.year.toInt.toNat now.date.month.val.toNat now.date.day.val.toNat
    now.time.hour.val.toNat now.time.minute.val.toNat now.time.second.val.toNat
    (now.time.nanosecond.val.toNat / 1000)

/-- What is said of how the program is called. -/
def usage : String :=
  "usage: check CPE -d DATABASE [-o FILE] [-v] [--performance] [--sort-input] [--fail-on-match]\n" ++
  "       compare LEFT RIGHT\n" ++
  "       products -d DATABASE [--vendor VENDOR]\n" ++
  "       stats -d DATABASE\n" ++
  "       info"

/-- Passes on what a request has printed, logged and written, and gives its status. -/
def conclude (before : Files.Tree) (ending : Command.Ending) : IO UInt32 := do
  for record in ending.log do
    IO.eprintln (record.level.text ++ " " ++ record.channel.toString ++ ": " ++ record.message.toString)
  for printed in ending.printed do
    for line in printed.lines do
      IO.println line.toString
  for (path, bytes) in ending.tree.changedFrom before do
    IO.FS.writeBinFile path.toString ⟨bytes.toArray⟩
  match ending.status with
  | .ok status => return status.toUInt32
  | .error fault =>
    IO.eprintln ("Error: " ++ fault.message.toString)
    return 1

/-- Runs the request that a command line makes. -/
def run (args : List String) : IO UInt32 := do
  let environment ← IO.getEnv Command.databaseVariable
  let announcing := (← IO.getEnv Timing.announcingVariable).any (· ≠ "")
  let request := Command.Request.ofWords (environment.map Text.ofString) (args.map Text.ofString)
  match request with
  | .help => IO.println usage
  | .misuse => IO.eprintln usage
  | _ => pure ()
  let tree ← filesOf request
  conclude tree (Command.run ⟨tree, Timing.Clock.ofList [], announcing, ← moment⟩ request)

end CpeMatch.Program

/-- The program. -/
def main (args : List String) : IO UInt32 := CpeMatch.Program.run args
