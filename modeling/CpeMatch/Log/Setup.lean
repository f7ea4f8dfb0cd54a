import CpeMatch.Files.Tree
import CpeMatch.Log.Registry

/-!
**Setting up logging.**

Logging can be set up more than once.  The root gets a threshold and handlers the first time only, unless
it has handlers already; the library's own channels get their threshold each time.  A log file is opened
before anything else is done, and is there from then on.

Main definitions:

* `CpeMatch.Log.Setup` — what logging is set up with;
* `CpeMatch.Log.Setup.openFile` — opening the log file;
* `CpeMatch.Log.Registry.setUp` — setting the loggers up.
-/

set_option autoImplicit false

namespace CpeMatch.Log

/-- What logging is set up with: a threshold, whether everything is to be said, and perhaps a log
file. -/
structure Setup where
  level : Json
  verbose : Bool
  logFile : Option Text

namespace Setup

/-- A setup with the threshold for warnings and without a log file. -/
def standard (verbose : Bool) : Setup := ⟨(Threshold.ofLevel .warning).toJson, verbose, none⟩

/-- The threshold that a setup asks for. -/
def threshold (s : Setup) : Except Fault Threshold :=
  if s.verbose then .ok (.ofLevel .debug) else Threshold.ofJson s.level

/-- The log file of a setup, if its name says anything. -/
def file? (s : Setup) : Option Text := s.logFile.filter (· ≠ Text.empty)

/-- The handlers that a setup asks for. -/
def handlers (s : Setup) : List Handler := .stream :: if s.file?.isSome then [.file] else []

/-- Opens the log file, which is made if there is none. -/
def openFile (s : Setup) (tree : Files.Tree) : Except Fault Files.Tree :=
  match s.file? with
  | none => .ok tree
  | some name =>
    match tree.provide (Files.Path.parse name).resolved with
    | .ok tree => .ok tree
    | .error cause => .error (.file cause name)

end Setup

namespace Registry

/-- Gives the root handlers, and a threshold if there is one, unless it has handlers already. -/
def configureRoot (r : Registry) (handlers : List Handler) (t : Option Threshold) : Registry :=
  if r.root.handlers.isEmpty then
    let r := { r with root := { r.root with handlers } }
    match t with
    | some t => r.setThreshold rootName t
    | none => r
  else r

/-- Sets the loggers up. -/
def setUp (r : Registry) (s : Setup) : Registry × Option Fault :=
  match s.threshold with
  | .error f => (r.configureRoot s.handlers none, some f)
  | .ok t =>
    let r := r.configureRoot s.handlers (some t)
    (Channel.configured.foldl (fun r c => (r.provide c.name).setThreshold c.name t) r, none)

end Registry

end CpeMatch.Log
