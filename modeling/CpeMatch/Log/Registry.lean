import CpeMatch.Log.Threshold

/-!
**The registry of loggers.**

Loggers are named, and above every logger stands another one: the nearest whose name its own name
continues behind a dot, or else the root.  A logger without a threshold of its own has that of the next
one above it that has one.

A logger may turn up after those whose names continue its own.  It then takes its place between them
and what has stood above them — unless the name of what has stood above begins with its own, as the name
of a logger in between does, and as the name `root` does for a logger named `r`.

Whether a logger lets a level pass is found out once and remembered until any threshold is set.

Main definitions:

* `CpeMatch.Log.Logger`, `CpeMatch.Log.Registry` — the loggers;
* `CpeMatch.Log.Registry.threshold` — the threshold that counts for a logger;
* `CpeMatch.Log.Registry.continues` — whether a name continues another one;
* `CpeMatch.Log.Registry.provide` — making sure that there is a logger of a name;
* `CpeMatch.Log.Registry.request` — a logger is asked for, and perhaps given a threshold;
* `CpeMatch.Log.Registry.admits`, `CpeMatch.Log.Registry.pass` — whether a record passes.
-/

set_option autoImplicit false

namespace CpeMatch.Log

/-- Where a logger sends its records. -/
inductive Handler where
  /-- The console, in colours. -/
  | console
  /-- The error stream. -/
  | stream
  /-- A log file. -/
  | file
  deriving DecidableEq

/-- The state of a logger. -/
structure Logger where
  own : Threshold
  handlers : List Handler
  propagates : Bool
  /-- The name of the logger above; there is none above the root, and none but the root where no name is
  given. -/
  above : Option Text
  /-- The levels for which it is known whether they pass. -/
  known : List (Level × Bool)
  deriving DecidableEq

/-- A logger that nothing has been done to. -/
def Logger.fresh : Logger := ⟨.unset, [], true, none, []⟩

/-- The root, and the loggers by name, each of them once. -/
structure Registry where
  root : Logger
  loggers : List (Text × Logger)

namespace Registry

/-- A registry in which only the root has a threshold. -/
def initial : Registry := ⟨{ Logger.fresh with own := .ofLevel .warning }, []⟩

/-- The name of the root. -/
def rootName : Text := "root"

/-- Whether a name is that of the root. -/
def isRootName (name : Text) : Bool := name = Text.empty || name = rootName

/-- The logger of a name. -/
def logger (r : Registry) (name : Text) : Logger :=
  if isRootName name then r.root else (r.loggers.lookup name).getD Logger.fresh

/-- Whether there is a logger of a name. -/
def holds (r : Registry) (name : Text) : Bool := (r.loggers.lookup name).isSome

/-- Changes the logger of a name. -/
def change (r : Registry) (name : Text) (f : Logger → Logger) : Registry :=
  if isRootName name then { r with root := f r.root }
  else { r with loggers := r.loggers.map fun (n, l) => if n = name then (n, f l) else (n, l) }

/-! ### Thresholds -/

/-- The threshold that counts for the root. -/
def rootThreshold (r : Registry) : Threshold := if r.root.own.isSet then r.root.own else .unset

/-- The threshold that counts for a logger: its own, else that of the next logger above it that has one,
else that of the root.  A logger above another has the shorter name. -/
def threshold (r : Registry) (name : Text) : Threshold :=
  if isRootName name then r.rootThreshold else
    match r.loggers.lookup name with
    | none => r.rootThreshold
    | some l =>
      if l.own.isSet then l.own else
        match l.above with
        | none => r.rootThreshold
        | some above => if above.length < name.length then r.threshold above else r.rootThreshold
termination_by name.length

/-- Sets the threshold of a logger, whereupon nothing is known of any of them. -/
def setThreshold (r : Registry) (name : Text) (t : Threshold) : Registry :=
  let r := r.change name fun l => { l with own := t }
  { r with
    root := { r.root with known := [] }
    loggers := r.loggers.map fun (n, l) => (n, { l with known := [] }) }

/-! ### Names -/

/-- The lengths of the names that a name continues behind a dot, nearest first.  The name is given by its
reverse and its length.  A dot right before one that has been looked at is passed over. -/
def cutsFrom : List CodePoint → Nat → List Nat
  | c :: d :: before, n =>
    if c = '.' then (n - 1) :: cutsFrom before (n - 2) else cutsFrom (d :: before) (n - 1)
  | _, _ => []

/-- The lengths of the names that a name continues behind a dot, nearest first. -/
def cuts (name : Text) : List Nat := cutsFrom name.points.reverse name.length

/-- Whether a name continues another one behind a dot. -/
def continues (name other : Text) : Bool :=
  other.points.isPrefixOf name.points && (cuts name).contains other.length

/-- The name of the nearest logger whose name a name continues. -/
def nearest? (r : Registry) (name : Text) : Option Text :=
  (r.loggers.map (·.1)).foldl
    (fun found? other =>
      if continues name other && (found?.map (·.length)).getD 0 < other.length then some other
      else found?)
    none

/-- Puts a new logger above one whose name continues its own, unless the name of what has stood above
that begins with its own. -/
def adopt (name other : Text) (l : Logger) : Logger :=
  if continues other name && !name.points.isPrefixOf (l.above.getD rootName).points then
    { l with above := some name }
  else l

/-- Makes sure that there is a logger of a name. -/
def provide (r : Registry) (name : Text) : Registry :=
  if isRootName name || r.holds name then r else
    { r with
      loggers := r.loggers.map (fun (other, l) => (other, adopt name other l)) ++
        [(name, { Logger.fresh with above := r.nearest? name })] }

/-! ### Requests -/

/-- The name that a value gives to a logger: any value that says nothing names the root. -/
def nameOf (v : Json) : Except Fault Text :=
  match v with
  | .string name => .ok name
  | v => if v.isTruthy then .error .notLevel else .ok rootName

/-- Gives a logger a console handler if it has none. -/
def attach (l : Logger) : Logger :=
  if l.handlers.contains .console then l
  else { l with handlers := l.handlers ++ [.console], propagates := false }

/-- A logger is asked for, with a threshold to be set if one is given. -/
def request (r : Registry) (name : Text) (level : Json) : Registry × Option Fault :=
  let r := r.provide name
  match Threshold.requested level with
  | .error f => (r, some f)
  | .ok none => (r.change name attach, none)
  | .ok (some t) => ((r.setThreshold name t).change name attach, none)

/-! ### Records -/

/-- Whether a record passes the threshold that counts for its logger. -/
def admits (r : Registry) (record : Record) : Bool := (r.threshold record.channel).admits record.level

/-- Whether a logger lets a level pass, and the registry in which that is known. -/
def pass (r : Registry) (name : Text) (level : Level) : Bool × Registry :=
  match (r.logger name).known.lookup level with
  | some answer => (answer, r)
  | none =>
    let answer := (r.threshold name).admits level
    (answer, r.change name fun l => { l with known := (level, answer) :: l.known })

end Registry

end CpeMatch.Log
