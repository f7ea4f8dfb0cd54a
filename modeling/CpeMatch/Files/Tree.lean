import CpeMatch.Files.Path

/-!
**File trees.**

A file tree says which files and folders there are.  It is counted from the root and from the working
folder; the folders above the working folder are there too, and what they are called is not said.  A
folder holds what is in it by its names.

A path is followed name by name.  The way that has been gone is kept, so that `..` leads back on it.

Main definitions:

* `CpeMatch.Files.Node`, `CpeMatch.Files.Tree` — what may be somewhere, and a tree of it;
* `CpeMatch.Files.Reach` — how deep things may be nested for a program that works on them;
* `CpeMatch.Files.Place` — where something is;
* `CpeMatch.Files.Tree.find` — following a path;
* `CpeMatch.Files.Tree.provideFolder`, `CpeMatch.Files.Tree.remove` — making a folder, and removing a
  file;
* `CpeMatch.Files.Tree.read`, `CpeMatch.Files.Tree.write` — reading and writing a file.
-/

set_option autoImplicit false

namespace CpeMatch.Files

/-- What is somewhere: a file of octets, or a folder of named things. -/
inductive Node where
  | file (bytes : List UInt8)
  | folder (contents : List (Text × Node))

/-- What is in a folder, by its names, each of them once. -/
abbrev Contents := List (Text × Node)

namespace Node

/-- Whether it is a folder. -/
def isFolder : Node → Bool
  | folder _ => true
  | file _ => false

/-- What is in it. -/
def contents : Node → Contents
  | folder contents => contents
  | file _ => []

end Node

/-! ### Contents -/

namespace Contents

/-- Puts something under a name, in place of what is there. -/
def insert (name : Text) (node : Node) : Contents → Contents
  | [] => [(name, node)]
  | (other, old) :: rest =>
    if other = name then (name, node) :: rest else (other, old) :: insert name node rest

@[simp] theorem lookup_insert_self (name : Text) (node : Node) (contents : Contents) :
    (insert name node contents).lookup name = some node := by
  induction contents with
  | nil => simp [insert]
  | cons entry rest ih =>
    obtain ⟨other, old⟩ := entry
    by_cases h : other = name
    · simp [insert, h]
    · have h' : (name == other) = false := beq_false_of_ne (Ne.symm h)
      simp [insert, h, List.lookup_cons, h', ih]

theorem lookup_insert_of_ne {name other : Text} (ne : other ≠ name) (node : Node)
    (contents : Contents) :
    (insert name node contents).lookup other = contents.lookup other := by
  induction contents with
  | nil => simp [insert, List.lookup_cons, beq_false_of_ne ne]
  | cons entry rest ih =>
    obtain ⟨first, old⟩ := entry
    by_cases h : first = name
    · subst h
      simp [insert, List.lookup_cons, beq_false_of_ne ne]
    · simp [insert, h, List.lookup_cons, ih]

/-- What is in the folder of a name. -/
def within (name : Text) (contents : Contents) : Contents :=
  ((contents.lookup name).map Node.contents).getD []

/-- Puts something where names lead to, with the folders on the way. -/
def put (node : Node) : List Text → Contents → Contents
  | [], _ => node.contents
  | [name], contents => insert name node contents
  | name :: rest, contents => insert name (.folder (put node rest (within name contents))) contents

/-- Takes away what names lead to. -/
def erase : List Text → Contents → Contents
  | [], _ => []
  | [name], contents => contents.filter (·.1 ≠ name)
  | name :: rest, contents => insert name (.folder (erase rest (within name contents))) contents

end Contents

/-! ### Trees -/

/-- Where places are counted from. -/
inductive Base where
  /-- The root. -/
  | root
  /-- The working folder, or the one so many levels above it. -/
  | above (levels : Nat)
  deriving DecidableEq

namespace Base

/-- The working folder. -/
def working : Base := .above 0

/-- Where a path sets out. -/
def ofPath (p : Path) : Base := if p.root = "" then working else root

end Base

/-- Where something is: the names that lead to it. -/
structure Place where
  base : Base
  names : List Text
  deriving DecidableEq

/-- How deep things may be nested for a program that works on them.  It gives up beyond that, since its calls
are nested as deep; how much room there is for calls depends on the machine and on where it is called from. -/
structure Reach where
  /-- The components of a file pattern. -/
  pattern : Nat
  /-- The folders that a folder found in a search is inside of. -/
  nesting : Nat
  /-- The folders that are made inside one another at once. -/
  provision : Nat
  /-- The arrays and objects inside one another in a document. -/
  depth : Nat

/-- How far a program reaches that is called with nearly all its room left. -/
def Reach.standard : Reach := ⟨196, 984, 990, 985⟩

instance : Inhabited Reach := ⟨.standard⟩

/-- What there is in the folders that places are counted from, each of them once, and how far a program
reaches that works on it. -/
structure Tree where
  bases : List (Base × Contents)
  reach : Reach
  deriving Inhabited

namespace Place

/-- The place of a name inside a folder. -/
def child (place : Place) (name : Text) : Place := { place with names := place.names ++ [name] }

/-- The path to a place. -/
def path (place : Place) : Path :=
  match place.base with
  | .root => ⟨"/", place.names⟩
  | .above levels => ⟨"", List.replicate levels (".." : Text) ++ place.names⟩

end Place

/-- The way to a place: the names on it with what is there, the last of them first. -/
structure Way where
  base : Base
  steps : List (Text × Option Node)

namespace Way

/-- The place that a way leads to. -/
def place (w : Way) : Place := ⟨w.base, (w.steps.map (·.1)).reverse⟩

/-- Goes back to the folder that a place is in. -/
def back : Way → Way
  | ⟨base, _ :: steps⟩ => ⟨base, steps⟩
  | ⟨.root, []⟩ => ⟨.root, []⟩
  | ⟨.above levels, []⟩ => ⟨.above (levels + 1), []⟩

end Way

namespace Tree

/-- The tree with nothing in it. -/
def empty : Tree := ⟨[], .standard⟩

/-- What is in a folder that places are counted from. -/
def contents (t : Tree) (base : Base) : Contents := (t.bases.lookup base).getD []

/-- Changes what is in a folder that places are counted from. -/
def change (t : Tree) (base : Base) (f : Contents → Contents) : Tree :=
  { t with bases := (base, f (t.contents base)) :: t.bases.filter (·.1 ≠ base) }

/-- What is at the end of a way. -/
def atEnd? (t : Tree) (w : Way) : Option Node :=
  match w.steps with
  | [] => some (.folder (t.contents w.base))
  | (_, node?) :: _ => node?

/-- Goes one name further. -/
def step (t : Tree) (w : Way) (name : Text) : Except FileFault Way :=
  match t.atEnd? w with
  | none => .error .missing
  | some (.file _) => .error .notFolder
  | some (.folder contents) =>
    if name = ".." then .ok w.back
    else if Path.isLongName name then .error .nameTooLong
    else
      let name := Path.listed name
      .ok { w with steps := (name, contents.lookup name) :: w.steps }

/-- The place that a path leads to, and what is there. -/
def follow (t : Tree) (p : Path) : Except FileFault (Place × Option Node) :=
  match p.flaw? with
  | some fault => .error fault
  | none => do
    let w ← p.components.foldlM t.step ⟨.ofPath p, []⟩
    return (w.place, t.atEnd? w)

/-- What a path leads to, and where that is. -/
def find (t : Tree) (p : Path) : Except FileFault (Place × Node) := do
  match ← t.follow p with
  | (place, some node) => return (place, node)
  | (_, none) => throw .missing

/-- Whether there is something at the end of a path.  A path that is too long is a fault, any other that
leads nowhere is not. -/
def holds (t : Tree) (p : Path) : Except Fault Bool :=
  match t.find p with
  | .ok _ => .ok true
  | .error .nameTooLong => .error (.file .nameTooLong p.text)
  | .error _ => .ok false

/-- Whether a path leads to a file. -/
def isFile (t : Tree) (p : Path) : Bool :=
  match t.find p with
  | .ok (_, .file _) => true
  | _ => false

/-- What is in the folder that a path leads to, if it leads to one.  A path that is too long is a
fault. -/
def listing? (t : Tree) (p : Path) : Except Fault (Option Contents) :=
  match t.find p with
  | .ok (_, .folder contents) => .ok (some contents)
  | .error .nameTooLong => .error (.file .nameTooLong p.text)
  | _ => .ok none

/-- Whether a path leads to a folder.  A path that is too long is a fault. -/
def leadsToFolder (t : Tree) (p : Path) : Except Fault Bool := (t.listing? p).map (·.isSome)

/-- What is in the folder that a path leads to; nothing if it leads to none.  A path that is too long is
a fault. -/
def listing (t : Tree) (p : Path) : Except Fault Contents := (t.listing? p).map (·.getD [])

/-! ### Changes -/

/-- The tree with something at a place, in place of what is there. -/
def put (t : Tree) (place : Place) (node : Node) : Tree :=
  t.change place.base (Contents.put node place.names)

/-- The tree with a folder at the end of a path: the one that is there, or one with nothing in it. -/
def provideLast (t : Tree) (p : Path) : Except FileFault Tree := do
  match ← t.follow p with
  | (_, some (.folder _)) => return t
  | (_, some (.file _)) => throw .occupied
  | (place, none) => return t.put place (.folder [])

/-- Provides a folder, and first the one that it is in if that is missing, at most so many of them. -/
def provideFolders : Nat → Tree → Path → Tree × Option Fault
  | 0, t, _ => (t, some .deepFolder)
  | count + 1, t, p =>
    let outside := match t.provideLast p with
      | .error .missing => provideFolders count t p.parent
      | _ => (t, none)
    match outside with
    | (t, some fault) => (t, some fault)
    | (t, none) => match t.provideLast p with
      | .ok t => (t, none)
      | .error cause => (t, some (.file cause p.text))

/-- The tree with a folder at the end of a path, and the folders on the way to it.  If one of them cannot
be made, those that have been made before stay, and the path to that one is told. -/
def provideFolder (t : Tree) (p : Path) : Tree × Option Fault := provideFolders t.reach.provision t p

/-- The tree without the file that a text leads to.  What is asked for as a folder is no file. -/
def remove (t : Tree) (text : Text) : Except FileFault Tree := do
  if text = "" then throw .missing
  if let some fault := Path.flawOf? text then throw fault
  match ← t.follow (Path.parse text) with
  | (_, none) => throw .missing
  | (_, some (.folder _)) => throw .isFolder
  | (place, some (.file _)) =>
    if Path.asksForFolder text then throw .notFolder
    return t.change place.base (Contents.erase place.names)

/-- The octets of the file at the end of a path. -/
def read (t : Tree) (p : Path) : Except FileFault (List UInt8) :=
  match t.find p with
  | .ok (_, .file bytes) => .ok bytes
  | .ok (_, .folder _) => .error .isFolder
  | .error f => .error f

/-- The tree with a file of the given octets at the end of a path. -/
def write (t : Tree) (p : Path) (bytes : List UInt8) : Except FileFault Tree := do
  match ← t.follow p with
  | (_, some (.folder _)) => throw .isFolder
  | (place, _) => return t.put place (.file bytes)

/-- The tree with a file at the end of a path: the one that is there, or one with nothing in it. -/
def provide (t : Tree) (p : Path) : Except FileFault Tree := do
  match ← t.follow p with
  | (_, some (.folder _)) => throw .isFolder
  | (_, some (.file _)) => return t
  | (place, none) => return t.put place (.file [])

end Tree

/-! ### All files -/

mutual

/-- The files at and inside a place, by their paths. -/
def Node.files (place : Place) : Node → List (Text × List UInt8)
  | .file bytes => [(place.path.text, bytes)]
  | .folder contents => filesWithin place contents

/-- The files inside a folder, by their paths. -/
def filesWithin (place : Place) : List (Text × Node) → List (Text × List UInt8)
  | [] => []
  | (name, node) :: rest => node.files (place.child name) ++ filesWithin place rest

end

namespace Tree

/-- The files, by their paths. -/
def files (t : Tree) : List (Text × List UInt8) :=
  t.bases.flatMap fun (base, contents) => filesWithin ⟨base, []⟩ contents

/-- The files that are not as they were in an earlier tree. -/
def changedFrom (t earlier : Tree) : List (Text × List UInt8) :=
  t.files.filter fun (path, bytes) => earlier.files.lookup path ≠ some bytes

end Tree

end CpeMatch.Files
