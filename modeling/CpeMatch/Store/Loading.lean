import CpeMatch.Files.Search
import CpeMatch.Number.Places
import CpeMatch.Store.Basic

/-!
**Loading a store.**

A store with a place for its data is loaded from the file there, or from the files of the folder there
that fit its pattern, in the order of their paths.  A file that is no document is passed over.  A store
that is asked something before it has been loaded is loaded first, and only a load that comes to its end
counts.

Main definitions:

* `CpeMatch.Store.configure` — a store for the data at a path;
* `CpeMatch.Store.dataFiles`, `CpeMatch.Store.readFile` — its files, and the values in one;
* `CpeMatch.Store.absorbFiles` — taking them in;
* `CpeMatch.Store.load`, `CpeMatch.Store.ensureLoaded` — loading.
-/

set_option autoImplicit false

namespace CpeMatch.Store

open Timing

/-- A store for the data at a path, which has to be there. -/
def configure (tree : Files.Tree) (path pattern : Text) : Except Fault Store := do
  let path := Files.Path.parse path
  if ← tree.holds path then return empty (some ⟨path, pattern⟩)
  else throw (.noDatabase path.text)

/-- The files of a store, in the order in which they are read. -/
def dataFiles (tree : Files.Tree) (config : Config) : Except Fault (List Files.Path) :=
  if tree.isFile config.path then .ok [config.path] else tree.search config.path config.pattern

/-- The bounds of the documents in a tree of files. -/
def limits (tree : Files.Tree) : Json.Limits := .ofDepth tree.reach.depth

/-- The values in a file: those of an array, or the one value that it is.  Nothing for a file that is
no document. -/
def readFile (tree : Files.Tree) (path : Files.Path) : Except Fault (Option (List Json)) :=
  match tree.read path with
  | .error _ => .ok none
  | .ok bytes => match Json.ofBytes (limits tree) bytes with
    | .ok (.array items) => .ok (some items)
    | .ok v => .ok (some [v])
    | .error e => match Fault.ofDocumentError? e with
      | some f => .error f
      | none => .ok none

/-- Takes in a file. -/
def absorbFile (tree : Files.Tree) (s : Store) (path : Files.Path) : Absorbed :=
  match readFile tree path with
  | .error f => ⟨s, [], some f⟩
  | .ok none => ⟨s, [.unreadable path.text], none⟩
  | .ok (some items) => absorbAll (some path.text) s items

/-- Takes in files one after another, up to the first that is a fault. -/
def absorbFiles (tree : Files.Tree) (s : Store) : List Files.Path → Absorbed
  | [] => ⟨s, [], none⟩
  | path :: rest =>
    let first := absorbFile tree s path
    match first.fault with
    | some _ => first
    | none =>
      let others := absorbFiles tree first.store rest
      ⟨others.store, first.complaints ++ others.complaints, others.fault⟩

/-- Takes in the files of a store. -/
def absorbPath (tree : Files.Tree) (s : Store) (config : Config) : Absorbed :=
  match dataFiles tree config with
  | .error f => ⟨s, [], some f⟩
  | .ok paths => absorbFiles tree s paths

/-- A task on a store. -/
abbrev StoreTask (α : Type) := Task Float Store Fault α

/-- Puts what has been taken in into the store, and complains of the rest. -/
def accept (a : Absorbed) : StoreTask Unit := do
  Task.noteAll (a.complaints.map (·.record))
  Task.setState a.store
  match a.fault with
  | some f => throw f
  | none => return ()

/-- A time in seconds as an announcement shows it. -/
def seconds (x : Float) : Text := Number.fixedText x 4

/-- Records a timed block in the monitor of the store. -/
def recordMetric (m : Metric Float) (s : Store) : Store := { s with monitor := s.monitor.record m }

/-- What is said of a store that has been loaded. -/
def loadedMessage (s : Store) (config : Config) : Text :=
  "Loaded " ++ toString s.held.size ++ " vulnerabilities for " ++ toString s.products.length ++
    " products from " ++ config.path.text

/-- Loads the store: takes its files in, timed under the name of the operation.  Gives the number of
vulnerabilities that are then held. -/
def load (tree : Files.Tree) : StoreTask Nat :=
  announced seconds "load" do
    match (← Task.state).config with
    | none => return (← Task.state).held.size
    | some config =>
      let held ← measureResult recordMetric "load" id do
        accept (absorbPath tree (← Task.state) config)
        return (← Task.state).held.size
      Task.change fun s => { s with loaded := true }
      Task.note (Log.Channel.store.record .info (loadedMessage (← Task.state) config))
      return held

/-- Loads the store unless it has been loaded. -/
def ensureLoaded (tree : Files.Tree) : StoreTask Unit := do
  if (← Task.state).loaded then return () else
    let _ ← load tree
    return ()

/-- Answers from the store, which is loaded first if need be. -/
def ask {α : Type} (tree : Files.Tree) (question : Store → Except Fault α) : StoreTask α := do
  ensureLoaded tree
  settle (question (← Task.state))

/-- Answers about a product, whose vendor and name have to be texts. -/
def askProduct {α : Type} (tree : Files.Tree) (vendor product : Json)
    (question : Store → Text → Text → Except Fault α) : StoreTask α :=
  ask tree fun s => match vendor, product with
    | .string v, .string p => question s v p
    | _, _ => .error .notText

/-- Adds a vulnerability, and complains of what is passed over. -/
def addOne (v : Vulnerability) : StoreTask Unit := do
  accept ((← Task.state).add v)

end CpeMatch.Store
