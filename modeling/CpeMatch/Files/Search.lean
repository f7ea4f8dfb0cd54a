import CpeMatch.Files.Tree
import CpeMatch.Files.Wildcard

/-!
**Searching a folder for files.**

A file pattern is a relative path whose components may be wildcards; `**` stands for any number of
folders.  A search looks for it in a folder and in all folders below it, a folder ahead of those inside
it, and gives what it finds in the order of the paths.  The components of a pattern and the nesting of
folders are bounded by how far the search reaches.

Main definitions:

* `CpeMatch.Files.Selector`, `CpeMatch.Files.selectorsOf` — the components of a file pattern;
* `CpeMatch.Files.Tree.visitBelow` — looking in a folder and all folders below it;
* `CpeMatch.Files.Tree.select` — the paths that fit the components, seen from a folder;
* `CpeMatch.Files.Tree.search` — the paths below a folder that fit a pattern.
-/

set_option autoImplicit false

namespace CpeMatch.Files

/-- A component of a file pattern. -/
inductive Selector where
  /-- Any number of folders. -/
  | folders
  /-- The names that fit a wildcard. -/
  | wildcard (pattern : Text)
  /-- A name, or the way up. -/
  | name (name : Text)
  /-- The end of a pattern that asks for folders only. -/
  | here

/-- Whether two asterisks stand next to each other. -/
def hasDoubleStar : List CodePoint → Bool
  | .char '*' :: .char '*' :: _ => true
  | _ :: cs => hasDoubleStar cs
  | [] => false

/-- The selector of a component. -/
def selectorOf (component : Text) : Except Fault Selector :=
  if component = "**" then .ok .folders
  else if hasDoubleStar component.points then .error .badPattern
  else if isWildcard component.points then .ok (.wildcard component)
  else .ok (.name component)

/-- The selectors of components, of which there may be a given number at most.  They are looked at one
after another, so that the first that is at fault decides. -/
def selectorsFrom : Nat → List Text → Except Fault (List Selector)
  | _, [] => .ok []
  | 0, _ :: _ => .error .deepSearch
  | n + 1, component :: rest => do
    let selector ← selectorOf component
    return selector :: (← selectorsFrom n rest)

/-- The selectors of a file pattern, which has at most `greatest` components. -/
def selectorsOf (greatest : Nat) (pattern : Text) : Except Fault (List Selector) := do
  let path := Path.parse pattern
  if path.root ≠ "" then throw .rootedPattern
  let selectors ← selectorsFrom greatest path.components
  return selectors ++ if pattern.points.getLast? = some (.char '/') then [.here] else []

namespace Tree

/-- What a visit finds in a folder and then in each folder below it, where there are at most `depth` of
them inside one another. -/
def visitFrom (t : Tree) (visit : Path → Except Fault (List Path)) :
    Nat → Path → Except Fault (List Path)
  | 0, _ => .error .deepSearch
  | depth + 1, p => do
    let here ← visit p
    let inside ← t.listing p
    let below ← inside.mapM fun (name, node) => match node with
      | .folder _ => visitFrom t visit depth (p.child name)
      | .file _ => .ok []
    return here ++ below.flatten

/-- What a visit finds in a folder and all folders below it, each thing once. -/
def visitBelow (t : Tree) (visit : Path → Except Fault (List Path)) (p : Path) :
    Except Fault (List Path) :=
  (t.visitFrom visit (t.reach.nesting + 1) p).map (·.eraseDups)

/-- The paths that fit the selectors, seen from a folder.  A path that is too long is a fault where it is
looked for.  Any number of folders, and any number of folders below each of those, are the same as any
number of folders at once. -/
def select (t : Tree) : List Selector → Path → Except Fault (List Path)
  | [], p => .ok [p]
  | .here :: _, p => .ok [p]
  | .folders :: rest, p => match rest with
    | .folders :: _ => t.select rest p
    | _ => t.visitBelow (t.select rest) p
  | .name name :: rest, p => do
    let next := p.child name
    if ← (if rest.isEmpty then t.holds next else t.leadsToFolder next) then t.select rest next
    else return []
  | .wildcard pattern :: rest, p => do
    let fitting := (← t.listing p).filter fun (name, node) =>
      matchesName pattern name && (rest.isEmpty || node.isFolder)
    let found ← fitting.mapM fun child => t.select rest (p.child child.1)
    return found.flatten

/-- The paths at and below a folder that fit a pattern, in ascending order. -/
def search (t : Tree) (folder : Path) (pattern : Text) : Except Fault (List Path) := do
  let selectors ← selectorsOf t.reach.pattern pattern
  if ← t.leadsToFolder folder then
    let found ← t.select (.folders :: selectors) folder
    return found.mergeSort fun p q => !q.before p
  else return []

end Tree

end CpeMatch.Files
