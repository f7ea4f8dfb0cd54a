import Mathlib.Data.List.Basic
import CpeMatch.Files.Tree

/-!
**What is where.**

A path is followed on a way that keeps everything that has been seen on it.  What the way keeps is what is
there: so following a path only depends on what is at the places that it comes to, and of a folder only on
the names in it and on which of them are folders themselves.

Main definitions:

* `CpeMatch.Files.Node.at?`, `CpeMatch.Files.Tree.at?` — what is at a place;
* `CpeMatch.Files.View`, `CpeMatch.Files.Tree.view?` — what can be seen of it;
* `CpeMatch.Files.Tree.advance`, `CpeMatch.Files.Tree.locate` — following a path from place to place;
* `CpeMatch.Files.Tree.see` — what can be seen at the end of a path.

Main results:

* `CpeMatch.Files.Tree.follow_eq_locate` — **a path is followed from place to place**;
* `CpeMatch.Files.Tree.see_eq`, `CpeMatch.Files.Tree.holds_eq_see`, `CpeMatch.Files.Tree.read_eq_see` —
  what is asked of a tree is answered by what can be seen.
-/

set_option autoImplicit false

namespace CpeMatch.Files

/-! ### What is at a place -/

/-- What names lead to, seen from a node. -/
def Node.at? : List Text → Node → Option Node
  | [], node => some node
  | name :: rest, .folder contents => (contents.lookup name).bind (Node.at? rest)
  | _ :: _, .file _ => none

@[simp] theorem Node.at?_nil (node : Node) : node.at? [] = some node := by
  cases node <;> rfl

theorem Node.at?_append (names others : List Text) (node : Node) :
    node.at? (names ++ others) = (node.at? names).bind (Node.at? others) := by
  induction names generalizing node with
  | nil => simp
  | cons name names ih =>
      cases node with
      | file bytes => rfl
      | folder contents =>
          rw [List.cons_append, Node.at?, Node.at?, Option.bind_assoc]
          congr 1
          funext inner
          exact ih inner

/-- What is at a place. -/
def Tree.at? (t : Tree) (place : Place) : Option Node :=
  (Node.folder (t.contents place.base)).at? place.names

/-- The folder that a place is in; the root is in itself. -/
def Place.back : Place → Place
  | ⟨base, name :: names⟩ => ⟨base, (name :: names).dropLast⟩
  | ⟨.root, []⟩ => ⟨.root, []⟩
  | ⟨.above levels, []⟩ => ⟨.above (levels + 1), []⟩

theorem Place.child_inj {place other : Place} {name next : Text} :
    place.child name = other.child next ↔ place = other ∧ name = next := by
  obtain ⟨base, names⟩ := place
  obtain ⟨base', names'⟩ := other
  simp only [Place.child, Place.mk.injEq]
  constructor
  · rintro ⟨rfl, h⟩
    obtain ⟨rfl, hlast⟩ := List.append_inj' h rfl
    exact ⟨⟨rfl, rfl⟩, List.singleton_inj.1 hlast⟩
  · rintro ⟨⟨rfl, rfl⟩, rfl⟩
    exact ⟨rfl, rfl⟩

namespace Tree

@[simp] theorem at?_nil (t : Tree) (base : Base) :
    t.at? ⟨base, []⟩ = some (.folder (t.contents base)) := rfl

theorem at?_child {t : Tree} {place : Place} {contents : Contents}
    (h : t.at? place = some (.folder contents)) (name : Text) :
    t.at? (place.child name) = contents.lookup name := by
  rw [at?, Place.child, Node.at?_append]
  change (t.at? place).bind _ = _
  rw [h, Option.bind_some, Node.at?]
  cases contents.lookup name with
  | none => rfl
  | some node => exact Node.at?_nil node

/-- Above something there is a folder. -/
theorem exists_at?_back {t : Tree} {place : Place} {node : Node} (h : t.at? place = some node) :
    ∃ contents, t.at? place.back = some (.folder contents) := by
  obtain ⟨base, names⟩ := place
  cases names with
  | nil =>
      cases base with
      | root => exact ⟨_, rfl⟩
      | above levels => exact ⟨_, rfl⟩
  | cons name names =>
      have hsplit := List.dropLast_concat_getLast (List.cons_ne_nil name names)
      rw [at?, ← hsplit, Node.at?_append] at h
      obtain ⟨above, habove, hlast⟩ := Option.bind_eq_some_iff.1 h
      cases above with
      | file bytes => cases hlast
      | folder contents => exact ⟨contents, habove⟩

end Tree

/-! ### What can be seen -/

/-- What can be seen of something: the octets of a file, or of a folder the names in it, each with whether
it is the name of a folder. -/
inductive View where
  | file (bytes : List UInt8)
  | folder (entries : List (Text × Bool))

/-- The names in a folder, each with whether it is the name of a folder. -/
def Contents.entries (contents : Contents) : List (Text × Bool) :=
  contents.map fun entry => (entry.1, entry.2.isFolder)

/-- What can be seen of a node. -/
def Node.view : Node → View
  | .file bytes => .file bytes
  | .folder contents => .folder (Contents.entries contents)

namespace Tree

/-- What can be seen at a place. -/
def view? (t : Tree) (place : Place) : Option View := (t.at? place).map Node.view

theorem view?_eq_folder_iff {t : Tree} {place : Place} {entries : List (Text × Bool)} :
    t.view? place = some (.folder entries) ↔
      ∃ contents, t.at? place = some (.folder contents) ∧ Contents.entries contents = entries := by
  rw [view?, Option.map_eq_some_iff]
  constructor
  · rintro ⟨node, hnode, hview⟩
    cases node with
    | file bytes => cases hview
    | folder contents => exact ⟨contents, hnode, View.folder.inj hview⟩
  · rintro ⟨contents, hnode, rfl⟩
    exact ⟨_, hnode, rfl⟩

/-! ### From place to place -/

/-- Goes one name further. -/
def advance (t : Tree) (place : Place) (name : Text) : Except FileFault Place :=
  match t.view? place with
  | none => .error .missing
  | some (.file _) => .error .notFolder
  | some (.folder _) =>
    if name = ".." then .ok place.back
    else if Path.isLongName name then .error .nameTooLong
    else .ok (place.child (Path.listed name))

/-- The place that a path leads to, whether something is there or not. -/
def locate (t : Tree) (p : Path) : Except FileFault Place :=
  p.components.foldlM t.advance ⟨.ofPath p, []⟩

theorem locate_child (t : Tree) (p : Path) (name : Text) :
    t.locate (p.child name) = t.locate p >>= fun place => t.advance place name := by
  have hbase : Base.ofPath (p.child name) = .ofPath p := rfl
  rw [locate, locate, hbase, Path.child, List.foldlM_append]
  simp

end Tree

/-! ### Ways -/

namespace Way

/-- What the way keeps is what is in the tree. -/
def IsIn (t : Tree) (w : Way) : Prop :=
  ∀ steps, steps <:+ w.steps → t.atEnd? ⟨w.base, steps⟩ = t.at? (place ⟨w.base, steps⟩)

variable {t : Tree} {w : Way}

theorem isIn_start (t : Tree) (base : Base) : IsIn t ⟨base, []⟩ := by
  intro steps h
  rw [List.suffix_nil.1 h]
  rfl

theorem IsIn.atEnd?_eq (h : w.IsIn t) : t.atEnd? w = t.at? w.place := h w.steps (List.suffix_refl _)

theorem place_child (w : Way) (name : Text) (node? : Option Node) :
    place { w with steps := (name, node?) :: w.steps } = w.place.child name := by
  simp [place, Place.child]

theorem place_back (w : Way) : w.back.place = w.place.back := by
  obtain ⟨base, steps⟩ := w
  cases steps with
  | nil => cases base <;> rfl
  | cons step steps =>
      obtain ⟨name, node?⟩ := step
      simp only [back, place, List.map_cons, List.reverse_cons]
      cases (steps.map (·.1)).reverse with
      | nil => rfl
      | cons first rest => rw [List.cons_append, Place.back, ← List.cons_append, List.dropLast_concat]

theorem IsIn.back (h : w.IsIn t) : w.back.IsIn t := by
  obtain ⟨base, steps⟩ := w
  cases steps with
  | nil =>
      cases base with
      | root => exact isIn_start t _
      | above levels => exact isIn_start t _
  | cons step steps => exact fun others hothers => h others (hothers.trans (List.suffix_cons step steps))

theorem IsIn.child {contents : Contents} (h : w.IsIn t) (hend : t.atEnd? w = some (.folder contents))
    (name : Text) : IsIn t { w with steps := (name, contents.lookup name) :: w.steps } := by
  intro steps hsteps
  rcases List.suffix_cons_iff.1 hsteps with rfl | hsteps
  · rw [h.atEnd?_eq] at hend
    exact ((congrArg t.at? (place_child w name _)).trans (Tree.at?_child hend name)).symm
  · exact h steps hsteps

/-- Going one name further on a way goes from place to place. -/
theorem IsIn.step (h : w.IsIn t) (name : Text) :
    (t.step w name).map place = t.advance w.place name ∧
      ∀ w', t.step w name = .ok w' → w'.IsIn t := by
  rw [Tree.advance, Tree.view?, ← h.atEnd?_eq, Tree.step]
  cases hend : t.atEnd? w with
  | none => exact ⟨rfl, fun w' h' => nomatch h'⟩
  | some node =>
      cases node with
      | file bytes => exact ⟨rfl, fun w' h' => nomatch h'⟩
      | folder contents =>
          by_cases hup : name = ".."
          · simp only [if_pos hup]
            refine ⟨congrArg Except.ok (place_back w), ?_⟩
            rintro _ ⟨⟩
            exact h.back
          · by_cases hlong : Path.isLongName name = true
            · simp only [if_neg hup, if_pos hlong]
              exact ⟨rfl, fun w' h' => nomatch h'⟩
            · simp only [if_neg hup, if_neg hlong]
              refine ⟨?_, ?_⟩
              · exact congrArg Except.ok (place_child w _ _)
              · rintro _ ⟨⟩
                exact h.child hend _

/-- Going on along a way goes from place to place. -/
theorem IsIn.steps (h : w.IsIn t) (names : List Text) :
    (do let w' ← names.foldlM t.step w; return (w'.place, t.atEnd? w') :
      Except FileFault (Place × Option Node)) =
      (do let place ← names.foldlM t.advance w.place; return (place, t.at? place)) := by
  induction names generalizing w with
  | nil => simp [h.atEnd?_eq]
  | cons name names ih =>
      obtain ⟨hplace, hin⟩ := h.step name
      rw [List.foldlM_cons, List.foldlM_cons, ← hplace]
      cases hstep : t.step w name with
      | error f => rfl
      | ok w' => exact ih (hin w' hstep)

end Way

namespace Tree

/-- **A path is followed from place to place.** -/
theorem follow_eq_locate (t : Tree) (p : Path) :
    t.follow p =
      match p.flaw? with
      | some f => .error f
      | none => (t.locate p).map fun place => (place, t.at? place) := by
  rw [follow]
  cases p.flaw? with
  | some f => rfl
  | none => exact (Way.isIn_start t (.ofPath p)).steps p.components

/-! ### At the end of a path -/

/-- What can be seen at the end of a path. -/
def see (t : Tree) (p : Path) : Except FileFault View :=
  match p.flaw? with
  | some f => .error f
  | none => match t.locate p with
    | .error f => .error f
    | .ok place => match t.view? place with
      | none => .error .missing
      | some view => .ok view

theorem see_eq_find (t : Tree) (p : Path) : t.see p = (t.find p).map fun found => found.2.view := by
  rw [see, find, follow_eq_locate]
  cases p.flaw? with
  | some f => rfl
  | none =>
      cases t.locate p with
      | error f => rfl
      | ok place =>
          simp only [view?, Except.map, bind, Except.bind]
          cases t.at? place <;> rfl

theorem holds_eq_see (t : Tree) (p : Path) :
    t.holds p = match t.see p with
      | .ok _ => .ok true
      | .error .nameTooLong => .error (.file .nameTooLong p.text)
      | .error _ => .ok false := by
  rw [see_eq_find, holds]
  cases t.find p with
  | ok found => rfl
  | error f => cases f <;> rfl

theorem isFile_eq_see (t : Tree) (p : Path) :
    t.isFile p = match t.see p with
      | .ok (.file _) => true
      | _ => false := by
  rw [see_eq_find, isFile]
  cases t.find p with
  | ok found =>
      obtain ⟨place, node⟩ := found
      cases node <;> rfl
  | error f => rfl

theorem read_eq_see (t : Tree) (p : Path) :
    t.read p = match t.see p with
      | .ok (.file bytes) => .ok bytes
      | .ok (.folder _) => .error .isFolder
      | .error f => .error f := by
  rw [see_eq_find, read]
  cases t.find p with
  | ok found =>
      obtain ⟨place, node⟩ := found
      cases node <;> rfl
  | error f => rfl

/-- The names in the folder that a path leads to, if it leads to one. -/
def entries? (t : Tree) (p : Path) : Except Fault (Option (List (Text × Bool))) :=
  match t.see p with
  | .ok (.folder entries) => .ok (some entries)
  | .error .nameTooLong => .error (.file .nameTooLong p.text)
  | _ => .ok none

theorem entries?_eq_listing? (t : Tree) (p : Path) :
    t.entries? p = (t.listing? p).map (Option.map Contents.entries) := by
  rw [entries?, see_eq_find, listing?]
  cases t.find p with
  | ok found =>
      obtain ⟨place, node⟩ := found
      cases node <;> rfl
  | error f => cases f <;> rfl

theorem leadsToFolder_eq_entries? (t : Tree) (p : Path) :
    t.leadsToFolder p = (t.entries? p).map (·.isSome) := by
  rw [leadsToFolder, entries?_eq_listing?]
  cases t.listing? p with
  | error f => rfl
  | ok contents => cases contents <;> rfl

/-- The names in the folder that a path leads to; none if it leads to none. -/
def entries (t : Tree) (p : Path) : Except Fault (List (Text × Bool)) := (t.entries? p).map (·.getD [])

theorem entries_eq_listing (t : Tree) (p : Path) :
    t.entries p = (t.listing p).map Contents.entries := by
  rw [entries, listing, entries?_eq_listing?]
  cases t.listing? p with
  | error f => rfl
  | ok contents => cases contents <;> rfl

/-- Where there are names, there is a folder that they are in. -/
theorem exists_view?_of_entries {t : Tree} {p : Path} {found : List (Text × Bool)}
    (h : t.entries p = .ok found) (hne : found ≠ []) :
    ∃ place, t.locate p = .ok place ∧ t.view? place = some (.folder found) := by
  obtain ⟨found?, hfound?, hfound⟩ := exists_of_map_eq_ok h
  cases found? with
  | none => exact absurd hfound.symm hne
  | some inside =>
      obtain rfl : inside = found := hfound
      rw [entries?, see] at hfound?
      cases hflaw : p.flaw? with
      | some f => rw [hflaw] at hfound?; cases f <;> cases hfound?
      | none =>
          rw [hflaw] at hfound?
          cases hplace : t.locate p with
          | error f => rw [hplace] at hfound?; cases f <;> cases hfound?
          | ok place =>
              rw [hplace] at hfound?
              refine ⟨place, rfl, ?_⟩
              cases hview : t.view? place with
              | none => simp [hview] at hfound?
              | some view =>
                  cases view with
                  | file bytes => simp [hview] at hfound?
                  | folder entries => simpa [hview] using hfound?

end Tree

end CpeMatch.Files
