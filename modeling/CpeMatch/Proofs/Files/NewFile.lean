import CpeMatch.Proofs.Files.Place

/-!
**A new file.**

A file that is put into a folder, under a name that has not been there, is seen at its own place, and as
one name more in the folder.  Nothing else that can be seen anywhere changes.  So a path that does not lead
to the new file leads where it has led before, and finds there what it has found before.

Main definitions:

* `CpeMatch.Files.Tree.Gains` — a tree has a file more than another, and nothing else;
* `CpeMatch.Files.Tree.leadsTo` — a path leads to a place.

Main results:

* `CpeMatch.Files.Tree.gains_put` — **putting a file into a folder adds this file**;
* `CpeMatch.Files.Tree.Gains.locate` — paths lead where they have led before;
* `CpeMatch.Files.Tree.Gains.see` — **what can be seen at the end of a path that does not lead to the new
  file**.
-/

set_option autoImplicit false

namespace CpeMatch.Files

/-! ### Putting a file into a folder -/

namespace Contents

theorem lookup_eq_none_iff {contents : Contents} {name : Text} :
    contents.lookup name = none ↔ ∀ entry ∈ contents, entry.1 ≠ name := by
  rw [List.lookup_eq_none_iff]
  refine forall₂_congr fun entry _ => ?_
  rw [bne_iff_ne, ne_comm]

theorem insert_of_lookup_eq_none {contents : Contents} {name : Text} (h : contents.lookup name = none)
    (node : Node) : insert name node contents = contents ++ [(name, node)] := by
  induction contents with
  | nil => rfl
  | cons entry rest ih =>
      obtain ⟨other, old⟩ := entry
      have hne : other ≠ name := lookup_eq_none_iff.1 h _ (List.mem_cons_self ..)
      have hrest : rest.lookup name = none :=
        lookup_eq_none_iff.2 fun e he => lookup_eq_none_iff.1 h e (List.mem_cons_of_mem _ he)
      rw [insert, if_neg hne, ih hrest]
      rfl

theorem put_cons {names : List Text} (h : names ≠ []) (node : Node) (name : Text) (contents : Contents) :
    put node (name :: names) contents =
      insert name (.folder (put node names (within name contents))) contents := by
  cases names with
  | nil => exact absurd rfl h
  | cons next rest => rfl

/-- A folder in place of another shows the same name. -/
theorem entries_insert_folder {contents : Contents} {name : Text} {old : Contents}
    (h : contents.lookup name = some (.folder old)) (new : Contents) :
    entries (insert name (.folder new) contents) = entries contents := by
  induction contents with
  | nil => cases h
  | cons entry rest ih =>
      obtain ⟨other, node⟩ := entry
      by_cases hother : other = name
      · subst hother
        obtain rfl : node = .folder old := by simpa using h
        rw [insert, if_pos rfl]
        rfl
      · rw [List.lookup_cons, beq_false_of_ne (Ne.symm hother)] at h
        rw [insert, if_neg hother, entries, entries, List.map_cons, List.map_cons]
        exact congrArg _ (ih h)

end Contents

/-- **What can be seen after a file has been put into a folder.** -/
theorem view_at?_put {names : List Text} {contents inner : Contents} {name : Text}
    (hfolder : (Node.folder contents).at? names = some (.folder inner)) (hname : inner.lookup name = none)
    (bytes : List UInt8) (others : List Text) :
    ((Node.folder (Contents.put (.file bytes) (names ++ [name]) contents)).at? others).map Node.view =
      if others = names then some (.folder (Contents.entries inner ++ [(name, false)]))
      else if others = names ++ [name] then some (.file bytes)
      else ((Node.folder contents).at? others).map Node.view := by
  induction names generalizing contents others with
  | nil =>
      obtain rfl : contents = inner := by simpa using hfolder
      cases others with
      | nil =>
          rw [if_pos rfl, Node.at?_nil, List.nil_append, Contents.put,
            Contents.insert_of_lookup_eq_none hname]
          simp [Node.view, Contents.entries, Node.isFolder]
      | cons other rest =>
          rw [if_neg (List.cons_ne_nil other rest), List.nil_append, Contents.put, Node.at?, Node.at?]
          by_cases hother : other = name
          · subst hother
            rw [Contents.lookup_insert_self, hname]
            cases rest with
            | nil => rw [if_pos rfl]; rfl
            | cons next rest => rw [if_neg (by simp)]; rfl
          · rw [Contents.lookup_insert_of_ne hother, if_neg (by simp [hother])]
  | cons first names ih =>
      -- the folder lies below that of the first name, which is put back changed
      obtain ⟨below, hfirst, hbelow⟩ := Option.bind_eq_some_iff.1 hfolder
      obtain ⟨within, rfl⟩ : ∃ within, below = .folder within := by
        cases below with
        | folder within => exact ⟨within, rfl⟩
        | file bytes => cases names <;> cases hbelow
      have hput : Contents.put (.file bytes) (first :: names ++ [name]) contents =
          Contents.insert first (.folder (Contents.put (.file bytes) (names ++ [name]) within)) contents := by
        have hwithin : Contents.within first contents = within := by
          rw [Contents.within, hfirst]
          rfl
        rw [List.cons_append, Contents.put_cons (by simp), hwithin]
      rw [hput]
      cases others with
      | nil =>
          rw [if_neg (by simp), if_neg (by simp), Node.at?_nil, Node.at?_nil]
          exact congrArg (some ∘ View.folder) (Contents.entries_insert_folder hfirst _)
      | cons other rest =>
          rw [Node.at?, Node.at?]
          by_cases hother : other = first
          · subst hother
            rw [Contents.lookup_insert_self, hfirst, Option.bind_some, Option.bind_some, ih hbelow]
            simp
          · rw [Contents.lookup_insert_of_ne hother, if_neg (by simp [hother]), if_neg (by simp [hother])]

namespace Tree

theorem lookup_filter_ne {base other : Base} (h : other ≠ base) (bases : List (Base × Contents)) :
    (bases.filter (·.1 ≠ base)).lookup other = bases.lookup other := by
  induction bases with
  | nil => rfl
  | cons entry rest ih =>
      obtain ⟨first, inside⟩ := entry
      by_cases hfirst : first = base
      · subst hfirst
        rw [List.filter_cons_of_neg (by simp), ih, List.lookup_cons, beq_false_of_ne h]
      · rw [List.filter_cons_of_pos (by simpa using hfirst), List.lookup_cons, List.lookup_cons, ih]

theorem contents_change (t : Tree) (base : Base) (f : Contents → Contents) (other : Base) :
    (t.change base f).contents other = if other = base then f (t.contents base) else t.contents other := by
  rw [contents, change, List.lookup_cons]
  by_cases h : other = base
  · rw [h, if_pos rfl, beq_self_eq_true]
    rfl
  · rw [if_neg h, beq_false_of_ne h, contents]
    exact congrArg (·.getD []) (lookup_filter_ne h t.bases)

/-- The tree `t'` has a file of the given octets more than `t`, under a name in a folder, and is like `t`
everywhere else. -/
structure Gains (t t' : Tree) (folder : Place) (name : Text) (bytes : List UInt8) : Prop where
  /-- The name leads into the folder, to where it says. -/
  leads_in : name ≠ ".." ∧ Path.isLongName name = false ∧ Path.listed name = name
  /-- No name in the folder leads to where the new one does; this is one more of them. -/
  seen_in_folder : ∃ entries, t.view? folder = some (.folder entries) ∧
    (∀ entry ∈ entries, Path.listed entry.1 ≠ name) ∧
    t'.view? folder = some (.folder (entries ++ [(name, false)]))
  missing_before : t.view? (folder.child name) = none
  seen_after : t'.view? (folder.child name) = some (.file bytes)
  unchanged : ∀ place, place ≠ folder → place ≠ folder.child name → t'.view? place = t.view? place
  reach_eq : t'.reach = t.reach

/-- **Putting a file into a folder adds this file**, if the name is one that a folder lists and no name in
the folder is listed like it. -/
theorem gains_put {t : Tree} {folder : Place} {contents : Contents} {name : Text}
    (hfolder : t.at? folder = some (.folder contents))
    (hname : name ≠ ".." ∧ Path.isLongName name = false ∧ Path.listed name = name)
    (hnew : ∀ entry ∈ contents, Path.listed entry.1 ≠ name) (bytes : List UInt8) :
    t.Gains (t.put (folder.child name) (.file bytes)) folder name bytes := by
  have hlookup : contents.lookup name = none := by
    refine Contents.lookup_eq_none_iff.2 ?_
    rintro entry he rfl
    exact hnew entry he hname.2.2
  have hview : ∀ names, (t.put (folder.child name) (.file bytes)).view? ⟨folder.base, names⟩ =
      if names = folder.names then some (.folder (Contents.entries contents ++ [(name, false)]))
      else if names = folder.names ++ [name] then some (.file bytes)
      else t.view? ⟨folder.base, names⟩ := by
    intro names
    rw [view?, at?, put, contents_change, Place.child, if_pos rfl]
    exact view_at?_put hfolder hlookup bytes names
  refine ⟨hname, ⟨Contents.entries contents, ?_, ?_, ?_⟩, ?_, ?_, ?_, rfl⟩
  · rw [view?, hfolder]
    rfl
  · intro entry hentry
    obtain ⟨e, he, rfl⟩ := List.mem_map.1 hentry
    exact hnew e he
  · rw [hview folder.names, if_pos rfl]
  · rw [view?, at?_child hfolder, hlookup]
    rfl
  · have hself := hview (folder.names ++ [name])
    rwa [if_neg (by simp), if_pos rfl] at hself
  · rintro ⟨base, names⟩ hne hne'
    by_cases hbase : base = folder.base
    · subst hbase
      rw [hview, if_neg fun h => hne (by rw [h]), if_neg fun h => hne' (by rw [h]; rfl)]
    · have hcontents : (t.put (folder.child name) (.file bytes)).contents base = t.contents base := by
        rw [put, contents_change]
        exact if_neg hbase
      rw [view?, view?, at?, at?, hcontents]

/-! ### Following paths -/

/-- Whether a path leads to a place. -/
def leadsTo (t : Tree) (place : Place) (p : Path) : Bool :=
  match t.locate p with
  | .ok other => other = place
  | .error _ => false

theorem leadsTo_iff {t : Tree} {place : Place} {p : Path} :
    t.leadsTo place p = true ↔ t.locate p = .ok place := by
  rw [leadsTo]
  cases t.locate p with
  | error f => simp
  | ok other => simp

namespace Gains

variable {t t' : Tree} {folder : Place} {name : Text} {bytes : List UInt8}

theorem advance (h : t.Gains t' folder name bytes) {place : Place} (hplace : place ≠ folder.child name)
    (next : Text) : t'.advance place next = t.advance place next := by
  rw [Tree.advance, Tree.advance]
  by_cases hfolder : place = folder
  · obtain ⟨entries, hbefore, _, hafter⟩ := h.seen_in_folder
    rw [hfolder, hbefore, hafter]
  · rw [h.unchanged place hfolder hplace]

/-- Names lead where they have led before, but that those through the new file are stopped by it, and not
by a want of it. -/
theorem foldlM_advance (h : t.Gains t' folder name bytes) (names : List Text) (place : Place) :
    names.foldlM t'.advance place = names.foldlM t.advance place ∨
      (names.foldlM t.advance place = .error .missing ∧
        names.foldlM t'.advance place = .error .notFolder) := by
  induction names generalizing place with
  | nil => exact Or.inl rfl
  | cons next names ih =>
      rw [List.foldlM_cons, List.foldlM_cons]
      by_cases hplace : place = folder.child name
      · refine Or.inr ?_
        rw [hplace, Tree.advance, Tree.advance, h.missing_before, h.seen_after]
        exact ⟨rfl, rfl⟩
      · rw [h.advance hplace]
        cases t.advance place next with
        | error f => exact Or.inl rfl
        | ok further => exact ih further

/-- Paths lead where they have led before. -/
theorem locate (h : t.Gains t' folder name bytes) (p : Path) :
    t'.locate p = t.locate p ∨ (t.locate p = .error .missing ∧ t'.locate p = .error .notFolder) :=
  h.foldlM_advance p.components _

theorem leadsTo_eq (h : t.Gains t' folder name bytes) (place : Place) (p : Path) :
    t'.leadsTo place p = t.leadsTo place p := by
  rw [leadsTo, leadsTo]
  rcases h.locate p with hlocate | ⟨hbefore, hafter⟩
  · rw [hlocate]
  · rw [hbefore, hafter]

/-- **What can be seen at the end of a path.**  Where the path does not lead to the new file, this is what
could be seen before, but for the name of the new file in its folder. -/
theorem see (h : t.Gains t' folder name bytes) {p : Path} (hp : t.leadsTo (folder.child name) p = false) :
    t'.see p = t.see p ∨
      (t.see p = .error .missing ∧ t'.see p = .error .notFolder) ∨
      (t.locate p = .ok folder ∧ ∃ entries, t.see p = .ok (.folder entries) ∧
        t'.see p = .ok (.folder (entries ++ [(name, false)]))) := by
  rw [Tree.see, Tree.see]
  cases p.flaw? with
  | some f => exact Or.inl rfl
  | none =>
      rcases h.locate p with hlocate | ⟨hbefore, hafter⟩
      · rw [hlocate]
        cases hplace : t.locate p with
        | error f => exact Or.inl rfl
        | ok place =>
            have hne : place ≠ folder.child name := by
              rintro rfl
              rw [leadsTo_iff.2 hplace] at hp
              cases hp
            by_cases hfolder : place = folder
            · obtain ⟨entries, hbefore, _, hafter⟩ := h.seen_in_folder
              refine Or.inr (Or.inr ⟨by rw [hfolder], entries, ?_, ?_⟩)
              · simp only [hfolder, hbefore]
              · simp only [hfolder, hafter]
            · exact Or.inl (by simp only [h.unchanged place hfolder hne])
      · rw [hbefore, hafter]
        exact Or.inr (Or.inl ⟨rfl, rfl⟩)

/-- At the end of a path to the new file there is nothing before, and then the file. -/
theorem see_new (h : t.Gains t' folder name bytes) {p : Path}
    (hp : t.leadsTo (folder.child name) p = true) :
    (t'.see p = t.see p ∧ ∃ f, t.see p = .error f) ∨
      (t.see p = .error .missing ∧ t'.see p = .ok (.file bytes)) := by
  have hbefore := leadsTo_iff.1 hp
  have hafter : t'.locate p = .ok (folder.child name) := leadsTo_iff.1 (by rw [h.leadsTo_eq, hp])
  rw [Tree.see, Tree.see]
  cases p.flaw? with
  | some f => exact Or.inl ⟨rfl, f, rfl⟩
  | none =>
      refine Or.inr ⟨?_, ?_⟩
      · simp only [hbefore, h.missing_before]
      · simp only [hafter, h.seen_after]

/-! ### Files -/

theorem isFile (h : t.Gains t' folder name bytes) {p : Path}
    (hp : t.leadsTo (folder.child name) p = false) : t'.isFile p = t.isFile p := by
  rw [isFile_eq_see, isFile_eq_see]
  rcases h.see hp with hsee | ⟨hbefore, hafter⟩ | ⟨_, entries, hbefore, hafter⟩
  · rw [hsee]
  · rw [hbefore, hafter]
  · rw [hbefore, hafter]

/-- What is read is what has been read before, or nothing can be read, now as before. -/
theorem read (h : t.Gains t' folder name bytes) {p : Path}
    (hp : t.leadsTo (folder.child name) p = false) :
    t'.read p = t.read p ∨ ∃ f f', t.read p = .error f ∧ t'.read p = .error f' := by
  rw [read_eq_see, read_eq_see]
  rcases h.see hp with hsee | ⟨hbefore, hafter⟩ | ⟨_, entries, hbefore, hafter⟩
  · exact Or.inl (by rw [hsee])
  · exact Or.inr ⟨_, _, by rw [hbefore], by rw [hafter]⟩
  · exact Or.inl (by rw [hbefore, hafter])

/-- What is read of the new file are its octets, unless the path is one that cannot be opened. -/
theorem read_new (h : t.Gains t' folder name bytes) {p : Path}
    (hp : t.leadsTo (folder.child name) p = true) :
    t'.read p = .ok bytes ∨ ∃ f, t'.read p = .error f := by
  rw [read_eq_see]
  rcases h.see_new hp with ⟨hsee, f, hbefore⟩ | ⟨_, hafter⟩
  · exact Or.inr ⟨f, by rw [hsee, hbefore]⟩
  · exact Or.inl (by rw [hafter])

end Gains

end Tree

end CpeMatch.Files
