import CpeMatch.Proofs.Files.NewFile

/-!
**What has been written is read.**

A file is written where a path leads to, whether there has been a file before or nothing.  The folders on the way
are folders afterwards, too, so the path leads to the same place again, and there to the file.

Main results:

* `CpeMatch.Files.Tree.at?_put`, `CpeMatch.Files.Tree.exists_folder_put` — what is at a place where something has
  been put, and the folders elsewhere;
* `CpeMatch.Files.Tree.read_of_write` — **what has been written is read**.
-/

set_option autoImplicit false

namespace CpeMatch.Files

/-! ### Contents -/

/-- What has been put where names lead to is there. -/
theorem Contents.at?_put {names : List Text} (h : names ≠ []) (node : Node) (contents : Contents) :
    (Node.folder (put node names contents)).at? names = some node := by
  induction names generalizing contents with
  | nil => exact absurd rfl h
  | cons name rest ih =>
      cases rest with
      | nil => rw [put, Node.at?, lookup_insert_self, Option.bind_some, Node.at?_nil]
      | cons next rest =>
          rw [put_cons (List.cons_ne_nil next rest), Node.at?, lookup_insert_self, Option.bind_some]
          exact ih (List.cons_ne_nil next rest) _

/-- A folder that is not where the names lead to, nor inside that, is a folder still. -/
theorem Contents.exists_folder_put {names others : List Text} {contents inner : Contents}
    (hfolder : (Node.folder contents).at? others = some (.folder inner)) (houtside : ¬ names <+: others)
    (node : Node) :
    ∃ after, (Node.folder (put node names contents)).at? others = some (.folder after) := by
  induction names generalizing contents others with
  | nil => exact absurd List.nil_prefix houtside
  | cons name rest ih =>
      cases others with
      | nil => exact ⟨_, Node.at?_nil _⟩
      | cons other others =>
          obtain ⟨below, hbelow, hfolder⟩ := Option.bind_eq_some_iff.1 hfolder
          by_cases hother : other = name
          · -- the way goes into the folder of the first name, which is put back changed
            subst hother
            have houtside : ¬ rest <+: others := fun h => houtside (List.cons_prefix_cons.2 ⟨rfl, h⟩)
            have hrest : rest ≠ [] := by
              rintro rfl
              exact houtside List.nil_prefix
            cases below with
            | file bytes => cases others <;> cases hfolder
            | folder below =>
                have hwithin : within other contents = below := by
                  rw [within, hbelow]
                  rfl
                rw [put_cons hrest, hwithin, Node.at?, lookup_insert_self, Option.bind_some]
                exact ih hfolder houtside
          · refine ⟨inner, ?_⟩
            have hput : ∃ new, put node (name :: rest) contents = insert name new contents := by
              cases rest with
              | nil => exact ⟨_, rfl⟩
              | cons next rest => exact ⟨_, rfl⟩
            obtain ⟨new, hput⟩ := hput
            rw [hput, Node.at?, lookup_insert_of_ne hother, hbelow, Option.bind_some, hfolder]

namespace Tree

variable {t : Tree} {place other : Place} {p : Path} {bytes : List UInt8}

theorem at?_put (h : place.names ≠ []) (t : Tree) (node : Node) :
    (t.put place node).at? place = some node := by
  rw [at?, put, contents_change, if_pos rfl]
  exact Contents.at?_put h node _

/-- Where there is no folder there is none inside, so all folders are folders after something has been put
there. -/
theorem exists_folder_put {contents : Contents} (hfolder : t.at? other = some (.folder contents))
    (hplace : ∀ inner, t.at? place ≠ some (.folder inner)) (node : Node) :
    ∃ after, (t.put place node).at? other = some (.folder after) := by
  obtain ⟨base, names⟩ := other
  rw [at?, put, contents_change]
  by_cases hbase : base = place.base
  · subst hbase
    rw [if_pos rfl]
    refine Contents.exists_folder_put hfolder ?_ node
    rintro ⟨more, rfl⟩
    rw [at?, Node.at?_append] at hfolder
    obtain ⟨above, habove, hmore⟩ := Option.bind_eq_some_iff.1 hfolder
    cases above with
    | file bytes => cases more <;> cases hmore
    | folder inner => exact hplace inner habove
  · rw [if_neg hbase]
    exact ⟨contents, hfolder⟩

/-- From a folder one name leads where it has led before. -/
theorem advance_put (hplace : ∀ inner, t.at? place ≠ some (.folder inner)) (node : Node) {start : Place}
    {name : Text} (h : t.advance start name = .ok other) : (t.put place node).advance start name = .ok other := by
  rw [advance, view?] at h ⊢
  cases hstart : t.at? start with
  | none =>
      rw [hstart] at h
      cases h
  | some there =>
      rw [hstart] at h
      cases there with
      | file bytes => cases h
      | folder contents =>
          obtain ⟨after, hafter⟩ := exists_folder_put hstart hplace node
          rw [hafter]
          exact h

/-- Names lead where they have led before. -/
theorem foldlM_advance_put (hplace : ∀ inner, t.at? place ≠ some (.folder inner)) (node : Node)
    (names : List Text) {start : Place} (h : names.foldlM t.advance start = .ok other) :
    names.foldlM (t.put place node).advance start = .ok other := by
  induction names generalizing start with
  | nil => exact h
  | cons name names ih =>
      rw [List.foldlM_cons] at h ⊢
      obtain ⟨further, hname, h⟩ := exists_of_bind_eq_ok h
      rw [advance_put hplace node hname]
      exact ih h

/-- What is written is put where the path leads to, and there is no folder there. -/
theorem exists_put_of_write {t' : Tree} (h : t.write p bytes = .ok t') :
    ∃ place, p.flaw? = none ∧ t.locate p = .ok place ∧ (∀ inner, t.at? place ≠ some (.folder inner)) ∧
      t' = t.put place (.file bytes) := by
  rw [write, follow_eq_locate] at h
  cases hflaw : p.flaw? with
  | some f =>
      rw [hflaw] at h
      cases h
  | none =>
      rw [hflaw] at h
      cases hplace : t.locate p with
      | error f =>
          rw [hplace] at h
          cases h
      | ok place =>
          rw [hplace] at h
          refine ⟨place, rfl, rfl, ?_⟩
          simp only [Except.map, bind, Except.bind] at h
          cases hnode : t.at? place with
          | none =>
              rw [hnode] at h
              cases h
              exact ⟨fun _ => nofun, rfl⟩
          | some node =>
              rw [hnode] at h
              cases node with
              | folder contents => cases h
              | file old =>
                  cases h
                  exact ⟨fun _ => nofun, rfl⟩

/-- **What has been written is read.** -/
theorem read_of_write {t' : Tree} (h : t.write p bytes = .ok t') : t'.read p = .ok bytes := by
  obtain ⟨place, hflaw, hplace, hnone, rfl⟩ := exists_put_of_write h
  -- a place that no names lead to is a folder
  have hnames : place.names ≠ [] := by
    intro hnil
    refine hnone (t.contents place.base) ?_
    rw [at?, hnil, Node.at?_nil]
  have hlocate : (t.put place (.file bytes)).locate p = .ok place :=
    foldlM_advance_put hnone (.file bytes) p.components hplace
  rw [read, find, follow_eq_locate, hflaw]
  simp only [hlocate, Except.map, at?_put hnames]
  rfl

end Tree

end CpeMatch.Files
