import CpeMatch.Proofs.Files.Search
import CpeMatch.Proofs.Store.Loading

/-!
**A file that is no document.**

A file that is put among those that a store is loaded from, and that is no document, is complained of and
passed over: everything else is taken in as it would be without the file.  This holds of any file that is
malformed.  But a file with an integer of too many digits, or one that is nested too deep, ends the load
with its fault.

Main results:

* `CpeMatch.Store.keeps_dataFiles` — the files that are loaded are those that would be without it;
* `CpeMatch.Store.absorbFiles_of_passed`, `CpeMatch.Store.fault_absorbFiles_of_faulty` — what is taken in
  of them;
* `CpeMatch.Store.load_with_rejected` — **a malformed file costs itself and nothing else, any other that
  is rejected costs the load**.
-/

set_option autoImplicit false

namespace CpeMatch.Store

open Files Timing

/-! ### The files of a store -/

section

variable {t t' : Tree} {folder : Place} {name : Text} {bytes : List UInt8}

/-- The files that are loaded are those that have been, in their order, with the new one among them if the
pattern fits it. -/
theorem keeps_dataFiles (h : t.Gains t' folder name bytes) {config : Config}
    (hconfig : t.leadsTo (folder.child name) config.path = false) :
    Tree.Keeps (t.leadsTo (folder.child name)) (dataFiles t config) (dataFiles t' config) := by
  rw [dataFiles, dataFiles, h.isFile hconfig]
  split
  · exact Tree.Keeps.single hconfig
  · exact h.keeps_search _ _

theorem limits_of_gains (h : t.Gains t' folder name bytes) : limits t' = limits t := by
  rw [limits, limits, h.reach_eq]

/-- What is in a file that has been there is what has been in it. -/
theorem readFile_of_old (h : t.Gains t' folder name bytes) {p : Path}
    (hp : t.leadsTo (folder.child name) p = false) : readFile t' p = readFile t p := by
  rw [readFile, readFile, limits_of_gains h]
  rcases h.read hp with hread | ⟨f, f', hbefore, hafter⟩
  · rw [hread]
  · rw [hbefore, hafter]

/-- A new file that is malformed has no values. -/
theorem readFile_of_malformed (h : t.Gains t' folder name bytes) {e : Json.DocumentError}
    (hbytes : Json.ofBytes (limits t) bytes = .error e) (he : Fault.ofDocumentError? e = none) {p : Path}
    (hp : t.leadsTo (folder.child name) p = true) : readFile t' p = .ok none := by
  rw [readFile, limits_of_gains h]
  rcases h.read_new hp with hread | ⟨f, hread⟩
  · simp only [hread, hbytes, he]
  · rw [hread]

/-- A new file that is rejected for another reason is a fault, unless its path cannot be opened. -/
theorem readFile_of_faulty (h : t.Gains t' folder name bytes) {e : Json.DocumentError} {f : Fault}
    (hbytes : Json.ofBytes (limits t) bytes = .error e) (he : Fault.ofDocumentError? e = some f) {p : Path}
    (hp : t.leadsTo (folder.child name) p = true) :
    readFile t' p = .error f ∨ readFile t' p = .ok none := by
  rw [readFile, limits_of_gains h]
  rcases h.read_new hp with hread | ⟨f', hread⟩
  · exact Or.inl (by simp only [hread, hbytes, he])
  · exact Or.inr (by rw [hread])

end

/-! ### Taking files in -/

section

variable {t t' : Tree} {new : Path → Bool}

theorem absorbFile_congr {p : Path} (h : readFile t' p = readFile t p) (s : Store) :
    absorbFile t' s p = absorbFile t s p := by
  rw [absorbFile, absorbFile, h]

theorem absorbFile_of_passed {p : Path} (h : readFile t' p = .ok none) (s : Store) :
    absorbFile t' s p = ⟨s, [.unreadable p.text], none⟩ := by
  rw [absorbFile, h]

theorem absorbFiles_cons_of_fault_eq_none {p : Path} {s : Store}
    (h : (absorbFile t s p).fault = none) (rest : List Path) :
    absorbFiles t s (p :: rest) =
      ⟨(absorbFiles t (absorbFile t s p).store rest).store,
        (absorbFile t s p).complaints ++ (absorbFiles t (absorbFile t s p).store rest).complaints,
        (absorbFiles t (absorbFile t s p).store rest).fault⟩ := by
  rw [absorbFiles]
  simp only [h]

theorem fault_absorbFiles_cons_of_fault {p : Path} {s : Store} {f : Fault}
    (h : (absorbFile t s p).fault = some f) (rest : List Path) :
    (absorbFiles t s (p :: rest)).fault = some f := by
  rw [absorbFiles]
  simp only [h]

theorem fault_absorbFile_eq_none {p : Path} {s : Store} {rest : List Path}
    (h : (absorbFiles t s (p :: rest)).fault = none) : (absorbFile t s p).fault = none := by
  cases hfirst : (absorbFile t s p).fault with
  | none => rfl
  | some f => rw [fault_absorbFiles_cons_of_fault hfirst] at h; cases h

/-- **Files that are passed over are only complained of.**  Between what is complained of without them
there is one complaint for each. -/
theorem absorbFiles_of_passed (hold : ∀ p, new p = false → readFile t' p = readFile t p) {paths : List Path}
    (hnew : ∀ p ∈ paths, new p = true → readFile t' p = .ok none) (s : Store)
    (hfault : (absorbFiles t s (paths.filter (!new ·))).fault = none) :
    (absorbFiles t' s paths).store = (absorbFiles t s (paths.filter (!new ·))).store ∧
      (absorbFiles t' s paths).fault = none ∧
      (absorbFiles t s (paths.filter (!new ·))).complaints.Sublist (absorbFiles t' s paths).complaints ∧
      (absorbFiles t' s paths).complaints.Perm
        ((absorbFiles t s (paths.filter (!new ·))).complaints ++
          (paths.filter new).map fun p => .unreadable p.text) := by
  induction paths generalizing s with
  | nil => exact ⟨rfl, rfl, List.Sublist.refl _, List.Perm.refl _⟩
  | cons p rest ih =>
      have ih := ih fun q hq => hnew q (List.mem_cons_of_mem p hq)
      cases hp : new p with
      | true =>
          have hpassed := absorbFile_of_passed (hnew p (List.mem_cons_self ..) hp) s
          have hnone : (absorbFile t' s p).fault = none := by rw [hpassed]
          rw [List.filter_cons_of_neg (by simp [hp])] at hfault ⊢
          obtain ⟨hstore, hfault', hsub, hperm⟩ := ih s hfault
          rw [absorbFiles_cons_of_fault_eq_none hnone, hpassed, List.filter_cons_of_pos hp]
          refine ⟨hstore, hfault', hsub.cons _, ?_⟩
          exact (hperm.cons _).trans List.perm_middle.symm
      | false =>
          have hsame := absorbFile_congr (hold p hp) s
          rw [List.filter_cons_of_pos (by simp [hp])] at hfault ⊢
          have hnone := fault_absorbFile_eq_none hfault
          rw [absorbFiles_cons_of_fault_eq_none hnone] at hfault ⊢
          obtain ⟨hstore, hfault', hsub, hperm⟩ := ih (absorbFile t s p).store hfault
          rw [absorbFiles_cons_of_fault_eq_none (by rw [hsame, hnone]), hsame,
            List.filter_cons_of_neg (by simp [hp])]
          refine ⟨hstore, hfault', hsub.append_left _, ?_⟩
          rw [List.append_assoc]
          exact hperm.append_left _

/-- A file that is a fault ends the taking in, if no other file is another fault. -/
theorem fault_absorbFiles_of_faulty (hold : ∀ p, new p = false → readFile t' p = readFile t p) {f : Fault}
    {paths : List Path}
    (hnew : ∀ p ∈ paths, new p = true → readFile t' p = .error f ∨ readFile t' p = .ok none)
    (hfaulty : ∃ p ∈ paths, readFile t' p = .error f) (s : Store)
    (hfault : (absorbFiles t s (paths.filter (!new ·))).fault = none) :
    (absorbFiles t' s paths).fault = some f := by
  induction paths generalizing s with
  | nil => simp at hfaulty
  | cons p rest ih =>
      have ih := ih fun q hq => hnew q (List.mem_cons_of_mem p hq)
      have hrest : readFile t' p ≠ .error f → ∃ q ∈ rest, readFile t' q = .error f := by
        obtain ⟨q, hq, hread⟩ := hfaulty
        rcases List.mem_cons.1 hq with rfl | hq
        · exact fun hne => absurd hread hne
        · exact fun _ => ⟨q, hq, hread⟩
      cases hp : new p with
      | true =>
          rw [List.filter_cons_of_neg (by simp [hp])] at hfault
          rcases hnew p (List.mem_cons_self ..) hp with hread | hread
          · exact fault_absorbFiles_cons_of_fault (by rw [absorbFile, hread]) rest
          · have hpassed := absorbFile_of_passed hread s
            rw [absorbFiles_cons_of_fault_eq_none (by rw [hpassed]), hpassed]
            exact ih (hrest (by simp [hread])) s hfault
      | false =>
          have hsame := absorbFile_congr (hold p hp) s
          rw [List.filter_cons_of_pos (by simp [hp])] at hfault
          have hnone := fault_absorbFile_eq_none hfault
          have hread : readFile t' p ≠ .error f := by
            intro hread
            rw [← hsame, absorbFile, hread] at hnone
            cases hnone
          rw [absorbFiles_cons_of_fault_eq_none hnone] at hfault
          rw [absorbFiles_cons_of_fault_eq_none (by rw [hsame, hnone]), hsame]
          exact ih (hrest hread) _ hfault

end

/-! ### Loading with a new file -/

theorem configure_eq_ok_iff {tree : Tree} {path pattern : Text} {s : Store} :
    configure tree path pattern = .ok s ↔
      tree.holds (Path.parse path) = .ok true ∧ s = empty (some ⟨Path.parse path, pattern⟩) := by
  rw [configure]
  cases tree.holds (Path.parse path) with
  | error f =>
      constructor
      · rintro ⟨⟩
      · rintro ⟨⟨⟩, _⟩
  | ok is =>
      cases is with
      | true =>
          constructor
          · rintro ⟨⟩
            exact ⟨rfl, rfl⟩
          · rintro ⟨_, rfl⟩
            rfl
      | false =>
          constructor
          · rintro ⟨⟩
          · rintro ⟨⟨⟩, _⟩

section

variable {tree : Tree} {session session₁ : Session Float Store} {config : Config}

/-- A load that comes to its end meets no fault. -/
theorem fault_absorbPath_of_load (hconfig : session.state.config = some config) {n : Nat}
    (hload : (load tree).start session = (.ok n, session₁)) :
    (absorbPath tree session.state config).fault = none := by
  obtain ⟨metric, _, ⟨f, _, hresult, _⟩ | ⟨hnone, _⟩⟩ := load_cases hconfig tree
  · rw [hload] at hresult
    cases hresult
  · exact hnone

theorem dataFiles_of_fault_eq_none {s : Store} (h : (absorbPath tree s config).fault = none) :
    ∃ paths, dataFiles tree config = .ok paths ∧ absorbPath tree s config = absorbFiles tree s paths := by
  rw [absorbPath] at h ⊢
  cases hpaths : dataFiles tree config with
  | error f =>
      rw [hpaths] at h
      cases h
  | ok paths => exact ⟨paths, rfl, rfl⟩

/-- A load that meets no fault comes to its end. -/
theorem exists_start_load_of_fault_eq_none (hconfig : session.state.config = some config)
    (hnone : (absorbPath tree session.state config).fault = none) :
    ∃ n session₁, (load tree).start session = (.ok n, session₁) := by
  obtain ⟨metric, _, ⟨f, hfault, _⟩ | ⟨_, hresult, _⟩⟩ := load_cases hconfig tree
  · rw [hnone] at hfault
    cases hfault
  · exact ⟨_, _, Prod.ext hresult rfl⟩

/-- A load fails with the fault that it meets. -/
theorem start_load_of_fault (hconfig : session.state.config = some config) {f : Fault}
    (hfault : (absorbPath tree session.state config).fault = some f) :
    ∃ session₂, (load tree).start session = (.error f, session₂) := by
  obtain ⟨metric, _, ⟨f', hfault', hresult, _⟩ | ⟨hnone, _⟩⟩ := load_cases hconfig tree
  · obtain rfl := Option.some.inj (hfault.symm.trans hfault')
    exact ⟨_, Prod.ext hresult rfl⟩
  · rw [hfault] at hnone
    cases hnone

/-- Two trees in whose files a store finds the same give the same, but for what is complained of. -/
theorem start_load_of_same {tree' : Tree} (hconfig : session.state.config = some config) {n : Nat}
    (hload : (load tree).start session = (.ok n, session₁)) {more : List Complaint}
    (hstore : (absorbPath tree' session.state config).store = (absorbPath tree session.state config).store)
    (hfault : (absorbPath tree' session.state config).fault = none)
    (hsub : (absorbPath tree session.state config).complaints.Sublist
      (absorbPath tree' session.state config).complaints)
    (hperm : (absorbPath tree' session.state config).complaints.Perm
      ((absorbPath tree session.state config).complaints ++ more)) :
    ∃ session₂, (load tree').start session = (.ok n, session₂) ∧ session₂.state = session₁.state ∧
      session₁.log.toList.Sublist session₂.log.toList ∧
      session₂.log.toList.Perm (session₁.log.toList ++ more.map (·.record)) ∧
      ∀ (α : Type) (question : Store → Except Fault α),
        ((ask tree' question).start session₂).1 = ((ask tree question).start session₁).1 := by
  have hnone := fault_absorbPath_of_load hconfig hload
  obtain ⟨result, clock, announced, state, metric, _, _, hresult, hrun⟩ :=
    exists_start_load hconfig (absorbPath tree session.state config).store none
  have hbefore := hrun tree (absorbPath tree session.state config).complaints (by rw [← hnone])
  have hafter := hrun tree' (absorbPath tree' session.state config).complaints
    (by rw [← hstore, ← hfault])
  obtain ⟨rfl, rfl⟩ := Prod.mk.inj (hload.symm.trans hbefore)
  obtain ⟨_, hstate⟩ := hresult rfl
  have hloaded : state.loaded = true := by rw [hstate]
  refine ⟨_, hafter, rfl, ?_, ?_, ?_⟩
  · simp only [Array.toList_append]
    exact ((hsub.map _).append_right _).append_left _
  · simp only [Array.toList_append, List.append_assoc]
    refine List.Perm.append_left _ (((hperm.map _).append_right _).trans ?_)
    rw [List.map_append, List.append_assoc]
    exact List.Perm.append_left _ List.perm_append_comm
  · intro α question
    rw [start_ask tree' question hloaded, start_ask tree question hloaded]

end

section

variable {t t' : Tree} {folder : Place} {name : Text} {bytes : List UInt8} {path pattern : Text} {s : Store}
  {session session₁ : Session Float Store} {n : Nat}

/-- What is there stays there. -/
theorem configure_of_gains (h : t.Gains t' folder name bytes) (hs : configure t path pattern = .ok s) :
    configure t' path pattern = .ok s := by
  obtain ⟨hholds, rfl⟩ := configure_eq_ok_iff.1 hs
  refine configure_eq_ok_iff.2 ⟨?_, rfl⟩
  rcases h.holds (Path.parse path) with hsame | ⟨_, hfalse, _⟩
  · rw [hsame, hholds]
  · rw [hholds] at hfalse
    cases hfalse

/-- After a load that has come to its end, the files that are loaded are those of this load and the new
one. -/
theorem exists_files_of_gains (h : t.Gains t' folder name bytes) (hs : configure t path pattern = .ok s)
    (hsession : session.state = s) (hload : (load t).start session = (.ok n, session₁)) :
    session.state.config = some ⟨Path.parse path, pattern⟩ ∧
      ∃ files, dataFiles t' ⟨Path.parse path, pattern⟩ = .ok files ∧
        absorbPath t' session.state ⟨Path.parse path, pattern⟩ = absorbFiles t' session.state files ∧
        absorbPath t session.state ⟨Path.parse path, pattern⟩ =
          absorbFiles t session.state (files.filter (!t.leadsTo (folder.child name) ·)) ∧
        (absorbPath t session.state ⟨Path.parse path, pattern⟩).fault = none := by
  obtain ⟨hholds, rfl⟩ := configure_eq_ok_iff.1 hs
  have hconfig : session.state.config = some ⟨Path.parse path, pattern⟩ := by rw [hsession]; rfl
  have hnone := fault_absorbPath_of_load hconfig hload
  obtain ⟨paths, hpaths, hbefore⟩ := dataFiles_of_fault_eq_none hnone
  -- the path has been there before, so it is not that of the new file
  have hpath := h.leadsTo_of_holds hholds
  have hkeeps : Tree.Keeps _ (dataFiles t ⟨Path.parse path, pattern⟩) _ := keeps_dataFiles h hpath
  obtain ⟨files, hfiles, rfl⟩ := hkeeps paths hpaths
  exact ⟨hconfig, files, hfiles, by rw [absorbPath, hfiles], hbefore, hnone⟩

/-- A new file that is malformed is complained of, and changes nothing else. -/
theorem load_of_malformed (h : t.Gains t' folder name bytes) {e : Json.DocumentError}
    (hbytes : Json.ofBytes (limits t) bytes = .error e) (he : Fault.ofDocumentError? e = none)
    (hs : configure t path pattern = .ok s) (hsession : session.state = s)
    (hload : (load t).start session = (.ok n, session₁)) {files : List Path}
    (hfiles : dataFiles t' ⟨Path.parse path, pattern⟩ = .ok files) :
    ∃ session₂, (load t').start session = (.ok n, session₂) ∧ session₂.state = session₁.state ∧
      session₁.log.toList.Sublist session₂.log.toList ∧
      session₂.log.toList.Perm (session₁.log.toList ++
        (files.filter (t.leadsTo (folder.child name))).map fun p => (Complaint.unreadable p.text).record) ∧
      ∀ (α : Type) (question : Store → Except Fault α),
        ((ask t' question).start session₂).1 = ((ask t question).start session₁).1 := by
  obtain ⟨hconfig, files', hfiles', hafter, hbefore, hnone⟩ := exists_files_of_gains h hs hsession hload
  obtain rfl : files' = files := Except.ok.inj (hfiles'.symm.trans hfiles)
  rw [hbefore] at hnone
  obtain ⟨hstore, hfault, hsub, hperm⟩ := absorbFiles_of_passed (fun p hp => readFile_of_old h hp)
    (fun p _ hp => readFile_of_malformed h hbytes he hp) session.state hnone
  rw [← hafter, ← hbefore] at hstore hsub hperm
  rw [← hafter] at hfault
  have hresult := start_load_of_same hconfig hload hstore hfault hsub hperm
  rwa [List.map_map] at hresult

/-- A new file that is rejected for another reason is a fault. -/
theorem load_of_faulty (h : t.Gains t' folder name bytes) {e : Json.DocumentError} {f : Fault}
    (hbytes : Json.ofBytes (limits t) bytes = .error e) (he : Fault.ofDocumentError? e = some f)
    (hs : configure t path pattern = .ok s) (hsession : session.state = s)
    (hload : (load t).start session = (.ok n, session₁)) {files : List Path}
    (hfiles : dataFiles t' ⟨Path.parse path, pattern⟩ = .ok files) {p : Path} (hp : p ∈ files)
    (hread : t'.read p = .ok bytes) : ∃ session₂, (load t').start session = (.error f, session₂) := by
  obtain ⟨hconfig, files', hfiles', hafter, hbefore, hnone⟩ := exists_files_of_gains h hs hsession hload
  obtain rfl : files' = files := Except.ok.inj (hfiles'.symm.trans hfiles)
  rw [hbefore] at hnone
  refine start_load_of_fault hconfig ?_
  rw [hafter]
  refine fault_absorbFiles_of_faulty (fun q hq => readFile_of_old h hq)
    (fun q _ hq => readFile_of_faulty h hbytes he hq) ⟨p, hp, ?_⟩ session.state hnone
  rw [readFile, hread, limits_of_gains h]
  simp only [hbytes, he]

end

/-- **A malformed file costs itself and nothing else, any other that is rejected costs the load.**  A store
is loaded from a path, and this comes to its end.  Then a file that is no document is put into a folder,
under a name that is not there.  If it is malformed, a fresh store for the same path is loaded as well, with
the same result and the same state, so that it answers every question as the other does; and besides what
the other complains of, it complains of each path on which it has come to the new file.  But if the file is
rejected for an integer of too many digits, or for being nested too deep, the load fails with this
fault. -/
theorem load_with_rejected {t : Tree} {folder : Place} {contents : Contents} {name : Text}
    (hfolder : t.at? folder = some (.folder contents))
    (hname : name ≠ ".." ∧ Path.isLongName name = false ∧ Path.listed name = name)
    (hnew : ∀ entry ∈ contents, Path.listed entry.1 ≠ name) {bytes : List UInt8}
    {e : Json.DocumentError} (hbytes : Json.ofBytes (limits t) bytes = .error e) {path pattern : Text} {s : Store}
    (hs : configure t path pattern = .ok s) {session session₁ : Session Float Store}
    (hsession : session.state = s) {n : Nat} (hload : (load t).start session = (.ok n, session₁)) :
    let t' := t.put (folder.child name) (.file bytes)
    let new := t'.leadsTo (folder.child name)
    configure t' path pattern = .ok s ∧
      ∃ files, dataFiles t' ⟨Path.parse path, pattern⟩ = .ok files ∧
        (Fault.ofDocumentError? e = none →
          ∃ session₂, (load t').start session = (.ok n, session₂) ∧ session₂.state = session₁.state ∧
            session₁.log.toList.Sublist session₂.log.toList ∧
            session₂.log.toList.Perm (session₁.log.toList ++
              (files.filter new).map fun p =>
                Log.Channel.store.record .warning ("Failed to parse " ++ p.text)) ∧
            ∀ (α : Type) (question : Store → Except Fault α),
              ((ask t' question).start session₂).1 = ((ask t question).start session₁).1) ∧
        (∀ f, Fault.ofDocumentError? e = some f → (∃ p ∈ files, t'.read p = .ok bytes) →
          ∃ session₂, (load t').start session = (.error f, session₂)) := by
  intro t' new
  have h : t.Gains t' folder name bytes := Tree.gains_put hfolder hname hnew bytes
  have hnew_eq : new = t.leadsTo (folder.child name) := funext (h.leadsTo_eq _)
  obtain ⟨_, files, hfiles, _⟩ := exists_files_of_gains h hs hsession hload
  refine ⟨configure_of_gains h hs, files, hfiles, ?_, ?_⟩
  · intro he
    rw [hnew_eq]
    exact load_of_malformed h hbytes he hs hsession hload hfiles
  · rintro f he ⟨p, hp, hread⟩
    exact load_of_faulty h hbytes he hs hsession hload hfiles hp hread

/-- A folder with one file, which holds an array of nothing. -/
def oneFile : Tree := ⟨[(.working, [("db", .folder [("a.json", .file [0x5b, 0x5d])])])], .standard⟩

/-- The place of the folder. -/
def oneFolder : Place := ⟨.working, ["db"]⟩

/-- A session on a fresh store for the folder. -/
def oneFileSession : Session Float Store :=
  ⟨.ofList [], false, #[], empty (some ⟨Path.parse "db", "*.json"⟩)⟩

theorem configure_oneFile : configure oneFile "db" "*.json" = .ok oneFileSession.state := rfl

/-- There is nothing in the file that could be a fault. -/
theorem fault_absorbPath_oneFile (s : Store) :
    (absorbPath oneFile s ⟨Path.parse "db", "*.json"⟩).fault = none := by
  have hfiles : dataFiles oneFile ⟨Path.parse "db", "*.json"⟩ =
      .ok ([⟨"", ["db", "a.json"]⟩].mergeSort fun p q => !q.before p) := rfl
  rw [absorbPath, hfiles, List.mergeSort_singleton]
  rfl

theorem exists_load_oneFile : ∃ n session₁, (load oneFile).start oneFileSession = (.ok n, session₁) :=
  exists_start_load_of_fault_eq_none rfl (fault_absorbPath_oneFile _)

/-- A file that holds an opening brace is complained of, behind the other in the folder. -/
theorem load_with_rejected_brace :
    oneFile.at? oneFolder = some (.folder [("a.json", .file [0x5b, 0x5d])]) ∧
      Json.ofBytes (limits oneFile) [0x7b] = .error .malformed ∧
      configure oneFile "db" "*.json" = .ok oneFileSession.state ∧
      ∃ n session₁ session₂, (load oneFile).start oneFileSession = (.ok n, session₁) ∧
        (load (oneFile.put (oneFolder.child "b.json") (.file [0x7b]))).start oneFileSession =
          (.ok n, session₂) ∧
        session₂.state = session₁.state ∧
        (Complaint.unreadable (Path.text ⟨"", ["db", "b.json"]⟩)).record ∈ session₂.log.toList := by
  have hfolder : oneFile.at? oneFolder = some (.folder [("a.json", .file [0x5b, 0x5d])]) := rfl
  have hname : ("b.json" : Text) ≠ ".." ∧ Path.isLongName "b.json" = false ∧
      Path.listed "b.json" = "b.json" := by decide
  have hnew : ∀ entry ∈ [(("a.json" : Text), Node.file [0x5b, 0x5d])],
      Path.listed entry.1 ≠ "b.json" := by
    intro entry hentry
    rw [List.mem_singleton.1 hentry]
    decide
  have hbytes : Json.ofBytes (limits oneFile) [0x7b] = .error .malformed := rfl
  obtain ⟨n, session₁, hload⟩ := exists_load_oneFile
  obtain ⟨_, files, hfiles, hmalformed, _⟩ :=
    load_with_rejected hfolder hname hnew hbytes configure_oneFile rfl hload
  obtain ⟨session₂, hload', hstate, _, hlog, _⟩ := hmalformed rfl
  refine ⟨hfolder, hbytes, configure_oneFile, n, session₁, session₂, hload, hload', hstate, ?_⟩
  have hfound : dataFiles (oneFile.put (oneFolder.child "b.json") (.file [0x7b]))
      ⟨Path.parse "db", "*.json"⟩ = .ok ([⟨"", ["db", "a.json"]⟩, ⟨"", ["db", "b.json"]⟩].mergeSort
        fun p q => !q.before p) := rfl
  have hmem : (⟨"", ["db", "b.json"]⟩ : Path) ∈ files := by
    rw [← Except.ok.inj (hfound.symm.trans hfiles), List.mem_mergeSort]
    simp
  refine hlog.mem_iff.2 (List.mem_append_right _ (List.mem_map.2 ⟨_, List.mem_filter.2 ⟨hmem, ?_⟩, rfl⟩))
  rfl

/-- The digits of an integer for which a document is refused. -/
def refusedDigits? : Except Json.DocumentError Json → Option Nat
  | .error (.longInteger digits) => some digits
  | _ => none

theorem refusedDigits?_eq_some_iff {read : Except Json.DocumentError Json} {digits : Nat} :
    refusedDigits? read = some digits ↔ read = .error (.longInteger digits) := by
  unfold refusedDigits?
  split <;> simp_all

/-- The octets of an integer of four thousand three hundred and one digits. -/
def longNumber : List UInt8 := List.replicate 4301 0x31

/-- A file with an integer of too many digits makes the load of the whole folder fail, though without it
the load comes to its end. -/
theorem load_of_longNumber :
    configure oneFile "db" "*.json" = .ok oneFileSession.state ∧
      (∃ n session₁, (load oneFile).start oneFileSession = (.ok n, session₁)) ∧
      Json.ofBytes (limits oneFile) longNumber = .error (.longInteger 4301) ∧
      ∃ session₂, (load (oneFile.put (oneFolder.child "b.json") (.file longNumber))).start oneFileSession =
        (.error (.longInteger 4301), session₂) := by
  have hbytes : Json.ofBytes (limits oneFile) longNumber = .error (.longInteger 4301) :=
    refusedDigits?_eq_some_iff.1 (by decide +kernel)
  refine ⟨configure_oneFile, exists_load_oneFile, hbytes, ?_⟩
  have hgains : oneFile.Gains (oneFile.put (oneFolder.child "b.json") (.file longNumber)) oneFolder "b.json"
      longNumber := by
    have hfolder : oneFile.at? oneFolder = some (.folder [("a.json", .file [0x5b, 0x5d])]) := rfl
    refine Tree.gains_put hfolder (by decide) ?_ longNumber
    intro entry hentry
    rw [List.mem_singleton.1 hentry]
    decide
  obtain ⟨n, session₁, hload⟩ := exists_load_oneFile
  have hfound : dataFiles (oneFile.put (oneFolder.child "b.json") (.file longNumber))
      ⟨Path.parse "db", "*.json"⟩ = .ok ([⟨"", ["db", "a.json"]⟩, ⟨"", ["db", "b.json"]⟩].mergeSort
        fun p q => !q.before p) := rfl
  refine load_of_faulty hgains hbytes rfl configure_oneFile rfl hload hfound
    (p := ⟨"", ["db", "b.json"]⟩) ?_ rfl
  rw [List.mem_mergeSort]
  simp

end CpeMatch.Store
