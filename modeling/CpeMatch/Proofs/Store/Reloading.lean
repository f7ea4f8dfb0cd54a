import Mathlib
import CpeMatch.Proofs.Store.Answers
import CpeMatch.Proofs.Store.Taking
import CpeMatch.Proofs.Store.Unreadable

/-!
**A store answers from its data, however they have got into it.**

The data of a store may be loaded before it is asked anything, or when it is first asked; they may be
loaded again and again, each load replacing the vulnerabilities one by one while others are still the old
ones; or they may be given to a store that has no place for its data.  The store holds under each id the
last vulnerability that the data give, and that is all that its answers depend on.

Main definitions:

* `CpeMatch.Store.AnswersAlike` — two stores that answer alike, under whatever id they are asked;
* `CpeMatch.Store.HoldsGiven` — a store that holds what data give;
* `CpeMatch.Store.TakesIn` — what data make of a store;
* `CpeMatch.Store.valuesIn` — the values in a file;
* `CpeMatch.Store.loadTimes` — loading several times in a row.

Main results:

* `CpeMatch.Store.HoldsGiven.alike` — **what is held decides all answers**;
* `CpeMatch.Store.TakesIn.again` — taking the same data in once more changes no answer;
* `CpeMatch.Store.takesIn_absorbFiles` — what is taken in of files;
* `CpeMatch.Store.load_agrees` — **loading, loading late, loading again and building agree**.
-/

set_option autoImplicit false

namespace CpeMatch.Store

open Files Timing

/-! ### What data give decides the answers -/

/-- Two stores that answer every question alike, also under ids that are no texts. -/
structure AnswersAlike (s t : Store) : Prop extends SameAnswers s t where
  get?_eq : ∀ id, s.get? id = t.get? id

/-- The store holds under each key the last vulnerability that the data give under it. -/
structure HoldsGiven (s : Store) (data : List Json) : Prop where
  coherent : s.Coherent
  held_eq : ∀ key, s.held[key]? = lastUnder? (given data) key

/-- The number of vulnerabilities that data give, each id counted once. -/
def idCount (data : List Json) : Nat := (lastOfEach (given data)).length

theorem isWellFormed_of_mem_given {data : List Json} {v : Vulnerability} (hv : v ∈ given data) :
    v.IsWellFormed := by
  obtain ⟨value, _, hgiven⟩ := List.mem_filterMap.1 hv
  obtain ⟨id, _, hnamed, hreadable⟩ := of_given? hgiven
  exact ⟨by rwa [hnamed.idText_eq], hreadable⟩

theorem given_append (data others : List Json) : given (data ++ others) = given data ++ given others :=
  List.filterMap_append

theorem lastUnder?_append (vs ws : List Vulnerability) (key : Json.Key) :
    lastUnder? (vs ++ ws) key = (lastUnder? ws key).or (lastUnder? vs key) := by
  rw [lastUnder?, List.reverse_append, List.find?_append]
  rfl

namespace HoldsGiven

variable {s t : Store} {data : List Json}

theorem holds (h : s.HoldsGiven data) : s.Holds (lastOfEach (given data)) :=
  holds_lastOfEach (fun _ hv => isWellFormed_of_mem_given hv) h.coherent fun id => h.held_eq (.text id)

/-- **What is held decides all answers.** -/
theorem alike (hs : s.HoldsGiven data) (ht : t.HoldsGiven data) : s.AnswersAlike t where
  toSameAnswers := hs.holds.answers.same ht.holds.answers
  get?_eq id := by
    rw [get?, get?]
    cases id.key? with
    | none => rfl
    | some key => exact congrArg Except.ok ((hs.held_eq key).trans (ht.held_eq key).symm)

theorem size_held (hs : s.HoldsGiven data) : s.held.size = idCount data :=
  hs.holds.size_held

end HoldsGiven

/-- A store of given data holds what they give. -/
theorem holdsGiven_ofRecords {data : List Json} (hfault : (ofRecords data).fault = none) :
    (ofRecords data).store.HoldsGiven data := by
  obtain ⟨hcoherent, hheld, _⟩ := ofRecords_spec hfault
  exact ⟨hcoherent, hheld⟩

/-! ### What data make of a store -/

/-- From `s` the store `t` has come of taking data in, all of which can be read. -/
structure TakesIn (s : Store) (data : List Json) (t : Store) : Prop where
  readable : data.findSome? decodeFault? = none
  coherent : t.Coherent
  held_eq : ∀ key, t.held[key]? = (lastUnder? (given data) key).or s.held[key]?
  config_eq : t.config = s.config

namespace TakesIn

variable {s t u : Store} {data others : List Json}

theorem nil (hs : s.Coherent) : s.TakesIn [] s := ⟨rfl, hs, fun _ => rfl, rfl⟩

/-- Data may be taken in one part after another. -/
theorem append (h : s.TakesIn data t) (h' : t.TakesIn others u) : s.TakesIn (data ++ others) u where
  readable := by rw [List.findSome?_append, h.readable, h'.readable, Option.or_none]
  coherent := h'.coherent
  held_eq key := by rw [h'.held_eq, h.held_eq, given_append, lastUnder?_append, Option.or_assoc]
  config_eq := h'.config_eq.trans h.config_eq

/-- A store in which there is nothing holds then what the data give. -/
theorem of_empty {config : Option Config} (h : (empty config).TakesIn data t) : t.HoldsGiven data where
  coherent := h.coherent
  held_eq key := by
    rw [h.held_eq]
    simp [empty]

/-- Taking the same data in once more changes nothing of what is held. -/
theorem again (hs : s.HoldsGiven data) (h : s.TakesIn data t) : t.HoldsGiven data where
  coherent := h.coherent
  held_eq key := by rw [h.held_eq, hs.held_eq, Option.or_self]

end TakesIn

theorem takesIn_absorbAll {origin : Option Text} {s : Store} {data : List Json} (hs : s.Coherent)
    (hfault : (absorbAll origin s data).fault = none) :
    s.TakesIn data (absorbAll origin s data).store := by
  obtain ⟨hcoherent, hheld⟩ := coherent_absorbAll hs hfault
  rw [fault_absorbAll] at hfault
  exact ⟨hfault, hcoherent, hheld, (sameButData_absorbAll origin s data).config_eq⟩

/-! ### Files -/

/-- The values in a file: those of an array, or the one value that it is.  None in a file that is no
document. -/
def valuesIn (tree : Tree) (path : Path) : List Json :=
  match tree.read path with
  | .error _ => []
  | .ok bytes => match Json.ofBytes (limits tree) bytes with
    | .ok (.array items) => items
    | .ok v => [v]
    | .error _ => []

section

variable {tree : Tree}

/-- A file gives its values, or is passed over and has none, unless it is a fault. -/
theorem readFile_cases (tree : Tree) (path : Path) :
    readFile tree path = .ok (some (valuesIn tree path)) ∨
      (readFile tree path = .ok none ∧ valuesIn tree path = []) ∨
      ∃ f, readFile tree path = .error f := by
  rw [readFile, valuesIn]
  cases tree.read path with
  | error f => exact Or.inr (Or.inl ⟨rfl, rfl⟩)
  | ok bytes =>
      cases hbytes : Json.ofBytes (limits tree) bytes with
      | ok v => cases v <;> exact Or.inl (by simp only [hbytes])
      | error e =>
          cases he : Fault.ofDocumentError? e with
          | some f => exact Or.inr (Or.inr ⟨f, by simp only [hbytes, he]⟩)
          | none => exact Or.inr (Or.inl ⟨by simp only [hbytes, he], by simp only [hbytes]⟩)

/-- What is taken in of a file are its values. -/
theorem takesIn_absorbFile {s : Store} (hs : s.Coherent) {path : Path}
    (hfault : (absorbFile tree s path).fault = none) :
    s.TakesIn (valuesIn tree path) (absorbFile tree s path).store := by
  rw [absorbFile] at hfault ⊢
  rcases readFile_cases tree path with hread | ⟨hread, hnil⟩ | ⟨f, hread⟩
  · rw [hread] at hfault ⊢
    exact takesIn_absorbAll hs hfault
  · rw [hread, hnil]
    exact .nil hs
  · rw [hread] at hfault
    cases hfault

namespace KeptByAdding

variable {p : Store → Prop} {s : Store}

theorem absorbFile (hp : KeptByAdding p) (hs : p s) (path : Path) : p (absorbFile tree s path).store := by
  rw [Store.absorbFile]
  rcases readFile tree path with f | none | items
  · exact hs
  · exact hs
  · exact hp.absorbAll _ hs items

theorem absorbFiles (hp : KeptByAdding p) (hs : p s) (paths : List Path) :
    p (absorbFiles tree s paths).store := by
  induction paths generalizing s with
  | nil => exact hs
  | cons path rest ih =>
      have hfirst : p (Store.absorbFile tree s path).store := hp.absorbFile hs path
      rw [Store.absorbFiles]
      cases (Store.absorbFile tree s path).fault with
      | some f => exact hfirst
      | none => exact ih hfirst

/-- It still holds after taking the files of a store in, also where this ends with a fault. -/
theorem absorbPath (hp : KeptByAdding p) (hs : p s) (config : Config) :
    p (absorbPath tree s config).store := by
  rw [Store.absorbPath]
  cases dataFiles tree config with
  | error f => exact hs
  | ok paths => exact hp.absorbFiles hs paths

end KeptByAdding

theorem sameButData_absorbPath (tree : Tree) (s : Store) (config : Config) :
    s.SameButData (absorbPath tree s config).store :=
  (keptByAdding_sameButData s).absorbPath (.refl s) config

/-- **What is taken in of files** are their values, file after file. -/
theorem takesIn_absorbFiles {s : Store} (hs : s.Coherent) {paths : List Path}
    (hfault : (absorbFiles tree s paths).fault = none) :
    s.TakesIn (paths.flatMap (valuesIn tree)) (absorbFiles tree s paths).store := by
  induction paths generalizing s with
  | nil => exact .nil hs
  | cons path rest ih =>
      have hnone := fault_absorbFile_eq_none hfault
      have hfirst := takesIn_absorbFile hs hnone
      rw [absorbFiles_cons_of_fault_eq_none hnone] at hfault ⊢
      rw [List.flatMap_cons]
      exact hfirst.append (ih hfirst.coherent hfault)

/-! ### Loading -/

variable {session session₁ : Session Float Store} {config : Config} {n : Nat}

/-- A load that comes to its end takes the files in, and gives the number of vulnerabilities held then. -/
theorem takesIn_of_load (hs : session.state.Coherent) (hconfig : session.state.config = some config)
    {paths : List Path} (hpaths : dataFiles tree config = .ok paths)
    (hload : (load tree).start session = (.ok n, session₁)) :
    session.state.TakesIn (paths.flatMap (valuesIn tree)) session₁.state ∧
      session₁.state.loaded = true ∧ n = session₁.state.held.size := by
  have habsorb : absorbPath tree session.state config = absorbFiles tree session.state paths := by
    rw [absorbPath, hpaths]
  obtain ⟨metric, _, ⟨f, _, hresult, _⟩ | ⟨hnone, hresult, hstate⟩⟩ := load_cases hconfig tree
  · rw [hload] at hresult
    cases hresult
  · rw [hload, habsorb] at hresult hstate
    rw [habsorb] at hnone
    have htaken := takesIn_absorbFiles hs hnone
    change session₁.state = _ at hstate
    rw [hstate]
    exact ⟨⟨htaken.readable, ⟨htaken.coherent.named, htaken.coherent.rows, htaken.coherent.ids⟩,
      htaken.held_eq, htaken.config_eq⟩, rfl, Except.ok.inj hresult⟩

/-- Whether files can be taken in does not depend on what there is already. -/
theorem fault_absorbFiles_congr (s t : Store) (paths : List Path) :
    (absorbFiles tree s paths).fault = (absorbFiles tree t paths).fault := by
  induction paths generalizing s t with
  | nil => rfl
  | cons path rest ih =>
      have hfirst : (absorbFile tree s path).fault = (absorbFile tree t path).fault := by
        rw [absorbFile, absorbFile]
        rcases readFile tree path with f | none | items
        · rfl
        · rfl
        · exact (fault_absorbAll ..).trans (fault_absorbAll ..).symm
      cases hfault : (absorbFile tree t path).fault with
      | some f =>
          rw [fault_absorbFiles_cons_of_fault hfault,
            fault_absorbFiles_cons_of_fault (hfirst.trans hfault)]
      | none =>
          rw [absorbFiles_cons_of_fault_eq_none hfault,
            absorbFiles_cons_of_fault_eq_none (hfirst.trans hfault)]
          exact ih _ _

/-- A store that has been loaded from its files, which hold the data. -/
structure IsLoaded (s : Store) (config : Config) (data : List Json) : Prop where
  holds : s.HoldsGiven data
  config_eq : s.config = some config
  loaded : s.loaded = true

/-- Loading a loaded store once more. -/
theorem IsLoaded.load {paths : List Path} (hpaths : dataFiles tree config = .ok paths)
    (hfault : ∀ s, (absorbFiles tree s paths).fault = none)
    (h : session.state.IsLoaded config (paths.flatMap (valuesIn tree))) :
    ∃ session', (load tree).start session = (.ok (idCount (paths.flatMap (valuesIn tree))), session') ∧
      session'.state.IsLoaded config (paths.flatMap (valuesIn tree)) := by
  have hnone : (absorbPath tree session.state config).fault = none := by
    rw [absorbPath, hpaths]
    exact hfault _
  obtain ⟨n, session', hload⟩ := exists_start_load_of_fault_eq_none h.config_eq hnone
  obtain ⟨htaken, hloaded, hn⟩ := takesIn_of_load h.holds.coherent h.config_eq hpaths hload
  have hholds := htaken.again h.holds
  rw [hholds.size_held] at hn
  subst hn
  exact ⟨session', hload, hholds, htaken.config_eq.trans h.config_eq, hloaded⟩

/-- Loads a store several times in a row, and gives what each load gives. -/
def loadTimes (tree : Tree) : Nat → StoreTask (List Nat)
  | 0 => return []
  | k + 1 => do
    let held ← load tree
    let others ← loadTimes tree k
    return held :: others

/-- A store may be loaded any number of times. -/
theorem IsLoaded.loadTimes {paths : List Path} (hpaths : dataFiles tree config = .ok paths)
    (hfault : ∀ s, (absorbFiles tree s paths).fault = none)
    (h : session.state.IsLoaded config (paths.flatMap (valuesIn tree))) (k : Nat) :
    ∃ session', (loadTimes tree k).start session =
        (.ok (List.replicate k (idCount (paths.flatMap (valuesIn tree)))), session') ∧
      session'.state.IsLoaded config (paths.flatMap (valuesIn tree)) := by
  induction k generalizing session with
  | zero => exact ⟨session, rfl, h⟩
  | succ k ih =>
      obtain ⟨next, hload, hnext⟩ := h.load hpaths hfault
      obtain ⟨session', hrest, hlast⟩ := ih hnext
      refine ⟨session', ?_, hlast⟩
      rw [Store.loadTimes, Task.start_bind hload, Task.start_bind hrest]
      rfl

/-- A store that has not been loaded is loaded when it is asked. -/
theorem start_ask_of_load {α : Type} (question : Store → Except Fault α)
    (hloaded : session.state.loaded = false) (hload : (load tree).start session = (.ok n, session₁)) :
    (ask tree question).start session = (question session₁.state, session₁) := by
  rw [start_ask_unloaded tree question hloaded, hload]

end

/-- The files of a store are read in ascending order of their paths. -/
theorem ascending_dataFiles {tree : Tree} {config : Config} {paths : List Path}
    (h : dataFiles tree config = .ok paths) : paths.Pairwise fun p q => q.before p = false := by
  rw [dataFiles] at h
  split at h
  · cases h
    exact List.pairwise_singleton _ _
  · rw [Tree.search] at h
    obtain ⟨selectors, _, h⟩ := exists_of_bind_eq_ok h
    obtain ⟨leads, _, h⟩ := exists_of_bind_eq_ok h
    cases leads with
    | false =>
        cases h
        exact List.Pairwise.nil
    | true =>
        obtain ⟨found, _, h⟩ := exists_of_bind_eq_ok h
        cases h
        have hsorted := List.pairwise_mergeSort Path.not_before_trans Path.not_before_total found
        exact hsorted.imp fun hpq => Bool.eq_false_of_not_eq_true' hpq

/-- A store for the data at a path that is loaded holds then what the values in its files give. -/
theorem exists_isLoaded_of_load {tree : Tree} {path pattern : Text} {s : Store}
    (hs : configure tree path pattern = .ok s) {session session₁ : Session Float Store}
    (hsession : session.state = s) {n : Nat} (hload : (load tree).start session = (.ok n, session₁)) :
    ∃ paths, dataFiles tree ⟨Path.parse path, pattern⟩ = .ok paths ∧
      (∀ t, (absorbFiles tree t paths).fault = none) ∧
      (paths.flatMap (valuesIn tree)).findSome? decodeFault? = none ∧
      session₁.state.IsLoaded ⟨Path.parse path, pattern⟩ (paths.flatMap (valuesIn tree)) ∧
      n = idCount (paths.flatMap (valuesIn tree)) := by
  obtain ⟨_, rfl⟩ := configure_eq_ok_iff.1 hs
  have hconfig : session.state.config = some ⟨Path.parse path, pattern⟩ := by rw [hsession]; rfl
  have hcoherent : session.state.Coherent := by rw [hsession]; exact coherent_empty _
  have hnone := fault_absorbPath_of_load hconfig hload
  obtain ⟨paths, hpaths, habsorb⟩ := dataFiles_of_fault_eq_none hnone
  obtain ⟨htaken, hloaded, hn⟩ := takesIn_of_load hcoherent hconfig hpaths hload
  rw [habsorb] at hnone
  have hholds : session₁.state.HoldsGiven (paths.flatMap (valuesIn tree)) := by
    rw [hsession] at htaken
    exact htaken.of_empty
  exact ⟨paths, hpaths, fun t => (fault_absorbFiles_congr t session.state paths).trans hnone,
    htaken.readable, ⟨hholds, htaken.config_eq.trans hconfig, hloaded⟩, hn.trans hholds.size_held⟩

/-- **Loading, loading late, loading again and building agree.**  A store for the data at a path is loaded,
and this comes to its end.  Then all values in its files, taken in ascending order of their paths, make a
store as well, with as many vulnerabilities as the load has given.  A store that is asked before it has been
loaded is left as the load leaves it, and answers from what the load has left.  Loading any number of times
in a row gives that number of vulnerabilities each time; and the store answers every question as the one
that has been made of the values. -/
theorem load_agrees {tree : Tree} {path pattern : Text} {s : Store}
    (hs : configure tree path pattern = .ok s) {session session₁ : Session Float Store}
    (hsession : session.state = s) {n : Nat} (hload : (load tree).start session = (.ok n, session₁)) :
    ∃ paths, dataFiles tree ⟨Path.parse path, pattern⟩ = .ok paths ∧
      paths.Pairwise (fun p q => q.before p = false) ∧
      let built := ofRecords (paths.flatMap (valuesIn tree))
      built.fault = none ∧ built.store.held.size = n ∧
      session₁.state.held.size = n ∧ session₁.state.AnswersAlike built.store ∧
      (∀ (α : Type) (question : Store → Except Fault α),
        (ask tree question).start session = (question session₁.state, session₁)) ∧
      ∀ k, ∃ session', (loadTimes tree (k + 1)).start session = (.ok (List.replicate (k + 1) n), session') ∧
        session'.state.held.size = n ∧ session'.state.AnswersAlike built.store ∧
        ∀ (α : Type) (question : Store → Except Fault α),
          (ask tree question).start session' = (question session'.state, session') := by
  have hunloaded : session.state.loaded = false := by
    rw [hsession, (configure_eq_ok_iff.1 hs).2]
    rfl
  obtain ⟨paths, hpaths, hfault, hreadable, hfirst, rfl⟩ := exists_isLoaded_of_load hs hsession hload
  have hbuilt : (ofRecords (paths.flatMap (valuesIn tree))).fault = none :=
    (fault_absorbAll ..).trans hreadable
  have hholds := holdsGiven_ofRecords hbuilt
  refine ⟨paths, hpaths, ascending_dataFiles hpaths, hbuilt, hholds.size_held, hfirst.holds.size_held,
    hfirst.holds.alike hholds, ?_, ?_⟩
  · intro α question
    exact start_ask_of_load question hunloaded hload
  · intro k
    obtain ⟨session', hagain, hlast⟩ := hfirst.loadTimes hpaths hfault k
    refine ⟨session', ?_, hlast.holds.size_held, hlast.holds.alike hholds, ?_⟩
    · rw [loadTimes, Task.start_bind hload, Task.start_bind hagain]
      rfl
    · intro α question
      exact start_ask tree question hlast.loaded

/-- The octets of an object that has nothing but an id. -/
def objectOctets (id : UInt8) : List UInt8 := [0x7b, 0x22, 0x69, 0x64, 0x22, 0x3a, 0x22, id, 0x22, 0x7d]

/-- A folder with an array of `B`, `A` and `B` in one file, `A` alone in the next, and a file that is no
document. -/
def threeFiles : Tree := ⟨[(.working, [("db", .folder
  [("c.json", .file [0x7b]), ("b.json", .file (objectOctets 0x41)),
   ("a.json", .file ([0x5b] ++ objectOctets 0x42 ++ [0x2c] ++ objectOctets 0x41 ++ [0x2c] ++
     objectOctets 0x42 ++ [0x5d]))])])], .standard⟩

/-- The values in the files of the folder. -/
def threeFilesValues : List Json :=
  [.object [("id", .string "B")], .object [("id", .string "A")], .object [("id", .string "B")],
   .object [("id", .string "A")]]

/-- A session on a fresh store for the folder. -/
def threeFilesSession : Session Float Store :=
  ⟨.ofList [], false, #[], empty (some ⟨Path.parse "db", "*.json"⟩)⟩

theorem dataFiles_threeFiles : dataFiles threeFiles ⟨Path.parse "db", "*.json"⟩ =
    .ok [⟨"", ["db", "a.json"]⟩, ⟨"", ["db", "b.json"]⟩, ⟨"", ["db", "c.json"]⟩] := by
  cbv

theorem flatMap_valuesIn_threeFiles :
    [⟨"", ["db", "a.json"]⟩, ⟨"", ["db", "b.json"]⟩, ⟨"", ["db", "c.json"]⟩].flatMap (valuesIn threeFiles) =
      threeFilesValues := by
  cbv

theorem fault_absorbPath_threeFiles :
    (absorbPath threeFiles threeFilesSession.state ⟨Path.parse "db", "*.json"⟩).fault = none := by
  rw [absorbPath, dataFiles_threeFiles]
  cbv

/-- The folder is loaded three times, or when it is first asked: each time there are two vulnerabilities. -/
theorem load_agrees_threeFiles :
    configure threeFiles "db" "*.json" = .ok threeFilesSession.state ∧
      ∃ session₁, (load threeFiles).start threeFilesSession = (.ok 2, session₁) ∧
        (ask threeFiles fun s => s.get? (.string "B")).start threeFilesSession =
          (session₁.state.get? (.string "B"), session₁) ∧
        ∃ session₃, (loadTimes threeFiles 3).start threeFilesSession = (.ok [2, 2, 2], session₃) ∧
          session₃.state.AnswersAlike (ofRecords threeFilesValues).store := by
  have hconfigure : configure threeFiles "db" "*.json" = .ok threeFilesSession.state := rfl
  obtain ⟨n, session₁, hload⟩ := exists_start_load_of_fault_eq_none rfl fault_absorbPath_threeFiles
  obtain ⟨paths, hpaths, _, _, hbuilt, _, _, hask, htimes⟩ := load_agrees hconfigure rfl hload
  obtain rfl := Except.ok.inj (dataFiles_threeFiles.symm.trans hpaths)
  rw [flatMap_valuesIn_threeFiles] at hbuilt htimes
  have htwo : (ofRecords threeFilesValues).store.held.size = 2 :=
    (holdsGiven_ofRecords rfl).size_held
  obtain rfl : n = 2 := hbuilt.symm.trans htwo
  obtain ⟨session₃, hthree, _, halike, _⟩ := htimes 2
  exact ⟨hconfigure, session₁, hload, hask _ _, session₃, hthree, halike⟩

end CpeMatch.Store
