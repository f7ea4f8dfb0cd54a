import CpeMatch.Proofs.Lookup.Alone

/-!
**Looking many names up is looking each of them up alone.**

Each of several names is looked up once, and it does not matter in what order.  The lookups share the store
and the record of their times, but none of them finds anything there that another has left, except that the
store has been loaded.

Main definitions:

* `CpeMatch.Lookup.manyInOrder` — looking names up in any order;
* `CpeMatch.Lookup.gather` — the results of several lookups.

Main results:

* `CpeMatch.Json.firstOfEach_strings` — each name once, in the order in which the names first occur;
* `CpeMatch.Lookup.start_each` — what lookups one after another give and leave;
* `CpeMatch.Lookup.many_eq_alone` — **each name as if it were alone**.
-/

set_option autoImplicit false

namespace CpeMatch

open Timing

/-! ### Each name once -/

theorem Json.firstOfEachAfter_strings (seen names : List Text) :
    firstOfEachAfter (seen.map .text) (names.map .string) =
      some ((names.filter fun name => !seen.contains name).eraseDups.map .string) := by
  induction names generalizing seen with
  | nil => rfl
  | cons name rest ih =>
      rw [List.map_cons, firstOfEachAfter]
      simp only [key?_string]
      have hseen : (seen.map Key.text).contains (.text name) = seen.contains name := by
        rw [Bool.eq_iff_iff, List.contains_iff_mem, List.contains_iff_mem, List.mem_map]
        constructor
        · rintro ⟨name', hname', heq⟩
          rwa [← Key.text.inj heq]
        · intro hname
          exact ⟨name, hname, rfl⟩
      rw [hseen]
      cases hname : seen.contains name with
      | true => rw [if_pos rfl, ih, List.filter_cons_of_neg (by rw [hname]; decide)]
      | false =>
          have hrest := ih (name :: seen)
          rw [List.map_cons] at hrest
          rw [if_neg Bool.false_ne_true, hrest, List.filter_cons_of_pos (by rw [hname]; rfl),
            List.eraseDups_cons, List.filter_filter]
          -- a name that is seen from now on is one that has been, or this one
          have hfilter : (rest.filter fun other => !(name :: seen).contains other) =
              rest.filter fun other => !other == name && !seen.contains other := by
            refine List.filter_congr ?_
            intro other _
            rw [List.contains_cons, Bool.not_or]
          rw [hfilter]
          rfl

/-- Names are looked up once each, in the order in which they first occur. -/
theorem Json.firstOfEach_strings (names : List Text) :
    firstOfEach (names.map .string) = some (names.eraseDups.map .string) := by
  simpa [firstOfEach] using firstOfEachAfter_strings [] names

namespace Lookup

/-- The results of lookups if all of them have one, and the first fault if not. -/
def gather (outcomes : List (Json × Except Fault (List Vulnerability))) :
    Except Fault (List (Json × List Vulnerability)) :=
  outcomes.mapM fun (cpe, result) => result.map (cpe, ·)

/-- Looks names up in the order `order`, and gives the results in that of `cpes`, if no lookup has failed. -/
def manyInOrder {S : Type} (l : Lookup) (source : Source S) (cpes order : List Json) :
    Task Float (LookupState S) Fault (List (Json × List Vulnerability)) := do
  let found ← settle (gather (← l.each source order))
  return cpes.filterMap fun cpe => found.find? (·.1 == cpe)

/-! ### Lookups one after another -/

section

variable {S : Type} (l : Lookup) {source : Source S} {alone : Text → Except Fault (List Vulnerability)}
  {order : List Text}

/-- If each lookup has a result, so have all. -/
theorem gather_eq_ok {found : Text → List Vulnerability} (h : ∀ name ∈ order, alone name = .ok (found name)) :
    gather (order.map fun name => (.string name, alone name)) =
      .ok (order.map fun name => (.string name, found name)) := by
  rw [gather]
  induction order with
  | nil => rfl
  | cons name rest ih =>
      rw [List.map_cons, List.mapM_cons, ih fun other hother => h other (List.mem_cons_of_mem name hother),
        h name (List.mem_cons_self ..)]
      rfl

/-- If all lookups have results, so has each. -/
theorem exists_of_gather_eq_ok {results : List (Json × List Vulnerability)}
    (h : gather (order.map fun name => (.string name, alone name)) = .ok results) :
    ∃ found : Text → List Vulnerability, ∀ name ∈ order, alone name = .ok (found name) := by
  suffices hall : ∀ name ∈ order, ∃ found, alone name = .ok found by
    refine ⟨fun name => (alone name).toOption.getD [], ?_⟩
    intro name hname
    obtain ⟨found, hfound⟩ := hall name hname
    change alone name = .ok ((alone name).toOption.getD [])
    rw [hfound]
    rfl
  rw [gather] at h
  induction order generalizing results with
  | nil => exact fun name hname => absurd hname List.not_mem_nil
  | cons name rest ih =>
      rw [List.map_cons, List.mapM_cons] at h
      obtain ⟨first, hfirst, h⟩ := exists_of_bind_eq_ok h
      obtain ⟨others, hothers, _⟩ := exists_of_bind_eq_ok h
      intro other hother
      rcases List.mem_cons.1 hother with rfl | hother
      · cases halone : alone other with
        | error f =>
            rw [halone] at hfirst
            cases hfirst
        | ok found => exact ⟨found, rfl⟩
      · exact ih hothers other hother

/-- Results are found again under their names. -/
theorem filterMap_find?_found {cpes : List Text} (hcpes : ∀ name ∈ cpes, name ∈ order)
    (found : Text → List Vulnerability) :
    ((cpes.map Json.string).filterMap fun cpe =>
      (order.map fun name => (Json.string name, found name)).find? (·.1 == cpe)) =
      cpes.map fun name => (.string name, found name) := by
  rw [List.filterMap_map]
  refine (List.filterMap_congr ?_).trans (congrFun List.filterMap_eq_map cpes)
  intro name hname
  rw [Function.comp_apply, List.find?_map]
  cases hfind : order.find? ((fun x : Json × List Vulnerability => x.1 == .string name) ∘
      fun name => (Json.string name, found name)) with
  | none => exact absurd (List.find?_eq_none.1 hfind name (hcpes name hname)) (by simp [Json.beq_string])
  | some other =>
      have hother := List.find?_some hfind
      rw [Function.comp_apply, Json.beq_string, decide_eq_true_eq] at hother
      rw [hother]
      rfl

variable {session session' : Session Float (LookupState S)}
  (heach : (l.each source (order.map .string)).start session =
    (.ok (order.map fun name => (.string name, alone name)), session'))

include heach

theorem start_manyInOrder (cpes : List Json) :
    (l.manyInOrder source cpes (order.map .string)).start session =
      ((gather (order.map fun name => (.string name, alone name))).map fun found =>
        cpes.filterMap fun cpe => found.find? (·.1 == cpe), session') :=
  (Task.start_bind heach).trans (Task.start_map _ (settle (gather _)) session')

/-- The results are those of each name alone, in whatever order they have been found. -/
theorem start_manyInOrder_of_ok {cpes : List Text} (hcpes : ∀ name ∈ cpes, name ∈ order)
    {found : Text → List Vulnerability} (h : ∀ name ∈ order, alone name = .ok (found name)) :
    (l.manyInOrder source (cpes.map .string) (order.map .string)).start session =
      (.ok (cpes.map fun name => (.string name, found name)), session') := by
  rw [l.start_manyInOrder heach, gather_eq_ok h]
  exact Prod.ext (congrArg Except.ok (filterMap_find?_found hcpes found)) rfl

/-- Names are looked up in the order in which they first occur, if in no other. -/
theorem start_many {names : List Text} (horder : order = names.eraseDups) :
    (l.many source (names.map .string)).start session =
      (l.manyInOrder source (names.eraseDups.map .string) (order.map .string)).start session := by
  have hmany : (l.many source (names.map .string)).start session =
      (gather (order.map fun name => (.string name, alone name)), session') := by
    rw [many, Json.firstOfEach_strings, ← horder]
    exact Task.start_bind heach
  rw [hmany, ← horder]
  cases hresults : gather (order.map fun name => (.string name, alone name)) with
  | error f => rw [l.start_manyInOrder heach, hresults]; rfl
  | ok results =>
      obtain ⟨found, hfound⟩ := exists_of_gather_eq_ok hresults
      rw [l.start_manyInOrder_of_ok heach (fun _ h => h) hfound, ← hresults, gather_eq_ok hfound]

end

/-- **Lookups one after another** end as each does alone, and leave one record each.  The store is loaded by
the first that asks it something, if it has not been loaded. -/
theorem start_each (l : Lookup) {tree : Files.Tree} {shown : Store}
    {alone : Text → Except Fault (List Vulnerability)}
    (halone : ∀ name, l.EndsWith tree shown name (alone name)) (order : List Text)
    (session : Session Float (LookupState Store)) (h : shown.Presents tree session.state.data) :
    ∃ session', (l.each (Store.source tree) (order.map .string)).start session =
        (.ok (order.map fun name => (.string name, alone name)), session') ∧
      session.state.monitor.Records (order.map fun name =>
        (("get_vulnerabilities" : Text), Task.itemsOf List.length (alone name))) session'.state.monitor ∧
      session.state.data.AfterAsking tree (order.any fun name => (Cpe.parse name).isValid)
        session'.state.data := by
  induction order generalizing session with
  | nil => exact ⟨session, rfl, .nil _, .refl tree _⟩
  | cons name rest ih =>
      obtain ⟨next, time, hrun, hmonitor, hafter⟩ := halone name session h
      -- the store that this one leaves shows the same data to the others
      obtain ⟨session', hrest, hrecords, hothers⟩ := ih next (h.afterAsking hafter)
      have hattempt := Task.start_attempt (l.vulnerabilities (Store.source tree) (.string name)) session
      rw [hrun] at hattempt
      refine ⟨session', ?_, ?_, hafter.trans h hothers⟩
      · rw [List.map_cons, each, Task.start_bind hattempt, Task.start_bind hrest]
        rfl
      · rw [hmonitor] at hrecords
        exact hrecords.cons

/-- In a store whose rows can be read no lookup fails. -/
theorem exists_found_of_legible (l : Lookup) {tree : Files.Tree} {shown : Store} (hs : shown.Legible)
    {name : Text} {r : Except Fault (List Vulnerability)} (hr : l.EndsWith tree shown name r) :
    ∃ found, r = .ok found := by
  have has : shown.LoadedAs { shown with loaded := true } := ⟨rfl, rfl, rfl⟩
  let session : Session Float (LookupState Store) :=
    ⟨.ofList [], false, #[], ⟨{ shown with loaded := true }, .fresh true⟩⟩
  obtain ⟨_, _, hrun, _⟩ := hr session (Or.inl has)
  obtain ⟨_, _, hrun', _⟩ := l.exists_start_of_legible has.loaded tree (has.legible hs) name session rfl
  exact ⟨_, (Prod.mk.inj (hrun.symm.trans hrun')).1⟩

/-- **Each name as if it were alone.**  Names are looked up in a store that has been loaded or can be, each
of them once, in any order.  A lookup of a name that is made alone ends in one way only, whatever has been
recorded before; and in a store whose rows have texts as their ids it finds something or nothing, but does
not fail.  If none fails, the results are those of each name alone, in the order in which the names first
occur.  When they have been looked up the store answers every query as it would have before; it is as it was
if it has been loaded or no name says vendor and product, and has been loaded once if not.  A monitor that is
enabled has one record of each name, with the number of vulnerabilities found. -/
theorem many_eq_alone (l : Lookup) {tree : Files.Tree} {s : Store} (hs : s.IsReady tree) (names : List Text) :
    ∃ alone : Text → Except Fault (List Vulnerability),
      (∀ name (session : Session Float (LookupState Store)), session.state.data = s →
        ((l.vulnerabilities (Store.source tree) (.string name)).start session).1 = alone name) ∧
      (s.Legible → ∃ found : Text → List Vulnerability, ∀ name, alone name = .ok (found name)) ∧
      ∀ order : List Text, order.Perm names.eraseDups →
      ∀ session : Session Float (LookupState Store), session.state.data = s →
        let run := (l.manyInOrder (Store.source tree) (names.eraseDups.map .string)
          (order.map .string)).start session
        (order = names.eraseDups → (l.many (Store.source tree) (names.map .string)).start session = run) ∧
        (∀ found : Text → List Vulnerability, (∀ name ∈ names, alone name = .ok (found name)) →
          run.1 = .ok (names.eraseDups.map fun name => (.string name, found name))) ∧
        (∀ (q : Store.Query) (before after : Session Float Store), before.state = s →
          after.state = run.2.state.data → ((q.pose tree).start after).1 = ((q.pose tree).start before).1) ∧
        (s.loaded = true ∨ (∀ name ∈ names, (Cpe.parse name).isValid = false) → run.2.state.data = s) ∧
        (s.loaded = false → (∃ name ∈ names, (Cpe.parse name).isValid = true) →
          s.LoadedOnce tree run.2.state.data) ∧
        (session.state.monitor.enabled = true → run.2.state.monitor.metrics.toList.map Metric.counted =
          session.state.monitor.metrics.toList.map Metric.counted ++ order.map fun name =>
            (("get_vulnerabilities" : Text), Task.itemsOf List.length (alone name))) ∧
        (session.state.monitor.enabled = false → run.2.state.monitor = session.state.monitor) := by
  obtain ⟨shown, hshown, hlegible⟩ := hs.exists_presents
  choose alone halone using l.exists_endsWith shown tree
  refine ⟨alone, ?_, ?_, ?_⟩
  · intro name session hsession
    obtain ⟨session', time, hrun, _⟩ := halone name session (by rwa [hsession])
    rw [hrun]
  · intro h
    choose found hfound using fun name => l.exists_found_of_legible (hlegible h) (halone name)
    exact ⟨found, hfound⟩
  · intro order horder session hsession run
    subst hsession
    have hmem : ∀ name, name ∈ order ↔ name ∈ names := fun name =>
      horder.mem_iff.trans List.mem_eraseDups
    obtain ⟨session', heach, hrecords, hafter⟩ := l.start_each halone order session hshown
    have hrun : run.2 = session' := congrArg Prod.snd (l.start_manyInOrder heach _)
    rw [← hrun] at hrecords hafter
    refine ⟨l.start_many heach, ?_, ?_, ?_, ?_, hrecords.metrics_eq, hrecords.eq_of_disabled⟩
    · intro found hfound
      have hends := l.start_manyInOrder_of_ok heach
        (fun name hname => (hmem name).2 (List.mem_eraseDups.1 hname))
        fun name hname => hfound name ((hmem name).1 hname)
      exact congrArg Prod.fst hends
    · intro q before after hbefore hlater
      rw [(hshown.afterAsking hafter).start_pose q hlater, hshown.start_pose q hbefore]
    · refine fun hkept => hafter.eq_of_kept (hkept.imp_right fun hnone => ?_)
      rw [List.any_eq_false]
      intro name hname
      rw [hnone name ((hmem name).1 hname)]
      exact Bool.false_ne_true
    · rintro hunloaded ⟨name, hname, hvalid⟩
      exact hafter.loadedOnce hunloaded (List.any_eq_true.2 ⟨name, (hmem name).2 hname, hvalid⟩)

/-- A session on the fresh store for a folder of three files. -/
def threeFilesLookups : Session Float (LookupState Store) :=
  ⟨.ofList [], false, #[], ⟨Store.threeFilesSession.state, .fresh true⟩⟩

/-- Of three names two are alike, and the one that does not say vendor and product is looked up first.  The
other one loads the store. -/
theorem many_eq_alone_threeFiles :
    let run := (manyInOrder ⟨.standard, true⟩ (Store.source Store.threeFiles)
      [.string "cpe:/a:v:p:1", .string "x"] [.string "x", .string "cpe:/a:v:p:1"]).start threeFilesLookups
    ∃ found : Text → List Vulnerability,
      run.1 = .ok [(.string "cpe:/a:v:p:1", found "cpe:/a:v:p:1"), (.string "x", found "x")] ∧
      threeFilesLookups.state.data.LoadedOnce Store.threeFiles run.2.state.data ∧
      run.2.state.monitor.metrics.toList.map Metric.counted =
        [(("get_vulnerabilities" : Text), .whole (found "x").length),
          (("get_vulnerabilities" : Text), .whole (found "cpe:/a:v:p:1").length)] := by
  have hnames : (["cpe:/a:v:p:1", "x", "cpe:/a:v:p:1"] : List Text).eraseDups =
      (["cpe:/a:v:p:1", "x"] : List Text) := by decide
  have hvalid : (Cpe.parse "cpe:/a:v:p:1").isValid = true := rfl
  obtain ⟨n, session₁, hload⟩ :=
    Store.exists_start_load_of_fault_eq_none rfl Store.fault_absorbPath_threeFiles
  have hready : threeFilesLookups.state.data.IsReady Store.threeFiles :=
    Or.inr ⟨_, _, rfl, Store.threeFilesSession, session₁, n, rfl, hload, rfl⟩
  obtain ⟨alone, _, hlegible, hmany⟩ := many_eq_alone ⟨.standard, true⟩ hready
    ["cpe:/a:v:p:1", "x", "cpe:/a:v:p:1"]
  rw [hnames] at hmany
  obtain ⟨found, hfound⟩ := hlegible (Store.legible_empty _)
  obtain ⟨_, hresult, _, _, hloads, hrecords, _⟩ :=
    hmany ["x", "cpe:/a:v:p:1"] (List.Perm.swap _ _ _) threeFilesLookups rfl
  have hends := hresult found fun name _ => hfound name
  have honce := hloads rfl ⟨"cpe:/a:v:p:1", List.mem_cons_self .., hvalid⟩
  have hrecorded := hrecords rfl
  simp only [List.map_cons, List.map_nil, hfound] at hends honce hrecorded
  exact ⟨found, hends, honce, hrecorded⟩

end Lookup

end CpeMatch
