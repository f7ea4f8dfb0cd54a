import CpeMatch.Proofs.Command.Reporting

/-!
**A check ends with a status, unless a description cannot be shown.**

A check opens a database, looks a name up in it and reports what it has found.  A fault that is foreseen is
reported, too, and gives a status.  Once the database is open, and if all that is to be shown can be written, only
one thing can happen that is not foreseen: that a vulnerability has been found whose description is no text.

Main results:

* `CpeMatch.Command.start_present_of_hasText`, `CpeMatch.Command.start_present_of_not_hasText` — printing what has
  been found;
* `CpeMatch.Command.check_of_hasText`, `CpeMatch.Command.check_of_not_hasText` — **how a check ends**;
* `CpeMatch.Command.shows_unless_description` — the same from the data on.
-/

set_option autoImplicit false

namespace CpeMatch.Command

open Report Store Timing

/-! ### Printing what has been found -/

section

variable [Console] {writes : CodePoint → Bool} (hconsole : Console.Lawful writes) {cpe : Text}
  (hcpe : cpe.IsWritable writes) {found : List Vulnerability} (hread : ∀ w ∈ found, w.IsRead) {time : Float}
  {session : Session Float State} (hnone : session.state.refused = #[])

include hconsole hcpe in
/-- The console takes the panel above the findings. -/
theorem takes_of_summaryPanel {panel : Printed} (h : summaryPanel (.string cpe) found (.float time) = .ok panel)
    (printed : List Printed) : Takes printed [panel] :=
  takes_of_isPrintable hconsole printed fun p hp => by
    rw [List.mem_singleton.1 hp]
    exact isPrintable_of_counts hconsole hcpe (counts_of_summaryPanel h)

include hconsole hcpe hread in
/-- The console takes the panel and the table of a list, if what they show can be written. -/
theorem takes_of_shows (hshowable : ∀ w ∈ found, w.IsShowable writes) {ps : List Printed}
    (h : Shows cpe found time ps) (printed : List Printed) : Takes printed ps := by
  obtain ⟨panel, table, rfl, hpanel, htable⟩ := h
  refine takes_of_isPrintable hconsole printed fun p hp => ?_
  rcases List.mem_cons.1 hp with rfl | hp
  · exact isPrintable_of_counts hconsole hcpe hpanel
  · rw [List.mem_singleton.1 hp]
    exact isPrintable_of_lists hconsole hread hshowable htable

include hconsole hcpe hread hnone in
/-- What has been found is printed if each description is a text, and what is shown can be written. -/
theorem start_present_of_hasText (hshowable : ∀ w ∈ found, w.IsShowable writes) (htext : ∀ w ∈ found, w.HasText) :
    (present (lookupReport (.string cpe) found (.float time))).start session =
      (.ok (), shown (lookupReport (.string cpe) found (.float time)).printed session) := by
  obtain ⟨_, _, -, -, hreport⟩ := lookupReport_of_hasText hread htext cpe time
  have hfault : (lookupReport (.string cpe) found (.float time)).fault = none := by rw [hreport]
  have htakes := takes_of_shows hconsole hcpe hread hshowable (shows_of_fault_eq_none hread hfault)
    session.state.printed.toList
  rw [start_present_of_takes hnone htakes, hfault]

include hread hnone in
/-- If a description is no text, no console prints what has been found to its end. -/
theorem start_present_of_not_hasText (htext : ∃ w ∈ found, ¬ w.HasText) :
    ∃ f ended, (present (lookupReport (.string cpe) found (.float time))).start session = (.error f, ended) := by
  obtain ⟨panel, -, hreport⟩ := lookupReport_of_not_hasText hread htext cpe time
  by_cases htakes : Takes session.state.printed.toList (lookupReport (.string cpe) found (.float time)).printed
  · rw [start_present_of_takes hnone htakes, hreport]
    exact ⟨_, _, rfl⟩
  · obtain ⟨f, _, _, _, -, hrun⟩ := start_present_of_not_takes hnone htakes
    exact ⟨f, _, hrun⟩

end

/-! ### How a check ends -/

section

variable [Console] {writes : CodePoint → Bool} (hconsole : Console.Lawful writes) (setting : Setting)
  {options : CheckOptions} (hcpe : options.cpe.IsWritable writes) {found : List Vulnerability}
  (hread : ∀ w ∈ found, w.IsRead) {time : Float} {reported : Session Float State} (hnone : reported.state.refused = #[])

include hconsole hcpe hread hnone

/-- Behind the lookup nothing is refused if each description is a text, and what is shown can be written; what goes
wrong there can be reported. -/
theorem start_reportFound_of_hasText {m : Metric Float} (hm : RecordsLookup m found.length)
    (hmonitor : reported.state.lookups.monitor = (Monitor.fresh true).record m)
    (hshowable : ∀ w ∈ found, w.IsShowable writes) (htext : ∀ w ∈ found, w.HasText) :
    ∃ result ended, (reportFound setting options found time).start reported = (result, ended) ∧
      ended.state.refused = #[] ∧ ∀ f, result = .error f → f.IsReportable := by
  obtain ⟨_, _, -, -, hreport⟩ := lookupReport_of_hasText hread htext options.cpe time
  replace hreport := congrArg Shown.fault hreport
  have htakes := takes_of_shows hconsole hcpe hread hshowable (shows_of_fault_eq_none hread hreport)
    reported.state.printed.toList
  obtain ⟨document, hdocument⟩ := exists_documentOf setting options hread time
  cases hadded : addedTo options document reported.state.tree reported.state.lookups.monitor with
  | ok times =>
      obtain ⟨-, -, hplain⟩ := isTimes_of_addedTo hm hmonitor hadded
      exact ⟨_, _, start_reportFound hnone htakes hreport hdocument hadded (takes_of_isPlain hconsole _ hplain),
        hnone, nofun⟩
  | error f =>
      obtain ⟨ended, hend, -, hended⟩ := start_reportFound_of_error hnone htakes hreport hdocument hadded
      refine ⟨_, ended, hend, hended, ?_⟩
      rintro _ ⟨⟩
      exact isReportable_of_addedTo hm hmonitor hadded

/-- If a description is no text, nothing is done behind the panel. -/
theorem start_reportFound_of_not_hasText (htext : ∃ w ∈ found, ¬ w.HasText) :
    ∃ ended, (reportFound setting options found time).start reported = (.error .notShowable, ended) ∧
      ended.state.refused = #[] := by
  obtain ⟨panel, hpanel, hreport⟩ := lookupReport_of_not_hasText hread htext options.cpe time
  have htakes : Takes reported.state.printed.toList
      (lookupReport (.string options.cpe) found (.float time)).printed := by
    rw [hreport]
    exact takes_of_summaryPanel hconsole hcpe hpanel _
  exact ⟨_, start_reportFound_of_fault hnone htakes (congrArg Shown.fault hreport), hnone⟩

end

section

variable [Console] {writes : CodePoint → Bool} (hconsole : Console.Lawful writes) (setting : Setting)
  {options : CheckOptions} {session opened : Session Float State}
  (hvalid : (Cpe.parse options.cpe).isValid = true) (hcpe : options.cpe.IsWritable writes)
  (hopen : (openStore options.database).start session = (.ok (), opened)) (hnone : session.state.refused = #[])

include hopen in
/-- Once the database is open, a check looks the name up and goes on to its report. -/
theorem exists_start_checkSoftware :
    ∃ time m reported, (checkSoftware setting options).start session =
        (reportFound setting options (foundBy options opened) time).start reported ∧
      RecordsLookup m (foundBy options opened).length ∧
      reported.state.lookups.monitor = (Monitor.fresh true).record m ∧
      reported.state.refused = session.state.refused := by
  obtain ⟨time, m, reported, hrun, hm, hmonitor⟩ := exists_start_lookUp setting hopen
  exact ⟨time, m, reported, start_checkSoftware hrun, hm, hmonitor,
    (isUntouched_of_start_lookUp hrun).refused_eq⟩

include hconsole hvalid hcpe hopen hnone

/-- **A check ends with a status** once the database is open, if each description that is found is a text, and what
is shown can be written. -/
theorem check_of_hasText (hshowable : ∀ w ∈ foundBy options opened, w.IsShowable writes)
    (htext : ∀ w ∈ foundBy options opened, w.HasText) :
    ∃ status ended, (check setting options).start session = (.ok status, ended) := by
  obtain ⟨time, m, reported, hrun, hm, hmonitor, hrefused⟩ := exists_start_checkSoftware setting hopen
  obtain ⟨result, ended, hend, hended, hfault⟩ := start_reportFound_of_hasText hconsole setting hcpe
    (fun w => isRead_of_mem_foundBy hopen) (hrefused.trans hnone) hm hmonitor hshowable htext
  cases result with
  | ok status => exact ⟨status, ended, start_check_of_ok hvalid (hrun.trans hend)⟩
  | error f =>
      obtain ⟨hf, hmessage⟩ := hfault f rfl
      exact ⟨1, _, start_check_of_isReportable hvalid hconsole (hrun.trans hend) hf
        (hmessage.isWritable hconsole.characters) hended⟩

/-- A check ends without a status if a description that is found is no text, whatever is to be done with the
findings. -/
theorem check_of_not_hasText (htext : ∃ w ∈ foundBy options opened, ¬ w.HasText) :
    ∃ ended, (check setting options).start session = (.error .notShowable, ended) := by
  obtain ⟨time, m, reported, hrun, -, -, hrefused⟩ := exists_start_checkSoftware setting hopen
  obtain ⟨ended, hend, -⟩ := start_reportFound_of_not_hasText hconsole setting hcpe
    (fun w => isRead_of_mem_foundBy hopen) (hrefused.trans hnone) htext
  exact ⟨ended, start_check_of_unforeseen hvalid (hrun.trans hend) rfl⟩

end

/-! ### From the data on -/

/-- **Whatever has been read can be shown, unless a description is no text.**  A lookup of any name in a store
of given data ends with what there is to be found, each of which has been read from an object with an id
and bears its description.  If all of these are texts, the report is the panel and, if anything has been
found, one table with a row for each finding, in their order; otherwise it ends behind the panel with a
fault that is not foreseen.  A console that does what is expected of it prints the first report, if it can write what
is shown, as it can if it can write the texts of the data; and none prints the other to its end.  So a check ends on
such a console, once the database is open: with that fault if a description that is found is no text, and with a
status if all are.  All texts will do for a console that can write all code points. -/
theorem shows_unless_description [Console] (writes : CodePoint → Bool) {data : List Json}
    (hdata : (Store.ofRecords data).fault = none) (l : Lookup) (tree : Files.Tree)
    (session : Session Float (LookupState Store)) (hsession : session.state.data = (Store.ofRecords data).store)
    (name : Text) (time : Float) :
    (∃ found session' panel,
      (l.vulnerabilities (Store.source tree) (.string name)).start session = (.ok found, session') ∧
      (∀ w ∈ found, ∃ v ∈ data, Store.Names v w.idText ∧ w.id = .string w.idText ∧
        w.description = (v.getD "description").orElse (.string Vulnerability.noDescription)) ∧
      summaryPanel (.string name) found (.float time) = .ok panel ∧
      ((∀ w ∈ found, w.HasText) → ∃ rows, List.Forall₂ ShowsFinding found rows ∧
        lookupReport (.string name) found (.float time) = ⟨[panel,
          if found.isEmpty then .panel "No vulnerabilities found!" none "green"
          else .table "Vulnerabilities Found"
            [⟨"ID", .left, "red", true⟩, .styled "Matched CPE" "cyan", .aligned "All prior" .center,
              .aligned "CVSS" .right, .styled "Description" "white"] rows], none⟩) ∧
      ((∃ w ∈ found, ¬ w.HasText) →
        lookupReport (.string name) found (.float time) = ⟨[panel], some .notShowable⟩) ∧
      (Console.Lawful writes → (∀ v ∈ data, ∀ t ∈ Store.saidTexts v, t.IsWritable writes) →
        ∀ w ∈ found, w.IsShowable writes) ∧
      ∀ printing : Session Float State, printing.state.refused = #[] →
        ((∀ w ∈ found, w.HasText) → Console.Lawful writes → name.IsWritable writes →
          (∀ w ∈ found, w.IsShowable writes) →
          (present (lookupReport (.string name) found (.float time))).start printing =
            (.ok (), shown (lookupReport (.string name) found (.float time)).printed printing)) ∧
        ((∃ w ∈ found, ¬ w.HasText) → ∃ f ended,
          (present (lookupReport (.string name) found (.float time))).start printing = (.error f, ended))) ∧
    ∀ (setting : Setting) (options : CheckOptions) (before opened : Session Float State),
      (Cpe.parse options.cpe).isValid = true →
      (openStore options.database).start before = (.ok (), opened) →
      Console.Lawful writes → options.cpe.IsWritable writes → before.state.refused = #[] →
      ((∀ w ∈ foundBy options opened, w.HasText) → (∀ w ∈ foundBy options opened, w.IsShowable writes) →
        ∃ status ended, (check setting options).start before = (.ok status, ended)) ∧
      ((∃ w ∈ foundBy options opened, ¬ w.HasText) →
        ∃ ended, (check setting options).start before = (.error .notShowable, ended)) := by
  refine ⟨?_, ?_⟩
  · obtain ⟨_, _, hloaded⟩ := Store.ofRecords_spec hdata
    have hs := Store.holdsGiven_ofRecords hdata
    obtain ⟨session', _, hrun, _⟩ :=
      l.exists_start_vulnerabilities hs.coherent hloaded tree name session hsession
    have hfound : ∀ w ∈ l.foundIn (Store.ofRecords data).store name, w.IsRead := fun w hw =>
      (l.isRead_of_mem_foundIn hs hw).1
    obtain ⟨content, title, style, hpanel⟩ := exists_summaryPanel hfound name time
    refine ⟨_, session', _, hrun, ?_, hpanel, ?_, ?_, ?_, ?_⟩
    · intro w hw
      obtain ⟨hread, v, hv, hnames, hdescription⟩ := l.isRead_of_mem_foundIn hs hw
      exact ⟨v, hv, hnames, hread.id_eq, hdescription⟩
    · intro htext
      obtain ⟨panel, rows, hpanel', hrows, hreport⟩ := lookupReport_of_hasText hfound htext name time
      obtain rfl := Except.ok.inj (hpanel'.symm.trans hpanel)
      exact ⟨rows, hrows, hreport⟩
    · intro htext
      obtain ⟨panel, hpanel', hreport⟩ := lookupReport_of_not_hasText hfound htext name time
      obtain rfl := Except.ok.inj (hpanel'.symm.trans hpanel)
      exact hreport
    · intro hconsole htexts w hw
      exact l.isShowable_of_mem_foundIn hconsole.characters hs htexts hw
    · intro printing hnone
      refine ⟨?_, start_present_of_not_hasText hfound hnone⟩
      intro htext hconsole hname hshowable
      exact start_present_of_hasText hconsole hname hfound hnone hshowable htext
  · intro setting options before opened hvalid hopen hconsole hcpe hnone
    refine ⟨?_, check_of_not_hasText hconsole setting hvalid hcpe hopen hnone⟩
    intro htext hshowable
    exact check_of_hasText hconsole setting hvalid hcpe hopen hnone hshowable htext

/-- Two objects for one product, the first with a description in words, the second without any. -/
def describedInWords : List Json :=
  [.object [("id", .string "CVE-1"), ("description", .string "A [bold] claim"),
     ("vulnerable_software", .array [.string "cpe:/a:v:p:1.0"])],
   .object [("id", .string "CVE-2"), ("cvss_score", .string "7.5"),
     ("vulnerable_software", .array [.string "cpe:/a:v:p:1.0"])]]

/-- A session on a store of given data. -/
def sessionOn (data : List Json) : Session Float (LookupState Store) :=
  ⟨.ofList [], false, #[], ⟨(Store.ofRecords data).store, .fresh true⟩⟩

/-- A session in which nothing has been printed. -/
def blankSession : Session Float State := startOf ⟨default, .ofList [], false, ""⟩

/-- Both are shown, and printed on a console that prints whatever it is handed. -/
theorem shows_unless_description_inWords :
    (Store.ofRecords describedInWords).fault = none ∧ ∃ found session' panel rows,
      let table := if found.isEmpty then .panel "No vulnerabilities found!" none "green"
        else .table "Vulnerabilities Found"
          [⟨"ID", .left, "red", true⟩, .styled "Matched CPE" "cyan", .aligned "All prior" .center,
            .aligned "CVSS" .right, .styled "Description" "white"] rows
      (Lookup.vulnerabilities ⟨.standard, true⟩ (Store.source default) (.string "cpe:/a:v:p:1.0")).start
        (sessionOn describedInWords) = (.ok found, session') ∧
      List.Forall₂ ShowsFinding found rows ∧
      (present (lookupReport (.string "cpe:/a:v:p:1.0") found (.float 0))).start blankSession =
        (.ok (), shown [panel, table] blankSession) := by
  have hdata : (Store.ofRecords describedInWords).fault = none := rfl
  obtain ⟨⟨found, session', panel, hrun, horigin, _, hshown, _, hshowable, hprints⟩, _⟩ :=
    shows_unless_description (fun _ => true) hdata ⟨.standard, true⟩ default (sessionOn describedInWords) rfl
      "cpe:/a:v:p:1.0" 0
  have htext : ∀ w ∈ found, w.HasText := by
    intro w hw
    obtain ⟨v, hv, _, _, hdescription⟩ := horigin w hw
    rw [Vulnerability.HasText, hdescription]
    simp only [describedInWords, List.mem_cons, List.not_mem_nil, or_false] at hv
    rcases hv with rfl | rfl
    · exact ⟨"A [bold] claim", rfl⟩
    · exact ⟨Vulnerability.noDescription, rfl⟩
  obtain ⟨rows, hrows, hreport⟩ := hshown htext
  have hprinted := (hprints blankSession rfl).1 htext lawful_plainConsole (fun _ _ => rfl)
    (hshowable lawful_plainConsole fun _ _ _ _ _ _ => rfl)
  rw [hreport] at hprinted
  exact ⟨hdata, found, session', panel, rows, hrun, hrows, hreport ▸ hprinted⟩

/-- An object whose description is a number. -/
def describedByNumber : Json :=
  .object [("id", .string "CVE-1"), ("description", .int 5),
    ("vulnerable_software", .array [.string "cpe:/a:v:p:1.0"])]

/-- A description that is a number is read without a fault, but keeps what has been found from being shown:
the report ends behind the panel, with a fault that is not foreseen. -/
theorem report_of_describedByNumber :
    (Store.ofRecords [describedByNumber]).fault = none ∧ ∃ found session' panel,
      (Lookup.vulnerabilities ⟨.standard, true⟩ (Store.source default) (.string "cpe:/a:v:p:1.0")).start
        (sessionOn [describedByNumber]) = (.ok found, session') ∧
      lookupReport (.string "cpe:/a:v:p:1.0") found (.float 0) = ⟨[panel], some .notShowable⟩ ∧
      Fault.notShowable.isForeseen = false := by
  have hdata : (Store.ofRecords [describedByNumber]).fault = none := rfl
  obtain ⟨_, _, hloaded⟩ := Store.ofRecords_spec hdata
  have hs := Store.holdsGiven_ofRecords hdata
  let l : Lookup := ⟨.standard, true⟩
  obtain ⟨session', _, hrun, _⟩ := l.exists_start_vulnerabilities hs.coherent hloaded default
    "cpe:/a:v:p:1.0" (sessionOn [describedByNumber]) rfl
  have hmem : ∃ w ∈ l.foundIn (Store.ofRecords [describedByNumber]).store "cpe:/a:v:p:1.0",
      ¬ w.HasText := by
    have hfound := (l.mem_foundOn_iff hs.coherent "cpe:/a:v:p:1.0" _).2
      ⟨.text "CVE-1", _, _, rfl, rfl, rfl⟩
    refine ⟨_, hfound, ?_⟩
    rintro ⟨s, hs⟩
    cases hs
  obtain ⟨panel, _, hreport⟩ := lookupReport_of_not_hasText
    (fun w hw => (l.isRead_of_mem_foundIn hs hw).1) hmem "cpe:/a:v:p:1.0" 0
  exact ⟨hdata, _, session', panel, hrun, hreport, rfl⟩

end CpeMatch.Command
