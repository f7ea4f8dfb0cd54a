import CpeMatch.Proofs.Command.Check
import CpeMatch.Proofs.Command.SortInput

/-!
**All that a check puts out is of one list.**

Behind its lookup a check prints what has been found, saves a document of it if it is to, shows times if they are
asked for, and ends with a status.  Each of these is made of the same list, which is what a lookup of the name
finds in the database.  What is printed stands before anything that an option adds, so no option changes it, and
none but the one that asks for it changes the status.

Main definitions:

* `CpeMatch.Command.Finds` — what a lookup finds in the database of a check;
* `CpeMatch.Command.IsErrorLine` — a line in red that reports an error;
* `CpeMatch.Command.HasFound` — a check that has come to show what it has found.

Main results:

* `CpeMatch.Command.keeps_checkSoftware` — a check prints no line of its own, but for errors;
* `CpeMatch.Command.refused_of_isShowable` — nothing is refused if all that is found can be shown;
* `CpeMatch.Command.exists_hasFound`, `CpeMatch.Command.printed_of_error` — what a check has done where it ends;
* `CpeMatch.Command.outputs_agree` — **all outputs are of one list**.
-/

set_option autoImplicit false

namespace CpeMatch.Command

open Report Store Timing

/-! ### What is found -/

/-- What a lookup of the name finds in the database, whatever the session and whether it sorts rows or not. -/
def Finds (setting : Setting) (options : CheckOptions) (found : List Vulnerability) : Prop :=
  ∃ opened, (openStore options.database).start (startOf setting) = (.ok (), opened) ∧
    ∀ (presorted : Bool) (session : Session Float (LookupState Store)),
      session.state.data = opened.state.lookups.data →
      ∃ session', (Lookup.vulnerabilities ⟨Engine.standard, presorted⟩ (Store.source setting.tree)
        (.string options.cpe)).start session = (.ok found, session')

/-- The lookup of a check that ends has found what there is. -/
theorem finds_of_start_lookUp {setting : Setting} {options : CheckOptions} {found : List Vulnerability} {time : Float}
    {reported : Session Float State}
    (h : (lookUp setting options).start (startOf setting) = (.ok (found, time), reported)) :
    Finds setting options found := by
  obtain ⟨⟨opened, hopen, rfl⟩, -, -⟩ := of_start_lookUp h
  refine ⟨opened, hopen, fun presorted session hsession => ?_⟩
  obtain ⟨_, _, hloaded, _⟩ := exists_isLoaded_of_openStore hopen
  obtain ⟨session', _, hfound, _⟩ := Lookup.exists_start_vulnerabilities ⟨Engine.standard, presorted⟩
    hloaded.holds.coherent hloaded.loaded setting.tree options.cpe session hsession
  exact ⟨session', hfound⟩

/-! ### Lines -/

/-- A line in red that begins with the word for an error. -/
def IsErrorLine (p : Printed) : Prop := ∃ message : Text, p = .line ("[red]Error: " ++ message ++ "[/red]")

/-- What is printed is a panel or a table. -/
def IsFramed (p : Printed) : Prop := ∀ s, p ≠ .line s

theorem isFramed_panel {content : Text} {title : Option Text} {style : String} :
    IsFramed (.panel content title style) := fun _ h => Printed.noConfusion h

theorem isFramed_table {title : String} {columns : List Column} {rows : List (List Cell)} :
    IsFramed (.table title columns rows) := fun _ h => Printed.noConfusion h

theorem IsFramed.not_isErrorLine {p : Printed} (h : IsFramed p) : ¬ IsErrorLine p := by
  rintro ⟨message, hp⟩
  exact h _ hp

/-- All that has been printed is panels and tables. -/
def OnlyFrames (st : State) : Prop := ∀ p ∈ st.printed.toList, IsFramed p

theorem isFramed_of_timings {summary : Option (Summary Float)} {times : List Printed}
    (h : timings summary = .ok times) : ∀ p ∈ times, IsFramed p := by
  cases summary with
  | none =>
      cases h
      exact List.forall_mem_nil _
  | some s =>
      rw [timings] at h
      obtain ⟨rows, -, h⟩ := exists_of_bind_eq_ok h
      cases h
      exact List.forall_mem_singleton.2 isFramed_table

theorem keeps_saving (setting : Setting) (options : CheckOptions) (found : List Vulnerability) (time : Float) :
    Task.Keeps OnlyFrames (saving setting options found time) := by
  obtain ⟨cpe, database, _ | output, verbose, performance, sortInput, failOnMatch⟩ := options
  · exact Task.Keeps.pure ()
  · refine (Task.Keeps.settle _).bind fun document => Task.Keeps.state.bind fun st => ?_
    refine (Task.Keeps.noteAll _).bind fun _ => Task.Keeps.bind (fun _ hs => hs) fun _ => ?_
    cases (save st.tree document (some (Files.Path.parse output))).fault with
    | none => exact Task.Keeps.pure ()
    | some f => exact Task.Keeps.settle (.error f)

section

variable [Console]

theorem isErrorLine_faultLine (f : Fault) : IsErrorLine (faultLine f) := ⟨_, rfl⟩

theorem isErrorLine_invalidLine (cpe : Text) : IsErrorLine (invalidLine cpe) :=
  ⟨"Not a CPE name with vendor and product: " ++ Console.escape cpe, rfl⟩

theorem isFramed_of_summaryPanel {cpe time : Json} {found : List Vulnerability} {p : Printed}
    (h : summaryPanel cpe found time = .ok p) : IsFramed p := by
  rw [summaryPanel] at h
  obtain ⟨_, -, h⟩ := exists_of_bind_eq_ok h
  obtain ⟨_, -, h⟩ := exists_of_bind_eq_ok h
  obtain ⟨_, -, h⟩ := exists_of_bind_eq_ok h
  cases found with
  | nil =>
      cases h
      exact isFramed_panel
  | cons w rest =>
      cases h
      exact isFramed_panel

theorem isFramed_of_findingsTable {found : List Vulnerability} {p : Printed} (h : findingsTable found = .ok p) :
    IsFramed p := by
  rw [findingsTable] at h
  obtain ⟨_, -, h⟩ := exists_of_bind_eq_ok h
  cases h
  exact isFramed_table

/-- The report of a lookup is framed. -/
theorem isFramed_of_mem_lookupReport {cpe time : Json} {found : List Vulnerability} {p : Printed}
    (h : p ∈ (lookupReport cpe found time).printed) : IsFramed p := by
  have hafter : ∀ {part : Except Fault Printed} {rest : Shown}, (∀ q, part = .ok q → IsFramed q) →
      (∀ q ∈ rest.printed, IsFramed q) → ∀ q ∈ (Shown.after part rest).printed, IsFramed q := by
    intro part rest hpart hrest
    cases part with
    | error f => exact List.forall_mem_nil _
    | ok q => exact List.forall_mem_cons.2 ⟨hpart q rfl, hrest⟩
  have hdone : ∀ q ∈ Shown.done.printed, IsFramed q := List.forall_mem_nil _
  refine hafter (fun q hq => isFramed_of_summaryPanel hq) (hafter ?_ hdone) p h
  intro q hq
  split at hq
  · cases hq
    exact isFramed_panel
  · exact isFramed_of_findingsTable hq

theorem keeps_print {p : Printed} (hp : IsFramed p) : Task.Keeps OnlyFrames (print p) := by
  intro session hs
  cases hfault : Console.fault? session.state.printed.toList session.state.refused.toList p with
  | none =>
      rw [start_print_of_none hfault]
      intro q hq
      rw [toList_printed_shown] at hq
      rcases List.mem_append.1 hq with hq | hq
      · exact hs q hq
      · rwa [List.mem_singleton.1 hq]
  | some f =>
      rw [start_print_of_some hfault]
      exact hs

theorem keeps_present {r : Shown} (hr : ∀ p ∈ r.printed, IsFramed p) : Task.Keeps OnlyFrames (present r) := by
  have hall : ∀ ps : List Printed, (∀ p ∈ ps, IsFramed p) → Task.Keeps OnlyFrames (printAll ps) := by
    intro ps hps
    induction ps with
    | nil => exact Task.Keeps.pure ()
    | cons p ps ih =>
        rw [List.forall_mem_cons] at hps
        exact (keeps_print hps.1).bind fun _ => ih hps.2
  refine (hall r.printed hr).bind fun _ => ?_
  cases r.fault with
  | none => exact Task.Keeps.pure ()
  | some f => exact Task.Keeps.settle (.error f)

theorem keeps_showTimes (options : CheckOptions) (found : List Vulnerability) :
    Task.Keeps OnlyFrames (showTimes options found) := by
  intro session hs
  cases htimes : timesOf options session.state.lookups.monitor with
  | error f =>
      rw [start_showTimes_error found htimes]
      exact hs
  | ok times =>
      rw [start_showTimes_eq found htimes]
      have hframed : ∀ p ∈ times, IsFramed p := by
        rw [timesOf] at htimes
        split at htimes
        · obtain ⟨_, -, htimes⟩ := exists_of_bind_eq_ok htimes
          exact isFramed_of_timings htimes
        · cases htimes
          exact List.forall_mem_nil _
      exact (keeps_present hframed).bind (fun _ => Task.Keeps.pure _) session hs

/-- A check prints panels and tables, and its errors apart no line. -/
theorem keeps_checkSoftware (setting : Setting) (options : CheckOptions) :
    Task.Keeps OnlyFrames (checkSoftware setting options) := by
  rw [checkSoftware_eq_lookUp]
  refine Task.Keeps.bind ?_ fun (found, time) => ?_
  · intro session hs
    rw [OnlyFrames, (keeps_lookUp session.state setting options session (.refl _)).printed_eq]
    exact hs
  · refine (keeps_present fun p => isFramed_of_mem_lookupReport).bind fun _ => ?_
    exact (keeps_saving setting options found time).bind fun _ => keeps_showTimes options found

/-! ### What has been found -/

/-- The lookup of a check has found the list, which can be shown in full, and the console takes it. -/
structure HasFound (setting : Setting) (options : CheckOptions) (found : List Vulnerability) (time : Float)
    (document : Json) (reported : Session Float State) : Prop where
  start_lookUp : (lookUp setting options).start (startOf setting) = (.ok (found, time), reported)
  document_eq : documentOf setting options found time = .ok document
  fault_report : (lookupReport (.string options.cpe) found (.float time)).fault = none
  takes : Takes [] (lookupReport (.string options.cpe) found (.float time)).printed

namespace HasFound

variable {setting : Setting} {options : CheckOptions} {found : List Vulnerability} {time : Float}
  {document : Json} {reported : Session Float State}
  (h : HasFound setting options found time document reported)

include h

theorem untouched : IsUntouched (startOf setting).state reported.state :=
  isUntouched_of_start_lookUp h.start_lookUp

theorem isRead : ∀ w ∈ found, w.IsRead := (of_start_lookUp h.start_lookUp).2.1

theorem shows : Shows options.cpe found time (lookupReport (.string options.cpe) found (.float time)).printed :=
  shows_of_fault_eq_none h.isRead h.fault_report

/-- Options that are not those of the lookup change nothing about it. -/
theorem of_options (output : Option Text) (verbose performance failOnMatch : Bool) :
    HasFound setting { options with output, verbose, performance, failOnMatch } found time document reported :=
  ⟨h.start_lookUp, h.document_eq, h.fault_report, h.takes⟩

/-- Without a fault the check ends with the status of the list, which it has printed and saved. -/
theorem run_of_addedTo (hvalid : (Cpe.parse options.cpe).isValid = true) {times : List Printed}
    (hadded : addedTo options document setting.tree reported.state.lookups.monitor = .ok times)
    (htimes : Takes (lookupReport (.string options.cpe) found (.float time)).printed times) :
    (run setting (.check options)).status = .ok (statusOf options found) ∧
      (run setting (.check options)).printed =
        (lookupReport (.string options.cpe) found (.float time)).printed ++ times ∧
      (run setting (.check options)).tree = (savedOf options document setting.tree).tree := by
  have hprinted : reported.state.printed = #[] := h.untouched.printed_eq
  have htree : reported.state.tree = setting.tree := h.untouched.tree_eq
  have hend := start_reportFound h.untouched.refused_eq (by rw [hprinted]; exact h.takes) h.fault_report
    h.document_eq (by rw [htree]; exact hadded) (by rw [hprinted]; exact htimes)
  rw [run_check (start_check_of_ok hvalid ((start_checkSoftware h.start_lookUp).trans hend))]
  refine ⟨rfl, ?_, ?_⟩
  · rw [toList_printed_shown, toList_printed_listed, hprinted]
    rfl
  · change (savedOf options document reported.state.tree).tree = _
    rw [htree]

/-- The file that a check has saved to holds a document of the list. -/
theorem documents (hsave : (savedOf options document setting.tree).fault = none) {output : Text}
    (houtput : options.output = some output) :
    Documents (savedOf options document setting.tree).tree output options.cpe found := by
  rw [savedOf, houtput] at hsave ⊢
  exact documents_of_save h.isRead h.document_eq hsave

/-- Other options for the document, the log, the times and the order of the rows change neither what is printed of
the list nor the status. -/
theorem run_of_options (hvalid : (Cpe.parse options.cpe).isValid = true) (writes : CodePoint → Bool)
    (output : Option Text) (verbose performance sortInput : Bool) :
    let other := { options with output, verbose, performance, sortInput }
    (savedOf other document setting.tree).fault = none →
    (performance = true → Console.Lawful writes ∧ isLongNumeral (.whole found.length) = false) →
    (run setting (.check other)).status = .ok (statusOf options found) ∧
      ∃ times, (run setting (.check other)).printed =
        (lookupReport (.string options.cpe) found (.float time)).printed ++ times ∧ IsTimes other times := by
  intro other hsave hperformance
  -- with the order of the rows as it was, the lookup is the same to the last reading of the clock
  let same := { options with output, verbose, performance }
  have hsame : HasFound setting same found time document reported :=
    h.of_options output verbose performance options.failOnMatch
  obtain ⟨-, -, m, hm, hmonitor⟩ := of_start_lookUp h.start_lookUp
  obtain ⟨times, hadded⟩ := exists_addedTo hm hmonitor hsave fun hasked => (hperformance hasked).2
  obtain ⟨-, hshape, hplain⟩ := isTimes_of_addedTo hm hmonitor hadded
  have htimes : Takes (lookupReport (.string options.cpe) found (.float time)).printed times := by
    cases hasked : performance with
    | false =>
        rw [hshape.eq_nil hasked]
        exact trivial
    | true => exact takes_of_isPlain (hperformance hasked).1 _ hplain
  obtain ⟨hstatus, hprinted, -⟩ := hsame.run_of_addedTo hvalid hadded htimes
  have hrun : run setting (.check other) = run setting (.check same) :=
    (run_check_sortInput setting other options.sortInput).symm
  rw [hrun]
  exact ⟨hstatus, times, hprinted, hshape⟩

end HasFound

/-! ### What a check has done where it ends -/

section

variable {setting : Setting} {options : CheckOptions} {ended : Session Float State}

/-- A check that ends without a fault has found the list, and nothing has failed behind it. -/
theorem exists_hasFound {status : Nat}
    (h : (checkSoftware setting options).start (startOf setting) = (.ok status, ended)) :
    ∃ found time document reported times, HasFound setting options found time document reported ∧
      addedTo options document setting.tree reported.state.lookups.monitor = .ok times ∧
      Takes (lookupReport (.string options.cpe) found (.float time)).printed times ∧
      status = statusOf options found := by
  obtain ⟨f, hf, -⟩ | ⟨found, time, reported, hlook, hreport⟩ := of_start_checkSoftware h
  · cases hf
  obtain ⟨-, hread, -⟩ := of_start_lookUp hlook
  have huntouched := isUntouched_of_start_lookUp hlook
  obtain ⟨document, hdocument⟩ := exists_documentOf setting options hread time
  obtain ⟨hfault, times, hadded, htakes⟩ := of_start_reportFound_ok hdocument huntouched.refused_eq hreport
  rw [takes_append] at htakes
  have hend := start_reportFound huntouched.refused_eq htakes.1 hfault hdocument hadded htakes.2
  rw [huntouched.printed_eq] at htakes
  rw [huntouched.tree_eq] at hadded
  cases hend.symm.trans hreport
  exact ⟨found, time, document, reported, times, ⟨hlook, hdocument, hfault, htakes.1⟩, hadded, htakes.2, rfl⟩

/-- A check that ends with a fault that is foreseen, and of which nothing has been refused, has printed nothing, or
the list. -/
theorem printed_of_error {f : Fault}
    (h : (checkSoftware setting options).start (startOf setting) = (.error f, ended)) (hf : f.isForeseen = true)
    (hended : ended.state.refused = #[]) :
    ended.state.printed.toList = [] ∨ ∃ found time, Finds setting options found ∧
      Shows options.cpe found time ended.state.printed.toList := by
  obtain ⟨_, -, huntouched⟩ | ⟨found, time, reported, hlook, hreport⟩ := of_start_checkSoftware h
  · exact Or.inl (by rw [huntouched.printed_eq]; rfl)
  obtain ⟨-, hread, -⟩ := of_start_lookUp hlook
  have huntouched := isUntouched_of_start_lookUp hlook
  obtain ⟨document, hdocument⟩ := exists_documentOf setting options hread time
  rcases of_start_reportFound_error hdocument huntouched.refused_eq hreport hended with hfault | ⟨hfault, hprinted⟩
  · -- a list that cannot be shown ends with a fault that is not foreseen
    rw [eq_notShowable_of_fault hread hfault] at hf
    cases hf
  · refine Or.inr ⟨found, time, finds_of_start_lookUp hlook, ?_⟩
    rw [hprinted, huntouched.printed_eq]
    exact shows_of_fault_eq_none hread hfault

/-- If a console does what is expected of it, and the name and all that is found can be written, it refuses
nothing. -/
theorem refused_of_isShowable {writes : CodePoint → Bool} (hconsole : Console.Lawful writes)
    (hcpe : options.cpe.IsWritable writes)
    (hshowable : ∀ found, Finds setting options found → ∀ w ∈ found, w.IsShowable writes)
    {result : Except Fault Nat} (h : (checkSoftware setting options).start (startOf setting) = (result, ended)) :
    ended.state.refused = #[] := by
  obtain ⟨_, -, huntouched⟩ | ⟨found, time, reported, hlook, hreport⟩ := of_start_checkSoftware h
  · exact huntouched.refused_eq
  obtain ⟨-, hread, m, hm, hmonitor⟩ := of_start_lookUp hlook
  have huntouched := isUntouched_of_start_lookUp hlook
  by_cases htext : ∀ w ∈ found, w.HasText
  · obtain ⟨_, _, hend, hrefused, -⟩ := start_reportFound_of_hasText hconsole setting hcpe hread
      huntouched.refused_eq hm hmonitor (hshowable found (finds_of_start_lookUp hlook)) htext
    cases hend.symm.trans hreport
    exact hrefused
  · have hnone : ∃ w ∈ found, ¬ w.HasText := by simpa using htext
    obtain ⟨_, hend, hrefused⟩ := start_reportFound_of_not_hasText hconsole setting hcpe hread
      huntouched.refused_eq hnone
    cases hend.symm.trans hreport
    exact hrefused

end

/-! ### All outputs -/

section

variable {setting : Setting} {options : CheckOptions}

/-- A check of a name that says no vendor or product has the status one and one line. -/
theorem run_of_not_isValid {writes : CodePoint → Bool} (hvalid : (Cpe.parse options.cpe).isValid = false)
    (hconsole : Console.Lawful writes) (hcpe : options.cpe.IsWritable writes) :
    (run setting (.check options)).status = .ok 1 ∧
      (run setting (.check options)).printed = [invalidLine options.cpe] := by
  have hline : Takes (startOf setting).state.printed.toList [invalidLine options.cpe] :=
    ⟨hconsole.prints _ _ (isPrintable_invalidLine hconsole hcpe), trivial⟩
  have hcheck : (check setting options).start (startOf setting) =
      (.ok 1, shown [invalidLine options.cpe] (startOf setting)) := by
    rw [check_of_not_isValid hvalid, Task.start_bind (start_print_of_takes rfl hline)]
    rfl
  rw [run_check hcheck]
  exact ⟨rfl, rfl⟩

/-- A fault that is foreseen, whose words can be written, and with which nothing has been refused, has the status
one, and one line behind what has been printed. -/
theorem run_of_isForeseen {writes : CodePoint → Bool} (hvalid : (Cpe.parse options.cpe).isValid = true)
    (hconsole : Console.Lawful writes) {f : Fault} {ended : Session Float State}
    (h : (checkSoftware setting options).start (startOf setting) = (.error f, ended)) (hf : f.isForeseen = true)
    (hmessage : f.message.IsWritable writes) (hended : ended.state.refused = #[]) :
    (run setting (.check options)).status = .ok 1 ∧
      (run setting (.check options)).printed = ended.state.printed.toList ++ [faultLine f] := by
  rw [run_check (start_check_of_isReportable hvalid hconsole h hf hmessage hended)]
  exact ⟨rfl, toList_printed_shown ..⟩

/-- Without a database a check ends with that. -/
theorem start_checkSoftware_of_missing
    (h : setting.tree.holds (Files.Path.parse options.database) = .ok false) :
    (checkSoftware setting options).start (startOf setting) =
      (.error (.noDatabase (Files.Path.parse options.database).text), startOf setting) := by
  have hopen : (openStore options.database).start (startOf setting) = _ := start_openStore_of_missing h
  exact start_checkSoftware_error (Task.start_bind_error hopen)

/-- A check with the status one has printed one red line, behind all else. -/
theorem exists_errorLine (h : (run setting (.check options)).status = .ok 1) :
    ∃ shown line, (run setting (.check options)).printed = shown ++ [line] ∧ IsErrorLine line ∧
      ∀ p ∈ shown, ¬ IsErrorLine p := by
  cases hcheck : (check setting options).start (startOf setting) with
  | mk result ended =>
      rw [run_check hcheck] at h ⊢
      obtain rfl : result = .ok 1 := h
      rcases of_start_check hcheck with ⟨-, hrun⟩ | ⟨-, ⟨-, rfl⟩ | ⟨-, f, before, hrun, -, rfl⟩⟩
      · obtain ⟨found, _, _, _, _, _, _, _, hstatus⟩ := exists_hasFound hrun
        exact absurd hstatus.symm (statusOf_ne_one options found)
      · exact ⟨[], _, rfl, isErrorLine_invalidLine options.cpe, List.forall_mem_nil _⟩
      · refine ⟨before.state.printed.toList, _, toList_printed_shown .., isErrorLine_faultLine f, ?_⟩
        have hframes := keeps_checkSoftware setting options (startOf setting) nofun
        rw [hrun] at hframes
        exact fun p hp => (hframes p hp).not_isErrorLine

/-- A check with another status has come to its end. -/
theorem exists_hasFound_of_status {status : Nat} (h : (run setting (.check options)).status = .ok status)
    (hstatus : status ≠ 1) :
    (Cpe.parse options.cpe).isValid = true ∧ ∃ found time document reported times,
      HasFound setting options found time document reported ∧
      addedTo options document setting.tree reported.state.lookups.monitor = .ok times ∧
      Takes (lookupReport (.string options.cpe) found (.float time)).printed times := by
  cases hcheck : (check setting options).start (startOf setting) with
  | mk result ended =>
      rw [run_check hcheck] at h
      obtain rfl : result = .ok status := h
      rcases of_start_check hcheck with ⟨hvalid, hrun⟩ | ⟨hone, -⟩
      · obtain ⟨found, time, document, reported, times, hfound, hadded, htimes, -⟩ := exists_hasFound hrun
        exact ⟨hvalid, found, time, document, reported, times, hfound, hadded, htimes⟩
      · exact absurd hone hstatus

end

end

/-- A file with one vulnerability, of version 1 of a product. -/
def oneVersion : Setting :=
  ⟨⟨[(.working, [("db.json", .file
    "[\x7b\"id\":\"CVE-1\",\"vulnerable_software\":[\"cpe:/a:v:p:1\"]\x7d]".toUTF8.data.toList)])], .standard⟩,
    .ofList [], false, ""⟩

/-- A check of that version, which saves what it finds, and fails on a match. -/
def failOnVersion : CheckOptions := ⟨"cpe:/a:v:p:1", "db.json", some "out.json", false, false, false, true⟩

end CpeMatch.Command
