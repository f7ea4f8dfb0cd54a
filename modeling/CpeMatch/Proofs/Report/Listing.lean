import CpeMatch.Proofs.Files.Writing
import CpeMatch.Proofs.Json.ReadBack
import CpeMatch.Proofs.Report.Showing

/-!
**What a report says of a list.**

The panel above the findings tells their number, and the table below it has a row for each of them.  The document
tells their number, too, and has a value for each of them.  Where it has been saved, the file holds it.

Main definitions:

* `CpeMatch.Report.Counts`, `CpeMatch.Report.Lists`, `CpeMatch.Report.Shows` — the panel and the table of a list;
* `CpeMatch.Report.Documents` — a file with the document of a list.

Main results:

* `CpeMatch.Report.shows_of_fault_eq_none` — **a report that can be shown in full shows the list**;
* `CpeMatch.Report.documents_of_save` — **a document that has been saved is one of the list**.
-/

set_option autoImplicit false

namespace CpeMatch.Report

/-! ### What is printed -/

section

variable [Console]

/-- The panel tells how many vulnerabilities have been found for the name. -/
def Counts (cpe : Text) (found : List Vulnerability) (time : Float) (p : Printed) : Prop :=
  ∃ severities, found.mapM (·.severity) = .ok severities ∧
    p = .panel
      ("Software: " ++ Console.escape cpe ++ "\n" ++
        "Vulnerabilities: " ++ toString found.length ++
          " (" ++ toString (severities.filter (· = .high)).length ++ " high)\n" ++
        "Lookup time: " ++ Number.fixedText time 3 ++ "s")
      (some (if found.isEmpty then "No vulnerabilities found"
        else "Found " ++ toString found.length ++ " vulnerabilities!"))
      (if found.isEmpty then "green" else "red")

/-- The table has a row for each vulnerability that has been found, in their order; if there are none, there is a
panel that says so. -/
def Lists (found : List Vulnerability) (p : Printed) : Prop :=
  ∃ rows, List.Forall₂ ShowsFinding found rows ∧
    p = if found.isEmpty then .panel "No vulnerabilities found!" none "green"
      else .table "Vulnerabilities Found"
        [⟨"ID", .left, "red", true⟩, .styled "Matched CPE" "cyan", .aligned "All prior" .center,
          .aligned "CVSS" .right, .styled "Description" "white"] rows

/-- What is printed is the panel of the list, and its table. -/
def Shows (cpe : Text) (found : List Vulnerability) (time : Float) (printed : List Printed) : Prop :=
  ∃ panel table, printed = [panel, table] ∧ Counts cpe found time panel ∧ Lists found table

theorem counts_of_summaryPanel {cpe : Text} {found : List Vulnerability} {time : Float} {panel : Printed}
    (h : summaryPanel (.string cpe) found (.float time) = .ok panel) : Counts cpe found time panel := by
  rw [summaryPanel] at h
  obtain ⟨severities, hseverities, h⟩ := exists_of_bind_eq_ok h
  refine ⟨severities, hseverities, ?_⟩
  cases found with
  | nil => exact (Except.ok.inj h).symm
  | cons w rest => exact (Except.ok.inj h).symm

/-- A report that can be shown in full shows the list. -/
theorem shows_of_fault_eq_none {cpe : Text} {found : List Vulnerability} (hfound : ∀ w ∈ found, w.IsRead)
    {time : Float} (h : (lookupReport (.string cpe) found (.float time)).fault = none) :
    Shows cpe found time (lookupReport (.string cpe) found (.float time)).printed := by
  by_cases htext : ∀ w ∈ found, w.HasText
  · obtain ⟨panel, rows, hpanel, hrows, hreport⟩ := lookupReport_of_hasText hfound htext cpe time
    rw [hreport]
    exact ⟨panel, _, rfl, counts_of_summaryPanel hpanel, rows, hrows, rfl⟩
  · have hnone : ∃ w ∈ found, ¬ w.HasText := by simpa using htext
    obtain ⟨_, _, hreport⟩ := lookupReport_of_not_hasText hfound hnone cpe time
    rw [hreport] at h
    cases h

/-- A report that cannot be shown in full ends with one and the same fault. -/
theorem eq_notShowable_of_fault {cpe : Text} {found : List Vulnerability} (hfound : ∀ w ∈ found, w.IsRead)
    {time : Float} {f : Fault} (h : (lookupReport (.string cpe) found (.float time)).fault = some f) :
    f = .notShowable := by
  by_cases htext : ∀ w ∈ found, w.HasText
  · obtain ⟨_, _, -, -, hreport⟩ := lookupReport_of_hasText hfound htext cpe time
    rw [hreport] at h
    cases h
  · have hnone : ∃ w ∈ found, ¬ w.HasText := by simpa using htext
    obtain ⟨_, _, hreport⟩ := lookupReport_of_not_hasText hfound hnone cpe time
    rw [hreport] at h
    exact (Option.some.inj h).symm

end

/-! ### What is saved -/

/-- The file holds a document of the list: when it is read back, it has the name, the number of what has been found,
and a value for each of them, in their order. -/
def Documents (tree : Files.Tree) (output cpe : Text) (found : List Vulnerability) : Prop :=
  ∃ bytes read, tree.read (Files.Path.parse output) = .ok bytes ∧ Json.ofBytes .unbounded bytes = .ok read ∧
    (read.getD "scan_summary").getD "cpe" = .string cpe ∧
    (read.getD "scan_summary").getD "total_vulnerabilities" = .int found.length ∧
    List.Forall₂ (fun w value => ∃ given, w.toJson = .ok given ∧ value = given.reread) found
      (read.getD "vulnerabilities").items ∧
    (read.getD "vulnerabilities").items.map (·.getD "id") = found.map (·.id)

/-- The document of a list as it is read back. -/
theorem exists_reread_lookupDocument {cpe : Text} {found : List Vulnerability} {time further document : Json}
    {moment : String} (h : lookupDocument (.string cpe) found time moment further = .ok document) :
    ∃ values, found.mapM (·.toJson) = .ok values ∧
      (document.reread.getD "scan_summary").getD "cpe" = .string cpe ∧
      (document.reread.getD "scan_summary").getD "total_vulnerabilities" = .int found.length ∧
      (document.reread.getD "vulnerabilities").items = values.map Json.reread := by
  rw [lookupDocument] at h
  obtain ⟨values, hvalues, h⟩ := exists_of_bind_eq_ok h
  refine ⟨values, hvalues, ?_⟩
  rw [← Json.rereadItems_eq_map]
  cases hfurther : further.isTruthy with
  | true =>
      simp only [hfurther] at h
      cases h
      exact ⟨rfl, rfl, rfl⟩
  | false =>
      simp only [hfurther] at h
      cases h
      exact ⟨rfl, rfl, rfl⟩

/-- The id of what has been found is read back as it is. -/
theorem getD_id_reread {w : Vulnerability} (hw : w.IsRead) {value : Json} (h : w.toJson = .ok value) :
    value.reread.getD "id" = w.id := by
  rw [Vulnerability.toJson] at h
  obtain ⟨severity, -, h⟩ := exists_of_map_eq_ok h
  rw [← h, hw.id_eq]
  rfl

theorem map_id_of_forall₂ {found : List Vulnerability} (hfound : ∀ w ∈ found, w.IsRead) {values : List Json}
    (h : List.Forall₂ (fun w value => w.toJson = .ok value) found values) :
    (values.map Json.reread).map (·.getD "id") = found.map (·.id) := by
  induction h with
  | nil => rfl
  | cons hvalue _ ih =>
      rw [List.forall_mem_cons] at hfound
      rw [List.map_cons, List.map_cons, List.map_cons, getD_id_reread hfound.1 hvalue, ih hfound.2]

/-- Where a document has been saved, the file holds it. -/
theorem read_of_save {tree : Files.Tree} {document : Json} {path : Files.Path}
    (h : (save tree document (some path)).fault = none) :
    (save tree document (some path)).tree.read path = .ok document.octets.1 ∧ document.octets.2 = none := by
  unfold save at h ⊢
  simp only at h ⊢
  cases hwrite : tree.write path document.octets.1 with
  | error cause =>
      rw [hwrite] at h
      cases h
  | ok written =>
      rw [hwrite] at h
      cases hrest : document.octets.2 with
      | some cause =>
          rw [hrest] at h
          cases h
      | none => exact ⟨Files.Tree.read_of_write hwrite, rfl⟩

/-- **Where the document of a list has been saved, the file holds it.** -/
theorem documents_of_save {cpe : Text} {found : List Vulnerability} (hfound : ∀ w ∈ found, w.IsRead)
    {time further document : Json} {moment : String}
    (hdocument : lookupDocument (.string cpe) found time moment further = .ok document) {tree : Files.Tree}
    {output : Text} (hsave : (save tree document (some (Files.Path.parse output))).fault = none) :
    Documents (save tree document (some (Files.Path.parse output))).tree output cpe found := by
  obtain ⟨hread, hnone⟩ := read_of_save hsave
  obtain ⟨values, hvalues, hcpe, htotal, hitems⟩ := exists_reread_lookupDocument hdocument
  have hall := forall₂_of_mapM_eq_ok hvalues
  refine ⟨_, document.reread, hread, Json.ofBytes_octets hnone, hcpe, htotal, ?_, ?_⟩
  · rw [hitems, List.forall₂_map_right_iff]
    exact hall.imp fun w value hvalue => ⟨value, hvalue, rfl⟩
  · rw [hitems, map_id_of_forall₂ hfound hall]

end CpeMatch.Report
