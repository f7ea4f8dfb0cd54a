import CpeMatch.Proofs.Lookup.Complete
import CpeMatch.Proofs.Matching.Kinds
import CpeMatch.Proofs.Store.Reloading
import CpeMatch.Proofs.Text.Encodable
import CpeMatch.Report.Console
import CpeMatch.Report.Document

/-!
**What is found can be shown, but for its description.**

Of a vulnerability that a store has read from data, the id is a text, the score a floating-point number or
missing, and the match that has found it bears the text of a CPE name.  So the panel above the findings can
always be printed.  Only the description is whatever the data say.  If all that are found have texts, there
is one table with a row for each; if one of them does not, there is no table.  A document can be made of
them in either case.

Main definitions:

* `CpeMatch.Vulnerability.IsRead`, `CpeMatch.Vulnerability.HasText` — what a report asks for.

Main results:

* `CpeMatch.Report.exists_findingRow`, `CpeMatch.Report.findingRow_of_not_hasText` — one finding;
* `CpeMatch.Report.lookupReport_of_hasText`, `CpeMatch.Report.lookupReport_of_not_hasText` — **the report
  of what has been found**;
* `CpeMatch.Report.exists_lookupDocument`, `CpeMatch.Report.isReportable_of_save` — the document of it;
* `CpeMatch.Lookup.isRead_of_mem_foundIn` — what a lookup finds.
-/

set_option autoImplicit false

namespace CpeMatch

open Timing

/-! ### What a report asks for -/

/-- The vulnerability is one that has been read from data: what a report shows of it is of the kind that it
asks for, the description apart. -/
structure Vulnerability.IsRead (w : Vulnerability) : Prop where
  id_eq : w.id = .string w.idText
  score_eq : w.score = .null ∨ ∃ x, w.score = .float x
  cpe_eq : ∀ m, w.found = some m → ∃ name, m.cpe = .string name

/-- The description is a text. -/
def Vulnerability.HasText (w : Vulnerability) : Prop := ∃ s, w.description = .string s

/-! ### Steps that may fail, one for each of several things -/

section

variable {α β ε : Type} {f : α → Except ε β} {xs : List α}

/-- If each step succeeds, so do all of them, and what holds of each result holds of all. -/
theorem exists_mapM_eq_ok {r : α → β → Prop} (h : ∀ x ∈ xs, ∃ y, f x = .ok y ∧ r x y) :
    ∃ ys, xs.mapM f = .ok ys ∧ List.Forall₂ r xs ys := by
  induction xs with
  | nil => exact ⟨[], rfl, .nil⟩
  | cons x xs ih =>
      obtain ⟨y, hy, hxy⟩ := h x (List.mem_cons_self ..)
      obtain ⟨ys, hys, hall⟩ := ih fun z hz => h z (List.mem_cons_of_mem x hz)
      refine ⟨y :: ys, ?_, .cons hxy hall⟩
      rw [List.mapM_cons, hy, hys]
      rfl

/-- If each step succeeds, so do all of them. -/
theorem exists_mapM_eq_ok_of_forall (h : ∀ x ∈ xs, ∃ y, f x = .ok y) : ∃ ys, xs.mapM f = .ok ys := by
  obtain ⟨ys, hys, _⟩ := exists_mapM_eq_ok (r := fun _ _ => True) fun x hx =>
    (h x hx).imp fun _ hy => ⟨hy, trivial⟩
  exact ⟨ys, hys⟩

/-- If all steps succeed, each of them does. -/
theorem forall₂_of_mapM_eq_ok {ys : List β} (h : xs.mapM f = .ok ys) :
    List.Forall₂ (fun x y => f x = .ok y) xs ys := by
  induction xs generalizing ys with
  | nil =>
      cases h
      exact .nil
  | cons x xs ih =>
      rw [List.mapM_cons] at h
      obtain ⟨y, hy, h⟩ := exists_of_bind_eq_ok h
      obtain ⟨rest, hrest, h⟩ := exists_of_bind_eq_ok h
      cases h
      exact .cons hy (ih hrest)

/-- What holds of each that stands beside something holds of all of them. -/
theorem forall_mem_of_forall₂ {r : α → β → Prop} {q : β → Prop} {ys : List β} (h : List.Forall₂ r xs ys)
    (hq : ∀ x ∈ xs, ∀ y, r x y → q y) : ∀ y ∈ ys, q y := by
  induction h with
  | nil => exact fun _ hy => absurd hy List.not_mem_nil
  | cons hxy _ ih =>
      rw [List.forall_mem_cons] at hq ⊢
      exact ⟨hq.1 _ hxy, ih hq.2⟩

/-- If a step fails, and no step fails otherwise, all of them fail so. -/
theorem mapM_eq_error {e : ε} (h : ∀ x ∈ xs, (∃ y, f x = .ok y) ∨ f x = .error e)
    (he : ∃ x ∈ xs, f x = .error e) : xs.mapM f = .error e := by
  induction xs with
  | nil => simp at he
  | cons x xs ih =>
      rw [List.mapM_cons]
      rcases h x (List.mem_cons_self ..) with ⟨y, hy⟩ | hx
      · have hrest : ∃ z ∈ xs, f z = .error e := by
          obtain ⟨z, hz, hze⟩ := he
          rcases List.mem_cons.1 hz with rfl | hz
          · rw [hy] at hze
            cases hze
          · exact ⟨z, hz, hze⟩
        rw [hy, ih (fun z hz => h z (List.mem_cons_of_mem x hz)) hrest]
        rfl
      · rw [hx]
        rfl

end

namespace Report

/-! ### One finding -/

section

variable {w : Vulnerability}

theorem exists_severity (hw : w.IsRead) : ∃ severity, w.severity = .ok severity := by
  rw [Vulnerability.severity]
  rcases hw.score_eq with hscore | ⟨x, hscore⟩
  · exact ⟨.unknown, by rw [hscore]; rfl⟩
  · rw [hscore]
    exact ⟨_, rfl⟩

theorem exists_scoreText (hw : w.IsRead) : ∃ s, scoreText w.score = .ok s := by
  rcases hw.score_eq with hscore | ⟨x, hscore⟩
  · exact ⟨"-", by rw [hscore]; rfl⟩
  · exact ⟨Number.fixedText x 1, by rw [hscore]; rfl⟩

variable [Console]

/-- The name that has been found, as a row shows it. -/
def matchedText (w : Vulnerability) : Except Fault Text := w.found.elim (.ok "-") fun m => escaped m.cpe

/-- The row shows the finding: its id, the name that has been found, the mark of a range, the score and
the start of the description. -/
def ShowsFinding (w : Vulnerability) (row : List Cell) : Prop :=
  ∃ s cpe score severity, w.description = .string s ∧ matchedText w = .ok cpe ∧
    scoreText w.score = .ok score ∧ w.severity = .ok severity ∧
    row = [.text (Console.escape w.idText), .text cpe,
      .text (if w.found.any (·.allPrior) then "Y" else Text.empty),
      .styled score (severityStyle severity), .text (Console.escape (previewText s))]

/-- Of all that a row shows only the description may be missing. -/
theorem findingRow_eq (hw : w.IsRead) :
    ∃ cpe score severity, matchedText w = .ok cpe ∧ scoreText w.score = .ok score ∧
      w.severity = .ok severity ∧ findingRow w = (do
        let shown ← preview w.description >>= escaped
        return [.text (Console.escape w.idText), .text cpe,
          .text (if w.found.any (·.allPrior) then "Y" else Text.empty),
          .styled score (severityStyle severity), .text shown]) := by
  obtain ⟨severity, hseverity⟩ := exists_severity hw
  obtain ⟨score, hscore⟩ := exists_scoreText hw
  have hid : escaped w.id = .ok (Console.escape w.idText) := by
    rw [hw.id_eq]
    rfl
  cases hfound : w.found with
  | none =>
      refine ⟨"-", score, severity, by rw [matchedText, hfound]; rfl, hscore, hseverity, ?_⟩
      rw [findingRow, hscore, hid, hseverity, hfound]
      cases preview w.description <;> rfl
  | some m =>
      obtain ⟨name, hname⟩ := hw.cpe_eq m hfound
      have hcpe : escaped m.cpe = .ok (Console.escape name) := by
        rw [hname]
        rfl
      refine ⟨Console.escape name, score, severity, ?_, hscore, hseverity, ?_⟩
      · rw [matchedText, hfound]
        exact hcpe
      · rw [findingRow, hscore, hid, hseverity, hfound]
        simp only [hcpe]
        cases preview w.description <;> rfl

/-- A description that is no text cannot be shown, even if it has a length. -/
theorem preview_of_not_string {description : Json} (h : ∀ s, description ≠ .string s) :
    (preview description >>= escaped) = .error .notShowable := by
  cases description with
  | string s => exact absurd rfl (h s)
  | null => rfl
  | bool b => rfl
  | number n => rfl
  | array items =>
      rw [preview]
      split <;> rfl
  | object members =>
      rw [preview]
      split <;> rfl

/-- A finding whose description is a text has a row. -/
theorem exists_findingRow (hw : w.IsRead) (hs : w.HasText) :
    ∃ row, findingRow w = .ok row ∧ ShowsFinding w row := by
  obtain ⟨cpe, score, severity, hcpe, hscore, hseverity, hrow⟩ := findingRow_eq hw
  obtain ⟨s, hs⟩ := hs
  rw [hs] at hrow
  exact ⟨_, hrow, s, cpe, score, severity, hs, hcpe, hscore, hseverity, rfl⟩

/-- A finding whose description is no text has none. -/
theorem findingRow_of_not_hasText (hw : w.IsRead) (hs : ¬ w.HasText) :
    findingRow w = .error .notShowable := by
  obtain ⟨_, _, _, -, -, -, hrow⟩ := findingRow_eq hw
  rw [hrow, preview_of_not_string fun s h => hs ⟨s, h⟩]
  rfl

end

/-! ### The report -/

section

variable [Console] {found : List Vulnerability} (hfound : ∀ w ∈ found, w.IsRead)

include hfound in
/-- The panel above the findings can be printed. -/
theorem exists_summaryPanel (name : Text) (time : Float) :
    ∃ content title style, summaryPanel (.string name) found (.float time) =
      .ok (.panel content (some title) style) := by
  obtain ⟨severities, hseverities⟩ := exists_mapM_eq_ok_of_forall fun w hw =>
    exists_severity (hfound w hw)
  rw [summaryPanel, hseverities]
  cases found with
  | nil => exact ⟨_, _, _, rfl⟩
  | cons w rest => exact ⟨_, _, _, rfl⟩

include hfound in
/-- **What has been found is shown in full** if each description is a text: the panel, and then either that
there is nothing, or one table with a row for each finding, in their order. -/
theorem lookupReport_of_hasText (htext : ∀ w ∈ found, w.HasText) (name : Text) (time : Float) :
    ∃ panel rows, summaryPanel (.string name) found (.float time) = .ok panel ∧
      List.Forall₂ ShowsFinding found rows ∧
      lookupReport (.string name) found (.float time) = ⟨[panel,
        if found.isEmpty then .panel "No vulnerabilities found!" none "green"
        else .table "Vulnerabilities Found"
          [⟨"ID", .left, "red", true⟩, .styled "Matched CPE" "cyan", .aligned "All prior" .center,
            .aligned "CVSS" .right, .styled "Description" "white"] rows], none⟩ := by
  obtain ⟨content, title, style, hpanel⟩ := exists_summaryPanel hfound name time
  obtain ⟨rows, hrows, hall⟩ := exists_mapM_eq_ok fun w hw =>
    exists_findingRow (hfound w hw) (htext w hw)
  refine ⟨_, rows, hpanel, hall, ?_⟩
  rw [lookupReport, hpanel, findingsTable, hrows]
  cases found with
  | nil => rfl
  | cons w rest => rfl

include hfound in
/-- If one of the descriptions is no text, the report ends behind the panel. -/
theorem lookupReport_of_not_hasText (htext : ∃ w ∈ found, ¬ w.HasText) (name : Text) (time : Float) :
    ∃ panel, summaryPanel (.string name) found (.float time) = .ok panel ∧
      lookupReport (.string name) found (.float time) = ⟨[panel], some .notShowable⟩ := by
  obtain ⟨content, title, style, hpanel⟩ := exists_summaryPanel hfound name time
  obtain ⟨w, hw, hnone⟩ := htext
  have hrows : found.mapM findingRow = .error .notShowable := by
    refine mapM_eq_error ?_ ⟨w, hw, findingRow_of_not_hasText (hfound w hw) hnone⟩
    intro v hv
    by_cases hs : v.HasText
    · obtain ⟨row, hrow, _⟩ := exists_findingRow (hfound v hv) hs
      exact Or.inl ⟨row, hrow⟩
    · exact Or.inr (findingRow_of_not_hasText (hfound v hv) hs)
  have hsome : found.isEmpty = false := List.isEmpty_eq_false_iff.2 (List.ne_nil_of_mem hw)
  refine ⟨_, hpanel, ?_⟩
  rw [lookupReport, hpanel, hsome, findingsTable, hrows]
  rfl

end

/-! ### The document -/

section

variable {found : List Vulnerability} (hfound : ∀ w ∈ found, w.IsRead)

/-- A finding has a value, whatever its description is. -/
theorem exists_toJson {w : Vulnerability} (hw : w.IsRead) : ∃ value, w.toJson = .ok value := by
  obtain ⟨severity, hseverity⟩ := exists_severity hw
  rw [Vulnerability.toJson, hseverity]
  exact ⟨_, rfl⟩

include hfound in
/-- There is a document of what has been found. -/
theorem exists_lookupDocument (cpe time : Json) (moment : String) (further : Json) :
    ∃ document, lookupDocument cpe found time moment further = .ok document := by
  obtain ⟨values, hvalues⟩ := exists_mapM_eq_ok_of_forall fun w hw => exists_toJson (hfound w hw)
  rw [lookupDocument, hvalues]
  exact ⟨_, rfl⟩

end

/-- A document that cannot be saved is a fault that can be reported. -/
theorem isReportable_of_save {tree : Files.Tree} {results : Json} {path : Option Files.Path} {f : Fault}
    (h : (save tree results path).fault = some f) : f.IsReportable := by
  unfold save at h
  cases path with
  | none =>
      cases h
      exact ⟨rfl, Text.isEncodable_ofString _⟩
  | some path =>
      simp only at h
      split at h
      next => cases h
      next u _ _ =>
        cases h
        exact ⟨rfl, u.isEncodable_message⟩
      next cause _ =>
        cases h
        exact ⟨rfl, cause.isEncodable_message path.text⟩

end Report

/-! ### What a store has read -/

/-- What a value gives has the score that the value says, or none. -/
theorem Store.score_of_given? {data : Json} {v : Vulnerability} (h : Store.given? data = some v) :
    ∃ id, Store.Names data id ∧ v = Store.decoded data id v.score ∧
      (v.score = .null ∨ ∃ x, v.score = .float x) := by
  obtain ⟨id, hnames, -, -⟩ := Store.of_given? h
  unfold Store.given? at h
  split at h
  next hdecode =>
    subst h
    have hscore : ¬ Store.IsBeyondFloats (data.getD "cvss_score") := by
      intro hbeyond
      rw [Store.decode_of_names hnames, Store.decodeScore_of_isBeyondFloats id hbeyond] at hdecode
      cases hdecode
    obtain ⟨w, complaints, hread, hw, hfloat, hnull, -⟩ := Store.exists_decode hnames hscore
    rw [hread] at hdecode
    obtain rfl := Option.some.inj (Prod.mk.inj (Except.ok.inj hdecode)).1
    refine ⟨id, hnames, hw, ?_⟩
    by_cases hsays : ∃ x, Store.Scores (data.getD "cvss_score") x
    · obtain ⟨x, hx⟩ := hsays
      exact Or.inr ⟨x, (hfloat x).2 hx⟩
    · exact Or.inl (hnull.2 fun x hx => hsays ⟨x, hx⟩)
  next => cases h

namespace Lookup

section

variable (l : Lookup) {s : Store} {data : List Json}

/-- What a lookup finds has been read from an object among the data, whose description it bears. -/
theorem isRead_of_mem_foundIn (hs : s.HoldsGiven data) {name : Text} {w : Vulnerability}
    (hw : w ∈ l.foundIn s name) :
    w.IsRead ∧ ∃ v ∈ data, Store.Names v w.idText ∧
      w.description = (v.getD "description").orElse (.string Vulnerability.noDescription) := by
  rw [foundIn] at hw
  split at hw
  next =>
    obtain ⟨key, v, m, hheld, hmatch, rfl⟩ := (l.mem_foundOn_iff hs.coherent name w).1 hw
    rw [hs.held_eq] at hheld
    obtain ⟨value, hvalue, hgiven⟩ := List.mem_filterMap.1 (Store.mem_of_lastUnder? hheld).1
    obtain ⟨id, hnames, hv, hscore⟩ := Store.score_of_given? hgiven
    have hid : (v.foundBy m).idText = id := by
      rw [hv]
      rfl
    refine ⟨⟨?_, hscore, ?_⟩, value, hvalue, by rwa [hid], ?_⟩
    · rw [hid, hv]
      rfl
    · rintro _ ⟨⟩
      rw [Engine.match?_eq_map_found?] at hmatch
      obtain ⟨e, _, rfl⟩ := Option.map_eq_some_iff.1 hmatch
      exact ⟨e.cpe, rfl⟩
    · rw [hv]
      rfl
  next => cases hw

end

end Lookup

end CpeMatch
