import CpeMatch.Proofs.Report.Listing
import CpeMatch.Proofs.Report.Markup

/-!
**What a check prints can be printed.**

Numbers are written without markup.  So all markup in a report is that of the report itself, and if all that is
shown from elsewhere can be written, there is no reason for a console to refuse the report.

Main definition: `CpeMatch.Vulnerability.IsShowable` — what is shown of a vulnerability can be written.

Main results:

* `CpeMatch.Report.isBare_fixedText` — numbers with decimals are free of markup;
* `CpeMatch.Report.isPrintable_of_counts`, `CpeMatch.Report.isPrintable_of_lists` — **the panel and the table of a
  list can be printed**;
* `CpeMatch.Report.isPrintable_of_timings` — so can the times of operations.
-/

set_option autoImplicit false

namespace CpeMatch

namespace Vulnerability

/-- The texts that are shown of the vulnerability: its id, the name that has been found, and the start of its
description. -/
def shownTexts (w : Vulnerability) : List Text :=
  w.idText :: ((w.found.bind (·.cpe.text?)).toList ++ (w.description.text?.map Report.previewText).toList)

/-- What is shown of the vulnerability can be written. -/
def IsShowable (writes : CodePoint → Bool) (w : Vulnerability) : Prop := ∀ s ∈ w.shownTexts, s.IsWritable writes

instance (writes : CodePoint → Bool) (w : Vulnerability) : Decidable (w.IsShowable writes) :=
  inferInstanceAs (Decidable (∀ s ∈ w.shownTexts, _))

namespace IsShowable

variable {writes : CodePoint → Bool} {w : Vulnerability} (hw : w.IsShowable writes)

include hw

theorem id : w.idText.IsWritable writes := hw _ (List.mem_cons_self ..)

theorem cpe {m : Match} {name : Text} (hfound : w.found = some m) (hname : m.cpe = .string name) :
    name.IsWritable writes := by
  refine hw name (List.mem_cons_of_mem _ (List.mem_append_left _ ?_))
  rw [hfound, Option.bind_some, hname]
  exact List.mem_singleton_self name

theorem description {s : Text} (hs : w.description = .string s) : (Report.previewText s).IsWritable writes := by
  refine hw _ (List.mem_cons_of_mem _ (List.mem_append_right _ ?_))
  rw [hs]
  exact List.mem_singleton_self _

end IsShowable

end Vulnerability

/-! ### What data say -/

namespace Store

/-- The CPE name that a value lists as affected, by itself or in an object. -/
def listedName? (v : Json) : Option Text := v.text?.or (v.getD "cpe").text?

/-- The texts of a value that can come to be shown: its id, its description and the CPE names that it lists. -/
def saidTexts (v : Json) : List Text :=
  (v.getD "id").text?.toList ++ (v.getD "description").text?.toList ++
    (v.getD "vulnerable_software").items.filterMap listedName?

/-- The name in a row is one that the value lists. -/
theorem listedName?_of_decodeRecord? {id : Text} {v : Json} {r : SoftwareRecord} (h : decodeRecord? id v = some r)
    {name : Text} (hname : r.cpe = .string name) : listedName? v = some name := by
  cases v with
  | string cpe =>
      cases h
      exact congrArg some (Json.string.inj hname)
  | object members =>
      obtain ⟨cpe, hcpe, rfl⟩ := Option.map_eq_some_iff.1 h
      cases hname
      exact hcpe
  | _ => cases h

end Store

/-- The name in what is found is that of a row of the vulnerability, without surrounding blanks. -/
theorem Engine.exists_cpe_of_match? {engine : Engine} {c : Cpe} {v : Vulnerability} {m : Match}
    (h : engine.match? c.version (v.entriesFor c.key) (.string c.vendor) (.string c.product) = some m) :
    ∃ r ∈ v.software, ∃ name, r.cpe = .string name ∧ m.cpe = .string (Text.strip name) := by
  rw [match?_eq_map_found?] at h
  obtain ⟨e, he, rfl⟩ := Option.map_eq_some_iff.1 h
  obtain ⟨r, hr, hentry⟩ := List.mem_filterMap.1 (engine.mem_of_found? (some c.vendor) (some c.product) he)
  obtain ⟨name, hname, -, -, rfl⟩ := SoftwareRecord.entryFor?_eq_some_iff.1 hentry
  refine ⟨r, hr, name, hname, ?_⟩
  change Json.string (Cpe.parse name).text = _
  rw [Cpe.parse]
  split
  · rfl
  · split <;> rfl

section

variable {writes : CodePoint → Bool} (hwrites : ∀ c : Char, writes (.char c) = true)

include hwrites

theorem Report.isWritable_previewText {s : Text} (hs : s.IsWritable writes) : (previewText s).IsWritable writes := by
  rw [previewText]
  split
  · exact Text.isWritable_append.2
      ⟨hs.of_subset (List.take_subset _ _), (Text.isEncodable_ofString _).isWritable hwrites⟩
  · exact hs

/-- **What is found can be shown if the data can be written.** -/
theorem Lookup.isShowable_of_mem_foundIn (l : Lookup) {s : Store} {data : List Json} (hs : s.HoldsGiven data)
    (hdata : ∀ v ∈ data, ∀ t ∈ Store.saidTexts v, t.IsWritable writes) {name : Text} {w : Vulnerability}
    (hw : w ∈ l.foundIn s name) : w.IsShowable writes := by
  rw [foundIn] at hw
  split at hw
  case isFalse => cases hw
  obtain ⟨key, v, m, hheld, hmatch, rfl⟩ := (l.mem_foundOn_iff hs.coherent name w).1 hw
  rw [hs.held_eq] at hheld
  obtain ⟨value, hvalue, hgiven⟩ := List.mem_filterMap.1 (Store.mem_of_lastUnder? hheld).1
  obtain ⟨id, hnames, hv, -⟩ := Store.score_of_given? hgiven
  have hid : id ∈ Store.saidTexts value := by
    refine List.mem_append_left _ (List.mem_append_left _ ?_)
    rw [hnames.1]
    exact List.mem_singleton_self id
  intro t ht
  rcases List.mem_cons.1 ht with rfl | ht
  · rw [hv]
    exact hdata value hvalue id hid
  rcases List.mem_append.1 ht with hcpe | hdescription
  · obtain ⟨r, hr, cpe, hcpe', hm⟩ := Engine.exists_cpe_of_match? hmatch
    change t ∈ m.cpe.text?.toList at hcpe
    rw [hm] at hcpe
    obtain rfl := List.mem_singleton.1 hcpe
    rw [hv] at hr
    obtain ⟨item, hitem, hrecord⟩ := List.mem_filterMap.1 hr
    refine Text.isWritable_strip (hdata value hvalue cpe (List.mem_append_right _ ?_))
    exact List.mem_filterMap.2 ⟨item, hitem, Store.listedName?_of_decodeRecord? hrecord hcpe'⟩
  · obtain ⟨d, hd, rfl⟩ := Option.map_eq_some_iff.1 (Option.mem_toList.1 hdescription)
    refine Report.isWritable_previewText hwrites ?_
    have hsaid : ((value.getD "description").orElse (.string Vulnerability.noDescription)).text? = some d := by
      rw [hv] at hd
      exact hd
    rw [Json.orElse] at hsaid
    split at hsaid
    · exact hdata value hvalue d (List.mem_append_left _ (List.mem_append_right _ (Option.mem_toList.2 hsaid)))
    · cases hsaid
      exact (Text.isEncodable_ofString _).isWritable hwrites

end

namespace Report

/-! ### Numbers -/

theorem isBare_ofChars {cs : List Char} (h : ∀ c ∈ cs, Text.isMark (.char c) = false) :
    (Text.ofChars cs).IsBare := by
  intro c hc
  obtain ⟨d, hd, rfl⟩ := List.mem_map.1 hc
  exact h d hd

/-- Digits and points are no markup. -/
theorem isMark_eq_false_of_isDigit {c : Char} (h : c.isDigit = true ∨ c = '.') : Text.isMark (.char c) = false := by
  by_contra hmark
  rw [Bool.not_eq_false] at hmark
  obtain rfl | rfl | rfl : c = '[' ∨ c = ']' ∨ c = '\\' := by simpa [Text.isMark, or_assoc] using hmark
  all_goals exact absurd h (by decide)

theorem isBare_toString (n : Nat) : Text.IsBare (toString n) := by
  refine isBare_ofChars fun c hc => isMark_eq_false_of_isDigit (Or.inl ?_)
  rw [Nat.toString_eq_repr, Nat.toList_repr] at hc
  exact Nat.isDigit_of_mem_toDigits (by decide) (by decide) hc

theorem isDigit_of_mem_unitsText {units places : Nat} {c : Char} (hc : c ∈ Number.unitsText units places) :
    c.isDigit = true ∨ c = '.' := by
  have hpadded : ∀ d ∈ List.replicate (places + 1 - (Nat.toDigits 10 units).length) '0' ++ Nat.toDigits 10 units,
      d.isDigit = true := by
    intro d hd
    rcases List.mem_append.1 hd with hd | hd
    · rw [(List.mem_replicate.1 hd).2]
      decide
    · exact Nat.isDigit_of_mem_toDigits (by decide) (by decide) hd
  simp only [Number.unitsText] at hc
  rcases List.mem_append.1 hc with hc | hc
  · exact Or.inl (hpadded c (List.mem_of_mem_take hc))
  · split at hc
    · cases hc
    · rcases List.mem_cons.1 hc with rfl | hc
      · exact Or.inr rfl
      · exact Or.inl (hpadded c (List.mem_of_mem_drop hc))

/-- Numbers with decimals are free of markup, and so are the names of those that have none. -/
theorem isBare_fixedText (x : Float) (places : Nat) : Text.IsBare (Number.fixedText x places) := by
  have hsigned : ∀ (negative : Bool) {body : List Char}, (∀ c ∈ body, Text.isMark (.char c) = false) →
      Text.IsBare (String.ofList (if negative then '-' :: body else body)) := by
    intro negative body hbody
    refine isBare_ofChars ?_
    rw [String.toList_ofList]
    cases negative with
    | false => exact hbody
    | true => exact List.forall_mem_cons.2 ⟨by decide, hbody⟩
  rw [Number.fixedText]
  refine hsigned _ ?_
  cases (Number.binaryOf x).magnitude with
  | nan => exact (by simp [Text.isMark] : ∀ c ∈ ['n', 'a', 'n'], Text.isMark (.char c) = false)
  | infinite => exact (by simp [Text.isMark] : ∀ c ∈ ['i', 'n', 'f'], Text.isMark (.char c) = false)
  | finite m e => exact fun c hc => isMark_eq_false_of_isDigit (isDigit_of_mem_unitsText hc)

/-! ### Reports -/

section

variable [Console] {writes : CodePoint → Bool} (hconsole : Console.Lawful writes)

include hconsole

/-- **The panel of a list can be printed.** -/
theorem isPrintable_of_counts {cpe : Text} (hcpe : cpe.IsWritable writes) {found : List Vulnerability}
    {time : Float} {p : Printed} (h : Counts cpe found time p) : p.IsPrintable writes := by
  obtain ⟨severities, -, rfl⟩ := h
  refine ⟨⟨?_, ?_⟩, ?_, ?_⟩
  · have hsplit : ∀ s t : Text, "Software: " ++ Console.escape cpe ++ s ++ t =
        "Software: " ++ Console.escape cpe ++ (s ++ t) := fun s t => Text.append_assoc _ s t
    simp only [hsplit]
    refine .around (by decide) cpe ?_
    simp only [Text.isBare_append, isBare_toString, isBare_fixedText, and_true]
    decide
  · rintro _ ⟨⟩
    refine .bare ?_
    split
    · decide
    · simp only [Text.isBare_append, isBare_toString]
      decide
  · simp [hconsole.isWritable_escape hcpe, hconsole.isWritable_ofString]
  · rintro _ ⟨⟩
    split <;> simp [hconsole.isWritable_ofString]

/-- What the row of a finding shows can be printed. -/
theorem isPrintable_of_showsFinding {w : Vulnerability} (hread : w.IsRead) (hw : w.IsShowable writes)
    {row : List Cell} (h : ShowsFinding w row) : ∀ cell ∈ row, cell.IsMarked ∧ cell.content.IsWritable writes := by
  obtain ⟨s, cpe, score, severity, hs, hcpe, hscore, -, rfl⟩ := h
  have hescape : ∀ t : Text, t.IsWritable writes →
      Cell.IsMarked (.text (Console.escape t)) ∧ (Cell.text (Console.escape t)).content.IsWritable writes :=
    fun t ht => ⟨Marked.escape t, hconsole.isWritable_escape ht⟩
  have hmatched : Cell.IsMarked (.text cpe) ∧ (Cell.text cpe).content.IsWritable writes := by
    rw [matchedText] at hcpe
    cases hfound : w.found with
    | none =>
        rw [hfound] at hcpe
        cases hcpe
        exact ⟨.bare (by decide), hconsole.isWritable_ofString "-"⟩
    | some m =>
        rw [hfound] at hcpe
        change escaped m.cpe = _ at hcpe
        cases hname : m.cpe with
        | string name =>
            rw [hname] at hcpe
            cases hcpe
            exact hescape name (hw.cpe hfound hname)
        | _ =>
            rw [hname] at hcpe
            cases hcpe
  have hmark : Cell.IsMarked (.text (if w.found.any (·.allPrior) then "Y" else Text.empty)) ∧
      (Cell.text (if w.found.any (·.allPrior) then "Y" else Text.empty)).content.IsWritable writes := by
    split
    · exact ⟨.bare (by decide), hconsole.isWritable_ofString "Y"⟩
    · exact ⟨.bare (by decide), Text.isWritable_empty⟩
  have hnumber : score.IsWritable writes := by
    rcases hread.score_eq with hnull | ⟨x, hx⟩
    · rw [hnull] at hscore
      cases hscore
      exact hconsole.isWritable_ofString "-"
    · rw [hx] at hscore
      cases hscore
      exact hconsole.isWritable_ofString (Number.fixedText x 1)
  simp only [List.forall_mem_cons, List.not_mem_nil, false_imp_iff, implies_true, and_true]
  exact ⟨hescape _ hw.id, hmatched, hmark, ⟨trivial, hnumber⟩, hescape _ (hw.description hs)⟩

/-- **The table of a list can be printed**, and so can what stands in its place if the list is empty. -/
theorem isPrintable_of_lists {found : List Vulnerability} (hread : ∀ w ∈ found, w.IsRead)
    (hfound : ∀ w ∈ found, w.IsShowable writes) {p : Printed} (h : Lists found p) : p.IsPrintable writes := by
  obtain ⟨rows, hrows, rfl⟩ := h
  split
  · exact ⟨⟨.bare (by decide), nofun⟩, hconsole.isWritable_ofString _, nofun⟩
  · have hcells : ∀ row ∈ rows, ∀ cell ∈ row, cell.IsMarked ∧ cell.content.IsWritable writes :=
      forall_mem_of_forall₂ hrows fun w hw row hrow =>
        isPrintable_of_showsFinding hconsole (hread w hw) (hfound w hw) hrow
    exact ⟨⟨by decide, by decide, fun row hrow cell hcell => (hcells row hrow cell hcell).1⟩,
      fun row hrow cell hcell => (hcells row hrow cell hcell).2⟩

end

/-! ### Times -/

section

variable [Console] {writes : CodePoint → Bool} (hwrites : ∀ c : Char, writes (.char c) = true)

include hwrites

/-- What the row of an operation shows can be printed, if its name can be, and its items are counted. -/
theorem isPrintable_of_timingRow {name : Text} {t : Timing.OperationTotals Float} (hbare : name.IsBare)
    (hname : name.IsEncodable) {n : Nat} (hn : t.items = .whole n) {row : List Cell}
    (h : timingRow name t = .ok row) : ∀ cell ∈ row, cell.IsMarked ∧ cell.content.IsWritable writes := by
  rw [timingRow, hn, numeral] at h
  split at h
  · cases h
  · cases h
    have hwritten : ∀ {s : Text}, s.IsEncodable → s.IsWritable writes := fun hs => hs.isWritable hwrites
    have hseconds : ∀ x : Float, Cell.IsMarked (.text (Number.fixedText x 4 ++ "s")) ∧
        Text.IsWritable writes (Number.fixedText x 4 ++ "s") := fun x =>
      ⟨.bare (Text.isBare_append.2 ⟨isBare_fixedText x 4, by decide⟩), hwritten (by simp)⟩
    simp only [List.forall_mem_cons, List.not_mem_nil, false_imp_iff, implies_true, and_true]
    exact ⟨⟨.bare hbare, hwritten hname⟩, ⟨.bare (isBare_toString _), hwritten (Text.isEncodable_ofString _)⟩,
      ⟨.bare (isBare_toString n), hwritten (Text.isEncodable_ofString _)⟩,
      hseconds _, hseconds _⟩

/-- **The times of operations can be printed**, if their names can be, and their items are counted. -/
theorem isPrintable_of_timings {s : Timing.Summary Float}
    (hs : ∀ t ∈ s.operations, t.1.IsBare ∧ t.1.IsEncodable ∧ ∃ n : Nat, t.2.items = .whole n)
    {times : List Printed} (h : timings (some s) = .ok times) : ∀ p ∈ times, p.IsPrintable writes := by
  rw [timings] at h
  obtain ⟨rows, hrows, h⟩ := exists_of_bind_eq_ok h
  cases h
  have hcells : ∀ row ∈ rows, ∀ cell ∈ row, cell.IsMarked ∧ cell.content.IsWritable writes := by
    refine forall_mem_of_forall₂ (forall₂_of_mapM_eq_ok hrows) fun t ht row hrow => ?_
    obtain ⟨hbare, hname, n, hn⟩ := hs t ht
    exact isPrintable_of_timingRow hwrites hbare hname hn hrow
  intro p hp
  obtain rfl := List.mem_singleton.1 hp
  exact ⟨⟨by decide, by decide, fun row hrow cell hcell => (hcells row hrow cell hcell).1⟩,
      fun row hrow cell hcell => (hcells row hrow cell hcell).2⟩

end

end Report

end CpeMatch
