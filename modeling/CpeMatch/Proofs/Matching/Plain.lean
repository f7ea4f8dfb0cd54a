import Mathlib.Data.List.Find
import CpeMatch.Matching
import CpeMatch.Proofs.Version.Order

/-!
**Matching by a plain procedure.**

Leaving out the entries of other release lines needs the greatest open range of the version's own line
and a count of the lines that have open ranges.  Neither has a say in the match: it is found as well by
looking for an entry that is exactly the version among all entries, and then for the first open range
that reaches up to it, among those of its own line if there are any.

Main definitions:

* `CpeMatch.Engine.applies` — whether a boundary rule applies to a vendor and product;
* `CpeMatch.ownRanges` — the open ranges of the version's own line;
* `CpeMatch.Engine.plainMatch?` — **the plain procedure**;
* `CpeMatch.Engine.searchAmong?` — the search among the entries that remain.

Main results:

* `CpeMatch.Engine.match?_eq_searchAmong?` — matching is a search among the entries that remain;
* `CpeMatch.Engine.searchAmong?_line` — which open range of the own line the others are compared with
  makes no difference;
* `CpeMatch.Engine.match?_eq_plain` — matching is the plain procedure;
* `CpeMatch.Engine.match?_isSome_of_mem` — a version matches wherever an entry has that version.
-/

set_option autoImplicit false

namespace CpeMatch

/-! ### The plain procedure -/

/-- The open ranges whose first token is that of `v`. -/
def ownRanges (v : Version) (entries : List Entry) : List Entry :=
  (openRanges entries).filter fun e => e.version.major = v.major

/-- Whether an entry is the single version `v`. -/
def Entry.isExactly (v : Version) (e : Entry) : Bool := !e.allPrior && e.version == v

namespace Engine

/-- Whether a boundary rule applies to a vendor and product. -/
def applies (engine : Engine) (vendor product : Option Text) : Bool :=
  engine.rules.any fun rule => rule.answer (.ofText? vendor) (.ofText? product) == some true

/-- The match of a version, found by looking at all entries in turn for each of the reasons to apply. -/
def plainMatch? (engine : Engine) (v : Version) (entries : List Entry) (vendor product : Option Text) :
    Option Match :=
  match entries.find? (·.isUnspecified) with
  | some e => some (Match.ofEntry e)
  | none =>
    if v.isUnspecified then (entries.find? (·.allPrior)).map Match.ofEntry
    else match entries.find? (·.isExactly v) with
      | some e => some (Match.ofEntry e)
      | none =>
        if ownRanges v entries ≠ [] then
          ((ownRanges v entries).find? fun e => v ≤ e.version).map Match.ofEntry
        else if engine.applies vendor product then none
        else ((openRanges entries).find? fun e => v ≤ e.version).map Match.ofEntry

/-- What is found among the entries that remain: the version itself, else the first open range that
reaches up to it. -/
def searchAmong? (engine : Engine) (v : Version) (vendor product : Option Text)
    (remaining : List Entry) : Option Match :=
  match remaining.find? (·.isExactly v) with
  | some e => some (Match.ofEntry e)
  | none =>
    Option.map Match.ofEntry <| Verdict.entry? (firstReaching (engine.applies vendor product) v remaining).2

/-! ### Boundary rules -/

/-- The rules have the answer whether one of them applies. -/
theorem keepsBoundary?_eq_applies (engine : Engine) (vendor product : Option Text) :
    engine.keepsBoundary? (.ofText? vendor) (.ofText? product) =
      some (engine.applies vendor product) := by
  obtain ⟨rules⟩ := engine
  simp only [keepsBoundary?, applies]
  induction rules with
  | nil => rfl
  | cons rule rest ih =>
      obtain ⟨answer, h⟩ := Option.isSome_iff_exists.1 (rule.answers vendor product)
      rw [anyApplies, h, List.any_cons, h]
      cases answer with
      | false => rw [ih]; rfl
      | true => rfl

end Engine

/-! ### The search among the entries that remain -/

/-- Whether an entry is an open range that reaches up to `v` and counts. -/
def Entry.reaches (bounded : Bool) (v : Version) (e : Entry) : Bool :=
  e.allPrior && decide (v ≤ e.version) && !(bounded && !e.version.sameMajor v)

/-- The search for an open range finds the first that reaches up to the version and counts. -/
theorem entry?_firstReaching (bounded : Bool) (v : Version) (entries : List Entry) :
    Verdict.entry? (firstReaching bounded v entries).2 = entries.find? (·.reaches bounded v) := by
  induction entries with
  | nil => rfl
  | cons e rest ih =>
      rw [firstReaching, List.find?_cons, Entry.reaches]
      cases hp : e.allPrior with
      | false => simpa using ih
      | true =>
          by_cases hlt : e.version < v
          · have hle : ¬ v ≤ e.version := fun h => (Version.not_lt_iff_le v e.version).2 h hlt
            simpa [hlt, hle] using ih
          · have hle : v ≤ e.version := (Version.not_lt_iff_le v e.version).1 hlt
            by_cases hb : (bounded && !e.version.sameMajor v) = true
            · simpa [hlt, hle, hb] using ih
            · simp [hlt, hle, hb, Verdict.entry?]

/-- The search for an open range always comes to a decision. -/
theorem fault?_firstReaching (bounded : Bool) (v : Version) (entries : List Entry) :
    (firstReaching bounded v entries).2.fault? = none := by
  induction entries with
  | nil => rfl
  | cons e rest ih =>
      rw [firstReaching]
      split
      · exact ih
      · split
        · exact ih
        · rfl

namespace Engine

variable (engine : Engine) (v : Version) (entries : List Entry) (vendor product : Option Text)

/-- Where vendor and product are texts or unknown, matching always comes to a decision. -/
theorem fault?_decide :
    (engine.decide v entries (.ofText? vendor) (.ofText? product)).fault? = none := by
  rw [decide, keepsBoundary?_eq_applies]
  cases entries.find? (·.isUnspecified) with
  | some e => rfl
  | none =>
      cases v.isUnspecified with
      | true => cases entries.find? (·.allPrior) <;> rfl
      | false =>
          simp only [Bool.false_eq_true, if_false]
          cases (restrict v entries).1.find? fun e => !e.allPrior && e.version == v with
          | some e => rfl
          | none => exact fault?_firstReaching _ v _

/-- The search as two searches in turn. -/
theorem searchAmong?_eq (remaining : List Entry) :
    engine.searchAmong? v vendor product remaining =
      ((remaining.find? (·.isExactly v)).or
        (remaining.find? (·.reaches (engine.applies vendor product) v))).map Match.ofEntry := by
  rw [searchAmong?, entry?_firstReaching]
  cases remaining.find? (·.isExactly v) <;> rfl

/-- **Matching is a search among the entries that remain**, where no entry is for every version and the
version is known. -/
theorem match?_eq_searchAmong? (hall : ∀ e ∈ entries, e.isUnspecified = false)
    (hv : v.isUnspecified = false) :
    engine.match? v entries (.ofText? vendor) (.ofText? product) =
      engine.searchAmong? v vendor product (restrict v entries).1 := by
  have hnone : entries.find? (·.isUnspecified) = none := by
    rw [List.find?_eq_none]
    intro e he
    rw [hall e he]
    decide
  rw [match?, decide, hnone, hv, keepsBoundary?_eq_applies, searchAmong?]
  simp only [Bool.false_eq_true, if_false, Entry.isExactly]
  cases (restrict v entries).1.find? fun e => !e.allPrior && e.version == v <;> rfl

end Engine

/-! ### Open ranges of the version's own line -/

section

variable {v : Version} {entries : List Entry}

theorem mem_ownRanges {e : Entry} :
    e ∈ ownRanges v entries ↔ e ∈ entries ∧ e.allPrior = true ∧ e.version.major = v.major := by
  rw [ownRanges, openRanges, List.mem_filter, List.mem_filter, decide_eq_true_iff, and_assoc]

/-- Looking among the open ranges of the own line is looking among all entries for one of them. -/
theorem find?_ownRanges (p : Entry → Bool) :
    (ownRanges v entries).find? p =
      entries.find? fun e => e.allPrior && decide (e.version.major = v.major) && p e := by
  rw [ownRanges, openRanges, List.find?_filter, List.find?_filter]
  simp only [Bool.and_assoc, Bool.decide_and, Bool.decide_eq_true]

/-- With a specified version, the open ranges of one line with it are those of its own line. -/
theorem filter_sameMajor_openRanges (hv : v.isUnspecified = false) :
    (openRanges entries).filter (·.version.sameMajor v) = ownRanges v entries := by
  refine List.filter_congr ?_
  intro e _
  exact Version.sameMajor_eq_decide e.version hv

/-- The first item whose version is greatest is one of the items. -/
theorem mem_of_greatestBy? {α : Type} {version : α → Version} {items : List α} {x : α}
    (h : Version.greatestBy? version items = some x) : x ∈ items := by
  cases items with
  | nil => cases h
  | cons y ys =>
      rw [Version.greatestBy?, Option.some_inj] at h
      -- whatever has been compared so far, the best of it is an item
      have hfold : ∀ (zs : List α) (best : α), best ∈ y :: ys → zs ⊆ y :: ys →
          zs.foldl (fun best z => if version best < version z then z else best) best ∈ y :: ys := by
        intro zs
        induction zs with
        | nil => intro best hbest _; exact hbest
        | cons z zs ih =>
            intro best hbest hzs
            obtain ⟨hz, hzs⟩ := List.cons_subset.1 hzs
            rw [List.foldl_cons]
            split
            · exact ih z hz hzs
            · exact ih best hbest hzs
      rw [← h]
      exact hfold ys y (List.mem_cons_self ..) (List.subset_cons_self ..)

theorem exists_greatestBy? {α : Type} (version : α → Version) {items : List α} (h : items ≠ []) :
    ∃ x, Version.greatestBy? version items = some x := by
  cases items with
  | nil => exact absurd rfl h
  | cons y ys => exact ⟨_, rfl⟩

/-- Where open ranges belong to one line at most, any two of them have the same first token. -/
theorem major_eq_of_openLines (h : ¬ 1 < openLines entries) {e a : Entry}
    (he : e ∈ openRanges entries) (ha : a ∈ openRanges entries) :
    e.version.major = a.version.major := by
  have hmem : ∀ x ∈ openRanges entries,
      x.version.major ∈ ((openRanges entries).map (·.version.major)).eraseDups := by
    intro x hx
    rw [List.mem_eraseDups]
    exact List.mem_map_of_mem hx
  rw [openLines, Nat.not_lt] at h
  have he' := hmem e he
  have ha' := hmem a ha
  generalize ((openRanges entries).map (·.version.major)).eraseDups = lines at h he' ha'
  match lines with
  | [] => cases he'
  | [line] => rw [List.mem_singleton.1 he', List.mem_singleton.1 ha']
  | _ :: _ :: _ => simp at h

/-! ### What remains, and what is found there -/

/-- Without open ranges of the own line all entries remain. -/
theorem restrict_of_ownRanges_eq_nil (hv : v.isUnspecified = false) (h : ownRanges v entries = []) :
    (restrict v entries).1 = entries := by
  have hanchor : anchor? v entries = none := by
    rw [anchor?, filter_sameMajor_openRanges hv, h]
    rfl
  simp only [restrict, hanchor]

/-- With an open range of the own line, the line of one of them remains, or else all open ranges are of
the own line and all entries remain. -/
theorem restrict_of_ownRanges_ne_nil (hv : v.isUnspecified = false) (h : ownRanges v entries ≠ []) :
    ∃ a ∈ ownRanges v entries,
      (restrict v entries).1 = entries.filter (·.version.sameMajor a.version) ∨
        (restrict v entries).1 = entries ∧ ¬ 1 < openLines entries := by
  obtain ⟨a, ha⟩ := exists_greatestBy? (·.version) h
  refine ⟨a, mem_of_greatestBy? ha, ?_⟩
  have hanchor : anchor? v entries = some a := by
    rw [anchor?, filter_sameMajor_openRanges hv, ha]
  by_cases hlines : 1 < openLines entries
  · exact Or.inl (by simp only [restrict, hanchor, hlines, if_true])
  · exact Or.inr ⟨by simp only [restrict, hanchor, hlines, if_false], hlines⟩

/-- No entry that is exactly the version belongs to another line. -/
theorem find?_isExactly_line (hv : v.isUnspecified = false) {a : Entry}
    (ha : a.version.major = v.major) :
    (entries.filter (·.version.sameMajor a.version)).find? (·.isExactly v) =
      entries.find? (·.isExactly v) := by
  have ha' : a.version.isUnspecified = false := by
    rwa [Version.isUnspecified_eq_of_major_eq ha]
  rw [List.find?_filter]
  refine List.find?_congr ?_
  intro e _
  rw [Bool.eq_iff_iff, decide_eq_true_iff]
  refine ⟨fun h => h.2, fun h => ⟨?_, h⟩⟩
  have hmajor : e.version.major = v.major :=
    Version.major_eq_of_beq (Bool.and_eq_true_iff.1 h).2
  rw [Version.sameMajor_eq_decide e.version ha', ha, hmajor]
  exact decide_eq_true rfl

/-- Of the own line, the open ranges that reach up to the version all count. -/
theorem find?_reaches_line (bounded : Bool) (hv : v.isUnspecified = false) {a : Entry}
    (ha : a.version.major = v.major) :
    (entries.filter (·.version.sameMajor a.version)).find? (·.reaches bounded v) =
      (ownRanges v entries).find? fun e => v ≤ e.version := by
  have ha' : a.version.isUnspecified = false := by
    rwa [Version.isUnspecified_eq_of_major_eq ha]
  rw [List.find?_filter, find?_ownRanges]
  refine List.find?_congr ?_
  intro e _
  rw [Version.sameMajor_eq_decide e.version ha', ha, Entry.reaches,
    Version.sameMajor_eq_decide e.version hv]
  by_cases hmajor : e.version.major = v.major <;> simp [hmajor]

/-- Where all open ranges are of the own line, those that reach up to the version all count. -/
theorem find?_reaches_of_openLines (bounded : Bool) (hv : v.isUnspecified = false) {a : Entry}
    (ha : a ∈ ownRanges v entries) (h : ¬ 1 < openLines entries) :
    entries.find? (·.reaches bounded v) = (ownRanges v entries).find? fun e => v ≤ e.version := by
  obtain ⟨hmem, hprior, hmajor⟩ := mem_ownRanges.1 ha
  rw [find?_ownRanges]
  refine List.find?_congr ?_
  intro e he
  rw [Entry.reaches, Version.sameMajor_eq_decide e.version hv]
  cases hp : e.allPrior with
  | false => rfl
  | true =>
      have heq : e.version.major = v.major :=
        (major_eq_of_openLines h (List.mem_filter.2 ⟨he, hp⟩)
          (List.mem_filter.2 ⟨hmem, hprior⟩)).trans hmajor
      simp [heq]

/-- Without open ranges of the own line, a boundary rule keeps every other from counting. -/
theorem find?_reaches_of_ownRanges_eq_nil (bounded : Bool) (hv : v.isUnspecified = false)
    (h : ownRanges v entries = []) :
    entries.find? (·.reaches bounded v) =
      if bounded then none else (openRanges entries).find? fun e => v ≤ e.version := by
  have hother : ∀ e ∈ entries, e.allPrior = true → e.version.major ≠ v.major := by
    intro e he hp hmajor
    have hmem : e ∈ ownRanges v entries := mem_ownRanges.2 ⟨he, hp, hmajor⟩
    rw [h] at hmem
    cases hmem
  cases bounded with
  | true =>
      rw [if_pos rfl, List.find?_eq_none]
      intro e he hreaches
      rw [Entry.reaches, Version.sameMajor_eq_decide e.version hv] at hreaches
      cases hp : e.allPrior with
      | false => simp [hp] at hreaches
      | true => simp [hother e he hp] at hreaches
  | false =>
      rw [if_neg Bool.false_ne_true, openRanges, List.find?_filter]
      refine List.find?_congr ?_
      intro e _
      simp [Entry.reaches]

end

/-! ### Matching is the plain procedure -/

namespace Engine

variable (engine : Engine) {v : Version} {entries : List Entry} (vendor product : Option Text)

/-- The plain procedure where no entry is for every version and the version is known. -/
theorem plainMatch?_of_specified (hall : ∀ e ∈ entries, e.isUnspecified = false)
    (hv : v.isUnspecified = false) :
    engine.plainMatch? v entries vendor product =
      ((entries.find? (·.isExactly v)).or
        (if ownRanges v entries ≠ [] then (ownRanges v entries).find? fun e => v ≤ e.version
        else if engine.applies vendor product then none
        else (openRanges entries).find? fun e => v ≤ e.version)).map Match.ofEntry := by
  have hnone : entries.find? (·.isUnspecified) = none := by
    rw [List.find?_eq_none]
    intro e he
    rw [hall e he]
    exact Bool.false_ne_true
  rw [plainMatch?, hnone, hv]
  simp only [Bool.false_eq_true, if_false]
  cases entries.find? (·.isExactly v) with
  | some e => rfl
  | none =>
      rw [Option.none_or]
      by_cases hown : ownRanges v entries ≠ []
      · simp only [if_pos hown]
      · cases happlies : engine.applies vendor product <;> simp [hown]

/-- **Which open range of the own line the others are compared with makes no difference**, nor does
how many lines have open ranges: the search among the entries of its line is the plain procedure. -/
theorem searchAmong?_line (hall : ∀ e ∈ entries, e.isUnspecified = false)
    (hv : v.isUnspecified = false) {a : Entry} (ha : a ∈ ownRanges v entries) :
    engine.searchAmong? v vendor product (entries.filter (·.version.sameMajor a.version)) =
      engine.plainMatch? v entries vendor product := by
  obtain ⟨-, -, hmajor⟩ := mem_ownRanges.1 ha
  rw [searchAmong?_eq, find?_isExactly_line hv hmajor, find?_reaches_line _ hv hmajor,
    plainMatch?_of_specified engine vendor product hall hv, if_pos (List.ne_nil_of_mem ha)]

/-- The search among the entries that remain is the plain procedure. -/
theorem searchAmong?_restrict (hall : ∀ e ∈ entries, e.isUnspecified = false)
    (hv : v.isUnspecified = false) :
    engine.searchAmong? v vendor product (restrict v entries).1 =
      engine.plainMatch? v entries vendor product := by
  by_cases hown : ownRanges v entries = []
  · rw [restrict_of_ownRanges_eq_nil hv hown, searchAmong?_eq,
      find?_reaches_of_ownRanges_eq_nil _ hv hown,
      plainMatch?_of_specified engine vendor product hall hv, if_neg (not_not.2 hown)]
  · obtain ⟨a, ha, hline | ⟨hsame, hlines⟩⟩ := restrict_of_ownRanges_ne_nil hv hown
    · rw [hline, searchAmong?_line engine vendor product hall hv ha]
    · rw [hsame, searchAmong?_eq, find?_reaches_of_openLines _ hv ha hlines,
        plainMatch?_of_specified engine vendor product hall hv, if_pos hown]

/-- Matching is the plain procedure. -/
theorem match?_eq_plainMatch? (v : Version) (entries : List Entry) :
    engine.match? v entries (.ofText? vendor) (.ofText? product) =
      engine.plainMatch? v entries vendor product := by
  cases hfind : entries.find? (·.isUnspecified) with
  | some e =>
      rw [match?, decide, hfind, plainMatch?, hfind]
      rfl
  | none =>
      have hall : ∀ e ∈ entries, e.isUnspecified = false := by
        intro e he
        exact Bool.not_eq_true _ ▸ List.find?_eq_none.1 hfind e he
      cases hv : v.isUnspecified with
      | false => rw [match?_eq_searchAmong? engine v entries vendor product hall hv,
          searchAmong?_restrict engine vendor product hall hv]
      | true =>
          rw [match?, decide, hfind, hv, plainMatch?, hfind, hv]
          simp only [if_true]
          cases entries.find? (·.allPrior) <;> rfl

/-- Against no entries there is no match. -/
theorem match?_nil (v : Version) : engine.match? v [] (.ofText? vendor) (.ofText? product) = none := by
  rw [match?_eq_plainMatch?]
  simp [plainMatch?, ownRanges, openRanges]

/-- An entry of the version that is matched makes it match, whatever other entries there are. -/
theorem match?_isSome_of_mem {v : Version} {entries : List Entry} {e : Entry} (he : e ∈ entries)
    (hev : (e.version == v) = true) :
    (engine.match? v entries (.ofText? vendor) (.ofText? product)).isSome = true := by
  rw [match?_eq_plainMatch?]
  cases hfind : entries.find? (·.isUnspecified) with
  | some a =>
      rw [plainMatch?, hfind]
      rfl
  | none =>
      have hall : ∀ a ∈ entries, a.isUnspecified = false := by
        intro a ha
        exact Bool.eq_false_of_not_eq_true (List.find?_eq_none.1 hfind a ha)
      have hmajor : e.version.major = v.major := Version.major_eq_of_beq hev
      have hv : v.isUnspecified = false := by
        rw [← Version.isUnspecified_eq_of_major_eq hmajor]
        exact hall e he
      rw [plainMatch?_of_specified engine vendor product hall hv, Option.isSome_map, Option.isSome_or,
        Bool.or_eq_true]
      cases hp : e.allPrior with
      | false =>
          refine Or.inl (List.find?_isSome.2 ⟨e, he, ?_⟩)
          rw [Entry.isExactly, hp, hev]
          rfl
      | true =>
          have hown : e ∈ ownRanges v entries := mem_ownRanges.2 ⟨he, hp, hmajor⟩
          rw [if_pos (List.ne_nil_of_mem hown)]
          refine Or.inr (List.find?_isSome.2 ⟨e, hown, decide_eq_true ?_⟩)
          exact Version.le_of_beq hev

end Engine

/-- Leaving out other lines does not leave out an entry that is exactly the version. -/
theorem mem_restrict_of_isExactly {v : Version} {entries : List Entry} {e : Entry}
    (he : e ∈ entries) (hexact : e.isExactly v = true) : e ∈ (restrict v entries).1 := by
  have hmajor : e.version.major = v.major :=
    Version.major_eq_of_beq (Bool.and_eq_true_iff.1 hexact).2
  cases hanchor : anchor? v entries with
  | none => simpa only [restrict, hanchor] using he
  | some a =>
      have ha : a.version.sameMajor v = true := (List.mem_filter.1 (mem_of_greatestBy? hanchor)).2
      by_cases hlines : 1 < openLines entries
      · simp only [restrict, hanchor, hlines, if_true]
        obtain ⟨hspecified, hav⟩ := (Version.sameMajor_iff a.version v).1 ha
        refine List.mem_filter.2 ⟨he, ?_⟩
        rw [Version.sameMajor_eq_decide e.version hspecified, hmajor, hav]
        exact decide_eq_true rfl
      · simpa only [restrict, hanchor, hlines, if_false] using he

/-- **Matching is the plain procedure.**  Wherever an open range of the own line is chosen to compare the
others with, the search among the entries of its line gives the match, however many lines have open
ranges; and leaving out other lines never hides an entry that is exactly the version. -/
theorem Engine.match?_eq_plain (engine : Engine) (v : Version) (entries : List Entry)
    (vendor product : Option Text) :
    engine.match? v entries (.ofText? vendor) (.ofText? product) =
        engine.plainMatch? v entries vendor product ∧
      ((∀ e ∈ entries, e.isUnspecified = false) → v.isUnspecified = false →
        ∀ a ∈ ownRanges v entries,
          engine.match? v entries (.ofText? vendor) (.ofText? product) =
            engine.searchAmong? v vendor product
              (entries.filter (·.version.sameMajor a.version))) ∧
      ∀ e ∈ entries, e.isExactly v = true → e ∈ (restrict v entries).1 := by
  refine ⟨engine.match?_eq_plainMatch? vendor product v entries, ?_, ?_⟩
  · intro hall hv a ha
    rw [engine.match?_eq_plainMatch?, engine.searchAmong?_line vendor product hall hv ha]
  · intro e he hexact
    exact mem_restrict_of_isExactly he hexact

/-- Version 2.0 beside the ranges up to 3.0 and up to 2.1 and the single version 2.0: the single version
is found, also when the entries of the line of 2.1 alone are looked at. -/
theorem Engine.match?_eq_plain_two_lines :
    let v : Version := ⟨"2.0", [.number 2, .number 0]⟩
    let other : Entry := ⟨"cpe:/a:v:p:3.0", "v", "p", "3.0", ⟨"3.0", [.number 3, .number 0]⟩, .bool true⟩
    let own : Entry := ⟨"cpe:/a:v:p:2.1", "v", "p", "2.1", ⟨"2.1", [.number 2, .number 1]⟩, .bool true⟩
    let single : Entry := ⟨"cpe:/a:v:p:2.0", "v", "p", "2.0", ⟨"2.0", [.number 2, .number 0]⟩, .bool false⟩
    let entries := [other, own, single]
    Engine.standard.match? v entries (.ofText? (some "v")) (.ofText? (some "p")) =
        some (Match.ofEntry single) ∧
      Engine.standard.match? v entries (.ofText? (some "v")) (.ofText? (some "p")) =
        Engine.standard.searchAmong? v (some "v") (some "p")
          (entries.filter (·.version.sameMajor own.version)) ∧
      single ∈ (restrict v entries).1 := by
  intro v other own single entries
  have hown : own ∈ ownRanges v entries := List.mem_cons_self ..
  have hsingle : single ∈ entries := by simp [entries]
  have hall : ∀ e ∈ entries, e.isUnspecified = false := by
    intro e he
    simp only [entries, List.mem_cons, List.not_mem_nil, or_false] at he
    rcases he with rfl | rfl | rfl <;> rfl
  have h := Engine.match?_eq_plain Engine.standard v entries (some "v") (some "p")
  exact ⟨h.1.trans rfl, h.2.1 hall rfl own hown, h.2.2 single hsingle rfl⟩

end CpeMatch
