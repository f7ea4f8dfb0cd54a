import CpeMatch.Proofs.Matching.Losing

/-!
**How far open ranges reach.**

An open range covers its version and all earlier ones, but not always: an open range of the version's own
line keeps those of all other lines from counting, and so does a boundary rule.  Both say only which ranges
count.  So a further boundary rule never makes another range be found than the one found without it; it can
only leave nothing to be found, and only where a range of another line has been found.  And a range that
covers some version covers the earlier ones of this line too, and those of other lines wherever neither of
the two keeps it from counting.

Main definitions:

* `CpeMatch.Engine.addRules` — the engine with further rules;
* `CpeMatch.Engine.CutOffBy` — the situation in which further rules lose a match;
* `CpeMatch.Engine.StopsAbove` — the situation in which a range that covers a version does not reach down to
  an earlier one.

Main results:

* `CpeMatch.Engine.found?_congr` — what is found depends on the rules only through whether one applies;
* `CpeMatch.Engine.match?_addRules` — **further rules only ever remove matches across release lines**;
* `CpeMatch.Engine.match?_of_le` — **an open range reaches down to every earlier version that its release
  line allows**.
-/

set_option autoImplicit false

namespace CpeMatch

/-! ### Which open ranges reach a version -/

theorem hasOwnRange_congr {v w : Version} (h : v.major = w.major) (entries : List Entry) :
    hasOwnRange v entries = hasOwnRange w entries := by
  rw [hasOwnRange, hasOwnRange, h]

namespace Entry

variable {v w : Version} {e : Entry}

/-- An open range that ends at or above the version reaches it, if it is of the version's line or other lines
count. -/
theorem reaches_iff (hv : v.isUnspecified = false) (bounded : Bool) (e : Entry) :
    e.reaches bounded v = true ↔
      e.allPrior = true ∧ v ≤ e.version ∧ (bounded = true → e.version.major = v.major) := by
  rw [reaches, Version.sameMajor_eq_decide e.version hv]
  cases bounded <;> simp [and_assoc]

theorem kind_eq_openRange_of_ne (h : e.isUnspecified = false) (hkind : e.kind ≠ .single) :
    e.kind = .openRange := by
  rw [kind_eq_openRange_iff]
  refine ⟨h, ?_⟩
  cases hp : e.allPrior with
  | true => rfl
  | false => exact absurd (kind_of_not_allPrior h hp) hkind

/-- What reaches a version reaches an earlier one, unless it is of another line and other lines do not
count there. -/
theorem reaches_of_le (hv : v.isUnspecified = false) (hw : w.isUnspecified = false) (hle : v ≤ w)
    {bounded bounded' : Bool} (h : e.reaches bounded w = true)
    (hline : bounded' = true → e.version.major = v.major) : e.reaches bounded' v = true := by
  obtain ⟨hp, hend, _⟩ := (reaches_iff hw bounded e).1 h
  exact (reaches_iff hv bounded' e).2 ⟨hp, Version.le_trans hle hend, hline⟩

end Entry

namespace Engine

variable (engine : Engine) {v w : Version} {entries : List Entry} (vendor product : Option Text)

/-- An open range that is found for a known version reaches it. -/
theorem reaches_of_found? {e : Entry} (hw : w.isUnspecified = false)
    (he : engine.found? w entries (.ofText? vendor) (.ofText? product) = some e)
    (hkind : e.kind = .openRange) :
    e.reaches (hasOwnRange w entries || engine.applies vendor product) w = true := by
  obtain ⟨hall, hexact⟩ := engine.any_of_found?_openRange vendor product hw he hkind
  rw [found?_of_specified engine vendor product (List.find?_eq_none.2 (List.any_eq_false.1 hall)) hw,
    List.find?_eq_none.2 (List.any_eq_false.1 hexact), Option.none_or] at he
  exact List.find?_some he

/-! ### Further boundary rules -/

/-- The engine with further rules, one after another. -/
def addRules (engine : Engine) (added : List BoundaryRule) : Engine := added.foldl addRule engine

theorem rules_addRules (added : List BoundaryRule) :
    (engine.addRules added).rules = engine.rules ++ added := by
  induction added generalizing engine with
  | nil => rw [List.append_nil]; rfl
  | cons rule rest ih =>
      have hrest : (engine.addRules (rule :: rest)).rules = (engine.addRule rule).rules ++ rest := ih _
      rw [hrest, addRule, List.append_assoc, List.singleton_append]

/-- Of the rules before and the further ones, one applies where one of either does. -/
theorem applies_addRules (added : List BoundaryRule) :
    (engine.addRules added).applies vendor product =
      (engine.applies vendor product || (Engine.mk added).applies vendor product) := by
  rw [applies, rules_addRules, List.any_append]
  rfl

theorem applies_eq_true_iff (rules : List BoundaryRule) :
    (Engine.mk rules).applies vendor product = true ↔
      ∃ rule ∈ rules, rule.answer (.ofText? vendor) (.ofText? product) = some true := by
  simp only [applies, List.any_eq_true, beq_iff_eq]

/-- The situation in which further rules lose the match of a version: it has been with an open range of
another line, the version's own line has none, and the rules set the first boundary for the product. -/
structure CutOffBy (engine : Engine) (added : List BoundaryRule) (v : Version) (entries : List Entry)
    (vendor product : Option Text) : Prop where
  known : v.isUnspecified = false
  otherLine : ∃ a, engine.found? v entries (.ofText? vendor) (.ofText? product) = some a ∧
    a.kind = .openRange ∧ a.version.major ≠ v.major
  noOwnRange : ownRanges v entries = []
  noBoundary : engine.applies vendor product = false
  boundary : ∃ rule ∈ added, rule.answer (.ofText? vendor) (.ofText? product) = some true

/-- Two engines find the same entry wherever they agree on which open ranges count. -/
theorem found?_congr {other : Engine}
    (h : v.isUnspecified = false →
      (hasOwnRange v entries || other.applies vendor product) =
        (hasOwnRange v entries || engine.applies vendor product)) :
    other.found? v entries (.ofText? vendor) (.ofText? product) =
      engine.found? v entries (.ofText? vendor) (.ofText? product) := by
  cases hall : entries.find? (·.isUnspecified) with
  | some e => rw [found?_of_everyVersion _ _ _ hall, found?_of_everyVersion _ _ _ hall]
  | none =>
      cases hv : v.isUnspecified with
      | true => rw [found?_of_unknown _ _ _ hall hv, found?_of_unknown _ _ _ hall hv]
      | false => rw [found?_of_specified _ _ _ hall hv, found?_of_specified _ _ _ hall hv, h hv]

/-- Further rules change what is found only where they set the first boundary and the version's own line has
no open range. -/
theorem bounded_of_found?_addRules_ne {added : List BoundaryRule}
    (hne : (engine.addRules added).found? v entries (.ofText? vendor) (.ofText? product) ≠
      engine.found? v entries (.ofText? vendor) (.ofText? product)) :
    v.isUnspecified = false ∧ hasOwnRange v entries = false ∧
      engine.applies vendor product = false ∧ (Engine.mk added).applies vendor product = true := by
  have hdiffer := mt (engine.found?_congr vendor product) hne
  rw [Classical.not_imp, applies_addRules] at hdiffer
  obtain ⟨hv, hdiffer⟩ := hdiffer
  refine ⟨hv, ?_⟩
  revert hdiffer
  cases hasOwnRange v entries <;> cases engine.applies vendor product <;>
    cases (Engine.mk added).applies vendor product <;> simp

/-- Further rules that change what is found leave nothing to be found, and cut an open range of another line
off. -/
theorem cutOffBy_of_found?_addRules_ne {added : List BoundaryRule}
    (hne : (engine.addRules added).found? v entries (.ofText? vendor) (.ofText? product) ≠
      engine.found? v entries (.ofText? vendor) (.ofText? product)) :
    (engine.addRules added).found? v entries (.ofText? vendor) (.ofText? product) = none ∧
      engine.CutOffBy added v entries vendor product := by
  obtain ⟨hv, hown, happlies, hadded⟩ := engine.bounded_of_found?_addRules_ne vendor product hne
  have hnil := (hasOwnRange_eq_false_iff v entries).1 hown
  cases hall : entries.find? (·.isUnspecified) with
  | some e =>
      rw [found?_of_everyVersion _ _ _ hall, found?_of_everyVersion _ _ _ hall] at hne
      exact absurd rfl hne
  | none =>
      have hafter : (engine.addRules added).found? v entries (.ofText? vendor) (.ofText? product) =
          entries.find? (·.isExactly v) := by
        rw [found?_of_specified _ _ _ hall hv, applies_addRules, hadded, Bool.or_true, Bool.or_true,
          find?_reaches_of_ownRanges_eq_nil _ hv hnil]
        exact Option.or_none
      have hbefore : engine.found? v entries (.ofText? vendor) (.ofText? product) =
          (entries.find? (·.isExactly v)).or (entries.find? (·.reaches false v)) := by
        rw [found?_of_specified _ _ _ hall hv, hown, happlies]
        rfl
      rw [hafter, hbefore] at hne
      rw [hafter]
      cases hexact : entries.find? (·.isExactly v) with
      | some e =>
          rw [hexact] at hne
          exact absurd rfl hne
      | none =>
          refine ⟨rfl, ?_⟩
          have hreaches : entries.any (·.reaches false v) = true := by
            rw [hexact, Option.none_or] at hne
            rw [← List.isSome_find?]
            exact Option.isSome_iff_ne_none.2 hne.symm
          exact
            { known := hv
              otherLine := engine.exists_found?_of_otherLine vendor product
                (List.any_eq_false.2 (List.find?_eq_none.1 hall)) hv
                (List.any_eq_false.2 (List.find?_eq_none.1 hexact)) hown happlies hreaches
              noOwnRange := hnil
              noBoundary := happlies
              boundary := (applies_eq_true_iff vendor product added).1 hadded }

/-- In that situation the further rules do lose the match. -/
theorem CutOffBy.lost {added : List BoundaryRule} (h : engine.CutOffBy added v entries vendor product) :
    engine.found? v entries (.ofText? vendor) (.ofText? product) ≠ none ∧
      (engine.addRules added).found? v entries (.ofText? vendor) (.ofText? product) = none := by
  obtain ⟨a, ha, hkind, _⟩ := h.otherLine
  obtain ⟨hall, hexact⟩ := engine.any_of_found?_openRange vendor product h.known ha hkind
  refine ⟨by rw [ha]; exact Option.some_ne_none a, ?_⟩
  rw [found?_of_specified _ _ _ (List.find?_eq_none.2 (List.any_eq_false.1 hall)) h.known,
    List.find?_eq_none.2 (List.any_eq_false.1 hexact), applies_addRules,
    (applies_eq_true_iff vendor product added).2 h.boundary, Bool.or_true, Bool.or_true,
    find?_reaches_of_ownRanges_eq_nil _ h.known h.noOwnRange]
  rfl

/-- **Further boundary rules only ever remove matches across release lines.**  With any further rules a
version has the very same match as before or none.  It has had a match and has none if and only if it is
known, the match has been with an open range of another line, no open range is of its own line, and one of the
further rules applies to the product while none before did. -/
theorem match?_addRules (added : List BoundaryRule) (v : Version) (entries : List Entry) :
    let before := engine.match? v entries (.ofText? vendor) (.ofText? product)
    let after := (engine.addRules added).match? v entries (.ofText? vendor) (.ofText? product)
    (after = before ∨ after = none) ∧
      (before ≠ none ∧ after = none ↔ engine.CutOffBy added v entries vendor product) := by
  intro before after
  by_cases hsame : (engine.addRules added).found? v entries (.ofText? vendor) (.ofText? product) =
      engine.found? v entries (.ofText? vendor) (.ofText? product)
  · have heq : after = before := congrArg (Option.map Match.ofEntry) hsame
    refine ⟨Or.inl heq, ?_⟩
    constructor
    · rintro ⟨hbefore, hafter⟩
      exact absurd (heq.symm.trans hafter) hbefore
    · intro h
      obtain ⟨hfound, hlost⟩ := h.lost engine vendor product
      exact absurd (hsame.symm.trans hlost) hfound
  · obtain ⟨hnone, hcut⟩ := engine.cutOffBy_of_found?_addRules_ne vendor product hsame
    have hafter : after = none := congrArg (Option.map Match.ofEntry) hnone
    refine ⟨Or.inr hafter, fun _ => hcut, fun _ => ⟨?_, hafter⟩⟩
    obtain ⟨a, ha, _⟩ := hcut.otherLine
    have hbefore : before = some (Match.ofEntry a) := congrArg (Option.map Match.ofEntry) ha
    rw [hbefore]
    exact Option.some_ne_none _

/-- Version 2.5 lies in the range up to 3.0.  A rule for the product cuts this range off, unless the range up
to 2.6 is there as well, which is found then with and without the rule. -/
theorem match?_addRules_otherLine :
    let v : Version := ⟨"2.5", [.number 2, .number 5]⟩
    let other : Entry := ⟨"cpe:/a:v:p:3.0", "v", "p", "3.0", ⟨"3.0", [.number 3, .number 0]⟩, .bool true⟩
    let own : Entry := ⟨"cpe:/a:v:p:2.6", "v", "p", "2.6", ⟨"2.6", [.number 2, .number 6]⟩, .bool true⟩
    let bounded := Engine.standard.addRules [BoundaryRule.ofProduct "V" "p"]
    Engine.standard.CutOffBy [BoundaryRule.ofProduct "V" "p"] v [other] (some "v") (some "p") ∧
      Engine.standard.match? v [other] (.string "v") (.string "p") = some (Match.ofEntry other) ∧
      bounded.match? v [other] (.string "v") (.string "p") = none ∧
      bounded.match? v [other, own] (.string "v") (.string "p") = some (Match.ofEntry own) := by
  intro v other own bounded
  have hmatch : Engine.standard.match? v [other] (.string "v") (.string "p") =
      some (Match.ofEntry other) := rfl
  have hnone : bounded.match? v [other] (.string "v") (.string "p") = none := rfl
  have hcut := (Engine.standard.match?_addRules (some "v") (some "p")
    [BoundaryRule.ofProduct "V" "p"] v [other]).2
  exact ⟨hcut.1 ⟨hmatch ▸ Option.some_ne_none _, hnone⟩, hmatch, hnone, rfl⟩

/-! ### Earlier versions -/

/-- The situation in which a range that covers `w` does not reach down to the earlier version `v`: the two are
of different lines, no entry is for every version or exactly `v`, and other lines do not count for `v`, since
its own line has open ranges, all of which end below it, or since a boundary rule applies. -/
structure StopsAbove (engine : Engine) (v w : Version) (entries : List Entry)
    (vendor product : Option Text) : Prop where
  otherLine : v.major ≠ w.major
  noneForEvery : entries.any (·.isUnspecified) = false
  noneExactly : entries.any (·.isExactly v) = false
  ownCounts : ownRanges v entries ≠ [] ∨ engine.applies vendor product = true
  below : ∀ a ∈ ownRanges v entries, a.version < v

/-- There is no match under a boundary if all open ranges of the own line end below the version. -/
theorem any_reaches_eq_false_iff (hv : v.isUnspecified = false) :
    entries.any (·.reaches true v) = false ↔ ∀ a ∈ ownRanges v entries, a.version < v := by
  rw [← List.isSome_find?, ← find?_ownRanges_eq_reaches hv, List.isSome_find?, List.any_eq_false]
  refine forall₂_congr fun a _ => ?_
  rw [decide_eq_true_iff, ← Version.not_lt_iff_le, not_not]

theorem bounded_eq_true_iff :
    (hasOwnRange v entries || engine.applies vendor product) = true ↔
      ownRanges v entries ≠ [] ∨ engine.applies vendor product = true := by
  rw [Bool.or_eq_true, Ne, ← hasOwnRange_eq_false_iff, Bool.not_eq_false]

/-- An earlier version than one that an open range covers has no match in one situation only. -/
theorem match?_eq_none_iff_stopsAbove {e : Entry} (hv : v.isUnspecified = false)
    (hw : w.isUnspecified = false) (hle : v ≤ w)
    (he : engine.found? w entries (.ofText? vendor) (.ofText? product) = some e)
    (hkind : e.kind ≠ .single) :
    engine.match? v entries (.ofText? vendor) (.ofText? product) = none ↔
      engine.StopsAbove v w entries vendor product := by
  have hmem : e ∈ entries := engine.mem_of_found? vendor product he
  rw [← Option.not_isSome_iff_eq_none, isSome_match?_iff]
  constructor
  · intro hnone
    simp only [hv, not_or, Bool.not_eq_true, Bool.false_eq_true, false_and, true_and,
      not_false_eq_true] at hnone
    obtain ⟨hall, hexact, hreaches⟩ := hnone
    have hspecified := Bool.eq_false_of_not_eq_true (List.any_eq_false.1 hall e hmem)
    have hreach := engine.reaches_of_found? vendor product hw he
      (Entry.kind_eq_openRange_of_ne hspecified hkind)
    -- the range that covers `w` would count for `v` too, if it were of its line or other lines counted
    have hcut : (hasOwnRange v entries || engine.applies vendor product) = true ∧
        e.version.major ≠ v.major := by
      rw [← Classical.not_imp]
      intro hcounts
      exact List.any_eq_false.1 hreaches e hmem (Entry.reaches_of_le hv hw hle hreach hcounts)
    obtain ⟨hbounded, hother⟩ := hcut
    rw [hbounded] at hreaches
    refine
      { otherLine := ?_
        noneForEvery := hall
        noneExactly := hexact
        ownCounts := (engine.bounded_eq_true_iff vendor product).1 hbounded
        below := (any_reaches_eq_false_iff hv).1 hreaches }
    intro hmajor
    rw [hasOwnRange_congr hmajor] at hbounded
    obtain ⟨_, _, hline⟩ := (Entry.reaches_iff hw _ e).1 hreach
    exact hother ((hline hbounded).trans hmajor.symm)
  · intro h
    rintro (hall | ⟨hunknown, _⟩ | ⟨_, hexact | hreaches⟩)
    · exact Bool.false_ne_true (h.noneForEvery.symm.trans hall)
    · exact Bool.false_ne_true (hv.symm.trans hunknown)
    · exact Bool.false_ne_true (h.noneExactly.symm.trans hexact)
    · rw [(engine.bounded_eq_true_iff vendor product).2 h.ownCounts] at hreaches
      exact Bool.false_ne_true (((any_reaches_eq_false_iff hv).2 h.below).symm.trans hreaches)

/-- **An open range reaches down to every earlier version that its release line allows.**  Let a version be
found in an open range or under an entry for every version.  Then an earlier one has a match if it is of the
same line, or if neither an open range of its own line nor a boundary rule keeps other lines from counting; and
it has none only where the ranges of its own line all end below it or the rule leaves none. -/
theorem match?_of_le {e : Entry} (hv : v.isUnspecified = false) (hw : w.isUnspecified = false)
    (hle : v ≤ w) (he : engine.found? w entries (.ofText? vendor) (.ofText? product) = some e)
    (hkind : e.kind ≠ .single) :
    (v.sameMajor w = true ∨ ownRanges v entries = [] ∧ engine.applies vendor product = false →
      engine.match? v entries (.ofText? vendor) (.ofText? product) ≠ none) ∧
    (engine.match? v entries (.ofText? vendor) (.ofText? product) = none ↔
      engine.StopsAbove v w entries vendor product) := by
  have hstops := engine.match?_eq_none_iff_stopsAbove vendor product hv hw hle he hkind
  refine ⟨?_, hstops⟩
  intro hline hnone
  have h := hstops.1 hnone
  rcases hline with hsame | ⟨hnil, happlies⟩
  · exact h.otherLine ((Version.sameMajor_iff v w).1 hsame).2
  · rcases h.ownCounts with hown | hbounded
    · exact hown hnil
    · exact Bool.false_ne_true (happlies.symm.trans hbounded)

/-- Version 2.5 lies in the range up to 3.0, and so do 2.4 and 1.5.  Beside the range up to 1.2 version 1.5
does not. -/
theorem match?_of_le_otherLine :
    let w : Version := ⟨"2.5", [.number 2, .number 5]⟩
    let v : Version := ⟨"2.4", [.number 2, .number 4]⟩
    let u : Version := ⟨"1.5", [.number 1, .number 5]⟩
    let range : Entry := ⟨"cpe:/a:v:p:3.0", "v", "p", "3.0", ⟨"3.0", [.number 3, .number 0]⟩, .bool true⟩
    let low : Entry := ⟨"cpe:/a:v:p:1.2", "v", "p", "1.2", ⟨"1.2", [.number 1, .number 2]⟩, .bool true⟩
    let found (entries : List Entry) := Engine.standard.found? w entries (.string "v") (.string "p")
    let matched (x : Version) (entries : List Entry) :=
      Engine.standard.match? x entries (.string "v") (.string "p")
    v ≤ w ∧ u ≤ w ∧ range.kind = .openRange ∧ found [range] = some range ∧
      matched v [range] ≠ none ∧ matched u [range] ≠ none ∧
      found [range, low] = some range ∧ matched u [range, low] = none ∧
      Engine.standard.StopsAbove u w [range, low] (some "v") (some "p") := by
  intro w v u range low found matched
  have hvw : v ≤ w := by decide
  have huw : u ≤ w := by decide
  have hkind : range.kind ≠ .single := by decide
  have hfound : found [range] = some range := rfl
  have hfound' : found [range, low] = some range := rfl
  have hnone : matched u [range, low] = none := rfl
  have hv := (Engine.standard.match?_of_le (some "v") (some "p") rfl rfl hvw hfound hkind).1
  have hu := (Engine.standard.match?_of_le (some "v") (some "p") rfl rfl huw hfound hkind).1
  have hstops := (Engine.standard.match?_of_le (some "v") (some "p") rfl rfl huw hfound' hkind).2
  exact ⟨hvw, huw, rfl, hfound, hv (Or.inl rfl), hu (Or.inr ⟨rfl, rfl⟩), hfound', hnone, hstops.1 hnone⟩

end Engine

end CpeMatch
