import CpeMatch.Proofs.Matching.Kinds

/-!
**When one more entry loses a match.**

One would expect that a vulnerability which lists more applies to more.  With open ranges that is not so: a
range of the version's own line that ends below the version covers nothing new, but keeps the ranges of all
other lines from counting.  This is the only way in which an entry can lose a match, and whenever an entry is
added in this situation the match is lost.

Main definitions:

* `CpeMatch.Engine.LosesBy` — the situation in which an entry loses a match.

Main results:

* `CpeMatch.Engine.isSome_match?_iff` — when there is a match;
* `CpeMatch.Engine.match?_lost_iff` — **a match is lost in this situation and in no other**.
-/

set_option autoImplicit false

namespace CpeMatch

theorem hasOwnRange_cons (v : Version) (e : Entry) (entries : List Entry) :
    hasOwnRange v (e :: entries) = (hasOwnRange v [e] || hasOwnRange v entries) := by
  rw [hasOwnRange, hasOwnRange, hasOwnRange, List.any_cons, List.any_cons, List.any_nil, Bool.or_false]

theorem hasOwnRange_singleton_iff (v : Version) (e : Entry) :
    hasOwnRange v [e] = true ↔ e.allPrior = true ∧ e.version.major = v.major := by
  simp [hasOwnRange]

namespace Entry

/-- An open range is one that is marked and has a version. -/
theorem kind_eq_openRange_iff (e : Entry) :
    e.kind = .openRange ↔ e.isUnspecified = false ∧ e.allPrior = true := by
  rw [kind]
  cases e.isUnspecified <;> cases e.allPrior <;> decide

/-- An open range of the own line reaches up to the version unless it ends below it. -/
theorem reaches_of_major_eq {v : Version} {e : Entry} (hv : v.isUnspecified = false)
    (hmajor : e.version.major = v.major) (hp : e.allPrior = true) (bounded : Bool) :
    e.reaches bounded v = false ↔ e.version < v := by
  rw [reaches, hp, Version.sameMajor_eq_decide e.version hv, decide_eq_true hmajor,
    ← not_iff_not, Version.not_lt_iff_le]
  simp

end Entry

namespace Engine

variable (engine : Engine) {v : Version} {entries : List Entry} (vendor product : Option Text)

/-- There is a match if an entry is for every version, or the version is unknown and there is an open range,
or else if an entry is exactly the version or reaches up to it. -/
theorem isSome_match?_iff (v : Version) (entries : List Entry) :
    (engine.match? v entries (.ofText? vendor) (.ofText? product)).isSome = true ↔
      entries.any (·.isUnspecified) = true ∨
      v.isUnspecified = true ∧ entries.any (·.allPrior) = true ∨
      v.isUnspecified = false ∧ (entries.any (·.isExactly v) = true ∨
        entries.any (·.reaches (hasOwnRange v entries || engine.applies vendor product) v) = true) := by
  rw [isSome_match?_eq, kindAmong?]
  cases entries.any (·.isUnspecified) with
  | true => simp
  | false =>
      cases v.isUnspecified with
      | true => cases entries.any (·.allPrior) <;> simp
      | false => cases entries.any (·.isExactly v) <;> simp

/-- The situation in which one more entry loses the match of a version: it is an open range of the version's
own line that ends below the version, the line had none so far, and the match has been with an open range of
another line. -/
structure LosesBy (engine : Engine) (v : Version) (entries : List Entry) (e : Entry)
    (vendor product : Option Text) : Prop where
  known : v.isUnspecified = false
  openRange : e.kind = .openRange
  sameLine : e.version.sameMajor v = true
  below : e.version < v
  noOwnRange : ownRanges v entries = []
  noBoundary : engine.applies vendor product = false
  otherLine : ∃ a, engine.found? v entries (.ofText? vendor) (.ofText? product) = some a ∧
    a.kind = .openRange ∧ a.version.major ≠ v.major

/-- What is found where there is neither an open range of the own line nor a boundary, and no entry that is
exactly the version, is an open range of another line. -/
theorem exists_found?_of_otherLine (hall : entries.any (·.isUnspecified) = false)
    (hv : v.isUnspecified = false) (hexact : entries.any (·.isExactly v) = false)
    (hown : hasOwnRange v entries = false) (happlies : engine.applies vendor product = false)
    (hreaches : entries.any (·.reaches false v) = true) :
    ∃ a, engine.found? v entries (.ofText? vendor) (.ofText? product) = some a ∧
      a.kind = .openRange ∧ a.version.major ≠ v.major := by
  rw [← List.isSome_find?, Option.isSome_iff_exists] at hreaches
  obtain ⟨a, ha⟩ := hreaches
  have hmem : a ∈ entries := List.mem_of_find?_eq_some ha
  have hp : a.allPrior = true := by
    have hpass := List.find?_some ha
    rw [Entry.reaches, Bool.and_eq_true, Bool.and_eq_true] at hpass
    exact hpass.1.1
  refine ⟨a, ?_, ?_, ?_⟩
  · rw [found?_of_specified engine vendor product (List.find?_eq_none.2 (List.any_eq_false.1 hall)) hv,
      List.find?_eq_none.2 (List.any_eq_false.1 hexact), hown, happlies]
    exact ha
  · rw [Entry.kind_eq_openRange_iff]
    exact ⟨Bool.eq_false_of_not_eq_true (List.any_eq_false.1 hall a hmem), hp⟩
  · intro hmajor
    have ha' : a ∈ ownRanges v entries := mem_ownRanges.2 ⟨hmem, hp, hmajor⟩
    rw [(hasOwnRange_eq_false_iff v entries).1 hown] at ha'
    cases ha'

/-- An entry can lose a match in no other situation. -/
theorem losesBy_of_lost {e : Entry}
    (hmatch : (engine.match? v entries (.ofText? vendor) (.ofText? product)).isSome = true)
    (hlost : (engine.match? v (e :: entries) (.ofText? vendor) (.ofText? product)).isSome = false) :
    engine.LosesBy v entries e vendor product := by
  rw [← Bool.not_eq_true, isSome_match?_iff, hasOwnRange_cons, Bool.or_assoc] at hlost
  simp only [List.any_cons, Bool.or_eq_true, not_and, not_or, Bool.not_eq_true] at hlost
  obtain ⟨⟨hspecified, hall⟩, hunknown, hknown⟩ := hlost
  rcases (engine.isSome_match?_iff vendor product v entries).1 hmatch with h | ⟨hv, h⟩ | ⟨hv, h⟩
  · exact absurd h (Bool.eq_false_iff.1 hall)
  · exact absurd h (Bool.eq_false_iff.1 (hunknown hv).2)
  obtain ⟨⟨_, hexact⟩, hends, hnone⟩ := hknown hv
  have hreaches := h.resolve_left (Bool.eq_false_iff.1 hexact)
  -- had anything kept other lines from counting before, the same ranges would count now
  have hfree : (hasOwnRange v entries || engine.applies vendor product) = false := by
    cases hbounded : hasOwnRange v entries || engine.applies vendor product with
    | false => rfl
    | true =>
        rw [hbounded] at hreaches hnone
        rw [Bool.or_true] at hnone
        exact absurd hreaches (Bool.eq_false_iff.1 hnone)
  have hfirst : hasOwnRange v [e] = true := by
    cases hown : hasOwnRange v [e] with
    | true => rfl
    | false =>
        rw [hown, Bool.false_or] at hnone
        exact absurd hreaches (Bool.eq_false_iff.1 hnone)
  rw [hfree] at hreaches
  obtain ⟨hown, happlies⟩ := Bool.or_eq_false_iff.1 hfree
  obtain ⟨hp, hmajor⟩ := (hasOwnRange_singleton_iff v e).1 hfirst
  exact
    { known := hv
      openRange := (Entry.kind_eq_openRange_iff e).2 ⟨hspecified, hp⟩
      sameLine := (Version.sameMajor_iff _ _).2 ⟨hspecified, hmajor⟩
      below := (Entry.reaches_of_major_eq hv hmajor hp _).1 hends
      noOwnRange := (hasOwnRange_eq_false_iff v entries).1 hown
      noBoundary := happlies
      otherLine := engine.exists_found?_of_otherLine vendor product hall hv hexact hown happlies hreaches }

/-- Where an open range is found for a known version, no entry is for every version or exactly this one. -/
theorem any_of_kindAmong?_eq_openRange (hv : v.isUnspecified = false)
    (h : engine.kindAmong? v entries vendor product = some .openRange) :
    entries.any (·.isUnspecified) = false ∧ entries.any (·.isExactly v) = false := by
  rw [kindAmong?, hv] at h
  cases hall : entries.any (·.isUnspecified) with
  | true =>
      rw [hall] at h
      cases h
  | false =>
      cases hexact : entries.any (·.isExactly v) with
      | true =>
          rw [hall, hexact] at h
          cases h
      | false => exact ⟨rfl, rfl⟩

theorem any_of_found?_openRange {a : Entry} (hv : v.isUnspecified = false)
    (ha : engine.found? v entries (.ofText? vendor) (.ofText? product) = some a)
    (hkind : a.kind = .openRange) :
    entries.any (·.isUnspecified) = false ∧ entries.any (·.isExactly v) = false := by
  refine engine.any_of_kindAmong?_eq_openRange vendor product hv ?_
  rw [← map_kind_found?, ha, Option.map_some, hkind]

/-- In that situation the entry does lose the match. -/
theorem LosesBy.lost {e : Entry} (h : engine.LosesBy v entries e vendor product) :
    (engine.match? v entries (.ofText? vendor) (.ofText? product)).isSome = true ∧
      (engine.match? v (e :: entries) (.ofText? vendor) (.ofText? product)).isSome = false := by
  obtain ⟨a, ha, hkind, _⟩ := h.otherLine
  obtain ⟨hspecified, hp⟩ := (Entry.kind_eq_openRange_iff e).1 h.openRange
  obtain ⟨_, hmajor⟩ := (Version.sameMajor_iff _ _).1 h.sameLine
  refine ⟨by rw [match?_eq_map_found?, ha]; rfl, ?_⟩
  obtain ⟨hall, hexact⟩ := engine.any_of_found?_openRange vendor product h.known ha hkind
  have hexact' : e.isExactly v = false := by
    rw [Entry.isExactly, hp]
    rfl
  -- now that its own line has an open range, no other line counts, and this one ends too early
  have hown : hasOwnRange v [e] = true := (hasOwnRange_singleton_iff v e).2 ⟨hp, hmajor⟩
  have hends : e.reaches true v = false := (Entry.reaches_of_major_eq h.known hmajor hp true).2 h.below
  have hothers : entries.any (·.reaches true v) = false := by
    rw [← List.isSome_find?, ← find?_ownRanges_eq_reaches h.known, h.noOwnRange]
    rfl
  rw [← Bool.not_eq_true, isSome_match?_iff, hasOwnRange_cons, hown, Bool.true_or, Bool.true_or]
  simp only [List.any_cons, hall, hexact, hexact', hends, hothers, h.known]
  simp [hspecified]

/-- **An entry loses a match in one situation and in no other.**  Put an entry in at any place of a list: a
version that matches the list and does not match it with the entry is known, the entry is an open range of
its line that ends below it, the list has no open range of this line, no boundary rule applies, and the match
has been with an open range of another line; and whenever all this is so the match is lost.  In particular an
entry that is no open range loses none. -/
theorem match?_lost_iff (v : Version) (before after : List Entry) (e : Entry) :
    (engine.match? v (before ++ after) (.ofText? vendor) (.ofText? product) ≠ none ∧
        engine.match? v (before ++ e :: after) (.ofText? vendor) (.ofText? product) = none ↔
      engine.LosesBy v (before ++ after) e vendor product) ∧
    (e.kind ≠ .openRange →
      engine.match? v (before ++ after) (.ofText? vendor) (.ofText? product) ≠ none →
      engine.match? v (before ++ e :: after) (.ofText? vendor) (.ofText? product) ≠ none) := by
  have hlost : engine.match? v (before ++ after) (.ofText? vendor) (.ofText? product) ≠ none ∧
        engine.match? v (before ++ e :: after) (.ofText? vendor) (.ofText? product) = none ↔
      engine.LosesBy v (before ++ after) e vendor product := by
    have hfront := engine.isSome_match?_congr vendor product v
      (SameEntries.of_perm (List.perm_middle : (before ++ e :: after).Perm (e :: (before ++ after))))
    rw [← Option.isSome_iff_ne_none, ← Option.not_isSome_iff_eq_none, hfront, Bool.not_eq_true]
    exact ⟨fun h => engine.losesBy_of_lost vendor product h.1 h.2, fun h => h.lost engine vendor product⟩
  refine ⟨hlost, ?_⟩
  intro hkind hmatch hnone
  exact hkind (hlost.1 ⟨hmatch, hnone⟩).openRange

/-- Version 2.5 lies in the range up to 3.0.  It does no more when the range up to 2.1 comes behind, but it
still does when the single version 2.1 comes there. -/
theorem match?_lost_iff_lowerEnd :
    let v : Version := ⟨"2.5", [.number 2, .number 5]⟩
    let other : Entry := ⟨"cpe:/a:v:p:3.0", "v", "p", "3.0", ⟨"3.0", [.number 3, .number 0]⟩, .bool true⟩
    let own : Entry := ⟨"cpe:/a:v:p:2.1", "v", "p", "2.1", ⟨"2.1", [.number 2, .number 1]⟩, .bool true⟩
    let single : Entry := { own with mark := .bool false }
    Engine.standard.LosesBy v [other] own (some "v") (some "p") ∧
      Engine.standard.match? v [other] (.string "v") (.string "p") ≠ none ∧
      Engine.standard.match? v [other, own] (.string "v") (.string "p") = none ∧
      Engine.standard.match? v [other, single] (.string "v") (.string "p") ≠ none := by
  intro v other own single
  have hmatch : Engine.standard.match? v [other] (.string "v") (.string "p") ≠ none := nofun
  have hnone : Engine.standard.match? v [other, own] (.string "v") (.string "p") = none := rfl
  have hlost := (Engine.standard.match?_lost_iff (some "v") (some "p") v [other] [] own).1
  have hkept := (Engine.standard.match?_lost_iff (some "v") (some "p") v [other] [] single).2
  exact ⟨hlost.1 ⟨hmatch, hnone⟩, hmatch, hnone, hkept (by decide) hmatch⟩

end Engine

end CpeMatch
