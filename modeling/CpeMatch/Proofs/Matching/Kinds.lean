import CpeMatch.Proofs.Matching.Plain

/-!
**The order of entries does not decide whether a vulnerability applies.**

Entries are looked at in the order given, and of several that would do the first is found.  In another
order another may be found, but none of another kind, and never none at all.  For whatever matching
asks, it asks only whether there is an entry that passes some test, and the tests look at nothing but
the version of an entry and whether it is an open range.

Leaving out other release lines comes to the same as a boundary: where the version's own line has an
open range, those of other lines do not count.

Main definitions:

* `CpeMatch.Entry.kind` — for every version, a single one, or an open range;
* `CpeMatch.SameEntries` — lists with the same entries, in any order and any number;
* `CpeMatch.Engine.found?` — the entry behind a match;
* `CpeMatch.Engine.kindAmong?` — the kind of this entry, told from which entries there are.

Main results:

* `CpeMatch.Engine.found?_of_specified` — a known version is searched for in two passes over all
  entries;
* `CpeMatch.Engine.map_kind_found?` — the kind of the entry that is found;
* `CpeMatch.Engine.kind_of_sameEntries` — **neither order nor repetition changes the kind**.
-/

set_option autoImplicit false

namespace CpeMatch

/-! ### Kinds of entries -/

/-- What an entry stands for. -/
inductive Entry.Kind where
  | everyVersion
  | single
  | openRange
  deriving DecidableEq

namespace Entry

/-- What the entry stands for: an unspecified version makes it one for every version, marked or not. -/
def kind (e : Entry) : Kind :=
  if e.isUnspecified then .everyVersion else if e.allPrior then .openRange else .single

theorem kind_of_isUnspecified {e : Entry} (h : e.isUnspecified = true) : e.kind = .everyVersion := by
  rw [kind, if_pos h]

theorem kind_of_allPrior {e : Entry} (h : e.isUnspecified = false) (hp : e.allPrior = true) :
    e.kind = .openRange := by
  rw [kind, h, hp]
  rfl

theorem kind_of_not_allPrior {e : Entry} (h : e.isUnspecified = false) (hp : e.allPrior = false) :
    e.kind = .single := by
  rw [kind, h, hp]
  rfl

/-- Two entries that say the same of versions, whatever their names are. -/
structure Agrees (e e' : Entry) : Prop where
  version : (e.version == e'.version) = true
  allPrior : e.allPrior = e'.allPrior

namespace Agrees

variable {e e' : Entry}

theorem refl (e : Entry) : e.Agrees e := ⟨Version.beq_self _, rfl⟩

theorem tokens (h : e.Agrees e') : e.version.tokens = e'.version.tokens :=
  (Version.beq_iff_tokens_eq _ _).1 h.version

theorem isUnspecified (h : e.Agrees e') : e.isUnspecified = e'.isUnspecified := by
  rw [Entry.isUnspecified, Entry.isUnspecified, Version.isUnspecified, Version.isUnspecified, h.tokens]

theorem major (h : e.Agrees e') : e.version.major = e'.version.major :=
  Version.major_eq_of_beq h.version

theorem isExactly (h : e.Agrees e') (v : Version) : e.isExactly v = e'.isExactly v := by
  have hversion : (e.version == v) = (e'.version == v) := by
    rw [Bool.eq_iff_iff, Version.beq_iff_tokens_eq, Version.beq_iff_tokens_eq, h.tokens]
  rw [Entry.isExactly, Entry.isExactly, h.allPrior, hversion]

theorem reaches (h : e.Agrees e') (bounded : Bool) (v : Version) :
    e.reaches bounded v = e'.reaches bounded v := by
  have hle : decide (v ≤ e.version) = decide (v ≤ e'.version) := by
    rw [Bool.eq_iff_iff, decide_eq_true_iff, decide_eq_true_iff, Version.le_iff_compare,
      Version.le_iff_compare, Version.compare, Version.compare, h.tokens]
  rw [Entry.reaches, Entry.reaches, h.allPrior, hle, Version.sameMajor, Version.sameMajor, h.major]

end Agrees

end Entry

/-! ### Lists with the same entries -/

/-- The entries of either list are those of the other, in any order and any number. -/
structure SameEntries (entries others : List Entry) : Prop where
  fst : ∀ e ∈ entries, ∃ e' ∈ others, e.Agrees e'
  snd : ∀ e' ∈ others, ∃ e ∈ entries, e.Agrees e'

namespace SameEntries

variable {entries others : List Entry}

/-- Lists with the same members have the same entries. -/
theorem of_mem_iff (h : ∀ e, e ∈ entries ↔ e ∈ others) : SameEntries entries others where
  fst e he := ⟨e, (h e).1 he, .refl e⟩
  snd e he := ⟨e, (h e).2 he, .refl e⟩

theorem of_perm (h : entries.Perm others) : SameEntries entries others := of_mem_iff fun _ => h.mem_iff

/-- Whether there is an entry that passes a test is the same for both lists. -/
theorem any_eq (h : SameEntries entries others) {test : Entry → Bool}
    (htest : ∀ e e' : Entry, e.Agrees e' → test e = test e') : entries.any test = others.any test := by
  rw [Bool.eq_iff_iff, List.any_eq_true, List.any_eq_true]
  constructor
  · rintro ⟨e, he, hpass⟩
    obtain ⟨e', he', hagree⟩ := h.fst e he
    exact ⟨e', he', by rw [← htest e e' hagree, hpass]⟩
  · rintro ⟨e', he', hpass⟩
    obtain ⟨e, he, hagree⟩ := h.snd e' he'
    exact ⟨e, he, by rw [htest e e' hagree, hpass]⟩

end SameEntries

/-- Whether the version's own line has an open range. -/
def hasOwnRange (v : Version) (entries : List Entry) : Bool :=
  entries.any fun e => e.allPrior && decide (e.version.major = v.major)

theorem hasOwnRange_eq_false_iff (v : Version) (entries : List Entry) :
    hasOwnRange v entries = false ↔ ownRanges v entries = [] := by
  rw [hasOwnRange, List.any_eq_false, List.eq_nil_iff_forall_not_mem]
  refine forall_congr' fun e => ?_
  simp [mem_ownRanges]

/-- Looking among the open ranges of the own line is looking for an open range under a boundary. -/
theorem find?_ownRanges_eq_reaches {v : Version} (hv : v.isUnspecified = false) (entries : List Entry) :
    (ownRanges v entries).find? (fun e => v ≤ e.version) = entries.find? (·.reaches true v) := by
  rw [find?_ownRanges]
  refine List.find?_congr ?_
  intro e _
  rw [Entry.reaches, Version.sameMajor_eq_decide e.version hv]
  cases e.allPrior <;> simp [Bool.and_comm]

/-! ### The entry behind a match -/

namespace Engine

/-- The entry that makes a vulnerability apply. -/
def found? (engine : Engine) (v : Version) (entries : List Entry) (vendor product : Json) : Option Entry :=
  (engine.decide v entries vendor product).verdict.entry?

theorem match?_eq_map_found? (engine : Engine) (v : Version) (entries : List Entry)
    (vendor product : Json) :
    engine.match? v entries vendor product =
      (engine.found? v entries vendor product).map Match.ofEntry := rfl

variable (engine : Engine) {v : Version} {entries : List Entry} (vendor product : Option Text)

/-- An entry for every version is found before all others. -/
theorem found?_of_everyVersion {e : Entry} (he : entries.find? (·.isUnspecified) = some e) :
    engine.found? v entries (.ofText? vendor) (.ofText? product) = some e := by
  rw [found?, decide, he]
  rfl

/-- An unknown version is found in the first open range. -/
theorem found?_of_unknown (hall : entries.find? (·.isUnspecified) = none) (hv : v.isUnspecified = true) :
    engine.found? v entries (.ofText? vendor) (.ofText? product) = entries.find? (·.allPrior) := by
  rw [found?, decide, hall, hv]
  simp only [if_true]
  cases entries.find? (·.allPrior) <;> rfl

/-- What is found among the entries that remain is found in two passes over them. -/
theorem found?_eq_restrict (hall : entries.find? (·.isUnspecified) = none)
    (hv : v.isUnspecified = false) :
    engine.found? v entries (.ofText? vendor) (.ofText? product) =
      ((restrict v entries).1.find? (·.isExactly v)).or
        ((restrict v entries).1.find? (·.reaches (engine.applies vendor product) v)) := by
  rw [found?, decide, hall, hv, keepsBoundary?_eq_applies, ← entry?_firstReaching]
  simp only [Bool.false_eq_true, if_false, Entry.isExactly]
  cases (restrict v entries).1.find? fun e => !e.allPrior && e.version == v <;> rfl

/-- **A known version is searched for in two passes over all entries**: for a single version that it is,
then for an open range that reaches up to it.  An open range of another line counts only if there is none
of the own line and no boundary. -/
theorem found?_of_specified (hall : entries.find? (·.isUnspecified) = none)
    (hv : v.isUnspecified = false) :
    engine.found? v entries (.ofText? vendor) (.ofText? product) =
      (entries.find? (·.isExactly v)).or
        (entries.find? (·.reaches (hasOwnRange v entries || engine.applies vendor product) v)) := by
  rw [found?_eq_restrict engine vendor product hall hv]
  cases hown : hasOwnRange v entries with
  | false =>
      rw [hasOwnRange_eq_false_iff] at hown
      rw [restrict_of_ownRanges_eq_nil hv hown, Bool.false_or]
  | true =>
      have hne : ownRanges v entries ≠ [] := by
        rw [Ne, ← hasOwnRange_eq_false_iff, hown]
        decide
      rw [Bool.true_or, ← find?_ownRanges_eq_reaches hv]
      obtain ⟨a, ha, hline | ⟨hsame, hlines⟩⟩ := restrict_of_ownRanges_ne_nil hv hne
      · obtain ⟨-, -, hmajor⟩ := mem_ownRanges.1 ha
        rw [hline, find?_isExactly_line hv hmajor, find?_reaches_line _ hv hmajor]
      · rw [hsame, find?_reaches_of_openLines _ hv ha hlines]

/-- What is found is one of the entries. -/
theorem mem_of_found? {e : Entry}
    (h : engine.found? v entries (.ofText? vendor) (.ofText? product) = some e) : e ∈ entries := by
  cases hall : entries.find? (·.isUnspecified) with
  | some a =>
      rw [found?_of_everyVersion engine vendor product hall] at h
      obtain rfl := Option.some.inj h
      exact List.mem_of_find?_eq_some hall
  | none =>
      cases hv : v.isUnspecified with
      | true =>
          rw [found?_of_unknown engine vendor product hall hv] at h
          exact List.mem_of_find?_eq_some h
      | false =>
          rw [found?_of_specified engine vendor product hall hv, Option.or_eq_some_iff] at h
          rcases h with h | ⟨_, h⟩
          · exact List.mem_of_find?_eq_some h
          · exact List.mem_of_find?_eq_some h

/-! ### The kind of the entry that is found -/

/-- The kind of the entry that is found, told from which entries there are. -/
def kindAmong? (engine : Engine) (v : Version) (entries : List Entry) (vendor product : Option Text) :
    Option Entry.Kind :=
  let bounded := hasOwnRange v entries || engine.applies vendor product
  if entries.any (·.isUnspecified) then some .everyVersion
  else if v.isUnspecified then if entries.any (·.allPrior) then some .openRange else none
  else if entries.any (·.isExactly v) then some .single
  else if entries.any (·.reaches bounded v) then some .openRange else none

/-- Where all that pass a test are of one kind, what is found is of this kind. -/
theorem map_kind_find? (entries : List Entry) (test : Entry → Bool) {k : Entry.Kind}
    (h : ∀ e ∈ entries, test e = true → e.kind = k) :
    (entries.find? test).map Entry.kind = if entries.any test then some k else none := by
  rw [← List.isSome_find?]
  cases hfind : entries.find? test with
  | none => rfl
  | some e =>
      rw [Option.map_some, h e (List.mem_of_find?_eq_some hfind) (List.find?_some hfind)]
      rfl

/-- **The kind of the entry that is found** is told from which entries there are. -/
theorem map_kind_found? (v : Version) (entries : List Entry) :
    (engine.found? v entries (.ofText? vendor) (.ofText? product)).map Entry.kind =
      engine.kindAmong? v entries vendor product := by
  have hevery := map_kind_find? entries (·.isUnspecified) fun e _ he => Entry.kind_of_isUnspecified he
  rw [kindAmong?]
  cases hall : entries.find? (·.isUnspecified) with
  | some e =>
      rw [found?_of_everyVersion engine vendor product hall, ← hall, hevery, ← List.isSome_find?, hall]
      rfl
  | none =>
      have hspecified : ∀ e ∈ entries, e.isUnspecified = false := by
        intro e he
        exact Bool.eq_false_of_not_eq_true (List.find?_eq_none.1 hall e he)
      have hany : entries.any (·.isUnspecified) = false := by
        rw [← List.isSome_find?, hall, Option.isSome_none]
      rw [hany, if_neg Bool.false_ne_true]
      cases hv : v.isUnspecified with
      | true =>
          rw [found?_of_unknown engine vendor product hall hv, if_pos rfl]
          exact map_kind_find? entries _ fun e he hp => Entry.kind_of_allPrior (hspecified e he) hp
      | false =>
          have hexact := map_kind_find? entries (·.isExactly v) (k := .single) ?_
          · rw [found?_of_specified engine vendor product hall hv, if_neg Bool.false_ne_true,
              Option.map_or, hexact]
            cases entries.any (·.isExactly v) with
            | true => rfl
            | false =>
                refine map_kind_find? entries _ fun e he hreaches => Entry.kind_of_allPrior (hspecified e he) ?_
                rw [Entry.reaches, Bool.and_eq_true, Bool.and_eq_true] at hreaches
                exact hreaches.1.1
          · intro e he hexact
            rw [Entry.isExactly, Bool.and_eq_true, Bool.not_eq_true'] at hexact
            exact Entry.kind_of_not_allPrior (hspecified e he) hexact.1

/-- Which entries there are decides the kind. -/
theorem kindAmong?_congr (v : Version) {others : List Entry} (h : SameEntries entries others) :
    engine.kindAmong? v entries vendor product = engine.kindAmong? v others vendor product := by
  have hown : hasOwnRange v entries = hasOwnRange v others := by
    refine h.any_eq ?_
    intro e e' hagree
    rw [hagree.allPrior, hagree.major]
  simp only [kindAmong?, hown, h.any_eq fun _ _ hagree => hagree.isUnspecified,
    h.any_eq fun _ _ hagree => hagree.allPrior, h.any_eq fun _ _ hagree => hagree.isExactly v,
    h.any_eq fun _ _ hagree => hagree.reaches _ v]

/-- Whether there is a match is told from which entries there are. -/
theorem isSome_match?_eq (v : Version) (entries : List Entry) :
    (engine.match? v entries (.ofText? vendor) (.ofText? product)).isSome =
      (engine.kindAmong? v entries vendor product).isSome := by
  rw [match?_eq_map_found?, Option.isSome_map, ← map_kind_found?, Option.isSome_map]

/-- Whether there is a match does not depend on the order of entries either. -/
theorem isSome_match?_congr (v : Version) {others : List Entry} (h : SameEntries entries others) :
    (engine.match? v entries (.ofText? vendor) (.ofText? product)).isSome =
      (engine.match? v others (.ofText? vendor) (.ofText? product)).isSome := by
  rw [isSome_match?_eq, isSome_match?_eq, engine.kindAmong?_congr vendor product v h]

/-- **Neither order nor repetition of the entries changes whether a vulnerability applies.**  Of two lists
with the same entries, in any order and any number, a version matches both or neither; and where it matches
both, the entries behind the two matches, each of them one of its list, are of one kind: both for every
version, both single versions or both open ranges. -/
theorem kind_of_sameEntries (v : Version) {entries others : List Entry}
    (h : SameEntries entries others) :
    let found (es : List Entry) := engine.found? v es (.ofText? vendor) (.ofText? product)
    (engine.match? v entries (.ofText? vendor) (.ofText? product) = none ↔
      engine.match? v others (.ofText? vendor) (.ofText? product) = none) ∧
    (∀ es, engine.match? v es (.ofText? vendor) (.ofText? product) = (found es).map Match.ofEntry) ∧
    ∀ e e', found entries = some e → found others = some e' →
      e ∈ entries ∧ e' ∈ others ∧ e.kind = e'.kind := by
  intro found
  refine ⟨?_, fun es => engine.match?_eq_map_found? v es _ _, ?_⟩
  · rw [← Option.isNone_iff_eq_none, ← Option.isNone_iff_eq_none, ← Option.not_isSome,
      ← Option.not_isSome, engine.isSome_match?_congr vendor product v h]
  · intro e e' he he'
    refine ⟨engine.mem_of_found? vendor product he, engine.mem_of_found? vendor product he', ?_⟩
    have hkind := engine.kindAmong?_congr vendor product v h
    rw [← map_kind_found?, ← map_kind_found?] at hkind
    change (found entries).map Entry.kind = (found others).map Entry.kind at hkind
    rw [he, he'] at hkind
    exact Option.some.inj hkind

/-- Version 2.0 beside the ranges up to 2.1, 2.5 and 3.0 and the single version 1.0.  The other way round,
and with some of them repeated, it lies in another open range. -/
theorem kind_of_sameEntries_reversed :
    let v : Version := ⟨"2.0", [.number 2, .number 0]⟩
    let low : Entry := ⟨"cpe:/a:v:p:2.1", "v", "p", "2.1", ⟨"2.1", [.number 2, .number 1]⟩, .bool true⟩
    let high : Entry := ⟨"cpe:/a:v:p:2.5", "v", "p", "2.5", ⟨"2.5", [.number 2, .number 5]⟩, .bool true⟩
    let other : Entry := ⟨"cpe:/a:v:p:3.0", "v", "p", "3.0", ⟨"3.0", [.number 3, .number 0]⟩, .bool true⟩
    let single : Entry := ⟨"cpe:/a:v:p:1.0", "v", "p", "1.0", ⟨"1.0", [.number 1, .number 0]⟩, .bool false⟩
    let entries := [other, low, single, high]
    let others := [single, high, other, single, low, high]
    SameEntries entries others ∧
      Engine.standard.found? v entries (.string "v") (.string "p") = some low ∧
      Engine.standard.found? v others (.string "v") (.string "p") = some high ∧
      low.kind = high.kind := by
  intro v low high other single entries others
  have hsame : SameEntries entries others := by
    have hsub : entries ⊆ others := by simp [entries, others]
    have hsub' : others ⊆ entries := by simp [entries, others]
    exact SameEntries.of_mem_iff fun e => ⟨fun he => hsub he, fun he => hsub' he⟩
  have h := Engine.standard.kind_of_sameEntries (some "v") (some "p") v hsame
  exact ⟨hsame, rfl, rfl, (h.2.2 low high rfl rfl).2.2⟩

end Engine

end CpeMatch
