import CpeMatch.Proofs.Cpe.LetterCase
import CpeMatch.Proofs.Lookup.Complete

/-!
**Lookups do not depend on the case of letters.**

Two names that differ in nothing but the case of letters say the same vendor and product, and versions with
the same tokens.  A version is matched by its tokens alone, and rows are found by vendor and product.  So two
lookups in one store, by whatever rules, come to the same results, whether they are made of names that say
what they look for or of others.

Main results:

* `CpeMatch.Engine.match?_congr` — a version is matched by its tokens;
* `CpeMatch.Lookup.resultsOn_of_alike`, `CpeMatch.Lookup.foundIn_of_alike` — what names that are alike find;
* `CpeMatch.Lookup.lookups_ignore_letterCase` — **names that differ in the case of letters find the same**.
-/

set_option autoImplicit false

namespace CpeMatch

open Timing

/-- A version is matched by its tokens. -/
theorem Engine.match?_congr (engine : Engine) {v w : Version} (h : v.tokens = w.tokens)
    (entries : List Entry) (vendor product : Json) :
    engine.match? v entries vendor product = engine.match? w entries vendor product := by
  obtain ⟨text, tokens⟩ := v
  obtain ⟨text', tokens'⟩ := w
  obtain rfl : tokens = tokens' := h
  have hrestrict : restrict ⟨text, tokens⟩ entries = restrict ⟨text', tokens⟩ entries := rfl
  have hreaching : ∀ (bounded : Bool) (rest : List Entry),
      firstReaching bounded ⟨text, tokens⟩ rest = firstReaching bounded ⟨text', tokens⟩ rest := by
    intro bounded rest
    induction rest with
    | nil => rfl
    | cons e rest ih =>
        rw [firstReaching, ih, firstReaching]
        rfl
  simp only [match?, decide, hrestrict, hreaching]
  rfl

theorem Cpe.Alike.isValid {c d : Cpe} (h : c.Alike d) : c.isValid = d.isValid := by
  rw [Cpe.isValid, h.vendor, h.product, Cpe.isValid]

namespace Lookup

variable (l : Lookup) (s : Store)

/-- Names that are alike have the same results. -/
theorem resultsOn_of_alike {c d : Cpe} (h : c.Alike d) : l.resultsOn s c = l.resultsOn s d := by
  rw [resultsOn, h.vendor, h.product, resultsOn]
  refine List.filterMap_congr ?_
  intro run _
  rw [l.engine.match?_congr h.tokens]

/-- The ids that match a name in a store, with their matches: none if the name does not say vendor and
product. -/
def pairsIn (name : Text) : List (Json × Match) :=
  if (Cpe.parse name).isValid then
    (l.resultsOn s (Cpe.parse name)).map fun x => (Json.string x.1, x.2)
  else []

/-- Names that are alike have the same ids. -/
theorem pairsIn_of_alike {name other : Text} (h : (Cpe.parse name).Alike (Cpe.parse other)) :
    l.pairsIn s name = l.pairsIn s other := by
  rw [pairsIn, h.isValid, l.resultsOn_of_alike s h, pairsIn]

/-- Names that are alike find the same vulnerabilities. -/
theorem foundIn_of_alike {name other : Text} (h : (Cpe.parse name).Alike (Cpe.parse other)) :
    l.foundIn s name = l.foundIn s other := by
  rw [foundIn, h.isValid, foundOn, l.resultsOn_of_alike s h, foundIn, foundOn]

/-- The ids that match any name, with their matches, if the rows of the store can be read. -/
theorem gives_pairsIn {s : Store} (hs : s.Legible) (hloaded : s.loaded = true) (tree : Files.Tree)
    (name : Text) :
    Task.Gives (fun st => st.data = s) (l.matchesOf (Store.source tree) (.string name)) fun pairs st =>
      st.data = s ∧ pairs = l.pairsIn s name := by
  refine gives_onData (p := (· = s)) (q := fun pairs s' => s' = s ∧ pairs = l.pairsIn s name) ?_
  cases hvalid : (Cpe.parse name).isValid with
  | true =>
      rw [pairsIn, if_pos hvalid]
      exact gives_eachMatch (fun id m => return (id, m)) (fun id m => (id, m)) l hs hloaded tree hvalid
        fun x _ => Task.Gives.pure fun _ h => ⟨h, rfl⟩
  | false =>
      intro session hsession
      obtain ⟨hresult, hstate⟩ := l.reads_eachMatch_of_invalid (Store.source tree)
        (fun id m => return (id, m)) (· = s) hvalid session hsession
      refine ⟨[], _, Prod.ext hresult rfl, hstate.trans hsession, ?_⟩
      rw [pairsIn, hvalid, if_neg Bool.false_ne_true]

/-- **Names that differ in the case of letters find the same.**  In a store of given data, by whatever rules,
a lookup of either name gives the same ids with the same matches, and the same vulnerabilities, in the same
order. -/
theorem lookups_ignore_letterCase {data : List Json} (hdata : (Store.ofRecords data).fault = none)
    (tree : Files.Tree) {name other : Text} (h : Text.smallLetters name = Text.smallLetters other)
    (session session' : Session Float (LookupState Store))
    (hsession : session.state.data = (Store.ofRecords data).store)
    (hsession' : session'.state.data = (Store.ofRecords data).store) :
    (∃ pairs left left',
      (l.matchesOf (Store.source tree) (.string name)).start session = (.ok pairs, left) ∧
      (l.matchesOf (Store.source tree) (.string other)).start session' = (.ok pairs, left')) ∧
    ∃ found left left',
      (l.vulnerabilities (Store.source tree) (.string name)).start session = (.ok found, left) ∧
      (l.vulnerabilities (Store.source tree) (.string other)).start session' = (.ok found, left') := by
  obtain ⟨hs, _, hloaded⟩ := Store.ofRecords_spec hdata
  have halike := Cpe.parse_alike h
  constructor
  · obtain ⟨_, left, hrun, _, rfl⟩ := l.gives_pairsIn hs.legible hloaded tree name session hsession
    obtain ⟨_, left', hrun', _, rfl⟩ := l.gives_pairsIn hs.legible hloaded tree other session' hsession'
    rw [l.pairsIn_of_alike _ halike] at hrun
    exact ⟨_, left, left', hrun, hrun'⟩
  · obtain ⟨left, _, hrun, _⟩ := l.exists_start_vulnerabilities hs hloaded tree name session hsession
    obtain ⟨left', _, hrun', _⟩ := l.exists_start_vulnerabilities hs hloaded tree other session' hsession'
    rw [l.foundIn_of_alike _ halike] at hrun
    exact ⟨_, left, left', hrun, hrun'⟩

/-- Data that list one version, whose vendor is written with an escaped letter. -/
def givenEscaped : List Json :=
  [.object [("id", .string "A"), ("vulnerable_software", .array [.string "cpe:/a:%7Alib:zlib:1.2:beta"])]]

/-- A session on the store of these data. -/
def givenEscapedSession : Session Float (LookupState Store) :=
  ⟨.ofList [], false, #[], ⟨(Store.ofRecords givenEscaped).store, .fresh true⟩⟩

/-- The version is found, whichever digits and letters are capitals. -/
theorem lookups_ignore_letterCase_escaped :
    let name : Text := "CPE:/a:%5alib:Zlib:1.2:BETA"
    let other : Text := "cpe:/A:%5ALIB:zLib:1.2:beta"
    (Store.ofRecords givenEscaped).fault = none ∧ Text.smallLetters name = Text.smallLetters other ∧
      ∃ found left left', found ≠ [] ∧
        (vulnerabilities ⟨.standard, false⟩ (Store.source default) (.string name)).start
          givenEscapedSession = (.ok found, left) ∧
        (vulnerabilities ⟨.standard, false⟩ (Store.source default) (.string other)).start
          givenEscapedSession = (.ok found, left') := by
  intro name other
  have hdata : (Store.ofRecords givenEscaped).fault = none := rfl
  have hcase : Text.smallLetters name = Text.smallLetters other := by decide
  have hsession : givenEscapedSession.state.data = (Store.ofRecords givenEscaped).store := by
    rw [givenEscapedSession]
  obtain ⟨_, found, left, left', hrun, hrun'⟩ := lookups_ignore_letterCase ⟨.standard, false⟩ hdata default
    hcase givenEscapedSession givenEscapedSession hsession hsession
  refine ⟨hdata, hcase, found, left, left', ?_, hrun, hrun'⟩
  obtain ⟨hs, _, hloaded⟩ := Store.ofRecords_spec hdata
  obtain ⟨_, _, hrun'', _⟩ :=
    exists_start_vulnerabilities ⟨.standard, false⟩ hs hloaded default name givenEscapedSession hsession
  obtain rfl : found = _ := Except.ok.inj (Prod.mk.inj (hrun.symm.trans hrun'')).1
  -- what is found is not nothing
  have hvalid : (Cpe.parse name).isValid = true := by decide +kernel
  obtain ⟨v, hheld, hmatch⟩ : ∃ v,
      (Store.ofRecords givenEscaped).store.held[Json.Key.text "A"]? = some v ∧
      (Engine.standard.match? (Cpe.parse name).version (v.entriesFor (Cpe.parse name).key)
        (.string (Cpe.parse name).vendor) (.string (Cpe.parse name).product)).isSome = true :=
    ⟨_, rfl, by decide +kernel⟩
  obtain ⟨m, hm⟩ := Option.isSome_iff_exists.1 hmatch
  rw [foundIn, if_pos hvalid]
  exact List.ne_nil_of_mem
    ((mem_foundOn_iff ⟨.standard, false⟩ hs name _).2 ⟨.text "A", v, m, hheld, hm, rfl⟩)

end Lookup

end CpeMatch
