import Mathlib.Data.List.Basic
import CpeMatch.Proofs.Number.Range
import CpeMatch.Store.Decoding

/-!
**A bad member costs itself and nothing else.**

Of an object with an id every member may be of any kind.  A member that is of no use is left out, and the
rest of the object is taken as it is.  There is one exception: a score that is an integer beyond the range
of floating-point numbers ends the reading, and with it the reading of everything behind it.

Main definitions:

* `CpeMatch.Store.Names` — an object with an id;
* `CpeMatch.Store.Scores`, `CpeMatch.Store.IsBeyondFloats` — the values that say a score, and the integers
  that are too large for one;
* `CpeMatch.Store.cpeOf?` — the CPE name that an item of affected software says;
* `CpeMatch.Store.decoded` — the vulnerability of an object, whose score is given;
* `CpeMatch.Store.decodeFault?` — what ends the reading at a value.

Main results:

* `CpeMatch.Store.exists_decodeScore` — the score of an object is the one that its value says;
* `CpeMatch.Store.map_decodeSoftware` — the rows of an object are those that its items say;
* `CpeMatch.Store.decode_of_names` — **what an object with an id gives**;
* `CpeMatch.Store.decodeFault?_eq_some_iff` — the only fault is a score beyond the range.
-/

set_option autoImplicit false

namespace CpeMatch.Store

/-! ### Ids -/

/-- The value is an object whose id is a text that is not empty. -/
def Names (v : Json) (id : Text) : Prop := v.getD "id" = .string id ∧ id ≠ Text.empty

theorem decodeId?_eq_some_iff {v : Json} {id : Text} : decodeId? v = some id ↔ Names v id := by
  unfold decodeId? Names
  cases v.getD "id" with
  | string s =>
      by_cases hs : s = Text.empty
      · simp only [hs, if_true, Json.string.injEq]
        constructor
        · intro h
          cases h
        · rintro ⟨rfl, hne⟩
          exact absurd rfl hne
      · simp only [hs, if_false, Option.some.injEq, Json.string.injEq]
        constructor
        · rintro rfl
          exact ⟨rfl, hs⟩
        · rintro ⟨rfl, _⟩
          rfl
  | _ => simp

/-- Only an object has an id. -/
theorem Names.exists_members {v : Json} {id : Text} (h : Names v id) : ∃ members, v = .object members := by
  cases v with
  | object members => exact ⟨members, rfl⟩
  | _ => exact absurd h.1 (by simp [Json.getD, Json.get?])

/-! ### Scores -/

/-- The score that a value says: a truth value counts as one or zero, a number is taken to the nearest
floating-point number, and a text is read as a numeral. -/
inductive Scores : Json → Float → Prop where
  | bool (b : Bool) : Scores (.bool b) (if b then 1 else 0)
  | number {n : Number} {x : Float} (h : n.toFloat? = some x) : Scores (.number n) x
  | numeral {s : Text} {x : Float} (h : Number.readNumeral? s = some x) : Scores (.string s) x

/-- The value is an integer beyond the range of floating-point numbers. -/
def IsBeyondFloats (v : Json) : Prop := ∃ n : Int, v = Json.int n ∧ 2 ^ 1024 - 2 ^ 970 ≤ n.natAbs

theorem toFloat?_eq_none_iff (n : Number) : n.toFloat? = none ↔ IsBeyondFloats (.number n) := by
  cases n with
  | whole n =>
      rw [Number.toFloat?, Number.floatOfInt?_eq_none_iff]
      constructor
      · intro h
        exact ⟨n, rfl, h⟩
      · rintro ⟨m, hm, h⟩
        cases hm
        exact h
  | binary x =>
      constructor
      · intro h
        cases h
      · rintro ⟨m, hm, _⟩
        cases hm

/-- A value says one score at most. -/
theorem Scores.unique {v : Json} {x y : Float} (hx : Scores v x) (hy : Scores v y) : x = y := by
  cases hx with
  | bool b => cases hy; rfl
  | number hx =>
      cases hy with
      | number hy => exact Option.some.inj (hx.symm.trans hy)
  | numeral hx =>
      cases hy with
      | numeral hy => exact Option.some.inj (hx.symm.trans hy)

theorem decodeScore_of_isBeyondFloats (id : Text) {v : Json} (h : IsBeyondFloats v) :
    decodeScore id v = .error .beyondFloats := by
  obtain ⟨n, rfl, hn⟩ := h
  have hnone := (toFloat?_eq_none_iff (.whole n)).2 ⟨n, rfl, hn⟩
  simp [decodeScore, Json.int, hnone]

/-- The score of an object is the one that its value says, and `null` where this says none. -/
theorem exists_decodeScore (id : Text) {v : Json} (h : ¬ IsBeyondFloats v) :
    ∃ score complaints, decodeScore id v = .ok (score, complaints) ∧
      ((∃ x, score = .float x ∧ Scores v x) ∨ (score = .null ∧ ∀ x, ¬ Scores v x)) := by
  cases v with
  | null => exact ⟨_, _, rfl, Or.inr ⟨rfl, by rintro x ⟨⟩⟩⟩
  | bool b => exact ⟨_, _, rfl, Or.inl ⟨_, rfl, .bool b⟩⟩
  | number n =>
      cases hn : n.toFloat? with
      | none => exact absurd ((toFloat?_eq_none_iff n).1 hn) h
      | some x => exact ⟨.float x, [], by simp [decodeScore, hn], Or.inl ⟨x, rfl, .number hn⟩⟩
  | string s =>
      cases hs : Number.readNumeral? s with
      | none =>
          refine ⟨.null, [.badScore id (.string s)], by simp [decodeScore, hs], Or.inr ⟨rfl, ?_⟩⟩
          rintro x ⟨⟩
          rename_i hx
          rw [hs] at hx
          cases hx
      | some x => exact ⟨.float x, [], by simp [decodeScore, hs], Or.inl ⟨x, rfl, .numeral hs⟩⟩
  | array items => exact ⟨_, _, rfl, Or.inr ⟨rfl, by rintro x ⟨⟩⟩⟩
  | object members => exact ⟨_, _, rfl, Or.inr ⟨rfl, by rintro x ⟨⟩⟩⟩

/-- A score that is a number says it, and one that is `null` says that there is none. -/
theorem score_iff {v score : Json}
    (h : (∃ x, score = .float x ∧ Scores v x) ∨ (score = .null ∧ ∀ x, ¬ Scores v x)) :
    (∀ x, score = .float x ↔ Scores v x) ∧ (score = .null ↔ ∀ x, ¬ Scores v x) := by
  rcases h with ⟨y, rfl, hy⟩ | ⟨rfl, hnone⟩
  · refine ⟨?_, ?_⟩
    · intro x
      constructor
      · rintro ⟨⟩
        exact hy
      · intro hx
        exact congrArg Json.float (hy.unique hx)
    · constructor
      · rintro ⟨⟩
      · intro hnone
        exact absurd hy (hnone y)
  · refine ⟨?_, fun _ => hnone, fun _ => rfl⟩
    intro x
    constructor
    · rintro ⟨⟩
    · intro hx
      exact absurd hx (hnone x)

/-! ### Affected software -/

/-- The CPE name that an item of affected software says: a text is one, an object has one. -/
def cpeOf? (item : Json) : Option Text :=
  match item with
  | .string cpe => some cpe
  | item => (item.getD "cpe").text?

/-- An item that says a CPE name is a row with that name under the given id. -/
theorem map_decodeRecord? (id : Text) (item : Json) :
    (decodeRecord? id item).map (fun r => (r.id, r.cpe)) =
      (cpeOf? item).map fun cpe => (Json.string id, Json.string cpe) := by
  cases item with
  | object members => simp [decodeRecord?, cpeOf?, Function.comp_def]
  | _ => simp [decodeRecord?, cpeOf?, Json.getD, Json.get?, Json.text?]

/-- There is one row for each item that says a CPE name, in the order of the items. -/
theorem map_decodeSoftware (id : Text) (v : Json) :
    (decodeSoftware id v).1.map (fun r => (r.id, r.cpe)) =
      (v.items.filterMap cpeOf?).map fun cpe => (Json.string id, Json.string cpe) := by
  rw [decodeSoftware, List.map_filterMap, List.map_filterMap]
  exact List.filterMap_congr fun item _ => map_decodeRecord? id item

theorem of_mem_decodeSoftware {id : Text} {v : Json} {r : SoftwareRecord}
    (hr : r ∈ (decodeSoftware id v).1) : r.id = .string id ∧ ∃ cpe, r.cpe = .string cpe := by
  have hmem : (r.id, r.cpe) ∈ (decodeSoftware id v).1.map fun r => (r.id, r.cpe) := List.mem_map_of_mem hr
  rw [map_decodeSoftware] at hmem
  obtain ⟨cpe, _, hcpe⟩ := List.mem_map.1 hmem
  obtain ⟨hid, hcpe⟩ := Prod.mk.inj hcpe
  exact ⟨hid.symm, cpe, hcpe.symm⟩

/-! ### Objects -/

/-- The vulnerability of an object with an id, whose score is given. -/
def decoded (v : Json) (id : Text) (score : Json) : Vulnerability :=
  { id := .string id
    description := (v.getD "description").orElse (.string Vulnerability.noDescription)
    weakness := v.getD "cwe"
    score
    vector := v.getD "cvss_vector"
    references := decodeReferences (v.getD "references")
    software := (decodeSoftware id (v.getD "vulnerable_software")).1
    found := none }

/-- An object with an id gives a vulnerability as soon as its score can be read. -/
theorem decode_of_names {v : Json} {id : Text} (h : Names v id) :
    decode v = (decodeScore id (v.getD "cvss_score")).map fun read =>
      (some (decoded v id read.1),
        read.2 ++ (decodeSoftware id (v.getD "vulnerable_software")).2) := by
  obtain ⟨members, rfl⟩ := h.exists_members
  have hid := decodeId?_eq_some_iff.2 h
  have htruthy : (Json.string id).isTruthy = true := by simpa [Json.isTruthy] using h.2
  simp only [decode, hid]
  cases decodeScore id (Json.getD "cvss_score" (.object members)) with
  | error f => rfl
  | ok read =>
      simp only [bind, Except.bind, pure, Except.pure, Vulnerability.make, htruthy, if_true]
      rfl

/-- Whatever the members of an object with an id are, it gives a vulnerability, unless its score is beyond
the range. -/
theorem exists_decode {v : Json} {id : Text} (h : Names v id)
    (hscore : ¬ IsBeyondFloats (v.getD "cvss_score")) :
    ∃ w complaints, decode v = .ok (some w, complaints) ∧ w = decoded v id w.score ∧
      (∀ x, w.score = .float x ↔ Scores (v.getD "cvss_score") x) ∧
      (w.score = .null ↔ ∀ x, ¬ Scores (v.getD "cvss_score") x) ∧
      w.software.map (fun r => (r.id, r.cpe)) =
        ((v.getD "vulnerable_software").items.filterMap cpeOf?).map
          fun cpe => (Json.string id, Json.string cpe) := by
  obtain ⟨score, complaints, hread, hsays⟩ := exists_decodeScore id hscore
  obtain ⟨hfloat, hnull⟩ := score_iff hsays
  refine ⟨decoded v id score,
    complaints ++ (decodeSoftware id (v.getD "vulnerable_software")).2, ?_, rfl, hfloat, hnull,
    map_decodeSoftware id _⟩
  rw [decode_of_names h, hread]
  rfl

/-- A value without an id is passed over. -/
theorem decode_of_not_names {v : Json} (h : ∀ id, ¬ Names v id) :
    ∃ complaints, decode v = .ok (none, complaints) := by
  unfold decode
  split
  next members =>
    cases hid : decodeId? (.object members) with
    | none => exact ⟨_, rfl⟩
    | some id => exact absurd (decodeId?_eq_some_iff.1 hid) (h id)
  next => exact ⟨_, rfl⟩

/-- The vulnerability that a value gives is under the id of the value, and its rows can be read. -/
theorem eq_decoded_of_decode {v : Json} {w : Vulnerability} {complaints : List Complaint}
    (h : decode v = .ok (some w, complaints)) : ∃ id score, Names v id ∧ w = decoded v id score := by
  by_cases hid : ∃ id, Names v id
  · obtain ⟨id, hid⟩ := hid
    rw [decode_of_names hid] at h
    cases hscore : decodeScore id (v.getD "cvss_score") with
    | error f =>
        rw [hscore] at h
        cases h
    | ok read =>
        rw [hscore] at h
        exact ⟨id, read.1, hid, (Option.some.inj (Prod.mk.inj (Except.ok.inj h)).1).symm⟩
  · obtain ⟨others, hnone⟩ := decode_of_not_names fun id hid' => hid ⟨id, hid'⟩
    rw [hnone] at h
    cases h

/-! ### What cannot be read -/

/-- What ends the reading at a value, if anything does. -/
def decodeFault? (v : Json) : Option Fault :=
  match decode v with
  | .ok _ => none
  | .error f => some f

/-- The only fault is a score beyond the range, in an object with an id. -/
theorem decodeFault?_eq_some_iff {v : Json} {f : Fault} :
    decodeFault? v = some f ↔
      f = .beyondFloats ∧ ∃ id, Names v id ∧ IsBeyondFloats (v.getD "cvss_score") := by
  unfold decodeFault?
  by_cases hid : ∃ id, Names v id
  · obtain ⟨id, hid⟩ := hid
    by_cases hscore : IsBeyondFloats (v.getD "cvss_score")
    · rw [decode_of_names hid, decodeScore_of_isBeyondFloats id hscore]
      constructor
      · intro h
        exact ⟨(Option.some.inj h).symm, id, hid, hscore⟩
      · rintro ⟨rfl, _⟩
        rfl
    · obtain ⟨w, complaints, hdecode, _⟩ := exists_decode hid hscore
      rw [hdecode]
      constructor
      · intro h
        cases h
      · rintro ⟨_, _, _, h⟩
        exact absurd h hscore
  · obtain ⟨complaints, hnone⟩ := decode_of_not_names fun id hid' => hid ⟨id, hid'⟩
    rw [hnone]
    constructor
    · intro h
      cases h
    · rintro ⟨_, id, h, _⟩
      exact absurd ⟨id, h⟩ hid

theorem decodeFault?_eq_none_iff {v : Json} :
    decodeFault? v = none ↔ ∀ id, Names v id → ¬ IsBeyondFloats (v.getD "cvss_score") := by
  rw [Option.eq_none_iff_forall_ne_some]
  constructor
  · intro h id hid hscore
    exact h .beyondFloats (decodeFault?_eq_some_iff.2 ⟨rfl, id, hid, hscore⟩)
  · intro h f hf
    obtain ⟨_, id, hid, hscore⟩ := decodeFault?_eq_some_iff.1 hf
    exact h id hid hscore

end CpeMatch.Store
