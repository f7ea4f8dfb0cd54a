import Mathlib.Algebra.Group.Int.Defs
import CpeMatch.Proofs.Store.Contents
import CpeMatch.Proofs.Store.Decoding

/-!
**Taking data in.**

Whatever a value gives can be added to a store, so that taking values in ends at the first that cannot be
read, and at no other.  What is held afterwards is, of each id, the last vulnerability that the values
give under it.

Main definitions:

* `CpeMatch.Store.given` — the vulnerabilities that data give;
* `CpeMatch.Store.KeptByAdding` — what holds of a store whatever is taken in.

Main results:

* `CpeMatch.Store.fault_absorbAll` — **taking values in ends at the first that cannot be read**;
* `CpeMatch.Store.coherent_absorbAll`, `CpeMatch.Store.ofRecords_spec` — a store that has taken data in;
* `CpeMatch.Store.holds_named_unless_beyondFloats` — **only a score beyond the floating-point numbers is
  not passed over**;
* `CpeMatch.Store.ofRecords_of_beyondFloats` — such a score ends the reading of a whole database.
-/

set_option autoImplicit false

namespace CpeMatch.Store

/-! ### Vulnerabilities from data -/

/-- The vulnerability that a value gives, if any. -/
def given? (data : Json) : Option Vulnerability :=
  match decode data with
  | .ok (v, _) => v
  | .error _ => none

/-- The vulnerabilities that the values of a list give. -/
def given (data : List Json) : List Vulnerability := data.filterMap given?

theorem given_cons_none {value : Json} {rest : List Json} (h : given? value = none) :
    given (value :: rest) = given rest := List.filterMap_cons_none h

theorem given_cons_some {value : Json} {rest : List Json} {v : Vulnerability}
    (h : given? value = some v) : given (value :: rest) = v :: given rest :=
  List.filterMap_cons_some h

/-- What a value gives is under a text, which its rows carry, too, and its CPE names can be read. -/
theorem of_given? {data : Json} {v : Vulnerability} (h : given? data = some v) :
    ∃ id, Names data id ∧ v.IsNamed id ∧ ∀ r ∈ v.software, ∃ c, Cpe.ofJson r.cpe = .ok c := by
  unfold given? at h
  split at h
  next hdecode =>
    subst h
    obtain ⟨id, score, hid, rfl⟩ := eq_decoded_of_decode hdecode
    refine ⟨id, hid, ⟨rfl, fun r hr => (of_mem_decodeSoftware hr).1⟩, ?_⟩
    intro r hr
    obtain ⟨_, cpe, hcpe⟩ := of_mem_decodeSoftware hr
    exact ⟨Cpe.parse cpe, by rw [hcpe, Cpe.ofJson_string]⟩
  next => cases h

/-! ### One value -/

/-- A value that is taken in adds the vulnerability that it gives, if it gives one. -/
theorem store_absorb (origin : Option Text) (s : Store) (data : Json) :
    (absorb origin s data).store =
      match given? data with
      | some v => (s.add v).store
      | none => s := by
  rw [absorb, given?]
  cases decode data with
  | error f => rfl
  | ok read =>
      obtain ⟨v, complaints⟩ := read
      cases v <;> rfl

/-- Taking a value in fails where reading it does. -/
theorem fault_absorb (origin : Option Text) (s : Store) (data : Json) :
    (absorb origin s data).fault = decodeFault? data := by
  have hgiven : given? data = (match decode data with | .ok (v, _) => v | .error _ => none) := rfl
  rw [absorb, decodeFault?]
  cases hdecode : decode data with
  | error f => rfl
  | ok read =>
      obtain ⟨v, complaints⟩ := read
      cases v with
      | none => rfl
      | some v =>
          rw [hdecode] at hgiven
          obtain ⟨id, _, hv, hcpe⟩ := of_given? hgiven
          exact fault_add s hv hcpe

/-! ### Many values -/

/-- What holds of a store still holds after adding a vulnerability under an id that its rows carry. -/
def KeptByAdding (p : Store → Prop) : Prop :=
  ∀ (s : Store) (v : Vulnerability) (id : Text), v.IsNamed id → p s → p (s.add v).store

namespace KeptByAdding

variable {p : Store → Prop} {s : Store}

theorem absorb (hp : KeptByAdding p) (origin : Option Text) (hs : p s) (data : Json) :
    p (absorb origin s data).store := by
  rw [store_absorb]
  cases hgiven : given? data with
  | none => exact hs
  | some v =>
      obtain ⟨id, _, hv, _⟩ := of_given? hgiven
      exact hp s v id hv hs

/-- It still holds after taking values in, also where this ends with a fault. -/
theorem absorbAll (hp : KeptByAdding p) (origin : Option Text) (hs : p s) (data : List Json) :
    p (absorbAll origin s data).store := by
  induction data generalizing s with
  | nil => exact hs
  | cons value rest ih =>
      have hfirst := hp.absorb origin hs value
      rw [Store.absorbAll]
      cases (Store.absorb origin s value).fault with
      | some f => exact hfirst
      | none => exact ih hfirst

end KeptByAdding

theorem keptByAdding_sameButData (s : Store) : KeptByAdding s.SameButData := by
  intro t v _ _ h
  exact h.trans (sameButData_add t v)

theorem keptByAdding_legible : KeptByAdding Legible := by
  intro s v id hv hs
  exact hs.add fun r hr => ⟨id, hv.rows r hr⟩

theorem sameButData_absorbAll (origin : Option Text) (s : Store) (data : List Json) :
    s.SameButData (absorbAll origin s data).store :=
  (keptByAdding_sameButData s).absorbAll origin (.refl s) data

/-- Taking values in ends at the first that cannot be read. -/
theorem fault_absorbAll (origin : Option Text) (s : Store) (data : List Json) :
    (absorbAll origin s data).fault = data.findSome? decodeFault? := by
  induction data generalizing s with
  | nil => rfl
  | cons v rest ih =>
      have hfirst := fault_absorb origin s v
      rw [absorbAll, List.findSome?_cons]
      cases hv : decodeFault? v with
      | none =>
          rw [hv] at hfirst
          simp only [hfirst]
          exact ih _
      | some f =>
          rw [hv] at hfirst
          simp only [hfirst]

/-- **What a store holds when it has taken data in**: of each key the last vulnerability that the data
give under it, and what has been held before under the other keys. -/
theorem coherent_absorbAll {origin : Option Text} {s : Store} {data : List Json} (hs : s.Coherent)
    (hfault : (absorbAll origin s data).fault = none) :
    (absorbAll origin s data).store.Coherent ∧
      ∀ key, (absorbAll origin s data).store.held[key]? =
        (lastUnder? (given data) key).or s.held[key]? := by
  induction data generalizing s with
  | nil => exact ⟨hs, fun key => rfl⟩
  | cons value rest ih =>
      have hstore := store_absorb origin s value
      rw [absorbAll] at hfault ⊢
      cases hfirst : (absorb origin s value).fault with
      | some f => simp [hfirst] at hfault
      | none =>
          simp only [hfirst] at hfault ⊢
          cases hgiven : given? value with
          | none =>
              simp only [hgiven] at hstore
              rw [hstore] at hfault ⊢
              rw [given_cons_none hgiven]
              exact ih hs hfault
          | some v =>
              obtain ⟨id, _, hv, hcpe⟩ := of_given? hgiven
              simp only [hgiven] at hstore
              rw [hstore] at hfault ⊢
              obtain ⟨hcoherent, hheld⟩ := ih (hs.add hv (fault_add s hv hcpe)) hfault
              refine ⟨hcoherent, ?_⟩
              intro key
              rw [hheld key, given_cons_some hgiven, lastUnder?_cons, Option.or_assoc,
                getElem?_held_add s hv]

/-- A store of given data holds of each key the last vulnerability that the data give under it. -/
theorem ofRecords_spec {data : List Json} (hfault : (ofRecords data).fault = none) :
    (ofRecords data).store.Coherent ∧
      (∀ key, (ofRecords data).store.held[key]? = lastUnder? (given data) key) ∧
      (ofRecords data).store.loaded = true := by
  obtain ⟨hcoherent, hheld⟩ := coherent_absorbAll (coherent_empty none) hfault
  refine ⟨hcoherent, ?_, (sameButData_absorbAll none (empty none) data).loaded_eq⟩
  intro key
  rw [ofRecords, hheld key]
  simp [empty]

/-! ### What is not passed over -/

/-- An object that can be read gives a vulnerability under its id. -/
theorem exists_given?_iff {data : Json} (hfault : decodeFault? data = none) (id : Text) :
    (∃ v, given? data = some v ∧ v.id = .string id) ↔ Names data id := by
  constructor
  · rintro ⟨v, hv, hid⟩
    obtain ⟨id', hnames, hnamed, _⟩ := of_given? hv
    rw [hnamed.id_eq] at hid
    rwa [← Json.string.inj hid]
  · intro hnames
    obtain ⟨w, complaints, hdecode, hw, _⟩ := exists_decode hnames (decodeFault?_eq_none_iff.1 hfault id hnames)
    exact ⟨w, by rw [given?, hdecode], by rw [hw]; rfl⟩

theorem isSome_lastUnder?_iff (vs : List Vulnerability) (key : Json.Key) :
    (lastUnder? vs key).isSome = true ↔ ∃ v ∈ vs, v.id.key? = some key := by
  simp [lastUnder?]

/-- Data can all be taken in if no object with an id has a score beyond the range. -/
theorem fault_ofRecords_eq_none_iff (data : List Json) :
    (ofRecords data).fault = none ↔
      ∀ v ∈ data, ∀ id, Names v id → ¬ IsBeyondFloats (v.getD "cvss_score") := by
  rw [ofRecords, fault_absorbAll, List.findSome?_eq_none_iff]
  exact forall₂_congr fun v _ => decodeFault?_eq_none_iff

theorem fault_ofRecords_cases (data : List Json) :
    (ofRecords data).fault = none ∨ (ofRecords data).fault = some .beyondFloats := by
  rw [ofRecords, fault_absorbAll]
  cases hfirst : data.findSome? decodeFault? with
  | none => exact Or.inl rfl
  | some f =>
      obtain ⟨v, _, hv⟩ := List.exists_of_findSome?_eq_some hfirst
      rw [(decodeFault?_eq_some_iff.1 hv).1]
      exact Or.inr rfl

/-- A store of given data holds exactly the ids of the objects among them. -/
theorem contains_ofRecords_iff {data : List Json} (hfault : (ofRecords data).fault = none)
    (key : Json.Key) :
    (ofRecords data).store.held.contains key = true ↔ ∃ id, key = .text id ∧ ∃ v ∈ data, Names v id := by
  obtain ⟨_, hheld, _⟩ := ofRecords_spec hfault
  rw [ofRecords, fault_absorbAll, List.findSome?_eq_none_iff] at hfault
  rw [Std.TreeMap.contains_eq_isSome_getElem?, hheld, isSome_lastUnder?_iff]
  constructor
  · rintro ⟨w, hw, hkey⟩
    obtain ⟨v, hv, hgiven⟩ := List.mem_filterMap.1 hw
    obtain ⟨id, hnames, hnamed, _⟩ := of_given? hgiven
    rw [hnamed.id_eq, Json.key?_string] at hkey
    exact ⟨id, (Option.some.inj hkey).symm, v, hv, hnames⟩
  · rintro ⟨id, rfl, v, hv, hnames⟩
    obtain ⟨w, hw, hid⟩ := (exists_given?_iff (hfault v hv) id).2 hnames
    exact ⟨w, List.mem_filterMap.2 ⟨v, hv, hw⟩, by rw [hid, Json.key?_string]⟩

/-- **Only a score beyond the floating-point numbers is not passed over.**  An object whose id is a text
that is not empty gives a vulnerability, whatever its other members are: the score is the one that its
value says and `null` where this says none, there is one row for each item of software that says a CPE
name, in their order, and every other part comes from its own member alone.  The one exception is a score
that is an integer beyond the range of floating-point numbers.  So data without such a score can all be
taken in, and then exactly the ids of their objects are held. -/
theorem holds_named_unless_beyondFloats {v : Json} {id : Text} (hnames : Names v id) (data : List Json) :
    (IsBeyondFloats (v.getD "cvss_score") → decode v = .error .beyondFloats) ∧
    (¬ IsBeyondFloats (v.getD "cvss_score") →
      ∃ w complaints, decode v = .ok (some w, complaints) ∧ w = decoded v id w.score ∧
        (∀ x, w.score = .float x ↔ Scores (v.getD "cvss_score") x) ∧
        (w.score = .null ↔ ∀ x, ¬ Scores (v.getD "cvss_score") x) ∧
        w.software.map (fun r => (r.id, r.cpe)) =
          ((v.getD "vulnerable_software").items.filterMap cpeOf?).map
            fun cpe => (Json.string id, Json.string cpe)) ∧
    ((ofRecords data).fault = none ↔
      ∀ v ∈ data, ∀ id, Names v id → ¬ IsBeyondFloats (v.getD "cvss_score")) ∧
    ((ofRecords data).fault = none ∨ (ofRecords data).fault = some .beyondFloats) ∧
    ((ofRecords data).fault = none → ∀ key,
      (ofRecords data).store.held.contains key = true ↔ ∃ id, key = .text id ∧ ∃ v ∈ data, Names v id) := by
  refine ⟨?_, exists_decode hnames, fault_ofRecords_eq_none_iff data, fault_ofRecords_cases data,
    contains_ofRecords_iff⟩
  intro hscore
  rw [decode_of_names hnames, decodeScore_of_isBeyondFloats id hscore]
  rfl

/-- An object whose score is an array, and with one item of software out of three. -/
def badMembers : Json :=
  .object [("id", .string "CVE-1"), ("cvss_score", .array [.null]), ("references", .bool true),
    ("vulnerable_software", .array [.int 42,
      .object [("cpe", .string "cpe:/a:v:p:1.0"), ("previous_version", .array [.object []])],
      .object [("cpe", .int 7)]])]

/-- Of the members that are of no use nothing is left but that they have been there. -/
theorem holds_named_unless_beyondFloats_badMembers :
    (∃ w complaints, decode badMembers = .ok (some w, complaints) ∧ w.id = .string "CVE-1" ∧
      w.score = .null ∧
      w.software.map (fun r => (r.id, r.cpe)) = [(.string "CVE-1", .string "cpe:/a:v:p:1.0")]) ∧
    (ofRecords [badMembers, .int 3]).store.held.contains (.text "CVE-1") = true := by
  have hnames : Names badMembers "CVE-1" := ⟨rfl, by decide⟩
  have hscore : ¬ IsBeyondFloats (badMembers.getD "cvss_score") := by
    rintro ⟨n, hn, _⟩
    cases hn
  obtain ⟨_, hdecode, _, _, hheld⟩ := holds_named_unless_beyondFloats hnames [badMembers, .int 3]
  obtain ⟨w, complaints, hw, hdecoded, _, hnull, hrows⟩ := hdecode hscore
  refine ⟨⟨w, complaints, hw, by rw [hdecoded]; rfl, ?_, hrows⟩, ?_⟩
  · refine hnull.2 ?_
    rintro x ⟨⟩
  · exact (hheld rfl _).2 ⟨"CVE-1", rfl, badMembers, by simp, hnames⟩

/-- An object with a score of four hundred and one digits. -/
def hugeScore : Json :=
  .object [("id", .string "CVE-2"), ("cvss_score", .int (10 ^ 400)),
    ("vulnerable_software", .array [.string "cpe:/a:v:p:1.0"])]

/-- A score beyond the range of floating-point numbers ends the reading of a whole database, though the
object has an id and every other score that is none is passed over. -/
theorem ofRecords_of_beyondFloats :
    Names hugeScore "CVE-2" ∧ decode hugeScore = .error .beyondFloats ∧
      (ofRecords [hugeScore, badMembers]).fault = some .beyondFloats := by
  have hnames : Names hugeScore "CVE-2" := ⟨rfl, by decide⟩
  have hscore : IsBeyondFloats (hugeScore.getD "cvss_score") := ⟨10 ^ 400, rfl, by decide +kernel⟩
  have hfault : decodeFault? hugeScore = some .beyondFloats :=
    decodeFault?_eq_some_iff.2 ⟨rfl, "CVE-2", hnames, hscore⟩
  refine ⟨hnames, ?_, ?_⟩
  · rw [decode_of_names hnames, decodeScore_of_isBeyondFloats _ hscore]
    rfl
  · rw [ofRecords, fault_absorbAll, List.findSome?_cons, hfault]

end CpeMatch.Store
