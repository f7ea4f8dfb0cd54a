import CpeMatch.Store.Basic
import CpeMatch.Proofs.Json.Keys
import CpeMatch.Proofs.StableSort

/-!
**What a store holds.**

Of the vulnerabilities that are added under one id the last one is held, and the rows of the index under
that id are those of the vulnerability held, in the order in which it lists them.  So whatever has been
added and replaced, the index says nothing that the vulnerabilities held do not say.

Main definitions:

* `CpeMatch.Vulnerability.IsNamed` — a vulnerability under an id that its rows carry, too;
* `CpeMatch.Store.SameButData` — what a store has come to by changes of its data alone;
* `CpeMatch.Store.Legible` — each row of the index has a text as its id and one as its CPE name;
* `CpeMatch.Store.Coherent` — the index says of each id what is held under it;
* `CpeMatch.Store.lastUnder?` — the last of several vulnerabilities under a key.

Main results:

* `CpeMatch.Store.Coherent.add` — **adding a vulnerability keeps the index coherent**;
* `CpeMatch.Store.Coherent.mem_index_iff` — the rows of the index.
-/

set_option autoImplicit false

namespace CpeMatch

/-- A vulnerability under an id that is a text, and whose rows carry that id. -/
structure Vulnerability.IsNamed (v : Vulnerability) (id : Text) : Prop where
  id_eq : v.id = .string id
  rows : ∀ r ∈ v.software, r.id = .string id

/-- The id of a row as a text. -/
def SoftwareRecord.idText (r : SoftwareRecord) : Text := r.id.text?.getD Text.empty

theorem SoftwareRecord.idText_of_string {r : SoftwareRecord} {id : Text} (h : r.id = .string id) :
    r.idText = id := by
  rw [idText, h]
  rfl

namespace Store

/-! ### Rows of the index -/

/-- The row of the index for a row of affected software, if there is one. -/
def postingOf? (r : SoftwareRecord) : Option Posting :=
  match posting? r with
  | .ok p => p
  | .error _ => none

/-- Nothing but a text says vendor and product. -/
theorem exists_string_of_isValid {v : Json} {c : Cpe} (h : Cpe.ofJson v = .ok c)
    (hc : c.isValid = true) : ∃ name, v = .string name ∧ c = Cpe.parse name := by
  cases v with
  | string name => exact ⟨name, rfl, (Except.ok.inj h).symm⟩
  | _ =>
      simp only [Cpe.ofJson] at h
      split at h
      · cases h
      · have hempty : (Cpe.parse Text.empty).isValid = false := rfl
        rw [← Except.ok.inj h, hempty] at hc
        exact absurd hc Bool.false_ne_true

/-- A row is indexed if its CPE name is a text that says vendor and product. -/
theorem postingOf?_eq_some_iff {r : SoftwareRecord} {p : Posting} :
    postingOf? r = some p ↔ ∃ name, r.cpe = .string name ∧ (Cpe.parse name).isValid = true ∧
      p = ⟨(Cpe.parse name).vendor, (Cpe.parse name).product, r⟩ := by
  constructor
  · intro h
    rw [postingOf?, posting?] at h
    cases hc : Cpe.ofJson r.cpe with
    | error f => simp [hc, Except.map] at h
    | ok c =>
        simp only [hc, Except.map, Option.ite_none_right_eq_some, Option.some.injEq] at h
        obtain ⟨hvalid, rfl⟩ := h
        obtain ⟨name, hname, rfl⟩ := exists_string_of_isValid hc hvalid
        exact ⟨name, hname, hvalid, rfl⟩
  · rintro ⟨name, hname, hvalid, rfl⟩
    rw [postingOf?, posting?, hname, Cpe.ofJson_string]
    simp [Except.map, hvalid]

theorem record_of_postingOf? {r : SoftwareRecord} {p : Posting} (h : postingOf? r = some p) :
    p.record = r := by
  obtain ⟨name, _, _, rfl⟩ := postingOf?_eq_some_iff.1 h
  rfl

/-- Rows are indexed one by one, those that are passed over apart. -/
theorem postings_indexRows {id : Json} {rows : List SoftwareRecord}
    (h : (indexRows id rows).fault = none) : (indexRows id rows).postings = rows.filterMap postingOf? := by
  induction rows with
  | nil => rfl
  | cons r rest ih =>
      rw [indexRows] at h ⊢
      cases hr : posting? r with
      | error f => simp [hr] at h
      | ok p =>
          have hpr : postingOf? r = p := by rw [postingOf?, hr]
          cases p with
          | none =>
              simp only [hr] at h ⊢
              rw [List.filterMap_cons_none hpr, ih h]
          | some p =>
              simp only [hr] at h ⊢
              rw [List.filterMap_cons_some hpr, ih h]

/-- Rows whose CPE names can be read are all looked at. -/
theorem fault_indexRows {id : Json} {rows : List SoftwareRecord}
    (h : ∀ r ∈ rows, ∃ c, Cpe.ofJson r.cpe = .ok c) : (indexRows id rows).fault = none := by
  induction rows with
  | nil => rfl
  | cons r rest ih =>
      obtain ⟨c, hc⟩ := h r (List.mem_cons_self ..)
      have hrest := ih fun r' hr' => h r' (List.mem_cons_of_mem r hr')
      rw [indexRows, posting?, hc]
      cases hvalid : c.isValid <;> simp [Except.map, hvalid, hrest]

/-- The rows of the index that belong to a vulnerability, which may be missing. -/
def rowsOf : Option Vulnerability → List Posting
  | none => []
  | some v => v.software.filterMap postingOf?

theorem id_of_mem_rowsOf {v : Vulnerability} {id : Text} (hv : v.IsNamed id) {p : Posting}
    (hp : p ∈ rowsOf (some v)) : p.record.id = .string id := by
  obtain ⟨r, hr, hrp⟩ := List.mem_filterMap.1 hp
  rw [record_of_postingOf? hrp]
  exact hv.rows r hr

theorem filter_rowsOf_self {v : Vulnerability} {id : Text} (hv : v.IsNamed id) :
    ((rowsOf (some v)).filter fun p => p.record.id == .string id) = rowsOf (some v) := by
  refine List.filter_eq_self.2 ?_
  intro p hp
  rw [id_of_mem_rowsOf hv hp, Json.beq_string]
  exact decide_eq_true rfl

theorem filter_rowsOf_of_ne {v : Vulnerability} {id id' : Text} (hv : v.IsNamed id) (hne : id ≠ id') :
    ((rowsOf (some v)).filter fun p => p.record.id == .string id') = [] := by
  refine List.filter_eq_nil_iff.2 ?_
  intro p hp
  rw [id_of_mem_rowsOf hv hp, Json.beq_string, decide_eq_true_iff]
  exact hne

/-! ### Adding a vulnerability -/

theorem held_add (s : Store) {v : Vulnerability} {id : Text} (hv : v.IsNamed id) :
    (s.add v).store.held = s.held.insert (.text id) v := by
  simp [add, hv.id_eq]

theorem held_add_self (s : Store) {v : Vulnerability} {id : Text} (hv : v.IsNamed id) :
    (s.add v).store.held[Json.Key.text id]? = some v := by
  rw [held_add s hv, Std.TreeMap.getElem?_insert_self]

theorem held_add_of_ne (s : Store) {v : Vulnerability} {id : Text} (hv : v.IsNamed id) {key : Json.Key}
    (hne : Json.Key.text id ≠ key) : (s.add v).store.held[key]? = s.held[key]? := by
  rw [held_add s hv, Std.TreeMap.getElem?_insert, if_neg]
  intro heq
  exact hne (Std.LawfulEqOrd.eq_of_compare heq)

/-- What is held under a key after adding a vulnerability. -/
theorem getElem?_held_add (s : Store) {v : Vulnerability} {id : Text} (hv : v.IsNamed id)
    (key : Json.Key) :
    (s.add v).store.held[key]? =
      (if v.id.key? = some key then some v else none).or s.held[key]? := by
  rw [hv.id_eq, Json.key?_string]
  by_cases heq : Json.Key.text id = key
  · rw [← heq, held_add_self s hv, if_pos rfl, Option.some_or]
  · rw [held_add_of_ne s hv heq, if_neg (fun h => heq (Option.some.inj h)), Option.none_or]

/-- From `s` the store `t` has come by what is done to its data alone. -/
structure SameButData (s t : Store) : Prop where
  config_eq : t.config = s.config
  loaded_eq : t.loaded = s.loaded
  monitor_eq : t.monitor = s.monitor

theorem SameButData.refl (s : Store) : s.SameButData s := ⟨rfl, rfl, rfl⟩

theorem SameButData.trans {s t u : Store} (h : s.SameButData t) (h' : t.SameButData u) : s.SameButData u :=
  ⟨h'.config_eq.trans h.config_eq, h'.loaded_eq.trans h.loaded_eq, h'.monitor_eq.trans h.monitor_eq⟩

theorem sameButData_add (s : Store) (v : Vulnerability) : s.SameButData (s.add v).store := by
  rw [add]
  split
  · exact .refl s
  · exact ⟨rfl, rfl, rfl⟩

/-- A vulnerability whose CPE names can be read is added. -/
theorem fault_add (s : Store) {v : Vulnerability} {id : Text} (hv : v.IsNamed id)
    (hcpe : ∀ r ∈ v.software, ∃ c, Cpe.ofJson r.cpe = .ok c) : (s.add v).fault = none := by
  simpa [add, hv.id_eq] using fault_indexRows hcpe

/-! ### Rows that can be read -/

/-- Each row of the index has a text as its id and one as its CPE name. -/
structure Legible (s : Store) : Prop where
  ids : ∀ p ∈ s.index.toList, ∃ id, p.record.id = .string id
  names : ∀ p ∈ s.index.toList, ∃ name, p.record.cpe = .string name

theorem legible_empty (config : Option Config) : (empty config).Legible where
  ids p h := by simp [empty] at h
  names p h := by simp [empty] at h

theorem exists_of_mem_postings_indexRows {id : Json} {rows : List SoftwareRecord} {p : Posting}
    (hp : p ∈ (indexRows id rows).postings) : ∃ r ∈ rows, postingOf? r = some p := by
  induction rows with
  | nil => cases hp
  | cons r rest ih =>
      rw [indexRows] at hp
      cases hr : posting? r with
      | error f => simp [hr] at hp
      | ok q =>
          have hqr : postingOf? r = q := by rw [postingOf?, hr]
          cases q with
          | none =>
              simp only [hr] at hp
              obtain ⟨r', hr', hp'⟩ := ih hp
              exact ⟨r', List.mem_cons_of_mem r hr', hp'⟩
          | some q =>
              simp only [hr] at hp
              rcases List.mem_cons.1 hp with rfl | hp
              · exact ⟨r, List.mem_cons_self .., hqr⟩
              · obtain ⟨r', hr', hp'⟩ := ih hp
                exact ⟨r', List.mem_cons_of_mem r hr', hp'⟩

namespace Legible

variable {s : Store}

/-- A vulnerability whose rows have texts as their ids leaves all rows legible, also where not all of its
CPE names can be read. -/
theorem add (hs : s.Legible) {v : Vulnerability} (hv : ∀ r ∈ v.software, ∃ id, r.id = .string id) :
    (s.add v).store.Legible := by
  have hmem : ∀ p ∈ (s.add v).store.index.toList,
      p ∈ s.index.toList ∨ ∃ r ∈ v.software, postingOf? r = some p := by
    intro p hp
    rw [Store.add] at hp
    split at hp
    · exact Or.inl hp
    · simp only [Array.toList_append, List.mem_append] at hp
      rcases hp with hp | hp
      · split at hp
        · rw [withoutRows, Array.toList_filter] at hp
          exact Or.inl (List.mem_filter.1 hp).1
        · exact Or.inl hp
      · exact Or.inr (exists_of_mem_postings_indexRows hp)
  refine ⟨?_, ?_⟩
  · intro p hp
    rcases hmem p hp with hp | ⟨r, hr, hrp⟩
    · exact hs.ids p hp
    · rw [record_of_postingOf? hrp]
      exact hv r hr
  · intro p hp
    rcases hmem p hp with hp | ⟨r, _, hrp⟩
    · exact hs.names p hp
    · obtain ⟨name, hname, _⟩ := postingOf?_eq_some_iff.1 hrp
      exact ⟨name, by rw [record_of_postingOf? hrp, hname]⟩

/-- Whether the rows can be read depends on the index alone. -/
theorem of_index_eq {t : Store} (hs : s.Legible) (h : t.index = s.index) : t.Legible where
  ids := by rw [h]; exact hs.ids
  names := by rw [h]; exact hs.names

theorem id_of_mem_index (hs : s.Legible) {p : Posting} (hp : p ∈ s.index.toList) :
    p.record.id = .string p.record.idText := by
  obtain ⟨id, hid⟩ := hs.ids p hp
  rw [SoftwareRecord.idText_of_string hid, hid]

theorem id_of_mem_postings (hs : s.Legible) {vendor product : Text} {r : SoftwareRecord}
    (hr : r ∈ s.postings vendor product) : r.id = .string r.idText := by
  obtain ⟨p, hp, rfl⟩ := List.mem_map.1 hr
  exact hs.id_of_mem_index (List.mem_filter.1 hp).1

/-- The rows of a product can be sorted, since their ids are texts. -/
theorem records_eq_sortedBy (hs : s.Legible) (vendor product : Text) :
    s.records vendor product = .ok (sortedBy (·.idText) (s.postings vendor product)) := by
  rw [records, sortById?_eq_sortedBy fun r hr => hs.id_of_mem_postings hr]

end Legible

/-! ### The index says what is held -/

/-- The vulnerabilities held are under their own ids, and the index has the rows of each of them, in the
order in which it lists them, and no others. -/
structure Coherent (s : Store) : Prop where
  named : ∀ (key : Json.Key) (v : Vulnerability), s.held[key]? = some v →
    ∃ id, key = .text id ∧ v.IsNamed id
  rows : ∀ id, (s.index.toList.filter fun p => p.record.id == .string id) =
    rowsOf s.held[Json.Key.text id]?
  ids : ∀ p ∈ s.index.toList, ∃ id, p.record.id = .string id

theorem coherent_empty (config : Option Config) : (empty config).Coherent where
  named key v h := by simp [empty] at h
  rows id := by simp [empty, rowsOf]
  ids p h := by simp [empty] at h

namespace Coherent

variable {s : Store}

/-- The rows of the index are those of the vulnerabilities held. -/
theorem mem_index_iff (hs : s.Coherent) {p : Posting} :
    p ∈ s.index.toList ↔ ∃ id v, s.held[Json.Key.text id]? = some v ∧
      ∃ r ∈ v.software, postingOf? r = some p := by
  constructor
  · intro hp
    obtain ⟨id, hid⟩ := hs.ids p hp
    have hrows : p ∈ rowsOf s.held[Json.Key.text id]? := by
      rw [← hs.rows id, List.mem_filter]
      exact ⟨hp, by rw [hid]; exact decide_eq_true rfl⟩
    cases hheld : s.held[Json.Key.text id]? with
    | none => simp [hheld, rowsOf] at hrows
    | some v =>
        rw [hheld] at hrows
        exact ⟨id, v, hheld, List.mem_filterMap.1 hrows⟩
  · rintro ⟨id, v, hheld, hr⟩
    have hrows : p ∈ rowsOf s.held[Json.Key.text id]? := by
      rw [hheld]
      exact List.mem_filterMap.2 hr
    rw [← hs.rows id] at hrows
    exact (List.mem_filter.1 hrows).1

theorem legible (hs : s.Coherent) : s.Legible where
  ids := hs.ids
  names p hp := by
    obtain ⟨_, _, _, r, _, hrp⟩ := hs.mem_index_iff.1 hp
    obtain ⟨name, hname, _⟩ := postingOf?_eq_some_iff.1 hrp
    exact ⟨name, by rw [record_of_postingOf? hrp, hname]⟩

variable {v : Vulnerability} {id : Text}

theorem id_eq_of_held (hs : s.Coherent) (hheld : s.held[Json.Key.text id]? = some v) :
    v.id = .string id := by
  obtain ⟨id', hkey, hv⟩ := hs.named _ v hheld
  rw [hv.id_eq, Json.Key.text.inj hkey]

/-- The rows of a vulnerability that is added come behind all others, and in place of those of the one
that it replaces. -/
theorem index_add (hs : s.Coherent) (hv : v.IsNamed id) (hfault : (s.add v).fault = none) :
    (s.add v).store.index.toList =
      (s.index.toList.filter fun p => !(p.record.id == .string id)) ++ rowsOf (some v) := by
  have hrows : (indexRows (.string id) v.software).fault = none := by
    simpa [add, hv.id_eq] using hfault
  have hpostings := postings_indexRows hrows
  cases hheld : s.held.contains (.text id) with
  | true => simp [add, hv.id_eq, hheld, withoutRows, hpostings, rowsOf]
  | false =>
      have hnone : s.held[Json.Key.text id]? = none := by
        rw [Std.TreeMap.contains_eq_isSome_getElem?] at hheld
        exact Option.not_isSome_iff_eq_none.1 (by rw [hheld]; exact Bool.false_ne_true)
      have hself : (s.index.toList.filter fun p => !(p.record.id == .string id)) = s.index.toList := by
        have hnil := hs.rows id
        rw [hnone, rowsOf, List.filter_eq_nil_iff] at hnil
        refine List.filter_eq_self.2 ?_
        intro p hp
        rw [Bool.not_eq_true', ← Bool.not_eq_true]
        exact hnil p hp
      rw [hself]
      simp [add, hv.id_eq, hheld, hpostings, rowsOf]

/-- The rows of the other ids stay as they are. -/
theorem filter_index_add_of_ne (hs : s.Coherent) (hv : v.IsNamed id) (hfault : (s.add v).fault = none)
    {id' : Text} (hne : id ≠ id') :
    ((s.add v).store.index.toList.filter fun p => p.record.id == .string id') =
      s.index.toList.filter fun p => p.record.id == .string id' := by
  rw [hs.index_add hv hfault, List.filter_append, filter_rowsOf_of_ne hv hne, List.append_nil,
    List.filter_filter]
  refine List.filter_congr ?_
  intro p hp
  obtain ⟨id'', hid⟩ := hs.ids p hp
  rw [hid, Json.beq_string, Json.beq_string]
  by_cases h : id'' = id'
  · simp [h, Ne.symm hne]
  · simp [h]

/-- **Adding a vulnerability keeps the index coherent.** -/
theorem add (hs : s.Coherent) (hv : v.IsNamed id) (hfault : (s.add v).fault = none) :
    (s.add v).store.Coherent where
  named key w h := by
    by_cases heq : Json.Key.text id = key
    · rw [← heq, held_add_self s hv] at h
      obtain rfl := Option.some.inj h
      exact ⟨id, heq.symm, hv⟩
    · rw [held_add_of_ne s hv heq] at h
      exact hs.named key w h
  rows id' := by
    by_cases heq : id = id'
    · -- none of the old rows of this id is left
      subst heq
      rw [hs.index_add hv hfault, List.filter_append, List.filter_filter, filter_rowsOf_self hv,
        held_add_self s hv]
      simp
    · have hkey : Json.Key.text id ≠ .text id' := fun h => heq (Json.Key.text.inj h)
      rw [hs.filter_index_add_of_ne hv hfault heq, held_add_of_ne s hv hkey]
      exact hs.rows id'
  ids p hp := by
    rw [hs.index_add hv hfault, List.mem_append] at hp
    rcases hp with hp | hp
    · exact hs.ids p (List.mem_filter.1 hp).1
    · exact ⟨id, id_of_mem_rowsOf hv hp⟩

end Coherent

/-! ### The last vulnerability under a key -/

/-- The last of the vulnerabilities that are under a key. -/
def lastUnder? (vs : List Vulnerability) (key : Json.Key) : Option Vulnerability :=
  vs.reverse.find? fun v => v.id.key? = some key

theorem lastUnder?_nil (key : Json.Key) : lastUnder? [] key = none := rfl

theorem lastUnder?_cons (v : Vulnerability) (vs : List Vulnerability) (key : Json.Key) :
    lastUnder? (v :: vs) key =
      (lastUnder? vs key).or (if v.id.key? = some key then some v else none) := by
  rw [lastUnder?, lastUnder?, List.reverse_cons, List.find?_append]
  by_cases h : v.id.key? = some key <;> simp [h]

end Store

end CpeMatch
