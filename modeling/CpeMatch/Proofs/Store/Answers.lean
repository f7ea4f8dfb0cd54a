import Mathlib.Algebra.GroupWithZero.Nat
import Mathlib.Data.List.Perm.Basic
import CpeMatch.Proofs.Store.Contents
import CpeMatch.Proofs.Store.Loading

/-!
**A store answers from what it holds.**

The rows of the index stand in the order in which they arrived, and a vulnerability that is replaced takes
its rows with it.  None of this can be seen from outside: whatever has been added and replaced, every
answer is read off the vulnerabilities that have been added last under their ids.

Main definitions:

* `CpeMatch.Vulnerability.IsWellFormed` — a vulnerability under a text that its rows carry, too, whose CPE
  names can be read;
* `CpeMatch.Store.rowsFor`, `CpeMatch.Store.rowCount` — what vulnerabilities list;
* `CpeMatch.Store.lastOfEach` — the last of the vulnerabilities under each id, in ascending order of ids;
* `CpeMatch.Store.Holds`, `CpeMatch.Store.Answers` — a store that holds given vulnerabilities, and what
  one answers that does; `CpeMatch.Store.SameAnswers` — two stores that cannot be told apart.

Main results:

* `CpeMatch.Store.Holds.sortedBy_index` — **the index, sorted, is what the vulnerabilities list**;
* `CpeMatch.Store.Holds.answers` — the answers of a store that holds given vulnerabilities;
* `CpeMatch.Store.answers_of_adding` — **a store answers from the last vulnerability under each id**.
-/

set_option autoImplicit false

namespace CpeMatch

open Timing

/-! ### What vulnerabilities list -/

/-- Vendor and product of a row, if its CPE name says both. -/
def SoftwareRecord.product? (r : SoftwareRecord) : Option (Text × Text) :=
  match r.cpe with
  | .string name =>
    let c := Cpe.parse name
    if c.isValid then some c.key else none
  | _ => none

/-- A row is indexed under the product that its CPE name says. -/
theorem SoftwareRecord.product?_eq (r : SoftwareRecord) :
    r.product? = (Store.postingOf? r).map (·.key) := by
  refine Option.ext ?_
  intro key
  rw [Option.map_eq_some_iff]
  simp only [Store.postingOf?_eq_some_iff]
  constructor
  · intro h
    unfold product? at h
    split at h
    next name hname =>
      simp only [Option.ite_none_right_eq_some, Option.some.injEq] at h
      obtain ⟨hvalid, rfl⟩ := h
      exact ⟨_, ⟨name, hname, hvalid, rfl⟩, rfl⟩
    next => cases h
  · rintro ⟨p, ⟨name, hname, hvalid, rfl⟩, rfl⟩
    simp [product?, hname, hvalid, Store.Posting.key, Cpe.key]

/-- The id of a vulnerability as a text. -/
def Vulnerability.idText (v : Vulnerability) : Text := v.id.text?.getD Text.empty

/-- A vulnerability under a text that its rows carry, too, and whose CPE names can be read. -/
structure Vulnerability.IsWellFormed (v : Vulnerability) : Prop where
  named : v.IsNamed v.idText
  readable : ∀ r ∈ v.software, ∃ c, Cpe.ofJson r.cpe = .ok c

theorem Vulnerability.IsNamed.idText_eq {v : Vulnerability} {id : Text} (hv : v.IsNamed id) :
    v.idText = id := by
  rw [idText, hv.id_eq]
  rfl

namespace Store

/-- The rows that vulnerabilities list for a product, one vulnerability after another. -/
def rowsFor (vs : List Vulnerability) (key : Text × Text) : List SoftwareRecord :=
  vs.flatMap fun v => v.software.filter fun r => r.product? = some key

/-- The number of rows of vulnerabilities that say vendor and product. -/
def rowCount (vs : List Vulnerability) : Nat :=
  (vs.map fun v => (v.software.filterMap (·.product?)).length).sum

/-- The ids of vulnerabilities, each once, in ascending order. -/
def idsOf (vs : List Vulnerability) : List Text := (Std.TreeSet.ofList (vs.map (·.idText))).toList

/-- The last of the vulnerabilities under each id, in ascending order of ids. -/
def lastOfEach (vs : List Vulnerability) : List Vulnerability :=
  (idsOf vs).filterMap fun id => lastUnder? vs (.text id)

/-- What a store answers that holds the vulnerabilities `vs`, which are given in ascending order of
ids. -/
structure Answers (s : Store) (vs : List Vulnerability) : Prop where
  details : ∀ id, s.get? (.string id) = .ok (vs.find? fun v => v.idText = id)
  records : ∀ vendor product,
    s.records vendor product = .ok (rowsFor vs (Text.lower vendor, Text.lower product))
  cpes_ascending : ∀ vendor product, (s.cpes vendor product).Pairwise (· < ·)
  mem_cpes_iff : ∀ vendor product name, name ∈ s.cpes vendor product ↔
    ∃ r ∈ rowsFor vs (Text.lower vendor, Text.lower product), r.cpe = .string name
  products_ascending : s.products.Pairwise fun key key' => productOrder key key' = .lt
  mem_products_iff : ∀ key, key ∈ s.products ↔ rowsFor vs key ≠ []
  stats : s.stats = ⟨vs.length, s.products.length, rowCount vs⟩
  hasData_iff : s.hasData = true ↔ 0 < rowCount vs

/-- Two stores that answer every question alike. -/
structure SameAnswers (s t : Store) : Prop where
  details : ∀ id, s.get? (.string id) = t.get? (.string id)
  records : ∀ vendor product, s.records vendor product = t.records vendor product
  cpes : ∀ vendor product, s.cpes vendor product = t.cpes vendor product
  products : s.products = t.products
  stats : s.stats = t.stats
  hasData : s.hasData = t.hasData

/-! ### The order of products -/

instance : Std.TransCmp productOrder :=
  inferInstanceAs (Std.TransCmp (compareLex (compareOn (Prod.fst : Text × Text → Text))
    (compareOn Prod.snd)))

instance : Std.LawfulEqCmp productOrder where
  compare_self {_} := Std.ReflCmp.compare_self
  eq_of_compare {key key'} h := by
    obtain ⟨hvendor, hproduct⟩ := compareLex_eq_eq.1 h
    exact Prod.ext (Std.LawfulEqCmp.eq_of_compare hvendor) (Std.LawfulEqCmp.eq_of_compare hproduct)

/-- Two lists in strictly ascending order are equal if they have the same members. -/
theorem eq_of_ascending {α : Type} {cmp : α → α → Ordering} [Std.TransCmp cmp] {xs ys : List α}
    (hxs : xs.Pairwise (cmp · · = .lt)) (hys : ys.Pairwise (cmp · · = .lt))
    (h : ∀ x, x ∈ xs ↔ x ∈ ys) : xs = ys := by
  refine eq_of_mem_iff ?_ hxs hys h
  intro x y hxy hyx
  rw [Std.OrientedCmp.gt_of_lt hxy] at hyx
  cases hyx

/-- A store has no more than one way to give the answers of given vulnerabilities. -/
theorem Answers.same {s t : Store} {vs : List Vulnerability} (hs : s.Answers vs) (ht : t.Answers vs) :
    s.SameAnswers t := by
  have hproducts : s.products = t.products := by
    refine eq_of_ascending hs.products_ascending ht.products_ascending ?_
    intro key
    rw [hs.mem_products_iff, ht.mem_products_iff]
  refine ⟨?_, ?_, ?_, hproducts, ?_, ?_⟩
  · intro id
    rw [hs.details, ht.details]
  · intro vendor product
    rw [hs.records, ht.records]
  · intro vendor product
    refine eq_of_ascending (hs.cpes_ascending vendor product) (ht.cpes_ascending vendor product) ?_
    intro name
    rw [hs.mem_cpes_iff, ht.mem_cpes_iff]
  · rw [hs.stats, ht.stats, hproducts]
  · rw [Bool.eq_iff_iff, hs.hasData_iff, ht.hasData_iff]

/-! ### A store that holds given vulnerabilities -/

/-- The store holds the vulnerabilities `vs`, which are given in ascending order of ids. -/
structure Holds (s : Store) (vs : List Vulnerability) : Prop where
  coherent : s.Coherent
  ascending : vs.Pairwise (·.idText < ·.idText)
  held_eq : ∀ id, s.held[Json.Key.text id]? = vs.find? fun v => v.idText = id

/-- Of vulnerabilities in ascending order of ids there is one under each. -/
theorem find?_idText_eq_some_iff {vs : List Vulnerability} (h : vs.Pairwise (·.idText < ·.idText))
    {id : Text} {v : Vulnerability} :
    (vs.find? fun w => w.idText = id) = some v ↔ v ∈ vs ∧ v.idText = id := by
  induction vs with
  | nil => simp
  | cons w vs ih =>
      have hne : v ∈ vs → w.idText ≠ v.idText := fun hv => (List.rel_of_pairwise_cons h hv).ne
      by_cases hw : w.idText = id
      · rw [List.find?_cons_of_pos (by simpa using hw), Option.some_inj]
        constructor
        · rintro rfl
          exact ⟨List.mem_cons_self .., hw⟩
        · rintro ⟨hv, hid⟩
          rcases List.mem_cons.1 hv with rfl | hv
          · rfl
          · exact absurd (hw.trans hid.symm) (hne hv)
      · rw [List.find?_cons_of_neg (by simpa using hw), ih h.of_cons, List.mem_cons]
        refine and_congr_left ?_
        rintro rfl
        exact ⟨Or.inr, fun hv => hv.resolve_left fun heq => hw (by rw [heq])⟩

/-- What is listed under one of several ids is listed by the vulnerability under it. -/
theorem filter_flatMap_rowsOf {vs : List Vulnerability} (hvs : ∀ v ∈ vs, v.IsNamed v.idText)
    (hascending : vs.Pairwise (·.idText < ·.idText)) (id : Text) :
    ((vs.flatMap fun v => rowsOf (some v)).filter fun p => decide (p.record.idText = id)) =
      rowsOf (vs.find? fun v => v.idText = id) := by
  induction vs with
  | nil => rfl
  | cons v vs ih =>
      have hv := hvs v (List.mem_cons_self ..)
      have hrest := ih (fun w hw => hvs w (List.mem_cons_of_mem v hw)) hascending.of_cons
      have hone : ((rowsOf (some v)).filter fun p => decide (p.record.idText = id)) =
          if v.idText = id then rowsOf (some v) else [] := by
        rw [List.filter_congr (q := fun _ => decide (v.idText = id))]
        · by_cases h : v.idText = id <;> simp [h]
        · intro p hp
          rw [SoftwareRecord.idText_of_string (id_of_mem_rowsOf hv hp)]
      rw [List.flatMap_cons, List.filter_append, hone, hrest]
      by_cases h : v.idText = id
      · have hnone : (vs.find? fun w => w.idText = id) = none := by
          refine List.find?_eq_none.2 ?_
          intro w hw hid
          exact (List.rel_of_pairwise_cons hascending hw).ne (h.trans (of_decide_eq_true hid).symm)
        rw [if_pos h, hnone, List.find?_cons_of_pos (by simpa using h), rowsOf, List.append_nil]
      · rw [if_neg h, List.nil_append, List.find?_cons_of_neg (by simpa using h)]

/-- The rows that vulnerabilities list for a product are those of the index under it. -/
theorem map_filter_flatMap_rowsOf (vs : List Vulnerability) (key : Text × Text) :
    ((vs.flatMap fun v => rowsOf (some v)).filter fun p => p.key = key).map (·.record) =
      rowsFor vs key := by
  rw [List.filter_flatMap, List.map_flatMap, rowsFor]
  refine List.flatMap_congr ?_
  intro v _
  rw [rowsOf, List.filter_filterMap, List.map_filterMap, ← List.filterMap_eq_filter]
  refine List.filterMap_congr ?_
  intro r _
  rw [Option.guard, SoftwareRecord.product?_eq]
  cases hr : postingOf? r with
  | none => rfl
  | some p =>
      have hrecord := record_of_postingOf? hr
      by_cases hkey : p.key = key <;> simp [hkey, hrecord]

theorem length_flatMap_rowsOf (vs : List Vulnerability) :
    (vs.flatMap fun v => rowsOf (some v)).length = rowCount vs := by
  rw [List.length_flatMap, rowCount]
  refine congrArg List.sum (List.map_congr_left ?_)
  intro v _
  have hmap : v.software.filterMap (·.product?) = (rowsOf (some v)).map (·.key) := by
    rw [rowsOf, List.map_filterMap]
    exact List.filterMap_congr fun r _ => r.product?_eq
  rw [hmap, List.length_map]

namespace Holds

variable {s : Store} {vs : List Vulnerability}

theorem held_iff (h : s.Holds vs) {v : Vulnerability} :
    v ∈ vs ↔ s.held[Json.Key.text v.idText]? = some v := by
  rw [h.held_eq, find?_idText_eq_some_iff h.ascending]
  exact ⟨fun hv => ⟨hv, rfl⟩, fun hv => hv.1⟩

theorem named (h : s.Holds vs) {v : Vulnerability} (hv : v ∈ vs) : v.IsNamed v.idText := by
  obtain ⟨id, hkey, hnamed⟩ := h.coherent.named _ v (h.held_iff.1 hv)
  rwa [hnamed.idText_eq]

/-- **The index, sorted by ids, is what the vulnerabilities list.** -/
theorem sortedBy_index (h : s.Holds vs) :
    sortedBy (fun p => p.record.idText) s.index.toList = vs.flatMap fun v => rowsOf (some v) := by
  have hnamed : ∀ v ∈ vs, v.IsNamed v.idText := fun v hv => h.named hv
  have hid : ∀ v ∈ vs, ∀ p ∈ rowsOf (some v), p.record.idText = v.idText := fun v hv p hp =>
    SoftwareRecord.idText_of_string (id_of_mem_rowsOf (hnamed v hv) hp)
  refine eq_of_filter_name_eq (pairwise_sortedBy _ _) ?_ ?_
  · refine List.pairwise_flatMap.2 ⟨?_, ?_⟩
    · intro v hv
      refine List.pairwise_of_forall_mem_list ?_
      intro p hp q hq
      rw [hid v hv p hp, hid v hv q hq]
    · refine h.ascending.imp_of_mem ?_
      intro v w hv hw hlt p hp q hq
      rw [hid v hv p hp, hid w hw q hq]
      exact hlt.le
  · intro id
    rw [filter_sortedBy, filter_flatMap_rowsOf hnamed h.ascending, ← h.held_eq, ← h.coherent.rows id]
    refine List.filter_congr ?_
    intro p hp
    rw [h.coherent.legible.id_of_mem_index hp, Json.beq_string]

theorem records_eq_rowsFor (h : s.Holds vs) (vendor product : Text) :
    sortedBy (·.idText) (s.postings vendor product) =
      rowsFor vs (Text.lower vendor, Text.lower product) := by
  rw [← map_filter_flatMap_rowsOf, ← h.sortedBy_index, filter_sortedBy_comm, postings, sortedBy,
    sortedBy]
  exact (List.map_mergeSort (s := fun r r' => decide (r.idText ≤ r'.idText)) (f := Posting.record)
    fun _ _ _ _ => rfl).symm

theorem mem_postings_iff (h : s.Holds vs) {vendor product : Text} {r : SoftwareRecord} :
    r ∈ s.postings vendor product ↔ r ∈ rowsFor vs (Text.lower vendor, Text.lower product) := by
  rw [← h.records_eq_rowsFor]
  exact (perm_sortedBy _ _).mem_iff.symm

theorem size_index (h : s.Holds vs) : s.index.size = rowCount vs := by
  rw [← length_flatMap_rowsOf, ← h.sortedBy_index, (perm_sortedBy _ _).length_eq, Array.length_toList]

theorem size_held (h : s.Holds vs) : s.held.size = vs.length := by
  have hkeys : s.held.keys.Perm (vs.map fun v => Json.Key.text v.idText) := by
    refine (List.perm_ext_iff_of_nodup Std.TreeMap.nodup_keys ?_).2 ?_
    · refine List.pairwise_map.2 (h.ascending.imp ?_)
      intro v w hlt heq
      exact hlt.ne (Json.Key.text.inj heq)
    · intro key
      rw [Std.TreeMap.mem_keys, Std.TreeMap.mem_iff_isSome_getElem?, Option.isSome_iff_exists,
        List.mem_map]
      constructor
      · rintro ⟨v, hv⟩
        obtain ⟨id, rfl, hnamed⟩ := h.coherent.named key v hv
        rw [← hnamed.idText_eq] at hv
        exact ⟨v, h.held_iff.2 hv, by rw [hnamed.idText_eq]⟩
      · rintro ⟨v, hv, rfl⟩
        exact ⟨v, h.held_iff.1 hv⟩
  rw [← Std.TreeMap.length_keys, hkeys.length_eq, List.length_map]

theorem mem_products_iff (h : s.Holds vs) (key : Text × Text) :
    key ∈ s.products ↔ rowsFor vs key ≠ [] := by
  rw [products, Std.TreeSet.mem_toList, Std.TreeSet.mem_ofList, List.contains_iff_mem,
    ← map_filter_flatMap_rowsOf, ← h.sortedBy_index, Ne, List.map_eq_nil_iff, List.filter_eq_nil_iff]
  simp only [(perm_sortedBy _ _).mem_iff, List.mem_map, decide_eq_true_eq]
  constructor
  · rintro ⟨p, hp, hkey⟩ hnone
    exact hnone p hp hkey
  · intro hsome
    by_contra hnone
    exact hsome fun p hp hkey => hnone ⟨p, hp, hkey⟩

/-- The answers of a store that holds given vulnerabilities. -/
theorem answers (h : s.Holds vs) : s.Answers vs where
  details id := congrArg Except.ok (h.held_eq id)
  records vendor product := by
    rw [h.coherent.legible.records_eq_sortedBy, h.records_eq_rowsFor]
  cpes_ascending vendor product := Std.TreeSet.ordered_toList
  mem_cpes_iff vendor product name := by
    rw [cpes, Std.TreeSet.mem_toList, Std.TreeSet.mem_ofList, List.contains_iff_mem,
      List.mem_filterMap]
    refine exists_congr fun r => and_congr h.mem_postings_iff ?_
    cases r.cpe <;> simp [Json.text?]
  products_ascending := Std.TreeSet.ordered_toList
  mem_products_iff := h.mem_products_iff
  stats := by rw [stats, h.size_held, h.size_index]
  hasData_iff := by
    rw [← h.size_index, hasData, Bool.not_eq_true', List.isEmpty_eq_false_iff_exists_mem]
    constructor
    · rintro ⟨key, hkey⟩
      rw [products, Std.TreeSet.mem_toList, Std.TreeSet.mem_ofList, List.contains_iff_mem] at hkey
      obtain ⟨p, hp, _⟩ := List.mem_map.1 hkey
      rw [← Array.length_toList]
      exact List.length_pos_of_mem hp
    · intro hpos
      rw [← Array.length_toList] at hpos
      obtain ⟨p, hp⟩ := List.exists_mem_of_length_pos hpos
      refine ⟨p.key, ?_⟩
      rw [products, Std.TreeSet.mem_toList, Std.TreeSet.mem_ofList, List.contains_iff_mem]
      exact List.mem_map_of_mem hp

end Holds

/-! ### Adding vulnerabilities one after another -/

theorem mem_of_lastUnder? {vs : List Vulnerability} {key : Json.Key} {v : Vulnerability}
    (h : lastUnder? vs key = some v) : v ∈ vs ∧ v.id.key? = some key :=
  ⟨List.mem_reverse.1 (List.mem_of_find?_eq_some h), by simpa using List.find?_some h⟩

theorem pairwise_idsOf (vs : List Vulnerability) : (idsOf vs).Pairwise (· < ·) :=
  Std.TreeSet.ordered_toList

theorem mem_idsOf {vs : List Vulnerability} {v : Vulnerability} (hv : v ∈ vs) : v.idText ∈ idsOf vs := by
  rw [idsOf, Std.TreeSet.mem_toList, Std.TreeSet.mem_ofList, List.contains_iff_mem]
  exact List.mem_map_of_mem hv

section

variable {vs : List Vulnerability} (hvs : ∀ v ∈ vs, v.IsWellFormed)

include hvs in
theorem idText_of_lastUnder? {id : Text} {v : Vulnerability} (h : lastUnder? vs (.text id) = some v) :
    v.idText = id := by
  obtain ⟨hmem, hkey⟩ := mem_of_lastUnder? h
  rw [(hvs v hmem).named.id_eq, Json.key?_string] at hkey
  exact Json.Key.text.inj (Option.some.inj hkey)

include hvs in
/-- The ids of the last of each are in ascending order. -/
theorem pairwise_lastOfEach : (lastOfEach vs).Pairwise (·.idText < ·.idText) := by
  refine List.Pairwise.filterMap _ ?_ (pairwise_idsOf vs)
  intro id id' hlt v hv w hw
  rw [idText_of_lastUnder? hvs hv, idText_of_lastUnder? hvs hw]
  exact hlt

include hvs in
theorem mem_lastOfEach_iff {v : Vulnerability} :
    v ∈ lastOfEach vs ↔ lastUnder? vs (.text v.idText) = some v := by
  rw [lastOfEach, List.mem_filterMap]
  constructor
  · rintro ⟨id, _, hv⟩
    rwa [idText_of_lastUnder? hvs hv]
  · intro hv
    exact ⟨v.idText, mem_idsOf (mem_of_lastUnder? hv).1, hv⟩

include hvs in
/-- The last vulnerability under an id is found among the last of each. -/
theorem find?_lastOfEach (id : Text) :
    ((lastOfEach vs).find? fun v => v.idText = id) = lastUnder? vs (.text id) := by
  refine Option.ext ?_
  intro v
  rw [find?_idText_eq_some_iff (pairwise_lastOfEach hvs), mem_lastOfEach_iff hvs]
  constructor
  · rintro ⟨hlast, rfl⟩
    exact hlast
  · intro hlast
    have hid := idText_of_lastUnder? hvs hlast
    exact ⟨by rwa [hid], hid⟩

/-- Vulnerabilities added one after another are taken in, and each replaces what has been held under its
id. -/
theorem gives_forM_addOne {s : Store} (hs : s.Coherent) (hvs : ∀ v ∈ vs, v.IsWellFormed) :
    Task.Gives (· = s) (vs.forM addOne) fun _ t =>
      t.Coherent ∧ (∀ key, t.held[key]? = (lastUnder? vs key).or s.held[key]?) ∧ t.loaded = s.loaded := by
  induction vs generalizing s with
  | nil =>
      refine Task.Gives.pure ?_
      rintro _ rfl
      exact ⟨hs, fun _ => rfl, rfl⟩
  | cons v vs ih =>
      have hv := hvs v (List.mem_cons_self ..)
      have hfault := fault_add s hv.named hv.readable
      have hrest := ih (hs.add hv.named hfault) fun w hw => hvs w (List.mem_cons_of_mem v hw)
      change Task.Gives _ (addOne v >>= fun _ => vs.forM addOne) _
      refine Task.Gives.bind (r := fun _ t => t = (s.add v).store) ?_ ?_
      · rw [addOne]
        refine Task.Gives.state ?_
        rintro _ rfl
        refine Task.Gives.noteAll _ (Task.Gives.setState _ ?_)
        rw [hfault]
        exact Task.Gives.pure fun _ h => h
      · intro _
        refine hrest.imp ?_
        rintro _ t ⟨hcoherent, hheld, hloaded⟩
        refine ⟨hcoherent, ?_, hloaded.trans (sameButData_add s v).loaded_eq⟩
        intro key
        rw [hheld, lastUnder?_cons, Option.or_assoc, getElem?_held_add s hv.named]

include hvs in
/-- A store that holds of each id the last vulnerability under it. -/
theorem holds_lastOfEach {s : Store} (hs : s.Coherent)
    (hheld : ∀ id, s.held[Json.Key.text id]? = lastUnder? vs (.text id)) : s.Holds (lastOfEach vs) where
  coherent := hs
  ascending := pairwise_lastOfEach hvs
  held_eq id := by rw [hheld, find?_lastOfEach hvs]

end

/-- **A store answers from the last vulnerability under each id.**  Vulnerabilities are added one after
another to a store that has no place for its data.  Every one of them is taken in; the answers are then
those that the last of them under each id give, in ascending order of ids, and they are the same after
any other additions that come to the same. -/
theorem answers_of_adding {vs : List Vulnerability} (hvs : ∀ v ∈ vs, v.IsWellFormed) (tree : Files.Tree)
    (session : Session Float Store) (hsession : session.state = empty none) :
    ∃ session', (vs.forM addOne).start session = (.ok (), session') ∧
      session'.state.Answers (lastOfEach vs) ∧
      (∀ (α : Type) (question : Store → Except Fault α),
        (ask tree question).start session' = (question session'.state, session')) ∧
      ∀ (ws : List Vulnerability) (other : Session Float Store), (∀ w ∈ ws, w.IsWellFormed) →
        other.state = empty none →
        (∀ id, lastUnder? ws (.text id) = lastUnder? vs (.text id)) →
        ∃ other', (ws.forM addOne).start other = (.ok (), other') ∧
          other'.state.SameAnswers session'.state := by
  have hadd : ∀ {ws : List Vulnerability} {other : Session Float Store},
      (∀ w ∈ ws, w.IsWellFormed) → other.state = empty none →
      ∃ other', (ws.forM addOne).start other = (.ok (), other') ∧ other'.state.Coherent ∧
        (∀ id, other'.state.held[Json.Key.text id]? = lastUnder? ws (.text id)) ∧
        other'.state.loaded = true := by
    intro ws other hws hother
    obtain ⟨_, other', hrun, hcoherent, hheld, hloaded⟩ :=
      gives_forM_addOne (coherent_empty none) hws other hother
    refine ⟨other', hrun, hcoherent, ?_, hloaded⟩
    intro id
    rw [hheld]
    simp [empty]
  obtain ⟨session', hrun, hcoherent, hheld, hloaded⟩ := hadd hvs hsession
  have hanswers := (holds_lastOfEach hvs hcoherent hheld).answers
  refine ⟨session', hrun, hanswers, fun α question => start_ask tree question hloaded, ?_⟩
  intro ws other hws hother hsame
  obtain ⟨other', hrun', hcoherent', hheld', _⟩ := hadd hws hother
  refine ⟨other', hrun', ?_⟩
  have hheld'' : ∀ id, other'.state.held[Json.Key.text id]? = lastUnder? vs (.text id) := by
    intro id
    rw [hheld', hsame]
  exact (holds_lastOfEach hvs hcoherent' hheld'').answers.same hanswers

/-- A vulnerability that lists single versions. -/
def listing (id : Text) (names : List Text) : Vulnerability :=
  { id := .string id, description := .null, weakness := .null, score := .null, vector := .null
    references := [], software := names.map fun name => ⟨.string id, .string name, .null⟩, found := none }

theorem key?_listing (id : Text) (names : List Text) :
    (listing id names).id.key? = some (.text id) := rfl

theorem isWellFormed_listing (id : Text) (names : List Text) : (listing id names).IsWellFormed where
  named := by
    refine ⟨rfl, ?_⟩
    intro r hr
    obtain ⟨name, _, rfl⟩ := List.mem_map.1 hr
    rfl
  readable r hr := by
    obtain ⟨name, _, rfl⟩ := List.mem_map.1 hr
    exact ⟨_, Cpe.ofJson_string name⟩

/-- `B` is added, then `A`, then `B` again with software of another product. -/
def addedTwice : List Vulnerability :=
  [listing "B" ["cpe:/a:v:p:1.0", "cpe:/a:v:q:1.0"], listing "A" ["cpe:/a:v:p:2.0"],
   listing "B" ["cpe:/a:v:q:3.0", "no name", "cpe:/a:v:p:4.0", "cpe:/a:V:Q:5.0"]]

/-- `B` as it is at last, then `A`. -/
def addedOnce : List Vulnerability :=
  [listing "B" ["cpe:/a:v:q:3.0", "no name", "cpe:/a:v:p:4.0", "cpe:/a:V:Q:5.0"],
   listing "A" ["cpe:/a:v:p:2.0"]]

/-- What `B` has listed at first cannot be seen any more. -/
theorem answers_of_adding_addedTwice :
    ∃ session', (addedTwice.forM addOne).start ⟨.ofList [], false, #[], empty none⟩ =
        (.ok (), session') ∧
      session'.state.records "V" "p" =
        .ok [⟨.string "A", .string "cpe:/a:v:p:2.0", .null⟩,
          ⟨.string "B", .string "cpe:/a:v:p:4.0", .null⟩] ∧
      session'.state.stats = ⟨2, session'.state.products.length, 4⟩ ∧
      ∃ other', (addedOnce.forM addOne).start ⟨.ofList [], false, #[], empty none⟩ = (.ok (), other') ∧
        other'.state.SameAnswers session'.state := by
  have htwice : ∀ v ∈ addedTwice, v.IsWellFormed := by simp [addedTwice, isWellFormed_listing]
  have honce : ∀ v ∈ addedOnce, v.IsWellFormed := by simp [addedOnce, isWellFormed_listing]
  have hsame : ∀ id, lastUnder? addedOnce (.text id) = lastUnder? addedTwice (.text id) := by
    intro id
    have hne : ("A" : Text) ≠ "B" := by decide
    rw [addedOnce, addedTwice]
    by_cases hB : ("B" : Text) = id
    · subst hB
      simp only [lastUnder?_cons, lastUnder?_nil, key?_listing, Option.some.injEq, Json.Key.text.injEq,
        hne, if_true, if_false, Option.or_none, Option.some_or, Option.none_or]
    · simp only [lastUnder?_cons, lastUnder?_nil, key?_listing, Option.some.injEq, Json.Key.text.injEq,
        hB, if_false, Option.or_none, Option.none_or]
  have hlast : lastOfEach addedTwice = addedOnce.reverse := rfl
  obtain ⟨session', hrun, hanswers, _, hother⟩ :=
    answers_of_adding htwice default ⟨.ofList [], false, #[], empty none⟩ rfl
  refine ⟨session', hrun, ?_, ?_, hother addedOnce _ honce rfl hsame⟩
  · rw [hanswers.records, hlast]
    rfl
  · rw [hanswers.stats, hlast]
    rfl

end Store

end CpeMatch
