import Mathlib.Data.List.Nodup
import CpeMatch.Proofs.Store.Answers

/-!
**The index as lists by product.**

A store may keep its rows in one list for each product that has any, and look a product up among these.  A row is
put behind the others of its product, or begins a new list; and when a vulnerability is replaced its rows are taken
out of all lists, and a list that is left empty goes, so that its product is no longer said.  It is the same to keep
all rows in the order in which they arrived, and to say a product as long as there is a row of it.

Main definitions:

* `CpeMatch.Store.ProductLists` — the rows of each product, with `put` and `without`;
* `CpeMatch.Store.ProductLists.Groups` — the lists are of the rows of an index;
* `CpeMatch.Store.Shelved`, `CpeMatch.Store.Shelved.add` — a store that keeps its rows so.

Main results:

* `CpeMatch.Store.ProductLists.Groups.put`, `CpeMatch.Store.ProductLists.Groups.without` — one row more, and the rows
  of one id less;
* `CpeMatch.Store.Shelved.Of.add`, `CpeMatch.Store.Shelved.Of.addAll` — **adding vulnerabilities to both**;
* `CpeMatch.Store.Shelved.Of.postings_eq`, `CpeMatch.Store.Shelved.Of.perm_products`,
  `CpeMatch.Store.Shelved.Of.stats_eq` — both say the same.
-/

set_option autoImplicit false

namespace CpeMatch.Store

/-- The rows of each product that has any, in the order in which the products came. -/
abbrev ProductLists := List ((Text × Text) × List SoftwareRecord)

namespace ProductLists

/-- Puts a row behind the others of its product. -/
def put (p : Posting) : ProductLists → ProductLists
  | [] => [(p.key, [p.record])]
  | (key, rows) :: rest => if key = p.key then (key, rows ++ [p.record]) :: rest else (key, rows) :: put p rest

/-- Takes the rows of an id out; a product that has none left goes, too. -/
def without (id : Json) : ProductLists → ProductLists
  | [] => []
  | (key, rows) :: rest =>
    let left := rows.filter fun r => !(r.id == id)
    if left.isEmpty then without id rest else (key, left) :: without id rest

/-- The rows of a product, none for one that is not there. -/
def rowsUnder (key : Text × Text) : ProductLists → List SoftwareRecord
  | [] => []
  | (k, rows) :: rest => if k = key then rows else rowsUnder key rest

/-- The products that are there. -/
def keys (lists : ProductLists) : List (Text × Text) := lists.map (·.1)

/-! ### The products that are there -/

variable {lists : ProductLists} {key : Text × Text}

theorem rowsUnder_of_notMem (h : key ∉ lists.keys) : rowsUnder key lists = [] := by
  induction lists with
  | nil => rfl
  | cons entry rest ih =>
      obtain ⟨k, rows⟩ := entry
      obtain ⟨hne, hrest⟩ := not_or.1 (mt List.mem_cons.2 h)
      rw [rowsUnder, if_neg fun heq => hne heq.symm, ih hrest]

theorem mem_keys_put (p : Posting) : key ∈ (lists.put p).keys ↔ key ∈ lists.keys ∨ key = p.key := by
  induction lists with
  | nil => simp [put, keys]
  | cons entry rest ih =>
      obtain ⟨k, rows⟩ := entry
      rw [put]
      split
      next heq =>
        change key ∈ k :: keys rest ↔ key ∈ k :: keys rest ∨ key = p.key
        rw [← heq, iff_self_or]
        rintro rfl
        exact List.mem_cons_self ..
      next =>
        change key ∈ k :: (put p rest).keys ↔ key ∈ k :: keys rest ∨ key = p.key
        rw [List.mem_cons, List.mem_cons, ih, or_assoc]

theorem nodup_keys_put (h : lists.keys.Nodup) (p : Posting) : (lists.put p).keys.Nodup := by
  induction lists with
  | nil => exact List.nodup_singleton p.key
  | cons entry rest ih =>
      obtain ⟨k, rows⟩ := entry
      obtain ⟨hk, hrest⟩ := List.nodup_cons.1 h
      rw [put]
      split
      next => exact List.nodup_cons.2 ⟨hk, hrest⟩
      next hne =>
        have hnew : k ∉ (put p rest).keys := by
          rw [mem_keys_put]
          exact not_or.2 ⟨hk, hne⟩
        exact List.nodup_cons.2 ⟨hnew, ih hrest⟩

theorem keys_without_sublist (id : Json) (lists : ProductLists) : (lists.without id).keys.Sublist lists.keys := by
  induction lists with
  | nil => exact .slnil
  | cons entry rest ih =>
      obtain ⟨k, rows⟩ := entry
      rw [without]
      split
      · exact ih.cons k
      · exact ih.cons_cons k

/-! ### The rows of a product -/

theorem rowsUnder_put (p : Posting) (lists : ProductLists) (key : Text × Text) :
    rowsUnder key (lists.put p) = rowsUnder key lists ++ if p.key = key then [p.record] else [] := by
  induction lists with
  | nil => simp [put, rowsUnder]
  | cons entry rest ih =>
      obtain ⟨k, rows⟩ := entry
      rw [put]
      by_cases hput : k = p.key
      · rw [if_pos hput, rowsUnder, rowsUnder, ← hput]
        by_cases hkey : k = key
        · simp only [if_pos hkey]
        · simp only [if_neg hkey, List.append_nil]
      · rw [if_neg hput, rowsUnder, rowsUnder, ih]
        by_cases hkey : k = key
        · rw [if_pos hkey, if_pos hkey, if_neg (by rw [← hkey]; exact Ne.symm hput), List.append_nil]
        · rw [if_neg hkey, if_neg hkey]

theorem rowsUnder_without (h : lists.keys.Nodup) (id : Json) (key : Text × Text) :
    rowsUnder key (lists.without id) = (rowsUnder key lists).filter fun r => !(r.id == id) := by
  induction lists with
  | nil => rfl
  | cons entry rest ih =>
      obtain ⟨k, rows⟩ := entry
      obtain ⟨hk, hrest⟩ := List.nodup_cons.1 h
      rw [without, rowsUnder]
      by_cases hkey : k = key
      · rw [if_pos hkey]
        split
        next hempty =>
          -- the product is in no other list, so it is gone with this one
          have hgone : key ∉ (without id rest).keys := fun hmem =>
            hk (hkey ▸ (keys_without_sublist id rest).subset hmem)
          rw [rowsUnder_of_notMem hgone, List.isEmpty_iff.1 hempty]
        next => rw [rowsUnder, if_pos hkey]
      · rw [if_neg hkey]
        split
        next => exact ih hrest
        next => rw [rowsUnder, if_neg hkey, ih hrest]

/-- A product is still there as long as a row of it is left. -/
theorem mem_keys_without_iff (h : lists.keys.Nodup) (id : Json) :
    key ∈ (lists.without id).keys ↔ ((rowsUnder key lists).filter fun r => !(r.id == id)) ≠ [] := by
  induction lists with
  | nil => simp [without, rowsUnder, keys]
  | cons entry rest ih =>
      obtain ⟨k, rows⟩ := entry
      obtain ⟨hk, hrest⟩ := List.nodup_cons.1 h
      rw [without, rowsUnder]
      by_cases hkey : k = key
      · have hgone : key ∉ (without id rest).keys := fun hmem =>
          hk (hkey ▸ (keys_without_sublist id rest).subset hmem)
        rw [if_pos hkey]
        split
        next hempty => exact iff_of_false hgone fun hsome => hsome (List.isEmpty_iff.1 hempty)
        next hsome =>
          exact iff_of_true (hkey ▸ List.mem_cons_self ..) fun hnone => hsome (List.isEmpty_iff.2 hnone)
      · rw [if_neg hkey, ← ih hrest]
        split
        next => rfl
        next => exact ⟨fun hmem => (List.mem_cons.1 hmem).resolve_left (Ne.symm hkey), List.mem_cons_of_mem k⟩

/-! ### Lists of the rows of an index -/

/-- The rows of a product among those of an index. -/
def ofProduct (index : List Posting) (key : Text × Text) : List SoftwareRecord :=
  (index.filter fun p => p.key = key).map (·.record)

/-- There is one list for each product that an index has a row of, with all the rows of it, in their order. -/
structure Groups (lists : ProductLists) (index : List Posting) : Prop where
  nodup : lists.keys.Nodup
  mem_keys_iff : ∀ key, key ∈ lists.keys ↔ ∃ p ∈ index, p.key = key
  rowsUnder_eq : ∀ key, rowsUnder key lists = ofProduct index key

theorem ofProduct_append (index others : List Posting) (key : Text × Text) :
    ofProduct (index ++ others) key = ofProduct index key ++ ofProduct others key := by
  rw [ofProduct, List.filter_append, List.map_append]
  rfl

theorem ofProduct_ne_nil_iff {index : List Posting} : ofProduct index key ≠ [] ↔ ∃ p ∈ index, p.key = key := by
  simp [ofProduct]

namespace Groups

variable {index : List Posting}

theorem nil : Groups [] [] := ⟨List.nodup_nil, by simp [keys], fun _ => rfl⟩

/-- One row more. -/
theorem put (h : Groups lists index) (p : Posting) : Groups (lists.put p) (index ++ [p]) where
  nodup := nodup_keys_put h.nodup p
  mem_keys_iff key := by
    rw [mem_keys_put, h.mem_keys_iff]
    simp [or_and_right, exists_or, eq_comm]
  rowsUnder_eq key := by
    rw [rowsUnder_put, h.rowsUnder_eq, ofProduct_append]
    by_cases hkey : p.key = key <;> simp [ofProduct, hkey]

theorem foldl_put (h : Groups lists index) (ps : List Posting) :
    Groups (ps.foldl (fun lists p => lists.put p) lists) (index ++ ps) := by
  induction ps generalizing lists index with
  | nil => rwa [List.append_nil]
  | cons p ps ih =>
      rw [List.foldl_cons, ← List.singleton_append, ← List.append_assoc]
      exact ih (h.put p)

/-- The rows of one id less. -/
theorem without (h : Groups lists index) (id : Json) :
    Groups (lists.without id) (index.filter fun p => !(p.record.id == id)) := by
  have hrows : ∀ key, (rowsUnder key lists).filter (fun r => !(r.id == id)) =
      ofProduct (index.filter fun p => !(p.record.id == id)) key := by
    intro key
    rw [h.rowsUnder_eq, ofProduct, ofProduct, List.filter_map, List.filter_comm]
    rfl
  refine ⟨h.nodup.sublist (keys_without_sublist id lists), ?_, ?_⟩
  · intro key
    rw [mem_keys_without_iff h.nodup, hrows, ofProduct_ne_nil_iff]
  · intro key
    rw [rowsUnder_without h.nodup, hrows]

/-- The other lists are of the rows of other products. -/
theorem tail {k : Text × Text} {rows : List SoftwareRecord} (h : Groups ((k, rows) :: lists) index) :
    Groups lists (index.filter fun p => !decide (p.key = k)) := by
  obtain ⟨hk, hrest⟩ := List.nodup_cons.1 h.nodup
  have hothers : ∀ {key}, key ≠ k →
      ofProduct (index.filter fun p => !decide (p.key = k)) key = ofProduct index key := by
    intro key hne
    rw [ofProduct, List.filter_filter]
    refine congrArg (List.map _) (List.filter_congr fun p _ => ?_)
    by_cases hkey : p.key = key <;> simp [hkey, hne]
  have hnone : ofProduct (index.filter fun p => !decide (p.key = k)) k = [] := by simp [ofProduct]
  refine ⟨hrest, ?_, ?_⟩
  · intro key
    rw [← ofProduct_ne_nil_iff]
    by_cases hkey : key = k
    · subst hkey
      exact iff_of_false hk fun hsome => hsome hnone
    · rw [hothers hkey, ofProduct_ne_nil_iff, ← h.mem_keys_iff]
      exact ⟨List.mem_cons_of_mem k, fun hmem => (List.mem_cons.1 hmem).resolve_left hkey⟩
  · intro key
    by_cases hkey : key = k
    · subst hkey
      rw [rowsUnder_of_notMem hk, hnone]
    · rw [hothers hkey, ← h.rowsUnder_eq, rowsUnder, if_neg (Ne.symm hkey)]

/-- All rows are in the lists. -/
theorem sum_length (h : Groups lists index) : (lists.map (·.2.length)).sum = index.length := by
  induction lists generalizing index with
  | nil =>
      cases index with
      | nil => rfl
      | cons p index => exact absurd ((h.mem_keys_iff p.key).2 ⟨p, List.mem_cons_self .., rfl⟩) List.not_mem_nil
  | cons entry rest ih =>
      obtain ⟨k, rows⟩ := entry
      have hrows : rows = ofProduct index k := by
        rw [← h.rowsUnder_eq, rowsUnder, if_pos rfl]
      rw [List.map_cons, List.sum_cons, ih h.tail, hrows, ofProduct, List.length_map]
      exact (List.length_eq_length_filter_add _).symm

end Groups

end ProductLists

/-! ### A store with lists by product -/

/-- The vulnerabilities of a store by their ids, and its rows in lists by product. -/
structure Shelved where
  held : Std.TreeMap Json.Key Vulnerability
  lists : ProductLists

namespace Shelved

/-- Adds a vulnerability, or puts it in the place of the one held under its id. -/
def add (t : Shelved) (v : Vulnerability) : Shelved :=
  match v.id.key? with
  | none => t
  | some key =>
    let lists := if t.held.contains key then t.lists.without v.id else t.lists
    { held := t.held.insert key v
      lists := (indexRows v.id v.software).postings.foldl (fun lists p => lists.put p) lists }

/-- The store `s` with its rows in lists by product. -/
structure Of (t : Shelved) (s : Store) : Prop where
  held_eq : t.held = s.held
  groups : t.lists.Groups s.index.toList

namespace Of

variable {t : Shelved} {s : Store}

theorem empty (config : Option Config) : Of ⟨{}, []⟩ (Store.empty config) := ⟨rfl, .nil⟩

/-- **Adding a vulnerability** to both. -/
theorem add (h : t.Of s) (v : Vulnerability) : (t.add v).Of (s.add v).store := by
  rw [Shelved.add, Store.add]
  cases v.id.key? with
  | none => exact h
  | some key =>
      dsimp only
      rw [h.held_eq]
      refine ⟨rfl, ?_⟩
      rw [Array.toList_append]
      refine ProductLists.Groups.foldl_put ?_ _
      split
      · rw [withoutRows, Array.toList_filter]
        exact h.groups.without v.id
      · exact h.groups

/-- Adding vulnerabilities one after another. -/
theorem addAll (h : t.Of s) (vs : List Vulnerability) :
    (vs.foldl Shelved.add t).Of (vs.foldl (fun s v => (s.add v).store) s) := by
  induction vs generalizing t s with
  | nil => exact h
  | cons v vs ih => exact ih (h.add v)

/-- Both give the same rows of a product. -/
theorem postings_eq (h : t.Of s) (vendor product : Text) :
    s.postings vendor product = t.lists.rowsUnder (Text.lower vendor, Text.lower product) :=
  (h.groups.rowsUnder_eq _).symm

/-- Both say the same products. -/
theorem perm_products (h : t.Of s) : s.products.Perm t.lists.keys := by
  refine (List.perm_ext_iff_of_nodup ?_ h.groups.nodup).2 ?_
  · refine Std.TreeSet.distinct_toList.imp ?_
    rintro key _ hne rfl
    exact hne Std.ReflCmp.compare_self
  · intro key
    rw [products, Std.TreeSet.mem_toList, Std.TreeSet.mem_ofList, List.contains_iff_mem, List.mem_map,
      h.groups.mem_keys_iff]

/-- Both are of the same size. -/
theorem stats_eq (h : t.Of s) : s.stats = ⟨t.held.size, t.lists.length, (t.lists.map (·.2.length)).sum⟩ := by
  rw [stats, h.perm_products.length_eq, ProductLists.keys, List.length_map, h.groups.sum_length, h.held_eq,
    Array.length_toList]

end Of

end Shelved

end CpeMatch.Store
