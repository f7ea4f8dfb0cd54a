import Mathlib.Data.List.Perm.Basic
import Mathlib.Order.Lattice
import CpeMatch.IdOrder
import CpeMatch.Proofs.Text.Order

/-!
**Sorting by an id is stable.**

Things are sorted by what tells them apart, a name in a linear order.  The sorted things are in ascending
order of their names, they are the same things, and those of one name stay in the order given.  So what
is sorted is known by what it has under each name.  Ids that are texts always have an order, so that
things with such ids can be sorted.

* `CpeMatch.eq_of_mem_iff` — lists in ascending order are known by their members;
* `CpeMatch.filter_mergeSort_of_tied`, `CpeMatch.eq_of_filter_tied_eq`, `CpeMatch.filter_mergeSort` —
  sorting by any order is stable, and **choosing some of the things commutes with sorting**;
* `CpeMatch.sortedBy` — things in ascending order of their names;
* `CpeMatch.pairwise_sortedBy`, `CpeMatch.filter_sortedBy` — its order, and its stability;
* `CpeMatch.sortById?_eq_sortedBy` — things whose ids are texts are sorted by these texts.
-/

set_option autoImplicit false

namespace CpeMatch

/-! ### Sorting by any order -/

section

variable {α : Type} {le : α → α → Bool}

/-- Things of which none comes before another stay in the order given. -/
theorem filter_mergeSort_of_tied (trans : ∀ x y z, le x y = true → le y z = true → le x z = true)
    (total : ∀ x y, (le x y || le y x) = true) (things : List α) {chosen : α → Bool}
    (htied : ∀ x y, chosen x = true → chosen y = true → le x y = true) :
    (things.mergeSort le).filter chosen = things.filter chosen := by
  have hsorted : (things.filter chosen).Pairwise (le · · = true) := by
    refine List.pairwise_of_forall_mem_list ?_
    intro x hx y hy
    exact htied x y (List.mem_filter.1 hx).2 (List.mem_filter.1 hy).2
  -- the chosen things are sorted, so they are found again in their order
  have hsub := List.sublist_mergeSort trans total hsorted List.filter_sublist
  have hfilter := hsub.filter chosen
  simp only [List.filter_filter, Bool.and_self] at hfilter
  refine (hfilter.eq_of_length ?_).symm
  exact ((List.mergeSort_perm things le).filter _).length_eq.symm

/-- Two lists in strictly ascending order, whichever this is, are equal if they have the same members. -/
theorem eq_of_mem_iff {r : α → α → Prop} (asymm : ∀ x y, r x y → ¬ r y x) {xs ys : List α}
    (hxs : xs.Pairwise r) (hys : ys.Pairwise r) (h : ∀ x, x ∈ xs ↔ x ∈ ys) : xs = ys := by
  have hne : ∀ x y, r x y → x ≠ y := by
    rintro x _ hxx rfl
    exact asymm x x hxx hxx
  have hperm : xs.Perm ys :=
    (List.perm_ext_iff_of_nodup (hxs.imp fun hxy => hne _ _ hxy) (hys.imp fun hxy => hne _ _ hxy)).2 h
  exact hperm.eq_of_pairwise (fun x y _ _ hxy hyx => absurd hyx (asymm x y hxy)) hxs hys

/-- Whether neither of two things comes before the other. -/
def tied (le : α → α → Bool) (x y : α) : Bool := le x y && le y x

/-- Two lists in ascending order are equal if they have the same things of each rank. -/
theorem eq_of_filter_tied_eq (total : ∀ x y, (le x y || le y x) = true) {xs ys : List α}
    (hxs : xs.Pairwise (le · · = true)) (hys : ys.Pairwise (le · · = true))
    (h : ∀ z, xs.filter (tied le z) = ys.filter (tied le z)) : xs = ys := by
  have hrefl : ∀ z, le z z = true := fun z => by simpa using total z z
  have hself : ∀ z, tied le z z = true := fun z => by rw [tied, hrefl]; rfl
  induction xs generalizing ys with
  | nil =>
      refine (List.eq_nil_iff_forall_not_mem.2 ?_).symm
      intro y hy
      have hmem : y ∈ ys.filter (tied le y) := List.mem_filter.2 ⟨hy, hself y⟩
      rw [← h y] at hmem
      exact absurd hmem (by simp)
  | cons x xs ih =>
      have hx : x ∈ ys.filter (tied le x) := by
        rw [← h x]
        exact List.mem_filter.2 ⟨List.mem_cons_self .., hself x⟩
      cases ys with
      | nil => exact absurd hx (by simp)
      | cons y ys =>
          have hy : y ∈ (x :: xs).filter (tied le y) := by
            rw [h y]
            exact List.mem_filter.2 ⟨List.mem_cons_self .., hself y⟩
          have hyx : le y x = true := by
            rcases List.mem_cons.1 (List.mem_filter.1 hx).1 with rfl | hmem
            · exact hrefl x
            · exact List.rel_of_pairwise_cons hys hmem
          have hxy : le x y = true := by
            rcases List.mem_cons.1 (List.mem_filter.1 hy).1 with rfl | hmem
            · exact hrefl y
            · exact List.rel_of_pairwise_cons hxs hmem
          -- the heads are of one rank, of which both lists have the same things
          have hhead : x = y := by
            have hfirst := h x
            rw [List.filter_cons_of_pos (hself x),
              List.filter_cons_of_pos (by rw [tied, hxy, hyx]; rfl)] at hfirst
            exact (List.cons.inj hfirst).1
          subst hhead
          refine congrArg (x :: ·) (ih hxs.of_cons hys.of_cons ?_)
          intro z
          have hz := h z
          by_cases htied : tied le z x = true
          · rw [List.filter_cons_of_pos htied, List.filter_cons_of_pos htied] at hz
            exact (List.cons.inj hz).2
          · rwa [List.filter_cons_of_neg htied, List.filter_cons_of_neg htied] at hz

/-- **Choosing some of the things commutes with sorting.** -/
theorem filter_mergeSort (trans : ∀ x y z, le x y = true → le y z = true → le x z = true)
    (total : ∀ x y, (le x y || le y x) = true) (chosen : α → Bool) (things : List α) :
    (things.mergeSort le).filter chosen = (things.filter chosen).mergeSort le := by
  have htied : ∀ z x y, tied le z x = true → tied le z y = true → le x y = true := by
    intro z x y hx hy
    simp only [tied, Bool.and_eq_true] at hx hy
    exact trans x z y hx.2 hy.1
  refine eq_of_filter_tied_eq total ((List.pairwise_mergeSort trans total things).filter _)
    (List.pairwise_mergeSort trans total _) ?_
  intro z
  rw [List.filter_comm, filter_mergeSort_of_tied trans total _ (htied z), List.filter_comm,
    filter_mergeSort_of_tied trans total _ (htied z)]

end

/-! ### Sorting by a name -/

section

variable {α κ : Type} [LinearOrder κ]

/-- The things in ascending order of their names, those of one name in the order given. -/
def sortedBy (name : α → κ) (things : List α) : List α :=
  things.mergeSort fun x y => decide (name x ≤ name y)

theorem perm_sortedBy (name : α → κ) (things : List α) : (sortedBy name things).Perm things :=
  List.mergeSort_perm things _

theorem le_name_trans (name : α → κ) (x y z : α) (hxy : decide (name x ≤ name y) = true)
    (hyz : decide (name y ≤ name z) = true) : decide (name x ≤ name z) = true := by
  rw [decide_eq_true_iff] at hxy hyz ⊢
  exact le_trans hxy hyz

theorem le_name_total (name : α → κ) (x y : α) :
    (decide (name x ≤ name y) || decide (name y ≤ name x)) = true := by
  rw [Bool.or_eq_true, decide_eq_true_iff, decide_eq_true_iff]
  exact le_total (name x) (name y)

/-- The sorted things are in ascending order of their names. -/
theorem pairwise_sortedBy (name : α → κ) (things : List α) :
    (sortedBy name things).Pairwise (name · ≤ name ·) := by
  have h := List.pairwise_mergeSort (le_name_trans name) (le_name_total name) things
  exact h.imp fun hxy => of_decide_eq_true hxy

/-- What is in ascending order already stays as it is. -/
theorem sortedBy_of_pairwise {name : α → κ} {things : List α}
    (h : things.Pairwise (name · ≤ name ·)) : sortedBy name things = things :=
  List.mergeSort_of_pairwise (h.imp fun hxy => decide_eq_true hxy)

/-- Sorting keeps the things of one name in their order. -/
theorem filter_sortedBy (name : α → κ) (things : List α) (k : κ) :
    (sortedBy name things).filter (fun x => decide (name x = k)) =
      things.filter fun x => decide (name x = k) := by
  refine filter_mergeSort_of_tied (le_name_trans name) (le_name_total name) things ?_
  intro x y hx hy
  rw [of_decide_eq_true hx, of_decide_eq_true hy]
  exact decide_eq_true (le_refl k)

/-- Choosing some of the things commutes with sorting them by their names. -/
theorem filter_sortedBy_comm (name : α → κ) (chosen : α → Bool) (things : List α) :
    (sortedBy name things).filter chosen = sortedBy name (things.filter chosen) :=
  filter_mergeSort (le_name_trans name) (le_name_total name) chosen things

/-- Things in ascending order of their names are known by what they are under each name. -/
theorem eq_of_filter_name_eq {name : α → κ} {xs ys : List α} (hxs : xs.Pairwise (name · ≤ name ·))
    (hys : ys.Pairwise (name · ≤ name ·))
    (h : ∀ k, xs.filter (fun x => decide (name x = k)) = ys.filter fun x => decide (name x = k)) :
    xs = ys := by
  refine eq_of_filter_tied_eq (le_name_total name) (hxs.imp fun hxy => decide_eq_true hxy)
    (hys.imp fun hxy => decide_eq_true hxy) ?_
  intro z
  have htied : tied (fun x y => decide (name x ≤ name y)) z = fun x => decide (name x = name z) := by
    funext x
    rw [Bool.eq_iff_iff, tied, Bool.and_eq_true, decide_eq_true_iff, decide_eq_true_iff,
      decide_eq_true_iff]
    exact ⟨fun hx => le_antisymm hx.2 hx.1, fun hx => ⟨hx.ge, hx.le⟩⟩
  rw [htied]
  exact h (name z)

end

/-! ### Ids that are texts -/

theorem Json.beq_string (s t : Text) : (Json.string s == Json.string t) = decide (s = t) := rfl

@[simp] theorem Json.precedes?_string (s t : Text) :
    IdOrder.precedes? (Json.string s) (Json.string t) = some (decide (s < t)) := rfl

theorem allOrdered_map_string (names : List Text) : allOrdered (names.map Json.string) = true := by
  induction names with
  | nil => rfl
  | cons s names ih => simp [allOrdered, ih]

/-- Things whose ids are texts are sorted by these texts. -/
theorem sortById?_eq_sortedBy {α : Type} {id : α → Json} {name : α → Text} {things : List α}
    (h : ∀ x ∈ things, id x = .string (name x)) :
    sortById? id things = some (sortedBy name things) := by
  have hids : things.map id = (things.map name).map Json.string := by
    rw [List.map_map]
    exact List.map_congr_left h
  have hle : ∀ x ∈ things, ∀ y ∈ things,
      decide (IdOrder.precedes? (id y) (id x) ≠ some true) = decide (name x ≤ name y) := by
    intro x hx y hy
    rw [h x hx, h y hy, Json.precedes?_string]
    simp
  have hsort := List.map_mergeSort (f := fun x : α => x) hle
  rw [List.map_id', List.map_id'] at hsort
  rw [sortById?, hids, allOrdered_map_string, if_pos rfl, sortedBy, hsort]

end CpeMatch
