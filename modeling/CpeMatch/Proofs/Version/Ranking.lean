import CpeMatch.Proofs.StableSort
import CpeMatch.Proofs.Version.Lexicographic
import CpeMatch.Version.Ranking

/-!
**Which versions are ranked first.**

Different texts may write equal versions, so it matters which of several a ranking gives.  It is always the one that
comes first: the greatest and the least are the first of their class, sorting leaves those of a class in their order,
and of each class the first is kept.

Main definition: `CpeMatch.Version.IsFirstBest` — the first of the best of several items.

Main results:

* `CpeMatch.Version.isFirstBest_greatestBy?`, `CpeMatch.Version.isFirstBest_least?` — **the greatest and the least**;
* `CpeMatch.Version.perm_sorted`, `CpeMatch.Version.pairwise_sorted`, `CpeMatch.Version.filter_sorted` — **sorting**;
* `CpeMatch.Version.pairwise_distinct`, `CpeMatch.Version.find?_distinct` — **one of each class**.
-/

set_option autoImplicit false

namespace CpeMatch.Version

/-! ### The order of versions -/

theorem lt_of_le_of_lt {u v w : Version} (huv : u ≤ v) (hvw : v < w) : u < w := by
  by_contra h
  exact (not_lt_iff_le w v).2 (le_trans ((not_lt_iff_le w u).1 h) huv) hvw

theorem lt_of_lt_of_le {u v w : Version} (huv : u < v) (hvw : v ≤ w) : u < w := by
  by_contra h
  exact (not_lt_iff_le v u).2 (le_trans hvw ((not_lt_iff_le w u).1 h)) huv

/-! ### The best of several -/

section

variable {α : Type}

/-- All that come before the item are worse, and none that comes behind it is better. -/
def IsFirstBest (worse : α → α → Prop) (xs : List α) (x : α) : Prop :=
  ∃ before after, xs = before ++ x :: after ∧ (∀ y ∈ before, worse y x) ∧ ∀ y ∈ after, ¬ worse x y

/-- Going on with whatever is better leads to the first of the best. -/
theorem isFirstBest_of_foldl (worse : α → α → Prop) [DecidableRel worse]
    (trans : ∀ x y z, worse x y → worse y z → worse x z)
    (among : ∀ x y z, ¬ worse x y → worse x z → worse y z) {x best : α} {xs : List α}
    (h : xs.foldl (fun best y => if worse best y then y else best) x = best) : IsFirstBest worse (x :: xs) best := by
  induction xs generalizing x with
  | nil =>
      obtain rfl : x = best := h
      exact ⟨[], [], rfl, nofun, nofun⟩
  | cons y ys ih =>
      rw [List.foldl_cons] at h
      by_cases hworse : worse x y
      · rw [if_pos hworse] at h
        obtain ⟨before, after, hsplit, hbefore, hafter⟩ := ih h
        -- `y` is the best itself or comes before it
        have hx : worse x best := by
          cases before with
          | nil =>
              obtain ⟨rfl, -⟩ := List.cons.inj hsplit
              exact hworse
          | cons z before =>
              obtain ⟨rfl, -⟩ := List.cons.inj hsplit
              exact trans x y best hworse (hbefore y (List.mem_cons_self ..))
        exact ⟨x :: before, after, congrArg (x :: ·) hsplit, List.forall_mem_cons.2 ⟨hx, hbefore⟩, hafter⟩
      · rw [if_neg hworse] at h
        obtain ⟨before, after, hsplit, hbefore, hafter⟩ := ih h
        cases before with
        | nil =>
            obtain ⟨rfl, rfl⟩ := List.cons.inj hsplit
            exact ⟨[], y :: ys, rfl, nofun, List.forall_mem_cons.2 ⟨hworse, hafter⟩⟩
        | cons z before =>
            obtain ⟨rfl, rfl⟩ := List.cons.inj hsplit
            obtain ⟨hx, hrest⟩ := List.forall_mem_cons.1 hbefore
            exact ⟨x :: y :: before, after, rfl,
              List.forall_mem_cons.2 ⟨hx, List.forall_mem_cons.2 ⟨among x y best hworse hx, hrest⟩⟩, hafter⟩

variable {version : α → Version} {xs : List α} {x : α}

/-- **The first item whose version is greatest.** -/
theorem isFirstBest_greatestBy? (h : greatestBy? version xs = some x) :
    IsFirstBest (fun y z => version y < version z) xs x := by
  cases xs with
  | nil => cases h
  | cons y ys =>
      refine isFirstBest_of_foldl (fun y z => version y < version z) (fun _ _ _ => lt_trans) ?_ (Option.some.inj h)
      intro u v w hnot hlt
      exact lt_of_le_of_lt ((not_lt_iff_le _ _).1 hnot) hlt

theorem greatestBy?_eq_none_iff : greatestBy? version xs = none ↔ xs = [] := by
  cases xs <;> simp [greatestBy?]

end

section

variable {vs : List Version} {v : Version}

/-- The first of the greatest versions. -/
theorem isFirstBest_greatest? (h : greatest? vs = some v) : IsFirstBest (· < ·) vs v := isFirstBest_greatestBy? h

/-- **The first of the least versions.** -/
theorem isFirstBest_least? (h : least? vs = some v) : IsFirstBest (fun u w => w < u) vs v := by
  cases vs with
  | nil => cases h
  | cons w ws =>
      refine isFirstBest_of_foldl (fun u w => w < u) (fun _ _ _ hxy hyz => lt_trans hyz hxy) ?_ (Option.some.inj h)
      intro x y z hnot hlt
      exact lt_of_lt_of_le hlt ((not_lt_iff_le _ _).1 hnot)

theorem least?_eq_none_iff : least? vs = none ↔ vs = [] := by
  cases vs <;> simp [least?]

end

/-! ### Sorting -/

theorem decide_le_trans (u v w : Version) (huv : decide (u ≤ v) = true) (hvw : decide (v ≤ w) = true) :
    decide (u ≤ w) = true := decide_eq_true (le_trans (of_decide_eq_true huv) (of_decide_eq_true hvw))

theorem decide_le_total (v w : Version) : (decide (v ≤ w) || decide (w ≤ v)) = true := by
  rw [Bool.or_eq_true, decide_eq_true_iff, decide_eq_true_iff, or_iff_not_imp_left, ← not_lt_iff_le, not_not]
  exact fun hlt => (le_iff_lt_or_beq w v).2 (Or.inl hlt)

theorem perm_sorted (vs : List Version) : (sorted vs).Perm vs := List.mergeSort_perm ..

/-- **Sorted versions ascend.** -/
theorem pairwise_sorted (vs : List Version) : (sorted vs).Pairwise (· ≤ ·) :=
  (List.pairwise_mergeSort decide_le_trans decide_le_total vs).imp of_decide_eq_true

/-- **Equal versions stay in the order given.** -/
theorem filter_sorted (vs : List Version) (v : Version) : ((sorted vs).filter (· == v)) = vs.filter (· == v) := by
  refine filter_mergeSort_of_tied decide_le_trans decide_le_total vs ?_
  intro x y hx hy
  refine decide_eq_true (le_of_beq ?_)
  rw [beq_iff_tokens_eq] at hx hy ⊢
  exact hy.trans hx.symm

/-! ### One of each class -/

theorem distinct_cons (v : Version) (vs : List Version) :
    distinct (v :: vs) = v :: distinct (vs.filter fun w => !(w == v)) := List.eraseDups_cons

/-- Induction on what is left when all that equals the first is taken out. -/
theorem distinct_induction {motive : List Version → Prop} (nil : motive [])
    (cons : ∀ v vs, motive (vs.filter fun w => !(w == v)) → motive (v :: vs)) (vs : List Version) : motive vs := by
  induction h : vs.length using Nat.strong_induction_on generalizing vs with
  | _ n ih =>
      cases vs with
      | nil => exact nil
      | cons v vs =>
          subst h
          exact cons v vs (ih _ (Nat.lt_succ_of_le (List.length_filter_le ..)) _ rfl)

theorem distinct_subset (vs : List Version) : distinct vs ⊆ vs := by
  induction vs using distinct_induction with
  | nil => exact List.Subset.refl _
  | cons v vs ih =>
      rw [distinct_cons]
      exact List.cons_subset_cons v fun w hw => (List.mem_filter.1 (ih hw)).1

/-- **No two of them are equal.** -/
theorem pairwise_distinct (vs : List Version) : (distinct vs).Pairwise fun v w => (w == v) = false := by
  induction vs using distinct_induction with
  | nil => exact List.Pairwise.nil
  | cons v vs ih =>
      rw [distinct_cons, List.pairwise_cons]
      refine ⟨?_, ih⟩
      intro w hw
      have hne := (List.mem_filter.1 (distinct_subset _ hw)).2
      rwa [Bool.not_eq_true'] at hne

/-- **Of each class the first is kept.** -/
theorem find?_distinct (vs : List Version) (w : Version) : (distinct vs).find? (· == w) = vs.find? (· == w) := by
  induction vs using distinct_induction with
  | nil => rfl
  | cons v vs ih =>
      rw [distinct_cons, List.find?_cons, List.find?_cons]
      cases hvw : v == w with
      | true => rfl
      | false =>
          rw [ih, List.find?_filter]
          refine congrArg (List.find? · vs) (funext fun u => ?_)
          -- what is equal to `w` is not equal to `v`
          rw [Bool.eq_iff_iff, decide_eq_true_iff, and_iff_right_iff_imp]
          intro huw
          rw [Bool.not_eq_true', ← Bool.not_eq_true, beq_iff_tokens_eq]
          intro huv
          rw [beq_iff_tokens_eq] at huw
          rw [(beq_iff_tokens_eq v w).2 (huv.symm.trans huw)] at hvw
          cases hvw

end CpeMatch.Version
