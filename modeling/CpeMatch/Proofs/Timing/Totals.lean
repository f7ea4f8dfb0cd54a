import CpeMatch.Proofs.Timing.Task
import Mathlib.Algebra.BigOperators.Group.List.Basic
import Mathlib.Algebra.Order.Field.Rat
import Mathlib.Data.List.Induction
import Mathlib.Data.List.Nodup
import Mathlib.Order.Bounds.Basic
import Mathlib.Tactic.Ring

/-!
**The summary divides what has been recorded by name.**

Blocks are counted under their names one after another.  Counting a block changes the totals of its own operation
and leaves all others as they are and where they are; an operation that is counted for the first time comes last.
So the totals of an operation are at any time those of the blocks that have been recorded under its name.  The
totals of everything are computed apart from that, and are the sums of those of the operations, since each block
is counted under one name only.

Integers always have a sum, so that blocks whose numbers of items are integers have a summary.  There is none if
an integer beyond the range of floating-point numbers would have to be added to one of them.

Main definitions:

* `CpeMatch.Timing.recordedAs` — the blocks recorded under a name;
* `CpeMatch.Timing.totalItems`, `CpeMatch.Timing.greatestTime` — the sum of the numbers of items, and the greatest
  time;
* `CpeMatch.Timing.CountsIn` — what counting a block does;
* `CpeMatch.Timing.AreTotals` — the totals by name are those of the recorded blocks;
* `CpeMatch.Timing.Summary.IsOf` — what is said of a summary with exact times.

Main results:

* `CpeMatch.Timing.countOperation_cases` — **what counting a block does, and when it fails**;
* `CpeMatch.Timing.operationTotals_cases` — the same of counting any number of blocks;
* `CpeMatch.Timing.summary_divides_by_name` — **a summary divides what has been recorded by name**.
-/

set_option autoImplicit false

namespace CpeMatch.Timing

section

variable {τ : Type}

/-! ### The blocks of a name -/

/-- The blocks recorded under a name. -/
def recordedAs (name : Text) (metrics : List (Metric τ)) : List (Metric τ) :=
  metrics.filter fun m => m.operation = name

/-- The sum of the numbers of items, if there is one. -/
def totalItems (metrics : List (Metric τ)) : Option Number :=
  metrics.foldlM (fun sum m => sum.add? m.items) (.whole 0)

theorem recordedAs_append_self (metrics : List (Metric τ)) (m : Metric τ) :
    recordedAs m.operation (metrics ++ [m]) = recordedAs m.operation metrics ++ [m] := by
  simp [recordedAs]

theorem recordedAs_append_of_ne {name : Text} (metrics : List (Metric τ)) {m : Metric τ}
    (h : name ≠ m.operation) : recordedAs name (metrics ++ [m]) = recordedAs name metrics := by
  simp [recordedAs, h.symm]

theorem recordedAs_eq_nil {name : Text} {metrics : List (Metric τ)}
    (h : name ∉ metrics.map (·.operation)) : recordedAs name metrics = [] := by
  rw [recordedAs, List.filter_eq_nil_iff]
  intro m hm hname
  exact h (List.mem_map.2 ⟨m, hm, of_decide_eq_true hname⟩)

theorem totalItems_append_singleton (metrics : List (Metric τ)) (m : Metric τ) :
    totalItems (metrics ++ [m]) = (totalItems metrics).bind (·.add? m.items) := by
  rw [totalItems, List.foldlM_append, ← totalItems]
  simp

/-- Integers have a sum. -/
theorem totalItems_of_whole {metrics : List (Metric τ)} {count : Metric τ → Int}
    (h : ∀ m ∈ metrics, m.items = .whole (count m)) :
    totalItems metrics = some (.whole (metrics.map count).sum) := by
  induction metrics using List.reverseRecOn with
  | nil => rfl
  | append_singleton metrics m ih =>
      obtain ⟨hmetrics, hm⟩ := List.forall_mem_append.1 h
      rw [totalItems_append_singleton, ih hmetrics, Option.bind_some, hm m (List.mem_singleton_self m),
        Number.add?_whole, List.map_append, List.sum_append, List.map_singleton, List.sum_singleton]

/-- What has no sum has none with more behind it. -/
theorem totalItems_recordedAs_append_eq_none {name : Text} {metrics : List (Metric τ)}
    (h : totalItems (recordedAs name metrics) = none) (m : Metric τ) :
    totalItems (recordedAs name (metrics ++ [m])) = none := by
  by_cases hname : name = m.operation
  · subst hname
    rw [recordedAs_append_self, totalItems_append_singleton, h, Option.bind_none]
  · rw [recordedAs_append_of_ne metrics hname, h]

theorem not_mem_names_cons {name : Text} {e : Text × OperationTotals τ} {rest : List (Text × OperationTotals τ)}
    (he : e.1 ≠ name) (hrest : name ∉ rest.map (·.1)) : name ∉ (e :: rest).map (·.1) := by
  rw [List.map_cons, List.mem_cons, not_or]
  exact ⟨he.symm, hrest⟩

end

section

variable {τ : Type} [Duration τ]

/-- The greatest time, or zero if none is greater. -/
def greatestTime (metrics : List (Metric τ)) : τ :=
  metrics.foldl (fun greatest m => Duration.greater greatest m.time) Duration.zero

/-! ### Counting a block -/

/-- The totals are those of the given blocks. -/
structure OperationTotals.AreOf (t : OperationTotals τ) (metrics : List (Metric τ)) : Prop where
  calls_eq : t.calls = metrics.length
  time_eq : t.time = totalTime metrics
  greatest_eq : t.greatest = greatestTime metrics
  items_eq : totalItems metrics = some t.items

theorem OperationTotals.zero_areOf : (OperationTotals.zero : OperationTotals τ).AreOf [] :=
  ⟨rfl, rfl, rfl, rfl⟩

/-- The totals of one block more, unless its items have no sum with the others. -/
theorem OperationTotals.AreOf.count_cases {t : OperationTotals τ} {metrics : List (Metric τ)} (h : t.AreOf metrics)
    (m : Metric τ) :
    (∃ t', t.count m = .ok t' ∧ t'.AreOf (metrics ++ [m])) ∨
      t.count m = .error .beyondFloats ∧ totalItems (metrics ++ [m]) = none := by
  have hitems : totalItems (metrics ++ [m]) = t.items.add? m.items := by
    rw [totalItems_append_singleton, h.items_eq, Option.bind_some]
  rw [hitems, OperationTotals.count]
  cases hsum : t.items.add? m.items with
  | none => exact Or.inr ⟨rfl, rfl⟩
  | some items =>
      refine Or.inl ⟨_, rfl, ?_, ?_, ?_, hitems.trans hsum⟩
      · rw [h.calls_eq, List.length_append, List.length_singleton]
      · rw [h.time_eq, totalTime, totalTime, List.foldl_append]
        rfl
      · rw [h.greatest_eq, greatestTime, greatestTime, List.foldl_append]
        rfl

/-- The totals of an operation: those that stand under its name, or those of no blocks if none do. -/
def HasTotals (operations : List (Text × OperationTotals τ)) (name : Text) (t : OperationTotals τ) : Prop :=
  (name, t) ∈ operations ∨ name ∉ operations.map (·.1) ∧ t = .zero

/-- What counting a block does to the totals by name: if its operation has totals these count it, and if not the
operation comes behind the others. -/
inductive CountsIn (m : Metric τ) :
    List (Text × OperationTotals τ) → List (Text × OperationTotals τ) → Prop where
  | known (before after : List (Text × OperationTotals τ)) {t t' : OperationTotals τ} (h : t.count m = .ok t') :
      CountsIn m (before ++ (m.operation, t) :: after) (before ++ (m.operation, t') :: after)
  | new {operations : List (Text × OperationTotals τ)} {t' : OperationTotals τ}
      (hnew : m.operation ∉ operations.map (·.1)) (h : OperationTotals.zero.count m = .ok t') :
    CountsIn m operations (operations ++ [(m.operation, t')])

theorem HasTotals.cons {name : Text} {t : OperationTotals τ} {e : Text × OperationTotals τ}
    {rest : List (Text × OperationTotals τ)} (h : HasTotals rest name t) (he : e.1 ≠ name) :
    HasTotals (e :: rest) name t := by
  rcases h with ht | ⟨hnew, rfl⟩
  · exact Or.inl (List.mem_cons_of_mem e ht)
  · exact Or.inr ⟨not_mem_names_cons he hnew, rfl⟩

theorem CountsIn.cons {m : Metric τ} {e : Text × OperationTotals τ} {rest rest' : List (Text × OperationTotals τ)}
    (h : CountsIn m rest rest') (he : e.1 ≠ m.operation) : CountsIn m (e :: rest) (e :: rest') := by
  cases h with
  | known before after h => exact .known (e :: before) after h
  | new hnew h => exact .new (not_mem_names_cons he hnew) h

/-- **What counting a block does, and when it fails.**  It fails if the totals of its operation cannot count
it. -/
theorem countOperation_cases (m : Metric τ) (operations : List (Text × OperationTotals τ)) :
    (∃ operations', countOperation m operations = .ok operations' ∧ CountsIn m operations operations') ∨
      ∃ fault, countOperation m operations = .error fault ∧
        ∃ t, HasTotals operations m.operation t ∧ t.count m = .error fault := by
  induction operations with
  | nil =>
      rw [countOperation]
      cases h : (OperationTotals.zero : OperationTotals τ).count m with
      | error fault => exact Or.inr ⟨fault, rfl, .zero, Or.inr ⟨List.not_mem_nil, rfl⟩, h⟩
      | ok t' => exact Or.inl ⟨_, rfl, .new List.not_mem_nil h⟩
  | cons e rest ih =>
      obtain ⟨name, t⟩ := e
      rw [countOperation]
      by_cases hname : name = m.operation
      · subst hname
        rw [if_pos rfl]
        cases h : t.count m with
        | error fault => exact Or.inr ⟨fault, rfl, t, Or.inl (List.mem_cons_self ..), h⟩
        | ok t' => exact Or.inl ⟨_, rfl, .known [] rest h⟩
      · rw [if_neg hname]
        rcases ih with ⟨rest', hrest, hcounts⟩ | ⟨fault, hrest, t, ht, hcount⟩
        · rw [hrest]
          exact Or.inl ⟨_, rfl, hcounts.cons hname⟩
        · rw [hrest]
          exact Or.inr ⟨fault, rfl, t, ht.cons hname, hcount⟩

/-- The other operations stay as they are and where they are. -/
theorem CountsIn.filter_eq {m : Metric τ} {operations operations' : List (Text × OperationTotals τ)}
    (h : CountsIn m operations operations') :
    operations'.filter (fun e => e.1 ≠ m.operation) = operations.filter fun e => e.1 ≠ m.operation := by
  cases h <;> simp

/-! ### Counting all blocks -/

theorem eraseDups_append_of_mem {names : List Text} {name : Text} (h : name ∈ names) :
    (names ++ [name]).eraseDups = names.eraseDups := by
  rw [List.eraseDups_append, List.removeAll, List.filter_cons_of_neg (by simpa using h), List.filter_nil,
    List.eraseDups_nil, List.append_nil]

theorem eraseDups_append_of_not_mem {names : List Text} {name : Text} (h : name ∉ names) :
    (names ++ [name]).eraseDups = names.eraseDups ++ [name] := by
  rw [List.eraseDups_append, List.removeAll, List.filter_cons_of_pos (by simpa using h), List.filter_nil]
  rfl

/-- The totals by name are those of the blocks recorded under each name, with the names in the order of first
record. -/
structure AreTotals (operations : List (Text × OperationTotals τ)) (metrics : List (Metric τ)) : Prop where
  names_eq : operations.map (·.1) = (metrics.map (·.operation)).eraseDups
  nodup : (operations.map (·.1)).Nodup
  areOf : ∀ e ∈ operations, e.2.AreOf (recordedAs e.1 metrics)

namespace AreTotals

variable {operations operations' : List (Text × OperationTotals τ)} {metrics : List (Metric τ)}

theorem nil : AreTotals ([] : List (Text × OperationTotals τ)) [] :=
  ⟨rfl, List.nodup_nil, List.forall_mem_nil _⟩

theorem mem_names_iff (h : AreTotals operations metrics) (name : Text) :
    name ∈ operations.map (·.1) ↔ name ∈ metrics.map (·.operation) := by
  rw [h.names_eq, List.mem_eraseDups]

/-- The totals of the other operations are those of the same blocks as before. -/
theorem areOf_append_of_ne (h : AreTotals operations metrics) {m : Metric τ} {e : Text × OperationTotals τ}
    (he : e ∈ operations) (hne : e.1 ≠ m.operation) : e.2.AreOf (recordedAs e.1 (metrics ++ [m])) := by
  rw [recordedAs_append_of_ne metrics hne]
  exact h.areOf e he

/-- The totals that a block is counted in are those of the blocks recorded under its name before it, and
counting it fails if its items have no sum with theirs. -/
theorem count_cases (h : AreTotals operations metrics) (m : Metric τ) {t : OperationTotals τ}
    (ht : HasTotals operations m.operation t) :
    (∃ t', t.count m = .ok t' ∧ t'.AreOf (recordedAs m.operation (metrics ++ [m]))) ∨
      t.count m = .error .beyondFloats ∧ totalItems (recordedAs m.operation (metrics ++ [m])) = none := by
  have hbefore : t.AreOf (recordedAs m.operation metrics) := by
    rcases ht with ht | ⟨hnew, rfl⟩
    · exact h.areOf _ ht
    · rw [h.mem_names_iff] at hnew
      rw [recordedAs_eq_nil hnew]
      exact OperationTotals.zero_areOf
  rw [recordedAs_append_self]
  exact hbefore.count_cases m

theorem areOf_of_count (h : AreTotals operations metrics) {m : Metric τ} {t t' : OperationTotals τ}
    (ht : HasTotals operations m.operation t)
    (hcount : t.count m = .ok t') : t'.AreOf (recordedAs m.operation (metrics ++ [m])) := by
  rcases h.count_cases m ht with ⟨t'', hok, hareOf⟩ | ⟨herror, -⟩
  · rw [hcount] at hok
    cases hok
    exact hareOf
  · rw [hcount] at herror
    cases herror

/-- **One block more.** -/
theorem countsIn (h : AreTotals operations metrics) {m : Metric τ} (hcounts : CountsIn m operations operations') :
    AreTotals operations' (metrics ++ [m]) := by
  cases hcounts with
  | @known before after t t' hcount =>
      have hnames : (before ++ (m.operation, t') :: after).map (·.1) =
          (before ++ (m.operation, t) :: after).map (·.1) := by
        simp
      have hmem : (m.operation, t) ∈ before ++ (m.operation, t) :: after := by simp
      refine ⟨?_, hnames ▸ h.nodup, ?_⟩
      · have hknown := (h.mem_names_iff m.operation).1 (List.mem_map_of_mem hmem)
        rw [hnames, h.names_eq, List.map_append, List.map_singleton, eraseDups_append_of_mem hknown]
      · intro e he
        -- no other totals are of the same name
        have hothers : ∀ e ∈ before ++ after, e.1 ≠ m.operation := by
          have hnodup := h.nodup
          rw [List.map_append, List.map_cons, List.nodup_middle, List.nodup_cons, ← List.map_append] at hnodup
          intro e he hname
          exact hnodup.1 (List.mem_map.2 ⟨e, he, hname⟩)
        rcases List.mem_append.1 he with he | he
        · exact h.areOf_append_of_ne (by simp [he]) (hothers e (by simp [he]))
        · rcases List.mem_cons.1 he with rfl | he
          · exact h.areOf_of_count (Or.inl hmem) hcount
          · exact h.areOf_append_of_ne (by simp [he]) (hothers e (by simp [he]))
  | @new _ t' hnew hcount =>
      have hfresh := (h.mem_names_iff m.operation).not.1 hnew
      refine ⟨?_, ?_, ?_⟩
      · rw [List.map_append, List.map_append, h.names_eq, List.map_singleton, List.map_singleton,
          eraseDups_append_of_not_mem hfresh]
      · rw [List.map_append, List.map_singleton, List.nodup_append_comm]
        exact List.nodup_cons.2 ⟨hnew, h.nodup⟩
      · intro e he
        rcases List.mem_append.1 he with he | he
        · refine h.areOf_append_of_ne he fun hname => ?_
          exact hnew (List.mem_map.2 ⟨e, he, hname⟩)
        · rw [List.mem_singleton.1 he]
          exact h.areOf_of_count (Or.inr ⟨hnew, rfl⟩) hcount

/-- The items recorded under a name have a sum if there are totals. -/
theorem isSome_totalItems (h : AreTotals operations metrics) (name : Text) :
    (totalItems (recordedAs name metrics)).isSome := by
  by_cases hname : name ∈ operations.map (·.1)
  · obtain ⟨e, he, rfl⟩ := List.mem_map.1 hname
    rw [(h.areOf e he).items_eq]
    rfl
  · rw [h.mem_names_iff] at hname
    rw [recordedAs_eq_nil hname]
    rfl

end AreTotals

theorem operationTotals_append_singleton (metrics : List (Metric τ)) (m : Metric τ) :
    operationTotals (metrics ++ [m]) = operationTotals metrics >>= countOperation m := by
  rw [operationTotals, List.foldlM_append, ← operationTotals]
  simp

/-- If all blocks but the last have totals, these count the last one. -/
theorem operationTotals_append_of_ok {metrics : List (Metric τ)} {operations : List (Text × OperationTotals τ)}
    (h : operationTotals metrics = .ok operations) (m : Metric τ) :
    operationTotals (metrics ++ [m]) = countOperation m operations := by
  rw [operationTotals_append_singleton, h]
  rfl

theorem countsIn_of_countOperation {m : Metric τ} {operations operations' : List (Text × OperationTotals τ)}
    (h : countOperation m operations = .ok operations') : CountsIn m operations operations' := by
  rcases countOperation_cases m operations with ⟨_, hok, hcounts⟩ | ⟨_, herror, -⟩
  · rw [h] at hok
    cases hok
    exact hcounts
  · rw [h] at herror
    cases herror

/-- What holds of no blocks and is kept by counting one holds of all blocks that have totals. -/
theorem operationTotals_induction {motive : List (Metric τ) → List (Text × OperationTotals τ) → Prop}
    (nil : motive [] [])
    (counts : ∀ metrics m operations operations', motive metrics operations →
      CountsIn m operations operations' → motive (metrics ++ [m]) operations')
    {metrics : List (Metric τ)} {operations : List (Text × OperationTotals τ)}
    (h : operationTotals metrics = .ok operations) : motive metrics operations := by
  induction metrics using List.reverseRecOn generalizing operations with
  | nil =>
      cases h
      exact nil
  | append_singleton metrics m ih =>
      rw [operationTotals_append_singleton] at h
      obtain ⟨before, hbefore, hcount⟩ := exists_of_bind_eq_ok h
      exact counts metrics m before operations (ih hbefore) (countsIn_of_countOperation hcount)

theorem areTotals_of_ok {metrics : List (Metric τ)} {operations : List (Text × OperationTotals τ)}
    (h : operationTotals metrics = .ok operations) : AreTotals operations metrics := by
  refine operationTotals_induction (motive := fun metrics operations => AreTotals operations metrics) .nil ?_ h
  intro metrics m operations operations' htotals hcounts
  exact htotals.countsIn hcounts

/-- **When there are totals.**  There are none if the items recorded under some name have no sum. -/
theorem operationTotals_cases (metrics : List (Metric τ)) :
    (∃ operations, operationTotals metrics = .ok operations) ∨
      operationTotals metrics = .error .beyondFloats ∧ ∃ name, totalItems (recordedAs name metrics) = none := by
  induction metrics using List.reverseRecOn with
  | nil => exact Or.inl ⟨[], rfl⟩
  | append_singleton metrics m ih =>
      rcases ih with ⟨operations, hoperations⟩ | ⟨herror, name, hname⟩
      · rw [operationTotals_append_of_ok hoperations]
        rcases countOperation_cases m operations with ⟨operations', hok, -⟩ | ⟨fault, hfault, t, ht, hcount⟩
        · exact Or.inl ⟨operations', hok⟩
        · rcases (areTotals_of_ok hoperations).count_cases m ht with ⟨t', hok, -⟩ | ⟨herror, hnone⟩
          · rw [hcount] at hok
            cases hok
          · rw [hcount] at herror
            cases herror
            exact Or.inr ⟨hfault, m.operation, hnone⟩
      · rw [operationTotals_append_singleton, herror]
        exact Or.inr ⟨rfl, name, totalItems_recordedAs_append_eq_none hname m⟩

/-! ### The sums of the totals -/

theorem OperationTotals.count_eq_ok {t t' : OperationTotals τ} {m : Metric τ} (h : t.count m = .ok t') :
    t'.calls = t.calls + 1 ∧ t'.time = Duration.add t.time m.time := by
  rw [count] at h
  split at h
  · cases h
    exact ⟨rfl, rfl⟩
  · cases h

/-- Counting a block adds one to the number of calls, whatever operation it is. -/
theorem sum_calls_of_ok {metrics : List (Metric τ)} {operations : List (Text × OperationTotals τ)}
    (h : operationTotals metrics = .ok operations) : (operations.map (·.2.calls)).sum = metrics.length := by
  refine operationTotals_induction
    (motive := fun metrics operations => (operations.map (·.2.calls)).sum = metrics.length) rfl ?_ h
  intro metrics m operations operations' hsum hcounts
  rw [List.length_append, List.length_singleton, ← hsum]
  cases hcounts with
  | known before after hcount =>
      simp [(OperationTotals.count_eq_ok hcount).1]
      omega
  | new hnew hcount => simp [(OperationTotals.count_eq_ok hcount).1, OperationTotals.zero]

end

/-! ### Exact times -/

/-- The totals `t` are those of the given blocks, said with exact times. -/
structure OperationTotals.IsOf (t : OperationTotals Rat) (metrics : List (Metric Rat)) : Prop where
  calls : t.calls = metrics.length
  time : t.time = (metrics.map (·.time)).sum
  items : totalItems metrics = some t.items
  greatest : (∀ m ∈ metrics, 0 ≤ m.time) → IsGreatest {x | ∃ m ∈ metrics, m.time = x} t.greatest

/-- `s` is the summary of the recorded blocks: its operations are the names in the order of first record, each of
them once and with the totals of the blocks recorded under it, and what is said of everything is both what there
is and the sum of what is said of the operations. -/
structure Summary.IsOf (s : Summary Rat) (metrics : List (Metric Rat)) : Prop where
  executions : s.executions = metrics.length
  time : s.time = (metrics.map (·.time)).sum
  average : s.average * s.executions = s.time
  names : s.operations.map (·.1) = (metrics.map (·.operation)).eraseDups
  nodup : (s.operations.map (·.1)).Nodup
  operation : ∀ name t, (name, t) ∈ s.operations → t.IsOf (recordedAs name metrics)
  sum_calls : (s.operations.map (·.2.calls)).sum = s.executions
  sum_time : (s.operations.map (·.2.time)).sum = s.time

theorem totalTime_eq_sum (metrics : List (Metric Rat)) : totalTime metrics = (metrics.map (·.time)).sum := by
  induction metrics using List.reverseRecOn with
  | nil => rfl
  | append_singleton metrics m ih =>
      rw [totalTime, List.foldl_append, ← totalTime, ih, List.map_append, List.sum_append]
      simp
      rfl

theorem greater_eq_max (a b : Rat) : Duration.greater a b = max a b := by
  rw [Duration.greater, max_def_lt]
  exact if_congr decide_eq_true_iff rfl rfl

/-- Counting a block adds its time, whatever operation it is. -/
theorem sum_time_of_ok {metrics : List (Metric Rat)} {operations : List (Text × OperationTotals Rat)}
    (h : operationTotals metrics = .ok operations) :
    (operations.map (·.2.time)).sum = (metrics.map (·.time)).sum := by
  refine operationTotals_induction
    (motive := fun metrics operations => (operations.map (·.2.time)).sum = (metrics.map (·.time)).sum) rfl ?_ h
  intro metrics m operations operations' hsum hcounts
  have hadd (a b : Rat) : Duration.add a b = a + b := rfl
  rw [List.map_append, List.sum_append, ← hsum]
  cases hcounts with
  | known before after hcount =>
      simp [(OperationTotals.count_eq_ok hcount).2, hadd]
      ring
  | new hnew hcount =>
      simp [(OperationTotals.count_eq_ok hcount).2, hadd, OperationTotals.zero]
      rfl

/-- The greatest time is the greatest of zero and the times. -/
theorem isGreatest_greatestTime (metrics : List (Metric Rat)) :
    IsGreatest {x | x = 0 ∨ ∃ m ∈ metrics, m.time = x} (greatestTime metrics) := by
  induction metrics using List.reverseRecOn with
  | nil =>
      refine ⟨Or.inl rfl, ?_⟩
      rintro x (rfl | ⟨m, hm, -⟩)
      · exact le_rfl
      · exact (List.not_mem_nil hm).elim
  | append_singleton metrics m ih =>
      have hmax : greatestTime (metrics ++ [m]) = max m.time (greatestTime metrics) := by
        rw [max_comm, ← greater_eq_max, greatestTime, List.foldl_append]
        rfl
      have hset : {x | x = 0 ∨ ∃ n ∈ metrics ++ [m], n.time = x} =
          insert m.time {x | x = 0 ∨ ∃ n ∈ metrics, n.time = x} := by
        ext x
        simp only [Set.mem_ofPred_eq, Set.mem_insert_iff, List.mem_append, List.mem_singleton, or_and_right,
          exists_or, exists_eq_left, @eq_comm _ m.time x]
        rw [← or_assoc, or_comm]
      rw [hmax, hset]
      exact ih.insert m.time

/-- If no time is negative, the greatest time is one of the times. -/
theorem isGreatest_of_nonneg {metrics : List (Metric Rat)} (hne : metrics ≠ [])
    (hnonneg : ∀ m ∈ metrics, 0 ≤ m.time) :
    IsGreatest {x | ∃ m ∈ metrics, m.time = x} (greatestTime metrics) := by
  obtain ⟨hmem, hupper⟩ := isGreatest_greatestTime metrics
  refine ⟨?_, fun x hx => hupper (Or.inr hx)⟩
  rcases hmem with hzero | hmem
  · obtain ⟨m, hm⟩ := List.exists_mem_of_ne_nil metrics hne
    refine ⟨m, hm, le_antisymm (hupper (Or.inr ⟨m, hm, rfl⟩)) ?_⟩
    rw [hzero]
    exact hnonneg m hm
  · exact hmem

/-- The totals that an operation has are those of the blocks recorded under its name. -/
theorem OperationTotals.AreOf.isOf {t : OperationTotals Rat} {metrics : List (Metric Rat)} (h : t.AreOf metrics)
    (hne : metrics ≠ []) : t.IsOf metrics where
  calls := h.calls_eq
  time := h.time_eq.trans (totalTime_eq_sum metrics)
  items := h.items_eq
  greatest hnonneg := h.greatest_eq ▸ isGreatest_of_nonneg hne hnonneg

/-! ### The summary -/

/-- What is said of everything stands beside the totals by name, if there are any. -/
theorem summarise_of_ne_nil {metrics : List (Metric Rat)} (hne : metrics ≠ []) :
    summarise metrics = (operationTotals metrics).map fun operations =>
      some ⟨metrics.length, totalTime metrics, Duration.share (totalTime metrics) metrics.length, operations⟩ := by
  rw [summarise, List.isEmpty_eq_false_iff.2 hne]
  cases operationTotals metrics <;> rfl

/-- A summary is made of the totals by name. -/
theorem operationTotals_of_summarise {metrics : List (Metric Rat)} {s : Summary Rat}
    (h : summarise metrics = .ok (some s)) :
    metrics ≠ [] ∧ operationTotals metrics = .ok s.operations ∧
      s = ⟨metrics.length, totalTime metrics, totalTime metrics / (metrics.length : Nat), s.operations⟩ := by
  have hne : metrics ≠ [] := by
    rintro rfl
    cases h
  rw [summarise_of_ne_nil hne] at h
  obtain ⟨operations, hoperations, hs⟩ := exists_of_map_eq_ok h
  cases hs
  exact ⟨hne, hoperations, rfl⟩

/-- **Every summary is one of what has been recorded.** -/
theorem isOf_of_summarise {metrics : List (Metric Rat)} {s : Summary Rat} (h : summarise metrics = .ok (some s)) :
    s.IsOf metrics := by
  obtain ⟨hne, hoperations, hs⟩ := operationTotals_of_summarise h
  have htotals := areTotals_of_ok hoperations
  have hexecutions : s.executions = metrics.length := by rw [hs]
  have htime : s.time = (metrics.map (·.time)).sum := by rw [hs, totalTime_eq_sum]
  refine ⟨hexecutions, htime, ?_, htotals.names_eq, htotals.nodup, ?_, ?_, ?_⟩
  · have hlength : (metrics.length : Rat) ≠ 0 := Nat.cast_ne_zero.2 (mt List.length_eq_zero_iff.1 hne)
    rw [hs]
    exact div_mul_cancel₀ _ hlength
  · intro name t ht
    refine (htotals.areOf _ ht).isOf ?_
    -- a name that has totals has been recorded
    obtain ⟨m, hm, hname⟩ := List.mem_map.1 ((htotals.mem_names_iff name).1 (List.mem_map_of_mem ht))
    exact List.ne_nil_of_mem (List.mem_filter.2 ⟨hm, decide_eq_true hname⟩)
  · rw [hexecutions]
    exact sum_calls_of_ok hoperations
  · rw [htime]
    exact sum_time_of_ok hoperations

/-- What one block more changes of a summary. -/
theorem summarise_append {metrics : List (Metric Rat)} {m : Metric Rat} {s s' : Summary Rat}
    (h : summarise metrics = .ok (some s)) (h' : summarise (metrics ++ [m]) = .ok (some s')) :
    s'.operations.filter (fun e => e.1 ≠ m.operation) = s.operations.filter (fun e => e.1 ≠ m.operation) ∧
      s'.executions = s.executions + 1 ∧ s'.time = s.time + m.time := by
  obtain ⟨-, hbefore, -⟩ := operationTotals_of_summarise h
  obtain ⟨-, hafter, -⟩ := operationTotals_of_summarise h'
  rw [operationTotals_append_of_ok hbefore] at hafter
  refine ⟨(countsIn_of_countOperation hafter).filter_eq, ?_, ?_⟩
  · rw [(isOf_of_summarise h').executions, (isOf_of_summarise h).executions, List.length_append,
      List.length_singleton]
  · rw [(isOf_of_summarise h').time, (isOf_of_summarise h).time, List.map_append, List.sum_append,
      List.map_singleton, List.sum_singleton]

theorem summarise_eq_none_iff (metrics : List (Metric Rat)) : summarise metrics = .ok none ↔ metrics = [] := by
  constructor
  · intro h
    by_contra hne
    rw [summarise_of_ne_nil hne] at h
    obtain ⟨operations, -, hs⟩ := exists_of_map_eq_ok h
    cases hs
  · rintro rfl
    rfl

/-- There is no summary if and only if the items recorded under some name have no sum. -/
theorem summarise_eq_error_iff (metrics : List (Metric Rat)) (fault : Fault) :
    summarise metrics = .error fault ↔
      fault = .beyondFloats ∧ ∃ name, totalItems (recordedAs name metrics) = none := by
  by_cases hne : metrics = []
  · subst hne
    refine iff_of_false ?_ ?_
    · intro h
      cases h
    · rintro ⟨-, name, hname⟩
      cases hname
  · rw [summarise_of_ne_nil hne]
    rcases operationTotals_cases metrics with ⟨operations, hoperations⟩ | ⟨herror, hname⟩
    · rw [hoperations]
      refine iff_of_false ?_ ?_
      · intro h
        cases h
      · rintro ⟨-, name, hname⟩
        have hsum := (areTotals_of_ok hoperations).isSome_totalItems name
        rw [hname] at hsum
        cases hsum
    · rw [herror]
      constructor
      · intro h
        cases h
        exact ⟨rfl, hname⟩
      · rintro ⟨rfl, -⟩
        rfl

/-- **A summary divides what has been recorded by name.**  It is empty if nothing has been recorded, and there is
none only if the items of some name have no sum, which does not happen to integers.  Every other summary has the
recorded names in the order of first record, and for each of them the number of the blocks recorded under it, the
sums of their times and items, and their greatest time if none is negative.  Calls and times add up to those of
everything, and the average time is the time of everything shared out among the blocks.  One block more leaves
all other operations as they are and where they are. -/
theorem summary_divides_by_name (monitor : Monitor Rat) :
    let metrics := monitor.metrics.toList
    (monitor.summary = .ok none ↔ metrics = []) ∧
    (∀ fault, monitor.summary = .error fault ↔
      fault = .beyondFloats ∧ ∃ name, totalItems (recordedAs name metrics) = none) ∧
    (∀ count : Metric Rat → Int, (∀ m ∈ metrics, m.items = .whole (count m)) →
      (∃ summary, monitor.summary = .ok summary) ∧
      ∀ name, totalItems (recordedAs name metrics) = some (.whole ((recordedAs name metrics).map count).sum)) ∧
    ∀ s, monitor.summary = .ok (some s) →
      s.IsOf metrics ∧
      ∀ m s', { monitor with metrics := monitor.metrics.push m }.summary = .ok (some s') →
        s'.operations.filter (fun e => e.1 ≠ m.operation) = s.operations.filter (fun e => e.1 ≠ m.operation) ∧
        s'.executions = s.executions + 1 ∧ s'.time = s.time + m.time := by
  intro metrics
  have hsum (count : Metric Rat → Int) (h : ∀ m ∈ metrics, m.items = .whole (count m)) (name : Text) :
      totalItems (recordedAs name metrics) = some (.whole ((recordedAs name metrics).map count).sum) :=
    totalItems_of_whole fun m hm => h m (List.mem_filter.1 hm).1
  refine ⟨summarise_eq_none_iff metrics, summarise_eq_error_iff metrics, ?_, ?_⟩
  · intro count h
    refine ⟨?_, hsum count h⟩
    cases hsummary : monitor.summary with
    | ok summary => exact ⟨summary, rfl⟩
    | error fault =>
        obtain ⟨-, name, hname⟩ := (summarise_eq_error_iff metrics fault).1 hsummary
        rw [hsum count h name] at hname
        cases hname
  · intro s hs
    refine ⟨isOf_of_summarise hs, ?_⟩
    intro m s' hs'
    rw [Monitor.summary, Array.toList_push] at hs'
    exact summarise_append hs hs'

/-- Two operations by turns. -/
theorem summary_divides_by_name_byTurns :
    let monitor : Monitor Rat :=
      ⟨true, #[⟨"load", 2, .whole 5⟩, ⟨"scan", 3, .whole 1⟩, ⟨"load", 4, .whole 7⟩]⟩
    let items (m : Metric Rat) : Int := match m.items with
      | .whole n => n
      | .binary _ => 0
    (∀ m ∈ monitor.metrics.toList, m.items = .whole (items m)) ∧
      ∃ s, monitor.summary = .ok (some s) ∧ s.executions = 3 ∧ s.time = 9 ∧
        s.operations.map (·.1) = ["load", "scan"] ∧
        totalItems (recordedAs "load" monitor.metrics.toList) = some (.whole 12) := by
  intro monitor items
  have hitems : ∀ m ∈ monitor.metrics.toList, m.items = .whole (items m) := by
    simp [monitor, items]
  obtain ⟨hnone, -, hwhole, hsummary⟩ := summary_divides_by_name monitor
  obtain ⟨⟨summary, hsome⟩, hsum⟩ := hwhole items hitems
  cases summary with
  | none => exact absurd (hnone.1 hsome) (List.cons_ne_nil _ _)
  | some s =>
      obtain ⟨hs, -⟩ := hsummary s hsome
      refine ⟨hitems, s, hsome, hs.executions, ?_, ?_, ?_⟩
      · rw [hs.time]
        norm_num [monitor]
      · rw [hs.names]
        decide
      · rw [hsum]
        rfl

end CpeMatch.Timing
