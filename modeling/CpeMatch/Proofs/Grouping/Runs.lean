import Mathlib.Data.List.SplitBy
import Mathlib.Data.List.TakeWhile
import Mathlib.Order.Lattice

/-!
**Maximal runs of equal ids.**

A stream of items with ids falls into runs: an item and all that follow it with its id, up to the first
with another one.  Nothing is asked of the equality of ids; where it is an equivalence the runs are the
maximal stretches in which any two neighbours have equal ids.  In a stream in which the items of each id are
next to each other, as they are in ascending order of ids, the runs are the ids, each once and with all its
items.

Main definitions:

* `CpeMatch.runs` — the runs of a stream, each with its id;
* `CpeMatch.runsFrom` — the runs of what is still to be read while a run is open;
* `CpeMatch.Adjacent` — the items of each id are next to each other.

Main results:

* `CpeMatch.runsFrom_cons` — what one further item does to the open run;
* `CpeMatch.flatMap_runs`, `CpeMatch.ne_nil_of_mem_runs` — no item is lost, and no run is empty;
* `CpeMatch.runs_eq_splitBy` — the runs as stretches of neighbours with equal ids;
* `CpeMatch.Adjacent.pairwise_runs_ne`, `CpeMatch.Adjacent.mem_runs_iff` — **the runs of a stream in which the
  items of each id are next to each other**;
* `CpeMatch.pairwise_runs` — the runs of a stream in ascending order.
-/

set_option autoImplicit false

namespace CpeMatch

section

variable {ι α : Type} [BEq ι]

/-- The maximal runs of items with one id, each as the id of its first item and what the items hold. -/
def runs : List (ι × α) → List (ι × List α)
  | [] => []
  | (id, a) :: rest =>
    (id, a :: (rest.takeWhile (·.1 == id)).map (·.2)) :: runs (rest.dropWhile (·.1 == id))
termination_by items => items.length
decreasing_by
  rw [List.length_cons]
  exact Nat.lt_succ_of_le (List.dropWhile_sublist _).length_le

/-- The runs of `rest` while a run of `id` is open that holds `held` so far. -/
def runsFrom (id : ι) (held : List α) (rest : List (ι × α)) : List (ι × List α) :=
  (id, held ++ (rest.takeWhile (·.1 == id)).map (·.2)) :: runs (rest.dropWhile (·.1 == id))

@[simp] theorem runs_nil : runs ([] : List (ι × α)) = [] := by
  rw [runs]

/-- The first item opens a run. -/
theorem runs_cons (id : ι) (a : α) (rest : List (ι × α)) :
    runs ((id, a) :: rest) = runsFrom id [a] rest := by
  rw [runs]
  rfl

@[simp] theorem runsFrom_nil (id : ι) (held : List α) : runsFrom id held [] = [(id, held)] := by
  simp [runsFrom]

/-- A further item joins the open run or opens the next one. -/
theorem runsFrom_cons (id : ι) (held : List α) (id' : ι) (a : α) (rest : List (ι × α)) :
    runsFrom id held ((id', a) :: rest) =
      if id' == id then runsFrom id (held ++ [a]) rest
      else (id, held) :: runsFrom id' [a] rest := by
  cases h : id' == id with
  | true => simp [runsFrom, h]
  | false => simp [runsFrom, h, runs_cons]

theorem runsFrom_ne_nil (id : ι) (held : List α) (rest : List (ι × α)) :
    runsFrom id held rest ≠ [] := List.cons_ne_nil _ _

/-! ### Nothing is lost -/

theorem flatMap_runsFrom (id : ι) (held : List α) (rest : List (ι × α)) :
    (runsFrom id held rest).flatMap (·.2) = held ++ rest.map (·.2) := by
  induction rest generalizing id held with
  | nil => simp
  | cons item rest ih =>
      obtain ⟨id', a⟩ := item
      rw [runsFrom_cons]
      split
      · rw [ih, List.append_assoc]
        rfl
      · rw [List.flatMap_cons, ih]
        rfl

/-- The runs hold all that the items hold, in order. -/
theorem flatMap_runs (items : List (ι × α)) : (runs items).flatMap (·.2) = items.map (·.2) := by
  cases items with
  | nil => simp
  | cons item rest =>
      obtain ⟨id, a⟩ := item
      rw [runs_cons, flatMap_runsFrom]
      rfl

theorem ne_nil_of_mem_runsFrom {id : ι} {held : List α} {rest : List (ι × α)} (hheld : held ≠ [])
    {r : ι × List α} (hr : r ∈ runsFrom id held rest) : r.2 ≠ [] := by
  induction rest generalizing id held with
  | nil =>
      rw [runsFrom_nil, List.mem_singleton] at hr
      rw [hr]
      exact hheld
  | cons item rest ih =>
      obtain ⟨id', a⟩ := item
      rw [runsFrom_cons] at hr
      split at hr
      · exact ih (List.append_ne_nil_of_left_ne_nil hheld _) hr
      · rcases List.mem_cons.1 hr with rfl | hr
        · exact hheld
        · exact ih (List.cons_ne_nil _ _) hr

/-- No run is empty. -/
theorem ne_nil_of_mem_runs {items : List (ι × α)} {r : ι × List α} (hr : r ∈ runs items) :
    r.2 ≠ [] := by
  cases items with
  | nil => simp at hr
  | cons item rest =>
      obtain ⟨id, a⟩ := item
      rw [runs_cons] at hr
      exact ne_nil_of_mem_runsFrom (List.cons_ne_nil _ _) hr

/-- The id of a run is that of an item. -/
theorem exists_mem_of_mem_runs {items : List (ι × α)} {r : ι × List α} (hr : r ∈ runs items) :
    ∃ x ∈ items, x.1 = r.1 := by
  induction items using runs.induct with
  | case1 => simp at hr
  | case2 id a rest ih =>
      rw [runs_cons, runsFrom] at hr
      rcases List.mem_cons.1 hr with rfl | hr
      · exact ⟨(id, a), List.mem_cons_self .., rfl⟩
      · obtain ⟨x, hx, hid⟩ := ih hr
        exact ⟨x, List.mem_cons_of_mem _ ((List.dropWhile_sublist _).subset hx), hid⟩

/-- Ids that are told apart in the same way give the same runs. -/
theorem runs_map {κ β : Type} [BEq κ] {f : ι → κ} (hf : ∀ a b : ι, (f a == f b) = (a == b))
    (h : α → β) (items : List (ι × α)) :
    runs (items.map (Prod.map f h)) = (runs items).map (Prod.map f (List.map h)) := by
  induction items using runs.induct with
  | case1 => simp
  | case2 id a rest ih =>
      have hid : ((fun x : κ × β => x.1 == f id) ∘ Prod.map f h) = fun x : ι × α => x.1 == id := by
        funext x
        exact hf x.1 id
      rw [List.map_cons, Prod.map_apply, runs_cons, runs_cons, runsFrom, runsFrom, List.takeWhile_map,
        List.dropWhile_map, hid, ih]
      simp [Function.comp_def]

end

/-! ### Stretches of neighbours with equal ids -/

section

variable {ι α : Type} [BEq ι] [EquivBEq ι]

/-- Where equality of ids is an equivalence, the runs are the maximal stretches of items in which any two
neighbours have equal ids. -/
theorem runs_eq_splitBy (items : List (ι × α)) :
    runs items = (items.splitBy fun x y => x.1 == y.1).filterMap fun stretch =>
      stretch.head?.map fun x => (x.1, stretch.map (·.2)) := by
  induction items using runs.induct with
  | case1 => simp
  | case2 id a rest ih =>
      have hhead : ∀ x ∈ (id, a) :: rest.takeWhile (·.1 == id), (x.1 == id) = true := by
        intro x hx
        rcases List.mem_cons.1 hx with rfl | hx
        · exact BEq.rfl
        · exact List.all_eq_true.1 List.all_takeWhile x hx
      have hchain : ((id, a) :: rest.takeWhile (·.1 == id)).IsChain fun x y => (x.1 == y.1) = true := by
        refine (List.pairwise_of_forall_mem_list ?_).isChain
        intro x hx y hy
        exact BEq.trans (hhead x hx) (BEq.symm (hhead y hy))
      -- the stretch ends where an item with another id comes
      have hnext : ∀ x ∈ ((id, a) :: rest.takeWhile (·.1 == id)).getLast?,
          ∀ y ∈ (rest.dropWhile (·.1 == id)).head?, (x.1 == y.1) = false := by
        intro x hx y hy
        have hxid := hhead x (List.mem_of_mem_getLast? hx)
        have hyid := List.head?_dropWhile_not (fun z : ι × α => z.1 == id) rest
        rw [Option.mem_def.1 hy] at hyid
        rw [BEq.congr_left hxid, BEq.comm]
        exact hyid
      have hsplit : (((id, a) :: rest).splitBy fun x y => x.1 == y.1) =
          ((id, a) :: rest.takeWhile (·.1 == id)) ::
            (rest.dropWhile (·.1 == id)).splitBy fun x y => x.1 == y.1 := by
        have happend := List.splitBy_append hnext
        rw [List.splitBy_of_isChain (List.cons_ne_nil _ _) hchain, List.cons_append,
          List.takeWhile_append_dropWhile] at happend
        exact happend
      rw [runs_cons, runsFrom, ih, hsplit]
      rfl

end

/-! ### Streams in which the items of each id are next to each other -/

/-- Between two items of one id there is none of another. -/
def Adjacent {ι α : Type} (items : List (ι × α)) : Prop :=
  ∀ x y z, [x, y, z].Sublist items → x.1 = z.1 → y.1 = x.1

namespace Adjacent

section

variable {ι α : Type} {items : List (ι × α)}

theorem sublist {others : List (ι × α)} (h : Adjacent items) (hsub : others.Sublist items) :
    Adjacent others := fun x y z hxyz => h x y z (hxyz.trans hsub)

variable [BEq ι]

/-- What is left behind the first run. -/
theorem dropWhile {id : ι} {a : α} {rest : List (ι × α)} (h : Adjacent ((id, a) :: rest)) :
    Adjacent (rest.dropWhile (·.1 == id)) :=
  h.sublist ((List.dropWhile_sublist _).trans (List.sublist_cons_self _ _))

variable [LawfulBEq ι]

/-- Behind an item those of its id come first. -/
theorem takeWhile_dropWhile {id : ι} {a : α} {rest : List (ι × α)} (h : Adjacent ((id, a) :: rest)) :
    rest.takeWhile (·.1 == id) = rest.filter (·.1 == id) ∧
      rest.dropWhile (·.1 == id) = rest.filter (!·.1 == id) := by
  induction rest with
  | nil => exact ⟨rfl, rfl⟩
  | cons x rest ih =>
      obtain ⟨ihtake, ihdrop⟩ := ih (h.sublist (.cons_cons _ (List.sublist_cons_self x rest)))
      by_cases heq : x.1 = id
      · simp [heq, ihtake, ihdrop]
      · -- no item of the id comes behind one of another
        have hlater : ∀ y ∈ rest, y.1 ≠ id := by
          intro y hy hyid
          exact heq (h _ x y (.cons_cons _ (.cons_cons _ (List.singleton_sublist.2 hy))) hyid.symm)
        constructor
        · have hnone : rest.filter (·.1 == id) = [] := by
            rw [List.filter_eq_nil_iff]
            intro y hy hyid
            exact hlater y hy (beq_iff_eq.1 hyid)
          simp [heq, hnone]
        · have hsome : rest.filter (!·.1 == id) = rest := by
            rw [List.filter_eq_self]
            intro y hy
            rw [beq_eq_false_iff_ne.2 (hlater y hy)]
            rfl
          simp [heq, hsome]

/-- The runs have ids that all differ. -/
theorem pairwise_runs_ne (h : Adjacent items) : (runs items).Pairwise (·.1 ≠ ·.1) := by
  induction items using runs.induct with
  | case1 => simp
  | case2 id a rest ih =>
      rw [runs_cons, runsFrom]
      refine List.pairwise_cons.2 ⟨?_, ih h.dropWhile⟩
      intro r hr
      obtain ⟨x, hx, hid⟩ := exists_mem_of_mem_runs hr
      rw [h.takeWhile_dropWhile.2] at hx
      have hne : x.1 ≠ id := by simpa using (List.mem_filter.1 hx).2
      rw [← hid]
      exact hne.symm

/-- The runs are the ids, each with all that its items hold. -/
theorem mem_runs_iff (h : Adjacent items) (r : ι × List α) :
    r ∈ runs items ↔ r.2 ≠ [] ∧ r.2 = (items.filter (·.1 == r.1)).map (·.2) := by
  induction items using runs.induct with
  | case1 => simp
  | case2 id a rest ih =>
      obtain ⟨htake, hdrop⟩ := h.takeWhile_dropWhile
      have ih := ih h.dropWhile
      rw [runs_cons, runsFrom, List.mem_cons, ih, htake, hdrop]
      obtain ⟨id', held⟩ := r
      by_cases heq : id = id'
      · -- the items behind the run have other ids
        subst heq
        have hnone : (rest.filter (!·.1 == id)).filter (·.1 == id) = [] := by
          rw [List.filter_filter, List.filter_eq_nil_iff]
          simp
        simp only [hnone, List.map_nil, List.filter_cons, beq_self_eq_true, if_true, List.map_cons,
          Prod.mk.injEq, true_and]
        constructor
        · rintro (rfl | ⟨hne, hnil⟩)
          · exact ⟨List.cons_ne_nil _ _, rfl⟩
          · exact absurd hnil hne
        · rintro ⟨_, rfl⟩
          exact Or.inl rfl
      · have hsame : (rest.filter (!·.1 == id)).filter (·.1 == id') = rest.filter (·.1 == id') := by
          rw [List.filter_filter]
          refine List.filter_congr ?_
          intro x _
          by_cases hxid : x.1 = id'
          · simp [hxid, Ne.symm heq]
          · simp [hxid]
        simp [hsame, heq, Ne.symm heq]

end

/-- In ascending order items of one id are next to each other. -/
theorem of_ascending {ι α : Type} [LinearOrder ι] {items : List (ι × α)}
    (h : items.Pairwise (·.1 ≤ ·.1)) : Adjacent items := by
  intro x y z hsub hxz
  have hxyz : [x, y, z].Pairwise (·.1 ≤ ·.1) := h.sublist hsub
  obtain ⟨hx, hyz⟩ := List.pairwise_cons.1 hxyz
  have hxy : x.1 ≤ y.1 := hx y (List.mem_cons_self ..)
  have hyx : y.1 ≤ z.1 := (List.pairwise_cons.1 hyz).1 z (List.mem_cons_self ..)
  exact le_antisymm (hyx.trans_eq hxz.symm) hxy

end Adjacent

/-- Of an ascending stream, the runs have strictly ascending ids. -/
theorem pairwise_runs {ι α : Type} [BEq ι] [LawfulBEq ι] [LinearOrder ι] {items : List (ι × α)}
    (h : items.Pairwise (·.1 ≤ ·.1)) : (runs items).Pairwise (·.1 < ·.1) := by
  induction items using runs.induct with
  | case1 => simp
  | case2 id a rest ih =>
      have hadjacent := Adjacent.of_ascending h
      have hne := hadjacent.pairwise_runs_ne
      obtain ⟨hle, hrest⟩ := List.pairwise_cons.1 h
      rw [runs_cons, runsFrom] at hne ⊢
      refine List.pairwise_cons.2 ⟨?_, ih (hrest.sublist (List.dropWhile_sublist _))⟩
      intro r hr
      obtain ⟨x, hx, hid⟩ := exists_mem_of_mem_runs hr
      have hidle : id ≤ r.1 := hid ▸ hle x ((List.dropWhile_sublist _).subset hx)
      exact lt_of_le_of_ne hidle ((List.pairwise_cons.1 hne).1 r hr)

end CpeMatch
