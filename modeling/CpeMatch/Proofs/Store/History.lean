import CpeMatch.Proofs.Store.Reloading

/-!
**No store answers from a load that has not come to its end.**

A load that fails leaves what it has taken in so far in the store, but the store does not count as loaded:
it is loaded again before it gives its next answer.  So it does not matter in what order a store is loaded,
added to and asked, which of this fails, and what becomes of the files in the meantime.

Main definitions:

* `CpeMatch.Store.Query` — what a store can be asked;
* `CpeMatch.Store.Deed` — what can be done to a store, and `CpeMatch.Store.Deed.runAll`, one deed after
  another;
* `CpeMatch.Store.Deed.allPasses` — how the loads end that this comes with;
* `CpeMatch.Store.Counts` — what a store has kept of them.

Main results:

* `CpeMatch.Store.Counts.run`, `CpeMatch.Store.Counts.runAll` — each load is counted once, and none that has
  failed counts as one;
* `CpeMatch.Store.ask_after_deeds` — **answers come from whole loads**.
-/

set_option autoImplicit false

namespace CpeMatch.Store

open Files Timing

/-! ### Queries -/

/-- What a store can be asked. -/
inductive Query where
  | records (vendor product : Json)
  | vulnerability (id : Json)
  | cpes (vendor product : Json)
  | products
  | hasData
  | stats

namespace Query

/-- What a query is answered with. -/
def Answer : Query → Type
  | records .. => List SoftwareRecord
  | vulnerability _ => Option Vulnerability
  | cpes .. => List Text
  | products => List (Text × Text)
  | hasData => Bool
  | stats => Stats

/-- Poses the query to a store, which is loaded first if need be. -/
def pose (tree : Tree) : (q : Query) → StoreTask q.Answer
  | records vendor product => askProduct tree vendor product Store.records
  | vulnerability id => ask tree (·.get? id)
  | cpes vendor product => askProduct tree vendor product fun s v p => .ok (s.cpes v p)
  | products => ask tree fun s => .ok s.products
  | hasData => ask tree fun s => .ok s.hasData
  | stats => ask tree fun s => .ok s.stats

/-- The answer that a store gives about a product, whose vendor and name have to be texts. -/
def ofProduct {α : Type} (vendor product : Json) (answer : Store → Text → Text → Except Fault α)
    (s : Store) : Except Fault α :=
  match vendor, product with
  | .string v, .string p => answer s v p
  | _, _ => .error .notText

/-- The answer that a store as it stands gives to the query. -/
def answer : (q : Query) → Store → Except Fault q.Answer
  | records vendor product => ofProduct vendor product Store.records
  | vulnerability id => (·.get? id)
  | cpes vendor product => ofProduct vendor product fun s v p => .ok (s.cpes v p)
  | products => fun s => .ok s.products
  | hasData => fun s => .ok s.hasData
  | stats => fun s => .ok s.stats

theorem pose_eq_ask (tree : Tree) (q : Query) : q.pose tree = ask tree q.answer := by
  cases q <;> rfl

end Query

/-! ### Deeds -/

/-- What can be done to a store, with the files as they are at the time. -/
inductive Deed where
  | load (tree : Tree)
  | add (v : Vulnerability)
  | pose (tree : Tree) (q : Query)

namespace Deed

/-- The session after a deed, which may have failed. -/
def run (session : Session Float Store) : Deed → Session Float Store
  | load tree => ((Store.load tree).start session).2
  | add v => ((addOne v).start session).2
  | pose tree q => ((q.pose tree).start session).2

/-- Adding a vulnerability leaves it added, also where this ends with a fault. -/
theorem state_run_add (session : Session Float Store) (v : Vulnerability) :
    (run session (.add v)).state = (session.state.add v).store := by
  rw [run, addOne, Task.start_bind (Task.start_state session), start_accept]

/-- How the load ends that a deed comes with, if there is one. -/
def passes (session : Session Float Store) : Deed → List (Except Fault Nat)
  | load tree => [((Store.load tree).start session).1]
  | add _ => []
  | pose tree _ => if session.state.loaded then [] else [((Store.load tree).start session).1]

/-- The session after one deed after another. -/
def runAll (session : Session Float Store) : List Deed → Session Float Store
  | [] => session
  | d :: rest => runAll (d.run session) rest

/-- How the loads end that deeds come with, from the first to the last. -/
def allPasses (session : Session Float Store) : List Deed → List (Except Fault Nat)
  | [] => []
  | d :: rest => d.passes session ++ allPasses (d.run session) rest

end Deed

/-! ### What a store keeps of its loads -/

/-- The store, for the data at a place, has kept the record of each load, and counts as loaded if one of
them has come to its end. -/
structure Counts (config : Config) (passes : List (Except Fault Nat)) (s : Store) : Prop where
  config_eq : s.config = some config
  enabled : s.monitor.enabled = true
  loaded_iff : s.loaded = true ↔ ∃ n, Except.ok n ∈ passes
  metrics_eq : s.monitor.metrics.toList.map Metric.counted =
    passes.map fun pass => (("load" : Text), Task.itemsOf id pass)

namespace Counts

variable {config : Config} {passes : List (Except Fault Nat)} {session : Session Float Store}

theorem empty (config : Config) : Counts config [] (empty (some config)) where
  config_eq := rfl
  enabled := rfl
  loaded_iff := by simp [Store.empty]
  metrics_eq := rfl

/-- What is done to the data alone is no load. -/
theorem of_sameButData {s t : Store} (hs : Counts config passes s) (h : s.SameButData t) :
    Counts config passes t where
  config_eq := h.config_eq.trans hs.config_eq
  enabled := by rw [h.monitor_eq, hs.enabled]
  loaded_iff := by rw [h.loaded_eq, hs.loaded_iff]
  metrics_eq := by rw [h.monitor_eq, hs.metrics_eq]

/-- A load is counted, whether it comes to its end or not. -/
theorem load (h : Counts config passes session.state) (tree : Tree) :
    Counts config (passes ++ [((Store.load tree).start session).1])
      ((Store.load tree).start session).2.state := by
  obtain ⟨metric, hmetric, hend⟩ := load_cases h.config_eq tree
  have htaken := h.of_sameButData (sameButData_absorbPath tree session.state config)
  have hmetrics : ((absorbPath tree session.state config).store.monitor.record metric).metrics.toList.map
      Metric.counted = (passes ++ [((Store.load tree).start session).1]).map
        fun pass => (("load" : Text), Task.itemsOf id pass) := by
    rw [Monitor.metrics_record metric htaken.enabled, List.map_append, htaken.metrics_eq, List.map_append,
      List.map_singleton, List.map_singleton, hmetric]
  have henabled := (Monitor.enabled_record metric _).trans htaken.enabled
  rcases hend with ⟨f, _, hpass, hstate⟩ | ⟨_, hpass, hstate⟩
  · rw [hstate]
    refine ⟨htaken.config_eq, henabled, htaken.loaded_iff.trans ?_, hmetrics⟩
    -- a load that has failed is none that has come to its end
    simp [hpass]
  · rw [hstate]
    refine ⟨htaken.config_eq, henabled, ?_, hmetrics⟩
    simp [hpass]

/-- **One deed**, with the load that it comes with. -/
theorem run (h : Counts config passes session.state) (d : Deed) :
    Counts config (passes ++ d.passes session) (d.run session).state := by
  cases d with
  | load tree => exact h.load tree
  | add v =>
      rw [Deed.passes, List.append_nil, Deed.state_run_add]
      exact h.of_sameButData (sameButData_add session.state v)
  | pose tree q =>
      rw [Deed.passes, Deed.run, q.pose_eq_ask]
      cases hloaded : session.state.loaded with
      | true =>
          rw [start_ask tree q.answer hloaded, if_pos rfl, List.append_nil]
          exact h
      | false =>
          have hload := h.load tree
          rw [start_ask_unloaded tree q.answer hloaded, if_neg Bool.false_ne_true]
          -- the load leaves the same whether the query is answered after it or not
          cases hpass : (Store.load tree).start session with
          | mk result session₁ =>
            rw [hpass] at hload
            cases result with
            | error f => exact hload
            | ok n => exact hload

/-- **One deed after another**, with the loads that they come with. -/
theorem runAll (h : Counts config passes session.state) (deeds : List Deed) :
    Counts config (passes ++ Deed.allPasses session deeds) (Deed.runAll session deeds).state := by
  induction deeds generalizing session passes with
  | nil => simpa [Deed.allPasses, Deed.runAll] using h
  | cons d rest ih =>
      rw [Deed.allPasses, Deed.runAll, ← List.append_assoc]
      exact ih (h.run d)

end Counts

/-- **Answers come from whole loads.**  A store for the data at a path is loaded, added to and asked in any
order, and the files may change at any time.  As long as no load has come to its end, a store that is asked
is loaded first; where this meets a fault, the fault is all that comes of asking, and the store still does
not count as loaded, and where it meets none, the answer is that of the store with the data of all its files
taken in.  Once a load has come to its end, a store that is asked answers at once from what it holds.  There
is exactly one record of each load, and it says with how many vulnerabilities the load has come to its
end. -/
theorem ask_after_deeds {config : Config} {session : Session Float Store}
    (hsession : session.state = empty (some config)) (deeds : List Deed) :
    let after := Deed.runAll session deeds
    let passes := Deed.allPasses session deeds
    (after.state.loaded = true ↔ ∃ n, Except.ok n ∈ passes) ∧
    ((∀ n, Except.ok n ∉ passes) → ∀ (tree : Tree) (q : Query),
      let pass := (load tree).start after
      let taken := absorbPath tree after.state config
      (∃ f, taken.fault = some f ∧ pass.1 = .error f ∧ pass.2.state.loaded = false ∧
        (q.pose tree).start after = (.error f, pass.2)) ∨
      (taken.fault = none ∧ pass.1 = .ok taken.store.held.size ∧ pass.2.state.loaded = true ∧
        pass.2.state.held = taken.store.held ∧ pass.2.state.index = taken.store.index ∧
        (q.pose tree).start after = (q.answer pass.2.state, pass.2))) ∧
    (∀ n, Except.ok n ∈ passes → ∀ (tree : Tree) (q : Query),
      (q.pose tree).start after = (q.answer after.state, after)) ∧
    after.state.monitor.metrics.toList.map Metric.counted =
      passes.map fun pass => (("load" : Text), Task.itemsOf id pass) := by
  intro after passes
  have hstart : Counts config [] session.state := by
    rw [hsession]
    exact .empty config
  have hafter : Counts config passes after.state := hstart.runAll deeds
  refine ⟨hafter.loaded_iff, ?_, ?_, hafter.metrics_eq⟩
  · intro hnone tree q pass taken
    have hunloaded : after.state.loaded = false := by
      rw [← Bool.not_eq_true, hafter.loaded_iff]
      rintro ⟨n, hn⟩
      exact hnone n hn
    have hask := start_ask_unloaded tree q.answer hunloaded
    have htaken : taken.store.loaded = false :=
      (sameButData_absorbPath tree after.state config).loaded_eq.trans hunloaded
    have hpass : (load tree).start after = (pass.1, pass.2) := rfl
    obtain ⟨metric, _, ⟨f, hfault, hresult, hstate⟩ | ⟨hfault, hresult, hstate⟩⟩ :=
      load_cases hafter.config_eq tree
    · refine Or.inl ⟨f, hfault, hresult, by rw [hstate]; exact htaken, ?_⟩
      rw [q.pose_eq_ask, hask, hpass, hresult]
    · refine Or.inr ⟨hfault, hresult, by rw [hstate], by rw [hstate]; rfl, by rw [hstate]; rfl, ?_⟩
      rw [q.pose_eq_ask, hask, hpass, hresult]
  · intro n hn tree q
    rw [q.pose_eq_ask]
    exact start_ask tree q.answer (hafter.loaded_iff.2 ⟨n, hn⟩)

/-- The folder of `oneFile` with a file in it that makes every load fail. -/
def spoiltFile : Tree := oneFile.put (oneFolder.child "b.json") (.file longNumber)

/-- A store is asked while a file makes its loads fail, and again when the file is gone.  The first load is
recorded as one with nothing, the second answers. -/
theorem ask_after_deeds_spoiltFile :
    let after := (Deed.pose spoiltFile .stats).run oneFileSession
    after.state.loaded = false ∧
      after.state.monitor.metrics.toList.map Metric.counted = [(("load" : Text), .whole 0)] ∧
      ∃ n session₁, (load oneFile).start after = (.ok n, session₁) ∧
        (Query.stats.pose oneFile).start after = (.ok session₁.state.stats, session₁) := by
  intro after
  have hstart : oneFileSession.state = empty (some ⟨Path.parse "db", "*.json"⟩) := rfl
  obtain ⟨_, _, _, session₂, hfails⟩ := load_of_longNumber
  have hpasses : Deed.allPasses oneFileSession [.pose spoiltFile .stats] = [.error (.longInteger 4301)] := by
    change [((load spoiltFile).start oneFileSession).1] = _
    rw [spoiltFile, hfails]
  obtain ⟨hloaded, hasked, _, hmetrics⟩ := ask_after_deeds hstart [.pose spoiltFile .stats]
  rw [hpasses] at hloaded hasked hmetrics
  refine ⟨Bool.eq_false_iff.2 (hloaded.not.2 (by simp)), hmetrics, ?_⟩
  rcases hasked (by simp) oneFile .stats with ⟨f, hfault, _⟩ | ⟨_, hresult, _, _, _, hanswer⟩
  · rw [fault_absorbPath_oneFile] at hfault
    cases hfault
  · exact ⟨_, _, Prod.ext hresult rfl, hanswer⟩

end CpeMatch.Store
